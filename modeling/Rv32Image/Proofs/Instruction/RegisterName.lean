/-
The numbers that names of registers say, apart from the table of names.
-/

import Rv32Image.Instruction.Register

namespace Rv32Image

namespace Register

def ofNumber (number : Word) : Register :=
  .ofNat number.toNat

@[simp]
theorem ofNumber_number (register : Register) : ofNumber register.number = register := by
  cases register <;> rfl

theorem toNat_number_inj {register other : Register} :
    register.number.toNat = other.number.toNat ↔ register = other := by
  constructor
  · intro same
    rw [← ofNumber_number register, BitVec.eq_of_toNat_eq same, ofNumber_number]
  · exact congrArg fun register : Register => register.number.toNat

/-- Names of a letter and an index for registers one behind another. -/
structure NameRun where
  letter : String
  firstIndex : Nat
  firstNumber : Nat
  count : Nat

def nameRuns : List NameRun :=
  [⟨"x", 0, 0, 32⟩, ⟨"t", 0, 5, 3⟩, ⟨"s", 0, 8, 2⟩, ⟨"a", 0, 10, 8⟩, ⟨"s", 2, 18, 10⟩,
    ⟨"t", 3, 28, 4⟩]

def wordNames : List (String × Nat) :=
  [("zero", 0), ("ra", 1), ("sp", 2), ("gp", 3), ("tp", 4), ("fp", 8)]

def NamesNumber (name : String) (number : Nat) : Prop :=
  (name, number) ∈ wordNames ∨
    ∃ run ∈ nameRuns, ∃ index < run.count,
      name = run.letter ++ toString (run.firstIndex + index) ∧ number = run.firstNumber + index

instance (name : String) (number : Nat) : Decidable (NamesNumber name number) :=
  inferInstanceAs (Decidable (_ ∨ _))

theorem namesNumber_of_mem :
    ∀ entry ∈ numberedNames ++ conventionNames, NamesNumber entry.1 entry.2.number.toNat := by
  decide

theorem ofName?_of_mem_wordNames :
    ∀ entry ∈ wordNames,
      (ofName? entry.1).map (fun register => register.number.toNat) = some entry.2 := by
  decide

theorem ofName?_of_mem_nameRuns :
    ∀ run ∈ nameRuns, ∀ index < run.count,
      (ofName? (run.letter ++ toString (run.firstIndex + index))).map
          (fun register => register.number.toNat) =
        some (run.firstNumber + index) := by
  decide

theorem exists_of_namesNumber {name : String} {number : Nat} (named : NamesNumber name number) :
    ∃ register, ofName? name = some register ∧ register.number.toNat = number := by
  have known : (ofName? name).map (fun register => register.number.toNat) = some number := by
    rcases named with listed | ⟨run, listed, index, small, rfl, rfl⟩
    · exact ofName?_of_mem_wordNames _ listed
    · exact ofName?_of_mem_nameRuns run listed index small
  exact Option.map_eq_some_iff.mp known

theorem ofName?_eq_some_iff (name : String) (register : Register) :
    ofName? name = some register ↔ NamesNumber name register.number.toNat := by
  constructor
  · intro known
    obtain ⟨before, after, split, _⟩ := List.lookup_eq_some_iff.mp known
    refine namesNumber_of_mem (name, register) ?_
    rw [split]
    exact List.mem_append_right _ List.mem_cons_self
  · intro named
    obtain ⟨other, known, same⟩ := exists_of_namesNumber named
    rw [known, toNat_number_inj.mp same]

end Register

end Rv32Image
