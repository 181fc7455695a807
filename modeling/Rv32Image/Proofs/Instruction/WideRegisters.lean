/-
Words of registers with numbers above 31, whose excess falls on the bits above the
field.
-/

import Rv32Image.Proofs.Instruction.Field

namespace Rv32Image

namespace Word

theorem getLsbD_remainder (number : Word) (index : Nat) :
    (number % 32).getLsbD index = (decide (index < 5) && number.getLsbD index) := by
  have remainder : (number % 32).toNat = number.toNat % 2 ^ 5 := BitVec.toNat_umod
  rw [BitVec.getLsbD, remainder, Nat.testBit_mod_two_pow, ← BitVec.getLsbD]

theorem remainder_or_quotient (number : Word) :
    (number % 32 : Word) ||| (number >>> 5) <<< 5 = number := by
  apply BitVec.eq_of_getLsbD_eq
  intro index small
  rw [BitVec.getLsbD_or, getLsbD_remainder, BitVec.getLsbD_shiftLeft, BitVec.getLsbD_ushiftRight]
  by_cases inField : index < 5
  · simp [inField]
  · have place : 5 + (index - 5) = index := by omega
    simp [inField, place, small]

/-- The remainder of a number fills its field, and the quotient falls five places above. -/
theorem shifted_eq_join (number : Word) (shift : Nat) :
    number <<< shift = (number % 32) <<< shift ||| (number >>> 5) <<< (5 + shift) := by
  rw [BitVec.shiftLeft_add, ← BitVec.shiftLeft_or_distrib, remainder_or_quotient]

theorem destination_eq_join (number : Word) :
    number <<< 7 = (number % 32) <<< 7 ||| (number >>> 5) <<< 12 :=
  shifted_eq_join number 7

theorem source1_eq_join (number : Word) :
    number <<< 15 = (number % 32) <<< 15 ||| (number >>> 5) <<< 20 :=
  shifted_eq_join number 15

theorem source2_eq_join (number : Word) :
    number <<< 20 = (number % 32) <<< 20 ||| (number >>> 5) <<< 25 :=
  shifted_eq_join number 20

theorem low_run_of_destination {number other : Word} (same : other % 32 = number % 32) :
    (other <<< 7).extractLsb' 0 12 = (number <<< 7).extractLsb' 0 12 := by
  rw [destination_eq_join other, destination_eq_join number, same, BitVec.extractLsb'_or,
    BitVec.extractLsb'_or, run_below_shifted (number >>> 5) (by decide),
    run_below_shifted (other >>> 5) (by decide)]

end Word

namespace Form

open Word

/-! ### The words of the remainders -/

section Joins

variable (funct7 source2 source1 funct3 destination opcode : Word) (value : Int)

theorem register_eq_join :
    register funct7 source2 source1 funct3 destination opcode =
      register funct7 (source2 % 32) (source1 % 32) funct3 (destination % 32) opcode |||
        (destination >>> 5) <<< 12 ||| (source1 >>> 5) <<< 20 ||| (source2 >>> 5) <<< 25 := by
  rw [register, destination_eq_join destination, source1_eq_join source1, source2_eq_join source2,
    register]
  grind only

theorem immediate_eq_join :
    immediate value source1 funct3 destination opcode =
      immediate value (source1 % 32) funct3 (destination % 32) opcode |||
        (destination >>> 5) <<< 12 ||| (source1 >>> 5) <<< 20 := by
  rw [immediate, destination_eq_join destination, source1_eq_join source1, immediate]
  grind only

theorem store_eq_join :
    store value source2 source1 funct3 =
      store value (source2 % 32) (source1 % 32) funct3 |||
        (source1 >>> 5) <<< 20 ||| (source2 >>> 5) <<< 25 := by
  rw [store, source1_eq_join source1, source2_eq_join source2, store]
  grind only

theorem branch_eq_join :
    branch value source2 source1 funct3 =
      branch value (source2 % 32) (source1 % 32) funct3 |||
        (source1 >>> 5) <<< 20 ||| (source2 >>> 5) <<< 25 := by
  rw [branch, source1_eq_join source1, source2_eq_join source2, branch]
  grind only

theorem upper_eq_join (upperValue : Word) :
    upper upperValue destination opcode =
      upper upperValue (destination % 32) opcode ||| (destination >>> 5) <<< 12 := by
  rw [upper, destination_eq_join destination, upper]
  grind only

theorem jump_eq_join :
    jump value destination = jump value (destination % 32) ||| (destination >>> 5) <<< 12 := by
  rw [jump, destination_eq_join destination, jump]
  grind only

end Joins

/-! ### The low bits of a word -/

section LowBits

variable (funct7 source2 source1 funct3 destination : Word) (value : Int)

attribute [local simp] BitVec.extractLsb'_or run_of_shifted run_below_shifted run_of_field
  run_above_field

theorem low_register (opcode : BitVec 7) :
    let word := register funct7 source2 source1 funct3 destination (ofField opcode)
    word.opcode = opcode ∧ word.destination.toNat = destination.toNat % 32 := by
  simp (disch := decide) [register, Word.opcode, Word.destination]

theorem low_immediate (opcode : BitVec 7) :
    let word := immediate value source1 funct3 destination (ofField opcode)
    word.opcode = opcode ∧ word.destination.toNat = destination.toNat % 32 := by
  simp (disch := decide) [immediate, Word.opcode, Word.destination]

theorem low_upper (opcode : BitVec 7) (upperValue : Word) :
    let word := upper upperValue destination (ofField opcode)
    word.opcode = opcode ∧ word.destination.toNat = destination.toNat % 32 := by
  simp (disch := decide) [upper, Word.opcode, Word.destination]

theorem low_jump :
    let word := jump value destination
    word.opcode = 0x6F#7 ∧ word.destination.toNat = destination.toNat % 32 := by
  simp (disch := decide) [jump, Opcode.jal, Word.opcode, Word.destination]

theorem opcode_store : (store value source2 source1 funct3).opcode = 0x23#7 := by
  simp (disch := decide) [store, Opcode.store, Word.opcode]

theorem opcode_branch : (branch value source2 source1 funct3).opcode = 0x63#7 := by
  simp (disch := decide) [branch, Opcode.branch, Word.opcode]

end LowBits

section LowRuns

variable {funct7 source2 source1 funct3 destination opcode upperValue : Word} {value : Int}
variable {other2 other1 other : Word}

theorem low_run_register (same : other % 32 = destination % 32) :
    (register funct7 other2 other1 funct3 other opcode).extractLsb' 0 12 =
      (register funct7 source2 source1 funct3 destination opcode).extractLsb' 0 12 := by
  simp (disch := decide) only [register, BitVec.extractLsb'_or, run_below_shifted,
    low_run_of_destination same]

theorem low_run_immediate (same : other % 32 = destination % 32) :
    (immediate value other1 funct3 other opcode).extractLsb' 0 12 =
      (immediate value source1 funct3 destination opcode).extractLsb' 0 12 := by
  simp (disch := decide) only [immediate, BitVec.extractLsb'_or, run_below_shifted,
    low_run_of_destination same]

theorem low_run_store :
    (store value other2 other1 funct3).extractLsb' 0 12 =
      (store value source2 source1 funct3).extractLsb' 0 12 := by
  simp (disch := decide) only [store, BitVec.extractLsb'_or, run_below_shifted]

theorem low_run_branch :
    (branch value other2 other1 funct3).extractLsb' 0 12 =
      (branch value source2 source1 funct3).extractLsb' 0 12 := by
  simp (disch := decide) only [branch, BitVec.extractLsb'_or, run_below_shifted]

theorem low_run_upper (same : other % 32 = destination % 32) :
    (upper upperValue other opcode).extractLsb' 0 12 =
      (upper upperValue destination opcode).extractLsb' 0 12 := by
  simp only [upper, BitVec.extractLsb'_or, low_run_of_destination same]

theorem low_run_jump (same : other % 32 = destination % 32) :
    (jump value other).extractLsb' 0 12 = (jump value destination).extractLsb' 0 12 := by
  simp only [jump, BitVec.extractLsb'_or, low_run_of_destination same]

end LowRuns

/-- The word of a form is the one for its register numbers modulo 32, joined with what these
leave out of each number.  The opcode and the destination are never touched. -/
theorem registers_spill_upward (funct7 source2 source1 funct3 destination opcode : Word)
    (opcodeFits : opcode.toNat < 128) (value : Int) (upperValue : Word) :
    (let word := register funct7 source2 source1 funct3 destination opcode
     word = register funct7 (source2 % 32) (source1 % 32) funct3 (destination % 32) opcode |||
         (destination >>> 5) <<< 12 ||| (source1 >>> 5) <<< 20 ||| (source2 >>> 5) <<< 25 ∧
       word.opcode.toNat = opcode.toNat ∧ word.destination.toNat = destination.toNat % 32 ∧
       ∀ other2 other1 other : Word, other % 32 = destination % 32 →
         (register funct7 other2 other1 funct3 other opcode).extractLsb' 0 12 =
           word.extractLsb' 0 12) ∧
    (let word := immediate value source1 funct3 destination opcode
     word = immediate value (source1 % 32) funct3 (destination % 32) opcode |||
         (destination >>> 5) <<< 12 ||| (source1 >>> 5) <<< 20 ∧
       word.opcode.toNat = opcode.toNat ∧ word.destination.toNat = destination.toNat % 32 ∧
       ∀ other1 other : Word, other % 32 = destination % 32 →
         (immediate value other1 funct3 other opcode).extractLsb' 0 12 =
           word.extractLsb' 0 12) ∧
    (let word := store value source2 source1 funct3
     word = store value (source2 % 32) (source1 % 32) funct3 |||
         (source1 >>> 5) <<< 20 ||| (source2 >>> 5) <<< 25 ∧
       word.opcode = 0x23#7 ∧
       ∀ other2 other1 : Word,
         (store value other2 other1 funct3).extractLsb' 0 12 = word.extractLsb' 0 12) ∧
    (let word := branch value source2 source1 funct3
     word = branch value (source2 % 32) (source1 % 32) funct3 |||
         (source1 >>> 5) <<< 20 ||| (source2 >>> 5) <<< 25 ∧
       word.opcode = 0x63#7 ∧
       ∀ other2 other1 : Word,
         (branch value other2 other1 funct3).extractLsb' 0 12 = word.extractLsb' 0 12) ∧
    (let word := upper upperValue destination opcode
     word = upper upperValue (destination % 32) opcode ||| (destination >>> 5) <<< 12 ∧
       word.opcode.toNat = opcode.toNat ∧ word.destination.toNat = destination.toNat % 32 ∧
       ∀ other : Word, other % 32 = destination % 32 →
         (upper upperValue other opcode).extractLsb' 0 12 = word.extractLsb' 0 12) ∧
    (let word := jump value destination
     word = jump value (destination % 32) ||| (destination >>> 5) <<< 12 ∧
       word.opcode = 0x6F#7 ∧ word.destination.toNat = destination.toNat % 32 ∧
       ∀ other : Word, other % 32 = destination % 32 →
         (jump value other).extractLsb' 0 12 = word.extractLsb' 0 12) := by
  obtain ⟨opcode, rfl⟩ := exists_ofField_of_lt (show opcode.toNat < 2 ^ 7 from opcodeFits)
  rw [toNat_ofField (by decide)]
  refine ⟨?_, ?_, ?_, ?_, ?_, ?_⟩
  · obtain ⟨opcodeAt, destinationAt⟩ :=
      low_register funct7 source2 source1 funct3 destination opcode
    exact ⟨register_eq_join .., congrArg BitVec.toNat opcodeAt, destinationAt,
      fun _ _ _ same => low_run_register same⟩
  · obtain ⟨opcodeAt, destinationAt⟩ := low_immediate source1 funct3 destination value opcode
    exact ⟨immediate_eq_join .., congrArg BitVec.toNat opcodeAt, destinationAt,
      fun _ _ same => low_run_immediate same⟩
  · exact ⟨store_eq_join .., opcode_store .., fun _ _ => low_run_store⟩
  · exact ⟨branch_eq_join .., opcode_branch .., fun _ _ => low_run_branch⟩
  · obtain ⟨opcodeAt, destinationAt⟩ := low_upper destination opcode upperValue
    exact ⟨upper_eq_join .., congrArg BitVec.toNat opcodeAt, destinationAt,
      fun _ same => low_run_upper same⟩
  · obtain ⟨opcodeAt, destinationAt⟩ := low_jump destination value
    exact ⟨jump_eq_join .., opcodeAt, destinationAt, fun _ same => low_run_jump same⟩

theorem registers_spill_upward_into_codes :
    (0x33 : Word).toNat < 128 ∧
      register 0 66 33 0 95 0x33 = register 2 3 1 2 31 0x33 ∧
      (register 0 66 33 0 95 0x33).destination.toNat = 31 ∧
      (register 0 2 1 0 31 0x33).extractLsb' 0 12 =
        (register 0 66 33 0 95 0x33).extractLsb' 0 12 := by
  obtain ⟨⟨joined, _, destinationAt, low⟩, _⟩ :=
    registers_spill_upward 0 66 33 0 95 0x33 (by decide) 0 0
  refine ⟨by decide, ?_, destinationAt, low 2 1 31 (by decide)⟩
  rw [joined]
  decide

end Form

end Rv32Image
