/-
Programs in memory.  The rules for single instructions are meant to be applied
backwards: the machine stops well before one if it does so behind it.
-/

import Rv32Image.Proofs.Assembly.LineMeaning
import Rv32Image.Proofs.Machine.Basic

namespace Rv32Image

/-! ### Stopping -/

namespace Machine

/-- The machine stands before four bytes of the code. -/
def Inside (start : Word) (code : List UInt8) (machine : Machine) : Prop :=
  ∃ offset, offset + 4 ≤ code.length ∧ machine.counter = start + BitVec.ofNat 32 offset

/-- The machine stops after finitely many steps, with registers that meet the goal.  Until
then it never leaves the code, nor memory the frame. -/
def StopsInside (start : Word) (code : List UInt8) (Frame : Memory → Prop)
    (Goal : RegisterFile → Prop) (machine : Machine) : Prop :=
  ∃ final,
    Reaches (fun between => between.Inside start code ∧ Frame between.memory) machine final ∧
      final.step = .stopped ∧ Goal final.registers

end Machine

/-- A place of the program in every memory of a frame. -/
structure Placed (program : List Instruction) where
  start : Word
  aligned : start.toNat % 4 = 0
  Frame : Memory → Prop
  holds : ∀ memory, Frame memory → memory.HoldsAt start (Instruction.code program)
  inRange : ∀ instruction ∈ program, instruction.InRange

namespace Placed

variable {program : List Instruction} (placed : Placed program)

abbrev Storage : Type := { memory : Memory // placed.Frame memory }

def place (index : Nat) : Word :=
  placed.start + BitVec.ofNat 32 (4 * index)

def before (index : Nat) (registers : RegisterFile) (storage : placed.Storage) : Machine where
  registers := registers
  memory := storage.val
  counter := placed.place index

/-- The machine before an instruction stops well. -/
def Stops (Goal : RegisterFile → Prop) (index : Nat) (registers : RegisterFile)
    (storage : placed.Storage) : Prop :=
  (placed.before index registers storage).StopsInside placed.start (Instruction.code program)
    placed.Frame Goal

theorem place_aligned (index : Nat) : (placed.place index).toNat % 4 = 0 := by
  have aligned := placed.aligned
  rw [place, BitVec.toNat_add, BitVec.toNat_ofNat]
  omega

theorem place_add_distance {source target : Nat} {distance : Int}
    (lands : 4 * (source : Int) + distance = 4 * target) :
    placed.place source + BitVec.ofInt 32 distance = placed.place target := by
  have indices : BitVec.ofNat 32 (4 * source) + BitVec.ofInt 32 distance =
      BitVec.ofNat 32 (4 * target) := by
    rw [← BitVec.ofInt_natCast, ← BitVec.ofInt_natCast, ← BitVec.ofInt_add, Int.natCast_mul,
      Int.natCast_mul]
    exact congrArg _ lands
  rw [place, place, BitVec.add_assoc, indices]

theorem place_add_four (index : Nat) : placed.place index + 4 = placed.place (index + 1) := by
  have lands : 4 * (index : Int) + 4 = 4 * (index + 1 : Nat) := by omega
  exact placed.place_add_distance lands

theorem place_even (index : Nat) : placed.place index >>> 1 <<< 1 = placed.place index := by
  have aligned := placed.place_aligned index
  apply BitVec.eq_of_toNat_eq
  rw [BitVec.toNat_shiftLeft, BitVec.toNat_ushiftRight, Nat.shiftRight_eq_div_pow,
    Nat.shiftLeft_eq]
  have small := (placed.place index).isLt
  omega

theorem step_before {index : Nat} {instruction : Instruction}
    (present : program[index]? = some instruction) (registers : RegisterFile)
    (storage : placed.Storage) :
    (placed.before index registers storage).step =
      (placed.before index registers storage).perform instruction := by
  obtain ⟨inside, _⟩ := List.getElem?_eq_some_iff.mp present
  have encoded : (program.map Instruction.encode)[index]? = some instruction.encode := by
    rw [List.getElem?_map, present, Option.map_some]
  have fetched : storage.val.word (placed.place index) = instruction.encode := by
    rw [place, (placed.holds _ storage.property).word_eq_wordAt
      (by rw [Instruction.length_code]; omega)]
    exact Word.wordAt_flatMap_bytes encoded
  have decoded := Instruction.decode?_encode (placed.inRange _ (List.mem_of_getElem? present))
  have aligned := placed.place_aligned index
  simp only [Machine.step, before, if_pos aligned, fetched, decoded, Machine.perform_canonical]

theorem before_inside {index : Nat} {instruction : Instruction}
    (present : program[index]? = some instruction) (registers : RegisterFile)
    (storage : placed.Storage) :
    (placed.before index registers storage).Inside placed.start (Instruction.code program) := by
  obtain ⟨inside, _⟩ := List.getElem?_eq_some_iff.mp present
  refine ⟨4 * index, ?_, rfl⟩
  rw [Instruction.length_code]
  omega

theorem stopsInside_of_stops {machine : Machine} (there : machine.counter = placed.start)
    (begins : placed.Frame machine.memory) {Goal : RegisterFile → Prop}
    (stops : placed.Stops Goal 0 machine.registers ⟨machine.memory, begins⟩) :
    machine.StopsInside placed.start (Instruction.code program) placed.Frame Goal := by
  have first : placed.place 0 = machine.counter := by
    rw [there]
    exact BitVec.add_zero placed.start
  have same : placed.before 0 machine.registers ⟨machine.memory, begins⟩ = machine := by
    rw [before, first]
  rw [← same]
  exact stops

/-! ### One rule for each kind of instruction -/

section Rules

variable {placed} {Goal : RegisterFile → Prop} {index target : Nat}
  {registers : RegisterFile} {storage : placed.Storage}
  {instruction : Instruction}

theorem Stops.of_running {registers' : RegisterFile} {storage' : placed.Storage}
    (present : program[index]? = some instruction)
    (goes : (placed.before index registers storage).perform instruction =
      .running (placed.before target registers' storage'))
    (rest : placed.Stops Goal target registers' storage') :
    placed.Stops Goal index registers storage := by
  obtain ⟨final, reaches, stopped, goal⟩ := rest
  refine ⟨final, ?_, stopped, goal⟩
  have here := placed.before_inside present registers storage
  rw [← placed.step_before present] at goes
  exact .head ⟨here, storage.property⟩ goes reaches

theorem Stops.of_stopped (present : program[index]? = some instruction)
    (stops : (placed.before index registers storage).perform instruction = .stopped)
    (goal : Goal registers) : placed.Stops Goal index registers storage := by
  have here := placed.before_inside present registers storage
  rw [← placed.step_before present] at stops
  exact ⟨_, .refl ⟨here, storage.property⟩, stops, goal⟩

theorem Stops.of_assign {destination : Register} {value : Word}
    (present : program[index]? = some instruction)
    (assigns : (placed.before index registers storage).perform instruction =
      (placed.before index registers storage).assign destination.number value)
    (rest : placed.Stops Goal (index + 1) (registers.write destination value) storage) :
    placed.Stops Goal index registers storage := by
  apply Stops.of_running present _ rest
  rw [assigns, Machine.assign, Register.ofNumber_number]
  simp only [before, place_add_four]

theorem Stops.immediate (operation : ImmediateOperation) (destination source : Register)
    (operand : Int) (value : Word)
    (present : program[index]? =
      some (.immediate operation destination.number source.number operand))
    (computes : operation.result (registers.read source) (BitVec.ofInt 32 operand) = value)
    (rest : placed.Stops Goal (index + 1) (registers.write destination value) storage) :
    placed.Stops Goal index registers storage := by
  apply Stops.of_assign present _ rest
  rw [Machine.perform, Machine.read, Register.ofNumber_number, ← computes]
  rfl

theorem Stops.li (destination : Register) (operand : Int)
    (present : program[index]? = some (.immediate .addi destination.number 0 operand))
    (rest : placed.Stops Goal (index + 1)
      (registers.write destination (BitVec.ofInt 32 operand)) storage) :
    placed.Stops Goal index registers storage :=
  Stops.immediate .addi destination .zero operand _ present (BitVec.zero_add _) rest

theorem Stops.mv (destination source : Register) (value : Word)
    (present : program[index]? = some (.move destination.number source.number))
    (copies : registers.read source = value)
    (rest : placed.Stops Goal (index + 1) (registers.write destination value) storage) :
    placed.Stops Goal index registers storage := by
  apply Stops.of_assign present _ rest
  rw [Machine.perform, Machine.read, Register.ofNumber_number, ← copies]
  rfl

theorem Stops.register (operation : RegisterOperation) (destination source1 source2 : Register)
    (value : Word)
    (present : program[index]? =
      some (.register operation destination.number source1.number source2.number))
    (computes : operation.result (registers.read source1) (registers.read source2) = value)
    (rest : placed.Stops Goal (index + 1) (registers.write destination value) storage) :
    placed.Stops Goal index registers storage := by
  apply Stops.of_assign present _ rest
  rw [Machine.perform, Machine.read, Machine.read, Register.ofNumber_number,
    Register.ofNumber_number, ← computes]
  rfl

theorem Stops.lui (destination : Register) (value : Word)
    (present : program[index]? = some (.upper .lui destination.number value))
    (rest : placed.Stops Goal (index + 1) (registers.write destination (value <<< 12)) storage) :
    placed.Stops Goal index registers storage :=
  Stops.of_assign present rfl rest

theorem Stops.load (operation : LoadOperation) (destination : Register) (offset : Int)
    (base : Register) (value : Word)
    (present : program[index]? = some (.load operation destination.number base.number offset))
    (computes :
      operation.result storage.val (registers.read base + BitVec.ofInt 32 offset) = value)
    (rest : placed.Stops Goal (index + 1) (registers.write destination value) storage) :
    placed.Stops Goal index registers storage := by
  apply Stops.of_assign present _ rest
  rw [Machine.perform, Machine.read, Register.ofNumber_number, ← computes]
  rfl

/-- The memory behind a store has to be in the frame. -/
theorem Stops.store (operation : StoreOperation) (source : Register) (offset : Int)
    (base : Register) (storage' : placed.Storage)
    (present : program[index]? = some (.store operation source.number base.number offset))
    (stored : storage'.val =
      storage.val.write (registers.read base + BitVec.ofInt 32 offset)
        (operation.bytes (registers.read source)))
    (rest : placed.Stops Goal (index + 1) registers storage') :
    placed.Stops Goal index registers storage := by
  apply Stops.of_running present _ rest
  rw [Machine.perform, Machine.read, Machine.read,
    Register.ofNumber_number, Register.ofNumber_number]
  simp only [before, place_add_four, stored]

theorem Stops.branch (operation : BranchOperation) (source1 source2 : Register) (distance : Int)
    (target : Nat)
    (present : program[index]? =
      some (.branch operation source1.number source2.number distance))
    (lands : 4 * (index : Int) + distance = 4 * target)
    (taken : operation.Taken (registers.read source1) (registers.read source2) →
      placed.Stops Goal target registers storage)
    (passed : ¬operation.Taken (registers.read source1) (registers.read source2) →
      placed.Stops Goal (index + 1) registers storage) :
    placed.Stops Goal index registers storage := by
  by_cases condition : operation.Taken (registers.read source1) (registers.read source2)
  · apply Stops.of_running present _ (taken condition)
    rw [Machine.perform, Machine.read, Machine.read,
      Register.ofNumber_number, Register.ofNumber_number]
    simp only [before, if_pos condition, placed.place_add_distance lands]
  · apply Stops.of_running present _ (passed condition)
    rw [Machine.perform, Machine.read, Machine.read,
      Register.ofNumber_number, Register.ofNumber_number]
    simp only [before, if_neg condition, place_add_four]

theorem Stops.jal (destination : Register) (distance : Int) (target : Nat)
    (present : program[index]? = some (.jal destination.number distance))
    (lands : 4 * (index : Int) + distance = 4 * target)
    (rest : placed.Stops Goal target
      (registers.write destination (placed.place (index + 1))) storage) :
    placed.Stops Goal index registers storage := by
  apply Stops.of_running present _ rest
  rw [Machine.perform, Machine.link, Register.ofNumber_number]
  simp only [before, place_add_four, placed.place_add_distance lands]

theorem Stops.jalr (destination base : Register) (offset : Int) (target : Nat)
    (present : program[index]? = some (.jalr destination.number base.number offset))
    (lands : registers.read base + BitVec.ofInt 32 offset = placed.place target)
    (rest : placed.Stops Goal target
      (registers.write destination (placed.place (index + 1))) storage) :
    placed.Stops Goal index registers storage := by
  apply Stops.of_running present _ rest
  rw [Machine.perform, Machine.read, Machine.link,
    Register.ofNumber_number, Register.ofNumber_number]
  simp only [before, lands, place_even, place_add_four]

theorem Stops.halt (present : program[index]? = some .halt) (goal : Goal registers) :
    placed.Stops Goal index registers storage :=
  Stops.of_stopped present rfl goal

theorem Stops.exit
    (loads : program[index]? = some (.immediate .addi Register.a7.number 0 exitRequest))
    (requests : program[index + 1]? = some .ecall)
    (goal : Goal (registers.write .a7 (BitVec.ofInt 32 exitRequest))) :
    placed.Stops Goal index registers storage := by
  apply Stops.li .a7 exitRequest loads
  apply Stops.of_stopped requests _ goal
  rw [Machine.perform]
  exact if_pos rfl

end Rules

end Placed

end Rv32Image
