/-
A machine that executes the instructions, on registers, a memory of bytes and a counter.
It stops on the zero word and on the exit request.
-/

import Rv32Image.Proofs.Bytes.Window
import Rv32Image.Proofs.Instruction.Decoder
import Rv32Image.Proofs.Instruction.RegisterName

namespace Rv32Image

/-! ### Registers -/

def RegisterFile : Type := Register → Word

namespace RegisterFile

def read (registers : RegisterFile) (register : Register) : Word :=
  if register = .zero then 0 else registers register

/-- What is written to register zero is lost. -/
def write (registers : RegisterFile) (register : Register) (value : Word) : RegisterFile :=
  fun other => if register ≠ .zero ∧ other = register then value else registers other

@[simp]
theorem read_zero (registers : RegisterFile) : registers.read .zero = 0 := rfl

@[simp]
theorem read_write_self (registers : RegisterFile) {register : Register}
    (writable : register ≠ .zero) (value : Word) :
    (registers.write register value).read register = value := by
  rw [read, if_neg writable, write, if_pos ⟨writable, rfl⟩]

@[simp]
theorem read_write_of_ne (registers : RegisterFile) {register other : Register}
    (different : other ≠ register) (value : Word) :
    (registers.write register value).read other = registers.read other := by
  have kept : registers.write register value other = registers other :=
    if_neg fun both => different both.2
  rw [read, read, kept]

end RegisterFile

/-! ### Memory -/

def Memory : Type := Word → UInt8

namespace Memory

def read (memory : Memory) (address : Word) (count : Nat) : List UInt8 :=
  (List.range count).map fun index => memory (address + BitVec.ofNat 32 index)

def write (memory : Memory) (address : Word) (bytes : List UInt8) : Memory :=
  fun place => bytes.getD (place - address).toNat (memory place)

def word (memory : Memory) (address : Word) : Word :=
  .ofBytes (memory.read address 4)

/-- The bytes stand in memory from `start` on. -/
def HoldsAt (memory : Memory) (start : Word) (bytes : List UInt8) : Prop :=
  ∀ index byte, bytes[index]? = some byte → memory (start + BitVec.ofNat 32 index) = byte

theorem HoldsAt.read_eq_window {memory : Memory} {start : Word} {bytes : List UInt8}
    (holds : memory.HoldsAt start bytes) {offset count : Nat}
    (inside : offset + count ≤ bytes.length) :
    memory.read (start + BitVec.ofNat 32 offset) count = window bytes offset count := by
  apply List.ext_getElem?
  intro index
  rw [read, List.getElem?_map, window, List.getElem?_take]
  by_cases within : index < count
  · have present : offset + index < bytes.length := by omega
    rw [List.getElem?_range within, Option.map_some, if_pos within, List.getElem?_drop,
      List.getElem?_eq_getElem present, BitVec.add_assoc, ← BitVec.ofNat_add,
      holds _ _ (List.getElem?_eq_getElem present)]
  · rw [if_neg within, List.getElem?_eq_none (by rw [List.length_range]; omega), Option.map_none]

theorem HoldsAt.word_eq_wordAt {memory : Memory} {start : Word} {bytes : List UInt8}
    (holds : memory.HoldsAt start bytes) {offset : Nat} (inside : offset + 4 ≤ bytes.length) :
    memory.word (start + BitVec.ofNat 32 offset) = wordAt bytes offset := by
  rw [word, holds.read_eq_window inside, wordAt]

theorem HoldsAt.word_eq {memory : Memory} {address value : Word}
    (holds : memory.HoldsAt address value.bytes) : memory.word address = value := by
  have four := value.length_bytes
  have read : memory.read (address + 0#32) 4 = window value.bytes 0 4 :=
    holds.read_eq_window (by omega)
  rw [BitVec.add_zero, window_eq_drop (by omega), List.drop_zero] at read
  rw [word, read, Word.ofBytes_bytes]

theorem holdsAt_write (memory : Memory) (address : Word) {bytes : List UInt8}
    (short : bytes.length ≤ 2 ^ 32) : (memory.write address bytes).HoldsAt address bytes := by
  intro index byte present
  obtain ⟨inside, _⟩ := List.getElem?_eq_some_iff.mp present
  have distance : (address + BitVec.ofNat 32 index - address).toNat = index := by
    rw [BitVec.add_comm, BitVec.add_sub_cancel, BitVec.toNat_ofNat]
    omega
  rw [write, distance, List.getD_eq_getElem?_getD, present, Option.getD_some]

/-- The later memory differs at most in a range of addresses. -/
def SameOutside (memory : Memory) (address : Word) (count : Nat) (later : Memory) : Prop :=
  ∀ place, (∀ index < count, place ≠ address + BitVec.ofNat 32 index) → later place = memory place

theorem sameOutside_write (memory : Memory) (address : Word) (bytes : List UInt8) :
    memory.SameOutside address bytes.length (memory.write address bytes) := by
  intro place outside
  rw [write, List.getD_eq_getElem?_getD, List.getElem?_eq_none, Option.getD_none]
  apply Nat.le_of_not_lt
  intro inside
  apply outside _ inside
  rw [BitVec.ofNat_toNat, BitVec.setWidth_eq, BitVec.add_comm, BitVec.sub_add_cancel]

theorem HoldsAt.of_sameOutside {memory later : Memory} {start address : Word}
    {bytes : List UInt8} {count : Nat} (holds : memory.HoldsAt start bytes)
    (same : memory.SameOutside address count later)
    (apart : ∀ offset < bytes.length, ∀ index < count,
      start + BitVec.ofNat 32 offset ≠ address + BitVec.ofNat 32 index) :
    later.HoldsAt start bytes := by
  intro offset byte present
  obtain ⟨inside, _⟩ := List.getElem?_eq_some_iff.mp present
  rw [same _ (apart offset inside)]
  exact holds offset byte present

end Memory

/-! ### What instructions do -/

def ImmediateOperation.result (source immediate : Word) : ImmediateOperation → Word
  | addi => source + immediate
  | slti => if source.toInt < immediate.toInt then 1 else 0
  | xori => source ^^^ immediate
  | ori => source ||| immediate
  | andi => source &&& immediate

def RegisterOperation.result (source1 source2 : Word) : RegisterOperation → Word
  | add => source1 + source2
  | sub => source1 - source2
  | slt => if source1.toInt < source2.toInt then 1 else 0
  | xor => source1 ^^^ source2
  | or => source1 ||| source2
  | and => source1 &&& source2

def UpperOperation.result (counter value : Word) : UpperOperation → Word
  | lui => value <<< 12
  | auipc => counter + value <<< 12

def LoadOperation.result (memory : Memory) (address : Word) : LoadOperation → Word
  | lw => memory.word address
  | lbu => BitVec.ofNat 32 (memory address).toNat

def StoreOperation.bytes (value : Word) : StoreOperation → List UInt8
  | sw => value.bytes
  | sb => value.bytes.take 1

def BranchOperation.Taken (source1 source2 : Word) : BranchOperation → Prop
  | beq => source1 = source2
  | bne => source1 ≠ source2
  | blt => source1.toInt < source2.toInt
  | bge => source2.toInt ≤ source1.toInt

instance (source1 source2 : Word) : DecidablePred (BranchOperation.Taken source1 source2)
  | .beq => inferInstanceAs (Decidable (source1 = source2))
  | .bne => inferInstanceAs (Decidable (source1 ≠ source2))
  | .blt => inferInstanceAs (Decidable (source1.toInt < source2.toInt))
  | .bge => inferInstanceAs (Decidable (source2.toInt ≤ source1.toInt))

/-! ### The machine -/

structure Machine where
  registers : RegisterFile
  memory : Memory
  counter : Word

inductive Machine.Outcome where
  | running (next : Machine)
  | stopped
  | stuck

namespace Machine

def read (machine : Machine) (number : Word) : Word :=
  machine.registers.read (.ofNumber number)

def assign (machine : Machine) (number value : Word) : Outcome :=
  .running
    { machine with
      registers := machine.registers.write (.ofNumber number) value
      counter := machine.counter + 4 }

def link (machine : Machine) (number target : Word) : Outcome :=
  .running
    { machine with
      registers := machine.registers.write (.ofNumber number) (machine.counter + 4)
      counter := target }

def perform (machine : Machine) : Instruction → Outcome
  | .immediate operation destination source value =>
      machine.assign destination
        (operation.result (machine.read source) (BitVec.ofInt 32 value))
  | .register operation destination source1 source2 =>
      machine.assign destination (operation.result (machine.read source1) (machine.read source2))
  | .upper operation destination value =>
      machine.assign destination (operation.result machine.counter value)
  | .load operation destination base offset =>
      machine.assign destination
        (operation.result machine.memory (machine.read base + BitVec.ofInt 32 offset))
  | .store operation source base offset =>
      .running
        { machine with
          memory := machine.memory.write (machine.read base + BitVec.ofInt 32 offset)
            (operation.bytes (machine.read source))
          counter := machine.counter + 4 }
  | .branch operation source1 source2 distance =>
      .running
        { machine with
          counter :=
            if operation.Taken (machine.read source1) (machine.read source2) then
              machine.counter + BitVec.ofInt 32 distance
            else
              machine.counter + 4 }
  | .jal destination distance =>
      machine.link destination (machine.counter + BitVec.ofInt 32 distance)
  | .jalr destination base offset =>
      -- The lowest bit of the target is cleared.
      machine.link destination ((machine.read base + BitVec.ofInt 32 offset) >>> 1 <<< 1)
  | .move destination source => machine.assign destination (machine.read source)
  | .nop => .running { machine with counter := machine.counter + 4 }
  | .ecall => if machine.registers.read .a7 = 10 then .stopped else .stuck
  | .halt => .stopped

theorem perform_canonical (machine : Machine) (instruction : Instruction) :
    machine.perform instruction.canonical = machine.perform instruction := by
  cases instruction with
  | move destination source =>
      have sum : ImmediateOperation.addi.result (machine.read source) (BitVec.ofInt 32 0) =
          machine.read source := BitVec.add_zero _
      exact congrArg (machine.assign destination) sum
  | _ => rfl

def step (machine : Machine) : Outcome :=
  if machine.counter.toNat % 4 = 0 then
    match Instruction.decode? (machine.memory.word machine.counter) with
    | some instruction => machine.perform instruction
    | none => .stuck
  else
    .stuck

/-- The second machine comes from the first in finitely many steps, and all machines on the
way are allowed. -/
inductive Reaches (Allowed : Machine → Prop) : Machine → Machine → Prop where
  | refl {machine : Machine} (here : Allowed machine) : Reaches Allowed machine machine
  | head {machine next final : Machine} (here : Allowed machine)
      (goes : machine.step = .running next) (rest : Reaches Allowed next final) :
      Reaches Allowed machine final

end Machine

end Rv32Image
