/-
Reading instructions from words by their fields alone.
-/

import Rv32Image.Instruction.Basic
import Rv32Image.Proofs.Instruction.Field

namespace Rv32Image

open Word

/-! ### Function codes -/

def ImmediateOperation.ofFunct3? : BitVec 3 → Option ImmediateOperation
  | 0 => some addi
  | 2 => some slti
  | 4 => some xori
  | 6 => some ori
  | 7 => some andi
  | _ => none

def RegisterOperation.ofFunct? : BitVec 7 → BitVec 3 → Option RegisterOperation
  | 0, 0 => some add
  | 0x20, 0 => some sub
  | 0, 2 => some slt
  | 0, 4 => some xor
  | 0, 6 => some or
  | 0, 7 => some and
  | _, _ => none

def LoadOperation.ofFunct3? : BitVec 3 → Option LoadOperation
  | 2 => some lw
  | 4 => some lbu
  | _ => none

def StoreOperation.ofFunct3? : BitVec 3 → Option StoreOperation
  | 0 => some sb
  | 2 => some sw
  | _ => none

def BranchOperation.ofFunct3? : BitVec 3 → Option BranchOperation
  | 0 => some beq
  | 1 => some bne
  | 4 => some blt
  | 5 => some bge
  | _ => none

theorem ImmediateOperation.exists_code (operation : ImmediateOperation) :
    ∃ code, ofField code = operation.funct3 ∧ ofFunct3? code = some operation := by
  refine ⟨operation.funct3.setWidth 3, ?_⟩
  cases operation <;> decide

theorem RegisterOperation.exists_codes (operation : RegisterOperation) :
    ∃ upper lower, ofField upper = operation.funct7 ∧ ofField lower = operation.funct3 ∧
      ofFunct? upper lower = some operation := by
  refine ⟨operation.funct7.setWidth 7, operation.funct3.setWidth 3, ?_⟩
  cases operation <;> decide

theorem LoadOperation.exists_code (operation : LoadOperation) :
    ∃ code, ofField code = operation.funct3 ∧ ofFunct3? code = some operation := by
  refine ⟨operation.funct3.setWidth 3, ?_⟩
  cases operation <;> decide

theorem StoreOperation.exists_code (operation : StoreOperation) :
    ∃ code, ofField code = operation.funct3 ∧ ofFunct3? code = some operation := by
  refine ⟨operation.funct3.setWidth 3, ?_⟩
  cases operation <;> decide

theorem BranchOperation.exists_code (operation : BranchOperation) :
    ∃ code, ofField code = operation.funct3 ∧ ofFunct3? code = some operation := by
  refine ⟨operation.funct3.setWidth 3, ?_⟩
  cases operation <;> decide

namespace Instruction

/-! ### Instructions and their words -/

def decode? (word : Word) : Option Instruction :=
  let destination := ofField word.destination
  let source1 := ofField word.source1
  let source2 := ofField word.source2
  match word.opcode with
  | 0x00 => if word = 0 then some .halt else none
  | 0x03 => (LoadOperation.ofFunct3? word.funct3).map fun operation =>
      .load operation destination source1 word.immediate
  | 0x13 => (ImmediateOperation.ofFunct3? word.funct3).map fun operation =>
      .immediate operation destination source1 word.immediate
  | 0x17 => some (.upper .auipc destination (ofField word.upperValue))
  | 0x23 => (StoreOperation.ofFunct3? word.funct3).map fun operation =>
      .store operation source2 source1 word.storeOffset
  | 0x33 => (RegisterOperation.ofFunct? word.funct7 word.funct3).map fun operation =>
      .register operation destination source1 source2
  | 0x37 => some (.upper .lui destination (ofField word.upperValue))
  | 0x63 => (BranchOperation.ofFunct3? word.funct3).map fun operation =>
      .branch operation source1 source2 word.branchDistance
  | 0x67 => if word.funct3 = 0 then some (.jalr destination source1 word.immediate) else none
  | 0x6F => some (.jal destination word.jumpDistance)
  | 0x73 => if word = 0x73 then some .ecall else none
  | _ => none

/-- The operands fit their fields, and distances are even. -/
def InRange : Instruction → Prop
  | immediate _ destination source value =>
      destination.toNat < 32 ∧ source.toNat < 32 ∧ -2048 ≤ value ∧ value ≤ 2047
  | register _ destination source1 source2 =>
      destination.toNat < 32 ∧ source1.toNat < 32 ∧ source2.toNat < 32
  | upper _ destination value => destination.toNat < 32 ∧ value.toNat < 2 ^ 20
  | load _ destination base offset =>
      destination.toNat < 32 ∧ base.toNat < 32 ∧ -2048 ≤ offset ∧ offset ≤ 2047
  | store _ source base offset =>
      source.toNat < 32 ∧ base.toNat < 32 ∧ -2048 ≤ offset ∧ offset ≤ 2047
  | branch _ source1 source2 distance =>
      source1.toNat < 32 ∧ source2.toNat < 32 ∧ distance % 2 = 0 ∧
        -4096 ≤ distance ∧ distance ≤ 4094
  | jal destination distance =>
      destination.toNat < 32 ∧ distance % 2 = 0 ∧ -2 ^ 20 ≤ distance ∧ distance ≤ 2 ^ 20 - 2
  | jalr destination base offset =>
      destination.toNat < 32 ∧ base.toNat < 32 ∧ -2048 ≤ offset ∧ offset ≤ 2047
  | move destination source => destination.toNat < 32 ∧ source.toNat < 32
  | nop | ecall | halt => True

instance : DecidablePred InRange
  | immediate .. | register .. | upper .. | load .. | store .. | branch .. | jal .. | jalr ..
  | move .. => show Decidable (_ ∧ _) from inferInstance
  | nop | ecall | halt => isTrue trivial

/-- The first name of an instruction that has two. -/
def canonical : Instruction → Instruction
  | move destination source => immediate .addi destination source 0
  | nop => immediate .addi 0 0 0
  | instruction => instruction

theorem encode_canonical (instruction : Instruction) :
    instruction.canonical.encode = instruction.encode := by
  cases instruction <;> rfl

theorem canonical_inRange {instruction : Instruction} (range : instruction.InRange) :
    instruction.canonical.InRange := by
  cases instruction with
  | move destination source => exact ⟨range.1, range.2, by decide, by decide⟩
  | nop => decide
  | _ => exact range

/-! ### One lemma for each form -/

theorem bmod_eq_self {value : Int} (lower : -2048 ≤ value) (upper : value ≤ 2047) :
    Int.bmod value (2 ^ 12) = value :=
  Int.bmod_eq_of_le (by omega) (by omega)

theorem decode?_immediate {operation : ImmediateOperation} {destination source : Word}
    {value : Int} (range : (immediate operation destination source value).InRange) :
    decode? (immediate operation destination source value).encode =
      some (immediate operation destination source value) := by
  obtain ⟨destinationFits, sourceFits, lower, upper⟩ := range
  obtain ⟨destination, rfl⟩ := exists_register_of_lt destinationFits
  obtain ⟨source, rfl⟩ := exists_register_of_lt sourceFits
  obtain ⟨code, sameCode, known⟩ := operation.exists_code
  have fields := Form.fields_immediate 0x13#7 code source destination value
  rw [bmod_eq_self lower upper] at fields
  rw [encode, ← sameCode, show Opcode.immediate = ofField 0x13#7 from rfl]
  simp only [decode?, fields, known, Option.map_some]

theorem decode?_register {operation : RegisterOperation} {destination source1 source2 : Word}
    (range : (register operation destination source1 source2).InRange) :
    decode? (register operation destination source1 source2).encode =
      some (register operation destination source1 source2) := by
  obtain ⟨destinationFits, source1Fits, source2Fits⟩ := range
  obtain ⟨destination, rfl⟩ := exists_register_of_lt destinationFits
  obtain ⟨source1, rfl⟩ := exists_register_of_lt source1Fits
  obtain ⟨source2, rfl⟩ := exists_register_of_lt source2Fits
  obtain ⟨upper, lower, sameUpper, sameLower, known⟩ := operation.exists_codes
  have fields := Form.fields_register 0x33#7 upper lower source2 source1 destination
  rw [encode, ← sameUpper, ← sameLower, show Opcode.register = ofField 0x33#7 from rfl]
  simp only [decode?, fields, known, Option.map_some]

theorem decode?_upper {operation : UpperOperation} {destination value : Word}
    (range : (upper operation destination value).InRange) :
    decode? (upper operation destination value).encode =
      some (upper operation destination value) := by
  obtain ⟨destinationFits, valueFits⟩ := range
  obtain ⟨destination, rfl⟩ := exists_register_of_lt destinationFits
  obtain ⟨value, rfl⟩ := exists_ofField_of_lt valueFits
  have same : (ofField value).setWidth 20 = value := by
    rw [ofField, BitVec.setWidth_setWidth_of_le _ (by decide), BitVec.setWidth_eq]
  cases operation with
  | lui =>
      have fields := Form.fields_upper 0x37#7 destination (ofField value)
      rw [same] at fields
      rw [encode, show UpperOperation.lui.opcode = ofField 0x37#7 from rfl]
      simp only [decode?, fields]
  | auipc =>
      have fields := Form.fields_upper 0x17#7 destination (ofField value)
      rw [same] at fields
      rw [encode, show UpperOperation.auipc.opcode = ofField 0x17#7 from rfl]
      simp only [decode?, fields]

theorem decode?_load {operation : LoadOperation} {destination base : Word} {offset : Int}
    (range : (load operation destination base offset).InRange) :
    decode? (load operation destination base offset).encode =
      some (load operation destination base offset) := by
  obtain ⟨destinationFits, baseFits, lower, upper⟩ := range
  obtain ⟨destination, rfl⟩ := exists_register_of_lt destinationFits
  obtain ⟨base, rfl⟩ := exists_register_of_lt baseFits
  obtain ⟨code, sameCode, known⟩ := operation.exists_code
  have fields := Form.fields_immediate 0x03#7 code base destination offset
  rw [bmod_eq_self lower upper] at fields
  rw [encode, ← sameCode, show Opcode.load = ofField 0x03#7 from rfl]
  simp only [decode?, fields, known, Option.map_some]

theorem decode?_store {operation : StoreOperation} {source base : Word} {offset : Int}
    (range : (store operation source base offset).InRange) :
    decode? (store operation source base offset).encode =
      some (store operation source base offset) := by
  obtain ⟨sourceFits, baseFits, lower, upper⟩ := range
  obtain ⟨source, rfl⟩ := exists_register_of_lt sourceFits
  obtain ⟨base, rfl⟩ := exists_register_of_lt baseFits
  obtain ⟨code, sameCode, known⟩ := operation.exists_code
  have fields := Form.fields_store code source base offset
  rw [bmod_eq_self lower upper] at fields
  rw [encode, ← sameCode]
  simp only [decode?, fields, known, Option.map_some]

theorem decode?_branch {operation : BranchOperation} {source1 source2 : Word} {distance : Int}
    (range : (branch operation source1 source2 distance).InRange) :
    decode? (branch operation source1 source2 distance).encode =
      some (branch operation source1 source2 distance) := by
  obtain ⟨source1Fits, source2Fits, even, lower, upper⟩ := range
  obtain ⟨source1, rfl⟩ := exists_register_of_lt source1Fits
  obtain ⟨source2, rfl⟩ := exists_register_of_lt source2Fits
  obtain ⟨code, sameCode, known⟩ := operation.exists_code
  have fields := Form.fields_branch code source2 source1 distance
  rw [(double_bmod_half_eq_iff even (by decide) (by decide)).mpr ⟨by omega, by omega⟩] at fields
  rw [encode, ← sameCode]
  simp only [decode?, fields, known, Option.map_some]

theorem decode?_jal {destination : Word} {distance : Int}
    (range : (jal destination distance).InRange) :
    decode? (jal destination distance).encode = some (jal destination distance) := by
  obtain ⟨destinationFits, even, lower, upper⟩ := range
  obtain ⟨destination, rfl⟩ := exists_register_of_lt destinationFits
  have fields := Form.fields_jump destination distance
  rw [(double_bmod_half_eq_iff even (by decide) (by decide)).mpr ⟨by omega, by omega⟩] at fields
  rw [encode]
  simp only [decode?, fields]

theorem decode?_jalr {destination base : Word} {offset : Int}
    (range : (jalr destination base offset).InRange) :
    decode? (jalr destination base offset).encode = some (jalr destination base offset) := by
  obtain ⟨destinationFits, baseFits, lower, upper⟩ := range
  obtain ⟨destination, rfl⟩ := exists_register_of_lt destinationFits
  obtain ⟨base, rfl⟩ := exists_register_of_lt baseFits
  have fields := Form.fields_immediate 0x67#7 0#3 base destination offset
  rw [bmod_eq_self lower upper] at fields
  rw [encode, show (0 : Word) = ofField 0#3 from rfl, show Opcode.jalr = ofField 0x67#7 from rfl]
  simp only [decode?, fields]
  exact if_pos rfl

theorem decode?_encode {instruction : Instruction} (range : instruction.InRange) :
    decode? instruction.encode = some instruction.canonical := by
  cases instruction with
  | immediate => exact decode?_immediate range
  | register => exact decode?_register range
  | upper => exact decode?_upper range
  | load => exact decode?_load range
  | store => exact decode?_store range
  | branch => exact decode?_branch range
  | jal => exact decode?_jal range
  | jalr => exact decode?_jalr range
  | move destination source =>
      rw [encode_move]
      exact decode?_immediate (canonical_inRange range)
  | nop =>
      rw [encode_nop]
      exact decode?_immediate (canonical_inRange range)
  | ecall => decide
  | halt => decide

/-- One decoder recovers every instruction whose operands fit, so two of them have the same
word only if they are the same up to second names. -/
theorem encode_unambiguous :
    (∀ first second : Instruction, first.InRange → second.InRange →
      (first.encode = second.encode ↔ first.canonical = second.canonical)) ∧
      ∀ instruction : Instruction, instruction.InRange →
        decode? instruction.encode = some instruction.canonical := by
  refine ⟨?_, fun instruction range => decode?_encode range⟩
  intro first second firstRange secondRange
  constructor
  · intro same
    apply Option.some.inj
    rw [← decode?_encode firstRange, same, decode?_encode secondRange]
  · intro same
    rw [← encode_canonical first, same, encode_canonical]

theorem encode_unambiguous_farthest :
    (branch .bge 31 7 (-4096)).InRange ∧ (jal 31 (-2 ^ 20)).InRange ∧
      (move 8 31).InRange ∧ (immediate .addi 8 31 0).InRange ∧
      (branch .bge 31 7 (-4096)).encode ≠ (jal 31 (-2 ^ 20)).encode ∧
      (move 8 31).encode = (immediate .addi 8 31 0).encode ∧
      decode? (branch .bge 31 7 (-4096)).encode = some (branch .bge 31 7 (-4096)) ∧
      decode? (jal 31 (-2 ^ 20)).encode = some (jal 31 (-2 ^ 20)) := by
  have branchRange : (branch .bge 31 7 (-4096)).InRange := by decide
  have jumpRange : (jal 31 (-2 ^ 20)).InRange := by decide
  have copyRange : (move 8 31).InRange := by decide
  have sumRange : (immediate .addi 8 31 0).InRange := by decide
  refine ⟨branchRange, jumpRange, copyRange, sumRange, ?_, ?_, ?_, ?_⟩
  · intro same
    have impossible := (encode_unambiguous.1 _ _ branchRange jumpRange).mp same
    cases impossible
  · exact (encode_unambiguous.1 _ _ copyRange sumRange).mpr rfl
  · exact encode_unambiguous.2 _ branchRange
  · exact encode_unambiguous.2 _ jumpRange

end Instruction

end Rv32Image
