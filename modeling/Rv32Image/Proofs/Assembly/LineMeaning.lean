/-
What the words of a line of assembly say, by their fields and by the numbers that names
of registers say.
-/

import Rv32Image.Assembly.Line
import Rv32Image.Proofs.Assembly.WordList
import Rv32Image.Proofs.Instruction.Decoder
import Rv32Image.Proofs.Instruction.Operands
import Rv32Image.Proofs.Instruction.RegisterName

namespace Rv32Image

open Word

/-! ### The code of lines -/

def Instruction.code (program : List Instruction) : List UInt8 :=
  (program.map encode).flatMap Word.bytes

theorem Instruction.length_code (program : List Instruction) :
    (code program).length = 4 * program.length := by
  rw [code, Word.length_flatMap_bytes, List.length_map]

theorem Instruction.code_append (first second : List Instruction) :
    code (first ++ second) = code first ++ code second := by
  rw [code, List.map_append, List.flatMap_append, code, code]

namespace Builder

theorem code_emitLine (builder : Builder) (line : Line) :
    (builder.emitLine line).code = builder.code ++ Instruction.code line.instructions := by
  rw [emitLine]
  induction line.instructions generalizing builder with
  | nil => exact (List.append_nil _).symm
  | cons instruction rest ih =>
      rw [List.foldl_cons, ih, emit, List.append_assoc]
      rfl

end Builder

/-! ### Words by their fields -/

/-- Exactly the names of the register say the number in the field. -/
def Register.StandsIn (register : Register) (field : BitVec 5) : Prop :=
  ∀ name, ofName? name = some register ↔ NamesNumber name field.toNat

theorem Register.exists_field (register : Register) :
    ∃ field, ofField field = register.number ∧ register.StandsIn field := by
  obtain ⟨field, same⟩ := exists_register_of_lt register.number_lt
  refine ⟨field, same, ?_⟩
  intro name
  rw [ofName?_eq_some_iff, ← same, toNat_ofField (by decide)]

namespace Word

structure IsImmediate (word : Word) (opcode : BitVec 7) (code : BitVec 3)
    (destination source : Register) (value : Int) : Prop where
  opcodeField : word.opcode = opcode
  codeField : word.funct3 = code
  destinationField : destination.StandsIn word.destination
  sourceField : source.StandsIn word.source1
  valueField : word.immediate = Int.bmod value (2 ^ 12)

structure IsRegister (word : Word) (upper : BitVec 7) (lower : BitVec 3)
    (destination source1 source2 : Register) : Prop where
  opcodeField : word.opcode = 0x33
  upperField : word.funct7 = upper
  lowerField : word.funct3 = lower
  destinationField : destination.StandsIn word.destination
  source1Field : source1.StandsIn word.source1
  source2Field : source2.StandsIn word.source2

structure IsUpper (word : Word) (opcode : BitVec 7) (destination : Register) (value : Word) :
    Prop where
  opcodeField : word.opcode = opcode
  destinationField : destination.StandsIn word.destination
  valueField : word.upperValue.toNat = value.toNat % 2 ^ 20

structure IsStore (word : Word) (code : BitVec 3) (source : Register) (offset : Int)
    (base : Register) : Prop where
  opcodeField : word.opcode = 0x23
  codeField : word.funct3 = code
  sourceField : source.StandsIn word.source2
  baseField : base.StandsIn word.source1
  offsetField : word.storeOffset = Int.bmod offset (2 ^ 12)

structure IsBranch (word : Word) (code : BitVec 3) (source1 source2 : Register)
    (distance : Int) : Prop where
  opcodeField : word.opcode = 0x63
  codeField : word.funct3 = code
  source1Field : source1.StandsIn word.source1
  source2Field : source2.StandsIn word.source2
  distanceField : word.branchDistance = Int.bmod (distance - distance % 2) (2 ^ 13)

structure IsJump (word : Word) (destination : Register) (distance : Int) : Prop where
  opcodeField : word.opcode = 0x6F
  destinationField : destination.StandsIn word.destination
  distanceField : word.jumpDistance = Int.bmod (distance - distance % 2) (2 ^ 21)

end Word

namespace Form

theorem isImmediate (opcode : BitVec 7) (code : BitVec 3) (destination source : Register)
    (value : Int) :
    (immediate value source.number (ofField code) destination.number (ofField opcode)).IsImmediate
      opcode code destination source value := by
  obtain ⟨destinationField, sameDestination, destinationStands⟩ := destination.exists_field
  obtain ⟨sourceField, sameSource, sourceStands⟩ := source.exists_field
  rw [← sameDestination, ← sameSource]
  obtain ⟨opcodeIs, destinationIs, codeIs, sourceIs, valueIs⟩ :=
    fields_immediate opcode code sourceField destinationField value
  rw [← destinationIs] at destinationStands
  rw [← sourceIs] at sourceStands
  exact ⟨opcodeIs, codeIs, destinationStands, sourceStands, valueIs⟩

theorem isRegister (upper : BitVec 7) (lower : BitVec 3)
    (destination source1 source2 : Register) :
    (register (ofField upper) source2.number source1.number (ofField lower) destination.number
      Opcode.register).IsRegister upper lower destination source1 source2 := by
  obtain ⟨destinationField, sameDestination, destinationStands⟩ := destination.exists_field
  obtain ⟨source1Field, sameSource1, source1Stands⟩ := source1.exists_field
  obtain ⟨source2Field, sameSource2, source2Stands⟩ := source2.exists_field
  rw [← sameDestination, ← sameSource1, ← sameSource2]
  obtain ⟨opcodeIs, destinationIs, lowerIs, source1Is, source2Is, upperIs⟩ :=
    fields_register 0x33 upper lower source2Field source1Field destinationField
  rw [← destinationIs] at destinationStands
  rw [← source1Is] at source1Stands
  rw [← source2Is] at source2Stands
  exact ⟨opcodeIs, upperIs, lowerIs, destinationStands, source1Stands, source2Stands⟩

theorem isUpper (opcode : BitVec 7) (destination : Register) (value : Word) :
    (upper value destination.number (ofField opcode)).IsUpper opcode destination value := by
  obtain ⟨destinationField, sameDestination, destinationStands⟩ := destination.exists_field
  rw [← sameDestination]
  obtain ⟨opcodeIs, destinationIs, valueIs⟩ := fields_upper opcode destinationField value
  rw [← destinationIs] at destinationStands
  refine ⟨opcodeIs, destinationStands, ?_⟩
  rw [valueIs, BitVec.toNat_setWidth]

theorem isStore (code : BitVec 3) (source : Register) (offset : Int) (base : Register) :
    (store offset source.number base.number (ofField code)).IsStore code source offset base := by
  obtain ⟨sourceField, sameSource, sourceStands⟩ := source.exists_field
  obtain ⟨baseField, sameBase, baseStands⟩ := base.exists_field
  rw [← sameSource, ← sameBase]
  obtain ⟨opcodeIs, codeIs, baseIs, sourceIs, offsetIs⟩ :=
    fields_store code sourceField baseField offset
  rw [← sourceIs] at sourceStands
  rw [← baseIs] at baseStands
  exact ⟨opcodeIs, codeIs, sourceStands, baseStands, offsetIs⟩

theorem isBranch (code : BitVec 3) (source1 source2 : Register) (distance : Int) :
    (branch distance source2.number source1.number (ofField code)).IsBranch
      code source1 source2 distance := by
  obtain ⟨source1Field, sameSource1, source1Stands⟩ := source1.exists_field
  obtain ⟨source2Field, sameSource2, source2Stands⟩ := source2.exists_field
  rw [← sameSource1, ← sameSource2]
  obtain ⟨opcodeIs, codeIs, source1Is, source2Is, distanceIs⟩ :=
    fields_branch code source2Field source1Field distance
  rw [← source1Is] at source1Stands
  rw [← source2Is] at source2Stands
  refine ⟨opcodeIs, codeIs, source1Stands, source2Stands, ?_⟩
  exact distanceIs.trans (double_bmod_half_eq distance (by decide) (by decide))

theorem isJump (destination : Register) (distance : Int) :
    (jump distance destination.number).IsJump destination distance := by
  obtain ⟨destinationField, sameDestination, destinationStands⟩ := destination.exists_field
  rw [← sameDestination]
  obtain ⟨opcodeIs, destinationIs, distanceIs⟩ := fields_jump destinationField distance
  rw [← destinationIs] at destinationStands
  refine ⟨opcodeIs, destinationStands, ?_⟩
  exact distanceIs.trans (double_bmod_half_eq distance (by decide) (by decide))

end Form

/-! ### Lines and their words -/

namespace Line

/-- The words mean the line: one word, but two for `exit`. -/
def MeantBy : Line → List Word → Prop
  | immediate operation destination source value, [word] =>
      ∃ code, ImmediateOperation.ofFunct3? code = some operation ∧
        word.IsImmediate 0x13 code destination source value
  | li destination value, [word] => word.IsImmediate 0x13 0 destination .zero value
  | mv destination source, [word] => word.IsImmediate 0x13 0 destination source 0
  | register operation destination source1 source2, [word] =>
      ∃ upper lower, RegisterOperation.ofFunct? upper lower = some operation ∧
        word.IsRegister upper lower destination source1 source2
  | upper .lui destination value, [word] => word.IsUpper 0x37 destination value
  | upper .auipc destination value, [word] => word.IsUpper 0x17 destination value
  | load operation destination offset base, [word] =>
      ∃ code, LoadOperation.ofFunct3? code = some operation ∧
        word.IsImmediate 0x03 code destination base offset
  | store operation source offset base, [word] =>
      ∃ code, StoreOperation.ofFunct3? code = some operation ∧
        word.IsStore code source offset base
  | branch operation source1 source2 distance, [word] =>
      ∃ code, BranchOperation.ofFunct3? code = some operation ∧
        word.IsBranch code source1 source2 distance
  | jal destination distance, [word] => word.IsJump destination distance
  | jalr destination offset base, [word] => word.IsImmediate 0x67 0 destination base offset
  | ret, [word] => word.IsImmediate 0x67 0 .zero .ra 0
  | halt, [word] => word = 0
  | exit, [first, second] => first.IsImmediate 0x13 0 .a7 .zero 10 ∧ second = 0x73
  | _, _ => False

theorem meantBy_words (line : Line) : line.MeantBy (line.instructions.map Instruction.encode) := by
  cases line with
  | immediate operation destination source value =>
      obtain ⟨code, same, known⟩ := operation.exists_code
      refine ⟨code, known, ?_⟩
      rw [Instruction.encode, ← same]
      exact Form.isImmediate 0x13 code destination source value
  | li destination value => exact Form.isImmediate 0x13 0 destination .zero value
  | mv destination source => exact Form.isImmediate 0x13 0 destination source 0
  | register operation destination source1 source2 =>
      obtain ⟨upper, lower, sameUpper, sameLower, known⟩ := operation.exists_codes
      refine ⟨upper, lower, known, ?_⟩
      rw [Instruction.encode, ← sameUpper, ← sameLower]
      exact Form.isRegister upper lower destination source1 source2
  | upper operation destination value =>
      cases operation with
      | lui => exact Form.isUpper 0x37 destination value
      | auipc => exact Form.isUpper 0x17 destination value
  | load operation destination offset base =>
      obtain ⟨code, same, known⟩ := operation.exists_code
      refine ⟨code, known, ?_⟩
      rw [Instruction.encode, ← same]
      exact Form.isImmediate 0x03 code destination base offset
  | store operation source offset base =>
      obtain ⟨code, same, known⟩ := operation.exists_code
      refine ⟨code, known, ?_⟩
      rw [Instruction.encode, ← same]
      exact Form.isStore code source offset base
  | branch operation source1 source2 distance =>
      obtain ⟨code, same, known⟩ := operation.exists_code
      refine ⟨code, known, ?_⟩
      rw [Instruction.encode, ← same]
      exact Form.isBranch code source1 source2 distance
  | jal destination distance => exact Form.isJump destination distance
  | jalr destination offset base => exact Form.isImmediate 0x67 0 destination base offset
  | ret => exact Form.isImmediate 0x67 0 .zero .ra 0
  | halt => exact rfl
  | exit => exact ⟨Form.isImmediate 0x13 0 .a7 .zero 10, rfl⟩

end Line

namespace Builder

/-- Whatever was assembled before, a line appends words that mean it and changes nothing
else.  Names that say one number name one register. -/
theorem lines_mean_what_they_say :
    (∀ (builder : Builder) (line : Line), ∃ words,
      (builder.emitLine line).code = builder.code ++ words.flatMap Word.bytes ∧
        line.MeantBy words) ∧
    ∀ first second number,
      Register.NamesNumber first number → Register.NamesNumber second number →
        ∃ register, Register.ofName? first = some register ∧
          Register.ofName? second = some register := by
  constructor
  · intro builder line
    exact ⟨_, code_emitLine builder line, line.meantBy_words⟩
  · intro first second number firstNamed secondNamed
    obtain ⟨register, known, same⟩ := Register.exists_of_namesNumber firstNamed
    rw [← same] at secondNamed
    exact ⟨register, known, (Register.ofName?_eq_some_iff second register).mpr secondNamed⟩

theorem lines_mean_what_they_say_store :
    (∃ word : Word, (emitLine ⟨[0xFF]⟩ (.store .sw .t1 4196 .s0)).code = 0xFF :: word.bytes ∧
      Register.NamesNumber "t1" word.source2.toNat ∧
      Register.NamesNumber "fp" word.source1.toNat ∧ word.storeOffset = 100) ∧
    Register.NamesNumber "s0" 8 ∧ Register.NamesNumber "fp" 8 ∧
      ∃ register, Register.ofName? "s0" = some register ∧
        Register.ofName? "fp" = some register := by
  obtain ⟨lines, names⟩ := lines_mean_what_they_say
  have saved : Register.NamesNumber "s0" 8 := by decide
  have frame : Register.NamesNumber "fp" 8 := by decide
  refine ⟨?_, saved, frame, names "s0" "fp" 8 saved frame⟩
  obtain ⟨words, appended, meant⟩ := lines ⟨[0xFF]⟩ (.store .sw .t1 4196 .s0)
  match words, meant with
  | [word], ⟨_, _, store⟩ =>
      refine ⟨word, ?_, (store.sourceField "t1").mp (by decide),
        (store.baseField "fp").mp (by decide), store.offsetField⟩
      rw [appended, List.flatMap_singleton]
      rfl

end Builder

end Rv32Image
