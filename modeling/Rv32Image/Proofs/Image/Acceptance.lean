/-
The byte strings that the reader accepts, and what it makes of them.
-/

import Rv32Image.Proofs.Image.Requirements

namespace Rv32Image

/-- The program header is looked for at the offset that the word at 28 gives, and sums of
offsets and sizes are sums of natural numbers. -/
structure WellFormed (data : List UInt8) : Prop where
  fileHeaderInside : 52 ≤ data.length
  magic : window data 0 4 = [0x7F, 0x45, 0x4C, 0x46]
  thirtyTwoBit : data[4]? = some 1
  littleEndian : data[5]? = some 1
  identificationVersion : data[6]? = some 1
  executable : halfAt data 16 = 2
  riscv : halfAt data 18 = 0xF3
  version : wordAt data 20 = 1
  fileHeaderSize : halfAt data 40 = 52
  programHeaderSize : halfAt data 42 = 32
  programHeaderCount : halfAt data 44 = 1
  programHeaderInside : (wordAt data 28).toNat + 32 ≤ data.length
  loadable : wordAt data (wordAt data 28).toNat = 1
  sameSizes :
    wordAt data ((wordAt data 28).toNat + 16) = wordAt data ((wordAt data 28).toNat + 20)
  segmentInside :
    (wordAt data ((wordAt data 28).toNat + 4)).toNat +
      (wordAt data ((wordAt data 28).toNat + 16)).toNat ≤ data.length

theorem getD_zero_eq_one_iff (data : List UInt8) (index : Nat) :
    data.getD index 0 = 1 ↔ data[index]? = some 1 := by
  rw [List.getD_eq_getElem?_getD]
  cases data[index]? with
  | none => simp
  | some byte => simp

namespace Requirement

theorem ofData_met_iff_wellFormed (data : List UInt8) :
    (∀ requirement ∈ ofData data, requirement.met = true) ↔ WellFormed data := by
  simp only [ofData, ofIdentification, ofFileHeader, ofPlace, ofSegment,
    List.forall_mem_append, List.forall_mem_cons, List.not_mem_nil, false_imp_iff, implies_true,
    and_true, decide_eq_true_eq, getD_zero_eq_one_iff]
  constructor
  · rintro ⟨⟨⟨⟨long, magic, imageClass, encoding, identificationVersion⟩, fileType, machine,
      version, fileHeaderSize, programHeaderSize, programHeaderCount⟩, place⟩, loadable,
      sameSizes, segment⟩
    exact ⟨long, magic, imageClass, encoding, identificationVersion, fileType, machine, version,
      fileHeaderSize, programHeaderSize, programHeaderCount, place, loadable, sameSizes, segment⟩
  · intro formed
    exact ⟨⟨⟨⟨formed.fileHeaderInside, formed.magic, formed.thirtyTwoBit, formed.littleEndian,
      formed.identificationVersion⟩, formed.executable, formed.riscv, formed.version,
      formed.fileHeaderSize, formed.programHeaderSize, formed.programHeaderCount⟩,
      formed.programHeaderInside⟩, formed.loadable, formed.sameSizes, formed.segmentInside⟩

end Requirement

namespace ParsedImage

theorem parse_eq_ok_iff (data : List UInt8) (image : ParsedImage) :
    parse data = .ok image ↔ WellFormed data ∧ image = ofData data := by
  rw [parse_eq, ← Requirement.ofData_met_iff_wellFormed, ← Requirement.test_eq_ok_iff]
  cases tested : Requirement.test (Requirement.ofData data) with
  | error rejection =>
      constructor
      · intro accepted
        cases accepted
      · rintro ⟨impossible, _⟩
        cases impossible
  | ok met =>
      constructor
      · intro accepted
        exact ⟨rfl, (Except.ok.inj accepted).symm⟩
      · rintro ⟨_, same⟩
        rw [same]
        rfl

theorem length_code_ofData {data : List UInt8} (formed : WellFormed data) :
    (ofData data).code.length = (ofData data).segment.fileSize.toNat :=
  length_window formed.segmentInside

/-- The reader accepts exactly the well-formed data.  Every field of the result is the
little-endian value at its offset, and the code is the described segment. -/
theorem parse_accepts_iff_wellFormed (data : List UInt8) :
    ((∃ image, parse data = .ok image) ↔ WellFormed data) ∧
      ∀ image, parse data = .ok image →
        image.header = FileHeader.ofData data ∧
          image.segment = ProgramHeader.ofData data (wordAt data 28).toNat ∧
          image.code =
            window data image.segment.offset.toNat image.segment.fileSize.toNat ∧
          image.code.length = image.segment.fileSize.toNat := by
  refine ⟨⟨?_, ?_⟩, ?_⟩
  · rintro ⟨image, accepted⟩
    exact ((parse_eq_ok_iff data image).mp accepted).1
  · intro formed
    exact ⟨ofData data, (parse_eq_ok_iff data _).mpr ⟨formed, rfl⟩⟩
  · intro image accepted
    obtain ⟨formed, same⟩ := (parse_eq_ok_iff data image).mp accepted
    rw [same]
    exact ⟨rfl, rfl, rfl, length_code_ofData formed⟩

/-- The program header stands two bytes behind the file header, and the segment overlaps
both. -/
theorem parse_accepts_overlapping_segment :
    ∃ image,
      parse ({ FileHeader.executable 0x100 with programHeaderOffset := 54 }.bytes ++
        [0xAA, 0xBB] ++ { ProgramHeader.code 0x200 4 with offset := 50 }.bytes ++ [0xFF]) =
          .ok image ∧
        image.loadAddress = 0x200 ∧
        image.code = [0x00, 0x00, 0xAA, 0xBB] := by
  have formed : WellFormed ({ FileHeader.executable 0x100 with programHeaderOffset := 54 }.bytes ++
      [0xAA, 0xBB] ++ { ProgramHeader.code 0x200 4 with offset := 50 }.bytes ++ [0xFF]) := by
    constructor <;> decide
  obtain ⟨accepted, fields⟩ := parse_accepts_iff_wellFormed
    ({ FileHeader.executable 0x100 with programHeaderOffset := 54 }.bytes ++
      [0xAA, 0xBB] ++ { ProgramHeader.code 0x200 4 with offset := 50 }.bytes ++ [0xFF])
  obtain ⟨image, read⟩ := accepted.mpr formed
  obtain ⟨_, segment, code, _⟩ := fields image read
  refine ⟨image, read, ?_, ?_⟩
  · rw [loadAddress, segment]
    decide
  · rw [code, segment]
    decide

end ParsedImage

end Rv32Image
