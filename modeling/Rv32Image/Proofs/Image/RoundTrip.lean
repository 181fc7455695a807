/-
Writing an image and reading it, in both orders.
-/

import Mathlib.Algebra.Group.Nat.Defs
import Rv32Image.Image.Basic
import Rv32Image.Proofs.Image.Acceptance

namespace Rv32Image

/-! ### Reading what was written -/

def ParsedImage.written (code : List UInt8) (entry loadAddress : Word) : ParsedImage where
  header := FileHeader.executable entry
  segment := ProgramHeader.code loadAddress code.length
  code := code

namespace Image

theorem bytes_build (code : List UInt8) (entry loadAddress : Word) :
    (build code entry loadAddress).bytes =
      (FileHeader.executable entry).bytes ++
        ((ProgramHeader.code loadAddress code.length).bytes ++ code) := rfl

theorem length_mod_eq {code : List UInt8} (fits : code.length ≤ Format.maximalCodeLength) :
    (BitVec.ofNat 32 code.length).toNat = code.length := by
  change code.length ≤ 0xFFFFFFFF - 84 at fits
  rw [BitVec.toNat_ofNat]
  exact Nat.mod_eq_of_lt (by omega)

theorem code_build (code : List UInt8) (entry loadAddress : Word) :
    (build code entry loadAddress).code = code := by
  have headers : ((FileHeader.executable entry).bytes ++
      (ProgramHeader.code loadAddress code.length).bytes).length = 84 := by
    rw [List.length_append, FileHeader.length_bytes_executable, ProgramHeader.length_bytes]
  rw [Image.code, bytes_build, ← List.append_assoc]
  exact List.drop_left' headers

theorem ofData_build {code : List UInt8} (fits : code.length ≤ Format.maximalCodeLength)
    (entry loadAddress : Word) :
    ParsedImage.ofData (build code entry loadAddress).bytes =
      ParsedImage.written code entry loadAddress := by
  have header : FileHeader.ofData (build code entry loadAddress).bytes =
      FileHeader.executable entry := by
    rw [bytes_build]
    exact FileHeader.ofData_bytes_append rfl _
  have segment : ProgramHeader.ofData (build code entry loadAddress).bytes 52 =
      ProgramHeader.code loadAddress code.length := by
    rw [bytes_build, ← FileHeader.length_bytes_executable entry]
    exact ProgramHeader.ofData_bytes_append _ _ code
  have length := length_build code entry loadAddress
  rw [Image.length] at length
  have payload : window (build code entry loadAddress).bytes 84
      (BitVec.ofNat 32 code.length).toNat = code := by
    rw [length_mod_eq fits, window_eq_drop (by omega)]
    exact code_build code entry loadAddress
  have place : (FileHeader.ofData (build code entry loadAddress).bytes).programHeaderOffset.toNat =
      52 := by
    rw [header]
    rfl
  unfold ParsedImage.ofData
  dsimp only
  rw [place, segment, header]
  exact congrArg (ParsedImage.mk _ _) payload

theorem wellFormed_build {code : List UInt8} (fits : code.length ≤ Format.maximalCodeLength)
    (entry loadAddress : Word) :
    WellFormed (build code entry loadAddress).bytes := by
  have image := ofData_build fits entry loadAddress
  have length := length_build code entry loadAddress
  rw [Image.length] at length
  -- From here on only the fields that were read count, not how the bytes came about.
  generalize (build code entry loadAddress).bytes = data at *
  have header : FileHeader.ofData data = FileHeader.executable entry :=
    congrArg ParsedImage.header image
  have front : window data 0 16 =
      [0x7F, 0x45, 0x4C, 0x46, 1, 1, 1, 0, 0, 0, 0, 0, 0, 0, 0, 0] :=
    congrArg FileHeader.identification header
  have place : wordAt data 28 = 52 := congrArg FileHeader.programHeaderOffset header
  have segment : ProgramHeader.ofData data (wordAt data 28).toNat =
      ProgramHeader.code loadAddress code.length := congrArg ParsedImage.segment image
  have offset : wordAt data ((wordAt data 28).toNat + 4) = 84 :=
    congrArg ProgramHeader.offset segment
  have fileSize : wordAt data ((wordAt data 28).toNat + 16) = BitVec.ofNat 32 code.length :=
    congrArg ProgramHeader.fileSize segment
  have memorySize : wordAt data ((wordAt data 28).toNat + 20) = BitVec.ofNat 32 code.length :=
    congrArg ProgramHeader.memorySize segment
  exact
    { fileHeaderInside := by omega
      magic := by
        rw [← take_window data 16 (by decide), front]
        rfl
      thirtyTwoBit := by
        rw [← getElem?_window data 16 (by decide), front]
        rfl
      littleEndian := by
        rw [← getElem?_window data 16 (by decide), front]
        rfl
      identificationVersion := by
        rw [← getElem?_window data 16 (by decide), front]
        rfl
      executable := congrArg FileHeader.fileType header
      riscv := congrArg FileHeader.machine header
      version := congrArg FileHeader.version header
      fileHeaderSize := congrArg FileHeader.fileHeaderSize header
      programHeaderSize := congrArg FileHeader.programHeaderSize header
      programHeaderCount := congrArg FileHeader.programHeaderCount header
      programHeaderInside := by
        rw [place, length]
        exact Nat.le_add_right 84 code.length
      loadable := congrArg ProgramHeader.segmentType segment
      sameSizes := fileSize.trans memorySize.symm
      segmentInside := by
        rw [offset, fileSize, length_mod_eq fits, length]
        exact Nat.le_refl _ }

theorem parse_build {code : List UInt8} (fits : code.length ≤ Format.maximalCodeLength)
    (entry loadAddress : Word) :
    ParsedImage.parse (build code entry loadAddress).bytes =
      .ok (ParsedImage.written code entry loadAddress) :=
  (ParsedImage.parse_eq_ok_iff _ _).mpr
    ⟨wellFormed_build fits entry loadAddress, (ofData_build fits entry loadAddress).symm⟩

/-- Every field of a written image is read back with the value that was written, and what
the image tells about itself agrees. -/
theorem parse_build_fields (code : List UInt8) (entry loadAddress : Word)
    (fits : code.length ≤ Format.maximalCodeLength) :
    ∃ parsed, ParsedImage.parse (build code entry loadAddress).bytes = .ok parsed ∧
      parsed.header =
        { identification := [0x7F, 0x45, 0x4C, 0x46, 1, 1, 1, 0, 0, 0, 0, 0, 0, 0, 0, 0]
          fileType := 2
          machine := 0xF3
          version := 1
          entry := entry
          programHeaderOffset := 52
          sectionHeaderOffset := 0
          flags := 0
          fileHeaderSize := 52
          programHeaderSize := 32
          programHeaderCount := 1
          sectionHeaderSize := 40
          sectionHeaderCount := 0
          sectionNameIndex := 0 } ∧
      parsed.segment =
        { segmentType := 1
          offset := 84
          virtualAddress := loadAddress
          physicalAddress := loadAddress
          fileSize := BitVec.ofNat 32 code.length
          memorySize := BitVec.ofNat 32 code.length
          flags := 5
          alignment := 4 } ∧
      parsed.segment.fileSize.toNat = code.length ∧
      parsed.segment.memorySize.toNat = code.length ∧
      parsed.code = code ∧
      parsed.segment.offset.toNat + parsed.segment.fileSize.toNat ≤ 2 ^ 32 - 1 ∧
      (build code entry loadAddress).code = parsed.code ∧
      (build code entry loadAddress).entry = parsed.entry ∧
      (build code entry loadAddress).loadAddress = parsed.loadAddress ∧
      (build code entry loadAddress).length = 84 + code.length ∧
      (build code entry loadAddress).isEmpty = false := by
  have size := length_mod_eq fits
  have length := length_build code entry loadAddress
  refine ⟨ParsedImage.written code entry loadAddress, parse_build fits entry loadAddress,
    rfl, rfl, size, size, rfl, ?_, code_build code entry loadAddress, rfl, rfl, length, rfl⟩
  change 84 + (BitVec.ofNat 32 code.length).toNat ≤ 2 ^ 32 - 1
  change code.length ≤ 0xFFFFFFFF - 84 at fits
  rw [size]
  omega

theorem parse_build_fields_five_bytes :
    [0x13, 0x05, 0xA0, 0x00, 0x73].length ≤ Format.maximalCodeLength ∧
      ∃ parsed,
        ParsedImage.parse (build [0x13, 0x05, 0xA0, 0x00, 0x73] 0x2004 0x80002000).bytes =
            .ok parsed ∧
          parsed.code = [0x13, 0x05, 0xA0, 0x00, 0x73] ∧
          parsed.entry = 0x2004 ∧
          parsed.loadAddress = 0x80002000 := by
  have fits : [(0x13 : UInt8), 0x05, 0xA0, 0x00, 0x73].length ≤ Format.maximalCodeLength := by
    decide
  obtain ⟨parsed, accepted, header, segment, _, _, code, _⟩ :=
    parse_build_fields [0x13, 0x05, 0xA0, 0x00, 0x73] 0x2004 0x80002000 fits
  refine ⟨fits, parsed, accepted, code, ?_, ?_⟩
  · rw [ParsedImage.entry, header]
  · rw [ParsedImage.loadAddress, segment]

end Image

/-! ### Writing what was read -/

namespace ParsedImage

/-- The fields that the reader does not test have the values that are written, and nothing
lies behind the code. -/
structure Canonical (image : ParsedImage) (length : Nat) : Prop where
  padding : ∀ byte ∈ image.header.identification.drop 7, byte = 0
  programHeaderOffset : image.header.programHeaderOffset = 52
  sectionHeaderOffset : image.header.sectionHeaderOffset = 0
  flags : image.header.flags = 0
  sectionHeaderSize : image.header.sectionHeaderSize = 40
  sectionHeaderCount : image.header.sectionHeaderCount = 0
  sectionNameIndex : image.header.sectionNameIndex = 0
  offset : image.segment.offset = 84
  sameAddresses : image.segment.physicalAddress = image.segment.virtualAddress
  permissions : image.segment.flags = 5
  alignment : image.segment.alignment = 4
  nothingBehind : length = 84 + image.segment.fileSize.toNat

theorem canonical_written {code : List UInt8} (fits : code.length ≤ Format.maximalCodeLength)
    (entry loadAddress : Word) :
    (written code entry loadAddress).Canonical (84 + code.length) where
  padding := by
    intro byte member
    exact List.eq_of_mem_replicate (n := 9) member
  programHeaderOffset := rfl
  sectionHeaderOffset := rfl
  flags := rfl
  sectionHeaderSize := rfl
  sectionHeaderCount := rfl
  sectionNameIndex := rfl
  offset := rfl
  sameAddresses := rfl
  permissions := rfl
  alignment := rfl
  nothingBehind := congrArg (84 + ·) (Image.length_mod_eq fits).symm

theorem identification_eq {data : List UInt8} (formed : WellFormed data)
    (padding : ∀ byte ∈ (window data 0 16).drop 7, byte = 0) :
    window data 0 16 = [0x7F, 0x45, 0x4C, 0x46, 1, 1, 1, 0, 0, 0, 0, 0, 0, 0, 0, 0] := by
  have sixteen : (window data 0 16).length = 16 :=
    length_window (Nat.le_trans (by decide) formed.fileHeaderInside)
  have magic : (window data 0 16).take 4 = [0x7F, 0x45, 0x4C, 0x46] := by
    rw [take_window data 16 (by decide), formed.magic]
  have imageClass : (window data 0 16)[4]? = some 1 := by
    rw [getElem?_window data 16 (by decide), formed.thirtyTwoBit]
  have encoding : (window data 0 16)[5]? = some 1 := by
    rw [getElem?_window data 16 (by decide), formed.littleEndian]
  have version : (window data 0 16)[6]? = some 1 := by
    rw [getElem?_window data 16 (by decide), formed.identificationVersion]
  have zeros : (window data 0 16).drop 7 = List.replicate 9 0 := by
    apply List.eq_replicate_iff.mpr
    refine ⟨?_, padding⟩
    rw [List.length_drop, sixteen]
  rw [← List.take_append_drop 4 (window data 0 16), magic,
    List.drop_eq_getElem?_toList_append, imageClass,
    List.drop_eq_getElem?_toList_append, encoding,
    List.drop_eq_getElem?_toList_append, version, zeros]
  rfl

theorem header_eq_executable {data : List UInt8} (formed : WellFormed data) {length : Nat}
    (canonical : (ofData data).Canonical length) :
    (ofData data).header = FileHeader.executable (ofData data).entry := by
  have identification := identification_eq formed canonical.padding
  have place : wordAt data 28 = 52 := canonical.programHeaderOffset
  have sections : wordAt data 32 = 0 := canonical.sectionHeaderOffset
  have flags : wordAt data 36 = 0 := canonical.flags
  have sectionHeaderSize : halfAt data 46 = 40 := canonical.sectionHeaderSize
  have sectionHeaderCount : halfAt data 48 = 0 := canonical.sectionHeaderCount
  have sectionNameIndex : halfAt data 50 = 0 := canonical.sectionNameIndex
  change FileHeader.ofData data = FileHeader.executable (wordAt data 24)
  unfold FileHeader.ofData
  rw [identification, formed.executable, formed.riscv, formed.version, place, sections, flags,
    formed.fileHeaderSize, formed.programHeaderSize, formed.programHeaderCount,
    sectionHeaderSize, sectionHeaderCount, sectionNameIndex]
  rfl

theorem segment_eq_code {data : List UInt8} (formed : WellFormed data) {length : Nat}
    (canonical : (ofData data).Canonical length) :
    (ofData data).segment =
      ProgramHeader.code (ofData data).loadAddress (ofData data).code.length := by
  have size : BitVec.ofNat 32 (ofData data).code.length = (ofData data).segment.fileSize := by
    rw [length_code_ofData formed, BitVec.ofNat_toNat, BitVec.setWidth_eq]
  have loadable : (ofData data).segment.segmentType = 1 := formed.loadable
  have sameSizes : (ofData data).segment.fileSize = (ofData data).segment.memorySize :=
    formed.sameSizes
  have offset := canonical.offset
  have sameAddresses := canonical.sameAddresses
  have permissions := canonical.permissions
  have alignment := canonical.alignment
  rw [ProgramHeader.code, size, loadAddress]
  generalize (ofData data).segment = segment at *
  cases segment
  rw [ProgramHeader.mk.injEq]
  exact ⟨loadable, offset, rfl, sameAddresses, rfl, sameSizes.symm, permissions, alignment⟩

theorem bytes_ofData_eq {data : List UInt8} (formed : WellFormed data)
    (canonical : (ofData data).Canonical data.length) :
    (ofData data).header.bytes ++ ((ofData data).segment.bytes ++ (ofData data).code) = data := by
  have place : wordAt data 28 = 52 := canonical.programHeaderOffset
  have inside := formed.programHeaderInside
  rw [place] at inside
  change 52 + 32 ≤ data.length at inside
  have header : (ofData data).header.bytes = window data 0 52 :=
    FileHeader.bytes_ofData formed.fileHeaderInside
  have segment : (ofData data).segment.bytes = window data 52 32 := by
    change (ProgramHeader.ofData data (wordAt data 28).toNat).bytes = _
    rw [place]
    exact ProgramHeader.bytes_ofData inside
  have code : (ofData data).code = window data 84 (ofData data).segment.fileSize.toNat := by
    change window data (ofData data).segment.offset.toNat _ = _
    rw [canonical.offset]
    rfl
  rw [header, segment, code, window_append_window data (by rfl), window_append_window data (by rfl),
    window_zero, List.take_of_length_le]
  have length := canonical.nothingBehind
  omega

/-- What was read is written back as it was exactly if it is canonical, and the data that
come back are the written images. -/
theorem build_parsed_eq_iff_canonical :
    (∀ (data : List UInt8) (image : ParsedImage), parse data = .ok image →
      image.code.length ≤ Format.maximalCodeLength →
        ((Image.build image.code image.entry image.loadAddress).bytes = data ↔
          image.Canonical data.length)) ∧
      ∀ data : List UInt8,
        (∃ image, parse data = .ok image ∧
          image.code.length ≤ Format.maximalCodeLength ∧
          (Image.build image.code image.entry image.loadAddress).bytes = data) ↔
        ∃ code entry loadAddress, code.length ≤ Format.maximalCodeLength ∧
          (Image.build code entry loadAddress).bytes = data := by
  refine ⟨?_, ?_⟩
  · intro data image accepted fits
    constructor
    · intro same
      have read := Image.parse_build fits image.entry image.loadAddress
      rw [same, accepted] at read
      have length := Image.length_build image.code image.entry image.loadAddress
      rw [Image.length, same] at length
      rw [length, Except.ok.inj read]
      exact canonical_written fits image.entry image.loadAddress
    · intro canonical
      obtain ⟨formed, rfl⟩ := (parse_eq_ok_iff data image).mp accepted
      rw [Image.bytes_build, ← header_eq_executable formed canonical,
        ← segment_eq_code formed canonical]
      exact bytes_ofData_eq formed canonical
  · intro data
    constructor
    · rintro ⟨image, _, fits, same⟩
      exact ⟨image.code, image.entry, image.loadAddress, fits, same⟩
    · rintro ⟨code, entry, loadAddress, fits, rfl⟩
      exact ⟨written code entry loadAddress, Image.parse_build fits entry loadAddress, fits, rfl⟩

/-- A byte behind the code is accepted and not written back. -/
theorem build_parsed_drops_trailing_byte :
    ∃ image,
      parse ((Image.build [0x13, 0x05, 0xA0, 0x00] 0x100 0x200).bytes ++ [0xFF]) = .ok image ∧
        image.code.length ≤ Format.maximalCodeLength ∧
        (Image.build image.code image.entry image.loadAddress).bytes ≠
          (Image.build [0x13, 0x05, 0xA0, 0x00] 0x100 0x200).bytes ++ [0xFF] := by
  have formed : WellFormed
      ((Image.build [0x13, 0x05, 0xA0, 0x00] 0x100 0x200).bytes ++ [0xFF]) := by
    constructor <;> decide
  have read := (parse_eq_ok_iff _ _).mpr ⟨formed, rfl⟩
  have fits : (ofData ((Image.build [0x13, 0x05, 0xA0, 0x00] 0x100 0x200).bytes ++
      [0xFF])).code.length ≤ Format.maximalCodeLength := by decide
  refine ⟨_, read, fits, ?_⟩
  intro same
  have canonical := (build_parsed_eq_iff_canonical.1 _ _ read fits).mp same
  exact absurd canonical.nothingBehind (by decide)

end ParsedImage

end Rv32Image
