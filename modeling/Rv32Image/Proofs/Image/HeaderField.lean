/-
The fields of both headers by name, which cover the headers without gap or overlap.
-/

import Rv32Image.Proofs.Image.RoundTrip

namespace Rv32Image

theorem ParsedImage.ofData_of_placed {data : List UInt8} (place : wordAt data 28 = 52) :
    ofData data =
      { header := FileHeader.ofData data
        segment := ProgramHeader.ofData data 52
        code := window data (wordAt data 56).toNat (wordAt data 68).toNat } := by
  have there : (FileHeader.ofData data).programHeaderOffset.toNat = 52 :=
    congrArg BitVec.toNat place
  unfold ofData
  dsimp only
  rw [there]
  rfl

inductive HeaderField where
  | identification
  | fileType
  | machine
  | version
  | entry
  | programHeaderOffset
  | sectionHeaderOffset
  | machineFlags
  | fileHeaderSize
  | programHeaderSize
  | programHeaderCount
  | sectionHeaderSize
  | sectionHeaderCount
  | sectionNameIndex
  | segmentType
  | offset
  | virtualAddress
  | physicalAddress
  | fileSize
  | memorySize
  | permissions
  | alignment
deriving DecidableEq

namespace HeaderField

def first : HeaderField → Nat
  | identification => 0
  | fileType => 16
  | machine => 18
  | version => 20
  | entry => 24
  | programHeaderOffset => 28
  | sectionHeaderOffset => 32
  | machineFlags => 36
  | fileHeaderSize => 40
  | programHeaderSize => 42
  | programHeaderCount => 44
  | sectionHeaderSize => 46
  | sectionHeaderCount => 48
  | sectionNameIndex => 50
  | segmentType => 52
  | offset => 56
  | virtualAddress => 60
  | physicalAddress => 64
  | fileSize => 68
  | memorySize => 72
  | permissions => 76
  | alignment => 80

def width : HeaderField → Nat
  | identification => 16
  | fileType | machine | fileHeaderSize | programHeaderSize | programHeaderCount
  | sectionHeaderSize | sectionHeaderCount | sectionNameIndex => 2
  | _ => 4

def bytes (image : ParsedImage) : HeaderField → List UInt8
  | identification => image.header.identification
  | fileType => image.header.fileType.bytes
  | machine => image.header.machine.bytes
  | version => image.header.version.bytes
  | entry => image.header.entry.bytes
  | programHeaderOffset => image.header.programHeaderOffset.bytes
  | sectionHeaderOffset => image.header.sectionHeaderOffset.bytes
  | machineFlags => image.header.flags.bytes
  | fileHeaderSize => image.header.fileHeaderSize.bytes
  | programHeaderSize => image.header.programHeaderSize.bytes
  | programHeaderCount => image.header.programHeaderCount.bytes
  | sectionHeaderSize => image.header.sectionHeaderSize.bytes
  | sectionHeaderCount => image.header.sectionHeaderCount.bytes
  | sectionNameIndex => image.header.sectionNameIndex.bytes
  | segmentType => image.segment.segmentType.bytes
  | offset => image.segment.offset.bytes
  | virtualAddress => image.segment.virtualAddress.bytes
  | physicalAddress => image.segment.physicalAddress.bytes
  | fileSize => image.segment.fileSize.bytes
  | memorySize => image.segment.memorySize.bytes
  | permissions => image.segment.flags.bytes
  | alignment => image.segment.alignment.bytes

theorem headers_eq_of_bytes {image other : ParsedImage}
    (same : ∀ field, bytes image field = bytes other field) :
    image.header = other.header ∧ image.segment = other.segment := by
  obtain ⟨header, segment, code⟩ := image
  obtain ⟨header', segment', code'⟩ := other
  cases header
  cases header'
  cases segment
  cases segment'
  rw [FileHeader.mk.injEq, ProgramHeader.mk.injEq]
  exact ⟨⟨same identification, Half.bytes_inj.mp (same fileType), Half.bytes_inj.mp (same machine),
      Word.bytes_inj.mp (same version), Word.bytes_inj.mp (same entry),
      Word.bytes_inj.mp (same programHeaderOffset), Word.bytes_inj.mp (same sectionHeaderOffset),
      Word.bytes_inj.mp (same machineFlags), Half.bytes_inj.mp (same fileHeaderSize),
      Half.bytes_inj.mp (same programHeaderSize), Half.bytes_inj.mp (same programHeaderCount),
      Half.bytes_inj.mp (same sectionHeaderSize), Half.bytes_inj.mp (same sectionHeaderCount),
      Half.bytes_inj.mp (same sectionNameIndex)⟩,
    Word.bytes_inj.mp (same segmentType), Word.bytes_inj.mp (same offset),
    Word.bytes_inj.mp (same virtualAddress), Word.bytes_inj.mp (same physicalAddress),
    Word.bytes_inj.mp (same fileSize), Word.bytes_inj.mp (same memorySize),
    Word.bytes_inj.mp (same permissions), Word.bytes_inj.mp (same alignment)⟩

def Covers (field : HeaderField) (index : Nat) : Prop :=
  field.first ≤ index ∧ index < field.first + field.width

instance (field : HeaderField) (index : Nat) : Decidable (field.Covers index) :=
  inferInstanceAs (Decidable (_ ∧ _))

def all : List HeaderField :=
  [identification, fileType, machine, version, entry, programHeaderOffset, sectionHeaderOffset,
    machineFlags, fileHeaderSize, programHeaderSize, programHeaderCount, sectionHeaderSize,
    sectionHeaderCount, sectionNameIndex, segmentType, offset, virtualAddress, physicalAddress,
    fileSize, memorySize, permissions, alignment]

theorem mem_all (field : HeaderField) : field ∈ all := by
  cases field <;> decide

theorem covers_unique {field other : HeaderField} {index : Nat} (covers : field.Covers index)
    (otherCovers : other.Covers index) : other = field := by
  have apart : ∀ field ∈ all, ∀ other ∈ all, other = field ∨
      other.first + other.width ≤ field.first ∨ field.first + field.width ≤ other.first := by
    decide
  obtain ⟨behind, before⟩ := covers
  obtain ⟨otherBehind, otherBefore⟩ := otherCovers
  rcases apart field (mem_all field) other (mem_all other) with same | front | back
  · exact same
  · omega
  · omega

theorem Covers.before_code {field : HeaderField} {index : Nat} (covers : field.Covers index) :
    index < 84 := by
  have ends : ∀ field ∈ all, field.first + field.width ≤ 84 := by decide
  exact Nat.lt_of_lt_of_le covers.2 (ends field (mem_all field))

/-- The fields of both headers leave no gap. -/
theorem exists_covers {index : Nat} (inside : index < 84) :
    ∃ field : HeaderField, field.Covers index := by
  have every : ∀ index < 84, ∃ field ∈ all, field.Covers index := by decide
  obtain ⟨field, _, covers⟩ := every index inside
  exact ⟨field, covers⟩

theorem bytes_ofData {data : List UInt8} (place : wordAt data 28 = 52) (long : 84 ≤ data.length)
    (field : HeaderField) :
    field.bytes (ParsedImage.ofData data) = window data field.first field.width := by
  rw [ParsedImage.ofData_of_placed place]
  cases field <;>
    simp (disch := omega) only [bytes, first, width, FileHeader.ofData, ProgramHeader.ofData,
      bytes_halfAt, bytes_wordAt]

end HeaderField

/-! ### Written images -/

structure Image.Placed (data code : List UInt8) : Prop where
  place : wordAt data 28 = 52
  offset : wordAt data 56 = 84
  fileSize : (wordAt data 68).toNat = code.length
  payload : window data 84 code.length = code
  length : data.length = 84 + code.length

theorem Image.placed_build {code : List UInt8} (fits : code.length ≤ Format.maximalCodeLength)
    (entry loadAddress : Word) : Placed (build code entry loadAddress).bytes code := by
  have length : (build code entry loadAddress).bytes.length = 84 + code.length :=
    length_build code entry loadAddress
  have image := ofData_build fits entry loadAddress
  generalize (build code entry loadAddress).bytes = data at *
  have place : wordAt data 28 = 52 :=
    congrArg (fun image => image.header.programHeaderOffset) image
  rw [ParsedImage.ofData_of_placed place] at image
  have offset : wordAt data 56 = 84 := congrArg (fun image => image.segment.offset) image
  have fileSize : wordAt data 68 = BitVec.ofNat 32 code.length :=
    congrArg (fun image => image.segment.fileSize) image
  have size : (wordAt data 68).toNat = code.length := by
    rw [fileSize, length_mod_eq fits]
  have payload : window data (wordAt data 56).toNat (wordAt data 68).toNat = code :=
    congrArg ParsedImage.code image
  rw [size, offset] at payload
  exact ⟨place, offset, size, payload, length⟩

theorem HeaderField.window_build {code : List UInt8}
    (fits : code.length ≤ Format.maximalCodeLength) (entry loadAddress : Word)
    (field : HeaderField) :
    window (Image.build code entry loadAddress).bytes field.first field.width =
      field.bytes (.written code entry loadAddress) := by
  have placed := Image.placed_build fits entry loadAddress
  have long : 84 ≤ (Image.build code entry loadAddress).bytes.length := by
    rw [placed.length]
    exact Nat.le_add_right 84 code.length
  rw [← bytes_ofData placed.place long, Image.ofData_build fits]

end Rv32Image
