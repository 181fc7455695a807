/-
Reading an image back into its headers and its code.  The requirements are tested in
one fixed order and the first violated one is reported.
-/

import Rv32Image.Image.Header
import Rv32Image.Image.Reading

namespace Rv32Image

structure ParsedImage where
  header : FileHeader
  segment : ProgramHeader
  code : List UInt8
deriving DecidableEq, Repr

namespace ParsedImage

def entry (image : ParsedImage) : Word :=
  image.header.entry

def loadAddress (image : ParsedImage) : Word :=
  image.segment.virtualAddress

end ParsedImage

namespace Reader

def require (condition : Prop) [Decidable condition] (rejection : Rejection) :
    Except Rejection Unit :=
  if condition then .ok () else .error rejection

def requireFileHeader (header : FileHeader) : Except Rejection Unit := do
  require (header.fileType = Format.executableType) (.unsupportedFileType header.fileType)
  require (header.machine = Format.riscvMachine) (.unsupportedMachine header.machine)
  require (header.version = Format.currentVersion) (.unsupportedVersion header.version)
  require (header.fileHeaderSize = Format.fileHeaderSize)
    (.invalidFileHeaderSize header.fileHeaderSize)
  require (header.programHeaderSize = Format.programHeaderSize)
    (.invalidProgramHeaderSize header.programHeaderSize)
  require (header.programHeaderCount = 1) (.invalidProgramHeaderCount header.programHeaderCount)

end Reader

namespace Reading

def byte (index : Nat) : Reading UInt8 := do
  return (← bytes index (index + 1)).headD 0

/-- The state is the offset of the next field. -/
abbrev FieldReading := StateT Nat Reading

def nextBytes (width : Nat) : FieldReading (List UInt8) := fun offset => do
  return (← bytes offset (offset + width), offset + width)

def nextHalf : FieldReading Half := do
  return Half.ofBytes (← nextBytes 2)

def nextWord : FieldReading Word := do
  return Word.ofBytes (← nextBytes 4)

def nextFileHeader : FieldReading FileHeader := do
  return {
    identification := ← nextBytes Format.identificationLength
    fileType := ← nextHalf
    machine := ← nextHalf
    version := ← nextWord
    entry := ← nextWord
    programHeaderOffset := ← nextWord
    sectionHeaderOffset := ← nextWord
    flags := ← nextWord
    fileHeaderSize := ← nextHalf
    programHeaderSize := ← nextHalf
    programHeaderCount := ← nextHalf
    sectionHeaderSize := ← nextHalf
    sectionHeaderCount := ← nextHalf
    sectionNameIndex := ← nextHalf
  }

def nextProgramHeader : FieldReading ProgramHeader := do
  return {
    segmentType := ← nextWord
    offset := ← nextWord
    virtualAddress := ← nextWord
    physicalAddress := ← nextWord
    fileSize := ← nextWord
    memorySize := ← nextWord
    flags := ← nextWord
    alignment := ← nextWord
  }

def identification (length : Nat) : Reading Unit := do
  Reader.require (Format.fileHeaderSize.toNat ≤ length) (.tooShort length)
  let magic ← bytes 0 Format.magic.length
  Reader.require (magic = Format.magic) .invalidMagic
  let imageClass ← byte Format.classIndex
  Reader.require (imageClass = Format.thirtyTwoBitClass) (.unsupportedClass imageClass)
  let encoding ← byte Format.encodingIndex
  Reader.require (encoding = Format.littleEndianEncoding) (.unsupportedEncoding encoding)
  let version ← byte Format.versionIndex
  Reader.require (version.toNat = Format.currentVersion.toNat)
    (.unsupportedVersion (BitVec.ofNat 32 version.toNat))

def fileHeader (length : Nat) : Reading FileHeader := do
  identification length
  let (header, _) ← nextFileHeader.run 0
  Reader.requireFileHeader header
  return header

def programHeader (length : Nat) (offset : Word) : Reading ProgramHeader := do
  Reader.require (offset.toNat + Format.programHeaderSize.toNat ≤ length)
    (.programHeaderOutOfBounds offset)
  let (segment, _) ← nextProgramHeader.run offset.toNat
  return segment

def code (length : Nat) (segment : ProgramHeader) : Reading (List UInt8) := do
  Reader.require (segment.segmentType = Format.loadableSegment) (.notLoadable segment.segmentType)
  Reader.require (segment.fileSize = segment.memorySize)
    (.sizeMismatch segment.fileSize segment.memorySize)
  Reader.require (segment.offset.toNat + segment.fileSize.toNat ≤ length)
    (.segmentOutOfBounds segment.offset segment.fileSize)
  bytes segment.offset.toNat (segment.offset.toNat + segment.fileSize.toNat)

def ofLength (length : Nat) : Reading ParsedImage := do
  let header ← fileHeader length
  let segment ← programHeader length header.programHeaderOffset
  let code ← code length segment
  return { header := header, segment := segment, code := code }

end Reading

def ParsedImage.parse (data : List UInt8) : Except Rejection ParsedImage :=
  (Reading.ofLength data.length).outcome data

end Rv32Image
