/-
The two headers of an image as records of their fields in file order, and their bytes.
-/

import Rv32Image.Image.Format

namespace Rv32Image

structure FileHeader where
  identification : List UInt8
  fileType : Half
  machine : Half
  version : Word
  entry : Word
  programHeaderOffset : Word
  sectionHeaderOffset : Word
  flags : Word
  fileHeaderSize : Half
  programHeaderSize : Half
  programHeaderCount : Half
  sectionHeaderSize : Half
  sectionHeaderCount : Half
  sectionNameIndex : Half
deriving DecidableEq, Repr

structure ProgramHeader where
  segmentType : Word
  offset : Word
  virtualAddress : Word
  physicalAddress : Word
  fileSize : Word
  memorySize : Word
  flags : Word
  alignment : Word
deriving DecidableEq, Repr

namespace FileHeader

def executable (entry : Word) : FileHeader where
  identification :=
    Format.magic ++
      [Format.thirtyTwoBitClass, Format.littleEndianEncoding,
        UInt8.ofNat Format.currentVersion.toNat] ++ List.replicate 9 0
  fileType := Format.executableType
  machine := Format.riscvMachine
  version := Format.currentVersion
  entry := entry
  programHeaderOffset := Format.programHeaderOffset
  sectionHeaderOffset := 0
  flags := Format.machineFlags
  fileHeaderSize := Format.fileHeaderSize
  programHeaderSize := Format.programHeaderSize
  programHeaderCount := 1
  sectionHeaderSize := Format.sectionHeaderSize
  sectionHeaderCount := 0
  sectionNameIndex := 0

def bytes (header : FileHeader) : List UInt8 :=
  header.identification ++ header.fileType.bytes ++ header.machine.bytes ++
    header.version.bytes ++ header.entry.bytes ++ header.programHeaderOffset.bytes ++
    header.sectionHeaderOffset.bytes ++ header.flags.bytes ++ header.fileHeaderSize.bytes ++
    header.programHeaderSize.bytes ++ header.programHeaderCount.bytes ++
    header.sectionHeaderSize.bytes ++ header.sectionHeaderCount.bytes ++
    header.sectionNameIndex.bytes

theorem length_bytes_executable (entry : Word) : (executable entry).bytes.length = 52 := by
  simp [bytes, executable, Format.magic, Half.length_bytes, Word.length_bytes]

end FileHeader

namespace ProgramHeader

def code (loadAddress : Word) (length : Nat) : ProgramHeader where
  segmentType := Format.loadableSegment
  offset := Format.codeOffset
  virtualAddress := loadAddress
  physicalAddress := loadAddress
  fileSize := BitVec.ofNat 32 length
  memorySize := BitVec.ofNat 32 length
  flags := Format.segmentPermissions
  alignment := Format.segmentAlignment

def bytes (header : ProgramHeader) : List UInt8 :=
  header.segmentType.bytes ++ header.offset.bytes ++ header.virtualAddress.bytes ++
    header.physicalAddress.bytes ++ header.fileSize.bytes ++ header.memorySize.bytes ++
    header.flags.bytes ++ header.alignment.bytes

theorem length_bytes (header : ProgramHeader) : header.bytes.length = 32 := by
  simp [bytes, Word.length_bytes]

end ProgramHeader

end Rv32Image
