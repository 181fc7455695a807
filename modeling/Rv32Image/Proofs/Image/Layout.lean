/-
Where each field of an image stands in its bytes.  Nothing is tested here, and bytes
that the data does not have count as absent.
-/

import Rv32Image.Image.Reader
import Rv32Image.Proofs.Bytes.Window

namespace Rv32Image

namespace FileHeader

def ofData (data : List UInt8) : FileHeader where
  identification := window data 0 16
  fileType := halfAt data 16
  machine := halfAt data 18
  version := wordAt data 20
  entry := wordAt data 24
  programHeaderOffset := wordAt data 28
  sectionHeaderOffset := wordAt data 32
  flags := wordAt data 36
  fileHeaderSize := halfAt data 40
  programHeaderSize := halfAt data 42
  programHeaderCount := halfAt data 44
  sectionHeaderSize := halfAt data 46
  sectionHeaderCount := halfAt data 48
  sectionNameIndex := halfAt data 50

theorem ofData_bytes_append {header : FileHeader} (sixteen : header.identification.length = 16)
    (rest : List UInt8) :
    ofData (header.bytes ++ rest) = header := by
  simp [ofData, bytes, List.append_assoc, window_append_left, halfAt_append_right,
    wordAt_append_right, halfAt_bytes_append, wordAt_bytes_append, Half.length_bytes,
    Word.length_bytes, sixteen]

theorem bytes_ofData {data : List UInt8} (inside : 52 ≤ data.length) :
    (ofData data).bytes = window data 0 52 := by
  rw [bytes, ofData]
  simp (disch := omega) only [bytes_halfAt, bytes_wordAt, window_append_window]

end FileHeader

namespace ProgramHeader

def ofData (data : List UInt8) (start : Nat) : ProgramHeader where
  segmentType := wordAt data start
  offset := wordAt data (start + 4)
  virtualAddress := wordAt data (start + 8)
  physicalAddress := wordAt data (start + 12)
  fileSize := wordAt data (start + 16)
  memorySize := wordAt data (start + 20)
  flags := wordAt data (start + 24)
  alignment := wordAt data (start + 28)

theorem ofData_bytes_append (first : List UInt8) (header : ProgramHeader) (rest : List UInt8) :
    ofData (first ++ (header.bytes ++ rest)) first.length = header := by
  simp [ofData, bytes, List.append_assoc, wordAt_append_right, wordAt_bytes_append,
    Word.length_bytes]

theorem bytes_ofData {data : List UInt8} {start : Nat} (inside : start + 32 ≤ data.length) :
    (ofData data start).bytes = window data start 32 := by
  rw [bytes, ofData]
  simp (disch := omega) only [bytes_wordAt, window_append_window]

end ProgramHeader

def ParsedImage.ofData (data : List UInt8) : ParsedImage :=
  let header := FileHeader.ofData data
  let segment := ProgramHeader.ofData data header.programHeaderOffset.toNat
  { header := header
    segment := segment
    code := window data segment.offset.toNat segment.fileSize.toNat }

end Rv32Image
