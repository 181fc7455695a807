/-
The listing of an image: its header fields, and its code with one line for four bytes.
-/

import Rv32Image.Image.Reader

namespace Rv32Image.Listing

private def word (value : Word) : String :=
  Hexadecimal.fixed 8 value.toNat

private def prefixed (value : Nat) : String :=
  "0x" ++ Hexadecimal.minimal value

def headerLines (header : FileHeader) : List String :=
  ["ELF header",
    s!"  type:        {header.fileType.toNat}",
    "  machine:     " ++ prefixed header.machine.toNat,
    s!"  version:     {header.version.toNat}",
    "  entry:       0x" ++ word header.entry,
    s!"  phoff:       {header.programHeaderOffset.toNat}",
    "  flags:       " ++ prefixed header.flags.toNat,
    s!"  sizes:       ehdr={header.fileHeaderSize.toNat}" ++
      s!" phent={header.programHeaderSize.toNat} phnum={header.programHeaderCount.toNat}" ++
      s!" shent={header.sectionHeaderSize.toNat} shnum={header.sectionHeaderCount.toNat}"]

def segmentLines (segment : ProgramHeader) : List String :=
  ["Program header",
    s!"  type:        {segment.segmentType.toNat}",
    s!"  offset:      {segment.offset.toNat}",
    "  vaddr:       0x" ++ word segment.virtualAddress,
    "  paddr:       0x" ++ word segment.physicalAddress,
    s!"  filesz:      {segment.fileSize.toNat}",
    s!"  memsz:       {segment.memorySize.toNat}",
    "  flags:       " ++ prefixed segment.flags.toNat,
    s!"  align:       {segment.alignment.toNat}"]

/-- Four bytes are one word, a shorter rest is shown byte by byte. -/
def chunkText (chunk : List UInt8) : String :=
  if chunk.length = 4 then
    word (Word.ofBytes chunk)
  else
    " ".intercalate (chunk.map Hexadecimal.ofByte)

def codeLine (address : Word) (chunk : List UInt8) : String :=
  "  " ++ word address ++ ":  " ++ chunkText chunk

def codeLines (address : Word) : List UInt8 → List String
  | [] => []
  | byte1 :: byte2 :: byte3 :: byte4 :: rest =>
      codeLine address [byte1, byte2, byte3, byte4] :: codeLines (address + 4) rest
  | rest => [codeLine address rest]

def lines (image : ParsedImage) : List String :=
  headerLines image.header ++ segmentLines image.segment ++
    [s!"Code ({image.code.length} bytes)"] ++ codeLines image.loadAddress image.code

end Rv32Image.Listing
