/-
The reasons why bytes are not accepted as an image, each with the value found.
-/

import Rv32Image.Word
import Rv32Image.Text.Hexadecimal

namespace Rv32Image

inductive Rejection where
  | tooShort (length : Nat)
  | invalidMagic
  | unsupportedClass (found : UInt8)
  | unsupportedEncoding (found : UInt8)
  | unsupportedVersion (found : Word)
  | unsupportedFileType (found : Half)
  | unsupportedMachine (found : Half)
  | invalidFileHeaderSize (found : Half)
  | invalidProgramHeaderSize (found : Half)
  | invalidProgramHeaderCount (found : Half)
  | programHeaderOutOfBounds (offset : Word)
  | notLoadable (found : Word)
  | sizeMismatch (fileSize memorySize : Word)
  | segmentOutOfBounds (offset size : Word)
  /-- The reader asked for bytes that the data does not have. -/
  | strayAccess (first past : Nat)
deriving DecidableEq, Repr

namespace Rejection

private def hexadecimal (word : Nat) : String :=
  "0x" ++ Hexadecimal.minimal word

def message : Rejection → String
  | tooShort length => s!"image is {length} bytes, too short for the ELF header"
  | invalidMagic => "invalid magic number"
  | unsupportedClass found =>
      s!"unsupported ELF class {found.toNat}, only 32-bit images are read"
  | unsupportedEncoding found =>
      s!"unsupported data encoding {found.toNat}, only little-endian images are read"
  | unsupportedVersion found => s!"unsupported ELF version {found.toNat}"
  | unsupportedFileType found => s!"unsupported file type {found.toNat}, expected ET_EXEC"
  | unsupportedMachine found =>
      "unsupported machine " ++ hexadecimal found.toNat ++ ", expected RISC-V"
  | invalidFileHeaderSize found => s!"invalid e_ehsize {found.toNat}"
  | invalidProgramHeaderSize found => s!"invalid e_phentsize {found.toNat}"
  | invalidProgramHeaderCount found =>
      s!"expected exactly one program header, found {found.toNat}"
  | programHeaderOutOfBounds offset =>
      "program header table at " ++ hexadecimal offset.toNat ++ " extends past end of image"
  | notLoadable found => s!"segment type {found.toNat} is not PT_LOAD"
  | sizeMismatch fileSize memorySize =>
      s!"segment file size {fileSize.toNat} differs from memory size {memorySize.toNat}"
  | segmentOutOfBounds offset size =>
      "segment at " ++ hexadecimal offset.toNat ++ "+" ++ hexadecimal size.toNat ++
        " extends past end of image"
  | strayAccess first past => s!"bytes {first} to {past} are not in the image"

end Rejection

end Rv32Image
