/-
Complete images: both headers and the code in one byte string.
-/

import Rv32Image.Image.Header
import Rv32Image.Error

namespace Rv32Image

structure Image where
  bytes : List UInt8
  entry : Word
  loadAddress : Word
deriving DecidableEq, Repr

namespace Image

/-- The code is meant to have at most `Format.maximalCodeLength` bytes. -/
def build (code : List UInt8) (entry loadAddress : Word) : Image where
  bytes :=
    (FileHeader.executable entry).bytes ++
      ((ProgramHeader.code loadAddress code.length).bytes ++ code)
  entry := entry
  loadAddress := loadAddress

def buildWithin (limit? : Option Nat) (code : List UInt8) (entry loadAddress : Word) :
    Except Error Image :=
  if Format.maximalCodeLength < code.length then
    .error (.codeBeyondFormat code.length)
  else
    match limit? with
    | none => .ok (build code entry loadAddress)
    | some limit =>
        if limit < code.length then
          .error (.codeBeyondLimit code.length limit)
        else
          .ok (build code entry loadAddress)

def length (image : Image) : Nat :=
  image.bytes.length

def isEmpty (image : Image) : Bool :=
  image.bytes.isEmpty

def code (image : Image) : List UInt8 :=
  image.bytes.drop Format.codeOffset.toNat

theorem length_build (code : List UInt8) (entry loadAddress : Word) :
    (build code entry loadAddress).length = 84 + code.length := by
  rw [length, build, List.length_append, List.length_append,
    FileHeader.length_bytes_executable, ProgramHeader.length_bytes]
  omega

end Image

end Rv32Image
