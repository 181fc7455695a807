/-
Instruction words accumulated into code.
-/

import Rv32Image.Image.Basic

namespace Rv32Image

structure Builder where
  code : List UInt8
deriving DecidableEq, Repr

namespace Builder

def empty : Builder where
  code := []

def offset (builder : Builder) : Nat :=
  builder.code.length

def emit (builder : Builder) (word : Word) : Builder where
  code := builder.code ++ word.bytes

def reserve (builder : Builder) : Nat × Builder :=
  (builder.offset, builder.emit 0)

/-- Nothing is written unless all four bytes are part of the code. -/
def patch? (builder : Builder) (position : Nat) (word : Word) : Option Builder :=
  if position + 4 ≤ builder.code.length then
    some { code := builder.code.take position ++ word.bytes ++ builder.code.drop (position + 4) }
  else
    none

def signedOffset (offset : Nat) : Int :=
  (BitVec.ofNat 32 offset).toInt

def branchOffset? (source target : Nat) : Option Int :=
  let distance := signedOffset target - signedOffset source
  if -0x80000000 ≤ distance ∧ distance < 0x80000000 then some distance else none

def build (builder : Builder) (entry loadAddress : Word) : Image :=
  Image.build builder.code entry loadAddress

theorem offset_emit (builder : Builder) (word : Word) :
    (builder.emit word).offset = builder.offset + 4 := by
  rw [offset, emit, List.length_append, Word.length_bytes, offset]

end Builder

end Rv32Image
