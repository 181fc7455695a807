/-
Assembly with labels.  A branch to a label that comes later gets a slot first, which
is filled when the label is known.
-/

import Rv32Image.Assembly.Line

namespace Rv32Image

abbrev Assembly := StateT Builder Option

namespace Assembly

def line (line : Line) : Assembly Unit :=
  modify fun builder => builder.emitLine line

def label : Assembly Nat := do
  return (← get).offset

def slot : Assembly Nat :=
  modifyGet Builder.reserve

def distance (source target : Nat) : Assembly Int :=
  StateT.lift (Builder.branchOffset? source target)

def fill (slot : Nat) (instruction : Instruction) : Assembly Unit := fun builder => do
  return ((), ← builder.patch? slot instruction.encode)

end Assembly

end Rv32Image
