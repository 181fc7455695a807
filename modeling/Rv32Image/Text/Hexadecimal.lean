/-
Hexadecimal text in lower case.
-/

namespace Rv32Image.Hexadecimal

def fixedDigits : Nat → Nat → List Char
  | 0, _ => []
  | width + 1, value => fixedDigits width (value / 16) ++ [Nat.digitChar (value % 16)]

theorem length_fixedDigits (width value : Nat) : (fixedDigits width value).length = width := by
  induction width generalizing value with
  | zero => rfl
  | succ width ih => rw [fixedDigits, List.length_append, ih, List.length_singleton]

def fixed (width value : Nat) : String :=
  String.ofList (fixedDigits width value)

def minimal (value : Nat) : String :=
  String.ofList (Nat.toDigits 16 value)

def ofByte (byte : UInt8) : String :=
  fixed 2 byte.toNat

def ofBytes (bytes : List UInt8) : String :=
  String.ofList (bytes.flatMap fun byte => fixedDigits 2 byte.toNat)

end Rv32Image.Hexadecimal
