/-
Addresses as a user writes them: hexadecimal after a `0x`, decimal otherwise, with
underscores ignored.
-/

import Rv32Image.Word
import Rv32Image.Text.Blank
import Rv32Image.Text.Numeral
import Rv32Image.Text.Quoted

namespace Rv32Image

structure AddressError where
  text : String
  cause : NumeralError
deriving DecidableEq, Repr

def AddressError.message (error : AddressError) : String :=
  "invalid address " ++ quoted error.text ++ ": " ++ error.cause.message

namespace Address

def radixAndDigits : List Char → Nat × List Char
  | '0' :: 'x' :: rest => (16, rest)
  | '0' :: 'X' :: rest => (16, rest)
  | characters => (10, characters)

def numeral (radix : Nat) (characters : List Char) : Except NumeralError Nat :=
  Numeral.read radix 0x100000000 (characters.filter (· != '_'))

def parse (text : String) : Except AddressError Word :=
  let trimmed := trimBlanks text.toList
  let (radix, characters) := radixAndDigits trimmed
  match numeral radix characters with
  | .ok value => .ok (BitVec.ofNat 32 value)
  | .error cause => .error { text := String.ofList trimmed, cause := cause }

end Address

end Rv32Image
