/-
Texts in double quotes, as they are shown inside messages.
-/

import Rv32Image.Text.Hexadecimal
import Rv32Image.Text.Unprintable
import Rv32Image.Text.Combining

namespace Rv32Image.Quoted

/-- Below U+0080 no character is combining. -/
def escape (character : Char) : List Char :=
  match character with
  | '\x00' => ['\\', '0']
  | '\t' => ['\\', 't']
  | '\r' => ['\\', 'r']
  | '\n' => ['\\', 'n']
  | '\\' => ['\\', '\\']
  | '"' => ['\\', '"']
  | other =>
      if isCombining other || isUnprintable other then
        ['\\', 'u', '\x7b'] ++ Nat.toDigits 16 other.toNat ++ ['\x7d']
      else
        [other]

def ofChars (characters : List Char) : List Char :=
  '"' :: characters.flatMap escape ++ ['"']

end Rv32Image.Quoted

namespace Rv32Image

def quoted (text : String) : String :=
  String.ofList (Quoted.ofChars text.toList)

end Rv32Image
