/-
The errors of the library.
-/

import Rv32Image.Image.Format
import Rv32Image.Image.Rejection
import Rv32Image.Storage.Fault

namespace Rv32Image

inductive Error where
  | codeBeyondFormat (length : Nat)
  | codeBeyondLimit (length limit : Nat)
  /-- The path is the one the caller gave, never that of the temporary file. -/
  | storage (path : String) (fault : FileFault)
  | malformed (reason : Rejection)
  | unknownFixture (name : String)
deriving DecidableEq, Repr

namespace Error

def message : Error → String
  | codeBeyondFormat length =>
      s!"invalid input: code is {length} bytes, a 32-bit image holds at most " ++
        toString Format.maximalCodeLength
  | codeBeyondLimit length limit =>
      s!"invalid input: code is {length} bytes, limit is {limit}"
  | storage path fault => s!"I/O error on {path}: {fault.message}"
  | malformed reason => s!"malformed ELF image: {reason.message}"
  | unknownFixture name => "unknown fixture \x60" ++ name ++ "\x60"

def cause? : Error → Option String
  | storage _ fault => some fault.message
  | malformed reason => some reason.message
  | _ => none

end Error

end Rv32Image
