/-
The ways in which an operation on files can fail, with the texts and numbers that a
Unix system has for them.
-/

namespace Rv32Image

inductive FileFault where
  | notFound
  | alreadyExists
  | notADirectory
  | isADirectory
  | nameTooLong
  | resourceBusy
  | nulInName
  | other (text : String) (number : Nat)
deriving DecidableEq, Repr

namespace FileFault

private def numbered (text : String) (number : Nat) : String :=
  s!"{text} (os error {number})"

def message : FileFault → String
  | notFound => numbered "No such file or directory" 2
  | alreadyExists => numbered "File exists" 17
  | notADirectory => numbered "Not a directory" 20
  | isADirectory => numbered "Is a directory" 21
  | nameTooLong => numbered "File name too long" 36
  | resourceBusy => numbered "Device or resource busy" 16
  | nulInName => "file name contained an unexpected NUL byte"
  | other text number => numbered text number

end FileFault

end Rv32Image
