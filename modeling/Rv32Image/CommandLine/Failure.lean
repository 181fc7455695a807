/-
Failures of a command as a headline and the chain of its causes, the nearest first,
and the report of one.
-/

import Rv32Image.Error
import Rv32Image.Log

namespace Rv32Image

structure Failure where
  headline : String
  causes : List String
deriving DecidableEq, Repr

namespace Failure

def ofFault (fault : FileFault) : Failure where
  headline := fault.message
  causes := []

def ofError (error : Error) : Failure where
  headline := error.message
  causes := error.cause?.toList

def within (context : String) (failure : Failure) : Failure where
  headline := context
  causes := failure.headline :: failure.causes

private def indented (width : Nat) (text : String) : String :=
  String.ofList (LogRecord.indentLines (List.replicate width ' ') text.toList)

private def numberedCause (entry : String × Nat) : String :=
  let number := toString entry.2
  String.ofList (List.replicate (5 - number.length) ' ') ++ number ++ ": " ++ indented 7 entry.1

def causeLines (failure : Failure) : List String :=
  match failure.causes with
  | [] => []
  | [cause] => ["    " ++ indented 4 cause]
  | causes => causes.zipIdx.map numberedCause

def report (failure : Failure) : String :=
  let opening := "Error: " ++ failure.headline ++ "\n"
  match failure.causeLines with
  | [] => opening
  | lines => opening ++ "\nCaused by:\n" ++ String.join (lines.map (· ++ "\n"))

end Failure

end Rv32Image
