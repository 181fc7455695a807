/-
Records of what a program did, and their text.
-/

import Rv32Image.Text.TerminalControl

namespace Rv32Image

inductive LogLevel where
  | debug
  | info
  | warning
deriving DecidableEq, Repr

structure LogRecord where
  level : LogLevel
  message : String
deriving DecidableEq, Repr

def LogLevel.label : LogLevel → String
  | debug => "[DEBUG]"
  | info => "[INFO ]"
  | warning => "[WARN ]"

namespace LogRecord

def indentLines (indent : List Char) (characters : List Char) : List Char :=
  characters.flatMap fun character => if character = '\n' then '\n' :: indent else [character]

def render (record : LogRecord) : String :=
  withoutTerminalControl
    (record.level.label ++ " " ++
      String.ofList (indentLines (List.replicate 4 ' ') record.message.toList) ++ "\n")

def isShown (verbose : Bool) (record : LogRecord) : Bool :=
  verbose || record.level == .warning

end LogRecord

end Rv32Image
