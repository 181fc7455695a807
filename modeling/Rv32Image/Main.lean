/-
The command line on the files of the operating system.
-/

import Rv32Image.CommandLine.Run

namespace Rv32Image

/-- Some calls report the number of an error negated. -/
def absoluteNumber (number : UInt32) : Nat :=
  if number.toNat < 0x80000000 then number.toNat else 0x100000000 - number.toNat

def FileFault.ofNumber (text : String) (number : UInt32) : FileFault :=
  match absoluteNumber number with
  | 2 => .notFound
  | 16 => .resourceBusy
  | 17 => .alreadyExists
  | 20 => .notADirectory
  | 21 => .isADirectory
  | 36 => .nameTooLong
  | unnamed => .other text unnamed

def FileFault.ofSystem (error : IO.Error) : FileFault :=
  match error with
  | .alreadyExists _ number text => ofNumber text number
  | .otherError number text => ofNumber text number
  | .resourceBusy number text => ofNumber text number
  | .resourceVanished number text => ofNumber text number
  | .unsupportedOperation number text => ofNumber text number
  | .hardwareFault number text => ofNumber text number
  | .unsatisfiedConstraints number text => ofNumber text number
  | .illegalOperation number text => ofNumber text number
  | .protocolError number text => ofNumber text number
  | .timeExpired number text => ofNumber text number
  | .interrupted _ number text => ofNumber text number
  | .noFileOrDirectory _ number text => ofNumber text number
  | .invalidArgument _ number text => ofNumber text number
  | .permissionDenied _ number text => ofNumber text number
  | .resourceExhausted _ number text => ofNumber text number
  | .inappropriateType _ number text => ofNumber text number
  | .noSuchThing _ number text => ofNumber text number
  | .unexpectedEof => .other "unexpected end of file" 0
  | .userError text => .other text 0

def attempt {α : Type} (action : IO α) : IO (Except FileFault α) := do
  try
    return .ok (← action)
  catch error =>
    return .error (FileFault.ofSystem error)

def Request.carryOut (verbose : Bool) : (request : Request) → IO request.Reply
  | .createNew path => attempt do discard (IO.FS.Handle.mk path .writeNew)
  | .append path bytes => attempt do
      let handle ← IO.FS.Handle.mk path .append
      handle.write ⟨bytes.toArray⟩
      handle.flush
  | .sync _ => return .ok ()
  | .rename source target => attempt (IO.FS.rename source target)
  | .remove path => attempt (IO.FS.removeFile path)
  | .readFile path => attempt do return (← IO.FS.readBinFile path).toList
  | .makeDirectories path => attempt (IO.FS.createDirAll path)
  | .print lines => lines.forM IO.println
  | .log record => do
      if record.isShown verbose then
        IO.eprint record.render

def Session.carryOut {α : Type} (verbose : Bool) : Session α → IO α
  | .done value => return value
  | .ask request next => do
      let reply ← request.carryOut verbose
      (next reply).carryOut verbose

end Rv32Image

open Rv32Image in
def main (words : List String) : IO UInt32 := do
  match Invocation.ofWords words with
  | .error .helpAsked =>
      usageLines.forM IO.println
      return 0
  | .error .usage =>
      usageLines.forM IO.eprintln
      return 2
  | .ok invocation =>
      match ← invocation.command.task.run.carryOut invocation.verbose with
      | .ok () => return 0
      | .error failure =>
          IO.eprint failure.report
          return 1
