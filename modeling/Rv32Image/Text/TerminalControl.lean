/-
What is left of a text when the control functions of terminals are taken out.
-/

namespace Rv32Image

/-- The part of a control function that a reader stands in. -/
inductive ControlState where
  | ground
  | escape
  | escapeIntermediate
  | controlSequence
  | deviceControl
  | deviceParameters
  | deviceIntermediate
  | controlString
  | systemCommand
deriving DecidableEq, Repr

namespace TerminalControl

def isAscii (character : Char) : Bool :=
  character.toNat < 0x80

def isWithin (first last : Nat) (character : Char) : Bool :=
  first ≤ character.toNat && character.toNat ≤ last

def isLayout (character : Char) : Bool :=
  character.toNat == 0x9 || character.toNat == 0xA || character.toNat == 0xC ||
    character.toNat == 0xD

def isPlain (character : Char) : Bool :=
  isLayout character || isWithin 0x20 0x7E character || !isAscii character

/-- Some byte of the encoded character is the eight-bit string terminator. -/
def hidesTerminator (character : Char) : Bool :=
  (String.utf8EncodeChar character).contains 0x9C

end TerminalControl

namespace ControlState

open TerminalControl

def afterEscape (character : Char) : ControlState :=
  match character with
  | '[' => controlSequence
  | ']' => systemCommand
  | 'P' => deviceControl
  | 'X' | '^' | '_' => controlString
  | other =>
      if isWithin 0x20 0x2F other then escapeIntermediate
      else if isWithin 0x30 0x7E other then ground
      else escape

/-- What is out of order makes a string that is only skipped. -/
def withinDeviceHeader (state : ControlState) (character : Char) : ControlState :=
  if isWithin 0x20 0x2F character then deviceIntermediate
  else if isWithin 0x40 0x7E character then controlString
  else if isWithin 0x30 0x3F character then
    match state with
    | deviceIntermediate => controlString
    | deviceParameters =>
        if isWithin 0x30 0x3B character then deviceParameters else controlString
    | _ => deviceParameters
  else state

def next (state : ControlState) (character : Char) : ControlState :=
  match character with
  | '\x18' | '\x1a' => ground
  | '\x1b' => escape
  | other =>
      match state with
      | ground => ground
      | escape => afterEscape other
      | escapeIntermediate => if isWithin 0x30 0x7E other then ground else escapeIntermediate
      | controlSequence => if isWithin 0x40 0x7E other then ground else controlSequence
      | deviceControl | deviceParameters | deviceIntermediate => withinDeviceHeader state other
      | controlString =>
          if !isAscii other && hidesTerminator other then ground else controlString
      | systemCommand => if other == '\x07' then ground else systemCommand

/-- Layout is shown even inside a control function, but not inside a string. -/
def shows (state : ControlState) (character : Char) : Bool :=
  match state with
  | ground => isPlain character
  | escape | escapeIntermediate | controlSequence => isLayout character
  | _ => false

end ControlState

structure ControlReader where
  state : ControlState
  showing : Bool
deriving DecidableEq, Repr

namespace ControlReader

open TerminalControl

def start : ControlReader where
  state := .ground
  showing := false

def keeps (reader : ControlReader) (character : Char) : Bool :=
  reader.showing && isPlain character || reader.state.shows character

/-- While plain characters are shown an unfinished control function waits; a
character beyond ASCII drops it. -/
def after (reader : ControlReader) (character : Char) : ControlReader where
  state :=
    if reader.showing && isPlain character then
      if isAscii character then reader.state else .ground
    else
      reader.state.next character
  showing := reader.keeps character

def kept : ControlReader → List Char → List Char
  | _, [] => []
  | reader, character :: rest =>
      let remaining := (reader.after character).kept rest
      if reader.keeps character then character :: remaining else remaining

end ControlReader

def withoutTerminalControl (text : String) : String :=
  String.ofList (ControlReader.start.kept text.toList)

end Rv32Image
