/-
The command line as a language: from the words that were given to the command that
they ask for.  Words are taken from left to right, and the first one that does not
fit ends the reading, as does a request for help.
-/

import Rv32Image.Address

namespace Rv32Image

structure Layout where
  entry : Word
  loadAddress : Word
deriving DecidableEq, Repr

inductive Command where
  | build (fixture : String) (output? : Option String) (layout : Layout)
  | all (directory : String)
  | raw (source output : String) (layout : Layout) (maximalSize? : Option Nat)
  | inspect (source : String)
  | list
deriving DecidableEq, Repr

structure Invocation where
  command : Command
  verbose : Bool
deriving DecidableEq, Repr

inductive Refusal where
  | usage
  | helpAsked
deriving DecidableEq, Repr

namespace Arguments

inductive Verb where
  | build | all | raw | inspect | list
deriving DecidableEq, Repr

inductive ValueOption where
  | output | entry | loadAddress | maximalSize | directory
deriving DecidableEq, Repr

inductive Switch where
  | help
  | verbose
  | value (option : ValueOption)
deriving DecidableEq, Repr

def Verb.ofName? : String → Option Verb
  | "build" => some build
  | "all" => some all
  | "raw" => some raw
  | "inspect" => some inspect
  | "list" => some list
  | _ => none

def Verb.options : Verb → List ValueOption
  | build => [.output, .entry, .loadAddress]
  | all => [.directory]
  | raw => [.output, .entry, .loadAddress, .maximalSize]
  | inspect => []
  | list => []

def Verb.takesOperand : Verb → Bool
  | build => true
  | raw => true
  | inspect => true
  | all => false
  | list => false

def ValueOption.longName : ValueOption → String
  | output => "output"
  | entry => "entry"
  | loadAddress => "load-address"
  | maximalSize => "max-size"
  | directory => "dir"

def ValueOption.letter? : ValueOption → Option Char
  | output => some 'o'
  | directory => some 'd'
  | _ => none

def Switch.ofLongName? (options : List ValueOption) (name : String) : Option Switch :=
  if name = "help" then some .help
  else if name = "verbose" then some .verbose
  else (options.find? fun option => option.longName == name).map .value

def Switch.ofLetter? (options : List ValueOption) (letter : Char) : Option Switch :=
  if letter = 'h' then some .help
  else if letter = 'v' then some .verbose
  else (options.find? fun option => option.letter? == some letter).map .value

inductive Shape where
  | doubleDash
  | long (name : String) (attached? : Option String)
  | letters (letters : List Char)
  | value
deriving DecidableEq, Repr

/-- A single dash is a value. -/
def Shape.ofWord (word : String) : Shape :=
  match word.toList with
  | ['-', '-'] => .doubleDash
  | '-' :: '-' :: rest =>
      let name := String.ofList (rest.takeWhile (· != '='))
      match rest.dropWhile (· != '=') with
      | [] => .long name none
      | _ :: attached => .long name (some (String.ofList attached))
  | '-' :: letter :: rest => .letters (letter :: rest)
  | _ => .value

structure Reading where
  verbose : Bool
  operand? : Option String
  output? : Option String
  entryPoint? : Option Word
  loadAddress? : Option Word
  maximalSize? : Option Nat
  directory? : Option String
  waiting? : Option ValueOption
  /-- A double dash has been read. -/
  valuesOnly : Bool
deriving DecidableEq, Repr

def Reading.start : Reading where
  verbose := false
  operand? := none
  output? := none
  entryPoint? := none
  loadAddress? := none
  maximalSize? := none
  directory? := none
  waiting? := none
  valuesOnly := false

def refuse {α : Type} : Except Refusal α :=
  .error .usage

def once {α : Type} (present? : Option α) (value? : Option α) : Except Refusal (Option α) :=
  match present?, value? with
  | none, some value => .ok (some value)
  | _, _ => refuse

def path? (text : String) : Option String :=
  if text.isEmpty then none else some text

def address? (text : String) : Option Word :=
  (Address.parse text).toOption

def size? (text : String) : Option Nat :=
  (Numeral.read 10 0x10000000000000000 text.toList).toOption

def Reading.setVerbose (reading : Reading) : Except Refusal Reading :=
  if reading.verbose then refuse else .ok { reading with verbose := true }

def Reading.setOption (reading : Reading) (option : ValueOption) (text : String) :
    Except Refusal Reading :=
  match option with
  | .output => do
      return { reading with output? := ← once reading.output? (path? text) }
  | .entry => do
      return { reading with entryPoint? := ← once reading.entryPoint? (address? text) }
  | .loadAddress => do
      return { reading with loadAddress? := ← once reading.loadAddress? (address? text) }
  | .maximalSize => do
      return { reading with maximalSize? := ← once reading.maximalSize? (size? text) }
  | .directory => do
      return { reading with directory? := ← once reading.directory? (path? text) }

/-- The name of a fixture may be empty, a file may not. -/
def Reading.setOperand (reading : Reading) (verb : Verb) (text : String) :
    Except Refusal Reading :=
  if verb.takesOperand then do
    let operand? := if verb = .build then some text else path? text
    return { reading with operand? := ← once reading.operand? operand? }
  else
    refuse

def Reading.readLong (options : List ValueOption) (reading : Reading) (name : String)
    (attached? : Option String) : Except Refusal Reading :=
  match Switch.ofLongName? options name, attached? with
  | some .help, none => .error .helpAsked
  | some .verbose, none => reading.setVerbose
  | some (.value option), some text => reading.setOption option text
  | some (.value option), none => .ok { reading with waiting? := some option }
  | _, _ => refuse

/-- The first letter with a value takes the rest of the word as that value. -/
def Reading.readLetters (options : List ValueOption) (reading : Reading) :
    List Char → Except Refusal Reading
  | [] => .ok reading
  | letter :: rest =>
      match Switch.ofLetter? options letter with
      | none => refuse
      | some .help => .error .helpAsked
      | some .verbose => do (← reading.setVerbose).readLetters options rest
      | some (.value option) =>
          match rest with
          | [] => .ok { reading with waiting? := some option }
          | '=' :: text => reading.setOption option (String.ofList text)
          | text => reading.setOption option (String.ofList text)

def Reading.readWord (verb : Verb) (reading : Reading) (word : String) :
    Except Refusal Reading :=
  if reading.valuesOnly then
    reading.setOperand verb word
  else
    match reading.waiting?, Shape.ofWord word with
    | some option, .value => { reading with waiting? := none }.setOption option word
    | some _, _ => refuse
    | none, .doubleDash => .ok { reading with valuesOnly := true }
    | none, .long name attached? => reading.readLong verb.options name attached?
    | none, .letters letters => reading.readLetters verb.options letters
    | none, .value => reading.setOperand verb word

def Reading.layout (reading : Reading) : Layout where
  entry := reading.entryPoint?.getD 0
  loadAddress := reading.loadAddress?.getD 0

def Reading.command (reading : Reading) (verb : Verb) : Except Refusal Command :=
  if reading.waiting?.isSome then
    refuse
  else
    match verb, reading.operand? with
    | .build, some fixture => .ok (.build fixture reading.output? reading.layout)
    | .all, none => .ok (.all (reading.directory?.getD "."))
    | .raw, some source =>
        match reading.output? with
        | some output => .ok (.raw source output reading.layout reading.maximalSize?)
        | none => refuse
    | .inspect, some source => .ok (.inspect source)
    | .list, none => .ok .list
    | _, _ => refuse

def ofVerb (verb : Verb) (verbose : Bool) (words : List String) : Except Refusal Invocation := do
  let reading ← words.foldlM (Reading.readWord verb) Reading.start
  let command ← reading.command verb
  return { command := command, verbose := verbose || reading.verbose }

/-- Help on a command is asked for by its name, and on help by its own. -/
def ofHelp (words : List String) : Refusal :=
  match words with
  | [] => .helpAsked
  | [name] => if name = "help" ∨ (Verb.ofName? name).isSome then .helpAsked else .usage
  | _ => .usage

def read (reading : Reading) : List String → Except Refusal Invocation
  | [] => refuse
  | word :: rest =>
      match Shape.ofWord word with
      | .doubleDash => refuse
      | .long name attached? => do (read (← reading.readLong [] name attached?) rest)
      | .letters letters => do (read (← reading.readLetters [] letters) rest)
      | .value =>
          match Verb.ofName? word with
          | some verb => ofVerb verb reading.verbose rest
          | none => if word = "help" then .error (ofHelp rest) else refuse

end Arguments

def Invocation.ofWords (words : List String) : Except Refusal Invocation :=
  Arguments.read Arguments.Reading.start words

end Rv32Image
