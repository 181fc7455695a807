/-
What the commands do, and the outcome of a whole command line.
-/

import Rv32Image.Fixture
import Rv32Image.Image.Persistence
import Rv32Image.Session.World
import Rv32Image.CommandLine.Arguments
import Rv32Image.CommandLine.Failure
import Rv32Image.CommandLine.Listing

namespace Rv32Image

abbrev Task := ExceptT Failure Session

namespace Task

def print (lines : List String) : Task Unit :=
  ExceptT.lift (Session.send (.print lines))

def log (level : LogLevel) (message : String) : Task Unit :=
  ExceptT.lift (Session.send (.log { level := level, message := message }))

def ofExcept {α : Type} (result : Except Error α) : Task α :=
  ExceptT.mk (pure (result.mapError Failure.ofError))

def within {α : Type} (context : String) (session : Session (Except Error α)) : Task α :=
  ExceptT.mk do
    return (← session).mapError fun error => (Failure.ofError error).within context

def withinStep {α : Type} (context : String) (session : Session (Except FileFault α)) : Task α :=
  ExceptT.mk do
    return (← session).mapError fun fault => (Failure.ofFault fault).within context

end Task

namespace Command

def createdLine (path : String) (image : Image) : String :=
  s!"Created {path} ({image.length} bytes)"

def buildFixture (name : String) (output? : Option String) (layout : Layout) : Task Unit := do
  let fixture ← Task.ofExcept
    (match Fixture.find? name with
      | some fixture => .ok fixture
      | none => .error (.unknownFixture name))
  let path := output?.getD fixture.fileName
  let image := fixture.image layout.entry layout.loadAddress
  Task.within ("Failed to write fixture " ++ name) (image.writeTo path)
  Task.print [createdLine path image]

def joinPath (directory file : String) : String :=
  if directory.isEmpty || directory.endsWith "/" then directory ++ file
  else directory ++ "/" ++ file

def writeFixture (directory : String) (fixture : Fixture) : Task Unit := do
  let path := joinPath directory fixture.fileName
  let image := fixture.image 0 0
  Task.within ("Failed to write fixture " ++ fixture.name) (image.writeTo path)
  Task.print [createdLine path image]

def writeAll (directory : String) : Task Unit := do
  Task.withinStep ("Failed to create output directory " ++ quoted directory)
    (Session.send (.makeDirectories directory))
  Fixture.all.forM (writeFixture directory)
  Task.log .info (s!"Wrote {Fixture.all.length} fixtures to " ++ quoted directory)

/-- Code that is not made of whole words is only worth a warning. -/
def wrapFile (source output : String) (layout : Layout) (maximalSize? : Option Nat) :
    Task Unit := do
  let code ← Task.withinStep ("Failed to read " ++ quoted source)
    (Session.send (.readFile source))
  Task.log .debug (s!"Read {code.length} bytes of code from " ++ quoted source)
  if code.length % 4 ≠ 0 then
    Task.log .warning
      (quoted source ++
        s!" is {code.length} bytes, not a whole number of 32-bit instructions")
  let image ← Task.within ("Cannot wrap " ++ quoted source)
    (pure (Image.buildWithin maximalSize? code layout.entry layout.loadAddress))
  Task.within "Failed to write image" (image.writeTo output)
  Task.print [createdLine output image]

def listImage (source : String) : Task Unit := do
  let image ← Task.within ("Failed to load " ++ quoted source) (ParsedImage.load source)
  Task.print (Listing.lines image)

def padded (width : Nat) (text : String) : String :=
  text ++ String.ofList (List.replicate (width - text.length) ' ')

def fixtureLine (fixture : Fixture) : String :=
  padded 12 fixture.name ++ " " ++ padded 16 fixture.fileName ++ " " ++ fixture.description

def task : Command → Task Unit
  | build fixture output? layout => buildFixture fixture output? layout
  | all directory => writeAll directory
  | raw source output layout maximalSize? => wrapFile source output layout maximalSize?
  | inspect source => listImage source
  | list => Task.print (Fixture.all.map fixtureLine)

end Command

/-- How records and failures become text. -/
structure Renderer where
  record : LogRecord → String
  failure : Failure → String

def Renderer.plain : Renderer where
  record := LogRecord.render
  failure := Failure.report

structure Outcome where
  exitCode : Nat
  output : String
  /-- Absent when the words were refused: how that is explained is left open. -/
  diagnostics? : Option String
  store : Store

namespace Outcome

def joinLines (lines : List String) : String :=
  String.join (lines.map (· ++ "\n"))

def ofRun (renderer : Renderer) (verbose : Bool) (result : Except Failure Unit) (world : World) :
    Outcome :=
  let shown := world.logged.filter (·.isShown verbose)
  let records := String.join (shown.map renderer.record)
  let output := joinLines world.printed
  match result with
  | .ok () =>
      { exitCode := 0, output := output, diagnostics? := some records, store := world.store }
  | .error failure =>
      { exitCode := 1
        output := output
        diagnostics? := some (records ++ renderer.failure failure)
        store := world.store }

end Outcome

def usageLines : List String :=
  ["Build minimal RV32 ELF images for simulator tests",
    "",
    "Commands:",
    "  build FIXTURE [-o PATH] [--entry ADDRESS] [--load-address ADDRESS]",
    "  all [-d DIRECTORY]",
    "  raw FILE -o PATH [--entry ADDRESS] [--load-address ADDRESS] [--max-size BYTES]",
    "  inspect FILE",
    "  list",
    "  help [COMMAND]",
    "",
    "Options:",
    "  -v, --verbose",
    "  -h, --help"]

def Invocation.outcome (invocation : Invocation) (renderer : Renderer) (store : Store) : Outcome :=
  let (result, world) := invocation.command.task.run.run (World.ofStore store)
  Outcome.ofRun renderer invocation.verbose result world

def runCommandLine (words : List String) (store : Store) : Outcome :=
  match Invocation.ofWords words with
  | .ok invocation => invocation.outcome .plain store
  | .error .helpAsked =>
      { exitCode := 0
        output := Outcome.joinLines usageLines
        diagnostics? := some ""
        store := store }
  | .error .usage =>
      { exitCode := 2, output := "", diagnostics? := none, store := store }

end Rv32Image
