/-
What each command comes to on a store in memory, one equation for each of its steps.
-/

import Rv32Image.CommandLine.Run
import Rv32Image.Proofs.Image.WriteOutcome

namespace Rv32Image

open Store

namespace Task

variable {α β : Type} (world : World)

theorem run_bind (first : Task α) (next : α → Task β) :
    (first >>= next).run.run world =
      match first.run.run world with
      | (.ok value, reached) => (next value).run.run reached
      | (.error failure, reached) => (.error failure, reached) := by
  rw [ExceptT.run_bind, Session.run_bind]
  obtain ⟨result, reached⟩ := first.run.run world
  cases result <;> rfl

theorem run_log (level : LogLevel) (message : String) :
    (log level message).run.run world =
      (.ok (), { world with logged := world.logged ++ [{ level := level, message := message }] }) :=
  rfl

theorem run_ofExcept (result : Except Error α) :
    (ofExcept result).run.run world = (result.mapError Failure.ofError, world) := rfl

theorem run_within (context : String) (session : Session (Except Error α)) :
    (within context session).run.run world =
      ((session.run world).1.mapError fun error => (Failure.ofError error).within context,
        (session.run world).2) := by
  unfold within
  change (session >>= _).run world = _
  rw [Session.run_bind]
  rfl

theorem run_withinStep (context : String) (session : Session (Except FileFault α)) :
    (withinStep context session).run.run world =
      ((session.run world).1.mapError fun fault => (Failure.ofFault fault).within context,
        (session.run world).2) := by
  unfold withinStep
  change (session >>= _).run world = _
  rw [Session.run_bind]
  rfl

end Task

namespace Command

variable (world : World)

def writeImage (context path : String) (image : Image) : Task Unit := do
  Task.within context (image.writeTo path)
  Task.print [createdLine path image]

theorem run_writeImage (context path : String) (image : Image) :
    (writeImage context path image).run.run world =
      match world.store.replaceFile path image.bytes with
      | .ok after =>
          (.ok (),
            { store := after
              printed := world.printed ++ [createdLine path image]
              logged := world.logged ++ [image.writeRecord path] })
      | .error fault =>
          (.error ((Failure.ofError (.storage path fault)).within context), world) := by
  unfold writeImage
  rw [Task.run_bind, Task.run_within, Image.run_writeTo]
  cases world.store.replaceFile path image.bytes <;> rfl

theorem run_buildFixture (name : String) (output? : Option String) (layout : Layout) :
    (buildFixture name output? layout).run.run world =
      match Fixture.find? name with
      | none => (.error (Failure.ofError (.unknownFixture name)), world)
      | some fixture =>
          (writeImage ("Failed to write fixture " ++ name) (output?.getD fixture.fileName)
            (fixture.image layout.entry layout.loadAddress)).run.run world := by
  unfold buildFixture
  rw [Task.run_bind, Task.run_ofExcept]
  cases Fixture.find? name <;> rfl

theorem run_listImage (source : String) :
    (listImage source).run.run world =
      match ParsedImage.ofFile source (world.store.readFile source) with
      | .ok image => (.ok (), { world with printed := world.printed ++ Listing.lines image })
      | .error error =>
          (.error ((Failure.ofError error).within ("Failed to load " ++ quoted source)),
            world) := by
  unfold listImage
  rw [Task.run_bind, Task.run_within, ParsedImage.run_load]
  cases ParsedImage.ofFile source (world.store.readFile source) <;> rfl

def readRecords (source : String) (code : List UInt8) : List LogRecord :=
  { level := .debug, message := s!"Read {code.length} bytes of code from " ++ quoted source } ::
    if code.length % 4 ≠ 0 then
      [{ level := .warning
         message := quoted source ++
          s!" is {code.length} bytes, not a whole number of 32-bit instructions" }]
    else []

theorem run_wrapCode (source output : String) (layout : Layout) (maximalSize? : Option Nat)
    (code : List UInt8) :
    (do let image ← Task.within ("Cannot wrap " ++ quoted source)
          (pure (Image.buildWithin maximalSize? code layout.entry layout.loadAddress))
        Task.within "Failed to write image" (image.writeTo output)
        Task.print [createdLine output image] : Task Unit).run.run world =
      match Image.buildWithin maximalSize? code layout.entry layout.loadAddress with
      | .error error =>
          (.error ((Failure.ofError error).within ("Cannot wrap " ++ quoted source)), world)
      | .ok image => (writeImage "Failed to write image" output image).run.run world := by
  have built : (pure (Image.buildWithin maximalSize? code layout.entry layout.loadAddress) :
      Session (Except Error Image)).run world =
        (Image.buildWithin maximalSize? code layout.entry layout.loadAddress, world) := rfl
  rw [Task.run_bind, Task.run_within, built]
  cases Image.buildWithin maximalSize? code layout.entry layout.loadAddress <;> rfl

theorem run_wrapFile (source output : String) (layout : Layout) (maximalSize? : Option Nat) :
    (wrapFile source output layout maximalSize?).run.run world =
      match world.store.readFile source with
      | .error fault =>
          (.error ((Failure.ofFault fault).within ("Failed to read " ++ quoted source)), world)
      | .ok code =>
          let informed := { world with logged := world.logged ++ readRecords source code }
          match Image.buildWithin maximalSize? code layout.entry layout.loadAddress with
          | .error error =>
              (.error ((Failure.ofError error).within ("Cannot wrap " ++ quoted source)), informed)
          | .ok image => (writeImage "Failed to write image" output image).run.run informed := by
  have isRead : (Session.send (.readFile source)).run world =
      (world.store.readFile source, world) := rfl
  unfold wrapFile
  rw [Task.run_bind, Task.run_withinStep, isRead]
  cases world.store.readFile source with
  | error fault => rfl
  | ok code =>
      dsimp only [Except.mapError]
      rw [Task.run_bind, Task.run_log]
      -- Both branches go on in the same way; the warning is all the difference.
      by_cases odd : code.length % 4 ≠ 0
      · dsimp only
        rw [if_pos odd, Task.run_bind, Task.run_log]
        dsimp only
        rw [run_wrapCode, readRecords, if_pos odd, List.append_assoc]
        rfl
      · dsimp only
        rw [if_neg odd, run_wrapCode, readRecords, if_neg odd]

/-- The loop over the fixtures ends with the first one that cannot be written. -/
theorem run_writeFixtures_cons (directory : String) (fixture : Fixture) (rest : List Fixture) :
    ((fixture :: rest).forM (writeFixture directory)).run.run world =
      match world.store.replaceFile (joinPath directory fixture.fileName)
          (fixture.image 0 0).bytes with
      | .error fault =>
          (.error ((Failure.ofError (.storage (joinPath directory fixture.fileName) fault)).within
            ("Failed to write fixture " ++ fixture.name)), world)
      | .ok after =>
          (rest.forM (writeFixture directory)).run.run
            { store := after
              printed := world.printed ++
                [createdLine (joinPath directory fixture.fileName) (fixture.image 0 0)]
              logged := world.logged ++
                [(fixture.image 0 0).writeRecord (joinPath directory fixture.fileName)] } := by
  have one : (writeFixture directory fixture).run.run world = _ :=
    run_writeImage world ("Failed to write fixture " ++ fixture.name)
      (joinPath directory fixture.fileName) (fixture.image 0 0)
  change (writeFixture directory fixture >>= fun _ =>
    rest.forM (writeFixture directory)).run.run world = _
  rw [Task.run_bind, one]
  cases world.store.replaceFile (joinPath directory fixture.fileName)
    (fixture.image 0 0).bytes <;> rfl

def closingRecords (directory : String) : Except Failure Unit → List LogRecord
  | .error _ => []
  | .ok () =>
      [{ level := .info
         message := s!"Wrote {Fixture.all.length} fixtures to " ++ quoted directory }]

theorem run_writeAll (directory : String) :
    (writeAll directory).run.run world =
      match world.store.makeDirectories directory with
      | (prepared, .error fault) =>
          (.error ((Failure.ofFault fault).within
            ("Failed to create output directory " ++ quoted directory)),
            { world with store := prepared })
      | (prepared, .ok ()) =>
          let (result, reached) := (Fixture.all.forM (writeFixture directory)).run.run
            { world with store := prepared }
          (result,
            { reached with logged := reached.logged ++ closingRecords directory result }) := by
  have made : (Session.send (.makeDirectories directory)).run world =
      ((world.store.makeDirectories directory).2,
        { world with store := (world.store.makeDirectories directory).1 }) := rfl
  unfold writeAll
  rw [Task.run_bind, Task.run_withinStep, made]
  obtain ⟨prepared, reply⟩ := world.store.makeDirectories directory
  cases reply with
  | error fault => rfl
  | ok =>
      dsimp only [Except.mapError]
      rw [Task.run_bind]
      obtain ⟨result, reached⟩ := (Fixture.all.forM (writeFixture directory)).run.run
        { world with store := prepared }
      cases result with
      | ok => rfl
      | error failure =>
          dsimp only [closingRecords]
          rw [List.append_nil]

end Command

/-! ### Outcomes -/

section Outcomes

variable (renderer : Renderer)

theorem outcome_eq {invocation : Invocation} {store : Store} {result : Except Failure Unit}
    {reached : World}
    (ran : invocation.command.task.run.run (World.ofStore store) = (result, reached)) :
    invocation.outcome renderer store =
      Outcome.ofRun renderer invocation.verbose result reached := by
  unfold Invocation.outcome
  rw [ran]

theorem Outcome.exitCode_eq_zero_iff (verbose : Bool) (result : Except Failure Unit)
    (world : World) : (ofRun renderer verbose result world).exitCode = 0 ↔ result = .ok () := by
  cases result with
  | ok => exact Iff.intro (fun _ => rfl) (fun _ => rfl)
  | error failure => exact Iff.intro nofun nofun

theorem Outcome.store_ofRun (verbose : Bool) (result : Except Failure Unit) (world : World) :
    (ofRun renderer verbose result world).store = world.store := by
  cases result <;> rfl

theorem Outcome.output_ofRun (verbose : Bool) (result : Except Failure Unit) (world : World) :
    (ofRun renderer verbose result world).output = joinLines world.printed := by
  cases result <;> rfl

end Outcomes

end Rv32Image
