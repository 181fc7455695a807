/-
What a command leaves behind when it fails on the way.
-/

import Rv32Image.Proofs.CommandLine.Tasks
import Rv32Image.Proofs.Storage.MakeDirectories

namespace Rv32Image

open Store Command

/-! ### Files of a directory -/

theorem Store.fileLocation_ends_in {store : Store} {text name : String} {location : Location}
    {leading : List Segment} (named : store.fileLocation? text = some location)
    (segments : (Path.ofText text).segments = leading ++ [.name name]) :
    ∃ parent, location = parent ++ [name] := by
  obtain ⟨path, parent, last, names, rfl⟩ := namesFile_of_fileLocation named
  have isLast := (place_eq_ok names.placed).2.2
  unfold lastName? at isLast
  rw [(Path.parse_eq_ok names.parsed).2, segments, List.getLast?_concat] at isLast
  cases isLast
  exact ⟨parent, rfl⟩

theorem segments_joinPath (directory : String) {file : String} (noSlash : '/' ∉ file.toList)
    (long : 2 < file.toList.length) :
    ∃ leading, (Path.ofText (joinPath directory file)).segments = leading ++ [.name file] := by
  have last : Segment.ofPart? file.toList = some (.name file) := by
    rw [ofPart_of_long long, String.ofList_toList]
  have behind (front : List Char) (text : String)
      (characters : text.toList = front ++ '/' :: file.toList) :
      ∃ leading, (Path.ofText text).segments = leading ++ [.name file] := by
    have split : splitAtSlashes text.toList = splitAtSlashes front ++ [file.toList] := by
      rw [characters, splitAtSlashes_append_slash, splitAtSlashes_of_no_slash noSlash]
    exact ⟨_, Path.segments_ofText text split last⟩
  unfold joinPath
  by_cases empty : directory.isEmpty = true
  · rw [empty, Bool.true_or, if_pos rfl, String.isEmpty_iff.mp empty]
    have split : splitAtSlashes ("" ++ file).toList = [] ++ [file.toList] := by
      rw [String.toList_append]
      exact splitAtSlashes_of_no_slash noSlash
    exact ⟨_, Path.segments_ofText _ split last⟩
  · by_cases closed : directory.endsWith "/" = true
    · rw [closed, Bool.or_true, if_pos rfl]
      obtain ⟨front, ending⟩ := String.Slice.endsWith_string_iff.mp closed
      rw [String.copy_toSlice] at ending
      apply behind front
      rw [String.toList_append, ← ending, List.append_assoc]
      rfl
    · rw [if_neg (by simp [empty, closed])]
      apply behind directory.toList
      rw [String.toList_append, String.toList_append, List.append_assoc]
      rfl

theorem temporaryPath_joinPath (directory file : String) :
    Image.temporaryPath (joinPath directory file) =
      joinPath directory (Image.temporaryPath file) := by
  unfold joinPath Image.temporaryPath
  split
  · rw [String.append_assoc]
  · rw [String.append_assoc]

namespace Fixture

def pathIn (fixture : Fixture) (directory : String) : String :=
  joinPath directory fixture.fileName

theorem fileName_plain : ∀ fixture ∈ all, '/' ∉ fixture.fileName.toList ∧
    2 < fixture.fileName.toList.length ∧ ¬ ".tmp".toList <:+ fixture.fileName.toList := by
  decide

theorem fileName_nodup : (all.map fileName).Nodup := by
  decide

theorem location_ends_in {store : Store} {fixture : Fixture} {directory : String}
    {location : Location} (member : fixture ∈ all)
    (named : store.fileLocation? (fixture.pathIn directory) = some location) :
    ∃ parent, location = parent ++ [fixture.fileName] := by
  obtain ⟨noSlash, long, _⟩ := fileName_plain fixture member
  obtain ⟨leading, segments⟩ := segments_joinPath directory noSlash long
  exact fileLocation_ends_in named segments

theorem temporary_ends_in {store : Store} {fixture : Fixture} {directory : String}
    {location : Location} (member : fixture ∈ all)
    (named : store.fileLocation? (Image.temporaryPath (fixture.pathIn directory)) =
      some location) :
    ∃ parent, location = parent ++ [fixture.fileName ++ ".tmp"] := by
  obtain ⟨noSlash, long, _⟩ := fileName_plain fixture member
  have stillNoSlash : '/' ∉ (Image.temporaryPath fixture.fileName).toList := by
    rw [Image.temporaryPath, String.toList_append, List.mem_append, not_or]
    exact ⟨noSlash, by decide⟩
  have stillLong : 2 < (Image.temporaryPath fixture.fileName).toList.length := by
    rw [Image.temporaryPath, String.toList_append, List.length_append]
    omega
  obtain ⟨leading, segments⟩ := segments_joinPath directory stillNoSlash stillLong
  rw [pathIn, temporaryPath_joinPath] at named
  exact fileLocation_ends_in named segments

/-- No fixture is written in place of a temporary file. -/
theorem location_ne_temporary {store : Store} {fixture : Fixture} {directory : String}
    (member : fixture ∈ all) (parent : Location) (name : String) :
    store.fileLocation? (fixture.pathIn directory) ≠ some (parent ++ [name ++ ".tmp"]) := by
  intro named
  obtain ⟨other, same⟩ := location_ends_in member named
  have isName : name ++ ".tmp" = fixture.fileName :=
    List.head_eq_of_cons_eq (List.append_inj' same rfl).2
  apply (fileName_plain fixture member).2.2
  rw [← isName, String.toList_append]
  exact List.suffix_append _ _

theorem location_injective {store : Store} {first second : Fixture} {directory : String}
    {location : Location} (firstMember : first ∈ all) (secondMember : second ∈ all)
    (firstNamed : store.fileLocation? (first.pathIn directory) = some location)
    (secondNamed : store.fileLocation? (second.pathIn directory) = some location) :
    first.fileName = second.fileName := by
  obtain ⟨_, rfl⟩ := location_ends_in firstMember firstNamed
  obtain ⟨_, same⟩ := location_ends_in secondMember secondNamed
  exact List.head_eq_of_cons_eq (List.append_inj' same rfl).2

end Fixture

/-! ### The loop over the fixtures -/

/-- Some fixtures have been written into a directory, and nothing else has happened. -/
structure Written (directory : String) (before : Store) (done : List Fixture) (world : World) :
    Prop where
  directories : SameDirectories before world.store
  complete : ∀ fixture ∈ done, ∃ location,
    before.fileLocation? (fixture.pathIn directory) = some location ∧
      world.store.get? location = some (.file (fixture.image 0 0).bytes)
  elsewhere : ∀ location,
    (∀ fixture ∈ done, before.fileLocation? (fixture.pathIn directory) ≠ some location) →
      world.store.get? location = before.get? location
  temporaries : ∀ fixture ∈ done, ∃ temporary,
    before.fileLocation? (Image.temporaryPath (fixture.pathIn directory)) = some temporary ∧
      before.get? temporary = none
  printed : world.printed =
    done.map fun fixture => createdLine (fixture.pathIn directory) (fixture.image 0 0)
  logged : world.logged =
    done.map fun fixture => (fixture.image 0 0).writeRecord (fixture.pathIn directory)

namespace Written

variable {directory : String} {before : Store} {done rest : List Fixture} {world : World}

theorem initial (directory : String) (before : Store) :
    Written directory before [] (World.ofStore before) where
  directories := ⟨rfl, fun _ => rfl⟩
  complete := nofun
  elsewhere := fun _ _ => rfl
  temporaries := nofun
  printed := rfl
  logged := rfl

theorem atTemporary (written : Written directory before done world)
    (known : ∀ fixture ∈ done, fixture ∈ Fixture.all) (parent : Location) (name : String) :
    world.store.get? (parent ++ [name ++ ".tmp"]) = before.get? (parent ++ [name ++ ".tmp"]) := by
  apply written.elsewhere
  intro fixture member
  exact Fixture.location_ne_temporary (known fixture member) parent name

theorem next {fixture : Fixture} {after : Store} (written : Written directory before done world)
    (split : Fixture.all = done ++ fixture :: rest)
    (replaced : world.store.replaceFile (fixture.pathIn directory) (fixture.image 0 0).bytes =
      .ok after) :
    Written directory before (done ++ [fixture])
      { store := after
        printed := world.printed ++ [createdLine (fixture.pathIn directory) (fixture.image 0 0)]
        logged := world.logged ++
          [(fixture.image 0 0).writeRecord (fixture.pathIn directory)] } := by
  have member : fixture ∈ Fixture.all := by
    rw [split]
    exact List.mem_append_right _ List.mem_cons_self
  have known : ∀ other ∈ done, other ∈ Fixture.all := by
    intro other isDone
    rw [split]
    exact List.mem_append_left _ isDone
  have fresh : ∀ other ∈ done, other.fileName ≠ fixture.fileName := by
    intro other isDone
    have distinct := Fixture.fileName_nodup
    rw [split, List.map_append, List.nodup_append] at distinct
    exact distinct.2.2 _ (List.mem_map_of_mem isDone) _ List.mem_cons_self
  obtain ⟨temporary, destination, temporaryNamed, absent, named, noDirectory, rfl⟩ :=
    (replaceFile_eq_ok_iff _ _ _ _).mp replaced
  rw [fileLocation_eq_of_sameDirectories written.directories] at named temporaryNamed
  -- The temporary file was free at the start too: nothing written so far has such a name.
  obtain ⟨parent, isTemporary⟩ := Fixture.temporary_ends_in member temporaryNamed
  rw [isTemporary, written.atTemporary known, ← isTemporary] at absent
  constructor
  case directories =>
    exact written.directories.trans (sameDirectories_insert_file noDirectory _)
  case complete =>
    intro other isDone
    rcases List.mem_append.mp isDone with earlier | now
    · obtain ⟨location, otherNamed, there⟩ := written.complete other earlier
      refine ⟨location, otherNamed, ?_⟩
      rw [get?_insert_of_ne, there]
      rintro rfl
      exact fresh other earlier
        (Fixture.location_injective (known other earlier) member otherNamed named)
    · rw [List.mem_singleton.mp now]
      exact ⟨destination, named, get?_insert_self (fileLocation_ne_root named)⟩
  case elsewhere =>
    intro location unnamed
    rw [get?_insert_of_ne]
    · apply written.elsewhere
      intro other isDone
      exact unnamed other (List.mem_append_left _ isDone)
    · rintro rfl
      exact unnamed fixture (List.mem_append_right _ (List.mem_singleton_self _)) named
  case temporaries =>
    intro other isDone
    rcases List.mem_append.mp isDone with earlier | now
    · exact written.temporaries other earlier
    · rw [List.mem_singleton.mp now]
      exact ⟨temporary, temporaryNamed, absent⟩
  case printed =>
    rw [List.map_append, ← written.printed]
    rfl
  case logged =>
    rw [List.map_append, ← written.logged]
    rfl

/-- The loop stops behind some of the fixtures, and it succeeds if none is left. -/
theorem run (written : Written directory before done world)
    (split : Fixture.all = done ++ rest) :
    ∃ more left result reached, rest = more ++ left ∧
      (rest.forM (writeFixture directory)).run.run world = (result, reached) ∧
      Written directory before (done ++ more) reached ∧ (result = .ok () ↔ left = []) := by
  induction rest generalizing done world with
  | nil =>
      refine ⟨[], [], .ok (), world, rfl, rfl, ?_, Iff.intro (fun _ => rfl) (fun _ => rfl)⟩
      rw [List.append_nil]
      exact written
  | cons fixture rest ih =>
      rw [run_writeFixtures_cons]
      cases replaced : world.store.replaceFile (joinPath directory fixture.fileName)
          (fixture.image 0 0).bytes with
      | error fault =>
          refine ⟨[], fixture :: rest, _, world, rfl, rfl, ?_, Iff.intro nofun nofun⟩
          rw [List.append_nil]
          exact written
      | ok after =>
          obtain ⟨more, left, result, reached, isRest, ran, further, complete⟩ :=
            ih (written.next split replaced) (split.trans (List.append_cons _ _ _))
          rw [List.append_assoc] at further
          exact ⟨fixture :: more, left, result, reached, congrArg (fixture :: ·) isRest, ran,
            further, complete⟩

theorem replaceFile_again (written : Written directory before Fixture.all world) :
    ∀ fixture ∈ Fixture.all,
      world.store.replaceFile (fixture.pathIn directory) (fixture.image 0 0).bytes =
        .ok world.store := by
  intro fixture member
  obtain ⟨location, named, there⟩ := written.complete fixture member
  obtain ⟨temporary, temporaryNamed, absent⟩ := written.temporaries fixture member
  obtain ⟨parent, rfl⟩ := Fixture.temporary_ends_in member temporaryNamed
  rw [← written.atTemporary (fun _ known => known)] at absent
  exact replaceFile_unchanged (fileLocation_congr written.directories temporaryNamed) absent
    (fileLocation_congr written.directories named) there

end Written

theorem run_writeFixtures_again {directory : String} {fixtures : List Fixture} (world : World)
    (again : ∀ fixture ∈ fixtures,
      world.store.replaceFile (fixture.pathIn directory) (fixture.image 0 0).bytes =
        .ok world.store) :
    (fixtures.forM (writeFixture directory)).run.run world =
      (.ok (), { world with
        printed := world.printed ++ fixtures.map fun fixture =>
          createdLine (fixture.pathIn directory) (fixture.image 0 0)
        logged := world.logged ++ fixtures.map fun fixture =>
          (fixture.image 0 0).writeRecord (fixture.pathIn directory) }) := by
  induction fixtures generalizing world with
  | nil =>
      rw [List.map_nil, List.map_nil, List.append_nil, List.append_nil]
      rfl
  | cons fixture rest ih =>
      have first := again fixture List.mem_cons_self
      unfold Fixture.pathIn at first
      rw [run_writeFixtures_cons, first]
      dsimp only
      refine (ih _ ?_).trans ?_
      · intro other member
        exact again other (List.mem_cons_of_mem _ member)
      · simp only [List.map_cons, List.append_assoc, List.singleton_append]
        rfl

/-! ### Whole commands -/

/-- The outcome has the given fixtures as whole files in the directory, with a line for
each, and nothing else that was not there before. -/
structure Outcome.HoldsFixtures (outcome : Outcome) (directory : String) (before : Store)
    (fixtures : List Fixture) : Prop where
  complete : ∀ fixture ∈ fixtures, ∃ location,
    before.fileLocation? (joinPath directory fixture.fileName) = some location ∧
      outcome.store.get? location = some (.file (fixture.image 0 0).bytes)
  elsewhere : ∀ location,
    (∀ fixture ∈ fixtures,
      before.fileLocation? (joinPath directory fixture.fileName) ≠ some location) →
    outcome.store.get? location = before.get? location
  temporaries : ∀ parent name,
    outcome.store.get? (parent ++ [name ++ ".tmp"]) = before.get? (parent ++ [name ++ ".tmp"])
  output : outcome.output = Outcome.joinLines (fixtures.map fun fixture =>
    createdLine (joinPath directory fixture.fileName) (fixture.image 0 0))

theorem Outcome.holdsFixtures_of_written {directory : String} {before : Store}
    {done : List Fixture} {world : World} (written : Written directory before done world)
    (known : ∀ fixture ∈ done, fixture ∈ Fixture.all) {outcome : Outcome}
    (isStore : outcome.store = world.store)
    (isOutput : outcome.output = joinLines world.printed) :
    outcome.HoldsFixtures directory before done where
  complete := by
    rw [isStore]
    exact written.complete
  elsewhere := by
    rw [isStore]
    exact written.elsewhere
  temporaries := by
    rw [isStore]
    exact written.atTemporary known
  output := by
    rw [isOutput, written.printed]
    rfl

theorem unchanged_of_error_writeImage {context path : String} {image : Image}
    {world reached : World} {failure : Failure}
    (ran : (writeImage context path image).run.run world = (.error failure, reached)) :
    reached = world := by
  rw [run_writeImage] at ran
  split at ran
  · cases ran
  · cases ran
    rfl

theorem unchanged_of_error {command : Command} (single : ∀ directory, command ≠ .all directory)
    {world reached : World} {failure : Failure}
    (ran : command.task.run.run world = (.error failure, reached)) :
    reached.store = world.store ∧ reached.printed = world.printed := by
  cases command with
  | build fixture output? layout =>
      change (buildFixture fixture output? layout).run.run world = _ at ran
      rw [run_buildFixture] at ran
      split at ran
      · cases ran
        exact ⟨rfl, rfl⟩
      · rw [unchanged_of_error_writeImage ran]
        exact ⟨rfl, rfl⟩
  | all directory => exact absurd rfl (single directory)
  | raw source output layout maximalSize? =>
      change (wrapFile source output layout maximalSize?).run.run world = _ at ran
      rw [run_wrapFile] at ran
      split at ran
      · cases ran
        exact ⟨rfl, rfl⟩
      · dsimp only at ran
        split at ran
        · cases ran
          exact ⟨rfl, rfl⟩
        · rw [unchanged_of_error_writeImage ran]
          exact ⟨rfl, rfl⟩
  | inspect source =>
      change (listImage source).run.run world = _ at ran
      rw [run_listImage] at ran
      split at ran
      · cases ran
      · cases ran
        exact ⟨rfl, rfl⟩
  | list => cases ran

theorem store_inspect (source : String) (world : World) :
    ((inspect source).task.run.run world).2.store = world.store := by
  change ((listImage source).run.run world).2.store = _
  rw [run_listImage]
  split <;> rfl

theorem run_writeAll_of_made {directory : String} {store prepared : Store}
    (made : store.makeDirectories directory = (prepared, .ok ()))
    {result : Except Failure Unit} {reached : World}
    (ran : (Fixture.all.forM (writeFixture directory)).run.run (World.ofStore prepared) =
      (result, reached)) :
    (all directory).task.run.run (World.ofStore store) =
      (result, { reached with logged := reached.logged ++ closingRecords directory result }) := by
  have whole := run_writeAll (World.ofStore store) directory
  have started : (Fixture.all.forM (writeFixture directory)).run.run
      { World.ofStore store with store := prepared } = (result, reached) := ran
  rw [show (World.ofStore store).store.makeDirectories directory = _ from made] at whole
  simp only [started] at whole
  exact whole

theorem run_writeAll_of_unmade {directory : String} {store prepared : Store} {fault : FileFault}
    (unmade : store.makeDirectories directory = (prepared, .error fault)) :
    ∃ failure, (all directory).task.run.run (World.ofStore store) =
      (.error failure, World.ofStore prepared) := by
  have whole := run_writeAll (World.ofStore store) directory
  rw [show (World.ofStore store).store.makeDirectories directory = _ from unmade] at whole
  exact ⟨_, whole⟩

theorem outcome_writeAll_again {directory : String} (renderer : Renderer) (verbose : Bool)
    {store prepared : Store} {reached : World}
    (made : store.makeDirectories directory = (prepared, .ok ()))
    (ran : (Fixture.all.forM (writeFixture directory)).run.run (World.ofStore prepared) =
      (.ok (), reached))
    (written : Written directory prepared Fixture.all reached) :
    Invocation.outcome { command := .all directory, verbose := verbose } renderer reached.store =
      Invocation.outcome { command := .all directory, verbose := verbose } renderer store := by
  have madeAgain := makeDirectories_again made written.directories.keeps
  have ranAgain := run_writeFixtures_again (World.ofStore reached.store)
    written.replaceFile_again
  have sameWorld : { World.ofStore reached.store with
      printed := (World.ofStore reached.store).printed ++ Fixture.all.map fun fixture =>
        createdLine (fixture.pathIn directory) (fixture.image 0 0)
      logged := (World.ofStore reached.store).logged ++ Fixture.all.map fun fixture =>
        (fixture.image 0 0).writeRecord (fixture.pathIn directory) } = reached := by
    rw [← written.printed, ← written.logged]
    rfl
  rw [sameWorld] at ranAgain
  exact (outcome_eq renderer (run_writeAll_of_made madeAgain ranAgain)).trans
    (outcome_eq renderer (run_writeAll_of_made made ran)).symm

theorem outcome_writeAll (directory : String) (renderer : Renderer) (verbose : Bool)
    (store : Store) :
    let invocation : Invocation := { command := .all directory, verbose := verbose }
    let prepared := (store.makeDirectories directory).1
    ∃ count, count ≤ Fixture.all.length ∧
      (invocation.outcome renderer store).HoldsFixtures directory prepared
        (Fixture.all.take count) ∧
      ((invocation.outcome renderer store).exitCode = 0 ↔ count = Fixture.all.length) ∧
      ((invocation.outcome renderer store).exitCode = 0 →
        invocation.outcome renderer (invocation.outcome renderer store).store =
          invocation.outcome renderer store) := by
  intro invocation prepared
  cases made : store.makeDirectories directory with
  | mk reachedStore reply =>
      have isPrepared : prepared = reachedStore := congrArg Prod.fst made
      rw [isPrepared]
      cases reply with
      | error fault =>
          obtain ⟨failure, ran⟩ := run_writeAll_of_unmade made
          have ended : invocation.outcome renderer store = _ := outcome_eq renderer ran
          rw [ended]
          refine ⟨0, Nat.zero_le _, ?_, Iff.intro nofun nofun, nofun⟩
          exact Outcome.holdsFixtures_of_written (.initial directory reachedStore) nofun rfl rfl
      | ok =>
          obtain ⟨more, left, result, reached, split, ran, written, complete⟩ :=
            (Written.initial directory reachedStore).run (List.nil_append Fixture.all).symm
          have whole : Fixture.all.length = more.length + left.length := by
            rw [split, List.length_append]
          have isTaken : Fixture.all.take more.length = more := by
            rw [split, List.take_left]
          have known : ∀ fixture ∈ more, fixture ∈ Fixture.all := by
            rw [← isTaken]
            exact fun _ member => List.mem_of_mem_take member
          have ended : invocation.outcome renderer store = _ :=
            outcome_eq renderer (run_writeAll_of_made made ran)
          have isZero : (invocation.outcome renderer store).exitCode = 0 ↔ left = [] := by
            rw [ended, Outcome.exitCode_eq_zero_iff]
            exact complete
          refine ⟨more.length, by omega, ?_, ?_, ?_⟩
          · rw [isTaken]
            apply Outcome.holdsFixtures_of_written written known
            · rw [ended, Outcome.store_ofRun]
            · rw [ended, Outcome.output_ofRun]
          · rw [isZero, ← List.length_eq_zero_iff]
            omega
          · intro succeeded
            have nothingLeft := isZero.mp succeeded
            have isOk := complete.mpr nothingLeft
            have isAll : more = Fixture.all := by
              rw [split, nothingLeft, List.append_nil]
            subst isOk isAll
            have again := outcome_writeAll_again renderer verbose made ran written
            rw [ended, Outcome.store_ofRun, ← ended]
            exact again

theorem unchanged_of_exitCode {renderer : Renderer} {invocation : Invocation} {store : Store}
    (single : ∀ directory, invocation.command ≠ .all directory)
    (failed : (invocation.outcome renderer store).exitCode = 1) :
    (invocation.outcome renderer store).store = store ∧
      (invocation.outcome renderer store).output = "" := by
  cases ran : invocation.command.task.run.run (World.ofStore store) with
  | mk result reached =>
      rw [outcome_eq renderer ran] at failed ⊢
      cases result with
      | ok => cases failed
      | error failure =>
          obtain ⟨sameStore, samePrinted⟩ := unchanged_of_error single ran
          refine ⟨sameStore, ?_⟩
          rw [Outcome.output_ofRun, samePrinted]
          rfl

/-- A command that writes a single image or none has changed and printed nothing when it
fails.  Writing every fixture leaves the first ones complete, all of them when it
succeeds, and a second run after a success repeats the outcome. -/
theorem Invocation.outcome_leaves_nothing_half_done (renderer : Renderer)
    (invocation : Invocation) (store : Store) :
    match invocation.command with
    | .all directory =>
        AddsDirectories store (store.makeDirectories directory).1 ∧
        ∃ count, count ≤ Fixture.all.length ∧
          (invocation.outcome renderer store).HoldsFixtures directory
            (store.makeDirectories directory).1 (Fixture.all.take count) ∧
          ((invocation.outcome renderer store).exitCode = 0 ↔ count = Fixture.all.length) ∧
          ((invocation.outcome renderer store).exitCode = 0 →
            invocation.outcome renderer (invocation.outcome renderer store).store =
              invocation.outcome renderer store)
    | .inspect _ | .list =>
        (invocation.outcome renderer store).store = store ∧
          ((invocation.outcome renderer store).exitCode = 1 →
            (invocation.outcome renderer store).output = "")
    | .build .. | .raw .. =>
        (invocation.outcome renderer store).exitCode = 1 →
          (invocation.outcome renderer store).store = store ∧
            (invocation.outcome renderer store).output = "" := by
  obtain ⟨command, verbose⟩ := invocation
  cases command with
  | all directory =>
      exact ⟨makeDirectories_adds store directory,
        outcome_writeAll directory renderer verbose store⟩
  | build fixture output? layout => exact unchanged_of_exitCode nofun
  | raw source output layout maximalSize? => exact unchanged_of_exitCode nofun
  | inspect source =>
      refine ⟨?_, fun failed => (unchanged_of_exitCode ?_ failed).2⟩
      · rw [outcome_eq renderer rfl, Outcome.store_ofRun]
        exact store_inspect source (World.ofStore store)
      · exact nofun
  | list =>
      refine ⟨?_, fun failed => (unchanged_of_exitCode ?_ failed).2⟩
      · rw [outcome_eq renderer rfl, Outcome.store_ofRun]
        rfl
      · exact nofun

/-- The third fixture finds something in place of its temporary file. -/
example :
    let store := (Store.fresh []).insert ["test_func.elf.tmp"] .directory
    let outcome := Invocation.outcome { command := .all ".", verbose := false } .plain store
    outcome.exitCode = 1 ∧ outcome.output =
      "Created ./test.elf (104 bytes)\nCreated ./final_test.elf (108 bytes)\n" := by
  decide +kernel

end Rv32Image
