/-
Files as a store of images: a location holds what the last successful write put there.
-/

import Rv32Image.Proofs.Image.RoundTrip
import Rv32Image.Proofs.Image.WriteOutcome

namespace Rv32Image

open Store

/-- A call on files of images, together with what it gave back. -/
inductive Call where
  | write (path : String) (image : Image) (result : Except Error Unit)
  | read (path : String) (result : Except Error ParsedImage)

namespace Call

def path : Call → String
  | write path _ _ => path
  | read path _ => path

def Failed : Call → Prop
  | write _ _ result => ∃ error, result = .error error
  | read _ result => ∃ error, result = .error error

def WritesBuilt : Call → Prop
  | write _ image _ => ∃ code entry loadAddress,
      code.length ≤ Format.maximalCodeLength ∧ image = Image.build code entry loadAddress
  | read _ _ => True

def Takes (faulty : Prop) (before after : Store) : Call → Prop
  | write path image result => (image.writeTo path).Ends faulty before result after
  | read path result => (ParsedImage.load path).Ends faulty before result after

def imageAt? (store : Store) (location : Location) : Call → Option Image
  | write path image (.ok ()) =>
      if store.fileLocation? path = some location then some image else none
  | _ => none

end Call

/-- Calls one after the other lead from one store to another. -/
def History (faulty : Prop) : Store → List Call → Store → Prop
  | before, [], after => after = before
  | before, call :: rest, after =>
      ∃ middle, call.Takes faulty before middle ∧ History faulty middle rest after

def lastImage? (store : Store) (location : Location) (calls : List Call) : Option Image :=
  (calls.filterMap (Call.imageAt? store location)).getLast?

/-- Neither path leads to the other or to the temporary file of the other. -/
structure Store.Apart (store : Store) (first second : String) : Prop where
  destinations : store.fileLocation? first ≠ store.fileLocation? second
  firstTemporary :
    store.fileLocation? (Image.temporaryPath first) ≠ store.fileLocation? second
  secondTemporary :
    store.fileLocation? (Image.temporaryPath second) ≠ store.fileLocation? first

variable {faulty : Prop} {initial before middle after : Store}

theorem history_append {first second : List Call} :
    History faulty before (first ++ second) after ↔
      ∃ middle, History faulty before first middle ∧ History faulty middle second after := by
  induction first generalizing before with
  | nil => simp [History]
  | cons call rest ih =>
      constructor
      · rintro ⟨middle, takes, history⟩
        obtain ⟨last, front, back⟩ := ih.mp history
        exact ⟨last, ⟨middle, takes, front⟩, back⟩
      · rintro ⟨last, ⟨middle, takes, front⟩, back⟩
        exact ⟨middle, takes, ih.mpr ⟨last, front, back⟩⟩

/-! ### What one call does -/

theorem Store.entryAt_temporaryPath (store : Store) (text : String) :
    store.entryAt? (Image.temporaryPath text) =
      (store.fileLocation? (Image.temporaryPath text)).bind store.get? := by
  cases named : store.fileLocation? (Image.temporaryPath text) with
  | some location => exact entryAt_of_fileLocation named
  | none =>
      cases present : store.entryAt? (Image.temporaryPath text) with
      | none => rfl
      | some entry =>
          obtain ⟨location, isNamed, _⟩ := fileLocation_of_entryAt_temporary present
          rw [named] at isNamed
          cases isNamed

theorem Image.effect_of_ends {image : Image} {path : String} {result : Except Error Unit}
    (ends : (image.writeTo path).Ends faulty before result after) :
    (∃ fault, result = .error (.storage path fault) ∧ after = before) ∨
      result = .ok () ∧ ∃ destination, before.fileLocation? path = some destination ∧
        before.get? destination ≠ some .directory ∧
        after = before.insert destination (.file image.bytes) := by
  rcases (writeTo_ends_iff _ _ _ _ _ _).mp ends with
    ⟨isOk, replaced⟩ | ⟨unchanged, fault, isError, _⟩
  · obtain ⟨_, destination, _, _, named, noDirectory, isStore⟩ :=
      (replaceFile_eq_ok_iff _ _ _ _).mp replaced
    exact .inr ⟨isOk, destination, named, noDirectory, isStore⟩
  · exact .inl ⟨fault, isError, unchanged⟩

theorem Image.ends_insert_iff {image : Image} {path : String} {destination other : Location}
    (named : before.fileLocation? path = some destination)
    (noDirectory : before.get? other ≠ some .directory)
    (notDestination : other ≠ destination)
    (notTemporary : before.fileLocation? (temporaryPath path) ≠ some other)
    (present : List UInt8) (result : Except Error Unit) :
    (image.writeTo path).Ends faulty (before.insert other (.file present)) result after ↔
      ∃ middle, (image.writeTo path).Ends faulty before result middle ∧
        after = middle.insert other (.file present) := by
  have replacement := replaceFile_insert named noDirectory notDestination notTemporary present
    image.bytes
  have sameTemporary : (before.insert other (.file present)).entryAt? (temporaryPath path) =
      before.entryAt? (temporaryPath path) := by
    rw [entryAt_temporaryPath, entryAt_temporaryPath,
      fileLocation_eq_of_sameDirectories (sameDirectories_insert_file noDirectory present)]
    cases temporaryNamed : before.fileLocation? (temporaryPath path) with
    | none => rfl
    | some temporary =>
        apply get?_insert_of_ne
        intro same
        rw [temporaryNamed, same] at notTemporary
        exact notTemporary rfl
  rw [writeTo_ends_iff, replacement, sameTemporary]
  simp only [writeTo_ends_iff]
  cases replaced : before.replaceFile path image.bytes with
  | ok replacing =>
      constructor
      · rintro (⟨isOk, isAfter⟩ | ⟨rfl, fault, isError, impossible | refused⟩)
        · cases isAfter
          exact ⟨replacing, .inl ⟨isOk, rfl⟩, rfl⟩
        · cases impossible
        · exact ⟨before, .inr ⟨rfl, fault, isError, .inr refused⟩, rfl⟩
      · rintro ⟨middle, ⟨isOk, isMiddle⟩ | ⟨rfl, fault, isError, impossible | refused⟩, rfl⟩
        · cases isMiddle
          exact .inl ⟨isOk, rfl⟩
        · cases impossible
        · exact .inr ⟨rfl, fault, isError, .inr refused⟩
  | error reason =>
      constructor
      · rintro (⟨_, impossible⟩ | ⟨rfl, fault, isError, isReason | refused⟩)
        · cases impossible
        · cases isReason
          exact ⟨before, .inr ⟨rfl, reason, isError, .inl rfl⟩, rfl⟩
        · exact ⟨before, .inr ⟨rfl, fault, isError, .inr refused⟩, rfl⟩
      · rintro ⟨middle, ⟨_, impossible⟩ | ⟨rfl, fault, isError, isReason | refused⟩, rfl⟩
        · cases impossible
        · cases isReason
          exact .inr ⟨rfl, reason, isError, .inl rfl⟩
        · exact .inr ⟨rfl, fault, isError, .inr refused⟩

/-- Writes to different files can change places. -/
theorem Image.ends_swap {first second : Image} {firstPath secondPath : String}
    {firstResult secondResult : Except Error Unit} (apart : before.Apart firstPath secondPath)
    {firstLocation secondLocation : Location}
    (firstNamed : before.fileLocation? firstPath = some firstLocation)
    (secondNamed : before.fileLocation? secondPath = some secondLocation)
    (firstEnds : (first.writeTo firstPath).Ends faulty before firstResult middle)
    (secondEnds : (second.writeTo secondPath).Ends faulty middle secondResult after) :
    ∃ other, (second.writeTo secondPath).Ends faulty before secondResult other ∧
      (first.writeTo firstPath).Ends faulty other firstResult after := by
  have different : firstLocation ≠ secondLocation := by
    intro same
    apply apart.destinations
    rw [firstNamed, secondNamed, same]
  have notFirstTemporary := apart.firstTemporary
  have notSecondTemporary := apart.secondTemporary
  rw [secondNamed] at notFirstTemporary
  rw [firstNamed] at notSecondTemporary
  rcases effect_of_ends firstEnds with
    ⟨_, _, rfl⟩ | ⟨_, destination, named, firstFile, rfl⟩
  · -- The first write has changed nothing, so it may as well come later.
    refine ⟨after, secondEnds, ?_⟩
    rcases effect_of_ends secondEnds with ⟨_, _, rfl⟩ | ⟨_, destination, named, secondFile, rfl⟩
    · exact firstEnds
    · cases secondNamed.symm.trans named
      exact (ends_insert_iff firstNamed secondFile different.symm notFirstTemporary _ _).mpr
        ⟨_, firstEnds, rfl⟩
  · cases firstNamed.symm.trans named
    obtain ⟨other, earlier, rfl⟩ :=
      (ends_insert_iff secondNamed firstFile different notSecondTemporary _ _).mp secondEnds
    refine ⟨other, earlier, ?_⟩
    rcases effect_of_ends earlier with ⟨_, _, rfl⟩ | ⟨_, destination, named, secondFile, rfl⟩
    · exact firstEnds
    · cases secondNamed.symm.trans named
      refine (ends_insert_iff firstNamed secondFile different.symm notFirstTemporary _ _).mpr
        ⟨_, firstEnds, ?_⟩
      exact insert_comm _ different.symm _ _

/-! ### What a history leaves behind -/

theorem mem_of_lastImage {calls : List Call} {location : Location} {image : Image}
    (last : lastImage? initial location calls = some image) :
    ∃ path, .write path image (.ok ()) ∈ calls ∧
      initial.fileLocation? path = some location := by
  have member := List.mem_of_getLast? last
  obtain ⟨call, called, there⟩ := List.mem_filterMap.mp member
  unfold Call.imageAt? at there
  split at there
  · rename_i path _
    split at there
    · cases there
      exact ⟨path, called, ‹_›⟩
    · cases there
  · cases there

theorem lastImage_concat (calls : List Call) (call : Call) (location : Location) :
    lastImage? initial location (calls ++ [call]) =
      (call.imageAt? initial location).or (lastImage? initial location calls) := by
  unfold lastImage?
  rw [List.filterMap_append, List.getLast?_append]
  cases there : call.imageAt? initial location <;> simp [there]

/-- The directories are those of the start, and a location that was empty then holds what
was written there last. -/
structure Store.Reflects (now initial : Store) (calls : List Call) : Prop where
  directories : SameDirectories initial now
  holds : ∀ location, initial.get? location = none →
    now.get? location =
      (lastImage? initial location calls).map fun image => .file image.bytes

theorem Store.reflects_initial (store : Store) : store.Reflects store [] where
  directories := ⟨rfl, fun _ => rfl⟩
  holds := fun _ absent => absent

theorem Store.Reflects.call {now : Store} {done : List Call} {call : Call}
    (reflects : now.Reflects initial done) (takes : call.Takes faulty now after) :
    after.Reflects initial (done ++ [call]) := by
  have unchanged (nothing : ∀ location, call.imageAt? initial location = none)
      (same : after = now) : after.Reflects initial (done ++ [call]) := by
    rw [same]
    refine ⟨reflects.directories, ?_⟩
    intro location absent
    rw [lastImage_concat, nothing, Option.none_or, reflects.holds location absent]
  cases call with
  | read path result =>
      exact unchanged (fun _ => rfl) ((ParsedImage.load_ends_iff _ _ _ _ _).mp takes).1
  | write path image result =>
      rcases Image.effect_of_ends takes with
        ⟨fault, rfl, same⟩ | ⟨rfl, destination, named, noDirectory, rfl⟩
      · exact unchanged (fun _ => rfl) same
      · refine ⟨reflects.directories.trans (sameDirectories_insert_file noDirectory _), ?_⟩
        intro location absent
        rw [fileLocation_eq_of_sameDirectories reflects.directories] at named
        rw [lastImage_concat, Call.imageAt?, named]
        by_cases here : destination = location
        · rw [← here, get?_insert_self (fileLocation_ne_root named), if_pos rfl]
          rfl
        · rw [get?_insert_of_ne (Ne.symm here), if_neg (mt Option.some.inj here),
            Option.none_or, reflects.holds location absent]

theorem Store.Reflects.history {now : Store} {done rest : List Call}
    (reflects : now.Reflects initial done) (history : History faulty now rest after) :
    after.Reflects initial (done ++ rest) := by
  induction rest generalizing now done with
  | nil =>
      rw [List.append_nil, show after = now from history]
      exact reflects
  | cons call rest ih =>
      obtain ⟨middle, takes, remaining⟩ := history
      have next := ih (reflects.call takes) remaining
      rwa [List.append_assoc] at next

/-! ### What a call gives back -/

theorem Store.Reflects.read_result {now : Store} {done : List Call} {path : String}
    {location : Location} {result : Except Error ParsedImage}
    (reflects : now.Reflects initial done) (named : initial.fileLocation? path = some location)
    (absent : initial.get? location = none) (built : ∀ call ∈ done, call.WritesBuilt)
    (takes : (Call.read path result).Takes faulty now after) :
    result =
      match lastImage? initial location done with
      | some image => .ok (.written image.code image.entry image.loadAddress)
      | none => .error (.storage path .notFound) := by
  obtain ⟨_, isResult⟩ := (ParsedImage.load_ends_iff _ _ _ _ _).mp takes
  rw [isResult, readFile_of_fileLocation (fileLocation_congr reflects.directories named),
    reflects.holds location absent]
  cases last : lastImage? initial location done with
  | none => rfl
  | some image =>
      obtain ⟨writtenPath, called, _⟩ := mem_of_lastImage last
      obtain ⟨code, entry, loadAddress, fits, rfl⟩ := built _ called
      dsimp only [Option.map_some, ParsedImage.ofFile]
      rw [Image.parse_build fits, Image.code_build]
      rfl

theorem Store.Reflects.write_collides {now : Store} {done : List Call} {path : String}
    {image : Image} {temporary : Location} {result : Except Error Unit}
    (reflects : now.Reflects initial done)
    (named : initial.fileLocation? (Image.temporaryPath path) = some temporary)
    (absent : initial.get? temporary = none)
    (written : lastImage? initial temporary done ≠ none)
    (takes : (Call.write path image result).Takes faulty now after) :
    result = .error (.storage path .alreadyExists) := by
  have taken : now.entryAt? (Image.temporaryPath path) ≠ none := by
    rw [entryAt_of_fileLocation (fileLocation_congr reflects.directories named),
      reflects.holds temporary absent]
    intro nothing
    exact written (Option.map_eq_none_iff.mp nothing)
  have failed := replaceFile_of_taken taken image.bytes
  rcases (Image.writeTo_ends_iff _ _ _ _ _ _).mp takes with
    ⟨_, replaced⟩ | ⟨_, fault, rfl, isFault | ⟨_, free⟩⟩
  · rw [failed] at replaced
    cases replaced
  · rw [failed] at isFault
    cases isFault
    rfl
  · exact absurd free taken

theorem Store.Reflects.write_succeeds {now : Store} {done : List Call} {path : String}
    {image : Image} {destination temporary : Location} {result : Except Error Unit}
    (reflects : now.Reflects initial done)
    (named : initial.fileLocation? path = some destination)
    (absent : initial.get? destination = none)
    (temporaryNamed : initial.fileLocation? (Image.temporaryPath path) = some temporary)
    (temporaryAbsent : initial.get? temporary = none)
    (unwritten : lastImage? initial temporary done = none)
    (takes : (Call.write path image result).Takes False now after) : result = .ok () := by
  have noDirectory : now.get? destination ≠ some .directory := by
    rw [reflects.holds destination absent]
    cases lastImage? initial destination done <;> exact nofun
  have free : now.get? temporary = none := by
    rw [reflects.holds temporary temporaryAbsent, unwritten]
    rfl
  have replaced := (replaceFile_eq_ok_iff now path image.bytes _).mpr
    ⟨temporary, destination, fileLocation_congr reflects.directories temporaryNamed, free,
      fileLocation_congr reflects.directories named, noDirectory, rfl⟩
  rcases (Image.writeTo_ends_iff _ _ _ _ _ _).mp takes with
    ⟨isOk, _⟩ | ⟨_, fault, _, failed | ⟨impossible, _⟩⟩
  · exact isOk
  · rw [replaced] at failed
    cases failed
  · exact impossible.elim

/-! ### Histories -/

/-- A read gives back what was written last, failed calls can be left out and writes to
different files exchanged, and a write collides exactly with what was written in place
of its temporary file. -/
structure ServesImages (faulty : Prop) (initial : Store) (calls : List Call) (final : Store) :
    Prop where
  reads : ∀ earlier path result later, calls = earlier ++ .read path result :: later →
    ∀ location, initial.fileLocation? path = some location →
      result =
        match lastImage? initial location earlier with
        | some image => .ok (.written image.code image.entry image.loadAddress)
        | none => .error (.storage path .notFound)
  failures : ∀ earlier call later, calls = earlier ++ call :: later → call.Failed →
    History faulty initial (earlier ++ later) final
  exchanges : ∀ earlier path image result otherPath otherImage otherResult later,
    calls = earlier ++ .write path image result ::
      .write otherPath otherImage otherResult :: later →
    initial.Apart path otherPath →
    History faulty initial
      (earlier ++ .write otherPath otherImage otherResult :: .write path image result :: later)
      final
  collisions : ∀ earlier path image result later,
    calls = earlier ++ .write path image result :: later →
    ∀ temporary, initial.fileLocation? (Image.temporaryPath path) = some temporary →
      initial.get? temporary = none → lastImage? initial temporary earlier ≠ none →
      result = .error (.storage path .alreadyExists)
  successes : ¬ faulty → ∀ earlier path image result later,
    calls = earlier ++ .write path image result :: later →
    ∀ temporary, initial.fileLocation? (Image.temporaryPath path) = some temporary →
      initial.get? temporary = none → lastImage? initial temporary earlier = none →
      result = .ok ()

theorem Call.unchanged_of_failed {call : Call} (failed : call.Failed)
    (takes : call.Takes faulty before after) : after = before := by
  cases call with
  | read path result => exact ((ParsedImage.load_ends_iff _ _ _ _ _).mp takes).1
  | write path image result =>
      rcases Image.effect_of_ends takes with ⟨_, _, same⟩ | ⟨isOk, _⟩
      · exact same
      · obtain ⟨error, isError⟩ := failed
        rw [isError] at isOk
        cases isOk

theorem Store.Apart.congr {now : Store} {first second : String}
    (apart : initial.Apart first second) (same : SameDirectories initial now) :
    now.Apart first second := by
  constructor
  · rw [fileLocation_eq_of_sameDirectories same, fileLocation_eq_of_sameDirectories same]
    exact apart.destinations
  · rw [fileLocation_eq_of_sameDirectories same, fileLocation_eq_of_sameDirectories same]
    exact apart.firstTemporary
  · rw [fileLocation_eq_of_sameDirectories same, fileLocation_eq_of_sameDirectories same]
    exact apart.secondTemporary

/-- Where nothing was at first, files serve as a store of images, whatever goes wrong in
writing them. -/
theorem history_serves_images {calls : List Call} {final : Store}
    (history : History faulty initial calls final)
    (concerned : ∀ call ∈ calls, ∃ location,
      initial.fileLocation? call.path = some location ∧ initial.get? location = none)
    (built : ∀ call ∈ calls, call.WritesBuilt) :
    ServesImages faulty initial calls final := by
  constructor
  case reads =>
    rintro earlier path result later rfl location named
    obtain ⟨now, before, next, takes, _⟩ := history_append.mp history
    have reflects := (reflects_initial initial).history before
    obtain ⟨_, isLocation, absent⟩ := concerned (.read path result) (by simp)
    cases named.symm.trans isLocation
    apply reflects.read_result named absent ?_ takes
    intro call member
    exact built call (List.mem_append_left _ member)
  case failures =>
    rintro earlier call later rfl failed
    obtain ⟨now, before, next, takes, rest⟩ := history_append.mp history
    rw [Call.unchanged_of_failed failed takes] at rest
    exact history_append.mpr ⟨now, before, rest⟩
  case exchanges =>
    rintro earlier path image result otherPath otherImage otherResult later rfl apart
    obtain ⟨now, before, middle, first, next, second, rest⟩ := history_append.mp history
    have reflects := (reflects_initial initial).history before
    obtain ⟨_, named, _⟩ := concerned (.write path image result) (by simp)
    obtain ⟨_, otherNamed, _⟩ :=
      concerned (.write otherPath otherImage otherResult) (by simp)
    obtain ⟨other, earlierCall, laterCall⟩ := Image.ends_swap
      (apart.congr reflects.directories) (fileLocation_congr reflects.directories named)
      (fileLocation_congr reflects.directories otherNamed) first second
    exact history_append.mpr ⟨now, before, other, earlierCall, next, laterCall, rest⟩
  case collisions =>
    rintro earlier path image result later rfl temporary named absent written
    obtain ⟨now, before, next, takes, _⟩ := history_append.mp history
    have reflects := (reflects_initial initial).history before
    exact reflects.write_collides named absent written takes
  case successes =>
    rintro unfaulty earlier path image result later rfl temporary named absent unwritten
    obtain ⟨now, before, next, takes, _⟩ := history_append.mp history
    have reflects := (reflects_initial initial).history before
    obtain ⟨destination, destinationNamed, destinationAbsent⟩ :=
      concerned (.write path image result) (by simp)
    rw [eq_false unfaulty] at takes
    exact reflects.write_succeeds destinationNamed destinationAbsent named absent unwritten takes

/-- What was written to one file keeps another one from being written. -/
theorem history_serves_images_in_the_way :
    ∃ (image other : Image) (calls : List Call) (final : Store),
      calls = [.write "a.tmp" image (.ok ()),
        .write "a" other (.error (.storage "a" .alreadyExists)),
        .read "a" (.error (.storage "a" .notFound)),
        .read "a.tmp" (.ok (.written [0x73, 0, 0, 0] 4 8))] ∧
      History False (Store.fresh []) calls final ∧
      (∀ call ∈ calls, ∃ location, (Store.fresh []).fileLocation? call.path = some location ∧
        (Store.fresh []).get? location = none) ∧
      (∀ call ∈ calls, call.WritesBuilt) ∧
      ServesImages False (Store.fresh []) calls final := by
  let image := Image.build [0x73, 0, 0, 0] 4 8
  let other := Image.build [0x13, 0, 0, 0] 0 0
  let final := (Store.fresh []).insert ["a.tmp"] (.file image.bytes)
  have written : (Store.fresh []).replaceFile "a.tmp" image.bytes = .ok final :=
    (replaceFile_eq_ok_iff _ _ _ _).mpr ⟨["a.tmp.tmp"], ["a.tmp"], rfl, rfl, rfl, by decide, rfl⟩
  have lost : final.replaceFile "a" other.bytes = .error .alreadyExists := by
    apply replaceFile_of_taken
    have named : final.fileLocation? (Image.temporaryPath "a") = some ["a.tmp"] := rfl
    rw [entryAt_of_fileLocation named, get?_insert_self (by decide)]
    exact Option.some_ne_none _
  have history : History False (Store.fresh [])
      [.write "a.tmp" image (.ok ()),
        .write "a" other (.error (.storage "a" .alreadyExists)),
        .read "a" (.error (.storage "a" .notFound)),
        .read "a.tmp" (.ok (.written [0x73, 0, 0, 0] 4 8))] final := by
    refine ⟨final, ?_, final, ?_, final, ?_, final, ?_, rfl⟩
    · exact (Image.writeTo_ends_iff _ _ _ _ _ _).mpr (.inl ⟨rfl, written⟩)
    · exact (Image.writeTo_ends_iff _ _ _ _ _ _).mpr (.inr ⟨rfl, _, rfl, .inl lost⟩)
    · exact (ParsedImage.load_ends_iff _ _ _ _ _).mpr ⟨rfl, rfl⟩
    · refine (ParsedImage.load_ends_iff _ _ _ _ _).mpr ⟨rfl, ?_⟩
      have named : final.fileLocation? "a.tmp" = some ["a.tmp"] := rfl
      rw [readFile_of_fileLocation named, get?_insert_self (by decide)]
      dsimp only [ParsedImage.ofFile]
      rw [Image.parse_build (by decide)]
      rfl
  refine ⟨image, other, _, final, rfl, history, ?concerned, ?built,
    history_serves_images history ?concerned ?built⟩
  case concerned =>
    intro call member
    simp only [List.mem_cons, List.not_mem_nil, or_false] at member
    have first : (Store.fresh []).fileLocation? "a" = some ["a"] := rfl
    have second : (Store.fresh []).fileLocation? "a.tmp" = some ["a.tmp"] := rfl
    rcases member with rfl | rfl | rfl | rfl
    · exact ⟨_, second, rfl⟩
    · exact ⟨_, first, rfl⟩
    · exact ⟨_, first, rfl⟩
    · exact ⟨_, second, rfl⟩
  case built =>
    intro call member
    simp only [List.mem_cons, List.not_mem_nil, or_false] at member
    rcases member with rfl | rfl | rfl | rfl
    · exact ⟨[0x73, 0, 0, 0], 4, 8, by decide, rfl⟩
    · exact ⟨[0x13, 0, 0, 0], 0, 0, by decide, rfl⟩
    · trivial
    · trivial

end Rv32Image
