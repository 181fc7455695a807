/-
What writing and reading an image come to, seen from before and after.
-/

import Rv32Image.Proofs.Image.AllOrNothing
import Rv32Image.Proofs.Storage.FileReplacement

namespace Rv32Image

open Store

namespace Session

variable {α : Type}

/-- The session can end with the result, and the store is then the second one. -/
def Ends (faulty : Prop) (session : Session α) (before : Store) (result : α) (after : Store) :
    Prop :=
  ∃ world reached : World, world.store = before ∧ reached.store = after ∧
    (session.run world = (result, reached) ∨
      faulty ∧ Steps .usual (session, world) (done result, reached))

theorem eq_of_steps_done {faults : Faults} {value : α} {world : World}
    {after : Session α × World} (steps : Steps faults (done value, world) after) :
    after = (done value, world) := by
  rcases steps.cases_head with same | ⟨_, step, _⟩
  · exact same.symm
  · cases step

theorem run_ask (request : Request) (next : request.Reply → Session α) (world : World) :
    (ask request next).run world =
      (next (world.answer request).1).run (world.answer request).2 := rfl

end Session

open Session

/-! ### Writing -/

/-- A write without faults is the replacement of one file and one record of it. -/
theorem Image.run_writeTo (image : Image) (path : String) (world : World) :
    (image.writeTo path).run world =
      match world.store.replaceFile path image.bytes with
      | .ok after =>
          (.ok (), { world with
            store := after
            logged := world.logged ++ [image.writeRecord path] })
      | .error fault => (.error (.storage path fault), world) := by
  change (WritePhase.creating.session image path).run world = _
  rw [WritePhase.session_creating, run_ask, World.answer]
  cases creation : world.store.createNew (temporaryPath path) with
  | error fault =>
      unfold replaceFile
      rw [creation]
      rfl
  | ok made =>
      obtain ⟨temporary, has⟩ := HasTemporary.of_createNew creation
      obtain ⟨filled, appended, complete, isRenaming⟩ :=
        replaceFile_of_creation has image.bytes
      rw [isRenaming]
      change ((WritePhase.filling image.bytes).session image path).run _ = _
      rw [WritePhase.session_filling, run_ask, World.answer, World.update, appended]
      change (WritePhase.syncing.session image path).run _ = _
      rw [WritePhase.session_syncing, run_ask, World.answer]
      change (WritePhase.replacing.session image path).run _ = _
      rw [WritePhase.session_replacing, run_ask, World.answer, World.update]
      dsimp only
      cases replacement : filled.rename (temporaryPath path) path with
      | ok after => rfl
      | error fault =>
          change ((WritePhase.discarding fault).session image path).run _ = _
          rw [WritePhase.session_discarding, run_ask, World.answer, World.update]
          dsimp only
          rw [complete.removed]
          rfl

theorem WritePhase.temporary_named_of_succeeded {image : Image} {path : String}
    {world reached : World}
    (steps : Steps .usual (image.writeTo path, world) (.done (.ok ()), reached)) :
    ∃ temporary, world.store.fileLocation? (Image.temporaryPath path) = some temporary := by
  rcases steps.cases_head with impossible | ⟨middle, step, rest⟩
  · change (creating.session image path, world) = _ at impossible
    rw [session_creating] at impossible
    cases impossible
  · obtain ⟨session, between⟩ := middle
    change Step .usual (creating.session image path, world) _ at step
    obtain ⟨next, isNext, advance⟩ := advances_of_step step
    dsimp only at isNext advance
    rw [isNext] at rest
    generalize between.store = stored at advance
    cases advance with
    | created creation =>
        obtain ⟨temporary, has⟩ := HasTemporary.of_createNew creation
        exact ⟨temporary, has.named⟩
    | notCreated reason => cases eq_of_steps_done rest

theorem Store.replaceFile_of_taken {store : Store} {path : String}
    (taken : store.entryAt? (Image.temporaryPath path) ≠ none) (bytes : List UInt8) :
    store.replaceFile path bytes = .error .alreadyExists := by
  unfold replaceFile
  rw [createNew_of_taken taken]
  rfl

/-- With faults a write can also end with any other fault, but only where nothing is in the
way of the temporary file, and then it changes nothing. -/
theorem Image.writeTo_ends_iff (faulty : Prop) (image : Image) (path : String)
    (before after : Store) (result : Except Error Unit) :
    (image.writeTo path).Ends faulty before result after ↔
      (result = .ok () ∧ before.replaceFile path image.bytes = .ok after) ∨
        (after = before ∧ ∃ fault, result = .error (.storage path fault) ∧
          (before.replaceFile path image.bytes = .error fault ∨
            faulty ∧ before.entryAt? (temporaryPath path) = none)) := by
  constructor
  · rintro ⟨world, reached, rfl, rfl, ran | ⟨admitted, steps⟩⟩
    · rw [run_writeTo] at ran
      cases replaced : world.store.replaceFile path image.bytes with
      | ok after =>
          rw [replaced] at ran
          cases ran
          exact .inl ⟨rfl, rfl⟩
      | error fault =>
          rw [replaced] at ran
          cases ran
          exact .inr ⟨rfl, fault, rfl, .inl rfl⟩
    · have consistent := WritePhase.consistent_of_done not_false steps
      cases result with
      | ok =>
          obtain ⟨temporary, temporaryNamed⟩ := WritePhase.temporary_named_of_succeeded steps
          obtain ⟨destination, installed⟩ := WritePhase.installed_of_consistent consistent
          have absent := installed.noTemporary
          rw [entryAt_of_fileLocation temporaryNamed] at absent
          exact .inl ⟨rfl, (replaceFile_eq_ok_iff _ _ _ _).mpr ⟨temporary, destination,
            temporaryNamed, absent, installed.named, installed.noDirectory, installed.isStore⟩⟩
      | error error =>
          obtain ⟨untouched, fault, isFault, taken⟩ :=
            WritePhase.untouched_of_consistent consistent
          refine .inr ⟨untouched, fault, congrArg Except.error isFault, ?_⟩
          by_cases absent : world.store.entryAt? (temporaryPath path) = none
          · exact .inr ⟨admitted, absent⟩
          · rw [taken absent not_false]
            exact .inl (replaceFile_of_taken absent _)
  · have ran := run_writeTo image path (World.ofStore before)
    change _ = (match before.replaceFile path image.bytes with
      | .ok after => _
      | .error fault => _ : Except Error Unit × World) at ran
    rintro (⟨rfl, replaced⟩ | ⟨rfl, fault, rfl, failed | ⟨admitted, absent⟩⟩)
    · rw [replaced] at ran
      exact ⟨_, _, rfl, rfl, .inl ran⟩
    · rw [failed] at ran
      exact ⟨_, _, rfl, rfl, .inl ran⟩
    · have advance : WritePhase.Advances image path .usual
          (.creating, (World.ofStore after).store) (WritePhase.failed path fault, after) :=
        .notCreated (.inr (.inl absent))
      obtain ⟨reached, isReached, step⟩ := WritePhase.step_of_advances advance
      exact ⟨_, reached, rfl, isReached, .inr ⟨admitted, .single step⟩⟩

/-! ### Reading -/

def ParsedImage.ofFile (path : String) :
    Except FileFault (List UInt8) → Except Error ParsedImage
  | .error fault => .error (.storage path fault)
  | .ok data => (parse data).mapError .malformed

theorem ParsedImage.load_eq (path : String) :
    load path = ask (.readFile path) fun reply => done (ofFile path reply) := by
  change ask _ _ = _
  congr 1
  funext reply
  cases reply with
  | error fault => rfl
  | ok data =>
      dsimp only [Session.bind, ofFile]
      cases parse data <;> rfl

theorem ParsedImage.run_load (path : String) (world : World) :
    (load path).run world = (ofFile path (world.store.readFile path), world) := by
  rw [load_eq]
  rfl

theorem ParsedImage.load_ends_iff (faulty : Prop) (path : String) (before after : Store)
    (result : Except Error ParsedImage) :
    (load path).Ends faulty before result after ↔
      after = before ∧ result = ofFile path (before.readFile path) := by
  constructor
  · rintro ⟨world, reached, rfl, rfl, ran | ⟨_, steps⟩⟩
    · rw [run_load] at ran
      cases ran
      exact ⟨rfl, rfl⟩
    · rw [load_eq] at steps
      rcases steps.cases_head with impossible | ⟨middle, step, rest⟩
      · cases impossible
      · cases step with
        | served =>
            cases eq_of_steps_done rest
            exact ⟨rfl, rfl⟩
        | refused refusal => cases refusal
  · rintro ⟨rfl, rfl⟩
    exact ⟨World.ofStore after, _, rfl, rfl, .inl (run_load path _)⟩

end Rv32Image
