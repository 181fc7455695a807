/-
Writing an image is all or nothing.  From the creation on, the store is the one from
before with one more file, which only a success turns into the image.
-/

import Rv32Image.Proofs.Image.WritePhase
import Rv32Image.Proofs.Storage.TemporaryFile

namespace Rv32Image

open Store

namespace WritePhase

variable {image : Image} {path : String} {initial : Store} {faults : Session.Faults}

/-- What a store can be in each phase of a write that began with the initial one, as long
as nothing keeps the temporary file from being removed. -/
inductive Consistent (image : Image) (path : String) (faults : Session.Faults) (initial : Store) :
    WritePhase × Store → Prop
  | creating : Consistent image path faults initial (creating, initial)
  | filling {store : Store} {temporary : Location} {written rest : List UInt8}
      (has : HasTemporary path initial store temporary written)
      (isImage : written ++ rest = image.bytes) :
      Consistent image path faults initial (filling rest, store)
  | syncing {store : Store} {temporary : Location}
      (has : HasTemporary path initial store temporary image.bytes) :
      Consistent image path faults initial (syncing, store)
  | replacing {store : Store} {temporary : Location}
      (has : HasTemporary path initial store temporary image.bytes) :
      Consistent image path faults initial (replacing, store)
  | discarding {store : Store} {temporary : Location} {written : List UInt8}
      (has : HasTemporary path initial store temporary written)
      (isPart : written <+: image.bytes) (fault : FileFault) :
      Consistent image path faults initial (discarding fault, store)
  | recording {store : Store} {destination : Location}
      (installed : Installed path initial store destination image.bytes) :
      Consistent image path faults initial (recording, store)
  | succeeded {store : Store} {destination : Location}
      (installed : Installed path initial store destination image.bytes) :
      Consistent image path faults initial (finished (.ok ()), store)
  | failed {fault : FileFault}
      (taken : initial.entryAt? (Image.temporaryPath path) ≠ none → ¬ faults.takenCreation →
        fault = .alreadyExists) :
      Consistent image path faults initial (failed path fault, initial)

theorem consistent_failed {store : Store} {temporary : Location} {written : List UInt8}
    (has : HasTemporary path initial store temporary written) (fault : FileFault) :
    Consistent image path faults initial (failed path fault, initial) := by
  apply Consistent.failed
  intro present
  exact absurd has.noEntry present

theorem fault_of_notCreated {fault : FileFault}
    (reason : initial.createNew (Image.temporaryPath path) = .error fault ∨
      initial.entryAt? (Image.temporaryPath path) = none ∨ faults.takenCreation)
    (present : initial.entryAt? (Image.temporaryPath path) ≠ none)
    (answered : ¬ faults.takenCreation) : fault = .alreadyExists := by
  rcases reason with creation | absent | refused
  · rw [createNew_of_taken present] at creation
    cases creation
    rfl
  · exact absurd absent present
  · exact absurd refused answered

theorem consistent_of_advances (kept : ¬ faults.removal) {before after : WritePhase × Store}
    (consistent : Consistent image path faults initial before)
    (advance : Advances image path faults before after) :
    Consistent image path faults initial after := by
  cases consistent with
  | creating =>
      cases advance with
      | created creation =>
          obtain ⟨temporary, has⟩ := HasTemporary.of_createNew creation
          exact .filling has rfl
      | notCreated reason => exact .failed (fault_of_notCreated reason)
  | filling has isImage =>
      cases advance with
      | grown _ rest appended =>
          refine .filling (has.grows appended) ?_
          rw [List.append_assoc]
          exact isImage
      | filled rest appended =>
          have complete := has.grows appended
          rw [isImage] at complete
          exact .syncing complete
      | notFilled _ _ fault => exact .discarding has ⟨_, isImage⟩ fault
  | syncing has =>
      cases advance with
      | synced => exact .replacing has
      | notSynced _ fault => exact .discarding has List.prefix_rfl fault
  | replacing has =>
      cases advance with
      | replaced replacement =>
          obtain ⟨destination, installed⟩ := has.renamed replacement
          exact .recording installed
      | notReplaced _ fault => exact .discarding has List.prefix_rfl fault
  | discarding has _ fault =>
      cases advance with
      | discarded _ removal =>
          rw [has.removed] at removal
          cases removal
          exact consistent_failed has fault
      | notDiscarded _ reason =>
          rcases reason with removal | impossible
          · rw [has.removed] at removal
            cases removal
          · exact absurd impossible kept
  | recording installed =>
      cases advance with
      | recorded => exact .succeeded installed
  | succeeded installed => cases advance
  | failed taken => cases advance

theorem consistent_of_steps (kept : ¬ faults.removal) {world : World}
    {after : Session (Except Error Unit) × World}
    (steps : Session.Steps faults (image.writeTo path, world) after) :
    ∃ phase : WritePhase, after.1 = phase.session image path ∧
      Consistent image path faults world.store (phase, after.2.store) := by
  induction steps with
  | refl => exact ⟨creating, rfl, .creating⟩
  | @tail middle last _ step ih =>
      obtain ⟨phase, isPhase, consistent⟩ := ih
      obtain ⟨session, reached⟩ := middle
      dsimp only at isPhase consistent
      rw [isPhase] at step
      obtain ⟨next, isNext, advance⟩ := advances_of_step step
      exact ⟨next, isNext, consistent_of_advances kept consistent advance⟩

theorem consistent_of_done (kept : ¬ faults.removal) {world reached : World}
    {result : Except Error Unit}
    (steps : Session.Steps faults (image.writeTo path, world) (.done result, reached)) :
    Consistent image path faults world.store (finished result, reached.store) := by
  obtain ⟨phase, isPhase, consistent⟩ := consistent_of_steps kept steps
  dsimp only at isPhase consistent
  rw [eq_finished isPhase.symm] at consistent
  exact consistent

theorem entryAt_of_consistent {phase : WritePhase} {store : Store}
    (consistent : Consistent image path faults initial (phase, store)) :
    store.entryAt? path = initial.entryAt? path ∨
      store.entryAt? path = some (.file image.bytes) := by
  cases consistent with
  | creating => exact .inl rfl
  | filling has _ => exact .inl has.entryAt_destination
  | syncing has => exact .inl has.entryAt_destination
  | replacing has => exact .inl has.entryAt_destination
  | discarding has _ _ => exact .inl has.entryAt_destination
  | recording installed => exact .inr installed.entryAt_destination
  | succeeded installed => exact .inr installed.entryAt_destination
  | failed _ => exact .inl rfl

theorem installed_of_consistent {store : Store}
    (consistent : Consistent image path faults initial (finished (.ok ()), store)) :
    ∃ destination, Installed path initial store destination image.bytes := by
  cases consistent with
  | succeeded installed => exact ⟨_, installed⟩

theorem untouched_of_consistent {store : Store} {error : Error}
    (consistent : Consistent image path faults initial (finished (.error error), store)) :
    store = initial ∧ ∃ fault, error = .storage path fault ∧
      (initial.entryAt? (Image.temporaryPath path) ≠ none → ¬ faults.takenCreation →
        fault = .alreadyExists) := by
  cases consistent with
  | failed taken => exact ⟨rfl, _, rfl, taken⟩

/-! ### Runs with a fault -/

/-- A fault can come after any number of bytes, and the store is then as it was. -/
theorem advances_of_fault {made : Store}
    (creation : initial.createNew (Image.temporaryPath path) = .ok made)
    (count : Nat) (fault : FileFault) :
    Relation.ReflTransGen (Advances image path faults)
      (creating, initial) (failed path fault, initial) := by
  obtain ⟨temporary, has⟩ := HasTemporary.of_createNew creation
  have created : Relation.ReflTransGen (Advances image path faults)
      (creating, initial) (filling image.bytes, made) := .single (.created creation)
  by_cases nothing : image.bytes.take count = []
  · have discarding := created.tail (.notFilled made image.bytes fault)
    exact discarding.tail (.discarded fault has.removed)
  · have appended := append_of_file has.stillNamed has.file (image.bytes.take count)
    have grown := @Advances.grown image path faults _ _ _ nothing (image.bytes.drop count) appended
    rw [List.take_append_drop] at grown
    have discarding := (created.tail grown).tail (.notFilled _ _ fault)
    exact discarding.tail (.discarded fault (has.grows appended).removed)

/-! ### Runs without a fault -/

/-- Where the destination can be a file, a write that has begun can be finished. -/
theorem advances_of_room {store : Store} {temporary destination : Location}
    {written rest : List UInt8} (has : HasTemporary path initial store temporary written)
    (isImage : written ++ rest = image.bytes)
    (named : initial.fileLocation? path = some destination)
    (noDirectory : initial.get? destination ≠ some .directory) :
    Relation.ReflTransGen (Advances image path faults) (filling rest, store)
      (finished (.ok ()), initial.insert destination (.file image.bytes)) := by
  have appended := append_of_file has.stillNamed has.file rest
  have complete := has.grows appended
  rw [isImage] at complete appended
  have distinct := temporary_ne_destination has.named named
  have stillNoDirectory := noDirectory
  rw [complete.elsewhere distinct.symm] at stillNoDirectory
  have replacement := rename_of_file complete.stillNamed
    (fileLocation_congr complete.sameDirectories named) complete.file stillNoDirectory
  rw [complete.erased] at replacement
  have filled : Relation.ReflTransGen (Advances image path faults) (filling rest, store)
      (syncing, _) := .single (.filled rest appended)
  exact ((filled.tail (.synced _)).tail (.replaced replacement)).tail (.recorded _)

end WritePhase

/-! ### The whole operation -/

/-- Whatever fails on the way: between two steps the destination holds what it held before
or the image, success changes the destination alone, and every error leaves the store
as it was. -/
theorem Image.writeTo_all_or_nothing (image : Image) (path : String) {faults : Session.Faults}
    (kept : ¬ faults.removal) {world reached : World} {session : Session (Except Error Unit)}
    (steps : Session.Steps faults (image.writeTo path, world) (session, reached)) :
    (reached.store.entryAt? path = world.store.entryAt? path ∨
      reached.store.entryAt? path = some (.file image.bytes)) ∧
    (session = .done (.ok ()) →
      ∃ destination, world.store.fileLocation? path = some destination ∧
        reached.store = world.store.insert destination (.file image.bytes) ∧
        reached.store.entryAt? path = some (.file image.bytes) ∧
        reached.store.entryAt? (temporaryPath path) = none) ∧
    (∀ error, session = .done (.error error) →
      reached.store = world.store ∧ ∃ fault, error = .storage path fault) ∧
    (world.store.entryAt? (temporaryPath path) ≠ none →
      ∀ result, session = .done result → ∃ fault, result = .error (.storage path fault) ∧
        (¬ faults.takenCreation → fault = .alreadyExists)) ∧
    ∃ result last, Session.Steps faults (session, reached) (.done result, last) := by
  refine ⟨?_, ?_, ?_, ?_, ?_⟩
  · obtain ⟨_, _, consistent⟩ := WritePhase.consistent_of_steps kept steps
    exact WritePhase.entryAt_of_consistent consistent
  · rintro rfl
    obtain ⟨destination, installed⟩ :=
      WritePhase.installed_of_consistent (WritePhase.consistent_of_done kept steps)
    exact ⟨destination, installed.named, installed.isStore, installed.entryAt_destination,
      installed.entryAt_temporary⟩
  · rintro error rfl
    obtain ⟨untouched, fault, isFault, _⟩ :=
      WritePhase.untouched_of_consistent (WritePhase.consistent_of_done kept steps)
    exact ⟨untouched, fault, isFault⟩
  · rintro present result rfl
    cases result with
    | error error =>
        obtain ⟨_, fault, rfl, taken⟩ :=
          WritePhase.untouched_of_consistent (WritePhase.consistent_of_done kept steps)
        exact ⟨fault, rfl, taken present⟩
    | ok =>
        obtain ⟨_, installed⟩ :=
          WritePhase.installed_of_consistent (WritePhase.consistent_of_done kept steps)
        exact absurd installed.noTemporary present
  · exact ⟨_, _, Session.steps_run faults session reached⟩

theorem Image.writeTo_full_disk :
    ∃ world reached : World, world.store.entryAt? "a" = some (.file [7]) ∧
      ¬ Session.Faults.usual.removal ∧
      Session.Steps .usual ((Image.build [0x13, 0, 0, 0] 0 0).writeTo "a", world)
        (.done (.error (.storage "a" (.other "No space left on device" 28))), reached) ∧
      reached.store = world.store := by
  obtain ⟨reached, _, steps⟩ := WritePhase.steps_of_advances
    (@WritePhase.advances_of_fault (Image.build [0x13, 0, 0, 0] 0 0) "a"
      (World.ofStore ((Store.fresh []).insert ["a"] (.file [7]))).store .usual _ rfl 3
      (.other "No space left on device" 28))
  refine ⟨_, reached, rfl, not_false, steps, ?_⟩
  exact ((writeTo_all_or_nothing _ "a" not_false steps).2.2.1 _ rfl).1

end Rv32Image
