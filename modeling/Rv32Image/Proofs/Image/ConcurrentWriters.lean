/-
Several callers that write images to one path at the same time.  The temporary file
belongs to the caller that made it, and while it is there nobody else can make one.
-/

import Rv32Image.Proofs.Image.AllOrNothing
import Rv32Image.Proofs.Session.Interleaving

namespace Rv32Image

open Store Session

/-- What is asked about a file that the one who asks has made. -/
def Request.NeedsOwnFile : Request → Prop
  | append _ _ => True
  | sync _ => True
  | rename _ _ => True
  | remove _ => True
  | _ => False

/-- The session has made its file and has not yet renamed or removed it. -/
def Session.OwnsFile {α : Type} : Session α → Prop
  | done _ => False
  | ask request _ => request.NeedsOwnFile

structure Image.Replacement (image : Image) (path : String)
    (before after : Session (Except Error Unit) × World) : Prop where
  waiting : ∃ next, before.1 = .ask (.rename (temporaryPath path) path) next
  complete : before.2.store.entryAt? (temporaryPath path) = some (.file image.bytes)
  renamed : before.2.store.rename (temporaryPath path) path = .ok after.2.store
  installed : after.2.store.entryAt? path = some (.file image.bytes)

/-! ### Successive images -/

theorem Store.Installed.trans {path : String} {initial middle last : Store}
    {first second : Location} {earlier later : List UInt8}
    (before : Installed path initial middle first earlier)
    (after : Installed path middle last second later) :
    Installed path initial last first later := by
  have sameLocation : first = second :=
    Option.some.inj
      ((fileLocation_congr before.sameDirectories before.named).symm.trans after.named)
  refine ⟨before.named, before.noDirectory, before.noTemporary, ?_⟩
  rw [after.isStore, before.isStore, ← sameLocation, insert_insert]

theorem Store.HasTemporary.createNew_eq {path : String} {initial store : Store}
    {temporary : Location} {written : List UInt8}
    (has : HasTemporary path initial store temporary written) :
    store.createNew (Image.temporaryPath path) = .error .alreadyExists := by
  rw [createNew_of_fileLocation has.stillNamed, has.file]
  rfl

namespace WritePhase

variable {image : Image} {path : String} {base store after : Store} {phase next : WritePhase}
  {faults : Faults}

/-! ### One caller -/

def Owning : WritePhase → Prop
  | filling _ => True
  | syncing => True
  | replacing => True
  | discarding _ => True
  | _ => False

def Succeeded (phase : WritePhase) : Prop :=
  phase = recording ∨ phase = finished (.ok ())

theorem ownsFile_session (image : Image) (path : String) (phase : WritePhase) :
    (phase.session image path).OwnsFile ↔ phase.Owning := by
  cases phase with
  | creating =>
      rw [session_creating]
      exact Iff.rfl
  | filling rest =>
      rw [session_filling]
      exact Iff.rfl
  | syncing =>
      rw [session_syncing]
      exact Iff.rfl
  | replacing =>
      rw [session_replacing]
      exact Iff.rfl
  | recording => exact Iff.rfl
  | discarding fault =>
      rw [session_discarding]
      exact Iff.rfl
  | warning fault cleanup => exact Iff.rfl
  | finished result => exact Iff.rfl

/-- Who finds the temporary file taken ends there and touches nothing. -/
theorem step_of_taken {world : World} {after : Session (Except Error Unit) × World}
    (taken : world.store.entryAt? (Image.temporaryPath path) ≠ none)
    (step : Step faults (image.writeTo path, world) after) :
    ∃ fault, after = (.done (.error (.storage path fault)), world) ∧
      (¬ faults.takenCreation → fault = .alreadyExists) := by
  change Step faults (creating.session image path, world) after at step
  rw [session_creating] at step
  cases step with
  | served =>
      rw [World.answer, createNew_of_taken taken]
      exact ⟨_, rfl, fun _ => rfl⟩
  | refused refusal =>
      cases refusal with
      | creation admitted fault =>
          refine ⟨fault, rfl, fun answered => ?_⟩
          rcases admitted with absent | refused
          · exact absurd absent taken
          · exact absurd refused answered

theorem lost_step {world : World}
    (taken : world.store.entryAt? (Image.temporaryPath path) ≠ none) :
    Step faults (image.writeTo path, world)
      (.done (.error (.storage path .alreadyExists)), world) := by
  have step := @Step.served faults _ (.createNew (Image.temporaryPath path))
    (fun reply => (afterCreation image path reply).session image path) world
  rw [World.answer, createNew_of_taken taken, ← session_creating] at step
  exact step

theorem hasTemporary_of_owning (consistent : Consistent image path faults base (phase, store))
    (owning : phase.Owning) :
    ∃ temporary written, written <+: image.bytes ∧
      HasTemporary path base store temporary written := by
  cases consistent with
  | creating => cases owning
  | filling has isImage => exact ⟨_, _, ⟨_, isImage⟩, has⟩
  | syncing has => exact ⟨_, _, List.prefix_rfl, has⟩
  | replacing has => exact ⟨_, _, List.prefix_rfl, has⟩
  | discarding has isPart _ => exact ⟨_, _, isPart, has⟩
  | recording _ => cases owning
  | succeeded _ => cases owning
  | failed _ => cases owning

theorem installed_of_not_owning (consistent : Consistent image path faults base (phase, store))
    (notOwning : ¬ phase.Owning) :
    store = base ∨ ∃ destination, Installed path base store destination image.bytes := by
  cases consistent with
  | creating => exact .inl rfl
  | filling _ _ => exact absurd trivial notOwning
  | syncing _ => exact absurd trivial notOwning
  | replacing _ => exact absurd trivial notOwning
  | discarding _ _ _ => exact absurd trivial notOwning
  | recording installed => exact .inr ⟨_, installed⟩
  | succeeded installed => exact .inr ⟨_, installed⟩
  | failed _ => exact .inl rfl

theorem not_owning_failed (path : String) (fault : FileFault) : ¬ (failed path fault).Owning :=
  not_false

theorem not_owning_afterRemoval (path : String) (fault cleanup : FileFault) :
    ¬ (afterRemoval path fault (.error cleanup)).Owning := by
  unfold afterRemoval
  dsimp only
  split <;> exact not_false

/-- Who owns nothing leaves the store alone, unless it makes the temporary file. -/
theorem idle_or_created (advance : Advances image path faults (phase, store) (next, after))
    (notOwning : ¬ phase.Owning) :
    (after = store ∧ ¬ next.Owning) ∨
      (next = filling image.bytes ∧ store.createNew (Image.temporaryPath path) = .ok after) := by
  cases advance with
  | created creation => exact .inr ⟨rfl, creation⟩
  | notCreated _ => exact .inl ⟨rfl, not_owning_failed path _⟩
  | recorded => exact .inl ⟨rfl, not_false⟩
  | warned _ fault _ => exact .inl ⟨rfl, not_owning_failed path fault⟩
  | grown => exact absurd trivial notOwning
  | filled => exact absurd trivial notOwning
  | notFilled => exact absurd trivial notOwning
  | synced => exact absurd trivial notOwning
  | notSynced => exact absurd trivial notOwning
  | replaced => exact absurd trivial notOwning
  | notReplaced => exact absurd trivial notOwning
  | discarded => exact absurd trivial notOwning
  | notDiscarded => exact absurd trivial notOwning

theorem advances_or_abandoned
    (advance : Advances image path faults (phase, store) (next, after)) :
    Advances image path faults.withoutRemoval (phase, store) (next, after) ∨
      (faults.removal ∧ after = store ∧ ¬ next.Owning ∧ ¬ next.Succeeded) := by
  cases advance with
  | created creation => exact .inl (.created creation)
  | notCreated reason => exact .inl (.notCreated reason)
  | grown nonempty rest appended => exact .inl (.grown nonempty rest appended)
  | filled rest appended => exact .inl (.filled rest appended)
  | notFilled _ rest fault => exact .inl (.notFilled _ rest fault)
  | synced => exact .inl (.synced _)
  | notSynced _ fault => exact .inl (.notSynced _ fault)
  | replaced replacement => exact .inl (.replaced replacement)
  | notReplaced _ fault => exact .inl (.notReplaced _ fault)
  | discarded fault removal => exact .inl (.discarded fault removal)
  | notDiscarded fault reason =>
      rcases reason with removal | allowed
      · exact .inl (.notDiscarded fault (.inl removal))
      · refine .inr ⟨allowed, rfl, not_owning_afterRemoval path fault _, ?_⟩
        unfold afterRemoval Succeeded failed
        dsimp only
        split <;> simp
  | recorded => exact .inl (.recorded _)
  | warned _ fault cleanup => exact .inl (.warned _ fault cleanup)

/-- Success comes from the renaming and from nothing else. -/
theorem succeeded_of_advances
    (advance : Advances image path faults (phase, store) (next, after))
    (succeeded : next.Succeeded) :
    phase.Succeeded ∨
      (phase = replacing ∧ store.rename (Image.temporaryPath path) path = .ok after) := by
  cases advance with
  | replaced replacement => exact .inr ⟨rfl, replacement⟩
  | recorded => exact .inl (.inl rfl)
  | notDiscarded fault reason =>
      revert succeeded
      unfold afterRemoval Succeeded failed
      dsimp only
      split <;> simp
  | created => simp [Succeeded] at succeeded
  | notCreated => simp [Succeeded, failed] at succeeded
  | grown => simp [Succeeded] at succeeded
  | filled => simp [Succeeded] at succeeded
  | notFilled => simp [Succeeded] at succeeded
  | synced => simp [Succeeded] at succeeded
  | notSynced => simp [Succeeded] at succeeded
  | notReplaced => simp [Succeeded] at succeeded
  | discarded => simp [Succeeded, failed] at succeeded
  | warned => simp [Succeeded, failed] at succeeded

/-! ### All callers -/

variable {Caller : Type} {images : Caller → Image} {initial : Store}
  {phases : Caller → WritePhase}

/-- The initial store, or the same with the image of one caller in it. -/
def Settled (images : Caller → Image) (path : String) (initial base : Store) : Prop :=
  base = initial ∨
    ∃ caller destination, Installed path initial base destination (images caller).bytes

theorem Settled.installed {caller : Caller} {destination : Location}
    (settled : Settled images path initial base)
    (installed : Installed path base after destination (images caller).bytes) :
    Settled images path initial after := by
  rcases settled with rfl | ⟨_, first, before⟩
  · exact .inr ⟨caller, destination, installed⟩
  · exact .inr ⟨caller, first, before.trans installed⟩

theorem Settled.entryAt_destination (settled : Settled images path initial base) :
    base.entryAt? path = initial.entryAt? path ∨
      ∃ caller, base.entryAt? path = some (.file (images caller).bytes) := by
  rcases settled with rfl | ⟨caller, _, installed⟩
  · exact .inl rfl
  · exact .inr ⟨caller, installed.entryAt_destination⟩

theorem Settled.entryAt_temporary (settled : Settled images path initial base)
    (absent : initial.entryAt? (Image.temporaryPath path) = none) :
    base.entryAt? (Image.temporaryPath path) = none := by
  rcases settled with rfl | ⟨_, _, installed⟩
  · exact absent
  · exact installed.entryAt_temporary

/-- What all callers together can have made of the store. -/
inductive Shared (images : Caller → Image) (path : String) (initial : Store)
    (faults : Faults) : (Caller → WritePhase) × Store → Prop
  | free {phases : Caller → WritePhase} {base : Store}
      (settled : Settled images path initial base)
      (nobody : ∀ caller, ¬ (phases caller).Owning) :
      Shared images path initial faults (phases, base)
  | owned {phases : Caller → WritePhase} {base store : Store}
      (settled : Settled images path initial base) (owner : Caller)
      (owning : (phases owner).Owning)
      (alone : ∀ caller, (phases caller).Owning → caller = owner)
      (consistent :
        Consistent (images owner) path faults.withoutRemoval base (phases owner, store)) :
      Shared images path initial faults (phases, store)
  | abandoned {phases : Caller → WritePhase} {base store : Store} {temporary : Location}
      {written : List UInt8} (allowed : faults.removal)
      (settled : Settled images path initial base)
      (nobody : ∀ caller, ¬ (phases caller).Owning)
      (has : HasTemporary path base store temporary written) :
      Shared images path initial faults (phases, store)

theorem idle_of_hasTemporary {caller : Caller} {temporary : Location} {written : List UInt8}
    (has : HasTemporary path base store temporary written)
    (notOwning : ¬ (phases caller).Owning)
    (advance : Advances (images caller) path faults (phases caller, store) (next, after)) :
    after = store ∧ ¬ next.Owning := by
  rcases idle_or_created advance notOwning with idle | ⟨_, creation⟩
  · exact idle
  · rw [has.createNew_eq] at creation
    cases creation

/-- Who is about to rename owns the temporary file, and it is complete. -/
theorem replacement_of_shared {caller : Caller} {world renamed : World}
    (shared : Shared images path initial faults (phases, world.store))
    (isReplacing : phases caller = replacing)
    (replacement : world.store.rename (Image.temporaryPath path) path = .ok renamed.store)
    (next : Session (Except Error Unit)) :
    (images caller).Replacement path (replacing.session (images caller) path, world)
      (next, renamed) := by
  have owning : (phases caller).Owning := by
    rw [isReplacing]
    exact trivial
  cases shared with
  | free _ nobody => exact absurd owning (nobody caller)
  | abandoned _ _ nobody _ => exact absurd owning (nobody caller)
  | @owned _ base _ settled owner _ alone consistent =>
      have isOwner := alone caller owning
      subst isOwner
      rw [isReplacing] at consistent
      cases consistent with
      | replacing has =>
          obtain ⟨_, installed⟩ := has.renamed replacement
          refine ⟨⟨_, session_replacing _ _⟩, ?_, replacement, installed.entryAt_destination⟩
          rw [entryAt_of_fileLocation has.stillNamed]
          exact has.file

/-! ### What is seen from outside -/

theorem entryAt_of_shared (shared : Shared images path initial faults (phases, store)) :
    store.entryAt? path = initial.entryAt? path ∨
      ∃ caller, store.entryAt? path = some (.file (images caller).bytes) := by
  cases shared with
  | free settled _ => exact settled.entryAt_destination
  | @owned _ base _ settled owner _ _ consistent =>
      rcases entryAt_of_consistent consistent with same | isImage
      · rw [same]
        exact settled.entryAt_destination
      · exact .inr ⟨owner, isImage⟩
  | abandoned _ settled _ has =>
      rw [has.entryAt_destination]
      exact settled.entryAt_destination

theorem owner_unique (shared : Shared images path initial faults (phases, store))
    {first second : Caller} (firstOwning : (phases first).Owning)
    (secondOwning : (phases second).Owning) : first = second := by
  cases shared with
  | free _ nobody => exact absurd firstOwning (nobody first)
  | owned _ _ _ alone _ => exact (alone first firstOwning).trans (alone second secondOwning).symm
  | abandoned _ _ nobody _ => exact absurd firstOwning (nobody first)

theorem temporary_of_shared (shared : Shared images path initial faults (phases, store))
    {caller : Caller} (owning : (phases caller).Owning) :
    ∃ written, written <+: (images caller).bytes ∧
      store.entryAt? (Image.temporaryPath path) = some (.file written) := by
  cases shared with
  | free _ nobody => exact absurd owning (nobody caller)
  | owned _ _ _ alone consistent =>
      have isOwner := alone caller owning
      subst isOwner
      obtain ⟨_, written, isPart, has⟩ := hasTemporary_of_owning consistent owning
      refine ⟨written, isPart, ?_⟩
      rw [entryAt_of_fileLocation has.stillNamed]
      exact has.file
  | abandoned _ _ nobody _ => exact absurd owning (nobody caller)

theorem temporary_absent_of_shared
    (shared : Shared images path initial faults (phases, store))
    (noneKept : ¬ faults.removal)
    (absent : initial.entryAt? (Image.temporaryPath path) = none)
    (nobody : ∀ caller, ¬ (phases caller).Owning) :
    store.entryAt? (Image.temporaryPath path) = none := by
  cases shared with
  | free settled _ => exact settled.entryAt_temporary absent
  | owned _ _ owning _ _ => exact absurd owning (nobody _)
  | abandoned allowed _ _ _ => exact absurd allowed noneKept

/-! ### Steps of all callers -/

variable [DecidableEq Caller]

theorem nobody_update {caller : Caller} (others : ∀ other, other ≠ caller → ¬ (phases other).Owning)
    (notOwning : ¬ next.Owning) (other : Caller) :
    ¬ (Function.update phases caller next other).Owning := by
  by_cases same : other = caller
  · rw [same, Function.update_self]
    exact notOwning
  · rw [Function.update_of_ne same]
    exact others other same

theorem shared_of_owner {owner : Caller} (settled : Settled images path initial base)
    (alone : ∀ caller, (phases caller).Owning → caller = owner)
    (consistent : Consistent (images owner) path faults.withoutRemoval base (phases owner, store))
    (owning : (phases owner).Owning)
    (advance : Advances (images owner) path faults (phases owner, store) (next, after)) :
    Shared images path initial faults (Function.update phases owner next, after) := by
  have others : ∀ other, other ≠ owner → ¬ (phases other).Owning := by
    intro other different itsOwning
    exact different (alone other itsOwning)
  rcases advances_or_abandoned advance with faultless | ⟨allowed, rfl, notOwning, _⟩
  · have consistentNext := consistent_of_advances not_false consistent faultless
    by_cases stillOwning : next.Owning
    · refine .owned settled owner ?_ ?_ ?_
      · rw [Function.update_self]
        exact stillOwning
      · intro caller itsOwning
        by_contra different
        rw [Function.update_of_ne different] at itsOwning
        exact others caller different itsOwning
      · rw [Function.update_self]
        exact consistentNext
    · have nobody := nobody_update others stillOwning
      rcases installed_of_not_owning consistentNext stillOwning with rfl | ⟨_, installed⟩
      · exact .free settled nobody
      · exact .free (settled.installed installed) nobody
  · obtain ⟨_, _, _, has⟩ := hasTemporary_of_owning consistent owning
    exact .abandoned allowed settled (nobody_update others notOwning) has

theorem shared_of_advances {caller : Caller}
    (shared : Shared images path initial faults (phases, store))
    (advance : Advances (images caller) path faults (phases caller, store) (next, after)) :
    Shared images path initial faults (Function.update phases caller next, after) := by
  cases shared with
  | free settled nobody =>
      rcases idle_or_created advance (nobody caller) with ⟨rfl, notOwning⟩ | ⟨rfl, creation⟩
      · exact .free settled (nobody_update (fun other _ => nobody other) notOwning)
      · obtain ⟨temporary, has⟩ := HasTemporary.of_createNew creation
        refine .owned settled caller ?_ ?_ ?_
        · rw [Function.update_self]
          exact trivial
        · intro other itsOwning
          by_contra different
          rw [Function.update_of_ne different] at itsOwning
          exact nobody other itsOwning
        · rw [Function.update_self]
          exact .filling has rfl
  | @owned _ base _ settled owner owning alone consistent =>
      by_cases isOwner : caller = owner
      · subst isOwner
        exact shared_of_owner settled alone consistent owning advance
      · have notOwning : ¬ (phases caller).Owning := fun itsOwning =>
          isOwner (alone caller itsOwning)
        obtain ⟨_, _, _, has⟩ := hasTemporary_of_owning consistent owning
        obtain ⟨rfl, stillIdle⟩ := idle_of_hasTemporary has notOwning advance
        have unchanged : Function.update phases caller next owner = phases owner :=
          Function.update_of_ne (Ne.symm isOwner) _ _
        refine .owned settled owner ?_ ?_ ?_
        · rw [unchanged]
          exact owning
        · intro other itsOwning
          by_cases same : other = caller
          · rw [same, Function.update_self] at itsOwning
            exact absurd itsOwning stillIdle
          · rw [Function.update_of_ne same] at itsOwning
            exact alone other itsOwning
        · rw [unchanged]
          exact consistent
  | abandoned allowed settled nobody has =>
      obtain ⟨rfl, notOwning⟩ := idle_of_hasTemporary has (nobody caller) advance
      exact .abandoned allowed settled (nobody_update (fun other _ => nobody other) notOwning) has

/-! ### Runs -/

/-- After any number of steps the callers stand in phases that go with the store, and who
has succeeded has replaced the destination before. -/
theorem shared_of_turns {world : World} {last : (Caller → Session (Except Error Unit)) × World}
    (turns : Turns faults (fun caller => (images caller).writeTo path, world) last) :
    ∃ phases : Caller → WritePhase,
      (∀ caller, last.1 caller = (phases caller).session (images caller) path) ∧
      Shared images path world.store faults (phases, last.2.store) ∧
      ∀ caller, (phases caller).Succeeded →
        ∃ before after,
          Turns faults (fun caller => (images caller).writeTo path, world) before ∧
          Turn faults before after ∧ Turns faults after last ∧
          (images caller).Replacement path (before.1 caller, before.2)
            (after.1 caller, after.2) := by
  induction turns with
  | refl =>
      refine ⟨fun _ => creating, fun _ => rfl, .free (.inl rfl) (fun _ => not_false), ?_⟩
      intro caller succeeded
      simp [Succeeded] at succeeded
  | @tail middle last turns turn ih =>
      obtain ⟨phases, inPhase, shared, replaced⟩ := ih
      have lastTurn := turn
      cases turn with
      | @taken caller sessions world' reached next step =>
          dsimp only at inPhase shared replaced
          have stepInPhase := step
          rw [inPhase caller] at stepInPhase
          obtain ⟨nextPhase, isNext, advance⟩ := advances_of_step stepInPhase
          refine ⟨Function.update phases caller nextPhase, ?_,
            shared_of_advances shared advance, ?_⟩
          · intro other
            dsimp only
            by_cases same : other = caller
            · subst same
              rw [Function.update_self, Function.update_self]
              exact isNext
            · rw [Function.update_of_ne same, Function.update_of_ne same]
              exact inPhase other
          · intro other succeeded
            by_cases same : other = caller
            · subst same
              rw [Function.update_self] at succeeded
              rcases succeeded_of_advances advance succeeded with
                already | ⟨isReplacing, replacement⟩
              · obtain ⟨before, after, start, at', rest, event⟩ := replaced other already
                exact ⟨before, after, start, at', rest.tail lastTurn, event⟩
              · refine ⟨_, _, turns, lastTurn, .refl, ?_⟩
                dsimp only
                rw [inPhase other, isReplacing]
                exact replacement_of_shared shared isReplacing replacement _
            · rw [Function.update_of_ne same] at succeeded
              obtain ⟨before, after, start, at', rest, event⟩ := replaced other succeeded
              exact ⟨before, after, start, at', rest.tail lastTurn, event⟩

end WritePhase

/-! ### The whole operation -/

/-- The destination holds what it held at the start or one complete image, the temporary
file has at most one owner, success comes from renaming one's own complete image, who
finds the temporary file taken ends with an error and changes nothing, and no temporary
file is left behind as long as none is kept from being removed. -/
theorem Image.writeTo_concurrently {Caller : Type} [DecidableEq Caller]
    (images : Caller → Image) (path : String) {faults : Faults} {world reached : World}
    {sessions : Caller → Session (Except Error Unit)}
    (turns : Turns faults (fun caller => (images caller).writeTo path, world)
      (sessions, reached)) :
    (reached.store.entryAt? path = world.store.entryAt? path ∨
      ∃ caller, reached.store.entryAt? path = some (.file (images caller).bytes)) ∧
    (∀ first second, (sessions first).OwnsFile → (sessions second).OwnsFile → first = second) ∧
    (∀ caller, (sessions caller).OwnsFile →
      ∃ written, written <+: (images caller).bytes ∧
        reached.store.entryAt? (temporaryPath path) = some (.file written)) ∧
    (∀ caller, sessions caller = .done (.ok ()) →
      ∃ before after,
        Turns faults (fun caller => (images caller).writeTo path, world) before ∧
        Turn faults before after ∧ Turns faults after (sessions, reached) ∧
        (images caller).Replacement path (before.1 caller, before.2) (after.1 caller, after.2)) ∧
    (∀ caller, sessions caller = (images caller).writeTo path →
      reached.store.entryAt? (temporaryPath path) ≠ none →
      ∀ after, Step faults (sessions caller, reached) after →
        ∃ fault, after = (.done (.error (.storage path fault)), reached) ∧
          (¬ faults.takenCreation → fault = .alreadyExists)) ∧
    ((∀ caller, ∃ result, sessions caller = .done result) →
      world.store.entryAt? (temporaryPath path) = none → ¬ faults.removal →
      reached.store.entryAt? (temporaryPath path) = none) := by
  obtain ⟨phases, inPhase, shared, replaced⟩ := WritePhase.shared_of_turns turns
  dsimp only at inPhase shared replaced
  have owns (caller : Caller) : (sessions caller).OwnsFile ↔ (phases caller).Owning := by
    rw [inPhase caller]
    exact WritePhase.ownsFile_session _ _ _
  refine ⟨?_, ?_, ?_, ?_, ?_, ?_⟩
  · exact WritePhase.entryAt_of_shared shared
  · intro first second firstOwns secondOwns
    exact WritePhase.owner_unique shared ((owns first).mp firstOwns) ((owns second).mp secondOwns)
  · intro caller itOwns
    exact WritePhase.temporary_of_shared shared ((owns caller).mp itOwns)
  · intro caller isDone
    apply replaced caller
    rw [inPhase caller] at isDone
    exact .inr (WritePhase.eq_finished isDone)
  · intro caller isStart taken after step
    rw [isStart] at step
    exact WritePhase.step_of_taken taken step
  · intro ended absent noneKept
    apply WritePhase.temporary_absent_of_shared shared noneKept absent
    intro caller owning
    obtain ⟨result, isDone⟩ := ended caller
    have stillOwns := (owns caller).mpr owning
    rw [isDone] at stillOwns
    exact stillOwns

/-- The second caller starts while the first has its temporary file, and loses. -/
theorem Image.writeTo_concurrently_overtaken :
    ∃ (images : Bool → Image) (world reached : World)
      (sessions : Bool → Session (Except Error Unit)),
      images true ≠ images false ∧
      Turns .usual (fun caller => (images caller).writeTo "a", world) (sessions, reached) ∧
      sessions true = .done (.ok ()) ∧
      sessions false = .done (.error (.storage "a" .alreadyExists)) ∧
      reached.store.entryAt? "a" = some (.file (images true).bytes) ∧
      reached.store.entryAt? (temporaryPath "a") = none := by
  let images : Bool → Image := fun caller => build [if caller then 0x13 else 0x73] 0 0
  let world := World.ofStore (Store.fresh [])
  have creation : world.store.createNew (temporaryPath "a") =
      .ok (world.store.insert ["a.tmp"] (.file [])) := rfl
  obtain ⟨temporary, has⟩ := HasTemporary.of_createNew creation
  have creating : WritePhase.Advances (images true) "a" .usual (.creating, world.store)
      (.filling (images true).bytes, _) := .created creation
  obtain ⟨begun, isBegun, created⟩ := WritePhase.step_of_advances creating
  rw [← isBegun] at has
  have taken : begun.store.entryAt? (temporaryPath "a") ≠ none := by
    rw [entryAt_of_fileLocation has.stillNamed, has.file]
    exact Option.some_ne_none _
  obtain ⟨reached, isReached, written⟩ := WritePhase.steps_of_advances
    (WritePhase.advances_of_room has rfl
      (show world.store.fileLocation? "a" = some ["a"] from rfl) (by decide))
  dsimp only at isReached
  have first : Turns .usual (fun caller => (images caller).writeTo "a", world) _ :=
    .single (.taken true created)
  have lost : Session.Step .usual ((images false).writeTo "a", begun) _ :=
    WritePhase.lost_step taken
  have second := first.tail (.taken false lost)
  have turns := second.trans (turns_of_steps true written)
  refine ⟨images, world, reached, _, by decide, turns, rfl, rfl, ?_, ?_⟩
  · rw [isReached]
    rfl
  · refine (writeTo_concurrently images "a" turns).2.2.2.2.2 ?_ rfl not_false
    intro caller
    cases caller with
    | true => exact ⟨_, rfl⟩
    | false => exact ⟨_, rfl⟩

end Rv32Image
