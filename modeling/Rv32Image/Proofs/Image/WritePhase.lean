/-
Where a session that writes an image can stand.  A step takes a phase and a store to a
phase and a store, with nothing else in the world involved.
-/

import Rv32Image.Image.Persistence
import Rv32Image.Proofs.Session.Steps

namespace Rv32Image

open Session

inductive WritePhase where
  | creating
  | filling (rest : List UInt8)
  | syncing
  | replacing
  | recording
  | discarding (fault : FileFault)
  | warning (fault cleanup : FileFault)
  | finished (result : Except Error Unit)

namespace WritePhase

variable (image : Image) (path : String)

def failed (fault : FileFault) : WritePhase :=
  .finished (.error (.storage path fault))

def afterCreation : Except FileFault Unit → WritePhase
  | .ok () => .filling image.bytes
  | .error fault => failed path fault

/-- Every fault after the creation leads to the removal. -/
def orDiscard (next : WritePhase) : Except FileFault Unit → WritePhase
  | .ok () => next
  | .error fault => .discarding fault

def afterRemoval (fault : FileFault) : Except FileFault Unit → WritePhase
  | .ok () => failed path fault
  | .error cleanup => if cleanup = .notFound then failed path fault else .warning fault cleanup

def conclude : Except FileFault Unit → Session (Except Error Unit)
  | .error fault => do
      Image.discardTemporary path
      return .error (.storage path fault)
  | .ok () => do
      Session.send (.log (image.writeRecord path))
      return .ok ()

/-- The part of the session that is still to come. -/
def session : WritePhase → Session (Except Error Unit)
  | creating => image.writeTo path
  | filling rest => do
      let reply ← ExceptT.run (m := Session) do
        ExceptT.mk (Session.send (.append (Image.temporaryPath path) rest))
        ExceptT.mk (Session.send (.sync (Image.temporaryPath path)))
        ExceptT.mk (Session.send (.rename (Image.temporaryPath path) path))
      conclude image path reply
  | syncing => do
      let reply ← ExceptT.run (m := Session) do
        ExceptT.mk (Session.send (.sync (Image.temporaryPath path)))
        ExceptT.mk (Session.send (.rename (Image.temporaryPath path) path))
      conclude image path reply
  | replacing => do
      let reply ← Session.send (.rename (Image.temporaryPath path) path)
      conclude image path reply
  | recording => conclude image path (.ok ())
  | discarding fault => conclude image path (.error fault)
  | warning fault cleanup =>
      ask (.log {
        level := .warning
        message := "Failed to remove " ++ Image.temporaryPath path ++ ": " ++ cleanup.message })
        fun _ => done (.error (.storage path fault))
  | finished result => done result

/-! ### What each phase waits for -/

theorem session_creating :
    creating.session image path =
      ask (.createNew (Image.temporaryPath path)) fun reply =>
        (afterCreation image path reply).session image path := by
  change ask _ _ = _
  congr 1
  funext reply
  rcases reply with fault | ⟨⟩ <;> rfl

theorem session_filling (rest : List UInt8) :
    (filling rest).session image path =
      ask (.append (Image.temporaryPath path) rest) fun reply =>
        (orDiscard syncing reply).session image path := by
  change ask _ _ = _
  congr 1
  funext reply
  rcases reply with fault | ⟨⟩ <;> rfl

theorem session_syncing :
    syncing.session image path =
      ask (.sync (Image.temporaryPath path)) fun reply =>
        (orDiscard replacing reply).session image path := by
  change ask _ _ = _
  congr 1
  funext reply
  rcases reply with fault | ⟨⟩ <;> rfl

theorem session_replacing :
    replacing.session image path =
      ask (.rename (Image.temporaryPath path) path) fun reply =>
        (orDiscard recording reply).session image path := by
  change ask _ _ = _
  congr 1
  funext reply
  rcases reply with fault | ⟨⟩ <;> rfl

theorem session_discarding (fault : FileFault) :
    (discarding fault).session image path =
      ask (.remove (Image.temporaryPath path)) fun reply =>
        (afterRemoval path fault reply).session image path := by
  change ask _ _ = _
  congr 1
  funext reply
  rcases reply with cleanup | ⟨⟩
  · cases cleanup <;> rfl
  · rfl

variable {image path} in
theorem eq_finished {phase : WritePhase} {result : Except Error Unit}
    (isDone : phase.session image path = done result) : phase = finished result := by
  cases phase with
  | creating =>
      rw [session_creating] at isDone
      cases isDone
  | filling rest =>
      rw [session_filling] at isDone
      cases isDone
  | syncing =>
      rw [session_syncing] at isDone
      cases isDone
  | replacing =>
      rw [session_replacing] at isDone
      cases isDone
  | recording => cases isDone
  | discarding fault =>
      rw [session_discarding] at isDone
      cases isDone
  | warning fault cleanup => cases isDone
  | finished result =>
      cases isDone
      rfl

/-! ### Steps between phases -/

/-- What one step does to the phase and to the store. -/
inductive Advances (faults : Faults) : WritePhase × Store → WritePhase × Store → Prop
  | created {store made : Store}
      (creation : store.createNew (Image.temporaryPath path) = .ok made) :
      Advances faults (creating, store) (filling image.bytes, made)
  | notCreated {store : Store} {fault : FileFault}
      (reason : store.createNew (Image.temporaryPath path) = .error fault ∨
        store.entryAt? (Image.temporaryPath path) = none ∨ faults.takenCreation) :
      Advances faults (creating, store) (failed path fault, store)
  | grown {store longer : Store} {piece : List UInt8} (nonempty : piece ≠ []) (rest : List UInt8)
      (appended : store.append (Image.temporaryPath path) piece = .ok longer) :
      Advances faults (filling (piece ++ rest), store) (filling rest, longer)
  | filled {store longer : Store} (rest : List UInt8)
      (appended : store.append (Image.temporaryPath path) rest = .ok longer) :
      Advances faults (filling rest, store) (syncing, longer)
  | notFilled (store : Store) (rest : List UInt8) (fault : FileFault) :
      Advances faults (filling rest, store) (discarding fault, store)
  | synced (store : Store) : Advances faults (syncing, store) (replacing, store)
  | notSynced (store : Store) (fault : FileFault) :
      Advances faults (syncing, store) (discarding fault, store)
  | replaced {store renamed : Store}
      (replacement : store.rename (Image.temporaryPath path) path = .ok renamed) :
      Advances faults (replacing, store) (recording, renamed)
  | notReplaced (store : Store) (fault : FileFault) :
      Advances faults (replacing, store) (discarding fault, store)
  | discarded {store erased : Store} (fault : FileFault)
      (removal : store.remove (Image.temporaryPath path) = .ok erased) :
      Advances faults (discarding fault, store) (failed path fault, erased)
  | notDiscarded {store : Store} (fault : FileFault) {cleanup : FileFault}
      (reason : store.remove (Image.temporaryPath path) = .error cleanup ∨ faults.removal) :
      Advances faults (discarding fault, store)
        (afterRemoval path fault (.error cleanup), store)
  | recorded (store : Store) :
      Advances faults (recording, store) (finished (.ok ()), store)
  | warned (store : Store) (fault cleanup : FileFault) :
      Advances faults (warning fault cleanup, store) (failed path fault, store)

variable {image path} {faults : Faults}

theorem advances_of_step {phase : WritePhase} {world : World}
    {after : Session (Except Error Unit) × World}
    (step : Step faults (phase.session image path, world) after) :
    ∃ next : WritePhase, after.1 = next.session image path ∧
      Advances image path faults (phase, world.store) (next, after.2.store) := by
  cases phase with
  | creating =>
      rw [session_creating] at step
      cases step with
      | served =>
          cases creation : world.store.createNew (Image.temporaryPath path) with
          | ok made =>
              rw [World.answer, creation]
              exact ⟨_, rfl, .created creation⟩
          | error fault =>
              rw [World.answer, creation]
              exact ⟨_, rfl, .notCreated (.inl creation)⟩
      | refused refusal =>
          cases refusal with
          | creation admitted fault => exact ⟨_, rfl, .notCreated (.inr admitted)⟩
  | filling rest =>
      rw [session_filling] at step
      cases step with
      | served =>
          cases appended : world.store.append (Image.temporaryPath path) rest with
          | ok longer =>
              rw [World.answer, appended]
              exact ⟨_, rfl, .filled rest appended⟩
          | error fault =>
              rw [World.answer, appended]
              exact ⟨_, rfl, .notFilled _ rest fault⟩
      | refused refusal =>
          cases refusal with
          | appending _ _ fault => exact ⟨_, rfl, .notFilled _ rest fault⟩
      | grown split nonempty appended =>
          subst split
          exact ⟨filling _, (session_filling image path _).symm, .grown nonempty _ appended⟩
  | syncing =>
      rw [session_syncing] at step
      cases step with
      | served => exact ⟨_, rfl, .synced _⟩
      | refused refusal =>
          cases refusal with
          | syncing _ fault => exact ⟨_, rfl, .notSynced _ fault⟩
  | replacing =>
      rw [session_replacing] at step
      cases step with
      | served =>
          cases replacement : world.store.rename (Image.temporaryPath path) path with
          | ok renamed =>
              rw [World.answer, replacement]
              exact ⟨_, rfl, .replaced replacement⟩
          | error fault =>
              rw [World.answer, replacement]
              exact ⟨_, rfl, .notReplaced _ fault⟩
      | refused refusal =>
          cases refusal with
          | replacing _ _ fault => exact ⟨_, rfl, .notReplaced _ fault⟩
  | recording =>
      cases step with
      | served => exact ⟨finished (.ok ()), rfl, .recorded _⟩
      | refused refusal => cases refusal
  | discarding fault =>
      rw [session_discarding] at step
      cases step with
      | served =>
          cases removal : world.store.remove (Image.temporaryPath path) with
          | ok erased =>
              rw [World.answer, removal]
              exact ⟨_, rfl, .discarded fault removal⟩
          | error cleanup =>
              rw [World.answer, removal]
              exact ⟨_, rfl, .notDiscarded fault (.inl removal)⟩
      | refused refusal =>
          cases refusal with
          | removal allowed _ cleanup => exact ⟨_, rfl, .notDiscarded fault (.inr allowed)⟩
  | warning fault cleanup =>
      cases step with
      | served => exact ⟨failed path fault, rfl, .warned _ fault cleanup⟩
      | refused refusal => cases refusal
  | finished result => cases step

/-- Nothing that was listed is impossible. -/
theorem step_of_advances {phase next : WritePhase} {world : World} {after : Store}
    (advance : Advances image path faults (phase, world.store) (next, after)) :
    ∃ reached : World, reached.store = after ∧
      Step faults (phase.session image path, world)
        (next.session image path, reached) := by
  have served (request : Request) (continuation : request.Reply → Session (Except Error Unit)) :=
    @Step.served faults _ request continuation world
  cases advance with
  | created creation =>
      rw [session_creating]
      have step := served (.createNew (Image.temporaryPath path)) fun reply =>
        (afterCreation image path reply).session image path
      rw [World.answer, creation] at step
      exact ⟨_, rfl, step⟩
  | notCreated reason =>
      rw [session_creating]
      rcases reason with creation | admitted
      · have step := served (.createNew (Image.temporaryPath path)) fun reply =>
          (afterCreation image path reply).session image path
        rw [World.answer, creation] at step
        exact ⟨_, rfl, step⟩
      · exact ⟨_, rfl, .refused (.creation admitted _) _⟩
  | grown nonempty rest appended =>
      rw [session_filling, session_filling]
      exact ⟨{ world with store := after }, rfl, .grown rfl nonempty appended _⟩
  | filled rest appended =>
      rw [session_filling]
      have step := served (.append (Image.temporaryPath path) rest) fun reply =>
        (orDiscard syncing reply).session image path
      rw [World.answer, appended] at step
      exact ⟨_, rfl, step⟩
  | notFilled _ rest fault =>
      rw [session_filling]
      exact ⟨_, rfl, .refused (.appending _ _ fault) _⟩
  | synced =>
      rw [session_syncing]
      exact ⟨_, rfl, served (.sync _) _⟩
  | notSynced _ fault =>
      rw [session_syncing]
      exact ⟨_, rfl, .refused (.syncing _ fault) _⟩
  | replaced replacement =>
      rw [session_replacing]
      have step := served (.rename (Image.temporaryPath path) path) fun reply =>
        (orDiscard recording reply).session image path
      rw [World.answer, replacement] at step
      exact ⟨_, rfl, step⟩
  | notReplaced _ fault =>
      rw [session_replacing]
      exact ⟨_, rfl, .refused (.replacing _ _ fault) _⟩
  | discarded fault removal =>
      rw [session_discarding]
      have step := served (.remove (Image.temporaryPath path)) fun reply =>
        (afterRemoval path fault reply).session image path
      rw [World.answer, removal] at step
      exact ⟨_, rfl, step⟩
  | notDiscarded fault reason =>
      rw [session_discarding]
      rcases reason with removal | allowed
      · have step := served (.remove (Image.temporaryPath path)) fun reply =>
          (afterRemoval path fault reply).session image path
        rw [World.answer, removal] at step
        exact ⟨_, rfl, step⟩
      · exact ⟨_, rfl, .refused (.removal allowed _ _) _⟩
  | recorded => exact ⟨(world.answer (.log _)).2, rfl, served _ _⟩
  | warned _ fault cleanup => exact ⟨(world.answer (.log _)).2, rfl, served _ _⟩

theorem steps_of_advances {phase : WritePhase} {world : World} {last : WritePhase × Store}
    (advances :
      Relation.ReflTransGen (Advances image path faults) (phase, world.store) last) :
    ∃ reached : World, reached.store = last.2 ∧
      Steps faults (phase.session image path, world)
        (last.1.session image path, reached) := by
  induction advances with
  | refl => exact ⟨world, rfl, .refl⟩
  | @tail middle last _ advance ih =>
      obtain ⟨between, isStore, steps⟩ := ih
      obtain ⟨phase, store⟩ := middle
      obtain ⟨next, after⟩ := last
      dsimp only at isStore steps
      subst isStore
      obtain ⟨reached, isAfter, step⟩ := step_of_advances advance
      exact ⟨reached, isAfter, steps.tail step⟩

end WritePhase

end Rv32Image
