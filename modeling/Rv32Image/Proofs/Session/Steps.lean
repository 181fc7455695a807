/-
Sessions step by step, with faults.  A refused request leaves the world as it is, but
of bytes to be appended those that arrived before stay.
-/

import Mathlib.Logic.Relation
import Rv32Image.Proofs.Storage.Location
import Rv32Image.Session.World

namespace Rv32Image

namespace Session

/-- The refusals that are admitted beside those that every write has to expect. -/
structure Faults where
  removal : Prop
  takenCreation : Prop

def Faults.withoutRemoval (faults : Faults) : Faults :=
  { faults with removal := False }

def Faults.usual : Faults where
  removal := False
  takenCreation := False

/-- The replies to a request that can come although nothing was done. -/
inductive Refusal (faults : Faults) (store : Store) : (request : Request) → request.Reply → Prop
  | creation {path : String} (admitted : store.entryAt? path = none ∨ faults.takenCreation)
      (fault : FileFault) :
      Refusal faults store (.createNew path) (.error fault)
  | appending (path : String) (bytes : List UInt8) (fault : FileFault) :
      Refusal faults store (.append path bytes) (.error fault)
  | syncing (path : String) (fault : FileFault) :
      Refusal faults store (.sync path) (.error fault)
  | replacing (source target : String) (fault : FileFault) :
      Refusal faults store (.rename source target) (.error fault)
  | removal (allowed : faults.removal) (path : String) (fault : FileFault) :
      Refusal faults store (.remove path) (.error fault)

inductive Step (faults : Faults) {α : Type} : Session α × World → Session α × World → Prop
  | served (request : Request) (next : request.Reply → Session α) (world : World) :
      Step faults (ask request next, world)
        (next (world.answer request).1, (world.answer request).2)
  | refused {request : Request} {reply : request.Reply} {world : World}
      (refusal : Refusal faults world.store request reply)
      (next : request.Reply → Session α) :
      Step faults (ask request next, world) (next reply, world)
  | grown {path : String} {bytes piece rest : List UInt8} {world : World} {store : Store}
      (split : bytes = piece ++ rest) (nonempty : piece ≠ [])
      (appended : world.store.append path piece = .ok store)
      (next : Except FileFault Unit → Session α) :
      Step faults (ask (.append path bytes) next, world)
        (ask (.append path rest) next, { world with store := store })

abbrev Steps (faults : Faults) {α : Type} :
    Session α × World → Session α × World → Prop :=
  Relation.ReflTransGen (Step faults)

variable {α : Type} (faults : Faults)

/-- A run without faults is one way to go on from anywhere. -/
theorem steps_run (session : Session α) (world : World) :
    Steps faults (session, world)
      (done (session.run world).1, (session.run world).2) := by
  induction session generalizing world with
  | done value => exact .refl
  | ask request next ih => exact .head (.served request next world) (ih _ _)

def remaining : Request → Nat
  | .append _ bytes => bytes.length
  | _ => 0

theorem acc_ask (length : Nat) (request : Request) (next : request.Reply → Session α)
    (isLength : remaining request = length)
    (answered : ∀ reply world, Acc
      (fun after before : Session α × World => Step faults before after)
      (next reply, world)) (world : World) :
    Acc (fun after before : Session α × World => Step faults before after)
      (ask request next, world) := by
  induction length using Nat.strongRecOn generalizing request world with
  | ind length ih =>
      constructor
      intro after step
      cases step with
      | served => exact answered _ _
      | refused refusal => exact answered _ _
      | @grown path bytes piece rest _ store split nonempty appended next =>
          have shorter : rest.length < length := by
            have positive := List.length_pos_iff.mpr nonempty
            rw [← isLength, remaining, split, List.length_append]
            omega
          exact ih rest.length shorter (.append path rest) next rfl answered _

/-- No session goes on for ever, whatever is refused. -/
theorem step_wellFounded :
    WellFounded fun after before : Session α × World => Step faults before after := by
  constructor
  rintro ⟨session, world⟩
  induction session generalizing world with
  | done value =>
      constructor
      intro after step
      cases step
  | ask request next ih => exact acc_ask faults _ request next rfl ih world

end Session

end Rv32Image
