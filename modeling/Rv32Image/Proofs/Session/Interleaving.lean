/-
Sessions that run at the same time on one world, one caller taking a step at a time.
-/

import Mathlib.Logic.Function.Basic
import Rv32Image.Proofs.Session.Steps

namespace Rv32Image

namespace Session

variable {Caller α : Type} [DecidableEq Caller]

inductive Turn (faults : Faults) :
    (Caller → Session α) × World → (Caller → Session α) × World → Prop
  | taken (caller : Caller) {sessions : Caller → Session α} {world reached : World}
      {next : Session α}
      (step : Step faults (sessions caller, world) (next, reached)) :
      Turn faults (sessions, world) (Function.update sessions caller next, reached)

abbrev Turns (faults : Faults) :
    (Caller → Session α) × World → (Caller → Session α) × World → Prop :=
  Relation.ReflTransGen (Turn faults)

theorem turns_of_steps {faults : Faults} (caller : Caller) {sessions : Caller → Session α}
    {world : World} {after : Session α × World}
    (steps : Steps faults (sessions caller, world) after) :
    Turns faults (sessions, world)
      (Function.update sessions caller after.1, after.2) := by
  induction steps with
  | refl =>
      rw [Function.update_eq_self]
  | @tail middle last _ step ih =>
      have turn := @Turn.taken Caller α _ faults caller
        (Function.update sessions caller middle.1) middle.2 last.2 last.1
      rw [Function.update_self, Function.update_idem] at turn
      exact ih.tail (turn step)

end Session

end Rv32Image
