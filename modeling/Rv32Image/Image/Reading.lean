/-
Readings, which ask for ranges of bytes and end with a value or a rejection.
-/

import Rv32Image.Image.Rejection

namespace Rv32Image

structure Access where
  first : Nat
  past : Nat
deriving DecidableEq, Repr

inductive Reading (α : Type) where
  | done (outcome : Except Rejection α)
  | ask (access : Access) (next : List UInt8 → Reading α)

namespace Reader

/-- Offsets into data are 64-bit numbers. -/
def offsetLimit : Nat := 0x10000000000000000

def slice (data : List UInt8) (first past : Nat) : Except Rejection (List UInt8) :=
  if first ≤ past ∧ past ≤ data.length ∧ past < offsetLimit then
    .ok ((data.drop first).take (past - first))
  else
    .error (.strayAccess first past)

end Reader

namespace Reading

variable {α β : Type}

def bind : Reading α → (α → Reading β) → Reading β
  | done (.ok value), next => next value
  | done (.error rejection), _ => done (.error rejection)
  | ask access reply, next => ask access fun bytes => (reply bytes).bind next

instance : Monad Reading where
  pure value := done (.ok value)
  bind := bind

/-- A test that looks at no bytes. -/
instance : MonadLift (Except Rejection) Reading where
  monadLift := done

def bytes (first past : Nat) : Reading (List UInt8) :=
  ask ⟨first, past⟩ fun bytes => done (.ok bytes)

def outcome (data : List UInt8) : Reading α → Except Rejection α
  | done outcome => outcome
  | ask access next =>
      match Reader.slice data access.first access.past with
      | .ok bytes => (next bytes).outcome data
      | .error rejection => .error rejection

theorem outcome_bind (data : List UInt8) (reading : Reading α) (next : α → Reading β) :
    (reading >>= next).outcome data =
      (reading.outcome data >>= fun value => (next value).outcome data) := by
  induction reading with
  | done outcome =>
      cases outcome with
      | ok value => rfl
      | error rejection => rfl
  | ask access reply ih =>
      change outcome data (ask access fun bytes => (reply bytes).bind next) = _
      rw [outcome, outcome]
      cases Reader.slice data access.first access.past with
      | ok bytes => exact ih bytes
      | error rejection => rfl

theorem outcome_pure (data : List UInt8) (value : α) :
    (pure value : Reading α).outcome data = .ok value := rfl

theorem outcome_lift (data : List UInt8) (test : Except Rejection α) :
    (liftM test : Reading α).outcome data = test := rfl

theorem outcome_bytes (data : List UInt8) (first past : Nat) :
    (bytes first past).outcome data = Reader.slice data first past := by
  rw [bytes, outcome]
  cases Reader.slice data first past with
  | ok bytes => rfl
  | error rejection => rfl

end Reading

end Rv32Image
