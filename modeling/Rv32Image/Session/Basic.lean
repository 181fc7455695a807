/-
Programs as exchanges of requests and replies.  What a request does is left to whoever
answers it.
-/

import Rv32Image.Storage.Fault
import Rv32Image.Log

namespace Rv32Image

inductive Request where
  /-- Make an empty file where nothing exists. -/
  | createNew (path : String)
  | append (path : String) (bytes : List UInt8)
  /-- Wait until the contents of a file are safe. -/
  | sync (path : String)
  | rename (source target : String)
  | remove (path : String)
  | readFile (path : String)
  | makeDirectories (path : String)
  | print (lines : List String)
  | log (record : LogRecord)
deriving DecidableEq, Repr

abbrev Request.Reply : Request → Type
  | readFile _ => Except FileFault (List UInt8)
  | print _ => Unit
  | log _ => Unit
  | _ => Except FileFault Unit

inductive Session (α : Type) where
  | done (value : α)
  | ask (request : Request) (next : request.Reply → Session α)

namespace Session

def bind {α β : Type} : Session α → (α → Session β) → Session β
  | done value, continuation => continuation value
  | ask request next, continuation => ask request fun reply => (next reply).bind continuation

instance : Monad Session where
  pure := done
  bind := bind

theorem bind_done {α : Type} (session : Session α) : session.bind done = session := by
  induction session with
  | done value => rfl
  | ask request next ih => simp only [bind, ih]

theorem bind_assoc {α β γ : Type} (session : Session α) (first : α → Session β)
    (second : β → Session γ) :
    (session.bind first).bind second = session.bind fun value => (first value).bind second := by
  induction session with
  | done value => rfl
  | ask request next ih => simp only [bind, ih]

instance : LawfulMonad Session :=
  LawfulMonad.mk' Session (fun session => bind_done session) (fun _ _ => rfl)
    (fun session first second => bind_assoc session first second)

def send (request : Request) : Session request.Reply :=
  ask request done

end Session

end Rv32Image
