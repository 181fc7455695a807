/-
Sessions on a store in memory, with the lines printed and the records logged so far.
-/

import Rv32Image.Session.Basic
import Rv32Image.Storage.Store

namespace Rv32Image

structure World where
  store : Store
  printed : List String
  logged : List LogRecord

namespace World

def ofStore (store : Store) : World where
  store := store
  printed := []
  logged := []

/-- A reply that is an error leaves the store as it is. -/
def update (world : World) : Except FileFault Store → Except FileFault Unit × World
  | .ok store => (.ok (), { world with store := store })
  | .error fault => (.error fault, world)

def answer (world : World) : (request : Request) → request.Reply × World
  | .createNew path => world.update (world.store.createNew path)
  | .append path bytes => world.update (world.store.append path bytes)
  | .sync _ => (.ok (), world)
  | .rename source target => world.update (world.store.rename source target)
  | .remove path => world.update (world.store.remove path)
  | .readFile path => (world.store.readFile path, world)
  | .makeDirectories path =>
      let (store, reply) := world.store.makeDirectories path
      (reply, { world with store := store })
  | .print lines => ((), { world with printed := world.printed ++ lines })
  | .log record => ((), { world with logged := world.logged ++ [record] })

end World

namespace Session

def run {α : Type} : Session α → World → α × World
  | done value, world => (value, world)
  | ask request next, world =>
      let (reply, world) := world.answer request
      (next reply).run world

theorem run_bind {α β : Type} (session : Session α) (continuation : α → Session β)
    (world : World) :
    (session >>= continuation).run world =
      (continuation (session.run world).1).run (session.run world).2 := by
  change (session.bind continuation).run world = _
  induction session generalizing world with
  | done value => rfl
  | ask request next ih =>
      simp only [bind, run]
      exact ih _ _

end Session

end Rv32Image
