/-
Images in files.  An image is written to a temporary file beside its destination,
which is then renamed over the destination in one step.
-/

import Rv32Image.Image.Basic
import Rv32Image.Image.Reader
import Rv32Image.Session.Basic

namespace Rv32Image

namespace Image

def temporaryPath (path : String) : String :=
  path ++ ".tmp"

def fillAndRename (image : Image) (path : String) : ExceptT FileFault Session Unit := do
  ExceptT.mk (Session.send (.append (temporaryPath path) image.bytes))
  ExceptT.mk (Session.send (.sync (temporaryPath path)))
  ExceptT.mk (Session.send (.rename (temporaryPath path) path))

/-- A temporary file that is gone already is no reason for a warning. -/
def discardTemporary (path : String) : Session Unit := do
  match ← Session.send (.remove (temporaryPath path)) with
  | .ok () => return ()
  | .error .notFound => return ()
  | .error fault =>
      Session.send (.log {
        level := .warning
        message := "Failed to remove " ++ temporaryPath path ++ ": " ++ fault.message })

def writeRecord (image : Image) (path : String) : LogRecord where
  level := .debug
  message :=
    s!"Wrote {path} ({image.length} bytes, entry=0x" ++ Hexadecimal.fixed 8 image.entry.toNat ++
      ", load=0x" ++ Hexadecimal.fixed 8 image.loadAddress.toNat ++ ")"

def writeTo (image : Image) (path : String) : Session (Except Error Unit) := do
  match ← Session.send (.createNew (temporaryPath path)) with
  | .error fault => return .error (.storage path fault)
  | .ok () =>
      match ← (image.fillAndRename path).run with
      | .error fault =>
          discardTemporary path
          return .error (.storage path fault)
      | .ok () =>
          Session.send (.log (image.writeRecord path))
          return .ok ()

end Image

def ParsedImage.load (path : String) : Session (Except Error ParsedImage) := do
  match ← Session.send (.readFile path) with
  | .error fault => return .error (.storage path fault)
  | .ok data =>
      match ParsedImage.parse data with
      | .error reason => return .error (.malformed reason)
      | .ok image => return .ok image

end Rv32Image
