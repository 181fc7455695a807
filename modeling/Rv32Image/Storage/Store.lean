/-
Directories and files, and the operations that a program needs on them.  Each operation
resolves its path from left to right and tests in the order of a Unix system.
-/

import Std.Data.ExtTreeMap
import Rv32Image.Storage.Path

namespace Rv32Image

abbrev Location := List String

inductive Entry where
  | file (bytes : List UInt8)
  | directory
deriving DecidableEq, Repr

/-- The root is a directory always. -/
structure Store where
  entries : Std.ExtTreeMap Location Entry
  workingDirectory : Location

namespace Store

def get? (store : Store) (location : Location) : Option Entry :=
  if location = [] then some .directory else store.entries[location]?

def isDirectory (store : Store) (location : Location) : Bool :=
  store.get? location == some .directory

def insert (store : Store) (location : Location) (entry : Entry) : Store :=
  { store with entries := store.entries.insert location entry }

def erase (store : Store) (location : Location) : Store :=
  { store with entries := store.entries.erase location }

theorem get?_insert (store : Store) (location : Location) (entry : Entry) (other : Location) :
    (store.insert location entry).get? other =
      if other = [] then some .directory
      else if other = location then some entry else store.get? other := by
  by_cases root : other = []
  · simp [get?, root]
  · by_cases same : other = location
    · simp [get?, insert, same]
    · have distinct : compare location other ≠ .eq :=
        fun equal => same (Std.LawfulEqCmp.eq_of_compare equal).symm
      simp [get?, insert, root, same, Std.ExtTreeMap.getElem?_insert, distinct]

def fresh (workingDirectory : Location) : Store where
  entries :=
    (List.range workingDirectory.length).foldl
      (fun entries index => entries.insert (workingDirectory.take (index + 1)) .directory) ∅
  workingDirectory := workingDirectory

/-! ### Resolution -/

/-- The root is its own parent. -/
def follow (store : Store) (current : Location) (segment : Segment) :
    Except FileFault Location :=
  if store.isDirectory current then
    match segment with
    | .here => .ok current
    | .up => .ok current.dropLast
    | .name text =>
        if Path.nameLimit < text.utf8ByteSize then
          .error .nameTooLong
        else if (store.get? (current ++ [text])).isSome then
          .ok (current ++ [text])
        else
          .error .notFound
  else
    .error .notADirectory

def walk (store : Store) (path : Path) (segments : List Segment) : Except FileFault Location :=
  segments.foldlM store.follow (if path.rooted then [] else store.workingDirectory)

def locate (store : Store) (path : Path) : Except FileFault Location :=
  store.walk path path.steps

/-- The place that the last name of a path stands for, whether or not anything is there. -/
structure Place where
  directory : Location
  name? : Option String

def Place.location (place : Place) (name : String) : Location :=
  place.directory ++ [name]

def lastName? (path : Path) : Option String :=
  match path.segments.getLast? with
  | some (.name text) => some text
  | _ => none

def place (store : Store) (path : Path) : Except FileFault Place := do
  let directory ← store.walk path path.segments.dropLast
  if store.isDirectory directory then
    return { directory := directory, name? := lastName? path }
  else
    throw .notADirectory

def lookUp (store : Store) (place : Place) (name : String) : Except FileFault (Option Entry) :=
  if Path.nameLimit < name.utf8ByteSize then
    .error .nameTooLong
  else
    .ok (store.get? (place.location name))

/-! ### Operations on files -/

def createNew (store : Store) (text : String) : Except FileFault Store := do
  let path ← Path.parse text
  let place ← store.place path
  match place.name? with
  | none => throw .alreadyExists
  | some name =>
      if path.closed then
        throw .isADirectory
      else
        match ← store.lookUp place name with
        | some _ => throw .alreadyExists
        | none => return store.insert (place.location name) (.file [])

def readFile (store : Store) (text : String) : Except FileFault (List UInt8) := do
  let path ← Path.parse text
  let location ← store.locate path
  match store.get? location with
  | some (.file bytes) => return bytes
  | some .directory => throw .isADirectory
  | none => throw .notFound

def append (store : Store) (text : String) (bytes : List UInt8) : Except FileFault Store := do
  let path ← Path.parse text
  let location ← store.locate path
  match store.get? location with
  | some (.file present) => return store.insert location (.file (present ++ bytes))
  | some .directory => throw .isADirectory
  | none => throw .notFound

/-- A file that had the name is gone. -/
def rename (store : Store) (source target : String) : Except FileFault Store := do
  let sourcePath ← Path.parse source
  let targetPath ← Path.parse target
  let sourcePlace ← store.place sourcePath
  let targetPlace ← store.place targetPath
  match sourcePlace.name?, targetPlace.name? with
  | some sourceName, some targetName =>
      match ← store.lookUp sourcePlace sourceName with
      | none => throw .notFound
      | some .directory => throw .isADirectory
      | some (.file bytes) =>
          let present? ← store.lookUp targetPlace targetName
          if sourcePath.closed || targetPath.closed then
            throw .notADirectory
          else if present? = some .directory then
            throw .isADirectory
          else
            return (store.erase (sourcePlace.location sourceName)).insert
              (targetPlace.location targetName) (.file bytes)
  | _, _ => throw .resourceBusy

def remove (store : Store) (text : String) : Except FileFault Store := do
  let path ← Path.parse text
  let place ← store.place path
  match place.name? with
  | none => throw .isADirectory
  | some name =>
      match ← store.lookUp place name with
      | none => throw .notFound
      | some .directory => throw .isADirectory
      | some (.file _) =>
          if path.closed then throw .notADirectory
          else return store.erase (place.location name)

/-! ### Operations on directories -/

def makeDirectoryAt (store : Store) (path : Path) : Except FileFault Store := do
  let place ← store.place path
  match place.name? with
  | none => throw .alreadyExists
  | some name =>
      match ← store.lookUp place name with
      | some _ => throw .alreadyExists
      | none => return store.insert (place.location name) .directory

def hasDirectory (store : Store) (path : Path) : Bool :=
  match store.locate path with
  | .ok location => store.isDirectory location
  | .error _ => false

/-- What was made stays when a later step fails. -/
def makeLineage (store : Store) : List Path → Store × Except FileFault Unit
  | [] => (store, .ok ())
  | path :: above =>
      match store.makeDirectoryAt path with
      | .ok made => (made, .ok ())
      | .error .notFound =>
          match store.makeLineage above with
          | (reached, .error fault) => (reached, .error fault)
          | (reached, .ok ()) =>
              match reached.makeDirectoryAt path with
              | .ok made => (made, .ok ())
              | .error fault => (reached, settle reached path fault)
      | .error fault => (store, settle store path fault)
where
  settle (store : Store) (path : Path) (fault : FileFault) : Except FileFault Unit :=
    if fault = .alreadyExists ∧ store.hasDirectory path then .ok () else .error fault

def makeDirectories (store : Store) (text : String) : Store × Except FileFault Unit :=
  if text.isEmpty then
    (store, .ok ())
  else
    match Path.parse text with
    | .error fault => (store, .error fault)
    | .ok path => store.makeLineage path.lineage

def install (store : Store) (text : String) (bytes : List UInt8) : Except FileFault Store := do
  let path ← Path.parse text
  let (prepared, made) := store.makeLineage path.lineage.tail
  made
  let place ← prepared.place path
  match place.name? with
  | none => throw .isADirectory
  | some name => return prepared.insert (place.location name) (.file bytes)

def contents (store : Store) : List (List String × Entry) :=
  store.entries.toList.filterMap fun (location, entry) =>
    if store.workingDirectory.isPrefixOf location ∧ location ≠ store.workingDirectory then
      some (location.drop store.workingDirectory.length, entry)
    else
      none

end Store

end Rv32Image
