/-
The locations that paths name, and the file operations on them.  A path has no other
part in an operation than its location.
-/

import Rv32Image.Proofs.Storage.Directories

namespace Rv32Image

namespace Store

def fileLocation? (store : Store) (text : String) : Option Location :=
  match Path.parse text with
  | .error _ => none
  | .ok path =>
      match store.place path with
      | .error _ => none
      | .ok place =>
          match place.name? with
          | none => none
          | some name =>
              if path.closed || Path.nameLimit < name.utf8ByteSize then none
              else some (place.location name)

def entryAt? (store : Store) (text : String) : Option Entry :=
  match Path.parse text with
  | .error _ => none
  | .ok path =>
      match store.locate path with
      | .error _ => none
      | .ok location => store.get? location

/-- The parts of a path with a location for a file. -/
structure NamesFile (store : Store) (text : String) (path : Path) (directory : Location)
    (name : String) : Prop where
  parsed : Path.parse text = .ok path
  isOpen : path.closed = false
  placed : store.place path = .ok { directory := directory, name? := some name }
  short : ¬ Path.nameLimit < name.utf8ByteSize

theorem NamesFile.fileLocation {store : Store} {text : String} {path : Path}
    {directory : Location} {name : String} (names : store.NamesFile text path directory name) :
    store.fileLocation? text = some (directory ++ [name]) := by
  unfold fileLocation?
  rw [names.parsed]
  dsimp only
  rw [names.placed]
  dsimp only
  rw [names.isOpen, Bool.false_or, if_neg (by simpa using names.short)]
  rfl

theorem namesFile_of_fileLocation {store : Store} {text : String} {location : Location}
    (named : store.fileLocation? text = some location) :
    ∃ path directory name,
      store.NamesFile text path directory name ∧ location = directory ++ [name] := by
  unfold fileLocation? at named
  split at named
  · cases named
  · rename_i path parsed
    split at named
    · cases named
    · rename_i place placed
      split at named
      · cases named
      · rename_i name hasName
        split at named
        · cases named
        · rename_i fits
          rw [Bool.or_eq_true, not_or, decide_eq_true_eq] at fits
          cases named
          refine ⟨path, place.directory, name, ⟨parsed, ?_, ?_, fits.2⟩, rfl⟩
          · exact Bool.eq_false_iff.mpr fits.1
          · rw [placed, ← hasName]

theorem fileLocation_ne_root {store : Store} {text : String} {location : Location}
    (named : store.fileLocation? text = some location) : location ≠ [] := by
  obtain ⟨_, directory, name, _, rfl⟩ := namesFile_of_fileLocation named
  exact List.append_ne_nil_of_right_ne_nil directory (List.cons_ne_nil name [])

theorem fileLocation_congr {first second : Store} (same : SameDirectories first second)
    {text : String} {location : Location} (named : first.fileLocation? text = some location) :
    second.fileLocation? text = some location := by
  obtain ⟨_, directory, name, names, rfl⟩ := namesFile_of_fileLocation named
  exact NamesFile.fileLocation
    ⟨names.parsed, names.isOpen, place_congr same.keeps names.placed, names.short⟩

/-! ### What is at a location -/

theorem place_eq_ok {store : Store} {path : Path} {place : Place}
    (placed : store.place path = .ok place) :
    store.walk path path.segments.dropLast = .ok place.directory ∧
      store.isDirectory place.directory = true ∧ place.name? = lastName? path := by
  obtain ⟨directory, walked, rest⟩ := bind_eq_ok placed
  split at rest
  · rename_i present
    cases rest
    exact ⟨walked, present, rfl⟩
  · cases rest

theorem segments_of_lastName {path : Path} {name : String} (last : lastName? path = some name) :
    path.segments = path.segments.dropLast ++ [.name name] := by
  unfold lastName? at last
  split at last
  · rename_i text final
    cases last
    obtain ⟨front, segments⟩ := List.getLast?_eq_some_iff.mp final
    rw [segments, List.dropLast_concat]
  · cases last

theorem NamesFile.locate {store : Store} {text : String} {path : Path}
    {directory : Location} {name : String} (names : store.NamesFile text path directory name) :
    store.locate path =
      if (store.get? (directory ++ [name])).isSome then .ok (directory ++ [name])
      else .error .notFound := by
  obtain ⟨walked, present, last⟩ := place_eq_ok names.placed
  have steps : path.steps = path.segments.dropLast ++ [.name name] := by
    unfold Path.steps
    rw [names.isOpen]
    exact segments_of_lastName last.symm
  have final : store.follow directory (.name name) =
      if (store.get? (directory ++ [name])).isSome then .ok (directory ++ [name])
      else .error .notFound := by
    unfold follow
    rw [if_pos present]
    exact if_neg names.short
  rw [Store.locate, steps, walk_concat walked, final]

theorem entryAt_of_fileLocation {store : Store} {text : String} {location : Location}
    (named : store.fileLocation? text = some location) :
    store.entryAt? text = store.get? location := by
  obtain ⟨path, directory, name, names, rfl⟩ := namesFile_of_fileLocation named
  unfold entryAt?
  rw [names.parsed]
  dsimp only
  rw [names.locate]
  cases present : store.get? (directory ++ [name]) with
  | none => rfl
  | some entry => exact present

/-! ### Operations -/

theorem NamesFile.lookUp {store : Store} {text : String} {path : Path}
    {directory : Location} {name : String} (names : store.NamesFile text path directory name) :
    store.lookUp { directory := directory, name? := some name } name =
      .ok (store.get? (directory ++ [name])) := by
  unfold Store.lookUp
  rw [if_neg names.short]
  rfl

theorem namesFile_of_lookUp {store : Store} {text : String} {path : Path} {place : Place}
    {name : String} {present? : Option Entry} (parsed : Path.parse text = .ok path)
    (placed : store.place path = .ok place) (hasName : place.name? = some name)
    (isOpen : path.closed = false) (found : store.lookUp place name = .ok present?) :
    store.NamesFile text path place.directory name ∧
      store.get? (place.directory ++ [name]) = present? := by
  unfold Store.lookUp at found
  split at found
  · cases found
  · rename_i short
    cases found
    refine ⟨⟨parsed, isOpen, ?_, short⟩, rfl⟩
    rw [placed, ← hasName]

theorem createNew_of_fileLocation {store : Store} {text : String} {location : Location}
    (named : store.fileLocation? text = some location) :
    store.createNew text =
      if (store.get? location).isSome then .error .alreadyExists
      else .ok (store.insert location (.file [])) := by
  obtain ⟨path, directory, name, names, rfl⟩ := namesFile_of_fileLocation named
  unfold createNew
  rw [names.parsed]
  change (store.place path >>= _) = _
  rw [names.placed]
  change (if path.closed then _ else store.lookUp _ name >>= _) = _
  rw [names.isOpen, names.lookUp]
  cases store.get? (directory ++ [name]) <;> rfl

/-- A new file appears exactly where a path names a file and nothing is there. -/
theorem createNew_eq_ok_iff (store : Store) (text : String) (created : Store) :
    store.createNew text = .ok created ↔
      ∃ location, store.fileLocation? text = some location ∧ store.get? location = none ∧
        created = store.insert location (.file []) := by
  constructor
  · intro succeeds
    obtain ⟨path, parsed, placing⟩ := bind_eq_ok succeeds
    obtain ⟨place, placed, naming⟩ := bind_eq_ok placing
    cases hasName : place.name? with
    | none =>
        rw [hasName] at naming
        cases naming
    | some name =>
        rw [hasName] at naming
        dsimp only at naming
        split at naming
        · cases naming
        · rename_i notClosed
          obtain ⟨present?, found, creating⟩ := bind_eq_ok naming
          obtain ⟨names, present⟩ := namesFile_of_lookUp parsed placed hasName
            (Bool.eq_false_iff.mpr notClosed) found
          cases present? with
          | none =>
              cases creating
              exact ⟨_, names.fileLocation, present, rfl⟩
          | some entry => cases creating
  · rintro ⟨location, named, absent, rfl⟩
    rw [createNew_of_fileLocation named, absent]
    rfl

theorem append_of_file {store : Store} {text : String} {location : Location}
    (named : store.fileLocation? text = some location) {present : List UInt8}
    (file : store.get? location = some (.file present)) (bytes : List UInt8) :
    store.append text bytes = .ok (store.insert location (.file (present ++ bytes))) := by
  obtain ⟨path, directory, name, names, rfl⟩ := namesFile_of_fileLocation named
  have located : store.locate path = .ok (directory ++ [name]) := by
    rw [names.locate, file]
    rfl
  simp only [append, names.parsed, located, bind, Except.bind, file]
  rfl

theorem remove_of_file {store : Store} {text : String} {location : Location}
    (named : store.fileLocation? text = some location) {bytes : List UInt8}
    (file : store.get? location = some (.file bytes)) :
    store.remove text = .ok (store.erase location) := by
  obtain ⟨path, directory, name, names, rfl⟩ := namesFile_of_fileLocation named
  unfold remove
  rw [names.parsed]
  change (store.place path >>= _) = _
  rw [names.placed]
  change (store.lookUp _ name >>= _) = _
  rw [names.lookUp, file]
  change (if path.closed then _ else _) = _
  rw [names.isOpen]
  rfl

theorem fileLocation_of_rename {store renamed : Store} {source target : String}
    (succeeds : store.rename source target = .ok renamed) :
    ∃ start goal bytes, store.fileLocation? source = some start ∧
      store.fileLocation? target = some goal ∧ store.get? start = some (.file bytes) ∧
      store.get? goal ≠ some .directory ∧
      renamed = (store.erase start).insert goal (.file bytes) := by
  obtain ⟨sourcePath, sourceParsed, succeeds⟩ := bind_eq_ok succeeds
  obtain ⟨targetPath, targetParsed, succeeds⟩ := bind_eq_ok succeeds
  obtain ⟨sourcePlace, sourcePlaced, succeeds⟩ := bind_eq_ok succeeds
  obtain ⟨targetPlace, targetPlaced, succeeds⟩ := bind_eq_ok succeeds
  split at succeeds
  · rename_i sourceName targetName sourceHasName targetHasName
    obtain ⟨present?, sourceFound, succeeds⟩ := bind_eq_ok succeeds
    split at succeeds
    · cases succeeds
    · cases succeeds
    · rename_i bytes
      obtain ⟨atTarget?, targetFound, succeeds⟩ := bind_eq_ok succeeds
      split at succeeds
      · cases succeeds
      · rename_i notClosed
        rw [Bool.or_eq_true, not_or] at notClosed
        split at succeeds
        · cases succeeds
        · rename_i noDirectory
          cases succeeds
          obtain ⟨sourceNames, file⟩ := namesFile_of_lookUp sourceParsed sourcePlaced
            sourceHasName (Bool.eq_false_iff.mpr notClosed.1) sourceFound
          obtain ⟨targetNames, present⟩ := namesFile_of_lookUp targetParsed targetPlaced
            targetHasName (Bool.eq_false_iff.mpr notClosed.2) targetFound
          refine ⟨_, _, bytes, sourceNames.fileLocation, targetNames.fileLocation, file, ?_, rfl⟩
          rw [present]
          exact noDirectory
  · cases succeeds

theorem rename_of_fileLocation {store : Store} {source target : String} {start goal : Location}
    (sourceNamed : store.fileLocation? source = some start)
    (targetNamed : store.fileLocation? target = some goal) {bytes : List UInt8}
    (file : store.get? start = some (.file bytes)) :
    store.rename source target =
      if store.get? goal = some .directory then .error .isADirectory
      else .ok ((store.erase start).insert goal (.file bytes)) := by
  obtain ⟨sourcePath, sourceDirectory, sourceName, sourceNames, rfl⟩ :=
    namesFile_of_fileLocation sourceNamed
  obtain ⟨targetPath, targetDirectory, targetName, targetNames, rfl⟩ :=
    namesFile_of_fileLocation targetNamed
  unfold rename
  rw [sourceNames.parsed]
  change (Path.parse target >>= _) = _
  rw [targetNames.parsed]
  change (store.place sourcePath >>= _) = _
  rw [sourceNames.placed]
  change (store.place targetPath >>= _) = _
  rw [targetNames.placed]
  change (store.lookUp _ sourceName >>= _) = _
  rw [sourceNames.lookUp, file]
  change (store.lookUp _ targetName >>= _) = _
  rw [targetNames.lookUp]
  change (if sourcePath.closed || targetPath.closed then _ else if _ then _ else _) = _
  rw [sourceNames.isOpen, targetNames.isOpen, Bool.or_false, if_neg Bool.false_ne_true]
  rfl

theorem rename_of_file {store : Store} {source target : String} {start goal : Location}
    (sourceNamed : store.fileLocation? source = some start)
    (targetNamed : store.fileLocation? target = some goal) {bytes : List UInt8}
    (file : store.get? start = some (.file bytes))
    (noDirectory : store.get? goal ≠ some .directory) :
    store.rename source target = .ok ((store.erase start).insert goal (.file bytes)) := by
  rw [rename_of_fileLocation sourceNamed targetNamed file, if_neg noDirectory]

theorem readFile_of_fileLocation {store : Store} {text : String} {location : Location}
    (named : store.fileLocation? text = some location) :
    store.readFile text =
      match store.get? location with
      | some (.file bytes) => .ok bytes
      | some .directory => .error .isADirectory
      | none => .error .notFound := by
  obtain ⟨path, directory, name, names, rfl⟩ := namesFile_of_fileLocation named
  unfold readFile
  rw [names.parsed]
  change (store.locate path >>= _) = _
  rw [names.locate]
  cases present : store.get? (directory ++ [name]) with
  | none => rfl
  | some entry =>
      change (match store.get? (directory ++ [name]) with
        | some (.file bytes) => Except.ok bytes
        | some .directory => Except.error FileFault.isADirectory
        | none => Except.error FileFault.notFound) = _
      rw [present]

/-- A file takes over a name exactly where both paths name files, the first has one and the
second has no directory. -/
theorem rename_eq_ok_iff (store : Store) (source target : String) (renamed : Store) :
    store.rename source target = .ok renamed ↔
      ∃ start goal bytes, store.fileLocation? source = some start ∧
        store.fileLocation? target = some goal ∧ store.get? start = some (.file bytes) ∧
        store.get? goal ≠ some .directory ∧
        renamed = (store.erase start).insert goal (.file bytes) := by
  constructor
  · intro succeeds
    exact fileLocation_of_rename succeeds
  · rintro ⟨start, goal, bytes, sourceNamed, targetNamed, file, noDirectory, rfl⟩
    exact rename_of_file sourceNamed targetNamed file noDirectory

end Store

end Rv32Image
