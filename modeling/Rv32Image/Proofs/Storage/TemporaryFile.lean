/-
Stores with a temporary file, and stores with an image in place of it.
-/

import Rv32Image.Proofs.Storage.TemporaryPath

namespace Rv32Image

namespace Store

/-- The store has one more file than the initial one, beside the destination. -/
structure HasTemporary (path : String) (initial store : Store) (temporary : Location)
    (written : List UInt8) : Prop where
  named : initial.fileLocation? (Image.temporaryPath path) = some temporary
  absent : initial.get? temporary = none
  isStore : store = initial.insert temporary (.file written)

namespace HasTemporary

variable {path : String} {initial store : Store} {temporary : Location} {written : List UInt8}

theorem of_createNew {made : Store}
    (creation : initial.createNew (Image.temporaryPath path) = .ok made) :
    ∃ temporary, HasTemporary path initial made temporary [] := by
  obtain ⟨temporary, named, absent, isStore⟩ := (createNew_eq_ok_iff _ _ _).mp creation
  exact ⟨temporary, named, absent, isStore⟩

theorem noEntry (has : HasTemporary path initial store temporary written) :
    initial.entryAt? (Image.temporaryPath path) = none := by
  rw [entryAt_of_fileLocation has.named]
  exact has.absent

theorem sameDirectories (has : HasTemporary path initial store temporary written) :
    SameDirectories initial store := by
  rw [has.isStore]
  apply sameDirectories_insert_file
  rw [has.absent]
  intro impossible
  cases impossible

theorem stillNamed (has : HasTemporary path initial store temporary written) :
    store.fileLocation? (Image.temporaryPath path) = some temporary :=
  fileLocation_congr has.sameDirectories has.named

theorem file (has : HasTemporary path initial store temporary written) :
    store.get? temporary = some (.file written) := by
  rw [has.isStore, get?_insert_self (fileLocation_ne_root has.named)]

theorem elsewhere (has : HasTemporary path initial store temporary written)
    {location : Location} (other : location ≠ temporary) :
    initial.get? location = store.get? location := by
  rw [has.isStore, get?_insert_of_ne other]

theorem entryAt_destination (has : HasTemporary path initial store temporary written) :
    store.entryAt? path = initial.entryAt? path :=
  (entryAt_congr has.sameDirectories has.named (fun _ other => has.elsewhere other)).symm

theorem grows (has : HasTemporary path initial store temporary written)
    {piece : List UInt8} {longer : Store}
    (appended : store.append (Image.temporaryPath path) piece = .ok longer) :
    HasTemporary path initial longer temporary (written ++ piece) := by
  rw [append_of_file has.stillNamed has.file] at appended
  cases appended
  refine ⟨has.named, has.absent, ?_⟩
  rw [has.isStore, insert_insert]

theorem erased (has : HasTemporary path initial store temporary written) :
    store.erase temporary = initial := by
  rw [has.isStore, erase_insert (fileLocation_ne_root has.named) has.absent]

theorem removed (has : HasTemporary path initial store temporary written) :
    store.remove (Image.temporaryPath path) = .ok initial := by
  rw [remove_of_file has.stillNamed has.file, has.erased]

end HasTemporary

/-- The store differs from the initial one in the destination alone. -/
structure Installed (path : String) (initial store : Store) (destination : Location)
    (bytes : List UInt8) : Prop where
  named : initial.fileLocation? path = some destination
  noDirectory : initial.get? destination ≠ some .directory
  noTemporary : initial.entryAt? (Image.temporaryPath path) = none
  isStore : store = initial.insert destination (.file bytes)

theorem HasTemporary.renamed {path : String} {initial store : Store} {temporary : Location}
    {written : List UInt8} (has : HasTemporary path initial store temporary written)
    {after : Store} (replacement : store.rename (Image.temporaryPath path) path = .ok after) :
    ∃ destination, Installed path initial after destination written := by
  obtain ⟨start, destination, bytes, startNamed, named, file, noDirectory, isStore⟩ :=
    (rename_eq_ok_iff _ _ _ _).mp replacement
  have isTemporary : temporary = start :=
    Option.some.inj (has.stillNamed.symm.trans startNamed)
  subst isTemporary
  have isWritten : written = bytes := by
    have same := has.file.symm.trans file
    cases same
    rfl
  have destinationNamed := fileLocation_congr has.sameDirectories.symm named
  have distinct := temporary_ne_destination has.named destinationNamed
  refine ⟨destination, destinationNamed, ?_, has.noEntry, ?_⟩
  · rw [has.elsewhere distinct.symm]
    exact noDirectory
  · rw [isStore, ← isWritten, has.erased]

namespace Installed

variable {path : String} {initial store : Store} {destination : Location} {bytes : List UInt8}

theorem sameDirectories (installed : Installed path initial store destination bytes) :
    SameDirectories initial store := by
  rw [installed.isStore]
  exact sameDirectories_insert_file installed.noDirectory bytes

theorem entryAt_destination (installed : Installed path initial store destination bytes) :
    store.entryAt? path = some (.file bytes) := by
  rw [entryAt_of_fileLocation (fileLocation_congr installed.sameDirectories installed.named),
    installed.isStore, get?_insert_self (fileLocation_ne_root installed.named)]

theorem entryAt_temporary (installed : Installed path initial store destination bytes) :
    store.entryAt? (Image.temporaryPath path) = none := by
  cases present : store.entryAt? (Image.temporaryPath path) with
  | none => rfl
  | some entry =>
      obtain ⟨temporary, named, found⟩ := fileLocation_of_entryAt_temporary present
      have namedBefore := fileLocation_congr installed.sameDirectories.symm named
      have distinct := temporary_ne_destination namedBefore installed.named
      rw [installed.isStore, get?_insert_of_ne distinct] at found
      have absent := installed.noTemporary
      rw [entryAt_of_fileLocation namedBefore, found] at absent
      cases absent

end Installed

end Store

end Rv32Image
