/-
Replacing a file through a temporary file beside it, as one operation on the store.
-/

import Rv32Image.Proofs.Storage.TemporaryFile

namespace Rv32Image

namespace Store

def replaceFile (store : Store) (path : String) (bytes : List UInt8) : Except FileFault Store := do
  let made ← store.createNew (Image.temporaryPath path)
  let filled ← made.append (Image.temporaryPath path) bytes
  filled.rename (Image.temporaryPath path) path

theorem replaceFile_of_creation {store made : Store} {path : String} {temporary : Location}
    (has : HasTemporary path store made temporary []) (bytes : List UInt8) :
    ∃ filled, made.append (Image.temporaryPath path) bytes = .ok filled ∧
      HasTemporary path store filled temporary bytes ∧
      store.replaceFile path bytes = filled.rename (Image.temporaryPath path) path := by
  have creation : store.createNew (Image.temporaryPath path) = .ok made :=
    (createNew_eq_ok_iff _ _ _).mpr ⟨temporary, has.named, has.absent, has.isStore⟩
  have appended := append_of_file has.stillNamed has.file bytes
  refine ⟨_, appended, has.grows appended, ?_⟩
  unfold replaceFile
  rw [creation]
  change (made.append (Image.temporaryPath path) bytes >>= _) = _
  rw [appended]
  rfl

/-- A file is replaced exactly where the path names a file that is no directory and the name
of the temporary file is free. -/
theorem replaceFile_eq_ok_iff (store : Store) (path : String) (bytes : List UInt8)
    (after : Store) :
    store.replaceFile path bytes = .ok after ↔
      ∃ temporary destination,
        store.fileLocation? (Image.temporaryPath path) = some temporary ∧
        store.get? temporary = none ∧
        store.fileLocation? path = some destination ∧
        store.get? destination ≠ some .directory ∧
        after = store.insert destination (.file bytes) := by
  constructor
  · intro succeeds
    obtain ⟨made, creation, _⟩ := bind_eq_ok succeeds
    obtain ⟨temporary, has⟩ := HasTemporary.of_createNew creation
    obtain ⟨filled, _, complete, isRenaming⟩ := replaceFile_of_creation has bytes
    rw [isRenaming] at succeeds
    obtain ⟨destination, installed⟩ := complete.renamed succeeds
    exact ⟨temporary, destination, has.named, has.absent, installed.named,
      installed.noDirectory, installed.isStore⟩
  · rintro ⟨temporary, destination, temporaryNamed, absent, named, noDirectory, rfl⟩
    have has : HasTemporary path store (store.insert temporary (.file [])) temporary [] :=
      ⟨temporaryNamed, absent, rfl⟩
    obtain ⟨filled, _, complete, isRenaming⟩ := replaceFile_of_creation has bytes
    have distinct := temporary_ne_destination temporaryNamed named
    rw [complete.elsewhere distinct.symm] at noDirectory
    rw [isRenaming, rename_of_file complete.stillNamed
      (fileLocation_congr complete.sameDirectories named) complete.file noDirectory,
      complete.erased]

/-! ### Paths that name files -/

theorem parse_temporaryPath {text : String} {path : Path} (parsed : Path.parse text = .ok path) :
    Path.parse (Image.temporaryPath text) = .ok (Path.ofText (Image.temporaryPath text)) ∨
      Path.parse (Image.temporaryPath text) = .error .nameTooLong := by
  have noNul : '\x00' ∉ (Image.temporaryPath text).toList := by
    rw [Image.temporaryPath, String.toList_append, List.mem_append, not_or]
    refine ⟨?_, by decide⟩
    intro nul
    rw [Path.parse, if_pos nul] at parsed
    cases parsed
  have nonempty : (Image.temporaryPath text).isEmpty = false := by
    obtain ⟨_, _, segments, _⟩ := Path.temporaryPath_ends_in_name text
    apply Bool.eq_false_iff.mpr
    intro empty
    rw [String.isEmpty_iff.mp empty] at segments
    exact List.append_ne_nil_of_right_ne_nil _ (List.cons_ne_nil _ _) segments.symm
  rw [Path.parse, if_neg noNul, nonempty, if_neg Bool.false_ne_true]
  split
  · exact .inr rfl
  · exact .inl rfl

theorem place_temporaryPath {store : Store} {text : String} {path : Path} {directory : Location}
    {name : String} (names : store.NamesFile text path directory name) :
    ∃ temporaryName, store.place (Path.ofText (Image.temporaryPath text)) =
      .ok { directory := directory, name? := some temporaryName } := by
  obtain ⟨nonempty, isPath⟩ := Path.parse_eq_ok names.parsed
  obtain ⟨leading, temporaryName, final, beside⟩ := Path.beside_temporaryPath nonempty
  rw [← isPath] at beside
  obtain ⟨walked, isDirectory, _⟩ := place_eq_ok names.placed
  have isOpen : path.steps = path.segments := by
    rw [Path.steps, names.isOpen]
    rfl
  rw [← isOpen, beside.steps, List.dropLast_concat] at walked
  refine ⟨temporaryName, ?_⟩
  unfold walk at walked
  unfold Store.place lastName? walk
  rw [beside.segments, List.dropLast_concat, List.getLast?_concat, beside.rooted, walked]
  exact if_pos isDirectory

/-- Beside a file there is room for the temporary file, unless its name or its whole path is
too long. -/
theorem createNew_temporary_of_unnamed {store : Store} {text : String} {destination : Location}
    (named : store.fileLocation? text = some destination)
    (unnamed : store.fileLocation? (Image.temporaryPath text) = none) :
    store.createNew (Image.temporaryPath text) = .error .nameTooLong := by
  obtain ⟨path, directory, name, names, rfl⟩ := namesFile_of_fileLocation named
  rcases parse_temporaryPath names.parsed with parsed | tooLong
  · obtain ⟨temporaryName, placed⟩ := place_temporaryPath names
    obtain ⟨_, _, _, isOpen⟩ := Path.temporaryPath_ends_in_name text
    have long : Path.nameLimit < temporaryName.utf8ByteSize := by
      apply Decidable.byContradiction
      intro short
      rw [NamesFile.fileLocation ⟨parsed, isOpen, placed, short⟩] at unnamed
      cases unnamed
    unfold createNew
    rw [parsed]
    change (store.place _ >>= _) = _
    rw [placed]
    change (if (Path.ofText (Image.temporaryPath text)).closed then _
      else store.lookUp _ temporaryName >>= _) = _
    rw [isOpen, lookUp, if_pos long]
    rfl
  · unfold createNew
    rw [tooLong]
    rfl

theorem replaceFile_of_fileLocation {store : Store} {path : String} {destination : Location}
    (named : store.fileLocation? path = some destination) (bytes : List UInt8) :
    store.replaceFile path bytes =
      match store.fileLocation? (Image.temporaryPath path) with
      | none => .error .nameTooLong
      | some temporary =>
          if (store.get? temporary).isSome then .error .alreadyExists
          else if store.get? destination = some .directory then .error .isADirectory
          else .ok (store.insert destination (.file bytes)) := by
  cases temporaryNamed : store.fileLocation? (Image.temporaryPath path) with
  | none =>
      unfold replaceFile
      rw [createNew_temporary_of_unnamed named temporaryNamed]
      rfl
  | some temporary =>
      cases present : store.get? temporary with
      | some entry =>
          unfold replaceFile
          dsimp only
          rw [createNew_of_fileLocation temporaryNamed, present]
          rfl
      | none =>
          have has : HasTemporary path store (store.insert temporary (.file [])) temporary [] :=
            ⟨temporaryNamed, present, rfl⟩
          obtain ⟨filled, _, complete, isRenaming⟩ := replaceFile_of_creation has bytes
          have distinct := temporary_ne_destination temporaryNamed named
          rw [isRenaming, rename_of_fileLocation complete.stillNamed
            (fileLocation_congr complete.sameDirectories named) complete.file,
            complete.erased, ← complete.elsewhere distinct.symm]
          dsimp only
          rw [present]
          rfl

theorem fileLocation_eq_of_sameDirectories {first second : Store}
    (same : SameDirectories first second) (text : String) :
    second.fileLocation? text = first.fileLocation? text := by
  cases before : first.fileLocation? text with
  | some location => exact fileLocation_congr same before
  | none =>
      cases after : second.fileLocation? text with
      | none => rfl
      | some location =>
          rw [fileLocation_congr same.symm after] at before
          cases before

/-- A file that is neither the destination nor in the way of the temporary file makes no
difference, and it stays. -/
theorem replaceFile_insert {store : Store} {path : String} {destination other : Location}
    (named : store.fileLocation? path = some destination)
    (noDirectory : store.get? other ≠ some .directory)
    (notDestination : other ≠ destination)
    (notTemporary : store.fileLocation? (Image.temporaryPath path) ≠ some other)
    (present bytes : List UInt8) :
    (store.insert other (.file present)).replaceFile path bytes =
      (store.replaceFile path bytes).map (·.insert other (.file present)) := by
  have same := sameDirectories_insert_file noDirectory present
  rw [replaceFile_of_fileLocation named,
    replaceFile_of_fileLocation (fileLocation_congr same named),
    fileLocation_eq_of_sameDirectories same]
  cases temporaryNamed : store.fileLocation? (Image.temporaryPath path) with
  | none => rfl
  | some temporary =>
      have distinct : temporary ≠ other := by
        intro equal
        rw [temporaryNamed, equal] at notTemporary
        exact notTemporary rfl
      dsimp only
      rw [get?_insert_of_ne distinct, get?_insert_of_ne notDestination.symm,
        insert_comm store notDestination]
      split
      · rfl
      · split <;> rfl

/-! ### After a replacement -/

theorem readFile_of_replaceFile {store after : Store} {path : String} {bytes : List UInt8}
    (replaced : store.replaceFile path bytes = .ok after) : after.readFile path = .ok bytes := by
  obtain ⟨_, location, _, _, named, noDirectory, rfl⟩ := (replaceFile_eq_ok_iff _ _ _ _).mp replaced
  have same := sameDirectories_insert_file noDirectory bytes
  rw [readFile_of_fileLocation (fileLocation_congr same named),
    get?_insert_self (fileLocation_ne_root named)]

theorem replaceFile_unchanged {store : Store} {path : String} {temporary location : Location}
    {bytes : List UInt8}
    (temporaryNamed : store.fileLocation? (Image.temporaryPath path) = some temporary)
    (absent : store.get? temporary = none) (named : store.fileLocation? path = some location)
    (there : store.get? location = some (.file bytes)) :
    store.replaceFile path bytes = .ok store := by
  apply (replaceFile_eq_ok_iff _ _ _ _).mpr
  refine ⟨temporary, location, temporaryNamed, absent, named, ?_, ?_⟩
  · rw [there]
    exact nofun
  · rw [insert_eq_self (fileLocation_ne_root named) there]

/-- What was replaced once can be replaced by the same again. -/
theorem replaceFile_again {store after : Store} {path : String} {bytes : List UInt8}
    (replaced : store.replaceFile path bytes = .ok after) :
    after.replaceFile path bytes = .ok after := by
  obtain ⟨temporary, location, temporaryNamed, absent, named, noDirectory, rfl⟩ :=
    (replaceFile_eq_ok_iff _ _ _ _).mp replaced
  have same := sameDirectories_insert_file noDirectory bytes
  have distinct := temporary_ne_destination temporaryNamed named
  rw [← get?_insert_of_ne distinct] at absent
  exact replaceFile_unchanged (fileLocation_congr same temporaryNamed) absent
    (fileLocation_congr same named) (get?_insert_self (fileLocation_ne_root named))

end Store

end Rv32Image
