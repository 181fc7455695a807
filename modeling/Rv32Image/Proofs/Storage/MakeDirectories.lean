/-
Making a directory with those above it.
-/

import Rv32Image.Proofs.Storage.Location

namespace Rv32Image

namespace Store

/-! ### More directories -/

/-- The later store has the entries of the earlier one and more directories. -/
structure AddsDirectories (earlier later : Store) : Prop where
  workingDirectory : earlier.workingDirectory = later.workingDirectory
  entries : ∀ location, later.get? location = earlier.get? location ∨
    earlier.get? location = none ∧ later.get? location = some .directory

theorem AddsDirectories.refl (store : Store) : AddsDirectories store store :=
  ⟨rfl, fun _ => .inl rfl⟩

theorem AddsDirectories.trans {first second third : Store}
    (earlier : AddsDirectories first second) (later : AddsDirectories second third) :
    AddsDirectories first third := by
  refine ⟨earlier.workingDirectory.trans later.workingDirectory, ?_⟩
  intro location
  rcases later.entries location with same | ⟨absent, added⟩
  · rw [same]
    exact earlier.entries location
  · rcases earlier.entries location with same | ⟨_, present⟩
    · exact .inr ⟨same.symm.trans absent, added⟩
    · rw [present] at absent
      cases absent

theorem AddsDirectories.keeps {earlier later : Store} (adds : AddsDirectories earlier later) :
    KeepsDirectories earlier later where
  workingDirectory := adds.workingDirectory
  isDirectory := by
    intro location directory
    rw [isDirectory_iff] at directory ⊢
    rcases adds.entries location with same | ⟨_, added⟩
    · exact same.trans directory
    · exact added

theorem addsDirectories_insert {store : Store} {location : Location}
    (absent : store.get? location = none) :
    AddsDirectories store (store.insert location .directory) := by
  refine ⟨rfl, ?_⟩
  intro other
  by_cases same : other = location
  · have named : location ≠ [] := by
      intro root
      rw [root, get?, if_pos rfl] at absent
      cases absent
    rw [same, get?_insert_self named]
    exact .inr ⟨absent, rfl⟩
  · exact .inl (get?_insert_of_ne same)

theorem makeDirectoryAt_eq_ok {store made : Store} {path : Path}
    (succeeds : store.makeDirectoryAt path = .ok made) :
    ∃ place name, store.place path = .ok place ∧ place.name? = some name ∧
      ¬ Path.nameLimit < name.utf8ByteSize ∧ store.get? (place.location name) = none ∧
      made = store.insert (place.location name) .directory := by
  obtain ⟨place, placed, making⟩ := bind_eq_ok succeeds
  cases hasName : place.name? with
  | none =>
      rw [hasName] at making
      cases making
  | some name =>
      rw [hasName] at making
      obtain ⟨present?, found, making⟩ := bind_eq_ok making
      unfold lookUp at found
      split at found
      · cases found
      · rename_i short
        cases found
        cases present : store.get? (place.location name) with
        | some entry =>
            rw [present] at making
            cases making
        | none =>
            rw [present] at making
            cases making
            exact ⟨place, name, placed, hasName, short, present, rfl⟩

theorem makeDirectoryAt_adds {store made : Store} {path : Path}
    (succeeds : store.makeDirectoryAt path = .ok made) : AddsDirectories store made := by
  obtain ⟨place, name, _, _, _, absent, rfl⟩ := makeDirectoryAt_eq_ok succeeds
  exact addsDirectories_insert absent

theorem makeLineage_adds (store : Store) (lineage : List Path) :
    AddsDirectories store (store.makeLineage lineage).1 := by
  induction lineage generalizing store with
  | nil => exact .refl store
  | cons path above ih =>
      unfold makeLineage
      split
      · rename_i made succeeds
        exact makeDirectoryAt_adds succeeds
      · have reaching := ih store
        split
        · rename_i reached fault ended
          rw [ended] at reaching
          exact reaching
        · rename_i reached ended
          rw [ended] at reaching
          split
          · rename_i made succeeds
            exact reaching.trans (makeDirectoryAt_adds succeeds)
          · exact reaching
      · exact .refl store

theorem makeDirectories_adds (store : Store) (text : String) :
    AddsDirectories store (store.makeDirectories text).1 := by
  unfold makeDirectories
  split
  · exact .refl store
  · split
    · exact .refl store
    · exact makeLineage_adds store _

/-! ### Success -/

theorem hasDirectory_iff_locate (store : Store) (path : Path) :
    store.hasDirectory path = true ↔
      ∃ location, store.locate path = .ok location ∧ store.isDirectory location = true := by
  unfold hasDirectory
  cases store.locate path <;> simp

theorem hasDirectory_iff (store : Store) (path : Path) :
    store.hasDirectory path = true ↔
      ∃ location, store.walk path path.segments = .ok location ∧
        store.isDirectory location = true := by
  rw [hasDirectory_iff_locate]
  unfold locate Path.steps
  cases path.closed with
  | false => rw [if_neg Bool.false_ne_true]
  | true =>
      rw [if_pos rfl]
      constructor
      · rintro ⟨location, walked, directory⟩
        obtain ⟨reached, leading, stay⟩ := walk_concat_eq_ok walked
        exact ⟨reached, leading, follow_ok_directory stay⟩
      · rintro ⟨location, walked, directory⟩
        refine ⟨location, ?_, directory⟩
        rw [walk_concat walked, follow, if_pos directory]

theorem hasDirectory_congr {earlier later : Store} (keeps : KeepsDirectories earlier later)
    {path : Path} (there : earlier.hasDirectory path = true) :
    later.hasDirectory path = true := by
  obtain ⟨location, walked, directory⟩ := (hasDirectory_iff _ _).mp there
  exact (hasDirectory_iff _ _).mpr
    ⟨location, walk_congr keeps walked directory, keeps.isDirectory _ directory⟩

theorem hasDirectory_of_made {store made : Store} {path : Path}
    (succeeds : store.makeDirectoryAt path = .ok made) : made.hasDirectory path = true := by
  have keeps := (makeDirectoryAt_adds succeeds).keeps
  obtain ⟨place, name, placed, hasName, short, absent, rfl⟩ := makeDirectoryAt_eq_ok succeeds
  obtain ⟨walked, directory, isLast⟩ := place_eq_ok (place_congr keeps placed)
  have named : place.location name ≠ [] :=
    List.append_ne_nil_of_right_ne_nil place.directory (List.cons_ne_nil name [])
  have made : (store.insert (place.location name) .directory).isDirectory
      (place.location name) = true :=
    (isDirectory_iff _ _).mpr (get?_insert_self named)
  have last : (store.insert (place.location name) .directory).follow place.directory
      (.name name) = .ok (place.location name) := by
    apply (follow_name_eq_ok_iff _ _ _ _).mpr
    exact ⟨directory, short, Option.isSome_of_mem ((isDirectory_iff _ _).mp made), rfl⟩
  refine (hasDirectory_iff _ _).mpr ⟨place.location name, ?_, made⟩
  rw [segments_of_lastName (isLast.symm.trans hasName), walk_concat walked]
  exact last

theorem makeDirectoryAt_of_hasDirectory {store : Store} {path : Path}
    (there : store.hasDirectory path = true) :
    store.makeDirectoryAt path = .error .alreadyExists := by
  obtain ⟨location, walked, directory⟩ := (hasDirectory_iff _ _).mp there
  unfold makeDirectoryAt Store.place lastName?
  rcases List.eq_nil_or_concat path.segments with empty | ⟨front, last, ending⟩
  · rw [empty] at walked ⊢
    rw [List.dropLast_nil, walked]
    change ((if store.isDirectory location = true then _ else _) >>= _) = _
    rw [if_pos directory]
    rfl
  · rw [List.concat_eq_append] at ending
    rw [ending] at walked ⊢
    obtain ⟨parent, leading, step⟩ := walk_concat_eq_ok walked
    rw [List.dropLast_concat, List.getLast?_concat, leading]
    change ((if store.isDirectory parent = true then _ else _) >>= _) = _
    rw [if_pos (follow_ok_directory step)]
    cases last with
    | here => rfl
    | up => rfl
    | name text =>
        obtain ⟨_, short, _, rfl⟩ := (follow_name_eq_ok_iff _ _ _ _).mp step
        have found : store.lookUp ⟨parent, some text⟩ text = .ok (some .directory) := by
          rw [lookUp, if_neg short]
          exact congrArg Except.ok ((isDirectory_iff _ _).mp directory)
        change (store.lookUp ⟨parent, some text⟩ text >>= _) = _
        rw [found]
        rfl

theorem hasDirectory_of_makeLineage {store reached : Store} {path : Path} {above : List Path}
    (made : store.makeLineage (path :: above) = (reached, .ok ())) :
    reached.hasDirectory path = true := by
  have settled {store reached : Store} {fault : FileFault}
      (ended : (store, makeLineage.settle store path fault) = (reached, .ok ())) :
      reached.hasDirectory path = true := by
    rw [Prod.mk.injEq] at ended
    obtain ⟨rfl, ended⟩ := ended
    unfold makeLineage.settle at ended
    split at ended
    · rename_i there
      exact there.2
    · cases ended
  unfold makeLineage at made
  split at made
  · rename_i succeeds
    cases made
    exact hasDirectory_of_made succeeds
  · split at made
    · cases made
    · split at made
      · rename_i succeeds
        cases made
        exact hasDirectory_of_made succeeds
      · exact settled made
  · exact settled made

theorem makeLineage_of_hasDirectory {store : Store} {path : Path} (above : List Path)
    (there : store.hasDirectory path = true) :
    store.makeLineage (path :: above) = (store, .ok ()) := by
  unfold makeLineage
  rw [makeDirectoryAt_of_hasDirectory there]
  dsimp only
  rw [makeLineage.settle, if_pos ⟨rfl, there⟩]

theorem lineage_cases (path : Path) :
    path.lineage = [] ∨ ∃ above, path.lineage = path :: above := by
  unfold Path.lineage
  dsimp only
  split
  · exact .inl rfl
  · exact .inr ⟨_, rfl⟩

/-- Once a directory has been made, making it again changes nothing, also after other files
have come and gone. -/
theorem makeDirectories_again {store reached later : Store} {text : String}
    (made : store.makeDirectories text = (reached, .ok ()))
    (keeps : KeepsDirectories reached later) :
    later.makeDirectories text = (later, .ok ()) := by
  unfold makeDirectories at made ⊢
  split at made
  · rename_i empty
    rw [if_pos empty]
  · rename_i nonempty
    rw [if_neg nonempty]
    split at made
    · cases made
    · rename_i path parsed
      rcases lineage_cases path with nothing | ⟨above, lineage⟩
      · rw [nothing]
        rfl
      · rw [lineage] at made ⊢
        apply makeLineage_of_hasDirectory
        exact hasDirectory_congr keeps (hasDirectory_of_makeLineage made)

end Store

end Rv32Image
