/-
Stores in which paths lead to the same directories.  Files come and go without any
effect on the way that paths take.
-/

import Rv32Image.Storage.Store

namespace Rv32Image

namespace Store

theorem bind_eq_ok {α β : Type} {first : Except FileFault α} {next : α → Except FileFault β}
    {result : β} (succeeds : (first >>= next) = .ok result) :
    ∃ value, first = .ok value ∧ next value = .ok result := by
  cases first with
  | error fault => cases succeeds
  | ok value => exact ⟨value, rfl, succeeds⟩

/-! ### Entries -/

theorem isDirectory_iff (store : Store) (location : Location) :
    store.isDirectory location = true ↔ store.get? location = some .directory := by
  rw [isDirectory, beq_iff_eq]

theorem get?_insert_self {store : Store} {location : Location} (named : location ≠ [])
    {entry : Entry} : (store.insert location entry).get? location = some entry := by
  rw [get?_insert, if_neg named, if_pos rfl]

theorem get?_insert_of_ne {store : Store} {location other : Location} (different : other ≠ location)
    {entry : Entry} : (store.insert location entry).get? other = store.get? other := by
  rw [get?_insert]
  by_cases root : other = []
  · rw [if_pos root, get?, if_pos root]
  · rw [if_neg root, if_neg different]

theorem compare_eq_iff (first second : Location) : compare first second = .eq ↔ first = second :=
  Std.LawfulEqCmp.compare_eq_iff_eq

theorem erase_insert {store : Store} {location : Location} (named : location ≠ [])
    (absent : store.get? location = none) (entry : Entry) :
    (store.insert location entry).erase location = store := by
  rw [get?, if_neg named] at absent
  have entries : (store.entries.insert location entry).erase location = store.entries := by
    apply Std.ExtTreeMap.ext_getElem?
    intro other
    rw [Std.ExtTreeMap.getElem?_erase, Std.ExtTreeMap.getElem?_insert]
    by_cases same : location = other
    · rw [if_pos ((compare_eq_iff _ _).mpr same), ← same, absent]
    · have different := mt (compare_eq_iff location other).mp same
      rw [if_neg different, if_neg different]
  rw [insert, erase, entries]

theorem insert_insert (store : Store) (location : Location) (first second : Entry) :
    (store.insert location first).insert location second = store.insert location second := by
  have entries : (store.entries.insert location first).insert location second =
      store.entries.insert location second := by
    apply Std.ExtTreeMap.ext_getElem?
    intro other
    rw [Std.ExtTreeMap.getElem?_insert, Std.ExtTreeMap.getElem?_insert,
      Std.ExtTreeMap.getElem?_insert]
    by_cases same : compare location other = .eq
    · rw [if_pos same, if_pos same]
    · rw [if_neg same, if_neg same, if_neg same]
  rw [insert, insert, insert, entries]

theorem insert_comm (store : Store) {first second : Location} (different : first ≠ second)
    (earlier later : Entry) :
    (store.insert first earlier).insert second later =
      (store.insert second later).insert first earlier := by
  have entries : (store.entries.insert first earlier).insert second later =
      (store.entries.insert second later).insert first earlier := by
    apply Std.ExtTreeMap.ext_getElem?
    intro other
    rw [Std.ExtTreeMap.getElem?_insert, Std.ExtTreeMap.getElem?_insert,
      Std.ExtTreeMap.getElem?_insert, Std.ExtTreeMap.getElem?_insert]
    by_cases atFirst : compare first other = .eq
    · have notSecond : compare second other ≠ .eq := by
        intro atSecond
        apply different
        rw [(compare_eq_iff _ _).mp atFirst, (compare_eq_iff _ _).mp atSecond]
      rw [if_pos atFirst, if_neg notSecond, if_pos atFirst]
    · rw [if_neg atFirst, if_neg atFirst]
  rw [insert, insert, insert, insert, entries]

theorem insert_eq_self {store : Store} {location : Location} (named : location ≠ [])
    {entry : Entry} (present : store.get? location = some entry) :
    store.insert location entry = store := by
  rw [get?, if_neg named] at present
  have entries : store.entries.insert location entry = store.entries := by
    apply Std.ExtTreeMap.ext_getElem?
    intro other
    rw [Std.ExtTreeMap.getElem?_insert]
    by_cases same : compare location other = .eq
    · rw [if_pos same, ← (compare_eq_iff _ _).mp same, present]
    · rw [if_neg same]
  rw [insert, entries]

/-! ### Directories -/

/-- Paths lead to the same directories in both stores. -/
structure SameDirectories (first second : Store) : Prop where
  workingDirectory : first.workingDirectory = second.workingDirectory
  isDirectory : ∀ location, first.isDirectory location = second.isDirectory location

theorem SameDirectories.symm {first second : Store} (same : SameDirectories first second) :
    SameDirectories second first :=
  ⟨same.workingDirectory.symm, fun location => (same.isDirectory location).symm⟩

theorem SameDirectories.trans {first second third : Store}
    (earlier : SameDirectories first second) (later : SameDirectories second third) :
    SameDirectories first third :=
  ⟨earlier.workingDirectory.trans later.workingDirectory,
    fun location => (earlier.isDirectory location).trans (later.isDirectory location)⟩

/-- The later store has at least the directories of the earlier one. -/
structure KeepsDirectories (earlier later : Store) : Prop where
  workingDirectory : earlier.workingDirectory = later.workingDirectory
  isDirectory : ∀ location, earlier.isDirectory location = true →
    later.isDirectory location = true

theorem SameDirectories.keeps {first second : Store} (same : SameDirectories first second) :
    KeepsDirectories first second where
  workingDirectory := same.workingDirectory
  isDirectory := by
    intro location directory
    rw [← same.isDirectory]
    exact directory

/-- A file in place of a file, or of nothing, leaves the directories alone. -/
theorem sameDirectories_insert_file {store : Store} {location : Location}
    (noDirectory : store.get? location ≠ some .directory) (bytes : List UInt8) :
    SameDirectories store (store.insert location (.file bytes)) := by
  have named : location ≠ [] := by
    intro root
    apply noDirectory
    rw [root, get?, if_pos rfl]
  refine ⟨rfl, ?_⟩
  intro other
  apply Bool.eq_iff_iff.mpr
  rw [isDirectory_iff, isDirectory_iff]
  by_cases same : other = location
  · rw [same, get?_insert_self named]
    constructor
    · intro directory
      exact absurd directory noDirectory
    · intro impossible
      cases impossible
  · rw [get?_insert_of_ne same]

/-! ### Walks that end in a directory -/

theorem follow_ok_directory {store : Store} {current next : Location} {segment : Segment}
    (step : store.follow current segment = .ok next) : store.isDirectory current = true := by
  unfold follow at step
  split at step
  · assumption
  · cases step

theorem follow_name_eq_ok_iff (store : Store) (current next : Location) (text : String) :
    store.follow current (.name text) = .ok next ↔
      store.isDirectory current = true ∧ ¬ Path.nameLimit < text.utf8ByteSize ∧
        (store.get? (current ++ [text])).isSome = true ∧ next = current ++ [text] := by
  constructor
  · intro step
    have directory := follow_ok_directory step
    unfold follow at step
    rw [if_pos directory] at step
    dsimp only at step
    split at step
    · cases step
    · rename_i short
      split at step
      · rename_i present
        cases step
        exact ⟨directory, short, present, rfl⟩
      · cases step
  · rintro ⟨directory, short, present, rfl⟩
    unfold follow
    rw [if_pos directory]
    dsimp only
    rw [if_neg short, if_pos present]

theorem walk_concat {store : Store} {path : Path} {front : List Segment} {directory : Location}
    (walked : store.walk path front = .ok directory) (last : Segment) :
    store.walk path (front ++ [last]) = store.follow directory last := by
  unfold walk at walked ⊢
  rw [List.foldlM_append, walked]
  change [last].foldlM store.follow directory = _
  rw [List.foldlM_cons]
  cases store.follow directory last <;> rfl

theorem walk_concat_eq_ok {store : Store} {path : Path} {front : List Segment} {last : Segment}
    {location : Location} (walked : store.walk path (front ++ [last]) = .ok location) :
    ∃ directory, store.walk path front = .ok directory ∧
      store.follow directory last = .ok location := by
  have whole := walked
  unfold walk at walked
  rw [List.foldlM_append] at walked
  obtain ⟨directory, leading, _⟩ := bind_eq_ok walked
  refine ⟨directory, leading, ?_⟩
  rw [← walk_concat leading]
  exact whole

theorem follow_congr {first second : Store} (keeps : KeepsDirectories first second)
    {current next : Location} {segment : Segment}
    (step : first.follow current segment = .ok next)
    (directory : first.isDirectory next = true) :
    second.follow current segment = .ok next := by
  have here := follow_ok_directory step
  have there := keeps.isDirectory _ here
  cases segment with
  | here =>
      unfold follow at step ⊢
      rw [if_pos here] at step
      rw [if_pos there]
      exact step
  | up =>
      unfold follow at step ⊢
      rw [if_pos here] at step
      rw [if_pos there]
      exact step
  | name text =>
      obtain ⟨_, short, _, rfl⟩ := (follow_name_eq_ok_iff _ _ _ _).mp step
      apply (follow_name_eq_ok_iff _ _ _ _).mpr
      refine ⟨there, short, ?_, rfl⟩
      rw [(isDirectory_iff second _).mp (keeps.isDirectory _ directory)]
      rfl

theorem isDirectory_of_foldlM {store : Store} {segments : List Segment}
    {current last : Location} (walked : segments.foldlM store.follow current = .ok last)
    (directory : store.isDirectory last = true) : store.isDirectory current = true := by
  cases segments with
  | nil =>
      cases walked
      exact directory
  | cons segment rest =>
      rw [List.foldlM_cons] at walked
      obtain ⟨next, step, _⟩ := bind_eq_ok walked
      exact follow_ok_directory step

theorem foldlM_follow_congr {first second : Store} (keeps : KeepsDirectories first second)
    {segments : List Segment} {current last : Location}
    (walked : segments.foldlM first.follow current = .ok last)
    (directory : first.isDirectory last = true) :
    segments.foldlM second.follow current = .ok last := by
  induction segments generalizing current with
  | nil => exact walked
  | cons segment rest ih =>
      rw [List.foldlM_cons] at walked
      obtain ⟨next, step, remaining⟩ := bind_eq_ok walked
      have middle := isDirectory_of_foldlM remaining directory
      rw [List.foldlM_cons, follow_congr keeps step middle]
      exact ih remaining

theorem walk_congr {first second : Store} (keeps : KeepsDirectories first second)
    {path : Path} {segments : List Segment} {last : Location}
    (walked : first.walk path segments = .ok last)
    (directory : first.isDirectory last = true) :
    second.walk path segments = .ok last := by
  unfold walk at walked ⊢
  rw [← keeps.workingDirectory]
  exact foldlM_follow_congr keeps walked directory

/-- The place of a path has to be in a directory, so it depends on nothing else. -/
theorem place_congr {first second : Store} (keeps : KeepsDirectories first second)
    {path : Path} {place : Place} (placed : first.place path = .ok place) :
    second.place path = .ok place := by
  obtain ⟨directory, walked, rest⟩ := bind_eq_ok placed
  split at rest
  · rename_i present
    cases rest
    have there := keeps.isDirectory _ present
    unfold Store.place
    rw [walk_congr keeps walked present]
    exact if_pos there
  · cases rest

end Store

end Rv32Image
