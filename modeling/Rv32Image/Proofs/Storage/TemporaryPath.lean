/-
The path of the temporary file as a path of its own, in the directory that the last step
of the destination starts from.
-/

import Rv32Image.Image.Persistence
import Rv32Image.Proofs.Storage.Location

namespace Rv32Image

/-! ### Parts between slashes -/

theorem splitAtSlashes_of_no_slash {text : List Char} (noSlash : '/' ∉ text) :
    splitAtSlashes text = [text] := by
  induction text with
  | nil => rfl
  | cons character rest ih =>
      rw [List.mem_cons, not_or] at noSlash
      rw [splitAtSlashes, if_neg (Ne.symm noSlash.1), ih noSlash.2]

theorem splitAtSlashes_ne_nil (text : List Char) : splitAtSlashes text ≠ [] := by
  cases text with
  | nil => exact List.cons_ne_nil _ _
  | cons character rest =>
      rw [splitAtSlashes]
      split
      · exact List.cons_ne_nil _ _
      · split <;> exact List.cons_ne_nil _ _

theorem splitAtSlashes_append_slash (first second : List Char) :
    splitAtSlashes (first ++ '/' :: second) = splitAtSlashes first ++ splitAtSlashes second := by
  induction first with
  | nil => rfl
  | cons character rest ih =>
      rw [List.cons_append, splitAtSlashes, splitAtSlashes, ih]
      by_cases slash : character = '/'
      · rw [if_pos slash, if_pos slash]
        rfl
      · rw [if_neg slash, if_neg slash]
        cases parts : splitAtSlashes rest with
        | nil => exact absurd parts (splitAtSlashes_ne_nil rest)
        | cons part parts => rfl

/-- Text without a slash becomes the end of the last part. -/
theorem splitAtSlashes_append (text : List Char) :
    ∃ parts part, splitAtSlashes text = parts ++ [part] ∧
      ∀ suffix, '/' ∉ suffix → splitAtSlashes (text ++ suffix) = parts ++ [part ++ suffix] := by
  induction text with
  | nil => exact ⟨[], [], rfl, fun _ noSlash => splitAtSlashes_of_no_slash noSlash⟩
  | cons character rest ih =>
      obtain ⟨parts, part, split, longer⟩ := ih
      by_cases slash : character = '/'
      · refine ⟨[] :: parts, part, ?_, ?_⟩
        · rw [splitAtSlashes, split, if_pos slash]
          rfl
        · intro suffix noSlash
          rw [List.cons_append, splitAtSlashes, longer suffix noSlash, if_pos slash]
          rfl
      · cases parts with
        | nil =>
            refine ⟨[], character :: part, ?_, ?_⟩
            · rw [splitAtSlashes, split, if_neg slash]
              rfl
            · intro suffix noSlash
              rw [List.cons_append, splitAtSlashes, longer suffix noSlash, if_neg slash]
              rfl
        | cons first parts =>
            refine ⟨(character :: first) :: parts, part, ?_, ?_⟩
            · rw [splitAtSlashes, split, if_neg slash]
              rfl
            · intro suffix noSlash
              rw [List.cons_append, splitAtSlashes, longer suffix noSlash, if_neg slash]
              rfl

theorem ofPart_of_long {part : List Char} (long : 2 < part.length) :
    Segment.ofPart? part = some (.name (String.ofList part)) := by
  unfold Segment.ofPart?
  split
  · simp at long
  · simp at long
  · simp at long
  · rfl

theorem ofPart_cases {part : List Char} (nonempty : part ≠ []) :
    ∃ segment, Segment.ofPart? part = some segment ∧
      ∀ name, segment = .name name → name = String.ofList part := by
  unfold Segment.ofPart?
  split
  · exact absurd rfl nonempty
  · exact ⟨.here, rfl, fun _ impossible => by cases impossible⟩
  · exact ⟨.up, rfl, fun _ impossible => by cases impossible⟩
  · refine ⟨_, rfl, ?_⟩
    intro name same
    cases same
    rfl

namespace Path

theorem parse_eq_ok {text : String} {path : Path} (parsed : parse text = .ok path) :
    text ≠ "" ∧ path = ofText text := by
  unfold parse at parsed
  split at parsed
  · cases parsed
  · split at parsed
    · cases parsed
    · rename_i nonempty
      split at parsed
      · cases parsed
      · cases parsed
        refine ⟨?_, rfl⟩
        intro empty
        exact nonempty (String.isEmpty_iff.mpr empty)

/-- One path ends in a name where the other takes its last step, and the last step is not
to that name. -/
structure Beside (sibling path : Path) (leading : List Segment) (name : String)
    (final : Segment) : Prop where
  rooted : sibling.rooted = path.rooted
  isOpen : sibling.closed = false
  segments : sibling.segments = leading ++ [.name name]
  steps : path.steps = leading ++ [final]
  distinct : final ≠ .name name

theorem segments_ofText (text : String) {parts : List (List Char)} {part : List Char}
    {segment : Segment} (split : splitAtSlashes text.toList = parts ++ [part])
    (last : Segment.ofPart? part = some segment) :
    (ofText text).segments = parts.filterMap Segment.ofPart? ++ [segment] := by
  unfold ofText
  dsimp only
  rw [split, List.filterMap_append, List.filterMap_cons_some last, List.filterMap_nil]

theorem beside_temporaryPath_of_slash {text : String} {front : List Char}
    (ending : text.toList = front ++ ['/']) :
    ∃ leading name,
      (ofText (Image.temporaryPath text)).segments = leading ++ [.name name] ∧
        (ofText text).steps = leading ++ [.here] := by
  have longer : splitAtSlashes (Image.temporaryPath text).toList =
      splitAtSlashes front ++ [".tmp".toList] := by
    have characters : (Image.temporaryPath text).toList = front ++ '/' :: ".tmp".toList := by
      rw [Image.temporaryPath, String.toList_append, ending, List.append_assoc]
      rfl
    rw [characters, splitAtSlashes_append_slash]
    rfl
  have steps : (ofText text).steps =
      (splitAtSlashes front).filterMap Segment.ofPart? ++ [.here] := by
    unfold steps ofText
    dsimp only
    rw [ending, List.getLast?_concat, splitAtSlashes_append_slash, List.filterMap_append]
    exact congrArg (· ++ [Segment.here]) (List.append_nil _)
  exact ⟨_, _, segments_ofText _ longer rfl, steps⟩

theorem beside_temporaryPath_of_part {text : String} {front : List Char} {last : Char}
    (ending : text.toList = front ++ [last]) (noSlash : last ≠ '/') :
    ∃ leading name final,
      (ofText (Image.temporaryPath text)).segments = leading ++ [.name name] ∧
        (ofText text).steps = leading ++ [final] ∧ final ≠ .name name := by
  obtain ⟨parts, part, _, longer⟩ := splitAtSlashes_append front
  have isOpen : (ofText text).closed = false := by
    unfold ofText
    rw [ending, List.getLast?_concat]
    exact beq_eq_false_iff_ne.mpr (fun same => noSlash (Option.some.inj same))
  have characters : (Image.temporaryPath text).toList = front ++ (last :: ".tmp".toList) := by
    rw [Image.temporaryPath, String.toList_append, ending, List.append_assoc]
    rfl
  have split : splitAtSlashes text.toList = parts ++ [part ++ [last]] := by
    rw [ending]
    apply longer
    intro member
    exact noSlash (List.mem_singleton.mp member).symm
  have splitLonger : splitAtSlashes (Image.temporaryPath text).toList =
      parts ++ [part ++ (last :: ".tmp".toList)] := by
    rw [characters]
    apply longer
    intro member
    rcases List.mem_cons.mp member with same | within
    · exact noSlash same.symm
    · revert within
      decide
  have long : 2 < (part ++ (last :: ".tmp".toList)).length := by
    rw [List.length_append, List.length_cons]
    have length : ".tmp".toList.length = 4 := rfl
    omega
  obtain ⟨segment, isSegment, named⟩ :=
    ofPart_cases (List.append_ne_nil_of_right_ne_nil part (List.cons_ne_nil last []))
  refine ⟨_, _, segment, segments_ofText _ splitLonger (ofPart_of_long long), ?_, ?_⟩
  · unfold steps
    rw [isOpen, segments_ofText text split isSegment]
    rfl
  · intro same
    have lengths := congrArg List.length (String.ofList_injective (named _ same))
    rw [List.length_append, List.length_append, List.length_cons, List.length_cons] at lengths
    have length : ".tmp".toList.length = 4 := rfl
    rw [List.length_nil] at lengths
    omega

theorem beside_temporaryPath {text : String} (nonempty : text ≠ "") :
    ∃ leading name final,
      Beside (ofText (Image.temporaryPath text)) (ofText text) leading name final := by
  have characters : (Image.temporaryPath text).toList = text.toList ++ ".tmp".toList :=
    String.toList_append
  have isOpen : (ofText (Image.temporaryPath text)).closed = false := by
    unfold ofText
    rw [characters, List.getLast?_append]
    rfl
  rcases List.eq_nil_or_concat text.toList with empty | ⟨front, last, ending⟩
  · exact absurd (String.toList_eq_nil_iff.mp empty) nonempty
  · rw [List.concat_eq_append] at ending
    have rooted : (ofText (Image.temporaryPath text)).rooted = (ofText text).rooted := by
      unfold ofText
      rw [characters, ending]
      cases front <;> rfl
    by_cases slash : last = '/'
    · rw [slash] at ending
      obtain ⟨leading, name, segments, steps⟩ := beside_temporaryPath_of_slash ending
      exact ⟨leading, name, .here, rooted, isOpen, segments, steps, Segment.noConfusion⟩
    · obtain ⟨leading, name, final, segments, steps, distinct⟩ :=
        beside_temporaryPath_of_part ending slash
      exact ⟨leading, name, final, rooted, isOpen, segments, steps, distinct⟩

theorem temporaryPath_ends_in_name (text : String) :
    ∃ leading name, (ofText (Image.temporaryPath text)).segments = leading ++ [.name name] ∧
      (ofText (Image.temporaryPath text)).closed = false := by
  by_cases nonempty : text = ""
  · rw [nonempty]
    exact ⟨[], ".tmp", by decide, by decide⟩
  · obtain ⟨leading, name, final, beside⟩ := beside_temporaryPath nonempty
    exact ⟨leading, name, beside.segments, beside.isOpen⟩

end Path

namespace Store

/-! ### Locations -/

theorem fileLocation_of_entryAt_temporary {store : Store} {text : String} {entry : Entry}
    (present : store.entryAt? (Image.temporaryPath text) = some entry) :
    ∃ location, store.fileLocation? (Image.temporaryPath text) = some location ∧
      store.get? location = some entry := by
  unfold entryAt? at present
  split at present
  · cases present
  · rename_i path parsed
    split at present
    · cases present
    · rename_i location located
      obtain ⟨leading, name, segments, isOpen⟩ := Path.temporaryPath_ends_in_name text
      rw [← (Path.parse_eq_ok parsed).2] at segments isOpen
      have steps : path.steps = leading ++ [.name name] := by
        unfold Path.steps
        rw [isOpen]
        exact segments
      rw [locate, steps] at located
      obtain ⟨directory, walked, step⟩ := walk_concat_eq_ok located
      obtain ⟨isDirectory, short, _, rfl⟩ := (follow_name_eq_ok_iff _ _ _ _).mp step
      have placed : store.place path = .ok { directory := directory, name? := some name } := by
        unfold Store.place lastName?
        rw [segments, List.dropLast_concat, walked, List.getLast?_concat]
        exact if_pos isDirectory
      exact ⟨_, NamesFile.fileLocation ⟨parsed, isOpen, placed, short⟩, present⟩

theorem createNew_of_taken {store : Store} {text : String}
    (taken : store.entryAt? (Image.temporaryPath text) ≠ none) :
    store.createNew (Image.temporaryPath text) = .error .alreadyExists := by
  obtain ⟨entry, present⟩ := Option.ne_none_iff_exists'.mp taken
  obtain ⟨location, named, there⟩ := fileLocation_of_entryAt_temporary present
  rw [createNew_of_fileLocation named, there]
  rfl

/-- Where there can be a temporary file, the destination is one step away from its
directory, and that step is not to the temporary file. -/
theorem step_beside_temporary {store : Store} {text : String} {path : Path}
    {temporary : Location} (parsed : Path.parse text = .ok path)
    (named : store.fileLocation? (Image.temporaryPath text) = some temporary) :
    ∃ leading directory name final, temporary = directory ++ [name] ∧
      store.walk path leading = .ok directory ∧ store.isDirectory directory = true ∧
      path.steps = leading ++ [final] ∧ final ≠ .name name := by
  obtain ⟨nonempty, isPath⟩ := Path.parse_eq_ok parsed
  obtain ⟨sibling, directory, name, names, rfl⟩ := namesFile_of_fileLocation named
  obtain ⟨_, isSibling⟩ := Path.parse_eq_ok names.parsed
  obtain ⟨leading, temporaryName, final, beside⟩ := Path.beside_temporaryPath nonempty
  rw [← isPath, ← isSibling] at beside
  obtain ⟨walked, isDirectory, lastName⟩ := place_eq_ok names.placed
  have isTemporary : temporaryName = name := by
    unfold lastName? at lastName
    rw [beside.segments, List.getLast?_concat] at lastName
    exact (Option.some.inj lastName).symm
  rw [isTemporary] at beside
  refine ⟨leading, directory, name, final, rfl, ?_, isDirectory, beside.steps, beside.distinct⟩
  rw [beside.segments, List.dropLast_concat] at walked
  unfold walk at walked ⊢
  rw [← beside.rooted]
  exact walked

theorem temporary_ne_destination {store : Store} {text : String}
    {temporary destination : Location}
    (temporaryNamed : store.fileLocation? (Image.temporaryPath text) = some temporary)
    (destinationNamed : store.fileLocation? text = some destination) :
    temporary ≠ destination := by
  obtain ⟨path, directory, name, names, rfl⟩ := namesFile_of_fileLocation destinationNamed
  obtain ⟨leading, _, temporaryName, final, rfl, _, _, steps, distinct⟩ :=
    step_beside_temporary names.parsed temporaryNamed
  intro same
  have isName : temporaryName = name := List.head_eq_of_cons_eq (List.append_inj' same rfl).2
  have lastStep := segments_of_lastName (place_eq_ok names.placed).2.2.symm
  have isOpen : path.steps = path.segments := by
    rw [Path.steps, names.isOpen]
    rfl
  rw [← isOpen, steps] at lastStep
  have isFinal := List.head_eq_of_cons_eq (List.append_inj' lastStep rfl).2
  rw [isName] at distinct
  exact distinct isFinal

theorem locate_eq_follow {store : Store} {path : Path} {leading : List Segment}
    {final : Segment} {directory : Location} (steps : path.steps = leading ++ [final])
    (walked : store.walk path leading = .ok directory) :
    store.locate path = store.follow directory final := by
  rw [locate, steps, walk_concat walked]

def entryAfter? (store : Store) (directory : Location) (step : Segment) : Option Entry :=
  match store.follow directory step with
  | .error _ => none
  | .ok location => store.get? location

theorem entryAfter_congr {first second : Store} (same : SameDirectories first second)
    {directory : Location} (isDirectory : first.isDirectory directory = true)
    {temporary : String} {final : Segment} (distinct : final ≠ .name temporary)
    (agree : ∀ location, location ≠ directory ++ [temporary] →
      first.get? location = second.get? location) :
    first.entryAfter? directory final = second.entryAfter? directory final := by
  have there : second.isDirectory directory = true := by
    rw [← same.isDirectory]
    exact isDirectory
  unfold entryAfter? follow
  rw [if_pos isDirectory, if_pos there]
  cases final with
  | here =>
      apply agree
      intro equal
      have lengths := congrArg List.length equal
      rw [List.length_append, List.length_singleton] at lengths
      omega
  | up =>
      apply agree
      intro equal
      have lengths := congrArg List.length equal
      rw [List.length_dropLast, List.length_append, List.length_singleton] at lengths
      omega
  | name text =>
      have other : directory ++ [text] ≠ directory ++ [temporary] := by
        intro equal
        have names := (List.append_inj' equal rfl).2
        cases names
        exact distinct rfl
      dsimp only
      rw [agree _ other]
      by_cases long : Path.nameLimit < text.utf8ByteSize
      · rw [if_pos long]
      · rw [if_neg long]
        by_cases present : (second.get? (directory ++ [text])).isSome = true
        · rw [if_pos present]
          exact agree _ other
        · rw [if_neg present]

/-- A path leads to the same entry wherever a store differs only in the temporary file
beside it. -/
theorem entryAt_congr {first second : Store} (same : SameDirectories first second)
    {text : String} {temporary : Location}
    (named : first.fileLocation? (Image.temporaryPath text) = some temporary)
    (agree : ∀ location, location ≠ temporary → first.get? location = second.get? location) :
    first.entryAt? text = second.entryAt? text := by
  unfold entryAt?
  split
  · rfl
  · rename_i path parsed
    obtain ⟨leading, directory, name, final, rfl, walked, isDirectory, steps, distinct⟩ :=
      step_beside_temporary parsed named
    rw [locate_eq_follow steps walked,
      locate_eq_follow steps (walk_congr same.keeps walked isDirectory)]
    exact entryAfter_congr same isDirectory distinct agree

end Store

end Rv32Image
