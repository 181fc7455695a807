/-
What the reader asks of data, as one ordered list of requirements, and that reading is
nothing else than testing these and taking the fields from their places.
-/

import Rv32Image.Proofs.Image.Layout

namespace Rv32Image

structure Requirement where
  met : Bool
  rejection : Rejection

namespace Requirement

def test : List Requirement → Except Rejection Unit
  | [] => .ok ()
  | requirement :: rest =>
      if requirement.met then test rest else .error requirement.rejection

theorem test_append (first second : List Requirement) :
    test (first ++ second) = (do test first; test second) := by
  induction first with
  | nil => rfl
  | cons requirement rest ih =>
      cases met : requirement.met with
      | true =>
          simp only [List.cons_append, test, met, if_true]
          exact ih
      | false =>
          simp only [List.cons_append, test, met, Bool.false_eq_true, if_false]
          rfl

theorem test_eq_ok_iff (requirements : List Requirement) :
    test requirements = .ok () ↔ ∀ requirement ∈ requirements, requirement.met = true := by
  induction requirements with
  | nil => simp [test]
  | cons requirement rest ih =>
      cases met : requirement.met with
      | true => simp [test, met, ih]
      | false => simp [test, met]

theorem test_eq_find? (requirements : List Requirement) :
    test requirements =
      match requirements.find? (fun requirement => !requirement.met) with
      | none => .ok ()
      | some unmet => .error unmet.rejection := by
  induction requirements with
  | nil => rfl
  | cons requirement rest ih =>
      cases met : requirement.met with
      | true => simp only [test, List.find?_cons, met, ih, if_true, Bool.not_true]
      | false =>
          simp only [test, List.find?_cons, met, Bool.false_eq_true, if_false, Bool.not_false]

theorem test_eq_error_iff (requirements : List Requirement) (rejection : Rejection) :
    test requirements = .error rejection ↔
      ∃ before unmet after, requirements = before ++ unmet :: after ∧
        (∀ requirement ∈ before, requirement.met = true) ∧ unmet.met = false ∧
        unmet.rejection = rejection := by
  have first (unmet : Requirement) :
      requirements.find? (fun requirement => !requirement.met) = some unmet ↔
        unmet.met = false ∧ ∃ before after, requirements = before ++ unmet :: after ∧
          ∀ requirement ∈ before, requirement.met = true := by
    rw [List.find?_eq_some_iff_append]
    simp only [Bool.not_eq_true', Bool.not_not]
  rw [test_eq_find?]
  constructor
  · intro reported
    cases found : requirements.find? (fun requirement => !requirement.met) with
    | none =>
        rw [found] at reported
        cases reported
    | some unmet =>
        rw [found] at reported
        obtain ⟨isUnmet, before, after, split, allMet⟩ := (first unmet).mp found
        exact ⟨before, unmet, after, split, allMet, isUnmet, Except.error.inj reported⟩
  · rintro ⟨before, unmet, after, split, allMet, isUnmet, rfl⟩
    rw [(first unmet).mpr ⟨isUnmet, before, after, split, allMet⟩]

/-! ### The requirements of the format -/

def ofIdentification (data : List UInt8) : List Requirement :=
  [{ met := decide (52 ≤ data.length)
     rejection := .tooShort data.length },
    { met := decide (window data 0 4 = [0x7F, 0x45, 0x4C, 0x46])
      rejection := .invalidMagic },
    { met := decide (data.getD 4 0 = 1)
      rejection := .unsupportedClass (data.getD 4 0) },
    { met := decide (data.getD 5 0 = 1)
      rejection := .unsupportedEncoding (data.getD 5 0) },
    { met := decide (data.getD 6 0 = 1)
      rejection := .unsupportedVersion (BitVec.ofNat 32 (data.getD 6 0).toNat) }]

def ofFileHeader (header : FileHeader) : List Requirement :=
  [{ met := decide (header.fileType = 2)
     rejection := .unsupportedFileType header.fileType },
    { met := decide (header.machine = 0xF3)
      rejection := .unsupportedMachine header.machine },
    { met := decide (header.version = 1)
      rejection := .unsupportedVersion header.version },
    { met := decide (header.fileHeaderSize = 52)
      rejection := .invalidFileHeaderSize header.fileHeaderSize },
    { met := decide (header.programHeaderSize = 32)
      rejection := .invalidProgramHeaderSize header.programHeaderSize },
    { met := decide (header.programHeaderCount = 1)
      rejection := .invalidProgramHeaderCount header.programHeaderCount }]

/-- The sum is one of natural numbers and does not wrap. -/
def ofPlace (data : List UInt8) (offset : Word) : List Requirement :=
  [{ met := decide (offset.toNat + 32 ≤ data.length)
     rejection := .programHeaderOutOfBounds offset }]

def ofSegment (data : List UInt8) (segment : ProgramHeader) : List Requirement :=
  [{ met := decide (segment.segmentType = 1)
     rejection := .notLoadable segment.segmentType },
    { met := decide (segment.fileSize = segment.memorySize)
      rejection := .sizeMismatch segment.fileSize segment.memorySize },
    { met := decide (segment.offset.toNat + segment.fileSize.toNat ≤ data.length)
      rejection := .segmentOutOfBounds segment.offset segment.fileSize }]

theorem test_ofPlace (data : List UInt8) (offset : Word) :
    test (ofPlace data offset) =
      if offset.toNat + 32 ≤ data.length then .ok ()
      else .error (.programHeaderOutOfBounds offset) := by
  simp only [ofPlace, test, decide_eq_true_eq]

theorem test_ofSegment (data : List UInt8) (segment : ProgramHeader) :
    test (ofSegment data segment) =
      if segment.segmentType = 1 then
        if segment.fileSize = segment.memorySize then
          if segment.offset.toNat + segment.fileSize.toNat ≤ data.length then .ok ()
          else .error (.segmentOutOfBounds segment.offset segment.fileSize)
        else .error (.sizeMismatch segment.fileSize segment.memorySize)
      else .error (.notLoadable segment.segmentType) := by
  simp only [ofSegment, test, decide_eq_true_eq]

def ofData (data : List UInt8) : List Requirement :=
  let image := ParsedImage.ofData data
  ofIdentification data ++ ofFileHeader image.header ++
    ofPlace data image.header.programHeaderOffset ++ ofSegment data image.segment

end Requirement

/-! ### Single accesses -/

namespace Reader

theorem require_bind {α : Type} (condition : Prop) [Decidable condition] (rejection : Rejection)
    (next : Unit → Except Rejection α) :
    (require condition rejection >>= next) =
      if condition then next () else .error rejection := by
  by_cases holds : condition
  · rw [require, if_pos holds, if_pos holds]
    rfl
  · rw [require, if_neg holds, if_neg holds]
    rfl

theorem slice_eq_window {data : List UInt8} {first past : Nat} (ordered : first ≤ past)
    (inside : past ≤ data.length) (small : past < offsetLimit) :
    slice data first past = .ok (window data first (past - first)) := by
  rw [slice, if_pos ⟨ordered, inside, small⟩, window]

theorem ok_bind {α β : Type} (value : α) (next : α → Except Rejection β) :
    (Except.ok value >>= next) = next value := rfl

theorem requireFileHeader_eq_test (header : FileHeader) :
    requireFileHeader header = Requirement.test (Requirement.ofFileHeader header) := by
  simp only [requireFileHeader, require_bind]
  simp only [require, Requirement.ofFileHeader, Requirement.test, decide_eq_true_eq]
  rfl

end Reader

namespace Reading

open Reader

theorem outcome_byte {data : List UInt8} {index : Nat} (inside : index < data.length)
    (small : index + 1 < offsetLimit) : (byte index).outcome data = .ok (data.getD index 0) := by
  rw [byte, outcome_bind, outcome_bytes, slice_eq_window (Nat.le_add_right index 1) inside small,
    Nat.add_sub_cancel_left, window, List.drop_eq_getElem_cons inside,
    List.getD_eq_getElem?_getD, List.getElem?_eq_getElem inside]
  rfl

theorem outcome_nextBytes {data : List UInt8} {offset width : Nat}
    (inside : offset + width ≤ data.length) (small : offset + width < offsetLimit) :
    ((nextBytes width).run offset).outcome data =
      .ok (window data offset width, offset + width) := by
  change (bytes offset (offset + width) >>= fun found =>
    pure (found, offset + width)).outcome data = _
  rw [outcome_bind, outcome_bytes, slice_eq_window (Nat.le_add_right offset width) inside small,
    Nat.add_sub_cancel_left]
  rfl

theorem outcome_nextHalf {data : List UInt8} {offset : Nat} (inside : offset + 2 ≤ data.length)
    (small : offset + 2 < offsetLimit) :
    (nextHalf.run offset).outcome data = .ok (halfAt data offset, offset + 2) := by
  rw [nextHalf, StateT.run_bind, outcome_bind, outcome_nextBytes inside small]
  rfl

theorem outcome_nextWord {data : List UInt8} {offset : Nat} (inside : offset + 4 ≤ data.length)
    (small : offset + 4 < offsetLimit) :
    (nextWord.run offset).outcome data = .ok (wordAt data offset, offset + 4) := by
  rw [nextWord, StateT.run_bind, outcome_bind, outcome_nextBytes inside small]
  rfl

/-! ### Whole records -/

theorem outcome_nextFileHeader {data : List UInt8} (long : 52 ≤ data.length) :
    (nextFileHeader.run 0).outcome data = .ok (FileHeader.ofData data, 52) := by
  have small : 52 < offsetLimit := by decide
  rw [nextFileHeader]
  simp (disch := omega) only [StateT.run_bind, Format.identificationLength, outcome_bind,
    outcome_nextBytes, outcome_nextHalf, outcome_nextWord, ok_bind]
  rfl

theorem outcome_nextProgramHeader {data : List UInt8} {start : Nat}
    (inside : start + 32 ≤ data.length) (small : start + 32 < offsetLimit) :
    (nextProgramHeader.run start).outcome data =
      .ok (ProgramHeader.ofData data start, start + 32) := by
  rw [nextProgramHeader]
  simp (disch := omega) only [StateT.run_bind, outcome_bind, outcome_nextWord, ok_bind]
  rfl

/-! ### Readings as tests of requirements -/

theorem outcome_identification (data : List UInt8) :
    (identification data.length).outcome data =
      Requirement.test (Requirement.ofIdentification data) := by
  have size : Format.fileHeaderSize.toNat = 52 := rfl
  rw [identification, outcome_bind, outcome_lift, require_bind, size]
  by_cases long : 52 ≤ data.length
  · have byte {index : Nat} (early : index < 52) :
        (byte index).outcome data = .ok (data.getD index 0) := by
      apply outcome_byte (Nat.lt_of_lt_of_le early long)
      rw [offsetLimit]
      omega
    have magic : slice data 0 Format.magic.length = .ok (window data 0 4) :=
      slice_eq_window (Nat.zero_le 4) (Nat.le_trans (by decide) long) (by decide)
    have imageClass := byte (show Format.classIndex < 52 by decide)
    have encoding := byte (show Format.encodingIndex < 52 by decide)
    have version := byte (show Format.versionIndex < 52 by decide)
    have one (found : UInt8) : found.toNat = Format.currentVersion.toNat ↔ found = 1 :=
      UInt8.toNat_inj (b := 1)
    simp only [outcome_bind, outcome_bytes, outcome_lift, magic, imageClass, encoding, version,
      ok_bind, require_bind]
    simp only [require, one, Requirement.ofIdentification, Requirement.test, decide_eq_true_eq,
      if_pos long]
    rfl
  · rw [if_neg long]
    simp only [Requirement.ofIdentification, Requirement.test, decide_eq_true_eq, if_neg long]

theorem outcome_fileHeader (data : List UInt8) :
    (fileHeader data.length).outcome data = (do
      Requirement.test (Requirement.ofIdentification data)
      Requirement.test (Requirement.ofFileHeader (FileHeader.ofData data))
      return FileHeader.ofData data) := by
  rw [fileHeader, outcome_bind, outcome_identification]
  cases tested : Requirement.test (Requirement.ofIdentification data) with
  | error rejection => rfl
  | ok met =>
      have long : 52 ≤ data.length := by
        have all := (Requirement.test_eq_ok_iff _).mp tested
        simpa using all _ (List.mem_cons_self)
      rw [ok_bind, ok_bind, outcome_bind, outcome_nextFileHeader long, ok_bind, outcome_bind,
        outcome_lift, ← requireFileHeader_eq_test]
      rfl

theorem outcome_programHeader (data : List UInt8) (offset : Word) :
    (programHeader data.length offset).outcome data = (do
      Requirement.test (Requirement.ofPlace data offset)
      return ProgramHeader.ofData data offset.toNat) := by
  have size : Format.programHeaderSize.toNat = 32 := rfl
  rw [programHeader, outcome_bind, outcome_lift, require_bind, size, Requirement.test_ofPlace]
  by_cases inside : offset.toNat + 32 ≤ data.length
  · -- An offset is a 32-bit number, so its sum with 32 is far below the limit of offsets.
    have small : offset.toNat + 32 < offsetLimit := by
      have bound := offset.isLt
      rw [offsetLimit]
      omega
    rw [if_pos inside, if_pos inside, outcome_bind, outcome_nextProgramHeader inside small]
    rfl
  · rw [if_neg inside, if_neg inside]
    rfl

theorem outcome_code (data : List UInt8) (segment : ProgramHeader) :
    (code data.length segment).outcome data = (do
      Requirement.test (Requirement.ofSegment data segment)
      return window data segment.offset.toNat segment.fileSize.toNat) := by
  have constant : Format.loadableSegment = 1 := rfl
  simp only [code, outcome_bind, outcome_lift, outcome_bytes, require_bind, constant,
    Requirement.test_ofSegment]
  by_cases loadable : segment.segmentType = 1
  · by_cases same : segment.fileSize = segment.memorySize
    · by_cases inside : segment.offset.toNat + segment.fileSize.toNat ≤ data.length
      · -- Both summands are 32-bit numbers, so the sum is far below the limit of offsets.
        have small : segment.offset.toNat + segment.fileSize.toNat < offsetLimit := by
          have offsetBound := segment.offset.isLt
          have sizeBound := segment.fileSize.isLt
          rw [offsetLimit]
          omega
        simp only [if_pos loadable, if_pos same, if_pos inside]
        rw [slice_eq_window (Nat.le_add_right _ _) inside small, Nat.add_sub_cancel_left]
        rfl
      · simp only [if_pos loadable, if_pos same, if_neg inside]
        rfl
    · simp only [if_pos loadable, if_neg same]
      rfl
  · simp only [if_neg loadable]
    rfl

end Reading

/-- Reading is testing the requirements in order and then taking the fields from their
places. -/
theorem ParsedImage.parse_eq (data : List UInt8) :
    parse data = (do
      Requirement.test (Requirement.ofData data)
      return ofData data) := by
  rw [parse, Reading.ofLength, Requirement.ofData]
  simp only [Reading.outcome_bind, Reading.outcome_fileHeader, Reading.outcome_programHeader,
    Reading.outcome_code, Reading.outcome_pure, Requirement.test_append, bind_assoc, pure_bind]
  rfl

end Rv32Image
