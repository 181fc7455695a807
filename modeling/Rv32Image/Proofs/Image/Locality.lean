/-
Which bytes the reader looks at: the file header, then the program header that it
names, then the segment that this names.
-/

import Rv32Image.Proofs.Bytes.Agreement
import Rv32Image.Proofs.Image.Acceptance
import Rv32Image.Proofs.Image.Rejections

namespace Rv32Image

variable {data other : List UInt8}

/-! ### Parts of data that agree -/

theorem FileHeader.ofData_congr (agree : AgreeOn other data 0 52) :
    ofData other = ofData data := by
  simp (disch := omega) only [ofData, agree.window_eq, agree.halfAt_eq, agree.wordAt_eq]

theorem ProgramHeader.ofData_congr {start : Nat} (agree : AgreeOn other data start (start + 32)) :
    ofData other start = ofData data start := by
  simp (disch := omega) only [ofData, agree.wordAt_eq]

namespace Requirement

/-- The requirements on the file header, which come before all others. -/
def ofFront (data : List UInt8) : List Requirement :=
  ofIdentification data ++ ofFileHeader (FileHeader.ofData data)

theorem test_ofFront_congr (long : 52 ≤ data.length) (otherLong : 52 ≤ other.length)
    (agree : AgreeOn other data 0 52) :
    test (ofFront other) = test (ofFront data) := by
  simp (disch := omega) only [ofFront, ofIdentification, FileHeader.ofData_congr agree,
    agree.window_eq, agree.getD_eq, List.cons_append, test, long, otherLong, decide_true, if_true]

theorem test_ofFront_of_wellFormed (formed : WellFormed data) : test (ofFront data) = .ok () := by
  rw [test_eq_ok_iff]
  intro requirement member
  have all := (ofData_met_iff_wellFormed data).mpr formed
  exact all requirement (List.mem_append_left _ (List.mem_append_left _ member))

theorem length_of_test_ofFront (met : test (ofFront data) = .ok ()) : 52 ≤ data.length := by
  have first := (test_eq_ok_iff _).mp met _ List.mem_cons_self
  exact of_decide_eq_true first

end Requirement

namespace ParsedImage

open Requirement

def programHeaderPast (image : ParsedImage) : Nat :=
  image.header.programHeaderOffset.toNat + 32

def segmentPast (image : ParsedImage) : Nat :=
  image.segment.offset.toNat + image.segment.fileSize.toNat

/-! ### Reading by parts -/

theorem parse_eq_parts (data : List UInt8) :
    parse data = (do
      test (ofFront data)
      test (ofPlace data (ofData data).header.programHeaderOffset)
      test (ofSegment data (ofData data).segment)
      return ofData data) := by
  rw [parse_eq, Requirement.ofData, ofFront]
  simp only [test_append, bind_assoc]
  rfl

theorem parse_of_sameHeader (long : 52 ≤ data.length) (otherLong : 52 ≤ other.length)
    (agree : AgreeOn other data 0 52) :
    parse other = (do
      test (ofFront data)
      test (ofPlace other (ofData data).header.programHeaderOffset)
      test (ofSegment other (ofData other).segment)
      return ofData other) := by
  have header : (ofData other).header = (ofData data).header := FileHeader.ofData_congr agree
  rw [parse_eq_parts, test_ofFront_congr long otherLong agree, header]

/-- What is left to read of data once both headers are known from other data. -/
theorem parse_of_sameHeaders (long : 52 ≤ data.length) (otherLong : 52 ≤ other.length)
    (agree : AgreeOn other data 0 52)
    (inside : (ofData data).programHeaderPast ≤ other.length)
    (agreeThere : AgreeOn other data (ofData data).header.programHeaderOffset.toNat
      (ofData data).programHeaderPast) :
    parse other = (do
      test (ofFront data)
      test (ofSegment other (ofData data).segment)
      return {
        header := (ofData data).header
        segment := (ofData data).segment
        code := window other (ofData data).segment.offset.toNat
          (ofData data).segment.fileSize.toNat }) := by
  have header : FileHeader.ofData other = FileHeader.ofData data := FileHeader.ofData_congr agree
  have segment : ProgramHeader.ofData other (FileHeader.ofData data).programHeaderOffset.toNat =
      ProgramHeader.ofData data (FileHeader.ofData data).programHeaderOffset.toNat :=
    ProgramHeader.ofData_congr agreeThere
  have placed : test (ofPlace other (ofData data).header.programHeaderOffset) = .ok () := by
    rw [test_ofPlace]
    exact if_pos inside
  rw [parse_of_sameHeader long otherLong agree, placed]
  simp only [ofData, header, segment]
  rfl

theorem parse_of_sameHeaders_of_wellFormed (formed : WellFormed data)
    (otherLong : 52 ≤ other.length) (agree : AgreeOn other data 0 52)
    (inside : (ofData data).programHeaderPast ≤ other.length)
    (agreeThere : AgreeOn other data (ofData data).header.programHeaderOffset.toNat
      (ofData data).programHeaderPast) :
    parse other =
      if (ofData data).segmentPast ≤ other.length then
        .ok {
          header := (ofData data).header
          segment := (ofData data).segment
          code := window other (ofData data).segment.offset.toNat
            (ofData data).segment.fileSize.toNat }
      else
        .error (.segmentOutOfBounds (ofData data).segment.offset
          (ofData data).segment.fileSize) := by
  have loadable : (ofData data).segment.segmentType = 1 := formed.loadable
  have sameSizes : (ofData data).segment.fileSize = (ofData data).segment.memorySize :=
    formed.sameSizes
  rw [parse_of_sameHeaders formed.fileHeaderInside otherLong agree inside agreeThere,
    test_ofFront_of_wellFormed formed, test_ofSegment, if_pos loadable, if_pos sameSizes,
    segmentPast]
  split
  · rfl
  · rfl

theorem parse_of_sameParts {image : ParsedImage} (accepted : parse data = .ok image)
    (long : 52 ≤ other.length) (placeInside : image.programHeaderPast ≤ other.length)
    (segmentInside : image.segmentPast ≤ other.length)
    (agree : AgreeOn other data 0 52)
    (agreeThere : AgreeOn other data image.header.programHeaderOffset.toNat
      image.programHeaderPast)
    (agreeBehind : AgreeOn other data image.segment.offset.toNat image.segmentPast) :
    parse other = .ok image := by
  obtain ⟨formed, rfl⟩ := (parse_eq_ok_iff data image).mp accepted
  have code : window other (ofData data).segment.offset.toNat
      (ofData data).segment.fileSize.toNat = (ofData data).code :=
    agreeBehind.window_eq (Nat.le_refl _) (Nat.le_refl _)
  rw [parse_of_sameHeaders_of_wellFormed formed long agree placeInside agreeThere,
    if_pos segmentInside, code]

/-! ### Too few bytes -/

theorem parse_of_short (short : data.length < 52) :
    parse data = .error (.tooShort data.length) := by
  rw [parse_eq_parts, ofFront, ofIdentification]
  simp only [List.cons_append, test, decide_eq_true_eq, if_neg (Nat.not_le.mpr short)]
  rfl

theorem parse_of_programHeaderOutside (met : test (ofFront data) = .ok ())
    (otherLong : 52 ≤ other.length) (agree : AgreeOn other data 0 52)
    (outside : other.length < (ofData data).programHeaderPast) :
    parse other =
      .error (.programHeaderOutOfBounds (ofData data).header.programHeaderOffset) := by
  have unmet : test (ofPlace other (ofData data).header.programHeaderOffset) =
      .error (.programHeaderOutOfBounds (ofData data).header.programHeaderOffset) := by
    rw [test_ofPlace]
    exact if_neg (Nat.not_le.mpr outside)
  rw [parse_of_sameHeader (length_of_test_ofFront met) otherLong agree, met, unmet]
  rfl

/-! ### More bytes -/

theorem test_ofSegment_of_error {segment : ProgramHeader} {rejection : Rejection}
    (reported : test (ofSegment data segment) = .error rejection)
    (notForBytes : rejection ≠ .segmentOutOfBounds segment.offset segment.fileSize) :
    test (ofSegment other segment) = .error rejection := by
  rw [test_ofSegment] at reported ⊢
  split at reported
  · rename_i loadable
    split at reported
    · rename_i sameSizes
      split at reported
      · cases reported
      · cases reported
        exact absurd rfl notForBytes
    · rename_i differentSizes
      rw [if_pos loadable, if_neg differentSizes, ← reported]
  · rename_i notLoadable
    rw [if_neg notLoadable, ← reported]

theorem parse_append_of_error {rejection : Rejection} (rest : List UInt8)
    (rejected : parse data = .error rejection)
    (notShort : ∀ length, rejection ≠ .tooShort length)
    (notPlace : ∀ offset, rejection ≠ .programHeaderOutOfBounds offset)
    (notSegment : ∀ offset size, rejection ≠ .segmentOutOfBounds offset size) :
    parse (data ++ rest) = .error rejection := by
  have long : 52 ≤ data.length := by
    apply Nat.le_of_not_lt
    intro short
    rw [parse_of_short short] at rejected
    exact notShort _ (Except.error.inj rejected).symm
  have longer : data.length ≤ (data ++ rest).length := by
    rw [List.length_append]
    exact Nat.le_add_right _ _
  have stillLong : 52 ≤ (data ++ rest).length := Nat.le_trans long longer
  have front : AgreeOn (data ++ rest) data 0 52 := AgreeOn.append rest 0 long
  cases tested : test (ofFront data) with
  | error reported =>
      rw [parse_eq_parts, tested] at rejected
      rw [parse_of_sameHeader long stillLong front, tested]
      exact rejected
  | ok met =>
      by_cases inside : (ofData data).programHeaderPast ≤ data.length
      · rw [parse_of_sameHeaders long long (AgreeOn.refl _ _ _) inside (AgreeOn.refl _ _ _),
          tested] at rejected
        rw [parse_of_sameHeaders long stillLong front (Nat.le_trans inside longer)
          (AgreeOn.append rest _ inside), tested]
        cases onSegment : test (ofSegment data (ofData data).segment) with
        | error reported =>
            rw [onSegment] at rejected
            cases rejected
            rw [test_ofSegment_of_error onSegment (notSegment _ _)]
            rfl
        | ok met =>
            rw [onSegment] at rejected
            cases rejected
      · rw [parse_of_programHeaderOutside tested long (AgreeOn.refl _ _ _)
          (Nat.lt_of_not_le inside)] at rejected
        exact absurd (Except.error.inj rejected).symm (notPlace _)

/-- Accepted data may be changed outside its three parts and get any length that leaves
them in; rejected data may be extended, unless bytes were missing. -/
theorem parse_depends_on_parts :
    (∀ (data other : List UInt8) (image : ParsedImage), parse data = .ok image →
      max 52 (max image.programHeaderPast image.segmentPast) ≤ other.length →
      AgreeOn other data 0 52 →
      AgreeOn other data image.header.programHeaderOffset.toNat image.programHeaderPast →
      AgreeOn other data image.segment.offset.toNat image.segmentPast →
        parse other = .ok image) ∧
      ∀ (data rest : List UInt8) (rejection : Rejection), parse data = .error rejection →
        (∀ length, rejection ≠ .tooShort length) →
        (∀ offset, rejection ≠ .programHeaderOutOfBounds offset) →
        (∀ offset size, rejection ≠ .segmentOutOfBounds offset size) →
          parse (data ++ rest) = .error rejection := by
  refine ⟨?_, ?_⟩
  · intro data other image accepted long agree agreeThere agreeBehind
    obtain ⟨fileHeaderInside, rest⟩ := Nat.max_le.mp long
    obtain ⟨programHeaderInside, segmentInside⟩ := Nat.max_le.mp rest
    exact parse_of_sameParts accepted fileHeaderInside programHeaderInside segmentInside agree
      agreeThere agreeBehind
  · intro data rest rejection rejected notShort notPlace notSegment
    exact parse_append_of_error rest rejected notShort notPlace notSegment

theorem parse_depends_on_parts_gap :
    let front := { FileHeader.executable 0x100 with programHeaderOffset := 54 }.bytes
    let behind := { ProgramHeader.code 0x200 2 with offset := 50 }.bytes
    let objectFile := { FileHeader.executable 0x100 with fileType := 1 }.bytes
    parse (front ++ [0xAA, 0xBB] ++ behind ++ [0xFF]) =
        parse (front ++ [0x01, 0x02] ++ behind ++ [0x03, 0x04, 0x05]) ∧
      (∃ image, parse (front ++ [0x01, 0x02] ++ behind ++ [0x03, 0x04, 0x05]) = .ok image) ∧
      parse (objectFile ++ [0x7F]) = .error (.unsupportedFileType 1) := by
  intro front behind objectFile
  have formed : WellFormed (front ++ [0xAA, 0xBB] ++ behind ++ [0xFF]) := by
    constructor <;> decide
  have accepted := (parse_eq_ok_iff _ _).mpr ⟨formed, rfl⟩
  have same := parse_depends_on_parts.1 _
    (front ++ [0x01, 0x02] ++ behind ++ [0x03, 0x04, 0x05]) _ accepted
    (by decide) (by decide) (by decide) (by decide)
  have rejected : parse objectFile = .error (.unsupportedFileType 1) := by
    rw [parse_eq_error_iff, test_eq_error_iff]
    exact ⟨(Requirement.ofData objectFile).take 5, ⟨false, .unsupportedFileType 1⟩,
      (Requirement.ofData objectFile).drop 6, rfl, by decide, rfl, rfl⟩
  have extended := parse_depends_on_parts.2 objectFile [0x7F] _ rejected (by simp) (by simp)
    (by simp)
  exact ⟨accepted.trans same.symm, ⟨_, same⟩, extended⟩

end ParsedImage

end Rv32Image
