/-
The fields whose values the format fixes, for data whose program header follows its
file header.
-/

import Rv32Image.Proofs.Image.HeaderField
import Rv32Image.Proofs.Image.Locality

namespace Rv32Image

/-- Bytes that the format fixes, and what is reported when others are found. -/
structure FixedField where
  first : Nat
  expected : List UInt8
  rejection : List UInt8 → Rejection

namespace FixedField

def ofByte (first : Nat) (expected : UInt8) (rejection : UInt8 → Rejection) : FixedField :=
  ⟨first, [expected], fun found => rejection (found.getD 0 0)⟩

def ofHalf (first : Nat) (expected : Half) (rejection : Half → Rejection) : FixedField :=
  ⟨first, expected.bytes, fun found => rejection (Half.ofBytes found)⟩

def ofWord (first : Nat) (expected : Word) (rejection : Word → Rejection) : FixedField :=
  ⟨first, expected.bytes, fun found => rejection (Word.ofBytes found)⟩

def past (field : FixedField) : Nat :=
  field.first + field.expected.length

def found (field : FixedField) (data : List UInt8) : List UInt8 :=
  window data field.first field.expected.length

def requirement (data : List UInt8) (field : FixedField) : Requirement where
  met := decide (field.found data = field.expected)
  rejection := field.rejection (field.found data)

/-! ### The table -/

def ofIdentification : List FixedField :=
  [⟨0, [0x7F, 0x45, 0x4C, 0x46], fun _ => .invalidMagic⟩,
    ofByte 4 1 .unsupportedClass,
    ofByte 5 1 .unsupportedEncoding,
    ofByte 6 1 fun found => .unsupportedVersion (BitVec.ofNat 32 found.toNat)]

def ofFileHeader : List FixedField :=
  [ofHalf 16 2 .unsupportedFileType,
    ofHalf 18 0xF3 .unsupportedMachine,
    ofWord 20 1 .unsupportedVersion,
    ofHalf 40 52 .invalidFileHeaderSize,
    ofHalf 42 32 .invalidProgramHeaderSize,
    ofHalf 44 1 .invalidProgramHeaderCount]

def ofProgramHeader : FixedField :=
  ofWord 52 1 .notLoadable

/-- In the order in which they are tested, which is that of their places. -/
def all : List FixedField :=
  ofIdentification ++ ofFileHeader ++ [ofProgramHeader]

theorem all_ordered : all.Pairwise fun field next => field.past ≤ next.first := by decide

/-! ### Fields as requirements -/

variable {data : List UInt8}

theorem requirement_ofByte {first : Nat} (inside : first < data.length) (expected : UInt8)
    (rejection : UInt8 → Rejection) :
    requirement data (ofByte first expected rejection) =
      ⟨decide (data.getD first 0 = expected), rejection (data.getD first 0)⟩ := by
  have single : window data first 1 = [data.getD first 0] := by
    rw [window, List.drop_eq_getElem_cons inside, List.getD_eq_getElem?_getD,
      List.getElem?_eq_getElem inside, Option.getD_some]
    rfl
  have met : window data first 1 = [expected] ↔ data.getD first 0 = expected := by
    rw [single, List.cons.injEq, and_iff_left rfl]
  change Requirement.mk (decide (window data first 1 = [expected]))
    (rejection ((window data first 1).getD 0 0)) = _
  rw [decide_eq_decide.mpr met, single]
  rfl

theorem requirement_ofHalf {first : Nat} (inside : first + 2 ≤ data.length) (expected : Half)
    (rejection : Half → Rejection) :
    requirement data (ofHalf first expected rejection) =
      ⟨decide (halfAt data first = expected), rejection (halfAt data first)⟩ := by
  have met : window data first 2 = expected.bytes ↔ halfAt data first = expected := by
    rw [← bytes_halfAt inside, Half.bytes_inj]
  rw [requirement, found, ofHalf, Half.length_bytes, decide_eq_decide.mpr met]
  rfl

theorem requirement_ofWord {first : Nat} (inside : first + 4 ≤ data.length) (expected : Word)
    (rejection : Word → Rejection) :
    requirement data (ofWord first expected rejection) =
      ⟨decide (wordAt data first = expected), rejection (wordAt data first)⟩ := by
  have met : window data first 4 = expected.bytes ↔ wordAt data first = expected := by
    rw [← bytes_wordAt inside, Word.bytes_inj]
  rw [requirement, found, ofWord, Word.length_bytes, decide_eq_decide.mpr met]
  rfl

theorem test_ofIdentification (long : 52 ≤ data.length) :
    Requirement.test (Requirement.ofIdentification data) =
      Requirement.test (ofIdentification.map (requirement data)) := by
  have fields : Requirement.ofIdentification data =
      ⟨decide (52 ≤ data.length), .tooShort data.length⟩ ::
        ofIdentification.map (requirement data) := by
    simp (disch := omega) only [ofIdentification, List.map_cons, List.map_nil, requirement_ofByte]
    rfl
  rw [fields, Requirement.test]
  exact if_pos (decide_eq_true long)

theorem ofFileHeader_eq (long : 52 ≤ data.length) :
    Requirement.ofFileHeader (FileHeader.ofData data) =
      ofFileHeader.map (requirement data) := by
  simp (disch := omega) only [ofFileHeader, List.map_cons, List.map_nil, requirement_ofHalf,
    requirement_ofWord]
  rfl

def ofExtent (data : List UInt8) (segment : ProgramHeader) : List Requirement :=
  [{ met := decide (segment.fileSize = segment.memorySize)
     rejection := .sizeMismatch segment.fileSize segment.memorySize },
    { met := decide (segment.offset.toNat + segment.fileSize.toNat ≤ data.length)
      rejection := .segmentOutOfBounds segment.offset segment.fileSize }]

theorem ofSegment_eq (long : 84 ≤ data.length) :
    Requirement.ofSegment data (ProgramHeader.ofData data 52) =
      [ofProgramHeader].map (requirement data) ++
        ofExtent data (ProgramHeader.ofData data 52) := by
  rw [List.map_singleton, ofProgramHeader, requirement_ofWord (by omega)]
  rfl

theorem parse_of_placed (place : wordAt data 28 = 52) (long : 84 ≤ data.length) :
    ParsedImage.parse data = (do
      Requirement.test (all.map (requirement data))
      Requirement.test (ofExtent data (ProgramHeader.ofData data 52))
      return ParsedImage.ofData data) := by
  have header : 52 ≤ data.length := by omega
  have inside : Requirement.test (Requirement.ofPlace data 52) = .ok () := by
    rw [Requirement.test_ofPlace]
    exact if_pos long
  have programHeader :
      Requirement.ofPlace data (ParsedImage.ofData data).header.programHeaderOffset =
        Requirement.ofPlace data 52 := congrArg (Requirement.ofPlace data) place
  have segment : (ParsedImage.ofData data).segment = ProgramHeader.ofData data 52 :=
    congrArg ParsedImage.segment (ParsedImage.ofData_of_placed place)
  rw [ParsedImage.parse_eq_parts, programHeader, inside, segment, ofSegment_eq long,
    Requirement.ofFront, ofFileHeader_eq header, all]
  simp only [List.map_append, Requirement.test_append, test_ofIdentification header, bind_assoc]
  rfl

/-! ### Data of which some fields differ -/

theorem found_eq_of_wellFormed (formed : WellFormed data) (place : wordAt data 28 = 52)
    (long : 84 ≤ data.length) : ∀ field ∈ all, field.found data = field.expected := by
  have accepted := (ParsedImage.parse_eq_ok_iff data _).mpr ⟨formed, rfl⟩
  rw [parse_of_placed place long] at accepted
  cases tested : Requirement.test (all.map (requirement data)) with
  | error rejection =>
      rw [tested] at accepted
      cases accepted
  | ok met =>
      intro field member
      have isMet := (Requirement.test_eq_ok_iff _).mp tested _ (List.mem_map_of_mem member)
      exact of_decide_eq_true isMet

theorem test_all_eq_error {field : FixedField} (member : field ∈ all)
    (differs : field.found data ≠ field.expected)
    (before : ∀ earlier ∈ all, earlier.past ≤ field.first →
      earlier.found data = earlier.expected) :
    Requirement.test (all.map (requirement data)) =
      .error (field.rejection (field.found data)) := by
  obtain ⟨front, rest, split⟩ := List.append_of_mem member
  have ordered := all_ordered
  rw [split, List.pairwise_append] at ordered
  rw [Requirement.test_eq_error_iff]
  refine ⟨front.map (requirement data), requirement data field, rest.map (requirement data),
    ?_, ?_, ?_, rfl⟩
  · rw [split, List.map_append, List.map_cons]
  · intro met isFront
    obtain ⟨earlier, inFront, rfl⟩ := List.mem_map.mp isFront
    have behind := ordered.2.2 earlier inFront field List.mem_cons_self
    have known : earlier ∈ all := split ▸ List.mem_append_left _ inFront
    exact decide_eq_true (before earlier known behind)
  · exact decide_eq_false differs

theorem test_all_eq_ok (same : ∀ field ∈ all, field.found data = field.expected) :
    Requirement.test (all.map (requirement data)) = .ok () := by
  rw [Requirement.test_eq_ok_iff]
  intro met member
  obtain ⟨field, known, rfl⟩ := List.mem_map.mp member
  exact decide_eq_true (same field known)

end FixedField

end Rv32Image
