/-
Images with one wrong byte.
-/

import Rv32Image.Proofs.Image.FixedField
import Rv32Image.Proofs.Image.HeaderField

namespace Rv32Image

/-! ### One wrong byte -/

/-- One byte of well-formed data is another, but none that says where the program header is. -/
structure ByteChange (data : List UInt8) (index : Nat) (byte : UInt8) : Prop where
  formed : WellFormed data
  place : wordAt data 28 = 52
  present : index < data.length
  different : data[index]? ≠ some byte
  elsewhere : index < 28 ∨ 32 ≤ index

namespace ByteChange

variable {data : List UInt8} {index : Nat} {byte : UInt8}

theorem long (change : ByteChange data index byte) : 84 ≤ data.length := by
  have inside := change.formed.programHeaderInside
  rw [change.place] at inside
  exact inside

theorem long_set (change : ByteChange data index byte) : 84 ≤ (data.set index byte).length := by
  rw [List.length_set]
  exact change.long

theorem place_set (change : ByteChange data index byte) :
    wordAt (data.set index byte) 28 = 52 := by
  have agree : AgreeOn (data.set index byte) data 28 32 := AgreeOn.set data byte change.elsewhere
  rw [agree.wordAt_eq (Nat.le_refl _) (Nat.le_refl _), change.place]

theorem found_eq (change : ByteChange data index byte) {field : FixedField}
    (member : field ∈ FixedField.all) (outside : index < field.first ∨ field.past ≤ index) :
    field.found (data.set index byte) = field.expected := by
  have agree : AgreeOn (data.set index byte) data field.first field.past :=
    AgreeOn.set data byte outside
  rw [← FixedField.found_eq_of_wellFormed change.formed change.place change.long field member]
  exact agree.window_eq (Nat.le_refl _) (Nat.le_refl _)

/-- A wrong byte in a fixed field is reported as the format says for that field. -/
theorem parse_of_fixed (change : ByteChange data index byte) {field : FixedField}
    (member : field ∈ FixedField.all) (behind : field.first ≤ index)
    (before : index < field.past) :
    ParsedImage.parse (data.set index byte) =
      .error (field.rejection (field.found (data.set index byte))) := by
  have differs : field.found (data.set index byte) ≠ field.expected := by
    rw [← FixedField.found_eq_of_wellFormed change.formed change.place change.long field member]
    exact (window_set_ne_iff change.present change.different).mpr ⟨behind, before⟩
  have reported := FixedField.test_all_eq_error member differs fun earlier known front =>
    change.found_eq known (Or.inr (Nat.le_trans front behind))
  rw [FixedField.parse_of_placed change.place_set change.long_set, reported]
  rfl

theorem parse_of_unfixed (change : ByteChange data index byte)
    (outside : ∀ field ∈ FixedField.all, index < field.first ∨ field.past ≤ index) :
    ParsedImage.parse (data.set index byte) = (do
      Requirement.test (FixedField.ofExtent (data.set index byte)
        (ProgramHeader.ofData (data.set index byte) 52))
      return ParsedImage.ofData (data.set index byte)) := by
  have met : Requirement.test
      (FixedField.all.map (FixedField.requirement (data.set index byte))) = .ok () :=
    FixedField.test_all_eq_ok fun field member => change.found_eq member (outside field member)
  rw [FixedField.parse_of_placed change.place_set change.long_set, met]
  rfl

theorem outside_of_ranges
    (unfixed : 7 ≤ index ∧ index < 16 ∨ 24 ≤ index ∧ index < 40 ∨ 46 ≤ index ∧ index < 52 ∨
      56 ≤ index) :
    ∀ field ∈ FixedField.all, index < field.first ∨ field.past ≤ index := by
  have places : ∀ field ∈ FixedField.all, field.past ≤ 7 ∨ 16 ≤ field.first ∧ field.past ≤ 24 ∨
      40 ≤ field.first ∧ field.past ≤ 46 ∨ 52 ≤ field.first ∧ field.past ≤ 56 := by decide
  intro field member
  have place := places field member
  omega

theorem sizes_eq (change : ByteChange data index byte) : wordAt data 68 = wordAt data 72 := by
  have same := change.formed.sameSizes
  rw [change.place] at same
  exact same

theorem sizes_ne (change : ByteChange data index byte) (behind : 68 ≤ index)
    (before : index < 76) :
    wordAt (data.set index byte) 68 ≠ wordAt (data.set index byte) 72 := by
  have long := change.long
  intro same
  by_cases inFileSize : index < 72
  · have agree : AgreeOn (data.set index byte) data 72 76 :=
      AgreeOn.set data byte (Or.inl inFileSize)
    have differs : wordAt (data.set index byte) 68 ≠ wordAt data 68 :=
      wordAt_set_ne change.present change.different (by omega) behind inFileSize
    apply differs
    rw [same, agree.wordAt_eq (Nat.le_refl _) (Nat.le_refl _), change.sizes_eq]
  · have agree : AgreeOn (data.set index byte) data 68 72 :=
      AgreeOn.set data byte (Or.inr (Nat.le_of_not_lt inFileSize))
    have differs : wordAt (data.set index byte) 72 ≠ wordAt data 72 :=
      wordAt_set_ne change.present change.different (by omega) (by omega) before
    apply differs
    rw [← same, agree.wordAt_eq (Nat.le_refl _) (Nat.le_refl _), change.sizes_eq]

theorem parse_of_size (change : ByteChange data index byte) (behind : 68 ≤ index)
    (before : index < 76) :
    ParsedImage.parse (data.set index byte) =
      .error (.sizeMismatch (wordAt (data.set index byte) 68)
        (wordAt (data.set index byte) 72)) := by
  have differ : decide ((ProgramHeader.ofData (data.set index byte) 52).fileSize =
      (ProgramHeader.ofData (data.set index byte) 52).memorySize) = false :=
    decide_eq_false (change.sizes_ne behind before)
  rw [change.parse_of_unfixed (outside_of_ranges (by omega)), FixedField.ofExtent,
    Requirement.test]
  simp only [differ, Bool.false_eq_true, if_false]
  rfl

theorem parse_of_unfixed_unsized (change : ByteChange data index byte)
    (outside : ∀ field ∈ FixedField.all, index < field.first ∨ field.past ≤ index)
    (unsized : index < 68 ∨ 76 ≤ index) :
    ParsedImage.parse (data.set index byte) =
      if (wordAt (data.set index byte) 56).toNat + (wordAt data 68).toNat ≤ data.length then
        .ok (ParsedImage.ofData (data.set index byte))
      else
        .error (.segmentOutOfBounds (wordAt (data.set index byte) 56) (wordAt data 68)) := by
  have agree : AgreeOn (data.set index byte) data 68 76 := AgreeOn.set data byte unsized
  have fileSize : (ProgramHeader.ofData (data.set index byte) 52).fileSize = wordAt data 68 :=
    agree.wordAt_eq (by decide) (by decide)
  have memorySize : (ProgramHeader.ofData (data.set index byte) 52).memorySize = wordAt data 68 :=
    (agree.wordAt_eq (by decide) (by decide)).trans change.sizes_eq.symm
  have place : (ProgramHeader.ofData (data.set index byte) 52).offset =
      wordAt (data.set index byte) 56 := rfl
  rw [change.parse_of_unfixed outside, FixedField.ofExtent, fileSize, memorySize, place]
  simp only [Requirement.test, decide_true, if_true, decide_eq_true_eq, List.length_set]
  split
  · rfl
  · rfl

theorem field_ne_iff (change : ByteChange data index byte) (field : HeaderField) :
    field.bytes (ParsedImage.ofData (data.set index byte)) ≠
        field.bytes (ParsedImage.ofData data) ↔
      field.Covers index := by
  rw [HeaderField.bytes_ofData change.place_set change.long_set,
    HeaderField.bytes_ofData change.place change.long]
  exact window_set_ne_iff change.present change.different

end ByteChange

/-! ### Written images -/

namespace ByteChange

variable {data code : List UInt8} {index : Nat} {byte : UInt8}

theorem code_ofData (change : ByteChange data index byte) (placed : Image.Placed data code)
    (unsized : index < 68 ∨ 76 ≤ index) :
    (ParsedImage.ofData (data.set index byte)).code =
      window (data.set index byte) (wordAt (data.set index byte) 56).toNat code.length := by
  have agree : AgreeOn (data.set index byte) data 68 76 := AgreeOn.set data byte unsized
  have fileSize : wordAt (data.set index byte) 68 = wordAt data 68 :=
    agree.wordAt_eq (by decide) (by decide)
  rw [ParsedImage.ofData_of_placed change.place_set, fileSize, placed.fileSize]

/-- A wrong offset of the segment moves the code, unless it leaves the data. -/
theorem parse_of_offset (change : ByteChange data index byte) (placed : Image.Placed data code)
    (behind : 56 ≤ index) (before : index < 60) :
    wordAt (data.set index byte) 56 ≠ 84 ∧
      ParsedImage.parse (data.set index byte) =
        if (wordAt (data.set index byte) 56).toNat ≤ 84 then
          .ok (ParsedImage.ofData (data.set index byte))
        else
          .error (.segmentOutOfBounds (wordAt (data.set index byte) 56)
            (BitVec.ofNat 32 code.length)) := by
  have long := change.long
  have fileSize : BitVec.ofNat 32 code.length = wordAt data 68 := by
    rw [← placed.fileSize, BitVec.ofNat_toNat, BitVec.setWidth_eq]
  constructor
  · rw [← placed.offset]
    exact wordAt_set_ne change.present change.different (by omega) behind before
  · rw [change.parse_of_unfixed_unsized (outside_of_ranges (by omega)) (by omega),
      placed.fileSize, placed.length, fileSize]
    simp only [Nat.add_le_add_iff_right]

theorem parse_of_free (change : ByteChange data index byte) (placed : Image.Placed data code)
    (free : 7 ≤ index ∧ index < 16 ∨ 24 ≤ index ∧ index < 40 ∨ 46 ≤ index ∧ index < 52 ∨
      60 ≤ index ∧ index < 68 ∨ 76 ≤ index) :
    ParsedImage.parse (data.set index byte) =
        .ok (ParsedImage.ofData (data.set index byte)) ∧
      (ParsedImage.ofData (data.set index byte)).code =
        window (data.set index byte) 84 code.length := by
  have agree : AgreeOn (data.set index byte) data 56 60 := AgreeOn.set data byte (by omega)
  have offset : wordAt (data.set index byte) 56 = 84 :=
    (agree.wordAt_eq (Nat.le_refl _) (Nat.le_refl _)).trans placed.offset
  have unsized : index < 68 ∨ 76 ≤ index := by omega
  constructor
  · rw [change.parse_of_unfixed_unsized (outside_of_ranges (by omega)) unsized, offset,
      placed.fileSize, placed.length]
    exact if_pos (Nat.le_refl _)
  · rw [change.code_ofData placed unsized, offset]
    rfl

theorem window_code_before (placed : Image.Placed data code) (before : index < 84) :
    window (data.set index byte) 84 code.length = code := by
  have agree : AgreeOn (data.set index byte) data 84 (84 + code.length) :=
    AgreeOn.set data byte (Or.inl before)
  rw [agree.window_eq (Nat.le_refl _) (Nat.le_refl _), placed.payload]

theorem window_code_behind (change : ByteChange data index byte)
    (placed : Image.Placed data code) (behind : 84 ≤ index) :
    window (data.set index byte) 84 code.length = code.set (index - 84) byte ∧
      window (data.set index byte) 84 code.length ≠ code := by
  have present := change.present
  rw [placed.length] at present
  constructor
  · rw [window_set_of_le behind, placed.payload]
  · have differs : window (data.set index byte) 84 code.length ≠ window data 84 code.length :=
      (window_set_ne_iff change.present change.different).mpr ⟨behind, present⟩
    rwa [placed.payload] at differs

theorem headers_eq (change : ByteChange data index byte) (behind : 84 ≤ index) :
    (ParsedImage.ofData (data.set index byte)).header = (ParsedImage.ofData data).header ∧
      (ParsedImage.ofData (data.set index byte)).segment =
        (ParsedImage.ofData data).segment := by
  apply HeaderField.headers_eq_of_bytes
  intro field
  apply Decidable.byContradiction
  intro differs
  exact absurd ((change.field_ne_iff field).mp differs).before_code (Nat.not_lt.mpr behind)

end ByteChange

theorem FixedField.exists_of_ranges {index : Nat}
    (fixed : index < 7 ∨ 16 ≤ index ∧ index < 24 ∨ 40 ≤ index ∧ index < 46 ∨
      52 ≤ index ∧ index < 56) :
    ∃ field ∈ all, field.first ≤ index ∧ index < field.past := by
  have every : ∀ index < 56, (index < 7 ∨ 16 ≤ index ∧ index < 24 ∨ 40 ≤ index ∧ index < 46 ∨
      52 ≤ index ∧ index < 56) → ∃ field ∈ all, field.first ≤ index ∧ index < field.past := by
    decide
  exact every index (by omega) fixed

namespace ParsedImage

/-- What comes of a written image with one wrong byte: the rejection of the field it lies
in, or an image that differs in that one field or in that one byte of the code. -/
theorem parse_changed_byte (code : List UInt8) (entry loadAddress : Word) (index : Nat)
    (byte : UInt8) (fits : code.length ≤ Format.maximalCodeLength)
    (present : index < (Image.build code entry loadAddress).bytes.length)
    (different : (Image.build code entry loadAddress).bytes[index]? ≠ some byte)
    (elsewhere : index < 28 ∨ 32 ≤ index) :
    let data := (Image.build code entry loadAddress).bytes
    let changed := data.set index byte
    let intact := written code entry loadAddress
    parse data = .ok intact ∧
      (∀ field ∈ FixedField.all, field.first ≤ index → index < field.past →
        parse changed = .error (field.rejection (field.found changed))) ∧
      (index < 7 ∨ 16 ≤ index ∧ index < 24 ∨ 40 ≤ index ∧ index < 46 ∨ 52 ≤ index ∧ index < 56 →
        ∃ field ∈ FixedField.all, field.first ≤ index ∧ index < field.past) ∧
      (68 ≤ index → index < 76 →
        parse changed = .error (.sizeMismatch (wordAt changed 68) (wordAt changed 72))) ∧
      (56 ≤ index → index < 60 →
        wordAt changed 56 ≠ 84 ∧
        (84 < (wordAt changed 56).toNat →
          parse changed =
            .error (.segmentOutOfBounds (wordAt changed 56) (BitVec.ofNat 32 code.length))) ∧
        ((wordAt changed 56).toNat < 84 →
          ∃ image, parse changed = .ok image ∧
            image.code = window changed (wordAt changed 56).toNat code.length ∧
            ∀ field : HeaderField, field.bytes image ≠ field.bytes intact ↔ field = .offset)) ∧
      (7 ≤ index ∧ index < 16 ∨ 24 ≤ index ∧ index < 40 ∨ 46 ≤ index ∧ index < 52 ∨
          60 ≤ index ∧ index < 68 ∨ 76 ≤ index →
        ∃ image, parse changed = .ok image ∧
          (index < 84 → image.code = code ∧
            ∃ field : HeaderField, field.Covers index ∧
              ∀ other : HeaderField, other.bytes image ≠ other.bytes intact ↔ other = field) ∧
          (84 ≤ index → image.header = intact.header ∧ image.segment = intact.segment ∧
            image.code = code.set (index - 84) byte ∧ image.code ≠ code)) := by
  intro data changed intact
  have placed : Image.Placed data code := Image.placed_build fits entry loadAddress
  have read : ofData data = intact := Image.ofData_build fits entry loadAddress
  have change : ByteChange data index byte :=
    ⟨Image.wellFormed_build fits entry loadAddress, placed.place, present, different, elsewhere⟩
  have differs (field : HeaderField) :
      field.bytes (ofData changed) ≠ field.bytes intact ↔ field.Covers index := by
    rw [← read]
    exact change.field_ne_iff field
  refine ⟨Image.parse_build fits entry loadAddress, ?_, FixedField.exists_of_ranges, ?_, ?_, ?_⟩
  · intro field member behind before
    exact change.parse_of_fixed member behind before
  · intro behind before
    exact change.parse_of_size behind before
  · intro behind before
    obtain ⟨moved, outcome⟩ := change.parse_of_offset placed behind before
    have covers : HeaderField.offset.Covers index := ⟨behind, before⟩
    refine ⟨moved, ?_, ?_⟩
    · intro above
      rw [outcome, if_neg (Nat.not_le.mpr above)]
    · intro below
      rw [if_pos (Nat.le_of_lt below)] at outcome
      refine ⟨ofData changed, outcome, change.code_ofData placed (by omega), ?_⟩
      intro field
      rw [differs]
      exact ⟨HeaderField.covers_unique covers, fun same => same ▸ covers⟩
  · intro free
    obtain ⟨accepted, payload⟩ := change.parse_of_free placed free
    refine ⟨ofData changed, accepted, ?_, ?_⟩
    · intro before
      obtain ⟨field, covers⟩ := HeaderField.exists_covers before
      refine ⟨payload.trans (ByteChange.window_code_before placed before), field, covers, ?_⟩
      intro other
      rw [differs]
      exact ⟨HeaderField.covers_unique covers, fun same => same ▸ covers⟩
    · intro behind
      obtain ⟨header, segment⟩ := change.headers_eq behind
      rw [← read, payload]
      exact ⟨header, segment, change.window_code_behind placed behind⟩

/-- A machine of another kind, and an offset that moves the code into the headers. -/
theorem parse_changed_byte_machine_and_offset :
    let data := (Image.build [0x13, 0x05, 0xA0, 0x00] 0x100 0x200).bytes
    parse (data.set 18 0x3E) = .error (.unsupportedMachine 0x3E) ∧
      ∃ image, parse (data.set 56 50) = .ok image ∧ image.code = [0x00, 0x00, 0x01, 0x00] := by
  intro data
  have machine := parse_changed_byte [0x13, 0x05, 0xA0, 0x00] 0x100 0x200 18 0x3E (by decide)
    (by decide) (by decide) (by decide)
  have offset := parse_changed_byte [0x13, 0x05, 0xA0, 0x00] 0x100 0x200 56 50 (by decide)
    (by decide) (by decide) (by decide)
  have reported := machine.2.1 (.ofHalf 18 0xF3 .unsupportedMachine)
    (by simp [FixedField.all, FixedField.ofFileHeader]) (by decide) (by decide)
  obtain ⟨image, accepted, code, _⟩ := (offset.2.2.2.2.1 (by decide) (by decide)).2.2 (by decide)
  refine ⟨reported, image, accepted, ?_⟩
  rw [code]
  decide

end ParsedImage

end Rv32Image
