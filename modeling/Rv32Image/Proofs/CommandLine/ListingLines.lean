/-
The lines of a listing one by one, each found by its index alone.
-/

import Rv32Image.Proofs.CommandLine.ListingText
import Rv32Image.Proofs.Image.RoundTrip
import Rv32Image.Proofs.Text.Digits

namespace Rv32Image

namespace Listing

/-! ### Lines of code -/

theorem codeLines_of_ne_nil (address : Word) {code : List UInt8} (nonempty : code ≠ []) :
    codeLines address code =
      codeLine address (window code 0 4) :: codeLines (address + 4) (code.drop 4) := by
  match code with
  | [] => exact absurd rfl nonempty
  | [_] | [_, _] | [_, _, _] | _ :: _ :: _ :: _ :: _ => rfl

theorem getElem?_codeLines (address : Word) (code : List UInt8) (index : Nat) :
    (codeLines address code)[index]? =
      if 4 * index < code.length then
        some (codeLine (address + BitVec.ofNat 32 (4 * index)) (window code (4 * index) 4))
      else none := by
  induction index generalizing address code with
  | zero =>
      by_cases empty : code = []
      · rw [empty]
        rfl
      · rw [codeLines_of_ne_nil address empty, List.getElem?_cons_zero,
          if_pos (List.length_pos_iff.mpr empty), Nat.mul_zero, BitVec.add_zero]
  | succ index ih =>
      by_cases empty : code = []
      · rw [empty]
        rfl
      · have inside : 4 * index < (code.drop 4).length ↔ 4 * (index + 1) < code.length := by
          rw [List.length_drop]
          omega
        have place : address + 4 + BitVec.ofNat 32 (4 * index) =
            address + BitVec.ofNat 32 (4 * (index + 1)) := by
          rw [Nat.mul_succ, Nat.add_comm, BitVec.ofNat_add, BitVec.add_assoc]
          rfl
        have bytes : window (code.drop 4) (4 * index) 4 = window code (4 * (index + 1)) 4 := by
          rw [window, window, List.drop_drop, Nat.mul_succ, Nat.add_comm]
        rw [codeLines_of_ne_nil address empty, List.getElem?_cons_succ, ih, place, bytes]
        simp only [inside]

theorem length_codeLines (address : Word) (code : List UInt8) :
    (codeLines address code).length = (code.length + 3) / 4 := by
  have covered (index : Nat) :
      (codeLines address code).length ≤ index ↔ code.length ≤ 4 * index := by
    rw [← List.getElem?_eq_none_iff, getElem?_codeLines, ← Nat.not_lt]
    simp only [ite_eq_right_iff, reduceCtorEq, imp_false]
  have enough := (covered ((code.length + 3) / 4)).mpr (by omega)
  have needed := (covered (codeLines address code).length).mp (Nat.le_refl _)
  omega

/-- The two digits of each byte, with blanks between them. -/
def ShowsBytes (bytes : List UInt8) (text : List Char) : Prop :=
  ∃ numbers, List.Forall₂ (fun byte digits => Hexadecimal.Shows 2 byte.toNat digits) bytes numbers ∧
    text = [' '].intercalate numbers

theorem showsBytes_chunkText {chunk : List UInt8} (rest : chunk.length ≠ 4) :
    ShowsBytes chunk (chunkText chunk).toList := by
  refine ⟨_, ?_, toList_chunkText_of_rest rest⟩
  rw [List.forall₂_map_right_iff, List.forall₂_same]
  intro byte _
  exact Hexadecimal.shows_fixedDigits byte.toNat_lt

theorem shows_address (address : Word) (index : Nat) :
    Hexadecimal.Shows 8 ((address.toNat + 4 * index) % 2 ^ 32)
      (Hexadecimal.fixedDigits 8 (address + BitVec.ofNat 32 (4 * index)).toNat) := by
  have place : (address + BitVec.ofNat 32 (4 * index)).toNat =
      (address.toNat + 4 * index) % 2 ^ 32 := by
    rw [BitVec.toNat_add, BitVec.toNat_ofNat, Nat.add_mod_mod]
  rw [← place]
  exact Hexadecimal.shows_fixedDigits (BitVec.isLt _)

theorem codeLines_shows (address : Word) {code : List UInt8} {index : Nat}
    (present : 4 * index < code.length) :
    ∃ digits contents,
      ((codeLines address code).map String.toList)[index]? =
          some ("  ".toList ++ digits ++ ":  ".toList ++ contents) ∧
        Hexadecimal.Shows 8 ((address.toNat + 4 * index) % 2 ^ 32) digits ∧
        (4 * index + 4 ≤ code.length →
          Hexadecimal.Shows 8 (wordAt code (4 * index)).toNat contents) ∧
        (code.length < 4 * index + 4 → ShowsBytes (code.drop (4 * index)) contents) := by
  refine ⟨_, (chunkText (window code (4 * index) 4)).toList, ?_, shows_address address index,
    ?_, ?_⟩
  · rw [List.getElem?_map, getElem?_codeLines, if_pos present, Option.map_some, toList_codeLine]
  · intro whole
    rw [toList_chunkText_of_four (length_window whole)]
    exact Hexadecimal.shows_fixedDigits (BitVec.isLt _)
  · intro short
    have fewer : (code.drop (4 * index)).length ≠ 4 := by
      rw [List.length_drop]
      omega
    rw [window_eq_drop (by omega)]
    exact showsBytes_chunkText fewer

/-! ### What a listing determines -/

def withUnlistedOf (header other : FileHeader) : FileHeader where
  __ := header
  identification := other.identification
  sectionHeaderOffset := other.sectionHeaderOffset
  sectionNameIndex := other.sectionNameIndex

/-- The images differ at most in the fields of the file header that are not listed. -/
structure SameListed (image other : ParsedImage) : Prop where
  header : image.header = withUnlistedOf other.header image.header
  segment : image.segment = other.segment
  code : image.code = other.code

theorem append_separator_inj {separator : Char} {front other : List Char}
    (absent : separator ∉ front) (otherAbsent : separator ∉ other) (rest otherRest : List Char) :
    front ++ separator :: rest = other ++ separator :: otherRest ↔
      front = other ∧ rest = otherRest := by
  constructor
  · intro same
    have cut := congrArg (List.splitOn separator) same
    rw [List.splitOn_append_cons_self_of_not_mem absent,
      List.splitOn_append_cons_self_of_not_mem otherAbsent] at cut
    obtain ⟨rfl, _⟩ := List.cons.inj cut
    exact ⟨rfl, (List.cons.inj (List.append_cancel_left same)).2⟩
  · rintro ⟨rfl, rfl⟩
    rfl

theorem number_append_inj {number other : Nat} {label : String}
    (blank : label.toList.head? = some ' ') (rest otherRest : String) :
    toString number ++ (label ++ rest) = toString other ++ (label ++ otherRest) ↔
      number = other ∧ rest = otherRest := by
  obtain ⟨letters, blank⟩ := List.head?_eq_some_iff.mp blank
  have noBlank (number : Nat) : ' ' ∉ (toString number).toList :=
    not_mem_toString (by decide) number
  rw [← String.toList_inj, String.toList_append, String.toList_append, String.toList_append,
    String.toList_append, blank, List.cons_append, List.cons_append,
    append_separator_inj (noBlank number) (noBlank other), List.append_cancel_left_eq,
    String.toList_inj, String.toList_inj, Numeral.toString_inj]

theorem fieldLines_fields_inj {image other : ParsedImage} :
    fieldLines (fields image) = fieldLines (fields other) ↔
      image.header = withUnlistedOf other.header image.header ∧
        image.segment = other.segment := by
  obtain ⟨header, segment, code⟩ := image
  obtain ⟨header', segment', code'⟩ := other
  cases header
  cases header'
  cases segment
  cases segment'
  have small (word : Word) : word.toNat < 16 ^ 8 := word.isLt
  simp (disch := decide) only [fieldLines, fields, withUnlistedOf, List.map_cons, List.map_nil,
    List.cons.injEq, String.append_assoc, String.append_right_inj, number_append_inj,
    Numeral.toString_inj, Hexadecimal.minimal_inj, Hexadecimal.fixed_inj (small _) (small _),
    BitVec.toNat_inj, FileHeader.mk.injEq, ProgramHeader.mk.injEq, true_and, and_true, and_assoc]

theorem length_fieldLines (image : ParsedImage) :
    (fieldLines (fields image)).length = labels.length := by
  rw [fieldLines, List.length_map, ← List.length_map, labels_of_fields]

theorem lines_of_sameListed {image other : ParsedImage} (same : SameListed image other) :
    lines image = lines other := by
  have address : image.loadAddress = other.loadAddress :=
    congrArg ProgramHeader.virtualAddress same.segment
  rw [lines_eq, lines_eq, fieldLines_fields_inj.mpr ⟨same.header, same.segment⟩, address, same.code]

theorem joinLines_lines_inj {image other : ParsedImage} :
    Outcome.joinLines (lines image) = Outcome.joinLines (lines other) ↔
      SameListed image other := by
  constructor
  · intro same
    have recovered := recover_lines image
    rw [same, recover_lines other, Option.some.injEq] at recovered
    have split := congrArg linesOf same
    rw [linesOf_joinLines (oneLine_lines image), linesOf_joinLines (oneLine_lines other),
      List.map_inj_right fun _ _ => String.toList_inj.mp, lines_eq, lines_eq] at split
    have sameCount := (length_fieldLines image).trans (length_fieldLines other).symm
    have listed := fieldLines_fields_inj.mp (List.append_inj_left split sameCount)
    exact ⟨listed.1, listed.2, (congrArg Recovered.code recovered).symm⟩
  · intro same
    rw [lines_of_sameListed same]

/-! ### Every byte of an accepted image -/

/-- The printed text of an accepted image has one line for four bytes of its code, in
order, and another image has the same text exactly if it agrees in all that is listed. -/
theorem every_byte_listed_once (data : List UInt8) (image : ParsedImage)
    (accepted : ParsedImage.parse data = .ok image) :
    let text := Outcome.joinLines (lines image)
    let shown := codeSection (linesOf text)
    shown.length = (image.code.length + 3) / 4 ∧
    (∀ index < shown.length,
      index * 4 < 2 ^ 32 ∧
      ∃ address contents,
        shown[index]? = some ("  ".toList ++ address ++ ":  ".toList ++ contents) ∧
        Hexadecimal.Shows 8 ((image.loadAddress.toNat + 4 * index) % 2 ^ 32) address ∧
        (4 * index + 4 ≤ image.code.length →
          Hexadecimal.Shows 8 (wordAt image.code (4 * index)).toNat contents) ∧
        (image.code.length < 4 * index + 4 →
          index + 1 = shown.length ∧ image.code.length % 4 ≠ 0 ∧
          1 ≤ (image.code.drop (4 * index)).length ∧ (image.code.drop (4 * index)).length ≤ 3 ∧
          ShowsBytes (image.code.drop (4 * index)) contents)) ∧
    codeOfLines? shown = some image.code ∧
    ∀ other, text = Outcome.joinLines (lines other) ↔ SameListed image other := by
  intro text shown
  have isShown : shown = (codeLines image.loadAddress image.code).map String.toList :=
    codeSection_lines image
  have length : shown.length = (image.code.length + 3) / 4 := by
    rw [isShown, List.length_map, length_codeLines]
  have bounded : image.code.length < 2 ^ 32 := by
    obtain ⟨formed, rfl⟩ := (ParsedImage.parse_eq_ok_iff data image).mp accepted
    rw [ParsedImage.length_code_ofData formed]
    exact BitVec.isLt _
  refine ⟨length, ?_, ?_, fun _ => joinLines_lines_inj⟩
  · intro index inside
    rw [length] at inside ⊢
    have present : 4 * index < image.code.length := by omega
    obtain ⟨address, contents, line, atPlace, whole, rest⟩ :=
      codeLines_shows image.loadAddress present
    rw [← isShown] at line
    refine ⟨by omega, address, contents, line, atPlace, whole, ?_⟩
    intro short
    rw [List.length_drop]
    exact ⟨by omega, by omega, by omega, by omega, rest short⟩
  · rw [isShown]
    exact codeOfLines_codeLines image.loadAddress image.code

/-- A rest byte at the end of the address space is shown at address zero. -/
theorem every_byte_listed_once_wrapped :
    let code := [0x13, 0x05, 0xA0, 0x00, 0x73]
    let image := ParsedImage.written code 0x80000004 0xFFFFFFFC
    let shown := codeSection (linesOf (Outcome.joinLines (lines image)))
    ParsedImage.parse (Image.build code 0x80000004 0xFFFFFFFC).bytes = .ok image ∧
      shown.length = 2 ∧ codeOfLines? shown = some code ∧
      ∃ address contents,
        shown[1]? = some ("  ".toList ++ address ++ ":  ".toList ++ contents) ∧
        Hexadecimal.Shows 8 0 address ∧ ShowsBytes [0x73] contents := by
  intro code image shown
  have accepted : ParsedImage.parse (Image.build code 0x80000004 0xFFFFFFFC).bytes = .ok image :=
    Image.parse_build (by decide) 0x80000004 0xFFFFFFFC
  have place : (image.loadAddress.toNat + 4 * 1) % 2 ^ 32 = 0 := by decide
  obtain ⟨length, eachLine, back, _⟩ := every_byte_listed_once _ image accepted
  have two : shown.length = 2 := length.trans (by decide)
  obtain ⟨_, address, contents, line, atPlace, _, rest⟩ := eachLine 1 (by rw [length]; decide)
  obtain ⟨_, _, _, _, shows⟩ := rest (by decide)
  rw [place] at atPlace
  exact ⟨accepted, two, back, address, contents, line, atPlace, shows⟩

end Listing

end Rv32Image
