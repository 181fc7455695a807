/-
The texts that are addresses.
-/

import Mathlib.Data.List.DropRight
import Rv32Image.Proofs.Text.NumeralGrammar

namespace Rv32Image

/-- The text is `trimmed` with blanks around it, all of them. -/
structure Trimmed (text trimmed : List Char) : Prop where
  around : ∃ front back, text = front ++ trimmed ++ back ∧
    (∀ character ∈ front, isBlank character = true) ∧
    ∀ character ∈ back, isBlank character = true
  ends : ∀ nonempty : trimmed ≠ [],
    isBlank (trimmed.head nonempty) = false ∧ isBlank (trimmed.getLast nonempty) = false

theorem trimmed_trimBlanks (text : List Char) : Trimmed text (trimBlanks text) := by
  have behind : trimBlanks text = (text.dropWhile isBlank).rdropWhile isBlank := rfl
  constructor
  · refine ⟨text.takeWhile isBlank, (text.dropWhile isBlank).rtakeWhile isBlank, ?_, ?_, ?_⟩
    · rw [behind, List.append_assoc, List.rdropWhile_append_rtakeWhile,
        List.takeWhile_append_dropWhile]
    · intro character member
      exact List.mem_takeWhile_imp member
    · intro character member
      exact List.mem_rtakeWhile_imp member
  · rw [behind]
    intro nonempty
    -- What is left starts where the text without its first blanks starts.
    have front := List.rdropWhile_prefix isBlank (text.dropWhile isBlank)
    have whole : text.dropWhile isBlank ≠ [] := front.ne_nil nonempty
    constructor
    · rw [front.head nonempty]
      exact List.head_dropWhile_not isBlank whole
    · exact Bool.eq_false_iff.mpr (List.rdropWhile_last_not isBlank _ nonempty)

namespace Address

/-- The radix that a text selects and the characters behind its marker. -/
inductive Marked : List Char → Nat → List Char → Prop
  | hexadecimal {marker : Char} {rest : List Char} (isMarker : marker = 'x' ∨ marker = 'X') :
      Marked ('0' :: marker :: rest) 16 rest
  | decimal {characters : List Char}
      (noMarker : ∀ marker rest, characters = '0' :: marker :: rest →
        marker ≠ 'x' ∧ marker ≠ 'X') : Marked characters 10 characters

theorem marked_radixAndDigits (characters : List Char) :
    Marked characters (radixAndDigits characters).1 (radixAndDigits characters).2 := by
  unfold radixAndDigits
  split
  · exact .hexadecimal (Or.inl rfl)
  · exact .hexadecimal (Or.inr rfl)
  · rename_i noLower noUpper
    apply Marked.decimal
    rintro marker rest rfl
    exact ⟨fun same => noLower rest (same ▸ rfl), fun same => noUpper rest (same ▸ rfl)⟩

theorem Marked.radix_bounds {characters rest : List Char} {radix : Nat}
    (marked : Marked characters radix rest) : 0 < radix ∧ radix ≤ 16 := by
  cases marked with
  | hexadecimal isMarker => decide
  | decimal noMarker => decide

theorem parse_eq (text : String) :
    parse text =
      let trimmed := trimBlanks text.toList
      match numeral (radixAndDigits trimmed).1 (radixAndDigits trimmed).2 with
      | .ok value => .ok (BitVec.ofNat 32 value)
      | .error cause => .error ⟨String.ofList trimmed, cause⟩ := rfl

variable {radix : Nat}

theorem numeral_eq_ok_iff (bounds : 0 < radix ∧ radix ≤ 16) (characters : List Char)
    (value : Nat) :
    numeral radix characters = .ok value ↔
      Numeral.Written radix (characters.filter (· != '_')) value ∧ value < 2 ^ 32 :=
  Numeral.read_eq_ok_iff bounds.2 bounds.1 (by decide) _ value

theorem numeral_eq_error_iff (bounds : 0 < radix ∧ radix ≤ 16) (characters : List Char)
    (cause : NumeralError) :
    numeral radix characters = .error cause ↔
      Numeral.Refused radix (2 ^ 32) (characters.filter (· != '_')) cause :=
  Numeral.read_eq_error_iff bounds.2 (by decide) _ cause

/-- No value wraps on the way to a word. -/
theorem parse_value_iff (text : String) (value : Nat) :
    (∃ address, parse text = .ok address ∧ address.toNat = value) ↔
      let marked := radixAndDigits (trimBlanks text.toList)
      numeral marked.1 marked.2 = .ok value := by
  have bounds := (marked_radixAndDigits (trimBlanks text.toList)).radix_bounds
  rw [parse_eq]
  dsimp only
  cases read : numeral (radixAndDigits (trimBlanks text.toList)).1
      (radixAndDigits (trimBlanks text.toList)).2 with
  | ok found =>
      have below := ((numeral_eq_ok_iff bounds _ found).mp read).2
      have fits : (BitVec.ofNat 32 found).toNat = found := by
        rw [BitVec.toNat_ofNat, Nat.mod_eq_of_lt below]
      constructor
      · rintro ⟨address, accepted, rfl⟩
        rw [← Except.ok.inj accepted, fits]
      · intro same
        rw [← Except.ok.inj same]
        exact ⟨BitVec.ofNat 32 found, rfl, fits⟩
  | error cause =>
      constructor
      · rintro ⟨_, impossible, _⟩
        cases impossible
      · exact nofun

theorem parse_error_iff (text : String) (error : AddressError) :
    parse text = .error error ↔
      error.text = String.ofList (trimBlanks text.toList) ∧
        let marked := radixAndDigits (trimBlanks text.toList)
        numeral marked.1 marked.2 = .error error.cause := by
  obtain ⟨shown, cause⟩ := error
  rw [parse_eq]
  dsimp only
  cases numeral (radixAndDigits (trimBlanks text.toList)).1
      (radixAndDigits (trimBlanks text.toList)).2 with
  | ok found =>
      constructor
      · exact nofun
      · rintro ⟨_, impossible⟩
        cases impossible
  | error found =>
      rw [Except.error.injEq, AddressError.mk.injEq, Except.error.injEq, eq_comm (b := shown)]

/-- A text is an address exactly if it is a numeral in its radix below the limit, and is
otherwise refused for what is wrong with that numeral. -/
theorem parse_accepts_numerals (text : String) :
    ∃ trimmed radix rest, Trimmed text.toList trimmed ∧ Marked trimmed radix rest ∧
      let figures := rest.filter (· != '_')
      (∀ value, (∃ address, parse text = .ok address ∧ address.toNat = value) ↔
        Numeral.Written radix figures value ∧ value < 2 ^ 32) ∧
      (∀ error, parse text = .error error ↔
        error.text = String.ofList trimmed ∧
          Numeral.Refused radix (2 ^ 32) figures error.cause) ∧
      ((∃ error, parse text = .error error ∧ error.cause = .empty) ↔ figures = []) ∧
      (figures = ['+'] ∨ figures.head? = some '-' →
        ∃ error, parse text = .error error ∧ error.cause = .invalidDigit) := by
  have marked := marked_radixAndDigits (trimBlanks text.toList)
  have bounds := marked.radix_bounds
  have refused (error : AddressError) : parse text = .error error ↔
      error.text = String.ofList (trimBlanks text.toList) ∧
        Numeral.Refused (radixAndDigits (trimBlanks text.toList)).1 (2 ^ 32)
          ((radixAndDigits (trimBlanks text.toList)).2.filter (· != '_')) error.cause := by
    rw [parse_error_iff, numeral_eq_error_iff bounds]
  refine ⟨_, _, _, trimmed_trimBlanks text.toList, marked, ?_, refused, ?_, ?_⟩
  · intro value
    rw [parse_value_iff, numeral_eq_ok_iff bounds]
  · constructor
    · rintro ⟨error, reported, isEmpty⟩
      have cause := ((refused error).mp reported).2
      rw [isEmpty] at cause
      exact (Numeral.refused_empty_iff _).mp cause
    · intro nothing
      exact ⟨⟨String.ofList (trimBlanks text.toList), .empty⟩,
        (refused _).mpr ⟨rfl, (Numeral.refused_empty_iff _).mpr nothing⟩, rfl⟩
  · intro sign
    exact ⟨⟨String.ofList (trimBlanks text.toList), .invalidDigit⟩,
      (refused _).mpr ⟨rfl, Numeral.refused_of_sign bounds.2 sign⟩, rfl⟩

/-- The largest address with a sign and leading zeros, and the least number above it. -/
example :
    parse "\u2003 0X+0_00_fFFF_ffff_\n" = .ok 0xFFFFFFFF ∧
      parse " 4_294_967_296x" = .error ⟨"4_294_967_296x", .tooLarge⟩ := by
  decide

end Address

end Rv32Image
