/-
The grammar of numerals, and what is wrong with texts that are none.
-/

import Mathlib.Data.List.Forall2
import Mathlib.Data.List.Induction
import Mathlib.Data.Nat.Digits.Defs
import Rv32Image.Proofs.Text.Hexadecimal

namespace Rv32Image

namespace Numeral

/-! ### Digits -/

def lowerDigits : List Char := "0123456789abcdef".toList

def upperDigits : List Char := "0123456789ABCDEF".toList

/-- The character is the digit of a value below the radix, in either case. -/
def DigitOf (radix : Nat) (character : Char) (value : Nat) : Prop :=
  value < radix ∧ (lowerDigits[value]? = some character ∨ upperDigits[value]? = some character)

theorem digitValue?_eq_filter {radix : Nat} (small : radix ≤ 16) (character : Char) :
    digitValue? radix character = (digitValue? 16 character).filter (· < radix) := by
  have narrower (value : Nat) :
      (decide (value < 16) && decide (value < radix)) = decide (value < radix) := by
    rw [← Bool.decide_and, decide_eq_decide]
    omega
  simp only [digitValue?, Option.filter_filter, narrower]

theorem digitOf_of_digitValue? {character : Char} {value : Nat}
    (isDigit : digitValue? 16 character = some value) : DigitOf 16 character value := by
  have figures : ∀ value < 10, lowerDigits[value]? = some (Char.ofNat (value + 48)) := by decide
  have capitals : ∀ value < 16, 10 ≤ value →
      upperDigits[value]? = some (Char.ofNat (value + 55)) := by decide
  have letters : ∀ value < 16, 10 ≤ value →
      lowerDigits[value]? = some (Char.ofNat (value + 87)) := by decide
  obtain ⟨ranges, below⟩ := Option.filter_eq_some_iff.mp isDigit
  have small : value < 16 := of_decide_eq_true below
  have self : character = Char.ofNat character.toNat := (Char.ofNat_toNat character).symm
  refine ⟨small, ?_⟩
  rw [self]
  split at ranges
  · have code : character.toNat = value + 48 := by
      have inRange := Option.some.inj ranges
      omega
    rw [code]
    exact Or.inl (figures value (by omega))
  · split at ranges
    · have code : character.toNat = value + 55 := by
        have inRange := Option.some.inj ranges
        omega
      rw [code]
      exact Or.inr (capitals value small (by omega))
    · split at ranges
      · have code : character.toNat = value + 87 := by
          have inRange := Option.some.inj ranges
          omega
        rw [code]
        exact Or.inl (letters value small (by omega))
      · cases ranges

theorem digitValue?_of_digitOf {character : Char} {value : Nat}
    (digit : DigitOf 16 character value) : digitValue? 16 character = some value := by
  have lowers : ∀ value < 16, lowerDigits[value]?.bind (digitValue? 16) = some value := by decide
  have uppers : ∀ value < 16, upperDigits[value]?.bind (digitValue? 16) = some value := by decide
  obtain ⟨small, lower | upper⟩ := digit
  · have read := lowers value small
    rw [lower] at read
    exact read
  · have read := uppers value small
    rw [upper] at read
    exact read

theorem digitValue?_eq_some_iff {radix : Nat} (small : radix ≤ 16) (character : Char)
    (value : Nat) :
    digitValue? radix character = some value ↔ DigitOf radix character value := by
  rw [digitValue?_eq_filter small, Option.filter_eq_some_iff, decide_eq_true_eq]
  constructor
  · rintro ⟨isDigit, below⟩
    exact ⟨below, (digitOf_of_digitValue? isDigit).2⟩
  · rintro ⟨below, sign⟩
    exact ⟨digitValue?_of_digitOf ⟨Nat.lt_of_lt_of_le below small, sign⟩, below⟩

theorem digitOf_unique {radix : Nat} (small : radix ≤ 16) {character : Char} {value other : Nat}
    (digit : DigitOf radix character value) (again : DigitOf radix character other) :
    value = other := by
  rw [← digitValue?_eq_some_iff small] at digit again
  exact Option.some.inj (digit.symm.trans again)

theorem not_digitOf_of_none {radix : Nat} (small : radix ≤ 16) {character : Char}
    (unread : digitValue? radix character = none) (value : Nat) :
    ¬DigitOf radix character value := by
  rw [← digitValue?_eq_some_iff small, unread]
  exact nofun

/-! ### Values of digits -/

/-- The positional value of digits, of which the last counts the ones. -/
def Denotes (radix : Nat) (characters : List Char) (value : Nat) : Prop :=
  ∃ digits, List.Forall₂ (DigitOf radix) characters.reverse digits ∧
    Nat.ofDigits radix digits = value

variable {radix limit : Nat}

theorem denotes_nil_iff (value : Nat) : Denotes radix [] value ↔ value = 0 := by
  constructor
  · rintro ⟨digits, read, rfl⟩
    rw [List.reverse_nil, List.forall₂_nil_left_iff] at read
    rw [read, Nat.ofDigits_nil]
  · rintro rfl
    exact ⟨[], List.Forall₂.nil, Nat.ofDigits_nil⟩

theorem denotes_concat_iff (front : List Char) (character : Char) (value : Nat) :
    Denotes radix (front ++ [character]) value ↔
      ∃ higher digit, Denotes radix front higher ∧ DigitOf radix character digit ∧
        higher * radix + digit = value := by
  have last : (front ++ [character]).reverse = character :: front.reverse :=
    List.reverse_concat
  constructor
  · rintro ⟨digits, read, rfl⟩
    rw [last, List.forall₂_cons_left_iff] at read
    obtain ⟨digit, higherDigits, isDigit, rest, rfl⟩ := read
    refine ⟨Nat.ofDigits radix higherDigits, digit, ⟨higherDigits, rest, rfl⟩, isDigit, ?_⟩
    rw [Nat.ofDigits_cons, Nat.mul_comm, Nat.add_comm]
  · rintro ⟨higher, digit, ⟨higherDigits, rest, rfl⟩, isDigit, rfl⟩
    refine ⟨digit :: higherDigits, ?_, ?_⟩
    · rw [last]
      exact List.Forall₂.cons isDigit rest
    · rw [Nat.ofDigits_cons, Nat.mul_comm, Nat.add_comm]

theorem denotes_unique (small : radix ≤ 16) {characters : List Char} {value other : Nat}
    (denotes : Denotes radix characters value) (again : Denotes radix characters other) :
    value = other := by
  induction characters using List.reverseRecOn generalizing value other with
  | nil => rw [(denotes_nil_iff value).mp denotes, (denotes_nil_iff other).mp again]
  | append_singleton front character ih =>
      obtain ⟨higher, digit, ofFront, isDigit, rfl⟩ :=
        (denotes_concat_iff front character value).mp denotes
      obtain ⟨higher', digit', ofFront', isDigit', rfl⟩ :=
        (denotes_concat_iff front character other).mp again
      rw [ih ofFront ofFront', digitOf_unique small isDigit isDigit']

/-- A front of digits has a value too, and not a larger one. -/
theorem denotes_front (positive : 0 < radix) {front rest : List Char} {value : Nat}
    (denotes : Denotes radix (front ++ rest) value) :
    ∃ higher, Denotes radix front higher ∧ higher ≤ value := by
  induction rest using List.reverseRecOn generalizing value with
  | nil =>
      rw [List.append_nil] at denotes
      exact ⟨value, denotes, Nat.le_refl value⟩
  | append_singleton between character ih =>
      rw [← List.append_assoc] at denotes
      obtain ⟨middle, digit, ofFront, _, rfl⟩ :=
        (denotes_concat_iff (front ++ between) character value).mp denotes
      obtain ⟨higher, denoted, below⟩ := ih ofFront
      have grows : middle ≤ middle * radix := Nat.le_mul_of_pos_right middle positive
      exact ⟨higher, denoted, by omega⟩

theorem digitOf_of_denotes_cons (positive : 0 < radix) {first : Char} {rest : List Char}
    {value : Nat} (denotes : Denotes radix (first :: rest) value) :
    ∃ digit, DigitOf radix first digit := by
  rw [← List.singleton_append] at denotes
  obtain ⟨_, single, _⟩ := denotes_front positive denotes
  obtain ⟨_, digit, _, isDigit, _⟩ := (denotes_concat_iff [] first _).mp single
  exact ⟨digit, isDigit⟩

/-! ### The first fault -/

/-- The character is no digit itself, or the value up to and with it is not below the limit. -/
inductive Fault (radix limit : Nat) (before : List Char) (character : Char) :
    NumeralError → Prop
  | noDigit (unread : ∀ digit, ¬DigitOf radix character digit) :
      Fault radix limit before character .invalidDigit
  | beyond {value : Nat} (denotes : Denotes radix (before ++ [character]) value)
      (large : limit ≤ value) : Fault radix limit before character .tooLarge

def Faultless (radix limit : Nat) (characters : List Char) : Prop :=
  ∀ before character after kind, characters = before ++ character :: after →
    ¬Fault radix limit before character kind

def FirstFault (radix limit : Nat) (characters : List Char) (kind : NumeralError) : Prop :=
  ∃ before character after, characters = before ++ character :: after ∧
    Fault radix limit before character kind ∧ Faultless radix limit before

theorem faultless_concat {front : List Char} {character : Char}
    (ofFront : Faultless radix limit front)
    (atLast : ∀ kind, ¬Fault radix limit front character kind) :
    Faultless radix limit (front ++ [character]) := by
  intro before other after kind split
  rcases List.eq_nil_or_concat' after with rfl | ⟨between, last, rfl⟩
  · obtain ⟨rfl, same⟩ := List.append_inj' split rfl
    cases same
    exact atLast kind
  · rw [← List.cons_append, ← List.append_assoc] at split
    obtain ⟨rfl, _⟩ := List.append_inj' split rfl
    exact ofFront before other between kind rfl

theorem faultless_nil : Faultless radix limit [] := by
  intro before character after kind split
  exact absurd split.symm (List.append_ne_nil_of_right_ne_nil _ (List.cons_ne_nil _ _))

theorem firstFault_append {characters : List Char} {kind : NumeralError}
    (first : FirstFault radix limit characters kind) (rest : List Char) :
    FirstFault radix limit (characters ++ rest) kind := by
  obtain ⟨before, character, after, rfl, fault, faultless⟩ := first
  exact ⟨before, character, after ++ rest, by rw [List.append_assoc, List.cons_append], fault,
    faultless⟩

/-! ### Reading digits -/

theorem readDigits_cons_of_none {value : Nat} {character : Char} (rest : List Char)
    (unread : digitValue? radix character = none) :
    readDigits radix limit value (character :: rest) = .error .invalidDigit := by
  rw [readDigits, unread]

theorem readDigits_cons_of_some {value digit : Nat} {character : Char} (rest : List Char)
    (isDigit : digitValue? radix character = some digit) :
    readDigits radix limit value (character :: rest) =
      if value * radix + digit < limit then
        readDigits radix limit (value * radix + digit) rest
      else
        .error .tooLarge := by
  rw [readDigits, isDigit]

/-- Reading ends with the value of all digits, below the limit and without a fault before,
or at the first fault. -/
theorem readDigits_outcome (small : radix ≤ 16) (positive : 0 < limit) (characters : List Char) :
    (∃ value, readDigits radix limit 0 characters = .ok value ∧
        Denotes radix characters value ∧ value < limit ∧ Faultless radix limit characters) ∨
      ∃ kind, readDigits radix limit 0 characters = .error kind ∧
        FirstFault radix limit characters kind := by
  induction characters using List.reverseRecOn with
  | nil =>
      exact Or.inl ⟨0, rfl, (denotes_nil_iff 0).mpr rfl, positive, faultless_nil⟩
  | append_singleton front character ih =>
      rw [readDigits_append]
      rcases ih with ⟨value, read, denotes, below, faultless⟩ | ⟨kind, read, first⟩
      · rw [read]
        change (∃ total, readDigits radix limit value [character] = .ok total ∧ _) ∨
          ∃ kind, readDigits radix limit value [character] = .error kind ∧ _
        cases isDigit : digitValue? radix character with
        | none =>
            have fault : Fault radix limit front character .invalidDigit :=
              .noDigit (not_digitOf_of_none small isDigit)
            exact Or.inr ⟨.invalidDigit, readDigits_cons_of_none [] isDigit,
              front, character, [], rfl, fault, faultless⟩
        | some digit =>
            have digitOf := (digitValue?_eq_some_iff small character digit).mp isDigit
            have whole : Denotes radix (front ++ [character]) (value * radix + digit) :=
              (denotes_concat_iff front character _).mpr ⟨value, digit, denotes, digitOf, rfl⟩
            rw [readDigits_cons_of_some [] isDigit]
            by_cases fits : value * radix + digit < limit
            · refine Or.inl ⟨value * radix + digit, if_pos fits, whole, fits, ?_⟩
              apply faultless_concat faultless
              intro kind fault
              cases fault with
              | noDigit unread => exact unread digit digitOf
              | beyond again large =>
                  rw [denotes_unique small again whole] at large
                  exact absurd fits (Nat.not_lt.mpr large)
            · exact Or.inr ⟨.tooLarge, if_neg fits, front, character, [], rfl,
                .beyond whole (Nat.le_of_not_lt fits), faultless⟩
      · rw [read]
        exact Or.inr ⟨kind, rfl, firstFault_append first [character]⟩

theorem readDigits_of_firstFault (small : radix ≤ 16) (positive : 0 < limit)
    {characters : List Char} {kind : NumeralError}
    (first : FirstFault radix limit characters kind) :
    readDigits radix limit 0 characters = .error kind := by
  obtain ⟨before, character, after, rfl, fault, faultless⟩ := first
  rcases readDigits_outcome small positive before with
    ⟨value, read, denotes, _, _⟩ | ⟨_, _, inside, other, rest, split, earlier, _⟩
  · rw [readDigits_append, read]
    change readDigits radix limit value (character :: after) = .error kind
    cases fault with
    | noDigit unread =>
        cases isDigit : digitValue? radix character with
        | none => exact readDigits_cons_of_none after isDigit
        | some digit =>
            exact absurd ((digitValue?_eq_some_iff small character digit).mp isDigit)
              (unread digit)
    | beyond whole large =>
        obtain ⟨higher, digit, ofBefore, isDigit, rfl⟩ :=
          (denotes_concat_iff before character _).mp whole
        rw [denotes_unique small ofBefore denotes] at large
        rw [readDigits_cons_of_some after
          ((digitValue?_eq_some_iff small character digit).mpr isDigit)]
        exact if_neg (Nat.not_lt.mpr large)
  · exact absurd earlier (faultless inside other rest _ split)

theorem readDigits_eq_error_iff (small : radix ≤ 16) (positive : 0 < limit)
    (characters : List Char) (kind : NumeralError) :
    readDigits radix limit 0 characters = .error kind ↔
      FirstFault radix limit characters kind := by
  constructor
  · intro refused
    rcases readDigits_outcome small positive characters with ⟨_, read, _⟩ | ⟨_, read, first⟩
    · cases read.symm.trans refused
    · cases read.symm.trans refused
      exact first
  · exact readDigits_of_firstFault small positive

theorem readDigits_eq_ok_iff (small : radix ≤ 16) (positive : 0 < radix) (room : 0 < limit)
    (characters : List Char) (value : Nat) :
    readDigits radix limit 0 characters = .ok value ↔
      Denotes radix characters value ∧ value < limit := by
  constructor
  · intro accepted
    rcases readDigits_outcome small room characters with
      ⟨_, read, denotes, below, _⟩ | ⟨_, read, _⟩
    · cases read.symm.trans accepted
      exact ⟨denotes, below⟩
    · cases read.symm.trans accepted
  · rintro ⟨denotes, below⟩
    rcases readDigits_outcome small room characters with
      ⟨_, read, again, _, _⟩ | ⟨kind, _, before, character, after, rfl, fault, _⟩
    · rw [read, denotes_unique small again denotes]
    · -- A fault would be one of digits whose value is no larger than that of all.
      rw [List.append_cons] at denotes
      obtain ⟨part, ofPart, bound⟩ := denotes_front positive denotes
      cases fault with
      | noDigit unread =>
          obtain ⟨_, digit, _, isDigit, _⟩ := (denotes_concat_iff before character part).mp ofPart
          exact absurd isDigit (unread digit)
      | beyond whole large =>
          rw [denotes_unique small whole ofPart] at large
          omega

/-! ### Whole numerals -/

/-- An optional plus sign, and one or more digits of some value. -/
def Written (radix : Nat) (text : List Char) (value : Nat) : Prop :=
  ∃ sign digits, text = sign ++ digits ∧ (sign = [] ∨ sign = ['+']) ∧ digits ≠ [] ∧
    Denotes radix digits value

/-- Why a text is no numeral below the limit. -/
inductive Refused (radix limit : Nat) : List Char → NumeralError → Prop
  | empty : Refused radix limit [] .empty
  | sign : Refused radix limit ['+'] .invalidDigit
  | signed {digits : List Char} {kind : NumeralError}
      (first : FirstFault radix limit digits kind) : Refused radix limit ('+' :: digits) kind
  | unsigned {digits : List Char} {kind : NumeralError} (noSign : digits.head? ≠ some '+')
      (first : FirstFault radix limit digits kind) : Refused radix limit digits kind

theorem not_firstFault_nil (kind : NumeralError) : ¬FirstFault radix limit [] kind := by
  rintro ⟨before, character, after, split, _⟩
  exact absurd split.symm (List.append_ne_nil_of_right_ne_nil _ (List.cons_ne_nil _ _))

theorem refused_empty_iff (text : List Char) : Refused radix limit text .empty ↔ text = [] := by
  constructor
  · intro refused
    cases refused with
    | empty => rfl
    | signed first =>
        obtain ⟨_, _, _, _, fault, _⟩ := first
        cases fault
    | unsigned noSign first =>
        obtain ⟨_, _, _, _, fault, _⟩ := first
        cases fault
  · rintro rfl
    exact .empty

theorem refused_of_sign (small : radix ≤ 16) {text : List Char}
    (sign : text = ['+'] ∨ text.head? = some '-') : Refused radix limit text .invalidDigit := by
  rcases sign with rfl | minus
  · exact .sign
  · obtain ⟨rest, rfl⟩ := List.head?_eq_some_iff.mp minus
    have noDigit : ∀ digit, ¬DigitOf radix '-' digit := not_digitOf_of_none small rfl
    have noPlus : ('-' :: rest).head? ≠ some '+' := by simp
    exact .unsigned noPlus ⟨[], '-', rest, rfl, .noDigit noDigit, faultless_nil⟩

theorem not_digitOf_plus (small : radix ≤ 16) (digit : Nat) : ¬DigitOf radix '+' digit :=
  not_digitOf_of_none small rfl digit

theorem read_plus {digits : List Char} (nonempty : digits ≠ []) :
    read radix limit ('+' :: digits) = readDigits radix limit 0 digits := by
  cases digits with
  | nil => exact absurd rfl nonempty
  | cons first rest => rfl

theorem written_plus_iff (small : radix ≤ 16) (positive : 0 < radix) (digits : List Char)
    (value : Nat) :
    Written radix ('+' :: digits) value ↔ digits ≠ [] ∧ Denotes radix digits value := by
  constructor
  · rintro ⟨sign, unsigned, split, rfl | rfl, nonempty, denotes⟩
    · rw [← split.trans (List.nil_append _)] at denotes
      obtain ⟨digit, isDigit⟩ := digitOf_of_denotes_cons positive denotes
      exact absurd isDigit (not_digitOf_plus small digit)
    · cases split
      exact ⟨nonempty, denotes⟩
  · rintro ⟨nonempty, denotes⟩
    exact ⟨['+'], digits, rfl, Or.inr rfl, nonempty, denotes⟩

theorem written_unsigned_iff {text : List Char} (noSign : text.head? ≠ some '+') (value : Nat) :
    Written radix text value ↔ text ≠ [] ∧ Denotes radix text value := by
  constructor
  · rintro ⟨sign, digits, rfl, rfl | rfl, nonempty, denotes⟩
    · exact ⟨nonempty, denotes⟩
    · exact absurd rfl noSign
  · rintro ⟨nonempty, denotes⟩
    exact ⟨[], text, rfl, Or.inl rfl, nonempty, denotes⟩

theorem read_eq_ok_iff (small : radix ≤ 16) (positive : 0 < radix) (room : 0 < limit)
    (text : List Char) (value : Nat) :
    read radix limit text = .ok value ↔ Written radix text value ∧ value < limit := by
  cases text with
  | nil =>
      have noSign : ([] : List Char).head? ≠ some '+' := nofun
      rw [written_unsigned_iff noSign]
      constructor
      · exact nofun
      · rintro ⟨⟨nonempty, _⟩, _⟩
        exact absurd rfl nonempty
  | cons first rest =>
      by_cases plus : first = '+'
      · rw [plus, written_plus_iff small positive]
        by_cases nonempty : rest = []
        · rw [nonempty]
          constructor
          · exact nofun
          · rintro ⟨⟨impossible, _⟩, _⟩
            exact absurd rfl impossible
        · rw [read_plus nonempty, readDigits_eq_ok_iff small positive room, and_iff_right nonempty]
      · have noSign : (first :: rest).head? ≠ some '+' := fun same => plus (Option.some.inj same)
        rw [read_of_unsigned radix limit plus, readDigits_eq_ok_iff small positive room,
          written_unsigned_iff noSign, and_iff_right (List.cons_ne_nil first rest)]

theorem read_eq_error_iff (small : radix ≤ 16) (room : 0 < limit) (text : List Char)
    (kind : NumeralError) :
    read radix limit text = .error kind ↔ Refused radix limit text kind := by
  constructor
  · intro refused
    cases text with
    | nil =>
        cases refused
        exact .empty
    | cons first rest =>
        by_cases plus : first = '+'
        · subst plus
          by_cases nonempty : rest = []
          · subst nonempty
            cases refused
            exact .sign
          · rw [read_plus nonempty, readDigits_eq_error_iff small room] at refused
            exact .signed refused
        · rw [read_of_unsigned radix limit plus, readDigits_eq_error_iff small room] at refused
          exact .unsigned (fun same => plus (Option.some.inj same)) refused
  · intro refused
    cases refused with
    | empty => rfl
    | sign => rfl
    | @signed digits kind first =>
        have nonempty : digits ≠ [] := by
          rintro rfl
          exact not_firstFault_nil _ first
        rw [read_plus nonempty, readDigits_eq_error_iff small room]
        exact first
    | unsigned noSign first =>
        cases text with
        | nil => exact absurd first (not_firstFault_nil _)
        | cons head rest =>
            have plus : head ≠ '+' := fun same => noSign (congrArg some same)
            rw [read_of_unsigned radix limit plus, readDigits_eq_error_iff small room]
            exact first

end Numeral

end Rv32Image
