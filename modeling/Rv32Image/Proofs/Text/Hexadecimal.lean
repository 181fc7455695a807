/-
Hexadecimal text read back.
-/

import Mathlib.Algebra.Group.Nat.Defs
import Rv32Image.Address
import Rv32Image.Text.Hexadecimal

namespace Rv32Image

namespace Numeral

theorem digitValue_digitChar {digit : Nat} (small : digit < 16) :
    digitValue? 16 (Nat.digitChar digit) = some digit := by
  have every : ∀ digit : Fin 16, digitValue? 16 (Nat.digitChar digit.val) = some digit.val := by
    decide
  exact every ⟨digit, small⟩

theorem readDigits_append (radix limit : Nat) (front back : List Char) (start : Nat) :
    readDigits radix limit start (front ++ back) =
      (readDigits radix limit start front).bind fun value =>
        readDigits radix limit value back := by
  induction front generalizing start with
  | nil => rfl
  | cons character rest ih =>
      rw [List.cons_append, readDigits, readDigits]
      split
      · rfl
      · split
        · exact ih _
        · rfl

theorem read_of_unsigned (radix limit : Nat) {first : Char} (unsigned : first ≠ '+')
    (rest : List Char) :
    read radix limit (first :: rest) = readDigits radix limit 0 (first :: rest) := by
  unfold read
  split
  · rename_i impossible
    cases impossible
  · rename_i impossible
    cases impossible
    exact absurd rfl unsigned
  · rename_i impossible
    cases impossible
    exact absurd rfl unsigned
  · rfl

end Numeral

namespace Hexadecimal

open Numeral

theorem readDigits_fixedDigits {limit width : Nat} (value : Nat) (fits : 16 ^ width ≤ limit) :
    readDigits 16 limit 0 (fixedDigits width value) = .ok (value % 16 ^ width) := by
  induction width generalizing value with
  | zero =>
      rw [fixedDigits, readDigits, Nat.pow_zero, Nat.mod_one]
  | succ width ih =>
      have shorter : 16 ^ width ≤ limit := by
        rw [Nat.pow_succ] at fits
        omega
      have digit := digitValue_digitChar (Nat.mod_lt value (by decide : 0 < 16))
      have joined : value / 16 % 16 ^ width * 16 + value % 16 = value % 16 ^ (width + 1) := by
        rw [Nat.pow_succ', Nat.mod_mul]
        omega
      have below : value % 16 ^ (width + 1) < limit :=
        Nat.lt_of_lt_of_le (Nat.mod_lt _ (Nat.pow_pos (by decide))) fits
      rw [fixedDigits, readDigits_append, ih (value / 16) shorter]
      change readDigits 16 limit (value / 16 % 16 ^ width) [_] = _
      rw [readDigits, digit]
      dsimp only
      rw [joined, if_pos below, readDigits]

theorem forall_mem_fixedDigits (property : Char → Prop)
    (digits : ∀ digit < 16, property (Nat.digitChar digit)) (width value : Nat) :
    ∀ character ∈ fixedDigits width value, property character := by
  induction width generalizing value with
  | zero => exact nofun
  | succ width ih =>
      intro character member
      rw [fixedDigits] at member
      rcases List.mem_append.mp member with front | last
      · exact ih _ character front
      · rw [List.mem_singleton.mp last]
        exact digits _ (Nat.mod_lt _ (by decide))

theorem forall_mem_toDigits (property : Char → Prop)
    (digits : ∀ digit < 16, property (Nat.digitChar digit)) (value : Nat) :
    ∀ character ∈ Nat.toDigits 16 value, property character := by
  induction value using Nat.strongRecOn with
  | ind value ih =>
      intro character member
      rw [Nat.toDigits_eq_if (by decide)] at member
      split at member
      · rename_i small
        rw [List.mem_singleton.mp member]
        exact digits value small
      · rcases List.mem_append.mp member with front | last
        · exact ih (value / 16) (by omega) character front
        · rw [List.mem_singleton.mp last]
          exact digits _ (Nat.mod_lt _ (by decide))

end Hexadecimal

/-! ### Addresses -/

theorem dropWhile_isBlank_cons {first : Char} (notBlank : isBlank first = false)
    (rest : List Char) : (first :: rest).dropWhile isBlank = first :: rest := by
  rw [List.dropWhile_cons, notBlank, if_neg Bool.false_ne_true]

theorem trimBlanks_of_no_blanks {characters : List Char}
    (noBlanks : ∀ character ∈ characters, isBlank character = false) :
    trimBlanks characters = characters := by
  have keeps (characters : List Char)
      (noBlanks : ∀ character ∈ characters, isBlank character = false) :
      characters.dropWhile isBlank = characters := by
    cases characters with
    | nil => rfl
    | cons first rest =>
        exact dropWhile_isBlank_cons (noBlanks first List.mem_cons_self) rest
  unfold trimBlanks
  rw [keeps characters noBlanks, keeps, List.reverse_reverse]
  intro character member
  exact noBlanks character (List.mem_reverse.mp member)

theorem Address.parse_fixed (address : Word) :
    parse ("0x" ++ Hexadecimal.fixed 8 address.toNat) = .ok address := by
  let digits := Hexadecimal.fixedDigits 8 address.toNat
  have plain : ∀ character ∈ digits,
      isBlank character = false ∧ character ≠ '_' ∧ character ≠ '+' :=
    Hexadecimal.forall_mem_fixedDigits _ (by decide) 8 address.toNat
  have characters : ("0x" ++ Hexadecimal.fixed 8 address.toNat).toList = '0' :: 'x' :: digits := by
    rw [String.toList_append, Hexadecimal.fixed]
    exact congrArg ("0x".toList ++ ·) String.toList_ofList
  have trimmed : trimBlanks ('0' :: 'x' :: digits) = '0' :: 'x' :: digits := by
    apply trimBlanks_of_no_blanks
    intro character member
    rcases List.mem_cons.mp member with rfl | member
    · decide
    · rcases List.mem_cons.mp member with rfl | member
      · decide
      · exact (plain character member).1
  have kept : digits.filter (· != '_') = digits := by
    apply List.filter_eq_self.mpr
    intro character member
    exact bne_iff_ne.mpr (plain character member).2.1
  have isRead : Numeral.read 16 0x100000000 digits = .ok address.toNat := by
    have value := Hexadecimal.readDigits_fixedDigits address.toNat
      (show 16 ^ 8 ≤ 0x100000000 by decide)
    rw [Nat.mod_eq_of_lt (show address.toNat < 16 ^ 8 from address.isLt)] at value
    change Numeral.readDigits 16 0x100000000 0 digits = _ at value
    cases shape : digits with
    | nil =>
        have length := Hexadecimal.length_fixedDigits 8 address.toNat
        change digits.length = 8 at length
        rw [shape] at length
        cases length
    | cons first rest =>
        rw [shape] at value plain
        rw [Numeral.read_of_unsigned _ _ (plain first List.mem_cons_self).2.2]
        exact value
  have selected : radixAndDigits ('0' :: 'x' :: digits) = (16, digits) := rfl
  unfold parse
  rw [characters, trimmed]
  dsimp only
  rw [selected]
  dsimp only
  rw [numeral, kept, isRead]
  dsimp only
  rw [BitVec.ofNat_toNat, BitVec.setWidth_eq]

end Rv32Image
