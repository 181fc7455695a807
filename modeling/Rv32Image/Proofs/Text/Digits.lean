/-
Written numbers by the positional values of their digits.
-/

import Rv32Image.Proofs.Text.NumeralGrammar

namespace Rv32Image

namespace Numeral

theorem digitOf_digitChar {digit radix : Nat} (small : digit < radix) (known : radix ≤ 16) :
    DigitOf radix (Nat.digitChar digit) digit := by
  have read := digitValue_digitChar (Nat.lt_of_lt_of_le small known)
  exact ⟨small, (digitOf_of_digitValue? read).2⟩

theorem denotes_toDigits {radix : Nat} (several : 1 < radix) (known : radix ≤ 16) (value : Nat) :
    Denotes radix (Nat.toDigits radix value) value := by
  induction value using Nat.strongRecOn with
  | ind value ih =>
      rw [Nat.toDigits_eq_if several]
      split
      · rename_i small
        exact (denotes_concat_iff [] _ _).mpr
          ⟨0, value, (denotes_nil_iff 0).mpr rfl, digitOf_digitChar small known, by omega⟩
      · rename_i large
        have less : value / radix < value := Nat.div_lt_self (by omega) several
        rw [denotes_concat_iff]
        exact ⟨_, _, ih (value / radix) less,
          digitOf_digitChar (Nat.mod_lt _ (by omega)) known, Nat.div_add_mod' value radix⟩

theorem toDigits_inj {radix : Nat} (several : 1 < radix) (known : radix ≤ 16) {value other : Nat} :
    Nat.toDigits radix value = Nat.toDigits radix other ↔ value = other := by
  constructor
  · intro same
    have denotes := denotes_toDigits several known value
    rw [same] at denotes
    exact denotes_unique known denotes (denotes_toDigits several known other)
  · exact congrArg (Nat.toDigits radix)

theorem toString_inj {value other : Nat} : toString value = toString other ↔ value = other := by
  rw [← toDigits_inj (show 1 < 10 by decide) (by decide)]
  exact String.ofList_inj

end Numeral

namespace Hexadecimal

open Numeral

theorem denotes_fixedDigits (width value : Nat) :
    Denotes 16 (fixedDigits width value) (value % 16 ^ width) := by
  induction width generalizing value with
  | zero => rw [fixedDigits, denotes_nil_iff, Nat.pow_zero, Nat.mod_one]
  | succ width ih =>
      have last := digitOf_digitChar (Nat.mod_lt value (by decide : 0 < 16)) (Nat.le_refl 16)
      rw [fixedDigits, denotes_concat_iff]
      refine ⟨_, _, ih (value / 16), last, ?_⟩
      rw [Nat.pow_succ', Nat.mod_mul]
      omega

structure Shows (width value : Nat) (text : List Char) : Prop where
  length : text.length = width
  lower : ∀ character ∈ text, character ∈ lowerDigits
  value : Denotes 16 text value

theorem shows_fixedDigits {width value : Nat} (small : value < 16 ^ width) :
    Shows width value (fixedDigits width value) where
  length := length_fixedDigits width value
  lower := forall_mem_fixedDigits (· ∈ lowerDigits) (by decide) width value
  value := by
    have denotes := denotes_fixedDigits width value
    rwa [Nat.mod_eq_of_lt small] at denotes

theorem fixed_inj {width value other : Nat} (small : value < 16 ^ width)
    (otherSmall : other < 16 ^ width) : fixed width value = fixed width other ↔ value = other := by
  constructor
  · intro same
    have denotes := (shows_fixedDigits small).value
    rw [String.ofList_injective same] at denotes
    exact denotes_unique (by decide) denotes (shows_fixedDigits otherSmall).value
  · exact congrArg (fixed width)

theorem minimal_inj {value other : Nat} : minimal value = minimal other ↔ value = other := by
  rw [← toDigits_inj (show 1 < 16 by decide) (by decide)]
  exact String.ofList_inj

end Hexadecimal

end Rv32Image
