/-
Distances between offsets.  Both offsets are read as signed 32-bit numbers before they
are subtracted, so a distance can be refused although it is small.
-/

import Mathlib.Algebra.Group.Int.Defs
import Mathlib.Algebra.Group.Nat.Defs
import Rv32Image.Assembly.Builder

namespace Rv32Image

namespace Builder

/-! ### Offsets as signed numbers -/

/-- The value of the low 32 bits, of which the highest counts negative. -/
def lowSigned (offset : Nat) : Int :=
  (offset % 2 ^ 31 : Nat) - 2 ^ 31 * (offset / 2 ^ 31 % 2 : Nat)

theorem signedOffset_eq (offset : Nat) : signedOffset offset = lowSigned offset := by
  rw [signedOffset, BitVec.toInt_ofNat', Int.bmod_def, lowSigned]
  split <;> omega

theorem lowSigned_of_lt {offset : Nat} (small : offset < 2 ^ 31) : lowSigned offset = offset := by
  rw [lowSigned]
  omega

theorem lowSigned_of_upper {offset : Nat} (large : 2 ^ 31 ≤ offset) (bounded : offset < 2 ^ 32) :
    lowSigned offset = offset - 2 ^ 32 := by
  rw [lowSigned]
  omega

theorem exists_lowSigned_eq_add (offset : Nat) :
    ∃ turns : Int, lowSigned offset = offset + turns * 2 ^ 32 := by
  refine ⟨-((offset + 2 ^ 31) / 2 ^ 32 : Nat), ?_⟩
  rw [lowSigned]
  omega

/-! ### Answers -/

def Signed32 (number : Int) : Prop :=
  -2 ^ 31 ≤ number ∧ number ≤ 2 ^ 31 - 1

instance (number : Int) : Decidable (Signed32 number) :=
  inferInstanceAs (Decidable (_ ∧ _))

variable {source target : Nat} {distance : Int}

theorem branchOffset?_eq (source target : Nat) :
    branchOffset? source target =
      if Signed32 (lowSigned target - lowSigned source) then
        some (lowSigned target - lowSigned source)
      else none := by
  have range (number : Int) :
      -0x80000000 ≤ number ∧ number < 0x80000000 ↔ Signed32 number := by
    rw [Signed32]
    omega
  rw [branchOffset?, signedOffset_eq, signedOffset_eq]
  simp only [range]

theorem branchOffset?_eq_some_iff :
    branchOffset? source target = some distance ↔
      Signed32 (lowSigned target - lowSigned source) ∧
        lowSigned target - lowSigned source = distance := by
  rw [branchOffset?_eq, Option.ite_none_right_eq_some, Option.some.injEq]

theorem branchOffset?_eq_none_iff :
    branchOffset? source target = none ↔ ¬Signed32 (lowSigned target - lowSigned source) := by
  simp only [branchOffset?_eq, ite_eq_right_iff, reduceCtorEq, imp_false]

theorem exists_distance_eq_add (answered : branchOffset? source target = some distance) :
    ∃ turns : Int, distance = (target : Int) - source + turns * 2 ^ 32 := by
  obtain ⟨_, rfl⟩ := branchOffset?_eq_some_iff.mp answered
  obtain ⟨targetTurns, targetEq⟩ := exists_lowSigned_eq_add target
  obtain ⟨sourceTurns, sourceEq⟩ := exists_lowSigned_eq_add source
  refine ⟨targetTurns - sourceTurns, ?_⟩
  rw [targetEq, sourceEq, Int.sub_mul]
  omega

theorem distance_true_iff (answered : branchOffset? source target = some distance) :
    distance = (target : Int) - source ↔ Signed32 ((target : Int) - source) := by
  obtain ⟨turns, off⟩ := exists_distance_eq_add answered
  obtain ⟨inside, rfl⟩ := branchOffset?_eq_some_iff.mp answered
  constructor
  · intro same
    rw [← same]
    exact inside
  · intro near
    unfold Signed32 at inside near
    omega

theorem branchOffset?_of_sameHalf
    (half : source < 2 ^ 31 ∧ target < 2 ^ 31 ∨
      (2 ^ 31 ≤ source ∧ source < 2 ^ 32) ∧ 2 ^ 31 ≤ target ∧ target < 2 ^ 32) :
    branchOffset? source target = some ((target : Int) - source) := by
  rw [branchOffset?_eq_some_iff, Signed32]
  rcases half with
    ⟨sourceSmall, targetSmall⟩ | ⟨⟨sourceLarge, sourceBound⟩, targetLarge, targetBound⟩
  · rw [lowSigned_of_lt sourceSmall, lowSigned_of_lt targetSmall]
    omega
  · rw [lowSigned_of_upper sourceLarge sourceBound, lowSigned_of_upper targetLarge targetBound]
    omega

theorem branchOffset?_of_lt (sourceSmall : source < 2 ^ 31) (targetSmall : target < 2 ^ 31) :
    branchOffset? source target = some ((target : Int) - source) :=
  branchOffset?_of_sameHalf (Or.inl ⟨sourceSmall, targetSmall⟩)

/-- A distance is refused exactly if the signed values are too far apart.  Every answer is
off from the true distance by whole turns, and is the true one exactly if 32 bits can
hold that. -/
theorem distance_answered_or_refused :
    (∀ source target : Nat,
      let shown := lowSigned target - lowSigned source
      (branchOffset? source target = none ↔ ¬(-2 ^ 31 ≤ shown ∧ shown ≤ 2 ^ 31 - 1)) ∧
      (-2 ^ 31 ≤ shown ∧ shown ≤ 2 ^ 31 - 1 → branchOffset? source target = some shown) ∧
      (∀ distance, branchOffset? source target = some distance →
        distance = shown ∧
        (∃ turns : Int, distance = (target : Int) - source + turns * 2 ^ 32) ∧
        (distance = (target : Int) - source ↔
          -2 ^ 31 ≤ (target : Int) - source ∧ (target : Int) - source ≤ 2 ^ 31 - 1)) ∧
      (source < 2 ^ 31 ∧ target < 2 ^ 31 ∨
          (2 ^ 31 ≤ source ∧ source < 2 ^ 32) ∧ 2 ^ 31 ≤ target ∧ target < 2 ^ 32 →
        branchOffset? source target = some ((target : Int) - source))) ∧
    ∀ first second third : Nat, first < 2 ^ 31 → second < 2 ^ 31 → third < 2 ^ 31 →
      ∃ near far whole back,
        branchOffset? first second = some near ∧ branchOffset? second third = some far ∧
        branchOffset? first third = some whole ∧ branchOffset? second first = some back ∧
        near + far = whole ∧ back = -near := by
  constructor
  · intro source target shown
    refine ⟨branchOffset?_eq_none_iff, ?_, ?_, branchOffset?_of_sameHalf⟩
    · intro inside
      exact branchOffset?_eq_some_iff.mpr ⟨inside, rfl⟩
    · intro distance answered
      exact ⟨(branchOffset?_eq_some_iff.mp answered).2.symm, exists_distance_eq_add answered,
        distance_true_iff answered⟩
  · intro first second third firstSmall secondSmall thirdSmall
    refine ⟨_, _, _, _, branchOffset?_of_lt firstSmall secondSmall,
      branchOffset?_of_lt secondSmall thirdSmall, branchOffset?_of_lt firstSmall thirdSmall,
      branchOffset?_of_lt secondSmall firstSmall, ?_, ?_⟩
    · omega
    · omega

/-- Eight bytes across 2^31 are refused; a jump back across 2^32 is answered forward. -/
theorem distance_answered_or_refused_at_the_edges :
    branchOffset? 0x7FFFFFFC 0x80000004 = none ∧
      branchOffset? 0x100000000 8 = some 8 ∧
      branchOffset? 0 0x7FFFFFFF = some 0x7FFFFFFF ∧
      branchOffset? 0x80000000 0xFFFFFFFC = some 0x7FFFFFFC := by
  obtain ⟨answers, _⟩ := distance_answered_or_refused
  obtain ⟨refused, _⟩ := answers 0x7FFFFFFC 0x80000004
  obtain ⟨_, wrapped, _⟩ := answers 0x100000000 8
  obtain ⟨_, _, _, lower⟩ := answers 0 0x7FFFFFFF
  obtain ⟨_, _, _, upper⟩ := answers 0x80000000 0xFFFFFFFC
  exact ⟨refused.mpr (by decide), wrapped (by decide), lower (by decide), upper (by decide)⟩

end Builder

end Rv32Image
