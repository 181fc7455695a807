/-
Overwriting four bytes of code, whether or not they are one word: when it succeeds, and
that it does not matter when it happens.
-/

import Rv32Image.Proofs.Assembly.WordList

namespace Rv32Image

namespace Builder

/-! ### Replaced bytes -/

def overwritten (code : List UInt8) (position : Nat) (word : Word) : List UInt8 :=
  code.take position ++ word.bytes ++ code.drop (position + 4)

theorem patch?_eq_some_iff {builder next : Builder} {position : Nat} {word : Word} :
    builder.patch? position word = some next ↔
      position + 4 ≤ builder.offset ∧ next.code = overwritten builder.code position word := by
  obtain ⟨code⟩ := next
  rw [patch?, Option.ite_none_right_eq_some, Option.some.injEq, Builder.mk.injEq,
    eq_comm (b := code)]
  rfl

section Overwritten

variable {code : List UInt8} {position : Nat}

theorem getElem?_overwritten (inside : position + 4 ≤ code.length) (word : Word) (index : Nat) :
    (overwritten code position word)[index]? =
      if position ≤ index ∧ index < position + 4 then word.bytes[index - position]?
      else code[index]? := by
  have front : (code.take position).length = position := List.length_take_of_le (by omega)
  have four := word.length_bytes
  rw [overwritten, List.append_assoc]
  by_cases before : index < position
  · rw [List.getElem?_append_left (by omega), List.getElem?_take_of_lt before, if_neg (by omega)]
  · rw [List.getElem?_append_right (by omega), front]
    by_cases within : index < position + 4
    · rw [List.getElem?_append_left (by omega), if_pos ⟨by omega, within⟩]
    · rw [List.getElem?_append_right (by omega), List.getElem?_drop, if_neg (by omega), four]
      congr 1
      omega

theorem length_overwritten (inside : position + 4 ≤ code.length) (word : Word) :
    (overwritten code position word).length = code.length := by
  rw [overwritten, List.length_append, List.length_append, List.length_take, List.length_drop,
    word.length_bytes]
  omega

theorem window_overwritten (inside : position + 4 ≤ code.length) (word : Word) :
    window (overwritten code position word) position 4 = word.bytes := by
  have front : (code.take position).length = position := List.length_take_of_le (by omega)
  rw [overwritten, List.append_assoc, window_append_right _ (Nat.le_of_eq front), front,
    Nat.sub_self, window_append_left _ word.length_bytes]

theorem overwritten_append (inside : position + 4 ≤ code.length) (word : Word)
    (rest : List UInt8) :
    overwritten (code ++ rest) position word = overwritten code position word ++ rest := by
  rw [overwritten, overwritten, List.take_append_of_le_length (by omega),
    List.drop_append_of_le_length inside, List.append_assoc, List.append_assoc,
    List.append_assoc]

theorem overwritten_overwritten (inside : position + 4 ≤ code.length) (earlier later : Word) :
    overwritten (overwritten code position earlier) position later =
      overwritten code position later := by
  have still := length_overwritten inside earlier
  apply List.ext_getElem?
  intro index
  rw [getElem?_overwritten (by omega), getElem?_overwritten inside, getElem?_overwritten inside]
  split <;> rfl

end Overwritten

/-- Four bytes from one position and four from the other have none in common. -/
def Apart (first second : Nat) : Prop :=
  first + 4 ≤ second ∨ second + 4 ≤ first

instance : DecidableRel Apart := fun first second =>
  inferInstanceAs (Decidable (first + 4 ≤ second ∨ second + 4 ≤ first))

theorem overwritten_comm {code : List UInt8} {first second : Nat} (apart : Apart first second)
    (firstInside : first + 4 ≤ code.length) (secondInside : second + 4 ≤ code.length)
    (word1 word2 : Word) :
    overwritten (overwritten code first word1) second word2 =
      overwritten (overwritten code second word2) first word1 := by
  have afterFirst := length_overwritten firstInside word1
  have afterSecond := length_overwritten secondInside word2
  apply List.ext_getElem?
  intro index
  rw [getElem?_overwritten (by omega), getElem?_overwritten firstInside,
    getElem?_overwritten (by omega), getElem?_overwritten secondInside]
  by_cases atFirst : first ≤ index ∧ index < first + 4
  · have notSecond : ¬(second ≤ index ∧ index < second + 4) := by
      rcases apart with below | above <;> omega
    rw [if_neg notSecond, if_pos atFirst, if_pos atFirst]
  · rw [if_neg atFirst, if_neg atFirst]

/-! ### Overwriting and other steps -/

section Patch

variable {builder next : Builder} {position : Nat} {word : Word}

theorem exists_patch?_iff (builder : Builder) (position : Nat) (word : Word) :
    (∃ next, builder.patch? position word = some next) ↔ position + 4 ≤ builder.offset := by
  constructor
  · rintro ⟨next, patched⟩
    exact (patch?_eq_some_iff.mp patched).1
  · intro inside
    exact ⟨⟨overwritten builder.code position word⟩, patch?_eq_some_iff.mpr ⟨inside, rfl⟩⟩

theorem offset_patch? (patched : builder.patch? position word = some next) :
    next.offset = builder.offset := by
  obtain ⟨inside, code⟩ := patch?_eq_some_iff.mp patched
  rw [offset, code, length_overwritten inside, offset]

theorem patch?_emit (patched : builder.patch? position word = some next) (other : Word) :
    (builder.emit other).patch? position word = some (next.emit other) := by
  obtain ⟨inside, code⟩ := patch?_eq_some_iff.mp patched
  rw [patch?_eq_some_iff, offset_emit]
  refine ⟨by omega, ?_⟩
  rw [emit, emit, code]
  exact (overwritten_append inside word other.bytes).symm

theorem patch?_reserve (builder : Builder) (word : Word) :
    builder.reserve.2.patch? builder.offset word = some (builder.emit word) := by
  rw [patch?_eq_some_iff, reserve, offset_emit]
  refine ⟨Nat.le_refl _, ?_⟩
  have behind : (0 : Word).bytes.drop 4 = [] :=
    List.drop_eq_nil_of_le (Nat.le_of_eq (Word.length_bytes 0))
  rw [emit, emit, overwritten, offset, List.take_left, List.drop_length_add_append, behind,
    List.append_nil]

theorem patch?_patch? (patched : builder.patch? position word = some next) (later : Word) :
    next.patch? position later = builder.patch? position later := by
  obtain ⟨inside, code⟩ := patch?_eq_some_iff.mp patched
  apply Option.ext
  intro final
  rw [patch?_eq_some_iff, patch?_eq_some_iff, offset_patch? patched, code,
    overwritten_overwritten inside]

end Patch

section Commutation

variable {builder next both : Builder} {first second : Nat} {word1 word2 : Word}

theorem patch?_swap (apart : Apart first second)
    (patched : builder.patch? first word1 = some next)
    (patchedNext : next.patch? second word2 = some both) :
    ∃ other, builder.patch? second word2 = some other ∧
      other.patch? first word1 = some both := by
  obtain ⟨firstInside, nextCode⟩ := patch?_eq_some_iff.mp patched
  obtain ⟨secondInside, bothCode⟩ := patch?_eq_some_iff.mp patchedNext
  rw [offset_patch? patched] at secondInside
  obtain ⟨other, patchedOther⟩ := (exists_patch?_iff builder second word2).mpr secondInside
  refine ⟨other, patchedOther, patch?_eq_some_iff.mpr ⟨?_, ?_⟩⟩
  · rw [offset_patch? patchedOther]
    exact firstInside
  · rw [bothCode, nextCode, (patch?_eq_some_iff.mp patchedOther).2,
      overwritten_comm apart firstInside secondInside]

/-- Either both orders lead to one result, or a position is outside the code and neither
order leads to any. -/
theorem patch?_comm (builder : Builder) (apart : Apart first second) (word1 word2 : Word) :
    (do let next ← builder.patch? first word1; next.patch? second word2) =
      (do let next ← builder.patch? second word2; next.patch? first word1) := by
  apply Option.ext
  intro both
  rw [Option.bind_eq_bind, Option.bind_eq_some_iff, Option.bind_eq_some_iff]
  constructor
  · rintro ⟨next, patched, patchedNext⟩
    exact patch?_swap apart patched patchedNext
  · rintro ⟨next, patched, patchedNext⟩
    exact patch?_swap apart.symm patched patchedNext

end Commutation

/-! ### Runs -/

def Step.appends : Step → Bool
  | patch _ _ => false
  | _ => true

theorem Step.offset_applied {builder next : Builder} {step : Step}
    (applied : step.apply? builder = some next) :
    next.offset = builder.offset + if step.appends then 4 else 0 := by
  cases step with
  | emit word =>
      cases applied
      exact offset_emit builder word
  | reserve =>
      cases applied
      exact offset_emit builder 0
  | patch position word => exact offset_patch? applied

theorem offset_le_run? {builder final : Builder} {steps : List Step}
    (ran : builder.run? steps = some final) : builder.offset ≤ final.offset := by
  induction steps generalizing builder with
  | nil =>
      cases ran
      exact Nat.le_refl _
  | cons step rest ih =>
      rw [run?_cons] at ran
      obtain ⟨next, applied, ranRest⟩ := Option.bind_eq_some_iff.mp ran
      have longer := Step.offset_applied applied
      exact Nat.le_trans (by omega) (ih ranRest)

/-! ### Places of words -/

/-- The run appends a word at the position, be it given or reserved. -/
def PlacedAt (builder : Builder) (steps : List Step) (position : Nat) : Prop :=
  ∃ before step after standing, steps = before ++ step :: after ∧ step.appends = true ∧
    builder.run? before = some standing ∧ standing.offset = position

theorem placedAt_cons {builder next : Builder} {step : Step} {rest : List Step} {position : Nat}
    (applied : step.apply? builder = some next) :
    builder.PlacedAt (step :: rest) position ↔
      (step.appends = true ∧ builder.offset = position) ∨ next.PlacedAt rest position := by
  constructor
  · rintro ⟨before, appending, after, standing, split, appends, ran, place⟩
    cases before with
    | nil =>
        cases split
        cases ran
        exact .inl ⟨appends, place⟩
    | cons first before =>
        obtain ⟨rfl, rfl⟩ := List.cons.inj split
        rw [run?_cons, applied] at ran
        exact .inr ⟨before, appending, after, standing, rfl, appends, ran, place⟩
  · rintro (⟨appends, place⟩ | ⟨before, appending, after, standing, rfl, appends, ran, place⟩)
    · exact ⟨[], step, rest, builder, rfl, appends, rfl, place⟩
    · refine ⟨step :: before, appending, after, standing, rfl, appends, ?_, place⟩
      rw [run?_cons, applied]
      exact ran

/-- The words of a run stand at the multiples of four behind its start. -/
theorem placedAt_iff {builder final : Builder} {steps : List Step}
    (ran : builder.run? steps = some final) (aligned : builder.offset % 4 = 0) (position : Nat) :
    builder.PlacedAt steps position ↔
      builder.offset ≤ position ∧ position % 4 = 0 ∧ position + 4 ≤ final.offset := by
  induction steps generalizing builder with
  | nil =>
      cases ran
      constructor
      · rintro ⟨before, _, _, _, split, _⟩
        cases before <;> cases split
      · omega
  | cons step rest ih =>
      rw [run?_cons] at ran
      obtain ⟨next, applied, ranRest⟩ := Option.bind_eq_some_iff.mp ran
      have longer := Step.offset_applied applied
      have further := offset_le_run? ranRest
      rw [placedAt_cons applied, ih ranRest (by split at longer <;> omega)]
      cases appends : step.appends with
      | true =>
          rw [appends, if_pos rfl] at longer
          rw [and_iff_right rfl]
          omega
      | false =>
          rw [appends, if_neg Bool.false_ne_true, Nat.add_zero] at longer
          rw [longer, or_iff_right]
          rintro ⟨impossible, _⟩
          cases impossible

/-- Overwriting succeeds exactly inside the code, hence also between the places of two
words. -/
theorem overwriting_succeeds_iff_inside {steps : List Step} {builder : Builder}
    (ran : empty.run? steps = some builder) (position : Nat) (word : Word) :
    ((∃ next, builder.patch? position word = some next) ↔ position + 4 ≤ builder.offset) ∧
      (empty.PlacedAt steps position ↔ position % 4 = 0 ∧ position + 4 ≤ builder.offset) ∧
      (((∃ next, builder.patch? position word = some next) ↔ empty.PlacedAt steps position) ↔
        ¬(position % 4 ≠ 0 ∧ position + 4 ≤ builder.offset)) := by
  have succeeds := exists_patch?_iff builder position word
  have placed : empty.PlacedAt steps position ↔
      position % 4 = 0 ∧ position + 4 ≤ builder.offset := by
    rw [placedAt_iff ran rfl]
    exact and_iff_right (Nat.zero_le position)
  refine ⟨succeeds, placed, ?_⟩
  rw [succeeds, placed]
  omega

theorem overwriting_succeeds_iff_inside_two_words :
    ∃ builder, empty.run? [.reserve, .patch 0 5, .emit 7] = some builder ∧
      (∃ next, builder.patch? 4 9 = some next) ∧
      empty.PlacedAt [.reserve, .patch 0 5, .emit 7] 4 ∧
      (∃ next, builder.patch? 3 9 = some next) ∧
      ¬empty.PlacedAt [.reserve, .patch 0 5, .emit 7] 3 ∧
      ¬∃ next, builder.patch? 5 9 = some next := by
  refine ⟨_, rfl, ?_⟩
  have ran : empty.run? [.reserve, .patch 0 5, .emit 7] = some _ := rfl
  obtain ⟨second, secondPlaced, _⟩ := overwriting_succeeds_iff_inside ran 4 9
  obtain ⟨between, betweenPlaced, _⟩ := overwriting_succeeds_iff_inside ran 3 9
  obtain ⟨straddling, _, _⟩ := overwriting_succeeds_iff_inside ran 5 9
  exact ⟨second.mpr (by decide), secondPlaced.mpr (by decide), between.mpr (by decide),
    fun placed => absurd (betweenPlaced.mp placed) (by decide),
    fun succeeded => absurd (straddling.mp succeeded) (by decide)⟩

/-- A word put between the places of two words destroys both. -/
theorem overwriting_between_words :
    ∃ builder next, empty.run? [.emit 0x11223344, .emit 0x55667788] = some builder ∧
      ¬empty.PlacedAt [.emit 0x11223344, .emit 0x55667788] 1 ∧
      builder.patch? 1 0xAABBCCDD = some next ∧
      wordAt next.code 0 = 0xBBCCDD44 ∧ wordAt next.code 4 = 0x556677AA := by
  refine ⟨_, _, rfl, ?_, rfl, by decide, by decide⟩
  intro placed
  have aligned := ((placedAt_iff rfl rfl 1).mp placed).2.1
  cases aligned

/-! ### Filling a slot later -/

theorem Step.applied_patched {first second : Builder} {slot : Nat} {word : Word}
    (filled : first.patch? slot word = some second) {step : Step}
    (apart : ∀ position other, step = .patch position other → Apart slot position) :
    (do let next ← step.apply? first; next.patch? slot word) = step.apply? second := by
  cases step with
  | emit other => exact patch?_emit filled other
  | reserve => exact patch?_emit filled 0
  | patch position other =>
      have swapped := patch?_comm first (apart position other rfl) word other
      rw [filled, Option.bind_eq_bind, Option.bind_some] at swapped
      exact swapped.symm

theorem run?_patched {first second : Builder} {slot : Nat} {word : Word}
    (filled : first.patch? slot word = some second) {steps : List Step}
    (apart : ∀ position other, .patch position other ∈ steps → Apart slot position) :
    (do let final ← first.run? steps; final.patch? slot word) = second.run? steps := by
  induction steps generalizing first second with
  | nil => exact filled
  | cons step rest ih =>
      have stepwise : (do let next ← step.apply? first; next.patch? slot word) =
          step.apply? second := by
        apply Step.applied_patched filled
        rintro position other rfl
        exact apart position other List.mem_cons_self
      rw [run?_cons, run?_cons]
      cases applied : step.apply? first with
      | none =>
          rw [applied] at stepwise
          rw [← stepwise]
          rfl
      | some next =>
          -- The code never gets shorter, so the slot is still there to be filled.
          have inside : slot + 4 ≤ next.offset := by
            have before := (patch?_eq_some_iff.mp filled).1
            have longer := Step.offset_applied applied
            omega
          obtain ⟨later, filledLater⟩ := (exists_patch?_iff next slot word).mpr inside
          rw [applied, Option.bind_eq_bind, Option.bind_some, filledLater] at stepwise
          rw [← stepwise, Option.bind_eq_bind, Option.bind_some, Option.bind_some]
          apply ih filledLater
          intro position other member
          exact apart position other (List.mem_cons_of_mem _ member)

/-- Whether a slot is filled has no influence on the offsets of a run. -/
theorem offset_run?_patched {first second : Builder} {slot : Nat} {word : Word}
    (filled : first.patch? slot word = some second) {steps : List Step}
    (apart : ∀ position other, .patch position other ∈ steps → Apart slot position) :
    (first.run? steps).map offset = (second.run? steps).map offset := by
  rw [← run?_patched filled apart]
  cases ran : first.run? steps with
  | none => rfl
  | some final =>
      have inside : slot + 4 ≤ final.offset :=
        Nat.le_trans (patch?_eq_some_iff.mp filled).1 (offset_le_run? ran)
      obtain ⟨later, filledLater⟩ := (exists_patch?_iff final slot word).mpr inside
      rw [Option.bind_eq_bind, Option.bind_some, filledLater, Option.map_some, Option.map_some,
        offset_patch? filledLater]

/-- Overwriting four bytes commutes with every step that leaves these four alone, so a slot
that is filled in the end is a word that was appended at once. -/
theorem overwriting_order_independent (builder : Builder) :
    (∀ position word next, builder.patch? position word = some next →
      next.offset = builder.offset ∧
      (∀ index, index < position ∨ position + 4 ≤ index →
        next.code[index]? = builder.code[index]?) ∧
      window next.code position 4 = word.bytes ∧
      (∀ other, (builder.emit other).patch? position word = some (next.emit other)) ∧
      builder.reserve.1 = next.reserve.1 ∧
      builder.reserve.2.patch? position word = some next.reserve.2 ∧
      (∀ position2 word2 next2, builder.patch? position2 word2 = some next2 →
        Apart position position2 →
          ∃ both, next.patch? position2 word2 = some both ∧
            next2.patch? position word = some both) ∧
      ∀ later, next.patch? position later = builder.patch? position later) ∧
    ∀ (word : Word) (steps : List Step),
      (∀ position other, .patch position other ∈ steps → Apart builder.offset position) →
        builder.run? (.reserve :: steps ++ [.patch builder.reserve.1 word]) =
          builder.run? (.emit word :: steps) ∧
        ∀ done, done <+: steps →
          (builder.run? (.reserve :: done)).map offset =
            (builder.run? (.emit word :: done)).map offset := by
  constructor
  · intro position word next patched
    obtain ⟨inside, code⟩ := patch?_eq_some_iff.mp patched
    have same := offset_patch? patched
    refine ⟨same, ?_, ?_, patch?_emit patched, same.symm, patch?_emit patched 0, ?_,
      patch?_patch? patched⟩
    · intro index outside
      rw [code, getElem?_overwritten inside, if_neg (by omega)]
    · rw [code]
      exact window_overwritten inside word
    · intro position2 word2 next2 patched2 apart
      have inside2 := (patch?_eq_some_iff.mp patched2).1
      rw [← same] at inside2
      obtain ⟨both, patchedBoth⟩ := (exists_patch?_iff next position2 word2).mpr inside2
      obtain ⟨other, patchedOther, otherBoth⟩ := patch?_swap apart patched patchedBoth
      rw [patched2] at patchedOther
      cases patchedOther
      exact ⟨both, patchedBoth, otherBoth⟩
  · intro word steps apart
    have filled := patch?_reserve builder word
    constructor
    · rw [run?_append, run?_cons, run?_cons]
      change (builder.reserve.2.run? steps).bind _ = (builder.emit word).run? steps
      rw [← run?_patched filled apart]
      congr 1
      funext final
      rw [run?_cons]
      exact Option.bind_fun_some _
    · intro done begun
      rw [run?_cons, run?_cons]
      apply offset_run?_patched filled
      intro position other member
      exact apart position other (begun.subset member)

def threeWords : Builder :=
  ((empty.emit 1).emit 2).emit 3

theorem overwriting_order_independent_late_slot :
    ∃ first second both, threeWords.patch? 2 8 = some first ∧
      threeWords.patch? 7 9 = some second ∧ Apart 2 7 ∧
      first.patch? 7 9 = some both ∧ second.patch? 2 8 = some both ∧
      threeWords.run? [.reserve, .patch 2 8, .emit 4, .patch 16 5, .patch 12 6] =
        threeWords.run? [.emit 6, .patch 2 8, .emit 4, .patch 16 5] ∧
      threeWords.run? [.emit 6, .patch 2 8, .emit 4, .patch 16 5] ≠ none := by
  obtain ⟨commutes, filled⟩ := overwriting_order_independent threeWords
  obtain ⟨_, _, _, _, _, _, swapped, _⟩ := commutes 2 8 _ rfl
  obtain ⟨both, firstThenSecond, secondThenFirst⟩ := swapped 7 9 _ rfl (by decide)
  refine ⟨_, _, both, rfl, rfl, by decide, firstThenSecond, secondThenFirst, ?_, nofun⟩
  refine (filled 6 [.patch 2 8, .emit 4, .patch 16 5] ?_).1
  intro position other member
  simp only [List.mem_cons, Step.patch.injEq, reduceCtorEq, List.not_mem_nil, or_false,
    false_or] at member
  rcases member with ⟨rfl, _⟩ | ⟨rfl, _⟩ <;> decide

end Builder

end Rv32Image
