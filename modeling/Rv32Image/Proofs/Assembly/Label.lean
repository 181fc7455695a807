/-
Branches and jumps to places in the code, put there directly or over a reserved slot.
-/

import Rv32Image.Proofs.Assembly.Distance
import Rv32Image.Proofs.Assembly.WordList
import Rv32Image.Proofs.Instruction.Decoder

namespace Rv32Image

namespace Builder

/-! ### Words that stay -/

theorem Step.length_le_onWords (words : List Word) (step : Step) :
    words.length ≤ (step.onWords words).length := by
  cases step with
  | emit word => simp [onWords]
  | reserve => simp [onWords]
  | patch position word => simp [onWords]

theorem length_le_foldl_onWords (words : List Word) (steps : List Step) :
    words.length ≤ (steps.foldl Step.onWords words).length := by
  induction steps generalizing words with
  | nil => exact Nat.le_refl _
  | cons step rest ih => exact Nat.le_trans (step.length_le_onWords words) (ih _)

/-- A word stays under a step that does not overwrite it. -/
theorem Step.getElem?_onWords {builder : Builder} {step : Step} (whole : step.OnWholeWord builder)
    {words : List Word} {index : Nat} {word : Word} (present : words[index]? = some word)
    (untouched : ∀ position other, step = patch position other → position ≠ 4 * index) :
    (step.onWords words)[index]? = some word := by
  obtain ⟨inside, _⟩ := List.getElem?_eq_some_iff.mp present
  cases step with
  | emit other => rw [onWords, List.getElem?_append_left inside, present]
  | reserve => rw [onWords, List.getElem?_append_left inside, present]
  | patch position other =>
      obtain ⟨aligned, _⟩ := whole
      have elsewhere : position / 4 ≠ index := by
        intro same
        apply untouched position other rfl
        omega
      rw [onWords, List.getElem?_set_ne elsewhere, present]

theorem Holds.getElem?_run {builder : Builder} {words : List Word} (holds : builder.Holds words)
    {steps : List Step} (whole : PatchesWholeWords builder steps) {index : Nat} {word : Word}
    (present : words[index]? = some word)
    (untouched : ∀ position other, .patch position other ∈ steps → position ≠ 4 * index) :
    (steps.foldl Step.onWords words)[index]? = some word := by
  induction steps generalizing builder words with
  | nil => exact present
  | cons step rest ih =>
      obtain ⟨onWord, later⟩ := whole
      obtain ⟨next, applied, holdsNext⟩ := holds.apply onWord
      apply ih holdsNext (later next applied)
      · apply step.getElem?_onWords onWord present
        intro position other same
        subst same
        exact untouched position other List.mem_cons_self
      · intro position other member
        exact untouched position other (List.mem_cons_of_mem _ member)

/-! ### Offsets and slots of a run -/

/-- The builder had the offset before, during or after the run. -/
def OffsetDuring (steps : List Step) (offset : Nat) : Prop :=
  ∃ done builder, done <+: steps ∧ empty.run? done = some builder ∧ builder.offset = offset

/-- The last word that the run puts at an offset is this one. -/
def FilledLast (steps : List Step) (slot : Nat) (word : Word) : Prop :=
  ∃ before fill after, steps = before ++ fill :: after ∧
    (fill = .patch slot word ∨
      fill = .emit word ∧ ∃ builder, empty.run? before = some builder ∧ builder.offset = slot) ∧
    ∀ position other, .patch position other ∈ after → position ≠ slot

theorem OffsetDuring.exists_index {steps : List Step} (whole : PatchesWholeWords empty steps)
    {offset : Nat} (during : OffsetDuring steps offset) :
    ∃ index, offset = 4 * index ∧ index ≤ (wordsOf steps).length := by
  obtain ⟨done, builder, ⟨rest, rfl⟩, ran, rfl⟩ := during
  obtain ⟨same, ranSame, holds⟩ := holds_empty.run (patchesWholeWords_append.mp whole).1
  rw [ran] at ranSame
  cases ranSame
  refine ⟨(wordsOf done).length, holds.offset_eq, ?_⟩
  rw [wordsOf_append]
  exact length_le_foldl_onWords _ rest

theorem FilledLast.getElem?_wordsOf {steps : List Step} (whole : PatchesWholeWords empty steps)
    {slot : Nat} {word : Word} (filled : FilledLast steps slot word) :
    slot % 4 = 0 ∧ (wordsOf steps)[slot / 4]? = some word := by
  obtain ⟨before, fill, after, rfl, how, untouched⟩ := filled
  obtain ⟨wholeBefore, wholeFrom⟩ := patchesWholeWords_append.mp whole
  obtain ⟨builder, ran, holds⟩ := holds_empty.run wholeBefore
  obtain ⟨onWord, later⟩ := wholeFrom builder ran
  obtain ⟨next, applied, holdsNext⟩ := holds.apply onWord
  have length := holds.offset_eq
  have here : slot % 4 = 0 ∧ (fill.onWords (wordsOf before))[slot / 4]? = some word := by
    rcases how with patched | ⟨emitted, other, ranOther, standing⟩
    · subst patched
      obtain ⟨aligned, inside⟩ := onWord
      refine ⟨aligned, ?_⟩
      rw [Step.onWords, List.getElem?_set_self]
      change builder.offset = 4 * (wordsOf before).length at length
      omega
    · subst emitted
      rw [ran] at ranOther
      cases ranOther
      change builder.offset = 4 * (wordsOf before).length at length
      have place : slot / 4 = (wordsOf before).length := by omega
      refine ⟨by omega, ?_⟩
      rw [Step.onWords, place, List.getElem?_concat_length]
  refine ⟨here.1, ?_⟩
  rw [wordsOf_append, List.foldl_cons]
  apply holdsNext.getElem?_run (later next applied) here.2
  intro position other member
  have different := untouched position other member
  omega

/-! ### Distances -/

/-- A distance that is stored modulo `2 * size` leads to its target or misses it by whole
turns. -/
theorem reaches_or_turns {source target size : Nat} (even : ((target : Int) - source) % 2 = 0)
    (evenSize : size % 2 = 0) (positive : 0 < size) :
    ((source : Int) + 2 * Int.bmod (((target : Int) - source) / 2) size = target ↔
        -size ≤ (target : Int) - source ∧ (target : Int) - source ≤ size - 2) ∧
      (¬(-size ≤ (target : Int) - source ∧ (target : Int) - source ≤ size - 2) →
        ∃ turns : Int, turns ≠ 0 ∧
          (source : Int) + 2 * Int.bmod (((target : Int) - source) / 2) size =
            target + turns * (2 * size)) := by
  have near := Word.double_bmod_half_eq_iff even evenSize positive
  obtain ⟨turns, off⟩ := Word.exists_double_bmod_half_eq_add even size
  have reached : (source : Int) + 2 * Int.bmod (((target : Int) - source) / 2) size = target ↔
      -size ≤ (target : Int) - source ∧ (target : Int) - source ≤ size - 2 := by
    constructor
    · intro reaches
      have same := near.mp (by omega)
      omega
    · intro inside
      have same := near.mpr (by omega)
      omega
  refine ⟨reached, ?_⟩
  intro far
  refine ⟨turns, ?_, by omega⟩
  rintro rfl
  rw [Int.zero_mul] at off
  exact far (reached.mp (by omega))

/-! ### Labels -/

/-- A branch or jump between two offsets of a run leads to its target exactly if that is
near enough, and otherwise misses it without any complaint. -/
theorem label_reached_iff_near (steps : List Step) (whole : PatchesWholeWords empty steps)
    (final : Builder) (ran : empty.run? steps = some final) (short : final.offset < 2 ^ 31)
    (source target : Nat) (sourceDuring : OffsetDuring steps source)
    (targetDuring : OffsetDuring steps target) :
    ∃ distance, branchOffset? source target = some distance ∧
      (∀ (operation : BranchOperation) (source1 source2 : Word),
        source1.toNat < 32 → source2.toNat < 32 →
        FilledLast steps source (Instruction.branch operation source1 source2 distance).encode →
          let word := wordAt final.code source
          word.opcode = 0x63 ∧
          BranchOperation.ofFunct3? word.funct3 = some operation ∧
          word.source1.toNat = source1.toNat ∧
          word.source2.toNat = source2.toNat ∧
          ((source : Int) + word.branchDistance = target ↔
            -4096 ≤ (target : Int) - source ∧ (target : Int) - source ≤ 4094) ∧
          (¬(-4096 ≤ (target : Int) - source ∧ (target : Int) - source ≤ 4094) →
            ∃ turns : Int, turns ≠ 0 ∧
              (source : Int) + word.branchDistance = target + turns * 2 ^ 13)) ∧
      ∀ destination : Word, destination.toNat < 32 →
        FilledLast steps source (Instruction.jal destination distance).encode →
          let word := wordAt final.code source
          word.opcode = 0x6F ∧
          word.destination.toNat = destination.toNat ∧
          ((source : Int) + word.jumpDistance = target ↔
            -2 ^ 20 ≤ (target : Int) - source ∧ (target : Int) - source ≤ 2 ^ 20 - 2) ∧
          (¬(-2 ^ 20 ≤ (target : Int) - source ∧ (target : Int) - source ≤ 2 ^ 20 - 2) →
            ∃ turns : Int, turns ≠ 0 ∧
              (source : Int) + word.jumpDistance = target + turns * 2 ^ 21) := by
  obtain ⟨same, ranSame, holds⟩ := holds_empty.run whole
  rw [ran] at ranSame
  cases ranSame
  have length : final.offset = 4 * (wordsOf steps).length := holds.offset_eq
  obtain ⟨sourceIndex, sourcePlace, sourceInside⟩ := sourceDuring.exists_index whole
  obtain ⟨targetIndex, targetPlace, targetInside⟩ := targetDuring.exists_index whole
  have even : ((target : Int) - source) % 2 = 0 := by omega
  have slotWord (word : Word) (filled : FilledLast steps source word) :
      wordAt final.code source = word := by
    obtain ⟨aligned, present⟩ := filled.getElem?_wordsOf whole
    have place : source = 4 * (source / 4) := by omega
    rw [holds, place]
    exact Word.wordAt_flatMap_bytes present
  refine ⟨_, branchOffset?_of_lt (by omega) (by omega), ?_, ?_⟩
  · intro operation source1 source2 source1Fits source2Fits filled
    obtain ⟨source1, rfl⟩ := Word.exists_register_of_lt source1Fits
    obtain ⟨source2, rfl⟩ := Word.exists_register_of_lt source2Fits
    obtain ⟨code, sameCode, known⟩ := operation.exists_code
    obtain ⟨opcode, funct3, source1At, source2At, distanceAt⟩ :=
      Form.fields_branch code source2 source1 ((target : Int) - source)
    rw [slotWord _ filled, Instruction.encode, ← sameCode]
    dsimp only
    rw [funct3, source1At, source2At, distanceAt, Word.toNat_ofField (by decide),
      Word.toNat_ofField (by decide)]
    exact ⟨opcode, known, rfl, rfl, reaches_or_turns even (by decide) (by decide)⟩
  · intro destination destinationFits filled
    obtain ⟨destination, rfl⟩ := Word.exists_register_of_lt destinationFits
    obtain ⟨opcode, destinationAt, distanceAt⟩ :=
      Form.fields_jump destination ((target : Int) - source)
    rw [slotWord _ filled, Instruction.encode]
    dsimp only
    rw [destinationAt, distanceAt, Word.toNat_ofField (by decide)]
    exact ⟨opcode, rfl, reaches_or_turns even (by decide) (by decide)⟩

def loopSteps : List Step :=
  [.reserve, .emit (Instruction.immediate .addi 7 7 1).encode,
    .emit (Instruction.jal 0 (-8)).encode, .patch 0 (Instruction.branch .bge 7 10 12).encode]

theorem label_reached_iff_near_loop :
    PatchesWholeWords empty loopSteps ∧
      ∃ final, empty.run? loopSteps = some final ∧ final.offset < 2 ^ 31 ∧
        OffsetDuring loopSteps 0 ∧ OffsetDuring loopSteps 8 ∧ OffsetDuring loopSteps 12 ∧
        FilledLast loopSteps 0 (Instruction.branch .bge 7 10 12).encode ∧
        FilledLast loopSteps 8 (Instruction.jal 0 (-8)).encode ∧
        (0 : Int) + (wordAt final.code 0).branchDistance = 12 ∧
        (8 : Int) + (wordAt final.code 8).jumpDistance = 0 := by
  have whole : PatchesWholeWords empty loopSteps := by decide
  obtain ⟨final, ran, holds⟩ := holds_empty.run whole
  have offset : final.offset = 12 := holds.offset_eq
  have first : OffsetDuring loopSteps 0 := ⟨[], empty, List.nil_prefix, rfl, rfl⟩
  have third : OffsetDuring loopSteps 8 := by
    refine ⟨loopSteps.take 2, _, List.take_prefix 2 _, rfl, rfl⟩
  have last : OffsetDuring loopSteps 12 := ⟨loopSteps, final, List.prefix_refl _, ran, offset⟩
  have branchFilled : FilledLast loopSteps 0 (Instruction.branch .bge 7 10 12).encode :=
    ⟨loopSteps.take 3, _, [], rfl, Or.inl rfl, by simp⟩
  have jumpFilled : FilledLast loopSteps 8 (Instruction.jal 0 (-8)).encode := by
    refine ⟨loopSteps.take 2, _, loopSteps.drop 3, rfl, Or.inr ⟨rfl, _, rfl, rfl⟩, ?_⟩
    intro position other member
    simp [loopSteps] at member
    omega
  have short : final.offset < 2 ^ 31 := by omega
  obtain ⟨forward, forwardEq, branches, _⟩ :=
    label_reached_iff_near loopSteps whole final ran short 0 12 first last
  obtain ⟨back, backEq, _, jumps⟩ :=
    label_reached_iff_near loopSteps whole final ran short 8 0 third first
  cases forwardEq
  cases backEq
  obtain ⟨_, _, _, _, branchReaches, _⟩ :=
    branches .bge 7 10 (by decide) (by decide) branchFilled
  obtain ⟨_, _, jumpReaches, _⟩ := jumps 0 (by decide) jumpFilled
  exact ⟨whole, final, ran, short, first, third, last, branchFilled, jumpFilled,
    branchReaches.mpr (by decide), jumpReaches.mpr (by decide)⟩

end Builder

end Rv32Image
