/-
A builder as a list of words, for runs that overwrite whole words only.
-/

import Rv32Image.Assembly.Builder
import Rv32Image.Proofs.Image.RoundTrip

namespace Rv32Image

/-! ### Words and their bytes -/

namespace Word

/-- Fewer than four bytes at the end count for nothing. -/
def split : List UInt8 → List Word
  | byte1 :: byte2 :: byte3 :: byte4 :: rest =>
      ofBytes [byte1, byte2, byte3, byte4] :: split rest
  | _ => []

theorem length_flatMap_bytes (words : List Word) :
    (words.flatMap bytes).length = 4 * words.length := by
  induction words with
  | nil => rfl
  | cons word rest ih =>
      rw [List.flatMap_cons, List.length_append, length_bytes, ih, List.length_cons]
      omega

theorem split_bytes_append (word : Word) (rest : List UInt8) :
    split (word.bytes ++ rest) = word :: split rest := by
  have four := length_bytes word
  have value := ofBytes_bytes word
  match bytesOf : word.bytes with
  | [byte1, byte2, byte3, byte4] =>
      rw [bytesOf] at value
      change ofBytes [byte1, byte2, byte3, byte4] :: split rest = word :: split rest
      rw [value]
  | [] | [_] | [_, _] | [_, _, _] | _ :: _ :: _ :: _ :: _ :: _ =>
      rw [bytesOf] at four
      simp at four

theorem split_flatMap_bytes (words : List Word) : split (words.flatMap bytes) = words := by
  induction words with
  | nil => rfl
  | cons word rest ih => rw [List.flatMap_cons, split_bytes_append, ih]

theorem wordAt_flatMap_bytes {words : List Word} {index : Nat} {word : Word}
    (present : words[index]? = some word) :
    wordAt (words.flatMap bytes) (4 * index) = word := by
  induction words generalizing index with
  | nil => cases present
  | cons first rest ih =>
      rw [List.flatMap_cons]
      cases index with
      | zero =>
          rw [List.getElem?_cons_zero] at present
          rw [Nat.mul_zero, wordAt_bytes_append, Option.some.inj present]
      | succ index =>
          rw [List.getElem?_cons_succ] at present
          have four := length_bytes first
          have behind : first.bytes.length ≤ 4 * (index + 1) := by omega
          have distance : 4 * (index + 1) - first.bytes.length = 4 * index := by omega
          rw [wordAt_append_right _ behind, distance, ih present]

theorem flatMap_bytes_set {words : List Word} {index : Nat} (inside : index < words.length)
    (word : Word) :
    (words.set index word).flatMap bytes =
      (words.flatMap bytes).take (4 * index) ++ word.bytes ++
        (words.flatMap bytes).drop (4 * index + 4) := by
  induction words generalizing index with
  | nil => cases inside
  | cons first rest ih =>
      have four := length_bytes first
      cases index with
      | zero =>
          rw [List.set_cons_zero, List.flatMap_cons, List.flatMap_cons, Nat.mul_zero,
            List.take_zero, List.nil_append, Nat.zero_add, List.drop_left' four]
      | succ index =>
          have shorter : index < rest.length := Nat.lt_of_succ_lt_succ inside
          have front : 4 * (index + 1) = first.bytes.length + 4 * index := by omega
          have back : 4 * (index + 1) + 4 = first.bytes.length + (4 * index + 4) := by omega
          rw [List.set_cons_succ, List.flatMap_cons, List.flatMap_cons, ih shorter, back, front,
            List.take_length_add_append, List.drop_length_add_append, List.append_assoc,
            List.append_assoc, List.append_assoc]

end Word

/-! ### Steps -/

namespace Builder

inductive Step where
  | emit (word : Word)
  | reserve
  | patch (position : Nat) (word : Word)
deriving DecidableEq, Repr

def Step.apply? (builder : Builder) : Step → Option Builder
  | emit word => some (builder.emit word)
  | reserve => some builder.reserve.2
  | patch position word => builder.patch? position word

def Step.onWords (words : List Word) : Step → List Word
  | emit word => words ++ [word]
  | reserve => words ++ [0]
  | patch position word => words.set (position / 4) word

/-- If the step overwrites anything, then one word of the code. -/
def Step.OnWholeWord (builder : Builder) : Step → Prop
  | patch position _ => position % 4 = 0 ∧ position + 4 ≤ builder.offset
  | _ => True

instance (builder : Builder) : DecidablePred (Step.OnWholeWord builder)
  | .emit _ => inferInstanceAs (Decidable True)
  | .reserve => inferInstanceAs (Decidable True)
  | .patch position _ =>
      inferInstanceAs (Decidable (position % 4 = 0 ∧ position + 4 ≤ builder.offset))

def run? (builder : Builder) (steps : List Step) : Option Builder :=
  steps.foldlM Step.apply? builder

theorem run?_cons (builder : Builder) (step : Step) (rest : List Step) :
    builder.run? (step :: rest) = (do let next ← step.apply? builder; next.run? rest) := by
  rw [run?, List.foldlM_cons]
  rfl

theorem run?_append (builder : Builder) (first second : List Step) :
    builder.run? (first ++ second) = (do let next ← builder.run? first; next.run? second) := by
  rw [run?, List.foldlM_append]
  rfl

def wordsOf (steps : List Step) : List Word :=
  steps.foldl Step.onWords []

/-- Each step, when its turn comes, overwrites nothing but whole words. -/
def PatchesWholeWords : Builder → List Step → Prop
  | _, [] => True
  | builder, step :: rest =>
      step.OnWholeWord builder ∧ ∀ next ∈ step.apply? builder, PatchesWholeWords next rest

instance decidablePatchesWholeWords :
    (builder : Builder) → (steps : List Step) → Decidable (PatchesWholeWords builder steps)
  | _, [] => inferInstanceAs (Decidable True)
  | builder, step :: rest =>
      have : DecidablePred fun next => PatchesWholeWords next rest :=
        fun next => decidablePatchesWholeWords next rest
      inferInstanceAs (Decidable (step.OnWholeWord builder ∧
        ∀ next ∈ step.apply? builder, PatchesWholeWords next rest))

theorem wordsOf_append (first second : List Step) :
    wordsOf (first ++ second) = second.foldl Step.onWords (wordsOf first) := by
  rw [wordsOf, List.foldl_append, wordsOf]

theorem patchesWholeWords_append {builder : Builder} {first second : List Step} :
    PatchesWholeWords builder (first ++ second) ↔
      PatchesWholeWords builder first ∧
        ∀ next ∈ builder.run? first, PatchesWholeWords next second := by
  induction first generalizing builder with
  | nil =>
      constructor
      · intro whole
        refine ⟨trivial, ?_⟩
        intro next same
        cases same
        exact whole
      · intro whole
        exact whole.2 builder rfl
  | cons step rest ih =>
      rw [List.cons_append, PatchesWholeWords, PatchesWholeWords, and_assoc]
      apply and_congr_right
      intro _
      rw [run?_cons]
      cases step.apply? builder with
      | none => simp
      | some next =>
          simp only [Option.mem_some_iff, forall_eq']
          exact ih

/-! ### The builder follows the words -/

def Holds (builder : Builder) (words : List Word) : Prop :=
  builder.code = words.flatMap Word.bytes

theorem holds_empty : empty.Holds [] := rfl

theorem Holds.offset_eq {builder : Builder} {words : List Word} (holds : builder.Holds words) :
    builder.offset = 4 * words.length := by
  rw [offset, holds, Word.length_flatMap_bytes]

theorem Holds.emit {builder : Builder} {words : List Word} (holds : builder.Holds words)
    (word : Word) : (builder.emit word).Holds (words ++ [word]) := by
  rw [Holds, Builder.emit, holds, List.flatMap_append, List.flatMap_singleton]

/-- A step does to the words what it does to the code. -/
theorem Holds.apply {builder : Builder} {words : List Word} (holds : builder.Holds words)
    {step : Step} (whole : step.OnWholeWord builder) :
    ∃ next, step.apply? builder = some next ∧ next.Holds (step.onWords words) := by
  cases step with
  | emit word => exact ⟨_, rfl, holds.emit word⟩
  | reserve => exact ⟨_, rfl, holds.emit 0⟩
  | patch position word =>
      obtain ⟨aligned, inside⟩ := whole
      have length := holds.offset_eq
      have place : 4 * (position / 4) = position := by omega
      have present : position / 4 < words.length := by omega
      refine ⟨_, if_pos inside, ?_⟩
      rw [Step.onWords, Holds, Word.flatMap_bytes_set present, place, holds]

theorem Holds.run {builder : Builder} {words : List Word} (holds : builder.Holds words)
    {steps : List Step} (whole : PatchesWholeWords builder steps) :
    ∃ final, builder.run? steps = some final ∧
      final.Holds (steps.foldl Step.onWords words) := by
  induction steps generalizing builder words with
  | nil => exact ⟨builder, rfl, holds⟩
  | cons step rest ih =>
      obtain ⟨onWord, later⟩ := whole
      obtain ⟨next, applied, holdsNext⟩ := holds.apply onWord
      obtain ⟨final, ran, holdsFinal⟩ := ih holdsNext (later next applied)
      refine ⟨final, ?_, holdsFinal⟩
      rw [run?_cons, applied]
      exact ran

/-- After every part of a run the code is the bytes of the words so far, a slot reserved
then would be told the place of its word, and a reader of the image finds these words. -/
theorem run_follows_words (steps : List Step) (whole : PatchesWholeWords empty steps)
    (done : List Step) (begun : done <+: steps) :
    ∃ builder, empty.run? done = some builder ∧
      builder.code = (wordsOf done).flatMap Word.bytes ∧
      builder.offset = 4 * (wordsOf done).length ∧
      builder.reserve.1 = 4 * (wordsOf done).length ∧
      wordsOf (done ++ [.reserve]) = wordsOf done ++ [0] ∧
      (4 * (wordsOf done).length ≤ Format.maximalCodeLength →
        ∀ entry loadAddress,
          ∃ image, ParsedImage.parse (builder.build entry loadAddress).bytes = .ok image ∧
            image.code = builder.code ∧
            image.code.length = 4 * (wordsOf done).length ∧
            Word.split image.code = wordsOf done) := by
  obtain ⟨rest, rfl⟩ := begun
  obtain ⟨builder, ran, holds⟩ := holds_empty.run (patchesWholeWords_append.mp whole).1
  have length : builder.code.length = 4 * (wordsOf done).length := holds.offset_eq
  refine ⟨builder, ran, holds, length, length, wordsOf_append done [.reserve], ?_⟩
  intro fits entry loadAddress
  rw [← length] at fits
  refine ⟨_, Image.parse_build fits entry loadAddress, rfl, length, ?_⟩
  change Word.split builder.code = wordsOf done
  rw [holds]
  exact Word.split_flatMap_bytes (wordsOf done)

theorem run_follows_words_filled_slot :
    PatchesWholeWords empty [.emit 0x00A00513, .reserve, .emit 0x00150513, .patch 4 0x008000EF] ∧
      ∃ builder,
        empty.run? [.emit 0x00A00513, .reserve, .emit 0x00150513, .patch 4 0x008000EF] =
            some builder ∧
          builder.offset = 12 ∧
          ∃ image, ParsedImage.parse (builder.build 0x2004 0x2000).bytes = .ok image ∧
            Word.split image.code = [0x00A00513, 0x008000EF, 0x00150513] := by
  have whole : PatchesWholeWords empty
      [.emit 0x00A00513, .reserve, .emit 0x00150513, .patch 4 0x008000EF] := by decide
  obtain ⟨builder, ran, _, offset, _, _, image⟩ :=
    run_follows_words _ whole _ (List.prefix_refl _)
  obtain ⟨image, read, _, _, words⟩ := image (by decide) 0x2004 0x2000
  exact ⟨whole, builder, ran, offset, image, read, words⟩

end Builder

end Rv32Image
