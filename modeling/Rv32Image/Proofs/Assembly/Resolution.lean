/-
Labels and slots resolved: `Leads` says which value a piece of assembly gives and which
instructions it makes of those before it.
-/

import Rv32Image.Assembly.Basic
import Rv32Image.Proofs.Assembly.Distance
import Rv32Image.Proofs.Assembly.LineMeaning

namespace Rv32Image.Assembly

variable {α β : Type} {before middle after : List Instruction}

def Leads (assembly : Assembly α) (before : List Instruction) (value : α)
    (after : List Instruction) : Prop :=
  ∀ builder : Builder, builder.code = Instruction.code before →
    ∃ later, assembly.run builder = some (value, later) ∧ later.code = Instruction.code after

theorem Leads.bind {first : Assembly α} {next : α → Assembly β} {value : α} {result : β}
    (leads : first.Leads before value middle) (rest : (next value).Leads middle result after) :
    (first >>= next).Leads before result after := by
  intro builder holds
  obtain ⟨between, ran, holdsBetween⟩ := leads builder holds
  obtain ⟨later, ranRest, holdsLater⟩ := rest between holdsBetween
  refine ⟨later, ?_, holdsLater⟩
  rw [StateT.run_bind, ran]
  exact ranRest

theorem leads_line (text : Line) : (line text).Leads before () (before ++ text.instructions) := by
  intro builder holds
  refine ⟨builder.emitLine text, rfl, ?_⟩
  rw [Builder.code_emitLine, holds, Instruction.code_append]

theorem offset_of_code {builder : Builder} (holds : builder.code = Instruction.code before) :
    builder.offset = 4 * before.length := by
  rw [Builder.offset, holds, Instruction.length_code]

theorem leads_label : label.Leads before (4 * before.length) before := by
  intro builder holds
  refine ⟨builder, ?_, holds⟩
  rw [← offset_of_code holds]
  rfl

theorem leads_slot : slot.Leads before (4 * before.length) (before ++ [.halt]) := by
  intro builder holds
  refine ⟨builder.emit 0, ?_, ?_⟩
  · rw [← offset_of_code holds]
    rfl
  · rw [Builder.emit, holds, Instruction.code_append]
    rfl

theorem leads_distance {source target : Nat} (sourceSmall : source < 2 ^ 31)
    (targetSmall : target < 2 ^ 31) :
    (distance source target).Leads before ((target : Int) - source) before := by
  intro builder holds
  refine ⟨builder, ?_, holds⟩
  rw [distance, Builder.branchOffset?_of_lt sourceSmall targetSmall]
  rfl

theorem leads_fill {index : Nat} (inside : index < before.length) (instruction : Instruction) :
    (fill (4 * index) instruction).Leads before () (before.set index instruction) := by
  intro builder holds
  have stands := offset_of_code holds
  have whole : (Builder.Step.patch (4 * index) instruction.encode).OnWholeWord builder :=
    ⟨by omega, by omega⟩
  obtain ⟨later, patched, holdsLater⟩ := Builder.Holds.apply holds whole
  have place : 4 * index / 4 = index := by omega
  refine ⟨later, ?_, ?_⟩
  · change (do return ((), ← builder.patch? (4 * index) instruction.encode)) = _
    rw [show builder.patch? (4 * index) instruction.encode = some later from patched]
    rfl
  · rw [Instruction.code, List.map_set, ← place]
    exact holdsLater

end Rv32Image.Assembly
