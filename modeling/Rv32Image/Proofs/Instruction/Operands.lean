/-
What becomes of the operands of an instruction in its word.
-/

import Rv32Image.Proofs.Instruction.Field

namespace Rv32Image

namespace Word

/-! ### Immediates that come back -/

theorem bmod_eq_self_iff {value : Int} {half : Nat} (positive : 0 < half) :
    Int.bmod value (2 * half) = value ↔ -half ≤ value ∧ value < half := by
  rw [Int.bmod_eq_iff (by omega)]
  constructor
  · rintro ⟨lower, upper, _⟩
    omega
  · rintro ⟨lower, upper⟩
    refine ⟨by omega, by omega, ?_⟩
    rw [Int.sub_self]
    exact Int.dvd_zero _

theorem double_bmod_half_eq (distance : Int) {size : Nat} (evenSize : size % 2 = 0)
    (positive : 0 < size) :
    2 * Int.bmod (distance / 2) size = Int.bmod (distance - distance % 2) (2 * size) := by
  have lower := Int.le_bmod (x := distance / 2) positive
  have upper := Int.bmod_lt (x := distance / 2) positive
  have even : (distance - distance % 2) % 2 = 0 := by omega
  have half : (distance - distance % 2) / 2 = distance / 2 := by omega
  obtain ⟨turns, off⟩ := exists_double_bmod_half_eq_add even size
  rw [half] at off
  symm
  rw [Int.bmod_eq_iff (by omega)]
  refine ⟨by omega, by omega, turns, ?_⟩
  push_cast
  rw [off, Int.mul_comm turns]
  omega

theorem bmod_even_eq_self_iff {distance : Int} {size : Nat} (evenSize : size % 2 = 0)
    (positive : 0 < size) :
    Int.bmod (distance - distance % 2) (2 * size) = distance ↔
      distance % 2 = 0 ∧ -size ≤ distance ∧ distance < size := by
  rw [← double_bmod_half_eq distance evenSize positive]
  constructor
  · intro same
    have even : distance % 2 = 0 := by omega
    exact ⟨even, (double_bmod_half_eq_iff even evenSize positive).mp same⟩
  · rintro ⟨even, near⟩
    exact (double_bmod_half_eq_iff even evenSize positive).mpr near

end Word

namespace Form

open Word

/-- Every operand that fits its field comes back, and every immediate comes back modulo the
width of its field. -/
theorem operands_come_back (funct7 source2 source1 funct3 destination opcode : Word)
    (funct7Fits : funct7.toNat < 128) (source2Fits : source2.toNat < 32)
    (source1Fits : source1.toNat < 32) (funct3Fits : funct3.toNat < 8)
    (destinationFits : destination.toNat < 32) (opcodeFits : opcode.toNat < 128) (value : Int)
    (upperValue : Word) :
    (let word := register funct7 source2 source1 funct3 destination opcode
     word.opcode.toNat = opcode.toNat ∧ word.destination.toNat = destination.toNat ∧
       word.funct3.toNat = funct3.toNat ∧ word.source1.toNat = source1.toNat ∧
       word.source2.toNat = source2.toNat ∧ word.funct7.toNat = funct7.toNat) ∧
    (let word := immediate value source1 funct3 destination opcode
     word.opcode.toNat = opcode.toNat ∧ word.destination.toNat = destination.toNat ∧
       word.funct3.toNat = funct3.toNat ∧ word.source1.toNat = source1.toNat ∧
       word.immediate = Int.bmod value (2 ^ 12) ∧
       (word.immediate = value ↔ -2 ^ 11 ≤ value ∧ value < 2 ^ 11)) ∧
    (let word := store value source2 source1 funct3
     word.opcode = 0x23#7 ∧ word.funct3.toNat = funct3.toNat ∧
       word.source1.toNat = source1.toNat ∧ word.source2.toNat = source2.toNat ∧
       word.storeOffset = Int.bmod value (2 ^ 12) ∧
       (word.storeOffset = value ↔ -2 ^ 11 ≤ value ∧ value < 2 ^ 11)) ∧
    (let word := branch value source2 source1 funct3
     word.opcode = 0x63#7 ∧ word.funct3.toNat = funct3.toNat ∧
       word.source1.toNat = source1.toNat ∧ word.source2.toNat = source2.toNat ∧
       word.branchDistance = Int.bmod (value - value % 2) (2 ^ 13) ∧
       (word.branchDistance = value ↔ value % 2 = 0 ∧ -2 ^ 12 ≤ value ∧ value < 2 ^ 12)) ∧
    (let word := upper upperValue destination opcode
     word.opcode.toNat = opcode.toNat ∧ word.destination.toNat = destination.toNat ∧
       word.upperValue.toNat = upperValue.toNat % 2 ^ 20 ∧
       (word.upperValue.toNat = upperValue.toNat ↔ upperValue.toNat < 2 ^ 20)) ∧
    (let word := jump value destination
     word.opcode = 0x6F#7 ∧ word.destination.toNat = destination.toNat ∧
       word.jumpDistance = Int.bmod (value - value % 2) (2 ^ 21) ∧
       (word.jumpDistance = value ↔ value % 2 = 0 ∧ -2 ^ 20 ≤ value ∧ value < 2 ^ 20)) := by
  obtain ⟨funct7, rfl⟩ := exists_ofField_of_lt (show funct7.toNat < 2 ^ 7 from funct7Fits)
  obtain ⟨source2, rfl⟩ := exists_register_of_lt source2Fits
  obtain ⟨source1, rfl⟩ := exists_register_of_lt source1Fits
  obtain ⟨funct3, rfl⟩ := exists_ofField_of_lt (show funct3.toNat < 2 ^ 3 from funct3Fits)
  obtain ⟨destination, rfl⟩ := exists_register_of_lt destinationFits
  obtain ⟨opcode, rfl⟩ := exists_ofField_of_lt (show opcode.toNat < 2 ^ 7 from opcodeFits)
  have near : Int.bmod value (2 ^ 12) = value ↔ -2 ^ 11 ≤ value ∧ value < 2 ^ 11 := by
    rw [show 2 ^ 12 = 2 * 2048 from rfl, bmod_eq_self_iff (by decide)]
    omega
  have branchValue : 2 * Int.bmod (value / 2) (2 ^ 12) = Int.bmod (value - value % 2) (2 ^ 13) :=
    double_bmod_half_eq value (by decide) (by decide)
  have branchReach : Int.bmod (value - value % 2) (2 ^ 13) = value ↔
      value % 2 = 0 ∧ -2 ^ 12 ≤ value ∧ value < 2 ^ 12 := by
    rw [show 2 ^ 13 = 2 * 4096 from rfl, bmod_even_eq_self_iff (by decide) (by decide)]
    omega
  have jumpValue : 2 * Int.bmod (value / 2) (2 ^ 20) = Int.bmod (value - value % 2) (2 ^ 21) :=
    double_bmod_half_eq value (by decide) (by decide)
  have jumpReach : Int.bmod (value - value % 2) (2 ^ 21) = value ↔
      value % 2 = 0 ∧ -2 ^ 20 ≤ value ∧ value < 2 ^ 20 := by
    rw [show 2 ^ 21 = 2 * 1048576 from rfl, bmod_even_eq_self_iff (by decide) (by decide)]
    omega
  refine ⟨?_, ?_, ?_, ?_, ?_, ?_⟩
  · have fields := fields_register opcode funct7 funct3 source2 source1 destination
    simp (disch := decide) only [fields, toNat_ofField, and_self]
  · have fields := fields_immediate opcode funct3 source1 destination value
    simp (disch := decide) only [fields, toNat_ofField, near, and_self]
  · have fields := fields_store funct3 source2 source1 value
    simp (disch := decide) only [fields, toNat_ofField, near, and_self]
  · have fields := fields_branch funct3 source2 source1 value
    rw [branchValue] at fields
    simp (disch := decide) only [fields, toNat_ofField, branchReach, and_self]
  · have fields := fields_upper opcode destination upperValue
    simp (disch := decide) only [fields, toNat_ofField, BitVec.toNat_setWidth, true_and]
    rw [Nat.mod_eq_iff_lt (by decide)]
  · have fields := fields_jump destination value
    rw [jumpValue] at fields
    simp (disch := decide) only [fields, toNat_ofField, jumpReach, and_self]

theorem operands_come_back_wrapped :
    (127 : Word).toNat < 128 ∧ (30 : Word).toNat < 32 ∧ (31 : Word).toNat < 32 ∧
      (7 : Word).toNat < 8 ∧ (29 : Word).toNat < 32 ∧
      (immediate (-4097) 31 7 29 127).immediate = -1 ∧
      (branch (-4097) 30 31 7).source2.toNat = 30 ∧
      (branch (-4097) 30 31 7).branchDistance = 4094 ∧
      (jump (-4097) 29).jumpDistance = -4098 := by
  obtain ⟨_, immediateForm, _, branchForm, _, jumpForm⟩ :=
    operands_come_back 127 30 31 7 29 127 (by decide) (by decide) (by decide) (by decide)
      (by decide) (by decide) (-4097) 0xFFFFFFFF
  obtain ⟨_, _, _, _, immediateAt, _⟩ := immediateForm
  obtain ⟨_, _, _, source2At, branchAt, _⟩ := branchForm
  obtain ⟨_, _, jumpAt, _⟩ := jumpForm
  exact ⟨by decide, by decide, by decide, by decide, by decide, immediateAt, source2At, branchAt,
    jumpAt⟩

end Form

end Rv32Image
