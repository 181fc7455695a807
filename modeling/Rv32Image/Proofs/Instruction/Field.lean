/-
The fields of an instruction word: fixed runs of bits, of which an immediate joins up to
four.
-/

import Mathlib.Algebra.Group.Int.Defs
import Mathlib.Algebra.Group.Nat.Defs
import Rv32Image.Instruction.Form

namespace Rv32Image

namespace Word

def opcode (word : Word) : BitVec 7 :=
  word.extractLsb' 0 7

def destination (word : Word) : BitVec 5 :=
  word.extractLsb' 7 5

def funct3 (word : Word) : BitVec 3 :=
  word.extractLsb' 12 3

def source1 (word : Word) : BitVec 5 :=
  word.extractLsb' 15 5

def source2 (word : Word) : BitVec 5 :=
  word.extractLsb' 20 5

def funct7 (word : Word) : BitVec 7 :=
  word.extractLsb' 25 7

/-- Bits 31 to 20, signed. -/
def immediate (word : Word) : Int :=
  (word.extractLsb' 20 12).toInt

/-- Bits 31 to 25 above bits 11 to 7, signed. -/
def storeOffset (word : Word) : Int :=
  (word.extractLsb' 25 7 ++ word.extractLsb' 7 5).toInt

/-- Bits 31, 7, 30 to 25 and 11 to 8 above a zero, signed. -/
def branchDistance (word : Word) : Int :=
  (word.extractLsb' 31 1 ++ word.extractLsb' 7 1 ++ word.extractLsb' 25 6 ++
    word.extractLsb' 8 4 ++ 0#1).toInt

def upperValue (word : Word) : BitVec 20 :=
  word.extractLsb' 12 20

/-- Bits 31, 19 to 12, 20 and 30 to 21 above a zero, signed. -/
def jumpDistance (word : Word) : Int :=
  (word.extractLsb' 31 1 ++ word.extractLsb' 12 8 ++ word.extractLsb' 20 1 ++
    word.extractLsb' 21 10 ++ 0#1).toInt

def ofField {width : Nat} (field : BitVec width) : Word :=
  field.setWidth 32

theorem exists_ofField_of_lt {operand : Word} {width : Nat} (fits : operand.toNat < 2 ^ width) :
    ∃ field : BitVec width, ofField field = operand := by
  refine ⟨BitVec.ofNat width operand.toNat, ?_⟩
  apply BitVec.eq_of_toNat_eq
  rw [ofField, BitVec.toNat_setWidth, BitVec.toNat_ofNat, Nat.mod_eq_of_lt fits,
    Nat.mod_eq_of_lt operand.isLt]

theorem exists_register_of_lt {number : Word} (small : number.toNat < 32) :
    ∃ field : BitVec 5, ofField field = number :=
  exists_ofField_of_lt small

theorem toNat_ofField {width : Nat} (narrow : width ≤ 32) (field : BitVec width) :
    (ofField field).toNat = field.toNat :=
  BitVec.toNat_setWidth_of_le narrow

theorem toInt_ofNat_of_lt {number : Nat} (small : number < 2 ^ 31) :
    (BitVec.ofNat 32 number).toInt = number := by
  rw [BitVec.toInt_ofNat']
  exact Int.bmod_eq_of_le (by omega) (by omega)

/-! ### Runs of bits

A form joins operands that are shifted and masked, and all but one of them lie outside
a run of its bits. -/

section Runs

variable {low width : Nat}

theorem run_of_shifted (operand : Word) {shift : Nat} (above : shift ≤ low)
    (inside : low + width ≤ 32) :
    (operand <<< shift).extractLsb' low width = operand.extractLsb' (low - shift) width := by
  apply BitVec.eq_of_getLsbD_eq
  intro index small
  have notBelow : ¬low + index < shift := by omega
  have place : low + index - shift = low - shift + index := by omega
  rw [BitVec.getLsbD_extractLsb', BitVec.getLsbD_extractLsb', BitVec.getLsbD_shiftLeft,
    decide_eq_true (by omega : low + index < 32), decide_eq_false notBelow, place]
  rfl

theorem run_below_shifted (operand : Word) {shift : Nat} (below : low + width ≤ shift) :
    (operand <<< shift).extractLsb' low width = 0 := by
  apply BitVec.eq_of_getLsbD_eq
  intro index small
  rw [BitVec.getLsbD_extractLsb', BitVec.getLsbD_shiftLeft,
    decide_eq_true (by omega : low + index < shift)]
  simp

theorem run_of_unshifted (operand : Word) (shift : Nat) :
    (operand >>> shift).extractLsb' low width = operand.extractLsb' (shift + low) width := by
  apply BitVec.eq_of_getLsbD_eq
  intro index small
  rw [BitVec.getLsbD_extractLsb', BitVec.getLsbD_extractLsb', BitVec.getLsbD_ushiftRight,
    Nat.add_assoc]

theorem run_of_masked (operand : Word) {mask : Word}
    (ones : mask.extractLsb' low width = BitVec.allOnes width) :
    (operand &&& mask).extractLsb' low width = operand.extractLsb' low width := by
  rw [BitVec.extractLsb'_and, ones, BitVec.and_allOnes]

theorem run_beside_mask (operand : Word) {mask : Word} (zeros : mask.extractLsb' low width = 0) :
    (operand &&& mask).extractLsb' low width = 0 := by
  rw [BitVec.extractLsb'_and, zeros]
  exact BitVec.and_zero

theorem run_of_field (field : BitVec width) (narrow : width ≤ 32) :
    (ofField field).extractLsb' 0 width = field := by
  rw [ofField, BitVec.extractLsb'_setWidth_of_le (by omega), BitVec.extractLsb'_eq_self]

theorem run_above_field {narrow : Nat} (field : BitVec narrow) (above : narrow ≤ low) :
    (ofField field).extractLsb' low width = 0 := by
  apply BitVec.eq_of_getLsbD_eq
  intro index small
  rw [BitVec.getLsbD_extractLsb', ofField, BitVec.getLsbD_setWidth,
    BitVec.getLsbD_of_ge field _ (by omega)]
  simp

theorem toInt_run_ofInt (value : Int) (inside : low + width ≤ 32) :
    ((BitVec.ofInt 32 value).extractLsb' low width).toInt =
      Int.bmod (value / 2 ^ low) (2 ^ width) := by
  obtain ⟨rest, total⟩ := Nat.exists_eq_add_of_le inside
  have split : (2 : Int) ^ 32 = 2 ^ low * (2 ^ width * 2 ^ rest) := by
    rw [total, Int.pow_add, Int.pow_add, Int.mul_assoc]
  have positive : (2 : Int) ^ low ≠ 0 := by
    have := Int.pow_pos (n := 2) (m := low) (by decide)
    omega
  have low_bits : ((BitVec.ofInt 32 value).toNat : Int) = value % 2 ^ 32 := by
    rw [BitVec.toNat_ofInt]
    exact Int.toNat_of_nonneg (Int.emod_nonneg _ (by decide))
  have quotient : value / 2 ^ low =
      value % 2 ^ 32 / 2 ^ low + 2 ^ width * (2 ^ rest * (value / 2 ^ 32)) := by
    conv => lhs; rw [← Int.emod_add_mul_ediv value (2 ^ 32), split, Int.mul_assoc, Int.mul_assoc]
    rw [Int.add_mul_ediv_left _ _ positive, ← split]
  rw [BitVec.toInt_extractLsb', Nat.shiftRight_eq_div_pow, Int.natCast_ediv, low_bits, quotient,
    Int.natCast_pow]
  have width_cast : (2 : Int) ^ width = ((2 ^ width : Nat) : Int) := by
    rw [Int.natCast_pow]
    rfl
  rw [width_cast, Int.add_mul_bmod_self_left]
  rfl

theorem toInt_low_run_ofInt (value : Int) (inside : width ≤ 32) :
    ((BitVec.ofInt 32 value).extractLsb' 0 width).toInt = Int.bmod value (2 ^ width) := by
  rw [toInt_run_ofInt value (by omega), Int.pow_zero, Int.ediv_one]

theorem toInt_even_run_ofInt (value : Int) (inside : width < 32) :
    ((BitVec.ofInt 32 value).extractLsb' 1 width ++ 0#1).toInt =
      2 * Int.bmod (value / 2) (2 ^ width) := by
  rw [BitVec.toInt_append_zero, toInt_run_ofInt value (by omega), Int.pow_one]

end Runs

/-! ### Immediates that stand in several runs -/

section Immediates

variable (bits : Word)

theorem join_store_runs :
    bits.extractLsb' 5 7 ++ bits.extractLsb' 0 5 = bits.extractLsb' 0 12 :=
  BitVec.extractLsb'_append_extractLsb'_eq_extractLsb' rfl

theorem join_branch_runs :
    bits.extractLsb' 12 1 ++ bits.extractLsb' 11 1 ++ bits.extractLsb' 5 6 ++
      bits.extractLsb' 1 4 = bits.extractLsb' 1 12 := by
  rw [BitVec.extractLsb'_append_extractLsb'_eq_extractLsb' (show 12 = 11 + 1 from rfl),
    BitVec.extractLsb'_append_extractLsb'_eq_extractLsb' (show 11 = 5 + 6 from rfl),
    BitVec.extractLsb'_append_extractLsb'_eq_extractLsb' (show 5 = 1 + 4 from rfl)]

theorem join_jump_runs :
    bits.extractLsb' 20 1 ++ bits.extractLsb' 12 8 ++ bits.extractLsb' 11 1 ++
      bits.extractLsb' 1 10 = bits.extractLsb' 1 20 := by
  rw [BitVec.extractLsb'_append_extractLsb'_eq_extractLsb' (show 20 = 12 + 8 from rfl),
    BitVec.extractLsb'_append_extractLsb'_eq_extractLsb' (show 12 = 11 + 1 from rfl),
    BitVec.extractLsb'_append_extractLsb'_eq_extractLsb' (show 11 = 1 + 10 from rfl)]

end Immediates

/-! ### Even distances, stored without their lowest bit -/

section Distances

variable {distance : Int} {size : Nat}

/-- Exactly the distances from `-size` to `size` come back. -/
theorem double_bmod_half_eq_iff (even : distance % 2 = 0) (evenSize : size % 2 = 0)
    (positive : 0 < size) :
    2 * Int.bmod (distance / 2) size = distance ↔ -size ≤ distance ∧ distance < size := by
  constructor
  · intro same
    have lower := Int.le_bmod (x := distance / 2) positive
    have upper := Int.bmod_lt (x := distance / 2) positive
    omega
  · intro near
    rw [Int.bmod_eq_of_le (by omega) (by omega)]
    omega

theorem exists_double_bmod_half_eq_add (even : distance % 2 = 0) (size : Nat) :
    ∃ turns : Int, 2 * Int.bmod (distance / 2) size = distance + turns * (2 * size) := by
  have split := Int.bmod_add_bdiv' (distance / 2) size
  refine ⟨-Int.bdiv (distance / 2) size, ?_⟩
  have halves : distance = 2 * (distance / 2) := by omega
  rw [Int.neg_mul, Int.mul_left_comm]
  omega

end Distances

end Word

/-! ### The fields of each form -/

namespace Form

open Word

section Fields

variable (opcode funct7 : BitVec 7) (funct3 : BitVec 3) (source2 source1 destination : BitVec 5)

attribute [local simp] BitVec.extractLsb'_or run_of_shifted run_below_shifted run_of_unshifted
  run_of_masked run_beside_mask run_of_field run_above_field

theorem fields_register :
    let word := register (ofField funct7) (ofField source2) (ofField source1) (ofField funct3)
      (ofField destination) (ofField opcode)
    word.opcode = opcode ∧ word.destination = destination ∧ word.funct3 = funct3 ∧
      word.source1 = source1 ∧ word.source2 = source2 ∧ word.funct7 = funct7 := by
  simp (disch := decide) [register, Word.opcode, Word.destination, Word.funct3, Word.source1,
    Word.source2, Word.funct7]

theorem fields_immediate (value : Int) :
    let word := immediate value (ofField source1) (ofField funct3) (ofField destination)
      (ofField opcode)
    word.opcode = opcode ∧ word.destination = destination ∧ word.funct3 = funct3 ∧
      word.source1 = source1 ∧ word.immediate = Int.bmod value (2 ^ 12) := by
  rw [← toInt_low_run_ofInt value (by decide)]
  simp (disch := decide) [immediate, Word.opcode, Word.destination, Word.funct3, Word.source1,
    Word.immediate]

theorem fields_store (offset : Int) :
    let word := store offset (ofField source2) (ofField source1) (ofField funct3)
    word.opcode = 0x23#7 ∧ word.funct3 = funct3 ∧ word.source1 = source1 ∧
      word.source2 = source2 ∧ word.storeOffset = Int.bmod offset (2 ^ 12) := by
  rw [← toInt_low_run_ofInt offset (by decide), ← join_store_runs]
  simp (disch := decide) [store, Opcode.store, Word.opcode, Word.funct3, Word.source1,
    Word.source2, Word.storeOffset]

theorem fields_branch (distance : Int) :
    let word := branch distance (ofField source2) (ofField source1) (ofField funct3)
    word.opcode = 0x63#7 ∧ word.funct3 = funct3 ∧ word.source1 = source1 ∧
      word.source2 = source2 ∧ word.branchDistance = 2 * Int.bmod (distance / 2) (2 ^ 12) := by
  rw [← toInt_even_run_ofInt distance (by decide), ← join_branch_runs]
  simp (disch := decide) [branch, Opcode.branch, Word.opcode, Word.funct3, Word.source1,
    Word.source2, Word.branchDistance]

theorem fields_upper (value : Word) :
    let word := upper value (ofField destination) (ofField opcode)
    word.opcode = opcode ∧ word.destination = destination ∧
      word.upperValue = value.setWidth 20 := by
  rw [BitVec.setWidth_eq_extractLsb' (by decide)]
  simp (disch := decide) [upper, Word.opcode, Word.destination, Word.upperValue]

theorem fields_jump (distance : Int) :
    let word := jump distance (ofField destination)
    word.opcode = 0x6F#7 ∧ word.destination = destination ∧
      word.jumpDistance = 2 * Int.bmod (distance / 2) (2 ^ 20) := by
  rw [← toInt_even_run_ofInt distance (by decide), ← join_jump_runs]
  simp (disch := decide) [jump, Opcode.jal, Word.opcode, Word.destination, Word.jumpDistance]

end Fields

end Form

end Rv32Image
