/-
Byte strings of any lengths that agree on a range of indices.
-/

import Rv32Image.Proofs.Bytes.Window

namespace Rv32Image

/-- Both have the same byte, or none, at each index from `first` up to `past`. -/
def AgreeOn (data other : List UInt8) (first past : Nat) : Prop :=
  ∀ index, first ≤ index → index < past → data[index]? = other[index]?

instance (data other : List UInt8) (first past : Nat) :
    Decidable (AgreeOn data other first past) :=
  decidable_of_iff (∀ index < past, first ≤ index → data[index]? = other[index]?)
    ⟨fun agree index behind before => agree index before behind,
      fun agree index before behind => agree index behind before⟩

theorem getElem?_window_add (data : List UInt8) (offset width index : Nat) :
    (window data offset width)[index]? = if index < width then data[offset + index]? else none := by
  rw [window, List.getElem?_take, List.getElem?_drop]

namespace AgreeOn

variable {data other : List UInt8} {first past : Nat}

theorem refl (data : List UInt8) (first past : Nat) : AgreeOn data data first past :=
  fun _ _ _ => rfl

theorem take {length : Nat} (data : List UInt8) (first : Nat) (kept : past ≤ length) :
    AgreeOn (data.take length) data first past := by
  intro index _ before
  exact List.getElem?_take_of_lt (Nat.lt_of_lt_of_le before kept)

theorem append (rest : List UInt8) (first : Nat) (inside : past ≤ data.length) :
    AgreeOn (data ++ rest) data first past := by
  intro index _ before
  exact List.getElem?_append_left (Nat.lt_of_lt_of_le before inside)

theorem set {index : Nat} (data : List UInt8) (byte : UInt8)
    (outside : index < first ∨ past ≤ index) :
    AgreeOn (data.set index byte) data first past := by
  intro other behind before
  have different : index ≠ other := by omega
  exact List.getElem?_set_ne different

theorem window_eq (agree : AgreeOn data other first past) {offset width : Nat}
    (behind : first ≤ offset) (before : offset + width ≤ past) :
    window data offset width = window other offset width := by
  apply List.ext_getElem?
  intro index
  rw [getElem?_window_add, getElem?_window_add]
  split
  · exact agree (offset + index) (by omega) (by omega)
  · rfl

theorem iff_window_eq {width : Nat} :
    AgreeOn data other first (first + width) ↔
      window data first width = window other first width := by
  constructor
  · intro agree
    exact agree.window_eq (Nat.le_refl _) (Nat.le_refl _)
  · intro same index behind before
    have there : (window data first width)[index - first]? =
        (window other first width)[index - first]? := by rw [same]
    have within : index - first < width := by omega
    rw [getElem?_window_add, getElem?_window_add, if_pos within, if_pos within,
      Nat.add_sub_cancel' behind] at there
    exact there

theorem halfAt_eq (agree : AgreeOn data other first past) {offset : Nat}
    (behind : first ≤ offset) (before : offset + 2 ≤ past) :
    halfAt data offset = halfAt other offset := by
  rw [halfAt, halfAt, agree.window_eq behind before]

theorem wordAt_eq (agree : AgreeOn data other first past) {offset : Nat}
    (behind : first ≤ offset) (before : offset + 4 ≤ past) :
    wordAt data offset = wordAt other offset := by
  rw [wordAt, wordAt, agree.window_eq behind before]

theorem getD_eq (agree : AgreeOn data other first past) {index : Nat} (behind : first ≤ index)
    (before : index < past) : data.getD index 0 = other.getD index 0 := by
  rw [List.getD_eq_getElem?_getD, List.getD_eq_getElem?_getD, agree index behind before]

end AgreeOn

/-! ### One changed byte -/

section Changed

variable {data : List UInt8} {index offset width : Nat} {byte : UInt8}

/-- A changed byte changes the windows that it lies in and no others. -/
theorem window_set_ne_iff (present : index < data.length) (different : data[index]? ≠ some byte) :
    window (data.set index byte) offset width ≠ window data offset width ↔
      offset ≤ index ∧ index < offset + width := by
  rw [Ne, ← AgreeOn.iff_window_eq]
  constructor
  · intro changed
    apply Decidable.byContradiction
    intro outside
    exact changed (AgreeOn.set data byte (by omega))
  · rintro ⟨behind, before⟩ agree
    have there := agree index behind before
    rw [List.getElem?_set_self present] at there
    exact different there.symm

theorem wordAt_set_ne (present : index < data.length) (different : data[index]? ≠ some byte)
    (inside : offset + 4 ≤ data.length) (behind : offset ≤ index) (before : index < offset + 4) :
    wordAt (data.set index byte) offset ≠ wordAt data offset := by
  have insideToo : offset + 4 ≤ (data.set index byte).length := by
    rw [List.length_set]
    exact inside
  rw [Ne, ← Word.bytes_inj, bytes_wordAt inside, bytes_wordAt insideToo]
  exact (window_set_ne_iff present different).mpr ⟨behind, before⟩

theorem window_set_of_le (behind : offset ≤ index) :
    window (data.set index byte) offset width =
      (window data offset width).set (index - offset) byte := by
  rw [window, window, List.drop_set, if_neg (Nat.not_lt.mpr behind), List.take_set]

end Changed

end Rv32Image
