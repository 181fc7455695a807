/-
Windows of byte strings and the little-endian fields that stand in them.
-/

import Rv32Image.Word

namespace Rv32Image

/-- A window is shorter than its width only where the data ends. -/
def window (data : List UInt8) (offset width : Nat) : List UInt8 :=
  (data.drop offset).take width

def halfAt (data : List UInt8) (offset : Nat) : Half :=
  Half.ofBytes (window data offset 2)

def wordAt (data : List UInt8) (offset : Nat) : Word :=
  Word.ofBytes (window data offset 4)

theorem length_window {data : List UInt8} {offset width : Nat}
    (inside : offset + width ≤ data.length) :
    (window data offset width).length = width := by
  rw [window, List.length_take, List.length_drop]
  omega

theorem window_zero (data : List UInt8) (width : Nat) :
    window data 0 width = data.take width := by
  rw [window, List.drop_zero]

theorem take_window (data : List UInt8) (width : Nat) {less : Nat} (shorter : less ≤ width) :
    (window data 0 width).take less = window data 0 less := by
  rw [window_zero, window_zero, List.take_take, Nat.min_eq_left shorter]

theorem getElem?_window (data : List UInt8) (width : Nat) {index : Nat} (inside : index < width) :
    (window data 0 width)[index]? = data[index]? := by
  rw [window_zero, List.getElem?_take_of_lt inside]

theorem window_append_left {first : List UInt8} (rest : List UInt8) {width : Nat}
    (exact_width : first.length = width) :
    window (first ++ rest) 0 width = first := by
  rw [window_zero, List.take_left' exact_width]

theorem window_append_right {first : List UInt8} (rest : List UInt8) {offset : Nat}
    (behind : first.length ≤ offset) (width : Nat) :
    window (first ++ rest) offset width = window rest (offset - first.length) width := by
  rw [window, window, List.drop_append, List.drop_eq_nil_of_le behind, List.nil_append]

theorem window_append_window (data : List UInt8) {offset width next : Nat}
    (touch : next = offset + width) (more : Nat) :
    window data offset width ++ window data next more = window data offset (width + more) := by
  rw [window, window, window, touch, List.take_add, List.drop_drop]

theorem window_eq_drop {data : List UInt8} {offset width : Nat}
    (reaches : data.length ≤ offset + width) :
    window data offset width = data.drop offset := by
  rw [window, List.take_of_length_le]
  rw [List.length_drop]
  omega

namespace Half

theorem bytes_ofBytes {bytes : List UInt8} (two : bytes.length = 2) :
    (ofBytes bytes).bytes = bytes := by
  have small := LittleEndian.decode_lt bytes
  rw [two] at small
  change LittleEndian.decode bytes < 2 ^ 16 at small
  rw [Half.bytes, ofBytes, BitVec.toNat_ofNat, Nat.mod_eq_of_lt small, ← two,
    LittleEndian.encode_decode]

end Half

namespace Word

theorem bytes_ofBytes {bytes : List UInt8} (four : bytes.length = 4) :
    (ofBytes bytes).bytes = bytes := by
  have small := LittleEndian.decode_lt bytes
  rw [four] at small
  change LittleEndian.decode bytes < 2 ^ 32 at small
  rw [Word.bytes, ofBytes, BitVec.toNat_ofNat, Nat.mod_eq_of_lt small, ← four,
    LittleEndian.encode_decode]

end Word

theorem bytes_halfAt {data : List UInt8} {offset : Nat} (inside : offset + 2 ≤ data.length) :
    (halfAt data offset).bytes = window data offset 2 :=
  Half.bytes_ofBytes (length_window inside)

theorem bytes_wordAt {data : List UInt8} {offset : Nat} (inside : offset + 4 ≤ data.length) :
    (wordAt data offset).bytes = window data offset 4 :=
  Word.bytes_ofBytes (length_window inside)

/-! ### Fields of a concatenation -/

theorem halfAt_bytes_append (half : Half) (rest : List UInt8) :
    halfAt (half.bytes ++ rest) 0 = half := by
  rw [halfAt, window_append_left rest half.length_bytes, Half.ofBytes_bytes]

theorem wordAt_bytes_append (word : Word) (rest : List UInt8) :
    wordAt (word.bytes ++ rest) 0 = word := by
  rw [wordAt, window_append_left rest word.length_bytes, Word.ofBytes_bytes]

theorem halfAt_append_right {first : List UInt8} (rest : List UInt8) {offset : Nat}
    (behind : first.length ≤ offset) :
    halfAt (first ++ rest) offset = halfAt rest (offset - first.length) := by
  rw [halfAt, halfAt, window_append_right rest behind]

theorem wordAt_append_right {first : List UInt8} (rest : List UInt8) {offset : Nat}
    (behind : first.length ≤ offset) :
    wordAt (first ++ rest) offset = wordAt rest (offset - first.length) := by
  rw [wordAt, wordAt, window_append_right rest behind]

end Rv32Image
