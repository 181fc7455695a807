/-
Which bytes of an image each of its inputs decides.
-/

import Rv32Image.Proofs.Bytes.Agreement
import Rv32Image.Proofs.Image.HeaderField

namespace Rv32Image

namespace HeaderField

/-- The fields whose contents depend on what the image is built from. -/
def ofInputs : List HeaderField :=
  [entry, virtualAddress, physicalAddress, fileSize, memorySize]

variable {code otherCode : List UInt8} {entry otherEntry loadAddress otherLoad : Word}

theorem bytes_written_of_fixed {field : HeaderField} (fixed : field ∉ ofInputs) :
    field.bytes (.written code entry loadAddress) =
      field.bytes (.written otherCode otherEntry otherLoad) := by
  cases field with
  | entry | virtualAddress | physicalAddress | fileSize | memorySize =>
      exact absurd (by decide) fixed
  | _ => rfl

section Written

variable (fits : code.length ≤ Format.maximalCodeLength)
  (otherFits : otherCode.length ≤ Format.maximalCodeLength)

include fits otherFits

theorem agreeOn_build_iff (field : HeaderField) :
    AgreeOn (Image.build code entry loadAddress).bytes
        (Image.build otherCode otherEntry otherLoad).bytes field.first
        (field.first + field.width) ↔
      field.bytes (.written code entry loadAddress) =
        field.bytes (.written otherCode otherEntry otherLoad) := by
  rw [AgreeOn.iff_window_eq, window_build fits, window_build otherFits]

theorem getElem?_build_of_fixed {index : Nat} (inside : index < 84)
    (outside : ∀ field ∈ ofInputs, ¬field.Covers index) :
    (Image.build code entry loadAddress).bytes[index]? =
      (Image.build otherCode otherEntry otherLoad).bytes[index]? := by
  obtain ⟨field, covers⟩ := exists_covers inside
  have fixed : field ∉ ofInputs := fun member => outside field member covers
  exact (agreeOn_build_iff fits otherFits field).mpr (bytes_written_of_fixed fixed) index
    covers.1 covers.2

theorem bytes_length_inj :
    Word.bytes (BitVec.ofNat 32 code.length) = Word.bytes (BitVec.ofNat 32 otherCode.length) ↔
      code.length = otherCode.length := by
  rw [Word.bytes_inj]
  constructor
  · intro same
    rw [← Image.length_mod_eq fits, same, Image.length_mod_eq otherFits]
  · exact congrArg (BitVec.ofNat 32)

end Written

end HeaderField

namespace Image

theorem bytes_build_inj {code otherCode : List UInt8}
    {entry otherEntry loadAddress otherLoad : Word}
    (fits : code.length ≤ Format.maximalCodeLength)
    (otherFits : otherCode.length ≤ Format.maximalCodeLength) :
    (build code entry loadAddress).bytes = (build otherCode otherEntry otherLoad).bytes ↔
      code = otherCode ∧ entry = otherEntry ∧ loadAddress = otherLoad := by
  constructor
  · intro same
    have read := parse_build fits entry loadAddress
    rw [same, parse_build otherFits] at read
    have written := Except.ok.inj read
    exact ⟨congrArg ParsedImage.code written.symm, congrArg ParsedImage.entry written.symm,
      congrArg ParsedImage.loadAddress written.symm⟩
  · rintro ⟨rfl, rfl, rfl⟩
    rfl

/-- Of the headers the entry decides one field, and the load address and the
length of the code two each, injectively; the rest is always the same.  Images
are equal exactly if their bytes are, and then all inputs are. -/
theorem build_inputs_decide_bytes (code otherCode : List UInt8)
    (entry otherEntry loadAddress otherLoad : Word)
    (fits : code.length ≤ Format.maximalCodeLength)
    (otherFits : otherCode.length ≤ Format.maximalCodeLength) :
    let image := build code entry loadAddress
    let other := build otherCode otherEntry otherLoad
    (∀ index < 84, ¬(24 ≤ index ∧ index < 28) → ¬(60 ≤ index ∧ index < 68) →
      ¬(68 ≤ index ∧ index < 76) → image.bytes[index]? = other.bytes[index]?) ∧
    (AgreeOn image.bytes other.bytes 24 28 ↔ entry = otherEntry) ∧
    (AgreeOn image.bytes other.bytes 60 64 ↔ loadAddress = otherLoad) ∧
    (AgreeOn image.bytes other.bytes 64 68 ↔ loadAddress = otherLoad) ∧
    (AgreeOn image.bytes other.bytes 68 72 ↔ code.length = otherCode.length) ∧
    (AgreeOn image.bytes other.bytes 72 76 ↔ code.length = otherCode.length) ∧
    ((image == other) = true ↔ image.bytes = other.bytes) ∧
    (image.bytes = other.bytes ↔
      code = otherCode ∧ entry = otherEntry ∧ loadAddress = otherLoad) := by
  intro image other
  have decided (field : HeaderField) :
      AgreeOn image.bytes other.bytes field.first (field.first + field.width) ↔
        field.bytes (.written code entry loadAddress) =
          field.bytes (.written otherCode otherEntry otherLoad) :=
    HeaderField.agreeOn_build_iff fits otherFits field
  have sameLength := HeaderField.bytes_length_inj fits otherFits
  refine ⟨?_, (decided .entry).trans Word.bytes_inj, (decided .virtualAddress).trans Word.bytes_inj,
    (decided .physicalAddress).trans Word.bytes_inj, (decided .fileSize).trans sameLength,
    (decided .memorySize).trans sameLength, ?_, bytes_build_inj fits otherFits⟩
  · have places : ∀ field ∈ HeaderField.ofInputs,
        24 ≤ field.first ∧ field.first + field.width ≤ 28 ∨
          60 ≤ field.first ∧ field.first + field.width ≤ 76 := by decide
    intro index inside notEntry notLoad notLength
    apply HeaderField.getElem?_build_of_fixed fits otherFits inside
    rintro field member ⟨behind, before⟩
    have place := places field member
    omega
  · rw [beq_iff_eq]
    constructor
    · exact congrArg Image.bytes
    · intro same
      obtain ⟨rfl, rfl, rfl⟩ := (bytes_build_inj fits otherFits).mp same
      rfl

/-- One instruction and a single byte, with one entry at two load addresses. -/
theorem build_inputs_decide_bytes_moved :
    let image := build [0x13, 0x05, 0xA0, 0x00] 0x100 0x200
    let other := build [0x13] 0x100 0x80000200
    [(0x13 : UInt8), 0x05, 0xA0, 0x00].length ≤ Format.maximalCodeLength ∧
      [(0x13 : UInt8)].length ≤ Format.maximalCodeLength ∧
      image.bytes[80]? = other.bytes[80]? ∧
      AgreeOn image.bytes other.bytes 24 28 ∧
      ¬AgreeOn image.bytes other.bytes 64 68 ∧
      ¬AgreeOn image.bytes other.bytes 68 72 ∧
      (image == other) = false := by
  intro image other
  have fits : [(0x13 : UInt8), 0x05, 0xA0, 0x00].length ≤ Format.maximalCodeLength := by decide
  have otherFits : [(0x13 : UInt8)].length ≤ Format.maximalCodeLength := by decide
  obtain ⟨fixed, entry, _, load, size, _, equal, inputs⟩ :=
    build_inputs_decide_bytes [0x13, 0x05, 0xA0, 0x00] [0x13] 0x100 0x100 0x200 0x80000200
      fits otherFits
  refine ⟨fits, otherFits, fixed 80 (by decide) (by decide) (by decide) (by decide),
    entry.mpr rfl, fun agree => absurd (load.mp agree) (by decide),
    fun agree => absurd (size.mp agree) (by decide), ?_⟩
  rw [Bool.eq_false_iff, Ne, equal, inputs]
  decide

end Image

end Rv32Image
