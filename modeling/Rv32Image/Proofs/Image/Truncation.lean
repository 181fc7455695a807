/-
Images that end too early.
-/

import Rv32Image.Proofs.Image.Locality
import Rv32Image.Proofs.Image.RoundTrip

namespace Rv32Image

namespace ParsedImage

open Requirement

variable {data : List UInt8} {length : Nat}

theorem parse_take {image : ParsedImage} (accepted : parse data = .ok image)
    (inside : length ≤ data.length) :
    parse (data.take length) =
      if length < 52 then .error (.tooShort length)
      else if length < image.programHeaderPast then
        .error (.programHeaderOutOfBounds image.header.programHeaderOffset)
      else if length < image.segmentPast then
        .error (.segmentOutOfBounds image.segment.offset image.segment.fileSize)
      else .ok image := by
  have size := List.length_take_of_le inside
  obtain ⟨formed, rfl⟩ := (parse_eq_ok_iff data image).mp accepted
  split
  · have short : (data.take length).length < 52 := by omega
    rw [parse_of_short short, size]
  · split
    · exact parse_of_programHeaderOutside (test_ofFront_of_wellFormed formed) (by omega)
        (AgreeOn.take data 0 (by omega)) (by omega)
    · split
      · rw [parse_of_sameHeaders_of_wellFormed formed (by omega) (AgreeOn.take data 0 (by omega))
          (by omega) (AgreeOn.take data _ (by omega)), if_neg (by omega)]
      · exact parse_of_sameParts accepted (by omega) (by omega) (by omega)
          (AgreeOn.take data 0 (by omega)) (AgreeOn.take data _ (by omega))
          (AgreeOn.take data _ (by omega))

/-- The length of a front alone decides what is made of it, and a front of a written image
that is not all of it is rejected. -/
theorem parse_take_exact :
    (∀ (data : List UInt8) (image : ParsedImage) (length : Nat), parse data = .ok image →
      length ≤ data.length →
        parse (data.take length) =
          if length < 52 then .error (.tooShort length)
          else if length < image.header.programHeaderOffset.toNat + 32 then
            .error (.programHeaderOutOfBounds image.header.programHeaderOffset)
          else if length < image.segment.offset.toNat + image.segment.fileSize.toNat then
            .error (.segmentOutOfBounds image.segment.offset image.segment.fileSize)
          else .ok image) ∧
      ∀ (code : List UInt8) (entry loadAddress : Word) (length : Nat),
        code.length ≤ Format.maximalCodeLength →
        length < (Image.build code entry loadAddress).bytes.length →
          (Image.build code entry loadAddress).bytes.length = 84 + code.length ∧
          parse ((Image.build code entry loadAddress).bytes.take length) =
            .error (if length < 52 then .tooShort length
              else if length < 84 then .programHeaderOutOfBounds 52
              else .segmentOutOfBounds 84 (BitVec.ofNat 32 code.length)) := by
  refine ⟨?_, ?_⟩
  · intro data image length accepted inside
    exact parse_take accepted inside
  · intro code entry loadAddress length fits strict
    have whole : (Image.build code entry loadAddress).bytes.length = 84 + code.length :=
      Image.length_build code entry loadAddress
    have front := parse_take (Image.parse_build fits entry loadAddress) (Nat.le_of_lt strict)
    have programHeader : (written code entry loadAddress).programHeaderPast = 84 := rfl
    have segment : (written code entry loadAddress).segmentPast = 84 + code.length :=
      congrArg (84 + ·) (Image.length_mod_eq fits)
    have short : length < 84 + code.length := by omega
    rw [programHeader, segment, if_pos short] at front
    refine ⟨whole, ?_⟩
    rw [front]
    split
    · rfl
    · split
      · rfl
      · rfl

theorem parse_take_exact_last_byte :
    let front := { FileHeader.executable 0x100 with programHeaderOffset := 54 }.bytes
    let behind := { ProgramHeader.code 0x200 2 with offset := 50 }.bytes
    parse ((front ++ [0xAA, 0xBB] ++ behind).take 85) = .error (.programHeaderOutOfBounds 54) ∧
      parse ((Image.build [0x13, 0x05, 0xA0, 0x00] 0x100 0x200).bytes.take 87) =
        .error (.segmentOutOfBounds 84 4) := by
  intro front behind
  have formed : WellFormed (front ++ [0xAA, 0xBB] ++ behind) := by
    constructor <;> decide
  have accepted := (parse_eq_ok_iff _ _).mpr ⟨formed, rfl⟩
  have cut := parse_take_exact.1 _ _ 85 accepted (by decide)
  have written := parse_take_exact.2 [0x13, 0x05, 0xA0, 0x00] 0x100 0x200 87 (by decide) (by decide)
  exact ⟨cut, written.2⟩

end ParsedImage

end Rv32Image
