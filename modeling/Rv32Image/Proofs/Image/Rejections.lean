/-
The rejection that is reported for data that is not accepted.
-/

import Rv32Image.Proofs.Image.Requirements
import Rv32Image.Proofs.Image.WriteOutcome

namespace Rv32Image

namespace ParsedImage

theorem parse_eq_error_iff (data : List UInt8) (rejection : Rejection) :
    parse data = .error rejection ↔
      Requirement.test (Requirement.ofData data) = .error rejection := by
  rw [parse_eq]
  cases Requirement.test (Requirement.ofData data) with
  | error reported =>
      change (Except.error reported : Except Rejection ParsedImage) = .error rejection ↔ _
      rw [Except.error.injEq, Except.error.injEq]
  | ok met => constructor <;> (intro impossible; cases impossible)

theorem ofFile_eq_malformed_iff (path : String) (data : List UInt8) (rejection : Rejection) :
    ofFile path (.ok data) = .error (.malformed rejection) ↔ parse data = .error rejection := by
  rw [ofFile]
  cases parse data with
  | error reported =>
      dsimp only [Except.mapError]
      rw [Except.error.injEq, Except.error.injEq, Error.malformed.injEq]
  | ok image => constructor <;> (intro impossible; cases impossible)

/-- The requirements in their order, of which the first that is not met is reported.  A
byte that the data does not have is listed as zero, but then the length is reported. -/
theorem parse_rejects_first_unmet (data : List UInt8) :
    (let place := (wordAt data 28).toNat
     let offset := wordAt data (place + 4)
     let fileSize := wordAt data (place + 16)
     let memorySize := wordAt data (place + 20)
     Requirement.ofData data =
       [⟨decide (52 ≤ data.length), .tooShort data.length⟩,
         ⟨decide (window data 0 4 = [0x7F, 0x45, 0x4C, 0x46]), .invalidMagic⟩,
         ⟨decide (data.getD 4 0 = 1), .unsupportedClass (data.getD 4 0)⟩,
         ⟨decide (data.getD 5 0 = 1), .unsupportedEncoding (data.getD 5 0)⟩,
         ⟨decide (data.getD 6 0 = 1),
           .unsupportedVersion (BitVec.ofNat 32 (data.getD 6 0).toNat)⟩,
         ⟨decide (halfAt data 16 = 2), .unsupportedFileType (halfAt data 16)⟩,
         ⟨decide (halfAt data 18 = 0xF3), .unsupportedMachine (halfAt data 18)⟩,
         ⟨decide (wordAt data 20 = 1), .unsupportedVersion (wordAt data 20)⟩,
         ⟨decide (halfAt data 40 = 52), .invalidFileHeaderSize (halfAt data 40)⟩,
         ⟨decide (halfAt data 42 = 32), .invalidProgramHeaderSize (halfAt data 42)⟩,
         ⟨decide (halfAt data 44 = 1), .invalidProgramHeaderCount (halfAt data 44)⟩,
         ⟨decide (place + 32 ≤ data.length), .programHeaderOutOfBounds (wordAt data 28)⟩,
         ⟨decide (wordAt data place = 1), .notLoadable (wordAt data place)⟩,
         ⟨decide (fileSize = memorySize), .sizeMismatch fileSize memorySize⟩,
         ⟨decide (offset.toNat + fileSize.toNat ≤ data.length),
           .segmentOutOfBounds offset fileSize⟩]) ∧
    ∀ rejection,
      (parse data = .error rejection ↔
        ∃ before unmet after, Requirement.ofData data = before ++ unmet :: after ∧
          (∀ requirement ∈ before, requirement.met = true) ∧ unmet.met = false ∧
          unmet.rejection = rejection) ∧
      ∀ (path : String) (world : World), world.store.readFile path = .ok data →
        ((load path).run world = (.error (.malformed rejection), world) ↔
          parse data = .error rejection) := by
  refine ⟨rfl, ?_⟩
  intro rejection
  constructor
  · rw [parse_eq_error_iff, Requirement.test_eq_error_iff]
  · intro path world readable
    rw [run_load, readable, Prod.mk.injEq, and_iff_left rfl, ofFile_eq_malformed_iff]

theorem parse_rejects_first_unmet_object_file :
    let data := { FileHeader.executable 0x100 with
      fileType := 1, machine := 0x3E, programHeaderCount := 2 }.bytes
    let world := World.ofStore ((Store.fresh []).insert ["a.o"] (.file data))
    parse data = .error (.unsupportedFileType 1) ∧
      world.store.readFile "a.o" = .ok data ∧
      (load "a.o").run world = (.error (.malformed (.unsupportedFileType 1)), world) := by
  intro data world
  obtain ⟨_, reported⟩ := parse_rejects_first_unmet data
  obtain ⟨parsed, loaded⟩ := reported (.unsupportedFileType 1)
  have rejected : parse data = .error (.unsupportedFileType 1) :=
    parsed.mpr ⟨(Requirement.ofData data).take 5, ⟨false, .unsupportedFileType 1⟩,
      (Requirement.ofData data).drop 6, rfl, by decide, rfl, rfl⟩
  have readable : world.store.readFile "a.o" = .ok data := rfl
  exact ⟨rejected, readable, (loaded "a.o" world readable).mpr rejected⟩

end ParsedImage

end Rv32Image
