/-
Wrapping code, and wrapping again from the listing of the image.
-/

import Rv32Image.Proofs.CommandLine.ListingText
import Rv32Image.Proofs.CommandLine.Tasks
import Rv32Image.Proofs.Image.RoundTrip

namespace Rv32Image

open Store Command

/-- An image can hold the code and the user allows its size. -/
structure Fits (maximalSize? : Option Nat) (code : List UInt8) : Prop where
  format : code.length ≤ Format.maximalCodeLength
  limit : ∀ limit, maximalSize? = some limit → code.length ≤ limit

theorem Image.buildWithin_of_fits {maximalSize? : Option Nat} {code : List UInt8}
    (fits : Fits maximalSize? code) (entry loadAddress : Word) :
    buildWithin maximalSize? code entry loadAddress = .ok (build code entry loadAddress) := by
  unfold buildWithin
  rw [if_neg (Nat.not_lt.mpr fits.format)]
  cases limited : maximalSize? with
  | none => rfl
  | some limit => exact if_neg (Nat.not_lt.mpr (fits.limit limit limited))

theorem Image.fits_of_buildWithin {maximalSize? : Option Nat} {code : List UInt8}
    {entry loadAddress : Word} {image : Image}
    (built : buildWithin maximalSize? code entry loadAddress = .ok image) :
    Fits maximalSize? code := by
  unfold buildWithin at built
  split at built
  · cases built
  · rename_i notBeyond
    refine ⟨Nat.not_lt.mp notBeyond, ?_⟩
    rintro limit rfl
    dsimp only at built
    split at built
    · cases built
    · rename_i within
      exact Nat.not_lt.mp within

theorem Image.writeTo_succeeds_iff (image : Image) (path : String) (store : Store) :
    ((image.writeTo path).run (World.ofStore store)).1 = .ok () ↔
      ∃ after, store.replaceFile path image.bytes = .ok after := by
  rw [run_writeTo]
  cases replaced : (World.ofStore store).store.replaceFile path image.bytes with
  | ok after => exact Iff.intro (fun _ => ⟨after, replaced⟩) (fun _ => rfl)
  | error fault =>
      constructor
      · intro succeeded
        cases succeeded
      · rintro ⟨after, succeeded⟩
        cases replaced.symm.trans succeeded

/-! ### Wrapping -/

variable {store : Store} {source output : String} {code : List UInt8} {layout : Layout}
  {maximalSize? : Option Nat}

def World.wrapped (after : Store) (source output : String) (code : List UInt8) (image : Image) :
    World where
  store := after
  printed := [createdLine output image]
  logged := readRecords source code ++ [image.writeRecord output]

/-- Wrapping succeeds exactly where the code fits and the image can be written. -/
theorem run_wrapFile_eq_ok_iff (readable : store.readFile source = .ok code) (reached : World) :
    (raw source output layout maximalSize?).task.run.run (World.ofStore store) =
        (.ok (), reached) ↔
      Fits maximalSize? code ∧
        ∃ after, store.replaceFile output
            (Image.build code layout.entry layout.loadAddress).bytes = .ok after ∧
          reached = World.wrapped after source output code
            (Image.build code layout.entry layout.loadAddress) := by
  have ran := run_wrapFile (World.ofStore store) source output layout maximalSize?
  rw [show (World.ofStore store).store.readFile source = .ok code from readable] at ran
  dsimp only at ran
  change (wrapFile source output layout maximalSize?).run.run (World.ofStore store) = _ ↔ _
  rw [ran]
  constructor
  · intro succeeded
    cases built : Image.buildWithin maximalSize? code layout.entry layout.loadAddress with
    | error error =>
        rw [built] at succeeded
        cases succeeded
    | ok image =>
        have fits := Image.fits_of_buildWithin built
        rw [Image.buildWithin_of_fits fits] at succeeded
        dsimp only at succeeded
        rw [run_writeImage] at succeeded
        refine ⟨fits, ?_⟩
        split at succeeded
        · rename_i after replaced
          cases succeeded
          exact ⟨after, replaced, rfl⟩
        · cases succeeded
  · rintro ⟨fits, after, replaced, rfl⟩
    rw [Image.buildWithin_of_fits fits]
    dsimp only
    rw [run_writeImage]
    dsimp only
    rw [show (World.ofStore store).store.replaceFile output _ = _ from replaced]
    rfl

theorem outcome_wrapFile {after : Store} (readable : store.readFile source = .ok code)
    (fits : Fits maximalSize? code)
    (replaced : store.replaceFile output
      (Image.build code layout.entry layout.loadAddress).bytes = .ok after) (renderer : Renderer)
    (verbose : Bool) :
    Invocation.outcome
        { command := .raw source output layout maximalSize?, verbose := verbose } renderer store =
      Outcome.ofRun renderer verbose (.ok ()) (World.wrapped after source output code
        (Image.build code layout.entry layout.loadAddress)) :=
  outcome_eq renderer ((run_wrapFile_eq_ok_iff readable _).mpr ⟨fits, after, replaced, rfl⟩)

theorem exitCode_wrapFile_iff (readable : store.readFile source = .ok code)
    (renderer : Renderer) (verbose : Bool) :
    (Invocation.outcome
        { command := .raw source output layout maximalSize?, verbose := verbose }
        renderer store).exitCode = 0 ↔
      Fits maximalSize? code ∧ ∃ after, store.replaceFile output
        (Image.build code layout.entry layout.loadAddress).bytes = .ok after := by
  constructor
  · intro succeeded
    cases ran : (raw source output layout maximalSize?).task.run.run (World.ofStore store) with
    | mk result reached =>
        rw [outcome_eq renderer ran, Outcome.exitCode_eq_zero_iff] at succeeded
        rw [succeeded] at ran
        obtain ⟨fits, after, replaced, _⟩ := (run_wrapFile_eq_ok_iff readable reached).mp ran
        exact ⟨fits, after, replaced⟩
  · rintro ⟨fits, after, replaced⟩
    rw [outcome_wrapFile readable fits replaced]
    rfl

/-- One file holds the image, one line says so, and records tell of the code and of the
write. -/
structure Outcome.Wraps (wrapped : Outcome) (renderer : Renderer) (store : Store)
    (source output : String) (code : List UInt8) (image : Image) (verbose : Bool) : Prop where
  change : ∃ location, store.fileLocation? output = some location ∧
    wrapped.store = store.insert location (.file image.bytes)
  file : wrapped.store.readFile output = .ok image.bytes
  line : wrapped.output = joinLines [createdLine output image]
  records : wrapped.diagnostics? = some (String.join
    (((readRecords source code ++ [image.writeRecord output]).filter (·.isShown verbose)).map
      renderer.record))

theorem Outcome.wraps_of_replaced {after : Store} {image : Image} (renderer : Renderer)
    (verbose : Bool)
    (replaced : store.replaceFile output image.bytes = .ok after) :
    (ofRun renderer verbose (.ok ()) (World.wrapped after source output code image)).Wraps
      renderer store source output code image verbose := by
  obtain ⟨_, location, _, _, named, _, isStore⟩ := (replaceFile_eq_ok_iff _ _ _ _).mp replaced
  exact ⟨⟨location, named, isStore⟩, readFile_of_replaceFile replaced, rfl, rfl⟩

theorem readFile_of_wrapFile (readable : store.readFile source = .ok code)
    (renderer : Renderer) (verbose : Bool)
    (succeeded : (Invocation.outcome
      { command := .raw source output layout maximalSize?, verbose := verbose }
      renderer store).exitCode = 0) :
    (Invocation.outcome
      { command := .raw source output layout maximalSize?, verbose := verbose }
      renderer store).store.readFile output =
        .ok (Image.build code layout.entry layout.loadAddress).bytes := by
  obtain ⟨fits, after, replaced⟩ := (exitCode_wrapFile_iff readable renderer verbose).mp succeeded
  rw [outcome_wrapFile readable fits replaced]
  exact readFile_of_replaceFile replaced

theorem outcome_wrapFile_again {after : Store} (readable : after.readFile source = .ok code)
    (fits : Fits maximalSize? code)
    (replaced : store.replaceFile output
      (Image.build code layout.entry layout.loadAddress).bytes = .ok after) (renderer : Renderer)
    (verbose : Bool) :
    let again := Invocation.outcome
      { command := .raw source output layout maximalSize?, verbose := verbose } renderer after
    again.exitCode = 0 ∧ again.store = after := by
  intro again
  have isAgain : again = _ :=
    outcome_wrapFile readable fits (replaceFile_again replaced) renderer verbose
  rw [isAgain]
  exact ⟨rfl, rfl⟩

/-! ### Listing -/

structure Listing.Recovered.Restores (recovered : Recovered) (layout : Layout)
    (code : List UInt8) : Prop where
  entry : Address.parse recovered.entry = .ok layout.entry
  loadAddress : Address.parse recovered.loadAddress = .ok layout.loadAddress
  code : recovered.code = code

theorem Listing.Recovered.Restores.layout_unique {recovered : Recovered} {first second : Layout}
    {earlier later : List UInt8} (one : recovered.Restores first earlier)
    (other : recovered.Restores second later) : first = second := by
  have entry := one.entry.symm.trans other.entry
  have loadAddress := one.loadAddress.symm.trans other.loadAddress
  obtain ⟨firstEntry, firstLoad⟩ := first
  obtain ⟨secondEntry, secondLoad⟩ := second
  cases entry
  cases loadAddress
  rfl

theorem outcome_listImage (fits : code.length ≤ Format.maximalCodeLength)
    (holds : store.readFile output =
      .ok (Image.build code layout.entry layout.loadAddress).bytes) (renderer : Renderer)
    (verbose : Bool) :
    Invocation.outcome { command := .inspect output, verbose := verbose } renderer store =
      Outcome.ofRun renderer verbose (.ok ()) { World.ofStore store with
        printed := Listing.lines (.written code layout.entry layout.loadAddress) } := by
  apply outcome_eq
  change (listImage output).run.run (World.ofStore store) = _
  rw [run_listImage,
    show (World.ofStore store).store.readFile output = _ from holds, ParsedImage.ofFile,
    Image.parse_build fits]
  rfl

/-- The listing of an image tells what it was built from. -/
theorem recover_listImage (fits : code.length ≤ Format.maximalCodeLength)
    (holds : store.readFile output =
      .ok (Image.build code layout.entry layout.loadAddress).bytes) (renderer : Renderer)
    (verbose : Bool) :
    ∃ recovered, Listing.recover? (Invocation.outcome
        { command := .inspect output, verbose := verbose } renderer store).output = some recovered ∧
      recovered.Restores layout code := by
  refine ⟨{
    entry := "0x" ++ Hexadecimal.fixed 8 layout.entry.toNat
    loadAddress := "0x" ++ Hexadecimal.fixed 8 layout.loadAddress.toNat
    code := code }, ?_, ?_⟩
  · rw [outcome_listImage fits holds, Outcome.output_ofRun]
    exact Listing.recover_lines (.written code layout.entry layout.loadAddress)
  · exact ⟨Address.parse_fixed layout.entry, Address.parse_fixed layout.loadAddress, rfl⟩

/-- Wrapping code loses nothing.  It succeeds exactly where the code fits and the image can
be written, and the listing of the file is enough to make the same file again. -/
theorem wrapping_is_lossless (renderer : Renderer) (readable : store.readFile source = .ok code)
    (output : String) (layout : Layout) (maximalSize? : Option Nat) (verbose : Bool) :
    let image := Image.build code layout.entry layout.loadAddress
    let wrapped := Invocation.outcome
      { command := .raw source output layout maximalSize?, verbose := verbose } renderer store
    (wrapped.exitCode = 0 ↔
      code.length ≤ Format.maximalCodeLength ∧
      (∀ limit, maximalSize? = some limit → code.length ≤ limit) ∧
      ((image.writeTo output).run (World.ofStore store)).1 = .ok ()) ∧
    (wrapped.exitCode = 0 →
      wrapped.Wraps renderer store source output code image verbose ∧
      ∀ listVerbose,
        let listing := Invocation.outcome
          { command := .inspect output, verbose := listVerbose } renderer wrapped.store
        listing.exitCode = 0 ∧ listing.store = wrapped.store ∧
        ∃ recovered, Listing.recover? listing.output = some recovered ∧
          recovered.Restores layout code ∧
          ∀ listed : Layout, recovered.Restores listed recovered.code →
          ∀ otherSource anyVerbose,
            (∀ other otherOutput anySize?, other.readFile otherSource = .ok recovered.code →
              let again := Invocation.outcome
                { command := .raw otherSource otherOutput listed anySize?
                  verbose := anyVerbose } renderer other
              again.exitCode = 0 → again.store.readFile otherOutput = .ok image.bytes) ∧
            (wrapped.store.readFile otherSource = .ok recovered.code →
              let again := Invocation.outcome
                { command := .raw otherSource output listed maximalSize?
                  verbose := anyVerbose } renderer wrapped.store
              again.exitCode = 0 ∧ again.store = wrapped.store)) := by
  intro image wrapped
  refine ⟨?_, ?_⟩
  · rw [exitCode_wrapFile_iff readable, ← Image.writeTo_succeeds_iff]
    constructor
    · rintro ⟨fits, written⟩
      exact ⟨fits.format, fits.limit, written⟩
    · rintro ⟨format, limit, written⟩
      exact ⟨⟨format, limit⟩, written⟩
  · intro succeeded
    obtain ⟨fits, after, replaced⟩ := (exitCode_wrapFile_iff readable renderer verbose).mp succeeded
    have isWrapped : wrapped = _ := outcome_wrapFile readable fits replaced renderer verbose
    have wraps : wrapped.Wraps renderer store source output code image verbose := by
      rw [isWrapped]
      exact Outcome.wraps_of_replaced renderer verbose replaced
    have isStore : wrapped.store = after := by
      rw [isWrapped]
      rfl
    refine ⟨wraps, ?_⟩
    intro listVerbose
    obtain ⟨recovered, isRecovered, restores⟩ :=
      recover_listImage fits.format wraps.file renderer listVerbose
    have listed := outcome_listImage fits.format wraps.file renderer listVerbose
    refine ⟨?_, ?_, recovered, isRecovered, restores, ?_⟩
    · rw [listed]
      rfl
    · rw [listed]
      rfl
    · intro relisted again otherSource anyVerbose
      rw [again.layout_unique restores, restores.code]
      constructor
      · intro other otherOutput anySize? stored _ remade
        exact readFile_of_wrapFile stored renderer anyVerbose remade
      · intro stored
        rw [isStore] at stored ⊢
        exact outcome_wrapFile_again stored fits replaced renderer anyVerbose

theorem wrapping_is_lossless_rest_byte :
    let code := [0x13, 0x05, 0xA0, 0x00, 0x73]
    let layout : Layout := { entry := 0x80000004, loadAddress := 0xFFFFFFFC }
    let store := (Store.fresh []).insert ["code.bin"] (.file code)
    let wrapped := Invocation.outcome
      { command := .raw "code.bin" "out.elf" layout (some 5), verbose := false } .plain store
    let listing := Invocation.outcome
      { command := .inspect "out.elf", verbose := false } .plain wrapped.store
    store.readFile "code.bin" = .ok code ∧ wrapped.exitCode = 0 ∧
      wrapped.store.readFile "out.elf" =
        .ok (Image.build code layout.entry layout.loadAddress).bytes ∧
      ∃ recovered, Listing.recover? listing.output = some recovered ∧
        recovered.Restores layout code := by
  intro code layout store wrapped listing
  have readable : store.readFile "code.bin" = .ok code := by
    have named : store.fileLocation? "code.bin" = some ["code.bin"] := rfl
    rw [readFile_of_fileLocation named, get?_insert_self (by decide)]
  obtain ⟨whether, after⟩ := wrapping_is_lossless .plain readable "out.elf" layout (some 5) false
  have written : store.replaceFile "out.elf"
      (Image.build code layout.entry layout.loadAddress).bytes = .ok _ :=
    (replaceFile_eq_ok_iff _ _ _ _).mpr
      ⟨["out.elf.tmp"], ["out.elf"], rfl, rfl, rfl, by decide, rfl⟩
  have succeeded : wrapped.exitCode = 0 := by
    refine whether.mpr ⟨by decide, ?_, (Image.writeTo_succeeds_iff _ _ _).mpr ⟨_, written⟩⟩
    rintro limit same
    cases same
    decide
  obtain ⟨wraps, listed⟩ := after succeeded
  obtain ⟨_, _, recovered, isRecovered, restores, _⟩ := listed false
  exact ⟨readable, succeeded, wraps.file, recovered, isRecovered, restores⟩

end Rv32Image
