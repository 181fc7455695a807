/-
Listings read back: both addresses and the code from the text alone.
-/

import Rv32Image.CommandLine.Run
import Rv32Image.Proofs.Bytes.Window
import Rv32Image.Proofs.Text.Hexadecimal

namespace Rv32Image

namespace Listing

/-! ### A reader -/

def linesOf (text : String) : List (List Char) :=
  (text.toList.splitOn '\n').dropLast

/-- What stands behind a label, in the first line that starts with it. -/
def field? (label : String) (lines : List (List Char)) : Option String :=
  (lines.find? fun line => label.toList.isPrefixOf line).map fun line =>
    String.ofList (line.drop label.toList.length)

def byte? (digits : List Char) : Option UInt8 :=
  (Numeral.readDigits 16 256 0 digits).toOption.map UInt8.ofNat

def word? (text : List Char) : Option Word :=
  if text.length = 8 then
    (Numeral.readDigits 16 0x100000000 0 text).toOption.map (BitVec.ofNat 32)
  else none

/-- What is not a word is its bytes with blanks between them. -/
def chunk? (text : List Char) : Option (List UInt8) :=
  match word? text with
  | some word => some word.bytes
  | none => (text.splitOn ' ').mapM byte?

/-- The address in front of each line takes thirteen characters. -/
def codeOfLines? : List (List Char) → Option (List UInt8)
  | [] => some []
  | line :: rest => do
      let chunk ← chunk? (line.drop 13)
      let code ← codeOfLines? rest
      return chunk ++ code

def codeSection (lines : List (List Char)) : List (List Char) :=
  (lines.dropWhile fun line => !("Code (".toList.isPrefixOf line)).tail

structure Recovered where
  entry : String
  loadAddress : String
  code : List UInt8
deriving DecidableEq, Repr

def recover? (text : String) : Option Recovered := do
  let lines := linesOf text
  let entry ← field? "  entry:       " lines
  let loadAddress ← field? "  vaddr:       " lines
  let code ← codeOfLines? (codeSection lines)
  return { entry := entry, loadAddress := loadAddress, code := code }

/-! ### Lines -/

def OneLine (text : String) : Prop :=
  '\n' ∉ text.toList

instance (text : String) : Decidable (OneLine text) :=
  inferInstanceAs (Decidable (¬ _))

theorem oneLine_append {first second : String} :
    OneLine (first ++ second) ↔ OneLine first ∧ OneLine second := by
  unfold OneLine
  rw [String.toList_append, List.mem_append, not_or]

theorem not_mem_toString {character : Char} (noDigit : character.isDigit = false) (number : Nat) :
    character ∉ (toString number).toList := by
  intro member
  change character ∈ number.repr.toList at member
  rw [Nat.toList_repr] at member
  have digit := Nat.isDigit_of_mem_toDigits (by decide) (by decide) member
  rw [noDigit] at digit
  cases digit

theorem oneLine_toString (number : Nat) : OneLine (toString number) :=
  not_mem_toString (by decide) number

theorem oneLine_fixed (width value : Nat) : OneLine (Hexadecimal.fixed width value) := by
  intro member
  rw [Hexadecimal.fixed, String.toList_ofList] at member
  exact Hexadecimal.forall_mem_fixedDigits (· ≠ '\n') (by decide) width value
    '\n' member rfl

theorem oneLine_minimal (value : Nat) : OneLine (Hexadecimal.minimal value) := by
  intro member
  rw [Hexadecimal.minimal, String.toList_ofList] at member
  exact Hexadecimal.forall_mem_toDigits (· ≠ '\n') (by decide) value '\n' member rfl

theorem linesOf_joinLines {lines : List String} (plain : ∀ line ∈ lines, OneLine line) :
    linesOf (Outcome.joinLines lines) = lines.map String.toList := by
  have split : (Outcome.joinLines lines).toList.splitOn '\n' = lines.map String.toList ++ [[]] := by
    induction lines with
    | nil => rfl
    | cons line rest ih =>
        have own := plain line List.mem_cons_self
        have front : (Outcome.joinLines (line :: rest)).toList =
            line.toList ++ '\n' :: (Outcome.joinLines rest).toList := by
          unfold Outcome.joinLines
          rw [List.map_cons, String.join_cons, String.toList_append, String.toList_append,
            List.append_assoc]
          rfl
        rw [front, List.splitOn_append_cons_self_of_not_mem own,
          ih fun other member => plain other (List.mem_cons_of_mem _ member)]
        rfl
  rw [linesOf, split, List.dropLast_concat]

/-! ### Code -/

theorem byte_fixedDigits (byte : UInt8) :
    byte? (Hexadecimal.fixedDigits 2 byte.toNat) = some byte := by
  have value := Hexadecimal.readDigits_fixedDigits byte.toNat (show 16 ^ 2 ≤ 256 by decide)
  rw [Nat.mod_eq_of_lt (show byte.toNat < 16 ^ 2 from byte.toNat_lt)] at value
  rw [byte?, value]
  exact congrArg some (UInt8.ofNat_toNat)

theorem mapM_byte (bytes : List UInt8) :
    (bytes.map fun byte => Hexadecimal.fixedDigits 2 byte.toNat).mapM byte? = some bytes := by
  induction bytes with
  | nil => rfl
  | cons byte rest ih =>
      rw [List.map_cons, List.mapM_cons, byte_fixedDigits, ih]
      rfl

theorem word_fixedDigits (word : Word) :
    word? (Hexadecimal.fixedDigits 8 word.toNat) = some word := by
  have value := Hexadecimal.readDigits_fixedDigits word.toNat
    (show 16 ^ 8 ≤ 0x100000000 by decide)
  rw [Nat.mod_eq_of_lt (show word.toNat < 16 ^ 8 from word.isLt)] at value
  rw [word?, if_pos (Hexadecimal.length_fixedDigits 8 _), value]
  change some (BitVec.ofNat 32 word.toNat) = some word
  rw [BitVec.ofNat_toNat, BitVec.setWidth_eq]

/-- A blank stands between two bytes, so their digits are no word. -/
theorem word_of_bytes {chunk : List UInt8} (nonempty : chunk ≠ []) :
    word? ([' '].intercalate (chunk.map fun byte => Hexadecimal.fixedDigits 2 byte.toNat)) =
      none := by
  cases chunk with
  | nil => exact absurd rfl nonempty
  | cons first rest =>
      cases rest with
      | nil =>
          rw [List.map_cons, List.map_nil, List.intercalate_singleton, word?, if_neg]
          rw [Hexadecimal.length_fixedDigits]
          decide
      | cons second rest =>
          rw [List.map_cons, List.map_cons, List.intercalate_cons_cons, word?]
          split
          · rw [List.append_assoc, Numeral.readDigits_append,
              Hexadecimal.readDigits_fixedDigits _ (by decide)]
            rfl
          · rfl

theorem toList_chunkText_of_four {chunk : List UInt8} (four : chunk.length = 4) :
    (chunkText chunk).toList = Hexadecimal.fixedDigits 8 (Word.ofBytes chunk).toNat := by
  rw [chunkText, if_pos four]
  exact String.toList_ofList

theorem toList_chunkText_of_rest {chunk : List UInt8} (rest : chunk.length ≠ 4) :
    (chunkText chunk).toList =
      [' '].intercalate (chunk.map fun byte => Hexadecimal.fixedDigits 2 byte.toNat) := by
  have digits : ∀ byte ∈ chunk, (String.toList ∘ Hexadecimal.ofByte) byte =
      Hexadecimal.fixedDigits 2 byte.toNat := fun byte _ => String.toList_ofList
  rw [chunkText, if_neg rest, String.toList_intercalate, List.map_map, List.map_congr_left digits]
  rfl

theorem chunk_chunkText {chunk : List UInt8} (nonempty : chunk ≠ []) :
    chunk? (chunkText chunk).toList = some chunk := by
  by_cases four : chunk.length = 4
  · rw [toList_chunkText_of_four four, chunk?, word_fixedDigits]
    exact congrArg some (Word.bytes_ofBytes four)
  · have noBlank : ∀ digits ∈ chunk.map fun byte => Hexadecimal.fixedDigits 2 byte.toNat,
        ' ' ∉ digits := by
      intro digits member blank
      obtain ⟨byte, _, rfl⟩ := List.mem_map.mp member
      exact Hexadecimal.forall_mem_fixedDigits (· ≠ ' ') (by decide) 2 _ ' ' blank rfl
    have split : ([' '].intercalate
        (chunk.map fun byte => Hexadecimal.fixedDigits 2 byte.toNat)).splitOn ' ' =
          chunk.map fun byte => Hexadecimal.fixedDigits 2 byte.toNat :=
      List.splitOn_intercalate ' ' noBlank (mt List.map_eq_nil_iff.mp nonempty)
    rw [toList_chunkText_of_rest four, chunk?, word_of_bytes nonempty]
    dsimp only
    rw [split, mapM_byte]

theorem toList_codeLine (address : Word) (chunk : List UInt8) :
    (codeLine address chunk).toList =
      "  ".toList ++ Hexadecimal.fixedDigits 8 address.toNat ++ ":  ".toList ++
        (chunkText chunk).toList := by
  change ("  " ++ String.ofList (Hexadecimal.fixedDigits 8 address.toNat) ++ ":  " ++
    chunkText chunk).toList = _
  simp only [String.toList_append, String.toList_ofList]

theorem drop_codeLine (address : Word) (chunk : List UInt8) :
    (codeLine address chunk).toList.drop 13 = (chunkText chunk).toList := by
  rw [toList_codeLine]
  apply List.drop_left'
  rw [List.length_append, List.length_append, Hexadecimal.length_fixedDigits]
  rfl

theorem codeOfLines_codeLines (address : Word) (code : List UInt8) :
    codeOfLines? ((codeLines address code).map String.toList) = some code := by
  induction address, code using codeLines.induct with
  | case1 address => rfl
  | case2 address byte1 byte2 byte3 byte4 rest ih =>
      rw [codeLines, List.map_cons, codeOfLines?, drop_codeLine,
        chunk_chunkText (List.cons_ne_nil _ _), ih]
      rfl
  | case3 address rest nonempty short =>
      rw [codeLines, List.map_cons, codeOfLines?, drop_codeLine, chunk_chunkText nonempty]
      · exact congrArg some (List.append_nil rest)
      · exact nonempty
      · exact short

/-! ### Whole listings -/

def fields (image : ParsedImage) : List (String × String) :=
  [("ELF header", ""),
    ("  type:        ", toString image.header.fileType.toNat),
    ("  machine:     ", "0x" ++ Hexadecimal.minimal image.header.machine.toNat),
    ("  version:     ", toString image.header.version.toNat),
    ("  entry:       ", "0x" ++ Hexadecimal.fixed 8 image.header.entry.toNat),
    ("  phoff:       ", toString image.header.programHeaderOffset.toNat),
    ("  flags:       ", "0x" ++ Hexadecimal.minimal image.header.flags.toNat),
    ("  sizes:       ", "ehdr=" ++ toString image.header.fileHeaderSize.toNat ++ " phent=" ++
      toString image.header.programHeaderSize.toNat ++ " phnum=" ++
      toString image.header.programHeaderCount.toNat ++ " shent=" ++
      toString image.header.sectionHeaderSize.toNat ++ " shnum=" ++
      toString image.header.sectionHeaderCount.toNat),
    ("Program header", ""),
    ("  type:        ", toString image.segment.segmentType.toNat),
    ("  offset:      ", toString image.segment.offset.toNat),
    ("  vaddr:       ", "0x" ++ Hexadecimal.fixed 8 image.segment.virtualAddress.toNat),
    ("  paddr:       ", "0x" ++ Hexadecimal.fixed 8 image.segment.physicalAddress.toNat),
    ("  filesz:      ", toString image.segment.fileSize.toNat),
    ("  memsz:       ", toString image.segment.memorySize.toNat),
    ("  flags:       ", "0x" ++ Hexadecimal.minimal image.segment.flags.toNat),
    ("  align:       ", toString image.segment.alignment.toNat)]

def labels : List String :=
  ["ELF header", "  type:        ", "  machine:     ", "  version:     ", "  entry:       ",
    "  phoff:       ", "  flags:       ", "  sizes:       ", "Program header",
    "  type:        ", "  offset:      ", "  vaddr:       ", "  paddr:       ",
    "  filesz:      ", "  memsz:       ", "  flags:       ", "  align:       "]

theorem labels_of_fields (image : ParsedImage) : (fields image).map Prod.fst = labels := rfl

def fieldLines (fields : List (String × String)) : List String :=
  fields.map fun field => field.1 ++ field.2

theorem lines_eq (image : ParsedImage) :
    lines image =
      fieldLines (fields image) ++
        ("Code (" ++ (toString image.code.length ++ " bytes)")) ::
          codeLines image.loadAddress image.code := by
  have marked (label digits : String) :
      label ++ ("0x" ++ digits) = label ++ "0x" ++ digits := String.append_assoc.symm
  have headers : headerLines image.header ++ segmentLines image.segment =
      fieldLines (fields image) := by
    unfold fieldLines fields
    simp only [List.map_cons, List.map_nil]
    rw [marked "  entry:       ", marked "  vaddr:       ", marked "  paddr:       "]
    have sizes (first second third fourth fifth : String) :
        "  sizes:       " ++ ("ehdr=" ++ first ++ " phent=" ++ second ++ " phnum=" ++ third ++
          " shent=" ++ fourth ++ " shnum=" ++ fifth) =
          "  sizes:       ehdr=" ++ first ++ (" phent=" ++ second ++ " phnum=" ++ third) ++
            (" shent=" ++ fourth ++ " shnum=" ++ fifth) := by
      change _ = "  sizes:       " ++ "ehdr=" ++ first ++ _ ++ _
      simp only [String.append_assoc]
    rw [sizes]
    rfl
  have count : s!"Code ({image.code.length} bytes)" =
      "Code (" ++ (toString image.code.length ++ " bytes)") := String.append_assoc
  rw [lines, headers, count, List.append_assoc]
  rfl

/-- No label starts with the other one. -/
def Apart (first second : String) : Prop :=
  ¬ first.toList <+: second.toList ∧ ¬ second.toList <+: first.toList

instance (first second : String) : Decidable (Apart first second) :=
  inferInstanceAs (Decidable (_ ∧ _))

theorem not_isPrefixOf_of_apart {label other : String} (apart : Apart label other)
    (contents : String) : label.toList.isPrefixOf (other ++ contents).toList = false := by
  apply Bool.eq_false_iff.mpr
  intro starts
  rw [List.isPrefixOf_iff_prefix, String.toList_append] at starts
  rcases List.prefix_or_prefix_of_prefix starts (List.prefix_append _ _) with within | within
  · exact apart.1 within
  · exact apart.2 within

theorem field_of_fields {label value : String} (front back : List (String × String))
    (apart : ∀ other ∈ front.map Prod.fst, Apart label other) (more : List (List Char)) :
    field? label ((fieldLines (front ++ (label, value) :: back)).map String.toList ++ more) =
      some value := by
  have skipped : ((fieldLines front).map String.toList).find?
      (fun line => label.toList.isPrefixOf line) = none := by
    apply List.find?_eq_none.mpr
    intro line member
    obtain ⟨text, inside, rfl⟩ := List.mem_map.mp member
    obtain ⟨field, isField, rfl⟩ := List.mem_map.mp inside
    rw [not_isPrefixOf_of_apart (apart field.1 (List.mem_map_of_mem isField))]
    exact Bool.false_ne_true
  have starts : label.toList.isPrefixOf (label ++ value).toList = true := by
    rw [List.isPrefixOf_iff_prefix, String.toList_append]
    exact List.prefix_append _ _
  unfold field?
  unfold fieldLines at skipped ⊢
  rw [List.map_append, List.map_append, List.append_assoc, List.find?_append, skipped,
    Option.none_or, List.map_cons, List.map_cons, List.cons_append, List.find?_cons_of_pos starts,
    Option.map_some, String.toList_append, List.drop_left, String.ofList_toList]

theorem codeSection_of_fields {fields : List (String × String)}
    (apart : ∀ other ∈ fields.map Prod.fst, Apart "Code (" other) (count : String)
    (lines : List String) :
    codeSection ((fieldLines fields ++ ("Code (" ++ count) :: lines).map String.toList) =
      lines.map String.toList := by
  have passed : ∀ line ∈ (fieldLines fields).map String.toList,
      (!"Code (".toList.isPrefixOf line) = true := by
    intro line member
    obtain ⟨text, inside, rfl⟩ := List.mem_map.mp member
    obtain ⟨field, isField, rfl⟩ := List.mem_map.mp inside
    rw [not_isPrefixOf_of_apart (apart field.1 (List.mem_map_of_mem isField))]
    rfl
  have starts : "Code (".toList.isPrefixOf ("Code (" ++ count).toList = true := by
    rw [List.isPrefixOf_iff_prefix, String.toList_append]
    exact List.prefix_append _ _
  unfold codeSection
  rw [List.map_append, List.dropWhile_append_of_pos passed, List.map_cons,
    List.dropWhile_cons_of_neg (by rw [starts]; exact Bool.false_ne_true), List.tail_cons]

theorem oneLine_chunkText (chunk : List UInt8) : OneLine (chunkText chunk) := by
  have joined (bytes : List UInt8) :
      OneLine (" ".intercalate (bytes.map Hexadecimal.ofByte)) := by
    induction bytes with
    | nil => decide
    | cons byte rest ih =>
        have own : OneLine (Hexadecimal.ofByte byte) := oneLine_fixed 2 byte.toNat
        cases rest with
        | nil =>
            rw [List.map_cons, List.map_nil, String.intercalate_singleton]
            exact own
        | cons next rest =>
            rw [List.map_cons, List.map_cons, String.intercalate_cons_cons]
            exact oneLine_append.mpr ⟨oneLine_append.mpr ⟨own, by decide⟩, ih⟩
  unfold chunkText
  split
  · exact oneLine_fixed 8 _
  · exact joined chunk

theorem oneLine_codeLine (address : Word) (chunk : List UInt8) :
    OneLine (codeLine address chunk) := by
  change OneLine ("  " ++ Hexadecimal.fixed 8 address.toNat ++ ":  " ++ chunkText chunk)
  simp only [oneLine_append, oneLine_fixed, oneLine_chunkText, and_true]
  decide

theorem oneLine_codeLines (address : Word) (code : List UInt8) :
    ∀ line ∈ codeLines address code, OneLine line := by
  induction address, code using codeLines.induct with
  | case1 address => exact nofun
  | case2 address byte1 byte2 byte3 byte4 rest ih =>
      intro line member
      rw [codeLines] at member
      rcases List.mem_cons.mp member with rfl | later
      · exact oneLine_codeLine _ _
      · exact ih line later
  | case3 address rest nonempty short =>
      intro line member
      rw [codeLines, List.mem_singleton] at member
      · rw [member]
        exact oneLine_codeLine _ _
      · exact nonempty
      · exact short

theorem oneLine_fields (image : ParsedImage) :
    ∀ field ∈ fields image, OneLine field.1 ∧ OneLine field.2 := by
  unfold fields
  simp only [List.forall_mem_cons, oneLine_append, oneLine_toString, oneLine_fixed,
    oneLine_minimal, and_true]
  decide

theorem oneLine_lines (image : ParsedImage) : ∀ line ∈ lines image, OneLine line := by
  intro line member
  rw [lines_eq] at member
  rcases List.mem_append.mp member with about | code
  · obtain ⟨field, isField, rfl⟩ := List.mem_map.mp about
    exact oneLine_append.mpr (oneLine_fields image field isField)
  · rcases List.mem_cons.mp code with rfl | code
    · simp only [oneLine_append, oneLine_toString, true_and]
      decide
    · exact oneLine_codeLines _ _ line code

theorem codeSection_lines (image : ParsedImage) :
    codeSection (linesOf (Outcome.joinLines (lines image))) =
      (codeLines image.loadAddress image.code).map String.toList := by
  rw [linesOf_joinLines (oneLine_lines image), lines_eq]
  apply codeSection_of_fields
  rw [labels_of_fields]
  decide

theorem recover_lines (image : ParsedImage) :
    recover? (Outcome.joinLines (lines image)) =
      some {
        entry := "0x" ++ Hexadecimal.fixed 8 image.header.entry.toNat
        loadAddress := "0x" ++ Hexadecimal.fixed 8 image.segment.virtualAddress.toNat
        code := image.code } := by
  have entry (more : List (List Char)) :
      field? "  entry:       " ((fieldLines (fields image)).map String.toList ++ more) =
        some ("0x" ++ Hexadecimal.fixed 8 image.header.entry.toNat) :=
    field_of_fields ((fields image).take 4) ((fields image).drop 5)
      (show ∀ other ∈ labels.take 4, Apart "  entry:       " other by decide) more
  have loadAddress (more : List (List Char)) :
      field? "  vaddr:       " ((fieldLines (fields image)).map String.toList ++ more) =
        some ("0x" ++ Hexadecimal.fixed 8 image.segment.virtualAddress.toNat) :=
    field_of_fields ((fields image).take 11) ((fields image).drop 12)
      (show ∀ other ∈ labels.take 11, Apart "  vaddr:       " other by decide) more
  have code := codeSection_lines image
  rw [linesOf_joinLines (oneLine_lines image)] at code
  unfold recover?
  rw [linesOf_joinLines (oneLine_lines image)]
  dsimp only
  rw [code, codeOfLines_codeLines, lines_eq, List.map_append, entry, loadAddress]
  rfl

end Listing

end Rv32Image
