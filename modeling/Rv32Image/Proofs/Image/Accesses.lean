/-
Where the reader gets its bytes, and that they are there.  Its accesses follow a plan
until it rejects the data.
-/

import Mathlib.Algebra.Group.Nat.Defs
import Rv32Image.Proofs.Image.Rejections

namespace Rv32Image

/-- The last access is listed also where it finds no bytes. -/
def Reading.accesses {α : Type} (data : List UInt8) : Reading α → List Access
  | done _ => []
  | ask access next =>
      access ::
        match Reader.slice data access.first access.past with
        | .ok bytes => (next bytes).accesses data
        | .error _ => []

namespace Access

/-- The range is in order and within the data, and its end is a 64-bit number. -/
structure Inside (data : List UInt8) (access : Access) : Prop where
  ordered : access.first ≤ access.past
  within : access.past ≤ data.length
  small : access.past < 2 ^ 64

theorem slice_cases (data : List UInt8) (access : Access) :
    access.Inside data ∧ Reader.slice data access.first access.past =
        .ok (window data access.first (access.past - access.first)) ∨
      Reader.slice data access.first access.past =
        .error (.strayAccess access.first access.past) := by
  by_cases range : access.first ≤ access.past ∧ access.past ≤ data.length ∧
      access.past < Reader.offsetLimit
  · obtain ⟨ordered, within, small⟩ := range
    exact .inl ⟨⟨ordered, within, small⟩, Reader.slice_eq_window ordered within small⟩
  · right
    rw [Reader.slice, if_neg range]

theorem Inside.answered {data : List UInt8} {access : Access} (inside : access.Inside data) :
    ∃ bytes, Reader.slice data access.first access.past = .ok bytes ∧
      bytes.length = access.past - access.first := by
  obtain ⟨ordered, within, small⟩ := inside
  refine ⟨_, Reader.slice_eq_window ordered within small, length_window ?_⟩
  omega

/-- Ranges of these widths, each from the end of the one before. -/
def consecutive (start : Nat) : List Nat → List Access
  | [] => []
  | width :: widths => ⟨start, start + width⟩ :: consecutive (start + width) widths

theorem consecutive_append (start : Nat) (widths more : List Nat) :
    consecutive start (widths ++ more) =
      consecutive start widths ++ consecutive (widths.foldl (· + ·) start) more := by
  induction widths generalizing start with
  | nil => rfl
  | cons width widths ih =>
      rw [List.cons_append, consecutive, consecutive, ih, List.foldl_cons, List.cons_append]

def identification : List Access :=
  [⟨0, 4⟩, ⟨4, 5⟩, ⟨5, 6⟩, ⟨6, 7⟩]

def fileHeaderWidths : List Nat :=
  [16, 2, 2, 4, 4, 4, 4, 4, 2, 2, 2, 2, 2, 2]

def programHeaderWidths : List Nat :=
  [4, 4, 4, 4, 4, 4, 4, 4]

/-- All accesses of the reader to data that it accepts. -/
def planned (data : List UInt8) : List Access :=
  let place := (wordAt data 28).toNat
  let start := (wordAt data (place + 4)).toNat
  let size := (wordAt data (place + 16)).toNat
  identification ++ consecutive 0 fileHeaderWidths ++
    (consecutive place programHeaderWidths ++ [⟨start, start + size⟩])

end Access

namespace Reading

variable {α β : Type} {data : List UInt8}

/-- A reading that does not end in a stray access has made none. -/
theorem inside_of_not_stray (reading : Reading α)
    (notStray : ∀ first past, reading.outcome data ≠ .error (.strayAccess first past)) :
    ∀ access ∈ reading.accesses data, access.Inside data := by
  induction reading with
  | done outcome =>
      intro access member
      cases member
  | ask access next ih =>
      rcases access.slice_cases data with ⟨inside, found⟩ | stray
      · simp only [outcome, found] at notStray
        simp only [accesses, found]
        intro other member
        rcases List.mem_cons.mp member with rfl | later
        · exact inside
        · exact ih _ notStray other later
      · refine absurd ?_ (notStray access.first access.past)
        rw [outcome, stray]

theorem accesses_bind (reading : Reading α) (next : α → Reading β) :
    (reading >>= next).accesses data = reading.accesses data ++
      match reading.outcome data with
      | .ok value => (next value).accesses data
      | .error _ => [] := by
  induction reading with
  | done outcome =>
      cases outcome with
      | ok value => rfl
      | error rejection => rfl
  | ask access reply ih =>
      change accesses data (ask access fun bytes => (reply bytes).bind next) = _
      rw [accesses, accesses, outcome]
      cases Reader.slice data access.first access.past with
      | ok bytes => exact congrArg (access :: ·) (ih bytes)
      | error rejection => rfl

/-! ### Readings that follow a plan -/

/-- The accesses are those of the plan in their order, and all of them unless the reading
ends in a rejection. -/
structure Follows (data : List UInt8) (reading : Reading α) (plan : List Access) : Prop where
  ordered : reading.accesses data <+: plan
  complete : ∀ value, reading.outcome data = .ok value → reading.accesses data = plan

theorem follows_pure (value : α) : Follows data (pure value) [] :=
  ⟨List.prefix_rfl, fun _ _ => rfl⟩

theorem follows_lift (test : Except Rejection α) : Follows data (liftM test) [] :=
  ⟨List.prefix_rfl, fun _ _ => rfl⟩

theorem accesses_bytes (first past : Nat) : (bytes first past).accesses data = [⟨first, past⟩] := by
  rw [bytes, accesses]
  cases Reader.slice data first past with
  | ok bytes => rfl
  | error rejection => rfl

theorem follows_bytes (first past : Nat) : Follows data (bytes first past) [⟨first, past⟩] where
  ordered := by simp only [accesses_bytes, List.prefix_rfl]
  complete _ _ := accesses_bytes first past

theorem Follows.bind {reading : Reading α} {next : α → Reading β} {plan more : List Access}
    (first : Follows data reading plan)
    (rest : ∀ value, reading.outcome data = .ok value → Follows data (next value) more) :
    Follows data (reading >>= next) (plan ++ more) := by
  cases found : reading.outcome data with
  | ok value =>
      obtain ⟨ordered, complete⟩ := rest value found
      have made : (reading >>= next).accesses data = plan ++ (next value).accesses data := by
        rw [accesses_bind, found, first.complete value found]
      constructor
      · rw [made, List.prefix_append_right_inj]
        exact ordered
      · intro result accepted
        rw [outcome_bind, found] at accepted
        rw [made, complete result accepted]
  | error rejection =>
      have made : (reading >>= next).accesses data = reading.accesses data := by
        rw [accesses_bind, found, List.append_nil]
      constructor
      · rw [made]
        exact first.ordered.trans (List.prefix_append plan more)
      · intro result accepted
        rw [outcome_bind, found] at accepted
        cases accepted

theorem follows_byte (index : Nat) : Follows data (byte index) [⟨index, index + 1⟩] :=
  (follows_bytes index (index + 1)).bind fun found _ => follows_pure (found.headD 0)

theorem follows_identification (length : Nat) :
    Follows data (identification length) Access.identification :=
  (follows_lift _).bind fun _ _ =>
    (follows_bytes 0 4).bind fun _ _ => (follows_lift _).bind fun _ _ =>
      (follows_byte 4).bind fun _ _ => (follows_lift _).bind fun _ _ =>
        (follows_byte 5).bind fun _ _ => (follows_lift _).bind fun _ _ =>
          (follows_byte 6).bind fun _ _ => follows_lift _

/-! ### Records read field by field -/

/-- From any offset on the accesses are ranges of these widths without gap, and the cursor
ends behind them. -/
structure Covers (data : List UInt8) (reader : FieldReading α) (widths : List Nat) : Prop where
  follows : ∀ offset, Follows data (reader.run offset) (Access.consecutive offset widths)
  lands : ∀ offset value past, (reader.run offset).outcome data = .ok (value, past) →
    past = widths.foldl (· + ·) offset

theorem covers_pure (value : α) : Covers data (pure value) [] where
  follows offset := follows_pure (value, offset)
  lands offset found past accepted := by
    rw [StateT.run_pure, outcome_pure] at accepted
    cases accepted
    rfl

theorem covers_nextBytes (width : Nat) : Covers data (nextBytes width) [width] where
  follows offset :=
    (follows_bytes offset (offset + width)).bind fun found _ =>
      follows_pure (found, offset + width)
  lands offset found past accepted := by
    change (bytes offset (offset + width) >>= fun found =>
      pure (found, offset + width)).outcome data = .ok (found, past) at accepted
    rw [outcome_bind, outcome_bytes] at accepted
    cases read : Reader.slice data offset (offset + width) with
    | ok bytes =>
        rw [read] at accepted
        cases accepted
        rfl
    | error rejection =>
        rw [read] at accepted
        cases accepted

theorem Covers.bind {reader : FieldReading α} {next : α → FieldReading β} {widths more : List Nat}
    (first : Covers data reader widths) (rest : ∀ value, Covers data (next value) more) :
    Covers data (reader >>= next) (widths ++ more) where
  follows offset := by
    rw [StateT.run_bind, Access.consecutive_append]
    apply (first.follows offset).bind
    rintro ⟨value, middle⟩ found
    rw [← first.lands offset value middle found]
    exact (rest value).follows middle
  lands offset result past accepted := by
    rw [StateT.run_bind, outcome_bind] at accepted
    cases found : (reader.run offset).outcome data with
    | ok read =>
        obtain ⟨value, middle⟩ := read
        rw [found] at accepted
        rw [(rest value).lands middle result past accepted, first.lands offset value middle found,
          List.foldl_append]
    | error rejection =>
        rw [found] at accepted
        cases accepted

theorem covers_nextHalf : Covers data nextHalf [2] :=
  (covers_nextBytes 2).bind fun found => covers_pure (Half.ofBytes found)

theorem covers_nextWord : Covers data nextWord [4] :=
  (covers_nextBytes 4).bind fun found => covers_pure (Word.ofBytes found)

theorem covers_nextFileHeader : Covers data nextFileHeader Access.fileHeaderWidths :=
  (covers_nextBytes 16).bind fun _ =>
    covers_nextHalf.bind fun _ => covers_nextHalf.bind fun _ =>
    covers_nextWord.bind fun _ => covers_nextWord.bind fun _ => covers_nextWord.bind fun _ =>
    covers_nextWord.bind fun _ => covers_nextWord.bind fun _ =>
    covers_nextHalf.bind fun _ => covers_nextHalf.bind fun _ => covers_nextHalf.bind fun _ =>
    covers_nextHalf.bind fun _ => covers_nextHalf.bind fun _ => covers_nextHalf.bind fun _ =>
    covers_pure _

theorem covers_nextProgramHeader : Covers data nextProgramHeader Access.programHeaderWidths :=
  covers_nextWord.bind fun _ => covers_nextWord.bind fun _ => covers_nextWord.bind fun _ =>
    covers_nextWord.bind fun _ => covers_nextWord.bind fun _ => covers_nextWord.bind fun _ =>
    covers_nextWord.bind fun _ => covers_nextWord.bind fun _ => covers_pure _

/-! ### The whole reader -/

theorem follows_fileHeader (length : Nat) :
    Follows data (fileHeader length)
      (Access.identification ++ Access.consecutive 0 Access.fileHeaderWidths) :=
  (follows_identification length).bind fun _ _ =>
    (covers_nextFileHeader.follows 0).bind fun (header, _) _ =>
      (follows_lift _).bind fun _ _ => follows_pure header

theorem follows_programHeader (length : Nat) (offset : Word) :
    Follows data (programHeader length offset)
      (Access.consecutive offset.toNat Access.programHeaderWidths) :=
  (follows_lift _).bind fun _ _ =>
    (covers_nextProgramHeader.follows offset.toNat).bind fun (segment, _) _ =>
      follows_pure segment

theorem follows_code (length : Nat) (segment : ProgramHeader) :
    Follows data (code length segment)
      [⟨segment.offset.toNat, segment.offset.toNat + segment.fileSize.toNat⟩] :=
  (follows_lift _).bind fun _ _ => (follows_lift _).bind fun _ _ => (follows_lift _).bind fun _ _ =>
    follows_bytes _ _

theorem eq_of_tested {requirements : List Requirement} {value found : α}
    (accepted : (do Requirement.test requirements; return value) = .ok found) : found = value := by
  cases tested : Requirement.test requirements with
  | ok met =>
      rw [tested] at accepted
      exact (Except.ok.inj accepted).symm
  | error rejection =>
      rw [tested] at accepted
      cases accepted

theorem fileHeader_eq {header : FileHeader}
    (accepted : (fileHeader data.length).outcome data = .ok header) :
    header = FileHeader.ofData data := by
  rw [outcome_fileHeader, ← bind_assoc, ← Requirement.test_append] at accepted
  exact eq_of_tested accepted

theorem programHeader_eq {offset : Word} {segment : ProgramHeader}
    (accepted : (programHeader data.length offset).outcome data = .ok segment) :
    segment = ProgramHeader.ofData data offset.toNat := by
  rw [outcome_programHeader] at accepted
  exact eq_of_tested accepted

theorem follows_planned : Follows data (ofLength data.length) (Access.planned data) := by
  apply (follows_fileHeader data.length).bind
  intro header headerRead
  rw [fileHeader_eq headerRead]
  apply (follows_programHeader data.length _).bind
  intro segment segmentRead
  rw [programHeader_eq segmentRead]
  exact (follows_code data.length _).bind fun code _ => follows_pure _

end Reading

theorem Requirement.not_stray (data : List UInt8) (first past : Nat) :
    ∀ requirement ∈ ofData data, requirement.rejection ≠ .strayAccess first past := by
  simp [ofData, ofIdentification, ofFileHeader, ofPlace, ofSegment]

namespace ParsedImage

theorem parse_not_stray (data : List UInt8) (first past : Nat) :
    parse data ≠ .error (.strayAccess first past) := by
  intro stray
  rw [parse_eq_error_iff, Requirement.test_eq_error_iff] at stray
  obtain ⟨before, unmet, after, split, _, _, reported⟩ := stray
  refine Requirement.not_stray data first past unmet ?_ reported
  rw [split]
  exact List.mem_append_right before List.mem_cons_self

/-- Each access lies within the data when it is made, the sums that are compared with the
length of the data do not wrap in 64 bits, and what is reported is never a stray access. -/
theorem parse_stays_inside (data : List UInt8) :
    (let reading := Reading.ofLength data.length
     reading.outcome data = parse data ∧
       reading.accesses data <+: Access.planned data ∧
       (∀ image, parse data = .ok image → reading.accesses data = Access.planned data) ∧
       ∀ access ∈ reading.accesses data, access.Inside data ∧
         ∃ bytes, Reader.slice data access.first access.past = .ok bytes ∧
           bytes.length = access.past - access.first) ∧
    (let place := (wordAt data 28).toNat
     place + 32 < 2 ^ 64 ∧
       (wordAt data (place + 4)).toNat + (wordAt data (place + 16)).toNat < 2 ^ 64) ∧
    ((∃ image, parse data = .ok image) ∨
      ∃ rejection, parse data = .error rejection ∧
        ∀ first past, rejection ≠ .strayAccess first past) := by
  have same : (Reading.ofLength data.length).outcome data = parse data := rfl
  have follows : Reading.Follows data (Reading.ofLength data.length) (Access.planned data) :=
    Reading.follows_planned
  have sumSmall (first second : Word) : first.toNat + second.toNat < 2 ^ 64 := by
    have firstBound := first.isLt
    have secondBound := second.isLt
    omega
  refine ⟨⟨same, follows.ordered, ?_, ?_⟩, ⟨sumSmall _ 32, sumSmall _ _⟩, ?_⟩
  · intro image accepted
    rw [← same] at accepted
    exact follows.complete image accepted
  · intro access made
    have inside : access.Inside data := by
      apply Reading.inside_of_not_stray _ _ access made
      rw [same]
      exact parse_not_stray data
    exact ⟨inside, inside.answered⟩
  · cases result : parse data with
    | ok image => exact .inl ⟨image, rfl⟩
    | error rejection =>
        refine .inr ⟨rejection, rfl, ?_⟩
        rintro first past rfl
        exact parse_not_stray data first past result

end ParsedImage

end Rv32Image
