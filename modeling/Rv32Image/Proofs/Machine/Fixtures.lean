/-
The fixtures compute what they say.  Loops are entered at their test and described for
any number of rounds.
-/

import Mathlib.Data.Nat.Fib.Basic
import Rv32Image.Fixture
import Rv32Image.Proofs.Assembly.Resolution
import Rv32Image.Proofs.Machine.Program

namespace Rv32Image

/-! ### Numbers in registers -/

namespace Word

theorem ofNat_succ_sub_one (number : Nat) :
    BitVec.ofNat 32 (number + 1) - 1 = BitVec.ofNat 32 number := by
  rw [BitVec.ofNat_add]
  exact BitVec.add_sub_cancel _ _

theorem ofNat_ne_zero {number : Nat} (small : number < 2 ^ 32) (positive : 0 < number) :
    BitVec.ofNat 32 number ≠ 0 := by
  intro zero
  have value := congrArg BitVec.toNat zero
  rw [BitVec.toNat_ofNat, Nat.mod_eq_of_lt small] at value
  change number = 0 at value
  omega

end Word

namespace Fixture

open Assembly Placed Word

/-! ### Labels -/

/-- The fixture is assembled to a program of which every word can be decoded. -/
structure Resolved (fixture : Fixture) (program : List Instruction) : Prop where
  leads : fixture.assembly.Leads [] () program
  inRange : ∀ instruction ∈ program, instruction.InRange

theorem Resolved.code_eq {fixture : Fixture} {program : List Instruction}
    (resolved : fixture.Resolved program) : fixture.code = Instruction.code program := by
  obtain ⟨later, ran, holds⟩ := resolved.leads .empty rfl
  have last : (fixture.assembly.run .empty).get fixture.assembles = ((), later) :=
    Option.get_of_eq_some fixture.assembles ran
  rw [code, builder, last, holds]

def program (lines : List Line) : List Instruction :=
  lines.flatMap Line.instructions

def countdownProgram : List Instruction :=
  program [
    .immediate .addi .ra .zero 3,
    .immediate .addi .sp .zero 1,
    .register .sub .ra .ra .sp,
    .branch .bne .ra .zero (-4),
    .halt]

theorem countdown_resolved : countdown.Resolved countdownProgram where
  leads :=
    (leads_line _).bind <| (leads_line _).bind <|
    leads_label.bind <| (leads_line _).bind <|
    leads_label.bind <| (leads_distance (by decide) (by decide)).bind <| (leads_line _).bind <|
    leads_line _
  inRange := by decide

def sumProgram : List Instruction :=
  program [
    .li .a0 5,
    .li .a1 0,
    .register .add .a1 .a1 .a0,
    .immediate .addi .a0 .a0 (-1),
    .branch .bne .a0 .zero (-8),
    .halt]

theorem sum_resolved : sum.Resolved sumProgram where
  leads :=
    (leads_line _).bind <| (leads_line _).bind <|
    leads_label.bind <| (leads_line _).bind <| (leads_line _).bind <|
    leads_label.bind <| (leads_distance (by decide) (by decide)).bind <| (leads_line _).bind <|
    leads_line _
  inRange := by decide

def callProgram : List Instruction :=
  program [
    .li .a0 10,
    .jal .ra 12,
    .immediate .addi .a0 .a0 1,
    .halt,
    .immediate .addi .a0 .a0 5,
    .ret]

theorem call_resolved : call.Resolved callProgram where
  leads :=
    (leads_line _).bind <| leads_slot.bind <| (leads_line _).bind <| (leads_line _).bind <|
    leads_label.bind <| (leads_line _).bind <| (leads_line _).bind <|
    (leads_distance (by decide) (by decide)).bind <| leads_fill (by decide) _
  inRange := by decide

def arithmeticProgram : List Instruction :=
  program [
    .li .a0 5,
    .li .a1 3,
    .register .add .a2 .a0 .a1,
    .register .sub .a3 .a0 .a1,
    .register .or .a4 .a0 .a1,
    .register .and .a5 .a0 .a1,
    .exit]

theorem arithmetic_resolved : arithmetic.Resolved arithmeticProgram where
  leads :=
    (leads_line _).bind <| (leads_line _).bind <| (leads_line _).bind <| (leads_line _).bind <|
    (leads_line _).bind <| (leads_line _).bind <| leads_line _
  inRange := by decide

def memoryProgram : List Instruction :=
  program [
    .upper .lui .t1 0x12345,
    .immediate .addi .t1 .t1 0x678,
    .store .sw .t1 100 .zero,
    .load .lw .t2 100 .zero,
    .load .lbu .s0 101 .zero,
    .exit]

theorem memory_resolved : memory.Resolved memoryProgram where
  leads :=
    (leads_line _).bind <| (leads_line _).bind <| (leads_line _).bind <| (leads_line _).bind <|
    (leads_line _).bind <| leads_line _
  inRange := by decide

def fibonacciProgram : List Instruction :=
  program [
    .li .a0 10,
    .li .t0 0,
    .li .t1 1,
    .li .t2 0,
    .branch .bge .t2 .a0 24,
    .register .add .s0 .t1 .t0,
    .mv .t0 .t1,
    .mv .t1 .s0,
    .immediate .addi .t2 .t2 1,
    .branch .beq .zero .zero (-20),
    .mv .a0 .t0,
    .exit]

theorem fibonacci_resolved : fibonacci.Resolved fibonacciProgram where
  leads :=
    (leads_line _).bind <| (leads_line _).bind <| (leads_line _).bind <| (leads_line _).bind <|
    leads_label.bind <| leads_slot.bind <| (leads_line _).bind <| (leads_line _).bind <|
    (leads_line _).bind <| (leads_line _).bind <|
    leads_label.bind <| (leads_distance (by decide) (by decide)).bind <| (leads_line _).bind <|
    leads_label.bind <| (leads_distance (by decide) (by decide)).bind <|
    (leads_fill (by decide) _).bind <| (leads_line _).bind <| leads_line _
  inRange := by decide

/-! ### Loops -/

/-- From the test at the end of the loop on, register `ra` is counted down. -/
theorem countdown_loop (placed : Placed countdownProgram)
    (storage : placed.Storage) (rounds : Nat) (small : rounds < 2 ^ 32)
    {registers : RegisterFile} (left : registers.read .ra = BitVec.ofNat 32 rounds)
    (one : registers.read .sp = 1) :
    placed.Stops (fun final => final.read .ra = 0) 3 registers storage := by
  -- The invariant is at the test, so that each case meets the test once.
  induction rounds generalizing registers with
  | zero =>
      apply Stops.branch .bne .ra .zero (-4) 2 rfl rfl
      · intro again
        exact absurd left again
      · intro _
        exact Stops.halt rfl left
  | succ rounds ih =>
      apply Stops.branch .bne .ra .zero (-4) 2 rfl rfl
      · intro _
        have difference : RegisterOperation.sub.result (registers.read .ra) (registers.read .sp) =
            BitVec.ofNat 32 rounds := by
          rw [left, one]
          exact ofNat_succ_sub_one rounds
        apply Stops.register .sub .ra .ra .sp _ rfl difference
        apply ih (by omega)
        · simp
        · simp [one]
      · intro done
        rw [left] at done
        exact absurd (ofNat_ne_zero small (by omega)) done

theorem countdown_stops (placed : Placed countdownProgram)
    (registers : RegisterFile) (storage : placed.Storage) :
    placed.Stops (fun final => final.read .ra = 0) 0 registers storage := by
  apply Stops.li .ra 3 rfl
  apply Stops.li .sp 1 rfl
  apply Stops.register .sub .ra .ra .sp 2 rfl
  · simp [RegisterOperation.result]
  · apply countdown_loop placed storage 2 (by decide)
    · simp
    · simp

/-- From the test at the end of the loop on, the numbers that are left are added to
register `a1`. -/
theorem sum_loop (placed : Placed sumProgram) (storage : placed.Storage)
    (rounds total result : Nat) (small : rounds < 2 ^ 32)
    (sums : total + (List.range (rounds + 1)).sum = result) {registers : RegisterFile}
    (left : registers.read .a0 = BitVec.ofNat 32 rounds)
    (added : registers.read .a1 = BitVec.ofNat 32 total) :
    placed.Stops (fun final => final.read .a1 = BitVec.ofNat 32 result ∧ final.read .a0 = 0) 4
      registers storage := by
  induction rounds generalizing total registers with
  | zero =>
      apply Stops.branch .bne .a0 .zero (-8) 2 rfl rfl
      · intro again
        exact absurd left again
      · intro _
        apply Stops.halt rfl
        rw [added, ← sums]
        exact ⟨rfl, left⟩
  | succ rounds ih =>
      have shorter : total + (rounds + 1) + (List.range (rounds + 1)).sum = result := by
        rw [List.range_succ, List.sum_append, List.sum_singleton] at sums
        omega
      have larger : RegisterOperation.add.result (registers.read .a1) (registers.read .a0) =
          BitVec.ofNat 32 (total + (rounds + 1)) := by
        rw [added, left]
        exact (BitVec.ofNat_add _ _).symm
      have fewer : ImmediateOperation.addi.result (registers.read .a0) (BitVec.ofInt 32 (-1)) =
          BitVec.ofNat 32 rounds := by
        rw [left, ← ofNat_succ_sub_one rounds, BitVec.sub_eq_add_neg]
        rfl
      apply Stops.branch .bne .a0 .zero (-8) 2 rfl rfl
      · intro _
        apply Stops.register .add .a1 .a1 .a0 _ rfl larger
        apply Stops.immediate .addi .a0 .a0 (-1) (BitVec.ofNat 32 rounds) rfl
        · rw [RegisterFile.read_write_of_ne _ (by decide)]
          exact fewer
        apply ih _ (by omega) shorter
        · simp
        · simp
      · intro done
        rw [left] at done
        exact absurd (ofNat_ne_zero small (by omega)) done

theorem sum_stops (placed : Placed sumProgram) (registers : RegisterFile)
    (storage : placed.Storage) :
    placed.Stops (fun final => final.read .a1 = 15 ∧ final.read .a0 = 0) 0 registers storage := by
  apply Stops.li .a0 5 rfl
  apply Stops.li .a1 0 rfl
  apply Stops.register .add .a1 .a1 .a0 5 rfl
  · simp [RegisterOperation.result]
  apply Stops.immediate .addi .a0 .a0 (-1) 4 rfl
  · simp [ImmediateOperation.result]
  apply sum_loop placed storage 4 5 15 (by decide) (by decide)
  · simp
  · simp

/-- From the test on, `t0` and `t1` hold two neighbours of the sequence and go on to the one
that `a0` asks for. -/
theorem fibonacci_loop (placed : Placed fibonacciProgram)
    (storage : placed.Storage) (limit rounds left : Nat) (small : limit < 2 ^ 31)
    (total : rounds + left = limit) {registers : RegisterFile}
    (limitIn : registers.read .a0 = BitVec.ofNat 32 limit)
    (roundsIn : registers.read .t2 = BitVec.ofNat 32 rounds)
    (first : registers.read .t0 = BitVec.ofNat 32 (Nat.fib rounds))
    (second : registers.read .t1 = BitVec.ofNat 32 (Nat.fib (rounds + 1))) :
    placed.Stops (fun final => final.read .a0 = BitVec.ofNat 32 (Nat.fib limit)) 4
      registers storage := by
  -- The test compares signed numbers, hence the bound on the limit.
  induction left generalizing rounds registers with
  | zero =>
      apply Stops.branch .bge .t2 .a0 24 10 rfl rfl
      · intro _
        apply Stops.mv .a0 .t0 _ rfl first
        apply Stops.exit rfl rfl
        rw [← total]
        simp
      · intro again
        rw [limitIn, roundsIn, ← total] at again
        exact absurd (Int.le_refl _) again
  | succ left ih =>
      have next : RegisterOperation.add.result (registers.read .t1) (registers.read .t0) =
          BitVec.ofNat 32 (Nat.fib (rounds + 2)) := by
        rw [first, second, Nat.fib_add_two, Nat.add_comm (Nat.fib rounds)]
        exact (BitVec.ofNat_add _ _).symm
      apply Stops.branch .bge .t2 .a0 24 10 rfl rfl
      · intro done
        rw [limitIn, roundsIn, BranchOperation.Taken, toInt_ofNat_of_lt small,
          toInt_ofNat_of_lt (by omega)] at done
        omega
      · intro _
        apply Stops.register .add .s0 .t1 .t0 _ rfl next
        apply Stops.mv .t0 .t1 (BitVec.ofNat 32 (Nat.fib (rounds + 1))) rfl
        · simp [second]
        apply Stops.mv .t1 .s0 (BitVec.ofNat 32 (Nat.fib (rounds + 2))) rfl
        · simp
        apply Stops.immediate .addi .t2 .t2 1 (BitVec.ofNat 32 (rounds + 1)) rfl
        · simp [ImmediateOperation.result, roundsIn, BitVec.ofNat_add]
        apply Stops.branch .beq .zero .zero (-20) 4 rfl rfl
        · intro _
          apply ih (rounds + 1) (by omega)
          · simp [limitIn]
          · simp
          · simp
          · simp
        · intro onward
          exact absurd rfl onward

theorem fibonacci_stops (placed : Placed fibonacciProgram)
    (registers : RegisterFile) (storage : placed.Storage) :
    placed.Stops (fun final => final.read .a0 = 55) 0 registers storage := by
  apply Stops.li .a0 10 rfl
  apply Stops.li .t0 0 rfl
  apply Stops.li .t1 1 rfl
  apply Stops.li .t2 0 rfl
  apply fibonacci_loop placed storage 10 0 10 (by decide) rfl
  · simp
  · simp
  · simp
  · simp

/-! ### Programs without a loop -/

theorem call_stops (placed : Placed callProgram) (registers : RegisterFile)
    (storage : placed.Storage) :
    placed.Stops (fun final => final.read .a0 = 16) 0 registers storage := by
  apply Stops.li .a0 10 rfl
  apply Stops.jal .ra 12 4 rfl rfl
  apply Stops.immediate .addi .a0 .a0 5 15 rfl
  · simp [ImmediateOperation.result]
  apply Stops.jalr .zero .ra 0 2 rfl
  · simp
  apply Stops.immediate .addi .a0 .a0 1 16 rfl
  · simp [ImmediateOperation.result]
  apply Stops.halt rfl
  simp

theorem arithmetic_stops (placed : Placed arithmeticProgram)
    (registers : RegisterFile) (storage : placed.Storage) :
    placed.Stops
      (fun final => final.read .a2 = 8 ∧ final.read .a3 = 2 ∧ final.read .a4 = 7 ∧
        final.read .a5 = 1) 0 registers storage := by
  apply Stops.li .a0 5 rfl
  apply Stops.li .a1 3 rfl
  apply Stops.register .add .a2 .a0 .a1 8 rfl
  · simp [RegisterOperation.result]
  apply Stops.register .sub .a3 .a0 .a1 2 rfl
  · simp [RegisterOperation.result]
  apply Stops.register .or .a4 .a0 .a1 7 rfl
  · simp [RegisterOperation.result]
  apply Stops.register .and .a5 .a0 .a1 1 rfl
  · simp [RegisterOperation.result]
  apply Stops.exit rfl rfl
  simp

theorem memory_stops (placed : Placed memoryProgram) (registers : RegisterFile)
    (storage : placed.Storage)
    (stays : placed.Frame (storage.val.write 100 (0x12345678 : Word).bytes)) :
    placed.Stops (fun final => final.read .t2 = 0x12345678 ∧ final.read .s0 = 0x56) 0
      registers storage := by
  have short : (0x12345678 : Word).bytes.length ≤ 2 ^ 32 := by decide
  have stored := storage.val.holdsAt_write 100 short
  have second : storage.val.write 100 (0x12345678 : Word).bytes 101 = 0x56 :=
    stored 1 0x56 (by decide)
  apply Stops.lui .t1 0x12345 rfl
  apply Stops.immediate .addi .t1 .t1 0x678 0x12345678 rfl
  · simp [ImmediateOperation.result]
  apply Stops.store .sw .t1 100 .zero ⟨_, stays⟩ rfl
  · simp [StoreOperation.bytes]
  apply Stops.load .lw .t2 100 .zero 0x12345678 rfl
  · exact stored.word_eq
  apply Stops.load .lbu .s0 101 .zero 0x56 rfl
  · have address : (0 : Word) + BitVec.ofInt 32 101 = 101 := by decide
    rw [RegisterFile.read_zero, address]
    exact congrArg (fun byte => BitVec.ofNat 32 byte.toNat) second
  apply Stops.exit rfl rfl
  simp

/-! ### Fixtures in memory -/

def Resolved.placed {fixture : Fixture} {program : List Instruction}
    (resolved : fixture.Resolved program) {start : Word} (aligned : start.toNat % 4 = 0)
    (Frame : Memory → Prop) (holds : ∀ memory, Frame memory → memory.HoldsAt start fixture.code) :
    Placed program where
  start := start
  aligned := aligned
  Frame := Frame
  holds := by
    rw [← resolved.code_eq]
    exact holds
  inRange := resolved.inRange

/-- The machine runs the fixture to a stop with registers that meet the goal, and memory
does not change. -/
def Computes (fixture : Fixture) (Goal : RegisterFile → Prop) (machine : Machine) : Prop :=
  machine.StopsInside machine.counter fixture.code (fun later => later = machine.memory) Goal

theorem Resolved.computes {fixture : Fixture} {program : List Instruction}
    (resolved : fixture.Resolved program) {machine : Machine}
    (aligned : machine.counter.toNat % 4 = 0)
    (holds : machine.memory.HoldsAt machine.counter fixture.code) {Goal : RegisterFile → Prop}
    (stops : ∀ (placed : Placed program) (registers : RegisterFile)
      (storage : placed.Storage), placed.Stops Goal 0 registers storage) :
    fixture.Computes Goal machine := by
  have stays (later : Memory) (same : later = machine.memory) :
      later.HoldsAt machine.counter fixture.code := by
    rw [same]
    exact holds
  rw [Computes, resolved.code_eq]
  exact (resolved.placed aligned _ stays).stopsInside_of_stops rfl rfl (stops _ _ _)

/-- Whatever a machine holds elsewhere, it runs each fixture from any aligned address to
the stop and to the described registers.  Only `memory` changes memory, in four bytes
that must not be its own. -/
theorem all_stop_as_described (machine : Machine)
    (aligned : machine.counter.toNat % 4 = 0) :
    (machine.memory.HoldsAt machine.counter countdown.code →
      countdown.Computes (fun final => final.read .ra = 0) machine) ∧
    (machine.memory.HoldsAt machine.counter sum.code →
      sum.Computes (fun final => final.read .a1 = 15 ∧ final.read .a0 = 0) machine) ∧
    (machine.memory.HoldsAt machine.counter call.code →
      call.Computes (fun final => final.read .a0 = 16) machine) ∧
    (machine.memory.HoldsAt machine.counter arithmetic.code →
      arithmetic.Computes (fun final => final.read .a2 = 8 ∧ final.read .a3 = 2 ∧
        final.read .a4 = 7 ∧ final.read .a5 = 1) machine) ∧
    (machine.memory.HoldsAt machine.counter fibonacci.code →
      fibonacci.Computes (fun final => final.read .a0 = 55) machine) ∧
    (machine.memory.HoldsAt machine.counter memory.code →
      (∀ offset < memory.code.length, ∀ index < 4,
        machine.counter + BitVec.ofNat 32 offset ≠ 100 + BitVec.ofNat 32 index) →
      machine.StopsInside machine.counter memory.code (machine.memory.SameOutside 100 4)
        fun final => final.read .t2 = 0x12345678 ∧ final.read .s0 = 0x56) := by
  refine ⟨?_, ?_, ?_, ?_, ?_, ?_⟩
  · intro holds
    exact countdown_resolved.computes aligned holds countdown_stops
  · intro holds
    exact sum_resolved.computes aligned holds sum_stops
  · intro holds
    exact call_resolved.computes aligned holds call_stops
  · intro holds
    exact arithmetic_resolved.computes aligned holds arithmetic_stops
  · intro holds
    exact fibonacci_resolved.computes aligned holds fibonacci_stops
  · intro holds apart
    have stays (later : Memory) (same : machine.memory.SameOutside 100 4 later) :
        later.HoldsAt machine.counter memory.code :=
      holds.of_sameOutside same apart
    rw [memory_resolved.code_eq]
    apply (memory_resolved.placed aligned _ stays).stopsInside_of_stops rfl (fun _ _ => rfl)
    apply memory_stops
    exact machine.memory.sameOutside_write 100 (0x12345678 : Word).bytes

def loadedAt (fixture : Fixture) (start : Word) : Machine where
  registers := fun _ => 0xDEADBEEF
  memory := Memory.write (fun _ => 0xA5) start fixture.code
  counter := start

theorem all_stop_as_described_from_garbage :
    countdown.Computes (fun final => final.read .ra = 0) (countdown.loadedAt 0xFFFFFFF8) ∧
    sum.Computes (fun final => final.read .a1 = 15 ∧ final.read .a0 = 0)
      (sum.loadedAt 0xFFFFFFF8) ∧
    call.Computes (fun final => final.read .a0 = 16) (call.loadedAt 0xFFFFFFF8) ∧
    arithmetic.Computes (fun final => final.read .a2 = 8 ∧ final.read .a3 = 2 ∧
      final.read .a4 = 7 ∧ final.read .a5 = 1) (arithmetic.loadedAt 0xFFFFFFF8) ∧
    fibonacci.Computes (fun final => final.read .a0 = 55) (fibonacci.loadedAt 0xFFFFFFF8) ∧
    (memory.loadedAt 0).StopsInside 0 memory.code
      ((memory.loadedAt 0).memory.SameOutside 100 4)
      fun final => final.read .t2 = 0x12345678 ∧ final.read .s0 = 0x56 := by
  have holds (fixture : Fixture) (short : fixture.code.length ≤ 2 ^ 32) (start : Word) :
      (fixture.loadedAt start).memory.HoldsAt start fixture.code :=
    Memory.holdsAt_write _ start short
  have aligned : (0xFFFFFFF8 : Word).toNat % 4 = 0 := by decide
  obtain ⟨counted, _⟩ := all_stop_as_described (countdown.loadedAt 0xFFFFFFF8) aligned
  obtain ⟨_, added, _⟩ := all_stop_as_described (sum.loadedAt 0xFFFFFFF8) aligned
  obtain ⟨_, _, called, _⟩ := all_stop_as_described (call.loadedAt 0xFFFFFFF8) aligned
  obtain ⟨_, _, _, computed, _⟩ := all_stop_as_described (arithmetic.loadedAt 0xFFFFFFF8) aligned
  obtain ⟨_, _, _, _, repeated, _⟩ :=
    all_stop_as_described (fibonacci.loadedAt 0xFFFFFFF8) aligned
  obtain ⟨_, _, _, _, _, stored⟩ := all_stop_as_described (memory.loadedAt 0) (by decide)
  exact ⟨counted (holds countdown (by decide) _), added (holds sum (by decide) _),
    called (holds call (by decide) _), computed (holds arithmetic (by decide) _),
    repeated (holds fibonacci (by decide) _), stored (holds memory (by decide) _) (by decide)⟩

end Fixture

end Rv32Image
