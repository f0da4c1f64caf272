import Mathlib.Tactic.Ring
import OsExercises.BlockArray.Benchmark
import OsExercises.Foundation.Decimals

/-! # Reported times

The programs of cw01/zad2 and cw02/zad1 measure how long something takes and print the
times as seconds with a decimal point. What is behind the point is printed as a number of
its own, without leading zeros, and before it is printed cw01/zad2 sometimes divides the
two parts of a time one by one. -/

namespace OsExercises.Timing

open OsExercises

/-! ## The programs -/

/-- `struct timeval` -/
structure TimeVal where
  tvSec : Int
  tvUsec : Int

/-- `timersub(&a, &b, &result)` -/
def timersub (a b : TimeVal) : TimeVal :=
  if a.tvUsec - b.tvUsec < 0 then
    { tvSec := a.tvSec - b.tvSec - 1
      tvUsec := a.tvUsec - b.tvUsec + 1000000 }
  else
    { tvSec := a.tvSec - b.tvSec
      tvUsec := a.tvUsec - b.tvUsec }

/-- The times that the programs measure; cw02/zad1 does not measure the real time. -/
inductive Clock
  | user
  | system
  | real
  deriving DecidableEq

/-- What is in `startU`, `startS` and `startR`, or in `endU`, `endS` and `endR`. -/
abbrev Times := Clock → TimeVal

/-- What `stopTime` leaves in `endU`, `endS` and `endR` when the clocks show `now`. -/
def stopTime (start now : Times) : Times :=
  fun clock => timersub (now clock) (start clock)

/-- What `divTime` makes of one time. -/
def divide (time : TimeVal) : TimeVal where
  tvSec := time.tvSec.tdiv BlockArray.rep
  tvUsec := time.tvUsec.tdiv BlockArray.rep

def divTime (times : Times) : Times :=
  fun clock => divide (times clock)

/-- `"%ld.%ld"` -/
def formatSeconds (whole fraction : Int) : Text :=
  decimal whole ++ '.' :: decimal fraction

/-- `"%ld.%.ld"`, which prints nothing for a zero behind the point. -/
def formatSecondsShort (whole fraction : Int) : Text :=
  decimal whole ++ '.' :: if fraction = 0 then [] else decimal fraction

/-- The report of cw01/zad2 behind its first line. -/
def benchmarkReport (times : Times) : Text :=
  let user := formatSeconds (times .user).tvSec (times .user).tvUsec
  -- The seconds of the system time are printed twice.
  let system := formatSeconds (times .system).tvSec (times .system).tvSec
  let real := formatSecondsShort (times .real).tvSec (times .real).tvUsec
  "    User: ".toList ++ (user ++ 's' :: ("\n    System: ".toList ++ (system ++
    's' :: ("\n    Real ".toList ++ (real ++ 's' :: ['\n'])))))

/-- The report of cw02/zad1. -/
def recordsReport (times : Times) : Text :=
  let user := formatSeconds (times .user).tvSec (times .user).tvUsec
  let system := formatSeconds (times .system).tvSec (times .system).tvUsec
  "  User: ".toList ++ (user ++ 's' :: ("\n  System: ".toList ++ (system ++ 's' :: ['\n'])))

/-- The reports of the programs: those of cw01/zad2 with and without a call of `divTime`
before them, and those of cw02/zad1. -/
inductive Report
  | benchmark
  | dividedBenchmark
  | records

/-- What is in `endU`, `endS` and `endR` when the report is printed. -/
def Report.printed : Report → Times → Times
  | .benchmark, times | .records, times => times
  | .dividedBenchmark, times => divTime times

/-- The text that is printed of measured times. -/
def Report.text (report : Report) (times : Times) : Text :=
  match report with
  | .benchmark | .dividedBenchmark => benchmarkReport (report.printed times)
  | .records => recordsReport (report.printed times)

/-- The times in a report, line by line. -/
def Report.clocks : Report → List Clock
  | .benchmark | .dividedBenchmark => [.user, .system, .real]
  | .records => [.user, .system]

/-! ## Times -/

namespace TimeVal

def microseconds (time : TimeVal) : Int :=
  time.tvSec * 10 ^ 6 + time.tvUsec

def seconds (time : TimeVal) : ℚ :=
  time.tvSec + time.tvUsec / 10 ^ 6

theorem seconds_eq (time : TimeVal) : time.seconds = time.microseconds / 10 ^ 6 := by
  rw [seconds, microseconds]
  push_cast
  ring

theorem seconds_le_iff {shorter longer : TimeVal} :
    shorter.seconds ≤ longer.seconds ↔ shorter.microseconds ≤ longer.microseconds := by
  rw [seconds_eq, seconds_eq, div_le_div_iff_of_pos_right (by positivity), Int.cast_le]

end TimeVal

/-- A time that has passed. -/
structure Interval extends TimeVal where
  sec_nonneg : 0 ≤ tvSec
  usec_nonneg : 0 ≤ tvUsec
  usec_lt : tvUsec < 10 ^ 6

theorem microseconds_timersub (a b : TimeVal) :
    (timersub a b).microseconds = a.microseconds - b.microseconds := by
  unfold timersub TimeVal.microseconds
  split
  · simp only
    omega
  · simp only
    omega

/-- Between two moments there is an interval. -/
theorem exists_interval {start now : Interval}
    (later : start.microseconds ≤ now.microseconds) :
    ∃ passed : Interval, timersub now.toTimeVal start.toTimeVal = passed.toTimeVal := by
  have difference := microseconds_timersub now.toTimeVal start.toTimeVal
  have bounds := And.intro now.usec_nonneg now.usec_lt
  have startBounds := And.intro start.usec_nonneg start.usec_lt
  have usec : 0 ≤ (timersub now.toTimeVal start.toTimeVal).tvUsec ∧
      (timersub now.toTimeVal start.toTimeVal).tvUsec < 10 ^ 6 := by
    unfold timersub
    split
    · simp only
      omega
    · simp only
      omega
  have sec : 0 ≤ (timersub now.toTimeVal start.toTimeVal).tvSec := by
    unfold TimeVal.microseconds at difference later
    omega
  exact ⟨⟨_, sec, usec.1, usec.2⟩, rfl⟩

/-- Division leaves an interval. -/
def Interval.divided (interval : Interval) : Interval where
  toTimeVal := divide interval.toTimeVal
  sec_nonneg := Int.tdiv_nonneg interval.sec_nonneg (Int.natCast_nonneg _)
  usec_nonneg := Int.tdiv_nonneg interval.usec_nonneg (Int.natCast_nonneg _)
  usec_lt := (Int.tdiv_le_self _ interval.usec_nonneg).trans_lt interval.usec_lt

theorem Interval.divided_tvSec (interval : Interval) :
    interval.divided.tvSec = interval.tvSec / 1000 :=
  Int.tdiv_eq_ediv_of_nonneg interval.sec_nonneg

theorem Interval.divided_tvUsec (interval : Interval) :
    interval.divided.tvUsec = interval.tvUsec / 1000 :=
  Int.tdiv_eq_ediv_of_nonneg interval.usec_nonneg

/-- The remainder of the seconds is lost. -/
theorem Interval.microseconds_divided_iff (interval : Interval) :
    interval.divided.microseconds = interval.microseconds / BlockArray.rep ↔
      1000 ∣ interval.tvSec := by
  have thousand : (BlockArray.rep : Int) = 1000 := rfl
  have usec := interval.usec_nonneg
  rw [TimeVal.microseconds, TimeVal.microseconds, interval.divided_tvSec,
    interval.divided_tvUsec, thousand]
  omega

/-! ## Numbers in the reports -/

/-- What a reader makes of two parts of a number. -/
def shown (whole fraction : Int) : ℚ :=
  whole + fraction / 10 ^ (decimal fraction).length

section Shown

variable {whole fraction count : Int}

theorem decimal_of_nonneg (nonneg : 0 ≤ whole) : decimal whole = Nat.toDigits 10 whole.toNat := by
  lift whole to Nat using nonneg
  exact decimal_natCast whole

theorem readDecimal_formatSeconds (wholeNonneg : 0 ≤ whole) (nonneg : 0 ≤ fraction) :
    readDecimal (formatSeconds whole fraction) = shown whole fraction := by
  lift whole to Nat using wholeNonneg
  lift fraction to Nat using nonneg
  rw [formatSeconds, shown, decimal_natCast, decimal_natCast, readDecimal_toDigits]
  rfl

theorem readDecimal_formatSecondsShort (wholeNonneg : 0 ≤ whole) (nonneg : 0 ≤ fraction) :
    readDecimal (formatSecondsShort whole fraction) = shown whole fraction := by
  by_cases zero : fraction = 0
  · subst zero
    lift whole to Nat using wholeNonneg
    rw [formatSecondsShort, if_pos rfl, shown, decimal_natCast, readDecimal_point isDigit_toDigits,
      Nat.ofDigitChars_ten_toDigits]
    simp
  · rw [formatSecondsShort, if_neg zero]
    exact readDecimal_formatSeconds wholeNonneg nonneg

theorem isWord_point {digits : Text} (isDigit : ∀ character ∈ digits, character.isDigit)
    (wholeNonneg : 0 ≤ whole) : IsWord notNumeral (decimal whole ++ '.' :: digits) where
  nonempty := by simp
  solid := by
    have point : notNumeral '.' = false := by decide
    have ofDigit {character : Char} (digit : character.isDigit) :
        notNumeral character = false := by
      simp [notNumeral, digit]
    rw [decimal_of_nonneg wholeNonneg, List.forall_mem_append, List.forall_mem_cons]
    exact ⟨fun _ member => ofDigit (isDigit_toDigits _ member), point,
      fun _ member => ofDigit (isDigit _ member)⟩

theorem shown_eq_iff (nonneg : 0 ≤ fraction) (countNonneg : 0 ≤ count) :
    shown whole fraction = whole + count / 10 ^ 6 ↔
      fraction * 10 ^ 6 = count * 10 ^ (decimal fraction).length := by
  lift fraction to Nat using nonneg
  lift count to Nat using countNonneg
  have whole_numbers : (fraction : Int) * 10 ^ 6 = count * 10 ^ (decimal fraction).length ↔
      fraction * 10 ^ 6 = count * 10 ^ (decimal fraction).length := by
    exact_mod_cast Iff.rfl
  rw [shown, add_right_inj, whole_numbers, ← fraction_eq_millionths_iff, Int.cast_natCast,
    Int.cast_natCast]

theorem whole_shown_iff (wholeNonneg : 0 ≤ whole) (nonneg : 0 ≤ count) (few : count < 1000) :
    whole * 10 ^ 6 = count * 10 ^ (decimal whole).length ↔ whole = 0 ∧ count = 0 := by
  lift whole to Nat using wholeNonneg
  lift count to Nat using nonneg
  rw [decimal_natCast]
  exact_mod_cast number_shown_iff (by omega)

theorem isWord_formatSeconds (wholeNonneg : 0 ≤ whole) (nonneg : 0 ≤ fraction) :
    IsWord notNumeral (formatSeconds whole fraction) := by
  apply isWord_point _ wholeNonneg
  rw [decimal_of_nonneg nonneg]
  exact isDigit_toDigits

theorem isWord_formatSecondsShort (wholeNonneg : 0 ≤ whole) (nonneg : 0 ≤ fraction) :
    IsWord notNumeral (formatSecondsShort whole fraction) := by
  apply isWord_point _ wholeNonneg
  split
  · simp
  · rw [decimal_of_nonneg nonneg]
    exact isDigit_toDigits

end Shown

/-- The times of measured intervals. -/
def timesOf (measured : Clock → Interval) : Times :=
  fun clock => (measured clock).toTimeVal

/-- Where no clock goes back, `stopTime` leaves the intervals that have passed. -/
theorem stopTime_timesOf {start now : Clock → Interval}
    (later : ∀ clock, (start clock).microseconds ≤ (now clock).microseconds) :
    ∃ measured, stopTime (timesOf start) (timesOf now) = timesOf measured ∧
      ∀ clock, (measured clock).microseconds =
        (now clock).microseconds - (start clock).microseconds := by
  choose measured passed using fun clock => exists_interval (later clock)
  refine ⟨measured, funext passed, ?_⟩
  intro clock
  rw [← passed clock, microseconds_timersub]

section Reports

variable (measured : Clock → Interval)

theorem numbersIn_benchmarkReport :
    numbersIn (benchmarkReport (timesOf measured)) =
      [shown (measured .user).tvSec (measured .user).tvUsec,
        shown (measured .system).tvSec (measured .system).tvSec,
        shown (measured .real).tvSec (measured .real).tvUsec] := by
  have user := And.intro (measured .user).sec_nonneg (measured .user).usec_nonneg
  have system := (measured .system).sec_nonneg
  have real := And.intro (measured .real).sec_nonneg (measured .real).usec_nonneg
  unfold benchmarkReport timesOf
  simp only
  rw [numbersIn_number (by decide) (isWord_formatSeconds user.1 user.2) (by decide),
    numbersIn_number (by decide) (isWord_formatSeconds system system) (by decide),
    numbersIn_number (by decide) (isWord_formatSecondsShort real.1 real.2) (by decide),
    numbersIn_blanks (by decide), readDecimal_formatSeconds user.1 user.2,
    readDecimal_formatSeconds system system, readDecimal_formatSecondsShort real.1 real.2]

theorem numbersIn_recordsReport :
    numbersIn (recordsReport (timesOf measured)) =
      [shown (measured .user).tvSec (measured .user).tvUsec,
        shown (measured .system).tvSec (measured .system).tvUsec] := by
  have user := And.intro (measured .user).sec_nonneg (measured .user).usec_nonneg
  have system := And.intro (measured .system).sec_nonneg (measured .system).usec_nonneg
  unfold recordsReport timesOf
  simp only
  rw [numbersIn_number (by decide) (isWord_formatSeconds user.1 user.2) (by decide),
    numbersIn_number (by decide) (isWord_formatSeconds system.1 system.2) (by decide),
    numbersIn_blanks (by decide), readDecimal_formatSeconds user.1 user.2,
    readDecimal_formatSeconds system.1 system.2]

end Reports

/-! ## Correct reports -/

/-- The division is exact up to microseconds, and the numbers in the report are the times
that it was to print. -/
structure Correct (report : Report) (measured : Clock → Interval) : Prop where
  divided : report = .dividedBenchmark → ∀ clock,
    (divTime (timesOf measured) clock).microseconds =
      (measured clock).microseconds / BlockArray.rep
  denoted : numbersIn (report.text (timesOf measured)) =
    report.clocks.map fun clock => (report.printed (timesOf measured) clock).seconds

namespace TimeVal

/-- The microseconds need no leading zeros. -/
def SixDigits (time : TimeVal) : Prop :=
  time.tvUsec = 0 ∨ 10 ^ 5 ≤ time.tvUsec

/-- Behind the point the digits of the seconds mean the microseconds. -/
def Repeats (time : TimeVal) : Prop :=
  time.tvSec * 10 ^ 6 = time.tvUsec * 10 ^ (decimal time.tvSec).length

end TimeVal

/-- What a report needs of the intervals. -/
def Report.Exact (report : Report) (measured : Clock → Interval) : Prop :=
  match report with
  | .benchmark =>
      (measured .user).SixDigits ∧ (measured .system).Repeats ∧ (measured .real).SixDigits
  | .dividedBenchmark =>
      (∀ clock, 1000 ∣ (measured clock).tvSec ∧ (measured clock).tvUsec < 1000) ∧
        (measured .system).tvSec = 0
  | .records => (measured .user).SixDigits ∧ (measured .system).SixDigits

namespace Interval

theorem shown_eq_seconds_iff (interval : Interval) :
    shown interval.tvSec interval.tvUsec = interval.seconds ↔ interval.SixDigits := by
  have nonneg := interval.usec_nonneg
  have below := interval.usec_lt
  rw [TimeVal.seconds, shown_eq_iff nonneg nonneg, TimeVal.SixDigits, decimal_of_nonneg nonneg]
  generalize interval.tvUsec = count at nonneg below
  lift count to Nat using nonneg
  rw [Int.toNat_natCast]
  exact_mod_cast millionths_shown_iff (by omega)

theorem shown_twice_iff (interval : Interval) :
    shown interval.tvSec interval.tvSec = interval.seconds ↔ interval.Repeats := by
  rw [TimeVal.seconds, shown_eq_iff interval.sec_nonneg interval.usec_nonneg, TimeVal.Repeats]

/-- A thousandth of the microseconds has at most three digits. -/
theorem divided_sixDigits_iff (interval : Interval) :
    interval.divided.SixDigits ↔ interval.tvUsec < 1000 := by
  have below := interval.usec_lt
  have nonneg := interval.usec_nonneg
  rw [TimeVal.SixDigits, interval.divided_tvUsec]
  omega

theorem divided_repeats_iff (interval : Interval) :
    interval.divided.Repeats ↔ interval.tvSec < 1000 ∧ interval.tvUsec < 1000 := by
  have below := interval.usec_lt
  have nonneg := And.intro interval.sec_nonneg interval.usec_nonneg
  have usec := interval.divided_tvUsec
  rw [TimeVal.Repeats, whole_shown_iff interval.divided.sec_nonneg interval.divided.usec_nonneg
    (by omega), interval.divided_tvSec, usec]
  omega

end Interval

section Correct

variable {measured longer : Clock → Interval} {report : Report}

theorem benchmark_denoted_iff :
    numbersIn (benchmarkReport (timesOf measured)) =
        [(measured .user).seconds, (measured .system).seconds, (measured .real).seconds] ↔
      (measured .user).SixDigits ∧ (measured .system).Repeats ∧ (measured .real).SixDigits := by
  rw [numbersIn_benchmarkReport, List.cons.injEq, List.cons.injEq, List.cons.injEq,
    Interval.shown_eq_seconds_iff, Interval.shown_twice_iff, Interval.shown_eq_seconds_iff]
  simp only [and_true]

theorem records_denoted_iff :
    numbersIn (recordsReport (timesOf measured)) =
        [(measured .user).seconds, (measured .system).seconds] ↔
      (measured .user).SixDigits ∧ (measured .system).SixDigits := by
  rw [numbersIn_recordsReport, List.cons.injEq, List.cons.injEq,
    Interval.shown_eq_seconds_iff, Interval.shown_eq_seconds_iff]
  simp only [and_true]

/-- The seconds of all intervals are multiples of `rep`, so those of the system time, which
are printed in place of less than a thousand microseconds, are zero. -/
theorem dividedBenchmark_correct_iff :
    Correct .dividedBenchmark measured ↔ Report.Exact .dividedBenchmark measured := by
  have denoted := @benchmark_denoted_iff fun clock => (measured clock).divided
  simp only [Interval.divided_sixDigits_iff, Interval.divided_repeats_iff] at denoted
  constructor
  · intro correct
    have whole (clock : Clock) : 1000 ∣ (measured clock).tvSec :=
      (measured clock).microseconds_divided_iff.mp (correct.divided rfl clock)
    rcases denoted.mp correct.denoted with ⟨user, system, real⟩
    have sec := (measured .system).sec_nonneg
    have multiple := whole .system
    refine ⟨?_, by omega⟩
    intro clock
    refine ⟨whole clock, ?_⟩
    cases clock with
    | user => exact user
    | system => exact system.2
    | real => exact real
  · intro exactly
    refine ⟨?_, ?_⟩
    · intro _ clock
      exact (measured clock).microseconds_divided_iff.mpr (exactly.1 clock).1
    · have zero := exactly.2
      exact denoted.mpr
        ⟨(exactly.1 .user).2, ⟨by omega, (exactly.1 .system).2⟩, (exactly.1 .real).2⟩

theorem correct_exact_iff : Correct report measured ↔ report.Exact measured := by
  cases report with
  | benchmark =>
      exact ⟨fun correct => benchmark_denoted_iff.mp correct.denoted,
        fun exactly => ⟨nofun, benchmark_denoted_iff.mpr exactly⟩⟩
  | dividedBenchmark => exact dividedBenchmark_correct_iff
  | records =>
      exact ⟨fun correct => records_denoted_iff.mp correct.denoted,
        fun exactly => ⟨nofun, records_denoted_iff.mpr exactly⟩⟩

/-- What is printed of a longer interval is not less. -/
theorem printed_monotone {clock : Clock} (correct : Correct report measured)
    (longerCorrect : Correct report longer)
    (order : (measured clock).microseconds ≤ (longer clock).microseconds) :
    (report.printed (timesOf measured) clock).seconds ≤
      (report.printed (timesOf longer) clock).seconds := by
  rw [TimeVal.seconds_le_iff]
  cases report with
  | benchmark | records => exact order
  | dividedBenchmark =>
      have divided := correct.divided rfl clock
      have longerDivided := longerCorrect.divided rfl clock
      unfold Report.printed
      rw [divided, longerDivided]
      exact Int.ediv_le_ediv (by decide) order

theorem numbersIn_getElem? {k : Nat} {clock : Clock} (correct : Correct report measured)
    (line : report.clocks[k]? = some clock) :
    (numbersIn (report.text (timesOf measured)))[k]? =
      some (report.printed (timesOf measured) clock).seconds := by
  rw [correct.denoted, List.getElem?_map, line, Option.map_some]

end Correct

/-- A report is correct exactly when the digits of its numbers can be read as they are. Among
correct reports no line has a smaller number for a longer interval. -/
theorem correct_iff (report : Report) (measured : Clock → Interval) :
    (Correct report measured ↔ report.Exact measured) ∧
      ∀ longer, report.Exact measured → report.Exact longer →
        ∀ (k : Nat) (clock : Clock), report.clocks[k]? = some clock →
          (measured clock).microseconds ≤ (longer clock).microseconds →
            ∃ small large, (numbersIn (report.text (timesOf measured)))[k]? = some small ∧
              (numbersIn (report.text (timesOf longer)))[k]? = some large ∧ small ≤ large := by
  refine ⟨correct_exact_iff, ?_⟩
  intro longer exactly longerExactly k clock line order
  have correct := correct_exact_iff.mpr exactly
  have longerCorrect := correct_exact_iff.mpr longerExactly
  exact ⟨_, _, numbersIn_getElem? correct line, numbersIn_getElem? longerCorrect line,
    printed_monotone correct longerCorrect order⟩

def Interval.of (sec usec : Nat) (below : usec < 10 ^ 6) : Interval where
  tvSec := sec
  tvUsec := usec
  sec_nonneg := Int.natCast_nonneg sec
  usec_nonneg := Int.natCast_nonneg usec
  usec_lt := by omega

/-- A tenth of a second, and a fifth. -/
theorem correct_iff_tenths :
    Correct .records (fun _ => Interval.of 0 100000 (by decide)) ∧
      ∃ small large, (numbersIn (recordsReport
          (timesOf fun _ => Interval.of 0 100000 (by decide))))[0]? = some small ∧
        (numbersIn (recordsReport
          (timesOf fun _ => Interval.of 0 200000 (by decide))))[0]? = some large ∧
        small ≤ large := by
  have exactly : Report.Exact .records (fun _ => Interval.of 0 100000 (by decide)) :=
    ⟨.inr (by decide), .inr (by decide)⟩
  have longerExactly : Report.Exact .records (fun _ => Interval.of 0 200000 (by decide)) :=
    ⟨.inr (by decide), .inr (by decide)⟩
  have both := correct_iff .records (fun _ => Interval.of 0 100000 (by decide))
  exact ⟨both.1.mpr exactly, both.2 _ exactly longerExactly 0 .user rfl (by decide)⟩

/-- A time of 96969 microseconds is printed as 0.96969 seconds, and a longer one as less. The
seconds of the system time are printed behind the point. A second and a half becomes half a
millisecond when it is divided. -/
theorem correct_fails :
    numbersIn (recordsReport (timesOf fun _ => Interval.of 0 96969 (by decide))) =
        [96969 / 100000, 96969 / 100000] ∧
      numbersIn (recordsReport (timesOf fun _ => Interval.of 0 204703 (by decide))) =
        [204703 / 1000000, 204703 / 1000000] ∧
      ¬ Correct .records (fun _ => Interval.of 0 96969 (by decide)) ∧
      ¬ Correct .benchmark (fun _ => Interval.of 1 500000 (by decide)) ∧
      (divTime (timesOf fun _ => Interval.of 1 500000 (by decide)) .user).microseconds = 500 ∧
      ¬ Correct .dividedBenchmark (fun _ => Interval.of 1 500000 (by decide)) := by
  have five : (decimal 96969).length = 5 := by decide
  have six : (decimal 204703).length = 6 := by decide
  refine ⟨?_, ?_, ?_, ?_, by decide, ?_⟩
  · rw [numbersIn_recordsReport]
    norm_num [Interval.of, shown, five]
  · rw [numbersIn_recordsReport]
    norm_num [Interval.of, shown, six]
  · rw [correct_exact_iff]
    exact fun exactly => absurd exactly.1 (by unfold TimeVal.SixDigits; decide)
  · rw [correct_exact_iff]
    exact fun exactly => absurd exactly.2.1 (by unfold TimeVal.Repeats; decide)
  · rw [correct_exact_iff]
    exact fun exactly => absurd (exactly.1 .user).1 (by decide)

end OsExercises.Timing
