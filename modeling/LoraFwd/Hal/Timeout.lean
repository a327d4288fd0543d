import LoraFwd.CTypes

/-!
# Timeouts and short waits of the HAL's helpers

`lorahub_aux.c` measures time with `gettimeofday` and waits with
`clock_nanosleep`.  `timeout_check` compares the milliseconds elapsed since
`timeout_start` with a timeout, through `TIMER_SUB` and a `uint32_t`;
`wait_us` sleeps a number of microseconds and, each time a signal interrupts
the sleep, goes back to sleep for what is left.

A clock reading is a value of the caller: `gettimeofday` writes a
`struct timeval` whose microseconds lie in `[0, 10^6)` (`Timeval.Normal`).
The signals that interrupt `wait_us` are a script, as the platform under the
GPIO driver is: for each sleep, how long after its start a signal arrives, if
one does.  A `long` is an `Int`; the conversion to `uint32_t` is the only
place where the width of a type changes a value.

The main results: `TIMER_SUB` computes the difference of two readings in
microseconds (`timerSub_toUs`); `timeout_check` reports a timeout exactly when
the elapsed whole milliseconds, reduced modulo `2^32`, reach it
(`timeoutCheck_eq`), so it is right for 49.7 days and wrong after a wrap or a
step back of the clock; and `wait_us` returns after at most one sleep more
than the signals the script holds, having slept the delay asked for, less at
most 1 µs (`waitUs_slept`).
-/

namespace LoraFwd.Hal

open LoraFwd.CTypes

/-! ## `timeout_start` and `timeout_check` -/

/-- `struct timeval`. -/
structure Timeval where
  tvSec : Int
  tvUsec : Int
deriving DecidableEq, Repr

/-- The microseconds a `struct timeval` stands for. -/
def Timeval.toUs (time : Timeval) : Int := time.tvSec * 1000000 + time.tvUsec

/-- A `struct timeval` as `gettimeofday` writes it. -/
def Timeval.Normal (time : Timeval) : Prop := 0 ≤ time.tvUsec ∧ time.tvUsec < 1000000

instance (time : Timeval) : Decidable time.Normal := inferInstanceAs (Decidable (_ ∧ _))

/-- `TIMER_SUB(a, b, result)` of `lorahub_aux.h`. -/
def timerSub (a b : Timeval) : Timeval :=
  let result : Timeval := ⟨a.tvSec - b.tvSec, a.tvUsec - b.tvUsec⟩
  if result.tvUsec < 0 then ⟨result.tvSec - 1, result.tvUsec + 1000000⟩ else result

/-- `timeout_start`: the reading of `gettimeofday`. -/
def timeoutStart (now : Timeval) : Timeval := now

/-- The conversion of a `long` to `uint32_t`: the value modulo `2^32`. -/
def longToUInt32 (value : Int) : UInt32 := (value % 2 ^ 32).toNat.toUInt32

/-- `timeout_check(start, timeout_ms)` when `gettimeofday` reads `now`: `-1`
once the milliseconds elapsed, as a `uint32_t`, reach the timeout.  C's `/`
truncates toward zero. -/
def timeoutCheck (start : Timeval) (timeoutMs : UInt32) (now : Timeval) : Int :=
  let diff := timerSub now start
  let ms := longToUInt32 (diff.tvSec * 1000 + diff.tvUsec.tdiv 1000)
  if ms ≥ timeoutMs then -1 else 0

/-- The whole milliseconds from `start` to `now`, rounded down. -/
def Timeval.elapsedMs (start now : Timeval) : Int := (now.toUs - start.toUs) / 1000

/-- `TIMER_SUB` computes the difference in microseconds, borrow or not. -/
theorem timerSub_toUs (a b : Timeval) : (timerSub a b).toUs = a.toUs - b.toUs := by
  dsimp only [timerSub, Timeval.toUs]
  split <;> dsimp only <;> omega

theorem timerSub_normal {a b : Timeval} (normalA : a.Normal) (normalB : b.Normal) :
    (timerSub a b).Normal := by
  unfold Timeval.Normal at *
  dsimp only [timerSub]
  split <;> dsimp only <;> omega

/-- On a normal difference the milliseconds of `timeout_check` round down. -/
theorem truncated_ms_eq {diff : Timeval} (normal : diff.Normal) :
    diff.tvSec * 1000 + diff.tvUsec.tdiv 1000 = diff.toUs / 1000 := by
  rw [Int.tdiv_eq_ediv normal.1 (by decide)]
  unfold Timeval.toUs
  omega

theorem le_longToUInt32_iff (bound : UInt32) (value : Int) :
    bound ≤ longToUInt32 value ↔ (bound.toNat : Int) ≤ value % 2 ^ 32 := by
  show bound.toNat ≤ (longToUInt32 value).toNat ↔ _
  rw [longToUInt32, toNat_toUInt32]
  omega

theorem timeoutCheck_reached {start now : Timeval} (normalStart : start.Normal)
    (normalNow : now.Normal) (timeoutMs : UInt32) :
    timeoutCheck start timeoutMs now =
      if (timeoutMs.toNat : Int) ≤ start.elapsedMs now % 2 ^ 32 then -1 else 0 := by
  have ms := truncated_ms_eq (timerSub_normal normalNow normalStart)
  rw [timerSub_toUs] at ms
  simp only [timeoutCheck, ms, ge_iff_le, le_longToUInt32_iff, Timeval.elapsedMs]

/-- `TIMER_SUB` gives the difference of the readings in microseconds, and
`timeout_check` reports a timeout exactly when the whole milliseconds elapsed,
reduced modulo `2^32` by the `uint32_t`, reach it. -/
theorem timeoutCheck_eq {start now : Timeval} (normalStart : start.Normal) (normalNow : now.Normal)
    (timeoutMs : UInt32) :
    (timerSub now start).toUs = now.toUs - start.toUs ∧
      timeoutCheck start timeoutMs now =
        if (timeoutMs.toNat : Int) ≤ start.elapsedMs now % 2 ^ 32 then -1 else 0 :=
  ⟨timerSub_toUs now start, timeoutCheck_reached normalStart normalNow timeoutMs⟩

theorem timeout_one_second_reached :
    Timeval.Normal ⟨0, 0⟩ ∧ Timeval.Normal ⟨1, 500⟩ ∧
      (timerSub ⟨1, 500⟩ ⟨0, 0⟩).toUs = Timeval.toUs ⟨1, 500⟩ - Timeval.toUs ⟨0, 0⟩ ∧
      timeoutCheck ⟨0, 0⟩ 1000 ⟨1, 500⟩ =
        if ((1000 : UInt32).toNat : Int) ≤ Timeval.elapsedMs ⟨0, 0⟩ ⟨1, 500⟩ % 2 ^ 32 then -1 else 0 :=
  ⟨by decide, by decide, timeoutCheck_eq (by decide) (by decide) 1000⟩

/-- The `uint32_t` wraps: `2^32` ms (49.7 days) after the start no positive
timeout is reported, and with a clock stepped back by less than 1 ms every
timeout is reported at once. -/
theorem timeoutCheck_wraps {start now : Timeval} (normalStart : start.Normal)
    (normalNow : now.Normal) :
    (now.toUs - start.toUs = 2 ^ 32 * 1000 →
      ∀ timeoutMs : UInt32, 0 < timeoutMs.toNat → timeoutCheck start timeoutMs now = 0) ∧
    (-1000 ≤ now.toUs - start.toUs → now.toUs < start.toUs →
      ∀ timeoutMs : UInt32, timeoutCheck start timeoutMs now = -1) := by
  have bounded (timeoutMs : UInt32) := toNat_lt_2_32 timeoutMs
  refine ⟨fun wrapped timeoutMs positive => ?_, fun near back timeoutMs => ?_⟩
  · rw [timeoutCheck_reached normalStart normalNow, if_neg]
    unfold Timeval.elapsedMs
    omega
  · rw [timeoutCheck_reached normalStart normalNow, if_pos]
    have := bounded timeoutMs
    unfold Timeval.elapsedMs
    omega

/-- 49.7 days after the start, a timeout of 1 ms reads as not reached. -/
theorem timeout_missed_after_wrap : timeoutCheck ⟨0, 0⟩ 1 ⟨4294967, 296000⟩ = 0 :=
  (timeoutCheck_wraps (by decide) (by decide)).1 (by decide) 1 (by decide)

example : timeoutCheck ⟨10, 500⟩ 60000 ⟨10, 0⟩ = -1 := by decide

/-! ## `wait_us` -/

/-- `struct timespec`. -/
structure Timespec where
  tvSec : Int
  tvNsec : Int
deriving DecidableEq, Repr

/-- The nanoseconds a `struct timespec` stands for. -/
def Timespec.toNs (time : Timespec) : Int := time.tvSec * 1000000000 + time.tvNsec

/-- A request `clock_nanosleep` accepts. -/
def Timespec.Valid (time : Timespec) : Prop :=
  0 ≤ time.tvSec ∧ 0 ≤ time.tvNsec ∧ time.tvNsec < 1000000000

instance (time : Timespec) : Decidable time.Valid := inferInstanceAs (Decidable (_ ∧ _ ∧ _))

/-- The time left of a sleep, as the kernel writes it to `rem`. -/
def Timespec.ofNs (ns : Nat) : Timespec := ⟨(ns / 1000000000 : Nat), (ns % 1000000000 : Nat)⟩

/-- The monotonic clock as `clock_nanosleep` meets it: for each sleep to come,
how many nanoseconds after its start a signal arrives, if one does, with no
signal once the script is over; and the nanoseconds slept so far. -/
structure SleepClock where
  signals : List (Option Nat)
  sleptNs : Nat
deriving DecidableEq, Repr

/-- The signal that meets the next sleep, and the script after it. -/
def SleepClock.nextSignal (clock : SleepClock) : Option Nat × List (Option Nat) :=
  match clock.signals with
  | [] => (none, [])
  | signal :: rest => (signal, rest)

/-- `clock_nanosleep(CLOCK_MONOTONIC, 0, &request, &rem)`: a request it does
not accept returns at once; otherwise sleep for the request, and when a signal
arrives before the end, stop and write the time left to `rem`, which otherwise
keeps what the caller put there. -/
def clockNanosleep (request rem : Timespec) (clock : SleepClock) : Timespec × SleepClock :=
  if ¬request.Valid then (rem, clock)
  else
    let length := request.toNs.toNat
    let (signal, signals) := clock.nextSignal
    match signal with
    | some after =>
      if after < length then (Timespec.ofNs (length - after), ⟨signals, clock.sleptNs + after⟩)
      else (rem, ⟨signals, clock.sleptNs + length⟩)
    | none => (rem, ⟨signals, clock.sleptNs + length⟩)

/-- The loop of `wait_us`, for at most `fuel` sleeps: while more than 1 µs is
left, zero `rem`, sleep for what is left, and take `rem` as what is left.
`none` when the sleeps run out. -/
def waitUsLoop (fuel : Nat) (dly : Timespec) (clock : SleepClock) : Option SleepClock :=
  if dly.tvSec > 0 ∨ dly.tvNsec > 1000 then
    match fuel with
    | 0 => none
    | fuel + 1 =>
      let (rem, clock) := clockNanosleep dly ⟨0, 0⟩ clock
      waitUsLoop fuel rem clock
  else some clock

/-- `wait_us(delay_us)`, for at most `fuel` sleeps. -/
def waitUs (fuel delayUs : Nat) (clock : SleepClock) : Option SleepClock :=
  waitUsLoop fuel ⟨(delayUs / 1000000 : Nat), (delayUs % 1000000 * 1000 : Nat)⟩ clock

/-- One sleep of `wait_us` with `rem` zeroed: what it leaves is a valid request,
and the time slept and the time left add up to the request.  A sleep no
signal stops leaves nothing. -/
theorem clockNanosleep_step {dly : Timespec} (valid : dly.Valid) (clock : SleepClock) :
    (clockNanosleep dly ⟨0, 0⟩ clock).1.Valid ∧
      (clockNanosleep dly ⟨0, 0⟩ clock).2.sleptNs + (clockNanosleep dly ⟨0, 0⟩ clock).1.toNs =
        clock.sleptNs + dly.toNs ∧
      (clockNanosleep dly ⟨0, 0⟩ clock).2.signals = clock.signals.tail ∧
      (clock.signals.head?.join = none → (clockNanosleep dly ⟨0, 0⟩ clock).1 = ⟨0, 0⟩) := by
  have ⟨secNonneg, nsecNonneg, nsecSmall⟩ := valid
  have zero : Timespec.Valid ⟨0, 0⟩ := by decide
  obtain ⟨signals, sleptNs⟩ := clock
  unfold clockNanosleep SleepClock.nextSignal
  simp only [valid, not_true_eq_false, if_false]
  cases signals with
  | nil =>
    refine ⟨zero, ?_, rfl, fun _ => rfl⟩
    simp only [Timespec.toNs]
    omega
  | cons signal rest =>
    cases signal with
    | none =>
      refine ⟨zero, ?_, rfl, fun _ => rfl⟩
      simp only [Timespec.toNs]
      omega
    | some after =>
      dsimp only
      split
      · refine ⟨⟨?_, ?_, ?_⟩, ?_, rfl, nofun⟩ <;> simp only [Timespec.ofNs, Timespec.toNs] at * <;> omega
      · refine ⟨zero, ?_, rfl, nofun⟩
        simp only [Timespec.toNs] at *
        omega

/-- The loop of `wait_us` ends within one sleep more than the signals the
script holds, having slept all that was left but at most 1 µs. -/
theorem waitUsLoop_slept : ∀ (signals : List (Option Nat)) {clock : SleepClock} {dly : Timespec},
    clock.signals = signals → dly.Valid →
    ∃ clock', waitUsLoop (signals.length + 1) dly clock = some clock' ∧
      clock'.sleptNs ≤ clock.sleptNs + dly.toNs ∧ clock.sleptNs + dly.toNs ≤ clock'.sleptNs + 1000
  | signals, clock, dly, script, valid => by
    have ⟨secNonneg, nsecNonneg, nsecSmall⟩ := valid
    unfold waitUsLoop
    split
    case isFalse stops =>
      refine ⟨clock, rfl, ?_, ?_⟩ <;> simp only [Timespec.toNs] <;> omega
    case isTrue =>
      obtain ⟨remValid, slept, later, unsignalled⟩ := clockNanosleep_step valid clock
      cases signals with
      | nil =>
        have stopped := unsignalled (by rw [script]; rfl)
        rw [stopped] at slept
        refine ⟨(clockNanosleep dly ⟨0, 0⟩ clock).2, ?_, ?_, ?_⟩
        · show waitUsLoop 0 (clockNanosleep dly ⟨0, 0⟩ clock).1 (clockNanosleep dly ⟨0, 0⟩ clock).2 =
            some (clockNanosleep dly ⟨0, 0⟩ clock).2
          rw [stopped, waitUsLoop, if_neg (by decide)]
        all_goals simp only [Timespec.toNs] at slept ⊢; omega
      | cons signal rest =>
        obtain ⟨clock', done, below, above⟩ :=
          waitUsLoop_slept rest (later.trans (by rw [script]; rfl)) remValid
        exact ⟨clock', done, by omega, by omega⟩

/-- `wait_us` returns within one sleep more than the signals the script holds,
whatever they are, and sleeps the delay asked for, less at most 1 µs. -/
theorem waitUs_slept (delayUs : Nat) (clock : SleepClock) :
    ∃ clock', waitUs (clock.signals.length + 1) delayUs clock = some clock' ∧
      clock'.sleptNs ≤ clock.sleptNs + delayUs * 1000 ∧
      clock.sleptNs + delayUs * 1000 ≤ clock'.sleptNs + 1000 := by
  have valid : Timespec.Valid ⟨(delayUs / 1000000 : Nat), (delayUs % 1000000 * 1000 : Nat)⟩ := by
    refine ⟨?_, ?_, ?_⟩ <;> dsimp only <;> omega
  obtain ⟨clock', done, below, above⟩ := waitUsLoop_slept clock.signals rfl valid
  refine ⟨clock', done, ?_, ?_⟩ <;> simp only [Timespec.toNs] at below above <;> omega

/-- A signal 0.3 ms into a wait of 1.5 ms: two sleeps, 1.5 ms slept in all. -/
example : waitUs 2 1500 ⟨[some 300000], 0⟩ = some ⟨[], 1500000⟩ := by decide

end LoraFwd.Hal
