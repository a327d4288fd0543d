import LoraFwd.Gpio.Lifecycle

/-!
# The interrupt thread against the API's calls

`intr_thread_func` takes no lock, and two of the API's calls can change what
it has read before it uses it again:

* `gpio_set_callback(i, NULL)` while the thread dispatches line `i`: the thread
  tests `callbacks[i]` at line 209, reads the line's event at line 215, and
  calls through `callbacks[i]` again at line 216, which is then `NULL`
  (`cleared_callback_called`);
* `gpio_init` while the thread runs: it writes `max_lines` at line 74 and
  reallocates `lines` and `callbacks` only at lines 83 and 92, so the thread's
  next test of `i < max_lines` can send it past the end of the old tables
  (`reinit_reads_past_end`).

A caller who keeps clear of both (`GpioStep.disciplined`) meets no fault on an
allocator that never fails (`disciplined_run_never_faults`).

The scenario is a board whose chip has one line, with edge interrupts and a
callback on it: the thread scans the line, `poll` reports its descriptor, and
the thread stops before the event read of its first dispatch.  Each race is
reached from there, and a `gpio_cleanup` made while the thread runs waits for
it and then frees the tables.
-/

namespace LoraFwd.Gpio

/-! ## Runs that keep to the rules -/

/-- On an allocator that never fails, no run faults in which the caller keeps
the two rules of `GpioStep.disciplined`, whatever the platform answers and
wherever the thread's steps fall between the calls, as long as the arrays of
the bulk calls hold `count` entries. -/
theorem disciplined_run_never_faults (platform : Platform) (reliable : platform.Reliable)
    (steps : List GpioStep) (sized : ∀ step ∈ steps, step.sized = true)
    (obeyed : disciplinedRun steps (GpioState.init platform) = true) :
    ∃ s, run steps (GpioState.init platform) = .ok s :=
  disciplinedRun_ok steps (GpioInv.initial platform) (SafeInv.initial reliable) sized obeyed

/-- A chip of one line that opens, whose line gives a handle and takes an edge
request; a thread that starts; a descriptor 5 that `poll` reports ready, and
an event read that succeeds; then a chip of two lines. -/
def racePlatform : Platform :=
  ⟨[{ SysReply.failed with ok := true }, { SysReply.failed with value := 1 },
    { SysReply.failed with ok := true }, SysReply.failed, { SysReply.failed with value := 0 },
    { SysReply.failed with value := 0 }, { SysReply.failed with value := 5 },
    { SysReply.failed with value := 1, ready := [5] }, { SysReply.failed with value := 5 },
    { SysReply.failed with value := 0 }, { SysReply.failed with ok := true },
    { SysReply.failed with value := 2 }], [], []⟩

/-- `gpio_init`, edge interrupts and a callback on line 0, and the thread up to
the event read of its first dispatch: the `malloc`, the scan, a `poll` that
reports the line, and the tests of the dispatch. -/
def raceSteps : List GpioStep :=
  [.call (.init true), .call (.setIntrType 0 gpioIntrPosedge), .call (.setCallback 0 (some 7))] ++
    List.replicate 11 .thread

/-- The thread's last two steps of its dispatch, a `gpio_cleanup` while the
thread runs, the thread's return at the test of its loop, and the end of
`gpio_cleanup`. -/
def raceCleanup : List GpioStep :=
  [.thread, .thread, .call .cleanup, .thread, .thread, .resume]

theorem race_run_never_faults :
    ∃ s, run (raceSteps ++ raceCleanup) (GpioState.init racePlatform) = .ok s :=
  disciplined_run_never_faults racePlatform nofun (raceSteps ++ raceCleanup) (by decide) rfl

/-! ## A callback cleared under the thread -/

/-- When the thread is about to read the event of line `i`, having found its
callback set and its descriptor ready, a `gpio_set_callback(i, NULL)` that
falls before its next two steps makes it call through `NULL` once the event
read succeeds. -/
theorem cleared_callback_called {s : GpioState} {fds ready : List Int} {i : Nat}
    (dispatching : s.thread = .dispatch .read fds ready i) (idle : s.pending = none)
    (sized : s.callbacks.map List.length = some s.maxLines) (inRange : i < s.maxLines)
    (held : readAt s.lines i = .ok true) (event : (sys (.lineEventRead i) s.platform).1.value = 0) :
    run [.call (.setCallback i none), .thread, .thread] s = .error .nullDeref := by
  have written := writeAt_ok sized inRange none
  have gone : readAt (s.callbacks.map (·.set i none)) i = .ok none := by
    rw [readAt_writeAt written, if_pos rfl]
  simp only [run, GpioStep.exec, idle, Option.isSome_none, Bool.false_eq_true, if_false, GpioCall.start,
    GpioCall.exec, gpioSetCallback, if_neg (Nat.not_le.mpr inRange), written, ok_bind, pure_bind,
    Bool.false_and, intrThreadStep, intrThreadAction, dispatching, held, Bool.not_true, event, if_true, gone]
  rfl

/-- The state of the scenario before the event read. -/
def raceReading : GpioState :=
  match run raceSteps (GpioState.init racePlatform) with
  | .ok s => s
  | .error _ => GpioState.init racePlatform

theorem cleared_callback_after_poll :
    run raceSteps (GpioState.init racePlatform) = .ok raceReading ∧
      run [.call (.setCallback 0 none), .thread, .thread] raceReading = .error .nullDeref :=
  ⟨rfl, cleared_callback_called rfl rfl rfl (by decide) rfl rfl⟩

/-! ## `gpio_init` under the thread -/

/-- When the thread has dispatched every line of a chip of `count` lines and
is about to test `i < max_lines` at `i = count`, a `gpio_init` that opens a
chip with more lines writes `max_lines` before the tables: the thread's test
passes, and it reads `callbacks[count]` from the old table of `count`
entries. -/
theorem reinit_reads_past_end {s : GpioState} {fds ready : List Int} {count : Nat}
    (dispatching : s.thread = .dispatch .test fds ready count) (idle : s.pending = none)
    (sized : s.callbacks.map List.length = some count)
    (opened : (sys .chipOpenByName s.platform).1.ok = true)
    (more : count < (sys .chipNumLines (sys .chipOpenByName s.platform).2).1.value.toNat) :
    run [.call (.init true), .thread, .thread] s = .error .outOfBounds := by
  have past : readAt s.callbacks count = .error .outOfBounds := by
    obtain ⟨items, same, rfl⟩ := Option.map_eq_some'.mp sized
    simp [readAt, same, List.getElem?_eq_none (Nat.le_refl _)]
  have lines : (sys .chipNumLines (sys .chipOpenByName s.platform).2).1.value.toNat ≠ 0 := by omega
  simp only [run, GpioStep.exec, idle, Option.isSome_none, Bool.false_eq_true, if_false, GpioCall.start,
    dispatching, IntrThread.alive, if_true, initStart, openChip, GpioState.sys, opened, Bool.not_true,
    Bool.not_false, lines, ok_bind, pure_bind, intrThreadStep, intrThreadAction, more, past]
  rfl

/-- The state of the scenario once the thread has invoked the callback and
moved past the chip's one line. -/
def raceDispatched : GpioState :=
  match run [.thread, .thread] raceReading with
  | .ok s => s
  | .error _ => raceReading

theorem reinit_after_dispatch :
    run [.thread, .thread] raceReading = .ok raceDispatched ∧
      run [.call (.init true), .thread, .thread] raceDispatched = .error .outOfBounds :=
  ⟨rfl, reinit_reads_past_end rfl rfl rfl rfl (by decide)⟩

end LoraFwd.Gpio
