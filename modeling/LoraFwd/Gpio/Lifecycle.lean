import LoraFwd.Gpio.Run

/-!
# The life of the GPIO API

What `GpioInv` gives about whole runs, whatever the platform answers: which
calls can fault and when, that the debounce check is dead code, that the
interrupt thread never comes back once it has returned, and what `gpio_init`
and `gpio_cleanup` leave.

The scenarios after the theorems are the board's: a chip of two lines, a
callback stored for line 0 before the line has a handle.  The thread then finds
no line to poll and returns after its scan, and the edge interrupts requested
on the line afterwards never reach the callback.
-/

namespace LoraFwd.Gpio

/-- A chip of two lines that opens, and a thread that starts. -/
def benchPlatform : Platform :=
  ⟨[{ SysReply.failed with ok := true }, { SysReply.failed with value := 2 },
    { SysReply.failed with value := 0 }], [], []⟩

/-- `gpio_init`, a callback for line 0, and the thread's steps up to its
return: the `malloc`, the scan of the two lines, and the test of its loop. -/
def benchSteps : List GpioStep :=
  [.call (.init true), .call (.setCallback 0 (some 7))] ++ List.replicate 8 .thread

/-- The state after `benchSteps`. -/
def benchReturned : GpioState :=
  match run benchSteps (GpioState.init benchPlatform) with
  | .ok s => s
  | .error _ => GpioState.init benchPlatform

theorem benchReturned_reachable : Reachable benchReturned :=
  ⟨benchPlatform, benchSteps, rfl, rfl⟩

/-- Edge interrupts requested on line 0, its callback stored again, and the
thread given two more steps. -/
def benchLater : List GpioStep :=
  [.call (.setIntrType 0 gpioIntrPosedge), .call (.setCallback 0 (some 7)), .thread, .thread]

/-! ## Faults -/

/-- On any allocator, a reachable state faults on no call but
`gpio_set_debounce` and `gpio_set_callback`: the others either go through
`get_line`, which refuses a closed chip, or do not index a table. -/
theorem reachable_call_never_faults {s : GpioState} (reach : Reachable s) (call : GpioCall)
    (sized : call.sized = true) (checked : call.checksOnlyMaxLines = false) :
    ∃ r, call.exec s = .ok r :=
  call.exec_ok_of_inv reach.tablesInv sized checked

theorem bench_bulk_get_levels_never_faults :
    ∃ r, (GpioCall.bulkGetLevels [0, 1] 2 [0, 0]).exec benchReturned = .ok r :=
  reachable_call_never_faults benchReturned_reachable _ rfl rfl

theorem allocTables_unknown {s : GpioState} (failed : (allocTables s).1 = gpioErrorUnknown)
    (noTables : s.callbacks = none ∧ s.debounceInfo = none) :
    (allocTables s).2.maxLines = s.maxLines ∧ (allocTables s).2.callbacks = none ∧
      (allocTables s).2.debounceInfo = none := by
  obtain ⟨_, done | ⟨_, _, callbacks, debounceInfo, closed⟩⟩ := allocTables_cases s
  · rw [done] at failed
    exact absurd failed (by decide : gpioSuccess ≠ gpioErrorUnknown)
  · rw [closed]
    exact ⟨rfl, callbacks.elim id (·.trans noTables.1), debounceInfo.elim id (·.trans noTables.2)⟩

theorem gpioInit_unknown {chipname : Bool} {s : GpioState}
    (noTables : s.callbacks = none ∧ s.debounceInfo = none)
    (failed : (gpioInit chipname s).1 = gpioErrorUnknown) :
    0 < (gpioInit chipname s).2.maxLines ∧ (gpioInit chipname s).2.callbacks = none ∧
      (gpioInit chipname s).2.debounceInfo = none := by
  obtain same | ⟨_, -, ⟨_, _, known, -, closed⟩ | ⟨_, positive, opened⟩⟩ := gpioInit_cases chipname s
  · rw [same] at failed
    exact absurd failed (by decide : gpioErrorInvalidArg ≠ gpioErrorUnknown)
  · rw [closed] at failed
    exact absurd failed known
  · rw [opened] at failed ⊢
    obtain ⟨same, callbacks, debounceInfo⟩ := allocTables_unknown failed noTables
    exact ⟨same ▸ positive, callbacks, debounceInfo⟩

/-- When a table allocation of `gpio_init` fails, from a state without tables
such as the initial one, `max_lines` keeps the chip's line count while the
tables are `NULL`: `gpio_set_debounce` and `gpio_set_callback`, which check
only `max_lines`, then dereference `NULL` on every line. -/
theorem alloc_failure_null_deref {chipname : Bool} {s s' : GpioState}
    (noTables : s.callbacks = none ∧ s.debounceInfo = none)
    (h : gpioInit chipname s = (gpioErrorUnknown, s')) :
    0 < s'.maxLines ∧ ∀ lineNum < s'.maxLines,
      (∀ debounceMs, gpioSetDebounce lineNum debounceMs s' = .error .nullDeref) ∧
      ∀ callback, gpioSetCallback lineNum callback s' = .error .nullDeref := by
  have failed := gpioInit_unknown noTables (congrArg Prod.fst h)
  rw [h] at failed
  obtain ⟨positive, callbacks, debounceInfo⟩ := failed
  refine ⟨positive, fun lineNum inRange => ⟨fun debounceMs => ?_, fun callback => ?_⟩⟩
  · unfold gpioSetDebounce
    rw [if_neg (Nat.not_le.mpr inRange), debounceInfo]
    rfl
  · unfold gpioSetCallback
    rw [if_neg (Nat.not_le.mpr inRange), callbacks]
    rfl

/-- A chip of two lines whose first table allocation fails. -/
def allocFailurePlatform : Platform :=
  ⟨[{ SysReply.failed with ok := true }, { SysReply.failed with value := 2 }], [false], []⟩

theorem alloc_failure_then_set_debounce :
    0 < (gpioInit true (GpioState.init allocFailurePlatform)).2.maxLines ∧
      ∀ lineNum < (gpioInit true (GpioState.init allocFailurePlatform)).2.maxLines,
        (∀ debounceMs, gpioSetDebounce lineNum debounceMs
          (gpioInit true (GpioState.init allocFailurePlatform)).2 = .error .nullDeref) ∧
        ∀ callback, gpioSetCallback lineNum callback
          (gpioInit true (GpioState.init allocFailurePlatform)).2 = .error .nullDeref :=
  @alloc_failure_null_deref true (GpioState.init allocFailurePlatform) _ ⟨rfl, rfl⟩ rfl

/-! ## The debounce check -/

/-- `gpio_wait_for_interrupt` without its debounce check: every event is
reported. -/
def gpioWaitForInterruptUnfiltered (lineNum : Nat) (timeoutMs : Int) :
    GpioState → Except GpioFault ((Nat × Option Bool) × GpioState) :=
  withLine lineNum false (gpioErrorInvalidArg, none) (pollLine lineNum timeoutMs fun s => .ok (true, s))

/-- No debounce record ever has a time, so in every reachable state
`gpio_wait_for_interrupt` is the function without its debounce check: it reads
no clock and reports every event, whatever `gpio_set_debounce` was given. -/
theorem gpioWaitForInterrupt_eq_unfiltered {s : GpioState} (reach : Reachable s) (lineNum : Nat)
    (timeoutMs : Int) :
    gpioWaitForInterrupt lineNum timeoutMs s = gpioWaitForInterruptUnfiltered lineNum timeoutMs s := by
  have tables := reach.tablesInv
  have cleared := reach.inv.debounceCleared
  refine withLine_congr fun s₁ step₁ chip inRange => pollLine_congr fun s₂ step₂ => ?_
  have step := step₁.trans step₂
  have tables₂ := step.tables (tables.chipTables chip)
  obtain ⟨_, _, rfl, _⟩ := step
  exact debounceEvent_of_cleared tables₂ cleared inRange

theorem bench_wait_for_interrupt_unfiltered :
    gpioWaitForInterrupt 0 100 benchReturned = gpioWaitForInterruptUnfiltered 0 100 benchReturned :=
  gpioWaitForInterrupt_eq_unfiltered benchReturned_reachable 0 100

/-! ## The interrupt thread -/

/-- A step other than `gpio_cleanup` keeps a returned thread returned, the
flag set, the callbacks invoked as they were, and no call under way. -/
theorem returned_step {step : GpioStep} {s s' : GpioState} {invoked : List (Nat × Nat)}
    (notCleanup : step ≠ .call .cleanup)
    (held : s.thread = .exited ∧ s.intrThreadRunning = true ∧ s.invoked = invoked ∧ s.pending = none)
    (h : step.exec s = .ok s') :
    s'.thread = .exited ∧ s'.intrThreadRunning = true ∧ s'.invoked = invoked ∧ s'.pending = none := by
  obtain ⟨returned, running, same, idle⟩ := held
  cases GpioStep.exec_effect h with
  | stutter => exact ⟨returned, running, same, idle⟩
  | call _ effect =>
    cases effect with
    | lines step =>
      obtain ⟨lines, platform, rfl, -⟩ := step
      exact ⟨returned, running, same, idle⟩
    | debounce _ => exact ⟨returned, running, same, idle⟩
    | callback _ => exact ⟨returned, running, same, idle⟩
    | startThread _ =>
      rcases startIntrThread_eq _ with unchanged | ⟨stopped, -⟩
      · rw [unchanged]
        exact ⟨returned, running, same, idle⟩
      · cases running.symm.trans stopped
    | init chipname _ =>
      obtain ⟨flag, thread, pending, calls⟩ := gpioInit_frame chipname s
      exact ⟨thread.trans returned, flag.trans running, calls.trans same, pending.trans idle⟩
    | initStart _ alive =>
      rw [returned] at alive
      cases alive
    | awaitJoin _ => exact absurd rfl notCleanup
    | cleanup _ => exact absurd rfl notCleanup
  | init pending => cases idle.symm.trans pending
  | join pending _ _ => cases idle.symm.trans pending
  | thread stepped =>
    rw [intrThreadStep_not_alive (by rw [returned]; rfl), Except.ok.injEq] at stepped
    subst stepped
    exact ⟨returned, running, same, idle⟩

/-- Once the interrupt thread has returned, `intr_thread_running` stays set, so
`gpio_set_callback` starts no thread and no callback is invoked again, whatever
the calls, until `gpio_cleanup`. -/
theorem returned_thread_stays_returned {s s' : GpioState} (reach : Reachable s)
    (returned : s.thread = .exited) {steps : List GpioStep}
    (noCleanup : ∀ step ∈ steps, step ≠ .call .cleanup) (h : run steps s = .ok s') :
    s'.thread = .exited ∧ s'.intrThreadRunning = true ∧ s'.invoked = s.invoked := by
  have running : s.intrThreadRunning = true := by
    cases running : s.intrThreadRunning
    · cases returned.symm.trans (reach.inv.idle (by rw [reach.idle]; exact Option.noConfusion) running)
    · rfl
  obtain ⟨returned', running', same, -⟩ := run_preserves
    (fun s₁ => s₁.thread = .exited ∧ s₁.intrThreadRunning = true ∧ s₁.invoked = s.invoked ∧
      s₁.pending = none)
    (· ≠ .call .cleanup) (fun notCleanup held stepped => returned_step notCleanup held stepped)
    noCleanup ⟨returned, running, rfl, reach.idle⟩ h
  exact ⟨returned', running', same⟩

theorem bench_callback_never_invoked :
    ∃ s', run benchLater benchReturned = .ok s' ∧
      s'.thread = .exited ∧ s'.intrThreadRunning = true ∧ s'.invoked = benchReturned.invoked :=
  ⟨_, rfl, @returned_thread_stays_returned benchReturned _ benchReturned_reachable rfl benchLater
    (by decide) rfl⟩

/-! ## Before `gpio_init` and after `gpio_cleanup` -/

/-- `gpio_cleanup` succeeds in every reachable state and gives every static
variable its initial value back, with no thread. -/
theorem gpioCleanup_restores {s : GpioState} (reach : Reachable s) :
    ∃ s', gpioCleanup s = .ok s' ∧ s' = { GpioState.init s'.platform with invoked := s.invoked } ∧
      s'.platform.allocs = s.platform.allocs := by
  have joined : (if s.intrThreadRunning then IntrThread.idle else s.thread) = .idle := by
    cases running : s.intrThreadRunning
    · exact reach.inv.idle (by rw [reach.idle]; exact Option.noConfusion) running
    · rfl
  obtain ⟨s', cleaned⟩ := gpioCleanup_ok reach.tablesInv.linesCover
  obtain ⟨platform, allocs, rfl⟩ := gpioCleanup_eq cleaned
  refine ⟨_, cleaned, ?_, allocs⟩
  rw [joined]
  obtain ⟨chip, lines, maxLines, callbacks, running, debounceInfo, thread, pending, invoked, platform₀⟩ := s
  cases reach.idle
  rfl

theorem bench_cleanup_restores :
    ∃ s', gpioCleanup benchReturned = .ok s' ∧
      s' = { GpioState.init s'.platform with invoked := benchReturned.invoked } ∧
      s'.platform.allocs = benchReturned.platform.allocs :=
  gpioCleanup_restores benchReturned_reachable

/-- A bulk loop whose every operation refuses with one code and changes
nothing returns that code. -/
theorem bulkLoop_refused {σ : Type} {op : Nat → σ → Except GpioFault (Nat × σ)} {st : σ}
    {code : Nat} (failed : code ≠ gpioSuccess) :
    ∀ {indices : List Nat} (ret : Nat), (∀ i ∈ indices, op i st = .ok (code, st)) →
      bulkLoop op indices ret st = .ok (if indices = [] then ret else code, st)
  | [], _, _ => rfl
  | i :: rest, _, refused => by
    simp only [bulkLoop, refused i (List.mem_cons_self _ _), ok_bind, if_pos failed]
    rw [bulkLoop_refused failed code fun j member => refused j (List.mem_cons_of_mem _ member)]
    simp

theorem bulkLoop_range_refused {σ : Type} {op : Nat → σ → Except GpioFault (Nat × σ)} {st : σ}
    {count : Nat} (positive : count ≠ 0)
    (refused : ∀ i < count, op i st = .ok (gpioErrorInvalidArg, st)) :
    bulkLoop op (List.range count) gpioSuccess st = .ok (gpioErrorInvalidArg, st) := by
  rw [bulkLoop_refused (by decide) _ fun i member => refused i (List.mem_range.mp member),
    if_neg (by simpa using positive)]

theorem withLine_initial {α : Type} (lineNum : Nat) (rejected : Bool) (refusal : α)
    (body : GpioState → Except GpioFault (α × GpioState)) (platform : Platform) :
    withLine lineNum rejected refusal body (GpioState.init platform) =
      .ok (refusal, GpioState.init platform) :=
  withLine_beyond (Nat.zero_le lineNum)

theorem GpioCall.exec_initial (platform : Platform) (call : GpioCall)
    (notInit : ∀ chipname, call ≠ .init chipname) (sized : call.sized = true) :
    call.exec (GpioState.init platform) =
      .ok (if call = .cleanup then none else some gpioErrorInvalidArg, GpioState.init platform) := by
  have beyond (lineNum : Nat) : (lineNum ≥ (GpioState.init platform).maxLines) = True :=
    eq_true (Nat.zero_le lineNum)
  have read {α : Type} {items : List α} {count i : Nat} (fits : count ≤ items.length)
      (inRange : i < count) : ∃ item, readAt (some items) i = .ok item :=
    readAt_some_ok (Nat.lt_of_lt_of_le inRange fits)
  cases call with
  | init chipname => exact absurd rfl (notInit chipname)
  | cleanup => rfl
  | setDirection lineNum direction =>
    simp only [GpioCall.exec, gpioSetDirection, requestLine, withLine_initial, ok_bind]
    rfl
  | getDirection lineNum =>
    simp only [GpioCall.exec, gpioGetDirection, withLine_initial, ok_bind]
    rfl
  | setLevel lineNum level =>
    simp only [GpioCall.exec, gpioSetLevel, withLine_initial, ok_bind]
    rfl
  | getLevel lineNum =>
    simp only [GpioCall.exec, gpioGetLevel, withLine_initial, ok_bind]
    rfl
  | setPull lineNum pull =>
    simp only [GpioCall.exec, gpioSetPull, beyond, if_true]
    rfl
  | setDebounce lineNum debounceMs =>
    simp only [GpioCall.exec, gpioSetDebounce, beyond, if_true, ok_bind]
    rfl
  | setIntrType lineNum intrType =>
    simp only [GpioCall.exec, gpioSetIntrType, requestLine, withLine_initial, ok_bind]
    rfl
  | waitForInterrupt lineNum timeoutMs =>
    simp only [GpioCall.exec, gpioWaitForInterrupt, withLine_initial, ok_bind]
    rfl
  | setCallback lineNum callback =>
    simp only [GpioCall.exec, gpioSetCallback, beyond, if_true, ok_bind]
    rfl
  | bulkSetDirections lineNums count direction =>
    have fits : count ≤ lineNums.length := of_decide_eq_true sized
    simp only [GpioCall.exec, gpioBulkSetDirections]
    split
    · rfl
    rw [bulkLoop_range_refused ‹_› fun i inRange => ?_]
    · rfl
    obtain ⟨lineNum, got⟩ := read fits inRange
    rw [got, ok_bind, gpioSetDirection, requestLine, withLine_initial]
  | bulkSetLevels lineNums count levels =>
    simp only [GpioCall.sized, Bool.and_eq_true, decide_eq_true_eq] at sized
    simp only [GpioCall.exec, gpioBulkSetLevels]
    split
    · rfl
    rw [bulkLoop_range_refused ‹_› fun i inRange => ?_]
    · rfl
    obtain ⟨lineNum, gotLine⟩ := read sized.1 inRange
    obtain ⟨level, gotLevel⟩ := read sized.2 inRange
    rw [gotLine, ok_bind, gotLevel, ok_bind, gpioSetLevel, withLine_initial]
  | bulkGetLevels lineNums count levels =>
    simp only [GpioCall.sized, Bool.and_eq_true, decide_eq_true_eq] at sized
    simp only [GpioCall.exec, gpioBulkGetLevels]
    split
    · rfl
    rw [bulkLoop_range_refused ‹_› fun i inRange => ?_]
    · rfl
    obtain ⟨lineNum, got⟩ := read sized.1 inRange
    simp only [got, ok_bind, gpioGetLevel, withLine_initial]
    rfl

theorem GpioStep.exec_initial (platform : Platform) (step : GpioStep)
    (notInit : ∀ chipname, step ≠ .call (.init chipname)) (sized : step.sized = true) :
    step.exec (GpioState.init platform) = .ok (GpioState.init platform) := by
  cases step with
  | call apiCall =>
    have refused := apiCall.exec_initial platform
      (fun chipname same => notInit chipname (congrArg GpioStep.call same)) sized
    show apiCall.start _ = _
    cases apiCall
    case init chipname => exact absurd rfl (notInit chipname)
    case cleanup => rfl
    all_goals
      simp only [GpioCall.start, refused, ok_bind]
      rfl
  | resume => rfl
  | thread => rfl

theorem run_initial (platform : Platform) : ∀ {steps : List GpioStep},
    (∀ step ∈ steps, ∀ chipname, step ≠ .call (.init chipname)) →
      (∀ step ∈ steps, step.sized = true) →
        run steps (GpioState.init platform) = .ok (GpioState.init platform)
  | [], _, _ => rfl
  | step :: rest, notInit, sized => by
    simp only [run, step.exec_initial platform (notInit step (List.mem_cons_self _ _))
      (sized step (List.mem_cons_self _ _)), ok_bind]
    exact run_initial platform (fun other member => notInit other (List.mem_cons_of_mem _ member))
      fun other member => sized other (List.mem_cons_of_mem _ member)

/-- Before `gpio_init`, `max_lines` is 0: every call but `gpio_cleanup` answers
`GPIO_ERROR_INVALID_ARG`, and neither the calls nor the thread, which no call
can start, change anything or reach the platform. -/
theorem api_refuses_before_init (platform : Platform) :
    (∀ call : GpioCall, (∀ chipname, call ≠ .init chipname) → call.sized = true →
      call.exec (GpioState.init platform) =
        .ok (if call = .cleanup then none else some gpioErrorInvalidArg, GpioState.init platform)) ∧
    ∀ steps : List GpioStep, (∀ step ∈ steps, ∀ chipname, step ≠ .call (.init chipname)) →
      (∀ step ∈ steps, step.sized = true) →
        run steps (GpioState.init platform) = .ok (GpioState.init platform) :=
  ⟨fun call notInit sized => call.exec_initial platform notInit sized,
    fun _ notInit sized => run_initial platform notInit sized⟩

end LoraFwd.Gpio
