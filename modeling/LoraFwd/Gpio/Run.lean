import LoraFwd.Gpio.Thread

/-!
# Runs of the GPIO API

A run is a sequence of steps from the initial values of the static variables,
on any platform: calls of the API, with any arguments and in any order, from
one caller; the taking up again of a call under way; and steps of the
interrupt thread, anywhere between.  A call is one step with respect to the
thread except where the thread can see it half done: `gpio_init` writes
`max_lines` before it allocates the tables, and `gpio_cleanup` clears
`intr_thread_running` and then waits for the thread in `pthread_join`.  While
the thread runs, these two stop at each such point (`Pending`), and the caller
makes no other call until they return.  Every other call writes at most one
value the thread reads, a callback or a handle where there was `NULL`, except
the bulk calls, which store a handle for each of their lines as the calls they
repeat do; a thread step that falls inside a bulk call can find some of these
handles and not others, which the model, where the bulk call is one step, does
not show, and which no result below depends on, since a handle once stored
stays until `gpio_cleanup`.

Whatever the platform answers, every state of a run satisfies `GpioInv`:
outside `gpio_init`, an open chip has its three tables, one entry per line, and
a line table covers `max_lines`; no debounce record has a time; `gpio_init` has
allocated what comes before the point where it waits; and there is a thread
only while `intr_thread_running` is set or `gpio_cleanup` waits for it.  On an
allocator that never fails, in a run that keeps the two rules of
`GpioStep.disciplined` (no `gpio_init` while the thread runs, no callback
cleared for the line it is dispatching), the tables also cover `max_lines`
whenever it is positive and the thread finds what it relies on (`SafeInv`), so
no step faults (`disciplinedRun_ok`).
-/

namespace LoraFwd.Gpio

/-- A call of the API with its arguments.  The pointers for results are not
arguments: what the function writes through them is returned. -/
inductive GpioCall
  | init (chipname : Bool)
  | cleanup
  | setDirection (lineNum direction : Nat)
  | getDirection (lineNum : Nat)
  | setLevel (lineNum : Nat) (level : Int)
  | getLevel (lineNum : Nat)
  | setPull (lineNum pull : Nat)
  | setDebounce (lineNum debounceMs : Nat)
  | setIntrType (lineNum intrType : Nat)
  | waitForInterrupt (lineNum : Nat) (timeoutMs : Int)
  | setCallback (lineNum : Nat) (callback : Option Nat)
  | bulkSetDirections (lineNums : List Nat) (count direction : Nat)
  | bulkSetLevels (lineNums : List Nat) (count : Nat) (levels : List Int)
  | bulkGetLevels (lineNums : List Nat) (count : Nat) (levels : List Int)
deriving DecidableEq, Repr

/-- The code a call returns, `none` for `gpio_cleanup`, and the state after
it. -/
def GpioCall.exec : GpioCall → GpioState → Except GpioFault (Option Nat × GpioState)
  | .init chipname, s => .ok (some (gpioInit chipname s).1, (gpioInit chipname s).2)
  | .cleanup, s => do
    let s ← gpioCleanup s
    return (none, s)
  | .setDirection lineNum direction, s => do
    let (code, s) ← gpioSetDirection lineNum direction s
    return (some code, s)
  | .getDirection lineNum, s => do
    let ((code, _), s) ← gpioGetDirection lineNum s
    return (some code, s)
  | .setLevel lineNum level, s => do
    let (code, s) ← gpioSetLevel lineNum level s
    return (some code, s)
  | .getLevel lineNum, s => do
    let ((code, _), s) ← gpioGetLevel lineNum s
    return (some code, s)
  | .setPull lineNum pull, s => .ok (some (gpioSetPull lineNum pull s), s)
  | .setDebounce lineNum debounceMs, s => do
    let (code, s) ← gpioSetDebounce lineNum debounceMs s
    return (some code, s)
  | .setIntrType lineNum intrType, s => do
    let (code, s) ← gpioSetIntrType lineNum intrType s
    return (some code, s)
  | .waitForInterrupt lineNum timeoutMs, s => do
    let ((code, _), s) ← gpioWaitForInterrupt lineNum timeoutMs s
    return (some code, s)
  | .setCallback lineNum callback, s => do
    let (code, s) ← gpioSetCallback lineNum callback s
    return (some code, s)
  | .bulkSetDirections lineNums count direction, s => do
    let (code, s) ← gpioBulkSetDirections lineNums count direction s
    return (some code, s)
  | .bulkSetLevels lineNums count levels, s => do
    let (code, s) ← gpioBulkSetLevels lineNums count levels s
    return (some code, s)
  | .bulkGetLevels lineNums count levels, s => do
    let (code, _, s) ← gpioBulkGetLevels lineNums count levels s
    return (some code, s)

/-- The arrays a bulk call passes hold `count` entries. -/
def GpioCall.sized : GpioCall → Bool
  | .bulkSetDirections lineNums count _ => count ≤ lineNums.length
  | .bulkSetLevels lineNums count levels => count ≤ lineNums.length && count ≤ levels.length
  | .bulkGetLevels lineNums count levels => count ≤ lineNums.length && count ≤ levels.length
  | _ => true

/-- The calls that index a table after checking only `max_lines`, without
`get_line` and its test of the chip. -/
def GpioCall.checksOnlyMaxLines : GpioCall → Bool
  | .setDebounce _ _ | .setCallback _ _ => true
  | _ => false

/-- A call made when none is under way.  While the thread runs, `gpio_init`
stops at its first point and `gpio_cleanup` at its join; every other call is
one step, its code dropped. -/
def GpioCall.start (call : GpioCall) (s : GpioState) : Except GpioFault GpioState :=
  match call with
  | .init chipname => .ok (if s.thread.alive then initStart chipname s else (gpioInit chipname s).2)
  | .cleanup => if s.thread.alive && s.intrThreadRunning then .ok (awaitJoin s) else gpioCleanup s
  | _ => do
    let (_, s) ← call.exec s
    return s

/-- The call under way, taken up again: `gpio_init` from its point, or
`gpio_cleanup` past `pthread_join`, which returns only once the thread has. -/
def Pending.resume (s : GpioState) : Pending → Except GpioFault GpioState
  | .init next => .ok (initResume s next)
  | .join =>
    if s.thread.alive then .ok s
    else cleanupFree { s.record .pthreadJoin with thread := .idle, pending := none }

/-- A step of a run: a call, the call under way taken up again, or a step of
the interrupt thread. -/
inductive GpioStep
  | call (call : GpioCall)
  | resume
  | thread
deriving DecidableEq, Repr

/-- A step.  The caller waits while a call is under way, so a call made then
changes nothing, and so does taking up a call when none is under way. -/
def GpioStep.exec : GpioStep → GpioState → Except GpioFault GpioState
  | .call apiCall, s => if s.pending.isSome then .ok s else apiCall.start s
  | .resume, s =>
    match s.pending with
    | none => .ok s
    | some pending => pending.resume s
  | .thread, s => intrThreadStep s

def GpioStep.sized : GpioStep → Bool
  | .call apiCall => apiCall.sized
  | _ => true

/-- Whether the caller makes the step, rather than the interrupt thread. -/
def GpioStep.byCaller : GpioStep → Bool
  | .thread => false
  | _ => true

/-- The steps in turn; a fault ends the run. -/
def run : List GpioStep → GpioState → Except GpioFault GpioState
  | [], s => .ok s
  | step :: rest, s => do
    let s ← step.exec s
    run rest s

/-- The states some run reaches from the initial values, on some platform,
with no call under way. -/
def Reachable (s : GpioState) : Prop :=
  ∃ (platform : Platform) (steps : List GpioStep),
    run steps (GpioState.init platform) = .ok s ∧ s.pending = none

section Runs

variable (P : GpioState → Prop) (allowed : GpioStep → Prop)

/-- A property that every allowed step keeps holds after every run of allowed
steps. -/
theorem run_preserves
    (keeps : ∀ {step s s'}, allowed step → P s → step.exec s = .ok s' → P s') :
    ∀ {steps : List GpioStep} {s s' : GpioState},
      (∀ step ∈ steps, allowed step) → P s → run steps s = .ok s' → P s'
  | [], _, _, _, holds, h => by
    cases h
    exact holds
  | step :: rest, _, _, allowedAll, holds, h => by
    obtain ⟨s₁, stepped, h⟩ := bind_eq_ok.mp h
    exact run_preserves keeps (fun other member => allowedAll other (List.mem_cons_of_mem _ member))
      (keeps (allowedAll step (List.mem_cons_self _ _)) holds stepped) h

end Runs

/-- A run of two parts is the first part, then the second from where it ends. -/
theorem run_append : ∀ (first second : List GpioStep) (s : GpioState),
    run (first ++ second) s = run first s >>= run second
  | [], _, _ => rfl
  | step :: rest, second, s => by
    simp only [List.cons_append, run]
    cases step.exec s with
    | error fault => rfl
    | ok s₁ => exact run_append rest second s₁

/-! ## What a step does -/

/-- What a call made when none is under way can do: a lines step, a debounce
record reset, a callback stored (and the thread started); `gpio_init` whole
while there is no thread, or to its first point while there is one;
`gpio_cleanup` to its join, or whole. -/
inductive StartEffect (s : GpioState) : GpioCall → GpioState → Prop
  | lines {call s'} : LinesStep s s' → StartEffect s call s'
  | debounce {debounceInfo} {lineNum debounceMs : Nat} :
      writeAt s.debounceInfo lineNum ⟨0, -1⟩ = .ok debounceInfo →
        StartEffect s (.setDebounce lineNum debounceMs) { s with debounceInfo }
  | callback {callbacks} {lineNum : Nat} {callback : Option Nat} :
      writeAt s.callbacks lineNum callback = .ok callbacks →
        StartEffect s (.setCallback lineNum callback) { s with callbacks }
  | startThread {callbacks} {lineNum : Nat} {callback : Option Nat} :
      writeAt s.callbacks lineNum callback = .ok callbacks →
        StartEffect s (.setCallback lineNum callback) (startIntrThread { s with callbacks }).2
  | init (chipname : Bool) : s.thread.alive = false →
      StartEffect s (.init chipname) (gpioInit chipname s).2
  | initStart (chipname : Bool) : s.thread.alive = true →
      StartEffect s (.init chipname) (initStart chipname s)
  | awaitJoin : s.intrThreadRunning = true → StartEffect s .cleanup (awaitJoin s)
  | cleanup {s'} : gpioCleanup s = .ok s' → StartEffect s .cleanup s'

theorem GpioCall.start_effect {call : GpioCall} {s s' : GpioState} (h : call.start s = .ok s') :
    StartEffect s call s' := by
  cases call
  case init chipname =>
    cases h
    cases alive : s.thread.alive
    · simp only [alive, Bool.false_eq_true, if_false]
      exact .init chipname alive
    · simp only [alive, if_true]
      exact .initStart chipname alive
  case cleanup =>
    simp only [GpioCall.start] at h
    split_ifs at h with waits
    · cases h
      exact .awaitJoin (Bool.and_eq_true_iff.mp waits).2
    · exact .cleanup h
  all_goals
    obtain ⟨⟨code, s₁⟩, done, h⟩ := bind_eq_ok.mp h
    cases h
  case setDirection =>
    obtain ⟨⟨_, s₁⟩, done, h⟩ := bind_eq_ok.mp done
    cases h
    exact .lines (gpioSetDirection_linesStep done)
  case getDirection =>
    obtain ⟨⟨⟨_, _⟩, s₁⟩, done, h⟩ := bind_eq_ok.mp done
    cases h
    exact .lines (gpioGetDirection_linesStep done)
  case setLevel =>
    obtain ⟨⟨_, s₁⟩, done, h⟩ := bind_eq_ok.mp done
    cases h
    exact .lines (gpioSetLevel_linesStep done)
  case getLevel =>
    obtain ⟨⟨⟨_, _⟩, s₁⟩, done, h⟩ := bind_eq_ok.mp done
    cases h
    exact .lines (gpioGetLevel_linesStep done)
  case setPull =>
    cases done
    exact .lines (.refl s)
  case setDebounce =>
    obtain ⟨⟨_, s₁⟩, done, h⟩ := bind_eq_ok.mp done
    cases h
    rcases gpioSetDebounce_eq done with rfl | ⟨debounceInfo, written, rfl⟩
    · exact .lines (.refl _)
    · exact .debounce written
  case setIntrType =>
    obtain ⟨⟨_, s₁⟩, done, h⟩ := bind_eq_ok.mp done
    cases h
    exact .lines (gpioSetIntrType_linesStep done)
  case waitForInterrupt =>
    obtain ⟨⟨⟨_, _⟩, s₁⟩, done, h⟩ := bind_eq_ok.mp done
    cases h
    exact .lines (gpioWaitForInterrupt_linesStep done)
  case setCallback =>
    obtain ⟨⟨_, s₁⟩, done, h⟩ := bind_eq_ok.mp done
    cases h
    rcases gpioSetCallback_eq done with rfl | ⟨callbacks, written, rfl | rfl⟩
    · exact .lines (.refl _)
    · exact .callback written
    · exact .startThread written
  case bulkSetDirections =>
    obtain ⟨⟨_, s₁⟩, done, h⟩ := bind_eq_ok.mp done
    cases h
    exact .lines (gpioBulkSetDirections_linesStep done)
  case bulkSetLevels =>
    obtain ⟨⟨_, s₁⟩, done, h⟩ := bind_eq_ok.mp done
    cases h
    exact .lines (gpioBulkSetLevels_linesStep done)
  case bulkGetLevels =>
    obtain ⟨⟨_, _, s₁⟩, done, h⟩ := bind_eq_ok.mp done
    cases h
    exact .lines (gpioBulkGetLevels_linesStep done)

/-- What a step can do: nothing; a call made when none is under way; the next
part of `gpio_init`; the end of `gpio_cleanup` once the thread has returned; or
a step of the thread. -/
inductive StepEffect (s : GpioState) : GpioStep → GpioState → Prop
  | stutter {step} : StepEffect s step s
  | call {call s'} : s.pending = none → StartEffect s call s' → StepEffect s (.call call) s'
  | init {next} : s.pending = some (.init next) → StepEffect s .resume (initResume s next)
  | join {s'} : s.pending = some .join → s.thread.alive = false →
      cleanupFree { s.record .pthreadJoin with thread := .idle, pending := none } = .ok s' →
        StepEffect s .resume s'
  | thread {s'} : intrThreadStep s = .ok s' → StepEffect s .thread s'

theorem GpioStep.exec_effect {step : GpioStep} {s s' : GpioState} (h : step.exec s = .ok s') :
    StepEffect s step s' := by
  cases step with
  | call apiCall =>
    simp only [GpioStep.exec] at h
    split_ifs at h with busy
    · cases h
      exact .stutter
    · exact .call (Option.not_isSome_iff_eq_none.mp busy) (GpioCall.start_effect h)
  | resume =>
    simp only [GpioStep.exec] at h
    split at h
    · cases h
      exact .stutter
    · rename_i pending same
      cases pending with
      | init next =>
        cases h
        exact .init same
      | join =>
        simp only [Pending.resume] at h
        split_ifs at h with alive
        · cases h
          exact .stutter
        · exact .join same (Bool.eq_false_iff.mpr alive) h
  | thread => exact .thread h

/-! ## The invariant of every state of a run -/

/-- What the calls that index the tables rely on: an open chip has its three
tables, one entry per line, and a line table covers `max_lines`. -/
structure TablesInv (s : GpioState) : Prop where
  chipTables : s.chip = true → Tables s
  linesCover : ∀ lines, s.lines = some lines → s.maxLines ≤ lines.length

theorem TablesInv.linesStep {s s' : GpioState} (inv : TablesInv s) (step : LinesStep s s') :
    TablesInv s' := by
  have chipTables := step.chipTables inv.chipTables
  obtain ⟨lines, platform, rfl, sized, -⟩ := step
  refine ⟨chipTables, fun current same => ?_⟩
  have held : lines = some current := same
  rw [held, Option.map_some'] at sized
  obtain ⟨old, oldSame, lengths⟩ := Option.map_eq_some'.mp sized.symm
  exact lengths ▸ inv.linesCover old oldSame

/-- What `gpio_init` has allocated at the point where it waits. -/
def InitProgress (s : GpioState) : Prop :=
  match s.pending with
  | some (.init .callbacks) => s.lines = some (List.replicate s.maxLines false)
  | some (.init .debounce) =>
    s.lines = some (List.replicate s.maxLines false) ∧
      s.callbacks = some (List.replicate s.maxLines none)
  | _ => True

/-- What every state of a run satisfies, whatever the platform answers. -/
structure GpioInv (s : GpioState) : Prop where
  tables : s.initializing = false → TablesInv s
  debounceCleared : DebounceCleared s
  initProgress : InitProgress s
  threadIdle : s.intrThreadRunning = false → s.pending = some .join ∨ s.thread = .idle

theorem GpioInv.initial (platform : Platform) : GpioInv (GpioState.init platform) :=
  ⟨fun _ => ⟨nofun, nofun⟩, nofun, trivial, fun _ => .inr rfl⟩

/-- Where no call is under way, the invariant is that of the tables, the
debounce records and the thread. -/
theorem GpioInv.of_idle {s : GpioState} (idle : s.pending = none) (tables : TablesInv s)
    (cleared : DebounceCleared s) (threadIdle : s.intrThreadRunning = false → s.thread = .idle) :
    GpioInv s :=
  ⟨fun _ => tables, cleared, by unfold InitProgress; rw [idle]; trivial,
    fun stopped => .inr (threadIdle stopped)⟩

theorem GpioInv.tablesInv {s : GpioState} (inv : GpioInv s) (idle : s.pending = none) :
    TablesInv s :=
  inv.tables (by rw [GpioState.initializing, idle])

theorem GpioInv.idle {s : GpioState} (inv : GpioInv s) (notJoin : s.pending ≠ some .join) :
    s.intrThreadRunning = false → s.thread = .idle :=
  fun stopped => (inv.threadIdle stopped).resolve_left notJoin

theorem GpioInv.startThread {s : GpioState} (tables : TablesInv s) (cleared : DebounceCleared s)
    (idle : s.pending = none) (threadIdle : s.intrThreadRunning = false → s.thread = .idle) :
    GpioInv (startIntrThread s).2 := by
  rcases startIntrThread_eq s with same | ⟨-, platform, -, started | failed⟩
  · rw [same]
    exact .of_idle idle tables cleared threadIdle
  · rw [started]
    exact .of_idle idle ⟨tables.chipTables, tables.linesCover⟩ cleared nofun
  · rw [failed]
    exact .of_idle idle ⟨tables.chipTables, tables.linesCover⟩ cleared threadIdle

/-- A closed chip with `max_lines` as it was or 0, as `gpio_init` leaves it when
it returns early. -/
theorem TablesInv.closeChip {s : GpioState} (tables : TablesInv s) {maxLines : Nat}
    (kept : maxLines = s.maxLines ∨ maxLines = 0) (platform : Platform) :
    TablesInv { s with chip := false, maxLines, platform } := by
  refine ⟨nofun, fun lines same => ?_⟩
  rcases kept with rfl | rfl
  · exact tables.linesCover lines same
  · exact Nat.zero_le _

/-- A lines step made when no call is under way keeps the invariant. -/
theorem GpioInv.linesStep {s s' : GpioState} (inv : GpioInv s) (idle : s.pending = none)
    (step : LinesStep s s') : GpioInv s' := by
  have tables := (inv.tablesInv idle).linesStep step
  have threadIdle := inv.idle (by rw [idle]; exact Option.noConfusion)
  obtain ⟨lines, platform, rfl, -⟩ := step
  exact .of_idle idle tables inv.debounceCleared threadIdle

theorem GpioInv.startEffect {call : GpioCall} {s s' : GpioState} (inv : GpioInv s)
    (idle : s.pending = none) (effect : StartEffect s call s') : GpioInv s' := by
  have tables := inv.tablesInv idle
  have threadIdle := inv.idle (by rw [idle]; exact Option.noConfusion)
  cases effect with
  | lines step => exact inv.linesStep idle step
  | debounce written =>
    refine .of_idle idle ⟨fun chip => ?_, tables.linesCover⟩
      (writeAt_forall written rfl inv.debounceCleared) threadIdle
    exact ⟨(tables.chipTables chip).1, (tables.chipTables chip).2.1,
      (writeAt_length written).trans (tables.chipTables chip).2.2⟩
  | callback written =>
    refine .of_idle idle ⟨fun chip => ?_, tables.linesCover⟩ inv.debounceCleared threadIdle
    exact ⟨(tables.chipTables chip).1, (writeAt_length written).trans (tables.chipTables chip).2.1,
      (tables.chipTables chip).2.2⟩
  | startThread written =>
    refine .startThread ⟨fun chip => ?_, tables.linesCover⟩ inv.debounceCleared idle threadIdle
    exact ⟨(tables.chipTables chip).1, (writeAt_length written).trans (tables.chipTables chip).2.1,
      (tables.chipTables chip).2.2⟩
  | init chipname _ =>
    obtain ⟨running, thread, pending, -⟩ := gpioInit_frame chipname s
    refine .of_idle (pending.trans idle) ⟨gpioInit_chipTables chipname tables.chipTables,
      gpioInit_linesCover chipname tables.linesCover⟩ (gpioInit_debounceCleared chipname inv.debounceCleared)
      fun stopped => thread.trans (threadIdle (running.symm.trans stopped))
  | initStart chipname alive =>
    unfold initStart
    rcases openChip_cases chipname s with
      refused | ⟨platform, -, ⟨code, maxLines, -, kept, closed⟩ | ⟨maxLines, -, opened⟩⟩
    · rw [refused]
      exact inv
    · rw [closed]
      exact .of_idle idle (tables.closeChip kept platform) inv.debounceCleared threadIdle
    · rw [opened]
      exact ⟨nofun, inv.debounceCleared, trivial, fun stopped => .inr (threadIdle stopped)⟩
  | awaitJoin _ =>
    exact ⟨fun _ => ⟨tables.chipTables, tables.linesCover⟩, inv.debounceCleared, trivial, fun _ => .inl rfl⟩
  | cleanup cleaned =>
    obtain ⟨platform, -, rfl⟩ := gpioCleanup_eq cleaned
    refine .of_idle idle ⟨nofun, nofun⟩ nofun fun _ => ?_
    cases running : s.intrThreadRunning
    · exact threadIdle running
    · rfl

/-- Each part of `gpio_init` keeps the invariant: the tables it has allocated
are those `InitProgress` names, and the state it returns in has them all, or
none and the chip closed. -/
theorem GpioInv.resumeInit {s : GpioState} {next : InitAt} (inv : GpioInv s)
    (pending : s.pending = some (.init next)) : GpioInv (initResume s next) := by
  have threadIdle := inv.idle (by rw [pending]; exact fun same => Pending.noConfusion (Option.some.inj same))
  have progress := inv.initProgress
  unfold InitProgress at progress
  rw [pending] at progress
  cases next <;> simp only [initResume, GpioState.alloc, GpioState.record] <;> try split_ifs
  · exact .of_idle rfl ⟨nofun, nofun⟩ inv.debounceCleared threadIdle
  · exact ⟨nofun, inv.debounceCleared, rfl, fun stopped => .inr (threadIdle stopped)⟩
  · exact ⟨nofun, inv.debounceCleared, trivial, fun stopped => .inr (threadIdle stopped)⟩
  · exact ⟨nofun, inv.debounceCleared, ⟨progress, rfl⟩, fun stopped => .inr (threadIdle stopped)⟩
  · exact ⟨nofun, nofun, trivial, fun stopped => .inr (threadIdle stopped)⟩
  · refine .of_idle rfl ⟨fun _ => ⟨?_, ?_, by simp⟩, fun lines same => ?_⟩ ?_ threadIdle
    · simp [progress.1]
    · simp [progress.2]
    · simp only [progress.1, Option.some.injEq] at same
      simp [← same]
    · rintro records ⟨⟩ record member
      rw [List.eq_of_mem_replicate member]
  · exact .of_idle rfl ⟨nofun, nofun⟩ inv.debounceCleared threadIdle

theorem GpioInv.join {s s' : GpioState}
    (h : cleanupFree { s.record .pthreadJoin with thread := .idle, pending := none } = .ok s') :
    GpioInv s' := by
  obtain ⟨platform, -, rfl⟩ := cleanupFree_eq h
  exact .of_idle rfl ⟨nofun, nofun⟩ nofun fun _ => rfl

theorem GpioInv.threadStep {s s' : GpioState} (inv : GpioInv s) (h : intrThreadStep s = .ok s') :
    GpioInv s' := by
  obtain ⟨thread, invoked, platform, -, rfl⟩ := intrThreadStep_eq h
  refine ⟨fun settled => ⟨(inv.tables settled).chipTables, (inv.tables settled).linesCover⟩,
    inv.debounceCleared, inv.initProgress, fun stopped => ?_⟩
  rcases inv.threadIdle stopped with joining | idle
  · exact .inl joining
  · have unchanged := intrThreadStep_not_alive (s := s) (by rw [idle]; rfl)
    rw [h, Except.ok.injEq] at unchanged
    exact .inr ((congrArg GpioState.thread unchanged).trans idle)

theorem GpioInv.exec {step : GpioStep} {s s' : GpioState} (inv : GpioInv s)
    (h : step.exec s = .ok s') : GpioInv s' := by
  cases GpioStep.exec_effect h with
  | stutter => exact inv
  | call idle effect => exact inv.startEffect idle effect
  | init pending => exact inv.resumeInit pending
  | join _ _ cleaned => exact .join cleaned
  | thread stepped => exact inv.threadStep stepped

theorem Reachable.inv {s : GpioState} (reach : Reachable s) : GpioInv s := by
  obtain ⟨platform, steps, h, -⟩ := reach
  exact run_preserves GpioInv (fun _ => True) (fun _ inv h => inv.exec h) (fun _ _ => trivial)
    (GpioInv.initial platform) h

theorem Reachable.idle {s : GpioState} (reach : Reachable s) : s.pending = none := by
  obtain ⟨-, -, -, idle⟩ := reach
  exact idle

theorem Reachable.tablesInv {s : GpioState} (reach : Reachable s) : TablesInv s :=
  reach.inv.tablesInv reach.idle

/-! ## Runs that keep to the rules of the thread -/

/-- The two rules a caller must keep while the interrupt thread runs: no
`gpio_init`, whose new `max_lines` the thread can read before the new tables,
and no callback cleared for the line the thread is dispatching, whose callback
it reads again to call it. -/
def GpioStep.disciplined (s : GpioState) : GpioStep → Bool
  | .call (.init _) => !s.thread.alive
  | .call (.setCallback lineNum none) => !s.thread.holds lineNum
  | _ => true

/-- A run in which every step keeps the rules in the state it is made in. -/
def disciplinedRun : List GpioStep → GpioState → Bool
  | [], _ => true
  | step :: rest, s =>
    step.disciplined s &&
      match step.exec s with
      | .ok s' => disciplinedRun rest s'
      | .error _ => true

/-- What every state of a disciplined run satisfies on an allocator that never
fails: the tables cover `max_lines` whenever it is positive, `gpio_init` is
never under way, and the thread finds what it relies on. -/
structure SafeInv (s : GpioState) : Prop where
  allocated : Allocated s
  reliable : s.platform.Reliable
  settled : s.initializing = false
  ready : ThreadReady s

theorem SafeInv.initial {platform : Platform} (reliable : platform.Reliable) :
    SafeInv (GpioState.init platform) :=
  ⟨nofun, reliable, rfl, trivial⟩

theorem ThreadReady.of_not_alive {s : GpioState} (dead : s.thread.alive = false) : ThreadReady s := by
  unfold ThreadReady
  cases thread : s.thread <;> first | trivial | (rw [thread] at dead; cases dead)

theorem KeepsThread.of_tables {s s' : GpioState} (thread : s'.thread = s.thread)
    (maxLines : s'.maxLines = s.maxLines) (lines : s'.lines = s.lines) (callbacks : s'.callbacks = s.callbacks) :
    KeepsThread s s' :=
  ⟨thread, maxLines, fun _ => by rw [lines]; exact id, fun _ _ => by rw [callbacks]; exact id⟩

theorem SafeInv.linesStep {s s' : GpioState} (safe : SafeInv s) (step : LinesStep s s') : SafeInv s' := by
  have ready := safe.ready.keeps step.keepsThread
  have allocated := step.allocated safe.allocated
  have reliable := step.reliable safe.reliable
  obtain ⟨lines, platform, rfl, -⟩ := step
  exact ⟨allocated, reliable, safe.settled, ready⟩

theorem SafeInv.startEffect {call : GpioCall} {s s' : GpioState} (safe : SafeInv s) (inv : GpioInv s)
    (idle : s.pending = none) (obeyed : (GpioStep.call call).disciplined s = true)
    (effect : StartEffect s call s') : SafeInv s' := by
  have threadIdle := inv.idle (by rw [idle]; exact Option.noConfusion)
  cases effect with
  | lines step => exact safe.linesStep step
  | @debounce debounceInfo lineNum debounceMs written =>
    refine ⟨fun positive => ?_, safe.reliable, safe.settled, safe.ready.keeps (.of_tables rfl rfl rfl rfl)⟩
    have tables := safe.allocated positive
    exact ⟨tables.1, tables.2.1, (writeAt_length written).trans tables.2.2⟩
  | @callback callbacks lineNum callback written =>
    have kept : callback = none → s.thread.holds lineNum = false := by
      rintro rfl
      simpa [GpioStep.disciplined] using obeyed
    refine ⟨fun positive => ?_, safe.reliable, safe.settled,
      safe.ready.keeps (keepsThread_callbacks written kept)⟩
    have tables := safe.allocated positive
    exact ⟨tables.1, (writeAt_length written).trans tables.2.1, tables.2.2⟩
  | @startThread callbacks lineNum callback written =>
    have kept : callback = none → s.thread.holds lineNum = false := by
      rintro rfl
      simpa [GpioStep.disciplined] using obeyed
    have allocated : Allocated { s with callbacks } := fun positive =>
      have tables := safe.allocated positive
      ⟨tables.1, (writeAt_length written).trans tables.2.1, tables.2.2⟩
    have ready := safe.ready.keeps (keepsThread_callbacks written kept)
    rcases startIntrThread_eq { s with callbacks } with same | ⟨stopped, platform, allocs, started | failed⟩
    · rw [same]
      exact ⟨allocated, safe.reliable, safe.settled, ready⟩
    · rw [started]
      exact ⟨allocated, safe.reliable.of_allocs allocs, safe.settled, trivial⟩
    · rw [failed]
      exact ⟨allocated, safe.reliable.of_allocs allocs, safe.settled, ready⟩
  | init chipname dead =>
    obtain ⟨allocated, reliable⟩ := gpioInit_allocated chipname safe.allocated safe.reliable
    obtain ⟨-, thread, pending, -⟩ := gpioInit_frame chipname s
    exact ⟨allocated, reliable, by rw [GpioState.initializing, pending, idle],
      .of_not_alive (by rw [thread, dead])⟩
  | initStart chipname alive => simp [GpioStep.disciplined, alive] at obeyed
  | awaitJoin _ => exact ⟨safe.allocated, safe.reliable, rfl, safe.ready.keeps (.of_tables rfl rfl rfl rfl)⟩
  | cleanup cleaned =>
    obtain ⟨platform, allocs, rfl⟩ := gpioCleanup_eq cleaned
    refine ⟨nofun, safe.reliable.of_allocs allocs, safe.settled, .of_not_alive ?_⟩
    cases running : s.intrThreadRunning
    · simp only [running, Bool.false_eq_true, if_false, threadIdle running]
      rfl
    · rfl

theorem SafeInv.exec {step : GpioStep} {s s' : GpioState} (safe : SafeInv s) (inv : GpioInv s)
    (obeyed : step.disciplined s = true) (h : step.exec s = .ok s') : SafeInv s' := by
  cases GpioStep.exec_effect h with
  | stutter => exact safe
  | call idle effect => exact safe.startEffect inv idle obeyed effect
  | init pending => cases safe.settled.symm.trans (by rw [GpioState.initializing, pending])
  | join _ _ cleaned =>
    obtain ⟨platform, allocs, rfl⟩ := cleanupFree_eq cleaned
    exact ⟨nofun, safe.reliable.of_allocs allocs, rfl, trivial⟩
  | thread stepped =>
    obtain ⟨s'', stepped', ready, reliable⟩ := intrThreadStep_ready safe.allocated safe.ready safe.reliable
    rw [stepped, Except.ok.injEq] at stepped'
    subst stepped'
    obtain ⟨thread, invoked, platform, -, rfl⟩ := intrThreadStep_eq stepped
    exact ⟨safe.allocated, reliable, safe.settled, ready⟩

/-! ## When a step cannot fault -/

/-- In a state of the invariant, a call that goes through `get_line`, and
`gpio_init`, `gpio_cleanup` and `gpio_set_pull`, cannot fault. -/
theorem GpioCall.exec_ok_of_inv (call : GpioCall) {s : GpioState} (inv : TablesInv s)
    (sized : call.sized = true) (checked : call.checksOnlyMaxLines = false) :
    ∃ r, call.exec s = .ok r := by
  have tables {lineNum : Nat} : s.chip = true → lineNum < s.maxLines → Tables s :=
    fun chip _ => inv.chipTables chip
  cases call with
  | init chipname => exact ⟨_, rfl⟩
  | cleanup => exact bind_ok_of_ok (gpioCleanup_ok inv.linesCover) fun _ => ⟨_, rfl⟩
  | setDirection lineNum direction =>
    exact bind_ok_of_ok (requestLine_ok lineNum _ tables) fun _ => ⟨_, rfl⟩
  | getDirection lineNum => exact bind_ok_of_ok (gpioGetDirection_ok lineNum tables) fun _ => ⟨_, rfl⟩
  | setLevel lineNum level => exact bind_ok_of_ok (gpioSetLevel_ok lineNum level tables) fun _ => ⟨_, rfl⟩
  | getLevel lineNum => exact bind_ok_of_ok (gpioGetLevel_ok lineNum tables) fun _ => ⟨_, rfl⟩
  | setPull lineNum pull => exact ⟨_, rfl⟩
  | setDebounce lineNum debounceMs => cases checked
  | setIntrType lineNum intrType =>
    exact bind_ok_of_ok (requestLine_ok lineNum _ tables) fun _ => ⟨_, rfl⟩
  | waitForInterrupt lineNum timeoutMs =>
    exact bind_ok_of_ok (gpioWaitForInterrupt_ok lineNum timeoutMs tables) fun _ => ⟨_, rfl⟩
  | setCallback lineNum callback => cases checked
  | bulkSetDirections lineNums count direction =>
    exact bind_ok_of_ok (gpioBulkSetDirections_ok direction (of_decide_eq_true sized) inv.chipTables)
      fun _ => ⟨_, rfl⟩
  | bulkSetLevels lineNums count levels =>
    simp only [GpioCall.sized, Bool.and_eq_true, decide_eq_true_eq] at sized
    exact bind_ok_of_ok (gpioBulkSetLevels_ok sized inv.chipTables) fun _ => ⟨_, rfl⟩
  | bulkGetLevels lineNums count levels =>
    simp only [GpioCall.sized, Bool.and_eq_true, decide_eq_true_eq] at sized
    exact bind_ok_of_ok (gpioBulkGetLevels_ok sized inv.chipTables) fun _ => ⟨_, rfl⟩

theorem GpioCall.exec_ok (call : GpioCall) {s : GpioState} (inv : TablesInv s) (safe : SafeInv s)
    (sized : call.sized = true) : ∃ r, call.exec s = .ok r := by
  cases checked : call.checksOnlyMaxLines
  · exact call.exec_ok_of_inv inv sized checked
  cases call with
  | setDebounce lineNum debounceMs =>
    exact bind_ok_of_ok (gpioSetDebounce_ok lineNum debounceMs
      fun inRange => safe.allocated (Nat.zero_lt_of_lt inRange)) fun _ => ⟨_, rfl⟩
  | setCallback lineNum callback =>
    exact bind_ok_of_ok (gpioSetCallback_ok lineNum callback safe.allocated) fun _ => ⟨_, rfl⟩
  | _ => cases checked

theorem GpioCall.start_ok (call : GpioCall) {s : GpioState} (tables : TablesInv s) (safe : SafeInv s)
    (sized : call.sized = true) : ∃ s', call.start s = .ok s' := by
  cases call
  case init chipname => exact ⟨_, rfl⟩
  case cleanup =>
    simp only [GpioCall.start]
    split_ifs
    · exact ⟨_, rfl⟩
    · exact gpioCleanup_ok tables.linesCover
  all_goals exact bind_ok_of_ok (GpioCall.exec_ok _ tables safe sized) fun _ => ⟨_, rfl⟩

/-- No step faults in a state of both invariants, whether or not it keeps the
rules: breaking them leads to a fault only at a later step of the thread. -/
theorem GpioStep.exec_ok (step : GpioStep) {s : GpioState} (inv : GpioInv s) (safe : SafeInv s)
    (sized : step.sized = true) : ∃ s', step.exec s = .ok s' := by
  cases step with
  | call apiCall =>
    simp only [GpioStep.exec]
    split_ifs with busy
    · exact ⟨_, rfl⟩
    exact apiCall.start_ok (inv.tablesInv (Option.not_isSome_iff_eq_none.mp busy)) safe sized
  | resume =>
    simp only [GpioStep.exec]
    split
    · exact ⟨_, rfl⟩
    rename_i pending same
    cases pending with
    | init next => exact ⟨_, rfl⟩
    | join =>
      simp only [Pending.resume]
      split_ifs
      · exact ⟨_, rfl⟩
      · exact cleanupFree_ok (inv.tables (by rw [GpioState.initializing, same])).linesCover
  | thread =>
    obtain ⟨s', stepped, -⟩ := intrThreadStep_ready safe.allocated safe.ready safe.reliable
    exact ⟨s', stepped⟩

/-- On an allocator that never fails, a disciplined run from a state of both
invariants does not fault. -/
theorem disciplinedRun_ok : ∀ (steps : List GpioStep) {s : GpioState}, GpioInv s → SafeInv s →
    (∀ step ∈ steps, step.sized = true) → disciplinedRun steps s = true → ∃ s', run steps s = .ok s'
  | [], s, _, _, _, _ => ⟨s, rfl⟩
  | step :: rest, s, inv, safe, sized, obeyed => by
    obtain ⟨s₁, stepped⟩ := step.exec_ok inv safe (sized step (List.mem_cons_self _ _))
    simp only [disciplinedRun, stepped, Bool.and_eq_true] at obeyed
    simp only [run, stepped, ok_bind]
    exact disciplinedRun_ok rest (inv.exec stepped) (safe.exec inv obeyed.1 stepped)
      (fun other member => sized other (List.mem_cons_of_mem _ member)) obeyed.2

end LoraFwd.Gpio
