import LoraFwd.Gpio.Effects

/-!
# The interrupt thread

`gpio_set_callback` stores a callback for a line and, with the first callback,
starts a thread that polls the event descriptors of the lines and invokes their
callbacks.  The thread takes no lock, so each of its reads of a static variable
is a step of its own (`intrThreadAction`), and the API's calls can fall
between any two: between the test of `callbacks[i]` at line 209 and the call
through it at line 216, or between the thread's test of `max_lines` and its
read of a table that `gpio_init` has not yet reallocated.  A step reads one
static variable and makes the calls to the platform that follow it; the thread
writes no static variable, so a step changes only where the thread is, the
callbacks it has invoked and the platform (`intrThreadStep`).

The table of descriptors is filled once, by the scan.  The thread returns when
the table is empty or `poll` fails, and nothing resets `intr_thread_running`
then.  What the thread relies on at each point (`ThreadReady`) is kept by its
own steps and by every call that keeps `max_lines`, the handles, and the
callback of the line it is dispatching (`KeepsThread`).
-/

namespace LoraFwd.Gpio

/-- `start_intr_thread`. -/
def startIntrThread (s : GpioState) : Nat × GpioState :=
  if s.intrThreadRunning then (gpioSuccess, s)
  else
    let s := { s with intrThreadRunning := true }
    let (created, s) := s.sys .pthreadCreate
    if created.value ≠ 0 then (gpioErrorUnknown, { s with intrThreadRunning := false })
    else (gpioSuccess, { s with thread := .started })

/-- `gpio_set_callback`: store the callback, and start the thread with a
callback if none is running.  The code of `start_intr_thread` is returned. -/
def gpioSetCallback (lineNum : Nat) (callback : Option Nat) (s : GpioState) :
    Except GpioFault (Nat × GpioState) :=
  if lineNum ≥ s.maxLines then .ok (gpioErrorInvalidArg, s)
  else do
    let callbacks ← writeAt s.callbacks lineNum callback
    let s := { s with callbacks }
    if callback.isSome && !s.intrThreadRunning then return startIntrThread s
    else return (gpioSuccess, s)

/-- Whether the interrupt thread exists and has not returned. -/
def IntrThread.alive : IntrThread → Bool
  | .idle | .exited => false
  | _ => true

/-- The points of the dispatch that come after the test of `callbacks[i]`. -/
def DispatchAt.checked : DispatchAt → Bool
  | .test | .callback => false
  | _ => true

/-- Whether the thread is dispatching line `lineNum`, having found its callback
set: it will call through `callbacks[lineNum]` again unless its event read
fails. -/
def IntrThread.holds (lineNum : Nat) : IntrThread → Bool
  | .dispatch next _ _ i => next.checked && decide (i = lineNum)
  | _ => false

/-- One step of `intr_thread_func`: the next read of a static variable, with
the calls to the platform that follow it.  The thread goes on to its next
point, and the step gives that point, the callbacks invoked and the platform;
a call through `NULL` or an access through a `NULL` handle or past the end of a
table is a fault. -/
def intrThreadAction (s : GpioState) : Except GpioFault (IntrThread × List (Nat × Nat) × Platform) :=
  match s.thread with
  | .idle => .ok (.idle, s.invoked, s.platform)
  | .exited => .ok (.exited, s.invoked, s.platform)
  | .started =>
    let (gotPfds, platform) := alloc (.malloc s.maxLines) s.platform
    .ok (if gotPfds then .scan .test s.maxLines 0 [] else .exited, s.invoked, platform)
  | .scan .test size i fds =>
    .ok (if i < s.maxLines then .scan .callback size i fds else .loop fds, s.invoked, s.platform)
  | .scan .callback size i fds => do
    let callback ← readAt s.callbacks i
    return (if callback.isSome then .scan .line size i fds else .scan .test size (i + 1) fds,
      s.invoked, s.platform)
  | .scan .line size i fds => do
    let line ← readAt s.lines i
    return (if line then .scan .fd size i fds else .scan .test size (i + 1) fds, s.invoked, s.platform)
  | .scan .fd size i fds => do
    let line ← readAt s.lines i
    if !line then .error .nullDeref
    else
      let (fd, platform) := sys (.lineEventGetFd i) s.platform
      if fds.length < size then .ok (.scan .test size (i + 1) (fds ++ [fd.value]), s.invoked, platform)
      else .error .outOfBounds
  | .loop fds =>
    if !(s.intrThreadRunning && 0 < fds.length) then .ok (.exited, s.invoked, record .free s.platform)
    else
      let (ret, platform) := sys (.poll fds 100) s.platform
      if ret.value > 0 then .ok (.dispatch .test fds ret.ready 0, s.invoked, platform)
      else if ret.value < 0 ∧ !ret.interrupted then .ok (.exited, s.invoked, record .free platform)
      else .ok (.loop fds, s.invoked, platform)
  | .dispatch .test fds ready i =>
    .ok (if i < s.maxLines then .dispatch .callback fds ready i else .loop fds, s.invoked, s.platform)
  | .dispatch .callback fds ready i => do
    let callback ← readAt s.callbacks i
    return (if callback.isSome then .dispatch .line fds ready i else .dispatch .test fds ready (i + 1),
      s.invoked, s.platform)
  | .dispatch .line fds ready i => do
    let line ← readAt s.lines i
    return (if line then .dispatch .fd fds ready i else .dispatch .test fds ready (i + 1),
      s.invoked, s.platform)
  | .dispatch .fd fds ready i => do
    let line ← readAt s.lines i
    if !line then .error .nullDeref
    else
      let (fd, platform) := sys (.lineEventGetFd i) s.platform
      .ok (if fd.value ∈ fds ∧ fd.value ∈ ready then .dispatch .read fds ready i
        else .dispatch .test fds ready (i + 1), s.invoked, platform)
  | .dispatch .read fds ready i => do
    let line ← readAt s.lines i
    if !line then .error .nullDeref
    else
      let (event, platform) := sys (.lineEventRead i) s.platform
      .ok (if event.value = 0 then .dispatch .call fds ready i else .dispatch .test fds ready (i + 1),
        s.invoked, platform)
  | .dispatch .call fds ready i => do
    let callback ← readAt s.callbacks i
    match callback with
    | none => .error .nullDeref
    | some handler => .ok (.dispatch .test fds ready (i + 1), (handler, i) :: s.invoked, s.platform)

/-- A step of the interrupt thread. -/
def intrThreadStep (s : GpioState) : Except GpioFault GpioState := do
  let (thread, invoked, platform) ← intrThreadAction s
  return { s with thread, invoked, platform }

/-! ## What the thread and the callbacks change -/

/-- `start_intr_thread` finds the thread running and changes nothing, or
creates it and sets the flag, or fails and leaves the flag clear.  It changes
nothing else but the platform, and does not allocate. -/
theorem startIntrThread_eq (s : GpioState) :
    (startIntrThread s).2 = s ∨
      s.intrThreadRunning = false ∧ ∃ platform : Platform, platform.allocs = s.platform.allocs ∧
        ((startIntrThread s).2 = { s with intrThreadRunning := true, thread := .started, platform } ∨
          (startIntrThread s).2 = { s with platform }) := by
  unfold startIntrThread
  cases running : s.intrThreadRunning
  · simp only [GpioState.sys, Bool.false_eq_true, ↓reduceIte]
    refine .inr ⟨trivial, _, sys_allocs .pthreadCreate s.platform, ?_⟩
    split
    · exact .inr rfl
    · exact .inl rfl
  · exact .inl rfl

theorem gpioSetCallback_eq {lineNum : Nat} {callback : Option Nat} {s s' : GpioState} {code : Nat}
    (h : gpioSetCallback lineNum callback s = .ok (code, s')) :
    s' = s ∨ ∃ callbacks, writeAt s.callbacks lineNum callback = .ok callbacks ∧
      (s' = { s with callbacks } ∨ s' = (startIntrThread { s with callbacks }).2) := by
  unfold gpioSetCallback at h
  split at h
  · cases h
    exact .inl rfl
  obtain ⟨callbacks, written, h⟩ := bind_eq_ok.mp h
  refine .inr ⟨callbacks, written, ?_⟩
  dsimp only at h
  split at h
  · exact .inr (snd_of_ok h)
  · exact .inl (snd_of_ok h)

/-- A step of the thread changes where it is, the callbacks it has invoked and
the platform, and nothing else. -/
theorem intrThreadStep_eq {s s' : GpioState} (h : intrThreadStep s = .ok s') :
    ∃ thread invoked platform, intrThreadAction s = .ok (thread, invoked, platform) ∧
      s' = { s with thread, invoked, platform } := by
  obtain ⟨⟨thread, invoked, platform⟩, acted, h⟩ := bind_eq_ok.mp h
  cases h
  exact ⟨thread, invoked, platform, acted, rfl⟩

/-- While there is no thread or it has returned, a step of it changes
nothing. -/
theorem intrThreadStep_not_alive {s : GpioState} (dead : s.thread.alive = false) :
    intrThreadStep s = .ok s := by
  obtain ⟨chip, lines, maxLines, callbacks, running, debounceInfo, thread, pending, invoked, platform⟩ := s
  cases thread <;> first | rfl | cases dead

/-- The points of the dispatch that pass `lines[i]` to libgpiod. -/
def DispatchAt.usesLine : DispatchAt → Bool
  | .fd | .read => true
  | _ => false

/-- What the interrupt thread has read and relies on at its next step.  In the
scan: a table of descriptors of `max_lines` entries, no more descriptors than
lines scanned, the line in range past the test, and its handle once read.  In
the dispatch: the line in range past the test, its handle where it is passed
to libgpiod, and its callback once read. -/
def ThreadReady (s : GpioState) : Prop :=
  match s.thread with
  | .scan next size i fds =>
    size = s.maxLines ∧ fds.length ≤ i ∧ (next ≠ .test → i < s.maxLines) ∧
      (next = .fd → readAt s.lines i = .ok true)
  | .dispatch next _ _ i =>
    (next ≠ .test → i < s.maxLines) ∧ (next.usesLine = true → readAt s.lines i = .ok true) ∧
      (next.checked = true → ∃ handler, readAt s.callbacks i = .ok (some handler))
  | _ => True

/-- Where the thread relies on what it has read, its step does not fault, keeps
what it relies on, and leaves a reliable allocator reliable. -/
theorem intrThreadAction_ready {s : GpioState} (allocated : Allocated s) (ready : ThreadReady s)
    (reliable : s.platform.Reliable) :
    ∃ thread invoked, ∃ platform : Platform, intrThreadAction s = .ok (thread, invoked, platform) ∧
      ThreadReady { s with thread, invoked, platform } ∧ platform.Reliable := by
  have tables {i : Nat} (inRange : i < s.maxLines) := allocated (Nat.zero_lt_of_lt inRange)
  have readLine {i : Nat} (inRange : i < s.maxLines) := readAt_ok (tables inRange).1 inRange
  have readCallback {i : Nat} (inRange : i < s.maxLines) := readAt_ok (tables inRange).2.1 inRange
  unfold ThreadReady at ready
  cases thread : s.thread with
  | idle => exact ⟨.idle, s.invoked, s.platform, by rw [intrThreadAction, thread], trivial, reliable⟩
  | exited => exact ⟨.exited, s.invoked, s.platform, by rw [intrThreadAction, thread], trivial, reliable⟩
  | started =>
    have granted := alloc_of_reliable (.malloc s.maxLines) reliable
    refine ⟨.scan .test s.maxLines 0 [], s.invoked, _,
      by simp only [intrThreadAction, thread, granted.1, if_true], ?_, granted.2⟩
    exact ⟨rfl, Nat.le_refl 0, (absurd rfl ·), nofun⟩
  | loop fds =>
    simp only [intrThreadAction, thread]
    split_ifs
    · exact ⟨_, _, _, rfl, trivial, reliable.record _⟩
    · exact ⟨_, _, _, rfl, ⟨(absurd rfl ·), nofun, nofun⟩, reliable.sys _⟩
    · exact ⟨_, _, _, rfl, trivial, (reliable.sys _).record _⟩
    · exact ⟨_, _, _, rfl, trivial, reliable.sys _⟩
  | scan next size i fds =>
    rw [thread] at ready
    obtain ⟨sized, found, inRange, held⟩ := ready
    cases next with
    | test =>
      refine ⟨_, _, _, by rw [intrThreadAction, thread], ?_, reliable⟩
      split_ifs with below
      · exact ⟨sized, found, fun _ => below, nofun⟩
      · trivial
    | callback =>
      obtain ⟨callback, read⟩ := readCallback (inRange nofun)
      refine ⟨_, _, _, by simp only [intrThreadAction, thread, read, ok_bind]; rfl, ?_, reliable⟩
      split_ifs
      · exact ⟨sized, found, fun _ => inRange nofun, nofun⟩
      · exact ⟨sized, Nat.le_succ_of_le found, (absurd rfl ·), nofun⟩
    | line =>
      obtain ⟨line, read⟩ := readLine (inRange nofun)
      refine ⟨_, _, _, by simp only [intrThreadAction, thread, read, ok_bind]; rfl, ?_, reliable⟩
      split_ifs with handle
      · exact ⟨sized, found, fun _ => inRange nofun, fun _ => handle ▸ read⟩
      · exact ⟨sized, Nat.le_succ_of_le found, (absurd rfl ·), nofun⟩
    | fd =>
      have room : fds.length < size := by have := inRange nofun; omega
      refine ⟨_, _, _, by simp only [intrThreadAction, thread, held rfl, ok_bind, Bool.not_true,
        Bool.false_eq_true, if_false, if_pos room]; rfl, ?_, reliable.sys _⟩
      exact ⟨sized, by simp only [List.length_append, List.length_singleton]; omega, (absurd rfl ·), nofun⟩
  | dispatch next fds polled i =>
    rw [thread] at ready
    obtain ⟨inRange, handle, checked⟩ := ready
    cases next with
    | test =>
      refine ⟨_, _, _, by rw [intrThreadAction, thread], ?_, reliable⟩
      split_ifs with below
      · exact ⟨fun _ => below, nofun, nofun⟩
      · trivial
    | callback =>
      obtain ⟨callback, read⟩ := readCallback (inRange nofun)
      refine ⟨_, _, _, by simp only [intrThreadAction, thread, read, ok_bind]; rfl, ?_, reliable⟩
      split_ifs with set
      · obtain ⟨handler, rfl⟩ := Option.isSome_iff_exists.mp set
        exact ⟨fun _ => inRange nofun, nofun, fun _ => ⟨handler, read⟩⟩
      · exact ⟨(absurd rfl ·), nofun, nofun⟩
    | line =>
      obtain ⟨line, read⟩ := readLine (inRange nofun)
      refine ⟨_, _, _, by simp only [intrThreadAction, thread, read, ok_bind]; rfl, ?_, reliable⟩
      split_ifs with held
      · exact ⟨fun _ => inRange nofun, fun _ => held ▸ read, checked⟩
      · exact ⟨(absurd rfl ·), nofun, nofun⟩
    | fd =>
      refine ⟨_, _, _, by simp only [intrThreadAction, thread, handle rfl, ok_bind, Bool.not_true,
        Bool.false_eq_true, if_false]; rfl, ?_, reliable.sys _⟩
      split_ifs
      · exact ⟨fun _ => inRange nofun, handle, checked⟩
      · exact ⟨(absurd rfl ·), nofun, nofun⟩
    | read =>
      refine ⟨_, _, _, by simp only [intrThreadAction, thread, handle rfl, ok_bind, Bool.not_true,
        Bool.false_eq_true, if_false]; rfl, ?_, reliable.sys _⟩
      split_ifs
      · exact ⟨fun _ => inRange nofun, nofun, checked⟩
      · exact ⟨(absurd rfl ·), nofun, nofun⟩
    | call =>
      obtain ⟨handler, read⟩ := checked rfl
      exact ⟨.dispatch .test fds polled (i + 1), (handler, i) :: s.invoked, s.platform,
        by simp only [intrThreadAction, thread, read, ok_bind], ⟨(absurd rfl ·), nofun, nofun⟩, reliable⟩

theorem intrThreadStep_ready {s : GpioState} (allocated : Allocated s) (ready : ThreadReady s)
    (reliable : s.platform.Reliable) :
    ∃ s', intrThreadStep s = .ok s' ∧ ThreadReady s' ∧ s'.platform.Reliable := by
  obtain ⟨thread, invoked, platform, acted, ready', reliable'⟩ :=
    intrThreadAction_ready allocated ready reliable
  exact ⟨_, by rw [intrThreadStep, acted]; rfl, ready', reliable'⟩

/-! ## What the calls leave of what the thread has read -/

/-- What a call of the API leaves of what the interrupt thread has read: where
the thread is, `max_lines`, every handle, and a callback set for the line the
thread is dispatching. -/
structure KeepsThread (s s' : GpioState) : Prop where
  thread : s'.thread = s.thread
  maxLines : s'.maxLines = s.maxLines
  handles : KeepsHandles s.lines s'.lines
  callback : ∀ lineNum, s.thread.holds lineNum = true →
    (∃ handler, readAt s.callbacks lineNum = .ok (some handler)) →
      ∃ handler, readAt s'.callbacks lineNum = .ok (some handler)

theorem ThreadReady.keeps {s s' : GpioState} (ready : ThreadReady s) (keeps : KeepsThread s s') :
    ThreadReady s' := by
  unfold ThreadReady at ready ⊢
  rw [keeps.thread, keeps.maxLines]
  cases thread : s.thread
  case scan next size i fds =>
    rw [thread] at ready
    exact ⟨ready.1, ready.2.1, ready.2.2.1, fun fd => keeps.handles i (ready.2.2.2 fd)⟩
  case dispatch next fds polled i =>
    rw [thread] at ready
    refine ⟨ready.1, fun uses => keeps.handles i (ready.2.1 uses),
      fun checked => keeps.callback i ?_ (ready.2.2 checked)⟩
    simp [IntrThread.holds, thread, checked]
  all_goals trivial

theorem LinesStep.keepsThread {s s' : GpioState} (step : LinesStep s s') : KeepsThread s s' := by
  obtain ⟨lines, platform, rfl, -, -, kept⟩ := step
  exact ⟨rfl, rfl, kept, fun _ _ => id⟩

/-- Storing a callback keeps what the thread has read, unless it clears the
callback of the line the thread is dispatching. -/
theorem keepsThread_callbacks {s : GpioState} {callbacks : Option (List (Option Nat))} {lineNum : Nat}
    {callback : Option Nat} (written : writeAt s.callbacks lineNum callback = .ok callbacks)
    (kept : callback = none → s.thread.holds lineNum = false) : KeepsThread s { s with callbacks } := by
  refine ⟨rfl, rfl, fun _ => id, fun held holds before => ?_⟩
  rw [readAt_writeAt written]
  split_ifs with same
  · subst same
    cases callback with
    | none => cases holds.symm.trans (kept rfl)
    | some handler => exact ⟨handler, rfl⟩
  · exact before

theorem gpioSetCallback_ok (lineNum : Nat) (callback : Option Nat) {s : GpioState}
    (allocated : Allocated s) : ∃ r, gpioSetCallback lineNum callback s = .ok r := by
  unfold gpioSetCallback
  split
  · exact ⟨_, rfl⟩
  · have inRange : lineNum < s.maxLines := by omega
    rw [writeAt_ok (allocated (Nat.zero_lt_of_lt inRange)).2.1 inRange, ok_bind]
    dsimp only
    split <;> exact ⟨_, rfl⟩

end LoraFwd.Gpio
