import LoraFwd.Gpio.Api

/-!
# What each operation of the GPIO API changes, and when it cannot fault

The invariants of the API are proved from these lemmas, not from the code of
the functions.  The operations on one line change nothing but the entries of
the line table and the platform (`LinesStep`): they are the function's body
after the prologue `withLine`, whose lemmas are proved once.  They cannot fault
while the chip's tables have one entry per line (`Tables`).
-/

namespace LoraFwd.Gpio

/-- A bind that succeeds ran both of its parts. -/
theorem bind_eq_ok {ε α β : Type} {x : Except ε α} {f : α → Except ε β} {b : β} :
    x >>= f = .ok b ↔ ∃ a, x = .ok a ∧ f a = .ok b := by
  cases x <;> simp [bind, Except.bind]

@[simp]
theorem ok_bind {ε α β : Type} (a : α) (f : α → Except ε β) : (Except.ok a >>= f) = f a := rfl

theorem bind_ok_of_ok {ε α β : Type} {x : Except ε α} {f : α → Except ε β}
    (ok : ∃ a, x = .ok a) (fOk : ∀ a, ∃ b, f a = .ok b) : ∃ b, x >>= f = .ok b := by
  obtain ⟨a, rfl⟩ := ok
  exact fOk a

/-- Every entry of the line table that holds a handle still holds one. -/
def KeepsHandles (lines lines' : Option (List Bool)) : Prop :=
  ∀ i, readAt lines i = .ok true → readAt lines' i = .ok true

/-- `s'` is `s` with other entries in the line table, every handle kept, and a
platform that has answered more calls, with the same allocator script. -/
def LinesStep (s s' : GpioState) : Prop :=
  ∃ lines platform, s' = { s with lines, platform } ∧
    lines.map List.length = s.lines.map List.length ∧ platform.allocs = s.platform.allocs ∧
    KeepsHandles s.lines lines

theorem LinesStep.refl (s : GpioState) : LinesStep s s :=
  ⟨s.lines, s.platform, rfl, rfl, rfl, fun _ => id⟩

theorem LinesStep.trans {s₁ s₂ s₃ : GpioState} :
    LinesStep s₁ s₂ → LinesStep s₂ s₃ → LinesStep s₁ s₃ := by
  rintro ⟨lines₁, platform₁, rfl, sized₁, allocs₁, kept₁⟩ ⟨lines₂, platform₂, rfl, sized₂, allocs₂, kept₂⟩
  exact ⟨lines₂, platform₂, rfl, sized₂.trans sized₁, allocs₂.trans allocs₁, fun i held => kept₂ i (kept₁ i held)⟩

theorem LinesStep.sys (s : GpioState) (call : SysCall) : LinesStep s (s.sys call).2 :=
  ⟨s.lines, _, rfl, rfl, sys_allocs call s.platform, fun _ => id⟩

theorem LinesStep.record (s : GpioState) (call : SysCall) : LinesStep s (s.record call) :=
  ⟨s.lines, _, rfl, rfl, rfl, fun _ => id⟩

theorem readAt_ok {α : Type} {array : Option (List α)} {count index : Nat}
    (sized : array.map List.length = some count) (inRange : index < count) :
    ∃ item, readAt array index = .ok item := by
  obtain ⟨items, rfl, rfl⟩ := Option.map_eq_some'.mp sized
  simp only [readAt, List.get?_eq_getElem?, List.getElem?_eq_getElem inRange]
  exact ⟨_, rfl⟩

/-- An array the caller passes is read within its length. -/
theorem readAt_some_ok {α : Type} {items : List α} {index : Nat} (inRange : index < items.length) :
    ∃ item, readAt (some items) index = .ok item :=
  readAt_ok rfl inRange

/-- An entry read from an array is one of its entries. -/
theorem readAt_mem {α : Type} {items : List α} {index : Nat} {item : α}
    (read : readAt (some items) index = .ok item) : item ∈ items := by
  simp only [readAt] at read
  split at read
  · cases read
    exact List.get?_mem ‹_›
  · cases read

theorem writeAt_ok {α : Type} {array : Option (List α)} {count index : Nat}
    (sized : array.map List.length = some count) (inRange : index < count) (value : α) :
    writeAt array index value = .ok (array.map (·.set index value)) := by
  obtain ⟨items, rfl, rfl⟩ := Option.map_eq_some'.mp sized
  simp only [writeAt, writeEntry, if_pos inRange]
  rfl

/-- An array read after a write: the value written at its index, the old
entry elsewhere. -/
theorem readAt_writeAt {α : Type} {array array' : Option (List α)} {index : Nat} {value : α}
    (written : writeAt array index value = .ok array') (i : Nat) :
    readAt array' i = if i = index then .ok value else readAt array i := by
  cases array with
  | none => cases written
  | some items =>
    simp only [writeAt, writeEntry] at written
    split at written
    · cases written
      by_cases same : i = index
      · subst same
        simp [readAt, List.getElem?_set_self ‹_›]
      · simp [readAt, same, List.getElem?_set_ne (Ne.symm same)]
    · cases written

theorem writeAt_length {α : Type} {array array' : Option (List α)} {index : Nat} {value : α}
    (written : writeAt array index value = .ok array') :
    array'.map List.length = array.map List.length := by
  cases array with
  | none => cases written
  | some items =>
    simp only [writeAt, writeEntry] at written
    split at written
    · cases written
      simp
    · cases written

theorem getLine_linesStep {lineNum : Nat} {s s' : GpioState} {got : Bool}
    (h : getLine lineNum s = .ok (got, s')) : LinesStep s s' := by
  unfold getLine at h
  split at h
  · cases h
    exact .refl s
  obtain ⟨held, read, h⟩ := bind_eq_ok.mp h
  split at h
  · cases h
    exact .refl s
  rename_i empty
  obtain ⟨lines, written, h⟩ := bind_eq_ok.mp h
  cases h
  refine (LinesStep.sys s _).trans ⟨lines, _, rfl, writeAt_length written, rfl, fun i before => ?_⟩
  rw [readAt_writeAt written]
  split_ifs with same
  · subst same
    exact absurd (Except.ok.inj (read.symm.trans before)) empty
  · exact before

/-- A handle comes only from an open chip, for a line it has. -/
theorem getLine_true {lineNum : Nat} {s s' : GpioState}
    (h : getLine lineNum s = .ok (true, s')) : s.chip = true ∧ lineNum < s.maxLines := by
  unfold getLine at h
  split at h
  · cases h
  · rename_i chipOpen
    simp only [Bool.or_eq_true, Bool.not_eq_true', decide_eq_true_eq, not_or, Bool.not_eq_false] at chipOpen
    exact ⟨chipOpen.1, by omega⟩

theorem getLine_ok (lineNum : Nat) {s : GpioState}
    (sized : s.chip = true → lineNum < s.maxLines → s.lines.map List.length = some s.maxLines) :
    ∃ r, getLine lineNum s = .ok r := by
  unfold getLine
  split
  · exact ⟨_, rfl⟩
  rename_i chipOpen
  simp only [Bool.or_eq_true, Bool.not_eq_true', decide_eq_true_eq, not_or, Bool.not_eq_false] at chipOpen
  have inRange : lineNum < s.maxLines := by omega
  obtain ⟨held, read⟩ := readAt_ok (sized chipOpen.1 inRange) inRange
  rw [read]
  cases held
  · have written := writeAt_ok (sized chipOpen.1 inRange) inRange
      (LoraFwd.Gpio.sys (.chipGetLine lineNum) s.platform).1.ok
    exact ⟨_, by dsimp only [GpioState.sys]; rw [written]; rfl⟩
  · exact ⟨_, rfl⟩

section WithLine

variable {α : Type} {lineNum : Nat} {rejected : Bool} {refusal : α}
  {body : GpioState → Except GpioFault (α × GpioState)}

theorem withLine_linesStep
    (bodyStep : ∀ {s₁ r s₂}, body s₁ = .ok (r, s₂) → LinesStep s₁ s₂) {s s' : GpioState} {r : α}
    (h : withLine lineNum rejected refusal body s = .ok (r, s')) : LinesStep s s' := by
  unfold withLine at h
  split at h
  · cases h
    exact .refl s
  obtain ⟨⟨line, s₁⟩, got, h⟩ := bind_eq_ok.mp h
  dsimp only at h
  split at h
  · cases h
    exact getLine_linesStep got
  · exact (getLine_linesStep got).trans (bodyStep h)

theorem withLine_ok {s : GpioState}
    (sized : s.chip = true → lineNum < s.maxLines → s.lines.map List.length = some s.maxLines)
    (bodyOk : ∀ s₁, LinesStep s s₁ → s.chip = true → lineNum < s.maxLines → ∃ r, body s₁ = .ok r) :
    ∃ r, withLine lineNum rejected refusal body s = .ok r := by
  unfold withLine
  split
  · exact ⟨_, rfl⟩
  obtain ⟨⟨line, s₁⟩, got⟩ := getLine_ok lineNum sized
  rw [got]
  cases line
  · exact ⟨_, rfl⟩
  · exact bodyOk s₁ (getLine_linesStep got) (getLine_true got).1 (getLine_true got).2

/-- A line past the chip's count is refused before anything is read. -/
theorem withLine_beyond {s : GpioState} (beyond : s.maxLines ≤ lineNum) :
    withLine lineNum rejected refusal body s = .ok (refusal, s) := by
  unfold withLine
  rw [if_pos (by simp [beyond])]

/-- The prologue passes to the body only states that took a lines step, when
the chip is open and the line in range; bodies that agree there give the same
operation. -/
theorem withLine_congr {body' : GpioState → Except GpioFault (α × GpioState)} {s : GpioState}
    (same : ∀ s₁, LinesStep s s₁ → s.chip = true → lineNum < s.maxLines → body s₁ = body' s₁) :
    withLine lineNum rejected refusal body s = withLine lineNum rejected refusal body' s := by
  unfold withLine
  split
  · rfl
  cases got : getLine lineNum s with
  | error fault => rfl
  | ok result =>
    obtain ⟨line, s₁⟩ := result
    cases line
    · rfl
    · exact same s₁ (getLine_linesStep got) (getLine_true got).1 (getLine_true got).2

end WithLine

theorem snd_of_ok {α : Type} {x : α × GpioState} {r : α} {s' : GpioState}
    (h : (Except.ok x : Except GpioFault (α × GpioState)) = .ok (r, s')) : s' = x.2 := by
  injection h with h
  rw [h]

theorem releaseIfUsed_linesStep (lineNum : Nat) (s : GpioState) :
    LinesStep s (releaseIfUsed lineNum s) := by
  unfold releaseIfUsed
  dsimp only [GpioState.sys]
  split
  · exact (LinesStep.sys s _).trans (.record _ _)
  · exact .sys s _

theorem requestMode_linesStep (mode : ModeRequest) (s : GpioState) :
    LinesStep s (requestMode mode s).2 := by
  cases mode
  · exact .sys s _
  · exact .refl s
  · exact .refl s

theorem requestLine_linesStep {lineNum : Nat} {mode : ModeRequest} {s s' : GpioState} {code : Nat}
    (h : requestLine lineNum mode s = .ok (code, s')) : LinesStep s s' :=
  withLine_linesStep (fun h => by
    rw [snd_of_ok h]
    exact (releaseIfUsed_linesStep _ _).trans (requestMode_linesStep _ _)) h

theorem gpioGetDirection_linesStep {lineNum : Nat} {s s' : GpioState} {r : Nat × Option Nat}
    (h : gpioGetDirection lineNum s = .ok (r, s')) : LinesStep s s' :=
  withLine_linesStep (fun h => by rw [snd_of_ok h]; exact .sys _ _) h

theorem gpioSetLevel_linesStep {lineNum : Nat} {level : Int} {s s' : GpioState} {code : Nat}
    (h : gpioSetLevel lineNum level s = .ok (code, s')) : LinesStep s s' :=
  withLine_linesStep (fun h => by rw [snd_of_ok h]; exact .sys _ _) h

theorem gpioGetLevel_linesStep {lineNum : Nat} {s s' : GpioState} {r : Nat × Option Int}
    (h : gpioGetLevel lineNum s = .ok (r, s')) : LinesStep s s' :=
  withLine_linesStep (fun h => by rw [snd_of_ok h]; exact .sys _ _) h

theorem pollLine_linesStep {lineNum : Nat} {timeoutMs : Int}
    {filter : GpioState → Except GpioFault (Bool × GpioState)}
    (filterStep : ∀ {s₁ b s₂}, filter s₁ = .ok (b, s₂) → LinesStep s₁ s₂)
    {s s' : GpioState} {r : Nat × Option Bool}
    (h : pollLine lineNum timeoutMs filter s = .ok (r, s')) : LinesStep s s' := by
  unfold pollLine at h
  dsimp only [GpioState.sys] at h
  have fdStep := LinesStep.sys s (.lineEventGetFd lineNum)
  split at h
  · rw [snd_of_ok h]
    exact fdStep
  have pollStep := fdStep.trans (LinesStep.sys _ (.poll [(LoraFwd.Gpio.sys (.lineEventGetFd lineNum) s.platform).1.value] timeoutMs))
  split at h
  · rw [snd_of_ok h]
    exact pollStep
  split at h
  · rw [snd_of_ok h]
    exact pollStep
  obtain ⟨⟨interrupted, s₃⟩, filtered, h⟩ := bind_eq_ok.mp h
  rw [snd_of_ok h]
  exact pollStep.trans (filterStep filtered)

theorem debounceEvent_linesStep {lineNum : Nat} {s s' : GpioState} {interrupted : Bool}
    (h : debounceEvent lineNum s = .ok (interrupted, s')) : LinesStep s s' := by
  obtain ⟨info, -, h⟩ := bind_eq_ok.mp h
  dsimp only [GpioState.sys] at h
  split at h
  · rw [snd_of_ok h]
    exact .sys s _
  · rw [snd_of_ok h]
    exact .refl s

theorem gpioWaitForInterrupt_linesStep {lineNum : Nat} {timeoutMs : Int} {s s' : GpioState}
    {r : Nat × Option Bool} (h : gpioWaitForInterrupt lineNum timeoutMs s = .ok (r, s')) :
    LinesStep s s' :=
  withLine_linesStep (fun h => pollLine_linesStep debounceEvent_linesStep h) h

/-- Each of the three tables has one entry per line. -/
def Tables (s : GpioState) : Prop :=
  s.lines.map List.length = some s.maxLines ∧ s.callbacks.map List.length = some s.maxLines ∧
    s.debounceInfo.map List.length = some s.maxLines

theorem LinesStep.tables {s s' : GpioState} (step : LinesStep s s') (tables : Tables s) :
    Tables s' := by
  obtain ⟨lines, platform, rfl, sized, -⟩ := step
  exact ⟨sized.trans tables.1, tables.2⟩

theorem LinesStep.chipTables {s s' : GpioState} (step : LinesStep s s')
    (chipTables : s.chip = true → Tables s) : s'.chip = true → Tables s' := by
  obtain ⟨lines, platform, rfl, sized, allocs⟩ := step
  exact fun chip => LinesStep.tables ⟨lines, platform, rfl, sized, allocs⟩ (chipTables chip)

section Bulk

variable {σ : Type} {op : Nat → σ → Except GpioFault (Nat × σ)}

/-- A relation every operation of a bulk loop establishes, reflexive and
transitive, holds between the loop's start and end. -/
theorem bulkLoop_rel (rel : σ → σ → Prop) (refl : ∀ st, rel st st)
    (trans : ∀ {a b c}, rel a b → rel b c → rel a c)
    (opRel : ∀ {i st err st'}, op i st = .ok (err, st') → rel st st') :
    ∀ {indices : List Nat} {ret : Nat} {st st' : σ} {code : Nat},
      bulkLoop op indices ret st = .ok (code, st') → rel st st'
  | [], _, st, _, _, h => by
    cases h
    exact refl st
  | i :: rest, _, _, _, _, h => by
    obtain ⟨⟨err, st₁⟩, done, h⟩ := bind_eq_ok.mp h
    exact trans (opRel done) (bulkLoop_rel rel refl trans opRel h)

/-- A bulk loop whose operations cannot fault on the states a relation
reaches does not fault. -/
theorem bulkLoop_ok (rel : σ → σ → Prop) (trans : ∀ {a b c}, rel a b → rel b c → rel a c)
    (opRel : ∀ {i st err st'}, op i st = .ok (err, st') → rel st st') (start : σ) :
    ∀ (indices : List Nat) (ret : Nat) (st : σ), rel start st →
      (∀ i ∈ indices, ∀ st', rel start st' → ∃ r, op i st' = .ok r) →
      ∃ r, bulkLoop op indices ret st = .ok r
  | [], ret, st, _, _ => ⟨(ret, st), rfl⟩
  | i :: rest, _, st, reached, opOk => by
    obtain ⟨⟨err, st₁⟩, done⟩ := opOk i (List.mem_cons_self _ _) st reached
    simp only [bulkLoop, done]
    exact bulkLoop_ok rel trans opRel start rest _ st₁ (trans reached (opRel done))
      fun j member => opOk j (List.mem_cons_of_mem _ member)

end Bulk

theorem requestLine_ok (lineNum : Nat) (mode : ModeRequest) {s : GpioState}
    (tables : s.chip = true → lineNum < s.maxLines → Tables s) :
    ∃ r, requestLine lineNum mode s = .ok r :=
  withLine_ok (fun chip inRange => (tables chip inRange).1) fun _ _ _ _ => ⟨_, rfl⟩

theorem gpioGetDirection_ok (lineNum : Nat) {s : GpioState}
    (tables : s.chip = true → lineNum < s.maxLines → Tables s) :
    ∃ r, gpioGetDirection lineNum s = .ok r :=
  withLine_ok (fun chip inRange => (tables chip inRange).1) fun _ _ _ _ => ⟨_, rfl⟩

theorem gpioSetLevel_ok (lineNum : Nat) (level : Int) {s : GpioState}
    (tables : s.chip = true → lineNum < s.maxLines → Tables s) :
    ∃ r, gpioSetLevel lineNum level s = .ok r :=
  withLine_ok (fun chip inRange => (tables chip inRange).1) fun _ _ _ _ => ⟨_, rfl⟩

theorem gpioGetLevel_ok (lineNum : Nat) {s : GpioState}
    (tables : s.chip = true → lineNum < s.maxLines → Tables s) :
    ∃ r, gpioGetLevel lineNum s = .ok r :=
  withLine_ok (fun chip inRange => (tables chip inRange).1) fun _ _ _ _ => ⟨_, rfl⟩

theorem debounceEvent_ok {lineNum : Nat} {s : GpioState} (tables : Tables s)
    (inRange : lineNum < s.maxLines) : ∃ r, debounceEvent lineNum s = .ok r := by
  obtain ⟨info, read⟩ := readAt_ok tables.2.2 inRange
  unfold debounceEvent
  rw [read]
  by_cases positive : info.lastTime > 0
  · exact ⟨_, by simp only [bind, Except.bind, if_pos positive]; rfl⟩
  · exact ⟨_, by simp only [bind, Except.bind, if_neg positive]; rfl⟩

theorem pollLine_ok (lineNum : Nat) (timeoutMs : Int)
    {filter : GpioState → Except GpioFault (Bool × GpioState)} {s : GpioState}
    (filterOk : ∀ s', LinesStep s s' → ∃ r, filter s' = .ok r) :
    ∃ r, pollLine lineNum timeoutMs filter s = .ok r := by
  unfold pollLine
  dsimp only [GpioState.sys]
  split
  · exact ⟨_, rfl⟩
  split
  · exact ⟨_, rfl⟩
  split
  · exact ⟨_, rfl⟩
  obtain ⟨⟨interrupted, s₃⟩, filtered⟩ := filterOk _ ((LinesStep.sys s (.lineEventGetFd lineNum)).trans
    (LinesStep.sys _ (.poll [(sys (.lineEventGetFd lineNum) s.platform).1.value] timeoutMs)))
  dsimp only [GpioState.sys] at filtered
  exact ⟨_, by rw [filtered]; rfl⟩

/-- The filter is applied to a state that took a lines step; filters that
agree there give the same poll. -/
theorem pollLine_congr {lineNum : Nat} {timeoutMs : Int}
    {filter filter' : GpioState → Except GpioFault (Bool × GpioState)} {s : GpioState}
    (same : ∀ s₂, LinesStep s s₂ → filter s₂ = filter' s₂) :
    pollLine lineNum timeoutMs filter s = pollLine lineNum timeoutMs filter' s := by
  have step := (LinesStep.sys s (.lineEventGetFd lineNum)).trans
    (LinesStep.sys _ (.poll [(sys (.lineEventGetFd lineNum) s.platform).1.value] timeoutMs))
  unfold pollLine
  dsimp only [GpioState.sys] at step ⊢
  rw [same _ step]

theorem gpioWaitForInterrupt_ok (lineNum : Nat) (timeoutMs : Int) {s : GpioState}
    (tables : s.chip = true → lineNum < s.maxLines → Tables s) :
    ∃ r, gpioWaitForInterrupt lineNum timeoutMs s = .ok r :=
  withLine_ok (fun chip inRange => (tables chip inRange).1) fun _ step chip inRange =>
    pollLine_ok lineNum timeoutMs fun _ step' =>
      debounceEvent_ok ((step.trans step').tables (tables chip inRange))
        (by obtain ⟨_, _, rfl, _⟩ := step.trans step'; exact inRange)

/-- `gpio_set_debounce` changes at most the line's debounce record, to
`{0, -1}`. -/
theorem gpioSetDebounce_eq {lineNum debounceMs : Nat} {s s' : GpioState} {code : Nat}
    (h : gpioSetDebounce lineNum debounceMs s = .ok (code, s')) :
    s' = s ∨ ∃ debounceInfo, writeAt s.debounceInfo lineNum ⟨0, -1⟩ = .ok debounceInfo ∧
      s' = { s with debounceInfo } := by
  unfold gpioSetDebounce at h
  split at h
  · cases h
    exact .inl rfl
  · obtain ⟨debounceInfo, written, h⟩ := bind_eq_ok.mp h
    cases h
    exact .inr ⟨debounceInfo, written, rfl⟩

theorem gpioSetDebounce_ok (lineNum debounceMs : Nat) {s : GpioState}
    (tables : lineNum < s.maxLines → Tables s) :
    ∃ r, gpioSetDebounce lineNum debounceMs s = .ok r := by
  unfold gpioSetDebounce
  split
  · exact ⟨_, rfl⟩
  · rename_i inRange
    have inRange : lineNum < s.maxLines := by omega
    rw [writeAt_ok (tables inRange).2.2 inRange]
    exact ⟨_, rfl⟩

theorem gpioSetDirection_linesStep {lineNum direction : Nat} {s s' : GpioState} {code : Nat}
    (h : gpioSetDirection lineNum direction s = .ok (code, s')) : LinesStep s s' :=
  requestLine_linesStep h

theorem gpioSetIntrType_linesStep {lineNum intrType : Nat} {s s' : GpioState} {code : Nat}
    (h : gpioSetIntrType lineNum intrType s = .ok (code, s')) : LinesStep s s' :=
  requestLine_linesStep h

theorem gpioBulkSetDirections_linesStep {lineNums : List Nat} {count direction : Nat}
    {s s' : GpioState} {code : Nat}
    (h : gpioBulkSetDirections lineNums count direction s = .ok (code, s')) : LinesStep s s' := by
  unfold gpioBulkSetDirections at h
  split at h
  · cases h
    exact .refl s
  · refine bulkLoop_rel LinesStep LinesStep.refl (fun a b => a.trans b) (fun done => ?_) h
    obtain ⟨lineNum, -, done⟩ := bind_eq_ok.mp done
    exact gpioSetDirection_linesStep done

theorem gpioBulkSetLevels_linesStep {lineNums : List Nat} {count : Nat} {levels : List Int}
    {s s' : GpioState} {code : Nat}
    (h : gpioBulkSetLevels lineNums count levels s = .ok (code, s')) : LinesStep s s' := by
  unfold gpioBulkSetLevels at h
  split at h
  · cases h
    exact .refl s
  · refine bulkLoop_rel LinesStep LinesStep.refl (fun a b => a.trans b) (fun done => ?_) h
    obtain ⟨lineNum, -, done⟩ := bind_eq_ok.mp done
    obtain ⟨level, -, done⟩ := bind_eq_ok.mp done
    exact gpioSetLevel_linesStep done

/-- The relation the loop of `gpio_bulk_get_levels` keeps: the state takes a
lines step and the caller's array keeps its length. -/
def LevelsStep (st st' : List Int × GpioState) : Prop :=
  LinesStep st.2 st'.2 ∧ st'.1.length = st.1.length

theorem LevelsStep.trans {a b c : List Int × GpioState} (first : LevelsStep a b)
    (second : LevelsStep b c) : LevelsStep a c :=
  ⟨first.1.trans second.1, second.2.trans first.2⟩

theorem bulkGetLevelsOp_levelsStep {lineNums : List Nat} {i err : Nat}
    {st st' : List Int × GpioState}
    (done : (do
        let lineNum ← readAt (some lineNums) i
        let ((err, level), s) ← gpioGetLevel lineNum st.2
        match level with
        | none => return (err, st.1, s)
        | some value => do
          let levels ← writeEntry st.1 i value
          return (err, levels, s) : Except GpioFault (Nat × List Int × GpioState)) =
      .ok (err, st')) : LevelsStep st st' := by
  obtain ⟨lineNum, -, done⟩ := bind_eq_ok.mp done
  obtain ⟨⟨⟨code, level⟩, s₁⟩, got, done⟩ := bind_eq_ok.mp done
  have step := gpioGetLevel_linesStep got
  cases level with
  | none =>
    cases done
    exact ⟨step, rfl⟩
  | some value =>
    obtain ⟨levels, written, done⟩ := bind_eq_ok.mp done
    cases done
    unfold writeEntry at written
    split at written
    · cases written
      exact ⟨step, List.length_set _ _ _⟩
    · cases written

theorem gpioBulkGetLevels_linesStep {lineNums : List Nat} {count : Nat} {levels levels' : List Int}
    {s s' : GpioState} {code : Nat}
    (h : gpioBulkGetLevels lineNums count levels s = .ok (code, levels', s')) : LinesStep s s' := by
  unfold gpioBulkGetLevels at h
  split at h
  · cases h
    exact .refl s
  · exact (bulkLoop_rel LevelsStep (fun st => ⟨.refl st.2, rfl⟩) LevelsStep.trans
      (fun done => bulkGetLevelsOp_levelsStep done) h).1

/-! ## The tables -/

/-- Whenever the chip has lines, each table has one entry per line. -/
def Allocated (s : GpioState) : Prop := 0 < s.maxLines → Tables s

/-- Every debounce record has no time. -/
def DebounceCleared (s : GpioState) : Prop :=
  ∀ records, s.debounceInfo = some records → ∀ record ∈ records, record.lastTime = 0

theorem LinesStep.allocated {s s' : GpioState} (step : LinesStep s s') (allocated : Allocated s) :
    Allocated s' := by
  obtain ⟨lines, platform, rfl, sized, allocs⟩ := step
  exact fun positive => LinesStep.tables ⟨lines, platform, rfl, sized, allocs⟩ (allocated positive)

theorem LinesStep.reliable {s s' : GpioState} (step : LinesStep s s')
    (reliable : s.platform.Reliable) : s'.platform.Reliable := by
  obtain ⟨_, _, rfl, -, allocs, -⟩ := step
  exact reliable.of_allocs allocs

/-- An array whose entries all satisfy a property keeps it when an entry is
set to a value that satisfies it. -/
theorem writeAt_forall {α : Type} {P : α → Prop} {array array' : Option (List α)} {index : Nat}
    {value : α} (written : writeAt array index value = .ok array') (holds : P value)
    (all : ∀ items, array = some items → ∀ item ∈ items, P item) :
    ∀ items, array' = some items → ∀ item ∈ items, P item := by
  cases array with
  | none => cases written
  | some items =>
    simp only [writeAt, writeEntry] at written
    split at written
    · cases written
      intro items' same item member
      cases same
      rcases List.mem_or_eq_of_mem_set member with old | new
      · exact all items rfl item old
      · exact new ▸ holds
    · cases written

/-- What the allocation of the tables can do: allocate all three, one zeroed
entry per line, or fail with the chip closed and no line table, each other
table freed or left as it was.  Only the platform changes besides. -/
theorem allocTables_cases (s : GpioState) :
    ∃ platform : Platform,
      allocTables s = (gpioSuccess, { s with
        lines := some (List.replicate s.maxLines false),
        callbacks := some (List.replicate s.maxLines none),
        debounceInfo := some (List.replicate s.maxLines ⟨0, 0⟩), platform }) ∨
      ∃ callbacks debounceInfo, (callbacks = none ∨ callbacks = s.callbacks) ∧
        (debounceInfo = none ∨ debounceInfo = s.debounceInfo) ∧
        allocTables s = (gpioErrorUnknown,
          { s with chip := false, lines := none, callbacks, debounceInfo, platform }) := by
  generalize result : allocTables s = r
  unfold allocTables at result
  dsimp only [GpioState.alloc, GpioState.record] at result
  split_ifs at result <;> subst result
  · exact ⟨_, .inr ⟨_, _, .inr rfl, .inr rfl, rfl⟩⟩
  · exact ⟨_, .inr ⟨_, _, .inl rfl, .inr rfl, rfl⟩⟩
  · exact ⟨_, .inr ⟨_, _, .inl rfl, .inl rfl, rfl⟩⟩
  · exact ⟨_, .inl rfl⟩

theorem allocTables_frame (s : GpioState) :
    (allocTables s).2.intrThreadRunning = s.intrThreadRunning ∧
      (allocTables s).2.thread = s.thread ∧ (allocTables s).2.pending = s.pending ∧
      (allocTables s).2.invoked = s.invoked ∧ (allocTables s).2.maxLines = s.maxLines := by
  obtain ⟨_, done | ⟨_, _, -, -, failed⟩⟩ := allocTables_cases s
  · rw [done]
    exact ⟨rfl, rfl, rfl, rfl, rfl⟩
  · rw [failed]
    exact ⟨rfl, rfl, rfl, rfl, rfl⟩

/-- The tables are allocated, for every line, when the chip stays open. -/
theorem allocTables_chipTables (s : GpioState) :
    (allocTables s).2.chip = true → Tables (allocTables s).2 := by
  obtain ⟨_, done | ⟨_, _, -, -, failed⟩⟩ := allocTables_cases s
  · rw [done]
    exact fun _ => ⟨by simp, by simp, by simp⟩
  · rw [failed]
    exact Bool.noConfusion

theorem allocTables_debounceCleared {s : GpioState} (cleared : DebounceCleared s) :
    DebounceCleared (allocTables s).2 := by
  obtain ⟨_, done | ⟨_, _, -, freed | kept, failed⟩⟩ := allocTables_cases s
  · rw [done]
    rintro records ⟨⟩ record member
    rw [List.eq_of_mem_replicate member]
  · rw [failed, freed]
    exact fun _ => Option.noConfusion
  · rw [failed, kept]
    exact cleared

/-- With an allocator that grants every request, the three tables are
allocated, one entry per line. -/
theorem allocTables_allocated (s : GpioState) (reliable : s.platform.Reliable) :
    Allocated (allocTables s).2 ∧ (allocTables s).2.platform.Reliable := by
  have first := alloc_of_reliable (.calloc s.maxLines) reliable
  have second := alloc_of_reliable (.calloc s.maxLines) first.2
  have third := alloc_of_reliable (.calloc s.maxLines) second.2
  unfold allocTables
  dsimp only [GpioState.alloc]
  simp only [first.1, second.1, third.1, Bool.not_true, Bool.false_eq_true, if_false]
  exact ⟨fun _ => ⟨by simp, by simp, by simp⟩, third.2⟩

/-- What the start of `gpio_init` can do: refuse a missing name and change
nothing; fail to open the chip or find no line and leave it closed,
`max_lines` as it was or 0, with a code other than `GPIO_ERROR_UNKNOWN`; or
open it with its line count.  The allocator's script is not consumed. -/
theorem openChip_cases (chipname : Bool) (s : GpioState) :
    openChip chipname s = (some gpioErrorInvalidArg, s) ∨
      ∃ platform : Platform, platform.allocs = s.platform.allocs ∧
        ((∃ code maxLines, code ≠ gpioErrorUnknown ∧ (maxLines = s.maxLines ∨ maxLines = 0) ∧
          openChip chipname s = (some code, { s with chip := false, maxLines, platform })) ∨
        ∃ maxLines, 0 < maxLines ∧
          openChip chipname s = (none, { s with chip := true, maxLines, platform })) := by
  generalize result : openChip chipname s = r
  unfold openChip at result
  dsimp only [GpioState.sys, GpioState.record] at result
  split_ifs at result with named opened denied empty <;> subst result
  · exact .inl rfl
  · exact .inr ⟨_, sys_allocs _ _, .inl ⟨_, _, by decide, .inl rfl, rfl⟩⟩
  · exact .inr ⟨_, sys_allocs _ _, .inl ⟨_, _, by decide, .inl rfl, rfl⟩⟩
  · refine .inr ⟨_, ?_, .inl ⟨_, _, by decide, .inr empty, rfl⟩⟩
    simp only [record_allocs, sys_allocs]
  · refine .inr ⟨_, ?_, .inr ⟨_, Nat.pos_of_ne_zero empty, rfl⟩⟩
    simp only [sys_allocs]

/-- What `gpio_init` can do: what its start can, and when the chip has lines,
allocate the tables. -/
theorem gpioInit_cases (chipname : Bool) (s : GpioState) :
    gpioInit chipname s = (gpioErrorInvalidArg, s) ∨
      ∃ platform : Platform, platform.allocs = s.platform.allocs ∧
        ((∃ code maxLines, code ≠ gpioErrorUnknown ∧ (maxLines = s.maxLines ∨ maxLines = 0) ∧
          gpioInit chipname s = (code, { s with chip := false, maxLines, platform })) ∨
        ∃ maxLines, 0 < maxLines ∧
          gpioInit chipname s = allocTables { s with chip := true, maxLines, platform }) := by
  rcases openChip_cases chipname s with
    refused | ⟨platform, allocs, ⟨code, maxLines, known, kept, closed⟩ | ⟨maxLines, positive, opened⟩⟩
  · exact .inl (by rw [gpioInit, refused])
  · exact .inr ⟨platform, allocs, .inl ⟨code, maxLines, known, kept, by rw [gpioInit, closed]⟩⟩
  · exact .inr ⟨platform, allocs, .inr ⟨maxLines, positive, by rw [gpioInit, opened]⟩⟩

theorem gpioInit_frame (chipname : Bool) (s : GpioState) :
    (gpioInit chipname s).2.intrThreadRunning = s.intrThreadRunning ∧
      (gpioInit chipname s).2.thread = s.thread ∧ (gpioInit chipname s).2.pending = s.pending ∧
      (gpioInit chipname s).2.invoked = s.invoked := by
  obtain same | ⟨_, -, ⟨_, _, -, -, closed⟩ | ⟨_, -, opened⟩⟩ := gpioInit_cases chipname s
  · rw [same]
    exact ⟨rfl, rfl, rfl, rfl⟩
  · rw [closed]
    exact ⟨rfl, rfl, rfl, rfl⟩
  · rw [opened]
    obtain ⟨running, thread, pending, invoked, -⟩ := allocTables_frame { s with chip := true, maxLines := _, platform := _ }
    exact ⟨running, thread, pending, invoked⟩

/-- `gpio_init` opens the chip only with all three tables allocated. -/
theorem gpioInit_chipTables (chipname : Bool) {s : GpioState}
    (chipTables : s.chip = true → Tables s) :
    (gpioInit chipname s).2.chip = true → Tables (gpioInit chipname s).2 := by
  obtain same | ⟨_, -, ⟨_, _, -, -, closed⟩ | ⟨_, -, opened⟩⟩ := gpioInit_cases chipname s
  · rw [same]
    exact chipTables
  · rw [closed]
    exact Bool.noConfusion
  · rw [opened]
    exact allocTables_chipTables _

theorem gpioInit_debounceCleared (chipname : Bool) {s : GpioState} (cleared : DebounceCleared s) :
    DebounceCleared (gpioInit chipname s).2 := by
  obtain same | ⟨_, -, ⟨_, _, -, -, closed⟩ | ⟨_, -, opened⟩⟩ := gpioInit_cases chipname s
  · rw [same]
    exact cleared
  · rw [closed]
    exact cleared
  · rw [opened]
    exact allocTables_debounceCleared cleared

/-- With an allocator that grants every request, `gpio_init` leaves the tables
allocated for every line of the chip. -/
theorem gpioInit_allocated (chipname : Bool) {s : GpioState} (allocated : Allocated s)
    (reliable : s.platform.Reliable) :
    Allocated (gpioInit chipname s).2 ∧ (gpioInit chipname s).2.platform.Reliable := by
  obtain same | ⟨_, allocs, ⟨_, _, -, empty | empty, closed⟩ | ⟨_, -, opened⟩⟩ :=
    gpioInit_cases chipname s
  · rw [same]
    exact ⟨allocated, reliable⟩
  · rw [closed, empty]
    exact ⟨allocated, reliable.of_allocs allocs⟩
  · rw [closed, empty]
    exact ⟨fun positive => absurd positive (Nat.lt_irrefl 0), reliable.of_allocs allocs⟩
  · rw [opened]
    exact allocTables_allocated _ (reliable.of_allocs allocs)

/-- The release loop changes the entries of the line table and the platform,
whose allocator script it does not consume, and nothing else. -/
theorem releaseLines_frame : ∀ {indices : List Nat} {s s' : GpioState},
    releaseLines indices s = .ok s' →
      ∃ lines, ∃ platform : Platform, platform.allocs = s.platform.allocs ∧ s' = { s with lines, platform }
  | [], s, _, h => by
    cases h
    exact ⟨s.lines, s.platform, rfl, rfl⟩
  | i :: rest, s, _, h => by
    obtain ⟨held, -, h⟩ := bind_eq_ok.mp h
    split at h
    · obtain ⟨lines, -, h⟩ := bind_eq_ok.mp h
      obtain ⟨lines', platform, allocs, rfl⟩ := releaseLines_frame h
      exact ⟨lines', platform, allocs, rfl⟩
    · exact releaseLines_frame h

theorem releaseLines_ok {count : Nat} : ∀ (indices : List Nat) {s : GpioState},
    s.lines.map List.length = some count → (∀ i ∈ indices, i < count) →
      ∃ s', releaseLines indices s = .ok s'
  | [], s, _, _ => ⟨s, rfl⟩
  | i :: rest, s, sized, inRange => by
    have inRange' := inRange i (List.mem_cons_self _ _)
    obtain ⟨held, read⟩ := readAt_ok sized inRange'
    simp only [releaseLines, read]
    cases held
    · exact releaseLines_ok rest sized fun j member => inRange j (List.mem_cons_of_mem _ member)
    · simp only [if_true, writeAt_ok sized inRange']
      exact releaseLines_ok rest (by simpa using sized)
        fun j member => inRange j (List.mem_cons_of_mem _ member)

theorem freeLines_eq {s s' : GpioState} (h : freeLines s = .ok s') :
    ∃ platform : Platform, platform.allocs = s.platform.allocs ∧
      s' = { s with lines := none, platform } := by
  unfold freeLines at h
  split at h
  · cases h
    exact ⟨s.platform, rfl, by rw [← ‹s.lines = none›]⟩
  · obtain ⟨s₁, released, h⟩ := bind_eq_ok.mp h
    cases h
    obtain ⟨lines, platform, allocs, rfl⟩ := releaseLines_frame released
    exact ⟨record .free platform, allocs, rfl⟩

theorem freeResources_eq (s : GpioState) :
    ∃ platform : Platform, platform.allocs = s.platform.allocs ∧
      freeResources s =
        { s with chip := false, maxLines := 0, callbacks := none, debounceInfo := none, platform } := by
  obtain ⟨chip, lines, maxLines, callbacks, running, debounceInfo, thread, pending, invoked, platform⟩ := s
  cases chip <;> cases callbacks <;> cases debounceInfo <;> exact ⟨_, by rfl, rfl⟩

/-- After the join, `gpio_cleanup` leaves no chip, no tables and no line. -/
theorem cleanupFree_eq {s s' : GpioState} (h : cleanupFree s = .ok s') :
    ∃ platform : Platform, platform.allocs = s.platform.allocs ∧
      s' = { s with
              chip := false, lines := none, maxLines := 0, callbacks := none, debounceInfo := none
              platform } := by
  obtain ⟨s₁, freed, h⟩ := bind_eq_ok.mp h
  cases h
  obtain ⟨platform₁, allocs₁, rfl⟩ := freeLines_eq freed
  obtain ⟨platform₂, allocs₂, freedAll⟩ := freeResources_eq { s with lines := none, platform := platform₁ }
  exact ⟨platform₂, allocs₂.trans allocs₁, freedAll⟩

/-- `gpio_cleanup` leaves the API as it was before `gpio_init`: no chip, no
tables, no line, and no thread. -/
theorem gpioCleanup_eq {s s' : GpioState} (h : gpioCleanup s = .ok s') :
    ∃ platform : Platform, platform.allocs = s.platform.allocs ∧
      s' = { s with
              chip := false, lines := none, maxLines := 0, callbacks := none, debounceInfo := none
              intrThreadRunning := false, thread := if s.intrThreadRunning then .idle else s.thread
              platform } := by
  obtain ⟨platform, allocs, rfl⟩ := cleanupFree_eq h
  obtain ⟨chip, lines, maxLines, callbacks, running, debounceInfo, thread, pending, invoked, platform₀⟩ := s
  cases running
  · exact ⟨platform, allocs, rfl⟩
  · exact ⟨platform, allocs, rfl⟩

/-- With the debounce records all without a time, the filter lets every event
through and reads no clock. -/
theorem debounceEvent_of_cleared {lineNum : Nat} {s : GpioState} (tables : Tables s)
    (cleared : DebounceCleared s) (inRange : lineNum < s.maxLines) :
    debounceEvent lineNum s = .ok (true, s) := by
  obtain ⟨records, same, -⟩ := Option.map_eq_some'.mp tables.2.2
  obtain ⟨info, read⟩ := readAt_ok tables.2.2 inRange
  have noTime := cleared records same info (readAt_mem (same ▸ read))
  unfold debounceEvent
  rw [read, ok_bind, if_neg (by rw [noTime]; decide)]
  rfl

theorem allocTables_linesCover (s : GpioState) :
    ∀ lines, (allocTables s).2.lines = some lines → (allocTables s).2.maxLines ≤ lines.length := by
  obtain ⟨_, done | ⟨_, _, -, -, failed⟩⟩ := allocTables_cases s
  · rw [done]
    rintro lines ⟨⟩
    simp
  · rw [failed]
    exact fun _ => Option.noConfusion

/-- A line table that is not `NULL` has an entry for every line. -/
theorem gpioInit_linesCover (chipname : Bool) {s : GpioState}
    (cover : ∀ lines, s.lines = some lines → s.maxLines ≤ lines.length) :
    ∀ lines, (gpioInit chipname s).2.lines = some lines →
      (gpioInit chipname s).2.maxLines ≤ lines.length := by
  obtain same | ⟨_, -, ⟨_, _, -, kept | empty, closed⟩ | ⟨_, -, opened⟩⟩ := gpioInit_cases chipname s
  · rw [same]
    exact cover
  · rw [closed, kept]
    exact cover
  · rw [closed, empty]
    exact fun _ _ => Nat.zero_le _
  · rw [opened]
    exact allocTables_linesCover _

@[simp]
theorem stopIntrThread_lines (s : GpioState) : (stopIntrThread s).lines = s.lines := by
  unfold stopIntrThread
  split <;> rfl

@[simp]
theorem stopIntrThread_maxLines (s : GpioState) : (stopIntrThread s).maxLines = s.maxLines := by
  unfold stopIntrThread
  split <;> rfl

theorem freeLines_ok {s : GpioState}
    (cover : ∀ lines, s.lines = some lines → s.maxLines ≤ lines.length) :
    ∃ s', freeLines s = .ok s' := by
  unfold freeLines
  split
  · exact ⟨_, rfl⟩
  · rename_i lines same
    obtain ⟨s', released⟩ := releaseLines_ok (List.range s.maxLines) (by rw [same]; rfl)
      fun i member => Nat.lt_of_lt_of_le (List.mem_range.mp member) (cover lines same)
    rw [released]
    exact ⟨_, rfl⟩

theorem cleanupFree_ok {s : GpioState}
    (cover : ∀ lines, s.lines = some lines → s.maxLines ≤ lines.length) :
    ∃ s', cleanupFree s = .ok s' :=
  bind_ok_of_ok (freeLines_ok cover) fun _ => ⟨_, rfl⟩

/-- `gpio_cleanup` cannot fault while the line table has an entry for every
line. -/
theorem gpioCleanup_ok {s : GpioState}
    (cover : ∀ lines, s.lines = some lines → s.maxLines ≤ lines.length) :
    ∃ s', gpioCleanup s = .ok s' :=
  cleanupFree_ok (by simpa only [stopIntrThread_lines, stopIntrThread_maxLines] using cover)

/-! ## The bulk operations -/

theorem gpioBulkSetDirections_ok {lineNums : List Nat} {count : Nat} (direction : Nat)
    {s : GpioState} (sized : count ≤ lineNums.length) (chipTables : s.chip = true → Tables s) :
    ∃ r, gpioBulkSetDirections lineNums count direction s = .ok r := by
  unfold gpioBulkSetDirections
  split
  · exact ⟨_, rfl⟩
  refine bulkLoop_ok LinesStep (fun a b => a.trans b) (fun done => ?_) s _ _ s (.refl s)
    fun i member st step => ?_
  · obtain ⟨lineNum, -, done⟩ := bind_eq_ok.mp done
    exact gpioSetDirection_linesStep done
  · obtain ⟨lineNum, read⟩ := readAt_some_ok
      (Nat.lt_of_lt_of_le (List.mem_range.mp member) sized)
    rw [read, ok_bind]
    exact requestLine_ok lineNum _ fun chip _ => step.chipTables chipTables chip

theorem gpioBulkSetLevels_ok {lineNums : List Nat} {count : Nat} {levels : List Int}
    {s : GpioState} (sized : count ≤ lineNums.length ∧ count ≤ levels.length)
    (chipTables : s.chip = true → Tables s) :
    ∃ r, gpioBulkSetLevels lineNums count levels s = .ok r := by
  unfold gpioBulkSetLevels
  split
  · exact ⟨_, rfl⟩
  refine bulkLoop_ok LinesStep (fun a b => a.trans b) (fun done => ?_) s _ _ s (.refl s)
    fun i member st step => ?_
  · obtain ⟨lineNum, -, done⟩ := bind_eq_ok.mp done
    obtain ⟨level, -, done⟩ := bind_eq_ok.mp done
    exact gpioSetLevel_linesStep done
  · have inRange := List.mem_range.mp member
    obtain ⟨lineNum, readLine⟩ := readAt_some_ok
      (Nat.lt_of_lt_of_le inRange sized.1)
    obtain ⟨level, readLevel⟩ := readAt_some_ok
      (Nat.lt_of_lt_of_le inRange sized.2)
    rw [readLine, ok_bind, readLevel, ok_bind]
    exact gpioSetLevel_ok lineNum level fun chip _ => step.chipTables chipTables chip

theorem gpioBulkGetLevels_ok {lineNums : List Nat} {count : Nat} {levels : List Int}
    {s : GpioState} (sized : count ≤ lineNums.length ∧ count ≤ levels.length)
    (chipTables : s.chip = true → Tables s) :
    ∃ r, gpioBulkGetLevels lineNums count levels s = .ok r := by
  unfold gpioBulkGetLevels
  split
  · exact ⟨_, rfl⟩
  refine bulkLoop_ok LevelsStep LevelsStep.trans (fun done => bulkGetLevelsOp_levelsStep done)
    (levels, s) _ _ _ ⟨.refl s, rfl⟩ fun i member st step => ?_
  obtain ⟨current, st⟩ := st
  have inRange := List.mem_range.mp member
  obtain ⟨lineNum, read⟩ := readAt_some_ok
    (Nat.lt_of_lt_of_le inRange sized.1)
  obtain ⟨⟨⟨code, level⟩, s₁⟩, got⟩ :=
    gpioGetLevel_ok lineNum (s := st) fun chip _ => step.1.chipTables chipTables chip
  simp only [read, got, ok_bind]
  cases level with
  | none => exact ⟨_, rfl⟩
  | some value =>
    have fits : i < current.length := by
      have same : current.length = levels.length := step.2
      omega
    simp only [writeEntry, if_pos fits, ok_bind]
    exact ⟨_, rfl⟩

/-- The codes of an operation applied to each index in turn, each from the
state the previous one left. -/
def eachCode {σ : Type} (op : Nat → σ → Except GpioFault (Nat × σ)) :
    List Nat → σ → Except GpioFault (List Nat × σ)
  | [], st => .ok ([], st)
  | i :: rest, st => do
    let (code, st) ← op i st
    let (codes, st) ← eachCode op rest st
    return (code :: codes, st)

/-- The last of a list of codes that is not `GPIO_SUCCESS`, or a default. -/
def lastFailure (default : Nat) (codes : List Nat) : Nat :=
  ((codes.filter (· ≠ gpioSuccess)).getLast?).getD default

theorem lastFailure_cons (default code : Nat) (codes : List Nat) :
    lastFailure default (code :: codes) =
      lastFailure (if code ≠ gpioSuccess then code else default) codes := by
  unfold lastFailure
  by_cases failed : code ≠ gpioSuccess
  · rw [List.filter_cons_of_pos (by simpa using failed), List.getLast?_cons, if_pos failed]
    rfl
  · rw [List.filter_cons_of_neg (by simpa using failed), if_neg failed]

/-- The loop of the bulk operations applies the operation to every index,
whatever the earlier ones returned, and returns the code of the last one that
failed, or its initial code if none did. -/
theorem bulkLoop_eq_lastFailure {σ : Type} (op : Nat → σ → Except GpioFault (Nat × σ)) :
    ∀ (indices : List Nat) (ret : Nat) (st : σ),
      bulkLoop op indices ret st =
        (fun result => (lastFailure ret result.1, result.2)) <$> eachCode op indices st
  | [], ret, st => rfl
  | i :: rest, ret, st => by
    simp only [bulkLoop, eachCode]
    cases op i st with
    | error fault => rfl
    | ok result =>
      obtain ⟨code, st₁⟩ := result
      simp only [ok_bind]
      rw [bulkLoop_eq_lastFailure op rest]
      cases eachCode op rest st₁ with
      | error fault => rfl
      | ok result =>
        obtain ⟨codes, st₂⟩ := result
        exact congrArg Except.ok (Prod.ext (lastFailure_cons ret code codes).symm rfl)

end LoraFwd.Gpio
