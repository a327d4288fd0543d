import LoraFwd.Gpio.Races
import LoraFwd.Sx126x.Hal

/-!
# The board: the HAL over the GPIO driver

The radio driver reaches the board through `sx126x_hal.c`; the GPIO API is
called from the same thread, and the GPIO driver's interrupt thread runs beside
it.  `Hal` has the functions of the HAL as the source writes them, each in one
piece.  Here a function of the HAL is a machine that makes one call of the GPIO
API per step (`halStep`), with what lies between that call and the next (the
sleeps, the SPI transfers), so that a step of the interrupt thread can fall
between any two of its calls; the busy wait is a loop of such steps and needs
no bound.  Run alone, the machine gives what the function gives
(`halRun_exec`).

A step of the board calls a function of the HAL, lets the one under way make
its next call of the GPIO API, or is a step of the GPIO model: a call of the
API, the call under way taken up again, or a step of the interrupt thread.  One
thread calls both the HAL and the API, so no call of the API is made while a
function of the HAL is under way, and no function of the HAL is called while
`gpio_init` or `gpio_cleanup` is; such a step changes nothing.

Each step of the HAL's machine changes the GPIO driver's state by a lines step,
as the calls of `gpio_set_level` and `gpio_get_level` it makes do, so the
invariants of the GPIO runs hold along the board's runs.  The main theorem
(`disciplined_board_never_faults`): from power-up, on an allocator that never
fails, no run of the board faults in which the GPIO steps keep the rules of the
interrupt thread, whatever the device and the platform answer.
-/

namespace LoraFwd.Sx126x

open LoraFwd.Gpio

/-! ## The HAL one GPIO call at a time -/

/-- The transfers a write or a read makes while the chip is selected, with what
the uninitialised local of each `spi_transfer` holds. -/
inductive HalTransfer
  | write (dataIn : Nat → UInt8) (command data : List UInt8)
  | read (dataIn : Nat → UInt8) (command : List UInt8) (dataLength : Nat)

/-- The bytes the transfers read, and the device after them. -/
def HalTransfer.exec : HalTransfer → SpiDevice → List UInt8 × SpiDevice
  | .write dataIn command data, spi =>
    ([], spiWriteBytes (fun k => dataIn (k + command.length)) data (spiWriteBytes dataIn command spi))
  | .read dataIn command dataLength, spi =>
    spiReadBytes (fun k => dataIn (k + command.length)) dataLength (spiWriteBytes dataIn command spi)

/-- Where a function of the HAL stands: before which of its calls of the GPIO
API, with what it has computed so far.  A write or a read is in its busy wait
with `gpio_state` as it holds, then before it selects the chip, then, the
transfers made, before it deselects it. -/
inductive HalAt
  | resetLow
  | resetHigh
  | wakeupLow
  | wakeupHigh
  | busy (gpioState : Int) (transfer : HalTransfer)
  | select (transfer : HalTransfer)
  | deselect (received : List UInt8)

/-- A call of a function of the HAL, with what `gpio_state` holds before the
busy wait's first round and what the locals of its transfers hold. -/
inductive HalCall
  | reset
  | wakeup
  | write (gpioState : Int) (dataIn : Nat → UInt8) (command data : List UInt8)
  | read (gpioState : Int) (dataIn : Nat → UInt8) (command : List UInt8) (dataLength : Nat)

/-- Where a call starts. -/
def HalCall.start : HalCall → HalAt
  | .reset => .resetLow
  | .wakeup => .wakeupLow
  | .write gpioState dataIn command data => .busy gpioState (.write dataIn command data)
  | .read gpioState dataIn command dataLength => .busy gpioState (.read dataIn command dataLength)

/-- The function's next call of the GPIO API and what follows it up to the
call after: where the function then stands, or, when it returns, the bytes it
has read. -/
def halStep (context : RadioContext) : HalAt → Board → Except GpioFault ((HalAt ⊕ List UInt8) × Board)
  | .resetLow, b => do
    let b ← setLevel context.gpioRst 0 b
    return (.inl .resetHigh, sleepMs 5 b)
  | .resetHigh, b => do
    let b ← setLevel context.gpioRst 1 b
    return (.inr [], sleepMs 5 b)
  | .wakeupLow, b => do
    let b ← setLevel context.spiNss 0 b
    return (.inl .wakeupHigh, sleepMs 1 b)
  | .wakeupHigh, b => do
    let b ← setLevel context.spiNss 1 b
    return (.inr [], b)
  | .busy gpioState transfer, b => do
    let ((_, level), gpio) ← gpioGetLevel context.gpioBusy b.gpio
    let gpioState := level.getD gpioState
    return (.inl (if gpioState = 1 then .busy gpioState transfer else .select transfer),
      sleepMs 1 { b with gpio })
  | .select transfer, b => do
    let b ← setLevel context.spiNss 0 b
    let (received, spi) := transfer.exec b.spi
    return (.inl (.deselect received), { b with spi })
  | .deselect received, b => do
    let b ← setLevel context.spiNss 1 b
    return (.inr received, b)

/-! ## Run alone, the machine is the function -/

/-- The function of `Hal` a call makes, its busy wait given `fuel` rounds: the
bytes it has read and the board when it returns, `none` when the rounds run
out. -/
def HalCall.exec (context : RadioContext) (fuel : Nat) : HalCall → Board →
    Except GpioFault (Option (List UInt8 × Board))
  | .reset, b => do
    let (_, b) ← sx126xHalReset context b
    return some ([], b)
  | .wakeup, b => do
    let (_, b) ← sx126xHalWakeup context b
    return some ([], b)
  | .write gpioState dataIn command data, b => do
    let written ← sx126xHalWrite context fuel gpioState dataIn command data b
    return written.map fun (_, b) => ([], b)
  | .read gpioState dataIn command dataLength, b => do
    let read ← sx126xHalRead context fuel gpioState dataIn command dataLength b
    return read.map fun ((_, received), b) => (received, b)

/-- The machine run alone for at most `fuel` steps from where it stands: what
the function returns and the board then, `none` when the steps run out. -/
def halRun (context : RadioContext) : Nat → HalAt → Board → Except GpioFault (Option (List UInt8 × Board))
  | 0, _, _ => .ok none
  | fuel + 1, here, b => do
    match ← halStep context here b with
    | (.inl next, b) => halRun context fuel next b
    | (.inr received, b) => return some (received, b)

theorem returned_ne_none {α : Type} {value : α} : (Except.ok (some value) : Except GpioFault (Option α)) ≠ .ok none :=
  fun same => Option.noConfusion (Except.ok.inj same)

/-- A run that has returned or faulted gives the same with more steps. -/
theorem halRun_more (context : RadioContext) : ∀ (fuel more : Nat) (here : HalAt) (b : Board),
    halRun context fuel here b ≠ .ok none → halRun context (fuel + more) here b = halRun context fuel here b
  | 0, _, _, _, ended => absurd rfl ended
  | fuel + 1, more, here, b, ended => by
    rw [Nat.add_right_comm]
    simp only [halRun] at ended ⊢
    rcases stepped : halStep context here b with fault | ⟨next | received, b'⟩
    · rfl
    · rw [stepped] at ended
      exact halRun_more context fuel more next b' ended
    · rfl

/-- The selection, the transfers and the deselection, run alone. -/
theorem halRun_select (context : RadioContext) (transfer : HalTransfer) (b : Board) :
    halRun context 2 (.select transfer) b = (do
      let selected ← setLevel context.spiNss 0 b
      let deselected ← setLevel context.spiNss 1 { selected with spi := (transfer.exec selected.spi).2 }
      return some ((transfer.exec selected.spi).1, deselected)) := by
  simp only [halRun, halStep, bind_assoc, pure_bind]

theorem halRun_select_ended (context : RadioContext) (transfer : HalTransfer) (b : Board) :
    halRun context 2 (.select transfer) b ≠ .ok none := by
  rw [halRun_select]
  intro returned
  obtain ⟨selected, -, returned⟩ := bind_eq_ok.mp returned
  obtain ⟨deselected, -, returned⟩ := bind_eq_ok.mp returned
  exact Option.noConfusion (Except.ok.inj returned)

/-- Each round of the busy wait is a step of the machine; when the wait ends,
the selection and the transfers follow. -/
theorem halRun_busy (context : RadioContext) (transfer : HalTransfer) :
    ∀ (fuel : Nat) (gpioState : Int) (b : Board), sx126xHalWaitOnBusy context fuel gpioState b ≠ .ok none →
      halRun context (fuel + 2) (.busy gpioState transfer) b = (do
        match ← sx126xHalWaitOnBusy context fuel gpioState b with
        | none => return none
        | some b => halRun context 2 (.select transfer) b)
  | 0, _, _, ended => absurd rfl ended
  | fuel + 1, gpioState, b, ended => by
    show halRun context (fuel + 2 + 1) _ _ = _
    rw [halRun]
    simp only [halStep, sx126xHalWaitOnBusy] at ended ⊢
    rcases got : gpioGetLevel context.gpioBusy b.gpio with fault | ⟨⟨code, level⟩, gpio⟩
    · rfl
    · simp only [got, ok_bind, pure_bind] at ended ⊢
      split_ifs with held
      · exact halRun_busy context transfer fuel _ _ (by rwa [if_pos held] at ended)
      · rw [Nat.add_comm, halRun_more context 2 fuel _ _ (halRun_select_ended context transfer _)]
        rfl

/-- Run alone, the machine of a call gives what the function of `Hal` gives,
whenever that function returns or faults within its rounds of the busy wait:
two steps beyond those rounds are enough. -/
theorem halRun_exec (context : RadioContext) (call : HalCall) (fuel : Nat) (b : Board)
    (ended : call.exec context fuel b ≠ .ok none) :
    halRun context (fuel + 2) call.start b = call.exec context fuel b := by
  have within {here : HalAt} (two : halRun context 2 here b = call.exec context fuel b) :
      halRun context (fuel + 2) here b = call.exec context fuel b := by
    rw [Nat.add_comm, halRun_more context 2 fuel here b (two ▸ ended), two]
  cases call
  case reset =>
    refine within ?_
    simp only [halRun, halStep, HalCall.start, HalCall.exec, sx126xHalReset, bind_assoc, pure_bind]
  case wakeup =>
    refine within ?_
    simp only [halRun, halStep, HalCall.start, HalCall.exec, sx126xHalWakeup, bind_assoc, pure_bind]
  all_goals
    rename_i gpioState _ _ _
    simp only [HalCall.start, HalCall.exec, sx126xHalWrite, sx126xHalRead] at ended ⊢
    rcases waited : sx126xHalWaitOnBusy context fuel gpioState b with fault | _ | b₁
    · rw [halRun_busy context _ fuel gpioState b (by rw [waited]; exact Except.noConfusion), waited]
      rfl
    · rw [waited] at ended
      exact absurd rfl ended
    · rw [halRun_busy context _ fuel gpioState b (by rw [waited]; exact returned_ne_none), waited]
      simp only [ok_bind, halRun_select, HalTransfer.exec, bind_assoc, pure_bind, Option.map_some']

/-! ## What a step of the machine does to the GPIO driver -/

theorem setLevel_linesStep {line : Nat} {level : Int} {b b' : Board} (h : setLevel line level b = .ok b') :
    LinesStep b.gpio b'.gpio := by
  obtain ⟨gpio, step, rfl⟩ := setLevel_eq h
  exact step

/-- A step of the machine changes the GPIO driver's state by a lines step. -/
theorem halStep_linesStep {context : RadioContext} {here : HalAt} {b b' : Board}
    {next : HalAt ⊕ List UInt8} (h : halStep context here b = .ok (next, b')) : LinesStep b.gpio b'.gpio := by
  cases here with
  | busy gpioState transfer =>
    obtain ⟨⟨⟨code, level⟩, gpio⟩, got, h⟩ := bind_eq_ok.mp h
    cases h
    simpa using gpioGetLevel_linesStep got
  | select transfer =>
    obtain ⟨b₁, selected, h⟩ := bind_eq_ok.mp h
    cases h
    exact (setLevel_linesStep selected :)
  | _ =>
    obtain ⟨b₁, set, h⟩ := bind_eq_ok.mp h
    cases h
    simpa using setLevel_linesStep set

theorem halStep_ok (context : RadioContext) (here : HalAt) {b : Board} (tables : TablesInv b.gpio) :
    ∃ r, halStep context here b = .ok r := by
  cases here with
  | busy gpioState transfer =>
    exact bind_ok_of_ok (gpioGetLevel_ok context.gpioBusy fun chip _ => tables.chipTables chip)
      fun _ => ⟨_, rfl⟩
  | _ => exact bind_ok_of_ok (setLevel_ok _ _ tables) fun _ => ⟨_, rfl⟩

/-! ## Runs of the board -/

/-- The board, and where the function of the HAL under way stands, if one
is. -/
structure BoardState where
  board : Board
  hal : Option HalAt

/-- Power-up: the static variables of the GPIO API at their initial values,
nothing slept, and no function of the HAL under way. -/
def BoardState.init (platform : Platform) (spi : SpiDevice) : BoardState :=
  ⟨⟨GpioState.init platform, spi, 0⟩, none⟩

/-- A step of the board: a call of a function of the HAL, the next call of the
GPIO API of the one under way, or a step of the GPIO model. -/
inductive BoardStep
  | hal (call : HalCall)
  | halNext
  | gpio (step : GpioStep)

/-- A step.  The caller makes no call while another is under way, so such a
step changes nothing; a function of the HAL that returns hands what it has
read to the radio driver. -/
def BoardStep.exec (context : RadioContext) : BoardStep → BoardState → Except GpioFault BoardState
  | .hal call, s =>
    .ok (if s.hal.isSome || s.board.gpio.pending.isSome then s else { s with hal := some call.start })
  | .halNext, s =>
    match s.hal with
    | none => .ok s
    | some here => do
      let (next, board) ← halStep context here s.board
      return ⟨board, next.elim some fun _ => none⟩
  | .gpio step, s =>
    if s.hal.isSome && step.byCaller then .ok s
    else do
      let gpio ← step.exec s.board.gpio
      return { s with board := { s.board with gpio } }

def BoardStep.sized : BoardStep → Bool
  | .gpio step => step.sized
  | _ => true

/-- The rules of the interrupt thread, for the steps of the GPIO model. -/
def BoardStep.disciplined (s : BoardState) : BoardStep → Bool
  | .gpio step => step.disciplined s.board.gpio
  | _ => true

/-- The steps in turn; a fault ends the run. -/
def boardRun (context : RadioContext) : List BoardStep → BoardState → Except GpioFault BoardState
  | [], s => .ok s
  | step :: rest, s => do
    let s ← step.exec context s
    boardRun context rest s

/-- A run in which every step keeps the rules in the state it is made in. -/
def boardDisciplined (context : RadioContext) : List BoardStep → BoardState → Bool
  | [], _ => true
  | step :: rest, s =>
    step.disciplined s &&
      match step.exec context s with
      | .ok s' => boardDisciplined context rest s'
      | .error _ => true

/-- What a step of the board can do: nothing; call a function of the HAL when
no call of the API is under way; a lines step of the function under way; or a
step of the GPIO model, by the thread or while no function of the HAL is under
way. -/
inductive BoardEffect (s : BoardState) : BoardStep → BoardState → Prop
  | stutter {step : BoardStep} : BoardEffect s step s
  | call {call : HalCall} (idle : s.board.gpio.pending = none) :
      BoardEffect s (.hal call) { s with hal := some call.start }
  | hal {board : Board} {hal : Option HalAt} (under : s.hal.isSome = true)
      (step : LinesStep s.board.gpio board.gpio) : BoardEffect s .halNext ⟨board, hal⟩
  | gpio {step : GpioStep} {gpio : GpioState} (byThread : s.hal.isSome = true → step = .thread)
      (stepped : step.exec s.board.gpio = .ok gpio) :
      BoardEffect s (.gpio step) { s with board := { s.board with gpio } }

theorem BoardStep.exec_effect {context : RadioContext} {step : BoardStep} {s s' : BoardState}
    (h : step.exec context s = .ok s') : BoardEffect s step s' := by
  cases step with
  | hal call =>
    cases h
    split_ifs with busy
    · exact .stutter
    · exact .call (Option.not_isSome_iff_eq_none.mp fun pending => busy (by rw [pending, Bool.or_true]))
  | halNext =>
    simp only [BoardStep.exec] at h
    split at h
    · cases h
      exact .stutter
    · rename_i here under
      obtain ⟨⟨next, board⟩, stepped, h⟩ := bind_eq_ok.mp h
      cases h
      exact .hal (by rw [under]; rfl) (halStep_linesStep stepped)
  | gpio step =>
    simp only [BoardStep.exec] at h
    split_ifs at h with waits
    · cases h
      exact .stutter
    · obtain ⟨gpio, stepped, h⟩ := bind_eq_ok.mp h
      cases h
      refine .gpio (fun under => ?_) stepped
      cases step <;> simp_all [GpioStep.byCaller]

/-! ## The invariant of every state of a run -/

/-- What every state of a run of the board satisfies: the invariant of the
GPIO runs, and no call of the API under way while a function of the HAL is. -/
structure BoardInv (s : BoardState) : Prop where
  gpio : GpioInv s.board.gpio
  exclusive : s.hal.isSome = true → s.board.gpio.pending = none

theorem BoardInv.initial (platform : Platform) (spi : SpiDevice) : BoardInv (BoardState.init platform spi) :=
  ⟨GpioInv.initial platform, nofun⟩

/-- A step of the thread leaves the call under way as it is. -/
theorem threadStep_pending {s s' : GpioState} (h : GpioStep.thread.exec s = .ok s') : s'.pending = s.pending := by
  obtain ⟨thread, invoked, platform, -, rfl⟩ := intrThreadStep_eq h
  rfl

theorem BoardInv.effect {s s' : BoardState} {step : BoardStep} (inv : BoardInv s)
    (effect : BoardEffect s step s') : BoardInv s' := by
  cases effect with
  | stutter => exact inv
  | call idle => exact ⟨inv.gpio, fun _ => idle⟩
  | hal under step =>
    have idle := inv.exclusive under
    refine ⟨inv.gpio.linesStep idle step, fun _ => ?_⟩
    obtain ⟨lines, platform, same, -⟩ := step
    rw [same]
    exact idle
  | gpio byThread stepped =>
    refine ⟨inv.gpio.exec stepped, fun under => ?_⟩
    cases byThread under
    exact (threadStep_pending stepped).trans (inv.exclusive under)

/-- On an allocator that never fails, a step that keeps the rules keeps the
invariant of disciplined GPIO runs. -/
theorem BoardEffect.safe {s s' : BoardState} {step : BoardStep} (effect : BoardEffect s step s')
    (safe : SafeInv s.board.gpio) (inv : BoardInv s) (obeyed : step.disciplined s = true) :
    SafeInv s'.board.gpio := by
  cases effect with
  | stutter => exact safe
  | call _ => exact safe
  | hal _ step => exact safe.linesStep step
  | gpio _ stepped => exact safe.exec inv.gpio obeyed stepped

/-! ## No run that keeps the rules faults -/

theorem BoardStep.exec_ok (context : RadioContext) (step : BoardStep) {s : BoardState} (inv : BoardInv s)
    (safe : SafeInv s.board.gpio) (sized : step.sized = true) : ∃ s', step.exec context s = .ok s' := by
  cases step with
  | hal call => exact ⟨_, rfl⟩
  | halNext =>
    simp only [BoardStep.exec]
    split
    · exact ⟨_, rfl⟩
    · rename_i here under
      have tables := inv.gpio.tablesInv (inv.exclusive (by rw [under]; rfl))
      exact bind_ok_of_ok (halStep_ok context here tables) fun _ => ⟨_, rfl⟩
  | gpio step =>
    simp only [BoardStep.exec]
    split_ifs
    · exact ⟨_, rfl⟩
    · exact bind_ok_of_ok (step.exec_ok inv.gpio safe sized) fun _ => ⟨_, rfl⟩

theorem boardRun_ok (context : RadioContext) : ∀ (steps : List BoardStep) {s : BoardState}, BoardInv s →
    SafeInv s.board.gpio → (∀ step ∈ steps, step.sized = true) → boardDisciplined context steps s = true →
      ∃ s', boardRun context steps s = .ok s'
  | [], s, _, _, _, _ => ⟨s, rfl⟩
  | step :: rest, s, inv, safe, sized, obeyed => by
    obtain ⟨s₁, stepped⟩ := step.exec_ok context inv safe (sized step (List.mem_cons_self _ _))
    simp only [boardDisciplined, stepped, Bool.and_eq_true] at obeyed
    simp only [boardRun, stepped, ok_bind]
    have effect := BoardStep.exec_effect stepped
    exact boardRun_ok context rest (inv.effect effect) (effect.safe safe inv obeyed.1)
      (fun other member => sized other (List.mem_cons_of_mem _ member)) obeyed.2

/-- From power-up, on an allocator that never fails, no run of the board
faults in which the steps of the GPIO model keep the rules of the interrupt
thread, whatever the device and the platform answer, wherever the thread's
steps fall between the calls of the GPIO API that the HAL's functions make, as
long as the arrays of the bulk calls hold their counts. -/
theorem disciplined_board_never_faults (context : RadioContext) (platform : Platform)
    (reliable : platform.Reliable) (spi : SpiDevice) (steps : List BoardStep)
    (sized : ∀ step ∈ steps, step.sized = true)
    (obeyed : boardDisciplined context steps (BoardState.init platform spi) = true) :
    ∃ s, boardRun context steps (BoardState.init platform spi) = .ok s :=
  boardRun_ok context steps (BoardInv.initial platform spi) (SafeInv.initial reliable) sized obeyed

/-- The scenario of the races, then a write of one command byte and one data
byte whose calls of the GPIO API the thread's last two steps of its dispatch
fall between. -/
def boardSteps : List BoardStep :=
  raceSteps.map .gpio ++ [.hal (.write 0 (fun _ => 0) [0x80] [0x01]), .halNext, .gpio .thread, .halNext,
    .gpio .thread, .halNext]

theorem board_run_never_faults :
    ∃ s, boardRun benchContext boardSteps (BoardState.init racePlatform benchBoard.spi) = .ok s :=
  disciplined_board_never_faults benchContext racePlatform nofun benchBoard.spi boardSteps (by decide) rfl

end LoraFwd.Sx126x
