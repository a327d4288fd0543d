import LoraFwd.Sx126x.Spi
import LoraFwd.Gpio.Lifecycle

/-!
# The SX126x board HAL

`sx126x_hal.c`: the functions through which the SX126x driver reaches the
radio.  The reset, chip-select and busy pins are GPIO lines driven through the
GPIO API (`LoraFwd.Gpio`), commands go over the spidev device
(`LoraFwd.Sx126x.Spi`), and `sleep_ms` is modelled by the time it sleeps.

Every function ignores the codes `gpio_set_level` and `gpio_get_level` return,
and returns `SX126X_HAL_STATUS_OK`.  The busy wait tests `gpio_state` whether
`gpio_get_level` wrote it or not.  Before `gpio_init` it never does: the wait
then ends after one round or never, as the uninitialised variable holds or
does not hold 1.

The main results: on a reachable state of the GPIO API no function of the HAL
faults; a write hands the kernel the command and the data one byte per
transfer, in order, and a read returns the bytes the device clocked in; and
before `gpio_init` the busy wait depends on the uninitialised variable alone.
-/

namespace LoraFwd.Sx126x

open LoraFwd.Gpio

/-- `sx126x_hal_status_t` of `sx126x_hal.h`, which is not in the repository. -/
inductive Sx126xHalStatus
  | ok
  | error
deriving DecidableEq, Repr

/-- The fields of `radio_context_t` that `sx126x_hal.c` reads. -/
structure RadioContext where
  spiNss : Nat
  gpioRst : Nat
  gpioBusy : Nat
deriving DecidableEq, Repr

/-- What the HAL acts on: the GPIO API, the spidev device, and the time slept,
in milliseconds. -/
structure Board where
  gpio : GpioState
  spi : SpiDevice
  sleptMs : Nat
deriving DecidableEq, Repr

/-- `sleep_ms`: `clock_nanosleep` for the delay, unless it is at most
0.1 ms. -/
def sleepMs (delayMs : Nat) (b : Board) : Board :=
  if delayMs / 1000 > 0 ∨ delayMs / 1000 = 0 ∧ delayMs % 1000 * 1000000 > 100000 then
    { b with sleptMs := b.sleptMs + delayMs }
  else b

/-- `gpio_set_level(line, level)`, its code ignored. -/
def setLevel (line : Nat) (level : Int) (b : Board) : Except GpioFault Board := do
  let (_, gpio) ← gpioSetLevel line level b.gpio
  return { b with gpio }

/-- `sx126x_hal_reset`: hold the reset pin low for 5 ms, then wait 5 ms. -/
def sx126xHalReset (context : RadioContext) (b : Board) :
    Except GpioFault (Sx126xHalStatus × Board) := do
  let b ← setLevel context.gpioRst 0 b
  let b := sleepMs 5 b
  let b ← setLevel context.gpioRst 1 b
  return (.ok, sleepMs 5 b)

/-- `sx126x_hal_wakeup`: pull the chip select low for 1 ms. -/
def sx126xHalWakeup (context : RadioContext) (b : Board) :
    Except GpioFault (Sx126xHalStatus × Board) := do
  let b ← setLevel context.spiNss 0 b
  let b := sleepMs 1 b
  let b ← setLevel context.spiNss 1 b
  return (.ok, b)

/-- `sx126x_hal_wait_on_busy`, for at most `fuel` rounds: read the busy pin
into `gpio_state`, which keeps its value when `gpio_get_level` fails, sleep
1 ms, and go round again while it holds 1.  `gpioState` is what the variable
holds before the first round, and the result is `none` when the rounds run
out. -/
def sx126xHalWaitOnBusy (context : RadioContext) : Nat → Int → Board → Except GpioFault (Option Board)
  | 0, _, _ => .ok none
  | fuel + 1, gpioState, b => do
    let ((_, level), gpio) ← gpioGetLevel context.gpioBusy b.gpio
    let gpioState := level.getD gpioState
    let b := sleepMs 1 { b with gpio }
    if gpioState = 1 then sx126xHalWaitOnBusy context fuel gpioState b else return some b

/-- `sx126x_hal_write`: wait for the busy pin, select the chip, send the
command and the data, deselect.  `dataIn k` is what the uninitialised local of
the `k`-th `spi_transfer` holds. -/
def sx126xHalWrite (context : RadioContext) (fuel : Nat) (gpioState : Int) (dataIn : Nat → UInt8)
    (command data : List UInt8) (b : Board) : Except GpioFault (Option (Sx126xHalStatus × Board)) := do
  match ← sx126xHalWaitOnBusy context fuel gpioState b with
  | none => return none
  | some b =>
    let b ← setLevel context.spiNss 0 b
    let b := { b with
      spi := spiWriteBytes (fun k => dataIn (k + command.length)) data (spiWriteBytes dataIn command b.spi) }
    let b ← setLevel context.spiNss 1 b
    return some (.ok, b)

/-- `sx126x_hal_read`: wait for the busy pin, select the chip, send the
command, read `dataLength` bytes, deselect. -/
def sx126xHalRead (context : RadioContext) (fuel : Nat) (gpioState : Int) (dataIn : Nat → UInt8)
    (command : List UInt8) (dataLength : Nat) (b : Board) :
    Except GpioFault (Option ((Sx126xHalStatus × List UInt8) × Board)) := do
  match ← sx126xHalWaitOnBusy context fuel gpioState b with
  | none => return none
  | some b =>
    let b ← setLevel context.spiNss 0 b
    let (data, spi) :=
      spiReadBytes (fun k => dataIn (k + command.length)) dataLength (spiWriteBytes dataIn command b.spi)
    let b ← setLevel context.spiNss 1 { b with spi }
    return some ((.ok, data), b)

/-! ## The GPIO side -/

@[simp]
theorem sleepMs_spi (delayMs : Nat) (b : Board) : (sleepMs delayMs b).spi = b.spi := by
  unfold sleepMs
  split <;> rfl

@[simp]
theorem sleepMs_gpio (delayMs : Nat) (b : Board) : (sleepMs delayMs b).gpio = b.gpio := by
  unfold sleepMs
  split <;> rfl

/-- `gpio_set_level` changes the GPIO state by a lines step and nothing
else. -/
theorem setLevel_eq {line : Nat} {level : Int} {b b' : Board} (h : setLevel line level b = .ok b') :
    ∃ gpio, LinesStep b.gpio gpio ∧ b' = { b with gpio } := by
  obtain ⟨⟨code, gpio⟩, set, h⟩ := bind_eq_ok.mp h
  cases h
  exact ⟨gpio, gpioSetLevel_linesStep set, rfl⟩

theorem setLevel_ok (line : Nat) (level : Int) {b : Board} (inv : TablesInv b.gpio) :
    ∃ b', setLevel line level b = .ok b' :=
  bind_ok_of_ok (gpioSetLevel_ok line level fun chip _ => inv.chipTables chip) fun _ => ⟨_, rfl⟩

/-- The busy wait changes the GPIO state by lines steps, and nothing but the
time slept besides. -/
theorem sx126xHalWaitOnBusy_eq (context : RadioContext) : ∀ {fuel : Nat} {gpioState : Int} {b b' : Board},
    sx126xHalWaitOnBusy context fuel gpioState b = .ok (some b') →
      LinesStep b.gpio b'.gpio ∧ b'.spi = b.spi
  | 0, _, _, _, h => by cases h
  | fuel + 1, _, b, _, h => by
    obtain ⟨⟨⟨code, level⟩, gpio⟩, got, h⟩ := bind_eq_ok.mp h
    have step := gpioGetLevel_linesStep got
    dsimp only at h
    split at h
    · obtain ⟨later, spi⟩ := sx126xHalWaitOnBusy_eq context h
      exact ⟨step.trans (by simpa using later), by simpa using spi⟩
    · cases h
      exact ⟨by simpa using step, by simp⟩

theorem sx126xHalWaitOnBusy_ok (context : RadioContext) : ∀ (fuel : Nat) (gpioState : Int) {b : Board},
    TablesInv b.gpio → ∃ r, sx126xHalWaitOnBusy context fuel gpioState b = .ok r
  | 0, _, _, _ => ⟨_, rfl⟩
  | fuel + 1, gpioState, b, inv => by
    obtain ⟨⟨⟨code, level⟩, gpio⟩, got⟩ :=
      gpioGetLevel_ok (s := b.gpio) context.gpioBusy fun chip _ => inv.chipTables chip
    simp only [sx126xHalWaitOnBusy, got, ok_bind]
    split
    · exact sx126xHalWaitOnBusy_ok context fuel _ (by simpa using inv.linesStep (gpioGetLevel_linesStep got))
    · exact ⟨_, rfl⟩

theorem setLevel_inv {line : Nat} {level : Int} {b b' : Board} (inv : TablesInv b.gpio)
    (h : setLevel line level b = .ok b') : TablesInv b'.gpio := by
  obtain ⟨gpio, step, rfl⟩ := setLevel_eq h
  exact inv.linesStep step

theorem setLevel_spi {line : Nat} {level : Int} {b b' : Board} (h : setLevel line level b = .ok b') :
    b'.spi = b.spi := by
  obtain ⟨gpio, -, rfl⟩ := setLevel_eq h
  rfl

/-! ## The HAL does not fault -/

theorem sx126xHalReset_ok (context : RadioContext) {b : Board} (inv : TablesInv b.gpio) :
    ∃ r, sx126xHalReset context b = .ok r := by
  obtain ⟨b₁, low⟩ := setLevel_ok context.gpioRst 0 inv
  obtain ⟨b₂, high⟩ := setLevel_ok context.gpioRst 1 (b := sleepMs 5 b₁) (by simpa using setLevel_inv inv low)
  exact ⟨_, by simp only [sx126xHalReset, low, high, ok_bind]; rfl⟩

theorem sx126xHalWakeup_ok (context : RadioContext) {b : Board} (inv : TablesInv b.gpio) :
    ∃ r, sx126xHalWakeup context b = .ok r := by
  obtain ⟨b₁, low⟩ := setLevel_ok context.spiNss 0 inv
  obtain ⟨b₂, high⟩ := setLevel_ok context.spiNss 1 (b := sleepMs 1 b₁) (by simpa using setLevel_inv inv low)
  exact ⟨_, by simp only [sx126xHalWakeup, low, high, ok_bind]; rfl⟩

/-- After the busy wait, the chip select goes low, the transfers run, and it
goes high again, none of which faults. -/
theorem selected_ok (context : RadioContext) {b : Board} (inv : TablesInv b.gpio)
    (transfer : SpiDevice → SpiDevice) :
    ∃ b', (do
      let b ← setLevel context.spiNss 0 b
      setLevel context.spiNss 1 { b with spi := transfer b.spi }) = Except.ok b' := by
  obtain ⟨b₁, low⟩ := setLevel_ok context.spiNss 0 inv
  have inv₁ : TablesInv b₁.gpio := setLevel_inv inv low
  obtain ⟨b₂, high⟩ := setLevel_ok context.spiNss 1 (b := { b₁ with spi := transfer b₁.spi }) inv₁
  exact ⟨b₂, by rw [low, ok_bind, high]⟩

theorem sx126xHalWrite_ok (context : RadioContext) (fuel : Nat) (gpioState : Int) (dataIn : Nat → UInt8)
    (command data : List UInt8) {b : Board} (inv : TablesInv b.gpio) :
    ∃ r, sx126xHalWrite context fuel gpioState dataIn command data b = .ok r := by
  obtain ⟨waited, wait⟩ := sx126xHalWaitOnBusy_ok context fuel gpioState inv
  cases waited with
  | none => exact ⟨none, by simp only [sx126xHalWrite, wait, ok_bind]; rfl⟩
  | some b₁ =>
    have inv₁ := inv.linesStep (sx126xHalWaitOnBusy_eq context wait).1
    obtain ⟨b₂, selected⟩ := selected_ok context inv₁ fun spi =>
      spiWriteBytes (fun k => dataIn (k + command.length)) data (spiWriteBytes dataIn command spi)
    obtain ⟨b₃, low, high⟩ := bind_eq_ok.mp selected
    exact ⟨some (.ok, b₂), by simp only [sx126xHalWrite, wait, ok_bind, low, high]; rfl⟩

theorem sx126xHalRead_ok (context : RadioContext) (fuel : Nat) (gpioState : Int) (dataIn : Nat → UInt8)
    (command : List UInt8) (dataLength : Nat) {b : Board} (inv : TablesInv b.gpio) :
    ∃ r, sx126xHalRead context fuel gpioState dataIn command dataLength b = .ok r := by
  obtain ⟨waited, wait⟩ := sx126xHalWaitOnBusy_ok context fuel gpioState inv
  cases waited with
  | none => exact ⟨none, by simp only [sx126xHalRead, wait, ok_bind]; rfl⟩
  | some b₁ =>
    have inv₁ := inv.linesStep (sx126xHalWaitOnBusy_eq context wait).1
    obtain ⟨b₂, selected⟩ := selected_ok context inv₁ fun spi =>
      (spiReadBytes (fun k => dataIn (k + command.length)) dataLength (spiWriteBytes dataIn command spi)).2
    obtain ⟨b₃, low, high⟩ := bind_eq_ok.mp selected
    exact ⟨some (_, b₂), by simp only [sx126xHalRead, wait, ok_bind, low, high]; rfl⟩

/-! ## What a call that returns has done -/

/-- What a write that returns has done: its busy wait ended, the chip select
went low, the command and the data went out, and the chip select went high. -/
theorem sx126xHalWrite_some {context : RadioContext} {fuel : Nat} {gpioState : Int}
    {dataIn : Nat → UInt8} {command data : List UInt8} {b b' : Board} {status : Sx126xHalStatus}
    (h : sx126xHalWrite context fuel gpioState dataIn command data b = .ok (some (status, b'))) :
    ∃ b₁ b₂, sx126xHalWaitOnBusy context fuel gpioState b = .ok (some b₁) ∧
      setLevel context.spiNss 0 b₁ = .ok b₂ ∧
      setLevel context.spiNss 1
        { b₂ with
          spi := spiWriteBytes (fun k => dataIn (k + command.length)) data (spiWriteBytes dataIn command b₂.spi) } =
          .ok b' ∧
      status = .ok := by
  obtain ⟨waited, wait, h⟩ := bind_eq_ok.mp h
  cases waited with
  | none => cases h
  | some b₁ =>
    obtain ⟨b₂, low, h⟩ := bind_eq_ok.mp h
    obtain ⟨b₃, high, h⟩ := bind_eq_ok.mp h
    cases h
    exact ⟨b₁, b₂, wait, low, high, rfl⟩

/-- What a read that returns has done: its busy wait ended, the chip select
went low, the command went out and the data came in, and the chip select went
high. -/
theorem sx126xHalRead_some {context : RadioContext} {fuel : Nat} {gpioState : Int}
    {dataIn : Nat → UInt8} {command : List UInt8} {dataLength : Nat} {b b' : Board}
    {result : Sx126xHalStatus × List UInt8}
    (h : sx126xHalRead context fuel gpioState dataIn command dataLength b = .ok (some (result, b'))) :
    ∃ b₁ b₂, sx126xHalWaitOnBusy context fuel gpioState b = .ok (some b₁) ∧
      setLevel context.spiNss 0 b₁ = .ok b₂ ∧
      setLevel context.spiNss 1
        { b₂ with
          spi := (spiReadBytes (fun k => dataIn (k + command.length)) dataLength
            (spiWriteBytes dataIn command b₂.spi)).2 } = .ok b' ∧
      result = (.ok, (spiReadBytes (fun k => dataIn (k + command.length)) dataLength
        (spiWriteBytes dataIn command b₂.spi)).1) := by
  obtain ⟨waited, wait, h⟩ := bind_eq_ok.mp h
  cases waited with
  | none => cases h
  | some b₁ =>
    obtain ⟨b₂, low, h⟩ := bind_eq_ok.mp h
    obtain ⟨b₃, high, h⟩ := bind_eq_ok.mp h
    cases h
    exact ⟨b₁, b₂, wait, low, high, rfl⟩

/-! ## Before `gpio_init` -/

/-- A pin past the chip's count is not driven. -/
theorem setLevel_beyond {line : Nat} {level : Int} {b : Board} (beyond : b.gpio.maxLines ≤ line) :
    setLevel line level b = .ok b := by
  unfold setLevel gpioSetLevel
  rw [withLine_beyond beyond]
  rfl

/-- A round in which `gpio_get_level` refuses leaves `gpio_state` as it
was. -/
theorem sx126xHalWaitOnBusy_unread {context : RadioContext} {b : Board}
    (beyond : b.gpio.maxLines ≤ context.gpioBusy) (fuel : Nat) (gpioState : Int) :
    sx126xHalWaitOnBusy context (fuel + 1) gpioState b =
      if gpioState = 1 then sx126xHalWaitOnBusy context fuel gpioState (sleepMs 1 b)
      else .ok (some (sleepMs 1 b)) := by
  have refused : gpioGetLevel context.gpioBusy b.gpio = .ok ((gpioErrorInvalidArg, none), b.gpio) :=
    withLine_beyond beyond
  rw [sx126xHalWaitOnBusy, refused, ok_bind]
  rfl

/-- When `gpio_get_level` refuses and `gpio_state` holds 1, the busy wait
never ends. -/
theorem sx126xHalWaitOnBusy_stuck {context : RadioContext} : ∀ (fuel : Nat) {b : Board},
    b.gpio.maxLines ≤ context.gpioBusy → sx126xHalWaitOnBusy context fuel 1 b = .ok none
  | 0, _, _ => rfl
  | fuel + 1, b, beyond => by
    rw [sx126xHalWaitOnBusy_unread beyond, if_pos rfl]
    exact sx126xHalWaitOnBusy_stuck fuel (by rwa [sleepMs_gpio])

/-- Before `gpio_init`, when `max_lines` is 0, `gpio_get_level` never writes
`gpio_state`: the busy wait returns after one round of 1 ms when the
uninitialised variable does not hold 1, and never returns when it does,
however many rounds it is given.  No pin is driven either: the reset and the
wake-up only sleep. -/
theorem hal_before_gpio_init {b : Board} (noLines : b.gpio.maxLines = 0) (context : RadioContext) :
    (∀ fuel gpioState, sx126xHalWaitOnBusy context (fuel + 1) gpioState b =
      .ok (if gpioState = 1 then none else some (sleepMs 1 b))) ∧
    sx126xHalReset context b = .ok (.ok, sleepMs 5 (sleepMs 5 b)) ∧
    sx126xHalWakeup context b = .ok (.ok, sleepMs 1 b) := by
  have beyond (line : Nat) {b' : Board} (same : b'.gpio = b.gpio) : b'.gpio.maxLines ≤ line := by
    rw [same, noLines]
    exact Nat.zero_le line
  refine ⟨fun fuel gpioState => ?_, ?_, ?_⟩
  · rw [sx126xHalWaitOnBusy_unread (beyond _ rfl)]
    by_cases held : gpioState = 1
    · subst held
      rw [if_pos rfl, if_pos rfl, sx126xHalWaitOnBusy_stuck fuel (beyond _ (sleepMs_gpio 1 b))]
    · rw [if_neg held, if_neg held]
  · simp only [sx126xHalReset, setLevel_beyond (beyond _ rfl), ok_bind,
      setLevel_beyond (beyond _ (sleepMs_gpio 5 b))]
    rfl
  · simp only [sx126xHalWakeup, setLevel_beyond (beyond _ rfl), ok_bind,
      setLevel_beyond (beyond _ (sleepMs_gpio 1 b))]
    rfl

/-! ## Commands over SPI -/

/-- The pins of the board's radio, and a device that answers two transfers. -/
def benchContext : RadioContext := ⟨0, 1, 1⟩

def benchBoard : Board :=
  ⟨benchReturned, ⟨[⟨true, true, [0xA5]⟩, ⟨true, true, [0x5A]⟩], []⟩, 0⟩

/-- From a reachable state of the GPIO API, `sx126x_hal_write` does not fault,
whatever the device answers.  When its busy wait ends it returns
`SX126X_HAL_STATUS_OK`, and when the device opens for every transfer the
kernel is handed the command and then the data, one byte per transfer, in
order. -/
theorem sx126xHalWrite_sends {b : Board} (reach : Reachable b.gpio) (context : RadioContext)
    (fuel : Nat) (gpioState : Int) (dataIn : Nat → UInt8) (command data : List UInt8) :
    ∃ r, sx126xHalWrite context fuel gpioState dataIn command data b = .ok r ∧
      ∀ status b', r = some (status, b') → status = .ok ∧
        ((command ++ data).length ≤ b.spi.replies.length →
          (∀ reply ∈ b.spi.replies.take (command ++ data).length, reply.opened = true) →
          b'.spi = ⟨b.spi.replies.drop (command ++ data).length,
            ((command ++ data).map fun byte => some [byte]).reverse ++ b.spi.sent⟩) := by
  obtain ⟨r, wrote⟩ := sx126xHalWrite_ok context fuel gpioState dataIn command data reach.tablesInv
  refine ⟨r, wrote, ?_⟩
  rintro status b' rfl
  obtain ⟨b₁, b₂, wait, selected, deselected, rfl⟩ := sx126xHalWrite_some wrote
  refine ⟨rfl, fun enough opened => ?_⟩
  rw [setLevel_spi deselected]
  dsimp only
  rw [← spiWriteBytes_append, setLevel_spi selected, (sx126xHalWaitOnBusy_eq context wait).2,
    spiWriteBytes_eq dataIn _ _ enough opened]

theorem bench_write_sends :
    ∃ r, sx126xHalWrite benchContext 1 0 (fun _ => 0) [0x80] [0x01] benchBoard = .ok r ∧
      ∀ status b', r = some (status, b') → status = .ok ∧
        (([0x80] ++ [0x01] : List UInt8).length ≤ benchBoard.spi.replies.length →
          (∀ reply ∈ benchBoard.spi.replies.take ([0x80] ++ [0x01] : List UInt8).length,
            reply.opened = true) →
          b'.spi = ⟨benchBoard.spi.replies.drop ([0x80] ++ [0x01] : List UInt8).length,
            (([0x80] ++ [0x01] : List UInt8).map fun byte => some [byte]).reverse ++
              benchBoard.spi.sent⟩) :=
  sx126xHalWrite_sends (b := benchBoard) benchReturned_reachable benchContext 1 0 (fun _ => 0)
    [0x80] [0x01]

/-- From a reachable state of the GPIO API, `sx126x_hal_read` does not fault,
whatever the device answers.  When its busy wait ends it returns
`SX126X_HAL_STATUS_OK`, and when every transfer delivers, the data are the
first bytes the device clocked in after the command, and the kernel is handed
the command and then a `0x00` for each byte read. -/
theorem sx126xHalRead_receives {b : Board} (reach : Reachable b.gpio) (context : RadioContext)
    (fuel : Nat) (gpioState : Int) (dataIn : Nat → UInt8) (command : List UInt8) (dataLength : Nat) :
    ∃ r, sx126xHalRead context fuel gpioState dataIn command dataLength b = .ok r ∧
      ∀ result b', r = some (result, b') → result.1 = .ok ∧
        (command.length + dataLength ≤ b.spi.replies.length →
          (∀ reply ∈ b.spi.replies.take (command.length + dataLength), reply.Delivers) →
          result.2 = ((b.spi.replies.drop command.length).take dataLength).map
            (fun reply => reply.rx.getD 0 0) ∧
          b'.spi = ⟨b.spi.replies.drop (command.length + dataLength),
            List.replicate dataLength (some [0x00]) ++ (command.map fun byte => some [byte]).reverse ++
              b.spi.sent⟩) := by
  obtain ⟨r, read⟩ := sx126xHalRead_ok context fuel gpioState dataIn command dataLength reach.tablesInv
  refine ⟨r, read, ?_⟩
  rintro result b' rfl
  obtain ⟨b₁, b₂, wait, selected, deselected, rfl⟩ := sx126xHalRead_some read
  refine ⟨rfl, fun enough delivers => ?_⟩
  rw [List.take_add] at delivers
  have spi₂ : b₂.spi = b.spi := by rw [setLevel_spi selected, (sx126xHalWaitOnBusy_eq context wait).2]
  have written := spiWriteBytes_eq dataIn command b₂.spi (by rw [spi₂]; omega)
    fun reply member => (delivers reply (List.mem_append_left _ (spi₂ ▸ member))).1
  have read := spiReadBytes_eq (fun k => dataIn (k + command.length)) dataLength
    ⟨b₂.spi.replies.drop command.length, (command.map fun byte => some [byte]).reverse ++ b₂.spi.sent⟩
    (by simp only [List.length_drop, spi₂]; omega)
    fun reply member => delivers reply (List.mem_append_right _ (spi₂ ▸ member))
  rw [setLevel_spi deselected, written, read]
  simp only [spi₂, List.drop_drop, List.append_assoc, and_self]

theorem bench_read_receives :
    ∃ r, sx126xHalRead benchContext 1 0 (fun _ => 0) [0x1D] 1 benchBoard = .ok r ∧
      ∀ result b', r = some (result, b') → result.1 = .ok ∧
        (([0x1D] : List UInt8).length + 1 ≤ benchBoard.spi.replies.length →
          (∀ reply ∈ benchBoard.spi.replies.take (([0x1D] : List UInt8).length + 1), reply.Delivers) →
          result.2 = ((benchBoard.spi.replies.drop ([0x1D] : List UInt8).length).take 1).map
            (fun reply => reply.rx.getD 0 0) ∧
          b'.spi = ⟨benchBoard.spi.replies.drop (([0x1D] : List UInt8).length + 1),
            List.replicate 1 (some [0x00]) ++ (([0x1D] : List UInt8).map fun byte => some [byte]).reverse ++
              benchBoard.spi.sent⟩) :=
  sx126xHalRead_receives (b := benchBoard) benchReturned_reachable benchContext 1 0 (fun _ => 0) [0x1D] 1

theorem bench_hal_before_gpio_init :
    (∀ fuel gpioState, sx126xHalWaitOnBusy benchContext (fuel + 1) gpioState
        { benchBoard with gpio := GpioState.init benchPlatform } =
      .ok (if gpioState = 1 then none else some (sleepMs 1 { benchBoard with gpio := GpioState.init benchPlatform }))) ∧
    sx126xHalReset benchContext { benchBoard with gpio := GpioState.init benchPlatform } =
      .ok (.ok, sleepMs 5 (sleepMs 5 { benchBoard with gpio := GpioState.init benchPlatform })) ∧
    sx126xHalWakeup benchContext { benchBoard with gpio := GpioState.init benchPlatform } =
      .ok (.ok, sleepMs 1 { benchBoard with gpio := GpioState.init benchPlatform }) :=
  hal_before_gpio_init rfl benchContext

end LoraFwd.Sx126x
