import LoraFwd.Hal.Rx

/-!
# The HAL's API

`lorahub_hal.c`: the configuration setters, `sx126x_start` and `sx126x_stop`,
`sx126x_receive`, `sx126x_send` and `sx126x_status`.

The state of the HAL is the static variables of `lorahub_hal.c` (`HalVars`),
those of the receive path and the radio.  Every function takes the state and
returns its result with the state after the call.  `sx126x_connect` only
configures GPIOs and always succeeds, so it does not appear.
`sx126x_radio_configure_tx` is not in the repository: it is a call whose
outcome the radio decides, like the calls of the radio layer.  The board
support package, also absent, supplies the TCXO start-up time and the LoRa
bandwidths in hertz.
-/

namespace LoraFwd.Hal

open LoraFwd.CTypes

/-- The static variables of `lorahub_hal.c`. -/
structure HalVars where
  isStarted : Bool
  rxStatus : UInt8
  txStatus : UInt8
  rxrfConf : Sx126xConfRxrf
  rxifConf : Sx126xConfRxif
deriving DecidableEq, Repr

/-- The initial values of the static variables. -/
def HalVars.init : HalVars where
  isStarted := false
  rxStatus := rxStatusUnknown
  txStatus := txStatusUnknown
  rxrfConf := { freqHz := 0, txEnable := false }
  rxifConf :=
    { modulation := modUndefined, bandwidth := bwUndefined,
      datarate := (drUndefined, drUndefined), coderate := crUndefined }

/-- The state of the HAL and of the radio it drives. -/
structure HalState where
  vars : HalVars
  rx : RxVars
  radio : Radio
deriving DecidableEq

/-- The HAL before any call, on a radio in any state. -/
def HalState.init (radio : Radio) : HalState := ⟨HalVars.init, RxVars.init, radio⟩

/-- What the board support package tells the HAL: the TCXO start-up time of
`ral_sx126x_bsp_get_xosc_cfg` and the bandwidths of
`sx126x_get_lora_bw_in_hz`. -/
structure Bsp where
  tcxoStartupTimeInTick : UInt32
  loraBwInHz : UInt8 → UInt32

/-- `SX126X_RTC_FREQ_IN_HZ`. -/
def sx126xRtcFreqInHz : UInt32 := 64000

/-- `TCXO_STARTUP_TIME_US( tick, freq )`, in the `uint32_t` arithmetic of its
arguments. -/
def tcxoStartupTimeUs (tick freq : UInt32) : UInt32 := tick * 1000000 / freq

/-! ## Configuration, start and stop -/

/-- `sx126x_rxrf_setconf`: refused while the HAL runs. -/
def sx126xRxrfSetconf (conf : Sx126xConfRxrf) (hal : HalState) : Int × HalState :=
  if hal.vars.isStarted = true then (lgwHalError, hal)
  else (lgwHalSuccess, { hal with vars := { hal.vars with rxrfConf := conf } })

/-- `sx126x_rxif_setconf`: refused while the HAL runs, and for a datarate,
bandwidth or coderate that is not LoRa.  The modulation is not checked. -/
def sx126xRxifSetconf (conf : Sx126xConfRxif) (hal : HalState) : Int × HalState :=
  if hal.vars.isStarted = true then (lgwHalError, hal)
  else if isLoraDr conf.datarate.1 = false then (lgwHalError, hal)
  else if conf.datarate.2 ≠ drUndefined ∧ isLoraDr conf.datarate.2 = false then (lgwHalError, hal)
  else if isLoraBw conf.bandwidth = false then (lgwHalError, hal)
  else if isLoraCr conf.coderate = false then (lgwHalError, hal)
  else (lgwHalSuccess, { hal with vars := { hal.vars with rxifConf := conf } })

/-- `sx126x_radio_setup`: reset and initialise the radio and set its fallback
mode; installing the RX interrupt handler always succeeds. -/
def sx126xRadioSetup (radio : Radio) : Int × Radio :=
  let (ready, radio) := assertRalRc [.reset, .init, .setRxTxFallbackMode] radio
  (if ready then lgwHalSuccess else lgwHalError, radio)

/--
`sx126x_start`: check that the configuration is complete, set the radio up,
configure it for reception and start receiving.  A start while running
restarts; its failure leaves `is_started` as it was.
-/
def sx126xStart (hal : HalState) : Int × HalState :=
  let conf := hal.vars.rxifConf
  if hal.vars.rxrfConf.freqHz = 0 then (lgwHalError, hal)
  else if conf.modulation = modUndefined then (lgwHalError, hal)
  else if conf.bandwidth = bwUndefined then (lgwHalError, hal)
  else if conf.coderate = crUndefined then (lgwHalError, hal)
  else if conf.datarate.1 = drUndefined then (lgwHalError, hal)
  else
    let (setup, radio) := sx126xRadioSetup hal.radio
    if setup = lgwHalError then (lgwHalError, { hal with radio })
    else
      let vars := { hal.vars with rxStatus := rxOff }
      let (configured, rx, radio) :=
        sx126xRadioConfigureRx vars.rxrfConf.freqHz conf hal.rx radio
      if configured = lgwHalError then (lgwHalError, ⟨vars, rx, radio⟩)
      else
        let (_, radio) := sx126xRadioSetRx radio
        (lgwHalSuccess,
          ⟨{ vars with
              rxStatus := rxOn
              txStatus := if vars.rxrfConf.txEnable = false then txOff else txFree
              isStarted := true }, rx, radio⟩)

/-- `sx126x_stop`: the HAL no longer counts as running; the radio is left as
it is. -/
def sx126xStop (hal : HalState) : Int × HalState :=
  if hal.vars.isStarted = false then (lgwHalSuccess, hal)
  else (lgwHalSuccess, { hal with vars := { hal.vars with isStarted := false } })

/-! ## Reception -/

/--
`sx126x_receive`: fetch at most one packet into the caller's first packet
structure, which is cleared first, and fill in its metadata from the HAL's
configuration, with the timestamp moved back by one symbol time.  After an
interrupt the receiver is re-armed, whatever the outcome.
-/
def sx126xReceive (bsp : Bsp) (pkt : LgwPktRx) (hal : HalState) :
    (Int × LgwPktRx) × HalState :=
  if hal.vars.isStarted = false then ((lgwHalError, pkt), hal)
  else
    let (got, rx, radio) := sx126xRadioGetPkt LgwPktRx.zero.payload hal.rx hal.radio
    let p := { LgwPktRx.zero with payload := got.payload }
    let p :=
      if got.received > 0 then
        let p := { p with
          countUs := got.countUs
          freqHz := hal.vars.rxrfConf.freqHz
          ifChain := 0
          rfChain := 0
          status := got.status
          modulation := hal.vars.rxifConf.modulation
          datarate := got.sf.toUInt32
          bandwidth := hal.vars.rxifConf.bandwidth
          coderate := hal.vars.rxifConf.coderate
          rssic := got.rssi.toInt
          snr := got.snr.toInt
          size := got.size }
        { p with
          countUs :=
            p.countUs - sx126xRadioTimestampCorrection bsp.loraBwInHz p.datarate.toUInt8 p.bandwidth }
      else p
    let radio := if got.irqReceived then (sx126xRadioSetRx radio).2 else radio
    ((got.received, p), { hal with rx, radio })

/-! ## Transmission -/

/-- `sx126x_radio_configure_tx`, whose code is not in the repository: one call
whose success the radio decides. -/
def sx126xRadioConfigureTx (radio : Radio) : Int × Radio :=
  let (reply, radio) := ral .configureTx radio
  (if reply.ok then lgwHalSuccess else lgwHalError, radio)

/-- A bound on the rounds of the polling loop of `sx126x_send`, which the loop
never reaches. -/
def sendWaitRounds : Nat := 32768

/--
The polling loop of `sx126x_send`: read the counter, wait 100 ms, and go round
again while the target `count_us` is more than the TCXO start-up time ahead of
the reading, compared as `int32_t`.
-/
def waitForSendTime (countUs startup : UInt32) : Nat → Radio → Radio
  | 0, radio => radio
  | rounds + 1, radio =>
    let now := sx126xGetInstcnt radio
    let radio := waitMs 100 radio
    if toInt32 (countUs - now) > toInt32 startup then waitForSendTime countUs startup rounds radio
    else radio

/--
The `TX_DONE` polling loop of `sx126x_send`: read and clear the IRQ register
until it shows `TX_DONE` or `RX_TIMEOUT`, waiting 10 ms after each reading.
The result is whether the timeout was seen, or nothing when a reading fails
and `ASSERT_RAL_RC` returns.  The recursion runs over the replies still to
come, of which each round takes one.
-/
def txDoneLoop : List RalReply → Radio → Option Bool × Radio
  | [], radio => (none, (ral .getAndClearIrqStatus radio).2)
  | _ :: rest, radio =>
    let (irqRegs, radio) := ral .getAndClearIrqStatus radio
    if !irqRegs.ok then (none, radio)
    else
      let radio := waitMs 10 radio
      if irqRegs.irq.txDone || irqRegs.irq.rxTimeout then (some irqRegs.irq.rxTimeout, radio)
      else txDoneLoop rest radio

/--
`sx126x_send`: suspend reception, configure the radio for the packet, wait
until the target time is within the TCXO start-up time, start the
transmission, wait for its end and go back to reception.  The transmission
status is never consulted.
-/
def sx126xSend (bsp : Bsp) (pkt : LgwPktTx) (hal : HalState) : Int × HalState :=
  if hal.vars.isStarted = false then (lgwHalError, hal)
  else
    let vars := { hal.vars with rxStatus := rxSuspended }
    let (configured, radio) := sx126xRadioConfigureTx hal.radio
    if configured = lgwHalError then
      let (_, rx, radio) := sx126xRadioConfigureRx vars.rxrfConf.freqHz vars.rxifConf hal.rx radio
      let (_, radio) := sx126xRadioSetRx radio
      (lgwHalError, ⟨vars, rx, radio⟩)
    else
      let vars := { vars with txStatus := txScheduled }
      let startup := tcxoStartupTimeUs bsp.tcxoStartupTimeInTick sx126xRtcFreqInHz
      let radio := waitForSendTime pkt.countUs startup sendWaitRounds radio
      let (sent, radio) := assertRalRc [.setTx] radio
      if !sent then (lgwHalError, ⟨vars, hal.rx, radio⟩)
      else
        let vars := { vars with txStatus := txEmitting }
        match txDoneLoop radio.replies radio with
        | (none, radio) => (lgwHalError, ⟨vars, hal.rx, radio⟩)
        | (some timedOut, radio) =>
          let vars := { vars with txStatus := txFree }
          let (_, rx, radio) :=
            sx126xRadioConfigureRx vars.rxrfConf.freqHz vars.rxifConf hal.rx radio
          let (_, radio) := sx126xRadioSetRx radio
          (if timedOut = false then lgwHalSuccess else lgwHalError,
            ⟨{ vars with rxStatus := rxOn }, rx, radio⟩)

/-! ## Status -/

/-- `sx126x_status`: the result and the code written through `code`, if any;
a HAL that is not running reports both modems off. -/
def sx126xStatus (rfChain select : UInt8) (hal : HalState) : Int × Option UInt8 :=
  if rfChain ≥ sx126xRfChainNb then (lgwHalError, none)
  else if select = txStatus then
    (lgwHalSuccess, some (if hal.vars.isStarted = false then txOff else hal.vars.txStatus))
  else if select = rxStatus then
    (lgwHalSuccess, some (if hal.vars.isStarted = false then rxOff else hal.vars.rxStatus))
  else (lgwHalError, none)

/-! ## What each call does to the configuration -/

/-- `sx126x_receive` leaves the HAL's variables as they are. -/
theorem sx126xReceive_vars (bsp : Bsp) (pkt : LgwPktRx) (hal : HalState) :
    (sx126xReceive bsp pkt hal).2.vars = hal.vars := by
  unfold sx126xReceive
  split <;> rfl

theorem sx126xReceive_mainDetectorSf (bsp : Bsp) (pkt : LgwPktRx) (hal : HalState) :
    (sx126xReceive bsp pkt hal).2.rx.mainDetectorSf = hal.rx.mainDetectorSf := by
  unfold sx126xReceive
  split
  · rfl
  · exact (sx126xRadioGetPkt_mainDetectorSf _ hal.rx hal.radio).1

/-- A packet `sx126x_receive` returns comes from a running HAL and carries its
configuration and the main detector's spreading factor. -/
theorem sx126xReceive_packet {bsp : Bsp} {pkt : LgwPktRx} {hal : HalState}
    (received : (sx126xReceive bsp pkt hal).1.1 = 1) :
    hal.vars.isStarted = true ∧
      (sx126xReceive bsp pkt hal).1.2.datarate = hal.rx.mainDetectorSf.toUInt32 ∧
      (sx126xReceive bsp pkt hal).1.2.freqHz = hal.vars.rxrfConf.freqHz ∧
      (sx126xReceive bsp pkt hal).1.2.modulation = hal.vars.rxifConf.modulation ∧
      (sx126xReceive bsp pkt hal).1.2.bandwidth = hal.vars.rxifConf.bandwidth ∧
      (sx126xReceive bsp pkt hal).1.2.coderate = hal.vars.rxifConf.coderate := by
  by_cases stopped : hal.vars.isStarted = false
  · simp only [sx126xReceive, stopped, if_true] at received
    exact absurd received (by decide)
  · have started : hal.vars.isStarted = true := by simpa using stopped
    have reported := (sx126xRadioGetPkt_mainDetectorSf LgwPktRx.zero.payload hal.rx hal.radio).2
    simp only [sx126xReceive, started, Bool.true_eq_false, ↓reduceIte] at received ⊢
    generalize sx126xRadioGetPkt LgwPktRx.zero.payload hal.rx hal.radio = got at reported received ⊢
    obtain ⟨got, rx, radio⟩ := got
    dsimp only at received reported ⊢
    rw [if_pos (by rw [received]; decide)]
    exact ⟨trivial, by rw [reported], rfl, rfl, rfl, rfl⟩

/-- A running HAL whose radio has signalled a packet with a good CRC delivers
it: the payload the radio read, its size, a good CRC status, the RSSI narrowed
to an `int8_t`, the SNR, and the interrupt's time moved back by one symbol. -/
theorem sx126xReceive_delivers (bsp : Bsp) (pkt : LgwPktRx) {hal : HalState}
    {irqRegs pktStatus data : RalReply} {rest : List RalReply}
    (started : hal.vars.isStarted = true) (fired : hal.rx.irqFired = true)
    (clean : hal.rx.flagRxCrcError = false)
    (replies : hal.radio.replies = irqRegs :: pktStatus :: data :: rest)
    (rxDone : irqRegs.irq.rxDone = true) (crcOk : irqRegs.irq.rxCrcError = false)
    (statusRead : pktStatus.ok = true) (payloadRead : data.ok = true)
    (fits : data.payload.length ≤ 256) :
    (sx126xReceive bsp pkt hal).1.1 = 1 ∧
      (sx126xReceive bsp pkt hal).1.2.payload.take data.payload.length = data.payload ∧
      (sx126xReceive bsp pkt hal).1.2.size = data.size ∧
      (sx126xReceive bsp pkt hal).1.2.status = statCrcOk ∧
      (sx126xReceive bsp pkt hal).1.2.rssic = (Int8.ofInt pktStatus.rssiPktInDbm).toInt ∧
      (sx126xReceive bsp pkt hal).1.2.snr = pktStatus.snrPktInDb.toInt ∧
      (sx126xReceive bsp pkt hal).1.2.countUs = hal.rx.irqCountUs -
        sx126xRadioTimestampCorrection bsp.loraBwInHz hal.rx.mainDetectorSf
          hal.vars.rxifConf.bandwidth := by
  have got := sx126xRadioGetPkt_of_rxDone LgwPktRx.zero.payload fired clean replies rxDone crcOk
    statusRead payloadRead
  unfold sx126xReceive
  rw [if_neg (by rw [started]; decide)]
  generalize sx126xRadioGetPkt LgwPktRx.zero.payload hal.rx hal.radio = fetched at got
  obtain ⟨out, rx, radio⟩ := fetched
  dsimp only at got
  subst got
  dsimp only
  rw [if_pos (show (1 : Int) > 0 by decide)]
  refine ⟨rfl, ?_, rfl, rfl, by rw [Int.add_zero], rfl, by rw [uint8_toUInt32_toUInt8]⟩
  rw [List.take_of_length_le fits]
  exact (take_memcpy le_rfl).trans (List.take_length _)

/-- `sx126x_send` keeps the configuration and the running flag, and the main
detector keeps its spreading factor or takes the configured one. -/
theorem sx126xSend_conf (bsp : Bsp) (pkt : LgwPktTx) (hal : HalState) :
    (sx126xSend bsp pkt hal).2.vars.isStarted = hal.vars.isStarted ∧
      (sx126xSend bsp pkt hal).2.vars.rxrfConf = hal.vars.rxrfConf ∧
      (sx126xSend bsp pkt hal).2.vars.rxifConf = hal.vars.rxifConf ∧
      ((sx126xSend bsp pkt hal).2.rx.mainDetectorSf = hal.rx.mainDetectorSf ∨
        (sx126xSend bsp pkt hal).2.rx.mainDetectorSf = hal.vars.rxifConf.datarate.1) := by
  unfold sx126xSend
  dsimp only
  split_ifs
  · exact ⟨rfl, rfl, rfl, .inl rfl⟩
  · exact ⟨rfl, rfl, rfl, sx126xRadioConfigureRx_mainDetectorSf _ _ _ _⟩
  · exact ⟨rfl, rfl, rfl, .inl rfl⟩
  · split
    · exact ⟨rfl, rfl, rfl, .inl rfl⟩
    · exact ⟨rfl, rfl, rfl, sx126xRadioConfigureRx_mainDetectorSf _ _ _ _⟩

end LoraFwd.Hal
