import LoraFwd.Hal.Radio
import LoraFwd.Hal.Aux

/-!
# The HAL's receive path

`lorahub_hal_rx.c`: the DIO1 interrupt handler, the processing of the IRQ
register it signals, the setup of the radio for LoRa reception, the arming of
the receiver and the fetch of a received packet.

The static variables of the file are `RxVars`.  Its functions take them with
the radio and return both, so that the state of `lorahub_hal.c` lies outside
what they can change.  The LED and GPIO calls are not modelled.
-/

namespace LoraFwd.Hal

open LoraFwd.CTypes

/-- The static variables of `lorahub_hal_rx.c`. -/
structure RxVars where
  irqFired : Bool
  irqCountUs : UInt32
  flagRxDone : Bool
  flagRxCrcError : Bool
  flagRxTimeout : Bool
  mainDetectorSf : UInt8
  sideDetectorSf : UInt8
  configuredFreqHz : UInt32
  configuredBw : UInt8
deriving DecidableEq, Repr

/-- The initial values of the static variables. -/
def RxVars.init : RxVars where
  irqFired := false
  irqCountUs := 0
  flagRxDone := false
  flagRxCrcError := false
  flagRxTimeout := false
  mainDetectorSf := drUndefined
  sideDetectorSf := drUndefined
  configuredFreqHz := 0
  configuredBw := bwUndefined

/-- `RX_TIMEOUT_MS`, two minutes. -/
def rxTimeoutMs : UInt32 := 120000

/-- `radio_on_dio_irq`, the DIO1 interrupt handler: it notes the interrupt and
the counter. -/
def radioOnDioIrq (rx : RxVars) (radio : Radio) : RxVars :=
  { rx with irqFired := true, irqCountUs := sx126xGetInstcnt radio }

/-- `radio_irq_process`: after an interrupt, read and clear the IRQ register,
whose status is not checked, and raise the flags it shows. -/
def radioIrqProcess (rx : RxVars) (radio : Radio) : RxVars × Radio :=
  if rx.irqFired then
    let (reply, radio) := ral .getAndClearIrqStatus radio
    ({ rx with
        irqFired := false
        flagRxDone := rx.flagRxDone || reply.irq.rxDone
        flagRxCrcError := rx.flagRxCrcError || reply.irq.rxCrcError
        flagRxTimeout := rx.flagRxTimeout || reply.irq.rxTimeout }, radio)
  else (rx, radio)

/--
`sx126x_radio_configure_rx`: check the parameters, put the radio in standby
in LoRa mode, note the main detector's spreading factor and the frequency and
bandwidth, then send the modulation, packet, sync word, frequency and image
calibration settings.  The single-SF fallback after the dual-SF check is
kept, although that check accepts every configuration.
-/
def sx126xRadioConfigureRx (freqHz : UInt32) (params : Sx126xConfRxif) (rx : RxVars)
    (radio : Radio) : Int × RxVars × Radio :=
  if sx126xCheckLoraModParams freqHz params.bandwidth params.coderate ≠ lgwHalSuccess then
    (lgwHalError, rx, radio)
  else
    let (ready, radio) := assertRalRc [.setStandby, .setPktType] radio
    if !ready then (lgwHalError, rx, radio)
    else
      let rx := { rx with
        mainDetectorSf := params.datarate.1
        configuredFreqHz := freqHz
        configuredBw := params.bandwidth }
      let rx :=
        if sx126xCheckLoraDualsfConf params.bandwidth rx.mainDetectorSf rx.sideDetectorSf ≠
            lgwHalSuccess then
          { rx with mainDetectorSf := params.datarate.1, sideDetectorSf := drUndefined }
        else rx
      let sf := rx.mainDetectorSf
      let freqMhzLow := freqHz.toNat / 1000000
      let (configured, radio) := assertRalRc
        [.setLoraModParams (sx126xConvertHalToRalSf sf)
            (sx126xConvertHalToRalBw params.bandwidth) (sx126xConvertHalToRalCr params.coderate),
          .setLoraPktParams (if sf < drLoraSf7 then hdrLoraPreamble else stdLoraPreamble),
          .setLoraSyncWord (sx126xGetLoraSyncWord freqHz sf),
          .setRfFreq freqHz,
          .calImg freqMhzLow.toUInt16 (freqMhzLow + 1).toUInt16,
          .setLoraSymbNbTimeout] radio
      (if configured then lgwHalSuccess else lgwHalError, rx, radio)

/-- `sx126x_radio_set_rx`: unmask the RX interrupts, clear them and start
receiving with a two-minute timeout. -/
def sx126xRadioSetRx (radio : Radio) : Int × Radio :=
  let (armed, radio) := assertRalRc [.setDioIrqParams, .clearIrqStatus, .setRx rxTimeoutMs] radio
  (if armed then lgwHalSuccess else lgwHalError, radio)

/-- The results `sx126x_radio_get_pkt` returns and writes through its
pointers. -/
structure RadioPkt where
  received : Int
  irqReceived : Bool
  countUs : UInt32
  sf : UInt8
  rssi : Int8
  snr : Int8
  status : UInt8
  size : UInt16
  payload : List UInt8

/--
`sx126x_radio_get_pkt`: process a pending interrupt, and on a received packet
read its status and, if its CRC is good, its payload into the caller's
buffer.  `rssi_offset` is `0`, and the `int16_t` RSSI is narrowed to the
`int8_t` the caller receives.
-/
def sx126xRadioGetPkt (payload : List UInt8) (rx : RxVars) (radio : Radio) :
    RadioPkt × RxVars × Radio :=
  let out : RadioPkt :=
    { received := 0, irqReceived := false, countUs := 0, sf := rx.mainDetectorSf, rssi := 0,
      snr := 0, status := statUndefined, size := 0, payload }
  let (rx, radio) := radioIrqProcess rx radio
  if rx.flagRxDone || rx.flagRxCrcError then
    let out := { out with irqReceived := true, countUs := rx.irqCountUs }
    let (pktStatus, radio) := ral .getLoraRxPktStatus radio
    if !pktStatus.ok then ({ out with received := lgwHalError }, rx, radio)
    else
      let out := { out with
        rssi := Int8.ofInt (pktStatus.rssiPktInDbm + 0)
        snr := pktStatus.snrPktInDb }
      let cleared := { rx with flagRxDone := false, flagRxCrcError := false }
      if rx.flagRxCrcError then ({ out with status := statCrcBad, received := 1 }, cleared, radio)
      else
        let (data, radio) := ral .getPktPayload radio
        let out := { out with status := statCrcOk }
        if !data.ok then ({ out with received := lgwHalError }, rx, radio)
        else
          let bytes := data.payload.take 256
          ({ out with payload := memcpy payload bytes bytes.length, size := data.size, received := 1 },
            cleared, radio)
  else if rx.flagRxTimeout then
    ({ out with irqReceived := true }, { rx with flagRxTimeout := false }, radio)
  else (out, rx, radio)

/-- `sx126x_radio_timestamp_correction`: one symbol time, in 32-bit arithmetic.
The bandwidth in hertz comes from `sx126x_get_lora_bw_in_hz`, whose code is
not in the repository. -/
def sx126xRadioTimestampCorrection (loraBwInHz : UInt8 → UInt32) (sf bw : UInt8) : UInt32 :=
  let bwInHz := loraBwInHz bw
  if bwInHz ≠ 0 then ((1 : UInt32) <<< sf.toUInt32) * 1000000 / bwInHz else 0

/-! ## What the receive path does to the detector configuration -/

@[simp]
theorem radioIrqProcess_mainDetectorSf (rx : RxVars) (radio : Radio) :
    (radioIrqProcess rx radio).1.mainDetectorSf = rx.mainDetectorSf := by
  unfold radioIrqProcess
  split <;> rfl

/-- Fetching a packet leaves the detector configuration as it is, and reports
the main detector's spreading factor. -/
theorem sx126xRadioGetPkt_mainDetectorSf (payload : List UInt8) (rx : RxVars) (radio : Radio) :
    (sx126xRadioGetPkt payload rx radio).2.1.mainDetectorSf = rx.mainDetectorSf ∧
      (sx126xRadioGetPkt payload rx radio).1.sf = rx.mainDetectorSf := by
  unfold sx126xRadioGetPkt
  have processed := radioIrqProcess_mainDetectorSf rx radio
  generalize radioIrqProcess rx radio = after at processed
  obtain ⟨rx', radio'⟩ := after
  dsimp only at processed ⊢
  split_ifs <;> simp [processed]

/-- The main detector keeps its spreading factor or takes the configured one. -/
theorem sx126xRadioConfigureRx_mainDetectorSf (freqHz : UInt32) (params : Sx126xConfRxif)
    (rx : RxVars) (radio : Radio) :
    (sx126xRadioConfigureRx freqHz params rx radio).2.1.mainDetectorSf = rx.mainDetectorSf ∨
      (sx126xRadioConfigureRx freqHz params rx radio).2.1.mainDetectorSf = params.datarate.1 := by
  unfold sx126xRadioConfigureRx
  split_ifs
  · exact .inl rfl
  · simp only [sx126xCheckLoraDualsfConf, ne_eq, not_true_eq_false, if_false]
    split_ifs <;> simp

/-- A reception setup that does not fail had parameters the HAL accepts, and
leaves the main detector on the configured spreading factor. -/
theorem sx126xRadioConfigureRx_success {freqHz : UInt32} {params : Sx126xConfRxif}
    {rx : RxVars} {radio : Radio}
    (success : (sx126xRadioConfigureRx freqHz params rx radio).1 ≠ lgwHalError) :
    LoraModParamsOk freqHz params.bandwidth params.coderate ∧
      (sx126xRadioConfigureRx freqHz params rx radio).2.1.mainDetectorSf = params.datarate.1 := by
  have checked : sx126xCheckLoraModParams freqHz params.bandwidth params.coderate =
      lgwHalSuccess := by
    by_contra failed
    simp only [sx126xRadioConfigureRx, ne_eq, failed, not_false_eq_true, if_true,
      not_true_eq_false] at success
  refine ⟨sx126xCheckLoraModParams_eq_success.mp checked, ?_⟩
  simp only [sx126xRadioConfigureRx, checked, sx126xCheckLoraDualsfConf, ne_eq,
    not_true_eq_false, if_false] at success ⊢
  split at success
  · exact absurd rfl success
  · rename_i ready
    rw [if_neg ready]

/-! ## A packet received with a good CRC -/

/-- After an interrupt that signals a packet with a good CRC, with no CRC error
pending, the fetch reads the status and the payload and reports the packet:
the RSSI narrowed to a byte, the SNR, and at most 256 bytes of payload copied
over the caller's buffer. -/
theorem sx126xRadioGetPkt_of_rxDone (payload : List UInt8) {rx : RxVars} {radio : Radio}
    {irqRegs pktStatus data : RalReply} {rest : List RalReply}
    (fired : rx.irqFired = true) (clean : rx.flagRxCrcError = false)
    (replies : radio.replies = irqRegs :: pktStatus :: data :: rest)
    (rxDone : irqRegs.irq.rxDone = true) (crcOk : irqRegs.irq.rxCrcError = false)
    (statusRead : pktStatus.ok = true) (payloadRead : data.ok = true) :
    (sx126xRadioGetPkt payload rx radio).1 =
      { received := 1, irqReceived := true, countUs := rx.irqCountUs, sf := rx.mainDetectorSf,
        rssi := Int8.ofInt (pktStatus.rssiPktInDbm + 0), snr := pktStatus.snrPktInDb,
        status := statCrcOk, size := data.size,
        payload := memcpy payload (data.payload.take 256) (data.payload.take 256).length } := by
  simp only [sx126xRadioGetPkt, radioIrqProcess, fired, if_true, ral, replies, rxDone, crcOk, clean,
    Bool.or_true, Bool.or_false, statusRead, payloadRead, Bool.not_true, Bool.false_eq_true, if_false]

/-! ## The record of calls only grows -/

theorem sx126xRadioConfigureRx_calls_suffix (freqHz : UInt32) (params : Sx126xConfRxif)
    (rx : RxVars) (radio : Radio) :
    radio.calls <:+ (sx126xRadioConfigureRx freqHz params rx radio).2.2.calls := by
  unfold sx126xRadioConfigureRx
  by_cases invalid : sx126xCheckLoraModParams freqHz params.bandwidth params.coderate ≠ lgwHalSuccess
  · simp only [if_pos invalid, List.suffix_refl]
  rw [if_neg invalid]
  have ready := assertRalRc_calls_suffix [.setStandby, .setPktType] radio
  generalize assertRalRc [.setStandby, .setPktType] radio = after at ready
  obtain ⟨isReady, radio'⟩ := after
  dsimp only
  by_cases failed : (!isReady) = true
  · rw [if_pos failed]
    exact ready
  rw [if_neg failed]
  exact ready.trans (assertRalRc_calls_suffix _ _)

theorem sx126xRadioSetRx_calls_suffix (radio : Radio) :
    radio.calls <:+ (sx126xRadioSetRx radio).2.calls := by
  dsimp only [sx126xRadioSetRx]
  exact assertRalRc_calls_suffix _ _

end LoraFwd.Hal
