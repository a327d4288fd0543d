import LoraFwd.Hal.Api

/-!
# Runs of the HAL

A run is any sequence of API calls, the DIO1 interrupt firing between any two
of them, from the HAL's initial state on a radio that answers as it likes.
The interrupt handler only writes `irq_fired` and `irq_count_us`, which the
receive path reads once per call, so it is modelled as firing between calls.

Along every run the HAL keeps its reception configuration consistent
(`ConfigOk`): the first datarate is undefined or LoRa, and while the HAL runs,
its frequency, bandwidth and coderate are ones `sx126x_check_lora_mod_params`
accepts and the main detector uses the configured spreading factor.  So every
packet `sx126x_receive` returns carries LoRa reception metadata, with one
exception: the modulation is whatever code was configured, since
`sx126x_rxif_setconf` does not check it and `sx126x_start` only checks that it
is defined.

The status codes are not kept truthful on the error paths of `sx126x_send`,
and a transmission status of `TX_OFF` does not stop a transmission.
-/

namespace LoraFwd.Hal

open LoraFwd.CTypes

/-- The calls a client of the HAL makes, and the DIO1 interrupt. -/
inductive HalCall
  | rxrfSetconf (conf : Sx126xConfRxrf)
  | rxifSetconf (conf : Sx126xConfRxif)
  | start
  | stop
  | receive (pkt : LgwPktRx)
  | send (pkt : LgwPktTx)
  | status (rfChain select : UInt8)
  | dioIrq

/-- The state after one call. -/
def HalCall.exec (bsp : Bsp) : HalCall → HalState → HalState
  | .rxrfSetconf conf, hal => (sx126xRxrfSetconf conf hal).2
  | .rxifSetconf conf, hal => (sx126xRxifSetconf conf hal).2
  | .start, hal => (sx126xStart hal).2
  | .stop, hal => (sx126xStop hal).2
  | .receive pkt, hal => (sx126xReceive bsp pkt hal).2
  | .send pkt, hal => (sx126xSend bsp pkt hal).2
  | .status _ _, hal => hal
  | .dioIrq, hal => { hal with rx := radioOnDioIrq hal.rx hal.radio }

/-- The state after a sequence of calls. -/
def run (bsp : Bsp) (calls : List HalCall) (hal : HalState) : HalState :=
  calls.foldl (fun hal call => call.exec bsp hal) hal

/-- The states some run reaches from the initial state. -/
inductive Reachable (bsp : Bsp) : HalState → Prop
  | init (radio : Radio) : Reachable bsp (HalState.init radio)
  | step {hal : HalState} (call : HalCall) : Reachable bsp hal → Reachable bsp (call.exec bsp hal)

theorem Reachable.run {bsp : Bsp} {hal : HalState} (reachable : Reachable bsp hal)
    (calls : List HalCall) : Reachable bsp (run bsp calls hal) := by
  induction calls generalizing hal with
  | nil => exact reachable
  | cons call rest ih => exact ih (reachable.step call)

/-! ## The reception configuration -/

/-- What the HAL keeps true of its reception configuration. -/
structure ConfigOk (hal : HalState) : Prop where
  datarate : hal.vars.rxifConf.datarate.1 = drUndefined ∨ isLoraDr hal.vars.rxifConf.datarate.1
  started : hal.vars.isStarted = true →
    LoraModParamsOk hal.vars.rxrfConf.freqHz hal.vars.rxifConf.bandwidth
        hal.vars.rxifConf.coderate ∧
      isLoraDr hal.vars.rxifConf.datarate.1 ∧
      hal.rx.mainDetectorSf = hal.vars.rxifConf.datarate.1

theorem ConfigOk.init (radio : Radio) : ConfigOk (HalState.init radio) :=
  ⟨.inl rfl, fun started => absurd started Bool.false_ne_true⟩

/-- A call that keeps the running flag and the configuration, and leaves the
main detector on its spreading factor or on the configured one, keeps
`ConfigOk`. -/
theorem ConfigOk.of_conf {hal hal' : HalState} (ok : ConfigOk hal)
    (started : hal'.vars.isStarted = hal.vars.isStarted)
    (rxrf : hal'.vars.rxrfConf = hal.vars.rxrfConf)
    (rxif : hal'.vars.rxifConf = hal.vars.rxifConf)
    (detector : hal'.rx.mainDetectorSf = hal.rx.mainDetectorSf ∨
      hal'.rx.mainDetectorSf = hal.vars.rxifConf.datarate.1) : ConfigOk hal' := by
  refine ⟨rxif ▸ ok.datarate, fun running => ?_⟩
  obtain ⟨params, lora, onDatarate⟩ := ok.started (started ▸ running)
  rw [rxrf, rxif]
  exact ⟨params, lora, detector.elim (fun same => same.trans onDatarate) id⟩

theorem ConfigOk.rxrfSetconf {hal : HalState} (ok : ConfigOk hal) (conf : Sx126xConfRxrf) :
    ConfigOk (sx126xRxrfSetconf conf hal).2 := by
  unfold sx126xRxrfSetconf
  split_ifs with started
  · exact ok
  · exact ⟨ok.datarate, fun running => absurd running started⟩

theorem ConfigOk.rxifSetconf {hal : HalState} (ok : ConfigOk hal) (conf : Sx126xConfRxif) :
    ConfigOk (sx126xRxifSetconf conf hal).2 := by
  unfold sx126xRxifSetconf
  split_ifs with started lora
  iterate 5 exact ok
  exact ⟨.inr (by simpa using lora), fun running => absurd running started⟩

theorem ConfigOk.start {hal : HalState} (ok : ConfigOk hal) : ConfigOk (sx126xStart hal).2 := by
  unfold sx126xStart
  dsimp only
  by_cases frequency : hal.vars.rxrfConf.freqHz = 0
  · rw [if_pos frequency]; exact ok
  rw [if_neg frequency]
  by_cases modulation : hal.vars.rxifConf.modulation = modUndefined
  · rw [if_pos modulation]; exact ok
  rw [if_neg modulation]
  by_cases bandwidth : hal.vars.rxifConf.bandwidth = bwUndefined
  · rw [if_pos bandwidth]; exact ok
  rw [if_neg bandwidth]
  by_cases coderate : hal.vars.rxifConf.coderate = crUndefined
  · rw [if_pos coderate]; exact ok
  rw [if_neg coderate]
  by_cases undefined : hal.vars.rxifConf.datarate.1 = drUndefined
  · rw [if_pos undefined]; exact ok
  rw [if_neg undefined]
  by_cases setup : (sx126xRadioSetup hal.radio).1 = lgwHalError
  · rw [if_pos setup]; exact ok.of_conf rfl rfl rfl (.inl rfl)
  rw [if_neg setup]
  by_cases configured : (sx126xRadioConfigureRx hal.vars.rxrfConf.freqHz hal.vars.rxifConf hal.rx
      (sx126xRadioSetup hal.radio).2).1 = lgwHalError
  · rw [if_pos configured]
    exact ok.of_conf rfl rfl rfl (sx126xRadioConfigureRx_mainDetectorSf _ _ _ _)
  rw [if_neg configured]
  obtain ⟨params, onDatarate⟩ := sx126xRadioConfigureRx_success configured
  exact ⟨ok.datarate, fun _ => ⟨params, ok.datarate.resolve_left undefined, onDatarate⟩⟩

theorem ConfigOk.stop {hal : HalState} (ok : ConfigOk hal) : ConfigOk (sx126xStop hal).2 := by
  unfold sx126xStop
  split_ifs
  · exact ok
  · exact ⟨ok.datarate, fun running => absurd running Bool.false_ne_true⟩

theorem ConfigOk.receive {hal : HalState} (ok : ConfigOk hal) (bsp : Bsp) (pkt : LgwPktRx) :
    ConfigOk (sx126xReceive bsp pkt hal).2 := by
  have vars := sx126xReceive_vars bsp pkt hal
  exact ok.of_conf (by rw [vars]) (by rw [vars]) (by rw [vars])
    (.inl (sx126xReceive_mainDetectorSf bsp pkt hal))

theorem ConfigOk.send {hal : HalState} (ok : ConfigOk hal) (bsp : Bsp) (pkt : LgwPktTx) :
    ConfigOk (sx126xSend bsp pkt hal).2 :=
  let ⟨started, rxrf, rxif, detector⟩ := sx126xSend_conf bsp pkt hal
  ok.of_conf started rxrf rxif detector

/-- Every call keeps `ConfigOk`. -/
theorem ConfigOk.exec {hal : HalState} (ok : ConfigOk hal) (bsp : Bsp) :
    ∀ call : HalCall, ConfigOk (call.exec bsp hal)
  | .rxrfSetconf conf => ok.rxrfSetconf conf
  | .rxifSetconf conf => ok.rxifSetconf conf
  | .start => ok.start
  | .stop => ok.stop
  | .receive pkt => ok.receive bsp pkt
  | .send pkt => ok.send bsp pkt
  | .status _ _ => ok
  | .dioIrq => ok.of_conf rfl rfl rfl (.inl rfl)

theorem Reachable.configOk {bsp : Bsp} {hal : HalState} (reachable : Reachable bsp hal) :
    ConfigOk hal := by
  induction reachable with
  | init radio => exact ConfigOk.init radio
  | step call _ ok => exact ok.exec bsp call

/-- In every reachable state, a packet `sx126x_receive` returns has a sub-GHz
frequency, a spreading factor from 5 to 12, a bandwidth of 125, 250 or
500 kHz and a coding rate from 4/5 to 4/8. -/
theorem sx126xReceive_lora_metadata {bsp : Bsp} {hal : HalState}
    (reachable : Reachable bsp hal) (pkt : LgwPktRx)
    (received : (sx126xReceive bsp pkt hal).1.1 = 1) :
    LoraModParamsOk (sx126xReceive bsp pkt hal).1.2.freqHz (sx126xReceive bsp pkt hal).1.2.bandwidth
        (sx126xReceive bsp pkt hal).1.2.coderate ∧
      5 ≤ (sx126xReceive bsp pkt hal).1.2.datarate.toNat ∧
      (sx126xReceive bsp pkt hal).1.2.datarate.toNat ≤ 12 := by
  obtain ⟨started, datarate, freqHz, -, bandwidth, coderate⟩ := sx126xReceive_packet received
  obtain ⟨params, lora, detector⟩ := reachable.configOk.started started
  rw [freqHz, bandwidth, coderate, datarate, toNat_uint8_toUInt32, detector]
  exact ⟨params, (isLoraDr_iff _).mp lora⟩

/-! ## Runs on a bench

A board without TCXO start-up time, configured for 868.1 MHz, SF7, 125 kHz
and coding rate 4/5, on a radio that accepts every call of a start.
-/

/-- The bench's board support package. -/
def benchBsp : Bsp := ⟨0, fun _ => 125000⟩

/-- The bench's reception configuration, with the given modulation code. -/
def benchRxif (modulation : UInt8) : Sx126xConfRxif :=
  ⟨modulation, bw125Khz, (drLoraSf7, drUndefined), crLora4_5⟩

/-- Configure the bench and start the HAL. -/
def benchStart (txEnable : Bool) (modulation : UInt8) : List HalCall :=
  [.rxrfSetconf ⟨868100000, txEnable⟩, .rxifSetconf (benchRxif modulation), .start]

/-- The answers to the fourteen radio calls of a start. -/
def startReplies : List RalReply := List.replicate 14 RalReply.accepted

/-- The answers to a transmission: TX configured, TX started, `TX_DONE`. -/
def transmitReplies : List RalReply :=
  [RalReply.accepted, RalReply.accepted,
    { RalReply.accepted with irq := { RalIrq.none with txDone := true } }]

/-- The HAL started on the bench with the LoRa modulation, on a radio that
will then answer one transmission. -/
def benchStarted (txEnable : Bool) : HalState :=
  run benchBsp (benchStart txEnable modLora)
    (HalState.init ⟨0, startReplies ++ transmitReplies, []⟩)

/-- A receive-only HAL started on the bench, after the radio has signalled
one received packet with a good CRC. -/
def benchReception (modulation : UInt8) : HalState :=
  run benchBsp (benchStart false modulation ++ [.dioIrq])
    (HalState.init
      ⟨0, startReplies ++
        [{ RalReply.accepted with irq := { RalIrq.none with rxDone := true } },
          RalReply.accepted, { RalReply.accepted with payload := [0x40], size := 1 }], []⟩)

/-- On the bench with the LoRa modulation, the packet received has LoRa
metadata. -/
theorem bench_reception_lora_metadata :
    Reachable benchBsp (benchReception modLora) ∧
      (sx126xReceive benchBsp LgwPktRx.zero (benchReception modLora)).1.1 = 1 ∧
      LoraModParamsOk (sx126xReceive benchBsp LgwPktRx.zero (benchReception modLora)).1.2.freqHz
          (sx126xReceive benchBsp LgwPktRx.zero (benchReception modLora)).1.2.bandwidth
          (sx126xReceive benchBsp LgwPktRx.zero (benchReception modLora)).1.2.coderate ∧
      5 ≤ (sx126xReceive benchBsp LgwPktRx.zero (benchReception modLora)).1.2.datarate.toNat ∧
      (sx126xReceive benchBsp LgwPktRx.zero (benchReception modLora)).1.2.datarate.toNat ≤ 12 :=
  have reachable : Reachable benchBsp (benchReception modLora) := (Reachable.init _).run _
  have received : (sx126xReceive benchBsp LgwPktRx.zero (benchReception modLora)).1.1 = 1 := by
    decide
  ⟨reachable, received, sx126xReceive_lora_metadata reachable LgwPktRx.zero received⟩

/-- On the bench, the packet is delivered with its one byte of payload, a good
CRC status and the time of its interrupt moved back by one SF7 symbol. -/
theorem bench_reception_delivers :
    (sx126xReceive benchBsp LgwPktRx.zero (benchReception modLora)).1.1 = 1 ∧
      (sx126xReceive benchBsp LgwPktRx.zero (benchReception modLora)).1.2.payload.take 1 = [0x40] ∧
      (sx126xReceive benchBsp LgwPktRx.zero (benchReception modLora)).1.2.size = 1 ∧
      (sx126xReceive benchBsp LgwPktRx.zero (benchReception modLora)).1.2.status = statCrcOk ∧
      (sx126xReceive benchBsp LgwPktRx.zero (benchReception modLora)).1.2.rssic =
        (Int8.ofInt 0).toInt ∧
      (sx126xReceive benchBsp LgwPktRx.zero (benchReception modLora)).1.2.snr = (0 : Int8).toInt ∧
      (sx126xReceive benchBsp LgwPktRx.zero (benchReception modLora)).1.2.countUs =
        (benchReception modLora).rx.irqCountUs -
          sx126xRadioTimestampCorrection benchBsp.loraBwInHz
            (benchReception modLora).rx.mainDetectorSf
            (benchReception modLora).vars.rxifConf.bandwidth :=
  @sx126xReceive_delivers benchBsp LgwPktRx.zero (benchReception modLora)
    { RalReply.accepted with irq := { RalIrq.none with rxDone := true } } RalReply.accepted
    { RalReply.accepted with payload := [0x40], size := 1 } [] (by decide) (by decide) (by decide)
    (by decide) rfl rfl rfl rfl (by decide)

/-- A HAL configured with the FSK modulation code starts, and reports the
packet it receives, on a radio set up for LoRa, as FSK. -/
theorem bench_reception_reports_fsk :
    (sx126xReceive benchBsp LgwPktRx.zero (benchReception modFsk)).1.1 = 1 ∧
      (sx126xReceive benchBsp LgwPktRx.zero (benchReception modFsk)).1.2.modulation = modFsk := by
  decide

/-! ## The status on the error paths of `sx126x_send` -/

/-- After a start, a send whose TX configuration the radio refuses leaves
`sx126x_status` reporting a suspended receiver. -/
theorem bench_refused_send_reports_rx_suspended :
    sx126xStatus 0 rxStatus
        (run benchBsp (benchStart true modLora ++ [.send ⟨0⟩])
          (HalState.init ⟨0, startReplies ++ [RalReply.failed], []⟩)) =
      (lgwHalSuccess, some rxSuspended) := by
  decide

/-- A receive-only HAL reports `TX_OFF`; `sx126x_send` still configures the
radio for TX, starts the transmission and succeeds, and the HAL then reports
`TX_FREE`. -/
theorem bench_receive_only_hal_transmits :
    sx126xStatus 0 txStatus (benchStarted false) = (lgwHalSuccess, some txOff) ∧
      (sx126xSend benchBsp ⟨0⟩ (benchStarted false)).1 = lgwHalSuccess ∧
      (RalCall.configureTx, 0) ∈ (sx126xSend benchBsp ⟨0⟩ (benchStarted false)).2.radio.calls ∧
      (RalCall.setTx, 100000) ∈ (sx126xSend benchBsp ⟨0⟩ (benchStarted false)).2.radio.calls ∧
      sx126xStatus 0 txStatus (sx126xSend benchBsp ⟨0⟩ (benchStarted false)).2 =
        (lgwHalSuccess, some txFree) := by
  decide

end LoraFwd.Hal
