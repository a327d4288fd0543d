import LoraFwd.Hal.Run

/-!
# When `sx126x_send` starts a transmission

The polling loop of `sx126x_send` reads the counter, waits 100 ms, and goes
round again while the target `count_us` lies more than the TCXO start-up time
`s` ahead of the reading, compared as `int32_t`.  The wait comes after the
reading, so the loop ends 100 ms after the first reading within `s` of the
target: from a target ahead of `s` at entry, `ral_set_tx` is called at a
counter `c` with `(int32_t)(count_us - (c + s))` in `(-200000, -100000]`.  The
preamble, which starts `s` after `ral_set_tx`, therefore begins at least
100 ms after the timestamp at which `lorahub_hal.h` says it starts.

The bound `sendWaitRounds` of the model is never reached: a target is at most
`2^31` µs ahead, and each round brings it 100 ms closer.
-/

namespace LoraFwd.Hal

open LoraFwd.CTypes

/-! ## The TCXO start-up time -/

/-- With the 64 kHz RTC, the start-up time is below 67.2 ms whatever the tick
count, the product `tick * 1000000` wrapping at `2^32`. -/
theorem tcxoStartupTimeUs_le (tick : UInt32) :
    (tcxoStartupTimeUs tick sx126xRtcFreqInHz).toNat ≤ 67108 := by
  have bound := toNat_lt_2_32 (tick * 1000000)
  show (tick * 1000000).toNat / 64000 ≤ 67108
  omega

/-! ## One round of the polling loop -/

theorem waitForSendTime_succ_of_ahead {countUs startup : UInt32} {radio : Radio}
    (rounds : Nat) (ahead : toInt32 startup < toInt32 (countUs - radio.instCnt)) :
    waitForSendTime countUs startup (rounds + 1) radio =
      waitForSendTime countUs startup rounds (waitMs 100 radio) := by
  simp only [waitForSendTime, sx126xGetInstcnt, gt_iff_lt, ahead, if_true]

theorem waitForSendTime_succ_of_due {countUs startup : UInt32} {radio : Radio}
    (rounds : Nat) (due : toInt32 (countUs - radio.instCnt) ≤ toInt32 startup) :
    waitForSendTime countUs startup (rounds + 1) radio = waitMs 100 radio := by
  simp only [waitForSendTime, sx126xGetInstcnt, gt_iff_lt, Int.not_lt.mpr due, if_false]

/-- A wait of 100 ms brings the target 100 ms closer, as long as the distance
stays in the `int32_t` range. -/
theorem toInt32_sub_waitMs_100 (countUs : UInt32) (radio : Radio)
    (noWrap : -2 ^ 31 + 100000 ≤ toInt32 (countUs - radio.instCnt)) :
    toInt32 (countUs - (waitMs 100 radio).instCnt) =
      toInt32 (countUs - radio.instCnt) - 100000 :=
  toInt32_sub_add countUs radio.instCnt 100000 (by simp only [UInt32.reduceToNat]; omega)

/-! ## The whole loop -/

section Loop

variable (countUs startup : UInt32) (nonneg : 0 ≤ toInt32 startup)

include nonneg

/-- From less than 100 ms inside the start-up time of the target, with rounds
enough to get there, the loop stops 100 ms after its first reading within the
start-up time. -/
theorem waitForSendTime_stops (rounds : Nat) (radio : Radio)
    (near : toInt32 startup - 100000 < toInt32 (countUs - radio.instCnt))
    (enough : toInt32 (countUs - radio.instCnt) - toInt32 startup ≤ 100000 * rounds) :
    ∃ counter, waitForSendTime countUs startup (rounds + 1) radio =
        { radio with instCnt := counter } ∧
      toInt32 startup - 200000 < toInt32 (countUs - counter) ∧
      toInt32 (countUs - counter) ≤ toInt32 startup - 100000 := by
  induction rounds generalizing radio with
  | zero =>
    have due : toInt32 (countUs - radio.instCnt) ≤ toInt32 startup := by omega
    have closer := toInt32_sub_waitMs_100 countUs radio (by omega)
    exact ⟨(waitMs 100 radio).instCnt, waitForSendTime_succ_of_due 0 due, by omega, by omega⟩
  | succ rounds ih =>
    have closer := toInt32_sub_waitMs_100 countUs radio (by omega)
    by_cases ahead : toInt32 startup < toInt32 (countUs - radio.instCnt)
    · obtain ⟨counter, stops, above, below⟩ := ih (waitMs 100 radio) (by omega) (by omega)
      refine ⟨counter, ?_, above, below⟩
      rw [waitForSendTime_succ_of_ahead _ ahead, stops, waitMs_replies, waitMs_calls]
    · exact ⟨(waitMs 100 radio).instCnt, waitForSendTime_succ_of_due _ (Int.not_lt.mp ahead),
        by omega, by omega⟩

/-- Under the same conditions, further rounds change nothing. -/
theorem waitForSendTime_more_rounds (rounds extra : Nat) (radio : Radio)
    (near : toInt32 startup - 100000 < toInt32 (countUs - radio.instCnt))
    (enough : toInt32 (countUs - radio.instCnt) - toInt32 startup ≤ 100000 * rounds) :
    waitForSendTime countUs startup (rounds + 1 + extra) radio =
      waitForSendTime countUs startup (rounds + 1) radio := by
  induction rounds generalizing radio with
  | zero =>
    have due : toInt32 (countUs - radio.instCnt) ≤ toInt32 startup := by omega
    rw [Nat.add_right_comm, waitForSendTime_succ_of_due _ due, waitForSendTime_succ_of_due _ due]
  | succ rounds ih =>
    have closer := toInt32_sub_waitMs_100 countUs radio (by omega)
    by_cases ahead : toInt32 startup < toInt32 (countUs - radio.instCnt)
    · rw [Nat.add_right_comm, waitForSendTime_succ_of_ahead _ ahead,
        waitForSendTime_succ_of_ahead _ ahead]
      exact ih (waitMs 100 radio) (by omega) (by omega)
    · have due := Int.not_lt.mp ahead
      rw [Nat.add_right_comm, waitForSendTime_succ_of_due _ due, waitForSendTime_succ_of_due _ due]

end Loop

/-- From a target ahead of the start-up time, the loop ends within its bound at
a counter from which the target, less the start-up time, lies between 100 and
200 ms in the past. -/
theorem waitForSendTime_late (countUs startup : UInt32) (radio : Radio)
    (signed : startup.toNat < 2 ^ 31)
    (ahead : toInt32 startup < toInt32 (countUs - radio.instCnt)) :
    ∃ counter, waitForSendTime countUs startup sendWaitRounds radio =
        { radio with instCnt := counter } ∧
      -200000 < toInt32 (countUs - (counter + startup)) ∧
      toInt32 (countUs - (counter + startup)) ≤ -100000 := by
  have startupValue := toInt32_of_lt signed
  have farthest := toInt32_lt (countUs - radio.instCnt)
  obtain ⟨counter, stops, above, below⟩ :=
    waitForSendTime_stops countUs startup (by omega) 32767 radio (by omega) (by omega)
  have shifted := toInt32_sub_add countUs counter startup (by omega)
  exact ⟨counter, stops, by omega, by omega⟩

example : waitForSendTime 1000000 0 sendWaitRounds ⟨0, [], []⟩ = ⟨1100000, [], []⟩ := by
  decide

/-- The bound on the rounds of the polling loop of `sx126x_send` is never
reached: with more rounds allowed, the loop ends in the same state. -/
theorem sendWaitRounds_enough (countUs tick : UInt32) (radio : Radio) (extra : Nat) :
    waitForSendTime countUs (tcxoStartupTimeUs tick sx126xRtcFreqInHz)
        (sendWaitRounds + extra) radio =
      waitForSendTime countUs (tcxoStartupTimeUs tick sx126xRtcFreqInHz) sendWaitRounds radio := by
  have startupValue := @toInt32_of_lt (tcxoStartupTimeUs tick sx126xRtcFreqInHz)
    (by have := tcxoStartupTimeUs_le tick; omega)
  have farthest := toInt32_lt (countUs - radio.instCnt)
  by_cases ahead : toInt32 (tcxoStartupTimeUs tick sx126xRtcFreqInHz) <
      toInt32 (countUs - radio.instCnt)
  · exact waitForSendTime_more_rounds countUs _ (by omega) 32767 extra radio (by omega) (by omega)
  · have due := Int.not_lt.mp ahead
    rw [show sendWaitRounds + extra = 32767 + extra + 1 by unfold sendWaitRounds; omega,
      waitForSendTime_succ_of_due _ due, sendWaitRounds, waitForSendTime_succ_of_due _ due]

/-! ## The calls of `sx126x_send` -/

theorem txDoneLoop_calls_suffix (replies : List RalReply) (radio : Radio) :
    radio.calls <:+ (txDoneLoop replies radio).2.calls := by
  induction replies generalizing radio with
  | nil => exact ral_calls_suffix _ _
  | cons _ rest ih =>
    have polled := ral_calls_suffix .getAndClearIrqStatus radio
    have later := ih (waitMs 10 (ral .getAndClearIrqStatus radio).2)
    rw [waitMs_calls] at later
    dsimp only [txDoneLoop]
    by_cases failed : (!(ral .getAndClearIrqStatus radio).1.ok) = true
    · rw [if_pos failed]
      exact polled
    rw [if_neg failed]
    by_cases ended : ((ral .getAndClearIrqStatus radio).1.irq.txDone ||
        (ral .getAndClearIrqStatus radio).1.irq.rxTimeout) = true
    · rw [if_pos ended, waitMs_calls]
      exact polled
    rw [if_neg ended]
    exact polled.trans later

@[simp]
theorem sx126xRadioConfigureTx_radio (radio : Radio) :
    (sx126xRadioConfigureTx radio).2 = (ral .configureTx radio).2 :=
  rfl

/-- Once the radio has accepted the TX configuration, `sx126x_send` calls
`ral_set_tx` when the polling loop ends, and every later call follows it. -/
theorem sx126xSend_calls_of_configured (bsp : Bsp) (pkt : LgwPktTx) {hal : HalState}
    (started : hal.vars.isStarted = true)
    (configured : (sx126xRadioConfigureTx hal.radio).1 = lgwHalSuccess) :
    (ral .setTx (waitForSendTime pkt.countUs
        (tcxoStartupTimeUs bsp.tcxoStartupTimeInTick sx126xRtcFreqInHz) sendWaitRounds
        (sx126xRadioConfigureTx hal.radio).2)).2.calls <:+
      (sx126xSend bsp pkt hal).2.radio.calls := by
  unfold sx126xSend
  generalize sx126xRadioConfigureTx hal.radio = configuration at configured
  obtain ⟨code, radio⟩ := configuration
  dsimp only at configured ⊢
  rw [if_neg (by rw [started]; decide), if_neg (by rw [configured]; decide),
    assertRalRc_singleton]
  generalize (ral .setTx (waitForSendTime pkt.countUs
      (tcxoStartupTimeUs bsp.tcxoStartupTimeInTick sx126xRtcFreqInHz) sendWaitRounds
      radio)) = started
  obtain ⟨reply, radio⟩ := started
  dsimp only
  split_ifs
  · exact List.suffix_refl _
  · have loop := txDoneLoop_calls_suffix radio.replies radio
    generalize txDoneLoop radio.replies radio = outcome at loop
    obtain ⟨_ | _, radio'⟩ := outcome
    · exact loop
    · exact loop.trans ((sx126xRadioConfigureRx_calls_suffix _ _ _ _).trans
        (sx126xRadioSetRx_calls_suffix _))

/-- `sx126x_send`, from a target more than the TCXO start-up time `s` ahead,
calls `ral_set_tx` right after the TX configuration, at a counter `c` from
which the preamble, `s` later, starts between 100 and 200 ms after the
target. -/
theorem sx126xSend_setTx_late (bsp : Bsp) (pkt : LgwPktTx) {hal : HalState}
    (started : hal.vars.isStarted = true)
    (configured : (sx126xRadioConfigureTx hal.radio).1 = lgwHalSuccess)
    (ahead : toInt32 (tcxoStartupTimeUs bsp.tcxoStartupTimeInTick sx126xRtcFreqInHz) <
      toInt32 (pkt.countUs - hal.radio.instCnt)) :
    ∃ counter later, (sx126xSend bsp pkt hal).2.radio.calls =
        later ++ (RalCall.setTx, counter) :: (RalCall.configureTx, hal.radio.instCnt) ::
          hal.radio.calls ∧
      -200000 < toInt32 (pkt.countUs -
        (counter + tcxoStartupTimeUs bsp.tcxoStartupTimeInTick sx126xRtcFreqInHz)) ∧
      toInt32 (pkt.countUs -
        (counter + tcxoStartupTimeUs bsp.tcxoStartupTimeInTick sx126xRtcFreqInHz)) ≤
          -100000 := by
  obtain ⟨counter, stops, above, below⟩ :=
    waitForSendTime_late pkt.countUs
      (tcxoStartupTimeUs bsp.tcxoStartupTimeInTick sx126xRtcFreqInHz)
      (sx126xRadioConfigureTx hal.radio).2
      (by have := tcxoStartupTimeUs_le bsp.tcxoStartupTimeInTick; omega)
      (by rwa [sx126xRadioConfigureTx_radio, ral_instCnt])
  obtain ⟨later, grown⟩ := sx126xSend_calls_of_configured bsp pkt started configured
  refine ⟨counter, later, ?_, above, below⟩
  rw [← grown, stops]
  simp only [ral_calls, sx126xRadioConfigureTx_radio]

/-- On the bench, a packet for one second after the start meets the
conditions of `sx126xSend_setTx_late`. -/
theorem bench_send_setTx_late :
    (benchStarted true).vars.isStarted = true ∧
      (sx126xRadioConfigureTx (benchStarted true).radio).1 = lgwHalSuccess ∧
      toInt32 (tcxoStartupTimeUs benchBsp.tcxoStartupTimeInTick sx126xRtcFreqInHz) <
        toInt32 (1000000 - (benchStarted true).radio.instCnt) ∧
      ∃ counter later, (sx126xSend benchBsp ⟨1000000⟩ (benchStarted true)).2.radio.calls =
          later ++ (RalCall.setTx, counter) ::
            (RalCall.configureTx, (benchStarted true).radio.instCnt) ::
              (benchStarted true).radio.calls ∧
        -200000 < toInt32 (1000000 -
          (counter + tcxoStartupTimeUs benchBsp.tcxoStartupTimeInTick sx126xRtcFreqInHz)) ∧
        toInt32 (1000000 -
          (counter + tcxoStartupTimeUs benchBsp.tcxoStartupTimeInTick sx126xRtcFreqInHz)) ≤
            -100000 :=
  have started : (benchStarted true).vars.isStarted = true := by decide
  have configured : (sx126xRadioConfigureTx (benchStarted true).radio).1 = lgwHalSuccess := by
    decide
  have ahead : toInt32 (tcxoStartupTimeUs benchBsp.tcxoStartupTimeInTick sx126xRtcFreqInHz) <
      toInt32 (1000000 - (benchStarted true).radio.instCnt) := by
    decide
  ⟨started, configured, ahead, sx126xSend_setTx_late benchBsp ⟨1000000⟩ started configured ahead⟩

/-- On the bench, without TCXO start-up time, a packet for one second after
the start is started at 1.1 s, 100 ms after its timestamp. -/
theorem bench_send_starts_100_ms_late :
    (RalCall.setTx, 1100000) ∈ (sx126xSend benchBsp ⟨1000000⟩ (benchStarted true)).2.radio.calls ∧
      toInt32 (1000000 -
        (1100000 + tcxoStartupTimeUs benchBsp.tcxoStartupTimeInTick sx126xRtcFreqInHz)) =
          -100000 := by
  decide

end LoraFwd.Hal
