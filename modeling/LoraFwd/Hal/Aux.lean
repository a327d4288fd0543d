import LoraFwd.Hal.Defs

/-!
# The HAL's auxiliary functions

`lorahub_aux.c`: the conversions from the HAL's datarate, bandwidth and
coderate codes to the radio layer's enumerations, the check of LoRa
modulation parameters that guards every reception setup, and the choice of
the LoRa sync word.

`sx126x_check_lora_mod_params` is the only place where the HAL rejects a
frequency, and it accepts fewer bandwidths than `IS_LORA_BW`: the 2.4 GHz
bandwidths pass `sx126x_rxif_setconf` and are refused here.
-/

namespace LoraFwd.Hal

open LoraFwd.CTypes

/-- `sx126x_convert_hal_to_ral_sf`. -/
def sx126xConvertHalToRalSf (sf : UInt8) : RalLoraSf :=
  if sf = drLoraSf5 then .sf5
  else if sf = drLoraSf6 then .sf6
  else if sf = drLoraSf7 then .sf7
  else if sf = drLoraSf8 then .sf8
  else if sf = drLoraSf9 then .sf9
  else if sf = drLoraSf10 then .sf10
  else if sf = drLoraSf11 then .sf11
  else if sf = drLoraSf12 then .sf12
  else .invalid

/-- `sx126x_convert_hal_to_ral_bw`. -/
def sx126xConvertHalToRalBw (bw : UInt8) : RalLoraBw :=
  if bw = bw125Khz then .bw125Khz
  else if bw = bw250Khz then .bw250Khz
  else if bw = bw500Khz then .bw500Khz
  else .invalid

/-- `sx126x_convert_hal_to_ral_cr`. -/
def sx126xConvertHalToRalCr (cr : UInt8) : RalLoraCr :=
  if cr = crLora4_5 then .cr4_5
  else if cr = crLora4_6 then .cr4_6
  else if cr = crLora4_7 then .cr4_7
  else if cr = crLora4_8 then .cr4_8
  else .invalid

/-- `FREQ_HZ_SUBGHZ_MIN`. -/
def freqHzSubghzMin : UInt32 := 150000000

/-- `FREQ_HZ_SUBGHZ_MAX`. -/
def freqHzSubghzMax : UInt32 := 960000000

/-- `sx126x_check_lora_mod_params`: a sub-GHz frequency, a sub-GHz LoRa
bandwidth and a LoRa coding rate. -/
def sx126xCheckLoraModParams (freqHz : UInt32) (bw cr : UInt8) : Int :=
  if freqHz < freqHzSubghzMin ∨ freqHz > freqHzSubghzMax then lgwHalError
  else if bw ≠ bw125Khz ∧ bw ≠ bw250Khz ∧ bw ≠ bw500Khz then lgwHalError
  else if cr ≠ crLora4_5 ∧ cr ≠ crLora4_6 ∧ cr ≠ crLora4_7 ∧ cr ≠ crLora4_8 then lgwHalError
  else lgwHalSuccess

/-- `sx126x_get_lora_sync_word`: the public sync words on the public network,
except below SF7 on sub-GHz. -/
def sx126xGetLoraSyncWord (freqHz : UInt32) (sf : UInt8) : UInt8 :=
  if lpwanNetworkType = lpwanNetworkTypePublic then
    if freqHz.toNat ≥ 2400000000 then loraSyncWordPublicWw2g4
    else if sf ≥ drLoraSf7 then loraSyncWordPublicSubghz
    else loraSyncWordPrivate
  else loraSyncWordPrivate

/-- `sx126x_check_lora_dualsf_conf`, which accepts every configuration. -/
def sx126xCheckLoraDualsfConf (_bw _sf1 _sf2 : UInt8) : Int := lgwHalSuccess

/-- The LoRa reception parameters `sx126x_check_lora_mod_params` accepts. -/
structure LoraModParamsOk (freqHz : UInt32) (bw cr : UInt8) : Prop where
  freqHz : 150000000 ≤ freqHz.toNat ∧ freqHz.toNat ≤ 960000000
  bandwidth : bw = bw125Khz ∨ bw = bw250Khz ∨ bw = bw500Khz
  coderate : cr = crLora4_5 ∨ cr = crLora4_6 ∨ cr = crLora4_7 ∨ cr = crLora4_8

theorem sx126xCheckLoraModParams_eq_success {freqHz : UInt32} {bw cr : UInt8} :
    sx126xCheckLoraModParams freqHz bw cr = lgwHalSuccess ↔ LoraModParamsOk freqHz bw cr := by
  have inRange : ¬(freqHz < freqHzSubghzMin ∨ freqHz > freqHzSubghzMax) ↔
      150000000 ≤ freqHz.toNat ∧ freqHz.toNat ≤ 960000000 := by
    simp only [uint32_lt_iff, gt_iff_lt, freqHzSubghzMin, freqHzSubghzMax, UInt32.reduceToNat]
    omega
  unfold sx126xCheckLoraModParams
  constructor
  · intro success
    split_ifs at success with frequency bandwidth coderate
    iterate 3 exact absurd success (by decide)
    simp only [not_and_or, ne_eq, not_not] at bandwidth coderate
    exact ⟨inRange.mp frequency, bandwidth, coderate⟩
  · rintro ⟨frequency, bandwidth, coderate⟩
    rw [if_neg (inRange.mpr frequency), if_neg (by simpa only [not_and_or, ne_eq, not_not]),
      if_neg (by simpa only [not_and_or, ne_eq, not_not])]

end LoraFwd.Hal
