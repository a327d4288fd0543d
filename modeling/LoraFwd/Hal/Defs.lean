import LoraFwd.CTypes

/-!
# The sx126x HAL: codes, configuration and packet records

The parts of `basic_hal.h` and `lorahub_hal.h` that the LoRaHub HAL reads:
the return codes, the modulation, bandwidth, datarate and coderate codes with
the `IS_LORA_*` checks, the status codes `sx126x_status` reports, the two
configuration structures and the fields of the RX and TX packet structures the
HAL touches.

The radio abstraction layer (`ral_*`) is not part of the repository.  A call
into it is a `RalCall`, holding the arguments the HAL computes, and the radio's
answer is a `RalReply`: the `ral_status_t` and the data the call hands back.
The IRQ register is kept as the four conditions the code tests on it,
`( irq_regs & RAL_IRQ_x ) == RAL_IRQ_x`.
-/

namespace LoraFwd.Hal

/-! ## Codes of `basic_hal.h` -/

/-- `LGW_HAL_SUCCESS`. -/
def lgwHalSuccess : Int := 0

/-- `LGW_HAL_ERROR`. -/
def lgwHalError : Int := -1

theorem lgwHalError_ne_lgwHalSuccess : lgwHalError ≠ lgwHalSuccess := by decide

/-- `MOD_UNDEFINED`. -/
def modUndefined : UInt8 := 0

/-- `MOD_LORA`. -/
def modLora : UInt8 := 0x10

/-- `MOD_FSK`. -/
def modFsk : UInt8 := 0x20

/-- `BW_UNDEFINED`. -/
def bwUndefined : UInt8 := 0

/-- `BW_125KHZ`. -/
def bw125Khz : UInt8 := 0x04

/-- `BW_250KHZ`. -/
def bw250Khz : UInt8 := 0x05

/-- `BW_500KHZ`. -/
def bw500Khz : UInt8 := 0x06

/-- `BW_400KHZ`, a 2.4 GHz bandwidth. -/
def bw400Khz : UInt8 := 0x0E

/-- `BW_800KHZ`, a 2.4 GHz bandwidth. -/
def bw800Khz : UInt8 := 0x0F

/-- `DR_UNDEFINED`. -/
def drUndefined : UInt8 := 0

/-- `DR_LORA_SF5`. -/
def drLoraSf5 : UInt8 := 5

/-- `DR_LORA_SF6`. -/
def drLoraSf6 : UInt8 := 6

/-- `DR_LORA_SF7`. -/
def drLoraSf7 : UInt8 := 7

/-- `DR_LORA_SF8`. -/
def drLoraSf8 : UInt8 := 8

/-- `DR_LORA_SF9`. -/
def drLoraSf9 : UInt8 := 9

/-- `DR_LORA_SF10`. -/
def drLoraSf10 : UInt8 := 10

/-- `DR_LORA_SF11`. -/
def drLoraSf11 : UInt8 := 11

/-- `DR_LORA_SF12`. -/
def drLoraSf12 : UInt8 := 12

/-- `CR_UNDEFINED`. -/
def crUndefined : UInt8 := 0

/-- `CR_LORA_4_5`. -/
def crLora4_5 : UInt8 := 0x01

/-- `CR_LORA_4_6`. -/
def crLora4_6 : UInt8 := 0x02

/-- `CR_LORA_4_7`. -/
def crLora4_7 : UInt8 := 0x03

/-- `CR_LORA_4_8`. -/
def crLora4_8 : UInt8 := 0x04

/-- `STAT_UNDEFINED`. -/
def statUndefined : UInt8 := 0x00

/-- `STAT_CRC_BAD`. -/
def statCrcBad : UInt8 := 0x11

/-- `STAT_CRC_OK`. -/
def statCrcOk : UInt8 := 0x10

/-- `TX_STATUS`, the selector of `sx126x_status`. -/
def txStatus : UInt8 := 1

/-- `RX_STATUS`, the selector of `sx126x_status`. -/
def rxStatus : UInt8 := 2

/-- `TX_STATUS_UNKNOWN`. -/
def txStatusUnknown : UInt8 := 0

/-- `TX_OFF`: "TX modem disabled, it will ignore commands". -/
def txOff : UInt8 := 1

/-- `TX_FREE`: "TX modem is free, ready to receive a command". -/
def txFree : UInt8 := 2

/-- `TX_SCHEDULED`: "TX modem is loaded, ready to send the packet after an
event and/or delay". -/
def txScheduled : UInt8 := 3

/-- `TX_EMITTING`: "TX modem is emitting". -/
def txEmitting : UInt8 := 4

/-- `RX_STATUS_UNKNOWN`. -/
def rxStatusUnknown : UInt8 := 0

/-- `RX_OFF`: "RX modem is disabled, it will ignore commands". -/
def rxOff : UInt8 := 1

/-- `RX_ON`: "RX modem is receiving". -/
def rxOn : UInt8 := 2

/-- `RX_SUSPENDED`: "RX is suspended while a TX is ongoing". -/
def rxSuspended : UInt8 := 3

/-- `STD_LORA_PREAMBLE`. -/
def stdLoraPreamble : UInt16 := 8

/-- `HDR_LORA_PREAMBLE`. -/
def hdrLoraPreamble : UInt16 := 12

/-- `LORA_SYNC_WORD_PRIVATE`. -/
def loraSyncWordPrivate : UInt8 := 0x12

/-- `LORA_SYNC_WORD_PUBLIC_SUBGHZ`. -/
def loraSyncWordPublicSubghz : UInt8 := 0x34

/-- `LORA_SYNC_WORD_PUBLIC_WW2G4`. -/
def loraSyncWordPublicWw2g4 : UInt8 := 0x21

/-- `LPWAN_NETWORK_TYPE_PUBLIC`. -/
def lpwanNetworkTypePublic : Nat := 0

/-- `LPWAN_NETWORK_TYPE`, fixed to the public network. -/
def lpwanNetworkType : Nat := lpwanNetworkTypePublic

/-- `SX126X_RF_CHAIN_NB`. -/
def sx126xRfChainNb : UInt8 := 1

/-- `IS_LORA_BW`: the LoRa bandwidths, the 2.4 GHz ones included. -/
def isLoraBw (bw : UInt8) : Bool :=
  bw == bw125Khz || bw == bw250Khz || bw == bw500Khz || bw == bw400Khz || bw == bw800Khz

/-- `IS_LORA_DR`: the spreading factors 5 to 12. -/
def isLoraDr (dr : UInt8) : Bool :=
  dr == drLoraSf5 || dr == drLoraSf6 || dr == drLoraSf7 || dr == drLoraSf8 ||
    dr == drLoraSf9 || dr == drLoraSf10 || dr == drLoraSf11 || dr == drLoraSf12

/-- `IS_LORA_CR`: the coding rates 4/5 to 4/8. -/
def isLoraCr (cr : UInt8) : Bool :=
  cr == crLora4_5 || cr == crLora4_6 || cr == crLora4_7 || cr == crLora4_8

theorem isLoraDr_iff (dr : UInt8) : isLoraDr dr = true ↔ 5 ≤ dr.toNat ∧ dr.toNat ≤ 12 := by
  have injective : ∀ code : UInt8, dr = code ↔ dr.toNat = code.toNat :=
    fun _ => ⟨congrArg UInt8.toNat, UInt8.toNat.inj⟩
  simp only [isLoraDr, Bool.or_eq_true, beq_iff_eq, injective]
  simp only [drLoraSf5, drLoraSf6, drLoraSf7, drLoraSf8, drLoraSf9, drLoraSf10, drLoraSf11,
    drLoraSf12, UInt8.reduceToNat]
  omega

/-! ## Configuration and packet records -/

/-- `struct sx126x_conf_rxrf_s`, without the `rssi_offset` the HAL never reads. -/
structure Sx126xConfRxrf where
  freqHz : UInt32
  txEnable : Bool
deriving DecidableEq, Repr

/-- `struct sx126x_conf_rxif_s`; `datarate` is the array of
`LGW_MULTI_SF_NB = 2` spreading factors. -/
structure Sx126xConfRxif where
  modulation : UInt8
  bandwidth : UInt8
  datarate : UInt8 × UInt8
  coderate : UInt8
deriving DecidableEq, Repr

/--
The fields of `struct lgw_pkt_rx_s` that `sx126x_receive` writes.  `rssic` and
`snr` are `float`s holding an `int8_t` value, which they represent exactly.
-/
structure LgwPktRx where
  freqHz : UInt32
  ifChain : UInt8
  status : UInt8
  countUs : UInt32
  rfChain : UInt8
  modulation : UInt8
  bandwidth : UInt8
  datarate : UInt32
  coderate : UInt8
  rssic : Int
  snr : Int
  size : UInt16
  payload : List UInt8
deriving DecidableEq, Repr

/-- The packet after `memset( p, 0, sizeof( struct lgw_pkt_rx_s ) )`. -/
def LgwPktRx.zero : LgwPktRx where
  freqHz := 0
  ifChain := 0
  status := 0
  countUs := 0
  rfChain := 0
  modulation := 0
  bandwidth := 0
  datarate := 0
  coderate := 0
  rssic := 0
  snr := 0
  size := 0
  payload := List.replicate 256 0

/-- The field of `struct lgw_pkt_tx_s` that `sx126x_send` itself reads; the
others only reach `sx126x_radio_configure_tx`. -/
structure LgwPktTx where
  countUs : UInt32
deriving DecidableEq, Repr

/-! ## The radio abstraction layer -/

/-- `ral_lora_sf_t`, with the `-1` the HAL's conversion returns for an
unknown code. -/
inductive RalLoraSf
  | sf5 | sf6 | sf7 | sf8 | sf9 | sf10 | sf11 | sf12 | invalid
deriving DecidableEq, Repr

/-- `ral_lora_bw_t`, restricted to the sub-GHz bandwidths the HAL converts. -/
inductive RalLoraBw
  | bw125Khz | bw250Khz | bw500Khz | invalid
deriving DecidableEq, Repr

/-- `ral_lora_cr_t`, restricted to the coding rates the HAL converts. -/
inductive RalLoraCr
  | cr4_5 | cr4_6 | cr4_7 | cr4_8 | invalid
deriving DecidableEq, Repr

/--
A call of the radio abstraction layer with the arguments the HAL computes.
Arguments that never vary (the standby mode, the packet type, the IRQ masks,
the explicit header and CRC settings) are left out.  `configureTx` stands for
`sx126x_radio_configure_tx`, whose code is not in the repository.
-/
inductive RalCall
  | reset
  | init
  | setRxTxFallbackMode
  | setStandby
  | setPktType
  | setLoraModParams (sf : RalLoraSf) (bw : RalLoraBw) (cr : RalLoraCr)
  | setLoraPktParams (preambleLenInSymb : UInt16)
  | setLoraSyncWord (syncWord : UInt8)
  | setRfFreq (freqHz : UInt32)
  | calImg (freqMhzLow freqMhzHigh : UInt16)
  | setLoraSymbNbTimeout
  | setDioIrqParams
  | clearIrqStatus
  | setRx (timeoutMs : UInt32)
  | getAndClearIrqStatus
  | getLoraRxPktStatus
  | getPktPayload
  | setTx
  | configureTx
deriving DecidableEq, Repr

/-- The IRQ register as the four tests the HAL makes on it. -/
structure RalIrq where
  txDone : Bool
  rxDone : Bool
  rxCrcError : Bool
  rxTimeout : Bool
deriving DecidableEq, Repr

/--
The radio's answer to one call: whether it returned `RAL_STATUS_OK`, and the
data the call hands back (the IRQ register, the packet status, the payload and
its size), of which each call reads its own part.
-/
structure RalReply where
  ok : Bool
  irq : RalIrq
  rssiPktInDbm : Int
  snrPktInDb : Int8
  payload : List UInt8
  size : UInt16
deriving DecidableEq

/-- An IRQ register with no condition set. -/
def RalIrq.none : RalIrq := ⟨false, false, false, false⟩

/-- A call that returns `RAL_STATUS_OK` and hands back nothing of note. -/
def RalReply.accepted : RalReply := ⟨true, RalIrq.none, 0, 0, [], 0⟩

/-- A call that fails. -/
def RalReply.failed : RalReply := ⟨false, RalIrq.none, 0, 0, [], 0⟩

end LoraFwd.Hal
