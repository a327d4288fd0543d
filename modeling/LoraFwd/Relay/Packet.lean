import LoraFwd.CTypes

/-!
# LoraRelay packets

The data model of `lora_relay_protocol.h`: the three packet structures
(uplink, downlink and event), the constants they are checked against, and the
constructors `init_*_packet`, `create_*_packet` and `create_*_with_params` of
`lora_relay_protocol.c`.

A packet keeps the C layout.  The payload is the whole fixed-size array
`phy_payload[MAX_PHY_PAYLOAD_LEN]` (`event_payload[MAX_EVENT_PAYLOAD_LEN]`),
whose length is a field of the structure, and `payload_len` says how much of it
is meaningful.  The enumerations `meta_type_t`, `payload_type_t` and
`event_type_t` are stored as the `unsigned int` a C compiler gives them, so a
packet may carry any value in those fields and the codec's checks are
meaningful.

`malloc` is assumed to succeed, and `rand()` is an argument: the model
describes what the constructors build, not where the randomness comes from.
-/

namespace LoraFwd.Relay

/-- `MAX_PHY_PAYLOAD_LEN`: 255 minus the 8-byte relay overhead. -/
def maxPhyPayloadLen : Nat := 245

/-- `MAX_EVENT_PAYLOAD_LEN`. -/
def maxEventPayloadLen : Nat := 240

/-- `meta_type_t`, a C enumeration held in an `unsigned int`. -/
abbrev MetaType := UInt32

/-- `payload_type_t`, a C enumeration held in an `unsigned int`. -/
abbrev PayloadType := UInt32

/-- `event_type_t`, a C enumeration held in an `unsigned int`. -/
abbrev EventType := UInt32

/-- `LORAWAN_TYPE`, binary `111`. -/
def MetaType.lorawanType : MetaType := 0x07

/-- `UPLINK_TYPE`, binary `00`. -/
def PayloadType.uplinkType : PayloadType := 0x00

/-- `DOWNLINK_TYPE`, binary `01`. -/
def PayloadType.downlinkType : PayloadType := 0x01

/-- `EVENT_TYPE`, binary `11`. -/
def PayloadType.eventType : PayloadType := 0x03

@[simp]
theorem MetaType.toNat_lorawanType : MetaType.lorawanType.toNat = 7 := rfl

@[simp]
theorem PayloadType.toNat_uplinkType : PayloadType.uplinkType.toNat = 0 := rfl

@[simp]
theorem PayloadType.toNat_downlinkType : PayloadType.downlinkType.toNat = 1 := rfl

@[simp]
theorem PayloadType.toNat_eventType : PayloadType.eventType.toNat = 3 := rfl

/-- `struct uplink_packet`: MHDR, uplink META and the PHY payload array. -/
structure UplinkPacket where
  metaType : MetaType
  payloadType : PayloadType
  hopCount : UInt8
  uplinkId : UInt16
  dataRate : UInt8
  rssi : Int8
  snr : Int8
  channel : UInt8
  phyPayload : List UInt8
  payloadLen : UInt16
  phyPayload_length : phyPayload.length = maxPhyPayloadLen
deriving DecidableEq

/-- `struct downlink_packet`: MHDR, downlink META, `count_us` and the PHY
payload array. -/
structure DownlinkPacket where
  metaType : MetaType
  payloadType : PayloadType
  hopCount : UInt8
  dwlinkId : UInt16
  dataRate : UInt8
  frequency : UInt32
  txPower : UInt8
  delay : UInt8
  countUs : UInt32
  phyPayload : List UInt8
  payloadLen : UInt16
  phyPayload_length : phyPayload.length = maxPhyPayloadLen
deriving DecidableEq

/-- `struct event_packet`: MHDR, event META and the event payload array. -/
structure EventPacket where
  metaType : MetaType
  payloadType : PayloadType
  hopCount : UInt8
  eventId : UInt16
  eventType : EventType
  eventPayload : List UInt8
  payloadLen : UInt16
  eventPayload_length : eventPayload.length = maxEventPayloadLen
deriving DecidableEq

/-! ## Constructors -/

/-- `generate_uplink_id`: the low twelve bits of the next `rand()` value. -/
def generateUplinkId (random : Nat) : UInt16 :=
  (random &&& 0x0FFF).toUInt16

/-- `generate_dwlink_id` reuses `generate_uplink_id`. -/
def generateDwlinkId (random : Nat) : UInt16 :=
  generateUplinkId random

theorem generateUplinkId_lt (random : Nat) :
    (generateUplinkId random).toNat < 4096 := by
  have mask : random &&& 0x0FFF = random % 4096 :=
    Nat.and_pow_two_sub_one_eq_mod random 12
  simp only [generateUplinkId, mask, CTypes.toNat_toUInt16]
  omega

/-- `init_uplink_packet`: the whole structure zeroed, then the discriminators
set to `LORAWAN_TYPE` and `UPLINK_TYPE`. -/
def initUplinkPacket : UplinkPacket where
  metaType := MetaType.lorawanType
  payloadType := PayloadType.uplinkType
  hopCount := 0
  uplinkId := 0
  dataRate := 0
  rssi := 0
  snr := 0
  channel := 0
  phyPayload := List.replicate maxPhyPayloadLen 0
  payloadLen := 0
  phyPayload_length := List.length_replicate _ _

/-- `create_uplink_packet`: a fresh initialised packet. -/
def createUplinkPacket : UplinkPacket := initUplinkPacket

/-- `create_uplink_packet_with_params`: a fresh packet with a random uplink ID
and the given radio metadata. -/
def createUplinkPacketWithParams (random : Nat) (dataRate : UInt8)
    (rssi snr : Int8) (channel : UInt8) : UplinkPacket :=
  { createUplinkPacket with
    uplinkId := generateUplinkId random
    dataRate := dataRate
    rssi := rssi
    snr := snr
    channel := channel }

/-- `init_downlink_packet`: the whole structure zeroed, then the
discriminators set to `LORAWAN_TYPE` and `DOWNLINK_TYPE`. -/
def initDownlinkPacket : DownlinkPacket where
  metaType := MetaType.lorawanType
  payloadType := PayloadType.downlinkType
  hopCount := 0
  dwlinkId := 0
  dataRate := 0
  frequency := 0
  txPower := 0
  delay := 0
  countUs := 0
  phyPayload := List.replicate maxPhyPayloadLen 0
  payloadLen := 0
  phyPayload_length := List.length_replicate _ _

/-- `create_downlink_packet`: a fresh initialised packet. -/
def createDownlinkPacket : DownlinkPacket := initDownlinkPacket

/-- `create_downlink_packet_with_params`: a fresh packet with a random
downlink ID and the given transmit parameters. -/
def createDownlinkPacketWithParams (random : Nat) (dataRate : UInt8)
    (frequency : UInt32) (txPower delay : UInt8) : DownlinkPacket :=
  { createDownlinkPacket with
    dwlinkId := generateDwlinkId random
    dataRate := dataRate
    frequency := frequency
    txPower := txPower
    delay := delay }

end LoraFwd.Relay
