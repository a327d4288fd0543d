import LoraFwd.Relay.Codec

/-!
# The relay wire layout

The layout the relay section of the specification gives, and which the header
of `lora_relay_protocol.h` promises on big-endian and little-endian hosts
alike: one MHDR byte, the META block with its 12-bit identifiers and 4-bit
fields, every multi-byte integer most significant byte first, then the
payload.  The definitions of this module follow those words, not the code, so
that the packers can be compared with them.

The uplink and event packers write this layout on every host, and the
downlink packer writes it on a big-endian host.  On a little-endian host
`host_to_be32` swaps the bytes of `frequency` and `count_us`, and the shifts
that follow already store a word most significant byte first, so the two
32-bit fields of a downlink go out least significant byte first.
-/

namespace LoraFwd.Relay

open LoraFwd.CTypes

/-- A "u32 BE" of the specification: the four base-256 digits of a word, most
significant first. -/
def u32Be (word : UInt32) : List UInt8 :=
  [(word.toNat / 2 ^ 24).toUInt8, (word.toNat / 2 ^ 16 % 256).toUInt8,
    (word.toNat / 2 ^ 8 % 256).toUInt8, (word.toNat % 256).toUInt8]

/-- The MHDR of the specification: meta-type in bits 7..5, payload-type in bits
4..3, hop count in bits 2..0. -/
def wireMhdr (metaType : MetaType) (payloadType : PayloadType) (hopCount : UInt8) :
    UInt8 :=
  (metaType.toNat % 8 * 32 + payloadType.toNat % 4 * 8 + hopCount.toNat % 8).toUInt8

/-- Two 4-bit fields in one byte, the first in the high nibble. -/
def wireNibbles (high low : Nat) : UInt8 :=
  (high % 16 * 16 + low % 16).toUInt8

/-- An uplink frame of the specification: MHDR, `uplink_id` (12 bits) and
`data_rate` (4 bits), rssi, snr, channel, then the payload. -/
def wireUplinkFrame (packet : UplinkPacket) : List UInt8 :=
  [wireMhdr packet.metaType packet.payloadType packet.hopCount,
    (packet.uplinkId.toNat / 16).toUInt8, wireNibbles packet.uplinkId.toNat packet.dataRate.toNat,
    packet.rssi.toUInt8, packet.snr.toUInt8, packet.channel] ++
    packet.phyPayload.take packet.payloadLen.toNat

/-- A downlink frame of the specification: MHDR, `dwlink_id` (12 bits) and
`data_rate` (4 bits), frequency (u32 BE), `tx_power` and `delay` (4 bits
each), `count_us` (u32 BE), then the payload. -/
def wireDownlinkFrame (packet : DownlinkPacket) : List UInt8 :=
  [wireMhdr packet.metaType packet.payloadType packet.hopCount,
    (packet.dwlinkId.toNat / 16).toUInt8,
    wireNibbles packet.dwlinkId.toNat packet.dataRate.toNat] ++
    u32Be packet.frequency ++ [wireNibbles packet.txPower.toNat packet.delay.toNat] ++
    u32Be packet.countUs ++ packet.phyPayload.take packet.payloadLen.toNat

/-- An event frame of the specification: MHDR, `event_id` (u16 BE),
`event_type` (u8), then the payload. -/
def wireEventFrame (packet : EventPacket) : List UInt8 :=
  [wireMhdr packet.metaType packet.payloadType packet.hopCount,
    (packet.eventId.toNat / 256).toUInt8, (packet.eventId.toNat % 256).toUInt8,
    packet.eventType.toNat.toUInt8] ++
    packet.eventPayload.take packet.payloadLen.toNat

/-! ## The code's stores against the layout -/

theorem buildMhdr_eq_wireMhdr (metaType : MetaType) (payloadType : PayloadType)
    (hopCount : UInt8) : buildMhdr metaType payloadType hopCount =
      wireMhdr metaType payloadType hopCount :=
  UInt8.toNat.inj (by rw [toNat_buildMhdr, wireMhdr, toNat_toUInt8]; omega)

theorem high12_eq (word : Nat) : ((word >>> 4) &&& 0xFF).toUInt8 = (word / 16).toUInt8 :=
  UInt8.toNat.inj (by rw [toNat_high12, toNat_toUInt8])

theorem nibbles_eq_wireNibbles (high low : Nat) :
    (((high &&& 0x0F) <<< 4) ||| (low &&& 0x0F)).toUInt8 = wireNibbles high low :=
  UInt8.toNat.inj (by rw [toNat_nibbles, wireNibbles, toNat_toUInt8]; omega)

/-- The shifts of `storeBe32` write the word most significant byte first. -/
theorem storeBe32_eq_u32Be (word : UInt32) : storeBe32 word = u32Be word := by
  have bound := toNat_lt_2_32 word
  simp only [storeBe32, u32Be, and_0xFF, Nat.shiftRight_eq_div_pow, List.cons.injEq, and_true]
  apply UInt8.toNat.inj
  simp only [toNat_toUInt8, Nat.reducePow]
  omega

/-- On a little-endian host a word goes through `host_to_be32` and comes out
least significant byte first. -/
theorem storeBe32_hostToBe32_false (word : UInt32) :
    storeBe32 (hostToBe32 false word) = (u32Be word).reverse := by
  have small : word.toNat % 256 < 256 ∧ word.toNat / 256 % 256 < 256 ∧
      word.toNat / 65536 % 256 < 256 ∧ word.toNat / 16777216 % 256 < 256 := by
    omega
  rw [storeBe32_eq_u32Be, hostToBe32]
  simp only [u32Be, List.reverse_cons, List.reverse_nil, List.nil_append, List.cons_append,
    List.singleton_append, List.cons.injEq, and_true]
  refine ⟨UInt8.toNat.inj ?_, UInt8.toNat.inj ?_, UInt8.toNat.inj ?_, UInt8.toNat.inj ?_⟩ <;>
    simp only [toNat_toUInt8, beToHost32_false_toNat, Nat.reducePow] <;>
    generalize word.toNat % 256 = byte0, word.toNat / 256 % 256 = byte1,
      word.toNat / 65536 % 256 = byte2, word.toNat / 16777216 % 256 = byte3 at small ⊢ <;>
    omega

/-! ## The packers against the layout -/

/-- `pack_uplink_packet` writes the specification's layout, on every host. -/
theorem packUplinkPacket_data_eq_wire {packet : UplinkPacket} {frame : Frame}
    (packed : packUplinkPacket packet = some frame) : frame.data = wireUplinkFrame packet := by
  rw [(packUplinkPacket_eq_some packed).2.2.2.1, wireUplinkFrame, buildMhdr_eq_wireMhdr,
    high12_eq, nibbles_eq_wireNibbles]

/-- An uplink with ID `0x123` packs to the layout. -/
theorem pack_uplink_id_0x123_layout :
    (packUplinkPacket (createUplinkPacketWithParams 0x123 5 0 7 2)).map Frame.data =
      some (wireUplinkFrame (createUplinkPacketWithParams 0x123 5 0 7 2)) := by
  obtain ⟨frame, packed⟩ :
      ∃ frame, packUplinkPacket (createUplinkPacketWithParams 0x123 5 0 7 2) = some frame :=
    ⟨_, rfl⟩
  rw [packed, Option.map_some', packUplinkPacket_data_eq_wire packed]

/-- `pack_event_packet` writes the specification's layout, on every host. -/
theorem packEventPacket_data_eq_wire {packet : EventPacket} {frame : Frame}
    (packed : packEventPacket packet = some frame) : frame.data = wireEventFrame packet := by
  have identifier := toNat_lt_65536 packet.eventId
  rw [(packEventPacket_eq_some packed).2.2.2.1, wireEventFrame, buildMhdr_eq_wireMhdr]
  simp only [List.cons_append, List.cons.injEq, true_and, and_true]
  refine ⟨UInt8.toNat.inj ?_, UInt8.toNat.inj ?_⟩ <;>
    simp only [and_0xFF, Nat.shiftRight_eq_div_pow, toNat_toUInt8, Nat.reducePow]
  omega

/-- An event with ID `0x1234` packs to the layout. -/
theorem pack_event_id_0x1234_layout :
    (packEventPacket ⟨MetaType.lorawanType, PayloadType.eventType, 0, 0x1234, 5,
        List.replicate maxEventPayloadLen 0, 0, List.length_replicate _ _⟩).map Frame.data =
      some (wireEventFrame ⟨MetaType.lorawanType, PayloadType.eventType, 0, 0x1234, 5,
        List.replicate maxEventPayloadLen 0, 0, List.length_replicate _ _⟩) := by
  obtain ⟨frame, packed⟩ : ∃ frame, packEventPacket ⟨MetaType.lorawanType, PayloadType.eventType,
      0, 0x1234, 5, List.replicate maxEventPayloadLen 0, 0, List.length_replicate _ _⟩ =
        some frame :=
    ⟨_, rfl⟩
  rw [packed, Option.map_some', packEventPacket_data_eq_wire packed]

/-- On a big-endian host `pack_downlink_packet` writes the specification's
layout. -/
theorem packDownlinkPacket_true_data_eq_wire {packet : DownlinkPacket} {frame : Frame}
    (packed : packDownlinkPacket true packet = some frame) :
    frame.data = wireDownlinkFrame packet := by
  rw [(packDownlinkPacket_eq_some packed).2.2.2.1, wireDownlinkFrame, buildMhdr_eq_wireMhdr,
    high12_eq, nibbles_eq_wireNibbles, nibbles_eq_wireNibbles, hostToBe32, hostToBe32,
    beToHost32_true, beToHost32_true, storeBe32_eq_u32Be, storeBe32_eq_u32Be]

/-- A downlink for 868.1 MHz packed on a big-endian host has the layout. -/
theorem pack_downlink_868_1_mhz_big_endian_layout :
    (packDownlinkPacket true (createDownlinkPacketWithParams 0 0 868100000 0 0)).map Frame.data =
      some (wireDownlinkFrame (createDownlinkPacketWithParams 0 0 868100000 0 0)) := by
  obtain ⟨frame, packed⟩ : ∃ frame,
      packDownlinkPacket true (createDownlinkPacketWithParams 0 0 868100000 0 0) = some frame :=
    ⟨_, rfl⟩
  rw [packed, Option.map_some', packDownlinkPacket_true_data_eq_wire packed]

/-- On a little-endian host `pack_downlink_packet` writes the specification's
layout except that `frequency` and `count_us` go out least significant byte
first. -/
theorem packDownlinkPacket_false_data {packet : DownlinkPacket} {frame : Frame}
    (packed : packDownlinkPacket false packet = some frame) :
    frame.data =
      [wireMhdr packet.metaType packet.payloadType packet.hopCount,
        (packet.dwlinkId.toNat / 16).toUInt8,
        wireNibbles packet.dwlinkId.toNat packet.dataRate.toNat] ++
        (u32Be packet.frequency).reverse ++ [wireNibbles packet.txPower.toNat packet.delay.toNat] ++
        (u32Be packet.countUs).reverse ++ packet.phyPayload.take packet.payloadLen.toNat := by
  rw [(packDownlinkPacket_eq_some packed).2.2.2.1, buildMhdr_eq_wireMhdr, high12_eq,
    nibbles_eq_wireNibbles, nibbles_eq_wireNibbles, storeBe32_hostToBe32_false,
    storeBe32_hostToBe32_false]

/-- A downlink for 868.1 MHz packed on a little-endian host has the layout
with the frequency and `count_us` bytes reversed. -/
theorem pack_downlink_868_1_mhz_little_endian_layout :
    (packDownlinkPacket false (createDownlinkPacketWithParams 0 0 868100000 0 0)).map
        Frame.data =
      some ([0xE8, 0x00, 0x00] ++ (u32Be 868100000).reverse ++ [0x00] ++ (u32Be 0).reverse) := by
  obtain ⟨frame, packed⟩ : ∃ frame,
      packDownlinkPacket false (createDownlinkPacketWithParams 0 0 868100000 0 0) = some frame :=
    ⟨_, rfl⟩
  rw [packed, Option.map_some', packDownlinkPacket_false_data packed]
  decide

/-- A downlink for 868.1 MHz packed on a little-endian host carries the
frequency bytes `A0 27 BE 33` where the layout has `33 BE 27 A0`. -/
theorem pack_downlink_868_1_mhz_little_endian :
    (packDownlinkPacket false (createDownlinkPacketWithParams 0 0 868100000 0 0)).map
        Frame.data =
      some [0xE8, 0x00, 0x00, 0xA0, 0x27, 0xBE, 0x33, 0x00, 0x00, 0x00, 0x00, 0x00] ∧
    wireDownlinkFrame (createDownlinkPacketWithParams 0 0 868100000 0 0) =
      [0xE8, 0x00, 0x00, 0x33, 0xBE, 0x27, 0xA0, 0x00, 0x00, 0x00, 0x00, 0x00] := by
  decide

end LoraFwd.Relay
