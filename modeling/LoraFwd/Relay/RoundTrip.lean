import LoraFwd.Relay.Codec

/-!
# Round trips of the relay codec

The codec is a bijection between the packets whose fields fit the wire and the
frames the decoders accept, on either kind of host:

* a valid packet is packed, and its frame decodes to a packet equal to it in
  every header field and in the meaningful part of the payload
  (`relay_round_trip`);
* every accepted frame is the packing of the packet it decodes to
  (`relay_frame_canonical`);
* the decoders accept exactly the frames of the right length whose MHDR
  carries their discriminators, the uplink decoder also checking the SNR byte
  (`relay_unpack_accepts_iff`).

The packers check only the payload length and the discriminators, so a packed
uplink with an SNR outside `[-32, 31]` is refused by its own decoder
(`relay_pack_then_unpack_accepts`).
-/

namespace LoraFwd.Relay

open LoraFwd.CTypes

/-- An uplink packet whose fields fit the widths the wire gives them. -/
structure UplinkPacket.Valid (packet : UplinkPacket) : Prop where
  metaType : packet.metaType = MetaType.lorawanType
  payloadType : packet.payloadType = PayloadType.uplinkType
  hopCount : packet.hopCount.toNat ≤ 7
  uplinkId : packet.uplinkId.toNat ≤ 0xFFF
  dataRate : packet.dataRate.toNat ≤ 15
  snr : -32 ≤ packet.snr.toInt ∧ packet.snr.toInt ≤ 31
  payloadLen : packet.payloadLen.toNat ≤ maxPhyPayloadLen

/-- Two uplink packets carry the same frame: equal header fields and equal
first `payload_len` payload bytes. -/
structure UplinkPacket.SameFrame (decoded packet : UplinkPacket) : Prop where
  metaType : decoded.metaType = packet.metaType
  payloadType : decoded.payloadType = packet.payloadType
  hopCount : decoded.hopCount = packet.hopCount
  uplinkId : decoded.uplinkId = packet.uplinkId
  dataRate : decoded.dataRate = packet.dataRate
  rssi : decoded.rssi = packet.rssi
  snr : decoded.snr = packet.snr
  channel : decoded.channel = packet.channel
  payloadLen : decoded.payloadLen = packet.payloadLen
  payload : decoded.phyPayload.take packet.payloadLen.toNat =
    packet.phyPayload.take packet.payloadLen.toNat

/-- A downlink packet whose fields fit the widths the wire gives them. -/
structure DownlinkPacket.Valid (packet : DownlinkPacket) : Prop where
  metaType : packet.metaType = MetaType.lorawanType
  payloadType : packet.payloadType = PayloadType.downlinkType
  hopCount : packet.hopCount.toNat ≤ 7
  dwlinkId : packet.dwlinkId.toNat ≤ 0xFFF
  dataRate : packet.dataRate.toNat ≤ 15
  txPower : packet.txPower.toNat ≤ 15
  delay : packet.delay.toNat ≤ 15
  payloadLen : packet.payloadLen.toNat ≤ maxPhyPayloadLen

/-- Two downlink packets carry the same frame. -/
structure DownlinkPacket.SameFrame (decoded packet : DownlinkPacket) : Prop where
  metaType : decoded.metaType = packet.metaType
  payloadType : decoded.payloadType = packet.payloadType
  hopCount : decoded.hopCount = packet.hopCount
  dwlinkId : decoded.dwlinkId = packet.dwlinkId
  dataRate : decoded.dataRate = packet.dataRate
  frequency : decoded.frequency = packet.frequency
  txPower : decoded.txPower = packet.txPower
  delay : decoded.delay = packet.delay
  countUs : decoded.countUs = packet.countUs
  payloadLen : decoded.payloadLen = packet.payloadLen
  payload : decoded.phyPayload.take packet.payloadLen.toNat =
    packet.phyPayload.take packet.payloadLen.toNat

/-- An event packet whose fields fit the widths the wire gives them. -/
structure EventPacket.Valid (packet : EventPacket) : Prop where
  metaType : packet.metaType = MetaType.lorawanType
  payloadType : packet.payloadType = PayloadType.eventType
  hopCount : packet.hopCount.toNat ≤ 7
  eventType : packet.eventType.toNat ≤ 0xFF
  payloadLen : packet.payloadLen.toNat ≤ maxEventPayloadLen

/-- Two event packets carry the same frame. -/
structure EventPacket.SameFrame (decoded packet : EventPacket) : Prop where
  metaType : decoded.metaType = packet.metaType
  payloadType : decoded.payloadType = packet.payloadType
  hopCount : decoded.hopCount = packet.hopCount
  eventId : decoded.eventId = packet.eventId
  eventType : decoded.eventType = packet.eventType
  payloadLen : decoded.payloadLen = packet.payloadLen
  payload : decoded.eventPayload.take packet.payloadLen.toNat =
    packet.eventPayload.take packet.payloadLen.toNat

/-! ## Packed frames meet their decoder -/

/-- A frame `pack_uplink_packet` produced is accepted by `unpack_uplink_packet`
exactly when the packet's SNR is in range, the one check the packer omits. -/
theorem unpackUplinkPacket_fst_of_pack {packet : UplinkPacket} {frame : Frame}
    (packed : packUplinkPacket packet = some frame) (caller : UplinkPacket) :
    (unpackUplinkPacket frame caller).1 = true ↔
      -32 ≤ packet.snr.toInt ∧ packet.snr.toInt ≤ 31 := by
  obtain ⟨short, uplink, lorawan, data, len⟩ := packUplinkPacket_eq_some packed
  simp only [maxPhyPayloadLen] at short
  have lengthInRange : 6 ≤ frame.len.toNat ∧ frame.len.toNat ≤ 251 := by omega
  have mask : buildMhdr packet.metaType packet.payloadType packet.hopCount &&& 0xF8 = 0xE0 :=
    UInt8.toNat.inj (by rw [toNat_buildMhdr_and_0xF8, lorawan, uplink]; rfl)
  have snrByte : Int8.mk packet.snr.toUInt8 = packet.snr := rfl
  simp only [unpackUplinkPacket_fst, Frame.byte, data, List.cons_append, List.getD_cons_zero,
    List.getD_cons_succ, lengthInRange, mask, snrByte, true_and]

/-- A frame `pack_downlink_packet` produced is accepted by
`unpack_downlink_packet` on the same host. -/
theorem unpackDownlinkPacket_fst_of_pack {isBigEndian : Bool} {packet : DownlinkPacket}
    {frame : Frame} (packed : packDownlinkPacket isBigEndian packet = some frame)
    (caller : DownlinkPacket) : (unpackDownlinkPacket isBigEndian frame caller).1 = true := by
  obtain ⟨short, downlink, lorawan, data, len⟩ := packDownlinkPacket_eq_some packed
  simp only [maxPhyPayloadLen] at short
  rw [unpackDownlinkPacket_fst]
  simp only [Frame.byte, data, List.cons_append, List.getD_cons_zero]
  refine ⟨by omega, by omega, UInt8.toNat.inj ?_⟩
  rw [toNat_buildMhdr_and_0xF8, lorawan, downlink]
  rfl

/-- A frame `pack_event_packet` produced is accepted by `unpack_event_packet`. -/
theorem unpackEventPacket_fst_of_pack {packet : EventPacket} {frame : Frame}
    (packed : packEventPacket packet = some frame) (caller : EventPacket) :
    (unpackEventPacket frame caller).1 = true := by
  obtain ⟨short, event, lorawan, data, len⟩ := packEventPacket_eq_some packed
  simp only [maxEventPayloadLen] at short
  rw [unpackEventPacket_fst]
  simp only [Frame.byte, data, List.cons_append, List.getD_cons_zero]
  refine ⟨by omega, by omega, UInt8.toNat.inj ?_⟩
  rw [toNat_buildMhdr_and_0xF8, lorawan, event]
  rfl

/-! ## Uplink -/

/-- A valid uplink packet is packed into `6 + payload_len` bytes that decode
back to it. -/
theorem uplink_round_trip {packet : UplinkPacket} (valid : packet.Valid)
    (caller : UplinkPacket) :
    ∃ frame, packUplinkPacket packet = some frame ∧
      frame.len.toNat = 6 + packet.payloadLen.toNat ∧
      (unpackUplinkPacket frame caller).1 = true ∧
      (unpackUplinkPacket frame caller).2.SameFrame packet := by
  obtain ⟨lorawan, uplink, hop, ident, rate, snr, short⟩ := valid
  obtain ⟨frame, packed⟩ := packUplinkPacket_isSome short uplink lorawan
  obtain ⟨-, -, -, data, len⟩ := packUplinkPacket_eq_some packed
  simp only [maxPhyPayloadLen] at short
  have payloadLength := packet.phyPayload_length
  simp only [maxPhyPayloadLen] at payloadLength
  have accepted := (unpackUplinkPacket_fst_of_pack packed caller).mpr snr
  have decoded := unpackUplinkPacket_snd accepted
  simp only [Frame.byte, data, List.cons_append, List.getD_cons_zero, List.getD_cons_succ,
    parseMhdr_buildMhdr, List.drop_succ_cons, List.drop_zero, len, toNat_high12,
    toNat_nibbles, Nat.add_sub_cancel_left, List.nil_append] at decoded
  obtain ⟨decodedMeta, decodedType, decodedHop, decodedId, decodedRate, decodedRssi, decodedSnr,
    decodedChannel, decodedLen, decodedPayload⟩ := decoded
  refine ⟨frame, packed, len, accepted, ⟨?_, ?_, ?_, ?_, ?_, decodedRssi, decodedSnr,
    decodedChannel, ?_, ?_⟩⟩
  · rw [decodedMeta, lorawan]
  · rw [decodedType, uplink]
  · rw [decodedHop]
    exact UInt8.toNat.inj (by simp only [toNat_toUInt8]; omega)
  · exact UInt16.toNat.inj (by rw [decodedId]; exact (high12_nibbles_read ident rate).1)
  · exact UInt8.toNat.inj (by rw [decodedRate]; exact (high12_nibbles_read ident rate).2)
  · exact UInt16.toNat.inj (by rw [decodedLen])
  · exact decodedPayload

/-- Every frame `unpack_uplink_packet` accepts is the packing of the packet it
decodes to. -/
theorem uplink_frame_canonical {frame : Frame} {caller : UplinkPacket}
    (accepted : (unpackUplinkPacket frame caller).1 = true) :
    packUplinkPacket (unpackUplinkPacket frame caller).2 = some frame := by
  obtain ⟨long, short, discriminators, -⟩ := (unpackUplinkPacket_fst frame caller).mp accepted
  obtain ⟨decodedMeta, decodedType, decodedHop, decodedId, decodedRate, decodedRssi, decodedSnr,
    decodedChannel, decodedLen, decodedPayload⟩ := unpackUplinkPacket_snd accepted
  obtain ⟨packed, packedPacket⟩ := packUplinkPacket_isSome
    (by rw [decodedLen, maxPhyPayloadLen]; omega) decodedType decodedMeta
  rw [packedPacket]
  obtain ⟨-, -, -, data, len⟩ := packUplinkPacket_eq_some packedPacket
  have mhdr := (parseMhdr_discriminators_iff (frame.byte 0) PayloadType.uplinkType
    (by decide)).mpr (by rw [discriminators]; rfl)
  have byte1 := toNat_lt_256 (frame.byte 1)
  have byte2 := toNat_lt_256 (frame.byte 2)
  congr 1
  ext1
  · rw [data, @Frame.data_eq_bytes_append frame 6 long]
    simp only [show List.range 6 = [0, 1, 2, 3, 4, 5] from rfl, List.map_cons, List.map_nil,
      List.cons_append, List.nil_append, List.cons.injEq]
    refine ⟨?_, UInt8.toNat.inj ?_, UInt8.toNat.inj ?_, by rw [decodedRssi], by rw [decodedSnr],
      decodedChannel, by rw [decodedLen, decodedPayload]⟩
    · rw [decodedMeta, decodedType, decodedHop, ← mhdr.1, ← mhdr.2, buildMhdr_parseMhdr]
    · rw [toNat_high12, decodedId]
      exact (join12_written byte1 byte2).1
    · rw [toNat_nibbles, decodedId, decodedRate]
      exact (join12_written byte1 byte2).2
  · exact UInt16.toNat.inj (by rw [len, decodedLen]; omega)

/-! ## Downlink -/

/-- A valid downlink packet is packed into `12 + payload_len` bytes that decode
back to it, on either kind of host. -/
theorem downlink_round_trip (isBigEndian : Bool) {packet : DownlinkPacket}
    (valid : packet.Valid) (caller : DownlinkPacket) :
    ∃ frame, packDownlinkPacket isBigEndian packet = some frame ∧
      frame.len.toNat = 12 + packet.payloadLen.toNat ∧
      (unpackDownlinkPacket isBigEndian frame caller).1 = true ∧
      (unpackDownlinkPacket isBigEndian frame caller).2.SameFrame packet := by
  obtain ⟨lorawan, downlink, hop, ident, rate, power, delay, short⟩ := valid
  obtain ⟨frame, packed⟩ := packDownlinkPacket_isSome isBigEndian short downlink lorawan
  obtain ⟨-, -, -, data, len⟩ := packDownlinkPacket_eq_some packed
  simp only [maxPhyPayloadLen] at short
  have payloadLength := packet.phyPayload_length
  simp only [maxPhyPayloadLen] at payloadLength
  have accepted := unpackDownlinkPacket_fst_of_pack packed caller
  have decoded := unpackDownlinkPacket_snd accepted
  simp only [Frame.byte, data, storeBe32, List.cons_append, List.singleton_append,
    List.getD_cons_zero, List.getD_cons_succ, parseMhdr_buildMhdr, List.drop_succ_cons,
    List.drop_zero, len, toNat_high12, toNat_nibbles, Nat.add_sub_cancel_left, List.nil_append,
    loadBe32_storeBe32, hostToBe32, beToHost32_beToHost32] at decoded
  obtain ⟨decodedMeta, decodedType, decodedHop, decodedId, decodedRate, decodedFrequency,
    decodedPower, decodedDelay, decodedCount, decodedLen, decodedPayload⟩ := decoded
  refine ⟨frame, packed, len, accepted, ⟨?_, ?_, ?_, ?_, ?_, decodedFrequency, ?_, ?_,
    decodedCount, ?_, decodedPayload⟩⟩
  · rw [decodedMeta, lorawan]
  · rw [decodedType, downlink]
  · rw [decodedHop]
    exact UInt8.toNat.inj (by simp only [toNat_toUInt8]; omega)
  · exact UInt16.toNat.inj (by rw [decodedId]; exact (high12_nibbles_read ident rate).1)
  · exact UInt8.toNat.inj (by rw [decodedRate]; exact (high12_nibbles_read ident rate).2)
  · exact UInt8.toNat.inj (by rw [decodedPower]; exact (nibbles_read power delay).1)
  · exact UInt8.toNat.inj (by rw [decodedDelay]; exact (nibbles_read power delay).2)
  · exact UInt16.toNat.inj (by rw [decodedLen])

/-- Every frame `unpack_downlink_packet` accepts is the packing of the packet
it decodes to, on either kind of host. -/
theorem downlink_frame_canonical {isBigEndian : Bool} {frame : Frame}
    {caller : DownlinkPacket}
    (accepted : (unpackDownlinkPacket isBigEndian frame caller).1 = true) :
    packDownlinkPacket isBigEndian (unpackDownlinkPacket isBigEndian frame caller).2 =
      some frame := by
  obtain ⟨long, short, discriminators⟩ :=
    (unpackDownlinkPacket_fst isBigEndian frame caller).mp accepted
  obtain ⟨decodedMeta, decodedType, decodedHop, decodedId, decodedRate, decodedFrequency,
    decodedPower, decodedDelay, decodedCount, decodedLen, decodedPayload⟩ :=
    unpackDownlinkPacket_snd accepted
  obtain ⟨packed, packedPacket⟩ := packDownlinkPacket_isSome isBigEndian
    (by rw [decodedLen, maxPhyPayloadLen]; omega) decodedType decodedMeta
  rw [packedPacket]
  obtain ⟨-, -, -, data, len⟩ := packDownlinkPacket_eq_some packedPacket
  have mhdr := (parseMhdr_discriminators_iff (frame.byte 0) PayloadType.downlinkType
    (by decide)).mpr (by rw [discriminators]; rfl)
  have byte1 := toNat_lt_256 (frame.byte 1)
  have byte2 := toNat_lt_256 (frame.byte 2)
  have byte7 := toNat_lt_256 (frame.byte 7)
  congr 1
  ext1
  · rw [data, @Frame.data_eq_bytes_append frame 12 long]
    simp only [show List.range 12 = [0, 1, 2, 3, 4, 5, 6, 7, 8, 9, 10, 11] from rfl,
      List.map_cons, List.map_nil, List.cons_append, List.nil_append, List.singleton_append,
      hostToBe32, decodedFrequency, decodedCount, beToHost32_beToHost32, storeBe32_loadBe32,
      List.cons.injEq]
    refine ⟨?_, UInt8.toNat.inj ?_, UInt8.toNat.inj ?_, trivial, trivial, trivial, trivial,
      UInt8.toNat.inj ?_, trivial, trivial, trivial, trivial, by rw [decodedLen, decodedPayload]⟩
    · rw [decodedMeta, decodedType, decodedHop, ← mhdr.1, ← mhdr.2, buildMhdr_parseMhdr]
    · rw [toNat_high12, decodedId]
      exact (join12_written byte1 byte2).1
    · rw [toNat_nibbles, decodedId, decodedRate]
      exact (join12_written byte1 byte2).2
    · rw [toNat_nibbles, decodedPower, decodedDelay]
      exact nibbles_written byte7
  · exact UInt16.toNat.inj (by rw [len, decodedLen]; omega)

/-! ## Event -/

/-- A valid event packet is packed into `4 + payload_len` bytes that decode
back to it. -/
theorem event_round_trip {packet : EventPacket} (valid : packet.Valid)
    (caller : EventPacket) :
    ∃ frame, packEventPacket packet = some frame ∧
      frame.len.toNat = 4 + packet.payloadLen.toNat ∧
      (unpackEventPacket frame caller).1 = true ∧
      (unpackEventPacket frame caller).2.SameFrame packet := by
  obtain ⟨lorawan, event, hop, kind, short⟩ := valid
  obtain ⟨frame, packed⟩ := packEventPacket_isSome short event lorawan
  obtain ⟨-, -, -, data, len⟩ := packEventPacket_eq_some packed
  simp only [maxEventPayloadLen] at short
  have payloadLength := packet.eventPayload_length
  simp only [maxEventPayloadLen] at payloadLength
  have accepted := unpackEventPacket_fst_of_pack packed caller
  have identifier := toNat_lt_65536 packet.eventId
  have decoded := unpackEventPacket_snd accepted
  simp only [Frame.byte, data, List.cons_append, List.getD_cons_zero, List.getD_cons_succ,
    parseMhdr_buildMhdr, List.drop_succ_cons, List.drop_zero, len, and_0xFF,
    Nat.shiftRight_eq_div_pow, toNat_toUInt8, Nat.reducePow, Nat.mod_mod, Nat.add_sub_cancel_left,
    List.nil_append] at decoded
  obtain ⟨decodedMeta, decodedType, decodedHop, decodedId, decodedKind, decodedLen,
    decodedPayload⟩ := decoded
  refine ⟨frame, packed, len, accepted, ⟨?_, ?_, ?_, ?_, ?_, ?_, decodedPayload⟩⟩
  · rw [decodedMeta, lorawan]
  · rw [decodedType, event]
  · rw [decodedHop]
    exact UInt8.toNat.inj (by simp only [toNat_toUInt8]; omega)
  · exact UInt16.toNat.inj (by rw [decodedId]; exact bytes16_read identifier)
  · exact UInt32.toNat.inj (by rw [decodedKind]; exact Nat.mod_eq_of_lt (by omega))
  · exact UInt16.toNat.inj (by rw [decodedLen])

/-- Every frame `unpack_event_packet` accepts is the packing of the packet it
decodes to. -/
theorem event_frame_canonical {frame : Frame} {caller : EventPacket}
    (accepted : (unpackEventPacket frame caller).1 = true) :
    packEventPacket (unpackEventPacket frame caller).2 = some frame := by
  obtain ⟨long, short, discriminators⟩ := (unpackEventPacket_fst frame caller).mp accepted
  obtain ⟨decodedMeta, decodedType, decodedHop, decodedId, decodedKind, decodedLen,
    decodedPayload⟩ := unpackEventPacket_snd accepted
  obtain ⟨packed, packedPacket⟩ := packEventPacket_isSome
    (by rw [decodedLen, maxEventPayloadLen]; omega) decodedType decodedMeta
  rw [packedPacket]
  obtain ⟨-, -, -, data, len⟩ := packEventPacket_eq_some packedPacket
  have mhdr := (parseMhdr_discriminators_iff (frame.byte 0) PayloadType.eventType
    (by decide)).mpr (by rw [discriminators]; rfl)
  have byte1 := toNat_lt_256 (frame.byte 1)
  have byte2 := toNat_lt_256 (frame.byte 2)
  have byte3 := toNat_lt_256 (frame.byte 3)
  congr 1
  ext1
  · rw [data, @Frame.data_eq_bytes_append frame 4 long]
    simp only [show List.range 4 = [0, 1, 2, 3] from rfl, List.map_cons, List.map_nil,
      List.cons_append, List.nil_append, List.cons.injEq]
    refine ⟨?_, UInt8.toNat.inj ?_, UInt8.toNat.inj ?_, UInt8.toNat.inj ?_,
      by rw [decodedLen, decodedPayload]⟩
    · rw [decodedMeta, decodedType, decodedHop, ← mhdr.1, ← mhdr.2, buildMhdr_parseMhdr]
    · simp only [and_0xFF, Nat.shiftRight_eq_div_pow, toNat_toUInt8, decodedId, Nat.reducePow,
        Nat.mod_mod]
      exact (join16_written byte1 byte2).1
    · simp only [and_0xFF, toNat_toUInt8, decodedId, Nat.mod_mod]
      exact (join16_written byte1 byte2).2
    · simp only [toNat_toUInt8, decodedKind]
      exact Nat.mod_eq_of_lt byte3
  · exact UInt16.toNat.inj (by rw [len, decodedLen]; omega)

/-! ## The relay codec as a whole -/

/-- Every valid packet of each kind is packed into a frame of its header size
plus `payload_len` bytes, which its decoder accepts and decodes back to it. -/
theorem relay_round_trip (isBigEndian : Bool) :
    (∀ packet : UplinkPacket, packet.Valid → ∀ caller : UplinkPacket,
      ∃ frame, packUplinkPacket packet = some frame ∧
        frame.len.toNat = 6 + packet.payloadLen.toNat ∧
        (unpackUplinkPacket frame caller).1 = true ∧
        (unpackUplinkPacket frame caller).2.SameFrame packet) ∧
    (∀ packet : DownlinkPacket, packet.Valid → ∀ caller : DownlinkPacket,
      ∃ frame, packDownlinkPacket isBigEndian packet = some frame ∧
        frame.len.toNat = 12 + packet.payloadLen.toNat ∧
        (unpackDownlinkPacket isBigEndian frame caller).1 = true ∧
        (unpackDownlinkPacket isBigEndian frame caller).2.SameFrame packet) ∧
    (∀ packet : EventPacket, packet.Valid → ∀ caller : EventPacket,
      ∃ frame, packEventPacket packet = some frame ∧
        frame.len.toNat = 4 + packet.payloadLen.toNat ∧
        (unpackEventPacket frame caller).1 = true ∧
        (unpackEventPacket frame caller).2.SameFrame packet) :=
  ⟨fun _ valid => uplink_round_trip valid, fun _ valid => downlink_round_trip isBigEndian valid,
    fun _ valid => event_round_trip valid⟩

/-- Every frame a decoder accepts is exactly the packing of the packet it
decodes to. -/
theorem relay_frame_canonical (isBigEndian : Bool) :
    (∀ (frame : Frame) (caller : UplinkPacket), (unpackUplinkPacket frame caller).1 = true →
      packUplinkPacket (unpackUplinkPacket frame caller).2 = some frame) ∧
    (∀ (frame : Frame) (caller : DownlinkPacket),
      (unpackDownlinkPacket isBigEndian frame caller).1 = true →
        packDownlinkPacket isBigEndian (unpackDownlinkPacket isBigEndian frame caller).2 =
          some frame) ∧
    (∀ (frame : Frame) (caller : EventPacket), (unpackEventPacket frame caller).1 = true →
      packEventPacket (unpackEventPacket frame caller).2 = some frame) :=
  ⟨fun _ _ => uplink_frame_canonical, fun _ _ => downlink_frame_canonical,
    fun _ _ => event_frame_canonical⟩

/-- The frames each decoder accepts, whatever packet the caller passes in; no
frame is accepted by two decoders, since their MHDR patterns differ. -/
theorem relay_unpack_accepts_iff (isBigEndian : Bool) (frame : Frame) :
    (∀ caller : UplinkPacket, (unpackUplinkPacket frame caller).1 = true ↔
      6 ≤ frame.len.toNat ∧ frame.len.toNat ≤ 251 ∧ frame.byte 0 &&& 0xF8 = 0xE0 ∧
        -32 ≤ (Int8.mk (frame.byte 4)).toInt ∧ (Int8.mk (frame.byte 4)).toInt ≤ 31) ∧
    (∀ caller : DownlinkPacket, (unpackDownlinkPacket isBigEndian frame caller).1 = true ↔
      12 ≤ frame.len.toNat ∧ frame.len.toNat ≤ 257 ∧ frame.byte 0 &&& 0xF8 = 0xE8) ∧
    (∀ caller : EventPacket, (unpackEventPacket frame caller).1 = true ↔
      4 ≤ frame.len.toNat ∧ frame.len.toNat ≤ 244 ∧ frame.byte 0 &&& 0xF8 = 0xF8) ∧
    (∀ (uplink : UplinkPacket) (downlink : DownlinkPacket) (event : EventPacket),
      ¬((unpackUplinkPacket frame uplink).1 = true ∧
        (unpackDownlinkPacket isBigEndian frame downlink).1 = true) ∧
      ¬((unpackUplinkPacket frame uplink).1 = true ∧ (unpackEventPacket frame event).1 = true) ∧
      ¬((unpackDownlinkPacket isBigEndian frame downlink).1 = true ∧
        (unpackEventPacket frame event).1 = true)) := by
  refine ⟨unpackUplinkPacket_fst frame, unpackDownlinkPacket_fst isBigEndian frame,
    unpackEventPacket_fst frame, fun uplink downlink event => ?_⟩
  simp only [unpackUplinkPacket_fst, unpackDownlinkPacket_fst, unpackEventPacket_fst]
  refine ⟨?_, ?_, ?_⟩
  · rintro ⟨⟨-, -, first, -⟩, -, -, second⟩
    exact absurd (first.symm.trans second) (by decide)
  · rintro ⟨⟨-, -, first, -⟩, -, -, second⟩
    exact absurd (first.symm.trans second) (by decide)
  · rintro ⟨⟨-, -, first⟩, -, -, second⟩
    exact absurd (first.symm.trans second) (by decide)

/-- The packers check only the payload length and the discriminators, so a
packed frame always meets its decoder's length and MHDR checks, and a packed
uplink is accepted exactly when its SNR lies in `[-32, 31]`. -/
theorem relay_pack_then_unpack_accepts (isBigEndian : Bool) :
    (∀ (packet : UplinkPacket) (frame : Frame) (caller : UplinkPacket),
      packUplinkPacket packet = some frame →
        ((unpackUplinkPacket frame caller).1 = true ↔
          -32 ≤ packet.snr.toInt ∧ packet.snr.toInt ≤ 31)) ∧
    (∀ (packet : DownlinkPacket) (frame : Frame) (caller : DownlinkPacket),
      packDownlinkPacket isBigEndian packet = some frame →
        (unpackDownlinkPacket isBigEndian frame caller).1 = true) ∧
    (∀ (packet : EventPacket) (frame : Frame) (caller : EventPacket),
      packEventPacket packet = some frame → (unpackEventPacket frame caller).1 = true) :=
  ⟨fun _ _ _ packed => unpackUplinkPacket_fst_of_pack packed _,
    fun _ _ _ packed => unpackDownlinkPacket_fst_of_pack packed _,
    fun _ _ _ packed => unpackEventPacket_fst_of_pack packed _⟩

/-- An uplink created with an SNR of 32 is packed, and its own decoder rejects
the frame. -/
theorem pack_uplink_snr_32_rejected :
    (packUplinkPacket (createUplinkPacketWithParams 0 0 0 32 0)).map
      (fun frame => (unpackUplinkPacket frame createUplinkPacket).1) = some false := by
  decide

end LoraFwd.Relay
