import LoraFwd.Relay.Header
import Mathlib.Tactic.SplitIfs

/-!
# The LoraRelay codec

`pack_uplink_packet`, `pack_downlink_packet` and `pack_event_packet` turn a
packet into a freshly allocated buffer and its length; the three
`unpack_*_packet` functions check a received buffer and fill a caller-owned
packet through a pointer.

A buffer with its `uint16_t` length is a `Frame`, which carries the equality of
the two, so a packer's result is a frame and a decoder's input is any frame.
A decoder is modelled as a function from the caller's packet to the packet
after the call, paired with the returned `bool`: it writes the packet field by
field and may stop early, so on a rejected frame some fields may already have
been overwritten, exactly as in the C code.  Only the first `payload_len`
bytes of the payload array are copied; the rest keep the caller's contents.
-/

namespace LoraFwd.Relay

open LoraFwd.CTypes

/-- A relay frame: the bytes of a buffer and its `uint16_t` length. -/
@[ext]
structure Frame where
  data : List UInt8
  len : UInt16
  data_length : data.length = len.toNat
deriving DecidableEq

/-- `data[i]`; the decoders read only below `len`. -/
def Frame.byte (frame : Frame) (i : Nat) : UInt8 := frame.data.getD i 0

/-- The four stores of a big-endian 32-bit field in `pack_downlink_packet`:
`(word >> 24) & 0xFF` first. -/
def storeBe32 (word : UInt32) : List UInt8 :=
  [((word.toNat >>> 24) &&& 0xFF).toUInt8, ((word.toNat >>> 16) &&& 0xFF).toUInt8,
    ((word.toNat >>> 8) &&& 0xFF).toUInt8, (word.toNat &&& 0xFF).toUInt8]

/-- The four loads of a big-endian 32-bit field in `unpack_downlink_packet`:
`data[i] << 24 | data[i+1] << 16 | data[i+2] << 8 | data[i+3]`. -/
def loadBe32 (byte0 byte1 byte2 byte3 : UInt8) : UInt32 :=
  ((byte0.toNat <<< 24) ||| (byte1.toNat <<< 16) ||| (byte2.toNat <<< 8) |||
    byte3.toNat).toUInt32

/-- Bytes `k` onwards of a frame, one at a time. -/
theorem Frame.drop_eq_cons (frame : Frame) {k : Nat} (inside : k < frame.len.toNat) :
    frame.data.drop k = frame.byte k :: frame.data.drop (k + 1) := by
  have fits : k < frame.data.length := frame.data_length ▸ inside
  rw [List.drop_eq_getElem_cons fits, Frame.byte, List.getD_eq_getElem?_getD,
    List.getElem?_eq_getElem fits, Option.getD_some]

/-- A frame is its first `count` bytes followed by the rest. -/
theorem Frame.data_eq_bytes_append (frame : Frame) {count : Nat}
    (inside : count ≤ frame.len.toNat) :
    frame.data = (List.range count).map frame.byte ++ frame.data.drop count := by
  induction count with
  | zero => rfl
  | succ count ih =>
    rw [List.range_succ, List.map_append, List.append_assoc, List.map_singleton,
      List.singleton_append, ← frame.drop_eq_cons (by omega)]
    exact ih (by omega)

/-! ## Arithmetic of the META fields -/

theorem toNat_high12 (word : Nat) :
    ((word >>> 4) &&& 0xFF).toUInt8.toNat = word / 16 % 256 := by
  simp only [and_0xFF, Nat.shiftRight_eq_div_pow, toNat_toUInt8, Nat.reducePow]
  omega

theorem toNat_nibbles (high low : Nat) :
    (((high &&& 0x0F) <<< 4) ||| (low &&& 0x0F)).toUInt8.toNat = high % 16 * 16 + low % 16 := by
  simp only [and_0x0F, Nat.shiftLeft_eq, toNat_toUInt8]
  rw [lor_eq_add 4 (by omega) (by omega)]
  omega

theorem toNat_join12 (byte1 byte2 : UInt8) :
    ((byte1.toNat <<< 4) ||| ((byte2.toNat >>> 4) &&& 0x0F)).toUInt16.toNat =
      byte1.toNat * 16 + byte2.toNat / 16 := by
  have := toNat_lt_256 byte1
  have := toNat_lt_256 byte2
  simp only [and_0x0F, Nat.shiftLeft_eq, Nat.shiftRight_eq_div_pow, toNat_toUInt16]
  rw [lor_eq_add 4 (by omega) (by omega)]
  omega

theorem toNat_join16 (byte1 byte2 : UInt8) :
    ((byte1.toNat <<< 8) ||| byte2.toNat).toUInt16.toNat = byte1.toNat * 256 + byte2.toNat := by
  have := toNat_lt_256 byte1
  have := toNat_lt_256 byte2
  simp only [Nat.shiftLeft_eq, toNat_toUInt16]
  rw [lor_eq_add 8 (by omega) (by omega)]
  omega

/-- A 12-bit ID and a 4-bit field written over two META bytes read back. -/
theorem high12_nibbles_read {ident field : Nat} (identBound : ident ≤ 0xFFF)
    (fieldBound : field ≤ 15) :
    ident / 16 % 256 * 16 + (ident % 16 * 16 + field % 16) / 16 = ident ∧
      (ident % 16 * 16 + field % 16) % 16 = field := by
  rw [Nat.mod_eq_of_lt (show field < 16 by omega), Nat.mod_eq_of_lt (show ident / 16 < 256 by omega)]
  omega

/-- Two nibbles written into one META byte read back. -/
theorem nibbles_read {high low : Nat} (highBound : high ≤ 15) (lowBound : low ≤ 15) :
    (high % 16 * 16 + low % 16) / 16 = high ∧ (high % 16 * 16 + low % 16) % 16 = low := by
  rw [Nat.mod_eq_of_lt (Nat.lt_succ_of_le highBound), Nat.mod_eq_of_lt (Nat.lt_succ_of_le lowBound)]
  omega

/-- Two META bytes read as a 12-bit ID and a 4-bit field are written back. -/
theorem join12_written {byte1 byte2 : Nat} (bound1 : byte1 < 256) (bound2 : byte2 < 256) :
    (byte1 * 16 + byte2 / 16) / 16 % 256 = byte1 ∧
      (byte1 * 16 + byte2 / 16) % 16 * 16 + byte2 % 16 % 16 = byte2 := by
  rw [Nat.mod_mod]
  omega

/-- A META byte read as two nibbles is written back. -/
theorem nibbles_written {byte : Nat} (bound : byte < 256) :
    byte / 16 % 16 * 16 + byte % 16 % 16 = byte := by
  omega

/-- A 16-bit ID written as two bytes reads back. -/
theorem bytes16_read {ident : Nat} (bound : ident < 65536) :
    ident / 256 % 256 * 256 + ident % 256 = ident := by
  omega

/-- Two bytes read as a 16-bit ID are written back. -/
theorem join16_written {byte1 byte2 : Nat} (bound1 : byte1 < 256) (bound2 : byte2 < 256) :
    (byte1 * 256 + byte2) / 256 % 256 = byte1 ∧ (byte1 * 256 + byte2) % 256 = byte2 := by
  omega

theorem toNat_loadBe32 (byte0 byte1 byte2 byte3 : UInt8) :
    (loadBe32 byte0 byte1 byte2 byte3).toNat =
      byte3.toNat + 256 * byte2.toNat + 65536 * byte1.toNat + 16777216 * byte0.toNat := by
  have := toNat_lt_256 byte0
  have := toNat_lt_256 byte1
  have := toNat_lt_256 byte2
  have := toNat_lt_256 byte3
  simp only [loadBe32, Nat.shiftLeft_eq, toNat_toUInt32, Nat.reducePow]
  rw [@lor_eq_add (byte0.toNat * 16777216) _ 24 (by omega) (by omega),
    @lor_eq_add (byte0.toNat * 16777216 + _) _ 16 (by omega) (by omega),
    lor_eq_add 8 (by omega) (by omega)]
  omega

/-- The loads read back what the stores wrote. -/
@[simp]
theorem loadBe32_storeBe32 (word : UInt32) :
    loadBe32 ((word.toNat >>> 24) &&& 0xFF).toUInt8 ((word.toNat >>> 16) &&& 0xFF).toUInt8
      ((word.toNat >>> 8) &&& 0xFF).toUInt8 (word.toNat &&& 0xFF).toUInt8 = word := by
  apply UInt32.toNat.inj
  have whole := word_of_bytes (toNat_lt_2_32 word)
  simp only [toNat_loadBe32, and_0xFF, Nat.shiftRight_eq_div_pow, toNat_toUInt8, Nat.reducePow,
    Nat.mod_mod]
  exact whole.symm

/-- The stores write back the bytes the loads read. -/
theorem storeBe32_loadBe32 (byte0 byte1 byte2 byte3 : UInt8) :
    storeBe32 (loadBe32 byte0 byte1 byte2 byte3) = [byte0, byte1, byte2, byte3] := by
  obtain ⟨low, second, third, high⟩ := bytes_of_word (toNat_lt_256 byte3)
    (toNat_lt_256 byte2) (toNat_lt_256 byte1) (toNat_lt_256 byte0)
  simp only [storeBe32, List.cons.injEq, and_true]
  refine ⟨UInt8.toNat.inj ?_, UInt8.toNat.inj ?_, UInt8.toNat.inj ?_, UInt8.toNat.inj ?_⟩ <;>
    simp only [toNat_loadBe32, and_0xFF, Nat.shiftRight_eq_div_pow, toNat_toUInt8,
      Nat.reducePow, Nat.div_one, low, second, third, high] <;>
    exact Nat.mod_eq_of_lt (toNat_lt_256 _)

/-! ## Packers -/

/-- `pack_uplink_packet`: MHDR, five bytes of uplink META, then the payload. -/
def packUplinkPacket (packet : UplinkPacket) : Option Frame :=
  if tooLong : packet.payloadLen.toNat > maxPhyPayloadLen then none
  else if packet.payloadType ≠ PayloadType.uplinkType then none
  else if packet.metaType ≠ MetaType.lorawanType then none
  else some
    { data :=
        [buildMhdr packet.metaType packet.payloadType packet.hopCount,
          ((packet.uplinkId.toNat >>> 4) &&& 0xFF).toUInt8,
          (((packet.uplinkId.toNat &&& 0x0F) <<< 4) |||
            (packet.dataRate.toNat &&& 0x0F)).toUInt8,
          packet.rssi.toUInt8,
          packet.snr.toUInt8,
          packet.channel] ++ packet.phyPayload.take packet.payloadLen.toNat
      len := (1 + 5 + packet.payloadLen.toNat).toUInt16
      data_length := by
        simp only [maxPhyPayloadLen] at tooLong
        simp only [List.length_append, List.length_cons, List.length_nil, List.length_take,
          packet.phyPayload_length, maxPhyPayloadLen, toNat_toUInt16]
        omega }

/-- `pack_downlink_packet`: MHDR, seven bytes of downlink META, `count_us`,
then the payload; both 32-bit fields go through `host_to_be32`. -/
def packDownlinkPacket (isBigEndian : Bool) (packet : DownlinkPacket) :
    Option Frame :=
  if tooLong : packet.payloadLen.toNat > maxPhyPayloadLen then none
  else if packet.payloadType ≠ PayloadType.downlinkType then none
  else if packet.metaType ≠ MetaType.lorawanType then none
  else some
    { data :=
        [buildMhdr packet.metaType packet.payloadType packet.hopCount,
          ((packet.dwlinkId.toNat >>> 4) &&& 0xFF).toUInt8,
          (((packet.dwlinkId.toNat &&& 0x0F) <<< 4) |||
            (packet.dataRate.toNat &&& 0x0F)).toUInt8] ++
        storeBe32 (hostToBe32 isBigEndian packet.frequency) ++
        [(((packet.txPower.toNat &&& 0x0F) <<< 4) ||| (packet.delay.toNat &&& 0x0F)).toUInt8] ++
        storeBe32 (hostToBe32 isBigEndian packet.countUs) ++
        packet.phyPayload.take packet.payloadLen.toNat
      len := (1 + 7 + 4 + packet.payloadLen.toNat).toUInt16
      data_length := by
        simp only [maxPhyPayloadLen] at tooLong
        simp only [storeBe32, List.length_append, List.length_cons, List.length_nil,
          List.length_take, packet.phyPayload_length, maxPhyPayloadLen, toNat_toUInt16]
        omega }

/-- `pack_event_packet`: MHDR, three bytes of event META, then the payload. -/
def packEventPacket (packet : EventPacket) : Option Frame :=
  if tooLong : packet.payloadLen.toNat > maxEventPayloadLen then none
  else if packet.payloadType ≠ PayloadType.eventType then none
  else if packet.metaType ≠ MetaType.lorawanType then none
  else some
    { data :=
        [buildMhdr packet.metaType packet.payloadType packet.hopCount,
          ((packet.eventId.toNat >>> 8) &&& 0xFF).toUInt8,
          (packet.eventId.toNat &&& 0xFF).toUInt8,
          packet.eventType.toNat.toUInt8] ++
        packet.eventPayload.take packet.payloadLen.toNat
      len := (1 + 3 + packet.payloadLen.toNat).toUInt16
      data_length := by
        simp only [maxEventPayloadLen] at tooLong
        simp only [List.length_append, List.length_cons, List.length_nil, List.length_take,
          packet.eventPayload_length, maxEventPayloadLen, toNat_toUInt16]
        omega }

/-! ## Decoders -/

/-- `unpack_uplink_packet`: the returned `bool` and the caller's packet after
the call. -/
def unpackUplinkPacket (frame : Frame) (packet : UplinkPacket) :
    Bool × UplinkPacket :=
  if frame.len.toNat < 6 then (false, packet) else
  let mhdr := parseMhdr (frame.byte 0)
  let packet := { packet with
    metaType := mhdr.metaType, payloadType := mhdr.payloadType, hopCount := mhdr.hopCount }
  if packet.payloadType ≠ PayloadType.uplinkType then (false, packet) else
  if packet.metaType ≠ MetaType.lorawanType then (false, packet) else
  let packet := { packet with
    uplinkId := ((frame.byte 1).toNat <<< 4 ||| (((frame.byte 2).toNat >>> 4) &&& 0x0F)).toUInt16
    dataRate := ((frame.byte 2).toNat &&& 0x0F).toUInt8
    rssi := ⟨frame.byte 3⟩
    snr := ⟨frame.byte 4⟩ }
  if packet.snr.toInt < -32 ∨ packet.snr.toInt > 31 then (false, packet) else
  let packet := { packet with
    channel := frame.byte 5
    payloadLen := (frame.len.toNat - 6).toUInt16 }
  if tooLong : packet.payloadLen.toNat > maxPhyPayloadLen then (false, packet) else
  (true, { packet with
    phyPayload := memcpy packet.phyPayload (frame.data.drop 6) packet.payloadLen.toNat
    phyPayload_length := by
      have := frame.data_length
      have := toNat_lt_65536 frame.len
      simp only [maxPhyPayloadLen, toNat_toUInt16] at tooLong ⊢
      rw [length_memcpy] <;>
        simp only [List.length_drop, packet.phyPayload_length, maxPhyPayloadLen] <;> omega })

/-- `unpack_downlink_packet`: the returned `bool` and the caller's packet after
the call; both 32-bit fields go through `be_to_host32`. -/
def unpackDownlinkPacket (isBigEndian : Bool) (frame : Frame)
    (packet : DownlinkPacket) : Bool × DownlinkPacket :=
  if frame.len.toNat < 12 then (false, packet) else
  let mhdr := parseMhdr (frame.byte 0)
  let packet := { packet with
    metaType := mhdr.metaType, payloadType := mhdr.payloadType, hopCount := mhdr.hopCount }
  if packet.payloadType ≠ PayloadType.downlinkType then (false, packet) else
  if packet.metaType ≠ MetaType.lorawanType then (false, packet) else
  let packet := { packet with
    dwlinkId := ((frame.byte 1).toNat <<< 4 ||| (((frame.byte 2).toNat >>> 4) &&& 0x0F)).toUInt16
    dataRate := ((frame.byte 2).toNat &&& 0x0F).toUInt8
    frequency := beToHost32 isBigEndian
      (loadBe32 (frame.byte 3) (frame.byte 4) (frame.byte 5) (frame.byte 6))
    txPower := (((frame.byte 7).toNat >>> 4) &&& 0x0F).toUInt8
    delay := ((frame.byte 7).toNat &&& 0x0F).toUInt8
    countUs := beToHost32 isBigEndian
      (loadBe32 (frame.byte 8) (frame.byte 9) (frame.byte 10) (frame.byte 11))
    payloadLen := (frame.len.toNat - 12).toUInt16 }
  if tooLong : packet.payloadLen.toNat > maxPhyPayloadLen then (false, packet) else
  (true, { packet with
    phyPayload := memcpy packet.phyPayload (frame.data.drop 12) packet.payloadLen.toNat
    phyPayload_length := by
      have := frame.data_length
      have := toNat_lt_65536 frame.len
      simp only [maxPhyPayloadLen, toNat_toUInt16] at tooLong ⊢
      rw [length_memcpy] <;>
        simp only [List.length_drop, packet.phyPayload_length, maxPhyPayloadLen] <;> omega })

/-- `unpack_event_packet`: the returned `bool` and the caller's packet after the
call. -/
def unpackEventPacket (frame : Frame) (packet : EventPacket) :
    Bool × EventPacket :=
  if frame.len.toNat < 4 then (false, packet) else
  let mhdr := parseMhdr (frame.byte 0)
  let packet := { packet with
    metaType := mhdr.metaType, payloadType := mhdr.payloadType, hopCount := mhdr.hopCount }
  if packet.payloadType ≠ PayloadType.eventType then (false, packet) else
  if packet.metaType ≠ MetaType.lorawanType then (false, packet) else
  let packet := { packet with
    eventId := ((frame.byte 1).toNat <<< 8 ||| (frame.byte 2).toNat).toUInt16
    eventType := (frame.byte 3).toNat.toUInt32
    payloadLen := (frame.len.toNat - 4).toUInt16 }
  if tooLong : packet.payloadLen.toNat > maxEventPayloadLen then (false, packet) else
  (true, { packet with
    eventPayload := memcpy packet.eventPayload (frame.data.drop 4) packet.payloadLen.toNat
    eventPayload_length := by
      have := frame.data_length
      have := toNat_lt_65536 frame.len
      simp only [maxEventPayloadLen, toNat_toUInt16] at tooLong ⊢
      rw [length_memcpy] <;>
        simp only [List.length_drop, packet.eventPayload_length, maxEventPayloadLen] <;>
        omega })

/-! ## What the uplink codec does -/

theorem packUplinkPacket_isSome {packet : UplinkPacket}
    (short : packet.payloadLen.toNat ≤ maxPhyPayloadLen)
    (uplink : packet.payloadType = PayloadType.uplinkType)
    (lorawan : packet.metaType = MetaType.lorawanType) :
    ∃ frame, packUplinkPacket packet = some frame := by
  simp [packUplinkPacket, uplink, lorawan, Nat.not_lt.mpr short]

/-- Everything `pack_uplink_packet` does when it succeeds. -/
theorem packUplinkPacket_eq_some {packet : UplinkPacket} {frame : Frame}
    (packed : packUplinkPacket packet = some frame) :
    packet.payloadLen.toNat ≤ maxPhyPayloadLen ∧
      packet.payloadType = PayloadType.uplinkType ∧
      packet.metaType = MetaType.lorawanType ∧
      frame.data =
        [buildMhdr packet.metaType packet.payloadType packet.hopCount,
          ((packet.uplinkId.toNat >>> 4) &&& 0xFF).toUInt8,
          (((packet.uplinkId.toNat &&& 0x0F) <<< 4) |||
            (packet.dataRate.toNat &&& 0x0F)).toUInt8,
          packet.rssi.toUInt8, packet.snr.toUInt8, packet.channel] ++
          packet.phyPayload.take packet.payloadLen.toNat ∧
      frame.len.toNat = 6 + packet.payloadLen.toNat := by
  unfold packUplinkPacket at packed
  split_ifs at packed with tooLong uplink lorawan
  cases packed
  simp only [ne_eq, Decidable.not_not] at uplink lorawan
  simp only [maxPhyPayloadLen] at tooLong
  refine ⟨by simp only [maxPhyPayloadLen]; omega, uplink, lorawan, rfl, ?_⟩
  simp only [toNat_toUInt16]
  omega

/-- The tests `unpack_uplink_packet` passes before it accepts a frame, as it
makes them. -/
theorem unpackUplinkPacket_fst_iff_tests (frame : Frame) (caller : UplinkPacket) :
    (unpackUplinkPacket frame caller).1 = true ↔
      ¬frame.len.toNat < 6 ∧ (parseMhdr (frame.byte 0)).payloadType = PayloadType.uplinkType ∧
        (parseMhdr (frame.byte 0)).metaType = MetaType.lorawanType ∧
        ¬((Int8.mk (frame.byte 4)).toInt < -32 ∨ (Int8.mk (frame.byte 4)).toInt > 31) ∧
        ¬(frame.len.toNat - 6) % 65536 > 245 := by
  unfold unpackUplinkPacket
  simp only [apply_ite Prod.fst, apply_dite Prod.fst, dite_eq_ite, Bool.ite_eq_true_distrib,
    Bool.false_eq_true, if_false_left, ne_eq, not_not, and_true, maxPhyPayloadLen, toNat_toUInt16]

/-- The frames `unpack_uplink_packet` accepts. -/
theorem unpackUplinkPacket_fst (frame : Frame) (caller : UplinkPacket) :
    (unpackUplinkPacket frame caller).1 = true ↔
      6 ≤ frame.len.toNat ∧ frame.len.toNat ≤ 251 ∧ frame.byte 0 &&& 0xF8 = 0xE0 ∧
        -32 ≤ (Int8.mk (frame.byte 4)).toInt ∧ (Int8.mk (frame.byte 4)).toInt ≤ 31 := by
  have mhdr := parseMhdr_discriminators_iff (frame.byte 0) PayloadType.uplinkType (by decide)
  have bound := toNat_lt_65536 frame.len
  have mask : frame.byte 0 &&& 0xF8 = 0xE0 ↔ (frame.byte 0 &&& 0xF8).toNat = 0xE0 :=
    ⟨fun same => by rw [same]; rfl, fun same => UInt8.toNat.inj same⟩
  simp only [PayloadType.toNat_uplinkType, Nat.zero_mul, Nat.add_zero] at mhdr
  rw [unpackUplinkPacket_fst_iff_tests, mask, ← mhdr]
  constructor
  · rintro ⟨short, uplink, lorawan, snr, tooLong⟩
    exact ⟨by omega, by omega, ⟨uplink, lorawan⟩, by omega, by omega⟩
  · rintro ⟨six, below, ⟨uplink, lorawan⟩, low, high⟩
    exact ⟨by omega, uplink, lorawan, by omega, by omega⟩

/-- What `unpack_uplink_packet` writes into the caller's packet when it
accepts a frame. -/
theorem unpackUplinkPacket_snd {frame : Frame} {caller : UplinkPacket}
    (accepted : (unpackUplinkPacket frame caller).1 = true) :
    (unpackUplinkPacket frame caller).2.metaType = MetaType.lorawanType ∧
      (unpackUplinkPacket frame caller).2.payloadType = PayloadType.uplinkType ∧
      (unpackUplinkPacket frame caller).2.hopCount = (parseMhdr (frame.byte 0)).hopCount ∧
      (unpackUplinkPacket frame caller).2.uplinkId.toNat =
        (frame.byte 1).toNat * 16 + (frame.byte 2).toNat / 16 ∧
      (unpackUplinkPacket frame caller).2.dataRate.toNat = (frame.byte 2).toNat % 16 ∧
      (unpackUplinkPacket frame caller).2.rssi = ⟨frame.byte 3⟩ ∧
      (unpackUplinkPacket frame caller).2.snr = ⟨frame.byte 4⟩ ∧
      (unpackUplinkPacket frame caller).2.channel = frame.byte 5 ∧
      (unpackUplinkPacket frame caller).2.payloadLen.toNat = frame.len.toNat - 6 ∧
      (unpackUplinkPacket frame caller).2.phyPayload.take (frame.len.toNat - 6) =
        frame.data.drop 6 := by
  have bound := toNat_lt_65536 frame.len
  have length := frame.data_length
  obtain ⟨short, uplink, lorawan, snr, tooLong⟩ :=
    (unpackUplinkPacket_fst_iff_tests frame caller).mp accepted
  unfold unpackUplinkPacket
  rw [if_neg short, if_neg (not_not.mpr uplink), if_neg (not_not.mpr lorawan), if_neg snr,
    dif_neg (by simpa only [toNat_toUInt16, maxPhyPayloadLen] using tooLong)]
  refine ⟨lorawan, uplink, rfl, toNat_join12 _ _, ?_, rfl, rfl, rfl, ?_, ?_⟩
  · simp only [and_0x0F, toNat_toUInt8]
    omega
  · simp only [toNat_toUInt16]
    omega
  · dsimp only
    rw [toNat_toUInt16, Nat.mod_eq_of_lt (by omega), take_memcpy (by simp; omega),
      List.take_of_length_le (by simp; omega)]

/-! ## What the downlink codec does -/

theorem packDownlinkPacket_isSome (isBigEndian : Bool) {packet : DownlinkPacket}
    (short : packet.payloadLen.toNat ≤ maxPhyPayloadLen)
    (downlink : packet.payloadType = PayloadType.downlinkType)
    (lorawan : packet.metaType = MetaType.lorawanType) :
    ∃ frame, packDownlinkPacket isBigEndian packet = some frame := by
  simp [packDownlinkPacket, downlink, lorawan, Nat.not_lt.mpr short]

/-- Everything `pack_downlink_packet` does when it succeeds. -/
theorem packDownlinkPacket_eq_some {isBigEndian : Bool} {packet : DownlinkPacket}
    {frame : Frame} (packed : packDownlinkPacket isBigEndian packet = some frame) :
    packet.payloadLen.toNat ≤ maxPhyPayloadLen ∧
      packet.payloadType = PayloadType.downlinkType ∧
      packet.metaType = MetaType.lorawanType ∧
      frame.data =
        [buildMhdr packet.metaType packet.payloadType packet.hopCount,
          ((packet.dwlinkId.toNat >>> 4) &&& 0xFF).toUInt8,
          (((packet.dwlinkId.toNat &&& 0x0F) <<< 4) |||
            (packet.dataRate.toNat &&& 0x0F)).toUInt8] ++
          storeBe32 (hostToBe32 isBigEndian packet.frequency) ++
          [(((packet.txPower.toNat &&& 0x0F) <<< 4) |||
            (packet.delay.toNat &&& 0x0F)).toUInt8] ++
          storeBe32 (hostToBe32 isBigEndian packet.countUs) ++
          packet.phyPayload.take packet.payloadLen.toNat ∧
      frame.len.toNat = 12 + packet.payloadLen.toNat := by
  unfold packDownlinkPacket at packed
  split_ifs at packed with tooLong downlink lorawan
  cases packed
  simp only [ne_eq, Decidable.not_not] at downlink lorawan
  simp only [maxPhyPayloadLen] at tooLong
  refine ⟨by simp only [maxPhyPayloadLen]; omega, downlink, lorawan, rfl, ?_⟩
  simp only [toNat_toUInt16]
  omega

/-- The tests `unpack_downlink_packet` passes before it accepts a frame, as it
makes them. -/
theorem unpackDownlinkPacket_fst_iff_tests (isBigEndian : Bool) (frame : Frame)
    (caller : DownlinkPacket) :
    (unpackDownlinkPacket isBigEndian frame caller).1 = true ↔
      ¬frame.len.toNat < 12 ∧
        (parseMhdr (frame.byte 0)).payloadType = PayloadType.downlinkType ∧
        (parseMhdr (frame.byte 0)).metaType = MetaType.lorawanType ∧
        ¬(frame.len.toNat - 12) % 65536 > 245 := by
  unfold unpackDownlinkPacket
  simp only [apply_ite Prod.fst, apply_dite Prod.fst, dite_eq_ite, Bool.ite_eq_true_distrib,
    Bool.false_eq_true, if_false_left, ne_eq, not_not, and_true, maxPhyPayloadLen, toNat_toUInt16]

/-- The frames `unpack_downlink_packet` accepts. -/
theorem unpackDownlinkPacket_fst (isBigEndian : Bool) (frame : Frame)
    (caller : DownlinkPacket) :
    (unpackDownlinkPacket isBigEndian frame caller).1 = true ↔
      12 ≤ frame.len.toNat ∧ frame.len.toNat ≤ 257 ∧ frame.byte 0 &&& 0xF8 = 0xE8 := by
  have mhdr := parseMhdr_discriminators_iff (frame.byte 0) PayloadType.downlinkType (by decide)
  have bound := toNat_lt_65536 frame.len
  have mask : frame.byte 0 &&& 0xF8 = 0xE8 ↔ (frame.byte 0 &&& 0xF8).toNat = 0xE8 :=
    ⟨fun same => by rw [same]; rfl, fun same => UInt8.toNat.inj same⟩
  simp only [PayloadType.toNat_downlinkType] at mhdr
  rw [unpackDownlinkPacket_fst_iff_tests, mask, show (0xE8 : Nat) = 0xE0 + 1 * 8 from rfl,
    ← mhdr]
  constructor
  · rintro ⟨short, downlink, lorawan, tooLong⟩
    exact ⟨by omega, by omega, downlink, lorawan⟩
  · rintro ⟨twelve, below, downlink, lorawan⟩
    exact ⟨by omega, downlink, lorawan, by omega⟩

/-- What `unpack_downlink_packet` writes into the caller's packet when it
accepts a frame. -/
theorem unpackDownlinkPacket_snd {isBigEndian : Bool} {frame : Frame}
    {caller : DownlinkPacket}
    (accepted : (unpackDownlinkPacket isBigEndian frame caller).1 = true) :
    (unpackDownlinkPacket isBigEndian frame caller).2.metaType = MetaType.lorawanType ∧
      (unpackDownlinkPacket isBigEndian frame caller).2.payloadType =
        PayloadType.downlinkType ∧
      (unpackDownlinkPacket isBigEndian frame caller).2.hopCount =
        (parseMhdr (frame.byte 0)).hopCount ∧
      (unpackDownlinkPacket isBigEndian frame caller).2.dwlinkId.toNat =
        (frame.byte 1).toNat * 16 + (frame.byte 2).toNat / 16 ∧
      (unpackDownlinkPacket isBigEndian frame caller).2.dataRate.toNat =
        (frame.byte 2).toNat % 16 ∧
      (unpackDownlinkPacket isBigEndian frame caller).2.frequency =
        beToHost32 isBigEndian (loadBe32 (frame.byte 3) (frame.byte 4) (frame.byte 5)
          (frame.byte 6)) ∧
      (unpackDownlinkPacket isBigEndian frame caller).2.txPower.toNat =
        (frame.byte 7).toNat / 16 ∧
      (unpackDownlinkPacket isBigEndian frame caller).2.delay.toNat =
        (frame.byte 7).toNat % 16 ∧
      (unpackDownlinkPacket isBigEndian frame caller).2.countUs =
        beToHost32 isBigEndian (loadBe32 (frame.byte 8) (frame.byte 9) (frame.byte 10)
          (frame.byte 11)) ∧
      (unpackDownlinkPacket isBigEndian frame caller).2.payloadLen.toNat =
        frame.len.toNat - 12 ∧
      (unpackDownlinkPacket isBigEndian frame caller).2.phyPayload.take
        (frame.len.toNat - 12) = frame.data.drop 12 := by
  have bound := toNat_lt_65536 frame.len
  have length := frame.data_length
  have byte7 := toNat_lt_256 (frame.byte 7)
  obtain ⟨short, downlink, lorawan, tooLong⟩ :=
    (unpackDownlinkPacket_fst_iff_tests isBigEndian frame caller).mp accepted
  unfold unpackDownlinkPacket
  rw [if_neg short, if_neg (not_not.mpr downlink), if_neg (not_not.mpr lorawan),
    dif_neg (by simpa only [toNat_toUInt16, maxPhyPayloadLen] using tooLong)]
  refine ⟨lorawan, downlink, rfl, toNat_join12 _ _, ?_, rfl, ?_, ?_, rfl, ?_, ?_⟩
  · simp only [and_0x0F, toNat_toUInt8]
    omega
  · simp only [and_0x0F, Nat.shiftRight_eq_div_pow, toNat_toUInt8]
    omega
  · simp only [and_0x0F, toNat_toUInt8]
    omega
  · simp only [toNat_toUInt16]
    omega
  · dsimp only
    rw [toNat_toUInt16, Nat.mod_eq_of_lt (by omega), take_memcpy (by simp; omega),
      List.take_of_length_le (by simp; omega)]

/-! ## What the event codec does -/

theorem packEventPacket_isSome {packet : EventPacket}
    (short : packet.payloadLen.toNat ≤ maxEventPayloadLen)
    (event : packet.payloadType = PayloadType.eventType)
    (lorawan : packet.metaType = MetaType.lorawanType) :
    ∃ frame, packEventPacket packet = some frame := by
  simp [packEventPacket, event, lorawan, Nat.not_lt.mpr short]

/-- Everything `pack_event_packet` does when it succeeds. -/
theorem packEventPacket_eq_some {packet : EventPacket} {frame : Frame}
    (packed : packEventPacket packet = some frame) :
    packet.payloadLen.toNat ≤ maxEventPayloadLen ∧
      packet.payloadType = PayloadType.eventType ∧
      packet.metaType = MetaType.lorawanType ∧
      frame.data =
        [buildMhdr packet.metaType packet.payloadType packet.hopCount,
          ((packet.eventId.toNat >>> 8) &&& 0xFF).toUInt8,
          (packet.eventId.toNat &&& 0xFF).toUInt8,
          packet.eventType.toNat.toUInt8] ++
          packet.eventPayload.take packet.payloadLen.toNat ∧
      frame.len.toNat = 4 + packet.payloadLen.toNat := by
  unfold packEventPacket at packed
  split_ifs at packed with tooLong event lorawan
  cases packed
  simp only [ne_eq, Decidable.not_not] at event lorawan
  simp only [maxEventPayloadLen] at tooLong
  refine ⟨by simp only [maxEventPayloadLen]; omega, event, lorawan, rfl, ?_⟩
  simp only [toNat_toUInt16]
  omega

/-- The tests `unpack_event_packet` passes before it accepts a frame, as it
makes them. -/
theorem unpackEventPacket_fst_iff_tests (frame : Frame) (caller : EventPacket) :
    (unpackEventPacket frame caller).1 = true ↔
      ¬frame.len.toNat < 4 ∧ (parseMhdr (frame.byte 0)).payloadType = PayloadType.eventType ∧
        (parseMhdr (frame.byte 0)).metaType = MetaType.lorawanType ∧
        ¬(frame.len.toNat - 4) % 65536 > 240 := by
  unfold unpackEventPacket
  simp only [apply_ite Prod.fst, apply_dite Prod.fst, dite_eq_ite, Bool.ite_eq_true_distrib,
    Bool.false_eq_true, if_false_left, ne_eq, not_not, and_true, maxEventPayloadLen,
    toNat_toUInt16]

/-- The frames `unpack_event_packet` accepts. -/
theorem unpackEventPacket_fst (frame : Frame) (caller : EventPacket) :
    (unpackEventPacket frame caller).1 = true ↔
      4 ≤ frame.len.toNat ∧ frame.len.toNat ≤ 244 ∧ frame.byte 0 &&& 0xF8 = 0xF8 := by
  have mhdr := parseMhdr_discriminators_iff (frame.byte 0) PayloadType.eventType (by decide)
  have bound := toNat_lt_65536 frame.len
  have mask : frame.byte 0 &&& 0xF8 = 0xF8 ↔ (frame.byte 0 &&& 0xF8).toNat = 0xF8 :=
    ⟨fun same => by rw [same]; rfl, fun same => UInt8.toNat.inj same⟩
  simp only [PayloadType.toNat_eventType] at mhdr
  rw [unpackEventPacket_fst_iff_tests, mask, show (0xF8 : Nat) = 0xE0 + 3 * 8 from rfl, ← mhdr]
  constructor
  · rintro ⟨short, event, lorawan, tooLong⟩
    exact ⟨by omega, by omega, event, lorawan⟩
  · rintro ⟨four, below, event, lorawan⟩
    exact ⟨by omega, event, lorawan, by omega⟩

/-- What `unpack_event_packet` writes into the caller's packet when it accepts
a frame. -/
theorem unpackEventPacket_snd {frame : Frame} {caller : EventPacket}
    (accepted : (unpackEventPacket frame caller).1 = true) :
    (unpackEventPacket frame caller).2.metaType = MetaType.lorawanType ∧
      (unpackEventPacket frame caller).2.payloadType = PayloadType.eventType ∧
      (unpackEventPacket frame caller).2.hopCount = (parseMhdr (frame.byte 0)).hopCount ∧
      (unpackEventPacket frame caller).2.eventId.toNat =
        (frame.byte 1).toNat * 256 + (frame.byte 2).toNat ∧
      (unpackEventPacket frame caller).2.eventType.toNat = (frame.byte 3).toNat ∧
      (unpackEventPacket frame caller).2.payloadLen.toNat = frame.len.toNat - 4 ∧
      (unpackEventPacket frame caller).2.eventPayload.take (frame.len.toNat - 4) =
        frame.data.drop 4 := by
  have bound := toNat_lt_65536 frame.len
  have length := frame.data_length
  have byte3 := toNat_lt_256 (frame.byte 3)
  obtain ⟨short, event, lorawan, tooLong⟩ :=
    (unpackEventPacket_fst_iff_tests frame caller).mp accepted
  unfold unpackEventPacket
  rw [if_neg short, if_neg (not_not.mpr event), if_neg (not_not.mpr lorawan),
    dif_neg (by simpa only [toNat_toUInt16, maxEventPayloadLen] using tooLong)]
  refine ⟨lorawan, event, rfl, toNat_join16 _ _, ?_, ?_, ?_⟩
  · simp only [toNat_toUInt32]
    omega
  · simp only [toNat_toUInt16]
    omega
  · dsimp only
    rw [toNat_toUInt16, Nat.mod_eq_of_lt (by omega), take_memcpy (by simp; omega),
      List.take_of_length_le (by simp; omega)]

end LoraFwd.Relay
