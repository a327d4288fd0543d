import LoraFwd.Relay.Packet

/-!
# MHDR and byte order

`build_mhdr` and `parse_mhdr` pack and unpack the one-byte MHDR
(`meta_type` in bits 7..5, `payload_type` in bits 4..3, `hop_count` in bits
2..0), and `be_to_host32` / `host_to_be32` convert 32-bit values between the
host's byte order and big-endian.

`is_big_endian()` inspects the host through a union; the model takes its answer
as the argument `isBigEndian`, so every statement about the downlink codec is
made for both kinds of host.

Each function comes with its arithmetic reading (`toNat_buildMhdr`,
`toNat_parseMhdr_*`, `beToHost32_bytes`), which is all later proofs use.
-/

namespace LoraFwd.Relay

open LoraFwd.CTypes

/-- The three fields `parse_mhdr` writes through its out-parameters. -/
structure Mhdr where
  metaType : MetaType
  payloadType : PayloadType
  hopCount : UInt8
deriving DecidableEq

/-- `build_mhdr`: each field masked to its width and shifted into place. -/
def buildMhdr (metaType : MetaType) (payloadType : PayloadType)
    (hopCount : UInt8) : UInt8 :=
  (((metaType.toNat &&& 0x07) <<< 5) ||| ((payloadType.toNat &&& 0x03) <<< 3) |||
    (hopCount.toNat &&& 0x07)).toUInt8

/-- `parse_mhdr` (with non-NULL out-parameters, its only use). -/
def parseMhdr (mhdrByte : UInt8) : Mhdr where
  metaType := ((mhdrByte.toNat >>> 5) &&& 0x07).toUInt32
  payloadType := ((mhdrByte.toNat >>> 3) &&& 0x03).toUInt32
  hopCount := (mhdrByte.toNat &&& 0x07).toUInt8

theorem toNat_buildMhdr (metaType : MetaType) (payloadType : PayloadType)
    (hopCount : UInt8) :
    (buildMhdr metaType payloadType hopCount).toNat =
      metaType.toNat % 8 * 32 + payloadType.toNat % 4 * 8 + hopCount.toNat % 8 := by
  simp only [buildMhdr, and_0x07, and_0x03, Nat.shiftLeft_eq, toNat_toUInt8]
  rw [@lor_eq_add (metaType.toNat % 8 * 2 ^ 5) _ 5 (by omega) (by omega),
    lor_eq_add 3 (by omega) (by omega)]
  omega

@[simp]
theorem toNat_parseMhdr_metaType (mhdrByte : UInt8) :
    (parseMhdr mhdrByte).metaType.toNat = mhdrByte.toNat / 32 := by
  have := toNat_lt_256 mhdrByte
  simp only [parseMhdr, and_0x07, Nat.shiftRight_eq_div_pow, toNat_toUInt32]
  omega

@[simp]
theorem toNat_parseMhdr_payloadType (mhdrByte : UInt8) :
    (parseMhdr mhdrByte).payloadType.toNat = mhdrByte.toNat / 8 % 4 := by
  simp only [parseMhdr, and_0x03, Nat.shiftRight_eq_div_pow, toNat_toUInt32]
  omega

@[simp]
theorem toNat_parseMhdr_hopCount (mhdrByte : UInt8) :
    (parseMhdr mhdrByte).hopCount.toNat = mhdrByte.toNat % 8 := by
  simp only [parseMhdr, and_0x07, toNat_toUInt8]
  omega

/-- Parsing a built MHDR returns each field cut to its width. -/
theorem parseMhdr_buildMhdr (metaType : MetaType) (payloadType : PayloadType)
    (hopCount : UInt8) :
    parseMhdr (buildMhdr metaType payloadType hopCount) =
      ⟨(metaType.toNat % 8).toUInt32, (payloadType.toNat % 4).toUInt32,
        (hopCount.toNat % 8).toUInt8⟩ := by
  have built := toNat_buildMhdr metaType payloadType hopCount
  have metaField : (parseMhdr (buildMhdr metaType payloadType hopCount)).metaType =
      (metaType.toNat % 8).toUInt32 :=
    UInt32.toNat.inj (by rw [toNat_parseMhdr_metaType, built, toNat_toUInt32]; omega)
  have payloadField : (parseMhdr (buildMhdr metaType payloadType hopCount)).payloadType =
      (payloadType.toNat % 4).toUInt32 :=
    UInt32.toNat.inj (by rw [toNat_parseMhdr_payloadType, built, toNat_toUInt32]; omega)
  have hopField : (parseMhdr (buildMhdr metaType payloadType hopCount)).hopCount =
      (hopCount.toNat % 8).toUInt8 :=
    UInt8.toNat.inj (by rw [toNat_parseMhdr_hopCount, built, toNat_toUInt8]; omega)
  rw [← metaField, ← payloadField, ← hopField]

/-- The top five bits of a built MHDR are the two discriminators. -/
theorem toNat_buildMhdr_and_0xF8 (metaType : MetaType) (payloadType : PayloadType)
    (hopCount : UInt8) :
    (buildMhdr metaType payloadType hopCount &&& 0xF8).toNat =
      metaType.toNat % 8 * 32 + payloadType.toNat % 4 * 8 := by
  have built := toNat_buildMhdr metaType payloadType hopCount
  have mask := and_mask_shift (buildMhdr metaType payloadType hopCount).toNat 3 5
  rw [UInt8.and_toNat, show (0xF8 : UInt8).toNat = (2 ^ 5 - 1) <<< 3 from rfl, mask,
    Nat.shiftLeft_eq, Nat.shiftRight_eq_div_pow, built]
  omega

/-- Building the MHDR of parsed fields gives the byte back. -/
theorem buildMhdr_parseMhdr (mhdrByte : UInt8) :
    buildMhdr (parseMhdr mhdrByte).metaType (parseMhdr mhdrByte).payloadType
      (parseMhdr mhdrByte).hopCount = mhdrByte := by
  have := toNat_lt_256 mhdrByte
  apply UInt8.toNat.inj
  rw [toNat_buildMhdr, toNat_parseMhdr_metaType, toNat_parseMhdr_payloadType,
    toNat_parseMhdr_hopCount]
  omega

/-- The discriminator test of the decoders on the MHDR byte alone: `parse_mhdr`
yields `LORAWAN_TYPE` and the payload type `code` exactly when the top five
bits are `111` followed by `code`. -/
theorem parseMhdr_discriminators_iff (mhdrByte : UInt8) (code : PayloadType)
    (small : code.toNat < 4) :
    ((parseMhdr mhdrByte).payloadType = code ∧
        (parseMhdr mhdrByte).metaType = MetaType.lorawanType) ↔
      (mhdrByte &&& 0xF8).toNat = 0xE0 + code.toNat * 8 := by
  have := toNat_lt_256 mhdrByte
  have mask : mhdrByte.toNat &&& 0xF8 = ((mhdrByte.toNat >>> 3) % 2 ^ 5) <<< 3 :=
    and_mask_shift mhdrByte.toNat 3 5
  rw [UInt8.and_toNat, show (0xF8 : UInt8).toNat = 0xF8 from rfl, mask, Nat.shiftLeft_eq,
    Nat.shiftRight_eq_div_pow]
  constructor
  · rintro ⟨hp, hm⟩
    have hp' := congrArg UInt32.toNat hp
    have hm' := congrArg UInt32.toNat hm
    simp only [toNat_parseMhdr_payloadType, toNat_parseMhdr_metaType,
      MetaType.toNat_lorawanType] at hp' hm'
    omega
  · intro bits
    refine ⟨UInt32.toNat.inj ?_, UInt32.toNat.inj ?_⟩
    · rw [toNat_parseMhdr_payloadType]
      omega
    · rw [toNat_parseMhdr_metaType, MetaType.toNat_lorawanType]
      omega

/-! ## Byte order -/

/-- `be_to_host32` on a host whose byte order `is_big_endian()` reports. -/
def beToHost32 (isBigEndian : Bool) (value : UInt32) : UInt32 :=
  if isBigEndian then value
  else
    (((value.toNat &&& 0x000000FF) <<< 24) ||| ((value.toNat &&& 0x0000FF00) <<< 8) |||
      ((value.toNat &&& 0x00FF0000) >>> 8) ||| ((value.toNat &&& 0xFF000000) >>> 24)).toUInt32

/-- `host_to_be32` is `be_to_host32`. -/
def hostToBe32 (isBigEndian : Bool) (value : UInt32) : UInt32 :=
  beToHost32 isBigEndian value

@[simp]
theorem beToHost32_true (value : UInt32) : beToHost32 true value = value := rfl

/-- On a little-endian host `be_to_host32` reverses the four bytes. -/
theorem beToHost32_false_toNat (value : UInt32) :
    (beToHost32 false value).toNat =
      value.toNat / 16777216 % 256 + 256 * (value.toNat / 65536 % 256) +
        65536 * (value.toNat / 256 % 256) + 16777216 * (value.toNat % 256) := by
  have m1 := and_mask_shift value.toNat 8 8
  have m2 := and_mask_shift value.toNat 16 8
  have m3 := and_mask_shift value.toNat 24 8
  simp only [show (2 ^ 8 - 1) <<< 8 = 0x0000FF00 from rfl,
    show (2 ^ 8 - 1) <<< 16 = 0x00FF0000 from rfl,
    show (2 ^ 8 - 1) <<< 24 = 0xFF000000 from rfl] at m1 m2 m3
  simp only [beToHost32, Bool.false_eq_true, ↓reduceIte, m1, m2, m3,
    show (0x000000FF : Nat) = 0xFF from rfl, and_0xFF, Nat.shiftLeft_eq,
    Nat.shiftRight_eq_div_pow, toNat_toUInt32, Nat.reducePow]
  have small : value.toNat % 256 < 256 ∧ value.toNat / 256 % 256 < 256 ∧
      value.toNat / 65536 % 256 < 256 ∧ value.toNat / 16777216 % 256 < 256 := by
    omega
  generalize value.toNat % 256 = byte0, value.toNat / 256 % 256 = byte1,
    value.toNat / 65536 % 256 = byte2, value.toNat / 16777216 % 256 = byte3 at small ⊢
  obtain ⟨small0, small1, small2, small3⟩ := small
  rw [Nat.mul_div_cancel _ (by decide), show byte2 * 65536 / 256 = byte2 * 256 by omega,
    @lor_eq_add (byte0 * 16777216) _ 24 (by omega) (by omega),
    @lor_eq_add (byte0 * 16777216 + _) _ 16 (by omega) (by omega),
    lor_eq_add 8 (by omega) (by omega)]
  omega

/-- Converting twice is the identity on either kind of host. -/
@[simp]
theorem beToHost32_beToHost32 (isBigEndian : Bool) (value : UInt32) :
    beToHost32 isBigEndian (beToHost32 isBigEndian value) = value := by
  cases isBigEndian
  · apply UInt32.toNat.inj
    have small : value.toNat % 256 < 256 ∧ value.toNat / 256 % 256 < 256 ∧
        value.toNat / 65536 % 256 < 256 ∧ value.toNat / 16777216 % 256 < 256 := by
      omega
    have whole := word_of_bytes (toNat_lt_2_32 value)
    rw [beToHost32_false_toNat, beToHost32_false_toNat]
    generalize value.toNat % 256 = byte0, value.toNat / 256 % 256 = byte1,
      value.toNat / 65536 % 256 = byte2, value.toNat / 16777216 % 256 = byte3 at whole small ⊢
    obtain ⟨small0, small1, small2, small3⟩ := small
    obtain ⟨low, second, third, high⟩ := bytes_of_word small3 small2 small1 small0
    rw [low, second, third, high, whole]
  · rfl

end LoraFwd.Relay
