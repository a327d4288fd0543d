import Mathlib.Algebra.Group.Nat.Basic
import Mathlib.Algebra.Group.Int

/-!
# C integer semantics shared by the models

The relay codec and the radio HAL are written against `stdint.h`.  The models
keep the code's own fixed-width types for stored values (`UInt8`, `UInt16`,
`UInt32`, `Int8`) and evaluate each C expression on the `Nat` values of its
operands, as the usual arithmetic conversions do: every intermediate value of
the modelled expressions fits in `int` or `unsigned int`, so nothing wraps
before the final assignment, which truncates to the destination type
(`Nat.toUInt8` and friends).

This module collects the arithmetic reading of those operations: masks with
`2^k - 1` are remainders, shifts are products and quotients, and an `|` of
fields with disjoint bits is a sum.  Proofs about the codecs rewrite with these
and finish with `omega`.
-/

namespace LoraFwd.CTypes

/-! ## Truncation on assignment -/

@[simp]
theorem toNat_toUInt8 (n : Nat) : n.toUInt8.toNat = n % 256 :=
  BitVec.toNat_ofNat _ _

@[simp]
theorem toNat_toUInt16 (n : Nat) : n.toUInt16.toNat = n % 65536 :=
  BitVec.toNat_ofNat _ _

@[simp]
theorem toNat_toUInt32 (n : Nat) : n.toUInt32.toNat = n % 2 ^ 32 :=
  BitVec.toNat_ofNat _ _

theorem toNat_lt_256 (byte : UInt8) : byte.toNat < 256 := byte.toNat_lt_size

theorem toNat_lt_65536 (word : UInt16) : word.toNat < 65536 := word.toNat_lt_size

theorem toNat_lt_2_32 (word : UInt32) : word.toNat < 2 ^ 32 := word.toNat_lt_size

@[simp]
theorem toNat_uint8_toUInt32 (byte : UInt8) : byte.toUInt32.toNat = byte.toNat := rfl

/-- Widening a byte to 32 bits and narrowing it back gives the byte. -/
@[simp]
theorem uint8_toUInt32_toUInt8 (byte : UInt8) : byte.toUInt32.toUInt8 = byte :=
  UInt8.toNat.inj (by
    show (byte.toUInt32.toNat).toUInt8.toNat = byte.toNat
    rw [toNat_toUInt8, toNat_uint8_toUInt32]
    exact Nat.mod_eq_of_lt (toNat_lt_256 byte))

/-- Comparisons of fixed-width values are comparisons of their values. -/
theorem uint32_lt_iff (left right : UInt32) : left < right ↔ left.toNat < right.toNat :=
  Iff.rfl

/-! ## Masks and shifts -/

@[simp]
theorem and_0x03 (n : Nat) : n &&& 0x03 = n % 4 :=
  Nat.and_pow_two_sub_one_eq_mod n 2

@[simp]
theorem and_0x07 (n : Nat) : n &&& 0x07 = n % 8 :=
  Nat.and_pow_two_sub_one_eq_mod n 3

@[simp]
theorem and_0x0F (n : Nat) : n &&& 0x0F = n % 16 :=
  Nat.and_pow_two_sub_one_eq_mod n 4

@[simp]
theorem and_0xFF (n : Nat) : n &&& 0xFF = n % 256 :=
  Nat.and_pow_two_sub_one_eq_mod n 8

/-- A contiguous mask `m` bits wide starting at bit `k` selects one field. -/
theorem and_mask_shift (n k m : Nat) :
    n &&& ((2 ^ m - 1) <<< k) = ((n >>> k) % 2 ^ m) <<< k := by
  apply Nat.eq_of_testBit_eq
  intro i
  simp only [Nat.testBit_and, Nat.testBit_shiftLeft, Nat.testBit_two_pow_sub_one,
    Nat.testBit_mod_two_pow, Nat.testBit_shiftRight]
  by_cases above : i ≥ k
  · have split : k + (i - k) = i := by omega
    simp [above, split, Bool.and_comm]
  · simp [above]

/-- An `|` whose right operand lies below the lowest set bit of the left one
adds. -/
theorem lor_eq_add {high low : Nat} (k : Nat) (aligned : 2 ^ k ∣ high)
    (below : low < 2 ^ k) : high ||| low = high + low := by
  obtain ⟨quotient, rfl⟩ := aligned
  exact (Nat.mul_add_lt_is_or below quotient).symm

/-- The four bytes of a word assembled from four bytes, least significant
first. -/
theorem bytes_of_word {byte0 byte1 byte2 byte3 : Nat} (small0 : byte0 < 256)
    (small1 : byte1 < 256) (small2 : byte2 < 256) (small3 : byte3 < 256) :
    (byte0 + 256 * byte1 + 65536 * byte2 + 16777216 * byte3) % 256 = byte0 ∧
      (byte0 + 256 * byte1 + 65536 * byte2 + 16777216 * byte3) / 256 % 256 = byte1 ∧
      (byte0 + 256 * byte1 + 65536 * byte2 + 16777216 * byte3) / 65536 % 256 = byte2 ∧
      (byte0 + 256 * byte1 + 65536 * byte2 + 16777216 * byte3) / 16777216 % 256 =
        byte3 := by
  refine ⟨?_, ?_, ?_, ?_⟩ <;> omega

/-- A 32-bit value is the sum of its four bytes. -/
theorem word_of_bytes {word : Nat} (bound : word < 2 ^ 32) :
    word = word % 256 + 256 * (word / 256 % 256) + 65536 * (word / 65536 % 256) +
      16777216 * (word / 16777216 % 256) := by
  omega

/-! ## Signed readings -/

/-- `(int32_t) word`: the two's-complement reading of a 32-bit word. -/
def toInt32 (word : UInt32) : Int :=
  if word.toNat < 2 ^ 31 then word.toNat else (word.toNat : Int) - 2 ^ 32

theorem toInt32_of_lt {word : UInt32} (small : word.toNat < 2 ^ 31) :
    toInt32 word = word.toNat :=
  if_pos small

theorem toInt32_lt (word : UInt32) : toInt32 word < 2 ^ 31 := by
  have bound := toNat_lt_2_32 word
  unfold toInt32
  split_ifs <;> omega

/-! ## Counter arithmetic

The HAL computes on its `uint32_t` microsecond counter with the wrapping
`UInt32` operations. -/

theorem toNat_uint32_add (a b : UInt32) : (a + b).toNat = (a.toNat + b.toNat) % 2 ^ 32 := rfl

theorem toNat_uint32_sub (a b : UInt32) :
    (a - b).toNat = (2 ^ 32 - b.toNat + a.toNat) % 2 ^ 32 := rfl

/-- Moving the counter on by `step` brings a target `step` closer, read as
`int32_t`, as long as the distance does not leave the `int32_t` range. -/
theorem toInt32_sub_add (target now step : UInt32)
    (noWrap : -2 ^ 31 ≤ toInt32 (target - now) - step.toNat) :
    toInt32 (target - (now + step)) = toInt32 (target - now) - step.toNat := by
  have targetBound := toNat_lt_2_32 target
  have nowBound := toNat_lt_2_32 now
  have stepBound := toNat_lt_2_32 step
  unfold toInt32 at noWrap ⊢
  simp only [toNat_uint32_sub, toNat_uint32_add] at noWrap ⊢
  split_ifs at noWrap ⊢ <;> omega

/-! ## Byte buffers -/

/-- `memcpy(dst, src, count)` on a byte array: the first `count` bytes of `dst`
become those of `src`, the rest of `dst` is untouched. -/
def memcpy (dst src : List UInt8) (count : Nat) : List UInt8 :=
  src.take count ++ dst.drop count

theorem length_memcpy {dst src : List UInt8} {count : Nat}
    (fits : count ≤ dst.length) (enough : count ≤ src.length) :
    (memcpy dst src count).length = dst.length := by
  simp only [memcpy, List.length_append, List.length_take, List.length_drop]
  omega

theorem take_memcpy {dst src : List UInt8} {count : Nat}
    (enough : count ≤ src.length) :
    (memcpy dst src count).take count = src.take count := by
  have taken : (src.take count).length = count := by
    simp only [List.length_take]
    omega
  simp [memcpy, List.take_append_eq_append_take, taken]

end LoraFwd.CTypes
