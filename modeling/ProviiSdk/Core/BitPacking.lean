/-
  ProviiSdk.Core.BitPacking — packing and unpacking are inverse.

  The blinding bits travel as bytes, eight to a byte, most significant
  first.  Packing fills the last byte with zeros, unpacking stops at the
  number of bits that is asked for.  That number is reserved first, so it
  has to be one that a vector can have.

  Main results:
    * `flatMap_packBits` — the bits of packed bytes: those that were
      packed, and zeros.
    * `packBits_flatMap` — the bits of bytes pack to the bytes.
    * `getElem?_unpackBits` — which bit of which byte is where.
    * `bit_packing_invertible` — the round trips, for every length that a
      vector can have.
    * `unpackBits_overflows` — a number of bits that it cannot.
-/

import ProviiSdk.Core.Commitment

namespace ProviiSdk.Core

/-! ## §1. The bits of a byte -/

@[simp] theorem length_byteBits (byte : UInt8) : (byteBits byte).length = 8 := rfl

theorem length_bits_of_bytes (bytes : List UInt8) :
    (bytes.flatMap byteBits).length = 8 * bytes.length := by
  induction bytes with
  | nil => rfl
  | cons byte bytes ih =>
    rw [List.flatMap_cons, List.length_append, ih, length_byteBits, List.length_cons]
    omega

/-- **A byte is packed from its bits.** -/
theorem packByte_byteBits (byte : UInt8) : packByte (byteBits byte) = byte := by
  have hall : ∀ n : Fin 256, packByte (byteBits (UInt8.ofNat n)) = UInt8.ofNat n := by
    decide +kernel
  have hbyte := hall ⟨byte.toNat, byte.toNat_lt⟩
  rwa [UInt8.ofNat_toNat] at hbyte

/-- The bits are those of the number, the most significant in front. -/
theorem msbBit_eq_testBit (byte : UInt8) (i : Nat) (h : i < 8) :
    msbBit byte i = byte.toNat.testBit (7 - i) := by
  have hall : ∀ n : Fin 256, ∀ i : Fin 8,
      msbBit (UInt8.ofNat n) i = (UInt8.ofNat n).toNat.testBit (7 - i) := by
    decide +kernel
  have hbit := hall ⟨byte.toNat, byte.toNat_lt⟩ ⟨i, h⟩
  rwa [UInt8.ofNat_toNat] at hbit

/-! ## §2. Packed bytes -/

/-- The chunks of an empty list. -/
theorem packBits_nil : packBits [] = [] := rfl

/-- The first byte, and the bytes of the rest. -/
theorem packBits_of_ne_nil {bits : List Bool} (h : bits ≠ []) :
    packBits bits = packByte (bits.take 8) :: packBits (bits.drop 8) := by
  unfold packBits
  rw [chunks_cons bits h, List.map_cons]

theorem length_packBits (bits : List Bool) : (packBits bits).length = (bits.length + 7) / 8 := by
  unfold packBits chunks
  rw [List.length_map, List.length_map, List.length_range]

/-- **The bits of packed bytes** are those that were packed, and zeros up
    to the end of the last byte. -/
theorem flatMap_packBits (bits : List Bool) :
    (packBits bits).flatMap byteBits =
      bits ++ List.replicate (8 * (packBits bits).length - bits.length) false := by
  induction hlen : bits.length using Nat.strong_induction_on generalizing bits with
  | _ n ih =>
    by_cases hnil : bits = []
    · have hzero : n = 0 := by rw [← hlen, hnil, List.length_nil]
      rw [hnil, packBits_nil, hzero]
      rfl
    · have hpos : 0 < bits.length := List.length_pos_iff.2 hnil
      have hrest := ih (bits.drop 8).length (by rw [List.length_drop]; omega) (bits.drop 8)
        rfl
      rw [packBits_of_ne_nil hnil, List.flatMap_cons, hrest,
        byteBits_packByte _ (by rw [List.length_take]; omega), List.length_cons]
      by_cases hlong : 8 ≤ bits.length
      · -- a full chunk, and the zeros of the rest
        have htake : (bits.take 8).length = 8 := by
          rw [List.length_take]
          omega
        rw [htake, Nat.sub_self, List.replicate_zero, List.append_nil, ← List.append_assoc,
          List.take_append_drop, List.length_drop]
        congr 2
        omega
      · -- the last chunk
        have hdrop : bits.drop 8 = [] := List.drop_eq_nil_of_le (by omega)
        rw [hdrop, packBits_nil, List.take_of_length_le (by omega), hlen, List.length_nil,
          Nat.mul_zero, Nat.zero_sub, List.replicate_zero, List.append_nil, List.append_nil]

/-- **The bits of bytes pack to the bytes.** -/
theorem packBits_flatMap (bytes : List UInt8) : packBits (bytes.flatMap byteBits) = bytes := by
  induction bytes with
  | nil => rfl
  | cons byte bytes ih =>
    have hne : byteBits byte ++ bytes.flatMap byteBits ≠ [] := by
      rw [← List.length_pos_iff, List.length_append, length_byteBits]
      omega
    rw [List.flatMap_cons, packBits_of_ne_nil hne, List.take_left' (length_byteBits byte),
      List.drop_left' (length_byteBits byte), packByte_byteBits, ih]

/-! ## §3. Unpacked bits -/

theorem length_unpackBits (bytes : List UInt8) (n : Nat) :
    (unpackBits bytes n).length = min n (8 * bytes.length) := by
  rw [unpackBits_eq, List.length_take, length_bits_of_bytes]

/-- Bit `i` of the bytes is in byte `i / 8`. -/
theorem getElem?_flatMap_byteBits (bytes : List UInt8) (i : Nat) :
    (bytes.flatMap byteBits)[i]? = bytes[i / 8]?.map fun byte => byte.toNat.testBit (7 - i % 8) := by
  induction bytes generalizing i with
  | nil => rfl
  | cons byte bytes ih =>
    rw [List.flatMap_cons, List.getElem?_append, length_byteBits]
    split
    next hin =>
      have hzero : i / 8 = 0 := by omega
      have hmod : i % 8 = i := by omega
      rw [hzero, hmod]
      unfold byteBits
      rw [List.getElem?_map, List.getElem?_range hin, Option.map_some, List.getElem?_cons_zero,
        Option.map_some, msbBit_eq_testBit byte i hin]
    next hout =>
      have hdiv : i / 8 = (i - 8) / 8 + 1 := by omega
      have hmod : i % 8 = (i - 8) % 8 := by omega
      rw [ih, hdiv, hmod, List.getElem?_cons_succ]

/-- **Which bit is where**: bit `i` is in byte `i / 8`, the most
    significant of it first. -/
theorem getElem?_unpackBits (bytes : List UInt8) (n i : Nat) (h : i < n) :
    (unpackBits bytes n)[i]? =
      bytes[i / 8]?.map fun byte => byte.toNat.testBit (7 - i % 8) := by
  rw [unpackBits_eq, List.getElem?_take_of_lt h, getElem?_flatMap_byteBits]

/-! ## §4. The round trips -/

/-- The bits of a list of bytes, most significant first, to be compared
    with what the loops compute. -/
def bitsOf (bytes : List UInt8) : List Bool :=
  bytes.flatMap fun byte => (List.range 8).map fun i => byte.toNat.testBit (7 - i)

theorem bitsOf_eq (bytes : List UInt8) : bitsOf bytes = bytes.flatMap byteBits := by
  unfold bitsOf
  refine List.flatMap_congr fun byte _ => List.map_congr_left fun i hi => ?_
  exact (msbBit_eq_testBit byte i (List.mem_range.1 hi)).symm

/-- **Bit packing is invertible** as far as vectors reach.  Packed bits
    unpack to themselves, in as few bytes as hold them and with zeros
    behind them; unpacked bytes pack to themselves; what is unpacked are
    the first bits; and beyond that nothing is unpacked. -/
theorem bit_packing_invertible (isizeMax : Nat) (b : List Bool) (bs : List UInt8) (n : Nat) :
    ((b.length ≤ isizeMax → unpackBits? isizeMax (packBits b) b.length = some b) ∧
      (packBits b).length = (b.length + 7) / 8 ∧
      bitsOf (packBits b) = b ++ List.replicate (8 * (packBits b).length - b.length) false) ∧
    (8 * bs.length ≤ isizeMax →
      (unpackBits? isizeMax bs (8 * bs.length)).map packBits = some bs) ∧
    (n ≤ isizeMax → ∃ bits, unpackBits? isizeMax bs n = some bits ∧
      bits.length = min n (8 * bs.length) ∧ bits = (bitsOf bs).take n ∧
      ∀ i < n, bits[i]? = bs[i / 8]?.map fun byte => byte.toNat.testBit (7 - i % 8)) ∧
    (isizeMax < n → unpackBits? isizeMax bs n = none) := by
  refine ⟨⟨?_, length_packBits b, ?_⟩, ?_, ?_, ?_⟩
  · intro hb
    rw [unpackBits?_of_le hb, unpackBits_packBits]
  · rw [bitsOf_eq, flatMap_packBits]
  · intro hbs
    rw [unpackBits?_of_le hbs, unpackBits_eq,
      List.take_of_length_le (by rw [length_bits_of_bytes]), Option.map_some, packBits_flatMap]
  · intro hn
    refine ⟨_, unpackBits?_of_le hn bs, length_unpackBits bs n, ?_, getElem?_unpackBits bs n⟩
    rw [unpackBits_eq, bitsOf_eq]
  · intro hn
    exact if_neg (Nat.not_le_of_lt hn)

/-- Three bits and two bytes, with the vectors of a 64-bit target. -/
theorem bit_packing_of_two_bytes :
    unpackBits? 9223372036854775807 (packBits [true, false, true]) 3 = some [true, false, true] ∧
      (unpackBits? 9223372036854775807 [165, 1] 16).map packBits = some [165, 1] ∧
      ∃ bits, unpackBits? 9223372036854775807 [165, 1] 11 = some bits ∧ bits.length = 11 := by
  have hall := bit_packing_invertible 9223372036854775807 [true, false, true] [165, 1] 11
  obtain ⟨bits, hbits, hlen, -⟩ := hall.2.2.1 (by decide)
  exact ⟨hall.1.1 (by decide), hall.2.1 (by decide), bits, hbits, hlen⟩

/-- **A number of bits that no vector holds** is asked for: nothing is
    unpacked, from no bytes or from any. -/
theorem unpackBits_overflows :
    unpackBits? 9223372036854775807 [] 18446744073709551615 = none ∧
      ¬ ∀ (bs : List UInt8) (n : Nat), n ≤ 18446744073709551615 →
        ∃ bits, unpackBits? 9223372036854775807 bs n = some bits ∧
          bits.length = min n (8 * bs.length) := by
  have hnone : unpackBits? 9223372036854775807 [] 18446744073709551615 = none :=
    if_neg (by decide)
  refine ⟨hnone, fun hall => ?_⟩
  obtain ⟨bits, hbits, -⟩ := hall [] 18446744073709551615 (Nat.le_refl _)
  rw [hnone] at hbits
  cases hbits

end ProviiSdk.Core
