/-
  ProviiSdk.Core.Commitment — blinding bits and the commitment over them.

  The first step of an issuance: a birth day is parsed, blinding bits are
  drawn, and the commitment over both is computed.  The bits travel as
  packed bytes, eight to a byte, most significant first.

  Main results:
    * `unpackBits_eq` — what the two nested loops of the unpacking leave:
      the first bits of the bytes, in order.
    * `unpackBits_packBits` — packed bits unpack to themselves, for every
      length.
-/

import ProviiSdk.Core.Issuance
import ProviiSdk.Lib.Text

namespace ProviiSdk.Core

open ProviiSdk.Text

/-! ## §1. Packing -/

/-- Rust's `xs.chunks(n)`: runs of `n` elements, the last one shorter. -/
def chunks {α : Type} (n : Nat) (xs : List α) : List (List α) :=
  (List.range ((xs.length + (n - 1)) / n)).map fun k => (xs.drop (n * k)).take n

/-- The byte of a chunk: bit `i` goes to position `7 - i`. -/
def packByte (chunk : List Bool) : UInt8 :=
  chunk.zipIdx.foldl (fun byte (bit, i) =>
    if bit then byte ||| ((1 : UInt8) <<< UInt8.ofNat (7 - i)) else byte) 0

/-- Pack bits into bytes, eight to a byte, most significant first. -/
def packBits (bits : List Bool) : List UInt8 := (chunks 8 bits).map packByte

/-- The eight bits of a byte, most significant first. -/
def byteBits (byte : UInt8) : List Bool := (List.range 8).map (msbBit byte)

/-! ## §2. What unpacking does -/

/-- Pushing values while there is room keeps the first ones. -/
theorem foldl_push_eq {α : Type} (n : Nat) (xs acc : List α) (h : acc.length ≤ n) :
    xs.foldl (fun acc x => if acc.length ≥ n then acc else acc ++ [x]) acc =
      (acc ++ xs).take n := by
  induction xs generalizing acc with
  | nil => simp [List.take_of_length_le h]
  | cons x xs ih =>
    rw [List.foldl_cons]
    by_cases hfull : acc.length ≥ n
    · have hlen : acc.length = n := by omega
      rw [if_pos hfull, ih acc h, ← hlen, List.take_left, List.take_left]
    · rw [if_neg hfull, ih (acc ++ [x]) (by simp; omega), List.append_assoc, List.singleton_append]

/-- **Unpacking takes the first bits of the bytes, in order.** -/
theorem unpackBits_eq (bytes : List UInt8) (bitCount : Nat) :
    unpackBits bytes bitCount = (bytes.flatMap byteBits).take bitCount := by
  -- the inner loop pushes the byte's bits one by one
  have hbyte : ∀ (acc : List Bool) (byte : UInt8), (List.range 8).foldl
      (fun acc i => if acc.length ≥ bitCount then acc else acc ++ [msbBit byte i]) acc =
        (byteBits byte).foldl
          (fun acc bit => if acc.length ≥ bitCount then acc else acc ++ [bit]) acc := by
    intro acc byte
    unfold byteBits
    rw [List.foldl_map]
  unfold unpackBits
  simp only [hbyte]
  rw [← List.foldl_flatMap, foldl_push_eq bitCount _ [] (Nat.zero_le _), List.nil_append,
    List.take_take, Nat.min_self]

/-! ## §3. Packed bits unpack -/

/-- The first chunk, and the chunks of the rest. -/
theorem chunks_cons {α : Type} (xs : List α) (h : xs ≠ []) :
    chunks 8 xs = xs.take 8 :: chunks 8 (xs.drop 8) := by
  have hpos : 0 < xs.length := List.length_pos_iff.2 h
  have hcount : (xs.length + (8 - 1)) / 8 = ((xs.drop 8).length + (8 - 1)) / 8 + 1 := by
    rw [List.length_drop]
    omega
  unfold chunks
  rw [hcount, List.range_succ_eq_map, List.map_cons, List.map_map]
  congr 1
  refine List.map_congr_left fun k _ => ?_
  show (xs.drop (8 * (k + 1))).take 8 = ((xs.drop 8).drop (8 * k)).take 8
  rw [List.drop_drop]
  congr 2
  omega

/-- Zero bits at the end of a chunk do not change its byte. -/
private theorem packByte_append_false (chunk : List Bool) (n : Nat) :
    packByte (chunk ++ List.replicate n false) = packByte chunk := by
  unfold packByte
  rw [List.zipIdx_append, List.foldl_append]
  generalize List.foldl _ _ chunk.zipIdx = byte
  generalize 0 + chunk.length = k
  induction n generalizing k with
  | zero => rfl
  | succ n ih =>
    rw [List.replicate_succ, List.zipIdx_cons, List.foldl_cons]
    exact ih (k + 1)

private theorem byteBits_packByte_eight : ∀ a b c d e f g h : Bool,
    byteBits (packByte [a, b, c, d, e, f, g, h]) = [a, b, c, d, e, f, g, h] := by
  decide +kernel

/-- A byte of eight bits has those bits. -/
private theorem byteBits_packByte_of_length (chunk : List Bool) (h : chunk.length = 8) :
    byteBits (packByte chunk) = chunk := by
  match chunk, h with
  | [a, b, c, d, e, f, g, h], _ => exact byteBits_packByte_eight a b c d e f g h

/-- **The byte of a chunk has the chunk's bits, and zeros behind them.** -/
theorem byteBits_packByte (chunk : List Bool) (h : chunk.length ≤ 8) :
    byteBits (packByte chunk) = chunk ++ List.replicate (8 - chunk.length) false := by
  rw [← packByte_append_false chunk (8 - chunk.length), byteBits_packByte_of_length]
  rw [List.length_append, List.length_replicate]
  omega

/-- The bits of packed bytes begin with the bits that were packed. -/
theorem prefix_flatMap_packBits (bits : List Bool) : bits <+: (packBits bits).flatMap byteBits := by
  induction hlen : bits.length using Nat.strong_induction_on generalizing bits with
  | _ n ih =>
    by_cases hnil : bits = []
    · rw [hnil]
      exact List.nil_prefix
    · have hpos : 0 < bits.length := List.length_pos_iff.2 hnil
      have hrest := ih (bits.drop 8).length (by rw [List.length_drop]; omega) (bits.drop 8) rfl
      unfold packBits at hrest ⊢
      rw [chunks_cons bits hnil, List.map_cons, List.flatMap_cons,
        byteBits_packByte _ (by rw [List.length_take]; omega)]
      by_cases hlong : 8 ≤ bits.length
      · -- a full chunk leaves no zeros
        have htake : (bits.take 8).length = 8 := by
          rw [List.length_take]
          omega
        rw [htake, Nat.sub_self, List.replicate_zero, List.append_nil]
        conv_lhs => rw [← List.take_append_drop 8 bits]
        exact (List.prefix_append_right_inj _).2 hrest
      · rw [List.take_of_length_le (by omega), List.append_assoc]
        exact List.prefix_append _ _

/-- **Packed bits unpack to themselves**, for every length. -/
theorem unpackBits_packBits (bits : List Bool) : unpackBits (packBits bits) bits.length = bits := by
  rw [unpackBits_eq]
  exact (List.prefix_iff_eq_take.1 (prefix_flatMap_packBits bits)).symm

/-! ## §4. The commitment -/

/-- What a commitment is computed from, and the commitment. -/
structure CommitmentParts where
  dobDays : Int32
  rBits : List Bool
  cBytes : Bytes32
  deriving DecidableEq

/-- Commit to a birth day under the blinding bits that were drawn. -/
def computeCommitment (X : Crates) (rBits : List Bool) (dobDays : Int32) :
    Except WalletError CommitmentParts :=
  match X.pedersenCommitDobValidated dobDays rBits with
  | .error e => .error (.validationFailed ("Commitment generation failed: " ++ e))
  | .ok cBytes => .ok { dobDays, rBits, cBytes }

/-- Parse an ISO date into days since the epoch.  The first argument is
    the calendar: the days of a `%Y-%m-%d` text, or its parse error. -/
def parseDobIso (naiveDate : String → Except String Int) (dobIso : String) :
    Except WalletError Int32 :=
  match naiveDate dobIso with
  | .error e => .error (.invalidInput ("Invalid date format (expected YYYY-MM-DD): " ++ e))
  | .ok days =>
    if -2147483648 ≤ days ∧ days < 2147483648 then .ok (Int32.ofInt days)
    else .error (.invalidInput s!"DOB days ({days}) exceeds i32 range")

end ProviiSdk.Core
