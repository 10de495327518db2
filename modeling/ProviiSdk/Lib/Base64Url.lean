/-
  ProviiSdk.Lib.Base64Url — base64url without padding.

  `Engine` is what a program relies on in a base64url engine: every
  encoding is over the URL-safe alphabet and decodes to the bytes it
  came from.  `rfc4648` is the engine of RFC 4648 §5 without padding,
  three bytes to four characters, canonical trailing bits.

  Main results:
    * `rfc4648` — the codec of the RFC is an engine: its two laws are
      `encode_alphabet` and `decode_encode`.
    * `Engine.encode_injective` — encodings of distinct byte strings
      are distinct.
-/

import Mathlib.Logic.Function.Basic

namespace ProviiSdk.Base64Url

/-- The URL-safe alphabet: letters, digits, `-` and `_`. -/
def isAlphabetChar (c : Char) : Bool := c.isAlphanum || c == '-' || c == '_'

/-- A base64url engine without padding. -/
structure Engine where
  encode : List UInt8 → List Char
  decode : List Char → Except String (List UInt8)
  encode_alphabet : ∀ bs, ∀ c ∈ encode bs, isAlphabetChar c = true
  decode_encode : ∀ bs, decode (encode bs) = .ok bs

theorem Engine.encode_injective (e : Engine) : Function.Injective e.encode := by
  intro a b h
  have ha := e.decode_encode a
  rw [h, e.decode_encode b] at ha
  injection ha with ha
  exact ha.symm

/-! ## §1. The alphabet -/

/-- The 64 characters, in value order. -/
def alphabet : List Char :=
  "ABCDEFGHIJKLMNOPQRSTUVWXYZabcdefghijklmnopqrstuvwxyz0123456789-_".toList

/-- The character of a six-bit value. -/
def charOf (v : Nat) : Char := alphabet.getD v 'A'

/-- The value of a character of the alphabet. -/
def valueOf (c : Char) : Option Nat :=
  if alphabet.contains c then some (alphabet.idxOf c) else none

private theorem valueOf_charOf_all : ∀ v < 64, valueOf (charOf v) = some v := by decide

private theorem charOf_alphabet_all : ∀ v < 64, isAlphabetChar (charOf v) = true := by
  decide +kernel

theorem valueOf_charOf (v : Nat) : valueOf (charOf (v % 64)) = some (v % 64) :=
  valueOf_charOf_all _ (Nat.mod_lt v (by decide))

theorem charOf_alphabet (v : Nat) : isAlphabetChar (charOf (v % 64)) = true :=
  charOf_alphabet_all _ (Nat.mod_lt v (by decide))

/-! ## §2. The codec of RFC 4648 -/

/-- Three bytes become four characters; one or two bytes left over
    become two or three, padded with zero bits. -/
def encode : List UInt8 → List Char
  | [] => []
  | [a] =>
    let n := a.toNat * 16
    [charOf (n / 64 % 64), charOf (n % 64)]
  | [a, b] =>
    let n := (a.toNat * 256 + b.toNat) * 4
    [charOf (n / 4096 % 64), charOf (n / 64 % 64), charOf (n % 64)]
  | a :: b :: c :: bs =>
    let n := a.toNat * 65536 + b.toNat * 256 + c.toNat
    charOf (n / 262144 % 64) :: charOf (n / 4096 % 64) :: charOf (n / 64 % 64) ::
      charOf (n % 64) :: encode bs

/-- The bytes of a list of six-bit values; a lone value or nonzero
    trailing bits are rejected. -/
def bytesOf : List Nat → Option (List UInt8)
  | [] => some []
  | [_] => none
  | [p, q] =>
    let n := p * 64 + q
    if n % 16 = 0 then some [UInt8.ofNat (n / 16)] else none
  | [p, q, r] =>
    let n := p * 4096 + q * 64 + r
    if n % 4 = 0 then some [UInt8.ofNat (n / 1024), UInt8.ofNat (n / 4 % 256)] else none
  | p :: q :: r :: s :: vs =>
    let n := p * 262144 + q * 4096 + r * 64 + s
    (bytesOf vs).map fun bs =>
      UInt8.ofNat (n / 65536) :: UInt8.ofNat (n / 256 % 256) :: UInt8.ofNat (n % 256) :: bs

/-- Decode a text of the alphabet. -/
def decode (cs : List Char) : Except String (List UInt8) :=
  match cs.mapM valueOf with
  | none => .error "Invalid symbol"
  | some vs =>
    match bytesOf vs with
    | none => .error "Invalid length or last symbol"
    | some bs => .ok bs

theorem encode_alphabet (bs : List UInt8) : ∀ c ∈ encode bs, isAlphabetChar c = true := by
  fun_induction encode bs with
  | case1 => simp
  | case2 a => simp [charOf_alphabet]
  | case3 a b => simp [charOf_alphabet]
  | case4 a b c bs n ih =>
    intro x hx
    simp only [List.mem_cons] at hx
    rcases hx with rfl | rfl | rfl | rfl | hx
    · exact charOf_alphabet _
    · exact charOf_alphabet _
    · exact charOf_alphabet _
    · exact charOf_alphabet _
    · exact ih x hx

/-- The six-bit values of an encoding. -/
def valuesOf : List UInt8 → List Nat
  | [] => []
  | [a] => [a.toNat * 16 / 64 % 64, a.toNat * 16 % 64]
  | [a, b] =>
    let n := (a.toNat * 256 + b.toNat) * 4
    [n / 4096 % 64, n / 64 % 64, n % 64]
  | a :: b :: c :: bs =>
    let n := a.toNat * 65536 + b.toNat * 256 + c.toNat
    n / 262144 % 64 :: n / 4096 % 64 :: n / 64 % 64 :: n % 64 :: valuesOf bs

private theorem mapM_valueOf_encode (bs : List UInt8) :
    (encode bs).mapM valueOf = some (valuesOf bs) := by
  fun_induction encode bs with
  | case1 => rfl
  | case2 a n => simp [valueOf_charOf, valuesOf, n]
  | case3 a b n => simp [valueOf_charOf, valuesOf, n]
  | case4 a b c bs n ih => simp [valueOf_charOf, valuesOf, ih, n]

private theorem ofNat_of_toNat_eq {v : Nat} {a : UInt8} (h : v = a.toNat) : UInt8.ofNat v = a := by
  rw [h, UInt8.ofNat_toNat]

private theorem bytesOf_valuesOf (bs : List UInt8) : bytesOf (valuesOf bs) = some bs := by
  fun_induction valuesOf bs with
  | case1 => rfl
  | case2 a =>
    have ha := a.toNat_lt
    simp only [bytesOf]
    rw [if_pos (by omega), ofNat_of_toNat_eq (a := a) (by omega)]
  | case3 a b n =>
    have ha := a.toNat_lt
    have hb := b.toNat_lt
    simp only [bytesOf]
    rw [if_pos (by omega), ofNat_of_toNat_eq (a := a) (by omega),
      ofNat_of_toNat_eq (a := b) (by omega)]
  | case4 a b c bs n ih =>
    have ha := a.toNat_lt
    have hb := b.toNat_lt
    have hc := c.toNat_lt
    simp only [bytesOf, ih, Option.map_some]
    rw [ofNat_of_toNat_eq (a := a) (by omega), ofNat_of_toNat_eq (a := b) (by omega),
      ofNat_of_toNat_eq (a := c) (by omega)]

theorem decode_encode (bs : List UInt8) : decode (encode bs) = .ok bs := by
  unfold decode
  rw [mapM_valueOf_encode]
  simp only [bytesOf_valuesOf]

/-- **The RFC 4648 codec is a base64url engine.** -/
def rfc4648 : Engine := ⟨encode, decode, encode_alphabet, decode_encode⟩

end ProviiSdk.Base64Url
