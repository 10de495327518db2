/-
  ProviiSdk.Lib.Wire — positional binary codecs.

  A codec writes a value as bytes and reads it back from the front of a
  byte string, leaving the rest.  Its law is part of the structure, so a
  codec assembled with the combinators below needs no further proof.
  The base codecs are those of a compact positional format: raw bytes,
  little-endian base-128 varints with a bounded number of bytes, zigzag
  signed integers, options with a tag byte, length-prefixed strings and
  sequences.

  Main results:
    * `Codec.decode_encode` — what a codec writes it reads back, with
      any bytes behind it ignored.
    * `Codec.encode_injective` — values in range with equal encodings
      are equal.
    * `Codec.pair_dec_eq_none` — bytes that end early are rejected.
    * `Codec.pair_readsFit`, `Codec.embed_readsFit` — what is read is in
      range, whoever wrote the bytes.
-/

import Mathlib.Data.Vector.Basic

namespace ProviiSdk.Wire

abbrev Bytes := List UInt8

/-- A positional codec.  `fits` says which values are in its range. -/
structure Codec (α : Type) where
  fits : α → Prop
  enc : α → Bytes
  dec : Bytes → Option (α × Bytes)
  dec_enc : ∀ a rest, fits a → dec (enc a ++ rest) = some (a, rest)

variable {α β : Type}

/-- Decode a whole buffer; bytes after the value are ignored. -/
def Codec.decode (c : Codec α) (bs : Bytes) : Option α := (c.dec bs).map (·.1)

/-- **Round trip** of every codec. -/
theorem Codec.decode_encode (c : Codec α) (a : α) (h : c.fits a) : c.decode (c.enc a) = some a := by
  have := c.dec_enc a [] h
  rw [List.append_nil] at this
  unfold Codec.decode
  rw [this, Option.map_some]

theorem Codec.encode_injective (c : Codec α) (a b : α) (ha : c.fits a) (hb : c.fits b)
    (h : c.enc a = c.enc b) : a = b := by
  have hda := c.decode_encode a ha
  rw [h, c.decode_encode b hb] at hda
  injection hda with hda
  exact hda.symm

/-! ## §1. Combinators -/

/-- Two values, one after the other. -/
def Codec.pair (c : Codec α) (d : Codec β) : Codec (α × β) where
  fits p := c.fits p.1 ∧ d.fits p.2
  enc p := c.enc p.1 ++ d.enc p.2
  dec bs := (c.dec bs).bind fun (a, bs) => (d.dec bs).map fun (b, bs) => ((a, b), bs)
  dec_enc := by
    rintro ⟨a, b⟩ rest ⟨ha, hb⟩
    rw [List.append_assoc, c.dec_enc a _ ha]
    simp [d.dec_enc b rest hb]

/-- Bytes that end where the second value should start hold no pair. -/
theorem Codec.pair_dec_eq_none (c : Codec α) (d : Codec β) (a : α) (rest : Bytes) (ha : c.fits a)
    (hrest : d.dec rest = none) : (c.pair d).dec (c.enc a ++ rest) = none := by
  show ((c.dec (c.enc a ++ rest)).bind fun p => (d.dec p.2).map fun q => ((p.1, q.1), q.2)) = none
  rw [c.dec_enc a rest ha, Option.bind_some, hrest, Option.map_none]

/-- A type that embeds into a codec's type; what is read is accepted
    only if `read` recognises it. -/
def Codec.embed (c : Codec α) (write : β → α) (read : α → Option β)
    (h : ∀ b, c.fits (write b) → read (write b) = some b) : Codec β where
  fits b := c.fits (write b)
  enc b := c.enc (write b)
  dec bs := (c.dec bs).bind fun (a, bs) => (read a).map fun b => (b, bs)
  dec_enc := by
    intro b rest hb
    rw [c.dec_enc _ rest hb]
    simp [h b hb]

/-- What holds no value of the codec's type holds none of the other. -/
theorem Codec.embed_dec_eq_none (c : Codec α) (write : β → α) (read : α → Option β)
    (h : ∀ b, c.fits (write b) → read (write b) = some b) (bs : Bytes) (hbs : c.dec bs = none) :
    (c.embed write read h).dec bs = none := by
  show ((c.dec bs).bind fun p => (read p.1).map fun b => (b, p.2)) = none
  rw [hbs, Option.bind_none]

/-- A single raw byte. -/
def Codec.byte : Codec UInt8 where
  fits _ := True
  enc b := [b]
  dec
    | [] => none
    | b :: bs => some (b, bs)
  dec_enc _ _ _ := rfl

/-- A boolean as the byte 0 or 1; any other byte is rejected. -/
def Codec.bool : Codec Bool :=
  Codec.byte.embed (fun b => if b then 1 else 0)
    (fun n => if n = 0 then some false else if n = 1 then some true else none)
    (by intro b _; cases b <;> rfl)

/-- An optional value behind a tag byte 0 or 1. -/
def Codec.option (c : Codec α) : Codec (Option α) where
  fits o := ∀ a ∈ o, c.fits a
  enc
    | none => [0]
    | some a => 1 :: c.enc a
  dec
    | [] => none
    | t :: bs =>
      if t = 0 then some (none, bs)
      else if t = 1 then (c.dec bs).map fun (a, bs) => (some a, bs)
      else none
  dec_enc := by
    intro o rest h
    cases o with
    | none => rfl
    | some a => simp [c.dec_enc a rest (h a rfl)]

/-! ## §2. Varints -/

/-- The base-128 digits of a number, lowest first, in at most `k` bytes;
    every byte but the last has its top bit set. -/
def encVarint : Nat → Nat → Bytes
  | 0, _ => []
  | k + 1, n =>
    if n < 128 then [UInt8.ofNat n]
    else UInt8.ofNat (n % 128 + 128) :: encVarint k (n / 128)

/-- Read a varint of at most `k` bytes. -/
def decVarint : Nat → Bytes → Option (Nat × Bytes)
  | 0, _ => none
  | _ + 1, [] => none
  | k + 1, b :: bs =>
    if b.toNat < 128 then some (b.toNat, bs)
    else (decVarint k bs).map fun (v, bs) => (b.toNat % 128 + 128 * v, bs)

theorem decVarint_encVarint (k n : Nat) (rest : Bytes) (hk : 0 < k) (h : n < 128 ^ k) :
    decVarint k (encVarint k n ++ rest) = some (n, rest) := by
  induction k generalizing n with
  | zero => exact absurd hk (by decide)
  | succ k ih =>
    unfold encVarint
    split
    next hlt =>
      have hn : (UInt8.ofNat n).toNat = n := by rw [UInt8.toNat_ofNat']; omega
      simp [decVarint, hn, hlt]
    next hge =>
      have hb : (UInt8.ofNat (n % 128 + 128)).toNat = n % 128 + 128 := by
        rw [UInt8.toNat_ofNat']; omega
      have hdiv : n / 128 < 128 ^ k := by
        rw [Nat.pow_succ] at h
        exact Nat.div_lt_of_lt_mul (by omega)
      -- a number of two digits or more does not fit into one byte
      have hk' : 0 < k := by
        rcases Nat.eq_zero_or_pos k with rfl | hpos
        · exact absurd h (by simpa using hge)
        · exact hpos
      rw [List.cons_append, decVarint, ih _ hk' hdiv, hb, if_neg (by omega), Option.map_some]
      simp only [Option.some.injEq, Prod.mk.injEq, and_true]
      omega

/-- A varint of at most `k` bytes whose value is below `bound`. -/
def Codec.varint (k bound : Nat) (hk : 0 < k) (h : bound ≤ 128 ^ k) : Codec Nat where
  fits n := n < bound
  enc n := encVarint k n
  dec bs := (decVarint k bs).bind fun (n, bs) => if n < bound then some (n, bs) else none
  dec_enc := by
    intro n rest hn
    rw [decVarint_encVarint k n rest hk (by omega)]
    simp [hn]

/-- The type `u32`. -/
def Codec.u32 : Codec UInt32 :=
  (Codec.varint 5 (2 ^ 32) (by decide) (by decide)).embed UInt32.toNat
    (fun n => some (UInt32.ofNat n))
    (by intro n _; rw [UInt32.ofNat_toNat])

/-- The type `u64`. -/
def Codec.u64 : Codec UInt64 :=
  (Codec.varint 10 (2 ^ 64) (by decide) (by decide)).embed UInt64.toNat
    (fun n => some (UInt64.ofNat n))
    (by intro n _; rw [UInt64.ofNat_toNat])

/-- The length of a string or a sequence: a `usize` of 64 bits. -/
def Codec.usize : Codec Nat := Codec.varint 10 (2 ^ 64) (by decide) (by decide)

/-- Zigzag: non-negative numbers to even ones, negative ones to odd. -/
def zigzag (i : Int) : Nat := if 0 ≤ i then 2 * i.toNat else 2 * (-i - 1).toNat + 1

def unzigzag (n : Nat) : Int := if n % 2 = 0 then (n / 2 : Nat) else -(n / 2 : Nat) - 1

theorem unzigzag_zigzag (i : Int) : unzigzag (zigzag i) = i := by
  unfold zigzag unzigzag
  split <;> split <;> omega

/-- The type `i32`. -/
def Codec.i32 : Codec Int32 :=
  (Codec.varint 5 (2 ^ 32) (by decide) (by decide)).embed (fun i => zigzag i.toInt)
    (fun n => some (Int32.ofInt (unzigzag n)))
    (by intro i _; rw [unzigzag_zigzag, Int32.ofInt_toInt])

/-! ## §3. Byte strings, texts and sequences -/

/-- The next `n` bytes. -/
def takeBytes (n : Nat) (bs : Bytes) : Option (Bytes × Bytes) :=
  if n ≤ bs.length then some (bs.take n, bs.drop n) else none

theorem takeBytes_append (xs rest : Bytes) :
    takeBytes xs.length (xs ++ rest) = some (xs, rest) := by
  simp [takeBytes]

/-- An array of `n` raw bytes. -/
def Codec.array (n : Nat) : Codec (List.Vector UInt8 n) where
  fits _ := True
  enc v := v.toList
  dec bs :=
    if h : n ≤ bs.length then some (⟨bs.take n, by simp [h]⟩, bs.drop n) else none
  dec_enc := by
    rintro ⟨xs, rfl⟩ rest _
    simp [List.Vector.toList]

/-- A length-prefixed byte string. -/
def Codec.bytes : Codec Bytes where
  fits xs := xs.length < 2 ^ 64
  enc xs := Codec.usize.enc xs.length ++ xs
  dec bs := (Codec.usize.dec bs).bind fun (n, bs) => takeBytes n bs
  dec_enc := by
    intro xs rest h
    rw [List.append_assoc, Codec.usize.dec_enc _ _ h]
    exact takeBytes_append xs rest

/-- The UTF-8 bytes of a text. -/
def utf8 (s : String) : Bytes := s.toByteArray.data.toList

theorem utf8_length (s : String) : (utf8 s).length = s.utf8ByteSize := by
  unfold utf8
  rw [Array.length_toList]
  rfl

/-- The text of UTF-8 bytes, when they are valid. -/
def ofUtf8 (bs : Bytes) : Option String := String.fromUTF8? ⟨bs.toArray⟩

theorem ofUtf8_utf8 (s : String) : ofUtf8 (utf8 s) = some s := by
  have harr : (⟨(utf8 s).toArray⟩ : ByteArray) = s.toByteArray := by simp [utf8]
  unfold ofUtf8 String.fromUTF8?
  rw [harr, dif_pos s.isValidUTF8]
  rfl

/-- A length-prefixed text. -/
def Codec.string : Codec String :=
  Codec.bytes.embed utf8 ofUtf8 (fun s _ => ofUtf8_utf8 s)

/-- A length-prefixed byte string of exactly `n` bytes. -/
def Codec.bytesOf (n : Nat) : Codec (List.Vector UInt8 n) :=
  Codec.bytes.embed List.Vector.toList (fun xs => if h : xs.length = n then some ⟨xs, h⟩ else none)
    (by rintro ⟨xs, rfl⟩ _; simp [List.Vector.toList])

/-- Read `n` values in a row. -/
def decMany (c : Codec α) : Nat → Bytes → Option (List α × Bytes)
  | 0, bs => some ([], bs)
  | n + 1, bs =>
    (c.dec bs).bind fun (a, bs) => (decMany c n bs).map fun (as, bs) => (a :: as, bs)

theorem decMany_flatMap (c : Codec α) (as : List α) (rest : Bytes) (h : ∀ a ∈ as, c.fits a) :
    decMany c as.length (as.flatMap c.enc ++ rest) = some (as, rest) := by
  induction as with
  | nil => rfl
  | cons a as ih =>
    rw [List.flatMap_cons, List.append_assoc, List.length_cons, decMany,
      c.dec_enc a _ (h a (by simp))]
    simp [ih (fun b hb => h b (by simp [hb]))]

/-- A length-prefixed sequence. -/
def Codec.seq (c : Codec α) : Codec (List α) where
  fits as := as.length < 2 ^ 64 ∧ ∀ a ∈ as, c.fits a
  enc as := Codec.usize.enc as.length ++ as.flatMap c.enc
  dec bs := (Codec.usize.dec bs).bind fun (n, bs) => decMany c n bs
  dec_enc := by
    rintro as rest ⟨hlen, hall⟩
    rw [List.append_assoc, Codec.usize.dec_enc _ _ hlen]
    exact decMany_flatMap c as rest hall

/-! ## §4. What is read is in range -/

/-- Every value the codec reads is in its range, whoever wrote the
    bytes. -/
def Codec.ReadsFit (c : Codec α) : Prop := ∀ bs a rest, c.dec bs = some (a, rest) → c.fits a

/-- A value decoded from a whole buffer is in range. -/
theorem Codec.fits_of_decode (c : Codec α) (hc : c.ReadsFit) (bs : Bytes) (a : α)
    (h : c.decode bs = some a) : c.fits a := by
  obtain ⟨⟨a', rest⟩, hdec, ha⟩ := Option.map_eq_some_iff.1 h
  rw [← ha]
  exact hc bs a' rest hdec

theorem Codec.pair_readsFit (c : Codec α) (d : Codec β) (hc : c.ReadsFit) (hd : d.ReadsFit) :
    (c.pair d).ReadsFit := by
  intro bs p rest h
  obtain ⟨⟨a, bs₁⟩, ha, h⟩ := Option.bind_eq_some_iff.1 h
  obtain ⟨⟨b, bs₂⟩, hb, h⟩ := Option.map_eq_some_iff.1 h
  injection h with hp
  rw [← hp]
  exact ⟨hc bs a bs₁ ha, hd bs₁ b bs₂ hb⟩

/-- An embedding reads in range when `read` recognises only what `write`
    gives back. -/
theorem Codec.embed_readsFit (c : Codec α) (write : β → α) (read : α → Option β)
    (h : ∀ b, c.fits (write b) → read (write b) = some b) (hc : c.ReadsFit)
    (hread : ∀ a b, c.fits a → read a = some b → c.fits (write b)) :
    (c.embed write read h).ReadsFit := by
  intro bs b rest hb
  obtain ⟨⟨a, bs₁⟩, ha, hb⟩ := Option.bind_eq_some_iff.1 hb
  obtain ⟨b', hb', heq⟩ := Option.map_eq_some_iff.1 hb
  injection heq with hbb
  rw [← hbb]
  exact hread a b' (hc bs a bs₁ ha) hb'

theorem Codec.option_readsFit (c : Codec α) (hc : c.ReadsFit) : c.option.ReadsFit := by
  intro bs o rest h
  cases bs with
  | nil => cases h
  | cons t bs =>
    change (if t = 0 then some (none, bs)
      else if t = 1 then (c.dec bs).map fun (a, bs) => (some a, bs) else none) = _ at h
    split at h
    · -- the tag 0: no value was read
      injection h with h
      injection h with ho
      rw [← ho]
      intro a ha
      cases ha
    · split at h
      · obtain ⟨⟨a, bs₁⟩, ha, h⟩ := Option.map_eq_some_iff.1 h
        injection h with ho
        rw [← ho]
        intro a' ha'
        injection ha' with ha'
        rw [← ha']
        exact hc bs a bs₁ ha
      · cases h

theorem Codec.varint_readsFit (k bound : Nat) (hk : 0 < k) (h : bound ≤ 128 ^ k) :
    (Codec.varint k bound hk h).ReadsFit := by
  intro bs n rest hn
  obtain ⟨⟨m, bs₁⟩, -, hn⟩ := Option.bind_eq_some_iff.1 hn
  change (if m < bound then some (m, bs₁) else none) = _ at hn
  split at hn
  next hlt =>
    injection hn with hn
    injection hn with hmn
    rw [← hmn]
    exact hlt
  next => cases hn

theorem Codec.byte_readsFit : Codec.byte.ReadsFit := fun _ _ _ _ => trivial

theorem Codec.array_readsFit (n : Nat) : (Codec.array n).ReadsFit := fun _ _ _ _ => trivial

theorem Codec.u32_readsFit : Codec.u32.ReadsFit := by
  refine Codec.embed_readsFit _ _ _ _ (Codec.varint_readsFit _ _ _ _) ?_
  intro n m _ _
  exact UInt32.toNat_lt m

theorem Codec.u64_readsFit : Codec.u64.ReadsFit := by
  refine Codec.embed_readsFit _ _ _ _ (Codec.varint_readsFit _ _ _ _) ?_
  intro n m _ _
  exact UInt64.toNat_lt m

theorem Codec.bytes_readsFit : Codec.bytes.ReadsFit := by
  intro bs xs rest h
  obtain ⟨⟨n, bs₁⟩, hn, h⟩ := Option.bind_eq_some_iff.1 h
  have hlt : n < 2 ^ 64 := Codec.varint_readsFit _ _ _ _ bs n bs₁ hn
  change (if n ≤ bs₁.length then some (bs₁.take n, bs₁.drop n) else none) = _ at h
  split at h
  next hle =>
    injection h with h
    injection h with hxs
    show xs.length < 2 ^ 64
    rw [← hxs, List.length_take]
    omega
  next => cases h

/-- The text of some bytes has those bytes. -/
theorem utf8_of_ofUtf8 {bs : Bytes} {s : String} (h : ofUtf8 bs = some s) : utf8 s = bs := by
  unfold ofUtf8 String.fromUTF8? at h
  split at h
  next =>
    injection h with h
    rw [← h]
    rfl
  next => cases h

theorem Codec.string_readsFit : Codec.string.ReadsFit := by
  refine Codec.embed_readsFit _ _ _ _ Codec.bytes_readsFit ?_
  intro bs s hbs hs
  rw [utf8_of_ofUtf8 hs]
  exact hbs

theorem Codec.bytesOf_readsFit (n : Nat) : (Codec.bytesOf n).ReadsFit := by
  refine Codec.embed_readsFit _ _ _ _ Codec.bytes_readsFit ?_
  intro bs v hbs hv
  split at hv
  next =>
    injection hv with hv
    rw [← hv]
    exact hbs
  next => cases hv

end ProviiSdk.Wire
