/-
  ProviiSdk.Ffi.ChallengeId — the form of a challenge id.

  A challenge id goes into the path of a request as it is.  What keeps it
  from changing the path is a loop over its bytes, which lets nothing
  pass but UUIDs.

  Main results:
    * `validateUuidBytes_groups_iff` — the loop over groups of digits.
    * `validateUuidFormat_ok_iff` — what the loop lets pass, as a
      grammar.
-/

import ProviiSdk.Ffi.Qr
import ProviiSdk.Lib.Groups
import ProviiSdk.Lib.Utf8

namespace ProviiSdk.Ffi

open ProviiSdk.Core ProviiSdk.Check ProviiSdk.Wire ProviiSdk.Utf8 ProviiSdk.Groups

/-! ## §1. The grammar -/

/-- An ASCII hex digit. -/
def isHexChar (c : Char) : Bool :=
  ('0' ≤ c && c ≤ '9') || ('A' ≤ c && c ≤ 'F') || ('a' ≤ c && c ≤ 'f')

/-- **The form of a UUID**: 8, 4, 4, 4 and 12 hex digits, with single
    hyphens between them. -/
def UuidForm (id : String) : Prop :=
  ∃ groups : List (List Char), groups.map List.length = [8, 4, 4, 4, 12] ∧
    (∀ g ∈ groups, ∀ c ∈ g, isHexChar c = true) ∧ id.toList = ['-'].intercalate groups

/-- The places of the hyphens. -/
def HyphenPlace (i : Nat) : Prop := i = 8 ∨ i = 13 ∨ i = 18 ∨ i = 23

/-- The character of an ASCII byte. -/
def byteChar (b : UInt8) : Char := Char.ofNat b.toNat

theorem byteChar_toUInt8 {c : Char} (h : c.toNat < 128) : byteChar c.toUInt8 = c := by
  have hbyte : c.toUInt8.toNat = c.toNat :=
    Nat.mod_eq_of_lt (Nat.lt_trans h (by decide : 128 < 256))
  unfold byteChar
  rw [hbyte, Char.ofNat_toNat]

/-- Bytes and characters agree on hex digits. -/
theorem isHexChar_byteChar (b : UInt8) : isHexChar (byteChar b) = isAsciiHexDigit b := by
  have hall : ∀ n : Fin 256, isHexChar (byteChar (UInt8.ofNat n)) =
      isAsciiHexDigit (UInt8.ofNat n) := by
    decide +kernel
  have hbyte := hall ⟨b.toNat, b.toNat_lt⟩
  rwa [UInt8.ofNat_toNat] at hbyte

theorem ascii_of_isHexChar {c : Char} (h : isHexChar c = true) : c.toNat < 128 := by
  have hle : ∀ d : Char, c ≤ d → c.toNat ≤ d.toNat := fun d hd => UInt32.le_iff_toNat_le.1 hd
  unfold isHexChar at h
  simp only [Bool.or_eq_true, Bool.and_eq_true, decide_eq_true_eq] at h
  rcases h with (⟨-, h⟩ | ⟨-, h⟩) | ⟨-, h⟩
  · exact Nat.lt_of_le_of_lt (hle '9' h) (by decide)
  · exact Nat.lt_of_le_of_lt (hle 'F' h) (by decide)
  · exact Nat.lt_of_le_of_lt (hle 'f' h) (by decide)

/-- A byte that is a hex digit is ASCII. -/
theorem lt_of_isAsciiHexDigit {b : UInt8} (h : isAsciiHexDigit b = true) : b.toNat < 128 := by
  unfold isAsciiHexDigit at h
  simp only [Bool.or_eq_true, Bool.and_eq_true, decide_eq_true_eq, UInt8.le_iff_toNat_le] at h
  have hlower : (102 : UInt8).toNat = 102 := rfl
  have hupper : (70 : UInt8).toNat = 70 := rfl
  have hdigit : (57 : UInt8).toNat = 57 := rfl
  omega

/-- An ASCII text is its bytes. -/
theorem toList_of_ascii {s : String} (h : ∀ c ∈ s.toList, c.toNat < 128) :
    s.toList = (utf8 s).map byteChar := by
  rw [utf8_of_ascii h, List.map_map]
  refine (List.map_id _).symm.trans (List.map_congr_left fun c hc => ?_)
  exact (byteChar_toUInt8 (h c hc)).symm

/-! ## §2. The loop over the bytes -/

/-- A group of hex digits that no hyphen belongs to, by induction on it. -/
theorem validateUuidBytes_digits {i : Nat} {bs : Bytes}
    (hfree : ∀ j < bs.length, ¬ HyphenPlace (i + j)) :
    validateUuidBytes i bs = .ok () ↔ ∀ b ∈ bs, isAsciiHexDigit b = true := by
  induction bs generalizing i with
  | nil =>
    refine iff_of_true rfl ?_
    intro b hb
    cases hb
  | cons b bs ih =>
    have hplace : ¬ HyphenPlace i := hfree 0 (Nat.succ_pos _)
    have hrest : ∀ j < bs.length, ¬ HyphenPlace (i + 1 + j) := by
      intro j hj
      rw [Nat.add_assoc, Nat.add_comm 1 j]
      exact hfree (j + 1) (Nat.succ_lt_succ hj)
    unfold HyphenPlace at hplace
    rw [validateUuidBytes, if_neg hplace, bind_eq_ok_iff, List.forall_mem_cons, ← ih hrest]
    simp only [require_eq_ok_iff, exists_const]

/-- The loop over two runs of bytes, by induction on the first. -/
theorem validateUuidBytes_append (i : Nat) (xs ys : Bytes) :
    validateUuidBytes i (xs ++ ys) = .ok () ↔
      validateUuidBytes i xs = .ok () ∧ validateUuidBytes (i + xs.length) ys = .ok () := by
  induction xs generalizing i with
  | nil => exact (and_iff_right rfl).symm
  | cons x xs ih =>
    have hlength : i + (x :: xs).length = i + 1 + xs.length := by
      rw [List.length_cons]
      omega
    rw [List.cons_append, hlength, validateUuidBytes, validateUuidBytes]
    split
    next => simp only [bind_eq_ok_iff, require_eq_ok_iff, exists_const, ih, and_assoc]
    next => simp only [bind_eq_ok_iff, require_eq_ok_iff, exists_const, ih, and_assoc]

/-- A hyphen in its place. -/
theorem validateUuidBytes_hyphen {i : Nat} (hplace : HyphenPlace i) (b : UInt8) (bs : Bytes) :
    validateUuidBytes i (b :: bs) = .ok () ↔ b = 45 ∧ validateUuidBytes (i + 1) bs = .ok () := by
  unfold HyphenPlace at hplace
  rw [validateUuidBytes, if_pos hplace, bind_eq_ok_iff]
  simp only [require_eq_ok_iff, exists_const]

/-- **A group and the hyphen behind it.** -/
theorem validateUuidBytes_group {i n : Nat} (hfree : ∀ j < n, ¬ HyphenPlace (i + j))
    (hplace : HyphenPlace (i + n)) {bs : Bytes} (hlen : n < bs.length) :
    validateUuidBytes i bs = .ok () ↔
      ∃ digits rest, bs = digits ++ 45 :: rest ∧ digits.length = n ∧
        (∀ b ∈ digits, isAsciiHexDigit b = true) ∧
        validateUuidBytes (i + n + 1) rest = .ok () := by
  constructor
  · intro h
    have htake : (bs.take n).length = n := by
      rw [List.length_take]
      omega
    rw [← List.take_append_drop n bs, List.drop_eq_getElem_cons hlen, validateUuidBytes_append,
      validateUuidBytes_digits (by rw [htake]; exact hfree), htake,
      validateUuidBytes_hyphen hplace] at h
    obtain ⟨hdigits, hhyphen, hrest⟩ := h
    refine ⟨bs.take n, bs.drop (n + 1), ?_, htake, hdigits, hrest⟩
    rw [← hhyphen, ← List.drop_eq_getElem_cons hlen, List.take_append_drop]
  · rintro ⟨digits, rest, rfl, rfl, hdigits, hrest⟩
    rw [validateUuidBytes_append, validateUuidBytes_digits hfree, validateUuidBytes_hyphen hplace]
    exact ⟨hdigits, rfl, hrest⟩

/-- Groups of these lengths, from a place on, have the hyphens between
    them in their places, and none inside. -/
def Placed : Nat → List Nat → Prop
  | _, [] => False
  | i, [n] => ∀ j < n, ¬ HyphenPlace (i + j)
  | i, n :: m :: lengths =>
    (∀ j < n, ¬ HyphenPlace (i + j)) ∧ HyphenPlace (i + n) ∧ Placed (i + n + 1) (m :: lengths)

/-- **The loop over groups**, by induction on their lengths. -/
theorem validateUuidBytes_groups_iff {lengths : List Nat} {i : Nat} (hplaced : Placed i lengths)
    {bs : Bytes} (hlen : bs.length + 1 = lengths.sum + lengths.length) :
    validateUuidBytes i bs = .ok () ↔
      ∃ groups : List Bytes, groups.map List.length = lengths ∧
        (∀ g ∈ groups, ∀ b ∈ g, isAsciiHexDigit b = true) ∧ bs = [45].intercalate groups := by
  induction lengths generalizing i bs with
  | nil => exact absurd hplaced id
  | cons n lengths ih =>
    cases lengths with
    | nil =>
      -- the last group
      have hn : bs.length = n := by
        rw [List.sum_cons, List.sum_nil, List.length_singleton] at hlen
        omega
      subst hn
      rw [validateUuidBytes_digits hplaced]
      constructor
      · intro hdigits
        refine ⟨[bs], rfl, ?_, (List.intercalate_singleton).symm⟩
        intro g hg b hb
        rw [List.mem_singleton.1 hg] at hb
        exact hdigits b hb
      · rintro ⟨groups, hlengths, hdigits, rfl⟩
        obtain ⟨g, rest, rfl, -, hrest⟩ := List.map_eq_cons_iff.1 hlengths
        rw [List.map_eq_nil_iff.1 hrest] at hdigits ⊢
        rw [List.intercalate_singleton]
        exact hdigits g List.mem_cons_self
    | cons m lengths =>
      obtain ⟨hfree, hplace, hrest⟩ := hplaced
      rw [List.sum_cons, List.length_cons] at hlen
      have hpos : 0 < (m :: lengths).length := Nat.succ_pos _
      rw [validateUuidBytes_group hfree hplace (by omega)]
      constructor
      · rintro ⟨digits, rest, rfl, rfl, hdigits, hloop⟩
        rw [List.length_append, List.length_cons] at hlen
        obtain ⟨groups, hlengths, hgroups, rfl⟩ := (ih hrest (by omega)).1 hloop
        refine ⟨digits :: groups, by rw [List.map_cons, hlengths], ?_, ?_⟩
        · intro g hg
          rcases List.mem_cons.1 hg with rfl | hg
          · exact hdigits
          · exact hgroups g hg
        · rw [intercalate_cons_group 45 digits hlengths]
      · rintro ⟨groups, hlengths, hgroups, rfl⟩
        obtain ⟨digits, groups, rfl, rfl, hrestLengths⟩ := List.map_eq_cons_iff.1 hlengths
        have hsplit := intercalate_cons_group (45 : UInt8) digits hrestLengths
        rw [hsplit, List.length_append, List.length_cons] at hlen
        refine ⟨digits, [45].intercalate groups, hsplit, rfl, hgroups digits List.mem_cons_self, ?_⟩
        exact (ih hrest (by omega)).2 ⟨groups, hrestLengths, fun g hg =>
          hgroups g (List.mem_cons_of_mem _ hg), rfl⟩

theorem placed_uuid : Placed 0 [8, 4, 4, 4, 12] := by
  simp only [Placed, HyphenPlace]
  decide

/-! ## §3. The grammar and the loop -/

/-- The characters of a UUID are hex digits and hyphens. -/
theorem UuidForm.hexOrHyphen {id : String} (h : UuidForm id) {c : Char} (hc : c ∈ id.toList) :
    isHexChar c = true ∨ c = '-' := by
  obtain ⟨groups, -, hhex, hid⟩ := h
  rw [hid] at hc
  rcases mem_intercalate_groups hc with hsep | ⟨g, hg, hcg⟩
  · exact Or.inr hsep
  · exact Or.inl (hhex g hg c hcg)

theorem UuidForm.ascii {id : String} (h : UuidForm id) : ∀ c ∈ id.toList, c.toNat < 128 := by
  intro c hc
  rcases h.hexOrHyphen hc with hhex | rfl
  · exact ascii_of_isHexChar hhex
  · decide

/-- **What the check lets pass** are the texts of the form. -/
theorem validateUuidFormat_ok_iff (id : String) :
    validateUuidFormat id = .ok () ↔ UuidForm id := by
  unfold validateUuidFormat
  simp only [bind_eq_ok_iff, require_eq_ok_iff, exists_const]
  constructor
  · rintro ⟨hsize, hloop⟩
    rw [← utf8_length] at hsize
    obtain ⟨groups, hlengths, hdigits, hbytes⟩ :=
      (validateUuidBytes_groups_iff placed_uuid (by rw [hsize]; rfl)).1 hloop
    -- every byte is ASCII, so bytes are characters
    have hascii : ∀ c ∈ id.toList, c.toNat < 128 := by
      refine ascii_of_utf8 fun b hb => ?_
      rw [hbytes] at hb
      rcases mem_intercalate_groups hb with rfl | ⟨g, hg, hbg⟩
      · decide
      · exact lt_of_isAsciiHexDigit (hdigits g hg b hbg)
    refine ⟨groups.map (List.map byteChar), by rw [length_map_groups, hlengths], ?_, ?_⟩
    · intro g hg c hc
      obtain ⟨bytes, hbytes', rfl⟩ := List.mem_map.1 hg
      obtain ⟨b, hb, rfl⟩ := List.mem_map.1 hc
      rw [isHexChar_byteChar]
      exact hdigits bytes hbytes' b hb
    · rw [toList_of_ascii hascii, hbytes, map_intercalate_groups]
      rfl
  · intro h
    have hbytes := utf8_of_ascii h.ascii
    obtain ⟨groups, hlengths, hhex, hid⟩ := h
    rw [hid, map_intercalate_groups] at hbytes
    have hmapped : (groups.map (List.map Char.toUInt8)).map List.length = [8, 4, 4, 4, 12] := by
      rw [length_map_groups, hlengths]
    have hsize : (utf8 id).length + 1 = [8, 4, 4, 4, 12].sum + [8, 4, 4, 4, 12].length := by
      rw [hbytes]
      exact length_intercalate_groups _ hmapped (List.cons_ne_nil _ _)
    refine ⟨by rw [← utf8_length]; exact Nat.succ.inj hsize, ?_⟩
    refine (validateUuidBytes_groups_iff placed_uuid hsize).2 ⟨_, hmapped, ?_, hbytes⟩
    intro g hg b hb
    obtain ⟨chars, hchars, rfl⟩ := List.mem_map.1 hg
    obtain ⟨c, hc, rfl⟩ := List.mem_map.1 hb
    have hcHex := hhex chars hchars c hc
    rw [← isHexChar_byteChar, byteChar_toUInt8 (ascii_of_isHexChar hcHex)]
    exact hcHex

/-- And so does the check of the FFI crate. -/
theorem validateChallengeIdFormat_ok_iff (id : String) :
    validateChallengeIdFormat id = .ok () ↔ UuidForm id := by
  unfold validateChallengeIdFormat
  rw [mapError_eq_ok_iff, validateUuidFormat_ok_iff]

end ProviiSdk.Ffi
