/-
  ProviiSdk.Lib.Utf8 — texts and their UTF-8 bytes.

  Rust indexes a text by bytes, and a slice that ends inside a character
  panics.  Here a text is a list of characters, each as wide as its
  encoding.

  Main results:
    * `utf8_of_ascii`, `ascii_of_utf8` — where characters are bytes.
    * `sliceTo_eq_some_iff`, `isSome_sliceTo_iff` — which slices there are.
    * `boundary_of_findByte`, `findByte_eq_none_iff` — where a search ends.
-/

import Mathlib
import ProviiSdk.Lib.Wire

namespace ProviiSdk.Utf8

open ProviiSdk.Wire

/-! ## §1. Characters and bytes -/

/-- The bytes of a text are those of its characters. -/
theorem utf8_eq_flatMap (s : String) : utf8 s = s.toList.flatMap String.utf8EncodeChar := by
  unfold utf8
  rw [← String.utf8Encode_toList]
  unfold List.utf8Encode
  rw [List.data_toByteArray, List.toList_toArray]

/-- An ASCII character is one byte. -/
theorem encode_of_ascii {c : Char} (h : c.toNat < 128) : String.utf8EncodeChar c = [c.toUInt8] := by
  refine String.utf8EncodeChar_eq_singleton ?_
  rw [Char.utf8Size_eq_one_iff]
  exact UInt32.le_iff_toNat_le.2 (Nat.le_of_lt_succ h)

/-- The first byte of a longer encoding has its high bit set. -/
private theorem leadByte_high : ∀ n : Fin 256,
    ¬ (UInt8.ofNat n &&& 0x1f ||| 0xc0).toNat < 128 ∧
      ¬ (UInt8.ofNat n &&& 0x0f ||| 0xe0).toNat < 128 ∧
      ¬ (UInt8.ofNat n &&& 0x07 ||| 0xf0).toNat < 128 := by
  decide +kernel

/-- Any other character has a byte that is not ASCII. -/
theorem exists_byte_of_not_ascii {c : Char} (h : ¬ c.toNat < 128) :
    ∃ b ∈ String.utf8EncodeChar c, ¬ b.toNat < 128 := by
  have hone : c.utf8Size ≠ 1 := by
    rw [Ne, Char.utf8Size_eq_one_iff]
    intro hle
    exact h (Nat.lt_succ_of_le (UInt32.le_iff_toNat_le.1 hle))
  have hlead : ∀ b : UInt8, ¬ (b &&& 0x1f ||| 0xc0).toNat < 128 ∧
      ¬ (b &&& 0x0f ||| 0xe0).toNat < 128 ∧ ¬ (b &&& 0x07 ||| 0xf0).toNat < 128 := by
    intro b
    have hb := leadByte_high ⟨b.toNat, b.toNat_lt⟩
    rwa [UInt8.ofNat_toNat] at hb
  have hpos := Char.utf8Size_pos c
  have hle := Char.utf8Size_le_four c
  have hsize : c.utf8Size = 2 ∨ c.utf8Size = 3 ∨ c.utf8Size = 4 := by omega
  rcases hsize with htwo | hthree | hfour
  · rw [String.utf8EncodeChar_eq_cons_cons htwo]
    exact ⟨_, List.mem_cons_self, (hlead _).1⟩
  · rw [String.utf8EncodeChar_eq_cons_cons_cons hthree]
    exact ⟨_, List.mem_cons_self, (hlead _).2.1⟩
  · rw [String.utf8EncodeChar_eq_cons_cons_cons_cons hfour]
    exact ⟨_, List.mem_cons_self, (hlead _).2.2⟩

/-- **The bytes of an ASCII text** are its characters. -/
theorem utf8_of_ascii {s : String} (h : ∀ c ∈ s.toList, c.toNat < 128) :
    utf8 s = s.toList.map Char.toUInt8 := by
  rw [utf8_eq_flatMap]
  generalize s.toList = cs at h
  induction cs with
  | nil => rfl
  | cons c cs ih =>
    rw [List.flatMap_cons, encode_of_ascii (h c List.mem_cons_self),
      ih fun d hd => h d (List.mem_cons_of_mem c hd)]
    rfl

/-- **A text whose bytes are ASCII** is ASCII. -/
theorem ascii_of_utf8 {s : String} (h : ∀ b ∈ utf8 s, b.toNat < 128) :
    ∀ c ∈ s.toList, c.toNat < 128 := by
  intro c hc
  by_contra hnot
  obtain ⟨b, hb, hhigh⟩ := exists_byte_of_not_ascii hnot
  rw [utf8_eq_flatMap] at h
  exact hhigh (h b (List.mem_flatMap.2 ⟨c, hc, hb⟩))

/-! ## §2. Slices -/

/-- The number of bytes of a text. -/
def width (cs : List Char) : Nat := (cs.map Char.utf8Size).sum

theorem width_cons (c : Char) (cs : List Char) : width (c :: cs) = c.utf8Size + width cs := rfl

theorem width_append (cs ds : List Char) : width (cs ++ ds) = width cs + width ds := by
  unfold width
  rw [List.map_append, List.sum_append]

theorem width_le_of_prefix {p cs : List Char} (h : p <+: cs) : width p ≤ width cs := by
  obtain ⟨t, rfl⟩ := h
  rw [width_append]
  exact Nat.le_add_right _ _

/-- The text up to a byte; none if there is no such slice. -/
def sliceTo : List Char → Nat → Option (List Char)
  | _, 0 => some []
  | [], _ + 1 => none
  | c :: cs, n + 1 =>
    if c.utf8Size ≤ n + 1 then (sliceTo cs (n + 1 - c.utf8Size)).map (c :: ·) else none

/-- A byte where a character ends. -/
def Boundary (cs : List Char) (n : Nat) : Prop := ∃ p, p <+: cs ∧ width p = n

/-- **Which slices there are.** -/
theorem sliceTo_eq_some_iff (cs : List Char) (n : Nat) (p : List Char) :
    sliceTo cs n = some p ↔ p <+: cs ∧ width p = n := by
  induction cs generalizing n p with
  | nil =>
    cases n with
    | zero =>
      rw [sliceTo, Option.some.injEq, List.prefix_nil, eq_comm]
      exact (and_iff_left_of_imp fun h => h ▸ rfl).symm
    | succ n =>
      refine iff_of_false nofun ?_
      rintro ⟨hp, hn⟩
      rw [List.prefix_nil.1 hp] at hn
      exact absurd hn (Nat.succ_ne_zero n).symm
  | cons c cs ih =>
    have hpos := Char.utf8Size_pos c
    cases n with
    | zero =>
      rw [sliceTo, Option.some.injEq]
      constructor
      · rintro rfl
        exact ⟨List.nil_prefix, rfl⟩
      · intro h
        cases p with
        | nil => rfl
        | cons d p =>
          have hd := Char.utf8Size_pos d
          have hwidth := h.2
          rw [width_cons] at hwidth
          omega
    | succ n =>
      rw [sliceTo]
      cases p with
      | nil =>
        refine iff_of_false ?_ fun h => absurd h.2 (Nat.succ_ne_zero n).symm
        split
        · intro h
          obtain ⟨_, _, hcons⟩ := Option.map_eq_some_iff.1 h
          cases hcons
        · nofun
      | cons d p =>
        rw [List.cons_prefix_cons, width_cons]
        by_cases hle : c.utf8Size ≤ n + 1
        · rw [if_pos hle, Option.map_eq_some_iff]
          constructor
          · rintro ⟨q, hq, hcons⟩
            obtain ⟨hinit, hwidth⟩ := (ih _ _).1 hq
            cases hcons
            exact ⟨⟨rfl, hinit⟩, by omega⟩
          · rintro ⟨⟨rfl, hinit⟩, hwidth⟩
            exact ⟨p, (ih _ _).2 ⟨hinit, by omega⟩, rfl⟩
        · rw [if_neg hle]
          refine iff_of_false nofun ?_
          rintro ⟨⟨rfl, -⟩, hwidth⟩
          omega

theorem isSome_sliceTo_iff (cs : List Char) (n : Nat) :
    (sliceTo cs n).isSome = true ↔ Boundary cs n := by
  rw [Option.isSome_iff_exists]
  exact exists_congr fun p => sliceTo_eq_some_iff cs n p

/-- A text ends at a boundary. -/
theorem boundary_width (cs : List Char) : Boundary cs (width cs) := ⟨cs, List.prefix_rfl, rfl⟩

/-- In an ASCII text every byte is a boundary. -/
theorem boundary_of_ascii {cs : List Char} (h : ∀ c ∈ cs, c.utf8Size = 1) {n : Nat}
    (hn : n ≤ width cs) : Boundary cs n := by
  have hwidth : ∀ ds : List Char, (∀ c ∈ ds, c.utf8Size = 1) → width ds = ds.length := by
    intro ds hds
    induction ds with
    | nil => rfl
    | cons d ds ih =>
      rw [width_cons, hds d List.mem_cons_self, ih fun c hc => hds c (List.mem_cons_of_mem d hc),
        List.length_cons, Nat.add_comm]
  refine ⟨cs.take n, List.take_prefix n cs, ?_⟩
  rw [hwidth cs h] at hn
  rw [hwidth (cs.take n) fun c hc => h c (List.mem_of_mem_take hc), List.length_take,
    Nat.min_eq_left hn]

/-- Of two slices the narrower one is part of the wider. -/
theorem prefix_of_width_le {cs p q : List Char} (hp : p <+: cs) (hq : q <+: cs)
    (hle : width p ≤ width q) : p <+: q := by
  rcases List.prefix_or_prefix_of_prefix hp hq with h | ⟨t, ht⟩
  · exact h
  · -- then the rest of the wider one is empty
    rw [← ht, width_append] at hle
    have hzero : width t = 0 := by omega
    cases t with
    | nil =>
      rw [List.append_nil] at ht
      exact ht ▸ List.prefix_rfl
    | cons c t =>
      have hpos := Char.utf8Size_pos c
      rw [width_cons] at hzero
      omega

/-! ## §3. Searching a character -/

/-- The first byte of the first occurrence of a character. -/
def findByte (c : Char) : List Char → Option Nat
  | [] => none
  | d :: ds => if d = c then some 0 else (findByte c ds).map (d.utf8Size + ·)

theorem findByte_eq_none_iff (c : Char) (cs : List Char) : findByte c cs = none ↔ c ∉ cs := by
  induction cs with
  | nil => exact iff_of_true rfl List.not_mem_nil
  | cons d cs ih =>
    unfold findByte
    rw [List.mem_cons, not_or]
    by_cases hd : d = c
    · rw [if_pos hd]
      exact iff_of_false nofun fun h => h.1 hd.symm
    · rw [if_neg hd, Option.map_eq_none_iff, ih]
      exact (and_iff_right fun h => hd h.symm).symm

/-- What is found ends at a boundary. -/
theorem boundary_of_findByte {c : Char} {cs : List Char} {i : Nat} (h : findByte c cs = some i) :
    ∃ p, p ++ [c] <+: cs ∧ width (p ++ [c]) = i + c.utf8Size := by
  induction cs generalizing i with
  | nil => cases h
  | cons d cs ih =>
    unfold findByte at h
    by_cases hd : d = c
    · rw [if_pos hd] at h
      cases h
      refine ⟨[], ?_, ?_⟩
      · rw [hd]
        exact List.prefix_append [c] cs
      · rw [List.nil_append, width_cons, Nat.zero_add]
        rfl
    · rw [if_neg hd, Option.map_eq_some_iff] at h
      obtain ⟨j, hj, rfl⟩ := h
      obtain ⟨p, hinit, hwidth⟩ := ih hj
      refine ⟨d :: p, List.cons_prefix_cons.2 ⟨rfl, hinit⟩, ?_⟩
      rw [List.cons_append, width_cons, hwidth, Nat.add_assoc]

end ProviiSdk.Utf8
