/-
  ProviiSdk.Lib.Text — texts as character lists.

  The string operations a program of dotted keys rests on: prefixes and
  their removal, the first dot-separated field, substring tests, ASCII
  case folding and decimal numerals of bounded unsigned integers.

  Main results:
    * `parseUnsigned_decimal` — a numeral reads back as its number.
    * `field_prefix_inj` — with a separator behind it, one field is a
      prefix of another text only if it is that text's first field.
    * `infix_append_left_of_notMem` — a pattern ending in a character
      that the tail lacks occurs before the tail.
    * `infix_append_iff_of_head_notMem` — a pattern starting with a
      character that the front part lacks occurs behind that part.
    * `infix_append_cons_iff_of_notMem`, `infix_insert` — a pattern that
      lacks a character occurs on one side of it, and stays when text is
      inserted there.
-/

import Mathlib.Data.List.Infix
import Mathlib.Data.Char

namespace ProviiSdk.Text

/-! ## §1. Prefixes -/

/-- Removing a prefix that was put there returns the rest. -/
@[simp] theorem dropPrefix?_append (p s : List Char) : (p ++ s).dropPrefix? p = some s := by
  rw [List.dropPrefix?_eq_some_iff]
  exact ⟨p, rfl, by simp⟩

/-- Two prefixes of one text are prefixes of one another, one way or
    the other. -/
theorem prefix_or_prefix_of_prefix_append (p q s : List Char) (h : p <+: q ++ s) :
    p <+: q ∨ q <+: p :=
  List.prefix_or_prefix_of_prefix h (List.prefix_append q s)

/-! ## §2. Dot-separated fields -/

/-- The characters before the first `sep`: Rust's `split(sep).next()`. -/
def firstField (sep : Char) (cs : List Char) : List Char := cs.takeWhile (fun c => c != sep)

@[simp] theorem firstField_append_sep (sep : Char) (d r : List Char) (hd : sep ∉ d) :
    firstField sep (d ++ sep :: r) = d := by
  unfold firstField
  rw [List.takeWhile_append_of_pos]
  · simp
  · intro c hc
    have : c ≠ sep := fun h => hd (h ▸ hc)
    simpa using this

/-- A field with its separator is a prefix of another field with its
    separator and a tail only if the fields are equal. -/
theorem field_prefix_inj (sep : Char) (d e s : List Char) (hd : sep ∉ d) (he : sep ∉ e)
    (h : d ++ [sep] <+: e ++ sep :: s) : d = e := by
  obtain ⟨t, ht⟩ := h
  have ht' : d ++ sep :: t = e ++ sep :: s := by simpa using ht
  have h1 : firstField sep (d ++ sep :: t) = d := firstField_append_sep sep d t hd
  rw [ht', firstField_append_sep sep e s he] at h1
  exact h1.symm

/-! ## §3. Substrings -/

/-- A pattern that ends in a character the tail lacks does not reach
    into the tail. -/
theorem infix_append_left_of_notMem (p xs ys : List Char) (c : Char) (hc : c ∉ ys)
    (h : p ++ [c] <:+: xs ++ ys) : p ++ [c] <:+: xs := by
  obtain ⟨s, t, e⟩ := h
  rw [List.append_eq_append_iff] at e
  rcases e with ⟨a, hx, _⟩ | ⟨b, hx, hy⟩
  · exact ⟨s, a, by rw [hx]⟩
  · -- the pattern's last character would lie in `b`, a part of the tail
    rcases List.eq_nil_or_concat b with rfl | ⟨b', d, rfl⟩
    · exact ⟨s, [], by simpa using hx⟩
    · have hcd : c = d := by
        have := congrArg List.getLast? hx
        simpa using this
      exact absurd (by rw [hy, hcd]; simp) hc

/-- A pattern whose first character a front part lacks occurs behind that
    part or not at all. -/
theorem infix_append_iff_of_head_notMem (c : Char) (p xs ys : List Char) (hc : c ∉ xs) :
    c :: p <:+: xs ++ ys ↔ c :: p <:+: ys := by
  induction xs with
  | nil => rfl
  | cons x xs ih =>
    have hx : c ≠ x := fun h => hc (h ▸ List.mem_cons_self)
    have hxs : c ∉ xs := fun h => hc (List.mem_cons_of_mem x h)
    rw [List.cons_append, List.infix_cons_iff, List.cons_prefix_cons, ih hxs]
    -- the pattern cannot start at `x`
    exact ⟨fun h => h.resolve_left fun hpre => hx hpre.1, Or.inr⟩

/-- A pattern without a character occurs before that character or behind
    it. -/
theorem infix_append_cons_iff_of_notMem (c : Char) (p xs ys : List Char) (hc : c ∉ p) :
    p <:+: xs ++ c :: ys ↔ p <:+: xs ∨ p <:+: ys := by
  -- where the pattern starts, it ends before `c`
  have hstart : ∀ zs, p <+: zs ++ c :: ys → p <+: zs := by
    intro zs h
    rcases prefix_or_prefix_of_prefix_append p zs (c :: ys) h with hp | ⟨t, ht⟩
    · exact hp
    · rw [← ht, List.prefix_append_right_inj] at h
      cases t with
      | nil =>
        rw [← ht, List.append_nil]
      | cons d t =>
        rw [List.cons_prefix_cons] at h
        refine absurd ?_ hc
        rw [← ht, ← h.1]
        exact List.mem_append_right zs List.mem_cons_self
  induction xs with
  | nil =>
    rw [List.nil_append, List.infix_cons_iff]
    constructor
    · rintro (h | h)
      · exact Or.inl (hstart [] h).isInfix
      · exact Or.inr h
    · rintro (h | h)
      · rw [List.infix_nil.1 h]
        exact Or.inl List.nil_prefix
      · exact Or.inr h
  | cons x xs ih =>
    rw [List.cons_append, List.infix_cons_iff, List.infix_cons_iff]
    constructor
    · rintro (h | h)
      · exact Or.inl (Or.inl (hstart (x :: xs) h))
      · rcases ih.1 h with h | h
        · exact Or.inl (Or.inr h)
        · exact Or.inr h
    · rintro ((h | h) | h)
      · exact Or.inl (h.trans (List.prefix_append (x :: xs) (c :: ys)))
      · exact Or.inr (ih.2 (Or.inl h))
      · exact Or.inr (ih.2 (Or.inr h))

/-- Characters inserted behind or before one that a pattern lacks cut no
    occurrence of the pattern. -/
theorem infix_insert (p xs ins ys : List Char)
    (hcut : (∃ c, xs.getLast? = some c ∧ c ∉ p) ∨ ∃ c, ys.head? = some c ∧ c ∉ p)
    (h : p <:+: xs ++ ys) : p <:+: xs ++ ins ++ ys := by
  have hleft : p <:+: xs → p <:+: xs ++ ins ++ ys := by
    intro hp
    rw [List.append_assoc]
    exact hp.trans (List.prefix_append xs (ins ++ ys)).isInfix
  have hright : p <:+: ys → p <:+: xs ++ ins ++ ys :=
    fun hp => hp.trans (List.suffix_append (xs ++ ins) ys).isInfix
  rcases hcut with ⟨c, hlast, hc⟩ | ⟨c, hhead, hc⟩
  · obtain ⟨front, rfl⟩ := List.getLast?_eq_some_iff.1 hlast
    rw [List.append_assoc, List.singleton_append,
      infix_append_cons_iff_of_notMem c p front ys hc] at h
    rcases h with h | h
    · exact hleft (h.trans (List.prefix_append front [c]).isInfix)
    · exact hright h
  · obtain ⟨back, rfl⟩ := List.head?_eq_some_iff.1 hhead
    rw [infix_append_cons_iff_of_notMem c p xs back hc] at h
    rcases h with h | h
    · exact hleft h
    · exact hright (h.trans (List.suffix_cons c back).isInfix)

/-- Rust's `str::contains`. -/
def contains (pattern text : String) : Bool := decide (pattern.toList <:+: text.toList)

/-! ## §4. White space and case -/

/-- Rust's `char::is_whitespace`: Unicode's `White_Space`. -/
def isWhitespace (c : Char) : Bool :=
  let n := c.toNat
  decide ((9 ≤ n ∧ n ≤ 13) ∨ n = 32 ∨ n = 133 ∨ n = 160 ∨ n = 5760 ∨ (8192 ≤ n ∧ n ≤ 8202) ∨
    n = 8232 ∨ n = 8233 ∨ n = 8239 ∨ n = 8287 ∨ n = 12288)

/-- Rust's `str::trim`. -/
def trim (text : String) : List Char :=
  (((text.toList.dropWhile isWhitespace).reverse).dropWhile isWhitespace).reverse

/-- A text that starts with no white space keeps its first character. -/
theorem head?_trim {text : String} {c : Char} {cs : List Char} (h : text.toList = c :: cs)
    (hc : isWhitespace c = false) : (trim text).head? = some c := by
  unfold trim
  rw [h, List.dropWhile_cons_of_neg (by rw [hc]; exact Bool.false_ne_true), List.reverse_cons,
    List.dropWhile_append]
  split
  next =>
    rw [List.dropWhile_cons_of_neg (by rw [hc]; exact Bool.false_ne_true)]
    rfl
  next =>
    rw [List.reverse_append]
    rfl

/-- White space in front is trimmed away. -/
theorem head?_trim_of_leading {text : String} {ws cs : List Char} {c : Char}
    (h : text.toList = ws ++ c :: cs) (hws : ∀ w ∈ ws, isWhitespace w = true)
    (hc : isWhitespace c = false) : (trim text).head? = some c := by
  have hsame : trim text = trim (String.ofList (c :: cs)) := by
    unfold trim
    rw [h, String.toList_ofList, List.dropWhile_append_of_pos hws]
  rw [hsame]
  exact head?_trim String.toList_ofList hc

/-- Rust's `chars().filter(|c| !c.is_whitespace())`. -/
def withoutWhitespace (text : String) : String :=
  String.ofList (text.toList.filter fun c => !isWhitespace c)

/-- Rust's `str::eq_ignore_ascii_case`. -/
def eqIgnoreAsciiCase (a b : String) : Bool :=
  a.toList.map Char.toLower == b.toList.map Char.toLower

/-! ## §5. Decimal numerals -/

/-- The decimal numeral of `n`, as Rust's `Display` writes it. -/
def decimal (n : Nat) : List Char := Nat.toDigits 10 n

/-- The value of a non-empty string of ASCII digits below `bound`. -/
def parseDigits (bound : Nat) (ds : List Char) : Option Nat :=
  if ds ≠ [] ∧ ds.all Char.isDigit ∧ Nat.ofDigitChars 10 ds 0 < bound then
    some (Nat.ofDigitChars 10 ds 0)
  else none

/-- Rust's `str::parse` for an unsigned type whose values are those
    below `bound`: an optional `+`, then digits. -/
def parseUnsigned (bound : Nat) : List Char → Option Nat
  | '+' :: ds => parseDigits bound ds
  | ds => parseDigits bound ds

theorem isDigit_of_mem_decimal (n : Nat) (c : Char) (h : c ∈ decimal n) : c.isDigit = true :=
  Nat.isDigit_of_mem_toDigits (by decide) (by decide) h

theorem notMem_decimal (n : Nat) (c : Char) (h : c.isDigit = false) : c ∉ decimal n := by
  intro hc
  have := isDigit_of_mem_decimal n c hc
  simp [h] at this

theorem decimal_injective (m n : Nat) (h : decimal m = decimal n) : m = n := by
  have := congrArg (fun ds => Nat.ofDigitChars 10 ds 0) h
  simpa [decimal] using this

/-- The digits of a numeral read back. -/
theorem parseDigits_decimal (bound n : Nat) (h : n < bound) :
    parseDigits bound (decimal n) = some n := by
  have hne : decimal n ≠ [] := Nat.toDigits_ne_nil
  have hall : (decimal n).all Char.isDigit = true := by
    rw [List.all_eq_true]
    exact fun c hc => isDigit_of_mem_decimal n c hc
  have hval : Nat.ofDigitChars 10 (decimal n) 0 = n := by simp [decimal]
  simp [parseDigits, hne, hall, hval, h]

/-- A numeral starts with no sign. -/
theorem decimal_ne_cons (n : Nat) (c : Char) (hc : c.isDigit = false) (ds : List Char) :
    decimal n ≠ c :: ds := by
  intro e
  have hmem : c ∈ decimal n := by rw [e]; simp
  exact notMem_decimal n c hc hmem

/-- **Numerals read back**: parsing the numeral of a number in range
    gives the number. -/
theorem parseUnsigned_decimal (bound n : Nat) (h : n < bound) :
    parseUnsigned bound (decimal n) = some n := by
  unfold parseUnsigned
  split
  next ds e => exact absurd e (decimal_ne_cons n '+' (by decide) ds)
  next => exact parseDigits_decimal bound n h

/-! ## §6. Hexadecimal -/

/-- The lower-case hexadecimal text of some bytes. -/
def hexEncode (bytes : List UInt8) : String :=
  String.ofList (bytes.flatMap fun b => [Nat.digitChar (b.toNat / 16), Nat.digitChar (b.toNat % 16)])

end ProviiSdk.Text
