/-
  ProviiSdk.Lib.IsoDate — the ISO 8601 texts of dates.

  A date is written as its year, month and day with dashes between them.
  A year has four digits at least, and outside 0 to 9999 a sign; month
  and day have two digits.  The reader takes runs of digits, so that it
  also reads texts with fewer.

  Main results:
    * `parseIso_isoText` — every date reads back.
    * `dashes_of_parseIso` — a text that is read has two dashes behind
      its first character.
-/

import ProviiSdk.Lib.Calendar
import ProviiSdk.Lib.Text

namespace ProviiSdk.Calendar

open ProviiSdk.Text

/-! ## §1. Writing -/

/-- The numeral of `n` with zeros before it up to a width. -/
def padded (width n : Nat) : List Char :=
  List.replicate (width - (decimal n).length) '0' ++ decimal n

/-- The numeral of a year. -/
def yearText (y : Int) : List Char :=
  if 0 ≤ y ∧ y ≤ 9999 then padded 4 y.natAbs
  else (if y < 0 then '-' else '+') :: padded 4 y.natAbs

/-- The text of a date. -/
def Date.isoText (d : Date) : List Char :=
  yearText d.year ++ '-' :: (padded 2 d.month ++ '-' :: padded 2 d.day)

/-! ## §2. Reading -/

/-- Read a run of digits. -/
def readNumber (text : List Char) : Option (Nat × List Char) :=
  if text.takeWhile Char.isDigit = [] then none
  else some (Nat.ofDigitChars 10 (text.takeWhile Char.isDigit) 0, text.dropWhile Char.isDigit)

/-- Read a dash. -/
def readDash : List Char → Option (List Char)
  | '-' :: rest => some rest
  | _ => none

/-- Read a date whose year has this sign. -/
def readYmd (sign : Int) (text : List Char) : Option Date := do
  let (y, text) ← readNumber text
  let text ← readDash text
  let (m, text) ← readNumber text
  let text ← readDash text
  let (d, text) ← readNumber text
  if text = [] then Date.ofYmd (sign * y) m d else none

/-- Read a date. -/
def parseIso : List Char → Option Date
  | '-' :: text => readYmd (-1) text
  | '+' :: text => readYmd 1 text
  | text => readYmd 1 text

/-! ## §3. Numbers -/

theorem isDigit_of_mem_padded {width n : Nat} {c : Char} (h : c ∈ padded width n) :
    c.isDigit = true := by
  unfold padded at h
  rcases List.mem_append.1 h with hzero | hdigit
  · rw [(List.mem_replicate.1 hzero).2]
    decide
  · exact isDigit_of_mem_decimal n c hdigit

theorem padded_ne_nil (width n : Nat) : padded width n ≠ [] :=
  List.append_ne_nil_of_right_ne_nil _ Nat.toDigits_ne_nil

/-- Zeros before a numeral do not count. -/
theorem ofDigitChars_padded (width n : Nat) : Nat.ofDigitChars 10 (padded width n) 0 = n := by
  unfold padded
  generalize width - (decimal n).length = k
  induction k with
  | zero =>
    rw [List.replicate_zero, List.nil_append]
    simp [decimal]
  | succ k ih =>
    rw [List.replicate_succ, List.cons_append]
    exact ih

/-- **A padded numeral reads back**, up to a character that is no digit. -/
theorem readNumber_padded (width n : Nat) (rest : List Char)
    (hrest : ∀ c ∈ rest.head?, c.isDigit = false) :
    readNumber (padded width n ++ rest) = some (n, rest) := by
  have hdigits : ∀ c ∈ padded width n, c.isDigit = true := fun c => isDigit_of_mem_padded
  have hnone : rest.takeWhile Char.isDigit = [] ∧ rest.dropWhile Char.isDigit = rest := by
    cases rest with
    | nil => exact ⟨rfl, rfl⟩
    | cons c cs =>
      have hc : c.isDigit = false := hrest c rfl
      rw [List.takeWhile_cons, List.dropWhile_cons, hc]
      exact ⟨rfl, rfl⟩
  unfold readNumber
  rw [List.takeWhile_append_of_pos hdigits, List.dropWhile_append_of_pos hdigits, hnone.1, hnone.2,
    List.append_nil, if_neg (padded_ne_nil width n), ofDigitChars_padded]

/-- What was read is in front of what is left. -/
theorem eq_append_of_readNumber {text rest : List Char} {n : Nat}
    (h : readNumber text = some (n, rest)) : ∃ ds, ds ≠ [] ∧ text = ds ++ rest := by
  unfold readNumber at h
  split at h
  next => cases h
  next hne =>
    injection h with h
    injection h with _ hrest
    exact ⟨_, hne, by rw [← hrest, List.takeWhile_append_dropWhile]⟩

theorem eq_cons_of_readDash {text rest : List Char} (h : readDash text = some rest) :
    text = '-' :: rest := by
  unfold readDash at h
  split at h
  next =>
    injection h with h
    rw [h]
  next => cases h

/-! ## §4. Dates -/

/-- The date with the year, month and day of a date is that date. -/
theorem Date.ofYmd_self (d : Date) : Date.ofYmd d.year d.month d.day = some d := by
  unfold Date.ofYmd
  rw [dif_pos ⟨⟨d.month_pos, d.month_le⟩, d.day_pos, d.day_le⟩]

/-- The text behind the sign of a year. -/
theorem readYmd_padded (d : Date) (sign : Int) (h : sign * d.year.natAbs = d.year) :
    readYmd sign (padded 4 d.year.natAbs ++ '-' :: (padded 2 d.month ++ '-' :: padded 2 d.day)) =
      some d := by
  have hdash : ∀ rest : List Char, ∀ c ∈ ('-' :: rest).head?, c.isDigit = false := by
    intro rest c hc
    injection hc with hc
    rw [← hc]
    decide
  have hlast : readNumber (padded 2 d.day) = some (d.day, []) := by
    have hread := readNumber_padded 2 d.day [] (fun c hc => by cases hc)
    rw [List.append_nil] at hread
    exact hread
  unfold readYmd
  simp only [readNumber_padded _ _ _ (hdash _), readDash, hlast, Option.bind_eq_bind,
    Option.bind_some, if_true, h]
  exact d.ofYmd_self

/-- A text that starts with a digit has no sign. -/
theorem parseIso_of_isDigit {c : Char} (hc : c.isDigit = true) (cs : List Char) :
    parseIso (c :: cs) = readYmd 1 (c :: cs) := by
  unfold parseIso
  split
  next text heq =>
    injection heq with hsign
    rw [hsign] at hc
    cases hc
  next text heq =>
    injection heq with hsign
    rw [hsign] at hc
    cases hc
  next => rfl

/-- **Every date reads back.** -/
theorem parseIso_isoText (d : Date) : parseIso d.isoText = some d := by
  unfold Date.isoText yearText
  split
  next hplain =>
    have hread := readYmd_padded d 1 (by omega)
    obtain ⟨c, cs, hpadded⟩ := List.exists_cons_of_ne_nil (padded_ne_nil 4 d.year.natAbs)
    have hc : c.isDigit = true := by
      refine @isDigit_of_mem_padded 4 d.year.natAbs c ?_
      rw [hpadded]
      exact List.mem_cons_self
    rw [hpadded, List.cons_append] at hread ⊢
    rw [parseIso_of_isDigit hc]
    exact hread
  next hsigned =>
    split
    next hneg => exact readYmd_padded d (-1) (by omega)
    next hpos => exact readYmd_padded d 1 (by omega)

/-- What is read behind the sign is a number with two dashes behind it. -/
theorem dashes_of_readYmd {sign : Int} {text : List Char} {d : Date}
    (h : readYmd sign text = some d) : ∃ ds rest, ds ≠ [] ∧ text = ds ++ rest ∧
      2 ≤ rest.count '-' := by
  unfold readYmd at h
  obtain ⟨⟨y, text₁⟩, hy, h⟩ := Option.bind_eq_some_iff.1 h
  obtain ⟨text₂, hdash, h⟩ := Option.bind_eq_some_iff.1 h
  obtain ⟨⟨m, text₃⟩, hm, h⟩ := Option.bind_eq_some_iff.1 h
  obtain ⟨text₄, hdash', -⟩ := Option.bind_eq_some_iff.1 h
  obtain ⟨ds, hds, htext⟩ := eq_append_of_readNumber hy
  obtain ⟨ms, -, htext'⟩ := eq_append_of_readNumber hm
  refine ⟨ds, text₁, hds, htext, ?_⟩
  have h1 : text₁ = '-' :: text₂ := eq_cons_of_readDash hdash
  have h2 : text₃ = '-' :: text₄ := eq_cons_of_readDash hdash'
  rw [h1, htext', h2, List.count_cons_self, List.count_append, List.count_cons_self]
  omega

/-- **A text that is read** has two dashes behind its first character. -/
theorem dashes_of_parseIso {text : List Char} {d : Date} (h : parseIso text = some d) :
    2 ≤ (text.drop 1).count '-' := by
  have hbehind : ∀ {sign : Int} {text : List Char}, readYmd sign text = some d →
      2 ≤ text.count '-' := by
    intro sign text h
    obtain ⟨ds, rest, -, rfl, hcount⟩ := dashes_of_readYmd h
    rw [List.count_append]
    omega
  unfold parseIso at h
  split at h
  next text => exact hbehind h
  next text => exact hbehind h
  next text =>
    -- without a sign the first character is of the year
    obtain ⟨ds, rest, hds, rfl, hcount⟩ := dashes_of_readYmd h
    obtain ⟨c, ds, rfl⟩ := List.exists_cons_of_ne_nil hds
    rw [List.cons_append, List.drop_one, List.tail_cons, List.count_append]
    omega

/-- The text of a date has a dash. -/
theorem dash_mem_isoText (d : Date) : '-' ∈ d.isoText :=
  List.mem_append_right _ List.mem_cons_self

end ProviiSdk.Calendar
