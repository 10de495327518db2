/-
  ProviiSdk.Lib.Calendar — the proleptic Gregorian calendar.

  Dates of any year, before or after the first, ordered by year, month
  and day, and their numbers: 1 January of the year 1 has number 1.

  Main results:
    * `dayNumber_le_iff` — the order of dates is the order of their
      numbers.
    * `dayNumber_ofDayNumber` — every integer is the number of a date.
    * `feb29_of_not_fits` — the only day that some years lack.
    * `anniversary_ge`, `anniversary_le` — how far an anniversary is off
      365 days a year.
    * `le_yearsBetween_iff` — the whole years between two dates.
-/

import Mathlib.Data.Prod.Lex
import Mathlib.Order.Monotone.Basic

namespace ProviiSdk.Calendar

/-! ## §1. Years and months -/

def isLeap (y : Int) : Bool := decide (y % 4 = 0 ∧ (y % 100 ≠ 0 ∨ y % 400 = 0))

def yearLength (leap : Bool) : Nat := if leap then 366 else 365

/-- The days of the years from 1 to `y - 1`; negative before the year 1. -/
def daysBeforeYear (y : Int) : Int := 365 * (y - 1) + (y - 1) / 4 - (y - 1) / 100 + (y - 1) / 400

def daysInMonth (leap : Bool) : Nat → Nat
  | 2 => if leap then 29 else 28
  | 4 => 30
  | 6 => 30
  | 9 => 30
  | 11 => 30
  | _ => 31

/-- The days of the months from 1 to `m - 1`. -/
def daysBeforeMonth (leap : Bool) : Nat → Nat
  | 0 => 0
  | 1 => 0
  | m + 2 => daysBeforeMonth leap (m + 1) + daysInMonth leap (m + 1)

/-- A year has its length. -/
theorem daysBeforeYear_succ (y : Int) :
    daysBeforeYear (y + 1) = daysBeforeYear y + yearLength (isLeap y) := by
  unfold daysBeforeYear yearLength isLeap
  by_cases hleap : y % 4 = 0 ∧ (y % 100 ≠ 0 ∨ y % 400 = 0)
  · rw [decide_eq_true hleap, if_pos rfl]
    omega
  · rw [decide_eq_false hleap, if_neg Bool.false_ne_true]
    omega

/-- Later years have more days before them. -/
theorem daysBeforeYear_lt {y z : Int} (h : y < z) : daysBeforeYear y < daysBeforeYear z := by
  have hmono : StrictMono daysBeforeYear := by
    refine strictMono_int_of_lt_succ fun y => ?_
    rw [daysBeforeYear_succ]
    unfold yearLength
    split <;> omega
  exact hmono h

theorem daysBeforeYear_le {y z : Int} (h : y ≤ z) : daysBeforeYear y ≤ daysBeforeYear z := by
  rcases Int.lt_or_eq_of_le h with hlt | rfl
  · exact Int.le_of_lt (daysBeforeYear_lt hlt)
  · exact Int.le_refl _

theorem daysBeforeMonth_succ (leap : Bool) {m : Nat} (hm : 1 ≤ m) :
    daysBeforeMonth leap (m + 1) = daysBeforeMonth leap m + daysInMonth leap m := by
  cases m with
  | zero => omega
  | succ m => rfl

theorem daysBeforeMonth_mono (leap : Bool) : Monotone (daysBeforeMonth leap) := by
  refine monotone_nat_of_le_succ fun m => ?_
  cases m with
  | zero => exact le_rfl
  | succ m => exact Nat.le_add_right _ _

/-- Twelve months make a year. -/
theorem daysBeforeMonth_thirteen (leap : Bool) : daysBeforeMonth leap 13 = yearLength leap := by
  cases leap <;> rfl

/-- Only February depends on the year. -/
theorem daysInMonth_of_ne {m : Nat} (h : m ≠ 2) (leap leap' : Bool) :
    daysInMonth leap m = daysInMonth leap' m := by
  unfold daysInMonth
  split
  · exact absurd rfl h
  all_goals rfl

/-- **The leap day** is the only day that a month has in one year and not
    in another. -/
theorem feb29_of_not_fits {leap leap' : Bool} {m d : Nat} (h : d ≤ daysInMonth leap m)
    (h' : ¬ d ≤ daysInMonth leap' m) : m = 2 ∧ d = 29 ∧ leap = true ∧ leap' = false := by
  by_cases hm : m = 2
  · subst hm
    unfold daysInMonth at h h'
    cases leap <;> cases leap' <;> simp at h h' ⊢ <;> omega
  · rw [daysInMonth_of_ne hm leap leap'] at h
    exact absurd h h'

/-! ## §2. Dates -/

/-- A date; every value is one that the calendar has. -/
@[ext]
structure Date where
  year : Int
  month : Nat
  day : Nat
  month_pos : 1 ≤ month
  month_le : month ≤ 12
  day_pos : 1 ≤ day
  day_le : day ≤ daysInMonth (isLeap year) month
  deriving DecidableEq

namespace Date

/-- Dates are compared by year, then month, then day. -/
def toLexDate (d : Date) : Int ×ₗ Nat ×ₗ Nat := toLex (d.year, toLex (d.month, d.day))

theorem toLexDate_injective : Function.Injective toLexDate := by
  intro d e h
  unfold toLexDate at h
  have hpair := toLex.injective h
  injection hpair with hyear hrest
  have hrest := toLex.injective hrest
  injection hrest with hmonth hday
  exact Date.ext hyear hmonth hday

instance : LinearOrder Date := LinearOrder.lift' toLexDate toLexDate_injective

theorem lt_iff (d e : Date) : d < e ↔ d.year < e.year ∨ d.year = e.year ∧
    (d.month < e.month ∨ d.month = e.month ∧ d.day < e.day) := by
  show d.toLexDate < e.toLexDate ↔ _
  unfold toLexDate
  rw [Prod.Lex.toLex_lt_toLex, Prod.Lex.toLex_lt_toLex]

theorem le_iff (d e : Date) : d ≤ e ↔ d.year < e.year ∨ d.year = e.year ∧
    (d.month < e.month ∨ d.month = e.month ∧ d.day ≤ e.day) := by
  show d.toLexDate ≤ e.toLexDate ↔ _
  unfold toLexDate
  rw [Prod.Lex.toLex_le_toLex, Prod.Lex.toLex_le_toLex]

def dayOfYear (d : Date) : Nat := daysBeforeMonth (isLeap d.year) d.month + d.day

/-- The number of a date. -/
def dayNumber (d : Date) : Int := daysBeforeYear d.year + d.dayOfYear

theorem dayOfYear_pos (d : Date) : 1 ≤ d.dayOfYear := by
  have hday := d.day_pos
  unfold dayOfYear
  omega

/-- A date lies before the next month. -/
theorem dayOfYear_le_succ (d : Date) :
    d.dayOfYear ≤ daysBeforeMonth (isLeap d.year) (d.month + 1) := by
  rw [daysBeforeMonth_succ _ d.month_pos]
  exact Nat.add_le_add_left d.day_le _

/-- A date lies in its year. -/
theorem dayOfYear_le (d : Date) : d.dayOfYear ≤ yearLength (isLeap d.year) := by
  rw [← daysBeforeMonth_thirteen]
  exact d.dayOfYear_le_succ.trans
    (daysBeforeMonth_mono _ (Nat.succ_le_succ d.month_le))

theorem dayNumber_le (d : Date) : d.dayNumber ≤ daysBeforeYear (d.year + 1) := by
  have hday := d.dayOfYear_le
  rw [daysBeforeYear_succ]
  unfold dayNumber
  omega

theorem lt_dayNumber (d : Date) : daysBeforeYear d.year < d.dayNumber := by
  have hday := d.dayOfYear_pos
  unfold dayNumber
  omega

/-- **Later dates have greater numbers.** -/
theorem dayNumber_lt {d e : Date} (h : d < e) : d.dayNumber < e.dayNumber := by
  rcases (lt_iff d e).1 h with hyear | ⟨hyear, hrest⟩
  · calc d.dayNumber ≤ daysBeforeYear (d.year + 1) := d.dayNumber_le
      _ ≤ daysBeforeYear e.year := daysBeforeYear_le hyear
      _ < e.dayNumber := e.lt_dayNumber
  · have hdayOfYear : d.dayOfYear < e.dayOfYear := by
      rcases hrest with hmonth | ⟨hmonth, hday⟩
      · calc d.dayOfYear ≤ daysBeforeMonth (isLeap d.year) (d.month + 1) := d.dayOfYear_le_succ
          _ ≤ daysBeforeMonth (isLeap d.year) e.month := daysBeforeMonth_mono _ hmonth
          _ = daysBeforeMonth (isLeap e.year) e.month := by rw [hyear]
          _ < e.dayOfYear := Nat.lt_add_of_pos_right e.day_pos
      · unfold dayOfYear
        rw [hyear, hmonth]
        omega
    unfold dayNumber
    rw [hyear]
    omega

/-- **The order of dates** is the order of their numbers. -/
theorem dayNumber_le_iff (d e : Date) : d.dayNumber ≤ e.dayNumber ↔ d ≤ e := by
  constructor
  · intro hle
    by_contra hnot
    have hlt := dayNumber_lt (not_le.1 hnot)
    omega
  · intro hle
    rcases hle.lt_or_eq with hlt | rfl
    · exact Int.le_of_lt (dayNumber_lt hlt)
    · exact Int.le_refl _

/-- The greatest month up to `k` that begins before day `r` of a year. -/
def monthOfDay (leap : Bool) (r : Nat) : Nat → Nat
  | 0 => 0
  | k + 1 => if daysBeforeMonth leap (k + 1) < r then k + 1 else monthOfDay leap r k

/-- The month in which a day of the year lies. -/
theorem monthOfDay_spec (leap : Bool) {r k : Nat} (hpos : 0 < r)
    (hle : r ≤ daysBeforeMonth leap (k + 1)) :
    1 ≤ monthOfDay leap r k ∧ monthOfDay leap r k ≤ k ∧
      daysBeforeMonth leap (monthOfDay leap r k) < r ∧
      r ≤ daysBeforeMonth leap (monthOfDay leap r k + 1) := by
  induction k with
  | zero =>
    have hnone : r ≤ 0 := hle
    omega
  | succ k ih =>
    unfold monthOfDay
    split
    next hlast => exact ⟨by omega, le_rfl, hlast, hle⟩
    next hlast =>
      obtain ⟨hm, hmk, hlow, hhigh⟩ := ih (Nat.le_of_not_lt hlast)
      exact ⟨hm, Nat.le_succ_of_le hmk, hlow, hhigh⟩

/-- The year of a day, from the mean length of a year. -/
def yearOfDay (n : Int) : Int :=
  let y := (n - 1) * 400 / 146097
  if n ≤ daysBeforeYear (y + 1) then y
  else if n ≤ daysBeforeYear (y + 2) then y + 1
  else y + 2

/-- The year in which a day lies. -/
theorem yearOfDay_spec (n : Int) :
    daysBeforeYear (yearOfDay n) < n ∧ n ≤ daysBeforeYear (yearOfDay n + 1) := by
  -- the mean is off by less than a year
  have hlow : daysBeforeYear ((n - 1) * 400 / 146097) < n := by
    unfold daysBeforeYear
    omega
  have hhigh : n ≤ daysBeforeYear ((n - 1) * 400 / 146097 + 2 + 1) := by
    unfold daysBeforeYear
    omega
  unfold yearOfDay
  simp only
  split
  next hfirst => exact ⟨hlow, hfirst⟩
  next hfirst =>
    split
    next hsecond =>
      rw [Int.add_assoc]
      exact ⟨Int.not_le.1 hfirst, hsecond⟩
    next hsecond => exact ⟨Int.not_le.1 hsecond, hhigh⟩

/-- Every day lies in a month of its year. -/
theorem dayOfYear_bounds (n : Int) :
    0 < (n - daysBeforeYear (yearOfDay n)).toNat ∧
      (n - daysBeforeYear (yearOfDay n)).toNat ≤
        daysBeforeMonth (isLeap (yearOfDay n)) (12 + 1) := by
  obtain ⟨hlow, hhigh⟩ := yearOfDay_spec n
  rw [daysBeforeYear_succ] at hhigh
  rw [daysBeforeMonth_thirteen]
  omega

/-- The date with a number. -/
def ofDayNumber (n : Int) : Date :=
  let y := yearOfDay n
  let r := (n - daysBeforeYear y).toNat
  let m := monthOfDay (isLeap y) r 12
  have hmonth := monthOfDay_spec (isLeap y) (dayOfYear_bounds n).1 (dayOfYear_bounds n).2
  { year := y, month := m, day := r - daysBeforeMonth (isLeap y) m, month_pos := hmonth.1,
    month_le := hmonth.2.1, day_pos := Nat.sub_pos_of_lt hmonth.2.2.1,
    day_le := by
      have hlast := hmonth.2.2.2
      rw [daysBeforeMonth_succ _ hmonth.1] at hlast
      exact Nat.sub_le_iff_le_add'.2 hlast }

/-- **Every integer is the number of a date.** -/
theorem dayNumber_ofDayNumber (n : Int) : (ofDayNumber n).dayNumber = n := by
  have hyear := yearOfDay_spec n
  have hmonth := monthOfDay_spec (isLeap (yearOfDay n)) (dayOfYear_bounds n).1
    (dayOfYear_bounds n).2
  show daysBeforeYear (yearOfDay n) + ((daysBeforeMonth (isLeap (yearOfDay n))
    (monthOfDay (isLeap (yearOfDay n)) (n - daysBeforeYear (yearOfDay n)).toNat 12) +
    ((n - daysBeforeYear (yearOfDay n)).toNat - daysBeforeMonth (isLeap (yearOfDay n))
    (monthOfDay (isLeap (yearOfDay n)) (n - daysBeforeYear (yearOfDay n)).toNat 12)) : Nat) : Int) = n
  omega

/-! ## §3. Anniversaries -/

/-- The date with this year, month and day, if there is one. -/
def ofYmd (y : Int) (m d : Nat) : Option Date :=
  if h : (1 ≤ m ∧ m ≤ 12) ∧ 1 ≤ d ∧ d ≤ daysInMonth (isLeap y) m then
    some { year := y, month := m, day := d, month_pos := h.1.1, month_le := h.1.2,
           day_pos := h.2.1, day_le := h.2.2 }
  else none

theorem ofYmd_year {y : Int} {m d : Nat} {e : Date} (h : ofYmd y m d = some e) : e.year = y := by
  unfold ofYmd at h
  split at h
  next =>
    injection h with h
    rw [← h]
  next => cases h

/-- The date with this month and day in another year, if there is one. -/
def inYear (d : Date) (y : Int) : Option Date :=
  if h : d.day ≤ daysInMonth (isLeap y) d.month then some { d with year := y, day_le := h }
  else none

/-- The anniversary of a date in a year; that of a leap day is 1 March
    where there is none. -/
def anniversary (d : Date) (y : Int) : Date :=
  (d.inYear y).getD
    { year := y, month := 3, day := 1, month_pos := by decide, month_le := by decide,
      day_pos := by decide, day_le := by cases isLeap y <;> decide }

theorem anniversary_year (d : Date) (y : Int) : (d.anniversary y).year = y := by
  unfold anniversary inYear
  split <;> rfl

/-- A date that a year lacks is a leap day. -/
theorem inYear_eq_none {d : Date} {y : Int} (h : d.inYear y = none) :
    d.month = 2 ∧ d.day = 29 ∧ isLeap d.year = true ∧ isLeap y = false := by
  unfold inYear at h
  split at h
  next => cases h
  next hfits => exact feb29_of_not_fits d.day_le hfits

theorem inYear_eq_some {d e : Date} {y : Int} (h : d.inYear y = some e) :
    e.year = y ∧ e.month = d.month ∧ e.day = d.day := by
  unfold inYear at h
  split at h
  next =>
    injection h with h
    subst h
    exact ⟨rfl, rfl, rfl⟩
  next => cases h

/-- An anniversary has the month and day of the date. -/
theorem anniversary_of_some {d e : Date} {y : Int} (h : d.inYear y = some e) :
    (d.anniversary y).month = d.month ∧ (d.anniversary y).day = d.day := by
  unfold anniversary
  rw [h]
  exact (inYear_eq_some h).2

theorem anniversary_of_none {d : Date} {y : Int} (h : d.inYear y = none) :
    (d.anniversary y).month = 3 ∧ (d.anniversary y).day = 1 := by
  unfold anniversary
  rw [h]
  exact ⟨rfl, rfl⟩

/-! ## §4. Years between dates -/

/-- In a leap year every month from March on begins one day later. -/
theorem daysBeforeMonth_leap (m : Nat) :
    daysBeforeMonth true m = daysBeforeMonth false m + if 3 ≤ m then 1 else 0 := by
  induction m with
  | zero => rfl
  | succ m ih =>
    rcases Nat.eq_zero_or_pos m with rfl | hpos
    · rfl
    · rw [daysBeforeMonth_succ true hpos, daysBeforeMonth_succ false hpos, ih]
      by_cases hfeb : m = 2
      · subst hfeb
        rfl
      · rw [daysInMonth_of_ne hfeb true false]
        split <;> split <;> omega

/-- The anniversaries of a date fall on one day of the year, or in leap
    years on the next. -/
theorem anniversary_dayOfYear (d : Date) : ∃ c, ∀ y, c ≤ (d.anniversary y).dayOfYear ∧
    (d.anniversary y).dayOfYear ≤ c + if isLeap y then 1 else 0 := by
  refine ⟨daysBeforeMonth false d.month + d.day, fun y => ?_⟩
  unfold dayOfYear
  rw [anniversary_year]
  cases hin : d.inYear y with
  | some e =>
    obtain ⟨hmonth, hday⟩ := anniversary_of_some hin
    rw [hmonth, hday]
    cases isLeap y with
    | false => exact ⟨Nat.le_refl _, Nat.le_refl _⟩
    | true =>
      rw [daysBeforeMonth_leap, if_pos rfl]
      split <;> omega
  | none =>
    -- 1 March is the day of the year that 29 February would be
    obtain ⟨hfeb, h29, -, hnot⟩ := inYear_eq_none hin
    obtain ⟨hmonth, hday⟩ := anniversary_of_none hin
    rw [hmonth, hday, hfeb, h29, hnot]
    exact ⟨Nat.le_refl _, Nat.le_refl _⟩

theorem anniversary_self (d : Date) : d.anniversary d.year = d := by
  unfold anniversary inYear
  rw [dif_pos d.day_le]
  rfl

/-- From one anniversary to the next there are 365 days or more. -/
theorem anniversary_succ (d : Date) (y : Int) :
    (d.anniversary y).dayNumber + 365 ≤ (d.anniversary (y + 1)).dayNumber := by
  obtain ⟨c, hc⟩ := d.anniversary_dayOfYear
  obtain ⟨-, hhigh⟩ := hc y
  obtain ⟨hlow, -⟩ := hc (y + 1)
  unfold dayNumber
  rw [anniversary_year, anniversary_year, daysBeforeYear_succ]
  unfold yearLength
  split at hhigh
  next hleap =>
    rw [if_pos hleap]
    omega
  next hleap =>
    rw [if_neg hleap]
    omega

/-- **An anniversary is no earlier** than 365 days for each year. -/
theorem anniversary_ge (d : Date) (n : Nat) :
    d.dayNumber + 365 * n ≤ (d.anniversary (d.year + n)).dayNumber := by
  induction n with
  | zero =>
    rw [Int.natCast_zero, Int.add_zero, anniversary_self, Int.mul_zero, Int.add_zero]
  | succ n ih =>
    have hnext := d.anniversary_succ (d.year + n)
    rw [Int.natCast_succ, ← Int.add_assoc]
    omega

/-- **And no later** than that and a day for every fourth year: of the
    years between there are so many leap years. -/
theorem anniversary_le (d : Date) (n : Nat) :
    (d.anniversary (d.year + n)).dayNumber ≤ d.dayNumber + 365 * n + n / 4 + 3 := by
  obtain ⟨c, hc⟩ := d.anniversary_dayOfYear
  obtain ⟨-, hhigh⟩ := hc (d.year + n)
  obtain ⟨hlow, -⟩ := hc d.year
  rw [anniversary_self] at hlow
  have hday : (d.anniversary (d.year + n)).dayOfYear ≤ d.dayOfYear + 1 := by
    split at hhigh <;> omega
  have hyears : daysBeforeYear (d.year + n) ≤ daysBeforeYear d.year + 365 * n + n / 4 + 2 := by
    unfold daysBeforeYear
    omega
  unfold dayNumber
  rw [anniversary_year]
  omega

/-- The whole years from a date to a later one. -/
def yearsBetween (d e : Date) : Nat :=
  (e.year - d.year).toNat - if d.anniversary e.year ≤ e then 0 else 1

/-- **The whole years** are those whose anniversary is not after the
    later date. -/
theorem le_yearsBetween_iff {d e : Date} (h : d ≤ e) (n : Nat) :
    n ≤ d.yearsBetween e ↔ d.anniversary (d.year + n) ≤ e := by
  have hyear : d.year ≤ e.year := by
    rcases (le_iff d e).1 h with hlt | ⟨heq, -⟩
    · exact Int.le_of_lt hlt
    · exact Int.le_of_eq heq
  have hle := le_iff (d.anniversary (d.year + n)) e
  rw [anniversary_year] at hle
  unfold yearsBetween
  by_cases hsame : d.year + n = e.year
  · -- the anniversary of this year
    rw [hsame]
    split
    next hdone => exact iff_of_true (by omega) hdone
    next hdone =>
      refine iff_of_false (fun hn => ?_) hdone
      rcases Nat.eq_zero_or_pos n with rfl | hpos
      · -- the date itself is not after the later one
        rw [Int.natCast_zero, Int.add_zero] at hsame
        rw [← hsame, anniversary_self] at hdone
        exact hdone h
      · omega
  · rw [hle]
    split
    next hdone => omega
    next hdone => omega

end Date

end ProviiSdk.Calendar
