/-
  ProviiSdk.Core.DayCounts — dates as day counts, and back.

  Birth days are signed counts from 1970 with an ISO text; other dates
  are unsigned counts from 1970, which go through the chrono crate's
  count from the year 1.  Between the two counts lie a checked addition,
  a narrowing, and a subtraction that is clamped at zero.

  Main results:
    * `dateFromDays_dayNumber` — the date of an unsigned count.
    * `daysSinceEpoch_toNat` — the count of a date from 1970 on.
    * `day_counts_round_trip` — the round trips of both.
-/

import ProviiSdk.Core.BirthDates

namespace ProviiSdk.Core

open ProviiSdk.Calendar

/-! ## §1. The conversions -/

/-- The functions of chrono's `NaiveDate` behind counts from the year 1,
    and its order. -/
structure DayCrate (NaiveDate : Type) extends DateCrate NaiveDate where
  numDaysFromCe : NaiveDate → Int32
  fromNumDaysFromCeOpt : Int32 → Option NaiveDate
  /-- `NaiveDate: Ord`. -/
  before : NaiveDate → NaiveDate → Bool

/-- **Documented behaviour**: day 1 is 1 January of the year 1, in the
    proleptic Gregorian calendar, and dates are ordered by time. -/
structure DayDates {NaiveDate : Type} (C : DayCrate NaiveDate) (date : NaiveDate → Date) : Prop
    extends IsoDates C.toDateCrate date where
  numDaysFromCe : ∀ d, (C.numDaysFromCe d).toInt = (date d).dayNumber
  fromNumDaysFromCeOpt : ∀ n d, C.fromNumDaysFromCeOpt n = some d → (date d).dayNumber = n.toInt
  before : ∀ d e, C.before d e = true ↔ date d < date e

variable {NaiveDate : Type}

/-- An `i64`, if the integer is one. -/
def checkedI64 (i : Int) : Option Int :=
  if -9223372036854775808 ≤ i ∧ i ≤ 9223372036854775807 then some i else none

/-- The count of a date from 1 January 1970; zero for earlier dates. -/
def daysSinceEpoch (C : DayCrate NaiveDate) (date : NaiveDate) : UInt64 :=
  let daysFromCe := (C.numDaysFromCe date).toInt
  let signed := daysFromCe - unixEpochOffsetDays
  UInt64.ofNat (max signed 0).toNat

/-- The date of a count, if chrono has it. -/
def dateFromDays (C : DayCrate NaiveDate) (days : UInt64) : Option NaiveDate := do
  let daysI64 ← checkedI64 days.toNat
  let daysFromCe ← checkedI64 (unixEpochOffsetDays + daysI64)
  let daysI32 ← tryI32 daysFromCe
  C.fromNumDaysFromCeOpt daysI32

/-! ## §2. The round trips -/

theorem checkedI64_eq_some {i j : Int} (h : checkedI64 i = some j) : i = j := by
  unfold checkedI64 at h
  split at h
  next =>
    injection h
  next => cases h

/-- **The date of an unsigned count** has that number from 1970. -/
theorem dateFromDays_dayNumber {C : DayCrate NaiveDate} {date : NaiveDate → Date}
    (h : DayDates C date) {days : UInt64} {d : NaiveDate} (hd : dateFromDays C days = some d) :
    (date d).dayNumber = unixEpochOffsetDays + days.toNat := by
  unfold dateFromDays at hd
  simp only [Option.bind_eq_bind, Option.bind_eq_some_iff] at hd
  obtain ⟨i, hi, j, hj, n, hn, hdate⟩ := hd
  have hday := h.fromNumDaysFromCeOpt n d hdate
  rw [hday, (tryI32_eq_some_iff _ _).1 hn, ← checkedI64_eq_some hj, ← checkedI64_eq_some hi]

/-- **The count of a date** from 1970 on is not clamped. -/
theorem daysSinceEpoch_toNat {C : DayCrate NaiveDate} {date : NaiveDate → Date}
    (h : DayDates C date) {d : NaiveDate} {n : Nat}
    (hday : (date d).dayNumber = unixEpochOffsetDays + n) (hn : n < 18446744073709551616) :
    (daysSinceEpoch C d).toNat = n := by
  have hsigned : max ((C.numDaysFromCe d).toInt - unixEpochOffsetDays) 0 = (n : Int) := by
    rw [h.numDaysFromCe, hday]
    omega
  unfold daysSinceEpoch
  simp only [hsigned, Int.toNat_natCast]
  exact UInt64.toNat_ofNat_of_lt' hn

/-- **Day counts make round trips.**  The ISO text of a signed count
    parses to it; an unsigned count that has a date is the date's; and
    of two such counts the smaller has the earlier date. -/
theorem day_counts_round_trip (C : DayCrate NaiveDate) (date : NaiveDate → Date)
    (h : DayDates C date) :
    (∀ d iso, daysToIso C.toDateCrate d = .ok iso → parseDobIso C.epochDays iso = .ok d) ∧
    (∀ n d, dateFromDays C n = some d → daysSinceEpoch C d = n) ∧
    ∀ n m d e, dateFromDays C n = some d → dateFromDays C m = some e → n < m →
      C.before d e = true := by
  refine ⟨fun d iso hiso => parseDobIso_daysToIso h.toIsoDates hiso, fun n d hd => ?_, ?_⟩
  · exact UInt64.toNat_inj.1 (daysSinceEpoch_toNat h (dateFromDays_dayNumber h hd) n.toNat_lt)
  · intro n m d e hd he hlt
    have hdayD := dateFromDays_dayNumber h hd
    have hdayE := dateFromDays_dayNumber h he
    have hnat : n.toNat < m.toNat := UInt64.lt_iff_toNat_lt.1 hlt
    rw [h.before, ← not_le, ← Date.dayNumber_le_iff]
    omega

/-! ## §3. The calendar -/

/-- The functions of the crate on the dates in the range. -/
def calendarDays : DayCrate CalendarDate where
  toDateCrate := calendarDates
  numDaysFromCe := calendarChrono.numDaysFromCe
  fromNumDaysFromCeOpt n := CalendarDate.ofDate (Date.ofDayNumber n.toInt)
  before d e := decide (d.1 < e.1)

theorem calendarDays_dayDates : DayDates calendarDays Subtype.val where
  toIsoDates := calendarDates_isoDates
  numDaysFromCe := calendarChrono_gregorian.numDaysFromCe
  fromNumDaysFromCeOpt n d h := by
    rw [ofDate_eq_some h, Date.dayNumber_ofDayNumber]
  before d e := decide_eq_true_iff

/-- A day before the year 0 and the last day of the year 10000, as signed
    counts; and 1970 against the latter, as unsigned ones. -/
theorem day_counts_round_trip_in_calendar :
    daysToIso calendarDates (-719529) = .ok "-0001-12-31" ∧
      parseDobIso calendarDays.epochDays "-0001-12-31" = .ok (-719529) ∧
      daysToIso calendarDates 2933262 = .ok "+10000-12-31" ∧
      parseDobIso calendarDays.epochDays "+10000-12-31" = .ok 2933262 ∧
      ∃ d e, dateFromDays calendarDays 0 = some d ∧ dateFromDays calendarDays 2933262 = some e ∧
        daysSinceEpoch calendarDays d = 0 ∧ daysSinceEpoch calendarDays e = 2933262 ∧
        calendarDays.before d e = true := by
  obtain ⟨hiso, hcount, horder⟩ :=
    day_counts_round_trip calendarDays Subtype.val calendarDays_dayDates
  have hearly : daysToIso calendarDates (-719529) = .ok "-0001-12-31" := by decide +kernel
  have hlate : daysToIso calendarDates 2933262 = .ok "+10000-12-31" := by decide +kernel
  have hfirst : (dateFromDays calendarDays 0).isSome = true := by decide +kernel
  have hlast : (dateFromDays calendarDays 2933262).isSome = true := by decide +kernel
  obtain ⟨d, hd⟩ := Option.isSome_iff_exists.1 hfirst
  obtain ⟨e, he⟩ := Option.isSome_iff_exists.1 hlast
  exact ⟨hearly, hiso _ _ hearly, hlate, hiso _ _ hlate, d, e, hd, he, hcount 0 d hd,
    hcount _ e he, horder _ _ d e hd he (by decide)⟩

end ProviiSdk.Core
