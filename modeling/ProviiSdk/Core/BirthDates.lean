/-
  ProviiSdk.Core.BirthDates — birth dates and their texts.

  A birth date is a text of the form year-month-day for the user and a
  day count in a credential.  The chrono crate converts between them;
  what is assumed of it is its documentation.

  Main results:
    * `parseDobIso_daysToIso` — the text of a day count parses to it.
    * `parseDobIso_of_numeral` — the numeral of a negative day count does
      not parse as a date.
    * `calendarDates_isoDates` — the calendar is such a crate.
-/

import ProviiSdk.Core.AgeCutoff
import ProviiSdk.Core.Commitment
import ProviiSdk.Lib.IsoDate

namespace ProviiSdk.Core

open ProviiSdk.Calendar ProviiSdk.Text

/-! ## §1. The chrono crate -/

/-- The functions of chrono's `NaiveDate` behind texts and day counts. -/
structure DateCrate (NaiveDate : Type) where
  /-- `NaiveDate::from_ymd_opt(1970, 1, 1)`, which exists. -/
  epoch : NaiveDate
  /-- `NaiveDate::parse_from_str(_, "%Y-%m-%d")`. -/
  parseFromStr : String → Except String NaiveDate
  /-- `format("%Y-%m-%d")`. -/
  format : NaiveDate → String
  /-- `checked_add_signed(Duration::days(_))`. -/
  checkedAddDays : NaiveDate → Int → Option NaiveDate
  /-- `signed_duration_since(_).num_days()`. -/
  daysSince : NaiveDate → NaiveDate → Int

/-- **Documented behaviour**: the dates are those of the proleptic
    Gregorian calendar in chrono's years.  `%Y` writes four digits at
    least, and a sign outside 0 to 9999; `%m` and `%d` write two.  What
    is written is read, and the dashes of the format must be met. -/
structure IsoDates {NaiveDate : Type} (C : DateCrate NaiveDate) (date : NaiveDate → Date) :
    Prop where
  inRange : ∀ d, InRange (date d).year
  epoch : (date C.epoch).dayNumber = unixEpochOffsetDays
  format : ∀ d, C.format d = String.ofList (date d).isoText
  parse : ∀ d, ∃ e, C.parseFromStr (String.ofList (date d).isoText) = .ok e ∧ date e = date d
  separators : ∀ text d, C.parseFromStr text = .ok d → 2 ≤ (text.toList.drop 1).count '-'
  checkedAddDays : ∀ d n e, C.checkedAddDays d n = some e →
    (date e).dayNumber = (date d).dayNumber + n
  daysSince : ∀ d e, C.daysSince d e = (date d).dayNumber - (date e).dayNumber

variable {NaiveDate : Type}

/-- The days since the epoch of a `%Y-%m-%d` text. -/
def DateCrate.epochDays (C : DateCrate NaiveDate) (text : String) : Except String Int :=
  match C.parseFromStr text with
  | .error e => .error e
  | .ok dob => .ok (C.daysSince dob C.epoch)

/-- The ISO text of a day count. -/
def daysToIso (C : DateCrate NaiveDate) (days : Int32) : Except WalletError String :=
  match C.checkedAddDays C.epoch days.toInt with
  | none => .error (.invalidInput s!"Days value ({days.toInt}) out of calendar range")
  | some date => .ok (C.format date)

/-! ## §2. There and back -/

/-- The ISO text of a day count is that of a date with the count. -/
theorem daysToIso_ok {C : DateCrate NaiveDate} {date : NaiveDate → Date} (h : IsoDates C date)
    {days : Int32} {iso : String} (hiso : daysToIso C days = .ok iso) :
    ∃ d, iso = String.ofList (date d).isoText ∧ EpochDay days (date d) := by
  unfold daysToIso at hiso
  split at hiso
  next => cases hiso
  next d hadd =>
    injection hiso with hiso
    refine ⟨d, ?_, ?_⟩
    · rw [← hiso, h.format]
    · have hnumber := h.checkedAddDays _ _ _ hadd
      rw [h.epoch] at hnumber
      unfold EpochDay
      omega

/-- **The ISO text of a day count parses to it.** -/
theorem parseDobIso_daysToIso {C : DateCrate NaiveDate} {date : NaiveDate → Date}
    (h : IsoDates C date) {days : Int32} {iso : String} (hiso : daysToIso C days = .ok iso) :
    parseDobIso C.epochDays iso = .ok days := by
  obtain ⟨d, rfl, hday⟩ := daysToIso_ok h hiso
  obtain ⟨e, hparse, hdate⟩ := h.parse d
  have hcount : C.epochDays (String.ofList (date d).isoText) = .ok days.toInt := by
    have hsince : C.daysSince e C.epoch = days.toInt := by
      rw [h.daysSince, h.epoch, hdate, ← hday]
      omega
    unfold DateCrate.epochDays
    rw [hparse, ← hsince]
  have hlow := days.le_toInt
  have hhigh := days.toInt_lt
  unfold parseDobIso
  simp only [hcount]
  rw [if_pos ⟨hlow, hhigh⟩, Int32.ofInt_toInt]

/-- The ISO text of a day count has a dash. -/
theorem dash_mem_daysToIso {C : DateCrate NaiveDate} {date : NaiveDate → Date}
    (h : IsoDates C date) {days : Int32} {iso : String} (hiso : daysToIso C days = .ok iso) :
    '-' ∈ iso.toList := by
  obtain ⟨d, rfl, -⟩ := daysToIso_ok h hiso
  rw [String.toList_ofList]
  exact dash_mem_isoText (date d)

/-- **A sign and digits are no date**: the dashes of the format are
    missing. -/
theorem parseDobIso_of_numeral {C : DateCrate NaiveDate} {date : NaiveDate → Date}
    (h : IsoDates C date) (n : Nat) :
    ∃ e, parseDobIso C.epochDays (String.ofList ('-' :: decimal n)) =
      .error (.invalidInput ("Invalid date format (expected YYYY-MM-DD): " ++ e)) := by
  unfold parseDobIso DateCrate.epochDays
  cases hparse : C.parseFromStr (String.ofList ('-' :: decimal n)) with
  | error e => exact ⟨e, rfl⟩
  | ok d =>
    have hdashes := h.separators _ d hparse
    rw [String.toList_ofList, List.drop_one, List.tail_cons,
      List.count_eq_zero_of_not_mem (notMem_decimal n '-' (by decide))] at hdashes
    omega

/-! ## §3. The calendar -/

/-- The first of January 1970. -/
def epochDate : CalendarDate := ⟨Date.ofDayNumber unixEpochOffsetDays, by decide +kernel⟩

/-- The functions of the crate on the dates in the range. -/
def calendarDates : DateCrate CalendarDate where
  epoch := epochDate
  parseFromStr text :=
    match (parseIso text.toList).bind CalendarDate.ofDate with
    | some d => .ok d
    | none => .error "input is out of range"
  format d := String.ofList d.1.isoText
  checkedAddDays d n := CalendarDate.ofDate (Date.ofDayNumber (d.1.dayNumber + n))
  daysSince d e := d.1.dayNumber - e.1.dayNumber

theorem ofDate_eq_some {d : Date} {e : CalendarDate} (h : CalendarDate.ofDate d = some e) :
    e.1 = d := by
  unfold CalendarDate.ofDate at h
  split at h
  next =>
    injection h with h
    rw [← h]
  next => cases h

/-- **The calendar is such a crate.** -/
theorem calendarDates_isoDates : IsoDates calendarDates Subtype.val where
  inRange d := d.2
  epoch := Date.dayNumber_ofDayNumber _
  format _ := rfl
  parse d := by
    refine ⟨d, ?_, rfl⟩
    have hof : CalendarDate.ofDate d.1 = some d := dif_pos d.2
    unfold calendarDates
    simp only [String.toList_ofList, parseIso_isoText, Option.bind_some, hof]
  separators text d h := by
    unfold calendarDates at h
    simp only at h
    split at h
    next e hparse =>
      obtain ⟨e', he, -⟩ := Option.bind_eq_some_iff.1 hparse
      exact dashes_of_parseIso he
    next => cases h
  checkedAddDays d n e h := by
    rw [ofDate_eq_some h, Date.dayNumber_ofDayNumber]
  daysSince _ _ := rfl

end ProviiSdk.Core
