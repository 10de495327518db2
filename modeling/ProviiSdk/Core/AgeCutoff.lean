/-
  ProviiSdk.Core.AgeCutoff — cutoff days and completed years.

  A verifier asks for an age by a cutoff day, and the wallet compares the
  birth day with it.  This file says what the comparison means in years:
  `calculate_cutoff_days` takes the age from the year of today's date, in
  the calendar of the chrono crate.

  Main results:
    * `le_cutoffDate_iff` — a date is on or before the cutoff date exactly
      when that many years are completed since.
    * `cutoff_calendar_correct` — the cutoff day of an age.
    * `directions_overlap` — the two directions of an age proof, and the
      one birth day that both accept.
-/

import ProviiSdk.Core.Validity
import ProviiSdk.Lib.Calendar

namespace ProviiSdk.Core

open ProviiSdk.Calendar ProviiSdk.Check

/-! ## §1. The chrono crate -/

/-- The functions of chrono's `NaiveDate`. -/
structure ChronoCrate (NaiveDate : Type) where
  year : NaiveDate → Int32
  withYear : NaiveDate → Int32 → Option NaiveDate
  fromYmdOpt : Int32 → UInt32 → UInt32 → Option NaiveDate
  numDaysFromCe : NaiveDate → Int32

/-- The years of `NaiveDate::MIN` and `NaiveDate::MAX`. -/
def minYear : Int := -262143
def maxYear : Int := 262142

def InRange (y : Int) : Prop := minYear ≤ y ∧ y ≤ maxYear

instance (y : Int) : Decidable (InRange y) := inferInstanceAs (Decidable (_ ∧ _))

/-- **Documented behaviour**: the dates are those of the proleptic
    Gregorian calendar in the years of the range, and the days count from
    1 January of the year 1. -/
structure Gregorian {NaiveDate : Type} (X : ChronoCrate NaiveDate) (date : NaiveDate → Date) :
    Prop where
  year : ∀ d, (X.year d).toInt = (date d).year
  inRange : ∀ d, InRange (date d).year
  withYear : ∀ d y, (X.withYear d y).map date =
    if InRange y.toInt then (date d).inYear y.toInt else none
  fromYmdOpt : ∀ y m d, (X.fromYmdOpt y m d).map date =
    if InRange y.toInt then Date.ofYmd y.toInt m.toNat d.toNat else none
  numDaysFromCe : ∀ d, (X.numDaysFromCe d).toInt = (date d).dayNumber

/-! ## §2. The cutoff -/

/-- `i32::try_from`. -/
def tryI32 (i : Int) : Option Int32 :=
  if -2147483648 ≤ i ∧ i ≤ 2147483647 then some (Int32.ofInt i) else none

/-- The number of 1 January 1970. -/
def unixEpochOffsetDays : Int := 719163

variable {NaiveDate : Type}

/-- Today's date in the target year; for 29 February in a year that is
    no leap year it is the 28th. -/
def cutoffDateIn (X : ChronoCrate NaiveDate) (today : NaiveDate) (targetYear : Int32) :
    Except WalletError NaiveDate :=
  match X.withYear today targetYear with
  | some d => .ok d
  | none =>
    okOr (X.fromYmdOpt targetYear 2 28) (.invalidInput "cutoff year out of representable range")

/-- The cutoff day of an age, on a day. -/
def calculateCutoffDays (X : ChronoCrate NaiveDate) (today : NaiveDate) (minAgeYears : UInt32) :
    Except WalletError Int32 := do
  require (¬ minAgeYears > 200) (.invalidInput "min_age_years exceeds maximum of 200")
  let age ← okOr (tryI32 minAgeYears.toNat) (.invalidInput "min_age_years exceeds i32 range")
  let targetYear ← okOr (tryI32 ((X.year today).toInt - age.toInt))
    (.invalidInput "cutoff year out of representable range")
  let cutoffDate ← cutoffDateIn X today targetYear
  okOr (tryI32 ((X.numDaysFromCe cutoffDate).toInt - unixEpochOffsetDays))
    (.invalidInput "cutoff days exceeds i32 range")

/-- The day of a date, counted from 1 January 1970. -/
def EpochDay (day : Int32) (date : Date) : Prop := day.toInt + unixEpochOffsetDays = date.dayNumber

/-- **Completed years**: the birthday with that number is not after
    today; that of a leap day falls on 1 March of other years. -/
def CompletedYears (dob today : Date) (n : Nat) : Prop := dob.anniversary (dob.year + n) ≤ today

/-- The cutoff as a date. -/
def cutoffDate (today : Date) (n : Nat) : Date :=
  (today.inYear (today.year - n)).getD
    { year := today.year - n, month := 2, day := 28, month_pos := by decide,
      month_le := by decide, day_pos := by decide,
      day_le := by cases isLeap (today.year - n) <;> decide }

/-! ## §3. The cutoff as a date -/

theorem cutoffDate_year (today : Date) (n : Nat) : (cutoffDate today n).year = today.year - n := by
  unfold cutoffDate
  cases h : today.inYear (today.year - n) with
  | none => rfl
  | some d => exact (Date.inYear_eq_some h).1

theorem cutoffDate_of_some {today d : Date} {n : Nat} (h : today.inYear (today.year - n) = some d) :
    (cutoffDate today n).month = today.month ∧ (cutoffDate today n).day = today.day := by
  unfold cutoffDate
  rw [h]
  exact (Date.inYear_eq_some h).2

theorem cutoffDate_of_none {today : Date} {n : Nat} (h : today.inYear (today.year - n) = none) :
    (cutoffDate today n).month = 2 ∧ (cutoffDate today n).day = 28 := by
  unfold cutoffDate
  rw [h]
  exact ⟨rfl, rfl⟩

/-- In a year that is no leap year February ends on the 28th. -/
theorem feb_le (d : Date) (h : isLeap d.year = false) (hmonth : d.month = 2) : d.day ≤ 28 := by
  have hfits := d.day_le
  rw [h, hmonth] at hfits
  exact hfits

/-- **The cutoff date and completed years.** -/
theorem le_cutoffDate_iff (dob today : Date) (n : Nat) :
    dob ≤ cutoffDate today n ↔ CompletedYears dob today n := by
  unfold CompletedYears
  rw [Date.le_iff, Date.le_iff, cutoffDate_year, Date.anniversary_year]
  -- other years are decided by the year alone
  by_cases hyear : dob.year = today.year - n
  swap
  · omega
  have hsame : dob.year + n = today.year := by omega
  rw [hsame]
  cases hback : today.inYear (today.year - n) with
  | some cutoff =>
    obtain ⟨hmonth, hday⟩ := cutoffDate_of_some hback
    cases hforth : dob.inYear today.year with
    | some birthday =>
      obtain ⟨hmonth', hday'⟩ := Date.anniversary_of_some hforth
      omega
    | none =>
      -- born on a leap day, and today's year has none
      obtain ⟨hfeb, h29, -, hnot⟩ := Date.inYear_eq_none hforth
      obtain ⟨hmonth', hday'⟩ := Date.anniversary_of_none hforth
      have htoday := feb_le today hnot
      have hpos := today.day_pos
      omega
  | none =>
    -- today is a leap day, and the year of birth has none
    obtain ⟨hfeb, h29, -, hnot⟩ := Date.inYear_eq_none hback
    obtain ⟨hmonth, hday⟩ := cutoffDate_of_none hback
    rw [← hyear] at hnot
    have hdob := feb_le dob hnot
    cases hforth : dob.inYear today.year with
    | some birthday =>
      obtain ⟨hmonth', hday'⟩ := Date.anniversary_of_some hforth
      omega
    | none =>
      obtain ⟨-, -, hleap, -⟩ := Date.inYear_eq_none hforth
      rw [hleap] at hnot
      cases hnot

/-- A greater age has an earlier cutoff. -/
theorem cutoffDate_lt (today : Date) {n m : Nat} (h : n < m) :
    cutoffDate today m < cutoffDate today n := by
  rw [Date.lt_iff, cutoffDate_year, cutoffDate_year]
  omega

/-! ## §4. The computation -/

/-- The numbers that fit into an `i32`. -/
theorem tryI32_eq_some_iff (i : Int) (a : Int32) : tryI32 i = some a ↔ a.toInt = i := by
  unfold tryI32
  split
  next h =>
    have hof : (Int32.ofInt i).toInt = i :=
      Int32.toInt_ofInt_of_le h.1 (Int.lt_of_le_of_lt h.2 (by decide))
    constructor
    · intro heq
      injection heq with heq
      rw [← heq, hof]
    · intro heq
      rw [← heq, Int32.ofInt_toInt]
  next h =>
    refine iff_of_false (fun heq => by cases heq) ?_
    rintro rfl
    have hlow := a.le_toInt
    have hhigh := a.toInt_lt
    omega

/-- The days of the dates in the range fit. -/
theorem dayNumber_bounds {d : Date} (h : InRange d.year) :
    -100000000 ≤ d.dayNumber ∧ d.dayNumber ≤ 100000000 := by
  obtain ⟨hlow, hhigh⟩ := h
  have hmore := d.lt_dayNumber
  have hless := d.dayNumber_le
  unfold daysBeforeYear at hmore hless
  unfold minYear at hlow
  unfold maxYear at hhigh
  omega

/-- The last step: a date's day always fits. -/
theorem epochDay_iff {X : ChronoCrate NaiveDate} {date : NaiveDate → Date} (h : Gregorian X date)
    (d : NaiveDate) (day : Int32) :
    tryI32 ((X.numDaysFromCe d).toInt - unixEpochOffsetDays) = some day ↔
      EpochDay day (date d) := by
  rw [tryI32_eq_some_iff, h.numDaysFromCe]
  unfold EpochDay
  omega

/-- Every date in the range has a day. -/
theorem exists_epochDay {d : Date} (h : InRange d.year) : ∃ day, EpochDay day d := by
  obtain ⟨hlow, hhigh⟩ := dayNumber_bounds h
  have hday : tryI32 (d.dayNumber - unixEpochOffsetDays) =
      some (Int32.ofInt (d.dayNumber - unixEpochOffsetDays)) := by
    unfold tryI32 unixEpochOffsetDays
    rw [if_pos (by omega)]
  rw [tryI32_eq_some_iff] at hday
  refine ⟨Int32.ofInt (d.dayNumber - unixEpochOffsetDays), ?_⟩
  unfold EpochDay
  omega

/-- In the range there is a cutoff date. -/
theorem cutoffDateIn_ok {X : ChronoCrate NaiveDate} {date : NaiveDate → Date}
    (h : Gregorian X date) (today : NaiveDate) {y : Int32} {n : Nat}
    (hy : y.toInt = (date today).year - n) (hrange : InRange y.toInt) :
    ∃ d, cutoffDateIn X today y = .ok d ∧ date d = cutoffDate (date today) n := by
  have hwith := h.withYear today y
  have hymd := h.fromYmdOpt y 2 28
  rw [if_pos hrange, hy] at hwith hymd
  unfold cutoffDateIn cutoffDate
  cases hdate : X.withYear today y with
  | some d =>
    rw [hdate, Option.map_some] at hwith
    rw [← hwith]
    exact ⟨d, rfl, rfl⟩
  | none =>
    rw [hdate, Option.map_none] at hwith
    rw [← hwith]
    unfold Date.ofYmd at hymd
    have hfits : 28 ≤ daysInMonth (isLeap ((date today).year - n)) 2 := by
      cases isLeap ((date today).year - n) <;> decide
    rw [dif_pos ⟨by decide, by decide, hfits⟩] at hymd
    cases hfeb : X.fromYmdOpt y 2 28 with
    | none =>
      rw [hfeb] at hymd
      cases hymd
    | some d =>
      rw [hfeb] at hymd
      injection hymd with hymd
      exact ⟨d, rfl, hymd⟩

/-- Outside the range there is none. -/
theorem not_cutoffDateIn {X : ChronoCrate NaiveDate} {date : NaiveDate → Date}
    (h : Gregorian X date) (today : NaiveDate) {y : Int32} (hrange : ¬ InRange y.toInt)
    (d : NaiveDate) : cutoffDateIn X today y ≠ .ok d := by
  have hwith := h.withYear today y
  have hymd := h.fromYmdOpt y 2 28
  rw [if_neg hrange, Option.map_eq_none_iff] at hwith hymd
  unfold cutoffDateIn
  rw [hwith, hymd]
  intro hok
  cases hok

/-- **The cutoff day of an age** is that of the cutoff date. -/
theorem calculateCutoffDays_ok_iff {X : ChronoCrate NaiveDate} {date : NaiveDate → Date}
    (h : Gregorian X date) (today : NaiveDate) (n : UInt32) (day : Int32) :
    calculateCutoffDays X today n = .ok day ↔
      n ≤ 200 ∧ minYear + n.toNat ≤ (date today).year ∧
        EpochDay day (cutoffDate (date today) n.toNat) := by
  unfold calculateCutoffDays
  simp only [bind_eq_ok_iff, require_eq_ok_iff, okOr_eq_ok_iff, tryI32_eq_some_iff, h.year]
  constructor
  · rintro ⟨_, hn, age, hage, y, hy, d, hd, hday⟩
    rw [hage] at hy
    have hrange : InRange y.toInt := by
      by_contra hnot
      exact not_cutoffDateIn h today hnot d hd
    obtain ⟨d', hd', hdate⟩ := cutoffDateIn_ok h today hy hrange
    rw [hd] at hd'
    injection hd' with hd'
    refine ⟨UInt32.not_lt.1 hn, ?_, ?_⟩
    · have hlow := hrange.1
      omega
    · rw [← hdate, ← hd', ← epochDay_iff h, tryI32_eq_some_iff]
      exact hday
  · rintro ⟨hn, hyear, hday⟩
    have hn200 : n.toNat ≤ 200 := UInt32.le_iff_toNat_le.1 hn
    obtain ⟨hlow, hhigh⟩ := h.inRange today
    unfold minYear at hlow hyear
    unfold maxYear at hhigh
    have hage : tryI32 n.toNat = some (Int32.ofInt n.toNat) := if_pos (by omega)
    have htarget : tryI32 ((date today).year - n.toNat) =
        some (Int32.ofInt ((date today).year - n.toNat)) := if_pos (by omega)
    rw [tryI32_eq_some_iff] at hage htarget
    have hrange : InRange (Int32.ofInt ((date today).year - n.toNat)).toInt := by
      rw [htarget]
      unfold InRange minYear maxYear
      omega
    obtain ⟨d, hd, hdate⟩ := cutoffDateIn_ok h today htarget hrange
    rw [← hdate, ← epochDay_iff h, tryI32_eq_some_iff] at hday
    exact ⟨(), UInt32.not_lt.2 hn, _, hage, _, by rw [hage, htarget], d, hd, hday⟩

/-- Days are compared as their dates. -/
theorem epochDay_le_iff {day day' : Int32} {d d' : Date} (h : EpochDay day d)
    (h' : EpochDay day' d') : day ≤ day' ↔ d ≤ d' := by
  rw [← Date.dayNumber_le_iff, ← h, ← h', Int32.le_iff_toInt_le]
  omega

/-- **The age cutoff is calendar-correct.**  There is a cutoff day for
    every age up to 200 whose year chrono has; a birth day passes the
    check against it exactly if so many years are completed today; and
    a greater age has an earlier cutoff. -/
theorem cutoff_calendar_correct (X : ChronoCrate NaiveDate) (date : NaiveDate → Date)
    (h : Gregorian X date) (today : NaiveDate) (n : UInt32) :
    ((∃ cutoff, calculateCutoffDays X today n = .ok cutoff) ↔
      n ≤ 200 ∧ minYear + n.toNat ≤ (date today).year) ∧
    ∀ cutoff, calculateCutoffDays X today n = .ok cutoff →
      (∀ dobDays dob, EpochDay dobDays dob →
        (validateAge dobDays cutoff false = true ↔ CompletedYears dob (date today) n.toNat)) ∧
      ∀ m cutoff', n < m → calculateCutoffDays X today m = .ok cutoff' → cutoff' < cutoff := by
  simp only [calculateCutoffDays_ok_iff h]
  refine ⟨⟨?_, ?_⟩, ?_⟩
  · rintro ⟨cutoff, hn, hyear, -⟩
    exact ⟨hn, hyear⟩
  · rintro ⟨hn, hyear⟩
    have hrange : InRange (cutoffDate (date today) n.toNat).year := by
      rw [cutoffDate_year]
      obtain ⟨hlow, hhigh⟩ := h.inRange today
      exact ⟨by omega, by omega⟩
    obtain ⟨cutoff, hcutoff⟩ := exists_epochDay hrange
    exact ⟨cutoff, hn, hyear, hcutoff⟩
  · rintro cutoff ⟨hn, hyear, hcutoff⟩
    refine ⟨fun dobDays dob hdob => ?_, ?_⟩
    · show decide (dobDays ≤ cutoff) = true ↔ _
      rw [decide_eq_true_iff, epochDay_le_iff hdob hcutoff, le_cutoffDate_iff]
    · rintro m cutoff' hlt ⟨-, -, hcutoff'⟩
      rw [← Int32.not_le, epochDay_le_iff hcutoff hcutoff', not_le]
      exact cutoffDate_lt _ (UInt32.lt_iff_toNat_lt.1 hlt)

/-- The dates in the range. -/
abbrev CalendarDate := { d : Date // InRange d.year }

/-- A date, if it is in the range. -/
def CalendarDate.ofDate (d : Date) : Option CalendarDate :=
  if h : InRange d.year then some ⟨d, h⟩ else none

/-- The functions of the crate on these dates. -/
def calendarChrono : ChronoCrate CalendarDate where
  year d := Int32.ofInt d.1.year
  withYear d y := (d.1.inYear y.toInt).bind CalendarDate.ofDate
  fromYmdOpt y m d := (Date.ofYmd y.toInt m.toNat d.toNat).bind CalendarDate.ofDate
  numDaysFromCe d := Int32.ofInt d.1.dayNumber

theorem map_ofDate (o : Option Date) (y : Int) (h : ∀ d, o = some d → d.year = y) :
    (o.bind CalendarDate.ofDate).map Subtype.val = if InRange y then o else none := by
  cases o with
  | none =>
    split <;> rfl
  | some d =>
    rw [← h d rfl, Option.bind_some]
    unfold CalendarDate.ofDate
    split <;> rfl

theorem calendarChrono_gregorian : Gregorian calendarChrono Subtype.val where
  year d := by
    have hrange : InRange d.1.year := d.2
    obtain ⟨hlow, hhigh⟩ := hrange
    unfold minYear at hlow
    unfold maxYear at hhigh
    exact (tryI32_eq_some_iff _ _).1 (if_pos (by omega))
  inRange d := d.2
  withYear d y := map_ofDate _ _ fun e he => (Date.inYear_eq_some he).1
  fromYmdOpt y m d := map_ofDate _ _ fun e he => Date.ofYmd_year he
  numDaysFromCe d := by
    obtain ⟨hlow, hhigh⟩ := dayNumber_bounds d.2
    exact (tryI32_eq_some_iff _ _).1 (if_pos (by omega))

/-- 29 February 2024. -/
def leapDay : CalendarDate :=
  ⟨{ year := 2024, month := 2, day := 29, month_pos := by decide, month_le := by decide,
     day_pos := by decide, day_le := by decide }, by decide⟩

/-- On a leap day, for an age of 17: there is a cutoff, whoever was born
    on 1 March 2007 is a day too young, and the cutoff for 18 is a year
    earlier. -/
theorem cutoff_on_leap_day :
    (∃ cutoff, calculateCutoffDays calendarChrono leapDay 17 = .ok cutoff) ∧
      (∃ dob, EpochDay 13573 dob ∧ (dob.year, dob.month, dob.day) = (2007, 3, 1) ∧
        (validateAge 13573 13572 false = true ↔
          CompletedYears dob leapDay.1 (17 : UInt32).toNat)) ∧
      (13207 : Int32) < 13572 := by
  have h17 : calculateCutoffDays calendarChrono leapDay 17 = .ok 13572 := by decide
  have h18 : calculateCutoffDays calendarChrono leapDay 18 = .ok 13207 := by decide
  obtain ⟨hexists, hcutoff⟩ :=
    cutoff_calendar_correct calendarChrono Subtype.val calendarChrono_gregorian leapDay 17
  obtain ⟨hage, hearlier⟩ := hcutoff 13572 h17
  refine ⟨hexists.2 ⟨by decide, by decide⟩, ⟨⟨2007, 3, 1, by decide, by decide, by decide,
    by decide⟩, rfl, rfl, hage 13573 _ rfl⟩, hearlier 18 13207 (by decide) h18⟩

/-! ## §5. The two directions -/

variable {Params : Type}

/-- The challenge with another direction. -/
def QrChallengePayload.directed (qr : QrChallengePayload) (direction : Option String) :
    QrChallengePayload := { qr with proofDirection := direction }

theorem underAge_directed (qr : QrChallengePayload) (direction : Option String) :
    (qr.directed direction).underAge = decide (direction = some "under_age") := rfl

/-- What the age check of a report says. -/
theorem preflightReport_ageOk {X : ProverCrates Params} {st : ProverState Params}
    {cred : CredentialV2} {qr : QrChallengePayload} {report : PreflightReport}
    (h : preflightReport X st cred qr = .ok report) :
    ∃ dobDays, cred.dobDays = some dobDays ∧
      report.ageOk = validateAge dobDays qr.cutoffDays qr.underAge := by
  obtain ⟨dobDays, -, -, -, hdob, -, -, -, -, -, -, hage, -⟩ := preflightReport_ok X st cred qr report h
  exact ⟨dobDays, hdob, hage⟩

/-- One direction at least accepts a birth day, and both the cutoff. -/
theorem validateAge_directions (dobDays cutoffDays : Int32) :
    (validateAge dobDays cutoffDays false = true ∨ validateAge dobDays cutoffDays true = true) ∧
      (validateAge dobDays cutoffDays false = true ∧ validateAge dobDays cutoffDays true = true ↔
        dobDays = cutoffDays) := by
  have hover : validateAge dobDays cutoffDays false = true ↔ dobDays ≤ cutoffDays :=
    decide_eq_true_iff
  have hunder : validateAge dobDays cutoffDays true = true ↔ cutoffDays ≤ dobDays :=
    decide_eq_true_iff
  rw [hover, hunder]
  exact ⟨Int32.le_total dobDays cutoffDays,
    fun h => Int32.le_antisymm h.1 h.2, fun h => ⟨Int32.le_of_eq h, Int32.le_of_eq h.symm⟩⟩

/-- Every birth day is a date. -/
theorem exists_epochDate (day : Int32) : ∃ d, EpochDay day d :=
  ⟨Date.ofDayNumber (day.toInt + unixEpochOffsetDays), (Date.dayNumber_ofDayNumber _).symm⟩

/-- **Who gets an under-age proof**: a birth day not before the cutoff of
    an age, so nobody who has completed these years, except on the day
    of the cutoff itself. -/
theorem under_age_request {X : ProverCrates Params} {thread : ProofThread}
    {st : ProverState Params} {now : UInt64} {cred : CredentialV2} {qr : QrChallengePayload}
    (hunder : qr.underAge = true) {C : ChronoCrate NaiveDate} {date : NaiveDate → Date}
    (h : Gregorian C date) {today : NaiveDate} {n : UInt32}
    (hcutoff : calculateCutoffDays C today n = .ok qr.cutoffDays)
    (hreq : ∃ req, buildVerifyRequest X thread st now cred qr = .ok req) :
    ∃ dobDays dob, cred.dobDays = some dobDays ∧ EpochDay dobDays dob ∧
      (CompletedYears dob (date today) n.toNat ↔ dobDays = qr.cutoffDays) := by
  obtain ⟨-, params, dobDays, rBits, rp, proof, hchecked, -⟩ :=
    (buildVerifyRequest_iff X thread st now cred qr).1 hreq
  obtain ⟨-, -, hday⟩ := (calculateCutoffDays_ok_iff h today n qr.cutoffDays).1 hcutoff
  obtain ⟨dob, hdob⟩ := exists_epochDate dobDays
  have hage := hchecked.age
  rw [hunder] at hage
  refine ⟨dobDays, dob, hchecked.hasDobDays, hdob, ?_⟩
  rw [← le_cutoffDate_iff, ← epochDay_le_iff hdob hday,
    ← (validateAge_directions dobDays qr.cutoffDays).2, and_iff_left hage]
  exact decide_eq_true_iff.symm

/-- **The directions overlap in one day.**  Of two challenges that differ
    in the direction only, the age check accepts a credential for one at
    least, and for both exactly if its birth day is the cutoff day.  With
    the cutoff of an age, an under-age proof is granted to no one who has
    completed these years but to those born on the cutoff day. -/
theorem directions_overlap (X : ProverCrates Params) (st : ProverState Params)
    (cred : CredentialV2) (qr : QrChallengePayload) (direction : Option String)
    (hdirection : direction ≠ some "under_age") :
    (∀ old young, preflightReport X st cred (qr.directed direction) = .ok old →
      preflightReport X st cred (qr.directed (some "under_age")) = .ok young →
      (old.ageOk = true ∨ young.ageOk = true) ∧
        (old.ageOk = true ∧ young.ageOk = true ↔ cred.dobDays = some qr.cutoffDays)) ∧
    ∀ (NaiveDate : Type) (C : ChronoCrate NaiveDate) (date : NaiveDate → Date) (today : NaiveDate)
      (n : UInt32), Gregorian C date → calculateCutoffDays C today n = .ok qr.cutoffDays →
      ∀ thread now req,
        buildVerifyRequest X thread st now cred (qr.directed (some "under_age")) = .ok req →
        ∃ dobDays dob, cred.dobDays = some dobDays ∧ EpochDay dobDays dob ∧
          (CompletedYears dob (date today) n.toNat ↔ dobDays = qr.cutoffDays) := by
  constructor
  · intro old young hover hunder
    obtain ⟨dobDays, hdob, hoverAge⟩ := preflightReport_ageOk hover
    obtain ⟨dobDays', hdob', hunderAge⟩ := preflightReport_ageOk hunder
    rw [hdob] at hdob'
    injection hdob' with hdob'
    rw [underAge_directed, decide_eq_false hdirection] at hoverAge
    rw [underAge_directed, decide_eq_true rfl, ← hdob'] at hunderAge
    rw [hoverAge, hunderAge, hdob, Option.some_inj]
    exact validateAge_directions dobDays qr.cutoffDays
  · intro NaiveDate C date today n h hcutoff thread now req hreq
    have hunder : (qr.directed (some "under_age")).underAge = true := by
      rw [underAge_directed]
      exact decide_eq_true rfl
    exact under_age_request hunder h hcutoff ⟨req, hreq⟩

/-- The credential of a holder born on 28 February 2006. -/
def bornInFebruary : CredentialV2 := { provableCredential with dobDays := some 13207 }

/-- A challenge with the cutoff of an age of 18 on the leap day. -/
def leapDayChallenge : QrChallengePayload := { sampleChallenge with cutoffDays := 13207 }

/-- The report of that challenge in a direction, for that holder. -/
def leapDayReport (direction : Option String) : Except ProverError PreflightReport :=
  preflightReport sampleProver loadedProver bornInFebruary (leapDayChallenge.directed direction)

/-- The request that is built for it. -/
def leapDayRequest : SubmitProofRequest :=
  submitRequest sampleCrates leapDayChallenge
    { cutoff := 13207, issuerVkBytes := zeroBytes 32, credNullifier := zeroBytes 32,
      proof := List.replicate 192 0 }

/-- The overlap at the leap day. -/
theorem directions_overlap_on_leap_day :
    (∀ old young, leapDayReport none = .ok old → leapDayReport (some "under_age") = .ok young →
      old.ageOk = true ∨ young.ageOk = true) ∧
    ∃ dobDays dob, bornInFebruary.dobDays = some dobDays ∧ EpochDay dobDays dob ∧
      (CompletedYears dob leapDay.1 18 ↔ dobDays = leapDayChallenge.cutoffDays) := by
  obtain ⟨hreports, hgranted⟩ := directions_overlap sampleProver loadedProver bornInFebruary
    leapDayChallenge none (by decide)
  refine ⟨fun old young hover hunder => (hreports old young hover hunder).1, ?_⟩
  exact hgranted CalendarDate calendarChrono Subtype.val leapDay 18 calendarChrono_gregorian
    (by decide) callerThread 2 leapDayRequest (by decide +kernel)

/-- **Both directions are accepted** of the holder who turned 18 the day
    before: the cutoff for 18 is the birth day, both reports say yes, and
    both requests are built. -/
theorem both_directions_accepted :
    calculateCutoffDays calendarChrono leapDay 18 = .ok leapDayChallenge.cutoffDays ∧
      (∃ dob, EpochDay 13207 dob ∧ (dob.year, dob.month, dob.day) = (2006, 2, 28) ∧
        CompletedYears dob leapDay.1 18) ∧
      (leapDayReport (some "over_age")).map PreflightReport.ageOk = .ok true ∧
      (leapDayReport (some "under_age")).map PreflightReport.ageOk = .ok true ∧
      buildVerifyRequest sampleProver callerThread loadedProver 2 bornInFebruary
        (leapDayChallenge.directed (some "over_age")) = .ok leapDayRequest ∧
      buildVerifyRequest sampleProver callerThread loadedProver 2 bornInFebruary
        (leapDayChallenge.directed (some "under_age")) = .ok leapDayRequest := by
  refine ⟨by decide, ⟨⟨2006, 2, 28, by decide, by decide, by decide, by decide⟩, rfl, rfl, ?_⟩,
    by decide +kernel, by decide +kernel, by decide +kernel, by decide +kernel⟩
  unfold CompletedYears
  rw [Date.le_iff]
  decide

end ProviiSdk.Core
