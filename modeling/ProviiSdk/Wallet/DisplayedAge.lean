/-
  ProviiSdk.Wallet.DisplayedAge — the age shown for a birth date.

  The wallet shows an age for a birth date without a credential: the days
  lived, divided by 365.  The leap days among them are counted as days
  of further years, so the age shown runs ahead of the completed years,
  by one at most for a long time.

  Main results:
    * `shownYears_bounds` — the days lived over 365, against them.
    * `displayed_age_close` — the age shown.
-/

import ProviiSdk.Core.BirthDates
import ProviiSdk.Ffi.Types

namespace ProviiSdk.Wallet

open ProviiSdk.Calendar ProviiSdk.Core ProviiSdk.Ffi

variable {NaiveDate : Type}

/-! ## §1. The age shown -/

/-- `u32::try_from`. -/
def tryU32 (i : Int) : Option UInt32 :=
  if 0 ≤ i ∧ i ≤ 4294967295 then some (UInt32.ofNat i.toNat) else none

/-- The approximate age of a birth date, today. -/
def calculateAgeFromDob (C : DateCrate NaiveDate) (today : NaiveDate) (dobIso : String) :
    Except FfiError UInt32 :=
  match C.parseFromStr dobIso with
  | .error e => .error (.invalidFormat e)
  | .ok dob =>
    let days := C.daysSince today dob
    -- a birth date to come has age zero
    match tryU32 (max days 0 / 365) with
    | some age => .ok age
    | none => .error (.invalidFormat "age out of representable range")

/-! ## §2. Days and years -/

/-- **The days lived over 365** are the completed years, or one more, up
    to a thousand years. -/
theorem shownYears_bounds {dob today : Date} (h : dob ≤ today)
    (hmax : dob.yearsBetween today ≤ 1000) :
    (dob.yearsBetween today : Int) ≤ (today.dayNumber - dob.dayNumber) / 365 ∧
      (today.dayNumber - dob.dayNumber) / 365 ≤ dob.yearsBetween today + 1 := by
  generalize hn : dob.yearsBetween today = n at hmax ⊢
  -- the last birthday, and the one to come
  have hlast : (dob.anniversary (dob.year + n)).dayNumber ≤ today.dayNumber := by
    rw [Date.dayNumber_le_iff, ← Date.le_yearsBetween_iff h, hn]
  have hnext : today.dayNumber < (dob.anniversary (dob.year + (n + 1 : Nat))).dayNumber := by
    by_contra hnot
    have hdone := (Date.dayNumber_le_iff _ _).1 (Int.not_lt.1 hnot)
    rw [← Date.le_yearsBetween_iff h, hn] at hdone
    omega
  have hlow := dob.anniversary_ge n
  have hhigh := dob.anniversary_le (n + 1)
  omega

/-! ## §3. The age against the calendar -/

/-- What a number of years in range is shown as. -/
theorem tryU32_ok {i : Int} (h : 0 ≤ i ∧ i ≤ 4294967295) :
    ∃ age, tryU32 i = some age ∧ (age.toNat : Int) = i := by
  unfold tryU32
  rw [if_pos h]
  refine ⟨_, rfl, ?_⟩
  rw [UInt32.toNat_ofNat']
  omega

/-- **The age shown** is the completed years of a birth date or one more,
    up to a thousand years, and zero for a birth date to come. -/
theorem displayed_age_close (C : DateCrate NaiveDate) (date : NaiveDate → Date)
    (h : IsoDates C date) (today : NaiveDate) (dobIso : String) (dob : NaiveDate)
    (hparse : C.parseFromStr dobIso = .ok dob) :
    (date dob ≤ date today → (date dob).yearsBetween (date today) ≤ 1000 →
      ∃ age, calculateAgeFromDob C today dobIso = .ok age ∧
        (date dob).yearsBetween (date today) ≤ age.toNat ∧
        age.toNat ≤ (date dob).yearsBetween (date today) + 1) ∧
    (date today < date dob → calculateAgeFromDob C today dobIso = .ok 0) := by
  unfold calculateAgeFromDob
  rw [hparse]
  simp only [h.daysSince]
  constructor
  · intro hle hmax
    obtain ⟨hlow, hhigh⟩ := shownYears_bounds hle hmax
    have hdays := (Date.dayNumber_le_iff _ _).2 hle
    have hfits : 0 ≤ ((date today).dayNumber - (date dob).dayNumber) / 365 ∧
        ((date today).dayNumber - (date dob).dayNumber) / 365 ≤ 4294967295 := by
      omega
    obtain ⟨age, hage, hvalue⟩ := tryU32_ok hfits
    rw [Int.max_eq_left (by omega), hage]
    exact ⟨age, rfl, by omega, by omega⟩
  · intro hlt
    have hdays := Date.dayNumber_lt hlt
    rw [Int.max_eq_right (by omega)]
    rfl

/-- A birth date on a leap day, and a day eighteen years later. -/
def leapBirthday : CalendarDate :=
  ((Date.ofYmd 2004 2 29).bind CalendarDate.ofDate).getD epochDate

def eighteenLater : CalendarDate :=
  ((Date.ofYmd 2022 2 25).bind CalendarDate.ofDate).getD epochDate

theorem displayed_age_close_on_leap_birthday :
    (leapBirthday.1 ≤ eighteenLater.1 → leapBirthday.1.yearsBetween eighteenLater.1 ≤ 1000 →
      ∃ age, calculateAgeFromDob calendarDates eighteenLater "2004-02-29" = .ok age ∧
        leapBirthday.1.yearsBetween eighteenLater.1 ≤ age.toNat ∧
        age.toNat ≤ leapBirthday.1.yearsBetween eighteenLater.1 + 1) ∧
    (eighteenLater.1 < leapBirthday.1 →
      calculateAgeFromDob calendarDates eighteenLater "2004-02-29" = .ok 0) :=
  displayed_age_close calendarDates Subtype.val calendarDates_isoDates eighteenLater "2004-02-29"
    leapBirthday (by decide +kernel)

-- four days before the eighteenth birthday the age shown is 18 already
example : calculateAgeFromDob calendarDates eighteenLater "2004-02-29" = .ok 18 ∧
    leapBirthday.1.yearsBetween eighteenLater.1 = 17 := by decide +kernel

end ProviiSdk.Wallet
