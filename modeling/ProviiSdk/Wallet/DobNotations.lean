/-
  ProviiSdk.Wallet.DobNotations — a birth day in two notations.

  The commitment entry point takes a birth day as an ISO date or as days
  since the epoch, and tells them apart by a dash.  The numeral of a day
  before the epoch has one too, in front.

  Main results:
    * `parseDob_iso` — the ISO text of a day count is read as it.
    * `parseDob_numeral_iff` — the numeral of one is, from the epoch on.
    * `dob_notations_agree_iff` — when the entry point accepts both.
-/

import ProviiSdk.Core.BirthDates
import ProviiSdk.Wallet.IssuanceRoundTrip

namespace ProviiSdk.Wallet

open ProviiSdk.Calendar ProviiSdk.Core ProviiSdk.Ffi ProviiSdk.Text

variable {NaiveDate : Type}

/-! ## §1. Reading a birth day -/

/-- **The ISO text of a day count** is read as that count. -/
theorem parseDob_iso {C : DateCrate NaiveDate} {date : NaiveDate → Date} (h : IsoDates C date)
    {days : Int32} {iso : String} (hiso : daysToIso C days = .ok iso) :
    parseDob C.epochDays iso = .ok days := by
  unfold parseDob
  rw [if_pos (dash_mem_daysToIso h hiso), parseDobIso_daysToIso h hiso]

/-- A day count from the epoch on is read from its numeral. -/
theorem parseDob_numeral (naiveDate : String → Except String Int) {days : Int32} (h : 0 ≤ days) :
    parseDob naiveDate (int32Text days) = .ok days := by
  have hpos : 0 ≤ days.toInt := Int32.le_iff_toInt_le.1 h
  have hlt : days.toInt.natAbs < 2147483648 := by
    have hhigh := days.toInt_lt
    omega
  have htext : (int32Text days).toList = decimal days.toInt.natAbs := by
    unfold int32Text
    rw [if_neg (by omega), String.toList_ofList]
  have hday : Int32.ofNat days.toInt.natAbs = days := by
    rw [← Int32.ofInt_eq_ofNat, Int.natAbs_of_nonneg hpos, Int32.ofInt_toInt]
  unfold parseDob
  rw [htext, if_neg (notMem_decimal _ '-' (by decide)), parseUnsigned_decimal _ _ hlt]
  simp only [hday]

/-- The numeral of a day before the epoch is taken for an ISO date, and
    refused as one. -/
theorem parseDob_negative {C : DateCrate NaiveDate} {date : NaiveDate → Date} (h : IsoDates C date)
    {days : Int32} (hneg : days < 0) :
    ∃ msg, parseDob C.epochDays (int32Text days) = .error (.invalidFormat msg) := by
  have hlt : days.toInt < 0 := Int32.lt_iff_toInt_lt.1 hneg
  obtain ⟨e, he⟩ := parseDobIso_of_numeral h days.toInt.natAbs
  have htext : int32Text days = String.ofList ('-' :: decimal days.toInt.natAbs) := by
    unfold int32Text
    rw [if_pos hlt]
  have hdash : '-' ∈ (int32Text days).toList := by
    rw [htext, String.toList_ofList]
    exact List.mem_cons_self
  unfold parseDob
  rw [if_pos hdash, htext, he]
  exact ⟨_, rfl⟩

/-- **The numeral of a day count** is read as that count from the epoch
    on, and not before. -/
theorem parseDob_numeral_iff {C : DateCrate NaiveDate} {date : NaiveDate → Date}
    (h : IsoDates C date) (days : Int32) :
    parseDob C.epochDays (int32Text days) = .ok days ↔ 0 ≤ days := by
  constructor
  · intro hok
    by_contra hneg
    obtain ⟨msg, hmsg⟩ := parseDob_negative h (Int32.not_le.1 hneg)
    rw [hmsg] at hok
    cases hok
  · exact parseDob_numeral C.epochDays

/-! ## §2. The entry point -/

/-- The entry point accepts a text as a day count: whatever blinding bits
    are drawn, the response has the count in `dob_days`. -/
def AcceptedAs (X : Crates) (naiveDate : String → Except String Int) (days : Int32)
    (text : String) : Prop :=
  ∀ rBits : List Bool, rBits.length = rBitsLen →
    ∃ response, sdkIssueComputeCommitment X naiveDate rBits text = .ok response ∧
      response.get "dob_days" = some (.num (int32Text days))

/-- Where commitments succeed, a text is accepted as what it is read as. -/
theorem acceptedAs_iff (X : Crates) (naiveDate : String → Except String Int) (days : Int32)
    (hcommit : ∀ rBits : List Bool, rBits.length = rBitsLen →
      ∃ c, X.pedersenCommitDobValidated days rBits = .ok c) (text : String) :
    AcceptedAs X naiveDate days text ↔ parseDob naiveDate text = .ok days := by
  constructor
  · intro haccepted
    obtain ⟨response, hresp, hdays⟩ :=
      haccepted (List.replicate rBitsLen false) (List.length_replicate ..)
    unfold sdkIssueComputeCommitment computeCommitment at hresp
    cases hdob : parseDob naiveDate text with
    | error e =>
      rw [hdob] at hresp
      cases hresp
    | ok parsed =>
      rw [hdob] at hresp
      simp only at hresp
      cases hcom : X.pedersenCommitDobValidated parsed (List.replicate rBitsLen false) with
      | error e =>
        rw [hcom] at hresp
        cases hresp
      | ok c =>
        rw [hcom] at hresp
        injection hresp with hresp
        rw [← hresp] at hdays
        -- the response has the numeral of the day that was read
        injection hdays with hdays
        injection hdays with hdays
        have hsame : parsed = days := int32Text_injective _ _ hdays
        rw [hsame]
  · intro hdob rBits hlen
    obtain ⟨c, hc⟩ := hcommit rBits hlen
    unfold sdkIssueComputeCommitment computeCommitment
    rw [hdob]
    simp only [hc]
    exact ⟨_, rfl, rfl⟩

/-- **When both notations are accepted**: for a day count that is a date,
    exactly from the epoch on.  The ISO text is accepted always. -/
theorem dob_notations_agree_iff (X : Crates) (C : DateCrate NaiveDate) (date : NaiveDate → Date)
    (h : IsoDates C date) (days : Int32) (iso : String) (hiso : daysToIso C days = .ok iso)
    (hcommit : ∀ rBits : List Bool, rBits.length = rBitsLen →
      ∃ c, X.pedersenCommitDobValidated days rBits = .ok c) :
    (AcceptedAs X C.epochDays days (int32Text days) ∧ AcceptedAs X C.epochDays days iso ↔
      0 ≤ days) ∧
    AcceptedAs X C.epochDays days iso := by
  have hisoAccepted : AcceptedAs X C.epochDays days iso :=
    (acceptedAs_iff X C.epochDays days hcommit iso).2 (parseDob_iso h hiso)
  refine ⟨?_, hisoAccepted⟩
  rw [and_iff_left hisoAccepted, acceptedAs_iff X C.epochDays days hcommit,
    parseDob_numeral_iff h]

theorem dob_notations_agree_on_day_19000 :
    (AcceptedAs sampleCrates calendarDates.epochDays 19000 (int32Text 19000) ∧
        AcceptedAs sampleCrates calendarDates.epochDays 19000 "2022-01-08" ↔ (0 : Int32) ≤ 19000) ∧
      AcceptedAs sampleCrates calendarDates.epochDays 19000 "2022-01-08" :=
  dob_notations_agree_iff sampleCrates calendarDates Subtype.val calendarDates_isoDates 19000
    "2022-01-08" (by decide +kernel) fun _ _ => ⟨_, rfl⟩

/-- **The day before the epoch** is accepted as 1969-12-31 and refused as
    -1. -/
theorem day_before_epoch_refused :
    daysToIso calendarDates (-1) = .ok "1969-12-31" ∧ int32Text (-1) = "-1" ∧
      (∀ rBits, ∃ c, sampleCrates.pedersenCommitDobValidated (-1) rBits = .ok c) ∧
      AcceptedAs sampleCrates calendarDates.epochDays (-1) "1969-12-31" ∧
      ¬ AcceptedAs sampleCrates calendarDates.epochDays (-1) "-1" := by
  have hiso : daysToIso calendarDates (-1) = .ok "1969-12-31" := by decide +kernel
  have htext : int32Text (-1) = "-1" := by decide +kernel
  have hcommit : ∀ rBits : List Bool, rBits.length = rBitsLen →
      ∃ c, sampleCrates.pedersenCommitDobValidated (-1) rBits = .ok c := fun _ _ => ⟨_, rfl⟩
  refine ⟨hiso, htext, fun _ => ⟨_, rfl⟩, ?_, ?_⟩
  · rw [acceptedAs_iff sampleCrates _ _ hcommit]
    exact parseDob_iso calendarDates_isoDates hiso
  · rw [acceptedAs_iff sampleCrates _ _ hcommit, ← htext,
      parseDob_numeral_iff calendarDates_isoDates]
    decide

end ProviiSdk.Wallet
