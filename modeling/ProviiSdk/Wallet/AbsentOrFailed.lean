/-
  ProviiSdk.Wallet.AbsentOrFailed — an absent record or a failed read.

  Three lookups answer `Ok(None)` for a key that does not exist and an
  error for a read that failed: `get_credential`,
  `load_credential_secrets` and `load_anchor_from_storage`.  All three
  tell the two apart by looking for the text "NotFound" in the rendered
  error.  This file states what each lookup should do for any answer of
  the backend, and for which errors the text test does it.

  Main results:
    * `mentionsNotFound_iff` — the errors that the text test accepts.
    * `readOptional_tells_iff` — a read with the text test distinguishes
      absent from failed exactly when the backend's error is legible.
    * `lookups_tell_absent_iff` — the same of the three lookups, over any
      backend.
    * `lookups_confuse_absent` — two errors that they get wrong.
-/

import ProviiSdk.Lib.Check
import ProviiSdk.Core.Sample
import ProviiSdk.Wallet.Credentials

namespace ProviiSdk.Wallet

open ProviiSdk.Core ProviiSdk.Platform ProviiSdk.Ffi

/-! ## §1. What a lookup should do -/

/-- A backend's report that a key does not exist: the trait's `NotFound`,
    or the storage error that the platform backends return instead. -/
def ReportsAbsent (e : Platform.WalletError) : Prop := e = .notFound ∨ e = .storage "NotFound"

/-- A lookup tells absent from failed: given the backend's answer it
    returns `Ok(None)` for a report of absence and for nothing else, and
    an error for every other failure. -/
structure TellsAbsent {ε α : Type} (answer : Except Platform.WalletError Bytes)
    (result : Except ε (Option α)) : Prop where
  absent : result = .ok none ↔ ∃ e, answer = .error e ∧ ReportsAbsent e
  failed : ∀ e, answer = .error e → ¬ ReportsAbsent e → ∃ err, result = .error err

/-! ## §2. What the text test does -/

/-- The text an error carries, for the two kinds that carry one. -/
def payload : Platform.WalletError → Option String
  | .storage msg => some msg
  | .biometricFailed msg => some msg
  | _ => none

/-- **The text test, exactly**: it accepts an error if and only if the
    text the error carries contains "NotFound".  No kind of error gets it
    from its own words, the trait's `NotFound` included. -/
theorem mentionsNotFound_iff (e : Platform.WalletError) :
    mentionsNotFound e = true ↔ ∃ msg, payload e = some msg ∧ "NotFound".toList <:+: msg.toList := by
  have hplain : ∀ e : Platform.WalletError, payload e = none → mentionsNotFound e = false →
      (mentionsNotFound e = true ↔
        ∃ msg, payload e = some msg ∧ "NotFound".toList <:+: msg.toList) := by
    intro e hnone hfalse
    rw [hnone, hfalse]
    refine iff_of_false (by decide) ?_
    rintro ⟨msg, h, -⟩
    cases h
  -- the words before a payload have no capital N
  have hbehind : ∀ (e : Platform.WalletError) (front msg : String), 'N' ∉ front.toList →
      e.display = front ++ msg → payload e = some msg →
      (mentionsNotFound e = true ↔
        ∃ msg, payload e = some msg ∧ "NotFound".toList <:+: msg.toList) := by
    intro e front msg hfront hdisplay hpayload
    have htext : mentionsNotFound e = true ↔ "NotFound".toList <:+: msg.toList := by
      unfold mentionsNotFound
      rw [decide_eq_true_iff, hdisplay, String.toList_append]
      exact Text.infix_append_iff_of_head_notMem 'N' "otFound".toList front.toList msg.toList hfront
    rw [htext, hpayload]
    constructor
    · intro h
      exact ⟨msg, rfl, h⟩
    · rintro ⟨msg', h, hin⟩
      injection h with h
      rw [h]
      exact hin
  cases e with
  | storage msg => exact hbehind _ "Storage error: " msg (by decide) rfl rfl
  | biometricFailed msg =>
    exact hbehind _ "Biometric authentication failed: " msg (by decide) rfl rfl
  | notFound => exact hplain _ rfl (by decide)
  | alreadyExists => exact hplain _ rfl (by decide)
  | notSupported => exact hplain _ rfl (by decide)
  | biometricRequired => exact hplain _ rfl (by decide)

/-- An error that the text test classifies rightly: it is not the trait's
    `NotFound`, and it carries "NotFound" only as the whole text of the
    platform backends' report. -/
def Legible (e : Platform.WalletError) : Prop :=
  e ≠ .notFound ∧
    ∀ msg, payload e = some msg → "NotFound".toList <:+: msg.toList → e = .storage "NotFound"

/-- The text test accepts an error exactly when it reports absence if and
    only if the error is legible. -/
theorem mentionsNotFound_reports_iff (e : Platform.WalletError) :
    (mentionsNotFound e = true ↔ ReportsAbsent e) ↔ Legible e := by
  rw [mentionsNotFound_iff]
  constructor
  · intro h
    have hne : e ≠ .notFound := by
      rintro rfl
      obtain ⟨msg, hmsg, -⟩ := h.mpr (Or.inl rfl)
      cases hmsg
    refine ⟨hne, fun msg hmsg hin => ?_⟩
    exact (h.mp ⟨msg, hmsg, hin⟩).resolve_left hne
  · rintro ⟨hne, honly⟩
    constructor
    · rintro ⟨msg, hmsg, hin⟩
      exact Or.inr (honly msg hmsg hin)
    · intro h
      rcases h with h | h
      · exact absurd h hne
      · refine ⟨"NotFound", ?_, List.infix_refl _⟩
        rw [h]
        rfl

/-! ## §3. The three lookups -/

/-- A read that recognises an absent key by the text test: found bytes are
    parsed, and any other error is passed on. -/
def readOptional {ε α : Type} (parse : Bytes → Except ε α) (fail : Platform.WalletError → ε) :
    Except Platform.WalletError Bytes → Except ε (Option α)
  | .ok data => (parse data).map some
  | .error e => if mentionsNotFound e then .ok none else .error (fail e)

theorem readOptional_of_mentions {ε α : Type} (parse : Bytes → Except ε α)
    (fail : Platform.WalletError → ε) {e : Platform.WalletError} (h : mentionsNotFound e = true) :
    readOptional parse fail (.error e) = .ok none := if_pos h

theorem readOptional_of_not_mentions {ε α : Type} (parse : Bytes → Except ε α)
    (fail : Platform.WalletError → ε) {e : Platform.WalletError} (h : ¬ mentionsNotFound e = true) :
    readOptional parse fail (.error e) = .error (fail e) := if_neg h

/-- An answer of the backend whose error, if it is one, is legible. -/
def LegibleAnswer (answer : Except Platform.WalletError Bytes) : Prop :=
  ∀ e, answer = .error e → Legible e

/-- **A read with the text test, exactly**: it tells absent from failed if
    and only if the backend's answer is legible. -/
theorem readOptional_tells_iff {ε α : Type} (parse : Bytes → Except ε α)
    (fail : Platform.WalletError → ε) (answer : Except Platform.WalletError Bytes) :
    TellsAbsent answer (readOptional parse fail answer) ↔ LegibleAnswer answer := by
  cases answer with
  | ok data =>
    have hsome : readOptional parse fail (.ok data) ≠ .ok none := by
      show (parse data).map some ≠ .ok none
      intro h
      cases hparse : parse data with
      | ok a =>
        rw [hparse] at h
        cases h
      | error err =>
        rw [hparse] at h
        cases h
    refine iff_of_true ⟨iff_of_false hsome ?_, fun e h => ?_⟩ fun e h => ?_
    · rintro ⟨e, h, -⟩
      cases h
    · cases h
    · cases h
  | error e =>
    have hnone : readOptional parse fail (.error e) = .ok none ↔ mentionsNotFound e = true := by
      by_cases h : mentionsNotFound e = true
      · exact iff_of_true (readOptional_of_mentions parse fail h) h
      · rw [readOptional_of_not_mentions parse fail h]
        refine iff_of_false ?_ h
        intro hok
        cases hok
    have hreports : (∃ e', (Except.error e : Except _ Bytes) = .error e' ∧ ReportsAbsent e') ↔
        ReportsAbsent e := by
      constructor
      · rintro ⟨e', h, habsent⟩
        injection h with h
        exact h ▸ habsent
      · intro h
        exact ⟨e, rfl, h⟩
    constructor
    · rintro ⟨habsent, -⟩ e' h
      injection h with h
      subst h
      rw [hnone, hreports] at habsent
      exact (mentionsNotFound_reports_iff e).mp habsent
    · intro hlegible
      have hexact := (mentionsNotFound_reports_iff e).mpr (hlegible e rfl)
      refine ⟨?_, fun e' h hnot => ?_⟩
      · rw [hnone, hreports]
        exact hexact
      · injection h with h
        subst h
        exact ⟨fail e, readOptional_of_not_mentions parse fail fun h => hnot (hexact.mp h)⟩

/-- `get_credential` is such a read of the credential's key. -/
theorem getCredential_eq_readOptional (X : Crates) (f : Faults) (id : Key) (kv : Kv) :
    getCredential X f id kv =
      readOptional
        (fun data => Check.okOr ((decodeStored data).map (·.credential))
          ("Failed to parse credential: " ++ X.postcardError data))
        (fun e => "Failed to retrieve credential: " ++ e.display) (retrieve f kv id) := by
  unfold getCredential readOptional
  cases retrieve f kv id with
  | error e => rfl
  | ok data =>
    cases hdecode : decodeStored data with
    | none => simp only [hdecode]; rfl
    | some stored => simp only [hdecode]; rfl

/-- `load_credential_secrets` is such a read of the secrets key. -/
theorem loadCredentialSecrets_eq_readOptional (X : Crates) (f : Faults) (id : Key) (kv : Kv) :
    loadCredentialSecrets X f id kv =
      readOptional
        (fun data => Check.okOr (decodeSecrets data)
          ("Failed to parse secrets: " ++ X.postcardError data))
        (fun e => "Failed to retrieve secrets: " ++ e.display) (retrieve f kv (secretsKeyOf id)) := by
  unfold loadCredentialSecrets readOptional
  cases retrieve f kv (secretsKeyOf id) with
  | error e => rfl
  | ok data =>
    cases hdecode : decodeSecrets data with
    | none => simp only [hdecode]; rfl
    | some secrets => simp only [hdecode]; rfl

/-- `load_anchor_from_storage` is such a read of the anchor's key. -/
theorem loadAnchorFromStorage_eq_readOptional (X : Crates) (f : Faults) (kv : Kv) :
    loadAnchorFromStorage X f ⟨some kv⟩ =
      readOptional
        (fun data => (X.parseAnchor data).mapError fun e =>
          FfiError.invalidFormat ("failed to parse persisted trust anchor: " ++ e))
        (fun e => .storage e.display) (retrieve f kv trustAnchorStorageKey) := by
  unfold loadAnchorFromStorage readOptional
  simp only
  cases retrieve f kv trustAnchorStorageKey with
  | error e => rfl
  | ok data =>
    cases hparse : X.parseAnchor data with
    | error e => simp only [hparse]; rfl
    | ok anchor => simp only [hparse]; rfl

/-- The backends considered are all there are: whatever a `retrieve` may
    answer for a key, one of them answers it. -/
theorem exists_retrieve_eq (key : Key) (answer : Except Platform.WalletError Bytes) :
    ∃ f kv, retrieve f kv key = answer := by
  cases answer with
  | error e =>
    exact ⟨{ Faults.never with retrieve := fun _ => some e }, ∅, rfl⟩
  | ok data =>
    exact ⟨Faults.never, (∅ : Kv).insert key ⟨data, .none⟩,
      retrieve_healthy Faults.never_healthy (AList.lookup_insert _)⟩

/-- **Absent or failed, exactly.**  Over any backend, whatever it answers:
    each of the three lookups returns `Ok(None)` for a report of absence
    and for nothing else, and an error for every other failure, if and
    only if the error its `retrieve` meets, if it meets one, is legible. -/
theorem lookups_tell_absent_iff (X : Crates) (f : Faults) (kv : Kv) (id : Key) :
    (TellsAbsent (retrieve f kv id) (getCredential X f id kv) ↔
        LegibleAnswer (retrieve f kv id)) ∧
      (TellsAbsent (retrieve f kv (secretsKeyOf id)) (loadCredentialSecrets X f id kv) ↔
        LegibleAnswer (retrieve f kv (secretsKeyOf id))) ∧
      (TellsAbsent (retrieve f kv trustAnchorStorageKey) (loadAnchorFromStorage X f ⟨some kv⟩) ↔
        LegibleAnswer (retrieve f kv trustAnchorStorageKey)) := by
  refine ⟨?_, ?_, ?_⟩
  · rw [getCredential_eq_readOptional]
    exact readOptional_tells_iff _ _ _
  · rw [loadCredentialSecrets_eq_readOptional]
    exact readOptional_tells_iff _ _ _
  · rw [loadAnchorFromStorage_eq_readOptional]
    exact readOptional_tells_iff _ _ _

/-- The error the Android backend makes of a Java exception whose class
    name contains "NotFound". -/
def jniFileNotFound : Platform.WalletError :=
  .storage "JNI exception: java.io.FileNotFoundException: keystore"

/-- **Both ways wrong.**  An empty backend that keeps the trait's contract
    reports `NotFound`, and every lookup returns an error; a backend whose
    read fails with a Java exception that is no report of absence makes
    every lookup return `Ok(None)`. -/
theorem lookups_confuse_absent :
    (ReportsAbsent .notFound ∧
      getCredential sampleCrates Faults.never [] ∅ =
        .error "Failed to retrieve credential: Not found" ∧
      loadCredentialSecrets sampleCrates Faults.never [] ∅ =
        .error "Failed to retrieve secrets: Not found" ∧
      loadAnchorFromStorage sampleCrates Faults.never ⟨some ∅⟩ = .error (.storage "Not found")) ∧
    (¬ ReportsAbsent jniFileNotFound ∧
      getCredential sampleCrates
        { Faults.never with retrieve := fun _ => some jniFileNotFound } [] ∅ = .ok none ∧
      loadCredentialSecrets sampleCrates
        { Faults.never with retrieve := fun _ => some jniFileNotFound } [] ∅ = .ok none ∧
      loadAnchorFromStorage sampleCrates
        { Faults.never with retrieve := fun _ => some jniFileNotFound } ⟨some ∅⟩ = .ok none) ∧
    ¬ ∀ (X : Crates) (f : Faults) (kv : Kv) (id : Key),
      TellsAbsent (retrieve f kv id) (getCredential X f id kv) ∧
        TellsAbsent (retrieve f kv (secretsKeyOf id)) (loadCredentialSecrets X f id kv) ∧
        TellsAbsent (retrieve f kv trustAnchorStorageKey)
          (loadAnchorFromStorage X f ⟨some kv⟩) := by
  have hnot : ¬ mentionsNotFound .notFound = true := by decide
  have hjni : mentionsNotFound jniFileNotFound = true := by decide +kernel
  have hnotAbsent : ¬ ReportsAbsent jniFileNotFound := by
    unfold ReportsAbsent
    decide
  have hget : getCredential sampleCrates
      { Faults.never with retrieve := fun _ => some jniFileNotFound } [] ∅ = .ok none := by
    rw [getCredential_eq_readOptional]
    exact readOptional_of_mentions _ _ hjni
  refine ⟨⟨Or.inl rfl, ?_, ?_, ?_⟩, ⟨hnotAbsent, hget, ?_, ?_⟩, fun hall => ?_⟩
  · rw [getCredential_eq_readOptional]
    exact readOptional_of_not_mentions _ _ hnot
  · rw [loadCredentialSecrets_eq_readOptional]
    exact readOptional_of_not_mentions _ _ hnot
  · rw [loadAnchorFromStorage_eq_readOptional]
    exact readOptional_of_not_mentions _ _ hnot
  · rw [loadCredentialSecrets_eq_readOptional]
    exact readOptional_of_mentions _ _ hjni
  · rw [loadAnchorFromStorage_eq_readOptional]
    exact readOptional_of_mentions _ _ hjni
  · -- the failed read must not look like an absent credential
    have htells := (hall sampleCrates
      { Faults.never with retrieve := fun _ => some jniFileNotFound } ∅ []).1
    obtain ⟨e, he, habsent⟩ := htells.absent.mp hget
    injection he with he
    exact hnotAbsent (he ▸ habsent)

end ProviiSdk.Wallet
