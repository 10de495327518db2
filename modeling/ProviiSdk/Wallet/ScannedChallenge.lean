/-
  ProviiSdk.Wallet.ScannedChallenge — the challenge a minimal code is for.

  A minimal code names a challenge by its id, and the remaining fields
  are fetched from the verifier.  The id goes into the URL and is then
  forgotten: the wallet goes on with the id that stands in the answer.

  Main results:
    * `parse_minimal_ok_iff` — what a minimal code is parsed to.
    * `boundTo_iff` — when the session that is started is the one of the
      challenge that was scanned.
-/

import ProviiSdk.Wallet.DeeplinkAgreement
import ProviiSdk.Wallet.MinimalFetch

namespace ProviiSdk.Wallet

open ProviiSdk.Core ProviiSdk.Ffi ProviiSdk.Check ProviiSdk.Text
open ProviiSdk.BoundedCache (size makeRoom lookup_offer_some offer_taken_iff)

/-! ## §1. The property -/

/-- A code is minimal, and names a challenge. -/
structure MinimalScan (X : DocumentCrates) (qrContent scanned : String) : Prop where
  minimal : decodePayload X qrContent = .error minimalChallenge
  named : extractChallengeIdFromQr X qrContent = .ok scanned

/-- **The property** of a call, by what it answers and what it leaves
    behind: no challenge but the scanned one is answered, cached or
    started. -/
structure BoundTo (scanned : String) (before : Session) (after : Except FfiError String × Session) :
    Prop where
  answered : ∀ id, after.1 = .ok id → id = scanned
  cached : ∀ k e, after.2.cachedChallenges.lookup k = some e →
    k = scanned ∨ before.cachedChallenges.lookup k = some e
  started : after.2.stateManager = before.stateManager ∨
    after.2.stateManager = before.stateManager.startVerification scanned

/-- The condition for it, on the verifier: if it is asked, and answers
    with a valid challenge, and the cache has room for that, then the
    challenge has the scanned id. -/
def AnswersScanned (X : DocumentCrates) (net : Network) (config : WalletConfig)
    (clock : CachingClock) (scanned : String) (before : Session) : Prop :=
  ∀ json challenge, UuidForm scanned → net.fetch (detailsUrl config scanned) = .ok json →
    X.fromStr "QrChallengePayload" QrChallengePayload.ofDocument json = .ok challenge →
    ValidFields X challenge →
    size (makeRoom maxCachedChallenges (live clock.nowForEvict) before.cachedChallenges) <
      maxCachedChallenges →
    challenge.challengeId = scanned

/-! ## §2. What a minimal code is parsed to -/

/-- **What a minimal code is parsed to**: whatever valid challenge the
    verifier answers with. -/
theorem parse_minimal_ok_iff {X : DocumentCrates} {qrContent scanned : String}
    (h : MinimalScan X qrContent scanned) (net : Network) (config : WalletConfig)
    (challenge : QrChallengePayload) :
    parseQrPayloadInternal X net config qrContent = .ok challenge ↔
      UuidForm scanned ∧ ∃ json, net.fetch (detailsUrl config scanned) = .ok json ∧
        X.fromStr "QrChallengePayload" QrChallengePayload.ofDocument json = .ok challenge ∧
        ValidFields X challenge := by
  rw [parseQrPayloadInternal_of_minimal net config h.minimal, ← validateChallengeIdFormat_ok_iff]
  unfold fetchMinimalChallenge detailsUrl
  rw [h.named, ok_bind]
  simp only [bind_eq_ok_iff, readChallenge_ok_iff]
  constructor
  · rintro ⟨u, huuid, json, hfetch, hread, hvalid⟩
    exact ⟨huuid, json, hfetch, hread, hvalid⟩
  · rintro ⟨huuid, json, hfetch, hread, hvalid⟩
    exact ⟨(), huuid, json, hfetch, hread, hvalid⟩

/-! ## §3. When the session is the scanned one's -/

/-- A call that fails has started nothing. -/
theorem boundTo_error (scanned : String) (before : Session) (e : FfiError) :
    BoundTo scanned before (.error e, before) := by
  refine ⟨fun id h => ?_, fun k e hk => Or.inr hk, Or.inl rfl⟩
  cases h

/-- Caching a challenge is bound to an id exactly if it is the
    challenge's, or the cache has no room. -/
theorem boundTo_cacheChallenge_iff (clock : CachingClock) (challenge : QrChallengePayload)
    (scanned : String) (before : Session) :
    BoundTo scanned before (cacheChallenge clock challenge before) ↔
      (size (makeRoom maxCachedChallenges (live clock.nowForEvict) before.cachedChallenges) <
        maxCachedChallenges → challenge.challengeId = scanned) := by
  rw [← offer_taken_iff _ _ challenge.challengeId (entryOf clock.now challenge), cacheChallenge_eq]
  constructor
  · intro h htaken
    refine h.answered challenge.challengeId ?_
    simp only [htaken, if_true]
  · intro hid
    constructor
    · intro id hok
      simp only at hok
      split at hok
      next htaken =>
        injection hok with hok
        rw [← hok]
        exact hid htaken
      next => cases hok
    · intro k e hk
      rcases lookup_offer_some hk with ⟨htaken, hkey, -⟩ | ⟨hold, -⟩
      · exact Or.inl (hkey.trans (hid htaken))
      · exact Or.inr hold
    · simp only
      split
      next htaken => exact Or.inr (by rw [hid htaken])
      next => exact Or.inl rfl

/-- **When the session is that of the scanned challenge**: exactly when
    the verifier answers with that challenge. -/
theorem boundTo_iff (X : DocumentCrates) (net : Network) (config : WalletConfig)
    (clock : CachingClock) (qrContent scanned : String) (before : Session)
    (hscan : MinimalScan X qrContent scanned) :
    BoundTo scanned before (processQrChallenge X net config clock qrContent before) ↔
      AnswersScanned X net config clock scanned before := by
  have hparse := parse_minimal_ok_iff hscan net config
  unfold processQrChallenge cacheRead
  cases hread : parseQrPayloadInternal X net config qrContent with
  | error e =>
    refine iff_of_true (boundTo_error scanned before e) ?_
    intro json challenge huuid hfetch hjson hvalid
    have hok := (hparse challenge).2 ⟨huuid, json, hfetch, hjson, hvalid⟩
    rw [hread] at hok
    cases hok
  | ok challenge =>
    simp only [boundTo_cacheChallenge_iff]
    constructor
    · intro hid json challenge' huuid hfetch hjson hvalid hroom
      have hok := (hparse challenge').2 ⟨huuid, json, hfetch, hjson, hvalid⟩
      rw [hread] at hok
      injection hok with hok
      rw [← hok]
      exact hid hroom
    · intro hanswers
      obtain ⟨huuid, json, hfetch, hjson, hvalid⟩ := (hparse challenge).1 hread
      exact hanswers json challenge huuid hfetch hjson hvalid

/-- The id in a minimal code, the code, and crates that know it and an
    answer to it. -/
def scannedId : String := "3f0e8c52-8a51-4c0e-9a4e-0d7f3f1b2c3d"

def minimalCode : String := flatText (.obj [("challenge_id", .str scannedId)])

def scanCrates (answer : QrChallengePayload) : DocumentCrates :=
  (sampleWallet [.obj [("challenge_id", .str scannedId)], answer.toDocument]
    [(answer.verifyUrl, briefVerifyUrl)]).toDocumentCrates

/-- A verifier with one answer to every GET. -/
def answering (answer : QrChallengePayload) : Network where
  tokioRt := .ok ()
  getWithTimeout _ _ := .ok (flatText answer.toDocument)
  postJson _ _ := .error (.network "unreachable")

def scanClock : CachingClock := { now := sampleTime, nowForEvict := sampleTime }

/-- The answer of an honest verifier. -/
def scannedChallenge : QrChallengePayload := { briefChallenge with challengeId := scannedId }

theorem boundTo_iff_honest :
    MinimalScan (scanCrates scannedChallenge) minimalCode scannedId ∧
      (BoundTo scannedId .new
          (processQrChallenge (scanCrates scannedChallenge) (answering scannedChallenge) sampleConfig
            scanClock minimalCode .new) ↔
        AnswersScanned (scanCrates scannedChallenge) (answering scannedChallenge) sampleConfig
          scanClock scannedId .new) := by
  have hscan : MinimalScan (scanCrates scannedChallenge) minimalCode scannedId :=
    ⟨by decide +kernel, by decide +kernel⟩
  exact ⟨hscan, boundTo_iff _ _ _ _ _ _ _ hscan⟩

/-- **Another challenge is answered for the scanned one**: the verifier
    answers with one that has an id of its own, and the wallet starts a
    session for that. -/
theorem other_challenge_started :
    (processQrChallenge (scanCrates briefChallenge) (answering briefChallenge) sampleConfig scanClock
        minimalCode .new).1 = .ok "c" ∧
      ¬ ∀ (X : DocumentCrates) (net : Network) (config : WalletConfig) (clock : CachingClock)
        (qrContent scanned : String) (before : Session), MinimalScan X qrContent scanned →
        BoundTo scanned before (processQrChallenge X net config clock qrContent before) := by
  have hscan : MinimalScan (scanCrates briefChallenge) minimalCode scannedId :=
    ⟨by decide +kernel, by decide +kernel⟩
  have hparse : parseQrPayloadInternal (scanCrates briefChallenge) (answering briefChallenge)
      sampleConfig minimalCode = .ok briefChallenge := by decide +kernel
  have hok := processQrChallenge_of_room hparse scanClock .new (by decide)
  refine ⟨hok, fun hall => ?_⟩
  have hsame := (hall _ _ _ _ _ _ .new hscan).answered _ hok
  exact absurd hsame (by decide)

end ProviiSdk.Wallet
