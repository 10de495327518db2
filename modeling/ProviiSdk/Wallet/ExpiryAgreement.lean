/-
  ProviiSdk.Wallet.ExpiryAgreement — two views of a challenge's expiry.

  A host may ask whether a code is valid before it has a proof made for
  it, and the prover looks at the expiry again.  The first look is at the
  JSON of the challenge and counts the second of the expiry in, the other
  is at the challenge and counts it out.

  Main results:
    * `validateQr_ok_true_iff` — until when a code is reported valid.
    * `valid_not_expired_iff` — when a challenge that is reported valid
      has not expired for the prover.
-/

import ProviiSdk.Core.Validity
import ProviiSdk.Wallet.Sample

namespace ProviiSdk.Wallet

open ProviiSdk.Core ProviiSdk.Ffi ProviiSdk.Check

variable {Params : Type}

/-! ## §1. The two views -/

/-- The clock of the first view: a signed number of seconds. -/
def timestampOf (t : Int) : Int := t / 1000000000

/-- Before the epoch both views count 0. -/
theorem unixSecs_eq (t : Int) : UInt64.ofNat (max (timestampOf t) 0).toNat = unixSecs t := by
  unfold timestampOf unixSecs
  congr 1
  omega

/-- **Until when a code is reported valid**: up to the last second. -/
theorem validateQr_ok_true_iff {X : DocumentCrates} {net : Network} {config : WalletConfig}
    {qrContent : String} {qr : QrChallengePayload} (isAlphanumeric : Char → Bool) (t : Int)
    (hparse : parseQrPayloadInternal X net config qrContent = .ok qr)
    (hjson : ∃ json, X.writeDocument qr.toDocument = .ok json ∧
      X.parseDocument json = .ok qr.toDocument) :
    validateQr X isAlphanumeric net config (timestampOf t) qrContent = .ok true ↔
      unixSecs t ≤ qr.expiresAt := by
  obtain ⟨json, hwrite, hread⟩ := hjson
  unfold validateQr
  rw [hparse, ok_bind, hwrite, mapError_ok, ok_bind,
    validateQrPayload_challenge hread isAlphanumeric, unixSecs_eq]
  simp only [Except.ok.injEq, decide_eq_true_eq]

/-! ## §2. They agree but for one second -/

/-- **The property** of a code at a time: if it is reported valid, the
    prover does not find its challenge expired. -/
def ValidNotExpired (X : WalletCrates Params) (isAlphanumeric : Char → Bool) (net : Network)
    (config : WalletConfig) (t : Int) (qrContent : String) (qr : QrChallengePayload)
    (thread : ProofThread) (st : ProverState Params) (cred : CredentialV2) : Prop :=
  validateQr X.toDocumentCrates isAlphanumeric net config (timestampOf t) qrContent = .ok true →
    buildVerifyRequest X.toProverCrates thread st (unixSecs t) cred qr ≠ .error .challengeExpired

/-- **When a valid challenge has not expired for the prover**: unless the
    time is in the second of the expiry, and the prover comes to that
    check. -/
theorem valid_not_expired_iff (X : WalletCrates Params) (isAlphanumeric : Char → Bool)
    (net : Network) (config : WalletConfig) (t : Int) (qrContent : String)
    (qr : QrChallengePayload) (thread : ProofThread) (st : ProverState Params) (cred : CredentialV2)
    (hparse : parseQrPayloadInternal X.toDocumentCrates net config qrContent = .ok qr)
    (hjson : ∃ json, X.toDocumentCrates.writeDocument qr.toDocument = .ok json ∧
      X.toDocumentCrates.parseDocument json = .ok qr.toDocument) :
    ValidNotExpired X isAlphanumeric net config t qrContent qr thread st cred ↔
      ¬ (qr.expiresAt = unixSecs t ∧ ReachesExpiry thread st (unixSecs t) cred qr) := by
  unfold ValidNotExpired
  rw [validateQr_ok_true_iff isAlphanumeric t hparse hjson, ne_eq,
    buildVerifyRequest_challengeExpired_iff]
  constructor
  · rintro hagree ⟨hsecond, hreaches⟩
    exact hagree (UInt64.le_of_eq hsecond.symm) ⟨hreaches, UInt64.le_of_eq hsecond⟩
  · rintro hnot hvalid ⟨hreaches, hexpired⟩
    exact hnot ⟨UInt64.le_antisymm hexpired hvalid, hreaches⟩

/-- A challenge with a short text is decoded from its JSON, and its JSON
    reads. -/
private theorem briefChallenge_parses :
    parseQrPayloadInternal briefCrates.toDocumentCrates challengeNetwork sampleConfig
        (flatText briefChallenge.toDocument) = .ok briefChallenge ∧
      ∃ json, briefCrates.toDocumentCrates.writeDocument briefChallenge.toDocument = .ok json ∧
        briefCrates.toDocumentCrates.parseDocument json = .ok briefChallenge.toDocument :=
  ⟨parseQrPayloadInternal_challenge challengeNetwork sampleConfig decodePayload_briefChallenge rfl
      briefCrates_parseDocument, flatText briefChallenge.toDocument, rfl, briefCrates_parseDocument⟩

/-- A prover for it. -/
def briefProver : ProverState Unit :=
  { loadedProver with loadedVkId := some briefChallenge.verifyingKeyId }

/-- The last nanosecond before the second in which it expires, and the
    first one in it. -/
def beforeExpiry : Int := 8999999999

def atExpiry : Int := 9000000000

/-- Before that second the challenge is valid and has not expired. -/
theorem valid_not_expired_before :
    ValidNotExpired briefCrates Char.isAlphanum challengeNetwork sampleConfig beforeExpiry
        (flatText briefChallenge.toDocument) briefChallenge callerThread briefProver openCredential ↔
      ¬ (briefChallenge.expiresAt = unixSecs beforeExpiry ∧
        ReachesExpiry callerThread briefProver (unixSecs beforeExpiry) openCredential
          briefChallenge) :=
  valid_not_expired_iff briefCrates Char.isAlphanum challengeNetwork sampleConfig beforeExpiry
    (flatText briefChallenge.toDocument) briefChallenge callerThread briefProver openCredential
    briefChallenge_parses.1 briefChallenge_parses.2

/-- **In the second of its expiry** the challenge is reported valid and
    has expired for the prover. -/
theorem valid_and_expired :
    validateQr briefCrates.toDocumentCrates Char.isAlphanum challengeNetwork sampleConfig
        (timestampOf atExpiry) (flatText briefChallenge.toDocument) = .ok true ∧
      buildVerifyRequest briefCrates.toProverCrates callerThread briefProver (unixSecs atExpiry)
        openCredential briefChallenge = .error .challengeExpired ∧
      ¬ ∀ (X : WalletCrates Unit) (isAlphanumeric : Char → Bool) (net : Network)
        (config : WalletConfig) (t : Int) (qrContent : String) (qr : QrChallengePayload)
        (thread : ProofThread) (st : ProverState Unit) (cred : CredentialV2),
        parseQrPayloadInternal X.toDocumentCrates net config qrContent = .ok qr →
        (∃ json, X.toDocumentCrates.writeDocument qr.toDocument = .ok json ∧
          X.toDocumentCrates.parseDocument json = .ok qr.toDocument) →
        ValidNotExpired X isAlphanumeric net config t qrContent qr thread st cred := by
  obtain ⟨hparse, hjson⟩ := briefChallenge_parses
  have hvalid : validateQr briefCrates.toDocumentCrates Char.isAlphanum challengeNetwork
      sampleConfig (timestampOf atExpiry) (flatText briefChallenge.toDocument) = .ok true := by
    rw [validateQr_ok_true_iff _ _ hparse hjson]
    decide
  have hexpired : buildVerifyRequest briefCrates.toProverCrates callerThread briefProver
      (unixSecs atExpiry) openCredential briefChallenge = .error .challengeExpired := by
    decide +kernel
  exact ⟨hvalid, hexpired, fun hall => hall _ _ _ _ _ _ _ _ _ _ hparse hjson hvalid hexpired⟩

end ProviiSdk.Wallet
