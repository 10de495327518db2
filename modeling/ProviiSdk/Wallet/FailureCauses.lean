/-
  ProviiSdk.Wallet.FailureCauses — what the host learns about a failure.

  The host chooses its recovery flow by the variant of an FFI error.  An
  error of the core's prover can reach it by three routes besides its own
  conversion: as the text of a failed proof, through anyhow, and through
  the core's wallet error.  This file says which causes survive which
  route.

  Main results:
    * `createAgeProof_variant`, `sdkBuildVerifyRequest_variant`,
      `walletError_variant` — the variant at the end of each route.
    * `failure_causes_survive_iff` — which causes survive.
-/

import ProviiSdk.Wallet.ProverSetup
import ProviiSdk.Wallet.Suitability

namespace ProviiSdk.Wallet

open ProviiSdk.Core ProviiSdk.Ffi ProviiSdk.Check ProviiSdk.BoundedCache

variable {Params : Type}

/-! ## §1. Variants and conversions -/

/-- The variants of an FFI error. -/
inductive FfiVariant where
  | invalidFormat
  | storage
  | network
  | prover
  | operationInProgress
  | operationCancelled
  | notInitialized
  | ageRequirementNotMet
  | biometricNotAuthenticated
  | retryBudgetExceeded
  | requestTimeout
  | credentialNotFound
  | credentialExpired
  | securityViolation
  | generic
  deriving DecidableEq

def ffiVariant : FfiError → FfiVariant
  | .invalidFormat _ => .invalidFormat
  | .storage _ => .storage
  | .network _ => .network
  | .prover _ => .prover
  | .operationInProgress => .operationInProgress
  | .operationCancelled => .operationCancelled
  | .notInitialized => .notInitialized
  | .ageRequirementNotMet => .ageRequirementNotMet
  | .biometricNotAuthenticated => .biometricNotAuthenticated
  | .retryBudgetExceeded _ => .retryBudgetExceeded
  | .requestTimeout _ => .requestTimeout
  | .credentialNotFound => .credentialNotFound
  | .credentialExpired => .credentialExpired
  | .securityViolation _ => .securityViolation
  | .generic _ => .generic

/-- `From<anyhow::Error>`, on the text of the root cause. -/
def ffiOfAnyhow (rootCause : String) : FfiError := .generic rootCause

/-- `From<WalletError>`. -/
def ffiOfWalletError : WalletError → FfiError
  | .storageError msg => .storage msg
  | .storageFull => .storage "storage full"
  | .networkError msg => .network msg
  | .requestTimeout => .network "request timeout"
  | .proverError msg => .prover msg
  | .proverNotInitialized => .prover "prover not initialised"
  | .proofGenerationFailed msg => .prover msg
  | .invalidInput msg => .invalidFormat msg
  | .validationFailed msg => .invalidFormat msg
  | .serializationError msg => .invalidFormat msg
  | .base64Error msg => .invalidFormat msg
  | .invalidCredentialFormat => .invalidFormat "invalid credential format"
  | .invalidSignature => .invalidFormat "invalid signature"
  | .credentialError msg => .invalidFormat msg
  | .credentialNotFound => .credentialNotFound
  | .credentialExpired => .credentialExpired
  | .underAge => .ageRequirementNotMet
  | .securityError msg => .securityViolation msg
  | .operationFailed msg => .generic msg
  | .unknown msg => .generic msg

/-- `From<ProverError>`. -/
def ffiOfProverError : ProverError → FfiError
  | .ageRequirementNotMet => .ageRequirementNotMet
  | .notInitialized => .prover "prover not initialised"
  | .alreadyInitialized => .prover "prover already initialised"
  | .invalidProvingKey => .prover "invalid proving key"
  | .invalidBase64 msg => .invalidFormat msg
  | .invalidInput msg => .invalidFormat msg
  | .missingPrivateFields =>
    .invalidFormat "credential missing private fields required for proving"
  | .proofGenerationFailed msg => .prover msg
  | .vkIdMismatch loaded expected =>
    .prover s!"verifying key mismatch: loaded {loaded.toNat}, expected {expected.toNat}"
  | .credentialExpired => .credentialExpired
  | .challengeExpired => .prover "challenge has expired"

/-- `From<ProverError>` for the core's wallet error. -/
def walletOfProverError (e : ProverError) : WalletError := .proverError (proverErrorDisplay e)

/-- The variant of a prover error. -/
def causeVariant (e : ProverError) : FfiVariant := ffiVariant (ffiOfProverError e)

/-! ## §2. The exported function -/

/-- Read credential and challenge, build the request and write it; an
    error is the text of its root cause. -/
def verifyBuildRequest (X : WalletCrates Params) (thread : ProofThread) (st : ProverState Params)
    (now : UInt64) (credentialJson qrPayloadJson : String) : Except String String := do
  let cred ← X.parseCredential credentialJson
  let qr ← X.fromStr "QrChallengePayload" QrChallengePayload.ofDocument qrPayloadJson
  qr.validateFieldLengths X.toDocumentCrates
  let req ← (buildVerifyRequest X.toProverCrates thread st now cred qr).mapError proverErrorDisplay
  X.submitRequestJson req

def sdkBuildVerifyRequest (X : WalletCrates Params) (thread : ProofThread) (st : ProverState Params)
    (now : UInt64) (credentialJson qrPayloadJson : String) : Except FfiError String :=
  (verifyBuildRequest X thread st now credentialJson qrPayloadJson).mapError ffiOfAnyhow

/-- The error of the core crate with which the exported function ends. -/
def SdkCoreFails (X : WalletCrates Params) (thread : ProofThread) (st : ProverState Params)
    (now : UInt64) (credentialJson qrPayloadJson : String) (e : ProverError) : Prop :=
  ∃ cred qr, X.parseCredential credentialJson = .ok cred ∧
    X.fromStr "QrChallengePayload" QrChallengePayload.ofDocument qrPayloadJson = .ok qr ∧
    qr.validateFieldLengths X.toDocumentCrates = .ok () ∧
    buildVerifyRequest X.toProverCrates thread st now cred qr = .error e

/-! ## §3. The ends of the routes -/

/-- A call fails with a variant. -/
def FailsAs {α : Type} (v : FfiVariant) (x : Except FfiError α) : Prop :=
  FailsWith (fun e => ffiVariant e = v) x

theorem failsAs_error_iff {α : Type} (v : FfiVariant) (e : FfiError) :
    FailsAs v (.error e : Except FfiError α) ↔ ffiVariant e = v := by
  constructor
  · rintro ⟨e', he, hv⟩
    injection he with he
    rw [he]
    exact hv
  · intro hv
    exact ⟨e, rfl, hv⟩

/-- The errors that tell about the prover, not about the credential, the
    holder's age or the input. -/
def TellsOfProver : ProverError → Prop
  | .notInitialized => True
  | .alreadyInitialized => True
  | .invalidProvingKey => True
  | .proofGenerationFailed _ => True
  | .vkIdMismatch _ _ => True
  | .challengeExpired => True
  | _ => False

/-- These are the prover errors of the FFI. -/
theorem causeVariant_prover_iff (e : ProverError) :
    FfiVariant.prover = causeVariant e ↔ TellsOfProver e := by
  cases e with
  | notInitialized | alreadyInitialized | invalidProvingKey | proofGenerationFailed
  | vkIdMismatch | challengeExpired => exact iff_of_true rfl trivial
  | invalidBase64 | invalidInput | missingPrivateFields | ageRequirementNotMet
  | credentialExpired =>
    refine iff_of_false ?_ id
    intro h
    cases h

/-- No cause is generic. -/
theorem causeVariant_ne_generic (e : ProverError) : FfiVariant.generic ≠ causeVariant e := by
  intro h
  cases e <;> cases h

/-- **A failed proof** is a prover error whatever its cause. -/
theorem createAgeProof_variant {X : WalletCrates Params} {env : ProofEnv Params} {id : Platform.Key}
    {challengeId : String} {s : Session} {e : ProverError}
    (h : CoreFails X env id challengeId s e) (v : FfiVariant) :
    FailsAs v (createAgeProof X env id challengeId s).1 ↔ .prover = v := by
  obtain ⟨challenge, cred, hcached, hcred, hexp, hbuild⟩ := h
  have hrequest : ageProofRequest X env id challengeId s.cachedChallenges =
      .error (.prover ("Proof generation failed: " ++ X.proverErrorDebug e)) := by
    unfold ageProofRequest
    rw [hcached, okOr_some, ok_bind, hcred, ok_bind, require_pos hexp, ok_bind, hbuild,
      mapError_error]
  unfold createAgeProof
  rw [hrequest]
  exact failsAs_error_iff v _

/-- **The exported function** ends with a generic error whatever its
    cause. -/
theorem sdkBuildVerifyRequest_variant {X : WalletCrates Params} {thread : ProofThread}
    {st : ProverState Params} {now : UInt64} {credentialJson qrPayloadJson : String}
    {e : ProverError} (h : SdkCoreFails X thread st now credentialJson qrPayloadJson e)
    (v : FfiVariant) :
    FailsAs v (sdkBuildVerifyRequest X thread st now credentialJson qrPayloadJson) ↔
      .generic = v := by
  obtain ⟨cred, qr, hcred, hqr, hfields, hbuild⟩ := h
  unfold sdkBuildVerifyRequest verifyBuildRequest
  rw [hcred, ok_bind, hqr, ok_bind, hfields, ok_bind, hbuild, mapError_error, error_bind,
    mapError_error]
  exact failsAs_error_iff v _

/-- **The core's wallet error** is a prover error whatever its cause. -/
theorem walletError_variant (e : ProverError) :
    ffiVariant (ffiOfWalletError (walletOfProverError e)) = .prover := rfl

/-! ## §4. Which causes survive -/

/-- The cause survives every route it can take. -/
structure CausesSurvive (X : WalletCrates Params) : Prop where
  proof : ∀ env id challengeId s e, CoreFails X env id challengeId s e →
    FailsAs (causeVariant e) (createAgeProof X env id challengeId s).1
  exported : ∀ thread st now credentialJson qrPayloadJson e,
    SdkCoreFails X thread st now credentialJson qrPayloadJson e →
    FailsAs (causeVariant e) (sdkBuildVerifyRequest X thread st now credentialJson qrPayloadJson)
  wallet : ∀ e, ffiVariant (ffiOfWalletError (walletOfProverError e)) = causeVariant e

/-- **Which causes survive**: not all.  A failed proof and the core's
    wallet error keep the causes that tell of the prover and no others,
    and the exported function keeps none. -/
theorem failure_causes_survive_iff (X : WalletCrates Params) :
    ¬ CausesSurvive X ∧
    (∀ env id challengeId s e, CoreFails X env id challengeId s e →
      (FailsAs (causeVariant e) (createAgeProof X env id challengeId s).1 ↔ TellsOfProver e)) ∧
    (∀ thread st now credentialJson qrPayloadJson e,
      SdkCoreFails X thread st now credentialJson qrPayloadJson e →
      ¬ FailsAs (causeVariant e)
        (sdkBuildVerifyRequest X thread st now credentialJson qrPayloadJson)) ∧
    ∀ e, ffiVariant (ffiOfWalletError (walletOfProverError e)) = causeVariant e ↔
      TellsOfProver e := by
  refine ⟨?_, ?_, ?_, ?_⟩
  · intro h
    cases h.wallet .ageRequirementNotMet
  · intro env id challengeId s e h
    rw [createAgeProof_variant h, causeVariant_prover_iff]
  · intro thread st now credentialJson qrPayloadJson e h
    rw [sdkBuildVerifyRequest_variant h]
    exact causeVariant_ne_generic e
  · intro e
    rw [walletError_variant, causeVariant_prover_iff]

/-- The sample challenge in the other direction, for which the holder is
    too young, and a session that has it cached. -/
def overAgeChallenge : QrChallengePayload :=
  { openChallenge with proofDirection := some "over_age" }

def overAgeSession : Session :=
  { Session.new with
    cachedChallenges :=
      (∅ : Cache String CachedChallenge).insert overAgeChallenge.challengeId
        (entryOf sampleTime overAgeChallenge) }

/-- Crates that read a credential from any text, and name one error. -/
def readingCrates : WalletCrates Unit :=
  { sampleCratesOf with
    parseCredential := fun _ => .ok openCredential
    proverErrorDebug := fun _ => "AgeRequirementNotMet" }

/-- A prover that has not been initialised. -/
def emptyProver : ProverState Unit :=
  { provingParams := none, provingKeyFp := none, loadedVkId := none }

/-- A holder who is too young is told that the prover failed, and that the
    prover is missing is told as a generic error. -/
theorem underage_told_as_prover_failure :
    (createAgeProof readingCrates (proofEnvAt sampleTime) openCredentialId
        overAgeChallenge.challengeId overAgeSession).1 =
          .error (.prover "Proof generation failed: AgeRequirementNotMet") ∧
      ffiOfProverError .ageRequirementNotMet = .ageRequirementNotMet ∧
      SdkCoreFails readingCrates callerThread emptyProver 1700000000 "" openChallengeJson
        .notInitialized ∧
      sdkBuildVerifyRequest readingCrates callerThread emptyProver 1700000000 ""
        openChallengeJson =
          .error (.generic "prover not initialised; call init_prover_with_pk_bytes first") ∧
      ¬ CausesSurvive readingCrates := by
  have hfails : CoreFails readingCrates (proofEnvAt sampleTime) openCredentialId
      overAgeChallenge.challengeId overAgeSession .ageRequirementNotMet :=
    ⟨entryOf sampleTime overAgeChallenge, openCredential, by decide +kernel, by decide +kernel,
      by decide, by decide +kernel⟩
  refine ⟨by decide +kernel, rfl, ⟨openCredential, openChallenge, rfl, by decide +kernel,
    by decide +kernel, by decide +kernel⟩, by decide +kernel, fun hsurvive => ?_⟩
  have hproof := hsurvive.proof _ _ _ _ _ hfails
  rw [createAgeProof_variant hfails] at hproof
  cases hproof

end ProviiSdk.Wallet
