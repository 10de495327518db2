/-
  ProviiSdk.Wallet.AgeProof — proof requests of the wallet.

  The methods that take a challenge from the cache: building a proof for
  a chosen credential, choosing the credential, listing the credentials
  that could prove, and submitting the proof.  Each backend read has
  outcomes of its own, and each look at the clock a reading of its own.

  Main results:
    * `ageProofRequest_ok_iff` — when a request is built.
    * `finishProof_ok_iff` — when a proof is returned.
-/

import ProviiSdk.Ffi.Storage
import ProviiSdk.Wallet.Session

namespace ProviiSdk.Wallet

open ProviiSdk.Core ProviiSdk.Platform ProviiSdk.Ffi ProviiSdk.Check ProviiSdk.BoundedCache

/-! ## §1. What the methods run on -/

/-- The answer of a verifier to a proof. -/
structure VerifyResponse where
  result : String
  state : String

/-- The external functions of the proof methods. -/
structure WalletCrates (Params : Type) extends ProverCrates Params, DocumentCrates where
  submitRequestJson : SubmitProofRequest → Except String String
  parseSubmitRequest : String → Except String SubmitProofRequest
  parseVerifyResponse : String → Except String VerifyResponse
  -- the `Debug` text
  proverErrorDebug : ProverError → String

/-- The surroundings of one proof: the store, the outcomes of its two
    reads, the clock when the credential and when the challenge is
    checked, the prover and the calling thread. -/
structure ProofEnv (Params : Type) where
  storage : Storage
  get : Faults
  load : Faults
  now : Int
  buildNow : Int
  prover : ProverState Params
  thread : ProofThread

/-- The surroundings of a look at all credentials: the store, its
    outcomes and clock, and the outcome of reading each one's secrets. -/
structure ListEnv where
  storage : Storage
  list : Faults
  clock : Key → Int64
  load : Key → Faults

variable {Params : Type}

/-! ## §2. Building a proof -/

/-- The error for a challenge that is not cached. -/
def challengeNotFound (challengeId : String) : FfiError :=
  .invalidFormat ("Challenge not found: " ++ challengeId)

/-- The credential with its private fields, from the store. -/
def credentialWithSecrets (X : WalletCrates Params) (env : ProofEnv Params) (credentialId : Key) :
    Except FfiError CredentialV2 := do
  let found ← (env.storage.read (getCredential X.toCrates env.get credentialId)).mapError .generic
  let cred ← okOr found .credentialNotFound
  if cred.dobDays.isNone || cred.rBits.isNone then do
    let loaded ← (env.storage.read (loadCredentialSecrets X.toCrates env.load credentialId)).mapError
      .generic
    let secrets ← okOr loaded
      (.invalidFormat ("Credential missing secrets: " ++ String.ofList credentialId))
    return { cred with dobDays := some secrets.dobDays, rBits := some secrets.rBits }
  else return cred

/-- The request for a cached challenge.  The cached entry's own expiry is
    not looked at. -/
def ageProofRequest (X : WalletCrates Params) (env : ProofEnv Params) (credentialId : Key)
    (challengeId : String) (cached : Cache String CachedChallenge) :
    Except FfiError SubmitProofRequest := do
  let challenge ← okOr (cached.lookup challengeId) (challengeNotFound challengeId)
  let cred ← credentialWithSecrets X env credentialId
  require (¬ cred.exp < unixSecs env.now) .credentialExpired
  (buildVerifyRequest X.toProverCrates env.thread env.prover (unixSecs env.buildNow) cred
    challenge.payload).mapError fun e =>
      .prover ("Proof generation failed: " ++ X.proverErrorDebug e)

/-- Set the status of a built request and write it out.  The status moves
    on even if the writing fails. -/
def finishProof (X : WalletCrates Params) (challengeId : String)
    (request : Except FfiError SubmitProofRequest) (s : Session) :
    Except FfiError String × Session :=
  match request with
  | .error e => (.error e, s)
  | .ok request =>
    ((X.submitRequestJson request).mapError .generic,
      { s with
        stateManager := s.stateManager.updateVerificationStatus challengeId .proofGenerated })

/-- Generate an age proof. -/
def createAgeProof (X : WalletCrates Params) (env : ProofEnv Params) (credentialId : Key)
    (challengeId : String) (s : Session) : Except FfiError String × Session :=
  finishProof X challengeId (ageProofRequest X env credentialId challengeId s.cachedChallenges) s

/-- **When a request is built**: the challenge is cached, the credential
    loads and has not expired, and the core crate builds the request. -/
theorem ageProofRequest_ok_iff (X : WalletCrates Params) (env : ProofEnv Params)
    (credentialId : Key) (challengeId : String) (cached : Cache String CachedChallenge)
    (request : SubmitProofRequest) :
    ageProofRequest X env credentialId challengeId cached = .ok request ↔
      ∃ challenge cred, cached.lookup challengeId = some challenge ∧
        credentialWithSecrets X env credentialId = .ok cred ∧ ¬ cred.exp < unixSecs env.now ∧
        buildVerifyRequest X.toProverCrates env.thread env.prover (unixSecs env.buildNow) cred
          challenge.payload = .ok request := by
  unfold ageProofRequest
  simp only [bind_eq_ok_iff, okOr_eq_ok_iff, require_eq_ok_iff, mapError_eq_ok_iff, exists_const,
    exists_and_left]

/-- **When a proof is returned**: its request is built and can be written. -/
theorem finishProof_ok_iff (X : WalletCrates Params) (challengeId : String)
    (request : Except FfiError SubmitProofRequest) (s : Session) (json : String) :
    (finishProof X challengeId request s).1 = .ok json ↔
      ∃ r, request = .ok r ∧ X.submitRequestJson r = .ok json := by
  unfold finishProof
  cases request with
  | error e => simp
  | ok r => simp

/-! ## §3. Choosing a credential -/

/-- Can a credential satisfy a challenge? -/
structure CredentialSuitability where
  id : Key
  nickname : Option String
  credentialType : String
  canSatisfy : Bool
  failureReason : Option String
  deriving DecidableEq

/-- The verdict on a credential, and why not. -/
def suitabilityVerdict (X : Crates) (env : ListEnv) (challenge : QrChallengePayload)
    (c : CredentialInfo) : Bool × Option String :=
  if c.isExpired then (false, some "Credential expired")
  else
    match env.storage.read (loadCredentialSecrets X (env.load c.id) c.id) with
    | .ok (some secrets) =>
      if validateAge secrets.dobDays challenge.cutoffDays challenge.underAge then (true, none)
      else (false, some "Does not meet age threshold")
    | _ => (false, some "Credential secrets unavailable")

def suitability (X : Crates) (env : ListEnv) (challenge : QrChallengePayload)
    (c : CredentialInfo) : CredentialSuitability :=
  let verdict := suitabilityVerdict X env challenge c
  { id := c.id, nickname := c.nickname, credentialType := c.credentialType,
    canSatisfy := verdict.1, failureReason := verdict.2 }

/-- Is the configured environment the sandbox? -/
def isSandbox (config : WalletConfig) : Bool := Text.eqIgnoreAsciiCase config.environment "sandbox"

/-- Does an id belong to the configured environment? -/
def inEnvironment (config : WalletConfig) (id : Key) : Bool :=
  decide (sandboxMarker <:+: id) == isSandbox config

/-- The credentials of the environment that can prove. -/
def provableCredentials (env : ListEnv) (config : WalletConfig) :
    Except FfiError (List CredentialInfo) := do
  let credentials ← (env.storage.read (listCredentials env.list env.clock)).mapError .storage
  return credentials.filter fun c => inEnvironment config c.id && c.canProve

/-- The credentials that could prove a challenge. -/
def getProvableCredentialsForChallenge (X : Crates) (env : ListEnv) (config : WalletConfig)
    (challengeId : String) (s : Session) : Except FfiError (List CredentialSuitability) := do
  let challenge ← okOr (s.cachedChallenges.lookup challengeId) (challengeNotFound challengeId)
  let credentials ← provableCredentials env config
  return credentials.map (suitability X env challenge.payload)

/-- One entry of the list the host chooses from. -/
def choiceDocument (c : CredentialSuitability) : Json :=
  .obj
    [("can_satisfy", .bool c.canSatisfy), ("credential_type", .str c.credentialType),
      ("failure_reason", .ofOption .str c.failureReason), ("id", .str (String.ofList c.id)),
      ("nickname", .ofOption .str c.nickname)]

/-- The answer that asks the host to choose. -/
def selectionRequired (X : DocumentCrates) (choices : List CredentialSuitability) : FfiError :=
  .generic (X.valueText (.obj
    [("code", .str "CREDENTIAL_SELECTION_REQUIRED"),
      ("credentials", .arr (choices.map choiceDocument))]))

/-- The credential an automatic proof uses: the only one there is. -/
def autoCredential (X : WalletCrates Params) (env : ListEnv) (config : WalletConfig)
    (challengeId : String) (s : Session) : Except FfiError Key := do
  let challenge ← okOr (s.cachedChallenges.lookup challengeId) (challengeNotFound challengeId)
  match ← provableCredentials env config with
  | [] => .error (.generic "No credential stored. Please import a credential first.")
  | [cred] => .ok cred.id
  | credentials =>
    .error (selectionRequired X.toDocumentCrates
      (credentials.map (suitability X.toCrates env challenge.payload)))

/-- Choose the credential and generate an age proof. -/
def createAgeProofAuto (X : WalletCrates Params) (listEnv : ListEnv) (env : ProofEnv Params)
    (config : WalletConfig) (challengeId : String) (s : Session) :
    Except FfiError String × Session :=
  match autoCredential X listEnv config challengeId s with
  | .error e => (.error e, s)
  | .ok credentialId => createAgeProof X env credentialId challengeId s

/-! ## §4. Submitting a proof -/

/-- What the verifier says about a proof: the challenge the proof is for,
    and whether it was accepted. -/
def submission (X : WalletCrates Params) (net : Network) (config : WalletConfig)
    (proofJson : String) : Except FfiError (String × Bool) := do
  net.tokioRt
  let proof ← (X.parseSubmitRequest proofJson).mapError .invalidFormat
  let body ← net.postJson (config.verifierApiUrl ++ "/v1/verify") proofJson
  let response ← (X.parseVerifyResponse body).mapError .invalidFormat
  return (proof.challengeId, decide (response.result = "OK"))

/-- Submit a proof.  The challenge id is the one the proof names. -/
def submitProof (X : WalletCrates Params) (net : Network) (config : WalletConfig)
    (proofJson : String) (s : Session) : Except FfiError Bool × Session :=
  match submission X net config proofJson with
  | .error e => (.error e, s)
  | .ok (challengeId, success) =>
    (.ok success,
      { s with stateManager := s.stateManager.completeVerification challengeId success })

end ProviiSdk.Wallet
