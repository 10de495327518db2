/-
  ProviiSdk.Core.Prover — building a verification request.

  The proving path of the core crate: the preflight report, the checks
  before the proof, the prover with its retry, and the request body that
  is submitted.  The loaded proving parameters, their key identifier and
  the clock are arguments; hashing, commitment, signature and the SNARK
  prover are functions of external crates.

  The prover may answer differently on its second attempt, so an attempt
  is numbered, and it may panic.

  Main results:
    * `preflightReport_ok` — what a preflight has checked and reports.
    * `buildVerifyRequest_sound` — what every request that is built has
      been checked for, and what it carries.
-/

import ProviiSdk.Core.Issuance
import ProviiSdk.Core.Sample
import ProviiSdk.Lib.Check
import ProviiSdk.Lib.Text

namespace ProviiSdk.Core

open ProviiSdk.Check ProviiSdk.Text

/-! ## §1. Challenge and request -/

/-- The challenge of a verifier. -/
structure QrChallengePayload where
  challengeId : String
  rpChallenge : String
  cutoffDays : Int32
  verifyingKeyId : UInt32
  submitSecret : String
  expiresAt : UInt64
  verifyUrl : String
  codeVerifier : Option String
  proofDirection : Option String
  deriving DecidableEq

structure IssuerKeyJson where
  value : String
  deriving DecidableEq

/-- The public values a proof is bound to. -/
structure AgePublicJson where
  cutoffDays : Int32
  rpChallenge : String
  issuer : IssuerKeyJson
  credNullifier : String
  deriving DecidableEq

structure AgeProofJson where
  verifyingKeyId : UInt32
  publicInputs : AgePublicJson
  proof : String
  deriving DecidableEq

/-- The body of a proof submission. -/
structure SubmitProofRequest where
  challengeId : String
  submitSecret : String
  codeVerifier : Option String
  proof : AgeProofJson
  deriving DecidableEq

/-- The error type of the prover. -/
inductive ProverError where
  | notInitialized
  | alreadyInitialized
  | invalidProvingKey
  | invalidBase64 (msg : String)
  | invalidInput (msg : String)
  | proofGenerationFailed (msg : String)
  | missingPrivateFields
  | vkIdMismatch (loaded expected : UInt32)
  | ageRequirementNotMet
  | credentialExpired
  | challengeExpired
  deriving DecidableEq

/-- Is a birth day old enough for the cutoff, or young enough in the
    under-age direction? -/
def validateAge (dobDays cutoffDays : Int32) (isUnderAge : Bool) : Bool :=
  if isUnderAge then decide (dobDays ≥ cutoffDays) else decide (dobDays ≤ cutoffDays)

/-! ## §2. The prover and its inputs -/

inductive AgeDirection where
  | over
  | under
  deriving DecidableEq

/-- The private input of a proof. -/
structure AgeWitness where
  dobDays : Int32
  rBits : List Bool
  issuerVkBytes : Bytes32
  sigRjBytes : List UInt8
  v : UInt8
  kid : List UInt8
  cBytes : Bytes32
  iat : UInt64
  exp : UInt64
  schema : List UInt8
  deriving DecidableEq

/-- A proof with the public values the prover returns beside it. -/
structure AgeSnarkProof where
  cutoff : Int32
  issuerVkBytes : Bytes32
  credNullifier : Bytes32
  proof : List UInt8

/-- How one attempt of the prover ends. -/
inductive ProveOutcome where
  | proved (proof : AgeSnarkProof)
  | failed (msg : String)
  | panicked

/-- The external functions of the proving path. -/
structure ProverCrates (Params : Type) extends Crates where
  blake2s : Bytes32 → Bytes32
  assemblePublicInputsCanonical :
    Bool → Int32 → Bytes32 → Bytes32 → Bytes32 → Except String (List Bytes32)
  -- the first argument is the number of the attempt
  proveAgeSnarkAuto :
    Nat → Params → Int32 → Bytes32 → AgeWitness → UInt32 → AgeDirection → ProveOutcome

/-- The process-wide state of the prover. -/
structure ProverState (Params : Type) where
  provingParams : Option Params
  provingKeyFp : Option String
  loadedVkId : Option UInt32

variable {Params : Type}

/-- The `URL_SAFE_NO_PAD` text of some bytes. -/
def Crates.encodeB64 (X : Crates) (bytes : List UInt8) : String :=
  String.ofList (X.b64.encode bytes)

/-- Decode a base64url text into exactly 32 bytes. -/
def decodeB64_32 (X : Crates) (s : String) : Except ProverError Bytes32 :=
  match X.b64.decode s.toList with
  | .error e => .error (.invalidBase64 e)
  | .ok raw =>
    if h : raw.length = 32 then .ok ⟨raw, h⟩
    else .error (.invalidBase64 s!"expected 32 bytes, got {raw.length}")

/-! ## §3. The preflight report -/

structure PreflightReport where
  dobDaysPresent : Bool
  rBitsLen : Nat
  cutoffDays : Int32
  cBytesHex : String
  recomputedCHex : String
  commitmentMatches : Bool
  ageOk : Bool
  issuerHashB64 : String
  credNullifierB64 : String
  provingKeyFp : Option String
  verifyingKeyId : UInt32
  loadedVkId : Option UInt32
  vkIdMatches : Bool
  publicInputsHex : List String
  deriving DecidableEq

/-- The message under a credential's signature. -/
def CredentialV2.credMsg (cred : CredentialV2) : CredMsgV2 :=
  { v := cred.v, kid := cred.kid, c := cred.cBytes, iat := cred.iat, exp := cred.exp,
    schema := cred.schema }

/-- The recomputed commitment and whether it is the credential's; a
    refused recomputation counts as a mismatch. -/
def recomputeCommitment (X : Crates) (cred : CredentialV2) (dobDays : Int32) (rBits : List Bool) :
    Bytes32 × Bool :=
  match X.pedersenCommitDobValidated dobDays rBits with
  | .ok c => (c, decide (c = cred.cBytes))
  | .error _ => (⟨List.replicate 32 0, List.length_replicate⟩, false)

/-- The check that `r_bits` has the committed length. -/
def checkRBitsLen (rBits : List Bool) : Except ProverError Unit :=
  require (rBits.length = rBitsLen)
    (.invalidInput s!"Invalid r_bits length: expected {rBitsLen}, got {rBits.length}")

/-- Check a credential against a challenge without proving anything. -/
def preflightReport (X : ProverCrates Params) (st : ProverState Params) (cred : CredentialV2)
    (qr : QrChallengePayload) : Except ProverError PreflightReport := do
  let dobDays ← okOr cred.dobDays .missingPrivateFields
  let rBits ← okOr cred.rBits .missingPrivateFields
  checkRBitsLen rBits
  let rpChallenge ← decodeB64_32 X.toCrates qr.rpChallenge
  (X.verifyCredV2 cred.credMsg cred.sigRj cred.issuerVk).mapError fun e =>
    .invalidInput ("RedJubjub signature verification failed: " ++ e.debug)
  let (recomputed, commitmentMatches) := recomputeCommitment X.toCrates cred dobDays rBits
  -- every other direction, and none, means over age
  let isUnderAge := decide (qr.proofDirection = some "under_age")
  let ageOk := validateAge dobDays qr.cutoffDays isUnderAge
  let nullifier := X.pedersenNullifier cred.cBytes
  let rpHash := X.blake2s rpChallenge
  let directionBool := decide (qr.proofDirection ≠ some "under_age")
  let publics ← (X.assemblePublicInputsCanonical directionBool qr.cutoffDays rpHash cred.issuerVk
    nullifier).mapError fun e => .invalidInput ("public input assembly failed: " ++ e)
  return {
    dobDaysPresent := true
    rBitsLen := rBits.length
    cutoffDays := qr.cutoffDays
    cBytesHex := hexEncode cred.cBytes.toList
    recomputedCHex := hexEncode recomputed.toList
    commitmentMatches
    ageOk
    issuerHashB64 := X.encodeB64 cred.issuerVk.toList
    credNullifierB64 := X.encodeB64 nullifier.toList
    provingKeyFp := st.provingKeyFp
    verifyingKeyId := qr.verifyingKeyId
    loadedVkId := st.loadedVkId
    vkIdMatches := decide (st.loadedVkId = some qr.verifyingKeyId)
    publicInputsHex := publics.map fun s => hexEncode s.toList }

/-! ## §4. Proving -/

/-- The circuit's lengths of `kid` and `schema`. -/
def expectedKidLen : Nat := 14
def expectedSchemaLen : Nat := 12

/-- Check the witness against the lengths the circuit was built for. -/
def verifyCircuitShape (witness : AgeWitness) : Except ProverError Unit := do
  require (witness.kid.length = expectedKidLen)
    (.invalidInput s!"kid length mismatch: expected {expectedKidLen}, got {witness.kid.length}")
  require (witness.schema.length = expectedSchemaLen)
    (.invalidInput
      s!"schema length mismatch: expected {expectedSchemaLen}, got {witness.schema.length}")
  require (witness.rBits.length = 128)
    (.invalidInput s!"r_bits length mismatch: expected 128, got {witness.rBits.length}")
  require (witness.sigRjBytes.length = 64)
    (.invalidInput s!"sig_rj_bytes length mismatch: expected 64, got {witness.sigRjBytes.length}")

/-- Run the prover, once more after a panic.  Inside a worker thread of
    the pool it refuses to start. -/
def generateProofSafe (X : ProverCrates Params) (rayonWorker : Bool) (params : Params)
    (cutoffDays : Int32) (rpChallenge : Bytes32) (witness : AgeWitness) (vkId : UInt32)
    (direction : AgeDirection) : Except ProverError AgeSnarkProof :=
  if rayonWorker then
    .error (.proofGenerationFailed "Cannot generate proof from within Rayon worker thread")
  else
    match X.proveAgeSnarkAuto 0 params cutoffDays rpChallenge witness vkId direction with
    | .proved proof => .ok proof
    | .failed e => .error (.proofGenerationFailed e)
    -- a panic is tried again, an error is not
    | .panicked =>
      match X.proveAgeSnarkAuto 1 params cutoffDays rpChallenge witness vkId direction with
      | .proved proof => .ok proof
      | .failed e => .error (.proofGenerationFailed e)
      | .panicked => .error (.proofGenerationFailed "Proof generation failed after retry")

/-- The witness a credential and its private fields make up. -/
def ageWitness (cred : CredentialV2) (dobDays : Int32) (rBits : List Bool) : AgeWitness :=
  { dobDays, rBits, issuerVkBytes := cred.issuerVk, sigRjBytes := cred.sigRj.toList, v := cred.v,
    kid := cred.kid.toByteArray.data.toList, cBytes := cred.cBytes, iat := cred.iat,
    exp := cred.exp, schema := cred.schema.toByteArray.data.toList }

/-- The direction given to the prover. -/
def proverDirection (qr : QrChallengePayload) : AgeDirection :=
  match qr.proofDirection with
  | some "under_age" => .under
  | _ => .over

/-- The request body for a proof. -/
def submitRequest (X : Crates) (qr : QrChallengePayload) (proof : AgeSnarkProof) :
    SubmitProofRequest :=
  { challengeId := qr.challengeId
    submitSecret := qr.submitSecret
    codeVerifier := qr.codeVerifier
    proof :=
      { verifyingKeyId := qr.verifyingKeyId
        publicInputs :=
          { cutoffDays := qr.cutoffDays
            rpChallenge := qr.rpChallenge
            issuer := ⟨X.encodeB64 proof.issuerVkBytes.toList⟩
            credNullifier := X.encodeB64 proof.credNullifier.toList }
        proof := X.encodeB64 proof.proof } }

/-- Check credential and challenge, prove, and assemble the request. -/
def buildVerifyRequestInternal (X : ProverCrates Params) (rayonWorker : Bool)
    (st : ProverState Params) (now : UInt64) (cred : CredentialV2) (qr : QrChallengePayload) :
    Except ProverError SubmitProofRequest := do
  let params ← okOr st.provingParams .notInitialized
  let loadedVkId ← okOr st.loadedVkId .notInitialized
  require (loadedVkId = qr.verifyingKeyId) (.vkIdMismatch loadedVkId qr.verifyingKeyId)
  require (¬ cred.exp < now) .credentialExpired
  require (¬ qr.expiresAt ≤ now) .challengeExpired
  let report ← preflightReport X st cred qr
  -- the preflight only reports these two
  require (report.commitmentMatches = true)
    (.invalidInput
      s!"Commitment mismatch: stored={report.cBytesHex}, recomputed={report.recomputedCHex}")
  require (report.ageOk = true) .ageRequirementNotMet
  -- the preflight has made these checks; the source makes them again
  let dobDays ← okOr cred.dobDays .missingPrivateFields
  let rBits ← okOr cred.rBits .missingPrivateFields
  checkRBitsLen rBits
  let rpChallenge ← decodeB64_32 X.toCrates qr.rpChallenge
  let witness := ageWitness cred dobDays rBits
  verifyCircuitShape witness
  let proof ← generateProofSafe X rayonWorker params qr.cutoffDays rpChallenge witness
    qr.verifyingKeyId (proverDirection qr)
  require (proof.cutoff = qr.cutoffDays)
    (.proofGenerationFailed
      s!"Proof cutoff_days mismatch: {proof.cutoff.toInt} != {qr.cutoffDays.toInt}")
  return submitRequest X.toCrates qr proof

/-- The thread a request is built on, and what becomes of the thread
    spawned in its place when it is a worker of the pool. -/
structure ProofThread where
  rayonWorker : Bool
  spawnError : Option String
  panics : Bool

/-- Build the request, on a thread of its own if the caller is a worker
    of the pool. -/
def buildVerifyRequest (X : ProverCrates Params) (thread : ProofThread) (st : ProverState Params)
    (now : UInt64) (cred : CredentialV2) (qr : QrChallengePayload) :
    Except ProverError SubmitProofRequest :=
  if thread.rayonWorker then
    match thread.spawnError with
    | some e =>
      .error (.proofGenerationFailed ("Failed to spawn proof generation thread: " ++ e))
    | none =>
      if thread.panics then .error (.proofGenerationFailed "Proof generation thread panicked")
      else buildVerifyRequestInternal X false st now cred qr
  else buildVerifyRequestInternal X thread.rayonWorker st now cred qr

/-! ## §5. What a request has been checked for -/

/-- The direction a challenge asks for: under-age for the exact text
    `under_age`, over-age for everything else. -/
def QrChallengePayload.underAge (qr : QrChallengePayload) : Bool :=
  decide (qr.proofDirection = some "under_age")

/-- The prover's direction is the challenge's. -/
theorem proverDirection_eq (qr : QrChallengePayload) :
    proverDirection qr = if qr.underAge then .under else .over := by
  unfold proverDirection QrChallengePayload.underAge
  split
  next h => simp [h]
  next h =>
    rw [if_neg]
    rw [decide_eq_true_eq]
    exact h

/-- **What a preflight has checked and reports.** -/
theorem preflightReport_ok (X : ProverCrates Params) (st : ProverState Params)
    (cred : CredentialV2) (qr : QrChallengePayload) (report : PreflightReport)
    (h : preflightReport X st cred qr = .ok report) :
    ∃ dobDays rBits rpChallenge publics,
      cred.dobDays = some dobDays ∧ cred.rBits = some rBits ∧ rBits.length = rBitsLen ∧
      decodeB64_32 X.toCrates qr.rpChallenge = .ok rpChallenge ∧
      X.verifyCredV2 cred.credMsg cred.sigRj cred.issuerVk = .ok () ∧
      X.assemblePublicInputsCanonical (!qr.underAge) qr.cutoffDays (X.blake2s rpChallenge)
        cred.issuerVk (X.pedersenNullifier cred.cBytes) = .ok publics ∧
      report.commitmentMatches = (recomputeCommitment X.toCrates cred dobDays rBits).2 ∧
      report.ageOk = validateAge dobDays qr.cutoffDays qr.underAge ∧
      report.publicInputsHex = publics.map fun s => hexEncode s.toList := by
  unfold preflightReport checkRBitsLen at h
  simp only [bind_eq_ok_iff, okOr_eq_ok_iff, require_eq_ok_iff, mapError_eq_ok_iff] at h
  obtain ⟨dobDays, hdob, rBits, hbits, _, hlen, rp, hrp, _, hsig, publics, hpub, hret⟩ := h
  injection hret with hret
  have hdir : decide (qr.proofDirection ≠ some "under_age") = !qr.underAge := by
    unfold QrChallengePayload.underAge
    rw [decide_not]
  rw [hdir] at hpub
  refine ⟨dobDays, rBits, rp, publics, hdob, hbits, hlen, hrp, hsig, hpub, ?_⟩
  rw [← hret]
  exact ⟨rfl, rfl, rfl⟩

/-- What it reports of private fields and a challenge that are known. -/
theorem preflightReport_of_private (X : ProverCrates Params) (st : ProverState Params)
    (cred : CredentialV2) (qr : QrChallengePayload) (report : PreflightReport)
    (h : preflightReport X st cred qr = .ok report) {dobDays : Int32} {rBits : List Bool}
    {rp : Bytes32} (hdob : cred.dobDays = some dobDays) (hbits : cred.rBits = some rBits)
    (hrp : decodeB64_32 X.toCrates qr.rpChallenge = .ok rp) :
    ∃ publics, X.verifyCredV2 cred.credMsg cred.sigRj cred.issuerVk = .ok () ∧
      X.assemblePublicInputsCanonical (!qr.underAge) qr.cutoffDays (X.blake2s rp)
        cred.issuerVk (X.pedersenNullifier cred.cBytes) = .ok publics ∧
      report.commitmentMatches = (recomputeCommitment X.toCrates cred dobDays rBits).2 ∧
      report.ageOk = validateAge dobDays qr.cutoffDays qr.underAge ∧
      report.publicInputsHex = publics.map fun s => hexEncode s.toList := by
  obtain ⟨dobDays', rBits', rp', publics, hdob', hbits', -, hrp', hreport⟩ :=
    preflightReport_ok X st cred qr report h
  rw [hdob] at hdob'
  rw [hbits] at hbits'
  rw [hrp] at hrp'
  injection hdob' with hdob'
  injection hbits' with hbits'
  injection hrp' with hrp'
  subst hdob' hbits' hrp'
  exact ⟨publics, hreport⟩

/-- A recomputed commitment that matches is the credential's. -/
theorem recomputeCommitment_matches (X : Crates) (cred : CredentialV2) (dobDays : Int32)
    (rBits : List Bool) (h : (recomputeCommitment X cred dobDays rBits).2 = true) :
    X.pedersenCommitDobValidated dobDays rBits = .ok cred.cBytes := by
  unfold recomputeCommitment at h
  cases hc : X.pedersenCommitDobValidated dobDays rBits with
  | error e =>
    rw [hc] at h
    exact absurd h (by simp)
  | ok c =>
    rw [hc] at h
    rw [of_decide_eq_true h]

/-- A proof comes from one of the two attempts. -/
theorem generateProofSafe_ok (X : ProverCrates Params) (rayonWorker : Bool) (params : Params)
    (cutoffDays : Int32) (rp : Bytes32) (witness : AgeWitness) (vkId : UInt32)
    (direction : AgeDirection) (proof : AgeSnarkProof)
    (h : generateProofSafe X rayonWorker params cutoffDays rp witness vkId direction = .ok proof) :
    ∃ attempt, X.proveAgeSnarkAuto attempt params cutoffDays rp witness vkId direction =
      .proved proof := by
  unfold generateProofSafe at h
  split at h
  · cases h
  · split at h
    next p hp =>
      injection h with h
      exact ⟨0, h ▸ hp⟩
    next e _ => cases h
    next _ =>
      split at h
      next p hp =>
        injection h with h
        exact ⟨1, h ▸ hp⟩
      next e _ => cases h
      next _ => cases h

/-- A request comes from the inner build, whichever thread it ran on. -/
theorem buildVerifyRequest_ok (X : ProverCrates Params) (thread : ProofThread)
    (st : ProverState Params) (now : UInt64) (cred : CredentialV2) (qr : QrChallengePayload)
    (req : SubmitProofRequest) (h : buildVerifyRequest X thread st now cred qr = .ok req) :
    ∃ worker, buildVerifyRequestInternal X worker st now cred qr = .ok req := by
  unfold buildVerifyRequest at h
  split at h
  · split at h
    · cases h
    · split at h
      · cases h
      · exact ⟨_, h⟩
  · exact ⟨_, h⟩

/-- The prover returns the issuer key and the nullifier of its witness. -/
def ReturnsWitnessPublics (X : ProverCrates Params) : Prop :=
  ∀ attempt params cutoffDays rp witness vkId direction proof,
    X.proveAgeSnarkAuto attempt params cutoffDays rp witness vkId direction = .proved proof →
      proof.issuerVkBytes = witness.issuerVkBytes ∧
        proof.credNullifier = X.pedersenNullifier witness.cBytes

/-- What a built request stands for: what was checked, the one direction
    used throughout, and what the request carries. -/
def SoundRequest (X : ProverCrates Params) (st : ProverState Params) (now : UInt64)
    (cred : CredentialV2) (qr : QrChallengePayload) (req : SubmitProofRequest) : Prop :=
  ∃ params dobDays rBits rpChallenge report publics attempt proof,
    -- what was checked
    st.provingParams = some params ∧ st.loadedVkId = some qr.verifyingKeyId ∧
    now ≤ cred.exp ∧ now < qr.expiresAt ∧
    X.verifyCredV2 cred.credMsg cred.sigRj cred.issuerVk = .ok () ∧
    cred.dobDays = some dobDays ∧ cred.rBits = some rBits ∧
    X.pedersenCommitDobValidated dobDays rBits = .ok cred.cBytes ∧
    validateAge dobDays qr.cutoffDays qr.underAge = true ∧
    -- the age check, the public inputs and the prover use one direction
    decodeB64_32 X.toCrates qr.rpChallenge = .ok rpChallenge ∧
    preflightReport X st cred qr = .ok report ∧
    report.ageOk = validateAge dobDays qr.cutoffDays qr.underAge ∧
    X.assemblePublicInputsCanonical (!qr.underAge) qr.cutoffDays (X.blake2s rpChallenge)
      cred.issuerVk (X.pedersenNullifier cred.cBytes) = .ok publics ∧
    (report.publicInputsHex = publics.map fun s => hexEncode s.toList) ∧
    X.proveAgeSnarkAuto attempt params qr.cutoffDays rpChallenge (ageWitness cred dobDays rBits)
      qr.verifyingKeyId (if qr.underAge then .under else .over) = .proved proof ∧
    -- the request carries the challenge's own values
    req =
      { challengeId := qr.challengeId, submitSecret := qr.submitSecret,
        codeVerifier := qr.codeVerifier,
        proof :=
          { verifyingKeyId := qr.verifyingKeyId,
            publicInputs :=
              { cutoffDays := qr.cutoffDays, rpChallenge := qr.rpChallenge,
                issuer := ⟨X.encodeB64 cred.issuerVk.toList⟩,
                credNullifier := X.encodeB64 (X.pedersenNullifier cred.cBytes).toList },
            proof := X.encodeB64 proof.proof } }

/-- **Every request that is built is sound.**  The loaded key is the
    challenge's, credential and challenge are live, the issuer's
    signature verifies, the commitment opens to the private fields, and
    the age check passes, for whatever direction the challenge names. -/
theorem buildVerifyRequest_sound (X : ProverCrates Params) (hX : ReturnsWitnessPublics X)
    (thread : ProofThread) (st : ProverState Params) (now : UInt64) (cred : CredentialV2)
    (qr : QrChallengePayload) (req : SubmitProofRequest)
    (h : buildVerifyRequest X thread st now cred qr = .ok req) :
    SoundRequest X st now cred qr req := by
  obtain ⟨worker, h⟩ := buildVerifyRequest_ok X thread st now cred qr req h
  unfold buildVerifyRequestInternal at h
  simp only [bind_eq_ok_iff, okOr_eq_ok_iff, require_eq_ok_iff] at h
  obtain ⟨params, hparams, vkId, hvk, _, hvkid, _, hexp, _, hexpires, report, hreport, _, hcommit,
    _, hage, dobDays, hdob, rBits, hbits, _, _, rp, hrp, _, _, proof, hproof, _, hcutoff, hret⟩ := h
  -- the preflight saw the same private fields and the same challenge
  obtain ⟨publics, hsig, hpub, hmatch, hageOk, hhex⟩ :=
    preflightReport_of_private X st cred qr report hreport hdob hbits hrp
  obtain ⟨attempt, hprove⟩ := generateProofSafe_ok X worker params qr.cutoffDays rp _ _ _ proof hproof
  obtain ⟨hissuer, hnull⟩ := hX _ _ _ _ _ _ _ _ hprove
  rw [proverDirection_eq] at hprove
  refine ⟨params, dobDays, rBits, rp, report, publics, attempt, proof, hparams, ?_,
    UInt64.not_lt.1 hexp, UInt64.not_le.1 hexpires, hsig, hdob, hbits, ?_, ?_, hrp, hreport, hageOk,
    hpub, hhex, hprove, ?_⟩
  · rw [hvk, hvkid]
  · exact recomputeCommitment_matches X.toCrates cred dobDays rBits (hmatch ▸ hcommit)
  · rw [← hageOk, hage]
  · injection hret with hret
    rw [← hret]
    unfold submitRequest
    rw [hissuer, hnull]
    rfl

/-! ## §6. A request -/

/-- Crates whose prover echoes the public values of its witness. -/
def sampleProver : ProverCrates Unit :=
  { sampleCrates with
    blake2s := id
    assemblePublicInputsCanonical := fun _ _ rpHash issuerVk nullifier =>
      .ok [rpHash, issuerVk, nullifier]
    proveAgeSnarkAuto := fun _ _ cutoff _ witness _ _ =>
      .proved
        { cutoff, issuerVkBytes := witness.issuerVkBytes, credNullifier := witness.cBytes,
          proof := List.replicate 192 0 } }

theorem sampleProver_returns : ReturnsWitnessPublics sampleProver := by
  intro attempt params cutoffDays rp witness vkId direction proof h
  injection h with h
  rw [← h]
  exact ⟨rfl, rfl⟩

def provableCredential : CredentialV2 :=
  { sampleCredential with
    kid := "provii:2026-05", dobDays := some 15000, rBits := some (List.replicate 128 true) }

/-- A challenge for holders born on day 14000 or later. -/
def sampleChallenge : QrChallengePayload :=
  { challengeId := "3f0e8c52-8a51-4c0e-9a4e-0d7f3f1b2c3d"
    rpChallenge := "AAAAAAAAAAAAAAAAAAAAAAAAAAAAAAAAAAAAAAAAAAA"
    cutoffDays := 14000
    verifyingKeyId := 914153247
    submitSecret := "AAAAAAAAAAAAAAAAAAAAAAAAAAAAAAAAAAAAAAAAAAA"
    expiresAt := 5
    verifyUrl := "https://verify.provii.app/v1/verify"
    codeVerifier := none
    proofDirection := some "under_age" }

def loadedProver : ProverState Unit :=
  { provingParams := some (), provingKeyFp := none, loadedVkId := some 914153247 }

def sampleRequest : SubmitProofRequest :=
  submitRequest sampleCrates sampleChallenge
    { cutoff := 14000, issuerVkBytes := zeroBytes 32, credNullifier := zeroBytes 32,
      proof := List.replicate 192 0 }

/-- The request for the sample challenge is built, and is sound. -/
theorem sampleRequest_sound :
    SoundRequest sampleProver loadedProver 2 provableCredential sampleChallenge sampleRequest :=
  buildVerifyRequest_sound sampleProver sampleProver_returns
    { rayonWorker := false, spawnError := none, panics := false } loadedProver 2 provableCredential
    sampleChallenge sampleRequest (by decide +kernel)

end ProviiSdk.Core
