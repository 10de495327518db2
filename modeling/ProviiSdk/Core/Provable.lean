/-
  ProviiSdk.Core.Provable — is an issued credential provable?

  Finalising a credential and building a request from it check the same
  data in two places.  This file compares them: what a finalisation has
  accepted passes every check before the prover, except for the lengths
  of `kid` and `schema`, which only the prover's circuit fixes.

  Main results:
    * `issued_credential_provable` — with the circuit's lengths, a
      request can fail only at its thread, in the assembly of the public
      inputs or in the prover; with other lengths it always fails.
    * `issued_credential_not_provable` — an issued credential that every
      request refuses.
-/

import ProviiSdk.Core.Prover

namespace ProviiSdk.Core

open ProviiSdk.Check ProviiSdk.Text

variable {Params : Type}

/-! ## §1. The proving stage -/

/-- The texts of a header have the circuit's lengths. -/
def CircuitLengths (header : SignedCredentialHeader) : Prop :=
  header.kid.utf8ByteSize = expectedKidLen ∧ header.schema.utf8ByteSize = expectedSchemaLen

instance (header : SignedCredentialHeader) : Decidable (CircuitLengths header) :=
  inferInstanceAs (Decidable (_ ∧ _))

/-- One attempt of the prover on a request. -/
def proveAttempt (X : ProverCrates Params) (params : Params) (cred : CredentialV2)
    (dobDays : Int32) (rBits : List Bool) (rp : Bytes32) (qr : QrChallengePayload)
    (attempt : Nat) : ProveOutcome :=
  X.proveAgeSnarkAuto attempt params qr.cutoffDays rp (ageWitness cred dobDays rBits)
    qr.verifyingKeyId (proverDirection qr)

/-- The public inputs of a request. -/
def assembleInputs (X : ProverCrates Params) (cred : CredentialV2) (rp : Bytes32)
    (qr : QrChallengePayload) : Except String (List Bytes32) :=
  X.assemblePublicInputsCanonical (!qr.underAge) qr.cutoffDays (X.blake2s rp) cred.issuerVk
    (X.pedersenNullifier cred.cBytes)

/-- How a request ends once all checks before the prover have passed. -/
inductive ProvingOutcome (X : ProverCrates Params) (thread : ProofThread) (params : Params)
    (cred : CredentialV2) (dobDays : Int32) (rBits : List Bool) (rp : Bytes32)
    (qr : QrChallengePayload) : Except ProverError SubmitProofRequest → Prop where
  /-- the caller is a worker of the pool and no thread could be spawned -/
  | notSpawned (e : String) (hworker : thread.rayonWorker = true) (he : thread.spawnError = some e) :
    ProvingOutcome X thread params cred dobDays rBits rp qr
      (.error (.proofGenerationFailed ("Failed to spawn proof generation thread: " ++ e)))
  /-- the thread spawned for a worker of the pool panicked -/
  | threadPanicked (hworker : thread.rayonWorker = true) (hpanic : thread.panics = true) :
    ProvingOutcome X thread params cred dobDays rBits rp qr
      (.error (.proofGenerationFailed "Proof generation thread panicked"))
  | assemblyFailed (e : String) (h : assembleInputs X cred rp qr = .error e) :
    ProvingOutcome X thread params cred dobDays rBits rp qr
      (.error (.invalidInput ("public input assembly failed: " ++ e)))
  | proverFailed (attempt : Nat) (e : String)
    (h : proveAttempt X params cred dobDays rBits rp qr attempt = .failed e) :
    ProvingOutcome X thread params cred dobDays rBits rp qr (.error (.proofGenerationFailed e))
  | proverPanicked (h₀ : proveAttempt X params cred dobDays rBits rp qr 0 = .panicked)
    (h₁ : proveAttempt X params cred dobDays rBits rp qr 1 = .panicked) :
    ProvingOutcome X thread params cred dobDays rBits rp qr
      (.error (.proofGenerationFailed "Proof generation failed after retry"))
  /-- the prover proved another cutoff than it was asked to -/
  | otherCutoff (attempt : Nat) (proof : AgeSnarkProof)
    (h : proveAttempt X params cred dobDays rBits rp qr attempt = .proved proof)
    (hne : proof.cutoff ≠ qr.cutoffDays) :
    ProvingOutcome X thread params cred dobDays rBits rp qr
      (.error (.proofGenerationFailed
        s!"Proof cutoff_days mismatch: {proof.cutoff.toInt} != {qr.cutoffDays.toInt}"))
  | built (attempt : Nat) (proof : AgeSnarkProof)
    (h : proveAttempt X params cred dobDays rBits rp qr attempt = .proved proof)
    (hcutoff : proof.cutoff = qr.cutoffDays) :
    ProvingOutcome X thread params cred dobDays rBits rp qr (.ok (submitRequest X.toCrates qr proof))

/-! ## §2. The checks a finalised credential passes -/

/-- The witness of a finalised credential has the circuit's shape as
    soon as the header's texts have the circuit's lengths. -/
theorem verifyCircuitShape_of_lengths (header : SignedCredentialHeader) (dobDays : Int32)
    (rBits : List Bool) (hlen : rBits.length = rBitsLen) (h : CircuitLengths header) :
    verifyCircuitShape (ageWitness (header.credential dobDays rBits) dobDays rBits) = .ok () := by
  have hkid : (ageWitness (header.credential dobDays rBits) dobDays rBits).kid.length =
      expectedKidLen := h.1
  have hschema : (ageWitness (header.credential dobDays rBits) dobDays rBits).schema.length =
      expectedSchemaLen := h.2
  have hbits : (ageWitness (header.credential dobDays rBits) dobDays rBits).rBits.length = 128 := hlen
  have hsig : (ageWitness (header.credential dobDays rBits) dobDays rBits).sigRjBytes.length = 64 :=
    List.Vector.toList_length _
  unfold verifyCircuitShape
  rw [require_pos hkid, require_pos hschema, require_pos hbits, require_pos hsig]
  rfl

/-- And it has that shape only then. -/
theorem lengths_of_verifyCircuitShape (header : SignedCredentialHeader) (dobDays : Int32)
    (rBits : List Bool)
    (h : verifyCircuitShape (ageWitness (header.credential dobDays rBits) dobDays rBits) = .ok ()) :
    CircuitLengths header := by
  unfold verifyCircuitShape at h
  simp only [bind_eq_ok_iff, require_eq_ok_iff] at h
  obtain ⟨_, hkid, _, hschema, _⟩ := h
  exact ⟨hkid, hschema⟩

/-- **A finalised credential passes the preflight**: the report confirms
    commitment and age, unless the public inputs cannot be assembled. -/
theorem preflightReport_of_finalized (X : ProverCrates Params) (st : ProverState Params)
    (header : SignedCredentialHeader) (dobDays : Int32) (rBits : List Bool) (cred : CredentialV2)
    (qr : QrChallengePayload) (rp : Bytes32)
    (hfin : finalizeCredential X.toCrates header dobDays rBits = .ok cred)
    (hrp : decodeB64_32 X.toCrates qr.rpChallenge = .ok rp)
    (hage : validateAge dobDays qr.cutoffDays qr.underAge = true) :
    (∃ e, assembleInputs X cred rp qr = .error e ∧
      preflightReport X st cred qr = .error (.invalidInput ("public input assembly failed: " ++ e))) ∨
    ∃ report, preflightReport X st cred qr = .ok report ∧ report.commitmentMatches = true ∧
      report.ageOk = true := by
  obtain ⟨-, -, -, -, hlen, hcom, hsig, rfl⟩ :=
    finalizeCredential_ok X.toCrates header dobDays rBits cred hfin
  have hdob : (header.credential dobDays rBits).dobDays = some dobDays := rfl
  have hbits : (header.credential dobDays rBits).rBits = some rBits := rfl
  have hmsg : (header.credential dobDays rBits).credMsg = header.credMsg := rfl
  have hdir : decide (qr.proofDirection ≠ some "under_age") = !qr.underAge := by
    unfold QrChallengePayload.underAge
    rw [decide_not]
  have hcommit : recomputeCommitment X.toCrates (header.credential dobDays rBits) dobDays rBits =
      (header.cBytes, true) := by
    unfold recomputeCommitment
    rw [hcom]
    exact congrArg (Prod.mk header.cBytes) (decide_eq_true rfl)
  have hsig' : X.verifyCredV2 header.credMsg (header.credential dobDays rBits).sigRj
      (header.credential dobDays rBits).issuerVk = .ok () := hsig
  unfold preflightReport checkRBitsLen assembleInputs
  rw [hdob, hbits]
  simp only [okOr_some, ok_bind, require_pos hlen, hrp, hmsg, hsig', mapError_ok, hdir, hcommit]
  cases X.assemblePublicInputsCanonical (!qr.underAge) qr.cutoffDays (X.blake2s rp)
      (header.credential dobDays rBits).issuerVk
      (X.pedersenNullifier (header.credential dobDays rBits).cBytes) with
  | error e => exact Or.inl ⟨e, rfl, rfl⟩
  | ok publics => exact Or.inr ⟨_, rfl, rfl, hage⟩

/-! ## §3. The prover -/

/-- What the prover and the check of its cutoff can come to. -/
private theorem provingTail_outcome (X : ProverCrates Params) (thread : ProofThread)
    (params : Params) (cred : CredentialV2) (dobDays : Int32) (rBits : List Bool) (rp : Bytes32)
    (qr : QrChallengePayload) :
    ProvingOutcome X thread params cred dobDays rBits rp qr (do
      let proof ← generateProofSafe X false params qr.cutoffDays rp
        (ageWitness cred dobDays rBits) qr.verifyingKeyId (proverDirection qr)
      require (proof.cutoff = qr.cutoffDays)
        (.proofGenerationFailed
          s!"Proof cutoff_days mismatch: {proof.cutoff.toInt} != {qr.cutoffDays.toInt}")
      return submitRequest X.toCrates qr proof) := by
  -- a proof of either attempt is kept or refused by its cutoff
  have hproved : ∀ attempt proof,
      proveAttempt X params cred dobDays rBits rp qr attempt = .proved proof →
      ProvingOutcome X thread params cred dobDays rBits rp qr (do
        require (proof.cutoff = qr.cutoffDays)
          (.proofGenerationFailed
            s!"Proof cutoff_days mismatch: {proof.cutoff.toInt} != {qr.cutoffDays.toInt}")
        return submitRequest X.toCrates qr proof) := by
    intro attempt proof h
    by_cases hcutoff : proof.cutoff = qr.cutoffDays
    · rw [require_pos hcutoff]
      exact .built attempt proof h hcutoff
    · unfold require
      rw [if_neg hcutoff]
      exact .otherCutoff attempt proof h hcutoff
  have hattempt : ∀ attempt, X.proveAgeSnarkAuto attempt params qr.cutoffDays rp
      (ageWitness cred dobDays rBits) qr.verifyingKeyId (proverDirection qr) =
        proveAttempt X params cred dobDays rBits rp qr attempt := fun _ => rfl
  unfold generateProofSafe
  rw [if_neg Bool.false_ne_true, hattempt, hattempt]
  cases h₀ : proveAttempt X params cred dobDays rBits rp qr 0 with
  | proved proof => exact hproved 0 proof h₀
  | failed e => exact .proverFailed 0 e h₀
  | panicked =>
    cases h₁ : proveAttempt X params cred dobDays rBits rp qr 1 with
    | proved proof => exact hproved 1 proof h₁
    | failed e => exact .proverFailed 1 e h₁
    | panicked => exact .proverPanicked h₀ h₁

/-! ## §4. Issued and provable -/

/-- The checks of the inner build pass, up to the public inputs. -/
theorem buildVerifyRequestInternal_of_finalized (X : ProverCrates Params) (thread : ProofThread)
    (st : ProverState Params) (params : Params) (now : UInt64) (header : SignedCredentialHeader)
    (dobDays : Int32) (rBits : List Bool) (cred : CredentialV2) (qr : QrChallengePayload)
    (rp : Bytes32) (hfin : finalizeCredential X.toCrates header dobDays rBits = .ok cred)
    (hparams : st.provingParams = some params) (hvk : st.loadedVkId = some qr.verifyingKeyId)
    (hexp : now ≤ header.exp) (hexpires : now < qr.expiresAt)
    (hrp : decodeB64_32 X.toCrates qr.rpChallenge = .ok rp)
    (hage : validateAge dobDays qr.cutoffDays qr.underAge = true) (hlens : CircuitLengths header) :
    ProvingOutcome X thread params cred dobDays rBits rp qr
      (buildVerifyRequestInternal X false st now cred qr) := by
  have hpre := preflightReport_of_finalized X st header dobDays rBits cred qr rp hfin hrp hage
  obtain ⟨-, -, -, -, hlen, -, -, rfl⟩ :=
    finalizeCredential_ok X.toCrates header dobDays rBits cred hfin
  have hdob : (header.credential dobDays rBits).dobDays = some dobDays := rfl
  have hbits : (header.credential dobDays rBits).rBits = some rBits := rfl
  have hlive : ¬ (header.credential dobDays rBits).exp < now := UInt64.not_lt.2 hexp
  have hopen : ¬ qr.expiresAt ≤ now := UInt64.not_le.2 hexpires
  have hshape := verifyCircuitShape_of_lengths header dobDays rBits hlen hlens
  unfold buildVerifyRequestInternal
  simp only [hparams, hvk, okOr_some, ok_bind, require_pos, hlive, hopen, not_false_eq_true]
  rcases hpre with ⟨e, hasm, hpre⟩ | ⟨report, hpre, hmatch, hok⟩
  · rw [hpre]
    exact .assemblyFailed e hasm
  · rw [hpre]
    simp only [ok_bind, hmatch, hok, require_pos, hdob, hbits, okOr_some, checkRBitsLen, hlen, hrp,
      hshape]
    exact provingTail_outcome X thread params _ dobDays rBits rp qr

/-- **Issued means provable, for the circuit's lengths.**  For a
    finalised credential that has not expired and a live challenge of the
    loaded key whose cutoff and direction the birth day satisfies: if
    `kid` and `schema` have the circuit's lengths, a request gets past
    every check before the prover; and if not, no request is built. -/
theorem issued_credential_provable (X : ProverCrates Params) (thread : ProofThread)
    (st : ProverState Params) (params : Params) (now : UInt64) (header : SignedCredentialHeader)
    (dobDays : Int32) (rBits : List Bool) (cred : CredentialV2) (qr : QrChallengePayload)
    (rp : Bytes32) (hfin : finalizeCredential X.toCrates header dobDays rBits = .ok cred)
    (hparams : st.provingParams = some params) (hvk : st.loadedVkId = some qr.verifyingKeyId)
    (hexp : now ≤ header.exp) (hexpires : now < qr.expiresAt)
    (hrp : decodeB64_32 X.toCrates qr.rpChallenge = .ok rp)
    (hage : validateAge dobDays qr.cutoffDays qr.underAge = true) :
    (CircuitLengths header → ProvingOutcome X thread params cred dobDays rBits rp qr
      (buildVerifyRequest X thread st now cred qr)) ∧
    (¬ CircuitLengths header → ∃ e, buildVerifyRequest X thread st now cred qr = .error e) := by
  constructor
  · intro hlens
    have hinner := buildVerifyRequestInternal_of_finalized X thread st params now header dobDays
      rBits cred qr rp hfin hparams hvk hexp hexpires hrp hage hlens
    unfold buildVerifyRequest
    by_cases hworker : thread.rayonWorker = true
    · -- the request is built on a thread of its own, if that thread runs
      rw [if_pos hworker]
      cases hspawn : thread.spawnError with
      | some e => exact .notSpawned e hworker hspawn
      | none =>
        by_cases hpanic : thread.panics = true
        · simp only [hpanic, if_true]
          exact .threadPanicked hworker hpanic
        · simp only [hpanic]
          exact hinner
    · rw [if_neg hworker, Bool.not_eq_true _ |>.mp hworker]
      exact hinner
  · intro hlens
    cases hreq : buildVerifyRequest X thread st now cred qr with
    | error e => exact ⟨e, rfl⟩
    | ok req =>
      obtain ⟨worker, h⟩ := buildVerifyRequest_ok X thread st now cred qr req hreq
      obtain ⟨-, -, -, -, -, -, -, rfl⟩ :=
        finalizeCredential_ok X.toCrates header dobDays rBits cred hfin
      unfold buildVerifyRequestInternal at h
      simp only [bind_eq_ok_iff, okOr_eq_ok_iff, require_eq_ok_iff] at h
      obtain ⟨_, _, _, _, _, _, _, _, _, _, _, _, _, _, _, _, dobDays', hdob, rBits', hbits, _, _,
        _, _, _, hshape, _⟩ := h
      injection hdob with hdob
      injection hbits with hbits
      rw [← hdob, ← hbits] at hshape
      exact absurd (lengths_of_verifyCircuitShape header dobDays rBits hshape) hlens

/-! ## §5. A credential that can never be used -/

/-- The blinding bits of the examples. -/
def sampleRBits : List Bool := List.replicate rBitsLen true

def callerThread : ProofThread := { rayonWorker := false, spawnError := none, panics := false }

/-- **Issued but not provable**: the sample header is finalised, and
    with the loaded key, a live challenge and a birth day that satisfies
    it, the request is refused for the length of `kid`, before the
    prover and after the public inputs were assembled. -/
theorem issued_credential_not_provable :
    finalizeCredential sampleProver.toCrates sampleHeader 15000 sampleRBits =
        .ok (sampleHeader.credential 15000 sampleRBits) ∧
      loadedProver.loadedVkId = some sampleChallenge.verifyingKeyId ∧
      (sampleHeader.iat ≤ 2 ∧ 2 ≤ sampleHeader.exp ∧ 2 < sampleChallenge.expiresAt) ∧
      decodeB64_32 sampleProver.toCrates sampleChallenge.rpChallenge = .ok (zeroBytes 32) ∧
      validateAge 15000 sampleChallenge.cutoffDays sampleChallenge.underAge = true ∧
      buildVerifyRequest sampleProver callerThread loadedProver 2
          (sampleHeader.credential 15000 sampleRBits) sampleChallenge =
        .error (.invalidInput "kid length mismatch: expected 14, got 13") := by
  refine ⟨by decide +kernel, rfl, by decide, by decide +kernel, by decide +kernel,
    by decide +kernel⟩

/-- The sample header with a `kid` of the circuit's length. -/
def circuitHeader : SignedCredentialHeader := { sampleHeader with kid := "provii:2026-05" }

/-- A credential of that header is provable, and one of the sample
    header is not. -/
theorem issued_credential_provable_sample :
    ProvingOutcome sampleProver callerThread () (circuitHeader.credential 15000 sampleRBits) 15000
        sampleRBits (zeroBytes 32) sampleChallenge
        (buildVerifyRequest sampleProver callerThread loadedProver 2
          (circuitHeader.credential 15000 sampleRBits) sampleChallenge) ∧
      ∃ e, buildVerifyRequest sampleProver callerThread loadedProver 2
        (sampleHeader.credential 15000 sampleRBits) sampleChallenge = .error e :=
  ⟨(issued_credential_provable sampleProver callerThread loadedProver () 2 circuitHeader 15000
      sampleRBits _ sampleChallenge (zeroBytes 32) (by decide +kernel) rfl rfl (by decide)
      (by decide) (by decide +kernel) (by decide +kernel)).1 (by decide),
    (issued_credential_provable sampleProver callerThread loadedProver () 2 sampleHeader 15000
      sampleRBits _ sampleChallenge (zeroBytes 32) (by decide +kernel) rfl rfl (by decide)
      (by decide) (by decide +kernel) (by decide +kernel)).2 (by decide)⟩

end ProviiSdk.Core
