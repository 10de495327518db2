/-
  ProviiSdk.Core.Validity — when a credential is valid, and when it proves.

  The credential model has a check of its validity window, with both
  ends; the prover looks at one of them.  To compare the two, this file
  says exactly when a request is built.

  Main results:
    * `isValidAt_ok_iff`, `validateCredentials_ok_iff` — what the model's
      checks accept.
    * `buildVerifyRequest_iff` — exactly when a request is built.
    * `buildVerifyRequest_not_refused` — what a request is not refused
      for.
    * `buildVerifyRequest_challengeExpired_iff` — when a request is
      refused because the challenge has expired.
    * `requests_valid_iff` — when a built request means that the
      credential is valid.
-/

import ProviiSdk.Core.Credential
import ProviiSdk.Core.Provable

namespace ProviiSdk.Core

open ProviiSdk.Check

variable {Params : Type}

/-! ## §1. The checks of the credential model -/

/-- Is the time past the expiry? -/
def CredentialV2.isExpired (cred : CredentialV2) (currentTimestamp : UInt64) : Bool :=
  decide (cred.exp < currentTimestamp)

/-- The check of the validity window. -/
def CredentialV2.isValidAt (cred : CredentialV2) (timestamp : UInt64) : Except CredentialError Unit :=
  if timestamp < cred.iat then .error .notYetValid
  else if timestamp > cred.exp then .error .expired
  else .ok ()

/-- The check of the private fields. -/
def CredentialV2.validateForProving (cred : CredentialV2) : Except CredentialError Unit :=
  if cred.dobDays.isNone then .error .missingPrivateFields
  else
    match cred.rBits with
    | some r => if r.length = rBitsLen then .ok () else .error .missingPrivateFields
    | none => .error .missingPrivateFields

/-- Both checks on every credential of a list. -/
def validateCredentials (credentials : List CredentialV2) (currentTimestamp : UInt64) :
    List (Except CredentialError Unit) :=
  credentials.map fun cred => do
    cred.validateForProving
    cred.isValidAt currentTimestamp

/-- **The validity window** has both its ends in it. -/
theorem isValidAt_ok_iff (cred : CredentialV2) (timestamp : UInt64) :
    cred.isValidAt timestamp = .ok () ↔ cred.iat ≤ timestamp ∧ timestamp ≤ cred.exp := by
  unfold CredentialV2.isValidAt
  split
  next hearly => exact iff_of_false (by simp) fun h => UInt64.not_lt.2 h.1 hearly
  next hstarted =>
    split
    next hlate => exact iff_of_false (by simp) fun h => UInt64.not_lt.2 h.2 hlate
    next hlive => exact iff_of_true rfl ⟨UInt64.not_lt.1 hstarted, UInt64.not_lt.1 hlive⟩

theorem validateForProving_ok_iff (cred : CredentialV2) :
    cred.validateForProving = .ok () ↔
      ∃ dobDays rBits, cred.dobDays = some dobDays ∧ cred.rBits = some rBits ∧
        rBits.length = rBitsLen := by
  unfold CredentialV2.validateForProving
  cases cred.dobDays with
  | none => simp
  | some dobDays =>
    cases cred.rBits with
    | none => simp
    | some rBits => simp

/-- **What the check of one credential accepts.** -/
theorem validateCredentials_ok_iff (cred : CredentialV2) (now : UInt64) :
    validateCredentials [cred] now = [.ok ()] ↔
      cred.validateForProving = .ok () ∧ cred.isValidAt now = .ok () := by
  show [cred.validateForProving >>= fun _ => cred.isValidAt now] = [.ok ()] ↔ _
  rw [List.cons.injEq, and_iff_left rfl, bind_eq_ok_iff]
  constructor
  · rintro ⟨_, h⟩
    exact h
  · intro h
    exact ⟨(), h⟩

/-! ## §2. When a request is built -/

/-- The checks before the prover, on the data they read. -/
structure Checked (X : ProverCrates Params) (st : ProverState Params) (now : UInt64)
    (cred : CredentialV2) (qr : QrChallengePayload) (params : Params) (dobDays : Int32)
    (rBits : List Bool) (rp : Bytes32) : Prop where
  loaded : st.provingParams = some params
  vkId : st.loadedVkId = some qr.verifyingKeyId
  live : now ≤ cred.exp
  challengeLive : now < qr.expiresAt
  hasDobDays : cred.dobDays = some dobDays
  hasRBits : cred.rBits = some rBits
  rBitsLength : rBits.length = rBitsLen
  rpChallenge : decodeB64_32 X.toCrates qr.rpChallenge = .ok rp
  signature : X.verifyCredV2 cred.credMsg cred.sigRj cred.issuerVk = .ok ()
  assembles : ∃ publics, assembleInputs X cred rp qr = .ok publics
  commitment : (recomputeCommitment X.toCrates cred dobDays rBits).2 = true
  age : validateAge dobDays qr.cutoffDays qr.underAge = true
  shape : verifyCircuitShape (ageWitness cred dobDays rBits) = .ok ()

/-- The prover proves: at once, or after one panic. -/
def Proves (X : ProverCrates Params) (params : Params) (cred : CredentialV2) (dobDays : Int32)
    (rBits : List Bool) (rp : Bytes32) (qr : QrChallengePayload) (proof : AgeSnarkProof) : Prop :=
  proveAttempt X params cred dobDays rBits rp qr 0 = .proved proof ∨
    proveAttempt X params cred dobDays rBits rp qr 0 = .panicked ∧
      proveAttempt X params cred dobDays rBits rp qr 1 = .proved proof

/-- **What it takes to build a request**: a thread to run on, the checks,
    and a proof of the challenge's cutoff. -/
def Requestable (X : ProverCrates Params) (thread : ProofThread) (st : ProverState Params)
    (now : UInt64) (cred : CredentialV2) (qr : QrChallengePayload) : Prop :=
  (thread.rayonWorker = true → thread.spawnError = none ∧ thread.panics = false) ∧
    ∃ params dobDays rBits rp proof, Checked X st now cred qr params dobDays rBits rp ∧
      Proves X params cred dobDays rBits rp qr proof ∧ proof.cutoff = qr.cutoffDays

/-- A proof is generated outside the pool, by one of two attempts. -/
theorem generateProofSafe_ok_iff (X : ProverCrates Params) (worker : Bool) (params : Params)
    (cred : CredentialV2) (dobDays : Int32) (rBits : List Bool) (rp : Bytes32)
    (qr : QrChallengePayload) (proof : AgeSnarkProof) :
    generateProofSafe X worker params qr.cutoffDays rp (ageWitness cred dobDays rBits)
        qr.verifyingKeyId (proverDirection qr) = .ok proof ↔
      worker = false ∧ Proves X params cred dobDays rBits rp qr proof := by
  have hattempt : ∀ attempt, X.proveAgeSnarkAuto attempt params qr.cutoffDays rp
      (ageWitness cred dobDays rBits) qr.verifyingKeyId (proverDirection qr) =
        proveAttempt X params cred dobDays rBits rp qr attempt := fun _ => rfl
  unfold generateProofSafe Proves
  rw [hattempt, hattempt]
  cases worker with
  | true => simp
  | false =>
    rw [if_neg Bool.false_ne_true]
    cases proveAttempt X params cred dobDays rBits rp qr 0 with
    | proved p => simp
    | failed e => simp
    | panicked =>
      cases proveAttempt X params cred dobDays rBits rp qr 1 with
      | proved p => simp
      | failed e => simp
      | panicked => simp

/-- The checks of the preflight are enough for its report. -/
theorem preflightReport_of_checked {X : ProverCrates Params} {st : ProverState Params}
    {now : UInt64} {cred : CredentialV2} {qr : QrChallengePayload} {params : Params}
    {dobDays : Int32} {rBits : List Bool} {rp : Bytes32}
    (h : Checked X st now cred qr params dobDays rBits rp) :
    ∃ report, preflightReport X st cred qr = .ok report ∧ report.commitmentMatches = true ∧
      report.ageOk = true := by
  obtain ⟨publics, hpublics⟩ := h.assembles
  have hdir : decide (qr.proofDirection ≠ some "under_age") = !qr.underAge := by
    unfold QrChallengePayload.underAge
    rw [decide_not]
  unfold assembleInputs at hpublics
  unfold preflightReport checkRBitsLen
  simp only [h.hasDobDays, h.hasRBits, okOr_some, ok_bind, require_pos h.rBitsLength, h.rpChallenge,
    h.signature, mapError_ok, hdir, hpublics]
  exact ⟨_, rfl, h.commitment, h.age⟩

/-- The inner build passes the checks, and has a proof. -/
theorem buildVerifyRequestInternal_iff (X : ProverCrates Params) (worker : Bool)
    (st : ProverState Params) (now : UInt64) (cred : CredentialV2) (qr : QrChallengePayload) :
    (∃ req, buildVerifyRequestInternal X worker st now cred qr = .ok req) ↔
      worker = false ∧ ∃ params dobDays rBits rp proof,
        Checked X st now cred qr params dobDays rBits rp ∧
          Proves X params cred dobDays rBits rp qr proof ∧ proof.cutoff = qr.cutoffDays := by
  unfold buildVerifyRequestInternal checkRBitsLen
  simp only [bind_eq_ok_iff, okOr_eq_ok_iff, require_eq_ok_iff, exists_const]
  constructor
  · rintro ⟨req, params, hparams, vkId, hvk, hvkid, hexp, hexpires, report, hreport, hcommit, hage,
      dobDays, hdob, rBits, hbits, hlen, rp, hrp, _, hshape, proof, hproof, hcutoff, -⟩
    -- the preflight saw the same private fields and the same challenge
    obtain ⟨publics, hsig, hpub, hmatch, hageOk, -⟩ :=
      preflightReport_of_private X st cred qr report hreport hdob hbits hrp
    obtain ⟨hworker, hproves⟩ :=
      (generateProofSafe_ok_iff X worker params cred dobDays rBits rp qr proof).1 hproof
    refine ⟨hworker, params, dobDays, rBits, rp, proof, ?_, hproves, hcutoff⟩
    exact
      { loaded := hparams
        vkId := hvkid ▸ hvk
        live := UInt64.not_lt.1 hexp
        challengeLive := UInt64.not_le.1 hexpires
        hasDobDays := hdob
        hasRBits := hbits
        rBitsLength := hlen
        rpChallenge := hrp
        signature := hsig
        assembles := ⟨publics, hpub⟩
        commitment := hmatch ▸ hcommit
        age := hageOk ▸ hage
        shape := hshape }
  · rintro ⟨rfl, params, dobDays, rBits, rp, proof, h, hproves, hcutoff⟩
    obtain ⟨report, hreport, hmatch, hage⟩ := preflightReport_of_checked h
    exact ⟨_, params, h.loaded, qr.verifyingKeyId, h.vkId, rfl, UInt64.not_lt.2 h.live,
      UInt64.not_le.2 h.challengeLive, report, hreport, hmatch, hage, dobDays, h.hasDobDays, rBits,
      h.hasRBits, h.rBitsLength, rp, h.rpChallenge, (), h.shape, proof,
      (generateProofSafe_ok_iff X false params cred dobDays rBits rp qr proof).2 ⟨rfl, hproves⟩,
      hcutoff, rfl⟩

/-- **Exactly when a request is built.** -/
theorem buildVerifyRequest_iff (X : ProverCrates Params) (thread : ProofThread)
    (st : ProverState Params) (now : UInt64) (cred : CredentialV2) (qr : QrChallengePayload) :
    (∃ req, buildVerifyRequest X thread st now cred qr = .ok req) ↔
      Requestable X thread st now cred qr := by
  unfold buildVerifyRequest Requestable
  cases hworker : thread.rayonWorker with
  | false =>
    simp only [Bool.false_eq_true, if_false, false_implies, true_and]
    rw [buildVerifyRequestInternal_iff, and_iff_right rfl]
  | true =>
    simp only [if_true, true_implies]
    cases thread.spawnError with
    | some e => simp
    | none =>
      cases thread.panics with
      | true => simp
      | false =>
        simp only [Bool.false_eq_true, if_false, true_and]
        rw [buildVerifyRequestInternal_iff, and_iff_right rfl]

/-! ## §3. What a request is refused for -/

/-- The errors that lay the failure on the credential: its expiry, its
    private fields or the birth day. -/
def RefusesCredential : ProverError → Prop
  | .credentialExpired => True
  | .missingPrivateFields => True
  | .ageRequirementNotMet => True
  | _ => False

/-- The first checks of a build, down to the ones on times. -/
def checkTimes (st : ProverState Params) (now : UInt64) (cred : CredentialV2)
    (qr : QrChallengePayload) : Except ProverError Unit := do
  let _ ← okOr st.provingParams .notInitialized
  let loadedVkId ← okOr st.loadedVkId .notInitialized
  require (loadedVkId = qr.verifyingKeyId) (.vkIdMismatch loadedVkId qr.verifyingKeyId)
  require (¬ cred.exp < now) .credentialExpired
  require (¬ qr.expiresAt ≤ now) .challengeExpired

/-- A kind of error with which the checks behind these do not end: it is
    no complaint with a text, and none about the credential's private
    fields or age, unless these are in order. -/
structure Spares (P : ProverError → Prop) (cred : CredentialV2) (qr : QrChallengePayload) : Prop where
  base64 : ∀ msg, ¬ P (.invalidBase64 msg)
  input : ∀ msg, ¬ P (.invalidInput msg)
  proof : ∀ msg, ¬ P (.proofGenerationFailed msg)
  dobDays : P .missingPrivateFields → cred.dobDays ≠ none
  rBits : P .missingPrivateFields → cred.rBits ≠ none
  age : P .ageRequirementNotMet → ∀ dobDays ∈ cred.dobDays,
    validateAge dobDays qr.cutoffDays qr.underAge = true

section Spared

variable {P : ProverError → Prop} {cred : CredentialV2} {qr : QrChallengePayload}

private theorem require_spared {c : Prop} [Decidable c] {e : ProverError} (he : ¬ P e) :
    ¬ FailsWith P (require c e) := by
  rw [failsWith_require_iff]
  exact fun h => he h.2

/-- The private fields that are asked for are there. -/
private theorem field_spared {α : Type} {o : Option α} {e : ProverError} (h : P e → o ≠ none) :
    ¬ FailsWith P (okOr o e) := by
  rw [failsWith_okOr_iff]
  exact fun hfails => h hfails.2 hfails.1

private theorem mapError_spared {α : Type} {x : Except String α} {f : String → ProverError}
    (h : ∀ e, ¬ P (f e)) : ¬ FailsWith P (x.mapError f) := by
  rw [failsWith_mapError_iff]
  rintro ⟨e, -, he⟩
  exact h e he

private theorem decodeB64_32_spared (h : Spares P cred qr) (X : Crates) (text : String) :
    ¬ FailsWith P (decodeB64_32 X text) := by
  unfold decodeB64_32
  cases X.b64.decode text.toList with
  | error e =>
    rw [failsWith_error]
    exact h.base64 _
  | ok raw =>
    simp only
    split
    · exact (failsWith_ok _ _).1
    · rw [failsWith_error]
      exact h.base64 _

private theorem preflightReport_spared (h : Spares P cred qr) (X : ProverCrates Params)
    (st : ProverState Params) : ¬ FailsWith P (preflightReport X st cred qr) := by
  unfold preflightReport checkRBitsLen
  refine not_failsWith_bind (field_spared h.dobDays) fun _ _ =>
    not_failsWith_bind (field_spared h.rBits) fun _ _ =>
    not_failsWith_bind (require_spared (h.input _)) fun _ _ =>
    not_failsWith_bind (decodeB64_32_spared h _ _) fun _ _ => not_failsWith_bind ?_ fun _ _ =>
    not_failsWith_bind (mapError_spared fun _ => h.input _) fun _ _ => (failsWith_ok _ _).1
  -- a signature that does not verify
  rw [failsWith_mapError_iff]
  rintro ⟨e, -, he⟩
  exact h.input _ he

private theorem generateProofSafe_spared (h : Spares P cred qr) (X : ProverCrates Params)
    (worker : Bool) (params : Params) (cutoffDays : Int32) (rp : Bytes32) (witness : AgeWitness)
    (vkId : UInt32) (direction : AgeDirection) :
    ¬ FailsWith P (generateProofSafe X worker params cutoffDays rp witness vkId direction) := by
  unfold generateProofSafe
  rintro ⟨e, he, hP⟩
  split at he
  · injection he with he
    exact h.proof _ (he ▸ hP)
  · split at he
    · cases he
    · injection he with he
      exact h.proof _ (he ▸ hP)
    · split at he
      · cases he
      · injection he with he
        exact h.proof _ (he ▸ hP)
      · injection he with he
        exact h.proof _ (he ▸ hP)

/-- **A build ends with a spared error where its first checks do.** -/
theorem buildVerifyRequestInternal_fails_iff (h : Spares P cred qr) (X : ProverCrates Params)
    (worker : Bool) (st : ProverState Params) (now : UInt64) :
    FailsWith P (buildVerifyRequestInternal X worker st now cred qr) ↔
      FailsWith P (checkTimes st now cred qr) := by
  unfold buildVerifyRequestInternal checkTimes verifyCircuitShape checkRBitsLen
  refine failsWith_bind_congr fun params _ => failsWith_bind_congr fun vkId _ =>
    failsWith_bind_congr fun _ _ => failsWith_bind_congr fun _ _ => ?_
  rw [failsWith_bind_iff, or_iff_left]
  rintro ⟨-, -, hfails⟩
  revert hfails
  refine not_failsWith_bind (preflightReport_spared h X st) fun report hreport =>
    not_failsWith_bind (require_spared (h.input _)) fun _ _ => not_failsWith_bind ?_ fun _ _ =>
    not_failsWith_bind (field_spared h.dobDays) fun _ _ =>
    not_failsWith_bind (field_spared h.rBits) fun _ _ =>
    not_failsWith_bind (require_spared (h.input _)) fun _ _ =>
    not_failsWith_bind (decodeB64_32_spared h _ _) fun _ _ => not_failsWith_bind ?_ fun _ _ =>
    not_failsWith_bind (generateProofSafe_spared h _ _ _ _ _ _ _ _) fun _ _ =>
    not_failsWith_bind (require_spared (h.proof _)) fun _ _ => (failsWith_ok _ _).1
  · -- the report's verdict on the age is that of the birth day
    obtain ⟨dobDays, -, -, -, hdob, -, -, -, -, -, -, hageOk, -⟩ :=
      preflightReport_ok X st cred qr report hreport
    rw [failsWith_require_iff]
    rintro ⟨hnot, hP⟩
    rw [h.age hP dobDays hdob] at hageOk
    exact hnot hageOk
  · exact not_failsWith_bind (require_spared (h.input _)) fun _ _ =>
      not_failsWith_bind (require_spared (h.input _)) fun _ _ =>
      not_failsWith_bind (require_spared (h.input _)) fun _ _ => require_spared (h.input _)

/-- And so does a build on whatever thread, if there is one. -/
theorem buildVerifyRequest_fails_iff (h : Spares P cred qr) (X : ProverCrates Params)
    (thread : ProofThread) (st : ProverState Params) (now : UInt64) :
    FailsWith P (buildVerifyRequest X thread st now cred qr) ↔
      (thread.rayonWorker = true → thread.spawnError = none ∧ thread.panics = false) ∧
        FailsWith P (checkTimes st now cred qr) := by
  unfold buildVerifyRequest
  cases thread.rayonWorker with
  | false =>
    simp only [Bool.false_eq_true, if_false, false_implies, true_and]
    exact buildVerifyRequestInternal_fails_iff h X _ st now
  | true =>
    simp only [if_true, true_implies]
    cases thread.spawnError with
    | some e => simp [h.proof]
    | none =>
      cases thread.panics with
      | true => simp [h.proof]
      | false =>
        simp only [Bool.false_eq_true, if_false, true_and]
        exact buildVerifyRequestInternal_fails_iff h X _ st now

end Spared

/-- **A fit credential is not refused**: with a credential that has not
    expired, has its private fields and passes the age check, a request
    fails for other reasons only. -/
theorem buildVerifyRequest_not_refused (X : ProverCrates Params) (thread : ProofThread)
    (st : ProverState Params) {now : UInt64} {cred : CredentialV2} {qr : QrChallengePayload}
    {dobDays : Int32} {rBits : List Bool} (hlive : ¬ cred.exp < now)
    (hdob : cred.dobDays = some dobDays) (hbits : cred.rBits = some rBits)
    (hage : validateAge dobDays qr.cutoffDays qr.underAge = true) :
    ¬ FailsWith RefusesCredential (buildVerifyRequest X thread st now cred qr) := by
  have hspares : Spares RefusesCredential cred qr := by
    refine ⟨fun _ => id, fun _ => id, fun _ => id, ?_, ?_, ?_⟩
    · rw [hdob]
      exact fun _ => Option.some_ne_none dobDays
    · rw [hbits]
      exact fun _ => Option.some_ne_none rBits
    · intro _ dobDays' hdob'
      rw [hdob] at hdob'
      injection hdob' with hdob'
      rw [← hdob', hage]
  rw [buildVerifyRequest_fails_iff hspares]
  rintro ⟨-, hfails⟩
  revert hfails
  unfold checkTimes
  rw [require_pos hlive]
  exact not_failsWith_bind (field_spared fun h => h.elim) fun _ _ =>
    not_failsWith_bind (field_spared fun h => h.elim) fun _ _ =>
    not_failsWith_bind (require_spared id) fun _ _ => require_spared id

/-- What a build has passed when it comes to the challenge's expiry. -/
structure ReachesExpiry (thread : ProofThread) (st : ProverState Params) (now : UInt64)
    (cred : CredentialV2) (qr : QrChallengePayload) : Prop where
  runs : thread.rayonWorker = true → thread.spawnError = none ∧ thread.panics = false
  loaded : st.provingParams ≠ none
  vkId : st.loadedVkId = some qr.verifyingKeyId
  live : now ≤ cred.exp

/-- **When a build ends with an expired challenge**: when it comes to that
    check, and the expiry is not later than the time. -/
theorem buildVerifyRequest_challengeExpired_iff (X : ProverCrates Params) (thread : ProofThread)
    (st : ProverState Params) (now : UInt64) (cred : CredentialV2) (qr : QrChallengePayload) :
    buildVerifyRequest X thread st now cred qr = .error .challengeExpired ↔
      ReachesExpiry thread st now cred qr ∧ qr.expiresAt ≤ now := by
  have hspares : Spares (fun e => e = .challengeExpired) cred qr := by
    constructor
    case base64 | input | proof =>
      intro msg h
      cases h
    case dobDays | rBits | age =>
      intro h
      cases h
  have hfails : buildVerifyRequest X thread st now cred qr = .error .challengeExpired ↔
      FailsWith (fun e => e = .challengeExpired) (buildVerifyRequest X thread st now cred qr) := by
    unfold FailsWith
    simp only [exists_eq_right]
  rw [hfails, buildVerifyRequest_fails_iff hspares]
  unfold checkTimes
  -- of the first checks the last one alone ends with this error
  simp only [failsWith_bind_iff, failsWith_okOr_iff, failsWith_require_iff, okOr_eq_ok_iff,
    require_eq_ok_iff, reduceCtorEq, and_false, false_or, and_true, exists_const, not_not]
  constructor
  · rintro ⟨hruns, params, hparams, vkId, hvk, hsame, hlive, hexpired⟩
    refine ⟨⟨hruns, ?_, hsame ▸ hvk, UInt64.not_lt.1 hlive⟩, hexpired⟩
    rw [hparams]
    exact Option.some_ne_none params
  · rintro ⟨h, hexpired⟩
    obtain ⟨params, hparams⟩ := Option.ne_none_iff_exists'.1 h.loaded
    exact ⟨h.runs, params, hparams, _, h.vkId, rfl, UInt64.not_lt.2 h.live, hexpired⟩

/-! ## §4. The two agree -/

/-- **Requests are built for valid credentials only**: with a request,
    the credential passes the check of its window, and with it the check
    of the list. -/
def RequestsValid (X : ProverCrates Params) (thread : ProofThread) (st : ProverState Params)
    (now : UInt64) (cred : CredentialV2) (qr : QrChallengePayload) : Prop :=
  ∀ req, buildVerifyRequest X thread st now cred qr = .ok req →
    cred.isValidAt now = .ok () ∧ validateCredentials [cred] now = [.ok ()]

/-- **When a built request means that the credential is valid**: when the
    credential's first day has come, or no request is built at all. -/
theorem requests_valid_iff (X : ProverCrates Params) (thread : ProofThread)
    (st : ProverState Params) (now : UInt64) (cred : CredentialV2) (qr : QrChallengePayload) :
    RequestsValid X thread st now cred qr ↔
      (Requestable X thread st now cred qr → cred.iat ≤ now) := by
  constructor
  · intro hvalid hrequestable
    obtain ⟨req, hreq⟩ := (buildVerifyRequest_iff X thread st now cred qr).2 hrequestable
    exact ((isValidAt_ok_iff cred now).1 (hvalid req hreq).1).1
  · intro hstarted req hreq
    have hrequestable := (buildVerifyRequest_iff X thread st now cred qr).1 ⟨req, hreq⟩
    have hiat := hstarted hrequestable
    obtain ⟨-, params, dobDays, rBits, rp, proof, hchecked, -, -⟩ := hrequestable
    have hwindow : cred.isValidAt now = .ok () :=
      (isValidAt_ok_iff cred now).2 ⟨hiat, hchecked.live⟩
    refine ⟨hwindow, (validateCredentials_ok_iff cred now).2 ⟨?_, hwindow⟩⟩
    exact (validateForProving_ok_iff cred).2
      ⟨dobDays, rBits, hchecked.hasDobDays, hchecked.hasRBits, hchecked.rBitsLength⟩

/-- A request is built a second before the credential's first one. -/
theorem request_before_iat :
    buildVerifyRequest sampleProver callerThread loadedProver 0 provableCredential sampleChallenge =
        .ok sampleRequest ∧
      provableCredential.isValidAt 0 = .error .notYetValid ∧
      ¬ RequestsValid sampleProver callerThread loadedProver 0 provableCredential
        sampleChallenge := by
  have hbuilt : buildVerifyRequest sampleProver callerThread loadedProver 0 provableCredential
      sampleChallenge = .ok sampleRequest := by decide +kernel
  have hearly : provableCredential.isValidAt 0 = .error .notYetValid := by decide
  refine ⟨hbuilt, hearly, fun h => ?_⟩
  have hvalid := (h sampleRequest hbuilt).1
  rw [hearly] at hvalid
  cases hvalid

end ProviiSdk.Core
