/-
  ProviiSdk.Wallet.Diagnosis — a failed proof, explained.

  The wallet has two methods that explain why a proof fails.  The
  diagnosis of a failed proof recomputes the commitment, checks the age
  and looks at the prover, and marks each line of its text as good or
  bad.  The preflight of the debug builds runs the core crate's own
  checks.  Both read the store as a proof does, each in its own way and
  with its own error texts.  This file compares the three on any store
  and any outcomes of its reads.

  Main results:
    * `diagnosis_clean_iff` — when a diagnosis has no complaint.
    * `diagnosis_agrees` — proof, diagnosis and preflight agree, and what
      the diagnosis shows of the secrets.
-/

import ProviiSdk.Wallet.ProverSetup
import ProviiSdk.Wallet.Suitability

namespace ProviiSdk.Wallet

open ProviiSdk.Core ProviiSdk.Platform ProviiSdk.Ffi ProviiSdk.Check ProviiSdk.BoundedCache
open ProviiSdk.Text

variable {Params : Type}

/-! ## §1. The two methods -/

/-- The external functions of the two methods. -/
structure DiagnosticCrates (Params : Type) extends WalletCrates Params where
  -- the `Debug` text of the error with this `Display` text
  commitErrorDebug : String → String
  preflightJson : PreflightReport → Except String String

/-- What is said of the secrets that were loaded. -/
def loadedLine (rBits : List Bool) : String :=
  "✓ Loaded secrets: dob_days=REDACTED, r_bits_len=" ++ toString rBits.length

def lengthLine (rBits : List Bool) : String :=
  "✗ ERROR: r_bits length is " ++ toString rBits.length ++ ", expected 128!"

/-- What is said of the commitment. -/
def commitmentLines (X : DiagnosticCrates Params) (cBytes : Bytes32) :
    Except String Bytes32 → List String
  | .ok recomputed =>
    if recomputed ≠ cBytes then
      ["✗ Commitment mismatch!", "  Original: " ++ hexEncode cBytes.toList,
        "  Recomputed: " ++ hexEncode recomputed.toList]
    else ["✓ Commitment matches"]
  | .error e => ["✗ Commitment validation failed: " ++ X.commitErrorDebug e]

/-- What is said of the age.  The birth day is not shown. -/
def ageLine (challenge : QrChallengePayload) (ageOk : Bool) : String :=
  (if ageOk then "✓" else "✗") ++ " Age check: [REDACTED] " ++
    (if challenge.underAge then ">=" else "<=") ++ " " ++ toString challenge.cutoffDays.toInt ++
    " = " ++ toString ageOk

/-- What is said of the prover. -/
def proverLines (cells : ProverState Params) : List String :=
  if isProverInitialized cells then
    "✓ Prover initialised" ::
      (getProvingKeyFingerprint cells).toList.map ("  Fingerprint: " ++ ·)
  else ["✗ Prover NOT initialised!"]

/-- The checks of a diagnosis on a credential, after what was said so
    far. -/
def diagnoseCredential (X : DiagnosticCrates Params) (cells : ProverState Params)
    (challengeId : String) (cached : Cache String CachedChallenge) (cred : CredentialV2)
    (diagnostics : List String) : Except FfiError (List String) := do
  let challenge ← okOr (cached.lookup challengeId) (.generic "Challenge not found")
  let rBits ← okOr cred.rBits (.generic "r_bits not loaded into credential")
  let dobDays ← okOr cred.dobDays (.generic "dob_days not loaded into credential")
  return diagnostics ++
    commitmentLines X cred.cBytes (X.pedersenCommitDobValidated dobDays rBits) ++
    ageLine challenge.payload
      (validateAge dobDays challenge.payload.cutoffDays challenge.payload.underAge) ::
    proverLines cells

/-- The lines of a diagnosis. -/
def diagnosis (X : DiagnosticCrates Params) (env : ProofEnv Params) (credentialId : Key)
    (challengeId : String) (cached : Cache String CachedChallenge) :
    Except FfiError (List String) := do
  let found ← (env.storage.read (getCredential X.toCrates env.get credentialId)).mapError .generic
  let cred ← okOr found (.generic "Credential not found")
  let loaded ← (env.storage.read (loadCredentialSecrets X.toCrates env.load credentialId)).mapError
    .generic
  match loaded with
  | none => diagnoseCredential X env.prover challengeId cached cred []
  | some secrets =>
    -- an early end, before the challenge is looked for
    if secrets.rBits.length ≠ 128 then return [loadedLine secrets.rBits, lengthLine secrets.rBits]
    else
      diagnoseCredential X env.prover challengeId cached
        { cred with dobDays := some secrets.dobDays, rBits := some secrets.rBits }
        [loadedLine secrets.rBits]

/-- The text of a diagnosis. -/
def diagnoseProofFailure (X : DiagnosticCrates Params) (env : ProofEnv Params) (credentialId : Key)
    (challengeId : String) (cached : Cache String CachedChallenge) : Except FfiError String := do
  let diagnostics ← diagnosis X env credentialId challengeId cached
  return "\n".intercalate diagnostics

/-- The credential of a preflight, with its private fields. -/
def preflightCredential (X : DiagnosticCrates Params) (env : ProofEnv Params) (credentialId : Key) :
    Except FfiError CredentialV2 := do
  let found ← (env.storage.read (getCredential X.toCrates env.get credentialId)).mapError .generic
  let cred ← okOr found (.generic "Credential not found")
  if cred.dobDays.isNone || cred.rBits.isNone then do
    let loaded ← (env.storage.read (loadCredentialSecrets X.toCrates env.load credentialId)).mapError
      .generic
    let secrets ← okOr loaded (.invalidFormat "Credential missing secrets")
    return { cred with dobDays := some secrets.dobDays, rBits := some secrets.rBits }
  else return cred

/-- The report of a preflight. -/
def walletPreflight (X : DiagnosticCrates Params) (env : ProofEnv Params) (credentialId : Key)
    (challengeId : String) (cached : Cache String CachedChallenge) :
    Except FfiError PreflightReport := do
  let cred ← preflightCredential X env credentialId
  let challenge ← okOr (cached.lookup challengeId) (.generic "Challenge not found")
  (preflightReport X.toProverCrates env.prover cred challenge.payload).mapError fun e =>
    .prover (proverErrorDisplay e)

/-- The report as JSON. -/
def debugPreflight (X : DiagnosticCrates Params) (env : ProofEnv Params) (credentialId : Key)
    (challengeId : String) (cached : Cache String CachedChallenge) : Except FfiError String := do
  let report ← walletPreflight X env credentialId challengeId cached
  (X.preflightJson report).mapError .invalidFormat

/-! ## §2. The three read one credential -/

/-- A credential that is found has no private fields. -/
private theorem private_of_found {X : Crates} {storage : Storage} {f : Faults} {id : Key}
    {found : CredentialV2} (h : storage.read (getCredential X f id) = .ok (some found)) :
    found.dobDays = none ∧ found.rBits = none := by
  unfold Storage.read at h
  cases hkv : storage.backend with
  | none =>
    rw [hkv] at h
    cases h
  | some kv =>
    rw [hkv] at h
    obtain ⟨item, stored, -, hdecode, rfl⟩ := getCredential_some h
    exact decodeStored_private hdecode

/-- **What a proof reads**: a public record, and a secrets record. -/
theorem credentialWithSecrets_ok_iff (X : WalletCrates Params) (env : ProofEnv Params) (id : Key)
    (cred : CredentialV2) :
    credentialWithSecrets X env id = .ok cred ↔
      ∃ found secrets, env.storage.read (getCredential X.toCrates env.get id) = .ok (some found) ∧
        env.storage.read (loadCredentialSecrets X.toCrates env.load id) = .ok (some secrets) ∧
        cred = { found with dobDays := some secrets.dobDays, rBits := some secrets.rBits } := by
  unfold credentialWithSecrets
  simp only [bind_eq_ok_iff, mapError_eq_ok_iff, okOr_eq_ok_iff]
  constructor
  · intro h
    obtain ⟨_, hget, found, rfl, h⟩ := h
    have hprivate : (found.dobDays.isNone || found.rBits.isNone) = true := by
      rw [(private_of_found hget).1]
      rfl
    simp only [hprivate, if_true, bind_eq_ok_iff, mapError_eq_ok_iff, okOr_eq_ok_iff] at h
    obtain ⟨_, hload, secrets, rfl, h⟩ := h
    injection h with h
    exact ⟨found, secrets, hget, hload, h.symm⟩
  · intro h
    obtain ⟨found, secrets, hget, hload, rfl⟩ := h
    have hprivate : (found.dobDays.isNone || found.rBits.isNone) = true := by
      rw [(private_of_found hget).1]
      rfl
    refine ⟨some found, hget, found, rfl, ?_⟩
    simp only [hprivate, if_true, hload, mapError_ok, ok_bind, okOr_some]
    rfl

/-- A preflight reads what a proof reads. -/
theorem preflightCredential_ok_iff (X : DiagnosticCrates Params) (env : ProofEnv Params) (id : Key)
    (cred : CredentialV2) :
    preflightCredential X env id = .ok cred ↔
      credentialWithSecrets X.toWalletCrates env id = .ok cred := by
  unfold preflightCredential credentialWithSecrets
  simp only [bind_eq_ok_iff, mapError_eq_ok_iff, okOr_eq_ok_iff]
  refine exists_congr fun found => and_congr_right fun _ => exists_congr fun cred' =>
    and_congr_right fun _ => ?_
  split
  · simp only [bind_eq_ok_iff, mapError_eq_ok_iff, okOr_eq_ok_iff]
  · exact Iff.rfl

/-- A diagnosis reads what a proof reads, and ends early over bits of
    another length. -/
theorem diagnosis_of_loaded (X : DiagnosticCrates Params) {env : ProofEnv Params} {id : Key}
    {cred : CredentialV2} (h : credentialWithSecrets X.toWalletCrates env id = .ok cred)
    {rBits : List Bool} (hbits : cred.rBits = some rBits) (challengeId : String)
    (cached : Cache String CachedChallenge) :
    diagnosis X env id challengeId cached =
      if rBits.length ≠ 128 then .ok [loadedLine rBits, lengthLine rBits]
      else diagnoseCredential X env.prover challengeId cached cred [loadedLine rBits] := by
  obtain ⟨found, secrets, hget, hload, rfl⟩ := (credentialWithSecrets_ok_iff ..).1 h
  injection hbits with hbits
  subst hbits
  unfold diagnosis
  rw [hget, hload]
  simp only [mapError_ok, ok_bind, okOr_some]
  rfl

/-! ## §3. Complaints -/

/-- A line that complains begins with a cross. -/
def Complains (line : String) : Prop := line.toList.head? = some '✗'

/-- No line complains. -/
def NoComplaint (lines : List String) : Prop := ∀ line ∈ lines, ¬ Complains line

theorem noComplaint_append (xs ys : List String) :
    NoComplaint (xs ++ ys) ↔ NoComplaint xs ∧ NoComplaint ys := List.forall_mem_append

theorem noComplaint_cons (line : String) (lines : List String) :
    NoComplaint (line :: lines) ↔ ¬ Complains line ∧ NoComplaint lines := List.forall_mem_cons

/-- A line begins as its first part does. -/
private theorem head_append {mark : Char} {text : String} (h : text.toList.head? = some mark)
    (rest : String) : (text ++ rest).toList.head? = some mark := by
  rw [String.toList_append, List.head?_append, h]
  rfl

private theorem complains_of_head (mark : Char) {line : String}
    (h : line.toList.head? = some mark) : Complains line ↔ mark = '✗' := by
  unfold Complains
  rw [h, Option.some.injEq]

theorem loadedLine_not_complains (rBits : List Bool) : ¬ Complains (loadedLine rBits) := by
  have hmark : (loadedLine rBits).toList.head? = some '✓' :=
    head_append (by decide) _
  rw [complains_of_head _ hmark]
  decide

theorem lengthLine_complains (rBits : List Bool) : Complains (lengthLine rBits) :=
  head_append (head_append (by decide) _) _

/-- The commitment is complained about unless it is the credential's. -/
theorem noComplaint_commitmentLines (X : DiagnosticCrates Params) (cBytes : Bytes32)
    (recomputed : Except String Bytes32) :
    NoComplaint (commitmentLines X cBytes recomputed) ↔ recomputed = .ok cBytes := by
  cases recomputed with
  | error e =>
    refine iff_of_false ?_ (fun h => by cases h)
    intro h
    exact h _ (List.mem_singleton_self _) (head_append (by decide) _)
  | ok c =>
    show NoComplaint (if c ≠ cBytes then _ else _) ↔ _
    by_cases hc : c = cBytes
    · rw [if_neg (not_not.2 hc), hc]
      refine iff_of_true ?_ rfl
      intro line hline
      rw [List.mem_singleton.1 hline, complains_of_head '✓' (by decide)]
      decide
    · rw [if_pos hc]
      refine iff_of_false ?_ ?_
      · intro h
        exact h _ (List.mem_cons_self ..) (by unfold Complains; decide)
      · intro h
        injection h with h
        exact hc h

/-- The age is complained about unless it passes. -/
theorem complains_ageLine (challenge : QrChallengePayload) (ageOk : Bool) :
    Complains (ageLine challenge ageOk) ↔ ageOk = false := by
  have hhead : ∀ mark : String, ∀ c, mark.toList.head? = some c →
      (mark ++ " Age check: [REDACTED] " ++ (if challenge.underAge then ">=" else "<=") ++ " " ++
        toString challenge.cutoffDays.toInt ++ " = " ++ toString ageOk).toList.head? = some c := by
    intro mark c h
    iterate 6 apply head_append
    exact h
  cases ageOk with
  | false => exact iff_of_true (hhead "✗" '✗' (by decide)) rfl
  | true =>
    refine iff_of_false ?_ (fun h => by cases h)
    have hmark : (ageLine challenge true).toList.head? = some '✓' := hhead "✓" '✓' (by decide)
    rw [complains_of_head _ hmark]
    decide

/-- The prover is complained about unless it is initialised. -/
theorem noComplaint_proverLines (cells : ProverState Params) :
    NoComplaint (proverLines cells) ↔ isProverInitialized cells = true := by
  unfold proverLines
  split
  next hinit =>
    refine iff_of_true ?_ hinit
    rw [noComplaint_cons, complains_of_head '✓' (by decide)]
    refine ⟨by decide, ?_⟩
    intro line hline
    obtain ⟨fp, -, rfl⟩ := List.mem_map.1 hline
    rw [complains_of_head ' ' (head_append (by decide) _)]
    decide
  next hinit =>
    refine iff_of_false ?_ hinit
    intro h
    exact h _ (List.mem_singleton_self _) (by unfold Complains; decide)

/-- **When a diagnosis has no complaint**: the challenge is cached, the
    bits have the committed length, the commitment opens to the private
    fields, the age passes, and the prover is initialised. -/
theorem diagnosis_clean_iff (X : DiagnosticCrates Params) {env : ProofEnv Params} {id : Key}
    {cred : CredentialV2} (h : credentialWithSecrets X.toWalletCrates env id = .ok cred)
    {dobDays : Int32} {rBits : List Bool} (hdob : cred.dobDays = some dobDays)
    (hbits : cred.rBits = some rBits) (challengeId : String)
    (cached : Cache String CachedChallenge) :
    (∃ lines, diagnosis X env id challengeId cached = .ok lines ∧ NoComplaint lines) ↔
      ∃ entry, cached.lookup challengeId = some entry ∧ rBits.length = 128 ∧
        X.pedersenCommitDobValidated dobDays rBits = .ok cred.cBytes ∧
        validateAge dobDays entry.payload.cutoffDays entry.payload.underAge = true ∧
        isProverInitialized env.prover = true := by
  rw [diagnosis_of_loaded X h hbits]
  by_cases hlen : rBits.length = 128
  · rw [if_neg (not_not.2 hlen)]
    unfold diagnoseCredential
    cases hentry : cached.lookup challengeId with
    | none =>
      constructor
      · intro hlines
        obtain ⟨_, hlines, _⟩ := hlines
        cases hlines
      · intro hentry
        obtain ⟨_, hentry, _⟩ := hentry
        cases hentry
    | some entry =>
      simp only [okOr_some, ok_bind, hbits, hdob, Option.some.injEq, exists_eq_left', hlen, true_and]
      constructor
      · intro hlines
        obtain ⟨lines, hlines, hclean⟩ := hlines
        injection hlines with hlines
        rw [← hlines] at hclean
        simp only [noComplaint_append, noComplaint_cons, noComplaint_commitmentLines,
          complains_ageLine, noComplaint_proverLines, Bool.not_eq_false] at hclean
        exact ⟨hclean.1.2, hclean.2.1, hclean.2.2⟩
      · intro hclean
        refine ⟨_, rfl, ?_⟩
        simp only [noComplaint_append, noComplaint_cons, noComplaint_commitmentLines,
          complains_ageLine, noComplaint_proverLines, Bool.not_eq_false]
        exact ⟨⟨⟨loadedLine_not_complains rBits, List.forall_mem_nil _⟩, hclean.1⟩, hclean.2.1,
          hclean.2.2⟩
  · rw [if_pos hlen]
    refine iff_of_false ?_ ?_
    · intro hlines
      obtain ⟨lines, hlines, hclean⟩ := hlines
      injection hlines with hlines
      refine hclean (lengthLine rBits) ?_ (lengthLine_complains rBits)
      rw [← hlines]
      exact List.mem_cons_of_mem _ (List.mem_singleton_self _)
    · intro hentry
      obtain ⟨_, _, hlen', _⟩ := hentry
      exact hlen hlen'

/-! ## §4. Proof, diagnosis and preflight -/

/-- What a proof needs beyond what a diagnosis looks at: the expiries,
    the challenge's key, text and public inputs, the signature, the
    lengths of the circuit, and a prover that proves. -/
structure Unexamined (X : DiagnosticCrates Params) (env : ProofEnv Params) (cred : CredentialV2)
    (dobDays : Int32) (rBits : List Bool) (qr : QrChallengePayload) : Prop where
  live : unixSecs env.now ≤ cred.exp
  liveAtBuild : unixSecs env.buildNow ≤ cred.exp
  challengeLive : unixSecs env.buildNow < qr.expiresAt
  vkId : env.prover.loadedVkId = some qr.verifyingKeyId
  signature : X.verifyCredV2 cred.credMsg cred.sigRj cred.issuerVk = .ok ()
  shape : verifyCircuitShape (ageWitness cred dobDays rBits) = .ok ()
  thread : env.thread.rayonWorker = true →
    env.thread.spawnError = none ∧ env.thread.panics = false
  proves : ∃ params rp publics proof, env.prover.provingParams = some params ∧
    decodeB64_32 X.toCrates qr.rpChallenge = .ok rp ∧
    assembleInputs X.toProverCrates cred rp qr = .ok publics ∧
    Proves X.toProverCrates params cred dobDays rBits rp qr proof ∧ proof.cutoff = qr.cutoffDays

/-- A request is built on what a diagnosis looks at, and the rest. -/
theorem requestable_iff (X : DiagnosticCrates Params) (env : ProofEnv Params) {cred : CredentialV2}
    {dobDays : Int32} {rBits : List Bool} (hdob : cred.dobDays = some dobDays)
    (hbits : cred.rBits = some rBits) (qr : QrChallengePayload) :
    (unixSecs env.now ≤ cred.exp ∧
        Requestable X.toProverCrates env.thread env.prover (unixSecs env.buildNow) cred qr) ↔
      (rBits.length = 128 ∧ X.pedersenCommitDobValidated dobDays rBits = .ok cred.cBytes ∧
        validateAge dobDays qr.cutoffDays qr.underAge = true ∧
        isProverInitialized env.prover = true) ∧
      Unexamined X env cred dobDays rBits qr := by
  constructor
  · intro h
    obtain ⟨hlive, hthread, params, dobDays', rBits', rp, proof, hchecked, hproves, hcutoff⟩ := h
    obtain rfl := Option.some.inj (hdob.symm.trans hchecked.hasDobDays)
    obtain rfl := Option.some.inj (hbits.symm.trans hchecked.hasRBits)
    obtain ⟨publics, hpublics⟩ := hchecked.assembles
    refine ⟨⟨hchecked.rBitsLength, ?_, hchecked.age, ?_⟩, ?_⟩
    · exact recomputeCommitment_matches X.toCrates cred dobDays rBits hchecked.commitment
    · unfold isProverInitialized
      rw [hchecked.loaded]
      rfl
    · exact
        { live := hlive
          liveAtBuild := hchecked.live
          challengeLive := hchecked.challengeLive
          vkId := hchecked.vkId
          signature := hchecked.signature
          shape := hchecked.shape
          thread := hthread
          proves := ⟨params, rp, publics, proof, hchecked.loaded, hchecked.rpChallenge, hpublics,
            hproves, hcutoff⟩ }
  · intro h
    obtain ⟨⟨hlen, hcommit, hage, -⟩, hrest⟩ := h
    obtain ⟨params, rp, publics, proof, hparams, hrp, hpublics, hproves, hcutoff⟩ := hrest.proves
    refine ⟨hrest.live, hrest.thread, params, dobDays, rBits, rp, proof, ?_, hproves, hcutoff⟩
    have hmatch : (recomputeCommitment X.toCrates cred dobDays rBits).2 = true := by
      unfold recomputeCommitment
      rw [hcommit]
      exact decide_eq_true rfl
    exact
      { loaded := hparams
        vkId := hrest.vkId
        live := hrest.liveAtBuild
        challengeLive := hrest.challengeLive
        hasDobDays := hdob
        hasRBits := hbits
        rBitsLength := hlen
        rpChallenge := hrp
        signature := hrest.signature
        assembles := ⟨publics, hpublics⟩
        commitment := hmatch
        age := hage
        shape := hrest.shape }

/-- A matching commitment is the one a diagnosis looks for. -/
theorem recomputeCommitment_iff (X : Crates) (cred : CredentialV2) (dobDays : Int32)
    (rBits : List Bool) :
    (recomputeCommitment X cred dobDays rBits).2 = true ↔
      X.pedersenCommitDobValidated dobDays rBits = .ok cred.cBytes := by
  constructor
  · exact recomputeCommitment_matches X cred dobDays rBits
  · intro h
    unfold recomputeCommitment
    rw [h]
    exact decide_eq_true rfl

/-- What a report says of the key. -/
theorem preflightReport_vkIdMatches {X : ProverCrates Params} {st : ProverState Params}
    {cred : CredentialV2} {qr : QrChallengePayload} {report : PreflightReport}
    (h : preflightReport X st cred qr = .ok report) :
    report.vkIdMatches = decide (st.loadedVkId = some qr.verifyingKeyId) := by
  unfold preflightReport checkRBitsLen at h
  simp only [bind_eq_ok_iff, okOr_eq_ok_iff, require_eq_ok_iff, mapError_eq_ok_iff] at h
  obtain ⟨_, _, _, _, _, _, _, _, _, _, _, _, h⟩ := h
  injection h with h
  rw [← h]

/-- **Proof, diagnosis and preflight agree**, for one credential and one
    challenge. -/
structure DiagnosisAgrees (X : DiagnosticCrates Params) (env : ProofEnv Params) (id : Key)
    (challengeId : String) (cached : Cache String CachedChallenge) : Prop where
  /-- A request is built exactly when the diagnosis has no complaint, and
      what it does not look at is in order. -/
  proof : (∃ r, ageProofRequest X.toWalletCrates env id challengeId cached = .ok r) ↔
    (∃ lines, diagnosis X env id challengeId cached = .ok lines ∧ NoComplaint lines) ∧
      ∃ cred entry dobDays rBits, credentialWithSecrets X.toWalletCrates env id = .ok cred ∧
        cached.lookup challengeId = some entry ∧ cred.dobDays = some dobDays ∧
        cred.rBits = some rBits ∧ Unexamined X env cred dobDays rBits entry.payload
  /-- A preflight that reports, reports what the diagnosis says. -/
  preflight : ∀ json, debugPreflight X env id challengeId cached = .ok json →
    ∃ report lines, X.preflightJson report = .ok json ∧
      diagnosis X env id challengeId cached = .ok lines ∧
      (NoComplaint lines ↔ report.commitmentMatches = true ∧ report.ageOk = true ∧
        isProverInitialized env.prover = true)
  /-- The preflight of a request that is built reports that all is well. -/
  reported : (∃ r, ageProofRequest X.toWalletCrates env id challengeId cached = .ok r) →
    ∃ report, walletPreflight X env id challengeId cached = .ok report ∧
      report.commitmentMatches = true ∧ report.ageOk = true ∧ report.vkIdMatches = true
  /-- Of the secrets the diagnosis shows the number of bits, the
      commitment computed from them, or the error of computing it, and
      whether the age passes: other secrets with these in common have the
      same diagnosis. -/
  hides : ∀ (env' : ProofEnv Params) cred secrets secrets', env'.prover = env.prover →
    env.storage.read (getCredential X.toCrates env.get id) = .ok (some cred) →
    env'.storage.read (getCredential X.toCrates env'.get id) = .ok (some cred) →
    env.storage.read (loadCredentialSecrets X.toCrates env.load id) = .ok (some secrets) →
    env'.storage.read (loadCredentialSecrets X.toCrates env'.load id) = .ok (some secrets') →
    secrets.rBits.length = secrets'.rBits.length →
    X.pedersenCommitDobValidated secrets.dobDays secrets.rBits =
      X.pedersenCommitDobValidated secrets'.dobDays secrets'.rBits →
    (∀ entry, cached.lookup challengeId = some entry →
      validateAge secrets.dobDays entry.payload.cutoffDays entry.payload.underAge =
        validateAge secrets'.dobDays entry.payload.cutoffDays entry.payload.underAge) →
    diagnoseProofFailure X env id challengeId cached =
      diagnoseProofFailure X env' id challengeId cached

/-- A credential that loads has both private fields. -/
private theorem private_of_loaded {X : WalletCrates Params} {env : ProofEnv Params} {id : Key}
    {cred : CredentialV2} (h : credentialWithSecrets X env id = .ok cred) :
    ∃ dobDays rBits, cred.dobDays = some dobDays ∧ cred.rBits = some rBits := by
  obtain ⟨_, secrets, -, -, rfl⟩ := (credentialWithSecrets_ok_iff ..).1 h
  exact ⟨secrets.dobDays, secrets.rBits, rfl, rfl⟩

/-- **A request and a diagnosis.** -/
theorem request_iff_diagnosis (X : DiagnosticCrates Params) (env : ProofEnv Params) (id : Key)
    (challengeId : String) (cached : Cache String CachedChallenge) :
    (∃ r, ageProofRequest X.toWalletCrates env id challengeId cached = .ok r) ↔
      (∃ lines, diagnosis X env id challengeId cached = .ok lines ∧ NoComplaint lines) ∧
        ∃ cred entry dobDays rBits, credentialWithSecrets X.toWalletCrates env id = .ok cred ∧
          cached.lookup challengeId = some entry ∧ cred.dobDays = some dobDays ∧
          cred.rBits = some rBits ∧ Unexamined X env cred dobDays rBits entry.payload := by
  simp only [ageProofRequest_ok_iff]
  constructor
  · intro h
    obtain ⟨r, entry, cred, hentry, hload, hlive, hbuilt⟩ := h
    obtain ⟨dobDays, rBits, hdob, hbits⟩ := private_of_loaded hload
    obtain ⟨⟨hlen, hcommit, hage, hinit⟩, hrest⟩ :=
      (requestable_iff X env hdob hbits entry.payload).1
        ⟨UInt64.not_lt.1 hlive, (buildVerifyRequest_iff ..).1 ⟨r, hbuilt⟩⟩
    refine ⟨?_, cred, entry, dobDays, rBits, hload, hentry, hdob, hbits, hrest⟩
    rw [diagnosis_clean_iff X hload hdob hbits]
    exact ⟨entry, hentry, hlen, hcommit, hage, hinit⟩
  · intro h
    obtain ⟨hclean, cred, entry, dobDays, rBits, hload, hentry, hdob, hbits, hrest⟩ := h
    obtain ⟨entry', hentry', hlen, hcommit, hage, hinit⟩ :=
      (diagnosis_clean_iff X hload hdob hbits challengeId cached).1 hclean
    obtain rfl := Option.some.inj (hentry.symm.trans hentry')
    obtain ⟨hlive, hrequestable⟩ :=
      (requestable_iff X env hdob hbits entry.payload).2 ⟨⟨hlen, hcommit, hage, hinit⟩, hrest⟩
    obtain ⟨r, hbuilt⟩ := (buildVerifyRequest_iff ..).2 hrequestable
    exact ⟨r, entry, cred, hentry, hload, UInt64.not_lt.2 hlive, hbuilt⟩

theorem walletPreflight_ok_iff (X : DiagnosticCrates Params) (env : ProofEnv Params) (id : Key)
    (challengeId : String) (cached : Cache String CachedChallenge) (report : PreflightReport) :
    walletPreflight X env id challengeId cached = .ok report ↔
      ∃ cred entry, credentialWithSecrets X.toWalletCrates env id = .ok cred ∧
        cached.lookup challengeId = some entry ∧
        preflightReport X.toProverCrates env.prover cred entry.payload = .ok report := by
  unfold walletPreflight
  simp only [bind_eq_ok_iff, okOr_eq_ok_iff, mapError_eq_ok_iff, preflightCredential_ok_iff,
    exists_and_left]

/-- **A preflight and a diagnosis.** -/
theorem diagnosis_of_preflight {X : DiagnosticCrates Params} {env : ProofEnv Params} {id : Key}
    {challengeId : String} {cached : Cache String CachedChallenge} {report : PreflightReport}
    (h : walletPreflight X env id challengeId cached = .ok report) :
    ∃ lines, diagnosis X env id challengeId cached = .ok lines ∧
      (NoComplaint lines ↔ report.commitmentMatches = true ∧ report.ageOk = true ∧
        isProverInitialized env.prover = true) := by
  obtain ⟨cred, entry, hload, hentry, hreport⟩ := (walletPreflight_ok_iff ..).1 h
  obtain ⟨dobDays, rBits, _, _, hdob, hbits, hlen, -, -, -, hmatch, hage, -⟩ :=
    preflightReport_ok _ _ _ _ _ hreport
  have hlen : rBits.length = 128 := hlen
  have hclean := diagnosis_clean_iff X hload hdob hbits challengeId cached
  -- the preflight has checked the length, so the diagnosis goes to its end
  have hgiven : ∃ lines, diagnosis X env id challengeId cached = .ok lines := by
    rw [diagnosis_of_loaded X hload hbits, if_neg (not_not.2 hlen)]
    unfold diagnoseCredential
    rw [hentry, hbits, hdob]
    exact ⟨_, rfl⟩
  obtain ⟨lines, hlines⟩ := hgiven
  refine ⟨lines, hlines, ?_⟩
  have hthis : (∃ lines, diagnosis X env id challengeId cached = .ok lines ∧ NoComplaint lines) ↔
      NoComplaint lines := by
    rw [hlines]
    simp only [Except.ok.injEq, exists_eq_left']
  rw [← hthis, hclean, hmatch, recomputeCommitment_iff, hage]
  constructor
  · intro hall
    obtain ⟨entry', hentry', -, hcommit, hageOk, hinit⟩ := hall
    obtain rfl := Option.some.inj (hentry.symm.trans hentry')
    exact ⟨hcommit, hageOk, hinit⟩
  · intro hall
    exact ⟨entry, hentry, hlen, hall⟩

/-- The preflight of a request that is built. -/
theorem preflight_of_request {X : DiagnosticCrates Params} {env : ProofEnv Params} {id : Key}
    {challengeId : String} {cached : Cache String CachedChallenge}
    (h : ∃ r, ageProofRequest X.toWalletCrates env id challengeId cached = .ok r) :
    ∃ report, walletPreflight X env id challengeId cached = .ok report ∧
      report.commitmentMatches = true ∧ report.ageOk = true ∧ report.vkIdMatches = true := by
  obtain ⟨r, h⟩ := h
  obtain ⟨entry, cred, hentry, hload, -, hbuilt⟩ := (ageProofRequest_ok_iff ..).1 h
  obtain ⟨-, params, dobDays, rBits, rp, proof, hchecked, -⟩ :=
    (buildVerifyRequest_iff ..).1 ⟨r, hbuilt⟩
  obtain ⟨report, hreport, hmatch, hage⟩ := preflightReport_of_checked hchecked
  refine ⟨report, (walletPreflight_ok_iff ..).2 ⟨cred, entry, hload, hentry, hreport⟩, hmatch, hage,
    ?_⟩
  rw [preflightReport_vkIdMatches hreport]
  exact decide_eq_true hchecked.vkId

/-- What the checks on a credential show of its private fields. -/
theorem diagnoseCredential_hides (X : DiagnosticCrates Params) (cells : ProverState Params)
    (challengeId : String) (cached : Cache String CachedChallenge) (cred : CredentialV2)
    (diagnostics : List String) {secrets secrets' : CredentialSecrets}
    (hcommit : X.pedersenCommitDobValidated secrets.dobDays secrets.rBits =
      X.pedersenCommitDobValidated secrets'.dobDays secrets'.rBits)
    (hage : ∀ entry, cached.lookup challengeId = some entry →
      validateAge secrets.dobDays entry.payload.cutoffDays entry.payload.underAge =
        validateAge secrets'.dobDays entry.payload.cutoffDays entry.payload.underAge) :
    diagnoseCredential X cells challengeId cached
        { cred with dobDays := some secrets.dobDays, rBits := some secrets.rBits } diagnostics =
      diagnoseCredential X cells challengeId cached
        { cred with dobDays := some secrets'.dobDays, rBits := some secrets'.rBits } diagnostics := by
  unfold diagnoseCredential
  cases hentry : cached.lookup challengeId with
  | none =>
    -- both end here, and neither has looked at the fields
    show (Except.error _ : Except FfiError (List String)) = Except.error _
    rfl
  | some entry =>
    show Except.ok (_ ++ commitmentLines X cred.cBytes
        (X.pedersenCommitDobValidated secrets.dobDays secrets.rBits) ++ _ :: _) =
      Except.ok (_ ++ commitmentLines X cred.cBytes
        (X.pedersenCommitDobValidated secrets'.dobDays secrets'.rBits) ++ _ :: _)
    rw [hcommit, hage entry hentry]

/-- **A failed proof is explained truly.**  For any store, any outcomes of
    its reads, any state of the prover and any cached challenges: a
    request is built exactly when the diagnosis has no complaint and what
    it does not look at is in order; a preflight that reports, reports the
    same commitment and age as the diagnosis; a request that is built has
    a preflight without a fault; and the diagnosis shows of the secrets
    nothing but the number of bits, the commitment computed from them, and
    whether the age passes. -/
theorem diagnosis_agrees (X : DiagnosticCrates Params) (env : ProofEnv Params) (id : Key)
    (challengeId : String) (cached : Cache String CachedChallenge) :
    DiagnosisAgrees X env id challengeId cached := by
  refine ⟨request_iff_diagnosis X env id challengeId cached, ?_, preflight_of_request, ?_⟩
  · intro json hjson
    unfold debugPreflight at hjson
    simp only [bind_eq_ok_iff, mapError_eq_ok_iff] at hjson
    obtain ⟨report, hreport, hjson⟩ := hjson
    obtain ⟨lines, hlines, hclean⟩ := diagnosis_of_preflight hreport
    exact ⟨report, lines, hjson, hlines, hclean⟩
  · intro env' cred secrets secrets' hprover hget hget' hload hload' hlen hcommit hage
    unfold diagnoseProofFailure diagnosis
    rw [hget, hget', hload, hload', hprover]
    simp only [mapError_ok, ok_bind, okOr_some]
    have hline : loadedLine secrets.rBits = loadedLine secrets'.rBits := by
      unfold loadedLine
      rw [hlen]
    have hbad : lengthLine secrets.rBits = lengthLine secrets'.rBits := by
      unfold lengthLine
      rw [hlen]
    rw [hline, hbad, hlen, diagnoseCredential_hides X env.prover challengeId cached cred _ hcommit
      hage]

end ProviiSdk.Wallet
