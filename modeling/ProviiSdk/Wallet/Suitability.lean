/-
  ProviiSdk.Wallet.Suitability — does the wallet keep its word?

  Before a proof the host may ask which credentials can satisfy a
  challenge.  The answer comes from the listing and the secrets records;
  the proof reads the public record and the secrets record again and asks
  the prover.  This file compares the two, on one store at one instant.

  Main results:
    * `credentialWithSecrets_ok` — what a proof is built from.
    * `createAgeProof_error` — the four ways in which a proof fails.
    * `answers_honoured` — what the host was told is what happens.
-/

import ProviiSdk.Core.Validity
import ProviiSdk.Ffi.StorageSpec
import ProviiSdk.Wallet.Sample

namespace ProviiSdk.Wallet

open ProviiSdk.Core ProviiSdk.Platform ProviiSdk.Ffi ProviiSdk.Check ProviiSdk.BoundedCache

variable {Params : Type}

/-! ## §1. The property -/

/-- A proof for a credential runs on the store of a listing, at the
    listing's instant; the backend answers the read of the secrets alike. -/
structure SameInstant (listEnv : ListEnv) (env : ProofEnv Params) (id : Key) : Prop where
  storage : env.storage = listEnv.storage
  load : env.load.retrieve (secretsKeyOf id) = (listEnv.load id).retrieve (secretsKeyOf id)
  now : unixSecs env.now = nowSecs (listEnv.clock id)
  buildNow : unixSecs env.buildNow = nowSecs (listEnv.clock id)

/-- The error for a credential without a secrets record. -/
def missingSecrets (id : Key) : FfiError :=
  .invalidFormat ("Credential missing secrets: " ++ String.ofList id)

/-- The error of the core crate with which a proof ends. -/
def CoreFails (X : WalletCrates Params) (env : ProofEnv Params) (id : Key) (challengeId : String)
    (s : Session) (e : ProverError) : Prop :=
  ∃ challenge cred, s.cachedChallenges.lookup challengeId = some challenge ∧
    credentialWithSecrets X env id = .ok cred ∧ ¬ cred.exp < unixSecs env.now ∧
    buildVerifyRequest X.toProverCrates env.thread env.prover (unixSecs env.buildNow) cred
      challenge.payload = .error e

/-- **The credential is not at fault**: a proof fails neither for its
    expiry, nor for missing secrets, nor for the birth day, be it in the
    wallet or in the core crate. -/
structure NotAtFault (X : WalletCrates Params) (env : ProofEnv Params) (id : Key)
    (challengeId : String) (s : Session) : Prop where
  notExpired : (createAgeProof X env id challengeId s).1 ≠ .error .credentialExpired
  notMissing : (createAgeProof X env id challengeId s).1 ≠ .error (missingSecrets id)
  core : ∀ e, CoreFails X env id challengeId s e →
    e ≠ .credentialExpired ∧ e ≠ .missingPrivateFields ∧ e ≠ .ageRequirementNotMet

/-! ## §2. What a proof is built from -/

/-- A loaded secrets record is the one under the secrets key. -/
theorem loadCredentialSecrets_some {X : Crates} {f : Faults} {id : Key} {kv : Kv}
    {secrets : CredentialSecrets} (h : loadCredentialSecrets X f id kv = .ok (some secrets)) :
    ∃ item, kv.lookup (secretsKeyOf id) = some item ∧ decodeSecrets item.data = some secrets := by
  unfold loadCredentialSecrets at h
  cases hret : retrieve f kv (secretsKeyOf id) with
  | error e =>
    rw [hret] at h
    simp only at h
    split at h
    · cases h
    · cases h
  | ok data =>
    rw [hret] at h
    simp only at h
    obtain ⟨item, hitem, hdata⟩ := retrieve_eq_ok hret
    cases hdec : decodeSecrets data with
    | none =>
      rw [hdec] at h
      cases h
    | some loaded =>
      rw [hdec] at h
      injection h with h
      exact ⟨item, hitem, hdata ▸ hdec.trans h⟩

/-- A credential that is found is the one of its public record. -/
theorem getCredential_some {X : Crates} {f : Faults} {id : Key} {kv : Kv} {cred : CredentialV2}
    (h : getCredential X f id kv = .ok (some cred)) :
    ∃ item stored, kv.lookup id = some item ∧ decodeStored item.data = some stored ∧
      stored.credential = cred := by
  unfold getCredential at h
  cases hret : retrieve f kv id with
  | error e =>
    rw [hret] at h
    simp only at h
    split at h
    · cases h
    · cases h
  | ok data =>
    rw [hret] at h
    simp only at h
    obtain ⟨item, hitem, hdata⟩ := retrieve_eq_ok hret
    cases hdec : decodeStored data with
    | none =>
      rw [hdec] at h
      cases h
    | some stored =>
      rw [hdec] at h
      injection h with h
      injection h with h
      exact ⟨item, stored, hitem, hdata ▸ hdec, h⟩

/-- **What a proof is built from**: the credential of the public record,
    which has no private fields, with those of the secrets record. -/
theorem credentialWithSecrets_ok {X : WalletCrates Params} {env : ProofEnv Params} {id : Key}
    {cred : CredentialV2} (h : credentialWithSecrets X env id = .ok cred) :
    ∃ kv item stored secretsItem secrets, env.storage.backend = some kv ∧
      kv.lookup id = some item ∧ decodeStored item.data = some stored ∧
      kv.lookup (secretsKeyOf id) = some secretsItem ∧
      decodeSecrets secretsItem.data = some secrets ∧
      cred = { stored.credential with
        dobDays := some secrets.dobDays, rBits := some secrets.rBits } := by
  unfold credentialWithSecrets Storage.read at h
  cases hkv : env.storage.backend with
  | none =>
    rw [hkv] at h
    cases h
  | some kv =>
    simp only [hkv, bind_eq_ok_iff, mapError_eq_ok_iff, okOr_eq_ok_iff] at h
    obtain ⟨found, hget, loadedCred, hfound, h⟩ := h
    rw [hfound] at hget
    obtain ⟨item, stored, hitem, hdec, hcred⟩ := getCredential_some hget
    have hprivate : (loadedCred.dobDays.isNone || loadedCred.rBits.isNone) = true := by
      rw [← hcred, (decodeStored_private hdec).1]
      rfl
    simp only [hprivate, if_true, bind_eq_ok_iff, mapError_eq_ok_iff, okOr_eq_ok_iff] at h
    obtain ⟨loaded, hload, secrets, hsecrets, h⟩ := h
    rw [hsecrets] at hload
    obtain ⟨secretsItem, hsecretsItem, hdecSecrets⟩ := loadCredentialSecrets_some hload
    injection h with h
    exact ⟨kv, item, stored, secretsItem, secrets, rfl, hitem, hdec, hsecretsItem, hdecSecrets,
      hcred ▸ h.symm⟩

/-- Loading fails for missing secrets only if the secrets record is
    found to be absent, and never for an expiry. -/
theorem credentialWithSecrets_error {X : WalletCrates Params} {env : ProofEnv Params} {id : Key}
    {e : FfiError} (h : credentialWithSecrets X env id = .error e) :
    e ≠ .credentialExpired ∧
      (e = missingSecrets id →
        env.storage.read (loadCredentialSecrets X.toCrates env.load id) = .ok none) := by
  unfold credentialWithSecrets at h
  cases hget : env.storage.read (getCredential X.toCrates env.get id) with
  | error msg =>
    rw [hget] at h
    injection h with h
    rw [← h]
    exact ⟨FfiError.noConfusion, FfiError.noConfusion⟩
  | ok found =>
    rw [hget] at h
    cases found with
    | none =>
      injection h with h
      rw [← h]
      exact ⟨FfiError.noConfusion, FfiError.noConfusion⟩
    | some cred =>
      simp only [mapError_ok, ok_bind, okOr_some] at h
      split at h
      · cases hload : env.storage.read (loadCredentialSecrets X.toCrates env.load id) with
        | error msg =>
          rw [hload] at h
          injection h with h
          rw [← h]
          exact ⟨FfiError.noConfusion, FfiError.noConfusion⟩
        | ok loaded =>
          rw [hload] at h
          cases loaded with
          | none =>
            injection h with h
            rw [← h]
            exact ⟨FfiError.noConfusion, fun _ => rfl⟩
          | some secrets => cases h
      · cases h

/-- **The ways in which a proof fails**: no challenge, no credential, an
    expired one, an error of the core crate, or a request that cannot be
    written. -/
theorem createAgeProof_error {X : WalletCrates Params} {env : ProofEnv Params} {id : Key}
    {challengeId : String} {s : Session} {e : FfiError}
    (h : (createAgeProof X env id challengeId s).1 = .error e) :
    s.cachedChallenges.lookup challengeId = none ∨ credentialWithSecrets X env id = .error e ∨
      (∃ cred, credentialWithSecrets X env id = .ok cred ∧ cred.exp < unixSecs env.now) ∨
      (∃ core, CoreFails X env id challengeId s core ∧
        e = .prover ("Proof generation failed: " ++ X.proverErrorDebug core)) ∨
      ∃ msg, e = .generic msg := by
  unfold createAgeProof finishProof ageProofRequest at h
  cases hcached : s.cachedChallenges.lookup challengeId with
  | none => exact Or.inl rfl
  | some challenge =>
    refine Or.inr ?_
    rw [hcached] at h
    cases hcred : credentialWithSecrets X env id with
    | error e' =>
      rw [hcred] at h
      injection h with h
      exact Or.inl (h ▸ rfl)
    | ok cred =>
      refine Or.inr ?_
      by_cases hexp : cred.exp < unixSecs env.now
      · exact Or.inl ⟨cred, rfl, hexp⟩
      refine Or.inr ?_
      rw [hcred] at h
      simp only [okOr_some, ok_bind, require_pos hexp] at h
      cases hbuild : buildVerifyRequest X.toProverCrates env.thread env.prover
          (unixSecs env.buildNow) cred challenge.payload with
      | error core =>
        rw [hbuild] at h
        injection h with h
        exact Or.inl ⟨core, ⟨challenge, cred, hcached, hcred, hexp, hbuild⟩, h.symm⟩
      | ok request =>
        rw [hbuild] at h
        simp only [mapError_ok] at h
        cases hjson : X.submitRequestJson request with
        | error msg =>
          rw [hjson] at h
          injection h with h
          exact Or.inr ⟨msg, h.symm⟩
        | ok json =>
          rw [hjson] at h
          cases h

/-! ## §3. What the host is told -/

/-- A positive answer: the listing finds the credential alive, its
    secrets are read, and the birth day passes. -/
theorem suitabilityVerdict_true {X : Crates} {listEnv : ListEnv} {challenge : QrChallengePayload}
    {c : CredentialInfo} (h : (suitabilityVerdict X listEnv challenge c).1 = true) :
    c.isExpired = false ∧ ∃ secrets,
      listEnv.storage.read (loadCredentialSecrets X (listEnv.load c.id) c.id) = .ok (some secrets) ∧
      validateAge secrets.dobDays challenge.cutoffDays challenge.underAge = true := by
  unfold suitabilityVerdict at h
  cases hexp : c.isExpired with
  | true =>
    rw [if_pos hexp] at h
    cases h
  | false =>
    refine ⟨rfl, ?_⟩
    rw [if_neg (by rw [hexp]; exact Bool.false_ne_true)] at h
    split at h
    next secrets hload =>
      split at h
      next hage => exact ⟨secrets, hload, hage⟩
      next => cases h
    next => cases h

/-- The reason given for a birth day that does not pass. -/
def ageReason : String := "Does not meet age threshold"

theorem suitabilityVerdict_age {X : Crates} {listEnv : ListEnv} {challenge : QrChallengePayload}
    {c : CredentialInfo} (h : (suitabilityVerdict X listEnv challenge c).2 = some ageReason) :
    ∃ secrets,
      listEnv.storage.read (loadCredentialSecrets X (listEnv.load c.id) c.id) = .ok (some secrets) ∧
      ¬ validateAge secrets.dobDays challenge.cutoffDays challenge.underAge = true := by
  unfold suitabilityVerdict at h
  split at h
  · injection h with h
    exact absurd h (by decide)
  · split at h
    next secrets hload =>
      split at h
      next => cases h
      next hage => exact ⟨secrets, hload, hage⟩
    next =>
      injection h with h
      exact absurd h (by decide)

/-- Every answer is the verdict on one listed credential. -/
theorem getProvable_ok {X : Crates} {listEnv : ListEnv} {config : WalletConfig}
    {challengeId : String} {s : Session} {answers : List CredentialSuitability}
    (h : getProvableCredentialsForChallenge X listEnv config challengeId s = .ok answers) :
    ∃ challenge credentials, s.cachedChallenges.lookup challengeId = some challenge ∧
      provableCredentials listEnv config = .ok credentials ∧
      answers = credentials.map (suitability X listEnv challenge.payload) := by
  unfold getProvableCredentialsForChallenge at h
  simp only [bind_eq_ok_iff, okOr_eq_ok_iff] at h
  obtain ⟨challenge, hcached, credentials, hcredentials, h⟩ := h
  injection h with h
  exact ⟨challenge, credentials, hcached, hcredentials, h.symm⟩

/-- A provable credential is a listed one. -/
theorem listEntry_of_provable {listEnv : ListEnv} {config : WalletConfig}
    {credentials : List CredentialInfo} (h : provableCredentials listEnv config = .ok credentials)
    {c : CredentialInfo} (hc : c ∈ credentials) :
    ∃ kv, listEnv.storage.backend = some kv ∧
      listEntry listEnv.list listEnv.clock kv c.id = some c := by
  unfold provableCredentials Storage.read at h
  simp only [bind_eq_ok_iff, mapError_eq_ok_iff] at h
  obtain ⟨infos, hlist, h⟩ := h
  injection h with h
  rw [← h] at hc
  cases hkv : listEnv.storage.backend with
  | none =>
    rw [hkv] at hlist
    cases hlist
  | some kv =>
    rw [hkv] at hlist
    exact ⟨kv, rfl, listEntry_of_listCredentials hlist c (List.mem_of_mem_filter hc)⟩

/-! ## §4. What happens -/

/-- The read of the secrets depends on one outcome of the backend. -/
private theorem loadCredentialSecrets_congr (X : Crates) {f f' : Faults} {id : Key}
    (h : f.retrieve (secretsKeyOf id) = f'.retrieve (secretsKeyOf id)) (kv : Kv) :
    loadCredentialSecrets X f id kv = loadCredentialSecrets X f' id kv := by
  unfold loadCredentialSecrets retrieve
  rw [h]

/-- The credential a proof starts from is made of the two records. -/
private theorem credentialWithSecrets_records {X : WalletCrates Params} {env : ProofEnv Params}
    {kv : Kv} {id : Key} {item secretsItem : Item} {stored : StoredCredential}
    {secrets : CredentialSecrets} (hbackend : env.storage.backend = some kv)
    (hitem : kv.lookup id = some item) (hstored : decodeStored item.data = some stored)
    (hsecretsItem : kv.lookup (secretsKeyOf id) = some secretsItem)
    (hsecrets : decodeSecrets secretsItem.data = some secrets) {cred : CredentialV2}
    (h : credentialWithSecrets X env id = .ok cred) :
    cred = { stored.credential with
      dobDays := some secrets.dobDays, rBits := some secrets.rBits } := by
  obtain ⟨kv', item', stored', secretsItem', secrets', hkv', hitem', hstored', hsecretsItem',
    hsecrets', hcred⟩ := credentialWithSecrets_ok h
  rw [hbackend] at hkv'
  injection hkv' with hkv'
  subst hkv'
  rw [hcred, decoded_unique hitem hstored hitem' hstored',
    decoded_unique hsecretsItem hsecrets hsecretsItem' hsecrets']

/-- **A positive answer is kept.** -/
theorem notAtFault_of_verdict {X : WalletCrates Params} {listEnv : ListEnv} {env : ProofEnv Params}
    {kv : Kv} {c : CredentialInfo} {challengeId : String} {s : Session}
    {challenge : CachedChallenge} (hkv : listEnv.storage.backend = some kv)
    (hentry : listEntry listEnv.list listEnv.clock kv c.id = some c)
    (hcached : s.cachedChallenges.lookup challengeId = some challenge)
    (hinstant : SameInstant listEnv env c.id)
    (hverdict : (suitabilityVerdict X.toCrates listEnv challenge.payload c).1 = true) :
    NotAtFault X env c.id challengeId s := by
  obtain ⟨hlive, secrets, hload, hage⟩ := suitabilityVerdict_true hverdict
  obtain ⟨item, stored, hitem, hstored, hexpired⟩ := listEntry_record hentry
  rw [hexpired, decide_eq_false_iff_not] at hlive
  unfold Storage.read at hload
  rw [hkv] at hload
  obtain ⟨secretsItem, hsecretsItem, hsecrets⟩ := loadCredentialSecrets_some hload
  -- the proof's reads see the same two records
  have hbackend : env.storage.backend = some kv := by rw [hinstant.storage, hkv]
  have hloads : env.storage.read (loadCredentialSecrets X.toCrates env.load c.id) =
      .ok (some secrets) := by
    unfold Storage.read
    rw [hbackend]
    exact (loadCredentialSecrets_congr X.toCrates hinstant.load kv).trans hload
  have hcred : ∀ cred, credentialWithSecrets X env c.id = .ok cred →
      cred = { stored.credential with
        dobDays := some secrets.dobDays, rBits := some secrets.rBits } :=
    fun _ h => credentialWithSecrets_records hbackend hitem hstored hsecretsItem hsecrets h
  have hnotExpired : ∀ cred, credentialWithSecrets X env c.id = .ok cred →
      ¬ cred.exp < unixSecs env.now := by
    intro cred h
    rw [hcred cred h, hinstant.now]
    exact hlive
  constructor
  · intro h
    rcases createAgeProof_error h with hnone | herror | ⟨cred, hok, hexp⟩ | ⟨core, -, he⟩ | ⟨msg, he⟩
    · rw [hcached] at hnone
      cases hnone
    · exact (credentialWithSecrets_error herror).1 rfl
    · exact hnotExpired cred hok hexp
    · cases he
    · cases he
  · intro h
    rcases createAgeProof_error h with hnone | herror | ⟨cred, hok, hexp⟩ | ⟨core, -, he⟩ | ⟨msg, he⟩
    · rw [hcached] at hnone
      cases hnone
    · have habsent := (credentialWithSecrets_error herror).2 rfl
      rw [hloads] at habsent
      cases habsent
    · exact hnotExpired cred hok hexp
    · cases he
    · cases he
  · rintro e ⟨challenge', cred, hcached', hok, -, hbuild⟩
    rw [hcached] at hcached'
    injection hcached' with hcached'
    subst hcached'
    have hbuildLive : ¬ cred.exp < unixSecs env.buildNow := by
      rw [hcred cred hok, hinstant.buildNow]
      exact hlive
    have hdob : cred.dobDays = some secrets.dobDays := by rw [hcred cred hok]
    have hbits : cred.rBits = some secrets.rBits := by rw [hcred cred hok]
    have hfit := buildVerifyRequest_not_refused X.toProverCrates env.thread env.prover hbuildLive
      hdob hbits hage
    refine ⟨?_, ?_, ?_⟩
    · rintro rfl
      exact hfit ⟨_, hbuild, trivial⟩
    · rintro rfl
      exact hfit ⟨_, hbuild, trivial⟩
    · rintro rfl
      exact hfit ⟨_, hbuild, trivial⟩

/-- **A refusal for the birth day is kept**, whatever the proof's clock
    and the outcomes of its reads. -/
theorem no_proof_of_ageReason {X : WalletCrates Params} {listEnv : ListEnv} {env : ProofEnv Params}
    {c : CredentialInfo} {challengeId : String} {s : Session} {challenge : CachedChallenge}
    (hcached : s.cachedChallenges.lookup challengeId = some challenge)
    (hstorage : env.storage = listEnv.storage)
    (hverdict : (suitabilityVerdict X.toCrates listEnv challenge.payload c).2 = some ageReason)
    (json : String) : (createAgeProof X env c.id challengeId s).1 ≠ .ok json := by
  intro h
  obtain ⟨secrets, hload, hage⟩ := suitabilityVerdict_age hverdict
  obtain ⟨request, hrequest, -⟩ := (finishProof_ok_iff ..).1 h
  obtain ⟨challenge', cred, hcached', hok, -, hbuild⟩ := (ageProofRequest_ok_iff ..).1 hrequest
  rw [hcached] at hcached'
  injection hcached' with hcached'
  subst hcached'
  obtain ⟨kv, -, stored, secretsItem, secrets', hkv, -, -, hsecretsItem, hsecrets, hcred⟩ :=
    credentialWithSecrets_ok hok
  -- the request was checked with the birth day of the same record
  unfold Storage.read at hload
  rw [← hstorage, hkv] at hload
  obtain ⟨secretsItem', hsecretsItem', hsecrets'⟩ := loadCredentialSecrets_some hload
  rw [hsecretsItem] at hsecretsItem'
  injection hsecretsItem' with hsecretsItem'
  rw [← hsecretsItem', hsecrets] at hsecrets'
  injection hsecrets' with hsecrets'
  obtain ⟨-, params, dobDays, rBits, rp, proof, hchecked, -, -⟩ :=
    (buildVerifyRequest_iff ..).1 ⟨request, hbuild⟩
  have hdob := hchecked.hasDobDays
  rw [hcred] at hdob
  injection hdob with hdob
  rw [← hsecrets', hdob] at hage
  exact hage hchecked.age

/-- **What the host was told is what happens.**  On the store and at the
    instant of the answers: a credential that was said to satisfy the
    challenge is not at fault for a failing proof, one whose birth day
    was said not to pass gets no proof, and where there is a choice to
    make, the automatic proof lists the very same answers. -/
theorem answers_honoured (X : WalletCrates Params) (listEnv : ListEnv) (config : WalletConfig)
    (challengeId : String) (s : Session) (answers : List CredentialSuitability)
    (hanswers : getProvableCredentialsForChallenge X.toCrates listEnv config challengeId s =
      .ok answers) :
    (∀ a ∈ answers, ∀ env, SameInstant listEnv env a.id →
      (a.canSatisfy = true → NotAtFault X env a.id challengeId s) ∧
      (a.failureReason = some ageReason →
        ∀ json, (createAgeProof X env a.id challengeId s).1 ≠ .ok json)) ∧
    (2 ≤ answers.length → ∀ env, (createAgeProofAuto X listEnv env config challengeId s).1 =
      .error (selectionRequired X.toDocumentCrates answers)) := by
  obtain ⟨challenge, credentials, hcached, hcredentials, rfl⟩ := getProvable_ok hanswers
  constructor
  · intro a ha env hinstant
    obtain ⟨c, hc, rfl⟩ := List.mem_map.1 ha
    obtain ⟨kv, hkv, hentry⟩ := listEntry_of_provable hcredentials hc
    exact ⟨notAtFault_of_verdict hkv hentry hcached hinstant,
      no_proof_of_ageReason hcached hinstant.storage⟩
  · intro hmany env
    rw [List.length_map] at hmany
    have hauto : autoCredential X listEnv config challengeId s = .error
        (selectionRequired X.toDocumentCrates
          (credentials.map (suitability X.toCrates listEnv challenge.payload))) := by
      unfold autoCredential
      rw [hcached, okOr_some, ok_bind, hcredentials, ok_bind]
      cases credentials with
      | nil => exact absurd hmany (by decide)
      | cons c rest =>
        cases rest with
        | nil => exact absurd hmany (by simp)
        | cons c' rest => rfl
    unfold createAgeProofAuto
    rw [hauto]

/-- The sample challenge in the cache. -/
def openSession : Session :=
  { Session.new with
    cachedChallenges :=
      (∅ : Cache String CachedChallenge).insert openChallenge.challengeId
        (entryOf sampleTime openChallenge) }

/-- A look at the imported credential at the sample time. -/
def openListEnv : ListEnv :=
  { storage := openImport.2, list := .never, clock := fun _ => 1700000000, load := fun _ => .never }

/-- The answer for the imported credential. -/
def openAnswer : CredentialSuitability :=
  { id := openCredentialId, nickname := none, credentialType := "primary", canSatisfy := true,
    failureReason := none }

/-- The imported credential is said to satisfy the challenge, and is not
    at fault should its proof fail. -/
theorem open_answer_honoured :
    getProvableCredentialsForChallenge sampleCratesOf.toCrates openListEnv sampleConfig
        openChallenge.challengeId openSession = .ok [openAnswer] ∧
      NotAtFault sampleCratesOf (proofEnvAt sampleTime) openCredentialId openChallenge.challengeId
        openSession := by
  have hanswers : getProvableCredentialsForChallenge sampleCratesOf.toCrates openListEnv sampleConfig
      openChallenge.challengeId openSession = .ok [openAnswer] := by decide +kernel
  refine ⟨hanswers, ?_⟩
  have hhonoured := answers_honoured sampleCratesOf openListEnv sampleConfig
    openChallenge.challengeId openSession [openAnswer] hanswers
  refine (hhonoured.1 openAnswer List.mem_cons_self (proofEnvAt sampleTime) ?_).1 rfl
  exact ⟨rfl, rfl, by decide, by decide⟩

end ProviiSdk.Wallet
