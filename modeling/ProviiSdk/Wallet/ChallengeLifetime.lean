/-
  ProviiSdk.Wallet.ChallengeLifetime — how long a challenge can be proved.

  A run of the session with a ledger beside it: when each challenge was
  last cached, and which were cancelled since.  The proof methods look at
  neither.  They stop answering for a challenge only when its entry has
  left the cache, or when credential or prover refuse.

  Main results:
    * `request_ok_iff` — when a proof request is built.
    * `ledger_matches_cache` — a cached challenge was received when the
      ledger says.
    * `no_stale_proof_iff` — when no proof is given past 300 seconds.
    * `cancel_effective_iff` — when nothing is done for a cancelled
      challenge.
    * `stale_proof_returned`, `cancelled_challenge_proved` — a run in
      which a proof is given all the same.
-/

import ProviiSdk.Wallet.Sample

namespace ProviiSdk.Wallet

open ProviiSdk.Core ProviiSdk.Platform ProviiSdk.Ffi ProviiSdk.Check ProviiSdk.BoundedCache
open ProviiSdk.Run

variable {Params : Type}

/-! ## §1. The ledger -/

/-- The session, when each id was last cached, and the ids cancelled since
    they were last processed. -/
structure Lifetime where
  session : Session
  cachedAt : String → Option Int
  cancelled : String → Bool

def Lifetime.new : Lifetime :=
  { session := .new, cachedAt := fun _ => none, cancelled := fun _ => false }

/-- The ledger after a call that brings a challenge in, by its answer. -/
def Lifetime.processed (answer : Except FfiError String) (now : Int) (t : Lifetime) : Lifetime :=
  match answer with
  | .ok id =>
    { t with
      cachedAt := Function.update t.cachedAt id (some now)
      cancelled := Function.update t.cancelled id false }
  | .error _ => t

/-- The ledger after an operation. -/
def noteStep (X : WalletCrates Params) (t : Lifetime) : SessionOp Params → Lifetime
  | .process call => t.processed (call.run X.toDocumentCrates t.session).1 call.clock.now
  | .cancelVerification id => { t with cancelled := Function.update t.cancelled id true }
  | _ => t

/-- One operation on the session and the ledger. -/
def lifetimeStep (X : WalletCrates Params) (t : Lifetime) (op : SessionOp Params) : Lifetime :=
  { noteStep X t op with session := sessionStep X t.session op }

/-- A cached challenge was received when the ledger says. -/
def LedgerMatches (t : Lifetime) : Prop :=
  AllEntries (fun id e => t.cachedAt id = some e.receivedAt) t.session.cachedChallenges

theorem ledgerMatches_new : LedgerMatches .new := allEntries_empty _

private theorem ledgerMatches_process (X : WalletCrates Params) (t : Lifetime) (call : ProcessCall)
    (ht : LedgerMatches t) : LedgerMatches (lifetimeStep X t (.process call)) := by
  show AllEntries
    (fun id e => (t.processed (call.run X.toDocumentCrates t.session).1 call.clock.now).cachedAt id =
      some e.receivedAt)
    (call.run X.toDocumentCrates t.session).2.cachedChallenges
  cases hread : call.challenge X.toDocumentCrates with
  | error e =>
    rw [ProcessCall.run_of_error hread]
    exact ht
  | ok challenge =>
    rw [ProcessCall.run_of_ok hread, cacheChallenge_eq]
    intro k e hk
    rcases lookup_offer_some hk with ⟨htaken, rfl, rfl⟩ | ⟨hold, hother⟩
    · simp only [htaken, if_true]
      exact Function.update_self ..
    · cases htaken : (offer maxCachedChallenges (live call.clock.nowForEvict) challenge.challengeId
          (entryOf call.clock.now challenge) t.session.cachedChallenges).1 with
      | true =>
        simp only [htaken, if_true]
        exact (Function.update_of_ne (hother htaken) ..).trans (ht k e hold)
      | false =>
        simp only [htaken, Bool.false_eq_true, if_false]
        exact ht k e hold

/-- **A cached challenge was received when the ledger says**, after every
    operation. -/
theorem ledger_matches_cache (X : WalletCrates Params) (t : Lifetime) (op : SessionOp Params)
    (ht : LedgerMatches t) : LedgerMatches (lifetimeStep X t op) := by
  -- an operation that leaves cache and ledger of caching times alone
  have hquiet : op.Quiet → (noteStep X t op).cachedAt = t.cachedAt →
      LedgerMatches (lifetimeStep X t op) := by
    intro hq hledger
    show AllEntries (fun id e => (noteStep X t op).cachedAt id = some e.receivedAt)
      (sessionStep X t.session op).cachedChallenges
    rw [hledger, cached_sessionStep_of_quiet X t.session op hq]
    exact ht
  cases op with
  | process call => exact ledgerMatches_process X t call ht
  | cleanupExpiredChallenges now => exact allEntries_sweep ht _
  | emergencyZeroize lockFree =>
    cases lockFree with
    | true => exact allEntries_empty _
    | false => exact ht
  | cancelVerification id => exact hquiet trivial rfl
  | createProof choice env id => exact hquiet trivial rfl
  | getProvableCredentials env config id => exact hquiet trivial rfl
  | submitProof net config proofJson => exact hquiet trivial rfl

/-! ## §2. What a proof request meets -/

/-- The request the credential and the prover give for a challenge: one is
    chosen, loads and has not expired, and the core crate builds the
    request. -/
def Builds (X : WalletCrates Params) (env : ProofEnv Params) (id : String) (s : Session)
    (choice : ProofChoice) (challenge : QrChallengePayload) (request : SubmitProofRequest) : Prop :=
  ∃ credentialId cred, choice.credential X id s = .ok credentialId ∧
    credentialWithSecrets X env credentialId = .ok cred ∧ ¬ cred.exp < unixSecs env.now ∧
    buildVerifyRequest X.toProverCrates env.thread env.prover (unixSecs env.buildNow) cred
      challenge = .ok request

/-- **When a proof request is built**: the challenge is cached, and
    credential and prover give the request. -/
theorem request_ok_iff (X : WalletCrates Params) (env : ProofEnv Params) (id : String) (s : Session)
    (choice : ProofChoice) (request : SubmitProofRequest) :
    choice.request X env id s = .ok request ↔
      ∃ e, s.cachedChallenges.lookup id = some e ∧
        Builds X env id s choice e.payload request := by
  unfold ProofChoice.request Builds
  simp only [bind_eq_ok_iff, ageProofRequest_ok_iff]
  constructor
  · rintro ⟨credentialId, hchoice, e, cred, hcached, hrest⟩
    exact ⟨e, hcached, credentialId, cred, hchoice, hrest⟩
  · rintro ⟨e, hcached, credentialId, cred, hchoice, hrest⟩
    exact ⟨credentialId, hchoice, e, cred, hcached, hrest⟩

/-! ## §3. Expiry -/

/-- The time a cached challenge is kept, in nanoseconds. -/
def challengeTtl : Int := 300000000000

/-- **The property** of a step: no proof is returned for a challenge last
    cached more than 300 seconds before. -/
def NoStaleProof (X : WalletCrates Params) (t : Lifetime) (op : SessionOp Params) : Prop :=
  ∀ choice env id json cached, op = .createProof choice env id →
    (choice.run X env id t.session).1 = .ok json → t.cachedAt id = some cached →
      ¬ cached + challengeTtl < env.now

/-- A proof request for a challenge still in the cache comes in time; a
    late one is refused by credential or prover, or cannot be written. -/
def TimelyRequest (X : WalletCrates Params) (t : Lifetime) (op : SessionOp Params) : Prop :=
  ∀ choice env id e, op = .createProof choice env id →
    t.session.cachedChallenges.lookup id = some e → e.receivedAt + challengeTtl < env.now →
      ∀ request, Builds X env id t.session choice e.payload request →
        ∀ json, X.submitRequestJson request ≠ .ok json

/-- **One step** gives no stale proof exactly if its request is timely. -/
theorem noStaleProof_iff (X : WalletCrates Params) (t : Lifetime) (op : SessionOp Params)
    (ht : LedgerMatches t) : NoStaleProof X t op ↔ TimelyRequest X t op := by
  constructor
  · intro h choice env id e hop hcached hlate request hbuilds json hjson
    refine h choice env id json e.receivedAt hop ?_ (ht id e hcached) hlate
    rw [choice.run_eq, finishProof_ok_iff]
    exact ⟨request, (request_ok_iff X env id t.session choice request).2 ⟨e, hcached, hbuilds⟩, hjson⟩
  · intro h choice env id json cached hop hok hledger hlate
    rw [choice.run_eq, finishProof_ok_iff] at hok
    obtain ⟨request, hrequest, hjson⟩ := hok
    obtain ⟨e, hcached, hbuilds⟩ := (request_ok_iff X env id t.session choice request).1 hrequest
    -- the entry was received when the ledger says
    have hreceived : t.cachedAt id = some e.receivedAt := ht id e hcached
    rw [hledger] at hreceived
    injection hreceived with hreceived
    rw [hreceived] at hlate
    exact h choice env id e hop hcached hlate request hbuilds json hjson

/-- **No stale proof** is given in a run exactly if every late request of
    the run is refused by credential or prover. -/
theorem no_stale_proof_iff (X : WalletCrates Params) (ops : List (SessionOp Params)) :
    StepsMeet (lifetimeStep X) (NoStaleProof X) .new ops ↔
      StepsMeet (lifetimeStep X) (TimelyRequest X) .new ops :=
  stepsMeet_iff (I := LedgerMatches) (ledger_matches_cache X)
    (fun t op ht => noStaleProof_iff X t op ht) ledgerMatches_new

/-- The clock readings of an operation, in order. -/
def SessionOp.readings : SessionOp Params → List Int
  | .process call => [call.clock.now, call.clock.nowForEvict]
  | .cleanupExpiredChallenges now => [now]
  | .createProof _ env _ => [env.now, env.buildNow]
  | _ => []

/-- A challenge is brought in and, six minutes later, proved. -/
def staleRun : List (SessionOp Unit) := [.process typedEntry, proofAt (sampleTime + sixMinutes)]

/-- The clock goes forward, and the proof is returned. -/
theorem stale_proof_returned :
    (staleRun.flatMap SessionOp.readings).Pairwise (· ≤ ·) ∧
      ¬ StepsMeet (lifetimeStep sampleCratesOf) (NoStaleProof sampleCratesOf) .new staleRun := by
  refine ⟨by decide +kernel, fun h => ?_⟩
  have hok : ((ProofChoice.given openCredentialId).run sampleCratesOf
      (proofEnvAt (sampleTime + sixMinutes)) openChallenge.challengeId
      (lifetimeStep sampleCratesOf .new (.process typedEntry)).session).1.isOk = true := by
    decide +kernel
  cases hrun : ((ProofChoice.given openCredentialId).run sampleCratesOf
      (proofEnvAt (sampleTime + sixMinutes)) openChallenge.challengeId
      (lifetimeStep sampleCratesOf .new (.process typedEntry)).session).1 with
  | error e =>
    rw [hrun] at hok
    cases hok
  | ok json =>
    exact h.2.1 _ _ _ json sampleTime rfl hrun (by decide +kernel) (by decide +kernel)

/-! ## §4. Cancellation -/

/-- Does a call set the status to `ProofGenerated` or `Verified` on behalf
    of an id? -/
def SetsProgress (id : String) (call : ManagerOp) : Prop :=
  call = .update id .proofGenerated ∨ call = .update id .verified ∨ call = .complete id true

/-- **The property** of a step, for the ids cancelled since they were last
    processed. -/
structure CancelEffective (X : WalletCrates Params) (t : Lifetime) (op : SessionOp Params) :
    Prop where
  /-- No proof is returned. -/
  noProof : ∀ choice env id json, op = .createProof choice env id → t.cancelled id = true →
    (choice.run X env id t.session).1 ≠ .ok json
  /-- No challenge is found. -/
  notFound : ∀ env config id, op = .getProvableCredentials env config id → t.cancelled id = true →
    getProvableCredentialsForChallenge X.toCrates env config id t.session =
      .error (challengeNotFound id)
  /-- No progress is reported. -/
  silent : ∀ id call, t.cancelled id = true → managerCall X t.session op = some call →
    ¬ SetsProgress id call

/-- A cancelled challenge is only asked about once it has left the cache,
    or a proof request for it is refused by credential or prover; and the
    verifier accepts no proof that names it. -/
def Withdrawn (X : WalletCrates Params) (t : Lifetime) : SessionOp Params → Prop
  | .createProof choice env id =>
    t.cancelled id = true → ∀ e, t.session.cachedChallenges.lookup id = some e →
      ∀ request, ¬ Builds X env id t.session choice e.payload request
  | .getProvableCredentials _ _ id =>
    t.cancelled id = true → t.session.cachedChallenges.lookup id = none
  | .submitProof net config proofJson =>
    ∀ id, t.cancelled id = true → submission X net config proofJson ≠ .ok (id, true)
  | _ => True

/-- No challenge is found exactly for an id that is not cached. -/
theorem provable_notFound_iff (X : Crates) (env : ListEnv) (config : WalletConfig) (id : String)
    (s : Session) :
    getProvableCredentialsForChallenge X env config id s = .error (challengeNotFound id) ↔
      s.cachedChallenges.lookup id = none := by
  unfold getProvableCredentialsForChallenge provableCredentials
  cases s.cachedChallenges.lookup id with
  | none => exact iff_of_true rfl rfl
  | some e =>
    refine iff_of_false ?_ (Option.some_ne_none e)
    -- past the cache, only the listing can fail
    cases env.storage.read (listCredentials env.list env.clock) with
    | error e => intro h; cases h
    | ok credentials => intro h; cases h

/-- A proof request makes progress only if it is built. -/
private theorem updateCall_progress {id id' : String} {request : Except FfiError SubmitProofRequest}
    {call : ManagerOp} (h : updateCall id request = some call) (hset : SetsProgress id' call) :
    id' = id ∧ ∃ r, request = .ok r := by
  cases request with
  | error e => cases h
  | ok r =>
    injection h with h
    subst h
    rcases hset with h | h | h
    · injection h with h
      exact ⟨h.symm, r, rfl⟩
    · injection h with _ h
      cases h
    · cases h

/-- A submission makes progress only if the proof was accepted. -/
private theorem completeCall_progress {id : String} {outcome : Except FfiError (String × Bool)}
    {call : ManagerOp} (h : completeCall outcome = some call) (hset : SetsProgress id call) :
    outcome = .ok (id, true) := by
  cases outcome with
  | error e => cases h
  | ok o =>
    injection h with h
    subst h
    rcases hset with h | h | h
    · cases h
    · cases h
    · injection h with hid hsuccess
      rw [← hid, ← hsuccess]

/-- Only updates and completions are progress. -/
private theorem no_progress_of_other {id : String} {call : ManagerOp}
    (hupdate : ∀ id' status, call ≠ .update id' status)
    (hcomplete : ∀ id' success, call ≠ .complete id' success) : ¬ SetsProgress id call := by
  intro hset
  rcases hset with h | h | h
  · exact hupdate _ _ h
  · exact hupdate _ _ h
  · exact hcomplete _ _ h

/-- Starting a verification is no progress. -/
private theorem startCall_no_progress {id : String} {answer : Except FfiError String}
    {call : ManagerOp} (h : startCall answer = some call) : ¬ SetsProgress id call := by
  cases answer with
  | error e => cases h
  | ok o =>
    injection h with h
    subst h
    exact no_progress_of_other (fun _ _ hcall => by cases hcall) (fun _ _ hcall => by cases hcall)

/-- An operation that neither proves nor looks for credentials respects
    the cancellations if it reports no progress. -/
private theorem cancelEffective_of_silent {X : WalletCrates Params} {t : Lifetime}
    {op : SessionOp Params} (hproof : ∀ choice env id, op ≠ .createProof choice env id)
    (hprovable : ∀ env config id, op ≠ .getProvableCredentials env config id)
    (hsilent : ∀ id call, t.cancelled id = true → managerCall X t.session op = some call →
      ¬ SetsProgress id call) : CancelEffective X t op := by
  refine ⟨?_, ?_, hsilent⟩
  · intro choice env id json hop
    exact absurd hop (hproof choice env id)
  · intro env config id hop
    exact absurd hop (hprovable env config id)

/-- **One step** respects every cancellation exactly if the challenge was
    withdrawn. -/
theorem cancelEffective_iff (X : WalletCrates Params) (t : Lifetime) (op : SessionOp Params) :
    CancelEffective X t op ↔ Withdrawn X t op := by
  cases op with
  | process call =>
    refine iff_of_true (cancelEffective_of_silent ?_ ?_ ?_) trivial
    · exact fun _ _ _ h => by cases h
    · exact fun _ _ _ h => by cases h
    · exact fun id mcall _ hcall => startCall_no_progress hcall
  | cleanupExpiredChallenges now =>
    refine iff_of_true (cancelEffective_of_silent ?_ ?_ ?_) trivial
    · exact fun _ _ _ h => by cases h
    · exact fun _ _ _ h => by cases h
    · exact fun id mcall _ hcall => by cases hcall
  | cancelVerification id =>
    refine iff_of_true (cancelEffective_of_silent ?_ ?_ ?_) trivial
    · exact fun _ _ _ h => by cases h
    · exact fun _ _ _ h => by cases h
    · intro id' mcall _ hcall
      injection hcall with hcall
      subst hcall
      exact no_progress_of_other (fun _ _ h => by cases h) (fun _ _ h => by cases h)
  | emergencyZeroize lockFree =>
    refine iff_of_true (cancelEffective_of_silent ?_ ?_ ?_) trivial
    · exact fun _ _ _ h => by cases h
    · exact fun _ _ _ h => by cases h
    · intro id mcall _ hcall
      injection hcall with hcall
      subst hcall
      exact no_progress_of_other (fun _ _ h => by cases h) (fun _ _ h => by cases h)
  | createProof choice env id =>
    constructor
    · intro h hcancelled e hcached request hbuilds
      have hrequest := (request_ok_iff X env id t.session choice request).2 ⟨e, hcached, hbuilds⟩
      -- the status would be set, whether or not the request can be written
      refine h.silent id (.update id .proofGenerated) hcancelled ?_ (Or.inl rfl)
      show updateCall id (choice.request X env id t.session) = _
      rw [hrequest]
      rfl
    · intro h
      have hno : t.cancelled id = true → ∀ r, choice.request X env id t.session ≠ .ok r := by
        intro hcancelled r hr
        obtain ⟨e, hcached, hbuilds⟩ := (request_ok_iff X env id t.session choice r).1 hr
        exact h hcancelled e hcached r hbuilds
      refine ⟨?_, ?_, ?_⟩
      · intro choice' env' id' json hop hcancelled hok
        injection hop with hchoice henv hid
        subst hchoice henv hid
        rw [choice.run_eq, finishProof_ok_iff] at hok
        obtain ⟨r, hr, -⟩ := hok
        exact hno hcancelled r hr
      · intro env' config id' hop
        cases hop
      · intro id' call hcancelled hcall hset
        obtain ⟨rfl, r, hr⟩ := updateCall_progress hcall hset
        exact hno hcancelled r hr
  | getProvableCredentials env config id =>
    constructor
    · intro h hcancelled
      exact (provable_notFound_iff X.toCrates env config id t.session).1
        (h.notFound env config id rfl hcancelled)
    · intro h
      refine ⟨?_, ?_, ?_⟩
      · intro choice env' id' json hop
        cases hop
      · intro env' config' id' hop hcancelled
        injection hop with henv hconfig hid
        subst henv hconfig hid
        exact (provable_notFound_iff X.toCrates env config id t.session).2 (h hcancelled)
      · intro id' call _ hcall
        cases hcall
  | submitProof net config proofJson =>
    constructor
    · intro h id hcancelled hsub
      refine h.silent id (.complete id true) hcancelled ?_ (Or.inr (Or.inr rfl))
      show completeCall (submission X net config proofJson) = _
      rw [hsub]
      rfl
    · intro h
      refine cancelEffective_of_silent ?_ ?_ ?_
      · exact fun _ _ _ hop => by cases hop
      · exact fun _ _ _ hop => by cases hop
      · intro id call hcancelled hcall hset
        exact h id hcancelled (completeCall_progress hcall hset)

/-- **Cancellation is effective** over a run exactly if every challenge of
    the run was withdrawn when it was asked about. -/
theorem cancel_effective_iff (X : WalletCrates Params) (ops : List (SessionOp Params)) :
    StepsMeet (lifetimeStep X) (CancelEffective X) .new ops ↔
      StepsMeet (lifetimeStep X) (Withdrawn X) .new ops :=
  stepsMeet_iff (I := fun _ => True) (fun _ _ _ => trivial)
    (fun t op _ => cancelEffective_iff X t op) trivial

/-- A challenge is brought in, cancelled, and then proved. -/
def cancelledRun : List (SessionOp Unit) :=
  [.process typedEntry, .cancelVerification openChallenge.challengeId, proofAt sampleTime]

/-- The proof is returned. -/
theorem cancelled_challenge_proved :
    ¬ StepsMeet (lifetimeStep sampleCratesOf) (CancelEffective sampleCratesOf) .new
      cancelledRun := by
  intro h
  have hok : ((ProofChoice.given openCredentialId).run sampleCratesOf (proofEnvAt sampleTime)
      openChallenge.challengeId
      (run (lifetimeStep sampleCratesOf) .new (cancelledRun.take 2)).session).1.isOk = true := by
    decide +kernel
  cases hrun : ((ProofChoice.given openCredentialId).run sampleCratesOf (proofEnvAt sampleTime)
      openChallenge.challengeId
      (run (lifetimeStep sampleCratesOf) .new (cancelledRun.take 2)).session).1 with
  | error e =>
    rw [hrun] at hok
    cases hok
  | ok json => exact h.2.2.1.noProof _ _ _ json rfl (by decide +kernel) hrun

end ProviiSdk.Wallet
