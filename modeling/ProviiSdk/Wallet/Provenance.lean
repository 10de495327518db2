/-
  ProviiSdk.Wallet.Provenance — where a proof comes from.

  A proof is built from two records of the store and one entry of the
  cache of challenges.  This file runs the operations on the records and
  those on the session as one machine, in any order, and traces every
  request that is built back to the two operations it goes back to.  One
  is an import that brought the credential in, with nothing since then
  that took it away; the other is a call that brought the challenge in,
  with nothing since then that replaced it.  No proof comes from anything
  else.

  Main results:
    * `filled_by_import`, `cached_by_process` — what puts a credential
      into a slot, and an entry into the cache.
    * `every_proof_has_sources` — every request, in every run.
-/

import ProviiSdk.Wallet.SessionRun
import ProviiSdk.Wallet.SlotProofs

namespace ProviiSdk.Wallet

open ProviiSdk.Core ProviiSdk.Platform ProviiSdk.Ffi ProviiSdk.Run ProviiSdk.Check
open ProviiSdk.BoundedCache

variable {Params : Type}

/-! ## §1. One machine -/

/-- The records with their slot table, and the session. -/
structure HostState where
  slots : SlotState
  session : Session

/-- What the host calls: an operation on the records, or one on the
    session. -/
inductive HostOp (Params : Type) where
  | records (op : SlotOp)
  | session (op : SessionOp Params)

def hostStep (X : WalletCrates Params) (s : HostState) : HostOp Params → HostState
  | .records op => { s with slots := slotStep X.toCrates s.slots op }
  | .session op => { s with session := sessionStep X s.session op }

/-- The empty store and the session of a new wallet. -/
def newHost : HostState := { slots := emptySlots, session := .new }

/-- The backend answers the operations on the records, and their ids are
    public keys. -/
def HostOp.Answered (X : Crates) : HostOp Params → Prop
  | .records op => op.Answered X ∧ op.WellAddressed X
  | .session _ => True

/-! ## §2. What brings a credential and a challenge in -/

/-- An import that fills a place with a credential. -/
structure Fills (X : Crates) (s : SlotState) (call : ImportCall)
    (anchor : Option IssuerTrustAnchor) (fs : ImportFaults) (p : Place) (x : Filling) : Prop where
  place : ∃ slot, call.resolve fs.resolve s.storage = .ok slot ∧ placeOf call.label slot = p
  imported : call.imported X anchor = .ok x.credential
  answer : (call.run X fs ⟨s.storage, anchor⟩).1 = .ok x.id

/-- **Only an import fills a place.** -/
theorem filled_by_import (X : Crates) {s : SlotState} {op : SlotOp} {p : Place} {x : Filling}
    (hbefore : ¬ s.table p = some x) (hafter : (slotStep X s op).table p = some x) :
    ∃ call anchor fs, op = .importCall call anchor fs ∧ Fills X s call anchor fs p x := by
  cases op with
  | importCall call anchor fs =>
    refine ⟨call, anchor, fs, rfl, ?_⟩
    have hfill : s.table.fill call.label (call.resolve fs.resolve s.storage)
        (call.imported X anchor) (call.run X fs ⟨s.storage, anchor⟩).1 p = some x := hafter
    cases hslot : call.resolve fs.resolve s.storage with
    | error e =>
      rw [hslot] at hfill
      exact absurd hfill hbefore
    | ok slot =>
      cases himported : call.imported X anchor with
      | error e =>
        rw [hslot, himported] at hfill
        exact absurd hfill hbefore
      | ok credential =>
        cases hanswer : (call.run X fs ⟨s.storage, anchor⟩).1 with
        | error e =>
          rw [hslot, himported, hanswer] at hfill
          exact absurd hfill hbefore
        | ok id =>
          rw [hslot, himported, hanswer] at hfill
          have hupdate : Function.update s.table (placeOf call.label slot)
              (some ⟨id, credential⟩) p = some x := hfill
          by_cases hp : p = placeOf call.label slot
          · rw [hp, Function.update_self] at hupdate
            injection hupdate with hupdate
            rw [← hupdate]
            exact ⟨⟨slot, hslot, hp.symm⟩, himported, hanswer⟩
          · rw [Function.update_of_ne hp] at hupdate
            exact absurd hupdate hbefore
  | deleteCredential f id => exact absurd ((drop_eq_some_iff ..).1 hafter).1 hbefore
  | deleteSandbox f =>
    have hsweep : (if p.ns = .sandbox then none else s.table p) = some x := hafter
    split at hsweep
    · cases hsweep
    · exact absurd hsweep hbefore
  | updateCredentialNickname f id nickname => exact absurd hafter hbefore
  | cleanupExpiredCredentials f clock fd => exact absurd ((drop_eq_some_iff ..).1 hafter).1 hbefore

/-- A call that caches a challenge under its id. -/
structure Brings (X : DocumentCrates) (s : Session) (call : ProcessCall)
    (challenge : QrChallengePayload) : Prop where
  read : call.challenge X = .ok challenge
  answer : (call.run X s).1 = .ok challenge.challengeId

/-- **Only a scanned or typed challenge enters the cache**, under its own
    id. -/
theorem cached_by_process (X : WalletCrates Params) {s : Session} {op : SessionOp Params}
    {id : String} {e : CachedChallenge} (hbefore : ¬ s.cachedChallenges.lookup id = some e)
    (hafter : (sessionStep X s op).cachedChallenges.lookup id = some e) :
    ∃ call challenge, op = .process call ∧ Brings X.toDocumentCrates s call challenge ∧
      id = challenge.challengeId ∧ e = entryOf call.clock.now challenge := by
  have hquiet : op.Quiet → False := by
    intro h
    rw [cached_sessionStep_of_quiet X s op h] at hafter
    exact hbefore hafter
  cases op with
  | process call =>
    have hrun : (call.run X.toDocumentCrates s).2.cachedChallenges.lookup id = some e := hafter
    cases hread : call.challenge X.toDocumentCrates with
    | error err =>
      rw [ProcessCall.run_of_error hread] at hrun
      exact absurd hrun hbefore
    | ok challenge =>
      rw [ProcessCall.run_of_ok hread, cacheChallenge_eq] at hrun
      rcases lookup_offer_some hrun with ⟨htaken, hid, hentry⟩ | ⟨hold, -⟩
      · refine ⟨call, challenge, rfl, ⟨hread, ?_⟩, hid, hentry⟩
        rw [ProcessCall.run_of_ok hread, cacheChallenge_eq]
        exact if_pos htaken
      · exact absurd hold hbefore
  | cleanupExpiredChallenges now =>
    have hswept : (sweep (expired now) s.cachedChallenges).lookup id = some e := hafter
    rw [lookup_sweep, Option.filter_eq_some_iff] at hswept
    exact absurd hswept.1 hbefore
  | cancelVerification challengeId => exact (hquiet trivial).elim
  | emergencyZeroize lockFree =>
    have hcleared : (if lockFree then ∅ else s.cachedChallenges).lookup id = some e := hafter
    split at hcleared
    · rw [AList.lookup_empty] at hcleared
      cases hcleared
    · exact absurd hcleared hbefore
  | createProof choice env challengeId => exact (hquiet trivial).elim
  | getProvableCredentials env config challengeId => exact (hquiet trivial).elim
  | submitProof net config proofJson => exact (hquiet trivial).elim

/-! ## §3. Every run -/

/-- The run has an import that put the credential into a slot under an
    id, and no operation since then took it out. -/
def ImportedIn (X : WalletCrates Params) (ops : List (HostOp Params)) (id : Key)
    (credential : CredentialV2) : Prop :=
  ∃ p call anchor fs before after,
    ops = before ++ .records (.importCall call anchor fs) :: after ∧
    Fills X.toCrates (run (hostStep X) newHost before).slots call anchor fs p ⟨id, credential⟩ ∧
    Always (hostStep X) (fun s => s.slots.table p = some ⟨id, credential⟩)
      (hostStep X (run (hostStep X) newHost before) (.records (.importCall call anchor fs))) after

/-- The run has a call that brought the challenge in, and no operation
    since then replaced its entry. -/
def BroughtIn (X : WalletCrates Params) (ops : List (HostOp Params))
    (challenge : QrChallengePayload) : Prop :=
  ∃ call before after, ops = before ++ .session (.process call) :: after ∧
    Brings X.toDocumentCrates (run (hostStep X) newHost before).session call challenge ∧
    Always (hostStep X) (fun s => s.session.cachedChallenges.lookup challenge.challengeId =
        some (entryOf call.clock.now challenge))
      (hostStep X (run (hostStep X) newHost before) (.session (.process call))) after

/-- Every operation keeps the slots' invariants and is well addressed. -/
private theorem slots_run (X : WalletCrates Params) (ops : List (HostOp Params))
    (hops : ∀ op ∈ ops, op.Answered X.toCrates) :
    SlotInv (run (hostStep X) newHost ops).slots ∧ SecretsKept (run (hostStep X) newHost ops).slots := by
  have hstart : SlotInv newHost.slots ∧ SecretsKept newHost.slots := by
    refine ⟨⟨∅, rfl, represents_empty⟩, ?_⟩
    intro p x hx
    cases hx
  have hstep : ∀ s (op : HostOp Params), SlotInv s.slots ∧ SecretsKept s.slots →
      op.Answered X.toCrates →
        SlotInv (hostStep X s op).slots ∧ SecretsKept (hostStep X s op).slots := by
    intro s op hs hop
    cases op with
    | records op =>
      exact ⟨represents_step X.toCrates s.slots op hs.1 hop.1,
        secretsKept_step X.toCrates s.slots op hs.1 hs.2 hop.1 hop.2⟩
    | session op => exact hs
  exact (always_of_step (P := fun _ (op : HostOp Params) => op.Answered X.toCrates) hstep hstart
    (stepsMeet_of_forall hops)).last

/-- What fills a place at the end of a run was put there by an import. -/
private theorem importedIn_of_filled (X : WalletCrates Params) {ops : List (HostOp Params)}
    {p : Place} {id : Key} {credential : CredentialV2}
    (h : (run (hostStep X) newHost ops).slots.table p = some ⟨id, credential⟩) :
    ImportedIn X ops id credential := by
  have hstart : ¬ newHost.slots.table p = some ⟨id, credential⟩ := by
    intro hx
    cases hx
  obtain ⟨before, op, after, hops, hbefore, hall⟩ := exists_establishing_step
    (G := fun s : HostState => s.slots.table p = some ⟨id, credential⟩) hstart h
  cases op with
  | session op => exact absurd hall.head hbefore
  | records op =>
    obtain ⟨call, anchor, fs, rfl, hfills⟩ := filled_by_import X.toCrates hbefore hall.head
    exact ⟨p, call, anchor, fs, before, after, hops, hfills, hall⟩

/-- What is cached at the end of a run was brought in by a call. -/
private theorem broughtIn_of_cached (X : WalletCrates Params) {ops : List (HostOp Params)}
    {id : String} {e : CachedChallenge}
    (h : (run (hostStep X) newHost ops).session.cachedChallenges.lookup id = some e) :
    e.payload.challengeId = id ∧ BroughtIn X ops e.payload := by
  have hstart : ¬ newHost.session.cachedChallenges.lookup id = some e := by
    intro he
    rw [show newHost.session.cachedChallenges = ∅ from rfl, AList.lookup_empty] at he
    cases he
  obtain ⟨before, op, after, hops, hbefore, hall⟩ := exists_establishing_step
    (G := fun s : HostState => s.session.cachedChallenges.lookup id = some e) hstart h
  cases op with
  | records op => exact absurd hall.head hbefore
  | session op =>
    obtain ⟨call, challenge, rfl, hbrings, rfl, rfl⟩ := cached_by_process X hbefore hall.head
    exact ⟨rfl, call, before, after, hops, hbrings, hall⟩

/-- **No proof out of nothing.**  In every run of operations on the
    records and on the session, in any order, from a new wallet with an
    empty store, where the backend answers the operations on the records
    and only public credential keys are given as ids: whenever a request is
    built on working reads, for a credential given or
    chosen by the wallet, the run has an import of its credential that
    nothing has undone since, and a call that brought its challenge in
    and whose entry nothing has replaced since; the credential had not
    expired, and the request carries the challenge's values and the
    nullifier and issuer of that credential, under all checks of the
    core crate. -/
theorem every_proof_has_sources (X : WalletCrates Params)
    (hX : ReturnsWitnessPublics X.toProverCrates) (ops : List (HostOp Params))
    (hops : ∀ op ∈ ops, op.Answered X.toCrates) (env : ProofEnv Params)
    (henv : env.storage = (run (hostStep X) newHost ops).slots.storage) (hget : env.get.Healthy)
    (hload : env.load.Healthy) (choice : ProofChoice) (challengeId : String)
    (request : SubmitProofRequest)
    (h : choice.request X env challengeId (run (hostStep X) newHost ops).session = .ok request) :
    ∃ id credential challenge, ImportedIn X ops id credential ∧ BroughtIn X ops challenge ∧
      challenge.challengeId = challengeId ∧
      choice.credential X challengeId (run (hostStep X) newHost ops).session = .ok id ∧
      unixSecs env.now ≤ credential.exp ∧
      SoundRequest X.toProverCrates env.prover (unixSecs env.buildNow) credential challenge
        request := by
  obtain ⟨hslots, hkept⟩ := slots_run X ops hops
  unfold ProofChoice.request at h
  rw [bind_eq_ok_iff] at h
  obtain ⟨id, hid, hrequest⟩ := h
  obtain ⟨entry, credential, hentry, hcredential, hlive, hbuilt⟩ :=
    (ageProofRequest_ok_iff ..).1 hrequest
  obtain ⟨p, hfilled, -⟩ :=
    (credentialWithSecrets_iff X hslots hkept env henv hget hload id credential).1 hcredential
  obtain ⟨hname, hbrought⟩ := broughtIn_of_cached X hentry
  exact ⟨id, credential, entry.payload, importedIn_of_filled X hfilled, hbrought, hname, hid,
    UInt64.not_lt.1 hlive, buildVerifyRequest_sound X.toProverCrates hX env.thread env.prover
      (unixSecs env.buildNow) credential entry.payload request hbuilt⟩

/-- A challenge is typed, a credential is imported, and the challenge is
    typed again. -/
def sourcedOps : List (HostOp Unit) :=
  [.session (.process typedEntry), .records (.importCall (.storeCredential "a") none answeringImport),
    .session (.process typedEntry)]

def sourcedHost : HostState := run (hostStep keptCrates) newHost sourcedOps

def sourcedEnv : ProofEnv Unit := { proofEnvAt sampleTime with storage := sourcedHost.slots.storage }

/-- The credential is chosen by the wallet. -/
def sourcedChoice : ProofChoice :=
  .auto { storage := sourcedHost.slots.storage, list := .never, clock := fun _ => 1700000000,
          load := fun _ => .never } sampleConfig

/-- The proof for the typed challenge is built, and has its sources. -/
theorem every_proof_has_sources_typed :
    ∃ request id credential challenge,
      sourcedChoice.request keptCrates sourcedEnv openChallenge.challengeId sourcedHost.session =
        .ok request ∧
      ImportedIn keptCrates sourcedOps id credential ∧ BroughtIn keptCrates sourcedOps challenge ∧
      SoundRequest keptCrates.toProverCrates loadedProver (unixSecs sampleTime) credential challenge
        request := by
  have hreturns : ReturnsWitnessPublics keptCrates.toProverCrates := by
    intro attempt params cutoffDays rp witness vkId direction proof h
    injection h with h
    rw [← h]
    exact ⟨rfl, rfl⟩
  have hanswered : ∀ op ∈ sourcedOps, op.Answered keptCrates.toCrates := by
    intro op hop
    simp only [sourcedOps, List.mem_cons, List.not_mem_nil, or_false] at hop
    rcases hop with rfl | rfl | rfl
    · trivial
    · refine keptImport_answered (.storeCredential "a") rfl ?_ ?_
      · intro l hl
        cases hl
      · intro n hn
        cases hn
    · trivial
  have hbuilt : (sourcedChoice.request keptCrates sourcedEnv openChallenge.challengeId
      sourcedHost.session).isOk = true := by
    decide +kernel
  cases hrequest : sourcedChoice.request keptCrates sourcedEnv openChallenge.challengeId
      sourcedHost.session with
  | error e =>
    rw [hrequest] at hbuilt
    cases hbuilt
  | ok request =>
    obtain ⟨id, credential, challenge, himported, hbrought, -, -, -, hsound⟩ :=
      every_proof_has_sources keptCrates hreturns sourcedOps hanswered sourcedEnv rfl
        Faults.never_healthy Faults.never_healthy sourcedChoice openChallenge.challengeId request
        hrequest
    exact ⟨request, id, credential, challenge, rfl, himported, hbrought, hsound⟩

end ProviiSdk.Wallet
