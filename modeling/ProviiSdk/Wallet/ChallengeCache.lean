/-
  ProviiSdk.Wallet.ChallengeCache — what holds of the cache of challenges.

  The cache is bounded and keyed by challenge id in every state of every
  run, and a call that brings a challenge in is true to its answer.  The
  active list is not kept in step with the cache: it stays within the
  cache exactly in the runs where no eviction and no cleanup meets an
  active challenge.

  Main results:
    * `cacheInvariant_sessionStep` — the cache invariant, step by step.
    * `challenge_cache_invariant` — the cache over every run.
    * `active_backed_iff` — the active list over every run.
    * `cleaned_challenge_active` — a cleanup that leaves an id active.
-/

import ProviiSdk.Wallet.Sample

namespace ProviiSdk.Wallet

open ProviiSdk.Core ProviiSdk.Ffi ProviiSdk.BoundedCache ProviiSdk.Run

variable {Params : Type}

/-! ## §1. The cache -/

/-- The cache holds 64 challenges at most, each under its own id. -/
structure CacheInvariant (s : Session) : Prop where
  bounded : size s.cachedChallenges ≤ maxCachedChallenges
  keyed : AllEntries (fun k e => e.payload.challengeId = k) s.cachedChallenges

theorem cacheInvariant_new : CacheInvariant .new :=
  ⟨Nat.zero_le _, allEntries_empty _⟩

/-- The invariant is about the cache alone. -/
theorem cacheInvariant_of_cached_eq {s s' : Session}
    (h : s'.cachedChallenges = s.cachedChallenges) (hs : CacheInvariant s) : CacheInvariant s' :=
  ⟨h ▸ hs.bounded, h ▸ hs.keyed⟩

/-- **Every operation keeps the cache invariant.** -/
theorem cacheInvariant_sessionStep (X : WalletCrates Params) (s : Session)
    (op : SessionOp Params) (hs : CacheInvariant s) : CacheInvariant (sessionStep X s op) := by
  cases op with
  | process call =>
    rcases cached_process X s call with h | ⟨challenge, -, h⟩
    · exact cacheInvariant_of_cached_eq h hs
    · constructor
      · rw [h]
        exact size_offer_le _ _ _ _ _ hs.bounded
      · rw [h]
        exact allEntries_offer hs.keyed _ _ _ _ rfl
  | cleanupExpiredChallenges now =>
    constructor
    · exact Nat.le_trans (size_sweep_le _ _) hs.bounded
    · exact allEntries_sweep hs.keyed _
  | emergencyZeroize lockFree =>
    cases lockFree with
    | true => exact ⟨Nat.zero_le _, allEntries_empty _⟩
    | false => exact ⟨hs.bounded, hs.keyed⟩
  | cancelVerification id =>
    exact cacheInvariant_of_cached_eq (cached_sessionStep_of_quiet X s _ trivial) hs
  | createProof choice env id =>
    exact cacheInvariant_of_cached_eq (cached_sessionStep_of_quiet X s _ trivial) hs
  | getProvableCredentials env config id =>
    exact cacheInvariant_of_cached_eq (cached_sessionStep_of_quiet X s _ trivial) hs
  | submitProof net config proofJson =>
    exact cacheInvariant_of_cached_eq (cached_sessionStep_of_quiet X s _ trivial) hs

/-- What a call that brings a challenge in does, by its answer. -/
structure TrueToAnswer (X : DocumentCrates) (call : ProcessCall) (s : Session) : Prop where
  /-- An id that is answered holds the challenge that was read, and is
      active. -/
  accepted : ∀ id, (call.run X s).1 = .ok id → ∃ challenge entry,
    call.challenge X = .ok challenge ∧ challenge.challengeId = id ∧
    (call.run X s).2.cachedChallenges.lookup id = some entry ∧ entry.payload = challenge ∧
    id ∈ (call.run X s).2.stateManager.activeVerifications
  /-- A refusal leaves the state manager as it was. -/
  untouched : (call.run X s).1 = .error cacheFull → (call.run X s).2.stateManager = s.stateManager
  /-- It adds nothing to the cache, and takes only what has expired. -/
  refused : (call.run X s).1 = .error cacheFull → ∀ k e,
    ((call.run X s).2.cachedChallenges.lookup k = some e → s.cachedChallenges.lookup k = some e) ∧
    (s.cachedChallenges.lookup k = some e → (call.run X s).2.cachedChallenges.lookup k ≠ some e →
      e.expiresAt ≤ call.clock.nowForEvict)

/-- **A call that brings a challenge in is true to its answer.** -/
theorem trueToAnswer_of_invariant (X : DocumentCrates) (call : ProcessCall) (s : Session)
    (hs : CacheInvariant s) : TrueToAnswer X call s := by
  cases hread : call.challenge X with
  | error e =>
    have hrun := ProcessCall.run_of_error hread s
    refine ⟨fun id h => ?_, fun _ => by rw [hrun], fun _ k e' => ?_⟩
    · rw [hrun] at h
      cases h
    · rw [hrun]
      exact ⟨id, fun h hne => absurd h hne⟩
  | ok challenge =>
    have hrun := (ProcessCall.run_of_ok hread s).trans (cacheChallenge_eq call.clock challenge s)
    cases htaken : (offer maxCachedChallenges (live call.clock.nowForEvict) challenge.challengeId
        (entryOf call.clock.now challenge) s.cachedChallenges).1 with
    | true =>
      -- taken: the entry is under its id, and the id was started
      simp only [htaken, if_true] at hrun
      refine ⟨fun id h => ?_, fun h => ?_, fun h => ?_⟩
      · rw [hrun] at h ⊢
        injection h with h
        subst h
        refine ⟨challenge, entryOf call.clock.now challenge, hread, rfl, lookup_offer_self htaken,
          rfl, ?_⟩
        exact (StateManager.mem_active_startVerification _ _ _).2 (Or.inl rfl)
      · rw [hrun] at h
        cases h
      · rw [hrun] at h
        cases h
    | false =>
      -- refused: within its cap, the cache is as it was
      simp only [htaken, Bool.false_eq_true, if_false] at hrun
      refine ⟨fun id h => ?_, fun _ => by rw [hrun], fun _ k e => ?_⟩
      · rw [hrun] at h
        cases h
      · rw [hrun, offer_refused hs.bounded htaken]
        exact ⟨id, fun h hne => absurd h hne⟩

/-- **The cache over every run**: in every state it is bounded and keyed
    by id, and every call that brings a challenge in is true to its
    answer. -/
theorem challenge_cache_invariant (X : WalletCrates Params) (ops : List (SessionOp Params)) :
    Always (sessionStep X) CacheInvariant .new ops ∧
      StepsMeet (sessionStep X)
        (fun s op => ∀ call, op = .process call → TrueToAnswer X.toDocumentCrates call s)
        .new ops := by
  constructor
  · exact always_of_invariant (cacheInvariant_sessionStep X) ops cacheInvariant_new
  · refine stepsMeet_of_step (I := CacheInvariant) (P := fun _ _ => True) (fun s op hs _ => ?_)
      cacheInvariant_new (stepsMeet_true _ ops)
    exact ⟨cacheInvariant_sessionStep X s op hs, fun call _ =>
      trueToAnswer_of_invariant X.toDocumentCrates call s hs⟩

/-! ## §2. The active list -/

/-- Every active id is in the cache. -/
def Backed (s : Session) : Prop :=
  ∀ id ∈ s.stateManager.activeVerifications, s.cachedChallenges.lookup id ≠ none

/-- **The property**: no id is active twice, every active id is in the
    cache, and no more than 64 are active. -/
structure ActiveBacked (s : Session) : Prop where
  nodup : s.stateManager.activeVerifications.Nodup
  backed : Backed s
  bounded : s.stateManager.activeVerifications.length ≤ maxCachedChallenges

/-- A step that takes no active challenge out of the cache: an eviction
    finds them live, but for the one that is cached again, and a cleanup
    finds none of them expired. -/
def KeepsActive (X : DocumentCrates) (s : Session) : SessionOp Params → Prop
  | .process call =>
    ∀ challenge, call.challenge X = .ok challenge → maxCachedChallenges ≤ size s.cachedChallenges →
      ∀ id ∈ s.stateManager.activeVerifications, id ≠ challenge.challengeId →
        ∀ e, s.cachedChallenges.lookup id = some e → live call.clock.nowForEvict e = true
  | .cleanupExpiredChallenges now =>
    ∀ id ∈ s.stateManager.activeVerifications,
      ∀ e, s.cachedChallenges.lookup id = some e → expired now e = false
  | _ => True

theorem nodup_active_sessionStep (X : WalletCrates Params) (s : Session) (op : SessionOp Params)
    (h : s.stateManager.activeVerifications.Nodup) :
    (sessionStep X s op).stateManager.activeVerifications.Nodup := by
  rw [stateManager_sessionStep]
  cases managerCall X s op with
  | none => exact h
  | some call => exact StateManager.nodup_active_managerStep s.stateManager call h

/-- Where the cache is bounded and no id is active twice, the property is
    that every active id is in the cache. -/
theorem activeBacked_iff {s : Session} (hs : CacheInvariant s)
    (hnodup : s.stateManager.activeVerifications.Nodup) : ActiveBacked s ↔ Backed s := by
  constructor
  · intro h
    exact h.backed
  · intro h
    exact ⟨hnodup, h, Nat.le_trans (length_le_size hnodup h) hs.bounded⟩

/-- An operation that leaves the cache alone starts no verification. -/
theorem active_of_quiet (X : WalletCrates Params) (s : Session) (op : SessionOp Params)
    (hq : op.Quiet) (x : String) (hx : x ∈ (sessionStep X s op).stateManager.activeVerifications) :
    x ∈ s.stateManager.activeVerifications := by
  rw [stateManager_sessionStep] at hx
  cases op with
  | process call => exact hq.elim
  | cleanupExpiredChallenges now => exact hq.elim
  | emergencyZeroize lockFree => exact hq.elim
  | getProvableCredentials env config id => exact hx
  | cancelVerification id =>
    exact ((StateManager.mem_active_removeVerification id x s.stateManager).1 hx).1
  | createProof choice env id =>
    unfold managerCall at hx
    cases hreq : choice.request X env id s with
    | error e =>
      simp only [hreq] at hx
      exact hx
    | ok request =>
      simp only [hreq] at hx
      exact hx
  | submitProof net config proofJson =>
    unfold managerCall at hx
    cases hsub : submission X net config proofJson with
    | error e =>
      simp only [hsub] at hx
      exact hx
    | ok outcome =>
      obtain ⟨id, success⟩ := outcome
      simp only [hsub] at hx
      have hx' : x ∈ (s.stateManager.completeVerification id success).activeVerifications := hx
      rw [StateManager.active_completeVerification] at hx'
      exact ((StateManager.mem_active_removeVerification id x s.stateManager).1 hx').1

theorem backed_of_quiet (X : WalletCrates Params) (s : Session) (op : SessionOp Params)
    (hq : op.Quiet) (h : Backed s) : Backed (sessionStep X s op) := by
  intro id hid
  rw [cached_sessionStep_of_quiet X s op hq]
  exact h id (active_of_quiet X s op hq id hid)

/-- A filtered entry is there as long as it passes the test. -/
private theorem filter_ne_none_iff {ε : Type} (o : Option ε) (keep : ε → Bool) (ho : o ≠ none) :
    o.filter keep ≠ none ↔ ∀ e, o = some e → keep e = true := by
  cases o with
  | none => exact absurd rfl ho
  | some e =>
    cases hkeep : keep e with
    | true => simp [hkeep]
    | false => simp [hkeep]

/-- **A call that brings a challenge in** keeps every active id in the
    cache exactly if its eviction finds them live. -/
theorem backed_process_iff (X : WalletCrates Params) (s : Session) (call : ProcessCall)
    (hs : CacheInvariant s) (h : Backed s) :
    Backed (sessionStep X s (.process call)) ↔
      KeepsActive X.toDocumentCrates s (.process call : SessionOp Params) := by
  show Backed (call.run X.toDocumentCrates s).2 ↔ _
  cases hread : call.challenge X.toDocumentCrates with
  | error e =>
    rw [ProcessCall.run_of_error hread]
    refine iff_of_true h ?_
    intro challenge hread'
    rw [hread] at hread'
    cases hread'
  | ok challenge =>
    -- which lookups the eviction keeps
    have hkeep : ∀ id ∈ s.stateManager.activeVerifications,
        ((if maxCachedChallenges ≤ size s.cachedChallenges then
            (s.cachedChallenges.lookup id).filter (live call.clock.nowForEvict)
          else s.cachedChallenges.lookup id) ≠ none ↔
          (maxCachedChallenges ≤ size s.cachedChallenges → ∀ e,
            s.cachedChallenges.lookup id = some e → live call.clock.nowForEvict e = true)) := by
      intro id hid
      by_cases hfull : maxCachedChallenges ≤ size s.cachedChallenges
      · rw [if_pos hfull, filter_ne_none_iff _ _ (h id hid)]
        exact ⟨fun hl _ => hl, fun hl => hl hfull⟩
      · rw [if_neg hfull]
        exact iff_of_true (h id hid) (fun hfull' => absurd hfull' hfull)
    rw [ProcessCall.run_of_ok hread, cacheChallenge_eq]
    unfold Backed KeepsActive
    simp only [lookup_offer]
    cases htaken : (offer maxCachedChallenges (live call.clock.nowForEvict) challenge.challengeId
        (entryOf call.clock.now challenge) s.cachedChallenges).1 with
    | true =>
      simp only [if_true, true_and, StateManager.mem_active_startVerification]
      constructor
      · intro hback c hc hfull id hid hne
        rw [hread] at hc
        injection hc with hc
        rw [← hc] at hne
        have hid' := hback id (Or.inr hid)
        rw [if_neg hne] at hid'
        exact (hkeep id hid).1 hid' hfull
      · intro hlive id hid
        by_cases heq : id = challenge.challengeId
        · rw [if_pos heq]
          exact Option.some_ne_none _
        · rw [if_neg heq]
          have hmem := hid.resolve_left heq
          exact (hkeep id hmem).2 fun hfull => hlive challenge hread hfull id hmem heq
    | false =>
      -- refused: nothing was evicted, so every entry was live
      have hsame := offer_refused hs.bounded htaken
      have hlook : ∀ id, (if maxCachedChallenges ≤ size s.cachedChallenges then
            (s.cachedChallenges.lookup id).filter (live call.clock.nowForEvict)
          else s.cachedChallenges.lookup id) = s.cachedChallenges.lookup id := by
        intro id
        have hoffer := lookup_offer maxCachedChallenges (live call.clock.nowForEvict)
          challenge.challengeId (entryOf call.clock.now challenge) s.cachedChallenges id
        rw [hsame, htaken, if_neg (by simp)] at hoffer
        exact hoffer.symm
      simp only [Bool.false_eq_true, if_false, false_and, hlook]
      refine iff_of_true h ?_
      intro c _ hfull id hid _
      have hid' := h id hid
      rw [← hlook id] at hid'
      exact (hkeep id hid).1 hid' hfull

/-- **A cleanup** keeps every active id in the cache exactly if none of
    them has expired. -/
theorem backed_cleanup_iff (X : WalletCrates Params) (s : Session) (now : Int) (h : Backed s) :
    Backed (sessionStep X s (.cleanupExpiredChallenges now)) ↔
      KeepsActive X.toDocumentCrates s (.cleanupExpiredChallenges now : SessionOp Params) := by
  show (∀ id ∈ s.stateManager.activeVerifications,
    (sweep (expired now) s.cachedChallenges).lookup id ≠ none) ↔ _
  refine forall₂_congr fun id hid => ?_
  rw [lookup_sweep, filter_ne_none_iff _ _ (h id hid)]
  simp only [Bool.not_eq_true']

/-- **One step** keeps every active id in the cache exactly if it takes
    none of them out. -/
theorem backed_sessionStep_iff (X : WalletCrates Params) (s : Session) (op : SessionOp Params)
    (hs : CacheInvariant s) (h : Backed s) :
    Backed (sessionStep X s op) ↔ KeepsActive X.toDocumentCrates s op := by
  cases op with
  | process call => exact backed_process_iff X s call hs h
  | cleanupExpiredChallenges now => exact backed_cleanup_iff X s now h
  | emergencyZeroize lockFree =>
    -- the active list is cleared, whatever becomes of the cache
    refine iff_of_true ?_ trivial
    intro id hid
    exact absurd hid List.not_mem_nil
  | cancelVerification id => exact iff_of_true (backed_of_quiet X s _ trivial h) trivial
  | createProof choice env id => exact iff_of_true (backed_of_quiet X s _ trivial h) trivial
  | getProvableCredentials env config id =>
    exact iff_of_true (backed_of_quiet X s _ trivial h) trivial
  | submitProof net config proofJson =>
    exact iff_of_true (backed_of_quiet X s _ trivial h) trivial

/-- **The active list is backed by the cache** in every state of a run
    exactly if no eviction and no cleanup of the run meets an active
    challenge. -/
theorem active_backed_iff (X : WalletCrates Params) (ops : List (SessionOp Params)) :
    Always (sessionStep X) ActiveBacked .new ops ↔
      StepsMeet (sessionStep X) (KeepsActive X.toDocumentCrates) .new ops := by
  refine always_iff_stepsMeet
    (I := fun s => CacheInvariant s ∧ s.stateManager.activeVerifications.Nodup)
    (fun s op hs => ⟨cacheInvariant_sessionStep X s op hs.1, nodup_active_sessionStep X s op hs.2⟩)
    (fun s op hs hG => ?_) ops ⟨cacheInvariant_new, List.nodup_nil⟩
    ⟨List.nodup_nil, fun id hid => absurd hid List.not_mem_nil, Nat.zero_le _⟩
  rw [activeBacked_iff (cacheInvariant_sessionStep X s op hs.1)
    (nodup_active_sessionStep X s op hs.2)]
  exact backed_sessionStep_iff X s op hs.1 hG.backed

/-- A challenge is brought in and, six minutes later, cleaned up. -/
def cleanupRun : List (SessionOp Unit) :=
  [.process typedEntry, .cleanupExpiredChallenges (sampleTime + sixMinutes)]

/-- Its id is active all the same. -/
theorem cleaned_challenge_active :
    ¬ Always (sessionStep sampleCratesOf) ActiveBacked .new cleanupRun := by
  intro h
  have hgone : (run (sessionStep sampleCratesOf) .new cleanupRun).cachedChallenges.lookup
      openChallenge.challengeId = none := by decide +kernel
  have hactive : openChallenge.challengeId ∈
      (run (sessionStep sampleCratesOf) .new cleanupRun).stateManager.activeVerifications := by
    decide +kernel
  exact h.last.backed _ hactive hgone

end ProviiSdk.Wallet
