/-
  ProviiSdk.Wallet.SessionRun — the session as a machine.

  An operation is a call of a wallet method that touches the cache of
  challenges or the verification state, with all it meets from outside:
  the network, the clock, the store, the prover.  The store is an
  argument of the calls that read it, so a run may change it at will
  between them.

  Main results:
    * `stateManager_sessionStep` — an operation is at most one call of the
      state manager.
    * `cached_sessionStep_of_quiet` — only three kinds of operation change
      the cache.
-/

import ProviiSdk.Lib.Run
import ProviiSdk.Wallet.AgeProof

namespace ProviiSdk.Wallet

open ProviiSdk.Core ProviiSdk.Platform ProviiSdk.Ffi ProviiSdk.Check ProviiSdk.BoundedCache

variable {Params : Type}

/-! ## §1. The two ways in -/

/-- A challenge is scanned or typed. -/
inductive EntryWay where
  | scanned
  | typed
  deriving DecidableEq, Repr

/-- A call that brings a challenge in. -/
structure ProcessCall where
  way : EntryWay
  net : Network
  config : WalletConfig
  clock : CachingClock
  input : String

/-- The challenge a call reads. -/
def ProcessCall.challenge (X : DocumentCrates) (c : ProcessCall) :
    Except FfiError QrChallengePayload :=
  match c.way with
  | .scanned => parseQrPayloadInternal X c.net c.config c.input
  | .typed => manualChallenge X c.net c.config c.input

/-- The method that is called. -/
def ProcessCall.run (X : DocumentCrates) (c : ProcessCall) (s : Session) :
    Except FfiError String × Session :=
  match c.way with
  | .scanned => processQrChallenge X c.net c.config c.clock c.input s
  | .typed => processManualEntry X c.net c.config c.clock c.input s

/-- Both methods read a challenge and cache it. -/
theorem ProcessCall.run_eq (X : DocumentCrates) (c : ProcessCall) (s : Session) :
    c.run X s = cacheRead c.clock (c.challenge X) s := by
  rcases c with ⟨_ | _, net, config, clock, input⟩
  · rfl
  · rfl

/-- A call that reads no challenge changes nothing. -/
theorem ProcessCall.run_of_error {X : DocumentCrates} {c : ProcessCall} {e : FfiError}
    (h : c.challenge X = .error e) (s : Session) : c.run X s = (.error e, s) := by
  rw [c.run_eq, h]
  rfl

/-- A call that reads a challenge offers it to the cache. -/
theorem ProcessCall.run_of_ok {X : DocumentCrates} {c : ProcessCall}
    {challenge : QrChallengePayload} (h : c.challenge X = .ok challenge) (s : Session) :
    c.run X s = cacheChallenge c.clock challenge s := by
  rw [c.run_eq, h]
  rfl

/-! ## §2. Operations -/

/-- A proof request with the credential given, or chosen by the wallet. -/
inductive ProofChoice where
  | given (credentialId : Key)
  | auto (listEnv : ListEnv) (config : WalletConfig)

/-- An operation of the wallet on its session. -/
inductive SessionOp (Params : Type) where
  | process (call : ProcessCall)
  | cleanupExpiredChallenges (now : Int)
  | cancelVerification (challengeId : String)
  | emergencyZeroize (lockFree : Bool)
  | createProof (choice : ProofChoice) (env : ProofEnv Params) (challengeId : String)
  | getProvableCredentials (env : ListEnv) (config : WalletConfig) (challengeId : String)
  | submitProof (net : Network) (config : WalletConfig) (proofJson : String)

/-- The credential a proof request is for. -/
def ProofChoice.credential (X : WalletCrates Params) (challengeId : String) (s : Session) :
    ProofChoice → Except FfiError Key
  | .given credentialId => .ok credentialId
  | .auto listEnv config => autoCredential X listEnv config challengeId s

/-- The method that is called. -/
def ProofChoice.run (X : WalletCrates Params) (env : ProofEnv Params) (challengeId : String)
    (s : Session) : ProofChoice → Except FfiError String × Session
  | .given credentialId => createAgeProof X env credentialId challengeId s
  | .auto listEnv config => createAgeProofAuto X listEnv env config challengeId s

/-- The state after an operation. -/
def sessionStep (X : WalletCrates Params) (s : Session) : SessionOp Params → Session
  | .process call => (call.run X.toDocumentCrates s).2
  | .cleanupExpiredChallenges now => (Wallet.cleanupExpiredChallenges now s).2
  | .cancelVerification id => Wallet.cancelVerification id s
  | .emergencyZeroize lockFree => Wallet.emergencyZeroize lockFree s
  | .createProof choice env id => (choice.run X env id s).2
  | .getProvableCredentials .. => s
  | .submitProof net config proofJson => (Wallet.submitProof X net config proofJson s).2

/-- The request a proof operation builds: the credential it is for, then
    the checks and the proof. -/
def ProofChoice.request (X : WalletCrates Params) (env : ProofEnv Params) (challengeId : String)
    (s : Session) (choice : ProofChoice) : Except FfiError SubmitProofRequest := do
  let credentialId ← choice.credential X challengeId s
  ageProofRequest X env credentialId challengeId s.cachedChallenges

/-- Both methods build a request, set the status and write the request. -/
theorem ProofChoice.run_eq (X : WalletCrates Params) (env : ProofEnv Params) (challengeId : String)
    (s : Session) (choice : ProofChoice) :
    choice.run X env challengeId s =
      finishProof X challengeId (choice.request X env challengeId s) s := by
  cases choice with
  | given credentialId => rfl
  | auto listEnv config =>
    unfold ProofChoice.run ProofChoice.request ProofChoice.credential createAgeProofAuto
    simp only
    cases autoCredential X listEnv config challengeId s with
    | error e => rfl
    | ok credentialId => rfl

/-! ## §3. The state manager in a run -/

/-- The call after a challenge was brought in: started, if it was cached. -/
def startCall : Except FfiError String → Option ManagerOp
  | .ok id => some (.start id)
  | .error _ => none

/-- The call after a request was built. -/
def updateCall (challengeId : String) : Except FfiError SubmitProofRequest → Option ManagerOp
  | .ok _ => some (.update challengeId .proofGenerated)
  | .error _ => none

/-- The call after a submission that the verifier answered. -/
def completeCall : Except FfiError (String × Bool) → Option ManagerOp
  | .ok (challengeId, success) => some (.complete challengeId success)
  | .error _ => none

/-- The call an operation makes on the state manager. -/
def managerCall (X : WalletCrates Params) (s : Session) : SessionOp Params → Option ManagerOp
  | .process call => startCall (call.run X.toDocumentCrates s).1
  | .cleanupExpiredChallenges _ => none
  | .cancelVerification id => some (.cancel id)
  | .emergencyZeroize _ => some .reset
  | .createProof choice env id => updateCall id (choice.request X env id s)
  | .getProvableCredentials .. => none
  | .submitProof net config proofJson => completeCall (submission X net config proofJson)

/-- The state after at most one call. -/
def afterCall (m : StateManager) : Option ManagerOp → StateManager
  | some call => managerStep m call
  | none => m

theorem stateManager_run (X : DocumentCrates) (call : ProcessCall) (s : Session) :
    (call.run X s).2.stateManager = afterCall s.stateManager (startCall (call.run X s).1) := by
  cases hread : call.challenge X with
  | error e =>
    rw [ProcessCall.run_of_error hread]
    rfl
  | ok challenge =>
    rw [ProcessCall.run_of_ok hread, cacheChallenge_eq]
    simp only
    split
    · rfl
    · rfl

/-- **An operation is at most one call of the state manager.** -/
theorem stateManager_sessionStep (X : WalletCrates Params) (s : Session) (op : SessionOp Params) :
    (sessionStep X s op).stateManager = afterCall s.stateManager (managerCall X s op) := by
  cases op with
  | process call => exact stateManager_run X.toDocumentCrates call s
  | cleanupExpiredChallenges now => rfl
  | cancelVerification id => rfl
  | emergencyZeroize lockFree => rfl
  | createProof choice env id =>
    show (choice.run X env id s).2.stateManager =
      afterCall s.stateManager (updateCall id (choice.request X env id s))
    rw [choice.run_eq]
    cases choice.request X env id s with
    | error e => rfl
    | ok request => rfl
  | getProvableCredentials env config id => rfl
  | submitProof net config proofJson =>
    show (Wallet.submitProof X net config proofJson s).2.stateManager =
      afterCall s.stateManager (completeCall (submission X net config proofJson))
    unfold Wallet.submitProof
    cases submission X net config proofJson with
    | error e => rfl
    | ok outcome => rfl

/-! ## §4. The cache in a run -/

/-- The operations that leave the cache alone. -/
def SessionOp.Quiet : SessionOp Params → Prop
  | .process _ => False
  | .cleanupExpiredChallenges _ => False
  | .emergencyZeroize _ => False
  | _ => True

/-- **Only three kinds of operation change the cache.** -/
theorem cached_sessionStep_of_quiet (X : WalletCrates Params) (s : Session) (op : SessionOp Params)
    (h : op.Quiet) : (sessionStep X s op).cachedChallenges = s.cachedChallenges := by
  cases op with
  | process call => exact h.elim
  | cleanupExpiredChallenges now => exact h.elim
  | cancelVerification id => rfl
  | emergencyZeroize lockFree => exact h.elim
  | createProof choice env id =>
    show (choice.run X env id s).2.cachedChallenges = _
    rw [choice.run_eq]
    cases choice.request X env id s with
    | error e => rfl
    | ok request => rfl
  | getProvableCredentials env config id => rfl
  | submitProof net config proofJson =>
    show (Wallet.submitProof X net config proofJson s).2.cachedChallenges = _
    unfold Wallet.submitProof
    cases submission X net config proofJson with
    | error e => rfl
    | ok outcome => rfl

/-- A call that brings a challenge in offers it to the cache, or leaves
    the cache alone. -/
theorem cached_process (X : WalletCrates Params) (s : Session) (call : ProcessCall) :
    (sessionStep X s (.process call)).cachedChallenges = s.cachedChallenges ∨
      ∃ challenge, call.challenge X.toDocumentCrates = .ok challenge ∧
        (sessionStep X s (.process call)).cachedChallenges =
          (offer maxCachedChallenges (live call.clock.nowForEvict) challenge.challengeId
            (entryOf call.clock.now challenge) s.cachedChallenges).2 := by
  show (call.run X.toDocumentCrates s).2.cachedChallenges = _ ∨ ∃ challenge, _ ∧
    (call.run X.toDocumentCrates s).2.cachedChallenges = _
  cases hread : call.challenge X.toDocumentCrates with
  | error e =>
    rw [ProcessCall.run_of_error hread]
    exact Or.inl rfl
  | ok challenge =>
    refine Or.inr ⟨challenge, rfl, ?_⟩
    rw [ProcessCall.run_of_ok hread, cacheChallenge_eq]

end ProviiSdk.Wallet
