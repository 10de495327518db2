/-
  ProviiSdk.Ffi.State — the verification state of a session.

  The cells of `StateManager` that track verifications: one status, the
  list of active challenge ids, one failure counter and one last error.
  Every method takes the cells and returns them as it leaves them; all
  of them succeed.  The biometric cells are not modelled, no method here
  reads them.

  Main results:
    * `satSucc_toNat` — the failure counter saturates.
    * `mem_active_startVerification`, `mem_active_removeVerification` —
      the active list as a set.
    * `nodup_active_managerStep` — no method lists an id twice.
-/

import Mathlib.Data.List.Nodup

namespace ProviiSdk.Ffi

/-! ## §1. Status and cells -/

/-- How far a verification has come, as the host is told. -/
inductive VerificationStatus where
  | notStarted
  | challengeReceived
  | proofGenerated
  | submitting
  | verified
  | failed (reason : String)
  deriving DecidableEq, Repr

/-- The cells of the session state. -/
structure StateManager where
  verificationStatus : VerificationStatus
  activeVerifications : List String
  failedAttempts : UInt32
  lastError : Option String
  deriving DecidableEq, Repr

namespace StateManager

/-- The cells of a new session. -/
def new : StateManager :=
  { verificationStatus := .notStarted, activeVerifications := [], failedAttempts := 0,
    lastError := none }

/-- The greatest `u32`. -/
def maxAttempts : UInt32 := 4294967295

/-- Rust's `saturating_add(1)` at `u32`. -/
def satSucc (n : UInt32) : UInt32 := if n = maxAttempts then n else n + 1

/-! ## §2. Methods -/

/-- Begin tracking a challenge.  The counter and the last error are
    cleared whichever challenge they were about. -/
def startVerification (challengeId : String) (m : StateManager) : StateManager :=
  { verificationStatus := .challengeReceived
    activeVerifications :=
      if challengeId ∈ m.activeVerifications then m.activeVerifications
      else m.activeVerifications ++ [challengeId]
    failedAttempts := 0
    lastError := none }

/-- Set the status.  The challenge id is only logged. -/
def updateVerificationStatus (_challengeId : String) (status : VerificationStatus)
    (m : StateManager) : StateManager :=
  match status with
  | .failed reason =>
    { m with
      failedAttempts := satSucc m.failedAttempts
      lastError := some reason
      verificationStatus := .failed reason }
  | status => { m with verificationStatus := status }

/-- Take a challenge id off the active list. -/
def removeVerification (challengeId : String) (m : StateManager) : StateManager :=
  { m with activeVerifications := m.activeVerifications.filter fun id => id ≠ challengeId }

/-- The reason of a failed completion: the attempt it is counted as. -/
def completionReason (m : StateManager) : String :=
  s!"Verification failed after {(satSucc m.failedAttempts).toNat} attempts"

/-- Mark a verification as finished.  A failure leaves the counter and
    the last error as they are. -/
def completeVerification (challengeId : String) (success : Bool) (m : StateManager) :
    StateManager :=
  let status := if success then .verified else .failed m.completionReason
  let m := removeVerification challengeId { m with verificationStatus := status }
  if success then { m with failedAttempts := 0, lastError := none } else m

/-- Cancel a verification: the id leaves the active list, and the status
    is cleared whichever challenge it was about. -/
def cancelVerification (challengeId : String) (m : StateManager) : StateManager :=
  { removeVerification challengeId m with verificationStatus := .notStarted }

/-- Put every cell back to its initial value. -/
def reset (_m : StateManager) : StateManager := new

end StateManager

/-! ## §3. The manager as a machine -/

/-- A call of a method that changes the cells. -/
inductive ManagerOp where
  | start (challengeId : String)
  | update (challengeId : String) (status : VerificationStatus)
  | complete (challengeId : String) (success : Bool)
  | cancel (challengeId : String)
  | reset
  deriving DecidableEq, Repr

/-- The cells after a call. -/
def managerStep (m : StateManager) : ManagerOp → StateManager
  | .start id => m.startVerification id
  | .update id status => m.updateVerificationStatus id status
  | .complete id success => m.completeVerification id success
  | .cancel id => m.cancelVerification id
  | .reset => m.reset

namespace StateManager

/-- **The counter saturates.** -/
theorem satSucc_toNat (n : UInt32) : (satSucc n).toNat = min (n.toNat + 1) maxAttempts.toNat := by
  have hmax : maxAttempts.toNat = 4294967295 := rfl
  have hlt : n.toNat < 4294967296 := n.toNat_lt
  unfold satSucc
  by_cases h : n = maxAttempts
  · rw [if_pos h, h, hmax]
    omega
  · have hne : n.toNat ≠ 4294967295 := by
      intro heq
      exact h (UInt32.toNat_inj.1 (heq.trans hmax.symm))
    have hone : (1 : UInt32).toNat = 1 := rfl
    rw [if_neg h, hmax, UInt32.toNat_add, hone]
    omega

/-- A counter at its greatest value stays there. -/
theorem satSucc_max : satSucc maxAttempts = maxAttempts := if_pos rfl

/-! ## §4. The active list -/

theorem mem_active_startVerification (id x : String) (m : StateManager) :
    x ∈ (m.startVerification id).activeVerifications ↔ x = id ∨ x ∈ m.activeVerifications := by
  unfold startVerification
  by_cases h : id ∈ m.activeVerifications
  · rw [if_pos h]
    constructor
    · intro hx
      exact Or.inr hx
    · intro hx
      rcases hx with rfl | hx
      · exact h
      · exact hx
  · rw [if_neg h, List.mem_append, List.mem_singleton, or_comm]

theorem mem_active_removeVerification (id x : String) (m : StateManager) :
    x ∈ (m.removeVerification id).activeVerifications ↔ x ∈ m.activeVerifications ∧ x ≠ id := by
  unfold removeVerification
  rw [List.mem_filter, decide_eq_true_eq]

/-- An update leaves the active list alone. -/
@[simp] theorem active_updateVerificationStatus (id : String) (status : VerificationStatus)
    (m : StateManager) :
    (m.updateVerificationStatus id status).activeVerifications = m.activeVerifications := by
  cases status <;> rfl

/-- A completion takes its id off the list, successful or not. -/
@[simp] theorem active_completeVerification (id : String) (success : Bool) (m : StateManager) :
    (m.completeVerification id success).activeVerifications =
      (m.removeVerification id).activeVerifications := by
  cases success <;> rfl

@[simp] theorem active_cancelVerification (id : String) (m : StateManager) :
    (m.cancelVerification id).activeVerifications =
      (m.removeVerification id).activeVerifications := rfl

theorem nodup_active_startVerification (id : String) (m : StateManager)
    (h : m.activeVerifications.Nodup) : (m.startVerification id).activeVerifications.Nodup := by
  unfold startVerification
  by_cases hmem : id ∈ m.activeVerifications
  · rw [if_pos hmem]
    exact h
  · rw [if_neg hmem]
    exact List.nodup_append.2 ⟨h, List.nodup_singleton id, fun a ha b hb => by
      rw [List.mem_singleton.1 hb]
      intro heq
      exact hmem (heq ▸ ha)⟩

theorem nodup_active_removeVerification (id : String) (m : StateManager)
    (h : m.activeVerifications.Nodup) : (m.removeVerification id).activeVerifications.Nodup :=
  h.filter _

/-- **No method lists an id twice.** -/
theorem nodup_active_managerStep (m : StateManager) (op : ManagerOp)
    (h : m.activeVerifications.Nodup) : (managerStep m op).activeVerifications.Nodup := by
  cases op with
  | start id => exact nodup_active_startVerification id m h
  | update id status =>
    show (m.updateVerificationStatus id status).activeVerifications.Nodup
    rw [active_updateVerificationStatus]
    exact h
  | complete id success =>
    show (m.completeVerification id success).activeVerifications.Nodup
    rw [active_completeVerification]
    exact nodup_active_removeVerification id m h
  | cancel id => exact nodup_active_removeVerification id m h
  | reset => exact List.nodup_nil

end StateManager

end ProviiSdk.Ffi
