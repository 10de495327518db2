/-
  ProviiSdk.Ffi.CurrentChallenge — whose status is reported?

  Several challenges may be in flight, and there is one status, one
  counter and one last error for all of them.  The methods that take a
  challenge id write these cells whichever challenge the id names.  This
  file runs the manager beside a record of the challenges in flight, in
  the order they were started, and says exactly which runs keep the
  cells to the current one.

  Main results:
    * `undisturbed_iff` — a call about another challenge leaves the
      cells alone exactly when it writes what they hold.
    * `owned_step_iff` — after a call a verified status belongs to the
      newest challenge exactly when the call verifies nothing else.
    * `status_of_current_iff` — both, for whole runs.
-/

import ProviiSdk.Ffi.State
import ProviiSdk.Lib.Run

namespace ProviiSdk.Ffi

open ProviiSdk.Run

/-! ## §1. Challenges in flight -/

/-- The cells, with the challenges started and not yet finished or
    cancelled, the most recently started one last, the most recently
    started challenge of all, and whether that one was completed
    successfully since. -/
structure Flight where
  manager : StateManager
  inFlight : List String
  newest : Option String
  newestVerified : Bool

/-- The current challenge: of those in flight, the most recently started. -/
def Flight.current (s : Flight) : Option String := s.inFlight.getLast?

/-- The challenges in flight without `id`. -/
def Flight.without (s : Flight) (id : String) : List String := s.inFlight.filter fun x => x ≠ id

/-- The cells and the record after a call. -/
def flightStep (s : Flight) (op : ManagerOp) : Flight :=
  let manager := managerStep s.manager op
  match op with
  | .start id =>
    { manager, inFlight := s.without id ++ [id], newest := some id, newestVerified := false }
  | .update _ _ => { s with manager }
  | .complete id success =>
    { s with
      manager
      inFlight := s.without id
      newestVerified := s.newestVerified || (success && decide (s.newest = some id)) }
  | .cancel id => { s with manager, inFlight := s.without id }
  | .reset => { manager, inFlight := [], newest := none, newestVerified := false }

/-- A new session, nothing in flight. -/
def newFlight : Flight :=
  { manager := .new, inFlight := [], newest := none, newestVerified := false }

/-- The challenge a call is about, for the calls that finish, cancel or
    advance one. -/
def ManagerOp.about : ManagerOp → Option String
  | .update id _ => some id
  | .complete id _ => some id
  | .cancel id => some id
  | _ => none

/-- The cells that all challenges share. -/
structure SharedCells where
  status : VerificationStatus
  failedAttempts : UInt32
  lastError : Option String
  deriving DecidableEq

def StateManager.shared (m : StateManager) : SharedCells :=
  { status := m.verificationStatus, failedAttempts := m.failedAttempts, lastError := m.lastError }

/-! ## §2. The property and the condition -/

/-- A call about another challenge than the current one. -/
def Foreign (s : Flight) (op : ManagerOp) : Prop :=
  ∃ a b, op.about = some a ∧ s.current = some b ∧ a ≠ b

/-- **No interference**: a call about another challenge leaves the shared
    cells alone. -/
def Undisturbed (s : Flight) (op : ManagerOp) : Prop :=
  Foreign s op → (managerStep s.manager op).shared = s.manager.shared

/-- **Verified means the newest**: the status is a success only if the
    most recently started challenge was completed successfully. -/
def VerifiedIsNewest (s : Flight) : Prop :=
  s.manager.verificationStatus = .verified → s.newestVerified = true

/-- A call writes to the shared cells what they already hold. -/
def WritesNothingNew (m : StateManager) : ManagerOp → Prop
  | .update _ status =>
    m.verificationStatus = status ∧
      ∀ reason, status = .failed reason →
        m.failedAttempts = StateManager.maxAttempts ∧ m.lastError = some reason
  | .complete _ true =>
    m.verificationStatus = .verified ∧ m.failedAttempts = 0 ∧ m.lastError = none
  | .complete _ false => m.verificationStatus = .failed m.completionReason
  | .cancel _ => m.verificationStatus = .notStarted
  | _ => True

/-- A call reports success only for the newest challenge, or after it was
    completed. -/
def VerifiesNewest (s : Flight) : ManagerOp → Prop
  | .update _ .verified => s.newestVerified = true
  | .complete id true => s.newest = some id ∨ s.newestVerified = true
  | _ => True

/-- The condition on a call: it is about the current challenge, if there
    is one, or writes nothing new; and it verifies the newest challenge
    only. -/
def KeepsToCurrent (s : Flight) (op : ManagerOp) : Prop :=
  (Foreign s op → WritesNothingNew s.manager op) ∧ VerifiesNewest s op

/-! ## §3. One call -/

/-- A counter that a failure leaves as it is was at its greatest value. -/
private theorem satSucc_eq_self_iff (n : UInt32) :
    StateManager.satSucc n = n ↔ n = StateManager.maxAttempts := by
  constructor
  · intro h
    have hsucc := StateManager.satSucc_toNat n
    have hlt : n.toNat < 4294967296 := n.toNat_lt
    have hmax : StateManager.maxAttempts.toNat = 4294967295 := rfl
    rw [h] at hsucc
    refine UInt32.toNat_inj.1 ?_
    omega
  · rintro rfl
    exact StateManager.satSucc_max

/-- **A call leaves the shared cells alone exactly when it writes what
    they hold.** -/
theorem shared_managerStep_iff (m : StateManager) (op : ManagerOp) (id : String)
    (habout : op.about = some id) : (managerStep m op).shared = m.shared ↔ WritesNothingNew m op := by
  obtain ⟨status, active, attempts, error⟩ := m
  cases op with
  | start x => cases habout
  | reset => cases habout
  | update x new =>
    cases new with
    | failed reason =>
      have hsat := satSucc_eq_self_iff attempts
      simp only [managerStep, StateManager.updateVerificationStatus, StateManager.shared,
        WritesNothingNew, SharedCells.mk.injEq, VerificationStatus.failed.injEq, hsat]
      constructor
      · rintro ⟨hstatus, hcount, herror⟩
        exact ⟨hstatus.symm, fun reason' h => ⟨hcount, herror ▸ h ▸ rfl⟩⟩
      · rintro ⟨hstatus, hcells⟩
        obtain ⟨hcount, herror⟩ := hcells reason rfl
        exact ⟨hstatus.symm, hcount, herror.symm⟩
    | _ =>
      simp only [managerStep, StateManager.updateVerificationStatus, StateManager.shared,
        WritesNothingNew, SharedCells.mk.injEq, and_true, reduceCtorEq, false_implies,
        implies_true]
      exact eq_comm
  | complete x success =>
    cases success with
    | true =>
      show SharedCells.mk .verified 0 none = SharedCells.mk status attempts error ↔ _
      rw [SharedCells.mk.injEq]
      unfold WritesNothingNew
      rw [eq_comm, @eq_comm _ (0 : UInt32), @eq_comm _ (none : Option String)]
    | false =>
      show SharedCells.mk (.failed (StateManager.completionReason ⟨status, active, attempts, error⟩))
        attempts error = SharedCells.mk status attempts error ↔ _
      rw [SharedCells.mk.injEq]
      unfold WritesNothingNew
      simp only [and_true]
      exact eq_comm
  | cancel x =>
    show SharedCells.mk .notStarted attempts error = SharedCells.mk status attempts error ↔ _
    rw [SharedCells.mk.injEq]
    unfold WritesNothingNew
    simp only [and_true]
    exact eq_comm

/-- A call about another challenge does not disturb the current one
    exactly when it writes what the cells hold. -/
theorem undisturbed_iff (s : Flight) (op : ManagerOp) :
    Undisturbed s op ↔ (Foreign s op → WritesNothingNew s.manager op) := by
  unfold Undisturbed
  refine imp_congr_right fun hforeign => ?_
  obtain ⟨a, b, habout, -, -⟩ := hforeign
  exact shared_managerStep_iff s.manager op a habout

/-- **After a call a verified status belongs to the newest challenge
    exactly when the call verifies nothing else.** -/
theorem owned_step_iff (s : Flight) (op : ManagerOp) :
    VerifiedIsNewest (flightStep s op) ↔ VerifiesNewest s op := by
  cases op with
  | start id =>
    refine iff_of_true (fun h => ?_) trivial
    cases h
  | reset =>
    refine iff_of_true (fun h => ?_) trivial
    cases h
  | cancel id =>
    refine iff_of_true (fun h => ?_) trivial
    cases h
  | update id status =>
    cases status with
    | verified => exact ⟨fun h => h rfl, fun h _ => h⟩
    | notStarted =>
      refine iff_of_true (fun h => ?_) trivial
      cases h
    | challengeReceived =>
      refine iff_of_true (fun h => ?_) trivial
      cases h
    | proofGenerated =>
      refine iff_of_true (fun h => ?_) trivial
      cases h
    | submitting =>
      refine iff_of_true (fun h => ?_) trivial
      cases h
    | failed reason =>
      refine iff_of_true (fun h => ?_) trivial
      cases h
  | complete id success =>
    cases success with
    | false =>
      refine iff_of_true (fun h => ?_) trivial
      cases h
    | true =>
      have hflag : (flightStep s (.complete id true)).newestVerified =
          (s.newestVerified || (true && decide (s.newest = some id))) := rfl
      have hor : (flightStep s (.complete id true)).newestVerified = true ↔
          s.newest = some id ∨ s.newestVerified = true := by
        rw [hflag, Bool.true_and, Bool.or_eq_true, decide_eq_true_eq, or_comm]
      exact ⟨fun h => hor.1 (h rfl), fun h _ => hor.2 h⟩

/-! ## §4. Whole runs -/

/-- **The status belongs to the current challenge exactly when every call
    keeps to it**: over any sequence of calls from a new session, no call
    about another challenge than the current one changes the status, the
    counter or the last error, and every verified status is the newest
    challenge's, exactly when every call is about the current challenge
    or writes what the cells hold, and verifies the newest one only. -/
theorem status_of_current_iff (ops : List ManagerOp) :
    (Always flightStep VerifiedIsNewest newFlight ops ∧
        StepsMeet flightStep Undisturbed newFlight ops) ↔
      StepsMeet flightStep KeepsToCurrent newFlight ops := by
  refine always_and_stepsMeet_iff_of_invariant (I := fun _ => True) (fun _ _ _ => trivial) ?_ ops
    trivial ?_
  · intro s op _ _
    rw [owned_step_iff, undisturbed_iff]
    exact and_comm
  · intro h
    cases h

/-- **Another challenge's proof is accepted, and this one is reported as
    verified**: `a` and then `b` are started, and `a` is completed. -/
theorem foreign_completion_verifies :
    (run flightStep newFlight [.start "a", .start "b"]).current = some "b" ∧
    (run flightStep newFlight [.start "a", .start "b", .complete "a" true]).current = some "b" ∧
    (run flightStep newFlight [.start "a", .start "b", .complete "a" true]).manager =
      { verificationStatus := .verified, activeVerifications := ["b"], failedAttempts := 0,
        lastError := none } ∧
    ¬ (Always flightStep VerifiedIsNewest newFlight [.start "a", .start "b", .complete "a" true] ∧
      StepsMeet flightStep Undisturbed newFlight [.start "a", .start "b", .complete "a" true]) := by
  refine ⟨by decide, by decide, by decide, ?_⟩
  rintro ⟨hall, -⟩
  exact absurd (hall.last rfl) (by decide)

end ProviiSdk.Ffi
