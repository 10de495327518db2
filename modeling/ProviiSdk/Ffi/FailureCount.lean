/-
  ProviiSdk.Ffi.FailureCount — are failures counted?

  Two calls move the status into a failure: an update that says so, and
  an unsuccessful completion.  The first counts it and records its
  reason; the second puts the status to a reason that names the next
  attempt, and neither counts nor records it.  This file runs the
  manager beside a ledger of the failures since the last start,
  successful completion or reset, and says exactly which runs keep the
  counter and the last error true to it.

  Main results:
    * `booked_step_iff` — one call keeps the books exactly when it is
      not an unsuccessful completion that the cells do not show yet.
    * `failures_booked_iff` — the same for whole runs.
    * `failed_completion_unbooked` — one completion that is not counted.
-/

import ProviiSdk.Ffi.State
import ProviiSdk.Lib.Run

namespace ProviiSdk.Ffi

open ProviiSdk.Run

/-! ## §1. The ledger -/

/-- The cells, with the reasons of the failures since the last start,
    successful completion or reset, the latest one last. -/
structure Ledger where
  manager : StateManager
  failures : List String

/-- The reason with which a call moves the status into a failure. -/
def failureReason (m : StateManager) : ManagerOp → Option String
  | .update _ (.failed reason) => some reason
  | .complete _ false => some m.completionReason
  | _ => none

/-- Does a call start the count again? -/
def ManagerOp.clearsFailures : ManagerOp → Bool
  | .start _ => true
  | .complete _ true => true
  | .reset => true
  | _ => false

/-- The cells and the ledger after a call. -/
def ledgerStep (s : Ledger) (op : ManagerOp) : Ledger :=
  { manager := managerStep s.manager op
    failures :=
      if op.clearsFailures then [] else s.failures ++ (failureReason s.manager op).toList }

/-- A new session, nothing failed. -/
def newLedger : Ledger := { manager := .new, failures := [] }

/-- **The books are kept**: the counter is the number of failures, up to
    the greatest `u32`, the last error is the latest reason, and a failed
    status shows the last error. -/
structure Booked (s : Ledger) : Prop where
  count : s.manager.failedAttempts.toNat =
    min s.failures.length StateManager.maxAttempts.toNat
  last : s.manager.lastError = s.failures.getLast?
  shown : ∀ reason, s.manager.verificationStatus = .failed reason →
    s.manager.lastError = some reason

/-- The condition on a call: an unsuccessful completion comes only when
    the counter can grow no further and its reason is already the last
    error. -/
def FailureShown (s : Ledger) : ManagerOp → Prop
  | .complete _ false =>
    s.manager.failedAttempts = StateManager.maxAttempts ∧
      s.manager.lastError = some s.manager.completionReason
  | _ => True

/-! ## §2. One call -/

theorem booked_new : Booked newLedger := by
  refine ⟨rfl, rfl, ?_⟩
  intro reason h
  cases h

/-- A call after which nothing has failed keeps the books. -/
private theorem booked_cleared (s : Ledger) (hfailures : s.failures = [])
    (hcount : s.manager.failedAttempts = 0) (hlast : s.manager.lastError = none)
    (hstatus : ∀ reason, s.manager.verificationStatus ≠ .failed reason) : Booked s := by
  refine ⟨?_, ?_, ?_⟩
  · rw [hcount, hfailures]
    rfl
  · rw [hlast, hfailures]
    rfl
  · intro reason h
    exact absurd h (hstatus reason)

/-- A call that changes the status only, and into no failure, keeps the
    books. -/
private theorem booked_status (s : Ledger) (hs : Booked s) (m : StateManager)
    (hcount : m.failedAttempts = s.manager.failedAttempts)
    (hlast : m.lastError = s.manager.lastError)
    (hstatus : ∀ reason, m.verificationStatus ≠ .failed reason) :
    Booked { manager := m, failures := s.failures ++ [] } := by
  refine ⟨?_, ?_, ?_⟩
  · show m.failedAttempts.toNat = _
    rw [List.append_nil, hcount]
    exact hs.count
  · show m.lastError = _
    rw [List.append_nil, hlast]
    exact hs.last
  · intro reason h
    exact absurd h (hstatus reason)

/-- A failure that is counted and recorded keeps the books. -/
private theorem booked_recorded (s : Ledger) (hs : Booked s) (m : StateManager) (reason : String)
    (hcount : m.failedAttempts = StateManager.satSucc s.manager.failedAttempts)
    (hlast : m.lastError = some reason) (hstatus : m.verificationStatus = .failed reason) :
    Booked { manager := m, failures := s.failures ++ [reason] } := by
  refine ⟨?_, ?_, ?_⟩
  · have hsucc := StateManager.satSucc_toNat s.manager.failedAttempts
    have hold := hs.count
    show m.failedAttempts.toNat = min (s.failures ++ [reason]).length _
    rw [hcount, hsucc, List.length_append, List.length_singleton]
    omega
  · show m.lastError = _
    rw [hlast, List.getLast?_append, List.getLast?_singleton]
    rfl
  · intro reason' h
    show m.lastError = _
    rw [hstatus] at h
    injection h with h
    rw [hlast, h]

/-- An unsuccessful completion keeps the books exactly when the cells
    show it already. -/
private theorem booked_complete_false_iff (s : Ledger) (hs : Booked s) (id : String) :
    Booked (ledgerStep s (.complete id false)) ↔ FailureShown s (.complete id false) := by
  have hcells : (managerStep s.manager (.complete id false)).failedAttempts =
      s.manager.failedAttempts := rfl
  have herror : (managerStep s.manager (.complete id false)).lastError = s.manager.lastError := rfl
  have hstatus : (managerStep s.manager (.complete id false)).verificationStatus =
      .failed s.manager.completionReason := rfl
  have hfailures : (ledgerStep s (.complete id false)).failures =
      s.failures ++ [s.manager.completionReason] := rfl
  constructor
  · intro h
    have hnew := h.count
    have hold := hs.count
    rw [hfailures, List.length_append, List.length_singleton] at hnew
    -- the counter did not move, so it was at its greatest value
    have hmax : s.manager.failedAttempts.toNat = StateManager.maxAttempts.toNat := by
      replace hnew : s.manager.failedAttempts.toNat = _ := hnew
      omega
    exact ⟨UInt32.toNat_inj.1 hmax, h.shown _ hstatus⟩
  · rintro ⟨hmax, hlast⟩
    refine booked_recorded s hs _ _ ?_ (herror.trans hlast) hstatus
    rw [hcells, hmax, StateManager.satSucc_max]

/-- **One call keeps the books exactly when** it is no unsuccessful
    completion that the cells do not show yet. -/
theorem booked_step_iff (s : Ledger) (op : ManagerOp) (hs : Booked s) :
    Booked (ledgerStep s op) ↔ FailureShown s op := by
  cases op with
  | start id =>
    refine iff_of_true (booked_cleared _ rfl rfl rfl ?_) trivial
    intro reason h
    cases h
  | update id status =>
    refine iff_of_true ?_ trivial
    cases status with
    | failed reason => exact booked_recorded s hs _ reason rfl rfl rfl
    | notStarted => exact booked_status s hs _ rfl rfl (by intro reason h; cases h)
    | challengeReceived => exact booked_status s hs _ rfl rfl (by intro reason h; cases h)
    | proofGenerated => exact booked_status s hs _ rfl rfl (by intro reason h; cases h)
    | submitting => exact booked_status s hs _ rfl rfl (by intro reason h; cases h)
    | verified => exact booked_status s hs _ rfl rfl (by intro reason h; cases h)
  | complete id success =>
    cases success with
    | false => exact booked_complete_false_iff s hs id
    | true =>
      refine iff_of_true (booked_cleared _ rfl rfl rfl ?_) trivial
      intro reason h
      cases h
  | cancel id =>
    refine iff_of_true ?_ trivial
    exact booked_status s hs _ rfl rfl (by intro reason h; cases h)
  | reset =>
    refine iff_of_true (booked_cleared _ rfl rfl rfl ?_) trivial
    intro reason h
    cases h

/-! ## §3. Whole runs -/

/-- **Failures are booked exactly when no unsuccessful completion goes
    unseen**: over any sequence of calls from a new session, the counter,
    the last error and the status agree with the failures so far in every
    state, exactly when every unsuccessful completion finds the counter
    at its greatest value and its own reason already recorded. -/
theorem failures_booked_iff (ops : List ManagerOp) :
    Always ledgerStep Booked newLedger ops ↔ StepsMeet ledgerStep FailureShown newLedger ops :=
  always_iff_stepsMeet (I := fun _ => True) (fun _ _ _ => trivial)
    (fun s op _ hs => booked_step_iff s op hs) ops trivial booked_new

/-- **A failure that is not counted**: after a start and an unsuccessful
    completion the status is a failure, one failure has happened, the
    counter is zero and there is no last error. -/
theorem failed_completion_unbooked :
    (run ledgerStep newLedger [.start "a", .complete "a" false]).manager =
      { verificationStatus := .failed "Verification failed after 1 attempts"
        activeVerifications := [], failedAttempts := 0, lastError := none } ∧
    (run ledgerStep newLedger [.start "a", .complete "a" false]).failures =
      ["Verification failed after 1 attempts"] ∧
    ¬ Always ledgerStep Booked newLedger [.start "a", .complete "a" false] := by
  refine ⟨by decide, by decide, ?_⟩
  intro h
  have hcount := h.last.count
  exact absurd hcount (by decide)

end ProviiSdk.Ffi
