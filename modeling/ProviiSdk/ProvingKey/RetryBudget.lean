/-
  ProviiSdk.ProvingKey.RetryBudget — five downloads a day.

  Every download attempt is recorded under its verifying key id, and a
  sixth within 24 hours is refused.  The record is trimmed only when it
  is looked at, with a clock reading of its own, and the reading that is
  recorded is taken later.

  Any number of downloads run at the same time, and the record may be
  asked and extended by other callers.  The machine below takes one
  atomic step of one of them at a time; the clock moves forward by an
  arbitrary amount at each reading.  An attempt may end in any way.

  Main results:
    * `recordAttempt_outcome` — the three ways a recording can end.
    * `retry_budget` — in every state of every run at most five attempts
      of a key lie in any window of 24 hours, no young attempt is
      forgotten, no attempt starts without its own recording, and no
      step touches another key's record.
-/

import Mathlib
import ProviiSdk.Lib.Run
import ProviiSdk.Lib.SlidingWindow
import ProviiSdk.ProvingKey.Manager

namespace ProviiSdk.ProvingKey

open ProviiSdk.Ffi ProviiSdk.Run ProviiSdk.SlidingWindow

/-! ## §1. The record of attempts

    A reading of the monotonic clock is a number of nanoseconds since
    the earliest instant the clock can represent. -/

/-- The number of attempts allowed in a window. -/
def maxRetriesPer24h : Nat := 5

/-- The window, in nanoseconds. -/
def retryWindow : Nat := 24 * 60 * 60 * 1000000000

/-- Rust's `Instant::checked_sub`: nothing if the result is earlier than
    the clock can represent. -/
def checkedSub (now d : Nat) : Option Nat := if d ≤ now then some (now - d) else none

/-- Drop the attempts that have left the window. -/
def trimStaleAttempts (now : Nat) (attempts : List Nat) : List Nat :=
  match checkedSub now retryWindow with
  | some cutoff => attempts.filter fun t => decide (t > cutoff)
  -- everything is young enough
  | none => attempts

/-- The attempts of each key id, oldest first. -/
abbrev RetryState := UInt32 → Option (List Nat)

/-- Record an attempt, unless the budget is used up.  The lock may be
    poisoned. -/
def recordAttempt (poisoned : Option String) (trimNow pushNow : Nat) (vkId : UInt32)
    (map : RetryState) : Except FfiError Nat × RetryState :=
  match poisoned with
  | some e => (.error (.generic ("Retry state lock poisoned: " ++ e)), map)
  | none =>
    let attempts := trimStaleAttempts trimNow ((map vkId).getD [])
    if attempts.length ≥ maxRetriesPer24h then
      let id := vkId.toNat
      (.error (.retryBudgetExceeded
          (s!"{maxRetriesPer24h} download attempts for vk_id {id} in the last 24 hours. " ++
            "No further retries permitted until the window expires.")),
        Function.update map vkId (some attempts))
    else
      let attempts := attempts ++ [pushNow]
      (.ok (attempts.length - 1), Function.update map vkId (some attempts))

/-- The number of attempts in the current window. -/
def attemptsConsumed (poisoned : Option String) (now : Nat) (vkId : UInt32)
    (map : RetryState) : Except FfiError Nat × RetryState :=
  match poisoned with
  | some e => (.error (.generic ("Retry state lock poisoned: " ++ e)), map)
  | none =>
    let attempts := trimStaleAttempts now ((map vkId).getD [])
    (.ok attempts.length, Function.update map vkId (some attempts))

/-- Rust's `1u64.checked_shl`. -/
def checkedShlOne (shift : Nat) : Option Nat := if shift < 64 then some (1 <<< shift) else none

/-- The delay before the next attempt, in milliseconds, from a random
    draw: below `min(2000 * 2^attempt, 60000)`. -/
def computeJitteredBackoff (random : UInt64) (attempt : Nat) : Nat :=
  let shift := min attempt 63
  let exponential := saturatingMul 2000 ((checkedShlOne shift).getD 18446744073709551615)
  let cappedMs := min exponential 60000
  if cappedMs = 0 then 0 else random.toNat % cappedMs

/-! ## §2. Downloads step by step -/

/-- How far a download has come. -/
inductive Stage where
  | preflight
  | gate
  -- the attempt is recorded and about to start
  | granted (attemptIdx : Nat)
  | attempting (attemptIdx : Nat)
  | failed (attemptIdx : Nat) (attemptErr : FfiError)
  | backingOff (delayMs : Nat)
  | finished (result : Except FfiError Unit)

/-- What a step of a download meets: the lock, the clock, the files, the
    way its attempt ends and a random draw. -/
structure StepEnv where
  poisoned : Option String
  trimWait : Nat
  pushWait : Nat
  freeSpace : Except String Nat
  createDir : Option String
  finalFileValid : Bool
  outcome : Except FfiError Unit
  random : UInt64

/-- The space a download needs. -/
def minFreeSpace : Nat := 65000000

/-- The checks before the first attempt; a result ends the download. -/
def preflight (env : StepEnv) : Option (Except FfiError Unit) :=
  match env.freeSpace with
  | .error e => some (.error (.storage ("Failed to get free space: " ++ e)))
  | .ok freeSpace =>
    if freeSpace < minFreeSpace then
      let requiredMb := minFreeSpace / 1000000
      let availableMb := freeSpace / 1000000
      some (.error (.storage
        s!"Not enough storage. Need {requiredMb} MB but only {availableMb} MB available."))
    else
      match env.createDir with
      | some e => some (.error (.storage ("Failed to create directory: " ++ e)))
      | none => if env.finalFileValid then some (.ok ()) else none

/-- What has happened: an attempt was recorded, by a download or by
    another caller, or a download started one. -/
inductive Event (ι : Type) where
  | recorded (who : Option ι) (vkId : UInt32) (time : Nat)
  | started (who : ι) (vkId : UInt32)

/-- The shared record, the downloads, and what has happened so far. -/
structure RetrySystem (ι : Type) where
  clock : Nat
  map : RetryState
  stage : ι → Stage
  trace : List (Event ι)

variable {ι : Type}

/-- A call of `record_attempt`, with its two clock readings. -/
def RetrySystem.record (s : RetrySystem ι) (who : Option ι) (poisoned : Option String)
    (trimWait pushWait : Nat) (vkId : UInt32) : Except FfiError Nat × RetrySystem ι :=
  let trimNow := s.clock + trimWait
  let pushNow := trimNow + pushWait
  let r := recordAttempt poisoned trimNow pushNow vkId s.map
  (r.1,
    { s with
      clock := pushNow
      map := r.2
      trace := match r.1 with
        | .ok _ => s.trace ++ [.recorded who vkId pushNow]
        | .error _ => s.trace })

/-- A call of `attempts_consumed`. -/
def RetrySystem.consumed (s : RetrySystem ι) (poisoned : Option String) (wait : Nat)
    (vkId : UInt32) : Except FfiError Nat × RetrySystem ι :=
  let now := s.clock + wait
  let r := attemptsConsumed poisoned now vkId s.map
  (r.1, { s with clock := now, map := r.2 })

section Step

variable [DecidableEq ι]

def RetrySystem.setStage (s : RetrySystem ι) (who : ι) (stage : Stage) : RetrySystem ι :=
  { s with stage := Function.update s.stage who stage }

@[simp] theorem setStage_stage (s : RetrySystem ι) (who : ι) (stage : Stage) :
    (s.setStage who stage).stage = Function.update s.stage who stage := rfl

@[simp] theorem setStage_trace (s : RetrySystem ι) (who : ι) (stage : Stage) :
    (s.setStage who stage).trace = s.trace := rfl

/-- What a failed attempt leads to. -/
def afterFailure (vkId : UInt32) (attemptIdx : Nat) (attemptErr : FfiError) (random : UInt64) :
    Except FfiError Nat → Stage
  | .error e => .finished (.error e)
  | .ok consumed =>
    if consumed ≥ maxRetriesPer24h then
      let id := vkId.toNat
      .finished (.error (.retryBudgetExceeded
        (s!"All {maxRetriesPer24h} download attempts exhausted for vk_id {id} within the " ++
          "last 24 hours. Last failure: " ++ attemptErr.display)))
    else .backingOff (computeJitteredBackoff random attemptIdx)

/-- The next step of a download of the key `vkId`. -/
def RetrySystem.advance (s : RetrySystem ι) (vkId : UInt32) (who : ι) (env : StepEnv) :
    RetrySystem ι :=
  match s.stage who with
  | .preflight =>
    match preflight env with
    | some result => s.setStage who (.finished result)
    | none => s.setStage who .gate
  | .gate =>
    match s.record (some who) env.poisoned env.trimWait env.pushWait vkId with
    | (.error e, s) => s.setStage who (.finished (.error e))
    | (.ok attemptIdx, s) => s.setStage who (.granted attemptIdx)
  | .granted attemptIdx =>
    RetrySystem.setStage { s with trace := s.trace ++ [.started who vkId] } who
      (.attempting attemptIdx)
  | .attempting attemptIdx =>
    match env.outcome with
    | .ok () => s.setStage who (.finished (.ok ()))
    | .error e => s.setStage who (.failed attemptIdx e)
  | .failed attemptIdx attemptErr =>
    match s.consumed env.poisoned env.trimWait vkId with
    | (r, s) => s.setStage who (afterFailure vkId attemptIdx attemptErr env.random r)
  | .backingOff _ => s.setStage who .gate
  | .finished _ => s

/-- One atomic step: a call on the record by anybody, or the next step
    of a download. -/
inductive RetryOp (ι : Type) where
  | recordAttempt (poisoned : Option String) (trimWait pushWait : Nat) (vkId : UInt32)
  | attemptsConsumed (poisoned : Option String) (wait : Nat) (vkId : UInt32)
  | advance (who : ι) (env : StepEnv)

/-- The system after a step; `vkOf` is the key each download is for. -/
def retryStep (vkOf : ι → UInt32) (s : RetrySystem ι) : RetryOp ι → RetrySystem ι
  | .recordAttempt poisoned trimWait pushWait vkId =>
    (s.record none poisoned trimWait pushWait vkId).2
  | .attemptsConsumed poisoned wait vkId => (s.consumed poisoned wait vkId).2
  | .advance who env => s.advance (vkOf who) who env

end Step

/-- A process that has just started. -/
def freshRetries (clock : Nat) : RetrySystem ι :=
  { clock, map := fun _ => none, stage := fun _ => .preflight, trace := [] }

/-! ## §3. What a call does to the record -/

/-- Trimming drops exactly the attempts of age 24 hours or more, also
    when the cutoff cannot be represented. -/
theorem trimStaleAttempts_eq (now : Nat) (attempts : List Nat) :
    trimStaleAttempts now attempts = trim retryWindow now attempts := by
  unfold trimStaleAttempts checkedSub trim young
  by_cases h : retryWindow ≤ now
  · rw [if_pos h]
    simp only
    apply List.filter_congr
    intro t _
    rw [decide_eq_decide]
    omega
  · rw [if_neg h]
    symm
    rw [List.filter_eq_self]
    intro t _
    rw [decide_eq_true_eq]
    omega

/-- **The three ways a recording can end**: the lock is poisoned, the
    budget is used up, or the attempt is added. -/
theorem recordAttempt_outcome (poisoned : Option String) (trimNow pushNow : Nat)
    (vkId : UInt32) (map : RetryState) :
    (∃ e, recordAttempt poisoned trimNow pushNow vkId map = (.error e, map)) ∨
    (∃ e, recordAttempt poisoned trimNow pushNow vkId map =
      (.error e,
        Function.update map vkId (some (trim retryWindow trimNow ((map vkId).getD []))))) ∨
    ((trim retryWindow trimNow ((map vkId).getD [])).length < maxRetriesPer24h ∧
      recordAttempt poisoned trimNow pushNow vkId map =
        (.ok (trim retryWindow trimNow ((map vkId).getD [])).length,
          Function.update map vkId
            (some (trim retryWindow trimNow ((map vkId).getD []) ++ [pushNow])))) := by
  unfold recordAttempt
  cases poisoned with
  | some e => exact Or.inl ⟨_, rfl⟩
  | none =>
    simp only [trimStaleAttempts_eq]
    by_cases hfull : (trim retryWindow trimNow ((map vkId).getD [])).length ≥ maxRetriesPer24h
    · rw [if_pos hfull]
      exact Or.inr (Or.inl ⟨_, rfl⟩)
    · rw [if_neg hfull]
      refine Or.inr (Or.inr ⟨by omega, ?_⟩)
      rw [List.length_append, List.length_singleton, Nat.add_sub_cancel]

/-- The two ways a query can end. -/
theorem attemptsConsumed_outcome (poisoned : Option String) (now : Nat) (vkId : UInt32)
    (map : RetryState) :
    (∃ e, attemptsConsumed poisoned now vkId map = (.error e, map)) ∨
    attemptsConsumed poisoned now vkId map =
      (.ok (trim retryWindow now ((map vkId).getD [])).length,
        Function.update map vkId (some (trim retryWindow now ((map vkId).getD [])))) := by
  unfold attemptsConsumed
  cases poisoned with
  | some e => exact Or.inl ⟨_, rfl⟩
  | none =>
    rw [trimStaleAttempts_eq]
    exact Or.inr rfl

/-! ## §4. What a step of a download does -/

section Advance

variable [DecidableEq ι]

/-- Is a recording of the download waiting for its start? -/
def Stage.isGranted : Stage → Bool
  | .granted _ => true
  | _ => false

/-- The ways a download can take its next step. -/
inductive AdvanceOutcome (s : RetrySystem ι) (vkId : UInt32) (who : ι) (env : StepEnv) :
    RetrySystem ι → Prop where
  | moved (stage : Stage) (hbefore : (s.stage who).isGranted = false)
    (hafter : stage.isGranted = false) :
    AdvanceOutcome s vkId who env (s.setStage who stage)
  | refused (e : FfiError) (hgate : s.stage who = .gate)
    (hrec : (s.record (some who) env.poisoned env.trimWait env.pushWait vkId).1 = .error e) :
    AdvanceOutcome s vkId who env
      ((s.record (some who) env.poisoned env.trimWait env.pushWait vkId).2.setStage who
        (.finished (.error e)))
  | recorded (n : Nat) (hgate : s.stage who = .gate)
    (hrec : (s.record (some who) env.poisoned env.trimWait env.pushWait vkId).1 = .ok n) :
    AdvanceOutcome s vkId who env
      ((s.record (some who) env.poisoned env.trimWait env.pushWait vkId).2.setStage who
        (.granted n))
  | started (n : Nat) (hgranted : s.stage who = .granted n) :
    AdvanceOutcome s vkId who env
      (RetrySystem.setStage { s with trace := s.trace ++ [.started who vkId] } who (.attempting n))
  | queried (stage : Stage) (hbefore : (s.stage who).isGranted = false)
    (hafter : stage.isGranted = false) :
    AdvanceOutcome s vkId who env
      ((s.consumed env.poisoned env.trimWait vkId).2.setStage who stage)

/-- A failed attempt leads to no unused recording. -/
theorem afterFailure_isGranted (vkId : UInt32) (attemptIdx : Nat) (attemptErr : FfiError)
    (random : UInt64) (r : Except FfiError Nat) :
    (afterFailure vkId attemptIdx attemptErr random r).isGranted = false := by
  unfold afterFailure
  split
  · rfl
  · split <;> rfl

/-- **Every step of a download is one of these.** -/
theorem advance_outcome (s : RetrySystem ι) (vkId : UInt32) (who : ι) (env : StepEnv) :
    AdvanceOutcome s vkId who env (s.advance vkId who env) := by
  unfold RetrySystem.advance
  cases hst : s.stage who with
  | preflight =>
    have hbefore : (s.stage who).isGranted = false := by rw [hst]; rfl
    simp only
    split
    · exact .moved _ hbefore rfl
    · exact .moved _ hbefore rfl
  | gate =>
    have hrefused := @AdvanceOutcome.refused ι _ s vkId who env
    have hrecorded := @AdvanceOutcome.recorded ι _ s vkId who env
    simp only
    generalize s.record (some who) env.poisoned env.trimWait env.pushWait vkId = r
      at hrefused hrecorded ⊢
    obtain ⟨res, s'⟩ := r
    cases res with
    | error e => exact hrefused e hst rfl
    | ok n => exact hrecorded n hst rfl
  | granted n => exact .started n hst
  | attempting n =>
    have hbefore : (s.stage who).isGranted = false := by rw [hst]; rfl
    simp only
    split
    · exact .moved _ hbefore rfl
    · exact .moved _ hbefore rfl
  | failed n e =>
    have hbefore : (s.stage who).isGranted = false := by rw [hst]; rfl
    exact .queried _ hbefore (afterFailure_isGranted vkId n e env.random _)
  | backingOff delay =>
    exact .moved _ (by rw [hst]; rfl) rfl
  | finished result =>
    have hsame : s = s.setStage who (.finished result) := by
      unfold RetrySystem.setStage
      rw [← hst, Function.update_eq_self]
    have hmoved : AdvanceOutcome s vkId who env (s.setStage who (.finished result)) :=
      .moved _ (by rw [hst]; rfl) rfl
    rw [← hsame] at hmoved
    exact hmoved

end Advance

/-! ## §5. The budget -/

/-- The times at which attempts of a key were recorded. -/
def history (vkId : UInt32) (trace : List (Event ι)) : List Nat :=
  trace.filterMap fun
    | .recorded _ v time => if v = vkId then some time else none
    | .started _ _ => none

theorem history_append (vkId : UInt32) (trace more : List (Event ι)) :
    history vkId (trace ++ more) = history vkId trace ++ history vkId more :=
  List.filterMap_append

theorem history_recorded (vkId v : UInt32) (who : Option ι) (time : Nat) :
    history vkId [.recorded who v time] = if v = vkId then [time] else [] := by
  by_cases h : v = vkId
  · simp [history, h]
  · simp [history, h]

theorem history_started (vkId v : UInt32) (who : ι) : history vkId [.started who v] = [] := rfl

/-- The record of a key holds its young attempts, and no window holds
    more than five. -/
def WithinBudget (clock : Nat) (map : RetryState) (trace : List (Event ι)) : Prop :=
  ∀ vkId, KeepsYoung retryWindow clock ((map vkId).getD []) (history vkId trace) ∧
    AtMost maxRetriesPer24h retryWindow (history vkId trace)

/-- Waiting keeps the record good. -/
theorem WithinBudget.later {clock now : Nat} {map : RetryState} {trace : List (Event ι)}
    (h : WithinBudget clock map trace) (hle : clock ≤ now) : WithinBudget now map trace :=
  fun vkId => ⟨(h vkId).1.later hle, (h vkId).2⟩

/-- Replacing the record of one key by one that holds its young
    attempts keeps all records good. -/
theorem WithinBudget.update {clock : Nat} {map : RetryState} {trace : List (Event ι)}
    (h : WithinBudget clock map trace) (vkId : UInt32) (kept : List Nat)
    (hkept : KeepsYoung retryWindow clock kept (history vkId trace)) :
    WithinBudget clock (Function.update map vkId (some kept)) trace := by
  intro v
  by_cases hv : v = vkId
  · subst hv
    rw [Function.update_self]
    exact ⟨hkept, (h v).2⟩
  · rw [Function.update_of_ne hv]
    exact h v

/-- **A recording keeps the budget.** -/
theorem withinBudget_record (s : RetrySystem ι) (who : Option ι) (poisoned : Option String)
    (trimWait pushWait : Nat) (vkId : UInt32) (hs : WithinBudget s.clock s.map s.trace) :
    WithinBudget (s.record who poisoned trimWait pushWait vkId).2.clock
      (s.record who poisoned trimWait pushWait vkId).2.map
      (s.record who poisoned trimWait pushWait vkId).2.trace := by
  -- the state of the record when it is trimmed
  have htrim : WithinBudget (s.clock + trimWait) s.map s.trace := hs.later (Nat.le_add_right _ _)
  have hkept := (htrim vkId).1.trim
  have hpush : s.clock + trimWait ≤ s.clock + trimWait + pushWait := Nat.le_add_right _ _
  simp only [RetrySystem.record]
  rcases recordAttempt_outcome poisoned (s.clock + trimWait) (s.clock + trimWait + pushWait) vkId
      s.map with ⟨e, heq⟩ | ⟨e, heq⟩ | ⟨hroom, heq⟩
  · rw [heq]
    exact htrim.later hpush
  · rw [heq]
    exact (htrim.update vkId _ hkept).later hpush
  · rw [heq]
    simp only
    intro v
    rw [history_append, history_recorded]
    by_cases hv : v = vkId
    · subst hv
      rw [if_pos rfl, Function.update_self, Option.getD_some]
      refine ⟨(hkept.push _).later hpush, ?_⟩
      exact atMost_push (htrim v).2 (htrim v).1 hroom hpush
    · rw [if_neg (Ne.symm hv), List.append_nil, Function.update_of_ne hv]
      exact htrim.later hpush v

/-- A query keeps the budget. -/
theorem withinBudget_consumed (s : RetrySystem ι) (poisoned : Option String) (wait : Nat)
    (vkId : UInt32) (hs : WithinBudget s.clock s.map s.trace) :
    WithinBudget (s.consumed poisoned wait vkId).2.clock (s.consumed poisoned wait vkId).2.map
      (s.consumed poisoned wait vkId).2.trace := by
  have hlater : WithinBudget (s.clock + wait) s.map s.trace := hs.later (Nat.le_add_right _ _)
  simp only [RetrySystem.consumed]
  rcases attemptsConsumed_outcome poisoned (s.clock + wait) vkId s.map with ⟨e, heq⟩ | heq
  · rw [heq]
    exact hlater
  · rw [heq]
    exact hlater.update vkId _ (hlater vkId).1.trim

/-! ## §6. Starts and recordings -/

/-- What a recording adds to the trace: one event if it succeeds. -/
theorem record_trace (s : RetrySystem ι) (who : Option ι) (poisoned : Option String)
    (trimWait pushWait : Nat) (vkId : UInt32) :
    (s.record who poisoned trimWait pushWait vkId).2.stage = s.stage ∧
      ((∃ n time, (s.record who poisoned trimWait pushWait vkId).1 = .ok n ∧
        (s.record who poisoned trimWait pushWait vkId).2.trace =
          s.trace ++ [.recorded who vkId time]) ∨
      ∃ e, (s.record who poisoned trimWait pushWait vkId).1 = .error e ∧
        (s.record who poisoned trimWait pushWait vkId).2.trace = s.trace) := by
  simp only [RetrySystem.record]
  cases (recordAttempt poisoned (s.clock + trimWait) (s.clock + trimWait + pushWait) vkId
      s.map).1 with
  | error e => exact ⟨trivial, Or.inr ⟨e, rfl, rfl⟩⟩
  | ok n => exact ⟨trivial, Or.inl ⟨n, _, rfl, rfl⟩⟩

/-- The recordings of a download that it has not used yet. -/
def pending (vkOf : ι → UInt32) (stage : ι → Stage) (who : ι) (vkId : UInt32) : Nat :=
  if (stage who).isGranted = true ∧ vkId = vkOf who then 1 else 0

section Paid

variable [DecidableEq ι]

/-- The event is a recording by the download `who` of the key `vkId`. -/
def Event.isGrant (who : ι) (vkId : UInt32) : Event ι → Bool
  | .recorded w v _ => decide (w = some who ∧ v = vkId)
  | .started _ _ => false

/-- The event is a start by the download `who` for the key `vkId`. -/
def Event.isStart (who : ι) (vkId : UInt32) : Event ι → Bool
  | .recorded _ _ _ => false
  | .started w v => decide (w = who ∧ v = vkId)

/-- The number of times the download has started an attempt, and the
    number of times it has recorded one. -/
def starts (trace : List (Event ι)) (who : ι) (vkId : UInt32) : Nat :=
  trace.countP (Event.isStart who vkId)

def grants (trace : List (Event ι)) (who : ι) (vkId : UInt32) : Nat :=
  trace.countP (Event.isGrant who vkId)

/-- Every start has used one recording of the same download and key. -/
def StartsPaid (vkOf : ι → UInt32) (stage : ι → Stage) (trace : List (Event ι)) : Prop :=
  ∀ who vkId, starts trace who vkId + pending vkOf stage who vkId = grants trace who vkId

theorem starts_append (trace more : List (Event ι)) (who : ι) (vkId : UInt32) :
    starts (trace ++ more) who vkId = starts trace who vkId + starts more who vkId :=
  List.countP_append

theorem grants_append (trace more : List (Event ι)) (who : ι) (vkId : UInt32) :
    grants (trace ++ more) who vkId = grants trace who vkId + grants more who vkId :=
  List.countP_append

theorem grants_recorded (w : Option ι) (v : UInt32) (time : Nat) (who : ι) (vkId : UInt32) :
    grants [.recorded w v time] who vkId = if w = some who ∧ v = vkId then 1 else 0 := by
  unfold grants
  rw [List.countP_singleton]
  simp only [Event.isGrant, decide_eq_true_eq]

theorem starts_recorded (w : Option ι) (v : UInt32) (time : Nat) (who : ι) (vkId : UInt32) :
    starts [.recorded w v time] who vkId = 0 := rfl

theorem grants_started (w : ι) (v : UInt32) (who : ι) (vkId : UInt32) :
    grants [.started w v] who vkId = 0 := rfl

theorem starts_started (w : ι) (v : UInt32) (who : ι) (vkId : UInt32) :
    starts [.started w v] who vkId = if w = who ∧ v = vkId then 1 else 0 := by
  unfold starts
  rw [List.countP_singleton]
  simp only [Event.isStart, decide_eq_true_eq]

/-- What a download has left to use after its stage changes. -/
theorem pending_update (vkOf : ι → UInt32) (stage : ι → Stage) (who : ι) (new : Stage) (j : ι)
    (vkId : UInt32) :
    pending vkOf (Function.update stage who new) j vkId =
      if j = who then if new.isGranted = true ∧ vkId = vkOf who then 1 else 0
      else pending vkOf stage j vkId := by
  unfold pending
  by_cases hj : j = who
  · subst hj
    rw [Function.update_self, if_pos rfl]
  · rw [Function.update_of_ne hj, if_neg hj]

/-- A stage change that neither grants nor uses a recording. -/
private theorem StartsPaid.moved {vkOf : ι → UInt32} {stage : ι → Stage} {trace : List (Event ι)}
    (h : StartsPaid vkOf stage trace) {who : ι} {new : Stage}
    (hbefore : (stage who).isGranted = false) (hafter : new.isGranted = false) :
    StartsPaid vkOf (Function.update stage who new) trace := by
  intro j vkId
  rw [pending_update]
  have hj := h j vkId
  by_cases hwho : j = who
  · subst hwho
    unfold pending at hj
    rw [hbefore] at hj
    rw [if_pos rfl, hafter]
    simpa using hj
  · rw [if_neg hwho]
    exact hj

/-- A recording by somebody else, or a refused one. -/
private theorem StartsPaid.recordedOther {vkOf : ι → UInt32} {stage : ι → Stage}
    {trace : List (Event ι)} (h : StartsPaid vkOf stage trace) (v : UInt32) (time : Nat) :
    StartsPaid vkOf stage (trace ++ [.recorded none v time]) := by
  intro j vkId
  rw [starts_append, grants_append, starts_recorded, grants_recorded, if_neg (by simp)]
  exact h j vkId

/-- **A step keeps starts and recordings paired.** -/
theorem startsPaid_step (vkOf : ι → UInt32) (s : RetrySystem ι) (op : RetryOp ι)
    (hs : StartsPaid vkOf s.stage s.trace) :
    StartsPaid vkOf (retryStep vkOf s op).stage (retryStep vkOf s op).trace := by
  cases op with
  | recordAttempt poisoned trimWait pushWait vkId =>
    show StartsPaid vkOf (s.record none poisoned trimWait pushWait vkId).2.stage
      (s.record none poisoned trimWait pushWait vkId).2.trace
    obtain ⟨hstage, ⟨n, time, _, htrace⟩ | ⟨e, _, htrace⟩⟩ :=
      record_trace s none poisoned trimWait pushWait vkId
    · rw [hstage, htrace]
      exact hs.recordedOther vkId time
    · rw [hstage, htrace]
      exact hs
  | attemptsConsumed poisoned wait vkId => exact hs
  | advance who env =>
    show StartsPaid vkOf (s.advance (vkOf who) who env).stage (s.advance (vkOf who) who env).trace
    have hout := advance_outcome s (vkOf who) who env
    generalize s.advance (vkOf who) who env = s' at hout ⊢
    cases hout with
    | moved stage hbefore hafter => exact hs.moved hbefore hafter
    | queried stage hbefore hafter => exact hs.moved hbefore hafter
    | refused e hgate hrec =>
      obtain ⟨hstage, ⟨n, time, hok, _⟩ | ⟨e', _, htrace⟩⟩ :=
        record_trace s (some who) env.poisoned env.trimWait env.pushWait (vkOf who)
      · rw [hrec] at hok
        cases hok
      · rw [setStage_stage, setStage_trace, hstage, htrace]
        exact hs.moved (by rw [hgate]; rfl) rfl
    | recorded n hgate hrec =>
      obtain ⟨hstage, ⟨n', time, _, htrace⟩ | ⟨e, herr, _⟩⟩ :=
        record_trace s (some who) env.poisoned env.trimWait env.pushWait (vkOf who)
      · rw [setStage_stage, setStage_trace, hstage, htrace]
        intro j vkId
        have hj := hs j vkId
        rw [starts_append, grants_append, starts_recorded, grants_recorded, pending_update]
        by_cases hwho : j = who
        · -- one more recording, and it is the one that is pending now
          subst hwho
          unfold pending at hj
          rw [hgate] at hj
          simp only [Stage.isGranted, Bool.false_eq_true, false_and, if_false] at hj
          simp only [Stage.isGranted, if_true, true_and, eq_comm (a := vkId)]
          omega
        · rw [if_neg hwho, if_neg (by simp [Ne.symm hwho])]
          exact hj
      · rw [hrec] at herr
        cases herr
    | started n hgranted =>
      show StartsPaid vkOf (Function.update s.stage who _) (s.trace ++ [.started who (vkOf who)])
      intro j vkId
      have hj := hs j vkId
      rw [starts_append, grants_append, starts_started, grants_started, pending_update]
      by_cases hwho : j = who
      · -- the pending recording is used up by this start
        subst hwho
        unfold pending at hj
        rw [hgranted] at hj
        simp only [Stage.isGranted, true_and] at hj
        simp only [Stage.isGranted, Bool.false_eq_true, false_and, if_false, if_true, true_and,
          eq_comm (a := vkOf j)]
        omega
      · rw [if_neg hwho, if_neg (fun h => hwho h.1.symm)]
        exact hj

end Paid

/-! ## §7. Whole runs -/

/-- A recording touches the record and the history of its key only. -/
theorem record_frame (s : RetrySystem ι) (who : Option ι) (poisoned : Option String)
    (trimWait pushWait : Nat) (vkId v : UInt32) (hv : v ≠ vkId) :
    (s.record who poisoned trimWait pushWait vkId).2.map v = s.map v ∧
      history v (s.record who poisoned trimWait pushWait vkId).2.trace = history v s.trace := by
  simp only [RetrySystem.record]
  rcases recordAttempt_outcome poisoned (s.clock + trimWait) (s.clock + trimWait + pushWait) vkId
      s.map with ⟨e, heq⟩ | ⟨e, heq⟩ | ⟨_, heq⟩
  · rw [heq]
    exact ⟨rfl, rfl⟩
  · rw [heq]
    exact ⟨Function.update_of_ne hv _ _, rfl⟩
  · rw [heq]
    refine ⟨Function.update_of_ne hv _ _, ?_⟩
    simp only
    rw [history_append, history_recorded, if_neg (Ne.symm hv), List.append_nil]

theorem consumed_frame (s : RetrySystem ι) (poisoned : Option String) (wait : Nat)
    (vkId v : UInt32) (hv : v ≠ vkId) : (s.consumed poisoned wait vkId).2.map v = s.map v := by
  simp only [RetrySystem.consumed]
  rcases attemptsConsumed_outcome poisoned (s.clock + wait) vkId s.map with ⟨e, heq⟩ | heq
  · rw [heq]
  · rw [heq]
    exact Function.update_of_ne hv _ _

section Runs

variable [DecidableEq ι]

/-- The key a step is about. -/
def RetryOp.vkId (vkOf : ι → UInt32) : RetryOp ι → UInt32
  | .recordAttempt _ _ _ vkId => vkId
  | .attemptsConsumed _ _ vkId => vkId
  | .advance who _ => vkOf who

/-- **A step leaves every other key's record and history alone.** -/
theorem retryStep_frame (vkOf : ι → UInt32) (s : RetrySystem ι) (op : RetryOp ι) (v : UInt32)
    (hv : v ≠ op.vkId vkOf) :
    (retryStep vkOf s op).map v = s.map v ∧
      history v (retryStep vkOf s op).trace = history v s.trace := by
  cases op with
  | recordAttempt poisoned trimWait pushWait vkId =>
    exact record_frame s none poisoned trimWait pushWait vkId v hv
  | attemptsConsumed poisoned wait vkId => exact ⟨consumed_frame s poisoned wait vkId v hv, rfl⟩
  | advance who env =>
    show (s.advance (vkOf who) who env).map v = s.map v ∧
      history v (s.advance (vkOf who) who env).trace = history v s.trace
    have hout := advance_outcome s (vkOf who) who env
    generalize s.advance (vkOf who) who env = s' at hout ⊢
    cases hout with
    | moved stage hbefore hafter => exact ⟨rfl, rfl⟩
    | refused e hgate hrec =>
      exact record_frame s (some who) env.poisoned env.trimWait env.pushWait _ v hv
    | recorded n hgate hrec =>
      exact record_frame s (some who) env.poisoned env.trimWait env.pushWait _ v hv
    | started n hgranted =>
      refine ⟨rfl, ?_⟩
      rw [setStage_trace, history_append, history_started, List.append_nil]
    | queried stage hbefore hafter =>
      exact ⟨consumed_frame s env.poisoned env.trimWait (vkOf who) v hv, rfl⟩

/-- What holds in every state: the budget of every key, and a recording
    for every start. -/
structure RetryInv (vkOf : ι → UInt32) (s : RetrySystem ι) : Prop where
  budget : WithinBudget s.clock s.map s.trace
  paid : StartsPaid vkOf s.stage s.trace

theorem retryInv_fresh (vkOf : ι → UInt32) (clock : Nat) : RetryInv vkOf (freshRetries clock) := by
  refine ⟨fun vkId => ⟨keepsYoung_refl _ _ _, atMost_nil _ _⟩, fun who vkId => ?_⟩
  show 0 + pending vkOf (fun _ => Stage.preflight) who vkId = 0
  unfold pending
  rw [if_neg (fun h => Bool.false_ne_true h.1)]

/-- **A step keeps the invariant.** -/
theorem retryInv_step (vkOf : ι → UInt32) (s : RetrySystem ι) (op : RetryOp ι)
    (hs : RetryInv vkOf s) : RetryInv vkOf (retryStep vkOf s op) := by
  refine ⟨?_, startsPaid_step vkOf s op hs.paid⟩
  cases op with
  | recordAttempt poisoned trimWait pushWait vkId =>
    exact withinBudget_record s none poisoned trimWait pushWait vkId hs.budget
  | attemptsConsumed poisoned wait vkId =>
    exact withinBudget_consumed s poisoned wait vkId hs.budget
  | advance who env =>
    show WithinBudget (s.advance (vkOf who) who env).clock (s.advance (vkOf who) who env).map
      (s.advance (vkOf who) who env).trace
    have hout := advance_outcome s (vkOf who) who env
    generalize s.advance (vkOf who) who env = s' at hout ⊢
    cases hout with
    | moved stage hbefore hafter => exact hs.budget
    | refused e hgate hrec => exact withinBudget_record s _ _ _ _ _ hs.budget
    | recorded n hgate hrec => exact withinBudget_record s _ _ _ _ _ hs.budget
    | started n hgranted =>
      intro v
      rw [setStage_trace, history_append, history_started, List.append_nil]
      exact hs.budget v
    | queried stage hbefore hafter => exact withinBudget_consumed s _ _ _ hs.budget

/-- What the budget promises of a state: no window of 24 hours has more
    than five attempts of a key, the attempts younger than 24 hours are
    all in the record, and a download has not started more attempts of
    a key than it has recorded. -/
structure BudgetKept (s : RetrySystem ι) : Prop where
  window : ∀ vkId, AtMost maxRetriesPer24h retryWindow (history vkId s.trace)
  remembered : ∀ vkId,
    KeepsYoung retryWindow s.clock ((s.map vkId).getD []) (history vkId s.trace)
  recordedFirst : ∀ who vkId, starts s.trace who vkId ≤ grants s.trace who vkId

theorem RetryInv.budgetKept {vkOf : ι → UInt32} {s : RetrySystem ι} (h : RetryInv vkOf s) :
    BudgetKept s := by
  refine ⟨fun vkId => (h.budget vkId).2, fun vkId => (h.budget vkId).1, ?_⟩
  intro who vkId
  have hpaid := h.paid who vkId
  omega

/-- **The retry budget**: whatever downloads and other callers do, in
    whatever order, with whatever clock, the budget is kept in every
    state, and a step touches the record and history of its own key
    only. -/
theorem retry_budget (vkOf : ι → UInt32) (clock : Nat) (ops : List (RetryOp ι)) :
    Always (retryStep vkOf) BudgetKept (freshRetries clock) ops ∧
      ∀ (s : RetrySystem ι) (op : RetryOp ι) (v : UInt32), v ≠ op.vkId vkOf →
        (retryStep vkOf s op).map v = s.map v ∧
          history v (retryStep vkOf s op).trace = history v s.trace := by
  refine ⟨?_, fun s op v hv => retryStep_frame vkOf s op v hv⟩
  have hinv : Always (retryStep vkOf) (RetryInv vkOf) (freshRetries clock) ops :=
    always_of_invariant (fun s op hs => retryInv_step vkOf s op hs) ops (retryInv_fresh vkOf clock)
  exact hinv.imp fun s hs => hs.budgetKept

end Runs

end ProviiSdk.ProvingKey
