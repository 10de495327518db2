/-
  ProviiSdk.Ffi.Progress — the tracker of a long operation.

  A tracker records the stages an operation goes through and tells every
  registered listener of each one.  A listener is foreign code, and may
  panic; the tracker catches the panic and goes on.

  Main results:
    * `notify_calls` — a report reaches every listener, whichever panic.
    * `consistent_run` — the history, the current stage and the clock, over
      a run.
    * `reported_eq` — what a call tells is the update of its report.
    * `progress_reporting` — both, and what each listener receives.
-/

import Mathlib.Data.List.DropRight
import ProviiSdk.Lib.Fanout

namespace ProviiSdk.Ffi.Progress

open ProviiSdk.Fanout

/-! ## §1. Stages and updates -/

inductive ProgressStage where
  | started
  | issuanceRequestCreated
  | issuanceWaitingForOfficer
  | issuanceDocumentVerified
  | issuanceCompleted
  | verificationChallengeReceived
  | verificationProofGenerated
  | verificationSubmitting
  | verificationCompleted
  | failed
  | cancelled
  deriving DecidableEq

structure ProgressUpdate where
  stage : ProgressStage
  message : String
  progressPercent : Option UInt8
  estimatedTimeRemainingSecs : Option UInt32
  timestamp : UInt64
  deriving DecidableEq

def calculateProgress : ProgressStage → Option UInt8
  | .started => some 0
  | .issuanceRequestCreated => some 25
  | .issuanceWaitingForOfficer => some 50
  | .issuanceDocumentVerified => some 75
  | .issuanceCompleted => some 100
  | .verificationChallengeReceived => some 33
  | .verificationProofGenerated => some 66
  | .verificationSubmitting => some 90
  | .verificationCompleted => some 100
  | .failed => some 100
  | .cancelled => some 100

def estimateTime (stage : ProgressStage) (elapsedSecs : UInt32) : Option UInt32 :=
  match stage with
  | .issuanceWaitingForOfficer => none
  | .verificationProofGenerated => if elapsedSecs < 3 then some 5 else some 2
  | .verificationSubmitting => some 2
  | .issuanceCompleted => some 0
  | .verificationCompleted => some 0
  | _ => none

/-- The stage and the message a completion reports. -/
def completion : ProgressStage → ProgressStage × String
  | .issuanceWaitingForOfficer => (.issuanceCompleted, "Issuance completed successfully")
  | .issuanceDocumentVerified => (.issuanceCompleted, "Issuance completed successfully")
  | .verificationProofGenerated =>
    (.verificationCompleted, "Verification completed successfully")
  | .verificationSubmitting => (.verificationCompleted, "Verification completed successfully")
  | stage => (stage, "Operation completed")

/-! ## §2. The tracker -/

/-- A tracker, over the listeners it holds.  Times are in milliseconds. -/
structure ProgressTracker (L : Type) where
  listeners : List L
  currentStage : ProgressStage
  stageHistory : List (ProgressStage × UInt64)
  startTime : Option UInt64
  lastUpdateTime : UInt64

variable {L : Type}

def ProgressTracker.new (now : UInt64) : ProgressTracker L where
  listeners := []
  currentStage := .started
  stageHistory := []
  startTime := some now
  lastUpdateTime := now

/-- Push at the back, and pop at the front what is over 100 entries. -/
def pushHistory (history : List (ProgressStage × UInt64)) (entry : ProgressStage × UInt64) :
    List (ProgressStage × UInt64) :=
  if (history ++ [entry]).length > 100 then (history ++ [entry]).tail else history ++ [entry]

/-- Whole seconds since the clock was started, at most the greatest
    `u32`. -/
def ProgressTracker.elapsedSecs (t : ProgressTracker L) (now : UInt64) : UInt32 :=
  match t.startTime with
  | none => 0
  | some start =>
    let secs := (if start ≤ now then now - start else 0) / 1000
    if secs.toNat < 4294967296 then secs.toUInt32 else 4294967295

/-- What a report changes in the tracker. -/
def ProgressTracker.enter (t : ProgressTracker L) (now : UInt64) (stage : ProgressStage) :
    ProgressTracker L :=
  { t with
    currentStage := stage
    lastUpdateTime := now
    stageHistory := pushHistory t.stageHistory (stage, now) }

/-- What a report tells the listeners. -/
def ProgressTracker.update (t : ProgressTracker L) (now : UInt64) (stage : ProgressStage)
    (message : String) : ProgressUpdate where
  stage := stage
  message := message
  progressPercent := calculateProgress stage
  estimatedTimeRemainingSecs := estimateTime stage (t.elapsedSecs now)
  timestamp := now

/-- The calls made to listeners so far, and the errors logged. -/
structure Outside (L : Type) where
  calls : List (L × ProgressUpdate)
  errors : List String

/-- How a listener takes an update, in view of all calls before: it
    returns, or panics. -/
abbrev React (L : Type) := List (L × ProgressUpdate) → L → ProgressUpdate → Except String Unit

/-- The loop over the listeners. -/
def notify (react : React L) (update : ProgressUpdate) : List L → Outside L → Outside L
  | [], o => o
  | listener :: listeners, o =>
    match react o.calls listener update with
    | .ok () => notify react update listeners { o with calls := o.calls ++ [(listener, update)] }
    -- the panic stops at `catch_unwind`
    | .error _ =>
      notify react update listeners
        { calls := o.calls ++ [(listener, update)]
          errors := o.errors ++ ["Progress listener panicked during callback"] }

/-- A tracker and its surroundings. -/
structure World (L : Type) where
  tracker : ProgressTracker L
  outside : Outside L

def World.new (now : UInt64) : World L := ⟨.new now, ⟨[], []⟩⟩

def addListener (listener : L) (w : World L) : World L :=
  { w with tracker := { w.tracker with listeners := w.tracker.listeners ++ [listener] } }

def removeAllListeners (w : World L) : World L :=
  { w with tracker := { w.tracker with listeners := [] } }

def reportProgress (react : React L) (now : UInt64) (stage : ProgressStage) (message : String)
    (w : World L) : World L where
  tracker := w.tracker.enter now stage
  outside := notify react ((w.tracker.enter now stage).update now stage message)
    (w.tracker.enter now stage).listeners w.outside

def stopClock (w : World L) : World L :=
  { w with tracker := { w.tracker with startTime := none } }

def reset (now : UInt64) (w : World L) : World L :=
  { w with
    tracker :=
      { w.tracker with
        currentStage := .started
        startTime := some now
        lastUpdateTime := now
        stageHistory := [] } }

def markFailed (react : React L) (now : UInt64) (reason : String) (w : World L) : World L :=
  stopClock (reportProgress react now .failed reason w)

def markCompleted (react : React L) (now : UInt64) (w : World L) : World L :=
  stopClock (reportProgress react now (completion w.tracker.currentStage).1
    (completion w.tracker.currentStage).2 w)

/-- A call to the tracker, with the clock reading it takes. -/
inductive Op (L : Type) where
  | addListener (listener : L)
  | removeAllListeners
  | reportProgress (now : UInt64) (stage : ProgressStage) (message : String)
  | markCompleted (now : UInt64)
  | markFailed (now : UInt64) (reason : String)
  | reset (now : UInt64)
  deriving DecidableEq

def step (react : React L) (w : World L) : Op L → World L
  | .addListener listener => addListener listener w
  | .removeAllListeners => removeAllListeners w
  | .reportProgress now stage message => reportProgress react now stage message w
  | .markCompleted now => markCompleted react now w
  | .markFailed now reason => markFailed react now reason w
  | .reset now => reset now w

def run (react : React L) (ops : List (Op L)) (w : World L) : World L :=
  ops.foldl (step react) w

theorem run_append (react : React L) (ops ops' : List (Op L)) (w : World L) :
    run react (ops ++ ops') w = run react ops' (run react ops w) :=
  List.foldl_append

/-! ## §3. What a run reports -/

/-- One report: a stage, a message, and the time of the call. -/
structure Report where
  stage : ProgressStage
  message : String
  time : UInt64
  deriving DecidableEq

/-- The stages from which an issuance is completed. -/
def issuancePending : List ProgressStage := [.issuanceWaitingForOfficer, .issuanceDocumentVerified]

/-- The stages from which a verification is completed. -/
def verificationPending : List ProgressStage :=
  [.verificationProofGenerated, .verificationSubmitting]

/-- **What a call reports**, by its arguments and the stage it finds. -/
def reportOf (current : ProgressStage) : Op L → Option Report
  | .addListener _ => none
  | .removeAllListeners => none
  | .reportProgress now stage message => some ⟨stage, message, now⟩
  | .markCompleted now =>
    if current ∈ issuancePending then
      some ⟨.issuanceCompleted, "Issuance completed successfully", now⟩
    else if current ∈ verificationPending then
      some ⟨.verificationCompleted, "Verification completed successfully", now⟩
    else some ⟨current, "Operation completed", now⟩
  | .markFailed now reason => some ⟨.failed, reason, now⟩
  | .reset _ => none

/-- The stage of the last report. -/
def lastStage (reported : List Report) : ProgressStage :=
  (reported.getLast?.map Report.stage).getD .started

/-- The reports since the last reset, after one more call. -/
def reportedStep (reported : List Report) : Op L → List Report
  | .reset _ => []
  | op => reported ++ (reportOf (lastStage reported) op).toList

def reportedSinceReset (ops : List (Op L)) : List Report := ops.foldl reportedStep []

/-- When the clock was started, if it is running after one more call. -/
def clockStep (start : Option UInt64) : Op L → Option UInt64
  | .markCompleted _ => none
  | .markFailed _ _ => none
  | .reset now => some now
  | _ => start

def clockStarted (created : UInt64) (ops : List (Op L)) : Option UInt64 :=
  ops.foldl clockStep (some created)

/-- The whole seconds on a clock, at most the greatest `u32`. -/
def secondsOn (start : Option UInt64) (now : UInt64) : UInt32 :=
  match start with
  | none => 0
  | some start => UInt32.ofNat (min ((now.toNat - start.toNat) / 1000) 4294967295)

/-- **What is told of a report**: its stage, its message and its time,
    the percentage of the stage, and the estimate by a clock. -/
def Report.update (report : Report) (start : Option UInt64) : ProgressUpdate where
  stage := report.stage
  message := report.message
  progressPercent := calculateProgress report.stage
  estimatedTimeRemainingSecs := estimateTime report.stage (secondsOn start report.time)
  timestamp := report.time

/-- The update that a call tells after a run. -/
def updateAfter (created : UInt64) (ops : List (Op L)) (op : Op L) : Option ProgressUpdate :=
  (reportOf (lastStage (reportedSinceReset ops)) op).map fun report =>
    report.update (clockStarted created ops)

/-- The updates that calls tell one after another, after a run. -/
def updatesAfter (created : UInt64) : List (Op L) → List (Op L) → List ProgressUpdate
  | _, [] => []
  | ops, op :: ops' => (updateAfter created ops op).toList ++ updatesAfter created (ops ++ [op]) ops'

/-! ## §4. History, current stage and clock -/

/-- An entry of the history. -/
def Report.entry (report : Report) : ProgressStage × UInt64 := (report.stage, report.time)

/-- A tracker that shows the last stages of what was reported, and the
    clock. -/
structure Consistent (t : ProgressTracker L) (reported : List Report) (start : Option UInt64) :
    Prop where
  history : t.stageHistory = (reported.map Report.entry).rtake 100
  current : t.currentStage = lastStage reported
  clock : t.startTime = start

/-- A bounded history keeps the last entries. -/
theorem pushHistory_rtake (reported : List (ProgressStage × UInt64))
    (entry : ProgressStage × UInt64) :
    pushHistory (reported.rtake 100) entry = (reported ++ [entry]).rtake 100 := by
  unfold pushHistory List.rtake
  rw [List.length_append, List.length_drop, List.length_append, List.length_singleton]
  split
  next hfull =>
    -- the history was full, and its first entry goes
    have hdrop : reported.length + 1 - 100 = reported.length - 100 + 1 := by omega
    rw [hdrop, List.tail_append_of_ne_nil, List.tail_drop, List.drop_append_of_le_length (by omega)]
    intro hnil
    have hlen := congrArg List.length hnil
    rw [List.length_drop, List.length_nil] at hlen
    omega
  next hroom =>
    have hshort : reported.length - 100 = 0 := by omega
    have hshort' : reported.length + 1 - 100 = 0 := by omega
    rw [hshort, hshort', List.drop_zero, List.drop_zero]

theorem lastStage_append (reported : List Report) (report : Report) :
    lastStage (reported ++ [report]) = report.stage := by
  unfold lastStage
  rw [List.getLast?_concat]
  rfl

/-- The code's completion is the one that is to be reported. -/
theorem reportOf_markCompleted (current : ProgressStage) (now : UInt64) :
    reportOf current (.markCompleted now : Op L) =
      some ⟨(completion current).1, (completion current).2, now⟩ := by
  cases current <;> rfl

/-- A report adds its stage. -/
theorem consistent_enter {t : ProgressTracker L} {reported : List Report} {start : Option UInt64}
    (h : Consistent t reported start) (report : Report) :
    Consistent (t.enter report.time report.stage) (reported ++ [report]) start where
  history := by
    show pushHistory t.stageHistory report.entry = _
    rw [h.history, pushHistory_rtake, List.map_append, List.map_singleton]
  current := (lastStage_append reported report).symm
  clock := h.clock

/-- One step. -/
theorem consistent_step (react : React L) {w : World L} {reported : List Report}
    {start : Option UInt64} (h : Consistent w.tracker reported start) (op : Op L) :
    Consistent (step react w op).tracker (reportedStep reported op) (clockStep start op) := by
  have hnone : reported ++ (none : Option Report).toList = reported := List.append_nil reported
  cases op with
  | addListener listener =>
    show Consistent _ (reported ++ (none : Option Report).toList) start
    rw [hnone]
    exact ⟨h.history, h.current, h.clock⟩
  | removeAllListeners =>
    show Consistent _ (reported ++ (none : Option Report).toList) start
    rw [hnone]
    exact ⟨h.history, h.current, h.clock⟩
  | reportProgress now stage message => exact consistent_enter h ⟨stage, message, now⟩
  | markCompleted now =>
    have henter := consistent_enter h ⟨(completion (lastStage reported)).1,
      (completion (lastStage reported)).2, now⟩
    show Consistent (markCompleted react now w).tracker
      (reported ++ (reportOf (lastStage reported) (.markCompleted now : Op L)).toList) none
    rw [reportOf_markCompleted]
    unfold markCompleted
    rw [h.current]
    exact ⟨henter.history, henter.current, rfl⟩
  | markFailed now reason =>
    have henter := consistent_enter h ⟨.failed, reason, now⟩
    exact ⟨henter.history, henter.current, rfl⟩
  | reset now => exact ⟨rfl, rfl, rfl⟩

/-- **A run** keeps history, current stage and clock. -/
theorem consistent_run (react : React L) (created : UInt64) (ops : List (Op L)) :
    Consistent (run react ops (.new created)).tracker (reportedSinceReset ops)
      (clockStarted created ops) := by
  induction ops using List.reverseRecOn with
  | nil => exact ⟨rfl, rfl, rfl⟩
  | append_singleton ops op ih =>
    unfold reportedSinceReset clockStarted
    rw [run_append, List.foldl_append, List.foldl_append]
    exact consistent_step react ih op

/-! ## §5. Calls -/

/-- The update a call reports. -/
def ProgressTracker.reported (t : ProgressTracker L) : Op L → Option ProgressUpdate
  | .addListener _ => none
  | .removeAllListeners => none
  | .reportProgress now stage message => some ((t.enter now stage).update now stage message)
  | .markCompleted now =>
    some ((t.enter now (completion t.currentStage).1).update now (completion t.currentStage).1
      (completion t.currentStage).2)
  | .markFailed now reason => some ((t.enter now .failed).update now .failed reason)
  | .reset _ => none

/-- Unsigned subtraction, division and truncation on a clock. -/
theorem elapsedSecs_eq (t : ProgressTracker L) (now : UInt64) :
    t.elapsedSecs now = secondsOn t.startTime now := by
  unfold ProgressTracker.elapsedSecs secondsOn
  cases t.startTime with
  | none => rfl
  | some start =>
    have hsecs : ((if start ≤ now then now - start else 0) / 1000).toNat =
        (now.toNat - start.toNat) / 1000 := by
      rw [UInt64.toNat_div]
      split
      next hle => rw [UInt64.toNat_sub_of_le _ _ hle]; rfl
      next hlt =>
        have hpast : now.toNat - start.toNat = 0 :=
          Nat.sub_eq_zero_of_le (Nat.le_of_lt (Nat.lt_of_not_le hlt))
        rw [hpast]
        rfl
    simp only [hsecs]
    split
    next hfits =>
      rw [Nat.min_eq_left (Nat.le_of_lt_succ hfits), ← hsecs]
      rfl
    next hlarge =>
      rw [Nat.min_eq_right (Nat.le_of_succ_le (Nat.le_of_not_lt hlarge))]
      rfl

/-- **What a call tells is the update of its report.** -/
theorem reported_eq {t : ProgressTracker L} {reported : List Report} {start : Option UInt64}
    (h : Consistent t reported start) (op : Op L) :
    t.reported op = (reportOf (lastStage reported) op).map fun report => report.update start := by
  have hupdate : ∀ report : Report,
      (t.enter report.time report.stage).update report.time report.stage report.message =
        report.update start := by
    intro report
    unfold ProgressTracker.update Report.update
    rw [elapsedSecs_eq, ← h.clock]
    rfl
  cases op with
  | addListener listener => rfl
  | removeAllListeners => rfl
  | reportProgress now stage message => exact congrArg some (hupdate ⟨stage, message, now⟩)
  | markCompleted now =>
    rw [reportOf_markCompleted, ← h.current]
    exact congrArg some (hupdate ⟨_, _, now⟩)
  | markFailed now reason => exact congrArg some (hupdate ⟨.failed, reason, now⟩)
  | reset now => rfl

/-- The tracker after a call.  The listeners have no part in it. -/
def ProgressTracker.next (t : ProgressTracker L) (op : Op L) : ProgressTracker L :=
  (step (fun _ _ _ => .ok ()) ⟨t, ⟨[], []⟩⟩ op).tracker

theorem step_tracker (react : React L) (w : World L) (op : Op L) :
    (step react w op).tracker = w.tracker.next op := by
  cases op <;> rfl

/-- The updates reported in a run. -/
def updates : ProgressTracker L → List (Op L) → List ProgressUpdate
  | _, [] => []
  | t, op :: ops => (t.reported op).toList ++ updates (t.next op) ops

/-- **The updates of a run** are those of its reports. -/
theorem updates_eq (react : React L) (created : UInt64) (before ops : List (Op L)) :
    updates (run react before (.new created)).tracker ops = updatesAfter created before ops := by
  induction ops generalizing before with
  | nil => rfl
  | cons op ops ih =>
    have hnext : (run react before (.new created)).tracker.next op =
        (run react (before ++ [op]) (.new created)).tracker := by
      rw [run_append]
      exact (step_tracker react _ op).symm
    rw [updates, updatesAfter, reported_eq (consistent_run react created before), hnext, ih]
    rfl

/-- The listeners added since the last removal, after one more call. -/
def registeredStep (listeners : List L) : Op L → List L
  | .addListener listener => listeners ++ [listener]
  | .removeAllListeners => []
  | _ => listeners

def registered (ops : List (Op L)) : List L := ops.foldl registeredStep []

/-- **A report reaches every listener**, in order, whichever panic. -/
theorem notify_calls (react : React L) (update : ProgressUpdate) (listeners : List L)
    (o : Outside L) :
    (notify react update listeners o).calls =
      o.calls ++ listeners.map fun listener => (listener, update) := by
  induction listeners generalizing o with
  | nil => exact (List.append_nil _).symm
  | cons listener listeners ih =>
    unfold notify
    cases react o.calls listener update with
    | ok _ =>
      simp only [ih]
      rw [List.append_assoc, List.map_cons, List.singleton_append]
    | error panicked =>
      simp only [ih]
      rw [List.append_assoc, List.map_cons, List.singleton_append]

theorem run_tracker (react : React L) (ops : List (Op L)) (w : World L) :
    (run react ops w).tracker = ops.foldl ProgressTracker.next w.tracker := by
  induction ops generalizing w with
  | nil => rfl
  | cons op ops ih =>
    rw [List.foldl_cons, ← step_tracker react w op]
    exact ih (step react w op)

theorem next_listeners (t : ProgressTracker L) (op : Op L) :
    (t.next op).listeners = registeredStep t.listeners op := by
  cases op <;> rfl

theorem run_listeners (react : React L) (ops : List (Op L)) (w : World L) :
    (run react ops w).tracker.listeners = ops.foldl registeredStep w.tracker.listeners := by
  induction ops generalizing w with
  | nil => rfl
  | cons op ops ih =>
    rw [List.foldl_cons, ← next_listeners, ← step_tracker react]
    exact ih (step react w op)

/-- The calls of one step: what it reports, to every listener. -/
theorem step_calls (react : React L) (w : World L) (op : Op L) :
    (step react w op).outside.calls = w.outside.calls ++
      (w.tracker.reported op).toList.flatMap fun update =>
        w.tracker.listeners.map fun listener => (listener, update) := by
  have hreport : ∀ now stage message,
      (reportProgress react now stage message w).outside.calls = w.outside.calls ++
        [(w.tracker.enter now stage).update now stage message].flatMap fun update =>
          w.tracker.listeners.map fun listener => (listener, update) := by
    intro now stage message
    rw [List.flatMap_singleton]
    exact notify_calls react _ w.tracker.listeners w.outside
  cases op with
  | addListener listener => exact (List.append_nil _).symm
  | removeAllListeners => exact (List.append_nil _).symm
  | reportProgress now stage message => exact hreport now stage message
  | markCompleted now => exact hreport now _ _
  | markFailed now reason => exact hreport now .failed reason
  | reset now => exact (List.append_nil _).symm

/-! ## §6. What a listener receives -/

/-- A call as the listeners see it. -/
def eventOf (t : ProgressTracker L) (op : Op L) : List (Event L ProgressUpdate) :=
  match op with
  | .addListener listener => [.join listener]
  | .removeAllListeners => [.clear]
  | op => (t.reported op).toList.map .emit

def events : ProgressTracker L → List (Op L) → List (Event L ProgressUpdate)
  | _, [] => []
  | t, op :: ops => eventOf t op ++ events (t.next op) ops

theorem deliveries_eventOf (t : ProgressTracker L) (listeners : List L) (op : Op L) :
    deliveries listeners (eventOf t op) =
      (t.reported op).toList.flatMap fun update =>
        listeners.map fun listener => (listener, update) := by
  cases op <;> rfl

theorem subscribers_eventOf (t : ProgressTracker L) (listeners : List L) (op : Op L) :
    (eventOf t op).foldl subscribers listeners = registeredStep listeners op := by
  cases op <;> rfl

/-- **The calls of a run** are the deliveries of its events. -/
theorem run_calls (react : React L) (ops : List (Op L)) (w : World L) :
    (run react ops w).outside.calls =
      w.outside.calls ++ deliveries w.tracker.listeners (events w.tracker ops) := by
  induction ops generalizing w with
  | nil => exact (List.append_nil _).symm
  | cons op ops ih =>
    have hrest := ih (step react w op)
    rw [step_calls, step_tracker, next_listeners, List.append_assoc] at hrest
    rw [events, deliveries_append, deliveries_eventOf, subscribers_eventOf]
    exact hrest

theorem events_append (t : ProgressTracker L) (ops ops' : List (Op L)) :
    events t (ops ++ ops') = events t ops ++ events (ops.foldl ProgressTracker.next t) ops' := by
  induction ops generalizing t with
  | nil => rfl
  | cons op ops ih =>
    rw [List.cons_append, events, events, ih, List.append_assoc]
    rfl

/-- What a run sends are the updates it reports. -/
theorem emitted_events (t : ProgressTracker L) (ops : List (Op L)) :
    emitted (events t ops) = updates t ops := by
  induction ops generalizing t with
  | nil => rfl
  | cons op ops ih =>
    rw [updates, ← ih]
    cases op <;> rfl

/-- Who joins was added. -/
theorem joined_events (l : L) (t : ProgressTracker L) {ops : List (Op L)}
    (h : ∀ op ∈ ops, op ≠ .addListener l) : l ∉ joined (events t ops) := by
  induction ops generalizing t with
  | nil => exact List.not_mem_nil
  | cons op ops ih =>
    rw [events, joined_append, List.mem_append, not_or]
    refine ⟨?_, ih (t.next op) fun op' hop => h op' (List.mem_cons_of_mem op hop)⟩
    cases op with
    | addListener k =>
      intro hmem
      rw [List.mem_singleton.1 hmem] at h
      exact h _ List.mem_cons_self rfl
    | removeAllListeners => exact List.not_mem_nil
    | reportProgress now stage message => exact List.not_mem_nil
    | markCompleted now => exact List.not_mem_nil
    | markFailed now reason => exact List.not_mem_nil
    | reset now => exact List.not_mem_nil

/-- Without a removal nobody leaves. -/
theorem lasting_events (t : ProgressTracker L) {ops : List (Op L)}
    (h : ∀ op ∈ ops, op ≠ .removeAllListeners) : Lasting (events t ops) := by
  induction ops generalizing t with
  | nil => trivial
  | cons op ops ih =>
    have hrest := ih (t.next op) fun op' hop => h op' (List.mem_cons_of_mem op hop)
    cases op with
    | removeAllListeners => exact absurd rfl (h _ List.mem_cons_self)
    | addListener k => exact hrest
    | reportProgress now stage message => exact hrest
    | markCompleted now => exact hrest
    | markFailed now reason => exact hrest
    | reset now => exact hrest

/-- **The progress tracker is consistent**, whichever listeners panic.
    The history is the last 100 stages reported since the last reset, in
    order, and the current stage the last of them; each call tells every
    listener added since the last removal the stage, the message and the
    time of its report; and a listener that is added once is told what is
    reported until the next removal, each update once and in order. -/
theorem progress_reporting [DecidableEq L] (react : React L) (created : UInt64)
    (ops : List (Op L)) :
    (run react ops (.new created)).tracker.stageHistory =
        ((reportedSinceReset ops).map Report.entry).rtake 100 ∧
      (run react ops (.new created)).tracker.currentStage = lastStage (reportedSinceReset ops) ∧
      (∀ op, (run react (ops ++ [op]) (.new created)).outside.calls =
        (run react ops (.new created)).outside.calls ++
          (updateAfter created ops op).toList.flatMap fun update =>
            (registered ops).map fun listener => (listener, update)) ∧
      ∀ before l between after, ops = before ++ .addListener l :: (between ++ after) →
        (∀ op ∈ between, op ≠ .removeAllListeners) →
        (after = [] ∨ ∃ rest, after = .removeAllListeners :: rest) →
        (∀ op ∈ before ++ between ++ after, op ≠ .addListener l) →
        received l (run react ops (.new created)).outside.calls =
          updatesAfter created (before ++ [.addListener l]) between := by
  have hconsistent := consistent_run react created ops
  refine ⟨hconsistent.history, hconsistent.current, ?_, ?_⟩
  · intro op
    have hlisteners : (run react ops (.new created)).tracker.listeners = registered ops :=
      run_listeners react ops (.new created)
    rw [run_append, ← hlisteners]
    show (step react (run react ops (.new created)) op).outside.calls = _
    rw [step_calls, reported_eq hconsistent]
    rfl
  · intro before l between after hops hlast hafter honce
    have hbefore : ∀ op ∈ before, op ≠ .addListener l := fun op hop =>
      honce op (List.mem_append_left _ (List.mem_append_left _ hop))
    have hbetween : ∀ op ∈ between, op ≠ .addListener l := fun op hop =>
      honce op (List.mem_append_left _ (List.mem_append_right _ hop))
    have hrest : ∀ op ∈ after, op ≠ .addListener l := fun op hop =>
      honce op (List.mem_append_right _ hop)
    have hdeparts : ∀ t : ProgressTracker L, Departs (events t after) := by
      intro t
      rcases hafter with rfl | ⟨rest, rfl⟩
      · trivial
      · trivial
    rw [← updates_eq react created, run_calls, hops, events_append, events, events_append,
      run_tracker, List.foldl_append]
    have hjoin : ∀ t : ProgressTracker L, eventOf t (.addListener l) = [.join l] := fun _ => rfl
    rw [hjoin, List.singleton_append]
    show received l (deliveries [] _) = _
    rw [received_once l (joined_events l _ hbefore) (lasting_events _ hlast)
      (joined_events l _ hbetween) (hdeparts _) (joined_events l _ hrest), emitted_events]
    rfl

/-- A verification with two listeners, the first of which always panics.
    The second one joins after the first report, and both are removed
    before the last. -/
def panickingReact : React Bool := fun _ listener _ =>
  if listener then .error "boom" else .ok ()

def verificationCalls : List (Op Bool) :=
  [.addListener true, .reportProgress 1000 .started "scanned", .addListener false,
    .reportProgress 5000 .verificationProofGenerated "proved", .markCompleted 6000,
    .removeAllListeners, .reset 7000]

/-- The second listener is told of the proof and of the completion. -/
theorem progress_reporting_panicking :
    received false (run panickingReact verificationCalls (.new 0)).outside.calls =
      [⟨.verificationProofGenerated, "proved", some 66, some 2, 5000⟩,
        ⟨.verificationCompleted, "Verification completed successfully", some 100, some 0, 6000⟩] ∧
    (run panickingReact (verificationCalls.take 3) (.new 0)).outside.calls =
      [(true, ⟨.started, "scanned", some 0, none, 1000⟩)] ∧
    (run panickingReact (verificationCalls.take 3 ++
        [.reportProgress 5000 .verificationProofGenerated "proved"]) (.new 0)).outside.calls =
      (run panickingReact (verificationCalls.take 3) (.new 0)).outside.calls ++
        [(true, ⟨.verificationProofGenerated, "proved", some 66, some 2, 5000⟩),
          (false, ⟨.verificationProofGenerated, "proved", some 66, some 2, 5000⟩)] := by
  refine ⟨?_, by decide, ?_⟩
  · exact (progress_reporting panickingReact 0 verificationCalls).2.2.2
      (verificationCalls.take 2) false ((verificationCalls.drop 3).take 2)
      (verificationCalls.drop 5) rfl (by decide) (Or.inr ⟨_, rfl⟩) (by decide)
  · exact (progress_reporting panickingReact 0 (verificationCalls.take 3)).2.2.1
      (.reportProgress 5000 .verificationProofGenerated "proved")

end ProviiSdk.Ffi.Progress
