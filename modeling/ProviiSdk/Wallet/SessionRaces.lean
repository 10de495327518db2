/-
  ProviiSdk.Wallet.SessionRaces — the session state under several threads.

  A method of the session state locks its cells one after the other, so
  two calls may interleave.  What survives every interleaving: the active
  list names no challenge twice, and once all calls have ended a recorded
  error comes with a failure counter that is not zero.

  The first rests on the guard of the active list, which is held from the
  lookup to the insertion.  The second is carried by the calls in flight:
  whoever has cleared the counter has the clearing of the error still
  ahead, and an error is recorded only under the guard of a counter that
  has just been raised.

  The calls are `start_verification`, `update_verification_status`,
  `complete_verification`, `cancel_verification` and `reset`: the methods
  that write the status, the active list, the counter or the error.  The
  getters write nothing, and the biometric methods only their own cell.

  Main results:
    * `alone_runs_manager` — a call that is not interleaved is the method
      of `Ffi.State`.
    * `session_consistent` — the two invariants, over every run.
-/

import ProviiSdk.Wallet.LockOrder

namespace ProviiSdk.Mutexes

open ProviiSdk.Locks ProviiSdk.Ffi ProviiSdk.Run

/-! ## §1. Calls that are not interleaved -/

/-- The text of a call. -/
def managerMethod : ManagerOp → Method
  | .start challengeId => StateManager.startVerification challengeId
  | .update challengeId status => StateManager.updateVerificationStatus challengeId status
  | .complete challengeId success => StateManager.completeVerification challengeId success
  | .cancel challengeId => StateManager.cancelVerification challengeId
  | .reset => StateManager.reset

/-- The session state in the cells. -/
def sessionOf (cells : (l : Lock) → Cell l) : Ffi.StateManager :=
  { verificationStatus := cells .verificationStatus
    activeVerifications := cells .activeVerifications
    failedAttempts := cells .failedAttempts
    lastError := cells .lastError }

theorem managerMethod_above (op : ManagerOp) : (managerMethod op).Above ∅ 3 := by
  cases op with
  | start id => exact StateManager.startVerification_above id
  | update id status => exact StateManager.updateVerificationStatus_above id status
  | complete id success => exact StateManager.completeVerification_above id success
  | cancel id => exact StateManager.cancelVerification_above id
  | reset => exact StateManager.reset_above

/-- The text of a call computes what the method does. -/
theorem sessionOf_result (op : ManagerOp) (cells : (l : Lock) → Cell l) :
    sessionOf ((managerMethod op).result ∅ cells) = managerStep (sessionOf cells) op := by
  cases op with
  | start id =>
    -- the lookup comes after the status is set
    let cells' := Function.update cells .verificationStatus VerificationStatus.challengeReceived
    have hlookup : ∀ found : Bool, List.elem id (cells' .activeVerifications) = found →
        sessionOf ((managerMethod (.start id)).result ∅ cells) =
          { verificationStatus := .challengeReceived
            activeVerifications := if found then cells .activeVerifications
              else List.append (cells .activeVerifications) [id]
            failedAttempts := 0
            lastError := none } := by
      intro found hfound
      show sessionOf (Code.result _ (Code.result _ (Code.result _ cells'
        (if List.elem id (cells' .activeVerifications) = true then _ else _)) _) _) = _
      rw [hfound]
      cases found <;> rfl
    by_cases hmem : id ∈ (sessionOf cells).activeVerifications
    · rw [hlookup true (List.elem_iff.2 hmem)]
      show _ = Ffi.StateManager.startVerification id (sessionOf cells)
      unfold Ffi.StateManager.startVerification
      rw [if_pos hmem]
      rfl
    · rw [hlookup false (Bool.eq_false_iff.2 fun h => hmem (List.elem_iff.1 h))]
      show _ = Ffi.StateManager.startVerification id (sessionOf cells)
      unfold Ffi.StateManager.startVerification
      rw [if_neg hmem]
      rfl
  | update id status => cases status <;> rfl
  | complete id success => cases success <;> rfl
  | cancel id => rfl
  | reset => rfl

/-- **Alone**: a call that ticks while no other thread holds a lock is the
    method of the session state. -/
theorem alone_runs_manager (op : ManagerOp) {s : System Lock Cell} {i : Nat}
    (hi : s.threads[i]? = some (Thread.start (managerMethod op)))
    (hothers : ∀ (j : Nat) (u : Thread Lock Cell), j ≠ i → s.threads[j]? = some u → u.held = ∅) :
    ∃ n, sessionOf (run step s (List.replicate n (.tick i 0))).cells =
      managerStep (sessionOf s.cells) op := by
  have hord : (managerMethod op).Ordered rank world ∅ := (managerMethod_above op).start
  have hprog : Prog.Ordered rank world ∅ ((managerMethod op).andThen .done) :=
    Code.ordered_andThen hord rfl
  obtain ⟨n, hn⟩ := run_alone _ hi hprog hothers
  refine ⟨n, ?_⟩
  rw [hn, ← sessionOf_result op s.cells]
  show sessionOf (Prog.result ∅ s.cells ((managerMethod op).andThen .done)) = _
  rw [Code.result_andThen hord]
  rfl

/-! ## §2. What a thread knows, and what it owes -/

/-- What a thread knows of the cells it has locked: the active list it has
    read and not yet changed, and whether it has just raised the counter. -/
structure Knows where
  seen : Option (List String)
  raised : Bool

def Knows.nothing : Knows := { seen := none, raised := false }

/-- What is left of it when a lock is given back. -/
def Knows.forget (k : Knows) : Lock → Knows
  | .activeVerifications => { k with seen := none }
  | .failedAttempts => { k with raised := false }
  | _ => k

/-- What a read adds to it. -/
def Knows.learn (k : Knows) : (l : Lock) → Cell l → Knows
  | .activeVerifications, ids => { k with seen := some ids }
  | _, _ => k

/-- The write clears the recorded error. -/
def ClearsAt : (l : Lock) → (Cell l → Cell l) → Prop
  | .lastError, f => ∀ e, f e = (none : Option String)
  | _, _ => False

/-- On every way to its end the program clears the recorded error. -/
def Clears : Prog Lock Cell → Prop
  | .done => False
  | .lock _ next => Clears next
  | .tryLock _ next => ∀ got, Clears (next got)
  | .unlock _ next => Clears next
  | .read _ next => ∀ v, Clears (next v)
  | .write l f next => ClearsAt l f ∨ Clears next
  | .choose next => ∀ n, Clears (next n)
  | .wait next => Clears next

/-- The writes a thread may make, with what it knows before and after and
    whether it clears the error later on. -/
def WriteOk (k k' : Knows) (clears : Prop) : (l : Lock) → (Cell l → Cell l) → Prop
  | .activeVerifications, f =>
    (∀ ids : List String, (∀ seen, k.seen = some seen → ids = seen) → ids.Nodup →
      List.Nodup (f ids)) ∧ k' = { k with seen := none }
  | .failedAttempts, f =>
    ((∀ n, f n ≠ (0 : UInt32)) ∧ k' = { k with raised := true }) ∨
      (clears ∧ k' = { k with raised := false })
  | .lastError, f => ((∀ e, f e = (none : Option String)) ∨ k.raised = true) ∧ k' = k
  | _, _ => k' = k

/-- All its writes are such. -/
def Tidy : Knows → Prog Lock Cell → Prop
  | _, .done => True
  | k, .lock _ next => Tidy k next
  | k, .tryLock _ next => ∀ got, Tidy k (next got)
  | k, .unlock l next => Tidy (k.forget l) next
  | k, .read l next => ∀ v, Tidy (k.learn l v) (next v)
  | k, .write l f next => ∃ k', WriteOk k k' (Clears next) l f ∧ Tidy k' next
  | k, .choose next => ∀ n, Tidy k (next n)
  | k, .wait next => Tidy k next

/-- `k'` knows all that `k` does. -/
structure Knows.Le (k k' : Knows) : Prop where
  seen : ∀ ids, k.seen = some ids → k'.seen = some ids
  raised : k.raised = true → k'.raised = true

theorem Knows.nothing_le (k : Knows) : Knows.nothing.Le k where
  seen := fun _ h => by cases h
  raised := fun h => by cases h

theorem Knows.Le.forget {k k' : Knows} (h : k.Le k') (l : Lock) :
    (k.forget l).Le (k'.forget l) := by
  cases l with
  | activeVerifications => exact ⟨fun _ hids => (by cases hids), h.raised⟩
  | failedAttempts => exact ⟨h.seen, fun hr => (by cases hr)⟩
  | _ => exact h

theorem Knows.Le.learn {k k' : Knows} (h : k.Le k') (l : Lock) (v : Cell l) :
    (k.learn l v).Le (k'.learn l v) := by
  cases l with
  | activeVerifications => exact ⟨fun _ hids => hids, h.raised⟩
  | _ => exact h

/-- Who knows more may write at least as much. -/
theorem Knows.Le.writeOk {k k' m : Knows} {clears : Prop} {l : Lock} {f : Cell l → Cell l}
    (h : k.Le k') (hw : WriteOk k m clears l f) : ∃ m', WriteOk k' m' clears l f ∧ m.Le m' := by
  cases l with
  | activeVerifications =>
    obtain ⟨hf, rfl⟩ := hw
    refine ⟨_, ⟨fun ids hids => hf ids fun seen hseen => hids seen (h.seen seen hseen), rfl⟩, ?_⟩
    exact ⟨fun _ hids => (by cases hids), h.raised⟩
  | failedAttempts =>
    rcases hw with ⟨hf, rfl⟩ | ⟨hclears, rfl⟩
    · exact ⟨_, .inl ⟨hf, rfl⟩, h.seen, fun _ => rfl⟩
    · exact ⟨_, .inr ⟨hclears, rfl⟩, h.seen, fun hr => hr⟩
  | lastError =>
    obtain ⟨hf, rfl⟩ := hw
    exact ⟨k', ⟨hf.imp id h.raised, rfl⟩, h⟩
  | _ =>
    obtain rfl : m = k := hw
    exact ⟨k', rfl, h⟩

/-- A program that is tidy with some knowledge is so with more. -/
theorem Tidy.of_le {k k' : Knows} {p : Prog Lock Cell} (hp : Tidy k p) (h : k.Le k') :
    Tidy k' p := by
  induction p generalizing k k' with
  | done => trivial
  | lock l next ih => exact ih hp h
  | tryLock l next ih => exact fun got => ih got (hp got) h
  | unlock l next ih => exact ih hp (h.forget l)
  | read l next ih => exact fun v => ih v (hp v) (h.learn l v)
  | write l f next ih =>
    obtain ⟨m, hw, hnext⟩ := hp
    obtain ⟨m', hw', hle⟩ := h.writeOk hw
    exact ⟨m', hw', ih hnext hle⟩
  | choose next ih => exact fun n => ih n (hp n) h
  | wait next ih => exact ih hp h

/-! ## §3. The methods are tidy -/

/-- Code after which a tidy program stays tidy, and a program that clears
    the error still does. -/
structure KeepsTidy (c : Method) : Prop where
  tidy : ∀ p, Tidy .nothing p → Tidy .nothing (c.andThen p)
  clears : ∀ p, Clears p → Clears (c.andThen p)

theorem nothing_forget (l : Lock) : Knows.nothing.forget l = .nothing := by
  cases l <;> rfl

theorem keepsTidy_seq {c d : Method} (hc : KeepsTidy c) (hd : KeepsTidy d) :
    KeepsTidy (.seq c d) where
  tidy := fun p hp => hc.tidy _ (hd.tidy p hp)
  clears := fun p hp => hc.clears _ (hd.clears p hp)

theorem keepsTidy_all {cs : List Method} (h : ∀ c ∈ cs, KeepsTidy c) : KeepsTidy (Code.all cs) := by
  induction cs with
  | nil => exact ⟨fun _ hp => hp, fun _ hp => hp⟩
  | cons c cs ih =>
    exact keepsTidy_seq (h c List.mem_cons_self) (ih fun d hd => h d (List.mem_cons_of_mem c hd))

/-- A guarded write that needs no knowledge. -/
theorem keepsTidy_put {l : Lock} {f : Cell l → Cell l}
    (h : ∀ clears, WriteOk .nothing .nothing clears l f) : KeepsTidy (put l f) where
  tidy := by
    intro p hp
    refine ⟨.nothing, h _, ?_⟩
    show Tidy (Knows.nothing.forget l) p
    rw [nothing_forget]
    exact hp
  clears := fun p hp => .inr hp

theorem keepsTidy_setStatus (status : VerificationStatus) :
    KeepsTidy (put .verificationStatus fun _ => status) := keepsTidy_put fun _ => rfl

theorem keepsTidy_clearError : KeepsTidy (put .lastError fun _ => none) :=
  keepsTidy_put fun _ => ⟨.inl fun _ => rfl, rfl⟩

theorem keepsTidy_remove (id : String) : KeepsTidy (StateManager.removeVerification id) :=
  keepsTidy_put fun _ => ⟨fun _ _ hids => hids.filter _, rfl⟩

/-- **Clearing the counter, and then the error**: after the first of the
    two writes the second is still owed. -/
theorem keepsTidy_clear : KeepsTidy
    (.seq (put .failedAttempts fun _ => (0 : UInt32)) (put .lastError fun _ => none)) where
  tidy := by
    intro p hp
    have howed : Clears (.unlock .failedAttempts ((put .lastError fun _ => none).andThen p)) :=
      .inl fun _ => rfl
    refine ⟨.nothing, .inr ⟨howed, rfl⟩, ?_⟩
    exact keepsTidy_clearError.tidy p hp
  clears := fun p _ => .inr (.inl fun _ => rfl)

/-- The counter never wraps. -/
theorem satSucc_ne_zero (n : UInt32) : Ffi.StateManager.satSucc n ≠ 0 := by
  intro h
  have hnat := Ffi.StateManager.satSucc_toNat n
  have hmax : Ffi.StateManager.maxAttempts.toNat = 4294967295 := rfl
  have hzero : (0 : UInt32).toNat = 0 := rfl
  rw [h, hzero, hmax] at hnat
  omega

theorem keepsTidy_startVerification (id : String) :
    KeepsTidy (StateManager.startVerification id) := by
  refine keepsTidy_seq (keepsTidy_setStatus _) ⟨fun p hp => ?_, fun p hp => ?_⟩
  · -- under the guard of the list: lookup, insertion, and the two clearings
    have hrest : Tidy .nothing ((Code.seq (put .failedAttempts fun _ => (0 : UInt32))
        (put .lastError fun _ => none)).andThen (.unlock .activeVerifications p)) :=
      keepsTidy_clear.tidy _ hp
    intro ids
    show Tidy _ (Code.andThen (if List.elem id ids = true then _ else _) _)
    split
    · exact hrest.of_le (Knows.nothing_le _)
    · next hnew =>
      refine ⟨.nothing, ⟨fun ids' hseen hids => ?_, rfl⟩, hrest⟩
      obtain rfl : ids' = ids := hseen ids rfl
      have hnot : id ∉ ids' := fun h => hnew (List.elem_iff.2 h)
      exact hids.append (List.nodup_singleton id) (List.disjoint_singleton.2 hnot)
  · intro ids
    show Clears (Code.andThen (if List.elem id ids = true then _ else _) _)
    split
    · exact keepsTidy_clear.clears _ hp
    · exact .inr (keepsTidy_clear.clears _ hp)

theorem keepsTidy_updateVerificationStatus (id : String) (status : VerificationStatus) :
    KeepsTidy (StateManager.updateVerificationStatus id status) := by
  cases status with
  | failed reason =>
    refine keepsTidy_seq ⟨fun p hp => ?_, fun p hp => ?_⟩ (keepsTidy_setStatus _)
    · -- the error is recorded by whoever has raised the counter
      refine ⟨_, .inl ⟨satSucc_ne_zero, rfl⟩, _, ⟨.inr rfl, rfl⟩, ?_⟩
      exact hp
    · exact .inr (.inr hp)
  | notStarted => exact keepsTidy_setStatus _
  | challengeReceived => exact keepsTidy_setStatus _
  | proofGenerated => exact keepsTidy_setStatus _
  | submitting => exact keepsTidy_setStatus _
  | verified => exact keepsTidy_setStatus _

theorem keepsTidy_finishVerification (id : String) (success : Bool) (status : VerificationStatus) :
    KeepsTidy (StateManager.finishVerification id success status) := by
  refine keepsTidy_seq (keepsTidy_setStatus _) (keepsTidy_seq (keepsTidy_remove id) ?_)
  cases success with
  | true => exact keepsTidy_clear
  | false => exact ⟨fun _ hp => hp, fun _ hp => hp⟩

theorem keepsTidy_completeVerification (id : String) (success : Bool) :
    KeepsTidy (StateManager.completeVerification id success) := by
  cases success with
  | true => exact keepsTidy_finishVerification id true _
  | false =>
    exact ⟨fun p hp attempts => (keepsTidy_finishVerification id false _).tidy p hp,
      fun p hp attempts => (keepsTidy_finishVerification id false _).clears p hp⟩

theorem keepsTidy_reset : KeepsTidy StateManager.reset := by
  refine keepsTidy_seq (keepsTidy_setStatus _) (keepsTidy_seq ?_ ?_)
  · exact keepsTidy_put fun _ => ⟨fun _ _ _ => List.nodup_nil, rfl⟩
  · have htemp : KeepsTidy (temp .biometricState) := ⟨fun _ hp => hp, fun _ hp => hp⟩
    have hclear : KeepsTidy (.seq (.seq (put .failedAttempts fun _ => (0 : UInt32))
        (put .lastError fun _ => none)) (temp .biometricState)) :=
      keepsTidy_seq keepsTidy_clear htemp
    exact ⟨fun p hp => hclear.tidy p hp, fun p hp => hclear.clears p hp⟩

/-- **Every call is tidy.** -/
theorem keepsTidy_managerMethod (op : ManagerOp) : KeepsTidy (managerMethod op) := by
  cases op with
  | start id => exact keepsTidy_startVerification id
  | update id status => exact keepsTidy_updateVerificationStatus id status
  | complete id success => exact keepsTidy_completeVerification id success
  | cancel id => exact keepsTidy_seq (keepsTidy_remove id) (keepsTidy_setStatus _)
  | reset => exact keepsTidy_reset

/-! ## §4. One step -/

/-- What a thread knows is so, and the locks it knows it by are held. -/
structure Knows.Right (k : Knows) (cells : (l : Lock) → Cell l) (held : Finset Lock) : Prop where
  seen : ∀ ids, k.seen = some ids →
    .activeVerifications ∈ held ∧ cells .activeVerifications = ids
  raised : k.raised = true → .failedAttempts ∈ held ∧ cells .failedAttempts ≠ (0 : UInt32)

/-- What is known outlasts whatever happens to the cells of other locks. -/
theorem Knows.Right.of_kept {k : Knows} {cells cells' : (l : Lock) → Cell l} {held : Finset Lock}
    (h : k.Right cells held) (hkept : ∀ l ∈ held, cells' l = cells l) : k.Right cells' held where
  seen := by
    intro ids hids
    obtain ⟨hheld, hcell⟩ := h.seen ids hids
    exact ⟨hheld, (hkept _ hheld).trans hcell⟩
  raised := by
    intro hr
    obtain ⟨hheld, hcell⟩ := h.raised hr
    exact ⟨hheld, fun hzero => hcell ((hkept _ hheld).symm.trans hzero)⟩

theorem Knows.Right.insert {k : Knows} {cells : (l : Lock) → Cell l} {held : Finset Lock}
    (h : k.Right cells held) (l : Lock) : k.Right cells (insert l held) where
  seen := fun ids hids => (h.seen ids hids).imp_left Finset.mem_insert_of_mem
  raised := fun hr => (h.raised hr).imp_left Finset.mem_insert_of_mem

theorem Knows.Right.erase {k : Knows} {cells : (l : Lock) → Cell l} {held : Finset Lock}
    (h : k.Right cells held) (l : Lock) : (k.forget l).Right cells (held.erase l) where
  seen := by
    intro ids hids
    by_cases hl : l = .activeVerifications
    · rw [hl] at hids
      cases hids
    · have hseen : k.seen = some ids := by
        cases l <;> first | exact hids | exact absurd rfl hl
      exact (h.seen ids hseen).imp_left fun hheld => Finset.mem_erase_of_ne_of_mem (Ne.symm hl) hheld
  raised := by
    intro hr
    by_cases hl : l = .failedAttempts
    · rw [hl] at hr
      cases hr
    · have hraised : k.raised = true := by
        cases l <;> first | exact hr | exact absurd rfl hl
      exact (h.raised hraised).imp_left fun hheld =>
        Finset.mem_erase_of_ne_of_mem (Ne.symm hl) hheld

theorem Knows.Right.learn {k : Knows} {cells : (l : Lock) → Cell l} {held : Finset Lock}
    (h : k.Right cells held) {l : Lock} (hl : l ∈ held) : (k.learn l (cells l)).Right cells held where
  seen := by
    intro ids hids
    cases l with
    | activeVerifications => exact ⟨hl, Option.some.inj hids⟩
    | _ => exact h.seen ids hids
  raised := by
    intro hr
    cases l <;> exact h.raised hr

/-- The two invariants, while `others` says that some other thread will
    clear the error. -/
structure CellsOk (cells : (l : Lock) → Cell l) (clears : Prop) : Prop where
  nodup : List.Nodup (cells .activeVerifications)
  owed : cells .lastError ≠ (none : Option String) →
    cells .failedAttempts ≠ (0 : UInt32) ∨ clears

/-- A write of a tidy thread. -/
theorem write_ok {k k' : Knows} {cells : (l : Lock) → Cell l} {held : Finset Lock}
    {next : Prog Lock Cell} {others : Prop} {l : Lock} {f : Cell l → Cell l}
    (hk : k.Right cells held) (hl : l ∈ held) (hw : WriteOk k k' (Clears next) l f)
    (hok : CellsOk cells (ClearsAt l f ∨ Clears next ∨ others)) :
    k'.Right (Function.update cells l (f (cells l))) held ∧
      CellsOk (Function.update cells l (f (cells l))) (Clears next ∨ others) := by
  cases l with
  | activeVerifications =>
    obtain ⟨hf, rfl⟩ := hw
    refine ⟨⟨fun _ hids => (by cases hids), hk.raised⟩, ?_, ?_⟩
    · exact hf _ (fun seen hseen => (hk.seen seen hseen).2) hok.nodup
    · exact fun h => (hok.owed h).imp id (Or.resolve_left · id)
  | failedAttempts =>
    rcases hw with ⟨hf, rfl⟩ | ⟨hclears, rfl⟩
    · exact ⟨⟨hk.seen, fun _ => ⟨hl, hf _⟩⟩, hok.nodup, fun _ => .inl (hf _)⟩
    · refine ⟨⟨hk.seen, fun hr => (by cases hr)⟩, hok.nodup, fun _ => .inr (.inl hclears)⟩
  | lastError =>
    obtain ⟨hf, rfl⟩ := hw
    refine ⟨⟨hk.seen, hk.raised⟩, hok.nodup, fun h => ?_⟩
    rcases hf with hclear | hraised
    · exact absurd (hclear _) h
    · exact .inl (hk.raised hraised).2
  | _ =>
    obtain rfl : k' = k := hw
    exact ⟨⟨hk.seen, hk.raised⟩, hok.nodup, fun h => (hok.owed h).imp id (Or.resolve_left · id)⟩

/-- **A tick of a tidy thread.** -/
theorem tick_ok {s : System Lock Cell} {t : Thread Lock Cell} {n : Nat} {k : Knows} {others : Prop}
    (hord : t.prog.Ordered rank world t.held) (hk : k.Right s.cells t.held) (htidy : Tidy k t.prog)
    (hok : CellsOk s.cells (Clears t.prog ∨ others)) :
    (∃ k' : Knows, k'.Right (tick s n t).1 (tick s n t).2.held ∧ Tidy k' (tick s n t).2.prog) ∧
      CellsOk (tick s n t).1 (Clears (tick s n t).2.prog ∨ others) := by
  obtain ⟨held, prog⟩ := t
  cases prog with
  | done => exact ⟨⟨k, hk, htidy⟩, hok⟩
  | lock l next =>
    simp only [tick]
    split
    · exact ⟨⟨k, hk.insert l, htidy⟩, hok⟩
    · exact ⟨⟨k, hk, htidy⟩, hok⟩
  | tryLock l next =>
    have hnext : ∀ got, CellsOk s.cells (Clears (next got) ∨ others) := fun got =>
      ⟨hok.nodup, fun h => (hok.owed h).imp id (Or.imp_left fun hc => hc got)⟩
    simp only [tick]
    split
    · exact ⟨⟨k, hk.insert l, htidy true⟩, hnext true⟩
    · exact ⟨⟨k, hk, htidy false⟩, hnext false⟩
  | unlock l next => exact ⟨⟨k.forget l, hk.erase l, htidy⟩, hok⟩
  | read l next =>
    refine ⟨⟨_, hk.learn hord.1, htidy _⟩, hok.nodup, fun h => ?_⟩
    exact (hok.owed h).imp id (Or.imp_left fun hc => hc _)
  | write l f next =>
    obtain ⟨k', hw, hnext⟩ := htidy
    have hwrite := write_ok hk hord.1 hw ⟨hok.nodup, fun h => (hok.owed h).imp id or_assoc.1⟩
    exact ⟨⟨k', hwrite.1, hnext⟩, hwrite.2⟩
  | choose next =>
    refine ⟨⟨k, hk, htidy n⟩, hok.nodup, fun h => ?_⟩
    exact (hok.owed h).imp id (Or.imp_left fun hc => hc n)
  | wait next => exact ⟨⟨k, hk, htidy⟩, hok⟩

/-! ## §5. Runs -/

/-- Every thread is tidy, and the cells are as the threads owe them. -/
structure SessionInv (s : System Lock Cell) : Prop where
  sound : Sound rank world s
  tidy : ∀ t ∈ s.threads, ∃ k : Knows, k.Right s.cells t.held ∧ Tidy k t.prog
  cells : CellsOk s.cells (∃ t ∈ s.threads, Clears t.prog)

/-- A thread starts on a list of calls. -/
theorem SessionInv.spawn {s : System Lock Cell} (hs : SessionInv s) (ops : List ManagerOp) :
    SessionInv (step s (.spawn (Code.all (ops.map managerMethod)))) where
  sound := by
    refine hs.sound.spawn (Code.ordered_all.2 fun m hm => ?_)
    obtain ⟨op, _, rfl⟩ := List.mem_map.1 hm
    exact (managerMethod_above op).start
  tidy := by
    intro t ht
    rcases List.mem_append.1 ht with ht | ht
    · exact hs.tidy t ht
    · rw [List.mem_singleton.1 ht]
      refine ⟨.nothing, ⟨fun _ h => (by cases h), fun h => (by cases h)⟩, ?_⟩
      refine (keepsTidy_all fun m hm => ?_).tidy .done trivial
      obtain ⟨op, _, rfl⟩ := List.mem_map.1 hm
      exact keepsTidy_managerMethod op
  cells := by
    refine ⟨hs.cells.nodup, fun h => (hs.cells.owed h).imp id fun hclears => ?_⟩
    obtain ⟨t, ht, hc⟩ := hclears
    exact ⟨t, List.mem_append_left _ ht, hc⟩

/-- A thread ticks. -/
theorem SessionInv.tick {s : System Lock Cell} (hs : SessionInv s) (i n : Nat) :
    SessionInv (step s (.tick i n)) := by
  have hsound := hs.sound.tick i n
  rcases hi : s.threads[i]? with _ | t
  · rw [step_tick_none hi]
    exact hs
  have ht : t ∈ s.threads := List.mem_of_getElem? hi
  obtain ⟨k, hk, htidy⟩ := hs.tidy t ht
  -- the clearings owed by this thread and those owed by others
  let others : Prop := ∃ (j : Nat) (u : Thread Lock Cell), j ≠ i ∧ s.threads[j]? = some u ∧
    Clears u.prog
  have hok : CellsOk s.cells (Clears t.prog ∨ others) := by
    refine ⟨hs.cells.nodup, fun h => (hs.cells.owed h).imp id fun hclears => ?_⟩
    obtain ⟨u, hu, hc⟩ := hclears
    obtain ⟨j, hj⟩ := List.getElem?_of_mem hu
    by_cases hji : j = i
    · rw [hji, hi] at hj
      obtain rfl : t = u := Option.some.inj hj
      exact .inl hc
    · exact .inr ⟨j, u, hji, hj, hc⟩
  obtain ⟨hown, hcells⟩ := tick_ok (n := n) (hs.sound.ordered t ht) hk htidy hok
  have hkept : ∀ (j : Nat) (u : Thread Lock Cell), j ≠ i → s.threads[j]? = some u →
      ∀ l ∈ u.held, (Locks.tick s n t).1 l = s.cells l := by
    intro j u hji hj l hl
    have hcell := cell_kept (n := n) hs.sound hj hl hji
    rw [step_tick hi] at hcell
    exact hcell
  rw [step_tick hi] at hsound ⊢
  have hlt : i < s.threads.length := (List.getElem?_eq_some_iff.1 hi).1
  refine ⟨hsound, fun u hu => ?_, hcells.nodup, fun h => (hcells.owed h).imp id fun hclears => ?_⟩
  · obtain ⟨j, hj⟩ := List.getElem?_of_mem hu
    rcases getElem?_set_some hj with ⟨_, rfl⟩ | ⟨hji, hju⟩
    · exact hown
    · obtain ⟨k', hk', htidy'⟩ := hs.tidy u (List.mem_of_getElem? hju)
      exact ⟨k', hk'.of_kept (hkept j u hji hju), htidy'⟩
  · rcases hclears with hc | ⟨j, u, hji, hj, hc⟩
    · exact ⟨_, List.mem_of_getElem? (List.getElem?_set_self hlt), hc⟩
    · refine ⟨u, List.mem_of_getElem? (i := j) ?_, hc⟩
      show (s.threads.set i _)[j]? = some u
      rw [List.getElem?_set_ne (Ne.symm hji)]
      exact hj

/-- The threads that are started run the five calls that write the session
    state. -/
def SessionAct : Act Lock Cell → Prop
  | .spawn c => ∃ ops : List ManagerOp, c = Code.all (ops.map managerMethod)
  | .tick _ _ => True

theorem sessionInv_initial : SessionInv (idle initialCells) where
  sound := idle_sound initialCells
  tidy := fun _ h => absurd h List.not_mem_nil
  cells := ⟨List.nodup_nil, fun h => absurd rfl h⟩

/-- **The session state under any interleaving.**  Any number of threads
    call the five methods that write it, in any order of steps: no
    challenge is ever listed twice; some thread moves unless all are done; and once all are done, a
    recorded error comes with a failure counter that is not zero. -/
theorem session_consistent (acts : List (Act Lock Cell)) (h : ∀ a ∈ acts, SessionAct a) :
    Always step (fun s =>
      List.Nodup (s.cells .activeVerifications) ∧
      ((∃ t ∈ s.threads, t.prog ≠ .done) → ∃ t ∈ s.threads, Moves s t) ∧
      ((∀ t ∈ s.threads, t.prog = .done) → s.cells .lastError ≠ (none : Option String) →
        s.cells .failedAttempts ≠ (0 : UInt32))) (idle initialCells) acts := by
  have hinv : Always step SessionInv (idle initialCells) acts := by
    refine always_of_step (fun s a hs ha => ?_) sessionInv_initial (stepsMeet_of_forall h)
    cases a with
    | spawn c =>
      obtain ⟨ops, rfl⟩ := ha
      exact hs.spawn ops
    | tick i n => exact hs.tick i n
  refine hinv.imp fun s hs => ⟨hs.cells.nodup, exists_moving hs.sound, fun hdone herr => ?_⟩
  refine (hs.cells.owed herr).resolve_right fun hclears => ?_
  obtain ⟨t, ht, hc⟩ := hclears
  rw [hdone t ht] at hc
  exact hc

/-- One thread starts a verification while another reports a failure. -/
def startAndFail : List (Act Lock Cell) :=
  [.spawn (Code.all ([.start "c"].map managerMethod)),
    .spawn (Code.all ([.update "c" (.failed "expired")].map managerMethod))] ++
  -- the failure is recorded between the clearing of the counter and that of the error
  List.replicate 9 (.tick 0 0) ++ List.replicate 9 (.tick 1 0) ++ List.replicate 4 (.tick 0 0)

theorem sessionAct_startAndFail : ∀ a ∈ startAndFail, SessionAct a := by
  unfold startAndFail
  have hticks : ∀ (n i : Nat), ∀ a ∈ List.replicate n (.tick i 0), SessionAct a := by
    intro n i a ha
    rw [(List.mem_replicate.1 ha).2]
    trivial
  rw [List.forall_mem_append, List.forall_mem_append, List.forall_mem_append,
    List.forall_mem_cons, List.forall_mem_singleton]
  exact ⟨⟨⟨⟨⟨_, rfl⟩, ⟨_, rfl⟩⟩, hticks 9 0⟩, hticks 9 1⟩, hticks 4 0⟩

theorem session_consistent_sample :
    Always step (fun s =>
      List.Nodup (s.cells .activeVerifications) ∧
      ((∃ t ∈ s.threads, t.prog ≠ .done) → ∃ t ∈ s.threads, Moves s t) ∧
      ((∀ t ∈ s.threads, t.prog = .done) → s.cells .lastError ≠ (none : Option String) →
        s.cells .failedAttempts ≠ (0 : UInt32))) (idle initialCells) startAndFail :=
  session_consistent startAndFail sessionAct_startAndFail

/-- In turn, the calls record an error with every failure. -/
theorem error_of_failed (ops : List ManagerOp) :
    (run managerStep Ffi.StateManager.new ops).failedAttempts ≠ 0 →
      (run managerStep Ffi.StateManager.new ops).lastError ≠ none := by
  refine (always_of_invariant
    (I := fun m : Ffi.StateManager => m.failedAttempts ≠ 0 → m.lastError ≠ none)
    (fun m op hm => ?_) ops fun h => absurd rfl h).last
  cases op with
  | start id => exact fun h => absurd rfl h
  | update id status =>
    cases status with
    | failed reason => exact fun _ h => by cases h
    | _ => exact hm
  | complete id success =>
    cases success with
    | true => exact fun h => absurd rfl h
    | false => exact hm
  | cancel id => exact hm
  | reset => exact fun h => absurd rfl h

/-- **The converse can fail**: interleaved, the two calls end in a state
    that no order of any calls leads to, a failure without its error. -/
theorem interleaving_loses_error :
    let s := run step (idle initialCells) startAndFail
    s.threads.map Thread.prog = [.done, .done] ∧
      ∀ ops, sessionOf s.cells ≠ run managerStep Ffi.StateManager.new ops := by
  have hfailed : (sessionOf (run step (idle initialCells) startAndFail).cells).failedAttempts = 1 :=
    rfl
  have hlast : (sessionOf (run step (idle initialCells) startAndFail).cells).lastError = none := rfl
  refine ⟨rfl, fun ops h => ?_⟩
  rw [h] at hfailed hlast
  have hne : (run managerStep Ffi.StateManager.new ops).failedAttempts ≠ 0 := by
    rw [hfailed]
    decide
  exact error_of_failed ops hne hlast

end ProviiSdk.Mutexes
