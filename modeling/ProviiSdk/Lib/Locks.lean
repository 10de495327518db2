/-
  ProviiSdk.Lib.Locks — threads that guard shared cells by locks.

  Each lock guards one cell.  The code of a thread is built from guards
  (a lock held until the end of its scope), guards that only try, reads
  and writes of the cells, branches, loops and waits for the outside
  world.  A system is the cells with any number of threads; a step
  starts a thread or lets one tick, and a thread that wants a lock that
  is taken does not move.

  Code is `Ordered` by a rank of the locks when every guard takes a lock
  above all that are held, a cell is touched under its own lock only, and
  no lock is held over a wait but those below the rank of the world.

  Main results:
    * `sound_run` — threads of ordered code stay ordered in every run,
      and no lock is ever held twice.
    * `exists_moving` — unless all threads are done, one of them moves.
    * `advances_wf` — threads that move reach their end: no schedule
      moves forever.
    * `can_finish` — from every state of a run a schedule ends all threads.
    * `run_alone` — a thread that ticks while the others hold no lock ends
      with the result of its program.
    * `doomed_forever` — a thread that must come to a guard of a lock it
      holds itself never ends.
-/

import Mathlib.Data.Finset.Max
import Mathlib.Data.List.Perm.Basic
import Mathlib.Logic.Hydra
import ProviiSdk.Lib.Run

namespace ProviiSdk.Locks

open ProviiSdk.Run

/-! ## §1. Code -/

/-- What a thread has still to do, action by action. -/
inductive Prog (L : Type) (β : L → Type) : Type where
  | done
  | lock (l : L) (next : Prog L β)
  | tryLock (l : L) (next : Bool → Prog L β)
  | unlock (l : L) (next : Prog L β)
  | read (l : L) (next : β l → Prog L β)
  | write (l : L) (f : β l → β l) (next : Prog L β)
  | choose (next : Nat → Prog L β)
  | wait (next : Prog L β)

/-- The text of a method, scope by scope. -/
inductive Code (L : Type) (β : L → Type) : Type where
  | skip
  | seq (c d : Code L β)
  /-- The guard of `l` is held while the body runs. -/
  | guard (l : L) (body : Code L β)
  /-- The same with a guard that is not waited for. -/
  | tryGuard (l : L) (body otherwise : Code L β)
  /-- The value of the cell, read under its guard. -/
  | read (l : L) (body : β l → Code L β)
  | write (l : L) (f : β l → β l)
  /-- A temporary guard: its value is copied, and used when it is gone. -/
  | fetch (l : L) (body : β l → Code L β)
  | choice (c d : Code L β)
  | loop (body : Code L β)
  /-- The answer of the outside world is awaited. -/
  | wait

namespace Code

variable {L : Type} {β : L → Type}

/-- The actions of the code, and then those of `k`. -/
def andThen : Code L β → Prog L β → Prog L β
  | skip, k => k
  | seq c d, k => c.andThen (d.andThen k)
  | guard l body, k => .lock l (body.andThen (.unlock l k))
  | tryGuard l body otherwise, k =>
    .tryLock l fun got => if got then body.andThen (.unlock l k) else otherwise.andThen k
  | read l body, k => .read l fun v => (body v).andThen k
  | write l f, k => .write l f k
  | fetch l body, k => .lock l (.read l fun v => .unlock l ((body v).andThen k))
  | choice c d, k => .choose fun n => if n = 0 then c.andThen k else d.andThen k
  | loop body, k => .choose fun n => (fun rest => body.andThen rest)^[n] k
  | wait, k => .wait k

/-- `c`, and `d` unless `c` returned early. -/
def thenTry (c d : Code L β) : Code L β := c.seq (choice skip d)

/-- The code of one list element after the other. -/
def all (cs : List (Code L β)) : Code L β := cs.foldr seq skip

end Code

/-! ## §2. Systems -/

/-- The locks a thread holds, and what it has still to do. -/
structure Thread (L : Type) (β : L → Type) where
  held : Finset L
  prog : Prog L β

/-- The cells and the threads. -/
structure System (L : Type) (β : L → Type) where
  cells : (l : L) → β l
  threads : List (Thread L β)

/-- A thread starts on a text, or the thread of an index ticks; the
    number says which branch it takes if it comes to one. -/
inductive Act (L : Type) (β : L → Type) : Type where
  | spawn (c : Code L β)
  | tick (i n : Nat)

variable {L : Type} [DecidableEq L] {β : L → Type}

/-- No thread holds `l`. -/
def System.Free (s : System L β) (l : L) : Prop := ∀ t ∈ s.threads, l ∉ t.held

instance (s : System L β) (l : L) : Decidable (s.Free l) :=
  inferInstanceAs (Decidable (∀ t ∈ s.threads, l ∉ t.held))

/-- The cells and the thread after a tick of `t`.  A lock that is taken,
    even by `t` itself, keeps `t` where it is. -/
def tick (s : System L β) (n : Nat) (t : Thread L β) : ((l : L) → β l) × Thread L β :=
  match t.prog with
  | .done => (s.cells, t)
  | .lock l next => if s.Free l then (s.cells, ⟨insert l t.held, next⟩) else (s.cells, t)
  | .tryLock l next =>
    if s.Free l then (s.cells, ⟨insert l t.held, next true⟩) else (s.cells, ⟨t.held, next false⟩)
  | .unlock l next => (s.cells, ⟨t.held.erase l, next⟩)
  | .read l next => (s.cells, ⟨t.held, next (s.cells l)⟩)
  | .write l f next => (Function.update s.cells l (f (s.cells l)), ⟨t.held, next⟩)
  | .choose next => (s.cells, ⟨t.held, next n⟩)
  | .wait next => (s.cells, ⟨t.held, next⟩)

/-- A thread that starts on `c`. -/
def Thread.start (c : Code L β) : Thread L β := ⟨∅, c.andThen .done⟩

/-- One step. -/
def step (s : System L β) : Act L β → System L β
  | .spawn c => { s with threads := s.threads ++ [Thread.start c] }
  | .tick i n =>
    s.threads[i]?.elim s fun t =>
      { cells := (tick s n t).1, threads := s.threads.set i (tick s n t).2 }

theorem step_tick {s : System L β} {i n : Nat} {t : Thread L β} (h : s.threads[i]? = some t) :
    step s (.tick i n) =
      { cells := (tick s n t).1, threads := s.threads.set i (tick s n t).2 } := by
  show s.threads[i]?.elim s _ = _
  rw [h]
  rfl

theorem step_tick_none {s : System L β} {i n : Nat} (h : s.threads[i]? = none) :
    step s (.tick i n) = s := by
  show s.threads[i]?.elim s _ = _
  rw [h]
  rfl

/-! ## §3. Ordered code -/

section Order

variable {O : Type} [LinearOrder O] (rank : L → O) (world : O)

/-- Guards take a lock above all that are held, cells are touched under
    their lock, only locks below the world are held over a wait, and none
    at the end. -/
def Prog.Ordered : Finset L → Prog L β → Prop
  | held, .done => held = ∅
  | held, .lock l next => (∀ m ∈ held, rank m < rank l) ∧ next.Ordered (insert l held)
  | held, .tryLock l next =>
    (l ∉ held → (next true).Ordered (insert l held)) ∧ (next false).Ordered held
  | held, .unlock l next => l ∈ held ∧ next.Ordered (held.erase l)
  | held, .read l next => l ∈ held ∧ ∀ v, (next v).Ordered held
  | held, .write l _ next => l ∈ held ∧ next.Ordered held
  | held, .choose next => ∀ n, (next n).Ordered held
  | held, .wait next => (∀ m ∈ held, rank m < world) ∧ next.Ordered held

/-- The same of code that starts with the locks `held` and gives back
    what it takes. -/
def Code.Ordered : Finset L → Code L β → Prop
  | _, .skip => True
  | held, .seq c d => c.Ordered held ∧ d.Ordered held
  | held, .guard l body => (∀ m ∈ held, rank m < rank l) ∧ body.Ordered (insert l held)
  | held, .tryGuard l body otherwise =>
    (l ∉ held → body.Ordered (insert l held)) ∧ otherwise.Ordered held
  | held, .read l body => l ∈ held ∧ ∀ v, (body v).Ordered held
  | held, .write l _ => l ∈ held
  | held, .fetch l body => (∀ m ∈ held, rank m < rank l) ∧ ∀ v, (body v).Ordered held
  | held, .choice c d => c.Ordered held ∧ d.Ordered held
  | held, .loop body => body.Ordered held
  | held, .wait => ∀ m ∈ held, rank m < world

variable {rank world}

omit [DecidableEq L] in
theorem not_mem_of_above {held : Finset L} {l : L} (h : ∀ m ∈ held, rank m < rank l) :
    l ∉ held := fun hl => lt_irrefl _ (h l hl)

/-- **Ordered code before an ordered rest is ordered**: at the end of a
    scope the locks held are those held before it. -/
theorem Code.ordered_andThen {c : Code L β} {held : Finset L} {k : Prog L β}
    (hc : c.Ordered rank world held) (hk : k.Ordered rank world held) : (c.andThen k).Ordered rank world held := by
  induction c generalizing held k with
  | skip => exact hk
  | seq c d ihc ihd => exact ihc hc.1 (ihd hc.2 hk)
  | guard l body ih =>
    have herase : (insert l held).erase l = held := Finset.erase_insert (not_mem_of_above hc.1)
    refine ⟨hc.1, ih hc.2 ⟨Finset.mem_insert_self l held, ?_⟩⟩
    rw [herase]
    exact hk
  | tryGuard l body otherwise ihb iho =>
    refine ⟨fun hl => ?_, iho hc.2 hk⟩
    refine ihb (hc.1 hl) ⟨Finset.mem_insert_self l held, ?_⟩
    rw [Finset.erase_insert hl]
    exact hk
  | read l body ih => exact ⟨hc.1, fun v => ih v (hc.2 v) hk⟩
  | write l f => exact ⟨hc, hk⟩
  | fetch l body ih =>
    have herase : (insert l held).erase l = held := Finset.erase_insert (not_mem_of_above hc.1)
    refine ⟨hc.1, Finset.mem_insert_self l held, fun v => ⟨Finset.mem_insert_self l held, ?_⟩⟩
    rw [herase]
    exact ih v (hc.2 v) hk
  | choice c d ihc ihd =>
    intro n
    show Prog.Ordered rank world held (if n = 0 then _ else _)
    split
    · exact ihc hc.1 hk
    · exact ihd hc.2 hk
  | loop body ih =>
    intro n
    show Prog.Ordered rank world held ((fun rest => body.andThen rest)^[n] k)
    induction n with
    | zero => exact hk
    | succ n ihn =>
      rw [Function.iterate_succ_apply']
      exact ih hc ihn
  | wait => exact ⟨hc, hk⟩

theorem Code.ordered_all {cs : List (Code L β)} {held : Finset L} :
    (Code.all cs).Ordered rank world held ↔ ∀ c ∈ cs, c.Ordered rank world held := by
  induction cs with
  | nil => exact ⟨fun _ _ h => absurd h List.not_mem_nil, fun _ => trivial⟩
  | cons c cs ih =>
    rw [List.forall_mem_cons, ← ih]
    exact Iff.rfl

/-- Code that is ordered wherever the locks `own` are held, and none that
    is not below `r`. -/
def Code.Above (rank : L → O) (world : O) (own : Finset L) (r : O) (c : Code L β) : Prop :=
  ∀ held : Finset L, own ⊆ held → (∀ m ∈ held, rank m < r) → c.Ordered rank world held

namespace Code

variable {own own' : Finset L} {r q : O} {c d : Code L β} {l : L}

theorem Above.mono (h : c.Above rank world own' q) (hr : r ≤ q) (hown : own' ⊆ own) :
    c.Above rank world own r :=
  fun held hheld hbelow => h held (hown.trans hheld) fun m hm => lt_of_lt_of_le (hbelow m hm) hr

theorem Above.of_le (h : c.Above rank world own q) (hr : r ≤ q) : c.Above rank world own r :=
  h.mono hr (Finset.Subset.refl own)

/-- What needs no lock and comes above none is ordered for a new thread. -/
theorem Above.start (h : c.Above rank world ∅ r) : c.Ordered rank world ∅ :=
  h ∅ (Finset.Subset.refl ∅) fun m hm => absurd hm (Finset.notMem_empty m)

theorem above_skip : (skip : Code L β).Above rank world own r := fun _ _ _ => trivial

theorem above_seq (hc : c.Above rank world own r) (hd : d.Above rank world own r) :
    (c.seq d).Above rank world own r := fun held ho h => ⟨hc held ho h, hd held ho h⟩

theorem above_choice (hc : c.Above rank world own r) (hd : d.Above rank world own r) :
    (c.choice d).Above rank world own r := fun held ho h => ⟨hc held ho h, hd held ho h⟩

theorem above_thenTry (hc : c.Above rank world own r) (hd : d.Above rank world own r) :
    (c.thenTry d).Above rank world own r := above_seq hc (above_choice above_skip hd)

theorem above_loop (hc : c.Above rank world own r) : (loop c).Above rank world own r :=
  fun held ho h => hc held ho h

theorem above_all {cs : List (Code L β)} (h : ∀ c ∈ cs, c.Above rank world own r) :
    (all cs).Above rank world own r :=
  fun held ho hbelow => ordered_all.2 fun c hc => h c hc held ho hbelow

/-- The locks below `q` after one more of them is taken. -/
theorem below_insert {held : Finset L} (hbelow : ∀ m ∈ held, rank m < r) (hr : r ≤ q)
    (hl : rank l < q) : ∀ m ∈ insert l held, rank m < q := by
  intro m hm
  rcases Finset.mem_insert.1 hm with rfl | hm
  · exact hl
  · exact lt_of_lt_of_le (hbelow m hm) hr

/-- A guard of a lock not below `r`: its body comes above the lock. -/
theorem above_guard (hl : r ≤ rank l) (hl' : rank l < q)
    (hc : c.Above rank world (insert l own) q) : (guard l c).Above rank world own r := by
  intro held ho hbelow
  refine ⟨fun m hm => lt_of_lt_of_le (hbelow m hm) hl, hc _ (Finset.insert_subset_insert l ho) ?_⟩
  exact below_insert hbelow (hl.trans hl'.le) hl'

/-- A guard that only tries may be of any lock below its body. -/
theorem above_tryGuard (hr : r ≤ q) (hl : rank l < q)
    (hc : c.Above rank world (insert l own) q) (hd : d.Above rank world own r) :
    (tryGuard l c d).Above rank world own r := by
  intro held ho hbelow
  refine ⟨fun _ => hc _ (Finset.insert_subset_insert l ho) ?_, hd held ho hbelow⟩
  exact below_insert hbelow hr hl

theorem above_read {body : β l → Code L β} (hl : l ∈ own)
    (hc : ∀ v, (body v).Above rank world own r) : (read l body).Above rank world own r :=
  fun held ho hbelow => ⟨ho hl, fun v => hc v held ho hbelow⟩

theorem above_write {f : β l → β l} (hl : l ∈ own) : (write l f).Above rank world own r :=
  fun _ ho _ => ho hl

theorem above_fetch {body : β l → Code L β} (hl : r ≤ rank l)
    (hc : ∀ v, (body v).Above rank world own r) : (fetch l body).Above rank world own r :=
  fun held ho hbelow =>
    ⟨fun m hm => lt_of_lt_of_le (hbelow m hm) hl, fun v => hc v held ho hbelow⟩

theorem above_wait (hr : r ≤ world) : (wait : Code L β).Above rank world own r :=
  fun _ _ hbelow m hm => lt_of_lt_of_le (hbelow m hm) hr

end Code

/-- A thread's rest after its tick is ordered by what it then holds. -/
theorem tick_ordered {s : System L β} {n : Nat} {t : Thread L β} (ht : t ∈ s.threads)
    (h : t.prog.Ordered rank world t.held) :
    (tick s n t).2.prog.Ordered rank world (tick s n t).2.held := by
  obtain ⟨held, prog⟩ := t
  cases prog with
  | done => exact h
  | lock l next =>
    simp only [tick]
    split
    · exact h.2
    · exact h
  | tryLock l next =>
    simp only [tick]
    split
    · next hfree => exact h.1 (hfree _ ht)
    · exact h.2
  | unlock l next => exact h.2
  | read l next => exact h.2 _
  | write l f next => exact h.2
  | choose next => exact h n
  | wait next => exact h.2

omit [LinearOrder O] in
/-- A tick takes free locks only. -/
theorem tick_held {s : System L β} {n : Nat} {t : Thread L β} {l : L}
    (h : l ∈ (tick s n t).2.held) : l ∈ t.held ∨ s.Free l := by
  obtain ⟨held, prog⟩ := t
  cases prog with
  | lock m next =>
    simp only [tick] at h
    split at h
    · next hfree =>
      rcases Finset.mem_insert.1 h with rfl | h
      · exact .inr hfree
      · exact .inl h
    · exact .inl h
  | tryLock m next =>
    simp only [tick] at h
    split at h
    · next hfree =>
      rcases Finset.mem_insert.1 h with rfl | h
      · exact .inr hfree
      · exact .inl h
    · exact .inl h
  | unlock m next => exact .inl (Finset.mem_of_mem_erase h)
  | done => exact .inl h
  | read m next => exact .inl h
  | write m f next => exact .inl h
  | choose next => exact .inl h
  | wait next => exact .inl h

/-! ## §4. Sound systems -/

variable (rank world)

/-- Every thread runs ordered code, and no two hold one lock. -/
structure Sound (s : System L β) : Prop where
  ordered : ∀ t ∈ s.threads, t.prog.Ordered rank world t.held
  apart : ∀ (i j : Nat) (t u : Thread L β), s.threads[i]? = some t → s.threads[j]? = some u →
    i ≠ j → Disjoint t.held u.held

variable {rank world}

omit [LinearOrder O] [DecidableEq L] in
/-- The threads after one has started: those from before, and the new one last. -/
theorem getElem?_concat_some {ts : List (Thread L β)} {new t : Thread L β} {i : Nat}
    (h : (ts ++ [new])[i]? = some t) : ts[i]? = some t ∨ (i = ts.length ∧ t = new) := by
  rw [List.getElem?_append] at h
  split at h
  · exact .inl h
  · next hi =>
    rw [List.getElem?_singleton] at h
    split at h
    · exact .inr ⟨by omega, (Option.some.inj h).symm⟩
    · exact absurd h (by simp)

omit [DecidableEq L] in
/-- The threads after one has ticked. -/
theorem getElem?_set_some {ts : List (Thread L β)} {new t : Thread L β} {i j : Nat}
    (h : (ts.set i new)[j]? = some t) : (j = i ∧ t = new) ∨ (j ≠ i ∧ ts[j]? = some t) := by
  rw [List.getElem?_set] at h
  split at h
  · next hij =>
    split at h
    · exact .inl ⟨hij.symm, (Option.some.inj h).symm⟩
    · exact absurd h (by simp)
  · next hij => exact .inr ⟨fun e => hij e.symm, h⟩

/-- Ordered code is started. -/
theorem Sound.spawn {s : System L β} (hs : Sound rank world s) {c : Code L β} (hc : c.Ordered rank world ∅) :
    Sound rank world (step s (.spawn c)) where
  ordered := by
    intro t ht
    rcases List.mem_append.1 ht with ht | ht
    · exact hs.ordered t ht
    · rw [List.mem_singleton.1 ht]
      exact Code.ordered_andThen hc rfl
  apart := by
    intro i j t u hi hj hij
    rcases getElem?_concat_some hi with hi | ⟨hi, rfl⟩
    · rcases getElem?_concat_some hj with hj | ⟨_, rfl⟩
      · exact hs.apart i j t u hi hj hij
      · exact Finset.disjoint_empty_right _
    · exact Finset.disjoint_empty_left _

/-- A thread ticks. -/
theorem Sound.tick {s : System L β} (hs : Sound rank world s) (i n : Nat) :
    Sound rank world (step s (.tick i n)) := by
  rcases hi : s.threads[i]? with _ | t
  · rw [step_tick_none hi]
    exact hs
  have ht : t ∈ s.threads := List.mem_of_getElem? hi
  -- the locks of another thread are not among those of the ticking one
  have hother : ∀ (j : Nat) (u : Thread L β), j ≠ i → s.threads[j]? = some u →
      Disjoint (Locks.tick s n t).2.held u.held := by
    intro j u hji hj
    rw [Finset.disjoint_left]
    intro l hl hlu
    rcases tick_held hl with hl | hfree
    · exact Finset.disjoint_left.1 (hs.apart i j t u hi hj (Ne.symm hji)) hl hlu
    · exact hfree u (List.mem_of_getElem? hj) hlu
  rw [step_tick hi]
  refine ⟨fun u hu => ?_, fun j k u v hj hk hjk => ?_⟩
  · rcases List.mem_or_eq_of_mem_set hu with hu | rfl
    · exact hs.ordered u hu
    · exact tick_ordered ht (hs.ordered t ht)
  · rcases getElem?_set_some hj with ⟨hji, rfl⟩ | ⟨hji, hu⟩
    · rcases getElem?_set_some hk with ⟨hki, rfl⟩ | ⟨hki, hv⟩
      · exact absurd (hji.trans hki.symm) hjk
      · exact hother k v hki hv
    · rcases getElem?_set_some hk with ⟨hki, rfl⟩ | ⟨hki, hv⟩
      · exact (hother j u hji hu).symm
      · exact hs.apart j k u v hu hv hjk

/-- The texts that are started are ordered. -/
def Act.Ordered (rank : L → O) (world : O) : Act L β → Prop
  | .spawn c => c.Ordered rank world ∅
  | .tick _ _ => True

/-- **Run rule**: runs that start ordered code only stay sound. -/
theorem sound_run {s : System L β} {acts : List (Act L β)} (hs : Sound rank world s)
    (h : StepsMeet step (fun _ a => a.Ordered rank world) s acts) : Always step (Sound rank world) s acts := by
  refine always_of_step (fun s a hs ha => ?_) hs h
  cases a with
  | spawn c => exact hs.spawn ha
  | tick i n => exact hs.tick i n

/-- A thread that waits for the outside world holds locks below it only. -/
theorem Sound.waits {s : System L β} (hs : Sound rank world s) {t : Thread L β}
    (ht : t ∈ s.threads) {next : Prog L β} (h : t.prog = .wait next) :
    ∀ l ∈ t.held, rank l < world := by
  have hord := hs.ordered t ht
  rw [h] at hord
  exact hord.1

/-! ## §5. Progress -/

/-- The lock a thread is about to take. -/
def Prog.wants : Prog L β → Option L
  | .lock l _ => some l
  | _ => none

omit [DecidableEq L] in
theorem Prog.wants_eq_some {p : Prog L β} {l : L} :
    p.wants = some l ↔ ∃ next, p = .lock l next := by
  cases p <;> simp [wants]

/-- The thread has something to do, and the lock it wants is free. -/
def Moves (s : System L β) (t : Thread L β) : Prop :=
  t.prog ≠ .done ∧ ∀ l ∈ t.prog.wants, s.Free l

/-- **No deadlock**: unless all threads are done, one of them moves.
    Were all waiting, the one that wants the lock of the highest rank
    would wait for a thread that wants a higher one. -/
theorem exists_moving {s : System L β} (hs : Sound rank world s)
    (hrest : ∃ t ∈ s.threads, t.prog ≠ .done) : ∃ t ∈ s.threads, Moves s t := by
  by_contra hnone
  have hstuck : ∀ t ∈ s.threads, t.prog ≠ .done → ∃ l ∈ t.prog.wants, ¬ s.Free l := by
    intro t ht hdone
    by_contra hall
    exact hnone ⟨t, ht, hdone, fun l hl => by_contra fun hfree => hall ⟨l, hl, hfree⟩⟩
  -- the highest of the locks that are waited for
  let wanted : Finset L := (s.threads.filterMap fun t => t.prog.wants).toFinset
  have hmem : ∀ l, l ∈ wanted ↔ ∃ t ∈ s.threads, t.prog.wants = some l := by
    intro l
    rw [List.mem_toFinset, List.mem_filterMap]
  have hsome : wanted.Nonempty := by
    obtain ⟨t, ht, hdone⟩ := hrest
    obtain ⟨l, hl, _⟩ := hstuck t ht hdone
    exact ⟨l, (hmem l).2 ⟨t, ht, hl⟩⟩
  obtain ⟨l, hl, hmax⟩ := wanted.exists_max_image rank hsome
  obtain ⟨t, ht, htl⟩ := (hmem l).1 hl
  -- it is held, and its holder waits for a higher one
  have htaken : ¬ s.Free l := by
    have hdone : t.prog ≠ .done := by
      obtain ⟨next, hnext⟩ := Prog.wants_eq_some.1 htl
      rw [hnext]
      simp
    obtain ⟨m, hm, htaken⟩ := hstuck t ht hdone
    have hlm : l = m := Option.some.inj (htl.symm.trans hm)
    rw [hlm]
    exact htaken
  obtain ⟨u, hu, hlu⟩ : ∃ u ∈ s.threads, l ∈ u.held := by
    by_contra hfree
    exact htaken fun u hu hlu => hfree ⟨u, hu, hlu⟩
  have hord := hs.ordered u hu
  have hdone : u.prog ≠ .done := by
    intro h
    rw [h] at hord
    have hheld : u.held = ∅ := hord
    rw [hheld] at hlu
    exact absurd hlu (Finset.notMem_empty l)
  obtain ⟨m, hm, _⟩ := hstuck u hu hdone
  have habove : rank l < rank m := by
    obtain ⟨next, hnext⟩ := Prog.wants_eq_some.1 hm
    rw [hnext] at hord
    exact hord.1 l hlu
  exact absurd habove (not_lt.2 (hmax m ((hmem m).2 ⟨u, hu, hm⟩)))

/-- `p` is what may be left of `q` after its first action. -/
inductive Prog.Next : Prog L β → Prog L β → Prop where
  | lock (l : L) (next : Prog L β) : Next next (.lock l next)
  | tryLock (l : L) (next : Bool → Prog L β) (got : Bool) : Next (next got) (.tryLock l next)
  | unlock (l : L) (next : Prog L β) : Next next (.unlock l next)
  | read (l : L) (next : β l → Prog L β) (v : β l) : Next (next v) (.read l next)
  | write (l : L) (f : β l → β l) (next : Prog L β) : Next next (.write l f next)
  | choose (next : Nat → Prog L β) (n : Nat) : Next (next n) (.choose next)
  | wait (next : Prog L β) : Next next (.wait next)

omit [DecidableEq L] in
/-- Every program ends. -/
theorem Prog.next_wf : WellFounded (Prog.Next (L := L) (β := β)) := by
  refine ⟨fun p => ?_⟩
  induction p with
  | done => exact ⟨_, fun q h => by cases h⟩
  | lock l next ih => exact ⟨_, fun q h => by cases h; exact ih⟩
  | tryLock l next ih => exact ⟨_, fun q h => by cases h; exact ih _⟩
  | unlock l next ih => exact ⟨_, fun q h => by cases h; exact ih⟩
  | read l next ih => exact ⟨_, fun q h => by cases h; exact ih _⟩
  | write l f next ih => exact ⟨_, fun q h => by cases h; exact ih⟩
  | choose next ih => exact ⟨_, fun q h => by cases h; exact ih _⟩
  | wait next ih => exact ⟨_, fun q h => by cases h; exact ih⟩

/-- A thread that moves has one action less to do. -/
theorem tick_next {s : System L β} {n : Nat} {t : Thread L β} (h : Moves s t) :
    (tick s n t).2.prog.Next t.prog := by
  obtain ⟨held, prog⟩ := t
  obtain ⟨hdone, hfree⟩ := h
  cases prog with
  | done => exact absurd rfl hdone
  | lock l next =>
    have hl : s.Free l := hfree l rfl
    simp only [tick, if_pos hl]
    exact .lock l next
  | tryLock l next =>
    simp only [tick]
    split
    · exact .tryLock l next true
    · exact .tryLock l next false
  | unlock l next => exact .unlock l next
  | read l next => exact .read l next _
  | write l f next => exact .write l f next
  | choose next => exact .choose next n
  | wait next => exact .wait next

/-- `s'` is `s` after a thread has moved. -/
def Advances (s' s : System L β) : Prop :=
  ∃ (i n : Nat) (t : Thread L β), s.threads[i]? = some t ∧ Moves s t ∧ s' = step s (.tick i n)

/-- What all threads have still to do. -/
def System.rest (s : System L β) : Multiset (Prog L β) :=
  Multiset.ofList (s.threads.map Thread.prog)

/-- A move shortens the rest of one thread, and leaves those of the others. -/
theorem rest_of_advances {s' s : System L β} (h : Advances s' s) :
    Relation.CutExpand Prog.Next s'.rest s.rest := by
  obtain ⟨i, n, t, hi, hmoves, rfl⟩ := h
  obtain ⟨hlt, rfl⟩ := List.getElem?_eq_some_iff.1 hi
  let others : Multiset (Prog L β) := ↑((s.threads.eraseIdx i).map Thread.prog)
  have hbefore : s.rest = {s.threads[i].prog} + others :=
    (Multiset.coe_eq_coe.2 ((List.getElem_cons_eraseIdx_perm hlt).map Thread.prog)).symm
  have hafter : (step s (.tick i n)).rest = {(tick s n s.threads[i]).2.prog} + others := by
    rw [step_tick hi]
    exact Multiset.coe_eq_coe.2 ((List.set_perm_cons_eraseIdx hlt _).map Thread.prog)
  rw [hbefore, hafter]
  exact Relation.cutExpand_single_add (tick_next hmoves) others

/-- **No schedule moves forever.** -/
theorem advances_wf : WellFounded (Advances (L := L) (β := β)) :=
  Subrelation.wf (fun h => rest_of_advances h) (InvImage.wf System.rest Prog.next_wf.cutExpand)

/-- **Every state leads to the end**: some schedule, of moves only, ends all threads. -/
theorem can_finish {s : System L β} (hs : Sound rank world s) :
    ∃ ticks : List (Nat × Nat), ∀ t ∈ (run step s (ticks.map fun p => .tick p.1 p.2)).threads,
      t.prog = .done := by
  revert hs
  apply advances_wf.induction s
  intro s ih hs
  by_cases hrest : ∃ t ∈ s.threads, t.prog ≠ .done
  · obtain ⟨t, ht, hmoves⟩ := exists_moving hs hrest
    obtain ⟨i, hi⟩ := List.getElem?_of_mem ht
    obtain ⟨ticks, hend⟩ := ih _ ⟨i, 0, t, hi, hmoves, rfl⟩ (hs.tick i 0)
    exact ⟨(i, 0) :: ticks, hend⟩
  · exact ⟨[], fun t ht => by_contra fun h => hrest ⟨t, ht, h⟩⟩

/-! ## §6. Cells under a lock, and threads alone -/

/-- A tick changes no cell but those whose lock its thread holds. -/
theorem tick_cells {s : System L β} {n : Nat} {t : Thread L β}
    (h : t.prog.Ordered rank world t.held) {l : L} (hl : l ∉ t.held) : (tick s n t).1 l = s.cells l := by
  obtain ⟨held, prog⟩ := t
  cases prog with
  | write m f next =>
    have hne : l ≠ m := fun e => hl (e ▸ h.1)
    exact Function.update_of_ne hne _ _
  | lock m next =>
    simp only [tick]
    split <;> rfl
  | tryLock m next =>
    simp only [tick]
    split <;> rfl
  | done => rfl
  | unlock m next => rfl
  | read m next => rfl
  | choose next => rfl
  | wait next => rfl

/-- **Mutual exclusion**: while a thread holds a lock, no tick of another
    thread changes the cell. -/
theorem cell_kept {s : System L β} (hs : Sound rank world s) {i j n : Nat} {t : Thread L β} {l : L}
    (hi : s.threads[i]? = some t) (hl : l ∈ t.held) (hij : i ≠ j) :
    (step s (.tick j n)).cells l = s.cells l := by
  rcases hj : s.threads[j]? with _ | u
  · rw [step_tick_none hj]
  · rw [step_tick hj]
    refine tick_cells (hs.ordered u (List.mem_of_getElem? hj)) fun hlu => ?_
    exact Finset.disjoint_left.1 (hs.apart i j t u hi hj hij) hl hlu

/-- The cells after the program, run with nothing in between and every
    choice taken the first way. -/
def Prog.result : Finset L → ((l : L) → β l) → Prog L β → (l : L) → β l
  | _, cells, .done => cells
  | held, cells, .lock l next => next.result (insert l held) cells
  | held, cells, .tryLock l next =>
    if l ∈ held then (next false).result held cells else (next true).result (insert l held) cells
  | held, cells, .unlock l next => next.result (held.erase l) cells
  | held, cells, .read l next => (next (cells l)).result held cells
  | held, cells, .write l f next => next.result held (Function.update cells l (f (cells l)))
  | held, cells, .choose next => (next 0).result held cells
  | held, cells, .wait next => next.result held cells

/-- The same of code. -/
def Code.result : Finset L → ((l : L) → β l) → Code L β → (l : L) → β l
  | _, cells, .skip => cells
  | held, cells, .seq c d => d.result held (c.result held cells)
  | held, cells, .guard l body => body.result (insert l held) cells
  | held, cells, .tryGuard l body otherwise =>
    if l ∈ held then otherwise.result held cells else body.result (insert l held) cells
  | held, cells, .read l body => (body (cells l)).result held cells
  | _, cells, .write l f => Function.update cells l (f (cells l))
  | held, cells, .fetch l body => (body (cells l)).result held cells
  | held, cells, .choice c _ => c.result held cells
  | _, cells, .loop _ => cells
  | _, cells, .wait => cells

theorem Code.result_andThen {c : Code L β} {held : Finset L} {k : Prog L β}
    (hc : c.Ordered rank world held) (cells : (l : L) → β l) :
    (c.andThen k).result held cells = k.result held (c.result held cells) := by
  induction c generalizing held k cells with
  | skip => rfl
  | seq c d ihc ihd =>
    show (c.andThen (d.andThen k)).result held cells = _
    rw [ihc hc.1, ihd hc.2]
    rfl
  | guard l body ih =>
    have herase : (insert l held).erase l = held := Finset.erase_insert (not_mem_of_above hc.1)
    show (body.andThen (.unlock l k)).result (insert l held) cells = _
    rw [ih hc.2]
    show k.result ((insert l held).erase l) _ = _
    rw [herase]
    rfl
  | tryGuard l body otherwise ihb iho =>
    show (if l ∈ held then (otherwise.andThen k).result held cells
      else (body.andThen (.unlock l k)).result (insert l held) cells) =
      k.result held (if l ∈ held then _ else _)
    split
    · exact iho hc.2 cells
    · next hl =>
      rw [ihb (hc.1 hl)]
      show k.result ((insert l held).erase l) _ = _
      rw [Finset.erase_insert hl]
  | read l body ih => exact ih _ (hc.2 _) cells
  | write l f => rfl
  | fetch l body ih =>
    have herase : (insert l held).erase l = held := Finset.erase_insert (not_mem_of_above hc.1)
    show ((body (cells l)).andThen k).result ((insert l held).erase l) cells = _
    rw [herase, ih _ (hc.2 _)]
    rfl
  | choice c d ihc ihd => exact ihc hc.1 cells
  | loop body ih => rfl
  | wait => rfl

omit [LinearOrder O] in
/-- One tick, and the run from the state after it. -/
theorem exists_run_of_tick {s : System L β} {i : Nat} {t u e : Thread L β}
    {cells r : (l : L) → β l} (hi : s.threads[i]? = some t) (htick : tick s 0 t = (cells, u))
    (h : ∃ n, run step { cells := cells, threads := s.threads.set i u }
        (List.replicate n (.tick i 0)) = { cells := r, threads := (s.threads.set i u).set i e }) :
    ∃ n, run step s (List.replicate n (.tick i 0)) =
      { cells := r, threads := s.threads.set i e } := by
  obtain ⟨n, hn⟩ := h
  refine ⟨n + 1, ?_⟩
  rw [List.replicate_succ, run_cons, step_tick hi, htick, hn, List.set_set]

/-- **Alone**: a thread that ticks while the others hold no lock ends with
    the result of its program. -/
theorem run_alone {i : Nat} (prog : Prog L β) : ∀ {s : System L β} {held : Finset L},
    s.threads[i]? = some ⟨held, prog⟩ → prog.Ordered rank world held →
    (∀ (j : Nat) (u : Thread L β), j ≠ i → s.threads[j]? = some u → u.held = ∅) →
    ∃ n, run step s (List.replicate n (.tick i 0)) =
      { cells := prog.result held s.cells, threads := s.threads.set i ⟨∅, .done⟩ } := by
  -- the thread and the others after a tick
  have hself : ∀ {s : System L β} {t : Thread L β} (u : Thread L β), s.threads[i]? = some t →
      (s.threads.set i u)[i]? = some u := by
    intro s t u hi
    exact List.getElem?_set_self (List.getElem?_eq_some_iff.1 hi).1
  have hrest : ∀ {s : System L β} (v : Thread L β),
      (∀ (j : Nat) (u : Thread L β), j ≠ i → s.threads[j]? = some u → u.held = ∅) →
      ∀ (j : Nat) (u : Thread L β), j ≠ i → (s.threads.set i v)[j]? = some u → u.held = ∅ := by
    intro s v hothers j u hj hu
    rw [List.getElem?_set_ne (Ne.symm hj)] at hu
    exact hothers j u hj hu
  -- what the thread itself does not hold is free
  have hfree : ∀ {s : System L β} {t : Thread L β} {l : L}, s.threads[i]? = some t → l ∉ t.held →
      (∀ (j : Nat) (u : Thread L β), j ≠ i → s.threads[j]? = some u → u.held = ∅) →
      s.Free l := by
    intro s t l hi hl hothers u hu
    obtain ⟨j, hj⟩ := List.getElem?_of_mem hu
    by_cases hji : j = i
    · rw [hji, hi] at hj
      rw [← Option.some.inj hj]
      exact hl
    · rw [hothers j u hji hj]
      exact Finset.notMem_empty l
  induction prog with
  | done =>
    intro s held hi hord hothers
    have hheld : held = ∅ := hord
    refine ⟨0, ?_⟩
    rw [hheld] at hi
    obtain ⟨hlt, hget⟩ := List.getElem?_eq_some_iff.1 hi
    rw [← hget, List.set_getElem_self]
    rfl
  | lock l next ih =>
    intro s held hi hord hothers
    have hl : s.Free l := hfree hi (not_mem_of_above hord.1) hothers
    refine exists_run_of_tick hi (if_pos hl) ?_
    exact ih (hself _ hi) hord.2 (hrest _ hothers)
  | tryLock l next ih =>
    intro s held hi hord hothers
    by_cases hl : l ∈ held
    · have htaken : ¬ s.Free l := fun h => h _ (List.mem_of_getElem? hi) hl
      refine exists_run_of_tick hi (if_neg htaken) ?_
      rw [Prog.result, if_pos hl]
      exact ih false (hself _ hi) hord.2 (hrest _ hothers)
    · refine exists_run_of_tick hi (if_pos (hfree hi hl hothers)) ?_
      rw [Prog.result, if_neg hl]
      exact ih true (hself _ hi) (hord.1 hl) (hrest _ hothers)
  | unlock l next ih =>
    intro s held hi hord hothers
    exact exists_run_of_tick hi rfl (ih (hself _ hi) hord.2 (hrest _ hothers))
  | read l next ih =>
    intro s held hi hord hothers
    exact exists_run_of_tick hi rfl (ih _ (hself _ hi) (hord.2 _) (hrest _ hothers))
  | write l f next ih =>
    intro s held hi hord hothers
    exact exists_run_of_tick hi rfl (ih (hself _ hi) hord.2 (hrest _ hothers))
  | choose next ih =>
    intro s held hi hord hothers
    exact exists_run_of_tick hi rfl (ih 0 (hself _ hi) (hord 0) (hrest _ hothers))
  | wait next ih =>
    intro s held hi hord hothers
    exact exists_run_of_tick hi rfl (ih (hself _ hi) hord.2 (hrest _ hothers))

end Order

/-! ## §7. Threads that block themselves -/

/-- Every way through the program comes to a guard of a lock that is then
    held. -/
def Prog.Doomed : Finset L → Prog L β → Prop
  | _, .done => False
  | held, .lock l next => l ∈ held ∨ next.Doomed (insert l held)
  | held, .tryLock l next =>
    (l ∉ held → (next true).Doomed (insert l held)) ∧ (next false).Doomed held
  | held, .unlock l next => next.Doomed (held.erase l)
  | held, .read _ next => ∀ v, (next v).Doomed held
  | held, .write _ _ next => next.Doomed held
  | held, .choose next => ∀ n, (next n).Doomed held
  | held, .wait next => next.Doomed held

/-- The same of code. -/
def Code.Doomed : Finset L → Code L β → Prop
  | _, .skip => False
  | held, .seq c d => c.Doomed held ∨ d.Doomed held
  | held, .guard l body => l ∈ held ∨ body.Doomed (insert l held)
  | held, .tryGuard l body otherwise =>
    (l ∉ held → body.Doomed (insert l held)) ∧ otherwise.Doomed held
  | held, .read _ body => ∀ v, (body v).Doomed held
  | _, .write _ _ => False
  | held, .fetch l body => l ∈ held ∨ ∀ v, (body v).Doomed held
  | held, .choice c d => c.Doomed held ∧ d.Doomed held
  | _, .loop _ => False
  | _, .wait => False

theorem Code.doomed_andThen {c : Code L β} {held : Finset L} {k : Prog L β}
    (h : c.Doomed held ∨ k.Doomed held) : (c.andThen k).Doomed held := by
  induction c generalizing held k with
  | skip => exact h.resolve_left id
  | seq c d ihc ihd =>
    refine ihc ?_
    rcases h with (hc | hd) | hk
    · exact .inl hc
    · exact .inr (ihd (.inl hd))
    · exact .inr (ihd (.inr hk))
  | guard l body ih =>
    by_cases hl : l ∈ held
    · exact .inl hl
    · refine .inr (ih ?_)
      rcases h with (hl' | hbody) | hk
      · exact absurd hl' hl
      · exact .inl hbody
      · right
        show k.Doomed ((insert l held).erase l)
        rw [Finset.erase_insert hl]
        exact hk
  | tryGuard l body otherwise ihb iho =>
    refine ⟨fun hl => ihb ?_, iho (h.imp And.right id)⟩
    rcases h with ⟨hbody, _⟩ | hk
    · exact .inl (hbody hl)
    · right
      show k.Doomed ((insert l held).erase l)
      rw [Finset.erase_insert hl]
      exact hk
  | read l body ih => exact fun v => ih v (h.imp (fun hbody => hbody v) id)
  | write l f => exact h.resolve_left id
  | fetch l body ih =>
    by_cases hl : l ∈ held
    · exact .inl hl
    · refine .inr fun v => ?_
      show Prog.Doomed ((insert l held).erase l) _
      rw [Finset.erase_insert hl]
      exact ih v (h.imp (fun hbody => hbody.resolve_left hl v) id)
  | choice c d ihc ihd =>
    intro n
    show Prog.Doomed held (if n = 0 then _ else _)
    split
    · exact ihc (h.imp And.left id)
    · exact ihd (h.imp And.right id)
  | loop body ih =>
    intro n
    have hk : k.Doomed held := h.resolve_left id
    induction n with
    | zero => exact hk
    | succ n ihn =>
      show Prog.Doomed held ((fun rest => body.andThen rest)^[n + 1] k)
      rw [Function.iterate_succ_apply']
      exact ih (.inr ihn)
  | wait => exact h.resolve_left id

/-- What is doomed stays so. -/
theorem tick_doomed {s : System L β} {n : Nat} {t : Thread L β} (ht : t ∈ s.threads)
    (h : t.prog.Doomed t.held) : (tick s n t).2.prog.Doomed (tick s n t).2.held := by
  obtain ⟨held, prog⟩ := t
  cases prog with
  | done => exact h
  | lock l next =>
    simp only [tick]
    split
    · next hfree => exact h.resolve_left fun hl => hfree _ ht hl
    · exact h
  | tryLock l next =>
    simp only [tick]
    split
    · next hfree => exact h.1 fun hl => hfree _ ht hl
    · exact h.2
  | unlock l next => exact h
  | read l next => exact h _
  | write l f next => exact h
  | choose next => exact h n
  | wait next => exact h

/-- **Blocked by itself**: a doomed thread ends in no run, whatever the
    other threads do and in whatever order they tick. -/
theorem doomed_forever {s : System L β} {i : Nat} {t : Thread L β} (hi : s.threads[i]? = some t)
    (h : t.prog.Doomed t.held) (acts : List (Act L β)) :
    Always step (fun s => ∃ u, s.threads[i]? = some u ∧ u.prog.Doomed u.held) s acts := by
  refine always_of_invariant (fun s a hs => ?_) acts ⟨t, hi, h⟩
  obtain ⟨u, hu, hdoomed⟩ := hs
  have hlt : i < s.threads.length := (List.getElem?_eq_some_iff.1 hu).1
  cases a with
  | spawn c =>
    refine ⟨u, ?_, hdoomed⟩
    show (s.threads ++ _)[i]? = some u
    rw [List.getElem?_append_left hlt]
    exact hu
  | tick j n =>
    rcases hj : s.threads[j]? with _ | v
    · rw [step_tick_none hj]
      exact ⟨u, hu, hdoomed⟩
    rw [step_tick hj]
    by_cases hij : j = i
    · subst hij
      obtain rfl : v = u := Option.some.inj (hj.symm.trans hu)
      exact ⟨_, List.getElem?_set_self hlt, tick_doomed (List.mem_of_getElem? hu) hdoomed⟩
    · refine ⟨u, ?_, hdoomed⟩
      show (s.threads.set j _)[i]? = some u
      rw [List.getElem?_set_ne hij]
      exact hu

/-- A doomed program is not at its end. -/
theorem Prog.Doomed.ne_done {held : Finset L} {p : Prog L β} (h : p.Doomed held) : p ≠ .done := by
  intro e
  rw [e] at h
  exact h

end ProviiSdk.Locks
