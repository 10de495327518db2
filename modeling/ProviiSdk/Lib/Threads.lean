/-
  ProviiSdk.Lib.Threads — threads over one shared state.

  Any number of threads, each with a state of its own, share one state.
  An atomic step lets one thread tick: it changes the shared state and
  its own.  A run follows a schedule, the list of the threads that tick.

  Main results:
    * `forall_step_iff` — a property of every thread holds after a step
      exactly when the thread that ticked has it and all others do.
    * `run_replicate` — a thread that ticks alone computes the iteration
      of its tick, and no other thread moves.
-/

import Mathlib.Logic.Function.Iterate
import ProviiSdk.Lib.Run

namespace ProviiSdk.Threads

open ProviiSdk.Run

variable {ι σ τ : Type} [DecidableEq ι]

/-- The shared state and the state of every thread. -/
structure System (ι σ τ : Type) where
  shared : σ
  thread : ι → τ

variable (tick : σ → τ → σ × τ)

/-- Thread `i` ticks. -/
def step (s : System ι σ τ) (i : ι) : System ι σ τ :=
  { shared := (tick s.shared (s.thread i)).1
    thread := Function.update s.thread i (tick s.shared (s.thread i)).2 }

variable (s : System ι σ τ) (i : ι)

@[simp] theorem step_shared : (step tick s i).shared = (tick s.shared (s.thread i)).1 := rfl

@[simp] theorem step_thread_self :
    (step tick s i).thread i = (tick s.shared (s.thread i)).2 :=
  Function.update_self i _ _

theorem step_thread_of_ne {j : ι} (h : j ≠ i) : (step tick s i).thread j = s.thread j :=
  Function.update_of_ne h _ _

/-- A property of every thread after a step, thread by thread. -/
theorem forall_step_iff (P : ι → τ → Prop) :
    (∀ j, P j ((step tick s i).thread j)) ↔
      P i (tick s.shared (s.thread i)).2 ∧ ∀ j, j ≠ i → P j (s.thread j) := by
  constructor
  · intro h
    refine ⟨step_thread_self tick s i ▸ h i, fun j hj => ?_⟩
    exact step_thread_of_ne tick s i hj ▸ h j
  · rintro ⟨hown, hothers⟩ j
    by_cases hj : j = i
    · rw [hj, step_thread_self]
      exact hown
    · rw [step_thread_of_ne tick s i hj]
      exact hothers j hj

/-- One tick, on the shared state and the state of the thread alone. -/
def soloTick (p : σ × τ) : σ × τ := tick p.1 p.2

/-- **Alone**: `n` ticks of one thread with nothing in between. -/
theorem run_replicate (n : Nat) (s : System ι σ τ) :
    run (step tick) s (List.replicate n i) =
      { shared := ((soloTick tick)^[n] (s.shared, s.thread i)).1
        thread := Function.update s.thread i ((soloTick tick)^[n] (s.shared, s.thread i)).2 } := by
  induction n generalizing s with
  | zero =>
    show s = _
    rw [Function.iterate_zero, id, Function.update_eq_self]
  | succ n ih =>
    rw [List.replicate_succ, run_cons, ih, Function.iterate_succ_apply, step_thread_self]
    show System.mk _ (Function.update (Function.update s.thread i _) i _) = _
    rw [Function.update_idem]
    rfl

end ProviiSdk.Threads
