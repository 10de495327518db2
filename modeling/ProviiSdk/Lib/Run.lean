/-
  ProviiSdk.Lib.Run — runs of a deterministic step machine.

  A machine is a step function `σ → ι → σ`; a run feeds it a list of
  inputs.  Two predicates talk about whole runs:
    * `StepsMeet` — every step taken meets a condition on the state
      before it and its input.
    * `Always` — every state reached, the first included, is good.

  Main results:
    * `always_of_step` — the invariant rule: a condition on the steps
      that keeps the invariant keeps it over the whole run.
    * `stepsMeet_iff` — two step conditions that agree under an
      invariant agree over whole runs.
    * `always_and_stepsMeet_iff` — the exact form: a step condition
      that is equivalent to "the next state is good and the step is
      good" is equivalent to goodness of the whole run.
    * `always_iff_stepsMeet` — the same where every step into a good
      state is good.
    * `exists_establishing_step` — what holds at the end of a run and not
      at its start was established by a step, and held ever since.
-/

import Mathlib.Data.List.Induction
import Mathlib.Logic.Basic

namespace ProviiSdk.Run

variable {σ ι : Type*} (step : σ → ι → σ)

/-- The state reached from `s` after the inputs `is`, in order. -/
def run (s : σ) (is : List ι) : σ := is.foldl step s

/-- Every step of the run meets `P` at the state it starts from. -/
def StepsMeet (P : σ → ι → Prop) : σ → List ι → Prop
  | _, [] => True
  | s, i :: is => P s i ∧ StepsMeet P (step s i) is

/-- Every state of the run satisfies `G`. -/
def Always (G : σ → Prop) : σ → List ι → Prop
  | s, [] => G s
  | s, i :: is => G s ∧ Always G (step s i) is

@[simp] theorem run_nil (s : σ) : run step s [] = s := rfl

@[simp] theorem run_cons (s : σ) (i : ι) (is : List ι) :
    run step s (i :: is) = run step (step s i) is := rfl

variable {step}

/-- The first state of a good run is good. -/
theorem Always.head {G : σ → Prop} {s : σ} {is : List ι} (h : Always step G s is) : G s := by
  cases is with
  | nil => exact h
  | cons i is => exact h.1

/-- The last state of a good run is good. -/
theorem Always.last {G : σ → Prop} : ∀ {s : σ} {is : List ι},
    Always step G s is → G (run step s is)
  | _, [], h => h
  | s, i :: is, h => by
    have h' : Always step G (step s i) is := h.2
    exact h'.last

/-- A run of good states is a run of states with every consequence. -/
theorem Always.imp {G H : σ → Prop} (hGH : ∀ s, G s → H s) : ∀ {s : σ} {is : List ι},
    Always step G s is → Always step H s is
  | _, [], h => hGH _ h
  | _, _ :: _, h => ⟨hGH _ h.1, Always.imp hGH h.2⟩

/-- A condition that every input meets is met by every step. -/
theorem stepsMeet_of_forall {P : ι → Prop} :
    ∀ {s : σ} {is : List ι}, (∀ i ∈ is, P i) → StepsMeet step (fun _ i => P i) s is
  | _, [], _ => trivial
  | _, i :: _, h =>
    ⟨h i List.mem_cons_self, stepsMeet_of_forall fun j hj => h j (List.mem_cons_of_mem i hj)⟩

/-- A condition that always holds is met by every step. -/
theorem stepsMeet_true : ∀ (s : σ) (is : List ι), StepsMeet step (fun _ _ => True) s is
  | _, [] => trivial
  | s, i :: is => ⟨trivial, stepsMeet_true (step s i) is⟩

/-- **Invariant rule**: an invariant kept by every step that meets `P`
    holds in every state of a run whose steps all meet `P`. -/
theorem always_of_step {I : σ → Prop} {P : σ → ι → Prop}
    (hstep : ∀ s i, I s → P s i → I (step s i)) :
    ∀ {s : σ} {is : List ι}, I s → StepsMeet step P s is → Always step I s is
  | _, [], hs, _ => hs
  | s, i :: _, hs, hP => ⟨hs, always_of_step hstep (hstep s i hs hP.1) hP.2⟩

/-- An invariant kept by every step holds in every state of a run. -/
theorem always_of_invariant {I : σ → Prop} (hstep : ∀ s i, I s → I (step s i)) {s : σ}
    (is : List ι) (hs : I s) : Always step I s is :=
  always_of_step (P := fun _ _ => True) (fun s i h _ => hstep s i h) hs (stepsMeet_true s is)

/-- Under an invariant kept by every `P`-step, `P`-steps are `Q`-steps
    as soon as they are so one at a time. -/
theorem stepsMeet_of_step {I : σ → Prop} {P Q : σ → ι → Prop}
    (hstep : ∀ s i, I s → P s i → I (step s i) ∧ Q s i) :
    ∀ {s : σ} {is : List ι}, I s → StepsMeet step P s is → StepsMeet step Q s is
  | _, [], _, _ => trivial
  | s, i :: _, hs, hP =>
    ⟨(hstep s i hs hP.1).2, stepsMeet_of_step hstep (hstep s i hs hP.1).1 hP.2⟩

/-- Two step conditions that agree wherever the invariant holds agree
    over whole runs. -/
theorem stepsMeet_iff {I : σ → Prop} {P Q : σ → ι → Prop}
    (hI : ∀ s i, I s → I (step s i)) (hPQ : ∀ s i, I s → (P s i ↔ Q s i)) :
    ∀ {s : σ} {is : List ι}, I s → (StepsMeet step P s is ↔ StepsMeet step Q s is)
  | _, [], _ => Iff.rfl
  | s, i :: _, hs => and_congr (hPQ s i hs) (stepsMeet_iff hI hPQ (hI s i hs))

/-- The same for runs whose steps all meet an assumption. -/
theorem stepsMeet_iff_of_assumption {I : σ → Prop} {A P Q : σ → ι → Prop}
    (hI : ∀ s i, I s → A s i → I (step s i)) (hPQ : ∀ s i, I s → A s i → (P s i ↔ Q s i)) :
    ∀ {s : σ} {is : List ι}, I s → StepsMeet step A s is →
      (StepsMeet step P s is ↔ StepsMeet step Q s is)
  | _, [], _, _ => Iff.rfl
  | s, i :: _, hs, hA =>
    and_congr (hPQ s i hs hA.1) (stepsMeet_iff_of_assumption hI hPQ (hI s i hs hA.1) hA.2)

/-- **Exact rule**, for runs whose steps all meet an assumption `A`: if,
    at a good state, `C` holds of a step exactly when the step is a
    `P`-step into a good state, then `C` holds of all steps exactly when
    all states are good and all steps are `P`-steps. -/
theorem always_and_stepsMeet_iff {I G : σ → Prop} {A P C : σ → ι → Prop}
    (hI : ∀ s i, I s → A s i → I (step s i))
    (hC : ∀ s i, I s → A s i → G s → ((G (step s i) ∧ P s i) ↔ C s i)) :
    ∀ {s : σ} {is : List ι}, I s → G s → StepsMeet step A s is →
      ((Always step G s is ∧ StepsMeet step P s is) ↔ StepsMeet step C s is)
  | _, [], _, hG, _ => ⟨fun _ => trivial, fun _ => ⟨hG, trivial⟩⟩
  | s, i :: is, hs, hG, hA => by
    have hs' := hI s i hs hA.1
    constructor
    · rintro ⟨⟨_, hall⟩, hP, hPs⟩
      refine ⟨(hC s i hs hA.1 hG).1 ⟨hall.head, hP⟩, ?_⟩
      exact (always_and_stepsMeet_iff hI hC hs' hall.head hA.2).1 ⟨hall, hPs⟩
    · rintro ⟨hc, hcs⟩
      obtain ⟨hG', hP⟩ := (hC s i hs hA.1 hG).2 hc
      obtain ⟨hall, hPs⟩ := (always_and_stepsMeet_iff hI hC hs' hG' hA.2).2 hcs
      exact ⟨⟨hG, hall⟩, hP, hPs⟩

/-- The exact rule for runs of any steps. -/
theorem always_and_stepsMeet_iff_of_invariant {I G : σ → Prop} {P C : σ → ι → Prop}
    (hI : ∀ s i, I s → I (step s i))
    (hC : ∀ s i, I s → G s → ((G (step s i) ∧ P s i) ↔ C s i)) {s : σ} (is : List ι) (hs : I s)
    (hG : G s) : (Always step G s is ∧ StepsMeet step P s is) ↔ StepsMeet step C s is :=
  always_and_stepsMeet_iff (A := fun _ _ => True) (fun s i h _ => hI s i h)
    (fun s i h _ hG => hC s i h hG) hs hG (stepsMeet_true s is)

/-- The exact rule where a good step is one into a good state. -/
theorem always_iff_stepsMeet {I G : σ → Prop} {C : σ → ι → Prop}
    (hI : ∀ s i, I s → I (step s i)) (hC : ∀ s i, I s → G s → (G (step s i) ↔ C s i)) {s : σ}
    (is : List ι) (hs : I s) (hG : G s) : Always step G s is ↔ StepsMeet step C s is := by
  rw [← always_and_stepsMeet_iff_of_invariant (P := fun _ _ => True) hI
    (fun s i h hG => (and_iff_left trivial).trans (hC s i h hG)) is hs hG]
  exact (and_iff_left (stepsMeet_true s is)).symm

theorem run_append (s : σ) (is js : List ι) :
    run step s (is ++ js) = run step (run step s is) js := List.foldl_append

/-- One more good state at the end of a good run. -/
theorem Always.append_singleton {G : σ → Prop} {i : ι} : ∀ {s : σ} {is : List ι},
    Always step G s is → G (step (run step s is) i) → Always step G s (is ++ [i])
  | _, [], h, hlast => ⟨h, hlast⟩
  | _, _ :: _, h, hlast => ⟨h.1, h.2.append_singleton hlast⟩

/-- **The establishing step**: what does not hold at the start of a run
    and holds at its end was established by one of its steps, and held in
    every state since. -/
theorem exists_establishing_step {G : σ → Prop} {s : σ} {is : List ι} (hs : ¬ G s)
    (h : G (run step s is)) :
    ∃ before i after, is = before ++ i :: after ∧ ¬ G (run step s before) ∧
      Always step G (step (run step s before) i) after := by
  induction is using List.reverseRecOn with
  | nil => exact absurd h hs
  | append_singleton is j ih =>
    rw [run_append] at h
    by_cases hG : G (run step s is)
    · -- established earlier, and the last step kept it
      obtain ⟨before, i, after, rfl, hbefore, hall⟩ := ih hG
      refine ⟨before, i, after ++ [j], ?_, hbefore, hall.append_singleton ?_⟩
      · rw [List.append_assoc, List.cons_append]
      · rw [run_append] at h
        exact h
    · exact ⟨is, j, [], rfl, hG, h⟩

end ProviiSdk.Run
