/-
  ProviiSdk.Lib.Simulation — one machine with outputs follows another.

  A machine takes an input, answers with an output and goes to its next
  state.  A concrete machine follows an abstract one if, from related
  states, every step of it that meets a condition is a step of the
  abstract one for a matching input: with the same output, and into
  related states.  The abstract input may hold what the concrete step
  left open.

  Main results:
    * `outputs_of_simulation` — from related states, a run whose steps all
      meet the condition has the outputs of an abstract run.
-/

import Mathlib.Data.List.Forall2
import ProviiSdk.Lib.Run

namespace ProviiSdk.Simulation

open ProviiSdk.Run

variable {σ τ ι κ ω : Type*}

/-- The outputs of a run, in order. -/
def outputs (step : σ → ι → ω × σ) : σ → List ι → List ω
  | _, [] => []
  | s, i :: is => (step s i).1 :: outputs step (step s i).2 is

/-- The state a machine with outputs goes to. -/
def next (step : σ → ι → ω × σ) (s : σ) (i : ι) : σ := (step s i).2

/-- **A followed step at a time, a followed run**: the outputs of the run
    are those of an abstract run with matching inputs, and the states
    they end in are related. -/
theorem outputs_of_simulation {step : σ → ι → ω × σ} {spec : τ → κ → ω × τ} {R : τ → σ → Prop}
    {P : σ → ι → Prop} {M : ι → κ → Prop}
    (hstep : ∀ t s i, R t s → P s i →
      ∃ k, M i k ∧ (spec t k).1 = (step s i).1 ∧ R (spec t k).2 (step s i).2)
    {t : τ} {s : σ} {is : List ι} (h : R t s) (his : StepsMeet (next step) P s is) :
    ∃ ks, List.Forall₂ M is ks ∧ outputs spec t ks = outputs step s is ∧
      R (run (next spec) t ks) (run (next step) s is) := by
  induction is generalizing t s with
  | nil => exact ⟨[], List.Forall₂.nil, rfl, h⟩
  | cons i is ih =>
    obtain ⟨hi, hrest⟩ := his
    obtain ⟨k, hk, houtput, hnext⟩ := hstep t s i h hi
    obtain ⟨ks, hks, houtputs, hfinal⟩ := ih hnext hrest
    refine ⟨k :: ks, List.Forall₂.cons hk hks, ?_, hfinal⟩
    unfold outputs
    rw [houtput, houtputs]

end ProviiSdk.Simulation
