/-
  ProviiSdk.Lib.Retry — an operation that is tried again.

  An operation on a state that may fail is tried again, a bounded number
  of times, as long as it fails with an error that is not fatal.  An
  attempt knows its number, so what the world answers may differ from
  attempt to attempt.

  Main results:
    * `retry_eq_attempt` — a retried operation ends as one of its
      attempts does.
    * `retry_ok_iff` — when it succeeds.
    * `retry_calls` — the calls it makes of a sequence of outcomes.
    * `rounds_rule` — the invariant rule of an operation that goes round
      until one round ends it.
-/

import Mathlib.Tactic.Common

namespace ProviiSdk.Retry

variable {σ α ε : Type} (fatal : ε → Bool) (op : Nat → σ → Except ε α × σ)

/-- Run an operation up to `retries` times more as long as it fails with
    an error that is not fatal; the last error is returned. -/
def retry : Nat → Nat → σ → Except ε α × σ
  | retries, attempt, s =>
    match op attempt s with
    | (.ok v, s) => (.ok v, s)
    | (.error e, s) =>
      if fatal e then (.error e, s)
      else
        match retries with
        | 0 => (.error e, s)
        | retries + 1 => retry retries (attempt + 1) s

/-- **A retried operation ends as one of its attempts does**, if failing
    attempts leave the state alone. -/
theorem retry_eq_attempt (hfail : ∀ n s e s', op n s = (.error e, s') → s' = s)
    (retries attempt : Nat) (s : σ) : ∃ n, retry fatal op retries attempt s = op n s := by
  induction retries generalizing attempt with
  | zero =>
    refine ⟨attempt, ?_⟩
    unfold retry
    rcases hop : op attempt s with ⟨r, s'⟩
    cases r with
    | ok v => rfl
    | error e => simp
  | succ retries ih =>
    unfold retry
    rcases hop : op attempt s with ⟨r, s'⟩
    cases r with
    | ok v => exact ⟨attempt, hop.symm⟩
    | error e =>
      by_cases hno : fatal e = true
      · simp only [if_pos hno]
        exact ⟨attempt, hop.symm⟩
      · simp only [if_neg hno]
        rw [hfail attempt s e s' hop]
        exact ih (attempt + 1)

/-- **A retried operation succeeds** exactly when one of its attempts does
    and all attempts before that one fail with errors that are not
    fatal. -/
theorem retry_ok_iff (hfail : ∀ n s e s', op n s = (.error e, s') → s' = s)
    (retries attempt : Nat) (s : σ) :
    (∃ v, (retry fatal op retries attempt s).1 = .ok v) ↔
      ∃ n ≤ retries, (∃ v, (op (attempt + n) s).1 = .ok v) ∧
        ∀ m < n, ∃ e, (op (attempt + m) s).1 = .error e ∧ fatal e = false := by
  induction retries generalizing attempt with
  | zero =>
    unfold retry
    rcases hop : op attempt s with ⟨r, s'⟩
    cases r with
    | ok v => exact iff_of_true ⟨v, rfl⟩ ⟨0, Nat.le_refl 0, ⟨v, by rw [Nat.add_zero, hop]⟩, by simp⟩
    | error e =>
      refine iff_of_false (by simp) ?_
      rintro ⟨n, hn, ⟨v, hv⟩, _⟩
      rw [Nat.le_zero.1 hn, Nat.add_zero, hop] at hv
      cases hv
  | succ retries ih =>
    unfold retry
    rcases hop : op attempt s with ⟨r, s'⟩
    cases r with
    | ok v =>
      exact iff_of_true ⟨v, rfl⟩ ⟨0, Nat.zero_le _, ⟨v, by rw [Nat.add_zero, hop]⟩, by simp⟩
    | error e =>
      by_cases hno : fatal e = true
      · simp only [if_pos hno]
        refine iff_of_false (by simp) ?_
        rintro ⟨n, _, ⟨v, hv⟩, hbefore⟩
        -- the first attempt already ended the operation
        rcases Nat.eq_zero_or_pos n with rfl | hpos
        · rw [Nat.add_zero, hop] at hv
          cases hv
        · obtain ⟨e', he', hretry⟩ := hbefore 0 hpos
          rw [Nat.add_zero, hop] at he'
          injection he' with he'
          rw [← he', hno] at hretry
          cases hretry
      · simp only [if_neg hno]
        rw [hfail attempt s e s' hop, ih (attempt + 1)]
        constructor
        · rintro ⟨n, hn, hv, hbefore⟩
          refine ⟨n + 1, by omega, ?_, fun m hm => ?_⟩
          · rwa [Nat.add_right_comm] at hv
          · cases m with
            | zero => exact ⟨e, by rw [Nat.add_zero, hop], by simpa using hno⟩
            | succ m =>
              have := hbefore m (by omega)
              rwa [Nat.add_right_comm] at this
        · rintro ⟨n, hn, ⟨v, hv⟩, hbefore⟩
          cases n with
          | zero =>
            rw [Nat.add_zero, hop] at hv
            cases hv
          | succ n =>
            refine ⟨n, by omega, ⟨v, by rwa [Nat.add_right_comm]⟩, fun m hm => ?_⟩
            have := hbefore (m + 1) (by omega)
            rwa [← Nat.add_assoc, Nat.add_right_comm] at this

/-! ## Sequences of outcomes -/

/-- An operation whose calls end as a sequence says, one after the other;
    its state counts the calls made. -/
def calls (outcomes : Nat → Except ε α) (_ made : Nat) : Except ε α × Nat :=
  (outcomes made, made + 1)

/-- **The calls of a retried operation.**  One call more than the retries
    at most is made; all but the last fail with errors that are not
    fatal, and the last one gives the answer.  With retries left it is a
    success or a fatal error. -/
theorem retry_calls (outcomes : Nat → Except ε α) (retries attempt made : Nat) :
    ∃ n ≤ retries,
      retry fatal (calls outcomes) retries attempt made = (outcomes (made + n), made + n + 1) ∧
      (∀ m < n, ∃ e, outcomes (made + m) = .error e ∧ fatal e = false) ∧
      (n < retries → ∀ e, outcomes (made + n) = .error e → fatal e = true) := by
  induction retries generalizing attempt made with
  | zero =>
    refine ⟨0, Nat.le_refl 0, ?_, fun m hm => absurd hm (Nat.not_lt_zero m),
      fun h => absurd h (Nat.not_lt_zero 0)⟩
    unfold retry calls
    cases outcomes made with
    | ok v => rfl
    | error e => simp
  | succ retries ih =>
    cases hout : outcomes made with
    | ok v =>
      refine ⟨0, Nat.zero_le _, ?_, fun m hm => absurd hm (Nat.not_lt_zero m), fun _ e he => ?_⟩
      · unfold retry calls
        simp [hout]
      · rw [Nat.add_zero, hout] at he
        cases he
    | error e =>
      by_cases hfatal : fatal e = true
      · refine ⟨0, Nat.zero_le _, ?_, fun m hm => absurd hm (Nat.not_lt_zero m), fun _ e' he => ?_⟩
        · unfold retry calls
          simp [hout, hfatal]
        · rw [Nat.add_zero, hout] at he
          injection he with he
          rw [← he]
          exact hfatal
      · obtain ⟨n, hn, hrun, hbefore, hlast⟩ := ih (attempt + 1) (made + 1)
        rw [Nat.add_assoc, Nat.add_comm 1 n] at hrun hlast
        refine ⟨n + 1, by omega, ?_, fun m hm => ?_, fun hlt => hlast (by omega)⟩
        · unfold retry calls
          simp only [hout, if_neg hfatal]
          exact hrun
        · cases m with
          | zero => exact ⟨e, hout, Bool.eq_false_iff.2 hfatal⟩
          | succ m =>
            have hm' := hbefore m (by omega)
            rwa [Nat.add_assoc, Nat.add_comm 1 m] at hm'

/-! ## Rounds -/

variable {ρ : Type} (round : ρ → σ → Option α × σ)

/-- Go round until a round gives an answer.  The list is what each round
    meets; without an answer at its end the operation is still going. -/
def rounds : List ρ → σ → Option α × σ
  | [], s => (none, s)
  | r :: rs, s =>
    match round r s with
    | (some a, s) => (some a, s)
    | (none, s) => rounds rs s

variable {round}

/-- **The rule of rounds**: an invariant that a round keeps, or ends with
    a good answer, holds while the operation goes on, and its answer is
    good. -/
theorem rounds_rule {I : σ → Prop} {Q : α → σ → Prop}
    (hgo : ∀ r s, I s → (round r s).1 = none → I (round r s).2)
    (hend : ∀ r s a, I s → (round r s).1 = some a → Q a (round r s).2) (rs : List ρ) (s : σ)
    (hs : I s) :
    ((rounds round rs s).1 = none → I (rounds round rs s).2) ∧
      ∀ a, (rounds round rs s).1 = some a → Q a (rounds round rs s).2 := by
  induction rs generalizing s with
  | nil =>
    refine ⟨fun _ => hs, fun a h => ?_⟩
    cases h
  | cons r rs ih =>
    have hgo' := hgo r s hs
    have hend' := hend r s
    unfold rounds
    generalize round r s = out at hgo' hend' ⊢
    rcases out with ⟨_ | b, s'⟩
    · exact ih s' (hgo' rfl)
    · refine ⟨fun h => ?_, fun a h => hend' a hs h⟩
      cases h

end ProviiSdk.Retry
