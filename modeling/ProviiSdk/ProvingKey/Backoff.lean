/-
  ProviiSdk.ProvingKey.Backoff — the delay before the next attempt.

  The delay is drawn below a bound that doubles with every attempt, up
  to a minute.  The bound is computed in 64 bits with a clamped shift, a
  saturating product and a cap; the cap lies far below the places where
  the clamp and the saturation begin to matter.

  Main results:
    * `cappedMs_eq` — what the 64 bits compute is the exact formula.
    * `backoff_arithmetic` — the delays that can be drawn.
-/

import ProviiSdk.ProvingKey.RetryBudget

namespace ProviiSdk.ProvingKey

/-! ## §1. The bound -/

/-- The bound over unbounded integers, in milliseconds. -/
def boundMs (attempt : Nat) : Nat := min (2000 * 2 ^ attempt) 60000

/-- The shift, clamped. -/
def backoffShift (attempt : Nat) : Nat := min attempt 63

/-- The bound as `compute_jittered_backoff` computes it. -/
def cappedMs (attempt : Nat) : Nat :=
  min (saturatingMul 2000 ((checkedShlOne (backoffShift attempt)).getD 18446744073709551615)) 60000

theorem computeJitteredBackoff_eq (random : UInt64) (attempt : Nat) :
    computeJitteredBackoff random attempt =
      if cappedMs attempt = 0 then 0 else random.toNat % cappedMs attempt := rfl

/-- The clamped shift is in range. -/
theorem checkedShlOne_shift (attempt : Nat) :
    checkedShlOne (backoffShift attempt) = some (2 ^ backoffShift attempt) := by
  have hshift : backoffShift attempt < 64 := Nat.lt_of_le_of_lt (Nat.min_le_right _ _) (by decide)
  unfold checkedShlOne
  rw [if_pos hshift, Nat.one_shiftLeft]

/-- From the fifth attempt on the bound is the cap. -/
theorem cap_le_of_five_le {n : Nat} (h : 5 ≤ n) : 60000 ≤ 2000 * 2 ^ n := by
  have hpow : 2 ^ 5 ≤ 2 ^ n := Nat.pow_le_pow_right (by decide) h
  omega

/-- **What the 64 bits compute is the exact formula.** -/
theorem cappedMs_eq (attempt : Nat) : cappedMs attempt = boundMs attempt := by
  unfold cappedMs boundMs
  rw [checkedShlOne_shift, Option.getD_some]
  unfold saturatingMul
  rcases Nat.lt_or_ge attempt 5 with hsmall | hlarge
  · -- nothing is clamped, and nothing saturates
    have hshift : backoffShift attempt = attempt := Nat.min_eq_left (by omega)
    have hpow : 2 ^ attempt ≤ 2 ^ 5 := Nat.pow_le_pow_right (by decide) (by omega)
    rw [hshift]
    omega
  · -- both sides are the cap
    have hshift : 5 ≤ backoffShift attempt := Nat.le_min.2 ⟨hlarge, by decide⟩
    have hcomputed := cap_le_of_five_le hshift
    have hexact := cap_le_of_five_le hlarge
    omega

/-- The bound is no zero divisor. -/
theorem boundMs_pos (attempt : Nat) : 0 < boundMs attempt := by
  have hpow : 0 < 2 ^ attempt := Nat.two_pow_pos attempt
  unfold boundMs
  omega

theorem boundMs_le (attempt : Nat) : boundMs attempt ≤ 60000 := Nat.min_le_right _ _

/-- The bound does not shrink. -/
theorem boundMs_mono {attempt later : Nat} (h : attempt ≤ later) :
    boundMs attempt ≤ boundMs later := by
  have hpow : 2 ^ attempt ≤ 2 ^ later := Nat.pow_le_pow_right (by decide) h
  unfold boundMs
  omega

/-! ## §2. The delay -/

/-- **The delay** is the remainder of the draw. -/
theorem computeJitteredBackoff_mod (random : UInt64) (attempt : Nat) :
    computeJitteredBackoff random attempt = random.toNat % boundMs attempt := by
  rw [computeJitteredBackoff_eq, cappedMs_eq, if_neg (Nat.ne_of_gt (boundMs_pos attempt))]

/-- **Backoff arithmetic.**  The shift is in range and the divisor is not
    zero; every draw gives a delay below the exact bound, every delay
    below it is drawn, and the bound does not shrink from one attempt to
    a later one. -/
theorem backoff_arithmetic (attempt : Nat) :
    ((checkedShlOne (backoffShift attempt)).isSome = true ∧ cappedMs attempt ≠ 0 ∧
      cappedMs attempt = boundMs attempt) ∧
    (∀ random, computeJitteredBackoff random attempt < boundMs attempt) ∧
    (∀ ms < boundMs attempt, ∃ random, computeJitteredBackoff random attempt = ms) ∧
    ∀ later, attempt ≤ later → boundMs attempt ≤ boundMs later := by
  have hpos := boundMs_pos attempt
  refine ⟨⟨?_, ?_, cappedMs_eq attempt⟩, fun random => ?_, fun ms hms => ?_, fun later =>
    boundMs_mono⟩
  · rw [checkedShlOne_shift, Option.isSome_some]
  · rw [cappedMs_eq]
    omega
  · rw [computeJitteredBackoff_mod]
    exact Nat.mod_lt _ hpos
  · -- the draw may be the delay itself
    have hle := boundMs_le attempt
    have hsize : UInt64.size = 18446744073709551616 := rfl
    refine ⟨UInt64.ofNat ms, ?_⟩
    rw [computeJitteredBackoff_mod, UInt64.toNat_ofNat_of_lt' (by omega), Nat.mod_eq_of_lt hms]

end ProviiSdk.ProvingKey
