/-
  ProviiSdk.Lib.Check — checks in sequence.

  A function that validates its input runs one check after the other and
  ends at the first that fails.  In the `Except` monad each check is an
  action; a successful run means that every check passed.

  Main results:
    * `bind_eq_ok_iff`, `require_eq_ok_iff`, `okOr_eq_ok_iff`,
      `mapError_eq_ok_iff` — a sequence of checks succeeds exactly when
      each of them does.
    * `failsWith_bind_iff` — a sequence ends with an error of a kind
      exactly when its first failing part does.
-/

import Mathlib

namespace ProviiSdk.Check

variable {ε ε' α β : Type}

/-- Go on if the condition holds, and end with the error if not. -/
def require (c : Prop) [Decidable c] (e : ε) : Except ε Unit := if c then .ok () else .error e

/-- The value of an option, or the error. -/
def okOr (o : Option α) (e : ε) : Except ε α :=
  match o with
  | some a => .ok a
  | none => .error e

@[simp] theorem require_eq_ok_iff (c : Prop) [Decidable c] (e : ε) (u : Unit) :
    require c e = .ok u ↔ c := by
  unfold require
  by_cases h : c
  · simp [h]
  · simp [h]

@[simp] theorem okOr_eq_ok_iff (o : Option α) (e : ε) (a : α) : okOr o e = .ok a ↔ o = some a := by
  cases o with
  | none => simp [okOr]
  | some b => simp [okOr]

@[simp] theorem mapError_eq_ok_iff (x : Except ε α) (f : ε → ε') (a : α) :
    x.mapError f = .ok a ↔ x = .ok a := by
  cases x with
  | error e => simp [Except.mapError]
  | ok b => simp [Except.mapError]

/-- **A sequence succeeds exactly when each part does.** -/
theorem bind_eq_ok_iff (x : Except ε α) (f : α → Except ε β) (b : β) :
    (x >>= f) = .ok b ↔ ∃ a, x = .ok a ∧ f a = .ok b := by
  cases x with
  | error e =>
    constructor
    · intro h
      cases h
    · rintro ⟨a, h, _⟩
      cases h
  | ok a =>
    constructor
    · intro h
      exact ⟨a, rfl, h⟩
    · rintro ⟨a', h, hf⟩
      injection h with h
      rw [h]
      exact hf

/-! ## A sequence of checks that pass -/

@[simp] theorem okOr_some (a : α) (e : ε) : okOr (some a) e = .ok a := rfl

theorem require_pos {c : Prop} [Decidable c] (h : c) (e : ε) : require c e = .ok () := if_pos h

@[simp] theorem ok_bind (a : α) (f : α → Except ε β) : (Except.ok a >>= f) = f a := rfl

@[simp] theorem error_bind (e : ε) (f : α → Except ε β) : (Except.error e >>= f) = .error e := rfl

@[simp] theorem mapError_ok (a : α) (f : ε → ε') :
    (Except.ok a : Except ε α).mapError f = .ok a := rfl

@[simp] theorem mapError_error (e : ε) (f : ε → ε') :
    (Except.error e : Except ε α).mapError f = .error (f e) := rfl

/-! ## How a sequence fails -/

/-- The computation ends with an error of the given kind. -/
def FailsWith (P : ε → Prop) (x : Except ε α) : Prop := ∃ e, x = .error e ∧ P e

@[simp] theorem failsWith_ok (P : ε → Prop) (a : α) : FailsWith P (.ok a) ↔ False := by
  refine iff_of_false ?_ id
  rintro ⟨e, h, -⟩
  cases h

@[simp] theorem failsWith_error (P : ε → Prop) (e : ε) :
    FailsWith P (.error e : Except ε α) ↔ P e := by
  constructor
  · rintro ⟨e', h, hP⟩
    injection h with h
    rw [h]
    exact hP
  · intro hP
    exact ⟨e, rfl, hP⟩

/-- **A sequence fails where one of its parts does**, the second only
    after the first has succeeded. -/
theorem failsWith_bind_iff (P : ε → Prop) (x : Except ε α) (f : α → Except ε β) :
    FailsWith P (x >>= f) ↔ FailsWith P x ∨ ∃ a, x = .ok a ∧ FailsWith P (f a) := by
  cases x with
  | error e =>
    rw [error_bind, failsWith_error, failsWith_error]
    refine (or_iff_left ?_).symm
    rintro ⟨a, h, -⟩
    cases h
  | ok a =>
    rw [ok_bind, failsWith_ok, false_or]
    constructor
    · intro h
      exact ⟨a, rfl, h⟩
    · rintro ⟨a', h, hf⟩
      injection h with h
      rw [h]
      exact hf

theorem failsWith_mapError_iff (P : ε' → Prop) (x : Except ε α) (f : ε → ε') :
    FailsWith P (x.mapError f) ↔ FailsWith (fun e => P (f e)) x := by
  cases x with
  | error e => rw [mapError_error, failsWith_error, failsWith_error]
  | ok a => rw [mapError_ok, failsWith_ok, failsWith_ok]

theorem failsWith_require_iff (P : ε → Prop) (c : Prop) [Decidable c] (e : ε) :
    FailsWith P (require c e) ↔ ¬ c ∧ P e := by
  unfold require
  by_cases h : c
  · rw [if_pos h, failsWith_ok]
    exact iff_of_false id fun h' => h'.1 h
  · rw [if_neg h, failsWith_error]
    exact (and_iff_right h).symm

theorem failsWith_okOr_iff (P : ε → Prop) (o : Option α) (e : ε) :
    FailsWith P (okOr o e) ↔ o = none ∧ P e := by
  cases o with
  | none => exact (failsWith_error P e).trans (and_iff_right rfl).symm
  | some a => exact iff_of_false (failsWith_ok P a).1 fun h => Option.some_ne_none a h.1

/-- Sequences with one first part fail alike if what follows it does. -/
theorem failsWith_bind_congr {γ : Type} {P : ε → Prop} {x : Except ε α} {f : α → Except ε β}
    {g : α → Except ε γ} (h : ∀ a, x = .ok a → (FailsWith P (f a) ↔ FailsWith P (g a))) :
    FailsWith P (x >>= f) ↔ FailsWith P (x >>= g) := by
  rw [failsWith_bind_iff, failsWith_bind_iff]
  exact or_congr_right (exists_congr fun a => and_congr_right (h a))

/-- A sequence does not fail in some way if neither part does. -/
theorem not_failsWith_bind {P : ε → Prop} {x : Except ε α} {f : α → Except ε β}
    (hx : ¬ FailsWith P x) (hf : ∀ a, x = .ok a → ¬ FailsWith P (f a)) :
    ¬ FailsWith P (x >>= f) := by
  rw [failsWith_bind_iff, not_or]
  refine ⟨hx, ?_⟩
  rintro ⟨a, ha, hfails⟩
  exact hf a ha hfails

end ProviiSdk.Check
