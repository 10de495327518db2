/-
  ProviiSdk.Lib.SlidingWindow — a bound over every time window.

  A log of times grows by one entry at a time, and at most `n` entries
  may lie in any window of length `d`.  A program that enforces the
  bound keeps only some of the log: it drops entries of age `d` or more
  whenever it looks, and compares the number of entries left with `n`.

  Main results:
    * `KeepsYoung.trim`, `KeepsYoung.push`, `KeepsYoung.later` — dropping
      old entries, recording one and waiting keep all young entries.
    * `atMost_push` — with fewer than `n` young entries left, one more
      entry keeps the bound for every window, wherever it starts.
-/

import Mathlib.Data.List.Basic

namespace ProviiSdk.SlidingWindow

/-- The entry has not yet reached the age `d`. -/
def young (d now t : Nat) : Bool := decide (now < t + d)

/-- The number of entries in the half-open window of length `d` that
    starts at `w`. -/
def countIn (d w : Nat) (log : List Nat) : Nat := log.countP fun t => decide (w ≤ t ∧ t < w + d)

/-- At most `n` entries in every window of length `d`. -/
def AtMost (n d : Nat) (log : List Nat) : Prop := ∀ w, countIn d w log ≤ n

/-- What is kept and the whole log have the same young entries. -/
def KeepsYoung (d now : Nat) (kept log : List Nat) : Prop :=
  kept.filter (young d now) = log.filter (young d now)

/-- The kept entries after those of age `d` or more are dropped. -/
def trim (d now : Nat) (kept : List Nat) : List Nat := kept.filter (young d now)

theorem atMost_nil (n d : Nat) : AtMost n d [] := fun _ => Nat.zero_le n

theorem keepsYoung_refl (d now : Nat) (log : List Nat) : KeepsYoung d now log log := rfl

/-- An entry that is young now was young before. -/
theorem young_of_later {d now later t : Nat} (h : now ≤ later) (ht : young d later t = true) :
    young d now t = true := by
  unfold young at ht ⊢
  rw [decide_eq_true_eq] at ht ⊢
  omega

/-- Of the entries young at one time, those young later are all that are
    young later. -/
theorem filter_young_filter {d now later : Nat} (h : now ≤ later) (log : List Nat) :
    (log.filter (young d now)).filter (young d later) = log.filter (young d later) := by
  rw [List.filter_filter]
  apply List.filter_congr
  intro t _
  cases ht : young d later t with
  | false => rfl
  | true => rw [young_of_later h ht]; rfl

theorem KeepsYoung.later {d now later : Nat} {kept log : List Nat} (h : KeepsYoung d now kept log)
    (hle : now ≤ later) : KeepsYoung d later kept log := by
  unfold KeepsYoung at h ⊢
  rw [← filter_young_filter hle kept, h, filter_young_filter hle]

theorem KeepsYoung.trim {d now : Nat} {kept log : List Nat} (h : KeepsYoung d now kept log) :
    KeepsYoung d now (trim d now kept) log := by
  show (List.filter (young d now) (kept.filter (young d now))) = _
  rw [filter_young_filter (Nat.le_refl now)]
  exact h

theorem KeepsYoung.push {d now : Nat} {kept log : List Nat} (h : KeepsYoung d now kept log)
    (t : Nat) : KeepsYoung d now (kept ++ [t]) (log ++ [t]) := by
  unfold KeepsYoung at h ⊢
  rw [List.filter_append, List.filter_append, h]

/-- A window that reaches past `now` holds young entries only. -/
private theorem countIn_le_young (d w now : Nat) (h : now < w + d) (log : List Nat) :
    countIn d w log ≤ (log.filter (young d now)).length := by
  unfold countIn
  rw [← List.countP_eq_length_filter]
  refine List.countP_mono_left fun t _ ht => ?_
  rw [decide_eq_true_eq] at ht
  unfold young
  rw [decide_eq_true_eq]
  omega

/-- **One more entry keeps the bound**, if fewer than `n` entries were
    left when the old ones were dropped, at that time or later. -/
theorem atMost_push {n d now t : Nat} {kept log : List Nat} (h : AtMost n d log)
    (hkeep : KeepsYoung d now kept log) (hroom : (trim d now kept).length < n) (hle : now ≤ t) :
    AtMost n d (log ++ [t]) := by
  intro w
  have hroom' : (log.filter (young d now)).length < n := by
    rw [← hkeep]
    exact hroom
  have hsplit : countIn d w (log ++ [t]) =
      countIn d w log + if w ≤ t ∧ t < w + d then 1 else 0 := by
    unfold countIn
    rw [List.countP_append, List.countP_singleton]
    simp only [decide_eq_true_eq]
  rw [hsplit]
  by_cases hin : w ≤ t ∧ t < w + d
  · -- the window reaches past the moment of the check
    rw [if_pos hin]
    have hcount := countIn_le_young d w now (by omega) log
    omega
  · rw [if_neg hin, Nat.add_zero]
    exact h w

end ProviiSdk.SlidingWindow
