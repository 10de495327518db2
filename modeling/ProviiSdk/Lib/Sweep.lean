/-
  ProviiSdk.Lib.Sweep — deleting a list of keys one by one.

  A sweep deletes keys in turn and goes on when a delete fails.  Where
  the outcome of each delete is settled beforehand, it removes the listed
  keys whose delete is done, and nothing else.

  Main results:
    * `sweep_removes` — what a sweep does to every key.
    * `sweep_empties_iff` — when a sweep leaves none of its targets.
    * `listed_sweep_empties_iff` — when a sweep of what a listing answers
      leaves nothing.
    * `length_eq_ncard` — how many keys a sweep counts.
    * `sweep_removes_outcomes` — what a sweep does, by what its deletes
      answer.
    * `firstError_eq_none_iff`, `firstError_eq_some_iff` — which error of
      a sweep is the first.
-/

import Mathlib.Data.Set.Card

namespace ProviiSdk.Sweep

variable {σ κ β : Type} {lookup : σ → κ → Option β} {del : κ → σ → σ} {done : κ → Prop}

/-- Delete the keys one after the other. -/
def sweep (del : κ → σ → σ) (keys : List κ) (s : σ) : σ := keys.foldl (fun s k => del k s) s

/-- Some keys go, the others stay. -/
def Removes (lookup : σ → κ → Option β) (gone : κ → Prop) (s s' : σ) : Prop :=
  ∀ j, (gone j → lookup s' j = none) ∧ (¬ gone j → lookup s' j = lookup s j)

/-- A delete removes its key if it is done, and changes no other. -/
def Deletes (lookup : σ → κ → Option β) (del : κ → σ → σ) (done : κ → Prop) : Prop :=
  ∀ k s, Removes lookup (fun j => j = k ∧ done k) s (del k s)

/-- Where nothing changes, the keys that go were not there. -/
theorem removes_same {gone : κ → Prop} {s s' : σ} (hsame : ∀ j, lookup s' j = lookup s j)
    (h : ∀ j, gone j → lookup s j = none) : Removes lookup gone s s' :=
  fun j => ⟨fun hj => (hsame j).trans (h j hj), fun _ => hsame j⟩

/-- One removal after another. -/
theorem Removes.trans {gone gone' : κ → Prop} {s₁ s₂ s₃ : σ} (h : Removes lookup gone s₁ s₂)
    (h' : Removes lookup gone' s₂ s₃) : Removes lookup (fun j => gone j ∨ gone' j) s₁ s₃ := by
  intro j
  by_cases hj : gone' j
  · exact ⟨fun _ => (h' j).1 hj, fun hnot => absurd (Or.inr hj) hnot⟩
  · rw [(h' j).2 hj]
    refine ⟨fun hgone => (h j).1 (hgone.resolve_right hj), fun hnot => ?_⟩
    exact (h j).2 fun hgone => hnot (Or.inl hgone)

theorem Removes.congr {gone gone' : κ → Prop} {s s' : σ} (h : Removes lookup gone s s')
    (hiff : ∀ j, gone j ↔ gone' j) : Removes lookup gone' s s' := fun j =>
  ⟨fun hj => (h j).1 ((hiff j).2 hj), fun hj => (h j).2 fun hgone => hj ((hiff j).1 hgone)⟩

/-- **What a sweep does**: the listed keys whose delete is done go. -/
theorem sweep_removes (hdel : Deletes lookup del done) (keys : List κ) (s : σ) :
    Removes lookup (fun j => j ∈ keys ∧ done j) s (sweep del keys s) := by
  induction keys generalizing s with
  | nil => exact removes_same (fun _ => rfl) fun j h => absurd h.1 List.not_mem_nil
  | cons k keys ih =>
    refine ((hdel k s).trans (ih (del k s))).congr fun j => ?_
    rw [List.mem_cons, or_and_right]
    refine or_congr_left ⟨?_, ?_⟩
    · rintro ⟨rfl, hdone⟩
      exact ⟨rfl, hdone⟩
    · rintro ⟨rfl, hdone⟩
      exact ⟨rfl, hdone⟩

/-- **When no target is left**: each one that was there goes. -/
theorem Removes.empties_iff {gone : κ → Prop} {s s' : σ} (h : Removes lookup gone s s')
    (target : κ → Prop) :
    (∀ j, target j → lookup s' j = none) ↔ ∀ j, target j → lookup s j ≠ none → gone j := by
  refine forall₂_congr fun j _ => ?_
  by_cases hj : gone j
  · exact iff_of_true ((h j).1 hj) fun _ => hj
  · rw [(h j).2 hj]
    exact ⟨fun hnone hsome => absurd hnone hsome, fun hgone => by_contra fun hsome => hj (hgone hsome)⟩

/-- A sweep leaves no target exactly if each one that was there is listed
    and its delete is done. -/
theorem sweep_empties_iff (hdel : Deletes lookup del done) (keys : List κ) (s : σ)
    (target : κ → Prop) :
    (∀ j, target j → lookup (sweep del keys s) j = none) ↔
      ∀ j, target j → lookup s j ≠ none → j ∈ keys ∧ done j :=
  (sweep_removes hdel keys s).empties_iff target

/-- **A sweep of what a listing answers.**  A run that fails with the
    listing, and else sweeps the keys it names, leaves nothing when it
    succeeds exactly if every stored key is named and its delete is
    done. -/
theorem listed_sweep_empties_iff {ε : Type} (hdel : Deletes lookup del done) (s : σ)
    {listed : Except ε (List κ)} {run : Except ε Unit × σ}
    (hfail : ∀ e, listed = .error e → run.1 = .error e)
    (hsweep : ∀ keys, listed = .ok keys →
      run.1 = .ok () ∧ ∀ j, lookup run.2 j = lookup (sweep del keys s) j) :
    (run.1 = .ok () → ∀ j, lookup run.2 j = none) ↔
      ∀ keys, listed = .ok keys → ∀ j, lookup s j ≠ none → j ∈ keys ∧ done j := by
  cases listed with
  | error e =>
    refine iff_of_true ?_ ?_
    · intro h
      rw [hfail e rfl] at h
      cases h
    · intro keys h
      cases h
  | ok keys =>
    obtain ⟨hok, hstore⟩ := hsweep keys rfl
    have hempties := sweep_empties_iff hdel keys s fun _ => True
    simp only [true_implies] at hempties
    simp only [hok, hstore, true_implies, Except.ok.injEq, forall_eq']
    exact hempties

/-- **How many**: a listing of a set without repetition is as long as the
    set is large. -/
theorem length_eq_ncard {keys : List κ} (hnodup : keys.Nodup) {target : Set κ}
    (h : ∀ k, k ∈ keys ↔ k ∈ target) : keys.length = target.ncard := by
  classical
  have htarget : target = (keys.toFinset : Set κ) := by
    ext k
    rw [List.coe_toFinset, ← h k]
    rfl
  rw [htarget, Set.ncard_coe_finset, List.toFinset_card_of_nodup hnodup]

/-! ## What the deletes answer -/

variable {ε : Type} {call : κ → σ → Except ε Unit × σ}

/-- The keys of a sweep, each with what its delete answers. -/
def outcomes (call : κ → σ → Except ε Unit × σ) : List κ → σ → List (κ × Except ε Unit)
  | [], _ => []
  | k :: keys, s => (k, (call k s).1) :: outcomes call keys (call k s).2

/-- The first error among the answers. -/
def firstError : List (κ × Except ε Unit) → Option ε
  | [] => none
  | (_, .ok ()) :: answers => firstError answers
  | (_, .error e) :: _ => some e

/-- **Each key of the sweep is called** in its turn. -/
theorem map_fst_outcomes (keys : List κ) (s : σ) :
    (outcomes call keys s).map Prod.fst = keys := by
  induction keys generalizing s with
  | nil => rfl
  | cons k keys ih =>
    show k :: (outcomes call keys (call k s).2).map Prod.fst = k :: keys
    rw [ih]

/-- **What a sweep does, by its answers**: where a delete removes its key
    exactly if it answers so, the keys go whose deletes do. -/
theorem sweep_removes_outcomes
    (hcall : ∀ k s, Removes lookup (fun j => j = k ∧ (call k s).1 = .ok ()) s (call k s).2)
    (keys : List κ) (s : σ) :
    Removes lookup (fun j => (j, .ok ()) ∈ outcomes call keys s) s
      (sweep (fun k s => (call k s).2) keys s) := by
  induction keys generalizing s with
  | nil => exact removes_same (fun _ => rfl) fun j h => absurd h List.not_mem_nil
  | cons k keys ih =>
    refine ((hcall k s).trans (ih (call k s).2)).congr fun j => ?_
    show _ ↔ (j, .ok ()) ∈ (k, (call k s).1) :: outcomes call keys (call k s).2
    rw [List.mem_cons, Prod.mk.injEq, eq_comm (a := Except.ok ())]

/-- There is no error exactly if every delete succeeds. -/
theorem firstError_eq_none_iff (answers : List (κ × Except ε Unit)) :
    firstError answers = none ↔ ∀ a ∈ answers, a.2 = .ok () := by
  induction answers with
  | nil => exact iff_of_true rfl fun a h => absurd h List.not_mem_nil
  | cons a answers ih =>
    obtain ⟨k, answer⟩ := a
    rw [List.forall_mem_cons]
    cases answer with
    | ok _ =>
      show firstError answers = none ↔ _
      rw [ih]
      exact (and_iff_right rfl).symm
    | error e =>
      refine iff_of_false ?_ ?_
      · intro h
        cases h
      · intro h
        cases h.1

/-- **Which error is the first**: that of a delete behind others that
    succeed. -/
theorem firstError_eq_some_iff (answers : List (κ × Except ε Unit)) (e : ε) :
    firstError answers = some e ↔
      ∃ before k after, answers = before ++ (k, .error e) :: after ∧
        ∀ a ∈ before, a.2 = .ok () := by
  induction answers with
  | nil =>
    refine iff_of_false ?_ ?_
    · intro h
      cases h
    · intro h
      obtain ⟨before, k, after, heq, -⟩ := h
      exact List.append_ne_nil_of_right_ne_nil before (List.cons_ne_nil _ after) heq.symm
  | cons a answers ih =>
    obtain ⟨k, answer⟩ := a
    cases answer with
    | ok u =>
      show firstError answers = some e ↔ _
      rw [ih]
      constructor
      · intro h
        obtain ⟨before, k', after, rfl, hbefore⟩ := h
        exact ⟨(k, .ok u) :: before, k', after, rfl, List.forall_mem_cons.2 ⟨rfl, hbefore⟩⟩
      · intro h
        obtain ⟨before, k', after, heq, hbefore⟩ := h
        cases before with
        | nil => cases heq
        | cons b before =>
          injection heq with _ hrest
          exact ⟨before, k', after, hrest, (List.forall_mem_cons.1 hbefore).2⟩
    | error e' =>
      show some e' = some e ↔ _
      constructor
      · intro h
        injection h with h
        subst h
        exact ⟨[], k, answers, rfl, List.forall_mem_nil _⟩
      · intro h
        obtain ⟨before, k', after, heq, hbefore⟩ := h
        cases before with
        | nil =>
          injection heq with hfirst _
          injection hfirst with _ herror
          injection herror with herror
          rw [herror]
        | cons b before =>
          -- the first answer would be a success
          injection heq with hfirst _
          have hb := hbefore b List.mem_cons_self
          rw [← hfirst] at hb
          cases hb

end ProviiSdk.Sweep
