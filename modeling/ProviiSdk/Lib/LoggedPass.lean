/-
  ProviiSdk.Lib.LoggedPass — passes that log what fails.

  A sweep, the second pass of a backup and a restore go over keys and log
  each one that fails.  Logging may itself panic; then the pass does not
  return.  Each pass returns what the pass without a log does, exactly if
  every key it logs can be logged.

  Main results:
    * `sweepLogged_eq_some_iff`, `gatedPassLogged_eq_some_iff`,
      `restoreLogged_eq_some_iff` — when a pass returns, and with what.
-/

import ProviiSdk.Lib.Backup
import ProviiSdk.Lib.Sweep

namespace ProviiSdk.LoggedPass

open ProviiSdk.Backup ProviiSdk.Sweep

variable {σ κ β ε : Type}

/-! ## §1. Sweeps -/

/-- Delete the keys one after the other, and log the ones that fail.  A
    panic is none. -/
def sweepLogged (log : κ → Option Unit) (del : κ → σ → Except ε Unit × σ) : List κ → σ → Option σ
  | [], s => some s
  | k :: keys, s =>
    match del k s with
    | (.ok (), s) => sweepLogged log del keys s
    | (.error _, s) =>
      match log k with
      | none => none
      | some () => sweepLogged log del keys s

/-- **When a sweep returns**, where it is settled beforehand which deletes
    fail. -/
theorem sweepLogged_eq_some_iff (log : κ → Option Unit) {del : κ → σ → Except ε Unit × σ}
    {fails : κ → Prop} (hfails : ∀ k s, (del k s).1 = .ok () ↔ ¬ fails k) (keys : List κ)
    (s s' : σ) :
    sweepLogged log del keys s = some s' ↔
      s' = sweep (fun k s => (del k s).2) keys s ∧ ∀ k ∈ keys, fails k → log k = some () := by
  induction keys generalizing s with
  | nil =>
    rw [sweepLogged, Option.some.injEq, eq_comm]
    exact (and_iff_left fun _ h => absurd h List.not_mem_nil).symm
  | cons k keys ih =>
    have hk := hfails k s
    have hsweep : sweep (fun k s => (del k s).2) (k :: keys) s =
        sweep (fun k s => (del k s).2) keys (del k s).2 := rfl
    rw [hsweep, List.forall_mem_cons]
    unfold sweepLogged
    cases hdel : del k s with
    | mk answer s₁ =>
      rw [hdel] at hk
      cases answer with
      | ok _ =>
        have hnot : ¬ fails k := hk.1 rfl
        show sweepLogged log del keys s₁ = some s' ↔ _
        rw [ih s₁]
        exact and_congr_right fun _ => (and_iff_right fun h => absurd h hnot).symm
      | error e =>
        have hfail : fails k := by
          by_contra hnot
          cases hk.2 hnot
        cases hlog : log k with
        | none =>
          refine iff_of_false ?_ ?_
          · intro h
            cases h
          · rintro ⟨-, hall, -⟩
            cases hall hfail
        | some _ =>
          show sweepLogged log del keys s₁ = some s' ↔ _
          rw [ih s₁]
          exact and_congr_right fun _ => (and_iff_right fun _ => rfl).symm

/-! ## §2. The second pass of a backup -/

/-- Read the keys the gated way, and log the keys that fail. -/
def gatedPassLogged (log : κ → Option Unit) (read : κ → σ → Except ε β × σ) :
    List κ → σ → Option (List (Entry κ β) × σ)
  | [], s => some ([], s)
  | k :: ks, s =>
    match read k s with
    | (.ok d, s) => (gatedPassLogged log read ks s).map fun r => ((k, d, true) :: r.1, r.2)
    | (.error _, s) =>
      match log k with
      | none => none
      | some () => gatedPassLogged log read ks s

/-- **When the pass returns**: the keys it skips can be logged. -/
theorem gatedPassLogged_eq_some_iff (log : κ → Option Unit) (read : κ → σ → Except ε β × σ)
    {ks : List κ} (hks : ks.Nodup) (s : σ) (r : List (Entry κ β) × σ) :
    gatedPassLogged log read ks s = some r ↔
      r = gatedPass read ks s ∧
        ∀ k ∈ ks, (∀ d b, (k, d, b) ∉ (gatedPass read ks s).1) → log k = some () := by
  induction ks generalizing s r with
  | nil =>
    rw [gatedPassLogged, Option.some.injEq, eq_comm]
    exact (and_iff_left fun _ h => absurd h List.not_mem_nil).symm
  | cons k ks ih =>
    obtain ⟨hk, hks⟩ := List.nodup_cons.1 hks
    -- the first key is not read again
    have hnot : ∀ s d b, (k, d, b) ∉ (gatedPass read ks s).1 := fun s d b hmem =>
      hk ((gatedPass_sublist ks s).subset (List.mem_map_of_mem hmem))
    rw [List.forall_mem_cons]
    unfold gatedPassLogged gatedPass
    cases read k s with
    | mk answer s₁ =>
      cases answer with
      | ok d =>
        simp only [Option.map_eq_some_iff, ih hks]
        constructor
        · rintro ⟨r', ⟨rfl, hall⟩, rfl⟩
          refine ⟨rfl, fun h => absurd List.mem_cons_self (h d true), fun j hj h => ?_⟩
          exact hall j hj fun d b hmem => h d b (List.mem_cons_of_mem _ hmem)
        · rintro ⟨rfl, -, hall⟩
          refine ⟨_, ⟨rfl, fun j hj h => hall j hj fun d b hmem => ?_⟩, rfl⟩
          rcases List.mem_cons.1 hmem with heq | hmem
          · injection heq with hjk _
            exact hk (hjk ▸ hj)
          · exact h d b hmem
      | error e =>
        cases hlog : log k with
        | none =>
          refine iff_of_false ?_ ?_
          · intro h
            cases h
          · rintro ⟨-, hfirst, -⟩
            cases hfirst (hnot s₁)
        | some _ =>
          show gatedPassLogged log read ks s₁ = some r ↔ _
          rw [ih hks]
          exact and_congr_right fun _ => (and_iff_right fun _ => rfl).symm

/-! ## §3. Restoring -/

/-- Write the backup back, and log the keys whose writes fail. -/
def restoreLogged (log : κ → Option Unit) (write : κ → β → Bool → σ → Except ε Unit × σ) :
    List (Entry κ β) → σ → Option (Nat × σ)
  | [], s => some (0, s)
  | (k, d, b) :: rest, s =>
    match write k d b s with
    | (.ok (), s) => restoreLogged log write rest s
    | (.error _, s) =>
      match log k with
      | none => none
      | some () => (restoreLogged log write rest s).map fun r => (r.1 + 1, r.2)

/-- **When a restore returns**, where it is settled beforehand which
    writes fail. -/
theorem restoreLogged_eq_some_iff (log : κ → Option Unit)
    {write : κ → β → Bool → σ → Except ε Unit × σ} {fails : κ → β → Bool → Prop}
    (hfails : ∀ k d b s, (write k d b s).1 = .ok () ↔ ¬ fails k d b)
    (backup : List (Entry κ β)) (s : σ) (r : Nat × σ) :
    restoreLogged log write backup s = some r ↔
      r = restore write backup s ∧
        ∀ e ∈ backup, fails e.1 e.2.1 e.2.2 → log e.1 = some () := by
  induction backup generalizing s r with
  | nil =>
    rw [restoreLogged, Option.some.injEq, eq_comm]
    exact (and_iff_left fun _ h => absurd h List.not_mem_nil).symm
  | cons e rest ih =>
    obtain ⟨k, d, b⟩ := e
    have hk := hfails k d b s
    rw [List.forall_mem_cons]
    unfold restoreLogged restore
    cases hwrite : write k d b s with
    | mk answer s₁ =>
      rw [hwrite] at hk
      cases answer with
      | ok _ =>
        have hnot : ¬ fails k d b := hk.1 rfl
        show restoreLogged log write rest s₁ = some r ↔ r = restore write rest s₁ ∧ _
        rw [ih s₁]
        exact and_congr_right fun _ => (and_iff_right fun h => absurd h hnot).symm
      | error e =>
        have hfail : fails k d b := by
          by_contra hnot
          cases hk.2 hnot
        cases hlog : log k with
        | none =>
          refine iff_of_false ?_ ?_
          · intro h
            cases h
          · rintro ⟨-, hall, -⟩
            cases hall hfail
        | some _ =>
          simp only [Option.map_eq_some_iff, ih]
          constructor
          · rintro ⟨r', ⟨rfl, hall⟩, rfl⟩
            exact ⟨rfl, fun _ => trivial, hall⟩
          · rintro ⟨rfl, -, hall⟩
            exact ⟨_, ⟨rfl, hall⟩, rfl⟩

end ProviiSdk.LoggedPass
