/-
  ProviiSdk.Lib.Backup — backing up a store in two passes.

  The values of some keys are read into a backup and written back later.
  There are two ways to read, an open one and a gated one.  A first pass
  reads every key the open way, a second pass reads the keys that failed
  the gated way, and a key that fails twice is skipped.  Each value is
  written back the way it was read; the writes that fail are counted.

  Main results:
    * `mem_backUp_iff` — what is backed up at a key is what its reads
      answer, the open one in the state in which the first pass gets to
      the key.
    * `keys_backUp_nodup` — no key is backed up twice.
    * `restore_other`, `restore_entry`, `restore_iff` — what restoring
      does to a key.
    * `restore_failures_eq_zero_iff` — when every write succeeds.
-/

import Mathlib.Data.List.Nodup

namespace ProviiSdk.Backup

variable {σ κ β ε ν α : Type}

/-! ## §1. The two passes -/

/-- What was read at a key, and whether the gated way. -/
abbrev Entry (κ β : Type) := κ × β × Bool

/-- Read the keys the open way and keep the keys that fail. -/
def openPass (read : κ → σ → Except ε β × σ) : List κ → σ → List (Entry κ β) × List κ × σ
  | [], s => ([], [], s)
  | k :: ks, s =>
    match read k s with
    | (.ok d, s) =>
      let (backup, failed, s) := openPass read ks s
      ((k, d, false) :: backup, failed, s)
    | (.error _, s) =>
      let (backup, failed, s) := openPass read ks s
      (backup, k :: failed, s)

/-- Read the keys the gated way and skip the keys that fail. -/
def gatedPass (read : κ → σ → Except ε β × σ) : List κ → σ → List (Entry κ β) × σ
  | [], s => ([], s)
  | k :: ks, s =>
    match read k s with
    | (.ok d, s) =>
      let (backup, s) := gatedPass read ks s
      ((k, d, true) :: backup, s)
    | (.error _, s) => gatedPass read ks s

/-- Both passes. -/
def backUp (openRead gatedRead : κ → σ → Except ε β × σ) (keys : List κ) (s : σ) :
    List (Entry κ β) × σ :=
  let (opened, failed, s) := openPass openRead keys s
  let (gated, s) := gatedPass gatedRead failed s
  (opened ++ gated, s)

/-- The state in which the open pass gets to a key. -/
def stateAt [DecidableEq κ] (read : κ → σ → Except ε β × σ) : List κ → σ → κ → σ
  | [], s, _ => s
  | k :: ks, s, j => if j = k then s else stateAt read ks (read k s).2 j

/-- A key is read as a value: the open read answers with it, or does not
    answer and the gated read answers with it.  `openReads` and
    `gatedReads` say what the two reads answer in a state. -/
def ReadAs [DecidableEq κ] (openReads gatedReads : κ → σ → β → Prop)
    (openRead : κ → σ → Except ε β × σ) (keys : List κ) (s : σ) (k : κ) (d : β) (gated : Bool) :
    Prop :=
  k ∈ keys ∧
    match gated with
    | false => openReads k (stateAt openRead keys s k) d
    | true => (∀ d', ¬ openReads k (stateAt openRead keys s k) d') ∧ gatedReads k s d

/-! ## §2. What is backed up -/

section
variable {read : κ → σ → Except ε β × σ}

theorem openPass_cons_ok {k : κ} {ks : List κ} {s : σ} {d : β} (h : (read k s).1 = .ok d) :
    openPass read (k :: ks) s =
      ((k, d, false) :: (openPass read ks (read k s).2).1, (openPass read ks (read k s).2).2) := by
  rcases hr : read k s with ⟨r, s'⟩
  rw [hr] at h
  subst h
  simp only [openPass, hr]

theorem openPass_cons_error {k : κ} {ks : List κ} {s : σ} {e : ε} (h : (read k s).1 = .error e) :
    openPass read (k :: ks) s =
      ((openPass read ks (read k s).2).1, k :: (openPass read ks (read k s).2).2.1,
        (openPass read ks (read k s).2).2.2) := by
  rcases hr : read k s with ⟨r, s'⟩
  rw [hr] at h
  subst h
  simp only [openPass, hr]

/-- The open pass deals with the keys in order. -/
theorem openPass_sublist (ks : List κ) (s : σ) :
    ((openPass read ks s).1.map (·.1)).Sublist ks ∧ (openPass read ks s).2.1.Sublist ks := by
  induction ks generalizing s with
  | nil => exact ⟨List.Sublist.slnil, List.Sublist.slnil⟩
  | cons k ks ih =>
    obtain ⟨hopened, hfailed⟩ := ih (read k s).2
    cases hr : (read k s).1 with
    | ok d =>
      rw [openPass_cons_ok hr]
      exact ⟨hopened.cons_cons k, hfailed.cons k⟩
    | error e =>
      rw [openPass_cons_error hr]
      exact ⟨hopened.cons k, hfailed.cons_cons k⟩

/-- The open pass backs up what its reads answer. -/
theorem mem_openPass_iff [DecidableEq κ] {ks : List κ} (hks : ks.Nodup) (s : σ) (k : κ) (d : β)
    (b : Bool) :
    (k, d, b) ∈ (openPass read ks s).1 ↔
      b = false ∧ k ∈ ks ∧ (read k (stateAt read ks s k)).1 = .ok d := by
  induction ks generalizing s with
  | nil => simp [openPass]
  | cons j ks ih =>
    obtain ⟨hj, hks⟩ := List.nodup_cons.1 hks
    -- the first key is read first, and not again
    have hnot : ∀ s d b, (j, d, b) ∉ (openPass read ks s).1 := fun s d b hmem =>
      hj ((openPass_sublist ks s).1.subset (List.mem_map_of_mem hmem))
    by_cases hk : k = j
    · subst hk
      rw [stateAt, if_pos rfl]
      cases hr : (read k s).1 with
      | ok d' =>
        rw [openPass_cons_ok hr, List.mem_cons]
        simp only [hnot, or_false, Prod.mk.injEq, true_and, List.mem_cons_self,
          Except.ok.injEq]
        exact ⟨fun h => ⟨h.2, h.1.symm⟩, fun h => ⟨h.2.symm, h.1⟩⟩
      | error e =>
        rw [openPass_cons_error hr]
        exact iff_of_false (hnot _ d b) (by simp)
    · rw [stateAt, if_neg hk, List.mem_cons, or_iff_right hk, ← ih hks]
      cases hr : (read j s).1 with
      | ok d' =>
        rw [openPass_cons_ok hr, List.mem_cons, or_iff_right (fun h => hk (Prod.mk.inj h).1)]
      | error e => rw [openPass_cons_error hr]

/-- The open pass keeps the keys whose reads fail. -/
theorem mem_failed_iff [DecidableEq κ] {ks : List κ} (hks : ks.Nodup) (s : σ) (k : κ) :
    k ∈ (openPass read ks s).2.1 ↔
      k ∈ ks ∧ ∃ e, (read k (stateAt read ks s k)).1 = .error e := by
  induction ks generalizing s with
  | nil => simp [openPass]
  | cons j ks ih =>
    obtain ⟨hj, hks⟩ := List.nodup_cons.1 hks
    have hnot : ∀ s, j ∉ (openPass read ks s).2.1 := fun s hmem =>
      hj ((openPass_sublist ks s).2.subset hmem)
    by_cases hk : k = j
    · subst hk
      rw [stateAt, if_pos rfl]
      cases hr : (read k s).1 with
      | ok d =>
        rw [openPass_cons_ok hr]
        exact iff_of_false (hnot _) (by simp)
      | error e =>
        rw [openPass_cons_error hr]
        simp
    · rw [stateAt, if_neg hk, List.mem_cons, or_iff_right hk, ← ih hks]
      cases hr : (read j s).1 with
      | ok d => rw [openPass_cons_ok hr]
      | error e => rw [openPass_cons_error hr, List.mem_cons, or_iff_right hk]

/-- A pass keeps what every read keeps. -/
theorem view_openPass (view : σ → ν) (hview : ∀ k s, view (read k s).2 = view s) (ks : List κ)
    (s : σ) : view (openPass read ks s).2.2 = view s := by
  induction ks generalizing s with
  | nil => rfl
  | cons k ks ih =>
    cases hr : (read k s).1 with
    | ok d => rw [openPass_cons_ok hr, ih, hview]
    | error e => rw [openPass_cons_error hr, ih, hview]

theorem gatedPass_cons_ok {k : κ} {ks : List κ} {s : σ} {d : β} (h : (read k s).1 = .ok d) :
    gatedPass read (k :: ks) s =
      ((k, d, true) :: (gatedPass read ks (read k s).2).1, (gatedPass read ks (read k s).2).2) := by
  rcases hr : read k s with ⟨r, s'⟩
  rw [hr] at h
  subst h
  simp only [gatedPass, hr]

theorem gatedPass_cons_error {k : κ} {ks : List κ} {s : σ} {e : ε} (h : (read k s).1 = .error e) :
    gatedPass read (k :: ks) s = gatedPass read ks (read k s).2 := by
  rcases hr : read k s with ⟨r, s'⟩
  rw [hr] at h
  subst h
  simp only [gatedPass, hr]

theorem gatedPass_sublist (ks : List κ) (s : σ) :
    ((gatedPass read ks s).1.map (·.1)).Sublist ks := by
  induction ks generalizing s with
  | nil => exact List.Sublist.slnil
  | cons k ks ih =>
    cases hr : (read k s).1 with
    | ok d =>
      rw [gatedPass_cons_ok hr]
      exact (ih _).cons_cons k
    | error e =>
      rw [gatedPass_cons_error hr]
      exact (ih _).cons k

theorem view_gatedPass (view : σ → ν) (hview : ∀ k s, view (read k s).2 = view s) (ks : List κ)
    (s : σ) : view (gatedPass read ks s).2 = view s := by
  induction ks generalizing s with
  | nil => rfl
  | cons k ks ih =>
    cases hr : (read k s).1 with
    | ok d => rw [gatedPass_cons_ok hr, ih, hview]
    | error e => rw [gatedPass_cons_error hr, ih, hview]

/-- The gated pass backs up what its reads answer, if the answers depend
    on nothing that the reads change. -/
theorem mem_gatedPass_iff (view : σ → ν) (hview : ∀ k s, view (read k s).2 = view s)
    (hread : ∀ k s s', view s = view s' → (read k s).1 = (read k s').1) (ks : List κ) (s : σ)
    (k : κ) (d : β) (b : Bool) :
    (k, d, b) ∈ (gatedPass read ks s).1 ↔ b = true ∧ k ∈ ks ∧ (read k s).1 = .ok d := by
  induction ks generalizing s with
  | nil => simp [gatedPass]
  | cons j ks ih =>
    have hnext := ih (read j s).2
    -- a read changes nothing that later reads depend on
    rw [hread k _ s (hview j s)] at hnext
    cases hr : (read j s).1 with
    | ok d' =>
      rw [gatedPass_cons_ok hr, List.mem_cons, hnext, List.mem_cons]
      constructor
      · rintro (h | ⟨hb, hk, hd⟩)
        · injection h with hk h
          injection h with hd hb
          rw [hk, hr, hd]
          exact ⟨hb, Or.inl rfl, rfl⟩
        · exact ⟨hb, Or.inr hk, hd⟩
      · rintro ⟨hb, hk | hk, hd⟩
        · rw [hk, hr] at hd
          injection hd with hd
          exact Or.inl (by rw [hk, hb, hd])
        · exact Or.inr ⟨hb, hk, hd⟩
    | error e =>
      rw [gatedPass_cons_error hr, hnext, List.mem_cons]
      refine and_congr_right fun _ => ⟨fun h => ⟨Or.inr h.1, h.2⟩, ?_⟩
      rintro ⟨hk | hk, hd⟩
      · rw [hk, hr] at hd
        cases hd
      · exact ⟨hk, hd⟩

end

section
variable {openRead gatedRead : κ → σ → Except ε β × σ} (view : σ → ν)
variable (hopen : ∀ k s, view (openRead k s).2 = view s)
variable (hgated : ∀ k s, view (gatedRead k s).2 = view s)
variable (hread : ∀ k s s', view s = view s' → (gatedRead k s).1 = (gatedRead k s').1)

include hopen hgated in
/-- Backing up keeps what every read keeps. -/
theorem view_backUp (keys : List κ) (s : σ) :
    view (backUp openRead gatedRead keys s).2 = view s :=
  (view_gatedPass view hgated _ _).trans (view_openPass view hopen keys s)

include hopen hgated hread in
/-- **What is backed up** at a key is what it is read as. -/
theorem mem_backUp_iff [DecidableEq κ] {openReads gatedReads : κ → σ → β → Prop}
    (hopenReads : ∀ k s d, (openRead k s).1 = .ok d ↔ openReads k s d)
    (hgatedReads : ∀ k s d, (gatedRead k s).1 = .ok d ↔ gatedReads k s d) {keys : List κ}
    (hkeys : keys.Nodup) (s : σ) (k : κ) (d : β) (b : Bool) :
    (k, d, b) ∈ (backUp openRead gatedRead keys s).1 ↔
      ReadAs openReads gatedReads openRead keys s k d b := by
  have hfails : ∀ r : Except ε β, (∃ e, r = .error e) ↔ ∀ d, ¬ r = .ok d := by
    intro r
    cases r <;> simp
  show (k, d, b) ∈ _ ++ _ ↔ _
  rw [List.mem_append, mem_openPass_iff hkeys, mem_gatedPass_iff view hgated hread,
    mem_failed_iff hkeys, hread k _ s (view_openPass view hopen keys s), hfails, hgatedReads]
  simp only [hopenReads]
  unfold ReadAs
  cases b <;> simp [and_assoc]

/-- **No key is backed up twice.** -/
theorem keys_backUp_nodup [DecidableEq κ] {keys : List κ} (hkeys : keys.Nodup) (s : σ) :
    ((backUp openRead gatedRead keys s).1.map (·.1)).Nodup := by
  show (((openPass openRead keys s).1 ++ (gatedPass gatedRead _ _).1).map (·.1)).Nodup
  have hopened : ((openPass openRead keys s).1.map (·.1)).Sublist keys :=
    (openPass_sublist keys s).1
  have hfailed : (openPass openRead keys s).2.1.Sublist keys := (openPass_sublist keys s).2
  rw [List.map_append, List.nodup_append]
  refine ⟨hkeys.sublist hopened, (hkeys.sublist hfailed).sublist (gatedPass_sublist _ _), ?_⟩
  rintro k hk j hj rfl
  -- a key of the first pass did not fail
  obtain ⟨⟨_, d, b⟩, hmem, rfl⟩ := List.mem_map.1 hk
  obtain ⟨e, he⟩ := ((mem_failed_iff hkeys s _).1 ((gatedPass_sublist _ _).subset hj)).2
  rw [((mem_openPass_iff hkeys s _ d b).1 hmem).2.2] at he
  cases he

end

/-! ## §3. Writing back -/

/-- Write the backup back, key by key, and count the writes that fail. -/
def restore (write : κ → β → Bool → σ → Except ε Unit × σ) : List (Entry κ β) → σ → Nat × σ
  | [], s => (0, s)
  | (k, d, b) :: rest, s =>
    match write k d b s with
    | (.ok (), s) => restore write rest s
    | (.error _, s) =>
      let (failures, s) := restore write rest s
      (failures + 1, s)

section
variable {write : κ → β → Bool → σ → Except ε Unit × σ}

theorem restore_cons_snd (k : κ) (d : β) (b : Bool) (rest : List (Entry κ β)) (s : σ) :
    (restore write ((k, d, b) :: rest) s).2 = (restore write rest (write k d b s).2).2 := by
  rcases hw : write k d b s with ⟨r, s'⟩
  cases r <;> simp only [restore, hw]

/-- **No write fails** exactly when each one is one that succeeds. -/
theorem restore_failures_eq_zero_iff (Done : κ → β → Bool → Prop)
    (hdone : ∀ k d b s, (write k d b s).1 = .ok () ↔ Done k d b) (backup : List (Entry κ β))
    (s : σ) :
    (restore write backup s).1 = 0 ↔ ∀ k d b, (k, d, b) ∈ backup → Done k d b := by
  induction backup generalizing s with
  | nil => simp [restore]
  | cons e rest ih =>
    obtain ⟨k, d, b⟩ := e
    have hk := hdone k d b s
    have hrest := ih (write k d b s).2
    rcases hw : write k d b s with ⟨r, s'⟩
    rw [hw] at hk hrest
    cases r with
    | ok _ =>
      simp only [restore, hw]
      rw [hrest]
      constructor
      · intro h k' d' b' hmem
        rcases List.mem_cons.1 hmem with heq | hmem
        · injection heq with h1 h2
          injection h2 with h2 h3
          rw [h1, h2, h3]
          exact hk.1 rfl
        · exact h k' d' b' hmem
      · exact fun h k' d' b' hmem => h k' d' b' (List.mem_cons_of_mem _ hmem)
    | error e =>
      simp only [restore, hw]
      refine iff_of_false (Nat.succ_ne_zero _) fun h => ?_
      have := hk.2 (h k d b List.mem_cons_self)
      cases this

variable (look : σ → κ → α)
variable (hframe : ∀ k d b s j, j ≠ k → look (write k d b s).2 j = look s j)

include hframe in
/-- A key that is not backed up is left alone. -/
theorem restore_other (backup : List (Entry κ β)) (s : σ) (j : κ)
    (hj : j ∉ backup.map (·.1)) : look (restore write backup s).2 j = look s j := by
  induction backup generalizing s with
  | nil => rfl
  | cons e rest ih =>
    obtain ⟨k, d, b⟩ := e
    rw [List.map_cons, List.mem_cons, not_or] at hj
    rw [restore_cons_snd, ih _ hj.2, hframe k d b s j hj.1]

include hframe in
/-- **A key that is backed up** ends as the write of its entry leaves it,
    from a state in which the key is as it was before. -/
theorem restore_entry (backup : List (Entry κ β)) (hkeys : (backup.map (·.1)).Nodup) (s : σ) (k : κ)
    (d : β) (b : Bool) (hmem : (k, d, b) ∈ backup) :
    ∃ s', look s' k = look s k ∧ look (restore write backup s).2 k = look (write k d b s').2 k := by
  induction backup generalizing s with
  | nil => cases hmem
  | cons e rest ih =>
    obtain ⟨k', d', b'⟩ := e
    obtain ⟨hk', hrest⟩ := List.nodup_cons.1 hkeys
    rw [restore_cons_snd]
    rcases List.mem_cons.1 hmem with heq | hlater
    · injection heq with h1 h2
      injection h2 with h2 h3
      subst h1 h2 h3
      exact ⟨s, rfl, restore_other look hframe rest _ k hk'⟩
    · have hne : k ≠ k' := by
        rintro rfl
        exact hk' (List.mem_map.2 ⟨_, hlater, rfl⟩)
      -- the first write is to another key
      obtain ⟨s', hs', hlook⟩ := ih hrest (write k' d' b' s).2 hlater
      exact ⟨s', hs'.trans (hframe k' d' b' s k hne), hlook⟩

include hframe in
/-- **A property of what is at a key**, true before, is true after exactly
    when it is true after the write of the key's entry, if there is
    one. -/
theorem restore_iff (backup : List (Entry κ β)) (hkeys : (backup.map (·.1)).Nodup) (s : σ) (k : κ)
    (P : α → Prop) (Q : β → Bool → Prop) (hP : P (look s k))
    (hwrite : ∀ s' d b, look s' k = look s k → (P (look (write k d b s').2 k) ↔ Q d b)) :
    P (look (restore write backup s).2 k) ↔ ∀ d b, (k, d, b) ∈ backup → Q d b := by
  constructor
  · intro h d b hmem
    obtain ⟨s', hs', hlook⟩ := restore_entry look hframe backup hkeys s k d b hmem
    rw [hlook] at h
    exact (hwrite s' d b hs').1 h
  · intro h
    by_cases hk : k ∈ backup.map (·.1)
    · obtain ⟨⟨k', d, b⟩, hmem, rfl⟩ := List.mem_map.1 hk
      obtain ⟨s', hs', hlook⟩ := restore_entry look hframe backup hkeys s k' d b hmem
      rw [hlook]
      exact (hwrite s' d b hs').2 (h d b hmem)
    · rwa [restore_other look hframe backup s k hk]

end

end ProviiSdk.Backup
