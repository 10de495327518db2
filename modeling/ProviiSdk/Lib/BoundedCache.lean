/-
  ProviiSdk.Lib.BoundedCache — a cache with a cap and expiring entries.

  A cache holds one entry per key.  An entry is live or has expired, as a
  test on it says.  New entries are offered to the cache: at the cap it
  first lets go of what has expired, and if it is still at the cap it
  refuses.  A sweep removes the expired entries at any time.

  Main results:
    * `size_offer_le`, `size_sweep_le` — no operation goes over the cap.
    * `lookup_offer`, `lookup_sweep` — what each does to every key.
    * `offer_refused` — a refusal leaves a cache within its cap as it
      was.
-/

import Mathlib.Data.List.AList

namespace ProviiSdk.BoundedCache

/-- A cache: one entry per key. -/
abbrev Cache (κ ε : Type*) := AList (fun _ : κ => ε)

variable {κ ε : Type*}

/-- The number of entries. -/
def size (m : Cache κ ε) : Nat := m.entries.length

/-- Keep the entries that pass a test. -/
def retain (keep : ε → Bool) (m : Cache κ ε) : Cache κ ε :=
  ⟨m.entries.filter fun p => keep p.2, m.nodupKeys.sublist List.filter_sublist⟩

/-- At the cap, let go of what has expired. -/
def makeRoom (cap : Nat) (live : ε → Bool) (m : Cache κ ε) : Cache κ ε :=
  if cap ≤ size m then retain live m else m

/-- Every entry meets a condition. -/
def AllEntries (P : κ → ε → Prop) [DecidableEq κ] (m : Cache κ ε) : Prop :=
  ∀ k e, m.lookup k = some e → P k e

/-! ## §1. Sizes -/

theorem size_retain_le (keep : ε → Bool) (m : Cache κ ε) : size (retain keep m) ≤ size m :=
  List.length_filter_le _ _

theorem size_makeRoom_le (cap : Nat) (live : ε → Bool) (m : Cache κ ε) :
    size (makeRoom cap live m) ≤ size m := by
  unfold makeRoom
  by_cases h : cap ≤ size m
  · rw [if_pos h]
    exact size_retain_le live m
  · rw [if_neg h]

/-- Keeping some entries and losing none changes nothing. -/
theorem retain_eq_of_size_le (keep : ε → Bool) (m : Cache κ ε)
    (h : size m ≤ size (retain keep m)) : retain keep m = m := by
  apply AList.ext
  exact List.filter_sublist.eq_of_length_le h

variable [DecidableEq κ]

/-- Offer an entry to the cache: whether it was taken, and the cache. -/
def offer (cap : Nat) (live : ε → Bool) (key : κ) (entry : ε) (m : Cache κ ε) :
    Bool × Cache κ ε :=
  let m := makeRoom cap live m
  if cap ≤ size m then (false, m) else (true, m.insert key entry)

/-- The keys of the entries that have expired. -/
def expiredKeys (expired : ε → Bool) (m : Cache κ ε) : List κ :=
  (m.entries.filter fun p => expired p.2).map Sigma.fst

/-- Remove the expired entries one after the other. -/
def sweep (expired : ε → Bool) (m : Cache κ ε) : Cache κ ε :=
  (expiredKeys expired m).foldl (fun m k => m.erase k) m

theorem size_erase_le (key : κ) (m : Cache κ ε) : size (m.erase key) ≤ size m :=
  (List.kerase_sublist key m.entries).length_le

theorem size_insert_le (key : κ) (entry : ε) (m : Cache κ ε) :
    size (m.insert key entry) ≤ size m + 1 := by
  have h := size_erase_le key m
  unfold size at h ⊢
  rw [AList.entries_insert, List.length_cons]
  exact Nat.succ_le_succ h

/-- **An offer never goes over the cap.** -/
theorem size_offer_le (cap : Nat) (live : ε → Bool) (key : κ) (entry : ε) (m : Cache κ ε)
    (h : size m ≤ cap) : size (offer cap live key entry m).2 ≤ cap := by
  have hroom := size_makeRoom_le cap live m
  unfold offer
  by_cases hfull : cap ≤ size (makeRoom cap live m)
  · simp only [if_pos hfull]
    omega
  · have hinsert := size_insert_le key entry (makeRoom cap live m)
    simp only [if_neg hfull]
    omega

theorem size_eraseKeys_le (ks : List κ) (m : Cache κ ε) :
    size (ks.foldl (fun m k => m.erase k) m) ≤ size m := by
  induction ks generalizing m with
  | nil => exact Nat.le_refl _
  | cons k ks ih =>
    rw [List.foldl_cons]
    exact Nat.le_trans (ih (m.erase k)) (size_erase_le k m)

theorem size_sweep_le (expired : ε → Bool) (m : Cache κ ε) : size (sweep expired m) ≤ size m :=
  size_eraseKeys_le _ m

/-! ## §2. What each operation does to every key -/

theorem lookup_insert (key k : κ) (entry : ε) (m : Cache κ ε) :
    (m.insert key entry).lookup k = if k = key then some entry else m.lookup k := by
  by_cases h : k = key
  · rw [if_pos h, h, AList.lookup_insert]
  · rw [if_neg h, AList.lookup_insert_ne h]

/-- A key is kept with its entry if the entry passes the test. -/
theorem lookup_retain (keep : ε → Bool) (m : Cache κ ε) (k : κ) :
    (retain keep m).lookup k = (m.lookup k).filter keep := by
  ext e
  have hleft := AList.mem_lookup_iff (a := k) (b := e) (s := retain keep m)
  have hright := AList.mem_lookup_iff (a := k) (b := e) (s := m)
  rw [Option.mem_def] at hleft hright
  rw [hleft, Option.filter_eq_some_iff, hright]
  exact List.mem_filter

theorem lookup_makeRoom (cap : Nat) (live : ε → Bool) (m : Cache κ ε) (k : κ) :
    (makeRoom cap live m).lookup k =
      if cap ≤ size m then (m.lookup k).filter live else m.lookup k := by
  unfold makeRoom
  by_cases h : cap ≤ size m
  · rw [if_pos h, if_pos h, lookup_retain]
  · rw [if_neg h, if_neg h]

/-- **What an offer does to every key**: a taken entry is under its key,
    and every other key keeps its entry unless room was made and the
    entry had expired. -/
theorem lookup_offer (cap : Nat) (live : ε → Bool) (key : κ) (entry : ε) (m : Cache κ ε) (k : κ) :
    (offer cap live key entry m).2.lookup k =
      if (offer cap live key entry m).1 = true ∧ k = key then some entry
      else if cap ≤ size m then (m.lookup k).filter live else m.lookup k := by
  rw [← lookup_makeRoom]
  unfold offer
  by_cases hfull : cap ≤ size (makeRoom cap live m)
  · simp only [if_pos hfull, Bool.false_eq_true, false_and, if_false]
  · simp only [if_neg hfull, true_and, lookup_insert]

/-- What is in a cache after an offer: the entry that was taken, or what
    was there under another key. -/
theorem lookup_offer_some {cap : Nat} {live : ε → Bool} {key : κ} {entry : ε} {m : Cache κ ε}
    {k : κ} {e : ε} (h : (offer cap live key entry m).2.lookup k = some e) :
    ((offer cap live key entry m).1 = true ∧ k = key ∧ e = entry) ∨
      (m.lookup k = some e ∧ ((offer cap live key entry m).1 = true → k ≠ key)) := by
  rw [lookup_offer] at h
  split at h
  next htaken =>
    injection h with h
    exact Or.inl ⟨htaken.1, htaken.2, h.symm⟩
  next hother =>
    refine Or.inr ⟨?_, fun htaken hkey => hother ⟨htaken, hkey⟩⟩
    split at h
    · exact (Option.filter_eq_some_iff.1 h).1
    · exact h

/-- An entry that an offer takes is under its key. -/
theorem lookup_offer_self {cap : Nat} {live : ε → Bool} {key : κ} {entry : ε} {m : Cache κ ε}
    (h : (offer cap live key entry m).1 = true) :
    (offer cap live key entry m).2.lookup key = some entry := by
  rw [lookup_offer, if_pos ⟨h, rfl⟩]

/-- **A refusal leaves a cache within its cap as it was.** -/
theorem offer_refused {cap : Nat} {live : ε → Bool} {key : κ} {entry : ε} {m : Cache κ ε}
    (hsize : size m ≤ cap) (h : (offer cap live key entry m).1 = false) :
    (offer cap live key entry m).2 = m := by
  unfold offer at h ⊢
  by_cases hfull : cap ≤ size (makeRoom cap live m)
  · simp only [if_pos hfull]
    -- still at the cap, so letting go of what has expired lost nothing
    unfold makeRoom at hfull ⊢
    by_cases hcap : cap ≤ size m
    · rw [if_pos hcap] at hfull ⊢
      exact retain_eq_of_size_le live m (Nat.le_trans hsize hfull)
    · rw [if_neg hcap]
  · simp only [if_neg hfull, Bool.true_eq_false] at h

/-- An offer is taken if there is room once room was made. -/
theorem offer_taken_iff (cap : Nat) (live : ε → Bool) (key : κ) (entry : ε) (m : Cache κ ε) :
    (offer cap live key entry m).1 = true ↔ size (makeRoom cap live m) < cap := by
  unfold offer
  by_cases hfull : cap ≤ size (makeRoom cap live m)
  · simp only [if_pos hfull]
    exact iff_of_false Bool.false_ne_true (by omega)
  · simp only [if_neg hfull]
    exact iff_of_true trivial (by omega)

/-- A cache below its cap takes every offer. -/
theorem offer_taken {cap : Nat} {m : Cache κ ε} (live : ε → Bool) (key : κ) (entry : ε)
    (h : size m < cap) : (offer cap live key entry m).1 = true :=
  (offer_taken_iff ..).2 (Nat.lt_of_le_of_lt (size_makeRoom_le cap live m) h)

theorem lookup_eraseKeys (ks : List κ) (m : Cache κ ε) (k : κ) :
    (ks.foldl (fun m k => m.erase k) m).lookup k = if k ∈ ks then none else m.lookup k := by
  induction ks generalizing m with
  | nil => rw [if_neg List.not_mem_nil, List.foldl_nil]
  | cons a ks ih =>
    rw [List.foldl_cons, ih]
    by_cases hk : k ∈ ks
    · rw [if_pos hk, if_pos (List.mem_cons_of_mem a hk)]
    · rw [if_neg hk]
      by_cases ha : k = a
      · rw [ha, AList.lookup_erase, if_pos List.mem_cons_self]
      · rw [AList.lookup_erase_ne ha, if_neg]
        intro hmem
        rcases List.mem_cons.1 hmem with h | h
        · exact ha h
        · exact hk h

/-- **A sweep removes exactly the expired entries.** -/
theorem lookup_sweep (expired : ε → Bool) (m : Cache κ ε) (k : κ) :
    (sweep expired m).lookup k = (m.lookup k).filter fun e => !expired e := by
  have hmem : ∀ e, m.lookup k = some e → (k ∈ expiredKeys expired m ↔ expired e = true) := by
    intro e he
    unfold expiredKeys
    rw [List.mem_map]
    constructor
    · rintro ⟨⟨k', e'⟩, hp, rfl⟩
      rw [List.mem_filter] at hp
      have he' := AList.mem_lookup_iff.2 hp.1
      rw [Option.mem_def, he] at he'
      injection he' with he'
      rw [he']
      exact hp.2
    · intro hexp
      exact ⟨⟨k, e⟩, List.mem_filter.2 ⟨AList.mem_lookup_iff.1 he, hexp⟩, rfl⟩
  unfold sweep
  rw [lookup_eraseKeys]
  cases he : m.lookup k with
  | none => rw [ite_self, Option.filter_none]
  | some e =>
    rw [Option.filter_some]
    by_cases hexp : expired e = true
    · rw [if_pos ((hmem e he).2 hexp), hexp]
      rfl
    · rw [if_neg (fun h => hexp ((hmem e he).1 h)), Bool.not_eq_true _ |>.mp hexp]
      rfl

/-- Distinct keys that are all in the cache are no more than its entries. -/
theorem length_le_size {ks : List κ} {m : Cache κ ε} (hks : ks.Nodup)
    (h : ∀ k ∈ ks, m.lookup k ≠ none) : ks.length ≤ size m := by
  have hsub : ks ⊆ m.keys := by
    intro k hk
    by_contra hnot
    exact h k hk (AList.lookup_eq_none.2 hnot)
  have hle := hks.length_le_of_subset hsub
  unfold size
  rw [AList.keys, List.keys, List.length_map] at hle
  exact hle

/-! ## §3. Conditions on all entries -/

theorem allEntries_empty (P : κ → ε → Prop) : AllEntries P (∅ : Cache κ ε) := by
  intro k e h
  rw [AList.lookup_empty] at h
  cases h

/-- An offer keeps a condition that the new entry meets. -/
theorem allEntries_offer {P : κ → ε → Prop} {m : Cache κ ε} (hm : AllEntries P m) (cap : Nat)
    (live : ε → Bool) (key : κ) (entry : ε) (hnew : P key entry) :
    AllEntries P (offer cap live key entry m).2 := by
  intro k e h
  rcases lookup_offer_some h with ⟨-, hkey, hentry⟩ | ⟨hold, -⟩
  · rw [hkey, hentry]
    exact hnew
  · exact hm k e hold

/-- A sweep keeps every condition. -/
theorem allEntries_sweep {P : κ → ε → Prop} {m : Cache κ ε} (hm : AllEntries P m)
    (expired : ε → Bool) : AllEntries P (sweep expired m) := by
  intro k e h
  rw [lookup_sweep] at h
  exact hm k e (Option.filter_eq_some_iff.1 h).1

end ProviiSdk.BoundedCache
