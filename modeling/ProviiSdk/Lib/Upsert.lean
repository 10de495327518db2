/-
  ProviiSdk.Lib.Upsert — lists of entries with a key, merged by upsert.

  An upsert replaces the first entry with the new entry's key, or puts
  the new entry at the end.  On a list with one entry per key it is the
  update of a finite map; on any other list the entries behind the first
  one keep their old values.

  Main results:
    * `oneEach_upsertAll` — upserts keep one entry per key.
    * `upsertAll_nil_iff` — merging a list into the empty one gives the
      list back exactly when it has one entry per key.
    * `agrees_upsertAll` — after a merge the entries are the latest ones.
    * `map_key_upsertAll`, `mem_upsertAll` — the keys after a merge, in
      order, and the entry under each.
    * `upsertAll_idem` — a merge made twice is the merge made once.
-/

import Mathlib.Data.List.Nodup
import Mathlib.Logic.Function.Basic

namespace ProviiSdk.Upsert

variable {α κ : Type*} [DecidableEq κ] (key : α → κ)

/-! ## §1. Upserts -/

/-- Replace the first entry with the new entry's key, or append. -/
def upsert : List α → α → List α
  | [], new => [new]
  | x :: xs, new => if key x = key new then new :: xs else x :: upsert xs new

/-- Upsert the new entries in order. -/
def upsertAll (xs news : List α) : List α := news.foldl (upsert key) xs

/-- One entry per key. -/
def OneEach (xs : List α) : Prop := (xs.map key).Nodup

/-- A record of the latest entry under each key, after `news`. -/
def learn (latest : κ → Option α) (news : List α) : κ → Option α :=
  news.foldl (fun m x => Function.update m (key x) (some x)) latest

/-- Every entry is the latest one under its key, where there is one. -/
def Agrees (xs : List α) (latest : κ → Option α) : Prop :=
  ∀ x ∈ xs, ∀ y, latest (key x) = some y → x = y

variable {key}

/-! ## §2. One upsert -/

theorem key_mem_upsert (xs : List α) (new : α) (k : κ) :
    k ∈ (upsert key xs new).map key ↔ k ∈ xs.map key ∨ k = key new := by
  induction xs with
  | nil => simp [upsert]
  | cons x xs ih =>
    unfold upsert
    split
    next h => simp [h]; tauto
    next h =>
      simp only [List.map_cons, List.mem_cons, ih]
      tauto

theorem oneEach_upsert {xs : List α} (h : OneEach key xs) (new : α) :
    OneEach key (upsert key xs new) := by
  unfold OneEach at h ⊢
  induction xs with
  | nil => simp [upsert]
  | cons x xs ih =>
    rw [List.map_cons, List.nodup_cons] at h
    unfold upsert
    split
    next heq =>
      rw [List.map_cons, List.nodup_cons, ← heq]
      exact h
    next hne =>
      rw [List.map_cons, List.nodup_cons, key_mem_upsert]
      refine ⟨fun hmem => ?_, ih h.2⟩
      rcases hmem with hmem | hmem
      · exact h.1 hmem
      · exact hne hmem

/-- An entry after an upsert is the new one, or an old one under another
    key. -/
theorem mem_upsert {xs : List α} (h : OneEach key xs) (new x : α) (hx : x ∈ upsert key xs new) :
    x = new ∨ x ∈ xs ∧ key x ≠ key new := by
  unfold OneEach at h
  induction xs with
  | nil => exact Or.inl (List.mem_singleton.1 hx)
  | cons y ys ih =>
    rw [List.map_cons, List.nodup_cons] at h
    unfold upsert at hx
    split at hx
    next heq =>
      rcases List.mem_cons.1 hx with rfl | hmem
      · exact Or.inl rfl
      · refine Or.inr ⟨List.mem_cons_of_mem y hmem, fun hkey => h.1 ?_⟩
        rw [heq, ← hkey]
        exact List.mem_map_of_mem hmem
    next hne =>
      rcases List.mem_cons.1 hx with rfl | hmem
      · exact Or.inr ⟨List.mem_cons_self, hne⟩
      · rcases ih h.2 hmem with hnew | ⟨hold, hkey⟩
        · exact Or.inl hnew
        · exact Or.inr ⟨List.mem_cons_of_mem y hold, hkey⟩

/-- An upsert keeps the list in agreement with the record it updates. -/
theorem agrees_upsert {xs : List α} {latest : κ → Option α} (h : OneEach key xs)
    (hxs : Agrees key xs latest) (new : α) :
    Agrees key (upsert key xs new) (Function.update latest (key new) (some new)) := by
  intro x hx y hy
  rcases mem_upsert h new x hx with rfl | ⟨hold, hkey⟩
  · rw [Function.update_self] at hy
    injection hy
  · rw [Function.update_of_ne hkey] at hy
    exact hxs x hold y hy

/-- Where no entry has the key, an upsert appends. -/
theorem upsert_of_notMem {xs : List α} {new : α} (h : key new ∉ xs.map key) :
    upsert key xs new = xs ++ [new] := by
  induction xs with
  | nil => rfl
  | cons x xs ih =>
    rw [List.map_cons, List.mem_cons, not_or] at h
    unfold upsert
    rw [if_neg (fun heq => h.1 heq.symm), ih h.2]
    rfl

/-! ## §3. Merging a list -/

/-- **Upserts keep one entry per key.** -/
theorem oneEach_upsertAll {xs : List α} (h : OneEach key xs) (news : List α) :
    OneEach key (upsertAll key xs news) := by
  unfold upsertAll
  induction news generalizing xs with
  | nil => exact h
  | cons n ns ih => exact ih (oneEach_upsert h n)

/-- **After a merge the entries are the latest ones.** -/
theorem agrees_upsertAll {xs : List α} {latest : κ → Option α} (h : OneEach key xs)
    (hxs : Agrees key xs latest) (news : List α) :
    Agrees key (upsertAll key xs news) (learn key latest news) := by
  unfold upsertAll learn
  induction news generalizing xs latest with
  | nil => exact hxs
  | cons n ns ih => exact ih (oneEach_upsert h n) (agrees_upsert h hxs n)

/-- A merge drops no key. -/
theorem key_mem_upsertAll {xs : List α} {k : κ} (h : k ∈ xs.map key) (news : List α) :
    k ∈ (upsertAll key xs news).map key := by
  unfold upsertAll
  induction news generalizing xs with
  | nil => exact h
  | cons n ns ih => exact ih ((key_mem_upsert xs n k).2 (Or.inl h))

/-- Entries under new keys are appended in order. -/
theorem upsertAll_eq_append {xs news : List α} (h : OneEach key (xs ++ news)) :
    upsertAll key xs news = xs ++ news := by
  unfold upsertAll
  induction news generalizing xs with
  | nil => rw [List.foldl_nil, List.append_nil]
  | cons n ns ih =>
    have hsplit : xs ++ n :: ns = (xs ++ [n]) ++ ns := by simp
    rw [hsplit] at h ⊢
    have hnew : key n ∉ xs.map key := by
      intro hmem
      unfold OneEach at h
      rw [List.map_append, List.map_append] at h
      have hdisj := List.disjoint_of_nodup_append (List.Nodup.of_append_left h)
      exact hdisj hmem (List.mem_singleton_self (key n))
    rw [List.foldl_cons, upsert_of_notMem hnew]
    exact ih h

omit [DecidableEq κ] in
theorem oneEach_nil : OneEach key ([] : List α) := List.nodup_nil

/-- **Merging into the empty list** gives the list back exactly when it
    has one entry per key. -/
theorem upsertAll_nil_iff (news : List α) : upsertAll key [] news = news ↔ OneEach key news := by
  constructor
  · intro h
    rw [← h]
    exact oneEach_upsertAll oneEach_nil news
  · intro h
    have happend : OneEach key ([] ++ news) := h
    exact upsertAll_eq_append happend

/-! ## §4. What a merge is -/

variable (key) in
/-- The last entry under a key. -/
def lastUnder (news : List α) (k : κ) : Option α := news.reverse.find? fun n => key n = k

/-- The new keys in order of first appearance. -/
def freshKeys (ks news : List κ) : List κ := (news.filter fun k => decide (k ∉ ks)).eraseDups

theorem freshKeys_cons_of_mem {ks news : List κ} {k : κ} (h : k ∈ ks) :
    freshKeys ks (k :: news) = freshKeys ks news := by
  unfold freshKeys
  rw [List.filter_cons_of_neg (by simpa using h)]

theorem freshKeys_cons_of_notMem {ks news : List κ} {k : κ} (h : k ∉ ks) :
    freshKeys ks (k :: news) = k :: freshKeys (ks ++ [k]) news := by
  unfold freshKeys
  rw [List.filter_cons_of_pos (by simpa using h), List.eraseDups_cons, List.filter_filter]
  congr 2
  apply List.filter_congr
  intro x _
  simp only [List.mem_append, List.mem_singleton, not_or, Bool.decide_and]
  rw [Bool.and_comm]
  congr 1
  by_cases hx : x = k
  · simp [hx]
  · simp [hx]

/-- Keys that are all there already are no new ones. -/
theorem freshKeys_of_subset {ks news : List κ} (h : ∀ k ∈ news, k ∈ ks) : freshKeys ks news = [] := by
  unfold freshKeys
  rw [List.filter_eq_nil_iff.2 fun k hk => by simpa using h k hk]
  rfl

/-- The keys after an upsert, in order. -/
theorem map_key_upsert (xs : List α) (new : α) :
    (upsert key xs new).map key =
      if key new ∈ xs.map key then xs.map key else xs.map key ++ [key new] := by
  induction xs with
  | nil => rfl
  | cons x xs ih =>
    unfold upsert
    split
    next heq =>
      rw [List.map_cons, List.map_cons, ← heq, if_pos List.mem_cons_self]
    next hne =>
      have hmem : key new ∈ (x :: xs).map key ↔ key new ∈ xs.map key := by
        rw [List.map_cons, List.mem_cons]
        exact ⟨fun h => h.resolve_left fun heq => hne heq.symm, Or.inr⟩
      rw [List.map_cons, ih]
      split
      next h => rw [if_pos (hmem.2 h), List.map_cons]
      next h => rw [if_neg fun h' => h (hmem.1 h'), List.map_cons, List.cons_append]

/-- **The keys after a merge**: the old ones in their places, then the
    new ones in order of first appearance. -/
theorem map_key_upsertAll (xs news : List α) :
    (upsertAll key xs news).map key = xs.map key ++ freshKeys (xs.map key) (news.map key) := by
  unfold upsertAll
  induction news generalizing xs with
  | nil => rw [List.foldl_nil, List.map_nil, freshKeys, List.filter_nil, List.eraseDups_nil,
      List.append_nil]
  | cons n ns ih =>
    rw [List.foldl_cons, ih, map_key_upsert, List.map_cons]
    split
    next h => rw [freshKeys_cons_of_mem h]
    next h => rw [freshKeys_cons_of_notMem h, List.append_assoc, List.singleton_append]

/-- The last entry under a key, one entry earlier. -/
theorem lastUnder_cons (n : α) (ns : List α) (k : κ) :
    lastUnder key (n :: ns) k = (lastUnder key ns k).or (if key n = k then some n else none) := by
  unfold lastUnder
  rw [List.reverse_cons, List.find?_append, List.find?_cons]
  congr 1
  by_cases h : key n = k
  · simp [h]
  · simp [h]

/-- A key that has no last entry is no key of the list. -/
theorem lastUnder_eq_none_iff (news : List α) (k : κ) :
    lastUnder key news k = none ↔ k ∉ news.map key := by
  unfold lastUnder
  rw [List.find?_eq_none]
  constructor
  · intro h hmem
    obtain ⟨n, hn, hkey⟩ := List.mem_map.1 hmem
    exact h n (List.mem_reverse.2 hn) (decide_eq_true hkey)
  · intro h n hn hkey
    refine h ?_
    rw [← of_decide_eq_true hkey]
    exact List.mem_map_of_mem (List.mem_reverse.1 hn)

/-- **The entries after a merge**: each is the last new one under its
    key, or an old one under a key that is not new. -/
theorem mem_upsertAll {xs : List α} (h : OneEach key xs) (news : List α) {x : α}
    (hx : x ∈ upsertAll key xs news) :
    lastUnder key news (key x) = some x ∨ lastUnder key news (key x) = none ∧ x ∈ xs := by
  unfold upsertAll at hx
  induction news generalizing xs with
  | nil => exact Or.inr ⟨rfl, hx⟩
  | cons n ns ih =>
    rw [lastUnder_cons]
    rcases ih (oneEach_upsert h n) hx with hlast | ⟨hnone, hold⟩
    · rw [hlast]
      exact Or.inl rfl
    · rw [hnone, Option.none_or]
      rcases mem_upsert h n x hold with rfl | ⟨hmem, hkey⟩
      · exact Or.inl (if_pos rfl)
      · exact Or.inr ⟨if_neg fun heq => hkey heq.symm, hmem⟩

omit [DecidableEq κ] in
/-- A list is known by its keys and by what stands under each. -/
theorem eq_of_keys {xs ys : List α} (hkeys : xs.map key = ys.map key)
    (h : ∀ x ∈ xs, ∀ y ∈ ys, key x = key y → x = y) : xs = ys := by
  induction xs generalizing ys with
  | nil => exact (List.map_eq_nil_iff.1 hkeys.symm).symm
  | cons x xs ih =>
    cases ys with
    | nil => exact absurd hkeys (by simp)
    | cons y ys =>
      rw [List.map_cons, List.map_cons, List.cons.injEq] at hkeys
      rw [h x List.mem_cons_self y List.mem_cons_self hkeys.1, ih hkeys.2 fun a ha b hb =>
        h a (List.mem_cons_of_mem x ha) b (List.mem_cons_of_mem y hb)]

/-- **A merge made twice** is the merge made once. -/
theorem upsertAll_idem {xs : List α} (h : OneEach key xs) (news : List α) :
    upsertAll key (upsertAll key xs news) news = upsertAll key xs news := by
  have hone := oneEach_upsertAll h news
  refine @eq_of_keys α κ key _ _ ?_ fun x hx y hy hkey => ?_
  · -- every new key is there after the first merge
    rw [map_key_upsertAll, freshKeys_of_subset, List.append_nil]
    intro k hk
    rw [map_key_upsertAll, List.mem_append]
    by_cases hold : k ∈ xs.map key
    · exact Or.inl hold
    · refine Or.inr ?_
      unfold freshKeys
      rw [List.mem_eraseDups, List.mem_filter]
      exact ⟨hk, decide_eq_true hold⟩
  · rcases mem_upsertAll hone news hx with hlast | ⟨hnone, hmem⟩
    · rcases mem_upsertAll h news hy with hlast' | ⟨hnone', -⟩
      · rw [hkey, hlast'] at hlast
        injection hlast with hlast
        exact hlast.symm
      · rw [hkey, hnone'] at hlast
        cases hlast
    · exact List.inj_on_of_nodup_map hone hmem hy hkey

end ProviiSdk.Upsert
