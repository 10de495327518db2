/-
  ProviiSdk.Lib.Groups — lists of groups with a separator between them.

  What is said here of `[sep].intercalate gs` goes by induction on the
  groups.

  Main results:
    * `length_intercalate_groups` — how long the whole is.
    * `mem_intercalate_groups` — what stands in it.
    * `map_intercalate_groups` — what a map makes of it.
-/

import Mathlib

namespace ProviiSdk.Groups

/-- A group in front of others. -/
theorem intercalate_cons_group {α : Type} (sep : α) (g : List α) {gs : List (List α)} {m : Nat}
    {lengths : List Nat} (h : gs.map List.length = m :: lengths) :
    [sep].intercalate (g :: gs) = g ++ sep :: [sep].intercalate gs := by
  have hne : gs ≠ [] := by
    rintro rfl
    cases h
  rw [List.intercalate_cons_of_ne_nil hne, List.append_assoc, List.singleton_append]

/-- The length of groups with separators. -/
theorem length_intercalate_groups {α : Type} (sep : α) {gs : List (List α)} {lengths : List Nat}
    (h : gs.map List.length = lengths) (hne : lengths ≠ []) :
    ([sep].intercalate gs).length + 1 = lengths.sum + lengths.length := by
  induction gs generalizing lengths with
  | nil => exact absurd h.symm hne
  | cons g gs ih =>
    rw [← h, List.map_cons, List.sum_cons, List.length_cons]
    cases hgs : gs.map List.length with
    | nil =>
      rw [List.map_eq_nil_iff.1 hgs, List.intercalate_singleton, List.sum_nil]
      rfl
    | cons m lengths =>
      have hrest := ih hgs (List.cons_ne_nil m lengths)
      rw [intercalate_cons_group sep g hgs, List.length_append, List.length_cons]
      omega

/-- What is done to every element is done to groups and separators. -/
theorem map_intercalate_groups {α β : Type} (f : α → β) (sep : α) (gs : List (List α)) :
    ([sep].intercalate gs).map f = [f sep].intercalate (gs.map (List.map f)) := by
  induction gs with
  | nil => rfl
  | cons g gs ih =>
    cases gs with
    | nil => rw [List.intercalate_singleton, List.map_singleton, List.intercalate_singleton]
    | cons h gs =>
      rw [List.map_cons, List.map_cons, List.intercalate_cons_cons, List.intercalate_cons_cons,
        List.map_append, List.map_append, List.map_singleton, ih, List.map_cons]

/-- What stands in groups with separators. -/
theorem mem_intercalate_groups {α : Type} {sep x : α} {gs : List (List α)}
    (h : x ∈ [sep].intercalate gs) : x = sep ∨ ∃ g ∈ gs, x ∈ g := by
  induction gs with
  | nil => exact absurd h List.not_mem_nil
  | cons g gs ih =>
    cases gs with
    | nil =>
      rw [List.intercalate_singleton] at h
      exact Or.inr ⟨g, List.mem_cons_self, h⟩
    | cons k gs =>
      rw [List.intercalate_cons_cons, List.mem_append, List.mem_append, List.mem_singleton] at h
      rcases h with (h | h) | h
      · exact Or.inr ⟨g, List.mem_cons_self, h⟩
      · exact Or.inl h
      · rcases ih h with hsep | ⟨l, hl, hx⟩
        · exact Or.inl hsep
        · exact Or.inr ⟨l, List.mem_cons_of_mem g hl, hx⟩

theorem length_map_groups {α β : Type} (f : α → β) (gs : List (List α)) :
    (gs.map (List.map f)).map List.length = gs.map List.length := by
  rw [List.map_map]
  exact List.map_congr_left fun g _ => List.length_map f

end ProviiSdk.Groups
