/-
  ProviiSdk.Lib.ReadCache — a bounded, time-limited read cache.

  A map from keys to values with the time each value was cached and how
  long it lives.  A lookup answers with a live entry only; an insertion
  into a full cache first removes an entry of least age stamp.

  A cache is as good as its agreement with the map it stands in front
  of: `Agrees c f` says that every usable entry holds the value `f` has
  at its key.

  Main results:
    * `Agrees.get` — what an agreeing cache answers is the map's value.
    * `agrees_add_iff`, `Agrees.erase`, `agrees_update_iff`,
      `Agrees.update_erase`, `Agrees.update_add` — what caching,
      evicting and changing the map do to the agreement.
-/

import Mathlib

namespace ProviiSdk.ReadCache

variable {κ β : Type} [DecidableEq κ]

/-! ## §1. Entries -/

/-- A cached value, when it was cached (milliseconds) and how long it
    lives (seconds). -/
structure Entry (β : Type) where
  data : β
  cachedAt : UInt64
  ttl : UInt64
  deriving DecidableEq

/-- The life of an entry in milliseconds; the product saturates. -/
def Entry.lifeMillis (e : Entry β) : Nat := min (e.ttl.toNat * 1000) (2 ^ 64 - 1)

/-- Is the entry live?  A clock before the entry's stamp counts as no
    time passed. -/
def Entry.live (e : Entry β) (now : UInt64) : Bool :=
  decide (now.toNat - e.cachedAt.toNat < e.lifeMillis)

/-- An entry that is live at some time. -/
def Entry.Usable (e : Entry β) : Prop := e.ttl ≠ 0

theorem Entry.usable_of_live {e : Entry β} {now : UInt64} (h : e.live now = true) : e.Usable := by
  intro hz
  unfold Entry.live Entry.lifeMillis at h
  rw [hz, decide_eq_true_eq] at h
  simp at h

/-- A usable entry is live at the moment it is cached. -/
theorem Entry.live_cachedAt {e : Entry β} (h : e.Usable) : e.live e.cachedAt = true := by
  have hpos : 0 < e.ttl.toNat := by
    rcases Nat.eq_zero_or_pos e.ttl.toNat with h0 | h0
    · exact absurd (UInt64.toNat_inj.1 h0) h
    · exact h0
  unfold Entry.live Entry.lifeMillis
  rw [decide_eq_true_eq, Nat.sub_self]
  omega

/-! ## §2. The cache -/

abbrev Cache (κ β : Type) := AList (fun _ : κ => Entry β)

/-- The live value of a key. -/
def get (c : Cache κ β) (k : κ) (now : UInt64) : Option β :=
  match c.lookup k with
  | some e => if e.live now then some e.data else none
  | none => none

/-- The first key with the least stamp, in the order the keys are met. -/
def oldest (c : Cache κ β) (order : List κ → List κ) : Option κ :=
  (order c.keys).argmin fun k => ((c.lookup k).map fun e => e.cachedAt.toNat).getD 0

/-- Make room in a full cache. -/
def evict (c : Cache κ β) (order : List κ → List κ) (capacity : Nat) : Cache κ β :=
  if c.keys.length ≥ capacity then
    match oldest c order with
    | some k => c.erase k
    | none => c
  else c

/-- Cache a value, evicting an entry from a full cache first. -/
def add (c : Cache κ β) (order : List κ → List κ) (capacity : Nat) (k : κ) (data : β)
    (now ttl : UInt64) : Cache κ β :=
  (evict c order capacity).insert k { data, cachedAt := now, ttl }

theorem lookup_of_evict {c : Cache κ β} {order : List κ → List κ} {capacity : Nat} {k : κ}
    {e : Entry β} (h : (evict c order capacity).lookup k = some e) : c.lookup k = some e := by
  unfold evict at h
  split at h
  · split at h
    next old _ =>
      by_cases hk : k = old
      · rw [hk, AList.lookup_erase] at h
        cases h
      · rwa [AList.lookup_erase_ne hk] at h
    next _ => exact h
  · exact h

theorem lookup_of_add {c : Cache κ β} {order : List κ → List κ} {capacity : Nat} {k j : κ}
    {data : β} {now ttl : UInt64} {e : Entry β}
    (h : (add c order capacity k data now ttl).lookup j = some e) :
    (j = k ∧ e = { data, cachedAt := now, ttl }) ∨ (j ≠ k ∧ c.lookup j = some e) := by
  unfold add at h
  by_cases hj : j = k
  · rw [hj, AList.lookup_insert] at h
    exact Or.inl ⟨hj, (Option.some.inj h).symm⟩
  · rw [AList.lookup_insert_ne hj] at h
    exact Or.inr ⟨hj, lookup_of_evict h⟩

/-! ## §3. Agreement with a map -/

/-- Every usable entry holds the value the map has at its key. -/
def Agrees (c : Cache κ β) (f : κ → Option β) : Prop :=
  ∀ k e, c.lookup k = some e → e.Usable → f k = some e.data

theorem agrees_empty (f : κ → Option β) : Agrees (∅ : Cache κ β) f := by
  intro k e h
  cases h

/-- **An agreeing cache answers with the map's value.** -/
theorem Agrees.get {c : Cache κ β} {f : κ → Option β} (h : Agrees c f) {k : κ} {now : UInt64}
    {d : β} (hd : ReadCache.get c k now = some d) : f k = some d := by
  unfold ReadCache.get at hd
  split at hd
  next e he =>
    split at hd
    next hlive =>
      injection hd with hd
      rw [← hd]
      exact h k e he (Entry.usable_of_live hlive)
    next _ => cases hd
  next _ => cases hd

/-- **Caching a value** keeps the agreement exactly when it is the map's
    value or lives for no time. -/
theorem agrees_add_iff {c : Cache κ β} {f : κ → Option β} (h : Agrees c f)
    (order : List κ → List κ) (capacity : Nat) (k : κ) (data : β) (now ttl : UInt64) :
    Agrees (ReadCache.add c order capacity k data now ttl) f ↔ (ttl ≠ 0 → f k = some data) := by
  constructor
  · intro h' httl
    exact h' k { data, cachedAt := now, ttl } (AList.lookup_insert _) httl
  · intro h' j e he husable
    rcases lookup_of_add he with ⟨rfl, rfl⟩ | ⟨_, hold⟩
    · exact h' husable
    · exact h j e hold husable

/-- Caching the map's value keeps the agreement. -/
theorem Agrees.add {c : Cache κ β} {f : κ → Option β} (h : Agrees c f)
    (order : List κ → List κ) (capacity : Nat) {k : κ} {data : β} (hk : f k = some data)
    (now ttl : UInt64) : Agrees (ReadCache.add c order capacity k data now ttl) f :=
  (agrees_add_iff h order capacity k data now ttl).2 fun _ => hk

/-- Dropping an entry keeps the agreement. -/
theorem Agrees.erase {c : Cache κ β} {f : κ → Option β} (h : Agrees c f) (k : κ) :
    Agrees (c.erase k) f := by
  intro j e he husable
  by_cases hj : j = k
  · rw [hj, AList.lookup_erase] at he
    cases he
  · rw [AList.lookup_erase_ne hj] at he
    exact h j e he husable

/-- **Changing the map behind the cache** keeps the agreement exactly
    when the cache's entry at that key, if it is usable, already holds
    the new value. -/
theorem agrees_update_iff {c : Cache κ β} {f : κ → Option β} (h : Agrees c f) (k : κ)
    (v : Option β) : Agrees c (Function.update f k v) ↔
      ∀ e, c.lookup k = some e → e.Usable → v = some e.data := by
  constructor
  · intro h' e he husable
    have := h' k e he husable
    rwa [Function.update_self] at this
  · intro h' j e he husable
    by_cases hj : j = k
    · rw [hj] at he ⊢
      rw [Function.update_self]
      exact h' e he husable
    · rw [Function.update_of_ne hj]
      exact h j e he husable

/-- Changing the map and dropping the entry together keeps the
    agreement. -/
theorem Agrees.update_erase {c : Cache κ β} {f : κ → Option β} (h : Agrees c f) (k : κ)
    (v : Option β) : Agrees (c.erase k) (Function.update f k v) := by
  rw [agrees_update_iff (h.erase k)]
  intro e he
  rw [AList.lookup_erase] at he
  cases he

/-- Changing the map and caching the new value together keeps the
    agreement. -/
theorem Agrees.update_add {c : Cache κ β} {f : κ → Option β} (h : Agrees c f)
    (order : List κ → List κ) (capacity : Nat) (k : κ) (data : β) (now ttl : UInt64) :
    Agrees (ReadCache.add c order capacity k data now ttl)
      (Function.update f k (some data)) := by
  intro j e he husable
  rcases lookup_of_add he with ⟨rfl, rfl⟩ | ⟨hj, hold⟩
  · exact Function.update_self ..
  · rw [Function.update_of_ne hj]
    exact h j e hold husable

end ProviiSdk.ReadCache
