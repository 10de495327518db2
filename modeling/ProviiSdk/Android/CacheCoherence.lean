/-
  ProviiSdk.Android.CacheCoherence — does the Android backend act as a map?

  The backend next to the map it should be: for every key the value of
  the last successful store, or nothing after a successful delete.  The
  backend acts as the map as long as whatever is retrieved agrees with
  it.

  Two operations can break this.  A store leaves the cache alone, so an
  entry from before the store keeps being served; and a delete drops the
  bridge's answer, so an item the bridge kept is reported as deleted.

  Main results:
    * `coherent_step_iff` — what one operation must meet to keep cache,
      bridge and map together.
    * `retrievesRight_iff` — over a run, everything retrieved is right
      exactly when every operation meets it.
    * `stale_read` — a run that retrieves the value before last.
-/

import ProviiSdk.Android.Keystore
import ProviiSdk.Lib.Run

namespace ProviiSdk.Android

open ProviiSdk.Platform ProviiSdk.Run ProviiSdk.Check
open ProviiSdk.ReadCache (Cache Entry Agrees)

/-! ## §1. The backend and its map -/

/-- The backend with the value each key should have. -/
structure Observed where
  storage : AndroidStorage
  last : Key → Option Bytes

/-- One operation, with what the bridge answers. -/
inductive CacheOp where
  | storeSecure (j : Jni) (key : Key) (data : Bytes) (requireBio : Bool)
  | retrieveSecure (j : Jni) (key : Key) (requireBio : Bool)
  | deleteSecure (j : Jni) (key : Key)

/-- One operation on the backend and on the map. -/
def cacheStep (cfg : StorageConfig) (s : Observed) : CacheOp → Observed
  | .storeSecure j key data requireBio =>
    let r := storeSecure j s.storage key data requireBio
    { storage := r.2, last := recorded r.1 s.last key (some data) }
  | .retrieveSecure j key requireBio =>
    { s with storage := (retrieveSecure cfg j s.storage key requireBio).2 }
  | .deleteSecure j key =>
    let r := deleteSecure cfg j s.storage key
    { storage := r.2, last := recorded r.1 s.last key none }

/-- A backend just created over some items. -/
def freshBackend (keystore : Keystore) : Observed :=
  { storage := { keystore, operationCache := ∅ }
    last := fun k => (keystore.lookup k).map (·.data) }

/-- A retrieve answers with the map's value if no biometrics are
    required, and never with a value for a key the map does not have. -/
def RetrievesRight (cfg : StorageConfig) (s : Observed) : CacheOp → Prop
  | .retrieveSecure j key requireBio =>
    ∀ v, (retrieveSecure cfg j s.storage key requireBio).1 = .ok v →
      (requireBio = false → s.last key = some v) ∧ s.last key ≠ none
  | _ => True

/-- Whatever is retrieved next is right. -/
def ServesLast (cfg : StorageConfig) (s : Observed) : Prop := ∀ op, RetrievesRight cfg s op

/-- The condition on an operation: a store finds no usable entry of its
    key in the cache, or one with the same value; and a delete that the
    bridge reports as not done is of a key without an item. -/
def WritesThrough (s : Observed) : CacheOp → Prop
  | .storeSecure j key data requireBio =>
    StoreDone j key data requireBio →
      ∀ e, s.storage.operationCache.lookup key = some e → e.Usable → e.data = data
  | .retrieveSecure _ _ _ => True
  | .deleteSecure j key =>
    deleteChecks j key = .ok () → j.write = .ok false → s.storage.keystore.lookup key = none

/-! ## §2. Coherence -/

/-- What holds in every state: the bridge has the map's values, and
    nothing is cached when caching is off. -/
structure Tracks (cfg : StorageConfig) (s : Observed) : Prop where
  kept : ∀ k v, s.last k = some v → (s.storage.keystore.lookup k).map (·.data) = some v
  uncached : cfg.enableCaching = false → s.storage.operationCache = ∅

/-- Cache and bridge hold nothing the map does not have. -/
structure Coherent (s : Observed) : Prop where
  cache : Agrees s.storage.operationCache s.last
  bridge : ∀ k, validateKey k = .ok () → s.last k = none → s.storage.keystore.lookup k = none

theorem tracks_fresh (cfg : StorageConfig) (keystore : Keystore) :
    Tracks cfg (freshBackend keystore) := ⟨fun _ _ h => h, fun _ => rfl⟩

theorem coherent_fresh (keystore : Keystore) : Coherent (freshBackend keystore) :=
  ⟨ReadCache.agrees_empty _, fun _ _ h => Option.map_eq_none_iff.1 h⟩

/-- Caching a value changes the cache only. -/
theorem addToCache_keystore (cfg : StorageConfig) (j : Jni) (s : AndroidStorage) (key : Key)
    (data : Bytes) : (addToCache cfg j s key data).keystore = s.keystore := by
  unfold addToCache
  split <;> rfl

/-- **The bridge keeps the map's values** through every operation. -/
theorem tracks_step (cfg : StorageConfig) (s : Observed) (op : CacheOp) (hs : Tracks cfg s) :
    Tracks cfg (cacheStep cfg s op) := by
  cases op with
  | storeSecure j key data requireBio =>
    rcases storeSecure_cases j s.storage key data requireBio with ⟨_, heq⟩ | ⟨_, e, heq⟩
    · simp only [cacheStep, heq, recorded]
      refine ⟨fun k v (hv : Function.update s.last key (some data) k = some v) => ?_, hs.uncached⟩
      show ((s.storage.keystore.insert key _).lookup k).map _ = _
      -- the stored key has the new value, every other key what it had
      by_cases hk : k = key
      · rw [hk, Function.update_self] at hv
        rw [hk, AList.lookup_insert]
        exact hv
      · rw [Function.update_of_ne hk] at hv
        rw [AList.lookup_insert_ne hk]
        exact hs.kept k v hv
    · simp only [cacheStep, heq, recorded]
      exact hs
  | retrieveSecure j key requireBio =>
    rcases retrieveSecure_cases cfg j s.storage key requireBio with
      ⟨data, -, -, -, heq⟩ | ⟨item, -, -, heq⟩ | ⟨e, heq⟩
    · simp only [cacheStep, heq]
      exact hs
    · simp only [cacheStep, heq]
      by_cases hif : (cfg.enableCaching && !requireBio) = true
      · refine ⟨fun k v hv => ?_, fun hoff => ?_⟩
        · rw [if_pos hif, addToCache_keystore]
          exact hs.kept k v hv
        · rw [hoff] at hif
          exact absurd hif (by simp)
      · rw [if_neg hif]
        exact hs
    · simp only [cacheStep, heq]
      exact hs
  | deleteSecure j key =>
    rcases deleteSecure_cases cfg j s.storage key with ⟨deleted, -, -, heq⟩ | ⟨e, heq⟩
    · simp only [cacheStep, heq, recorded]
      refine ⟨fun k v (hv : Function.update s.last key none k = some v) => ?_, fun hoff => ?_⟩
      · have hk : k ≠ key := by
          rintro rfl
          rw [Function.update_self] at hv
          cases hv
        rw [Function.update_of_ne hk] at hv
        have hold := hs.kept k v hv
        -- the map has dropped the key, whatever the bridge did with it
        cases deleted with
        | false => exact hold
        | true =>
          show ((s.storage.keystore.erase key).lookup k).map _ = _
          rw [AList.lookup_erase_ne hk]
          exact hold
      · show (if cfg.enableCaching = true then _ else _) = _
        rw [hoff]
        exact hs.uncached hoff
    · simp only [cacheStep, heq, recorded]
      exact hs

/-- A coherent backend has exactly the map's values behind the bridge. -/
theorem Coherent.bridge_value {cfg : StorageConfig} {s : Observed} (hs : Coherent s)
    (ht : Tracks cfg s) {key : Key} {item : KeystoreItem} (hkey : validateKey key = .ok ())
    (hitem : s.storage.keystore.lookup key = some item) : s.last key = some item.data := by
  cases hlast : s.last key with
  | none =>
    rw [hs.bridge key hkey hlast] at hitem
    cases hitem
  | some v =>
    have := ht.kept key v hlast
    rw [hitem] at this
    rw [← this]
    rfl

/-- **A backend serves the map's values exactly when it is coherent.** -/
theorem servesLast_iff_coherent (cfg : StorageConfig) (s : Observed) (ht : Tracks cfg s) :
    ServesLast cfg s ↔ Coherent s := by
  constructor
  · intro h
    refine ⟨fun k e he husable => ?_, fun k hkey hlast => ?_⟩
    · -- an entry is served at the moment it was cached
      have hon : cfg.enableCaching = true := by
        by_contra hoff
        rw [Bool.not_eq_true] at hoff
        rw [ht.uncached hoff] at he
        cases he
      have hget : getFromCache s.storage k e.cachedAt = some e.data := by
        unfold getFromCache ReadCache.get
        rw [he]
        exact if_pos (Entry.live_cachedAt husable)
      refine (h (.retrieveSecure (.healthy e.cachedAt) k false) e.data ?_).1 rfl
      unfold retrieveSecure
      simp only [Jni.healthy, Jni.reach, hon, Bool.not_false, Bool.and_self, if_true, hget]
    · -- an item behind the bridge is served behind the prompt
      by_contra hne
      obtain ⟨item, hitem⟩ := Option.ne_none_iff_exists'.1 hne
      refine (h (.retrieveSecure (.healthy 0) k true) item.data ?_).2 hlast
      have hchk : retrieveChecks (.healthy 0) k true = .ok () := by
        unfold retrieveChecks
        rw [hkey]
        rfl
      unfold retrieveSecure
      simp only [Bool.not_true, Bool.and_false, Bool.false_eq_true, if_false, hchk]
      simp only [Jni.healthy, Jni.reach, bridgeRetrieve, hitem]
  · intro hs op
    cases op with
    | retrieveSecure j key requireBio =>
      intro v hv
      rcases retrieveSecure_cases cfg j s.storage key requireBio with
        ⟨data, -, -, hget, heq⟩ | ⟨item, hkey, hitem, heq⟩ | ⟨e, heq⟩
      · rw [heq] at hv
        injection hv with hv
        subst hv
        have hlast := hs.cache.get hget
        exact ⟨fun _ => hlast, by rw [hlast]; simp⟩
      · rw [heq] at hv
        injection hv with hv
        subst hv
        have hlast := hs.bridge_value ht hkey hitem
        exact ⟨fun _ => hlast, by rw [hlast]; simp⟩
      · rw [heq] at hv
        cases hv
    | storeSecure j key data requireBio => trivial
    | deleteSecure j key => trivial

/-! ## §3. One operation -/

/-- The bridge after a change at one key. -/
private theorem bridge_update {s : Observed} (hs : Coherent s) {kv : Keystore} {key : Key}
    {v : Option Bytes} (hother : ∀ k, k ≠ key → kv.lookup k = s.storage.keystore.lookup k)
    (hself : v = none → kv.lookup key = none) (k : Key) (hk : validateKey k = .ok ())
    (hlast : Function.update s.last key v k = none) : kv.lookup k = none := by
  by_cases hke : k = key
  · rw [hke, Function.update_self] at hlast
    rw [hke]
    exact hself hlast
  · rw [Function.update_of_ne hke] at hlast
    rw [hother k hke]
    exact hs.bridge k hk hlast

/-- **What keeps a coherent backend coherent**: exactly the operations
    that write through. -/
theorem coherent_step_iff (cfg : StorageConfig) (s : Observed) (op : CacheOp) (ht : Tracks cfg s)
    (hs : Coherent s) : Coherent (cacheStep cfg s op) ↔ WritesThrough s op := by
  cases op with
  | storeSecure j key data requireBio =>
    rcases storeSecure_cases j s.storage key data requireBio with ⟨hdone, heq⟩ | ⟨hnot, e, heq⟩
    · simp only [cacheStep, heq, recorded]
      constructor
      · intro h _ e he husable
        -- the new value must be the one the entry already has
        have := (ReadCache.agrees_update_iff hs.cache key (some data)).1 h.cache e he husable
        injection this with this
        exact this.symm
      · intro h
        refine ⟨?_, bridge_update hs (fun k hk => AList.lookup_insert_ne hk) fun hnone => ?_⟩
        · refine (ReadCache.agrees_update_iff hs.cache key (some data)).2 fun e he husable => ?_
          rw [h hdone e he husable]
        · cases hnone
    · simp only [cacheStep, heq, recorded]
      exact iff_of_true hs fun hdone => absurd hdone hnot
  | retrieveSecure j key requireBio =>
    refine iff_of_true ?_ trivial
    rcases retrieveSecure_cases cfg j s.storage key requireBio with
      ⟨data, -, -, -, heq⟩ | ⟨item, hkey, hitem, heq⟩ | ⟨e, heq⟩
    · simp only [cacheStep, heq]
      exact hs
    · simp only [cacheStep, heq]
      have hlast := hs.bridge_value ht hkey hitem
      split
      · unfold addToCache
        split
        · exact ⟨hs.cache.add _ _ hlast _ _, hs.bridge⟩
        · exact hs
      · exact hs
    · simp only [cacheStep, heq]
      exact hs
  | deleteSecure j key =>
    have hcache : Agrees
        (if cfg.enableCaching then s.storage.operationCache.erase key else s.storage.operationCache)
        (Function.update s.last key none) := by
      split
      · exact hs.cache.update_erase key none
      next hoff =>
        rw [ht.uncached (by simpa using hoff)]
        exact ReadCache.agrees_empty _
    rcases deleteSecure_cases cfg j s.storage key with ⟨deleted, hchk, hw, heq⟩ | ⟨e, heq⟩
    · have hkey : validateKey key = .ok () := by
        unfold deleteChecks at hchk
        simp only [bind_eq_ok_iff] at hchk
        obtain ⟨_, _, _, hkey, _⟩ := hchk
        exact hkey
      simp only [cacheStep, heq, recorded]
      cases deleted with
      | true =>
        have hbridge := bridge_update (v := none) hs (fun k hk => AList.lookup_erase_ne hk)
          fun _ => AList.lookup_erase key s.storage.keystore
        refine iff_of_true ⟨hcache, hbridge⟩ fun _ hw' => ?_
        rw [hw] at hw'
        cases hw'
      | false =>
        constructor
        · intro h _ _
          exact h.bridge key hkey (Function.update_self ..)
        · intro h
          exact ⟨hcache, bridge_update hs (fun _ _ => rfl) fun _ => h hchk hw⟩
    · simp only [cacheStep, heq, recorded]
      refine iff_of_true hs fun hchk hw => ?_
      unfold deleteSecure at heq
      rw [hchk] at heq
      simp only [hw] at heq
      cases heq

/-! ## §4. Whole runs -/

/-- **The Android backend acts as a map, exactly**: over any run from any
    items, every retrieve of the run, and every retrieve that could be
    made in a state it reaches, answers with the value last stored and
    with nothing after a delete, if and only if every operation writes
    through. -/
theorem retrievesRight_iff (cfg : StorageConfig) (keystore : Keystore) (ops : List CacheOp) :
    (Always (cacheStep cfg) (ServesLast cfg) (freshBackend keystore) ops ∧
        StepsMeet (cacheStep cfg) (RetrievesRight cfg) (freshBackend keystore) ops) ↔
      StepsMeet (cacheStep cfg) WritesThrough (freshBackend keystore) ops := by
  have ht := tracks_fresh cfg keystore
  refine always_and_stepsMeet_iff_of_invariant (I := Tracks cfg)
    (fun s op hs => tracks_step cfg s op hs) (fun s op hs hG => ?_) ops ht
    ((servesLast_iff_coherent cfg _ ht).2 (coherent_fresh keystore))
  rw [servesLast_iff_coherent cfg _ (tracks_step cfg s op hs),
    coherent_step_iff cfg s op hs ((servesLast_iff_coherent cfg s hs).1 hG)]
  exact and_iff_left (hG op)

/-! ## §5. A stale read -/

def sampleConfig : StorageConfig := { enableCaching := true, cacheTtl := 300 }

def sampleKey : Key := "provii.cred.primary.AA".toList

/-- Store, read, store again. -/
def overwrite : List CacheOp :=
  [.storeSecure (.healthy 0) sampleKey [1] false, .retrieveSecure (.healthy 1) sampleKey false,
    .storeSecure (.healthy 2) sampleKey [2] false]

/-- **The value before last**: within the life of the cache's entry, the
    retrieve after an overwrite answers with the overwritten value. -/
theorem stale_read :
    let s := run (cacheStep sampleConfig) (freshBackend ∅) overwrite
    s.last sampleKey = some [2] ∧
      (retrieveSecure sampleConfig (.healthy 3) s.storage sampleKey false).1 = .ok [1] ∧
      ¬ StepsMeet (cacheStep sampleConfig) (RetrievesRight sampleConfig) (freshBackend ∅)
        (overwrite ++ [.retrieveSecure (.healthy 3) sampleKey false]) := by
  have hlast : (run (cacheStep sampleConfig) (freshBackend ∅) overwrite).last sampleKey =
      some [2] := by
    decide +kernel
  have hread : (retrieveSecure sampleConfig (.healthy 3)
      (run (cacheStep sampleConfig) (freshBackend ∅) overwrite).storage sampleKey false).1 =
        .ok [1] := by
    decide +kernel
  refine ⟨hlast, hread, ?_⟩
  rintro ⟨_, _, _, hright, _⟩
  have := (hright [1] hread).1 rfl
  exact absurd (hlast.symm.trans this) (by decide)

end ProviiSdk.Android
