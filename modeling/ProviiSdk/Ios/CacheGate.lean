/-
  ProviiSdk.Ios.CacheGate — is the iOS cache behind the biometric gate?

  The backend next to the map it should be: for every key the value of
  the last successful store and whether that store asked for biometrics.
  The backend acts as the map if whatever is retrieved is the map's
  value, and if the cache never answers for a key last stored with
  biometrics.

  A store without biometrics refreshes the cache and a retrieve with
  biometrics passes it by.  Two operations can break the gate: a store
  with biometrics leaves an older entry of its key in the cache; and a
  retrieve without biometrics caches whatever the Keychain serves, also
  an item that was stored with them.

  Main results:
    * `tracks_step` — the Keychain never holds a value the map does not
      have.
    * `coherent_step_iff` — what one operation must meet to keep the
      cache behind the gate.
    * `gateHolds_iff` — over a run, everything retrieved is right
      exactly when every operation meets it.
    * `stale_read_past_the_gate` — a run that serves the value before
      last, and without the prompt.
-/

import ProviiSdk.Ios.KeychainSpec
import ProviiSdk.Lib.Run

namespace ProviiSdk.Ios

open ProviiSdk.Platform ProviiSdk.Run
open ProviiSdk.ReadCache (Cache Entry Agrees)

/-! ## §1. The backend and its map -/

/-- The backend with the value each key should have, and whether its
    store asked for biometrics. -/
structure Observed where
  storage : IosStorage
  last : Key → Option (Bytes × Bool)

/-- One operation, with what the Keychain answers. -/
inductive SecOp where
  | storeSecure (c : SecCall) (key : Key) (data : Bytes) (requireBio : Bool)
  | retrieveSecure (c : SecCall) (key : Key) (requireBio : Bool)
  | deleteSecure (c : SecCall) (key : Key)

/-- One operation on the backend and on the map. -/
def secStep (cfg : StorageConfig) (s : Observed) : SecOp → Observed
  | .storeSecure c key data requireBio =>
    let r := storeSecure cfg c s.storage key data requireBio
    { storage := r.2, last := recorded r.1 s.last key (some (data, requireBio)) }
  | .retrieveSecure c key requireBio =>
    { s with storage := (retrieveSecure cfg c s.storage key requireBio).2 }
  | .deleteSecure c key =>
    let r := deleteSecure cfg c s.storage key
    { storage := r.2, last := recorded r.1 s.last key none }

/-- A backend just created over some items. -/
def freshBackend (keychain : Keychain) : Observed :=
  { storage := { keychain, cache := ∅ }
    last := fun k => (keychain.lookup k).map fun item => (item.data, item.bio) }

/-- What is retrieved is the map's value; and without biometrics the
    cache has no answer for a key last stored with them. -/
def GateHolds (cfg : StorageConfig) (s : Observed) : SecOp → Prop
  | .retrieveSecure c key requireBio =>
    (∀ v, (retrieveSecure cfg c s.storage key requireBio).1 = .ok v →
      (s.last key).map (·.1) = some v) ∧
    (requireBio = false → ∀ v, s.last key = some (v, true) →
      getFromCache cfg s.storage key c.now = none)
  | _ => True

/-- Whatever is retrieved next is right. -/
def ServesLast (cfg : StorageConfig) (s : Observed) : Prop := ∀ op, GateHolds cfg s op

/-- Does the backend cache anything that lives? -/
def StorageConfig.Remembers (cfg : StorageConfig) : Prop :=
  cfg.enableCaching = true ∧ 0 < cfg.maxSize ∧ cfg.cacheTtlSeconds ≠ 0

/-- The condition on an operation: a store with biometrics that goes
    through finds no usable entry of its key in the cache; and the
    Keychain serves no retrieve without biometrics of an item last
    stored with them, unless nothing is cached. -/
def KeepsGate (cfg : StorageConfig) (s : Observed) : SecOp → Prop
  | .storeSecure c key data requireBio =>
    requireBio = true → StoreDone c s.storage.keychain key data requireBio →
      ∀ e, s.storage.cache.lookup key = some e → ¬ e.Usable
  | .retrieveSecure c key requireBio =>
    requireBio = false → validateKey key = .ok () → cfg.Remembers → c.Serves requireBio →
      ∀ v, s.last key = some (v, true) → s.storage.keychain.lookup key = none
  | .deleteSecure _ _ => True

/-! ## §2. Coherence -/

/-- What holds in every state: an item has the map's value, and its
    access control if the store asked for one; and nothing is cached
    when there is no room. -/
structure Tracks (cfg : StorageConfig) (s : Observed) : Prop where
  kept : ∀ k item, s.storage.keychain.lookup k = some item →
    ∃ b, s.last k = some (item.data, b) ∧ (b = true → item.bio = true)
  uncached : (cfg.enableCaching && decide (0 < cfg.maxSize)) = false → s.storage.cache = ∅

/-- The map's values that the cache may answer with. -/
def openValue (last : Key → Option (Bytes × Bool)) (k : Key) : Option Bytes :=
  match last k with
  | some (v, false) => some v
  | _ => none

theorem openValue_eq_some_iff {last : Key → Option (Bytes × Bool)} {k : Key} {v : Bytes} :
    openValue last k = some v ↔ last k = some (v, false) := by
  unfold openValue
  split
  next h => rw [h]; simp
  next h => exact iff_of_false (by simp) (h v)

theorem openValue_update (last : Key → Option (Bytes × Bool)) (k : Key)
    (v : Option (Bytes × Bool)) :
    openValue (Function.update last k v) =
      Function.update (openValue last) k (openValue (fun _ => v) k) := by
  funext j
  by_cases hj : j = k
  · rw [hj, Function.update_self]
    unfold openValue
    rw [Function.update_self]
  · rw [Function.update_of_ne hj]
    unfold openValue
    rw [Function.update_of_ne hj]

/-- The cache answers with values stored without biometrics only. -/
def Coherent (s : Observed) : Prop := Agrees s.storage.cache (openValue s.last)

theorem tracks_fresh (cfg : StorageConfig) (keychain : Keychain) :
    Tracks cfg (freshBackend keychain) := by
  refine ⟨fun k item hitem => ⟨item.bio, ?_, id⟩, fun _ => rfl⟩
  show (keychain.lookup k).map _ = _
  rw [show keychain.lookup k = some item from hitem]
  rfl

theorem coherent_fresh (keychain : Keychain) : Coherent (freshBackend keychain) :=
  ReadCache.agrees_empty _

/-- Without room the cache stays as it is. -/
theorem addToCache_off (cfg : StorageConfig) (c : SecCall) (s : IosStorage) (key : Key)
    (data : Bytes) (hoff : (cfg.enableCaching && decide (0 < cfg.maxSize)) = false) :
    addToCache cfg c s key data = s := by
  unfold addToCache
  rw [if_neg (by rw [hoff]; decide)]

/-- **The Keychain holds the map's values** through every operation. -/
theorem tracks_step (cfg : StorageConfig) (s : Observed) (op : SecOp) (hs : Tracks cfg s) :
    Tracks cfg (secStep cfg s op) := by
  cases op with
  | storeSecure c key data requireBio =>
    rcases storeSecure_cases cfg c s.storage key data requireBio with
      ⟨-, kc, hstored, heq⟩ | ⟨-, -, e, heq⟩ | ⟨-, -, e, heq⟩
    · simp only [secStep, heq, recorded]
      have hkept : ∀ k item, kc.lookup k = some item →
          ∃ b, Function.update s.last key (some (data, requireBio)) k = some (item.data, b) ∧
            (b = true → item.bio = true) := by
        intro k item hitem
        -- the stored key has the new value, every other key what it had
        by_cases hk : k = key
        · obtain ⟨item', hitem', hdata, hbio⟩ := hstored.item
          rw [hk, hitem'] at hitem
          injection hitem with hitem
          rw [hk, Function.update_self, ← hitem, hdata]
          exact ⟨requireBio, rfl, hbio⟩
        · rw [hstored.others k hk] at hitem
          rw [Function.update_of_ne hk]
          exact hs.kept k item hitem
      split
      · refine ⟨fun k item hitem => ?_, fun hoff => ?_⟩
        · rw [addToCache_keychain] at hitem
          exact hkept k item hitem
        · rw [addToCache_off cfg c _ key data hoff]
          exact hs.uncached hoff
      · exact ⟨hkept, hs.uncached⟩
    · simp only [secStep, heq, recorded]
      -- a torn store: the map keeps the old value, but no item contradicts it
      refine ⟨fun k item hitem => hs.kept k item ?_, hs.uncached⟩
      by_cases hk : k = key
      · rw [hk, AList.lookup_erase] at hitem
        cases hitem
      · rwa [AList.lookup_erase_ne hk] at hitem
    · simp only [secStep, heq, recorded]
      exact hs
  | retrieveSecure c key requireBio =>
    rcases retrieveSecure_cases cfg c s.storage key requireBio with
      ⟨data, -, -, heq⟩ | ⟨item, -, -, -, heq⟩ | ⟨e, -, heq⟩
    · simp only [secStep, heq]
      exact hs
    · simp only [secStep, heq]
      split
      · refine ⟨fun k item' hitem => ?_, fun hoff => ?_⟩
        · rw [addToCache_keychain] at hitem
          exact hs.kept k item' hitem
        · rw [addToCache_off cfg c _ key item.data hoff]
          exact hs.uncached hoff
      · exact hs
    · simp only [secStep, heq]
      exact hs
  | deleteSecure c key =>
    rcases deleteSecure_cases cfg c s.storage key with ⟨r, kc, hr, heq⟩ | ⟨e, heq⟩
    · simp only [secStep, heq]
      refine ⟨fun k item (hitem : kc.lookup k = some item) => ?_, fun hoff => ?_⟩
      · rcases hr with ⟨rfl, hkc⟩ | ⟨⟨e, rfl⟩, rfl⟩
        · rw [hkc k] at hitem
          split at hitem
          · cases hitem
          next hk =>
            show ∃ b, Function.update s.last key none k = _ ∧ _
            rw [Function.update_of_ne hk]
            exact hs.kept k item hitem
        · exact hs.kept k item hitem
      · show (if cfg.enableCaching then s.storage.cache.erase key else s.storage.cache) = ∅
        rw [hs.uncached hoff]
        split <;> rfl
    · simp only [secStep, heq, recorded]
      exact hs

/-- What a coherent cache answers was stored without biometrics. -/
theorem Coherent.cached {cfg : StorageConfig} {s : Observed} (hs : Coherent s) {key : Key}
    {now : UInt64} {d : Bytes} (hd : getFromCache cfg s.storage key now = some d) :
    s.last key = some (d, false) := by
  unfold getFromCache at hd
  split at hd
  · exact openValue_eq_some_iff.1 (hs.get hd)
  · cases hd

/-- **A backend serves the map's values exactly when it is coherent.** -/
theorem servesLast_iff_coherent (cfg : StorageConfig) (s : Observed) (ht : Tracks cfg s) :
    ServesLast cfg s ↔ Coherent s := by
  constructor
  · intro h k e he husable
    -- an entry is served at the moment it was cached
    have hon : cfg.enableCaching = true := by
      by_contra hoff
      rw [Bool.not_eq_true] at hoff
      rw [ht.uncached (by rw [hoff]; rfl)] at he
      cases he
    have hget : getFromCache cfg s.storage k e.cachedAt = some e.data := by
      unfold getFromCache ReadCache.get
      rw [if_pos hon, he]
      exact if_pos (Entry.live_cachedAt husable)
    have hread : (retrieveSecure cfg (.healthy e.cachedAt) s.storage k false).1 = .ok e.data := by
      unfold retrieveSecure
      simp only [SecCall.healthy, Bool.false_eq_true, if_false, hget]
    obtain ⟨hvalue, hgate⟩ := h (.retrieveSecure (.healthy e.cachedAt) k false)
    obtain ⟨⟨v, b⟩, hlast, hv⟩ := Option.map_eq_some_iff.1 (hvalue e.data hread)
    rw [openValue_eq_some_iff, hlast, ← hv]
    cases b with
    | false => rfl
    | true =>
      have := hgate rfl v hlast
      rw [show (SecCall.healthy e.cachedAt).now = e.cachedAt from rfl, hget] at this
      cases this
  · intro hs op
    cases op with
    | retrieveSecure c key requireBio =>
      refine ⟨fun v hv => ?_, fun _ v hlast => ?_⟩
      · rcases retrieveSecure_cases cfg c s.storage key requireBio with
          ⟨data, -, hget, heq⟩ | ⟨item, hitem, -, -, heq⟩ | ⟨e, -, heq⟩
        · rw [heq] at hv
          injection hv with hv
          rw [hs.cached hget, ← hv]
          rfl
        · rw [heq] at hv
          injection hv with hv
          obtain ⟨b, hlast, -⟩ := ht.kept key item hitem
          rw [hlast, ← hv]
          rfl
        · rw [heq] at hv
          cases hv
      · by_contra hne
        obtain ⟨d, hd⟩ := Option.ne_none_iff_exists'.1 hne
        have := hs.cached hd
        rw [hlast] at this
        cases this
    | storeSecure c key data requireBio => trivial
    | deleteSecure c key => trivial

/-! ## §3. One operation -/

/-- A store without biometrics that goes through keeps the cache
    coherent: it caches the new value, or nothing is cached. -/
theorem coherent_openStore (cfg : StorageConfig) (c : SecCall) (s : Observed) (kc : Keychain)
    (key : Key) (data : Bytes) (ht : Tracks cfg s) (hs : Coherent s) :
    Coherent
      { storage := if cfg.enableCaching then
            addToCache cfg c { s.storage with keychain := kc } key data
          else { s.storage with keychain := kc }
        last := Function.update s.last key (some (data, false)) } := by
  show Agrees _ (openValue (Function.update s.last key (some (data, false))))
  rw [openValue_update]
  by_cases hroom : (cfg.enableCaching && decide (0 < cfg.maxSize)) = true
  · rw [if_pos (Bool.and_eq_true _ _ ▸ hroom).1]
    unfold addToCache
    rw [if_pos hroom]
    exact hs.update_add _ _ key data _ _
  · have hempty := ht.uncached (Bool.not_eq_true _ ▸ hroom)
    have hcache : (if cfg.enableCaching then
        addToCache cfg c { s.storage with keychain := kc } key data
          else { s.storage with keychain := kc }).cache = ∅ := by
      split
      · rw [addToCache_off cfg c _ key data (Bool.not_eq_true _ ▸ hroom)]
        exact hempty
      · exact hempty
    rw [hcache]
    exact ReadCache.agrees_empty _

/-- Caching what the Keychain served without biometrics keeps the cache
    coherent exactly when it was stored without them, or does not
    live. -/
theorem coherent_openRead_iff (cfg : StorageConfig) (c : SecCall) (s : Observed) (key : Key)
    (item : KeychainItem) (hitem : s.storage.keychain.lookup key = some item) (ht : Tracks cfg s)
    (hs : Coherent s) :
    Coherent { s with
        storage := if cfg.enableCaching then addToCache cfg c s.storage key item.data
          else s.storage } ↔
      (cfg.Remembers → ∀ v, s.last key ≠ some (v, true)) := by
  obtain ⟨b, hlast, -⟩ := ht.kept key item hitem
  by_cases hroom : (cfg.enableCaching && decide (0 < cfg.maxSize)) = true
  · obtain ⟨hon, hsize⟩ := Bool.and_eq_true _ _ ▸ hroom
    rw [if_pos hon]
    unfold addToCache
    rw [if_pos hroom]
    refine (ReadCache.agrees_add_iff hs _ _ key item.data _ _).trans ?_
    rw [openValue_eq_some_iff, hlast]
    cases b with
    | false => exact iff_of_true (fun _ => rfl) (by simp)
    | true =>
      constructor
      · intro h hrem
        cases h hrem.2.2
      · intro h httl
        exact absurd rfl (h ⟨hon, by simpa using hsize, httl⟩ item.data)
  · refine iff_of_true ?_ fun hrem => ?_
    · split
      · rw [addToCache_off cfg c _ key item.data (Bool.not_eq_true _ ▸ hroom)]
        exact hs
      · exact hs
    · exact absurd (by rw [hrem.1, Bool.true_and, decide_eq_true_eq]; exact hrem.2.1) hroom

/-- **What keeps the cache behind the gate**: exactly the operations
    that keep the gate. -/
theorem coherent_step_iff (cfg : StorageConfig) (s : Observed) (op : SecOp) (ht : Tracks cfg s)
    (hs : Coherent s) : Coherent (secStep cfg s op) ↔ KeepsGate cfg s op := by
  cases op with
  | storeSecure c key data requireBio =>
    rcases storeSecure_cases cfg c s.storage key data requireBio with
      ⟨hdone, kc, -, heq⟩ | ⟨-, hnot, e, heq⟩ | ⟨-, hnot, e, heq⟩
    · simp only [secStep, heq, recorded]
      cases requireBio with
      | false =>
        refine iff_of_true ?_ fun hbio => absurd hbio (by decide)
        simp only [Bool.not_false, Bool.and_true]
        exact coherent_openStore cfg c s kc key data ht hs
      | true =>
        -- the map loses its open value of the key, and the cache stays
        simp only [Bool.not_true, Bool.and_false, Bool.false_eq_true, if_false]
        show Agrees s.storage.cache (openValue (Function.update s.last key (some (data, true)))) ↔ _
        rw [openValue_update, ReadCache.agrees_update_iff hs]
        constructor
        · intro h _ _ e he husable
          cases h e he husable
        · intro h e he husable
          exact absurd husable (h rfl hdone e he)
    · simp only [secStep, heq, recorded]
      exact iff_of_true hs fun _ hdone => absurd hdone hnot
    · simp only [secStep, heq, recorded]
      exact iff_of_true hs fun _ hdone => absurd hdone hnot
  | retrieveSecure c key requireBio =>
    rcases retrieveSecure_cases cfg c s.storage key requireBio with
      ⟨data, hbio, hget, heq⟩ | ⟨item, hitem, hkey, hserves, heq⟩ | ⟨e, hfail, heq⟩
    · simp only [secStep, heq]
      refine iff_of_true hs fun _ _ _ _ v hlast => ?_
      rw [hs.cached hget] at hlast
      cases hlast
    · simp only [secStep, heq]
      cases requireBio with
      | true =>
        simp only [Bool.not_true, Bool.and_false, Bool.false_eq_true, if_false]
        exact iff_of_true hs fun hbio => absurd hbio (by decide)
      | false =>
        -- what the Keychain serves without the prompt is cached
        simp only [Bool.not_false, Bool.and_true]
        rw [coherent_openRead_iff cfg c s key item hitem ht hs]
        constructor
        · intro h _ _ hrem _ v hlast
          exact absurd hlast (h hrem v)
        · intro h hrem v hlast
          have := h rfl hkey hrem hserves v hlast
          rw [hitem] at this
          cases this
    · simp only [secStep, heq]
      exact iff_of_true hs fun _ hkey _ hserves _ _ => hfail hkey hserves
  | deleteSecure c key =>
    refine iff_of_true ?_ trivial
    rcases deleteSecure_cases cfg c s.storage key with ⟨r, kc, hr, heq⟩ | ⟨e, heq⟩
    · simp only [secStep, heq]
      show Agrees (if cfg.enableCaching then s.storage.cache.erase key else s.storage.cache) _
      have hcache : cfg.enableCaching = false → s.storage.cache = ∅ := fun hoff =>
        ht.uncached (by rw [hoff]; rfl)
      cases hon : cfg.enableCaching with
      | false =>
        rw [if_neg (by decide), hcache hon]
        exact ReadCache.agrees_empty _
      | true =>
        rw [if_pos rfl]
        rcases hr with ⟨rfl, -⟩ | ⟨⟨e, rfl⟩, -⟩
        · show Agrees _ (openValue (Function.update s.last key none))
          rw [openValue_update]
          exact hs.update_erase key _
        · exact Agrees.erase hs key
    · simp only [secStep, heq, recorded]
      exact hs

/-! ## §4. Whole runs -/

/-- **The iOS backend acts as a map with a biometric gate, exactly**:
    over any run from any items, every retrieve of the run, and every
    retrieve that could be made in a state it reaches, answers with the
    value last stored and never past the gate, if and only if every
    operation keeps the gate. -/
theorem gateHolds_iff (cfg : StorageConfig) (keychain : Keychain) (ops : List SecOp) :
    (Always (secStep cfg) (ServesLast cfg) (freshBackend keychain) ops ∧
        StepsMeet (secStep cfg) (GateHolds cfg) (freshBackend keychain) ops) ↔
      StepsMeet (secStep cfg) (KeepsGate cfg) (freshBackend keychain) ops := by
  have ht := tracks_fresh cfg keychain
  refine always_and_stepsMeet_iff_of_invariant (I := Tracks cfg)
    (fun s op hs => tracks_step cfg s op hs) (fun s op hs hG => ?_) ops ht
    ((servesLast_iff_coherent cfg _ ht).2 (coherent_fresh keychain))
  rw [servesLast_iff_coherent cfg _ (tracks_step cfg s op hs),
    coherent_step_iff cfg s op hs ((servesLast_iff_coherent cfg s hs).1 hG)]
  exact and_iff_left (hG op)

/-! ## §5. A stale read past the gate -/

/-- The configuration of the development storage. -/
def developmentConfig : StorageConfig :=
  { enableCaching := true, maxCacheSize := 50, cacheTtlSeconds := 300 }

def sampleKey : Key := "provii.cred.primary.AA".toList

/-- Store without biometrics, then overwrite with them. -/
def protect : List SecOp :=
  [.storeSecure (.healthy 0) sampleKey [1] false, .storeSecure (.healthy 1) sampleKey [2] true]

/-- **The value before last, without the prompt**: after an overwrite
    with biometrics the cache still answers with the value stored
    without them. -/
theorem stale_read_past_the_gate :
    let s := run (secStep developmentConfig) (freshBackend ∅) protect
    s.last sampleKey = some ([2], true) ∧
      getFromCache developmentConfig s.storage sampleKey 2 = some [1] ∧
      (retrieveSecure developmentConfig (.healthy 2) s.storage sampleKey false).1 = .ok [1] ∧
      ¬ StepsMeet (secStep developmentConfig) (GateHolds developmentConfig) (freshBackend ∅)
        (protect ++ [.retrieveSecure (.healthy 2) sampleKey false]) := by
  have hlast : (run (secStep developmentConfig) (freshBackend ∅) protect).last sampleKey =
      some ([2], true) := by
    decide +kernel
  have hcached : getFromCache developmentConfig
      (run (secStep developmentConfig) (freshBackend ∅) protect).storage sampleKey 2 =
        some [1] := by
    decide +kernel
  have hread : (retrieveSecure developmentConfig (.healthy 2)
      (run (secStep developmentConfig) (freshBackend ∅) protect).storage sampleKey false).1 =
        .ok [1] := by
    decide +kernel
  refine ⟨hlast, hcached, hread, ?_⟩
  rintro ⟨_, _, ⟨hvalue, _⟩, _⟩
  have := (congrArg (Option.map (·.1)) hlast).symm.trans (hvalue [1] hread)
  exact absurd this (by decide)

end ProviiSdk.Ios
