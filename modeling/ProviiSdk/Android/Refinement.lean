/-
  ProviiSdk.Android.Refinement — the Android backend meets the contract.

  What the credential store is verified against is a finite map any call
  of which may fail.  This file shows that the Android backend, its Java
  bridge, its read cache and its biometric prompt included, is such a
  map: every call of the trait answers as the map answers under some
  failures, as long as three things do not happen that the backend does
  not guard against.  A store over an item whose old value is cached
  leaves the old value there; a delete the bridge reports as not done is
  reported as done; and a listing answered with null lists nothing.

  Main results:
    * `follows_step` — one call, from related contents.
    * `android_meets_contract` — whole runs of calls.
-/

import ProviiSdk.Android.CacheCoherence
import ProviiSdk.Android.Rotation
import ProviiSdk.Platform.Contract

namespace ProviiSdk.Android

open ProviiSdk.Platform ProviiSdk.Run ProviiSdk.Check ProviiSdk.Simulation
open ProviiSdk.ReadCache (Cache Entry Agrees)

/-! ## §1. The trait implementation -/

/-- A call of the trait, with what the JVM, the bridge and the clock
    answer to it. -/
structure Call where
  jni : Jni
  list : ListCall
  request : Request

/-- The trait's `exists`: the key is looked for in the listing, so that
    no item is decrypted. -/
def existsListed (l : ListCall) (keystore : Keystore) (key : Key) : Except WalletError Bool := do
  validateKey key
  let keys ← listKeysSecure l keystore
  return keys.contains key

/-- The trait on the backend. -/
def perform (cfg : StorageConfig) (s : AndroidStorage) (c : Call) :
    Except WalletError Answer × AndroidStorage :=
  match c.request with
  | .store key data bio =>
    let r := storeSecure c.jni s key data bio.isRequired
    (r.1.map fun _ => .done, r.2)
  | .retrieve key bio =>
    let r := retrieveSecure cfg c.jni s key bio.isRequired
    (r.1.map .data, r.2)
  | .delete key =>
    let r := deleteSecure cfg c.jni s key
    (r.1.map fun _ => .done, r.2)
  | .exists_ key => ((existsListed c.list s.keystore key).map .present, s)
  | .listKeys => ((listKeysSecure c.list s.keystore).map .keys, s)

/-! ## §2. Related contents -/

/-- The bytes of an item of the contract, and whether it was written with
    a biometric requirement. -/
def protection (item : Item) : Bytes × Bool := (item.data, item.bio.isRequired)

/-- The contents behind the bridge are those of the contract, biometric
    flags included, and no usable cache entry differs from them. -/
structure Refines (cfg : StorageConfig) (kv : Kv) (s : AndroidStorage) : Prop where
  items : ∀ k, (kv.lookup k).map protection = (s.keystore.lookup k).map fun i => (i.data, i.bio)
  cache : Agrees s.operationCache fun k => (kv.lookup k).map (·.data)
  uncached : cfg.enableCaching = false → s.operationCache = ∅

/-- A listing is not answered with null, unless there is nothing to list. -/
def ListCall.Lists (l : ListCall) (keystore : Keystore) : Prop :=
  l.env = none → l.bridge = none → l.answer = .null → keystore.keys = []

/-- The condition on a call: a store that goes through finds no usable
    cache entry of its key with another value, the bridge reports no
    delete of an item as not done, and no listing is null beside items. -/
def Faithful (s : AndroidStorage) (c : Call) : Prop :=
  match c.request with
  | .store key data bio =>
    StoreDone c.jni key data bio.isRequired →
      ∀ e, s.operationCache.lookup key = some e → e.Usable → e.data = data
  | .retrieve _ _ => True
  | .delete key =>
    deleteChecks c.jni key = .ok () → c.jni.write = .ok false → s.keystore.lookup key = none
  | .exists_ _ => c.list.Lists s.keystore
  | .listKeys => c.list.Lists s.keystore

theorem refines_empty (cfg : StorageConfig) :
    Refines cfg ∅ { keystore := ∅, operationCache := ∅ } where
  items := fun _ => rfl
  cache := ReadCache.agrees_empty _
  uncached := fun _ => rfl

variable {cfg : StorageConfig} {kv : Kv} {s : AndroidStorage}

/-- Related contents hold items under the same keys. -/
theorem Refines.isSome (h : Refines cfg kv s) (k : Key) :
    (kv.lookup k).isSome = (s.keystore.lookup k).isSome := by
  have hitems := congrArg Option.isSome (h.items k)
  rwa [Option.isSome_map, Option.isSome_map] at hitems

/-- An item behind the bridge has its bytes in the contents. -/
theorem Refines.item (h : Refines cfg kv s) {k : Key} {i : KeystoreItem}
    (hi : s.keystore.lookup k = some i) : ∃ item, kv.lookup k = some item ∧ item.data = i.data := by
  have hitems := h.items k
  rw [hi] at hitems
  obtain ⟨item, hitem, heq⟩ := Option.map_eq_some_iff.1 hitems
  exact ⟨item, hitem, congrArg Prod.fst heq⟩

/-- What the contents have as bytes after a write. -/
private theorem data_insert (kv : Kv) (key : Key) (item : Item) :
    (fun k => ((kv.insert key item).lookup k).map (·.data)) =
      Function.update (fun k => (kv.lookup k).map (·.data)) key (some item.data) := by
  funext k
  rw [lookup_insert_of, Function.update_apply]
  split
  · rfl
  · rfl

private theorem data_erase (kv : Kv) (key : Key) :
    (fun k => ((kv.erase key).lookup k).map (·.data)) =
      Function.update (fun k => (kv.lookup k).map (·.data)) key none := by
  funext k
  rw [lookup_erase_of, Function.update_apply]
  split
  · rfl
  · rfl

/-! ## §3. One call -/

/-- A store that goes through writes the item on both sides. -/
private theorem refines_store (h : Refines cfg kv s) (key : Key) (data : Bytes)
    (bio : BiometricRequirement)
    (hcache : ∀ e, s.operationCache.lookup key = some e → e.Usable → e.data = data) :
    Refines cfg (kv.insert key ⟨data, bio⟩)
      { s with keystore := s.keystore.insert key ⟨data, bio.isRequired⟩ } where
  items := by
    intro k
    rw [lookup_insert_of, lookup_insert_of]
    split
    · rfl
    · exact h.items k
  cache := by
    rw [data_insert]
    refine (ReadCache.agrees_update_iff h.cache key _).2 fun e he husable => ?_
    rw [hcache e he husable]
  uncached := h.uncached

/-- A delete that goes through, or finds nothing, removes the item on both
    sides. -/
private theorem refines_delete (h : Refines cfg kv s) (key : Key) (deleted : Bool)
    (hnone : deleted = false → s.keystore.lookup key = none) :
    Refines cfg (kv.erase key)
      { keystore := if deleted then s.keystore.erase key else s.keystore
        operationCache :=
          if cfg.enableCaching then s.operationCache.erase key else s.operationCache } where
  items := by
    intro k
    rw [lookup_erase_of]
    cases deleted with
    | true =>
      show _ = ((s.keystore.erase key).lookup k).map _
      rw [lookup_erase_of]
      split
      · rfl
      · exact h.items k
    | false =>
      show _ = (s.keystore.lookup k).map _
      split
      next hk =>
        rw [hk, hnone rfl]
        rfl
      next => exact h.items k
  cache := by
    rw [data_erase]
    cases hcfg : cfg.enableCaching with
    | true => exact h.cache.update_erase key none
    | false =>
      show Agrees s.operationCache _
      rw [h.uncached hcfg]
      exact ReadCache.agrees_empty _
  uncached := by
    intro hcfg
    rw [hcfg]
    exact h.uncached hcfg

/-- A value read through the bridge may be cached. -/
private theorem refines_cached (h : Refines cfg kv s) (j : Jni) (key : Key) (requireBio : Bool)
    {item : Item} (hitem : kv.lookup key = some item) :
    Refines cfg kv
      (if cfg.enableCaching && !requireBio then addToCache cfg j s key item.data else s) := by
  split
  next hif =>
    rw [Bool.and_eq_true] at hif
    refine ⟨fun k => ?_, ?_, fun hoff => ?_⟩
    · rw [addToCache_keystore]
      exact h.items k
    · unfold addToCache
      rw [if_pos hif.1]
      refine h.cache.add _ _ ?_ _ _
      rw [hitem]
      rfl
    · rw [hoff] at hif
      exact absurd hif.1 (by decide)
  next => exact h

/-- A listing that succeeds lists the stored keys. -/
private theorem listing_perm (h : Refines cfg kv s) {l : ListCall} (hl : l.Lists s.keystore)
    {ks : List Key} (hks : listKeysSecure l s.keystore = .ok ks) : ks.Perm kv.keys := by
  have hkeys := keys_perm_of_lookup h.isSome
  unfold listKeysSecure at hks
  simp only [bind_eq_ok_iff] at hks
  obtain ⟨_, henv, _, hbridge, hks⟩ := hks
  have hnull := fun hanswer => hl ((Jni.reach_eq_ok_iff l.env).1 henv)
    ((Jni.reach_eq_ok_iff l.bridge).1 hbridge) hanswer
  cases hanswer : l.answer with
  | raised e =>
    rw [hanswer] at hks
    cases hks
  | null =>
    rw [hanswer] at hks
    injection hks with hks
    rw [hnull hanswer] at hkeys
    rw [← hks]
    exact hkeys.symm
  | served order =>
    rw [hanswer] at hks
    injection hks with hks
    rw [← hks]
    exact (order.perm _).trans hkeys.symm

/-- A call that fails without effect is an allowed answer. -/
private theorem follows_error (h : Refines cfg kv s) (request : Request) (e : WalletError) :
    ∃ f : Faults, (Platform.perform kv (f, request)).1 = .error e ∧
      Refines cfg (Platform.perform kv (f, request)).2 s := by
  refine ⟨.failing e, ?_, ?_⟩
  · rw [perform_failing]
  · rw [perform_failing]
    exact h

/-- **One call follows the contract**: its answer is the map's under some
    failures, and the contents stay related. -/
theorem follows_step (cfg : StorageConfig) (kv : Kv) (s : AndroidStorage) (c : Call)
    (h : Refines cfg kv s) (hc : Faithful s c) :
    ∃ f : Faults, (Platform.perform kv (f, c.request)).1 = (perform cfg s c).1 ∧
      Refines cfg (Platform.perform kv (f, c.request)).2 (perform cfg s c).2 := by
  obtain ⟨jni, list, request⟩ := c
  cases request with
  | store key data bio =>
    unfold perform
    simp only
    rcases storeSecure_cases jni s key data bio.isRequired with ⟨hdone, heq⟩ | ⟨-, e, heq⟩
    · rw [heq]
      refine ⟨.never, ?_, ?_⟩
      · rw [perform_store]
        rfl
      · rw [perform_store]
        exact refines_store h key data bio (hc hdone)
    · rw [heq]
      exact follows_error h _ e
  | retrieve key bio =>
    unfold perform
    simp only
    rcases retrieveSecure_cases cfg jni s key bio.isRequired with
      ⟨data, -, -, hcached, heq⟩ | ⟨i, -, hi, heq⟩ | ⟨e, heq⟩
    · -- what the cache answers is what the contents have
      have hdata := h.cache.get hcached
      obtain ⟨item, hitem, hvalue⟩ := Option.map_eq_some_iff.1 hdata
      rw [heq]
      refine ⟨.never, ?_, ?_⟩
      · rw [perform_retrieve bio hitem, hvalue]
        rfl
      · rw [perform_retrieve bio hitem]
        exact h
    · obtain ⟨item, hitem, hvalue⟩ := h.item hi
      rw [heq, ← hvalue]
      refine ⟨.never, ?_, ?_⟩
      · rw [perform_retrieve bio hitem]
        rfl
      · rw [perform_retrieve bio hitem]
        exact refines_cached h jni key bio.isRequired hitem
    · rw [heq]
      exact follows_error h _ e
  | delete key =>
    unfold perform
    simp only
    rcases deleteSecure_cases cfg jni s key with ⟨deleted, hchecks, hwrite, heq⟩ | ⟨e, heq⟩
    · rw [heq]
      refine ⟨.never, ?_, ?_⟩
      · rw [perform_delete]
        rfl
      · rw [perform_delete]
        apply refines_delete h key deleted
        intro hkept
        rw [hkept] at hwrite
        exact hc hchecks hwrite
    · rw [heq]
      exact follows_error h _ e
  | exists_ key =>
    unfold perform existsListed
    simp only
    cases validateKey key with
    | error e => exact follows_error h _ e
    | ok u =>
      cases hks : listKeysSecure list s.keystore with
      | error e => exact follows_error h _ e
      | ok ks =>
        have hperm := listing_perm h hc hks
        have hmem : ks.contains key = (kv.lookup key).isSome := by
          rw [Bool.eq_iff_iff, List.contains_iff_mem, hperm.mem_iff, AList.lookup_isSome,
            AList.mem_keys]
        refine ⟨.never, ?_, h⟩
        show (Except.ok (Answer.present (kv.lookup key).isSome) : Except WalletError Answer) = _
        rw [← hmem]
        rfl
  | listKeys =>
    unfold perform
    simp only
    cases hks : listKeysSecure list s.keystore with
    | error e => exact follows_error h _ e
    | ok ks =>
      obtain ⟨f, hf⟩ := perform_listing kv (listing_perm h hc hks)
      refine ⟨f, ?_, ?_⟩
      · rw [hf]
        rfl
      · rw [hf]
        exact h

/-! ## §4. Whole runs -/

/-- **The Android backend meets the storage contract.**  Over any run of
    trait calls from related contents, with any answers of the JVM, the
    bridge, the prompt and the clock that meet the condition, the backend
    gives the answers of the finite map on the same requests under some
    failures of its calls, and the contents stay related: same keys, same
    bytes, and behind the biometric flag exactly what was stored with a
    requirement. -/
theorem android_meets_contract (cfg : StorageConfig) (kv : Kv) (s : AndroidStorage)
    (calls : List Call) (h : Refines cfg kv s)
    (hcalls : StepsMeet (next (perform cfg)) Faithful s calls) :
    ∃ specs : List (Faults × Request),
      List.Forall₂ (fun c spec => spec.2 = c.request) calls specs ∧
        outputs Platform.perform kv specs = outputs (perform cfg) s calls ∧
        Refines cfg (run (next Platform.perform) kv specs) (run (next (perform cfg)) s calls) := by
  apply outputs_of_simulation (P := Faithful) ?_ h hcalls
  intro kv s c hs hc
  obtain ⟨f, hanswer, hnext⟩ := follows_step cfg kv s c hs hc
  exact ⟨(f, c.request), rfl, hanswer, hnext⟩

/-- A call that goes well. -/
def Call.healthy (request : Request) : Call :=
  { jni := .healthy 1, list := { env := none, bridge := none, answer := .served .asKept }, request }

/-- A secret is stored, read behind the prompt, looked for and listed; a
    delete of another key is reported as not done. -/
def contractCalls : List Call :=
  [.healthy (.store sampleKey [7] .forCredentialSecrets),
    .healthy (.retrieve sampleKey .forCredentialSecrets), .healthy (.exists_ sampleKey),
    { Call.healthy (.delete keyB) with jni := { Jni.healthy 1 with write := .ok false } },
    .healthy .listKeys]

/-- Such a run from the empty store. -/
theorem android_meets_contract_sample :
    ∃ specs : List (Faults × Request),
      List.Forall₂ (fun c spec => spec.2 = c.request) contractCalls specs ∧
        outputs Platform.perform ∅ specs =
          outputs (perform sampleConfig) { keystore := ∅, operationCache := ∅ } contractCalls ∧
        Refines sampleConfig (run (next Platform.perform) ∅ specs)
          (run (next (perform sampleConfig)) { keystore := ∅, operationCache := ∅ }
            contractCalls) := by
  apply android_meets_contract sampleConfig ∅ _ contractCalls (refines_empty sampleConfig)
  refine ⟨?_, trivial, ?_, ?_, ?_, trivial⟩
  · intro hdone e he
    cases he
  · intro henv hbridge hnull
    cases hnull
  · intro hchecks hwrite
    decide +kernel
  · intro henv hbridge hnull
    cases hnull

end ProviiSdk.Android
