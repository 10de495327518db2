/-
  ProviiSdk.Ios.Refinement — the iOS backend meets the contract.

  The Keychain backend next to the finite map the credential store is
  verified against.  Its retries, its overwrites by update or by delete
  and add, its read cache and its prompt are not visible to the trait's
  caller, as long as two things do not happen: an overwrite of a secret
  that removes the old item and fails to add the new one, which is an
  error with an effect, and a store with biometrics over an item whose
  old value is cached.

  Main results:
    * `follows_step` — one call, from related contents.
    * `ios_meets_contract` — whole runs of calls.
-/

import ProviiSdk.Ios.CacheGate
import ProviiSdk.Ios.Rotation
import ProviiSdk.Platform.Contract

namespace ProviiSdk.Ios

open ProviiSdk.Platform ProviiSdk.Run ProviiSdk.Simulation
open ProviiSdk.ReadCache (Cache Entry Agrees)

/-! ## §1. The trait implementation -/

/-- A call of the trait, with what the Keychain and the clock answer to
    it. -/
structure Call where
  sec : SecCall
  list : SecList
  attributes : Option SecError
  request : Request

/-- The trait's `exists`: the item's attributes are asked for and not its
    data, so that nothing is decrypted. -/
def existsInternal (fail : Option SecError) (kc : Keychain) (key : Key) : Except WalletError Bool :=
  match fail with
  | some e => .error (mapKeychainError e.status)
  | none => .ok (kc.lookup key).isSome

/-- With the key check before it. -/
def existsSecure (fail : Option SecError) (kc : Keychain) (key : Key) : Except WalletError Bool :=
  match validateKey key with
  | .error e => .error e
  | .ok () => existsInternal fail kc key

/-- The trait on the backend. -/
def perform (cfg : StorageConfig) (s : IosStorage) (c : Call) :
    Except WalletError Answer × IosStorage :=
  match c.request with
  | .store key data bio =>
    let r := storeSecure cfg c.sec s key data bio.isRequired
    (r.1.map fun _ => .done, r.2)
  | .retrieve key bio =>
    let r := retrieveSecure cfg c.sec s key bio.isRequired
    (r.1.map .data, r.2)
  | .delete key =>
    let r := deleteSecure cfg c.sec s key
    (r.1.map fun _ => .done, r.2)
  | .exists_ key => ((existsSecure c.attributes s.keychain key).map .present, s)
  | .listKeys => ((listKeysInternal c.list s.keychain).map .keys, s)

/-! ## §2. Related contents -/

/-- The Keychain has the bytes of the contract's contents, behind access
    control where they were written with a biometric requirement, and no
    usable cache entry differs from them. -/
structure Refines (cfg : StorageConfig) (kv : Kv) (s : IosStorage) : Prop where
  items : ∀ k, (kv.lookup k).map (·.data) = (s.keychain.lookup k).map (·.data)
  gated : ∀ k item i, kv.lookup k = some item → s.keychain.lookup k = some i →
    item.bio.isRequired = true → i.bio = true
  cache : Agrees s.cache fun k => (kv.lookup k).map (·.data)
  uncached : (cfg.enableCaching && decide (0 < cfg.maxSize)) = false → s.cache = ∅

/-- The condition on a call: no store is torn, a store with biometrics
    that goes through finds no usable cache entry of its key with another
    value, and no listing is null beside items. -/
def Faithful (s : IosStorage) (c : Call) : Prop :=
  match c.request with
  | .store key data bio =>
    ¬ StoreTorn c.sec s.keychain key data bio.isRequired ∧
      (bio.isRequired = true → StoreDone c.sec s.keychain key data bio.isRequired →
        ∀ e, s.cache.lookup key = some e → e.Usable → e.data = data)
  | .listKeys => c.list = .null → s.keychain.keys = []
  | _ => True

theorem refines_empty (cfg : StorageConfig) : Refines cfg ∅ { keychain := ∅, cache := ∅ } where
  items := fun _ => rfl
  gated := by
    intro k item i h
    cases h
  cache := ReadCache.agrees_empty _
  uncached := fun _ => rfl

variable {cfg : StorageConfig} {kv : Kv} {s : IosStorage}

/-- Related contents hold items under the same keys. -/
theorem Refines.isSome (h : Refines cfg kv s) (k : Key) :
    (kv.lookup k).isSome = (s.keychain.lookup k).isSome := by
  have hitems := congrArg Option.isSome (h.items k)
  rwa [Option.isSome_map, Option.isSome_map] at hitems

/-- A Keychain item has its bytes in the contents. -/
theorem Refines.item (h : Refines cfg kv s) {k : Key} {i : KeychainItem}
    (hi : s.keychain.lookup k = some i) : ∃ item, kv.lookup k = some item ∧ item.data = i.data := by
  have hitems := h.items k
  rw [hi] at hitems
  exact Option.map_eq_some_iff.1 hitems

/-! ## §3. One call -/

/-- A value that is the contents' own may be cached. -/
private theorem refines_cached (h : Refines cfg kv s) (c : SecCall) (key : Key) {item : Item}
    (hitem : kv.lookup key = some item) : Refines cfg kv (addToCache cfg c s key item.data) := by
  refine ⟨fun k => ?_, fun k => ?_, ?_, fun hoff => ?_⟩
  · rw [addToCache_keychain]
    exact h.items k
  · rw [addToCache_keychain]
    exact h.gated k
  · unfold addToCache
    split
    · refine h.cache.add _ _ ?_ _ _
      rw [hitem]
      rfl
    · exact h.cache
  · rw [addToCache_off cfg c s key item.data hoff]
    exact h.uncached hoff

/-- A store that goes through writes the item on both sides; without
    biometrics the cache is refreshed after it. -/
private theorem refines_stored (h : Refines cfg kv s) {kc : Keychain} (key : Key) (data : Bytes)
    (bio : BiometricRequirement) (hstored : Stored s.keychain kc key data bio.isRequired)
    {cache : Cache Key Bytes} (hcache : Agrees cache
      (Function.update (fun k => (kv.lookup k).map (·.data)) key (some data)))
    (hoff : (cfg.enableCaching && decide (0 < cfg.maxSize)) = false → cache = ∅) :
    Refines cfg (kv.insert key ⟨data, bio⟩) { keychain := kc, cache } where
  items := by
    intro k
    rw [lookup_insert_of]
    split
    next hk =>
      obtain ⟨item, hitem, hdata, -⟩ := hstored.item
      rw [hk, hitem]
      exact congrArg some hdata.symm
    next hk =>
      rw [hstored.others k hk]
      exact h.items k
  gated := by
    intro k item i hitem hi hbio
    rw [lookup_insert_of] at hitem
    split at hitem
    next hk =>
      injection hitem with hitem
      obtain ⟨i', hi', -, hgate⟩ := hstored.item
      have hsame : i = i' := by
        rw [hk, hi'] at hi
        injection hi with hi
        exact hi.symm
      rw [hsame]
      rw [← hitem] at hbio
      exact hgate hbio
    next hk =>
      have hi' : s.keychain.lookup k = some i := by
        rw [← hstored.others k hk]
        exact hi
      exact h.gated k item i hitem hi' hbio
  cache := by
    have hupdate : (fun k => ((kv.insert key ⟨data, bio⟩).lookup k).map (·.data)) =
        Function.update (fun k => (kv.lookup k).map (·.data)) key (some data) := by
      funext k
      rw [lookup_insert_of, Function.update_apply]
      split
      · rfl
      · rfl
    rw [hupdate]
    exact hcache
  uncached := hoff

/-- An item that went, and its cache entry with it. -/
private theorem refines_deleted (h : Refines cfg kv s) {kc : Keychain} (key : Key)
    (hgone : ∀ k, kc.lookup k = if k = key then none else s.keychain.lookup k) :
    Refines cfg (kv.erase key)
      { keychain := kc, cache := if cfg.enableCaching then s.cache.erase key else s.cache } where
  items := by
    intro k
    rw [lookup_erase_of, hgone]
    split
    · rfl
    · exact h.items k
  gated := by
    intro k item i hitem hi
    rw [lookup_erase_of] at hitem
    split at hitem
    next => cases hitem
    next hk =>
      rw [hgone, if_neg hk] at hi
      exact h.gated k item i hitem hi
  cache := by
    have hupdate : (fun k => ((kv.erase key).lookup k).map (·.data)) =
        Function.update (fun k => (kv.lookup k).map (·.data)) key none := by
      funext k
      rw [lookup_erase_of, Function.update_apply]
      split
      · rfl
      · rfl
    rw [hupdate]
    split
    · exact h.cache.update_erase key none
    next hcfg =>
      rw [h.uncached (by rw [Bool.eq_false_of_not_eq_true hcfg]; rfl)]
      exact ReadCache.agrees_empty _
  uncached := by
    intro hoff
    rw [h.uncached hoff]
    exact ite_self _

/-- A call that fails without effect on the items is an allowed answer. -/
private theorem follows_error {s' : IosStorage} (h : Refines cfg kv s') (request : Request)
    (e : WalletError) : ∃ f : Faults, (Platform.perform kv (f, request)).1 = .error e ∧
      Refines cfg (Platform.perform kv (f, request)).2 s' := by
  refine ⟨.failing e, ?_, ?_⟩
  · rw [perform_failing]
  · rw [perform_failing]
    exact h

/-- A store follows the contract. -/
private theorem follows_store (h : Refines cfg kv s) (c : SecCall) (key : Key) (data : Bytes)
    (bio : BiometricRequirement) (htorn : ¬ StoreTorn c s.keychain key data bio.isRequired)
    (hcached : bio.isRequired = true → StoreDone c s.keychain key data bio.isRequired →
      ∀ e, s.cache.lookup key = some e → e.Usable → e.data = data) :
    ∃ f : Faults,
      (Platform.perform kv (f, .store key data bio)).1 =
        (storeSecure cfg c s key data bio.isRequired).1.map (fun _ => .done) ∧
      Refines cfg (Platform.perform kv (f, .store key data bio)).2
        (storeSecure cfg c s key data bio.isRequired).2 := by
  rcases storeSecure_cases cfg c s key data bio.isRequired with
    ⟨hdone, kc, hstored, heq⟩ | ⟨htorn', -⟩ | ⟨-, -, e, heq⟩
  · rw [heq]
    refine ⟨.never, rfl, ?_⟩
    rw [perform_store]
    show Refines cfg _ (if cfg.enableCaching && !bio.isRequired then _ else _)
    split
    next hif =>
      unfold addToCache
      split
      next hroom =>
        -- the cache is refreshed with the new value
        refine refines_stored h key data bio hstored (h.cache.update_add _ _ _ _ _ _) fun hoff => ?_
        rw [hroom] at hoff
        cases hoff
      next hroom =>
        have hempty := h.uncached (Bool.eq_false_of_not_eq_true hroom)
        refine refines_stored h key data bio hstored ?_ h.uncached
        rw [hempty]
        exact ReadCache.agrees_empty _
    next hif =>
      refine refines_stored h key data bio hstored ?_ h.uncached
      by_cases hbio : bio.isRequired = true
      · refine (ReadCache.agrees_update_iff h.cache key _).2 fun e he husable => ?_
        rw [hcached hbio hdone e he husable]
      · -- caching is off
        have hcfg : cfg.enableCaching = false := by
          rw [Bool.eq_false_of_not_eq_true hbio, Bool.not_false, Bool.and_true] at hif
          exact Bool.eq_false_of_not_eq_true hif
        rw [h.uncached (by rw [hcfg]; rfl)]
        exact ReadCache.agrees_empty _
  · exact absurd htorn' htorn
  · rw [heq]
    exact follows_error h _ e

/-- A retrieve follows the contract. -/
private theorem follows_retrieve (h : Refines cfg kv s) (c : SecCall) (key : Key)
    (bio : BiometricRequirement) :
    ∃ f : Faults,
      (Platform.perform kv (f, .retrieve key bio)).1 =
        (retrieveSecure cfg c s key bio.isRequired).1.map .data ∧
      Refines cfg (Platform.perform kv (f, .retrieve key bio)).2
        (retrieveSecure cfg c s key bio.isRequired).2 := by
  rcases retrieveSecure_cases cfg c s key bio.isRequired with
    ⟨data, -, hget, heq⟩ | ⟨i, hi, -, -, heq⟩ | ⟨e, -, heq⟩
  · -- what the cache answers is what the contents have
    unfold getFromCache at hget
    split at hget
    next =>
      obtain ⟨item, hitem, hvalue⟩ := Option.map_eq_some_iff.1 (h.cache.get hget)
      rw [heq]
      refine ⟨.never, ?_, ?_⟩
      · rw [perform_retrieve bio hitem, hvalue]
        rfl
      · rw [perform_retrieve bio hitem]
        exact h
    next => cases hget
  · obtain ⟨item, hitem, hvalue⟩ := h.item hi
    rw [heq, ← hvalue]
    refine ⟨.never, ?_, ?_⟩
    · rw [perform_retrieve bio hitem]
      rfl
    · rw [perform_retrieve bio hitem]
      show Refines cfg kv (if cfg.enableCaching && !bio.isRequired then _ else _)
      split
      · exact refines_cached h c key hitem
      · exact h
  · rw [heq]
    exact follows_error h _ e

/-- A delete follows the contract; one that fails has dropped a cache
    entry at most. -/
private theorem follows_delete (h : Refines cfg kv s) (c : SecCall) (key : Key) :
    ∃ f : Faults,
      (Platform.perform kv (f, .delete key)).1 =
        (deleteSecure cfg c s key).1.map (fun _ => .done) ∧
      Refines cfg (Platform.perform kv (f, .delete key)).2 (deleteSecure cfg c s key).2 := by
  rcases deleteSecure_cases cfg c s key with ⟨r, kc, ⟨rfl, hgone⟩ | ⟨⟨e, rfl⟩, rfl⟩, heq⟩ | ⟨e, heq⟩
  · rw [heq]
    exact ⟨.never, rfl, refines_deleted h key hgone⟩
  · have hdropped : Refines cfg kv
        { s with cache := if cfg.enableCaching then s.cache.erase key else s.cache } := by
      refine ⟨h.items, h.gated, ?_, fun hoff => ?_⟩
      · show Agrees (if cfg.enableCaching then _ else _) _
        split
        · exact h.cache.erase key
        · exact h.cache
      · show (if cfg.enableCaching then s.cache.erase key else s.cache) = ∅
        rw [h.uncached hoff]
        exact ite_self _
    rw [heq]
    exact follows_error hdropped _ e
  · rw [heq]
    exact follows_error h _ e

/-- **One call follows the contract**: its answer is the map's under some
    failures, and the contents stay related. -/
theorem follows_step (cfg : StorageConfig) (kv : Kv) (s : IosStorage) (c : Call)
    (h : Refines cfg kv s) (hc : Faithful s c) :
    ∃ f : Faults, (Platform.perform kv (f, c.request)).1 = (perform cfg s c).1 ∧
      Refines cfg (Platform.perform kv (f, c.request)).2 (perform cfg s c).2 := by
  obtain ⟨sec, list, attributes, request⟩ := c
  cases request with
  | store key data bio => exact follows_store h sec key data bio hc.1 hc.2
  | retrieve key bio => exact follows_retrieve h sec key bio
  | delete key => exact follows_delete h sec key
  | exists_ key =>
    unfold perform existsSecure
    simp only
    cases validateKey key with
    | error e => exact follows_error h _ e
    | ok u =>
      cases attributes with
      | some e => exact follows_error h _ (mapKeychainError e.status)
      | none =>
        refine ⟨.never, ?_, h⟩
        rw [perform_exists, h.isSome]
        rfl
  | listKeys =>
    have hkeys := keys_perm_of_lookup h.isSome
    unfold perform
    simp only
    cases list with
    | failed e => exact follows_error h _ (mapKeychainError e.status)
    | malformed e => exact follows_error h _ e
    | null =>
      have hnone : s.keychain.keys = [] := hc rfl
      rw [hnone] at hkeys
      obtain ⟨f, hf⟩ := perform_listing kv hkeys.symm
      refine ⟨f, ?_, ?_⟩
      · rw [hf]
        rfl
      · rw [hf]
        exact h
    | served order =>
      obtain ⟨f, hf⟩ := perform_listing kv ((order.perm _).trans hkeys.symm)
      refine ⟨f, ?_, ?_⟩
      · rw [hf]
        rfl
      · rw [hf]
        exact h

/-! ## §4. Whole runs -/

/-- **The iOS backend meets the storage contract.**  Over any run of
    trait calls from related contents, with any answers of the Keychain
    and the clock, attempt by attempt, that meet the condition, the
    backend gives the answers of the finite map on the same requests under
    some failures of its calls, and the contents stay related: same keys,
    same bytes, and behind access control whatever was stored with a
    requirement. -/
theorem ios_meets_contract (cfg : StorageConfig) (kv : Kv) (s : IosStorage) (calls : List Call)
    (h : Refines cfg kv s) (hcalls : StepsMeet (next (perform cfg)) Faithful s calls) :
    ∃ specs : List (Faults × Request),
      List.Forall₂ (fun c spec => spec.2 = c.request) calls specs ∧
        outputs Platform.perform kv specs = outputs (perform cfg) s calls ∧
        Refines cfg (run (next Platform.perform) kv specs) (run (next (perform cfg)) s calls) := by
  apply outputs_of_simulation (P := Faithful) ?_ h hcalls
  intro kv s c hs hc
  obtain ⟨f, hanswer, hnext⟩ := follows_step cfg kv s c hs hc
  exact ⟨(f, c.request), rfl, hanswer, hnext⟩

/-- A call that goes well. -/
def Call.healthy (request : Request) : Call :=
  { sec := .healthy 1, list := .served .asKept, attributes := none, request }

/-- The key of a secrets record. -/
def secretKey : Key := "provii.credsec.primary.AA".toList

/-- A public record is stored, read and overwritten; a secret is stored,
    and read behind the prompt; then keys are looked for and listed. -/
def contractCalls : List Call :=
  [.healthy (.store sampleKey [7] .none), .healthy (.retrieve sampleKey .none),
    .healthy (.store sampleKey [8] .none), .healthy (.store secretKey [9] .forCredentialSecrets),
    .healthy (.retrieve secretKey .forCredentialSecrets), .healthy (.exists_ sampleKey),
    .healthy .listKeys]

/-- Such a run from the empty store, with a cache. -/
theorem ios_meets_contract_sample :
    ∃ specs : List (Faults × Request),
      List.Forall₂ (fun c spec => spec.2 = c.request) contractCalls specs ∧
        outputs Platform.perform ∅ specs =
          outputs (perform developmentConfig) { keychain := ∅, cache := ∅ } contractCalls ∧
        Refines developmentConfig (run (next Platform.perform) ∅ specs)
          (run (next (perform developmentConfig)) { keychain := ∅, cache := ∅ } contractCalls) := by
  apply ios_meets_contract developmentConfig ∅ _ contractCalls (refines_empty developmentConfig)
  have hopen : ∀ c kc key data, ¬ StoreTorn c kc key data BiometricRequirement.none.isRequired := by
    intro c kc key data htorn
    exact absurd htorn.2.1 (by decide)
  refine ⟨⟨hopen _ _ _ _, fun h => ?_⟩, trivial, ⟨hopen _ _ _ _, fun h => ?_⟩, ⟨?_, ?_⟩, trivial,
    trivial, fun h => ?_, trivial⟩
  · cases h
  · cases h
  · -- the Keychain answers, so no overwrite is torn
    rintro ⟨-, -, htorn⟩
    unfold BioOverwriteTorn at htorn
    simp [SecCall.healthy, SecAnswers.healthy, Call.healthy] at htorn
  · intro hbio hdone e he
    have hnone : (next (perform developmentConfig) (next (perform developmentConfig)
        (next (perform developmentConfig) { keychain := ∅, cache := ∅ }
          (.healthy (.store sampleKey [7] .none))) (.healthy (.retrieve sampleKey .none)))
        (.healthy (.store sampleKey [8] .none))).cache.lookup secretKey = none := by
      decide +kernel
    rw [hnone] at he
    cases he
  · cases h

end ProviiSdk.Ios
