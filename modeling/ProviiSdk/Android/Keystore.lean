/-
  ProviiSdk.Android.Keystore — the Android storage backend.

  Items live behind a Java bridge to the hardware keystore; the backend
  keeps a read cache in front of it.  The bridge is a map from keys to
  items: a write or a delete it reports as done has taken effect, and one
  it does not report as done has not.  What it answers at a call, and
  the clock readings of the call, are the call's `Jni` record.

  Metrics and the audit log are left out.  The metrics take the time of a
  call as `current_timestamp() - start` of the wall clock, which panics
  where the clock is set back while the call runs; the model assumes that
  it is not.  Between calls the clock may go anywhere.

  Main results:
    * `storeSecure_cases`, `deleteSecure_cases` — what the writing
      methods do.
    * `retrieveSecure_cases`, `retrieveSecure_ok_iff` — where a retrieved
      value comes from, and when there is one.
-/

import ProviiSdk.Lib.Check
import ProviiSdk.Lib.ReadCache
import ProviiSdk.Platform.SecureStorage

namespace ProviiSdk.Android

open ProviiSdk.Platform ProviiSdk.Check
open ProviiSdk.ReadCache (Cache Entry)

/-! ## §1. State -/

/-- An item behind the bridge: its bytes and whether it is protected by
    biometrics. -/
structure KeystoreItem where
  data : Bytes
  bio : Bool
  deriving DecidableEq

/-- The items behind the bridge. -/
abbrev Keystore := AList (fun _ : Key => KeystoreItem)

/-- The configuration the operations read. -/
structure StorageConfig where
  enableCaching : Bool
  cacheTtl : UInt64

structure AndroidStorage where
  keystore : Keystore
  operationCache : Cache Key Bytes

/-- Rust's `MAX_ITEM_SIZE` of the backend: 2 MiB. -/
def maxItemSize : Nat := 2 * 1024 * 1024

def validateKey (key : Key) : Except WalletError Unit := validateBackendKey key

def validateData (data : Bytes) : Except WalletError Unit := validateBackendData maxItemSize data

/-! ## §2. What the bridge answers -/

/-- How the bridge answers a read: with the item's bytes if there is an
    item, with null, or with an exception. -/
inductive BridgeRead where
  | served
  | null
  | raised (e : WalletError)

/-- What the JVM, the bridge and the clock answer during one call.  The
    cache is read at `now` and written at `cachedAt`; `order` is the
    order in which the cache is walked for the oldest entry. -/
structure Jni where
  env : Option WalletError
  auth : Except WalletError Bool
  bridge : Option WalletError
  write : Except WalletError Bool
  read : BridgeRead
  now : UInt64
  cachedAt : UInt64
  order : Listing

/-- A call that goes well. -/
def Jni.healthy (now : UInt64) : Jni :=
  { env := none, auth := .ok true, bridge := none, write := .ok true, read := .served, now,
    cachedAt := now, order := .asKept }

/-- An error, if there is one. -/
def Jni.reach (e : Option WalletError) : Except WalletError Unit :=
  match e with
  | some e => .error e
  | none => .ok ()

theorem Jni.reach_eq_ok_iff (e : Option WalletError) : Jni.reach e = .ok () ↔ e = none := by
  cases e <;> simp [Jni.reach]

/-- The biometric prompt of an operation that requires one; a rejected
    prompt fails the operation. -/
def authorise (j : Jni) (requireBio : Bool) : Except WalletError Unit :=
  if requireBio then
    match j.auth with
    | .error e => .error e
    | .ok ok =>
      require (ok = true) (.biometricFailed "Biometric authentication rejected or timed out")
  else .ok ()

/-- The bridge's `retrieveSecure`: null stands for an absent item. -/
def bridgeRetrieve (j : Jni) (keystore : Keystore) (key : Key) : Except WalletError Bytes :=
  match j.read with
  | .raised e => .error e
  | .null => .error (.storage "NotFound")
  | .served =>
    match keystore.lookup key with
    | some item => .ok item.data
    | none => .error (.storage "NotFound")

/-! ## §3. The cache -/

/-- The cache's capacity. -/
def cacheCapacity : Nat := 100

def getFromCache (s : AndroidStorage) (key : Key) (now : UInt64) : Option Bytes :=
  ReadCache.get s.operationCache key now

def addToCache (cfg : StorageConfig) (j : Jni) (s : AndroidStorage) (key : Key) (data : Bytes) :
    AndroidStorage :=
  if cfg.enableCaching then
    { s with
      operationCache := ReadCache.add s.operationCache j.order.order cacheCapacity key data
        j.cachedAt cfg.cacheTtl }
  else s

def removeFromCache (s : AndroidStorage) (key : Key) : AndroidStorage :=
  { s with operationCache := s.operationCache.erase key }

/-! ## §4. The operations -/

/-- What a store checks before it calls the bridge. -/
def storeChecks (j : Jni) (key : Key) (data : Bytes) (requireBio : Bool) :
    Except WalletError Unit := do
  Jni.reach j.env
  validateKey key
  validateData data
  authorise j requireBio
  Jni.reach j.bridge

/-- Store an item through the bridge. -/
def storeSecure (j : Jni) (s : AndroidStorage) (key : Key) (data : Bytes) (requireBio : Bool) :
    Except WalletError Unit × AndroidStorage :=
  match storeChecks j key data requireBio with
  | .error e => (.error e, s)
  | .ok () =>
    match j.write with
    | .error e => (.error e, s)
    | .ok false => (.error (.storage "Keystore error"), s)
    -- the cache keeps what it had for this key
    | .ok true => (.ok (), { s with keystore := s.keystore.insert key ⟨data, requireBio⟩ })

/-- What a retrieve that misses the cache checks before it calls the
    bridge. -/
def retrieveChecks (j : Jni) (key : Key) (requireBio : Bool) : Except WalletError Unit := do
  validateKey key
  authorise j requireBio
  Jni.reach j.bridge

/-- Retrieve an item, from the cache if no biometrics are required and
    it has a live entry. -/
def retrieveSecure (cfg : StorageConfig) (j : Jni) (s : AndroidStorage) (key : Key)
    (requireBio : Bool) : Except WalletError Bytes × AndroidStorage :=
  match Jni.reach j.env with
  | .error e => (.error e, s)
  | .ok () =>
    match if cfg.enableCaching && !requireBio then getFromCache s key j.now else none with
    | some data => (.ok data, s)
    | none =>
      -- a cache hit was answered before the key was checked
      match retrieveChecks j key requireBio with
      | .error e => (.error e, s)
      | .ok () =>
        match bridgeRetrieve j s.keystore key with
        | .error e => (.error e, s)
        | .ok data =>
          (.ok data, if cfg.enableCaching && !requireBio then addToCache cfg j s key data else s)

/-- What a delete checks before it calls the bridge. -/
def deleteChecks (j : Jni) (key : Key) : Except WalletError Unit := do
  Jni.reach j.env
  validateKey key
  Jni.reach j.bridge

/-- Delete an item.  The bridge's answer is dropped. -/
def deleteSecure (cfg : StorageConfig) (j : Jni) (s : AndroidStorage) (key : Key) :
    Except WalletError Unit × AndroidStorage :=
  match deleteChecks j key with
  | .error e => (.error e, s)
  | .ok () =>
    match j.write with
    | .error e => (.error e, s)
    | .ok deleted =>
      -- the entry goes even if the bridge kept the item
      let s := if deleted then { s with keystore := s.keystore.erase key } else s
      (.ok (), if cfg.enableCaching then removeFromCache s key else s)

/-! ## §5. What the operations do -/

/-- The store passes its checks and the bridge reports it as done. -/
def StoreDone (j : Jni) (key : Key) (data : Bytes) (requireBio : Bool) : Prop :=
  storeChecks j key data requireBio = .ok () ∧ j.write = .ok true

theorem storeSecure_cases (j : Jni) (s : AndroidStorage) (key : Key) (data : Bytes)
    (requireBio : Bool) :
    (StoreDone j key data requireBio ∧ storeSecure j s key data requireBio =
      (.ok (), { s with keystore := s.keystore.insert key ⟨data, requireBio⟩ })) ∨
    (¬ StoreDone j key data requireBio ∧
      ∃ e, storeSecure j s key data requireBio = (.error e, s)) := by
  unfold storeSecure StoreDone
  cases hc : storeChecks j key data requireBio with
  | error e => exact Or.inr ⟨by simp, e, rfl⟩
  | ok u =>
    cases hw : j.write with
    | error e => exact Or.inr ⟨by simp, e, rfl⟩
    | ok b =>
      cases b with
      | false => exact Or.inr ⟨by simp, _, rfl⟩
      | true => exact Or.inl ⟨⟨rfl, rfl⟩, rfl⟩

/-- A delete that returns `Ok` emptied the cache's entry, and the bridge's
    if the bridge reports so. -/
theorem deleteSecure_cases (cfg : StorageConfig) (j : Jni) (s : AndroidStorage) (key : Key) :
    (∃ deleted, deleteChecks j key = .ok () ∧ j.write = .ok deleted ∧
      deleteSecure cfg j s key =
        (.ok (),
          { keystore := if deleted then s.keystore.erase key else s.keystore
            operationCache :=
              if cfg.enableCaching then s.operationCache.erase key else s.operationCache })) ∨
    ∃ e, deleteSecure cfg j s key = (.error e, s) := by
  unfold deleteSecure
  cases hc : deleteChecks j key with
  | error e => exact Or.inr ⟨e, rfl⟩
  | ok u =>
    cases hw : j.write with
    | error e => exact Or.inr ⟨e, rfl⟩
    | ok deleted =>
      refine Or.inl ⟨deleted, rfl, rfl, ?_⟩
      cases deleted <;> cases cfg.enableCaching <;> rfl

/-- **Where a retrieved value comes from**: the cache, or the bridge; a
    value the bridge gave may be cached. -/
theorem retrieveSecure_cases (cfg : StorageConfig) (j : Jni) (s : AndroidStorage) (key : Key)
    (requireBio : Bool) :
    (∃ data, cfg.enableCaching = true ∧ requireBio = false ∧
      ReadCache.get s.operationCache key j.now = some data ∧
      retrieveSecure cfg j s key requireBio = (.ok data, s)) ∨
    (∃ item, validateKey key = .ok () ∧ s.keystore.lookup key = some item ∧
      retrieveSecure cfg j s key requireBio =
        (.ok item.data,
          if cfg.enableCaching && !requireBio then addToCache cfg j s key item.data else s)) ∨
    ∃ e, retrieveSecure cfg j s key requireBio = (.error e, s) := by
  unfold retrieveSecure
  cases Jni.reach j.env with
  | error e => exact Or.inr (Or.inr ⟨e, rfl⟩)
  | ok u =>
    cases hcache :
        (if cfg.enableCaching && !requireBio then getFromCache s key j.now else none) with
    | some data =>
      split at hcache
      next hif =>
        rw [Bool.and_eq_true, Bool.not_eq_true'] at hif
        exact Or.inl ⟨data, hif.1, hif.2, hcache, rfl⟩
      next _ => cases hcache
    | none =>
      cases hchk : retrieveChecks j key requireBio with
      | error e => exact Or.inr (Or.inr ⟨e, rfl⟩)
      | ok u =>
        unfold retrieveChecks at hchk
        rw [bind_eq_ok_iff] at hchk
        obtain ⟨_, hkey, -⟩ := hchk
        cases hread : bridgeRetrieve j s.keystore key with
        | error e => exact Or.inr (Or.inr ⟨e, rfl⟩)
        | ok data =>
          unfold bridgeRetrieve at hread
          split at hread
          · cases hread
          · cases hread
          · split at hread
            next item hitem =>
              injection hread with hread
              subst hread
              exact Or.inr (Or.inl ⟨item, hkey, hitem, rfl⟩)
            next _ => cases hread

/-- A read is answered with a value: by the cache, or else by the bridge
    once the checks have passed. -/
def Reads (cfg : StorageConfig) (j : Jni) (s : AndroidStorage) (key : Key) (requireBio : Bool)
    (data : Bytes) : Prop :=
  j.env = none ∧
    match if cfg.enableCaching && !requireBio then getFromCache s key j.now else none with
    | some d => d = data
    | none =>
      retrieveChecks j key requireBio = .ok () ∧ j.read = .served ∧
        ∃ item, s.keystore.lookup key = some item ∧ item.data = data

theorem bridgeRetrieve_ok_iff (j : Jni) (keystore : Keystore) (key : Key) (data : Bytes) :
    bridgeRetrieve j keystore key = .ok data ↔
      j.read = .served ∧ ∃ item, keystore.lookup key = some item ∧ item.data = data := by
  unfold bridgeRetrieve
  cases j.read with
  | raised e => simp
  | null => simp
  | served => cases keystore.lookup key <;> simp

/-- **A retrieve succeeds** exactly when its read is answered. -/
theorem retrieveSecure_ok_iff (cfg : StorageConfig) (j : Jni) (s : AndroidStorage) (key : Key)
    (requireBio : Bool) (data : Bytes) :
    (retrieveSecure cfg j s key requireBio).1 = .ok data ↔ Reads cfg j s key requireBio data := by
  unfold retrieveSecure Reads
  cases j.env with
  | some e => simp [Jni.reach]
  | none =>
    simp only [Jni.reach, true_and]
    cases (if cfg.enableCaching && !requireBio then getFromCache s key j.now else none) with
    | some d => simp
    | none =>
      cases retrieveChecks j key requireBio with
      | error e => simp
      | ok u =>
        simp only [true_and, ← bridgeRetrieve_ok_iff]
        cases bridgeRetrieve j s.keystore key <;> simp

/-- A retrieve changes no item. -/
theorem retrieveSecure_keystore (cfg : StorageConfig) (j : Jni) (s : AndroidStorage) (key : Key)
    (requireBio : Bool) : (retrieveSecure cfg j s key requireBio).2.keystore = s.keystore := by
  rcases retrieveSecure_cases cfg j s key requireBio with
    ⟨_, -, -, -, heq⟩ | ⟨item, -, -, heq⟩ | ⟨_, heq⟩
  · rw [heq]
  · rw [heq]
    unfold addToCache
    split
    · split <;> rfl
    · rfl
  · rw [heq]

end ProviiSdk.Android
