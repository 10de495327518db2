/-
  ProviiSdk.Ios.Keychain — the iOS storage backend.

  Items live in the Keychain, which adds, updates, deletes and copies
  them one call at a time; the backend keeps a cache in front of it.
  The Keychain is a map from keys to items with their access control.
  Each of its calls may fail without effect, with a status of its own.

  A store without biometrics is retried, so what the Keychain answers is
  given attempt by attempt.  Metrics and the audit log are left out.  The
  metrics take the time of a call as `current_timestamp() - start` of the
  wall clock, which panics where the clock is set back while the call
  runs; the model assumes that it is not.
-/

import ProviiSdk.Lib.Check
import ProviiSdk.Lib.ReadCache
import ProviiSdk.Lib.Retry
import ProviiSdk.Platform.SecureStorage

namespace ProviiSdk.Ios

open ProviiSdk.Platform ProviiSdk.Check

/-! ## §1. Statuses -/

def errSecSuccess : Int := 0
def errSecDuplicateItem : Int := -25299
def errSecItemNotFound : Int := -25300
def errSecAuthFailed : Int := -25293
def errSecUserCanceled : Int := -128

/-- A status with which a Keychain call fails for a reason other than
    what the Keychain holds. -/
structure SecError where
  status : Int
  notSuccess : status ≠ errSecSuccess
  notDuplicate : status ≠ errSecDuplicateItem
  notNotFound : status ≠ errSecItemNotFound

/-- The error of a failed authentication. -/
def SecError.authFailed : SecError :=
  ⟨errSecAuthFailed, by decide, by decide, by decide⟩

/-- The error a status is reported as. -/
def mapKeychainError (status : Int) : WalletError :=
  let msg :=
    if status = errSecItemNotFound then "NotFound"
    else if status = errSecDuplicateItem then "Duplicate item"
    else if status = errSecAuthFailed then "Authentication failed"
    else if status = errSecUserCanceled then "User cancelled"
    else "Keychain error"
  .storage s!"{msg} (OSStatus: {status})"

/-! ## §2. The Keychain -/

/-- An item: its bytes and whether its access control asks for
    biometrics. -/
structure KeychainItem where
  data : Bytes
  bio : Bool
  deriving DecidableEq

abbrev Keychain := AList (fun _ : Key => KeychainItem)

/-- Add an item; the key must be free. -/
def secItemAdd (fail : Option SecError) (kc : Keychain) (key : Key) (item : KeychainItem) :
    Int × Keychain :=
  match fail with
  | some e => (e.status, kc)
  | none =>
    if (kc.lookup key).isSome then (errSecDuplicateItem, kc)
    else (errSecSuccess, kc.insert key item)

/-- Replace the bytes of an item; its access control stays. -/
def secItemUpdate (fail : Option SecError) (kc : Keychain) (key : Key) (data : Bytes) :
    Int × Keychain :=
  match fail with
  | some e => (e.status, kc)
  | none =>
    match kc.lookup key with
    | some item => (errSecSuccess, kc.insert key { item with data })
    | none => (errSecItemNotFound, kc)

def secItemDelete (fail : Option SecError) (kc : Keychain) (key : Key) : Int × Keychain :=
  match fail with
  | some e => (e.status, kc)
  | none =>
    if (kc.lookup key).isSome then (errSecSuccess, kc.erase key) else (errSecItemNotFound, kc)

/-- How a copy of an item is answered: with its bytes, with a failure, or
    with a result that is not a byte string. -/
inductive SecCopy where
  | served
  | failed (e : SecError)
  | malformed (e : WalletError)

/-- What the Keychain answers to the calls of one attempt. -/
structure SecAnswers where
  accessControl : Bool
  add : Option SecError
  update : Option SecError
  delete : Option SecError
  reAdd : Option SecError
  copy : SecCopy

/-- An attempt in which no call fails. -/
def SecAnswers.healthy : SecAnswers :=
  { accessControl := true, add := none, update := none, delete := none, reAdd := none,
    copy := .served }

/-! ## §3. One attempt at an operation -/

def updateItemInternal (a : SecAnswers) (kc : Keychain) (key : Key) (data : Bytes) :
    Except WalletError Unit × Keychain :=
  let (status, kc) := secItemUpdate a.update kc key data
  (if status = errSecSuccess then .ok () else .error (mapKeychainError status), kc)

/-- Delete an item; an absent one is no error. -/
def deleteItemInternal (a : SecAnswers) (kc : Keychain) (key : Key) :
    Except WalletError Unit × Keychain :=
  let (status, kc) := secItemDelete a.delete kc key
  (if status = errSecSuccess ∨ status = errSecItemNotFound then .ok ()
    else .error (mapKeychainError status), kc)

/-- Add an item, or overwrite the one that is there: in place without
    biometrics, by deleting it and adding again with biometrics. -/
def storeItemInternal (a : SecAnswers) (kc : Keychain) (key : Key) (data : Bytes)
    (requireBio : Bool) : Except WalletError Unit × Keychain :=
  if requireBio && !a.accessControl then
    (.error (.storage "Failed to create biometric access control"), kc)
  else
    let (status, kc) := secItemAdd a.add kc key ⟨data, requireBio⟩
    if status = errSecSuccess then (.ok (), kc)
    else if status = errSecDuplicateItem then
      if requireBio then
        -- an update cannot set the access control, so the item is replaced
        match deleteItemInternal a kc key with
        | (.error e, kc) => (.error e, kc)
        | (.ok (), kc) =>
          -- the old item is gone, whatever this add answers
          let (reAddStatus, kc) := secItemAdd a.reAdd kc key ⟨data, requireBio⟩
          (if reAddStatus = errSecSuccess then .ok ()
            else .error (mapKeychainError reAddStatus), kc)
      else updateItemInternal a kc key data
    else (.error (mapKeychainError status), kc)

def retrieveItemInternal (a : SecAnswers) (kc : Keychain) (key : Key) : Except WalletError Bytes :=
  match a.copy with
  | .malformed e => .error e
  | .failed e => .error (mapKeychainError e.status)
  | .served =>
    match kc.lookup key with
    | some item => .ok item.data
    | none => .error (.storage "NotFound")

/-! ## §4. Retrying -/

/-- An error that is never retried: a failed authentication or a
    cancelled prompt. -/
def isNonRetryableError : WalletError → Bool
  | .biometricFailed _ => true
  | .storage msg =>
    decide ("Authentication failed".toList <:+: msg.toList) ||
      decide ("User cancelled".toList <:+: msg.toList) ||
      decide (s!"OSStatus: {errSecAuthFailed}".toList <:+: msg.toList) ||
      decide (s!"OSStatus: {errSecUserCanceled}".toList <:+: msg.toList)
  | _ => false

/-- Retry an operation unless its error is never retried.  The attempts
    are numbered from 0. -/
def withRetry {σ α : Type} (maxRetries : Nat) (op : Nat → σ → Except WalletError α × σ) (s : σ) :
    Except WalletError α × σ :=
  Retry.retry isNonRetryableError op maxRetries 0 s

/-- Rust's `MAX_KEYCHAIN_RETRIES`. -/
def maxKeychainRetries : Nat := 3

/-! ## §5. The backend -/

structure StorageConfig where
  enableCaching : Bool
  maxCacheSize : Nat
  cacheTtlSeconds : UInt64

/-- The capacity of the cache. -/
def StorageConfig.maxSize (cfg : StorageConfig) : Nat :=
  if cfg.enableCaching then cfg.maxCacheSize else 0

structure IosStorage where
  keychain : Keychain
  cache : ReadCache.Cache Key Bytes

/-- What the Keychain and the clock answer during one call, attempt by
    attempt. -/
structure SecCall where
  attempt : Nat → SecAnswers
  now : UInt64
  cachedAt : UInt64
  order : Listing

def SecCall.healthy (now : UInt64) : SecCall :=
  { attempt := fun _ => .healthy, now, cachedAt := now, order := .asKept }

/-- Rust's `MAX_ITEM_SIZE` of the backend: 1 MiB. -/
def maxItemSize : Nat := 1024 * 1024

def validateKey (key : Key) : Except WalletError Unit := validateBackendKey key

def validateData (data : Bytes) : Except WalletError Unit := validateBackendData maxItemSize data

def getFromCache (cfg : StorageConfig) (s : IosStorage) (key : Key) (now : UInt64) : Option Bytes :=
  if cfg.enableCaching then ReadCache.get s.cache key now else none

def addToCache (cfg : StorageConfig) (c : SecCall) (s : IosStorage) (key : Key) (data : Bytes) :
    IosStorage :=
  if cfg.enableCaching && decide (0 < cfg.maxSize) then
    { s with
      cache := ReadCache.add s.cache c.order.order cfg.maxSize key data c.cachedAt
        cfg.cacheTtlSeconds }
  else s

/-- What a store checks before it calls the Keychain. -/
def storeChecks (key : Key) (data : Bytes) : Except WalletError Unit := do
  validateKey key
  validateData data

/-- The Keychain part of a store; with biometrics it is tried once. -/
def writeItem (c : SecCall) (kc : Keychain) (key : Key) (data : Bytes) (requireBio : Bool) :
    Except WalletError Unit × Keychain :=
  if requireBio then storeItemInternal (c.attempt 0) kc key data requireBio
  else
    withRetry maxKeychainRetries
      (fun n kc => storeItemInternal (c.attempt n) kc key data requireBio) kc

/-- Store an item. -/
def storeSecure (cfg : StorageConfig) (c : SecCall) (s : IosStorage) (key : Key) (data : Bytes)
    (requireBio : Bool) : Except WalletError Unit × IosStorage :=
  match storeChecks key data with
  | .error e => (.error e, s)
  | .ok () =>
    match writeItem c s.keychain key data requireBio with
    | (.error e, keychain) => (.error e, { s with keychain })
    | (.ok (), keychain) =>
      let s := { s with keychain }
      -- with biometrics an older entry of the key stays in the cache
      (.ok (), if cfg.enableCaching && !requireBio then addToCache cfg c s key data else s)

/-- The Keychain part of a retrieve; with biometrics it is tried once. -/
def copyItem (c : SecCall) (kc : Keychain) (key : Key) (requireBio : Bool) :
    Except WalletError Bytes :=
  if requireBio then retrieveItemInternal (c.attempt 0) kc key
  else
    (withRetry maxKeychainRetries
      (fun n kc => (retrieveItemInternal (c.attempt n) kc key, kc)) kc).1

/-- Retrieve an item, from the cache if no biometrics are required and it
    has a live entry. -/
def retrieveSecure (cfg : StorageConfig) (c : SecCall) (s : IosStorage) (key : Key)
    (requireBio : Bool) : Except WalletError Bytes × IosStorage :=
  match if requireBio then none else getFromCache cfg s key c.now with
  | some data => (.ok data, s)
  | none =>
    match validateKey key with
    | .error e => (.error e, s)
    | .ok () =>
      match copyItem c s.keychain key requireBio with
      | .error e => (.error e, s)
      | .ok data =>
        -- the flag is the caller's; the item's own access control is not looked at
        (.ok data, if cfg.enableCaching && !requireBio then addToCache cfg c s key data else s)

/-- Delete an item, and its cache entry whether or not that succeeds. -/
def deleteSecure (cfg : StorageConfig) (c : SecCall) (s : IosStorage) (key : Key) :
    Except WalletError Unit × IosStorage :=
  match validateKey key with
  | .error e => (.error e, s)
  | .ok () =>
    let (result, keychain) := deleteItemInternal (c.attempt 0) s.keychain key
    (result,
      { keychain, cache := if cfg.enableCaching then s.cache.erase key else s.cache })

end ProviiSdk.Ios
