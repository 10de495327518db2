/-
  ProviiSdk.Platform.SecureStorage — the platform storage contract.

  The trait `PlatformSecureStorage` as the wallet sees it: its error
  type, the biometric requirement of an operation, the key rules of
  `validate_key`, and a backend that keeps a finite key-value map and
  may fail at any single call.

  A failing call has no effect.  One method of the credential store
  calls the backend at most once per operation and key, so the outcomes
  of its calls are a `Faults` record: for every operation and key the
  error that call meets, if it meets one.

  Main results:
    * `lookup_insert_of`, `lookup_delete` — what a successful write or
      delete does to every key.
    * `lookup_eraseAll` — what a sequence of deletes does to every key.
    * `mem_listKeys` — a listing names exactly the stored keys.
-/

import Mathlib.Data.List.AList
import Mathlib.Logic.Function.Basic

namespace ProviiSdk.Platform

/-! ## §1. Errors and biometric requirements -/

/-- A byte string. -/
abbrev Bytes := List UInt8

/-- A storage key, as its characters. -/
abbrev Key := List Char

/-- The platform error type. -/
inductive WalletError where
  | storage (msg : String)
  | notFound
  | alreadyExists
  | notSupported
  | biometricRequired
  | biometricFailed (msg : String)
  deriving DecidableEq, Repr

/-- The `Display` text of an error. -/
def WalletError.display : WalletError → String
  | .storage msg => "Storage error: " ++ msg
  | .notFound => "Not found"
  | .alreadyExists => "Already exists"
  | .notSupported => "Operation not supported"
  | .biometricRequired => "Biometric authentication required"
  | .biometricFailed msg => "Biometric authentication failed: " ++ msg

/-- A biometric prompt: the reason shown and the seconds waited. -/
structure BiometricConfig where
  reason : String
  timeoutSeconds : UInt32
  deriving DecidableEq, Repr

/-- Rust's `BiometricConfig::default()`. -/
def BiometricConfig.default : BiometricConfig :=
  { reason := "Access your credentials", timeoutSeconds := 30 }

/-- Whether an operation needs biometric authentication. -/
inductive BiometricRequirement where
  | none
  | required (config : BiometricConfig)
  deriving DecidableEq, Repr

/-- The flag the platform backends take. -/
def BiometricRequirement.isRequired : BiometricRequirement → Bool
  | .none => false
  | .required _ => true

/-- The requirement of every operation on credential secrets. -/
def BiometricRequirement.forCredentialSecrets : BiometricRequirement :=
  .required
    { BiometricConfig.default with reason := "Authenticate to access credential secrets" }

/-! ## §2. Key rules -/

/-- A character `validate_key` admits: ASCII alphanumeric, `_`, `.`
    or `-`. -/
def isKeyChar (c : Char) : Bool := c.isAlphanum || c == '_' || c == '.' || c == '-'

/-- The trait's default `validate_key`: non-empty, at most 255 bytes,
    admitted characters only. -/
def validateKey (key : Key) : Except WalletError Unit :=
  if key = [] then .error (.storage "Key cannot be empty")
  else if (String.ofList key).utf8ByteSize > 255 then
    .error (.storage "Key too long (max 255 bytes)")
  else if !key.all isKeyChar then
    .error (.storage
      "Key contains invalid characters (allowed: ASCII alphanumeric, '_', '.', '-')")
  else .ok ()

/-- The key check of the platform backends: the same rules with texts of
    their own. -/
def validateBackendKey (key : Key) : Except WalletError Unit :=
  if key = [] then .error (.storage "Key cannot be empty")
  else if (String.ofList key).utf8ByteSize > 255 then
    .error (.storage "Key too long (max 255 characters)")
  else if !key.all isKeyChar then .error (.storage "Key contains invalid characters")
  else .ok ()

/-- The data check of the platform backends. -/
def validateBackendData (maxItemSize : Nat) (data : Bytes) : Except WalletError Unit :=
  if data = [] then .error (.storage "Data cannot be empty")
  else if data.length > maxItemSize then
    .error (.storage s!"Data too large (max {maxItemSize} bytes)")
  else .ok ()

/-! ## §3. A backend that may fail -/

/-- A stored item: its bytes and the requirement it was written with. -/
structure Item where
  data : Bytes
  bio : BiometricRequirement
  deriving DecidableEq, Repr

/-- The contents of a backend: finitely many keys, one item each. -/
abbrev Kv := AList (fun _ : Key => Item)

/-- The order in which a backend lists its keys: any rearrangement. -/
structure Listing where
  order : List Key → List Key
  perm : ∀ ks, (order ks).Perm ks

/-- The listing in the order the keys are kept. -/
def Listing.asKept : Listing := ⟨id, fun ks => List.Perm.refl ks⟩

/-- A listing names no key twice. -/
theorem Listing.nodup_order {α : Type} (listing : Listing) (kv : AList fun _ : Key => α) :
    (listing.order kv.keys).Nodup := (listing.perm kv.keys).nodup_iff.2 kv.keys_nodup

/-- It names the keys that hold an item. -/
theorem Listing.mem_order_iff {α : Type} (listing : Listing) (kv : AList fun _ : Key => α)
    (k : Key) : k ∈ listing.order kv.keys ↔ kv.lookup k ≠ none := by
  rw [(listing.perm kv.keys).mem_iff, ← AList.mem_keys, ← AList.lookup_isSome,
    Option.ne_none_iff_isSome]

/-- What the backend's calls answer during one method of the store:
    the error each call meets, if any, and the order of a listing. -/
structure Faults where
  list : Option WalletError
  listing : Listing
  retrieve : Key → Option WalletError
  has : Key → Option WalletError
  store : Key → Option WalletError
  delete : Key → Option WalletError

/-- A backend no call of which fails. -/
def Faults.never : Faults :=
  { list := none, listing := .asKept, retrieve := fun _ => none, has := fun _ => none,
    store := fun _ => none, delete := fun _ => none }

/-- No call of the backend fails; the listing order is free. -/
structure Faults.Healthy (f : Faults) : Prop where
  list : f.list = none
  retrieve : ∀ k, f.retrieve k = none
  has : ∀ k, f.has k = none
  store : ∀ k, f.store k = none
  delete : ∀ k, f.delete k = none

theorem Faults.never_healthy : Faults.never.Healthy :=
  ⟨rfl, fun _ => rfl, fun _ => rfl, fun _ => rfl, fun _ => rfl⟩

/-- A backend no call of which fails, with its listing order. -/
def Faults.answering (listing : Listing) : Faults := { Faults.never with listing }

theorem Faults.answering_healthy (listing : Listing) : (Faults.answering listing).Healthy :=
  ⟨rfl, fun _ => rfl, fun _ => rfl, fun _ => rfl, fun _ => rfl⟩

/-- The trait's `list_keys`. -/
def listKeys (f : Faults) (kv : Kv) : Except WalletError (List Key) :=
  match f.list with
  | some e => .error e
  | none => .ok (f.listing.order kv.keys)

/-- The trait's `retrieve`: an absent key is reported as `NotFound`. -/
def retrieve (f : Faults) (kv : Kv) (key : Key) : Except WalletError Bytes :=
  match f.retrieve key with
  | some e => .error e
  | none =>
    match kv.lookup key with
    | some item => .ok item.data
    | none => .error .notFound

/-- The trait's `exists`: an absent key is `Ok(false)`. -/
def exists? (f : Faults) (kv : Kv) (key : Key) : Except WalletError Bool :=
  match f.has key with
  | some e => .error e
  | none => .ok (kv.lookup key).isSome

/-- The trait's `store`: the new contents, or the error of a call without effect. -/
def store (f : Faults) (kv : Kv) (key : Key) (data : Bytes) (bio : BiometricRequirement) :
    Except WalletError Kv :=
  match f.store key with
  | some e => .error e
  | none => .ok (kv.insert key ⟨data, bio⟩)

/-- The trait's `delete`: deleting an absent key succeeds. -/
def delete (f : Faults) (kv : Kv) (key : Key) : Except WalletError Kv :=
  match f.delete key with
  | some e => .error e
  | none => .ok (kv.erase key)

/-! ## §4. What the operations do to every key -/

theorem lookup_insert_of {α : Type} (kv : AList (fun _ : Key => α)) (key k : Key) (item : α) :
    (kv.insert key item).lookup k = if k = key then some item else kv.lookup k := by
  split
  next h => rw [h, AList.lookup_insert]
  next h => exact AList.lookup_insert_ne h

theorem lookup_erase_of {α : Type} (kv : AList (fun _ : Key => α)) (key k : Key) :
    (kv.erase key).lookup k = if k = key then none else kv.lookup k := by
  split
  next h => rw [h, AList.lookup_erase]
  next h => exact AList.lookup_erase_ne h

theorem lookup_delete {f : Faults} {kv kv' : Kv} {key : Key}
    (h : delete f kv key = .ok kv') (k : Key) :
    kv'.lookup k = if k = key then none else kv.lookup k := by
  unfold delete at h
  split at h
  · cases h
  · injection h with h
    rw [← h, lookup_erase_of]

theorem delete_eq_ok (f : Faults) (kv : Kv) (key : Key) (h : f.delete key = none) :
    delete f kv key = .ok (kv.erase key) := by
  unfold delete
  rw [h]

/-- What is retrieved is what is stored. -/
theorem retrieve_eq_ok {f : Faults} {kv : Kv} {key : Key} {data : Bytes}
    (h : retrieve f kv key = .ok data) : ∃ item, kv.lookup key = some item ∧ item.data = data := by
  unfold retrieve at h
  split at h
  · cases h
  · split at h
    next item hitem =>
      injection h with h
      exact ⟨item, hitem, h⟩
    next => cases h

/-- A stored item is retrieved when the backend answers. -/
theorem retrieve_healthy {f : Faults} (hf : f.Healthy) {kv : Kv} {key : Key} {item : Item}
    (h : kv.lookup key = some item) : retrieve f kv key = .ok item.data := by
  unfold retrieve
  rw [hf.retrieve, h]

/-- The stored keys are listed when the backend answers. -/
theorem listKeys_healthy {f : Faults} (hf : f.Healthy) (kv : Kv) :
    listKeys f kv = .ok (f.listing.order kv.keys) := by
  unfold listKeys
  rw [hf.list]

/-- The contents after deleting the keys `ks` one after the other. -/
def eraseAll (kv : Kv) (ks : List Key) : Kv := ks.foldl (fun kv k => kv.erase k) kv

@[simp] theorem eraseAll_nil (kv : Kv) : eraseAll kv [] = kv := rfl

@[simp] theorem eraseAll_cons (kv : Kv) (k : Key) (ks : List Key) :
    eraseAll kv (k :: ks) = eraseAll (kv.erase k) ks := rfl

/-- Deleting `ks` removes exactly the keys in `ks`. -/
theorem lookup_eraseAll (kv : Kv) (ks : List Key) (k : Key) :
    (eraseAll kv ks).lookup k = if k ∈ ks then none else kv.lookup k := by
  induction ks generalizing kv with
  | nil => simp
  | cons a as ih =>
    rw [eraseAll_cons, ih, lookup_erase_of]
    by_cases h : k = a <;> by_cases h' : k ∈ as <;> simp [h, h']

/-- A listing names exactly the keys that hold an item. -/
theorem mem_listKeys {f : Faults} {kv : Kv} {ks : List Key} (h : listKeys f kv = .ok ks)
    (k : Key) : k ∈ ks ↔ (kv.lookup k).isSome := by
  unfold listKeys at h
  split at h
  · cases h
  · injection h with h
    rw [← h, f.listing.mem_order_iff, Option.ne_none_iff_isSome]

/-! ## §5. A map to compare with -/

/-- What each key should have after a write, which counts if it
    succeeded. -/
def recorded {α : Type} (r : Except WalletError Unit) (last : Key → Option α) (key : Key)
    (v : Option α) : Key → Option α :=
  match r with
  | .ok () => Function.update last key v
  | .error _ => last

end ProviiSdk.Platform
