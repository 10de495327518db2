/-
  ProviiSdk.Ios.Rotation — overwriting items and rotating the iOS keys.

  A rotation reads everything into a backup, in two passes, and stores
  the backup over what is there.  No key is swapped, so an item that
  could not be read, or whose store changes nothing, stays as it is.
  Last, a marker item records the time.

  Two things can take an item's value: a torn store, which removes the
  old item and fails to add the new one; and a store of a value from the
  cache that is not the item's.

  Main results:
    * `storeItemInternal_preserves_iff` — a failed overwrite keeps the
      item exactly when it is not torn.
    * `rotateMasterKey_hasValue_iff` — when a rotation leaves an item its
      value.
    * `originals_survive_iff` — the same for failed overwrites and whole
      rotations together.
    * `torn_overwrite` — an overwrite and a rotation that lose an item.
-/

import ProviiSdk.Ios.KeychainSpec
import ProviiSdk.Lib.Backup

namespace ProviiSdk.Ios

open ProviiSdk.Platform ProviiSdk.Check
open ProviiSdk.Backup hiding ReadAs

/-! ## §1. The rotation -/

/-- How the Keychain answers a listing. -/
inductive SecList where
  | served (order : Listing)
  | null
  | failed (e : SecError)
  | malformed (e : WalletError)

/-- List the keys; null stands for no keys. -/
def listKeysInternal (a : SecList) (kc : Keychain) : Except WalletError (List Key) :=
  match a with
  | .served order => .ok (order.order kc.keys)
  | .null => .ok []
  | .failed e => .error (mapKeychainError e.status)
  | .malformed e => .error e

/-- What the Keychain and the clock answer during a rotation.  `stamp` is
    the time the marker records. -/
structure RotateCall where
  list : SecList
  openRead : Key → SecCall
  bioRead : Key → SecCall
  restore : Key → SecCall
  stamp : UInt64
  mark : SecCall

/-- The reads of the first pass. -/
def readOpen (cfg : StorageConfig) (r : RotateCall) (key : Key) (s : IosStorage) :
    Except WalletError Bytes × IosStorage :=
  retrieveSecure cfg (r.openRead key) s key false

/-- The reads of the second pass. -/
def readBio (cfg : StorageConfig) (r : RotateCall) (key : Key) (s : IosStorage) :
    Except WalletError Bytes × IosStorage :=
  retrieveSecure cfg (r.bioRead key) s key true

/-- The stores of the backup. -/
def restoreItem (cfg : StorageConfig) (r : RotateCall) (key : Key) (data : Bytes) (wasBio : Bool)
    (s : IosStorage) : Except WalletError Unit × IosStorage :=
  storeSecure cfg (r.restore key) s key data wasBio

/-- The key of the marker. -/
def rotatedAtKey : Key := "__provii.rotated_at".toList

/-- Rust's `u64::to_le_bytes`. -/
def toLeBytes (n : UInt64) : Bytes := (List.range 8).map fun i => UInt8.ofNat (n.toNat / 256 ^ i)

/-- Store the marker; whether that succeeds does not matter. -/
def storeMarker (cfg : StorageConfig) (r : RotateCall) (s : IosStorage) : IosStorage :=
  (storeSecure cfg r.mark s rotatedAtKey (toLeBytes r.stamp) false).2

/-- Read everything and store it again. -/
def rotateMasterKey (cfg : StorageConfig) (r : RotateCall) (s : IosStorage) :
    Except WalletError Unit × IosStorage :=
  match listKeysInternal r.list s.keychain with
  | .error e => (.error e, s)
  | .ok keys =>
    let (backup, s) := backUp (readOpen cfg r) (readBio cfg r) keys s
    let backupLen := backup.length
    let (restoreFailures, s) := restore (restoreItem cfg r) backup s
    -- the source does this on both of its ways out
    let s := storeMarker cfg r s
    (if restoreFailures > 0 then
      .error (.storage s!"Key rotation: {restoreFailures} of {backupLen} items failed to re-store")
    else .ok (), s)

/-! ## §2. What the backup holds -/

/-- A listed key is read as a value with or without biometrics: the first
    pass reads it; or the first pass does not and the second one does. -/
def ReadAs (cfg : StorageConfig) (r : RotateCall) (keys : List Key) (s : IosStorage) :
    Key → Bytes → Bool → Prop :=
  Backup.ReadAs (fun k s d => Reads cfg (r.openRead k) s k false d)
    (fun k s d => Reads cfg (r.bioRead k) s k true d) (readOpen cfg r) keys s

theorem readOpen_keychain (cfg : StorageConfig) (r : RotateCall) (k : Key) (s : IosStorage) :
    (readOpen cfg r k s).2.keychain = s.keychain := retrieveSecure_keychain cfg _ s k false

theorem readBio_keychain (cfg : StorageConfig) (r : RotateCall) (k : Key) (s : IosStorage) :
    (readBio cfg r k s).2.keychain = s.keychain := retrieveSecure_keychain cfg _ s k true

/-- A read behind the prompt depends on the items alone. -/
theorem readBio_congr (cfg : StorageConfig) (r : RotateCall) (k : Key) (s s' : IosStorage)
    (h : s.keychain = s'.keychain) : (readBio cfg r k s).1 = (readBio cfg r k s').1 := by
  unfold readBio retrieveSecure
  simp only [if_true, h]
  cases validateKey k with
  | error e => rfl
  | ok u => cases copyItem (r.bioRead k) s'.keychain k true <;> rfl

/-- A listing names no key twice. -/
theorem nodup_listKeysInternal {a : SecList} {kc : Keychain} {keys : List Key}
    (h : listKeysInternal a kc = .ok keys) : keys.Nodup := by
  unfold listKeysInternal at h
  split at h
  next order =>
    injection h with h
    rw [← h]
    exact order.nodup_order kc
  · injection h with h
    rw [← h]
    exact List.nodup_nil
  · cases h
  · cases h

/-- **The backup holds a key** as what it is read as. -/
theorem mem_backUp_iff_readAs (cfg : StorageConfig) (r : RotateCall) (keys : List Key)
    (hkeys : keys.Nodup) (s : IosStorage) (k : Key) (d : Bytes) (b : Bool) :
    (k, d, b) ∈ (backUp (readOpen cfg r) (readBio cfg r) keys s).1 ↔ ReadAs cfg r keys s k d b :=
  mem_backUp_iff (·.keychain) (readOpen_keychain cfg r) (readBio_keychain cfg r)
    (readBio_congr cfg r) (fun k s d => retrieveSecure_ok_iff cfg _ s k false d)
    (fun k s d => retrieveSecure_ok_iff cfg _ s k true d) hkeys s k d b

/-! ## §3. What a rotation leaves -/

/-- What the stores of the backup leave. -/
def restored (cfg : StorageConfig) (r : RotateCall) (s : IosStorage) (keys : List Key) :
    IosStorage :=
  (restore (restoreItem cfg r) (backUp (readOpen cfg r) (readBio cfg r) keys s).1
    (backUp (readOpen cfg r) (readBio cfg r) keys s).2).2

/-- The stores of the backup leave a key its value: a store that goes
    through stores that value, and no store is torn. -/
def RestoreKeeps (cfg : StorageConfig) (r : RotateCall) (s : IosStorage) (keys : List Key) (k : Key)
    (v : Bytes) : Prop :=
  ∀ d b, ReadAs cfg r keys s k d b →
    (StoreDone (r.restore k) s.keychain k d b → d = v) ∧
      ¬ StoreTorn (r.restore k) s.keychain k d b

/-- A property of a key's item, true before, is true after the stores of
    the backup exactly when it is true after the store of what the key was
    read as. -/
theorem lookup_restored_iff (cfg : StorageConfig) (r : RotateCall) (s : IosStorage)
    (keys : List Key) (hkeys : keys.Nodup) (k : Key) (P : Option KeychainItem → Prop)
    (Q : Bytes → Bool → Prop) (hP : P (s.keychain.lookup k))
    (hstore : ∀ s' : IosStorage, ∀ d b, s'.keychain.lookup k = s.keychain.lookup k →
      (P ((restoreItem cfg r k d b s').2.keychain.lookup k) ↔ Q d b)) :
    P ((restored cfg r s keys).keychain.lookup k) ↔ ∀ d b, ReadAs cfg r keys s k d b → Q d b := by
  have hstart : (backUp (readOpen cfg r) (readBio cfg r) keys s).2.keychain = s.keychain :=
    view_backUp (·.keychain) (readOpen_keychain cfg r) (readBio_keychain cfg r) keys s
  simp only [← mem_backUp_iff_readAs cfg r keys hkeys]
  exact restore_iff (fun (s : IosStorage) j => s.keychain.lookup j)
    (fun k d b s j hj => storeSecure_other cfg (r.restore k) s k d b j hj) _
    (keys_backUp_nodup hkeys s) _ k P Q (by rw [hstart]; exact hP)
    (fun s' d b hs' => hstore s' d b (by rw [hs', hstart]))

/-- **The stores of the backup leave an item its value** exactly when none
    is torn or stores another value. -/
theorem restored_hasValue_iff (cfg : StorageConfig) (r : RotateCall) (s : IosStorage)
    (keys : List Key) (hkeys : keys.Nodup) (k : Key) (v : Bytes)
    (hv : HasValue (s.keychain.lookup k) v) :
    HasValue ((restored cfg r s keys).keychain.lookup k) v ↔ RestoreKeeps cfg r s keys k v := by
  refine lookup_restored_iff cfg r s keys hkeys k (HasValue · v) _ hv fun s' d b hs' => ?_
  rw [← storeDone_congr (r.restore k) d b hs', ← storeTorn_congr (r.restore k) d b hs']
  exact storeSecure_hasValue_iff cfg (r.restore k) s' k d b v (by rw [hs']; exact hv)

/-- They leave an item there exactly when none is torn. -/
theorem restored_isSome_iff (cfg : StorageConfig) (r : RotateCall) (s : IosStorage)
    (keys : List Key) (hkeys : keys.Nodup) (k : Key) (hs : (s.keychain.lookup k).isSome) :
    ((restored cfg r s keys).keychain.lookup k).isSome ↔
      ∀ d b, ReadAs cfg r keys s k d b → ¬ StoreTorn (r.restore k) s.keychain k d b := by
  refine lookup_restored_iff cfg r s keys hkeys k (·.isSome = true) _ hs fun s' d b hs' => ?_
  rw [← storeTorn_congr (r.restore k) d b hs']
  exact storeSecure_isSome_iff cfg (r.restore k) s' k d b (by rw [hs']; exact hs)

/-- The marker is always something to store. -/
theorem storeChecks_marker (n : UInt64) : storeChecks rotatedAtKey (toLeBytes n) = .ok () := rfl

theorem markerStored_iff (r : RotateCall) (s : IosStorage) :
    StoreDone r.mark s.keychain rotatedAtKey (toLeBytes r.stamp) false ↔
      OpenWriteDone r.mark ((s.keychain.lookup rotatedAtKey).isSome) :=
  and_iff_right (storeChecks_marker r.stamp)

/-- What storing the marker leaves in its place. -/
theorem storeMarker_hasValue_iff (cfg : StorageConfig) (r : RotateCall) (s : IosStorage)
    (v : Bytes) :
    HasValue ((storeMarker cfg r s).keychain.lookup rotatedAtKey) v ↔
      (OpenWriteDone r.mark ((s.keychain.lookup rotatedAtKey).isSome) → toLeBytes r.stamp = v) ∧
        (¬ OpenWriteDone r.mark ((s.keychain.lookup rotatedAtKey).isSome) →
          HasValue (s.keychain.lookup rotatedAtKey) v) := by
  rw [← markerStored_iff]
  unfold storeMarker
  rcases storeSecure_cases cfg r.mark s rotatedAtKey (toLeBytes r.stamp) false with
    ⟨hdone, -⟩ | ⟨⟨-, hbio, -⟩, -⟩ | ⟨-, hnot, e, heq⟩
  · obtain ⟨item, hitem, hdata⟩ := storeSecure_done cfg r.mark s rotatedAtKey _ false hdone
    rw [hitem]
    constructor
    · rintro ⟨_, h, rfl⟩
      injection h with h
      exact ⟨fun _ => by rw [← hdata, h], fun hnot => absurd hdone hnot⟩
    · rintro ⟨h, -⟩
      exact ⟨item, rfl, hdata.trans (h hdone)⟩
  · cases hbio
  · rw [heq]
    exact ⟨fun h => ⟨fun hdone => absurd hdone hnot, fun _ => h⟩, fun h => h.2 hnot⟩

/-! ## §4. Do the originals survive? -/

/-- **A failed overwrite keeps the item** exactly when it is not torn. -/
theorem storeItemInternal_preserves_iff (a : SecAnswers) (kc : Keychain) (key : Key) (data : Bytes)
    (bio : Bool) :
    (∀ e item, kc.lookup key = some item → (storeItemInternal a kc key data bio).1 = .error e →
        (storeItemInternal a kc key data bio).2.lookup key = some item) ↔
      ¬ (bio = true ∧ BioOverwriteTorn a kc key) := by
  have hcases := storeItemInternal_cases a kc key data bio
  generalize storeItemInternal a kc key data bio = r at hcases
  cases hcases with
  | added _ habsent _ =>
    refine iff_of_true (fun e item _ h => nomatch h) fun h => ?_
    have := h.2.1
    rw [habsent] at this
    cases this
  | updated item _ => exact iff_of_true (fun e item _ h => nomatch h) fun h => nomatch h.1
  | replaced hdone =>
    exact iff_of_true (fun e item _ h => nomatch h) fun h => hdone.not_torn h.2
  | torn e htorn =>
    refine iff_of_false (fun h => ?_) fun h => h ⟨rfl, htorn⟩
    obtain ⟨item, hitem⟩ := Option.isSome_iff_exists.1 htorn.1
    have := h e item hitem rfl
    rw [AList.lookup_erase] at this
    cases this
  | failed _ e hnot => exact iff_of_true (fun _ _ hitem _ => hitem) fun h => (hnot h.1).2 h.2

/-- A rotation leaves a key its value: the stores of the backup do; or,
    in the marker's place, the marker is not stored or is that value. -/
def RotationKeeps (cfg : StorageConfig) (r : RotateCall) (s : IosStorage) (keys : List Key)
    (k : Key) (v : Bytes) : Prop :=
  let there := ∀ d b, ReadAs cfg r keys s k d b → ¬ StoreTorn (r.restore k) s.keychain k d b
  (k = rotatedAtKey ∧ OpenWriteDone r.mark there → toLeBytes r.stamp = v) ∧
    (¬ (k = rotatedAtKey ∧ OpenWriteDone r.mark there) → RestoreKeeps cfg r s keys k v)

/-- **What a rotation leaves** at a key that has an item. -/
theorem rotateMasterKey_hasValue_iff (cfg : StorageConfig) (r : RotateCall) (s : IosStorage)
    (keys : List Key) (hlist : listKeysInternal r.list s.keychain = .ok keys) (k : Key) (v : Bytes)
    (hv : HasValue (s.keychain.lookup k) v) :
    HasValue ((rotateMasterKey cfg r s).2.keychain.lookup k) v ↔
      RotationKeeps cfg r s keys k v := by
  have hkeys := nodup_listKeysInternal hlist
  have hrotate : (rotateMasterKey cfg r s).2 = storeMarker cfg r (restored cfg r s keys) := by
    unfold rotateMasterKey
    rw [hlist]
    rfl
  rw [hrotate]
  unfold RotationKeeps
  by_cases hk : k = rotatedAtKey
  · subst hk
    -- the marker is stored over the item unless that was torn out before
    have hs : (s.keychain.lookup rotatedAtKey).isSome := by
      obtain ⟨i, hi, -⟩ := hv
      rw [hi]
      rfl
    rw [storeMarker_hasValue_iff, restored_isSome_iff cfg r s keys hkeys _ hs,
      restored_hasValue_iff cfg r s keys hkeys _ v hv]
    simp only [true_and]
  -- the marker is stored under another key
  · rw [show HasValue ((storeMarker cfg r (restored cfg r s keys)).keychain.lookup k) v ↔ _ from
      iff_of_eq (congrArg (HasValue · v) (storeSecure_other cfg r.mark _ _ _ false k hk)),
      restored_hasValue_iff cfg r s keys hkeys k v hv]
    simp only [hk, false_and, false_implies, not_false_eq_true, true_implies, true_and]

/-- Every item keeps its value. -/
def KeepsValues (before after : Keychain) : Prop :=
  ∀ k v, HasValue (before.lookup k) v → HasValue (after.lookup k) v

/-- A rotation keeps every item's value exactly when it leaves each of
    them its value, if the keys can be listed. -/
theorem rotation_keepsValues_iff (cfg : StorageConfig) (r : RotateCall) (s : IosStorage) :
    KeepsValues s.keychain (rotateMasterKey cfg r s).2.keychain ↔
      ∀ keys, listKeysInternal r.list s.keychain = .ok keys →
        ∀ k v, HasValue (s.keychain.lookup k) v → RotationKeeps cfg r s keys k v := by
  constructor
  · intro h keys hlist k v hv
    exact (rotateMasterKey_hasValue_iff cfg r s keys hlist k v hv).1 (h k v hv)
  · intro h k v hv
    cases hlist : listKeysInternal r.list s.keychain with
    | ok keys =>
      exact (rotateMasterKey_hasValue_iff cfg r s keys hlist k v hv).2 (h keys hlist k v hv)
    | error e =>
      unfold rotateMasterKey
      rw [hlist]
      exact hv

/-- **The originals survive, exactly**: a failed overwrite keeps the item
    if and only if it is not torn; and a rotation, whether it fails or
    not, keeps every item's value if and only if no store of the backup is
    torn or stores another value, and the marker replaces no other
    value. -/
theorem originals_survive_iff (a : SecAnswers) (kc : Keychain) (key : Key) (data : Bytes)
    (bio : Bool) (cfg : StorageConfig) (r : RotateCall) (s : IosStorage) :
    ((∀ e item, kc.lookup key = some item → (storeItemInternal a kc key data bio).1 = .error e →
        (storeItemInternal a kc key data bio).2.lookup key = some item) ↔
      ¬ (bio = true ∧ BioOverwriteTorn a kc key)) ∧
    (KeepsValues s.keychain (rotateMasterKey cfg r s).2.keychain ↔
      ∀ keys, listKeysInternal r.list s.keychain = .ok keys →
        ∀ k v, HasValue (s.keychain.lookup k) v → RotationKeeps cfg r s keys k v) :=
  ⟨storeItemInternal_preserves_iff a kc key data bio, rotation_keepsValues_iff cfg r s⟩

/-! ## §5. A torn overwrite -/

/-- The Keychain refuses the second add. -/
def tearing : SecAnswers :=
  { SecAnswers.healthy with reAdd := some ⟨-25308, by decide, by decide, by decide⟩ }

def protectedKey : Key := "provii.cred.primary.AA".toList

def oneItem : IosStorage :=
  { keychain := AList.insert protectedKey ⟨[1], true⟩ ∅, cache := ∅ }

/-- A rotation of one item with biometrics, whose store is torn. -/
def tornRotation : RotateCall :=
  { list := .served .asKept
    openRead := fun _ =>
      { SecCall.healthy 0 with
        attempt := fun _ => { SecAnswers.healthy with copy := .failed .authFailed } }
    bioRead := fun _ => .healthy 0
    restore := fun _ => { SecCall.healthy 0 with attempt := fun _ => tearing }
    stamp := 0
    mark := .healthy 0 }

/-- **The original is gone**: an overwrite with biometrics fails after it
    has removed the item; and a rotation of that item loses it. -/
theorem torn_overwrite :
    let cfg : StorageConfig := { enableCaching := false, maxCacheSize := 0, cacheTtlSeconds := 0 }
    let stored := storeItemInternal tearing oneItem.keychain protectedKey [2] true
    let rotated := rotateMasterKey cfg tornRotation oneItem
    oneItem.keychain.lookup protectedKey = some ⟨[1], true⟩ ∧
      stored.1 = .error (.storage "Keychain error (OSStatus: -25308)") ∧
      stored.2.lookup protectedKey = none ∧
      rotated.1 = .error (.storage "Key rotation: 1 of 1 items failed to re-store") ∧
      rotated.2.keychain.lookup protectedKey = none := by
  decide +kernel

end ProviiSdk.Ios
