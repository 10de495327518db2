/-
  ProviiSdk.Android.Rotation — rotating the Android master key.

  Everything is read into a backup, the bridge swaps the master key, and
  the backup is stored again.  The swap makes every item unreadable that
  is not stored again, so what the backup lacks is lost and what it has
  wrong stays wrong.

  The backup is taken in two passes.  An item that the first one cannot
  read counts as protected by biometrics, whatever the reason; one that
  neither can read is skipped; and the first pass may read from the
  cache.  None of this fails the rotation.

  Main results:
    * `rotateMasterKey_ok_iff` — when a rotation succeeds.
    * `lookup_rotateMasterKey` — what a successful rotation leaves.
    * `rotateMasterKey_keeps_iff` — a successful rotation keeps every
      item exactly when each was read as what it is.
    * `rotation_loses_items` — a rotation that succeeds and does not.
-/

import ProviiSdk.Android.Keystore
import ProviiSdk.Lib.Backup

namespace ProviiSdk.Android

open ProviiSdk.Platform ProviiSdk.Check
open ProviiSdk.Backup hiding ReadAs

/-! ## §1. The rotation -/

/-- How the bridge answers a listing. -/
inductive BridgeList where
  | served (order : Listing)
  | null
  | raised (e : WalletError)

/-- What the JVM and the bridge answer during a listing. -/
structure ListCall where
  env : Option WalletError
  bridge : Option WalletError
  answer : BridgeList

/-- List the keys; null stands for no keys. -/
def listKeysSecure (l : ListCall) (keystore : Keystore) : Except WalletError (List Key) := do
  Jni.reach l.env
  Jni.reach l.bridge
  match l.answer with
  | .raised e => .error e
  | .null => .ok []
  | .served order => .ok (order.order keystore.keys)

/-- What the JVM, the bridge and the clock answer during a rotation. -/
structure RotateCall where
  env : Option WalletError
  list : ListCall
  openRead : Key → Jni
  bioRead : Key → Jni
  bridge : Option WalletError
  rotate : Except WalletError Bool
  restore : Key → Jni

/-- The reads of the first pass. -/
def readOpen (cfg : StorageConfig) (r : RotateCall) (key : Key) (s : AndroidStorage) :
    Except WalletError Bytes × AndroidStorage :=
  retrieveSecure cfg (r.openRead key) s key false

/-- The reads of the second pass. -/
def readBio (cfg : StorageConfig) (r : RotateCall) (key : Key) (s : AndroidStorage) :
    Except WalletError Bytes × AndroidStorage :=
  retrieveSecure cfg (r.bioRead key) s key true

/-- The stores after the swap. -/
def restoreItem (r : RotateCall) (key : Key) (data : Bytes) (wasBio : Bool) (s : AndroidStorage) :
    Except WalletError Unit × AndroidStorage :=
  storeSecure (r.restore key) s key data wasBio

/-- Rotate the master key.  A swap that is done leaves nothing readable
    that is not stored again. -/
def rotateMasterKey (cfg : StorageConfig) (r : RotateCall) (s : AndroidStorage) :
    Except WalletError Unit × AndroidStorage :=
  match Jni.reach r.env with
  | .error e => (.error e, s)
  | .ok () =>
    match listKeysSecure r.list s.keystore with
    | .error e => (.error e, s)
    | .ok keys =>
      let (backup, s) := backUp (readOpen cfg r) (readBio cfg r) keys s
      -- the only check on the backup: keys that were skipped do not count
      if backup.isEmpty && !keys.isEmpty then
        (.error (.storage "Key rotation aborted: could not read any items for backup"), s)
      else
        match Jni.reach r.bridge with
        | .error e => (.error e, s)
        | .ok () =>
          match r.rotate with
          | .error e => (.error e, s)
          | .ok false => (.error (.storage "Failed to rotate master key"), s)
          | .ok true =>
            let backupLen := backup.length
            -- from here on the old items are unreadable
            let (failures, s) := restore (restoreItem r) backup { s with keystore := ∅ }
            (if failures > 0 then
              .error (.storage (s!"Key rotation: {failures} of {backupLen} items failed to " ++
                "re-store (data may be lost)"))
            else .ok (), s)

/-! ## §2. What the backup holds -/

/-- A listed key is read as a value with or without biometrics: the first
    pass reads it; or the first pass does not and the second one does. -/
def ReadAs (cfg : StorageConfig) (r : RotateCall) (keys : List Key) (s : AndroidStorage) :
    Key → Bytes → Bool → Prop :=
  Backup.ReadAs (fun k s d => Reads cfg (r.openRead k) s k false d)
    (fun k s d => Reads cfg (r.bioRead k) s k true d) (readOpen cfg r) keys s

theorem readOpen_keystore (cfg : StorageConfig) (r : RotateCall) (k : Key) (s : AndroidStorage) :
    (readOpen cfg r k s).2.keystore = s.keystore := retrieveSecure_keystore cfg _ s k false

theorem readBio_keystore (cfg : StorageConfig) (r : RotateCall) (k : Key) (s : AndroidStorage) :
    (readBio cfg r k s).2.keystore = s.keystore := retrieveSecure_keystore cfg _ s k true

/-- A read behind the prompt depends on the items alone. -/
theorem readBio_congr (cfg : StorageConfig) (r : RotateCall) (k : Key) (s s' : AndroidStorage)
    (h : s.keystore = s'.keystore) : (readBio cfg r k s).1 = (readBio cfg r k s').1 := by
  unfold readBio retrieveSecure
  simp only [Bool.not_true, Bool.and_false, Bool.false_eq_true, if_false, h]
  cases Jni.reach (r.bioRead k).env with
  | error e => rfl
  | ok u =>
    cases retrieveChecks (r.bioRead k) k true with
    | error e => rfl
    | ok u => cases bridgeRetrieve (r.bioRead k) s'.keystore k <;> rfl

/-- A listing names no key twice. -/
theorem nodup_listKeysSecure {l : ListCall} {keystore : Keystore} {keys : List Key}
    (h : listKeysSecure l keystore = .ok keys) : keys.Nodup := by
  unfold listKeysSecure at h
  simp only [bind_eq_ok_iff] at h
  obtain ⟨_, _, _, _, h⟩ := h
  split at h
  · cases h
  · injection h with h
    rw [← h]
    exact List.nodup_nil
  next order _ =>
    injection h with h
    rw [← h]
    exact order.nodup_order keystore

/-- **The backup holds a key** as what it is read as. -/
theorem mem_backUp_iff_readAs (cfg : StorageConfig) (r : RotateCall) (keys : List Key)
    (hkeys : keys.Nodup) (s : AndroidStorage) (k : Key) (d : Bytes) (b : Bool) :
    (k, d, b) ∈ (backUp (readOpen cfg r) (readBio cfg r) keys s).1 ↔ ReadAs cfg r keys s k d b :=
  mem_backUp_iff (·.keystore) (readOpen_keystore cfg r) (readBio_keystore cfg r)
    (readBio_congr cfg r) (fun k s d => retrieveSecure_ok_iff cfg _ s k false d)
    (fun k s d => retrieveSecure_ok_iff cfg _ s k true d) hkeys s k d b

/-! ## §3. What a rotation leaves -/

/-- A rotation gets through: the listing is answered, something can be
    read if there are keys, the swap is done, and each store of what was
    read is done. -/
structure Completes (cfg : StorageConfig) (r : RotateCall) (s : AndroidStorage) (keys : List Key) :
    Prop where
  env : r.env = none
  listed : listKeysSecure r.list s.keystore = .ok keys
  some_read : keys ≠ [] → ∃ k d b, ReadAs cfg r keys s k d b
  bridge : r.bridge = none
  swapped : r.rotate = .ok true
  stored : ∀ k d b, ReadAs cfg r keys s k d b → StoreDone (r.restore k) k d b

/-- The stores after the swap: how many fail and what they leave. -/
def restored (cfg : StorageConfig) (r : RotateCall) (s : AndroidStorage) (keys : List Key) :
    Nat × AndroidStorage :=
  restore (restoreItem r) (backUp (readOpen cfg r) (readBio cfg r) keys s).1
    { (backUp (readOpen cfg r) (readBio cfg r) keys s).2 with keystore := ∅ }

theorem restoreItem_ok_iff (r : RotateCall) (k : Key) (d : Bytes) (b : Bool) (s : AndroidStorage) :
    (restoreItem r k d b s).1 = .ok () ↔ StoreDone (r.restore k) k d b := by
  unfold restoreItem
  rcases storeSecure_cases (r.restore k) s k d b with ⟨hdone, heq⟩ | ⟨hnot, e, heq⟩
  · rw [heq]
    exact iff_of_true rfl hdone
  · rw [heq]
    exact iff_of_false (by simp) hnot

/-- A store leaves the other keys alone. -/
theorem restoreItem_other (r : RotateCall) (k : Key) (d : Bytes) (b : Bool) (s : AndroidStorage)
    (j : Key) (hj : j ≠ k) : (restoreItem r k d b s).2.keystore.lookup j = s.keystore.lookup j := by
  unfold restoreItem
  rcases storeSecure_cases (r.restore k) s k d b with ⟨-, heq⟩ | ⟨-, e, heq⟩
  · rw [heq]
    exact AList.lookup_insert_ne hj
  · rw [heq]

/-- No store after the swap fails exactly when each is done. -/
theorem restored_failures_eq_zero_iff (cfg : StorageConfig) (r : RotateCall) (s : AndroidStorage)
    (keys : List Key) (hkeys : keys.Nodup) :
    (restored cfg r s keys).1 = 0 ↔
      ∀ k d b, ReadAs cfg r keys s k d b → StoreDone (r.restore k) k d b := by
  unfold restored
  rw [restore_failures_eq_zero_iff _ (restoreItem_ok_iff r)]
  simp only [mem_backUp_iff_readAs cfg r keys hkeys]

/-- What the stores leave at a key, if each is done: what the key was
    read as. -/
theorem lookup_restored (cfg : StorageConfig) (r : RotateCall) (s : AndroidStorage)
    (keys : List Key) (hkeys : keys.Nodup)
    (hdone : ∀ k d b, ReadAs cfg r keys s k d b → StoreDone (r.restore k) k d b) (k : Key)
    (item : KeystoreItem) :
    (restored cfg r s keys).2.keystore.lookup k = some item ↔
      ReadAs cfg r keys s k item.data item.bio := by
  have hentry : ∀ d b, (k, d, b) ∈ (backUp (readOpen cfg r) (readBio cfg r) keys s).1 →
      (restored cfg r s keys).2.keystore.lookup k = some ⟨d, b⟩ := by
    intro d b hmem
    obtain ⟨s', -, hlook⟩ := restore_entry (fun (s : AndroidStorage) j => s.keystore.lookup j)
      (restoreItem_other r) _ (keys_backUp_nodup hkeys s)
      { (backUp (readOpen cfg r) (readBio cfg r) keys s).2 with keystore := ∅ } k d b hmem
    refine hlook.trans ?_
    have hstore := hdone k d b ((mem_backUp_iff_readAs cfg r keys hkeys s k d b).1 hmem)
    unfold restoreItem
    rcases storeSecure_cases (r.restore k) s' k d b with ⟨-, heq⟩ | ⟨hnot, -⟩
    · rw [heq]
      exact AList.lookup_insert _
    · exact absurd hstore hnot
  rw [← mem_backUp_iff_readAs cfg r keys hkeys]
  constructor
  · intro hlookup
    by_cases hk : k ∈ (backUp (readOpen cfg r) (readBio cfg r) keys s).1.map (·.1)
    -- the key was read as some value, and has that value now
    · obtain ⟨⟨k', d, b⟩, hmem, rfl⟩ := List.mem_map.1 hk
      rw [hentry d b hmem] at hlookup
      injection hlookup with hlookup
      rw [← hlookup]
      exact hmem
    · -- a key that was not read is gone with the old master key
      have hgone := restore_other (fun (s : AndroidStorage) j => s.keystore.lookup j)
        (restoreItem_other r) _
        { (backUp (readOpen cfg r) (readBio cfg r) keys s).2 with keystore := ∅ } k hk
      rw [show (restored cfg r s keys).2.keystore.lookup k = none from hgone] at hlookup
      cases hlookup
  · exact hentry item.data item.bio

/-- A rotation that gets through ends with what its stores leave. -/
theorem rotateMasterKey_eq (cfg : StorageConfig) (r : RotateCall) (s : AndroidStorage)
    (keys : List Key) (henv : r.env = none) (hlist : listKeysSecure r.list s.keystore = .ok keys)
    (hread : ((backUp (readOpen cfg r) (readBio cfg r) keys s).1.isEmpty && !keys.isEmpty) = false)
    (hbridge : r.bridge = none) (hswap : r.rotate = .ok true) :
    (rotateMasterKey cfg r s).2 = (restored cfg r s keys).2 ∧
      ((rotateMasterKey cfg r s).1 = .ok () ↔ (restored cfg r s keys).1 = 0) := by
  unfold rotateMasterKey
  simp only [henv, hlist, hread, hbridge, hswap, Jni.reach, Bool.false_eq_true, if_false]
  refine ⟨rfl, ?_⟩
  show (if (restored cfg r s keys).1 > 0 then _ else _) = _ ↔ _
  split
  next h => exact iff_of_false (by simp) (by omega)
  next h => exact iff_of_true rfl (by omega)

/-- The backup is empty exactly when no key was read. -/
theorem backUp_isEmpty_iff (cfg : StorageConfig) (r : RotateCall) (s : AndroidStorage)
    (keys : List Key) (hkeys : keys.Nodup) :
    ((backUp (readOpen cfg r) (readBio cfg r) keys s).1.isEmpty && !keys.isEmpty) = false ↔
      (keys ≠ [] → ∃ k d b, ReadAs cfg r keys s k d b) := by
  simp only [← mem_backUp_iff_readAs cfg r keys hkeys]
  generalize (backUp (readOpen cfg r) (readBio cfg r) keys s).1 = backup
  cases keys with
  | nil => simp
  | cons k ks =>
    cases backup with
    | nil => simp
    | cons e rest =>
      refine iff_of_true rfl fun _ => ⟨e.1, e.2.1, e.2.2, List.mem_cons_self⟩

/-- **When a rotation succeeds**: exactly when it gets through. -/
theorem rotateMasterKey_ok_iff (cfg : StorageConfig) (r : RotateCall) (s : AndroidStorage) :
    (rotateMasterKey cfg r s).1 = .ok () ↔ ∃ keys, Completes cfg r s keys := by
  constructor
  · intro h
    have h' := h
    unfold rotateMasterKey at h'
    split at h'
    · cases h'
    next henv =>
      split at h'
      · cases h'
      next keys hlist =>
        have henv := (Jni.reach_eq_ok_iff r.env).1 henv
        have hkeys := nodup_listKeysSecure hlist
        dsimp only at h'
        split at h'
        · cases h'
        next hread =>
          split at h'
          · cases h'
          next hbridge =>
            have hbridge := (Jni.reach_eq_ok_iff r.bridge).1 hbridge
            split at h'
            · cases h'
            · cases h'
            next hswap =>
              rw [Bool.not_eq_true] at hread
              have heq := (rotateMasterKey_eq cfg r s keys henv hlist hread hbridge hswap).2.1 h
              exact ⟨keys, henv, hlist, (backUp_isEmpty_iff cfg r s keys hkeys).1 hread, hbridge,
                hswap, (restored_failures_eq_zero_iff cfg r s keys hkeys).1 heq⟩
  · rintro ⟨keys, hc⟩
    have hkeys := nodup_listKeysSecure hc.listed
    have hread := (backUp_isEmpty_iff cfg r s keys hkeys).2 hc.some_read
    refine (rotateMasterKey_eq cfg r s keys hc.env hc.listed hread hc.bridge hc.swapped).2.2 ?_
    exact (restored_failures_eq_zero_iff cfg r s keys hkeys).2 hc.stored

/-- **What a successful rotation leaves**: every key as what it was read
    as. -/
theorem lookup_rotateMasterKey (cfg : StorageConfig) (r : RotateCall) (s : AndroidStorage)
    (keys : List Key) (hc : Completes cfg r s keys) (k : Key) (item : KeystoreItem) :
    (rotateMasterKey cfg r s).2.keystore.lookup k = some item ↔
      ReadAs cfg r keys s k item.data item.bio := by
  have hkeys := nodup_listKeysSecure hc.listed
  have hread := (backUp_isEmpty_iff cfg r s keys hkeys).2 hc.some_read
  rw [(rotateMasterKey_eq cfg r s keys hc.env hc.listed hread hc.bridge hc.swapped).1]
  exact lookup_restored cfg r s keys hkeys hc.stored k item

/-! ## §4. Does a rotation keep everything? -/

/-- Every item is afterwards what it was before. -/
def KeepsItems (before after : Keystore) : Prop :=
  ∀ k item, before.lookup k = some item → after.lookup k = some item

/-- Every item is listed and read as what it is. -/
def ReadFaithfully (cfg : StorageConfig) (r : RotateCall) (s : AndroidStorage) (keys : List Key) :
    Prop :=
  ∀ k item, s.keystore.lookup k = some item → ReadAs cfg r keys s k item.data item.bio

/-- **A successful rotation keeps every item, exactly** if, whenever the
    rotation gets through, every item is listed and read as what it is. -/
theorem rotateMasterKey_keeps_iff (cfg : StorageConfig) (r : RotateCall) (s : AndroidStorage) :
    ((rotateMasterKey cfg r s).1 = .ok () →
        KeepsItems s.keystore (rotateMasterKey cfg r s).2.keystore) ↔
      ∀ keys, Completes cfg r s keys → ReadFaithfully cfg r s keys := by
  constructor
  · intro h keys hc k item hitem
    have hkept := h ((rotateMasterKey_ok_iff cfg r s).2 ⟨keys, hc⟩) k item hitem
    exact (lookup_rotateMasterKey cfg r s keys hc k item).1 hkept
  · intro h hok k item hitem
    obtain ⟨keys, hc⟩ := (rotateMasterKey_ok_iff cfg r s).1 hok
    exact (lookup_rotateMasterKey cfg r s keys hc k item).2 (h keys hc k item hitem)

/-! ## §5. A rotation that loses items -/

def keyA : Key := "provii.cred.primary.AA".toList
def keyB : Key := "provii.cred.primary.BB".toList
def keyC : Key := "provii.cred.primary.CC".toList

/-- Three items without biometrics. -/
def threeItems : AndroidStorage :=
  { keystore :=
      ((AList.insert keyA ⟨[1], false⟩ ∅).insert keyB ⟨[2], false⟩).insert keyC ⟨[3], false⟩
    operationCache := ∅ }

/-- A read the bridge answers with an exception. -/
def unreadable : Jni :=
  { Jni.healthy 0 with read := .raised (.storage "JNI exception occurred") }

/-- A rotation in which the reads of one key fail in both passes and the
    read of another fails in the first. -/
def flakyRotation : RotateCall :=
  { env := none
    list := { env := none, bridge := none, answer := .served .asKept }
    openRead := fun k => if k = keyA ∨ k = keyB then unreadable else .healthy 0
    bioRead := fun k => if k = keyA then unreadable else .healthy 0
    bridge := none
    rotate := .ok true
    restore := fun _ => .healthy 0 }

/-- **Two transient failures, and the rotation succeeds**: the key that
    was skipped is gone, and the key that was read in the second pass
    asks for biometrics from now on. -/
theorem rotation_loses_items :
    let cfg : StorageConfig := { enableCaching := false, cacheTtl := 300 }
    let after := rotateMasterKey cfg flakyRotation threeItems
    after.1 = .ok () ∧
      threeItems.keystore.lookup keyA = some ⟨[1], false⟩ ∧ after.2.keystore.lookup keyA = none ∧
      threeItems.keystore.lookup keyB = some ⟨[2], false⟩ ∧
      after.2.keystore.lookup keyB = some ⟨[2], true⟩ ∧
      ¬ KeepsItems threeItems.keystore after.2.keystore := by
  intro cfg after
  have hgone : after.2.keystore.lookup keyA = none := by decide +kernel
  refine ⟨by decide +kernel, by decide +kernel, hgone, by decide +kernel, by decide +kernel, ?_⟩
  intro h
  rw [h keyA ⟨[1], false⟩ (by decide +kernel)] at hgone
  cases hgone

end ProviiSdk.Android
