/-
  ProviiSdk.Wallet.BulkDeletion — deleting many keys at once.

  Three methods delete every key of a set: the sandbox sweep of the
  credential store, and `wipe_all` of the two backends.  Each lists the
  keys, deletes them one by one and goes on when a delete fails.  This
  file says when what they report as done is done.

  Main results:
    * `Android.deleteSecure_removes`, `Ios.deleteSecure_removes` — when a
      backend's delete is done.
    * `bulk_deletion_complete_iff` — when no key of the set is left.
-/

import ProviiSdk.Android.Rotation
import ProviiSdk.Ios.Rotation
import ProviiSdk.Lib.Sweep
import ProviiSdk.Wallet.ForeignRecords

namespace ProviiSdk.Android

open ProviiSdk.Platform ProviiSdk.Check ProviiSdk.Sweep

/-! ## §1. Wiping the Android backend -/

/-- What the JVM and the bridge answer during a wipe. -/
structure WipeCall where
  list : ListCall
  delete : Key → Jni

def clearCache (s : AndroidStorage) : AndroidStorage := { s with operationCache := ∅ }

/-- Delete every listed key.  What a delete answers is logged, and
    dropped. -/
def wipeAll (cfg : StorageConfig) (w : WipeCall) (s : AndroidStorage) :
    Except WalletError Unit × AndroidStorage :=
  match listKeysSecure w.list s.keystore with
  | .error e => (.error e, s)
  | .ok keys => (.ok (), clearCache (sweep (fun k s => (deleteSecure cfg (w.delete k) s k).2) keys s))

/-- A delete passes its checks and the bridge reports the item gone. -/
def DeleteDone (j : Jni) (key : Key) : Prop := deleteChecks j key = .ok () ∧ j.write = .ok true

/-- **When a delete is done**: the bridge's answer decides, which the
    caller does not see. -/
theorem deleteSecure_removes (cfg : StorageConfig) (j : Jni) (s : AndroidStorage) (key : Key) :
    Removes (fun s k => s.keystore.lookup k) (fun k => k = key ∧ DeleteDone j key) s
      (deleteSecure cfg j s key).2 := by
  unfold deleteSecure DeleteDone
  cases deleteChecks j key with
  | error e =>
    refine removes_same (fun _ => rfl) ?_
    rintro k ⟨-, h, -⟩
    cases h
  | ok u =>
    cases j.write with
    | error e =>
      refine removes_same (fun _ => rfl) ?_
      rintro k ⟨-, -, h⟩
      cases h
    | ok deleted =>
      -- the cache has no part in it
      have hcache : ∀ s : AndroidStorage,
          (if cfg.enableCaching then removeFromCache s key else s).keystore = s.keystore := by
        intro s
        split <;> rfl
      cases deleted with
      | false =>
        refine removes_same (fun k => congrArg (AList.lookup k) (hcache s)) ?_
        rintro k ⟨-, -, h⟩
        cases h
      | true =>
        intro k
        simp only [hcache, if_true, lookup_erase_of]
        exact ⟨fun h => if_pos h.1, fun h => if_neg fun hk => h ⟨hk, trivial, trivial⟩⟩

/-- **When a wipe leaves nothing.** -/
theorem wipeAll_empties_iff (cfg : StorageConfig) (w : WipeCall) (s : AndroidStorage) :
    ((wipeAll cfg w s).1 = .ok () → ∀ k, (wipeAll cfg w s).2.keystore.lookup k = none) ↔
      ∀ keys, listKeysSecure w.list s.keystore = .ok keys →
        ∀ k, s.keystore.lookup k ≠ none → k ∈ keys ∧ DeleteDone (w.delete k) k := by
  have hdel : Deletes (fun s k => s.keystore.lookup k)
      (fun k s => (deleteSecure cfg (w.delete k) s k).2) fun k => DeleteDone (w.delete k) k :=
    fun k s => deleteSecure_removes cfg (w.delete k) s k
  refine listed_sweep_empties_iff hdel s ?_ ?_
  · intro e hlist
    unfold wipeAll
    rw [hlist]
  · intro keys hlist
    unfold wipeAll
    rw [hlist]
    exact ⟨rfl, fun _ => rfl⟩

end ProviiSdk.Android

namespace ProviiSdk.Ios

open ProviiSdk.Platform ProviiSdk.Check ProviiSdk.Sweep

/-! ## §2. Wiping the iOS backend -/

/-- What the Keychain and the clock answer during a wipe. -/
structure WipeCall where
  list : SecList
  delete : Key → SecCall

def clearCache (s : IosStorage) : IosStorage := { s with cache := ∅ }

/-- Delete every listed key.  What a delete answers is logged, and
    dropped. -/
def wipeAll (cfg : StorageConfig) (w : WipeCall) (s : IosStorage) :
    Except WalletError Unit × IosStorage :=
  match listKeysInternal w.list s.keychain with
  | .error e => (.error e, s)
  | .ok keys => (.ok (), clearCache (sweep (fun k s => (deleteSecure cfg (w.delete k) s k).2) keys s))

/-- A delete has a valid key and the Keychain does not fail it. -/
def DeleteDone (c : SecCall) (key : Key) : Prop :=
  validateKey key = .ok () ∧ (c.attempt 0).delete = none

/-- **When a delete is done**: there is one attempt. -/
theorem deleteSecure_removes (cfg : StorageConfig) (c : SecCall) (s : IosStorage) (key : Key) :
    Removes (fun s k => s.keychain.lookup k) (fun k => k = key ∧ DeleteDone c key) s
      (deleteSecure cfg c s key).2 := by
  unfold deleteSecure DeleteDone
  cases validateKey key with
  | error e =>
    refine removes_same (fun _ => rfl) ?_
    rintro k ⟨-, h, -⟩
    cases h
  | ok u =>
    unfold deleteItemInternal secItemDelete
    cases (c.attempt 0).delete with
    | some e =>
      refine removes_same (fun _ => rfl) ?_
      rintro k ⟨-, -, h⟩
      cases h
    | none =>
      cases hitem : s.keychain.lookup key with
      | none =>
        -- what is not there is gone
        refine removes_same (fun _ => rfl) ?_
        rintro k ⟨rfl, -, -⟩
        exact hitem
      | some item =>
        intro k
        simp only [Option.isSome_some, if_true, lookup_erase_of]
        exact ⟨fun h => if_pos h.1, fun h => if_neg fun hk => h ⟨hk, trivial, trivial⟩⟩

/-- **When a wipe leaves nothing.** -/
theorem wipeAll_empties_iff (cfg : StorageConfig) (w : WipeCall) (s : IosStorage) :
    ((wipeAll cfg w s).1 = .ok () → ∀ k, (wipeAll cfg w s).2.keychain.lookup k = none) ↔
      ∀ keys, listKeysInternal w.list s.keychain = .ok keys →
        ∀ k, s.keychain.lookup k ≠ none → k ∈ keys ∧ DeleteDone (w.delete k) k := by
  have hdel : Deletes (fun s k => s.keychain.lookup k)
      (fun k s => (deleteSecure cfg (w.delete k) s k).2) fun k => DeleteDone (w.delete k) k :=
    fun k s => deleteSecure_removes cfg (w.delete k) s k
  refine listed_sweep_empties_iff hdel s ?_ ?_
  · intro e hlist
    unfold wipeAll
    rw [hlist]
  · intro keys hlist
    unfold wipeAll
    rw [hlist]
    exact ⟨rfl, fun _ => rfl⟩

end ProviiSdk.Ios

namespace ProviiSdk.Wallet

open ProviiSdk.Platform ProviiSdk.Ffi ProviiSdk.Sweep

/-! ## §3. The sandbox sweep -/

/-- A key of a sandbox credential, public or secrets record. -/
def IsSandboxKey (key : Key) : Prop :=
  sandboxCredPrimaryPrefix <+: key ∨ sandboxCredsecPrimaryPrefix <+: key ∨
    sandboxCredManagedPrefix <+: key ∨ sandboxCredsecManagedPrefix <+: key

theorem inNamespace_sandbox_iff (key : Key) : inNamespace .sandbox key = true ↔ IsSandboxKey key := by
  unfold inNamespace IsSandboxKey
  simp only [Bool.or_eq_true, decide_eq_true_iff, or_assoc]
  rfl

/-- A sweep deletes the sandbox keys whose delete succeeds. -/
theorem deleteSandbox_removes (f : Faults) (s : Storage) :
    Removes recordAt
      (fun k => recordAt s k ≠ none ∧ f.list = none ∧ IsSandboxKey k ∧ f.delete k = none) s
      (deleteSandbox f s).2 := by
  intro k
  cases s with
  | mk backend =>
    cases backend with
    | none => exact ⟨fun h => absurd rfl h.1, fun _ => rfl⟩
    | some kv =>
      have herases := deleteSandboxCredentials_erases f kv k
      unfold sandboxGone at herases
      simp only [inNamespace_sandbox_iff] at herases
      rw [deleteSandbox_storage]
      exact herases

/-- It succeeds if the keys can be listed. -/
theorem deleteSandbox_ok_iff (f : Faults) (s : Storage) :
    (deleteSandbox f s).1 = .ok () ↔ s.backend ≠ none ∧ f.list = none := by
  cases s with
  | mk backend =>
    cases backend with
    | none =>
      refine iff_of_false ?_ fun h => h.1 rfl
      intro h
      cases h
    | some kv =>
      unfold deleteSandbox deleteSandboxCredentials deleteAllInNamespace listKeys
      rw [call_some]
      cases f.list with
      | some e =>
        refine iff_of_false ?_ ?_
        · intro h
          cases h
        · rintro ⟨-, h⟩
          cases h
      | none => exact iff_of_true rfl ⟨Option.some_ne_none kv, rfl⟩

/-- **When a sweep leaves no sandbox key.** -/
theorem deleteSandbox_empties_iff (f : Faults) (s : Storage) :
    ((deleteSandbox f s).1 = .ok () →
      ∀ k, IsSandboxKey k → recordAt (deleteSandbox f s).2 k = none) ↔
      (f.list = none → ∀ k, IsSandboxKey k → recordAt s k ≠ none → f.delete k = none) := by
  rw [deleteSandbox_ok_iff, (deleteSandbox_removes f s).empties_iff]
  constructor
  · intro h hlist k hk hstored
    have hbackend : s.backend ≠ none := by
      intro hnone
      refine hstored ?_
      unfold recordAt
      rw [hnone]
      rfl
    exact (h ⟨hbackend, hlist⟩ k hk hstored).2.2.2
  · rintro h ⟨-, hlist⟩ k hk hstored
    exact ⟨hstored, hlist, hk, h hlist k hk hstored⟩

/-! ## §4. Bulk deletion -/

/-- **When a bulk deletion that succeeds is complete**: every delete of a
    stored key of its set is done, and the backends' listings name every
    stored key.  The sandbox sweep never touches another key. -/
theorem bulk_deletion_complete_iff (f : Faults) (s : Storage)
    (acfg : Android.StorageConfig) (aw : Android.WipeCall) (a : Android.AndroidStorage)
    (icfg : Ios.StorageConfig) (iw : Ios.WipeCall) (i : Ios.IosStorage) :
    (((deleteSandbox f s).1 = .ok () →
        ∀ k, IsSandboxKey k → recordAt (deleteSandbox f s).2 k = none) ↔
      (f.list = none → ∀ k, IsSandboxKey k → recordAt s k ≠ none → f.delete k = none)) ∧
    (∀ k, ¬ IsSandboxKey k → recordAt (deleteSandbox f s).2 k = recordAt s k) ∧
    (((Android.wipeAll acfg aw a).1 = .ok () →
        ∀ k, (Android.wipeAll acfg aw a).2.keystore.lookup k = none) ↔
      ∀ keys, Android.listKeysSecure aw.list a.keystore = .ok keys →
        ∀ k, a.keystore.lookup k ≠ none → k ∈ keys ∧ Android.DeleteDone (aw.delete k) k) ∧
    (((Ios.wipeAll icfg iw i).1 = .ok () →
        ∀ k, (Ios.wipeAll icfg iw i).2.keychain.lookup k = none) ↔
      ∀ keys, Ios.listKeysInternal iw.list i.keychain = .ok keys →
        ∀ k, i.keychain.lookup k ≠ none → k ∈ keys ∧ Ios.DeleteDone (iw.delete k) k) := by
  refine ⟨deleteSandbox_empties_iff f s, ?_, Android.wipeAll_empties_iff acfg aw a,
    Ios.wipeAll_empties_iff icfg iw i⟩
  intro k hk
  exact (deleteSandbox_removes f s k).2 fun h => hk h.2.2.1

/-- A key of the sandbox, and stores that hold an item under it. -/
def sandboxKeyA : Key := "provii.sandbox.cred.primary.AA".toList

def sandboxStore : Storage := ⟨some (AList.singleton sandboxKeyA ⟨[1], .none⟩)⟩

def sandboxKeystore : Android.AndroidStorage :=
  { keystore := AList.singleton sandboxKeyA ⟨[1], false⟩, operationCache := ∅ }

def sandboxKeychain : Ios.IosStorage :=
  { keychain := AList.singleton sandboxKeyA ⟨[1], false⟩, cache := ∅ }

/-- A backend that fails every delete. -/
def failingDeletes : Faults := { Faults.never with delete := fun _ => some (.storage "locked") }

/-- A wipe on Android whose deletes raise, and one on iOS whose deletes
    are refused. -/
def failingWipe : Android.WipeCall :=
  { list := { env := none, bridge := none, answer := .served .asKept }
    delete := fun _ => { Android.Jni.healthy 0 with write := .error (.storage "Keystore error") } }

def refusedWipe : Ios.WipeCall :=
  { list := .served .asKept
    delete := fun _ =>
      { Ios.SecCall.healthy 0 with
        attempt := fun _ => { Ios.SecAnswers.healthy with delete := some .authFailed } } }

def cachingAndroid : Android.StorageConfig := { enableCaching := true, cacheTtl := 300 }

def cachingIos : Ios.StorageConfig :=
  { enableCaching := true, maxCacheSize := 100, cacheTtlSeconds := 300 }

/-- Each of the three reports success and leaves the item. -/
theorem bulk_deletion_leaves_item :
    IsSandboxKey sandboxKeyA ∧
      ((deleteSandbox failingDeletes sandboxStore).1 = .ok () ∧
        recordAt (deleteSandbox failingDeletes sandboxStore).2 sandboxKeyA = some ⟨[1], .none⟩) ∧
      ((Android.wipeAll cachingAndroid failingWipe sandboxKeystore).1 = .ok () ∧
        (Android.wipeAll cachingAndroid failingWipe sandboxKeystore).2.keystore.lookup
          sandboxKeyA = some ⟨[1], false⟩) ∧
      (Ios.wipeAll cachingIos refusedWipe sandboxKeychain).1 = .ok () ∧
        (Ios.wipeAll cachingIos refusedWipe sandboxKeychain).2.keychain.lookup sandboxKeyA =
          some ⟨[1], false⟩ :=
  ⟨by unfold IsSandboxKey; decide, ⟨by decide +kernel, by decide +kernel⟩,
    ⟨by decide +kernel, by decide +kernel⟩, by decide +kernel, by decide +kernel⟩

end ProviiSdk.Wallet
