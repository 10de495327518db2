/-
  ProviiSdk.Wallet.UsageStats — do usage statistics count credentials?

  Each backend counts, among the keys it lists, those that begin with a
  credential prefix of its own.  The wallet builds its keys elsewhere, and
  none of them begins with either prefix.  So both counts are 0, and right
  only where no credential is stored.

  Main results:
    * `tally_le` — what a backend counts at most.
    * `length_listCredentials` — what the wallet lists.
    * `usage_stats_count_iff` — when the counts agree.
-/

import ProviiSdk.Android.Rotation
import ProviiSdk.Ios.Rotation
import ProviiSdk.Wallet.SlotOccupancy

namespace ProviiSdk.Platform

/-! ## §1. Counting keys -/

structure UsageStats where
  totalKeys : Nat
  totalBytes : Nat
  credentialsCount : Nat
  deriving DecidableEq

variable {σ : Type}

/-- The loop of both backends: the bytes of what can be read, and how
    many of these keys begin with the prefix. -/
def tally (credentialKeyPrefix : Key) (retrieve : Key → σ → Except WalletError Bytes × σ) :
    List Key → Nat → Nat → σ → (Nat × Nat) × σ
  | [], totalSize, credCount, s => ((totalSize, credCount), s)
  | key :: keys, totalSize, credCount, s =>
    match retrieve key s with
    | (.error _, s) => tally credentialKeyPrefix retrieve keys totalSize credCount s
    | (.ok data, s) =>
      tally credentialKeyPrefix retrieve keys (totalSize + data.length)
        (if credentialKeyPrefix <+: key then credCount + 1 else credCount) s

/-- What the loop counts at most. -/
theorem tally_le (pfx : Key) (retrieve : Key → σ → Except WalletError Bytes × σ)
    (keys : List Key) (totalSize credCount : Nat) (s : σ) :
    (tally pfx retrieve keys totalSize credCount s).1.2 ≤
      credCount + keys.countP fun key => decide (pfx <+: key) := by
  induction keys generalizing totalSize credCount s with
  | nil => exact Nat.le_refl _
  | cons key keys ih =>
    rw [List.countP_cons]
    unfold tally
    cases retrieve key s with
    | mk answer s' =>
      cases answer with
      | error e =>
        have hrest := ih totalSize credCount s'
        show (tally pfx retrieve keys totalSize credCount s').1.2 ≤ _
        omega
      | ok data =>
        have hrest := ih (totalSize + data.length)
          (if pfx <+: key then credCount + 1 else credCount) s'
        show (tally pfx retrieve keys (totalSize + data.length)
          (if pfx <+: key then credCount + 1 else credCount) s').1.2 ≤ _
        by_cases hkey : pfx <+: key
        · rw [if_pos hkey] at hrest ⊢
          rw [if_pos (decide_eq_true hkey)]
          omega
        · rw [if_neg hkey] at hrest ⊢
          omega

/-- Without a key of the prefix it counts nothing. -/
theorem tally_eq_zero (pfx : Key) (retrieve : Key → σ → Except WalletError Bytes × σ)
    {keys : List Key} (h : ∀ key ∈ keys, ¬ pfx <+: key) (s : σ) :
    (tally pfx retrieve keys 0 0 s).1.2 = 0 := by
  have hle := tally_le pfx retrieve keys 0 0 s
  have hnone : keys.countP (fun key => decide (pfx <+: key)) = 0 := by
    rw [List.countP_eq_zero]
    intro key hkey hpfx
    exact h key hkey (of_decide_eq_true hpfx)
  omega

end ProviiSdk.Platform

namespace ProviiSdk.Android

open ProviiSdk.Platform

/-! ## §2. The Android backend -/

def credentialKeyPrefix : Key := "provii_credential".toList

/-- What the JVM and the bridge answer while the statistics are taken. -/
structure UsageCall where
  list : ListCall
  read : Key → Jni

def usageStats (cfg : StorageConfig) (u : UsageCall) (s : AndroidStorage) :
    Except WalletError UsageStats × AndroidStorage :=
  match listKeysSecure u.list s.keystore with
  | .error e => (.error e, s)
  | .ok keys =>
    let ((totalSize, credCnt), s) :=
      tally credentialKeyPrefix (fun k s => retrieveSecure cfg (u.read k) s k false) keys 0 0 s
    (.ok { totalKeys := keys.length, totalBytes := totalSize, credentialsCount := credCnt }, s)

/-- The listing answers. -/
structure UsageCall.Lists (u : UsageCall) : Prop where
  env : u.list.env = none
  bridge : u.list.bridge = none
  answer : ∃ order, u.list.answer = .served order

/-- **The count is 0** where no stored key begins with the prefix. -/
theorem usageStats_count (cfg : StorageConfig) {u : UsageCall} (hu : u.Lists) {s : AndroidStorage}
    (h : ∀ k, s.keystore.lookup k ≠ none → ¬ credentialKeyPrefix <+: k) :
    ∃ stats, (usageStats cfg u s).1 = .ok stats ∧ stats.credentialsCount = 0 := by
  obtain ⟨henv, hbridge, order, hanswer⟩ := hu
  have hlist : listKeysSecure u.list s.keystore = .ok (order.order s.keystore.keys) := by
    unfold listKeysSecure
    rw [henv, hbridge, hanswer]
    rfl
  unfold usageStats
  rw [hlist]
  refine ⟨_, rfl, tally_eq_zero _ _ ?_ s⟩
  intro k hk
  exact h k ((order.mem_order_iff _ k).1 hk)

end ProviiSdk.Android

namespace ProviiSdk.Ios

open ProviiSdk.Platform

/-! ## §3. The iOS backend -/

def credentialKeyPrefix : Key := "provii.credential".toList

/-- What the Keychain answers while the statistics are taken. -/
structure UsageCall where
  list : SecList
  read : Key → SecCall

def usageStats (cfg : StorageConfig) (u : UsageCall) (s : IosStorage) :
    Except WalletError UsageStats × IosStorage :=
  match listKeysInternal u.list s.keychain with
  | .error e => (.error e, s)
  | .ok keys =>
    let ((totalSize, credCount), s) :=
      tally credentialKeyPrefix (fun k s => retrieveSecure cfg (u.read k) s k false) keys 0 0 s
    (.ok { totalKeys := keys.length, totalBytes := totalSize, credentialsCount := credCount }, s)

/-- The listing answers. -/
def UsageCall.Lists (u : UsageCall) : Prop := ∃ order, u.list = .served order

/-- **The count is 0** where no stored key begins with the prefix. -/
theorem usageStats_count (cfg : StorageConfig) {u : UsageCall} (hu : u.Lists) {s : IosStorage}
    (h : ∀ k, s.keychain.lookup k ≠ none → ¬ credentialKeyPrefix <+: k) :
    ∃ stats, (usageStats cfg u s).1 = .ok stats ∧ stats.credentialsCount = 0 := by
  obtain ⟨order, hlist⟩ := hu
  unfold usageStats
  rw [hlist]
  refine ⟨_, rfl, tally_eq_zero _ _ ?_ s⟩
  intro k hk
  exact h k ((order.mem_order_iff _ k).1 hk)

end ProviiSdk.Ios

namespace ProviiSdk.Wallet

open ProviiSdk.Core ProviiSdk.Platform ProviiSdk.Ffi ProviiSdk.Run

/-! ## §4. The keys of the SDK -/

/-- Two texts that differ early. -/
theorem not_isPrefix_of_take_ne {pfx t rest : Key} (n : Nat) (hpfx : n ≤ pfx.length)
    (ht : n ≤ t.length) (hne : pfx.take n ≠ t.take n) : ¬ pfx <+: t ++ rest := by
  rintro ⟨more, hmore⟩
  apply hne
  calc pfx.take n = (pfx ++ more).take n := (List.take_append_of_le_length hpfx).symm
    _ = (t ++ rest).take n := by rw [hmore]
    _ = t.take n := List.take_append_of_le_length ht

/-- **No record's key begins with a backend's prefix.** -/
theorem recordKey_not_counted (p : Place) (kind : RecordKind) (b : BaseId) :
    ¬ Android.credentialKeyPrefix <+: recordKey p kind b ∧
      ¬ Ios.credentialKeyPrefix <+: recordKey p kind b := by
  rw [recordKey_eq]
  -- the twelfth character decides, and the seventh on Android
  have hstem : ∀ s m k, 12 ≤ (stem s m k).length ∧
      Android.credentialKeyPrefix.take 12 ≠ (stem s m k).take 12 ∧
      Ios.credentialKeyPrefix.take 12 ≠ (stem s m k).take 12 := by
    intro s m k
    cases s <;> cases m <;> cases k <;> decide
  obtain ⟨hlen, handroid, hios⟩ := hstem p.ns.isSandbox p.slot.isManaged kind
  exact ⟨not_isPrefix_of_take_ne 12 (by decide) hlen handroid,
    not_isPrefix_of_take_ne 12 (by decide) hlen hios⟩

/-- The keys under which the SDK stores something else: the trust anchor,
    and the time of the last rotation. -/
def otherKeys : List Key := [trustAnchorStorageKey, Ios.rotatedAtKey]

theorem otherKeys_not_counted : ∀ k ∈ otherKeys,
    ¬ Android.credentialKeyPrefix <+: k ∧ ¬ Ios.credentialKeyPrefix <+: k := by
  decide

/-! ## §5. Backends that hold what the wallet stored -/

/-- The items of the Android backend are the wallet's, but for the other
    keys of the SDK. -/
def HeldOnAndroid (s : Android.AndroidStorage) (kv : Kv) : Prop :=
  ∀ k ∉ otherKeys, s.keystore.lookup k =
    (kv.lookup k).map fun item => ⟨item.data, item.bio.isRequired⟩

/-- The items of the iOS backend are the wallet's, but for the other keys
    of the SDK. -/
def HeldOnIos (s : Ios.IosStorage) (kv : Kv) : Prop :=
  ∀ k ∉ otherKeys, s.keychain.lookup k =
    (kv.lookup k).map fun item => ⟨item.data, item.bio.isRequired⟩

/-- A stored key of a backend that holds the wallet's items is a record's
    or one of the others. -/
theorem held_not_counted {α : Type} {kv : Kv} (h : RecordKeys kv)
    {held : AList fun _ : Key => α} {f : Item → α}
    (hheld : ∀ k ∉ otherKeys, held.lookup k = (kv.lookup k).map f) {k : Key}
    (hk : held.lookup k ≠ none) :
    ¬ Android.credentialKeyPrefix <+: k ∧ ¬ Ios.credentialKeyPrefix <+: k := by
  by_cases hother : k ∈ otherKeys
  · exact otherKeys_not_counted k hother
  · rw [hheld k hother, Ne, Option.map_eq_none_iff] at hk
    obtain ⟨p, kind, b, rfl, -⟩ := h k hk
    exact recordKey_not_counted p kind b

/-! ## §6. What the wallet lists -/

/-- How many public credential records there are. -/
def publicRecords (kv : Kv) : Nat := kv.keys.countP isCredentialKey

theorem publicRecords_eq_zero_iff (kv : Kv) :
    publicRecords kv = 0 ↔ ∀ k, isCredentialKey k = true → kv.lookup k = none := by
  unfold publicRecords
  rw [List.countP_eq_zero]
  constructor
  · intro h k hpublic
    by_contra hk
    exact h k (AList.mem_keys.1 (AList.lookup_isSome.1 (Option.isSome_iff_ne_none.2 hk))) hpublic
  · intro h k hk hpublic
    have hsome := AList.lookup_isSome.2 (AList.mem_keys.2 hk)
    rw [h k hpublic] at hsome
    cases hsome

/-- Where every public record has an entry, there are as many entries. -/
theorem length_filterMap_listEntry (f : Faults) (clock : Key → Int64) (kv : Kv) {keys : List Key}
    (h : ∀ k ∈ keys, isCredentialKey k = true → (listEntry f clock kv k).isSome = true) :
    (keys.filterMap (listEntry f clock kv)).length = keys.countP isCredentialKey := by
  induction keys with
  | nil => rfl
  | cons k keys ih =>
    have hrest := ih fun j hj => h j (List.mem_cons_of_mem k hj)
    rw [List.filterMap_cons, List.countP_cons, ← hrest]
    by_cases hpublic : isCredentialKey k = true
    · obtain ⟨info, hinfo⟩ := Option.isSome_iff_exists.1 (h k List.mem_cons_self hpublic)
      rw [hinfo, if_pos hpublic]
      rfl
    · have hnone : listEntry f clock kv k = none := by
        unfold listEntry
        rw [if_neg hpublic]
      rw [hnone, if_neg hpublic]
      rfl

/-- **What the wallet lists**: every public record. -/
theorem length_listCredentials {t : SlotTable} {kv : Kv} (h : Represents t kv) {f : Faults}
    (hf : f.Healthy) (clock : Key → Int64) :
    ∃ infos, listCredentials f clock kv = .ok infos ∧ infos.length = publicRecords kv := by
  unfold listCredentials
  rw [listKeys_healthy hf]
  refine ⟨_, rfl, ?_⟩
  rw [length_filterMap_listEntry]
  · exact (f.listing.perm kv.keys).countP_eq _
  · intro k hk hpublic
    have hstored := (f.listing.mem_order_iff kv k).1 hk
    obtain ⟨p, kind, b, rfl, -⟩ := h.keys k hstored
    rw [isCredentialKey_recordKey] at hpublic
    obtain rfl := of_decide_eq_true hpublic
    obtain ⟨x, hx, hid⟩ := h.held p b hstored
    obtain ⟨-, bio, stored, hlook, hfits, hcred⟩ := h.stored p x hx
    rw [hid] at hlook
    obtain ⟨info, hinfo, -⟩ := listEntry_of_stored hf clock hlook hfits hcred
    rw [hinfo]
    rfl

/-! ## §7. When the counts agree -/

/-- **The property** of a store: whichever backend holds it, what its
    statistics count is the number of public records. -/
def CountsCredentials (kv : Kv) : Prop :=
  (∀ cfg (u : Android.UsageCall) s, u.Lists → HeldOnAndroid s kv →
    ∃ stats, (Android.usageStats cfg u s).1 = .ok stats ∧
      stats.credentialsCount = publicRecords kv) ∧
  ∀ cfg (u : Ios.UsageCall) s, u.Lists → HeldOnIos s kv →
    ∃ stats, (Ios.usageStats cfg u s).1 = .ok stats ∧ stats.credentialsCount = publicRecords kv

def keystoreItem (item : Item) : Android.KeystoreItem := ⟨item.data, item.bio.isRequired⟩

/-- The Android backend with the items of the wallet. -/
def onAndroid (kv : Kv) : Android.AndroidStorage where
  keystore := ⟨kv.entries.map (Sigma.map id fun _ => keystoreItem), kv.nodupKeys.map₂ _⟩
  operationCache := ∅

theorem heldOnAndroid_onAndroid (kv : Kv) : HeldOnAndroid (onAndroid kv) kv :=
  fun k _ => List.dlookup_map₂ k

/-- A call that answers. -/
def answeringUsage : Android.UsageCall where
  list := { env := none, bridge := none, answer := .served .asKept }
  read _ := .healthy 0

/-- On a store of the wallet both backends count nothing. -/
theorem countsCredentials_iff {kv : Kv} (h : RecordKeys kv) :
    CountsCredentials kv ↔ ∀ k, isCredentialKey k = true → kv.lookup k = none := by
  rw [← publicRecords_eq_zero_iff]
  constructor
  · intro hcounts
    have hcount := hcounts.1 ⟨true, 0⟩ answeringUsage (onAndroid kv) ⟨rfl, rfl, _, rfl⟩
      (heldOnAndroid_onAndroid kv)
    obtain ⟨stats, hstats, hsame⟩ := hcount
    have hzero := Android.usageStats_count ⟨true, 0⟩ (u := answeringUsage) ⟨rfl, rfl, _, rfl⟩
      fun k hk => (held_not_counted h (heldOnAndroid_onAndroid kv) hk).1
    obtain ⟨stats', hstats', hnone⟩ := hzero
    rw [hstats] at hstats'
    injection hstats' with hstats'
    rw [← hsame, hstats', hnone]
  · intro hnone
    unfold CountsCredentials
    rw [hnone]
    constructor
    · intro cfg u s hu hheld
      exact Android.usageStats_count cfg hu fun k hk => (held_not_counted h hheld hk).1
    · intro cfg u s hu hheld
      exact Ios.usageStats_count cfg hu fun k hk => (held_not_counted h hheld hk).2

/-- Every run on an answering backend ends in a store that represents its
    table. -/
theorem slotInv_run (X : Crates) {ops : List SlotOp} (hops : ∀ op ∈ ops, op.Answered X) :
    SlotInv (run (slotStep X) emptySlots ops) := by
  have hstart : SlotInv emptySlots := ⟨∅, rfl, represents_empty⟩
  have hrun : Always (slotStep X) SlotInv emptySlots ops :=
    always_of_step (P := fun _ op => op.Answered X) (represents_step X) hstart
      (stepsMeet_of_forall hops)
  exact hrun.last

/-- **Usage statistics count credentials exactly where there are none.**
    After every run of imports, deletions, nickname updates and cleanups
    on a backend that answers every call, the wallet lists every public
    record, and what the statistics of both backends count is their number
    if and only if it is 0. -/
theorem usage_stats_count_iff (X : Crates) (ops : List SlotOp) (hops : ∀ op ∈ ops, op.Answered X) :
    ∃ kv, (run (slotStep X) emptySlots ops).storage = ⟨some kv⟩ ∧
      (∀ f clock, f.Healthy →
        ∃ infos, listCredentials f clock kv = .ok infos ∧ infos.length = publicRecords kv) ∧
      (CountsCredentials kv ↔ ∀ k, isCredentialKey k = true → kv.lookup k = none) := by
  obtain ⟨kv, hkv, h⟩ := slotInv_run X hops
  exact ⟨kv, hkv, fun f clock hf => length_listCredentials h hf clock, countsCredentials_iff h.keys⟩

/-- The equivalence at a run that leaves a credential in the sandbox. -/
theorem usage_stats_count_sample :
    ∃ kv, (run (slotStep anyDocumentCrates) emptySlots sampleSlotOps).storage = ⟨some kv⟩ ∧
      (∀ f clock, f.Healthy →
        ∃ infos, listCredentials f clock kv = .ok infos ∧ infos.length = publicRecords kv) ∧
      (CountsCredentials kv ↔ ∀ k, isCredentialKey k = true → kv.lookup k = none) :=
  usage_stats_count_iff anyDocumentCrates sampleSlotOps sampleSlotOps_answered

/-- The store after importing one credential. -/
def oneImported : Kv :=
  (run (slotStep anyDocumentCrates) emptySlots (sampleSlotOps.take 1)).storage.backend.getD ∅

/-- **One credential, counted as none**: after an import there is a public
    record, and the statistics do not count it. -/
theorem imported_credential_not_counted :
    (∀ op ∈ sampleSlotOps.take 1, op.Answered anyDocumentCrates) ∧
      (run (slotStep anyDocumentCrates) emptySlots (sampleSlotOps.take 1)).storage =
        ⟨some oneImported⟩ ∧
      publicRecords oneImported = 1 ∧ ¬ CountsCredentials oneImported := by
  have hanswered : ∀ op ∈ sampleSlotOps.take 1, op.Answered anyDocumentCrates :=
    fun op hop => sampleSlotOps_answered op (List.mem_of_mem_take hop)
  have hone : publicRecords oneImported = 1 := by decide +kernel
  obtain ⟨kv, hkv, h⟩ := slotInv_run anyDocumentCrates hanswered
  have hstore : oneImported = kv := by
    unfold oneImported
    rw [hkv]
    rfl
  refine ⟨hanswered, ?_, hone, ?_⟩
  · rw [hkv, hstore]
  · rw [hstore] at hone ⊢
    rw [countsCredentials_iff h.keys, ← publicRecords_eq_zero_iff, hone]
    exact Nat.one_ne_zero

end ProviiSdk.Wallet
