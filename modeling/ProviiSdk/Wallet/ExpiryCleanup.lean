/-
  ProviiSdk.Wallet.ExpiryCleanup — what an expiry cleanup removes.

  A cleanup lists the credentials, and deletes the expired ones with the
  secrets whose key it derives from the id.  On a backend that does not
  fail and at one clock reading, this removes the two records of every
  expired credential and nothing else.  The answer is a `u32` that
  saturates.

  Main results:
    * `mem_removedIds_iff` — which ids a cleanup deletes.
    * `cleanupCount_toNat` — what it answers.
    * `expiry_cleanup_exact` — what it does to every record.
-/

import ProviiSdk.Ffi.State
import ProviiSdk.Lib.Sweep
import ProviiSdk.Wallet.CleanupRace
import ProviiSdk.Wallet.OrphanSecrets

namespace ProviiSdk.Wallet

open ProviiSdk.Core ProviiSdk.Platform ProviiSdk.Ffi ProviiSdk.Text

/-! ## §1. Stores and the answer -/

/-- Every public key is a credential's, and its record decodes.  What is
    stored under other keys is free. -/
def WellEncoded (kv : Kv) : Prop :=
  ∀ k item, kv.lookup k = some item → isCredentialKey k = true →
    ∃ p b stored, k = recordKey p .cred b ∧ decodeStored item.data = some stored

/-- The credential with a base id at a place is stored, and expired at a
    clock reading. -/
def ExpiredAt (kv : Kv) (now : Int64) (p : Place) (b : BaseId) : Prop :=
  ∃ item stored, kv.lookup (recordKey p .cred b) = some item ∧
    decodeStored item.data = some stored ∧ (stored.credential.exp.toNat : Int) < now.toInt

/-- The expired credentials. -/
def expiredCredentials (kv : Kv) (now : Int64) : Set (Place × BaseId) :=
  {pb | ExpiredAt kv now pb.1 pb.2}

/-- The `u32` a cleanup answers: its counter after so many removals. -/
def cleanupCount (f : Faults) (clock : Key → Int64) (fd : Key → Faults) (s : Storage) : UInt32 :=
  StateManager.satSucc^[(cleanupExpiredCredentials f clock fd s).1] 0

/-- A saturating counter. -/
theorem satSucc_iterate (n : Nat) :
    (StateManager.satSucc^[n] 0).toNat = min n 4294967295 := by
  have hmax : StateManager.maxAttempts.toNat = 4294967295 := rfl
  induction n with
  | zero => rfl
  | succ n ih =>
    rw [Function.iterate_succ_apply', StateManager.satSucc_toNat, ih, hmax]
    omega

/-- The listing's test of the expiry, in integers. -/
theorem expired_iff (exp : UInt64) (now : Int64) :
    exp < nowSecs now ↔ (exp.toNat : Int) < now.toInt := by
  have hhigh := Int64.toInt_lt now
  have hnow : (nowSecs now).toNat = now.toInt.toNat := by
    have hsize : UInt64.size = 18446744073709551616 := rfl
    exact UInt64.toNat_ofNat_of_lt' (by omega)
  rw [UInt64.lt_iff_toNat_lt, hnow]
  omega

/-! ## §2. The loop -/

/-- On a backend that does not fail, every expired entry of the listing is
    counted. -/
theorem deleteExpired_count {fd : Key → Faults} (hfd : ∀ id, (fd id).Healthy)
    (infos : List CredentialInfo) (n : Nat) (kv : Kv) :
    (deleteExpired fd infos n ⟨some kv⟩).1 =
      n + (infos.filter CredentialInfo.isExpired).length := by
  induction infos generalizing n kv with
  | nil => rfl
  | cons info infos ih =>
    unfold deleteExpired
    by_cases hexp : info.isExpired = true
    · have hok : deleteCredential (fd info.id) info.id kv =
          (.ok (), (kv.erase info.id).erase (secretsKeyOf info.id)) := by
        rcases deleteCredential_outcome (fd info.id) info.id kv with
          ⟨e, hfail, -⟩ | ⟨-, hfail, -⟩ | ⟨-, -, hok⟩
        · rw [(hfd info.id).delete] at hfail
          cases hfail
        · exact absurd ((hfd info.id).delete _) hfail
        · exact hok
      rw [if_pos hexp, call_some, hok]
      simp only [ih]
      rw [List.filter_cons_of_pos hexp, List.length_cons]
      omega
    · rw [if_neg hexp, ih, List.filter_cons_of_neg hexp]

/-- The ids a cleanup deletes, in the order of its listing. -/
def removedIds (f : Faults) (now : Int64) (kv : Kv) : List Key :=
  (((f.listing.order kv.keys).filterMap (listEntry f (fun _ => now) kv)).filter
    CredentialInfo.isExpired).map CredentialInfo.id

/-- The ids of a listing are among its keys, in their order. -/
theorem ids_sublist (f : Faults) (clock : Key → Int64) (kv : Kv) (keys : List Key) :
    ((keys.filterMap (listEntry f clock kv)).map CredentialInfo.id).Sublist keys := by
  induction keys with
  | nil => exact List.Sublist.slnil
  | cons key keys ih =>
    rw [List.filterMap_cons]
    cases hentry : listEntry f clock kv key with
    | none => exact ih.cons key
    | some info =>
      rw [List.map_cons, (listEntry_eq_some hentry).1]
      exact ih.cons_cons key

/-- No id is deleted twice. -/
theorem nodup_removedIds (f : Faults) (now : Int64) (kv : Kv) : (removedIds f now kv).Nodup := by
  have hkeys : (f.listing.order kv.keys).Nodup :=
    f.listing.nodup_order kv
  refine hkeys.sublist (List.Sublist.trans ?_ (ids_sublist f (fun _ => now) kv _))
  exact List.filter_sublist.map CredentialInfo.id

/-- **Which ids a cleanup deletes**: those of the expired credentials. -/
theorem mem_removedIds_iff {f : Faults} (hf : f.Healthy) (now : Int64) {kv : Kv}
    (hkv : WellEncoded kv) (k : Key) :
    k ∈ removedIds f now kv ↔ ∃ p b, ExpiredAt kv now p b ∧ k = recordKey p .cred b := by
  unfold removedIds
  simp only [List.mem_map, List.mem_filter, List.mem_filterMap]
  constructor
  · rintro ⟨info, ⟨⟨key, -, hentry⟩, hexp⟩, rfl⟩
    obtain ⟨hid, hpublic⟩ := listEntry_eq_some hentry
    obtain ⟨item, stored, hitem, hstored, hexpired⟩ := listEntry_record hentry
    obtain ⟨p, b, -, hkey, -⟩ := hkv key item hitem hpublic
    rw [hexp, eq_comm, decide_eq_true_iff, expired_iff] at hexpired
    exact ⟨p, b, ⟨item, stored, hkey ▸ hitem, hstored, hexpired⟩, hid.trans hkey⟩
  · rintro ⟨p, b, ⟨item, stored, hitem, hstored, hexpired⟩, rfl⟩
    have hpublic : isCredentialKey (recordKey p .cred b) = true := isCredentialKey_recordKey p .cred b
    have hlisted : recordKey p .cred b ∈ f.listing.order kv.keys := by
      rw [mem_listKeys (listKeys_healthy hf kv), hitem]
      rfl
    obtain ⟨info, hentry⟩ : ∃ info, listEntry f (fun _ => now) kv (recordKey p .cred b) = some info := by
      unfold listEntry
      rw [if_pos hpublic, retrieve_healthy hf hitem]
      simp only [hstored, Option.map_some]
      exact ⟨_, rfl⟩
    obtain ⟨item', stored', hitem', hstored', hexp⟩ := listEntry_record hentry
    rw [← decoded_unique hitem hstored hitem' hstored'] at hexp
    refine ⟨info, ⟨⟨_, hlisted, hentry⟩, ?_⟩, (listEntry_eq_some hentry).1⟩
    rw [hexp]
    exact decide_eq_true ((expired_iff _ _).2 hexpired)

/-- They are as many as there are expired credentials. -/
theorem length_removedIds {f : Faults} (hf : f.Healthy) (now : Int64) {kv : Kv}
    (hkv : WellEncoded kv) :
    (removedIds f now kv).length = (expiredCredentials kv now).ncard := by
  have hinj : Function.Injective fun pb : Place × BaseId => recordKey pb.1 .cred pb.2 := by
    rintro ⟨p, b⟩ ⟨q, c⟩ h
    obtain ⟨rfl, -, rfl⟩ := (recordKey_inj ..).1 h
    rfl
  rw [← Set.ncard_image_of_injective _ hinj]
  refine Sweep.length_eq_ncard (nodup_removedIds f now kv) fun k => ?_
  rw [mem_removedIds_iff hf now hkv, Set.mem_image]
  constructor
  · rintro ⟨p, b, hpb, rfl⟩
    exact ⟨⟨p, b⟩, hpb, rfl⟩
  · rintro ⟨⟨p, b⟩, hpb, rfl⟩
    exact ⟨p, b, hpb, rfl⟩

/-- **What a cleanup answers**: the number of expired credentials, up to
    the greatest `u32`. -/
theorem cleanupCount_toNat {f : Faults} (hf : f.Healthy) (now : Int64) {kv : Kv}
    (hkv : WellEncoded kv) {fd : Key → Faults} (hfd : ∀ id, (fd id).Healthy) :
    (cleanupCount f (fun _ => now) fd ⟨some kv⟩).toNat =
      min (expiredCredentials kv now).ncard 4294967295 := by
  have hloop : (cleanupExpiredCredentials f (fun _ => now) fd ⟨some kv⟩).1 =
      (removedIds f now kv).length := by
    unfold cleanupExpiredCredentials removedIds listCredentials
    rw [read_some, listKeys_healthy hf]
    simp only
    rw [deleteExpired_count hfd, Nat.zero_add, List.length_map]
  unfold cleanupCount
  rw [satSucc_iterate, hloop, length_removedIds hf now hkv]

/-! ## §3. Crowded stores -/

/-- A base id for every number. -/
def crowdedId (i : Nat) : BaseId :=
  ⟨decimal i, by
    intro c hc
    unfold Base64Url.isAlphabetChar Char.isAlphanum
    rw [isDigit_of_mem_decimal i c hc, Bool.or_true, Bool.true_or, Bool.true_or]⟩

def crowdedKey (i : Nat) : Key := recordKey (placeOf none .primary) .cred (crowdedId i)

theorem crowdedId_injective : Function.Injective crowdedId := by
  intro i j h
  exact decimal_injective i j (congrArg Subtype.val h)

theorem crowdedKey_injective : Function.Injective crowdedKey := by
  intro i j h
  exact crowdedId_injective ((recordKey_inj ..).1 h).2.2

def expiredRecord : StoredCredential :=
  storedRecord 0 (renewal 1699999999).credential none .primary none

def expiredItem : Item := ⟨encodeStored expiredRecord, .none⟩

theorem crowded_nodup (n : Nat) :
    ((List.range n).map fun i => (⟨crowdedKey i, expiredItem⟩ : Sigma fun _ : Key => Item)).NodupKeys := by
  unfold List.NodupKeys List.keys
  rw [List.map_map]
  exact List.nodup_range.map crowdedKey_injective

/-- A store with so many expired credentials. -/
def crowdedStore (n : Nat) : Kv where
  entries := (List.range n).map fun i => ⟨crowdedKey i, expiredItem⟩
  nodupKeys := crowded_nodup n

theorem lookup_crowdedStore_iff (n : Nat) (k : Key) (item : Item) :
    (crowdedStore n).lookup k = some item ↔ ∃ i < n, k = crowdedKey i ∧ item = expiredItem := by
  rw [← Option.mem_def, AList.mem_lookup_iff]
  unfold crowdedStore
  simp only [List.mem_map, List.mem_range, Sigma.mk.injEq, heq_eq_eq]
  constructor
  · rintro ⟨i, hi, hk, hitem⟩
    exact ⟨i, hi, hk.symm, hitem.symm⟩
  · rintro ⟨i, hi, hk, hitem⟩
    exact ⟨i, hi, hk.symm, hitem.symm⟩

theorem decodeStored_expiredItem : decodeStored expiredItem.data = some expiredRecord := by
  decide +kernel

theorem crowdedStore_wellEncoded (n : Nat) : WellEncoded (crowdedStore n) := by
  intro k item hitem _
  obtain ⟨i, -, rfl, rfl⟩ := (lookup_crowdedStore_iff n k item).1 hitem
  exact ⟨_, _, expiredRecord, rfl, decodeStored_expiredItem⟩

theorem ncard_crowdedStore (n : Nat) :
    (expiredCredentials (crowdedStore n) 1700000000).ncard = n := by
  have himage : expiredCredentials (crowdedStore n) 1700000000 =
      (fun i => (placeOf none .primary, crowdedId i)) '' (Finset.range n : Set Nat) := by
    ext pb
    rw [Set.mem_image]
    constructor
    · rintro ⟨item, -, hitem, -, -⟩
      obtain ⟨i, hi, hkey, -⟩ := (lookup_crowdedStore_iff n _ item).1 hitem
      obtain ⟨hp, -, hb⟩ := (recordKey_inj ..).1 hkey
      exact ⟨i, Finset.mem_coe.2 (Finset.mem_range.2 hi), Prod.ext hp.symm hb.symm⟩
    · rintro ⟨i, hi, rfl⟩
      exact ⟨expiredItem, expiredRecord, (lookup_crowdedStore_iff n _ _).2
        ⟨i, Finset.mem_range.1 (Finset.mem_coe.1 hi), rfl, rfl⟩, decodeStored_expiredItem,
        by decide⟩
  have hinj : Function.Injective fun i => (placeOf none .primary, crowdedId i) :=
    fun i j h => crowdedId_injective (congrArg Prod.snd h)
  rw [himage, Set.ncard_image_of_injective _ hinj, Set.ncard_coe_finset, Finset.card_range]

/-! ## §4. What a cleanup does -/

/-- **An expiry cleanup is exact**: both records of every expired
    credential go, every other record stays as it is, and the answer is
    the number of expired credentials, or the greatest `u32` if there are
    more. -/
theorem expiry_cleanup_exact (f : Faults) (hf : f.Healthy) (fd : Key → Faults)
    (hfd : ∀ id, (fd id).Healthy) (now : Int64) (kv : Kv) (hkv : WellEncoded kv) :
    ∃ kv', (cleanupExpiredCredentials f (fun _ => now) fd ⟨some kv⟩).2 = ⟨some kv'⟩ ∧
      (∀ p b kind, ExpiredAt kv now p b → kv'.lookup (recordKey p kind b) = none) ∧
      (∀ k, (∀ p b kind, ExpiredAt kv now p b → k ≠ recordKey p kind b) →
        kv'.lookup k = kv.lookup k) ∧
      (cleanupCount f (fun _ => now) fd ⟨some kv⟩).toNat =
        min (expiredCredentials kv now).ncard 4294967295 := by
  obtain ⟨kv', hrun, herases⟩ := cleanupExpiredCredentials_erases f (fun _ => now) fd kv
  have hlist : listCredentials f (fun _ => now) kv =
      .ok ((f.listing.order kv.keys).filterMap (listEntry f (fun _ => now) kv)) := by
    unfold listCredentials
    rw [listKeys_healthy hf]
  -- a key goes exactly if it is a record's of a deleted id
  have hgone : ∀ k, (∃ infos, listCredentials f (fun _ => now) kv = .ok infos ∧
      expiredGone fd infos k) ↔ ∃ p b kind, ExpiredAt kv now p b ∧ k = recordKey p kind b := by
    intro k
    have hids := mem_removedIds_iff hf now hkv
    unfold removedIds at hids
    simp only [List.mem_map, List.mem_filter] at hids
    rw [hlist]
    constructor
    · rintro ⟨infos, hinfos, info, hmem, hexp, -, hk⟩
      injection hinfos with hinfos
      rw [← hinfos] at hmem
      obtain ⟨p, b, hexpired, hid⟩ := (hids info.id).1 ⟨info, ⟨hmem, hexp⟩, rfl⟩
      rcases hk with rfl | ⟨rfl, -⟩
      · exact ⟨p, b, .cred, hexpired, hid⟩
      · refine ⟨p, b, .credsec, hexpired, ?_⟩
        rw [hid, secretsKeyOf_recordKey]
    · rintro ⟨p, b, kind, hexpired, rfl⟩
      obtain ⟨info, ⟨hmem, hexp⟩, hid⟩ := (hids _).2 ⟨p, b, hexpired, rfl⟩
      refine ⟨_, rfl, info, hmem, hexp, (hfd _).delete _, ?_⟩
      rw [hid, secretsKeyOf_recordKey]
      cases kind with
      | cred => exact Or.inl rfl
      | credsec => exact Or.inr ⟨rfl, (hfd _).delete _⟩
  refine ⟨kv', hrun, ?_, ?_, cleanupCount_toNat hf now hkv hfd⟩
  · intro p b kind hexpired
    exact (herases _).1 ((hgone _).2 ⟨p, b, kind, hexpired, rfl⟩)
  · intro k hother
    refine (herases k).2 fun h => ?_
    obtain ⟨p, b, kind, hexpired, hk⟩ := (hgone k).1 h
    exact hother p b kind hexpired hk

/-- A credential of the two namespaces that is valid for years. -/
def liveRecord (label : Option String) : StoredCredential :=
  storedRecord 0 (renewal 2000000000).credential label (.managed 1) none

def liveItem (label : Option String) : Item := ⟨encodeStored (liveRecord label), .none⟩

/-- The record of one that has expired, in the sandbox. -/
def expiredSandboxItem : Item :=
  ⟨encodeStored (storedRecord 0 (renewal 1699999999).credential (some "sandbox") .primary none),
    .none⟩

/-- In either namespace, an expired credential in the primary slot and a
    valid one in a managed slot.  One of the expired ones has secrets. -/
def mixedStore : Kv :=
  ((((AList.insert (recordKey (placeOf (some "sandbox") (.managed 1)) .cred (crowdedId 3))
      (liveItem (some "sandbox")) ∅).insert
      (recordKey (placeOf (some "sandbox") .primary) .cred (crowdedId 2)) expiredSandboxItem).insert
      (recordKey (placeOf none (.managed 1)) .cred (crowdedId 1)) (liveItem none)).insert
      (recordKey (placeOf none .primary) .credsec (crowdedId 0))
      ⟨[0], BiometricRequirement.forCredentialSecrets⟩).insert
      (recordKey (placeOf none .primary) .cred (crowdedId 0)) expiredItem

theorem wellEncoded_empty : WellEncoded ∅ := by
  intro k item hitem _
  rw [AList.lookup_empty] at hitem
  cases hitem

/-- A record that decodes may be stored under a public key. -/
theorem WellEncoded.insert_record {kv : Kv} (h : WellEncoded kv) (p : Place) (b : BaseId)
    {item : Item} {stored : StoredCredential} (hstored : decodeStored item.data = some stored) :
    WellEncoded (kv.insert (recordKey p .cred b) item) := by
  intro k item' hitem hpublic
  rw [lookup_insert_of] at hitem
  split at hitem
  next hk =>
    injection hitem with hitem
    rw [← hitem]
    exact ⟨p, b, stored, hk, hstored⟩
  next => exact h k item' hitem hpublic

/-- Anything may be stored under another key. -/
theorem WellEncoded.insert_other {kv : Kv} (h : WellEncoded kv) {key : Key}
    (hkey : isCredentialKey key = false) (item : Item) : WellEncoded (kv.insert key item) := by
  intro k item' hitem hpublic
  rw [lookup_insert_of] at hitem
  split at hitem
  next hk =>
    rw [hk, hkey] at hpublic
    cases hpublic
  next => exact h k item' hitem hpublic

theorem decodeStored_liveItem : ∀ label ∈ [none, some "sandbox"],
    decodeStored (liveItem label).data = some (liveRecord label) := by decide +kernel

theorem mixedStore_wellEncoded : WellEncoded mixedStore := by
  have hexpired : decodeStored expiredSandboxItem.data =
      some (storedRecord 0 (renewal 1699999999).credential (some "sandbox") .primary none) := by
    decide +kernel
  have hsandbox := (wellEncoded_empty.insert_record (placeOf (some "sandbox") (.managed 1))
    (crowdedId 3) (decodeStored_liveItem (some "sandbox") (by decide))).insert_record
    (placeOf (some "sandbox") .primary) (crowdedId 2) hexpired
  have hmanaged := hsandbox.insert_record (placeOf none (.managed 1)) (crowdedId 1)
    (decodeStored_liveItem none (by decide))
  exact (hmanaged.insert_other (by decide) _).insert_record (placeOf none .primary) (crowdedId 0)
    decodeStored_expiredItem

/-- The public record of a live credential is no record of an expired
    one. -/
theorem ne_of_live {kv : Kv} {now : Int64} {p : Place} {b : BaseId} {item : Item}
    {stored : StoredCredential} (hitem : kv.lookup (recordKey p .cred b) = some item)
    (hstored : decodeStored item.data = some stored)
    (hlive : ¬ (stored.credential.exp.toNat : Int) < now.toInt) :
    ∀ q c kind, ExpiredAt kv now q c → recordKey p .cred b ≠ recordKey q kind c := by
  rintro q c kind ⟨item', stored', hitem', hstored', hexpired⟩ heq
  obtain ⟨rfl, -, rfl⟩ := (recordKey_inj ..).1 heq
  rw [← decoded_unique hitem hstored hitem' hstored'] at hexpired
  exact hlive hexpired

/-- A cleanup of that store: the expired credentials of both namespaces
    go, the valid ones stay, and the answer is two. -/
theorem expiry_cleanup_of_mixed :
    ∃ kv', (cleanupExpiredCredentials .never (fun _ => 1700000000) (fun _ => .never)
        ⟨some mixedStore⟩).2 = ⟨some kv'⟩ ∧
      kv'.lookup (recordKey (placeOf none .primary) .cred (crowdedId 0)) = none ∧
      kv'.lookup (recordKey (placeOf none .primary) .credsec (crowdedId 0)) = none ∧
      kv'.lookup (recordKey (placeOf (some "sandbox") .primary) .cred (crowdedId 2)) = none ∧
      kv'.lookup (recordKey (placeOf none (.managed 1)) .cred (crowdedId 1)) =
        some (liveItem none) ∧
      kv'.lookup (recordKey (placeOf (some "sandbox") (.managed 1)) .cred (crowdedId 3)) =
        some (liveItem (some "sandbox")) ∧
      (expiredCredentials mixedStore 1700000000).ncard = 2 := by
  obtain ⟨kv', hrun, hgone, hkept, hcount⟩ := expiry_cleanup_exact .never Faults.never_healthy
    (fun _ => .never) (fun _ => Faults.never_healthy) 1700000000 mixedStore mixedStore_wellEncoded
  have hprimary : ExpiredAt mixedStore 1700000000 (placeOf none .primary) (crowdedId 0) :=
    ⟨expiredItem, expiredRecord, by decide +kernel, decodeStored_expiredItem, by decide +kernel⟩
  have hsandbox : ExpiredAt mixedStore 1700000000 (placeOf (some "sandbox") .primary)
      (crowdedId 2) :=
    ⟨expiredSandboxItem,
      storedRecord 0 (renewal 1699999999).credential (some "sandbox") .primary none,
      by decide +kernel, by decide +kernel, by decide +kernel⟩
  have hlive : mixedStore.lookup (recordKey (placeOf none (.managed 1)) .cred (crowdedId 1)) =
      some (liveItem none) := by decide +kernel
  have hliveSandbox : mixedStore.lookup
      (recordKey (placeOf (some "sandbox") (.managed 1)) .cred (crowdedId 3)) =
        some (liveItem (some "sandbox")) := by decide +kernel
  have htwo : (cleanupCount .never (fun _ => 1700000000) (fun _ => .never)
      ⟨some mixedStore⟩).toNat = 2 := by decide +kernel
  refine ⟨kv', hrun, hgone _ _ .cred hprimary, hgone _ _ .credsec hprimary,
    hgone _ _ .cred hsandbox, ?_, ?_, by omega⟩
  · rw [hkept _ (ne_of_live hlive (decodeStored_liveItem none (by decide)) (by decide +kernel)),
      hlive]
  · rw [hkept _ (ne_of_live hliveSandbox (decodeStored_liveItem (some "sandbox") (by decide))
      (by decide +kernel)), hliveSandbox]

/-- **The answer falls short** of a store with 2 ^ 32 expired credentials:
    it is the greatest `u32`. -/
theorem cleanup_count_saturates :
    WellEncoded (crowdedStore 4294967296) ∧
      (expiredCredentials (crowdedStore 4294967296) 1700000000).ncard = 4294967296 ∧
      (cleanupCount .never (fun _ => 1700000000) (fun _ => .never)
        ⟨some (crowdedStore 4294967296)⟩).toNat = 4294967295 := by
  refine ⟨crowdedStore_wellEncoded _, ncard_crowdedStore _, ?_⟩
  rw [cleanupCount_toNat Faults.never_healthy _ (crowdedStore_wellEncoded _)
    fun _ => Faults.never_healthy, ncard_crowdedStore]
  rfl

end ProviiSdk.Wallet
