/-
  ProviiSdk.Ffi.StorageSpec — what the store's writing methods can do.

  One inversion lemma for each method that changes the backend, saying
  every way the call can end and the contents it leaves.  The frame
  facts follow from them: a store into a slot touches the keys of that
  slot only.

  Main results:
    * `deleteSlot_spec` — the emptying loop erases an initial part of
      the slot's listed keys, all of them exactly when it succeeds.
    * `storeCredentialWithSlot_outcome` — the four ways a slot store
      can end.
    * `storeCredentialWithSlot_frame` — a slot store leaves every key
      outside its slot alone, whether it succeeds or fails.
    * `deleteCredential_outcome`, `deleteMatching_spec` — the deletes.
    * `nextAvailableManagedIndex_spec` — the next index is the smallest
      free one, and there is none exactly when all are occupied.
    * `isCredentialKey_of_listCredentials` — only public keys are listed.
-/

import ProviiSdk.Ffi.Storage

namespace ProviiSdk.Ffi

open ProviiSdk.Core ProviiSdk.Platform ProviiSdk.Text

/-! ## §1. Emptying a slot -/

/-- Does the key lie under one of the two prefixes of a place? -/
def inSlot (p : Place) (key : Key) : Bool :=
  decide (recordPrefix p .cred <+: key ∨ recordPrefix p .credsec <+: key)

/-- The listed keys of a place, in listing order. -/
def slotKeys (p : Place) (keys : List Key) : List Key := keys.filter (inSlot p)

/-- The emptying loop erases an initial part `gone` of the slot's keys:
    all of them when it succeeds, and those before the first key whose
    delete fails when it does not. -/
theorem deleteSlot_spec (f : Faults) (p : Place) (keys : List Key) (kv : Kv) :
    ∃ gone,
      (deleteSlot f (recordPrefix p .cred) (recordPrefix p .credsec) keys kv).2 = eraseAll kv gone ∧
      (∀ k ∈ gone, f.delete k = none) ∧
      (((deleteSlot f (recordPrefix p .cred) (recordPrefix p .credsec) keys kv).1 = .ok () ∧
          gone = slotKeys p keys) ∨
        ∃ k e, gone ++ [k] <+: slotKeys p keys ∧ f.delete k = some e ∧
          (deleteSlot f (recordPrefix p .cred) (recordPrefix p .credsec) keys kv).1 =
            .error ("Failed to delete existing credential: " ++ e.display)) := by
  induction keys generalizing kv with
  | nil => exact ⟨[], rfl, by simp, Or.inl ⟨rfl, rfl⟩⟩
  | cons key keys ih =>
    unfold deleteSlot
    by_cases hin : recordPrefix p .cred <+: key ∨ recordPrefix p .credsec <+: key
    · have hslot : slotKeys p (key :: keys) = key :: slotKeys p keys := by
        simp [slotKeys, inSlot, hin]
      rw [if_pos hin, hslot]
      cases hdel : f.delete key with
      | some e =>
        have herr : delete f kv key = .error e := by simp [delete, hdel]
        rw [herr]
        refine ⟨[], rfl, by simp, Or.inr ⟨key, e, ?_, hdel, rfl⟩⟩
        exact ⟨slotKeys p keys, rfl⟩
      | none =>
        rw [delete_eq_ok f kv key hdel]
        obtain ⟨gone, hkv, hgone, hres⟩ := ih (kv.erase key)
        refine ⟨key :: gone, hkv, ?_, ?_⟩
        · intro k hk
          rcases List.mem_cons.1 hk with rfl | hk
          · exact hdel
          · exact hgone k hk
        · rcases hres with ⟨hok, hall⟩ | ⟨k, e, hpre, hfail, herr⟩
          · exact Or.inl ⟨hok, by rw [hall]⟩
          · refine Or.inr ⟨k, e, ?_, hfail, herr⟩
            rw [List.cons_append]
            exact (List.prefix_cons_inj key).2 hpre
    · have hslot : slotKeys p (key :: keys) = slotKeys p keys := by
        simp [slotKeys, inSlot, hin]
      rw [if_neg hin, hslot]
      exact ih kv

/-! ## §2. Storing into a slot -/

/-- The key and the item of the public record a slot store writes. -/
def newKey (X : Crates) (p : Place) (credential : CredentialV2) : Key :=
  recordPrefix p .cred ++ computeBaseId X credential

def newItem (now : Int64) (credential : CredentialV2) (label : Option String)
    (slot : CredentialSlot) (nickname : Option String) : Item :=
  ⟨encodeStored (storedRecord now credential label slot nickname), .none⟩

/-- The ways a slot store can end, each with the contents it leaves. -/
inductive SlotStoreOutcome (X : Crates) (f : Faults) (now : Int64) (credential : CredentialV2)
    (label : Option String) (slot : CredentialSlot) (nickname : Option String) (kv : Kv) :
    Except String Key × Kv → Prop where
  | listFailed (e : Platform.WalletError) (hlist : listKeys f kv = .error e) :
    SlotStoreOutcome X f now credential label slot nickname kv
      (.error ("Failed to list keys: " ++ e.display), kv)
  | deleteFailed (keys gone : List Key) (k : Key) (e : Platform.WalletError)
    (hlist : listKeys f kv = .ok keys)
    (hpre : gone ++ [k] <+: slotKeys (placeOf label slot) keys)
    (hgone : ∀ g ∈ gone, f.delete g = none) (hfail : f.delete k = some e) :
    SlotStoreOutcome X f now credential label slot nickname kv
      (.error ("Failed to delete existing credential: " ++ e.display), eraseAll kv gone)
  | storeFailed (keys : List Key) (e : Platform.WalletError) (hlist : listKeys f kv = .ok keys)
    (hgone : ∀ g ∈ slotKeys (placeOf label slot) keys, f.delete g = none)
    (hfail : f.store (newKey X (placeOf label slot) credential) = some e) :
    SlotStoreOutcome X f now credential label slot nickname kv
      (.error ("Failed to store credential: " ++ e.display),
        eraseAll kv (slotKeys (placeOf label slot) keys))
  | stored (keys : List Key) (hlist : listKeys f kv = .ok keys)
    (hgone : ∀ g ∈ slotKeys (placeOf label slot) keys, f.delete g = none)
    (hstore : f.store (newKey X (placeOf label slot) credential) = none) :
    SlotStoreOutcome X f now credential label slot nickname kv
      (.ok (newKey X (placeOf label slot) credential),
        (eraseAll kv (slotKeys (placeOf label slot) keys)).insert
          (newKey X (placeOf label slot) credential)
          (newItem now credential label slot nickname))

/-- **Every slot store ends in one of the four ways.** -/
theorem storeCredentialWithSlot_outcome (X : Crates) (f : Faults) (now : Int64)
    (credential : CredentialV2) (label : Option String) (slot : CredentialSlot)
    (nickname : Option String) (kv : Kv) :
    SlotStoreOutcome X f now credential label slot nickname kv
      (storeCredentialWithSlot X f now credential label slot nickname kv) := by
  have hprefixes : prefixesForSlot (fromLabel label) slot =
      (recordPrefix (placeOf label slot) .cred, recordPrefix (placeOf label slot) .credsec) := rfl
  have hkey : recordPrefix (placeOf label slot) .cred ++ computeBaseId X credential =
      newKey X (placeOf label slot) credential := rfl
  unfold storeCredentialWithSlot
  rw [hprefixes]
  simp only [hkey]
  cases hlist : listKeys f kv with
  | error e => exact .listFailed e hlist
  | ok keys =>
    obtain ⟨gone, hkv, hgone, hres⟩ := deleteSlot_spec f (placeOf label slot) keys kv
    cases hdel : deleteSlot f (recordPrefix (placeOf label slot) .cred)
        (recordPrefix (placeOf label slot) .credsec) keys kv with
    | mk r kv' =>
      rw [hdel] at hkv hres
      simp only at hkv hres
      subst hkv
      simp only [hdel]
      rcases hres with ⟨rfl, rfl⟩ | ⟨k, e, hpre, hfail, rfl⟩
      · simp only [store]
        cases hst : f.store (newKey X (placeOf label slot) credential) with
        | some e => exact .storeFailed keys e hlist hgone hst
        | none => exact .stored keys hlist hgone hst
      · exact .deleteFailed keys gone k e hlist hpre hgone hfail

/-! ## §3. Frames of a slot store -/

theorem inSlot_recordKey (p q : Place) (k : RecordKind) (b : BaseId) :
    inSlot p (recordKey q k b) = decide (p = q) := by
  unfold inSlot
  rw [decide_eq_decide, recordPrefix_isPrefix_iff, recordPrefix_isPrefix_iff]
  cases k <;> simp

theorem inSlot_trustAnchor (p : Place) : inSlot p trustAnchorStorageKey = false := by
  unfold inSlot
  rw [decide_eq_false_iff_not]
  rintro (h | h)
  · exact recordPrefix_not_isPrefix_trustAnchor p .cred h
  · exact recordPrefix_not_isPrefix_trustAnchor p .credsec h

theorem inSlot_newKey (X : Crates) (p : Place) (credential : CredentialV2) :
    inSlot p (newKey X p credential) = true := by
  unfold inSlot newKey
  rw [decide_eq_true_eq]
  exact Or.inl (List.prefix_append _ _)

/-- The base id of a credential, with its alphabet. -/
def baseIdFor (X : Crates) (credential : CredentialV2) : BaseId :=
  ⟨computeBaseId X credential, X.b64.encode_alphabet _⟩

theorem newKey_eq (X : Crates) (p : Place) (credential : CredentialV2) :
    newKey X p credential = recordKey p .cred (baseIdFor X credential) := rfl

theorem mem_slotKeys {f : Faults} {kv : Kv} {keys : List Key} (hlist : listKeys f kv = .ok keys)
    (p : Place) (k : Key) : k ∈ slotKeys p keys ↔ (kv.lookup k).isSome ∧ inSlot p k = true := by
  unfold slotKeys
  rw [List.mem_filter, mem_listKeys hlist]

/-- Erasing a slot's listed keys empties the slot and nothing else. -/
theorem lookup_eraseAll_slotKeys {f : Faults} {kv : Kv} {keys : List Key}
    (hlist : listKeys f kv = .ok keys) (p : Place) (k : Key) :
    (eraseAll kv (slotKeys p keys)).lookup k = if inSlot p k then none else kv.lookup k := by
  rw [lookup_eraseAll]
  cases hk : kv.lookup k with
  | none => simp
  | some item =>
    have hmem : k ∈ slotKeys p keys ↔ inSlot p k = true := by
      rw [mem_slotKeys hlist, hk]
      simp
    by_cases hin : inSlot p k = true
    · rw [if_pos (hmem.2 hin), if_pos hin]
    · rw [if_neg (fun h => hin (hmem.1 h)), if_neg hin]

theorem notMem_of_prefix_slotKeys {p : Place} {keys gone : List Key} {k : Key}
    (hpre : gone <+: slotKeys p keys) (hk : inSlot p k = false) : k ∉ gone := by
  intro h
  have hmem := hpre.subset h
  unfold slotKeys at hmem
  rw [List.mem_filter, hk] at hmem
  exact absurd hmem.2 (by decide)

/-- **A slot store leaves every key outside its slot alone**, whether it
    succeeds or fails. -/
theorem storeCredentialWithSlot_frame (X : Crates) (f : Faults) (now : Int64)
    (credential : CredentialV2) (label : Option String) (slot : CredentialSlot)
    (nickname : Option String) (kv : Kv) (k : Key)
    (hk : inSlot (placeOf label slot) k = false) :
    (storeCredentialWithSlot X f now credential label slot nickname kv).2.lookup k =
      kv.lookup k := by
  have hout := storeCredentialWithSlot_outcome X f now credential label slot nickname kv
  generalize storeCredentialWithSlot X f now credential label slot nickname kv = r at hout ⊢
  cases hout with
  | listFailed e hlist => rfl
  | deleteFailed keys gone j e hlist hpre hgone hfail =>
    have hgone' : gone <+: slotKeys (placeOf label slot) keys :=
      (List.prefix_append gone [j]).trans hpre
    show (eraseAll kv gone).lookup k = kv.lookup k
    rw [lookup_eraseAll, if_neg (notMem_of_prefix_slotKeys hgone' hk)]
  | storeFailed keys e hlist hgone hfail =>
    show (eraseAll kv _).lookup k = kv.lookup k
    rw [lookup_eraseAll_slotKeys hlist, hk]
    rfl
  | stored keys hlist hgone hstore =>
    show ((eraseAll kv _).insert _ _).lookup k = kv.lookup k
    have hne : k ≠ newKey X (placeOf label slot) credential := by
      rintro rfl
      rw [inSlot_newKey] at hk
      exact absurd hk (by decide)
    rw [lookup_insert_of, if_neg hne, lookup_eraseAll_slotKeys hlist, hk]
    rfl

/-- **The key codec and slot isolation.**  For all recognised places `p`
    and `q`, kinds and base ids: keys decode to their place, the public
    prefix strips off, keys of distinct records differ, public keys are
    credential keys and secrets keys are not, the sandbox marker occurs
    exactly in sandbox keys, and a slot's prefix matches only keys of
    that place and kind.  Hence a store into a slot leaves every record
    of every other place, every key outside the slot, and the trust
    anchor's record unchanged. -/
theorem storage_key_codec (p q : Place) (k l : RecordKind) (b c : BaseId) :
    (fromCredentialId (recordKey p .cred b) = (p.ns, p.slot) ∧
      fromCredentialId (recordKey p .credsec b) = (p.ns, p.slot)) ∧
    (recordKey p .cred b).dropPrefix? (prefixesForSlot p.ns p.slot).1 = some b.val ∧
    (recordKey p k b = recordKey q l c ↔ p = q ∧ k = l ∧ b = c) ∧
    (isCredentialKey (recordKey p .cred b) = true ∧
      isCredentialKey (recordKey p .credsec b) = false) ∧
    (sandboxMarker <:+: recordKey p k b ↔ p.ns = .sandbox) ∧
    (recordPrefix p k <+: recordKey q l c ↔ p = q ∧ k = l) ∧
    ∀ (X : Crates) (f : Faults) (now : Int64) (credential : CredentialV2) (label : Option String)
      (slot : CredentialSlot) (nickname : Option String) (kv : Kv),
      let kv' := (storeCredentialWithSlot X f now credential label slot nickname kv).2
      (placeOf label slot = q ∨ kv'.lookup (recordKey q l c) = kv.lookup (recordKey q l c)) ∧
      (∀ key, inSlot (placeOf label slot) key = true ∨ kv'.lookup key = kv.lookup key) ∧
      kv'.lookup trustAnchorStorageKey = kv.lookup trustAnchorStorageKey := by
  refine ⟨⟨fromCredentialId_recordKey p _ b, fromCredentialId_recordKey p _ b⟩,
    dropPrefix_recordKey p .cred b, recordKey_inj p q k l b c,
    ⟨isCredentialKey_recordKey p .cred b, isCredentialKey_recordKey p .credsec b⟩,
    sandboxMarker_recordKey p k b, recordPrefix_isPrefix_iff p q k l c, ?_⟩
  intro X f now credential label slot nickname kv
  refine ⟨?_, ?_, ?_⟩
  · -- a record of another place is outside the slot
    by_cases hq : placeOf label slot = q
    · exact Or.inl hq
    · refine Or.inr (storeCredentialWithSlot_frame X f now credential label slot nickname kv _ ?_)
      rw [inSlot_recordKey, decide_eq_false_iff_not]
      exact hq
  · intro key
    cases hin : inSlot (placeOf label slot) key with
    | true => exact Or.inl rfl
    | false =>
      exact Or.inr (storeCredentialWithSlot_frame X f now credential label slot nickname kv _ hin)
  · exact storeCredentialWithSlot_frame X f now credential label slot nickname kv _
      (inSlot_trustAnchor _)

/-- On a healthy backend a slot store succeeds: the slot then holds the
    new public record only, and every other key is as it was. -/
theorem storeCredentialWithSlot_healthy (X : Crates) (f : Faults) (hf : f.Healthy) (now : Int64)
    (credential : CredentialV2) (label : Option String) (slot : CredentialSlot)
    (nickname : Option String) (kv : Kv) :
    ∃ kv', storeCredentialWithSlot X f now credential label slot nickname kv =
        (.ok (newKey X (placeOf label slot) credential), kv') ∧
      ∀ k, kv'.lookup k =
        if k = newKey X (placeOf label slot) credential then
          some (newItem now credential label slot nickname)
        else if inSlot (placeOf label slot) k then none
        else kv.lookup k := by
  have hout := storeCredentialWithSlot_outcome X f now credential label slot nickname kv
  generalize storeCredentialWithSlot X f now credential label slot nickname kv = r at hout
  cases hout with
  | listFailed e hlist =>
    rw [listKeys_healthy hf] at hlist
    cases hlist
  | deleteFailed keys gone k e hlist hpre hgone hfail =>
    rw [hf.delete] at hfail
    cases hfail
  | storeFailed keys e hlist hgone hfail =>
    rw [hf.store] at hfail
    cases hfail
  | stored keys hlist hgone hstore =>
    refine ⟨_, rfl, fun k => ?_⟩
    rw [lookup_insert_of, lookup_eraseAll_slotKeys hlist]

/-! ## §4. Secrets writes and deletes -/

/-- The ways a secrets store can end. -/
theorem storeCredentialSecrets_outcome (f : Faults) (credId : Key) (secrets : CredentialSecrets)
    (kv : Kv) :
    (∃ e, f.store (secretsKeyOf credId) = some e ∧
      storeCredentialSecrets f credId secrets kv =
        (.error ("Failed to store secrets: " ++ e.display), kv)) ∨
    (f.store (secretsKeyOf credId) = none ∧
      storeCredentialSecrets f credId secrets kv =
        (.ok (), kv.insert (secretsKeyOf credId)
          ⟨encodeSecrets secrets, BiometricRequirement.forCredentialSecrets⟩)) := by
  unfold storeCredentialSecrets store
  cases hst : f.store (secretsKeyOf credId) with
  | some e => exact Or.inl ⟨e, rfl, rfl⟩
  | none => exact Or.inr ⟨rfl, rfl⟩

/-- The ways a credential delete can end; when the second delete fails
    the secrets stay and the call still succeeds. -/
theorem deleteCredential_outcome (f : Faults) (credentialId : Key) (kv : Kv) :
    (∃ e, f.delete credentialId = some e ∧
      deleteCredential f credentialId kv =
        (.error ("Failed to delete credential: " ++ e.display), kv)) ∨
    (f.delete credentialId = none ∧ f.delete (secretsKeyOf credentialId) ≠ none ∧
      deleteCredential f credentialId kv = (.ok (), kv.erase credentialId)) ∨
    (f.delete credentialId = none ∧ f.delete (secretsKeyOf credentialId) = none ∧
      deleteCredential f credentialId kv =
        (.ok (), (kv.erase credentialId).erase (secretsKeyOf credentialId))) := by
  unfold deleteCredential
  cases hpub : f.delete credentialId with
  | some e => exact Or.inl ⟨e, rfl, by simp [delete, hpub]⟩
  | none =>
    rw [delete_eq_ok f kv _ hpub]
    cases hsec : f.delete (secretsKeyOf credentialId) with
    | some e => exact Or.inr (Or.inl ⟨rfl, by simp, by simp [delete, hsec]⟩)
    | none => exact Or.inr (Or.inr ⟨rfl, rfl, by simp [delete, hsec]⟩)

/-- The namespace sweep erases exactly the matching keys whose delete
    succeeds, and counts them. -/
theorem deleteMatching_spec (f : Faults) (ns : CredentialNamespace) (keys : List Key) (n : Nat)
    (kv : Kv) :
    deleteMatching f ns keys n kv =
      (n + (keys.filter fun k => inNamespace ns k && (f.delete k).isNone).length,
        eraseAll kv (keys.filter fun k => inNamespace ns k && (f.delete k).isNone)) := by
  induction keys generalizing n kv with
  | nil => rfl
  | cons key keys ih =>
    unfold deleteMatching
    by_cases hin : inNamespace ns key = true
    · rw [if_pos hin]
      cases hdel : f.delete key with
      | some e =>
        have herr : delete f kv key = .error e := by simp [delete, hdel]
        rw [herr]
        simp only [ih]
        simp [hin, hdel]
      | none =>
        rw [delete_eq_ok f kv key hdel]
        simp only [ih]
        simp [hin, hdel]
        omega
    · rw [if_neg hin, ih]
      simp [hin]

/-- The ways a nickname update can end: nothing changes, or the record
    that was read is written back with the nickname. -/
theorem updateCredentialNickname_outcome (X : Crates) (f : Faults) (id : Key)
    (nickname : Option String) (kv : Kv) :
    ((f.retrieve id ≠ none ∨ f.store id ≠ none ∨
        ∀ item, kv.lookup id = some item → decodeStored item.data = none) ∧
      (updateCredentialNickname X f id nickname kv).2 = kv) ∨
    ∃ item stored, f.retrieve id = none ∧ f.store id = none ∧ kv.lookup id = some item ∧
      decodeStored item.data = some stored ∧
      (updateCredentialNickname X f id nickname kv).2 =
        kv.insert id
          ⟨encodeStored { stored with metadata := { stored.metadata with nickname } }, .none⟩ := by
  unfold updateCredentialNickname retrieve store
  cases hret : f.retrieve id with
  | some e => exact Or.inl ⟨Or.inl (Option.some_ne_none e), rfl⟩
  | none =>
    cases hitem : kv.lookup id with
    | none =>
      refine Or.inl ⟨Or.inr (Or.inr fun item h => ?_), rfl⟩
      cases h
    | some item =>
      simp only
      cases hdecode : decodeStored item.data with
      | none =>
        refine Or.inl ⟨Or.inr (Or.inr fun item' h => ?_), rfl⟩
        injection h with h
        rw [← h]
        exact hdecode
      | some stored =>
        cases hst : f.store id with
        | some e => exact Or.inl ⟨Or.inr (Or.inl (Option.some_ne_none e)), rfl⟩
        | none => exact Or.inr ⟨item, stored, trivial, rfl, rfl, hdecode, rfl⟩

/-! ## §5. Managed indices -/

/-- No stored public record of the namespace occupies the index. -/
def IndexFree (ns : CredentialNamespace) (kv : Kv) (i : UInt8) : Prop :=
  ∀ k, kv.lookup k ≠ none → occupiedIndex (managedCredPrefix ns) k ≠ some i

/-- The first free index depends on which keys are listed, not on their
    order. -/
theorem firstFreeIndex_congr (managedPrefix : Key) {ks ks' : List Key}
    (h : ∀ k, k ∈ ks ↔ k ∈ ks') :
    firstFreeIndex managedPrefix ks = firstFreeIndex managedPrefix ks' := by
  unfold firstFreeIndex
  congr 1
  funext i
  rw [Bool.not_inj_iff, Bool.eq_iff_iff, List.any_eq_true, List.any_eq_true]
  constructor
  · rintro ⟨k, hk, hi⟩
    exact ⟨k, (h k).1 hk, hi⟩
  · rintro ⟨k, hk, hi⟩
    exact ⟨k, (h k).2 hk, hi⟩

/-- On a healthy backend the next index does not depend on the listing
    order. -/
theorem nextAvailableManagedIndex_congr {f f' : Faults} (hf : f.Healthy) (hf' : f'.Healthy)
    (ns : CredentialNamespace) (kv : Kv) :
    nextAvailableManagedIndex f ns kv = nextAvailableManagedIndex f' ns kv := by
  have hl := listKeys_healthy hf kv
  have hl' := listKeys_healthy hf' kv
  have hmem : ∀ k, k ∈ f.listing.order kv.keys ↔ k ∈ f'.listing.order kv.keys := fun k => by
    rw [mem_listKeys hl, mem_listKeys hl']
  unfold nextAvailableManagedIndex
  rw [hl, hl']
  simp only [firstFreeIndex_congr (managedCredPrefix ns) hmem]

/-- The next index is a free one. -/
theorem indexFree_of_nextAvailable {f : Faults} {ns : CredentialNamespace} {kv : Kv} {i : UInt8}
    (h : nextAvailableManagedIndex f ns kv = .ok i) : IndexFree ns kv i := by
  unfold nextAvailableManagedIndex at h
  cases hl : listKeys f kv with
  | error e => rw [hl] at h; cases h
  | ok keys =>
    rw [hl] at h
    simp only at h
    cases hfree : firstFreeIndex (managedCredPrefix ns) keys with
    | none => rw [hfree] at h; cases h
    | some j =>
      rw [hfree] at h
      injection h with h
      subst h
      intro k hk hocc
      have hj := List.find?_some hfree
      rw [Bool.not_eq_true', List.any_eq_false] at hj
      refine hj k ((mem_listKeys hl k).2 (Option.isSome_iff_ne_none.2 hk)) ?_
      rw [hocc]
      exact beq_self_eq_true _

/-- The first free index among the listed keys is the smallest one below
    the limit, if there is one. -/
theorem firstFreeIndex_spec (managedPrefix : Key) (keys : List Key) :
    (∃ i, firstFreeIndex managedPrefix keys = some i ∧ i < maxManagedSlots ∧
      (∀ k ∈ keys, occupiedIndex managedPrefix k ≠ some i) ∧
      ∀ j < i, ∃ k ∈ keys, occupiedIndex managedPrefix k = some j) ∨
    (firstFreeIndex managedPrefix keys = none ∧
      ∀ j < maxManagedSlots, ∃ k ∈ keys, occupiedIndex managedPrefix k = some j) := by
  -- an index is passed over when some key occupies it
  have htaken : ∀ j : Nat, (!keys.any fun key =>
      occupiedIndex managedPrefix key == some (UInt8.ofNat j)) = false →
      ∃ k ∈ keys, occupiedIndex managedPrefix k = some (UInt8.ofNat j) := by
    intro j h
    rw [Bool.not_eq_false', List.any_eq_true] at h
    obtain ⟨k, hk, hocc⟩ := h
    exact ⟨k, hk, eq_of_beq hocc⟩
  have hback : ∀ j : UInt8, UInt8.ofNat j.toNat = j := fun j => UInt8.ofNat_toNat
  unfold firstFreeIndex
  rw [List.find?_map]
  cases hfind : (List.range maxManagedSlots.toNat).find? ((fun i =>
      !keys.any fun key => occupiedIndex managedPrefix key == some i) ∘ UInt8.ofNat) with
  | some n =>
    obtain ⟨hfree, hmem, hbefore⟩ := List.find?_range_eq_some.1 hfind
    have hlt : n < maxManagedSlots.toNat := List.mem_range.1 hmem
    have hlt15 : n < 15 := hlt
    have hn : (UInt8.ofNat n).toNat = n := by
      rw [UInt8.toNat_ofNat']
      omega
    refine Or.inl ⟨UInt8.ofNat n, rfl, ?_, ?_, ?_⟩
    · rw [UInt8.lt_iff_toNat_lt, hn]
      exact hlt
    · intro k hk hocc
      rw [Function.comp_apply, Bool.not_eq_true', List.any_eq_false] at hfree
      refine hfree k hk ?_
      rw [hocc]
      exact beq_self_eq_true _
    · intro j hj
      rw [UInt8.lt_iff_toNat_lt, hn] at hj
      have htj := htaken j.toNat (by simpa using hbefore j.toNat hj)
      rw [hback] at htj
      exact htj
  | none =>
    refine Or.inr ⟨rfl, fun j hj => ?_⟩
    have hall := List.find?_range_eq_none.1 hfind j.toNat (UInt8.lt_iff_toNat_lt.1 hj)
    have htj := htaken j.toNat (by simpa using hall)
    rw [hback] at htj
    exact htj

/-- **The next managed index**, on a healthy backend: the smallest index
    below the limit that no stored public record of the namespace
    occupies, and an error exactly when there is none. -/
theorem nextAvailableManagedIndex_spec {f : Faults} (hf : f.Healthy) (ns : CredentialNamespace)
    (kv : Kv) :
    (∃ i, nextAvailableManagedIndex f ns kv = .ok i ∧ i < maxManagedSlots ∧ IndexFree ns kv i ∧
      ∀ j < i, ¬ IndexFree ns kv j) ∨
    (nextAvailableManagedIndex f ns kv = .error "All 15 managed credential slots are full" ∧
      ∀ j < maxManagedSlots, ¬ IndexFree ns kv j) := by
  have hl := listKeys_healthy hf kv
  have hmem : ∀ k, k ∈ f.listing.order kv.keys ↔ kv.lookup k ≠ none := fun k => by
    rw [mem_listKeys hl, Option.isSome_iff_ne_none]
  -- an index some listed key occupies is not free
  have htaken : ∀ j, (∃ k ∈ f.listing.order kv.keys,
      occupiedIndex (managedCredPrefix ns) k = some j) → ¬ IndexFree ns kv j := by
    rintro j ⟨k, hk, hocc⟩ hfree
    exact hfree k ((hmem k).1 hk) hocc
  unfold nextAvailableManagedIndex
  rw [hl]
  rcases firstFreeIndex_spec (managedCredPrefix ns) (f.listing.order kv.keys) with
    ⟨i, hi, hlt, hfree, hbelow⟩ | ⟨hnone, hall⟩
  · simp only [hi]
    exact Or.inl ⟨i, rfl, hlt, fun k hk => hfree k ((hmem k).2 hk), fun j hj => htaken j (hbelow j hj)⟩
  · simp only [hnone]
    exact Or.inr ⟨trivial, fun j hj => htaken j (hall j hj)⟩

theorem managedCredPrefix_eq (p : Place) :
    managedCredPrefix p.ns = stem p.ns.isSandbox true .cred := by
  obtain ⟨ns, slot, known⟩ := p
  cases ns with
  | unknown => exact absurd rfl known
  | primary => rfl
  | sandbox => rfl

/-- The public record of a managed slot occupies its index. -/
theorem occupiedIndex_cred (p : Place) (i : UInt8) (b : BaseId) (hslot : p.slot = .managed i) :
    occupiedIndex (managedCredPrefix p.ns) (recordKey p .cred b) = some i := by
  unfold occupiedIndex
  rw [managedCredPrefix_eq, if_pos ((stem_isPrefix_recordKey ..).2 ⟨rfl, by rw [hslot]; rfl, rfl⟩),
    recordKey_eq, hslot]
  show parseU8 (firstField '.' (((stem p.ns.isSandbox true .cred ++
    ((decimal i.toNat ++ ['.']) ++ b.val)).dropPrefix? _).getD _)) = some i
  rw [dropPrefix?_append, Option.getD_some, List.append_assoc, List.singleton_append,
    firstField_append_sep '.' _ _ (notMem_decimal _ _ (by decide)), parseU8_decimal]

/-! ## §6. Listed credentials -/

/-- No secrets key is a public one, whatever id it is made from. -/
theorem isCredentialKey_secretsKeyOf (credId : Key) : isCredentialKey (secretsKeyOf credId) = false := by
  have hpre : ∃ p ∈ allCredsecPrefixes, p <+: secretsKeyOf credId := by
    unfold secretsKeyOf
    rcases fromCredentialId credId with ⟨ns, slot⟩
    cases ns <;> cases slot
    · exact ⟨primaryCredsecPrimaryPrefix, by decide, List.prefix_append _ _⟩
    · refine ⟨primaryCredsecManagedPrefix, by decide, ?_⟩
      exact (List.prefix_append _ _).trans (List.prefix_append _ _)
    · exact ⟨sandboxCredsecPrimaryPrefix, by decide, List.prefix_append _ _⟩
    · refine ⟨sandboxCredsecManagedPrefix, by decide, ?_⟩
      exact (List.prefix_append _ _).trans (List.prefix_append _ _)
    · exact ⟨primaryCredsecPrimaryPrefix, by decide, List.prefix_append _ _⟩
    · refine ⟨primaryCredsecManagedPrefix, by decide, ?_⟩
      exact (List.prefix_append _ _).trans (List.prefix_append _ _)
  obtain ⟨p, hp, hprefix⟩ := hpre
  have hany : allCredsecPrefixes.any (fun p => decide (p <+: secretsKeyOf credId)) = true :=
    List.any_eq_true.2 ⟨p, hp, decide_eq_true hprefix⟩
  unfold isCredentialKey
  split
  · rw [hany]
    rfl
  · rfl

/-- A listed credential has its key as its id, and the key is a public
    one. -/
theorem listEntry_eq_some {f : Faults} {clock : Key → Int64} {kv : Kv} {key : Key}
    {info : CredentialInfo} (h : listEntry f clock kv key = some info) :
    info.id = key ∧ isCredentialKey key = true := by
  unfold listEntry at h
  split at h
  next hkey =>
    split at h
    · cases h
    · obtain ⟨stored, -, hinfo⟩ := Option.map_eq_some_iff.1 h
      rw [← hinfo]
      exact ⟨rfl, hkey⟩
  next => cases h

/-- A record is decoded in one way. -/
theorem decoded_unique {α : Type} {decode : Bytes → Option α} {kv : Kv} {key : Key}
    {item item' : Item} {a a' : α} (hitem : kv.lookup key = some item)
    (ha : decode item.data = some a) (hitem' : kv.lookup key = some item')
    (ha' : decode item'.data = some a') : a = a' := by
  rw [hitem] at hitem'
  injection hitem' with hitem'
  rw [← hitem', ha] at ha'
  injection ha'

/-- A listed credential is the one of the record under its id, and its
    expiry is judged by the clock reading for that id. -/
theorem listEntry_record {f : Faults} {clock : Key → Int64} {kv : Kv} {key : Key}
    {info : CredentialInfo} (h : listEntry f clock kv key = some info) :
    ∃ item stored, kv.lookup key = some item ∧ decodeStored item.data = some stored ∧
      info.isExpired = decide (stored.credential.exp < nowSecs (clock key)) := by
  unfold listEntry at h
  split at h
  · cases hret : retrieve f kv key with
    | error e =>
      rw [hret] at h
      cases h
    | ok data =>
      rw [hret] at h
      obtain ⟨item, hitem, hdata⟩ := retrieve_eq_ok hret
      obtain ⟨stored, hstored, hinfo⟩ := Option.map_eq_some_iff.1 h
      refine ⟨item, stored, hitem, hdata ▸ hstored, ?_⟩
      rw [← hinfo]
      rfl
  · cases h

/-- Every entry of a listing comes from one key. -/
theorem listEntry_of_listCredentials {f : Faults} {clock : Key → Int64} {kv : Kv}
    {infos : List CredentialInfo} (h : listCredentials f clock kv = .ok infos) :
    ∀ info ∈ infos, listEntry f clock kv info.id = some info := by
  unfold listCredentials at h
  cases hl : listKeys f kv with
  | error e =>
    rw [hl] at h
    cases h
  | ok keys =>
    rw [hl] at h
    injection h with h
    intro info hinfo
    rw [← h] at hinfo
    obtain ⟨key, -, hentry⟩ := List.mem_filterMap.1 hinfo
    rw [(listEntry_eq_some hentry).1]
    exact hentry

/-- So every id of a listing is a public key. -/
theorem isCredentialKey_of_listCredentials {f : Faults} {clock : Key → Int64} {kv : Kv}
    {infos : List CredentialInfo} (h : listCredentials f clock kv = .ok infos) :
    ∀ info ∈ infos, isCredentialKey info.id = true := by
  intro info hinfo
  exact (listEntry_eq_some (listEntry_of_listCredentials h info hinfo)).2

end ProviiSdk.Ffi
