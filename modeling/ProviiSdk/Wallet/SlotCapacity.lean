/-
  ProviiSdk.Wallet.SlotCapacity — the slots a namespace has left.

  The wallet counts the slots that are left from the types in the listed
  records, and with a limit of its own; an import finds its slot from the
  names of the stored keys.  This file sets the count beside the number
  of imports that get a slot, in every store that imports, deletions and
  updates can leave, whatever the backend answers on the way.

  Main results:
    * `slotted_step` — stored keys are records' keys, one public record a
      place, and each says the type of its slot.
    * `getAvailableSlotCount_eq` — what the count comes to.
    * `isCapacity_of_recordKeys` — how many imports get a slot.
    * `capacity_reported_iff` — when the two agree.
-/

import Mathlib.Data.Finset.Card
import Mathlib.Data.Finset.Range
import ProviiSdk.Wallet.ForeignRecords
import ProviiSdk.Wallet.Sample

namespace ProviiSdk.Wallet

open ProviiSdk.Core ProviiSdk.Platform ProviiSdk.Ffi ProviiSdk.Run
open ProviiSdk.Wire (Codec)

/-! ## §1. The count -/

/-- `u8::try_from` of a length, or the largest `u8`. -/
def toU8 (n : Nat) : UInt8 := if n < UInt8.size then UInt8.ofNat n else UInt8.ofNat (UInt8.size - 1)

/-- `saturating_sub` and `saturating_add` on `u8`. -/
def saturatingSub (a b : UInt8) : UInt8 := if b ≤ a then a - b else 0

def saturatingAdd (a b : UInt8) : UInt8 := toU8 (a.toNat + b.toNat)

/-- The count from the listed credentials of the environment. -/
def availableSlots (namespaceCreds : List CredentialInfo) : UInt8 :=
  let hasPrimary := namespaceCreds.any fun c => c.credentialType == "primary"
  let managedCount := toU8 (namespaceCreds.filter fun c => c.credentialType == "managed").length
  let availablePrimary : UInt8 := if hasPrimary then 0 else 1
  -- the limit is written out here, and is not `maxManagedSlots`
  let availableManaged := saturatingSub 5 managedCount
  saturatingAdd availablePrimary availableManaged

/-- The number of slots left in the configured environment. -/
def getAvailableSlotCount (f : Faults) (clock : Key → Int64) (config : WalletConfig) (s : Storage) :
    Except FfiError UInt8 :=
  match s.read (listCredentials f clock) with
  | .error e => .error (.storage e)
  | .ok credentials => .ok (availableSlots (credentials.filter fun c => inEnvironment config c.id))

/-- The namespace of the configured environment. -/
def configuredNamespace (config : WalletConfig) : CredentialNamespace :=
  fromLabel (some config.environment)

theorem configuredNamespace_eq (config : WalletConfig) :
    configuredNamespace config = if isSandbox config then .sandbox else .primary := rfl

theorem configuredNamespace_known (config : WalletConfig) :
    configuredNamespace config ≠ .unknown := by
  rw [configuredNamespace_eq]
  split <;> decide

/-! ## §2. Stores kept in slots -/

/-- The type a record of a slot is written with. -/
def slotType : CredentialSlot → String
  | .primary => "primary"
  | .managed _ => "managed"

/-- A record as the wallet writes it into a slot. -/
def WrittenFor (slot : CredentialSlot) (item : Item) : Prop :=
  ∃ stored, item.data = encodeStored stored ∧ stored.Fits ∧
    stored.metadata.credentialType = slotType slot

/-- What holds of the store whatever the backend answered: the keys are
    records', a place has one public record at most, and a public record
    says the type of its slot. -/
structure Slotted (kv : Kv) : Prop where
  keys : RecordKeys kv
  one : ∀ p b b', kv.lookup (recordKey p .cred b) ≠ none → kv.lookup (recordKey p .cred b') ≠ none →
    b = b'
  typed : ∀ p b item, kv.lookup (recordKey p .cred b) = some item → WrittenFor p.slot item

theorem slotted_empty : Slotted ∅ := by
  refine ⟨fun k h => ?_, fun p b b' h => ?_, fun p b item h => ?_⟩
  · exact absurd (AList.lookup_empty k) h
  · exact absurd (AList.lookup_empty _) h
  · rw [AList.lookup_empty] at h
    cases h

/-- Erasing keys keeps a store in slots. -/
theorem slotted_erases {gone : Key → Prop} {kv kv' : Kv} (h : Slotted kv)
    (herase : Erases gone kv kv') : Slotted kv' := by
  -- what is left was there
  have hleft : ∀ k item, kv'.lookup k = some item → kv.lookup k = some item := by
    intro k item hk
    by_cases hgone : gone k
    · rw [(herase k).1 hgone] at hk
      cases hk
    · rw [← (herase k).2 hgone]
      exact hk
  have hsome : ∀ k, kv'.lookup k ≠ none → kv.lookup k ≠ none := by
    intro k hk
    obtain ⟨item, hitem⟩ := Option.ne_none_iff_exists'.1 hk
    rw [hleft k item hitem]
    exact Option.some_ne_none item
  exact ⟨fun k hk => h.keys k (hsome k hk),
    fun p b b' hb hb' => h.one p b b' (hsome _ hb) (hsome _ hb'),
    fun p b item hb => h.typed p b item (hleft _ item hb)⟩

/-- Writing a secrets record keeps a store in slots. -/
theorem slotted_insert_secrets {kv : Kv} (h : Slotted kv) (p : Place) (hp : UsablePlace p)
    (b : BaseId) (item : Item) : Slotted (kv.insert (recordKey p .credsec b) item) := by
  have hpublic : ∀ q c, (kv.insert (recordKey p .credsec b) item).lookup (recordKey q .cred c) =
      kv.lookup (recordKey q .cred c) := by
    intro q c
    rw [lookup_insert_of, if_neg]
    intro hsame
    exact absurd ((recordKey_inj ..).1 hsame).2.1 (by decide)
  refine ⟨fun k hk => ?_, fun q c c' hc hc' => ?_, fun q c item' hc => ?_⟩
  · rw [lookup_insert_of] at hk
    split at hk
    next hkey => exact ⟨p, .credsec, b, hkey, hp⟩
    next => exact h.keys k hk
  · rw [hpublic] at hc hc'
    exact h.one q c c' hc hc'
  · rw [hpublic] at hc
    exact h.typed q c item' hc

/-- Writing a public record keeps a store in slots, if the place has no
    other one. -/
theorem slotted_insert_public {kv : Kv} (h : Slotted kv) (p : Place) (hp : UsablePlace p)
    (b : BaseId) (item : Item) (hitem : WrittenFor p.slot item)
    (halone : ∀ c, kv.lookup (recordKey p .cred c) ≠ none → c = b) :
    Slotted (kv.insert (recordKey p .cred b) item) := by
  have hlook : ∀ q c, (kv.insert (recordKey p .cred b) item).lookup (recordKey q .cred c) ≠ none →
      (q = p ∧ c = b) ∨ kv.lookup (recordKey q .cred c) ≠ none := by
    intro q c hc
    rw [lookup_insert_of] at hc
    split at hc
    next hkey =>
      obtain ⟨hq, -, hcb⟩ := (recordKey_inj ..).1 hkey
      exact Or.inl ⟨hq, hcb⟩
    next => exact Or.inr hc
  -- a public record of the place is the new one
  have hown : ∀ c, (kv.insert (recordKey p .cred b) item).lookup (recordKey p .cred c) ≠ none →
      c = b := by
    intro c hc
    rcases hlook p c hc with ⟨-, hcb⟩ | hold
    · exact hcb
    · exact halone c hold
  refine ⟨fun k hk => ?_, fun q c c' hc hc' => ?_, fun q c item' hc => ?_⟩
  · rw [lookup_insert_of] at hk
    split at hk
    next hkey => exact ⟨p, .cred, b, hkey, hp⟩
    next => exact h.keys k hk
  · by_cases hq : q = p
    · subst hq
      rw [hown c hc, hown c' hc']
    · rcases hlook q c hc with ⟨hqp, -⟩ | hold
      · exact absurd hqp hq
      · rcases hlook q c' hc' with ⟨hqp, -⟩ | hold'
        · exact absurd hqp hq
        · exact h.one q c c' hold hold'
  · rw [lookup_insert_of] at hc
    split at hc
    next hkey =>
      obtain ⟨hq, -, -⟩ := (recordKey_inj ..).1 hkey
      injection hc with hc
      rw [hq, ← hc]
      exact hitem
    next => exact h.typed q c item' hc

/-! ## §3. Every operation keeps a store in slots -/

/-- The texts of an operation are no longer than a Rust string can be. -/
def SlotOp.TextsFit (X : Crates) : SlotOp → Prop
  | .importCall call anchor _ => call.TextsFit X anchor
  | .updateCredentialNickname _ _ nickname => ∀ n ∈ nickname, Codec.string.fits n
  | _ => True

/-- A store into a slot keeps a store in slots, whether it succeeds or
    fails. -/
theorem slotted_storeCredentialWithSlot {kv : Kv} (h : Slotted kv) (X : Crates) (f : Faults)
    (now : Int64) (credential : CredentialV2) (label : Option String) (slot : CredentialSlot)
    (nickname : Option String) (hp : UsablePlace (placeOf label slot))
    (hfits : (storedRecord now credential label slot nickname).Fits) :
    Slotted (storeCredentialWithSlot X f now credential label slot nickname kv).2 := by
  have hout := storeCredentialWithSlot_outcome X f now credential label slot nickname kv
  generalize storeCredentialWithSlot X f now credential label slot nickname kv = r at hout ⊢
  have herased : ∀ ks, Slotted (eraseAll kv ks) := by
    intro ks
    have herase : Erases (fun k => k ∈ ks) kv (eraseAll kv ks) := erases_eraseAll fun _ => Iff.rfl
    exact slotted_erases h herase
  cases hout with
  | listFailed e hlist => exact h
  | deleteFailed keys gone k e hlist hpre hgone hfail => exact herased gone
  | storeFailed keys e hlist hgone hfail => exact herased _
  | stored keys hlist hgone hstore =>
    refine slotted_insert_public (herased _) (placeOf label slot) hp (baseIdFor X credential) _ ?_ ?_
    · refine ⟨_, rfl, hfits, ?_⟩
      cases slot <;> rfl
    · -- the slot has just been emptied
      intro c hc
      rw [lookup_eraseAll_slotKeys hlist, inSlot_recordKey, decide_eq_true rfl, if_pos rfl] at hc
      exact absurd rfl hc

/-- An import keeps a store in slots, whatever fails. -/
theorem slotted_import {kv : Kv} (h : Slotted kv) (X : Crates) (fs : ImportFaults)
    (anchor : Option IssuerTrustAnchor) (call : ImportCall) (hfit : call.TextsFit X anchor) :
    ∃ kv', (call.run X fs ⟨⟨some kv⟩, anchor⟩).2 = ⟨some kv'⟩ ∧ Slotted kv' := by
  rw [ImportCall.run_eq]
  unfold ImportCall.stages
  cases hres : call.resolve fs.resolve ⟨some kv⟩ with
  | error e => exact ⟨kv, rfl, h⟩
  | ok slot =>
    cases hprep : call.prepare X anchor with
    | error e => exact ⟨kv, rfl, h⟩
    | ok r =>
      obtain ⟨credential, secrets⟩ := r
      obtain ⟨full, himp, rfl⟩ := prepare_imported hprep
      obtain ⟨hkid, hschema⟩ := hfit.imported full himp
      have hp := usablePlace_of_resolve hres
      have hstored := slotted_storeCredentialWithSlot h X fs.store fs.now (redacted full) call.label
        slot call.nickname hp
        (storedRecord_fits fs.now (redacted full) call.label slot call.nickname hkid hschema
          hfit.label hfit.nickname)
      have hid := @storeCredentialWithSlot_id X fs.store fs.now (redacted full) call.label slot
        call.nickname kv
      show ∃ kv', (storeWithSecrets X fs ⟨some kv⟩ (redacted full) call.label slot call.nickname
        secrets).2 = ⟨some kv'⟩ ∧ Slotted kv'
      unfold storeWithSecrets
      rw [call_some]
      generalize storeCredentialWithSlot X fs.store fs.now (redacted full) call.label slot
        call.nickname kv = w at hstored hid ⊢
      obtain ⟨res, kv₁⟩ := w
      cases res with
      | error msg => exact ⟨kv₁, rfl, hstored⟩
      | ok credId =>
        cases secrets with
        | none => exact ⟨kv₁, rfl, hstored⟩
        | some secrets =>
          simp only [call_some]
          rcases storeCredentialSecrets_outcome fs.secrets credId secrets kv₁ with
            ⟨e, -, heq⟩ | ⟨-, heq⟩
          · rw [heq]
            exact ⟨kv₁, rfl, hstored⟩
          · rw [heq, hid rfl, secretsKeyOf_recordKey]
            exact ⟨_, rfl, slotted_insert_secrets hstored _ hp _ _⟩

/-- A nickname update keeps a store in slots. -/
theorem slotted_nickname {kv : Kv} (h : Slotted kv) (X : Crates) (f : Faults) (id : Key)
    (nickname : Option String) (hnick : ∀ n ∈ nickname, Codec.string.fits n) :
    Slotted (Ffi.updateCredentialNickname X f id nickname kv).2 := by
  rcases updateCredentialNickname_outcome X f id nickname kv with
    ⟨-, hsame⟩ | ⟨item, stored, -, -, hitem, hdecode, hwritten⟩
  · rw [hsame]
    exact h
  · rw [hwritten]
    have hsome : kv.lookup id ≠ none := by
      rw [hitem]
      exact Option.some_ne_none item
    obtain ⟨p, kind, b, hkey, hp⟩ := h.keys id hsome
    subst hkey
    cases kind with
    | credsec => exact slotted_insert_secrets h p hp b _
    | cred =>
      refine slotted_insert_public h p hp b _ ?_ fun c hc => h.one p c b hc hsome
      -- the record that was read is one the wallet wrote
      obtain ⟨old, hdata, hfits, htype⟩ := h.typed p b item hitem
      rw [hdata, decodeStored_encodeStored old hfits] at hdecode
      injection hdecode with hdecode
      rw [← hdecode]
      refine ⟨_, rfl, ?_, htype⟩
      obtain ⟨hkid, hschema, hlabel, hctype, -⟩ := (StoredCredential.fits_iff old).1 hfits
      exact (StoredCredential.fits_iff _).2 ⟨hkid, hschema, hlabel, hctype, hnick⟩

/-- The invariant of a run: a backend is attached, and it is kept in
    slots. -/
def SlottedStore (s : Storage) : Prop := ∃ kv, s = ⟨some kv⟩ ∧ Slotted kv

/-- **One step**: every operation keeps a store in slots, whatever the
    backend answers. -/
theorem slotted_step (X : Crates) (s : Storage) (op : SlotOp) (hs : SlottedStore s)
    (hop : op.TextsFit X) : SlottedStore (storageAfter X s op) := by
  obtain ⟨kv, rfl, h⟩ := hs
  cases op with
  | importCall call anchor fs => exact slotted_import h X fs anchor call hop
  | deleteCredential f id =>
    exact ⟨_, deleteCredentialById_storage f kv id, slotted_erases h (deleteCredential_erases f id kv)⟩
  | deleteSandbox f =>
    exact ⟨_, deleteSandbox_storage f kv, slotted_erases h (deleteSandboxCredentials_erases f kv)⟩
  | updateCredentialNickname f id nickname =>
    exact ⟨_, updateCredentialNickname_storage X f kv id nickname,
      slotted_nickname h X f id nickname hop⟩
  | cleanupExpiredCredentials f clock fd =>
    obtain ⟨kv', hrun, herase⟩ := cleanupExpiredCredentials_erases f clock fd kv
    exact ⟨kv', hrun, slotted_erases h herase⟩

/-! ## §4. What the count comes to -/

/-- The managed indices that stored public records of a namespace
    occupy. -/
def takenIndices (ns : CredentialNamespace) (kv : Kv) : Finset UInt8 :=
  (kv.keys.filterMap (occupiedIndex (managedCredPrefix ns))).toFinset

/-- Is a public record in a namespace's primary slot? -/
def primaryTaken (ns : CredentialNamespace) (kv : Kv) : Bool :=
  kv.keys.any fun k => decide ((prefixesForSlot ns .primary).1 <+: k)

/-- The managed indices below the limit. -/
def allIndices : Finset UInt8 := (Finset.range maxManagedSlots.toNat).image UInt8.ofNat

theorem card_allIndices : allIndices.card = maxManagedSlots.toNat := by decide

theorem mem_allIndices_iff (i : UInt8) : i ∈ allIndices ↔ i < maxManagedSlots := by
  unfold allIndices
  rw [Finset.mem_image, UInt8.lt_iff_toNat_lt]
  constructor
  · rintro ⟨n, hn, rfl⟩
    have hn15 : n < 15 := Finset.mem_range.1 hn
    rw [UInt8.toNat_ofNat']
    show n % 2 ^ 8 < 15
    omega
  · intro h
    exact ⟨i.toNat, Finset.mem_range.2 h, UInt8.ofNat_toNat⟩

theorem mem_keys_iff (kv : Kv) (k : Key) : k ∈ kv.keys ↔ kv.lookup k ≠ none := by
  rw [← Option.isSome_iff_ne_none, AList.lookup_isSome, AList.mem_keys]

/-- The place of a recognised namespace is the one that says so. -/
theorem placeFor_eq_iff {ns : CredentialNamespace} (hns : ns ≠ .unknown) (slot : CredentialSlot)
    (p : Place) : placeFor ns slot = p ↔ p.ns = ns ∧ p.slot = slot := by
  have hself : (placeFor ns slot).ns = ns := by
    cases ns with
    | unknown => exact absurd rfl hns
    | primary => rfl
    | sandbox => rfl
  constructor
  · intro h
    rw [← h]
    exact ⟨hself, rfl⟩
  · rintro ⟨h, hslot⟩
    apply Place.ext_of
    · rw [hself, h]
    · exact hslot.symm

/-- Only public keys of a managed place occupy its index. -/
theorem occupiedIndex_recordKey_iff (ns : CredentialNamespace) (p : Place) (kind : RecordKind)
    (b : BaseId) (i : UInt8) :
    occupiedIndex (managedCredPrefix ns) (recordKey p kind b) = some i ↔
      kind = .cred ∧ placeFor ns (.managed i) = p := by
  constructor
  · exact place_of_occupiedIndex
  · rintro ⟨rfl, rfl⟩
    rw [← managedCredPrefix_placeFor ns (.managed i)]
    exact occupiedIndex_cred (placeFor ns (.managed i)) i b rfl

/-- **Taken is stored**: an index is taken when its place has a public
    record. -/
theorem mem_takenIndices {kv : Kv} (h : RecordKeys kv) (ns : CredentialNamespace) (i : UInt8) :
    i ∈ takenIndices ns kv ↔ ∃ b, kv.lookup (recordKey (placeFor ns (.managed i)) .cred b) ≠ none := by
  unfold takenIndices
  rw [List.mem_toFinset, List.mem_filterMap]
  constructor
  · rintro ⟨k, hk, hocc⟩
    rw [mem_keys_iff] at hk
    obtain ⟨p, kind, b, hkey, -⟩ := h k hk
    rw [hkey] at hk hocc
    obtain ⟨hkind, hp⟩ := (occupiedIndex_recordKey_iff ..).1 hocc
    rw [hp]
    rw [hkind] at hk
    exact ⟨b, hk⟩
  · rintro ⟨b, hb⟩
    exact ⟨_, (mem_keys_iff kv _).2 hb, (occupiedIndex_recordKey_iff ..).2 ⟨rfl, rfl⟩⟩

/-- An index is taken exactly when it is not free. -/
theorem mem_takenIndices_iff_not_free (kv : Kv) (ns : CredentialNamespace) (i : UInt8) :
    i ∈ takenIndices ns kv ↔ ¬ IndexFree ns kv i := by
  unfold takenIndices IndexFree
  rw [List.mem_toFinset, List.mem_filterMap]
  constructor
  · rintro ⟨k, hk, hocc⟩ hfree
    exact hfree k ((mem_keys_iff kv k).1 hk) hocc
  · intro hnot
    by_contra hnone
    refine hnot fun k hk hocc => hnone ⟨k, (mem_keys_iff kv k).2 hk, hocc⟩

/-- Taken indices are below the limit. -/
theorem takenIndices_subset {kv : Kv} (h : RecordKeys kv) (ns : CredentialNamespace) :
    takenIndices ns kv ⊆ allIndices := by
  intro i hi
  obtain ⟨b, hb⟩ := (mem_takenIndices h ns i).1 hi
  obtain ⟨p, kind, c, hkey, hp⟩ := h _ hb
  obtain ⟨hplace, -, -⟩ := (recordKey_inj ..).1 hkey
  refine (mem_allIndices_iff i).2 (hp i ?_)
  rw [← hplace]
  rfl

/-- So they are at most as many as the limit says. -/
theorem card_takenIndices_le {kv : Kv} (h : RecordKeys kv) (ns : CredentialNamespace) :
    (takenIndices ns kv).card ≤ maxManagedSlots.toNat := by
  rw [← card_allIndices]
  exact Finset.card_le_card (takenIndices_subset h ns)

/-- **How a listing shows a stored record**: a secrets record is passed
    over, a public record is listed under its key with its slot's type. -/
theorem listEntry_cases {kv : Kv} (h : Slotted kv) {f : Faults} (hf : f.Healthy)
    (clock : Key → Int64) {k : Key} (hk : kv.lookup k ≠ none) :
    ∃ p kind b, k = recordKey p kind b ∧
      ((kind = .credsec ∧ listEntry f clock kv k = none) ∨
        (kind = .cred ∧ ∃ info, listEntry f clock kv k = some info ∧ info.id = k ∧
          info.credentialType = slotType p.slot)) := by
  obtain ⟨p, kind, b, hkey, -⟩ := h.keys k hk
  refine ⟨p, kind, b, hkey, ?_⟩
  subst hkey
  unfold listEntry
  rw [isCredentialKey_recordKey]
  cases kind with
  | credsec => exact Or.inl ⟨rfl, rfl⟩
  | cred =>
    obtain ⟨item, hitem⟩ := Option.ne_none_iff_exists'.1 hk
    obtain ⟨stored, hdata, hfits, htype⟩ := h.typed p b item hitem
    refine Or.inr ⟨rfl, ?_⟩
    rw [retrieve_healthy hf hitem, hdata]
    simp only [decodeStored_encodeStored stored hfits, Option.map_some]
    exact ⟨_, rfl, rfl, htype⟩

/-- The configured environment picks the records of its namespace. -/
theorem inEnvironment_recordKey (config : WalletConfig) (p : Place) (kind : RecordKind) (b : BaseId) :
    inEnvironment config (recordKey p kind b) = decide (p.ns = configuredNamespace config) := by
  have hknown := p.known
  have hmarker := sandboxMarker_recordKey p kind b
  unfold inEnvironment
  rw [configuredNamespace_eq]
  cases hs : isSandbox config with
  | true =>
    rw [beq_true, decide_eq_decide]
    exact hmarker
  | false =>
    rw [beq_false, ← decide_not, decide_eq_decide, hmarker]
    cases hns : p.ns with
    | unknown => exact absurd hns hknown
    | primary => decide
    | sandbox => decide

/-- One public record a place, so no index comes up twice. -/
theorem nodup_occupied {kv : Kv} (h : Slotted kv) (ns : CredentialNamespace) :
    (kv.keys.filterMap (occupiedIndex (managedCredPrefix ns))).Nodup := by
  -- a key that occupies an index is the public record of its place
  have hplace : ∀ k i, kv.lookup k ≠ none → occupiedIndex (managedCredPrefix ns) k = some i →
      ∃ b, k = recordKey (placeFor ns (.managed i)) .cred b := by
    intro k i hk hocc
    obtain ⟨p, kind, b, hkey, -⟩ := h.keys k hk
    rw [hkey] at hocc
    obtain ⟨hkind, hp⟩ := (occupiedIndex_recordKey_iff ..).1 hocc
    rw [hp, ← hkind]
    exact ⟨b, hkey⟩
  rw [List.nodup_iff_pairwise_ne, List.pairwise_filterMap]
  refine kv.keys_nodup.imp_of_mem fun {k k'} hk hk' hne i hi i' hi' hsame => ?_
  rw [mem_keys_iff] at hk hk'
  obtain ⟨b, hb⟩ := hplace k i hk hi
  obtain ⟨b', hb'⟩ := hplace k' i' hk' hi'
  subst hsame
  rw [hb] at hk
  rw [hb'] at hk'
  have hbb := h.one _ b b' hk hk'
  rw [hb, hb', hbb] at hne
  exact hne rfl

/-- **The managed credentials listed are the taken indices**, one for
    one. -/
theorem length_listed_managed {kv : Kv} (h : Slotted kv) {f : Faults} (hf : f.Healthy)
    (clock : Key → Int64) (config : WalletConfig) :
    ((((f.listing.order kv.keys).filterMap (listEntry f clock kv)).filter fun c =>
        inEnvironment config c.id).filter fun c => c.credentialType == "managed").length =
      (takenIndices (configuredNamespace config) kv).card := by
  have hns := configuredNamespace_known config
  unfold takenIndices
  rw [List.toFinset_card_of_nodup (nodup_occupied h _), List.length_filterMap_eq_countP,
    List.filter_filter, ← List.countP_eq_length_filter, List.countP_filterMap,
    (f.listing.perm kv.keys).countP_eq]
  refine List.countP_congr fun k hk => ?_
  rw [mem_keys_iff] at hk
  obtain ⟨p, kind, b, hkey, hentry⟩ := listEntry_cases h hf clock hk
  -- both tests look at the place of the key
  have hocc : (occupiedIndex (managedCredPrefix (configuredNamespace config)) k).isSome = true ↔
      kind = .cred ∧ p.ns = configuredNamespace config ∧ p.slot.isManaged = true := by
    rw [Option.isSome_iff_exists, hkey]
    simp only [occupiedIndex_recordKey_iff, placeFor_eq_iff hns, exists_and_left]
    cases p.slot with
    | primary => simp [CredentialSlot.isManaged]
    | managed i => simp [CredentialSlot.isManaged]
  rw [hocc]
  rcases hentry with ⟨hkind, hnone⟩ | ⟨hkind, info, hsome, hid, htype⟩
  · rw [hnone, hkind]
    simp
  · rw [hsome, hkind, Option.map_some, Option.getD_some, hid, htype, hkey, inEnvironment_recordKey]
    cases p.slot with
    | primary => simp [slotType, CredentialSlot.isManaged]
    | managed i => simp [slotType, CredentialSlot.isManaged]

/-- **A primary credential is listed exactly when one is stored.** -/
theorem any_listed_primary {kv : Kv} (h : Slotted kv) {f : Faults} (hf : f.Healthy)
    (clock : Key → Int64) (config : WalletConfig) :
    ((((f.listing.order kv.keys).filterMap (listEntry f clock kv)).filter fun c =>
        inEnvironment config c.id).any fun c => c.credentialType == "primary") =
      primaryTaken (configuredNamespace config) kv := by
  have hns := configuredNamespace_known config
  have hl := listKeys_healthy hf kv
  -- the key of a listed primary credential, and its prefix
  have hprefix : ∀ p kind b,
      (prefixesForSlot (configuredNamespace config) .primary).1 <+: recordKey p kind b ↔
        kind = .cred ∧ p.ns = configuredNamespace config ∧ p.slot = .primary := by
    intro p kind b
    rw [prefix_placeFor, recordPrefix_isPrefix_iff, placeFor_eq_iff hns]
    constructor
    · rintro ⟨hp, hkind⟩
      exact ⟨hkind.symm, hp⟩
    · rintro ⟨hkind, hp⟩
      exact ⟨hp, hkind.symm⟩
  unfold primaryTaken
  rw [Bool.eq_iff_iff, List.any_eq_true, List.any_eq_true]
  constructor
  · rintro ⟨info, hinfo, htype⟩
    obtain ⟨hinfo, henv⟩ := List.mem_filter.1 hinfo
    obtain ⟨k, hk, hentry⟩ := List.mem_filterMap.1 hinfo
    rw [mem_listKeys hl, Option.isSome_iff_ne_none] at hk
    refine ⟨k, (mem_keys_iff kv k).2 hk, ?_⟩
    obtain ⟨p, kind, b, hkey, ⟨-, hnone⟩ | ⟨hkind, info', hsome, hid, htype'⟩⟩ :=
      listEntry_cases h hf clock hk
    · rw [hnone] at hentry
      cases hentry
    · rw [hsome] at hentry
      injection hentry with hentry
      rw [hentry] at hid htype'
      rw [hid, hkey, inEnvironment_recordKey, decide_eq_true_eq] at henv
      rw [decide_eq_true_eq, hkey, hprefix]
      refine ⟨hkind, henv, ?_⟩
      rw [htype', beq_iff_eq] at htype
      cases hslot : p.slot with
      | primary => rfl
      | managed i =>
        rw [hslot] at htype
        have htext : "managed" = "primary" := htype
        exact absurd htext (by decide)
  · rintro ⟨k, hk, hpre⟩
    rw [mem_keys_iff] at hk
    obtain ⟨p, kind, b, hkey, hentry⟩ := listEntry_cases h hf clock hk
    rw [decide_eq_true_eq, hkey, hprefix] at hpre
    obtain ⟨hkind, henv, hslot⟩ := hpre
    rcases hentry with ⟨hsec, -⟩ | ⟨-, info, hsome, hid, htype⟩
    · rw [hsec] at hkind
      cases hkind
    · refine ⟨info, List.mem_filter.2 ⟨List.mem_filterMap.2 ⟨k, ?_, hsome⟩, ?_⟩, ?_⟩
      · rw [mem_listKeys hl, Option.isSome_iff_ne_none]
        exact hk
      · rw [hid, hkey, inEnvironment_recordKey]
        exact decide_eq_true henv
      · rw [htype, hslot]
        rfl

/-- The sum of the two counts, for as many managed credentials as there
    can be. -/
theorem availableSlots_toNat (creds : List CredentialInfo)
    (h : (creds.filter fun c => c.credentialType == "managed").length ≤ maxManagedSlots.toNat) :
    (availableSlots creds).toNat =
      (if creds.any fun c => c.credentialType == "primary" then 0 else 1) +
        (5 - (creds.filter fun c => c.credentialType == "managed").length) := by
  unfold availableSlots
  generalize (creds.filter fun c => c.credentialType == "managed").length = m at h ⊢
  have hm : m < 16 := Nat.lt_succ_of_le h
  cases creds.any fun c => c.credentialType == "primary" <;> interval_cases m <;> rfl

/-- **What the count comes to**: one if no primary credential is stored,
    and what five leaves over the managed indices taken. -/
theorem getAvailableSlotCount_eq {kv : Kv} (h : Slotted kv) {f : Faults} (hf : f.Healthy)
    (clock : Key → Int64) (config : WalletConfig) :
    ∃ count, getAvailableSlotCount f clock config ⟨some kv⟩ = .ok count ∧
      count.toNat = (if primaryTaken (configuredNamespace config) kv then 0 else 1) +
        (5 - (takenIndices (configuredNamespace config) kv).card) := by
  have hlist : listCredentials f clock kv =
      .ok ((f.listing.order kv.keys).filterMap (listEntry f clock kv)) := by
    unfold listCredentials
    rw [listKeys_healthy hf]
  have hlen := length_listed_managed h hf clock config
  unfold getAvailableSlotCount
  rw [read_some, hlist]
  refine ⟨_, rfl, ?_⟩
  rw [availableSlots_toNat, hlen, any_listed_primary h hf]
  rw [hlen]
  exact card_takenIndices_le h.keys _

/-! ## §5. Imports that get a slot -/

/-- `n` managed imports into a namespace, one after the other, each of
    which gets a slot and writes what it prepared, on a backend that
    answers. -/
inductive Grants (X : Crates) (ns : CredentialNamespace) : Storage → Nat → Storage → Prop where
  | done (s : Storage) : Grants X ns s 0 s
  | more {s s' : Storage} {n : Nat} (fs : ImportFaults) (label : Option String)
    (slot : CredentialSlot) (nickname : Option String) (credential : CredentialV2)
    (secrets : Option CredentialSecrets) (hresolve : fs.resolve.Healthy) (hstore : fs.store.Healthy)
    (hsecrets : fs.secrets.Healthy) (hns : fromLabel label = ns)
    (hslot : resolveSlot fs.resolve s "managed" label = .ok slot)
    (hrest : Grants X ns
      (storeWithSecrets X fs s credential label slot nickname secrets).2 n s') :
    Grants X ns s (n + 1) s'

/-- A namespace has room for exactly `n` managed imports: `n` can get a
    slot one after the other, and after fewer there is a slot for one
    more, while after `n` there is none. -/
structure IsCapacity (X : Crates) (ns : CredentialNamespace) (s : Storage) (n : Nat) : Prop where
  reached : ∃ s', Grants X ns s n s'
  granted : ∀ m s', Grants X ns s m s' → ∀ f label, f.Healthy → fromLabel label = ns →
    ((∃ slot, resolveSlot f s' "managed" label = .ok slot) ↔ m < n)

/-- There is one capacity only. -/
theorem IsCapacity.unique {X : Crates} {ns : CredentialNamespace} {s : Storage} {m n : Nat}
    (hm : IsCapacity X ns s m) (hn : IsCapacity X ns s n) (label : Option String)
    (hlabel : fromLabel label = ns) : m = n := by
  -- the run up to one capacity decides against a larger one
  have hle : ∀ {a b}, IsCapacity X ns s a → IsCapacity X ns s b → b ≤ a := by
    intro a b ha hb
    obtain ⟨s', hrun⟩ := ha.reached
    by_contra hlt
    have hmore := (hb.granted a s' hrun .never label Faults.never_healthy hlabel).2 (by omega)
    have hless := (ha.granted a s' hrun .never label Faults.never_healthy hlabel).1 hmore
    omega
  exact Nat.le_antisymm (hle hn hm) (hle hm hn)

/-- **What an import finds**: the smallest index that is not taken, or
    nothing because all are. -/
theorem resolveSlot_managed {f : Faults} (hf : f.Healthy) (label : Option String) (kv : Kv) :
    (∃ i, resolveSlot f ⟨some kv⟩ "managed" label = .ok (.managed i) ∧ i < maxManagedSlots ∧
      i ∉ takenIndices (fromLabel label) kv) ∨
    ((¬ ∃ slot, resolveSlot f ⟨some kv⟩ "managed" label = .ok slot) ∧
      allIndices ⊆ takenIndices (fromLabel label) kv) := by
  unfold resolveSlot
  rw [if_pos rfl, read_some]
  rcases nextAvailableManagedIndex_spec hf (fromLabel label) kv with
    ⟨i, hok, hlt, hfree, -⟩ | ⟨herr, hall⟩
  · refine Or.inl ⟨i, ?_, hlt, ?_⟩
    · rw [hok]
      exact if_neg (UInt8.not_le.2 hlt)
    · rw [mem_takenIndices_iff_not_free]
      exact fun hnot => hnot hfree
  · refine Or.inr ⟨?_, fun i hi => ?_⟩
    · rw [herr]
      rintro ⟨slot, h⟩
      cases h
    · rw [mem_takenIndices_iff_not_free]
      exact hall i ((mem_allIndices_iff i).1 hi)

/-- **One import that gets a slot** takes one index more. -/
theorem takenIndices_storeWithSecrets {kv : Kv} (h : RecordKeys kv) (X : Crates) (fs : ImportFaults)
    (hst : fs.store.Healthy) (hsec : fs.secrets.Healthy) (credential : CredentialV2)
    (label : Option String) (i : UInt8) (hi : i < maxManagedSlots) (nickname : Option String)
    (secrets : Option CredentialSecrets) :
    ∃ kv', (storeWithSecrets X fs ⟨some kv⟩ credential label (.managed i) nickname secrets).2 =
        ⟨some kv'⟩ ∧ RecordKeys kv' ∧
      takenIndices (fromLabel label) kv' = insert i (takenIndices (fromLabel label) kv) := by
  obtain ⟨kv', hrun, -, hlook⟩ := storeWithSecrets_contents X fs hst hsec kv credential label
    (.managed i) nickname secrets
  have hkey := newKey_eq X (placeOf label (.managed i)) credential
  have hp : UsablePlace (placeOf label (.managed i)) := by
    intro j hj
    injection hj with hj
    rw [← hj]
    exact hi
  have hkeys : RecordKeys kv' := by
    intro k hk
    by_cases hsecret : k = secretsKeyOf (newKey X (placeOf label (.managed i)) credential)
    · rw [hsecret, hkey, secretsKeyOf_recordKey]
      exact ⟨_, _, _, rfl, hp⟩
    · rw [hlook k hsecret] at hk
      split at hk
      next hnew => exact ⟨_, _, _, hnew.trans hkey, hp⟩
      next =>
        split at hk
        · exact absurd rfl hk
        · exact h k hk
  refine ⟨kv', by rw [hrun], hkeys, ?_⟩
  ext j
  have hplace : ∀ j, placeFor (fromLabel label) (.managed j) = placeOf label (.managed j) := fun j =>
    placeFor_self (placeOf label (.managed j))
  rw [Finset.mem_insert, mem_takenIndices hkeys, mem_takenIndices h, hplace]
  -- the new record is the one public record at its place
  have hpublic : ∀ b, kv'.lookup (recordKey (placeOf label (.managed j)) .cred b) =
      if recordKey (placeOf label (.managed j)) .cred b =
          newKey X (placeOf label (.managed i)) credential then
        some (newItem fs.now credential label (.managed i) nickname)
      else if placeOf label (.managed i) = placeOf label (.managed j) then none
      else kv.lookup (recordKey (placeOf label (.managed j)) .cred b) := by
    intro b
    rw [hlook _ (secretsKeyOf_ne_public _ _ b).symm, inSlot_recordKey]
    simp only [decide_eq_true_eq]
  by_cases hij : j = i
  · subst hij
    refine iff_of_true ⟨baseIdFor X credential, ?_⟩ (Or.inl rfl)
    rw [hpublic, if_pos hkey.symm]
    exact Option.some_ne_none _
  · have hother : placeOf label (.managed i) ≠ placeOf label (.managed j) := by
      intro hsame
      injection hsame with _ hsame
      injection hsame with hsame
      exact hij hsame.symm
    have hnew : ∀ b, recordKey (placeOf label (.managed j)) .cred b ≠
        newKey X (placeOf label (.managed i)) credential := by
      intro b hsame
      exact hother ((recordKey_inj ..).1 (hsame.trans hkey)).1.symm
    simp only [hpublic, if_neg (hnew _), if_neg hother, hij, false_or]

/-- **A run of imports that get a slot** takes as many indices more. -/
theorem takenIndices_grants {X : Crates} {ns : CredentialNamespace} {s s' : Storage} {n : Nat}
    (h : Grants X ns s n s') : ∀ kv, s = ⟨some kv⟩ → RecordKeys kv →
      ∃ kv', s' = ⟨some kv'⟩ ∧ RecordKeys kv' ∧
        (takenIndices ns kv').card = (takenIndices ns kv).card + n := by
  induction h with
  | done s =>
    intro kv hkv hkeys
    exact ⟨kv, hkv, hkeys, rfl⟩
  | more fs label slot nickname credential secrets hresolve hstore hsecrets hns hslot hrest ih =>
    intro kv hkv hkeys
    subst hkv
    subst hns
    rcases resolveSlot_managed hresolve label kv with ⟨i, hok, hlt, hfree⟩ | ⟨hnone, -⟩
    · rw [hok] at hslot
      injection hslot with hslot
      subst hslot
      obtain ⟨kv₁, hkv₁, hkeys₁, htaken⟩ := takenIndices_storeWithSecrets hkeys X fs hstore hsecrets
        credential label i hlt nickname secrets
      obtain ⟨kv', hkv', hkeys', hcard⟩ := ih kv₁ hkv₁ hkeys₁
      refine ⟨kv', hkv', hkeys', ?_⟩
      rw [hcard, htaken, Finset.card_insert_of_notMem hfree]
      omega
    · exact absurd ⟨slot, hslot⟩ hnone

/-- There is a slot exactly while not all indices are taken. -/
theorem resolves_iff_card_lt {kv : Kv} (h : RecordKeys kv) {f : Faults} (hf : f.Healthy)
    (label : Option String) :
    (∃ slot, resolveSlot f ⟨some kv⟩ "managed" label = .ok slot) ↔
      (takenIndices (fromLabel label) kv).card < maxManagedSlots.toNat := by
  rw [← card_allIndices]
  rcases resolveSlot_managed hf label kv with ⟨i, hok, hlt, hfree⟩ | ⟨hnone, hall⟩
  · refine iff_of_true ⟨_, hok⟩ (Finset.card_lt_card ?_)
    rw [Finset.ssubset_iff_of_subset (takenIndices_subset h _)]
    exact ⟨i, (mem_allIndices_iff i).2 hlt, hfree⟩
  · exact iff_of_false hnone (Nat.not_lt.2 (Finset.card_le_card hall))

/-- As many imports as there are free indices get a slot. -/
private theorem grants_exist (X : Crates) (label : Option String) (n : Nat) :
    ∀ kv, RecordKeys kv →
      (takenIndices (fromLabel label) kv).card + n ≤ maxManagedSlots.toNat →
      ∃ s', Grants X (fromLabel label) ⟨some kv⟩ n s' := by
  induction n with
  | zero => exact fun kv _ _ => ⟨_, .done _⟩
  | succ n ih =>
    intro kv hkeys hroom
    have hnever := Faults.never_healthy
    rcases resolveSlot_managed hnever label kv with ⟨i, hok, hlt, hfree⟩ | ⟨-, hall⟩
    · let fs : ImportFaults := { resolve := .never, store := .never, secrets := .never, now := 0 }
      obtain ⟨kv₁, hkv₁, hkeys₁, htaken⟩ := takenIndices_storeWithSecrets hkeys X fs hnever hnever
        sampleCredential label i hlt none none
      have hroom₁ : (takenIndices (fromLabel label) kv₁).card + n ≤ maxManagedSlots.toNat := by
        rw [htaken, Finset.card_insert_of_notMem hfree]
        omega
      obtain ⟨s', hrest⟩ := ih kv₁ hkeys₁ hroom₁
      refine ⟨s', .more fs label (.managed i) none sampleCredential none hnever hnever hnever rfl hok
        ?_⟩
      rw [hkv₁]
      exact hrest
    · have hle := Finset.card_le_card hall
      rw [card_allIndices] at hle
      omega

/-- **How many imports get a slot**: as many as the limit leaves over the
    indices taken. -/
theorem isCapacity_of_recordKeys (X : Crates) {kv : Kv} (h : RecordKeys kv) (label : Option String) :
    IsCapacity X (fromLabel label) ⟨some kv⟩
      (maxManagedSlots.toNat - (takenIndices (fromLabel label) kv).card) := by
  have hle := card_takenIndices_le h (fromLabel label)
  refine ⟨grants_exist X label _ kv h (by omega), fun m s' hrun f label' hf hlabel => ?_⟩
  obtain ⟨kv', rfl, hkeys, hcard⟩ := takenIndices_grants hrun kv rfl h
  rw [resolves_iff_card_lt hkeys hf, hlabel, hcard]
  omega

/-! ## §6. The count and the imports -/

/-- The contents of a store. -/
def contents (s : Storage) : Kv := s.backend.getD ∅

/-- **The property** of a store: the count is one for a free primary
    slot, and the number of further managed imports that get a slot. -/
def CapacityReported (X : Crates) (config : WalletConfig) (s : Storage) : Prop :=
  ∃ n, IsCapacity X (configuredNamespace config) s n ∧
    ∀ f clock, f.Healthy → ∃ count, getAvailableSlotCount f clock config s = .ok count ∧
      count.toNat = (if primaryTaken (configuredNamespace config) (contents s) then 0 else 1) + n

/-- The condition for it, on the store: every managed slot of the
    configured namespace has a public record. -/
def ManagedSlotsFull (config : WalletConfig) (s : Storage) : Prop :=
  ∀ i < maxManagedSlots, ∃ k, PublicRecord (contents s) (configuredNamespace config) (.managed i) k

/-- All slots are full when all indices are taken. -/
private theorem managedSlotsFull_iff (config : WalletConfig) {kv : Kv} (h : RecordKeys kv) :
    ManagedSlotsFull config ⟨some kv⟩ ↔
      (takenIndices (configuredNamespace config) kv).card = maxManagedSlots.toNat := by
  have htaken : ∀ i, (∃ k, PublicRecord kv (configuredNamespace config) (.managed i) k) ↔
      i ∈ takenIndices (configuredNamespace config) kv := by
    intro i
    rw [mem_takenIndices_iff_not_free, ← vacant_iff h]
    unfold Vacant
    rw [not_forall_not]
  have hsub := takenIndices_subset h (configuredNamespace config)
  unfold ManagedSlotsFull
  show (∀ i < maxManagedSlots, ∃ k, PublicRecord kv (configuredNamespace config) (.managed i) k) ↔ _
  simp only [htaken]
  rw [← card_allIndices]
  constructor
  · intro hall
    have hall' : allIndices ⊆ takenIndices (configuredNamespace config) kv := fun i hi =>
      hall i ((mem_allIndices_iff i).1 hi)
    exact Nat.le_antisymm (Finset.card_le_card hsub) (Finset.card_le_card hall')
  · intro hcard i hi
    rw [Finset.eq_of_subset_of_card_le hsub (Nat.le_of_eq hcard.symm)]
    exact (mem_allIndices_iff i).2 hi

/-- In a store kept in slots the count is right exactly when all managed
    slots are full: with fewer taken, five is not the limit. -/
theorem capacityReported_iff (X : Crates) (config : WalletConfig) (s : Storage)
    (hs : SlottedStore s) : CapacityReported X config s ↔ ManagedSlotsFull config s := by
  obtain ⟨kv, rfl, h⟩ := hs
  have hcap : IsCapacity X (configuredNamespace config) ⟨some kv⟩ _ :=
    isCapacity_of_recordKeys X h.keys (some config.environment)
  have hle := card_takenIndices_le h.keys (configuredNamespace config)
  have hlimit : maxManagedSlots.toNat = 15 := rfl
  rw [managedSlotsFull_iff config h.keys]
  constructor
  · rintro ⟨n, hn, hcount⟩
    have hsame := hn.unique hcap (some config.environment) rfl
    obtain ⟨count, hok, hvalue⟩ := hcount .never (fun _ => 0) Faults.never_healthy
    obtain ⟨count', hok', hvalue'⟩ := getAvailableSlotCount_eq h Faults.never_healthy (fun _ => 0)
      config
    rw [hok] at hok'
    injection hok' with hok'
    rw [← hok', hvalue, hsame] at hvalue'
    have hrest := Nat.add_left_cancel hvalue'
    have hcard : (takenIndices (fromLabel (some config.environment)) kv).card =
      (takenIndices (configuredNamespace config) kv).card := rfl
    omega
  · intro hfull
    refine ⟨_, hcap, fun f clock hf => ?_⟩
    obtain ⟨count, hok, hvalue⟩ := getAvailableSlotCount_eq h hf clock config
    refine ⟨count, hok, ?_⟩
    rw [hvalue]
    have hcard : (takenIndices (fromLabel (some config.environment)) kv).card =
      (takenIndices (configuredNamespace config) kv).card := rfl
    rw [hcard, hfull]
    rfl

/-- **Reported capacity is real capacity exactly when nothing is left.**
    In every state of every run of imports, deletions, nickname updates
    and cleanups from the empty store, whatever the backend answers: the
    count is one for a free primary slot plus the number of further
    managed imports that get a slot if and only if every managed slot of
    the configured namespace has a public record. -/
theorem capacity_reported_iff (X : Crates) (config : WalletConfig) (ops : List SlotOp)
    (hops : ∀ op ∈ ops, op.TextsFit X) :
    Always (storageAfter X) (fun s => CapacityReported X config s ↔ ManagedSlotsFull config s)
      ⟨some ∅⟩ ops := by
  have hstart : SlottedStore ⟨some ∅⟩ := ⟨∅, rfl, slotted_empty⟩
  have hrun : Always (storageAfter X) SlottedStore ⟨some ∅⟩ ops :=
    always_of_step (P := fun _ op => op.TextsFit X) (slotted_step X) hstart
      (stepsMeet_of_forall hops)
  exact hrun.imp fun s hs => capacityReported_iff X config s hs

/-- No text of the sample run is too long. -/
private theorem sampleSlotOps_textsFit : ∀ op ∈ sampleSlotOps, op.TextsFit anyDocumentCrates := by
  intro op hop
  have hanswered := sampleSlotOps_answered op hop
  cases op with
  | importCall call anchor fs => exact hanswered.2.2.2
  | updateCredentialNickname f id nickname => exact hanswered.2
  | deleteCredential f id => trivial
  | deleteSandbox f => trivial
  | cleanupExpiredCredentials f clock fd => trivial

theorem capacity_reported_sample :
    (∀ op ∈ sampleSlotOps, op.TextsFit anyDocumentCrates) ∧
      Always (storageAfter anyDocumentCrates)
        (fun s => CapacityReported anyDocumentCrates sampleConfig s ↔
          ManagedSlotsFull sampleConfig s) ⟨some ∅⟩ sampleSlotOps :=
  ⟨sampleSlotOps_textsFit,
    capacity_reported_iff anyDocumentCrates sampleConfig sampleSlotOps sampleSlotOps_textsFit⟩

/-- The empty store reports six slots, where sixteen imports get one. -/
theorem empty_store_reports_six :
    getAvailableSlotCount .never (fun _ => 0) sampleConfig ⟨some ∅⟩ = .ok 6 ∧
      primaryTaken .primary ∅ = false ∧
      IsCapacity anyDocumentCrates .primary ⟨some ∅⟩ 15 ∧
      ¬ CapacityReported anyDocumentCrates sampleConfig ⟨some ∅⟩ := by
  have hns : configuredNamespace sampleConfig = .primary := by decide
  have hcap : IsCapacity anyDocumentCrates .primary ⟨some ∅⟩ 15 :=
    isCapacity_of_recordKeys anyDocumentCrates slotted_empty.keys none
  have hsix : getAvailableSlotCount .never (fun _ => 0) sampleConfig ⟨some ∅⟩ = .ok 6 := by
    rfl
  refine ⟨hsix, rfl, hcap, ?_⟩
  rintro ⟨n, hn, hcount⟩
  obtain ⟨count, hok, hvalue⟩ := hcount .never (fun _ => 0) Faults.never_healthy
  rw [hsix] at hok
  injection hok with hok
  rw [hns] at hn hvalue
  rw [hn.unique hcap none rfl, ← hok] at hvalue
  exact absurd hvalue (by decide)

end ProviiSdk.Wallet
