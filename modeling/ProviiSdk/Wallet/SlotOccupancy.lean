/-
  ProviiSdk.Wallet.SlotOccupancy — which credential is in which slot.

  No record says which slots are taken: every operation reads it off the
  names of the stored keys.  This file runs imports, deletions, nickname
  updates and cleanups on a backend that answers every call, and keeps a
  slot table beside the store: for every place the id that the import
  which last filled it returned, and the credential imported.  The store
  represents the table, over any run, and every answer about slots can be
  read off the table.

  Main results:
    * `represents_fill`, `represents_drop`, `represents_nickname` — what
      an import, a deletion and a nickname update do to the table.
    * `represents_step` — the store keeps representing the table.
    * `vacant_iff`, `occupancy_of_represents` — the answers of a store
      that represents a table.
    * `slot_occupancy` — the answers in every state of every run.
-/

import ProviiSdk.Core.Sample
import ProviiSdk.Wallet.Imports
import ProviiSdk.Wallet.OrphanSecrets

namespace ProviiSdk.Wallet

open ProviiSdk.Core ProviiSdk.Platform ProviiSdk.Ffi ProviiSdk.Run
open ProviiSdk.Wire (Codec)

/-! ## §1. The slot table -/

/-- What is in a slot: the id the import returned, and the credential as
    it was imported, private fields included. -/
structure Filling where
  id : Key
  credential : CredentialV2

/-- What is in each slot of each namespace. -/
abbrev SlotTable := Place → Option Filling

/-- Take every filling that is `gone` out of the table. -/
def SlotTable.drop (t : SlotTable) (gone : Filling → Bool) : SlotTable :=
  fun p => (t p).filter fun x => !gone x

/-- The table after an import, from the slot it resolved, the credential
    it imported and its answer: a successful one fills its slot. -/
def SlotTable.fill (t : SlotTable) (label : Option String) (slot : Except FfiError CredentialSlot)
    (imported : Except FfiError CredentialV2) (answer : Except FfiError Key) : SlotTable :=
  match slot, imported, answer with
  | .ok slot, .ok credential, .ok id => Function.update t (placeOf label slot) (some ⟨id, credential⟩)
  | _, _, _ => t

/-- The credential an import brings in, before its private fields are
    taken out. -/
def ImportCall.imported (X : Crates) (anchor : Option IssuerTrustAnchor) :
    ImportCall → Except FfiError CredentialV2
  | .importCredential json => (X.parseCredential json).mapError .invalidFormat
  | .importCredentialWithType json _ _ => (X.parseCredential json).mapError .invalidFormat
  | .storeCredentialWithLabel json _ _ _ => (X.parseCredential json).mapError .invalidFormat
  | .storeCredential json => (X.parseCredential json).mapError .invalidFormat
  | .finalizeAndStoreCredential c =>
    match prepareFinalized X anchor c.headerJson c.dobDays c.rBitsB64 with
    | .error e => .error e
    -- the secrets are the private fields of the finalised credential
    | .ok (credential, secrets) =>
      .ok { credential with dobDays := some secrets.dobDays, rBits := some secrets.rBits }

/-! ## §2. The machine -/

/-- The store, with the table of what the imports have put where. -/
structure SlotState where
  storage : Storage
  table : SlotTable

/-- An operation on credential records, with the backend's answers and
    clock readings for it. -/
inductive SlotOp where
  | importCall (call : ImportCall) (anchor : Option IssuerTrustAnchor) (fs : ImportFaults)
  | deleteCredential (f : Faults) (id : Key)
  | deleteSandbox (f : Faults)
  | updateCredentialNickname (f : Faults) (id : Key) (nickname : Option String)
  | cleanupExpiredCredentials (f : Faults) (clock : Key → Int64) (fd : Key → Faults)

/-- The state after an operation.  A deletion takes the credential with
    its id out of the table, a sandbox deletion everything in the sandbox,
    and a cleanup every credential expired at its clock reading. -/
def slotStep (X : Crates) (s : SlotState) : SlotOp → SlotState
  | .importCall call anchor fs =>
    { storage := (call.run X fs ⟨s.storage, anchor⟩).2
      table := s.table.fill call.label (call.resolve fs.resolve s.storage)
        (call.imported X anchor) (call.run X fs ⟨s.storage, anchor⟩).1 }
  | .deleteCredential f id =>
    { storage := (deleteCredentialById f s.storage id).2
      table := s.table.drop fun x => x.id == id }
  | .deleteSandbox f =>
    { storage := (Wallet.deleteSandbox f s.storage).2
      table := fun p => if p.ns = .sandbox then none else s.table p }
  | .updateCredentialNickname f id nickname =>
    { s with storage := (Wallet.updateCredentialNickname X f s.storage id nickname).2 }
  | .cleanupExpiredCredentials f clock fd =>
    { storage := (Wallet.cleanupExpiredCredentials f clock fd s.storage).2
      table := s.table.drop fun x => decide (x.credential.exp < nowSecs (clock x.id)) }

/-- The texts of an import are no longer than a Rust string can be. -/
structure ImportCall.TextsFit (X : Crates) (anchor : Option IssuerTrustAnchor)
    (call : ImportCall) : Prop where
  label : ∀ l ∈ call.label, Codec.string.fits l
  nickname : ∀ n ∈ call.nickname, Codec.string.fits n
  imported : ∀ credential, call.imported X anchor = .ok credential →
    Codec.string.fits credential.kid ∧ Codec.string.fits credential.schema

/-- No call of the backend fails during the operation, and its texts are
    Rust strings. -/
def SlotOp.Answered (X : Crates) : SlotOp → Prop
  | .importCall call anchor fs =>
    fs.resolve.Healthy ∧ fs.store.Healthy ∧ fs.secrets.Healthy ∧ call.TextsFit X anchor
  | .deleteCredential f _ => f.Healthy
  | .deleteSandbox f => f.Healthy
  | .updateCredentialNickname f _ nickname => f.Healthy ∧ ∀ n ∈ nickname, Codec.string.fits n
  | .cleanupExpiredCredentials f _ fd => f.Healthy ∧ ∀ id, (fd id).Healthy

/-- The empty store, and nothing in any slot. -/
def emptySlots : SlotState := { storage := ⟨some ∅⟩, table := fun _ => none }

/-! ## §3. Public records -/

/-- A stored public record of a namespace and slot, by its key's prefix. -/
def PublicRecord (kv : Kv) (ns : CredentialNamespace) (slot : CredentialSlot) (k : Key) : Prop :=
  kv.lookup k ≠ none ∧ (prefixesForSlot ns slot).1 <+: k

/-- No public record is stored under a managed index. -/
def Vacant (kv : Kv) (ns : CredentialNamespace) (i : UInt8) : Prop :=
  ∀ k, ¬ PublicRecord kv ns (.managed i) k

/-- **The property** of a store, with the table of what the imports have
    put where. -/
structure Occupancy (X : Crates) (t : SlotTable) (kv : Kv) : Prop where
  /-- A slot has one public record at most. -/
  one : ∀ ns slot k k', PublicRecord kv ns slot k → PublicRecord kv ns slot k' → k = k'
  /-- A managed index in use is below the limit. -/
  bounded : ∀ ns i k, PublicRecord kv ns (.managed i) k → i < maxManagedSlots
  /-- The next managed index is the smallest vacant one. -/
  next : ∀ f ns i, f.Healthy → (nextAvailableManagedIndex f ns kv = .ok i ↔
    i < maxManagedSlots ∧ Vacant kv ns i ∧ ∀ j < i, ¬ Vacant kv ns j)
  /-- There is none exactly when all are taken. -/
  full : ∀ f ns, f.Healthy → ((∃ e, nextAvailableManagedIndex f ns kv = .error e) ↔
    ∀ j < maxManagedSlots, ¬ Vacant kv ns j)
  /-- The public record of a slot is the one its last import returned,
      unless it was deleted since. -/
  held : ∀ (p : Place) k, PublicRecord kv p.ns p.slot k ↔ ∃ x, t p = some x ∧ x.id = k
  /-- Its id reads back as the credential without its secrets. -/
  latest : ∀ f p x, f.Healthy → t p = some x →
    getCredential X f x.id kv = .ok (some (redacted x.credential))

/-- The property of a state: a backend is attached, and its contents have
    it. -/
def SlotsOccupied (X : Crates) (s : SlotState) : Prop :=
  ∃ kv, s.storage = ⟨some kv⟩ ∧ Occupancy X s.table kv

/-! ## §4. The store represents the table -/

/-- A place the wallet fills: its managed index is below the limit. -/
def UsablePlace (p : Place) : Prop := ∀ i, p.slot = .managed i → i < maxManagedSlots

/-- Every stored key is the key of a record of a usable place. -/
def RecordKeys (kv : Kv) : Prop :=
  ∀ k, kv.lookup k ≠ none → ∃ p kind b, k = recordKey p kind b ∧ UsablePlace p

/-- The store represents the table: every stored key is a record's, every
    public record is in the table under its key, and everything in the
    table is stored under its id and reads back. -/
structure Represents (t : SlotTable) (kv : Kv) : Prop where
  keys : ∀ k, kv.lookup k ≠ none → ∃ p kind b, k = recordKey p kind b ∧ UsablePlace p
  held : ∀ p b, kv.lookup (recordKey p .cred b) ≠ none →
    ∃ x, t p = some x ∧ x.id = recordKey p .cred b
  stored : ∀ p x, t p = some x → (∃ b, x.id = recordKey p .cred b) ∧
    ∃ bio stored, kv.lookup x.id = some ⟨encodeStored stored, bio⟩ ∧ stored.Fits ∧
      redacted stored.credential = redacted x.credential

theorem represents_empty : Represents (fun _ => none) ∅ := by
  refine ⟨fun k h => ?_, fun p b h => ?_, fun p x h => ?_⟩
  · exact absurd (AList.lookup_empty k) h
  · exact absurd (AList.lookup_empty _) h
  · cases h

/-- What is left after a drop was there, and is not gone. -/
theorem drop_eq_some_iff (t : SlotTable) (gone : Filling → Bool) (p : Place) (x : Filling) :
    t.drop gone p = some x ↔ t p = some x ∧ gone x = false := by
  unfold SlotTable.drop
  rw [Option.filter_eq_some_iff, Bool.not_eq_true']

/-- **A deletion**: a store that represents the table, without the keys in
    `gone`, represents the table without the fillings whose id is one of
    them. -/
theorem represents_drop {t : SlotTable} {kv kv' : Kv} (h : Represents t kv) (gone : Key → Prop)
    (herase : Erases gone kv kv') (dropped : Filling → Bool)
    (hdrop : ∀ p x, t p = some x → (dropped x = true ↔ gone x.id)) :
    Represents (t.drop dropped) kv' := by
  -- what is still stored was stored, and is not gone
  have hleft : ∀ k, kv'.lookup k ≠ none → kv.lookup k ≠ none ∧ ¬ gone k := by
    intro k hk
    by_cases hg : gone k
    · exact absurd ((herase k).1 hg) hk
    · rw [(herase k).2 hg] at hk
      exact ⟨hk, hg⟩
  refine ⟨fun k hk => h.keys k (hleft k hk).1, fun p b hk => ?_, fun p x hx => ?_⟩
  · obtain ⟨hold, hstays⟩ := hleft _ hk
    obtain ⟨x, hx, hid⟩ := h.held p b hold
    refine ⟨x, ?_, hid⟩
    rw [drop_eq_some_iff]
    refine ⟨hx, ?_⟩
    rw [← hid, ← hdrop p x hx] at hstays
    exact Bool.eq_false_of_not_eq_true hstays
  · rw [drop_eq_some_iff] at hx
    obtain ⟨hx, hstays⟩ := hx
    obtain ⟨hid, bio, stored, hlook, hfits, hcred⟩ := h.stored p x hx
    refine ⟨hid, bio, stored, ?_, hfits, hcred⟩
    rw [(herase x.id).2, hlook]
    intro hg
    rw [(hdrop p x hx).mpr hg] at hstays
    cases hstays

/-- **An import**: a store that holds the new public record of a place
    and its secrets, nothing else of that place, and all other records as
    before, represents the table with the place filled. -/
theorem represents_fill {t : SlotTable} {kv kv' : Kv} (h : Represents t kv) (X : Crates) (p : Place)
    (hp : UsablePlace p) (now : Int64) (credential : CredentialV2) (label : Option String)
    (slot : CredentialSlot) (nickname : Option String)
    (hfits : (storedRecord now (redacted credential) label slot nickname).Fits)
    (hlook : ∀ k, k ≠ secretsKeyOf (newKey X p (redacted credential)) →
      kv'.lookup k =
        if k = newKey X p (redacted credential) then
          some (newItem now (redacted credential) label slot nickname)
        else if inSlot p k then none
        else kv.lookup k) :
    Represents (Function.update t p (some ⟨newKey X p (redacted credential), credential⟩)) kv' := by
  have hkey := newKey_eq X p (redacted credential)
  -- what became of the public records
  have hpublic : ∀ q b, kv'.lookup (recordKey q .cred b) =
      if recordKey q .cred b = newKey X p (redacted credential) then
        some (newItem now (redacted credential) label slot nickname)
      else if p = q then none
      else kv.lookup (recordKey q .cred b) := by
    intro q b
    rw [hlook _ (secretsKeyOf_ne_public _ q b).symm, inSlot_recordKey]
    simp only [decide_eq_true_eq]
  refine ⟨fun k hk => ?_, fun q b hk => ?_, fun q x hx => ?_⟩
  · by_cases hsec : k = secretsKeyOf (newKey X p (redacted credential))
    · rw [hsec, hkey, secretsKeyOf_recordKey]
      exact ⟨p, .credsec, _, rfl, hp⟩
    · rw [hlook k hsec] at hk
      split at hk
      next hnew => exact ⟨p, .cred, _, hnew.trans hkey, hp⟩
      next =>
        split at hk
        · exact absurd rfl hk
        · exact h.keys k hk
  · rw [hpublic] at hk
    split at hk
    next hnew =>
      -- the new record's key names its place
      have hq : q = p := ((recordKey_inj ..).1 (hnew.trans hkey)).1
      subst hq
      exact ⟨_, Function.update_self .., hnew.symm⟩
    next =>
      by_cases hq : p = q
      · rw [if_pos hq] at hk
        exact absurd rfl hk
      · rw [if_neg hq] at hk
        rw [Function.update_of_ne (Ne.symm hq)]
        exact h.held q b hk
  · by_cases hq : q = p
    · subst hq
      rw [Function.update_self] at hx
      injection hx with hx
      subst hx
      refine ⟨⟨_, hkey⟩, .none, storedRecord now (redacted credential) label slot nickname, ?_, hfits,
        rfl⟩
      show kv'.lookup (newKey X q (redacted credential)) = _
      rw [hkey, hpublic, if_pos hkey.symm]
      rfl
    · rw [Function.update_of_ne hq] at hx
      obtain ⟨⟨b, hid⟩, bio, stored, hold, hrest⟩ := h.stored q x hx
      refine ⟨⟨b, hid⟩, bio, stored, ?_, hrest⟩
      have hother : recordKey q .cred b ≠ newKey X p (redacted credential) := by
        intro hsame
        exact hq ((recordKey_inj ..).1 (hsame.trans hkey)).1
      rw [hid, hpublic, if_neg hother, if_neg (Ne.symm hq), ← hid]
      exact hold

/-- **A nickname update** of a stored record changes nothing in the
    table: the key stays, and the record keeps its credential. -/
theorem represents_nickname {t : SlotTable} {kv : Kv} (h : Represents t kv) (id : Key)
    (item : Item) (stored : StoredCredential) (nickname : Option String)
    (hnick : ∀ n ∈ nickname, Codec.string.fits n) (hitem : kv.lookup id = some item)
    (hdecode : decodeStored item.data = some stored) :
    Represents t (kv.insert id
      ⟨encodeStored { stored with metadata := { stored.metadata with nickname } }, .none⟩) := by
  have hsome : ∀ k, (kv.insert id
      ⟨encodeStored { stored with metadata := { stored.metadata with nickname } }, .none⟩).lookup k ≠
      none → kv.lookup k ≠ none := by
    intro k hk
    rw [lookup_insert_of] at hk
    split at hk
    next hid =>
      rw [hid, hitem]
      exact Option.some_ne_none item
    next => exact hk
  refine ⟨fun k hk => h.keys k (hsome k hk), fun p b hk => h.held p b (hsome _ hk), fun p x hx => ?_⟩
  obtain ⟨hid, bio, old, hlook, hfits, hcred⟩ := h.stored p x hx
  refine ⟨hid, ?_⟩
  by_cases hsame : x.id = id
  · -- the record that was read is the one in the table
    rw [hsame, hitem] at hlook
    injection hlook with hlook
    rw [hlook, decodeStored_encodeStored old hfits] at hdecode
    injection hdecode with hdecode
    refine ⟨.none, { stored with metadata := { stored.metadata with nickname } }, ?_, ?_, ?_⟩
    · rw [hsame, lookup_insert_of, if_pos rfl]
    · obtain ⟨hkid, hschema, hlabel, htype, -⟩ := (StoredCredential.fits_iff old).1 hfits
      rw [← hdecode]
      exact (StoredCredential.fits_iff _).2 ⟨hkid, hschema, hlabel, htype, hnick⟩
    · rw [← hdecode, ← hcred]
      rfl
  · refine ⟨bio, old, ?_, hfits, hcred⟩
    rw [lookup_insert_of, if_neg hsame]
    exact hlook

/-! ## §5. One operation -/

/-- What an import prepares is the imported credential without its
    private fields. -/
theorem prepare_imported {X : Crates} {anchor : Option IssuerTrustAnchor} {call : ImportCall}
    {credential : CredentialV2} {secrets : Option CredentialSecrets}
    (h : call.prepare X anchor = .ok (credential, secrets)) :
    ∃ full, call.imported X anchor = .ok full ∧ credential = redacted full := by
  have hdocument : ∀ json, ImportCall.parseDocument X json = .ok (credential, secrets) →
      ∃ full, (X.parseCredential json).mapError FfiError.invalidFormat = .ok full ∧
        credential = redacted full := by
    intro json h
    unfold ImportCall.parseDocument at h
    cases hparse : X.parseCredential json with
    | error e =>
      rw [hparse] at h
      cases h
    | ok full =>
      rw [hparse] at h
      injection h with h
      injection h with h
      exact ⟨full, rfl, h.symm⟩
  cases call with
  | importCredential json => exact hdocument json h
  | importCredentialWithType json type nickname => exact hdocument json h
  | storeCredentialWithLabel json label type nickname => exact hdocument json h
  | storeCredential json => exact hdocument json h
  | finalizeAndStoreCredential c =>
    unfold ImportCall.prepare at h
    cases hprep : prepareFinalized X anchor c.headerJson c.dobDays c.rBitsB64 with
    | error e =>
      simp only [hprep] at h
      cases h
    | ok r =>
      obtain ⟨prepared, taken⟩ := r
      simp only [hprep] at h
      injection h with h
      injection h with h
      refine ⟨{ prepared with dobDays := some taken.dobDays, rBits := some taken.rBits }, ?_, ?_⟩
      · simp only [ImportCall.imported, hprep]
      · rw [← h, ← redacted_of_prepareFinalized hprep]
        rfl

/-- A slot that resolves has its index below the limit. -/
theorem usablePlace_of_resolve {f : Faults} {s : Storage} {call : ImportCall}
    {slot : CredentialSlot} (h : call.resolve f s = .ok slot) :
    UsablePlace (placeOf call.label slot) := by
  have htyped : ∀ type label, resolveSlot f s type label = .ok slot →
      ∀ i, slot = .managed i → i < maxManagedSlots := by
    intro type label h i hi
    unfold resolveSlot at h
    split at h
    · split at h
      · cases h
      next index =>
        split at h
        · cases h
        next hlimit =>
          injection h with h
          rw [← h] at hi
          injection hi with hi
          rw [← hi]
          exact UInt8.not_le.mp hlimit
    · split at h
      · injection h with h
        rw [← h] at hi
        cases hi
      · cases h
  have hprimary : (Except.ok CredentialSlot.primary : Except FfiError CredentialSlot) = .ok slot →
      ∀ i, slot = .managed i → i < maxManagedSlots := by
    intro h i hi
    injection h with h
    rw [← h] at hi
    cases hi
  intro i hi
  replace hi : slot = .managed i := hi
  cases call with
  | importCredential json => exact hprimary h i hi
  | importCredentialWithType json type nickname => exact htyped type none h i hi
  | storeCredentialWithLabel json label type nickname => exact htyped type label h i hi
  | storeCredential json => exact hprimary h i hi
  | finalizeAndStoreCredential c => exact htyped c.credentialType c.label h i hi

/-- An import keeps the representation. -/
theorem represents_import (X : Crates) (t : SlotTable) (kv : Kv) (h : Represents t kv)
    (call : ImportCall) (anchor : Option IssuerTrustAnchor) (fs : ImportFaults)
    (hst : fs.store.Healthy) (hsec : fs.secrets.Healthy) (hfit : call.TextsFit X anchor) :
    ∃ kv', (call.run X fs ⟨⟨some kv⟩, anchor⟩).2 = ⟨some kv'⟩ ∧
      Represents (t.fill call.label (call.resolve fs.resolve ⟨some kv⟩) (call.imported X anchor)
        (call.run X fs ⟨⟨some kv⟩, anchor⟩).1) kv' := by
  rw [ImportCall.run_eq]
  unfold ImportCall.stages
  cases hres : call.resolve fs.resolve ⟨some kv⟩ with
  | error e => exact ⟨kv, rfl, h⟩
  | ok slot =>
    cases hprep : call.prepare X anchor with
    | error e =>
      refine ⟨kv, rfl, ?_⟩
      -- nothing was written, so nothing is filled
      show Represents (t.fill call.label (.ok slot) (call.imported X anchor) (.error e)) kv
      cases call.imported X anchor <;> exact h
    | ok r =>
      obtain ⟨credential, secrets⟩ := r
      obtain ⟨full, himp, rfl⟩ := prepare_imported hprep
      obtain ⟨kv', hrun, -, hlook⟩ := storeWithSecrets_contents X fs hst hsec kv (redacted full)
        call.label slot call.nickname secrets
      obtain ⟨hkid, hschema⟩ := hfit.imported full himp
      have hfits := storedRecord_fits fs.now (redacted full) call.label slot call.nickname hkid
        hschema hfit.label hfit.nickname
      refine ⟨kv', ?_, ?_⟩
      · show (storeWithSecrets X fs ⟨some kv⟩ (redacted full) call.label slot call.nickname secrets).2
          = _
        rw [hrun]
      · show Represents (t.fill call.label (.ok slot) (call.imported X anchor)
          (storeWithSecrets X fs ⟨some kv⟩ (redacted full) call.label slot call.nickname secrets).1) kv'
        rw [hrun, himp]
        exact represents_fill h X _ (usablePlace_of_resolve hres) fs.now full call.label slot
          call.nickname hfits hlook

/-- The sandbox sweep matches the records of the sandbox. -/
theorem inNamespace_sandbox_recordKey (p : Place) (kind : RecordKind) (b : BaseId) :
    inNamespace .sandbox (recordKey p kind b) = decide (p.ns = .sandbox) := by
  have hstem : ∀ m k', (stem true m k' <+: recordKey p kind b) ↔
      (true = p.ns.isSandbox ∧ m = p.slot.isManaged ∧ k' = kind) :=
    fun m k' => stem_isPrefix_recordKey true m k' p kind b
  have h1 := hstem false .cred
  have h2 := hstem false .credsec
  have h3 := hstem true .cred
  have h4 := hstem true .credsec
  have hns : true = p.ns.isSandbox ↔ p.ns = .sandbox := by
    cases p.ns <;> decide
  show (decide (stem true false .cred <+: _) || decide (stem true false .credsec <+: _) ||
    decide (stem true true .cred <+: _) || decide (stem true true .credsec <+: _)) = _
  simp only [h1, h2, h3, h4, hns]
  cases p.slot.isManaged <;> cases kind <;> simp

/-- A credential in the table is listed, expired or not as its own expiry
    and the clock reading say. -/
theorem listEntry_of_stored {f : Faults} (hf : f.Healthy) (clock : Key → Int64) {kv : Kv}
    {p : Place} {b : BaseId} {bio : BiometricRequirement} {stored : StoredCredential}
    {credential : CredentialV2}
    (hlook : kv.lookup (recordKey p .cred b) = some ⟨encodeStored stored, bio⟩)
    (hfits : stored.Fits) (hcred : redacted stored.credential = redacted credential) :
    ∃ info, listEntry f clock kv (recordKey p .cred b) = some info ∧
      info.isExpired = decide (credential.exp < nowSecs (clock (recordKey p .cred b))) := by
  have hpublic : isCredentialKey (recordKey p .cred b) = true := isCredentialKey_recordKey p .cred b
  have hret := retrieve_healthy hf hlook
  unfold listEntry
  rw [if_pos hpublic, hret]
  simp only [decodeStored_encodeStored stored hfits, Option.map_some]
  refine ⟨_, rfl, ?_⟩
  show decide ((redacted stored.credential).exp < _) = _
  rw [hcred]
  rfl

/-- **A cleanup** on a healthy backend removes from the table what is
    expired. -/
theorem represents_cleanup {t : SlotTable} {kv : Kv} (h : Represents t kv) (f : Faults)
    (hf : f.Healthy) (clock : Key → Int64) (fd : Key → Faults) (hfd : ∀ id, (fd id).Healthy) :
    ∃ kv', (cleanupExpiredCredentials f clock fd ⟨some kv⟩).2 = ⟨some kv'⟩ ∧
      Represents (t.drop fun x => decide (x.credential.exp < nowSecs (clock x.id))) kv' := by
  have hl := listKeys_healthy hf kv
  have hlist : listCredentials f clock kv =
      .ok ((f.listing.order kv.keys).filterMap (listEntry f clock kv)) := by
    unfold listCredentials
    rw [hl]
  obtain ⟨kv', hrun, herase⟩ := cleanupExpiredCredentials_erases f clock fd kv
  refine ⟨kv', hrun, represents_drop h _ herase _ fun p x hx => ?_⟩
  obtain ⟨⟨b, hid⟩, bio, stored, hlook, hfits, hcred⟩ := h.stored p x hx
  rw [hid] at hlook ⊢
  obtain ⟨info, hinfo, hexp⟩ := listEntry_of_stored hf clock hlook hfits hcred
  rw [← hexp]
  constructor
  · intro hexpired
    have hkey : recordKey p .cred b ∈ f.listing.order kv.keys := by
      rw [mem_listKeys hl, hlook]
      rfl
    refine ⟨_, hlist, info, List.mem_filterMap.mpr ⟨_, hkey, hinfo⟩, hexpired,
      (hfd info.id).delete _, ?_⟩
    exact Or.inl (listEntry_eq_some hinfo).1.symm
  · rintro ⟨infos, hinfos, info', hmem, hexpired, -, hgone⟩
    rw [hlist] at hinfos
    injection hinfos with hinfos
    rw [← hinfos] at hmem
    obtain ⟨key, -, hkey⟩ := List.mem_filterMap.mp hmem
    -- a secrets key is no public key, so the listed id is this one
    have hsame : recordKey p .cred b = info'.id := by
      rcases hgone with hgone | ⟨hgone, -⟩
      · exact hgone
      · exact absurd hgone.symm (secretsKeyOf_ne_public info'.id p b)
    rw [(listEntry_eq_some hkey).1] at hsame
    rw [← hsame, hinfo] at hkey
    injection hkey with hkey
    rw [hkey]
    exact hexpired

/-- **A deletion by id** removes the credential with the id from the
    table. -/
theorem represents_delete {t : SlotTable} {kv : Kv} (h : Represents t kv) (f : Faults)
    (hf : f.Healthy) (id : Key) :
    Represents (t.drop fun x => x.id == id) (deleteCredential f id kv).2 := by
  refine represents_drop h _ (deleteCredential_erases f id kv) _ fun p x hx => ?_
  obtain ⟨⟨b, hid⟩, -⟩ := h.stored p x hx
  rw [beq_iff_eq]
  constructor
  · intro hsame
    exact ⟨hf.delete id, Or.inl hsame⟩
  · rintro ⟨-, hgone | ⟨hgone, -⟩⟩
    · exact hgone
    · rw [hid] at hgone
      exact absurd hgone.symm (secretsKeyOf_ne_public id p b)

/-- **A sandbox deletion** empties the table's sandbox places. -/
theorem represents_deleteSandbox {t : SlotTable} {kv : Kv} (h : Represents t kv) (f : Faults)
    (hf : f.Healthy) :
    Represents (fun p => if p.ns = .sandbox then none else t p) (deleteSandboxCredentials f kv).2 := by
  have htable : (fun p => if p.ns = .sandbox then none else t p) =
      t.drop fun x => inNamespace .sandbox x.id := by
    funext p
    unfold SlotTable.drop
    cases hx : t p with
    | none =>
      rw [ite_self]
      rfl
    | some x =>
      obtain ⟨⟨b, hid⟩, -⟩ := h.stored p x hx
      have hin : inNamespace .sandbox x.id = decide (p.ns = .sandbox) := by
        rw [hid, inNamespace_sandbox_recordKey]
      rw [Option.filter_some]
      simp only [hin]
      by_cases hns : p.ns = .sandbox
      · rw [if_pos hns, decide_eq_true hns]
        rfl
      · rw [if_neg hns, decide_eq_false hns]
        rfl
  rw [htable]
  refine represents_drop h _ (deleteSandboxCredentials_erases f kv) _ fun p x hx => ?_
  obtain ⟨-, bio, stored, hlook, -⟩ := h.stored p x hx
  have hsome : kv.lookup x.id ≠ none := by
    rw [hlook]
    exact Option.some_ne_none _
  constructor
  · intro hin
    exact ⟨hsome, hf.list, hin, hf.delete x.id⟩
  · rintro ⟨-, -, hin, -⟩
    exact hin

/-- An update of the nickname under any id leaves the table as it is. -/
theorem represents_updateNickname {t : SlotTable} {kv : Kv} (h : Represents t kv) (X : Crates)
    (f : Faults) (id : Key) (nickname : Option String)
    (hnick : ∀ n ∈ nickname, Codec.string.fits n) :
    Represents t (Ffi.updateCredentialNickname X f id nickname kv).2 := by
  rcases updateCredentialNickname_outcome X f id nickname kv with
    ⟨-, hsame⟩ | ⟨item, stored, -, -, hitem, hdecode, hwritten⟩
  · rw [hsame]
    exact h
  · rw [hwritten]
    exact represents_nickname h id item stored nickname hnick hitem hdecode

/-- The invariant of a run: a backend is attached, and its contents
    represent the table. -/
def SlotInv (s : SlotState) : Prop := ∃ kv, s.storage = ⟨some kv⟩ ∧ Represents s.table kv

/-- **One step**: every operation on an answering backend keeps the
    representation. -/
theorem represents_step (X : Crates) (s : SlotState) (op : SlotOp) (hs : SlotInv s)
    (hop : op.Answered X) : SlotInv (slotStep X s op) := by
  obtain ⟨storage, t⟩ := s
  obtain ⟨kv, rfl, h⟩ := hs
  cases op with
  | importCall call anchor fs =>
    obtain ⟨-, hst, hsec, hfit⟩ := hop
    exact represents_import X t kv h call anchor fs hst hsec hfit
  | deleteCredential f id =>
    exact ⟨_, deleteCredentialById_storage f kv id, represents_delete h f hop id⟩
  | deleteSandbox f =>
    exact ⟨_, deleteSandbox_storage f kv, represents_deleteSandbox h f hop⟩
  | updateCredentialNickname f id nickname =>
    obtain ⟨-, hnick⟩ := hop
    exact ⟨_, updateCredentialNickname_storage X f kv id nickname,
      represents_updateNickname h X f id nickname hnick⟩
  | cleanupExpiredCredentials f clock fd =>
    obtain ⟨hf, hfd⟩ := hop
    exact represents_cleanup h f hf clock fd hfd

/-! ## §6. What a store that represents a table answers -/

/-- The place of a namespace and slot; an unrecognised namespace falls
    back to production. -/
def placeFor (ns : CredentialNamespace) (slot : CredentialSlot) : Place where
  ns := if ns = .sandbox then .sandbox else .primary
  slot := slot
  known := by split <;> simp

theorem placeFor_self (p : Place) : placeFor p.ns p.slot = p := by
  obtain ⟨ns, slot, known⟩ := p
  cases ns with
  | unknown => exact absurd rfl known
  | primary => rfl
  | sandbox => rfl

theorem prefix_placeFor (ns : CredentialNamespace) (slot : CredentialSlot) :
    (prefixesForSlot ns slot).1 = recordPrefix (placeFor ns slot) .cred := by
  cases ns <;> cases slot <;> rfl

theorem managedCredPrefix_placeFor (ns : CredentialNamespace) (slot : CredentialSlot) :
    managedCredPrefix (placeFor ns slot).ns = managedCredPrefix ns := by
  cases ns <;> rfl

/-- A stored key is a public record of the place its key names. -/
theorem publicRecord_iff_recordKey {kv : Kv} (h : RecordKeys kv) (ns : CredentialNamespace)
    (slot : CredentialSlot) (k : Key) :
    PublicRecord kv ns slot k ↔
      kv.lookup k ≠ none ∧ UsablePlace (placeFor ns slot) ∧
        ∃ b, k = recordKey (placeFor ns slot) .cred b := by
  unfold PublicRecord
  rw [prefix_placeFor]
  constructor
  · rintro ⟨hk, hprefix⟩
    obtain ⟨q, kind, b, hkey, hq⟩ := h k hk
    rw [hkey] at hprefix
    obtain ⟨hp, hkind⟩ := (recordPrefix_isPrefix_iff ..).1 hprefix
    rw [hp, hkind]
    exact ⟨hk, hq, b, hkey⟩
  · rintro ⟨hk, -, b, hkey⟩
    refine ⟨hk, ?_⟩
    rw [hkey]
    exact List.prefix_append _ _

/-- **Public records are the table's.** -/
theorem publicRecord_iff {t : SlotTable} {kv : Kv} (h : Represents t kv) (ns : CredentialNamespace)
    (slot : CredentialSlot) (k : Key) :
    PublicRecord kv ns slot k ↔ ∃ x, t (placeFor ns slot) = some x ∧ x.id = k := by
  constructor
  · intro hk
    obtain ⟨hlook, -, b, hkey⟩ := (publicRecord_iff_recordKey h.keys ns slot k).1 hk
    rw [hkey] at hlook ⊢
    exact h.held _ b hlook
  · rintro ⟨x, hx, hid⟩
    obtain ⟨⟨b, hkey⟩, bio, stored, hlook, -⟩ := h.stored _ x hx
    have hsome : kv.lookup k ≠ none := by
      rw [← hid, hlook]
      exact Option.some_ne_none _
    unfold PublicRecord
    rw [prefix_placeFor, ← hid, hkey]
    rw [← hid, hkey] at hsome
    exact ⟨hsome, List.prefix_append _ _⟩

/-- A record's key that occupies a managed index of a namespace is a
    public key of that place. -/
theorem place_of_occupiedIndex {ns : CredentialNamespace} {q : Place} {kind : RecordKind}
    {b : BaseId} {i : UInt8}
    (h : occupiedIndex (managedCredPrefix ns) (recordKey q kind b) = some i) :
    kind = .cred ∧ placeFor ns (.managed i) = q := by
  have hstem : managedCredPrefix ns = stem ns.isSandbox true .cred := by
    cases ns <;> rfl
  have hprefix : managedCredPrefix ns <+: recordKey q kind b := by
    by_contra hnot
    unfold occupiedIndex at h
    rw [if_neg hnot] at h
    cases h
  rw [hstem] at hprefix
  obtain ⟨hns, hmanaged, hkind⟩ := (stem_isPrefix_recordKey ..).1 hprefix
  subst hkind
  refine ⟨rfl, ?_⟩
  cases hslot : q.slot with
  | primary =>
    rw [hslot] at hmanaged
    cases hmanaged
  | managed j =>
    have hprefixes : managedCredPrefix q.ns = managedCredPrefix ns := by
      rw [managedCredPrefix_eq, hstem, hns]
    have hj := occupiedIndex_cred q j b hslot
    rw [hprefixes, h] at hj
    injection hj with hj
    apply Place.ext_of
    · rw [← hns]
      cases ns <;> rfl
    · rw [hslot, hj]
      rfl

/-- **Vacant is free**: the search for a managed index sees exactly the
    public records of the namespace. -/
theorem vacant_iff {kv : Kv} (h : RecordKeys kv) (ns : CredentialNamespace) (i : UInt8) :
    Vacant kv ns i ↔ IndexFree ns kv i := by
  constructor
  · intro hvacant k hk hocc
    obtain ⟨q, kind, b, hkey, hq⟩ := h k hk
    rw [hkey] at hocc
    obtain ⟨hkind, hplace⟩ := place_of_occupiedIndex hocc
    refine hvacant k ((publicRecord_iff_recordKey h ns (.managed i) k).2 ⟨hk, ?_⟩)
    rw [hplace, hkey, hkind]
    exact ⟨hq, b, rfl⟩
  · intro hfree k hk
    obtain ⟨hlook, -, b, hkey⟩ := (publicRecord_iff_recordKey h ns (.managed i) k).1 hk
    refine hfree k hlook ?_
    rw [hkey, ← managedCredPrefix_placeFor ns (.managed i)]
    exact occupiedIndex_cred (placeFor ns (.managed i)) i b rfl

/-- The next managed index in terms of vacancy. -/
theorem nextAvailable_vacant {t : SlotTable} {kv : Kv} (h : Represents t kv) {f : Faults}
    (hf : f.Healthy) (ns : CredentialNamespace) :
    (∃ i, nextAvailableManagedIndex f ns kv = .ok i ∧ i < maxManagedSlots ∧ Vacant kv ns i ∧
      ∀ j < i, ¬ Vacant kv ns j) ∨
    ((∃ e, nextAvailableManagedIndex f ns kv = .error e) ∧
      ∀ j < maxManagedSlots, ¬ Vacant kv ns j) := by
  simp only [vacant_iff h.keys]
  rcases nextAvailableManagedIndex_spec hf ns kv with hfound | ⟨herr, hall⟩
  · exact Or.inl hfound
  · exact Or.inr ⟨⟨_, herr⟩, hall⟩

/-- **The answers of a store that represents a table.** -/
theorem occupancy_of_represents (X : Crates) {t : SlotTable} {kv : Kv} (h : Represents t kv) :
    Occupancy X t kv where
  one := by
    intro ns slot k k' hk hk'
    obtain ⟨x, hx, hid⟩ := (publicRecord_iff h ns slot k).1 hk
    obtain ⟨x', hx', hid'⟩ := (publicRecord_iff h ns slot k').1 hk'
    rw [hx] at hx'
    injection hx' with hx'
    rw [← hid, ← hid', hx']
  bounded := by
    intro ns i k hk
    exact ((publicRecord_iff_recordKey h.keys ns (.managed i) k).1 hk).2.1 i rfl
  next := by
    intro f ns i hf
    rcases nextAvailable_vacant h hf ns with ⟨i₀, hok, hlt, hvacant, hbelow⟩ | ⟨⟨e, herr⟩, hall⟩
    · rw [hok]
      constructor
      · intro hi
        injection hi with hi
        rw [← hi]
        exact ⟨hlt, hvacant, hbelow⟩
      · rintro ⟨-, hvacant', hbelow'⟩
        -- two smallest vacant indices are equal
        rcases Nat.lt_trichotomy i₀.toNat i.toNat with hless | hsame | hmore
        · exact absurd hvacant (hbelow' i₀ (UInt8.lt_iff_toNat_lt.2 hless))
        · rw [UInt8.toNat_inj.1 hsame]
        · exact absurd hvacant' (hbelow i (UInt8.lt_iff_toNat_lt.2 hmore))
    · rw [herr]
      refine iff_of_false (fun hi => ?_) fun hi => hall i hi.1 hi.2.1
      cases hi
  full := by
    intro f ns hf
    rcases nextAvailable_vacant h hf ns with ⟨i₀, hok, hlt, hvacant, -⟩ | ⟨herr, hall⟩
    · refine iff_of_false ?_ fun hall => hall i₀ hlt hvacant
      rintro ⟨e, herr⟩
      rw [hok] at herr
      cases herr
    · exact iff_of_true herr hall
  held := by
    intro p k
    have hiff := publicRecord_iff h p.ns p.slot k
    rw [placeFor_self] at hiff
    exact hiff
  latest := by
    intro f p x hf hx
    obtain ⟨-, bio, stored, hlook, hfits, hcred⟩ := h.stored p x hx
    have hret := retrieve_healthy hf hlook
    unfold getCredential
    rw [hret]
    simp only [decodeStored_encodeStored stored hfits, hcred]

/-! ## §7. Whole runs -/

/-- **Slot occupancy.**  Over any run of imports, deletions, nickname
    updates and cleanups from the empty store, on a backend that answers
    every call: in every state each slot has one public record at most,
    managed indices in use are below the limit, the next managed index is
    the smallest vacant one and there is none exactly when all are taken,
    the public records are the ones that the last imports returned and
    nothing has deleted since, and each reads back as the credential
    imported without its secrets. -/
theorem slot_occupancy (X : Crates) (ops : List SlotOp) (hops : ∀ op ∈ ops, op.Answered X) :
    Always (slotStep X) (SlotsOccupied X) emptySlots ops := by
  have hstart : SlotInv emptySlots := ⟨∅, rfl, represents_empty⟩
  have hrun : Always (slotStep X) SlotInv emptySlots ops :=
    always_of_step (P := fun _ op => op.Answered X) (represents_step X) hstart
      (stepsMeet_of_forall hops)
  apply hrun.imp
  rintro s ⟨kv, hkv, h⟩
  exact ⟨kv, hkv, occupancy_of_represents X h⟩

/-- Crates for which every document is the sample credential. -/
def anyDocumentCrates : Crates :=
  { sampleCrates with parseCredential := fun _ => .ok sampleCredential }

/-- Two imports into the sandbox's managed slots, a nickname update, a
    deletion and a cleanup. -/
def sampleSlotOps : List SlotOp :=
  let answering : ImportFaults := { resolve := .never, store := .never, secrets := .never, now := 1 }
  [.importCall (.storeCredentialWithLabel "a" (some "Sandbox") "managed" none) none answering,
    .importCall (.storeCredentialWithLabel "b" (some "sandbox") "managed" (some "b")) none answering,
    .updateCredentialNickname .never
      (newKey anyDocumentCrates (placeOf (some "sandbox") (.managed 1)) sampleCredential) none,
    .deleteCredential .never
      (newKey anyDocumentCrates (placeOf (some "sandbox") (.managed 0)) sampleCredential),
    .cleanupExpiredCredentials .never (fun _ => 1) fun _ => .never]

private theorem sampleImport_textsFit (json : String) (label nickname : Option String)
    (hlabel : ∀ l ∈ label, Codec.string.fits l) (hnick : ∀ n ∈ nickname, Codec.string.fits n) :
    (ImportCall.storeCredentialWithLabel json label "managed" nickname).TextsFit anyDocumentCrates
      none := by
  refine ⟨hlabel, hnick, fun credential h => ?_⟩
  injection h with h
  rw [← h]
  refine ⟨?_, ?_⟩
  · show (Wire.utf8 "provii:issuer").length < 2 ^ 64
    decide
  · show (Wire.utf8 "provii.age/0").length < 2 ^ 64
    decide

/-- No call of the run fails, and its texts fit. -/
theorem sampleSlotOps_answered : ∀ op ∈ sampleSlotOps, op.Answered anyDocumentCrates := by
  have hnever := Faults.never_healthy
  have hfits : ∀ text : String, text.utf8ByteSize < 8 → ∀ l ∈ some text, Codec.string.fits l := by
    intro text hshort l hl
    injection hl with hl
    rw [← hl]
    show (Wire.utf8 text).length < 2 ^ 64
    rw [Wire.utf8_length]
    omega
  have hnone : ∀ l ∈ (none : Option String), Codec.string.fits l := by
    intro l hl
    cases hl
  intro op hop
  simp only [sampleSlotOps, List.mem_cons, List.not_mem_nil, or_false] at hop
  rcases hop with rfl | rfl | rfl | rfl | rfl
  · exact ⟨hnever, hnever, hnever, sampleImport_textsFit _ _ _ (hfits "Sandbox" (by decide)) hnone⟩
  · exact ⟨hnever, hnever, hnever,
      sampleImport_textsFit _ _ _ (hfits "sandbox" (by decide)) (hfits "b" (by decide))⟩
  · exact ⟨hnever, hnone⟩
  · exact hnever
  · exact ⟨hnever, fun _ => hnever⟩

theorem slot_occupancy_sample :
    (∀ op ∈ sampleSlotOps, op.Answered anyDocumentCrates) ∧
      Always (slotStep anyDocumentCrates) (SlotsOccupied anyDocumentCrates) emptySlots
        sampleSlotOps :=
  ⟨sampleSlotOps_answered, slot_occupancy anyDocumentCrates sampleSlotOps sampleSlotOps_answered⟩

end ProviiSdk.Wallet
