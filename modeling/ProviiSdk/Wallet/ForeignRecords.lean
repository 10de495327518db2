/-
  ProviiSdk.Wallet.ForeignRecords — records that are no credential's.

  The backend holds more than credentials: the trust anchor is one record
  of its own.  Imports and sweeps choose their keys by the prefixes of a
  slot or a namespace, and so they stay among the credentials.  Deleting
  and renaming take an id from the caller and use it as it is.

  Main results:
    * `foreign_of_stem` — a key behind a record's stem is no foreign one.
    * `import_frame`, `sweep_frame`, `cleanup_frame` — what chooses its
      keys by prefix leaves foreign records alone.
    * `frameKept_iff` — when an operation does.
-/

import ProviiSdk.Wallet.SlotOccupancy

namespace ProviiSdk.Wallet

open ProviiSdk.Core ProviiSdk.Platform ProviiSdk.Ffi

/-! ## §1. Foreign keys -/

/-- Is the key a secrets record's? -/
def isSecretsKey (key : Key) : Bool := allCredsecPrefixes.any fun p => decide (p <+: key)

/-- Is the key neither a credential's nor its secrets'? -/
def isForeignKey (key : Key) : Bool := !isCredentialKey key && !isSecretsKey key

/-- A public key is no foreign one. -/
theorem credential_not_foreign {key : Key} (h : isCredentialKey key = true) :
    isForeignKey key = false := by
  unfold isForeignKey
  rw [h]
  rfl

/-- A key behind a stem is a credential's or its secrets'. -/
theorem foreign_of_stem {s m : Bool} {kind : RecordKind} {key : Key} (h : stem s m kind <+: key) :
    isForeignKey key = false := by
  have hsecrets : (∃ s m, stem s m .credsec <+: key) → isSecretsKey key = true := by
    rintro ⟨s, m, hstem⟩
    unfold isSecretsKey
    rw [List.any_eq_true]
    refine ⟨stem s m .credsec, ?_, decide_eq_true hstem⟩
    cases s <;> cases m <;> decide
  unfold isForeignKey
  cases hkey : isSecretsKey key with
  | true => rw [Bool.not_true, Bool.and_false]
  | false =>
    cases kind with
    | credsec =>
      rw [hsecrets ⟨s, m, h⟩] at hkey
      cases hkey
    | cred =>
      -- no secrets prefix is in the way, so the public one decides
      have hpublic : isCredentialKey key = true := by
        unfold isCredentialKey
        have hfound : (allCredPrefixes.find? fun p => decide (p <+: key)).isSome = true := by
          rw [List.find?_isSome]
          refine ⟨stem s m .cred, ?_, decide_eq_true h⟩
          cases s <;> cases m <;> decide
        obtain ⟨p, hp⟩ := Option.isSome_iff_exists.1 hfound
        rw [hp]
        show (!isSecretsKey key) = true
        rw [hkey]
        rfl
      rw [hpublic]
      rfl

/-- A foreign key is in no slot. -/
theorem inSlot_foreign {key : Key} (h : isForeignKey key = true) (p : Place) :
    inSlot p key = false := by
  unfold inSlot
  rw [decide_eq_false_iff_not]
  have hstem : ∀ kind, ¬ recordPrefix p kind <+: key := by
    intro kind hprefix
    rw [recordPrefix_eq] at hprefix
    rw [foreign_of_stem ((List.prefix_append _ _).trans hprefix)] at h
    cases h
  rintro (hcred | hcredsec)
  · exact hstem .cred hcred
  · exact hstem .credsec hcredsec

/-- No secrets key that the wallet derives from an id is foreign. -/
theorem secretsKeyOf_not_foreign (id : Key) : isForeignKey (secretsKeyOf id) = false := by
  obtain ⟨p, hp⟩ := recordPrefix_secretsKeyOf id
  rw [recordPrefix_eq] at hp
  exact foreign_of_stem ((List.prefix_append _ _).trans hp)

/-- A foreign key is in no namespace's sweep. -/
theorem inNamespace_foreign {key : Key} (h : isForeignKey key = true) :
    inNamespace .sandbox key = false := by
  have hstem : ∀ m kind, decide (stem true m kind <+: key) = false := by
    intro m kind
    rw [decide_eq_false_iff_not]
    intro hprefix
    rw [foreign_of_stem hprefix] at h
    cases h
  show (decide (stem true false .cred <+: key) || decide (stem true false .credsec <+: key) ||
    decide (stem true true .cred <+: key) || decide (stem true true .credsec <+: key)) = false
  rw [hstem, hstem, hstem, hstem]
  rfl

/-! ## §2. The property -/

/-- The store after an operation. -/
def storageAfter (X : Crates) (s : Storage) (op : SlotOp) : Storage :=
  (slotStep X ⟨s, fun _ => none⟩ op).storage

/-- What is stored under a key: nothing before a backend is attached. -/
def recordAt (s : Storage) (key : Key) : Option Item := s.backend.bind fun kv => kv.lookup key

/-- The deletion by an id that is no public credential key. -/
def SlotOp.IsStrayDelete : SlotOp → Prop
  | .deleteCredential _ id => isCredentialKey id = false
  | _ => False

/-- **The property** of an operation on a store: every foreign record is
    what it was, and every record at all if the operation deletes by an
    id that is no credential's. -/
def FrameKept (X : Crates) (s : Storage) (op : SlotOp) : Prop :=
  ∀ key, (isForeignKey key = true ∨ op.IsStrayDelete) →
    recordAt (storageAfter X s op) key = recordAt s key

/-- The condition for it, on the call and the store before it: a deletion
    names a public credential key, or meets a backend that refuses it, or
    has nothing to delete; a renaming does not name a foreign record that
    reads as a credential, unless it is the record it would write. -/
def NamesCredential (s : Storage) : SlotOp → Prop
  | .deleteCredential f id =>
    isCredentialKey id = true ∨ f.delete id ≠ none ∨
      (recordAt s id = none ∧
        (f.delete (secretsKeyOf id) ≠ none ∨ recordAt s (secretsKeyOf id) = none))
  | .updateCredentialNickname f id nickname =>
    isForeignKey id = false ∨ f.retrieve id ≠ none ∨ f.store id ≠ none ∨
      ∀ item stored, recordAt s id = some item → decodeStored item.data = some stored →
        item = ⟨encodeStored { stored with metadata := { stored.metadata with nickname } }, .none⟩
  | _ => True

/-! ## §3. What chooses its keys by prefix -/

/-- A write of a credential leaves foreign records alone, whether it
    succeeds or fails. -/
private theorem storeWithSecrets_frame (X : Crates) (fs : ImportFaults) (s : Storage)
    (credential : CredentialV2) (label : Option String) (slot : CredentialSlot)
    (nickname : Option String) (secrets : Option CredentialSecrets) (key : Key)
    (h : isForeignKey key = true) :
    recordAt (storeWithSecrets X fs s credential label slot nickname secrets).2 key =
      recordAt s key := by
  obtain ⟨backend⟩ := s
  cases backend with
  | none => rfl
  | some kv =>
    have hframe := storeCredentialWithSlot_frame X fs.store fs.now credential label slot nickname kv
      key (inSlot_foreign h _)
    unfold storeWithSecrets
    rw [call_some]
    generalize storeCredentialWithSlot X fs.store fs.now credential label slot nickname kv = r
      at hframe ⊢
    obtain ⟨res, kv₁⟩ := r
    cases res with
    | error msg => exact hframe
    | ok credId =>
      cases secrets with
      | none => exact hframe
      | some secrets =>
        simp only [call_some]
        rcases storeCredentialSecrets_outcome fs.secrets credId secrets kv₁ with
          ⟨e, -, heq⟩ | ⟨-, heq⟩
        · rw [heq]
          exact hframe
        · rw [heq]
          -- the secrets go under a secrets key
          have hne : key ≠ secretsKeyOf credId := by
            intro hkey
            rw [hkey, secretsKeyOf_not_foreign] at h
            cases h
          show (kv₁.insert _ _).lookup key = kv.lookup key
          rw [lookup_insert_of, if_neg hne]
          exact hframe

/-- **An import leaves foreign records alone**, whichever way the
    credential comes in. -/
theorem import_frame (X : Crates) (fs : ImportFaults) (w : ProviiWallet) (call : ImportCall) (key : Key)
    (h : isForeignKey key = true) :
    recordAt (call.run X fs w).2 key = recordAt w.storage key := by
  rw [ImportCall.run_eq]
  unfold ImportCall.stages
  cases call.resolve fs.resolve w.storage with
  | error e => rfl
  | ok slot =>
    cases call.prepare X w.issuerTrustAnchor with
    | error e => rfl
    | ok r =>
      exact storeWithSecrets_frame X fs w.storage r.1 call.label slot call.nickname r.2 key h

/-- **The sandbox sweep leaves foreign records alone.** -/
theorem sweep_frame (f : Faults) (s : Storage) (key : Key) (h : isForeignKey key = true) :
    recordAt (deleteSandbox f s).2 key = recordAt s key := by
  obtain ⟨backend⟩ := s
  cases backend with
  | none => rfl
  | some kv =>
    rw [deleteSandbox_storage]
    refine (deleteSandboxCredentials_erases f kv key).2 ?_
    rintro ⟨-, -, hin, -⟩
    rw [inNamespace_foreign h] at hin
    cases hin

/-- **A cleanup leaves foreign records alone**: it deletes by the ids of
    listed credentials, and these are public keys. -/
theorem cleanup_frame (f : Faults) (clock : Key → Int64) (fd : Key → Faults) (s : Storage)
    (key : Key) (h : isForeignKey key = true) :
    recordAt (cleanupExpiredCredentials f clock fd s).2 key = recordAt s key := by
  obtain ⟨backend⟩ := s
  cases backend with
  | none => rfl
  | some kv =>
    obtain ⟨kv', hrun, herase⟩ := cleanupExpiredCredentials_erases f clock fd kv
    rw [hrun]
    refine (herase key).2 ?_
    rintro ⟨infos, hlist, info, hinfo, -, -, hkey | ⟨hkey, -⟩⟩
    · have hpublic := isCredentialKey_of_listCredentials hlist info hinfo
      rw [← hkey] at hpublic
      rw [credential_not_foreign hpublic] at h
      cases h
    · rw [hkey, secretsKeyOf_not_foreign] at h
      cases h

/-! ## §4. What takes its key from the caller -/

/-- A deletion keeps the frame exactly under its condition. -/
private theorem deleteCredential_frame_iff (X : Crates) (s : Storage) (f : Faults) (id : Key) :
    FrameKept X s (.deleteCredential f id) ↔ NamesCredential s (.deleteCredential f id) := by
  obtain ⟨backend⟩ := s
  cases backend with
  | none => exact iff_of_true (fun key _ => rfl) (Or.inr (Or.inr ⟨rfl, Or.inr rfl⟩))
  | some kv =>
    have herase := deleteCredential_erases f id kv
    have hafter : ∀ key, recordAt (storageAfter X ⟨some kv⟩ (.deleteCredential f id)) key =
        (deleteCredential f id kv).2.lookup key := by
      intro key
      show recordAt (deleteCredentialById f ⟨some kv⟩ id).2 key = _
      rw [deleteCredentialById_storage]
      rfl
    constructor
    · intro hkept
      by_cases hid : isCredentialKey id = true
      · exact Or.inl hid
      -- nothing may go, so what the call deletes was not there
      have hsame : ∀ key, (deleteCredential f id kv).2.lookup key = kv.lookup key := by
        intro key
        rw [← hafter]
        exact hkept key (Or.inr (Bool.eq_false_of_not_eq_true hid))
      by_cases hpub : f.delete id = none
      · have hgone : kv.lookup id = none := by
          rw [← hsame]
          exact (herase id).1 ⟨hpub, Or.inl rfl⟩
        refine Or.inr (Or.inr ⟨hgone, ?_⟩)
        by_cases hsec : f.delete (secretsKeyOf id) = none
        · refine Or.inr ?_
          show kv.lookup (secretsKeyOf id) = none
          rw [← hsame]
          exact (herase (secretsKeyOf id)).1 ⟨hpub, Or.inr ⟨rfl, hsec⟩⟩
        · exact Or.inl hsec
      · exact Or.inr (Or.inl hpub)
    · intro hnames key hkey
      rw [hafter]
      show _ = kv.lookup key
      by_cases hgone : deleteGone f id key
      · rw [(herase key).1 hgone]
        obtain ⟨hpub, hwhich⟩ := hgone
        rcases hnames with hid | hrefused | ⟨hnone, hsecrets⟩
        · -- neither key of a credential is foreign
          exfalso
          rcases hkey with hforeign | hstray
          · rcases hwhich with rfl | ⟨rfl, -⟩
            · rw [credential_not_foreign hid] at hforeign
              cases hforeign
            · rw [secretsKeyOf_not_foreign] at hforeign
              cases hforeign
          · exact absurd (hid.symm.trans hstray) (by decide)
        · exact absurd hpub hrefused
        · rcases hwhich with rfl | ⟨rfl, hsec⟩
          · exact hnone.symm
          · rcases hsecrets with hrefused | hnone'
            · exact absurd hsec hrefused
            · exact hnone'.symm
      · exact (herase key).2 hgone

/-- A renaming keeps the frame exactly under its condition. -/
private theorem updateCredentialNickname_frame_iff (X : Crates) (s : Storage) (f : Faults)
    (id : Key) (nickname : Option String) :
    FrameKept X s (.updateCredentialNickname f id nickname) ↔
      NamesCredential s (.updateCredentialNickname f id nickname) := by
  obtain ⟨backend⟩ := s
  cases backend with
  | none =>
    refine iff_of_true (fun key _ => rfl) (Or.inr (Or.inr (Or.inr fun item stored h => ?_)))
    cases h
  | some kv =>
    have hafter : ∀ key,
        recordAt (storageAfter X ⟨some kv⟩ (.updateCredentialNickname f id nickname)) key =
          (Ffi.updateCredentialNickname X f id nickname kv).2.lookup key := by
      intro key
      show recordAt (updateCredentialNickname X f ⟨some kv⟩ id nickname).2 key = _
      rw [updateCredentialNickname_storage]
      rfl
    unfold FrameKept
    simp only [hafter]
    rcases updateCredentialNickname_outcome X f id nickname kv with
      ⟨hwhy, hsame⟩ | ⟨item, stored, hret, hst, hitem, hdecode, hwritten⟩
    · rw [hsame]
      refine iff_of_true (fun key _ => rfl) ?_
      rcases hwhy with hret | hst | hnone
      · exact Or.inr (Or.inl hret)
      · exact Or.inr (Or.inr (Or.inl hst))
      · refine Or.inr (Or.inr (Or.inr fun item stored hitem hdecode => ?_))
        rw [hnone item hitem] at hdecode
        cases hdecode
    · rw [hwritten]
      constructor
      · intro hkept
        cases hid : isForeignKey id with
        | false => exact Or.inl hid
        | true =>
          refine Or.inr (Or.inr (Or.inr fun item' stored' hitem' hdecode' => ?_))
          have hitem₂ : some item = some item' := hitem.symm.trans hitem'
          injection hitem₂ with hitem₂
          rw [← hitem₂, hdecode] at hdecode'
          injection hdecode' with hdecode'
          have hrecord := hkept id (Or.inl hid)
          rw [lookup_insert_of, if_pos rfl] at hrecord
          have hrecord' := hrecord.trans hitem'
          injection hrecord' with hrecord'
          rw [← hrecord', hdecode']
      · intro hnames key hkey
        rw [lookup_insert_of]
        by_cases hsame : key = id
        · rw [if_pos hsame]
          rcases hkey with hforeign | hstray
          · rw [hsame] at hforeign
            rcases hnames with hid | hret' | hst' | hwritten'
            · rw [hid] at hforeign
              cases hforeign
            · exact absurd hret hret'
            · exact absurd hst hst'
            · rw [← hwritten' item stored hitem hdecode, hsame]
              exact hitem.symm
          · exact False.elim hstray
        · rw [if_neg hsame]
          rfl

/-! ## §5. The frame -/

/-- **Operations keep away from foreign records exactly when the id they
    are given is a credential's**: on any store, with any failures of the
    backend, an operation leaves every foreign record unchanged and, by
    an id that is no public credential key, deletes nothing if and only
    if a deletion's id is a public key or has nothing to delete, and a
    renaming's id is not a foreign record that reads as a credential. -/
theorem frameKept_iff (X : Crates) (s : Storage) (op : SlotOp) :
    FrameKept X s op ↔ NamesCredential s op := by
  cases op with
  | importCall call anchor fs =>
    refine iff_of_true (fun key hkey => ?_) trivial
    rcases hkey with hforeign | hstray
    · exact import_frame X fs ⟨s, anchor⟩ call key hforeign
    · exact False.elim hstray
  | deleteCredential f id => exact deleteCredential_frame_iff X s f id
  | deleteSandbox f =>
    refine iff_of_true (fun key hkey => ?_) trivial
    rcases hkey with hforeign | hstray
    · exact sweep_frame f s key hforeign
    · exact False.elim hstray
  | updateCredentialNickname f id nickname =>
    exact updateCredentialNickname_frame_iff X s f id nickname
  | cleanupExpiredCredentials f clock fd =>
    refine iff_of_true (fun key hkey => ?_) trivial
    rcases hkey with hforeign | hstray
    · exact cleanup_frame f clock fd s key hforeign
    · exact False.elim hstray

/-- A store that holds a pinned trust anchor and nothing else. -/
def pinnedStore : Storage :=
  ⟨some (AList.singleton trustAnchorStorageKey ⟨Wire.utf8 "\x7b\"keys\":[]\x7d", .none⟩)⟩

/-- A deletion by the id of the trust anchor's record takes the record
    out of the store. -/
theorem delete_removes_trust_anchor :
    isForeignKey trustAnchorStorageKey = true ∧
      recordAt pinnedStore trustAnchorStorageKey ≠ none ∧
      recordAt (storageAfter sampleCrates pinnedStore
        (.deleteCredential .never trustAnchorStorageKey)) trustAnchorStorageKey = none ∧
      ¬ FrameKept sampleCrates pinnedStore (.deleteCredential .never trustAnchorStorageKey) := by
  have hforeign : isForeignKey trustAnchorStorageKey = true := by decide +kernel
  have hbefore : recordAt pinnedStore trustAnchorStorageKey ≠ none := by decide +kernel
  have hafter : recordAt (storageAfter sampleCrates pinnedStore
      (.deleteCredential .never trustAnchorStorageKey)) trustAnchorStorageKey = none := by
    decide +kernel
  refine ⟨hforeign, hbefore, hafter, fun hkept => ?_⟩
  rw [hkept trustAnchorStorageKey (Or.inl hforeign)] at hafter
  exact hbefore hafter

end ProviiSdk.Wallet
