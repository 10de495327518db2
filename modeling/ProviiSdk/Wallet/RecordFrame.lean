/-
  ProviiSdk.Wallet.RecordFrame — which records an operation can change.

  Every operation on credential records reaches some keys of the backend
  and no others: an import the keys of the slot it resolves, a deletion
  the two keys of its id, a sweep and a cleanup what they list.  Which of
  them it changes depends on the backend's answers; that it changes none
  beyond them does not.  An import is moreover the only operation after
  which a key can be present that was absent before.

  Main results:
    * `recordAt_untouched` — what an operation does not reach stays as it
      is.
    * `recordAt_absent`, `recordAt_absent_run` — what is absent stays
      absent until an import writes it.
    * `deleted_stays_unusable` — a credential deleted is out of use in
      every later state, until it is imported again.
-/

import ProviiSdk.Wallet.ForeignRecords
import ProviiSdk.Wallet.Sample
import ProviiSdk.Wallet.Suitability

namespace ProviiSdk.Wallet

open ProviiSdk.Core ProviiSdk.Platform ProviiSdk.Ffi ProviiSdk.Run ProviiSdk.Check

/-! ## §1. The keys an operation reaches -/

/-- Does a call import a credential into a place? -/
def ImportCall.Into (X : Crates) (s : Storage) (anchor : Option IssuerTrustAnchor)
    (fs : ImportFaults) (call : ImportCall) (p : Place) (credential : CredentialV2) : Prop :=
  ∃ slot secrets, call.resolve fs.resolve s = .ok slot ∧
    call.prepare X anchor = .ok (credential, secrets) ∧ p = placeOf call.label slot

/-- The keys that an operation on a store reaches. -/
def SlotOp.Reaches (X : Crates) (s : Storage) (key : Key) : SlotOp → Prop
  | .importCall call anchor fs =>
    ∃ p credential, call.Into X s anchor fs p credential ∧ inSlot p key = true
  | .deleteCredential _ id => key = id ∨ key = secretsKeyOf id
  | .deleteSandbox _ => inNamespace .sandbox key = true
  | .updateCredentialNickname _ id _ => key = id
  | .cleanupExpiredCredentials f clock _ =>
    ∃ infos, s.read (listCredentials f clock) = .ok infos ∧
      ∃ info ∈ infos, info.isExpired = true ∧ (key = info.id ∨ key = secretsKeyOf info.id)

/-- The keys under which an operation can put a record that was not
    there: those of an imported credential and its secrets. -/
def SlotOp.Writes (X : Crates) (s : Storage) (key : Key) : SlotOp → Prop
  | .importCall call anchor fs =>
    ∃ p credential, call.Into X s anchor fs p credential ∧
      (key = newKey X p credential ∨ key = secretsKeyOf (newKey X p credential))
  | _ => False

/-- What is written lies in the slot written to. -/
theorem inSlot_of_written (X : Crates) (p : Place) (credential : CredentialV2) {key : Key}
    (h : key = newKey X p credential ∨ key = secretsKeyOf (newKey X p credential)) :
    inSlot p key = true := by
  rcases h with rfl | rfl
  · exact inSlot_newKey X p credential
  · rw [newKey_eq, secretsKeyOf_recordKey, inSlot_recordKey]
    exact decide_eq_true rfl

/-! ## §2. One import -/

/-- A write of a credential changes no key outside its slot. -/
theorem storeWithSecrets_untouched (X : Crates) (fs : ImportFaults) (s : Storage)
    (credential : CredentialV2) (label : Option String) (slot : CredentialSlot)
    (nickname : Option String) (secrets : Option CredentialSecrets) (key : Key)
    (h : inSlot (placeOf label slot) key = false) :
    recordAt (storeWithSecrets X fs s credential label slot nickname secrets).2 key =
      recordAt s key := by
  obtain ⟨backend⟩ := s
  cases backend with
  | none => rfl
  | some kv =>
    have hframe := storeCredentialWithSlot_frame X fs.store fs.now credential label slot nickname kv
      key h
    have hout := storeCredentialWithSlot_outcome X fs.store fs.now credential label slot nickname kv
    unfold storeWithSecrets
    rw [call_some]
    generalize storeCredentialWithSlot X fs.store fs.now credential label slot nickname kv = r
      at hframe hout ⊢
    obtain ⟨res, kv₁⟩ := r
    cases res with
    | error msg => exact hframe
    | ok credId =>
      cases secrets with
      | none => exact hframe
      | some secrets =>
        have hid : credId = newKey X (placeOf label slot) credential := by
          cases hout with
          | stored keys hlist hgone hstore => rfl
        simp only [call_some]
        rcases storeCredentialSecrets_outcome fs.secrets credId secrets kv₁ with
          ⟨e, -, heq⟩ | ⟨-, heq⟩
        · rw [heq]
          exact hframe
        · rw [heq]
          -- the secrets go into the same slot
          have hne : key ≠ secretsKeyOf credId := by
            intro hkey
            rw [inSlot_of_written X (placeOf label slot) credential (Or.inr (hkey.trans (hid ▸ rfl)))]
              at h
            cases h
          show (kv₁.insert _ _).lookup key = kv.lookup key
          rw [lookup_insert_of, if_neg hne]
          exact hframe

/-- A write of a credential makes no key present but its own two. -/
theorem storeWithSecrets_absent (X : Crates) (fs : ImportFaults) (s : Storage)
    (credential : CredentialV2) (label : Option String) (slot : CredentialSlot)
    (nickname : Option String) (secrets : Option CredentialSecrets) (key : Key)
    (h : recordAt s key = none) (hpublic : key ≠ newKey X (placeOf label slot) credential)
    (hsecrets : key ≠ secretsKeyOf (newKey X (placeOf label slot) credential)) :
    recordAt (storeWithSecrets X fs s credential label slot nickname secrets).2 key = none := by
  obtain ⟨backend⟩ := s
  cases backend with
  | none => rfl
  | some kv =>
    have hout := storeCredentialWithSlot_outcome X fs.store fs.now credential label slot nickname kv
    -- deleting makes nothing present
    have herased : ∀ ks, (eraseAll kv ks).lookup key = none := by
      intro ks
      rw [lookup_eraseAll]
      split
      · rfl
      · exact h
    unfold storeWithSecrets
    rw [call_some]
    generalize storeCredentialWithSlot X fs.store fs.now credential label slot nickname kv = r
      at hout ⊢
    cases hout with
    | listFailed e hlist => exact h
    | deleteFailed keys gone k e hlist hpre hgone hfail => exact herased gone
    | storeFailed keys e hlist hgone hfail => exact herased _
    | stored keys hlist hgone hstore =>
      have hstored : ((eraseAll kv (slotKeys (placeOf label slot) keys)).insert
          (newKey X (placeOf label slot) credential)
          (newItem fs.now credential label slot nickname)).lookup key = none := by
        rw [lookup_insert_of, if_neg hpublic]
        exact herased _
      cases secrets with
      | none => exact hstored
      | some secrets =>
        simp only [call_some]
        rcases storeCredentialSecrets_outcome fs.secrets
            (newKey X (placeOf label slot) credential) secrets
            ((eraseAll kv (slotKeys (placeOf label slot) keys)).insert
              (newKey X (placeOf label slot) credential)
              (newItem fs.now credential label slot nickname)) with ⟨e, -, heq⟩ | ⟨-, heq⟩
        · rw [heq]
          exact hstored
        · rw [heq]
          show (AList.insert _ _ _).lookup key = none
          rw [lookup_insert_of, if_neg hsecrets]
          exact hstored

/-- An import that gets to its write is a write of what it prepared. -/
private theorem importCall_storage (X : Crates) (fs : ImportFaults) (s : Storage)
    (anchor : Option IssuerTrustAnchor) (call : ImportCall) :
    (call.run X fs ⟨s, anchor⟩).2 = s ∨
      ∃ slot credential secrets, call.resolve fs.resolve s = .ok slot ∧
        call.prepare X anchor = .ok (credential, secrets) ∧
        (call.run X fs ⟨s, anchor⟩).2 =
          (storeWithSecrets X fs s credential call.label slot call.nickname secrets).2 := by
  rw [ImportCall.run_eq]
  unfold ImportCall.stages
  simp only
  cases call.resolve fs.resolve s with
  | error e => exact Or.inl rfl
  | ok slot =>
    cases call.prepare X anchor with
    | error e => exact Or.inl rfl
    | ok r => exact Or.inr ⟨slot, r.1, r.2, rfl, rfl, rfl⟩

/-! ## §3. One operation -/

/-- What a deletion of keys does not reach stays. -/
private theorem recordAt_erases {gone : Key → Prop} {kv kv' : Kv} (h : Erases gone kv kv')
    {key : Key} (hkey : ¬ gone key) : recordAt ⟨some kv'⟩ key = recordAt ⟨some kv⟩ key :=
  (h key).2 hkey

/-- What was absent is absent after a deletion of keys. -/
private theorem recordAt_erases_absent {gone : Key → Prop} {kv kv' : Kv} (h : Erases gone kv kv')
    {key : Key} (hkey : recordAt ⟨some kv⟩ key = none) : recordAt ⟨some kv'⟩ key = none := by
  by_cases hgone : gone key
  · exact (h key).1 hgone
  · exact (recordAt_erases h hgone).trans hkey

/-- **One operation changes no record it does not reach**, whatever the
    backend answers. -/
theorem recordAt_untouched (X : Crates) (s : Storage) (op : SlotOp) (key : Key)
    (h : ¬ op.Reaches X s key) : recordAt (storageAfter X s op) key = recordAt s key := by
  cases op with
  | importCall call anchor fs =>
    show recordAt (call.run X fs ⟨s, anchor⟩).2 key = _
    rcases importCall_storage X fs s anchor call with
      hsame | ⟨slot, credential, secrets, hslot, hprepared, hrun⟩
    · rw [hsame]
    · rw [hrun]
      apply storeWithSecrets_untouched
      apply Bool.eq_false_of_not_eq_true
      intro hin
      exact h ⟨_, credential, ⟨slot, secrets, hslot, hprepared, rfl⟩, hin⟩
  | deleteCredential f id =>
    obtain ⟨backend⟩ := s
    cases backend with
    | none => rfl
    | some kv =>
      show recordAt (deleteCredentialById f ⟨some kv⟩ id).2 key = _
      rw [deleteCredentialById_storage]
      apply recordAt_erases (deleteCredential_erases f id kv)
      intro hgone
      exact h (hgone.2.imp_right And.left)
  | deleteSandbox f =>
    obtain ⟨backend⟩ := s
    cases backend with
    | none => rfl
    | some kv =>
      show recordAt (deleteSandbox f ⟨some kv⟩).2 key = _
      rw [deleteSandbox_storage]
      apply recordAt_erases (deleteSandboxCredentials_erases f kv)
      intro hgone
      exact h hgone.2.2.1
  | updateCredentialNickname f id nickname =>
    obtain ⟨backend⟩ := s
    cases backend with
    | none => rfl
    | some kv =>
      show recordAt (updateCredentialNickname X f ⟨some kv⟩ id nickname).2 key = _
      rw [updateCredentialNickname_storage]
      rcases updateCredentialNickname_outcome X f id nickname kv with
        ⟨-, hsame⟩ | ⟨item, stored, -, -, -, -, hwritten⟩
      · rw [hsame]
      · rw [hwritten]
        have hne : key ≠ id := h
        show (kv.insert _ _).lookup key = kv.lookup key
        rw [lookup_insert_of, if_neg hne]
  | cleanupExpiredCredentials f clock fd =>
    obtain ⟨backend⟩ := s
    cases backend with
    | none => rfl
    | some kv =>
      show recordAt (cleanupExpiredCredentials f clock fd ⟨some kv⟩).2 key = _
      obtain ⟨kv', hrun, herase⟩ := cleanupExpiredCredentials_erases f clock fd kv
      rw [hrun]
      apply recordAt_erases herase
      rintro ⟨infos, hlist, info, hinfo, hexpired, -, hkey⟩
      exact h ⟨infos, hlist, info, hinfo, hexpired, hkey.imp_right And.left⟩

/-- **Only an import makes a record present**: what is absent before any
    other operation is absent after it. -/
theorem recordAt_absent (X : Crates) (s : Storage) (op : SlotOp) (key : Key)
    (hkey : recordAt s key = none) (h : ¬ op.Writes X s key) :
    recordAt (storageAfter X s op) key = none := by
  cases op with
  | importCall call anchor fs =>
    show recordAt (call.run X fs ⟨s, anchor⟩).2 key = none
    rcases importCall_storage X fs s anchor call with
      hsame | ⟨slot, credential, secrets, hslot, hprepared, hrun⟩
    · rw [hsame]
      exact hkey
    · rw [hrun]
      have hinto : call.Into X s anchor fs (placeOf call.label slot) credential :=
        ⟨slot, secrets, hslot, hprepared, rfl⟩
      apply storeWithSecrets_absent X fs s credential call.label slot call.nickname secrets key hkey
      · intro heq
        exact h ⟨_, credential, hinto, Or.inl heq⟩
      · intro heq
        exact h ⟨_, credential, hinto, Or.inr heq⟩
  | deleteCredential f id =>
    obtain ⟨backend⟩ := s
    cases backend with
    | none => rfl
    | some kv =>
      show recordAt (deleteCredentialById f ⟨some kv⟩ id).2 key = none
      rw [deleteCredentialById_storage]
      exact recordAt_erases_absent (deleteCredential_erases f id kv) hkey
  | deleteSandbox f =>
    obtain ⟨backend⟩ := s
    cases backend with
    | none => rfl
    | some kv =>
      show recordAt (deleteSandbox f ⟨some kv⟩).2 key = none
      rw [deleteSandbox_storage]
      exact recordAt_erases_absent (deleteSandboxCredentials_erases f kv) hkey
  | updateCredentialNickname f id nickname =>
    by_cases hid : key = id
    · obtain ⟨backend⟩ := s
      cases backend with
      | none => rfl
      | some kv =>
        show recordAt (updateCredentialNickname X f ⟨some kv⟩ id nickname).2 key = none
        rw [updateCredentialNickname_storage]
        rcases updateCredentialNickname_outcome X f id nickname kv with
          ⟨-, hsame⟩ | ⟨item, stored, -, -, hitem, -, -⟩
        · rw [hsame]
          exact hkey
        · -- only a record that is there is renamed
          have hnone : kv.lookup id = none := hid ▸ hkey
          rw [hnone] at hitem
          cases hitem
    · exact (recordAt_untouched X s (.updateCredentialNickname f id nickname) key hid).trans hkey
  | cleanupExpiredCredentials f clock fd =>
    obtain ⟨backend⟩ := s
    cases backend with
    | none => rfl
    | some kv =>
      show recordAt (cleanupExpiredCredentials f clock fd ⟨some kv⟩).2 key = none
      obtain ⟨kv', hrun, herase⟩ := cleanupExpiredCredentials_erases f clock fd kv
      rw [hrun]
      exact recordAt_erases_absent herase hkey

/-! ## §4. Runs -/

/-- **What is absent stays absent while no import writes it.** -/
theorem recordAt_absent_run (X : Crates) (key : Key) {s : Storage} {ops : List SlotOp}
    (hkey : recordAt s key = none)
    (hops : StepsMeet (storageAfter X) (fun s op => ¬ op.Writes X s key) s ops) :
    Always (storageAfter X) (fun s => recordAt s key = none) s ops :=
  always_of_step (fun s op hs hop => recordAt_absent X s op key hs hop) hkey hops

/-! ## §5. Deleted credentials -/

variable {Params : Type}

/-- **The property** of a store and an id: no answer about credentials
    names it, and no proof is made with it. -/
structure Unusable (X : WalletCrates Params) (id : Key) (s : Storage) : Prop where
  /-- It is not listed. -/
  unlisted : ∀ f clock infos, s.read (listCredentials f clock) = .ok infos →
    ∀ info ∈ infos, info.id ≠ id
  /-- It is not read. -/
  unread : ∀ f cred, s.read (getCredential X.toCrates f id) ≠ .ok (some cred)
  /-- No proof is made with it. -/
  unproved : ∀ env challengeId session json, env.storage = s →
    (createAgeProof X env id challengeId session).1 ≠ .ok json
  /-- It is not offered for a challenge. -/
  unoffered : ∀ env config challengeId session answers, env.storage = s →
    getProvableCredentialsForChallenge X.toCrates env config challengeId session = .ok answers →
    ∀ answer ∈ answers, answer.id ≠ id
  /-- It is not chosen for a proof. -/
  unchosen : ∀ env config challengeId session, env.storage = s →
    autoCredential X env config challengeId session ≠ .ok id
  /-- It is not renamed. -/
  unrenamed : ∀ f nickname, (updateCredentialNickname X.toCrates f s id nickname).1 ≠ .ok ()

/-- The credentials that can prove are listed ones. -/
private theorem provable_unlisted {env : ListEnv} {config : WalletConfig}
    {credentials : List CredentialInfo} (h : provableCredentials env config = .ok credentials)
    {id : Key} (hid : recordAt env.storage id = none) : ∀ c ∈ credentials, c.id ≠ id := by
  intro c hc heq
  obtain ⟨kv, hkv, hentry⟩ := listEntry_of_provable h hc
  obtain ⟨item, stored, hitem, -⟩ := listEntry_record hentry
  unfold recordAt at hid
  rw [hkv, ← heq] at hid
  exact absurd (hitem.symm.trans hid) (Option.some_ne_none item)

/-- **Without its record an id is out of use**, whether or not secrets of
    it are left. -/
theorem unusable_of_absent (X : WalletCrates Params) {s : Storage} {id : Key}
    (hid : recordAt s id = none) : Unusable X id s where
  unlisted := by
    obtain ⟨backend⟩ := s
    intro f clock infos hlist info hinfo heq
    cases backend with
    | none => cases hlist
    | some kv =>
      obtain ⟨item, stored, hitem, -⟩ := listEntry_record (listEntry_of_listCredentials hlist info hinfo)
      rw [heq] at hitem
      exact absurd (hitem.symm.trans hid) (Option.some_ne_none item)
  unread := by
    obtain ⟨backend⟩ := s
    intro f cred hread
    cases backend with
    | none => cases hread
    | some kv =>
      obtain ⟨item, stored, hitem, -⟩ := getCredential_some hread
      exact absurd (hitem.symm.trans hid) (Option.some_ne_none item)
  unproved := by
    intro env challengeId session json henv hproof
    unfold createAgeProof at hproof
    rw [finishProof_ok_iff] at hproof
    obtain ⟨request, hrequest, -⟩ := hproof
    rw [ageProofRequest_ok_iff] at hrequest
    obtain ⟨challenge, cred, -, hcred, -⟩ := hrequest
    obtain ⟨kv, item, stored, secretsItem, secrets, hkv, hitem, -⟩ := credentialWithSecrets_ok hcred
    unfold recordAt at hid
    rw [← henv, hkv] at hid
    exact absurd (hitem.symm.trans hid) (Option.some_ne_none item)
  unoffered := by
    intro env config challengeId session answers henv hanswers answer hanswer
    obtain ⟨challenge, credentials, -, hprovable, heq⟩ := getProvable_ok hanswers
    rw [heq, List.mem_map] at hanswer
    obtain ⟨c, hc, hsuit⟩ := hanswer
    rw [← hsuit]
    exact provable_unlisted hprovable (henv ▸ hid) c hc
  unchosen := by
    intro env config challengeId session henv hauto
    unfold autoCredential at hauto
    simp only [bind_eq_ok_iff] at hauto
    obtain ⟨challenge, -, credentials, hprovable, hchosen⟩ := hauto
    have hunlisted := provable_unlisted hprovable (henv ▸ hid)
    split at hchosen
    next => cases hchosen
    next cred =>
      injection hchosen with hchosen
      exact hunlisted cred List.mem_cons_self hchosen
    next => cases hchosen
  unrenamed := by
    obtain ⟨backend⟩ := s
    intro f nickname hrenamed
    unfold updateCredentialNickname Storage.call Ffi.updateCredentialNickname at hrenamed
    cases backend with
    | none => cases hrenamed
    | some kv =>
      have hlookup : kv.lookup id = none := hid
      simp only at hrenamed
      cases hret : retrieve f kv id with
      | error e =>
        rw [hret] at hrenamed
        cases hrenamed
      | ok data =>
        obtain ⟨item, hitem, -⟩ := retrieve_eq_ok hret
        exact absurd (hitem.symm.trans hlookup) (Option.some_ne_none item)

/-- A deletion that is answered with success leaves no record under the
    id. -/
theorem deleted_absent {f : Faults} {s : Storage} {id : Key}
    (h : (deleteCredentialById f s id).1 = .ok ()) :
    recordAt (deleteCredentialById f s id).2 id = none := by
  obtain ⟨backend⟩ := s
  cases backend with
  | none => cases h
  | some kv =>
    rw [deleteCredentialById_storage]
    refine (deleteCredential_erases f id kv id).1 ⟨?_, Or.inl rfl⟩
    unfold deleteCredentialById at h
    rw [call_some] at h
    rcases deleteCredential_outcome f id kv with ⟨e, -, heq⟩ | ⟨hpub, -⟩ | ⟨hpub, -⟩
    · rw [heq] at h
      cases h
    · exact hpub
    · exact hpub

/-- **A deleted credential stays out of use**: once a deletion is
    answered with success, then over any run of imports, deletions,
    sweeps, renamings and cleanups, with any failures of the backend, as
    long as no import writes the same id again, no state lists, reads,
    renames, offers or chooses the credential, and no proof is made with
    it. -/
theorem deleted_stays_unusable (X : WalletCrates Params) (f : Faults) (s : Storage) (id : Key)
    (ops : List SlotOp) (hdeleted : (deleteCredentialById f s id).1 = .ok ())
    (hops : StepsMeet (storageAfter X.toCrates) (fun s op => ¬ op.Writes X.toCrates s id)
      (deleteCredentialById f s id).2 ops) :
    Always (storageAfter X.toCrates) (Unusable X id) (deleteCredentialById f s id).2 ops := by
  apply (recordAt_absent_run X.toCrates id (deleted_absent hdeleted) hops).imp
  intro s hs
  exact unusable_of_absent X hs

/-- Crates for which every document is the open credential. -/
def openDocumentCrates : WalletCrates Unit :=
  { sampleCratesOf with parseCredential := fun _ => .ok openCredential }

/-- The open credential comes in again, as a sandbox one, and a cleanup
    follows. -/
def sandboxImportAndCleanup : List SlotOp :=
  [.importCall (.storeCredentialWithLabel "a" (some "sandbox") "managed" none) none
      { resolve := .never, store := .never, secrets := .never, now := 1 },
    .cleanupExpiredCredentials .never (fun _ => 1) fun _ => .never]

/-- After the deletion of the open credential, such a run. -/
theorem deleted_stays_unusable_open :
    Always (storageAfter openDocumentCrates.toCrates) (Unusable openDocumentCrates openCredentialId)
      (deleteCredentialById .never openImport.2 openCredentialId).2 sandboxImportAndCleanup := by
  have hkey : openCredentialId =
      recordKey (placeOf none .primary) .cred (baseIdFor sampleCratesOf.toCrates
        (redacted openCredential)) := newKey_eq ..
  apply deleted_stays_unusable openDocumentCrates .never openImport.2 openCredentialId
    sandboxImportAndCleanup (by decide +kernel)
  refine ⟨?_, fun h => h, trivial⟩
  rintro ⟨p, credential, ⟨slot, secrets, hslot, hprepared, rfl⟩, hwritten⟩
  -- the import writes into the sandbox, and the id is production's
  have hin := inSlot_of_written openDocumentCrates.toCrates _ credential hwritten
  rw [hkey, inSlot_recordKey, decide_eq_true_iff] at hin
  have hns : fromLabel (some "sandbox") = fromLabel none := congrArg Place.ns hin
  exact absurd hns (by decide)

end ProviiSdk.Wallet
