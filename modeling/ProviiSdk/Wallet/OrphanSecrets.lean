/-
  ProviiSdk.Wallet.OrphanSecrets — secrets without a credential.

  A secrets record should never outlive its public record.  This file
  runs the operations that write and delete credential records, with
  arbitrary backend failures, and says exactly which steps can leave an
  orphan: those whose backend deletes remove a public record but not its
  present secrets record, and a secrets write under an id whose public
  record is gone.

  Main results:
    * `noOrphan_erases_iff` — deletes keep the invariant exactly when
      the secrets go with their public record.
    * `noOrphans_iff` — over any run from the empty store, no state has
      an orphan and every successful delete is complete, exactly when
      all steps meet the condition.
    * `deleted_credential_leaves_secrets` — a run that leaves one.
-/

import Mathlib.Data.List.TakeWhile
import ProviiSdk.Core.Sample
import ProviiSdk.Lib.Run
import ProviiSdk.Wallet.Credentials

namespace ProviiSdk.Wallet

open ProviiSdk.Core ProviiSdk.Platform ProviiSdk.Ffi ProviiSdk.Run

/-! ## §1. Orphans and erased keys -/

/-- Every secrets record has its public record: same namespace, slot and
    base id. -/
def NoOrphan (kv : Kv) : Prop :=
  ∀ p b, kv.lookup (recordKey p .credsec b) ≠ none → kv.lookup (recordKey p .cred b) ≠ none

/-- The contents `post` are `pre` without the keys in `gone`. -/
def Erases (gone : Key → Prop) (pre post : Kv) : Prop :=
  ∀ j, (gone j → post.lookup j = none) ∧ (¬ gone j → post.lookup j = pre.lookup j)

/-- Where a public record goes, its present secrets record goes too. -/
def SecretsFollow (gone : Key → Prop) (kv : Kv) : Prop :=
  ∀ p b, kv.lookup (recordKey p .credsec b) ≠ none → gone (recordKey p .cred b) →
    gone (recordKey p .credsec b)

theorem secretsFollow_of_never (gone : Key → Prop) (kv : Kv) (h : ∀ j, ¬ gone j) :
    SecretsFollow gone kv :=
  fun _ _ _ hg => absurd hg (h _)

/-- **Deletes keep the invariant exactly when secrets follow.** -/
theorem noOrphan_erases_iff {gone : Key → Prop} {pre post : Kv} (hpre : NoOrphan pre)
    (h : Erases gone pre post) : NoOrphan post ↔ SecretsFollow gone pre := by
  constructor
  · intro hpost p b hsec hpub
    by_cases hg : gone (recordKey p .credsec b)
    · exact hg
    · have hsec' : post.lookup (recordKey p .credsec b) ≠ none := by
        rw [(h _).2 hg]
        exact hsec
      exact absurd ((h _).1 hpub) (hpost p b hsec')
  · intro hfollow p b hsec
    have hg : ¬ gone (recordKey p .credsec b) := fun hg => hsec ((h _).1 hg)
    rw [(h _).2 hg] at hsec
    have hpub : ¬ gone (recordKey p .cred b) := fun hp => hg (hfollow p b hsec hp)
    rw [(h _).2 hpub]
    exact hpre p b hsec

/-- Adding the secrets of a present credential keeps the invariant, and
    takes no orphan away. -/
theorem noOrphan_insert_secrets_iff (kv : Kv) (p : Place) (b : BaseId) (item : Item)
    (hpub : kv.lookup (recordKey p .cred b) ≠ none) :
    NoOrphan (kv.insert (recordKey p .credsec b) item) ↔ NoOrphan kv := by
  have hother : ∀ q c, (kv.insert (recordKey p .credsec b) item).lookup (recordKey q .cred c) =
      kv.lookup (recordKey q .cred c) := by
    intro q c
    rw [lookup_insert_of, if_neg]
    intro h
    exact absurd ((recordKey_inj ..).1 h).2.1 (by decide)
  constructor
  · intro h q c hsec
    rw [← hother]
    refine h q c ?_
    rw [lookup_insert_of]
    split
    · simp
    · exact hsec
  · intro h q c hsec
    rw [hother]
    rw [lookup_insert_of] at hsec
    split at hsec
    next heq =>
      obtain ⟨rfl, _, rfl⟩ := (recordKey_inj ..).1 heq
      exact hpub
    next => exact h q c hsec

/-! ## §2. What each method erases -/

/-- The keys a slot store deletes: the slot's listed keys up to the
    first one whose delete fails. -/
def slotGone (f : Faults) (p : Place) (kv : Kv) (j : Key) : Prop :=
  ∃ keys, listKeys f kv = .ok keys ∧
    j ∈ (slotKeys p keys).takeWhile (fun k => (f.delete k).isNone)

/-- The keys a credential delete removes. -/
def deleteGone (f : Faults) (id : Key) (j : Key) : Prop :=
  f.delete id = none ∧ (j = id ∨ j = secretsKeyOf id ∧ f.delete (secretsKeyOf id) = none)

/-- The keys the cleanup loop removes. -/
def expiredGone (fd : Key → Faults) (infos : List CredentialInfo) (j : Key) : Prop :=
  ∃ info ∈ infos, info.isExpired = true ∧ deleteGone (fd info.id) info.id j

/-- The keys the sandbox sweep removes. -/
def sandboxGone (f : Faults) (j : Key) : Prop :=
  f.list = none ∧ inNamespace .sandbox j = true ∧ f.delete j = none

theorem deleteCredential_erases (f : Faults) (id : Key) (kv : Kv) :
    Erases (deleteGone f id) kv (deleteCredential f id kv).2 := by
  intro j
  unfold deleteGone
  rcases deleteCredential_outcome f id kv with ⟨e, hpub, h⟩ | ⟨hpub, hsec, h⟩ | ⟨hpub, hsec, h⟩
  · rw [h, hpub]
    simp
  · rw [h]
    simp only [hpub, hsec, lookup_erase_of, true_and, and_false, or_false]
    by_cases hj : j = id <;> simp [hj]
  · rw [h]
    simp only [hpub, hsec, lookup_erase_of, true_and, and_true]
    by_cases hj : j = id <;> by_cases hj' : j = secretsKeyOf id <;> simp [hj, hj']

theorem deleteExpired_erases (fd : Key → Faults) (infos : List CredentialInfo) (n : Nat) (kv : Kv) :
    ∃ kv', (deleteExpired fd infos n ⟨some kv⟩).2 = ⟨some kv'⟩ ∧
      Erases (expiredGone fd infos) kv kv' := by
  induction infos generalizing n kv with
  | nil => exact ⟨kv, rfl, fun j => ⟨by simp [expiredGone], fun _ => rfl⟩⟩
  | cons info infos ih =>
    unfold deleteExpired
    by_cases hexp : info.isExpired = true
    · rw [if_pos hexp, call_some]
      have herase := deleteCredential_erases (fd info.id) info.id kv
      generalize deleteCredential (fd info.id) info.id kv = r at herase ⊢
      obtain ⟨res, kv₁⟩ := r
      -- both branches go on from the contents this delete leaves
      have htwo : ∀ kv₂, Erases (expiredGone fd infos) kv₁ kv₂ →
          Erases (expiredGone fd (info :: infos)) kv kv₂ := by
        intro kv₂ hrest j
        refine ⟨?_, ?_⟩
        · rintro ⟨info', hmem, hexp', hgone⟩
          by_cases htail : expiredGone fd infos j
          · exact (hrest j).1 htail
          · rw [(hrest j).2 htail]
            rcases List.mem_cons.1 hmem with rfl | hmem
            · exact (herase j).1 hgone
            · exact absurd ⟨info', hmem, hexp', hgone⟩ htail
        · intro hnot
          have htail : ¬ expiredGone fd infos j := by
            rintro ⟨info', hmem, h⟩
            exact hnot ⟨info', List.mem_cons_of_mem _ hmem, h⟩
          have hhead : ¬ deleteGone (fd info.id) info.id j :=
            fun h => hnot ⟨info, by simp, hexp, h⟩
          rw [(hrest j).2 htail, (herase j).2 hhead]
      cases res with
      | error e =>
        obtain ⟨kv₂, hrun, hrest⟩ := ih n kv₁
        exact ⟨kv₂, hrun, htwo kv₂ hrest⟩
      | ok u =>
        obtain ⟨kv₂, hrun, hrest⟩ := ih (n + 1) kv₁
        exact ⟨kv₂, hrun, htwo kv₂ hrest⟩
    · rw [if_neg hexp]
      obtain ⟨kv₂, hrun, hrest⟩ := ih n kv
      refine ⟨kv₂, hrun, fun j => ?_⟩
      have hiff : expiredGone fd (info :: infos) j ↔ expiredGone fd infos j := by
        unfold expiredGone
        simp [hexp]
      rw [hiff]
      exact hrest j

/-- A cleanup deletes the records of the credentials it lists as
    expired. -/
theorem cleanupExpiredCredentials_erases (f : Faults) (clock : Key → Int64) (fd : Key → Faults)
    (kv : Kv) :
    ∃ kv', (cleanupExpiredCredentials f clock fd ⟨some kv⟩).2 = ⟨some kv'⟩ ∧
      Erases (fun j => ∃ infos, listCredentials f clock kv = .ok infos ∧ expiredGone fd infos j)
        kv kv' := by
  unfold cleanupExpiredCredentials
  rw [read_some]
  cases listCredentials f clock kv with
  | error e =>
    refine ⟨kv, rfl, fun j => ⟨?_, fun _ => rfl⟩⟩
    rintro ⟨infos, h, -⟩
    cases h
  | ok infos =>
    obtain ⟨kv', hrun, herase⟩ := deleteExpired_erases fd infos 0 kv
    refine ⟨kv', hrun, fun j => ?_⟩
    have hgone : (∃ infos', Except.ok (ε := String) infos = .ok infos' ∧ expiredGone fd infos' j) ↔
        expiredGone fd infos j := by
      constructor
      · rintro ⟨infos', h, hj⟩
        injection h with h
        exact h ▸ hj
      · intro hj
        exact ⟨infos, rfl, hj⟩
    have hj := herase j
    rw [← hgone] at hj
    exact hj

theorem deleteSandboxCredentials_erases (f : Faults) (kv : Kv) :
    Erases (fun j => kv.lookup j ≠ none ∧ sandboxGone f j) kv (deleteSandboxCredentials f kv).2 := by
  intro j
  unfold deleteSandboxCredentials deleteAllInNamespace sandboxGone
  cases hl : listKeys f kv with
  | error e =>
    have hlist : f.list ≠ none := by
      intro h
      unfold listKeys at hl
      rw [h] at hl
      cases hl
    simp [hlist]
  | ok keys =>
    have hlist : f.list = none := by
      unfold listKeys at hl
      split at hl
      · cases hl
      · assumption
    simp only [deleteMatching_spec, lookup_eraseAll, List.mem_filter, mem_listKeys hl,
      Option.isSome_iff_ne_none, Bool.and_eq_true, Option.isNone_iff_eq_none, hlist, true_and]
    by_cases hj : kv.lookup j ≠ none ∧ inNamespace .sandbox j = true ∧ f.delete j = none
    · simp [hj]
    · simp only [hj, if_false]
      simp

/-! ## §3. Stores into a slot -/

/-- The deleted keys of a listing are a run of successful deletes from
    its front. -/
private theorem takeWhile_eq_of_cut {α : Type} {q : α → Bool} {l gone : List α} {k : α}
    (hpre : gone ++ [k] <+: l) (hgone : ∀ g ∈ gone, q g = true) (hk : q k = false) :
    l.takeWhile q = gone := by
  obtain ⟨rest, rfl⟩ := hpre
  rw [List.append_assoc, List.takeWhile_append_of_pos hgone]
  simp [hk]

private theorem slotGone_iff {f : Faults} {p : Place} {kv : Kv} {keys : List Key}
    (hlist : listKeys f kv = .ok keys) (j : Key) :
    slotGone f p kv j ↔ j ∈ (slotKeys p keys).takeWhile (fun k => (f.delete k).isNone) := by
  unfold slotGone
  constructor
  · rintro ⟨keys', hlist', h⟩
    rw [hlist] at hlist'
    injection hlist' with hlist'
    rw [hlist']
    exact h
  · exact fun h => ⟨keys, hlist, h⟩

/-- Deleting keys one after the other erases them. -/
theorem erases_eraseAll {gone : Key → Prop} {kv : Kv} {ks : List Key}
    (h : ∀ j, gone j ↔ j ∈ ks) : Erases gone kv (eraseAll kv ks) := by
  intro j
  rw [h, lookup_eraseAll]
  exact ⟨fun hj => if_pos hj, fun hj => if_neg hj⟩

/-- A store that empties its slot keeps the invariant, whatever it does
    with the new record: nothing else of the slot is left. -/
private theorem noOrphan_stored {kv kv' : Kv} (p : Place) (b₀ : BaseId) (item : Item)
    (hkv : NoOrphan kv)
    (h : ∀ k, kv'.lookup k =
      if k = recordKey p .cred b₀ then some item else if inSlot p k then none else kv.lookup k) :
    NoOrphan kv' := by
  intro q c hsec
  rw [h, if_neg (fun he => absurd ((recordKey_inj ..).1 he).2.1 (by decide))] at hsec
  rw [h]
  split
  · simp
  · rw [inSlot_recordKey] at hsec ⊢
    by_cases hpq : p = q
    · rw [decide_eq_true hpq] at hsec
      exact absurd rfl hsec
    · rw [decide_eq_false hpq] at hsec ⊢
      exact hkv q c hsec

/-- **A slot store keeps the invariant exactly when secrets follow** in
    its emptying loop. -/
theorem storeCredentialWithSlot_noOrphan_iff (X : Crates) (f : Faults) (now : Int64)
    (credential : CredentialV2) (label : Option String) (slot : CredentialSlot)
    (nickname : Option String) (kv : Kv) (hkv : NoOrphan kv) :
    NoOrphan (storeCredentialWithSlot X f now credential label slot nickname kv).2 ↔
      SecretsFollow (slotGone f (placeOf label slot) kv) kv := by
  have hout := storeCredentialWithSlot_outcome X f now credential label slot nickname kv
  generalize storeCredentialWithSlot X f now credential label slot nickname kv = r at hout ⊢
  cases hout with
  | listFailed e hlist =>
    refine iff_of_true hkv (secretsFollow_of_never _ _ ?_)
    rintro j ⟨keys, hlist', -⟩
    rw [hlist] at hlist'
    cases hlist'
  | deleteFailed keys gone k e hlist hpre hgone hfail =>
    refine noOrphan_erases_iff hkv (erases_eraseAll fun j => ?_)
    rw [slotGone_iff hlist, takeWhile_eq_of_cut hpre (by simpa using hgone) (by simp [hfail])]
  | storeFailed keys e hlist hgone hfail =>
    refine noOrphan_erases_iff hkv (erases_eraseAll fun j => ?_)
    rw [slotGone_iff hlist, List.takeWhile_eq_self_iff.2 (by simpa using hgone)]
  | stored keys hlist hgone hstore =>
    refine iff_of_true ?_ ?_
    · refine noOrphan_stored (placeOf label slot) (baseIdFor X credential)
        (newItem now credential label slot nickname) hkv (fun k => ?_)
      rw [lookup_insert_of, lookup_eraseAll_slotKeys hlist]
      rfl
    · -- every stored key of the slot was deleted, the secrets among them
      intro p b hsec hpub
      rw [slotGone_iff hlist, List.takeWhile_eq_self_iff.2 (by simpa using hgone)] at hpub ⊢
      rw [mem_slotKeys hlist, inSlot_recordKey] at hpub ⊢
      exact ⟨Option.isSome_iff_ne_none.2 hsec, hpub.2⟩

/-- The same for a write with its secrets: they go under the id of the
    record just written. -/
theorem storeWithSecrets_noOrphan_iff (X : Crates) (fs : ImportFaults) (credential : CredentialV2)
    (label : Option String) (slot : CredentialSlot) (nickname : Option String)
    (secrets : Option CredentialSecrets) (kv : Kv) (hkv : NoOrphan kv) :
    ∃ kv', (storeWithSecrets X fs ⟨some kv⟩ credential label slot nickname secrets).2 =
        ⟨some kv'⟩ ∧
      (NoOrphan kv' ↔ SecretsFollow (slotGone fs.store (placeOf label slot) kv) kv) := by
  have hiff := storeCredentialWithSlot_noOrphan_iff X fs.store fs.now credential label slot
    nickname kv hkv
  have hout := storeCredentialWithSlot_outcome X fs.store fs.now credential label slot nickname kv
  unfold storeWithSecrets
  rw [call_some]
  generalize storeCredentialWithSlot X fs.store fs.now credential label slot nickname kv = r
    at hiff hout ⊢
  obtain ⟨res, kv₁⟩ := r
  cases res with
  | error msg => exact ⟨kv₁, rfl, hiff⟩
  | ok credId =>
    cases secrets with
    | none => exact ⟨kv₁, rfl, hiff⟩
    | some secrets =>
      cases hout with
      | stored keys hlist hgone hstore =>
        simp only [call_some]
        rcases storeCredentialSecrets_outcome fs.secrets
            (newKey X (placeOf label slot) credential) secrets _ with
          ⟨e, _, heq⟩ | ⟨_, heq⟩
        · rw [heq]
          exact ⟨_, rfl, hiff⟩
        · rw [heq]
          refine ⟨_, rfl, ?_⟩
          rw [newKey_eq, secretsKeyOf_recordKey, noOrphan_insert_secrets_iff]
          · exact hiff
          · rw [lookup_insert_of, if_pos rfl]
            simp

/-! ## §4. The record machine -/

/-- The store, and the credential ids its slot stores have returned. -/
structure RecordState where
  storage : Storage
  issued : List Key

/-- The backend's contents; empty while none is attached. -/
def RecordState.contents (s : RecordState) : Kv := s.storage.backend.getD ∅

/-- An operation that writes or deletes credential records. -/
inductive RecordOp where
  | storeCredentialWithSlot (f : Faults) (now : Int64) (credential : CredentialV2)
    (label : Option String) (slot : CredentialSlot) (nickname : Option String)
  | storeCredentialSecrets (f : Faults) (credId : Key) (secrets : CredentialSecrets)
  | importCredentialInternal (fs : ImportFaults) (json : String) (label : Option String)
    (slot : CredentialSlot) (nickname : Option String)
  | storeCredentialWithLabel (fs : ImportFaults) (json : String) (label : Option String)
    (credentialType : String) (nickname : Option String)
  | finalizeAndStoreCredential (fs : ImportFaults) (anchor : Option IssuerTrustAnchor)
    (call : FinalizeCall)
  | deleteCredential (f : Faults) (credentialId : Key)
  | cleanupExpiredCredentials (f : Faults) (clock : Key → Int64) (fd : Key → Faults)
  | deleteSandboxCredentials (f : Faults)

/-- The state after a call that returned `r` and left `storage`. -/
def RecordState.after {ε : Type} (s : RecordState) (r : Except ε Key × Storage) : RecordState :=
  match r.1 with
  | .ok id => { storage := r.2, issued := id :: s.issued }
  | .error _ => { s with storage := r.2 }

/-- The state after an operation. -/
def recordStep (X : Crates) (s : RecordState) : RecordOp → RecordState
  | .storeCredentialWithSlot f now credential label slot nickname =>
    s.after (s.storage.call
      (Ffi.storeCredentialWithSlot X f now credential label slot nickname))
  | .storeCredentialSecrets f credId secrets =>
    { s with storage := (s.storage.call (Ffi.storeCredentialSecrets f credId secrets)).2 }
  | .importCredentialInternal fs json label slot nickname =>
    s.after (Wallet.importCredentialInternal X fs s.storage json label slot nickname)
  | .storeCredentialWithLabel fs json label type nickname =>
    s.after (Wallet.storeCredentialWithLabel X fs s.storage json label type nickname)
  | .finalizeAndStoreCredential fs anchor call =>
    s.after (call.run X fs { storage := s.storage, issuerTrustAnchor := anchor })
  | .deleteCredential f id => { s with storage := (deleteCredentialById f s.storage id).2 }
  | .cleanupExpiredCredentials f clock fd =>
    { s with storage := (Wallet.cleanupExpiredCredentials f clock fd s.storage).2 }
  | .deleteSandboxCredentials f => { s with storage := (deleteSandbox f s.storage).2 }

/-- The secrets of a credential are stored under an id that a slot store
    returned. -/
def IdIssued (s : RecordState) : RecordOp → Prop
  | .storeCredentialSecrets _ credId _ => credId ∈ s.issued
  | _ => True

/-- A delete of a credential by its public key that returns `Ok` leaves
    neither of its records. -/
def DeleteComplete (X : Crates) (s : RecordState) : RecordOp → Prop
  | .deleteCredential f id =>
    ∀ p b, id = recordKey p .cred b → (deleteCredentialById f s.storage id).1 = .ok () →
      (recordStep X s (.deleteCredential f id)).contents.lookup (recordKey p .cred b) = none ∧
      (recordStep X s (.deleteCredential f id)).contents.lookup (recordKey p .credsec b) = none
  | _ => True

/-- The keys an operation's backend deletes remove, from the outcomes of
    those deletes. -/
def goneBy (X : Crates) (s : RecordState) : RecordOp → Key → Prop
  | .storeCredentialWithSlot f _ _ label slot _ => slotGone f (placeOf label slot) s.contents
  | .storeCredentialSecrets _ _ _ => fun _ => False
  | .importCredentialInternal fs json label slot _ => fun j =>
    (∃ cred, X.parseCredential json = .ok cred) ∧ slotGone fs.store (placeOf label slot) s.contents j
  | .storeCredentialWithLabel fs json label type _ => fun j =>
    ∃ slot, resolveSlot fs.resolve s.storage type label = .ok slot ∧
      (∃ cred, X.parseCredential json = .ok cred) ∧
      slotGone fs.store (placeOf label slot) s.contents j
  | .finalizeAndStoreCredential fs anchor c => fun j =>
    ∃ slot credential secrets,
      finalizeChecks X fs.resolve { storage := s.storage, issuerTrustAnchor := anchor } c.headerJson
        c.dobDays c.rBitsB64 c.label c.credentialType = .ok (slot, credential, secrets) ∧
      slotGone fs.store (placeOf c.label slot) s.contents j
  | .deleteCredential f id => deleteGone f id
  | .cleanupExpiredCredentials f clock fd => fun j =>
    ∃ infos, listCredentials f clock s.contents = .ok infos ∧ expiredGone fd infos j
  | .deleteSandboxCredentials f => fun j => s.contents.lookup j ≠ none ∧ sandboxGone f j

/-- The condition on a step: its deletes take the present secrets along
    with every public record they remove, and a secrets write finds the
    public record of its id. -/
def KeepsPairs (X : Crates) (s : RecordState) (op : RecordOp) : Prop :=
  SecretsFollow (goneBy X s op) s.contents ∧
    match op with
    | .storeCredentialSecrets f credId _ =>
      f.store (secretsKeyOf credId) = none → s.contents.lookup credId ≠ none
    | _ => True

/-- What every state of a run satisfies: a backend is attached, and the
    issued ids are public keys. -/
def RecordInv (s : RecordState) : Prop :=
  (∃ kv, s.storage = ⟨some kv⟩) ∧ ∀ id ∈ s.issued, ∃ p b, id = recordKey p .cred b

/-! ## §5. One step -/

/-- A slot store returns the public key it wrote. -/
theorem storeCredentialWithSlot_id {X : Crates} {f : Faults} {now : Int64}
    {credential : CredentialV2} {label : Option String} {slot : CredentialSlot}
    {nickname : Option String} {kv : Kv} {id : Key}
    (h : (storeCredentialWithSlot X f now credential label slot nickname kv).1 = .ok id) :
    id = recordKey (placeOf label slot) .cred (baseIdFor X credential) := by
  have hout := storeCredentialWithSlot_outcome X f now credential label slot nickname kv
  generalize storeCredentialWithSlot X f now credential label slot nickname kv = r at hout h
  cases hout with
  | listFailed e hlist => cases h
  | deleteFailed keys gone k e hlist hpre hgone hfail => cases h
  | storeFailed keys e hlist hgone hfail => cases h
  | stored keys hlist hgone hstore =>
    injection h with h
    exact h.symm

/-- A write with its secrets keeps the backend attached and returns the
    public key it wrote. -/
theorem storeWithSecrets_attached (X : Crates) (fs : ImportFaults) (kv : Kv)
    (credential : CredentialV2) (label : Option String) (slot : CredentialSlot)
    (nickname : Option String) (secrets : Option CredentialSecrets) :
    (∃ kv', (storeWithSecrets X fs ⟨some kv⟩ credential label slot nickname secrets).2 =
        ⟨some kv'⟩) ∧
      ∀ id, (storeWithSecrets X fs ⟨some kv⟩ credential label slot nickname secrets).1 = .ok id →
        id = recordKey (placeOf label slot) .cred (baseIdFor X credential) := by
  have hid := @storeCredentialWithSlot_id X fs.store fs.now credential label slot nickname kv
  unfold storeWithSecrets
  rw [call_some]
  generalize storeCredentialWithSlot X fs.store fs.now credential label slot nickname kv = r
    at hid ⊢
  obtain ⟨res, kv₁⟩ := r
  cases res with
  | error msg => exact ⟨⟨kv₁, rfl⟩, fun id h => by cases h⟩
  | ok credId =>
    cases secrets with
    | none =>
      refine ⟨⟨kv₁, rfl⟩, fun id h => ?_⟩
      injection h with h
      exact h ▸ hid rfl
    | some secrets =>
      simp only [call_some]
      rcases storeCredentialSecrets_outcome fs.secrets credId secrets kv₁ with
        ⟨e, _, heq⟩ | ⟨_, heq⟩
      · rw [heq]
        exact ⟨⟨_, rfl⟩, fun id h => by cases h⟩
      · rw [heq]
        refine ⟨⟨_, rfl⟩, fun id h => ?_⟩
        injection h with h
        exact h ▸ hid rfl

/-- The state after a write keeps the invariant if the write keeps the
    backend attached and returns a public key. -/
private theorem recordInv_after {ε : Type} {s : RecordState} {r : Except ε Key × Storage}
    (hs : RecordInv s) (hkv : ∃ kv', r.2 = ⟨some kv'⟩)
    (hid : ∀ id, r.1 = .ok id → ∃ p b, id = recordKey p .cred b) : RecordInv (s.after r) := by
  obtain ⟨res, st⟩ := r
  cases res with
  | error e => exact ⟨hkv, hs.2⟩
  | ok id =>
    refine ⟨hkv, fun j hj => ?_⟩
    rcases List.mem_cons.1 hj with rfl | hj
    · exact hid j rfl
    · exact hs.2 j hj

/-- The contents after a call do not depend on its answer. -/
private theorem contents_after {ε : Type} (s : RecordState) (r : Except ε Key × Storage) :
    (s.after r).contents = r.2.backend.getD ∅ := by
  unfold RecordState.after RecordState.contents
  split <;> rfl

/-- **A step of any operation keeps the run's invariant.** -/
theorem recordInv_step (X : Crates) (s : RecordState) (op : RecordOp) (hs : RecordInv s) :
    RecordInv (recordStep X s op) := by
  obtain ⟨⟨kv, hkv⟩, hids⟩ := hs
  obtain ⟨storage, issued⟩ := s
  simp only at hkv
  subst hkv
  have hs : RecordInv ⟨⟨some kv⟩, issued⟩ := ⟨⟨kv, rfl⟩, hids⟩
  cases op with
  | storeCredentialWithSlot f now credential label slot nickname =>
    exact recordInv_after hs ⟨_, rfl⟩ fun id h => ⟨_, _, storeCredentialWithSlot_id h⟩
  | storeCredentialSecrets f credId secrets => exact ⟨⟨_, rfl⟩, hids⟩
  | importCredentialInternal fs json label slot nickname =>
    show RecordInv (RecordState.after _ (importCredentialInternal X fs ⟨some kv⟩ json label slot
      nickname))
    unfold importCredentialInternal
    cases X.parseCredential json with
    | error e => exact recordInv_after hs ⟨kv, rfl⟩ fun id h => by cases h
    | ok cred =>
      obtain ⟨hkv', hid⟩ := storeWithSecrets_attached X fs kv (redacted cred) label slot nickname
        (takeSecrets cred)
      exact recordInv_after hs hkv' fun id h => ⟨_, _, hid id h⟩
  | storeCredentialWithLabel fs json label type nickname =>
    show RecordInv (RecordState.after _ (storeCredentialWithLabel X fs ⟨some kv⟩ json label type
      nickname))
    unfold storeCredentialWithLabel importCredentialInternal
    cases resolveSlot fs.resolve ⟨some kv⟩ type label with
    | error e => exact recordInv_after hs ⟨kv, rfl⟩ fun id h => by cases h
    | ok slot =>
      cases X.parseCredential json with
      | error e => exact recordInv_after hs ⟨kv, rfl⟩ fun id h => by cases h
      | ok cred =>
        obtain ⟨hkv', hid⟩ := storeWithSecrets_attached X fs kv (redacted cred) label slot nickname
          (takeSecrets cred)
        exact recordInv_after hs hkv' fun id h => ⟨_, _, hid id h⟩
  | finalizeAndStoreCredential fs anchor c =>
    show RecordInv (RecordState.after _ (c.run X fs ⟨⟨some kv⟩, anchor⟩))
    unfold FinalizeCall.run finalizeAndStoreCredential
    cases finalizeChecks X fs.resolve ⟨⟨some kv⟩, anchor⟩ c.headerJson c.dobDays c.rBitsB64 c.label
        c.credentialType with
    | error e => exact recordInv_after hs ⟨kv, rfl⟩ fun id h => by cases h
    | ok r =>
      obtain ⟨slot, credential, secrets⟩ := r
      obtain ⟨hkv', hid⟩ := storeWithSecrets_attached X fs kv credential c.label slot c.nickname
        (some secrets)
      exact recordInv_after hs hkv' fun id h => ⟨_, _, hid id h⟩
  | deleteCredential f id =>
    refine ⟨?_, hids⟩
    exact ⟨_, deleteCredentialById_storage f kv id⟩
  | cleanupExpiredCredentials f clock fd =>
    refine ⟨?_, hids⟩
    obtain ⟨kv', h, -⟩ := cleanupExpiredCredentials_erases f clock fd kv
    exact ⟨kv', h⟩
  | deleteSandboxCredentials f =>
    refine ⟨?_, hids⟩
    exact ⟨_, deleteSandbox_storage f kv⟩

/-- Keys that are erased under a condition that does not hold are not
    erased at all. -/
private theorem noOrphan_iff_unchanged {gone : Key → Prop} {kv : Kv} (hkv : NoOrphan kv)
    (h : ∀ j, ¬ gone j) : NoOrphan kv ↔ SecretsFollow gone kv :=
  iff_of_true hkv (secretsFollow_of_never gone kv h)

/-- Whether secrets follow depends only on which keys go. -/
private theorem secretsFollow_congr {gone gone' : Key → Prop} {kv : Kv}
    (h : ∀ j, gone j ↔ gone' j) : SecretsFollow gone kv ↔ SecretsFollow gone' kv := by
  unfold SecretsFollow
  simp only [h]

/-- A secrets write under a public key leaves no orphan exactly when it
    fails or finds the public record. -/
private theorem storeCredentialSecrets_noOrphan_iff (f : Faults) (p : Place) (b : BaseId)
    (secrets : CredentialSecrets) (kv : Kv) (hkv : NoOrphan kv) :
    NoOrphan (storeCredentialSecrets f (recordKey p .cred b) secrets kv).2 ↔
      (f.store (secretsKeyOf (recordKey p .cred b)) = none →
        kv.lookup (recordKey p .cred b) ≠ none) := by
  have hout := storeCredentialSecrets_outcome f (recordKey p .cred b) secrets kv
  rw [secretsKeyOf_recordKey] at hout ⊢
  rcases hout with ⟨e, hfail, heq⟩ | ⟨hst, heq⟩
  · rw [heq, hfail]
    exact iff_of_true hkv fun h => by cases h
  · rw [heq]
    constructor
    · intro hpost _
      have hsec : (kv.insert (recordKey p .credsec b)
          ⟨encodeSecrets secrets, BiometricRequirement.forCredentialSecrets⟩).lookup
            (recordKey p .credsec b) ≠ none := by
        rw [lookup_insert_of, if_pos rfl]
        simp
      have hpub := hpost p b hsec
      rw [lookup_insert_of, if_neg] at hpub
      · exact hpub
      · exact fun h => absurd ((recordKey_inj ..).1 h).2.1 (by decide)
    · intro hpub
      exact (noOrphan_insert_secrets_iff kv p b _ (hpub hst)).2 hkv

/-- An import leaves no orphan exactly when the secrets follow what its
    slot store deletes, if it gets that far. -/
private theorem importCredentialInternal_noOrphan_iff (X : Crates) (fs : ImportFaults)
    (json : String) (label : Option String) (slot : CredentialSlot) (nickname : Option String)
    (kv : Kv) (hkv : NoOrphan kv) :
    NoOrphan ((importCredentialInternal X fs ⟨some kv⟩ json label slot nickname).2.backend.getD ∅) ↔
      SecretsFollow (fun j => (∃ cred, X.parseCredential json = .ok cred) ∧
        slotGone fs.store (placeOf label slot) kv j) kv := by
  unfold importCredentialInternal
  cases hparse : X.parseCredential json with
  | error e => exact noOrphan_iff_unchanged hkv (by simp)
  | ok cred =>
    obtain ⟨kv', hkv', hiff⟩ := storeWithSecrets_noOrphan_iff X fs (redacted cred) label slot
      nickname (takeSecrets cred) kv hkv
    simp only [hkv']
    exact hiff.trans (secretsFollow_congr (by simp))

/-- The same for a finalisation. -/
private theorem finalizeCall_noOrphan_iff (X : Crates) (fs : ImportFaults)
    (anchor : Option IssuerTrustAnchor) (c : FinalizeCall) (kv : Kv) (hkv : NoOrphan kv) :
    NoOrphan ((c.run X fs ⟨⟨some kv⟩, anchor⟩).2.backend.getD ∅) ↔
      SecretsFollow (fun j => ∃ slot credential secrets,
        finalizeChecks X fs.resolve ⟨⟨some kv⟩, anchor⟩ c.headerJson c.dobDays c.rBitsB64 c.label
          c.credentialType = .ok (slot, credential, secrets) ∧
        slotGone fs.store (placeOf c.label slot) kv j) kv := by
  unfold FinalizeCall.run finalizeAndStoreCredential
  cases hchk : finalizeChecks X fs.resolve ⟨⟨some kv⟩, anchor⟩ c.headerJson c.dobDays c.rBitsB64
      c.label c.credentialType with
  | error e => exact noOrphan_iff_unchanged hkv (by simp)
  | ok r =>
    obtain ⟨slot, credential, secrets⟩ := r
    obtain ⟨kv', hkv', hiff⟩ := storeWithSecrets_noOrphan_iff X fs credential c.label slot
      c.nickname (some secrets) kv hkv
    simp only [hkv']
    refine hiff.trans (secretsFollow_congr fun j => ⟨fun h => ⟨_, _, _, rfl, h⟩, ?_⟩)
    rintro ⟨slot', credential', secrets', heq, h⟩
    injection heq with heq
    injection heq with heq _
    exact heq ▸ h

/-- The secrets key of any id has a secrets prefix. -/
theorem recordPrefix_secretsKeyOf (id : Key) :
    ∃ q : Place, recordPrefix q .credsec <+: secretsKeyOf id := by
  unfold secretsKeyOf
  cases hid : fromCredentialId id with
  | mk ns slot =>
    by_cases hns : ns = .unknown
    · subst hns
      refine ⟨⟨.primary, slot, by simp⟩, ?_⟩
      cases slot <;> exact List.prefix_append _ _
    · exact ⟨⟨ns, slot, hns⟩, List.prefix_append _ _⟩

/-- So it is no public key. -/
theorem secretsKeyOf_ne_public (id : Key) (p : Place) (b : BaseId) :
    secretsKeyOf id ≠ recordKey p .cred b := by
  obtain ⟨q, hq⟩ := recordPrefix_secretsKeyOf id
  intro h
  rw [h] at hq
  exact absurd ((recordPrefix_isPrefix_iff ..).1 hq).2 (by decide)

/-- And it is not the trust anchor's key. -/
theorem secretsKeyOf_ne_trustAnchor (id : Key) : secretsKeyOf id ≠ trustAnchorStorageKey := by
  obtain ⟨q, hq⟩ := recordPrefix_secretsKeyOf id
  intro h
  rw [h] at hq
  exact recordPrefix_not_isPrefix_trustAnchor q .credsec hq

/-- The contents a credential delete leaves. -/
private theorem deleteCredential_contents (X : Crates) (kv : Kv) (issued : List Key) (f : Faults)
    (id : Key) :
    (recordStep X ⟨⟨some kv⟩, issued⟩ (.deleteCredential f id)).contents =
      (deleteCredential f id kv).2 := by
  show ((deleteCredentialById f ⟨some kv⟩ id).2.backend.getD ∅) = _
  rw [deleteCredentialById_storage]
  rfl

/-- A delete by a public key: complete and without an orphan exactly
    when the secrets follow. -/
private theorem deleteCredential_step_iff (X : Crates) (kv : Kv) (issued : List Key) (f : Faults)
    (id : Key) (hkv : NoOrphan kv) :
    (NoOrphan (deleteCredential f id kv).2 ∧
        DeleteComplete X ⟨⟨some kv⟩, issued⟩ (.deleteCredential f id)) ↔
      SecretsFollow (deleteGone f id) kv := by
  have herase := deleteCredential_erases f id kv
  have hiff := noOrphan_erases_iff hkv herase
  refine ⟨fun h => hiff.1 h.1, fun hfollow => ⟨hiff.2 hfollow, ?_⟩⟩
  rintro p b rfl hok
  rw [deleteCredential_contents]
  -- the call succeeded, so the public record was deleted
  have hpub : f.delete (recordKey p .cred b) = none := by
    unfold deleteCredentialById at hok
    rw [call_some] at hok
    rcases deleteCredential_outcome f (recordKey p .cred b) kv with
      ⟨e, _, h⟩ | ⟨h, _, _⟩ | ⟨h, _, _⟩
    · rw [h] at hok
      cases hok
    · exact h
    · exact h
  have hgone : deleteGone f (recordKey p .cred b) (recordKey p .cred b) := ⟨hpub, Or.inl rfl⟩
  refine ⟨(herase _).1 hgone, ?_⟩
  by_cases hsec : deleteGone f (recordKey p .cred b) (recordKey p .credsec b)
  · exact (herase _).1 hsec
  · rw [(herase _).2 hsec]
    by_contra hne
    exact hsec (hfollow p b hne hgone)

/-- **One step, exactly**: from a state without orphans, a step leads to
    a state without orphans and completes its delete exactly when it
    keeps the pairs of records together. -/
theorem keepsPairs_iff (X : Crates) (s : RecordState) (op : RecordOp) (hs : RecordInv s)
    (hid : IdIssued s op) (hG : NoOrphan s.contents) :
    (NoOrphan (recordStep X s op).contents ∧ DeleteComplete X s op) ↔ KeepsPairs X s op := by
  obtain ⟨⟨kv, hkv⟩, hids⟩ := hs
  obtain ⟨storage, issued⟩ := s
  simp only at hkv
  subst hkv
  have hG' : NoOrphan kv := hG
  cases op with
  | storeCredentialWithSlot f now credential label slot nickname =>
    refine (and_iff_left trivial).trans (Iff.trans ?_ (and_iff_left trivial).symm)
    show NoOrphan (RecordState.after _ _).contents ↔ _
    rw [contents_after]
    exact storeCredentialWithSlot_noOrphan_iff X f now credential label slot nickname kv hG'
  | storeCredentialSecrets f credId secrets =>
    refine (and_iff_left trivial).trans ?_
    obtain ⟨p, b, rfl⟩ := hids _ hid
    have hnever : SecretsFollow (goneBy X ⟨⟨some kv⟩, issued⟩
        (.storeCredentialSecrets f (recordKey p .cred b) secrets)) kv :=
      secretsFollow_of_never _ _ fun _ h => h
    refine Iff.trans ?_ (and_iff_right hnever).symm
    exact storeCredentialSecrets_noOrphan_iff f p b secrets kv hG'
  | importCredentialInternal fs json label slot nickname =>
    refine (and_iff_left trivial).trans (Iff.trans ?_ (and_iff_left trivial).symm)
    show NoOrphan (RecordState.after _ _).contents ↔ _
    rw [contents_after]
    exact importCredentialInternal_noOrphan_iff X fs json label slot nickname kv hG'
  | storeCredentialWithLabel fs json label type nickname =>
    refine (and_iff_left trivial).trans (Iff.trans ?_ (and_iff_left trivial).symm)
    show NoOrphan (RecordState.after _ (storeCredentialWithLabel X fs ⟨some kv⟩ json label type
      nickname)).contents ↔ SecretsFollow (fun j => ∃ slot,
        resolveSlot fs.resolve ⟨some kv⟩ type label = .ok slot ∧
        (∃ cred, X.parseCredential json = .ok cred) ∧
        slotGone fs.store (placeOf label slot) kv j) kv
    rw [contents_after]
    unfold storeCredentialWithLabel
    cases hslot : resolveSlot fs.resolve ⟨some kv⟩ type label with
    | error e => exact noOrphan_iff_unchanged hG' (by simp)
    | ok slot =>
      refine (importCredentialInternal_noOrphan_iff X fs json label slot nickname kv hG').trans ?_
      exact secretsFollow_congr (by simp)
  | finalizeAndStoreCredential fs anchor c =>
    refine (and_iff_left trivial).trans (Iff.trans ?_ (and_iff_left trivial).symm)
    show NoOrphan (RecordState.after _ _).contents ↔ _
    rw [contents_after]
    exact finalizeCall_noOrphan_iff X fs anchor c kv hG'
  | deleteCredential f id =>
    refine Iff.trans ?_ (and_iff_left trivial).symm
    rw [deleteCredential_contents]
    exact deleteCredential_step_iff X kv issued f id hG'
  | cleanupExpiredCredentials f clock fd =>
    refine (and_iff_left trivial).trans (Iff.trans ?_ (and_iff_left trivial).symm)
    show NoOrphan ((Wallet.cleanupExpiredCredentials f clock fd ⟨some kv⟩).2.backend.getD ∅) ↔
      SecretsFollow (fun j => ∃ infos, listCredentials f clock kv = .ok infos ∧
        expiredGone fd infos j) kv
    obtain ⟨kv', hrun, herase⟩ := cleanupExpiredCredentials_erases f clock fd kv
    rw [hrun]
    exact noOrphan_erases_iff hG' herase
  | deleteSandboxCredentials f =>
    refine (and_iff_left trivial).trans (Iff.trans ?_ (and_iff_left trivial).symm)
    have hcontents : (recordStep X ⟨⟨some kv⟩, issued⟩ (.deleteSandboxCredentials f)).contents =
        (deleteSandboxCredentials f kv).2 := by
      show ((deleteSandbox f ⟨some kv⟩).2.backend.getD ∅) = _
      rw [deleteSandbox_storage]
      rfl
    rw [hcontents]
    exact noOrphan_erases_iff hG' (deleteSandboxCredentials_erases f kv)

/-! ## §6. Whole runs -/

/-- A backend just attached, with nothing in it. -/
def emptyRecords : RecordState := { storage := ⟨some ∅⟩, issued := [] }

theorem recordInv_empty : RecordInv emptyRecords := ⟨⟨∅, rfl⟩, by simp [emptyRecords]⟩

theorem noOrphan_empty : NoOrphan emptyRecords.contents := by
  intro p b h
  exact absurd rfl h

/-- **No orphan secrets, exactly**: over any run from the empty store
    with arbitrary backend failures, no state reached has a secrets
    record without its public record and every successful delete by a
    public key is complete, if and only if every step keeps the pairs
    of records together. -/
theorem noOrphans_iff (X : Crates) (ops : List RecordOp)
    (hids : StepsMeet (recordStep X) IdIssued emptyRecords ops) :
    (Always (recordStep X) (fun s => NoOrphan s.contents) emptyRecords ops ∧
        StepsMeet (recordStep X) (DeleteComplete X) emptyRecords ops) ↔
      StepsMeet (recordStep X) (KeepsPairs X) emptyRecords ops :=
  always_and_stepsMeet_iff (I := RecordInv) (A := IdIssued)
    (fun s op hs _ => recordInv_step X s op hs)
    (fun s op hs hid hG => keepsPairs_iff X s op hs hid hG)
    recordInv_empty noOrphan_empty hids

/-! ## §7. A delete that leaves the date of birth behind -/

/-- The public key of the sample credential in the primary slot. -/
def sampleId : Key := newKey sampleCrates (placeOf none .primary) sampleCredential

/-- The backend refuses to delete the secrets record. -/
def secretsDeleteFails : Faults :=
  { Faults.never with
    delete := fun k => if k = secretsKeyOf sampleId then some (.storage "locked") else none }

/-- Import a credential and its secrets. -/
def sampleImport : List RecordOp :=
  [.storeCredentialWithSlot .never 0 sampleCredential none .primary none,
    .storeCredentialSecrets .never sampleId { dobDays := 7, rBits := [true] }]

/-- The run's secrets are stored under the id its slot store returned. -/
private theorem sampleRun_idsIssued :
    StepsMeet (recordStep sampleCrates) IdIssued emptyRecords
      (sampleImport ++ [.deleteCredential secretsDeleteFails sampleId]) := by
  have hissued : sampleId ∈ (recordStep sampleCrates emptyRecords
      (.storeCredentialWithSlot .never 0 sampleCredential none .primary none)).issued := by
    decide +kernel
  exact ⟨trivial, hissued, trivial, trivial⟩

/-- **The delete returns `Ok` and the secrets stay**: after an import
    and a delete whose second backend call fails, the secrets record is
    in the store without its public record. -/
theorem deleted_credential_leaves_secrets :
    let s := run (recordStep sampleCrates) emptyRecords sampleImport
    StepsMeet (recordStep sampleCrates) IdIssued emptyRecords
        (sampleImport ++ [.deleteCredential secretsDeleteFails sampleId]) ∧
      (deleteCredentialById secretsDeleteFails s.storage sampleId).1 = .ok () ∧
      (recordStep sampleCrates s (.deleteCredential secretsDeleteFails sampleId)).contents.lookup
        (secretsKeyOf sampleId) ≠ none ∧
      ¬ NoOrphan
        (recordStep sampleCrates s (.deleteCredential secretsDeleteFails sampleId)).contents := by
  have hpub : (recordStep sampleCrates (run (recordStep sampleCrates) emptyRecords sampleImport)
      (.deleteCredential secretsDeleteFails sampleId)).contents.lookup sampleId = none := by
    decide +kernel
  have hsec : (recordStep sampleCrates (run (recordStep sampleCrates) emptyRecords sampleImport)
      (.deleteCredential secretsDeleteFails sampleId)).contents.lookup
        (secretsKeyOf sampleId) ≠ none := by
    decide +kernel
  have hkey : secretsKeyOf sampleId =
      recordKey (placeOf none .primary) .credsec (baseIdFor sampleCrates sampleCredential) :=
    secretsKeyOf_recordKey (placeOf none .primary) (baseIdFor sampleCrates sampleCredential)
  refine ⟨sampleRun_idsIssued, by decide +kernel, hsec, fun hno => ?_⟩
  rw [hkey] at hsec
  exact hno _ _ hsec hpub

/-- The equivalence at that run. -/
theorem noOrphans_iff_sample :
    (Always (recordStep sampleCrates) (fun s => NoOrphan s.contents) emptyRecords
          (sampleImport ++ [.deleteCredential secretsDeleteFails sampleId]) ∧
        StepsMeet (recordStep sampleCrates) (DeleteComplete sampleCrates) emptyRecords
          (sampleImport ++ [.deleteCredential secretsDeleteFails sampleId])) ↔
      StepsMeet (recordStep sampleCrates) (KeepsPairs sampleCrates) emptyRecords
        (sampleImport ++ [.deleteCredential secretsDeleteFails sampleId]) :=
  noOrphans_iff sampleCrates _ sampleRun_idsIssued

end ProviiSdk.Wallet
