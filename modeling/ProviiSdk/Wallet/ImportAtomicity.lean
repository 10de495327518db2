/-
  ProviiSdk.Wallet.ImportAtomicity — what a failed import leaves behind.

  An import deletes the slot's records before it writes the new ones and
  has no way back, so a backend failure in the middle is visible.  This
  file says exactly how: the call at which the import failed decides what
  the store holds under every key, and an `ImportResidue` relates the
  store before a failed import to the store after it by that call.

  Main results:
    * `FailedOp.happened_unique` — one call has failed.
    * `storeCredentialWithSlot_residue`, `storeWithSecrets_residue` —
      the residue of the two writing methods.
    * `failed_import_residue` — the residue of all three entry points.
    * `failed_slot_store_loses_occupant` — a run in which the failed
      call has removed the slot's previous occupant.
-/

import ProviiSdk.Core.Sample
import ProviiSdk.Wallet.Credentials

namespace ProviiSdk.Wallet

open ProviiSdk.Core ProviiSdk.Platform ProviiSdk.Ffi

/-! ## §1. The residue of a failed import -/

/-- The backend call at which a write of a credential failed.  A failed
    delete comes with the slot's keys that were deleted before it. -/
inductive FailedOp where
  | listing
  | delete (gone : List Key) (k : Key)
  | publicWrite
  | secretsWrite

/-- The store can be listed, and what the slot holds can be deleted. -/
structure Clears (f : Faults) (p : Place) (pre : Kv) : Prop where
  list : f.list = none
  delete : ∀ j, inSlot p j = true → pre.lookup j ≠ none → f.delete j = none

/-- Every call before this one answered, and this one failed. -/
def FailedOp.Happened (f fsec : Faults) (p : Place) (key : Key) (pre : Kv) : FailedOp → Prop
  | .listing => f.list ≠ none
  | .delete gone k =>
    (∃ keys, listKeys f pre = .ok keys ∧ gone ++ [k] <+: slotKeys p keys) ∧
      (∀ g ∈ gone, f.delete g = none) ∧ f.delete k ≠ none
  | .publicWrite => Clears f p pre ∧ f.store key ≠ none
  | .secretsWrite => Clears f p pre ∧ f.store key = none ∧ fsec.store (secretsKeyOf key) ≠ none

/-- What the store holds under a key after this call has failed. -/
def FailedOp.leaves (p : Place) (key : Key) (item : Item) (pre : Kv) : FailedOp → Key → Option Item
  | .listing, j => pre.lookup j
  -- the keys before the one that failed are gone
  | .delete gone _, j => if j ∈ gone then none else pre.lookup j
  -- the slot is empty
  | .publicWrite, j => if inSlot p j then none else pre.lookup j
  -- the slot holds the new public record and nothing else
  | .secretsWrite, j => if j = key then some item else if inSlot p j then none else pre.lookup j

/-- How the contents `post` after a failed import of a public record
    (`key`, `item`) into the place `p` relate to the contents `pre`: one of
    the calls failed, and whichever did decides what is left. -/
structure ImportResidue (f fsec : Faults) (p : Place) (key : Key) (item : Item) (pre post : Kv) :
    Prop where
  failed : ∃ op : FailedOp, op.Happened f fsec p key pre
  left : ∀ op : FailedOp, op.Happened f fsec p key pre →
    ∀ j, post.lookup j = op.leaves p key item pre j

theorem list_eq_none_of_listKeys {f : Faults} {kv : Kv} {keys : List Key}
    (hlist : listKeys f kv = .ok keys) : f.list = none := by
  unfold listKeys at hlist
  cases h : f.list with
  | none => rfl
  | some e =>
    rw [h] at hlist
    cases hlist

/-- The emptying loop deletes the slot's stored keys. -/
theorem clears_of_slotKeys {f : Faults} {kv : Kv} {keys : List Key} {p : Place}
    (hlist : listKeys f kv = .ok keys) (hgone : ∀ g ∈ slotKeys p keys, f.delete g = none) :
    Clears f p kv where
  list := list_eq_none_of_listKeys hlist
  delete := by
    intro j hin hj
    exact hgone j ((mem_slotKeys hlist p j).2 ⟨Option.isSome_iff_ne_none.2 hj, hin⟩)

section Unique

variable {f fsec : Faults} {p : Place} {key : Key} {pre : Kv}

/-- A slot that can be emptied has no delete that failed. -/
private theorem not_clears_of_delete {gone : List Key} {k : Key}
    (h : FailedOp.Happened f fsec p key pre (.delete gone k)) : ¬ Clears f p pre := by
  intro hclears
  obtain ⟨⟨keys, hlist, hpre⟩, -, hfail⟩ := h
  have hk : k ∈ slotKeys p keys := hpre.subset (List.mem_append_right _ List.mem_cons_self)
  obtain ⟨hstored, hin⟩ := (mem_slotKeys hlist p k).1 hk
  exact hfail (hclears.delete k hin (Option.isSome_iff_ne_none.1 hstored))

/-- Two failed deletes are of one listing. -/
private theorem slotKeys_of_deletes {gone gone' : List Key} {k k' : Key}
    (h : FailedOp.Happened f fsec p key pre (.delete gone k))
    (h' : FailedOp.Happened f fsec p key pre (.delete gone' k')) :
    ∃ keys, gone ++ [k] <+: slotKeys p keys ∧ gone' ++ [k'] <+: slotKeys p keys := by
  obtain ⟨⟨keys, hlist, hpre⟩, -, -⟩ := h
  obtain ⟨⟨keys', hlist', hpre'⟩, -, -⟩ := h'
  have hsame : keys = keys' := Except.ok.inj (hlist.symm.trans hlist')
  rw [← hsame] at hpre'
  exact ⟨keys, hpre, hpre'⟩

/-- Of two failed deletes neither comes after the other. -/
private theorem gone_length_le {gone gone' : List Key} {k k' : Key}
    (h : FailedOp.Happened f fsec p key pre (.delete gone k))
    (h' : FailedOp.Happened f fsec p key pre (.delete gone' k')) : gone.length ≤ gone'.length := by
  obtain ⟨keys, hpre, hpre'⟩ := slotKeys_of_deletes h h'
  by_contra hlt
  -- otherwise the key that could not be deleted is among the deleted ones
  have hle : (gone' ++ [k']).length ≤ gone.length := by
    rw [List.length_append, List.length_singleton]
    omega
  have hearlier : gone' ++ [k'] <+: gone :=
    List.prefix_of_prefix_length_le hpre' ((List.prefix_append gone [k]).trans hpre) hle
  exact h'.2.2 (h.2.1 k' (hearlier.subset (List.mem_append_right _ List.mem_cons_self)))

/-- Two failed deletes are the same one. -/
private theorem delete_unique {gone gone' : List Key} {k k' : Key}
    (h : FailedOp.Happened f fsec p key pre (.delete gone k))
    (h' : FailedOp.Happened f fsec p key pre (.delete gone' k')) : gone = gone' ∧ k = k' := by
  have hlen : gone.length = gone'.length :=
    Nat.le_antisymm (gone_length_le h h') (gone_length_le h' h)
  have hlen' : (gone ++ [k]).length = (gone' ++ [k']).length := by
    rw [List.length_append, List.length_append, hlen]
    rfl
  obtain ⟨keys, hpre, hpre'⟩ := slotKeys_of_deletes h h'
  have hsame : gone ++ [k] = gone' ++ [k'] :=
    (List.prefix_of_prefix_length_le hpre hpre' (Nat.le_of_eq hlen')).eq_of_length hlen'
  obtain ⟨hgone, hk⟩ := List.append_inj hsame hlen
  exact ⟨hgone, List.singleton_inj.1 hk⟩

/-- **The failing call is one.** -/
theorem FailedOp.happened_unique {op op' : FailedOp} (h : op.Happened f fsec p key pre)
    (h' : op'.Happened f fsec p key pre) : op = op' := by
  have hlisted : ∀ {gone k}, FailedOp.Happened f fsec p key pre (.delete gone k) →
      f.list = none := by
    intro gone k hdelete
    obtain ⟨⟨keys, hlist, -⟩, -, -⟩ := hdelete
    exact list_eq_none_of_listKeys hlist
  cases op with
  | listing =>
    cases op' with
    | listing => rfl
    | delete gone' k' => exact absurd (hlisted h') h
    | publicWrite => exact absurd h'.1.list h
    | secretsWrite => exact absurd h'.1.list h
  | delete gone k =>
    cases op' with
    | listing => exact absurd (hlisted h) h'
    | delete gone' k' =>
      obtain ⟨hgone, hk⟩ := delete_unique h h'
      rw [hgone, hk]
    | publicWrite => exact absurd h'.1 (not_clears_of_delete h)
    | secretsWrite => exact absurd h'.1 (not_clears_of_delete h)
  | publicWrite =>
    cases op' with
    | listing => exact absurd h.1.list h'
    | delete gone' k' => exact absurd h.1 (not_clears_of_delete h')
    | publicWrite => rfl
    | secretsWrite => exact absurd h'.2.1 h.2
  | secretsWrite =>
    cases op' with
    | listing => exact absurd h.1.list h'
    | delete gone' k' => exact absurd h.1 (not_clears_of_delete h')
    | publicWrite => exact absurd h.2.1 h'.2
    | secretsWrite => rfl

/-- The residue of the call that failed. -/
theorem importResidue_of {item : Item} {post : Kv} (op : FailedOp)
    (h : op.Happened f fsec p key pre) (hleft : ∀ j, post.lookup j = op.leaves p key item pre j) :
    ImportResidue f fsec p key item pre post where
  failed := ⟨op, h⟩
  left := by
    intro op' h'
    rw [← FailedOp.happened_unique h h']
    exact hleft

end Unique

/-- **A failed slot store** leaves what the call that failed leaves. -/
theorem storeCredentialWithSlot_residue (X : Crates) (f fsec : Faults) (now : Int64)
    (credential : CredentialV2) (label : Option String) (slot : CredentialSlot)
    (nickname : Option String) (kv : Kv) (e : String)
    (herr : (storeCredentialWithSlot X f now credential label slot nickname kv).1 = .error e) :
    ImportResidue f fsec (placeOf label slot) (newKey X (placeOf label slot) credential)
      (newItem now credential label slot nickname) kv
      (storeCredentialWithSlot X f now credential label slot nickname kv).2 := by
  have hout := storeCredentialWithSlot_outcome X f now credential label slot nickname kv
  generalize storeCredentialWithSlot X f now credential label slot nickname kv = r at hout herr ⊢
  cases hout with
  | listFailed e hlist =>
    refine importResidue_of .listing ?_ (fun _ => rfl)
    intro hnone
    unfold listKeys at hlist
    rw [hnone] at hlist
    cases hlist
  | deleteFailed keys gone k e hlist hpre hgone hfail =>
    refine importResidue_of (.delete gone k) ⟨⟨keys, hlist, hpre⟩, hgone, ?_⟩
      (lookup_eraseAll kv gone)
    rw [hfail]
    exact Option.some_ne_none e
  | storeFailed keys e hlist hgone hfail =>
    refine importResidue_of .publicWrite ⟨clears_of_slotKeys hlist hgone, ?_⟩
      (lookup_eraseAll_slotKeys hlist _)
    rw [hfail]
    exact Option.some_ne_none e
  | stored keys hlist hgone hstore => cases herr

/-- **A failed write of a credential with its secrets.** -/
theorem storeWithSecrets_residue (X : Crates) (fs : ImportFaults) (kv : Kv)
    (credential : CredentialV2) (label : Option String) (slot : CredentialSlot)
    (nickname : Option String) (secrets : Option CredentialSecrets) (e : FfiError)
    (herr : (storeWithSecrets X fs ⟨some kv⟩ credential label slot nickname secrets).1 =
      .error e) :
    ∃ post, (storeWithSecrets X fs ⟨some kv⟩ credential label slot nickname secrets).2 =
        ⟨some post⟩ ∧
      ImportResidue fs.store fs.secrets (placeOf label slot)
        (newKey X (placeOf label slot) credential)
        (newItem fs.now credential label slot nickname) kv post := by
  have hres := storeCredentialWithSlot_residue X fs.store fs.secrets fs.now credential label slot
    nickname kv
  have hout := storeCredentialWithSlot_outcome X fs.store fs.now credential label slot nickname kv
  unfold storeWithSecrets at herr ⊢
  rw [call_some] at herr ⊢
  generalize storeCredentialWithSlot X fs.store fs.now credential label slot nickname kv = r
    at hout hres herr ⊢
  obtain ⟨res, kv'⟩ := r
  cases res with
  | error msg => exact ⟨kv', rfl, hres msg rfl⟩
  | ok credId =>
    cases secrets with
    | none => exact absurd herr (by simp)
    | some secrets =>
      cases hout with
      | stored keys hlist hgone hstore =>
        simp only [call_some] at herr ⊢
        rcases storeCredentialSecrets_outcome fs.secrets
            (newKey X (placeOf label slot) credential) secrets _ with
          ⟨e', hfail, heq⟩ | ⟨_, heq⟩
        · rw [heq]
          refine ⟨_, rfl, importResidue_of .secretsWrite
            ⟨clears_of_slotKeys hlist hgone, hstore, ?_⟩ (fun j => ?_)⟩
          · rw [hfail]
            exact Option.some_ne_none e'
          · rw [lookup_insert_of, lookup_eraseAll_slotKeys hlist]
            rfl
        · rw [heq] at herr
          exact absurd herr (by simp)

/-! ## §2. The three entry points -/

/-- **What a failed import leaves behind**, at each of the three entry
    points: the residue of a write into the target slot, or an untouched
    store when the input, a check or the choice of the slot failed. -/
theorem failed_import_residue (X : Crates) (fs : ImportFaults) (kv : Kv)
    (anchor : Option IssuerTrustAnchor) (label nickname : Option String) :
    (∀ credential slot e,
      (storeCredentialWithSlot X fs.store fs.now credential label slot nickname kv).1 =
          .error e →
        ImportResidue fs.store fs.secrets (placeOf label slot)
          (newKey X (placeOf label slot) credential)
          (newItem fs.now credential label slot nickname) kv
          (storeCredentialWithSlot X fs.store fs.now credential label slot nickname kv).2) ∧
    (∀ json slot e,
      (importCredentialInternal X fs ⟨some kv⟩ json label slot nickname).1 = .error e →
        ∃ post, (importCredentialInternal X fs ⟨some kv⟩ json label slot nickname).2 =
            ⟨some post⟩ ∧
          ((∃ msg, X.parseCredential json = .error msg) ∧ post = kv ∨
            ∃ cred, X.parseCredential json = .ok cred ∧
            ImportResidue fs.store fs.secrets (placeOf label slot)
              (newKey X (placeOf label slot) (redacted cred))
              (newItem fs.now (redacted cred) label slot nickname) kv post)) ∧
    (∀ headerJson dobDays rBitsB64 credentialType e,
      (finalizeAndStoreCredential X fs ⟨⟨some kv⟩, anchor⟩ headerJson dobDays rBitsB64 label
          credentialType nickname).1 = .error e →
        ∃ post, (finalizeAndStoreCredential X fs ⟨⟨some kv⟩, anchor⟩ headerJson dobDays rBitsB64
            label credentialType nickname).2 = ⟨some post⟩ ∧
          ((∃ msg, finalizeChecks X fs.resolve ⟨⟨some kv⟩, anchor⟩ headerJson dobDays rBitsB64
              label credentialType = .error msg) ∧ post = kv ∨
            ∃ slot credential secrets,
            finalizeChecks X fs.resolve ⟨⟨some kv⟩, anchor⟩ headerJson dobDays rBitsB64 label
              credentialType = .ok (slot, credential, secrets) ∧
            ImportResidue fs.store fs.secrets (placeOf label slot)
              (newKey X (placeOf label slot) credential)
              (newItem fs.now credential label slot nickname) kv post)) := by
  refine ⟨?_, ?_, ?_⟩
  · -- storing a credential into a slot
    intro credential slot e herr
    exact storeCredentialWithSlot_residue X fs.store fs.secrets fs.now credential label slot
      nickname kv e herr
  · -- the shared import path
    intro json slot e herr
    unfold importCredentialInternal at herr ⊢
    cases hparse : X.parseCredential json with
    | error msg => exact ⟨kv, rfl, Or.inl ⟨⟨msg, rfl⟩, rfl⟩⟩
    | ok cred =>
      rw [hparse] at herr
      obtain ⟨post, hpost, hres⟩ := storeWithSecrets_residue X fs kv (redacted cred) label slot
        nickname (takeSecrets cred) e herr
      exact ⟨post, hpost, Or.inr ⟨cred, rfl, hres⟩⟩
  · -- finalisation
    intro headerJson dobDays rBitsB64 credentialType e herr
    unfold finalizeAndStoreCredential at herr ⊢
    cases hchk : finalizeChecks X fs.resolve ⟨⟨some kv⟩, anchor⟩ headerJson dobDays rBitsB64 label
        credentialType with
    | error msg => exact ⟨kv, rfl, Or.inl ⟨⟨msg, rfl⟩, rfl⟩⟩
    | ok r =>
      obtain ⟨slot, credential, secrets⟩ := r
      rw [hchk] at herr
      obtain ⟨post, hpost, hres⟩ := storeWithSecrets_residue X fs kv credential label slot
        nickname (some secrets) e herr
      exact ⟨post, hpost, Or.inr ⟨slot, credential, secrets, rfl, hres⟩⟩

/-! ## §3. A failed import that loses a credential -/

/-- The records of an earlier credential in the primary slot. -/
def oldPublicKey : Key := "provii.cred.primary.old".toList
def oldSecretsKey : Key := "provii.credsec.primary.old".toList

def occupiedStore : Kv :=
  ((∅ : Kv).insert oldPublicKey ⟨[1], .none⟩).insert oldSecretsKey
    ⟨[2], BiometricRequirement.forCredentialSecrets⟩

/-- Every write fails; listing and deleting work. -/
def writeOutage : Faults := { Faults.never with store := fun _ => some (.storage "disk full") }

/-- The failed call has removed both records of the slot's occupant. -/
theorem failed_slot_store_loses_occupant :
    let r := storeCredentialWithSlot sampleCrates writeOutage 0 sampleCredential none .primary none
      occupiedStore
    r.1 = .error "Failed to store credential: Storage error: disk full" ∧
      occupiedStore.lookup oldPublicKey = some ⟨[1], .none⟩ ∧ r.2.lookup oldPublicKey = none ∧
      occupiedStore.lookup oldSecretsKey ≠ none ∧ r.2.lookup oldSecretsKey = none := by
  decide +kernel

/-- The residue at that run: the public write failed, and the slot is
    empty. -/
theorem failed_import_residue_occupied :
    let r := storeCredentialWithSlot sampleCrates writeOutage 0 sampleCredential none .primary none
      occupiedStore
    ImportResidue writeOutage writeOutage (placeOf none .primary)
        (newKey sampleCrates (placeOf none .primary) sampleCredential)
        (newItem 0 sampleCredential none .primary none) occupiedStore r.2 ∧
      ∀ j, r.2.lookup j =
        if inSlot (placeOf none .primary) j then none else occupiedStore.lookup j := by
  intro r
  have hres : ImportResidue writeOutage writeOutage (placeOf none .primary)
      (newKey sampleCrates (placeOf none .primary) sampleCredential)
      (newItem 0 sampleCredential none .primary none) occupiedStore r.2 :=
    (failed_import_residue sampleCrates ⟨writeOutage, writeOutage, writeOutage, 0⟩ occupiedStore
      none none none).1 sampleCredential .primary
        "Failed to store credential: Storage error: disk full" (by rfl)
  exact ⟨hres, hres.left .publicWrite ⟨⟨rfl, fun _ _ _ => rfl⟩, Option.some_ne_none _⟩⟩

end ProviiSdk.Wallet
