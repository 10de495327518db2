/-
  ProviiSdk.Wallet.Imports — the five ways a credential comes in.

  Three methods of the wallet import a credential document, one is an
  alias, and one finalises an issuance.  All five resolve a slot, prepare
  a public record with its secrets, and write it; they differ in the
  slot, the label and the checks they make.  An `ImportCall` is a call of
  any of them, and the results here hold for all five at once.

  Main results:
    * `ImportCall.run_eq` — every call is its three stages, one after
      the other.
    * `storeWithSecrets_public`, `storeWithSecrets_contents` — what the
      last stage does to the store, with any failures and with none.
-/

import ProviiSdk.Wallet.Credentials

namespace ProviiSdk.Wallet

open ProviiSdk.Core ProviiSdk.Platform ProviiSdk.Ffi
open ProviiSdk.Wire (Codec)

/-! ## §1. Calls and their stages -/

/-- A call of a method that brings a credential in, with its arguments. -/
inductive ImportCall where
  | importCredential (credentialJson : String)
  | importCredentialWithType (credentialJson credentialType : String) (nickname : Option String)
  | storeCredentialWithLabel (credentialJson : String) (label : Option String)
    (credentialType : String) (nickname : Option String)
  | storeCredential (credentialJson : String)
  | finalizeAndStoreCredential (call : FinalizeCall)

namespace ImportCall

/-- The call itself. -/
def run (X : Crates) (fs : ImportFaults) (w : ProviiWallet) : ImportCall → Except FfiError Key × Storage
  | .importCredential json => Wallet.importCredential X fs w.storage json
  | .importCredentialWithType json type nickname =>
    Wallet.importCredentialWithType X fs w.storage json type nickname
  | .storeCredentialWithLabel json label type nickname =>
    Wallet.storeCredentialWithLabel X fs w.storage json label type nickname
  | .storeCredential json => Wallet.storeCredential X fs w.storage json
  | .finalizeAndStoreCredential c => c.run X fs w

/-- The label of the record the call writes. -/
def label : ImportCall → Option String
  | .storeCredentialWithLabel _ label _ _ => label
  | .finalizeAndStoreCredential c => c.label
  | _ => none

/-- The nickname of the record the call writes. -/
def nickname : ImportCall → Option String
  | .importCredentialWithType _ _ nickname => nickname
  | .storeCredentialWithLabel _ _ _ nickname => nickname
  | .finalizeAndStoreCredential c => c.nickname
  | _ => none

/-- First stage: the slot. -/
def resolve (f : Faults) (s : Storage) : ImportCall → Except FfiError CredentialSlot
  | .importCredential _ => .ok .primary
  | .importCredentialWithType _ type _ => resolveSlot f s type none
  | .storeCredentialWithLabel _ label type _ => resolveSlot f s type label
  | .storeCredential _ => .ok .primary
  | .finalizeAndStoreCredential c => resolveSlot f s c.credentialType c.label

/-- The public record and the secrets of a credential document. -/
def parseDocument (X : Crates) (credentialJson : String) :
    Except FfiError (CredentialV2 × Option CredentialSecrets) :=
  match X.parseCredential credentialJson with
  | .error e => .error (.invalidFormat e)
  | .ok cred => .ok (redacted cred, takeSecrets cred)

/-- Second stage: the credential without its private fields, and these
    as secrets. -/
def prepare (X : Crates) (anchor : Option IssuerTrustAnchor) :
    ImportCall → Except FfiError (CredentialV2 × Option CredentialSecrets)
  | .importCredential json => parseDocument X json
  | .importCredentialWithType json _ _ => parseDocument X json
  | .storeCredentialWithLabel json _ _ _ => parseDocument X json
  | .storeCredential json => parseDocument X json
  | .finalizeAndStoreCredential c =>
    match prepareFinalized X anchor c.headerJson c.dobDays c.rBitsB64 with
    | .error e => .error e
    | .ok (credential, secrets) => .ok (credential, some secrets)

/-- Third stage: write what the second stage prepared. -/
def write (X : Crates) (fs : ImportFaults) (s : Storage) (label : Option String)
    (slot : CredentialSlot) (nickname : Option String) :
    Except FfiError (CredentialV2 × Option CredentialSecrets) → Except FfiError Key × Storage
  | .error e => (.error e, s)
  | .ok (credential, secrets) => storeWithSecrets X fs s credential label slot nickname secrets

/-- The three stages, one after the other. -/
def stages (X : Crates) (fs : ImportFaults) (w : ProviiWallet) (c : ImportCall) :
    Except FfiError Key × Storage :=
  match c.resolve fs.resolve w.storage with
  | .error e => (.error e, w.storage)
  | .ok slot =>
    write X fs w.storage c.label slot c.nickname (c.prepare X w.issuerTrustAnchor)

/-- The shared import path is the last two stages. -/
private theorem importCredentialInternal_eq (X : Crates) (fs : ImportFaults) (s : Storage)
    (json : String) (label : Option String) (slot : CredentialSlot) (nickname : Option String) :
    importCredentialInternal X fs s json label slot nickname =
      write X fs s label slot nickname (parseDocument X json) := by
  unfold importCredentialInternal parseDocument
  cases X.parseCredential json with
  | error e => rfl
  | ok cred => rfl

/-- **Every call is its three stages.** -/
theorem run_eq (X : Crates) (fs : ImportFaults) (w : ProviiWallet) (c : ImportCall) :
    c.run X fs w = c.stages X fs w := by
  cases c with
  | importCredential json => exact importCredentialInternal_eq X fs w.storage json none .primary none
  | storeCredential json => exact importCredentialInternal_eq X fs w.storage json none .primary none
  | importCredentialWithType json type nickname =>
    show Wallet.importCredentialWithType X fs w.storage json type nickname = _
    unfold Wallet.importCredentialWithType stages
    simp only [resolve, prepare, importCredentialInternal_eq]
    rfl
  | storeCredentialWithLabel json label type nickname =>
    show Wallet.storeCredentialWithLabel X fs w.storage json label type nickname = _
    unfold Wallet.storeCredentialWithLabel stages
    simp only [resolve, prepare, importCredentialInternal_eq]
    rfl
  | finalizeAndStoreCredential c =>
    show Wallet.finalizeAndStoreCredential X fs w c.headerJson c.dobDays c.rBitsB64 c.label
      c.credentialType c.nickname = _
    unfold Wallet.finalizeAndStoreCredential stages finalizeChecks
    simp only [resolve, prepare]
    cases resolveSlot fs.resolve w.storage c.credentialType c.label with
    | error e => rfl
    | ok slot =>
      cases prepareFinalized X w.issuerTrustAnchor c.headerJson c.dobDays c.rBitsB64 with
      | error e => rfl
      | ok r => rfl

end ImportCall

/-! ## §2. The write -/

/-- The secrets key of a new public record is no public key. -/
theorem isCredentialKey_secretsKeyOf_newKey (X : Crates) (p : Place) (credential : CredentialV2) :
    isCredentialKey (secretsKeyOf (newKey X p credential)) = false := by
  rw [newKey_eq, secretsKeyOf_recordKey]
  exact isCredentialKey_recordKey p .credsec _

/-- The secrets key of a new public record is another key. -/
theorem secretsKeyOf_newKey_ne (X : Crates) (p : Place) (credential : CredentialV2) :
    secretsKeyOf (newKey X p credential) ≠ newKey X p credential := by
  rw [newKey_eq, secretsKeyOf_recordKey]
  exact fun h => absurd ((recordKey_inj ..).1 h).2.1 (by decide)

/-- A written record fits on the wire as soon as the texts given to it
    do. -/
theorem storedRecord_fits (now : Int64) (credential : CredentialV2) (label : Option String)
    (slot : CredentialSlot) (nickname : Option String)
    (hkid : Codec.string.fits credential.kid) (hschema : Codec.string.fits credential.schema)
    (hlabel : ∀ l ∈ label, Codec.string.fits l) (hnick : ∀ n ∈ nickname, Codec.string.fits n) :
    (storedRecord now credential label slot nickname).Fits := by
  have htype : Codec.string.fits
      (storedRecord now credential label slot nickname).metadata.credentialType := by
    cases slot with
    | primary =>
      show (Wire.utf8 "primary").length < 2 ^ 64
      decide
    | managed index =>
      show (Wire.utf8 "managed").length < 2 ^ 64
      decide
  exact (StoredCredential.fits_iff _).2 ⟨hkid, hschema, hlabel, htype, hnick⟩

/-- **What a write does to a public record, whatever fails**: it stays,
    it goes, or it is the new one. -/
theorem storeWithSecrets_public (X : Crates) (fs : ImportFaults) (kv : Kv)
    (credential : CredentialV2) (label : Option String) (slot : CredentialSlot)
    (nickname : Option String) (secrets : Option CredentialSecrets) :
    ∃ kv', (storeWithSecrets X fs ⟨some kv⟩ credential label slot nickname secrets).2 =
        ⟨some kv'⟩ ∧
      ∀ k item, isCredentialKey k = true → kv'.lookup k = some item →
        kv.lookup k = some item ∨
          k = newKey X (placeOf label slot) credential ∧
            item = newItem fs.now credential label slot nickname := by
  have hout := storeCredentialWithSlot_outcome X fs.store fs.now credential label slot nickname kv
  unfold storeWithSecrets
  rw [call_some]
  generalize storeCredentialWithSlot X fs.store fs.now credential label slot nickname kv = r at hout ⊢
  -- an item that is left after some keys were erased was there before
  have herased : ∀ ks k item, (eraseAll kv ks).lookup k = some item → kv.lookup k = some item := by
    intro ks k item h
    rw [lookup_eraseAll] at h
    split at h
    · cases h
    · exact h
  cases hout with
  | listFailed e hlist => exact ⟨kv, rfl, fun k item _ h => Or.inl h⟩
  | deleteFailed keys gone k e hlist hpre hgone hfail =>
    exact ⟨_, rfl, fun k item _ h => Or.inl (herased _ k item h)⟩
  | storeFailed keys e hlist hgone hfail =>
    exact ⟨_, rfl, fun k item _ h => Or.inl (herased _ k item h)⟩
  | stored keys hlist hgone hstore =>
    have hnew : ∀ k item, ((eraseAll kv (slotKeys (placeOf label slot) keys)).insert
        (newKey X (placeOf label slot) credential)
        (newItem fs.now credential label slot nickname)).lookup k = some item →
        kv.lookup k = some item ∨
          k = newKey X (placeOf label slot) credential ∧
            item = newItem fs.now credential label slot nickname := by
      intro k item h
      rw [lookup_insert_of] at h
      split at h
      next hk =>
        injection h with h
        exact Or.inr ⟨hk, h.symm⟩
      next hk => exact Or.inl (herased _ k item h)
    cases secrets with
    | none => exact ⟨_, rfl, fun k item _ h => hnew k item h⟩
    | some secrets =>
      simp only [call_some]
      rcases storeCredentialSecrets_outcome fs.secrets
          (newKey X (placeOf label slot) credential) secrets
          ((eraseAll kv (slotKeys (placeOf label slot) keys)).insert
            (newKey X (placeOf label slot) credential)
            (newItem fs.now credential label slot nickname)) with ⟨e, _, heq⟩ | ⟨_, heq⟩
      · rw [heq]
        exact ⟨_, rfl, fun k item _ h => hnew k item h⟩
      · rw [heq]
        refine ⟨_, rfl, fun k item hk h => ?_⟩
        rw [lookup_insert_of] at h
        split at h
        next heq' =>
          rw [heq', isCredentialKey_secretsKeyOf_newKey] at hk
          cases hk
        next => exact hnew k item h

/-- **What a write does on a healthy backend**: the slot then holds the
    new public record, its secrets if there are any, and nothing else. -/
theorem storeWithSecrets_contents (X : Crates) (fs : ImportFaults) (hst : fs.store.Healthy)
    (hsec : fs.secrets.Healthy) (kv : Kv) (credential : CredentialV2) (label : Option String)
    (slot : CredentialSlot) (nickname : Option String) (secrets : Option CredentialSecrets) :
    ∃ kv', storeWithSecrets X fs ⟨some kv⟩ credential label slot nickname secrets =
        (.ok (newKey X (placeOf label slot) credential), ⟨some kv'⟩) ∧
      kv'.lookup (secretsKeyOf (newKey X (placeOf label slot) credential)) =
        secrets.map (fun s => ⟨encodeSecrets s, BiometricRequirement.forCredentialSecrets⟩) ∧
      ∀ k, k ≠ secretsKeyOf (newKey X (placeOf label slot) credential) →
        kv'.lookup k =
          if k = newKey X (placeOf label slot) credential then
            some (newItem fs.now credential label slot nickname)
          else if inSlot (placeOf label slot) k then none
          else kv.lookup k := by
  obtain ⟨kv₁, hrun, hlook⟩ := storeCredentialWithSlot_healthy X fs.store hst fs.now credential
    label slot nickname kv
  have hkey := newKey_eq X (placeOf label slot) credential
  have hne := secretsKeyOf_newKey_ne X (placeOf label slot) credential
  unfold storeWithSecrets
  rw [call_some, hrun]
  cases secrets with
  | none =>
    refine ⟨kv₁, rfl, ?_, fun k _ => hlook k⟩
    rw [hlook, if_neg hne, hkey, secretsKeyOf_recordKey, inSlot_recordKey]
    simp
  | some secrets =>
    simp only [call_some]
    rcases storeCredentialSecrets_outcome fs.secrets
        (newKey X (placeOf label slot) credential) secrets kv₁ with ⟨e, hfail, _⟩ | ⟨_, heq⟩
    · rw [hsec.store] at hfail
      cases hfail
    · rw [heq]
      refine ⟨_, rfl, ?_, fun k hk => ?_⟩
      · rw [lookup_insert_of, if_pos rfl, Option.map_some]
      · rw [lookup_insert_of, if_neg hk]
        exact hlook k

end ProviiSdk.Wallet
