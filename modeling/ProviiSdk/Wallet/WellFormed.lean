/-
  ProviiSdk.Wallet.WellFormed — are stored credentials well formed?

  The constructor `from_json` rejects a credential of another version,
  with overlong texts or with its timestamps the wrong way round.  The
  wallet does not use it: an imported document is parsed directly, and a
  finalisation checks version and timestamps but no lengths.  This file
  runs the import methods on arbitrary documents and says exactly which
  runs keep every public record well formed.

  Main results:
    * `public_wellFormed_of_run` — records stay well formed, whatever the
      backend does, when every document that reaches the store meets the
      constructor's checks; and on a working backend only then.
    * `imported_credential_expires_before_issue` — a document that the
      constructor rejects and the wallet stores.
-/

import ProviiSdk.Core.Credential
import ProviiSdk.Core.Sample
import ProviiSdk.Lib.Run
import ProviiSdk.Wallet.Imports

namespace ProviiSdk.Wallet

open ProviiSdk.Core ProviiSdk.Platform ProviiSdk.Ffi ProviiSdk.Run
open ProviiSdk.Wire (Codec)

/-! ## §1. The import machine -/

/-- A call with the trust anchor it finds in memory and its backend's
    outcomes. -/
structure ImportStep where
  fs : ImportFaults
  anchor : Option IssuerTrustAnchor
  call : ImportCall

/-- The wallet a step starts from. -/
def ImportStep.wallet (s : Storage) (i : ImportStep) : ProviiWallet :=
  { storage := s, issuerTrustAnchor := i.anchor }

/-- The store after a call. -/
def importStep (X : Crates) (s : Storage) (i : ImportStep) : Storage :=
  (i.call.run X i.fs (i.wallet s)).2

/-- Every public record that reads back is well formed. -/
def PublicWellFormed (s : Storage) : Prop :=
  ∀ kv, s.backend = some kv → ∀ k item stored, isCredentialKey k = true →
    kv.lookup k = some item → decodeStored item.data = some stored →
    stored.credential.WellFormed

/-! ## §2. The condition on a step -/

/-- A document that parses as a credential gives a well-formed one. -/
def WellFormedDocument (X : Crates) (credentialJson : String) : Prop :=
  ∀ cred, X.parseCredential credentialJson = .ok cred → cred.WellFormed

/-- The document of a call meets the checks that the code path leaves
    out: all of them for an import, the lengths for a finalisation. -/
def ImportCall.DocumentChecked (X : Crates) : ImportCall → Prop
  | .importCredential json => WellFormedDocument X json
  | .importCredentialWithType json _ _ => WellFormedDocument X json
  | .storeCredentialWithLabel json _ _ _ => WellFormedDocument X json
  | .storeCredential json => WellFormedDocument X json
  | .finalizeAndStoreCredential c =>
    ∀ header, X.parseHeader c.headerJson = .ok header → TextsWithinLimits header.kid header.schema

/-- The call passes every check the code makes before it writes. -/
def ReachesStore (X : Crates) (s : Storage) (i : ImportStep) : Prop :=
  (∃ slot, i.call.resolve i.fs.resolve s = .ok slot) ∧ ∃ p, i.call.prepare X i.anchor = .ok p

/-- The condition: a call that reaches the store has a checked document. -/
def MeetsChecks (X : Crates) (s : Storage) (i : ImportStep) : Prop :=
  ReachesStore X s i → i.call.DocumentChecked X

/-- The backend is attached and answers the call's writes, and the texts
    of the call are no longer than a Rust string can be. -/
structure CallAnswered (X : Crates) (s : Storage) (i : ImportStep) : Prop where
  attached : s.backend ≠ none
  store : i.fs.store.Healthy
  secrets : i.fs.secrets.Healthy
  label : ∀ l ∈ i.call.label, Codec.string.fits l
  nickname : ∀ n ∈ i.call.nickname, Codec.string.fits n
  texts : ∀ credential secrets, i.call.prepare X i.anchor = .ok (credential, secrets) →
    Codec.string.fits credential.kid ∧ Codec.string.fits credential.schema

/-! ## §3. What a call prepares -/

/-- A finalised credential is well formed exactly when its header's texts
    are within the limits. -/
theorem finalized_wellFormed_iff (X : Crates) (header : SignedCredentialHeader) (dobDays : Int32)
    (rBits : List Bool) (c : CredentialV2) (h : finalizeCredential X header dobDays rBits = .ok c) :
    c.WellFormed ↔ TextsWithinLimits header.kid header.schema := by
  obtain ⟨hv, -, -, hle, -, -, -, rfl⟩ := finalizeCredential_ok X header dobDays rBits c h
  exact ⟨fun hc => hc.texts, fun htexts => ⟨hv, hle, htexts⟩⟩

private theorem parsed_wellFormed_iff (X : Crates) (json : String) (credential : CredentialV2)
    (secrets : Option CredentialSecrets)
    (h : ImportCall.parseDocument X json = .ok (credential, secrets)) :
    credential.WellFormed ↔ WellFormedDocument X json := by
  unfold ImportCall.parseDocument at h
  cases hparse : X.parseCredential json with
  | error e => rw [hparse] at h; cases h
  | ok cred =>
    rw [hparse] at h
    injection h with h
    injection h with hcred _
    have hredacted : (redacted cred).WellFormed ↔ cred.WellFormed :=
      cred.wellFormed_public_iff none none
    rw [← hcred, hredacted]
    constructor
    · intro hwf cred' heq
      rw [hparse] at heq
      injection heq with heq
      exact heq ▸ hwf
    · intro hall
      exact hall cred hparse

/-- **The prepared record is well formed exactly when the document is
    checked.** -/
theorem prepared_wellFormed_iff (X : Crates) (anchor : Option IssuerTrustAnchor) (c : ImportCall)
    (credential : CredentialV2) (secrets : Option CredentialSecrets)
    (h : c.prepare X anchor = .ok (credential, secrets)) :
    credential.WellFormed ↔ c.DocumentChecked X := by
  cases c with
  | importCredential json => exact parsed_wellFormed_iff X json credential secrets h
  | importCredentialWithType json type nickname =>
    exact parsed_wellFormed_iff X json credential secrets h
  | storeCredentialWithLabel json label type nickname =>
    exact parsed_wellFormed_iff X json credential secrets h
  | storeCredential json => exact parsed_wellFormed_iff X json credential secrets h
  | finalizeAndStoreCredential c =>
    unfold ImportCall.prepare prepareFinalized at h
    cases hhdr : X.parseHeader c.headerJson with
    | error e => simp [hhdr] at h
    | ok header =>
      cases hiss : checkIssuer anchor header with
      | error e => simp [hhdr, hiss] at h
      | ok u =>
        cases hdec : X.b64.decode c.rBitsB64.toList with
        | error e => simp [hhdr, hiss, hdec] at h
        | ok bytes =>
          cases hfin : finalizeCredential X header c.dobDays (unpackBits bytes rBitsLen) with
          | error e => simp [hhdr, hiss, hdec, hfin] at h
          | ok full =>
            simp only [hhdr, hiss, hdec, hfin, Except.ok.injEq, Prod.mk.injEq] at h
            obtain ⟨rfl, -⟩ := h
            have hredacted : (redacted full).WellFormed ↔ full.WellFormed :=
              full.wellFormed_public_iff none none
            rw [hredacted, finalized_wellFormed_iff X header c.dobDays _ full hfin]
            show _ ↔ ∀ header', X.parseHeader c.headerJson = .ok header' →
              TextsWithinLimits header'.kid header'.schema
            rw [hhdr]
            constructor
            · intro htexts header' heq
              injection heq with heq
              exact heq ▸ htexts
            · intro hall
              exact hall header rfl

/-! ## §4. One step -/

/-- A call that does not reach the store leaves it alone. -/
private theorem importStep_of_rejected (X : Crates) (s : Storage) (i : ImportStep)
    (h : ¬ ReachesStore X s i) : importStep X s i = s := by
  unfold importStep
  rw [ImportCall.run_eq]
  unfold ImportCall.stages ImportStep.wallet
  cases hslot : i.call.resolve i.fs.resolve s with
  | error e => rfl
  | ok slot =>
    cases hprep : i.call.prepare X i.anchor with
    | error e => rfl
    | ok p => exact absurd ⟨⟨slot, hslot⟩, p, hprep⟩ h

/-- A call that reaches the store writes what it prepared. -/
private theorem importStep_of_reaches (X : Crates) (s : Storage) (i : ImportStep)
    (h : ReachesStore X s i) :
    ∃ slot credential secrets, i.call.prepare X i.anchor = .ok (credential, secrets) ∧
      importStep X s i =
        (storeWithSecrets X i.fs s credential i.call.label slot i.call.nickname secrets).2 := by
  obtain ⟨⟨slot, hslot⟩, ⟨credential, secrets⟩, hprep⟩ := h
  refine ⟨slot, credential, secrets, hprep, ?_⟩
  unfold importStep
  rw [ImportCall.run_eq]
  unfold ImportCall.stages ImportStep.wallet
  simp only [hslot, hprep]
  rfl

/-- The two texts of a well-formed credential fit on the wire. -/
private theorem fits_of_withinLimits (text : String) (h : text.utf8ByteSize ≤ 256) :
    Codec.string.fits text := by
  show (Wire.utf8 text).length < 2 ^ 64
  rw [Wire.utf8_length]
  omega

/-- **A step that meets the condition keeps the records well formed**,
    whatever the backend does. -/
theorem publicWellFormed_step (X : Crates) (s : Storage) (i : ImportStep) (hs : PublicWellFormed s)
    (hi : MeetsChecks X s i) : PublicWellFormed (importStep X s i) := by
  by_cases hreach : ReachesStore X s i
  · obtain ⟨slot, credential, secrets, hprep, hrun⟩ := importStep_of_reaches X s i hreach
    have hwf : credential.WellFormed :=
      (prepared_wellFormed_iff X i.anchor i.call credential secrets hprep).2 (hi hreach)
    rw [hrun]
    obtain ⟨backend⟩ := s
    cases backend with
    | none =>
      -- without a backend every store call fails
      intro kv hkv
      cases hkv
    | some kv =>
      obtain ⟨kv', hkv', hold⟩ := storeWithSecrets_public X i.fs kv credential i.call.label slot
        i.call.nickname secrets
      rw [hkv']
      intro kv₁ heq k item stored hk hlook hdec
      injection heq with heq
      subst heq
      rcases hold k item hk hlook with hpre | ⟨-, rfl⟩
      · exact hs kv rfl k item stored hk hpre hdec
      · have hcred := credential_of_decodeStored _ stored
          (fits_of_withinLimits _ hwf.texts.1) (fits_of_withinLimits _ hwf.texts.2) hdec
        rw [hcred]
        exact (credential.wellFormed_public_iff none none).2 hwf
  · rw [importStep_of_rejected X s i hreach]
    exact hs

/-- On a working backend, a step into a store of well-formed records
    meets the condition. -/
theorem meetsChecks_of_publicWellFormed (X : Crates) (s : Storage) (i : ImportStep)
    (hans : CallAnswered X s i) (h : PublicWellFormed (importStep X s i)) : MeetsChecks X s i := by
  intro hreach
  obtain ⟨slot, credential, secrets, hprep, hrun⟩ := importStep_of_reaches X s i hreach
  rw [← prepared_wellFormed_iff X i.anchor i.call credential secrets hprep]
  rw [hrun] at h
  obtain ⟨backend⟩ := s
  obtain ⟨kv, rfl⟩ := Option.ne_none_iff_exists'.1 hans.attached
  obtain ⟨kv', hkv', -, hlook⟩ := storeWithSecrets_contents X i.fs hans.store hans.secrets kv
    credential i.call.label slot i.call.nickname secrets
  rw [hkv'] at h
  have hpublic : isCredentialKey (newKey X (placeOf i.call.label slot) credential) = true := by
    rw [newKey_eq, isCredentialKey_recordKey]
    rfl
  have hne := (secretsKeyOf_newKey_ne X (placeOf i.call.label slot) credential).symm
  have hnew := hlook _ hne
  rw [if_pos rfl] at hnew
  obtain ⟨hkid, hschema⟩ := hans.texts credential secrets hprep
  have hfits := storedRecord_fits i.fs.now credential i.call.label slot i.call.nickname hkid hschema
    hans.label hans.nickname
  have hwf := h kv' rfl _ _ _ hpublic hnew (decodeStored_encodeStored _ hfits)
  exact (credential.wellFormed_public_iff none none).1 hwf

/-! ## §5. Whole runs -/

/-- A store with an empty backend. -/
def emptyStorage : Storage := ⟨some ∅⟩

theorem publicWellFormed_empty : PublicWellFormed emptyStorage := by
  intro kv hkv k item stored _ hlook _
  injection hkv with hkv
  subst hkv
  cases hlook

/-- **Public records stay well formed**, over any run of import calls
    from the empty store: whatever the backend does, if every call that
    reaches the store has a checked document; and on a backend that
    answers, only if. -/
theorem public_wellFormed_of_run (X : Crates) (is : List ImportStep) :
    (StepsMeet (importStep X) (MeetsChecks X) emptyStorage is →
      Always (importStep X) PublicWellFormed emptyStorage is) ∧
    (StepsMeet (importStep X) (CallAnswered X) emptyStorage is →
      (Always (importStep X) PublicWellFormed emptyStorage is ↔
        StepsMeet (importStep X) (MeetsChecks X) emptyStorage is)) := by
  have hforward : StepsMeet (importStep X) (MeetsChecks X) emptyStorage is →
      Always (importStep X) PublicWellFormed emptyStorage is :=
    fun h => always_of_step (publicWellFormed_step X) publicWellFormed_empty h
  refine ⟨hforward, fun hans => ⟨fun hall => ?_, hforward⟩⟩
  have hany : StepsMeet (importStep X) (fun _ _ => True) emptyStorage is :=
    stepsMeet_true emptyStorage is
  refine (always_and_stepsMeet_iff (I := fun _ => True) (fun _ _ _ _ => trivial) ?_ trivial
    publicWellFormed_empty hans).1 ⟨hall, hany⟩
  intro s i _ hi hG
  constructor
  · intro h
    exact meetsChecks_of_publicWellFormed X s i hi h.1
  · intro h
    exact ⟨publicWellFormed_step X s i hG h, trivial⟩

/-! ## §6. A credential that expires before it was issued -/

/-- A JSON array of `n + 1` zeros. -/
def zeroArrayJson (n : Nat) : String := "[0" ++ String.join (List.replicate n ",0") ++ "]"

/-- A credential document issued at 3 and expired at 2. -/
def misorderedJson : String :=
  "\x7b\"v\":2,\"kid\":\"provii:2026-05\",\"issuer_vk\":" ++ zeroArrayJson 31 ++
  ",\"sig_rj\":" ++ zeroArrayJson 63 ++ ",\"c_bytes\":" ++ zeroArrayJson 31 ++
  ",\"iat\":3,\"exp\":2,\"schema\":\"provii.age/0\"\x7d"

def misorderedCredential : CredentialV2 :=
  { sampleCredential with kid := "provii:2026-05", iat := 3, exp := 2 }

/-- The sample crates, with a credential document that parses. -/
def documentCrates (json : String) (cred : CredentialV2) : Crates :=
  { sampleCrates with
    parseCredential := fun text => if text = json then .ok cred else .error "expected value" }

/-- The import of a document into the primary slot of a healthy store. -/
def importDocument (json : String) : ImportStep :=
  { fs := { resolve := .never, store := .never, secrets := .never, now := 0 }
    anchor := none
    call := .importCredential json }

/-- A parsed document under `documentCrates`. -/
private theorem parseCredential_document (json : String) (cred : CredentialV2) :
    (documentCrates json cred).parseCredential json = .ok cred := if_pos rfl

/-- The backend answers the import of a document whose texts fit. -/
private theorem importDocument_answered (json : String) (cred : CredentialV2)
    (hfits : Codec.string.fits cred.kid ∧ Codec.string.fits cred.schema) :
    CallAnswered (documentCrates json cred) emptyStorage (importDocument json) := by
  refine ⟨by simp [emptyStorage], Faults.never_healthy, Faults.never_healthy, ?_, ?_, ?_⟩
  · intro l hl
    cases hl
  · intro n hn
    cases hn
  · intro credential secrets hprep
    have hparse := parseCredential_document json cred
    unfold importDocument ImportCall.prepare ImportCall.parseDocument at hprep
    simp only [hparse, Except.ok.injEq, Prod.mk.injEq] at hprep
    obtain ⟨rfl, -⟩ := hprep
    exact hfits

/-- **A stored credential that is not well formed**: the wallet imports
    a document that expires before it was issued, which the constructor
    rejects. -/
theorem imported_credential_expires_before_issue :
    (misorderedCredential.exp < misorderedCredential.iat) ∧
    CredentialV2.fromJson (documentCrates misorderedJson misorderedCredential) misorderedJson =
      .error (.invalidTimestampOrder 3 2) ∧
    (∃ id, ((importDocument misorderedJson).call.run
      (documentCrates misorderedJson misorderedCredential) (importDocument misorderedJson).fs
      ((importDocument misorderedJson).wallet emptyStorage)).1 = .ok id) ∧
    ¬ PublicWellFormed (importStep (documentCrates misorderedJson misorderedCredential)
      emptyStorage (importDocument misorderedJson)) := by
  have hparse := parseCredential_document misorderedJson misorderedCredential
  have hfits : Codec.string.fits misorderedCredential.kid ∧
      Codec.string.fits misorderedCredential.schema :=
    ⟨fits_of_withinLimits _ (by decide), fits_of_withinLimits _ (by decide)⟩
  refine ⟨by decide, ?_, ?_, ?_⟩
  · unfold CredentialV2.fromJson
    rw [hparse]
    rfl
  · unfold importDocument ImportCall.run Wallet.importCredential importCredentialInternal
    simp only [hparse]
    obtain ⟨kv', hrun⟩ := storeWithSecrets_healthy
      (documentCrates misorderedJson misorderedCredential)
      { resolve := .never, store := .never, secrets := .never, now := 0 } Faults.never_healthy
      Faults.never_healthy ∅ (redacted misorderedCredential) none .primary none
      (takeSecrets misorderedCredential)
    exact ⟨_, congrArg Prod.fst hrun⟩
  · intro hwf
    have hmeets := meetsChecks_of_publicWellFormed _ emptyStorage (importDocument misorderedJson)
      (importDocument_answered misorderedJson misorderedCredential hfits) hwf
    have hreach : ReachesStore (documentCrates misorderedJson misorderedCredential) emptyStorage
        (importDocument misorderedJson) := by
      refine ⟨⟨.primary, rfl⟩, (redacted misorderedCredential, none), ?_⟩
      unfold importDocument ImportCall.prepare ImportCall.parseDocument
      simp only [hparse]
      rfl
    have hchecked := hmeets hreach misorderedCredential hparse
    exact absurd hchecked.order (by decide)

/-- The same document with its timestamps in order. -/
def orderedJson : String :=
  "\x7b\"v\":2,\"kid\":\"provii:2026-05\",\"issuer_vk\":" ++ zeroArrayJson 31 ++
  ",\"sig_rj\":" ++ zeroArrayJson 63 ++ ",\"c_bytes\":" ++ zeroArrayJson 31 ++
  ",\"iat\":2,\"exp\":3,\"schema\":\"provii.age/0\"\x7d"

def orderedCredential : CredentialV2 :=
  { sampleCredential with kid := "provii:2026-05", iat := 2, exp := 3 }

/-- Both directions at an import of that document. -/
theorem public_wellFormed_ordered :
    Always (importStep (documentCrates orderedJson orderedCredential)) PublicWellFormed
        emptyStorage [importDocument orderedJson] ∧
      StepsMeet (importStep (documentCrates orderedJson orderedCredential))
        (MeetsChecks (documentCrates orderedJson orderedCredential)) emptyStorage
        [importDocument orderedJson] := by
  have hfits : Codec.string.fits orderedCredential.kid ∧
      Codec.string.fits orderedCredential.schema :=
    ⟨fits_of_withinLimits _ (by decide), fits_of_withinLimits _ (by decide)⟩
  have hchecked : (importDocument orderedJson).call.DocumentChecked
      (documentCrates orderedJson orderedCredential) := by
    intro cred hparse
    rw [parseCredential_document] at hparse
    injection hparse with hparse
    rw [← hparse]
    exact ⟨rfl, by decide, by decide, by decide⟩
  have hrun := public_wellFormed_of_run (documentCrates orderedJson orderedCredential)
    [importDocument orderedJson]
  have hgood := hrun.1 ⟨fun _ => hchecked, trivial⟩
  exact ⟨hgood, (hrun.2 ⟨importDocument_answered orderedJson orderedCredential hfits, trivial⟩).1
    hgood⟩

end ProviiSdk.Wallet
