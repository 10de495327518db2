/-
  ProviiSdk.Wallet.Credentials — credential operations of the wallet.

  The methods of the wallet that import, finalise, delete and clean up
  credentials, that resolve a slot, and that load and persist the issuer
  trust anchor.  A method runs one or more critical sections of the
  store; each section has its own backend outcomes, collected in an
  `ImportFaults` record for the methods that write a credential.

  Main results:
    * `finalizeChecks_ok_iff` — what a finalisation checks before it
      touches the store.
-/

import ProviiSdk.Core.Issuance
import ProviiSdk.Ffi.StorageSpec

namespace ProviiSdk.Wallet

open ProviiSdk.Core ProviiSdk.Platform ProviiSdk.Ffi

/-! ## §1. The wallet's state -/

/-- The state the credential operations share: the store and the trust
    anchor in memory. -/
structure ProviiWallet where
  storage : Storage
  issuerTrustAnchor : Option IssuerTrustAnchor

/-- Backend outcomes and the clock for the three critical sections of an
    import: resolving the slot, storing the public record, storing the
    secrets. -/
structure ImportFaults where
  resolve : Faults
  store : Faults
  secrets : Faults
  now : Int64

/-! ## §2. Resolving a slot -/

/-- Turn a credential type into a slot; a managed import takes the next
    free index. -/
def resolveSlot (f : Faults) (s : Storage) (credentialType : String) (label : Option String) :
    Except FfiError CredentialSlot :=
  if credentialType = "managed" then
    -- nothing is reserved: the index is free at this moment only
    match s.read (nextAvailableManagedIndex f (fromLabel label)) with
    | .error e => .error (.generic e)
    | .ok index =>
      if index ≥ maxManagedSlots then
        .error (.invalidFormat
          s!"managed slot index {index.toNat} exceeds maximum ({maxManagedSlots.toNat - 1})")
      else .ok (.managed index)
  else if credentialType = "primary" then .ok .primary
  else .error (.invalidFormat ("unrecognised credential type: " ++ credentialType))

/-! ## §3. Importing and finalising -/

/-- Store the public record in its slot, then the secrets if there are
    any; a failure ends the import where it is. -/
def storeWithSecrets (X : Crates) (fs : ImportFaults) (s : Storage) (credential : CredentialV2)
    (label : Option String) (slot : CredentialSlot) (nickname : Option String)
    (secrets : Option CredentialSecrets) : Except FfiError Key × Storage :=
  match s.call (storeCredentialWithSlot X fs.store fs.now credential label slot nickname) with
  | (.error e, s) => (.error (.storage e), s)
  | (.ok credId, s) =>
    match secrets with
    | none => (.ok credId, s)
    | some secrets =>
      -- a second critical section; the public record is in the store
      match s.call (storeCredentialSecrets fs.secrets credId secrets) with
      | (.error e, s) => (.error (.storage e), s)
      | (.ok (), s) => (.ok credId, s)

/-- A method of the store on an attached backend. -/
theorem call_some {α : Type} (kv : Kv) (m : Kv → Except String α × Kv) :
    (⟨some kv⟩ : Storage).call m = ((m kv).1, ⟨some (m kv).2⟩) := rfl

theorem read_some {α : Type} (kv : Kv) (m : Kv → Except String α) :
    (⟨some kv⟩ : Storage).read m = m kv := rfl

/-- **On a healthy backend a write succeeds**: the slot then holds the
    new public record, its secrets if there are any, and nothing else. -/
theorem storeWithSecrets_healthy (X : Crates) (fs : ImportFaults) (hst : fs.store.Healthy)
    (hsec : fs.secrets.Healthy) (kv : Kv) (credential : CredentialV2) (label : Option String)
    (slot : CredentialSlot) (nickname : Option String) (secrets : Option CredentialSecrets) :
    ∃ kv', storeWithSecrets X fs ⟨some kv⟩ credential label slot nickname secrets =
      (.ok (newKey X (placeOf label slot) credential), ⟨some kv'⟩) := by
  obtain ⟨kv₁, hrun, -⟩ := storeCredentialWithSlot_healthy X fs.store hst fs.now credential label
    slot nickname kv
  unfold storeWithSecrets
  rw [call_some, hrun]
  cases secrets with
  | none => exact ⟨kv₁, rfl⟩
  | some secrets =>
    simp only [call_some]
    rcases storeCredentialSecrets_outcome fs.secrets
        (newKey X (placeOf label slot) credential) secrets kv₁ with
      ⟨e, hfail, _⟩ | ⟨_, heq⟩
    · rw [hsec.store] at hfail
      cases hfail
    · rw [heq]
      exact ⟨_, rfl⟩

/-- The secrets of a parsed credential: both private fields, or none. -/
def takeSecrets (cred : CredentialV2) : Option CredentialSecrets :=
  match cred.dobDays, cred.rBits with
  | some dobDays, some rBits => some { dobDays, rBits }
  | _, _ => none

/-- The shared import path. -/
def importCredentialInternal (X : Crates) (fs : ImportFaults) (s : Storage)
    (credentialJson : String) (label : Option String) (slot : CredentialSlot)
    (nickname : Option String) : Except FfiError Key × Storage :=
  match X.parseCredential credentialJson with
  | .error e => (.error (.invalidFormat e), s)
  | .ok cred =>
    storeWithSecrets X fs s (redacted cred) label slot nickname (takeSecrets cred)

/-- Import into the primary production slot. -/
def importCredential (X : Crates) (fs : ImportFaults) (s : Storage) (credentialJson : String) :
    Except FfiError Key × Storage :=
  importCredentialInternal X fs s credentialJson none .primary none

/-- An alias of `importCredential`. -/
def storeCredential (X : Crates) (fs : ImportFaults) (s : Storage) (credentialJson : String) :
    Except FfiError Key × Storage :=
  importCredential X fs s credentialJson

/-- Import into a typed slot with an optional label. -/
def storeCredentialWithLabel (X : Crates) (fs : ImportFaults) (s : Storage)
    (credentialJson : String) (label : Option String) (credentialType : String)
    (nickname : Option String) : Except FfiError Key × Storage :=
  match resolveSlot fs.resolve s credentialType label with
  | .error e => (.error e, s)
  | .ok slot => importCredentialInternal X fs s credentialJson label slot nickname

/-- Import into a typed production slot. -/
def importCredentialWithType (X : Crates) (fs : ImportFaults) (s : Storage)
    (credentialJson credentialType : String) (nickname : Option String) :
    Except FfiError Key × Storage :=
  match resolveSlot fs.resolve s credentialType none with
  | .error e => (.error e, s)
  | .ok slot => importCredentialInternal X fs s credentialJson none slot nickname

/-- The trust anchor check of a finalisation.  Without an anchor in
    memory the code logs a warning and goes on. -/
def checkIssuer (anchor : Option IssuerTrustAnchor) (header : SignedCredentialHeader) :
    Except FfiError Unit :=
  match anchor with
  | some anchor =>
    match validateIssuerVk header anchor with
    | .error e => .error (.invalidFormat e.display)
    | .ok () => .ok ()
  -- no anchor, no check
  | none => .ok ()

/-- What a finalisation does between resolving its slot and writing it:
    header, issuer, blinding bits, credential. -/
def prepareFinalized (X : Crates) (anchor : Option IssuerTrustAnchor) (headerJson : String)
    (dobDays : Int32) (rBitsB64 : String) : Except FfiError (CredentialV2 × CredentialSecrets) :=
  match X.parseHeader headerJson with
  | .error e => .error (.invalidFormat e)
  | .ok header =>
    match checkIssuer anchor header with
    | .error e => .error e
    | .ok () =>
      match X.b64.decode rBitsB64.toList with
      | .error e => .error (.invalidFormat e)
      | .ok bytes =>
        -- a long decode is cut, a short one fails the length check below
        let rBits := unpackBits bytes rBitsLen
        match finalizeCredential X header dobDays rBits with
        | .error e => .error (.generic e.display)
        | .ok credential => .ok (redacted credential, { dobDays, rBits })

/-- A finalised credential is prepared without its private fields. -/
theorem redacted_of_prepareFinalized {X : Crates} {anchor : Option IssuerTrustAnchor}
    {headerJson : String} {dobDays : Int32} {rBitsB64 : String} {credential : CredentialV2}
    {secrets : CredentialSecrets}
    (h : prepareFinalized X anchor headerJson dobDays rBitsB64 = .ok (credential, secrets)) :
    redacted credential = credential := by
  unfold prepareFinalized at h
  split at h
  · cases h
  next header _ =>
    split at h
    · cases h
    next =>
      split at h
      · cases h
      next bytes _ =>
        cases hfin : finalizeCredential X header dobDays (unpackBits bytes rBitsLen) with
        | error e =>
          simp only [hfin] at h
          cases h
        | ok full =>
          simp only [hfin] at h
          injection h with h
          injection h with h
          rw [← h]
          rfl

/-- The part of a finalisation that writes nothing. -/
def finalizeChecks (X : Crates) (f : Faults) (w : ProviiWallet) (headerJson : String) (dobDays : Int32)
    (rBitsB64 : String) (label : Option String) (credentialType : String) :
    Except FfiError (CredentialSlot × CredentialV2 × CredentialSecrets) :=
  match resolveSlot f w.storage credentialType label with
  | .error e => .error e
  | .ok slot =>
    match prepareFinalized X w.issuerTrustAnchor headerJson dobDays rBitsB64 with
    | .error e => .error e
    | .ok (credential, secrets) => .ok (slot, credential, secrets)

/-- **What passes the checks of a finalisation**: the slot resolves, the
    header parses, the issuer check passes, the blinding bits decode,
    and the credential finalises. -/
theorem finalizeChecks_ok_iff (X : Crates) (f : Faults) (w : ProviiWallet) (headerJson : String)
    (dobDays : Int32) (rBitsB64 : String) (label : Option String) (credentialType : String)
    (slot : CredentialSlot) (credential : CredentialV2) (secrets : CredentialSecrets) :
    finalizeChecks X f w headerJson dobDays rBitsB64 label credentialType =
        .ok (slot, credential, secrets) ↔
      ∃ header bytes full,
        resolveSlot f w.storage credentialType label = .ok slot ∧
        X.parseHeader headerJson = .ok header ∧
        checkIssuer w.issuerTrustAnchor header = .ok () ∧
        X.b64.decode rBitsB64.toList = .ok bytes ∧
        finalizeCredential X header dobDays (unpackBits bytes rBitsLen) = .ok full ∧
        credential = redacted full ∧
        secrets = { dobDays, rBits := unpackBits bytes rBitsLen } := by
  unfold finalizeChecks prepareFinalized
  constructor
  · intro h
    cases hslot : resolveSlot f w.storage credentialType label with
    | error e => rw [hslot] at h; cases h
    | ok slot' =>
      cases hhdr : X.parseHeader headerJson with
      | error e => rw [hslot, hhdr] at h; cases h
      | ok header =>
        cases hiss : checkIssuer w.issuerTrustAnchor header with
        | error e => simp only [hslot, hhdr, hiss] at h; cases h
        | ok u =>
          cases hdec : X.b64.decode rBitsB64.toList with
          | error e => simp only [hslot, hhdr, hiss, hdec] at h; cases h
          | ok bytes =>
            cases hfin : finalizeCredential X header dobDays (unpackBits bytes rBitsLen) with
            | error e => simp only [hslot, hhdr, hiss, hdec, hfin] at h; cases h
            | ok full =>
              simp only [hslot, hhdr, hiss, hdec, hfin, Except.ok.injEq, Prod.mk.injEq] at h
              obtain ⟨rfl, rfl, rfl⟩ := h
              exact ⟨header, bytes, full, rfl, rfl, hiss, rfl, hfin, rfl, rfl⟩
  · rintro ⟨header, bytes, full, hslot, hhdr, hiss, hdec, hfin, rfl, rfl⟩
    simp only [hslot, hhdr, hiss, hdec, hfin]

/-- Finalise a credential from issuance and store it. -/
def finalizeAndStoreCredential (X : Crates) (fs : ImportFaults) (w : ProviiWallet) (headerJson : String)
    (dobDays : Int32) (rBitsB64 : String) (label : Option String) (credentialType : String)
    (nickname : Option String) : Except FfiError Key × Storage :=
  match finalizeChecks X fs.resolve w headerJson dobDays rBitsB64 label credentialType with
  | .error e => (.error e, w.storage)
  | .ok (slot, credential, secrets) =>
    storeWithSecrets X fs w.storage credential label slot nickname (some secrets)

/-- The arguments of a finalisation. -/
structure FinalizeCall where
  headerJson : String
  dobDays : Int32
  rBitsB64 : String
  label : Option String
  credentialType : String
  nickname : Option String

/-- A finalisation with its arguments as one record. -/
def FinalizeCall.run (X : Crates) (fs : ImportFaults) (w : ProviiWallet) (c : FinalizeCall) :
    Except FfiError Key × Storage :=
  finalizeAndStoreCredential X fs w c.headerJson c.dobDays c.rBitsB64 c.label c.credentialType
    c.nickname

/-- The finalisation entry point outside the wallet: it needs an anchor
    and stores nothing. -/
def sdkIssueFinalizeCredential (X : Crates) (headerJson : String) (dobDays : Int32)
    (rBitsB64 : String) (issuerTrustAnchorJson : Option String) : Except FfiError String :=
  match X.parseHeader headerJson with
  | .error e => .error (.invalidFormat e)
  | .ok header =>
    match issuerTrustAnchorJson with
    | none =>
      .error (.invalidFormat
        "issuer_trust_anchor_json is required for credential finalisation")
    | some anchorJson =>
      match X.parseAnchor (Wire.utf8 anchorJson) with
      | .error e => .error (.invalidFormat e)
      | .ok anchor =>
        match validateIssuerVk header anchor with
        | .error e => .error (.invalidFormat e.display)
        | .ok () =>
          match X.b64.decode rBitsB64.toList with
          | .error e => .error (.invalidFormat e)
          | .ok bytes =>
            match finalizeCredential X header dobDays (unpackBits bytes rBitsLen) with
            | .error e => .error (.generic e.display)
            | .ok credential =>
              match X.credentialJson credential with
              | .error e => .error (.invalidFormat e)
              | .ok json => .ok json

/-! ## §4. Deleting and cleaning up -/

/-- Delete a credential and its secrets. -/
def deleteCredentialById (f : Faults) (s : Storage) (credentialId : Key) :
    Except FfiError Unit × Storage :=
  match s.call (deleteCredential f credentialId) with
  | (.error e, s) => (.error (.generic e), s)
  | (.ok (), s) => (.ok (), s)

/-- Update the nickname of a credential. -/
def updateCredentialNickname (X : Crates) (f : Faults) (s : Storage) (credentialId : Key)
    (nickname : Option String) : Except FfiError Unit × Storage :=
  match s.call (Ffi.updateCredentialNickname X f credentialId nickname) with
  | (.error e, s) => (.error (.storage e), s)
  | (.ok (), s) => (.ok (), s)

/-- Delete all sandbox credentials. -/
def deleteSandbox (f : Faults) (s : Storage) : Except FfiError Unit × Storage :=
  match s.call (deleteSandboxCredentials f) with
  | (.error e, s) => (.error (.storage e), s)
  | (.ok _, s) => (.ok (), s)

/-- What the deleting and updating methods leave in an attached backend. -/
theorem deleteCredentialById_storage (f : Faults) (kv : Kv) (id : Key) :
    (deleteCredentialById f ⟨some kv⟩ id).2 = ⟨some (deleteCredential f id kv).2⟩ := by
  unfold deleteCredentialById
  rw [call_some]
  cases (deleteCredential f id kv).1 <;> rfl

theorem deleteSandbox_storage (f : Faults) (kv : Kv) :
    (deleteSandbox f ⟨some kv⟩).2 = ⟨some (deleteSandboxCredentials f kv).2⟩ := by
  unfold deleteSandbox
  rw [call_some]
  cases (deleteSandboxCredentials f kv).1 <;> rfl

theorem updateCredentialNickname_storage (X : Crates) (f : Faults) (kv : Kv) (id : Key)
    (nickname : Option String) :
    (updateCredentialNickname X f ⟨some kv⟩ id nickname).2 =
      ⟨some (Ffi.updateCredentialNickname X f id nickname kv).2⟩ := by
  unfold updateCredentialNickname
  rw [call_some]
  cases (Ffi.updateCredentialNickname X f id nickname kv).1 <;> rfl

/-- The cleanup loop: each expired credential is deleted by its own
    critical section, and a failure is only logged. -/
def deleteExpired (fd : Key → Faults) : List CredentialInfo → Nat → Storage → Nat × Storage
  | [], removed, s => (removed, s)
  | info :: infos, removed, s =>
    if info.isExpired then
      match s.call (deleteCredential (fd info.id) info.id) with
      -- logged in the source, and the loop goes on
      | (.error _, s) => deleteExpired fd infos removed s
      | (.ok (), s) => deleteExpired fd infos (removed + 1) s
    else deleteExpired fd infos removed s

/-- Remove expired credentials; returns how many. -/
def cleanupExpiredCredentials (f : Faults) (clock : Key → Int64) (fd : Key → Faults)
    (s : Storage) : Nat × Storage :=
  match s.read (listCredentials f clock) with
  | .ok creds => deleteExpired fd creds 0 s
  | .error _ => (0, s)

/-! ## §5. The trust anchor -/

/-- Persist the anchor under its fixed key. -/
def persistAnchorToStorage (X : Crates) (f : Faults) (s : Storage) (anchor : IssuerTrustAnchor) :
    Except FfiError Unit × Storage :=
  match X.anchorJson anchor with
  | .error e => (.error (.invalidFormat e), s)
  | .ok json =>
    match s.backend with
    | none => (.error (.storage "storage not initialised"), s)
    | some kv =>
      match store f kv trustAnchorStorageKey json .none with
      | .error e => (.error (.storage e.display), s)
      | .ok kv => (.ok (), ⟨some kv⟩)

/-- Load the persisted anchor. -/
def loadAnchorFromStorage (X : Crates) (f : Faults) (s : Storage) :
    Except FfiError (Option IssuerTrustAnchor) :=
  match s.backend with
  | none => .ok none
  | some kv =>
    match retrieve f kv trustAnchorStorageKey with
    | .ok data =>
      match X.parseAnchor data with
      | .ok anchor => .ok (some anchor)
      | .error e => .error (.invalidFormat ("failed to parse persisted trust anchor: " ++ e))
    | .error e => if mentionsNotFound e then .ok none else .error (.storage e.display)

/-- Attach a backend, clean up expired credentials, and restore the
    persisted anchor if one can be read. -/
def setStorageHandle (X : Crates) (f : Faults) (clock : Key → Int64) (fd : Key → Faults)
    (fa : Faults) (w : ProviiWallet) (kv : Kv) : ProviiWallet :=
  let s := (cleanupExpiredCredentials f clock fd ⟨some kv⟩).2
  match loadAnchorFromStorage X fa s with
  | .ok (some anchor) => { storage := s, issuerTrustAnchor := some anchor }
  | .ok none => { w with storage := s }
  -- a failing load leaves the anchor in memory alone
  | .error _ => { w with storage := s }

/-- Merge the keys of a JWKS document into the anchor in memory and
    persist the result; a failing persist is only logged. -/
def refreshIssuerKeys (X : Crates) (f : Faults) (now : Int64) (w : ProviiWallet) (jwksJson : String) :
    Except FfiError Unit × ProviiWallet :=
  match parseJwksIntoKeys X jwksJson with
  | .error e => (.error (.invalidFormat e.display), w)
  | .ok newKeys =>
    if newKeys = [] then (.ok (), w)
    else
      let anchor : IssuerTrustAnchor :=
        match w.issuerTrustAnchor with
        -- keys are only ever added
        | some existing => { existing.unionMerge newKeys with fetchedAt := nowSecs now }
        | none => { keys := newKeys, fetchedAt := nowSecs now }
      (.ok (),
        -- the anchor in memory changes whether or not it was persisted
        { storage := (persistAnchorToStorage X f w.storage anchor).2
          issuerTrustAnchor := some anchor })

end ProviiSdk.Wallet
