/-
  ProviiSdk.Ffi.Storage — the credential store.

  The methods of `Storage` over a backend that may fail at any call.
  Each method is one critical section: it takes the backend's contents
  and returns its answer with the contents it leaves.  An error is the
  text of the `anyhow!` error.

  A method that only reads returns its answer alone.  The clock is read
  once per stored record, and once per record examined by a listing, so
  a listing takes a reading for every key.
-/

import ProviiSdk.Ffi.Types

namespace ProviiSdk.Ffi

open ProviiSdk.Core ProviiSdk.Platform ProviiSdk.Text

/-! ## §1. Access to the backend -/

/-- The store: the backend's contents once a backend is attached. -/
structure Storage where
  backend : Option Kv

/-- Run a method body on the attached backend. -/
def Storage.call {α : Type} (s : Storage) (m : Kv → Except String α × Kv) :
    Except String α × Storage :=
  match s.backend with
  | none => (.error "Storage not initialised", s)
  | some kv => ((m kv).1, ⟨some (m kv).2⟩)

/-- Run a reading method body on the attached backend. -/
def Storage.read {α : Type} (s : Storage) (m : Kv → Except String α) : Except String α :=
  match s.backend with
  | none => .error "Storage not initialised"
  | some kv => m kv

/-- The clock reading `timestamp().max(0) as u64`. -/
def nowSecs (now : Int64) : UInt64 := UInt64.ofNat now.toInt.toNat

/-- The substring test by which the store recognises an absent key. -/
def mentionsNotFound (e : Platform.WalletError) : Bool :=
  decide ("NotFound".toList <:+: e.display.toList)

/-! ## §2. Writing a credential -/

/-- The base id of a credential: its nullifier in base64url. -/
def computeBaseId (X : Crates) (credential : CredentialV2) : Key :=
  X.b64.encode (X.pedersenNullifier credential.cBytes).toList

/-- The loop that empties a slot: every listed key with one of the
    slot's prefixes is deleted, and the first failure ends it. -/
def deleteSlot (f : Faults) (credPrefix credsecPrefix : Key) :
    List Key → Kv → Except String Unit × Kv
  | [], kv => (.ok (), kv)
  | key :: keys, kv =>
    if credPrefix <+: key ∨ credsecPrefix <+: key then
      match delete f kv key with
      -- what was deleted before the failure stays deleted
      | .error e => (.error ("Failed to delete existing credential: " ++ e.display), kv)
      | .ok kv => deleteSlot f credPrefix credsecPrefix keys kv
    else deleteSlot f credPrefix credsecPrefix keys kv

/-- The public record `store_credential_with_slot` writes. -/
def storedRecord (now : Int64) (credential : CredentialV2) (label : Option String)
    (slot : CredentialSlot) (nickname : Option String) : StoredCredential :=
  { credential
    metadata :=
      { importedAt := nowSecs now
        lastUsed := none
        useCount := 0
        label
        credentialType := match slot with
          | .primary => "primary"
          | .managed _ => "managed"
        nickname
        managedIndex := match slot with
          | .primary => none
          | .managed index => some index } }

/-- Store a credential in a slot after deleting what the slot holds. -/
def storeCredentialWithSlot (X : Crates) (f : Faults) (now : Int64) (credential : CredentialV2)
    (label : Option String) (slot : CredentialSlot) (nickname : Option String) (kv : Kv) :
    Except String Key × Kv :=
  let (credPrefix, credsecPrefix) := prefixesForSlot (fromLabel label) slot
  match listKeys f kv with
  | .error e => (.error ("Failed to list keys: " ++ e.display), kv)
  | .ok keys =>
    -- the slot is emptied before anything is written
    match deleteSlot f credPrefix credsecPrefix keys kv with
    | (.error e, kv) => (.error e, kv)
    | (.ok (), kv) =>
      let key := credPrefix ++ computeBaseId X credential
      let data := encodeStored (storedRecord now credential label slot nickname)
      match store f kv key data .none with
      | .error e => (.error ("Failed to store credential: " ++ e.display), kv)
      | .ok kv => (.ok key, kv)

/-- Store the secrets of a credential behind the biometric gate. -/
def storeCredentialSecrets (f : Faults) (credId : Key) (secrets : CredentialSecrets) (kv : Kv) :
    Except String Unit × Kv :=
  match store f kv (secretsKeyOf credId) (encodeSecrets secrets)
      BiometricRequirement.forCredentialSecrets with
  | .error e => (.error ("Failed to store secrets: " ++ e.display), kv)
  | .ok kv => (.ok (), kv)

/-! ## §3. Reading credentials -/

/-- Are secrets present for a credential? -/
def credentialSecretsExist (f : Faults) (credId : Key) (kv : Kv) : Except String Bool :=
  match exists? f kv (secretsKeyOf credId) with
  | .error e => .error ("Failed to check secrets existence: " ++ e.display)
  | .ok b => .ok b

/-- Load the secrets of a credential. -/
def loadCredentialSecrets (X : Crates) (f : Faults) (credId : Key) (kv : Kv) :
    Except String (Option CredentialSecrets) :=
  match retrieve f kv (secretsKeyOf credId) with
  | .ok data =>
    match decodeSecrets data with
    | some secrets => .ok (some secrets)
    | none => .error ("Failed to parse secrets: " ++ X.postcardError data)
  | .error e =>
    -- an absent record is told from a failure by the error's text
    if mentionsNotFound e then .ok none
    else .error ("Failed to retrieve secrets: " ++ e.display)

/-- Retrieve a credential by its key. -/
def getCredential (X : Crates) (f : Faults) (credentialId : Key) (kv : Kv) :
    Except String (Option CredentialV2) :=
  match retrieve f kv credentialId with
  | .ok data =>
    match decodeStored data with
    | some stored => .ok (some stored.credential)
    | none => .error ("Failed to parse credential: " ++ X.postcardError data)
  | .error e =>
    if mentionsNotFound e then .ok none
    else .error ("Failed to retrieve credential: " ++ e.display)

/-- The issuer named in a key id: its second `:`-separated field. -/
def issuerNameOf (kid : String) : String :=
  if "issuer:".toList <:+: kid.toList then
    match kid.toList.dropWhile (fun c => c != ':') with
    | _ :: rest => String.ofList (firstField ':' rest)
    | [] => "Unknown Issuer"
  else "Unknown Issuer"

/-- The summary of one decoded record. -/
def credentialInfo (now : Int64) (key : Key) (stored : StoredCredential) (hasSecrets : Bool) :
    CredentialInfo :=
  let expired := decide (stored.credential.exp < nowSecs now)
  let issuerName := issuerNameOf stored.credential.kid
  { id := key
    issuerName :=
      match stored.metadata.label with
      | some label =>
        if eqIgnoreAsciiCase label "sandbox" then issuerName ++ " (Sandbox)" else issuerName
      | none => issuerName
    issuerKid := stored.credential.kid
    issuedAt := stored.credential.iat
    expiresAt := stored.credential.exp
    isExpired := expired
    canProve := !expired && hasSecrets
    schema := stored.credential.schema
    status := if expired then .expired else .valid
    credentialType := stored.metadata.credentialType
    nickname := stored.metadata.nickname
    managedIndex := stored.metadata.managedIndex }

/-- One round of the listing loop: keys of other records, records that
    cannot be read and records that do not decode are skipped. -/
def listEntry (f : Faults) (clock : Key → Int64) (kv : Kv) (key : Key) : Option CredentialInfo :=
  if isCredentialKey key then
    match retrieve f kv key with
    | .error _ => none
    | .ok data =>
      (decodeStored data).map fun stored =>
        let hasSecrets := match exists? f kv (secretsKeyOf key) with
          | .ok b => b
          -- a failing check counts as no secrets
          | .error _ => false
        credentialInfo (clock key) key stored hasSecrets
  else none

/-- List all stored credentials. -/
def listCredentials (f : Faults) (clock : Key → Int64) (kv : Kv) :
    Except String (List CredentialInfo) :=
  match listKeys f kv with
  | .error e => .error ("Failed to list keys: " ++ e.display)
  | .ok keys => .ok (keys.filterMap (listEntry f clock kv))

/-! ## §4. Managed slots -/

/-- The managed prefix of public records in a namespace. -/
def managedCredPrefix : CredentialNamespace → Key
  | .sandbox => sandboxCredManagedPrefix
  | _ => primaryCredManagedPrefix

/-- The managed prefix of secrets records in a namespace. -/
def managedCredsecPrefix : CredentialNamespace → Key
  | .sandbox => sandboxCredsecManagedPrefix
  | _ => primaryCredsecManagedPrefix

/-- The managed index a listed key occupies. -/
def occupiedIndex (managedPrefix key : Key) : Option UInt8 :=
  if managedPrefix <+: key then
    -- the default is never taken: the prefix has just been tested
    parseU8 (firstField '.' ((key.dropPrefix? managedPrefix).getD ['0']))
  else none

/-- The smallest managed index no listed key occupies. -/
def firstFreeIndex (managedPrefix : Key) (keys : List Key) : Option UInt8 :=
  ((List.range maxManagedSlots.toNat).map UInt8.ofNat).find? fun i =>
    !keys.any fun key => occupiedIndex managedPrefix key == some i

/-- The next free managed index of a namespace. -/
def nextAvailableManagedIndex (f : Faults) (ns : CredentialNamespace) (kv : Kv) :
    Except String UInt8 :=
  match listKeys f kv with
  | .error e => .error ("Failed to list keys: " ++ e.display)
  | .ok keys =>
    match firstFreeIndex (managedCredPrefix ns) keys with
    | some i => .ok i
    | none => .error "All 15 managed credential slots are full"

/-! ## §5. Updating and deleting -/

/-- Replace the nickname in a public record. -/
def updateCredentialNickname (X : Crates) (f : Faults) (credentialId : Key)
    (nickname : Option String) (kv : Kv) : Except String Unit × Kv :=
  match retrieve f kv credentialId with
  | .error e => (.error ("Credential not found: " ++ e.display), kv)
  | .ok data =>
    match decodeStored data with
    | none => (.error ("Failed to parse credential: " ++ X.postcardError data), kv)
    | some stored =>
      let updated := { stored with metadata := { stored.metadata with nickname } }
      match store f kv credentialId (encodeStored updated) .none with
      | .error e => (.error ("Failed to update credential: " ++ e.display), kv)
      | .ok kv => (.ok (), kv)

/-- Delete a credential's public record, then its secrets record; the
    outcome of the second delete is dropped. -/
def deleteCredential (f : Faults) (credentialId : Key) (kv : Kv) : Except String Unit × Kv :=
  match delete f kv credentialId with
  | .error e => (.error ("Failed to delete credential: " ++ e.display), kv)
  | .ok kv =>
    -- the public record is gone by now: an orphan is not reported
    match delete f kv (secretsKeyOf credentialId) with
    | .error _ => (.ok (), kv)
    | .ok kv => (.ok (), kv)

/-- Is the key one that `delete_all_in_namespace` removes? -/
def inNamespace (ns : CredentialNamespace) (key : Key) : Bool :=
  decide ((prefixesForSlot ns .primary).1 <+: key) ||
    decide ((prefixesForSlot ns .primary).2 <+: key) ||
    decide (managedCredPrefix ns <+: key) || decide (managedCredsecPrefix ns <+: key)

/-- The loop of `delete_all_in_namespace`: a key whose delete fails is
    left and not counted. -/
def deleteMatching (f : Faults) (ns : CredentialNamespace) : List Key → Nat → Kv → Nat × Kv
  | [], deleted, kv => (deleted, kv)
  | key :: keys, deleted, kv =>
    if inNamespace ns key then
      match delete f kv key with
      | .ok kv => deleteMatching f ns keys (deleted + 1) kv
      -- left in the store, and the loop goes on
      | .error _ => deleteMatching f ns keys deleted kv
    else deleteMatching f ns keys deleted kv

/-- Delete every credential record of a namespace. -/
def deleteAllInNamespace (f : Faults) (ns : CredentialNamespace) (kv : Kv) :
    Except String Nat × Kv :=
  match listKeys f kv with
  | .error e => (.error ("Failed to list keys: " ++ e.display), kv)
  | .ok keys =>
    let (deleted, kv) := deleteMatching f ns keys 0 kv
    (.ok deleted, kv)

/-- Delete every sandbox credential. -/
def deleteSandboxCredentials (f : Faults) (kv : Kv) : Except String Nat × Kv :=
  deleteAllInNamespace f .sandbox kv

end ProviiSdk.Ffi
