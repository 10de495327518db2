/-
  ProviiSdk.Ffi.Types — records of the FFI layer and their wire form.

  The stored credential with its metadata, the secrets record, the
  credential summary shown to the host, the FFI error type, and the
  positional encodings under which the two records are kept.

  Main results:
    * `decodeStored_encodeStored` — a stored record reads back with its
      private fields emptied and everything else unchanged.
    * `decodeSecrets_encodeSecrets` — a secrets record reads back.
    * `fits_of_decodeStored` — a record that was read can be written.
-/

import ProviiSdk.Lib.Wire
import ProviiSdk.Core.Types
import ProviiSdk.Platform.SecureStorage
import ProviiSdk.Ffi.StorageKeys

namespace ProviiSdk.Ffi

open ProviiSdk.Core ProviiSdk.Platform
open ProviiSdk.Wire (Codec zigzag)

/-! ## §1. Records -/

/-- Bookkeeping kept with a stored credential. -/
structure CredentialMetadata where
  importedAt : UInt64
  lastUsed : Option UInt64
  useCount : UInt32
  label : Option String
  credentialType : String
  nickname : Option String
  managedIndex : Option UInt8
  deriving DecidableEq

/-- The public record of a credential. -/
structure StoredCredential where
  credential : CredentialV2
  metadata : CredentialMetadata
  deriving DecidableEq

/-- The private fields a proof needs. -/
structure CredentialSecrets where
  dobDays : Int32
  rBits : List Bool
  deriving DecidableEq

inductive CredentialStatus where
  | valid
  | expired
  | invalid
  deriving DecidableEq, Repr

/-- What the host sees of a stored credential. -/
structure CredentialInfo where
  id : Key
  issuerName : String
  issuerKid : String
  issuedAt : UInt64
  expiresAt : UInt64
  isExpired : Bool
  canProve : Bool
  schema : String
  status : CredentialStatus
  credentialType : String
  nickname : Option String
  managedIndex : Option UInt8
  deriving DecidableEq

/-- The error type of the FFI surface. -/
inductive FfiError where
  | invalidFormat (msg : String)
  | storage (msg : String)
  | network (msg : String)
  | prover (msg : String)
  | operationInProgress
  | operationCancelled
  | notInitialized
  | ageRequirementNotMet
  | biometricNotAuthenticated
  | retryBudgetExceeded (msg : String)
  | requestTimeout (seconds : UInt64)
  | credentialNotFound
  | credentialExpired
  | securityViolation (msg : String)
  | generic (msg : String)
  deriving DecidableEq, Repr

/-- The `Display` text of an FFI error. -/
def FfiError.display : FfiError → String
  | .invalidFormat msg => "Invalid format: " ++ msg
  | .storage msg => "Storage error: " ++ msg
  | .network msg => "Network error: " ++ msg
  | .prover msg => "Prover error: " ++ msg
  | .operationInProgress => "Operation in progress"
  | .operationCancelled => "Operation cancelled"
  | .notInitialized => "Not initialised"
  | .ageRequirementNotMet =>
    "Your credential doesn't meet the age requirement for this verification"
  | .biometricNotAuthenticated => "Biometric authentication required but not completed"
  | .retryBudgetExceeded msg => "Retry budget exceeded for proving key download: " ++ msg
  | .requestTimeout seconds => s!"Request timed out after {seconds.toNat}s"
  | .credentialNotFound => "Credential not found"
  | .credentialExpired => "Credential expired"
  | .securityViolation msg => "Security violation: " ++ msg
  | .generic msg => msg

/-! ## §2. Wire forms -/

/-- The public fields of a credential: what its wire form holds. -/
structure PostcardCredential where
  v : UInt8
  kid : String
  issuerVk : Bytes32
  sigRj : Bytes64
  cBytes : Bytes32
  iat : UInt64
  exp : UInt64
  schema : String
  deriving DecidableEq

def PostcardCredential.ofCredential (c : CredentialV2) : PostcardCredential :=
  { v := c.v, kid := c.kid, issuerVk := c.issuerVk, sigRj := c.sigRj, cBytes := c.cBytes,
    iat := c.iat, exp := c.exp, schema := c.schema }

def PostcardCredential.toCredential (p : PostcardCredential) : CredentialV2 :=
  { v := p.v, kid := p.kid, issuerVk := p.issuerVk, sigRj := p.sigRj, cBytes := p.cBytes,
    iat := p.iat, exp := p.exp, schema := p.schema, dobDays := none, rBits := none }

/-- Positional encoding of the public fields, in declaration order. -/
def postcardCredential : Codec PostcardCredential :=
  (Codec.byte.pair <| Codec.string.pair <| (Codec.array 32).pair <| (Codec.bytesOf 64).pair <|
    (Codec.array 32).pair <| Codec.u64.pair <| Codec.u64.pair Codec.string).embed
    (fun p => (p.v, p.kid, p.issuerVk, p.sigRj, p.cBytes, p.iat, p.exp, p.schema))
    (fun (v, kid, issuerVk, sigRj, cBytes, iat, exp, schema) =>
      some { v, kid, issuerVk, sigRj, cBytes, iat, exp, schema })
    (fun _ _ => rfl)

/-- Positional encoding of the metadata. -/
def credentialMetadata : Codec CredentialMetadata :=
  (Codec.u64.pair <| Codec.u64.option.pair <| Codec.u32.pair <| Codec.string.option.pair <|
    Codec.string.pair <| Codec.string.option.pair Codec.byte.option).embed
    (fun m => (m.importedAt, m.lastUsed, m.useCount, m.label, m.credentialType, m.nickname,
      m.managedIndex))
    (fun (importedAt, lastUsed, useCount, label, credentialType, nickname, managedIndex) =>
      some { importedAt, lastUsed, useCount, label, credentialType, nickname, managedIndex })
    (fun _ _ => rfl)

/-- The wire form of a public record. -/
def storedCredentialWire : Codec (PostcardCredential × CredentialMetadata) :=
  postcardCredential.pair credentialMetadata

/-- The wire form of a secrets record. -/
def credentialSecrets : Codec CredentialSecrets :=
  (Codec.i32.pair Codec.bool.seq).embed (fun s => (s.dobDays, s.rBits))
    (fun (dobDays, rBits) => some { dobDays, rBits }) (fun _ _ => rfl)

/-- Rust's `postcard::to_allocvec` on a public record. -/
def encodeStored (s : StoredCredential) : Bytes :=
  storedCredentialWire.enc (PostcardCredential.ofCredential s.credential, s.metadata)

/-- Rust's `postcard::from_bytes` at a public record. -/
def decodeStored (bs : Bytes) : Option StoredCredential :=
  (storedCredentialWire.decode bs).map fun (c, m) => { credential := c.toCredential, metadata := m }

def encodeSecrets (s : CredentialSecrets) : Bytes := credentialSecrets.enc s

def decodeSecrets (bs : Bytes) : Option CredentialSecrets := credentialSecrets.decode bs

/-- A credential without its private fields. -/
def redacted (c : CredentialV2) : CredentialV2 := { c with dobDays := none, rBits := none }

/-- The texts of the record are no longer than a Rust string can be. -/
def StoredCredential.Fits (s : StoredCredential) : Prop :=
  storedCredentialWire.fits (PostcardCredential.ofCredential s.credential, s.metadata)

/-- A record fits as soon as its texts do. -/
theorem StoredCredential.fits_iff (s : StoredCredential) :
    s.Fits ↔ Codec.string.fits s.credential.kid ∧ Codec.string.fits s.credential.schema ∧
      (∀ l ∈ s.metadata.label, Codec.string.fits l) ∧
      Codec.string.fits s.metadata.credentialType ∧
      ∀ n ∈ s.metadata.nickname, Codec.string.fits n := by
  constructor
  · rintro ⟨⟨_, hkid, _, _, _, _, _, hschema⟩, _, _, _, hlabel, htype, hnick, _⟩
    exact ⟨hkid, hschema, hlabel, htype, hnick⟩
  · rintro ⟨hkid, hschema, hlabel, htype, hnick⟩
    have hsig : (s.credential.sigRj.toList).length < 2 ^ 64 := by
      rw [List.Vector.toList_length]
      decide
    refine ⟨⟨trivial, hkid, trivial, hsig, trivial, UInt64.toNat_lt _, UInt64.toNat_lt _, hschema⟩,
      UInt64.toNat_lt _, fun t _ => UInt64.toNat_lt t, UInt32.toNat_lt _, hlabel, htype, hnick,
      fun _ _ => trivial⟩

/-- **A public record reads back without its private fields.** -/
theorem decodeStored_encodeStored (s : StoredCredential) (h : s.Fits) :
    decodeStored (encodeStored s) = some { s with credential := redacted s.credential } := by
  unfold decodeStored encodeStored
  rw [storedCredentialWire.decode_encode _ h]
  rfl

/-- No public record has private fields, whoever wrote it. -/
theorem decodeStored_private {bs : Bytes} {stored : StoredCredential}
    (h : decodeStored bs = some stored) :
    stored.credential.dobDays = none ∧ stored.credential.rBits = none := by
  unfold decodeStored at h
  obtain ⟨⟨c, m⟩, -, hstored⟩ := Option.map_eq_some_iff.1 h
  rw [← hstored]
  exact ⟨rfl, rfl⟩

/-- Every wire form of a public record that is read is in range. -/
theorem storedCredentialWire_readsFit : storedCredentialWire.ReadsFit := by
  have hcredential : postcardCredential.ReadsFit := by
    refine Codec.embed_readsFit _ _ _ _ ?_ ?_
    · refine Codec.pair_readsFit _ _ Codec.byte_readsFit ?_
      refine Codec.pair_readsFit _ _ Codec.string_readsFit ?_
      refine Codec.pair_readsFit _ _ (Codec.array_readsFit 32) ?_
      refine Codec.pair_readsFit _ _ (Codec.bytesOf_readsFit 64) ?_
      refine Codec.pair_readsFit _ _ (Codec.array_readsFit 32) ?_
      refine Codec.pair_readsFit _ _ Codec.u64_readsFit ?_
      exact Codec.pair_readsFit _ _ Codec.u64_readsFit Codec.string_readsFit
    · intro fields p hfields hp
      injection hp with hp
      rw [← hp]
      exact hfields
  have hmetadata : credentialMetadata.ReadsFit := by
    have hstring := Codec.option_readsFit _ Codec.string_readsFit
    refine Codec.embed_readsFit _ _ _ _ ?_ ?_
    · refine Codec.pair_readsFit _ _ Codec.u64_readsFit ?_
      refine Codec.pair_readsFit _ _ (Codec.option_readsFit _ Codec.u64_readsFit) ?_
      refine Codec.pair_readsFit _ _ Codec.u32_readsFit ?_
      refine Codec.pair_readsFit _ _ hstring ?_
      refine Codec.pair_readsFit _ _ Codec.string_readsFit ?_
      exact Codec.pair_readsFit _ _ hstring (Codec.option_readsFit _ Codec.byte_readsFit)
    · intro fields m hfields hm
      injection hm with hm
      rw [← hm]
      exact hfields
  exact Codec.pair_readsFit _ _ hcredential hmetadata

/-- **A public record that was read can be written**, whoever wrote the
    bytes. -/
theorem fits_of_decodeStored {bs : Bytes} {stored : StoredCredential}
    (h : decodeStored bs = some stored) : stored.Fits := by
  unfold decodeStored at h
  obtain ⟨⟨c, m⟩, hwire, hstored⟩ := Option.map_eq_some_iff.1 h
  rw [← hstored]
  exact storedCredentialWire.fits_of_decode storedCredentialWire_readsFit bs (c, m) hwire

/-- Whatever the metadata, a record that reads back has the credential
    that was written, as soon as the credential's own texts fit. -/
theorem credential_of_decodeStored (s stored : StoredCredential)
    (hkid : Codec.string.fits s.credential.kid) (hschema : Codec.string.fits s.credential.schema)
    (h : decodeStored (encodeStored s) = some stored) :
    stored.credential = redacted s.credential := by
  have hsig : (s.credential.sigRj.toList).length < 2 ^ 64 := by
    rw [List.Vector.toList_length]
    decide
  have hfits : postcardCredential.fits (PostcardCredential.ofCredential s.credential) :=
    ⟨trivial, hkid, trivial, hsig, trivial, UInt64.toNat_lt _, UInt64.toNat_lt _, hschema⟩
  -- the credential is first on the wire, so what follows it does not matter
  have hdec := postcardCredential.dec_enc _ (credentialMetadata.enc s.metadata) hfits
  unfold decodeStored encodeStored Codec.decode at h
  simp only [storedCredentialWire, Codec.pair, hdec, Option.bind_some, Option.map_map] at h
  obtain ⟨_, _, h⟩ := Option.map_eq_some_iff.1 h
  rw [← h]
  rfl

/-- **A secrets record reads back.** -/
theorem decodeSecrets_encodeSecrets (s : CredentialSecrets) (h : s.rBits.length < 2 ^ 64) :
    decodeSecrets (encodeSecrets s) = some s := by
  refine credentialSecrets.decode_encode s ⟨?_, h, fun b _ => trivial⟩
  show zigzag s.dobDays.toInt < 2 ^ 32
  have hlo := Int32.le_toInt s.dobDays
  have hhi := Int32.toInt_lt s.dobDays
  unfold zigzag
  split <;> omega

end ProviiSdk.Ffi
