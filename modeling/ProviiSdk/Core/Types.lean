/-
  ProviiSdk.Core.Types — the data the core crate works on.

  Credentials and signed headers, the issuer trust anchor with its
  merge, the core error type, and the functions of external crates
  (JSON, base64url, commitment, signature) as one record `Crates` that
  the model is parametric in.
-/

import Mathlib.Data.Vector.Basic
import ProviiSdk.Lib.Base64Url

namespace ProviiSdk.Core

/-! ## §1. Credentials -/

/-- The array type `[u8; 32]`. -/
abbrev Bytes32 := List.Vector UInt8 32

/-- The array type `[u8; 64]`. -/
abbrev Bytes64 := List.Vector UInt8 64

/-- A credential: the signed public fields, and the private `dobDays`
    and `rBits` that only some carriers hold. -/
structure CredentialV2 where
  v : UInt8
  kid : String
  issuerVk : Bytes32
  sigRj : Bytes64
  cBytes : Bytes32
  iat : UInt64
  exp : UInt64
  schema : String
  dobDays : Option Int32
  rBits : Option (List Bool)
  deriving DecidableEq

/-- The header the issuer signs and returns. -/
structure SignedCredentialHeader where
  v : UInt8
  kid : String
  issuerVk : Bytes32
  sigRj : Bytes64
  cBytes : Bytes32
  iat : UInt64
  exp : UInt64
  schema : String
  deriving DecidableEq

/-- The message under the issuer's signature. -/
structure CredMsgV2 where
  v : UInt8
  kid : String
  c : Bytes32
  iat : UInt64
  exp : UInt64
  schema : String
  deriving DecidableEq

/-! ## §2. The issuer trust anchor -/

/-- An issuer key the wallet trusts. -/
structure TrustedIssuerKey where
  kid : String
  vk : Bytes32
  deriving DecidableEq

/-- The trusted issuer keys and the time they were fetched. -/
structure IssuerTrustAnchor where
  keys : List TrustedIssuerKey
  fetchedAt : UInt64
  deriving DecidableEq

/-- One round of `union_merge`: the first entry with the new key's `kid`
    takes its `vk`; without one the new key goes to the end. -/
def mergeKey : List TrustedIssuerKey → TrustedIssuerKey → List TrustedIssuerKey
  | [], newKey => [newKey]
  | k :: ks, newKey =>
    if k.kid = newKey.kid then { k with vk := newKey.vk } :: ks
    else k :: mergeKey ks newKey

/-- The method `union_merge`: the new keys merged in order. -/
def IssuerTrustAnchor.unionMerge (anchor : IssuerTrustAnchor) (newKeys : List TrustedIssuerKey) :
    IssuerTrustAnchor :=
  { anchor with keys := newKeys.foldl mergeKey anchor.keys }

/-! ## §3. Errors -/

/-- The core crate's `WalletError`. -/
inductive WalletError where
  | credentialError (msg : String)
  | credentialNotFound
  | credentialExpired
  | invalidCredentialFormat
  | proverError (msg : String)
  | proverNotInitialized
  | proofGenerationFailed (msg : String)
  | storageError (msg : String)
  | storageFull
  | networkError (msg : String)
  | requestTimeout
  | invalidInput (msg : String)
  | validationFailed (msg : String)
  | underAge
  | serializationError (msg : String)
  | base64Error (msg : String)
  | securityError (msg : String)
  | invalidSignature
  | operationFailed (msg : String)
  | unknown (msg : String)
  deriving DecidableEq, Repr

/-- The `Display` text of a core error. -/
def WalletError.display : WalletError → String
  | .credentialError msg => "credential error: " ++ msg
  | .credentialNotFound => "credential not found"
  | .credentialExpired => "credential expired"
  | .invalidCredentialFormat => "invalid credential format"
  | .proverError msg => "prover error: " ++ msg
  | .proverNotInitialized => "prover not initialised"
  | .proofGenerationFailed msg => "proof generation failed: " ++ msg
  | .storageError msg => "storage error: " ++ msg
  | .storageFull => "storage full"
  | .networkError msg => "network error: " ++ msg
  | .requestTimeout => "request timeout"
  | .invalidInput msg => "invalid input: " ++ msg
  | .validationFailed msg => "validation failed: " ++ msg
  | .underAge => "age requirement not met"
  | .serializationError msg => "serialisation error: " ++ msg
  | .base64Error msg => "base64 decode error: " ++ msg
  | .securityError msg => "security error: " ++ msg
  | .invalidSignature => "invalid signature"
  | .operationFailed msg => "operation failed: " ++ msg
  | .unknown msg => "unknown error: " ++ msg

/-! ## §4. External crates -/

/-- A parsed JSON document. -/
inductive Json where
  | null
  | bool (b : Bool)
  | num (text : String)
  | str (s : String)
  | arr (items : List Json)
  | obj (fields : List (String × Json))

/-- Serde's `Value::get` with a text index: the field of an object. -/
def Json.get (key : String) : Json → Option Json
  | .obj fields => (fields.find? (fun f => f.1 == key)).map (·.2)
  | _ => none

/-- Serde's `Value::as_str`. -/
def Json.asStr : Json → Option String
  | .str s => some s
  | _ => none

/-- Serde's `Value::as_array`. -/
def Json.asArray : Json → Option (List Json)
  | .arr items => some items
  | _ => none

/-- An error of an external crate, as its `Display` and `Debug` texts. -/
structure CrateError where
  display : String
  debug : String
  deriving DecidableEq

/-- The functions of external crates the model calls.  Where callers
    format an error in one way only, it is the text they get. -/
structure Crates where
  -- the `URL_SAFE_NO_PAD` engine
  b64 : Base64Url.Engine
  -- `serde_json::from_str` at the type named
  parseJson : String → Except String Json
  parseCredential : String → Except String CredentialV2
  parseHeader : String → Except String SignedCredentialHeader
  parseAnchor : List UInt8 → Except String IssuerTrustAnchor
  -- `serde_json::to_string`; the anchor's text as the bytes that are stored
  anchorJson : IssuerTrustAnchor → Except String (List UInt8)
  credentialJson : CredentialV2 → Except String String
  -- what postcard says about bytes it rejects
  postcardError : List UInt8 → String
  pedersenCommitDobValidated : Int32 → List Bool → Except String Bytes32
  pedersenNullifier : Bytes32 → Bytes32
  verifyCredV2 : CredMsgV2 → Bytes64 → Bytes32 → Except CrateError Unit

end ProviiSdk.Core
