/-
  ProviiSdk.Core.Sample — a small instance of the external crates.

  Concrete data on which statements about the model are evaluated: a
  signed header as the JSON text the issuer sends, its credential, and
  crates under which that header parses, its commitment is recomputed
  and its signature verifies.
-/

import ProviiSdk.Core.Types

namespace ProviiSdk.Core

/-- An array of `n` zero bytes. -/
def zeroBytes (n : Nat) : List.Vector UInt8 n := ⟨List.replicate n 0, List.length_replicate⟩

def sampleHeader : SignedCredentialHeader :=
  { v := 2, kid := "provii:issuer", issuerVk := zeroBytes 32, sigRj := zeroBytes 64,
    cBytes := zeroBytes 32, iat := 1, exp := 2, schema := "provii.age/0" }

/-- The JSON text of `sampleHeader`, its byte arrays in base64url. -/
def sampleHeaderJson : String :=
  "\x7b\"v\":2,\"kid\":\"provii:issuer\"," ++
  "\"issuer_vk\":\"AAAAAAAAAAAAAAAAAAAAAAAAAAAAAAAAAAAAAAAAAAA\"," ++
  "\"sig_rj\":\"AAAAAAAAAAAAAAAAAAAAAAAAAAAAAAAAAAAAAAAAAAAAAAAAAAAAAAAAAAAAAAAAAAAAAAAAAAAAAAAAAAAAAA\"," ++
  "\"c_bytes\":\"AAAAAAAAAAAAAAAAAAAAAAAAAAAAAAAAAAAAAAAAAAA\"," ++
  "\"iat\":1,\"exp\":2,\"schema\":\"provii.age/0\"\x7d"

def sampleCredential : CredentialV2 :=
  { v := 2, kid := "provii:issuer", issuerVk := zeroBytes 32, sigRj := zeroBytes 64,
    cBytes := zeroBytes 32, iat := 1, exp := 2, schema := "provii.age/0", dobDays := none,
    rBits := none }

/-- Crates that know one header: it parses, every commitment is the
    header's, and the signature verifies. -/
def sampleCrates : Crates where
  b64 := Base64Url.rfc4648
  parseJson _ := .error "expected value"
  parseCredential _ := .error "expected value"
  parseHeader json := if json = sampleHeaderJson then .ok sampleHeader else .error "expected value"
  parseAnchor _ := .error "expected value"
  anchorJson _ := .error "unsupported"
  credentialJson _ := .error "unsupported"
  postcardError _ := "unexpected end"
  pedersenCommitDobValidated _ _ := .ok (zeroBytes 32)
  pedersenNullifier c := c
  verifyCredV2 _ _ _ := .ok ()

end ProviiSdk.Core
