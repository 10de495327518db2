/-
  ProviiSdk.Core.Issuance — finalising a credential and trusting its issuer.

  The issuance functions of the core crate: unpacking the blinding bits,
  assembling a credential from the signed header and the private fields,
  reading issuer keys out of a JWKS document, and checking a header's
  issuer key against the trust anchor.

  Main results:
    * `finalizeCredential_ok`, `finalizeCredential_ok_iff` — what a
      finalisation accepts and returns.
    * `validateIssuerVk_ok_iff` — the check passes exactly for the keys
      of the anchor.
-/

import ProviiSdk.Core.Types

namespace ProviiSdk.Core

/-! ## §1. Blinding bits -/

/-- The number of blinding bits of a commitment. -/
def rBitsLen : Nat := 128

/-- Bit `i` of a byte, most significant first. -/
def msbBit (byte : UInt8) (i : Nat) : Bool := byte &&& ((1 : UInt8) <<< UInt8.ofNat (7 - i)) != 0

/-- The nested loops of `unpack_bits`, for a number of bits that a vector
    can hold: a bit is pushed as long as there is room for it. -/
def unpackBits (bytes : List UInt8) (bitCount : Nat) : List Bool :=
  let pushByte (bits : List Bool) (byte : UInt8) : List Bool :=
    (List.range 8).foldl
      (fun bits i => if bits.length ≥ bitCount then bits else bits ++ [msbBit byte i]) bits
  (bytes.foldl pushByte []).take bitCount

/-- `unpack_bits` as it is called.  The bits are reserved before the loops
    run, and `Vec::with_capacity` panics above `isize::MAX` bytes. -/
def unpackBits? (isizeMax : Nat) (bytes : List UInt8) (bitCount : Nat) : Option (List Bool) :=
  if bitCount ≤ isizeMax then some (unpackBits bytes bitCount) else none

theorem unpackBits?_of_le {isizeMax bitCount : Nat} (h : bitCount ≤ isizeMax)
    (bytes : List UInt8) : unpackBits? isizeMax bytes bitCount = some (unpackBits bytes bitCount) :=
  if_pos h

/-! ## §2. Finalisation -/

/-- The message a header's signature is over. -/
def SignedCredentialHeader.credMsg (header : SignedCredentialHeader) : CredMsgV2 :=
  { v := header.v, kid := header.kid, c := header.cBytes, iat := header.iat, exp := header.exp,
    schema := header.schema }

/-- The credential a header and its private fields make up. -/
def SignedCredentialHeader.credential (header : SignedCredentialHeader) (dobDays : Int32)
    (rBits : List Bool) : CredentialV2 :=
  { v := header.v, kid := header.kid, issuerVk := header.issuerVk, sigRj := header.sigRj,
    cBytes := header.cBytes, iat := header.iat, exp := header.exp, schema := header.schema,
    dobDays := some dobDays, rBits := some rBits }

/-- Check a signed header against the private fields and assemble the
    credential. -/
def finalizeCredential (X : Crates) (header : SignedCredentialHeader) (dobDays : Int32)
    (rBits : List Bool) : Except WalletError CredentialV2 :=
  if header.v ≠ 2 then
    .error (.validationFailed
      s!"unsupported credential version: expected 2, got {header.v.toNat}")
  else if header.iat = 0 ∨ header.exp = 0 then
    .error (.validationFailed "credential timestamps must not be zero")
  else if header.iat > header.exp then
    .error (.validationFailed
      s!"credential iat ({header.iat.toNat}) exceeds exp ({header.exp.toNat})")
  else if rBits.length ≠ rBitsLen then
    .error (.invalidInput s!"r_bits must be {rBitsLen} bits, got {rBits.length}")
  else
    match X.pedersenCommitDobValidated dobDays rBits with
    | .error e => .error (.validationFailed ("Commitment validation failed: " ++ e))
    | .ok expectedC =>
      if expectedC ≠ header.cBytes then
        .error (.validationFailed
          "Commitment mismatch - private fields don't match signed commitment")
      else
        match X.verifyCredV2 header.credMsg header.sigRj header.issuerVk with
        | .error e =>
          .error (.validationFailed ("RedJubjub signature verification failed: " ++ e.display))
        | .ok () => .ok (header.credential dobDays rBits)

/-- A finalised credential is the header with its private fields, and
    every check held. -/
theorem finalizeCredential_ok (X : Crates) (header : SignedCredentialHeader) (dobDays : Int32)
    (rBits : List Bool) (c : CredentialV2) (h : finalizeCredential X header dobDays rBits = .ok c) :
    header.v = 2 ∧ header.iat ≠ 0 ∧ header.exp ≠ 0 ∧ header.iat ≤ header.exp ∧
      rBits.length = rBitsLen ∧ X.pedersenCommitDobValidated dobDays rBits = .ok header.cBytes ∧
      X.verifyCredV2 header.credMsg header.sigRj header.issuerVk = .ok () ∧
      c = header.credential dobDays rBits := by
  unfold finalizeCredential at h
  split at h
  · cases h
  next hv =>
    split at h
    · cases h
    next hz =>
      split at h
      · cases h
      next hle =>
        split at h
        · cases h
        next hlen =>
          cases hcom : X.pedersenCommitDobValidated dobDays rBits with
          | error e => rw [hcom] at h; cases h
          | ok expectedC =>
            rw [hcom] at h
            simp only at h
            split at h
            · cases h
            next hc =>
              cases hsig : X.verifyCredV2 header.credMsg header.sigRj header.issuerVk with
              | error e => rw [hsig] at h; cases h
              | ok u =>
                rw [hsig] at h
                injection h with h
                obtain ⟨hiat, hexp⟩ := not_or.1 hz
                have hcom' : (.ok expectedC : Except String Bytes32) = .ok header.cBytes := by
                  rw [of_not_not hc]
                exact ⟨of_not_not hv, hiat, hexp, UInt64.not_lt.1 hle, of_not_not hlen, hcom',
                  rfl, h.symm⟩

/-- What a header meets that is finalised with private fields. -/
structure HeaderAccepted (X : Crates) (header : SignedCredentialHeader) (dobDays : Int32)
    (rBits : List Bool) : Prop where
  v : header.v = 2
  iat : header.iat ≠ 0
  exp : header.exp ≠ 0
  order : header.iat ≤ header.exp
  commitment : X.pedersenCommitDobValidated dobDays rBits = .ok header.cBytes
  signature : X.verifyCredV2 header.credMsg header.sigRj header.issuerVk = .ok ()

/-- **What finalisation accepts and returns**, with blinding bits of the
    right length. -/
theorem finalizeCredential_ok_iff (X : Crates) (header : SignedCredentialHeader) (dobDays : Int32)
    (rBits : List Bool) (hlen : rBits.length = rBitsLen) (c : CredentialV2) :
    finalizeCredential X header dobDays rBits = .ok c ↔
      HeaderAccepted X header dobDays rBits ∧ c = header.credential dobDays rBits := by
  constructor
  · intro h
    obtain ⟨hv, hiat, hexp, hle, -, hcom, hsig, hc⟩ :=
      finalizeCredential_ok X header dobDays rBits c h
    exact ⟨⟨hv, hiat, hexp, hle, hcom, hsig⟩, hc⟩
  · rintro ⟨h, rfl⟩
    unfold finalizeCredential
    rw [if_neg (not_not.2 h.v), if_neg (not_or.2 ⟨h.iat, h.exp⟩), if_neg (UInt64.not_lt.2 h.order),
      if_neg (not_not.2 hlen), h.commitment]
    simp only
    rw [if_neg (not_not.2 rfl), h.signature]

/-! ## §3. Issuer keys -/

/-- One round of the JWKS loop: the issuer key of an OKP/JUBJUB entry
    whose `x` decodes to 32 bytes; any other entry is skipped. -/
def jwkKey (X : Crates) (entry : Json) : Option TrustedIssuerKey :=
  let kty := ((entry.get "kty").bind Json.asStr).getD ""
  let crv := ((entry.get "crv").bind Json.asStr).getD ""
  if kty ≠ "OKP" ∨ crv ≠ "JUBJUB" then none
  else
    match (entry.get "kid").bind Json.asStr with
    | none => none
    | some kid =>
      match (entry.get "x").bind Json.asStr with
      | none => none
      | some x =>
        match X.b64.decode x.toList with
        | .error _ => none
        | .ok bytes => if h : bytes.length = 32 then some ⟨kid, ⟨bytes, h⟩⟩ else none

/-- The issuer keys of a JWKS document. -/
def parseJwksIntoKeys (X : Crates) (jwksJson : String) :
    Except WalletError (List TrustedIssuerKey) :=
  match X.parseJson jwksJson with
  | .error e => .error (.serializationError ("invalid JWKS JSON: " ++ e))
  | .ok jwks =>
    match (jwks.get "keys").bind Json.asArray with
    | none => .error (.serializationError "JWKS missing 'keys' array")
    | some entries => .ok (entries.filterMap (jwkKey X))

/-- Is the header's issuer key one of the anchor's? -/
def validateIssuerVk (header : SignedCredentialHeader) (anchor : IssuerTrustAnchor) :
    Except WalletError Unit :=
  if anchor.keys = [] then .error (.securityError "issuer trust anchor contains no keys")
  else if anchor.keys.any (fun k => header.issuerVk == k.vk) then .ok ()
  else .error (.securityError "issuer verification key not in trust anchor")

/-- **The issuer check passes exactly for the anchor's keys.** -/
theorem validateIssuerVk_ok_iff (header : SignedCredentialHeader) (anchor : IssuerTrustAnchor) :
    validateIssuerVk header anchor = .ok () ↔ ∃ k ∈ anchor.keys, header.issuerVk = k.vk := by
  unfold validateIssuerVk
  by_cases hnil : anchor.keys = []
  · simp [hnil]
  · rw [if_neg hnil]
    by_cases hany : anchor.keys.any (fun k => header.issuerVk == k.vk) = true
    · rw [if_pos hany]
      rw [List.any_eq_true] at hany
      obtain ⟨k, hk, hvk⟩ := hany
      exact ⟨fun _ => ⟨k, hk, by simpa using hvk⟩, fun _ => rfl⟩
    · rw [if_neg hany]
      constructor
      · intro h
        cases h
      · rintro ⟨k, hk, hvk⟩
        exact absurd (List.any_eq_true.2 ⟨k, hk, by simpa using hvk⟩) hany

end ProviiSdk.Core
