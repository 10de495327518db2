/-
  ProviiSdk.Core.BlindIssuance — the blind issuance flow.

  The wallet's half of an issuance from an attestation: the birth day
  comes from the attestation, the blinding bits are drawn, both go to the
  issuer, and the header that comes back is checked and completed.  The
  completion is written out here a second time, beside the one of
  `finalizeCredential`.

  Main results:
    * `prepareRequest_rBits` — the issuer unpacks the flow's own bits.
    * `finalize_ok_iff` — what the flow accepts and returns.
    * `finalisation_paths_agree` — the two completions accept the same
      headers and return the same credentials.
-/

import ProviiSdk.Core.Commitment
import ProviiSdk.Core.Sample
import ProviiSdk.Lib.Check

namespace ProviiSdk.Core

open ProviiSdk.Check

/-! ## §1. The flow -/

/-- An issuer's attestation of a birth day, without its signature. -/
structure DobAttestation where
  issuerId : String
  timestamp : UInt64
  dobDays : Int32

/-- The external functions on attestations. -/
structure AttestationCrates extends Crates where
  parseAttestation : List UInt8 → Except String DobAttestation
  attestationJson : DobAttestation → Except String (List UInt8)

/-- The flow's state: what was attested, and the private fields. -/
structure BlindIssuanceFlow where
  attestation : DobAttestation
  rBits : List Bool
  dobDays : Int32

/-- Read an attestation and draw the blinding bits. -/
def BlindIssuanceFlow.fromAttestation (X : AttestationCrates)
    (generateCommitmentRandomness : Nat → List Bool) (attestationB64 : String) :
    Except WalletError BlindIssuanceFlow := do
  let attestationBytes ← (X.b64.decode attestationB64.toList).mapError fun e =>
    .invalidInput ("Invalid base64: " ++ e)
  let attestation ← (X.parseAttestation attestationBytes).mapError fun e =>
    .invalidInput ("Invalid attestation JSON: " ++ e)
  return { attestation, rBits := generateCommitmentRandomness rBitsLen,
           dobDays := attestation.dobDays }

/-- The request to the issuer, both fields in base64url. -/
structure BlindIssuanceRequest where
  attestation : List Char
  rBits : List Char

def BlindIssuanceFlow.prepareRequest (X : AttestationCrates) (flow : BlindIssuanceFlow) :
    Except WalletError BlindIssuanceRequest := do
  let attestationJson ← (X.attestationJson flow.attestation).mapError fun e =>
    .serializationError ("Failed to serialize attestation: " ++ e)
  return { attestation := X.b64.encode attestationJson,
           rBits := X.b64.encode (packBits flow.rBits) }

/-- Move the blinding bits out of the flow; what stays is wiped. -/
def BlindIssuanceFlow.takeRBits (flow : BlindIssuanceFlow) : List Bool × BlindIssuanceFlow :=
  (flow.rBits, { flow with rBits := [] })

/-- Check the issuer's header and complete it with the private fields. -/
def BlindIssuanceFlow.finalize (X : Crates) (flow : BlindIssuanceFlow)
    (header : SignedCredentialHeader) : Except WalletError CredentialV2 := do
  require (¬ header.v ≠ 2)
    (.validationFailed s!"unsupported credential version: expected 2, got {header.v.toNat}")
  require (¬ (header.iat = 0 ∨ header.exp = 0))
    (.validationFailed "credential timestamps must not be zero")
  require (¬ header.iat > header.exp)
    (.validationFailed s!"credential iat ({header.iat.toNat}) exceeds exp ({header.exp.toNat})")
  -- the number of the bits is not looked at here
  let expectedC ← (X.pedersenCommitDobValidated flow.dobDays flow.rBits).mapError fun e =>
    .validationFailed ("Commitment validation failed: " ++ e)
  require (expectedC = header.cBytes)
    (.validationFailed
      "Commitment mismatch - server computed different commitment than expected")
  (X.verifyCredV2 header.credMsg header.sigRj header.issuerVk).mapError fun e =>
    .validationFailed ("RedJubjub signature verification failed: " ++ e.display)
  let (rBits, flow) := flow.takeRBits
  return header.credential flow.dobDays rBits

/-! ## §2. What the flow sends and accepts -/

/-- A flow carries the attested birth day and the bits that were drawn. -/
theorem fromAttestation_ok {X : AttestationCrates}
    {generateCommitmentRandomness : Nat → List Bool} {attestationB64 : String}
    {flow : BlindIssuanceFlow}
    (h : BlindIssuanceFlow.fromAttestation X generateCommitmentRandomness attestationB64 =
      .ok flow) :
    flow.dobDays = flow.attestation.dobDays ∧
      flow.rBits = generateCommitmentRandomness rBitsLen := by
  unfold BlindIssuanceFlow.fromAttestation at h
  simp only [bind_eq_ok_iff] at h
  obtain ⟨bytes, -, attestation, -, hflow⟩ := h
  injection hflow with hflow
  rw [← hflow]
  exact ⟨rfl, rfl⟩

/-- **The issuer unpacks the flow's own bits** from the request. -/
theorem prepareRequest_rBits (X : AttestationCrates) (flow : BlindIssuanceFlow)
    (request : BlindIssuanceRequest) (h : flow.prepareRequest X = .ok request) :
    ∃ bytes, X.b64.decode request.rBits = .ok bytes ∧
      unpackBits bytes flow.rBits.length = flow.rBits := by
  unfold BlindIssuanceFlow.prepareRequest at h
  simp only [bind_eq_ok_iff] at h
  obtain ⟨json, -, hrequest⟩ := h
  injection hrequest with hrequest
  rw [← hrequest]
  exact ⟨packBits flow.rBits, X.b64.decode_encode _, unpackBits_packBits _⟩

/-- **What the flow accepts and returns**, whatever the number of its
    bits. -/
theorem finalize_ok_iff (X : Crates) (flow : BlindIssuanceFlow) (header : SignedCredentialHeader)
    (c : CredentialV2) :
    flow.finalize X header = .ok c ↔
      HeaderAccepted X header flow.dobDays flow.rBits ∧
        c = header.credential flow.dobDays flow.rBits := by
  unfold BlindIssuanceFlow.finalize
  simp only [bind_eq_ok_iff, require_eq_ok_iff, mapError_eq_ok_iff, exists_const]
  constructor
  · rintro ⟨hv, hzero, hle, expectedC, hcom, hc, _, hsig, hret⟩
    obtain ⟨hiat, hexp⟩ := not_or.1 hzero
    injection hret with hret
    rw [hc] at hcom
    exact ⟨⟨of_not_not hv, hiat, hexp, UInt64.not_lt.1 hle, hcom, hsig⟩, hret.symm⟩
  · rintro ⟨h, rfl⟩
    exact ⟨not_not.2 h.v, not_or.2 ⟨h.iat, h.exp⟩, UInt64.not_lt.2 h.order, header.cBytes,
      h.commitment, rfl, (), h.signature, rfl⟩

/-! ## §3. The two completions -/

/-- **The two completions agree.**  For a flow that was started from an
    attestation, with as many bits as were asked for, the flow returns a
    credential for a header exactly when `finalizeCredential` returns it
    for the flow's private fields: when the header is accepted, and the
    credential is the header with these fields. -/
theorem finalisation_paths_agree (X : AttestationCrates)
    (generateCommitmentRandomness : Nat → List Bool) (attestationB64 : String)
    (flow : BlindIssuanceFlow)
    (hflow : BlindIssuanceFlow.fromAttestation X generateCommitmentRandomness attestationB64 =
      .ok flow)
    (hbits : (generateCommitmentRandomness rBitsLen).length = 128)
    (header : SignedCredentialHeader) (c : CredentialV2) :
    (flow.finalize X.toCrates header = .ok c ↔
        finalizeCredential X.toCrates header flow.dobDays flow.rBits = .ok c) ∧
      (flow.finalize X.toCrates header = .ok c ↔
        HeaderAccepted X.toCrates header flow.dobDays flow.rBits ∧
          c = header.credential flow.dobDays flow.rBits) := by
  have hlen : flow.rBits.length = rBitsLen := by
    rw [(fromAttestation_ok hflow).2, hbits]
    rfl
  refine ⟨?_, finalize_ok_iff X.toCrates flow header c⟩
  rw [finalize_ok_iff, finalizeCredential_ok_iff X.toCrates header _ _ hlen]

/-- An attestation, and crates that know it. -/
def sampleAttestation : DobAttestation :=
  { issuerId := "registry", timestamp := 1, dobDays := 15000 }

def attestationCrates : AttestationCrates :=
  { sampleCrates with
    parseAttestation := fun bytes =>
      if bytes = [123, 125] then .ok sampleAttestation else .error "expected value"
    attestationJson := fun _ => .ok [123, 125] }

/-- The flow of the sample attestation. -/
def sampleFlow : BlindIssuanceFlow :=
  { attestation := sampleAttestation, rBits := List.replicate 128 true, dobDays := 15000 }

/-- A flow that is started completes the sample header, and so does
    `finalizeCredential`. -/
theorem sample_flow_finalises :
    BlindIssuanceFlow.fromAttestation attestationCrates (fun n => List.replicate n true) "e30" =
        .ok sampleFlow ∧
      sampleFlow.finalize attestationCrates.toCrates sampleHeader =
        .ok (sampleHeader.credential 15000 (List.replicate 128 true)) ∧
      finalizeCredential attestationCrates.toCrates sampleHeader 15000 (List.replicate 128 true) =
        .ok (sampleHeader.credential 15000 (List.replicate 128 true)) := by
  have hflow : BlindIssuanceFlow.fromAttestation attestationCrates
      (fun n => List.replicate n true) "e30" = .ok sampleFlow := rfl
  have hagree := finalisation_paths_agree attestationCrates (fun n => List.replicate n true) "e30"
    sampleFlow hflow List.length_replicate sampleHeader
    (sampleHeader.credential 15000 (List.replicate 128 true))
  have haccepted : HeaderAccepted attestationCrates.toCrates sampleHeader 15000
      (List.replicate 128 true) := ⟨rfl, by decide, by decide, by decide, rfl, rfl⟩
  have hfinal := hagree.2.2 ⟨haccepted, rfl⟩
  exact ⟨hflow, hfinal, hagree.1.1 hfinal⟩

end ProviiSdk.Core
