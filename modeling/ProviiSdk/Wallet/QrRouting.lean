/-
  ProviiSdk.Wallet.QrRouting — what becomes of a scanned code.

  A code that decodes goes through four hands: it is written as JSON of
  one of two shapes, read back as a challenge, written again, and then
  looked at for its kind.  Only the first and the last hand know that
  there are attestations.

  Main results:
    * `processScannedQr_challenge` — a challenge comes through.
    * `processScannedQr_attestation` — an attestation does not read back
      as a challenge, and the call ends there.
    * `routed_iff` — which decoded codes reach their destination.
-/

import ProviiSdk.Wallet.Sample

namespace ProviiSdk.Wallet

open ProviiSdk.Core ProviiSdk.Ffi ProviiSdk.Check

/-! ## §1. The property -/

/-- Where a decoded code should go: an attestation to the host as its
    data, a challenge as JSON that reads as the same challenge. -/
def Routed (X : DocumentCrates) (net : Network) (config : WalletConfig) (qrContent : String) :
    QrPayload → Prop
  | .attestation data => processScannedQr X net config qrContent = .ok (.attestation data)
  | .verificationChallenge data =>
    ∃ json, processScannedQr X net config qrContent = .ok (.verificationChallenge json) ∧
      X.fromStr "QrChallengePayload" QrChallengePayload.ofDocument json = .ok data

/-- The JSON a payload is written as reads as the document that was
    written: what `serde_json` promises of its own output. -/
def WrittenReads (X : DocumentCrates) : QrPayload → Prop
  | .attestation data =>
    X.parseDocument (X.valueText (attestationDocument data)) = .ok (attestationDocument data)
  | .verificationChallenge data =>
    ∃ json, X.writeDocument data.toDocument = .ok json ∧ X.parseDocument json = .ok data.toDocument

/-- Is the payload a challenge? -/
def isChallenge : QrPayload → Bool
  | .attestation _ => false
  | .verificationChallenge _ => true

/-! ## §2. The two shapes -/

/-- A challenge's document has no type and names its challenge. -/
theorem actionOf_challenge (json : String) (data : QrChallengePayload) :
    actionOf json data.toDocument = .ok (.verificationChallenge json) := by
  have htype : data.toDocument.valueGet "type" = none := by
    unfold QrChallengePayload.toDocument
    cases data.codeVerifier <;> rfl
  have hid : data.toDocument.valueGet "challenge_id" = some (.str data.challengeId) := by
    unfold QrChallengePayload.toDocument
    cases data.codeVerifier <;> rfl
  unfold actionOf
  rw [htype, hid]
  rfl

/-- An attestation's document is no challenge: it names none. -/
theorem ofDocument_attestation (data : String) :
    QrChallengePayload.ofDocument (attestationDocument data) = none := rfl

/-- **A challenge comes through**: it is written, read back, written
    again and recognised. -/
theorem processScannedQr_challenge {X : DocumentCrates} {qrContent json : String}
    {data : QrChallengePayload} (net : Network) (config : WalletConfig)
    (hdecode : decodePayload X qrContent = .ok (.verificationChallenge data))
    (hwrite : X.writeDocument data.toDocument = .ok json)
    (hread : X.parseDocument json = .ok data.toDocument) :
    processScannedQr X net config qrContent = .ok (.verificationChallenge json) ∧
      X.fromStr "QrChallengePayload" QrChallengePayload.ofDocument json = .ok data := by
  refine ⟨?_, fromStr_toDocument hread⟩
  unfold processScannedQr
  rw [parseQrPayloadInternal_challenge net config hdecode hwrite hread, ok_bind, hwrite,
    mapError_ok, ok_bind, hread, mapError_ok, ok_bind]
  exact actionOf_challenge json data

/-- **An attestation does not come through**: its JSON is read as a
    challenge, and has no challenge id. -/
theorem processScannedQr_attestation {X : DocumentCrates} {qrContent data : String} (net : Network)
    (config : WalletConfig) (hdecode : decodePayload X qrContent = .ok (.attestation data))
    (hread : X.parseDocument (X.valueText (attestationDocument data)) =
      .ok (attestationDocument data)) :
    processScannedQr X net config qrContent =
      .error (.invalidFormat
        (X.shapeError "QrChallengePayload" (X.valueText (attestationDocument data)))) := by
  have hback : X.fromStr "QrChallengePayload" QrChallengePayload.ofDocument
      (X.valueText (attestationDocument data)) =
        .error (X.shapeError "QrChallengePayload" (X.valueText (attestationDocument data))) := by
    unfold DocumentCrates.fromStr
    rw [hread]
    simp only [ofDocument_attestation]
  unfold processScannedQr
  rw [parseQrPayloadInternal_of_decode net config hdecode rfl, hback, mapError_error, error_bind]

/-! ## §3. Routing -/

/-- **A decoded code reaches its destination exactly when it is a
    challenge**, on any network and under any configuration. -/
theorem routed_iff (X : DocumentCrates) (net : Network) (config : WalletConfig) (qrContent : String)
    (payload : QrPayload) (hdecode : decodePayload X qrContent = .ok payload)
    (hjson : WrittenReads X payload) :
    Routed X net config qrContent payload ↔ isChallenge payload = true := by
  cases payload with
  | verificationChallenge data =>
    obtain ⟨json, hwrite, hread⟩ := hjson
    exact iff_of_true ⟨json, processScannedQr_challenge net config hdecode hwrite hread⟩ rfl
  | attestation data =>
    refine iff_of_false (fun hrouted => ?_) Bool.false_ne_true
    have hok : processScannedQr X net config qrContent = .ok (.attestation data) := hrouted
    rw [processScannedQr_attestation net config hdecode hjson] at hok
    cases hok

/-- A challenge, scanned as bare JSON. -/
theorem routed_briefChallenge :
    decodePayload briefCrates.toDocumentCrates (flatText briefChallenge.toDocument) =
        .ok (.verificationChallenge briefChallenge) ∧
      WrittenReads briefCrates.toDocumentCrates (.verificationChallenge briefChallenge) ∧
      (Routed briefCrates.toDocumentCrates challengeNetwork sampleConfig
          (flatText briefChallenge.toDocument) (.verificationChallenge briefChallenge) ↔
        isChallenge (.verificationChallenge briefChallenge) = true) := by
  have hjson : WrittenReads briefCrates.toDocumentCrates (.verificationChallenge briefChallenge) :=
    ⟨flatText briefChallenge.toDocument, rfl, briefCrates_parseDocument⟩
  exact ⟨decodePayload_briefChallenge, hjson,
    routed_iff _ challengeNetwork sampleConfig _ _ decodePayload_briefChallenge hjson⟩

/-- An attestation code, and crates that know it and its JSON. -/
def attestationCode : Json := .obj [("type", .str "attestation/v1"), ("data", .str "AQID")]

def attestationCrates : WalletCrates Unit :=
  sampleWallet [attestationCode, attestationDocument "AQID"] []

/-- A scanned attestation decodes, and the call fails on it. -/
theorem attestation_not_routed :
    decodePayload attestationCrates.toDocumentCrates (flatText attestationCode) =
        .ok (.attestation "AQID") ∧
      processScannedQr attestationCrates.toDocumentCrates challengeNetwork sampleConfig
        (flatText attestationCode) = .error (.invalidFormat "missing field") ∧
      ¬ Routed attestationCrates.toDocumentCrates challengeNetwork sampleConfig
        (flatText attestationCode) (.attestation "AQID") := by
  have hfails : processScannedQr attestationCrates.toDocumentCrates challengeNetwork sampleConfig
      (flatText attestationCode) = .error (.invalidFormat "missing field") := by decide +kernel
  refine ⟨by decide +kernel, hfails, fun hrouted => ?_⟩
  have hok : processScannedQr attestationCrates.toDocumentCrates challengeNetwork sampleConfig
    (flatText attestationCode) = .ok (.attestation "AQID") := hrouted
  rw [hfails] at hok
  cases hok

end ProviiSdk.Wallet
