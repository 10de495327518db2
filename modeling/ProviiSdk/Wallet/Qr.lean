/-
  ProviiSdk.Wallet.Qr — QR codes and short codes at the wallet.

  The methods of the wallet that turn a scanned text or a typed code into
  a challenge.  A minimal challenge and a short code are looked up at the
  verifier; what the network answers is an argument of the call.

  Main results:
    * `readChallenge_ok_iff` — when a fetched challenge is accepted.
    * `parseQrPayloadInternal_of_decode`, `parseQrPayloadInternal_challenge`
      — a text that decodes is read back from the JSON it is written as.
    * `parseQrPayloadInternal_of_minimal` — a minimal one is fetched.
-/

import ProviiSdk.Ffi.BaseUrl
import ProviiSdk.Ffi.Qr

namespace ProviiSdk.Wallet

open ProviiSdk.Core ProviiSdk.Ffi ProviiSdk.Check ProviiSdk.Text
open ProviiSdk.Ffi.BaseUrl (parseUrlForH3 parseUrlForH3_ok_iff)

/-! ## §1. Configuration and network -/

/-- The runtime settings the methods read. -/
structure WalletConfig where
  verifierApiUrl : String
  environment : String

/-- The network during one call: the async runtime, and the answer to
    every GET with a timeout in seconds and every POST of a body, whether
    it comes from a server or from the check of the URL. -/
structure Network where
  tokioRt : Except FfiError Unit
  getWithTimeout : String → UInt64 → Except FfiError String
  postJson : String → String → Except FfiError String

/-- A GET on the runtime. -/
def Network.fetch (net : Network) (url : String) : Except FfiError String := do
  net.tokioRt
  net.getWithTimeout url 10

/-- What is there behind the check of a URL: the answer of a host, at a
    port, to a GET of a path with a timeout and to a POST of a body. -/
structure Transport where
  get : List Char → UInt16 → List Char → UInt64 → Except FfiError String
  post : List Char → UInt16 → List Char → String → Except FfiError String

/-- The parser of URLs, on characters. -/
def parseChars (X : DocumentCrates) (url : List Char) : Except String Url :=
  X.parseUrl (String.ofList url)

/-- **The network over a transport**, with the runtime up: every URL is
    taken apart before anybody is asked. -/
def Transport.network (X : DocumentCrates) (transport : Transport) : Network where
  tokioRt := .ok ()
  getWithTimeout url seconds := do
    let (host, port, path) ← parseUrlForH3 (parseChars X) url.toList
    transport.get host port path seconds
  postJson url body := do
    let (host, port, path) ← parseUrlForH3 (parseChars X) url.toList
    transport.post host port path body

/-- A URL that the transport is asked for: an HTTPS one with a host. -/
def Dialled (X : DocumentCrates) (url : String) : Prop :=
  ∃ parsed, X.parseUrl url = .ok parsed ∧ parsed.scheme = "https".toList ∧
    ∃ host, parsed.host = some host ∧ host ≠ []

/-- **Which URLs the transport is asked for**: any other is refused. -/
theorem parseUrlForH3_isOk_iff (X : DocumentCrates) (url : String) :
    (∃ r, parseUrlForH3 (parseChars X) url.toList = .ok r) ↔ Dialled X url := by
  simp only [parseUrlForH3_ok_iff, parseChars, String.ofList_toList]
  constructor
  · rintro ⟨r, parsed, hparsed, hscheme, host, hhost, hne, -⟩
    exact ⟨parsed, hparsed, hscheme, host, hhost, hne⟩
  · rintro ⟨parsed, hparsed, hscheme, host, hhost, hne⟩
    exact ⟨_, parsed, hparsed, hscheme, host, hhost, hne, rfl⟩

/-- Read the challenge a verifier answers with, and validate it. -/
def readChallenge (X : DocumentCrates) (context json : String) :
    Except FfiError QrChallengePayload := do
  let challenge ← (X.fromStr "QrChallengePayload" QrChallengePayload.ofDocument json).mapError
    fun e => .invalidFormat (context ++ e)
  (challenge.validateFieldLengths X).mapError .invalidFormat
  return challenge

/-- **When a fetched challenge is accepted.** -/
theorem readChallenge_ok_iff (X : DocumentCrates) (context json : String)
    (challenge : QrChallengePayload) :
    readChallenge X context json = .ok challenge ↔
      X.fromStr "QrChallengePayload" QrChallengePayload.ofDocument json = .ok challenge ∧
        ValidFields X challenge := by
  unfold readChallenge
  simp only [bind_eq_ok_iff, mapError_eq_ok_iff]
  constructor
  · rintro ⟨p, hread, u, hvalid, hp⟩
    injection hp with hp
    rw [hp] at hread hvalid
    exact ⟨hread, (Core.validateFieldLengths_ok_iff X challenge).1 hvalid⟩
  · rintro ⟨hread, hvalid⟩
    exact ⟨challenge, hread, (), (Core.validateFieldLengths_ok_iff X challenge).2 hvalid, rfl⟩

/-! ## §2. Scanned texts -/

/-- Fetch the challenge a minimal QR code names. -/
def fetchMinimalChallenge (X : DocumentCrates) (net : Network) (config : WalletConfig)
    (qrContent : String) : Except FfiError QrChallengePayload := do
  let challengeId ← extractChallengeIdFromQr X qrContent
  validateChallengeIdFormat challengeId
  let json ← net.fetch (config.verifierApiUrl ++ "/v1/challenge/" ++ challengeId ++ "/details")
  readChallenge X "" json

/-- Parse a QR code; any error whose text has the sentinel in it stands
    for a minimal challenge. -/
def parseQrPayloadInternal (X : DocumentCrates) (net : Network) (config : WalletConfig)
    (qrContent : String) : Except FfiError QrChallengePayload :=
  match parseQrCode X qrContent with
  | .ok parsed =>
    (X.fromStr "QrChallengePayload" QrChallengePayload.ofDocument parsed).mapError .invalidFormat
  | .error e =>
    if contains "MINIMAL_CHALLENGE" e.display = true then
      fetchMinimalChallenge X net config qrContent
    else .error e

/-- A text that decodes is read back from the JSON it is written as. -/
theorem parseQrPayloadInternal_of_decode {X : DocumentCrates} {qrContent : String}
    {payload : QrPayload} {parsed : String} (net : Network) (config : WalletConfig)
    (hdecode : decodePayload X qrContent = .ok payload) (htext : payloadText X payload = .ok parsed) :
    parseQrPayloadInternal X net config qrContent =
      (X.fromStr "QrChallengePayload" QrChallengePayload.ofDocument parsed).mapError
        .invalidFormat := by
  unfold parseQrPayloadInternal
  rw [parseQrCode_of_decode hdecode, htext]

/-- A text that is minimal is fetched. -/
theorem parseQrPayloadInternal_of_minimal {X : DocumentCrates} {qrContent : String} (net : Network)
    (config : WalletConfig) (hdecode : decodePayload X qrContent = .error minimalChallenge) :
    parseQrPayloadInternal X net config qrContent =
      fetchMinimalChallenge X net config qrContent := by
  have hsentinel : contains "MINIMAL_CHALLENGE" minimalChallenge.display = true := by decide
  unfold parseQrPayloadInternal parseQrCode
  rw [hdecode, error_bind]
  simp only
  rw [if_pos hsentinel]

/-- A challenge's JSON reads as the challenge, if it reads as the
    document that was written. -/
theorem fromStr_toDocument {X : DocumentCrates} {json : String} {data : QrChallengePayload}
    (hread : X.parseDocument json = .ok data.toDocument) :
    X.fromStr "QrChallengePayload" QrChallengePayload.ofDocument json = .ok data := by
  rw [fromStr_ok_iff]
  exact ⟨_, hread, ofDocument_toDocument data⟩

/-- **A decoded challenge is read back**: the wallet has it written as
    JSON, and reads the same challenge from that. -/
theorem parseQrPayloadInternal_challenge {X : DocumentCrates} {qrContent json : String}
    {data : QrChallengePayload} (net : Network) (config : WalletConfig)
    (hdecode : decodePayload X qrContent = .ok (.verificationChallenge data))
    (hwrite : X.writeDocument data.toDocument = .ok json)
    (hread : X.parseDocument json = .ok data.toDocument) :
    parseQrPayloadInternal X net config qrContent = .ok data := by
  have htext : payloadText X (.verificationChallenge data) = .ok json := by
    show (X.writeDocument data.toDocument).mapError FfiError.generic = .ok json
    rw [hwrite]
    rfl
  rw [parseQrPayloadInternal_of_decode net config hdecode htext, fromStr_toDocument hread,
    mapError_ok]

/-- Validate a QR code at a time in seconds. -/
def validateQr (X : DocumentCrates) (isAlphanumeric : Char → Bool) (net : Network)
    (config : WalletConfig) (timestamp : Int) (qrContent : String) : Except FfiError Bool := do
  let payload ← parseQrPayloadInternal X net config qrContent
  let payloadJson ← (X.writeDocument payload.toDocument).mapError .invalidFormat
  validateQrPayload X isAlphanumeric timestamp payloadJson

/-- What a scanned code asks the host to do. -/
inductive QrAction where
  | verificationChallenge (challengeJson : String)
  | attestation (attestationData : String)
  deriving DecidableEq, Repr

/-- The action for a parsed document. -/
def actionOf (parsed : String) (data : Json) : Except FfiError QrAction :=
  match data.valueGet "type" with
  | some (.str "attestation") =>
    match (data.valueGet "data").bind Json.asStr with
    | some attestData => .ok (.attestation attestData)
    | none => .error (.invalidFormat "Missing attestation data")
  | _ =>
    if (data.valueGet "challenge_id").isSome then .ok (.verificationChallenge parsed)
    else .error (.invalidFormat "Unknown QR code type")

/-- Classify a scanned QR code. -/
def processScannedQr (X : DocumentCrates) (net : Network) (config : WalletConfig)
    (qrContent : String) : Except FfiError QrAction := do
  let payload ← parseQrPayloadInternal X net config qrContent
  let parsed ← (X.writeDocument payload.toDocument).mapError .invalidFormat
  let data ← (X.parseDocument parsed).mapError .invalidFormat
  actionOf parsed data

/-! ## §3. Short codes -/

def isShortCode (input : String) : Bool :=
  let normalized := withoutWhitespace input
  normalized.utf8ByteSize == 12 && normalized.toList.all Char.isDigit

/-- Rust's `trim_end_matches('/')`. -/
def trimEndSlashes (url : String) : String :=
  String.ofList (url.toList.reverse.dropWhile fun c => c == '/').reverse

def fetchChallengeByShortCode (net : Network) (config : WalletConfig) (shortCode : String) :
    Except FfiError String := do
  let normalized := withoutWhitespace shortCode
  require (isShortCode normalized = true)
    (.invalidFormat "Invalid short code format (must be 12 digits)")
  net.fetch (trimEndSlashes config.verifierApiUrl ++ "/v1/challenge/by-code/" ++ normalized)

/-- The challenge a typed code stands for. -/
def manualChallenge (X : DocumentCrates) (net : Network) (config : WalletConfig) (input : String) :
    Except FfiError QrChallengePayload := do
  let normalized := withoutWhitespace input
  require (isShortCode normalized = true)
    (.invalidFormat "Invalid short code format. Expected 12 digits.")
  let json ← fetchChallengeByShortCode net config normalized
  readChallenge X "Failed to parse challenge response: " json

end ProviiSdk.Wallet
