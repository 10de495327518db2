/-
  ProviiSdk.Core.Challenge — the challenge payload as a document.

  How a verifier's challenge is read from JSON, written to JSON and
  validated.  The core crate and the FFI crate each have a struct of
  these fields, with the same attributes and the same checks, so one
  type stands for both.

  Main results:
    * `ofDocument_toDocument` — a written challenge reads back.
    * `challenge_congr` — members under other names make no difference.
    * `validateFieldLengths_ok_iff` — what a validated challenge meets.
-/

import ProviiSdk.Core.Document
import ProviiSdk.Core.Prover
import ProviiSdk.Lib.Text
import ProviiSdk.Lib.UriSyntax

namespace ProviiSdk.Core

open ProviiSdk.Check ProviiSdk.Text ProviiSdk.UriSyntax

/-! ## §1. External crates -/

/-- A parsed URL: the parts of its serialization, and the decoded pairs of
    its query.  The user information has its at sign behind it, and a port
    is there only if it is not the one of the scheme. -/
structure Url where
  scheme : List Char
  userinfo : List Char
  host : Option (List Char)
  port : Option UInt16
  path : List Char
  query : Option (List Char)
  fragment : Option (List Char)
  queryPairs : List (String × String)
  deriving DecidableEq

/-- What stands before the path, where there is an authority. -/
def Url.front (u : Url) : List Char :=
  u.scheme ++ "://".toList ++ u.userinfo ++ u.host.getD [] ++
    marked ':' (u.port.map fun port => decimal port.toNat)

/-- `Url::as_str`, where there is an authority. -/
def Url.asStr (u : Url) : List Char :=
  u.front ++ u.path ++ marked '?' u.query ++ marked '#' u.fragment

/-- The URL with another path, and nothing behind it. -/
def Url.withPath (u : Url) (path : List Char) : Url :=
  { u with path := path, query := none, fragment := none, queryPairs := [] }

/-- The external functions on documents and URLs. -/
structure DocumentCrates extends Crates where
  -- the document of a JSON text, repeated fields included
  parseDocument : String → Except String Json
  -- `serde_json::to_string`
  writeDocument : Json → Except String String
  -- `Value::to_string`
  valueText : Json → String
  -- what serde says about a text whose document has not the named type's shape
  shapeError : String → String → String
  utf8Error : List UInt8 → String
  parseUrl : String → Except String Url

/-- Serde's `from_str` at a type with a name and a reader. -/
def DocumentCrates.fromStr {α : Type} (X : DocumentCrates) (type : String)
    (read : Json → Option α) (text : String) : Except String α :=
  match X.parseDocument text with
  | .error e => .error e
  | .ok doc =>
    match read doc with
    | some a => .ok a
    | none => .error (X.shapeError type text)

/-- A text reads at a type exactly when its document does. -/
theorem fromStr_ok_iff {α : Type} (X : DocumentCrates) (type : String) (read : Json → Option α)
    (text : String) (a : α) :
    X.fromStr type read text = .ok a ↔ ∃ doc, X.parseDocument text = .ok doc ∧ read doc = some a := by
  unfold DocumentCrates.fromStr
  cases X.parseDocument text with
  | error e =>
    refine iff_of_false (by simp) ?_
    intro ⟨doc, h, _⟩
    cases h
  | ok doc =>
    simp only [Except.ok.injEq, exists_eq_left']
    cases read doc with
    | none => simp
    | some b => simp

/-! ## §2. Reading and writing -/

/-- The fields of a challenge, in declaration order. -/
def qrChallengeFields : List String :=
  ["challenge_id", "rp_challenge", "cutoff_days", "verifying_key_id", "submit_secret",
    "expires_at", "verify_url", "code_verifier", "proof_direction"]

/-- Read a challenge; unknown fields are skipped. -/
def QrChallengePayload.ofDocument (doc : Json) : Option QrChallengePayload := do
  let field ← slots qrChallengeFields false doc
  let challengeId ← (field "challenge_id").required Json.asStr
  let rpChallenge ← (field "rp_challenge").required Json.asStr
  let cutoffDays ← (field "cutoff_days").required Json.asI32
  let verifyingKeyId ← (field "verifying_key_id").required Json.asU32
  let submitSecret ← (field "submit_secret").required Json.asStr
  let expiresAt ← (field "expires_at").required Json.asU64
  let verifyUrl ← (field "verify_url").required Json.asStr
  let codeVerifier ← (field "code_verifier").optional Json.asStr
  let proofDirection ← (field "proof_direction").defaulted Json.asStr
  return { challengeId, rpChallenge, cutoffDays, verifyingKeyId, submitSecret, expiresAt, verifyUrl,
           codeVerifier, proofDirection }

/-- The document of a challenge: an absent code verifier is left out, an
    absent direction is null. -/
def QrChallengePayload.toDocument (p : QrChallengePayload) : Json :=
  .obj
    ([("challenge_id", .str p.challengeId), ("rp_challenge", .str p.rpChallenge),
      ("cutoff_days", .ofI32 p.cutoffDays), ("verifying_key_id", .ofU32 p.verifyingKeyId),
      ("submit_secret", .str p.submitSecret), ("expires_at", .ofU64 p.expiresAt),
      ("verify_url", .str p.verifyUrl)] ++
    (p.codeVerifier.map fun cv => ("code_verifier", Json.str cv)).toList ++
    [("proof_direction", .ofOption .str p.proofDirection)])

/-- **A written challenge reads back.** -/
theorem ofDocument_toDocument (p : QrChallengePayload) :
    QrChallengePayload.ofDocument p.toDocument = some p := by
  obtain ⟨id, rp, cutoff, vk, secret, expires, url, verifier, direction⟩ := p
  have hdirection : nullable Json.asStr (Json.ofOption Json.str direction) = some direction := by
    cases direction <;> rfl
  cases verifier with
  | none =>
    unfold QrChallengePayload.ofDocument QrChallengePayload.toDocument
    rw [slots_obj _ _ rfl]
    simp [Slot.required, Slot.optional, Slot.defaulted, Json.asStr, asI32_ofI32, asU32_ofU32,
      asU64_ofU64, hdirection]
  | some cv =>
    have hverifier : nullable Json.asStr (Json.str cv) = some (some cv) := rfl
    unfold QrChallengePayload.ofDocument QrChallengePayload.toDocument
    rw [slots_obj _ _ rfl]
    simp [Slot.required, Slot.optional, Slot.defaulted, Json.asStr, asI32_ofI32,
      asU32_ofU32, asU64_ofU64, hdirection, hverifier]

/-- **Members under other names make no difference** to a challenge. -/
theorem challenge_congr {fields fields' : List (String × Json)}
    (h : ∀ name ∈ qrChallengeFields, membersOf fields' name = membersOf fields name) :
    QrChallengePayload.ofDocument (.obj fields') = QrChallengePayload.ofDocument (.obj fields) := by
  unfold QrChallengePayload.ofDocument
  rcases slots_congr h with ⟨hnone, hnone'⟩ | ⟨field, field', hslots, hslots', hsame⟩
  · rw [hnone, hnone']
  · have hid := hsame "challenge_id" (by decide)
    have hrp := hsame "rp_challenge" (by decide)
    have hcutoff := hsame "cutoff_days" (by decide)
    have hvk := hsame "verifying_key_id" (by decide)
    have hsecret := hsame "submit_secret" (by decide)
    have hexpires := hsame "expires_at" (by decide)
    have hurl := hsame "verify_url" (by decide)
    have hverifier := hsame "code_verifier" (by decide)
    have hdirection := hsame "proof_direction" (by decide)
    rw [hslots, hslots']
    simp only [Option.bind_eq_bind, Option.bind_some, hid, hrp, hcutoff, hvk, hsecret, hexpires,
      hurl, hverifier, hdirection]

/-! ## §3. Validation -/

/-- The longest text a field of the protocol may hold, in bytes. -/
def maxProtocolFieldLen : Nat := 512

/-- A required text: not empty, and within the limit. -/
def checkFieldLength (name text : String) : Except String Unit :=
  require (text ≠ "" ∧ text.utf8ByteSize ≤ maxProtocolFieldLen)
    s!"{name} must be 1-{maxProtocolFieldLen} characters"

/-- The verify URL parses and is an HTTPS one. -/
def checkVerifyUrl (X : DocumentCrates) (url : String) : Except String Unit :=
  match X.parseUrl url with
  | .error e => .error ("verify_url is not a valid URL: " ++ e)
  | .ok parsed =>
    require (parsed.scheme = "https".toList)
      ("verify_url must use HTTPS scheme, got '" ++ String.ofList parsed.scheme ++ "'")

/-- The code verifier, if there is one, is within the limit. -/
def checkCodeVerifier : Option String → Except String Unit
  | none => .ok ()
  | some cv =>
    require (cv.utf8ByteSize ≤ maxProtocolFieldLen)
      s!"code_verifier must be at most {maxProtocolFieldLen} characters"

/-- The direction, if there is one, is one of the two. -/
def checkProofDirection : Option String → Except String Unit
  | none => .ok ()
  | some dir =>
    require (dir = "over_age" ∨ dir = "under_age")
      ("invalid proof_direction '" ++ dir ++ "', expected 'over_age' or 'under_age'")

/-- The core crate's `validate_field_lengths`. -/
def QrChallengePayload.validateFieldLengths (X : DocumentCrates) (p : QrChallengePayload) :
    Except String Unit := do
  checkFieldLength "challenge_id" p.challengeId
  checkFieldLength "rp_challenge" p.rpChallenge
  checkFieldLength "submit_secret" p.submitSecret
  checkFieldLength "verify_url" p.verifyUrl
  checkVerifyUrl X p.verifyUrl
  checkCodeVerifier p.codeVerifier
  checkProofDirection p.proofDirection

/-- A text is a required field's. -/
def FitsField (text : String) : Prop := text ≠ "" ∧ text.utf8ByteSize ≤ maxProtocolFieldLen

/-- A URL is an HTTPS one. -/
def HttpsUrl (X : DocumentCrates) (url : String) : Prop :=
  ∃ parsed, X.parseUrl url = .ok parsed ∧ parsed.scheme = "https".toList

/-- What a validated challenge meets. -/
structure ValidFields (X : DocumentCrates) (p : QrChallengePayload) : Prop where
  challengeId : FitsField p.challengeId
  rpChallenge : FitsField p.rpChallenge
  submitSecret : FitsField p.submitSecret
  verifyUrl : FitsField p.verifyUrl
  https : HttpsUrl X p.verifyUrl
  codeVerifier : ∀ cv ∈ p.codeVerifier, cv.utf8ByteSize ≤ maxProtocolFieldLen
  direction : ∀ dir ∈ p.proofDirection, dir = "over_age" ∨ dir = "under_age"

theorem checkFieldLength_ok_iff (name text : String) (u : Unit) :
    checkFieldLength name text = .ok u ↔ FitsField text := require_eq_ok_iff _ _ u

theorem checkVerifyUrl_ok_iff (X : DocumentCrates) (url : String) (u : Unit) :
    checkVerifyUrl X url = .ok u ↔ HttpsUrl X url := by
  unfold checkVerifyUrl HttpsUrl
  cases X.parseUrl url with
  | error e => simp
  | ok parsed => simp

theorem checkCodeVerifier_ok_iff (cv : Option String) (u : Unit) :
    checkCodeVerifier cv = .ok u ↔ ∀ c ∈ cv, c.utf8ByteSize ≤ maxProtocolFieldLen := by
  cases cv with
  | none => simp [checkCodeVerifier]
  | some c => simp [checkCodeVerifier]

theorem checkProofDirection_ok_iff (dir : Option String) (u : Unit) :
    checkProofDirection dir = .ok u ↔ ∀ d ∈ dir, d = "over_age" ∨ d = "under_age" := by
  cases dir with
  | none => simp [checkProofDirection]
  | some d => simp [checkProofDirection]

/-- **What a validated challenge meets.** -/
theorem validateFieldLengths_ok_iff (X : DocumentCrates) (p : QrChallengePayload) :
    p.validateFieldLengths X = .ok () ↔ ValidFields X p := by
  unfold QrChallengePayload.validateFieldLengths
  simp only [bind_eq_ok_iff, checkFieldLength_ok_iff, checkVerifyUrl_ok_iff,
    checkCodeVerifier_ok_iff, checkProofDirection_ok_iff, exists_const]
  constructor
  · rintro ⟨hid, hrp, hsecret, hurl, hhttps, hcv, hdir⟩
    exact ⟨hid, hrp, hsecret, hurl, hhttps, hcv, hdir⟩
  · rintro ⟨hid, hrp, hsecret, hurl, hhttps, hcv, hdir⟩
    exact ⟨hid, hrp, hsecret, hurl, hhttps, hcv, hdir⟩

end ProviiSdk.Core
