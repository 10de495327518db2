/-
  ProviiSdk.Ffi.Deeplink — parsing deep links.

  The parser of `deeplink.rs`: a size limit on the link, two schemes, and
  two actions.  A verify link carries challenge JSON in base64url, which
  is read as a struct of its own, validated by limits of its own, and
  handed on as the text it was.

  Main results:
    * `validateVerifyFieldLengths_ok_iff` — what the limits are.
    * `parse_scanChallenge_iff` — which links carry a challenge.
-/

import ProviiSdk.Core.Challenge
import ProviiSdk.Lib.Wire

namespace ProviiSdk.Ffi.Deeplink

open ProviiSdk.Core ProviiSdk.Check ProviiSdk.Text ProviiSdk.Wire

/-! ## §1. The verify payload -/

/-- What a link asks the wallet to do. -/
inductive DeeplinkAction where
  | scanChallenge (payloadJson : String)
  | attest (attestationData : String)
  deriving DecidableEq, Repr

/-- The payload of a verify link. -/
structure VerifyPayload where
  challengeId : String
  rpChallenge : String
  cutoffDays : Int32
  verifyingKeyId : UInt32
  submitSecret : String
  codeVerifier : Option String
  expiresAt : Option UInt64
  verifyUrl : Option String
  proofDirection : Option String
  deriving DecidableEq

/-- Its fields, in declaration order. -/
def verifyPayloadFields : List String :=
  ["challenge_id", "rp_challenge", "cutoff_days", "verifying_key_id", "submit_secret",
    "code_verifier", "expires_at", "verify_url", "proof_direction"]

/-- Read a verify payload; unknown fields are refused. -/
def VerifyPayload.ofDocument (doc : Json) : Option VerifyPayload := do
  let field ← slots verifyPayloadFields true doc
  let challengeId ← (field "challenge_id").required Json.asStr
  let rpChallenge ← (field "rp_challenge").required Json.asStr
  let cutoffDays ← (field "cutoff_days").required Json.asI32
  let verifyingKeyId ← (field "verifying_key_id").required Json.asU32
  let submitSecret ← (field "submit_secret").required Json.asStr
  let codeVerifier ← (field "code_verifier").defaulted Json.asStr
  let expiresAt ← (field "expires_at").defaulted Json.asU64
  let verifyUrl ← (field "verify_url").defaulted Json.asStr
  let proofDirection ← (field "proof_direction").defaulted Json.asStr
  return { challengeId, rpChallenge, cutoffDays, verifyingKeyId, submitSecret, codeVerifier,
           expiresAt, verifyUrl, proofDirection }

/-- The longest text a field of the payload may hold, in bytes. -/
def maxFieldLen : Nat := 512

/-- A text within the limit; it may be empty. -/
def checkMaxLen (name text : String) : Except String Unit :=
  require (text.utf8ByteSize ≤ maxFieldLen) s!"{name} too long (max {maxFieldLen} bytes)"

/-- The same for an optional text. -/
def checkOptionalLen (name : String) : Option String → Except String Unit
  | none => .ok ()
  | some text => checkMaxLen name text

/-- The verify URL, if there is one. -/
def checkOptionalUrl (X : DocumentCrates) : Option String → Except String Unit
  | none => .ok ()
  | some url => do
    checkMaxLen "verify_url" url
    checkVerifyUrl X url

def validateVerifyFieldLengths (X : DocumentCrates) (p : VerifyPayload) : Except String Unit := do
  checkMaxLen "challenge_id" p.challengeId
  checkMaxLen "rp_challenge" p.rpChallenge
  checkMaxLen "submit_secret" p.submitSecret
  checkOptionalLen "code_verifier" p.codeVerifier
  checkOptionalUrl X p.verifyUrl
  -- any direction is let through, as long as it is short
  checkOptionalLen "proof_direction" p.proofDirection

/-! ## §2. Parsing -/

def universalLinkHost : String := "proviiwallet.app"

/-- The size limit on a link, in bytes. -/
def maxDeeplinkSize : Nat := 4096

/-- Rust's `to_lowercase` on the host or the path of a parsed URL, which
    are ASCII. -/
def toLowercase (cs : List Char) : String := String.ofList (cs.map Char.toLower)

/-- The action a link names: the host of the custom scheme, the first
    path segment of a universal link. -/
def linkAction (u : Url) : Except String String :=
  if u.scheme = "proviiwallet".toList then .ok (toLowercase (u.host.getD []))
  else if u.scheme = "https".toList then
    if u.host.getD [] = universalLinkHost.toList then
      .ok (toLowercase (firstField '/' (u.path.dropWhile fun c => c == '/')))
    else .error ("invalid host for HTTPS deep link - expected " ++ universalLinkHost)
  else
    .error ("invalid scheme '" ++ String.ofList u.scheme ++
      "' - expected proviiwallet:// or https://")

/-- The value of a query parameter: the last one of its name. -/
def queryGet (u : Url) (name : String) : Option String :=
  (u.queryPairs.reverse.find? fun q => q.1 == name).map (·.2)

/-- The text a verify link carries. -/
def carriedText (X : DocumentCrates) (u : Url) : Except String String := do
  let d ← okOr (queryGet u "d") "missing d parameter"
  let raw ← (X.b64.decode d.toList).mapError fun e => "bad b64url encoding: " ++ e
  okOr (ofUtf8 raw) ("invalid UTF-8 in payload: " ++ X.utf8Error raw)

/-- A verify link. -/
def parseVerify (X : DocumentCrates) (u : Url) : Except String DeeplinkAction := do
  let payloadJson ← carriedText X u
  require (trim payloadJson ≠ []) "empty payload"
  let parsed ← (X.fromStr "VerifyPayload" VerifyPayload.ofDocument payloadJson).mapError
    fun e => "invalid verify payload: " ++ e
  validateVerifyFieldLengths X parsed
  -- the text goes on as it came
  return .scanChallenge payloadJson

/-- An attest link. -/
def parseAttest (u : Url) : Except String DeeplinkAction := do
  let d ← okOr (queryGet u "d") "missing d parameter"
  require (d ≠ "") "attestation data cannot be empty"
  require (d.toList.all (fun c => c.isAlphanum || c == '-' || c == '_') = true)
    "invalid attestation data format (must be base64url)"
  return .attest d

/-- Parse a deep link. -/
def parse (X : DocumentCrates) (url : String) : Except String DeeplinkAction := do
  require (url.utf8ByteSize ≤ maxDeeplinkSize) s!"deeplink too large (max {maxDeeplinkSize} bytes)"
  let u ← (X.parseUrl url).mapError fun e => "bad url: " ++ e
  let action ← linkAction u
  if action = "verify" then parseVerify X u
  else if action = "attest" then parseAttest u
  else .error ("unsupported deeplink action: " ++ action)

/-! ## §3. What a parsed link carries -/

/-- What a payload within the limits meets. -/
structure WithinLimits (X : DocumentCrates) (p : VerifyPayload) : Prop where
  challengeId : p.challengeId.utf8ByteSize ≤ maxFieldLen
  rpChallenge : p.rpChallenge.utf8ByteSize ≤ maxFieldLen
  submitSecret : p.submitSecret.utf8ByteSize ≤ maxFieldLen
  codeVerifier : ∀ cv ∈ p.codeVerifier, cv.utf8ByteSize ≤ maxFieldLen
  verifyUrl : ∀ url ∈ p.verifyUrl, url.utf8ByteSize ≤ maxFieldLen ∧ HttpsUrl X url
  proofDirection : ∀ dir ∈ p.proofDirection, dir.utf8ByteSize ≤ maxFieldLen

theorem checkMaxLen_ok_iff (name text : String) (u : Unit) :
    checkMaxLen name text = .ok u ↔ text.utf8ByteSize ≤ maxFieldLen := require_eq_ok_iff _ _ u

theorem checkOptionalLen_ok_iff (name : String) (text : Option String) (u : Unit) :
    checkOptionalLen name text = .ok u ↔ ∀ t ∈ text, t.utf8ByteSize ≤ maxFieldLen := by
  cases text with
  | none => simp [checkOptionalLen]
  | some t => simp [checkOptionalLen, checkMaxLen]

theorem checkOptionalUrl_ok_iff (X : DocumentCrates) (url : Option String) (u : Unit) :
    checkOptionalUrl X url = .ok u ↔
      ∀ t ∈ url, t.utf8ByteSize ≤ maxFieldLen ∧ HttpsUrl X t := by
  cases url with
  | none => simp [checkOptionalUrl]
  | some t =>
    unfold checkOptionalUrl
    simp only [bind_eq_ok_iff, checkMaxLen_ok_iff, checkVerifyUrl_ok_iff, exists_const,
      Option.mem_some_iff, forall_eq']

/-- **What the limits are.** -/
theorem validateVerifyFieldLengths_ok_iff (X : DocumentCrates) (p : VerifyPayload) (u : Unit) :
    validateVerifyFieldLengths X p = .ok u ↔ WithinLimits X p := by
  unfold validateVerifyFieldLengths
  simp only [bind_eq_ok_iff, checkMaxLen_ok_iff, checkOptionalLen_ok_iff, checkOptionalUrl_ok_iff,
    exists_const]
  constructor
  · rintro ⟨hid, hrp, hsecret, hcv, hurl, hdir⟩
    exact ⟨hid, hrp, hsecret, hcv, hurl, hdir⟩
  · intro h
    exact ⟨h.challengeId, h.rpChallenge, h.submitSecret, h.codeVerifier, h.verifyUrl,
      h.proofDirection⟩

/-- **Which links carry a challenge**: a link of the right size that
    names the verify action, with a text that reads as a payload within
    the limits. -/
theorem parse_scanChallenge_iff (X : DocumentCrates) (url json : String) :
    parse X url = .ok (.scanChallenge json) ↔
      url.utf8ByteSize ≤ maxDeeplinkSize ∧
        ∃ u, X.parseUrl url = .ok u ∧ linkAction u = .ok "verify" ∧
          carriedText X u = .ok json ∧ trim json ≠ [] ∧
          ∃ p, X.fromStr "VerifyPayload" VerifyPayload.ofDocument json = .ok p ∧
            WithinLimits X p := by
  unfold parse
  simp only [bind_eq_ok_iff, require_eq_ok_iff, mapError_eq_ok_iff, exists_const]
  refine and_congr_right fun _ => exists_congr fun u => and_congr_right fun _ => ?_
  constructor
  · rintro ⟨action, haction, hparse⟩
    split at hparse
    next hverify =>
      unfold parseVerify at hparse
      simp only [bind_eq_ok_iff, require_eq_ok_iff, mapError_eq_ok_iff,
        validateVerifyFieldLengths_ok_iff, exists_const] at hparse
      obtain ⟨text, htext, hne, p, hread, hlimits, hjson⟩ := hparse
      injection hjson with hjson
      injection hjson with hjson
      rw [hjson] at htext hne hread
      rw [hverify] at haction
      exact ⟨haction, htext, hne, p, hread, hlimits⟩
    next =>
      split at hparse
      next =>
        -- an attest link gives no challenge
        unfold parseAttest at hparse
        simp only [bind_eq_ok_iff] at hparse
        obtain ⟨d, -, -, -, -, -, hd⟩ := hparse
        injection hd with hd
        cases hd
      next => cases hparse
  · rintro ⟨haction, htext, hne, p, hread, hlimits⟩
    refine ⟨"verify", haction, ?_⟩
    rw [if_pos rfl]
    unfold parseVerify
    simp only [bind_eq_ok_iff, require_eq_ok_iff, mapError_eq_ok_iff,
      validateVerifyFieldLengths_ok_iff, exists_const]
    exact ⟨json, htext, hne, p, hread, hlimits, rfl⟩

end ProviiSdk.Ffi.Deeplink
