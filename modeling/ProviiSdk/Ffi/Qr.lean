/-
  ProviiSdk.Ffi.Qr — reading a QR code.

  The decoder of `qr.rs`: a size limit, the two deep link prefixes with
  a base64url body, bare challenge JSON, and the tagged envelope.  A
  content that names none of three challenge fields is answered with a
  sentinel error, on which the wallet fetches the challenge.

  Main results:
    * `challengeOfText_ok_iff` — when challenge JSON is accepted.
    * `decodePayload_challenge_iff` — when a content is decoded to a
      challenge.
    * `decodePayload_bare` — bare challenge JSON is decoded.
    * `validateQrPayload_challenge` — until when a challenge's JSON is
      valid.
-/

import ProviiSdk.Core.Challenge
import ProviiSdk.Ffi.Types

namespace ProviiSdk.Ffi

open ProviiSdk.Core ProviiSdk.Check ProviiSdk.Text ProviiSdk.Wire

/-! ## §1. Payloads -/

/-- What a QR code may carry. -/
inductive QrPayload where
  | verificationChallenge (data : QrChallengePayload)
  | attestation (data : String)
  deriving DecidableEq

/-- The FFI crate's `validate_field_lengths`: the core crate's checks
    and texts, as an FFI error. -/
def validateFieldLengths (X : DocumentCrates) (p : QrChallengePayload) : Except FfiError Unit :=
  (p.validateFieldLengths X).mapError .invalidFormat

/-- The fields of an envelope without its tag. -/
def untagged (fields : List (String × Json)) : Json := .obj (fields.filter fun f => f.1 != "type")

/-- The data of an attestation envelope. -/
def attestationData (doc : Json) : Option String := do
  let field ← slots ["data"] false doc
  (field "data").required Json.asStr

/-- Read a tagged envelope: an object with one tag, or, for an
    attestation, an array that starts with it. -/
def QrPayload.ofDocument : Json → Option QrPayload
  | .obj fields =>
    match fields.filter fun f => f.1 == "type" with
    | [(_, .str "verification_challenge/v2")] =>
      (QrChallengePayload.ofDocument (untagged fields)).map .verificationChallenge
    | [(_, .str "attestation/v1")] => (attestationData (untagged fields)).map .attestation
    | _ => none
  | .arr (.str "attestation/v1" :: items) => (attestationData (.arr items)).map .attestation
  | _ => none

/-! ## §2. Decoding -/

/-- The size limit on QR content, in bytes. -/
def maxQrPayloadSize : Nat := 500

def customSchemeVerifyPrefix : String := "provii://verify?d="

def httpsVerifyPrefix : String := "https://provii.app/verify?d="

/-- The size check both entry points make. -/
def checkQrSize (qrContent : String) : Except FfiError Unit :=
  require (qrContent.utf8ByteSize ≤ maxQrPayloadSize) (.invalidFormat
    s!"QR payload too large ({qrContent.utf8ByteSize} bytes, max {maxQrPayloadSize})")

/-- The body of a verify deep link. -/
def deepLinkEncoded (qrContent : String) : Option String :=
  match qrContent.toList.dropPrefix? customSchemeVerifyPrefix.toList with
  | some encoded => some (String.ofList encoded)
  | none =>
    (qrContent.toList.dropPrefix? httpsVerifyPrefix.toList).map String.ofList

/-- Does a text name none of three challenge fields? -/
def isMinimal (text : String) : Bool :=
  !contains "\"rp_challenge\"" text && !contains "\"submit_secret\"" text &&
    !contains "\"cutoff_days\"" text

/-- The sentinel on which the wallet fetches the challenge. -/
def minimalChallenge : FfiError := .invalidFormat "MINIMAL_CHALLENGE"

/-- Read challenge JSON: the body of a deep link, or bare JSON. -/
def challengeOfText (X : DocumentCrates) (context text : String) :
    Except FfiError QrChallengePayload := do
  require (isMinimal text = false) minimalChallenge
  let data ← (X.fromStr "QrChallengePayload" QrChallengePayload.ofDocument text).mapError
    fun e => .invalidFormat (context ++ e)
  validateFieldLengths X data
  return data

/-- Decode the body of a verify deep link. -/
def decodeDeepLink (X : DocumentCrates) (encoded : String) : Except FfiError QrPayload := do
  require (encoded ≠ "") (.invalidFormat "Invalid deep link URL format")
  let bytes ← (X.b64.decode encoded.toList).mapError
    fun e => .invalidFormat ("Failed to decode base64url: " ++ e)
  let text ← okOr (ofUtf8 bytes) (.invalidFormat ("Invalid UTF-8: " ++ X.utf8Error bytes))
  let data ← challengeOfText X "Failed to parse challenge: " text
  return .verificationChallenge data

/-- Is the content taken for bare challenge JSON? -/
def isBareChallenge (qrContent : String) : Bool :=
  (trim qrContent).head? == some '\x7b' && contains "challenge_id" qrContent

/-- Only a challenge has fields to validate. -/
def validatePayload (X : DocumentCrates) : QrPayload → Except FfiError Unit
  | .verificationChallenge data => validateFieldLengths X data
  | .attestation _ => .ok ()

/-- Decode a tagged envelope. -/
def decodeEnvelope (X : DocumentCrates) (qrContent : String) : Except FfiError QrPayload := do
  let payload ← (X.fromStr "QrPayload" QrPayload.ofDocument qrContent).mapError .invalidFormat
  validatePayload X payload
  return payload

/-- Decode a QR code. -/
def decodePayload (X : DocumentCrates) (qrContent : String) : Except FfiError QrPayload := do
  checkQrSize qrContent
  match deepLinkEncoded qrContent with
  | some encoded => decodeDeepLink X encoded
  | none =>
    if isBareChallenge qrContent = true then do
      let data ← challengeOfText X "Failed to parse challenge JSON: " qrContent
      return .verificationChallenge data
    else decodeEnvelope X qrContent

/-- The document an attestation is handed on as. -/
def attestationDocument (data : String) : Json :=
  .obj [("data", .str data), ("type", .str "attestation")]

/-- Write a payload as the JSON that is handed on. -/
def payloadText (X : DocumentCrates) : QrPayload → Except FfiError String
  | .verificationChallenge data => (X.writeDocument data.toDocument).mapError .generic
  | .attestation data => .ok (X.valueText (attestationDocument data))

/-- Parse a QR code into the JSON that is handed on. -/
def parseQrCode (X : DocumentCrates) (qrContent : String) : Except FfiError String := do
  let payload ← decodePayload X qrContent
  payloadText X payload

/-- The data of a document that is handed on as an attestation. -/
def attestationText (data : Json) : Option String :=
  match data.valueGet "type" with
  | some (.str "attestation") => (data.valueGet "data").bind Json.asStr
  | _ => none

/-- Validate JSON that was handed on, at a time in seconds: an attestation
    by its characters, a challenge by its expiry if that is an integer.
    Which characters are alphanumeric is in Unicode's tables. -/
def validateQrPayload (X : DocumentCrates) (isAlphanumeric : Char → Bool) (timestamp : Int)
    (qrJson : String) : Except FfiError Bool :=
  match X.parseDocument qrJson with
  | .error _ => .ok false
  | .ok data =>
    match attestationText data with
    | some attestData =>
      .ok (attestData != "" &&
        attestData.toList.all fun c => isAlphanumeric c || c == '-' || c == '_')
    | none =>
      if (data.valueGet "challenge_id").isSome = true then
        match (data.valueGet "expires_at").bind Json.asU64 with
        | some expiresAt => .ok (decide (UInt64.ofNat (max timestamp 0).toNat ≤ expiresAt))
        | none => .ok true
      else .ok false

/-! ## §3. The challenge id of a minimal payload -/

/-- The one field of a minimal challenge. -/
def minimalChallengeId (doc : Json) : Option String := do
  let field ← slots ["challenge_id"] false doc
  (field "challenge_id").required Json.asStr

/-- The text in which the challenge id is looked for. -/
def minimalText (X : DocumentCrates) (qrContent : String) : Except FfiError String :=
  match deepLinkEncoded qrContent with
  | some encoded => do
    require (encoded ≠ "") (.invalidFormat "Invalid URL")
    let bytes ← (X.b64.decode encoded.toList).mapError .invalidFormat
    okOr (ofUtf8 bytes) (.invalidFormat (X.utf8Error bytes))
  | none => .ok qrContent

def extractChallengeIdFromQr (X : DocumentCrates) (qrContent : String) : Except FfiError String := do
  checkQrSize qrContent
  let text ← minimalText X qrContent
  (X.fromStr "MinimalChallenge" minimalChallengeId text).mapError .invalidFormat

def isAsciiHexDigit (b : UInt8) : Bool :=
  (48 ≤ b && b ≤ 57) || (65 ≤ b && b ≤ 70) || (97 ≤ b && b ≤ 102)

/-- The loop over the bytes of a UUID, from index `i` on. -/
def validateUuidBytes : Nat → List UInt8 → Except WalletError Unit
  | _, [] => .ok ()
  | i, b :: bs =>
    if i = 8 ∨ i = 13 ∨ i = 18 ∨ i = 23 then do
      require (b = 45) (.invalidInput "challenge_id has invalid format: expected hyphen")
      validateUuidBytes (i + 1) bs
    else do
      require (isAsciiHexDigit b = true)
        (.invalidInput "challenge_id has invalid format: non-hex character")
      validateUuidBytes (i + 1) bs

def validateUuidFormat (id : String) : Except WalletError Unit := do
  require (id.utf8ByteSize = 36) (.invalidInput "challenge_id must be exactly 36 characters")
  validateUuidBytes 0 (utf8 id)

def validateChallengeIdFormat (id : String) : Except FfiError Unit :=
  (validateUuidFormat id).mapError fun e => .invalidFormat e.display

/-! ## §4. What is decoded -/

theorem validateFieldLengths_ok_iff (X : DocumentCrates) (p : QrChallengePayload) (u : Unit) :
    validateFieldLengths X p = .ok u ↔ ValidFields X p := by
  unfold validateFieldLengths
  rw [mapError_eq_ok_iff]
  exact Core.validateFieldLengths_ok_iff X p

/-- **When challenge JSON is accepted.** -/
theorem challengeOfText_ok_iff (X : DocumentCrates) (context text : String)
    (data : QrChallengePayload) :
    challengeOfText X context text = .ok data ↔
      isMinimal text = false ∧
        X.fromStr "QrChallengePayload" QrChallengePayload.ofDocument text = .ok data ∧
        ValidFields X data := by
  unfold challengeOfText
  simp only [bind_eq_ok_iff, require_eq_ok_iff, mapError_eq_ok_iff, validateFieldLengths_ok_iff,
    exists_const]
  constructor
  · rintro ⟨hfull, p, hread, hvalid, hp⟩
    injection hp with hp
    rw [hp] at hread hvalid
    exact ⟨hfull, hread, hvalid⟩
  · rintro ⟨hfull, hread, hvalid⟩
    exact ⟨hfull, data, hread, hvalid, rfl⟩

/-- The text behind a deep link: its base64url decodes to UTF-8. -/
theorem minimalText_link_ok_iff (X : DocumentCrates) {qrContent encoded : String}
    (hlink : deepLinkEncoded qrContent = some encoded) (text : String) :
    minimalText X qrContent = .ok text ↔
      encoded ≠ "" ∧ ∃ bytes, X.b64.decode encoded.toList = .ok bytes ∧ ofUtf8 bytes = some text := by
  unfold minimalText
  rw [hlink]
  simp only [bind_eq_ok_iff, require_eq_ok_iff, mapError_eq_ok_iff, okOr_eq_ok_iff, exists_const]

/-- A deep link is decoded through that text. -/
theorem decodeDeepLink_ok_iff (X : DocumentCrates) {qrContent encoded : String}
    (hlink : deepLinkEncoded qrContent = some encoded) (payload : QrPayload) :
    decodeDeepLink X encoded = .ok payload ↔
      ∃ text data, minimalText X qrContent = .ok text ∧
        challengeOfText X "Failed to parse challenge: " text = .ok data ∧
        payload = .verificationChallenge data := by
  unfold decodeDeepLink
  simp only [minimalText_link_ok_iff X hlink, bind_eq_ok_iff, require_eq_ok_iff, mapError_eq_ok_iff,
    okOr_eq_ok_iff, exists_const]
  constructor
  · rintro ⟨hbody, bytes, hbytes, text, htext, data, hdata, hpayload⟩
    injection hpayload with hpayload
    exact ⟨text, data, ⟨hbody, bytes, hbytes, htext⟩, hdata, hpayload.symm⟩
  · rintro ⟨text, data, ⟨hbody, bytes, hbytes, htext⟩, hdata, rfl⟩
    exact ⟨hbody, bytes, hbytes, text, htext, data, hdata, rfl⟩

/-- The three ways in which a content is decoded to a challenge. -/
inductive DecodesAs (X : DocumentCrates) (qrContent : String) (data : QrChallengePayload) : Prop where
  | link (text : String) (doc : Json) (hlink : (deepLinkEncoded qrContent).isSome = true)
    (htext : minimalText X qrContent = .ok text) (hfull : isMinimal text = false)
    (hdoc : X.parseDocument text = .ok doc) (hread : QrChallengePayload.ofDocument doc = some data)
    (hvalid : ValidFields X data)
  | bare (doc : Json) (hlink : deepLinkEncoded qrContent = none)
    (hbare : isBareChallenge qrContent = true) (hfull : isMinimal qrContent = false)
    (hdoc : X.parseDocument qrContent = .ok doc)
    (hread : QrChallengePayload.ofDocument doc = some data) (hvalid : ValidFields X data)
  | tagged (fields : List (String × Json)) (tag : String) (hlink : deepLinkEncoded qrContent = none)
    (hbare : isBareChallenge qrContent = false) (hdoc : X.parseDocument qrContent = .ok (.obj fields))
    (htag : membersOf fields "type" = [(tag, .str "verification_challenge/v2")])
    (hread : QrChallengePayload.ofDocument (untagged fields) = some data)
    (hvalid : ValidFields X data)

/-- An envelope holds a challenge exactly behind the challenge's tag. -/
theorem envelope_challenge_iff (doc : Json) (data : QrChallengePayload) :
    QrPayload.ofDocument doc = some (.verificationChallenge data) ↔
      ∃ fields tag, doc = .obj fields ∧
        membersOf fields "type" = [(tag, .str "verification_challenge/v2")] ∧
        QrChallengePayload.ofDocument (untagged fields) = some data := by
  constructor
  · intro h
    unfold QrPayload.ofDocument at h
    split at h
    next fields =>
      split at h
      next tag htag =>
        obtain ⟨data', hread, hdata⟩ := Option.map_eq_some_iff.1 h
        injection hdata with hdata
        exact ⟨fields, tag, rfl, htag, hdata ▸ hread⟩
      next =>
        obtain ⟨d, -, hd⟩ := Option.map_eq_some_iff.1 h
        cases hd
      next => cases h
    next =>
      obtain ⟨d, -, hd⟩ := Option.map_eq_some_iff.1 h
      cases hd
    next => cases h
  · rintro ⟨fields, tag, rfl, htag, hread⟩
    unfold membersOf at htag
    unfold QrPayload.ofDocument
    simp only [htag, hread, Option.map_some]

/-- **When a content is decoded to a challenge**: it is short enough, and
    a challenge in one of three ways. -/
theorem decodePayload_challenge_iff (X : DocumentCrates) (qrContent : String)
    (data : QrChallengePayload) :
    decodePayload X qrContent = .ok (.verificationChallenge data) ↔
      qrContent.utf8ByteSize ≤ maxQrPayloadSize ∧ DecodesAs X qrContent data := by
  unfold decodePayload checkQrSize
  rw [bind_eq_ok_iff]
  simp only [require_eq_ok_iff, exists_const]
  refine and_congr_right fun _ => ?_
  cases hlink : deepLinkEncoded qrContent with
  | some encoded =>
    simp only [decodeDeepLink_ok_iff X hlink, challengeOfText_ok_iff, fromStr_ok_iff]
    constructor
    · rintro ⟨text, data', htext, ⟨hfull, ⟨doc, hdoc, hread⟩, hvalid⟩, hdata⟩
      injection hdata with hdata
      rw [← hdata] at hread hvalid
      exact .link text doc (by rw [hlink]; rfl) htext hfull hdoc hread hvalid
    · intro h
      cases h with
      | link text doc _ htext hfull hdoc hread hvalid =>
        exact ⟨text, data, htext, ⟨hfull, ⟨doc, hdoc, hread⟩, hvalid⟩, rfl⟩
      | bare doc hnone => rw [hlink] at hnone; cases hnone
      | tagged fields tag hnone => rw [hlink] at hnone; cases hnone
  | none =>
    simp only
    cases hbare : isBareChallenge qrContent with
    | true =>
      rw [if_pos rfl]
      simp only [bind_eq_ok_iff, challengeOfText_ok_iff, fromStr_ok_iff]
      constructor
      · rintro ⟨data', ⟨hfull, ⟨doc, hdoc, hread⟩, hvalid⟩, hdata⟩
        injection hdata with hdata
        injection hdata with hdata
        rw [hdata] at hread hvalid
        exact .bare doc hlink hbare hfull hdoc hread hvalid
      · intro h
        cases h with
        | link text doc hsome => rw [hlink] at hsome; cases hsome
        | bare doc _ _ hfull hdoc hread hvalid =>
          exact ⟨data, ⟨hfull, ⟨doc, hdoc, hread⟩, hvalid⟩, rfl⟩
        | tagged fields tag _ hnot => rw [hbare] at hnot; cases hnot
    | false =>
      rw [if_neg Bool.false_ne_true]
      unfold decodeEnvelope
      simp only [bind_eq_ok_iff, mapError_eq_ok_iff, fromStr_ok_iff]
      constructor
      · rintro ⟨payload, ⟨doc, hdoc, hread⟩, u, hcheck, hpayload⟩
        injection hpayload with hpayload
        rw [hpayload] at hread hcheck
        obtain ⟨fields, tag, rfl, htag, hchallenge⟩ := (envelope_challenge_iff doc data).1 hread
        exact .tagged fields tag hlink hbare hdoc htag hchallenge
          ((validateFieldLengths_ok_iff X data u).1 hcheck)
      · intro h
        cases h with
        | link text doc hsome => rw [hlink] at hsome; cases hsome
        | bare doc _ hyes => rw [hbare] at hyes; cases hyes
        | tagged fields tag _ _ hdoc htag hread hvalid =>
          exact ⟨.verificationChallenge data,
            ⟨_, hdoc, (envelope_challenge_iff _ data).2 ⟨fields, tag, rfl, htag, hread⟩⟩, (),
            (validateFieldLengths_ok_iff X data ()).2 hvalid, rfl⟩

/-- A deep link starts with the first letter of one of the two prefixes. -/
theorem head_of_deepLinkEncoded {qrContent encoded : String}
    (h : deepLinkEncoded qrContent = some encoded) :
    (trim qrContent).head? = some 'p' ∨ (trim qrContent).head? = some 'h' := by
  -- what a prefix was dropped from starts with the prefix
  have hstart : ∀ (pre rest : List Char), qrContent.toList.dropPrefix? pre = some rest →
      qrContent.toList = pre ++ rest := by
    intro pre rest hdrop
    obtain ⟨pre', happ, hpre⟩ := List.dropPrefix?_eq_some_iff.1 hdrop
    rw [← eq_of_beq hpre, happ]
  unfold deepLinkEncoded at h
  split at h
  next rest hdrop => exact Or.inl (head?_trim (hstart _ _ hdrop) (by decide))
  next =>
    obtain ⟨rest, hdrop, -⟩ := Option.map_eq_some_iff.1 h
    exact Or.inr (head?_trim (hstart _ _ hdrop) (by decide))

/-- So a text that starts with another character is no deep link. -/
theorem deepLinkEncoded_eq_none {qrContent : String} {c : Char}
    (hhead : (trim qrContent).head? = some c) (hp : c ≠ 'p') (hh : c ≠ 'h') :
    deepLinkEncoded qrContent = none := by
  rw [Option.eq_none_iff_forall_not_mem]
  intro encoded hencoded
  rcases head_of_deepLinkEncoded hencoded with hstart | hstart
  · rw [hhead] at hstart
    injection hstart with hstart
    exact hp hstart
  · rw [hhead] at hstart
    injection hstart with hstart
    exact hh hstart

/-- A text in braces is no deep link. -/
theorem deepLinkEncoded_of_brace {qrContent : String}
    (hbrace : (trim qrContent).head? = some '\x7b') : deepLinkEncoded qrContent = none :=
  deepLinkEncoded_eq_none hbrace (by decide) (by decide)

/-- It is taken for bare challenge JSON if it has the marker. -/
theorem isBareChallenge_of_brace {qrContent : String}
    (hbrace : (trim qrContent).head? = some '\x7b') :
    isBareChallenge qrContent = contains "challenge_id" qrContent := by
  unfold isBareChallenge
  rw [hbrace]
  rfl

/-- A content that is no deep link is its own text. -/
theorem minimalText_of_no_link (X : DocumentCrates) {qrContent : String}
    (hlink : deepLinkEncoded qrContent = none) : minimalText X qrContent = .ok qrContent := by
  unfold minimalText
  rw [hlink]

/-! What is decoded of a content that is short enough, by its kind. -/

section Short

variable {X : DocumentCrates} {qrContent : String}

theorem decodePayload_of_link {encoded text : String}
    (hshort : qrContent.utf8ByteSize ≤ maxQrPayloadSize)
    (hlink : deepLinkEncoded qrContent = some encoded)
    (htext : minimalText X qrContent = .ok text) :
    decodePayload X qrContent =
      challengeOfText X "Failed to parse challenge: " text >>= fun data =>
        pure (.verificationChallenge data) := by
  obtain ⟨hbody, bytes, hbytes, hutf8⟩ := (minimalText_link_ok_iff X hlink text).1 htext
  unfold decodePayload checkQrSize decodeDeepLink
  rw [require_pos hshort, ok_bind, hlink]
  simp only
  rw [require_pos hbody, ok_bind, hbytes, mapError_ok, ok_bind, hutf8, okOr_some, ok_bind]

theorem decodePayload_of_bare (hshort : qrContent.utf8ByteSize ≤ maxQrPayloadSize)
    (hlink : deepLinkEncoded qrContent = none) (hbare : isBareChallenge qrContent = true) :
    decodePayload X qrContent =
      challengeOfText X "Failed to parse challenge JSON: " qrContent >>= fun data =>
        pure (.verificationChallenge data) := by
  unfold decodePayload checkQrSize
  rw [require_pos hshort, ok_bind, hlink]
  simp only
  rw [if_pos hbare]

theorem decodePayload_of_envelope (hshort : qrContent.utf8ByteSize ≤ maxQrPayloadSize)
    (hlink : deepLinkEncoded qrContent = none) (hbare : isBareChallenge qrContent = false) :
    decodePayload X qrContent = decodeEnvelope X qrContent := by
  unfold decodePayload checkQrSize
  rw [require_pos hshort, ok_bind, hlink]
  simp only [hbare, Bool.false_eq_true, if_false]

end Short

/-- **Bare challenge JSON is decoded**: a text in braces, short enough,
    that names the challenge id and is accepted as a challenge. -/
theorem decodePayload_bare {X : DocumentCrates} {qrContent : String} {data : QrChallengePayload}
    (hshort : qrContent.utf8ByteSize ≤ maxQrPayloadSize)
    (hhead : (trim qrContent).head? = some '\x7b')
    (hnamed : contains "challenge_id" qrContent = true) (hfull : isMinimal qrContent = false)
    (hread : X.fromStr "QrChallengePayload" QrChallengePayload.ofDocument qrContent = .ok data)
    (hvalid : ValidFields X data) :
    decodePayload X qrContent = .ok (.verificationChallenge data) := by
  have hbare := (isBareChallenge_of_brace hhead).trans hnamed
  rw [decodePayload_of_bare hshort (deepLinkEncoded_of_brace hhead) hbare,
    (challengeOfText_ok_iff X _ qrContent data).2 ⟨hfull, hread, hvalid⟩, ok_bind]
  rfl

/-- **A challenge's JSON is valid up to its expiry**, the last second
    included. -/
theorem validateQrPayload_challenge {X : DocumentCrates} {json : String} {data : QrChallengePayload}
    (hread : X.parseDocument json = .ok data.toDocument) (isAlphanumeric : Char → Bool)
    (timestamp : Int) :
    validateQrPayload X isAlphanumeric timestamp json =
      .ok (decide (UInt64.ofNat (max timestamp 0).toNat ≤ data.expiresAt)) := by
  have htype : attestationText data.toDocument = none := by
    unfold attestationText QrChallengePayload.toDocument
    cases data.codeVerifier <;> rfl
  have hid : data.toDocument.valueGet "challenge_id" = some (.str data.challengeId) := by
    unfold QrChallengePayload.toDocument
    cases data.codeVerifier <;> rfl
  have hexpires : data.toDocument.valueGet "expires_at" = some (.ofU64 data.expiresAt) := by
    unfold QrChallengePayload.toDocument
    cases data.codeVerifier <;> rfl
  unfold validateQrPayload
  rw [hread]
  simp only [htype, hid, hexpires, Option.isSome_some, if_true, Option.bind_some, asU64_ofU64]

/-- A decoded content is written as its payload is. -/
theorem parseQrCode_of_decode {X : DocumentCrates} {qrContent : String} {payload : QrPayload}
    (h : decodePayload X qrContent = .ok payload) :
    parseQrCode X qrContent = payloadText X payload := by
  unfold parseQrCode
  rw [h, ok_bind]

end ProviiSdk.Ffi
