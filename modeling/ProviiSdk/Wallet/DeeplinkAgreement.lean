/-
  ProviiSdk.Wallet.DeeplinkAgreement — what a deep link hands on.

  A verify link is parsed by a reader and validator of its own, and its
  text is then handed to the wallet, which decodes it as a scanned code.
  The two readers know the same fields, but one has four of them optional
  and lets empty texts and any direction through, and their limits on the
  size of the text differ.  This file says for which texts they agree.

  Main results:
    * `ofDocument_of_verify` — what a verify payload is as a challenge.
    * `decoded_of_processed`, `bare_of_decoded` — what a text that is
      processed without the network has gone through.
    * `accepted_iff` — when a parsed link's text is accepted.
-/

import ProviiSdk.Ffi.Deeplink
import ProviiSdk.Wallet.QrRouting

namespace ProviiSdk.Wallet

open ProviiSdk.Core ProviiSdk.Ffi ProviiSdk.Ffi.Deeplink ProviiSdk.Check ProviiSdk.Text
open ProviiSdk.BoundedCache (size)

/-! ## §1. The property -/

/-- **The property** of the text a link hands on: it reads as a challenge
    that both validators accept, and processing it succeeds as long as
    the cache has room, whatever the network does. -/
structure Accepted (X : DocumentCrates) (json : String) : Prop where
  reads : ∃ data, X.fromStr "QrChallengePayload" QrChallengePayload.ofDocument json = .ok data ∧
    data.validateFieldLengths X = .ok () ∧ Ffi.validateFieldLengths X data = .ok ()
  processed : ∀ net config clock (s : Session), size s.cachedChallenges < maxCachedChallenges →
    ∃ id, (processQrChallenge X net config clock json s).1 = .ok id

/-- A verify payload that is complete as a challenge. -/
structure Complete (p : VerifyPayload) : Prop where
  challengeId : p.challengeId ≠ ""
  rpChallenge : p.rpChallenge ≠ ""
  submitSecret : p.submitSecret ≠ ""
  expiresAt : p.expiresAt ≠ none
  verifyUrl : p.verifyUrl ≠ none ∧ p.verifyUrl ≠ some ""
  direction : ∀ dir ∈ p.proofDirection, dir = "over_age" ∨ dir = "under_age"

/-- The condition for it, on the text: it is an object, short enough for
    a scanned code, names the challenge id and one of the three fields a
    minimal challenge has not, and is complete. -/
structure CompleteText (X : DocumentCrates) (json : String) : Prop where
  object : ∃ fields, X.parseDocument json = .ok (.obj fields)
  short : json.utf8ByteSize ≤ maxQrPayloadSize
  named : contains "challenge_id" json = true
  full : isMinimal json = false
  complete : ∀ p, X.fromStr "VerifyPayload" VerifyPayload.ofDocument json = .ok p → Complete p

/-- How JSON texts start, behind white space. -/
structure StartsAsJson (X : DocumentCrates) (json : String) : Prop where
  object : ∀ fields, X.parseDocument json = .ok (.obj fields) → (trim json).head? = some '\x7b'
  array : ∀ items, X.parseDocument json = .ok (.arr items) → (trim json).head? = some '['

/-! ## §2. One document, two readers -/

/-- A verify payload as a challenge, if it has what a challenge needs. -/
def challengeOf (p : VerifyPayload) : Option QrChallengePayload := do
  let expiresAt ← p.expiresAt
  let verifyUrl ← p.verifyUrl
  return { challengeId := p.challengeId, rpChallenge := p.rpChallenge, cutoffDays := p.cutoffDays,
           verifyingKeyId := p.verifyingKeyId, submitSecret := p.submitSecret, expiresAt, verifyUrl,
           codeVerifier := p.codeVerifier, proofDirection := p.proofDirection }

/-- What the two readers see in one object: the same slots, and no field
    besides. -/
theorem slots_of_verify {fields : List (String × Json)} {field : String → Slot}
    (h : slots verifyPayloadFields true (.obj fields) = some field) :
    slots qrChallengeFields false (.obj fields) = some field ∧ (∀ name, field name ≠ .short) ∧
      ∀ f ∈ fields, f.1 ∈ verifyPayloadFields := by
  simp only [slots] at h
  split at h
  next hchecks =>
    simp only [Bool.not_true, Bool.false_or, Bool.and_eq_true] at hchecks
    obtain ⟨honce, hknown⟩ := hchecks
    injection h with h
    have honce' : qrChallengeFields.all (atMostOnce fields) = true := by
      rw [List.all_eq_true] at honce ⊢
      have hsame : ∀ name ∈ qrChallengeFields, name ∈ verifyPayloadFields := by decide
      exact fun name hname => honce name (hsame name hname)
    refine ⟨?_, fun name => ?_, fun f hf => ?_⟩
    · rw [slots_obj _ _ honce', h]
    · rw [← h]
      simp only
      split
      · exact fun hshort => by cases hshort
      · exact fun hshort => by cases hshort
    · exact List.contains_iff_mem.1 (List.all_eq_true.1 hknown f hf)
  next => cases h

/-- A value that may be null, at a type that has no null. -/
private theorem read_of_nullable {α : Type} {read : Json → Option α} (hnull : read .null = none)
    {v : Json} {o : Option α} (h : nullable read v = some o) : read v = o := by
  unfold nullable at h
  split at h
  · injection h with h
    rw [hnull, h]
  · obtain ⟨a, ha, hao⟩ := Option.map_eq_some_iff.1 h
    rw [ha, hao]

/-- A field that is defaulted by one reader and required by the other. -/
private theorem required_of_defaulted {α : Type} {read : Json → Option α} (hnull : read .null = none)
    {s : Slot} {o : Option α} (h : s.defaulted read = some o) : s.required read = o := by
  cases s with
  | absent => injection h
  | short => injection h
  | value v => exact read_of_nullable hnull h

/-- A field that is defaulted by one reader and optional for the other. -/
private theorem optional_of_defaulted {α : Type} {read : Json → Option α} {s : Slot} {o : Option α}
    (hshort : s ≠ .short) (h : s.defaulted read = some o) : s.optional read = some o := by
  cases s with
  | absent => exact h
  | short => exact absurd rfl hshort
  | value v => exact h

/-- The fields a verify payload was read from. -/
theorem fields_of_verify {doc : Json} {p : VerifyPayload}
    (h : VerifyPayload.ofDocument doc = some p) :
    ∃ field, slots verifyPayloadFields true doc = some field ∧
      (field "challenge_id").required Json.asStr = some p.challengeId ∧
      (field "rp_challenge").required Json.asStr = some p.rpChallenge ∧
      (field "cutoff_days").required Json.asI32 = some p.cutoffDays ∧
      (field "verifying_key_id").required Json.asU32 = some p.verifyingKeyId ∧
      (field "submit_secret").required Json.asStr = some p.submitSecret ∧
      (field "code_verifier").defaulted Json.asStr = some p.codeVerifier ∧
      (field "expires_at").defaulted Json.asU64 = some p.expiresAt ∧
      (field "verify_url").defaulted Json.asStr = some p.verifyUrl ∧
      (field "proof_direction").defaulted Json.asStr = some p.proofDirection := by
  unfold VerifyPayload.ofDocument at h
  simp only [Option.bind_eq_bind, Option.bind_eq_some_iff] at h
  obtain ⟨field, hslots, id, hid, rp, hrp, cutoff, hcutoff, vk, hvk, secret, hsecret, cv, hcv,
    expires, hexpires, url, hurl, dir, hdir, hp⟩ := h
  injection hp with hp
  subst hp
  exact ⟨field, hslots, hid, hrp, hcutoff, hvk, hsecret, hcv, hexpires, hurl, hdir⟩

/-- **What a verify payload is as a challenge.** -/
theorem ofDocument_of_verify {fields : List (String × Json)} {p : VerifyPayload}
    (h : VerifyPayload.ofDocument (.obj fields) = some p) :
    QrChallengePayload.ofDocument (.obj fields) = challengeOf p := by
  obtain ⟨field, hslots, hid, hrp, hcutoff, hvk, hsecret, hcv, hexpires, hurl, hdir⟩ :=
    fields_of_verify h
  obtain ⟨hslots', hshort, -⟩ := slots_of_verify hslots
  unfold QrChallengePayload.ofDocument challengeOf
  simp only [hslots', hid, hrp, hcutoff, hvk, hsecret, hdir, Option.bind_eq_bind, Option.bind_some,
    required_of_defaulted rfl hexpires, required_of_defaulted rfl hurl,
    optional_of_defaulted (hshort _) hcv]

/-- A verify payload is written as an object, or as an array of five
    fields at least. -/
theorem shape_of_verify {doc : Json} {p : VerifyPayload} (h : VerifyPayload.ofDocument doc = some p) :
    (∃ fields, doc = .obj fields ∧ ∀ f ∈ fields, f.1 ∈ verifyPayloadFields) ∨
      ∃ items, doc = .arr items ∧ 5 ≤ items.length := by
  obtain ⟨field, hslots, -, -, -, -, hsecret, -⟩ := fields_of_verify h
  cases doc with
  | null => cases hslots
  | bool b => cases hslots
  | num n => cases hslots
  | str t => cases hslots
  | obj fields => exact Or.inl ⟨fields, rfl, (slots_of_verify hslots).2.2⟩
  | arr items =>
    refine Or.inr ⟨items, rfl, ?_⟩
    simp only [slots] at hslots
    split at hslots
    next =>
      injection hslots with hslots
      obtain ⟨v, hv, -⟩ := (required_eq_some_iff ..).1 hsecret
      rw [← hslots] at hv
      -- the fifth field is there, so there are five
      have hidx : verifyPayloadFields.idxOf "submit_secret" = 4 := by decide
      simp only [hidx] at hv
      split at hv
      next w hw =>
        obtain ⟨hlt, -⟩ := List.getElem?_eq_some_iff.1 hw
        exact hlt
      next => cases hv
    next => cases hslots

/-- A verify payload is no envelope: it has no tag, and too many fields
    for an attestation. -/
theorem not_envelope_of_verify {doc : Json} {p : VerifyPayload}
    (h : VerifyPayload.ofDocument doc = some p) : QrPayload.ofDocument doc = none := by
  rcases shape_of_verify h with ⟨fields, rfl, hknown⟩ | ⟨items, rfl, hlen⟩
  · have htag : (fields.filter fun f => f.1 == "type") = [] := by
      rw [List.filter_eq_nil_iff]
      intro f hf htype
      have hname := hknown f hf
      rw [eq_of_beq htype] at hname
      exact absurd hname (by decide)
    unfold QrPayload.ofDocument
    simp only [htag]
  · unfold QrPayload.ofDocument
    split
    next heq => cases heq
    next rest heq =>
      injection heq with heq
      have hrest : ¬ rest.length ≤ 1 := by
        rw [heq, List.length_cons] at hlen
        omega
      unfold attestationData
      simp only [slots, List.length_singleton, if_neg hrest]
      rfl
    next => rfl

/-! ## §3. What a processed text has gone through -/

/-- A network on which nothing is answered. -/
def deadNetwork : Network :=
  { tokioRt := .error (.network "no runtime")
    getWithTimeout := fun _ _ => .error (.network "no route to host")
    postJson := fun _ _ => .error (.network "no route to host") }

/-- Processing succeeds when the text is read and the cache has room. -/
theorem processQrChallenge_of_room {X : DocumentCrates} {net : Network} {config : WalletConfig}
    {json : String} {data : QrChallengePayload}
    (hread : parseQrPayloadInternal X net config json = .ok data) (clock : CachingClock)
    (s : Session) (hroom : size s.cachedChallenges < maxCachedChallenges) :
    (processQrChallenge X net config clock json s).1 = .ok data.challengeId := by
  unfold processQrChallenge cacheRead
  rw [hread]
  simp only [cacheChallenge_eq]
  rw [BoundedCache.offer_taken _ _ _ hroom]
  rfl

/-- **Without the network a processed text was decoded**: only a decoded
    text is read without fetching. -/
theorem decoded_of_processed {X : DocumentCrates} {config : WalletConfig} {clock : CachingClock}
    {json id : String} {s : Session}
    (h : (processQrChallenge X deadNetwork config clock json s).1 = .ok id) :
    ∃ payload, decodePayload X json = .ok payload := by
  unfold processQrChallenge cacheRead at h
  cases hread : parseQrPayloadInternal X deadNetwork config json with
  | error e =>
    rw [hread] at h
    cases h
  | ok data =>
    unfold parseQrPayloadInternal at hread
    cases hparse : parseQrCode X json with
    | ok parsed =>
      unfold parseQrCode at hparse
      obtain ⟨payload, hdecode, -⟩ := (bind_eq_ok_iff ..).1 hparse
      exact ⟨payload, hdecode⟩
    | error e =>
      rw [hparse] at hread
      simp only at hread
      split at hread
      next =>
        -- the challenge would have to be fetched
        unfold fetchMinimalChallenge Network.fetch at hread
        simp only [bind_eq_ok_iff] at hread
        obtain ⟨-, -, -, -, -, ⟨u, hruntime, -⟩, -⟩ := hread
        cases hruntime
      next => cases hread

/-- **A decoded verify payload is complete as a text**: its text came
    through as bare challenge JSON. -/
theorem bare_of_decoded {X : DocumentCrates} {json : String} {p : VerifyPayload} {payload : QrPayload}
    (hverify : X.fromStr "VerifyPayload" VerifyPayload.ofDocument json = .ok p)
    (hstart : StartsAsJson X json) (h : decodePayload X json = .ok payload) :
    ∃ fields data, X.parseDocument json = .ok (.obj fields) ∧
      json.utf8ByteSize ≤ maxQrPayloadSize ∧ contains "challenge_id" json = true ∧
      isMinimal json = false ∧
      X.fromStr "QrChallengePayload" QrChallengePayload.ofDocument json = .ok data ∧
      ValidFields X data := by
  obtain ⟨doc, hdoc, hread⟩ := (fromStr_ok_iff ..).1 hverify
  unfold decodePayload at h
  obtain ⟨u, hsize, h⟩ := (bind_eq_ok_iff ..).1 h
  have hshort : json.utf8ByteSize ≤ maxQrPayloadSize := (require_eq_ok_iff _ _ _).1 hsize
  -- JSON does not start like a deep link
  have hhead : (trim json).head? = some '\x7b' ∨ (trim json).head? = some '[' := by
    rcases shape_of_verify hread with ⟨fields, rfl, -⟩ | ⟨items, rfl, -⟩
    · exact Or.inl (hstart.object fields hdoc)
    · exact Or.inr (hstart.array items hdoc)
  have hlink : deepLinkEncoded json = none := by
    rcases hhead with hbrace | hbracket
    · exact deepLinkEncoded_of_brace hbrace
    · exact deepLinkEncoded_eq_none hbracket (by decide) (by decide)
  rw [hlink] at h
  simp only at h
  split at h
  next hbare =>
    unfold isBareChallenge at hbare
    rw [Bool.and_eq_true, beq_iff_eq] at hbare
    obtain ⟨hbrace, hnamed⟩ := hbare
    obtain ⟨data, hchallenge, -⟩ := (bind_eq_ok_iff ..).1 h
    obtain ⟨hfull, hdata, hvalid⟩ := (challengeOfText_ok_iff ..).1 hchallenge
    rcases shape_of_verify hread with ⟨fields, rfl, -⟩ | ⟨items, rfl, -⟩
    · exact ⟨fields, data, hdoc, hshort, hnamed, hfull, hdata, hvalid⟩
    · rw [hstart.array items hdoc] at hbrace
      exact absurd hbrace (by decide)
  next =>
    -- an envelope would have a tag
    unfold decodeEnvelope at h
    obtain ⟨payload', henvelope, -⟩ := (bind_eq_ok_iff ..).1 h
    rw [mapError_eq_ok_iff, fromStr_ok_iff] at henvelope
    obtain ⟨doc', hdoc', henvelope⟩ := henvelope
    rw [hdoc] at hdoc'
    injection hdoc' with hdoc'
    rw [← hdoc', not_envelope_of_verify hread] at henvelope
    cases henvelope

/-! ## §4. Agreement -/

/-- What a payload that is a challenge has. -/
theorem challengeOf_eq_some {p : VerifyPayload} {data : QrChallengePayload}
    (h : challengeOf p = some data) :
    p.expiresAt = some data.expiresAt ∧ p.verifyUrl = some data.verifyUrl ∧
      data.challengeId = p.challengeId ∧ data.rpChallenge = p.rpChallenge ∧
      data.submitSecret = p.submitSecret ∧ data.codeVerifier = p.codeVerifier ∧
      data.proofDirection = p.proofDirection := by
  unfold challengeOf at h
  simp only [Option.bind_eq_bind, Option.bind_eq_some_iff] at h
  obtain ⟨expires, hexpires, url, hurl, hdata⟩ := h
  injection hdata with hdata
  rw [← hdata]
  exact ⟨hexpires, hurl, rfl, rfl, rfl, rfl, rfl⟩

/-- **The limits of a link and the checks of a challenge** differ by what
    makes a payload complete. -/
theorem validFields_iff_complete {X : DocumentCrates} {p : VerifyPayload} {data : QrChallengePayload}
    (h : challengeOf p = some data) (hlimits : WithinLimits X p) :
    ValidFields X data ↔ Complete p := by
  obtain ⟨hexpires, hurl, hid, hrp, hsecret, hcv, hdir⟩ := challengeOf_eq_some h
  obtain ⟨hurlLen, hhttps⟩ := hlimits.verifyUrl data.verifyUrl hurl
  constructor
  · intro hvalid
    refine ⟨?_, ?_, ?_, ?_, ⟨?_, ?_⟩, ?_⟩
    · rw [← hid]
      exact hvalid.challengeId.1
    · rw [← hrp]
      exact hvalid.rpChallenge.1
    · rw [← hsecret]
      exact hvalid.submitSecret.1
    · rw [hexpires]
      exact Option.some_ne_none _
    · rw [hurl]
      exact Option.some_ne_none _
    · rw [hurl]
      intro hempty
      injection hempty with hempty
      exact hvalid.verifyUrl.1 hempty
    · rw [← hdir]
      exact hvalid.direction
  · intro hcomplete
    refine ⟨⟨?_, ?_⟩, ⟨?_, ?_⟩, ⟨?_, ?_⟩, ⟨?_, hurlLen⟩, hhttps, ?_, ?_⟩
    · rw [hid]
      exact hcomplete.challengeId
    · rw [hid]
      exact hlimits.challengeId
    · rw [hrp]
      exact hcomplete.rpChallenge
    · rw [hrp]
      exact hlimits.rpChallenge
    · rw [hsecret]
      exact hcomplete.submitSecret
    · rw [hsecret]
      exact hlimits.submitSecret
    · intro hempty
      refine hcomplete.verifyUrl.2 ?_
      rw [hurl, hempty]
    · rw [hcv]
      exact hlimits.codeVerifier
    · rw [hdir]
      exact hcomplete.direction

/-- A complete payload is a challenge. -/
theorem challengeOf_of_complete {p : VerifyPayload} (h : Complete p) :
    ∃ data, challengeOf p = some data := by
  obtain ⟨expires, hexpires⟩ := Option.ne_none_iff_exists'.1 h.expiresAt
  obtain ⟨url, hurl⟩ := Option.ne_none_iff_exists'.1 h.verifyUrl.1
  unfold challengeOf
  rw [hexpires, hurl]
  exact ⟨_, rfl⟩

/-- **A parsed link's text is accepted exactly when it is complete.**
    For every link that is parsed to a challenge text: the text reads as
    a challenge that both validators accept, and processing it succeeds
    whenever the cache has room, if and only if it is a complete
    challenge in 500 bytes that a scanned code may be. -/
theorem accepted_iff (X : DocumentCrates) (url json : String)
    (hparse : Deeplink.parse X url = .ok (.scanChallenge json)) (hstart : StartsAsJson X json)
    (hwritten : ∀ data, X.fromStr "QrChallengePayload" QrChallengePayload.ofDocument json = .ok data →
      WrittenReads X (.verificationChallenge data)) :
    Accepted X json ↔ CompleteText X json := by
  obtain ⟨-, u, -, -, -, -, p, hverify, hlimits⟩ := (parse_scanChallenge_iff X url json).1 hparse
  obtain ⟨doc, hdoc, hread⟩ := (fromStr_ok_iff ..).1 hverify
  constructor
  · intro haccepted
    obtain ⟨id, hid⟩ := haccepted.processed deadNetwork sampleConfig
      { now := 0, nowForEvict := 0 } .new (by decide)
    obtain ⟨payload, hdecode⟩ := decoded_of_processed hid
    obtain ⟨fields, data, hobject, hshort, hnamed, hfull, hdata, hvalid⟩ :=
      bare_of_decoded hverify hstart hdecode
    refine ⟨⟨fields, hobject⟩, hshort, hnamed, hfull, fun p' hverify' => ?_⟩
    obtain ⟨doc', hdoc', hread'⟩ := (fromStr_ok_iff ..).1 hdata
    rw [hverify] at hverify'
    injection hverify' with hverify'
    rw [hobject] at hdoc hdoc'
    injection hdoc with hdoc
    injection hdoc' with hdoc'
    rw [← hdoc] at hread
    rw [← hdoc', ofDocument_of_verify hread] at hread'
    rw [← hverify']
    exact (validFields_iff_complete hread' hlimits).1 hvalid
  · intro htext
    obtain ⟨fields, hobject⟩ := htext.object
    have hcomplete := htext.complete p hverify
    obtain ⟨data, hchallenge⟩ := challengeOf_of_complete hcomplete
    have hvalid := (validFields_iff_complete hchallenge hlimits).2 hcomplete
    rw [hobject] at hdoc
    injection hdoc with hdoc
    rw [← hdoc] at hread
    have hdata : X.fromStr "QrChallengePayload" QrChallengePayload.ofDocument json = .ok data := by
      rw [fromStr_ok_iff]
      exact ⟨_, hobject, (ofDocument_of_verify hread).trans hchallenge⟩
    refine ⟨⟨data, hdata, (Core.validateFieldLengths_ok_iff X data).2 hvalid,
      (Ffi.validateFieldLengths_ok_iff X data ()).2 hvalid⟩, fun net config clock s hroom => ?_⟩
    -- the text is decoded, written and read back
    have hdecode := decodePayload_bare htext.short (hstart.object fields hobject) htext.named
      htext.full hdata hvalid
    obtain ⟨written, hwrite, hback⟩ := hwritten data hdata
    have hreadBack := parseQrPayloadInternal_challenge net config hdecode hwrite hback
    exact ⟨_, processQrChallenge_of_room hreadBack clock s hroom⟩

/-! ## §5. Two links -/

/-- The body of a link that carries a text, the link, and the link as a
    URL. -/
def linkBody (text : String) : String := String.ofList (Base64Url.rfc4648.encode (Wire.utf8 text))

def verifyLink (text : String) : String := "proviiwallet://verify?d=" ++ linkBody text

def verifyLinkUrl (text : String) : Url where
  scheme := "proviiwallet".toList
  userinfo := []
  host := some "verify".toList
  port := none
  path := []
  query := some ("d=" ++ linkBody text).toList
  fragment := none
  queryPairs := [("d", linkBody text)]

/-- Crates that know a document, some URLs, and the link that carries the
    document. -/
def linkCrates (doc : Json) (urls : List (String × Url)) : WalletCrates Unit :=
  sampleWallet [doc] (urls ++ [(verifyLink (flatText doc), verifyLinkUrl (flatText doc))])

/-- A link carries its text. -/
theorem carriedText_verifyLinkUrl {X : DocumentCrates} (hb64 : X.b64 = Base64Url.rfc4648)
    (text : String) : carriedText X (verifyLinkUrl text) = .ok text := by
  have hbody : queryGet (verifyLinkUrl text) "d" = some (linkBody text) := rfl
  have hdecode : X.b64.decode (linkBody text).toList = .ok (Wire.utf8 text) := by
    unfold linkBody
    rw [hb64, String.toList_ofList]
    exact Base64Url.rfc4648.decode_encode (Wire.utf8 text)
  unfold carriedText
  rw [hbody, okOr_some, ok_bind, hdecode, mapError_ok, ok_bind, Wire.ofUtf8_utf8, okOr_some]

/-- A link names the verify action. -/
theorem linkAction_verifyLinkUrl (text : String) : linkAction (verifyLinkUrl text) = .ok "verify" := by
  have hlower : toLowercase "verify".toList = "verify" := by decide
  have hscheme : (verifyLinkUrl text).scheme = "proviiwallet".toList := rfl
  have hhost : (verifyLinkUrl text).host = some "verify".toList := rfl
  unfold linkAction
  rw [if_pos hscheme, hhost, Option.getD_some, hlower]

/-- A link whose text is a payload within the limits parses. -/
theorem parse_verifyLink {X : DocumentCrates} {text : String} {p : VerifyPayload}
    (hb64 : X.b64 = Base64Url.rfc4648)
    (hurl : X.parseUrl (verifyLink text) = .ok (verifyLinkUrl text))
    (hsize : (verifyLink text).utf8ByteSize ≤ maxDeeplinkSize)
    (hhead : (trim text).head? = some '\x7b')
    (hread : X.fromStr "VerifyPayload" VerifyPayload.ofDocument text = .ok p)
    (hlimits : WithinLimits X p) :
    Deeplink.parse X (verifyLink text) = .ok (.scanChallenge text) := by
  have htext : trim text ≠ [] := by
    intro hempty
    rw [hempty] at hhead
    cases hhead
  rw [parse_scanChallenge_iff]
  exact ⟨hsize, verifyLinkUrl text, hurl, linkAction_verifyLinkUrl text,
    carriedText_verifyLinkUrl hb64 text, htext, p, hread, hlimits⟩

/-- The link of a document the crates know. -/
private theorem parse_linkCrates {doc : Json} {urls : List (String × Url)} {p : VerifyPayload}
    (hurls : ∀ u ∈ urls, u.1.toList.head? ≠ some 'p')
    (hsize : (verifyLink (flatText doc)).utf8ByteSize ≤ maxDeeplinkSize)
    (hhead : (trim (flatText doc)).head? = some '\x7b')
    (hread : VerifyPayload.ofDocument doc = some p)
    (hlimits : WithinLimits (linkCrates doc urls).toDocumentCrates p) :
    Deeplink.parse (linkCrates doc urls).toDocumentCrates (verifyLink (flatText doc)) =
      .ok (.scanChallenge (flatText doc)) := by
  refine parse_verifyLink rfl ?_ hsize hhead ?_ hlimits
  · -- no other URL they know is the link
    have hother : urls.find? (fun u => u.1 == verifyLink (flatText doc)) = none := by
      rw [List.find?_eq_none]
      intro u hu hsame
      refine hurls u hu ?_
      rw [eq_of_beq hsame]
      unfold verifyLink
      rw [String.toList_append]
      rfl
    unfold linkCrates sampleWallet
    simp only [List.find?_append, hother, Option.none_or, List.find?_cons, beq_self_eq_true]
  · rw [fromStr_ok_iff]
    refine ⟨doc, ?_, hread⟩
    unfold linkCrates
    rw [sampleWallet_parseDocument]

/-- A text that is not there is within any limit. -/
private theorem noText_fits : ∀ text ∈ (none : Option String), text.utf8ByteSize ≤ maxFieldLen := by
  intro text htext
  cases htext

/-- The payload of a complete challenge, and its link. -/
def briefPayload : VerifyPayload :=
  { challengeId := "c", rpChallenge := "r", cutoffDays := 1, verifyingKeyId := 1,
    submitSecret := "s", codeVerifier := none, expiresAt := some 9, verifyUrl := some "https://v.co",
    proofDirection := none }

def briefLinkCrates : WalletCrates Unit :=
  linkCrates briefChallenge.toDocument [(briefChallenge.verifyUrl, briefVerifyUrl)]

theorem accepted_iff_briefLink :
    Deeplink.parse briefLinkCrates.toDocumentCrates
        (verifyLink (flatText briefChallenge.toDocument)) =
          .ok (.scanChallenge (flatText briefChallenge.toDocument)) ∧
      (Accepted briefLinkCrates.toDocumentCrates (flatText briefChallenge.toDocument) ↔
        CompleteText briefLinkCrates.toDocumentCrates (flatText briefChallenge.toDocument)) := by
  have hdoc : briefLinkCrates.toDocumentCrates.parseDocument
      (flatText briefChallenge.toDocument) = .ok briefChallenge.toDocument := by
    unfold briefLinkCrates linkCrates
    rw [sampleWallet_parseDocument]
  have hhead : (trim (flatText briefChallenge.toDocument)).head? = some '\x7b' :=
    head?_trim_flatText _
  have hhttps : HttpsUrl briefLinkCrates.toDocumentCrates "https://v.co" := by
    refine ⟨briefVerifyUrl, ?_, rfl⟩
    unfold briefLinkCrates linkCrates sampleWallet briefChallenge
    simp only [List.cons_append, List.find?_cons, beq_self_eq_true]
  have hparse : Deeplink.parse briefLinkCrates.toDocumentCrates
      (verifyLink (flatText briefChallenge.toDocument)) =
        .ok (.scanChallenge (flatText briefChallenge.toDocument)) := by
    refine parse_linkCrates (p := briefPayload) ?_ ?_ hhead ?_ ?_
    · intro u hu
      rw [List.mem_singleton.1 hu]
      decide
    · decide +kernel
    · decide +kernel
    · refine ⟨by decide, by decide, by decide, noText_fits, ?_, noText_fits⟩
      intro url hurl
      injection hurl with hurl
      rw [← hurl]
      exact ⟨by decide, hhttps⟩
  refine ⟨hparse, accepted_iff _ _ _ hparse ⟨fun _ _ => hhead, fun items hitems => ?_⟩ ?_⟩
  · rw [hdoc] at hitems
    cases hitems
  · intro data hdata
    obtain ⟨doc, hdoc', hread⟩ := (fromStr_ok_iff ..).1 hdata
    rw [hdoc] at hdoc'
    injection hdoc' with hdoc'
    rw [← hdoc', ofDocument_toDocument] at hread
    injection hread with hread
    rw [← hread]
    exact ⟨flatText briefChallenge.toDocument, rfl, hdoc⟩

/-- A payload with the fields a link requires, and no others. -/
def barePayload : VerifyPayload :=
  { challengeId := "c", rpChallenge := "r", cutoffDays := 1, verifyingKeyId := 1,
    submitSecret := "s", codeVerifier := none, expiresAt := none, verifyUrl := none,
    proofDirection := none }

def bareFields : List (String × Json) :=
  [("challenge_id", .str "c"), ("rp_challenge", .str "r"), ("cutoff_days", .num "1"),
    ("verifying_key_id", .num "1"), ("submit_secret", .str "s")]

/-- A link with the fields a link requires is parsed, and its text does
    not even read as a challenge. -/
theorem parsed_link_not_accepted :
    Deeplink.parse (linkCrates (.obj bareFields) []).toDocumentCrates
        (verifyLink (flatText (.obj bareFields))) = .ok (.scanChallenge (flatText (.obj bareFields))) ∧
      (linkCrates (.obj bareFields) []).toDocumentCrates.fromStr "QrChallengePayload"
        QrChallengePayload.ofDocument (flatText (.obj bareFields)) = .error "missing field" ∧
      ¬ Accepted (linkCrates (.obj bareFields) []).toDocumentCrates (flatText (.obj bareFields)) := by
  have hfails : (linkCrates (.obj bareFields) []).toDocumentCrates.fromStr "QrChallengePayload"
      QrChallengePayload.ofDocument (flatText (.obj bareFields)) = .error "missing field" := by
    decide +kernel
  refine ⟨parse_linkCrates (p := barePayload) ?_ ?_ (head?_trim_flatText bareFields) ?_ ?_, hfails,
    fun haccepted => ?_⟩
  · intro u hu
    cases hu
  · decide +kernel
  · decide +kernel
  · refine ⟨by decide, by decide, by decide, noText_fits, ?_, noText_fits⟩
    intro url hurl
    cases hurl
  · obtain ⟨data, hdata, -⟩ := haccepted.reads
    rw [hfails] at hdata
    cases hdata

end ProviiSdk.Wallet
