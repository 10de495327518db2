/-
  ProviiSdk.Wallet.QrForms — one payload in the forms a QR code may have.

  A challenge comes as bare JSON or wrapped into one of two deep links,
  an attestation in a tagged envelope.  The decoder tells the forms apart
  by looking for text, before it parses anything, and the challenge id is
  extracted once more by a reader that knows one field only.

  Main results:
    * `attestation_decodes_iff` — which attestation envelopes decode.
    * `decode_wrapped` — wrapping does not change what a challenge is
      decoded to.
    * `extract_of_decode` — the extractor finds the id of a decoded
      challenge whose document is an object.
    * `challenge_forms_agree` — the forms and the extractor agree, but
      for arrays in a deep link.
-/

import ProviiSdk.Wallet.DeeplinkAgreement
import ProviiSdk.Wallet.MinimalFetch

namespace ProviiSdk.Wallet

open ProviiSdk.Core ProviiSdk.Ffi ProviiSdk.Check ProviiSdk.Text ProviiSdk.Wire

/-! ## §1. Attestation envelopes -/

/-- The text of an attestation envelope, and its document. -/
def envelopeText (d : String) : String :=
  "\x7b\"type\":\"attestation/v1\",\"data\":\"" ++ d ++ "\"\x7d"

def envelopeDocument (d : String) : Json :=
  .obj [("type", .str "attestation/v1"), ("data", .str d)]

/-- The characters of an envelope around its data. -/
private theorem toList_envelopeText (d : String) :
    (envelopeText d).toList =
      "\x7b\"type\":\"attestation/v1\",\"data\":".toList ++ '"' :: (d.toList ++ '"' :: ['\x7d']) := by
  have hopen : "\x7b\"type\":\"attestation/v1\",\"data\":\"".toList =
      "\x7b\"type\":\"attestation/v1\",\"data\":".toList ++ ['"'] := by decide
  have hclose : "\"\x7d".toList = ['"', '\x7d'] := by decide
  unfold envelopeText
  rw [String.toList_append, String.toList_append, hopen, hclose, List.append_assoc, List.append_assoc,
    List.singleton_append]

/-- The envelope starts as an object, and is no deep link. -/
private theorem head?_trim_envelopeText (d : String) :
    (trim (envelopeText d)).head? = some '\x7b' :=
  head?_trim (toList_envelopeText d) (by decide)

/-- The marker of a challenge is in the envelope exactly if it is in the
    data: it has no quote, and the rest of the envelope has no marker. -/
theorem contains_envelopeText (d : String) :
    contains "challenge_id" (envelopeText d) = contains "challenge_id" d := by
  unfold contains
  rw [decide_eq_decide, toList_envelopeText,
    infix_append_cons_iff_of_notMem '"' _ _ _ (by decide),
    infix_append_cons_iff_of_notMem '"' _ _ _ (by decide)]
  constructor
  · rintro (h | h | h)
    · exact absurd h (by decide)
    · exact h
    · exact absurd h (by decide)
  · intro h
    exact Or.inr (Or.inl h)

/-- **Which attestation envelopes decode**: those whose data does not
    have the marker of a challenge in it.  With the marker the envelope
    is taken for bare challenge JSON. -/
theorem attestation_decodes_iff (X : DocumentCrates) (d : String)
    (hsize : (envelopeText d).utf8ByteSize ≤ maxQrPayloadSize)
    (hparse : X.parseDocument (envelopeText d) = .ok (envelopeDocument d)) :
    decodePayload X (envelopeText d) = .ok (.attestation d) ↔ contains "challenge_id" d = false := by
  have hlink := deepLinkEncoded_of_brace (head?_trim_envelopeText d)
  have hbare := (isBareChallenge_of_brace (head?_trim_envelopeText d)).trans (contains_envelopeText d)
  cases hmarker : contains "challenge_id" d with
  | true =>
    -- whatever bare JSON decodes to, it is a challenge
    rw [decodePayload_of_bare hsize hlink (hbare.trans hmarker)]
    refine iff_of_false ?_ (by simp)
    simp only [bind_eq_ok_iff]
    rintro ⟨data, -, hdata⟩
    injection hdata with hdata
    cases hdata
  | false =>
    have hread : X.fromStr "QrPayload" QrPayload.ofDocument (envelopeText d) =
        .ok (.attestation d) := by
      rw [fromStr_ok_iff]
      exact ⟨_, hparse, rfl⟩
    rw [decodePayload_of_envelope hsize hlink (hbare.trans hmarker)]
    refine iff_of_true ?_ rfl
    unfold decodeEnvelope
    rw [hread, mapError_ok, ok_bind]
    rfl

/-- Crates that know the envelope of some data. -/
def envelopeCrates (d : String) : DocumentCrates :=
  (sampleWallet [envelopeDocument d] []).toDocumentCrates

theorem envelopeCrates_parseDocument (d : String) :
    (envelopeCrates d).parseDocument (envelopeText d) = .ok (envelopeDocument d) := by
  have hflat : flatText (envelopeDocument d) = "\x7b" ++ (quoted "type" ++ ":" ++
      quoted "attestation/v1" ++ "," ++ (quoted "data" ++ ":" ++ quoted d)) ++ "\x7d" := rfl
  have htext : flatText (envelopeDocument d) = envelopeText d := by
    rw [hflat, ← String.toList_inj]
    unfold quoted envelopeText
    simp only [String.toList_append, List.append_assoc]
    rfl
  unfold envelopeCrates
  rw [← htext, sampleWallet_parseDocument]

/-- The envelope of some data decodes. -/
theorem attestation_decodes_plain :
    decodePayload (envelopeCrates "AQID") (envelopeText "AQID") = .ok (.attestation "AQID") ↔
      contains "challenge_id" "AQID" = false :=
  attestation_decodes_iff _ "AQID" (by decide +kernel) (envelopeCrates_parseDocument "AQID")

/-- Data over the base64url alphabet with the marker in it is refused, as
    a challenge without its fields. -/
theorem attestation_with_marker_refused :
    decodePayload (envelopeCrates "challenge_id") (envelopeText "challenge_id") =
        .error minimalChallenge ∧
      ¬ ∀ (X : DocumentCrates) (d : String), (∀ c ∈ d.toList, Base64Url.isAlphabetChar c = true) →
        (envelopeText d).utf8ByteSize ≤ maxQrPayloadSize →
        X.parseDocument (envelopeText d) = .ok (envelopeDocument d) →
        decodePayload X (envelopeText d) = .ok (.attestation d) := by
  have hrefused : decodePayload (envelopeCrates "challenge_id") (envelopeText "challenge_id") =
      .error minimalChallenge := by decide +kernel
  have halphabet : "challenge_id".toList.all Base64Url.isAlphabetChar = true := by decide
  refine ⟨hrefused, fun hall => ?_⟩
  have hok := hall _ "challenge_id" (List.all_eq_true.1 halphabet) (by decide +kernel)
    (envelopeCrates_parseDocument "challenge_id")
  rw [hrefused] at hok
  cases hok

/-! ## §2. Wrapped challenges -/

/-- A text in a deep link: the prefix, and the text in base64url. -/
def wrapped (X : DocumentCrates) (linkPrefix j : String) : String :=
  linkPrefix ++ String.ofList (X.b64.encode (utf8 j))

/-- **Two outcomes of decoding are the same**: the same payload, or
    errors that are both the sentinel or both not, also to a caller who
    looks for the sentinel in their texts. -/
inductive SameOutcome : Except FfiError QrPayload → Except FfiError QrPayload → Prop where
  | decoded (payload : QrPayload) : SameOutcome (.ok payload) (.ok payload)
  | failed (e e' : FfiError) (hkind : e = minimalChallenge ↔ e' = minimalChallenge)
    (hsignal : CarriesSentinel e ↔ CarriesSentinel e') : SameOutcome (.error e) (.error e')

/-- A wrapped text is behind its prefix. -/
theorem deepLinkEncoded_wrapped (X : DocumentCrates) (linkPrefix j : String)
    (h : linkPrefix = customSchemeVerifyPrefix ∨ linkPrefix = httpsVerifyPrefix) :
    deepLinkEncoded (wrapped X linkPrefix j) = some (String.ofList (X.b64.encode (utf8 j))) := by
  unfold deepLinkEncoded wrapped
  rw [String.toList_append, String.toList_ofList]
  rcases h with rfl | rfl
  · rw [dropPrefix?_append]
  · -- the other prefix has another first letter
    have hother : (httpsVerifyPrefix.toList ++ X.b64.encode (utf8 j)).dropPrefix?
        customSchemeVerifyPrefix.toList = none := rfl
    rw [hother, dropPrefix?_append]
    rfl

/-- The text of a wrapped text is the text. -/
theorem minimalText_wrapped {X : DocumentCrates} (hempty : X.b64.encode [] = [])
    {linkPrefix j : String}
    (h : linkPrefix = customSchemeVerifyPrefix ∨ linkPrefix = httpsVerifyPrefix) (hj : j ≠ "") :
    minimalText X (wrapped X linkPrefix j) = .ok j := by
  rw [minimalText_link_ok_iff X (deepLinkEncoded_wrapped X linkPrefix j h)]
  refine ⟨fun hbody => hj ?_, utf8 j, ?_, ofUtf8_utf8 j⟩
  · -- only no bytes are encoded as nothing
    have hchars : X.b64.encode (utf8 j) = X.b64.encode [] := by
      rw [hempty, ← String.toList_ofList (l := X.b64.encode (utf8 j)), hbody]
      rfl
    have hbytes := X.b64.encode_injective hchars
    have hsize := utf8_length j
    rw [hbytes, List.length_nil] at hsize
    exact String.utf8ByteSize_eq_zero_iff.1 hsize.symm
  · rw [String.toList_ofList]
    exact X.b64.decode_encode (utf8 j)

/-- The complaints about one text in the two contexts are of one kind. -/
private theorem sameOutcome_complaints (e : String) :
    SameOutcome (.error (.invalidFormat ("Failed to parse challenge: " ++ e)))
      (.error (.invalidFormat ("Failed to parse challenge JSON: " ++ e))) := by
  -- neither is the sentinel: they start with another letter
  have hnot : ∀ context : String, context.toList.head? = some 'F' →
      FfiError.invalidFormat (context ++ e) ≠ minimalChallenge := by
    intro context hhead heq
    injection heq with heq
    have hfirst := congrArg (fun text => text.toList.head?) heq
    simp only [String.toList_append, List.head?_append, hhead, Option.some_or] at hfirst
    exact absurd hfirst (by decide)
  refine .failed _ _ (iff_of_false (hnot _ rfl) (hnot _ rfl)) ?_
  rw [carriesSentinel_invalidFormat _ _ (by decide), carriesSentinel_invalidFormat _ _ (by decide)]

/-- One text, decoded from a link and bare, has one outcome. -/
theorem challengeOfText_sameOutcome (X : DocumentCrates) (text : String) :
    SameOutcome
      (challengeOfText X "Failed to parse challenge: " text >>= fun data =>
        pure (.verificationChallenge data))
      (challengeOfText X "Failed to parse challenge JSON: " text >>= fun data =>
        pure (.verificationChallenge data)) := by
  unfold challengeOfText
  cases isMinimal text with
  | true => exact .failed _ _ Iff.rfl Iff.rfl
  | false =>
    rw [require_pos rfl, ok_bind, ok_bind]
    cases X.fromStr "QrChallengePayload" QrChallengePayload.ofDocument text with
    | error e => exact sameOutcome_complaints e
    | ok data =>
      rw [mapError_ok, mapError_ok, ok_bind]
      cases validateFieldLengths X data with
      | error e => exact .failed _ _ Iff.rfl Iff.rfl
      | ok u => exact .decoded _

/-- **Wrapping does not change a challenge**: a text that starts as an
    object and has the marker in it has the same outcome behind either
    prefix as it has bare. -/
theorem decode_wrapped {X : DocumentCrates} (hempty : X.b64.encode [] = []) {linkPrefix j : String}
    (hscheme : linkPrefix = customSchemeVerifyPrefix ∨ linkPrefix = httpsVerifyPrefix)
    (hbrace : j.toList.head? = some '\x7b') (hnamed : contains "challenge_id" j = true)
    (hsize : j.utf8ByteSize ≤ maxQrPayloadSize)
    (hsize' : (wrapped X linkPrefix j).utf8ByteSize ≤ maxQrPayloadSize) :
    SameOutcome (decodePayload X (wrapped X linkPrefix j)) (decodePayload X j) := by
  obtain ⟨rest, hj⟩ := List.head?_eq_some_iff.1 hbrace
  have hhead : (trim j).head? = some '\x7b' := head?_trim hj (by decide)
  have hbare := (isBareChallenge_of_brace hhead).trans hnamed
  have hne : j ≠ "" := by
    rintro rfl
    cases hbrace
  rw [decodePayload_of_bare hsize (deepLinkEncoded_of_brace hhead) hbare,
    decodePayload_of_link hsize' (deepLinkEncoded_wrapped X linkPrefix j hscheme)
      (minimalText_wrapped hempty hscheme hne)]
  exact challengeOfText_sameOutcome X j

/-! ## §3. The extractor -/

/-- A challenge's document names its id, once. -/
theorem minimalChallengeId_of_challenge {fields : List (String × Json)} {data : QrChallengePayload}
    (h : QrChallengePayload.ofDocument (.obj fields) = some data) :
    minimalChallengeId (.obj fields) = some data.challengeId := by
  unfold QrChallengePayload.ofDocument at h
  simp only [Option.bind_eq_bind, Option.bind_eq_some_iff] at h
  obtain ⟨field, hslots, id, hid, _, _, _, _, _, _, _, _, _, _, _, _, _, _, _, _, hdata⟩ := h
  injection hdata with hdata
  rw [← hdata]
  simp only [slots] at hslots
  split at hslots
  next honce =>
    injection hslots with hslots
    rw [Bool.and_eq_true] at honce
    have hone : ["challenge_id"].all (atMostOnce fields) = true := by
      rw [List.all_cons, List.all_nil, Bool.and_true]
      exact List.all_eq_true.1 honce.1 _ (by decide)
    rw [← hslots] at hid
    unfold minimalChallengeId
    rw [slots_obj _ _ hone]
    exact hid
  next => cases hslots

/-- The extractor looks at one name only. -/
theorem minimalChallengeId_congr {fields fields' : List (String × Json)}
    (h : membersOf fields' "challenge_id" = membersOf fields "challenge_id") :
    minimalChallengeId (.obj fields') = minimalChallengeId (.obj fields) := by
  have hname : ∀ name ∈ ["challenge_id"], membersOf fields' name = membersOf fields name := by
    intro name hname
    rw [List.mem_singleton.1 hname]
    exact h
  unfold minimalChallengeId
  rcases slots_congr hname with ⟨hnone, hnone'⟩ | ⟨field, field', hslots, hslots', hsame⟩
  · rw [hnone, hnone']
  · rw [hslots, hslots']
    simp only [Option.bind_eq_bind, Option.bind_some, hsame _ (List.mem_singleton_self _)]

/-- A challenge may be an array of its fields; the extractor's struct has
    one field, and takes no such array. -/
theorem minimalChallengeId_of_array {items : List Json} {data : QrChallengePayload}
    (h : QrChallengePayload.ofDocument (.arr items) = some data) :
    minimalChallengeId (.arr items) = none := by
  unfold QrChallengePayload.ofDocument at h
  simp only [Option.bind_eq_bind, Option.bind_eq_some_iff] at h
  obtain ⟨field, hslots, -, -, rp, hrp, -⟩ := h
  obtain ⟨v, hv, -⟩ := (required_eq_some_iff ..).1 hrp
  -- there is an element in the place of the second field
  have hlong : ¬ items.length ≤ 1 := by
    intro hshort
    simp only [slots] at hslots
    split at hslots
    next =>
      injection hslots with hslots
      have hsecond : items[qrChallengeFields.idxOf "rp_challenge"]? = none :=
        List.getElem?_eq_none hshort
      rw [← hslots] at hv
      simp only [hsecond] at hv
      cases hv
    next => cases hslots
  unfold minimalChallengeId
  simp only [slots, List.length_singleton, if_neg hlong]
  rfl

/-- **The property** of a content: if it is decoded to a challenge, its
    id is extracted. -/
def Extracts (X : DocumentCrates) (q : String) : Prop :=
  ∀ data, decodePayload X q = .ok (.verificationChallenge data) →
    extractChallengeIdFromQr X q = .ok data.challengeId

/-- What it fails for: a deep link that carries the fields of a valid
    challenge as an array. -/
def ArrayLink (X : DocumentCrates) (q : String) : Prop :=
  q.utf8ByteSize ≤ maxQrPayloadSize ∧ (deepLinkEncoded q).isSome = true ∧
    ∃ text items data, minimalText X q = .ok text ∧ isMinimal text = false ∧
      X.parseDocument text = .ok (.arr items) ∧
      QrChallengePayload.ofDocument (.arr items) = some data ∧ ValidFields X data

/-- The extractor finds what the decoder found in an object. -/
theorem extract_of_decode {X : DocumentCrates} {q : String} {data : QrChallengePayload}
    (hstart : StartsAsJson X q)
    (hdecode : decodePayload X q = .ok (.verificationChallenge data)) (harray : ¬ ArrayLink X q) :
    extractChallengeIdFromQr X q = .ok data.challengeId := by
  obtain ⟨hsize, h⟩ := (decodePayload_challenge_iff X q data).1 hdecode
  rw [extractChallengeId_ok_iff]
  refine ⟨hsize, ?_⟩
  -- a challenge is read from an object or an array
  have hshape : ∀ doc, QrChallengePayload.ofDocument doc = some data →
      (∃ fields, doc = .obj fields) ∨ ∃ items, doc = .arr items := by
    intro doc hread
    cases doc with
    | obj fields => exact Or.inl ⟨fields, rfl⟩
    | arr items => exact Or.inr ⟨items, rfl⟩
    | null | bool | num | str => cases hread
  cases h with
  | link text doc hlink htext hfull hdoc hread hvalid =>
    refine ⟨text, htext, (fromStr_ok_iff ..).2 ⟨doc, hdoc, ?_⟩⟩
    rcases hshape doc hread with ⟨fields, rfl⟩ | ⟨items, rfl⟩
    · exact minimalChallengeId_of_challenge hread
    · exact absurd ⟨hsize, hlink, text, items, data, htext, hfull, hdoc, hread, hvalid⟩ harray
  | bare doc hlink hbare hfull hdoc hread hvalid =>
    refine ⟨q, minimalText_of_no_link X hlink, (fromStr_ok_iff ..).2 ⟨doc, hdoc, ?_⟩⟩
    rcases hshape doc hread with ⟨fields, rfl⟩ | ⟨items, rfl⟩
    · exact minimalChallengeId_of_challenge hread
    · -- bare challenge JSON starts as an object
      unfold isBareChallenge at hbare
      rw [hstart.array items hdoc] at hbare
      cases hbare
  | tagged fields tag hlink hbare hdoc htag hread hvalid =>
    refine ⟨q, minimalText_of_no_link X hlink, (fromStr_ok_iff ..).2 ⟨_, hdoc, ?_⟩⟩
    rw [← minimalChallengeId_congr (membersOf_filter_ne fields "type" "challenge_id" (by decide))]
    exact minimalChallengeId_of_challenge hread

/-- **Exactly when a decoded id is extracted.** -/
theorem extracts_iff {X : DocumentCrates} {q : String} (hstart : StartsAsJson X q) :
    Extracts X q ↔ ¬ ArrayLink X q := by
  constructor
  · rintro hextracts ⟨hsize, hlink, text, items, data, htext, hfull, hdoc, hread, hvalid⟩
    have hdecode := (decodePayload_challenge_iff X q data).2
      ⟨hsize, .link text _ hlink htext hfull hdoc hread hvalid⟩
    obtain ⟨-, text', htext', hid⟩ := (extractChallengeId_ok_iff ..).1 (hextracts data hdecode)
    obtain ⟨doc', hdoc', hid⟩ := (fromStr_ok_iff ..).1 hid
    rw [htext] at htext'
    injection htext' with htext'
    rw [← htext', hdoc] at hdoc'
    injection hdoc' with hdoc'
    rw [← hdoc', minimalChallengeId_of_array hread] at hid
    cases hid
  · intro harray data hdecode
    exact extract_of_decode hstart hdecode harray

/-! ## §4. The forms agree -/

/-- **One challenge in its forms.**  A challenge text that starts as an
    object and has the marker has the same outcome bare and behind either
    prefix, within the size limit; and a content that is decoded to a
    challenge has its id extracted, exactly if it is no deep link that
    carries the challenge as an array. -/
theorem challenge_forms_agree (X : DocumentCrates) (hempty : X.b64.encode [] = []) :
    (∀ j, j.toList.head? = some '\x7b' → contains "challenge_id" j = true →
      j.utf8ByteSize ≤ maxQrPayloadSize →
      (wrapped X customSchemeVerifyPrefix j).utf8ByteSize ≤ maxQrPayloadSize →
      (wrapped X httpsVerifyPrefix j).utf8ByteSize ≤ maxQrPayloadSize →
      SameOutcome (decodePayload X (wrapped X customSchemeVerifyPrefix j)) (decodePayload X j) ∧
        SameOutcome (decodePayload X (wrapped X httpsVerifyPrefix j)) (decodePayload X j)) ∧
      ∀ q, StartsAsJson X q → (Extracts X q ↔ ¬ ArrayLink X q) := by
  refine ⟨fun j hbrace hnamed hsize hcustom hhttps => ⟨?_, ?_⟩, fun q hstart => extracts_iff hstart⟩
  · exact decode_wrapped hempty (Or.inl rfl) hbrace hnamed hsize hcustom
  · exact decode_wrapped hempty (Or.inr rfl) hbrace hnamed hsize hhttps

/-- A challenge, bare and wrapped. -/
theorem challenge_forms_agree_brief :
    SameOutcome
        (decodePayload briefCrates.toDocumentCrates
          (wrapped briefCrates.toDocumentCrates httpsVerifyPrefix (flatText briefChallenge.toDocument)))
        (decodePayload briefCrates.toDocumentCrates (flatText briefChallenge.toDocument)) ∧
      (Extracts briefCrates.toDocumentCrates (flatText briefChallenge.toDocument) ↔
        ¬ ArrayLink briefCrates.toDocumentCrates (flatText briefChallenge.toDocument)) := by
  obtain ⟨hforms, hextracts⟩ := challenge_forms_agree briefCrates.toDocumentCrates rfl
  refine ⟨(hforms _ (by decide +kernel) (by decide +kernel) (by decide +kernel) (by decide +kernel)
    (by decide +kernel)).2, hextracts _ ⟨fun fields _ => head?_trim_flatText _, fun items hdoc => ?_⟩⟩
  rw [briefCrates_parseDocument] at hdoc
  cases hdoc

/-- The fields of a challenge as an array, and its text. -/
def challengeItems : List Json :=
  [.str "c", .str "rp_challenge", .num "1", .num "1", .str "s", .num "9", .str "https://v.co", .null]

def challengeItemsText : String := "[" ++ ",".intercalate (challengeItems.map leafText) ++ "]"

/-- Crates that know the array and its URL. -/
def itemsCrates : DocumentCrates :=
  { (sampleWallet [] [("https://v.co", briefVerifyUrl)]).toDocumentCrates with
    parseDocument := fun text =>
      if text = challengeItemsText then .ok (.arr challengeItems) else .error "expected value" }

theorem itemsCrates_parseDocument {text : String} (h : text ≠ challengeItemsText) :
    itemsCrates.parseDocument text = .error "expected value" := by
  unfold itemsCrates
  simp only [if_neg h]

/-- **A deep link is decoded whose id is not extracted**: it carries the
    fields of a challenge as an array. -/
theorem array_link_not_extracted :
    ¬ ∀ (X : DocumentCrates) (q : String), X.b64.encode [] = [] → StartsAsJson X q →
      Extracts X q := by
  intro hall
  have hlink := deepLinkEncoded_wrapped itemsCrates customSchemeVerifyPrefix challengeItemsText
    (Or.inl rfl)
  have htext : minimalText itemsCrates (wrapped itemsCrates customSchemeVerifyPrefix
      challengeItemsText) = .ok challengeItemsText :=
    minimalText_wrapped rfl (Or.inl rfl) (by decide +kernel)
  have hsize : (wrapped itemsCrates customSchemeVerifyPrefix challengeItemsText).utf8ByteSize ≤
      maxQrPayloadSize := by decide +kernel
  have hread : challengeOfText itemsCrates "Failed to parse challenge: " challengeItemsText =
      .ok { briefChallenge with rpChallenge := "rp_challenge" } := by decide +kernel
  have hdecode : decodePayload itemsCrates
      (wrapped itemsCrates customSchemeVerifyPrefix challengeItemsText) =
        .ok (.verificationChallenge { briefChallenge with rpChallenge := "rp_challenge" }) := by
    rw [decodePayload_of_link hsize hlink htext, hread, ok_bind]
    rfl
  have hfails : extractChallengeIdFromQr itemsCrates
      (wrapped itemsCrates customSchemeVerifyPrefix challengeItemsText) =
        .error (.invalidFormat "missing field") := by
    unfold extractChallengeIdFromQr checkQrSize
    rw [require_pos hsize, ok_bind, htext, ok_bind]
    decide +kernel
  have hother : wrapped itemsCrates customSchemeVerifyPrefix challengeItemsText ≠
      challengeItemsText := by
    intro hsame
    have hnone : deepLinkEncoded challengeItemsText = none := by decide +kernel
    rw [hsame, hnone] at hlink
    cases hlink
  have hnot := itemsCrates_parseDocument hother
  have hextracts := hall itemsCrates (wrapped itemsCrates customSchemeVerifyPrefix challengeItemsText)
    rfl ⟨fun fields h => ?_, fun items h => ?_⟩ _ hdecode
  · rw [hfails] at hextracts
    cases hextracts
  · rw [hnot] at h
    cases h
  · rw [hnot] at h
    cases h

end ProviiSdk.Wallet
