/-
  ProviiSdk.Wallet.MinimalFetch — which codes make the wallet fetch.

  A minimal challenge names a challenge and nothing else, and the wallet
  fetches the rest from the verifier.  The decoder finds minimality by a
  substring test on the raw text and reports it by a sentinel; the wallet
  looks for the sentinel in the text of whatever error it gets.  So a
  complaint that quotes the sentinel is taken for it, and a key that is
  spelled with an escape is not seen.  Behind the decoder the transport
  takes the URL apart before it asks anybody.

  Main results:
    * `parseQrCode_signals_iff` — which errors carry the sentinel.
    * `contactsVerifier_iff` — which codes make the wallet fetch.
    * `fetched_iff_minimal` — when these are the minimal ones.
-/

import ProviiSdk.Ffi.ChallengeId
import ProviiSdk.Wallet.Sample

namespace ProviiSdk.Wallet

open ProviiSdk.Core ProviiSdk.Ffi ProviiSdk.Check ProviiSdk.Text ProviiSdk.Wire
open ProviiSdk.Ffi.BaseUrl (parseUrlForH3)

/-! ## §1. The property -/

/-- **Is the verifier contacted?**  It is if what the other side of the
    transport answers makes a difference. -/
def ContactsVerifier (X : DocumentCrates) (config : WalletConfig) (qrContent : String) : Prop :=
  ∃ transport transport' : Transport,
    parseQrPayloadInternal X (transport.network X) config qrContent ≠
      parseQrPayloadInternal X (transport'.network X) config qrContent

/-- The keys that a minimal challenge has not. -/
def fullKeys : List String := ["rp_challenge", "submit_secret", "cutoff_days"]

/-- **A minimal challenge**: the content, behind its base64url if it is a
    deep link, is a JSON object that names a UUID as its challenge, once,
    and has none of three keys. -/
def MinimalContent (X : DocumentCrates) (qrContent : String) : Prop :=
  ∃ text fields id, minimalText X qrContent = .ok text ∧ X.parseDocument text = .ok (.obj fields) ∧
    (fields.filter fun f => f.1 == "challenge_id") = [("challenge_id", .str id)] ∧ UuidForm id ∧
    ∀ f ∈ fields, f.1 ∉ fullKeys

/-! ## §2. What goes wrong -/

/-- Is the content read as challenge JSON? -/
def isChallengeText (qrContent : String) : Bool :=
  (deepLinkEncoded qrContent).isSome || isBareChallenge qrContent

/-- A text in braces is if it has the marker. -/
theorem isChallengeText_of_brace {text : String} (hbrace : (trim text).head? = some '\x7b') :
    isChallengeText text = contains "challenge_id" text := by
  unfold isChallengeText
  rw [deepLinkEncoded_of_brace hbrace, isBareChallenge_of_brace hbrace]
  rfl

/-- The substring test finds none of the three keys in the text. -/
def Marked (X : DocumentCrates) (qrContent : String) : Prop :=
  isChallengeText qrContent = true ∧
    ∃ text, minimalText X qrContent = .ok text ∧ isMinimal text = true

/-- What the validator or the writer says against a challenge. -/
def dataComplaint (X : DocumentCrates) (data : QrChallengePayload) : Option String :=
  match data.validateFieldLengths X with
  | .error e => some e
  | .ok () =>
    match X.writeDocument data.toDocument with
    | .error e => some e
    | .ok _ => none

/-- What the reader, the validator or the writer says against a text that
    is read as a challenge. -/
def challengeComplaint (X : DocumentCrates) (text : String) : Option String :=
  match X.fromStr "QrChallengePayload" QrChallengePayload.ofDocument text with
  | .error e => some e
  | .ok data => dataComplaint X data

/-- And against one that is read as an envelope. -/
def envelopeComplaint (X : DocumentCrates) (text : String) : Option String :=
  match X.fromStr "QrPayload" QrPayload.ofDocument text with
  | .error e => some e
  | .ok (.verificationChallenge data) => dataComplaint X data
  | .ok (.attestation _) => none

/-- What is said against the text of a content. -/
def complaint (X : DocumentCrates) (qrContent text : String) : Option String :=
  if isChallengeText qrContent = true then challengeComplaint X text else envelopeComplaint X text

/-- The text of the sentinel. -/
def sentinel : String := "MINIMAL_CHALLENGE"

/-- A complaint about the content quotes the sentinel. -/
def Injected (X : DocumentCrates) (qrContent : String) : Prop :=
  ∃ text msg, minimalText X qrContent = .ok text ∧ complaint X qrContent text = some msg ∧
    contains sentinel msg = true

/-- The content gives a UUID in the place of the challenge id: as a
    member of an object, or as the only element of an array. -/
def NamesUuid (X : DocumentCrates) (qrContent id : String) : Prop :=
  ∃ text, minimalText X qrContent = .ok text ∧
    X.fromStr "MinimalChallenge" minimalChallengeId text = .ok id ∧ UuidForm id

/-- Where the wallet asks for a challenge. -/
def detailsUrl (config : WalletConfig) (challengeId : String) : String :=
  config.verifierApiUrl ++ "/v1/challenge/" ++ challengeId ++ "/details"

/-- The content gives a UUID, and the URL for that is one that the
    transport is asked for. -/
def NamesDialled (X : DocumentCrates) (config : WalletConfig) (qrContent : String) : Prop :=
  ∃ id, NamesUuid X qrContent id ∧ Dialled X (detailsUrl config id)

/-- The five ways in which a content is misjudged. -/
inductive Misjudged (X : DocumentCrates) (config : WalletConfig) (qrContent : String) : Prop where
  /-- a minimal challenge in too many bytes -/
  | tooLong (h : MinimalContent X qrContent) (hsize : ¬ qrContent.utf8ByteSize ≤ maxQrPayloadSize)
  /-- a minimal challenge whose text has one of the key names all the
      same, or is not taken for challenge JSON -/
  | unmarked (h : MinimalContent X qrContent) (hmark : ¬ Marked X qrContent)
    (hinjected : ¬ Injected X qrContent)
  /-- a minimal challenge for which the configured verifier has no HTTPS
      URL with a host -/
  | undialled (h : MinimalContent X qrContent) (id : String) (hid : NamesUuid X qrContent id)
    (hurl : ¬ Dialled X (detailsUrl config id))
  /-- another content that names a UUID, and whose text has none of the
      key names: its keys are spelled with escapes, or it is an array -/
  | marked (h : NamesDialled X config qrContent) (hminimal : ¬ MinimalContent X qrContent)
    (hsize : qrContent.utf8ByteSize ≤ maxQrPayloadSize) (hmark : Marked X qrContent)
  /-- another content that names a UUID, and about which a complaint
      quotes the sentinel -/
  | injected (h : NamesDialled X config qrContent) (hminimal : ¬ MinimalContent X qrContent)
    (hsize : qrContent.utf8ByteSize ≤ maxQrPayloadSize) (hmark : ¬ Marked X qrContent)
    (hinjected : Injected X qrContent)

/-! ## §3. The challenge id -/

/-- A minimal challenge names its UUID. -/
theorem namesUuid_of_minimal {X : DocumentCrates} {qrContent : String}
    (h : MinimalContent X qrContent) : ∃ id, NamesUuid X qrContent id := by
  obtain ⟨text, fields, id, htext, hdoc, hone, huuid, -⟩ := h
  refine ⟨id, text, htext, ?_, huuid⟩
  rw [fromStr_ok_iff]
  refine ⟨_, hdoc, ?_⟩
  have honce : ["challenge_id"].all (atMostOnce fields) = true := by
    unfold atMostOnce
    simp only [List.all_cons, List.all_nil, hone, List.length_singleton, Nat.le_refl,
      decide_true, Bool.and_true]
  have hfind : (fields.find? fun f => f.1 == "challenge_id") = some ("challenge_id", .str id) := by
    rw [← List.head?_filter, hone]
    rfl
  unfold minimalChallengeId
  rw [slots_obj _ _ honce]
  simp only [Option.bind_eq_bind, Option.bind_some, hfind]
  rfl

/-- A content names one UUID at most. -/
theorem namesUuid_unique {X : DocumentCrates} {qrContent id id' : String}
    (h : NamesUuid X qrContent id) (h' : NamesUuid X qrContent id') : id = id' := by
  obtain ⟨text, htext, hread, -⟩ := h
  obtain ⟨text', htext', hread', -⟩ := h'
  rw [htext] at htext'
  injection htext' with htext'
  rw [← htext', hread] at hread'
  injection hread'

/-! ## §4. Which errors carry the sentinel -/

/-- The text of the error has the sentinel in it. -/
def CarriesSentinel (e : FfiError) : Prop := contains "MINIMAL_CHALLENGE" e.display = true

/-- Text in front of a message hides no sentinel and completes none. -/
theorem contains_sentinel_append (context msg : String) (h : 'M' ∉ context.toList) :
    contains sentinel (context ++ msg) = contains sentinel msg := by
  unfold contains
  rw [decide_eq_decide, String.toList_append]
  exact infix_append_iff_of_head_notMem 'M' "INIMAL_CHALLENGE".toList _ _ h

theorem carriesSentinel_invalidFormat (context msg : String) (h : 'M' ∉ context.toList) :
    CarriesSentinel (.invalidFormat (context ++ msg)) ↔ contains sentinel msg = true := by
  show contains sentinel ("Invalid format: " ++ (context ++ msg)) = true ↔ _
  rw [contains_sentinel_append _ _ (by decide), contains_sentinel_append _ _ h]

theorem carriesSentinel_plain (msg : String) :
    CarriesSentinel (.invalidFormat msg) ↔ contains sentinel msg = true := by
  show contains sentinel ("Invalid format: " ++ msg) = true ↔ _
  rw [contains_sentinel_append _ _ (by decide)]

/-- A challenge that was read is refused with the sentinel exactly if the
    complaint about it quotes it. -/
theorem dataComplaint_signals_iff (X : DocumentCrates) (data : QrChallengePayload) :
    FailsWith CarriesSentinel (do
        Ffi.validateFieldLengths X data
        payloadText X (.verificationChallenge data)) ↔
      ∃ msg, dataComplaint X data = some msg ∧ contains sentinel msg = true := by
  have hpayload : payloadText X (.verificationChallenge data) =
      (X.writeDocument data.toDocument).mapError .generic := rfl
  unfold Ffi.validateFieldLengths dataComplaint
  rw [hpayload]
  cases data.validateFieldLengths X with
  | error e =>
    rw [mapError_error, error_bind, failsWith_error, carriesSentinel_plain]
    simp only [Option.some.injEq, exists_eq_left']
  | ok u =>
    rw [mapError_ok, ok_bind]
    cases X.writeDocument data.toDocument with
    | error e =>
      rw [mapError_error, failsWith_error]
      simp only [Option.some.injEq, exists_eq_left']
      exact Iff.rfl
    | ok json =>
      rw [mapError_ok, failsWith_ok]
      simp only [reduceCtorEq, false_and, exists_false]

/-- Challenge JSON is refused with the sentinel exactly if it is taken
    for minimal, or the complaint about it quotes the sentinel. -/
theorem challengeText_signals_iff (X : DocumentCrates) (context text : String)
    (h : 'M' ∉ context.toList) :
    FailsWith CarriesSentinel (do
        let data ← challengeOfText X context text
        payloadText X (.verificationChallenge data)) ↔
      isMinimal text = true ∨
        ∃ msg, challengeComplaint X text = some msg ∧ contains sentinel msg = true := by
  unfold challengeOfText
  cases hminimal : isMinimal text with
  | true =>
    refine iff_of_true ?_ (Or.inl rfl)
    refine ⟨minimalChallenge, rfl, ?_⟩
    show contains sentinel _ = true
    decide
  | false =>
    rw [require_pos rfl, ok_bind]
    simp only [Bool.false_eq_true, false_or]
    unfold challengeComplaint
    cases X.fromStr "QrChallengePayload" QrChallengePayload.ofDocument text with
    | error e =>
      rw [mapError_error, error_bind, error_bind, failsWith_error,
        carriesSentinel_invalidFormat _ _ h]
      simp only [Option.some.injEq, exists_eq_left']
    | ok data =>
      simp only [← dataComplaint_signals_iff, mapError_ok, ok_bind, bind_assoc, pure_bind]

/-- An envelope is refused with the sentinel exactly if the complaint
    about it quotes it. -/
theorem envelope_signals_iff (X : DocumentCrates) (text : String) :
    FailsWith CarriesSentinel (do
        let payload ← decodeEnvelope X text
        payloadText X payload) ↔
      ∃ msg, envelopeComplaint X text = some msg ∧ contains sentinel msg = true := by
  unfold decodeEnvelope envelopeComplaint
  cases X.fromStr "QrPayload" QrPayload.ofDocument text with
  | error e =>
    rw [mapError_error, error_bind, error_bind, failsWith_error, carriesSentinel_plain]
    simp only [Option.some.injEq, exists_eq_left']
  | ok payload =>
    rw [mapError_ok, ok_bind]
    cases payload with
    | verificationChallenge data =>
      simp only [← dataComplaint_signals_iff, bind_assoc, pure_bind]
      exact Iff.rfl
    | attestation data =>
      refine iff_of_false ?_ ?_
      · rintro ⟨e, he, -⟩
        cases he
      · rintro ⟨msg, hmsg, -⟩
        cases hmsg

/-- **Which errors carry the sentinel**, for a content that is short
    enough and is text behind its base64url. -/
theorem parseQrCode_signals_iff {X : DocumentCrates} {qrContent text : String}
    (hsize : qrContent.utf8ByteSize ≤ maxQrPayloadSize)
    (htext : minimalText X qrContent = .ok text) :
    FailsWith CarriesSentinel (parseQrCode X qrContent) ↔
      Marked X qrContent ∨ Injected X qrContent := by
  have hmarked : Marked X qrContent ↔ isChallengeText qrContent = true ∧ isMinimal text = true := by
    unfold Marked
    simp only [htext, Except.ok.injEq, exists_eq_left']
  have hinjected : Injected X qrContent ↔
      ∃ msg, complaint X qrContent text = some msg ∧ contains sentinel msg = true := by
    unfold Injected
    simp only [htext, Except.ok.injEq, exists_and_left, exists_eq_left']
  rw [hmarked, hinjected]
  unfold parseQrCode complaint isChallengeText
  cases hlink : deepLinkEncoded qrContent with
  | some encoded =>
    rw [decodePayload_of_link hsize hlink htext]
    simp only [bind_assoc, pure_bind, Option.isSome_some, Bool.true_or, true_and, if_true]
    exact challengeText_signals_iff X _ text (by decide)
  | none =>
    rw [minimalText_of_no_link X hlink] at htext
    injection htext with htext
    subst htext
    simp only [Option.isSome_none, Bool.false_or]
    cases hbare : isBareChallenge qrContent with
    | true =>
      rw [decodePayload_of_bare hsize hlink hbare]
      simp only [bind_assoc, pure_bind, if_true, true_and]
      exact challengeText_signals_iff X _ qrContent (by decide)
    | false =>
      rw [decodePayload_of_envelope hsize hlink hbare]
      simp only [Bool.false_eq_true, if_false, false_and, false_or]
      exact envelope_signals_iff X qrContent

/-! ## §5. Which codes make the wallet fetch -/

/-- A challenge id is extracted from a content that is short enough and
    names it. -/
theorem extractChallengeId_ok_iff (X : DocumentCrates) (qrContent id : String) :
    extractChallengeIdFromQr X qrContent = .ok id ↔
      qrContent.utf8ByteSize ≤ maxQrPayloadSize ∧ ∃ text, minimalText X qrContent = .ok text ∧
        X.fromStr "MinimalChallenge" minimalChallengeId text = .ok id := by
  unfold extractChallengeIdFromQr checkQrSize
  simp only [bind_eq_ok_iff, require_eq_ok_iff, mapError_eq_ok_iff, exists_const]

/-- What does not look at the transport contacts nobody. -/
theorem not_contacts_of_const {α : Type} {f : Transport → α}
    (h : ∀ transport transport', f transport = f transport') :
    ¬ ∃ transport transport' : Transport, f transport ≠ f transport' := by
  intro hcontacts
  obtain ⟨transport, transport', hne⟩ := hcontacts
  exact hne (h transport transport')

/-- A transport on which every request fails with one text. -/
def Transport.failing (msg : String) : Transport where
  get _ _ _ _ := .error (.network msg)
  post _ _ _ _ := .error (.network msg)

/-- A GET of an HTTPS URL with a host is the transport's to answer. -/
theorem fetch_failing {X : DocumentCrates} {url : String} (h : Dialled X url) (msg : String) :
    ((Transport.failing msg).network X).fetch url = .error (.network msg) := by
  obtain ⟨r, hr⟩ := (parseUrlForH3_isOk_iff X url).2 h
  unfold Network.fetch Transport.network
  simp only [hr, ok_bind]
  rfl

/-- Any other URL is refused whatever the transport. -/
theorem fetch_refused {X : DocumentCrates} {url : String} (h : ¬ Dialled X url)
    (transport transport' : Transport) :
    (transport.network X).fetch url = (transport'.network X).fetch url := by
  rw [← parseUrlForH3_isOk_iff] at h
  unfold Network.fetch Transport.network
  simp only [ok_bind]
  cases hr : parseUrlForH3 (parseChars X) url.toList with
  | error e => rfl
  | ok r => exact absurd ⟨r, hr⟩ h

/-- Fetching a challenge makes a difference once its id is extracted, is
    a UUID, and has a URL that the transport is asked for, and only
    then. -/
theorem fetchMinimalChallenge_contacts_iff (X : DocumentCrates) (config : WalletConfig)
    (qrContent : String) :
    (∃ transport transport' : Transport,
      fetchMinimalChallenge X (transport.network X) config qrContent ≠
        fetchMinimalChallenge X (transport'.network X) config qrContent) ↔
      ∃ id, extractChallengeIdFromQr X qrContent = .ok id ∧ UuidForm id ∧
        Dialled X (detailsUrl config id) := by
  unfold fetchMinimalChallenge
  cases hid : extractChallengeIdFromQr X qrContent with
  | error e =>
    refine iff_of_false (not_contacts_of_const fun _ _ => rfl) ?_
    rintro ⟨id, h, -⟩
    cases h
  | ok id =>
    simp only [ok_bind, Except.ok.injEq, exists_eq_left', ← validateChallengeIdFormat_ok_iff]
    cases hcheck : validateChallengeIdFormat id with
    | error e =>
      refine iff_of_false (not_contacts_of_const fun _ _ => rfl) ?_
      rintro ⟨h, -⟩
      cases h
    | ok u =>
      simp only [ok_bind, true_and]
      show (∃ transport transport' : Transport,
        ((transport.network X).fetch (detailsUrl config id) >>= readChallenge X "") ≠
          ((transport'.network X).fetch (detailsUrl config id) >>= readChallenge X "")) ↔ _
      by_cases hurl : Dialled X (detailsUrl config id)
      · -- two transports that fail with different texts
        refine iff_of_true ⟨.failing "a", .failing "b", ?_⟩ hurl
        rw [fetch_failing hurl, fetch_failing hurl, error_bind, error_bind]
        decide
      · refine iff_of_false (not_contacts_of_const fun transport transport' => ?_) hurl
        rw [fetch_refused hurl transport transport']

/-- **Which codes make the wallet fetch**: those that are short enough,
    name a UUID with an HTTPS URL, and are refused with the sentinel. -/
theorem contactsVerifier_iff (X : DocumentCrates) (config : WalletConfig) (qrContent : String) :
    ContactsVerifier X config qrContent ↔
      qrContent.utf8ByteSize ≤ maxQrPayloadSize ∧ NamesDialled X config qrContent ∧
        (Marked X qrContent ∨ Injected X qrContent) := by
  have hfetch := fetchMinimalChallenge_contacts_iff X config qrContent
  simp only [extractChallengeId_ok_iff] at hfetch
  -- the network is looked at after a refusal with the sentinel only
  have hparse : ContactsVerifier X config qrContent ↔
      FailsWith CarriesSentinel (parseQrCode X qrContent) ∧
        ∃ transport transport' : Transport,
          fetchMinimalChallenge X (transport.network X) config qrContent ≠
            fetchMinimalChallenge X (transport'.network X) config qrContent := by
    unfold ContactsVerifier parseQrPayloadInternal
    cases parseQrCode X qrContent with
    | ok parsed =>
      rw [failsWith_ok, false_and]
      exact iff_of_false (not_contacts_of_const fun _ _ => rfl) id
    | error e =>
      rw [failsWith_error]
      by_cases hsentinel : contains "MINIMAL_CHALLENGE" e.display = true
      · simp only [if_pos hsentinel]
        exact (and_iff_right hsentinel).symm
      · simp only [if_neg hsentinel]
        exact iff_of_false (not_contacts_of_const fun _ _ => rfl) fun h => hsentinel h.1
  rw [hparse, hfetch]
  constructor
  · rintro ⟨hfails, id, ⟨hsize, text, htext, hread⟩, huuid, hurl⟩
    exact ⟨hsize, ⟨id, ⟨text, htext, hread, huuid⟩, hurl⟩,
      (parseQrCode_signals_iff hsize htext).1 hfails⟩
  · rintro ⟨hsize, ⟨id, ⟨text, htext, hread, huuid⟩, hurl⟩, hsignals⟩
    exact ⟨(parseQrCode_signals_iff hsize htext).2 hsignals, id, ⟨hsize, text, htext, hread⟩,
      huuid, hurl⟩

/-- **The wallet fetches for minimal challenges and for nothing else**,
    exactly where the content is not misjudged in one of five ways. -/
theorem fetched_iff_minimal (X : DocumentCrates) (config : WalletConfig) (qrContent : String) :
    (ContactsVerifier X config qrContent ↔ MinimalContent X qrContent) ↔
      ¬ Misjudged X config qrContent := by
  rw [contactsVerifier_iff]
  constructor
  · intro hagree hwrong
    cases hwrong with
    | tooLong h hsize => exact hsize (hagree.2 h).1
    | unmarked h hmark hinjected =>
      rcases (hagree.2 h).2.2 with hmark' | hinjected'
      · exact hmark hmark'
      · exact hinjected hinjected'
    | undialled h id hid hurl =>
      obtain ⟨id', hid', hurl'⟩ := (hagree.2 h).2.1
      rw [← namesUuid_unique hid hid'] at hurl'
      exact hurl hurl'
    | marked h hminimal hsize hmark => exact hminimal (hagree.1 ⟨hsize, h, Or.inl hmark⟩)
    | injected h hminimal hsize hmark hinjected =>
      exact hminimal (hagree.1 ⟨hsize, h, Or.inr hinjected⟩)
  · intro hright
    constructor
    · rintro ⟨hsize, hnames, hsignals⟩
      by_contra hminimal
      by_cases hmark : Marked X qrContent
      · exact hright (.marked hnames hminimal hsize hmark)
      · exact hright (.injected hnames hminimal hsize hmark (hsignals.resolve_left hmark))
    · intro hminimal
      refine ⟨?_, ?_, ?_⟩
      · by_contra hsize
        exact hright (.tooLong hminimal hsize)
      · obtain ⟨id, hid⟩ := namesUuid_of_minimal hminimal
        refine ⟨id, hid, ?_⟩
        by_contra hurl
        exact hright (.undialled hminimal id hid hurl)
      · by_contra hsilent
        rw [not_or] at hsilent
        exact hright (.unmarked hminimal hsilent.1 hsilent.2)

/-- A whole challenge whose direction is the text of the sentinel. -/
def injectedChallenge : QrChallengePayload :=
  { briefChallenge with
    challengeId := "3f0e8c52-8a51-4c0e-9a4e-0d7f3f1b2c3d"
    proofDirection := some sentinel }

/-- Crates that know it, and the URL at which the configured verifier has
    its details. -/
def injectedCrates : WalletCrates Unit :=
  sampleWallet [injectedChallenge.toDocument]
    [(injectedChallenge.verifyUrl, briefVerifyUrl),
      (detailsUrl sampleConfig injectedChallenge.challengeId,
        sampleUrl "verify.provii.app" "/v1/challenge/3f0e8c52-8a51-4c0e-9a4e-0d7f3f1b2c3d/details")]

/-- A whole challenge is fetched from the verifier, because the complaint
    about its direction quotes the sentinel. -/
theorem injected_challenge_fetched :
    ¬ (ContactsVerifier injectedCrates.toDocumentCrates sampleConfig
        (flatText injectedChallenge.toDocument) ↔
      MinimalContent injectedCrates.toDocumentCrates (flatText injectedChallenge.toDocument)) := by
  have hdoc : injectedCrates.toDocumentCrates.parseDocument (flatText injectedChallenge.toDocument) =
      .ok injectedChallenge.toDocument := by
    unfold injectedCrates
    rw [sampleWallet_parseDocument]
  have htext := minimalText_of_no_link injectedCrates.toDocumentCrates
    (deepLinkEncoded_of_brace (head?_trim_flatText _) :
      deepLinkEncoded (flatText injectedChallenge.toDocument) = none)
  have hchallenge : isChallengeText (flatText injectedChallenge.toDocument) = true := by
    have hmarker : contains "challenge_id" (flatText injectedChallenge.toDocument) = true := by
      decide +kernel
    have hbrace : (trim (flatText injectedChallenge.toDocument)).head? = some '\x7b' :=
      head?_trim_flatText _
    rw [isChallengeText_of_brace hbrace, hmarker]
  have hid : UuidForm injectedChallenge.challengeId :=
    (validateChallengeIdFormat_ok_iff _).1 (by decide)
  have hurl : Dialled injectedCrates.toDocumentCrates
      (detailsUrl sampleConfig injectedChallenge.challengeId) :=
    ⟨_, rfl, rfl, _, rfl, by decide⟩
  intro hagree
  have hfetched : ContactsVerifier injectedCrates.toDocumentCrates sampleConfig
      (flatText injectedChallenge.toDocument) := by
    rw [contactsVerifier_iff]
    refine ⟨by decide +kernel, ⟨_, ⟨_, htext, (fromStr_ok_iff ..).2 ⟨_, hdoc, rfl⟩, hid⟩, hurl⟩,
      Or.inr ⟨_, "invalid proof_direction 'MINIMAL_CHALLENGE', expected 'over_age' or 'under_age'",
        htext, ?_, by decide⟩⟩
    unfold complaint
    rw [if_pos hchallenge]
    unfold challengeComplaint
    rw [fromStr_toDocument hdoc]
    decide +kernel
  -- but it has every key of a challenge
  obtain ⟨text, fields, id, htext', hfields, -, -, hkeys⟩ := hagree.1 hfetched
  rw [htext] at htext'
  injection htext' with htext'
  rw [← htext', hdoc] at hfields
  injection hfields with hfields
  injection hfields with hfields
  refine hkeys ("rp_challenge", .str injectedChallenge.rpChallenge) ?_ ?_
  · rw [← hfields]
    exact List.mem_cons_of_mem _ List.mem_cons_self
  · exact List.mem_cons_self

end ProviiSdk.Wallet
