/-
  ProviiSdk.Wallet.ForwardCompat — challenges with a key more.

  A server may add fields to a challenge, and the wallet is to skip the
  ones it does not know.  A challenge enters the wallet in five ways: as
  a scanned text, bare or behind a deep link prefix, as the verifier's
  answer to a minimal challenge or a short code, and in a deep link that
  has a reader of its own.  Two of the ways look for text in the
  challenge before it is parsed, and the last one refuses unknown keys.

  Main results:
    * `readsQr_challengeText_iff`, `readsQr_envelope_iff` — how a scanned
      text is read, by the fields of its object.
    * `parse_of_readsQr` — the wallet goes on from what was read alone.
    * `extended_reads_iff` — when an object with a key more reads as it
      did without it.
-/

import ProviiSdk.Wallet.QrForms

namespace ProviiSdk.Wallet

open ProviiSdk.Core ProviiSdk.Ffi ProviiSdk.Ffi.Deeplink ProviiSdk.Check ProviiSdk.Text

/-! ## §1. The ways in -/

/-- The ways in which a challenge enters the wallet. -/
inductive EntryPath where
  | rawQr
  | wrappedQr
  | challengeDetails
  | shortCode
  | deepLink
  deriving DecidableEq

/-- The text of the challenge in what comes in on a path. -/
def Carries (X : DocumentCrates) : EntryPath → String → String → Prop
  | .rawQr, input, text => input = text
  | .wrappedQr, input, text =>
    (deepLinkEncoded input).isSome = true ∧ minimalText X input = .ok text
  | .challengeDetails, input, text => input = text
  | .shortCode, input, text => input = text
  | .deepLink, input, text =>
    ∃ u, X.parseUrl input = .ok u ∧ linkAction u = .ok "verify" ∧ carriedText X u = .ok text

/-- What comes in is short enough for the path. -/
def Fits : EntryPath → String → Prop
  | .rawQr, input => input.utf8ByteSize ≤ maxQrPayloadSize
  | .wrappedQr, input => input.utf8ByteSize ≤ maxQrPayloadSize
  | .challengeDetails, _ => True
  | .shortCode, _ => True
  | .deepLink, input => input.utf8ByteSize ≤ maxDeeplinkSize

/-- What a challenge is read as: its fields, the id to fetch them by, or
    the payload of a deep link. -/
inductive Reading where
  | challenge (data : QrChallengePayload)
  | minimal (challengeId : String)
  | link (payload : VerifyPayload)

/-- What a scanned text is read as. -/
def ReadsQr (X : DocumentCrates) (input : String) : Reading → Prop
  | .challenge data => decodePayload X input = .ok (.verificationChallenge data)
  | .minimal challengeId =>
    Marked X input ∧ decodePayload X input = .error minimalChallenge ∧
      extractChallengeIdFromQr X input = .ok challengeId
  | .link _ => False

/-- What a verifier's answer is read as. -/
def ReadsResponse (X : DocumentCrates) (context input : String) : Reading → Prop
  | .challenge data => readChallenge X context input = .ok data
  | .minimal _ => False
  | .link _ => False

/-- What a deep link is read as. -/
def ReadsLink (X : DocumentCrates) (input : String) : Reading → Prop
  | .challenge _ => False
  | .minimal _ => False
  | .link payload => ∃ json, Deeplink.parse X input = .ok (.scanChallenge json) ∧
      X.fromStr "VerifyPayload" VerifyPayload.ofDocument json = .ok payload

/-- **What is read** on a path. -/
def Reads (X : DocumentCrates) : EntryPath → String → Reading → Prop
  | .rawQr => ReadsQr X
  | .wrappedQr => ReadsQr X
  | .challengeDetails => ReadsResponse X ""
  | .shortCode => ReadsResponse X "Failed to parse challenge response: "
  | .deepLink => ReadsLink X

/-! ## §2. A key more -/

/-- The characters next to which a member is put into an object. -/
def isSeparator (c : Char) : Bool := isWhitespace c || c == '\x7b' || c == '\x7d' || c == ','

/-- **A JSON object with a key more**: text is inserted behind the
    opening brace, next to a separator, and the parser finds one member
    more. -/
structure Extension (X : DocumentCrates) (key : String) (value : Json) (text text' : String) :
    Prop where
  spliced : ∃ ws front added back, text.toList = (ws ++ '\x7b' :: front) ++ back ∧
    text'.toList = (ws ++ '\x7b' :: front) ++ added ++ back ∧
    (∀ w ∈ ws, isWhitespace w = true) ∧
    ∃ c, isSeparator c = true ∧ (('\x7b' :: front).getLast? = some c ∨ back.head? = some c)
  parsed : ∃ before after, X.parseDocument text = .ok (.obj (before ++ after)) ∧
    X.parseDocument text' = .ok (.obj (before ++ (key, value) :: after))

/-- The condition under which the object is still read as it was: no deep
    link that goes to the reader of its own; a minimal challenge is still
    one for the substring test; and an envelope without the marker of a
    challenge keeps its one tag, or becomes bare challenge JSON that is
    not taken for minimal. -/
def StaysReadable (key text text' : String) : EntryPath → Prop
  | .rawQr =>
    if contains "challenge_id" text = true then isMinimal text = true → isMinimal text' = true
    else if contains "challenge_id" text' = true then isMinimal text' = false
    else key ≠ "type"
  | .wrappedQr => isMinimal text = true → isMinimal text' = true
  | .challengeDetails => True
  | .shortCode => True
  | .deepLink => False

section Extension

variable {X : DocumentCrates} {key : String} {value : Json} {text text' : String}

/-- An extended object starts as the object did. -/
theorem Extension.heads (h : Extension X key value text text') :
    (trim text).head? = some '\x7b' ∧ (trim text').head? = some '\x7b' := by
  obtain ⟨ws, front, added, back, htext, htext', hws, -⟩ := h.spliced
  constructor
  · have hshape : text.toList = ws ++ '\x7b' :: (front ++ back) := by
      rw [htext, List.append_assoc, List.cons_append]
    exact head?_trim_of_leading hshape hws (by decide)
  · have hshape : text'.toList = ws ++ '\x7b' :: (front ++ (added ++ back)) := by
      rw [htext', List.append_assoc, List.append_assoc, List.cons_append]
    exact head?_trim_of_leading hshape hws (by decide)

/-- A pattern without separators that is in the text is in the longer
    one. -/
theorem Extension.contains_of_contains (h : Extension X key value text text') (pattern : String)
    (hpattern : pattern.toList.all (fun c => !isSeparator c) = true)
    (hin : contains pattern text = true) : contains pattern text' = true := by
  obtain ⟨ws, front, added, back, htext, htext', -, c, hc, hplace⟩ := h.spliced
  have hnot : c ∉ pattern.toList := by
    intro hmem
    have hother := List.all_eq_true.1 hpattern c hmem
    rw [hc] at hother
    cases hother
  unfold contains at hin ⊢
  rw [decide_eq_true_iff, htext] at hin
  rw [decide_eq_true_iff, htext']
  refine infix_insert _ _ _ _ ?_ hin
  rcases hplace with hlast | hhead
  · refine Or.inl ⟨c, ?_, hnot⟩
    rw [List.getLast?_append, hlast]
    rfl
  · exact Or.inr ⟨c, hhead, hnot⟩

/-- A text with a field of a whole challenge in it keeps it. -/
theorem Extension.full_of_full (h : Extension X key value text text')
    (hfull : isMinimal text = false) : isMinimal text' = false := by
  have hrp := h.contains_of_contains "\"rp_challenge\"" (by decide)
  have hsecret := h.contains_of_contains "\"submit_secret\"" (by decide)
  have hcutoff := h.contains_of_contains "\"cutoff_days\"" (by decide)
  unfold isMinimal at hfull ⊢
  simp only [Bool.and_eq_false_iff, Bool.not_eq_false'] at hfull ⊢
  rcases hfull with (hin | hin) | hin
  · exact Or.inl (Or.inl (hrp hin))
  · exact Or.inl (Or.inr (hsecret hin))
  · exact Or.inr (hcutoff hin)

end Extension

/-! ## §3. How a scanned text is read -/

/-- What the fields of an object are read as, when the text is taken for
    challenge JSON. -/
def ReadsFields (X : DocumentCrates) (text : String) (fields : List (String × Json)) :
    Reading → Prop
  | .challenge data =>
    isMinimal text = false ∧ QrChallengePayload.ofDocument (.obj fields) = some data ∧
      ValidFields X data
  | .minimal challengeId => isMinimal text = true ∧ minimalChallengeId (.obj fields) = some challengeId
  | .link _ => False

/-- And when it is taken for an envelope. -/
def ReadsTagged (X : DocumentCrates) (fields : List (String × Json)) : Reading → Prop
  | .challenge data =>
    (∃ tag, membersOf fields "type" = [(tag, .str "verification_challenge/v2")]) ∧
      QrChallengePayload.ofDocument (untagged fields) = some data ∧ ValidFields X data
  | .minimal _ => False
  | .link _ => False

/-- A short content that is taken for challenge JSON is decoded as that,
    behind a link or bare. -/
theorem decodePayload_of_challengeText {X : DocumentCrates} {input text : String}
    (hsize : input.utf8ByteSize ≤ maxQrPayloadSize) (hchallenge : isChallengeText input = true)
    (htext : minimalText X input = .ok text) :
    ∃ context, decodePayload X input =
      challengeOfText X context text >>= fun data => pure (.verificationChallenge data) := by
  cases hlink : deepLinkEncoded input with
  | some encoded => exact ⟨_, decodePayload_of_link hsize hlink htext⟩
  | none =>
    unfold isChallengeText at hchallenge
    rw [hlink, Option.isSome_none, Bool.false_or] at hchallenge
    rw [minimalText_of_no_link X hlink] at htext
    injection htext with htext
    rw [← htext]
    exact ⟨_, decodePayload_of_bare hsize hlink hchallenge⟩

/-- A marked text is refused with the sentinel. -/
theorem decodePayload_of_marked {X : DocumentCrates} {input : String}
    (hsize : input.utf8ByteSize ≤ maxQrPayloadSize) (h : Marked X input) :
    decodePayload X input = .error minimalChallenge := by
  obtain ⟨hchallenge, text, htext, hminimal⟩ := h
  obtain ⟨context, hdecode⟩ := decodePayload_of_challengeText hsize hchallenge htext
  rw [hdecode]
  unfold challengeOfText
  rw [hminimal]
  rfl

/-- **How a text that is taken for challenge JSON is read.** -/
theorem readsQr_challengeText_iff {X : DocumentCrates} {input text : String}
    {fields : List (String × Json)} (hchallenge : isChallengeText input = true)
    (htext : minimalText X input = .ok text) (hdoc : X.parseDocument text = .ok (.obj fields))
    (r : Reading) :
    ReadsQr X input r ↔ input.utf8ByteSize ≤ maxQrPayloadSize ∧ ReadsFields X text fields r := by
  have hmarked : Marked X input ↔ isMinimal text = true := by
    unfold Marked
    simp only [hchallenge, htext, true_and, Except.ok.injEq, exists_eq_left']
  cases r with
  | challenge data =>
    have hshort : input.utf8ByteSize ≤ maxQrPayloadSize →
        (decodePayload X input = .ok (.verificationChallenge data) ↔
          ReadsFields X text fields (.challenge data)) := by
      intro hsize
      obtain ⟨context, hdecode⟩ := decodePayload_of_challengeText hsize hchallenge htext
      rw [hdecode]
      simp only [bind_eq_ok_iff, challengeOfText_ok_iff, fromStr_ok_iff, hdoc, Except.ok.injEq,
        exists_eq_left']
      constructor
      · rintro ⟨data', hread, hdata⟩
        injection hdata with hdata
        injection hdata with hdata
        exact hdata ▸ hread
      · intro hread
        exact ⟨data, hread, rfl⟩
    constructor
    · intro h
      have hsize := ((decodePayload_challenge_iff X input data).1 h).1
      exact ⟨hsize, (hshort hsize).1 h⟩
    · rintro ⟨hsize, hread⟩
      exact (hshort hsize).2 hread
  | minimal challengeId =>
    show Marked X input ∧ decodePayload X input = .error minimalChallenge ∧
      extractChallengeIdFromQr X input = .ok challengeId ↔ _
    rw [extractChallengeId_ok_iff, hmarked]
    simp only [htext, Except.ok.injEq, exists_eq_left', fromStr_ok_iff, hdoc]
    constructor
    · rintro ⟨hminimal, -, hsize, hid⟩
      exact ⟨hsize, hminimal, hid⟩
    · rintro ⟨hsize, hminimal, hid⟩
      exact ⟨hminimal, decodePayload_of_marked hsize (hmarked.2 hminimal), hsize, hid⟩
  | link payload => exact iff_of_false id fun h => h.2

/-- **How a text that is taken for an envelope is read.** -/
theorem readsQr_envelope_iff {X : DocumentCrates} {text : String} {fields : List (String × Json)}
    (hchallenge : isChallengeText text = false) (hdoc : X.parseDocument text = .ok (.obj fields))
    (r : Reading) :
    ReadsQr X text r ↔ text.utf8ByteSize ≤ maxQrPayloadSize ∧ ReadsTagged X fields r := by
  have hkind := hchallenge
  unfold isChallengeText at hkind
  rw [Bool.or_eq_false_iff, Option.isSome_eq_false_iff, Option.isNone_iff_eq_none] at hkind
  obtain ⟨hlink, hbare⟩ := hkind
  cases r with
  | challenge data =>
    show decodePayload X text = .ok (.verificationChallenge data) ↔ _
    rw [decodePayload_challenge_iff]
    refine and_congr_right fun _ => ?_
    constructor
    · intro h
      cases h with
      | link _ _ hsome => rw [hlink] at hsome; cases hsome
      | bare _ _ hyes => rw [hbare] at hyes; cases hyes
      | tagged fields' tag _ _ hdoc' htag hread hvalid =>
        rw [hdoc] at hdoc'
        injection hdoc' with hdoc'
        injection hdoc' with hdoc'
        rw [← hdoc'] at htag hread
        exact ⟨⟨tag, htag⟩, hread, hvalid⟩
    · rintro ⟨⟨tag, htag⟩, hread, hvalid⟩
      exact .tagged fields tag hlink hbare hdoc htag hread hvalid
  | minimal challengeId =>
    refine iff_of_false ?_ fun h => h.2
    rintro ⟨⟨hyes, -⟩, -⟩
    rw [hchallenge] at hyes
    cases hyes
  | link payload => exact iff_of_false id fun h => h.2

/-- **The wallet goes on from what was read alone**: whatever the network
    does, two scanned texts that read the same come to the same, as long
    as documents can be written. -/
theorem parse_of_readsQr {X : DocumentCrates} {input input' : String} {r : Reading}
    (h : ReadsQr X input r) (h' : ReadsQr X input' r)
    (hwrite : ∀ doc, ∃ json, X.writeDocument doc = .ok json) (net : Network)
    (config : WalletConfig) :
    parseQrPayloadInternal X net config input' = parseQrPayloadInternal X net config input := by
  cases r with
  | challenge data =>
    obtain ⟨json, hjson⟩ := hwrite data.toDocument
    have htext : payloadText X (.verificationChallenge data) = .ok json := by
      show (X.writeDocument data.toDocument).mapError FfiError.generic = .ok json
      rw [hjson, mapError_ok]
    rw [parseQrPayloadInternal_of_decode net config h htext,
      parseQrPayloadInternal_of_decode net config h' htext]
  | minimal challengeId =>
    obtain ⟨-, hdecode, hid⟩ := h
    obtain ⟨-, hdecode', hid'⟩ := h'
    rw [parseQrPayloadInternal_of_minimal net config hdecode,
      parseQrPayloadInternal_of_minimal net config hdecode']
    unfold fetchMinimalChallenge
    rw [hid, hid']
  | link payload => exact h.elim

/-! ## §4. What a key more changes -/

section Extension

variable {X : DocumentCrates} {key : String} {value : Json} {text text' : String}
  {before after : List (String × Json)}

/-- No reader of known fields sees the new key. -/
private theorem membersOf_known (before after : List (String × Json)) (value : Json)
    (hkey : key ∉ qrChallengeFields) : ∀ name ∈ qrChallengeFields,
      membersOf (before ++ (key, value) :: after) name = membersOf (before ++ after) name := by
  intro name hname
  refine membersOf_insert before after key name value fun h => ?_
  rw [h] at hkey
  exact hkey hname

/-- The tag of an envelope is no field of a challenge. -/
private theorem membersOf_untagged (fields : List (String × Json)) :
    ∀ name ∈ qrChallengeFields,
      membersOf (fields.filter fun f => f.1 != "type") name = membersOf fields name := by
  intro name hname
  refine membersOf_filter_ne fields "type" name ?_
  rintro rfl
  exact absurd hname (by decide)

/-- The fields of an extended object are read as before, if a minimal
    text stays minimal. -/
theorem readsFields_extended_iff (h : Extension X key value text text')
    (hkey : key ∉ qrChallengeFields) {r : Reading} (hreads : ReadsFields X text (before ++ after) r) :
    ReadsFields X text' (before ++ (key, value) :: after) r ↔
      (isMinimal text = true → isMinimal text' = true) := by
  have hknown := membersOf_known before after value hkey
  cases r with
  | challenge data =>
    obtain ⟨hfull, hread, hvalid⟩ := hreads
    refine iff_of_true ⟨h.full_of_full hfull, ?_, hvalid⟩ fun hminimal => ?_
    · rw [challenge_congr hknown, hread]
    · rw [hfull] at hminimal
      cases hminimal
  | minimal challengeId =>
    obtain ⟨hminimal, hid⟩ := hreads
    constructor
    · rintro ⟨hminimal', -⟩ -
      exact hminimal'
    · intro hstays
      refine ⟨hstays hminimal, ?_⟩
      rw [minimalChallengeId_congr (hknown "challenge_id" (by decide)), hid]
  | link payload => exact hreads.elim

/-- An extended envelope is read as before, if it keeps its one tag. -/
theorem readsTagged_extended_iff (hkey : key ∉ qrChallengeFields) {r : Reading}
    (hreads : ReadsTagged X (before ++ after) r) :
    ReadsTagged X (before ++ (key, value) :: after) r ↔ key ≠ "type" := by
  cases r with
  | challenge data =>
    obtain ⟨⟨tag, htag⟩, hread, hvalid⟩ := hreads
    constructor
    · -- a second tag is refused
      rintro ⟨⟨tag', htag'⟩, -⟩ rfl
      have hlength := congrArg List.length htag
      have hlength' := congrArg List.length htag'
      unfold membersOf at hlength hlength'
      simp only [List.filter_append, List.filter_cons, beq_self_eq_true, if_true,
        List.length_append, List.length_cons, List.length_nil] at hlength hlength'
      omega
    · intro hother
      refine ⟨⟨tag, ?_⟩, ?_, hvalid⟩
      · rw [membersOf_insert before after key "type" value hother, htag]
      · rw [← hread]
        unfold untagged
        refine challenge_congr fun name hname => ?_
        rw [membersOf_untagged _ name hname, membersOf_untagged _ name hname,
          membersOf_known _ _ _ hkey name hname]
  | minimal challengeId => exact hreads.elim
  | link payload => exact hreads.elim

/-- An envelope that is extended into bare challenge JSON is read as
    before, if it is not taken for minimal. -/
theorem readsFields_of_tagged_iff (hkey : key ∉ qrChallengeFields) {r : Reading}
    (hreads : ReadsTagged X (before ++ after) r) :
    ReadsFields X text' (before ++ (key, value) :: after) r ↔ isMinimal text' = false := by
  cases r with
  | challenge data =>
    obtain ⟨-, hread, hvalid⟩ := hreads
    have hread' : QrChallengePayload.ofDocument (.obj (before ++ (key, value) :: after)) =
        some data := by
      rw [challenge_congr (membersOf_known _ _ _ hkey), ← hread]
      unfold untagged
      exact (challenge_congr (membersOf_untagged _)).symm
    constructor
    · rintro ⟨hfull, -⟩
      exact hfull
    · intro hfull
      exact ⟨hfull, hread', hvalid⟩
  | minimal challengeId => exact hreads.elim
  | link payload => exact hreads.elim

end Extension

/-- A bare object with a key more. -/
theorem extended_rawQr_iff {X : DocumentCrates} {key : String} {value : Json} {text text' : String}
    {r : Reading} (h : Extension X key value text text') (hkey : key ∉ qrChallengeFields)
    (hsize : text'.utf8ByteSize ≤ maxQrPayloadSize) (hreads : ReadsQr X text r) :
    ReadsQr X text' r ↔ StaysReadable key text text' .rawQr := by
  obtain ⟨hhead, hhead'⟩ := h.heads
  obtain ⟨before, after, hdoc, hdoc'⟩ := h.parsed
  have hkind := isChallengeText_of_brace hhead
  have hkind' := isChallengeText_of_brace hhead'
  unfold StaysReadable
  cases hmarker : contains "challenge_id" text with
  | true =>
    have hmarker' : contains "challenge_id" text' = true :=
      h.contains_of_contains "challenge_id" (by decide) hmarker
    rw [hmarker] at hkind
    rw [hmarker'] at hkind'
    rw [readsQr_challengeText_iff hkind (minimalText_of_no_link X (deepLinkEncoded_of_brace hhead)) hdoc] at hreads
    rw [readsQr_challengeText_iff hkind' (minimalText_of_no_link X (deepLinkEncoded_of_brace hhead')) hdoc', if_pos rfl,
      and_iff_right hsize, readsFields_extended_iff h hkey hreads.2]
  | false =>
    rw [hmarker] at hkind
    rw [readsQr_envelope_iff hkind hdoc] at hreads
    rw [if_neg Bool.false_ne_true]
    cases hmarker' : contains "challenge_id" text' with
    | true =>
      rw [hmarker'] at hkind'
      rw [readsQr_challengeText_iff hkind' (minimalText_of_no_link X (deepLinkEncoded_of_brace hhead')) hdoc', if_pos rfl,
        and_iff_right hsize, readsFields_of_tagged_iff hkey hreads.2]
    | false =>
      rw [hmarker'] at hkind'
      rw [readsQr_envelope_iff hkind' hdoc', if_neg Bool.false_ne_true, and_iff_right hsize,
        readsTagged_extended_iff hkey hreads.2]

/-- A wrapped object with a key more. -/
theorem extended_wrappedQr_iff {X : DocumentCrates} {key : String} {value : Json}
    {input input' text text' : String} {r : Reading} (h : Extension X key value text text')
    (hkey : key ∉ qrChallengeFields) (hcarries : Carries X .wrappedQr input text)
    (hcarries' : Carries X .wrappedQr input' text')
    (hsize : input'.utf8ByteSize ≤ maxQrPayloadSize) (hreads : ReadsQr X input r) :
    ReadsQr X input' r ↔ StaysReadable key text text' .wrappedQr := by
  obtain ⟨before, after, hdoc, hdoc'⟩ := h.parsed
  have hkind : ∀ q, (deepLinkEncoded q).isSome = true → isChallengeText q = true := by
    intro q hlink
    unfold isChallengeText
    rw [hlink, Bool.true_or]
  rw [readsQr_challengeText_iff (hkind input hcarries.1) hcarries.2 hdoc] at hreads
  rw [readsQr_challengeText_iff (hkind input' hcarries'.1) hcarries'.2 hdoc', and_iff_right hsize,
    readsFields_extended_iff h hkey hreads.2]
  rfl

/-- An answer with a key more: the verifier may add what it likes. -/
theorem extended_response {X : DocumentCrates} {key : String} {value : Json} {text text' : String}
    {r : Reading} (context : String) (h : Extension X key value text text')
    (hkey : key ∉ qrChallengeFields) (hreads : ReadsResponse X context text r) :
    ReadsResponse X context text' r := by
  obtain ⟨before, after, hdoc, hdoc'⟩ := h.parsed
  cases r with
  | challenge data =>
    have hresponse : readChallenge X context text = .ok data := hreads
    rw [readChallenge_ok_iff, fromStr_ok_iff, hdoc] at hresponse
    obtain ⟨⟨doc, hsame, hread⟩, hvalid⟩ := hresponse
    injection hsame with hsame
    show readChallenge X context text' = .ok data
    rw [readChallenge_ok_iff, fromStr_ok_iff]
    refine ⟨⟨_, hdoc', ?_⟩, hvalid⟩
    rw [challenge_congr (membersOf_known _ _ _ hkey), hsame, hread]
  | minimal challengeId => exact hreads.elim
  | link payload => exact hreads.elim

/-- A deep link whose object has a key more is refused. -/
theorem extended_link {X : DocumentCrates} {key : String} {value : Json} {text text' input' : String}
    {r : Reading} (h : Extension X key value text text') (hkey : key ∉ qrChallengeFields)
    (hcarries' : Carries X .deepLink input' text') : ¬ ReadsLink X input' r := by
  obtain ⟨before, after, -, hdoc'⟩ := h.parsed
  obtain ⟨u, hurl, -, htext⟩ := hcarries'
  intro hreads
  cases r with
  | challenge data => exact hreads
  | minimal challengeId => exact hreads
  | link payload =>
    obtain ⟨json, hparse, -⟩ := hreads
    rw [parse_scanChallenge_iff] at hparse
    obtain ⟨-, u', hurl', -, htext', -, p, hread, -⟩ := hparse
    rw [hurl] at hurl'
    injection hurl' with hurl'
    rw [← hurl', htext] at htext'
    injection htext' with htext'
    rw [← htext', fromStr_ok_iff, hdoc'] at hread
    obtain ⟨doc, hsame, hread⟩ := hread
    injection hsame with hsame
    rw [← hsame] at hread
    -- its reader knows the fields of a challenge and no others
    obtain ⟨field, hslots, -⟩ := fields_of_verify hread
    have hmem := (slots_of_verify hslots).2.2 (key, value)
      (List.mem_append_right before List.mem_cons_self)
    have hsame : ∀ name ∈ verifyPayloadFields, name ∈ qrChallengeFields := by decide
    exact hkey (hsame key hmem)

/-- **When a challenge with a key more reads as it did without it**, on
    each of the five paths: a challenge, or an id, or a payload that was
    read is read again exactly if the path stays readable. -/
theorem extended_reads_iff (X : DocumentCrates) (path : EntryPath)
    (input input' text text' key : String) (value : Json) (r : Reading)
    (hcarries : Carries X path input text) (hcarries' : Carries X path input' text')
    (hext : Extension X key value text text') (hkey : key ∉ qrChallengeFields)
    (hfits : Fits path input') (hreads : Reads X path input r) :
    Reads X path input' r ↔ StaysReadable key text text' path := by
  cases path with
  | rawQr =>
    have hinput : input = text := hcarries
    have hinput' : input' = text' := hcarries'
    subst hinput hinput'
    exact extended_rawQr_iff hext hkey hfits hreads
  | wrappedQr => exact extended_wrappedQr_iff hext hkey hcarries hcarries' hfits hreads
  | challengeDetails =>
    have hinput : input = text := hcarries
    have hinput' : input' = text' := hcarries'
    subst hinput hinput'
    exact iff_of_true (extended_response _ hext hkey hreads) trivial
  | shortCode =>
    have hinput : input = text := hcarries
    have hinput' : input' = text' := hcarries'
    subst hinput hinput'
    exact iff_of_true (extended_response _ hext hkey hreads) trivial
  | deepLink => exact iff_of_false (extended_link hext hkey hcarries') id

/-- The fields of a challenge, and the same with a short code, which the
    wallet does not know. -/
def briefFields : List (String × Json) :=
  [("challenge_id", .str "c"), ("rp_challenge", .str "r"), ("cutoff_days", .num "1"),
    ("verifying_key_id", .num "1"), ("submit_secret", .str "s"), ("expires_at", .num "9"),
    ("verify_url", .str "https://v.co"), ("proof_direction", .null)]

def coded : List (String × Json) := briefFields ++ [("short_code", .str "1")]

def briefText : String := flatText (.obj briefFields)

def codedText : String := flatText (.obj coded)

/-- Crates that know both, the URL of the challenge, and every link. -/
def codedCrates : DocumentCrates :=
  { (sampleWallet [.obj briefFields, .obj coded] []).toDocumentCrates with
    parseUrl := fun url =>
      match url.toList.dropPrefix? "proviiwallet://verify?d=".toList with
      | some body => .ok { verifyLinkUrl "" with
          query := some ("d=".toList ++ body), queryPairs := [("d", String.ofList body)] }
      | none => .ok briefVerifyUrl }

theorem codedCrates_parseUrl (text : String) :
    codedCrates.parseUrl (verifyLink text) = .ok (verifyLinkUrl text) := by
  unfold codedCrates verifyLink verifyLinkUrl
  simp only [String.toList_append, dropPrefix?_append, String.ofList_toList]

/-- The two texts differ by the member that was added at the end. -/
theorem codedText_splits :
    ∃ members, briefText = "\x7b" ++ members ++ "\x7d" ∧
      codedText = "\x7b" ++ members ++ ("," ++ (quoted "short_code" ++ ":" ++ quoted "1")) ++ "\x7d" :=
  flatText_concat briefFields "short_code" (.str "1") (by decide)

private theorem codedCrates_parseDocument :
    codedCrates.parseDocument =
      (sampleWallet [.obj briefFields, .obj coded] []).toDocumentCrates.parseDocument := rfl

theorem codedCrates_briefText : codedCrates.parseDocument briefText = .ok (.obj briefFields) := by
  unfold briefText
  rw [codedCrates_parseDocument, sampleWallet_parseDocument]

theorem codedCrates_codedText : codedCrates.parseDocument codedText = .ok (.obj coded) := by
  have hne : flatText (.obj briefFields) ≠ flatText (.obj coded) := by
    intro heq
    obtain ⟨members, hbrief, hcoded⟩ := codedText_splits
    have hlength := congrArg String.length ((hbrief.symm.trans heq).trans hcoded)
    simp only [String.length_append] at hlength
    have hcomma : ",".length = 1 := by decide
    omega
  unfold codedText
  rw [codedCrates_parseDocument, sampleWallet_parseDocument_of_ne _ _ _ _ hne,
    sampleWallet_parseDocument]

/-- The challenge with a short code is the challenge with a key more. -/
theorem coded_extension :
    Extension codedCrates "short_code" (.str "1") briefText codedText := by
  constructor
  · obtain ⟨members, hbrief, hcoded⟩ := codedText_splits
    refine ⟨[], members.toList, ("," ++ (quoted "short_code" ++ ":" ++ quoted "1")).toList,
      ['\x7d'], ?_, ?_, ?_, '\x7d', by decide, Or.inr rfl⟩
    · rw [hbrief, String.toList_append, String.toList_append]
      rfl
    · rw [hcoded, String.toList_append, String.toList_append, String.toList_append]
      rfl
    · intro w hw
      cases hw
  · exact ⟨briefFields, [], codedCrates_briefText, codedCrates_codedText⟩

/-- Scanned as bare JSON it reads as it did. -/
theorem extended_reads_iff_rawQr :
    Reads codedCrates .rawQr codedText (.challenge briefChallenge) ↔
      StaysReadable "short_code" briefText codedText .rawQr := by
  have hreads : decodePayload codedCrates briefText = .ok (.verificationChallenge briefChallenge) := by
    decide +kernel
  have hfits : codedText.utf8ByteSize ≤ maxQrPayloadSize := by decide +kernel
  exact extended_reads_iff codedCrates .rawQr briefText codedText briefText codedText "short_code"
    (.str "1") (.challenge briefChallenge) rfl rfl coded_extension (by decide) hfits hreads

/-- **A deep link with a key more is refused**, though the challenge in
    it has the same fields. -/
theorem extended_link_refused :
    Deeplink.parse codedCrates (verifyLink briefText) = .ok (.scanChallenge briefText) ∧
      (∀ json, Deeplink.parse codedCrates (verifyLink codedText) ≠ .ok (.scanChallenge json)) ∧
      ¬ ∀ (X : DocumentCrates) (path : EntryPath) (input input' text text' key : String)
        (value : Json) (r : Reading), Carries X path input text → Carries X path input' text' →
        Extension X key value text text' → key ∉ qrChallengeFields → Fits path input' →
        Reads X path input r → Reads X path input' r := by
  have hpayload : codedCrates.fromStr "VerifyPayload" VerifyPayload.ofDocument briefText =
      .ok briefPayload := by
    rw [fromStr_ok_iff]
    exact ⟨_, codedCrates_briefText, by decide +kernel⟩
  have hlimits : WithinLimits codedCrates briefPayload := by
    refine ⟨by decide, by decide, by decide, ?_, ?_, ?_⟩
    · intro cv hcv
      cases hcv
    · intro url hurl
      injection hurl with hurl
      rw [← hurl]
      exact ⟨by decide, briefVerifyUrl, by decide +kernel, rfl⟩
    · intro dir hdir
      cases hdir
  have hparse : Deeplink.parse codedCrates (verifyLink briefText) = .ok (.scanChallenge briefText) :=
    parse_verifyLink rfl (codedCrates_parseUrl _) (by decide +kernel) (head?_trim_flatText _) hpayload
      hlimits
  have hcarries : ∀ text, Carries codedCrates .deepLink (verifyLink text) text := fun text =>
    ⟨verifyLinkUrl text, codedCrates_parseUrl text, linkAction_verifyLinkUrl text,
      carriedText_verifyLinkUrl rfl text⟩
  have hfits : (verifyLink codedText).utf8ByteSize ≤ maxDeeplinkSize := by decide +kernel
  refine ⟨hparse, fun json hjson => ?_, fun hall => ?_⟩
  · -- what parses reads as a payload
    obtain ⟨-, -, -, -, -, -, p, hread, -⟩ := (parse_scanChallenge_iff ..).1 hjson
    have hreads : ReadsLink codedCrates (verifyLink codedText) (.link p) := ⟨json, hjson, hread⟩
    exact extended_link coded_extension (by decide) (hcarries codedText) hreads
  · have hreads : ReadsLink codedCrates (verifyLink codedText) (.link briefPayload) :=
      hall codedCrates .deepLink (verifyLink briefText) (verifyLink codedText) briefText codedText
        "short_code" (.str "1") (.link briefPayload) (hcarries _) (hcarries _) coded_extension
        (by decide) hfits ⟨briefText, hparse, hpayload⟩
    exact extended_link coded_extension (by decide) (hcarries codedText) hreads

end ProviiSdk.Wallet
