/-
  ProviiSdk.Ffi.AttestationGrammar — the characters of attestation data.

  An attestation comes as JSON behind a QR code or in an attest link, and
  each way checks the characters of its data.  The link takes ASCII
  letters and digits, the code every letter and digit of Unicode.

  Main results:
    * `validateQrPayload_attestation_iff`, `parse_attestLink_iff` — what
      either way takes.
    * `attestation_grammars_agree_iff` — for which data they agree.
-/

import ProviiSdk.Ffi.Deeplink
import ProviiSdk.Ffi.Qr
import ProviiSdk.Core.Sample

namespace ProviiSdk.Ffi

open ProviiSdk.Core ProviiSdk.Ffi.Deeplink ProviiSdk.Check ProviiSdk.Wire

/-! ## §1. The two carriers -/

/-- **Documented behaviour** of `char::is_alphanumeric`: below 128 these
    are the letters and digits of ASCII. -/
def ExtendsAscii (isAlphanumeric : Char → Bool) : Prop :=
  ∀ c : Char, c.val < 128 → isAlphanumeric c = c.isAlphanum

/-- The document of the data behind a QR code. -/
def attestationQr (d : String) : Json := .obj [("type", .str "attestation"), ("data", .str d)]

def hexDigitUpper (n : Nat) : Char := (Nat.digitChar n).toUpper

/-- Does percent-encoding leave a byte as it is? -/
def isUnreserved (b : UInt8) : Bool :=
  (Char.ofNat b.toNat).isAlphanum || b == 45 || b == 46 || b == 95 || b == 126

/-- The percent-encoding of a text. -/
def percentEncode (text : String) : String :=
  String.ofList ((utf8 text).flatMap fun b =>
    if isUnreserved b = true then [Char.ofNat b.toNat]
    else ['%', hexDigitUpper (b.toNat / 16), hexDigitUpper (b.toNat % 16)])

/-- The link that carries the data, and the link as a URL. -/
def attestLink (d : String) : String := "proviiwallet://attest?d=" ++ percentEncode d

def attestLinkUrl (d : String) : Url where
  scheme := "proviiwallet".toList
  userinfo := []
  host := some "attest".toList
  port := none
  path := []
  query := some ("d=" ++ percentEncode d).toList
  fragment := none
  queryPairs := [("d", d)]

example : percentEncode "a-_\u00e9+" = "a-_%C3%A9%2B" := by decide +kernel

/-! ## §2. What either way takes -/

/-- The characters a link takes. -/
def isLinkChar (c : Char) : Bool := c.isAlphanum || c == '-' || c == '_'

/-- The characters a code takes. -/
def isQrChar (isAlphanumeric : Char → Bool) (c : Char) : Bool :=
  isAlphanumeric c || c == '-' || c == '_'

/-- A link takes ASCII characters only. -/
theorem ascii_of_isLinkChar {c : Char} (h : isLinkChar c = true) : c.val < 128 := by
  unfold isLinkChar Char.isAlphanum Char.isAlpha Char.isUpper Char.isLower Char.isDigit at h
  simp only [Bool.or_eq_true, Bool.and_eq_true, decide_eq_true_iff, beq_iff_eq] at h
  rcases h with (((⟨_, h⟩ | ⟨_, h⟩) | ⟨_, h⟩) | rfl) | rfl
  · exact UInt32.lt_of_le_of_lt h (by decide)
  · exact UInt32.lt_of_le_of_lt h (by decide)
  · exact UInt32.lt_of_le_of_lt h (by decide)
  · decide
  · decide

/-- A link takes the ASCII characters that a code takes. -/
theorem isLinkChar_iff {isAlphanumeric : Char → Bool} (hascii : ExtendsAscii isAlphanumeric)
    (c : Char) : isLinkChar c = true ↔ isQrChar isAlphanumeric c = true ∧ c.val < 128 := by
  constructor
  · intro h
    have hlow := ascii_of_isLinkChar h
    refine ⟨?_, hlow⟩
    unfold isQrChar
    rw [hascii c hlow]
    exact h
  · rintro ⟨h, hlow⟩
    unfold isQrChar at h
    rw [hascii c hlow] at h
    exact h

/-- **What a code takes.** -/
theorem validateQrPayload_attestation_iff (X : DocumentCrates) (isAlphanumeric : Char → Bool)
    (timestamp : Int) {json d : String} (hjson : X.parseDocument json = .ok (attestationQr d)) :
    validateQrPayload X isAlphanumeric timestamp json = .ok true ↔
      d ≠ "" ∧ ∀ c ∈ d.toList, isQrChar isAlphanumeric c = true := by
  have htext : attestationText (attestationQr d) = some d := rfl
  unfold validateQrPayload
  rw [hjson]
  simp only [htext, Except.ok.injEq, Bool.and_eq_true, bne_iff_ne, List.all_eq_true]
  rfl

/-- **What a link takes.** -/
theorem parse_attestLink_iff (X : DocumentCrates) {d : String}
    (hurl : X.parseUrl (attestLink d) = .ok (attestLinkUrl d))
    (hsize : (attestLink d).utf8ByteSize ≤ maxDeeplinkSize) :
    parse X (attestLink d) = .ok (.attest d) ↔
      d ≠ "" ∧ ∀ c ∈ d.toList, isLinkChar c = true := by
  have haction : linkAction (attestLinkUrl d) = .ok "attest" := by
    have hlower : toLowercase "attest".toList = "attest" := by decide
    have hscheme : (attestLinkUrl d).scheme = "proviiwallet".toList := rfl
    have hhost : (attestLinkUrl d).host = some "attest".toList := rfl
    unfold linkAction
    rw [if_pos hscheme, hhost, Option.getD_some, hlower]
  have hd : queryGet (attestLinkUrl d) "d" = some d := rfl
  have hparse : parse X (attestLink d) = parseAttest (attestLinkUrl d) := by
    unfold parse
    rw [require_pos hsize, ok_bind, hurl, mapError_ok, ok_bind, haction, ok_bind,
      if_neg (by decide), if_pos rfl]
  rw [hparse]
  unfold parseAttest
  rw [hd, okOr_some, ok_bind]
  simp only [bind_eq_ok_iff, require_eq_ok_iff, exists_const, List.all_eq_true]
  exact ⟨fun h => ⟨h.1, h.2.1⟩, fun h => ⟨h.1, h.2, rfl⟩⟩

/-! ## §3. Where they agree -/

/-- Either way takes the data, or neither does. -/
def SameGrammar (X : DocumentCrates) (isAlphanumeric : Char → Bool) (timestamp : Int)
    (json d : String) : Prop :=
  validateQrPayload X isAlphanumeric timestamp json = .ok true ↔
    parse X (attestLink d) = .ok (.attest d)

/-- **The two grammars agree** on data without letters and digits beyond
    ASCII, and on data with a character that no grammar knows. -/
theorem attestation_grammars_agree_iff (X : DocumentCrates) (isAlphanumeric : Char → Bool)
    (hascii : ExtendsAscii isAlphanumeric) (timestamp : Int) (json d : String) (hd : d ≠ "")
    (hjson : X.parseDocument json = .ok (attestationQr d))
    (hurl : X.parseUrl (attestLink d) = .ok (attestLinkUrl d))
    (hsize : (attestLink d).utf8ByteSize ≤ maxDeeplinkSize) :
    SameGrammar X isAlphanumeric timestamp json d ↔
      (∀ c ∈ d.toList, isAlphanumeric c = true → c.val < 128) ∨
        ∃ c ∈ d.toList, isAlphanumeric c = false ∧ c ≠ '-' ∧ c ≠ '_' := by
  -- a character that no grammar knows
  have hunknown : (∃ c ∈ d.toList, isAlphanumeric c = false ∧ c ≠ '-' ∧ c ≠ '_') ↔
      ¬ ∀ c ∈ d.toList, isQrChar isAlphanumeric c = true := by
    simp only [not_forall, exists_prop, isQrChar, Bool.or_eq_true, beq_iff_eq, not_or,
      Bool.not_eq_true, and_assoc]
  unfold SameGrammar
  rw [validateQrPayload_attestation_iff X isAlphanumeric timestamp hjson,
    parse_attestLink_iff X hurl hsize, hunknown]
  simp only [isLinkChar_iff hascii, and_iff_right hd]
  by_cases hqr : ∀ c ∈ d.toList, isQrChar isAlphanumeric c = true
  · refine ⟨fun h => Or.inl fun c hc _ => (h.1 hqr c hc).2, fun h => ?_⟩
    rcases h with hlow | hnot
    · refine ⟨fun _ c hc => ⟨hqr c hc, ?_⟩, fun h c hc => (h c hc).1⟩
      -- the two that are no letters are ASCII
      have hchar := hqr c hc
      unfold isQrChar at hchar
      simp only [Bool.or_eq_true, beq_iff_eq] at hchar
      rcases hchar with (halpha | rfl) | rfl
      · exact hlow c hc halpha
      · decide
      · decide
    · exact absurd hqr hnot
  · exact ⟨fun _ => Or.inr hqr, fun _ => ⟨fun h => absurd h hqr, fun h c hc => (h c hc).1⟩⟩

/-- The JSON of data whose characters need no escapes. -/
def attestationJson (d : String) : String :=
  "\x7b\"type\":\"attestation\",\"data\":\"" ++ d ++ "\"\x7d"

/-- Crates that know one attestation and its link. -/
def attestCrates (d : String) : DocumentCrates :=
  { sampleCrates with
    parseDocument := fun text =>
      if text = attestationJson d then .ok (attestationQr d) else .error "expected value"
    writeDocument := fun _ => .error "no writer"
    valueText := fun _ => ""
    shapeError := fun _ _ => "missing field"
    utf8Error := fun _ => "invalid utf-8 sequence"
    parseUrl := fun text =>
      if text = attestLink d then .ok (attestLinkUrl d) else .error "relative URL without a base" }

theorem attestCrates_parseDocument (d : String) :
    (attestCrates d).parseDocument (attestationJson d) = .ok (attestationQr d) := if_pos rfl

theorem attestCrates_parseUrl (d : String) :
    (attestCrates d).parseUrl (attestLink d) = .ok (attestLinkUrl d) := if_pos rfl

/-- The letters and digits of ASCII and of Latin-1. -/
def isLatinAlphanumeric (c : Char) : Bool :=
  c.isAlphanum || c.val == 170 || c.val == 178 || c.val == 179 || c.val == 181 || c.val == 185 ||
    c.val == 186 || (188 ≤ c.val && c.val ≤ 190) ||
    (192 ≤ c.val && c.val ≤ 255 && c.val != 215 && c.val != 247)

theorem isLatinAlphanumeric_extendsAscii : ExtendsAscii isLatinAlphanumeric := by
  intro c hc
  have hnot : ∀ n : UInt32, 128 ≤ n → (c.val == n) = false := by
    intro n hn
    exact beq_false_of_ne fun h => absurd (UInt32.lt_of_lt_of_le hc hn) (h ▸ UInt32.lt_irrefl _)
  have hlow : ∀ n : UInt32, 128 ≤ n → decide (n ≤ c.val) = false := by
    intro n hn
    exact decide_eq_false (UInt32.not_le.2 (UInt32.lt_of_lt_of_le hc hn))
  unfold isLatinAlphanumeric
  simp only [hnot 170 (by decide), hnot 178 (by decide), hnot 179 (by decide),
    hnot 181 (by decide), hnot 185 (by decide), hnot 186 (by decide), hlow 188 (by decide),
    hlow 192 (by decide), Bool.or_false, Bool.false_and]

theorem attestation_grammars_agree_on_token :
    SameGrammar (attestCrates "aB-9_") isLatinAlphanumeric 0 (attestationJson "aB-9_") "aB-9_" ↔
      (∀ c ∈ "aB-9_".toList, isLatinAlphanumeric c = true → c.val < 128) ∨
        ∃ c ∈ "aB-9_".toList, isLatinAlphanumeric c = false ∧ c ≠ '-' ∧ c ≠ '_' :=
  attestation_grammars_agree_iff (attestCrates "aB-9_") isLatinAlphanumeric
    isLatinAlphanumeric_extendsAscii 0 (attestationJson "aB-9_") "aB-9_" (by decide)
    (attestCrates_parseDocument _) (attestCrates_parseUrl _) (by decide +kernel)

/-- A letter beyond ASCII is taken from a code and not from a link. -/
theorem accented_letter_divides :
    validateQrPayload (attestCrates "\u00e9") isLatinAlphanumeric 0 (attestationJson "\u00e9") =
        .ok true ∧
      parse (attestCrates "\u00e9") (attestLink "\u00e9") =
        .error "invalid attestation data format (must be base64url)" ∧
      ¬ SameGrammar (attestCrates "\u00e9") isLatinAlphanumeric 0 (attestationJson "\u00e9") "\u00e9" := by
  have hqr : validateQrPayload (attestCrates "\u00e9") isLatinAlphanumeric 0
      (attestationJson "\u00e9") = .ok true := by decide +kernel
  have hlink : parse (attestCrates "\u00e9") (attestLink "\u00e9") =
      .error "invalid attestation data format (must be base64url)" := by decide +kernel
  refine ⟨hqr, hlink, fun h => ?_⟩
  have hparse := h.1 hqr
  rw [hlink] at hparse
  cases hparse

end ProviiSdk.Ffi
