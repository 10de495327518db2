/-
  ProviiSdk.Core.CredentialJson — a credential as JSON, written and read.

  What the derived serde impls of a credential do with a document: the
  byte arrays are arrays of numbers, the private fields are read if they
  are there and never written.  The constructor then checks what was read
  and empties the private fields.

  Main results:
    * `ofDocument_toDocument_credential` — a written credential reads
      back without its private fields.
    * `credential_json_codec` — the round trip through the constructor,
      exactly, and that no text carries a private field either way.
-/

import ProviiSdk.Core.Challenge
import ProviiSdk.Core.Credential

namespace ProviiSdk.Core

open ProviiSdk.Check

/-! ## §1. Bytes and bits -/

/-- Serde's reading at `u8`. -/
def Json.asU8 (v : Json) : Option UInt8 :=
  v.asInt.bind fun i => if 0 ≤ i ∧ i ≤ 255 then some (UInt8.ofNat i.toNat) else none

def Json.ofU8 (n : UInt8) : Json := .num (intText n.toNat)

/-- Serde's reading at `Vec<u8>`, and at arrays and signatures of a
    fixed length. -/
def Json.asBytes (v : Json) : Option (List UInt8) := v.asArray.bind fun items => items.mapM Json.asU8

def Json.asBytesOf (n : Nat) (v : Json) : Option (List.Vector UInt8 n) :=
  v.asBytes.bind fun bytes => if h : bytes.length = n then some ⟨bytes, h⟩ else none

def Json.ofBytes (bytes : List UInt8) : Json := .arr (bytes.map Json.ofU8)

def Json.asBool : Json → Option Bool
  | .bool b => some b
  | _ => none

/-- Serde's reading at `Vec<bool>`. -/
def Json.asBits (v : Json) : Option (List Bool) := v.asArray.bind fun items => items.mapM Json.asBool

theorem asU8_ofU8 (n : UInt8) : (Json.ofU8 n).asU8 = some n := by
  have hlt : n.toNat < 256 := n.toNat_lt
  unfold Json.asU8 Json.ofU8
  rw [asInt_intText _ (by omega) (by omega), Option.bind_some, if_pos ⟨by omega, by omega⟩,
    Int.toNat_natCast, UInt8.ofNat_toNat]

/-- Bytes read back. -/
theorem asBytes_ofBytes (bytes : List UInt8) : (Json.ofBytes bytes).asBytes = some bytes := by
  have hitems : (bytes.map Json.ofU8).mapM Json.asU8 = some bytes := by
    induction bytes with
    | nil => rfl
    | cons b bs ih =>
      rw [List.map_cons, List.mapM_cons, asU8_ofU8, ih]
      rfl
  exact hitems

theorem asBytesOf_ofBytes {n : Nat} (bytes : List.Vector UInt8 n) :
    (Json.ofBytes bytes.toList).asBytesOf n = some bytes := by
  unfold Json.asBytesOf
  rw [asBytes_ofBytes, Option.bind_some, dif_pos (List.Vector.toList_length bytes)]
  rfl

/-! ## §2. The derived impls -/

/-- The fields of a credential, in declaration order. -/
def credentialFields : List String :=
  ["v", "kid", "issuer_vk", "sig_rj", "c_bytes", "iat", "exp", "schema", "dob_days", "r_bits"]

/-- Read a credential; the private fields may be there. -/
def CredentialV2.ofDocument (doc : Json) : Option CredentialV2 := do
  let field ← slots credentialFields false doc
  let v ← (field "v").required Json.asU8
  let kid ← (field "kid").required Json.asStr
  let issuerVk ← (field "issuer_vk").required (Json.asBytesOf 32)
  let sigRj ← (field "sig_rj").required (Json.asBytesOf 64)
  let cBytes ← (field "c_bytes").required (Json.asBytesOf 32)
  let iat ← (field "iat").required Json.asU64
  let exp ← (field "exp").required Json.asU64
  let schema ← (field "schema").required Json.asStr
  let dobDays ← (field "dob_days").defaulted Json.asI32
  let rBits ← (field "r_bits").defaulted Json.asBits
  return { v, kid, issuerVk, sigRj, cBytes, iat, exp, schema, dobDays, rBits }

/-- The document of a credential: the private fields are skipped. -/
def CredentialV2.toDocument (c : CredentialV2) : Json :=
  .obj [("v", .ofU8 c.v), ("kid", .str c.kid), ("issuer_vk", .ofBytes c.issuerVk.toList),
    ("sig_rj", .ofBytes c.sigRj.toList), ("c_bytes", .ofBytes c.cBytes.toList), ("iat", .ofU64 c.iat),
    ("exp", .ofU64 c.exp), ("schema", .str c.schema)]

/-- The method `redacted`: a copy without the private fields. -/
def CredentialV2.redacted (c : CredentialV2) : CredentialV2 := { c with dobDays := none, rBits := none }

/-- Serde's functions on documents, pretty printing among them. -/
structure SerdeCrates extends DocumentCrates where
  -- `serde_json::to_string_pretty`
  prettyDocument : Json → Except String String

/-- The crates with the derived impls of a credential in their places. -/
def SerdeCrates.derived (X : SerdeCrates) : Crates :=
  { X.toCrates with
    parseCredential := X.fromStr "CredentialV2" CredentialV2.ofDocument
    credentialJson := fun c => X.writeDocument c.toDocument }

def CredentialV2.toJson (X : Crates) (c : CredentialV2) : Except String String :=
  X.credentialJson c.redacted

def CredentialV2.toJsonPretty (X : SerdeCrates) (c : CredentialV2) : Except String String :=
  X.prettyDocument c.redacted.toDocument

/-! ## §3. The codec -/

/-- **A written credential reads back** without its private fields. -/
theorem ofDocument_toDocument_credential (c : CredentialV2) :
    CredentialV2.ofDocument c.toDocument = some c.redacted := by
  unfold CredentialV2.ofDocument CredentialV2.toDocument
  rw [slots_obj _ _ rfl]
  simp [Slot.required, Slot.defaulted, Json.asStr, asU8_ofU8, asU64_ofU64, asBytesOf_ofBytes,
    CredentialV2.redacted]

/-- Well-formedness is about the public fields. -/
theorem wellFormed_redacted_iff (c : CredentialV2) : c.redacted.WellFormed ↔ c.WellFormed :=
  c.wellFormed_public_iff none none

/-- A document is written as a text that reads as it: what `serde_json`
    promises of its own output. -/
def ReadsBack (X : DocumentCrates) (doc : Json) : Prop :=
  ∃ text, X.writeDocument doc = .ok text ∧ X.parseDocument text = .ok doc

/-- What the constructor does with the text of a credential. -/
theorem fromJson_of_document {X : SerdeCrates} {c : CredentialV2} {text : String}
    (hread : X.parseDocument text = .ok c.toDocument) (cred : CredentialV2) :
    CredentialV2.fromJson X.derived text = .ok cred ↔ c.WellFormed ∧ cred = c.redacted := by
  have hparse : X.derived.parseCredential text = .ok c.redacted := by
    show X.fromStr "CredentialV2" CredentialV2.ofDocument text = .ok c.redacted
    rw [fromStr_ok_iff]
    exact ⟨_, hread, ofDocument_toDocument_credential c⟩
  rw [fromJson_ok_iff, hparse]
  simp only [Except.ok.injEq, exists_eq_left', wellFormed_redacted_iff]
  exact Iff.rfl

/-- **The credential JSON codec.**  A credential's text reads back as the
    credential without its private fields if the credential is well
    formed, and is refused otherwise; credentials with the same public
    fields have the same text, compact or pretty; and whatever text it is
    given, the constructor returns no private field. -/
theorem credential_json_codec (X : SerdeCrates) (c : CredentialV2)
    (hjson : ReadsBack X.toDocumentCrates c.toDocument) :
    (∃ text, c.toJson X.derived = .ok text ∧
        (c.v = 2 ∧ c.kid.utf8ByteSize ≤ 256 ∧ c.schema.utf8ByteSize ≤ 256 ∧ c.iat ≤ c.exp →
          CredentialV2.fromJson X.derived text = .ok c.redacted) ∧
        (¬ (c.v = 2 ∧ c.kid.utf8ByteSize ≤ 256 ∧ c.schema.utf8ByteSize ≤ 256 ∧ c.iat ≤ c.exp) →
          ∃ e, CredentialV2.fromJson X.derived text = .error e)) ∧
      (∀ c' : CredentialV2, c'.redacted = c.redacted →
        c'.toJson X.derived = c.toJson X.derived ∧ c'.toJsonPretty X = c.toJsonPretty X) ∧
      ∀ s cred, CredentialV2.fromJson X.derived s = .ok cred →
        cred.dobDays = none ∧ cred.rBits = none := by
  obtain ⟨text, hwrite, hread⟩ := hjson
  have hwf : (c.v = 2 ∧ c.kid.utf8ByteSize ≤ 256 ∧ c.schema.utf8ByteSize ≤ 256 ∧ c.iat ≤ c.exp) ↔
      c.WellFormed :=
    ⟨fun h => ⟨h.1, h.2.2.2, h.2.1, h.2.2.1⟩, fun h => ⟨h.v, h.texts.1, h.texts.2, h.order⟩⟩
  refine ⟨⟨text, hwrite, fun h => ?_, fun h => ?_⟩, fun c' hpublic => ?_, fun s cred h => ?_⟩
  · exact (fromJson_of_document hread c.redacted).2 ⟨hwf.1 h, rfl⟩
  · cases hresult : CredentialV2.fromJson X.derived text with
    | error e => exact ⟨e, rfl⟩
    | ok cred => exact absurd (hwf.2 ((fromJson_of_document hread cred).1 hresult).1) h
  · -- both texts are of the redacted copy
    unfold CredentialV2.toJson CredentialV2.toJsonPretty
    rw [hpublic]
    exact ⟨rfl, rfl⟩
  · obtain ⟨parsed, -, -, hcred⟩ := (fromJson_ok_iff X.derived s cred).1 h
    rw [hcred]
    exact ⟨rfl, rfl⟩

/-! ## §4. An instance -/

/-- The text of a value that is no array or object; its characters need
    no escapes. -/
def scalarText : Json → String
  | .null => "null"
  | .bool b => if b then "true" else "false"
  | .num text => text
  | .str text => "\"" ++ text ++ "\""
  | _ => ""

/-- The text of a scalar or of an array of scalars, compact and pretty. -/
def compactValue : Json → String
  | .arr items => "[" ++ ",".intercalate (items.map scalarText) ++ "]"
  | v => scalarText v

def prettyValue : Json → String
  | .arr items =>
    "[\n" ++ ",\n".intercalate (items.map fun v => "    " ++ scalarText v) ++ "\n  ]"
  | v => scalarText v

/-- And of an object of such values. -/
def compactText : Json → String
  | .obj fields =>
    "\x7b" ++ ",".intercalate (fields.map fun f => "\"" ++ f.1 ++ "\":" ++ compactValue f.2) ++ "\x7d"
  | v => compactValue v

def prettyText : Json → String
  | .obj fields =>
    "\x7b\n" ++ ",\n".intercalate (fields.map fun f => "  \"" ++ f.1 ++ "\": " ++ prettyValue f.2) ++
      "\n\x7d"
  | v => prettyValue v

/-- Crates that know one document by its compact text. -/
def oneDocument (doc : Json) : SerdeCrates :=
  { sampleCrates with
    parseDocument := fun text => if text = compactText doc then .ok doc else .error "expected value"
    writeDocument := fun doc => .ok (compactText doc)
    valueText := compactText
    shapeError := fun _ _ => "missing field"
    utf8Error := fun _ => "invalid utf-8 sequence"
    parseUrl := fun _ => .error "relative URL without a base"
    prettyDocument := fun doc => .ok (prettyText doc) }

theorem oneDocument_readsBack (doc : Json) : ReadsBack (oneDocument doc).toDocumentCrates doc :=
  ⟨compactText doc, rfl, if_pos rfl⟩

/-- A well-formed credential with its private fields. -/
def fullCredential : CredentialV2 :=
  { sampleCredential with dobDays := some 7000, rBits := some [true, false] }

/-- Its text reads back without them, and they do not show in it. -/
theorem credential_json_codec_full :
    (∃ text, fullCredential.toJson (oneDocument fullCredential.toDocument).derived = .ok text ∧
        CredentialV2.fromJson (oneDocument fullCredential.toDocument).derived text =
          .ok sampleCredential) ∧
      sampleCredential.toJson (oneDocument fullCredential.toDocument).derived =
        fullCredential.toJson (oneDocument fullCredential.toDocument).derived := by
  obtain ⟨⟨text, hwrite, hread, -⟩, hpublic, -⟩ :=
    credential_json_codec (oneDocument fullCredential.toDocument) fullCredential
      (oneDocument_readsBack _)
  exact ⟨⟨text, hwrite, hread (by decide)⟩, (hpublic sampleCredential rfl).1⟩

end ProviiSdk.Core
