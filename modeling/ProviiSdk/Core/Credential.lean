/-
  ProviiSdk.Core.Credential — parsing a credential with its checks.

  The constructor `from_json` of a credential: it parses the text, checks
  version, lengths and timestamp order, and drops the private fields.

  Main results:
    * `fromJson_ok_iff` — the constructor accepts exactly the texts that
      parse to a well-formed credential, and returns its public fields.
-/

import ProviiSdk.Core.Types

namespace ProviiSdk.Core

/-! ## §1. The constructor -/

/-- What can be wrong with a credential; a parse error is its text. -/
inductive CredentialError where
  | invalidJson (msg : String)
  | missingPrivateFields
  | invalidFormat
  | expired
  | notYetValid
  | invalidTimestampOrder (iat exp : UInt64)
  | unsupportedVersion (v : UInt8)
  deriving DecidableEq, Repr

/-- The `Display` text of a credential error. -/
def CredentialError.display : CredentialError → String
  | .invalidJson msg => "invalid credential json: " ++ msg
  | .missingPrivateFields => "credential missing required private fields"
  | .invalidFormat => "invalid credential format"
  | .expired => "credential expired"
  | .notYetValid => "credential not yet valid"
  | .invalidTimestampOrder iat exp => s!"credential iat ({iat.toNat}) exceeds exp ({exp.toNat})"
  | .unsupportedVersion v => s!"unsupported credential version: expected 2, got {v.toNat}"

/-- Rust's `validate_timestamp_order`. -/
def CredentialV2.validateTimestampOrder (cred : CredentialV2) : Except CredentialError Unit :=
  if cred.iat > cred.exp then .error (.invalidTimestampOrder cred.iat cred.exp) else .ok ()

/-- Parse a credential and check it; the private fields are dropped. -/
def CredentialV2.fromJson (X : Crates) (s : String) : Except CredentialError CredentialV2 :=
  match X.parseCredential s with
  | .error e => .error (.invalidJson e)
  | .ok cred =>
    if cred.v ≠ 2 then .error (.unsupportedVersion cred.v)
    else if cred.kid.utf8ByteSize > 256 then .error .invalidFormat
    else if cred.schema.utf8ByteSize > 256 then .error .invalidFormat
    else
      let cred := { cred with dobDays := none, rBits := none }
      match cred.validateTimestampOrder with
      | .error e => .error e
      | .ok () => .ok cred

/-! ## §2. What it accepts -/

/-- The lengths the constructor admits for the two texts. -/
def TextsWithinLimits (kid schema : String) : Prop :=
  kid.utf8ByteSize ≤ 256 ∧ schema.utf8ByteSize ≤ 256

/-- A well-formed credential: version, timestamp order and lengths. -/
structure CredentialV2.WellFormed (cred : CredentialV2) : Prop where
  v : cred.v = 2
  order : cred.iat ≤ cred.exp
  texts : TextsWithinLimits cred.kid cred.schema

/-- Well-formedness does not depend on the private fields. -/
theorem CredentialV2.wellFormed_public_iff (cred : CredentialV2) (dobDays : Option Int32)
    (rBits : Option (List Bool)) :
    ({ cred with dobDays, rBits } : CredentialV2).WellFormed ↔ cred.WellFormed :=
  ⟨fun h => ⟨h.v, h.order, h.texts⟩, fun h => ⟨h.v, h.order, h.texts⟩⟩

theorem validateTimestampOrder_ok_iff (cred : CredentialV2) :
    cred.validateTimestampOrder = .ok () ↔ cred.iat ≤ cred.exp := by
  unfold CredentialV2.validateTimestampOrder
  split
  next h => simpa using h
  next h => simpa using h

/-- **The constructor accepts exactly the well-formed credentials.** -/
theorem fromJson_ok_iff (X : Crates) (s : String) (cred : CredentialV2) :
    CredentialV2.fromJson X s = .ok cred ↔
      ∃ parsed, X.parseCredential s = .ok parsed ∧ parsed.WellFormed ∧
        cred = { parsed with dobDays := none, rBits := none } := by
  unfold CredentialV2.fromJson
  cases X.parseCredential s with
  | error e => simp
  | ok parsed =>
    simp only [Except.ok.injEq, exists_eq_left']
    by_cases hv : parsed.v = 2
    · by_cases hkid : parsed.kid.utf8ByteSize ≤ 256
      · by_cases hschema : parsed.schema.utf8ByteSize ≤ 256
        · rw [if_neg (not_not.2 hv), if_neg (Nat.not_lt.2 hkid), if_neg (Nat.not_lt.2 hschema)]
          have hwf : parsed.WellFormed ↔ parsed.iat ≤ parsed.exp :=
            ⟨fun h => h.order, fun h => ⟨hv, h, hkid, hschema⟩⟩
          rw [hwf]
          have hord := validateTimestampOrder_ok_iff { parsed with dobDays := none, rBits := none }
          cases hr : CredentialV2.validateTimestampOrder
              { parsed with dobDays := none, rBits := none } with
          | error e =>
            rw [hr] at hord
            have hnot : ¬ parsed.iat ≤ parsed.exp := fun h => by cases hord.2 h
            simp [hnot]
          | ok u =>
            rw [hr] at hord
            have hle : parsed.iat ≤ parsed.exp := hord.1 rfl
            simp [hle, eq_comm]
        · rw [if_neg (not_not.2 hv), if_neg (Nat.not_lt.2 hkid), if_pos (Nat.lt_of_not_le hschema)]
          exact iff_of_false (by simp) fun h => hschema h.1.texts.2
      · rw [if_neg (not_not.2 hv), if_pos (Nat.lt_of_not_le hkid)]
        exact iff_of_false (by simp) fun h => hkid h.1.texts.1
    · rw [if_pos hv]
      exact iff_of_false (by simp) fun h => hv h.1.v

end ProviiSdk.Core
