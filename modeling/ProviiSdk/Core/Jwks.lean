/-
  ProviiSdk.Core.Jwks — which entries of a JWKS document become issuer keys.

  The loop over a document's keys skips an entry for any of six reasons
  and takes the others in order.  Here the entries it takes are stated on
  their own, without the loop, and the trust check on a header is brought
  back to them.

  Main results:
    * `jwkKey_eq_some_iff` — which entries are taken, and as what.
    * `extracted_iff` — a document's keys are those of its issuer
      entries, in document order.
    * `jwks_filtering_exact` — the filtering, and that other entries
      make no difference to it or to the check of a header.
-/

import ProviiSdk.Core.Issuance
import ProviiSdk.Core.Sample

namespace ProviiSdk.Core

/-! ## §1. Issuer entries -/

/-- **An issuer entry** with its key: type OKP, curve JUBJUB, a text as
    its key id, and a text that decodes to the 32 bytes of the key. -/
structure IssuerEntry (X : Crates) (entry : Json) (key : TrustedIssuerKey) : Prop where
  kty : entry.get "kty" = some (.str "OKP")
  crv : entry.get "crv" = some (.str "JUBJUB")
  kid : entry.get "kid" = some (.str key.kid)
  x : ∃ x, entry.get "x" = some (.str x) ∧ X.b64.decode x.toList = .ok key.vk.toList

/-- The keys of the issuer entries among some entries, in order. -/
inductive Extracted (X : Crates) : List Json → List TrustedIssuerKey → Prop where
  | nil : Extracted X [] []
  | keep {entry : Json} {key : TrustedIssuerKey} {entries : List Json}
      {keys : List TrustedIssuerKey} (h : IssuerEntry X entry key) (rest : Extracted X entries keys) :
      Extracted X (entry :: entries) (key :: keys)
  | skip {entry : Json} {entries : List Json} {keys : List TrustedIssuerKey}
      (h : ∀ key, ¬ IssuerEntry X entry key) (rest : Extracted X entries keys) :
      Extracted X (entry :: entries) keys

/-- A text field of an entry. -/
theorem get_asStr_eq_some_iff (entry : Json) (name text : String) :
    (entry.get name).bind Json.asStr = some text ↔ entry.get name = some (.str text) := by
  cases entry.get name with
  | none => simp
  | some v =>
    cases v with
    | str s => simp [Json.asStr]
    | null | bool | num | arr | obj => simp [Json.asStr]

/-- A text field, read with the empty text as its default. -/
private theorem eq_of_getD_asStr {entry : Json} {name text : String} (hne : text ≠ "")
    (h : ((entry.get name).bind Json.asStr).getD "" = text) : entry.get name = some (.str text) := by
  rw [← get_asStr_eq_some_iff]
  cases hget : (entry.get name).bind Json.asStr with
  | none =>
    rw [hget, Option.getD_none] at h
    exact absurd h.symm hne
  | some s =>
    rw [hget, Option.getD_some] at h
    rw [h]

/-- An entry that the loop takes is an issuer entry. -/
theorem issuerEntry_of_jwkKey {X : Crates} {entry : Json} {key : TrustedIssuerKey}
    (h : jwkKey X entry = some key) : IssuerEntry X entry key := by
  unfold jwkKey at h
  simp only at h
  split at h
  next => cases h
  next htype =>
    rw [not_or, not_not, not_not] at htype
    split at h
    next => cases h
    next kid hkid =>
      split at h
      next => cases h
      next x hx =>
        split at h
        next => cases h
        next bytes hdecode =>
          split at h
          next hlen =>
            injection h with h
            rw [← h]
            exact ⟨eq_of_getD_asStr (by decide) htype.1, eq_of_getD_asStr (by decide) htype.2,
              (get_asStr_eq_some_iff ..).1 hkid, x, (get_asStr_eq_some_iff ..).1 hx, hdecode⟩
          next => cases h

/-- The loop takes every issuer entry. -/
theorem jwkKey_of_issuerEntry {X : Crates} {entry : Json} {key : TrustedIssuerKey}
    (h : IssuerEntry X entry key) : jwkKey X entry = some key := by
  obtain ⟨x, hx, hdecode⟩ := h.x
  have hlen : key.vk.toList.length = 32 := List.Vector.toList_length _
  unfold jwkKey
  simp only [h.kty, h.crv, h.kid, hx, Option.bind_some, Json.asStr, Option.getD_some, ne_eq,
    not_true_eq_false, or_self, if_false, hdecode, hlen, dif_pos]
  rfl

/-- **Which entries are taken**: the issuer entries, each as its key. -/
theorem jwkKey_eq_some_iff (X : Crates) (entry : Json) (key : TrustedIssuerKey) :
    jwkKey X entry = some key ↔ IssuerEntry X entry key :=
  ⟨issuerEntry_of_jwkKey, jwkKey_of_issuerEntry⟩

/-- An entry that is none is skipped. -/
theorem jwkKey_eq_none {X : Crates} {entry : Json} (h : ∀ key, ¬ IssuerEntry X entry key) :
    jwkKey X entry = none := by
  rw [Option.eq_none_iff_forall_not_mem]
  intro key hkey
  exact h key ((jwkKey_eq_some_iff X entry key).1 hkey)

/-- **The loop takes the issuer entries in order**, and nothing else. -/
theorem extracted_iff (X : Crates) (entries : List Json) (keys : List TrustedIssuerKey) :
    Extracted X entries keys ↔ keys = entries.filterMap (jwkKey X) := by
  constructor
  · intro h
    induction h with
    | nil => rfl
    | keep h _ ih => rw [List.filterMap_cons_some ((jwkKey_eq_some_iff ..).2 h), ← ih]
    | skip h _ ih => rw [List.filterMap_cons_none (jwkKey_eq_none h), ← ih]
  · rintro rfl
    induction entries with
    | nil => exact .nil
    | cons entry entries ih =>
      cases hentry : jwkKey X entry with
      | none =>
        rw [List.filterMap_cons_none hentry]
        refine .skip (fun key hkey => ?_) ih
        rw [(jwkKey_eq_some_iff X entry key).2 hkey] at hentry
        cases hentry
      | some key =>
        rw [List.filterMap_cons_some hentry]
        exact .keep ((jwkKey_eq_some_iff X entry key).1 hentry) ih

/-! ## §2. Documents -/

/-- The text is a JSON document with this array of keys. -/
def HasKeys (X : Crates) (jwksJson : String) (entries : List Json) : Prop :=
  ∃ jwks, X.parseJson jwksJson = .ok jwks ∧ jwks.get "keys" = some (.arr entries)

/-- A document with an array of keys is read through the loop. -/
theorem parseJwksIntoKeys_of_hasKeys {X : Crates} {jwksJson : String} {entries : List Json}
    (h : HasKeys X jwksJson entries) :
    parseJwksIntoKeys X jwksJson = .ok (entries.filterMap (jwkKey X)) := by
  obtain ⟨jwks, hparse, hkeys⟩ := h
  unfold parseJwksIntoKeys
  rw [hparse]
  simp only
  rw [hkeys]
  rfl

/-- An entry is added to, or taken out of, a list of entries. -/
def OneEntryApart (entry : Json) (entries entries' : List Json) : Prop :=
  ∃ front back, (entries = front ++ back ∧ entries' = front ++ entry :: back) ∨
    (entries = front ++ entry :: back ∧ entries' = front ++ back)

/-- A skipped entry makes no difference to the loop. -/
theorem filterMap_of_oneEntryApart {X : Crates} {entry : Json} {entries entries' : List Json}
    (hentry : ∀ key, ¬ IssuerEntry X entry key) (h : OneEntryApart entry entries entries') :
    entries'.filterMap (jwkKey X) = entries.filterMap (jwkKey X) := by
  obtain ⟨front, back, ⟨hold, hnew⟩ | ⟨hold, hnew⟩⟩ := h
  · rw [hold, hnew, List.filterMap_append, List.filterMap_append,
      List.filterMap_cons_none (jwkKey_eq_none hentry)]
  · rw [hold, hnew, List.filterMap_append, List.filterMap_append,
      List.filterMap_cons_none (jwkKey_eq_none hentry)]

/-- **JWKS filtering is exact.**  A document with an array of keys is
    read as the keys of its issuer entries, in order; another entry, put
    in or taken out anywhere, leaves the result as it is; and a header
    passes the trust check against it exactly if its issuer key is the
    key of an issuer entry. -/
theorem jwks_filtering_exact (X : Crates) (jwksJson : String) (entries : List Json)
    (h : HasKeys X jwksJson entries) :
    ∃ keys, parseJwksIntoKeys X jwksJson = .ok keys ∧
      (∀ keys', Extracted X entries keys' ↔ keys' = keys) ∧
      (∀ entry jwksJson' entries', (∀ key, ¬ IssuerEntry X entry key) →
        OneEntryApart entry entries entries' → HasKeys X jwksJson' entries' →
        parseJwksIntoKeys X jwksJson' = .ok keys) ∧
      ∀ header fetchedAt, validateIssuerVk header { keys, fetchedAt } = .ok () ↔
        ∃ entry ∈ entries, ∃ key, IssuerEntry X entry key ∧ header.issuerVk = key.vk := by
  refine ⟨_, parseJwksIntoKeys_of_hasKeys h, extracted_iff X entries, ?_, ?_⟩
  · intro entry jwksJson' entries' hentry hapart h'
    rw [parseJwksIntoKeys_of_hasKeys h', filterMap_of_oneEntryApart hentry hapart]
  · intro header fetchedAt
    rw [validateIssuerVk_ok_iff]
    constructor
    · rintro ⟨key, hkey, hvk⟩
      obtain ⟨entry, hmem, hentry⟩ := List.mem_filterMap.1 hkey
      exact ⟨entry, hmem, key, (jwkKey_eq_some_iff ..).1 hentry, hvk⟩
    · rintro ⟨entry, hmem, key, hentry, hvk⟩
      exact ⟨key, List.mem_filterMap.2 ⟨entry, hmem, (jwkKey_eq_some_iff ..).2 hentry⟩, hvk⟩

/-- A document of one issuer key between an entry of another type and
    one that is no object. -/
def mixedEntries : List Json :=
  [.obj [("kty", .str "RSA"), ("kid", .str "provii:rsa")],
    .obj [("kty", .str "OKP"), ("crv", .str "JUBJUB"), ("kid", .str "provii:2026-05"),
      ("x", .str "AAAAAAAAAAAAAAAAAAAAAAAAAAAAAAAAAAAAAAAAAAA")],
    .null]

def mixedJwks : Json := .obj [("keys", .arr mixedEntries)]

/-- Crates for which every text is that document. -/
def mixedCrates : Crates := { sampleCrates with parseJson := fun _ => .ok mixedJwks }

theorem jwks_filtering_mixed :
    parseJwksIntoKeys mixedCrates "" = .ok [⟨"provii:2026-05", zeroBytes 32⟩] ∧
      ∃ keys, parseJwksIntoKeys mixedCrates "" = .ok keys ∧
        (∀ keys', Extracted mixedCrates mixedEntries keys' ↔ keys' = keys) ∧
        (∀ entry jwksJson' entries', (∀ key, ¬ IssuerEntry mixedCrates entry key) →
          OneEntryApart entry mixedEntries entries' → HasKeys mixedCrates jwksJson' entries' →
          parseJwksIntoKeys mixedCrates jwksJson' = .ok keys) ∧
        ∀ header fetchedAt, validateIssuerVk header { keys, fetchedAt } = .ok () ↔
          ∃ entry ∈ mixedEntries, ∃ key, IssuerEntry mixedCrates entry key ∧
            header.issuerVk = key.vk :=
  ⟨by decide +kernel, jwks_filtering_exact mixedCrates "" mixedEntries ⟨mixedJwks, rfl, rfl⟩⟩

end ProviiSdk.Core
