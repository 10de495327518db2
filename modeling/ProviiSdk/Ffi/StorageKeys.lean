/-
  ProviiSdk.Ffi.StorageKeys — namespaces, slots and the keys of records.

  Every credential lives under two dotted keys, a public record and a
  secrets record, built from a namespace, a slot and a base id.  This
  file holds the key functions of `storage.rs` and shows that they form
  a codec: the eight textual stems are a prefix-free family, an index
  field is closed by its dot, and a base id has no dot.

  Main results:
    * `recordPrefix_isPrefix_iff` — a slot's key prefix is a prefix of a
      record's key exactly when the record is of that place and kind.
    * `recordKey_inj` — distinct records have distinct keys.
    * `fromCredentialId_recordKey`, `isCredentialKey_recordKey`,
      `sandboxMarker_recordKey` — decoding and classifying a key.
    * `baseIdOf_recordKey` — stripping a public prefix.
-/

import ProviiSdk.Lib.Text
import ProviiSdk.Lib.Base64Url
import ProviiSdk.Platform.SecureStorage

namespace ProviiSdk.Ffi

open ProviiSdk.Platform ProviiSdk.Text

/-! ## §1. Slots, namespaces and prefixes -/

/-- The number of managed slots a namespace has. -/
def maxManagedSlots : UInt8 := 15

/-- A place for one credential: the primary slot or a managed one. -/
inductive CredentialSlot where
  | primary
  | managed (index : UInt8)
  deriving DecidableEq, Repr

/-- Production, sandbox, or an unrecognised key. -/
inductive CredentialNamespace where
  | primary
  | sandbox
  | unknown
  deriving DecidableEq, Repr

def primaryCredPrimaryPrefix : Key := "provii.cred.primary.".toList
def primaryCredsecPrimaryPrefix : Key := "provii.credsec.primary.".toList
def sandboxCredPrimaryPrefix : Key := "provii.sandbox.cred.primary.".toList
def sandboxCredsecPrimaryPrefix : Key := "provii.sandbox.credsec.primary.".toList

def primaryCredManagedPrefix : Key := "provii.cred.managed.".toList
def primaryCredsecManagedPrefix : Key := "provii.credsec.managed.".toList
def sandboxCredManagedPrefix : Key := "provii.sandbox.cred.managed.".toList
def sandboxCredsecManagedPrefix : Key := "provii.sandbox.credsec.managed.".toList

/-- The prefixes of public records. -/
def allCredPrefixes : List Key :=
  [primaryCredPrimaryPrefix, primaryCredManagedPrefix, sandboxCredPrimaryPrefix,
    sandboxCredManagedPrefix]

/-- The prefixes of secrets records. -/
def allCredsecPrefixes : List Key :=
  [primaryCredsecPrimaryPrefix, primaryCredsecManagedPrefix, sandboxCredsecPrimaryPrefix,
    sandboxCredsecManagedPrefix]

/-- The public and the secrets prefix of a slot.  An unrecognised
    namespace falls back to production. -/
def prefixesForSlot (ns : CredentialNamespace) (slot : CredentialSlot) : Key × Key :=
  match ns, slot with
  | .sandbox, .primary => (sandboxCredPrimaryPrefix, sandboxCredsecPrimaryPrefix)
  | .sandbox, .managed index =>
    (sandboxCredManagedPrefix ++ (decimal index.toNat ++ ['.']),
      sandboxCredsecManagedPrefix ++ (decimal index.toNat ++ ['.']))
  | _, .primary => (primaryCredPrimaryPrefix, primaryCredsecPrimaryPrefix)
  | _, .managed index =>
    (primaryCredManagedPrefix ++ (decimal index.toNat ++ ['.']),
      primaryCredsecManagedPrefix ++ (decimal index.toNat ++ ['.']))

/-- The namespace a label selects. -/
def fromLabel : Option String → CredentialNamespace
  | some l => if eqIgnoreAsciiCase l "sandbox" then .sandbox else .primary
  | none => .primary

/-- Rust's `parse::<u8>`. -/
def parseU8 (cs : List Char) : Option UInt8 := (parseUnsigned 256 cs).map UInt8.ofNat

/-- The managed index written in a key; 0 when none can be read. -/
def parseManagedIndexFromKey (key : Key) (sandbox : Bool) : UInt8 :=
  let pfx :=
    if sandbox then
      if sandboxCredManagedPrefix <+: key then sandboxCredManagedPrefix
      else sandboxCredsecManagedPrefix
    else if primaryCredManagedPrefix <+: key then primaryCredManagedPrefix
    else primaryCredsecManagedPrefix
  let remainder := (key.dropPrefix? pfx).getD ['0']
  (parseU8 (firstField '.' remainder)).getD 0

/-- The namespace and slot a key says it belongs to. -/
def fromCredentialId (id : Key) : CredentialNamespace × CredentialSlot :=
  if sandboxCredManagedPrefix <+: id ∨ sandboxCredsecManagedPrefix <+: id then
    (.sandbox, .managed (parseManagedIndexFromKey id true))
  else if sandboxCredPrimaryPrefix <+: id ∨ sandboxCredsecPrimaryPrefix <+: id then
    (.sandbox, .primary)
  else if primaryCredManagedPrefix <+: id ∨ primaryCredsecManagedPrefix <+: id then
    (.primary, .managed (parseManagedIndexFromKey id false))
  else if primaryCredPrimaryPrefix <+: id ∨ primaryCredsecPrimaryPrefix <+: id then
    (.primary, .primary)
  else (.unknown, .primary)

/-- Is the key a public record's?  It matches a public prefix and no
    secrets prefix. -/
def isCredentialKey (key : Key) : Bool :=
  match allCredPrefixes.find? (fun p => decide (p <+: key)) with
  | some _ => !allCredsecPrefixes.any (fun p => decide (p <+: key))
  | none => false

/-- The base id of a credential id: its slot's public prefix stripped,
    or the whole id when it does not start with it. -/
def baseIdOf (credId : Key) : Key :=
  let (ns, slot) := fromCredentialId credId
  (credId.dropPrefix? (prefixesForSlot ns slot).1).getD credId

/-- The secrets key that goes with a credential id. -/
def secretsKeyOf (credId : Key) : Key :=
  let (ns, slot) := fromCredentialId credId
  (prefixesForSlot ns slot).2 ++ baseIdOf credId

/-- The marker the wallet looks for to tell sandbox ids from the rest. -/
def sandboxMarker : Key := ".sandbox.".toList

/-- The key the issuer trust anchor is persisted under. -/
def trustAnchorStorageKey : Key := "provii.issuer.trust_anchor".toList

/-! ## §2. Places, kinds and base ids -/

/-- The two records of a credential. -/
inductive RecordKind where
  | cred
  | credsec
  deriving DecidableEq, Repr

/-- A recognised namespace together with one of its slots. -/
structure Place where
  ns : CredentialNamespace
  slot : CredentialSlot
  known : ns ≠ .unknown
  deriving DecidableEq

/-- A base id: a text over the base64url alphabet. -/
abbrev BaseId := { b : Key // ∀ c ∈ b, Base64Url.isAlphabetChar c = true }

/-- The key prefix of the records of one kind at a place. -/
def recordPrefix (p : Place) : RecordKind → Key
  | .cred => (prefixesForSlot p.ns p.slot).1
  | .credsec => (prefixesForSlot p.ns p.slot).2

/-- The key of a record. -/
def recordKey (p : Place) (kind : RecordKind) (b : BaseId) : Key := recordPrefix p kind ++ b.val

/-- The place a label and a slot select. -/
def placeOf (label : Option String) (slot : CredentialSlot) : Place where
  ns := fromLabel label
  slot := slot
  known := by
    unfold fromLabel
    split
    · split <;> simp
    · simp

theorem dot_notMem_baseId (b : BaseId) : '.' ∉ b.val := by
  intro h
  have := b.property '.' h
  exact absurd this (by decide)

/-! ## §3. The stems are prefix-free -/

/-- The constant text a record key starts with. -/
def stem : Bool → Bool → RecordKind → Key
  | false, false, .cred => primaryCredPrimaryPrefix
  | false, false, .credsec => primaryCredsecPrimaryPrefix
  | false, true, .cred => primaryCredManagedPrefix
  | false, true, .credsec => primaryCredsecManagedPrefix
  | true, false, .cred => sandboxCredPrimaryPrefix
  | true, false, .credsec => sandboxCredsecPrimaryPrefix
  | true, true, .cred => sandboxCredManagedPrefix
  | true, true, .credsec => sandboxCredsecManagedPrefix

/-- Is the namespace the sandbox? -/
def CredentialNamespace.isSandbox : CredentialNamespace → Bool
  | .sandbox => true
  | .primary => false
  | .unknown => false

/-- Is the slot a managed one? -/
def CredentialSlot.isManaged : CredentialSlot → Bool
  | .primary => false
  | .managed _ => true

/-- The dot-closed index field of a slot; the primary slot has none. -/
def CredentialSlot.indexField : CredentialSlot → Key
  | .primary => []
  | .managed index => decimal index.toNat ++ ['.']

theorem recordPrefix_eq (p : Place) (kind : RecordKind) :
    recordPrefix p kind = stem p.ns.isSandbox p.slot.isManaged kind ++ p.slot.indexField := by
  obtain ⟨ns, slot, known⟩ := p
  cases slot with
  | primary =>
    show recordPrefix ⟨ns, .primary, known⟩ kind = stem ns.isSandbox false kind ++ []
    rw [List.append_nil]
    cases ns with
    | unknown => exact absurd rfl known
    | primary => cases kind <;> rfl
    | sandbox => cases kind <;> rfl
  | managed index =>
    cases ns with
    | unknown => exact absurd rfl known
    | primary => cases kind <;> rfl
    | sandbox => cases kind <;> rfl

private theorem isSandbox_inj (a b : CredentialNamespace) (ha : a ≠ .unknown) (hb : b ≠ .unknown)
    (h : a.isSandbox = b.isSandbox) : a = b := by
  cases a <;> cases b <;> simp_all [CredentialNamespace.isSandbox]

/-- A place is fixed by its sandbox bit and its slot. -/
theorem Place.ext_of (p q : Place) (hs : p.ns.isSandbox = q.ns.isSandbox) (h : p.slot = q.slot) :
    p = q := by
  obtain ⟨ns, slot, known⟩ := p
  obtain ⟨ns', slot', known'⟩ := q
  cases h
  have hns : ns = ns' := isSandbox_inj ns ns' known known' hs
  cases hns
  rfl

/-- No stem is a prefix of another one. -/
theorem stem_prefix_free (s m s' m' : Bool) (k k' : RecordKind) :
    stem s m k <+: stem s' m' k' ↔ s = s' ∧ m = m' ∧ k = k' := by
  cases s <;> cases m <;> cases k <;> cases s' <;> cases m' <;> cases k' <;> decide

/-- A stem is a prefix of a key built on a stem only if they are the
    same stem. -/
theorem stem_isPrefix_append_iff (s m s' m' : Bool) (k k' : RecordKind) (rest : Key) :
    stem s m k <+: stem s' m' k' ++ rest ↔ s = s' ∧ m = m' ∧ k = k' := by
  constructor
  · intro h
    rcases prefix_or_prefix_of_prefix_append _ _ _ h with h | h
    · exact (stem_prefix_free s m s' m' k k').1 h
    · obtain ⟨hs, hm, hk⟩ := (stem_prefix_free s' m' s m k' k).1 h
      exact ⟨hs.symm, hm.symm, hk.symm⟩
  · rintro ⟨rfl, rfl, rfl⟩
    exact List.prefix_append _ _

/-- An index field is a prefix of an index field with a base id behind
    it only if the slots agree: index 1 never matches index 10. -/
theorem indexField_isPrefix (s t : CredentialSlot) (b : BaseId) (hm : s.isManaged = t.isManaged)
    (h : s.indexField <+: t.indexField ++ b.val) : s = t := by
  cases s with
  | primary =>
    cases t with
    | primary => rfl
    | managed j => exact absurd hm (by simp [CredentialSlot.isManaged])
  | managed i =>
    cases t with
    | primary => exact absurd hm (by simp [CredentialSlot.isManaged])
    | managed j =>
      have hi : '.' ∉ decimal i.toNat := notMem_decimal _ _ (by decide)
      have hj : '.' ∉ decimal j.toNat := notMem_decimal _ _ (by decide)
      have h' : decimal i.toNat ++ ['.'] <+: decimal j.toNat ++ '.' :: b.val := by
        simpa [CredentialSlot.indexField] using h
      have hd := field_prefix_inj '.' _ _ _ hi hj h'
      rw [UInt8.toNat_inj.1 (decimal_injective _ _ hd)]

/-! ## §4. Keys determine their records -/

/-- **Slot isolation of prefixes**: the prefix of a place and kind is a
    prefix of a record's key exactly when the record is of that place
    and kind. -/
theorem recordPrefix_isPrefix_iff (p q : Place) (k l : RecordKind) (b : BaseId) :
    recordPrefix p k <+: recordKey q l b ↔ p = q ∧ k = l := by
  constructor
  · intro h
    unfold recordKey at h
    rw [recordPrefix_eq, recordPrefix_eq, List.append_assoc] at h
    have hstem : stem p.ns.isSandbox p.slot.isManaged k <+:
        stem q.ns.isSandbox q.slot.isManaged l ++ (q.slot.indexField ++ b.val) :=
      (List.prefix_append _ _).trans h
    obtain ⟨hs, hm, hk⟩ := (stem_isPrefix_append_iff _ _ _ _ _ _ _).1 hstem
    rw [hs, hm, hk, List.prefix_append_right_inj] at h
    exact ⟨Place.ext_of p q hs (indexField_isPrefix _ _ b hm h), hk⟩
  · rintro ⟨rfl, rfl⟩
    exact List.prefix_append _ _

/-- **Distinct records have distinct keys.** -/
theorem recordKey_inj (p q : Place) (k l : RecordKind) (b c : BaseId) :
    recordKey p k b = recordKey q l c ↔ p = q ∧ k = l ∧ b = c := by
  constructor
  · intro h
    have hp : recordPrefix p k <+: recordKey q l c := by
      rw [← h]
      exact List.prefix_append _ _
    obtain ⟨rfl, rfl⟩ := (recordPrefix_isPrefix_iff p q k l c).1 hp
    exact ⟨rfl, rfl, Subtype.ext (List.append_cancel_left h)⟩
  · rintro ⟨rfl, rfl, rfl⟩
    rfl

/-! ## §5. Decoding and classifying a key -/

/-- The text behind the stem of a record's key. -/
theorem recordKey_eq (p : Place) (k : RecordKind) (b : BaseId) :
    recordKey p k b =
      stem p.ns.isSandbox p.slot.isManaged k ++ (p.slot.indexField ++ b.val) := by
  unfold recordKey
  rw [recordPrefix_eq, List.append_assoc]

/-- Every `starts_with` test of a record's key against a stem, settled
    by the record's own sandbox bit, slot and kind. -/
theorem stem_isPrefix_recordKey (s m : Bool) (k' : RecordKind) (p : Place) (k : RecordKind)
    (b : BaseId) :
    stem s m k' <+: recordKey p k b ↔
      s = p.ns.isSandbox ∧ m = p.slot.isManaged ∧ k' = k := by
  rw [recordKey_eq, stem_isPrefix_append_iff]

theorem parseU8_decimal (i : UInt8) : parseU8 (decimal i.toNat) = some i := by
  unfold parseU8
  rw [parseUnsigned_decimal 256 i.toNat i.toNat_lt, Option.map_some, UInt8.ofNat_toNat]

/-- The prefix `parse_managed_index_from_key` strips from a managed
    record's key is the record's own stem. -/
theorem parseManagedIndexFromKey_recordKey (p : Place) (i : UInt8) (k : RecordKind) (b : BaseId)
    (hslot : p.slot = .managed i) :
    parseManagedIndexFromKey (recordKey p k b) p.ns.isSandbox = i := by
  have hpfx : (if p.ns.isSandbox then
        if sandboxCredManagedPrefix <+: recordKey p k b then sandboxCredManagedPrefix
        else sandboxCredsecManagedPrefix
      else if primaryCredManagedPrefix <+: recordKey p k b then primaryCredManagedPrefix
      else primaryCredsecManagedPrefix) = stem p.ns.isSandbox true k := by
    have h1 := stem_isPrefix_recordKey true true .cred p k b
    have h2 := stem_isPrefix_recordKey false true .cred p k b
    simp only [stem, hslot, CredentialSlot.isManaged] at h1 h2
    simp only [h1, h2]
    cases p.ns.isSandbox <;> cases k <;> simp [stem]
  unfold parseManagedIndexFromKey
  simp only [hpfx]
  rw [recordKey_eq, hslot]
  show (parseU8 (firstField '.' (((stem p.ns.isSandbox true k ++
    ((decimal i.toNat ++ ['.']) ++ b.val)).dropPrefix? _).getD _))).getD 0 = i
  rw [dropPrefix?_append, Option.getD_some, List.append_assoc, List.singleton_append,
    firstField_append_sep '.' _ _ (notMem_decimal _ _ (by decide)), parseU8_decimal,
    Option.getD_some]

/-- **A record's key decodes to its place**, whichever kind it is. -/
theorem fromCredentialId_recordKey (p : Place) (k : RecordKind) (b : BaseId) :
    fromCredentialId (recordKey p k b) = (p.ns, p.slot) := by
  have hcase : ∀ s m, (stem s m .cred <+: recordKey p k b ∨ stem s m .credsec <+: recordKey p k b) ↔
      (s = p.ns.isSandbox ∧ m = p.slot.isManaged) := by
    intro s m
    rw [stem_isPrefix_recordKey, stem_isPrefix_recordKey]
    cases k <;> simp
  have h1 := hcase true true
  have h2 := hcase true false
  have h3 := hcase false true
  have h4 := hcase false false
  simp only [stem] at h1 h2 h3 h4
  unfold fromCredentialId
  simp only [h1, h2, h3, h4]
  have hidx := fun i => parseManagedIndexFromKey_recordKey p i k b
  obtain ⟨ns, slot, known⟩ := p
  cases ns with
  | unknown => exact absurd rfl known
  | primary =>
    cases slot with
    | primary => simp [CredentialNamespace.isSandbox, CredentialSlot.isManaged]
    | managed i =>
      have := hidx i rfl
      simp only [CredentialNamespace.isSandbox] at this
      simp [CredentialNamespace.isSandbox, CredentialSlot.isManaged, this]
  | sandbox =>
    cases slot with
    | primary => simp [CredentialNamespace.isSandbox, CredentialSlot.isManaged]
    | managed i =>
      have := hidx i rfl
      simp only [CredentialNamespace.isSandbox] at this
      simp [CredentialNamespace.isSandbox, CredentialSlot.isManaged, this]

/-- Stripping the public prefix of a place from a public key gives the
    base id. -/
theorem dropPrefix_recordKey (p : Place) (k : RecordKind) (b : BaseId) :
    (recordKey p k b).dropPrefix? (recordPrefix p k) = some b.val :=
  dropPrefix?_append _ _

theorem baseIdOf_recordKey (p : Place) (b : BaseId) : baseIdOf (recordKey p .cred b) = b.val := by
  unfold baseIdOf
  rw [fromCredentialId_recordKey]
  show ((recordKey p .cred b).dropPrefix? (recordPrefix p .cred)).getD _ = b.val
  rw [dropPrefix_recordKey, Option.getD_some]

theorem secretsKeyOf_recordKey (p : Place) (b : BaseId) :
    secretsKeyOf (recordKey p .cred b) = recordKey p .credsec b := by
  unfold secretsKeyOf
  rw [fromCredentialId_recordKey, baseIdOf_recordKey]
  rfl

/-- **Public keys, and only they, are credential keys** among the keys
    of records. -/
theorem isCredentialKey_recordKey (p : Place) (k : RecordKind) (b : BaseId) :
    isCredentialKey (recordKey p k b) = decide (k = .cred) := by
  have hall : ∀ s m k', (stem s m k' <+: recordKey p k b) ↔
      (s = p.ns.isSandbox ∧ m = p.slot.isManaged ∧ k' = k) :=
    fun s m k' => stem_isPrefix_recordKey s m k' p k b
  have c1 := hall false false .cred
  have c2 := hall false true .cred
  have c3 := hall true false .cred
  have c4 := hall true true .cred
  have s1 := hall false false .credsec
  have s2 := hall false true .credsec
  have s3 := hall true false .credsec
  have s4 := hall true true .credsec
  simp only [stem] at c1 c2 c3 c4 s1 s2 s3 s4
  unfold isCredentialKey allCredPrefixes allCredsecPrefixes
  simp only [List.find?, List.any, c1, c2, c3, c4, s1, s2, s3, s4]
  cases p.ns.isSandbox <;> cases p.slot.isManaged <;> cases k <;> rfl

/-- **The sandbox marker occurs exactly in sandbox keys.** -/
theorem sandboxMarker_recordKey (p : Place) (k : RecordKind) (b : BaseId) :
    sandboxMarker <:+: recordKey p k b ↔ p.ns = .sandbox := by
  constructor
  · intro h
    have hpre : sandboxMarker <:+: recordPrefix p k :=
      infix_append_left_of_notMem ".sandbox".toList _ _ '.' (dot_notMem_baseId b) h
    -- the letter `x` of the marker occurs in no production prefix
    have hx : 'x' ∈ recordPrefix p k := hpre.subset (by decide)
    rw [recordPrefix_eq, List.mem_append] at hx
    cases hns : p.ns with
    | sandbox => rfl
    | unknown => exact absurd hns p.known
    | primary =>
      rw [hns] at hx
      rcases hx with hx | hx
      · exfalso
        revert hx
        cases p.slot.isManaged <;> cases k <;> decide
      · exfalso
        cases hslot : p.slot with
        | primary => rw [hslot] at hx; exact absurd hx (by decide)
        | managed i =>
          rw [hslot] at hx
          have hx' : 'x' ∈ decimal i.toNat ++ ['.'] := hx
          rw [List.mem_append] at hx'
          rcases hx' with hx' | hx'
          · exact notMem_decimal _ _ (by decide) hx'
          · exact absurd hx' (by decide)
  · intro h
    rw [recordKey_eq, h]
    have hstem : sandboxMarker <:+: stem true p.slot.isManaged k := by
      cases p.slot.isManaged <;> cases k <;> decide
    exact hstem.trans (List.prefix_append _ _).isInfix

/-- The trust anchor's key is under no record prefix. -/
theorem recordPrefix_not_isPrefix_trustAnchor (p : Place) (k : RecordKind) :
    ¬ recordPrefix p k <+: trustAnchorStorageKey := by
  intro h
  rw [recordPrefix_eq] at h
  have hstem : stem p.ns.isSandbox p.slot.isManaged k <+: trustAnchorStorageKey :=
    (List.prefix_append _ _).trans h
  revert hstem
  cases p.ns.isSandbox <;> cases p.slot.isManaged <;> cases k <;> decide

end ProviiSdk.Ffi
