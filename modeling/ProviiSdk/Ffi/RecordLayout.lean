/-
  ProviiSdk.Ffi.RecordLayout — a stored record, in the layout of today and before.

  A stored record is written through a mirror type without the private
  fields, so that the positional format reads back what it wrote.  Three
  fields of the metadata came with the managed credentials, and the
  first of them has a serde default for the records that are older.  A
  positional format knows no absent field, and a default is for those.

  Main results:
    * `stored_record_codec` — a record reads back without its private
      fields, which do not show in its bytes.
    * `decodeStored_encodeOld` — a record in the older layout does not
      read at all.
    * `listEntry_old` — and is left out of the list of credentials.
-/

import ProviiSdk.Core.Sample
import ProviiSdk.Ffi.StorageSpec

namespace ProviiSdk.Ffi

open ProviiSdk.Core ProviiSdk.Platform
open ProviiSdk.Wire (Codec utf8_length)

/-! ## §1. The codec of today -/

/-- No Rust string is longer than `isize::MAX` bytes. -/
def IsRustString (text : String) : Prop := text.utf8ByteSize ≤ 9223372036854775807

instance (text : String) : Decidable (IsRustString text) :=
  inferInstanceAs (Decidable (text.utf8ByteSize ≤ 9223372036854775807))

/-- The texts of a record. -/
def StoredCredential.texts (s : StoredCredential) : List String :=
  [s.credential.kid, s.credential.schema, s.metadata.credentialType] ++
    s.metadata.label.toList ++ s.metadata.nickname.toList

/-- A Rust string fits on the wire. -/
theorem string_fits {text : String} (h : IsRustString text) : Codec.string.fits text := by
  show (Wire.utf8 text).length < 18446744073709551616
  unfold IsRustString at h
  rw [utf8_length]
  omega

/-- A record of Rust strings fits on the wire. -/
theorem fits_of_rustStrings {s : StoredCredential} (h : ∀ text ∈ s.texts, IsRustString text) :
    s.Fits := by
  rw [StoredCredential.fits_iff]
  unfold StoredCredential.texts at h
  refine ⟨string_fits (h _ ?_), string_fits (h _ ?_), fun l hl => string_fits (h l ?_),
    string_fits (h _ ?_), fun n hn => string_fits (h n ?_)⟩
  · simp
  · simp
  · exact List.mem_append_left _ (List.mem_append_right _ (Option.mem_toList.2 hl))
  · simp
  · exact List.mem_append_right _ (Option.mem_toList.2 hn)

/-- Do two records differ in their private fields only? -/
def StoredCredential.SamePublic (s s' : StoredCredential) : Prop :=
  redacted s.credential = redacted s'.credential ∧ s.metadata = s'.metadata

/-- The mirror of a credential has its public fields only. -/
theorem ofCredential_redacted (c : CredentialV2) :
    PostcardCredential.ofCredential (redacted c) = PostcardCredential.ofCredential c := rfl

/-- **The stored record codec.**  A record reads back with its private
    fields emptied and every other field equal, and records that differ
    in the private fields only are written as the same bytes. -/
theorem stored_record_codec (s : StoredCredential) (h : ∀ text ∈ s.texts, IsRustString text) :
    decodeStored (encodeStored s) =
        some { credential := { s.credential with dobDays := none, rBits := none }
               metadata := s.metadata } ∧
      ∀ s', s.SamePublic s' → encodeStored s' = encodeStored s := by
  refine ⟨decodeStored_encodeStored s (fits_of_rustStrings h), ?_⟩
  rintro s' ⟨hpublic, hmetadata⟩
  unfold encodeStored
  rw [← ofCredential_redacted s.credential, ← ofCredential_redacted s'.credential, hpublic,
    hmetadata]

/-- A managed credential with its private fields. -/
def managedRecord : StoredCredential :=
  { credential := { sampleCredential with dobDays := some 7000, rBits := some [true] }
    metadata :=
      { importedAt := 1700000000, lastUsed := some 1700000600, useCount := 1,
        label := some "Sandbox", credentialType := "managed", nickname := some "Alex",
        managedIndex := some 3 } }

theorem stored_record_codec_managed :
    decodeStored (encodeStored managedRecord) =
        some { credential := { managedRecord.credential with dobDays := none, rBits := none }
               metadata := managedRecord.metadata } ∧
      ∀ s', managedRecord.SamePublic s' → encodeStored s' = encodeStored managedRecord :=
  stored_record_codec managedRecord (by decide)

/-! ## §2. The layout before managed credentials -/

/-- The metadata of a record written before managed credentials. -/
structure OldMetadata where
  importedAt : UInt64
  lastUsed : Option UInt64
  useCount : UInt32
  label : Option String
  deriving DecidableEq

/-- A public record of that time. -/
structure OldRecord where
  credential : CredentialV2
  metadata : OldMetadata
  deriving DecidableEq

/-- Positional encoding of the metadata of that time. -/
def oldMetadata : Codec OldMetadata :=
  (Codec.u64.pair <| Codec.u64.option.pair <| Codec.u32.pair Codec.string.option).embed
    (fun m => (m.importedAt, m.lastUsed, m.useCount, m.label))
    (fun (importedAt, lastUsed, useCount, label) => some { importedAt, lastUsed, useCount, label })
    (fun _ _ => rfl)

/-- The bytes of a record of that time. -/
def encodeOld (o : OldRecord) : Bytes :=
  (postcardCredential.pair oldMetadata).enc
    (PostcardCredential.ofCredential o.credential, o.metadata)

def OldRecord.texts (o : OldRecord) : List String :=
  [o.credential.kid, o.credential.schema] ++ o.metadata.label.toList

/-- The default of the credential type. -/
def defaultCredentialType : String := "primary"

/-- **The property** of an old record: its bytes read as a record of
    today, with the same credential and the default type. -/
def StillLoads (o : OldRecord) : Prop :=
  ∃ stored, decodeStored (encodeOld o) = some stored ∧
    stored.credential = redacted o.credential ∧
    stored.metadata.credentialType = defaultCredentialType

/-- The fields behind the label are not read from nothing. -/
private theorem dec_behind_label :
    (Codec.string.pair (Codec.string.option.pair Codec.byte.option)).dec [] = none := rfl

/-- **A record in the older layout does not read**: the reader asks for
    the credential type behind the label, where the bytes end. -/
theorem decodeStored_encodeOld (o : OldRecord) (h : ∀ text ∈ o.texts, IsRustString text) :
    decodeStored (encodeOld o) = none := by
  unfold OldRecord.texts at h
  have hkid := string_fits (h o.credential.kid (by simp))
  have hschema := string_fits (h o.credential.schema (by simp))
  have hlabel : ∀ l ∈ o.metadata.label, Codec.string.fits l :=
    fun l hl => string_fits (h l (List.mem_append_right _ (Option.mem_toList.2 hl)))
  have hsig : (o.credential.sigRj.toList).length < 18446744073709551616 := by
    rw [List.Vector.toList_length]
    decide
  have hcredential : postcardCredential.fits (PostcardCredential.ofCredential o.credential) :=
    ⟨trivial, hkid, trivial, hsig, trivial, UInt64.toNat_lt _, UInt64.toNat_lt _, hschema⟩
  -- field by field, up to the end of the bytes
  have hmetadata : credentialMetadata.dec (oldMetadata.enc o.metadata) = none := by
    have hafterLabel := Codec.pair_dec_eq_none Codec.string.option _ o.metadata.label []
      hlabel dec_behind_label
    have hafterCount := Codec.pair_dec_eq_none Codec.u32 _ o.metadata.useCount _
      (UInt32.toNat_lt _) hafterLabel
    have hafterUse := Codec.pair_dec_eq_none Codec.u64.option _ o.metadata.lastUsed _
      (fun t _ => UInt64.toNat_lt t) hafterCount
    have hafterImport := Codec.pair_dec_eq_none Codec.u64 _ o.metadata.importedAt _
      (UInt64.toNat_lt _) hafterUse
    rw [List.append_nil] at hafterImport
    exact Codec.embed_dec_eq_none _ _ _ _ _ hafterImport
  have hrecord := Codec.pair_dec_eq_none postcardCredential credentialMetadata _ _ hcredential
    hmetadata
  have hdec : storedCredentialWire.dec (encodeOld o) = none := hrecord
  unfold decodeStored Codec.decode
  rw [hdec, Option.map_none, Option.map_none]

/-- An old record is left out of the list of credentials, under any key. -/
theorem listEntry_old (f : Faults) (clock : Key → Int64) (kv : Kv) (key : Key) (item : Item)
    (o : OldRecord) (hitem : kv.lookup key = some item) (hdata : item.data = encodeOld o)
    (h : ∀ text ∈ o.texts, IsRustString text) : listEntry f clock kv key = none := by
  rw [Option.eq_none_iff_forall_not_mem]
  intro info hinfo
  obtain ⟨item', stored, hitem', hdecode, -⟩ := listEntry_record hinfo
  rw [hitem] at hitem'
  injection hitem' with hitem'
  rw [← hitem', hdata, decodeStored_encodeOld o h] at hdecode
  cases hdecode

/-- **No old record still loads.**  Whatever its credential and metadata,
    its bytes do not read as a record of today. -/
theorem not_stillLoads (o : OldRecord) (h : ∀ text ∈ o.texts, IsRustString text) :
    ¬ StillLoads o := by
  rintro ⟨stored, hdecode, -⟩
  rw [decodeStored_encodeOld o h] at hdecode
  cases hdecode

/-- A record of that time. -/
def plainOldRecord : OldRecord :=
  { credential := sampleCredential
    metadata := { importedAt := 1700000000, lastUsed := none, useCount := 0, label := none } }

theorem plainOldRecord_not_stillLoads : ¬ StillLoads plainOldRecord :=
  not_stillLoads plainOldRecord (by decide)

/-- So it is not true that every old record still loads. -/
theorem old_record_lost : ¬ ∀ o : OldRecord, StillLoads o := by
  intro hall
  obtain ⟨stored, hdecode, -⟩ := hall plainOldRecord
  have hnone : decodeStored (encodeOld plainOldRecord) = none := by decide +kernel
  rw [hnone] at hdecode
  cases hdecode

end ProviiSdk.Ffi
