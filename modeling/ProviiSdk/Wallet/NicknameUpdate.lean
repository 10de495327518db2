/-
  ProviiSdk.Wallet.NicknameUpdate — renaming a credential.

  A nickname is replaced by a read-modify-write of the whole record: the
  bytes are decoded, one field is set, and the record is encoded again
  and written under the same key.  The codec leaves the private fields
  out and ignores bytes behind the record, so that the bytes may change
  elsewhere; what they decode to does not.

  Main results:
    * `renamed_of_written` — the record that is written decodes to the
      one that was read, under its new nickname.
    * `listEntry_of_written` — and is listed as before but for it.
    * `nickname_update_framed` — the update is framed.
-/

import ProviiSdk.Ffi.RecordLayout
import ProviiSdk.Wallet.ForeignRecords

namespace ProviiSdk.Wallet

open ProviiSdk.Core ProviiSdk.Platform ProviiSdk.Ffi

/-! ## §1. What an update may change -/

/-- The public record under an id, if the store has one that decodes. -/
def recordOf (s : Storage) (id : Key) : Option StoredCredential :=
  (recordAt s id).bind fun item => decodeStored item.data

/-- A record under another nickname. -/
def withNickname (nickname : Option String) (stored : StoredCredential) : StoredCredential :=
  { stored with metadata := { stored.metadata with nickname } }

/-- What a listing shows under a key. -/
def shownAt (f : Faults) (clock : Key → Int64) (s : Storage) (key : Key) :
    Option CredentialInfo := s.backend.bind fun kv => listEntry f clock kv key

/-- The store `s'` is `s` with the record under `id` renamed. -/
structure Renamed (id : Key) (nickname : Option String) (s s' : Storage) : Prop where
  record : ∃ stored, recordOf s id = some stored ∧
    recordOf s' id = some (withNickname nickname stored)
  others : ∀ key, key ≠ id → recordAt s' key = recordAt s key

/-- The id and the slot a listing shows of a credential. -/
def placeShown (info : CredentialInfo) : Key × String × Option UInt8 :=
  (info.id, info.credentialType, info.managedIndex)

/-- The two stores hold the same keys, have the same next managed index,
    and list every credential under the same id in the same slot. -/
structure SamePlaces (s s' : Storage) : Prop where
  occupied : ∀ key, (recordAt s' key).isSome = (recordAt s key).isSome
  nextIndex : ∀ f ns, s'.read (nextAvailableManagedIndex f ns) =
    s.read (nextAvailableManagedIndex f ns)
  shown : ∀ f clock key,
    (shownAt f clock s' key).map placeShown = (shownAt f clock s key).map placeShown

theorem SamePlaces.refl (s : Storage) : SamePlaces s s :=
  ⟨fun _ => rfl, fun _ _ => rfl, fun _ _ _ => rfl⟩

/-! ## §2. One record written over itself -/

/-- An update fails and leaves the store alone, or writes the record it
    read under its new nickname. -/
theorem updateCredentialNickname_cases (X : Crates) (f : Faults) (id : Key)
    (nickname : Option String) (kv : Kv) :
    (∃ e, Ffi.updateCredentialNickname X f id nickname kv = (.error e, kv)) ∨
    ∃ item stored, kv.lookup id = some item ∧ decodeStored item.data = some stored ∧
      Ffi.updateCredentialNickname X f id nickname kv =
        (.ok (), kv.insert id ⟨encodeStored (withNickname nickname stored), .none⟩) := by
  unfold Ffi.updateCredentialNickname
  cases hret : retrieve f kv id with
  | error e => exact Or.inl ⟨_, rfl⟩
  | ok data =>
    obtain ⟨item, hitem, hdata⟩ := retrieve_eq_ok hret
    simp only
    cases hdecode : decodeStored data with
    | none => exact Or.inl ⟨_, rfl⟩
    | some stored =>
      rw [← hdata] at hdecode
      unfold store
      cases f.store id with
      | some e => exact Or.inl ⟨_, rfl⟩
      | none => exact Or.inr ⟨item, stored, hitem, hdecode, rfl⟩

/-- A record that was read fits on the wire under another nickname, and
    so reads back as it was written. -/
theorem decodeStored_withNickname {data : Bytes} {stored : StoredCredential}
    (h : decodeStored data = some stored) (nickname : Option String)
    (hnick : ∀ n ∈ nickname, IsRustString n) :
    decodeStored (encodeStored (withNickname nickname stored)) =
      some (withNickname nickname stored) := by
  have hfits : (withNickname nickname stored).Fits := by
    have hread := (StoredCredential.fits_iff stored).1 (fits_of_decodeStored h)
    obtain ⟨hkid, hschema, hlabel, htype, -⟩ := hread
    rw [StoredCredential.fits_iff]
    exact ⟨hkid, hschema, hlabel, htype, fun n hn => string_fits (hnick n hn)⟩
  -- a record that was read has no private fields to lose
  have hredacted : redacted stored.credential = stored.credential := by
    obtain ⟨hdob, hbits⟩ := decodeStored_private h
    unfold redacted
    rw [← hdob, ← hbits]
  have hround := decodeStored_encodeStored _ hfits
  unfold withNickname at hround ⊢
  rw [hredacted] at hround
  exact hround

/-- **The record that is written** decodes to the one that was read,
    under its new nickname; no other key is touched. -/
theorem renamed_of_written {kv : Kv} {id : Key} {item : Item} {stored : StoredCredential}
    (hitem : kv.lookup id = some item) (hdecode : decodeStored item.data = some stored)
    (nickname : Option String) (hnick : ∀ n ∈ nickname, IsRustString n) :
    Renamed id nickname ⟨some kv⟩
      ⟨some (kv.insert id ⟨encodeStored (withNickname nickname stored), .none⟩)⟩ := by
  refine ⟨⟨stored, ?_, ?_⟩, fun key hkey => ?_⟩
  · show (kv.lookup id).bind (fun item => decodeStored item.data) = some stored
    rw [hitem]
    exact hdecode
  · show ((kv.insert id _).lookup id).bind (fun item => decodeStored item.data) = _
    rw [AList.lookup_insert]
    exact decodeStored_withNickname hdecode nickname hnick
  · show (kv.insert id _).lookup key = kv.lookup key
    rw [AList.lookup_insert_ne hkey]

/-! ## §3. Occupancy and listings -/

/-- A key that is overwritten was there before. -/
theorem isSome_lookup_overwrite {kv : Kv} {id : Key} {item : Item} (hitem : kv.lookup id = some item)
    (item' : Item) (key : Key) :
    ((kv.insert id item').lookup key).isSome = (kv.lookup key).isSome := by
  rw [lookup_insert_of]
  split
  next h =>
    rw [h, hitem]
    rfl
  next => rfl

/-- The next managed index depends on the keys alone. -/
theorem nextIndex_of_keys {kv kv' : Kv}
    (h : ∀ key, (kv'.lookup key).isSome = (kv.lookup key).isSome) (f : Faults)
    (ns : CredentialNamespace) :
    nextAvailableManagedIndex f ns kv' = nextAvailableManagedIndex f ns kv := by
  unfold nextAvailableManagedIndex
  cases hlist : f.list with
  | some e =>
    have hfail : ∀ kv, listKeys f kv = .error e := fun kv => by
      unfold listKeys
      rw [hlist]
    rw [hfail, hfail]
  | none =>
    have hok : ∀ kv, listKeys f kv = .ok (f.listing.order kv.keys) := fun kv => by
      unfold listKeys
      rw [hlist]
    have hmem : ∀ key, key ∈ f.listing.order kv'.keys ↔ key ∈ f.listing.order kv.keys := by
      intro key
      rw [mem_listKeys (hok kv') key, mem_listKeys (hok kv) key, h key]
    rw [hok, hok]
    simp only [firstFreeIndex_congr (managedCredPrefix ns) hmem]

/-- **What a listing shows** of the record that is written is what it
    showed before, under the new nickname. -/
theorem listEntry_of_written {kv : Kv} {id : Key} {item : Item} {stored : StoredCredential}
    (hitem : kv.lookup id = some item) (hdecode : decodeStored item.data = some stored)
    (nickname : Option String) (hnick : ∀ n ∈ nickname, IsRustString n) (f : Faults)
    (clock : Key → Int64) (key : Key) :
    listEntry f clock (kv.insert id ⟨encodeStored (withNickname nickname stored), .none⟩) key =
      (listEntry f clock kv key).map fun info =>
        if key = id then { info with nickname } else info := by
  generalize hkv' : kv.insert id ⟨encodeStored (withNickname nickname stored), .none⟩ = kv'
  have hhas : ∀ k, exists? f kv' k = exists? f kv k := by
    intro k
    unfold exists?
    rw [← hkv', isSome_lookup_overwrite hitem]
  unfold listEntry
  split
  next =>
    rw [hhas]
    by_cases hkey : key = id
    · subst hkey
      unfold retrieve
      rw [← hkv', AList.lookup_insert, hitem]
      cases f.retrieve key with
      | some e => rfl
      | none =>
        simp only [decodeStored_withNickname hdecode nickname hnick, hdecode, Option.map_some,
          if_pos]
        rfl
    · have hretrieve : retrieve f kv' key = retrieve f kv key := by
        unfold retrieve
        rw [← hkv', AList.lookup_insert_ne hkey]
      simp only [hretrieve, if_neg hkey, Option.map_id']
  next => rfl

/-- Nor does it move any credential. -/
theorem samePlaces_of_written {kv : Kv} {id : Key} {item : Item} {stored : StoredCredential}
    (hitem : kv.lookup id = some item) (hdecode : decodeStored item.data = some stored)
    (nickname : Option String) (hnick : ∀ n ∈ nickname, IsRustString n) :
    SamePlaces ⟨some kv⟩
      ⟨some (kv.insert id ⟨encodeStored (withNickname nickname stored), .none⟩)⟩ := by
  have hkeys := isSome_lookup_overwrite hitem
    ⟨encodeStored (withNickname nickname stored), .none⟩
  refine ⟨hkeys, nextIndex_of_keys hkeys, fun f clock key => ?_⟩
  show (listEntry f clock (kv.insert id _) key).map placeShown =
    (listEntry f clock kv key).map placeShown
  rw [listEntry_of_written hitem hdecode nickname hnick, Option.map_map]
  congr 1
  funext info
  show placeShown (if key = id then { info with nickname } else info) = placeShown info
  split
  · rfl
  · rfl

/-! ## §4. The update -/

/-- **The nickname update is a framed read-modify-write.**  If it
    succeeds, the record decodes to the previous one with the nickname
    replaced and every other key keeps its item; if it fails, the store
    is what it was.  No credential changes its place. -/
theorem nickname_update_framed (X : Crates) (f : Faults) (s : Storage) (id : Key)
    (nickname : Option String) (hnick : ∀ n ∈ nickname, IsRustString n) :
    ((s.call (Ffi.updateCredentialNickname X f id nickname)).1 = .ok () →
      Renamed id nickname s (s.call (Ffi.updateCredentialNickname X f id nickname)).2) ∧
    (∀ e, (s.call (Ffi.updateCredentialNickname X f id nickname)).1 = .error e →
      (s.call (Ffi.updateCredentialNickname X f id nickname)).2 = s) ∧
    SamePlaces s (s.call (Ffi.updateCredentialNickname X f id nickname)).2 := by
  obtain ⟨backend⟩ := s
  cases backend with
  | none =>
    -- no backend is attached, and the method fails
    refine ⟨fun h => ?_, fun e _ => rfl, SamePlaces.refl _⟩
    cases h
  | some kv =>
    rw [call_some]
    rcases updateCredentialNickname_cases X f id nickname kv with
      ⟨e, hfail⟩ | ⟨item, stored, hitem, hdecode, hdone⟩
    · rw [hfail]
      refine ⟨fun h => ?_, fun e _ => rfl, SamePlaces.refl _⟩
      cases h
    · rw [hdone]
      refine ⟨fun _ => renamed_of_written hitem hdecode nickname hnick, fun e h => ?_,
        samePlaces_of_written hitem hdecode nickname hnick⟩
      cases h

def managedKey : Key := recordPrefix (placeOf (some "sandbox") (.managed 3)) .cred ++ "qg".toList

/-- A store with one managed credential. -/
def managedStore : Storage :=
  ⟨some ((∅ : Kv).insert managedKey ⟨encodeStored managedRecord, .none⟩)⟩

theorem nickname_update_framed_managed :
    ((managedStore.call
        (Ffi.updateCredentialNickname sampleCrates .never managedKey (some "Kim"))).1 = .ok () →
      Renamed managedKey (some "Kim") managedStore (managedStore.call
        (Ffi.updateCredentialNickname sampleCrates .never managedKey (some "Kim"))).2) ∧
    (∀ e, (managedStore.call
        (Ffi.updateCredentialNickname sampleCrates .never managedKey (some "Kim"))).1 = .error e →
      (managedStore.call
        (Ffi.updateCredentialNickname sampleCrates .never managedKey (some "Kim"))).2 =
        managedStore) ∧
    SamePlaces managedStore (managedStore.call
      (Ffi.updateCredentialNickname sampleCrates .never managedKey (some "Kim"))).2 :=
  nickname_update_framed sampleCrates .never managedStore managedKey (some "Kim") (by decide)

-- the update of the managed credential is one that succeeds
example : (managedStore.call
    (Ffi.updateCredentialNickname sampleCrates .never managedKey (some "Kim"))).1 = .ok () := by
  decide +kernel

end ProviiSdk.Wallet
