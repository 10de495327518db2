/-
  ProviiSdk.Core.CredentialStore — queries over a credential store.

  The core crate knows a credential store as a trait, and asks it for
  the first credential that satisfies an age, and to drop what has
  expired.  Both walk over a listing that was taken before; the second
  deletes while it walks.

  Main results:
    * `findAmong_eq` — what the search finds.
    * `removeExpired_spec` — what the walk over a listing removes.
    * `store_helpers_correct` — both helpers, on a store that does not
      fail.
-/

import Mathlib.Data.List.AList
import Mathlib.Data.Set.Card
import ProviiSdk.Core.Prover
import ProviiSdk.Core.Sample
import ProviiSdk.Lib.Sweep

namespace ProviiSdk.Core.Storage

open ProviiSdk.Sweep

/-! ## §1. The trait -/

inductive StorageError where
  | operationFailed (e : String)
  | notFound
  | alreadyExists
  | storageFull
  | serializationError (e : String)
  deriving DecidableEq

/-- What a listing says of a credential. -/
structure CredentialMetadata where
  id : String
  label : Option String
  importedAt : UInt64
  issuerName : Option String
  deriving DecidableEq

/-- The greatest `usize`, and the greatest length of a `Vec`. -/
def usizeMax : Nat := 18446744073709551615
def maxVecLen : Nat := 9223372036854775807

/-- A listing is a `Vec`. -/
abbrev Listing := { metas : List CredentialMetadata // metas.length ≤ maxVecLen }

variable {σ : Type}

/-- The trait, as far as the helpers call it. -/
structure SecureStore (σ : Type) where
  getCredential : σ → String → Except StorageError (Option CredentialV2)
  deleteCredential : σ → String → Except StorageError Bool × σ
  listCredentials : σ → Except StorageError Listing

/-! ## §2. The helpers -/

/-- The walk over a listing in search of an age. -/
def findAmong (S : SecureStore σ) (s : σ) (cutoffDays : Int32) (isUnderAge : Bool) :
    List CredentialMetadata → Except StorageError (Option CredentialV2)
  | [] => .ok none
  | m :: metas =>
    match S.getCredential s m.id with
    | .error e => .error e
    | .ok none => findAmong S s cutoffDays isUnderAge metas
    | .ok (some cred) =>
      match cred.dobDays with
      | none => findAmong S s cutoffDays isUnderAge metas
      | some dobDays =>
        if validateAge dobDays cutoffDays isUnderAge = true then .ok (some cred)
        else findAmong S s cutoffDays isUnderAge metas

def findBestCredential (S : SecureStore σ) (s : σ) (cutoffDays : Int32) (isUnderAge : Bool) :
    Except StorageError (Option CredentialV2) :=
  match S.listCredentials s with
  | .error e => .error e
  | .ok metas => findAmong S s cutoffDays isUnderAge metas.1

/-- The walk over a listing that deletes what has expired. -/
def removeExpired (S : SecureStore σ) (currentTimestamp : UInt64) :
    List CredentialMetadata → Nat → σ → Except StorageError Nat × σ
  | [], removed, s => (.ok removed, s)
  | m :: metas, removed, s =>
    match S.getCredential s m.id with
    | .error e => (.error e, s)
    -- the credential has gone since the listing
    | .ok none => removeExpired S currentTimestamp metas removed s
    | .ok (some cred) =>
      if cred.exp < currentTimestamp then
        match S.deleteCredential s m.id with
        | (.error e, s) => (.error e, s)
        | (.ok _, s) => removeExpired S currentTimestamp metas (min (removed + 1) usizeMax) s
      else removeExpired S currentTimestamp metas removed s

def cleanupExpired (S : SecureStore σ) (currentTimestamp : UInt64) (s : σ) :
    Except StorageError Nat × σ :=
  match S.listCredentials s with
  | .error e => (.error e, s)
  | .ok metas => removeExpired S currentTimestamp metas.1 0 s

/-! ## §3. Stores that do not fail -/

/-- **Documented behaviour** of a store that does not fail: what it holds
    is read, what is deleted goes, and every credential it holds is
    listed, no id twice. -/
structure Healthy (S : SecureStore σ) (held : σ → String → Option CredentialV2) : Prop where
  get : ∀ s id, S.getCredential s id = .ok (held s id)
  delete : ∀ s id, (S.deleteCredential s id).1 = .ok (held s id).isSome
  deletes : Deletes held (fun id s => (S.deleteCredential s id).2) fun _ => True
  list : ∀ s, ∃ metas, S.listCredentials s = .ok metas ∧
    (metas.1.map CredentialMetadata.id).Nodup ∧
    ∀ id, held s id ≠ none → id ∈ metas.1.map CredentialMetadata.id

/-- The credential has a birth day, and that satisfies the age. -/
def satisfies (cutoffDays : Int32) (isUnderAge : Bool) (cred : CredentialV2) : Bool :=
  cred.dobDays.any fun dobDays => validateAge dobDays cutoffDays isUnderAge

/-- The store holds an expired credential under an id. -/
def ExpiredIn (held : σ → String → Option CredentialV2) (s : σ) (t : UInt64) (id : String) : Prop :=
  ∃ cred, held s id = some cred ∧ cred.exp < t

variable {S : SecureStore σ} {held : σ → String → Option CredentialV2}

/-- **What the search finds**: the first listed credential that satisfies
    the age. -/
theorem findAmong_eq (h : Healthy S held) (s : σ) (cutoffDays : Int32) (isUnderAge : Bool)
    (metas : List CredentialMetadata) :
    findAmong S s cutoffDays isUnderAge metas =
      .ok ((metas.filterMap fun m => held s m.id).find? (satisfies cutoffDays isUnderAge)) := by
  induction metas with
  | nil => rfl
  | cons m metas ih =>
    unfold findAmong
    rw [h.get, List.filterMap_cons]
    cases hheld : held s m.id with
    | none => exact ih
    | some cred =>
      simp only [List.find?_cons]
      unfold satisfies
      cases hdob : cred.dobDays with
      | none => exact ih
      | some dobDays =>
        simp only [Option.any_some]
        cases hage : validateAge dobDays cutoffDays isUnderAge with
        | true => rfl
        | false => exact ih

/-- Is the listed credential there and expired? -/
def listedExpired (held : σ → String → Option CredentialV2) (s : σ) (t : UInt64)
    (m : CredentialMetadata) : Bool :=
  (held s m.id).any fun cred => decide (cred.exp < t)

theorem listedExpired_iff (s : σ) (t : UInt64) (m : CredentialMetadata) :
    listedExpired held s t m = true ↔ ExpiredIn held s t m.id := by
  unfold listedExpired ExpiredIn
  rw [Option.any_eq_true]
  simp only [decide_eq_true_eq]

/-- The walk passes a credential that stays, or that has gone. -/
theorem removeExpired_kept (h : Healthy S held) {t : UInt64} {s : σ} {m : CredentialMetadata}
    (hkept : ¬ ExpiredIn held s t m.id) (metas : List CredentialMetadata) (removed : Nat) :
    removeExpired S t (m :: metas) removed s = removeExpired S t metas removed s := by
  rw [removeExpired, h.get]
  cases hheld : held s m.id with
  | none => rfl
  | some cred => exact if_neg fun hexp => hkept ⟨cred, hheld, hexp⟩

/-- It deletes one that has expired, and goes on with the count raised. -/
theorem removeExpired_expired (h : Healthy S held) {t : UInt64} {s : σ} {m : CredentialMetadata}
    (hexpired : ExpiredIn held s t m.id) (metas : List CredentialMetadata) (removed : Nat) :
    removeExpired S t (m :: metas) removed s =
      removeExpired S t metas (min (removed + 1) usizeMax) (S.deleteCredential s m.id).2 := by
  obtain ⟨cred, hheld, hexp⟩ := hexpired
  have hdelete := h.delete s m.id
  rw [removeExpired, h.get, hheld]
  simp only [if_pos hexp]
  cases hcall : S.deleteCredential s m.id with
  | mk outcome s' =>
    rw [hcall] at hdelete
    rw [show outcome = .ok (held s m.id).isSome from hdelete]

/-- **What the walk removes**: the listed credentials that have expired.
    A delete changes no other id, so what is found later in the listing
    is as it was. -/
theorem removeExpired_spec (h : Healthy S held) (t : UInt64) {metas : List CredentialMetadata}
    (hnodup : (metas.map CredentialMetadata.id).Nodup) (removed : Nat) (s : σ)
    (hroom : removed + metas.length ≤ usizeMax) :
    (removeExpired S t metas removed s).1 =
        .ok (removed + (metas.filter (listedExpired held s t)).length) ∧
      Removes held (fun id => id ∈ metas.map CredentialMetadata.id ∧ ExpiredIn held s t id) s
        (removeExpired S t metas removed s).2 := by
  induction metas generalizing removed s with
  | nil => exact ⟨rfl, removes_same (fun _ => rfl) fun _ h => absurd h.1 List.not_mem_nil⟩
  | cons m metas ih =>
    rw [List.map_cons, List.nodup_cons] at hnodup
    rw [List.length_cons] at hroom
    obtain ⟨hfresh, hnodup⟩ := hnodup
    by_cases hexpired : ExpiredIn held s t m.id
    · have hgone : Removes held (fun id => id = m.id ∧ True) s (S.deleteCredential s m.id).2 :=
        h.deletes m.id s
      have hmin : min (removed + 1) usizeMax = removed + 1 := Nat.min_eq_left (by omega)
      rw [removeExpired_expired h hexpired, hmin]
      generalize (S.deleteCredential s m.id).2 = s' at hgone
      -- under the other ids the store is as before
      have hother : ∀ id ∈ metas.map CredentialMetadata.id, held s' id = held s id := by
        intro id hid
        refine (hgone id).2 ?_
        rintro ⟨rfl, -⟩
        exact hfresh hid
      obtain ⟨hcount, hremoves⟩ := ih hnodup (removed + 1) s' (by omega)
      constructor
      · have hsame : metas.filter (listedExpired held s' t) =
            metas.filter (listedExpired held s t) := by
          refine List.filter_congr fun m' hm' => ?_
          unfold listedExpired
          rw [hother m'.id (List.mem_map_of_mem hm')]
        rw [hcount, hsame, List.filter_cons_of_pos ((listedExpired_iff s t m).2 hexpired),
          List.length_cons, Nat.add_assoc, Nat.add_comm 1]
      · refine (hgone.trans hremoves).congr fun id => ?_
        rw [List.map_cons, List.mem_cons]
        constructor
        · rintro (⟨rfl, -⟩ | ⟨hid, hexpired'⟩)
          · exact ⟨Or.inl rfl, hexpired⟩
          · unfold ExpiredIn at hexpired'
            rw [hother id hid] at hexpired'
            exact ⟨Or.inr hid, hexpired'⟩
        · rintro ⟨rfl | hid, hexpired'⟩
          · exact Or.inl ⟨rfl, trivial⟩
          · refine Or.inr ⟨hid, ?_⟩
            unfold ExpiredIn
            rw [hother id hid]
            exact hexpired'
    · rw [removeExpired_kept h hexpired,
        List.filter_cons_of_neg fun hlisted => hexpired ((listedExpired_iff s t m).1 hlisted)]
      obtain ⟨hcount, hremoves⟩ := ih hnodup removed s (by omega)
      refine ⟨hcount, hremoves.congr fun id => ?_⟩
      rw [List.map_cons, List.mem_cons]
      constructor
      · rintro ⟨hid, hid'⟩
        exact ⟨Or.inr hid, hid'⟩
      · rintro ⟨rfl | hid, hid'⟩
        · exact absurd hid' hexpired
        · exact ⟨hid, hid'⟩

/-! ## §4. The store in memory -/

/-- A map in memory, with room for 32 credentials. -/
abbrev MemoryStore := { kv : AList fun _ : String => CredentialV2 // kv.keys.length ≤ 32 }

def memoryMetadata (id : String) : CredentialMetadata :=
  { id, label := none, importedAt := 0, issuerName := none }

theorem memory_delete_room (s : MemoryStore) (id : String) :
    (s.1.erase id).keys.length ≤ 32 := by
  rw [AList.keys_erase]
  exact le_trans List.erase_sublist.length_le s.2

theorem memory_list_room (s : MemoryStore) :
    (s.1.keys.map memoryMetadata).length ≤ maxVecLen := by
  rw [List.length_map]
  exact le_trans s.2 (by decide)

def memoryStore : SecureStore MemoryStore where
  getCredential s id := .ok (s.1.lookup id)
  deleteCredential s id :=
    (.ok (s.1.lookup id).isSome, ⟨s.1.erase id, memory_delete_room s id⟩)
  listCredentials s := .ok ⟨s.1.keys.map memoryMetadata, memory_list_room s⟩

theorem memory_ids (s : MemoryStore) :
    (s.1.keys.map memoryMetadata).map CredentialMetadata.id = s.1.keys := by
  rw [List.map_map]
  exact List.map_id _

/-- The store in memory does not fail. -/
theorem memoryStore_healthy : Healthy memoryStore fun s id => s.1.lookup id where
  get _ _ := rfl
  delete _ _ := rfl
  deletes id s := by
    refine fun j => ⟨?_, fun hother => ?_⟩
    · rintro ⟨rfl, -⟩
      exact AList.lookup_erase j s.1
    · exact AList.lookup_erase_ne fun hj => hother ⟨hj, trivial⟩
  list s := by
    refine ⟨_, rfl, ?_, fun id hid => ?_⟩
    · rw [memory_ids]
      exact s.1.nodupKeys
    · rw [memory_ids]
      exact AList.lookup_isSome.1 (Option.isSome_iff_ne_none.2 hid)

/-- A store with one credential. -/
def memoryOf (id : String) (cred : CredentialV2) : MemoryStore :=
  ⟨(∅ : AList fun _ : String => CredentialV2).insert id cred, by
    rw [AList.keys_insert]
    exact Nat.succ_le_of_lt (by decide : 0 < 32)⟩

/-! ## §5. Both helpers -/

/-- **No match** exactly if nothing in the store satisfies the age. -/
theorem find?_eq_none_iff (s : σ) {metas : List CredentialMetadata}
    (hlisted : ∀ id, held s id ≠ none → id ∈ metas.map CredentialMetadata.id)
    (p : CredentialV2 → Bool) :
    (metas.filterMap fun m => held s m.id).find? p = none ↔
      ∀ id cred, held s id = some cred → p cred = false := by
  rw [List.find?_eq_none]
  simp only [List.mem_filterMap, Bool.not_eq_true]
  constructor
  · intro hnone id cred hheld
    obtain ⟨m, hm, rfl⟩ := List.mem_map.1 (hlisted id (by rw [hheld]; exact Option.some_ne_none _))
    exact hnone cred ⟨m, hm, hheld⟩
  · rintro hnone cred ⟨m, -, hheld⟩
    exact hnone m.id cred hheld

/-- The expired credentials of a listing are all there are. -/
theorem length_listedExpired (s : σ) (t : UInt64) {metas : List CredentialMetadata}
    (hnodup : (metas.map CredentialMetadata.id).Nodup)
    (hlisted : ∀ id, held s id ≠ none → id ∈ metas.map CredentialMetadata.id) :
    (metas.filter (listedExpired held s t)).length = {id | ExpiredIn held s t id}.ncard := by
  rw [← List.length_map CredentialMetadata.id]
  refine length_eq_ncard (hnodup.sublist (List.filter_sublist.map _)) fun id => ?_
  simp only [List.mem_map, List.mem_filter, Set.mem_ofPred_eq]
  constructor
  · rintro ⟨m, ⟨-, hexpired⟩, rfl⟩
    exact (listedExpired_iff s t m).1 hexpired
  · rintro ⟨cred, hheld, hexp⟩
    obtain ⟨m, hm, rfl⟩ := List.mem_map.1 (hlisted id (by rw [hheld]; exact Option.some_ne_none _))
    exact ⟨m, ⟨hm, (listedExpired_iff s t m).2 ⟨cred, hheld, hexp⟩⟩, rfl⟩

/-- **What a cleanup does**: the expired credentials go, and are counted. -/
theorem cleanupExpired_spec (h : Healthy S held) (t : UInt64) (s : σ) :
    (cleanupExpired S t s).1 = .ok {id | ExpiredIn held s t id}.ncard ∧
      Removes held (ExpiredIn held s t) s (cleanupExpired S t s).2 := by
  obtain ⟨metas, hlist, hnodup, hlisted⟩ := h.list s
  unfold cleanupExpired
  rw [hlist]
  have hroom : 0 + metas.1.length ≤ usizeMax := by
    have hlen := metas.2
    unfold maxVecLen at hlen
    unfold usizeMax
    omega
  obtain ⟨hcount, hremoves⟩ := removeExpired_spec h t hnodup 0 s hroom
  refine ⟨?_, hremoves.congr fun id => and_iff_right_of_imp ?_⟩
  · rw [hcount, Nat.zero_add, length_listedExpired s t hnodup hlisted]
  · rintro ⟨cred, hheld, -⟩
    exact hlisted id (by rw [hheld]; exact Option.some_ne_none _)

/-- **The store helpers are correct** on a store that does not fail.  The
    search answers the first listed credential that satisfies the age, and
    nothing exactly if there is none; a cleanup removes the expired
    credentials, answers how many they were, and leaves the others; and
    the next one removes nothing. -/
theorem store_helpers_correct (S : SecureStore σ) (held : σ → String → Option CredentialV2)
    (h : Healthy S held) (s : σ) (cutoffDays : Int32) (isUnderAge : Bool) (t : UInt64) :
    (∃ metas, S.listCredentials s = .ok metas ∧
      findBestCredential S s cutoffDays isUnderAge =
        .ok ((metas.1.filterMap fun m => held s m.id).find? (satisfies cutoffDays isUnderAge))) ∧
      (findBestCredential S s cutoffDays isUnderAge = .ok none ↔
        ∀ id cred, held s id = some cred → satisfies cutoffDays isUnderAge cred = false) ∧
      (cleanupExpired S t s).1 = .ok {id | ExpiredIn held s t id}.ncard ∧
      (∀ id, ExpiredIn held s t id → held (cleanupExpired S t s).2 id = none) ∧
      (∀ id, ¬ ExpiredIn held s t id → held (cleanupExpired S t s).2 id = held s id) ∧
      (cleanupExpired S t (cleanupExpired S t s).2).1 = .ok 0 ∧
      ∀ id, held (cleanupExpired S t (cleanupExpired S t s).2).2 id =
        held (cleanupExpired S t s).2 id := by
  obtain ⟨metas, hlist, -, hlisted⟩ := h.list s
  have hfind : findBestCredential S s cutoffDays isUnderAge =
      .ok ((metas.1.filterMap fun m => held s m.id).find? (satisfies cutoffDays isUnderAge)) := by
    unfold findBestCredential
    rw [hlist]
    exact findAmong_eq h s cutoffDays isUnderAge metas.1
  obtain ⟨hcount, hremoves⟩ := cleanupExpired_spec h t s
  -- nothing that is left has expired
  have hfresh : ∀ id, ¬ ExpiredIn held (cleanupExpired S t s).2 t id := by
    rintro id ⟨cred, hheld, hexp⟩
    by_cases hid : ExpiredIn held s t id
    · rw [(hremoves id).1 hid] at hheld
      cases hheld
    · rw [(hremoves id).2 hid] at hheld
      exact hid ⟨cred, hheld, hexp⟩
  obtain ⟨hcount', hremoves'⟩ := cleanupExpired_spec h t (cleanupExpired S t s).2
  have hempty : {id | ExpiredIn held (cleanupExpired S t s).2 t id} = ∅ :=
    Set.eq_empty_of_forall_notMem hfresh
  rw [hempty, Set.ncard_empty] at hcount'
  refine ⟨⟨metas, hlist, hfind⟩, ?_, hcount, fun id => (hremoves id).1, fun id => (hremoves id).2,
    hcount', fun id => (hremoves' id).2 (hfresh id)⟩
  rw [hfind, Except.ok.injEq]
  exact find?_eq_none_iff s hlisted _

/-- On a store in memory with one credential of an adult, after its
    expiry. -/
theorem store_helpers_in_memory :
    let s := memoryOf "id" { sampleCredential with dobDays := some 5 }
    let held := fun (s : MemoryStore) id => s.1.lookup id
    (∃ metas, memoryStore.listCredentials s = .ok metas ∧
      findBestCredential memoryStore s 10 false =
        .ok ((metas.1.filterMap fun m => held s m.id).find? (satisfies 10 false))) ∧
      (findBestCredential memoryStore s 10 false = .ok none ↔
        ∀ id cred, held s id = some cred → satisfies 10 false cred = false) ∧
      (cleanupExpired memoryStore 3 s).1 = .ok {id | ExpiredIn held s 3 id}.ncard ∧
      (∀ id, ExpiredIn held s 3 id → held (cleanupExpired memoryStore 3 s).2 id = none) ∧
      (∀ id, ¬ ExpiredIn held s 3 id →
        held (cleanupExpired memoryStore 3 s).2 id = held s id) ∧
      (cleanupExpired memoryStore 3 (cleanupExpired memoryStore 3 s).2).1 = .ok 0 ∧
      ∀ id, held (cleanupExpired memoryStore 3 (cleanupExpired memoryStore 3 s).2).2 id =
        held (cleanupExpired memoryStore 3 s).2 id :=
  store_helpers_correct memoryStore (fun s id => s.1.lookup id) memoryStore_healthy
    (memoryOf "id" { sampleCredential with dobDays := some 5 }) 10 false 3

end ProviiSdk.Core.Storage
