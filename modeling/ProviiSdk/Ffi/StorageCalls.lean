/-
  ProviiSdk.Ffi.StorageCalls — the credential store, call by call.

  The store was translated as functions on the contents of a backend,
  with one record of failures for all the calls of a method: for every
  operation and key the error that call meets.  Here each method is a
  client of the storage trait that makes its calls one by one, in the
  order of the source, and each call may meet an error of its own.  This
  file shows that the records lose nothing: whatever a method does call
  by call, it does for some record.

  Main results:
    * `onContents_store`, `onContents_delete`, … — one call.
    * `storeCredentialWithSlot_covers`, `listCredentials_covers`, … — the
      methods.
-/

import ProviiSdk.Ffi.StorageSpec
import ProviiSdk.Lib.Clients
import ProviiSdk.Platform.Contract

namespace ProviiSdk.Ffi

open ProviiSdk.Core hiding WalletError
open ProviiSdk.Platform ProviiSdk.Clients

/-! ## §1. Calls of the trait -/

/-- A method body that calls the trait. -/
abbrev Calls (α : Type) := Client Request (Except WalletError Answer) α

/-- What is returned for an answer to some other call.  No backend gives
    one: the trait's methods have types of their own. -/
def otherAnswer : WalletError := .storage "answer to another call"

def keysOf : Except WalletError Answer → Except WalletError (List Key)
  | .ok (.keys ks) => .ok ks
  | .ok _ => .error otherAnswer
  | .error e => .error e

def dataOf : Except WalletError Answer → Except WalletError Bytes
  | .ok (.data bytes) => .ok bytes
  | .ok _ => .error otherAnswer
  | .error e => .error e

def presentOf : Except WalletError Answer → Except WalletError Bool
  | .ok (.present b) => .ok b
  | .ok _ => .error otherAnswer
  | .error e => .error e

def doneOf : Except WalletError Answer → Except WalletError Unit
  | .ok .done => .ok ()
  | .ok _ => .error otherAnswer
  | .error e => .error e

namespace Calls

def listKeys : Calls (Except WalletError (List Key)) :=
  (Client.ask .listKeys).bind fun answer => .done (keysOf answer)

def retrieve (key : Key) (bio : BiometricRequirement) : Calls (Except WalletError Bytes) :=
  (Client.ask (.retrieve key bio)).bind fun answer => .done (dataOf answer)

def exists_ (key : Key) : Calls (Except WalletError Bool) :=
  (Client.ask (.exists_ key)).bind fun answer => .done (presentOf answer)

def store (key : Key) (data : Bytes) (bio : BiometricRequirement) : Calls (Except WalletError Unit) :=
  (Client.ask (.store key data bio)).bind fun answer => .done (doneOf answer)

def delete (key : Key) : Calls (Except WalletError Unit) :=
  (Client.ask (.delete key)).bind fun answer => .done (doneOf answer)

end Calls

/-! ## §2. The methods -/

/-- Empty a slot. -/
def deleteSlotCalls (credPrefix credsecPrefix : Key) : List Key → Calls (Except String Unit)
  | [] => .done (.ok ())
  | key :: keys =>
    if credPrefix <+: key ∨ credsecPrefix <+: key then
      (Calls.delete key).bind fun
        | .error e => .done (.error ("Failed to delete existing credential: " ++ e.display))
        | .ok () => deleteSlotCalls credPrefix credsecPrefix keys
    else deleteSlotCalls credPrefix credsecPrefix keys

/-- Store a credential in a slot after deleting what the slot holds. -/
def storeCredentialWithSlotCalls (X : Crates) (now : Int64) (credential : CredentialV2)
    (label : Option String) (slot : CredentialSlot) (nickname : Option String) :
    Calls (Except String Key) :=
  let (credPrefix, credsecPrefix) := prefixesForSlot (fromLabel label) slot
  Calls.listKeys.bind fun
    | .error e => .done (.error ("Failed to list keys: " ++ e.display))
    | .ok keys =>
      (deleteSlotCalls credPrefix credsecPrefix keys).bind fun
        | .error e => .done (.error e)
        | .ok () =>
          let key := credPrefix ++ computeBaseId X credential
          let data := encodeStored (storedRecord now credential label slot nickname)
          (Calls.store key data .none).bind fun
            | .error e => .done (.error ("Failed to store credential: " ++ e.display))
            | .ok () => .done (.ok key)

/-- Store the secrets of a credential behind the biometric gate. -/
def storeCredentialSecretsCalls (credId : Key) (secrets : CredentialSecrets) :
    Calls (Except String Unit) :=
  (Calls.store (secretsKeyOf credId) (encodeSecrets secrets)
    BiometricRequirement.forCredentialSecrets).bind fun
    | .error e => .done (.error ("Failed to store secrets: " ++ e.display))
    | .ok () => .done (.ok ())

/-- Load the secrets of a credential. -/
def loadCredentialSecretsCalls (X : Crates) (credId : Key) :
    Calls (Except String (Option CredentialSecrets)) :=
  (Calls.retrieve (secretsKeyOf credId) BiometricRequirement.forCredentialSecrets).bind fun
    | .ok data =>
      match decodeSecrets data with
      | some secrets => .done (.ok (some secrets))
      | none => .done (.error ("Failed to parse secrets: " ++ X.postcardError data))
    | .error e =>
      if mentionsNotFound e then .done (.ok none)
      else .done (.error ("Failed to retrieve secrets: " ++ e.display))

/-- Retrieve a credential by its key. -/
def getCredentialCalls (X : Crates) (credentialId : Key) :
    Calls (Except String (Option CredentialV2)) :=
  (Calls.retrieve credentialId .none).bind fun
    | .ok data =>
      match decodeStored data with
      | some stored => .done (.ok (some stored.credential))
      | none => .done (.error ("Failed to parse credential: " ++ X.postcardError data))
    | .error e =>
      if mentionsNotFound e then .done (.ok none)
      else .done (.error ("Failed to retrieve credential: " ++ e.display))

/-- One round of the listing loop. -/
def listEntryCalls (clock : Key → Int64) (key : Key) : Calls (Option CredentialInfo) :=
  if isCredentialKey key then
    (Calls.retrieve key .none).bind fun
      | .error _ => .done none
      | .ok data =>
        match decodeStored data with
        | none => .done none
        | some stored =>
          (Calls.exists_ (secretsKeyOf key)).bind fun
            | .ok b => .done (some (credentialInfo (clock key) key stored b))
            | .error _ => .done (some (credentialInfo (clock key) key stored false))
  else .done none

/-- The listing loop. -/
def listEntriesCalls (clock : Key → Int64) : List Key → Calls (List CredentialInfo)
  | [] => .done []
  | key :: keys =>
    (listEntryCalls clock key).bind fun entry =>
      (listEntriesCalls clock keys).bind fun infos => .done (entry.toList ++ infos)

/-- List all stored credentials. -/
def listCredentialsCalls (clock : Key → Int64) : Calls (Except String (List CredentialInfo)) :=
  Calls.listKeys.bind fun
    | .error e => .done (.error ("Failed to list keys: " ++ e.display))
    | .ok keys => (listEntriesCalls clock keys).bind fun infos => .done (.ok infos)

/-- The next free managed index of a namespace. -/
def nextAvailableManagedIndexCalls (ns : CredentialNamespace) : Calls (Except String UInt8) :=
  Calls.listKeys.bind fun
    | .error e => .done (.error ("Failed to list keys: " ++ e.display))
    | .ok keys =>
      match firstFreeIndex (managedCredPrefix ns) keys with
      | some i => .done (.ok i)
      | none => .done (.error "All 15 managed credential slots are full")

/-- Replace the nickname in a public record. -/
def updateCredentialNicknameCalls (X : Crates) (credentialId : Key) (nickname : Option String) :
    Calls (Except String Unit) :=
  (Calls.retrieve credentialId .none).bind fun
    | .error e => .done (.error ("Credential not found: " ++ e.display))
    | .ok data =>
      match decodeStored data with
      | none => .done (.error ("Failed to parse credential: " ++ X.postcardError data))
      | some stored =>
        let updated := { stored with metadata := { stored.metadata with nickname } }
        (Calls.store credentialId (encodeStored updated) .none).bind fun
          | .error e => .done (.error ("Failed to update credential: " ++ e.display))
          | .ok () => .done (.ok ())

/-- Delete a credential's public record, then its secrets record. -/
def deleteCredentialCalls (credentialId : Key) : Calls (Except String Unit) :=
  (Calls.delete credentialId).bind fun
    | .error e => .done (.error ("Failed to delete credential: " ++ e.display))
    | .ok () => (Calls.delete (secretsKeyOf credentialId)).bind fun _ => .done (.ok ())

/-- The loop of `delete_all_in_namespace`. -/
def deleteMatchingCalls (ns : CredentialNamespace) : List Key → Nat → Calls Nat
  | [], deleted => .done deleted
  | key :: keys, deleted =>
    if inNamespace ns key then
      (Calls.delete key).bind fun
        | .ok () => deleteMatchingCalls ns keys (deleted + 1)
        | .error _ => deleteMatchingCalls ns keys deleted
    else deleteMatchingCalls ns keys deleted

/-- Delete every sandbox credential. -/
def deleteSandboxCredentialsCalls : Calls (Except String Nat) :=
  Calls.listKeys.bind fun
    | .error e => .done (.error ("Failed to list keys: " ++ e.display))
    | .ok keys => (deleteMatchingCalls .sandbox keys 0).bind fun deleted => .done (.ok deleted)

/-! ## §3. One call on the contents -/

/-- A client runs on the contents of a backend that meets any failures. -/
abbrev OnContents {α : Type} (c : Calls α) (kv : Kv) (a : α) (kv' : Kv) : Prop :=
  Runs perform Prod.snd (fun _ _ => True) c kv a kv'

/-- A call whose answer is read off in some way. -/
private theorem onContents_ask {α : Type} {request : Request}
    {read : Except WalletError Answer → α} {kv kv' : Kv} {a : α}
    (h : OnContents ((Client.ask request).bind fun answer => .done (read answer)) kv a kv') :
    ∃ f : Faults, a = read (perform kv (f, request)).1 ∧ kv' = (perform kv (f, request)).2 := by
  obtain ⟨answer, t, hask, hdone⟩ := runs_bind_iff.1 h
  obtain ⟨⟨f, request'⟩, rfl, -, hstep⟩ := runs_ask_iff.1 hask
  obtain ⟨rfl, rfl⟩ := runs_done_iff.1 hdone
  refine ⟨f, ?_, ?_⟩
  · rw [hstep]
  · rw [hstep]

theorem onContents_listKeys {kv kv' : Kv} {r : Except WalletError (List Key)}
    (h : OnContents Calls.listKeys kv r kv') :
    kv' = kv ∧ ∃ f : Faults, r = listKeys f kv := by
  obtain ⟨f, rfl, hkv⟩ := onContents_ask h
  refine ⟨hkv, f, ?_⟩
  show keysOf ((listKeys f kv).map Answer.keys) = _
  cases listKeys f kv <;> rfl

theorem onContents_retrieve {kv kv' : Kv} {key : Key} {bio : BiometricRequirement}
    {r : Except WalletError Bytes} (h : OnContents (Calls.retrieve key bio) kv r kv') :
    kv' = kv ∧ ∃ f : Faults, r = retrieve f kv key := by
  obtain ⟨f, rfl, hkv⟩ := onContents_ask h
  refine ⟨hkv, f, ?_⟩
  show dataOf ((retrieve f kv key).map Answer.data) = _
  cases retrieve f kv key <;> rfl

theorem onContents_exists {kv kv' : Kv} {key : Key} {r : Except WalletError Bool}
    (h : OnContents (Calls.exists_ key) kv r kv') :
    kv' = kv ∧ ∃ f : Faults, r = exists? f kv key := by
  obtain ⟨f, rfl, hkv⟩ := onContents_ask h
  refine ⟨hkv, f, ?_⟩
  show presentOf ((exists? f kv key).map Answer.present) = _
  cases exists? f kv key <;> rfl

/-- A write that fails changes nothing. -/
private theorem onContents_write {r : Except WalletError Kv} {kv kv' : Kv}
    {a : Except WalletError Unit} (ha : a = doneOf (wrote kv r).1) (hkv : kv' = (wrote kv r).2) :
    (∃ e, r = .error e ∧ a = .error e ∧ kv' = kv) ∨ (r = .ok kv' ∧ a = .ok ()) := by
  cases r with
  | error e => exact Or.inl ⟨e, rfl, ha, hkv⟩
  | ok written => exact Or.inr ⟨congrArg Except.ok hkv.symm, ha⟩

theorem onContents_store {kv kv' : Kv} {key : Key} {data : Bytes} {bio : BiometricRequirement}
    {r : Except WalletError Unit} (h : OnContents (Calls.store key data bio) kv r kv') :
    ∃ f : Faults, (∃ e, store f kv key data bio = .error e ∧ r = .error e ∧ kv' = kv) ∨
      (store f kv key data bio = .ok kv' ∧ r = .ok ()) := by
  obtain ⟨f, ha, hkv⟩ := onContents_ask h
  exact ⟨f, onContents_write ha hkv⟩

theorem onContents_delete {kv kv' : Kv} {key : Key} {r : Except WalletError Unit}
    (h : OnContents (Calls.delete key) kv r kv') :
    ∃ f : Faults, (∃ e, delete f kv key = .error e ∧ r = .error e ∧ kv' = kv) ∨
      (delete f kv key = .ok kv' ∧ r = .ok ()) := by
  obtain ⟨f, ha, hkv⟩ := onContents_ask h
  exact ⟨f, onContents_write ha hkv⟩

/-- Each operation looks at its own failure only. -/
theorem retrieve_congr {f g : Faults} (kv : Kv) {key : Key} (h : f.retrieve key = g.retrieve key) :
    retrieve f kv key = retrieve g kv key := by
  unfold retrieve
  rw [h]

theorem exists_congr_has {f g : Faults} (kv : Kv) {key : Key} (h : f.has key = g.has key) :
    exists? f kv key = exists? g kv key := by
  unfold exists?
  rw [h]

theorem delete_congr {f g : Faults} (kv : Kv) {key : Key} (h : f.delete key = g.delete key) :
    delete f kv key = delete g kv key := by
  unfold delete
  rw [h]

/-! ## §4. The writing methods -/

/-- The loop that empties a slot, over keys without repetition. -/
theorem deleteSlot_covers (credPrefix credsecPrefix : Key) {keys : List Key} (hkeys : keys.Nodup)
    {kv kv' : Kv} {a : Except String Unit}
    (h : OnContents (deleteSlotCalls credPrefix credsecPrefix keys) kv a kv') :
    ∃ deletes : Key → Option WalletError, ∀ f : Faults, (∀ k ∈ keys, f.delete k = deletes k) →
      deleteSlot f credPrefix credsecPrefix keys kv = (a, kv') := by
  induction keys generalizing kv with
  | nil =>
    obtain ⟨rfl, rfl⟩ := runs_done_iff.1 h
    exact ⟨fun _ => none, fun f _ => rfl⟩
  | cons key keys ih =>
    obtain ⟨hfresh, hkeys⟩ := List.nodup_cons.1 hkeys
    unfold deleteSlotCalls at h
    by_cases hin : credPrefix <+: key ∨ credsecPrefix <+: key
    · rw [if_pos hin] at h
      obtain ⟨r, t, hdelete, hrest⟩ := runs_bind_iff.1 h
      obtain ⟨f₀, ⟨e, herr, rfl, rfl⟩ | ⟨hok, rfl⟩⟩ := onContents_delete hdelete
      · obtain ⟨rfl, rfl⟩ := runs_done_iff.1 hrest
        refine ⟨f₀.delete, fun f hf => ?_⟩
        unfold deleteSlot
        rw [if_pos hin, delete_congr _ (hf key (List.mem_cons_self ..)), herr]
      · obtain ⟨deletes, hothers⟩ := ih hkeys hrest
        -- the first key is not among the others, so its outcome is its own
        refine ⟨Function.update deletes key (f₀.delete key), fun f hf => ?_⟩
        have hfirst : f.delete key = f₀.delete key := by
          rw [hf key (List.mem_cons_self ..), Function.update_self]
        unfold deleteSlot
        rw [if_pos hin, delete_congr _ hfirst, hok]
        refine hothers f fun k hk => ?_
        rw [hf k (List.mem_cons_of_mem _ hk), Function.update_of_ne]
        intro hsame
        exact hfresh (hsame ▸ hk)
    · rw [if_neg hin] at h
      obtain ⟨deletes, hothers⟩ := ih hkeys h
      refine ⟨deletes, fun f hf => ?_⟩
      unfold deleteSlot
      rw [if_neg hin]
      exact hothers f fun k hk => hf k (List.mem_cons_of_mem _ hk)

/-- The keys of a listing have no repetition. -/
theorem listKeys_nodup {f : Faults} {kv : Kv} {keys : List Key} (h : listKeys f kv = .ok keys) :
    keys.Nodup := by
  unfold listKeys at h
  split at h
  · cases h
  · injection h with h
    rw [← h]
    exact f.listing.nodup_order kv

/-- **Storing a credential**, call by call. -/
theorem storeCredentialWithSlot_covers (X : Crates) (now : Int64) (credential : CredentialV2)
    (label : Option String) (slot : CredentialSlot) (nickname : Option String) {kv kv' : Kv}
    {a : Except String Key}
    (h : OnContents (storeCredentialWithSlotCalls X now credential label slot nickname) kv a kv') :
    ∃ f : Faults, storeCredentialWithSlot X f now credential label slot nickname kv = (a, kv') := by
  unfold storeCredentialWithSlotCalls at h
  unfold storeCredentialWithSlot
  generalize prefixesForSlot (fromLabel label) slot = p at h ⊢
  obtain ⟨credPrefix, credsecPrefix⟩ := p
  simp only at h ⊢
  obtain ⟨r, t, hlist, hafter⟩ := runs_bind_iff.1 h
  obtain ⟨rfl, f₁, rfl⟩ := onContents_listKeys hlist
  cases hlisted : listKeys f₁ t with
  | error e =>
    rw [hlisted] at hafter
    obtain ⟨rfl, rfl⟩ := runs_done_iff.1 hafter
    refine ⟨f₁, ?_⟩
    simp only [hlisted]
  | ok keys =>
    rw [hlisted] at hafter
    obtain ⟨r, t₂, hslot, hafter⟩ := runs_bind_iff.1 hafter
    obtain ⟨deletes, hdeletes⟩ := deleteSlot_covers _ _ (listKeys_nodup hlisted) hslot
    cases r with
    | error e =>
      obtain ⟨rfl, rfl⟩ := runs_done_iff.1 hafter
      have hlisted' : listKeys { f₁ with delete := deletes } t = .ok keys := hlisted
      refine ⟨{ f₁ with delete := deletes }, ?_⟩
      rw [hlisted']
      simp only
      rw [hdeletes _ fun _ _ => rfl]
    | ok u =>
      obtain ⟨r, t₃, hstore, hlast⟩ := runs_bind_iff.1 hafter
      obtain ⟨f₃, hwritten⟩ := onContents_store hstore
      -- the listing, the deletes and the store each have their own
      let f : Faults := { f₁ with delete := deletes, store := f₃.store }
      have hlisted' : listKeys f t = .ok keys := hlisted
      have hstore' : ∀ kv key data bio, store f kv key data bio = store f₃ kv key data bio :=
        fun _ _ _ _ => rfl
      refine ⟨f, ?_⟩
      rw [hlisted']
      simp only
      rw [hdeletes f fun _ _ => rfl]
      simp only [hstore']
      rcases hwritten with ⟨e, herr, rfl, rfl⟩ | ⟨hok, rfl⟩
      · obtain ⟨rfl, rfl⟩ := runs_done_iff.1 hlast
        rw [herr]
      · obtain ⟨rfl, rfl⟩ := runs_done_iff.1 hlast
        rw [hok]

theorem storeCredentialSecrets_covers (credId : Key) (secrets : CredentialSecrets) {kv kv' : Kv}
    {a : Except String Unit} (h : OnContents (storeCredentialSecretsCalls credId secrets) kv a kv') :
    ∃ f : Faults, storeCredentialSecrets f credId secrets kv = (a, kv') := by
  unfold storeCredentialSecretsCalls at h
  unfold storeCredentialSecrets
  obtain ⟨r, t, hstore, hafter⟩ := runs_bind_iff.1 h
  obtain ⟨f, ⟨e, herr, rfl, rfl⟩ | ⟨hok, rfl⟩⟩ := onContents_store hstore
  · obtain ⟨rfl, rfl⟩ := runs_done_iff.1 hafter
    refine ⟨f, ?_⟩
    rw [herr]
  · obtain ⟨rfl, rfl⟩ := runs_done_iff.1 hafter
    refine ⟨f, ?_⟩
    rw [hok]

theorem updateCredentialNickname_covers (X : Crates) (credentialId : Key) (nickname : Option String)
    {kv kv' : Kv} {a : Except String Unit}
    (h : OnContents (updateCredentialNicknameCalls X credentialId nickname) kv a kv') :
    ∃ f : Faults, updateCredentialNickname X f credentialId nickname kv = (a, kv') := by
  unfold updateCredentialNicknameCalls at h
  unfold updateCredentialNickname
  obtain ⟨r, t, hretrieve, hafter⟩ := runs_bind_iff.1 h
  obtain ⟨rfl, f₁, rfl⟩ := onContents_retrieve hretrieve
  cases hread : retrieve f₁ t credentialId with
  | error e =>
    rw [hread] at hafter
    obtain ⟨rfl, rfl⟩ := runs_done_iff.1 hafter
    refine ⟨f₁, ?_⟩
    rw [hread]
  | ok data =>
    rw [hread] at hafter
    simp only at hafter
    cases hdecode : decodeStored data with
    | none =>
      rw [hdecode] at hafter
      obtain ⟨rfl, rfl⟩ := runs_done_iff.1 hafter
      refine ⟨f₁, ?_⟩
      rw [hread]
      simp only [hdecode]
    | some stored =>
      rw [hdecode] at hafter
      obtain ⟨r, t₂, hstore, hlast⟩ := runs_bind_iff.1 hafter
      obtain ⟨f₂, hwritten⟩ := onContents_store hstore
      let f : Faults := { f₁ with store := f₂.store }
      have hread' : retrieve f t credentialId = .ok data := hread
      have hstore' : ∀ data, store f t credentialId data .none = store f₂ t credentialId data .none :=
        fun _ => rfl
      refine ⟨f, ?_⟩
      rw [hread']
      simp only [hdecode, hstore']
      rcases hwritten with ⟨e, herr, rfl, rfl⟩ | ⟨hok, rfl⟩
      · obtain ⟨rfl, rfl⟩ := runs_done_iff.1 hlast
        rw [herr]
      · obtain ⟨rfl, rfl⟩ := runs_done_iff.1 hlast
        rw [hok]

/-- Stripping a prefix takes away no more than the prefix. -/
private theorem length_le_stripped (id pre : Key) :
    id.length ≤ pre.length + ((id.dropPrefix? pre).getD id).length := by
  cases hdrop : id.dropPrefix? pre with
  | none => exact Nat.le_add_left ..
  | some rest =>
    obtain ⟨pre', happ, hpre⟩ := List.dropPrefix?_eq_some_iff.1 hdrop
    rw [happ, List.length_append, eq_of_beq hpre]
    exact Nat.le_refl _

private theorem length_secretsPrefix (ns : CredentialNamespace) (slot : CredentialSlot) :
    (prefixesForSlot ns slot).2.length = (prefixesForSlot ns slot).1.length + 3 := by
  have hfield : ∀ {a b : Key} (field : Key), a.length = b.length + 3 →
      (a ++ field).length = (b ++ field).length + 3 := by
    intro a b field h
    rw [List.length_append, List.length_append]
    omega
  have hproduction : primaryCredsecManagedPrefix.length = primaryCredManagedPrefix.length + 3 := by
    decide
  have hsandbox : sandboxCredsecManagedPrefix.length = sandboxCredManagedPrefix.length + 3 := by
    decide
  cases slot with
  | primary => cases ns <;> decide
  | managed index =>
    cases ns with
    | sandbox => exact hfield _ hsandbox
    | primary => exact hfield _ hproduction
    | unknown => exact hfield _ hproduction

/-- The secrets key of an id is another key: it is longer than what it
    was made from. -/
theorem secretsKeyOf_ne (id : Key) : secretsKeyOf id ≠ id := by
  intro hsame
  have hlength := congrArg List.length hsame
  unfold secretsKeyOf baseIdOf at hlength
  generalize fromCredentialId id = place at hlength
  obtain ⟨ns, slot⟩ := place
  simp only [List.length_append] at hlength
  have hstripped := length_le_stripped id (prefixesForSlot ns slot).1
  have hlonger := length_secretsPrefix ns slot
  omega

/-- **Deleting a credential**, call by call. -/
theorem deleteCredential_covers (credentialId : Key) {kv kv' : Kv} {a : Except String Unit}
    (h : OnContents (deleteCredentialCalls credentialId) kv a kv') :
    ∃ f : Faults, deleteCredential f credentialId kv = (a, kv') := by
  unfold deleteCredentialCalls at h
  unfold deleteCredential
  obtain ⟨r, t, hpublic, hafter⟩ := runs_bind_iff.1 h
  obtain ⟨f₁, ⟨e, herr, rfl, rfl⟩ | ⟨hok, rfl⟩⟩ := onContents_delete hpublic
  · obtain ⟨rfl, rfl⟩ := runs_done_iff.1 hafter
    refine ⟨f₁, ?_⟩
    rw [herr]
  · obtain ⟨r, t₂, hsecrets, hlast⟩ := runs_bind_iff.1 hafter
    obtain ⟨f₂, hdeleted⟩ := onContents_delete hsecrets
    obtain ⟨rfl, rfl⟩ := runs_done_iff.1 hlast
    -- the two records have two keys
    let f : Faults := { f₁ with
      delete := Function.update f₁.delete (secretsKeyOf credentialId)
        (f₂.delete (secretsKeyOf credentialId)) }
    have hfirst : delete f kv credentialId = .ok t := by
      rw [← hok]
      exact delete_congr kv (Function.update_of_ne (secretsKeyOf_ne credentialId).symm ..)
    have hsecond : delete f t (secretsKeyOf credentialId) =
        delete f₂ t (secretsKeyOf credentialId) :=
      delete_congr t (Function.update_self ..)
    refine ⟨f, ?_⟩
    rw [hfirst]
    simp only [hsecond]
    rcases hdeleted with ⟨e, herr, -, rfl⟩ | ⟨hok, -⟩
    · rw [herr]
    · rw [hok]

/-- The loop of a sweep, over keys without repetition. -/
theorem deleteMatching_covers (ns : CredentialNamespace) {keys : List Key} (hkeys : keys.Nodup)
    {deleted n : Nat} {kv kv' : Kv} (h : OnContents (deleteMatchingCalls ns keys deleted) kv n kv') :
    ∃ deletes : Key → Option WalletError, ∀ f : Faults, (∀ k ∈ keys, f.delete k = deletes k) →
      deleteMatching f ns keys deleted kv = (n, kv') := by
  induction keys generalizing kv deleted with
  | nil =>
    obtain ⟨rfl, rfl⟩ := runs_done_iff.1 h
    exact ⟨fun _ => none, fun f _ => rfl⟩
  | cons key keys ih =>
    obtain ⟨hfresh, hkeys⟩ := List.nodup_cons.1 hkeys
    unfold deleteMatchingCalls at h
    by_cases hin : inNamespace ns key
    · rw [if_pos hin] at h
      obtain ⟨r, t, hdelete, hrest⟩ := runs_bind_iff.1 h
      obtain ⟨f₀, hdeleted⟩ := onContents_delete hdelete
      -- the key's own outcome, and those of the others
      have hcons : ∀ m t, OnContents (deleteMatchingCalls ns keys m) t n kv' →
          (∀ f : Faults, delete f kv key = delete f₀ kv key →
            deleteMatching f ns (key :: keys) deleted kv = deleteMatching f ns keys m t) →
          ∃ deletes : Key → Option WalletError, ∀ f : Faults,
            (∀ k ∈ key :: keys, f.delete k = deletes k) →
              deleteMatching f ns (key :: keys) deleted kv = (n, kv') := by
        intro m t hrest hfirst
        obtain ⟨deletes, hothers⟩ := ih hkeys hrest
        refine ⟨Function.update deletes key (f₀.delete key), fun f hf => ?_⟩
        rw [hfirst f (delete_congr kv ?_)]
        · refine hothers f fun k hk => ?_
          rw [hf k (List.mem_cons_of_mem _ hk), Function.update_of_ne]
          intro hsame
          exact hfresh (hsame ▸ hk)
        · rw [hf key (List.mem_cons_self ..), Function.update_self]
      rcases hdeleted with ⟨e, herr, rfl, rfl⟩ | ⟨hok, rfl⟩
      · refine hcons deleted t hrest fun f hf => ?_
        unfold deleteMatching
        rw [if_pos hin, hf, herr]
        cases keys <;> rfl
      · refine hcons (deleted + 1) t hrest fun f hf => ?_
        conv_lhs => unfold deleteMatching
        rw [if_pos hin, hf, hok]
    · rw [if_neg hin] at h
      obtain ⟨deletes, hothers⟩ := ih hkeys h
      refine ⟨deletes, fun f hf => ?_⟩
      unfold deleteMatching
      rw [if_neg hin]
      exact hothers f fun k hk => hf k (List.mem_cons_of_mem _ hk)

/-- **Emptying the sandbox**, call by call. -/
theorem deleteSandboxCredentials_covers {kv kv' : Kv} {a : Except String Nat}
    (h : OnContents deleteSandboxCredentialsCalls kv a kv') :
    ∃ f : Faults, deleteSandboxCredentials f kv = (a, kv') := by
  unfold deleteSandboxCredentialsCalls at h
  unfold deleteSandboxCredentials deleteAllInNamespace
  obtain ⟨r, t, hlist, hafter⟩ := runs_bind_iff.1 h
  obtain ⟨rfl, f₁, rfl⟩ := onContents_listKeys hlist
  cases hlisted : listKeys f₁ t with
  | error e =>
    rw [hlisted] at hafter
    obtain ⟨rfl, rfl⟩ := runs_done_iff.1 hafter
    refine ⟨f₁, ?_⟩
    simp only [hlisted]
  | ok keys =>
    rw [hlisted] at hafter
    obtain ⟨n, t₂, hsweep, hlast⟩ := runs_bind_iff.1 hafter
    obtain ⟨rfl, rfl⟩ := runs_done_iff.1 hlast
    obtain ⟨deletes, hdeletes⟩ := deleteMatching_covers _ (listKeys_nodup hlisted) hsweep
    have hlisted' : listKeys { f₁ with delete := deletes } t = .ok keys := hlisted
    refine ⟨{ f₁ with delete := deletes }, ?_⟩
    rw [hlisted']
    simp only
    rw [hdeletes _ fun _ _ => rfl]

/-! ## §5. The reading methods -/

/-- A method that makes one read and computes its value from it. -/
private theorem onContents_read {α : Type} {key : Key} {bio : BiometricRequirement}
    {next : Except WalletError Bytes → Calls α} {method : Faults → α} {kv kv' : Kv} {a : α}
    (hnext : ∀ f r, retrieve f kv key = r → next r = .done (method f))
    (h : OnContents ((Calls.retrieve key bio).bind next) kv a kv') :
    kv' = kv ∧ ∃ f : Faults, method f = a := by
  obtain ⟨r, t, hretrieve, hafter⟩ := runs_bind_iff.1 h
  obtain ⟨rfl, f, rfl⟩ := onContents_retrieve hretrieve
  rw [hnext f _ rfl] at hafter
  obtain ⟨rfl, rfl⟩ := runs_done_iff.1 hafter
  exact ⟨rfl, f, rfl⟩

/-- **Loading secrets**, call by call. -/
theorem loadCredentialSecrets_covers (X : Crates) (credId : Key) {kv kv' : Kv}
    {a : Except String (Option CredentialSecrets)}
    (h : OnContents (loadCredentialSecretsCalls X credId) kv a kv') :
    kv' = kv ∧ ∃ f : Faults, loadCredentialSecrets X f credId kv = a := by
  refine onContents_read ?_ h
  intro f r hread
  unfold loadCredentialSecrets
  rw [hread]
  cases r with
  | error e =>
    simp only
    split <;> rfl
  | ok data =>
    simp only
    cases decodeSecrets data <;> rfl

/-- **Reading a public record**, call by call. -/
theorem getCredential_covers (X : Crates) (credentialId : Key) {kv kv' : Kv}
    {a : Except String (Option CredentialV2)}
    (h : OnContents (getCredentialCalls X credentialId) kv a kv') :
    kv' = kv ∧ ∃ f : Faults, getCredential X f credentialId kv = a := by
  refine onContents_read ?_ h
  intro f r hread
  unfold getCredential
  rw [hread]
  cases r with
  | error e =>
    simp only
    split <;> rfl
  | ok data =>
    simp only
    cases decodeStored data <;> rfl

/-- **Looking for a free index**, call by call. -/
theorem nextAvailableManagedIndex_covers (ns : CredentialNamespace) {kv kv' : Kv}
    {a : Except String UInt8} (h : OnContents (nextAvailableManagedIndexCalls ns) kv a kv') :
    kv' = kv ∧ ∃ f : Faults, nextAvailableManagedIndex f ns kv = a := by
  unfold nextAvailableManagedIndexCalls at h
  unfold nextAvailableManagedIndex
  obtain ⟨r, t, hlist, hafter⟩ := runs_bind_iff.1 h
  obtain ⟨rfl, f, rfl⟩ := onContents_listKeys hlist
  cases hlisted : listKeys f t with
  | error e =>
    rw [hlisted] at hafter
    obtain ⟨rfl, rfl⟩ := runs_done_iff.1 hafter
    refine ⟨rfl, f, ?_⟩
    simp only [hlisted]
  | ok keys =>
    rw [hlisted] at hafter
    simp only at hafter
    cases hindex : firstFreeIndex (managedCredPrefix ns) keys with
    | none =>
      rw [hindex] at hafter
      obtain ⟨rfl, rfl⟩ := runs_done_iff.1 hafter
      refine ⟨rfl, f, ?_⟩
      simp only [hlisted, hindex]
    | some i =>
      rw [hindex] at hafter
      obtain ⟨rfl, rfl⟩ := runs_done_iff.1 hafter
      refine ⟨rfl, f, ?_⟩
      simp only [hlisted, hindex]

/-- Distinct stored credentials have distinct secrets keys. -/
def SecretsApart (kv : Kv) : Prop :=
  ∀ k₁ k₂, k₁ ∈ kv → k₂ ∈ kv → isCredentialKey k₁ = true → isCredentialKey k₂ = true →
    secretsKeyOf k₁ = secretsKeyOf k₂ → k₁ = k₂

/-- One round of the listing loop. -/
theorem listEntry_covers (clock : Key → Int64) (key : Key) {kv kv' : Kv}
    {entry : Option CredentialInfo} (h : OnContents (listEntryCalls clock key) kv entry kv') :
    kv' = kv ∧ ∃ retrieved has : Option WalletError, ∀ f : Faults, f.retrieve key = retrieved →
      (isCredentialKey key = true → f.has (secretsKeyOf key) = has) →
        listEntry f clock kv key = entry := by
  unfold listEntryCalls at h
  unfold listEntry
  by_cases hkey : isCredentialKey key = true
  · rw [if_pos hkey] at h
    obtain ⟨r, t, hretrieve, hafter⟩ := runs_bind_iff.1 h
    obtain ⟨rfl, f₁, rfl⟩ := onContents_retrieve hretrieve
    cases hread : retrieve f₁ t key with
    | error e =>
      rw [hread] at hafter
      obtain ⟨rfl, rfl⟩ := runs_done_iff.1 hafter
      refine ⟨rfl, f₁.retrieve key, none, fun f hf _ => ?_⟩
      rw [if_pos hkey, retrieve_congr _ hf, hread]
    | ok data =>
      rw [hread] at hafter
      simp only at hafter
      cases hdecode : decodeStored data with
      | none =>
        rw [hdecode] at hafter
        obtain ⟨rfl, rfl⟩ := runs_done_iff.1 hafter
        refine ⟨rfl, f₁.retrieve key, none, fun f hf _ => ?_⟩
        rw [if_pos hkey, retrieve_congr _ hf, hread]
        simp only [hdecode, Option.map_none]
      | some stored =>
        rw [hdecode] at hafter
        obtain ⟨r, t₂, hexists, hlast⟩ := runs_bind_iff.1 hafter
        obtain ⟨rfl, f₂, rfl⟩ := onContents_exists hexists
        refine ⟨?_, f₁.retrieve key, f₂.has (secretsKeyOf key), fun f hf hhas => ?_⟩
        · cases hsecrets : exists? f₂ _ (secretsKeyOf key) with
          | error e =>
            rw [hsecrets] at hlast
            exact (runs_done_iff.1 hlast).2
          | ok b =>
            rw [hsecrets] at hlast
            exact (runs_done_iff.1 hlast).2
        · rw [if_pos hkey, retrieve_congr _ hf, hread]
          simp only [hdecode, Option.map_some]
          rw [exists_congr_has _ (hhas hkey)]
          cases hsecrets : exists? f₂ _ (secretsKeyOf key) with
          | error e =>
            rw [hsecrets] at hlast
            exact (runs_done_iff.1 hlast).1.symm
          | ok b =>
            rw [hsecrets] at hlast
            exact (runs_done_iff.1 hlast).1.symm
  · rw [if_neg hkey] at h
    obtain ⟨rfl, rfl⟩ := runs_done_iff.1 h
    refine ⟨rfl, none, none, fun f _ _ => ?_⟩
    rw [if_neg hkey]

/-- The listing loop, over keys without repetition: each key has its own
    outcomes. -/
theorem listEntries_covers (clock : Key → Int64) {keys : List Key} (hkeys : keys.Nodup)
    {kv kv' : Kv} {infos : List CredentialInfo}
    (h : OnContents (listEntriesCalls clock keys) kv infos kv') :
    kv' = kv ∧ ∃ retrieves has : Key → Option WalletError, ∀ f : Faults,
      (∀ k ∈ keys, f.retrieve k = retrieves k) →
      (∀ k ∈ keys, isCredentialKey k = true → f.has (secretsKeyOf k) = has k) →
        keys.filterMap (listEntry f clock kv) = infos := by
  induction keys generalizing infos with
  | nil =>
    obtain ⟨rfl, rfl⟩ := runs_done_iff.1 h
    exact ⟨rfl, fun _ => none, fun _ => none, fun f _ _ => rfl⟩
  | cons key keys ih =>
    obtain ⟨hfresh, hkeys⟩ := List.nodup_cons.1 hkeys
    obtain ⟨entry, t, hentry, hafter⟩ := runs_bind_iff.1 h
    obtain ⟨rfl, retrieved, found, hentry⟩ := listEntry_covers clock key hentry
    obtain ⟨rest, t₂, hrest, hlast⟩ := runs_bind_iff.1 hafter
    obtain ⟨rfl, rfl⟩ := runs_done_iff.1 hlast
    obtain ⟨rfl, retrieves, has, hothers⟩ := ih hkeys hrest
    have hother : ∀ k ∈ keys, k ≠ key := fun k hk hsame => hfresh (hsame ▸ hk)
    refine ⟨rfl, Function.update retrieves key retrieved, Function.update has key found,
      fun f hf hhas => ?_⟩
    have hfirst : listEntry f clock kv' key = entry := by
      apply hentry f
      · rw [hf key (List.mem_cons_self ..), Function.update_self]
      · intro hpublic
        rw [hhas key (List.mem_cons_self ..) hpublic, Function.update_self]
    have hlater : keys.filterMap (listEntry f clock kv') = rest := by
      apply hothers f
      · intro k hk
        rw [hf k (List.mem_cons_of_mem _ hk), Function.update_of_ne (hother k hk)]
      · intro k hk hpublic
        rw [hhas k (List.mem_cons_of_mem _ hk) hpublic, Function.update_of_ne (hother k hk)]
    rw [List.filterMap_cons, hfirst, hlater]
    cases entry <;> rfl

/-- **Listing the credentials**, call by call. -/
theorem listCredentials_covers (clock : Key → Int64) {kv kv' : Kv} (hkv : SecretsApart kv)
    {a : Except String (List CredentialInfo)} (h : OnContents (listCredentialsCalls clock) kv a kv') :
    kv' = kv ∧ ∃ f : Faults, listCredentials f clock kv = a := by
  unfold listCredentialsCalls at h
  unfold listCredentials
  obtain ⟨r, t, hlist, hafter⟩ := runs_bind_iff.1 h
  obtain ⟨rfl, f₁, rfl⟩ := onContents_listKeys hlist
  cases hlisted : listKeys f₁ t with
  | error e =>
    rw [hlisted] at hafter
    obtain ⟨rfl, rfl⟩ := runs_done_iff.1 hafter
    refine ⟨rfl, f₁, ?_⟩
    simp only [hlisted]
  | ok keys =>
    rw [hlisted] at hafter
    obtain ⟨infos, t₂, hentries, hlast⟩ := runs_bind_iff.1 hafter
    obtain ⟨rfl, rfl⟩ := runs_done_iff.1 hlast
    obtain ⟨rfl, retrieves, has, hinfos⟩ := listEntries_covers clock (listKeys_nodup hlisted) hentries
    have hstored : ∀ k ∈ keys, k ∈ kv' := fun k hk =>
      AList.lookup_isSome.1 ((mem_listKeys hlisted k).1 hk)
    -- the check of a secrets key is that of the credential it belongs to
    let found : Key → Option WalletError := fun secretsKey =>
      (keys.find? fun k => isCredentialKey k && secretsKeyOf k == secretsKey).elim none has
    let f : Faults := { f₁ with retrieve := retrieves, has := found }
    have hlisted' : listKeys f kv' = .ok keys := hlisted
    have hfound : ∀ k ∈ keys, isCredentialKey k = true → found (secretsKeyOf k) = has k := by
      intro k hk hpublic
      show (keys.find? _).elim none has = has k
      cases hfind : keys.find? fun k' => isCredentialKey k' && secretsKeyOf k' == secretsKeyOf k with
      | none =>
        have hno := List.find?_eq_none.1 hfind k hk
        simp [hpublic] at hno
      | some k' =>
        have hyes := List.find?_some hfind
        rw [Bool.and_eq_true] at hyes
        have hsame := hkv k' k (hstored k' (List.mem_of_find?_eq_some hfind)) (hstored k hk)
          hyes.1 hpublic (eq_of_beq hyes.2)
        rw [hsame]
        rfl
    refine ⟨rfl, f, ?_⟩
    rw [hlisted']
    simp only
    rw [hinfos f (fun _ _ => rfl) hfound]

end ProviiSdk.Ffi
