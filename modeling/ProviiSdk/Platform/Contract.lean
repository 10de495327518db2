/-
  ProviiSdk.Platform.Contract — a call of the storage trait.

  The wallet reaches a backend through five methods of the trait
  `PlatformSecureStorage`.  Here a call of any of them is a request, and
  what the contract allows as its answer is what the finite map with
  arbitrary failures answers.  A backend meets the contract if it follows
  this machine.

  Main results:
    * `perform_failing` — any error is an allowed answer, if the call has
      no effect.
    * `perform_listing` — so is any rearrangement of the stored keys.
-/

import ProviiSdk.Lib.Simulation
import ProviiSdk.Platform.SecureStorage

namespace ProviiSdk.Platform

/-! ## §1. Requests and answers -/

/-- A call of the trait with its arguments. -/
inductive Request where
  | store (key : Key) (data : Bytes) (bio : BiometricRequirement)
  | retrieve (key : Key) (bio : BiometricRequirement)
  | delete (key : Key)
  | exists_ (key : Key)
  | listKeys

/-- What a call that succeeds returns. -/
inductive Answer where
  | done
  | data (bytes : Bytes)
  | present (b : Bool)
  | keys (ks : List Key)
  deriving DecidableEq

/-- The answer to a write, with the contents it leaves. -/
def wrote (kv : Kv) (r : Except WalletError Kv) : Except WalletError Answer × Kv :=
  match r with
  | .ok kv' => (.ok .done, kv')
  | .error e => (.error e, kv)

/-- A request on the contents: the contract. -/
def perform (kv : Kv) (call : Faults × Request) : Except WalletError Answer × Kv :=
  match call.2 with
  | .store key data bio => wrote kv (store call.1 kv key data bio)
  | .retrieve key _ => ((retrieve call.1 kv key).map .data, kv)
  | .delete key => wrote kv (delete call.1 kv key)
  | .exists_ key => ((exists? call.1 kv key).map .present, kv)
  | .listKeys => ((listKeys call.1 kv).map .keys, kv)

/-! ## §2. Allowed answers -/

/-- A backend every call of which meets an error. -/
def Faults.failing (e : WalletError) : Faults :=
  { list := some e, listing := .asKept, retrieve := fun _ => some e, has := fun _ => some e,
    store := fun _ => some e, delete := fun _ => some e }

/-- **Any error is allowed**, without effect. -/
theorem perform_failing (kv : Kv) (e : WalletError) (request : Request) :
    perform kv (.failing e, request) = (.error e, kv) := by
  cases request <;> rfl

theorem perform_store (kv : Kv) (key : Key) (data : Bytes) (bio : BiometricRequirement) :
    perform kv (.never, .store key data bio) = (.ok .done, kv.insert key ⟨data, bio⟩) := rfl

theorem perform_delete (kv : Kv) (key : Key) :
    perform kv (.never, .delete key) = (.ok .done, kv.erase key) := rfl

theorem perform_retrieve {kv : Kv} {key : Key} {item : Item} (bio : BiometricRequirement)
    (h : kv.lookup key = some item) :
    perform kv (.never, .retrieve key bio) = (.ok (.data item.data), kv) := by
  unfold perform
  simp only [retrieve_healthy Faults.never_healthy h]
  rfl

theorem perform_exists (kv : Kv) (key : Key) :
    perform kv (.never, .exists_ key) = (.ok (.present (kv.lookup key).isSome), kv) := rfl

/-- **Any rearrangement of the stored keys is allowed** as a listing. -/
theorem perform_listing (kv : Kv) {ks : List Key} (h : ks.Perm kv.keys) :
    ∃ f : Faults, perform kv (f, .listKeys) = (.ok (.keys ks), kv) := by
  have hperm : ∀ keys, (if keys = kv.keys then ks else keys).Perm keys := by
    intro keys
    split
    next hkeys =>
      rw [hkeys]
      exact h
    next => exact List.Perm.refl keys
  refine ⟨.answering ⟨fun keys => if keys = kv.keys then ks else keys, hperm⟩, ?_⟩
  unfold perform
  simp only [listKeys_healthy (Faults.answering_healthy _)]
  show (Except.ok (Answer.keys (if kv.keys = kv.keys then ks else kv.keys)), kv) = _
  rw [if_pos rfl]

/-- Contents that hold items under the same keys list the same keys. -/
theorem keys_perm_of_lookup {α β : Type} {a : AList fun _ : Key => α} {b : AList fun _ : Key => β}
    (h : ∀ k, (a.lookup k).isSome = (b.lookup k).isSome) : a.keys.Perm b.keys := by
  rw [List.perm_ext_iff_of_nodup a.keys_nodup b.keys_nodup]
  intro k
  rw [← AList.mem_keys, ← AList.mem_keys, ← AList.lookup_isSome, ← AList.lookup_isSome, h]

end ProviiSdk.Platform
