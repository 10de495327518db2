/-
  ProviiSdk.Wallet.PrefixDeletion — deleting the keys with a prefix.

  `SecureStore` wraps a backend.  Its `delete_prefix` lists the keys with
  a prefix, deletes each and goes on when a delete fails; at the end it
  reports the first error, or how many keys there were.  Which deletes
  fail is up to the backend, and may be different for every call.

  Main results:
    * `deleteEach_eq` — the loop as a sweep, and the error it ends with.
    * `deletePrefix_spied` — which deletes are called, and with what
      answers.
    * `onFaults`, `Ios.onKeychain`, `Android.onKeystore` — backends that
      keep the contract of the trait.
    * `held_of_other_area` — clearing one area of keys leaves the others.
    * `delete_prefix_exact` — what is called, what goes, what is returned.
-/

import ProviiSdk.Wallet.BulkDeletion

namespace ProviiSdk.Platform

open ProviiSdk.Sweep

/-! ## §1. The trait and its wrapper -/

/-- A backend that keeps the contract of `PlatformSecureStorage`, as far
    as the wrapper calls it.  A listing that is answered names the held
    keys, each once; a delete removes its key if it succeeds, and changes
    nothing else. -/
structure PlatformSecureStorage (σ β : Type) where
  held : σ → Key → Option β
  listKeys : σ → Except WalletError (List Key)
  delete : Key → σ → Except WalletError Unit × σ
  listed : ∀ s keys, listKeys s = .ok keys → keys.Nodup ∧ ∀ k, k ∈ keys ↔ held s k ≠ none
  deletes : ∀ k s, Removes held (fun j => j = k ∧ (delete k s).1 = .ok ()) s (delete k s).2

variable {σ β : Type} (B : PlatformSecureStorage σ β)

/-- The keys with a prefix, in the order they are listed in. -/
def startingWith (start : Key) (keys : List Key) : List Key :=
  keys.filter fun k => start.isPrefixOf k

/-- `list_keys_with_prefix`.  The argument is the prefix. -/
def listKeysWithPrefix (start : Key) (s : σ) : Except WalletError (List Key) := do
  let allKeys ← B.listKeys s
  return startingWith start allKeys

/-- The loop of `delete_prefix`, with the first error so far. -/
def deleteEach : List Key → Option WalletError → σ → Option WalletError × σ
  | [], firstError, s => (firstError, s)
  | key :: keys, firstError, s =>
    match B.delete key s with
    | (.ok (), s) => deleteEach keys firstError s
    | (.error e, s) => deleteEach keys (if firstError.isNone then some e else firstError) s

/-- `delete_prefix`.  The argument is the prefix. -/
def deletePrefix (start : Key) (s : σ) : Except WalletError Nat × σ :=
  match listKeysWithPrefix B start s with
  | .error e => (.error e, s)
  | .ok keys =>
    let count := keys.length
    match deleteEach B keys none s with
    | (some e, s) => (.error e, s)
    | (none, s) => (.ok count, s)

/-- The backend with a note of every delete it is asked for, and of its
    answer. -/
def PlatformSecureStorage.spied :
    PlatformSecureStorage (σ × List (Key × Except WalletError Unit)) β where
  held s := B.held s.1
  listKeys s := B.listKeys s.1
  delete key s := ((B.delete key s.1).1, (B.delete key s.1).2, s.2 ++ [(key, (B.delete key s.1).1)])
  listed s := B.listed s.1
  deletes key s := B.deletes key s.1

/-! ## §2. The loop -/

/-- **The loop is a sweep**, which keeps the first error. -/
theorem deleteEach_eq (keys : List Key) (first : Option WalletError) (s : σ) :
    deleteEach B keys first s =
      (first.or (firstError (outcomes B.delete keys s)),
        sweep (fun k s => (B.delete k s).2) keys s) := by
  induction keys generalizing first s with
  | nil =>
    show (first, s) = (first.or none, s)
    rw [Option.or_none]
  | cons k keys ih =>
    unfold deleteEach outcomes
    cases hdelete : B.delete k s with
    | mk answer s' =>
      have hsweep : sweep (fun k s => (B.delete k s).2) (k :: keys) s =
          sweep (fun k s => (B.delete k s).2) keys s' := by
        show sweep (fun k s => (B.delete k s).2) keys (B.delete k s).2 = _
        rw [hdelete]
      rw [hsweep]
      cases answer with
      | ok u => exact ih first s'
      | error e =>
        show deleteEach B keys (if first.isNone then some e else first) s' = _
        rw [ih]
        -- an error counts if it is the first
        cases first with
        | none => rfl
        | some e' => rfl

/-- The spy notes the answers behind what it has noted. -/
theorem sweep_spied (keys : List Key) (s : σ) (noted : List (Key × Except WalletError Unit)) :
    sweep (fun k s => (B.spied.delete k s).2) keys (s, noted) =
      (sweep (fun k s => (B.delete k s).2) keys s, noted ++ outcomes B.delete keys s) := by
  induction keys generalizing s noted with
  | nil =>
    show (s, noted) = (s, noted ++ [])
    rw [List.append_nil]
  | cons k keys ih =>
    show sweep (fun k s => (B.spied.delete k s).2) keys
      ((B.delete k s).2, noted ++ [(k, (B.delete k s).1)]) = _
    rw [ih, List.append_assoc]
    rfl

/-- The spy changes no answer. -/
theorem outcomes_spied (keys : List Key) (s : σ) (noted : List (Key × Except WalletError Unit)) :
    outcomes B.spied.delete keys (s, noted) = outcomes B.delete keys s := by
  induction keys generalizing s noted with
  | nil => rfl
  | cons k keys ih =>
    show (k, (B.delete k s).1) :: outcomes B.spied.delete keys
      ((B.delete k s).2, noted ++ [(k, (B.delete k s).1)]) = _
    rw [ih]
    rfl

/-- A listing that fails ends the call before any delete. -/
theorem deletePrefix_of_error {s : σ} {e : WalletError} (hlist : B.listKeys s = .error e)
    (start : Key) : deletePrefix B start s = (.error e, s) := by
  unfold deletePrefix listKeysWithPrefix
  rw [hlist]
  rfl

/-- **What a call does and returns**, by the answers of its deletes. -/
theorem deletePrefix_of_ok {s : σ} {keys : List Key} (hlist : B.listKeys s = .ok keys)
    (start : Key) :
    deletePrefix B start s =
      ((firstError (outcomes B.delete (startingWith start keys) s)).elim
          (.ok (startingWith start keys).length) .error,
        sweep (fun k s => (B.delete k s).2) (startingWith start keys) s) := by
  have hkeys : listKeysWithPrefix B start s = .ok (startingWith start keys) := by
    unfold listKeysWithPrefix
    rw [hlist]
    rfl
  unfold deletePrefix
  rw [hkeys]
  dsimp only
  rw [deleteEach_eq, Option.none_or]
  cases firstError (outcomes B.delete (startingWith start keys) s) with
  | none => rfl
  | some e => rfl

/-- **Which deletes a call makes**: the spy sees each matching key in the
    order of the listing, and changes neither the call's result nor the
    store. -/
theorem deletePrefix_spied {s : σ} {keys : List Key} (hlist : B.listKeys s = .ok keys)
    (start : Key) :
    deletePrefix B.spied start (s, []) = ((deletePrefix B start s).1, (deletePrefix B start s).2,
      outcomes B.delete (startingWith start keys) s) := by
  have hspied : B.spied.listKeys (s, []) = .ok keys := hlist
  rw [deletePrefix_of_ok B.spied hspied, deletePrefix_of_ok B hlist, outcomes_spied, sweep_spied,
    List.nil_append]

/-! ## §3. Backends that keep the contract -/

/-- The map of the trait's model, whose every call may fail. -/
def onFaults (f : Faults) : PlatformSecureStorage Kv Item where
  held kv k := kv.lookup k
  listKeys kv := Platform.listKeys f kv
  delete key kv :=
    match Platform.delete f kv key with
    | .error e => (.error e, kv)
    | .ok kv' => (.ok (), kv')
  listed kv keys h := by
    unfold Platform.listKeys at h
    split at h
    · cases h
    · injection h with h
      rw [← h]
      exact ⟨f.listing.nodup_order kv, f.listing.mem_order_iff kv⟩
  deletes key kv := by
    cases hdelete : Platform.delete f kv key with
    | error e =>
      refine removes_same (fun _ => rfl) fun j h => ?_
      cases h.2
    | ok kv' =>
      intro j
      show (j = key ∧ _ → kv'.lookup j = none) ∧ (¬ (j = key ∧ _) → kv'.lookup j = kv.lookup j)
      rw [lookup_delete hdelete j]
      exact ⟨fun h => if_pos h.1, fun h => if_neg fun hj => h ⟨hj, rfl⟩⟩

end ProviiSdk.Platform

namespace ProviiSdk.Ios

open ProviiSdk.Platform ProviiSdk.Sweep

/-- A delete removes its key exactly if it succeeds. -/
theorem deleteSecure_removes_ok (cfg : StorageConfig) (c : SecCall) (s : IosStorage) (key : Key) :
    Removes (fun s k => s.keychain.lookup k)
      (fun k => k = key ∧ (deleteSecure cfg c s key).1 = .ok ()) s (deleteSecure cfg c s key).2 := by
  rcases deleteSecure_cases cfg c s key with ⟨r, kc, hr, heq⟩ | ⟨e, heq⟩
  · rw [heq]
    rcases hr with ⟨rfl, hkc⟩ | ⟨⟨e, rfl⟩, rfl⟩
    · intro j
      show (j = key ∧ _ → kc.lookup j = none) ∧
        (¬ (j = key ∧ _) → kc.lookup j = s.keychain.lookup j)
      rw [hkc j]
      exact ⟨fun h => if_pos h.1, fun h => if_neg fun hj => h ⟨hj, rfl⟩⟩
    · refine removes_same (fun _ => rfl) fun j h => ?_
      cases h.2
  · rw [heq]
    refine removes_same (fun _ => rfl) fun j h => ?_
    cases h.2

/-- The Keychain, where the listing is not answered by null. -/
def onKeychain (cfg : StorageConfig) (a : SecList) (ha : a ≠ .null) (c : Key → SecCall) :
    PlatformSecureStorage IosStorage KeychainItem where
  held s k := s.keychain.lookup k
  listKeys s := listKeysInternal a s.keychain
  delete key s := deleteSecure cfg (c key) s key
  listed s keys h := by
    unfold listKeysInternal at h
    split at h
    next order =>
      injection h with h
      rw [← h]
      exact ⟨order.nodup_order _, order.mem_order_iff _⟩
    · exact absurd rfl ha
    · cases h
    · cases h
  deletes key s := deleteSecure_removes_ok cfg (c key) s key

end ProviiSdk.Ios

namespace ProviiSdk.Android

open ProviiSdk.Platform ProviiSdk.Check ProviiSdk.Sweep

/-- Where the bridge does not answer that it kept the item, a delete is
    done exactly if it succeeds. -/
theorem deleteDone_iff_ok {cfg : StorageConfig} {j : Jni} (hj : j.write ≠ .ok false)
    (s : AndroidStorage) (key : Key) :
    DeleteDone j key ↔ (deleteSecure cfg j s key).1 = .ok () := by
  unfold DeleteDone deleteSecure
  cases deleteChecks j key with
  | error e =>
    refine iff_of_false ?_ ?_
    · intro h
      cases h.1
    · intro h
      cases h
  | ok u =>
    cases hwrite : j.write with
    | error e =>
      refine iff_of_false ?_ ?_
      · intro h
        cases h.2
      · intro h
        cases h
    | ok deleted =>
      cases deleted with
      | false => exact absurd hwrite hj
      | true => exact iff_of_true ⟨rfl, rfl⟩ rfl

/-- The Keystore, where the listing is not answered by null, and no delete
    by an item that was kept. -/
def onKeystore (cfg : StorageConfig) (l : ListCall) (hl : l.answer ≠ .null) (j : Key → Jni)
    (hj : ∀ k, (j k).write ≠ .ok false) : PlatformSecureStorage AndroidStorage KeystoreItem where
  held s k := s.keystore.lookup k
  listKeys s := listKeysSecure l s.keystore
  delete key s := deleteSecure cfg (j key) s key
  listed s keys h := by
    unfold listKeysSecure at h
    simp only [bind_eq_ok_iff] at h
    obtain ⟨_, _, _, _, h⟩ := h
    split at h
    · cases h
    next hnull => exact absurd hnull hl
    next order _ =>
      injection h with h
      rw [← h]
      exact ⟨order.nodup_order _, order.mem_order_iff _⟩
  deletes key s := (deleteSecure_removes cfg (j key) s key).congr fun _ =>
    and_congr_right fun _ => deleteDone_iff_ok (hj key) s key

end ProviiSdk.Android

namespace ProviiSdk.Platform

open ProviiSdk.Sweep

variable {σ β : Type}

/-! ## §4. What is deleted, and what is returned -/

/-- The held keys with a prefix. -/
def matching (B : PlatformSecureStorage σ β) (start : Key) (s : σ) : Set Key :=
  {k | B.held s k ≠ none ∧ start <+: k}

/-- **A deletion by prefix is exact.**  The deletes that were called are
    those of the matching keys, each once and in the order of the listing.
    The keys go whose deletes succeeded, and nothing else changes.  The
    result is the number of matching keys exactly if every delete
    succeeded, and an error exactly if that is the answer of a delete
    behind others that succeeded. -/
structure PrefixDeleted (B : PlatformSecureStorage σ β) (start : Key) (keys : List Key) (s s' : σ)
    (calls : List (Key × Except WalletError Unit)) (result : Except WalletError Nat) : Prop where
  order : calls.map Prod.fst = startingWith start keys
  once : ∀ k ∈ matching B start s, (calls.map Prod.fst).count k = 1
  only : ∀ call ∈ calls, call.1 ∈ matching B start s
  removed : ∀ k, (k, .ok ()) ∈ calls → B.held s' k = none
  kept : ∀ k, (k, .ok ()) ∉ calls → B.held s' k = B.held s k
  others : ∀ k, ¬ start <+: k → B.held s' k = B.held s k
  ok_iff : ∀ n, result = .ok n ↔ (∀ call ∈ calls, call.2 = .ok ()) ∧ n = (matching B start s).ncard
  error_iff : ∀ e, result = .error e ↔ ∃ before k after,
    calls = before ++ (k, .error e) :: after ∧ ∀ call ∈ before, call.2 = .ok ()

/-- The listed keys with a prefix are the matching ones, each once. -/
theorem listed_matching (B : PlatformSecureStorage σ β) {s : σ} {keys : List Key}
    (hlist : B.listKeys s = .ok keys) (start : Key) :
    (startingWith start keys).Nodup ∧ ∀ k, k ∈ startingWith start keys ↔ k ∈ matching B start s := by
  obtain ⟨hnodup, hmem⟩ := B.listed s keys hlist
  refine ⟨hnodup.filter _, fun k => ?_⟩
  unfold startingWith
  rw [List.mem_filter, hmem k, List.isPrefixOf_iff_prefix]
  rfl

/-- The result of a call, by the first error of its deletes. -/
theorem result_ok_iff (first : Option WalletError) (count n : Nat) :
    first.elim (Except.ok count) Except.error = .ok n ↔ first = none ∧ n = count := by
  cases first with
  | none =>
    show Except.ok count = Except.ok n ↔ _
    rw [Except.ok.injEq, and_iff_right rfl, eq_comm]
  | some e =>
    refine iff_of_false ?_ ?_
    · intro h
      cases h
    · intro h
      cases h.1

theorem result_error_iff (first : Option WalletError) (count : Nat) (e : WalletError) :
    first.elim (Except.ok count) Except.error = .error e ↔ first = some e := by
  cases first with
  | none =>
    refine iff_of_false ?_ ?_
    · intro h
      cases h
    · intro h
      cases h
  | some e' =>
    show Except.error e' = Except.error e ↔ _
    rw [Except.error.injEq, Option.some.injEq]

/-- Where the listing answers, the deletion is exact. -/
theorem prefixDeleted_of_ok (B : PlatformSecureStorage σ β) {s : σ} {keys : List Key}
    (hlist : B.listKeys s = .ok keys) (start : Key) :
    PrefixDeleted B start keys s (deletePrefix B start s).2
      (outcomes B.delete (startingWith start keys) s)
      (deletePrefix B start s).1 := by
  obtain ⟨hnodup, hmatching⟩ := listed_matching B hlist start
  have hcalled : (outcomes B.delete (startingWith start keys) s).map Prod.fst =
      startingWith start keys := map_fst_outcomes _ s
  have hgone := sweep_removes_outcomes B.deletes (startingWith start keys) s
  have honly : ∀ call ∈ outcomes B.delete (startingWith start keys) s,
      call.1 ∈ matching B start s := by
    intro call hcall
    have hkey := List.mem_map_of_mem (f := Prod.fst) hcall
    rw [hcalled] at hkey
    exact (hmatching call.1).1 hkey
  rw [deletePrefix_of_ok B hlist]
  exact {
    order := hcalled
    once := by
      intro k hk
      rw [hcalled]
      exact List.count_eq_one_of_mem hnodup ((hmatching k).2 hk)
    only := honly
    removed := fun k hk => (hgone k).1 hk
    kept := fun k hk => (hgone k).2 hk
    others := fun k hk => (hgone k).2 fun hcall => hk (honly _ hcall).2
    ok_iff := by
      intro n
      rw [result_ok_iff, firstError_eq_none_iff, length_eq_ncard hnodup hmatching]
    error_iff := by
      intro e
      rw [result_error_iff, firstError_eq_some_iff] }

/-- Keys that do not begin with the prefix are as before. -/
theorem held_of_not_matching (B : PlatformSecureStorage σ β) {start k : Key}
    (hk : ¬ start <+: k) (s : σ) : B.held (deletePrefix B start s).2 k = B.held s k := by
  cases hlist : B.listKeys s with
  | error e => rw [deletePrefix_of_error B hlist]
  | ok keys => exact (prefixDeleted_of_ok B hlist start).others k hk

/-- The prefixes of the wallet's keys. -/
def walletArea : Key := "provii.wallet.".toList
def credentialArea : Key := "provii.cred.".toList
def cacheArea : Key := "provii.cache.".toList
def settingsArea : Key := "provii.settings.".toList

def areas : List Key := [walletArea, credentialArea, cacheArea, settingsArea]

/-- No area is inside another. -/
theorem areas_apart : ∀ p ∈ areas, ∀ q ∈ areas, p.isPrefixOf q = true → p = q := by decide

/-- **Clearing one area** leaves the keys of the others. -/
theorem held_of_other_area (B : PlatformSecureStorage σ β) {p q k : Key} (hp : p ∈ areas)
    (hq : q ∈ areas) (hne : p ≠ q) (hk : q <+: k) (s : σ) :
    B.held (deletePrefix B p s).2 k = B.held s k := by
  refine held_of_not_matching B ?_ s
  intro hpk
  rcases List.prefix_or_prefix_of_prefix hpk hk with h | h
  · exact hne (areas_apart p hp q hq (List.isPrefixOf_iff_prefix.2 h))
  · exact hne (areas_apart q hq p hp (List.isPrefixOf_iff_prefix.2 h)).symm

/-- **Deletion by prefix**, for every backend that keeps the contract,
    every prefix and every store: where the listing fails nothing is
    called, and else the deletion is exact. -/
theorem delete_prefix_exact (B : PlatformSecureStorage σ β) (start : Key) (s : σ) :
    ∃ calls,
      deletePrefix B.spied start (s, []) =
        ((deletePrefix B start s).1, (deletePrefix B start s).2, calls) ∧
      (∀ e, B.listKeys s = .error e → calls = [] ∧ deletePrefix B start s = (.error e, s)) ∧
      ∀ keys, B.listKeys s = .ok keys →
        PrefixDeleted B start keys s (deletePrefix B start s).2 calls (deletePrefix B start s).1 := by
  cases hlist : B.listKeys s with
  | error e =>
    refine ⟨[], ?_, ?_, ?_⟩
    · have hspied : B.spied.listKeys (s, []) = .error e := hlist
      rw [deletePrefix_of_error B hlist]
      exact deletePrefix_of_error B.spied hspied start
    · intro e' he
      injection he with he
      exact ⟨rfl, he ▸ deletePrefix_of_error B hlist start⟩
    · intro keys hkeys
      cases hkeys
  | ok keys =>
    refine ⟨_, deletePrefix_spied B hlist start, ?_, ?_⟩
    · intro e he
      cases he
    · intro keys' hkeys
      injection hkeys with hkeys
      exact hkeys ▸ prefixDeleted_of_ok B hlist start

/-- Of two keys with the prefix one is not deleted, and a third stays. -/
example :
    let f : Faults :=
      { Faults.never with delete := fun k => if k = ['a', 'b'] then some .notFound else none }
    let others : Kv := AList.singleton ['b'] ⟨[1], .none⟩
    deletePrefix (onFaults f) ['a']
        ((others.insert ['a', 'c'] ⟨[2], .none⟩).insert ['a', 'b'] ⟨[3], .none⟩) =
      (.error .notFound, others.insert ['a', 'b'] ⟨[3], .none⟩) := rfl

end ProviiSdk.Platform
