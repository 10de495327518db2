/-
  ProviiSdk.Ios.KeychainSpec — what the iOS backend's operations do.

  A store without biometrics overwrites an item in place.  A store with
  biometrics removes the item first and adds it again, so there is a
  third way for it to end: torn, with the old item gone and the new one
  not there.

  Main results:
    * `storeItemInternal_cases` — the ways one attempt at a store can
      end.
    * `storeSecure_cases`, `retrieveSecure_cases`, `deleteSecure_cases` —
      what the operations do, and when.
    * `storeSecure_hasValue_iff` — when a store over an item leaves it its
      value.
    * `retrieveSecure_ok_iff` — when a retrieve succeeds.
-/

import ProviiSdk.Ios.Keychain

namespace ProviiSdk.Ios

open ProviiSdk.Platform ProviiSdk.Check

/-! ## §1. What one attempt at a store does -/

/-- What an attempt at a store with biometrics needs to succeed. -/
def BioWriteDone (a : SecAnswers) (kc : Keychain) (key : Key) : Prop :=
  a.accessControl = true ∧ a.add = none ∧
    ((kc.lookup key).isSome → a.delete = none ∧ a.reAdd = none)

/-- What an attempt at an overwrite with biometrics needs to remove the
    old item and not add the new one. -/
def BioOverwriteTorn (a : SecAnswers) (kc : Keychain) (key : Key) : Prop :=
  (kc.lookup key).isSome ∧ a.accessControl = true ∧ a.add = none ∧ a.delete = none ∧
    a.reAdd.isSome

/-- An attempt that has what it needs is not torn. -/
theorem BioWriteDone.not_torn {a : SecAnswers} {kc : Keychain} {key : Key}
    (h : BioWriteDone a kc key) : ¬ BioOverwriteTorn a kc key := by
  rintro ⟨hsome, -, -, -, hre⟩
  rw [(h.2.2 hsome).2] at hre
  cases hre

/-- The ways one attempt at a store can end.  Only an overwrite with
    biometrics can fail after it has changed something. -/
inductive StoreAttempt (a : SecAnswers) (kc : Keychain) (key : Key) (data : Bytes) :
    Bool → Except WalletError Unit × Keychain → Prop where
  | added (bio : Bool) (habsent : kc.lookup key = none)
    (hdone : bio = true → BioWriteDone a kc key) :
    StoreAttempt a kc key data bio (.ok (), kc.insert key ⟨data, bio⟩)
  | updated (item : KeychainItem) (hitem : kc.lookup key = some item) :
    StoreAttempt a kc key data false (.ok (), kc.insert key { item with data })
  | replaced (hdone : BioWriteDone a kc key) :
    StoreAttempt a kc key data true (.ok (), (kc.erase key).insert key ⟨data, true⟩)
  | torn (e : WalletError) (htorn : BioOverwriteTorn a kc key) :
    StoreAttempt a kc key data true (.error e, kc.erase key)
  | failed (bio : Bool) (e : WalletError)
    (hnot : bio = true → ¬ BioWriteDone a kc key ∧ ¬ BioOverwriteTorn a kc key) :
    StoreAttempt a kc key data bio (.error e, kc)

/-- **Every attempt at a store ends in one of these ways.** -/
theorem storeItemInternal_cases (a : SecAnswers) (kc : Keychain) (key : Key) (data : Bytes)
    (bio : Bool) : StoreAttempt a kc key data bio (storeItemInternal a kc key data bio) := by
  have hdup : ¬ errSecDuplicateItem = errSecSuccess := by decide
  unfold storeItemInternal
  by_cases hac : (bio && !a.accessControl) = true
  · rw [if_pos hac]
    rw [Bool.and_eq_true, Bool.not_eq_true'] at hac
    refine .failed bio _ fun _ => ⟨fun h => ?_, fun h => ?_⟩
    · exact absurd (hac.2.symm.trans h.1) (by decide)
    · exact absurd (hac.2.symm.trans h.2.1) (by decide)
  · rw [if_neg hac]
    have hac' : bio = true → a.accessControl = true := by
      rintro rfl
      simpa using hac
    cases hadd : a.add with
    | some e =>
      simp only [secItemAdd, e.notSuccess, e.notDuplicate, if_false]
      refine .failed bio _ fun _ => ⟨fun h => ?_, fun h => ?_⟩
      · exact absurd (hadd.symm.trans h.2.1) (by simp)
      · exact absurd (hadd.symm.trans h.2.2.1) (by simp)
    | none =>
      cases hitem : kc.lookup key with
      | none =>
        simp only [secItemAdd, hitem, Option.isSome_none, Bool.false_eq_true, if_false, if_true]
        exact .added bio hitem fun hbio => ⟨hac' hbio, hadd, fun h => absurd h (by simp [hitem])⟩
      | some item =>
        simp only [secItemAdd, hitem, Option.isSome_some, if_true, if_neg hdup]
        cases bio with
        | false =>
          -- an overwrite in place
          simp only [Bool.false_eq_true, if_false, updateItemInternal]
          cases hup : a.update with
          | some e =>
            simp only [secItemUpdate, e.notSuccess, if_false]
            exact .failed false _ fun h => absurd h (by decide)
          | none =>
            simp only [secItemUpdate, hitem, if_true]
            exact .updated item hitem
        | true =>
          have hsome : (kc.lookup key).isSome = true := by rw [hitem]; rfl
          simp only [if_true, deleteItemInternal]
          cases hdel : a.delete with
          | some e =>
            simp only [secItemDelete, e.notSuccess, e.notNotFound, or_self, if_false]
            refine .failed true _ fun _ => ⟨fun h => ?_, fun h => ?_⟩
            · exact absurd (hdel.symm.trans (h.2.2 hsome).1) (by simp)
            · exact absurd (hdel.symm.trans h.2.2.2.1) (by simp)
          | none =>
            simp only [secItemDelete, hitem, Option.isSome_some, if_true, true_or]
            -- the old item is gone: what follows decides whether it is replaced
            cases hre : a.reAdd with
            | some e =>
              simp only [e.notSuccess, if_false]
              exact .torn _ ⟨hsome, hac' rfl, hadd, hdel, by rw [hre]; rfl⟩
            | none =>
              simp only [AList.lookup_erase, Option.isSome_none, Bool.false_eq_true, if_false,
                if_true]
              exact .replaced ⟨hac' rfl, hadd, fun _ => ⟨hdel, hre⟩⟩

/-- An attempt without biometrics that fails changes nothing. -/
theorem storeItemInternal_open_error (a : SecAnswers) (kc kc' : Keychain) (key : Key)
    (data : Bytes) (e : WalletError)
    (h : storeItemInternal a kc key data false = (.error e, kc')) : kc' = kc := by
  have hcases := storeItemInternal_cases a kc key data false
  rw [h] at hcases
  cases hcases with
  | failed _ _ _ => rfl

/-- What an attempt at a store without biometrics needs to succeed;
    `there` says whether the key has an item. -/
def OpenAttemptDone (a : SecAnswers) (there : Prop) : Prop :=
  a.add = none ∧ (there → a.update = none)

/-- The failure of an attempt at a store without biometrics. -/
def OpenAttemptFails (a : SecAnswers) (there : Prop) (e : SecError) : Prop :=
  a.add = some e ∨ (a.add = none ∧ there ∧ a.update = some e)

/-- How an attempt at a store without biometrics ends: the first of its
    two calls that fails decides. -/
theorem storeItemInternal_open_fst (a : SecAnswers) (kc : Keychain) (key : Key) (data : Bytes) :
    (storeItemInternal a kc key data false).1 =
      match a.add, kc.lookup key, a.update with
      | some e, _, _ => .error (mapKeychainError e.status)
      | none, some _, some e => .error (mapKeychainError e.status)
      | none, _, _ => .ok () := by
  have hdup : ¬ errSecDuplicateItem = errSecSuccess := by decide
  unfold storeItemInternal
  rw [Bool.false_and, if_neg (by decide)]
  cases hadd : a.add with
  | some e => simp [secItemAdd, e.notSuccess, e.notDuplicate]
  | none =>
    cases hitem : kc.lookup key with
    | none => simp [secItemAdd, hitem]
    | some item =>
      -- the add reports a duplicate and the update follows
      simp only [secItemAdd, hitem, Option.isSome_some, if_true, if_neg hdup, Bool.false_eq_true,
        if_false, updateItemInternal]
      cases hup : a.update with
      | some e => simp [secItemUpdate, e.notSuccess]
      | none => simp [secItemUpdate, hitem]

theorem storeItemInternal_open_ok_iff (a : SecAnswers) (kc : Keychain) (key : Key) (data : Bytes) :
    (storeItemInternal a kc key data false).1 = .ok () ↔
      OpenAttemptDone a ((kc.lookup key).isSome) := by
  rw [storeItemInternal_open_fst]
  unfold OpenAttemptDone
  cases a.add <;> cases kc.lookup key <;> cases a.update <;> simp

theorem storeItemInternal_open_error_iff (a : SecAnswers) (kc : Keychain) (key : Key) (data : Bytes)
    (err : WalletError) :
    (storeItemInternal a kc key data false).1 = .error err ↔
      ∃ e, OpenAttemptFails a ((kc.lookup key).isSome) e ∧ mapKeychainError e.status = err := by
  rw [storeItemInternal_open_fst]
  unfold OpenAttemptFails
  cases a.add <;> cases kc.lookup key <;> cases a.update <;> simp

/-! ## §2. The Keychain part of a call -/

/-- The Keychain part of a store ends as one of its attempts does. -/
theorem writeItem_cases (c : SecCall) (kc : Keychain) (key : Key) (data : Bytes) (bio : Bool) :
    ∃ n, (bio = true → n = 0) ∧
      StoreAttempt (c.attempt n) kc key data bio (writeItem c kc key data bio) := by
  unfold writeItem
  cases bio with
  | true => exact ⟨0, fun _ => rfl, storeItemInternal_cases _ kc key data true⟩
  | false =>
    obtain ⟨n, hn⟩ := Retry.retry_eq_attempt isNonRetryableError
      (fun n kc => storeItemInternal (c.attempt n) kc key data false)
      (fun n s e s' h => storeItemInternal_open_error _ s s' key data e h) maxKeychainRetries 0 kc
    refine ⟨n, fun h => absurd h (by decide), ?_⟩
    rw [if_neg (by decide), withRetry, hn]
    exact storeItemInternal_cases _ kc key data false

/-- A store with biometrics succeeds exactly when its one attempt gets
    what it needs. -/
theorem writeItem_bio_iff (c : SecCall) (kc : Keychain) (key : Key) (data : Bytes) :
    (writeItem c kc key data true).1 = .ok () ↔ BioWriteDone (c.attempt 0) kc key := by
  obtain ⟨n, hn, hcases⟩ := writeItem_cases c kc key data true
  rw [hn rfl] at hcases
  generalize writeItem c kc key data true = r at hcases
  cases hcases with
  | added _ _ hdone => exact iff_of_true rfl (hdone rfl)
  | replaced hdone => exact iff_of_true rfl hdone
  | torn e htorn => exact iff_of_false (fun h => nomatch h) fun h => h.not_torn htorn
  | failed _ e hnot => exact iff_of_false (fun h => nomatch h) (hnot rfl).1

/-- What a store without biometrics needs to succeed: an attempt that
    does, after attempts that fail with errors that may be retried. -/
def OpenWriteDone (c : SecCall) (there : Prop) : Prop :=
  ∃ n ≤ maxKeychainRetries, OpenAttemptDone (c.attempt n) there ∧
    ∀ m < n, ∃ e, OpenAttemptFails (c.attempt m) there e ∧
      isNonRetryableError (mapKeychainError e.status) = false

theorem writeItem_open_iff (c : SecCall) (kc : Keychain) (key : Key) (data : Bytes) :
    (writeItem c kc key data false).1 = .ok () ↔ OpenWriteDone c ((kc.lookup key).isSome) := by
  have hok : ∀ r : Except WalletError Unit, r = .ok () ↔ ∃ v, r = .ok v :=
    fun r => ⟨fun h => ⟨(), h⟩, fun ⟨_, h⟩ => h⟩
  unfold writeItem withRetry OpenWriteDone
  rw [if_neg (by decide), hok, Retry.retry_ok_iff _ _
    (fun n s e s' h => storeItemInternal_open_error _ s s' key data e h)]
  simp only [Nat.zero_add, ← hok, storeItemInternal_open_ok_iff, storeItemInternal_open_error_iff]
  refine exists_congr fun n => and_congr_right fun _ => and_congr_right fun _ => ?_
  refine forall₂_congr fun m _ => ⟨?_, ?_⟩
  · rintro ⟨_, ⟨e, hfails, rfl⟩, hretry⟩
    exact ⟨e, hfails, hretry⟩
  · rintro ⟨e, hfails, hretry⟩
    exact ⟨_, ⟨e, hfails, rfl⟩, hretry⟩

/-- The error a copy is answered with, if it is not served. -/
def SecCopy.error? : SecCopy → Option WalletError
  | .served => none
  | .failed e => some (mapKeychainError e.status)
  | .malformed e => some e

/-- The Keychain serves an attempt of a retrieve: with biometrics the
    only one, without them one after failures that may be retried. -/
def SecCall.Serves (c : SecCall) : Bool → Prop
  | true => (c.attempt 0).copy.error? = none
  | false =>
    ∃ n ≤ maxKeychainRetries, (c.attempt n).copy.error? = none ∧
      ∀ m < n, ∃ e, (c.attempt m).copy.error? = some e ∧ isNonRetryableError e = false

theorem retrieveItemInternal_eq (a : SecAnswers) (kc : Keychain) (key : Key) (item : KeychainItem)
    (hitem : kc.lookup key = some item) :
    retrieveItemInternal a kc key =
      match a.copy.error? with
      | none => .ok item.data
      | some e => .error e := by
  unfold retrieveItemInternal
  cases a.copy with
  | served => simp only [hitem, SecCopy.error?]
  | failed e => rfl
  | malformed e => rfl

/-- **An item that is there is copied** exactly when the Keychain serves
    an attempt. -/
theorem copyItem_iff (c : SecCall) (kc : Keychain) (key : Key) (bio : Bool) (item : KeychainItem)
    (hitem : kc.lookup key = some item) : (∃ v, copyItem c kc key bio = .ok v) ↔ c.Serves bio := by
  unfold copyItem SecCall.Serves
  cases bio with
  | true =>
    rw [if_pos rfl, retrieveItemInternal_eq _ kc key item hitem]
    cases (c.attempt 0).copy.error? <;> simp
  | false =>
    rw [if_neg (by decide), withRetry,
      Retry.retry_ok_iff _ _ (fun n s e s' h => (Prod.mk.inj h).2.symm)]
    simp only [Nat.zero_add, retrieveItemInternal_eq _ kc key item hitem]
    refine exists_congr fun n => and_congr_right fun _ => and_congr ?_ ?_
    · cases (c.attempt n).copy.error? <;> simp
    · refine forall₂_congr fun m _ => exists_congr fun e => and_congr_left fun _ => ?_
      cases (c.attempt m).copy.error? <;> simp

/-- What is copied from the Keychain is the item's bytes. -/
theorem copyItem_ok (c : SecCall) (kc : Keychain) (key : Key) (bio : Bool) (data : Bytes)
    (h : copyItem c kc key bio = .ok data) :
    ∃ item, kc.lookup key = some item ∧ item.data = data := by
  have hone : ∀ n, retrieveItemInternal (c.attempt n) kc key = .ok data →
      ∃ item, kc.lookup key = some item ∧ item.data = data := by
    intro n hn
    unfold retrieveItemInternal at hn
    split at hn
    · cases hn
    · cases hn
    · split at hn
      next item hitem =>
        injection hn with hn
        exact ⟨item, hitem, hn⟩
      next _ => cases hn
  unfold copyItem at h
  cases bio with
  | true => exact hone 0 h
  | false =>
    rw [if_neg (by decide), withRetry] at h
    obtain ⟨n, hn⟩ := Retry.retry_eq_attempt isNonRetryableError
      (fun n kc => (retrieveItemInternal (c.attempt n) kc key, kc))
      (fun n s e s' h => (Prod.mk.inj h).2.symm) maxKeychainRetries 0 kc
    rw [hn] at h
    exact hone n h

theorem copyItem_ok_iff (c : SecCall) (kc : Keychain) (key : Key) (bio : Bool) (data : Bytes) :
    copyItem c kc key bio = .ok data ↔
      c.Serves bio ∧ ∃ item, kc.lookup key = some item ∧ item.data = data := by
  constructor
  · intro h
    obtain ⟨item, hitem, hdata⟩ := copyItem_ok c kc key bio data h
    exact ⟨(copyItem_iff c kc key bio item hitem).1 ⟨data, h⟩, item, hitem, hdata⟩
  · rintro ⟨hserves, item, hitem, rfl⟩
    obtain ⟨v, hv⟩ := (copyItem_iff c kc key bio item hitem).2 hserves
    obtain ⟨item', hitem', hdata⟩ := copyItem_ok c kc key bio v hv
    rw [hitem] at hitem'
    injection hitem' with hitem'
    rw [hv, ← hdata, hitem']

/-! ## §3. What one call does -/

/-- The Keychain part of a store goes through. -/
def WriteDone (c : SecCall) (kc : Keychain) (key : Key) : Bool → Prop
  | true => BioWriteDone (c.attempt 0) kc key
  | false => OpenWriteDone c ((kc.lookup key).isSome)

theorem writeItem_ok_iff (c : SecCall) (kc : Keychain) (key : Key) (data : Bytes) (bio : Bool) :
    (writeItem c kc key data bio).1 = .ok () ↔ WriteDone c kc key bio := by
  cases bio with
  | true => exact writeItem_bio_iff c kc key data
  | false => exact writeItem_open_iff c kc key data

/-- A store goes through. -/
def StoreDone (c : SecCall) (kc : Keychain) (key : Key) (data : Bytes) (bio : Bool) : Prop :=
  storeChecks key data = .ok () ∧ WriteDone c kc key bio

/-- A store is torn: with biometrics, it removes the old item and fails
    to add the new one. -/
def StoreTorn (c : SecCall) (kc : Keychain) (key : Key) (data : Bytes) (bio : Bool) : Prop :=
  storeChecks key data = .ok () ∧ bio = true ∧ BioOverwriteTorn (c.attempt 0) kc key

/-- How a store ends is decided by its own key. -/
theorem storeDone_congr (c : SecCall) {kc kc' : Keychain} {key : Key} (data : Bytes) (bio : Bool)
    (h : kc.lookup key = kc'.lookup key) :
    StoreDone c kc key data bio ↔ StoreDone c kc' key data bio := by
  unfold StoreDone WriteDone BioWriteDone
  rw [h]

/-- A store that goes through is not torn. -/
theorem storeDone_not_torn {c : SecCall} {kc : Keychain} {key : Key} {data : Bytes} {bio : Bool}
    (h : StoreDone c kc key data bio) : ¬ StoreTorn c kc key data bio := by
  rintro ⟨-, rfl, htorn⟩
  have hdone : BioWriteDone (c.attempt 0) kc key := h.2
  exact hdone.not_torn htorn

theorem storeTorn_congr (c : SecCall) {kc kc' : Keychain} {key : Key} (data : Bytes) (bio : Bool)
    (h : kc.lookup key = kc'.lookup key) :
    StoreTorn c kc key data bio ↔ StoreTorn c kc' key data bio := by
  unfold StoreTorn BioOverwriteTorn
  rw [h]

/-- The Keychain after a store that went through. -/
structure Stored (kc kc' : Keychain) (key : Key) (data : Bytes) (bio : Bool) : Prop where
  item : ∃ item, kc'.lookup key = some item ∧ item.data = data ∧ (bio = true → item.bio = true)
  others : ∀ k, k ≠ key → kc'.lookup k = kc.lookup k

/-- An attempt that succeeds has stored the value, under the access
    control that was asked for. -/
theorem StoreAttempt.stored {a : SecAnswers} {kc kc' : Keychain} {key : Key} {data : Bytes}
    {bio : Bool} (h : StoreAttempt a kc key data bio (.ok (), kc')) :
    Stored kc kc' key data bio := by
  cases h with
  | added _ _ _ =>
    exact ⟨⟨_, AList.lookup_insert _, rfl, id⟩, fun k hk => AList.lookup_insert_ne hk⟩
  | updated item _ =>
    exact ⟨⟨_, AList.lookup_insert _, rfl, fun h => absurd h (by decide)⟩,
      fun k hk => AList.lookup_insert_ne hk⟩
  | replaced _ =>
    refine ⟨⟨_, AList.lookup_insert _, rfl, id⟩, fun k hk => ?_⟩
    rw [AList.lookup_insert_ne hk, AList.lookup_erase_ne hk]

/-- An attempt that fails leaves the Keychain alone, unless it is torn. -/
theorem StoreAttempt.unstored {a : SecAnswers} {kc kc' : Keychain} {key : Key} {data : Bytes}
    {bio : Bool} {e : WalletError} (h : StoreAttempt a kc key data bio (.error e, kc')) :
    (kc' = kc.erase key ∧ bio = true ∧ BioOverwriteTorn a kc key) ∨
      (kc' = kc ∧ ¬ (bio = true ∧ BioOverwriteTorn a kc key)) := by
  cases h with
  | torn _ htorn => exact Or.inl ⟨rfl, rfl, htorn⟩
  | failed _ _ hnot => exact Or.inr ⟨rfl, fun h => (hnot h.1).2 h.2⟩

/-- **What a store does**: it goes through, and the value is cached if no
    biometrics are required; or it is torn; or it changes nothing. -/
theorem storeSecure_cases (cfg : StorageConfig) (c : SecCall) (s : IosStorage) (key : Key)
    (data : Bytes) (bio : Bool) :
    (StoreDone c s.keychain key data bio ∧ ∃ kc, Stored s.keychain kc key data bio ∧
      storeSecure cfg c s key data bio =
        (.ok (),
          if cfg.enableCaching && !bio then addToCache cfg c { s with keychain := kc } key data
          else { s with keychain := kc })) ∨
    (StoreTorn c s.keychain key data bio ∧ ¬ StoreDone c s.keychain key data bio ∧
      ∃ e, storeSecure cfg c s key data bio =
        (.error e, { s with keychain := s.keychain.erase key })) ∨
    (¬ StoreTorn c s.keychain key data bio ∧ ¬ StoreDone c s.keychain key data bio ∧
      ∃ e, storeSecure cfg c s key data bio = (.error e, s)) := by
  unfold storeSecure StoreDone StoreTorn
  cases hchk : storeChecks key data with
  | error e => exact Or.inr (Or.inr ⟨by simp, by simp, e, rfl⟩)
  | ok _ =>
    have hdone := writeItem_ok_iff c s.keychain key data bio
    obtain ⟨n, hn, hcases⟩ := writeItem_cases c s.keychain key data bio
    rcases hw : writeItem c s.keychain key data bio with ⟨r, kc⟩
    rw [hw] at hcases hdone
    simp only [true_and]
    cases r with
    | ok _ => exact Or.inl ⟨hdone.1 rfl, kc, hcases.stored, rfl⟩
    | error e =>
      have hnot : ¬ WriteDone c s.keychain key bio := fun h => absurd (hdone.2 h) (by simp)
      refine Or.inr ?_
      rcases hcases.unstored with ⟨rfl, hbio, htorn⟩ | ⟨rfl, hsafe⟩
      · rw [hn hbio] at htorn
        -- with biometrics the attempt that tore is the only one
        exact Or.inl ⟨⟨hbio, htorn⟩, hnot, e, rfl⟩
      · refine Or.inr ⟨fun h => ?_, hnot, e, rfl⟩
        rw [hn h.1] at hsafe
        exact hsafe h

/-- Caching a value changes the cache only. -/
theorem addToCache_keychain (cfg : StorageConfig) (c : SecCall) (s : IosStorage) (key : Key)
    (data : Bytes) : (addToCache cfg c s key data).keychain = s.keychain := by
  unfold addToCache
  split <;> rfl

/-- A store leaves the other items alone. -/
theorem storeSecure_other (cfg : StorageConfig) (c : SecCall) (s : IosStorage) (key : Key)
    (data : Bytes) (bio : Bool) (j : Key) (hj : j ≠ key) :
    (storeSecure cfg c s key data bio).2.keychain.lookup j = s.keychain.lookup j := by
  rcases storeSecure_cases cfg c s key data bio with
    ⟨-, kc, hstored, heq⟩ | ⟨-, -, e, heq⟩ | ⟨-, -, e, heq⟩
  · rw [heq, ← hstored.others j hj]
    show (if cfg.enableCaching && !bio then _ else _ : IosStorage).keychain.lookup j = _
    split
    · rw [addToCache_keychain]
    · rfl
  · rw [heq]
    exact AList.lookup_erase_ne hj
  · rw [heq]

/-- A store that goes through leaves its value. -/
theorem storeSecure_done (cfg : StorageConfig) (c : SecCall) (s : IosStorage) (key : Key)
    (data : Bytes) (bio : Bool) (h : StoreDone c s.keychain key data bio) :
    ∃ item, (storeSecure cfg c s key data bio).2.keychain.lookup key = some item ∧
      item.data = data := by
  rcases storeSecure_cases cfg c s key data bio with
    ⟨-, kc, hstored, heq⟩ | ⟨-, hnot, -⟩ | ⟨-, hnot, -⟩
  · obtain ⟨item, hitem, hdata, -⟩ := hstored.item
    refine ⟨item, ?_, hdata⟩
    rw [heq, ← hitem]
    show (if cfg.enableCaching && !bio then _ else _ : IosStorage).keychain.lookup key = _
    split
    · rw [addToCache_keychain]
    · rfl
  · exact absurd h hnot
  · exact absurd h hnot

/-- The key's item has the value. -/
def HasValue (item : Option KeychainItem) (data : Bytes) : Prop :=
  ∃ i, item = some i ∧ i.data = data

/-- **A store over an item** leaves it its value exactly when it is not
    torn, and stores that value if it goes through. -/
theorem storeSecure_hasValue_iff (cfg : StorageConfig) (c : SecCall) (s : IosStorage) (key : Key)
    (data : Bytes) (bio : Bool) (v : Bytes) (hv : HasValue (s.keychain.lookup key) v) :
    HasValue ((storeSecure cfg c s key data bio).2.keychain.lookup key) v ↔
      (StoreDone c s.keychain key data bio → data = v) ∧
        ¬ StoreTorn c s.keychain key data bio := by
  rcases storeSecure_cases cfg c s key data bio with
    ⟨hdone, -⟩ | ⟨htorn, -, e, heq⟩ | ⟨hsafe, hnot, e, heq⟩
  · obtain ⟨item, hitem, hdata⟩ := storeSecure_done cfg c s key data bio hdone
    have hsafe : ¬ StoreTorn c s.keychain key data bio := storeDone_not_torn hdone
    rw [hitem]
    constructor
    · rintro ⟨_, h, rfl⟩
      injection h with h
      exact ⟨fun _ => by rw [← hdata, h], hsafe⟩
    · rintro ⟨h, -⟩
      exact ⟨item, rfl, hdata.trans (h hdone)⟩
  · rw [heq]
    refine iff_of_false ?_ fun h => h.2 htorn
    rintro ⟨i, hi, -⟩
    rw [AList.lookup_erase] at hi
    cases hi
  · rw [heq]
    exact iff_of_true hv ⟨fun h => absurd h hnot, hsafe⟩

/-- A store over an item leaves an item exactly when it is not torn. -/
theorem storeSecure_isSome_iff (cfg : StorageConfig) (c : SecCall) (s : IosStorage) (key : Key)
    (data : Bytes) (bio : Bool) (hs : (s.keychain.lookup key).isSome) :
    ((storeSecure cfg c s key data bio).2.keychain.lookup key).isSome ↔
      ¬ StoreTorn c s.keychain key data bio := by
  rcases storeSecure_cases cfg c s key data bio with
    ⟨hdone, -⟩ | ⟨htorn, -, e, heq⟩ | ⟨hsafe, -, e, heq⟩
  · obtain ⟨item, hitem, -⟩ := storeSecure_done cfg c s key data bio hdone
    rw [hitem]
    exact iff_of_true rfl (storeDone_not_torn hdone)
  · rw [heq]
    refine iff_of_false ?_ fun h => h htorn
    rw [AList.lookup_erase]
    decide
  · rw [heq]
    exact iff_of_true hs hsafe

/-- A read is answered with a value: by the cache, or else by the Keychain
    once the key is checked. -/
def Reads (cfg : StorageConfig) (c : SecCall) (s : IosStorage) (key : Key) (bio : Bool)
    (data : Bytes) : Prop :=
  match if bio then none else getFromCache cfg s key c.now with
  | some d => d = data
  | none =>
    validateKey key = .ok () ∧ c.Serves bio ∧
      ∃ item, s.keychain.lookup key = some item ∧ item.data = data

/-- **A retrieve succeeds** exactly when its read is answered. -/
theorem retrieveSecure_ok_iff (cfg : StorageConfig) (c : SecCall) (s : IosStorage) (key : Key)
    (bio : Bool) (data : Bytes) :
    (retrieveSecure cfg c s key bio).1 = .ok data ↔ Reads cfg c s key bio data := by
  unfold retrieveSecure Reads
  cases (if bio then none else getFromCache cfg s key c.now) with
  | some d => simp
  | none =>
    cases validateKey key with
    | error e => simp
    | ok _ =>
      simp only [true_and, ← copyItem_ok_iff]
      cases copyItem c s.keychain key bio <;> simp

/-- **What a retrieve does**: it answers from the cache; or with the
    Keychain's value, which it caches if no biometrics are required; or
    it fails and changes nothing. -/
theorem retrieveSecure_cases (cfg : StorageConfig) (c : SecCall) (s : IosStorage) (key : Key)
    (bio : Bool) :
    (∃ data, bio = false ∧ getFromCache cfg s key c.now = some data ∧
      retrieveSecure cfg c s key bio = (.ok data, s)) ∨
    (∃ item, s.keychain.lookup key = some item ∧ validateKey key = .ok () ∧ c.Serves bio ∧
      retrieveSecure cfg c s key bio =
        (.ok item.data,
          if cfg.enableCaching && !bio then addToCache cfg c s key item.data else s)) ∨
    (∃ e, (validateKey key = .ok () → c.Serves bio → s.keychain.lookup key = none) ∧
      retrieveSecure cfg c s key bio = (.error e, s)) := by
  unfold retrieveSecure
  cases hget : (if bio then none else getFromCache cfg s key c.now) with
  | some data =>
    cases bio with
    | true => cases hget
    | false => exact Or.inl ⟨data, rfl, hget, rfl⟩
  | none =>
    refine Or.inr ?_
    cases hkey : validateKey key with
    | error e => exact Or.inr ⟨e, fun h => (nomatch h), rfl⟩
    | ok _ =>
      cases hcopy : copyItem c s.keychain key bio with
      | error e =>
        refine Or.inr ⟨e, fun _ hserves => ?_, rfl⟩
        by_contra hne
        obtain ⟨item, hitem⟩ := Option.ne_none_iff_exists'.1 hne
        rw [(copyItem_ok_iff c s.keychain key bio item.data).2 ⟨hserves, item, hitem, rfl⟩] at hcopy
        cases hcopy
      | ok data =>
        obtain ⟨hserves, item, hitem, rfl⟩ := (copyItem_ok_iff c s.keychain key bio data).1 hcopy
        exact Or.inl ⟨item, hitem, rfl, hserves, rfl⟩

/-- A retrieve changes no item. -/
theorem retrieveSecure_keychain (cfg : StorageConfig) (c : SecCall) (s : IosStorage) (key : Key)
    (bio : Bool) : (retrieveSecure cfg c s key bio).2.keychain = s.keychain := by
  rcases retrieveSecure_cases cfg c s key bio with
    ⟨_, -, -, heq⟩ | ⟨item, -, -, -, heq⟩ | ⟨_, -, heq⟩
  · rw [heq]
  · rw [heq]
    show (if cfg.enableCaching && !bio then _ else _ : IosStorage).keychain = _
    split
    · rw [addToCache_keychain]
    · rfl
  · rw [heq]

/-- A delete removes the item, or fails and changes nothing. -/
theorem deleteItemInternal_cases (a : SecAnswers) (kc : Keychain) (key : Key) :
    ((deleteItemInternal a kc key).1 = .ok () ∧
      ∀ k, (deleteItemInternal a kc key).2.lookup k = if k = key then none else kc.lookup k) ∨
    ∃ e, deleteItemInternal a kc key = (.error e, kc) := by
  unfold deleteItemInternal
  cases hdel : a.delete with
  | some e =>
    refine Or.inr ⟨mapKeychainError e.status, ?_⟩
    simp only [secItemDelete, e.notSuccess, e.notNotFound, or_self, if_false]
  | none =>
    refine Or.inl ?_
    unfold secItemDelete
    cases hitem : kc.lookup key with
    | some item =>
      simp only [Option.isSome_some, if_true, true_or, true_and]
      intro k
      by_cases hk : k = key
      · rw [hk, if_pos rfl, AList.lookup_erase]
      · rw [if_neg hk, AList.lookup_erase_ne hk]
    | none =>
      simp only [Option.isSome_none, Bool.false_eq_true, if_false, or_true, if_true, true_and]
      intro k
      by_cases hk : k = key
      · rw [hk, if_pos rfl, hitem]
      · rw [if_neg hk]

/-- **What a delete does**: the item and its cache entry are gone, or
    only the entry; a key that is not valid changes nothing. -/
theorem deleteSecure_cases (cfg : StorageConfig) (c : SecCall) (s : IosStorage) (key : Key) :
    (∃ r kc, ((r = .ok () ∧ ∀ k, kc.lookup k = if k = key then none else s.keychain.lookup k) ∨
        ((∃ e, r = .error e) ∧ kc = s.keychain)) ∧
      deleteSecure cfg c s key =
        (r, { keychain := kc,
              cache := if cfg.enableCaching then s.cache.erase key else s.cache })) ∨
    (∃ e, deleteSecure cfg c s key = (.error e, s)) := by
  unfold deleteSecure
  cases validateKey key with
  | error e => exact Or.inr ⟨e, rfl⟩
  | ok _ =>
    refine Or.inl ⟨(deleteItemInternal (c.attempt 0) s.keychain key).1,
      (deleteItemInternal (c.attempt 0) s.keychain key).2, ?_, rfl⟩
    refine (deleteItemInternal_cases (c.attempt 0) s.keychain key).imp id ?_
    rintro ⟨e, heq⟩
    exact ⟨⟨e, by rw [heq]⟩, by rw [heq]⟩

end ProviiSdk.Ios
