/-
  ProviiSdk.Wallet.KeyLabels — labels for keys in the log.

  A key is logged as its first bytes and a hash.  The label cuts the key
  at fixed bytes, and panics where such a byte lies inside a character.
  The backends check most keys before they label them; the methods of the
  iOS trait label first, and wiping and rotating label what they are
  handed by the listing.

  Main results:
    * `isSome_safeKeyLabel_iff` — which keys have a label.
    * `labelable_of_valid` — every valid key has.
    * `Ios.cachedKeysValid_run` — the keys in the iOS cache are valid, over
      every run.
    * `Android.wipeAllLogged_eq_some_iff`,
      `Android.rotateMasterKeyLogged_eq_some_iff` — when wiping and
      rotating return.
    * `key_labels_panic_iff` — when each method returns.
-/

import ProviiSdk.Ios.CacheGate
import ProviiSdk.Lib.LoggedPass
import ProviiSdk.Lib.Utf8
import ProviiSdk.Wallet.BulkDeletion

namespace ProviiSdk.Platform

open ProviiSdk.Utf8

/-! ## §1. The label -/

/-- Eight hexadecimal digits. -/
def hex8 (n : UInt64) : List Char :=
  (List.range 8).map fun i => Nat.digitChar (n.toNat / 16 ^ (7 - i) % 16)

/-- Where the shown part of a key ends, from its first 20 bytes: after the
    first dot, or the first underscore, or after 8 bytes. -/
def labelEnd (key head : Key) : Nat :=
  match findByte '.' head with
  | some i => i + 1
  | none =>
    match findByte '_' head with
    | some i => i + 1
    | none => min (width key) 8

/-- The label of a key; none stands for a panic. -/
def safeKeyLabel (hash : Key → UInt64) (key : Key) : Option (List Char) :=
  match sliceTo key (min (width key) 20) with
  | none => none
  | some head =>
    (sliceTo key (labelEnd key head)).map fun shown =>
      shown ++ "..".toList ++ hex8 (hash key &&& 0xFFFFFFFF)

/-- **The condition**: byte 20 lies between characters, and so does byte 8
    unless a dot or an underscore is among the first 20 bytes. -/
structure Labelable (key : Key) : Prop where
  cut : 20 < width key → Boundary key 20
  separated : 8 < width key → Boundary key 8 ∨
    ∃ p c, (c = '.' ∨ c = '_') ∧ p ++ [c] <+: key ∧ width (p ++ [c]) ≤ 20

/-- The first bytes of a text, or all of it. -/
theorem boundary_min_iff (key : Key) (n : Nat) :
    Boundary key (min (width key) n) ↔ (n < width key → Boundary key n) := by
  by_cases hlong : n < width key
  · rw [Nat.min_eq_right (Nat.le_of_lt hlong)]
    exact ⟨fun h _ => h, fun h => h hlong⟩
  · rw [Nat.min_eq_left (Nat.le_of_not_lt hlong)]
    exact iff_of_true (boundary_width key) fun h => absurd h hlong

/-- A separator among the first bytes ends a slice. -/
theorem boundary_of_separator {key head : Key} (hhead : head <+: key) {c : Char}
    (hc : c.utf8Size = 1) {i : Nat} (hfind : findByte c head = some i) :
    Boundary key (i + 1) ∧ ∃ p, p ++ [c] <+: head := by
  obtain ⟨p, hprefix, hwidth⟩ := boundary_of_findByte hfind
  rw [hc] at hwidth
  exact ⟨⟨p ++ [c], hprefix.trans hhead, hwidth⟩, p, hprefix⟩

/-- **Which keys have a label.** -/
theorem isSome_safeKeyLabel_iff (hash : Key → UInt64) (key : Key) :
    (safeKeyLabel hash key).isSome = true ↔ Labelable key := by
  unfold safeKeyLabel
  cases hcut : sliceTo key (min (width key) 20) with
  | none =>
    refine iff_of_false Bool.false_ne_true fun h => ?_
    have hsome := (isSome_sliceTo_iff _ _).2 ((boundary_min_iff key 20).2 h.cut)
    rw [hcut] at hsome
    cases hsome
  | some head =>
    obtain ⟨hhead, hwidth⟩ := (sliceTo_eq_some_iff _ _ _).1 hcut
    have hcut' : 20 < width key → Boundary key 20 :=
      (boundary_min_iff key 20).1 ⟨head, hhead, hwidth⟩
    -- a separator that is found makes the key labelable
    have hfound : ∀ {c : Char} {i : Nat}, (c = '.' ∨ c = '_') → findByte c head = some i →
        Boundary key (i + 1) ∧ Labelable key := by
      intro c i hc hfind
      have hsize : c.utf8Size = 1 := by
        rcases hc with rfl | rfl <;> rfl
      obtain ⟨hbound, p, hprefix⟩ := boundary_of_separator hhead hsize hfind
      have hle := width_le_of_prefix hprefix
      exact ⟨hbound, hcut', fun _ => Or.inr ⟨p, c, hc, hprefix.trans hhead, by omega⟩⟩
    simp only [Option.isSome_map, isSome_sliceTo_iff]
    unfold labelEnd
    cases hdot : findByte '.' head with
    | some i =>
      obtain ⟨hbound, hlabel⟩ := hfound (Or.inl rfl) hdot
      exact iff_of_true hbound hlabel
    | none =>
      cases hunder : findByte '_' head with
      | some i =>
        obtain ⟨hbound, hlabel⟩ := hfound (Or.inr rfl) hunder
        exact iff_of_true hbound hlabel
      | none =>
        -- no separator: byte 8 decides
        simp only [boundary_min_iff]
        constructor
        · intro hshort
          exact ⟨hcut', fun hlong => Or.inl (hshort hlong)⟩
        · intro h hlong
          rcases h.separated hlong with hbound | ⟨p, c, hc, hprefix, hle⟩
          · exact hbound
          · exfalso
            have hlekey := width_le_of_prefix hprefix
            have hin : p ++ [c] <+: head := prefix_of_width_le hprefix hhead (by omega)
            have hmem : c ∈ head := hin.subset (List.mem_append_right p List.mem_cons_self)
            rcases hc with rfl | rfl
            · exact (findByte_eq_none_iff _ _).1 hdot hmem
            · exact (findByte_eq_none_iff _ _).1 hunder hmem

/-- A character of a valid key is one byte. -/
theorem utf8Size_of_isKeyChar {c : Char} (h : isKeyChar c = true) : c.utf8Size = 1 := by
  rw [Char.utf8Size_eq_one_iff]
  unfold isKeyChar Char.isAlphanum Char.isAlpha Char.isUpper Char.isLower Char.isDigit at h
  simp only [Bool.or_eq_true, Bool.and_eq_true, decide_eq_true_eq, beq_iff_eq] at h
  rcases h with (((((⟨-, h⟩ | ⟨-, h⟩) | ⟨-, h⟩) | rfl) | rfl) | rfl)
  · exact UInt32.le_trans h (by decide)
  · exact UInt32.le_trans h (by decide)
  · exact UInt32.le_trans h (by decide)
  · decide
  · decide
  · decide

/-- **Every valid key has a label.** -/
theorem labelable_of_valid {key : Key} (h : validateBackendKey key = .ok ()) : Labelable key := by
  have hchars : ∀ c ∈ key, c.utf8Size = 1 := by
    unfold validateBackendKey at h
    split at h
    · cases h
    · split at h
      · cases h
      · split at h
        · cases h
        next hall =>
          rw [Bool.not_eq_true', Bool.not_eq_false, List.all_eq_true] at hall
          exact fun c hc => utf8Size_of_isKeyChar (hall c hc)
  exact ⟨fun hlong => boundary_of_ascii hchars (Nat.le_of_lt hlong),
    fun hlong => Or.inl (boundary_of_ascii hchars (Nat.le_of_lt hlong))⟩

/-! ## §2. Logging -/

/-- The levels that are logged. -/
structure LogLevels where
  debug : Bool
  warn : Bool
  error : Bool

/-- Log a line with the label of a key.  A level that is off does not make
    the label. -/
def logLabel (on : Bool) (hash : Key → UInt64) (key : Key) : Option Unit :=
  if on then (safeKeyLabel hash key).map fun _ => () else some ()

theorem logLabel_eq_some_iff (on : Bool) (hash : Key → UInt64) (key : Key) :
    logLabel on hash key = some () ↔ (on = true → Labelable key) := by
  unfold logLabel
  cases on with
  | false => exact iff_of_true rfl nofun
  | true =>
    rw [if_pos rfl, ← isSome_safeKeyLabel_iff hash key]
    cases safeKeyLabel hash key with
    | none => exact iff_of_false nofun fun h => nomatch h rfl
    | some label => exact iff_of_true rfl fun _ => rfl

/-- Log the label of a key, and go on. -/
def afterLabel {α : Type} (on : Bool) (hash : Key → UInt64) (key : Key) (rest : Option α) : Option α :=
  match logLabel on hash key with
  | none => none
  | some () => rest

/-- A call returns, and an invalid key is rejected. -/
def Returns {α σ : Type} (key : Key) (outcome : Option (Except WalletError α × σ)) : Prop :=
  ∃ r, outcome = some r ∧ (validateBackendKey key ≠ .ok () → ∃ e, r.1 = .error e)

/-- **What a label before a call adds**: the call returns if the key has a
    label, or the level is off. -/
theorem returns_afterLabel_iff {α σ : Type} (on : Bool) (hash : Key → UInt64) {key : Key}
    {outcome : Option (Except WalletError α × σ)} (h : Returns key outcome) :
    Returns key (afterLabel on hash key outcome) ↔ (on = true → Labelable key) := by
  rw [← logLabel_eq_some_iff on hash key]
  unfold afterLabel
  cases logLabel on hash key with
  | none =>
    refine iff_of_false ?_ nofun
    rintro ⟨r, hr, -⟩
    cases hr
  | some _ => exact iff_of_true h rfl

/-- A label made after the check is there. -/
theorem map_label_of_valid {α : Type} (hash : Key → UInt64) {key : Key}
    (h : validateBackendKey key = .ok ()) (a : α) :
    ((safeKeyLabel hash key).map fun _ => a) = some a := by
  have hsome := (isSome_safeKeyLabel_iff hash key).2 (labelable_of_valid h)
  obtain ⟨label, hlabel⟩ := Option.isSome_iff_exists.1 hsome
  rw [hlabel, Option.map_some]

end ProviiSdk.Platform

namespace ProviiSdk.Ios

open ProviiSdk.Platform ProviiSdk.Run

/-! ## §3. The iOS trait -/

/-- A store, with the labels it makes once the key is checked: in the
    metrics after a failure, and in the security log. -/
def storeSecureLogged (hash : Key → UInt64) (cfg : StorageConfig) (c : SecCall) (s : IosStorage)
    (key : Key) (data : Bytes) (requireBio : Bool) : Option (Except WalletError Unit × IosStorage) :=
  match storeChecks key data with
  | .error e => some (.error e, s)
  | .ok () => (safeKeyLabel hash key).map fun _ => storeSecure cfg c s key data requireBio

/-- A retrieve, with the label in the metrics after the Keychain failed. -/
def retrieveSecureLogged (hash : Key → UInt64) (cfg : StorageConfig) (c : SecCall) (s : IosStorage)
    (key : Key) (requireBio : Bool) : Option (Except WalletError Bytes × IosStorage) :=
  match validateKey key, (retrieveSecure cfg c s key requireBio).1 with
  | .ok (), .error _ =>
    (safeKeyLabel hash key).map fun _ => retrieveSecure cfg c s key requireBio
  -- a hit in the cache, an invalid key, or an item
  | _, _ => some (retrieveSecure cfg c s key requireBio)

/-- A delete, with the label in the security log. -/
def deleteSecureLogged (hash : Key → UInt64) (cfg : StorageConfig) (c : SecCall) (s : IosStorage)
    (key : Key) : Option (Except WalletError Unit × IosStorage) :=
  match validateKey key with
  | .error e => some (.error e, s)
  | .ok () => (safeKeyLabel hash key).map fun _ => deleteSecure cfg c s key

/-- The trait's `store`: the key is labelled before it is checked. -/
def store (levels : LogLevels) (hash : Key → UInt64) (cfg : StorageConfig) (c : SecCall)
    (s : IosStorage) (key : Key) (data : Bytes) (bio : BiometricRequirement) :
    Option (Except WalletError Unit × IosStorage) :=
  afterLabel levels.debug hash key (storeSecureLogged hash cfg c s key data bio.isRequired)

/-- The trait's `retrieve`. -/
def retrieve (levels : LogLevels) (hash : Key → UInt64) (cfg : StorageConfig) (c : SecCall)
    (s : IosStorage) (key : Key) (bio : BiometricRequirement) :
    Option (Except WalletError Bytes × IosStorage) :=
  afterLabel levels.debug hash key (retrieveSecureLogged hash cfg c s key bio.isRequired)

/-- The trait's `delete`. -/
def delete (levels : LogLevels) (hash : Key → UInt64) (cfg : StorageConfig) (c : SecCall)
    (s : IosStorage) (key : Key) : Option (Except WalletError Unit × IosStorage) :=
  afterLabel levels.debug hash key (deleteSecureLogged hash cfg c s key)

/-- Every key in the cache is valid. -/
def CachedKeysValid (s : IosStorage) : Prop :=
  ∀ k e, s.cache.lookup k = some e → validateKey k = .ok ()

/-- A store returns what it returns without the labels, and checks the
    key. -/
theorem storeSecureLogged_spec (hash : Key → UInt64) (cfg : StorageConfig) (c : SecCall)
    (s : IosStorage) (key : Key) (data : Bytes) (requireBio : Bool) :
    storeSecureLogged hash cfg c s key data requireBio =
        some (storeSecure cfg c s key data requireBio) ∧
      Returns key (storeSecureLogged hash cfg c s key data requireBio) := by
  unfold storeSecureLogged
  cases hchecks : storeChecks key data with
  | error e =>
    have hsame : storeSecure cfg c s key data requireBio = (.error e, s) := by
      unfold storeSecure
      rw [hchecks]
    exact ⟨congrArg some hsame.symm, _, rfl, fun _ => ⟨e, rfl⟩⟩
  | ok u =>
    unfold storeChecks at hchecks
    rw [Check.bind_eq_ok_iff] at hchecks
    obtain ⟨_, hkey, -⟩ := hchecks
    have hlabel := map_label_of_valid hash hkey (storeSecure cfg c s key data requireBio)
    exact ⟨hlabel, _, hlabel, fun hinvalid => absurd hkey hinvalid⟩

/-- So does a retrieve, if the keys in the cache are valid. -/
theorem retrieveSecureLogged_spec (hash : Key → UInt64) (cfg : StorageConfig) (c : SecCall)
    {s : IosStorage} (hcache : CachedKeysValid s) (key : Key) (requireBio : Bool) :
    retrieveSecureLogged hash cfg c s key requireBio =
        some (retrieveSecure cfg c s key requireBio) ∧
      Returns key (retrieveSecureLogged hash cfg c s key requireBio) := by
  have hsame : retrieveSecureLogged hash cfg c s key requireBio =
      some (retrieveSecure cfg c s key requireBio) := by
    unfold retrieveSecureLogged
    split
    next hkey _ => exact map_label_of_valid hash hkey _
    next => rfl
  refine ⟨hsame, _, hsame, fun hinvalid => ?_⟩
  rcases retrieveSecure_cases cfg c s key requireBio with
    ⟨data, -, hget, -⟩ | ⟨_, -, hkey, -⟩ | ⟨e, -, herr⟩
  · -- an answer from the cache is under a valid key
    unfold getFromCache ReadCache.get at hget
    split at hget
    · split at hget
      next entry hentry => exact absurd (hcache key entry hentry) hinvalid
      next => cases hget
    · cases hget
  · exact absurd hkey hinvalid
  · exact ⟨e, by rw [herr]⟩

theorem deleteSecureLogged_spec (hash : Key → UInt64) (cfg : StorageConfig) (c : SecCall)
    (s : IosStorage) (key : Key) :
    deleteSecureLogged hash cfg c s key = some (deleteSecure cfg c s key) ∧
      Returns key (deleteSecureLogged hash cfg c s key) := by
  unfold deleteSecureLogged
  cases hkey : validateKey key with
  | error e =>
    have hsame : deleteSecure cfg c s key = (.error e, s) := by
      unfold deleteSecure
      rw [hkey]
    exact ⟨congrArg some hsame.symm, _, rfl, fun _ => ⟨e, rfl⟩⟩
  | ok u =>
    have hlabel := map_label_of_valid hash hkey (deleteSecure cfg c s key)
    exact ⟨hlabel, _, hlabel, fun hinvalid => absurd hkey hinvalid⟩

/-- What is cached is cached under a key that was checked. -/
theorem cachedKeysValid_add {cfg : StorageConfig} (c : SecCall) {s : IosStorage}
    (hcache : CachedKeysValid s) {key : Key} (hkey : validateKey key = .ok ()) (data : Bytes) :
    CachedKeysValid (addToCache cfg c s key data) := by
  unfold addToCache
  split
  · intro k e hentry
    rcases ReadCache.lookup_of_add hentry with ⟨rfl, -⟩ | ⟨-, hold⟩
    · exact hkey
    · exact hcache k e hold
  · exact hcache

/-- **The cache keeps valid keys**, over stores, retrieves and deletes. -/
theorem cachedKeysValid_step (cfg : StorageConfig) (c : SecCall) {s : IosStorage}
    (hcache : CachedKeysValid s) (key : Key) (data : Bytes) (requireBio : Bool) :
    CachedKeysValid (storeSecure cfg c s key data requireBio).2 ∧
      CachedKeysValid (retrieveSecure cfg c s key requireBio).2 ∧
      CachedKeysValid (deleteSecure cfg c s key).2 := by
  refine ⟨?_, ?_, ?_⟩
  · rcases storeSecure_cases cfg c s key data requireBio with
      ⟨hdone, kc, -, heq⟩ | ⟨-, -, e, heq⟩ | ⟨-, -, e, heq⟩
    · have hkey : validateKey key = .ok () := by
        have hchecks := hdone.1
        unfold storeChecks at hchecks
        rw [Check.bind_eq_ok_iff] at hchecks
        exact hchecks.choose_spec.1
      have hsame : CachedKeysValid { s with keychain := kc } := hcache
      rw [heq]
      show CachedKeysValid (if _ then _ else _)
      split
      · exact cachedKeysValid_add c hsame hkey data
      · exact hsame
    · rw [heq]
      exact hcache
    · rw [heq]
      exact hcache
  · rcases retrieveSecure_cases cfg c s key requireBio with
      ⟨_, -, -, heq⟩ | ⟨item, -, hkey, -, heq⟩ | ⟨_, -, heq⟩
    · rw [heq]
      exact hcache
    · rw [heq]
      show CachedKeysValid (if _ then _ else _)
      split
      · exact cachedKeysValid_add c hcache hkey item.data
      · exact hcache
    · rw [heq]
      exact hcache
  · rcases deleteSecure_cases cfg c s key with ⟨r, kc, -, heq⟩ | ⟨e, heq⟩
    · rw [heq]
      intro k e hentry
      have hentry : (if cfg.enableCaching then s.cache.erase key else s.cache).lookup k = some e :=
        hentry
      split at hentry
      · by_cases hk : k = key
        · rw [hk, AList.lookup_erase] at hentry
          cases hentry
        · rw [AList.lookup_erase_ne hk] at hentry
          exact hcache k e hentry
      · exact hcache k e hentry
    · rw [heq]
      exact hcache

/-- **A new backend's cache keeps valid keys**, whatever is called. -/
theorem cachedKeysValid_run (cfg : StorageConfig) (keychain : Keychain) (ops : List SecOp) :
    Always (secStep cfg) (fun s => CachedKeysValid s.storage) (freshBackend keychain) ops := by
  refine always_of_invariant (fun s op hs => ?_) ops ?_
  · cases op with
    | storeSecure c key data requireBio =>
      exact (cachedKeysValid_step cfg c hs key data requireBio).1
    | retrieveSecure c key requireBio =>
      exact (cachedKeysValid_step cfg c hs key [] requireBio).2.1
    | deleteSecure c key => exact (cachedKeysValid_step cfg c hs key [] false).2.2
  · intro k e hentry
    exact absurd (hentry.symm.trans (AList.lookup_empty k)) (Option.some_ne_none e)

end ProviiSdk.Ios

namespace ProviiSdk.Android

open ProviiSdk.Platform ProviiSdk.Check ProviiSdk.Sweep ProviiSdk.LoggedPass
open ProviiSdk.Backup hiding ReadAs

/-! ## §4. Wiping and rotating on Android -/

/-- A wipe, with the labels of the keys whose delete fails. -/
def wipeAllLogged (levels : LogLevels) (hash : Key → UInt64) (cfg : StorageConfig) (w : WipeCall)
    (s : AndroidStorage) : Option (Except WalletError Unit × AndroidStorage) :=
  match listKeysSecure w.list s.keystore with
  | .error e => some (.error e, s)
  | .ok keys =>
    (sweepLogged (logLabel levels.warn hash) (fun k s => deleteSecure cfg (w.delete k) s k) keys s).map
      fun s => (.ok (), clearCache s)

/-- A delete fails: it does not pass its checks, or the bridge raises. -/
def DeleteFails (j : Jni) (key : Key) : Prop :=
  ¬ (deleteChecks j key = .ok () ∧ ∃ deleted, j.write = .ok deleted)

theorem deleteSecure_ok_iff (cfg : StorageConfig) (j : Jni) (s : AndroidStorage) (key : Key) :
    (deleteSecure cfg j s key).1 = .ok () ↔ ¬ DeleteFails j key := by
  unfold deleteSecure DeleteFails
  rw [not_not]
  cases deleteChecks j key with
  | error e => exact iff_of_false nofun fun h => nomatch h.1
  | ok u =>
    cases j.write with
    | error e => exact iff_of_false nofun fun h => nomatch h.2
    | ok deleted => exact iff_of_true rfl ⟨rfl, deleted, rfl⟩

/-- **The condition of a wipe**: the listed keys whose delete fails have a
    label, or warnings are off. -/
def WipeLabelable (levels : LogLevels) (w : WipeCall) (s : AndroidStorage) : Prop :=
  ∀ keys, listKeysSecure w.list s.keystore = .ok keys →
    ∀ k ∈ keys, DeleteFails (w.delete k) k → levels.warn = true → Labelable k

/-- **When a wipe returns**, and with what. -/
theorem wipeAllLogged_eq_some_iff (levels : LogLevels) (hash : Key → UInt64) (cfg : StorageConfig)
    (w : WipeCall) (s : AndroidStorage) (r : Except WalletError Unit × AndroidStorage) :
    wipeAllLogged levels hash cfg w s = some r ↔ r = wipeAll cfg w s ∧ WipeLabelable levels w s := by
  unfold wipeAllLogged wipeAll WipeLabelable
  cases listKeysSecure w.list s.keystore with
  | error e =>
    rw [Option.some.injEq, eq_comm]
    exact (and_iff_left nofun).symm
  | ok keys =>
    simp only [Option.map_eq_some_iff, Except.ok.injEq, forall_eq',
      sweepLogged_eq_some_iff _ fun k s => deleteSecure_ok_iff cfg (w.delete k) s k,
      logLabel_eq_some_iff]
    constructor
    · rintro ⟨_, ⟨rfl, hall⟩, rfl⟩
      exact ⟨rfl, hall⟩
    · rintro ⟨rfl, hall⟩
      exact ⟨_, ⟨rfl, hall⟩, rfl⟩

/-- A rotation, with the labels of the keys that neither pass can read,
    and of those whose store fails. -/
def rotateMasterKeyLogged (levels : LogLevels) (hash : Key → UInt64) (cfg : StorageConfig)
    (r : RotateCall) (s : AndroidStorage) : Option (Except WalletError Unit × AndroidStorage) :=
  match Jni.reach r.env with
  | .error e => some (.error e, s)
  | .ok () =>
    match listKeysSecure r.list s.keystore with
    | .error e => some (.error e, s)
    | .ok keys =>
      let (opened, failed, s) := openPass (readOpen cfg r) keys s
      match gatedPassLogged (logLabel levels.warn hash) (readBio cfg r) failed s with
      | none => none
      | some (gated, s) =>
        let backup := opened ++ gated
        if backup.isEmpty && !keys.isEmpty then
          some (.error (.storage "Key rotation aborted: could not read any items for backup"), s)
        else
          match Jni.reach r.bridge with
          | .error e => some (.error e, s)
          | .ok () =>
            match r.rotate with
            | .error e => some (.error e, s)
            | .ok false => some (.error (.storage "Failed to rotate master key"), s)
            | .ok true =>
              let backupLen := backup.length
              match restoreLogged (logLabel levels.error hash) (restoreItem r) backup
                { s with keystore := ∅ } with
              | none => none
              | some (failures, s) =>
                some (if failures > 0 then
                  .error (.storage (s!"Key rotation: {failures} of {backupLen} items failed to " ++
                    "re-store (data may be lost)"))
                else .ok (), s)

/-- A rotation swaps the key: something was read, and the bridge reports
    the swap done. -/
def Swaps (cfg : StorageConfig) (r : RotateCall) (keys : List Key) (s : AndroidStorage) : Prop :=
  (∃ k d b, ReadAs cfg r keys s k d b) ∧ r.bridge = none ∧ r.rotate = .ok true

/-- **The condition of a rotation**: the listed keys that cannot be read
    have a label, or warnings are off; and if the key is swapped, what was
    read and cannot be stored has one, or errors are off. -/
def RotationLabelable (levels : LogLevels) (cfg : StorageConfig) (r : RotateCall)
    (s : AndroidStorage) : Prop :=
  r.env = none → ∀ keys, listKeysSecure r.list s.keystore = .ok keys →
    (∀ k ∈ keys, (∀ d b, ¬ ReadAs cfg r keys s k d b) → levels.warn = true → Labelable k) ∧
    (Swaps cfg r keys s → ∀ k d b, ReadAs cfg r keys s k d b → ¬ StoreDone (r.restore k) k d b →
      levels.error = true → Labelable k)

/-- The keys the second pass skips are the listed ones that cannot be
    read. -/
theorem skipped_iff (cfg : StorageConfig) (r : RotateCall) {keys : List Key} (hkeys : keys.Nodup)
    (s : AndroidStorage) (P : Key → Prop) :
    (∀ k ∈ (openPass (readOpen cfg r) keys s).2.1,
        (∀ d b, (k, d, b) ∉ (gatedPass (readBio cfg r) (openPass (readOpen cfg r) keys s).2.1
          (openPass (readOpen cfg r) keys s).2.2).1) → P k) ↔
      ∀ k ∈ keys, (∀ d b, ¬ ReadAs cfg r keys s k d b) → P k := by
  have hmem : ∀ k d b, ReadAs cfg r keys s k d b ↔
      (k, d, b) ∈ (openPass (readOpen cfg r) keys s).1 ∨
      (k, d, b) ∈ (gatedPass (readBio cfg r) (openPass (readOpen cfg r) keys s).2.1
        (openPass (readOpen cfg r) keys s).2.2).1 := by
    intro k d b
    rw [← mem_backUp_iff_readAs cfg r keys hkeys]
    exact List.mem_append
  have hfailed : ∀ k, k ∈ (openPass (readOpen cfg r) keys s).2.1 ↔
      k ∈ keys ∧ ∃ e, (readOpen cfg r k (stateAt (readOpen cfg r) keys s k)).1 = .error e :=
    mem_failed_iff hkeys s
  have hopened : ∀ k d b, (k, d, b) ∈ (openPass (readOpen cfg r) keys s).1 ↔
      b = false ∧ k ∈ keys ∧ (readOpen cfg r k (stateAt (readOpen cfg r) keys s k)).1 = .ok d :=
    mem_openPass_iff hkeys s
  constructor
  · intro h k hk hunread
    refine h k ((hfailed k).2 ⟨hk, ?_⟩) fun d b hgated => hunread d b ((hmem k d b).2 (Or.inr hgated))
    -- a key the first pass reads is read
    cases hread : (readOpen cfg r k (stateAt (readOpen cfg r) keys s k)).1 with
    | error e => exact ⟨e, rfl⟩
    | ok d =>
      exact absurd ((hmem k d false).2 (Or.inl ((hopened k d false).2 ⟨rfl, hk, hread⟩)))
        (hunread d false)
  · intro h k hk hskipped
    obtain ⟨hlisted, e, hread⟩ := (hfailed k).1 hk
    refine h k hlisted fun d b hreadAs => ?_
    rcases (hmem k d b).1 hreadAs with hopen | hgated
    · rw [((hopened k d b).1 hopen).2.2] at hread
      cases hread
    · exact hskipped d b hgated

/-- The restore labels what was read and cannot be stored. -/
theorem restoreLogged_backUp_iff (levels : LogLevels) (hash : Key → UInt64) (cfg : StorageConfig)
    (r : RotateCall) {keys : List Key} (hkeys : keys.Nodup) (s s' : AndroidStorage)
    (x : Nat × AndroidStorage) :
    restoreLogged (logLabel levels.error hash) (restoreItem r)
        (backUp (readOpen cfg r) (readBio cfg r) keys s).1 s' = some x ↔
      x = restore (restoreItem r) (backUp (readOpen cfg r) (readBio cfg r) keys s).1 s' ∧
        ∀ k d b, ReadAs cfg r keys s k d b → ¬ StoreDone (r.restore k) k d b →
          levels.error = true → Labelable k := by
  have hfails : ∀ k d b s, (restoreItem r k d b s).1 = .ok () ↔
      ¬ ¬ StoreDone (r.restore k) k d b := by
    intro k d b s
    rw [not_not]
    exact restoreItem_ok_iff r k d b s
  rw [restoreLogged_eq_some_iff _ hfails]
  refine and_congr_right fun _ => ?_
  simp only [logLabel_eq_some_iff, ← mem_backUp_iff_readAs cfg r keys hkeys]
  exact ⟨fun h k d b hmem => h (k, d, b) hmem, fun h e hmem => h e.1 e.2.1 e.2.2 hmem⟩

/-- **When a rotation returns**, and with what. -/
theorem rotateMasterKeyLogged_eq_some_iff (levels : LogLevels) (hash : Key → UInt64)
    (cfg : StorageConfig) (r : RotateCall) (s : AndroidStorage)
    (x : Except WalletError Unit × AndroidStorage) :
    rotateMasterKeyLogged levels hash cfg r s = some x ↔
      x = rotateMasterKey cfg r s ∧ RotationLabelable levels cfg r s := by
  -- a way out with nothing left to log
  have hout : ∀ {y : Except WalletError Unit × AndroidStorage} {P : Prop}, P →
      (some y = some x ↔ x = y ∧ P) := by
    intro y P hP
    rw [Option.some.injEq, eq_comm]
    exact (and_iff_left hP).symm
  unfold rotateMasterKeyLogged rotateMasterKey RotationLabelable
  cases r.env with
  | some e =>
    refine hout ?_
    intro h
    cases h
  | none =>
    cases hlist : listKeysSecure r.list s.keystore with
    | error e =>
      refine hout ?_
      intro _ keys h
      cases h
    | ok keys =>
      have hkeys := nodup_listKeysSecure hlist
      have hfailed : (openPass (readOpen cfg r) keys s).2.1.Nodup :=
        hkeys.sublist (openPass_sublist keys s).2
      have hpass := gatedPassLogged_eq_some_iff (logLabel levels.warn hash) (readBio cfg r) hfailed
        (openPass (readOpen cfg r) keys s).2.2
      simp only [logLabel_eq_some_iff, skipped_iff cfg r hkeys s] at hpass
      have hrestore := restoreLogged_backUp_iff levels hash cfg r hkeys s
        { (backUp (readOpen cfg r) (readBio cfg r) keys s).2 with keystore := ∅ }
      have hmem := mem_backUp_iff_readAs cfg r keys hkeys s
      have hreach : Jni.reach none = .ok () := rfl
      simp only [true_implies, Except.ok.injEq, forall_eq', hreach]
      cases hgated : gatedPassLogged (logLabel levels.warn hash) (readBio cfg r)
          (openPass (readOpen cfg r) keys s).2.1 (openPass (readOpen cfg r) keys s).2.2 with
      | none =>
        simp only [hgated] at hpass
        refine iff_of_false ?_ ?_
        · intro h
          cases h
        · rintro ⟨-, hwarn, -⟩
          cases (hpass _).2 ⟨rfl, hwarn⟩
      | some g =>
        obtain ⟨hg, hwarn⟩ := (hpass g).1 hgated
        have hbackup : (openPass (readOpen cfg r) keys s).1 ++ g.1 =
            (backUp (readOpen cfg r) (readBio cfg r) keys s).1 := by rw [hg]; rfl
        have hstate : g.2 = (backUp (readOpen cfg r) (readBio cfg r) keys s).2 := by rw [hg]; rfl
        simp only [hbackup, hstate, and_iff_right hwarn]
        generalize backUp (readOpen cfg r) (readBio cfg r) keys s = backup at hmem hrestore ⊢
        by_cases hempty : (backup.1.isEmpty && !keys.isEmpty) = true
        · simp only [if_pos hempty]
          refine hout ?_
          rintro ⟨⟨k, d, b, hread⟩, -, -⟩
          rw [Bool.and_eq_true, List.isEmpty_iff] at hempty
          have hin := (hmem k d b).2 hread
          rw [hempty.1] at hin
          cases hin
        · simp only [if_neg hempty]
          cases hbridge : r.bridge with
          | some e =>
            refine hout fun h => ?_
            cases hbridge.symm.trans h.2.1
          | none =>
            cases hrotate : r.rotate with
            | error e =>
              refine hout fun h => ?_
              cases hrotate.symm.trans h.2.2
            | ok done =>
              cases done with
              | false =>
                refine hout fun h => ?_
                cases hrotate.symm.trans h.2.2
              | true =>
                simp only [hreach]
                cases hres : restoreLogged (logLabel levels.error hash) (restoreItem r) backup.1
                    { backup.2 with keystore := ∅ } with
                | none =>
                  refine iff_of_false ?_ ?_
                  · intro h
                    cases h
                  · rintro ⟨-, hlabels⟩
                    have hall : ∀ k d b, ReadAs cfg r keys s k d b →
                        ¬ StoreDone (r.restore k) k d b → levels.error = true → Labelable k :=
                      fun k d b hread => hlabels ⟨⟨k, d, b, hread⟩, hbridge, hrotate⟩ k d b hread
                    cases hres.symm.trans ((hrestore _).2 ⟨rfl, hall⟩)
                | some y =>
                  obtain ⟨rfl, hall⟩ := (hrestore y).1 hres
                  exact hout fun _ => hall

end ProviiSdk.Android

namespace ProviiSdk.Platform

/-! ## §5. When the methods return -/

/-- **When a key crashes the storage.**  A key has a label if bytes 20 and
    8 lie between characters where the label cuts.  The methods of the iOS
    trait return, and reject invalid keys, exactly if the key has a label
    or debug lines are off.  Wiping and rotating on Android return exactly
    if the keys they warn of have labels, or these lines are off. -/
theorem key_labels_panic_iff (levels : LogLevels) (hash : Key → UInt64) (key : Key) :
    ((safeKeyLabel hash key).isSome = true ↔ Labelable key) ∧
      (∀ cfg c s data bio, Returns key (Ios.store levels hash cfg c s key data bio) ↔
        (levels.debug = true → Labelable key)) ∧
      (∀ cfg c s bio, Ios.CachedKeysValid s →
        (Returns key (Ios.retrieve levels hash cfg c s key bio) ↔
          (levels.debug = true → Labelable key))) ∧
      (∀ cfg c s, Returns key (Ios.delete levels hash cfg c s key) ↔
        (levels.debug = true → Labelable key)) ∧
      (∀ cfg w s, (Android.wipeAllLogged levels hash cfg w s).isSome = true ↔
        Android.WipeLabelable levels w s) ∧
      ∀ cfg r s, (Android.rotateMasterKeyLogged levels hash cfg r s).isSome = true ↔
        Android.RotationLabelable levels cfg r s := by
  refine ⟨isSome_safeKeyLabel_iff hash key, ?_, ?_, ?_, ?_, ?_⟩
  · intro cfg c s data bio
    exact returns_afterLabel_iff levels.debug hash
      (Ios.storeSecureLogged_spec hash cfg c s key data bio.isRequired).2
  · intro cfg c s bio hcache
    exact returns_afterLabel_iff levels.debug hash
      (Ios.retrieveSecureLogged_spec hash cfg c hcache key bio.isRequired).2
  · intro cfg c s
    exact returns_afterLabel_iff levels.debug hash (Ios.deleteSecureLogged_spec hash cfg c s key).2
  · intro cfg w s
    rw [Option.isSome_iff_exists]
    simp only [Android.wipeAllLogged_eq_some_iff, exists_eq_left]
  · intro cfg r s
    rw [Option.isSome_iff_exists]
    simp only [Android.rotateMasterKeyLogged_eq_some_iff, exists_eq_left]

/-- Three characters of three bytes, and one after 19 others. -/
def euroKey : Key := "€€€".toList
def lateEuroKey : Key := "aaaaaaaaaaaaaaaaaaa€".toList

/-- **Two keys that crash**: byte 8 of the first and byte 20 of the second
    lie inside a character.  Every method of the iOS trait panics on the
    first before it checks the key, and so does a wipe that is handed it. -/
theorem euro_key_panics :
    safeKeyLabel (fun _ => 0) euroKey = none ∧ safeKeyLabel (fun _ => 0) lateEuroKey = none ∧
      Ios.store ⟨true, true, true⟩ (fun _ => 0) ⟨true, 10, 60⟩ (.healthy 0) ⟨∅, ∅⟩ euroKey [1]
        .none = none ∧
      Ios.retrieve ⟨true, true, true⟩ (fun _ => 0) ⟨true, 10, 60⟩ (.healthy 0) ⟨∅, ∅⟩ euroKey
        .none = none ∧
      Ios.delete ⟨true, true, true⟩ (fun _ => 0) ⟨true, 10, 60⟩ (.healthy 0) ⟨∅, ∅⟩ euroKey =
        none ∧
      Android.wipeAllLogged ⟨true, true, true⟩ (fun _ => 0) ⟨true, 60⟩
        { list := { env := none, bridge := none, answer := .served .asKept }
          delete := fun _ => .healthy 0 }
        ⟨(∅ : Android.Keystore).insert euroKey ⟨[1], false⟩, ∅⟩ = none :=
  ⟨rfl, rfl, rfl, rfl, rfl, rfl⟩

end ProviiSdk.Platform
