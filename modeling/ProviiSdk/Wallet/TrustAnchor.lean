/-
  ProviiSdk.Wallet.TrustAnchor — the trust anchor over a wallet's life.

  The anchor lives in memory and, after a refresh that could persist it,
  in the attached backend.  A refresh merges a JWKS document into the
  anchor in memory, except the first one, which takes the document's keys
  as they are; registering a backend replaces the anchor in memory by the
  stored one.  This file runs both operations over any number of backends
  and asks for two invariants: one key per key id, and no key lost.

  Main results:
    * `one_key_per_kid_iff` — every anchor has one key per key id, over
      any run, exactly when every first refresh names no key id twice.
    * `keeps_latest_keys_iff` — the anchor in memory loses no key id and
      holds the latest keys, over any run, exactly when moreover every
      stored anchor that is loaded is no older than the one in memory.
    * `first_refresh_keeps_rotated_key`, `reattach_forgets_key` — runs
      that violate them.
-/

import ProviiSdk.Core.KeyMerge
import ProviiSdk.Wallet.OrphanSecrets

namespace ProviiSdk.Wallet

open ProviiSdk.Core ProviiSdk.Platform ProviiSdk.Ffi ProviiSdk.Run ProviiSdk.Upsert

/-! ## §1. The anchor machine -/

/-- The backends by handle, the one attached, the anchor in memory, and,
    beside the code's own state, the latest key that a refresh has named
    under each key id. -/
structure AnchorState where
  shelf : Nat → Kv
  attached : Option Nat
  anchor : Option IssuerTrustAnchor
  latest : String → Option TrustedIssuerKey

/-- The wallet of a state. -/
def AnchorState.wallet (s : AnchorState) : ProviiWallet :=
  { storage := ⟨s.attached.map s.shelf⟩, issuerTrustAnchor := s.anchor }

/-- The state after a call that left the wallet `w`: what it wrote is in
    the attached backend. -/
def AnchorState.after (s : AnchorState) (w : ProviiWallet) : AnchorState :=
  { s with
    shelf := match s.attached, w.storage.backend with
      | some handle, some kv => Function.update s.shelf handle kv
      | _, _ => s.shelf
    anchor := w.issuerTrustAnchor }

/-- A call that changes the anchor, with the outcomes of its backend
    calls and its clock readings. -/
inductive AnchorCall where
  | refreshIssuerKeys (f : Faults) (now : Int64) (jwksJson : String)
  | setStorageHandle (f : Faults) (clock : Key → Int64) (fd : Key → Faults) (fa : Faults)
    (handle : Nat)

/-- The keys of a document, recorded as the latest ones. -/
def learnJwks (X : Crates) (latest : String → Option TrustedIssuerKey) (jwksJson : String) :
    String → Option TrustedIssuerKey :=
  match parseJwksIntoKeys X jwksJson with
  | .error _ => latest
  | .ok newKeys => learn TrustedIssuerKey.kid latest newKeys

/-- The state after a call. -/
def callStep (X : Crates) (s : AnchorState) : AnchorCall → AnchorState
  | .refreshIssuerKeys f now jwksJson =>
    { s.after (Wallet.refreshIssuerKeys X f now s.wallet jwksJson).2 with
      latest := learnJwks X s.latest jwksJson }
  | .setStorageHandle f clock fd fa handle =>
    { s with attached := some handle }.after
      (Wallet.setStorageHandle X f clock fd fa s.wallet (s.shelf handle))

/-- A call, or a new start of the app: the backends keep what they hold. -/
inductive AnchorEvent where
  | call (c : AnchorCall)
  | restart

def anchorStep (X : Crates) (s : AnchorState) : AnchorEvent → AnchorState
  | .call c => callStep X s c
  | .restart => { s with attached := none, anchor := none }

/-! ## §2. What a refresh does -/

/-- The keys after a refresh: the first refresh does not merge. -/
def refreshedKeys (anchor : Option IssuerTrustAnchor) (newKeys : List TrustedIssuerKey) :
    List TrustedIssuerKey :=
  match anchor with
  | some existing => upsertAll TrustedIssuerKey.kid existing.keys newKeys
  | none => newKeys

/-- What persisting an anchor can do to the store. -/
theorem persistAnchorToStorage_cases (X : Crates) (f : Faults) (s : Storage)
    (anchor : IssuerTrustAnchor) :
    (persistAnchorToStorage X f s anchor).2 = s ∨
      ∃ kv json, s = ⟨some kv⟩ ∧ X.anchorJson anchor = .ok json ∧
        (persistAnchorToStorage X f s anchor).2 =
          ⟨some (kv.insert trustAnchorStorageKey ⟨json, .none⟩)⟩ := by
  unfold persistAnchorToStorage
  cases hjson : X.anchorJson anchor with
  | error e => exact Or.inl rfl
  | ok json =>
    obtain ⟨backend⟩ := s
    cases backend with
    | none => exact Or.inl rfl
    | some kv =>
      simp only [store]
      cases f.store trustAnchorStorageKey with
      | some e => exact Or.inl rfl
      | none => exact Or.inr ⟨kv, json, rfl, rfl, rfl⟩

/-- What a refresh can do: nothing, when the document has no keys, or
    set the anchor and try to persist it. -/
theorem refreshIssuerKeys_cases (X : Crates) (f : Faults) (now : Int64) (w : ProviiWallet)
    (jwksJson : String) :
    ((∀ newKeys, parseJwksIntoKeys X jwksJson = .ok newKeys → newKeys = []) ∧
      (Wallet.refreshIssuerKeys X f now w jwksJson).2 = w) ∨
    ∃ newKeys anchor, parseJwksIntoKeys X jwksJson = .ok newKeys ∧ newKeys ≠ [] ∧
      anchor.keys = refreshedKeys w.issuerTrustAnchor newKeys ∧
      (Wallet.refreshIssuerKeys X f now w jwksJson).2 =
        { storage := (persistAnchorToStorage X f w.storage anchor).2
          issuerTrustAnchor := some anchor } := by
  unfold Wallet.refreshIssuerKeys
  cases hparse : parseJwksIntoKeys X jwksJson with
  | error e =>
    refine Or.inl ⟨fun newKeys h => ?_, rfl⟩
    cases h
  | ok newKeys =>
    by_cases hnil : newKeys = []
    · refine Or.inl ⟨fun ks h => ?_, ?_⟩
      · injection h with h
        rw [← h, hnil]
      · simp only [hnil, if_true]
    · simp only [if_neg hnil]
      obtain ⟨storage, anchor⟩ := w
      cases anchor with
      | none => exact Or.inr ⟨newKeys, _, rfl, hnil, rfl, rfl⟩
      | some existing =>
        refine Or.inr ⟨newKeys, { existing.unionMerge newKeys with fetchedAt := nowSecs now }, rfl,
          hnil, ?_, rfl⟩
        exact unionMerge_keys existing newKeys

/-! ## §3. What registering a backend does -/

/-- The anchor that registering a backend finds in it, if it finds one. -/
def loadedAnchor (X : Crates) (fa : Faults) (kv : Kv) : Option IssuerTrustAnchor :=
  match loadAnchorFromStorage X fa ⟨some kv⟩ with
  | .ok anchor => anchor
  | .error _ => none

/-- A loaded anchor is the stored one. -/
theorem loadedAnchor_eq_some {X : Crates} {fa : Faults} {kv : Kv} {anchor : IssuerTrustAnchor}
    (h : loadedAnchor X fa kv = some anchor) :
    ∃ item, kv.lookup trustAnchorStorageKey = some item ∧ X.parseAnchor item.data = .ok anchor := by
  unfold loadedAnchor loadAnchorFromStorage at h
  cases hret : retrieve fa kv trustAnchorStorageKey with
  | error e =>
    simp only [hret] at h
    by_cases hnot : mentionsNotFound e = true
    · rw [if_pos hnot] at h
      cases h
    · rw [if_neg hnot] at h
      cases h
  | ok data =>
    obtain ⟨item, hitem, hdata⟩ := retrieve_eq_ok hret
    refine ⟨item, hitem, ?_⟩
    rw [hdata]
    cases hparse : X.parseAnchor data with
    | error e =>
      simp only [hret, hparse] at h
      cases h
    | ok a =>
      simp only [hret, hparse] at h
      injection h with h
      rw [h]

/-- What is loaded depends on the anchor's record only. -/
theorem loadAnchorFromStorage_congr (X : Crates) (fa : Faults) {kv kv' : Kv}
    (h : kv'.lookup trustAnchorStorageKey = kv.lookup trustAnchorStorageKey) :
    loadAnchorFromStorage X fa ⟨some kv'⟩ = loadAnchorFromStorage X fa ⟨some kv⟩ := by
  unfold loadAnchorFromStorage retrieve
  simp only [h]

/-- **Cleaning up leaves the stored anchor alone.** -/
theorem cleanup_keeps_anchor (f : Faults) (clock : Key → Int64) (fd : Key → Faults) (kv : Kv) :
    ∃ kv', (cleanupExpiredCredentials f clock fd ⟨some kv⟩).2 = ⟨some kv'⟩ ∧
      kv'.lookup trustAnchorStorageKey = kv.lookup trustAnchorStorageKey := by
  obtain ⟨kv', hrun, herase⟩ := cleanupExpiredCredentials_erases f clock fd kv
  refine ⟨kv', hrun, (herase trustAnchorStorageKey).2 ?_⟩
  rintro ⟨infos, hlist, info, hinfo, _, _, hkey | ⟨hkey, _⟩⟩
  · have hcred := isCredentialKey_of_listCredentials hlist info hinfo
    rw [← hkey] at hcred
    exact absurd hcred (by decide +kernel)
  · exact secretsKeyOf_ne_trustAnchor info.id hkey.symm

/-- **What registering a backend does**: a stored anchor that can be read
    takes the place of the one in memory. -/
theorem setStorageHandle_spec (X : Crates) (f : Faults) (clock : Key → Int64) (fd : Key → Faults)
    (fa : Faults) (w : ProviiWallet) (kv : Kv) :
    ∃ kv', kv'.lookup trustAnchorStorageKey = kv.lookup trustAnchorStorageKey ∧
      Wallet.setStorageHandle X f clock fd fa w kv =
        { storage := ⟨some kv'⟩
          issuerTrustAnchor := (loadedAnchor X fa kv).or w.issuerTrustAnchor } := by
  obtain ⟨kv', hclean, hkeep⟩ := cleanup_keeps_anchor f clock fd kv
  refine ⟨kv', hkeep, ?_⟩
  unfold Wallet.setStorageHandle loadedAnchor
  simp only [hclean]
  rw [loadAnchorFromStorage_congr X fa hkeep]
  cases loadAnchorFromStorage X fa ⟨some kv⟩ with
  | error e => rfl
  | ok anchor =>
    cases anchor with
    | none => rfl
    | some a => rfl

/-! ## §4. One step -/

/-- Nothing happens to a state that gets its own wallet back. -/
private theorem after_wallet (s : AnchorState) : s.after s.wallet = s := by
  obtain ⟨shelf, attached, anchor, latest⟩ := s
  unfold AnchorState.after AnchorState.wallet
  cases attached with
  | none => rfl
  | some handle =>
    simp only [Option.map_some, AnchorState.mk.injEq, and_true]
    exact Function.update_eq_self handle shelf

/-- A refresh: nothing but the record of latest keys, when the document
    has no keys; or the refreshed anchor in memory, and in every backend
    the old stored anchor or that one. -/
theorem callStep_refresh (X : Crates) (s : AnchorState) (f : Faults) (now : Int64)
    (jwksJson : String) :
    ((∀ newKeys, parseJwksIntoKeys X jwksJson = .ok newKeys → newKeys = []) ∧
      callStep X s (.refreshIssuerKeys f now jwksJson) = s) ∨
    ∃ newKeys anchor, parseJwksIntoKeys X jwksJson = .ok newKeys ∧ newKeys ≠ [] ∧
      anchor.keys = refreshedKeys s.anchor newKeys ∧
      (callStep X s (.refreshIssuerKeys f now jwksJson)).anchor = some anchor ∧
      (callStep X s (.refreshIssuerKeys f now jwksJson)).latest =
        learn TrustedIssuerKey.kid s.latest newKeys ∧
      ∀ handle item,
        ((callStep X s (.refreshIssuerKeys f now jwksJson)).shelf handle).lookup
            trustAnchorStorageKey = some item →
          (s.shelf handle).lookup trustAnchorStorageKey = some item ∨
            X.anchorJson anchor = .ok item.data := by
  have hstep : callStep X s (.refreshIssuerKeys f now jwksJson) =
      { s.after (Wallet.refreshIssuerKeys X f now s.wallet jwksJson).2 with
        latest := learnJwks X s.latest jwksJson } := rfl
  rw [hstep]
  rcases refreshIssuerKeys_cases X f now s.wallet jwksJson with
    ⟨hempty, hrun⟩ | ⟨newKeys, anchor, hparse, hne, hkeys, hrun⟩
  · refine Or.inl ⟨hempty, ?_⟩
    have hlearn : learnJwks X s.latest jwksJson = s.latest := by
      unfold learnJwks
      cases hparse : parseJwksIntoKeys X jwksJson with
      | error e => rfl
      | ok newKeys => rw [hempty newKeys hparse]; rfl
    rw [hrun, hlearn, after_wallet]
  · have hlearn : learnJwks X s.latest jwksJson = learn TrustedIssuerKey.kid s.latest newKeys := by
      unfold learnJwks
      rw [hparse]
    refine Or.inr ⟨newKeys, anchor, hparse, hne, hkeys, ?_, hlearn, ?_⟩
    · rw [hrun]
      rfl
    · rw [hrun]
      intro handle item hitem
      obtain ⟨shelf, attached, inMemory, latest⟩ := s
      cases attached with
      | none =>
        -- without a backend nothing is written
        exact Or.inl hitem
      | some current =>
        rcases persistAnchorToStorage_cases X f ⟨some (shelf current)⟩ anchor with
          hsame | ⟨kv, json, hkv, hjson, hwritten⟩
        · have hshelf : Function.update shelf current (shelf current) = shelf :=
            Function.update_eq_self current shelf
          unfold AnchorState.after AnchorState.wallet at hitem
          simp only [Option.map_some, hsame, hshelf] at hitem
          exact Or.inl hitem
        · injection hkv with hkv
          injection hkv with hkv
          unfold AnchorState.after AnchorState.wallet at hitem
          simp only [Option.map_some, hwritten, ← hkv] at hitem
          by_cases hhandle : handle = current
          · rw [hhandle, Function.update_self, lookup_insert_of, if_pos rfl] at hitem
            injection hitem with hitem
            rw [← hitem]
            exact Or.inr hjson
          · rw [Function.update_of_ne hhandle] at hitem
            exact Or.inl hitem

/-- Registering a backend: its stored anchor takes the place of the one
    in memory, and no stored anchor changes. -/
theorem callStep_setStorageHandle (X : Crates) (s : AnchorState) (f : Faults)
    (clock : Key → Int64) (fd : Key → Faults) (fa : Faults) (handle : Nat) :
    (callStep X s (.setStorageHandle f clock fd fa handle)).anchor =
        (loadedAnchor X fa (s.shelf handle)).or s.anchor ∧
      (callStep X s (.setStorageHandle f clock fd fa handle)).latest = s.latest ∧
      ∀ h, ((callStep X s (.setStorageHandle f clock fd fa handle)).shelf h).lookup
          trustAnchorStorageKey = (s.shelf h).lookup trustAnchorStorageKey := by
  obtain ⟨kv', hkeep, hrun⟩ :=
    setStorageHandle_spec X f clock fd fa s.wallet (s.shelf handle)
  have hstep : callStep X s (.setStorageHandle f clock fd fa handle) =
      { s with attached := some handle }.after
        (Wallet.setStorageHandle X f clock fd fa s.wallet (s.shelf handle)) := rfl
  rw [hstep, hrun]
  refine ⟨rfl, rfl, fun h => ?_⟩
  show (Function.update s.shelf handle kv' h).lookup trustAnchorStorageKey = _
  by_cases hh : h = handle
  · rw [hh, Function.update_self, hkeep]
  · rw [Function.update_of_ne hh]

/-! ## §5. One key per key id -/

/-- What the JSON crate promises: an anchor that was written parses back. -/
def AnchorRoundTrips (X : Crates) : Prop :=
  ∀ anchor json, X.anchorJson anchor = .ok json → X.parseAnchor json = .ok anchor

/-- One key per key id, in the anchor in memory and in every stored one. -/
def OneKeyPerKid (X : Crates) (s : AnchorState) : Prop :=
  (∀ anchor, s.anchor = some anchor → OneEach TrustedIssuerKey.kid anchor.keys) ∧
    ∀ handle item anchor, (s.shelf handle).lookup trustAnchorStorageKey = some item →
      X.parseAnchor item.data = .ok anchor → OneEach TrustedIssuerKey.kid anchor.keys

/-- What a refresh should do: under the key ids of its document only the
    document's latest keys stay trusted, and a first refresh is a merge
    into the empty anchor. -/
def RefreshPins (X : Crates) (s : AnchorState) : AnchorEvent → Prop
  | .call (.refreshIssuerKeys f now jwksJson) =>
    ∀ newKeys, parseJwksIntoKeys X jwksJson = .ok newKeys → newKeys ≠ [] →
      ∃ anchor,
        (anchorStep X s (.call (.refreshIssuerKeys f now jwksJson))).anchor = some anchor ∧
        Agrees TrustedIssuerKey.kid anchor.keys
          (learn TrustedIssuerKey.kid (fun _ => none) newKeys) ∧
        (s.anchor = none →
          anchor.keys = (IssuerTrustAnchor.unionMerge ⟨[], 0⟩ newKeys).keys)
  | _ => True

/-- The condition: a refresh that finds no anchor in memory has a
    document that names no key id twice. -/
def FirstRefreshDistinct (X : Crates) (s : AnchorState) : AnchorEvent → Prop
  | .call (.refreshIssuerKeys _ _ jwksJson) =>
    s.anchor = none → ∀ newKeys, parseJwksIntoKeys X jwksJson = .ok newKeys →
      OneEach TrustedIssuerKey.kid newKeys
  | _ => True

/-- No entry disagrees with an empty record. -/
private theorem agrees_none (ks : List TrustedIssuerKey) :
    Agrees TrustedIssuerKey.kid ks (fun _ => none) := by
  intro k _ y h
  cases h

/-- The refreshed keys of an anchor with one key per id, or of a document
    with one key per id, are those of a merge. -/
theorem refreshedKeys_eq_upsertAll {anchor : Option IssuerTrustAnchor}
    {newKeys : List TrustedIssuerKey}
    (hdistinct : anchor = none → OneEach TrustedIssuerKey.kid newKeys) :
    refreshedKeys anchor newKeys =
      upsertAll TrustedIssuerKey.kid ((anchor.map (·.keys)).getD []) newKeys := by
  cases anchor with
  | some existing => rfl
  | none => exact ((upsertAll_nil_iff newKeys).2 (hdistinct rfl)).symm

/-- The keys in memory; none without an anchor. -/
def AnchorState.keys (s : AnchorState) : List TrustedIssuerKey :=
  (s.anchor.map (·.keys)).getD []

theorem keys_of_some {s : AnchorState} {anchor : IssuerTrustAnchor} (h : s.anchor = some anchor) :
    s.keys = anchor.keys := by
  unfold AnchorState.keys
  rw [h]
  rfl

theorem oneEach_keys {X : Crates} {s : AnchorState} (hs : OneKeyPerKid X s) :
    OneEach TrustedIssuerKey.kid s.keys := by
  unfold AnchorState.keys
  cases hanchor : s.anchor with
  | none => exact oneEach_nil
  | some anchor => exact hs.1 anchor hanchor

/-- A registration moves a stored anchor into memory, at most. -/
private theorem oneKeyPerKid_register (X : Crates) (s : AnchorState) (hs : OneKeyPerKid X s)
    (f : Faults) (clock : Key → Int64) (fd : Key → Faults) (fa : Faults) (handle : Nat) :
    OneKeyPerKid X (callStep X s (.setStorageHandle f clock fd fa handle)) := by
  obtain ⟨hanchor, -, hshelf⟩ := callStep_setStorageHandle X s f clock fd fa handle
  refine ⟨fun anchor h => ?_, fun h item anchor hitem hparse => ?_⟩
  · replace h := hanchor.symm.trans h
    cases hload : loadedAnchor X fa (s.shelf handle) with
    | none =>
      rw [hload, Option.none_or] at h
      exact hs.1 anchor h
    | some loaded =>
      rw [hload, Option.some_or] at h
      injection h with h
      obtain ⟨item, hitem, hparse⟩ := loadedAnchor_eq_some hload
      exact hs.2 handle item anchor hitem (h ▸ hparse)
  · exact hs.2 h item anchor ((hshelf h).symm.trans hitem) hparse

/-- A refresh that leaves one key per key id in memory leaves so in every
    backend. -/
private theorem oneKeyPerKid_refreshed (X : Crates) (hX : AnchorRoundTrips X) (s s' : AnchorState)
    (hs : OneKeyPerKid X s) (anchor : IssuerTrustAnchor) (hanchor : s'.anchor = some anchor)
    (hshelf : ∀ handle item, (s'.shelf handle).lookup trustAnchorStorageKey = some item →
      (s.shelf handle).lookup trustAnchorStorageKey = some item ∨
        X.anchorJson anchor = .ok item.data)
    (hone : OneEach TrustedIssuerKey.kid anchor.keys) : OneKeyPerKid X s' := by
  refine ⟨fun a h => ?_, fun h item a hitem ha => ?_⟩
  · rw [hanchor] at h
    injection h with h
    exact h ▸ hone
  · rcases hshelf h item hitem with hold | hnew
    · exact hs.2 h item a hold ha
    · -- what was written parses back
      have hround := hX anchor item.data hnew
      rw [hround] at ha
      injection ha with ha
      exact ha ▸ hone

/-- **One step, exactly**: from a state with one key per key id, a step
    keeps that and pins the document's keys exactly when it is no first
    refresh with a repeated key id. -/
theorem firstRefreshDistinct_iff (X : Crates) (hX : AnchorRoundTrips X) (s : AnchorState)
    (e : AnchorEvent) (hs : OneKeyPerKid X s) :
    (OneKeyPerKid X (anchorStep X s e) ∧ RefreshPins X s e) ↔ FirstRefreshDistinct X s e := by
  cases e with
  | restart =>
    refine iff_of_true ⟨⟨fun anchor h => ?_, hs.2⟩, trivial⟩ trivial
    cases h
  | call c =>
    cases c with
    | setStorageHandle f clock fd fa handle =>
      exact iff_of_true ⟨oneKeyPerKid_register X s hs f clock fd fa handle, trivial⟩ trivial
    | refreshIssuerKeys f now jwksJson =>
      rcases callStep_refresh X s f now jwksJson with
        ⟨hempty, hsame⟩ | ⟨newKeys, anchor, hparse, hne, hkeys, hanchor, -, hshelf⟩
      · -- a document without keys changes nothing
        refine iff_of_true ⟨?_, fun newKeys hparse hne => ?_⟩ fun _ newKeys hparse => ?_
        · show OneKeyPerKid X (callStep X s (.refreshIssuerKeys f now jwksJson))
          rw [hsame]
          exact hs
        · exact absurd (hempty newKeys hparse) hne
        · rw [hempty newKeys hparse]
          exact oneEach_nil
      · constructor
        · rintro ⟨hnext, -⟩ hnone newKeys' hparse'
          rw [hparse] at hparse'
          injection hparse' with hparse'
          have hone := hnext.1 anchor hanchor
          rw [hkeys, hnone] at hone
          exact hparse' ▸ hone
        · intro hfirst
          have hmerge := refreshedKeys_eq_upsertAll fun hnone => hfirst hnone newKeys hparse
          have hone : OneEach TrustedIssuerKey.kid anchor.keys := by
            rw [hkeys, hmerge]
            exact oneEach_upsertAll (oneEach_keys hs) newKeys
          refine ⟨oneKeyPerKid_refreshed X hX s _ hs anchor hanchor hshelf hone, ?_⟩
          intro newKeys' hparse' _
          rw [hparse] at hparse'
          injection hparse' with hparse'
          subst hparse'
          refine ⟨anchor, hanchor, ?_, fun hnone => ?_⟩
          · rw [hkeys, hmerge]
            exact agrees_upsertAll (oneEach_keys hs) (agrees_none _) newKeys
          · rw [hkeys, hmerge, hnone, unionMerge_keys]
            rfl

/-- **One key per key id, exactly.**  Over any run of refreshes with
    arbitrary documents, registrations of any backends and restarts,
    whatever the backends do: every anchor in memory and in store has one
    key per key id, and every refresh pins the keys of its document, if
    and only if no first refresh has a document that repeats a key id. -/
theorem one_key_per_kid_iff (X : Crates) (hX : AnchorRoundTrips X) (s : AnchorState)
    (hs : OneKeyPerKid X s) (es : List AnchorEvent) :
    (Always (anchorStep X) (OneKeyPerKid X) s es ∧ StepsMeet (anchorStep X) (RefreshPins X) s es) ↔
      StepsMeet (anchorStep X) (FirstRefreshDistinct X) s es := by
  exact always_and_stepsMeet_iff_of_invariant (I := fun _ => True) (fun _ _ _ => trivial)
    (fun s e _ hG => firstRefreshDistinct_iff X hX s e hG) es trivial hs

/-! ## §6. No key forgotten -/

/-- The anchor in memory has one key per key id, and each is the latest
    one that a refresh has named, if one has. -/
def LatestKeys (s : AnchorState) : Prop :=
  ∀ anchor, s.anchor = some anchor →
    OneEach TrustedIssuerKey.kid anchor.keys ∧ Agrees TrustedIssuerKey.kid anchor.keys s.latest

/-- A call keeps every key id in memory. -/
def KeepsKids (X : Crates) (s : AnchorState) (c : AnchorCall) : Prop :=
  ∀ kid ∈ s.keys.map (·.kid), kid ∈ (callStep X s c).keys.map (·.kid)

/-- The condition: a first refresh names no key id twice, and a stored
    anchor that is loaded names every key id in memory, no key id twice,
    and no key that a later refresh replaced. -/
def LoadsCurrent (X : Crates) (s : AnchorState) : AnchorCall → Prop
  | .refreshIssuerKeys _ _ jwksJson =>
    s.anchor = none → ∀ newKeys, parseJwksIntoKeys X jwksJson = .ok newKeys →
      OneEach TrustedIssuerKey.kid newKeys
  | .setStorageHandle _ _ _ fa handle =>
    ∀ stored, loadedAnchor X fa (s.shelf handle) = some stored →
      (∀ kid ∈ s.keys.map (·.kid), kid ∈ stored.keys.map (·.kid)) ∧
        OneEach TrustedIssuerKey.kid stored.keys ∧
        Agrees TrustedIssuerKey.kid stored.keys s.latest

/-- The keys in memory of a state with the latest keys. -/
theorem keys_of_latestKeys {s : AnchorState} (hs : LatestKeys s) :
    OneEach TrustedIssuerKey.kid s.keys ∧ Agrees TrustedIssuerKey.kid s.keys s.latest := by
  unfold AnchorState.keys
  cases hanchor : s.anchor with
  | none =>
    refine ⟨oneEach_nil, fun k hk => ?_⟩
    cases hk
  | some anchor => exact hs anchor hanchor

/-- A registration that loads nothing leaves memory alone. -/
private theorem loadsCurrent_of_nothing_loaded (X : Crates) (s : AnchorState) (hs : LatestKeys s)
    (f : Faults) (clock : Key → Int64) (fd : Key → Faults) (fa : Faults) (handle : Nat)
    (hload : loadedAnchor X fa (s.shelf handle) = none) :
    LatestKeys (callStep X s (.setStorageHandle f clock fd fa handle)) ∧
      KeepsKids X s (.setStorageHandle f clock fd fa handle) := by
  obtain ⟨hanchor, hlatest, -⟩ := callStep_setStorageHandle X s f clock fd fa handle
  rw [hload, Option.none_or] at hanchor
  refine ⟨fun anchor h => ?_, fun kid hkid => ?_⟩
  · rw [hlatest]
    exact hs anchor (hanchor.symm.trans h)
  · unfold AnchorState.keys at hkid ⊢
    rw [hanchor]
    exact hkid

/-- A registration that loads an anchor is right exactly when the anchor
    has every key id in memory, once, and with its latest key. -/
private theorem loadsCurrent_of_loaded (X : Crates) (s : AnchorState) (f : Faults)
    (clock : Key → Int64) (fd : Key → Faults) (fa : Faults) (handle : Nat)
    (loaded : IssuerTrustAnchor) (hload : loadedAnchor X fa (s.shelf handle) = some loaded) :
    (LatestKeys (callStep X s (.setStorageHandle f clock fd fa handle)) ∧
        KeepsKids X s (.setStorageHandle f clock fd fa handle)) ↔
      (∀ kid ∈ s.keys.map (·.kid), kid ∈ loaded.keys.map (·.kid)) ∧
        OneEach TrustedIssuerKey.kid loaded.keys ∧
        Agrees TrustedIssuerKey.kid loaded.keys s.latest := by
  obtain ⟨hanchor, hlatest, -⟩ := callStep_setStorageHandle X s f clock fd fa handle
  rw [hload, Option.some_or] at hanchor
  have hkeys := keys_of_some hanchor
  constructor
  · rintro ⟨hnext, hkeep⟩
    obtain ⟨hone, hagree⟩ := hnext loaded hanchor
    rw [hlatest] at hagree
    refine ⟨fun kid hkid => ?_, hone, hagree⟩
    rw [← hkeys]
    exact hkeep kid hkid
  · rintro ⟨hkeep, hone, hagree⟩
    refine ⟨fun anchor h => ?_, fun kid hkid => ?_⟩
    · rw [hanchor] at h
      injection h with h
      rw [← h, hlatest]
      exact ⟨hone, hagree⟩
    · rw [hkeys]
      exact hkeep kid hkid

/-- A refresh that changes the keys is right exactly when it is no first
    one with a repeated key id. -/
private theorem loadsCurrent_of_refreshed (X : Crates) (s : AnchorState) (hs : LatestKeys s)
    (f : Faults) (now : Int64) (jwksJson : String) (newKeys : List TrustedIssuerKey)
    (anchor : IssuerTrustAnchor) (hkeys : anchor.keys = refreshedKeys s.anchor newKeys)
    (hanchor : (callStep X s (.refreshIssuerKeys f now jwksJson)).anchor = some anchor)
    (hlatest : (callStep X s (.refreshIssuerKeys f now jwksJson)).latest =
      learn TrustedIssuerKey.kid s.latest newKeys) :
    (LatestKeys (callStep X s (.refreshIssuerKeys f now jwksJson)) ∧
        KeepsKids X s (.refreshIssuerKeys f now jwksJson)) ↔
      (s.anchor = none → OneEach TrustedIssuerKey.kid newKeys) := by
  obtain ⟨hone, hagree⟩ := keys_of_latestKeys hs
  constructor
  · rintro ⟨hnext, -⟩ hnone
    have hone' := (hnext anchor hanchor).1
    rw [hkeys, hnone] at hone'
    exact hone'
  · intro hfirst
    have hmerge : anchor.keys = upsertAll TrustedIssuerKey.kid s.keys newKeys := by
      rw [hkeys]
      exact refreshedKeys_eq_upsertAll hfirst
    refine ⟨fun a h => ?_, fun kid hkid => ?_⟩
    · rw [hanchor] at h
      injection h with h
      rw [← h, hmerge, hlatest]
      exact ⟨oneEach_upsertAll hone newKeys, agrees_upsertAll hone hagree newKeys⟩
    · rw [keys_of_some hanchor, hmerge]
      exact key_mem_upsertAll hkid newKeys

/-- **One step, exactly**: from a state with the latest keys, a call
    keeps every key id and leads to the latest keys exactly when it loads
    nothing older than memory and is no first refresh with a repeated key
    id. -/
theorem loadsCurrent_iff (X : Crates) (s : AnchorState) (c : AnchorCall) (hs : LatestKeys s) :
    (LatestKeys (callStep X s c) ∧ KeepsKids X s c) ↔ LoadsCurrent X s c := by
  cases c with
  | setStorageHandle f clock fd fa handle =>
    cases hload : loadedAnchor X fa (s.shelf handle) with
    | none =>
      refine iff_of_true (loadsCurrent_of_nothing_loaded X s hs f clock fd fa handle hload) ?_
      intro stored h
      rw [hload] at h
      cases h
    | some loaded =>
      rw [loadsCurrent_of_loaded X s f clock fd fa handle loaded hload]
      constructor
      · intro hcond stored h
        rw [hload] at h
        injection h with h
        exact h ▸ hcond
      · intro hcond
        exact hcond loaded hload
  | refreshIssuerKeys f now jwksJson =>
    rcases callStep_refresh X s f now jwksJson with
      ⟨hempty, hsame⟩ | ⟨newKeys, anchor, hparse, hne, hkeys, hanchor, hlatest, -⟩
    · -- a document without keys changes nothing
      refine iff_of_true ⟨?_, fun kid hkid => ?_⟩ fun _ newKeys hparse => ?_
      · rw [hsame]
        exact hs
      · rw [hsame]
        exact hkid
      · rw [hempty newKeys hparse]
        exact oneEach_nil
    · rw [loadsCurrent_of_refreshed X s hs f now jwksJson newKeys anchor hkeys hanchor hlatest]
      constructor
      · intro hfirst hnone newKeys' hparse'
        rw [hparse] at hparse'
        injection hparse' with hparse'
        exact hparse' ▸ hfirst hnone
      · intro hfirst hnone
        exact hfirst hnone newKeys hparse

/-- **No key forgotten, exactly.**  Over any run of refreshes and
    registrations, whatever the backends do: every call keeps every key
    id in memory, and every state has one key per key id, the latest one,
    if and only if every call meets the condition. -/
theorem keeps_latest_keys_iff (X : Crates) (s : AnchorState) (hs : LatestKeys s)
    (cs : List AnchorCall) :
    (Always (callStep X) LatestKeys s cs ∧ StepsMeet (callStep X) (KeepsKids X) s cs) ↔
      StepsMeet (callStep X) (LoadsCurrent X) s cs := by
  exact always_and_stepsMeet_iff_of_invariant (I := fun _ => True) (fun _ _ _ => trivial)
    (fun s c _ hG => loadsCurrent_iff X s c hG) cs trivial hs

/-! ## §7. Two runs that go wrong -/

/-- Two issuer keys. -/
def zeroKeyB64 : String := "AAAAAAAAAAAAAAAAAAAAAAAAAAAAAAAAAAAAAAAAAAA"
def oneKeyB64 : String := "AQAAAAAAAAAAAAAAAAAAAAAAAAAAAAAAAAAAAAAAAAA"
def oneKey : Bytes32 := ⟨1 :: List.replicate 31 0, by simp⟩

/-- A JWKS entry, as text and parsed. -/
def jwkText (kid x : String) : String :=
  "\x7b\"kty\":\"OKP\",\"crv\":\"JUBJUB\",\"kid\":\"" ++ kid ++ "\",\"x\":\"" ++ x ++ "\"\x7d"

def jwkJson (kid x : String) : Json :=
  .obj [("kty", .str "OKP"), ("crv", .str "JUBJUB"), ("kid", .str kid), ("x", .str x)]

/-- A document with one key, one with another, and one that names a key
    id twice. -/
def mayJwks : String := "\x7b\"keys\":[" ++ jwkText "provii:2026-05" zeroKeyB64 ++ "]\x7d"
def juneJwks : String := "\x7b\"keys\":[" ++ jwkText "provii:2026-06" oneKeyB64 ++ "]\x7d"
def repeatedJwks : String :=
  "\x7b\"keys\":[" ++ jwkText "provii:2026-05" zeroKeyB64 ++ "," ++
    jwkText "provii:2026-05" oneKeyB64 ++ "]\x7d"

def mayAnchor : IssuerTrustAnchor := { keys := [⟨"provii:2026-05", zeroBytes 32⟩], fetchedAt := 1 }
def bothAnchor : IssuerTrustAnchor :=
  { keys := [⟨"provii:2026-05", zeroBytes 32⟩, ⟨"provii:2026-06", oneKey⟩], fetchedAt := 2 }
def repeatedAnchor : IssuerTrustAnchor :=
  { keys := [⟨"provii:2026-05", zeroBytes 32⟩, ⟨"provii:2026-05", oneKey⟩], fetchedAt := 1 }

/-- The text of an anchor's key. -/
def keyText (kid vk : String) : String :=
  "\x7b\"kid\":\"" ++ kid ++ "\",\"vk\":\"" ++ vk ++ "\"\x7d"

/-- The anchors of the runs with their JSON texts. -/
def anchorTexts : List (IssuerTrustAnchor × String) :=
  [(mayAnchor, "\x7b\"keys\":[" ++ keyText "provii:2026-05" zeroKeyB64 ++ "],\"fetched_at\":1\x7d"),
    (bothAnchor, "\x7b\"keys\":[" ++ keyText "provii:2026-05" zeroKeyB64 ++ "," ++
      keyText "provii:2026-06" oneKeyB64 ++ "],\"fetched_at\":2\x7d"),
    (repeatedAnchor, "\x7b\"keys\":[" ++ keyText "provii:2026-05" zeroKeyB64 ++ "," ++
      keyText "provii:2026-05" oneKeyB64 ++ "],\"fetched_at\":1\x7d")]

/-- Crates that know these documents and these anchors. -/
def keyCrates : Crates :=
  { sampleCrates with
    parseJson := fun text =>
      if text = mayJwks then .ok (.obj [("keys", .arr [jwkJson "provii:2026-05" zeroKeyB64])])
      else if text = juneJwks then .ok (.obj [("keys", .arr [jwkJson "provii:2026-06" oneKeyB64])])
      else if text = repeatedJwks then
        .ok (.obj [("keys", .arr [jwkJson "provii:2026-05" zeroKeyB64,
          jwkJson "provii:2026-05" oneKeyB64])])
      else .error "expected value"
    anchorJson := fun anchor =>
      match anchorTexts.find? (fun p => p.1 = anchor) with
      | some p => .ok (Wire.utf8 p.2)
      | none => .error "unsupported"
    parseAnchor := fun bytes =>
      match anchorTexts.find? (fun p => Wire.utf8 p.2 = bytes) with
      | some p => .ok p.1
      | none => .error "expected value" }

theorem keyCrates_roundTrips : AnchorRoundTrips keyCrates := by
  have hall : ∀ p ∈ anchorTexts, keyCrates.parseAnchor (Wire.utf8 p.2) = .ok p.1 := by
    decide +kernel
  intro anchor json h
  cases hfind : anchorTexts.find? (fun p => p.1 = anchor) with
  | none =>
    unfold keyCrates at h
    simp only [hfind] at h
    cases h
  | some p =>
    have hp := List.find?_some hfind
    rw [decide_eq_true_eq] at hp
    have hparse := hall p (List.mem_of_find?_eq_some hfind)
    unfold keyCrates at h
    simp only [hfind] at h
    injection h with h
    rw [← h, ← hp]
    exact hparse

/-- A new wallet, with empty backends. -/
def newAnchors : AnchorState :=
  { shelf := fun _ => ∅, attached := none, anchor := none, latest := fun _ => none }

theorem oneKeyPerKid_new (X : Crates) : OneKeyPerKid X newAnchors := by
  refine ⟨fun anchor h => ?_, fun handle item anchor h => ?_⟩
  · cases h
  · cases h

/-- **A rotated-out key stays trusted**: a first refresh with a document
    that names a key id twice keeps both keys, where the merge keeps the
    second, and a header under the first key passes the issuer check. -/
theorem first_refresh_keeps_rotated_key :
    (anchorStep keyCrates newAnchors
        (.call (.refreshIssuerKeys .never 1 repeatedJwks))).anchor = some repeatedAnchor ∧
      ¬ OneKeyPerKid keyCrates (anchorStep keyCrates newAnchors
        (.call (.refreshIssuerKeys .never 1 repeatedJwks))) ∧
      (IssuerTrustAnchor.unionMerge ⟨[], 0⟩ repeatedAnchor.keys).keys =
        [⟨"provii:2026-05", oneKey⟩] ∧
      validateIssuerVk sampleHeader repeatedAnchor = .ok () := by
  have hanchor : (anchorStep keyCrates newAnchors
      (.call (.refreshIssuerKeys .never 1 repeatedJwks))).anchor = some repeatedAnchor := by
    decide +kernel
  refine ⟨hanchor, fun hone => ?_, by decide +kernel, by decide +kernel⟩
  have hkids := hone.1 repeatedAnchor hanchor
  unfold OneEach at hkids
  exact absurd hkids (by decide)

/-- The first document names no key id twice. -/
private theorem oneEach_mayJwks (newKeys : List TrustedIssuerKey)
    (hparse : parseJwksIntoKeys keyCrates mayJwks = .ok newKeys) :
    OneEach TrustedIssuerKey.kid newKeys := by
  have hmay : parseJwksIntoKeys keyCrates mayJwks = .ok mayAnchor.keys := by decide +kernel
  rw [hmay] at hparse
  injection hparse with hparse
  subst hparse
  unfold OneEach
  decide

/-- A first refresh without a repeated key id, and a restart. -/
def mayRun : List AnchorEvent :=
  [.call (.setStorageHandle .never (fun _ => 0) (fun _ => .never) .never 0),
    .call (.refreshIssuerKeys .never 1 mayJwks), .restart]

/-- Every anchor of that run has one key per key id. -/
theorem one_key_per_kid_may :
    Always (anchorStep keyCrates) (OneKeyPerKid keyCrates) newAnchors mayRun := by
  refine ((one_key_per_kid_iff keyCrates keyCrates_roundTrips newAnchors (oneKeyPerKid_new _)
    mayRun).2 ⟨trivial, ?_, trivial, trivial⟩).1
  exact fun _ newKeys hparse => oneEach_mayJwks newKeys hparse

/-- Writes fail; everything else works. -/
def storeOutage : Faults := { Faults.never with store := fun _ => some (.storage "disk full") }

/-- A backend is registered, a refresh is persisted, and the next one
    cannot be. -/
def failedPersist : List AnchorCall :=
  [.setStorageHandle .never (fun _ => 0) (fun _ => .never) .never 0,
    .refreshIssuerKeys .never 1 mayJwks, .refreshIssuerKeys storeOutage 2 juneJwks]

/-- **A trusted key is forgotten**: after a refresh that could not be
    persisted, registering the same backend again replaces the anchor in
    memory by the older stored one, without the new key. -/
theorem reattach_forgets_key :
    (run (callStep keyCrates) newAnchors failedPersist).anchor = some bothAnchor ∧
      (callStep keyCrates (run (callStep keyCrates) newAnchors failedPersist)
        (.setStorageHandle .never (fun _ => 0) (fun _ => .never) .never 0)).anchor =
          some mayAnchor ∧
      ¬ KeepsKids keyCrates (run (callStep keyCrates) newAnchors failedPersist)
        (.setStorageHandle .never (fun _ => 0) (fun _ => .never) .never 0) := by
  have hbefore : (run (callStep keyCrates) newAnchors failedPersist).anchor = some bothAnchor := by
    decide +kernel
  have hafter : (callStep keyCrates (run (callStep keyCrates) newAnchors failedPersist)
      (.setStorageHandle .never (fun _ => 0) (fun _ => .never) .never 0)).anchor =
        some mayAnchor := by
    decide +kernel
  refine ⟨hbefore, hafter, fun hkeeps => ?_⟩
  unfold KeepsKids AnchorState.keys at hkeeps
  rw [hbefore, hafter] at hkeeps
  exact absurd (hkeeps "provii:2026-06" (by decide)) (by decide)

/-- Without the second registration every call keeps the latest keys. -/
theorem keeps_latest_keys_failedPersist :
    Always (callStep keyCrates) LatestKeys newAnchors failedPersist ∧
      StepsMeet (callStep keyCrates) (KeepsKids keyCrates) newAnchors failedPersist := by
  have hlatest : LatestKeys newAnchors := fun anchor h => by cases h
  refine (keeps_latest_keys_iff keyCrates newAnchors hlatest failedPersist).2 ⟨?_, ?_, ?_, trivial⟩
  · -- nothing is stored yet
    intro stored h
    have hload : loadedAnchor keyCrates .never (newAnchors.shelf 0) = none := by decide +kernel
    rw [hload] at h
    cases h
  · exact fun _ newKeys hparse => oneEach_mayJwks newKeys hparse
  · intro hnone
    have hsome : (run (callStep keyCrates) newAnchors (failedPersist.take 2)).anchor =
        some mayAnchor := by
      decide +kernel
    have hsome' := hsome.symm.trans hnone
    cases hsome'

end ProviiSdk.Wallet
