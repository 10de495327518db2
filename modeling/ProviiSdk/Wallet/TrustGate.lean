/-
  ProviiSdk.Wallet.TrustGate — which issuer a finalisation trusts.

  The wallet as a machine whose steps are the operations that change the
  store or the trust anchor, and the gate every finalisation should
  pass: an anchor is in memory, and the header's issuer key is one of
  its keys.

  The code applies the check only when an anchor is present, so a wallet
  that never fetched or restored one accepts any issuer.

  Main results:
    * `trustGate_of_run` — in any run, a finalisation passes the gate
      if an anchor is loaded or one of its other checks fails; and on a
      working backend it passes the gate only then.
    * `finalize_without_anchor_succeeds` — a reachable wallet that
      stores a credential of an unknown issuer, which the sibling entry
      point rejects.
-/

import ProviiSdk.Core.Sample
import ProviiSdk.Lib.Run
import ProviiSdk.Wallet.Credentials

namespace ProviiSdk.Wallet

open ProviiSdk.Core ProviiSdk.Platform ProviiSdk.Ffi ProviiSdk.Run

/-! ## §1. The wallet as a machine -/

/-- One operation of the wallet, with the outcomes of its backend calls
    and its clock readings. -/
inductive WalletOp where
  | refreshIssuerKeys (f : Faults) (now : Int64) (jwksJson : String)
  | setStorageHandle (f : Faults) (clock : Key → Int64) (fd : Key → Faults) (fa : Faults) (kv : Kv)
  | importCredential (fs : ImportFaults) (credentialJson : String)
  | importCredentialWithType (fs : ImportFaults) (credentialJson credentialType : String)
    (nickname : Option String)
  | storeCredentialWithLabel (fs : ImportFaults) (credentialJson : String) (label : Option String)
    (credentialType : String) (nickname : Option String)
  | finalizeAndStoreCredential (fs : ImportFaults) (call : FinalizeCall)
  | deleteCredential (f : Faults) (credentialId : Key)
  | deleteSandboxCredentials (f : Faults)
  | cleanupExpiredCredentials (f : Faults) (clock : Key → Int64) (fd : Key → Faults)

/-- The wallet after an operation. -/
def step (X : Crates) (w : ProviiWallet) : WalletOp → ProviiWallet
  | .refreshIssuerKeys f now jwksJson => (Wallet.refreshIssuerKeys X f now w jwksJson).2
  | .setStorageHandle f clock fd fa kv => Wallet.setStorageHandle X f clock fd fa w kv
  | .importCredential fs json => { w with storage := (Wallet.importCredential X fs w.storage json).2 }
  | .importCredentialWithType fs json type nickname =>
    { w with storage := (Wallet.importCredentialWithType X fs w.storage json type nickname).2 }
  | .storeCredentialWithLabel fs json label type nickname =>
    { w with
      storage := (Wallet.storeCredentialWithLabel X fs w.storage json label type nickname).2 }
  | .finalizeAndStoreCredential fs c => { w with storage := (c.run X fs w).2 }
  | .deleteCredential f id => { w with storage := (deleteCredentialById f w.storage id).2 }
  | .deleteSandboxCredentials f => { w with storage := (deleteSandbox f w.storage).2 }
  | .cleanupExpiredCredentials f clock fd =>
    { w with storage := (Wallet.cleanupExpiredCredentials f clock fd w.storage).2 }

/-! ## §2. The gate -/

/-- The header's issuer is trusted: an anchor is in memory and has the
    header's key. -/
def IssuerTrusted (X : Crates) (w : ProviiWallet) (c : FinalizeCall) : Prop :=
  ∃ anchor header, w.issuerTrustAnchor = some anchor ∧ X.parseHeader c.headerJson = .ok header ∧
    ∃ k ∈ anchor.keys, header.issuerVk = k.vk

/-- A finalisation passes the gate: it succeeds only for a trusted
    issuer, and without an anchor it fails and stores nothing. -/
def GateHolds (X : Crates) (w : ProviiWallet) : WalletOp → Prop
  | .finalizeAndStoreCredential fs c =>
    ((∃ id, (c.run X fs w).1 = .ok id) → IssuerTrusted X w c) ∧
      (w.issuerTrustAnchor = none → (∃ e, (c.run X fs w).1 = .error e) ∧
        (c.run X fs w).2 = w.storage)
  | _ => True

/-- The checks of a finalisation other than the issuer's all pass. -/
def PassesOtherChecks (X : Crates) (f : Faults) (w : ProviiWallet) (c : FinalizeCall) : Prop :=
  ∃ slot header bytes full,
    resolveSlot f w.storage c.credentialType c.label = .ok slot ∧
    X.parseHeader c.headerJson = .ok header ∧
    X.b64.decode c.rBitsB64.toList = .ok bytes ∧
    finalizeCredential X header c.dobDays (unpackBits bytes rBitsLen) = .ok full

/-- The step does not reach the unguarded branch: an anchor is in
    memory, or the call fails one of its other checks. -/
def AnchorOrRejected (X : Crates) (w : ProviiWallet) : WalletOp → Prop
  | .finalizeAndStoreCredential fs c =>
    w.issuerTrustAnchor ≠ none ∨ ¬ PassesOtherChecks X fs.resolve w c
  | _ => True

/-- The backend of a finalisation is attached and answers its writes. -/
def BackendAnswers (w : ProviiWallet) : WalletOp → Prop
  | .finalizeAndStoreCredential fs _ =>
    w.storage.backend ≠ none ∧ fs.store.Healthy ∧ fs.secrets.Healthy
  | _ => True

/-! ## §3. One finalisation -/

/-- A finalisation that fails a check stores nothing. -/
private theorem run_of_checks_error (X : Crates) (fs : ImportFaults) (w : ProviiWallet)
    (c : FinalizeCall) (e : FfiError)
    (h : finalizeChecks X fs.resolve w c.headerJson c.dobDays c.rBitsB64 c.label
      c.credentialType = .error e) : c.run X fs w = (.error e, w.storage) := by
  unfold FinalizeCall.run finalizeAndStoreCredential
  rw [h]

/-- With an anchor in memory, the issuer check passes only for one of
    its keys. -/
private theorem trusted_of_checkIssuer (w : ProviiWallet) (anchor : IssuerTrustAnchor)
    (header : SignedCredentialHeader) (ha : w.issuerTrustAnchor = some anchor)
    (h : checkIssuer w.issuerTrustAnchor header = .ok ()) :
    ∃ k ∈ anchor.keys, header.issuerVk = k.vk := by
  rw [ha] at h
  unfold checkIssuer at h
  simp only at h
  rw [← validateIssuerVk_ok_iff]
  cases hv : validateIssuerVk header anchor with
  | error e => rw [hv] at h; cases h
  | ok u => rfl

/-- **The gate holds at every step that meets the condition.** -/
theorem gateHolds_of_anchorOrRejected (X : Crates) (w : ProviiWallet) (op : WalletOp)
    (h : AnchorOrRejected X w op) : GateHolds X w op := by
  cases op with
  | finalizeAndStoreCredential fs c =>
    cases hchk : finalizeChecks X fs.resolve w c.headerJson c.dobDays c.rBitsB64 c.label
        c.credentialType with
    | error e =>
      have hrun := run_of_checks_error X fs w c e hchk
      refine ⟨?_, fun _ => ⟨⟨e, by rw [hrun]⟩, by rw [hrun]⟩⟩
      rintro ⟨id, hid⟩
      rw [hrun] at hid
      exact absurd hid (by simp)
    | ok r =>
      obtain ⟨slot, credential, secrets⟩ := r
      obtain ⟨header, bytes, full, hslot, hhdr, hiss, hdec, hfin, -, -⟩ :=
        (finalizeChecks_ok_iff ..).1 hchk
      have hpass : PassesOtherChecks X fs.resolve w c :=
        ⟨slot, header, bytes, full, hslot, hhdr, hdec, hfin⟩
      rcases h with h | h
      · obtain ⟨anchor, ha⟩ := Option.ne_none_iff_exists'.1 h
        refine ⟨fun _ => ⟨anchor, header, ha, hhdr, ?_⟩, fun hnone => absurd hnone h⟩
        exact trusted_of_checkIssuer w anchor header ha hiss
      · exact absurd hpass h
  | _ => trivial

/-- On a working backend, a finalisation without an anchor that passes
    its other checks succeeds. -/
private theorem run_ok_of_no_anchor (X : Crates) (fs : ImportFaults) (w : ProviiWallet)
    (c : FinalizeCall) (hnone : w.issuerTrustAnchor = none)
    (hpass : PassesOtherChecks X fs.resolve w c) (hkv : w.storage.backend ≠ none)
    (hst : fs.store.Healthy) (hsec : fs.secrets.Healthy) :
    ∃ id, (c.run X fs w).1 = .ok id := by
  obtain ⟨slot, header, bytes, full, hslot, hhdr, hdec, hfin⟩ := hpass
  have hiss : checkIssuer w.issuerTrustAnchor header = .ok () := by
    rw [hnone]
    rfl
  have hchk := (finalizeChecks_ok_iff X fs.resolve w c.headerJson c.dobDays c.rBitsB64 c.label
    c.credentialType slot (redacted full) _).2
      ⟨header, bytes, full, hslot, hhdr, hiss, hdec, hfin, rfl, rfl⟩
  obtain ⟨⟨backend⟩, anchor⟩ := w
  obtain ⟨kv, rfl⟩ := Option.ne_none_iff_exists'.1 hkv
  obtain ⟨kv', hrun⟩ := storeWithSecrets_healthy X fs hst hsec kv (redacted full) c.label slot
    c.nickname (some ⟨c.dobDays, unpackBits bytes rBitsLen⟩)
  unfold FinalizeCall.run finalizeAndStoreCredential
  rw [hchk]
  simp only [hrun]
  exact ⟨_, rfl⟩

/-- On a working backend, only the steps that meet the condition pass
    the gate. -/
theorem anchorOrRejected_of_gateHolds (X : Crates) (w : ProviiWallet) (op : WalletOp)
    (hans : BackendAnswers w op) (h : GateHolds X w op) : AnchorOrRejected X w op := by
  cases op with
  | finalizeAndStoreCredential fs c =>
    obtain ⟨hkv, hst, hsec⟩ := hans
    by_cases hnone : w.issuerTrustAnchor = none
    · refine Or.inr fun hpass => ?_
      obtain ⟨id, hid⟩ := run_ok_of_no_anchor X fs w c hnone hpass hkv hst hsec
      obtain ⟨anchor, header, ha, _⟩ := h.1 ⟨id, hid⟩
      rw [hnone] at ha
      cases ha
    · exact Or.inl hnone
  | _ => trivial

/-- The sibling entry point rejects every call without an anchor. -/
theorem sdkIssueFinalizeCredential_none (X : Crates) (headerJson : String) (dobDays : Int32)
    (rBitsB64 : String) :
    ∃ e, sdkIssueFinalizeCredential X headerJson dobDays rBitsB64 none = .error e := by
  unfold sdkIssueFinalizeCredential
  cases X.parseHeader headerJson with
  | error e => exact ⟨_, rfl⟩
  | ok header => exact ⟨_, rfl⟩

/-! ## §4. Whole runs -/

/-- **The issuer gate over runs**: from any wallet, over any sequence of
    operations, every finalisation passes the gate when each of them
    finds an anchor in memory or fails one of its other checks; and when
    their backends answer, only then. -/
theorem trustGate_of_run (X : Crates) (w : ProviiWallet) (ops : List WalletOp) :
    (StepsMeet (step X) (AnchorOrRejected X) w ops → StepsMeet (step X) (GateHolds X) w ops) ∧
    (StepsMeet (step X) (fun w op => BackendAnswers w op ∧ GateHolds X w op) w ops →
      StepsMeet (step X) (AnchorOrRejected X) w ops) := by
  constructor
  · intro h
    refine stepsMeet_of_step (I := fun _ => True) ?_ trivial h
    exact fun w op _ hop => ⟨trivial, gateHolds_of_anchorOrRejected X w op hop⟩
  · intro h
    refine stepsMeet_of_step (I := fun _ => True) ?_ trivial h
    exact fun w op _ hop => ⟨trivial, anchorOrRejected_of_gateHolds X w op hop.1 hop.2⟩

/-! ## §5. A wallet that never loaded an anchor -/

/-- Sixteen zero bytes in base64url: 128 blinding bits. -/
def zeroBitsB64 : String := "AAAAAAAAAAAAAAAAAAAAAA"

/-- A finalisation of the sample header into the primary slot. -/
def sampleCall : FinalizeCall :=
  { headerJson := sampleHeaderJson, dobDays := 0, rBitsB64 := zeroBitsB64, label := none,
    credentialType := "primary", nickname := none }

def healthyImport : ImportFaults :=
  { resolve := .never, store := .never, secrets := .never, now := 0 }

/-- A new wallet with an empty backend attached. -/
def attachEmpty : WalletOp :=
  .setStorageHandle .never (fun _ => 0) (fun _ => .never) .never ∅

def newWallet : ProviiWallet := { storage := ⟨none⟩, issuerTrustAnchor := none }

/-- **The gate fails on a new wallet**: with a backend attached and no
    anchor ever loaded, a finalisation stores the credential and returns
    its id, where the sibling entry point rejects the same call. -/
theorem finalize_without_anchor_succeeds :
    let w := run (step sampleCrates) newWallet [attachEmpty]
    ¬ GateHolds sampleCrates w (.finalizeAndStoreCredential healthyImport sampleCall) ∧
      w.issuerTrustAnchor = none ∧
      (sampleCall.run sampleCrates healthyImport w).1 =
        .ok (newKey sampleCrates (placeOf none .primary) sampleCredential) ∧
      sdkIssueFinalizeCredential sampleCrates sampleHeaderJson 0 zeroBitsB64 none =
        .error (.invalidFormat
          "issuer_trust_anchor_json is required for credential finalisation") := by
  have hnone : (run (step sampleCrates) newWallet [attachEmpty]).issuerTrustAnchor = none := rfl
  have hok : (sampleCall.run sampleCrates healthyImport
      (run (step sampleCrates) newWallet [attachEmpty])).1 =
        .ok (newKey sampleCrates (placeOf none .primary) sampleCredential) := by
    decide +kernel
  refine ⟨fun hgate => ?_, hnone, hok, by decide +kernel⟩
  obtain ⟨⟨e, he⟩, _⟩ := hgate.2 hnone
  rw [hok] at he
  exact absurd he (by simp)

/-- A wallet that trusts the sample header's issuer. -/
def trustedWallet : ProviiWallet :=
  { newWallet with
    issuerTrustAnchor := some { keys := [⟨"provii:issuer", zeroBytes 32⟩], fetchedAt := 0 } }

/-- Both directions at a run of `trustedWallet`. -/
theorem trustGate_of_run_trusted :
    StepsMeet (step sampleCrates) (GateHolds sampleCrates) trustedWallet
        [attachEmpty, .finalizeAndStoreCredential healthyImport sampleCall] ∧
      StepsMeet (step sampleCrates) (AnchorOrRejected sampleCrates) trustedWallet
        [attachEmpty, .finalizeAndStoreCredential healthyImport sampleCall] := by
  have hgate := (trustGate_of_run sampleCrates trustedWallet
    [attachEmpty, .finalizeAndStoreCredential healthyImport sampleCall]).1
      ⟨trivial, Or.inl (by decide +kernel), trivial⟩
  refine ⟨hgate, (trustGate_of_run sampleCrates trustedWallet
    [attachEmpty, .finalizeAndStoreCredential healthyImport sampleCall]).2
      ⟨⟨trivial, trivial⟩, ⟨⟨?_, ?_, ?_⟩, hgate.2.1⟩, trivial⟩⟩
  · exact fun h => by cases h
  · exact Faults.never_healthy
  · exact Faults.never_healthy

end ProviiSdk.Wallet
