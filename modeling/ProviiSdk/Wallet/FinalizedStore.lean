/-
  ProviiSdk.Wallet.FinalizedStore — the exported store and its own wallet.

  Every wallet object has a store of its own, without a backend until
  one is registered with that object.  The exported function for a
  finalised credential is no method: it makes a wallet, stores through
  it, and lets go of it.

  Main results:
    * `storeCredentialOn_stored` — a wallet with a working backend keeps
      what is stored through it.
    * `sdkStoreFinalizedCredential_refused` — the exported function
      refuses every credential it can read.
    * `export_never_stores` — and so stores none.
-/

import ProviiSdk.Ffi.RecordLayout
import ProviiSdk.Wallet.IssuanceRoundTrip
import ProviiSdk.Wallet.TrustGate

namespace ProviiSdk.Wallet

open ProviiSdk.Core ProviiSdk.Platform ProviiSdk.Ffi
open ProviiSdk.Wire (Codec)

/-! ## §1. The wallets of a process -/

/-- The wallet objects of a process; a handle is a position among them. -/
abbrev Wallets := List ProviiWallet

/-- Make a wallet object; its handle is the next one. -/
def Wallets.make (ws : Wallets) : Nat × Wallets := (ws.length, ws ++ [newWallet])

/-- Let go of the wallet that was made last. -/
def Wallets.release (ws : Wallets) : Wallets := ws.dropLast

/-- Call `store_credential` on the wallet behind a handle. -/
def storeCredentialOn (X : Crates) (fs : ImportFaults) (h : Nat) (credentialJson : String)
    (ws : Wallets) : Except FfiError Key × Wallets :=
  match ws[h]? with
  -- no caller holds such a handle
  | none => (.error .notInitialized, ws)
  | some w =>
    let (result, storage) := storeCredential X fs w.storage credentialJson
    (result, ws.set h { w with storage })

/-- Store a finalised credential, in a wallet made for this call. -/
def sdkStoreFinalizedCredential (X : Crates) (fs : ImportFaults) (credentialJson : String)
    (ws : Wallets) : Except FfiError Key × Wallets :=
  let (wallet, ws) := ws.make
  match X.parseCredential credentialJson with
  | .error e => (.error (.invalidFormat e), ws.release)
  | .ok _ =>
    let (result, ws) := storeCredentialOn X fs wallet credentialJson ws
    (result, ws.release)

/-- The call has stored the credential: it answers with an id under
    which the wallet behind `h` has the credential's public fields. -/
def StoredIn (X : Crates) (h : Nat) (cred : CredentialV2)
    (answer : Except FfiError Key × Wallets) : Prop :=
  ∃ id w, answer.1 = .ok id ∧ answer.2[h]? = some w ∧
    ∀ f : Faults, f.Healthy → w.storage.read (getCredential X f id) = .ok (some (redacted cred))

/-! ## §2. Through a wallet with a backend -/

/-- **A wallet keeps what is stored through it**, once it has a backend
    that works. -/
theorem storeCredentialOn_stored (X : Crates) (fs : ImportFaults) (hst : fs.store.Healthy)
    (hsec : fs.secrets.Healthy) (ws : Wallets) (h : Nat) (w : ProviiWallet) (kv : Kv)
    (hw : ws[h]? = some w) (hkv : w.storage = ⟨some kv⟩) (json : String) (cred : CredentialV2)
    (hparse : X.parseCredential json = .ok cred) (hkid : IsRustString cred.kid)
    (hschema : IsRustString cred.schema) :
    StoredIn X h cred (storeCredentialOn X fs h json ws) := by
  obtain ⟨kv', hrun, -, hlook⟩ := storeWithSecrets_contents X fs hst hsec kv (redacted cred) none
    .primary none (takeSecrets cred)
  have hstore : storeCredential X fs w.storage json =
      (.ok (newKey X (placeOf none .primary) (redacted cred)), ⟨some kv'⟩) := by
    unfold storeCredential importCredential importCredentialInternal
    rw [hparse, hkv]
    exact hrun
  have hlt : h < ws.length := (List.getElem?_eq_some_iff.1 hw).1
  have hcall : storeCredentialOn X fs h json ws =
      (.ok (newKey X (placeOf none .primary) (redacted cred)),
        ws.set h { w with storage := ⟨some kv'⟩ }) := by
    unfold storeCredentialOn
    rw [hw]
    simp only [hstore]
  rw [hcall]
  refine ⟨_, { w with storage := ⟨some kv'⟩ }, rfl, ?_, fun f hf => ?_⟩
  · exact List.getElem?_set_self hlt
  · -- the public record is the one that was written
    have hne := (secretsKeyOf_newKey_ne X (placeOf none .primary) (redacted cred)).symm
    have hpublic := hlook _ hne
    rw [if_pos rfl] at hpublic
    have hfits := storedRecord_fits fs.now (redacted cred) none .primary none (string_fits hkid)
      (string_fits hschema) (fun l hl => by cases hl) (fun n hn => by cases hn)
    exact getCredential_of_stored X f hf kv' _ fs.now (redacted cred) none .primary none hfits
      hpublic

/-! ## §3. Through the exported function -/

/-- A wallet that has just been made stores nothing. -/
theorem storeCredential_newWallet (X : Crates) (fs : ImportFaults) (json : String) (cred : CredentialV2)
    (hparse : X.parseCredential json = .ok cred) :
    storeCredential X fs newWallet.storage json =
      (.error (.storage "Storage not initialised"), newWallet.storage) := by
  unfold storeCredential importCredential importCredentialInternal
  rw [hparse]
  rfl

/-- **The exported function refuses** every credential it can read, and
    leaves the wallets of the process as they are. -/
theorem sdkStoreFinalizedCredential_refused (X : Crates) (fs : ImportFaults) (json : String)
    (cred : CredentialV2) (hparse : X.parseCredential json = .ok cred) (ws : Wallets) :
    sdkStoreFinalizedCredential X fs json ws =
      (.error (.storage "Storage not initialised"), ws) := by
  have hmade : (ws ++ [newWallet])[ws.length]? = some newWallet := List.getElem?_concat_length
  unfold sdkStoreFinalizedCredential Wallets.make Wallets.release storeCredentialOn
  simp only [hparse, hmade, storeCredential_newWallet X fs json cred hparse]
  rw [List.set_append_right _ _ (Nat.le_refl _), Nat.sub_self]
  show (_, (ws ++ [newWallet]).dropLast) = _
  rw [List.dropLast_concat]

/-- **The exported function stores no credential**: whatever wallets the
    process has and whatever their backends answer, a credential it can
    read is refused for want of a backend, no wallet has it afterwards,
    and every wallet is what it was. -/
theorem export_never_stores (X : Crates) (fs : ImportFaults) (json : String) (cred : CredentialV2)
    (hparse : X.parseCredential json = .ok cred) (ws : Wallets) :
    (∀ h, ¬ StoredIn X h cred (sdkStoreFinalizedCredential X fs json ws)) ∧
      sdkStoreFinalizedCredential X fs json ws =
        (.error (.storage "Storage not initialised"), ws) := by
  have hrefused := sdkStoreFinalizedCredential_refused X fs json cred hparse ws
  refine ⟨fun h hstored => ?_, hrefused⟩
  obtain ⟨id, w, hid, -⟩ := hstored
  rw [hrefused] at hid
  cases hid

/-- Crates that read the sample credential. -/
def importingCrates : Crates :=
  { sampleCrates with
    parseCredential := fun json =>
      if json = sampleHeaderJson then .ok sampleCredential else .error "expected value" }

theorem parseCredential_importingCrates :
    importingCrates.parseCredential sampleHeaderJson = .ok sampleCredential := by
  unfold importingCrates
  simp only [if_true]

/-- Backend outcomes of an import no call of which fails. -/
def importHealthy : ImportFaults :=
  { resolve := .never, store := .never, secrets := .never, now := 0 }

theorem export_never_stores_sample :
    (∀ h, ¬ StoredIn importingCrates h sampleCredential
      (sdkStoreFinalizedCredential importingCrates importHealthy sampleHeaderJson
        [issuingWallet])) ∧
      sdkStoreFinalizedCredential importingCrates importHealthy sampleHeaderJson [issuingWallet] =
        (.error (.storage "Storage not initialised"), [issuingWallet]) :=
  export_never_stores importingCrates importHealthy sampleHeaderJson sampleCredential
    parseCredential_importingCrates [issuingWallet]

/-- **The sample credential is lost** in a process whose only wallet has
    a working backend: that wallet would have kept it. -/
theorem export_loses_sample :
    importingCrates.parseCredential sampleHeaderJson = .ok sampleCredential ∧
      StoredIn importingCrates 0 sampleCredential
        (storeCredentialOn importingCrates importHealthy 0 sampleHeaderJson [issuingWallet]) ∧
      ¬ StoredIn importingCrates 0 sampleCredential
        (sdkStoreFinalizedCredential importingCrates importHealthy sampleHeaderJson
          [issuingWallet]) := by
  have hparse := parseCredential_importingCrates
  refine ⟨hparse, ?_, ?_⟩
  · exact storeCredentialOn_stored importingCrates importHealthy Faults.never_healthy
      Faults.never_healthy [issuingWallet] 0 issuingWallet ∅ rfl rfl sampleHeaderJson
      sampleCredential hparse (by decide) (by decide)
  · rw [sdkStoreFinalizedCredential_refused importingCrates importHealthy sampleHeaderJson
      sampleCredential hparse]
    rintro ⟨id, w, hid, -⟩
    cases hid

end ProviiSdk.Wallet
