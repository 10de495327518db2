/-
  ProviiSdk.Wallet.BackendRuns — the wallet on the backend of a device.

  The operations on credential records were verified on a finite map any
  call of which may fail, and each backend was shown to answer one call
  as such a map does.  Here the two meet: an operation makes its calls to
  a backend one by one, the environment answering each as it likes, and
  what comes out of a whole run of operations is what the model computes
  under some failures.  So whatever was shown of the model for all
  failures holds on the device.

  Main results:
    * `deviceCalls_covers` — an operation, call by call, is one step of
      the model.
    * `runs_on_backend` — runs on any backend that meets the contract.
    * `android_runs_wallet`, `ios_runs_wallet` — runs on the two backends.
-/

import ProviiSdk.Android.Refinement
import ProviiSdk.Ffi.StorageCalls
import ProviiSdk.Ios.Refinement
import ProviiSdk.Wallet.EndToEnd
import ProviiSdk.Wallet.SlotProofs

namespace ProviiSdk.Wallet

open ProviiSdk.Core hiding WalletError
open ProviiSdk.Platform ProviiSdk.Ffi ProviiSdk.Clients ProviiSdk.Run ProviiSdk.Simulation
open ProviiSdk.BoundedCache (Cache)
open ProviiSdk.Check

variable {Params : Type}

/-! ## §1. Operations and answers -/

/-- A call of a wallet method that works on credential records, with its
    arguments and the clock readings it makes.  What a proof request
    takes from its surroundings besides the store is in its environment. -/
inductive DeviceCall (Params : Type) where
  | importCall (call : ImportCall) (anchor : Option IssuerTrustAnchor) (now : Int64)
  | deleteCredential (id : Key)
  | deleteSandbox
  | updateCredentialNickname (id : Key) (nickname : Option String)
  | cleanupExpiredCredentials (clock : Key → Int64)
  | listCredentials (clock : Key → Int64)
  | ageProofRequest (env : ProofEnv Params) (credentialId : Key) (challengeId : String)
    (cached : Cache String CachedChallenge)

/-- What the methods return. -/
inductive DeviceAnswer where
  | imported (r : Except FfiError Key)
  | finished (r : Except FfiError Unit)
  | removed (n : Nat)
  | listed (r : Except String (List CredentialInfo))
  | request (r : Except FfiError SubmitProofRequest)

/-- An operation of the model: a call with the failures it meets. -/
inductive DeviceOp (Params : Type) where
  | change (op : SlotOp)
  | listCredentials (f : Faults) (clock : Key → Int64)
  | ageProofRequest (env : ProofEnv Params) (credentialId : Key) (challengeId : String)
    (cached : Cache String CachedChallenge)

/-- What an operation returns on a store. -/
def deviceAnswer (X : WalletCrates Params) (s : Storage) : DeviceOp Params → DeviceAnswer
  | .change (.importCall call anchor fs) => .imported (call.run X.toCrates fs ⟨s, anchor⟩).1
  | .change (.deleteCredential f id) => .finished (deleteCredentialById f s id).1
  | .change (.deleteSandbox f) => .finished (deleteSandbox f s).1
  | .change (.updateCredentialNickname f id nickname) =>
    .finished (updateCredentialNickname X.toCrates f s id nickname).1
  | .change (.cleanupExpiredCredentials f clock fd) =>
    .removed (cleanupExpiredCredentials f clock fd s).1
  | .listCredentials f clock => .listed (s.read (listCredentials f clock))
  | .ageProofRequest env credentialId challengeId cached =>
    .request (Wallet.ageProofRequest X { env with storage := s } credentialId challengeId cached)

/-- An operation of the model on a store. -/
def deviceStep (X : WalletCrates Params) (s : Storage) (op : DeviceOp Params) :
    DeviceAnswer × Storage :=
  match op with
  | .change change => (deviceAnswer X s op, storageAfter X.toCrates s change)
  | _ => (deviceAnswer X s op, s)

/-- The operation is the call, under some failures. -/
def DeviceCall.With : DeviceCall Params → DeviceOp Params → Prop
  | .importCall call anchor now, op =>
    ∃ fs : ImportFaults, fs.now = now ∧ op = .change (.importCall call anchor fs)
  | .deleteCredential id, op => ∃ f, op = .change (.deleteCredential f id)
  | .deleteSandbox, op => ∃ f, op = .change (.deleteSandbox f)
  | .updateCredentialNickname id nickname, op =>
    ∃ f, op = .change (.updateCredentialNickname f id nickname)
  | .cleanupExpiredCredentials clock, op =>
    ∃ f fd, op = .change (.cleanupExpiredCredentials f clock fd)
  | .listCredentials clock, op => ∃ f, op = .listCredentials f clock
  | .ageProofRequest env credentialId challengeId cached, op =>
    ∃ get load, op = .ageProofRequest { env with get, load } credentialId challengeId cached

/-! ## §2. The operations, call by call -/

/-- Turn a credential type into a slot. -/
def resolveSlotCalls (credentialType : String) (label : Option String) :
    Calls (Except FfiError CredentialSlot) :=
  if credentialType = "managed" then
    (nextAvailableManagedIndexCalls (fromLabel label)).bind fun
      | .error e => .done (.error (.generic e))
      | .ok index =>
        if index ≥ maxManagedSlots then
          .done (.error (.invalidFormat
            s!"managed slot index {index.toNat} exceeds maximum ({maxManagedSlots.toNat - 1})"))
        else .done (.ok (.managed index))
  else if credentialType = "primary" then .done (.ok .primary)
  else .done (.error (.invalidFormat ("unrecognised credential type: " ++ credentialType)))

/-- The slot an import goes to. -/
def importSlotCalls : ImportCall → Calls (Except FfiError CredentialSlot)
  | .importCredential _ => .done (.ok .primary)
  | .importCredentialWithType _ type _ => resolveSlotCalls type none
  | .storeCredentialWithLabel _ label type _ => resolveSlotCalls type label
  | .storeCredential _ => .done (.ok .primary)
  | .finalizeAndStoreCredential c => resolveSlotCalls c.credentialType c.label

/-- Store the public record, then the secrets if there are any. -/
def storeWithSecretsCalls (X : Crates) (now : Int64) (credential : CredentialV2)
    (label : Option String) (slot : CredentialSlot) (nickname : Option String)
    (secrets : Option CredentialSecrets) : Calls (Except FfiError Key) :=
  (storeCredentialWithSlotCalls X now credential label slot nickname).bind fun
    | .error e => .done (.error (.storage e))
    | .ok credId =>
      match secrets with
      | none => .done (.ok credId)
      | some secrets =>
        (storeCredentialSecretsCalls credId secrets).bind fun
          | .error e => .done (.error (.storage e))
          | .ok () => .done (.ok credId)

/-- An import: its slot, its credential, and the write. -/
def importCalls (X : Crates) (call : ImportCall) (anchor : Option IssuerTrustAnchor)
    (now : Int64) : Calls (Except FfiError Key) :=
  (importSlotCalls call).bind fun
    | .error e => .done (.error e)
    | .ok slot =>
      match call.prepare X anchor with
      | .error e => .done (.error e)
      | .ok (credential, secrets) =>
        storeWithSecretsCalls X now credential call.label slot call.nickname secrets

/-- The cleanup loop. -/
def deleteExpiredCalls : List CredentialInfo → Nat → Calls Nat
  | [], removed => .done removed
  | info :: infos, removed =>
    if info.isExpired then
      (deleteCredentialCalls info.id).bind fun
        | .error _ => deleteExpiredCalls infos removed
        | .ok () => deleteExpiredCalls infos (removed + 1)
    else deleteExpiredCalls infos removed

/-- Remove expired credentials. -/
def cleanupExpiredCredentialsCalls (clock : Key → Int64) : Calls Nat :=
  (listCredentialsCalls clock).bind fun
    | .ok creds => deleteExpiredCalls creds 0
    | .error _ => .done 0

/-- The credential with its private fields. -/
def credentialWithSecretsCalls (X : Crates) (credentialId : Key) :
    Calls (Except FfiError CredentialV2) :=
  (getCredentialCalls X credentialId).bind fun
    | .error e => .done (.error (.generic e))
    | .ok none => .done (.error .credentialNotFound)
    | .ok (some cred) =>
      if cred.dobDays.isNone || cred.rBits.isNone then
        (loadCredentialSecretsCalls X credentialId).bind fun
          | .error e => .done (.error (.generic e))
          | .ok none =>
            .done (.error (.invalidFormat
              ("Credential missing secrets: " ++ String.ofList credentialId)))
          | .ok (some secrets) =>
            .done (.ok { cred with dobDays := some secrets.dobDays, rBits := some secrets.rBits })
      else .done (.ok cred)

/-- What is left of a proof request once the credential is read. -/
def requestFor (X : WalletCrates Params) (env : ProofEnv Params) (challenge : CachedChallenge)
    (cred : CredentialV2) : Except FfiError SubmitProofRequest := do
  require (¬ cred.exp < unixSecs env.now) .credentialExpired
  (buildVerifyRequest X.toProverCrates env.thread env.prover (unixSecs env.buildNow) cred
    challenge.payload).mapError fun e =>
      .prover ("Proof generation failed: " ++ X.proverErrorDebug e)

/-- The request for a cached challenge. -/
def ageProofRequestCalls (X : WalletCrates Params) (env : ProofEnv Params) (credentialId : Key)
    (challengeId : String) (cached : Cache String CachedChallenge) :
    Calls (Except FfiError SubmitProofRequest) :=
  match cached.lookup challengeId with
  | none => .done (.error (challengeNotFound challengeId))
  | some challenge =>
    (credentialWithSecretsCalls X.toCrates credentialId).bind fun
      | .error e => .done (.error e)
      | .ok cred => .done (requestFor X env challenge cred)

/-- Any of the methods. -/
def deviceCalls (X : WalletCrates Params) : DeviceCall Params → Calls DeviceAnswer
  | .importCall call anchor now =>
    (importCalls X.toCrates call anchor now).bind fun r => .done (.imported r)
  | .deleteCredential id =>
    (deleteCredentialCalls id).bind fun r => .done (.finished (r.mapError .generic))
  | .deleteSandbox =>
    deleteSandboxCredentialsCalls.bind fun r =>
      .done (.finished ((r.map fun _ => ()).mapError .storage))
  | .updateCredentialNickname id nickname =>
    (updateCredentialNicknameCalls X.toCrates id nickname).bind fun r =>
      .done (.finished (r.mapError .storage))
  | .cleanupExpiredCredentials clock =>
    (cleanupExpiredCredentialsCalls clock).bind fun n => .done (.removed n)
  | .listCredentials clock => (listCredentialsCalls clock).bind fun r => .done (.listed r)
  | .ageProofRequest env credentialId challengeId cached =>
    (ageProofRequestCalls X env credentialId challengeId cached).bind fun r => .done (.request r)

/-! ## §3. The parts -/

/-- On contents, the methods of the store are those of the model. -/
theorem resolveSlot_covers (credentialType : String) (label : Option String) {kv kv' : Kv}
    {a : Except FfiError CredentialSlot}
    (h : OnContents (resolveSlotCalls credentialType label) kv a kv') :
    kv' = kv ∧ ∃ f : Faults, resolveSlot f ⟨some kv⟩ credentialType label = a := by
  unfold resolveSlotCalls at h
  unfold resolveSlot
  by_cases hmanaged : credentialType = "managed"
  · rw [if_pos hmanaged] at h
    obtain ⟨r, t, hindex, hafter⟩ := runs_bind_iff.1 h
    obtain ⟨rfl, f, rfl⟩ := nextAvailableManagedIndex_covers _ hindex
    refine ⟨?_, f, ?_⟩
    · cases hfound : nextAvailableManagedIndex f (fromLabel label) t with
      | error e =>
        rw [hfound] at hafter
        exact (runs_done_iff.1 hafter).2
      | ok index =>
        rw [hfound] at hafter
        simp only at hafter
        split at hafter
        · exact (runs_done_iff.1 hafter).2
        · exact (runs_done_iff.1 hafter).2
    · rw [if_pos hmanaged, read_some]
      cases hfound : nextAvailableManagedIndex f (fromLabel label) t with
      | error e =>
        rw [hfound] at hafter
        exact (runs_done_iff.1 hafter).1.symm
      | ok index =>
        rw [hfound] at hafter
        simp only at hafter ⊢
        split at hafter
        next hfull =>
          rw [if_pos hfull]
          exact (runs_done_iff.1 hafter).1.symm
        next hfree =>
          rw [if_neg hfree]
          exact (runs_done_iff.1 hafter).1.symm
  · rw [if_neg hmanaged] at h
    simp only [if_neg hmanaged]
    split at h
    next hprimary =>
      obtain ⟨rfl, rfl⟩ := runs_done_iff.1 h
      exact ⟨rfl, .never, if_pos hprimary⟩
    next hother =>
      obtain ⟨rfl, rfl⟩ := runs_done_iff.1 h
      exact ⟨rfl, .never, if_neg hother⟩

theorem importSlot_covers (call : ImportCall) {kv kv' : Kv} {a : Except FfiError CredentialSlot}
    (h : OnContents (importSlotCalls call) kv a kv') :
    kv' = kv ∧ ∃ f : Faults, call.resolve f ⟨some kv⟩ = a := by
  cases call with
  | importCredential json =>
    obtain ⟨rfl, rfl⟩ := runs_done_iff.1 h
    exact ⟨rfl, .never, rfl⟩
  | importCredentialWithType json type nickname => exact resolveSlot_covers type none h
  | storeCredentialWithLabel json label type nickname => exact resolveSlot_covers type label h
  | storeCredential json =>
    obtain ⟨rfl, rfl⟩ := runs_done_iff.1 h
    exact ⟨rfl, .never, rfl⟩
  | finalizeAndStoreCredential c => exact resolveSlot_covers c.credentialType c.label h

theorem storeWithSecrets_covers (X : Crates) (resolve : Faults) (now : Int64)
    (credential : CredentialV2) (label : Option String) (slot : CredentialSlot)
    (nickname : Option String) (secrets : Option CredentialSecrets) {kv kv' : Kv}
    {a : Except FfiError Key}
    (h : OnContents (storeWithSecretsCalls X now credential label slot nickname secrets) kv a kv') :
    ∃ store secretsFaults : Faults,
      storeWithSecrets X { resolve, store, secrets := secretsFaults, now } ⟨some kv⟩ credential
        label slot nickname secrets = (a, ⟨some kv'⟩) := by
  unfold storeWithSecretsCalls at h
  unfold storeWithSecrets
  obtain ⟨r, t, hstored, hafter⟩ := runs_bind_iff.1 h
  obtain ⟨store, hstore⟩ := storeCredentialWithSlot_covers X now credential label slot nickname
    hstored
  cases r with
  | error e =>
    obtain ⟨rfl, rfl⟩ := runs_done_iff.1 hafter
    refine ⟨store, .never, ?_⟩
    simp only [call_some, hstore]
  | ok credId =>
    cases secrets with
    | none =>
      obtain ⟨rfl, rfl⟩ := runs_done_iff.1 hafter
      refine ⟨store, .never, ?_⟩
      simp only [call_some, hstore]
    | some secrets =>
      obtain ⟨r, t₂, hsecrets, hlast⟩ := runs_bind_iff.1 hafter
      obtain ⟨secretsFaults, hwrite⟩ := storeCredentialSecrets_covers credId secrets hsecrets
      refine ⟨store, secretsFaults, ?_⟩
      simp only [call_some, hstore, hwrite]
      cases r with
      | error e =>
        obtain ⟨rfl, rfl⟩ := runs_done_iff.1 hlast
        rfl
      | ok u =>
        obtain ⟨rfl, rfl⟩ := runs_done_iff.1 hlast
        rfl

/-- **An import**, call by call. -/
theorem importCalls_covers (X : Crates) (call : ImportCall) (anchor : Option IssuerTrustAnchor)
    (now : Int64) {kv kv' : Kv} {a : Except FfiError Key}
    (h : OnContents (importCalls X call anchor now) kv a kv') :
    ∃ fs : ImportFaults, fs.now = now ∧ call.run X fs ⟨⟨some kv⟩, anchor⟩ = (a, ⟨some kv'⟩) := by
  unfold importCalls at h
  obtain ⟨r, t, hslot, hafter⟩ := runs_bind_iff.1 h
  obtain ⟨rfl, resolve, hresolve⟩ := importSlot_covers call hslot
  cases r with
  | error e =>
    obtain ⟨rfl, rfl⟩ := runs_done_iff.1 hafter
    refine ⟨{ resolve, store := .never, secrets := .never, now }, rfl, ?_⟩
    rw [ImportCall.run_eq]
    unfold ImportCall.stages
    simp only [hresolve]
  | ok slot =>
    simp only at hafter
    cases hprepare : call.prepare X anchor with
    | error e =>
      rw [hprepare] at hafter
      obtain ⟨rfl, rfl⟩ := runs_done_iff.1 hafter
      refine ⟨{ resolve, store := .never, secrets := .never, now }, rfl, ?_⟩
      rw [ImportCall.run_eq]
      unfold ImportCall.stages ImportCall.write
      simp only [hresolve, hprepare]
    | ok prepared =>
      rw [hprepare] at hafter
      obtain ⟨store, secrets, hwrite⟩ := storeWithSecrets_covers X resolve now _ _ slot _ _ hafter
      refine ⟨{ resolve, store, secrets, now }, rfl, ?_⟩
      rw [ImportCall.run_eq]
      unfold ImportCall.stages ImportCall.write
      simp only [hresolve, hprepare]
      exact hwrite

/-- The cleanup loop, over entries with ids of their own. -/
theorem deleteExpired_covers {infos : List CredentialInfo}
    (hids : (infos.map CredentialInfo.id).Nodup) {removed n : Nat} {kv kv' : Kv}
    (h : OnContents (deleteExpiredCalls infos removed) kv n kv') :
    ∃ faults : Key → Faults, ∀ fd : Key → Faults, (∀ info ∈ infos, fd info.id = faults info.id) →
      deleteExpired fd infos removed ⟨some kv⟩ = (n, ⟨some kv'⟩) := by
  induction infos generalizing kv removed with
  | nil =>
    obtain ⟨rfl, rfl⟩ := runs_done_iff.1 h
    exact ⟨fun _ => .never, fun fd _ => rfl⟩
  | cons info infos ih =>
    obtain ⟨hfresh, hids⟩ := List.nodup_cons.1 hids
    unfold deleteExpiredCalls at h
    unfold deleteExpired
    by_cases hexpired : info.isExpired = true
    · rw [if_pos hexpired] at h
      obtain ⟨r, t, hdelete, hrest⟩ := runs_bind_iff.1 h
      obtain ⟨f, hdeleted⟩ := deleteCredential_covers info.id hdelete
      -- the first credential's deletion is its own
      have hcons : ∀ m, OnContents (deleteExpiredCalls infos m) t n kv' →
          ∃ faults : Key → Faults, ∀ fd : Key → Faults,
            (∀ other ∈ info :: infos, fd other.id = faults other.id) →
              fd info.id = f ∧ deleteExpired fd infos m ⟨some t⟩ = (n, ⟨some kv'⟩) := by
        intro m hrest
        obtain ⟨faults, hothers⟩ := ih hids hrest
        refine ⟨Function.update faults info.id f, fun fd hfd => ⟨?_, hothers fd fun other hother => ?_⟩⟩
        · rw [hfd info (List.mem_cons_self ..), Function.update_self]
        · rw [hfd other (List.mem_cons_of_mem _ hother), Function.update_of_ne]
          intro hsame
          exact hfresh (hsame ▸ List.mem_map_of_mem hother)
      cases r with
      | error e =>
        obtain ⟨faults, hfaults⟩ := hcons removed hrest
        refine ⟨faults, fun fd hfd => ?_⟩
        obtain ⟨hfirst, hothers⟩ := hfaults fd hfd
        rw [if_pos hexpired, hfirst]
        simp only [call_some, hdeleted]
        exact hothers
      | ok u =>
        obtain ⟨faults, hfaults⟩ := hcons (removed + 1) hrest
        refine ⟨faults, fun fd hfd => ?_⟩
        obtain ⟨hfirst, hothers⟩ := hfaults fd hfd
        rw [if_pos hexpired, hfirst]
        simp only [call_some, hdeleted]
        exact hothers
    · rw [if_neg hexpired] at h
      obtain ⟨faults, hothers⟩ := ih hids h
      refine ⟨faults, fun fd hfd => ?_⟩
      rw [if_neg hexpired]
      exact hothers fd fun other hother => hfd other (List.mem_cons_of_mem _ hother)

/-- **A cleanup**, call by call. -/
theorem cleanupExpiredCredentials_covers (clock : Key → Int64) {kv kv' : Kv}
    (hkv : SecretsApart kv) {n : Nat}
    (h : OnContents (cleanupExpiredCredentialsCalls clock) kv n kv') :
    ∃ f fd, cleanupExpiredCredentials f clock fd ⟨some kv⟩ = (n, ⟨some kv'⟩) := by
  unfold cleanupExpiredCredentialsCalls at h
  unfold cleanupExpiredCredentials
  obtain ⟨r, t, hlist, hafter⟩ := runs_bind_iff.1 h
  obtain ⟨rfl, f, hlisted⟩ := listCredentials_covers clock hkv hlist
  cases r with
  | error e =>
    obtain ⟨rfl, rfl⟩ := runs_done_iff.1 hafter
    refine ⟨f, fun _ => .never, ?_⟩
    rw [read_some, hlisted]
  | ok creds =>
    obtain ⟨faults, hdeleted⟩ := deleteExpired_covers (listCredentials_nodup hlisted) hafter
    refine ⟨f, faults, ?_⟩
    rw [read_some, hlisted]
    exact hdeleted faults fun _ _ => rfl

/-- **Reading a credential with its secrets**, call by call. -/
theorem credentialWithSecrets_covers (X : WalletCrates Params) (env : ProofEnv Params)
    (credentialId : Key) {kv kv' : Kv} {a : Except FfiError CredentialV2}
    (h : OnContents (credentialWithSecretsCalls X.toCrates credentialId) kv a kv') :
    kv' = kv ∧ ∃ get load : Faults,
      credentialWithSecrets X { env with storage := ⟨some kv⟩, get, load } credentialId = a := by
  unfold credentialWithSecretsCalls at h
  unfold credentialWithSecrets
  obtain ⟨r, t, hget, hafter⟩ := runs_bind_iff.1 h
  obtain ⟨rfl, get, hgot⟩ := getCredential_covers X.toCrates credentialId hget
  cases r with
  | error e =>
    obtain ⟨rfl, rfl⟩ := runs_done_iff.1 hafter
    refine ⟨rfl, get, .never, ?_⟩
    simp only [read_some, hgot]
    rfl
  | ok found =>
    cases found with
    | none =>
      obtain ⟨rfl, rfl⟩ := runs_done_iff.1 hafter
      refine ⟨rfl, get, .never, ?_⟩
      simp only [read_some, hgot]
      rfl
    | some cred =>
      simp only at hafter
      by_cases hmissing : (cred.dobDays.isNone || cred.rBits.isNone) = true
      · rw [if_pos hmissing] at hafter
        obtain ⟨r, t₂, hload, hlast⟩ := runs_bind_iff.1 hafter
        obtain ⟨rfl, load, hloaded⟩ := loadCredentialSecrets_covers X.toCrates credentialId hload
        cases r with
        | error e =>
          obtain ⟨rfl, rfl⟩ := runs_done_iff.1 hlast
          refine ⟨rfl, get, load, ?_⟩
          simp only [read_some, hgot, hloaded]
          exact if_pos hmissing
        | ok loaded =>
          cases loaded with
          | none =>
            obtain ⟨rfl, rfl⟩ := runs_done_iff.1 hlast
            refine ⟨rfl, get, load, ?_⟩
            simp only [read_some, hgot, hloaded]
            exact if_pos hmissing
          | some secrets =>
            obtain ⟨rfl, rfl⟩ := runs_done_iff.1 hlast
            refine ⟨rfl, get, load, ?_⟩
            simp only [read_some, hgot, hloaded]
            exact if_pos hmissing
      · rw [if_neg hmissing] at hafter
        obtain ⟨rfl, rfl⟩ := runs_done_iff.1 hafter
        refine ⟨rfl, get, .never, ?_⟩
        simp only [read_some, hgot]
        exact if_neg hmissing

/-- **A proof request**, call by call. -/
theorem ageProofRequest_covers (X : WalletCrates Params) (env : ProofEnv Params)
    (credentialId : Key) (challengeId : String) (cached : Cache String CachedChallenge)
    {kv kv' : Kv} {a : Except FfiError SubmitProofRequest}
    (h : OnContents (ageProofRequestCalls X env credentialId challengeId cached) kv a kv') :
    kv' = kv ∧ ∃ get load : Faults,
      ageProofRequest X { env with storage := ⟨some kv⟩, get, load } credentialId challengeId
        cached = a := by
  unfold ageProofRequestCalls at h
  unfold ageProofRequest
  cases hcached : cached.lookup challengeId with
  | none =>
    rw [hcached] at h
    obtain ⟨rfl, rfl⟩ := runs_done_iff.1 h
    exact ⟨rfl, .never, .never, rfl⟩
  | some challenge =>
    rw [hcached] at h
    obtain ⟨r, t, hread, hafter⟩ := runs_bind_iff.1 h
    obtain ⟨rfl, get, load, hcred⟩ := credentialWithSecrets_covers X env credentialId hread
    cases r with
    | error e =>
      obtain ⟨rfl, rfl⟩ := runs_done_iff.1 hafter
      refine ⟨rfl, get, load, ?_⟩
      simp only [hcred]
      rfl
    | ok cred =>
      obtain ⟨rfl, rfl⟩ := runs_done_iff.1 hafter
      refine ⟨rfl, get, load, ?_⟩
      simp only [hcred]
      rfl

/-! ## §4. One operation -/

/-- Every stored public key is a credential's. -/
def CleanKeys (kv : Kv) : Prop :=
  ∀ k ∈ kv, isCredentialKey k = true → ∃ p b, k = recordKey p .cred b

theorem cleanKeys_empty : CleanKeys ∅ := by
  intro k hk
  exact absurd hk (AList.notMem_empty k)

/-- Credentials' keys have secrets keys of their own. -/
theorem secretsApart_of_cleanKeys {kv : Kv} (h : CleanKeys kv) : SecretsApart kv := by
  intro k₁ k₂ _ h₂ hpublic₁ hpublic₂ hsame
  obtain ⟨p, b, rfl⟩ := h k₂ h₂ hpublic₂
  exact public_of_secretsKeyOf hpublic₁ p b hsame

/-- **Operations write credentials' keys only.** -/
theorem cleanKeys_storageAfter (X : Crates) (op : SlotOp) {kv kv' : Kv} (h : CleanKeys kv)
    (hafter : storageAfter X ⟨some kv⟩ op = ⟨some kv'⟩) : CleanKeys kv' := by
  intro k hk hpublic
  by_cases hbefore : k ∈ kv
  · exact h k hbefore hpublic
  · have hnone : recordAt ⟨some kv⟩ k = none := AList.lookup_eq_none.2 hbefore
    by_cases hwrites : op.Writes X ⟨some kv⟩ k
    · cases op with
      | importCall call anchor fs =>
        obtain ⟨p, credential, -, hkey | hkey⟩ := hwrites
        · exact ⟨p, baseIdFor X credential, hkey⟩
        · rw [hkey, isCredentialKey_secretsKeyOf] at hpublic
          cases hpublic
      | _ => exact hwrites.elim
    · -- it is absent still
      have habsent := recordAt_absent X ⟨some kv⟩ op k hnone hwrites
      rw [hafter] at habsent
      exact absurd hk (AList.lookup_eq_none.1 habsent)

/-- **An operation, call by call, is a step of the model.** -/
theorem deviceCalls_covers (X : WalletCrates Params) (call : DeviceCall Params) {kv kv' : Kv}
    (hkv : CleanKeys kv) {answer : DeviceAnswer}
    (h : OnContents (deviceCalls X call) kv answer kv') :
    ∃ op, call.With op ∧ deviceStep X ⟨some kv⟩ op = (answer, ⟨some kv'⟩) ∧ CleanKeys kv' := by
  have hchange : ∀ op : SlotOp, call.With (.change op) →
      deviceStep X ⟨some kv⟩ (.change op) = (answer, ⟨some kv'⟩) →
      ∃ op, call.With op ∧ deviceStep X ⟨some kv⟩ op = (answer, ⟨some kv'⟩) ∧ CleanKeys kv' := by
    intro op hop hstep
    exact ⟨_, hop, hstep, cleanKeys_storageAfter X.toCrates op hkv (congrArg Prod.snd hstep)⟩
  cases call with
  | importCall call anchor now =>
    obtain ⟨r, t, himport, hdone⟩ := runs_bind_iff.1 h
    obtain ⟨rfl, rfl⟩ := runs_done_iff.1 hdone
    obtain ⟨fs, hnow, hrun⟩ := importCalls_covers X.toCrates call anchor now himport
    apply hchange (.importCall call anchor fs) ⟨fs, hnow, rfl⟩
    show (DeviceAnswer.imported (call.run X.toCrates fs ⟨⟨some kv⟩, anchor⟩).1,
      (call.run X.toCrates fs ⟨⟨some kv⟩, anchor⟩).2) = _
    rw [hrun]
  | deleteCredential id =>
    obtain ⟨r, t, hdelete, hdone⟩ := runs_bind_iff.1 h
    obtain ⟨rfl, rfl⟩ := runs_done_iff.1 hdone
    obtain ⟨f, hrun⟩ := deleteCredential_covers id hdelete
    apply hchange (.deleteCredential f id) ⟨f, rfl⟩
    show (DeviceAnswer.finished (deleteCredentialById f ⟨some kv⟩ id).1,
      (deleteCredentialById f ⟨some kv⟩ id).2) = _
    unfold deleteCredentialById
    rw [call_some, hrun]
    cases r <;> rfl
  | deleteSandbox =>
    obtain ⟨r, t, hdelete, hdone⟩ := runs_bind_iff.1 h
    obtain ⟨rfl, rfl⟩ := runs_done_iff.1 hdone
    obtain ⟨f, hrun⟩ := deleteSandboxCredentials_covers hdelete
    apply hchange (.deleteSandbox f) ⟨f, rfl⟩
    show (DeviceAnswer.finished (deleteSandbox f ⟨some kv⟩).1, (deleteSandbox f ⟨some kv⟩).2) = _
    unfold deleteSandbox
    rw [call_some, hrun]
    cases r <;> rfl
  | updateCredentialNickname id nickname =>
    obtain ⟨r, t, hupdate, hdone⟩ := runs_bind_iff.1 h
    obtain ⟨rfl, rfl⟩ := runs_done_iff.1 hdone
    obtain ⟨f, hrun⟩ := updateCredentialNickname_covers X.toCrates id nickname hupdate
    apply hchange (.updateCredentialNickname f id nickname) ⟨f, rfl⟩
    show (DeviceAnswer.finished (updateCredentialNickname X.toCrates f ⟨some kv⟩ id nickname).1,
      (updateCredentialNickname X.toCrates f ⟨some kv⟩ id nickname).2) = _
    unfold updateCredentialNickname
    rw [call_some, hrun]
    cases r <;> rfl
  | cleanupExpiredCredentials clock =>
    obtain ⟨n, t, hcleanup, hdone⟩ := runs_bind_iff.1 h
    obtain ⟨rfl, rfl⟩ := runs_done_iff.1 hdone
    obtain ⟨f, fd, hrun⟩ := cleanupExpiredCredentials_covers clock (secretsApart_of_cleanKeys hkv)
      hcleanup
    apply hchange (.cleanupExpiredCredentials f clock fd) ⟨f, fd, rfl⟩
    show (DeviceAnswer.removed (cleanupExpiredCredentials f clock fd ⟨some kv⟩).1,
      (cleanupExpiredCredentials f clock fd ⟨some kv⟩).2) = _
    rw [hrun]
  | listCredentials clock =>
    obtain ⟨r, t, hlist, hdone⟩ := runs_bind_iff.1 h
    obtain ⟨rfl, rfl⟩ := runs_done_iff.1 hdone
    obtain ⟨rfl, f, hrun⟩ := listCredentials_covers clock (secretsApart_of_cleanKeys hkv) hlist
    refine ⟨.listCredentials f clock, ⟨f, rfl⟩, ?_, hkv⟩
    show (DeviceAnswer.listed (listCredentials f clock kv'), _) = _
    rw [hrun]
  | ageProofRequest env credentialId challengeId cached =>
    obtain ⟨r, t, hrequest, hdone⟩ := runs_bind_iff.1 h
    obtain ⟨rfl, rfl⟩ := runs_done_iff.1 hdone
    obtain ⟨rfl, get, load, hrun⟩ := ageProofRequest_covers X env credentialId challengeId cached
      hrequest
    refine ⟨.ageProofRequest { env with get, load } credentialId challengeId cached,
      ⟨get, load, rfl⟩, ?_, hkv⟩
    show (DeviceAnswer.request (ageProofRequest X { env with storage := ⟨some kv'⟩, get, load }
      credentialId challengeId cached), _) = _
    rw [hrun]

/-! ## §5. Runs on a backend -/

/-- A backend meets the storage contract: from related contents, a call
    that meets a condition is answered as the finite map answers it under
    some failures. -/
def MeetsContract {σ ι : Type} (step : σ → ι → Except WalletError Answer × σ)
    (request : ι → Request) (P : σ → ι → Prop) (R : Kv → σ → Prop) : Prop :=
  ∀ kv s i, R kv s → P s i → ∃ f : Faults,
    (perform kv (f, request i)).1 = (step s i).1 ∧ R (perform kv (f, request i)).2 (step s i).2

/-- **The property** of a run of operations on a backend: it is a run of
    the model, under some failures, with the same answers, and the
    contents stay related. -/
def RunsAsModel {σ : Type} (X : WalletCrates Params) (R : Kv → σ → Prop) (kv : Kv)
    (calls : List (DeviceCall Params)) (answers : List DeviceAnswer) (s' : σ) : Prop :=
  ∃ ops kv', List.Forall₂ DeviceCall.With calls ops ∧
    outputs (deviceStep X) ⟨some kv⟩ ops = answers ∧
    run (next (deviceStep X)) ⟨some kv⟩ ops = ⟨some kv'⟩ ∧ R kv' s' ∧ CleanKeys kv'

/-- **Runs on any backend that meets the contract** are runs of the
    model. -/
theorem runs_on_backend {σ ι : Type} {step : σ → ι → Except WalletError Answer × σ}
    {request : ι → Request} {P : σ → ι → Prop} {R : Kv → σ → Prop}
    (hbackend : MeetsContract step request P R) (X : WalletCrates Params)
    (calls : List (DeviceCall Params)) {kv : Kv} {s s' : σ} {answers : List DeviceAnswer}
    (h : R kv s) (hkv : CleanKeys kv)
    (hruns : Runs step request P (Client.each (deviceCalls X) calls) s answers s') :
    RunsAsModel X R kv calls answers s' := by
  have hfollow : ∀ kv s i, R kv s → P s i → ∃ j : Faults × Request, Prod.snd j = request i ∧
      (perform kv j).1 = (step s i).1 ∧ R (perform kv j).2 (step s i).2 := by
    intro kv s i hs hi
    obtain ⟨f, hanswer, hnext⟩ := hbackend kv s i hs hi
    exact ⟨(f, request i), rfl, hanswer, hnext⟩
  have hmodel : ∀ (m : Storage) kv call answer kv', m = ⟨some kv⟩ ∧ CleanKeys kv →
      OnContents (deviceCalls X call) kv answer kv' →
      ∃ op, call.With op ∧ (deviceStep X m op).1 = answer ∧
        (deviceStep X m op).2 = ⟨some kv'⟩ ∧ CleanKeys kv' := by
    intro m kv call answer kv' hm hcall
    obtain ⟨rfl, hclean⟩ := hm
    obtain ⟨op, hop, hstep, hclean⟩ := deviceCalls_covers X call hclean hcall
    exact ⟨op, hop, congrArg Prod.fst hstep, congrArg Prod.snd hstep, hclean⟩
  -- first the same run on the contents, then the run of the model
  obtain ⟨kv', hcontents, hrelated⟩ := runs_follow hfollow hruns h
  obtain ⟨ops, hops, houtputs, hrun, hclean⟩ :=
    outputs_of_runs_each (Q := fun (m : Storage) kv => m = ⟨some kv⟩ ∧ CleanKeys kv)
      (M := DeviceCall.With) hmodel ⟨rfl, hkv⟩ hcontents
  exact ⟨ops, kv', hops, houtputs, hrun, hrelated, hclean⟩

/-- **The wallet on Android runs as the model does.**  Any sequence of
    imports, deletions, sweeps, renamings, cleanups, listings and proof
    requests, each making its calls of the backend one by one with any
    answers of the JVM, the bridge, the prompt and the clock that meet the
    condition of the contract, returns what the model returns for the same
    calls under some failures of the store, and leaves what it leaves. -/
theorem android_runs_wallet (cfg : Android.StorageConfig) (X : WalletCrates Params)
    (calls : List (DeviceCall Params)) {kv : Kv} {s s' : Android.AndroidStorage}
    {answers : List DeviceAnswer} (h : Android.Refines cfg kv s) (hkv : CleanKeys kv)
    (hruns : Runs (Android.perform cfg) Android.Call.request Android.Faithful
      (Client.each (deviceCalls X) calls) s answers s') :
    RunsAsModel X (Android.Refines cfg) kv calls answers s' :=
  runs_on_backend (Android.follows_step cfg) X calls h hkv hruns

/-- A credential comes in, is listed, proves a challenge and is
    deleted. -/
def sampleDeviceCalls : List (DeviceCall Unit) :=
  [.importCall (.importCredential "a") none 1700000000, .listCredentials fun _ => 1700000000,
    .ageProofRequest (proofEnvAt sampleTime) openCredentialId openChallenge.challengeId
      (AList.singleton openChallenge.challengeId (entryOf sampleTime openChallenge)),
    .deleteCredential openCredentialId]

/-- No copy of a stored item is in the way. -/
def uncachedOnAndroid (s : Android.AndroidStorage) : Request → Bool
  | .store key _ _ => (s.operationCache.lookup key).isNone
  | _ => true

/-- Such a run on a fresh device. -/
theorem android_runs_wallet_sample :
    ∃ answers s', RunsAsModel openDocumentCrates (Android.Refines Android.sampleConfig) ∅
      sampleDeviceCalls answers s' := by
  refine ⟨_, _, android_runs_wallet Android.sampleConfig openDocumentCrates sampleDeviceCalls
    (Android.refines_empty Android.sampleConfig) cleanKeys_empty
    (runs_drive Android.Call.healthy (fun _ => rfl) uncachedOnAndroid ?_ _ _ ?_)⟩
  · intro s request hcheck
    cases request with
    | store key data bio =>
      intro _ e he
      have hnone : s.operationCache.lookup key = none := Option.isNone_iff_eq_none.1 hcheck
      rw [hnone] at he
      cases he
    | retrieve key bio => trivial
    | delete key =>
      intro _ hfalse
      cases hfalse
    | exists_ key =>
      intro _ _ hnull
      cases hnull
    | listKeys =>
      intro _ _ hnull
      cases hnull
  · decide +kernel

/-- **The wallet on iOS runs as the model does**, with any answers of the
    Keychain, attempt by attempt, that meet the condition. -/
theorem ios_runs_wallet (cfg : Ios.StorageConfig) (X : WalletCrates Params)
    (calls : List (DeviceCall Params)) {kv : Kv} {s s' : Ios.IosStorage}
    {answers : List DeviceAnswer} (h : Ios.Refines cfg kv s) (hkv : CleanKeys kv)
    (hruns : Runs (Ios.perform cfg) Ios.Call.request Ios.Faithful
      (Client.each (deviceCalls X) calls) s answers s') :
    RunsAsModel X (Ios.Refines cfg) kv calls answers s' :=
  runs_on_backend (Ios.follows_step cfg) X calls h hkv hruns

/-- No copy of a stored item is in the way. -/
def uncachedOnIos (s : Ios.IosStorage) : Request → Bool
  | .store key _ _ => (s.cache.lookup key).isNone
  | _ => true

/-- The same run there. -/
theorem ios_runs_wallet_sample :
    ∃ answers s', RunsAsModel openDocumentCrates (Ios.Refines Ios.developmentConfig) ∅
      sampleDeviceCalls answers s' := by
  refine ⟨_, _, ios_runs_wallet Ios.developmentConfig openDocumentCrates sampleDeviceCalls
    (Ios.refines_empty Ios.developmentConfig) cleanKeys_empty
    (runs_drive Ios.Call.healthy (fun _ => rfl) uncachedOnIos ?_ _ _ ?_)⟩
  · intro s request hcheck
    cases request with
    | store key data bio =>
      refine ⟨?_, fun _ _ e he => ?_⟩
      · -- the Keychain answers, so no overwrite is torn
        intro htorn
        have hattempt := htorn.2.2
        unfold Ios.BioOverwriteTorn at hattempt
        simp [Ios.SecCall.healthy, Ios.SecAnswers.healthy, Ios.Call.healthy] at hattempt
      · have hnone : s.cache.lookup key = none := Option.isNone_iff_eq_none.1 hcheck
        rw [hnone] at he
        cases he
    | retrieve key bio => trivial
    | delete key => trivial
    | exists_ key => trivial
    | listKeys =>
      intro hnull
      cases hnull
  · decide +kernel

end ProviiSdk.Wallet
