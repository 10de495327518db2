/-
  ProviiSdk.Wallet.ProverSetup — which proving key is loaded.

  The core's `init_prover_with_pk_bytes`, the wallet's
  `initialize_prover` and `sdk_init_prover` set the same write-once
  cells.  Each of them returns at once when the first cell is set,
  without a look at its bytes.  This file runs any sequence of such calls
  on any bytes.

  Main results:
    * `run_loads_first` — after any calls the cells hold the first key
      among their bytes.
    * `init_documented_iff` — every call does what is documented exactly
      when no call after the first key brings other bytes.
    * `other_key_accepted` — a second key and an empty string, both `Ok`.
-/

import ProviiSdk.Core.ProverInit
import ProviiSdk.Ffi.Types
import ProviiSdk.Lib.Run

namespace ProviiSdk.Wallet

open ProviiSdk.Core ProviiSdk.Ffi ProviiSdk.Run

variable {Params : Type}

/-! ## §1. The entry points -/

/-- The `Display` text of a prover error. -/
def proverErrorDisplay : ProverError → String
  | .notInitialized => "prover not initialised; call init_prover_with_pk_bytes first"
  | .alreadyInitialized => "prover already initialised"
  | .invalidProvingKey => "invalid proving key"
  | .invalidBase64 msg => "invalid base64url input: " ++ msg
  | .invalidInput msg => "invalid input: " ++ msg
  | .proofGenerationFailed msg => "proof generation failed: " ++ msg
  | .missingPrivateFields => "missing private fields in credential"
  | .vkIdMismatch loaded expected =>
    s!"vk_id mismatch: loaded {loaded.toNat}, expected {expected.toNat}"
  | .ageRequirementNotMet =>
    "Your credential doesn't meet the age requirement for this verification"
  | .credentialExpired => "credential has expired"
  | .challengeExpired => "challenge has expired"

/-- The core's result as it crosses the FFI. -/
def proverResult (r : Except ProverError Unit) : Except FfiError Unit :=
  r.mapError fun e => .prover (proverErrorDisplay e)

/-- The wallet's initialisation of the prover. -/
def initializeProver (X : KeyCrates Params) (cells : ProverState Params)
    (pkBytes : List UInt8) : Except FfiError Unit × ProverState Params :=
  (proverResult (initProverWithPkBytes X cells pkBytes).1,
    (initProverWithPkBytes X cells pkBytes).2)

/-- The exported function that needs no wallet. -/
def sdkInitProver (X : KeyCrates Params) (cells : ProverState Params)
    (pkBytes : List UInt8) : Except FfiError Unit × ProverState Params :=
  (proverResult (initProverWithPkBytes X cells pkBytes).1,
    (initProverWithPkBytes X cells pkBytes).2)

/-- An initialisation, by the function that is called. -/
inductive InitCall where
  | initProverWithPkBytes (pkBytes : List UInt8)
  | initializeProver (pkBytes : List UInt8)
  | sdkInitProver (pkBytes : List UInt8)

def InitCall.pkBytes : InitCall → List UInt8
  | .initProverWithPkBytes pkBytes => pkBytes
  | .initializeProver pkBytes => pkBytes
  | .sdkInitProver pkBytes => pkBytes

/-- What a caller gets: the core's result, or the FFI's. -/
inductive InitAnswer where
  | core (r : Except ProverError Unit)
  | ffi (r : Except FfiError Unit)

def InitAnswer.Succeeds : InitAnswer → Prop
  | .core r => r = .ok ()
  | .ffi r => r = .ok ()

def InitAnswer.FailsWith (e : ProverError) : InitAnswer → Prop
  | .core r => r = .error e
  | .ffi r => r = .error (.prover (proverErrorDisplay e))

/-- The answer of a call, and the cells it leaves. -/
def InitCall.perform (X : KeyCrates Params) (cells : ProverState Params) :
    InitCall → InitAnswer × ProverState Params
  | .initProverWithPkBytes pkBytes =>
    (.core (Core.initProverWithPkBytes X cells pkBytes).1,
      (Core.initProverWithPkBytes X cells pkBytes).2)
  | .initializeProver pkBytes =>
    (.ffi (Wallet.initializeProver X cells pkBytes).1,
      (Wallet.initializeProver X cells pkBytes).2)
  | .sdkInitProver pkBytes =>
    (.ffi (Wallet.sdkInitProver X cells pkBytes).1, (Wallet.sdkInitProver X cells pkBytes).2)

/-! ## §2. A sequence of calls -/

/-- The cells, and the bytes of the call that set the first one. -/
structure InitHistory (Params : Type) where
  cells : ProverState Params
  loaded : Option (List UInt8)

/-- A new process. -/
def initStart : InitHistory Params := { cells := .fresh, loaded := none }

/-- The history after one more call. -/
def initStep (X : KeyCrates Params) (s : InitHistory Params) (call : InitCall) :
    InitHistory Params :=
  let cells := (call.perform X s.cells).2
  { cells
    loaded :=
      if isProverInitialized s.cells then s.loaded
      else if isProverInitialized cells then some call.pkBytes
      else none }

/-- **What is documented** of a call: `Ok` says that the bytes are a key
    and that it is the loaded one; bytes that are no key, or not the ones
    that were loaded, are refused. -/
structure Documented (X : KeyCrates Params) (s : InitHistory Params) (call : InitCall) : Prop where
  loads : (call.perform X s.cells).1.Succeeds → ∃ key, loadKey X call.pkBytes = .ok key ∧
    getProvingKeyFingerprint (initStep X s call).cells = some key.fingerprint ∧
    getLoadedVkId (initStep X s call).cells = some key.vkId
  refuses : (X.loadProvingKey call.pkBytes = none ∨ ∃ pk, s.loaded = some pk ∧ pk ≠ call.pkBytes) →
    (call.perform X s.cells).1.FailsWith .invalidProvingKey ∨
      (call.perform X s.cells).1.FailsWith .alreadyInitialized

/-- The call brings the bytes that are loaded, if any are. -/
def SameKey (s : InitHistory Params) (call : InitCall) : Prop :=
  ∀ pk, s.loaded = some pk → call.pkBytes = pk

/-! ## §3. The entry points agree -/

theorem perform_cells (X : KeyCrates Params) (cells : ProverState Params) (call : InitCall) :
    (call.perform X cells).2 = (initProverWithPkBytes X cells call.pkBytes).2 := by
  cases call <;> rfl

/-- A caller gets `Ok` exactly when the core says so. -/
theorem perform_succeeds (X : KeyCrates Params) (cells : ProverState Params) (call : InitCall) :
    (call.perform X cells).1.Succeeds ↔
      (initProverWithPkBytes X cells call.pkBytes).1 = .ok () := by
  have hffi : ∀ r : Except ProverError Unit, proverResult r = .ok () ↔ r = .ok () := by
    intro r
    cases r with
    | error e => exact iff_of_false (fun h => by cases h) (fun h => by cases h)
    | ok u => exact iff_of_true rfl rfl
  cases call with
  | initProverWithPkBytes pkBytes => exact Iff.rfl
  | initializeProver pkBytes => exact hffi _
  | sdkInitProver pkBytes => exact hffi _

/-- A caller gets the core's error. -/
theorem perform_failsWith (X : KeyCrates Params) (cells : ProverState Params) (call : InitCall)
    {e : ProverError} (h : (initProverWithPkBytes X cells call.pkBytes).1 = .error e) :
    (call.perform X cells).1.FailsWith e := by
  have hffi : ∀ r : Except ProverError Unit, r = .error e →
      proverResult r = .error (.prover (proverErrorDisplay e)) := by
    rintro r rfl
    rfl
  cases call with
  | initProverWithPkBytes pkBytes => exact h
  | initializeProver pkBytes => exact hffi _ h
  | sdkInitProver pkBytes => exact hffi _ h

theorem not_failsWith_of_succeeds {answer : InitAnswer} (h : answer.Succeeds) (e : ProverError) :
    ¬ answer.FailsWith e := by
  cases answer with
  | core r =>
    intro hfails
    cases h.symm.trans hfails
  | ffi r =>
    intro hfails
    cases h.symm.trans hfails

/-! ## §4. What is loaded -/

/-- The cells of a new process, or those of the key of the loaded
    bytes. -/
inductive Loaded (X : KeyCrates Params) : InitHistory Params → Prop
  | fresh : Loaded X initStart
  | key {pkBytes : List UInt8} {key : LoadedKey Params} (h : loadKey X pkBytes = .ok key) :
    Loaded X { cells := key.cells, loaded := some pkBytes }

/-- The first call with a key. -/
theorem initStep_loads (X : KeyCrates Params) {call : InitCall} {key : LoadedKey Params}
    (h : loadKey X call.pkBytes = .ok key) :
    initStep X initStart call = { cells := key.cells, loaded := some call.pkBytes } := by
  unfold initStep
  rw [perform_cells]
  show InitHistory.mk (initProverWithPkBytes X .fresh call.pkBytes).2 _ = _
  simp only [initStart, initProverWithPkBytes_fresh X h]
  rfl

/-- A call with bytes that are no key, before any key. -/
theorem initStep_refused (X : KeyCrates Params) {call : InitCall} {e : ProverError}
    (h : loadKey X call.pkBytes = .error e) : initStep X initStart call = initStart := by
  unfold initStep
  rw [perform_cells]
  simp only [initStart, initProverWithPkBytes_refused X h]
  rfl

/-- A call once a key is loaded. -/
theorem initStep_again (X : KeyCrates Params) (key : LoadedKey Params) (pkBytes : List UInt8)
    (call : InitCall) :
    initStep X { cells := key.cells, loaded := some pkBytes } call =
      { cells := key.cells, loaded := some pkBytes } := by
  unfold initStep
  rw [perform_cells]
  simp only [initProverWithPkBytes_again X (rfl : isProverInitialized key.cells = true)]
  rfl

/-- **One call** keeps the cells those of the loaded bytes. -/
theorem loaded_step (X : KeyCrates Params) (s : InitHistory Params) (call : InitCall)
    (h : Loaded X s) : Loaded X (initStep X s call) := by
  cases h with
  | fresh =>
    cases hload : loadKey X call.pkBytes with
    | error e =>
      rw [initStep_refused X hload]
      exact .fresh
    | ok key =>
      rw [initStep_loads X hload]
      exact .key hload
  | key hload =>
    rw [initStep_again]
    exact .key hload

/-- The first bytes of the calls that are a key. -/
def firstKey (X : KeyCrates Params) (calls : List InitCall) : Option (List UInt8) :=
  (calls.map InitCall.pkBytes).find? fun pk => (X.loadProvingKey pk).isSome

/-- The loaded bytes after more calls: as they were, or the first key
    among the calls. -/
theorem run_loaded (X : KeyCrates Params) (calls : List InitCall) {s : InitHistory Params}
    (h : Loaded X s) : (run (initStep X) s calls).loaded = s.loaded.or (firstKey X calls) := by
  induction calls generalizing s with
  | nil => exact (Option.or_none).symm
  | cons call calls ih =>
    rw [run_cons, ih (loaded_step X s call h)]
    unfold firstKey
    rw [List.map_cons, List.find?_cons]
    cases h with
    | fresh =>
      cases hload : loadKey X call.pkBytes with
      | error e =>
        rw [initStep_refused X hload, ((loadKey_eq_error_iff X call.pkBytes e).1 hload).1]
        rfl
      | ok key =>
        have hkey : (X.loadProvingKey call.pkBytes).isSome = true := by
          unfold loadKey at hload
          cases hparams : X.loadProvingKey call.pkBytes with
          | none =>
            rw [hparams] at hload
            cases hload
          | some params => rfl
        rw [initStep_loads X hload, hkey]
        rfl
    | key hload =>
      rw [initStep_again]
      rfl

/-- **The first key stays**: after any calls the cells are those of the
    first bytes that are a key, and of a new process if there are none. -/
theorem run_loads_first (X : KeyCrates Params) (calls : List InitCall) :
    (firstKey X calls = none → (run (initStep X) initStart calls).cells = .fresh) ∧
    ∀ pk, firstKey X calls = some pk → ∃ key, loadKey X pk = .ok key ∧
      (run (initStep X) initStart calls).cells = key.cells := by
  have hloaded := run_loaded X calls (Loaded.fresh (X := X))
  have hinv : Loaded X (run (initStep X) initStart calls) :=
    (always_of_invariant (loaded_step X) calls .fresh).last
  generalize run (initStep X) initStart calls = s at hloaded hinv
  cases hinv with
  | fresh =>
    refine ⟨fun _ => rfl, fun pk hpk => ?_⟩
    rw [hpk] at hloaded
    cases hloaded
  | key hload =>
    constructor
    · intro hnone
      rw [hnone] at hloaded
      cases hloaded
    · intro pk hpk
      rw [hpk] at hloaded
      injection hloaded with hloaded
      exact ⟨_, hloaded ▸ hload, rfl⟩

/-! ## §5. The exact condition -/

/-- **One call** does what is documented exactly if its bytes are the
    loaded ones, or none are loaded. -/
theorem documented_iff (X : KeyCrates Params) (s : InitHistory Params) (call : InitCall)
    (h : Loaded X s) : Documented X s call ↔ SameKey s call := by
  cases h with
  | fresh =>
    refine iff_of_true ?_ fun pk hpk => ?_
    · cases hload : loadKey X call.pkBytes with
      | error e =>
        have hresult := initProverWithPkBytes_refused X hload
        obtain ⟨hnone, rfl⟩ := (loadKey_eq_error_iff X call.pkBytes e).1 hload
        have hfails := perform_failsWith X .fresh call (congrArg Prod.fst hresult)
        exact ⟨fun hok => absurd hfails (not_failsWith_of_succeeds hok _), fun _ => Or.inl hfails⟩
      | ok key =>
        refine ⟨fun _ => ⟨key, hload, ?_, ?_⟩, ?_⟩
        · rw [initStep_loads X hload]
          rfl
        · rw [initStep_loads X hload]
          rfl
        · rintro (hnone | ⟨pk, hpk, -⟩)
          · rw [(loadKey_eq_error_iff X call.pkBytes _).2 ⟨hnone, rfl⟩] at hload
            cases hload
          · cases hpk
    · cases hpk
  | @key pkBytes key hload =>
    have hok : (call.perform X key.cells).1.Succeeds := by
      rw [perform_succeeds, initProverWithPkBytes_again X rfl]
    constructor
    · intro hdoc pk hpk
      by_contra hne
      rcases hdoc.refuses (Or.inr ⟨pk, hpk, fun heq => hne heq.symm⟩) with hfails | hfails
      · exact not_failsWith_of_succeeds hok _ hfails
      · exact not_failsWith_of_succeeds hok _ hfails
    · intro hsame
      have hbytes : call.pkBytes = pkBytes := hsame pkBytes rfl
      constructor
      · intro _
        rw [hbytes, initStep_again]
        exact ⟨key, hload, rfl, rfl⟩
      · rintro (hnone | ⟨pk, hpk, hne⟩)
        · rw [← hbytes, (loadKey_eq_error_iff X call.pkBytes _).2 ⟨hnone, rfl⟩] at hload
          cases hload
        · exact absurd (hsame pk hpk).symm hne

/-- **Initialised with a key, exactly.**  In any sequence of calls, from
    any of the entry points and with any bytes, every call does what is
    documented if and only if no call after the first key brings bytes
    other than that key's. -/
theorem init_documented_iff (X : KeyCrates Params) (calls : List InitCall) :
    StepsMeet (initStep X) (Documented X) initStart calls ↔
      StepsMeet (initStep X) SameKey initStart calls :=
  stepsMeet_iff (loaded_step X) (documented_iff X) .fresh

/-- Functions for which the keys are the strings of one byte, and the
    hash of a string repeats its last byte. -/
def oneByteKeys : KeyCrates UInt8 :=
  { sampleCrates with
    blake3 := fun bytes => List.replicate 32 (bytes.getLastD 0)
    blake2s256 := fun bytes => ⟨List.replicate 32 (bytes.getLastD 0), List.length_replicate⟩
    loadProvingKey := fun pkBytes => if pkBytes.length = 1 then pkBytes.head? else none
    writeVk := fun params => [params] }

/-- **Another key is accepted**: the core loads a key, the wallet then
    says `Ok` to a second key and to no bytes at all, and the fingerprint
    and the key id are still those of the first. -/
theorem other_key_accepted :
    ((InitCall.initializeProver [2]).perform oneByteKeys
        (run (initStep oneByteKeys) initStart [.initProverWithPkBytes [1]]).cells).1.Succeeds ∧
    ((InitCall.initializeProver []).perform oneByteKeys
        (run (initStep oneByteKeys) initStart [.initProverWithPkBytes [1]]).cells).1.Succeeds ∧
    getLoadedVkId (run (initStep oneByteKeys) initStart
      [.initProverWithPkBytes [1], .initializeProver [2]]).cells = some 16843009 ∧
    computeVkId oneByteKeys 2 = 33686018 ∧
    ¬ StepsMeet (initStep oneByteKeys) (Documented oneByteKeys) initStart
      [.initProverWithPkBytes [1], .initializeProver [2]] ∧
    ¬ StepsMeet (initStep oneByteKeys) (Documented oneByteKeys) initStart
      [.initProverWithPkBytes [1], .initializeProver []] := by
  have hok : ∀ pkBytes, ((InitCall.initializeProver pkBytes).perform oneByteKeys
      (initStep oneByteKeys initStart (.initProverWithPkBytes [1])).cells).1.Succeeds :=
    fun _ => rfl
  refine ⟨hok [2], hok [], by decide +kernel, by decide +kernel, fun h => ?_, fun h => ?_⟩
  · rcases h.2.1.refuses (Or.inr ⟨[1], rfl, by decide⟩) with hfails | hfails
    · exact not_failsWith_of_succeeds (hok [2]) _ hfails
    · exact not_failsWith_of_succeeds (hok [2]) _ hfails
  · rcases h.2.1.refuses (Or.inl rfl) with hfails | hfails
    · exact not_failsWith_of_succeeds (hok []) _ hfails
    · exact not_failsWith_of_succeeds (hok []) _ hfails

end ProviiSdk.Wallet
