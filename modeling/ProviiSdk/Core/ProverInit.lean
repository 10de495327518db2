/-
  ProviiSdk.Core.ProverInit — initialising the prover.

  An initialisation publishes three write-once cells one after another:
  the proving parameters, the fingerprint of the key bytes, and the
  verifying key id.  The early exit of a second initialisation and
  `is_prover_initialized` look at the first cell only.  This file runs any
  number of initialisations and observers in any interleaving; an atomic
  step reads or sets one cell.

  Main results:
    * `advance_solo` — the steps of a call that nothing interrupts are
      the function as written.
    * `inv_step` — in every interleaving one call publishes, and the
      cells hold what it has published so far.
    * `complete_when_reported_iff` — everything that is reported as
      initialised is complete exactly when no report is taken while a
      key is being published.
    * `reported_before_complete` — two schedules with a report too early.
-/

import ProviiSdk.Core.Prover
import ProviiSdk.Core.Sample
import ProviiSdk.Lib.Threads

namespace ProviiSdk.Core

open ProviiSdk.Run ProviiSdk.Threads

variable {Params : Type}

/-! ## §1. The initialisation as written -/

/-- The external functions of an initialisation. -/
structure KeyCrates (Params : Type) extends Crates where
  blake3 : List UInt8 → List UInt8
  blake2s256 : List UInt8 → Bytes32
  loadProvingKey : List UInt8 → Option Params
  writeVk : Params → List UInt8

/-- The domain separator of a verifying key id. -/
def vkIdDst : List UInt8 := "provii.vk.id.v0".toUTF8.toList

/-- A `u32` from four bytes, the lowest first. -/
def uint32OfLeBytes (b0 b1 b2 b3 : UInt8) : UInt32 :=
  b0.toUInt32 ||| b1.toUInt32 <<< 8 ||| b2.toUInt32 <<< 16 ||| b3.toUInt32 <<< 24

/-- The first four bytes of the hash of a serialised verifying key. -/
def vkIdFromVkBytes (X : KeyCrates Params) (vkBytes : List UInt8) : UInt32 :=
  let digest := X.blake2s256 (vkIdDst ++ vkBytes)
  uint32OfLeBytes (digest.get 0) (digest.get 1) (digest.get 2) (digest.get 3)

/-- The verifying key identifier of the parameters. -/
def computeVkId (X : KeyCrates Params) (params : Params) : UInt32 :=
  vkIdFromVkBytes X (X.writeVk params)

/-- What an initialisation computes from the key bytes before it
    publishes anything. -/
structure LoadedKey (Params : Type) where
  params : Params
  fingerprint : String
  vkId : UInt32

/-- The part of `init_prover_with_pk_bytes` between the early exit and
    the first cell. -/
def loadKey (X : KeyCrates Params) (pkBytes : List UInt8) :
    Except ProverError (LoadedKey Params) :=
  let fingerprint := X.encodeB64 ((X.blake3 pkBytes).take 16)
  match X.loadProvingKey pkBytes with
  | none => .error .invalidProvingKey
  | some params => .ok { params, fingerprint, vkId := computeVkId X params }

/-- The fingerprint of the loaded key bytes. -/
def getProvingKeyFingerprint (cells : ProverState Params) : Option String := cells.provingKeyFp

/-- The identifier of the loaded verifying key. -/
def getLoadedVkId (cells : ProverState Params) : Option UInt32 := cells.loadedVkId

/-- Is the prover initialised?  Only the first cell is looked at. -/
def isProverInitialized (cells : ProverState Params) : Bool := cells.provingParams.isSome

/-- Set a write-once cell. -/
def setOnce {α : Type} (cell : Option α) (a : α) : Except ProverError (Option α) :=
  match cell with
  | none => .ok (some a)
  | some _ => .error .alreadyInitialized

/-- Initialise the prover, with nothing in between. -/
def initProverWithPkBytes (X : KeyCrates Params) (cells : ProverState Params)
    (pkBytes : List UInt8) : Except ProverError Unit × ProverState Params :=
  if isProverInitialized cells then (.ok (), cells)
  else
    match loadKey X pkBytes with
    | .error e => (.error e, cells)
    | .ok key =>
      match setOnce cells.provingParams key.params with
      | .error e => (.error e, cells)
      | .ok provingParams =>
        let cells := { cells with provingParams }
        match setOnce cells.provingKeyFp key.fingerprint with
        | .error e => (.error e, cells)
        | .ok provingKeyFp =>
          let cells := { cells with provingKeyFp }
          match setOnce cells.loadedVkId key.vkId with
          | .error e => (.error e, cells)
          | .ok loadedVkId => (.ok (), { cells with loadedVkId })

/-! ## §2. The initialisation in steps -/

/-- How far an initialisation has come. -/
inductive InitStage (Params : Type) where
  | start
  | loading
  | setParams (key : LoadedKey Params)
  | setFp (key : LoadedKey Params)
  | setVkId (key : LoadedKey Params)
  | returned (result : Except ProverError Unit)

/-- A call of the prover's interface: an initialisation, or an observer
    that asks `is_prover_initialized` and then `get_loaded_vk_id`. -/
inductive Call where
  | init (pkBytes : List UInt8)
  | observe
  deriving DecidableEq

/-- A thread: a call and how far it has come. -/
inductive Caller (Params : Type) where
  | init (pkBytes : List UInt8) (stage : InitStage Params)
  | asking
  | askedInit (initialized : Bool)
  | asked (initialized : Bool) (vkId : Option UInt32)

/-- The call a thread makes. -/
def Caller.call : Caller Params → Call
  | .init pkBytes _ => .init pkBytes
  | _ => .observe

/-- A thread before its first step. -/
def Call.caller : Call → Caller Params
  | .init pkBytes => .init pkBytes .start
  | .observe => .asking

/-- The next step of an initialisation. -/
def advanceInit (X : KeyCrates Params) (cells : ProverState Params) (pkBytes : List UInt8) :
    InitStage Params → ProverState Params × InitStage Params
  | .start => (cells, if isProverInitialized cells then .returned (.ok ()) else .loading)
  | .loading =>
    match loadKey X pkBytes with
    | .error e => (cells, .returned (.error e))
    | .ok key => (cells, .setParams key)
  | .setParams key =>
    match setOnce cells.provingParams key.params with
    | .error e => (cells, .returned (.error e))
    | .ok provingParams => ({ cells with provingParams }, .setFp key)
  | .setFp key =>
    match setOnce cells.provingKeyFp key.fingerprint with
    | .error e => (cells, .returned (.error e))
    | .ok provingKeyFp => ({ cells with provingKeyFp }, .setVkId key)
  | .setVkId key =>
    match setOnce cells.loadedVkId key.vkId with
    | .error e => (cells, .returned (.error e))
    | .ok loadedVkId => ({ cells with loadedVkId }, .returned (.ok ()))
  | .returned result => (cells, .returned result)

/-- The next step of a thread. -/
def advance (X : KeyCrates Params) (cells : ProverState Params) :
    Caller Params → ProverState Params × Caller Params
  | .init pkBytes stage =>
    ((advanceInit X cells pkBytes stage).1, .init pkBytes (advanceInit X cells pkBytes stage).2)
  | .asking => (cells, .askedInit (isProverInitialized cells))
  | .askedInit initialized => (cells, .asked initialized (getLoadedVkId cells))
  | .asked initialized vkId => (cells, .asked initialized vkId)

/-- The cells of a new process. -/
def ProverState.fresh : ProverState Params :=
  { provingParams := none, provingKeyFp := none, loadedVkId := none }

variable {ι : Type} [DecidableEq ι]

/-- A new process in which every thread is about to make its call. -/
def startState (calls : ι → Call) : System ι (ProverState Params) (Caller Params) :=
  { shared := .fresh, thread := fun i => (calls i).caller }

/-- **The steps are the function**: the five steps of an initialisation
    that nothing interrupts are `init_prover_with_pk_bytes` as written. -/
theorem advance_solo (X : KeyCrates Params) (cells : ProverState Params) (pkBytes : List UInt8) :
    (soloTick (advance X))^[5] (cells, .init pkBytes .start) =
      ((initProverWithPkBytes X cells pkBytes).2,
        .init pkBytes (.returned (initProverWithPkBytes X cells pkBytes).1)) := by
  unfold initProverWithPkBytes
  obtain ⟨_ | params, fingerprint, vkId⟩ := cells
  · -- the first cell is empty: the call loads its key
    show (soloTick (advance X))^[4] (⟨none, fingerprint, vkId⟩, .init pkBytes .loading) = _
    rw [Function.iterate_succ_apply]
    cases hload : loadKey X pkBytes with
    | error e =>
      have hnext : soloTick (advance X) (⟨none, fingerprint, vkId⟩, .init pkBytes .loading) =
          (⟨none, fingerprint, vkId⟩, .init pkBytes (.returned (.error e))) := by
        simp only [soloTick, advance, advanceInit, hload]
      rw [hnext]
      rfl
    | ok key =>
      have hnext : soloTick (advance X) (⟨none, fingerprint, vkId⟩, .init pkBytes .loading) =
          (⟨none, fingerprint, vkId⟩, .init pkBytes (.setParams key)) := by
        simp only [soloTick, advance, advanceInit, hload]
      rw [hnext]
      -- the cells behind the first may be taken already
      cases fingerprint <;> cases vkId <;> rfl
  · rfl

/-- An initialisation scheduled alone. -/
theorem run_init_alone (X : KeyCrates Params)
    (s : System ι (ProverState Params) (Caller Params)) (i : ι) (pkBytes : List UInt8)
    (hi : s.thread i = .init pkBytes .start) :
    run (step (advance X)) s (List.replicate 5 i) =
      { shared := (initProverWithPkBytes X s.shared pkBytes).2
        thread := Function.update s.thread i
          (.init pkBytes (.returned (initProverWithPkBytes X s.shared pkBytes).1)) } := by
  rw [run_replicate, hi, advance_solo]

/-! ## §3. One call publishes -/

/-- The cells once a key is published. -/
def LoadedKey.cells (key : LoadedKey Params) : ProverState Params :=
  { provingParams := some key.params, provingKeyFp := some key.fingerprint,
    loadedVkId := some key.vkId }

/-- A second initialisation returns at once. -/
theorem initProverWithPkBytes_again (X : KeyCrates Params) {cells : ProverState Params}
    (h : isProverInitialized cells = true) (pkBytes : List UInt8) :
    initProverWithPkBytes X cells pkBytes = (.ok (), cells) := by
  unfold initProverWithPkBytes
  rw [if_pos h]

/-- The first initialisation with a key publishes it. -/
theorem initProverWithPkBytes_fresh (X : KeyCrates Params) {pkBytes : List UInt8}
    {key : LoadedKey Params} (h : loadKey X pkBytes = .ok key) :
    initProverWithPkBytes X .fresh pkBytes = (.ok (), key.cells) := by
  unfold initProverWithPkBytes
  rw [h]
  rfl

/-- Bytes that are no key change nothing. -/
theorem initProverWithPkBytes_refused (X : KeyCrates Params) {pkBytes : List UInt8}
    {e : ProverError} (h : loadKey X pkBytes = .error e) :
    initProverWithPkBytes X .fresh pkBytes = (.error e, .fresh) := by
  unfold initProverWithPkBytes
  rw [h]
  rfl

/-- Bytes are refused exactly when they cannot be deserialised. -/
theorem loadKey_eq_error_iff (X : KeyCrates Params) (pkBytes : List UInt8) (e : ProverError) :
    loadKey X pkBytes = .error e ↔ X.loadProvingKey pkBytes = none ∧ e = .invalidProvingKey := by
  unfold loadKey
  cases X.loadProvingKey pkBytes with
  | none =>
    constructor
    · intro h
      injection h with h
      exact ⟨rfl, h.symm⟩
    · rintro ⟨-, rfl⟩
      rfl
  | some params =>
    constructor
    · intro h
      cases h
    · rintro ⟨h, -⟩
      cases h

/-- What the call that won the first cell has published at each of its
    stages from there on. -/
inductive Published (key : LoadedKey Params) : InitStage Params → ProverState Params → Prop
  | params : Published key (.setFp key) ⟨some key.params, none, none⟩
  | fingerprint : Published key (.setVkId key) ⟨some key.params, some key.fingerprint, none⟩
  | vkId : Published key (.returned (.ok ())) key.cells

/-- Is the thread between its first and its last cell? -/
def Caller.publishing : Caller Params → Bool
  | .init _ (.setFp _) => true
  | .init _ (.setVkId _) => true
  | _ => false

/-- How far the publication has come: nothing is set and nobody
    publishes, or one call has published what it has, and nobody else
    publishes. -/
inductive Progress (X : KeyCrates Params) (s : System ι (ProverState Params) (Caller Params)) :
    Prop where
  | unset (hcells : s.shared = .fresh) (hidle : ∀ j, (s.thread j).publishing = false)
  | winner (w : ι) (pkBytes : List UInt8) (stage : InitStage Params) (key : LoadedKey Params)
      (hthread : s.thread w = .init pkBytes stage) (hload : loadKey X pkBytes = .ok key)
      (hpub : Published key stage s.shared)
      (hothers : ∀ j, j ≠ w → (s.thread j).publishing = false)

/-- **The invariant**: the threads make the calls they were started with,
    a loaded key is the one of its bytes, an observer that was told so
    found the first cell set, and one call at most publishes. -/
structure Inv (X : KeyCrates Params) (calls : ι → Call)
    (s : System ι (ProverState Params) (Caller Params)) : Prop where
  calls : ∀ j, (s.thread j).call = calls j
  loaded : ∀ j pkBytes key,
    s.thread j = .init pkBytes (.setParams key) → loadKey X pkBytes = .ok key
  told : ∀ j, s.thread j = .askedInit true → isProverInitialized s.shared = true
  progress : Progress X s

omit [DecidableEq ι] in
theorem inv_startState (X : KeyCrates Params) (calls : ι → Call) :
    Inv X calls (startState calls) := by
  have hcaller : ∀ c : Call, (c.caller : Caller Params).call = c ∧
      (c.caller : Caller Params).publishing = false := by
    intro c
    cases c with
    | init pkBytes => exact ⟨rfl, rfl⟩
    | observe => exact ⟨rfl, rfl⟩
  refine ⟨fun j => (hcaller (calls j)).1, fun j pkBytes key h => ?_, fun j h => ?_,
    .unset rfl fun j => (hcaller (calls j)).2⟩
  · replace h : (calls j).caller = .init pkBytes (.setParams key) := h
    cases hcall : calls j with
    | init pk =>
      rw [hcall] at h
      cases h
    | observe =>
      rw [hcall] at h
      cases h
  · replace h : (calls j).caller = .askedInit true := h
    cases hcall : calls j with
    | init pk =>
      rw [hcall] at h
      cases h
    | observe =>
      rw [hcall] at h
      cases h

/-- Loading a key leaves the cells alone and ends with the key or its
    error. -/
theorem advanceInit_loading (X : KeyCrates Params) (cells : ProverState Params)
    (pkBytes : List UInt8) :
    (∃ e, advanceInit X cells pkBytes .loading = (cells, .returned (.error e))) ∨
      ∃ key, loadKey X pkBytes = .ok key ∧
        advanceInit X cells pkBytes .loading = (cells, .setParams key) := by
  unfold advanceInit
  cases loadKey X pkBytes with
  | error e => exact Or.inl ⟨e, rfl⟩
  | ok key => exact Or.inr ⟨key, rfl, rfl⟩

/-- A thread keeps its call. -/
theorem advance_call (X : KeyCrates Params) (cells : ProverState Params) (t : Caller Params) :
    (advance X cells t).2.call = t.call := by
  cases t with
  | init pkBytes stage => rfl
  | asking => rfl
  | askedInit initialized => rfl
  | asked initialized vkId => rfl

/-- The first cell stays set. -/
theorem advance_initialized (X : KeyCrates Params) (cells : ProverState Params)
    (t : Caller Params) (h : isProverInitialized cells = true) :
    isProverInitialized (advance X cells t).1 = true := by
  obtain ⟨_ | params, fingerprint, vkId⟩ := cells
  · cases h
  cases t with
  | asking => rfl
  | askedInit initialized => rfl
  | asked initialized vkId => rfl
  | init pkBytes stage =>
    cases stage with
    | start => rfl
    | loading =>
      show isProverInitialized (advanceInit X _ pkBytes .loading).1 = true
      rcases advanceInit_loading X ⟨some params, fingerprint, vkId⟩ pkBytes with ⟨e, h⟩ | ⟨key, -, h⟩
      · rw [h]
        rfl
      · rw [h]
        rfl
    | setParams key => rfl
    | setFp key => cases fingerprint <;> rfl
    | setVkId key => cases vkId <;> rfl
    | returned result => rfl

/-- A thread that does not publish, and does not win the first cell,
    leaves the cells alone and does not publish afterwards. -/
theorem advance_of_idle (X : KeyCrates Params) (cells : ProverState Params) (t : Caller Params)
    (hidle : t.publishing = false)
    (hlost : isProverInitialized cells = true ∨ ∀ pkBytes key, t ≠ .init pkBytes (.setParams key)) :
    (advance X cells t).1 = cells ∧ (advance X cells t).2.publishing = false := by
  cases t with
  | asking => exact ⟨rfl, rfl⟩
  | askedInit initialized => exact ⟨rfl, rfl⟩
  | asked initialized vkId => exact ⟨rfl, rfl⟩
  | init pkBytes stage =>
    cases stage with
    | start =>
      refine ⟨rfl, ?_⟩
      obtain ⟨params, fingerprint, vkId⟩ := cells
      cases params <;> rfl
    | loading =>
      show (advanceInit X cells pkBytes .loading).1 = cells ∧
        Caller.publishing (.init pkBytes (advanceInit X cells pkBytes .loading).2) = false
      rcases advanceInit_loading X cells pkBytes with ⟨e, h⟩ | ⟨key, -, h⟩
      · rw [h]
        exact ⟨rfl, rfl⟩
      · rw [h]
        exact ⟨rfl, rfl⟩
    | setParams key =>
      obtain ⟨_ | params, fingerprint, vkId⟩ := cells
      · rcases hlost with h | h
        · cases h
        · exact absurd rfl (h pkBytes key)
      · exact ⟨rfl, rfl⟩
    | setFp key => cases hidle
    | setVkId key => cases hidle
    | returned result => exact ⟨rfl, rfl⟩

/-- The call that publishes goes on publishing the same key. -/
theorem published_advance (X : KeyCrates Params) (pkBytes : List UInt8) {key : LoadedKey Params}
    {stage : InitStage Params} {cells : ProverState Params} (h : Published key stage cells) :
    Published key (advanceInit X cells pkBytes stage).2 (advanceInit X cells pkBytes stage).1 := by
  cases h with
  | params => exact .fingerprint
  | fingerprint => exact .vkId
  | vkId => exact .vkId

theorem Published.initialized {key : LoadedKey Params} {stage : InitStage Params}
    {cells : ProverState Params} (h : Published key stage cells) :
    isProverInitialized cells = true := by
  cases h <;> rfl

/-- A step keeps the progress of the publication. -/
theorem progress_step (X : KeyCrates Params) {calls : ι → Call}
    {s : System ι (ProverState Params) (Caller Params)} (hs : Inv X calls s) (i : ι) :
    Progress X (step (advance X) s i) := by
  cases hs.progress with
  | unset hcells hidle =>
    by_cases hwin : ∃ pkBytes key, s.thread i = .init pkBytes (.setParams key)
    · -- thread `i` sets the first cell
      obtain ⟨pkBytes, key, hi⟩ := hwin
      refine .winner i pkBytes (.setFp key) key ?_ (hs.loaded i pkBytes key hi) ?_ fun j hj => ?_
      · rw [step_thread_self, hi, hcells]
        rfl
      · rw [step_shared, hi, hcells]
        exact .params
      · rw [step_thread_of_ne _ _ _ hj]
        exact hidle j
    · have hlost : ∀ pkBytes key, s.thread i ≠ .init pkBytes (.setParams key) :=
        fun pkBytes key h => hwin ⟨pkBytes, key, h⟩
      obtain ⟨hsame, hquiet⟩ := advance_of_idle X s.shared (s.thread i) (hidle i) (Or.inr hlost)
      refine .unset (hsame.trans hcells) ?_
      exact (forall_step_iff _ s i fun _ t => t.publishing = false).mpr
        ⟨hquiet, fun j _ => hidle j⟩
  | winner w pkBytes stage key hthread hload hpub hothers =>
    by_cases hi : i = w
    · subst hi
      refine .winner i pkBytes (advanceInit X s.shared pkBytes stage).2 key ?_ hload ?_
        fun j hj => ?_
      · rw [step_thread_self, hthread]
        rfl
      · rw [step_shared, hthread]
        exact published_advance X pkBytes hpub
      · rw [step_thread_of_ne _ _ _ hj]
        exact hothers j hj
    · obtain ⟨hsame, hquiet⟩ := advance_of_idle X s.shared (s.thread i) (hothers i hi)
        (Or.inl hpub.initialized)
      refine .winner w pkBytes stage key ?_ hload ?_ ?_
      · rw [step_thread_of_ne _ _ _ (Ne.symm hi)]
        exact hthread
      · rw [step_shared, hsame]
        exact hpub
      · exact (forall_step_iff _ s i fun j t => j ≠ w → t.publishing = false).mpr
          ⟨fun _ => hquiet, fun j _ => hothers j⟩

/-- A thread is about to set the first cell only with the key that its
    bytes load. -/
theorem loaded_advance (X : KeyCrates Params) (cells : ProverState Params) (t : Caller Params)
    {pkBytes : List UInt8} {key : LoadedKey Params}
    (h : (advance X cells t).2 = .init pkBytes (.setParams key)) :
    loadKey X pkBytes = .ok key := by
  cases t with
  | asking => cases h
  | askedInit initialized => cases h
  | asked initialized vkId => cases h
  | init pk stage =>
    obtain ⟨params, fingerprint, vkId⟩ := cells
    cases stage with
    | start => cases params <;> cases h
    | loading =>
      replace h : Caller.init pk (advanceInit X ⟨params, fingerprint, vkId⟩ pk .loading).2 = _ := h
      rcases advanceInit_loading X ⟨params, fingerprint, vkId⟩ pk with ⟨e, he⟩ | ⟨key', hload, hk⟩
      · rw [he] at h
        cases h
      · rw [hk] at h
        injection h with hpk hkey
        injection hkey with hkey
        rw [← hpk, ← hkey]
        exact hload
    | setParams key => cases params <;> cases h
    | setFp key => cases fingerprint <;> cases h
    | setVkId key => cases vkId <;> cases h
    | returned result => cases h

/-- An observer is told `true` only when the first cell is set. -/
theorem told_advance (X : KeyCrates Params) (cells : ProverState Params) (t : Caller Params)
    (h : (advance X cells t).2 = .askedInit true) : isProverInitialized cells = true := by
  cases t with
  | asking =>
    injection h
  | askedInit initialized => cases h
  | asked initialized vkId => cases h
  | init pk stage => cases h

/-- **Invariant step**: every step of every thread keeps the invariant. -/
theorem inv_step (X : KeyCrates Params) (calls : ι → Call)
    (s : System ι (ProverState Params) (Caller Params)) (i : ι) (hs : Inv X calls s) :
    Inv X calls (step (advance X) s i) := by
  refine ⟨?_, ?_, ?_, progress_step X hs i⟩
  · apply (forall_step_iff (advance X) s i fun j t => t.call = calls j).mpr
    exact ⟨(advance_call X s.shared (s.thread i)).trans (hs.calls i), fun j _ => hs.calls j⟩
  · apply (forall_step_iff (advance X) s i fun _ t => ∀ pkBytes key,
      t = .init pkBytes (.setParams key) → loadKey X pkBytes = .ok key).mpr
    refine ⟨fun pkBytes key h => ?_, fun j _ => hs.loaded j⟩
    exact loaded_advance X s.shared (s.thread i) h
  · apply (forall_step_iff (advance X) s i fun _ t =>
      t = .askedInit true → isProverInitialized (step (advance X) s i).shared = true).mpr
    refine ⟨fun h => ?_, fun j _ h => ?_⟩
    · exact advance_initialized X s.shared _ (told_advance X s.shared (s.thread i) h)
    · exact advance_initialized X s.shared _ (hs.told j h)

/-! ## §4. What is reported as initialised -/

/-- The cells are all set, from the key bytes of one of the calls. -/
def Complete (X : KeyCrates Params) (calls : ι → Call) (cells : ProverState Params) : Prop :=
  ∃ w pkBytes key, calls w = .init pkBytes ∧ loadKey X pkBytes = .ok key ∧ cells = key.cells

/-- What a thread reports is so: the cells are complete once it has
    returned `Ok`, and an observer that was told the prover is initialised
    gets a verifying key id. -/
def Reports (X : KeyCrates Params) (calls : ι → Call) (cells : ProverState Params) :
    Caller Params → Prop
  | .init _ (.returned (.ok ())) => Complete X calls cells
  | .asked true vkId => vkId.isSome = true
  | _ => True

/-- **The property**: what any thread reports is so. -/
def ReportsComplete (X : KeyCrates Params) (calls : ι → Call)
    (s : System ι (ProverState Params) (Caller Params)) : Prop :=
  ∀ i, Reports X calls s.shared (s.thread i)

/-- Is the thread about to rely on the first cell for all three: at the
    early exit, or at the question for the key id after the answer
    `true`? -/
def Caller.relies : Caller Params → Bool
  | .init _ .start => true
  | .askedInit true => true
  | _ => false

/-- The condition on a step: a thread that is about to rely on the first
    cell takes its step while no call is between its first and its last
    cell. -/
def NotWhilePublishing (s : System ι (ProverState Params) (Caller Params)) (i : ι) : Prop :=
  (s.thread i).relies = true → ∀ j, (s.thread j).publishing = false

variable {X : KeyCrates Params} {calls : ι → Call}
  {s : System ι (ProverState Params) (Caller Params)}

omit [DecidableEq ι] in
/-- Complete cells never change. -/
theorem advance_of_complete {cells : ProverState Params} (h : Complete X calls cells)
    (t : Caller Params) : (advance X cells t).1 = cells := by
  obtain ⟨w, pkBytes, key, -, -, rfl⟩ := h
  cases t with
  | asking => rfl
  | askedInit initialized => rfl
  | asked initialized vkId => rfl
  | init pk stage =>
    cases stage with
    | start => rfl
    | loading =>
      show (advanceInit X key.cells pk .loading).1 = key.cells
      rcases advanceInit_loading X key.cells pk with ⟨e, h⟩ | ⟨key', -, h⟩
      · rw [h]
      · rw [h]
    | setParams key' => rfl
    | setFp key' => rfl
    | setVkId key' => rfl
    | returned result => rfl

omit [DecidableEq ι] in
/-- Nobody publishes before the first cell is set. -/
theorem idle_of_not_initialized (hs : Inv X calls s) (h : isProverInitialized s.shared = false)
    (j : ι) : (s.thread j).publishing = false := by
  cases hs.progress with
  | unset hcells hidle => exact hidle j
  | winner w pkBytes stage key hthread hload hpub hothers =>
    rw [hpub.initialized] at h
    cases h

/-- With the first cell set, the cells are complete, and the key id is
    set, exactly when nobody is publishing. -/
theorem idle_iff (hs : Inv X calls s) (h : isProverInitialized s.shared = true) :
    ((∀ j, (s.thread j).publishing = false) ↔ Complete X calls s.shared) ∧
      ((∀ j, (s.thread j).publishing = false) ↔ (getLoadedVkId s.shared).isSome = true) := by
  cases hs.progress with
  | unset hcells hidle =>
    rw [hcells] at h
    cases h
  | winner w pkBytes stage key hthread hload hpub hothers =>
    -- a winner between its cells contradicts all three
    have hbetween : (s.thread w).publishing = true → (getLoadedVkId s.shared) = none →
        ((∀ j, (s.thread j).publishing = false) ↔ Complete X calls s.shared) ∧
          ((∀ j, (s.thread j).publishing = false) ↔ (getLoadedVkId s.shared).isSome = true) := by
      intro hbusy hnone
      have hnot : ¬ ∀ j, (s.thread j).publishing = false := by
        intro hidle
        rw [hidle w] at hbusy
        cases hbusy
      refine ⟨iff_of_false hnot ?_, iff_of_false hnot ?_⟩
      · rintro ⟨w', pk', key', -, -, hcells⟩
        rw [hcells] at hnone
        cases hnone
      · rw [hnone]
        exact Bool.false_ne_true
    generalize hcells : s.shared = cells at hpub hbetween ⊢
    cases hpub with
    | params =>
      apply hbetween ?_ rfl
      rw [hthread]
      rfl
    | fingerprint =>
      apply hbetween ?_ rfl
      rw [hthread]
      rfl
    | vkId =>
      have hidle : ∀ j, (s.thread j).publishing = false := by
        intro j
        by_cases hj : j = w
        · rw [hj, hthread]
          rfl
        · exact hothers j hj
      have hcall : calls w = .init pkBytes := by
        rw [← hs.calls w, hthread]
        rfl
      exact ⟨iff_of_true hidle ⟨w, pkBytes, key, hcall, hload, rfl⟩, iff_of_true hidle rfl⟩

/-- The last cell is set by the call that set the others. -/
theorem complete_of_setVkId (hs : Inv X calls s) {i : ι} {pkBytes : List UInt8}
    {key : LoadedKey Params} (hi : s.thread i = .init pkBytes (.setVkId key)) :
    Complete X calls (advance X s.shared (s.thread i)).1 := by
  have hbusy : (s.thread i).publishing = true := by
    rw [hi]
    rfl
  cases hs.progress with
  | unset hcells hidle =>
    rw [hidle i] at hbusy
    cases hbusy
  | winner w pk stage key' hthread hload hpub hothers =>
    have hw : i = w := by
      by_contra hne
      rw [hothers i hne] at hbusy
      cases hbusy
    subst hw
    rw [hi] at hthread ⊢
    injection hthread with hpk hstage
    subst hpk hstage
    have hcall : calls i = .init pkBytes := by
      rw [← hs.calls i, hi]
      rfl
    generalize hcells : s.shared = cells at hpub ⊢
    cases hpub with
    | fingerprint => exact ⟨i, pkBytes, key, hcall, hload, rfl⟩

/-- What the thread that ticks reports afterwards is so exactly when it
    did not rely on the first cell while a key was being published. -/
theorem reports_own_iff (hs : Inv X calls s) (hgood : ReportsComplete X calls s) (i : ι) :
    Reports X calls (advance X s.shared (s.thread i)).1 (advance X s.shared (s.thread i)).2 ↔
      NotWhilePublishing s i := by
  have hown := hgood i
  unfold NotWhilePublishing
  cases hi : s.thread i with
  | asking => exact iff_of_true trivial fun h => Bool.noConfusion h
  | asked initialized vkId =>
    rw [hi] at hown
    exact iff_of_true hown fun h => Bool.noConfusion h
  | askedInit initialized =>
    cases initialized with
    | false => exact iff_of_true trivial fun h => Bool.noConfusion h
    | true =>
      have hidle := (idle_iff hs (hs.told i hi)).2
      exact ⟨fun h _ => hidle.mpr h, fun h => hidle.mp (h rfl)⟩
  | init pkBytes stage =>
    cases stage with
    | start =>
      show Reports X calls s.shared (.init pkBytes
        (if isProverInitialized s.shared = true then .returned (.ok ()) else .loading)) ↔ _
      by_cases hinit : isProverInitialized s.shared = true
      · rw [if_pos hinit]
        have hidle := (idle_iff hs hinit).1
        exact ⟨fun h _ => hidle.mpr h, fun h => hidle.mp (h rfl)⟩
      · rw [if_neg hinit]
        exact iff_of_true trivial fun _ =>
          idle_of_not_initialized hs (Bool.eq_false_of_not_eq_true hinit)
    | loading =>
      refine iff_of_true ?_ fun h => Bool.noConfusion h
      show Reports X calls (advanceInit X s.shared pkBytes .loading).1
        (.init pkBytes (advanceInit X s.shared pkBytes .loading).2)
      rcases advanceInit_loading X s.shared pkBytes with ⟨e, h⟩ | ⟨key, -, h⟩
      · rw [h]
        exact trivial
      · rw [h]
        exact trivial
    | setParams key =>
      refine iff_of_true ?_ fun h => Bool.noConfusion h
      obtain ⟨params, fingerprint, vkId⟩ := s.shared
      cases params <;> exact trivial
    | setFp key =>
      refine iff_of_true ?_ fun h => Bool.noConfusion h
      obtain ⟨params, fingerprint, vkId⟩ := s.shared
      cases fingerprint <;> exact trivial
    | setVkId key =>
      refine iff_of_true ?_ fun h => Bool.noConfusion h
      have hcomplete := complete_of_setVkId hs hi
      rw [hi] at hcomplete
      generalize s.shared = cells at hcomplete ⊢
      obtain ⟨params, fingerprint, vkId⟩ := cells
      cases vkId with
      | none => exact hcomplete
      | some vkId => exact trivial
    | returned result =>
      rw [hi] at hown
      exact iff_of_true hown fun h => Bool.noConfusion h

/-- **One step, exactly**: a step leaves everything reported as
    initialised complete exactly when it does not rely on the first cell
    while a key is being published. -/
theorem reportsComplete_step_iff (hs : Inv X calls s) (hgood : ReportsComplete X calls s) (i : ι) :
    ReportsComplete X calls (step (advance X) s i) ↔ NotWhilePublishing s i := by
  rw [← reports_own_iff hs hgood i]
  have hsplit := forall_step_iff (advance X) s i
    fun _ t => Reports X calls (advance X s.shared (s.thread i)).1 t
  constructor
  · intro h
    exact (hsplit.mp h).1
  · intro h
    refine hsplit.mpr ⟨h, fun j _ => ?_⟩
    -- what was reported before stays so
    have hj := hgood j
    generalize s.thread j = t at hj ⊢
    unfold Reports at hj ⊢
    split at hj
    next =>
      rw [advance_of_complete hj]
      exact hj
    next => exact hj
    next => trivial

omit [DecidableEq ι] in
theorem reportsComplete_startState (X : KeyCrates Params) (calls : ι → Call) :
    ReportsComplete X calls (startState calls) := by
  intro i
  show Reports X calls .fresh (calls i).caller
  cases calls i with
  | init pkBytes => exact trivial
  | observe => exact trivial

/-- **Complete when reported, exactly.**  For any number of threads, any
    key bytes and any schedule: in every state of the run, a call that has
    returned `Ok` finds all three cells set from the bytes of one key, and
    an observer told that the prover is initialised gets a key id, if and
    only if no thread relies on the first cell while another call is
    between its first and its last cell. -/
theorem complete_when_reported_iff (X : KeyCrates Params) (calls : ι → Call)
    (schedule : List ι) :
    Always (step (advance X)) (ReportsComplete X calls) (startState calls) schedule ↔
      StepsMeet (step (advance X)) NotWhilePublishing (startState calls) schedule :=
  always_iff_stepsMeet (inv_step X calls) (fun _ i hs hgood => reportsComplete_step_iff hs hgood i)
    schedule (inv_startState X calls) (reportsComplete_startState X calls)

/-- Functions for which every non-empty byte string is a key. -/
def sampleKeyCrates : KeyCrates Unit :=
  { sampleCrates with
    blake3 := fun _ => List.replicate 32 0
    blake2s256 := fun _ => zeroBytes 32
    loadProvingKey := fun pkBytes => if pkBytes = [] then none else some ()
    writeVk := fun _ => [] }

/-- Two initialisations with the same key. -/
def twoInits : Bool → Call := fun _ => .init [1]

/-- An initialisation and an observer. -/
def initAndObserver (observer : Bool) : Call := if observer then .observe else .init [1]

/-- **Too early.**  The first call has set the parameters and nothing
    else.  A second call then returns `Ok` with no fingerprint and no key
    id in place; an observer is told that the prover is initialised and
    gets no key id. -/
theorem reported_before_complete :
    ((run (step (advance sampleKeyCrates)) (startState twoInits)
        [false, false, false, true]).thread true = .init [1] (.returned (.ok ())) ∧
      (run (step (advance sampleKeyCrates)) (startState twoInits)
        [false, false, false, true]).shared = ⟨some (), none, none⟩) ∧
    (run (step (advance sampleKeyCrates)) (startState initAndObserver)
      [false, false, false, true, true]).thread true = .asked true none ∧
    (¬ ∀ schedule, Always (step (advance sampleKeyCrates)) (ReportsComplete sampleKeyCrates twoInits)
      (startState twoInits) schedule) ∧
    ¬ ∀ schedule, Always (step (advance sampleKeyCrates))
      (ReportsComplete sampleKeyCrates initAndObserver) (startState initAndObserver) schedule := by
  refine ⟨⟨rfl, rfl⟩, rfl, fun hall => ?_, fun hall => ?_⟩
  · obtain ⟨w, pkBytes, key, -, -, hcells⟩ := (hall [false, false, false, true]).last true
    have hnone : (none : Option UInt32) = some key.vkId := congrArg ProverState.loadedVkId hcells
    cases hnone
  · have hreport := (hall [false, false, false, true, true]).last true
    exact Bool.false_ne_true hreport

end ProviiSdk.Core
