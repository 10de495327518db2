/-
  ProviiSdk.ProvingKey.Lifecycle — from the file to the prover.

  An initialisation checks the proving key on disk twice, reads it, and
  publishes it in the prover's three cells.  Between any two of these
  steps another thread may delete the file, a download may put one in
  place, and another initialisation may get ahead.  This file runs any
  number of initialisations, deletions and download attempts as one
  machine, in any order.

  Initialisations are taken step by step, and may overlap.  A download
  attempt and a deletion are each one whole step: no two of them are
  assumed to overlap.  The code takes no lock around them, and two
  attempts share the temporary file, so that without this assumption one
  could move bytes into place that the other has written.

  Main results:
    * `keyInit_solo` — the steps of an initialisation that nothing
      interrupts are the exported function.
    * `keyInv_step` — what every step keeps.
    * `prover_key_lifecycle` — in every state of every run the prover
      holds a key whose bytes have passed the check, or none.
-/

import ProviiSdk.ProvingKey.Placement
import ProviiSdk.Wallet.ProverSetup

namespace ProviiSdk.ProvingKey

open ProviiSdk.Core ProviiSdk.Ffi ProviiSdk.Run ProviiSdk.Wallet

variable {Params : Type}

/-! ## §1. The exported functions -/

/-- The error type of the proving key functions. -/
inductive ProvingKeyError where
  | insufficientStorage (details : String)
  | networkError (details : String)
  | initializationError (details : String)
  | retryBudgetExceeded (details : String)
  | unknownError (details : String)
  deriving DecidableEq, Repr

/-- Failures while a key is initialised: in the two checks, and when the
    file is read. -/
structure KeyInitFaults where
  available : VerifyFaults
  verify : VerifyFaults
  read : Option String

/-- Failures of a deletion.  `exists` answers that there is no file when
    it fails. -/
structure DeleteFaults where
  existsFinal : Bool
  removeFinal : Option String
  existsTemp : Bool
  removeTemp : Option String

/-- Is a valid key on disk?  A check that fails to run counts as a failed
    check. -/
def isAvailable (hash : Blake2s256) (io : VerifyFaults) (disk : Disk) : Bool :=
  decide (verifyPkIntegrity hash io disk.final = .ok true)

/-- Read the key file. -/
def readPk (read : Option String) (disk : Disk) : Except FfiError Content :=
  match read, disk.final with
  | some e, _ => .error (.storage ("Failed to read PK into memory: " ++ e))
  | none, none =>
    .error (.storage "Failed to read PK into memory: No such file or directory (os error 2)")
  | none, some content => .ok content

/-- The second check, before the file is read. -/
def verifyForLoad (hash : Blake2s256) (io : KeyInitFaults) (disk : Disk) : Except FfiError Unit :=
  match verifyPkIntegrity hash io.verify disk.final with
  | .error e => .error e
  | .ok false => .error (.invalidFormat "PK file failed integrity check")
  | .ok true => .ok ()

/-- Load the key after verifying it. -/
def loadPkToMemory (hash : Blake2s256) (io : KeyInitFaults) (disk : Disk) :
    Except FfiError Content := do
  verifyForLoad hash io disk
  readPk io.read disk

def keyNotFound : ProvingKeyError :=
  .initializationError "Proving key file not found or invalid. Please download it first."

def keyNotLoaded (e : FfiError) : ProvingKeyError :=
  .initializationError ("Failed to load PK: " ++ e.display)

def keySizeMismatch (size : Nat) : ProvingKeyError :=
  .initializationError s!"PK size mismatch: expected {pkSize} bytes, got {size} bytes"

def keyNotInitialized (e : ProverError) : ProvingKeyError :=
  .initializationError ("Prover initialization failed: " ++ proverErrorDisplay e)

/-- Load the key and initialise the prover with it. -/
def provingKeyInit (X : KeyCrates Params) (hash : Blake2s256) (io : KeyInitFaults) (disk : Disk)
    (cells : ProverState Params) : Except ProvingKeyError Unit × ProverState Params :=
  if isAvailable hash io.available disk then
    match loadPkToMemory hash io disk with
    | .error e => (.error (keyNotLoaded e), cells)
    | .ok pkBytes =>
      if pkBytes.length ≠ pkSize then (.error (keySizeMismatch pkBytes.length), cells)
      else
        ((initProverWithPkBytes X cells pkBytes).1.mapError keyNotInitialized,
          (initProverWithPkBytes X cells pkBytes).2)
  else (.error keyNotFound, cells)

/-- Remove one file if it is there. -/
def removeFile (existsFails : Bool) (remove : Option String) (file : Option Content) :
    Except FfiError (Option Content) :=
  match file with
  | none => .ok none
  | some content =>
    if existsFails then .ok (some content)
    else
      match remove with
      | some e => .error (.storage e)
      | none => .ok none

/-- Delete the key and a partial download, the key first. -/
def deleteProvingKey (io : DeleteFaults) (disk : Disk) : Except FfiError Unit × Disk :=
  match removeFile io.existsFinal io.removeFinal disk.final with
  | .error e => (.error e, disk)
  | .ok final =>
    match removeFile io.existsTemp io.removeTemp disk.temp with
    | .error e => (.error e, { disk with final })
    | .ok temp => (.ok (), { temp, final })

/-- The exported deletion. -/
def provingKeyDelete (io : DeleteFaults) (disk : Disk) : Except ProvingKeyError Unit × Disk :=
  ((deleteProvingKey io disk).1.mapError fun e => .unknownError e.display,
    (deleteProvingKey io disk).2)

/-! ## §2. An initialisation in steps -/

/-- How far an initialisation has come. -/
inductive KeyInitStage (Params : Type) where
  | start
  -- the first check has passed
  | available
  -- the second check has passed
  | verified
  | read (pkBytes : Content)
  -- the prover's own initialisation
  | publishing (pkBytes : Content) (stage : InitStage Params)
  | returned (result : Except ProvingKeyError Unit)

/-- The stage after a step of the prover's initialisation. -/
def afterInit (pkBytes : Content) : InitStage Params → KeyInitStage Params
  | .returned result => .returned (result.mapError keyNotInitialized)
  | stage => .publishing pkBytes stage

/-- The next step of an initialisation. -/
def advanceKeyInit (X : KeyCrates Params) (hash : Blake2s256) (io : KeyInitFaults) (disk : Disk)
    (cells : ProverState Params) :
    KeyInitStage Params → ProverState Params × KeyInitStage Params
  | .start =>
    (cells, if isAvailable hash io.available disk then .available else .returned (.error keyNotFound))
  | .available =>
    match verifyForLoad hash io disk with
    | .error e => (cells, .returned (.error (keyNotLoaded e)))
    | .ok () => (cells, .verified)
  | .verified =>
    match readPk io.read disk with
    | .error e => (cells, .returned (.error (keyNotLoaded e)))
    | .ok pkBytes => (cells, .read pkBytes)
  | .read pkBytes =>
    (cells,
      if pkBytes.length ≠ pkSize then .returned (.error (keySizeMismatch pkBytes.length))
      else .publishing pkBytes .start)
  | .publishing pkBytes stage =>
    ((advanceInit X cells pkBytes stage).1, afterInit pkBytes (advanceInit X cells pkBytes stage).2)
  | .returned result => (cells, .returned result)

/-- One step of the prover's initialisation, with nothing around it. -/
private def initTick (X : KeyCrates Params) (pkBytes : Content)
    (p : ProverState Params × InitStage Params) : ProverState Params × InitStage Params :=
  advanceInit X p.1 pkBytes p.2

/-- One step of an initialisation on a disk that stays as it is. -/
def keyTick (X : KeyCrates Params) (hash : Blake2s256) (io : KeyInitFaults) (disk : Disk)
    (p : ProverState Params × KeyInitStage Params) : ProverState Params × KeyInitStage Params :=
  advanceKeyInit X hash io disk p.1 p.2

/-- The prover's five steps are its function. -/
private theorem initTick_solo (X : KeyCrates Params) (pkBytes : Content)
    (cells : ProverState Params) :
    (initTick X pkBytes)^[5] (cells, .start) =
      ((initProverWithPkBytes X cells pkBytes).2,
        .returned (initProverWithPkBytes X cells pkBytes).1) := by
  have hcaller : Function.Semiconj
      (fun p : ProverState Params × InitStage Params => (p.1, Caller.init pkBytes p.2))
      (initTick X pkBytes) (Threads.soloTick (advance X)) := fun _ => rfl
  have hsolo := (hcaller.iterate_right 5 (cells, .start)).trans (advance_solo X cells pkBytes)
  injection hsolo with hcells hstage
  injection hstage with _ hstage
  exact Prod.ext hcells hstage

/-- So they are inside an initialisation of the key. -/
private theorem keyTick_publishing (X : KeyCrates Params) (hash : Blake2s256) (io : KeyInitFaults)
    (disk : Disk) (pkBytes : Content) (cells : ProverState Params) :
    (keyTick X hash io disk)^[5] (cells, .publishing pkBytes .start) =
      ((initProverWithPkBytes X cells pkBytes).2,
        .returned ((initProverWithPkBytes X cells pkBytes).1.mapError keyNotInitialized)) := by
  have hstage : Function.Semiconj
      (fun p : ProverState Params × InitStage Params => (p.1, afterInit pkBytes p.2))
      (initTick X pkBytes) (keyTick X hash io disk) := by
    intro p
    obtain ⟨cells, stage⟩ := p
    cases stage <;> rfl
  have hsolo := hstage.iterate_right 5 (cells, .start)
  rw [initTick_solo] at hsolo
  exact hsolo.symm

/-- **The steps are the function**: the steps of an initialisation that
    nothing interrupts are `proving_key_init` as written. -/
theorem keyInit_solo (X : KeyCrates Params) (hash : Blake2s256) (io : KeyInitFaults) (disk : Disk)
    (cells : ProverState Params) :
    (keyTick X hash io disk)^[9] (cells, .start) =
      ((provingKeyInit X hash io disk cells).2,
        .returned (provingKeyInit X hash io disk cells).1) := by
  -- a call that has returned stays so
  have hdone : ∀ n result, (keyTick X hash io disk)^[n] (cells, .returned result) =
      (cells, .returned result) := fun n result => Function.iterate_fixed rfl n
  unfold provingKeyInit loadPkToMemory
  rw [Function.iterate_succ_apply]
  by_cases havailable : isAvailable hash io.available disk = true
  · have hfirst : keyTick X hash io disk (cells, .start) = (cells, .available) := by
      show (cells, if isAvailable hash io.available disk then _ else _) = _
      rw [if_pos havailable]
    rw [hfirst, if_pos havailable, Function.iterate_succ_apply]
    cases hverify : verifyForLoad hash io disk with
    | error e =>
      have hnext : keyTick X hash io disk (cells, .available) =
          (cells, .returned (.error (keyNotLoaded e))) := by
        simp only [keyTick, advanceKeyInit, hverify]
      rw [hnext, hdone]
      rfl
    | ok u =>
      have hnext : keyTick X hash io disk (cells, .available) = (cells, .verified) := by
        simp only [keyTick, advanceKeyInit, hverify]
      rw [hnext, Function.iterate_succ_apply]
      cases hread : readPk io.read disk with
      | error e =>
        have hthird : keyTick X hash io disk (cells, .verified) =
            (cells, .returned (.error (keyNotLoaded e))) := by
          simp only [keyTick, advanceKeyInit, hread]
        rw [hthird, hdone]
        rfl
      | ok pkBytes =>
        have hthird : keyTick X hash io disk (cells, .verified) = (cells, .read pkBytes) := by
          simp only [keyTick, advanceKeyInit, hread]
        rw [hthird, Function.iterate_succ_apply]
        show (keyTick X hash io disk)^[5] (cells, if pkBytes.length ≠ pkSize then _ else _) =
          ((if pkBytes.length ≠ pkSize then _ else _ :
              Except ProvingKeyError Unit × ProverState Params).2,
            .returned (if pkBytes.length ≠ pkSize then _ else _ :
              Except ProvingKeyError Unit × ProverState Params).1)
        by_cases hsize : pkBytes.length ≠ pkSize
        · rw [if_pos hsize, if_pos hsize, hdone]
        · rw [if_neg hsize, if_neg hsize, keyTick_publishing]
  · have hfirst : keyTick X hash io disk (cells, .start) =
        (cells, .returned (.error keyNotFound)) := by
      show (cells, if isAvailable hash io.available disk then _ else _) = _
      rw [if_neg havailable]
    rw [hfirst, hdone, if_neg havailable]

/-! ## §3. The machine -/

variable {ι : Type}

/-- The disk, the prover's cells, and how far each initialisation has
    come. -/
structure KeySystem (ι Params : Type) where
  disk : Disk
  cells : ProverState Params
  stage : ι → KeyInitStage Params

/-- One step: of an initialisation, the start of a new one, a whole
    attempt of a download, or a whole deletion.  That attempts and
    deletions do not overlap each other is assumed, not enforced by the
    code. -/
inductive KeyOp (ι : Type) where
  | init (who : ι) (io : KeyInitFaults)
  | start (who : ι)
  | download (io : AttemptFaults) (net : Network)
  | delete (io : DeleteFaults)

def keyStep [DecidableEq ι] (X : KeyCrates Params) (hash : Blake2s256)
    (m : ProvingKeyManager) (s : KeySystem ι Params) : KeyOp ι → KeySystem ι Params
  | .init who io =>
    { s with
      cells := (advanceKeyInit X hash io s.disk s.cells (s.stage who)).1
      stage := Function.update s.stage who
        (advanceKeyInit X hash io s.disk s.cells (s.stage who)).2 }
  | .start who => { s with stage := Function.update s.stage who .start }
  | .download io net => { s with disk := (downloadSingleAttempt hash m io net s.disk).2 }
  | .delete io => { s with disk := (provingKeyDelete io s.disk).2 }

/-- A new process over the files it finds. -/
def keyStart (disk : Disk) : KeySystem ι Params :=
  { disk, cells := .fresh, stage := fun _ => .start }

/-! ## §4. What every step keeps -/

/-- The cells hold what was computed from one loaded key and nothing
    else.  The first cell is set exactly when a key was loaded; the other
    two may not be set yet. -/
structure HoldsOnly (loaded : Option (LoadedKey Params)) (cells : ProverState Params) : Prop where
  params : cells.provingParams = loaded.map LoadedKey.params
  fingerprint : ∀ fp ∈ cells.provingKeyFp, ∃ k, loaded = some k ∧ fp = k.fingerprint
  vkId : ∀ id ∈ cells.loadedVkId, ∃ k, loaded = some k ∧ id = k.vkId

theorem HoldsOnly.initialized {loaded : Option (LoadedKey Params)} {cells : ProverState Params}
    (h : HoldsOnly loaded cells) : isProverInitialized cells = loaded.isSome := by
  unfold isProverInitialized
  rw [h.params, Option.isSome_map]

/-- Cells that hold no key are those of a new process. -/
theorem HoldsOnly.fresh {cells : ProverState Params} (h : HoldsOnly none cells) :
    cells = .fresh := by
  obtain ⟨params, fp, id⟩ := cells
  obtain ⟨hparams, hfp, hid⟩ := h
  have hfp' : fp = none := by
    apply Option.eq_none_iff_forall_not_mem.2
    intro f hf
    obtain ⟨k, hk, _⟩ := hfp f hf
    cases hk
  have hid' : id = none := by
    apply Option.eq_none_iff_forall_not_mem.2
    intro i hi
    obtain ⟨k, hk, _⟩ := hid i hi
    cases hk
  have hparams' : params = none := hparams
  rw [hparams', hfp', hid']
  rfl

theorem holdsOnly_fresh : HoldsOnly none (.fresh : ProverState Params) := by
  refine ⟨rfl, ?_, ?_⟩
  · intro fp hfp
    cases hfp
  · intro id hid
    cases hid

/-- What is loaded may change once, from nothing to the given bytes'
    key. -/
def Loads (X : KeyCrates Params) (pkBytes : Content) (loaded loaded' : Option (LoadedKey Params)) :
    Prop :=
  loaded' = loaded ∨ (loaded = none ∧ ∃ k, loadKey X pkBytes = .ok k ∧ loaded' = some k)

/-- What a stage of the prover's initialisation knows of the loaded key:
    only the call that has set the first cell sets the others. -/
def InitStageOk (X : KeyCrates Params) (pkBytes : Content) (loaded : Option (LoadedKey Params)) :
    InitStage Params → Prop
  | .start => True
  | .loading => True
  | .setParams k => loadKey X pkBytes = .ok k
  | .setFp k => loaded = some k
  | .setVkId k => loaded = some k
  | .returned result => result = .ok () → loaded.isSome = true

private theorem isSome_later {loaded loaded' : Option (LoadedKey Params)}
    (hlater : ∀ k, loaded = some k → loaded' = some k) (h : loaded.isSome = true) :
    loaded'.isSome = true := by
  obtain ⟨k, hk⟩ := Option.isSome_iff_exists.1 h
  rw [hlater k hk]
  rfl

/-- What is known of a loaded key stays known. -/
theorem InitStageOk.later {X : KeyCrates Params} {pkBytes : Content}
    {loaded loaded' : Option (LoadedKey Params)} (hlater : ∀ k, loaded = some k → loaded' = some k)
    {stage : InitStage Params} (h : InitStageOk X pkBytes loaded stage) :
    InitStageOk X pkBytes loaded' stage := by
  cases stage with
  | start => trivial
  | loading => trivial
  | setParams k => exact h
  | setFp k => exact hlater k h
  | setVkId k => exact hlater k h
  | returned result => exact fun hok => isSome_later hlater (h hok)

theorem Loads.later {X : KeyCrates Params} {pkBytes : Content}
    {loaded loaded' : Option (LoadedKey Params)} (h : Loads X pkBytes loaded loaded') :
    ∀ k, loaded = some k → loaded' = some k := by
  intro k hk
  rcases h with rfl | ⟨hnone, _⟩
  · exact hk
  · rw [hnone] at hk
    cases hk

/-- **One step of the prover's initialisation** sets no cell that does not
    go with the loaded key. -/
theorem advanceInit_loads (X : KeyCrates Params) (pkBytes : Content)
    {loaded : Option (LoadedKey Params)} {cells : ProverState Params}
    (hcells : HoldsOnly loaded cells) (stage : InitStage Params)
    (hstage : InitStageOk X pkBytes loaded stage) :
    ∃ loaded', Loads X pkBytes loaded loaded' ∧
      HoldsOnly loaded' (advanceInit X cells pkBytes stage).1 ∧
      InitStageOk X pkBytes loaded' (advanceInit X cells pkBytes stage).2 := by
  have hsame : Loads X pkBytes loaded loaded := Or.inl rfl
  cases stage with
  | start =>
    refine ⟨loaded, hsame, hcells, ?_⟩
    show InitStageOk X pkBytes loaded (if isProverInitialized cells then _ else _)
    split
    next hinit =>
      intro _
      rw [← hcells.initialized, hinit]
    next => trivial
  | loading =>
    unfold advanceInit
    cases hload : loadKey X pkBytes with
    | error e =>
      refine ⟨loaded, hsame, hcells, ?_⟩
      intro h
      cases h
    | ok k => exact ⟨loaded, hsame, hcells, hload⟩
  | setParams k =>
    cases hloaded : loaded with
    | none =>
      -- no cell is set yet, and this call takes the first
      subst hloaded
      obtain rfl := hcells.fresh
      refine ⟨some k, Or.inr ⟨rfl, k, hstage, rfl⟩, ⟨rfl, ?_, ?_⟩, rfl⟩
      · intro fp hfp
        cases hfp
      · intro id hid
        cases hid
    | some first =>
      subst hloaded
      obtain ⟨params, fp, id⟩ := cells
      have hparams : params = some first.params := hcells.params
      subst hparams
      refine ⟨some first, hsame, hcells, ?_⟩
      intro h
      cases h
  | setFp k =>
    obtain rfl : loaded = some k := hstage
    obtain ⟨params, fp, id⟩ := cells
    cases fp with
    | some f =>
      refine ⟨some k, hsame, hcells, ?_⟩
      intro h
      cases h
    | none =>
      refine ⟨some k, hsame, ⟨hcells.params, ?_, hcells.vkId⟩, rfl⟩
      intro f hf
      injection hf with hf
      exact ⟨k, rfl, hf.symm⟩
  | setVkId k =>
    obtain rfl : loaded = some k := hstage
    obtain ⟨params, fp, id⟩ := cells
    cases id with
    | some i =>
      refine ⟨some k, hsame, hcells, ?_⟩
      intro h
      cases h
    | none =>
      refine ⟨some k, hsame, ⟨hcells.params, hcells.fingerprint, ?_⟩, fun _ => rfl⟩
      intro i hi
      injection hi with hi
      exact ⟨k, rfl, hi.symm⟩
  | returned result => exact ⟨loaded, hsame, hcells, hstage⟩

/-- What a stage of an initialisation knows: a call that has passed the
    second check will not read a file that would not pass it. -/
def KeyStageOk (X : KeyCrates Params) (hash : Blake2s256) (loaded : Option (LoadedKey Params))
    (disk : Disk) : KeyInitStage Params → Prop
  | .start => True
  | .available => True
  | .verified => ∀ content, disk.final = some content → Genuine hash content
  | .read pkBytes => Genuine hash pkBytes
  | .publishing pkBytes stage => Genuine hash pkBytes ∧ InitStageOk X pkBytes loaded stage
  | .returned result => result = .ok () → loaded.isSome = true

/-- A final file may stay as it is, go, or be replaced by one that passes
    the check. -/
def Replaces (hash : Blake2s256) (disk disk' : Disk) : Prop :=
  disk'.final = disk.final ∨ ∀ content, disk'.final = some content → Genuine hash content

theorem KeyStageOk.later {X : KeyCrates Params} {hash : Blake2s256}
    {loaded loaded' : Option (LoadedKey Params)} {disk disk' : Disk}
    (hlater : ∀ k, loaded = some k → loaded' = some k) (hdisk : Replaces hash disk disk')
    {stage : KeyInitStage Params} (h : KeyStageOk X hash loaded disk stage) :
    KeyStageOk X hash loaded' disk' stage := by
  cases stage with
  | start => trivial
  | available => trivial
  | verified =>
    rcases hdisk with hsame | hgenuine
    · show ∀ content, disk'.final = some content → _
      rw [hsame]
      exact h
    · exact hgenuine
  | read pkBytes => exact h
  | publishing pkBytes stage => exact ⟨h.1, h.2.later hlater⟩
  | returned result => exact fun hok => isSome_later hlater (h hok)

/-- The second check passes over a genuine file only. -/
theorem verifyForLoad_ok {hash : Blake2s256} {io : KeyInitFaults} {disk : Disk} {u : Unit}
    (h : verifyForLoad hash io disk = .ok u) :
    ∃ key, disk.final = some key ∧ Genuine hash key := by
  unfold verifyForLoad at h
  split at h
  · cases h
  · cases h
  next hverify => exact verifyPkIntegrity_true hverify

/-- What is read is the file. -/
theorem readPk_ok {read : Option String} {disk : Disk} {pkBytes : Content}
    (h : readPk read disk = .ok pkBytes) : disk.final = some pkBytes := by
  unfold readPk at h
  split at h
  · cases h
  · cases h
  next content hfinal =>
    injection h with h
    rw [hfinal, h]

theorem afterInit_ok {X : KeyCrates Params} {hash : Blake2s256}
    {loaded : Option (LoadedKey Params)} {disk : Disk} {pkBytes : Content}
    (hgenuine : Genuine hash pkBytes) {stage : InitStage Params}
    (h : InitStageOk X pkBytes loaded stage) :
    KeyStageOk X hash loaded disk (afterInit pkBytes stage) := by
  cases stage with
  | returned result =>
    intro hok
    cases result with
    | error e => cases hok
    | ok u => exact h rfl
  | start => exact ⟨hgenuine, h⟩
  | loading => exact ⟨hgenuine, h⟩
  | setParams k => exact ⟨hgenuine, h⟩
  | setFp k => exact ⟨hgenuine, h⟩
  | setVkId k => exact ⟨hgenuine, h⟩

/-- **The invariant**, for some loaded key or none: the file is genuine or
    the one that was found, the cells hold only what goes with the loaded
    key, its bytes have passed the check, and every call keeps to it. -/
structure KeyInv (X : KeyCrates Params) (hash : Blake2s256) (found : Disk)
    (loaded : Option (LoadedKey Params)) (s : KeySystem ι Params) : Prop where
  file : ∀ content, s.disk.final = some content →
    Genuine hash content ∨ found.final = some content
  cells : HoldsOnly loaded s.cells
  source : ∀ k, loaded = some k → ∃ key, Genuine hash key ∧ loadKey X key = .ok k
  stages : ∀ i, KeyStageOk X hash loaded s.disk (s.stage i)

/-- **One step of an initialisation**: the bytes that are published have
    passed the check. -/
theorem advanceKeyInit_loads (X : KeyCrates Params) (hash : Blake2s256) (io : KeyInitFaults)
    (disk : Disk) {loaded : Option (LoadedKey Params)} {cells : ProverState Params}
    (hcells : HoldsOnly loaded cells) (stage : KeyInitStage Params)
    (hstage : KeyStageOk X hash loaded disk stage) :
    ∃ loaded', (loaded' = loaded ∨ ∃ key, Genuine hash key ∧ Loads X key loaded loaded') ∧
      HoldsOnly loaded' (advanceKeyInit X hash io disk cells stage).1 ∧
      KeyStageOk X hash loaded' disk (advanceKeyInit X hash io disk cells stage).2 := by
  -- a call that returns an error has nothing to show
  have herror : ∀ e : ProvingKeyError, KeyStageOk X hash loaded disk (.returned (.error e)) := by
    intro e h
    cases h
  cases stage with
  | start =>
    refine ⟨loaded, Or.inl rfl, hcells, ?_⟩
    show KeyStageOk X hash loaded disk (if isAvailable hash io.available disk then _ else _)
    split
    · trivial
    · exact herror _
  | available =>
    unfold advanceKeyInit
    cases hverify : verifyForLoad hash io disk with
    | error e => exact ⟨loaded, Or.inl rfl, hcells, herror _⟩
    | ok u =>
      refine ⟨loaded, Or.inl rfl, hcells, ?_⟩
      obtain ⟨key, hkey, hgenuine⟩ := verifyForLoad_ok hverify
      intro content hcontent
      rw [hkey] at hcontent
      injection hcontent with hcontent
      exact hcontent ▸ hgenuine
  | verified =>
    unfold advanceKeyInit
    cases hread : readPk io.read disk with
    | error e => exact ⟨loaded, Or.inl rfl, hcells, herror _⟩
    | ok pkBytes => exact ⟨loaded, Or.inl rfl, hcells, hstage pkBytes (readPk_ok hread)⟩
  | read pkBytes =>
    refine ⟨loaded, Or.inl rfl, hcells, ?_⟩
    show KeyStageOk X hash loaded disk (if pkBytes.length ≠ pkSize then _ else _)
    split
    · exact herror _
    · exact ⟨hstage, trivial⟩
  | publishing pkBytes stage =>
    obtain ⟨hgenuine, hstage⟩ := hstage
    obtain ⟨loaded', hloads, hcells', hstage'⟩ := advanceInit_loads X pkBytes hcells stage hstage
    refine ⟨loaded', Or.inr ⟨pkBytes, hgenuine, hloads⟩, hcells', ?_⟩
    exact afterInit_ok hgenuine hstage'
  | returned result => exact ⟨loaded, Or.inl rfl, hcells, hstage⟩

/-- The invariant after a step that leaves the cells and the calls
    alone. -/
private theorem KeyInv.of_disk {X : KeyCrates Params} {hash : Blake2s256} {found : Disk}
    {loaded : Option (LoadedKey Params)} {s : KeySystem ι Params}
    (h : KeyInv X hash found loaded s) {disk : Disk} (hdisk : Replaces hash s.disk disk) :
    KeyInv X hash found loaded { s with disk } := by
  refine ⟨?_, h.cells, h.source, fun i => (h.stages i).later (fun _ hk => hk) hdisk⟩
  intro content hcontent
  rcases hdisk with hsame | hgenuine
  · exact h.file content (hsame ▸ hcontent)
  · exact Or.inl (hgenuine content hcontent)

/-- A deletion leaves the final file or removes it. -/
theorem deleteProvingKey_final (io : DeleteFaults) (disk : Disk) :
    (deleteProvingKey io disk).2.final = disk.final ∨ (deleteProvingKey io disk).2.final = none := by
  have hremove : ∀ existsFails remove (file final : Option Content),
      removeFile existsFails remove file = .ok final → final = file ∨ final = none := by
    intro existsFails remove file final h
    unfold removeFile at h
    split at h
    · injection h with h
      exact Or.inr h.symm
    split at h
    · injection h with h
      exact Or.inl h.symm
    split at h
    · cases h
    · injection h with h
      exact Or.inr h.symm
  unfold deleteProvingKey
  cases hfinal : removeFile io.existsFinal io.removeFinal disk.final with
  | error e => exact Or.inl rfl
  | ok final =>
    have hkept := hremove _ _ _ _ hfinal
    simp only
    split
    · exact hkept
    · exact hkept

/-- **One step** keeps the invariant. -/
theorem keyInv_step [DecidableEq ι] (X : KeyCrates Params) (hash : Blake2s256)
    (m : ProvingKeyManager) (found : Disk) (s : KeySystem ι Params) (op : KeyOp ι)
    (h : ∃ loaded, KeyInv X hash found loaded s) :
    ∃ loaded, KeyInv X hash found loaded (keyStep X hash m s op) := by
  obtain ⟨loaded, h⟩ := h
  cases op with
  | init who io =>
    obtain ⟨loaded', hloads, hcells, hown⟩ :=
      advanceKeyInit_loads X hash io s.disk h.cells (s.stage who) (h.stages who)
    have hlater : ∀ k, loaded = some k → loaded' = some k := by
      rcases hloads with rfl | ⟨key, _, hloads⟩
      · exact fun _ hk => hk
      · exact hloads.later
    refine ⟨loaded', h.file, hcells, ?_, ?_⟩
    · -- what is loaded was loaded before, or by this call
      intro k hk
      rcases hloads with rfl | ⟨key, hgenuine, rfl | ⟨_, k', hk', rfl⟩⟩
      · exact h.source k hk
      · exact h.source k hk
      · injection hk with hk
        exact ⟨key, hgenuine, hk ▸ hk'⟩
    · intro i
      show KeyStageOk X hash loaded' s.disk (Function.update s.stage who _ i)
      by_cases hi : i = who
      · rw [hi, Function.update_self]
        exact hown
      · rw [Function.update_of_ne hi]
        exact (h.stages i).later hlater (Or.inl rfl)
  | start who =>
    refine ⟨loaded, h.file, h.cells, h.source, ?_⟩
    intro i
    show KeyStageOk X hash loaded s.disk (Function.update s.stage who .start i)
    by_cases hi : i = who
    · rw [hi, Function.update_self]
      trivial
    · rw [Function.update_of_ne hi]
      exact h.stages i
  | download io net =>
    refine ⟨loaded, h.of_disk ?_⟩
    have hplaced := downloadSingleAttempt_placed hash m io net s.disk
    generalize downloadSingleAttempt hash m io net s.disk = r at hplaced
    obtain ⟨result, after⟩ := r
    cases result with
    | error e => exact Or.inl (hplaced.kept e rfl)
    | ok u =>
      obtain ⟨key, hkey, hgenuine⟩ := hplaced.genuine rfl
      refine Or.inr fun content hcontent => ?_
      rw [hkey] at hcontent
      injection hcontent with hcontent
      exact hcontent ▸ hgenuine
  | delete io =>
    refine ⟨loaded, h.of_disk ?_⟩
    rcases deleteProvingKey_final io s.disk with hsame | hnone
    · exact Or.inl hsame
    · refine Or.inr fun content hcontent => ?_
      rw [show (provingKeyDelete io s.disk).2.final = none from hnone] at hcontent
      cases hcontent

theorem keyInv_start (X : KeyCrates Params) (hash : Blake2s256) (found : Disk) :
    KeyInv X hash found none (keyStart found : KeySystem ι Params) := by
  refine ⟨fun _ h => Or.inr h, holdsOnly_fresh, ?_, fun _ => trivial⟩
  intro k hk
  cases hk

/-! ## §5. The property -/

/-- An initialisation during which no file operation fails. -/
def quietInit : KeyInitFaults :=
  { available := ⟨false, none, none, none⟩, verify := ⟨false, none, none, none⟩, read := none }

/-- **What can be said of the prover and the file**, at any time. -/
structure KeyState (X : KeyCrates Params) (hash : Blake2s256) (s : KeySystem ι Params) : Prop where
  -- the cells go with one key, whose bytes have passed the check
  genuine : ∃ loaded, HoldsOnly loaded s.cells ∧
    ∀ k, loaded = some k → ∃ key, Genuine hash key ∧ loadKey X key = .ok k
  -- a call that has succeeded leaves the prover initialised
  succeeded : ∀ i, s.stage i = .returned (.ok ()) → isProverInitialized s.cells = true
  -- a key is available exactly when a genuine file is there
  available : isAvailable hash quietInit.available s.disk = true ↔
    ∃ key, s.disk.final = some key ∧ Genuine hash key
  -- and an initialisation that runs now succeeds exactly when a key is
  -- available that the prover can load, or that it need not load
  next : (provingKeyInit X hash quietInit s.disk s.cells).1 = .ok () ↔
    ∃ key, s.disk.final = some key ∧ Genuine hash key ∧
      (isProverInitialized s.cells = true ∨ ∃ k, loadKey X key = .ok k)

theorem verifyPkIntegrity_quiet_iff (hash : Blake2s256) (file : Option Content) :
    verifyPkIntegrity hash ⟨false, none, none, none⟩ file = .ok true ↔
      ∃ key, file = some key ∧ Genuine hash key := by
  constructor
  · exact verifyPkIntegrity_true
  · intro h
    obtain ⟨key, rfl, hgenuine⟩ := h
    unfold verifyPkIntegrity
    simp only [Bool.false_eq_true, if_false, hgenuine.size, ne_eq, not_true_eq_false,
      hgenuine.digest, beq_self_eq_true]

theorem isAvailable_quiet_iff (hash : Blake2s256) (disk : Disk) :
    isAvailable hash quietInit.available disk = true ↔
      ∃ key, disk.final = some key ∧ Genuine hash key := by
  unfold isAvailable
  rw [decide_eq_true_iff]
  exact verifyPkIntegrity_quiet_iff hash disk.final

/-- Over a genuine file the function is the prover's. -/
theorem provingKeyInit_genuine (X : KeyCrates Params) {hash : Blake2s256} {disk : Disk}
    {key : Content} (hfinal : disk.final = some key) (hgenuine : Genuine hash key)
    (cells : ProverState Params) :
    (provingKeyInit X hash quietInit disk cells).1 =
      (initProverWithPkBytes X cells key).1.mapError keyNotInitialized := by
  have havailable := (isAvailable_quiet_iff hash disk).2 ⟨key, hfinal, hgenuine⟩
  have hverify : verifyForLoad hash quietInit disk = .ok () := by
    unfold verifyForLoad
    rw [show verifyPkIntegrity hash quietInit.verify disk.final = .ok true from
      (verifyPkIntegrity_quiet_iff hash disk.final).2 ⟨key, hfinal, hgenuine⟩]
  have hread : readPk quietInit.read disk = .ok key := by
    unfold readPk
    rw [hfinal]
    rfl
  have hload : loadPkToMemory hash quietInit disk = .ok key := by
    unfold loadPkToMemory
    rw [hverify, hread]
    rfl
  unfold provingKeyInit
  rw [if_pos havailable, hload]
  show (if key.length ≠ pkSize then _ else _ :
    Except ProvingKeyError Unit × ProverState Params).1 = _
  rw [if_neg (not_not.2 hgenuine.size)]

/-- The prover takes a key when it has one, or can load this one. -/
theorem initProver_ok_iff (X : KeyCrates Params) {loaded : Option (LoadedKey Params)}
    {cells : ProverState Params} (h : HoldsOnly loaded cells) (key : Content) :
    (initProverWithPkBytes X cells key).1.mapError keyNotInitialized = .ok () ↔
      isProverInitialized cells = true ∨ ∃ k, loadKey X key = .ok k := by
  cases loaded with
  | some k =>
    have hinit : isProverInitialized cells = true := h.initialized
    rw [initProverWithPkBytes_again X hinit]
    exact iff_of_true rfl (Or.inl hinit)
  | none =>
    obtain rfl := h.fresh
    cases hload : loadKey X key with
    | ok k =>
      rw [initProverWithPkBytes_fresh X hload]
      exact iff_of_true rfl (Or.inr ⟨k, rfl⟩)
    | error e =>
      rw [initProverWithPkBytes_refused X hload]
      refine iff_of_false (fun hok => by cases hok) ?_
      intro hor
      rcases hor with hinit | ⟨k, hk⟩
      · cases hinit
      · cases hk

/-- The invariant has the property. -/
theorem keyState_of_keyInv {X : KeyCrates Params} {hash : Blake2s256} {found : Disk}
    {s : KeySystem ι Params} (h : ∃ loaded, KeyInv X hash found loaded s) : KeyState X hash s := by
  obtain ⟨loaded, h⟩ := h
  refine ⟨⟨loaded, h.cells, h.source⟩, ?_, isAvailable_quiet_iff hash s.disk, ?_⟩
  · intro i hi
    have hstage := h.stages i
    rw [hi] at hstage
    rw [h.cells.initialized]
    exact hstage rfl
  · constructor
    · intro hok
      by_cases havailable : isAvailable hash quietInit.available s.disk = true
      · obtain ⟨key, hfinal, hgenuine⟩ := (isAvailable_quiet_iff hash s.disk).1 havailable
        rw [provingKeyInit_genuine X hfinal hgenuine, initProver_ok_iff X h.cells] at hok
        exact ⟨key, hfinal, hgenuine, hok⟩
      · unfold provingKeyInit at hok
        rw [if_neg havailable] at hok
        cases hok
    · intro hkey
      obtain ⟨key, hfinal, hgenuine, hloads⟩ := hkey
      rw [provingKeyInit_genuine X hfinal hgenuine, initProver_ok_iff X h.cells]
      exact hloads

/-- **The prover holds a checked key or none.**  Whatever files a process
    finds, and in whatever order the steps of any number of
    initialisations, whole download attempts and whole deletions happen
    (attempts and deletions not overlapping each other), with any answers
    of the network and any failing file operations: the prover's
    cells all go with one key whose bytes have passed the integrity check;
    an initialisation that has succeeded leaves the prover initialised,
    also when another call has deleted the file since; and one that runs
    undisturbed succeeds exactly when a genuine file is in place and the
    prover has a key or can load this one. -/
theorem prover_key_lifecycle [DecidableEq ι] (X : KeyCrates Params) (hash : Blake2s256)
    (m : ProvingKeyManager) (found : Disk) (ops : List (KeyOp ι)) :
    Always (keyStep X hash m) (KeyState X hash) (keyStart found) ops :=
  (always_of_invariant (fun s op => keyInv_step X hash m found s op) ops
    ⟨none, keyInv_start X hash found⟩).imp fun _ => keyState_of_keyInv

end ProviiSdk.ProvingKey
