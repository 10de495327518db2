/-
  ProviiSdk.Wallet.Mutexes — which locks the methods take.

  Every mutable part of the SDK sits behind a mutex of its own: the
  configuration, the challenge cache and the trust anchor of the wallet,
  the backend of its storage, five cells of the session state, five of
  each progress tracker, the download budget, the user agent, and the
  books the backends keep.  Here each method is the text of its guards: what it locks, in
  which order, what it still holds while it goes on, and where it waits
  for the network.  The session cells carry their values; what the other
  methods compute is left to the other modules.

  Main results:
    * the `_above` lemmas — every method takes its locks in the order
      listeners, wallet, backend, session state, and holds no wallet lock
      while it waits for the network.
-/

import ProviiSdk.Ffi.State
import ProviiSdk.Lib.Locks

namespace ProviiSdk.Mutexes

open ProviiSdk.Locks ProviiSdk.Ffi

/-! ## §1. The mutexes -/

/-- The mutexes of one wallet, of the trackers by number, of the transport
    and of the backend.  The read-write locks of the user agent and of the
    Android backend count as mutexes. -/
inductive Lock where
  | config
  | cachedChallenges
  | issuerTrustAnchor
  | backend
  | verificationStatus
  | activeVerifications
  | failedAttempts
  | lastError
  | biometricState
  | listeners (tracker : Nat)
  | currentStage (tracker : Nat)
  | lastUpdateTime (tracker : Nat)
  | stageHistory (tracker : Nat)
  | startTime (tracker : Nat)
  | retryState
  | userAgent
  | keystoreBridge
  | deviceProfile
  | cache
  | metrics
  | operationStats
  | auditLog
  | data
  deriving DecidableEq

/-- What a mutex guards, as far as the session state goes. -/
def Cell : Lock → Type
  | .verificationStatus => VerificationStatus
  | .activeVerifications => List String
  | .failedAttempts => UInt32
  | .lastError => Option String
  | _ => Unit

/-- The order in which the locks are taken.  The trackers' listeners come
    first, those of a later tracker before those of an earlier one. -/
def rank : Lock → Int
  | .listeners tracker => -(tracker : Int) - 1
  | .config => 1
  | .cachedChallenges => 1
  | .issuerTrustAnchor => 1
  | .backend => 2
  | .failedAttempts => 4
  | .lastError => 5
  | .operationStats => 4
  | _ => 3

/-- The network comes before the locks of the wallet. -/
def world : Int := 0

/-- The text of a method. -/
abbrev Method := Code Lock Cell

/-- The method runs wherever the locks `own` are held and none that is
    not below `r`. -/
abbrev Method.Above (own : Finset Lock) (r : Int) (m : Method) : Prop :=
  Code.Above rank world own r m

/-- A guard that is gone at the end of its statement. -/
def temp (l : Lock) : Method := .guard l .skip

/-- A guard under which the cell is set. -/
def put (l : Lock) (f : Cell l → Cell l) : Method := .guard l (.write l f)

section

variable {own : Finset Lock} {l : Lock} {r : Int}

theorem temp_above (h : r ≤ rank l) : (temp l).Above own r :=
  Code.above_guard h (Int.lt_succ (rank l)) Code.above_skip

theorem put_above {f : Cell l → Cell l} (h : r ≤ rank l) : (put l f).Above own r :=
  Code.above_guard h (Int.lt_succ (rank l)) (Code.above_write (Finset.mem_insert_self l own))

end

/-! ## §2. The session state -/

namespace StateManager

def startVerification (challengeId : String) : Method :=
  .seq (put .verificationStatus fun _ => .challengeReceived) <|
  -- the guard of the active list lives to the end of the method
  .guard .activeVerifications <|
    .seq (.read .activeVerifications fun verifications =>
      if List.elem challengeId verifications then .skip
      else .write .activeVerifications fun ids => List.append ids [challengeId]) <|
    .seq (put .failedAttempts fun _ => (0 : UInt32)) <|
    put .lastError fun _ => none

def updateVerificationStatus (_challengeId : String) (status : VerificationStatus) : Method :=
  let set : Method := put .verificationStatus fun _ => status
  match status with
  | .failed reason =>
    -- the error is recorded under the guard of the counter
    .seq (.guard .failedAttempts <|
      .seq (.write .failedAttempts Ffi.StateManager.satSucc) <|
      put .lastError fun _ => some reason) set
  | _ => set

def removeVerification (challengeId : String) : Method :=
  put .activeVerifications (List.filter fun id => id ≠ challengeId)

/-- The reason of a failed completion. -/
def completionReason (attempts : UInt32) : String :=
  s!"Verification failed after {(Ffi.StateManager.satSucc attempts).toNat} attempts"

/-- A completion, once its status is known. -/
def finishVerification (challengeId : String) (success : Bool) (status : VerificationStatus) :
    Method :=
  .seq (put .verificationStatus fun _ => status) <|
  .seq (removeVerification challengeId) <|
  if success then
    .seq (put .failedAttempts fun _ => (0 : UInt32)) <|
    put .lastError fun _ => none
  else .skip

def completeVerification (challengeId : String) (success : Bool) : Method :=
  if success then finishVerification challengeId success .verified
  else .fetch .failedAttempts fun attempts =>
    finishVerification challengeId success (.failed (completionReason attempts))

def cancelVerification (challengeId : String) : Method :=
  .seq (removeVerification challengeId) <|
  put .verificationStatus fun _ => .notStarted

def reset : Method :=
  .seq (put .verificationStatus fun _ => .notStarted) <|
  .seq (put .activeVerifications fun _ => []) <|
  .seq (put .failedAttempts fun _ => (0 : UInt32)) <|
  .seq (put .lastError fun _ => none) <|
  temp .biometricState

def getVerificationStatus : Method := temp .verificationStatus

/-! The methods come above the locks of the wallet and of its storage. -/

variable {own : Finset Lock}

theorem startVerification_above (id : String) : (startVerification id).Above own 3 := by
  refine Code.above_seq (put_above (by decide)) ?_
  refine Code.above_guard (q := 4) (by decide) (by decide) ?_
  refine Code.above_seq (Code.above_read (Finset.mem_insert_self _ _) fun ids => ?_) ?_
  · split
    · exact Code.above_skip
    · exact Code.above_write (Finset.mem_insert_self _ _)
  · exact Code.above_seq (put_above (by decide)) (put_above (by decide))

theorem updateVerificationStatus_above (id : String) (status : VerificationStatus) :
    (updateVerificationStatus id status).Above own 3 := by
  have hset : (put .verificationStatus fun _ => status).Above own 3 := put_above (by decide)
  cases status with
  | failed reason =>
    refine Code.above_seq ?_ hset
    refine Code.above_guard (q := 5) (by decide) (by decide) ?_
    exact Code.above_seq (Code.above_write (Finset.mem_insert_self _ _)) (put_above (by decide))
  | notStarted => exact hset
  | challengeReceived => exact hset
  | proofGenerated => exact hset
  | submitting => exact hset
  | verified => exact hset

theorem finishVerification_above (id : String) (success : Bool) (status : VerificationStatus) :
    (finishVerification id success status).Above own 3 := by
  refine Code.above_seq (put_above (by decide)) (Code.above_seq (put_above (by decide)) ?_)
  cases success with
  | true => exact Code.above_seq (put_above (by decide)) (put_above (by decide))
  | false => exact Code.above_skip

theorem completeVerification_above (id : String) (success : Bool) :
    (completeVerification id success).Above own 3 := by
  cases success with
  | true => exact finishVerification_above id true _
  | false => exact Code.above_fetch (by decide) fun _ => finishVerification_above id false _

theorem cancelVerification_above (id : String) : (cancelVerification id).Above own 3 :=
  Code.above_seq (put_above (by decide)) (put_above (by decide))

theorem reset_above : reset.Above own 3 := by
  refine Code.above_seq (put_above (by decide)) ?_
  refine Code.above_seq (put_above (by decide)) ?_
  refine Code.above_seq (put_above (by decide)) ?_
  exact Code.above_seq (put_above (by decide)) (temp_above (by decide))

end StateManager

/-! ## §3. The backends -/

/-- The calls of a backend.  They run under the lock of the storage, and
    what they lock themselves comes above it. -/
structure Backend where
  store : Method
  retrieve : Method
  delete : Method
  existsKey : Method
  listKeys : Method
  above : ∀ m ∈ [store, retrieve, delete, existsKey, listKeys], m.Above ∅ 3

namespace Android

def getKeystoreBridge : Method := temp .keystoreBridge

def deviceSupportsStrongbox : Method := temp .deviceProfile

/-- The statistics of the process are updated under the instance's own. -/
def updateMetrics : Method := .guard .metrics (temp .operationStats)

def updateCacheMetrics : Method := temp .metrics

def logSecurityEvent : Method := .choice .skip (temp .auditLog)

def authenticateBiometric : Method := getKeystoreBridge.thenTry logSecurityEvent

def storeSecure : Method :=
  (Code.choice .skip authenticateBiometric).thenTry <|
  getKeystoreBridge.thenTry <|
  deviceSupportsStrongbox.thenTry (.choice logSecurityEvent updateMetrics)

def retrieveSecure : Method :=
  (Code.choice .skip (.seq (temp .cache) updateCacheMetrics)).thenTry <|
  (Code.choice .skip authenticateBiometric).thenTry <|
  getKeystoreBridge.thenTry <|
  .seq (.choice .skip (temp .cache)) <|
  .seq deviceSupportsStrongbox updateMetrics

def deleteSecure : Method := getKeystoreBridge.thenTry (.choice .skip (temp .cache))

def listKeysSecure : Method := getKeystoreBridge

theorem updateMetrics_above : updateMetrics.Above ∅ 3 :=
  Code.above_guard (q := 4) (by decide) (by decide) (temp_above (by decide))

theorem logSecurityEvent_above : logSecurityEvent.Above ∅ 3 :=
  Code.above_choice Code.above_skip (temp_above (by decide))

theorem authenticateBiometric_above : authenticateBiometric.Above ∅ 3 :=
  Code.above_thenTry (temp_above (by decide)) logSecurityEvent_above

theorem storeSecure_above : storeSecure.Above ∅ 3 := by
  refine Code.above_thenTry (Code.above_choice Code.above_skip authenticateBiometric_above) ?_
  refine Code.above_thenTry (temp_above (by decide)) ?_
  refine Code.above_thenTry (temp_above (by decide)) ?_
  exact Code.above_choice logSecurityEvent_above updateMetrics_above

theorem retrieveSecure_above : retrieveSecure.Above ∅ 3 := by
  refine Code.above_thenTry (Code.above_choice Code.above_skip ?_) ?_
  · exact Code.above_seq (temp_above (by decide)) (temp_above (by decide))
  refine Code.above_thenTry (Code.above_choice Code.above_skip authenticateBiometric_above) ?_
  refine Code.above_thenTry (temp_above (by decide)) ?_
  refine Code.above_seq (Code.above_choice Code.above_skip (temp_above (by decide))) ?_
  exact Code.above_seq (temp_above (by decide)) updateMetrics_above

theorem deleteSecure_above : deleteSecure.Above ∅ 3 :=
  Code.above_thenTry (temp_above (by decide))
    (Code.above_choice Code.above_skip (temp_above (by decide)))

theorem listKeysSecure_above : listKeysSecure.Above ∅ 3 := temp_above (by decide)

/-- The Keystore backend.  What exists is looked up in the list of keys. -/
def backend : Backend where
  store := storeSecure
  retrieve := retrieveSecure
  delete := deleteSecure
  existsKey := listKeysSecure
  listKeys := listKeysSecure
  above := by
    simp only [List.forall_mem_cons]
    exact ⟨storeSecure_above, retrieveSecure_above, deleteSecure_above, listKeysSecure_above,
      listKeysSecure_above, fun _ h => absurd h List.not_mem_nil⟩

end Android

namespace Ios

def logSecurityEvent : Method := .choice .skip (temp .auditLog)

def storeSecure : Method :=
  .choice .skip <|
  .seq (temp .metrics) <|
  .seq (temp .operationStats) <|
  .seq (.choice .skip (temp .cache)) logSecurityEvent

def retrieveSecure : Method :=
  (Code.choice .skip ((temp .cache).thenTry (temp .metrics))).thenTry <|
  (Code.choice .skip (temp .metrics)).thenTry <|
  .seq (temp .metrics) (.choice .skip (temp .cache))

def deleteSecure : Method := .choice .skip (.seq (.choice .skip (temp .cache)) logSecurityEvent)

theorem logSecurityEvent_above : logSecurityEvent.Above ∅ 3 :=
  Code.above_choice Code.above_skip (temp_above (by decide))

theorem storeSecure_above : storeSecure.Above ∅ 3 := by
  refine Code.above_choice Code.above_skip (Code.above_seq (temp_above (by decide)) ?_)
  refine Code.above_seq (temp_above (by decide)) ?_
  refine Code.above_seq (Code.above_choice Code.above_skip (temp_above (by decide))) ?_
  exact logSecurityEvent_above

theorem retrieveSecure_above : retrieveSecure.Above ∅ 3 := by
  refine Code.above_thenTry (Code.above_choice Code.above_skip ?_) ?_
  · exact Code.above_thenTry (temp_above (by decide)) (temp_above (by decide))
  refine Code.above_thenTry (Code.above_choice Code.above_skip (temp_above (by decide))) ?_
  refine Code.above_seq (temp_above (by decide)) ?_
  exact Code.above_choice Code.above_skip (temp_above (by decide))

theorem deleteSecure_above : deleteSecure.Above ∅ 3 := by
  refine Code.above_choice Code.above_skip (Code.above_seq ?_ logSecurityEvent_above)
  exact Code.above_choice Code.above_skip (temp_above (by decide))

/-- The Keychain backend.  Keys are listed and looked up without a lock. -/
def backend : Backend where
  store := storeSecure
  retrieve := retrieveSecure
  delete := deleteSecure
  existsKey := .skip
  listKeys := .skip
  above := by
    simp only [List.forall_mem_cons]
    exact ⟨storeSecure_above, retrieveSecure_above, deleteSecure_above, Code.above_skip,
      Code.above_skip, fun _ h => absurd h List.not_mem_nil⟩

end Ios

/-- The store of the desktop builds, one map behind one mutex. -/
def memoryStorage : Backend where
  store := temp .data
  retrieve := temp .data
  delete := temp .data
  existsKey := temp .data
  listKeys := temp .data
  above := by
    intro m hm
    have htemp : m = temp .data := by simpa using hm
    rw [htemp]
    exact temp_above (Int.le_refl 3)

namespace Backend

variable (b : Backend) {own : Finset Lock}

theorem Above.weaken {m : Method} (h : m.Above ∅ 3) : m.Above own 3 :=
  Code.Above.mono h (Int.le_refl 3) (Finset.empty_subset own)

theorem store_above : b.store.Above own 3 := Above.weaken (b.above _ (by simp))

theorem retrieve_above : b.retrieve.Above own 3 := Above.weaken (b.above _ (by simp))

theorem delete_above : b.delete.Above own 3 := Above.weaken (b.above _ (by simp))

theorem existsKey_above : b.existsKey.Above own 3 := Above.weaken (b.above _ (by simp))

theorem listKeys_above : b.listKeys.Above own 3 := Above.weaken (b.above _ (by simp))

end Backend

/-! ## §4. Storage -/

namespace Storage

variable (b : Backend)

/-- A method that goes on only if a backend is attached, and holds the
    lock to its end. -/
def withBackend (body : Method) : Method := .guard .backend (.choice .skip body)

def setBackend : Method := temp .backend

def isAvailable : Method := temp .backend

def storeCredentialWithSlot : Method :=
  withBackend <| b.listKeys.thenTry <| (Code.loop (.choice .skip b.delete)).thenTry b.store

def storeCredentialSecrets : Method := withBackend b.store

def credentialSecretsExist : Method := withBackend b.existsKey

def loadCredentialSecrets : Method := withBackend b.retrieve

def getCredential : Method := withBackend b.retrieve

def listCredentials : Method :=
  withBackend <| b.listKeys.thenTry <| .loop <| .choice .skip <| b.retrieve.thenTry b.existsKey

def nextAvailableManagedIndex : Method := withBackend b.listKeys

def updateCredentialNickname : Method := withBackend (b.retrieve.thenTry b.store)

def deleteCredential : Method := withBackend (b.delete.thenTry b.delete)

def deleteSandboxCredentials : Method :=
  withBackend <| b.listKeys.thenTry <| .loop <| .choice .skip b.delete

/-! The methods come above the locks of the wallet. -/

variable {own : Finset Lock}

theorem withBackend_above {body : Method} (h : body.Above (insert .backend own) 3) :
    (withBackend body).Above own 2 :=
  Code.above_guard (by decide) (by decide) (Code.above_choice Code.above_skip h)

theorem storeCredentialWithSlot_above : (storeCredentialWithSlot b).Above own 2 := by
  refine withBackend_above (Code.above_thenTry b.listKeys_above ?_)
  refine Code.above_thenTry (Code.above_loop ?_) b.store_above
  exact Code.above_choice Code.above_skip b.delete_above

theorem storeCredentialSecrets_above : (storeCredentialSecrets b).Above own 2 :=
  withBackend_above b.store_above

theorem credentialSecretsExist_above : (credentialSecretsExist b).Above own 2 :=
  withBackend_above b.existsKey_above

theorem loadCredentialSecrets_above : (loadCredentialSecrets b).Above own 2 :=
  withBackend_above b.retrieve_above

theorem getCredential_above : (getCredential b).Above own 2 := withBackend_above b.retrieve_above

theorem listCredentials_above : (listCredentials b).Above own 2 := by
  refine withBackend_above (Code.above_thenTry b.listKeys_above (Code.above_loop ?_))
  refine Code.above_choice Code.above_skip ?_
  exact Code.above_thenTry b.retrieve_above b.existsKey_above

theorem nextAvailableManagedIndex_above : (nextAvailableManagedIndex b).Above own 2 :=
  withBackend_above b.listKeys_above

theorem updateCredentialNickname_above : (updateCredentialNickname b).Above own 2 :=
  withBackend_above (Code.above_thenTry b.retrieve_above b.store_above)

theorem deleteCredential_above : (deleteCredential b).Above own 2 :=
  withBackend_above (Code.above_thenTry b.delete_above b.delete_above)

theorem deleteSandboxCredentials_above : (deleteSandboxCredentials b).Above own 2 := by
  refine withBackend_above (Code.above_thenTry b.listKeys_above (Code.above_loop ?_))
  exact Code.above_choice Code.above_skip b.delete_above

end Storage

end ProviiSdk.Mutexes
