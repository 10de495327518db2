/-
  ProviiSdk.Wallet.LockOrder — the wallet under any number of threads.

  The host calls the SDK from any thread it likes, and its listeners call
  back while a progress report holds their list.  This file gives the
  locks of the calls and runs threads of them in any order: the methods of
  the wallet and of the trackers, the download of the proving key, and the
  free functions that ask the issuer or set the user agent.  The other
  free functions take none of these locks.  Trackers are numbered, and a
  listener calls trackers of lower numbers only.

  Main results:
    * `calls_finish` — in every run of any calls on any number of threads
      no set of threads blocks one another: from every state some schedule
      ends all of them, and a thread that waits for the network holds no
      lock of the wallet.
    * `reentrant_listener_blocks` — the exception: a listener that calls
      its own tracker's list of listeners blocks its thread for good.
-/

import ProviiSdk.Wallet.Mutexes

namespace ProviiSdk.Mutexes

open ProviiSdk.Locks ProviiSdk.Ffi ProviiSdk.Run

/-! ## §1. The wallet -/

/-- A request is sent: once there is a connection its header is written,
    the user agent copied into it, and the answer awaited. -/
def send : Method := .seq .wait (.choice .skip (.seq (temp .userAgent) .wait))

theorem send_above {r : Int} (h : r ≤ 0) : send.Above ∅ r := by
  refine Code.above_seq (Code.above_wait h) (Code.above_choice Code.above_skip ?_)
  exact Code.above_seq (temp_above (h.trans (by decide))) (Code.above_wait h)

namespace Wallet

variable (b : Backend)

/-- A request to the verifier.  Its address is read under a guard that is
    gone when the request is sent. -/
def request : Method := .seq (temp .config) send

def cleanupExpiredCredentials : Method :=
  (Storage.listCredentials b).thenTry <| .loop <| .choice .skip (Storage.deleteCredential b)

def persistAnchorToStorage : Method := .choice .skip (Storage.withBackend b.store)

def loadAnchorFromStorage : Method := Storage.withBackend b.retrieve

def setStorageHandle : Method :=
  .seq Storage.setBackend <|
  .seq (cleanupExpiredCredentials b) <|
  .seq (loadAnchorFromStorage b) <|
  .choice .skip (temp .issuerTrustAnchor)

/-- The anchor is persisted before its guard is gone. -/
def refreshIssuerKeys : Method :=
  .choice .skip (.guard .issuerTrustAnchor (persistAnchorToStorage b))

def debugPreflight : Method :=
  (Storage.getCredential b).thenTry <|
  (Code.choice .skip (Storage.loadCredentialSecrets b)).thenTry (temp .cachedChallenges)

def getDiagnosticInfo : Method :=
  .guard .config (.seq (Storage.listCredentials b) Storage.isAvailable)

def resolveSlot : Method := .choice .skip (Storage.nextAvailableManagedIndex b)

def importCredentialInternal : Method :=
  .choice .skip <|
  (Storage.storeCredentialWithSlot b).thenTry (Storage.storeCredentialSecrets b)

def importCredentialWithType : Method := (resolveSlot b).thenTry (importCredentialInternal b)

def finalizeAndStoreCredential : Method :=
  (resolveSlot b).thenTry <|
  (temp .issuerTrustAnchor).thenTry <|
  (Storage.storeCredentialWithSlot b).thenTry (Storage.storeCredentialSecrets b)

def getProvableCredentialsForChallenge : Method :=
  (temp .cachedChallenges).thenTry <|
  (Storage.listCredentials b).thenTry <|
  .seq (temp .config) <|
  .loop (.choice .skip (Storage.loadCredentialSecrets b))

def getAvailableSlotCount : Method := (Storage.listCredentials b).thenTry (temp .config)

/-- The challenge cache stays locked from the lookup to the end. -/
def createAgeProof (challengeId : String) : Method :=
  .guard .cachedChallenges <| .choice .skip <|
    (Storage.getCredential b).thenTry <|
    (Code.choice .skip (Storage.loadCredentialSecrets b)).thenTry <|
    StateManager.updateVerificationStatus challengeId .proofGenerated

def createAgeProofAuto (challengeId : String) : Method :=
  (temp .cachedChallenges).thenTry <|
  (Storage.listCredentials b).thenTry <|
  .seq (temp .config) <|
  .choice (.choice .skip (createAgeProof b challengeId)) <|
  .loop (.choice .skip (Storage.loadCredentialSecrets b))

def diagnoseProofFailure : Method :=
  (Storage.getCredential b).thenTry <|
  (Storage.loadCredentialSecrets b).thenTry (temp .cachedChallenges)

/-- The verifier says whether the proof was accepted. -/
def submitProof (challengeId : String) : Method :=
  .choice .skip <| request.thenTry <|
  .choice (StateManager.completeVerification challengeId true)
    (StateManager.completeVerification challengeId false)

def parseQrPayloadInternal : Method := .choice .skip request

def fetchChallengeByShortCode : Method := .choice .skip request

/-- A challenge goes into the cache, and its verification is started
    before the guard of the cache is gone. -/
def cacheChallenge (challengeId : String) : Method :=
  .guard .cachedChallenges (.choice .skip (StateManager.startVerification challengeId))

def processQrChallenge (challengeId : String) : Method :=
  parseQrPayloadInternal.thenTry (cacheChallenge challengeId)

def processManualEntry (challengeId : String) : Method :=
  fetchChallengeByShortCode.thenTry (cacheChallenge challengeId)

/-- The two secrets of the wallet are wiped if their locks are free; the
    session state is waited for. -/
def emergencyZeroize : Method :=
  .seq (.tryGuard .cachedChallenges .skip .skip) <|
  .seq (.tryGuard .config .skip .skip) StateManager.reset

/-- The destructor. -/
def drop : Method :=
  .seq (.tryGuard .config .skip .skip) (.tryGuard .cachedChallenges .skip .skip)

variable {own : Finset Lock}

/-! No guard comes out of order.  What waits for the network does so below
    the locks of the wallet. -/

theorem request_above : request.Above ∅ 0 :=
  Code.above_seq (temp_above (by decide)) (send_above (Int.le_refl 0))

theorem cleanupExpiredCredentials_above : (cleanupExpiredCredentials b).Above ∅ 2 := by
  refine Code.above_thenTry (Storage.listCredentials_above b) (Code.above_loop ?_)
  exact Code.above_choice Code.above_skip (Storage.deleteCredential_above b)

theorem setStorageHandle_above : (setStorageHandle b).Above ∅ 1 := by
  have hload : (loadAnchorFromStorage b).Above ∅ 2 := Storage.withBackend_above b.retrieve_above
  refine Code.above_seq (temp_above (by decide)) ?_
  refine Code.above_seq ((cleanupExpiredCredentials_above b).of_le (by decide)) ?_
  refine Code.above_seq (hload.of_le (by decide)) ?_
  exact Code.above_choice Code.above_skip (temp_above (by decide))

theorem refreshIssuerKeys_above : (refreshIssuerKeys b).Above ∅ 1 := by
  refine Code.above_choice Code.above_skip ?_
  refine Code.above_guard (q := 2) (by decide) (by decide) ?_
  exact Code.above_choice Code.above_skip (Storage.withBackend_above b.store_above)

theorem debugPreflight_above : (debugPreflight b).Above ∅ 1 := by
  refine Code.above_thenTry ((Storage.getCredential_above b).of_le (by decide)) ?_
  refine Code.above_thenTry (Code.above_choice Code.above_skip ?_) (temp_above (by decide))
  exact (Storage.loadCredentialSecrets_above b).of_le (by decide)

theorem getDiagnosticInfo_above : (getDiagnosticInfo b).Above ∅ 1 := by
  refine Code.above_guard (q := 2) (by decide) (by decide) ?_
  exact Code.above_seq (Storage.listCredentials_above b) (temp_above (by decide))

theorem resolveSlot_above : (resolveSlot b).Above ∅ 2 :=
  Code.above_choice Code.above_skip (Storage.nextAvailableManagedIndex_above b)

theorem importCredentialInternal_above : (importCredentialInternal b).Above ∅ 2 := by
  refine Code.above_choice Code.above_skip ?_
  exact Code.above_thenTry (Storage.storeCredentialWithSlot_above b)
    (Storage.storeCredentialSecrets_above b)

theorem importCredentialWithType_above : (importCredentialWithType b).Above ∅ 2 :=
  Code.above_thenTry (resolveSlot_above b) (importCredentialInternal_above b)

theorem finalizeAndStoreCredential_above : (finalizeAndStoreCredential b).Above ∅ 1 := by
  refine Code.above_thenTry ((resolveSlot_above b).of_le (by decide)) ?_
  refine Code.above_thenTry (temp_above (by decide)) ?_
  exact Code.above_thenTry ((Storage.storeCredentialWithSlot_above b).of_le (by decide))
    ((Storage.storeCredentialSecrets_above b).of_le (by decide))

/-- The rest of a method that asks for each credential whether it will do. -/
theorem suitability_above :
    (Code.loop (.choice .skip (Storage.loadCredentialSecrets b))).Above rank world ∅ 1 := by
  refine Code.above_loop (Code.above_choice Code.above_skip ?_)
  exact (Storage.loadCredentialSecrets_above b).of_le (by decide)

theorem getProvableCredentialsForChallenge_above :
    (getProvableCredentialsForChallenge b).Above ∅ 1 := by
  refine Code.above_thenTry (temp_above (by decide)) ?_
  refine Code.above_thenTry ((Storage.listCredentials_above b).of_le (by decide)) ?_
  exact Code.above_seq (temp_above (by decide)) (suitability_above b)

theorem getAvailableSlotCount_above : (getAvailableSlotCount b).Above ∅ 1 :=
  Code.above_thenTry ((Storage.listCredentials_above b).of_le (by decide))
    (temp_above (by decide))

theorem createAgeProof_above (id : String) : (createAgeProof b id).Above ∅ 1 := by
  refine Code.above_guard (q := 2) (by decide) (by decide) ?_
  refine Code.above_choice Code.above_skip ?_
  refine Code.above_thenTry (Storage.getCredential_above b) ?_
  refine Code.above_thenTry (Code.above_choice Code.above_skip ?_) ?_
  · exact Storage.loadCredentialSecrets_above b
  · exact (StateManager.updateVerificationStatus_above id _).of_le (by decide)

theorem createAgeProofAuto_above (id : String) : (createAgeProofAuto b id).Above ∅ 1 := by
  refine Code.above_thenTry (temp_above (by decide)) ?_
  refine Code.above_thenTry ((Storage.listCredentials_above b).of_le (by decide)) ?_
  refine Code.above_seq (temp_above (by decide)) (Code.above_choice ?_ (suitability_above b))
  exact Code.above_choice Code.above_skip (createAgeProof_above b id)

theorem diagnoseProofFailure_above : (diagnoseProofFailure b).Above ∅ 1 := by
  refine Code.above_thenTry ((Storage.getCredential_above b).of_le (by decide)) ?_
  refine Code.above_thenTry ?_ (temp_above (by decide))
  exact (Storage.loadCredentialSecrets_above b).of_le (by decide)

theorem submitProof_above (id : String) : (submitProof id).Above ∅ 0 := by
  have hcomplete : ∀ success, (StateManager.completeVerification id success).Above ∅ 0 :=
    fun success => (StateManager.completeVerification_above id success).of_le (by decide)
  refine Code.above_choice Code.above_skip (Code.above_thenTry request_above ?_)
  exact Code.above_choice (hcomplete true) (hcomplete false)

theorem parseQrPayloadInternal_above : parseQrPayloadInternal.Above ∅ 0 :=
  Code.above_choice Code.above_skip request_above

theorem cacheChallenge_above (id : String) : (cacheChallenge id).Above ∅ 0 := by
  refine Code.above_guard (q := 3) (by decide) (by decide) ?_
  exact Code.above_choice Code.above_skip (StateManager.startVerification_above id)

/-- A secret wiped under a lock that is only tried: the order of the locks
    asks nothing of what is held. -/
theorem wipe_above {l : Lock} (hl : rank l < 2) :
    Method.Above own 2 (.tryGuard l .skip .skip) :=
  Code.above_tryGuard (Int.le_refl 2) hl Code.above_skip Code.above_skip

theorem emergencyZeroize_above : emergencyZeroize.Above own 2 := by
  have hreset : StateManager.reset.Above own 2 := StateManager.reset_above.of_le (by decide)
  refine Code.above_seq (wipe_above (by decide)) ?_
  exact Code.above_seq (wipe_above (by decide)) hreset

theorem drop_above : drop.Above ∅ 2 :=
  Code.above_seq (wipe_above (by decide)) (wipe_above (by decide))

end Wallet

/-! ## §2. Progress trackers -/

namespace ProgressTracker

variable (t : Nat)

def addListener : Method := temp (.listeners t)

def removeAllListeners : Method := temp (.listeners t)

def getListenerCount : Method := temp (.listeners t)

def getCurrentStage : Method := temp (.currentStage t)

def getElapsedTimeSecs : Method := temp (.startTime t)

/-- The listeners are called one after the other while their list is
    locked; `callbacks` is what they run. -/
def reportProgress (callbacks : List Method) : Method :=
  .seq (temp (.currentStage t)) <|
  .seq (temp (.lastUpdateTime t)) <|
  .seq (temp (.stageHistory t)) <|
  .seq (temp (.startTime t)) <|
  .guard (.listeners t) (Code.all callbacks)

def reset : Method :=
  .seq (temp (.currentStage t)) <|
  .seq (temp (.startTime t)) <|
  .seq (temp (.lastUpdateTime t)) (temp (.stageHistory t))

def markFailed (callbacks : List Method) : Method :=
  .seq (reportProgress t callbacks) (temp (.startTime t))

def markCompleted (callbacks : List Method) : Method :=
  .seq (temp (.currentStage t)) <|
  .seq (reportProgress t callbacks) (temp (.startTime t))

variable {t} {r : Int} {callbacks : List Method}

/-- The cells of a tracker come above its listeners. -/
theorem cells_above (h : r ≤ rank (.listeners t)) : r ≤ 3 := by
  have hrank : rank (.listeners t) = -(t : Int) - 1 := rfl
  omega

theorem reportProgress_above (h : r ≤ rank (.listeners t))
    (hcallbacks : ∀ c ∈ callbacks, c.Above ∅ (-(t : Int))) :
    (reportProgress t callbacks).Above ∅ r := by
  refine Code.above_seq (temp_above (cells_above h)) ?_
  refine Code.above_seq (temp_above (cells_above h)) ?_
  refine Code.above_seq (temp_above (cells_above h)) ?_
  refine Code.above_seq (temp_above (cells_above h)) ?_
  refine Code.above_guard (q := -(t : Int)) h ?_ (Code.above_all fun c hc => ?_)
  · show -(t : Int) - 1 < -(t : Int)
    omega
  · exact (hcallbacks c hc).mono (Int.le_refl _) (Finset.empty_subset _)

theorem reset_above (h : r ≤ 3) : (reset t).Above ∅ r := by
  refine Code.above_seq (temp_above h) (Code.above_seq (temp_above h) ?_)
  exact Code.above_seq (temp_above h) (temp_above h)

end ProgressTracker

/-! ## §3. The download of the proving key -/

/-- Each attempt is booked under the lock of the budget; the bytes come
    without it, by one request or two, and the listener is told of them. -/
def provingKeyDownload (callbacks : List Method) : Method :=
  .loop <| (temp .retryState).thenTry <|
    .seq (.seq (send.thenTry send) (Code.all callbacks)) <|
    (temp .retryState).thenTry .wait

theorem provingKeyDownload_above {r : Int} {callbacks : List Method} (h : r ≤ 0)
    (hcallbacks : ∀ c ∈ callbacks, c.Above ∅ r) : (provingKeyDownload callbacks).Above ∅ r := by
  have hretry : (temp .retryState).Above ∅ r := temp_above (h.trans (by decide))
  refine Code.above_loop (Code.above_thenTry hretry ?_)
  have hsend : Method.Above ∅ r (send.thenTry send) :=
    Code.above_thenTry (send_above h) (send_above h)
  refine Code.above_seq (Code.above_seq hsend (Code.above_all hcallbacks)) ?_
  exact Code.above_thenTry hretry (Code.above_wait h)

/-! ## §4. The calls of the host -/

/-- A call of the host: a method of the wallet or of a tracker, the
    download of the proving key, or a free function that takes a lock.  A
    report carries what the listeners run in answer to it. -/
inductive ApiCall where
  | setStorageHandle
  | refreshIssuerKeys
  | setVerifierBaseUrl
  | getVerifierBaseUrl
  | debugPreflight
  | getConfig
  | updateConfig
  | getDiagnosticInfo
  | hasCredentialSecrets
  | getChallengeDiagnostics
  | importCredential
  | importCredentialWithType
  | storeCredentialWithLabel
  | listCredentials
  | getCredential
  | deleteSandboxCredentials
  | deleteCredential
  | updateCredentialNickname
  | getProvableCredentialsForChallenge
  | getAvailableSlotCount
  | finalizeAndStoreCredential
  | hasValidCredential
  | createAgeProof (challengeId : String)
  | createAgeProofAuto (challengeId : String)
  | diagnoseProofFailure
  | submitProof (challengeId : String)
  | checkNetworkStatus
  | getVerificationStatus
  | cancelVerification (challengeId : String)
  | processScannedQr
  | processQrChallenge (challengeId : String)
  | parseQrPayload
  | validateQr
  | fetchChallengeDetails
  | fetchChallengeByShortCode
  | processManualEntry (challengeId : String)
  | cleanupExpiredCredentials
  | cleanupExpiredChallenges
  | emergencyZeroize
  | drop
  | addListener (t : Nat)
  | removeAllListeners (t : Nat)
  | getListenerCount (t : Nat)
  | getCurrentStage (t : Nat)
  | getElapsedTimeSecs (t : Nat)
  | resetTracker (t : Nat)
  | reportProgress (t : Nat) (callbacks : List Method)
  | markFailed (t : Nat) (callbacks : List Method)
  | markCompleted (t : Nat) (callbacks : List Method)
  | provingKeyDownload (callbacks : List Method)
  | sdkSetUserAgent
  | sdkIssueGetYubikeyChallenge
  | sdkIssueStartSession
  | sdkIssueSignCommitment
  | sdkIssueBlind
  | sdkCreateAttestation

namespace ApiCall

variable (b : Backend)

/-- The text of a call. -/
def method : ApiCall → Method
  | setStorageHandle => Wallet.setStorageHandle b
  | refreshIssuerKeys => Wallet.refreshIssuerKeys b
  | setVerifierBaseUrl => .choice .skip (temp .config)
  | getVerifierBaseUrl => temp .config
  | debugPreflight => Wallet.debugPreflight b
  | getConfig => temp .config
  | updateConfig => .choice .skip (temp .config)
  | getDiagnosticInfo => Wallet.getDiagnosticInfo b
  | hasCredentialSecrets => Storage.credentialSecretsExist b
  | getChallengeDiagnostics => temp .cachedChallenges
  | importCredential => Wallet.importCredentialInternal b
  | importCredentialWithType => Wallet.importCredentialWithType b
  | storeCredentialWithLabel => Wallet.importCredentialWithType b
  | listCredentials => Storage.listCredentials b
  | getCredential => Storage.getCredential b
  | deleteSandboxCredentials => Storage.deleteSandboxCredentials b
  | deleteCredential => Storage.deleteCredential b
  | updateCredentialNickname => Storage.updateCredentialNickname b
  | getProvableCredentialsForChallenge => Wallet.getProvableCredentialsForChallenge b
  | getAvailableSlotCount => Wallet.getAvailableSlotCount b
  | finalizeAndStoreCredential => Wallet.finalizeAndStoreCredential b
  | hasValidCredential => Storage.listCredentials b
  | createAgeProof challengeId => Wallet.createAgeProof b challengeId
  | createAgeProofAuto challengeId => Wallet.createAgeProofAuto b challengeId
  | diagnoseProofFailure => Wallet.diagnoseProofFailure b
  | submitProof challengeId => Wallet.submitProof challengeId
  | checkNetworkStatus => Wallet.request
  | getVerificationStatus => StateManager.getVerificationStatus
  | cancelVerification challengeId => StateManager.cancelVerification challengeId
  | processScannedQr => Wallet.parseQrPayloadInternal
  | processQrChallenge challengeId => Wallet.processQrChallenge challengeId
  | parseQrPayload => Wallet.parseQrPayloadInternal
  | validateQr => Wallet.parseQrPayloadInternal
  | fetchChallengeDetails => .choice .skip Wallet.request
  | fetchChallengeByShortCode => Wallet.fetchChallengeByShortCode
  | processManualEntry challengeId => Wallet.processManualEntry challengeId
  | cleanupExpiredCredentials => Wallet.cleanupExpiredCredentials b
  | cleanupExpiredChallenges => temp .cachedChallenges
  | emergencyZeroize => Wallet.emergencyZeroize
  | drop => Wallet.drop
  | addListener t => ProgressTracker.addListener t
  | removeAllListeners t => ProgressTracker.removeAllListeners t
  | getListenerCount t => ProgressTracker.getListenerCount t
  | getCurrentStage t => ProgressTracker.getCurrentStage t
  | getElapsedTimeSecs t => ProgressTracker.getElapsedTimeSecs t
  | resetTracker t => ProgressTracker.reset t
  | reportProgress t callbacks => ProgressTracker.reportProgress t callbacks
  | markFailed t callbacks => ProgressTracker.markFailed t callbacks
  | markCompleted t callbacks => ProgressTracker.markCompleted t callbacks
  | provingKeyDownload callbacks => Mutexes.provingKeyDownload callbacks
  | sdkSetUserAgent => temp .userAgent
  | sdkIssueGetYubikeyChallenge => .choice .skip send
  | sdkIssueStartSession => .choice .skip send
  | sdkIssueSignCommitment => .choice .skip send
  | sdkIssueBlind => .choice .skip send
  | sdkCreateAttestation => .choice .skip send

/-- The call may be made where only locks below `r` are held: its tracker
    comes above them, and its listeners keep to what comes above the
    tracker. -/
def Allowed (r : Int) : ApiCall → Prop
  | addListener t => r ≤ rank (.listeners t)
  | removeAllListeners t => r ≤ rank (.listeners t)
  | getListenerCount t => r ≤ rank (.listeners t)
  | reportProgress t callbacks =>
    r ≤ rank (.listeners t) ∧ ∀ c ∈ callbacks, c.Above ∅ (-(t : Int))
  | markFailed t callbacks => r ≤ rank (.listeners t) ∧ ∀ c ∈ callbacks, c.Above ∅ (-(t : Int))
  | markCompleted t callbacks =>
    r ≤ rank (.listeners t) ∧ ∀ c ∈ callbacks, c.Above ∅ (-(t : Int))
  | provingKeyDownload callbacks => r ≤ 0 ∧ ∀ c ∈ callbacks, c.Above ∅ r
  | _ => r ≤ 0

/-- **Every call keeps the order of the locks.** -/
theorem method_above {r : Int} {call : ApiCall} (h : call.Allowed r) :
    (call.method b).Above ∅ r := by
  cases call with
  | setStorageHandle => exact (Wallet.setStorageHandle_above b).of_le (h.trans (by decide))
  | refreshIssuerKeys => exact (Wallet.refreshIssuerKeys_above b).of_le (h.trans (by decide))
  | setVerifierBaseUrl =>
    exact Code.above_choice Code.above_skip (temp_above (h.trans (by decide)))
  | getVerifierBaseUrl => exact temp_above (h.trans (by decide))
  | debugPreflight => exact (Wallet.debugPreflight_above b).of_le (h.trans (by decide))
  | getConfig => exact temp_above (h.trans (by decide))
  | updateConfig => exact Code.above_choice Code.above_skip (temp_above (h.trans (by decide)))
  | getDiagnosticInfo => exact (Wallet.getDiagnosticInfo_above b).of_le (h.trans (by decide))
  | hasCredentialSecrets =>
    exact (Storage.credentialSecretsExist_above b).of_le (h.trans (by decide))
  | getChallengeDiagnostics => exact temp_above (h.trans (by decide))
  | importCredential =>
    exact (Wallet.importCredentialInternal_above b).of_le (h.trans (by decide))
  | importCredentialWithType =>
    exact (Wallet.importCredentialWithType_above b).of_le (h.trans (by decide))
  | storeCredentialWithLabel =>
    exact (Wallet.importCredentialWithType_above b).of_le (h.trans (by decide))
  | listCredentials => exact (Storage.listCredentials_above b).of_le (h.trans (by decide))
  | getCredential => exact (Storage.getCredential_above b).of_le (h.trans (by decide))
  | deleteSandboxCredentials =>
    exact (Storage.deleteSandboxCredentials_above b).of_le (h.trans (by decide))
  | deleteCredential => exact (Storage.deleteCredential_above b).of_le (h.trans (by decide))
  | updateCredentialNickname =>
    exact (Storage.updateCredentialNickname_above b).of_le (h.trans (by decide))
  | getProvableCredentialsForChallenge =>
    exact (Wallet.getProvableCredentialsForChallenge_above b).of_le (h.trans (by decide))
  | getAvailableSlotCount =>
    exact (Wallet.getAvailableSlotCount_above b).of_le (h.trans (by decide))
  | finalizeAndStoreCredential =>
    exact (Wallet.finalizeAndStoreCredential_above b).of_le (h.trans (by decide))
  | hasValidCredential => exact (Storage.listCredentials_above b).of_le (h.trans (by decide))
  | createAgeProof id => exact (Wallet.createAgeProof_above b id).of_le (h.trans (by decide))
  | createAgeProofAuto id =>
    exact (Wallet.createAgeProofAuto_above b id).of_le (h.trans (by decide))
  | diagnoseProofFailure =>
    exact (Wallet.diagnoseProofFailure_above b).of_le (h.trans (by decide))
  | submitProof id => exact (Wallet.submitProof_above id).of_le h
  | checkNetworkStatus => exact Wallet.request_above.of_le h
  | getVerificationStatus => exact temp_above (h.trans (by decide))
  | cancelVerification id =>
    exact (StateManager.cancelVerification_above id).of_le (h.trans (by decide))
  | processScannedQr => exact Wallet.parseQrPayloadInternal_above.of_le h
  | processQrChallenge id =>
    exact (Code.above_thenTry Wallet.parseQrPayloadInternal_above
      (Wallet.cacheChallenge_above id)).of_le h
  | parseQrPayload => exact Wallet.parseQrPayloadInternal_above.of_le h
  | validateQr => exact Wallet.parseQrPayloadInternal_above.of_le h
  | fetchChallengeDetails => exact Wallet.parseQrPayloadInternal_above.of_le h
  | fetchChallengeByShortCode => exact Wallet.parseQrPayloadInternal_above.of_le h
  | processManualEntry id =>
    exact (Code.above_thenTry Wallet.parseQrPayloadInternal_above
      (Wallet.cacheChallenge_above id)).of_le h
  | cleanupExpiredCredentials =>
    exact (Wallet.cleanupExpiredCredentials_above b).of_le (h.trans (by decide))
  | cleanupExpiredChallenges => exact temp_above (h.trans (by decide))
  | emergencyZeroize => exact Wallet.emergencyZeroize_above.of_le (h.trans (by decide))
  | drop => exact Wallet.drop_above.of_le (h.trans (by decide))
  | addListener t => exact temp_above h
  | removeAllListeners t => exact temp_above h
  | getListenerCount t => exact temp_above h
  | getCurrentStage t => exact temp_above (h.trans (show (0 : Int) ≤ 3 by decide))
  | getElapsedTimeSecs t => exact temp_above (h.trans (show (0 : Int) ≤ 3 by decide))
  | resetTracker t => exact ProgressTracker.reset_above (h.trans (by decide))
  | reportProgress t callbacks => exact ProgressTracker.reportProgress_above h.1 h.2
  | markFailed t callbacks =>
    exact Code.above_seq (ProgressTracker.reportProgress_above h.1 h.2)
      (temp_above (ProgressTracker.cells_above h.1))
  | markCompleted t callbacks =>
    refine Code.above_seq (temp_above (ProgressTracker.cells_above h.1)) ?_
    exact Code.above_seq (ProgressTracker.reportProgress_above h.1 h.2)
      (temp_above (ProgressTracker.cells_above h.1))
  | provingKeyDownload callbacks => exact provingKeyDownload_above h.1 h.2
  | sdkSetUserAgent => exact temp_above (h.trans (by decide))
  | sdkIssueGetYubikeyChallenge => exact Code.above_choice Code.above_skip (send_above h)
  | sdkIssueStartSession => exact Code.above_choice Code.above_skip (send_above h)
  | sdkIssueSignCommitment => exact Code.above_choice Code.above_skip (send_above h)
  | sdkIssueBlind => exact Code.above_choice Code.above_skip (send_above h)
  | sdkCreateAttestation => exact Code.above_choice Code.above_skip (send_above h)

end ApiCall

/-- The calls of one thread, one after the other. -/
def program (b : Backend) (calls : List ApiCall) : Method :=
  Code.all (calls.map (ApiCall.method b))

/-- What a listener may run: calls that come above its tracker. -/
theorem program_above (b : Backend) {r : Int} {calls : List ApiCall}
    (h : ∀ call ∈ calls, call.Allowed r) : (program b calls).Above ∅ r := by
  refine Code.above_all fun m hm => ?_
  obtain ⟨call, hcall, rfl⟩ := List.mem_map.1 hm
  exact ApiCall.method_above b (h call hcall)

/-! ## §5. No deadlock -/

/-- A call whose listeners, all the way down, call trackers of lower
    numbers than their own only. -/
def ApiCall.WellNested (call : ApiCall) : Prop := ∃ r, call.Allowed r

/-- The threads that are started run exported calls. -/
def HostAct (b : Backend) : Act Lock Cell → Prop
  | .spawn c => ∃ calls : List ApiCall, (∀ call ∈ calls, call.WellNested) ∧ c = program b calls
  | .tick _ _ => True

/-- The cells of a new wallet. -/
def initialCells : (l : Lock) → Cell l
  | .verificationStatus => VerificationStatus.notStarted
  | .activeVerifications => ([] : List String)
  | .failedAttempts => (0 : UInt32)
  | .lastError => (none : Option String)
  | .config => () | .cachedChallenges => () | .issuerTrustAnchor => () | .backend => ()
  | .biometricState => () | .listeners _ => () | .currentStage _ => () | .lastUpdateTime _ => ()
  | .stageHistory _ => () | .startTime _ => () | .retryState => () | .userAgent => ()
  | .keystoreBridge => () | .deviceProfile => () | .cache => () | .metrics => () | .operationStats => ()
  | .auditLog => () | .data => ()

/-- The wallet before any call. -/
def idle (cells : (l : Lock) → Cell l) : System Lock Cell := { cells := cells, threads := [] }

theorem idle_sound (cells : (l : Lock) → Cell l) : Sound rank world (idle cells) where
  ordered := fun _ h => absurd h List.not_mem_nil
  apart := fun _ _ _ _ h => absurd h (by simp [idle])

theorem ordered_of_hostAct {b : Backend} {a : Act Lock Cell} (h : HostAct b a) :
    a.Ordered rank world := by
  cases a with
  | tick i n => trivial
  | spawn c =>
    obtain ⟨calls, hcalls, rfl⟩ := h
    refine Code.ordered_all.2 fun m hm => ?_
    obtain ⟨call, hcall, rfl⟩ := List.mem_map.1 hm
    obtain ⟨r, hr⟩ := hcalls call hcall
    exact (ApiCall.method_above b hr).start

/-- Every state of a run of host calls is sound. -/
theorem sound_of_run {b : Backend} (cells : (l : Lock) → Cell l) {acts : List (Act Lock Cell)}
    (h : ∀ a ∈ acts, HostAct b a) : Always step (Sound rank world) (idle cells) acts :=
  sound_run (idle_sound cells) (stepsMeet_of_forall fun a ha => ordered_of_hostAct (h a ha))

/-- The only locks below the network are those of the listeners. -/
theorem exists_listeners_of_lt {l : Lock} (h : rank l < world) : ∃ t, l = .listeners t := by
  cases l with
  | listeners t => exact ⟨t, rfl⟩
  | config => exact absurd h (by decide)
  | cachedChallenges => exact absurd h (by decide)
  | issuerTrustAnchor => exact absurd h (by decide)
  | backend => exact absurd h (by decide)
  | verificationStatus => exact absurd h (by decide)
  | activeVerifications => exact absurd h (by decide)
  | failedAttempts => exact absurd h (by decide)
  | lastError => exact absurd h (by decide)
  | biometricState => exact absurd h (by decide)
  | currentStage t => exact absurd h (show ¬ (3 : Int) < 0 by decide)
  | lastUpdateTime t => exact absurd h (show ¬ (3 : Int) < 0 by decide)
  | stageHistory t => exact absurd h (show ¬ (3 : Int) < 0 by decide)
  | startTime t => exact absurd h (show ¬ (3 : Int) < 0 by decide)
  | retryState => exact absurd h (by decide)
  | userAgent => exact absurd h (by decide)
  | keystoreBridge => exact absurd h (by decide)
  | deviceProfile => exact absurd h (by decide)
  | cache => exact absurd h (by decide)
  | metrics => exact absurd h (by decide)
  | operationStats => exact absurd h (by decide)
  | auditLog => exact absurd h (by decide)
  | data => exact absurd h (by decide)

/-- **No call waits forever.**  Any number of threads run any calls, in any
    order of steps, where every listener keeps to trackers of lower
    numbers: in every state reached no two threads hold one lock, a
    thread that waits for the network holds no lock but those of trackers
    whose listeners it is in, some thread moves unless all are done, and
    some schedule ends them all. -/
theorem calls_finish (b : Backend) (cells : (l : Lock) → Cell l) (acts : List (Act Lock Cell))
    (h : ∀ a ∈ acts, HostAct b a) :
    Always step (fun s =>
      (∀ (i j : Nat) (t u : Thread Lock Cell), s.threads[i]? = some t → s.threads[j]? = some u →
        i ≠ j → Disjoint t.held u.held) ∧
      (∀ t ∈ s.threads, ∀ next, t.prog = .wait next →
        ∀ l ∈ t.held, ∃ tracker, l = .listeners tracker) ∧
      ((∃ t ∈ s.threads, t.prog ≠ .done) → ∃ t ∈ s.threads, Moves s t) ∧
      ∃ ticks : List (Nat × Nat), ∀ t ∈ (run step s (ticks.map fun p => .tick p.1 p.2)).threads,
        t.prog = .done) (idle cells) acts := by
  refine (sound_of_run cells h).imp fun s hs => ⟨hs.apart, ?_, exists_moving hs, can_finish hs⟩
  intro t ht next hnext l hl
  exact exists_listeners_of_lt (hs.waits ht hnext l hl)

/-- Two threads race: one proves its age under a report to tracker `1`
    whose listener reports to tracker `0`, the other scans a challenge and
    wipes the secrets. -/
theorem calls_finish_sample :
    let callback : Method := program Android.backend [.createAgeProof "c", .reportProgress 0 []]
    let acts : List (Act Lock Cell) :=
      [.spawn (program Android.backend [.reportProgress 1 [callback]]),
        .spawn (program Android.backend [.processQrChallenge "c", .emergencyZeroize])]
    Always step (fun s =>
      (∀ (i j : Nat) (t u : Thread Lock Cell), s.threads[i]? = some t → s.threads[j]? = some u →
        i ≠ j → Disjoint t.held u.held) ∧
      (∀ t ∈ s.threads, ∀ next, t.prog = .wait next →
        ∀ l ∈ t.held, ∃ tracker, l = .listeners tracker) ∧
      ((∃ t ∈ s.threads, t.prog ≠ .done) → ∃ t ∈ s.threads, Moves s t) ∧
      ∃ ticks : List (Nat × Nat), ∀ t ∈ (run step s (ticks.map fun p => .tick p.1 p.2)).threads,
        t.prog = .done) (idle initialCells) acts := by
  intro callback acts
  refine calls_finish Android.backend initialCells acts ?_
  have hcallback : callback.Above ∅ (-((1 : Nat) : Int)) := by
    refine program_above Android.backend ?_
    rw [List.forall_mem_cons, List.forall_mem_singleton]
    refine ⟨show (-1 : Int) ≤ 0 by decide, show (-1 : Int) ≤ -0 - 1 by decide, fun _ h => ?_⟩
    exact absurd h List.not_mem_nil
  rw [List.forall_mem_cons, List.forall_mem_singleton]
  refine ⟨⟨_, ?_, rfl⟩, ⟨_, ?_, rfl⟩⟩
  · rw [List.forall_mem_singleton]
    refine ⟨rank (.listeners 1), Int.le_refl _, ?_⟩
    rw [List.forall_mem_singleton]
    exact hcallback
  · rw [List.forall_mem_cons, List.forall_mem_singleton]
    exact ⟨⟨0, Int.le_refl 0⟩, ⟨0, Int.le_refl 0⟩⟩

/-! ## §6. Listeners that call back -/

/-- The calls that take the lock of a tracker's listeners. -/
def ApiCall.TakesListeners (t : Nat) : ApiCall → Prop
  | .addListener u => u = t
  | .removeAllListeners u => u = t
  | .getListenerCount u => u = t
  | .reportProgress u _ => u = t
  | .markFailed u _ => u = t
  | .markCompleted u _ => u = t
  | _ => False

/-- Under its own lock such a call does not come to its end. -/
theorem ApiCall.method_doomed (b : Backend) {t : Nat} {call : ApiCall} {held : Finset Lock}
    (h : call.TakesListeners t) (ht : .listeners t ∈ held) : (call.method b).Doomed held := by
  have hreport : ∀ callbacks, (ProgressTracker.reportProgress t callbacks).Doomed held :=
    fun callbacks => .inr (.inr (.inr (.inr (.inl ht))))
  cases call with
  | addListener u => exact .inl (show Lock.listeners u ∈ held by rw [show u = t from h]; exact ht)
  | removeAllListeners u =>
    exact .inl (show Lock.listeners u ∈ held by rw [show u = t from h]; exact ht)
  | getListenerCount u =>
    exact .inl (show Lock.listeners u ∈ held by rw [show u = t from h]; exact ht)
  | reportProgress u callbacks =>
    obtain rfl : u = t := h
    exact hreport callbacks
  | markFailed u callbacks =>
    obtain rfl : u = t := h
    exact .inl (hreport callbacks)
  | markCompleted u callbacks =>
    obtain rfl : u = t := h
    exact .inr (.inl (hreport callbacks))
  | _ => exact absurd h id

/-- A list of texts is doomed where one of them is. -/
theorem all_doomed {cs : List Method} {c : Method} {held : Finset Lock} (hc : c ∈ cs)
    (h : c.Doomed held) : (Code.all cs).Doomed held := by
  induction cs with
  | nil => exact absurd hc List.not_mem_nil
  | cons d ds ih =>
    rcases List.mem_cons.1 hc with rfl | hc
    · exact .inl h
    · exact .inr (ih hc)

/-- **A listener may not call its own tracker.**  If a listener of a
    tracker answers a report with any call that takes the tracker's list
    of listeners, the reporting thread never ends: not in any run, on any
    schedule, whatever the other threads do. -/
theorem reentrant_listener_blocks (b : Backend) (t : Nat) (calls : List ApiCall)
    (before after : List Method) (s : System Lock Cell) (acts : List (Act Lock Cell))
    (h : ∃ call ∈ calls, call.TakesListeners t) :
    let callbacks := before ++ program b calls :: after
    Always step (fun s' => ∃ u, s'.threads[s.threads.length]? = some u ∧ u.prog ≠ .done)
      (step s (.spawn (program b [.reportProgress t callbacks]))) acts := by
  intro callbacks
  obtain ⟨call, hcall, htakes⟩ := h
  have hheld : Lock.listeners t ∈ (insert (.listeners t) ∅ : Finset Lock) :=
    Finset.mem_insert_self _ _
  have hcalls : (program b calls).Doomed (insert (.listeners t) ∅) :=
    all_doomed (List.mem_map_of_mem hcall) (call.method_doomed b htakes hheld)
  have hreport : (ProgressTracker.reportProgress t callbacks).Doomed ∅ := by
    refine .inr (.inr (.inr (.inr (.inr ?_))))
    exact all_doomed (List.mem_append_right _ List.mem_cons_self) hcalls
  have hprogram : (program b [.reportProgress t callbacks]).Doomed ∅ := .inl hreport
  have hdoomed := doomed_forever
    (s := step s (.spawn (program b [.reportProgress t callbacks]))) (i := s.threads.length)
    (t := Thread.start (program b [.reportProgress t callbacks]))
    List.getElem?_concat_length (Code.doomed_andThen (.inl hprogram)) acts
  refine hdoomed.imp fun s' hs' => ?_
  obtain ⟨u, hu, hu'⟩ := hs'
  exact ⟨u, hu, hu'.ne_done⟩

/-- A listener that takes itself off the list when the report is done, and
    a schedule that gives its thread every tick. -/
theorem reentrant_listener_blocks_sample :
    let callbacks := [program Ios.backend [.removeAllListeners 7]]
    let s := idle initialCells
    Always step (fun s' => ∃ u, s'.threads[s.threads.length]? = some u ∧ u.prog ≠ .done)
      (step s (.spawn (program Ios.backend [.reportProgress 7 callbacks])))
      (List.replicate 100 (.tick 0 0)) :=
  reentrant_listener_blocks Ios.backend 7 [.removeAllListeners 7] [] [] (idle initialCells)
    (List.replicate 100 (.tick 0 0)) ⟨_, List.mem_singleton_self _, rfl⟩

end ProviiSdk.Mutexes
