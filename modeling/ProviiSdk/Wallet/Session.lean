/-
  ProviiSdk.Wallet.Session — cached challenges and active verifications.

  The part of the wallet that lives in memory: the cache of challenges
  and the verification state.  A challenge enters through a scanned code
  or a typed one, and leaves when it is evicted, swept or zeroised.  The
  clock is read by each call on its own; nothing is said about how the
  readings of two calls compare.

  Main results:
    * `cacheChallenge_eq` — what caching a challenge does, by whether the
      cache took it.
-/

import ProviiSdk.Ffi.State
import ProviiSdk.Lib.BoundedCache
import ProviiSdk.Wallet.Qr

namespace ProviiSdk.Wallet

open ProviiSdk.Core ProviiSdk.Ffi ProviiSdk.Check ProviiSdk.BoundedCache

/-! ## §1. Time

A `SystemTime` is an integer: nanoseconds from the Unix epoch. -/

/-- Rust's `checked_add` of whole seconds: the seconds of a time are an
    `i64`. -/
def checkedAddSecs (t : Int) (secs : Nat) : Option Int :=
  let later := t + secs * 1000000000
  if later < 9223372036854775808 * 1000000000 then some later else none

/-- Whole seconds since the epoch, and 0 before it. -/
def unixSecs (t : Int) : UInt64 := UInt64.ofNat (t / 1000000000).toNat

/-- How long a cached challenge is kept, in seconds. -/
def challengeTtlSecs : Nat := 300

/-- The expiry of a challenge cached at `now`. -/
def expiryOf (now : Int) : Int := (checkedAddSecs now challengeTtlSecs).getD now

/-! ## §2. The session -/

/-- A cached challenge with its times of receipt and expiry. -/
structure CachedChallenge where
  payload : QrChallengePayload
  receivedAt : Int
  expiresAt : Int
  deriving DecidableEq

/-- The cache and the verification state. -/
structure Session where
  cachedChallenges : Cache String CachedChallenge
  stateManager : StateManager

namespace Session

/-- The session of a new wallet. -/
def new : Session := { cachedChallenges := ∅, stateManager := .new }

end Session

/-- The number of challenges at which the cache is full. -/
def maxCachedChallenges : Nat := 64

/-- The clock readings of a call that caches a challenge. -/
structure CachingClock where
  now : Int
  nowForEvict : Int
  deriving DecidableEq

/-- The test by which a full cache keeps an entry. -/
def live (nowForEvict : Int) (c : CachedChallenge) : Bool :=
  decide (c.expiresAt > nowForEvict)

/-- The entry of a challenge cached at `now`. -/
def entryOf (now : Int) (challenge : QrChallengePayload) : CachedChallenge :=
  { payload := challenge, receivedAt := now, expiresAt := expiryOf now }

/-- The error of a full cache. -/
def cacheFull : FfiError := .invalidFormat "challenge cache full; try again shortly"

/-! ## §3. Methods -/

/-- The shared tail of the two ways in: evict if the cache is full, refuse
    if it still is, and else insert the challenge and start tracking it. -/
def cacheChallenge (clock : CachingClock) (challenge : QrChallengePayload) (s : Session) :
    Except FfiError String × Session :=
  match offer maxCachedChallenges (live clock.nowForEvict) challenge.challengeId
      (entryOf clock.now challenge) s.cachedChallenges with
  | (false, cached) => (.error cacheFull, { s with cachedChallenges := cached })
  | (true, cached) =>
    (.ok challenge.challengeId,
      { cachedChallenges := cached
        stateManager := s.stateManager.startVerification challenge.challengeId })

/-- Cache a challenge if one was read. -/
def cacheRead (clock : CachingClock) (challenge : Except FfiError QrChallengePayload)
    (s : Session) : Except FfiError String × Session :=
  match challenge with
  | .error e => (.error e, s)
  | .ok challenge => cacheChallenge clock challenge s

/-- Parse a QR code, cache its challenge and start a verification. -/
def processQrChallenge (X : DocumentCrates) (net : Network) (config : WalletConfig)
    (clock : CachingClock) (qrContent : String) (s : Session) : Except FfiError String × Session :=
  cacheRead clock (parseQrPayloadInternal X net config qrContent) s

/-- The same for a typed short code. -/
def processManualEntry (X : DocumentCrates) (net : Network) (config : WalletConfig)
    (clock : CachingClock) (input : String) (s : Session) : Except FfiError String × Session :=
  cacheRead clock (manualChallenge X net config input) s

/-- The test by which a cleanup finds an entry expired. -/
def expired (now : Int) (c : CachedChallenge) : Bool := decide (now > c.expiresAt)

/-- Remove the expired challenges and count them.  The active list is not
    looked at. -/
def cleanupExpiredChallenges (now : Int) (s : Session) : UInt32 × Session :=
  (UInt32.ofNat (min (expiredKeys (expired now) s.cachedChallenges).length 4294967295),
    { s with cachedChallenges := sweep (expired now) s.cachedChallenges })

/-- Cancel a verification.  The cached challenge is not looked at. -/
def cancelVerification (challengeId : String) (s : Session) : Session :=
  { s with stateManager := s.stateManager.cancelVerification challengeId }

/-- Zeroise: the cache is cleared if its lock is free, and the state is
    reset in any case. -/
def emergencyZeroize (lockFree : Bool) (s : Session) : Session :=
  { cachedChallenges := if lockFree then ∅ else s.cachedChallenges
    stateManager := s.stateManager.reset }

/-! ## §4. What the methods do -/

/-- **What caching a challenge does**, by whether the cache took it. -/
theorem cacheChallenge_eq (clock : CachingClock) (challenge : QrChallengePayload) (s : Session) :
    cacheChallenge clock challenge s =
      let o := offer maxCachedChallenges (live clock.nowForEvict) challenge.challengeId
        (entryOf clock.now challenge) s.cachedChallenges
      (if o.1 then .ok challenge.challengeId else .error cacheFull,
        { cachedChallenges := o.2
          stateManager :=
            if o.1 then s.stateManager.startVerification challenge.challengeId
            else s.stateManager }) := by
  unfold cacheChallenge
  rcases offer maxCachedChallenges (live clock.nowForEvict) challenge.challengeId
    (entryOf clock.now challenge) s.cachedChallenges with ⟨_ | _, cached⟩
  · rfl
  · rfl

end ProviiSdk.Wallet
