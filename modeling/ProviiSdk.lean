import ProviiSdk.Lib.Run
import ProviiSdk.Lib.Text
import ProviiSdk.Lib.Base64Url
import ProviiSdk.Lib.Wire
import ProviiSdk.Lib.Check
import ProviiSdk.Lib.ReadCache
import ProviiSdk.Lib.BoundedCache
import ProviiSdk.Lib.Retry
import ProviiSdk.Lib.Backup
import ProviiSdk.Lib.SlidingWindow
import ProviiSdk.Lib.Upsert
import ProviiSdk.Lib.Threads
import ProviiSdk.Platform.SecureStorage
import ProviiSdk.Core.Types
import ProviiSdk.Core.Credential
import ProviiSdk.Core.Issuance
import ProviiSdk.Core.Commitment
import ProviiSdk.Core.Prover
import ProviiSdk.Core.Provable
import ProviiSdk.Core.Sample
import ProviiSdk.Core.Validity
import ProviiSdk.Core.BlindIssuance
import ProviiSdk.Core.ProverInit
import ProviiSdk.Core.Document
import ProviiSdk.Core.Challenge
import ProviiSdk.Ffi.StorageKeys
import ProviiSdk.Ffi.Types
import ProviiSdk.Ffi.Storage
import ProviiSdk.Ffi.StorageSpec
import ProviiSdk.Ffi.State
import ProviiSdk.Ffi.FailureCount
import ProviiSdk.Ffi.CurrentChallenge
import ProviiSdk.Ffi.Qr
import ProviiSdk.Ffi.Deeplink
import ProviiSdk.Wallet.Credentials
import ProviiSdk.Wallet.Imports
import ProviiSdk.Wallet.WellFormed
import ProviiSdk.Wallet.IssuanceRoundTrip
import ProviiSdk.Wallet.ImportAtomicity
import ProviiSdk.Wallet.TrustGate
import ProviiSdk.Wallet.OrphanSecrets
import ProviiSdk.Wallet.SlotOccupancy
import ProviiSdk.Wallet.ForeignRecords
import ProviiSdk.Wallet.TrustAnchor
import ProviiSdk.Wallet.AbsentOrFailed
import ProviiSdk.Wallet.ManagedRace
import ProviiSdk.Wallet.Qr
import ProviiSdk.Wallet.Session
import ProviiSdk.Wallet.AgeProof
import ProviiSdk.Wallet.SessionRun
import ProviiSdk.Wallet.Sample
import ProviiSdk.Wallet.SlotCapacity
import ProviiSdk.Wallet.QrRouting
import ProviiSdk.Wallet.DeeplinkAgreement
import ProviiSdk.Wallet.ChallengeCache
import ProviiSdk.Wallet.ChallengeLifetime
import ProviiSdk.Android.Keystore
import ProviiSdk.Android.CacheCoherence
import ProviiSdk.Android.Rotation
import ProviiSdk.Ios.Keychain
import ProviiSdk.Ios.KeychainSpec
import ProviiSdk.Ios.CacheGate
import ProviiSdk.Ios.Rotation
import ProviiSdk.ProvingKey.Manager
import ProviiSdk.ProvingKey.Resume
import ProviiSdk.ProvingKey.RetryBudget
import ProviiSdk.Wallet.MinimalFetch
import ProviiSdk.Wallet.Suitability
import ProviiSdk.ProvingKey.Placement
import ProviiSdk.Wallet.CleanupRace
import ProviiSdk.Wallet.ProverSetup
import ProviiSdk.Lib.Calendar
import ProviiSdk.Core.AgeCutoff
import ProviiSdk.ProvingKey.ResponseBody
import ProviiSdk.Core.KeyMerge
import ProviiSdk.Ffi.RecordLayout
import ProviiSdk.Core.Jwks
import ProviiSdk.Core.CredentialJson
import ProviiSdk.Wallet.QrForms
import ProviiSdk.Wallet.ForwardCompat
import ProviiSdk.Wallet.ScannedChallenge
import ProviiSdk.Wallet.ExpiryAgreement
import ProviiSdk.Ffi.AttestationGrammar
import ProviiSdk.Wallet.FailureCauses
import ProviiSdk.Lib.Sweep
import ProviiSdk.Wallet.BulkDeletion
import ProviiSdk.Wallet.ExpiryCleanup
import ProviiSdk.Wallet.NicknameUpdate
import ProviiSdk.Wallet.FinalizedStore
import ProviiSdk.Lib.IsoDate
import ProviiSdk.Core.BirthDates
import ProviiSdk.Wallet.DobNotations
import ProviiSdk.Wallet.DisplayedAge
import ProviiSdk.Ios.RetryPolicy
import ProviiSdk.Wallet.VerifierBase
import ProviiSdk.Core.BitPacking
import ProviiSdk.ProvingKey.Backoff
import ProviiSdk.Core.DayCounts
import ProviiSdk.Lib.Utf8
import ProviiSdk.Lib.Groups
import ProviiSdk.Wallet.ChallengePath
import ProviiSdk.Core.CredentialStore
import ProviiSdk.Lib.Fanout
import ProviiSdk.Ffi.Progress
import ProviiSdk.Wallet.UsageStats
import ProviiSdk.Lib.LoggedPass
import ProviiSdk.Wallet.KeyLabels
import ProviiSdk.Lib.UriSyntax
import ProviiSdk.Core.ApiClient
import ProviiSdk.Ffi.BaseUrl
import ProviiSdk.Wallet.PrefixDeletion
import ProviiSdk.Lib.Simulation
import ProviiSdk.Platform.Contract
import ProviiSdk.Wallet.RecordFrame
import ProviiSdk.Wallet.EndToEnd
import ProviiSdk.Wallet.SlotProofs
import ProviiSdk.Wallet.Provenance
import ProviiSdk.Android.Refinement
import ProviiSdk.Ios.Refinement
import ProviiSdk.ProvingKey.Lifecycle
import ProviiSdk.Wallet.Diagnosis
import ProviiSdk.Lib.Clients
import ProviiSdk.Ffi.StorageCalls
import ProviiSdk.Wallet.BackendRuns
import ProviiSdk.Lib.Locks
import ProviiSdk.Wallet.LockOrder
import ProviiSdk.Wallet.SessionRaces
