import ZenPass.Android.LockWins
import ZenPass.Auth.DeviceRevocation
import ZenPass.Auth.Enrollment
import ZenPass.Auth.LoginParity
import ZenPass.Auth.LoginSoundness
import ZenPass.Client.LockWins
import ZenPass.Client.VaultItems
import ZenPass.Extension.BackgroundSteps
import ZenPass.Extension.LockCompleteness
import ZenPass.Extension.FillAuthorization
import ZenPass.Extension.FillWhilePending
import ZenPass.Extension.LockWins
import ZenPass.Extension.SaveItem
import ZenPass.Importers.CsvParser
import ZenPass.Importers.Records
import ZenPass.Importers.Csv
import ZenPass.Importers.CsvRows
import ZenPass.Importers.Json
import ZenPass.Importers.Bounds
import ZenPass.Lib.KeyedStore
import ZenPass.Lib.Overtaken
import ZenPass.Lib.Page
import ZenPass.Lib.ReadCommitted
import ZenPass.Lib.Transition
import ZenPass.Lib.Utf16
import ZenPass.Crypto.RoundTrip
import ZenPass.Sdk.Repository
import ZenPass.Sdk.SyncEngine
import ZenPass.Sync.ChangeFeed
import ZenPass.Sync.ExactlyOnce
import ZenPass.Sync.ItemRevisions
import ZenPass.Sync.Sequence
import ZenPass.Sync.Rejected
import ZenPass.Web.ConflictChoice
import ZenPass.Web.ConflictRetention
import ZenPass.Web.Convergence
import ZenPass.Web.ExtensionSetup
import ZenPass.Web.Generator
import ZenPass.Web.IndexedDbRepository
import ZenPass.Web.LoadedView
import ZenPass.Web.PushAttempts
import ZenPass.Web.UndoFinality
import ZenPass.Web.UnlockLogin
import ZenPass.Web.WorkerClient
import ZenPass.Sdk.Records
import ZenPass.Wire.Cursor
import ZenPass.Sync.Changes
import ZenPass.Web.Mirror
import ZenPass.Web.QuiescentPull
import ZenPass.Sdk.UntrustedServer
import ZenPass.Sdk.StoreSafety
import ZenPass.Sync.Isolation
import ZenPass.Sync.Linearizability
import ZenPass.Sync.Rendering
import ZenPass.Sync.ChangesQuery
import ZenPass.Wire.Decoders
import ZenPass.Sync.BodyLimits
import ZenPass.Account.BundleFormat
import ZenPass.Client.ItemCodec
import ZenPass.Client.Base32
import ZenPass.Client.FailedUnlock
import ZenPass.Client.FreshSecrets
import ZenPass.Client.ServedFeed
import ZenPass.Crypto.CanonicalMap
import ZenPass.Crypto.WorkerSessions
import ZenPass.Crypto.ContextCodec
import ZenPass.Crypto.Confirmation
import ZenPass.Crypto.Calibration
import ZenPass.Migrate.AtMostOnce
import ZenPass.Web.EncryptedExport
import ZenPass.Auth.Cleanup
import ZenPass.Auth.RateLimit
import ZenPass.Extension.Origin
import ZenPass.Client.Totp
import ZenPass.Account.OpenAnywhere
import ZenPass.Auth.Registration
import ZenPass.Client.Delivery
import ZenPass.Auth.Admission
import ZenPass.Auth.AuthClient
import ZenPass.Auth.UndisturbedLogin
import ZenPass.Auth.WrongPassword
