import GatewaySdk.Effect.Program
import GatewaySdk.Host.Rules
import GatewaySdk.Upgrade.State
import GatewaySdk.Upgrade.Logic
import GatewaySdk.Upgrade.SaveFacts
import GatewaySdk.Effect.Trace
import GatewaySdk.Upgrade.LoadFacts
import GatewaySdk.Upgrade.BumpFacts
import GatewaySdk.Text.PrefixFree
import GatewaySdk.Upgrade.StateText
import GatewaySdk.Upgrade.Atomic
import GatewaySdk.Upgrade.Manifest
import GatewaySdk.Upgrade.Download
import GatewaySdk.Text.Base64
import GatewaySdk.Upgrade.Verify
import GatewaySdk.Upgrade.VerifySound
import GatewaySdk.Upgrade.Apply
import GatewaySdk.Upgrade.Stage
import GatewaySdk.Upgrade.Watchdog
import GatewaySdk.Upgrade.StageFacts
import GatewaySdk.Upgrade.Gate
import GatewaySdk.Upgrade.Armed
import GatewaySdk.Upgrade.Unchanged
import GatewaySdk.Upgrade.StageView
import GatewaySdk.Upgrade.WatchdogFacts
import GatewaySdk.Upgrade.Lifecycle
import GatewaySdk.Upgrade.Agreement
import GatewaySdk.Upgrade.Target
import GatewaySdk.Upgrade.Rollback
import GatewaySdk.Upgrade.Replay
import GatewaySdk.Upgrade.VersionDirs
import GatewaySdk.Upgrade.OnDisk
import GatewaySdk.Effect.Ends
import GatewaySdk.Host.Steady
import GatewaySdk.Upgrade.Steady
import GatewaySdk.Upgrade.Wedge
import GatewaySdk.Upgrade.Respawn
import GatewaySdk.Upgrade.Announce
import GatewaySdk.Upgrade.Manual
import GatewaySdk.Upgrade.Attempts
import GatewaySdk.Upgrade.Live
import GatewaySdk.Client.Cadence
import GatewaySdk.Client.Frames
import GatewaySdk.Client.Session
import GatewaySdk.Client.Budgets
import GatewaySdk.Client.Delivery
import GatewaySdk.Client.Fates
import GatewaySdk.Client.Hung
import GatewaySdk.Client.Shutdown
import GatewaySdk.Client.Config
import GatewaySdk.Client.Auth
import GatewaySdk.Client.Registration
import GatewaySdk.Order.Counting
import GatewaySdk.Upgrade.Window
import GatewaySdk.Client.Limit
import GatewaySdk.Client.Backoff
import GatewaySdk.Client.Tls
import GatewaySdk.Text.Separated
import GatewaySdk.Effect.Errors
import GatewaySdk.Upgrade.Causes
import GatewaySdk.Upgrade.Codes
import GatewaySdk.Client.Connect
import GatewaySdk.Client.ReadManager
import GatewaySdk.Client.Handover
import GatewaySdk.Client.Silence
import GatewaySdk.Client.Closing
import GatewaySdk.Client.Heartbeat
import GatewaySdk.Effect.Amid
import GatewaySdk.Upgrade.Vigil
import GatewaySdk.Upgrade.Threads
import GatewaySdk.Upgrade.ThreadCalls
import GatewaySdk.Upgrade.ThreadSave
import GatewaySdk.Upgrade.Completion
import GatewaySdk.Order.Keyed
import GatewaySdk.Upgrade.Extensions
import GatewaySdk.Upgrade.Allowlist
import GatewaySdk.Text.Compact
import GatewaySdk.Upgrade.Entry
import GatewaySdk.Upgrade.Pem
import GatewaySdk.Upgrade.San
import GatewaySdk.Order.Retry
import GatewaySdk.Upgrade.Fetch
import GatewaySdk.Upgrade.Confined
import GatewaySdk.Upgrade.Retries
import GatewaySdk.Upgrade.Caps
import GatewaySdk.Client.Pin
import GatewaySdk.Effect.Guarded
import GatewaySdk.Client.Indicator
import GatewaySdk.Order.Weave
import GatewaySdk.Client.Families
import GatewaySdk.Host.Modes
import GatewaySdk.Client.Credentials
import GatewaySdk.Client.Persisted
import GatewaySdk.Effect.Deadline
import GatewaySdk.Effect.Attain
import GatewaySdk.Client.Dial
import GatewaySdk.Client.Clock
import GatewaySdk.Client.Stopping
import GatewaySdk.Effect.Baton
import GatewaySdk.Client.Replies
import GatewaySdk.Effect.Exclusive
import GatewaySdk.Upgrade.SingleFlight
import GatewaySdk.Upgrade.Promotion
import GatewaySdk.Text.Record
import GatewaySdk.Text.Decimal
import GatewaySdk.Client.Formats
import GatewaySdk.Client.Saved
import GatewaySdk.Host.Listing
import GatewaySdk.Upgrade.Install
import GatewaySdk.Upgrade.Rollout
import GatewaySdk.Upgrade.Publishing
