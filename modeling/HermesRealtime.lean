import HermesRealtime.Runs
import HermesRealtime.Op
import HermesRealtime.Binary64
import HermesRealtime.Values
import HermesRealtime.Text
import HermesRealtime.Protocol
import HermesRealtime.Phases
import HermesRealtime.Timing
import HermesRealtime.Tokens
import HermesRealtime.Interruption
import HermesRealtime.Teardown
import HermesRealtime.TaskEvents
import HermesRealtime.TaskRuns
import HermesRealtime.TaskLanes
import HermesRealtime.Permissions
import HermesRealtime.Cursors
import HermesRealtime.Handling
import HermesRealtime.Voicing
import HermesRealtime.Announcements
import HermesRealtime.EventLoss
import HermesRealtime.Controller
import HermesRealtime.Operations
import HermesRealtime.SessionRuns
import HermesRealtime.Relay
import HermesRealtime.Lifecycle
import HermesRealtime.Bookkeeping
import HermesRealtime.CriticalSections
import HermesRealtime.Changes
import HermesRealtime.Settlement
import HermesRealtime.OneSession
import HermesRealtime.Outcomes
import HermesRealtime.TeardownStart
import HermesRealtime.StartupGuard
import HermesRealtime.ObserverFailures
import HermesRealtime.Orphans
import HermesRealtime.StaleIsolation
import HermesRealtime.Gateway
import HermesRealtime.Attempts
import HermesRealtime.ReplayTable
import HermesRealtime.Replay
import HermesRealtime.TeardownOrder
import HermesRealtime.Scheduler
import HermesRealtime.Turns
import HermesRealtime.Custody
import HermesRealtime.Conversation
import HermesRealtime.Utf16
import HermesRealtime.Documents
import HermesRealtime.Frames
import HermesRealtime.PageFrames
import HermesRealtime.Checks
import HermesRealtime.PageTiming
import HermesRealtime.Rejections
import HermesRealtime.RelayFailures
import HermesRealtime.Sanitizing
import HermesRealtime.Encoding
import HermesRealtime.Handshake
import HermesRealtime.LaunchTokens
import HermesRealtime.StepCases
import HermesRealtime.ControlCalls
import HermesRealtime.Admission
import HermesRealtime.Finalizations
import HermesRealtime.Ledgers
import HermesRealtime.OutboundOrder
import HermesRealtime.Conveyance
import HermesRealtime.RelayDrain
import HermesRealtime.Details
import HermesRealtime.Rounding
import HermesRealtime.SessionInvariants
import HermesRealtime.TraceOrder
import HermesRealtime.PageClock
import HermesRealtime.Serializing
import HermesRealtime.Timelines
import HermesRealtime.CircularBuffers
import HermesRealtime.Listener
import HermesRealtime.Resampling
import HermesRealtime.Snapshots
import HermesRealtime.Debouncing
import HermesRealtime.Arguments
import HermesRealtime.Capabilities
import HermesRealtime.Delegation
import HermesRealtime.Arrivals
import HermesRealtime.Dispatching
import HermesRealtime.ProviderErrors
import HermesRealtime.Recording
import HermesRealtime.Buffers
import HermesRealtime.WavHeader
import HermesRealtime.ProcessTree
import HermesRealtime.Installation
import HermesRealtime.Measurement
import HermesRealtime.Redaction
import HermesRealtime.BrowserHandle
import HermesRealtime.BrowserCompleteness
import HermesRealtime.QueryStrings
import HermesRealtime.Urls
import HermesRealtime.ActivationUrls
import HermesRealtime.Archiving
import HermesRealtime.Publications
import HermesRealtime.Archives
import HermesRealtime.JsonText
import HermesRealtime.Handoff
import HermesRealtime.Handoffs
import HermesRealtime.Watching
import HermesRealtime.CaptureHealth
import HermesRealtime.ListenerRuns
import HermesRealtime.SocketPath
import HermesRealtime.SocketOwnership
