import LoomClient.Lib.Dict
import LoomClient.Lib.Transition
import LoomClient.Lib.Fold
import LoomClient.Wire
import LoomClient.Model
import LoomClient.Store.State
import LoomClient.Store.Attach
import LoomClient.Store.Live
import LoomClient.Store.Operation
import LoomClient.Store.Frame
import LoomClient.Store.Graph
import LoomClient.Lib.Coroutine
import LoomClient.Compat.Adapter
import LoomClient.Client.Walks
import LoomClient.Client.Session
import LoomClient.Client.Integrity
import LoomClient.Client.Daemon
import LoomClient.Store.Freshness
import LoomClient.Client.Freshness
import LoomClient.Store.Removal
import LoomClient.Client.Removal
import LoomClient.Store.Identity
import LoomClient.Client.CustomRefresh
import LoomClient.Compat.Isolation
import LoomClient.Client.Recovery
import LoomClient.Client.Inventory
import LoomClient.Store.Records
import LoomClient.Client.Rebuild
import LoomClient.Client.Resync
import LoomClient.Transport.EventQueue
import LoomClient.Transport.Reauth
import LoomClient.Compat.CentralState
import LoomClient.Compat.HeldDevices
import LoomClient.Compat.WeekProfile
import LoomClient.Lib.Slots
import LoomClient.Store.InPlace
import LoomClient.Lib.Race
import LoomClient.Client.UndatedReads
import LoomClient.Store.AlarmSection
import LoomClient.Client.AlarmReads
import LoomClient.Compat.HubSingletons
import LoomClient.Compat.HubReads
import LoomClient.Compat.HubReconcile
import LoomClient.Compat.Announcement
import LoomClient.Store.Ties
import LoomClient.Lib.Indexed
import LoomClient.Store.ChannelIndex
import LoomClient.Store.ZoneIndex
import LoomClient.Store.ProgramTwins
import LoomClient.Store.Sweep
import LoomClient.Lib.FanOut
import LoomClient.Store.AlarmFanOut
import LoomClient.Compat.ScheduleCorrections
import LoomClient.Compat.ScheduleCopies
import LoomClient.Compat.ScheduleFrontend
import LoomClient.Lib.Json
import LoomClient.Lib.JsonText
import LoomClient.Transport.FrameReader
import LoomClient.Compat.Teardown
import LoomClient.Compat.TeardownCalls
import LoomClient.Compat.EventPump
import LoomClient.Compat.Stop
import LoomClient.Transport.QueueBytes
import LoomClient.Transport.OverflowEpisodes
import LoomClient.Transport.ResumeCursor
import LoomClient.Transport.Failures
import LoomClient.Transport.RetryBudget
import LoomClient.Transport.Problems
import LoomClient.Transport.RestAnswer
import LoomClient.Transport.Handshake
import LoomClient.Lib.Bytes
import LoomClient.Lib.Sha256
import LoomClient.Transport.Pairing
import LoomClient.Transport.PairingPolls
import LoomClient.Compat.ValueOverride
import LoomClient.Store.LastRefreshed
import LoomClient.Client.AnnouncedOnce
import LoomClient.Events.Bus
import LoomClient.Compat.FeaturesRefresh
import LoomClient.Compat.LatchRefresh
import LoomClient.Compat.MessageLists
import LoomClient.Compat.PanelAnnouncements
import LoomClient.Compat.OnTime
import LoomClient.Client.CentralId
import LoomClient.Compat.SystemInformation
import LoomClient.Compat.EventGroups
import LoomClient.Lib.Text
import LoomClient.Compat.StatePaths
import LoomClient.Compat.SecurityPushes
import LoomClient.Lib.Ranks
import LoomClient.Compat.ParameterData
import LoomClient.Lib.CodePoints
import LoomClient.Client.Discovery
import LoomClient.Lib.Float64
import LoomClient.Compat.CombinedDuration
import LoomClient.Transport.Reconnect
import LoomClient.Transport.ReconnectPace
import LoomClient.Transport.Subscriptions
import LoomClient.Compat.RefreshBridge
import LoomClient.Lib.PercentEncoding
import LoomClient.Operations.Table
import LoomClient.Operations.Routes
import LoomClient.Client.Adoption
import LoomClient.Lib.Loop
import LoomClient.Client.Readiness
import LoomClient.Compat.Backup
import LoomClient.Lib.Base64
import LoomClient.Transport.Credentials
import LoomClient.Events.Decoding
import LoomClient.Events.Attention
import LoomClient.Events.Dispatch
