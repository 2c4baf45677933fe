import Dntpd.ArgumentReads
import Dntpd.Arguments
import Dntpd.AuthenticationReads
import Dntpd.Autokey
import Dntpd.ClockThread
import Dntpd.ClockThreadObjects
import Dntpd.Daemon
import Dntpd.Filter
import Dntpd.FreqDiscipline
import Dntpd.FreqOps
import Dntpd.Ido
import Dntpd.Initial
import Dntpd.Int64Ops
import Dntpd.LeapSecond
import Dntpd.Libc
import Dntpd.Library.Backoff
import Dntpd.Library.Blocking
import Dntpd.Library.BubbleSort
import Dntpd.Library.CInt
import Dntpd.Library.Compaction
import Dntpd.Library.FifoCache
import Dntpd.Library.Insensitive
import Dntpd.Library.Int64Trace
import Dntpd.Library.Lifecycle
import Dntpd.Library.LockOrder
import Dntpd.Library.LockTrace
import Dntpd.Library.Network
import Dntpd.Library.OrderStatistics
import Dntpd.Library.Phases
import Dntpd.Library.PrefixMask
import Dntpd.Library.ProcFrame
import Dntpd.Library.Register
import Dntpd.Library.Rescale
import Dntpd.Library.Run
import Dntpd.Library.Session
import Dntpd.Library.ShiftingWalk
import Dntpd.Library.Simulation
import Dntpd.Library.SlidingWindow
import Dntpd.Library.TraceProc
import Dntpd.Library.Zoom
import Dntpd.Main
import Dntpd.MainLoop
import Dntpd.ModeConfigFile
import Dntpd.ModeHandler
import Dntpd.ModeHandlerTables
import Dntpd.Network
import Dntpd.NtpAlgorithms
import Dntpd.NtpPacket
import Dntpd.Ntpq
import Dntpd.PacketReads
import Dntpd.PeerSelection
import Dntpd.PeerThread
import Dntpd.RequestHeap
import Dntpd.RequestThreads
import Dntpd.SelectionArrays
import Dntpd.Socket
import Dntpd.SocketCalls
import Dntpd.Spec.AccessControl
import Dntpd.Spec.AclNetworks
import Dntpd.Spec.AclRefusals
import Dntpd.Spec.AclTable
import Dntpd.Spec.AddressFamily
import Dntpd.Spec.AddressText
import Dntpd.Spec.Advertised
import Dntpd.Spec.ArgumentReads
import Dntpd.Spec.Arguments
import Dntpd.Spec.Authentication
import Dntpd.Spec.AuthenticationWalk
import Dntpd.Spec.ClockEncoding
import Dntpd.Spec.ClockThread
import Dntpd.Spec.ClockThreadIdle
import Dntpd.Spec.ClockThreadObjects
import Dntpd.Spec.ConfigLines
import Dntpd.Spec.DaemonRun
import Dntpd.Spec.Deadlock
import Dntpd.Spec.Exchanges
import Dntpd.Spec.ExpectedTime
import Dntpd.Spec.Filter
import Dntpd.Spec.FilterWalk
import Dntpd.Spec.FreqDiscipline
import Dntpd.Spec.FrequencyUnits
import Dntpd.Spec.Int64Ops
import Dntpd.Spec.KeyManagement
import Dntpd.Spec.LeapCorrection
import Dntpd.Spec.LeapIndependence
import Dntpd.Spec.LeapModule
import Dntpd.Spec.LeapSecond
import Dntpd.Spec.LockOrder
import Dntpd.Spec.Main
import Dntpd.Spec.MainLoop
import Dntpd.Spec.MainStarves
import Dntpd.Spec.Median
import Dntpd.Spec.ModeConfigFile
import Dntpd.Spec.ModeFrame
import Dntpd.Spec.ModeHandler
import Dntpd.Spec.ModeLocks
import Dntpd.Spec.Negotiation
import Dntpd.Spec.NegotiationCopies
import Dntpd.Spec.Network
import Dntpd.Spec.NtpAlgorithms
import Dntpd.Spec.NtpPacket
import Dntpd.Spec.Ntpq
import Dntpd.Spec.Numerals
import Dntpd.Spec.PacketCodec
import Dntpd.Spec.PacketReads
import Dntpd.Spec.PeerSelection
import Dntpd.Spec.PeerThread
import Dntpd.Spec.PeerVote
import Dntpd.Spec.PollInterval
import Dntpd.Spec.PortValidation
import Dntpd.Spec.RateConcurrency
import Dntpd.Spec.RateEviction
import Dntpd.Spec.RateLimit
import Dntpd.Spec.RateSequence
import Dntpd.Spec.RateTable
import Dntpd.Spec.Reference
import Dntpd.Spec.Reflection
import Dntpd.Spec.RequestHeap
import Dntpd.Spec.RootDelay
import Dntpd.Spec.RootDispersion
import Dntpd.Spec.SampleWindow
import Dntpd.Spec.SelectionArrays
import Dntpd.Spec.ServerConfigFile
import Dntpd.Spec.Socket
import Dntpd.Spec.SocketLifetime
import Dntpd.Spec.StepSlew
import Dntpd.Spec.SyncAccept
import Dntpd.Spec.SyncMarks
import Dntpd.Spec.SyncOutcome
import Dntpd.Spec.SyncQueue
import Dntpd.Spec.SyncReject
import Dntpd.Spec.SystemPrecision
import Dntpd.Spec.Threads
import Dntpd.Spec.TimeCorrection
import Dntpd.Spec.TimeSync
import Dntpd.Spec.TimestampEra
import Dntpd.SyncMarks
import Dntpd.SyncQueue
import Dntpd.TcpListener
import Dntpd.Threads
import Dntpd.TimeCorrection
import Dntpd.TimeSync
import Dntpd.Types
