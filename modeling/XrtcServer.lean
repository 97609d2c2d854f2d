import XrtcServer.Lib.EventRun
import XrtcServer.Lib.WhileLoop
import XrtcServer.Lib.Arena
import XrtcServer.Lib.Registry
import XrtcServer.Lib.StableSort
import XrtcServer.Lib.SignalLog
import XrtcServer.Lib.Census
import XrtcServer.Lib.Mailbox
import XrtcServer.Lib.TimedLog
import XrtcServer.Lib.Rotation
import XrtcServer.Lib.Dealing
import XrtcServer.Base.ErrorIsolation
import XrtcServer.Base.LockFreeQueue
import XrtcServer.Base.XrtcLog
import XrtcServer.Base.LogProgress
import XrtcServer.Ice.AnswerOrder
import XrtcServer.Ice.ReadyToSend
import XrtcServer.Ice.OwnMessages
import XrtcServer.Ice.SignedAttributes
import XrtcServer.Ice.IntegrityReads
import XrtcServer.Ice.Authentication
import XrtcServer.Ice.PairPriority
import XrtcServer.Ice.Receiving
import XrtcServer.Ice.WriteStates
import XrtcServer.Ice.PingFairness
import XrtcServer.Ice.ChannelState
import XrtcServer.Ice.PortAllocation
import XrtcServer.Ice.FirstAnswer
import XrtcServer.Ice.Handshake
import XrtcServer.Pc.SdpSafety
import XrtcServer.Pc.AnswerFingerprint
import XrtcServer.Pc.DtlsSrtpTransport
import XrtcServer.Pc.DtlsStart
import XrtcServer.Pc.PeerTransports
import XrtcServer.Pc.OfferBundle
import XrtcServer.Pc.SrtpUsage
import XrtcServer.Pc.Demultiplexing
import XrtcServer.Pc.DtlsWritable
import XrtcServer.Pc.DtlsRecords
import XrtcServer.Pc.LineEnds
import XrtcServer.Stream.Registration
import XrtcServer.Stream.Ownership
import XrtcServer.Stream.Forwarding
import XrtcServer.Stream.RejectedAnswer
import XrtcServer.Stream.MediaPath
import XrtcServer.Stream.Announcement
import XrtcServer.Server.QueryLoop
import XrtcServer.Server.ReplyFraming
import XrtcServer.Server.ReplyRouting
import XrtcServer.Server.Delivery
import XrtcServer.Server.CertificateOwner
import XrtcServer.Server.FirstRequest
import XrtcServer.Server.ReplyWriting
import XrtcServer.Server.ConnTable
import XrtcServer.Server.Partition
import XrtcServer.Server.NewConnections
