import P2pSdk.Foundation.TransitionSystem
import P2pSdk.Ice.StunWire
import P2pSdk.Ice.StunRoundTrip
import P2pSdk.Ice.AgentRun
import P2pSdk.Ice.Nomination
import P2pSdk.Ice.Acknowledgment
import P2pSdk.Ice.Datagrams
import P2pSdk.Ice.Restart
import P2pSdk.Session.TwoAgents
import P2pSdk.Session.Messages
import P2pSdk.Session.Roles
import P2pSdk.Session.Agreement
import P2pSdk.Session.Handshake
import P2pSdk.Client.Threads
import P2pSdk.Client.Calls
import P2pSdk.Client.Steps
import P2pSdk.Client.Close
import P2pSdk.Client.Sessions
import P2pSdk.Client.Clock
import P2pSdk.Ice.StunReplies
import P2pSdk.Core.Sdp
import P2pSdk.Ice.CandidateRoundTrip
import P2pSdk.Ice.SignallingRoundTrip
import P2pSdk.Client.Delivery
import P2pSdk.Connector.RecvLoop
import P2pSdk.Client.Heartbeats
import P2pSdk.Client.Callbacks
import P2pSdk.Client.Leftovers
import P2pSdk.Client.Timeouts
import P2pSdk.Client.SeqIds
import P2pSdk.Connector.Signalling
import P2pSdk.Foundation.Programs
import P2pSdk.Foundation.WaitGraph
import P2pSdk.Locks.Functions
import P2pSdk.Locks.World
import P2pSdk.Locks.DeadlockFreedom
import P2pSdk.Foundation.RecordWalk
import P2pSdk.Stun.Message
import P2pSdk.Turn.Session
import P2pSdk.Stun.Bounds
import P2pSdk.Ice.ParserBounds
import P2pSdk.Stun.ResponseDecoding
import P2pSdk.Ice.MessageIntegrity
import P2pSdk.Ice.ParserReference
import P2pSdk.Stun.ErrorCodes
import P2pSdk.Stun.PermissionRoundTrip
import P2pSdk.Connector.Messages
import P2pSdk.Connector.Reconnect
import P2pSdk.Client.BinaryData
import P2pSdk.Foundation.Crc
import P2pSdk.Ice.Fingerprint
import P2pSdk.Stun.StrayDatagrams
import P2pSdk.Turn.Outcomes
import P2pSdk.Foundation.History
import P2pSdk.Ice.AgentHistory
import P2pSdk.Ice.Contact
import P2pSdk.Ice.Terminal
import P2pSdk.Ice.FrozenPairs
import P2pSdk.Ice.GivingUp
import P2pSdk.Ice.Answers
import P2pSdk.Foundation.Retransmission
import P2pSdk.Ice.Pacing
import P2pSdk.Ice.CheckOrder
import P2pSdk.Foundation.Ranking
import P2pSdk.Ice.PairRanking
import P2pSdk.Ice.Trickle
import P2pSdk.Ice.UseCandidate
import P2pSdk.Connector.HandlerAgreement
import P2pSdk.Connector.Disconnect
import P2pSdk.Connector.SendOutcome
import P2pSdk.Connector.Registration
import P2pSdk.Connector.WebSocket
import P2pSdk.Client.ExternalAddress
import P2pSdk.Stun.Ipv6Text
import P2pSdk.Ice.CandidateFormat
import P2pSdk.Ice.Ipv6Candidates
import P2pSdk.Transport.SocketAddr
import P2pSdk.Transport.Udp
import P2pSdk.Client.StateReports
import P2pSdk.Foundation.Json
import P2pSdk.Foundation.JsonText
import P2pSdk.Foundation.Properties
import P2pSdk.Napi.Bridge
import P2pSdk.Napi.Ids
import P2pSdk.Transport.Spellings
import P2pSdk.Foundation.SlidingWindow
import P2pSdk.Foundation.Nom
import P2pSdk.Foundation.Effects
import P2pSdk.Foundation.Queues
import P2pSdk.Dtls.Window
import P2pSdk.Dtls.Types
import P2pSdk.Dtls.Messages
import P2pSdk.Dtls.MessageRoundTrip
import P2pSdk.Dtls.Record
import P2pSdk.Dtls.Handshake
import P2pSdk.Dtls.Incoming
import P2pSdk.Dtls.Crypto
import P2pSdk.Dtls.Keys
import P2pSdk.Dtls.Engine
import P2pSdk.Dtls.Client
import P2pSdk.Dtls.Sending
import P2pSdk.Dtls.ClientRun
import P2pSdk.Dtls.ClientSteps
import P2pSdk.Dtls.Fragments
import P2pSdk.Dtls.Arrival
import P2pSdk.Dtls.Progress
import P2pSdk.Dtls.SentRecords
import P2pSdk.Dtls.Knowledge
import P2pSdk.Dtls.Authentication
import P2pSdk.Dtls.Receiving
import P2pSdk.Dtls.Delivery
