import SupervisorRelay.Library.HashMap
import SupervisorRelay.Library.Json
import SupervisorRelay.Library.Machine
import SupervisorRelay.Library.Text
import SupervisorRelay.Library.Time
import SupervisorRelay.Library.UnixPath
import SupervisorRelay.Source.Audit
import SupervisorRelay.Source.Registry
import SupervisorRelay.Registry.Operations
import SupervisorRelay.Registry.Runs
import SupervisorRelay.Registry.Invariant
import SupervisorRelay.Registry.Ownership
import SupervisorRelay.Registry.LeaseArithmetic
import SupervisorRelay.Registry.Leases
import SupervisorRelay.Registry.PathContainment
import SupervisorRelay.Source.IpcClient
import SupervisorRelay.Source.Session
import SupervisorRelay.Session.Operations
import SupervisorRelay.Session.Gate
import SupervisorRelay.Session.CommandFrame
import SupervisorRelay.Session.LeaseConnection
import SupervisorRelay.Source.Relay
import SupervisorRelay.Session.Streams
import SupervisorRelay.Session.FanOut
import SupervisorRelay.Source.Main
import SupervisorRelay.Service.Handshake
import SupervisorRelay.Service.RegistrationLoop
import SupervisorRelay.Library.Gaps
import SupervisorRelay.Session.EventGaps
import SupervisorRelay.Session.StateInvariant
import SupervisorRelay.Registry.Coherence
import SupervisorRelay.Service.StartUp
import SupervisorRelay.Service.Replies
import SupervisorRelay.Session.AuditTrace
import SupervisorRelay.Session.Endpoints
import SupervisorRelay.Session.BindOutcomes
import SupervisorRelay.Session.CommandOutcomes
import SupervisorRelay.Registry.Retry
import SupervisorRelay.Registry.Sweeps
import SupervisorRelay.Session.Answers
import SupervisorRelay.Library.IpAddr
import SupervisorRelay.Source.Auth
import SupervisorRelay.Auth.ClientKeys
import SupervisorRelay.Auth.TrustedProxy
import SupervisorRelay.Library.JsonFields
import SupervisorRelay.Session.ClientFields
import SupervisorRelay.Library.JsonRoundTrip
import SupervisorRelay.Source.ClientWriter
import SupervisorRelay.Session.ClientRoundTrip
import SupervisorRelay.Library.Radix
import SupervisorRelay.Service.RegistrationSocket
import SupervisorRelay.Service.Tasks
import SupervisorRelay.Service.ProcessSteps
import SupervisorRelay.Service.TraceSummary
import SupervisorRelay.Service.ProcessTrace
import SupervisorRelay.Service.ProcessRefinement
import SupervisorRelay.Auth.ConnectionIdentity
import SupervisorRelay.Library.Logged
import SupervisorRelay.Library.SocketAddr
import SupervisorRelay.Source.Startup
import SupervisorRelay.Service.CommandLine
import SupervisorRelay.Service.Listening
import SupervisorRelay.Service.StartScript
import SupervisorRelay.Library.JsonValues
import SupervisorRelay.Library.SerdeJson
import SupervisorRelay.Library.JsonText
import SupervisorRelay.Library.JsonLexing
import SupervisorRelay.Library.JsonParsing
import SupervisorRelay.Library.JsonWriting
import SupervisorRelay.Source.IpcTransport
import SupervisorRelay.Session.ClientText
import SupervisorRelay.Session.IpcExchange
import SupervisorRelay.Library.JsonStruct
import SupervisorRelay.Source.RegistrationReader
import SupervisorRelay.Service.RegistrationExchange
import SupervisorRelay.Library.JsonAccepted
import SupervisorRelay.Source.ServerWriter
import SupervisorRelay.Session.ServerText
import SupervisorRelay.Service.ProcessTexts
import SupervisorRelay.Source.WebSocketSink
import SupervisorRelay.Service.Delivery
