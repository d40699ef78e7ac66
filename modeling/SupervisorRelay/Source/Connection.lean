import SupervisorRelay.Source.Auth
import SupervisorRelay.Source.Main

/-! `handle_wss_connection` of `main.rs`. The TLS and websocket layers enter as what they
answer: the certificates of the peer and the headers of the upgrade request. -/
namespace SupervisorRelay

/-- A header in the order of `request.headers()`, with the outcome of `to_str`. The HTTP
library holds header names in lower case. -/
structure RequestHeader where
  name : String
  value : Option String
  lowercase : name.toAsciiLowercase = name

/-- `RequestHeaderCapture::on_request`: a value that is no text is passed over, and a
later value replaces an earlier one of the same name. -/
def captureHeaders (headers : List RequestHeader) : HashMap String String :=
  headers.foldl (fun captured header =>
    match header.value with
    | some value => captured.insert header.name value
    | none => captured) ∅

/-- One accepted TCP connection, with what its peer does. -/
structure WssConnection where
  remoteAddr : IpAddr
  peerCertificates : Except String (Option (List (List UInt8)))
  requestHeaders : Except String (List RequestHeader)
  now : OffsetDateTime
  reader : MessageReader
  newV4 : Nat → Uuid
  sessionId : Uuid
  startedAt : OffsetDateTime
  helloAt : OffsetDateTime
  inbound : List (Except String InboundMessage)

/-- The part of the relay's configuration, and of the libraries under it, that decides
who a peer is. -/
structure WssAuthority where
  trustedProxy : TrustedProxyConfig
  sha256 : Sha256
  parseX509Certificate : List UInt8 → Except String X509Certificate

/-- `handle_wss_connection` up to the session it runs. -/
def wssIdentity (authority : WssAuthority) (connection : WssConnection) :
    Outcome RemoteIdentity :=
  match connection.peerCertificates with
  | .error diagnostic =>
      .returned (.error (.new "tls_accept_failed" "tls" none
        ("tls connection could not be accepted: " ++ diagnostic) true))
  | .ok certificates =>
    let peerCertificate := certificates.bind List.head?
    match connection.requestHeaders with
    | .error diagnostic =>
        .returned (.error (.new "websocket_upgrade_failed" "wss" none
          ("websocket upgrade failed: " ++ diagnostic) true))
    | .ok headers =>
      if authority.trustedProxy.enabled then
        AuthContext.identityFromTrustedProxy authority.trustedProxy connection.remoteAddr
          (captureHeaders headers) connection.now
      else
        match peerCertificate with
        | none =>
            .returned (.error (.new "missing_client_certificate" "auth" none
              "client certificate must be present for mTLS mode" false))
        | some certificate =>
            AuthContext.identityFromMtlsDer authority.sha256 authority.parseX509Certificate
              certificate connection.now

/-- The connection as a session finds it, at the turns it will take. -/
def WssConnection.environment (connection : WssConnection) (turns : Nat → Turn) :
    SessionEnvironment where
  reader := connection.reader
  newV4 := connection.newV4
  sessionId := connection.sessionId
  startedAt := connection.startedAt
  helloAt := connection.helloAt
  turns := turns

/-- How a connection ended: without a session, or as its session did. -/
inductive ConnectionEnd where
  | refused (error : RelayError)
  | panicked
  | session (ended : DashboardEnd)

def handleWssConnection (authority : WssAuthority) (connection : WssConnection)
    (turns : Nat → Turn) (registry : TargetProcessRegistry) : ConnectionEnd :=
  match wssIdentity authority connection with
  | .panicked => .panicked
  | .returned (.error error) => .refused error
  | .returned (.ok identity) =>
      .session (runDashboardSession (connection.environment turns) identity registry
        connection.inbound)

end SupervisorRelay
