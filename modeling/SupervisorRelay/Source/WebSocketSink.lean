import SupervisorRelay.Source.Main

/-! The dashboard session of `main.rs` before a peer that may stop taking messages. In the
session of the loops every message is taken; here a `?` stands behind each `send_messages`. -/
namespace SupervisorRelay

/-- The answer of the websocket to each message, by the number of messages taken before. -/
structure WebSocketSink where
  send : Nat → Except String Unit

def websocketWriteFailed (diagnostic : String) : RelayError :=
  .new "websocket_write_failed" "session" none
    ("websocket message could not be written: " ++ diagnostic) true

/-- The result of a send, and the run that it leaves. -/
abbrev Sending := RelayResult Unit × DashboardRun

/-- `?`: what comes behind a send that succeeds. -/
def Sending.andThen (sending : Sending) (next : DashboardRun → Sending) : Sending :=
  match sending with
  | (.error error, run) => (.error error, run)
  | (.ok (), run) => next run

/-- `?` in the session itself, which ends with the error. -/
def Sending.orEnd (sending : Sending) (unread : List (Except String InboundMessage))
    (next : DashboardRun → DashboardEnd) : DashboardEnd :=
  match sending with
  | (.error error, run) => ⟨.error error, run, unread⟩
  | (.ok (), run) => next run

namespace WebSocketSink

variable (sink : WebSocketSink)

def sendMessages (run : DashboardRun) : List ServerMessage → Sending
  | [] => (.ok (), run)
  | message :: rest =>
    match sink.send run.sent.length with
    | .error diagnostic => (.error (websocketWriteFailed diagnostic), run)
    | .ok () => sendMessages { run with sent := run.sent ++ [message] } rest

/-- `send_messages(sink, session.drain_outbox())`. -/
def sendOutbox (run : DashboardRun) : Sending :=
  let drained := run.session.drainOutbox
  sink.sendMessages { run with session := drained.2 } drained.1

def handleLocked (environment : SessionEnvironment) (run : DashboardRun)
    (command : ClientCommand) : Sending :=
  let locked := run.lock environment
  let handled := locked.2.session.handleCommand environment.newV4 command locked.2.registry
    locked.1.ipc.port locked.2.audit locked.1.now
  let run : DashboardRun := { locked.2 with
    session := handled.1.session
    registry := handled.1.registry
    audit := handled.2
    calls := locked.2.calls ++ handled.1.calls }
  match handled.1.result with
  | .error error => (sink.sendMessages run [.error error]).andThen sink.sendOutbox
  | .ok _ => sink.sendOutbox run

/-- The body of the message loop. -/
def receive (environment : SessionEnvironment) (run : DashboardRun) (raw : String) : Sending :=
  match decodeClientMessage environment.reader raw with
  | .ok (.command command) => sink.handleLocked environment run command
  | .ok (.logEventFilterConditions _) => (.ok (), run)
  | .ok (.clientHello _) =>
      sink.sendMessages run [.error (.new "protocol_error" "session" none
        "client_hello is only valid as the first client message" false)]
  | .error error => sink.sendMessages run [.error error]

/-- `while let Some(raw) = next_text_message(&mut stream).await?`. -/
def messageLoop (environment : SessionEnvironment) (run : DashboardRun) :
    List (Except String InboundMessage) → DashboardEnd
  | [] => ⟨.ok (), run, []⟩
  | message :: rest =>
    match readMessage message with
    | .error error => ⟨.error error, run, rest⟩
    | .ok .closed => ⟨.ok (), run, rest⟩
    | .ok (.text raw) =>
        (sink.receive environment run raw).orEnd rest fun run => messageLoop environment run rest
    | .ok .ignored => messageLoop environment run rest

/-- The session from its first message on. -/
def handleFirst (environment : SessionEnvironment) (run : DashboardRun) (raw : String)
    (unread : List (Except String InboundMessage)) : DashboardEnd :=
  match decodeClientMessage environment.reader raw with
  | .error error => ⟨.error error, run, unread⟩
  | .ok (.clientHello hello) =>
    match run.session.acceptClientHello hello environment.helloAt with
    | .error error => ⟨.error error, run, unread⟩
    | .ok session =>
      let run := { run with session := session }.publishActiveTargets environment
      (sink.sendOutbox (run.autoBindActiveTargets environment)).orEnd unread fun run =>
        sink.messageLoop environment run unread
  | .ok _ =>
    let sending := sink.sendMessages run [.error (.new "protocol_error" "session" none
      "client_hello must be the first client message" false)]
    ⟨sending.1, sending.2, unread⟩

def runDashboardSession (environment : SessionEnvironment) (identity : RemoteIdentity)
    (registry : TargetProcessRegistry) (inbound : List (Except String InboundMessage)) :
    DashboardEnd :=
  let session := DashboardSession.serverHello environment.sessionId identity environment.startedAt
  (sink.sendOutbox ⟨session, registry, .default, 0, [], []⟩).orEnd inbound fun run =>
    let first := nextTextMessage inbound
    match first.1 with
    | .error error => ⟨.error error, run, first.2⟩
    | .ok none =>
        ⟨.error (.new "protocol_error" "session" none
          "client_hello is required before business messages" false), run, first.2⟩
    | .ok (some raw) => sink.handleFirst environment run raw first.2

end WebSocketSink
end SupervisorRelay
