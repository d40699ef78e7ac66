import SupervisorRelay.Source.Session

/-! The two service loops of `main.rs`. What the operating system and the peers do
enters as data: a list of connections, a list of inbound frames, and the turns at
which a loop holds the registry lock. -/
namespace SupervisorRelay

/-- One accepted registration connection, with what its peer does. -/
structure RegistrationConnection where
  ownerIdentity : String
  readLine : Except String String
  writeAll : Except String Unit
  normalizeIpcPathKey : PathBuf → RelayResult String
  now : OffsetDateTime

structure AcceptedRegistration where
  request : RegistrationRequest
  ownerIdentity : String

/-- `accept_registration` past the listener's own accept. -/
def acceptRegistration (fromStr : String → Except String RegistrationRequest)
    (connection : RegistrationConnection) : RelayResult AcceptedRegistration :=
  match connection.readLine with
  | .error diagnostic =>
      .error (.new "registration_read_failed" "registration_accept" none
        ("registration line could not be read: " ++ diagnostic) true)
  | .ok line => do
      let request ← decodeRegistrationLine fromStr line.trimmed
      return ⟨request, connection.ownerIdentity⟩

/-- The payload of the acknowledgement line; a `Value` keeps its members in the order of
their names. -/
def registrationAck : RelayResult TargetProcessRegistration → Json
  | .ok registration =>
      .object [("ok", .bool true), ("retryable", .bool false), ("status", .string "registered"),
        ("target_id", .string registration.targetId)]
  | .error error =>
      .object [("error",
          .object [("code", .string error.code), ("message", .string error.message)]),
        ("ok", .bool false), ("retryable", .bool error.retryable)]

/-- Writing succeeds or fails with the peer; the payload is what was attempted. -/
def writeRegistrationAck (connection : RegistrationConnection)
    (result : RelayResult TargetProcessRegistration) : RelayResult Unit × Json :=
  match connection.writeAll with
  | .ok () => (.ok (), registrationAck result)
  | .error diagnostic =>
      (.error (.new "registration_ack_write_failed" "registration_ack" none
        ("registration ack could not be written: " ++ diagnostic) true), registrationAck result)

/-- Where the loop stands after the connections so far. -/
inductive LoopStatus where
  | running
  | stopped (error : RelayError)
  | panicked

structure RegistrationLoop where
  status : LoopStatus
  registry : TargetProcessRegistry
  acks : List Json

/-- `run_registration_loop` over the connections accepted so far; each `?` ends it. -/
def runRegistrationLoop (fromStr : String → Except String RegistrationRequest)
    (registry : TargetProcessRegistry) : List RegistrationConnection → RegistrationLoop
  | [] => ⟨.running, registry, []⟩
  | connection :: rest =>
    match acceptRegistration fromStr connection with
    | .error error => ⟨.stopped error, registry, []⟩
    | .ok accepted =>
      let call := registry.register connection.normalizeIpcPathKey accepted.request
        accepted.ownerIdentity connection.now
      match call.1 with
      | .panicked => ⟨.panicked, call.2, []⟩
      | .returned result =>
        let ack := writeRegistrationAck connection result
        match ack.1 with
        | .error error => ⟨.stopped error, call.2, [ack.2]⟩
        | .ok () =>
          let next := runRegistrationLoop fromStr call.2 rest
          { next with acks := ack.2 :: next.acks }

/-- A websocket message; binary data comes with the outcome of reading it as UTF-8. -/
inductive InboundMessage where
  | text (raw : String)
  | binary (fromUtf8 : Except String String)
  | ping
  | pong
  | frame
  | close

/-- What one message means to `next_text_message`. -/
inductive Reading where
  | text (raw : String)
  | closed
  | ignored

def readMessage : Except String InboundMessage → RelayResult Reading
  | .error diagnostic =>
      .error (.new "websocket_read_failed" "session" none
        ("websocket message could not be read: " ++ diagnostic) true)
  | .ok .close => .ok .closed
  | .ok (.text raw) => .ok (.text raw)
  | .ok (.binary (.ok raw)) => .ok (.text raw)
  | .ok (.binary (.error diagnostic)) =>
      .error (.new "invalid_message_binary" "session" none
        ("websocket binary message was not UTF-8: " ++ diagnostic) false)
  | .ok .ping | .ok .pong | .ok .frame => .ok .ignored

/-- The next text and the messages left unread. -/
def nextTextMessage :
    List (Except String InboundMessage) →
      RelayResult (Option String) × List (Except String InboundMessage)
  | [] => (.ok none, [])
  | message :: rest =>
    match readMessage message with
    | .error error => (.error error, rest)
    | .ok .closed => (.ok none, rest)
    | .ok (.text raw) => (.ok (some raw), rest)
    | .ok .ignored => nextTextMessage rest

/-- One taking of the registry lock: what other parties did to the registry since
the last one, the clock, and how the targets behave. -/
structure Turn where
  others : TargetProcessRegistry → TargetProcessRegistry
  now : ClockReading
  ipc : UnixNdjsonIpcClient

structure SessionEnvironment where
  reader : MessageReader
  newV4 : Nat → Uuid
  sessionId : Uuid
  startedAt : OffsetDateTime
  helloAt : OffsetDateTime
  turns : Nat → Turn

structure DashboardRun where
  session : DashboardSession
  registry : TargetProcessRegistry
  audit : AuditRecorder
  turn : Nat
  sent : List ServerMessage
  calls : List IpcCall

/-- How a session ended, and the inbound messages it never read. -/
structure DashboardEnd where
  result : RelayResult Unit
  run : DashboardRun
  unread : List (Except String InboundMessage)

namespace DashboardRun

/-- `registry.lock().await`. -/
def lock (environment : SessionEnvironment) (run : DashboardRun) : Turn × DashboardRun :=
  let turn := environment.turns run.turn
  (turn, { run with registry := turn.others run.registry, turn := run.turn + 1 })

def sendMessages (run : DashboardRun) (messages : List ServerMessage) : DashboardRun :=
  { run with sent := run.sent ++ messages }

/-- `send_messages(sink, session.drain_outbox())`. -/
def sendOutbox (run : DashboardRun) : DashboardRun :=
  let drained := run.session.drainOutbox
  { run with session := drained.2 }.sendMessages drained.1

def publishActiveTargets (environment : SessionEnvironment) (run : DashboardRun) :
    DashboardRun :=
  let locked := run.lock environment
  let targets := locked.2.registry.activeTargets locked.1.now
  { locked.2 with session := locked.2.session.publishTargetList targets }

def bindLocked (environment : SessionEnvironment) (run : DashboardRun) (targetId : String) :
    DashboardRun :=
  let locked := run.lock environment
  let step := locked.2.session.bindTarget targetId locked.2.registry locked.1.ipc.port
    locked.1.now
  { locked.2 with
    session := step.session
    registry := step.registry
    calls := locked.2.calls ++ step.calls }

def autoBindActiveTargets (environment : SessionEnvironment) (run : DashboardRun) :
    DashboardRun :=
  let locked := run.lock environment
  let targetIds := (locked.2.registry.activeTargets locked.1.now).map (·.targetId)
  targetIds.foldl (bindLocked environment) locked.2

def handleLocked (environment : SessionEnvironment) (run : DashboardRun)
    (command : ClientCommand) : DashboardRun :=
  let locked := run.lock environment
  let handled := locked.2.session.handleCommand environment.newV4 command locked.2.registry
    locked.1.ipc.port locked.2.audit locked.1.now
  let run : DashboardRun := { locked.2 with
    session := handled.1.session
    registry := handled.1.registry
    audit := handled.2
    calls := locked.2.calls ++ handled.1.calls }
  match handled.1.result with
  | .error error => (run.sendMessages [.error error]).sendOutbox
  | .ok _ => run.sendOutbox

/-- The body of the message loop. -/
def receive (environment : SessionEnvironment) (run : DashboardRun) (raw : String) :
    DashboardRun :=
  match decodeClientMessage environment.reader raw with
  | .ok (.command command) => run.handleLocked environment command
  | .ok (.logEventFilterConditions _) => run
  | .ok (.clientHello _) =>
      run.sendMessages [.error (.new "protocol_error" "session" none
        "client_hello is only valid as the first client message" false)]
  | .error error => run.sendMessages [.error error]

/-- `while let Some(raw) = next_text_message(&mut stream).await?`. -/
def messageLoop (environment : SessionEnvironment) (run : DashboardRun) :
    List (Except String InboundMessage) → DashboardEnd
  | [] => ⟨.ok (), run, []⟩
  | message :: rest =>
    match readMessage message with
    | .error error => ⟨.error error, run, rest⟩
    | .ok .closed => ⟨.ok (), run, rest⟩
    | .ok (.text raw) => messageLoop environment (run.receive environment raw) rest
    | .ok .ignored => messageLoop environment run rest

end DashboardRun

def runDashboardSession (environment : SessionEnvironment) (identity : RemoteIdentity)
    (registry : TargetProcessRegistry) (inbound : List (Except String InboundMessage)) :
    DashboardEnd :=
  let session := DashboardSession.serverHello environment.sessionId identity environment.startedAt
  let run := DashboardRun.sendOutbox ⟨session, registry, .default, 0, [], []⟩
  let first := nextTextMessage inbound
  match first.1 with
  | .error error => ⟨.error error, run, first.2⟩
  | .ok none =>
      ⟨.error (.new "protocol_error" "session" none
        "client_hello is required before business messages" false), run, first.2⟩
  | .ok (some raw) =>
    match decodeClientMessage environment.reader raw with
    | .error error => ⟨.error error, run, first.2⟩
    | .ok (.clientHello hello) =>
      match run.session.acceptClientHello hello environment.helloAt with
      | .error error => ⟨.error error, run, first.2⟩
      | .ok session =>
        let run := { run with session := session }.publishActiveTargets environment
        let run := (run.autoBindActiveTargets environment).sendOutbox
        run.messageLoop environment first.2
    | .ok _ =>
        ⟨.ok (), run.sendMessages [.error (.new "protocol_error" "session" none
          "client_hello must be the first client message" false)], first.2⟩

end SupervisorRelay
