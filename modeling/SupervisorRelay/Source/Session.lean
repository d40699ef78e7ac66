import Mathlib.Data.Finset.Insert
import SupervisorRelay.Source.Audit
import SupervisorRelay.Source.IpcClient

/-! The dashboard session of `session.rs`. A method that talks to a target lists
the calls it makes, each with the registry as it stands at the call. -/
namespace SupervisorRelay

inductive TransportSecurity where
  | wss
  | ws
deriving DecidableEq

inductive ConnectionStateForSession where
  | handshaking
  | established
  | closing
  | closed
deriving DecidableEq

inductive ControlState where
  | notEstablished
  | established
  | revoked
deriving DecidableEq

structure EventRecord where
  targetId : String
  sequence : UInt64
  eventType : String
  severity : String
  occurredAt : OffsetDateTime

structure LogRecord where
  targetId : String
  sequence : Option UInt64
  severity : String
  message : String
  occurredAt : OffsetDateTime

inductive LogEventFilterMode where
  | remote
  | «local»

structure ResumeCursorEntry where
  deliveryMode : String
  filterConfigVersion : UInt64
  streamEpoch : String
  sequence : UInt64

structure ResumeCursor where
  events : HashMap String ResumeCursorEntry
  logs : HashMap String ResumeCursorEntry

def ResumeCursor.default : ResumeCursor :=
  ⟨∅, ∅⟩

structure ClientHello where
  clientStoreId : String
  resumeCursor : ResumeCursor

structure LogEventFilterConditionsMessage where
  targetIds : List String
  childPaths : List String
  lifecycleStates : List String
  eventTypes : List String
  severities : List String
  sequenceMin : Option UInt64
  correlationId : Option String

inductive ClientMessage where
  | clientHello (hello : ClientHello)
  | command (command : ClientCommand)
  | logEventFilterConditions (conditions : LogEventFilterConditionsMessage)

inductive ServerMessage where
  | serverHello (sessionId : Uuid) (clientIdentity : String)
      (logEventFilterMode : LogEventFilterMode) (logEventFilterConditions : Json)
      (filterConfigVersion : UInt64)
  | targetList (targets : List VisibleTarget)
  | state (targetId : String) (state : Json)
  | event (targetId : String) (event : EventRecord)
  | log (targetId : String) (log : LogRecord)
  | stateDelta (targetId : String) (delta : Json)
  | droppedCount (targetId : String) (droppedEventCount : UInt64)
  | commandResult (targetId : String) (result : ControlCommandResult)
  | connectionState (targetId : String) (state : ConnectionState)
  | error (error : RelayError)

/-- The JSON reader and the derived reader of `ClientMessage`, each failing with
its diagnostic text. -/
structure MessageReader where
  fromStr : String → Except String Json
  fromValue : Json → Except String ClientMessage

def clientHelloFields : List String :=
  ["type", "client_store_id", "resume_cursor"]

def decodeClientMessage (reader : MessageReader) (raw : String) : RelayResult ClientMessage := do
  let value ←
    match reader.fromStr raw with
    | .ok value => pure value
    | .error diagnostic =>
        throw (.new "invalid_message_json" "session_decode" none
          ("client message could not be parsed: " ++ diagnostic) false)
  let messageType := (value.get "type").bind Json.asStr
  if messageType = some "client_hello" then
    match value with
    | .object members =>
        if members.any fun entry => !clientHelloFields.contains entry.1 then
          throw (.new "unsupported_field" "session_decode" none
            "message field is not supported by the current protocol" false)
    | _ =>
        throw (.new "invalid_message_schema" "session_decode" none
          "client message must be a JSON object" false)
  else if messageType ≠ some "command" ∧ messageType ≠ some "log_event_filter_conditions" then
    throw (.new "unsupported_message_type" "session_decode" none
      "message type is not supported by the current protocol" false)
  match reader.fromValue value with
  | .ok message => return message
  | .error diagnostic =>
      throw (.new "invalid_message_schema" "session_decode" none
        ("client message schema is invalid: " ++ diagnostic) false)

structure DashboardSession where
  sessionId : Uuid
  remoteIdentity : Option RemoteIdentity
  clientStoreId : Option String
  connectionState : ConnectionStateForSession
  controlState : ControlState
  boundTargets : Finset String
  lastSequences : HashMap String UInt64
  outbox : List ServerMessage
  createdAt : OffsetDateTime
  lastSeenAt : OffsetDateTime

/-- The method of the session from which a target is called. -/
inductive IpcCaller where
  | bindTarget
  | handleCommand
  | refreshTargetStateAfterCommand
deriving DecidableEq

inductive IpcMethod where
  | connectState
  | subscribeEventLog
  | forwardCommand (command : PreparedCommand)

/-- One call of a `TargetIpcPort` method, with the registry at that moment. -/
structure IpcCall where
  caller : IpcCaller
  method : IpcMethod
  registration : TargetProcessRegistration
  now : OffsetDateTime
  registry : TargetProcessRegistry

/-- What a session method leaves behind, on success and on failure alike. -/
structure SessionStep (α : Type) where
  result : RelayResult α
  session : DashboardSession
  registry : TargetProcessRegistry
  calls : List IpcCall

namespace DashboardSession

/-- `sessionId` is what `Uuid::new_v4` yields. -/
def unauthenticated (sessionId : Uuid) (now : OffsetDateTime) : DashboardSession where
  sessionId := sessionId
  remoteIdentity := none
  clientStoreId := none
  connectionState := .handshaking
  controlState := .notEstablished
  boundTargets := ∅
  lastSequences := ∅
  outbox := []
  createdAt := now
  lastSeenAt := now

def serverHello (sessionId : Uuid) (identity : RemoteIdentity) (now : OffsetDateTime) :
    DashboardSession where
  sessionId := sessionId
  remoteIdentity := some identity
  clientStoreId := none
  connectionState := .handshaking
  controlState := .notEstablished
  boundTargets := ∅
  lastSequences := ∅
  outbox := [.serverHello sessionId identity.clientIdentity .remote (.object []) 0]
  createdAt := now
  lastSeenAt := now

def acceptClientHello (session : DashboardSession) (hello : ClientHello) (now : OffsetDateTime) :
    RelayResult DashboardSession :=
  if hello.clientStoreId.isBlank then
    .error (.new "invalid_message_schema" "session" none
      "client_store_id must not be empty" false)
  else if session.connectionState ≠ .handshaking then
    .error (.new "protocol_error" "session" none
      "client_hello is only valid during handshaking" false)
  else
    .ok { session with
      clientStoreId := some hello.clientStoreId
      connectionState := .established
      controlState := .established
      lastSeenAt := now }

def push (session : DashboardSession) (message : ServerMessage) : DashboardSession :=
  { session with outbox := session.outbox ++ [message] }

def publishTargetList (session : DashboardSession) (targets : List VisibleTarget) :
    DashboardSession :=
  session.push (.targetList targets)

def establish (sessionId : Uuid) (identity : RemoteIdentity) (registry : TargetProcessRegistry)
    (transport : TransportSecurity) (now : OffsetDateTime) : RelayResult DashboardSession := do
  if transport ≠ .wss then
    throw (.new "insecure_transport" "session" none
      "full control session requires wss://" false)
  let session := serverHello sessionId identity now
  let session ← session.acceptClientHello ⟨"volatile-session", .default⟩ now
  return session.publishTargetList (registry.activeTargets now)

def sessionNotEstablished (message : String) : RelayError :=
  .new "session_not_established" "session" none message false

def ensureControlEstablished (session : DashboardSession) : RelayResult Unit :=
  if session.connectionState = .established ∧ session.controlState = .established ∧
      session.remoteIdentity.isSome then .ok ()
  else
    .error (sessionNotEstablished
      "control session must be established before IPC binding or command forwarding")

/-- The checks of `bind_target` before its first write. -/
def bindChecks (session : DashboardSession) (targetId : String)
    (registry : TargetProcessRegistry) (now : OffsetDateTime) :
    RelayResult TargetProcessRegistration := do
  session.ensureControlEstablished
  registry.ensureTargetActive targetId now
  registry.registration targetId

def bindTarget (session : DashboardSession) (targetId : String)
    (registry : TargetProcessRegistry) (ipc : TargetIpcPort) (now : OffsetDateTime) :
    SessionStep Unit :=
  match session.bindChecks targetId registry now with
  | .error error => ⟨.error error, session, registry, []⟩
  | .ok registration =>
    if targetId ∈ session.boundTargets then ⟨.ok (), session, registry, []⟩
    else
      match registry.beginBinding targetId now with
      | .error error => ⟨.error error, session, registry, []⟩
      | .ok registry =>
        let connecting : IpcCall := ⟨.bindTarget, .connectState, registration, now, registry⟩
        match ipc.connectState registration now with
        | .error error =>
            ⟨.error error, session, registry.markUnavailable targetId error.message now,
              [connecting]⟩
        | .ok state =>
          match registry.markConnected targetId state.stateGeneration now with
          | .error error => ⟨.error error, session, registry, [connecting]⟩
          | .ok registry =>
            let subscribing : IpcCall :=
              ⟨.bindTarget, .subscribeEventLog, registration, now, registry⟩
            match ipc.subscribeEventLog registration now with
            | .error error =>
                ⟨.error error, session, registry.markUnavailable targetId error.message now,
                  [connecting, subscribing]⟩
            | .ok () =>
                let session := { session with
                  boundTargets := insert targetId session.boundTargets
                  outbox := session.outbox ++ [.state targetId state.payload]
                  lastSeenAt := now }
                ⟨.ok (), session, registry, [connecting, subscribing]⟩

/-- The checks of `handle_command` before its first effect. -/
def commandChecks (session : DashboardSession) (command : ClientCommand)
    (registry : TargetProcessRegistry) (now : OffsetDateTime) :
    RelayResult (RemoteIdentity × TargetProcessRegistration × PreparedCommand) := do
  session.ensureControlEstablished
  let identity ←
    match session.remoteIdentity with
    | some identity => pure identity
    | none => throw (sessionNotEstablished "control session is not established")
  if command.targetId ∉ session.boundTargets then
    throw (.forTarget "target_not_bound" "session" command.targetId
      "target must be bound before command forwarding" false)
  registry.ensureTargetActive command.targetId now
  registry.ensureCommandSupported command.targetId command.command
  let registration ← registry.registration command.targetId
  let prepared ← prepareClientCommand command identity now
  return (identity, registration, prepared)

def acceptConnectionState (session : DashboardSession) (targetId : String)
    (state : ConnectionState) : RelayResult (List ServerMessage) × DashboardSession :=
  if targetId ∉ session.boundTargets then (.ok [], session)
  else
    let message : ServerMessage := .connectionState targetId state
    (.ok [message], session.push message)

def refreshTargetStateAfterCommand (session : DashboardSession) (targetId : String)
    (registry : TargetProcessRegistry) (ipc : TargetIpcPort) (now : OffsetDateTime) :
    SessionStep Unit :=
  match registry.registration targetId with
  | .error error => ⟨.error error, session, registry, []⟩
  | .ok registration =>
    let connecting : IpcCall :=
      ⟨.refreshTargetStateAfterCommand, .connectState, registration, now, registry⟩
    match ipc.connectState registration now with
    | .error error =>
        ⟨.error error, session, registry.markUnavailable targetId error.message now, [connecting]⟩
    | .ok state =>
      match registry.markConnected targetId state.stateGeneration now with
      | .error error => ⟨.error error, session, registry, [connecting]⟩
      | .ok registry =>
          ⟨.ok (), session.push (.state targetId state.payload), registry, [connecting]⟩

/-- What `handle_command` does with the target's answer. Everything after the
forwarding names the target that the answer names. -/
def finishCommand (session : DashboardSession) (registry : TargetProcessRegistry)
    (ipc : TargetIpcPort) (now : OffsetDateTime) (result : ControlCommandResult) :
    SessionStep ControlCommandResult :=
  let session := session.push (.commandResult result.targetId result)
  if result.accepted ∧ result.status = "completed" then
    let refresh := session.refreshTargetStateAfterCommand result.targetId registry ipc now
    match refresh.result with
    | .ok () => ⟨.ok result, refresh.session, refresh.registry, refresh.calls⟩
    | .error _ =>
        let session := (refresh.session.acceptConnectionState result.targetId .unavailable).2
        ⟨.ok result, session, refresh.registry, refresh.calls⟩
  else ⟨.ok result, session, registry, []⟩

def handleCommand (newV4 : Nat → Uuid) (session : DashboardSession) (command : ClientCommand)
    (registry : TargetProcessRegistry) (ipc : TargetIpcPort) (audit : AuditRecorder)
    (now : OffsetDateTime) : SessionStep ControlCommandResult × AuditRecorder :=
  match session.commandChecks command registry now with
  | .error error => (⟨.error error, session, registry, []⟩, audit)
  | .ok (identity, registration, prepared) =>
    let audit := audit.recordAccepted newV4 identity prepared now
    let forwarding : IpcCall :=
      ⟨.handleCommand, .forwardCommand prepared, registration, now, registry⟩
    match ipc.forwardCommand registration prepared now with
    | .error error =>
        (⟨.error error, session, registry, [forwarding]⟩,
          audit.recordRejected newV4 identity prepared error.message now)
    | .ok result =>
        let audit := audit.recordCompleted newV4 identity prepared result.status now
        let finish := session.finishCommand registry ipc now result
        ({ finish with calls := forwarding :: finish.calls }, audit)

def drainOutbox (session : DashboardSession) : List ServerMessage × DashboardSession :=
  (session.outbox, { session with outbox := [] })

def acceptEvent (session : DashboardSession) (event : EventRecord) :
    RelayResult (List ServerMessage) × DashboardSession :=
  if event.targetId ∉ session.boundTargets then (.ok [], session)
  else
    let accept (gap : List ServerMessage) :=
      let messages := gap ++ [.event event.targetId event]
      (.ok messages, { session with
        lastSequences := session.lastSequences.insert event.targetId event.sequence
        outbox := session.outbox ++ messages })
    match session.lastSequences.lookup event.targetId with
    | none => accept []
    | some previous =>
      if event.sequence ≤ previous then
        -- the rejection is returned and not queued
        (.ok [.error (.forTarget "sequence_not_monotonic" "stream" event.targetId
          "event sequence must be monotonic for each target" false)], session)
      else if event.sequence > previous + 1 then
        accept [.droppedCount event.targetId (event.sequence - previous - 1)]
      else accept []

def acceptLog (session : DashboardSession) (log : LogRecord) :
    RelayResult (List ServerMessage) × DashboardSession :=
  if log.targetId ∉ session.boundTargets then (.ok [], session)
  else
    let message : ServerMessage := .log log.targetId log
    (.ok [message], session.push message)

def acceptStateDelta (session : DashboardSession) (targetId : String) (delta : Json) :
    RelayResult (List ServerMessage) × DashboardSession :=
  if targetId ∉ session.boundTargets then (.ok [], session)
  else
    let message : ServerMessage := .stateDelta targetId delta
    (.ok [message], session.push message)

def acceptDroppedCount (session : DashboardSession) (targetId : String)
    (droppedEventCount : UInt64) : RelayResult (List ServerMessage) × DashboardSession :=
  if targetId ∉ session.boundTargets then (.ok [], session)
  else
    let message : ServerMessage := .droppedCount targetId droppedEventCount
    (.ok [message], session.push message)

end DashboardSession

/-- `RelayHub::reconnect_timeout`. -/
def reconnectTimeout (session : DashboardSession) (registry : TargetProcessRegistry)
    (targetId : String) (now : OffsetDateTime) :
    RelayResult (List ServerMessage) × DashboardSession × TargetProcessRegistry :=
  let answer := session.acceptConnectionState targetId .unavailable
  (answer.1, answer.2,
    registry.markUnavailable targetId "reconnect timeout after 10 seconds" now)

end SupervisorRelay
