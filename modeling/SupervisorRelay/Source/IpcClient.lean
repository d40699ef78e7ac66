import SupervisorRelay.Library.Json
import SupervisorRelay.Source.Registry

/-! The IPC boundary of `ipc_client.rs`. The transport below `request_json`
(socket, JSON text, fresh request id) stands outside: it enters as a function
from a path and a request to the decoded response. -/
namespace SupervisorRelay

structure DashboardState where
  targetId : String
  stateGeneration : UInt64
  generatedAt : OffsetDateTime
  payload : Json

structure TargetIpcPort where
  connectState : TargetProcessRegistration → OffsetDateTime → RelayResult DashboardState
  subscribeEventLog : TargetProcessRegistration → OffsetDateTime → RelayResult Unit
  forwardCommand : TargetProcessRegistration → PreparedCommand → OffsetDateTime →
    RelayResult ControlCommandResult

/-- The method and parameters of a request, before they are written as JSON. -/
inductive IpcRequest where
  | state (targetId : String)
  | subscription (method targetId : String) (sessionEstablished : Bool)
  | command (method : String) (command : PreparedCommand) (requestedAtUnixNanos : Int)

/-- A reading of the system clock. `json!` writes its nanoseconds as a 64-bit integer and
panics on any other number of them, which the clock reaches in the year 2554. -/
abbrev ClockReading : Type :=
  { now : OffsetDateTime //
    -9223372036854775808 ≤ now.unixNanos ∧ now.unixNanos ≤ 18446744073709551615 }

def ClockReading.unixEpoch : ClockReading :=
  ⟨.unixEpoch, by decide⟩

structure UnixNdjsonIpcClient where
  requestJsonBlocking : PathBuf → IpcRequest → RelayResult Json

def commandMethod : ControlCommandName → String
  | .restartChild => "command.restart_child"
  | .pauseChild => "command.pause_child"
  | .resumeChild => "command.resume_child"
  | .quarantineChild => "command.quarantine_child"
  | .removeChild => "command.remove_child"
  | .addChild => "command.add_child"
  | .shutdownTree => "command.shutdown_tree"

def responseResult (response : Json) : RelayResult Json :=
  if ((response.get "ok").bind Json.asBool).getD false then
    match response.get "result" with
    | some result => .ok result
    | none =>
        .error (.new "ipc_result_missing" "ipc_response" none
          "IPC response did not include result" false)
  else
    match response.get "error" with
    | some error =>
        .error (.new
          (((error.get "code").bind Json.asStr).getD "ipc_error")
          (((error.get "stage").bind Json.asStr).getD "ipc_response")
          ((error.get "target_id").bind Json.asStr)
          (((error.get "message").bind Json.asStr).getD "IPC response returned an error")
          (((error.get "retryable").bind Json.asBool).getD false))
    | none =>
        .error (.new "ipc_response_failed" "ipc_response" none
          "IPC response was not successful" false)

namespace UnixNdjsonIpcClient

def connectState (client : UnixNdjsonIpcClient) (registration : TargetProcessRegistration)
    (now : OffsetDateTime) : RelayResult DashboardState := do
  let response ← client.requestJsonBlocking registration.ipcPath (.state registration.targetId)
  let result ← responseResult response
  match result.get "state" with
  | none =>
      throw (.forTarget "ipc_state_missing" "ipc_response" registration.targetId
        "state response did not include state payload" false)
  | some state =>
      return {
        targetId := ((result.get "target_id").bind Json.asStr).getD registration.targetId
        stateGeneration := ((state.get "state_generation").bind Json.asU64).getD 0
        generatedAt := now
        payload := state }

def subscriptionRequest (client : UnixNdjsonIpcClient) (ipcPath : PathBuf)
    (targetId method : String) : RelayResult Unit := do
  let response ← client.requestJsonBlocking ipcPath (.subscription method targetId true)
  let _ ← responseResult response
  return ()

def subscribeEventLog (client : UnixNdjsonIpcClient) (registration : TargetProcessRegistration)
    (_now : OffsetDateTime) : RelayResult Unit := do
  client.subscriptionRequest registration.ipcPath registration.targetId "events.subscribe"
  client.subscriptionRequest registration.ipcPath registration.targetId "logs.tail"

def forwardCommandRequest (client : UnixNdjsonIpcClient)
    (registration : TargetProcessRegistration) (command : PreparedCommand)
    (now : OffsetDateTime) : RelayResult Json :=
  client.requestJsonBlocking registration.ipcPath
    (.command (commandMethod command.command) command now.unixNanos)

/-- Each field comes from the answer, or from the command where the answer has
none; `requested_by` never comes from the answer. -/
def forwardCommand (client : UnixNdjsonIpcClient) (registration : TargetProcessRegistration)
    (command : PreparedCommand) (now : OffsetDateTime) : RelayResult ControlCommandResult := do
  let response ← client.forwardCommandRequest registration command now
  let result ← responseResult response
  match result.get "result" with
  | none =>
      throw (.forTarget "ipc_command_result_missing" "ipc_response" command.targetId
        "command response did not include result payload" false)
  | some commandResult =>
      return {
        commandId := ((commandResult.get "command_id").bind Json.asStr).getD command.commandId
        correlationId :=
          ((commandResult.get "correlation_id").bind Json.asStr).or command.correlationId
        targetId := ((commandResult.get "target_id").bind Json.asStr).getD command.targetId
        accepted := ((commandResult.get "accepted").bind Json.asBool).getD false
        status := ((commandResult.get "status").bind Json.asStr).getD "failed"
        requestedBy := command.requestedBy
        completedAt := now }

def port (client : UnixNdjsonIpcClient) : TargetIpcPort where
  connectState := client.connectState
  subscribeEventLog := client.subscribeEventLog
  forwardCommand := client.forwardCommand

end UnixNdjsonIpcClient
end SupervisorRelay
