import Mathlib.Algebra.Group.Int.Defs
import Mathlib.Algebra.Group.Nat.Defs
import SupervisorRelay.Library.SerdeJson
import SupervisorRelay.Source.ClientWriter
import SupervisorRelay.Source.IpcClient

/-! The transport of `ipc_client.rs`: `request_json` with the bodies that `json!` builds
for it. A `Value` keeps its members in the order of their names, and so do the bodies. -/
namespace SupervisorRelay

open Json (ofOption)

/-- `to_value` of an `i128`, which fails outside the 64-bit types. -/
def ofI128 (value : Int) : Option Json :=
  if 0 ≤ value ∧ value < 2 ^ 64 then some (.number (.posInt (UInt64.ofNat value.toNat)))
  else if -2 ^ 63 ≤ value ∧ value < 0 then some (.number (.negInt (Int64.ofInt value)))
  else none

def commandParams (command : PreparedCommand) (requestedAt : Json) : Json.Members :=
  [("command", writeControlCommandName command.command),
    ("command_id", .string command.commandId),
    ("confirmed", .bool command.confirmed),
    ("correlation_id", ofOption .string command.correlationId),
    ("reason", .string command.reason),
    ("requested_at_unix_nanos", requestedAt),
    ("requested_by", .string command.requestedBy),
    ("target", writeCommandTarget command.target),
    ("target_id", .string command.targetId)]

/-- The body of a request; `json!` panics where a value cannot be converted. -/
def IpcRequest.body (requestId : String) : IpcRequest → Option Json
  | state targetId =>
      some (.object [("method", .string "state"),
        ("params", .object [("target_id", .string targetId)]),
        ("request_id", .string requestId)])
  | subscription method targetId sessionEstablished =>
      some (.object [("method", .string method),
        ("params", .object [("session_established", .bool sessionEstablished),
          ("target_id", .string targetId)]),
        ("request_id", .string requestId)])
  | command method prepared requestedAtUnixNanos =>
      (ofI128 requestedAtUnixNanos).map fun requestedAt =>
        .object [("method", .string method),
          ("params", .object (commandParams prepared requestedAt)),
          ("request_id", .string requestId)]

/-- One connection to a target: what it answers at each stage, the last one to the bytes
that were written. -/
structure IpcPeer where
  connect : Except String Unit
  writeAll : List UInt8 → Except String Unit
  readLine : List UInt8 → Except String String

/-- `request_json`. A `Value` can always be encoded. -/
def requestJson (json : SerdeJson) (peer : IpcPeer) (request : Json) : RelayResult Json := do
  peer.connect.mapError
    (relayError "ipc_connect_failed" "ipc_connect"
      "target process IPC could not be connected: " true)
  let line := (json.toLine request).asBytes
  (peer.writeAll line).mapError
    (relayError "ipc_write_failed" "ipc_request" "IPC request could not be written: " true)
  let response ← (peer.readLine line).mapError
    (relayError "ipc_read_failed" "ipc_response" "IPC response could not be read: " true)
  (json.fromStr response.trimmed).mapError
    (relayError "ipc_decode_failed" "ipc_response" "IPC response could not be decoded: " false)

end SupervisorRelay
