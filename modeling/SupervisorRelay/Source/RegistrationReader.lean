import SupervisorRelay.Library.JsonStruct
import SupervisorRelay.Library.SerdeJson
import SupervisorRelay.Source.Registration

/-! The readers and writers that serde derives for registration requests. Both structs deny
unknown fields, and no `Value` stands between them and the text: they meet every member of
an object, also where a name comes twice. -/
namespace SupervisorRelay

open Json (required readList strictMembers ofU64 ofList)

def supportedCommandFields : List String :=
  ["name", "idempotent", "timeout_seconds"]

def readSupportedCommand (document : Json) : Option SupportedCommand := do
  let members ← strictMembers supportedCommandFields document
  let name ← required members "name" Json.asStr
  let idempotent ← required members "idempotent" Json.asBool
  let timeoutSeconds ← required members "timeout_seconds" Json.asU64
  return ⟨name, idempotent, timeoutSeconds⟩

def registrationRequestFields : List String :=
  ["target_id", "display_name", "ipc_path", "lease_seconds", "supported_commands"]

def readRegistrationRequest (document : Json) : Option RegistrationRequest := do
  let members ← strictMembers registrationRequestFields document
  let targetId ← required members "target_id" Json.asStr
  let displayName ← required members "display_name" Json.asStr
  let ipcPath ← required members "ipc_path" Json.asStr
  let leaseSeconds ← required members "lease_seconds" Json.asU64
  let supportedCommands ← required members "supported_commands" (readList readSupportedCommand)
  return ⟨targetId, displayName, ipcPath, leaseSeconds, supportedCommands⟩

def writeSupportedCommand (command : SupportedCommand) : Json :=
  .object [("name", .string command.name), ("idempotent", .bool command.idempotent),
    ("timeout_seconds", ofU64 command.timeoutSeconds)]

theorem writeSupportedCommand_fits {limit : Nat} (command : SupportedCommand) :
    Json.Fits (limit + 1) (writeSupportedCommand command) := by
  refine Json.Fits.named supportedCommandFields rfl (by decide) ?_
  simp only [List.forall_mem_cons]
  exact ⟨.string _, .bool _, .integer trivial, List.forall_mem_nil _⟩

def writeRegistrationRequest (request : RegistrationRequest) : Json :=
  .object [("target_id", .string request.targetId), ("display_name", .string request.displayName),
    ("ipc_path", .string request.ipcPath), ("lease_seconds", ofU64 request.leaseSeconds),
    ("supported_commands", ofList writeSupportedCommand request.supportedCommands)]

/-- `serde_json::from_str` at a registration request: the derived reader over the document
that the text holds. -/
def registrationFromStr (json : SerdeJson) (line : String) : Except String RegistrationRequest :=
  match json.document line with
  | .error diagnostic => .error diagnostic
  | .ok document =>
    match readRegistrationRequest document with
    | some request => .ok request
    | none => .error (json.mismatch document)

end SupervisorRelay
