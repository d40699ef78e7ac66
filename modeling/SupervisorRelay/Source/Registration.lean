import SupervisorRelay.Library.Text
import SupervisorRelay.Source.Config

/-! Registration payloads of `registration.rs`. The JSON parser with its derived
reader stands outside: it enters as a function from a line to a request. -/
namespace SupervisorRelay

structure SupportedCommand where
  name : String
  idempotent : Bool
  timeoutSeconds : UInt64
deriving DecidableEq

structure RegistrationRequest where
  targetId : String
  displayName : String
  ipcPath : PathBuf
  leaseSeconds : UInt64
  supportedCommands : List SupportedCommand
deriving DecidableEq

/-- `fromStr` is `serde_json::from_str` at this type, failing with its diagnostic text. -/
def decodeRegistrationLine (fromStr : String → Except String RegistrationRequest)
    (line : String) : RelayResult RegistrationRequest :=
  match fromStr line with
  | .error diagnostic =>
      .error (.new "invalid_registration_json" "registration_parse" none
        ("registration line could not be parsed: " ++ diagnostic) false)
  | .ok request => .ok request

end SupervisorRelay
