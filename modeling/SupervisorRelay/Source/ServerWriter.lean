import SupervisorRelay.Source.ClientWriter
import SupervisorRelay.Source.RegistrationReader

/-! The writers that serde derives for server messages. -/
namespace SupervisorRelay

open Json (Members ofOption ofU64 ofList)

def RegistrationState.name : RegistrationState → String
  | active => "active"
  | rejected => "rejected"
  | expired => "expired"

def ConnectionState.name : ConnectionState → String
  | registered => "registered"
  | disconnected => "disconnected"
  | connecting => "connecting"
  | connected => "connected"
  | reconnecting => "reconnecting"
  | unavailable => "unavailable"
  | expired => "expired"

def LogEventFilterMode.name : LogEventFilterMode → String
  | remote => "remote"
  | «local» => "local"

end SupervisorRelay
