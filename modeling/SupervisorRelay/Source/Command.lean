import SupervisorRelay.Library.Text
import SupervisorRelay.Library.Time
import SupervisorRelay.Source.Error

/-! Identities of `auth.rs` and control commands of `command.rs`. -/
namespace SupervisorRelay

inductive IdentitySource where
  | mtls
  | trustedProxy
deriving DecidableEq

structure RemoteIdentity where
  clientIdentity : String
  subject : String
  issuer : String
  serialNumber : String
  principal : String
  source : IdentitySource
  notBefore : OffsetDateTime
  notAfter : OffsetDateTime

inductive ControlCommandName where
  | restartChild
  | pauseChild
  | resumeChild
  | quarantineChild
  | removeChild
  | addChild
  | shutdownTree
deriving DecidableEq

namespace ControlCommandName

def wireName : ControlCommandName → String
  | restartChild => "restart_child"
  | pauseChild => "pause_child"
  | resumeChild => "resume_child"
  | quarantineChild => "quarantine_child"
  | removeChild => "remove_child"
  | addChild => "add_child"
  | shutdownTree => "shutdown_tree"

def requiresConfirmation : ControlCommandName → Bool
  | shutdownTree | removeChild | addChild => true
  | _ => false

/-- The derived `Debug` text. -/
def debugName : ControlCommandName → String
  | restartChild => "RestartChild"
  | pauseChild => "PauseChild"
  | resumeChild => "ResumeChild"
  | quarantineChild => "QuarantineChild"
  | removeChild => "RemoveChild"
  | addChild => "AddChild"
  | shutdownTree => "ShutdownTree"

end ControlCommandName

structure CommandTarget where
  childPath : Option String
deriving DecidableEq

structure ClientCommand where
  commandId : String
  correlationId : Option String
  targetId : String
  command : ControlCommandName
  target : CommandTarget
  reason : String
  confirmed : Bool
  requestedBy : Option String
deriving DecidableEq

structure PreparedCommand where
  commandId : String
  correlationId : Option String
  targetId : String
  command : ControlCommandName
  target : CommandTarget
  reason : String
  requestedBy : String
  confirmed : Bool
  requestedAt : OffsetDateTime
deriving DecidableEq

structure ControlCommandResult where
  commandId : String
  correlationId : Option String
  targetId : String
  accepted : Bool
  status : String
  requestedBy : String
  completedAt : OffsetDateTime
deriving DecidableEq

def prepareClientCommand (command : ClientCommand) (identity : RemoteIdentity)
    (now : OffsetDateTime) : RelayResult PreparedCommand :=
  if command.commandId.isBlank then
    .error (.forTarget "invalid_message_schema" "command_validate" command.targetId
      "command_id must not be empty" false)
  else if command.requestedBy.isSome then
    .error (.forTarget "requested_by_override" "command_validate" command.targetId
      "client must not provide requested_by" false)
  else if command.reason.isBlank then
    .error (.forTarget "empty_reason" "command_validate" command.targetId
      "command reason must not be empty" false)
  else if command.command.requiresConfirmation && !command.confirmed then
    .error (.forTarget "confirmation_required" "command_validate" command.targetId
      "dangerous command requires confirmed=true" false)
  else
    .ok {
      commandId := command.commandId
      correlationId := command.correlationId
      targetId := command.targetId
      command := command.command
      target := command.target
      reason := command.reason
      requestedBy := identity.principal
      confirmed := command.confirmed
      requestedAt := now }

theorem prepareClientCommand_ok {command : ClientCommand} {identity : RemoteIdentity}
    {now : OffsetDateTime} {prepared : PreparedCommand} :
    prepareClientCommand command identity now = .ok prepared ↔
      (command.commandId.isBlank = false ∧ command.requestedBy = none ∧
        command.reason.isBlank = false ∧
        (command.command.requiresConfirmation = true → command.confirmed = true)) ∧
      prepared = {
        commandId := command.commandId
        correlationId := command.correlationId
        targetId := command.targetId
        command := command.command
        target := command.target
        reason := command.reason
        requestedBy := identity.principal
        confirmed := command.confirmed
        requestedAt := now } := by
  unfold prepareClientCommand
  split
  · simp_all
  split
  · rename_i h
    obtain ⟨requester, hrequester⟩ := Option.isSome_iff_exists.mp h
    simp [hrequester]
  split
  · simp_all
  split
  · simp_all
  · rename_i hid hby hreason hconfirm
    constructor
    · intro h
      cases h
      refine ⟨⟨by simpa using hid, by simpa using hby, by simpa using hreason, ?_⟩, rfl⟩
      intro hrequires
      simpa [hrequires] using hconfirm
    · rintro ⟨-, rfl⟩
      rfl

end SupervisorRelay
