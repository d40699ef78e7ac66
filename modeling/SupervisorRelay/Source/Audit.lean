import SupervisorRelay.Source.Command

/-! The in-memory audit recorder of `audit.rs`. Random identifiers enter as a
supply indexed by the number of events already recorded. -/
namespace SupervisorRelay

abbrev Uuid := BitVec 128

inductive AuditResult where
  | accepted
  | rejected
  | completed
deriving DecidableEq

structure AuditEvent where
  auditId : Uuid
  identityPrincipal : String
  targetId : String
  commandId : String
  command : String
  target : Option String
  reason : String
  result : AuditResult
  detail : String
  occurredAt : OffsetDateTime
deriving DecidableEq

structure AuditRecorder where
  events : List AuditEvent

namespace AuditRecorder

def default : AuditRecorder := ⟨[]⟩

def record (newV4 : Nat → Uuid) (recorder : AuditRecorder) (identity : RemoteIdentity)
    (command : PreparedCommand) (result : AuditResult) (detail : String)
    (now : OffsetDateTime) : AuditRecorder where
  events := recorder.events ++ [{
    auditId := newV4 recorder.events.length
    identityPrincipal := identity.principal
    targetId := command.targetId
    commandId := command.commandId
    command := command.command.debugName
    target := command.target.childPath
    reason := command.reason
    result := result
    detail := detail
    occurredAt := now }]

def recordAccepted (newV4 : Nat → Uuid) (recorder : AuditRecorder) (identity : RemoteIdentity)
    (command : PreparedCommand) (now : OffsetDateTime) : AuditRecorder :=
  recorder.record newV4 identity command .accepted "accepted" now

def recordRejected (newV4 : Nat → Uuid) (recorder : AuditRecorder) (identity : RemoteIdentity)
    (command : PreparedCommand) (detail : String) (now : OffsetDateTime) : AuditRecorder :=
  recorder.record newV4 identity command .rejected detail now

def recordCompleted (newV4 : Nat → Uuid) (recorder : AuditRecorder) (identity : RemoteIdentity)
    (command : PreparedCommand) (detail : String) (now : OffsetDateTime) : AuditRecorder :=
  recorder.record newV4 identity command .completed detail now

end AuditRecorder
end SupervisorRelay
