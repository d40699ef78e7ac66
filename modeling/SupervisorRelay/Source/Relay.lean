import SupervisorRelay.Source.Session

/-! The fan-out boundary of `relay.rs`; its `reconnect_timeout` is in the module of
the session. -/
namespace SupervisorRelay.RelayHub

def fanOutEvent (session : DashboardSession) (targetId : String) (sequence : UInt64)
    (eventType severity : String) (occurredAt : OffsetDateTime) :
    RelayResult (List ServerMessage) × DashboardSession :=
  session.acceptEvent ⟨targetId, sequence, eventType, severity, occurredAt⟩

def fanOutLog (session : DashboardSession) (targetId : String) (sequence : Option UInt64)
    (severity message : String) (occurredAt : OffsetDateTime) :
    RelayResult (List ServerMessage) × DashboardSession :=
  session.acceptLog ⟨targetId, sequence, severity, message, occurredAt⟩

def fanOutStateDelta (session : DashboardSession) (targetId : String) (delta : Json) :
    RelayResult (List ServerMessage) × DashboardSession :=
  session.acceptStateDelta targetId delta

def fanOutDroppedCount (session : DashboardSession) (targetId : String)
    (droppedEventCount : UInt64) : RelayResult (List ServerMessage) × DashboardSession :=
  session.acceptDroppedCount targetId droppedEventCount

end SupervisorRelay.RelayHub
