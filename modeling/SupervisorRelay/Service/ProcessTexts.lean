import SupervisorRelay.Service.ProcessSteps
import SupervisorRelay.Session.IpcExchange
import SupervisorRelay.Session.ServerText

/-! The texts that the dashboards are sent. Under every schedule, and whatever the targets
answer, each is read as the message it was written for, and each state in them is the state
that a target's answer had. -/
namespace SupervisorRelay

open Json (FloatFree Fits depthLimit)

variable {json : SerdeJson}

/-- What a dashboard session has to send: the identity with no conditions, states that were
read, and messages without a payload. -/
def Carried (json : SerdeJson) : ServerMessage → Prop
  | .serverHello _ _ _ conditions _ => conditions = .object []
  | .state _ payload => StateRead json payload
  | .stateDelta _ _ => False
  | _ => True

namespace DashboardSession

/-- All that is queued is of this kind. -/
def Queues (json : SerdeJson) (session : DashboardSession) : Prop :=
  ∀ message ∈ session.outbox, Carried json message

theorem Queues.push {session : DashboardSession} (h : Queues json session)
    {message : ServerMessage} (hmessage : Carried json message) :
    Queues json (session.push message) := by
  intro other hmem
  rcases List.mem_append.mp hmem with hmem | hmem
  · exact h other hmem
  · rw [List.mem_singleton.mp hmem]
    exact hmessage

variable {session : DashboardSession} {client : UnixNdjsonIpcClient}

theorem Queues.bindTarget (h : Queues json session) (hclient : client.ReadsSockets json)
    (targetId : String) (registry : TargetProcessRegistry) (now : OffsetDateTime) :
    Queues json (session.bindTarget targetId registry client.port now).session := by
  have houtcome := bindTarget_outcome session targetId registry client.port now
  generalize session.bindTarget targetId registry client.port now = step at houtcome ⊢
  cases houtcome with
  | bound registration binding connected state hchecks hnew hbegin hconnect hmark hsubscribe =>
      exact h.push (connectState_read_off hclient hconnect)
  | _ => exact h

theorem Queues.refreshTargetStateAfterCommand (h : Queues json session)
    (hclient : client.ReadsSockets json) (targetId : String) (registry : TargetProcessRegistry)
    (now : OffsetDateTime) :
    Queues json
      (session.refreshTargetStateAfterCommand targetId registry client.port now).session := by
  unfold DashboardSession.refreshTargetStateAfterCommand
  split
  · exact h
  · split
    · exact h
    · rename_i state hconnect
      dsimp only
      split
      · exact h
      · exact h.push (connectState_read_off hclient hconnect)

theorem Queues.finishCommand (h : Queues json session) (hclient : client.ReadsSockets json)
    (registry : TargetProcessRegistry) (now : OffsetDateTime) (answer : ControlCommandResult) :
    Queues json (session.finishCommand registry client.port now answer).session := by
  have hanswered : Queues json (session.push (.commandResult answer.targetId answer)) :=
    h.push trivial
  have hrefreshed := hanswered.refreshTargetStateAfterCommand hclient answer.targetId registry now
  unfold DashboardSession.finishCommand
  dsimp only
  split
  · split
    · exact hrefreshed
    · unfold acceptConnectionState
      split
      · exact hrefreshed
      · exact hrefreshed.push trivial
  · exact hanswered

theorem Queues.handleCommand (h : Queues json session) (hclient : client.ReadsSockets json)
    (newV4 : Nat → Uuid) (command : ClientCommand) (registry : TargetProcessRegistry)
    (audit : AuditRecorder) (now : OffsetDateTime) :
    Queues json (session.handleCommand newV4 command registry client.port audit now).1.session := by
  unfold DashboardSession.handleCommand
  split
  · exact h
  · dsimp only
    split
    · exact h
    · exact h.finishCommand hclient registry now _

end DashboardSession

namespace DashboardTask

/-- All that was sent and all that is queued. -/
def Sends (json : SerdeJson) (task : DashboardTask) : Prop :=
  ∀ message ∈ task.run.sent ++ task.run.session.outbox, Carried json message

variable {task next : DashboardTask}

theorem Sends.queues (h : Sends json task) : task.run.session.Queues json :=
  fun message hmem => h message (List.mem_append_right _ hmem)

theorem Sends.of_becomes (h : Sends json task) {left : DashboardSession} {audit : AuditRecorder}
    {calls : List IpcCall} (hnext : Becomes task next left audit calls)
    (hleft : left.Queues json) : Sends json next := by
  intro message hmem
  rcases hnext.messages message hmem with hmem | ⟨error, rfl⟩
  · rcases List.mem_append.mp hmem with hmem | hmem
    · exact h message (List.mem_append_left _ hmem)
    · exact hleft message hmem
  · trivial

theorem Sends.step (h : Sends json task) {ipc : UnixNdjsonIpcClient} (hipc : ipc.ReadsSockets json)
    (registry : TargetProcessRegistry) (now : ClockReading) :
    Sends json (task.step registry now ipc).2.1 := by
  have hacts := step_acts registry task now ipc
  generalize task.step registry now ipc = result at hacts ⊢
  cases hacts with
  | publishes next hnext => exact h.of_becomes hnext (h.queues.push trivial)
  | binds targetId step hstep next hnext =>
      refine h.of_becomes hnext ?_
      rw [← hstep]
      exact h.queues.bindTarget hipc targetId registry now
  | handles command handled hhandled next hnext =>
      refine h.of_becomes hnext ?_
      rw [← hhandled]
      exact h.queues.handleCommand hipc _ command registry _ now
  | rests next locks hnext hlocks => exact h.of_becomes hnext h.queues

theorem sends_spawned (connection : WssConnection) (identity : RemoteIdentity)
    (registry : TargetProcessRegistry) :
    Sends json (.spawned connection identity registry) := by
  have hopened : Carried json (.serverHello connection.sessionId identity.clientIdentity .remote
      (.object []) 0) := rfl
  unfold spawned Sends DashboardRun.sendOutbox DashboardRun.sendMessages
  dsimp only [DashboardSession.drainOutbox, DashboardSession.serverHello]
  split
  · simpa using hopened
  · simpa using hopened
  · split
    · simpa using hopened
    · split
      · simpa using hopened
      · rename_i session haccept
        obtain ⟨-, rfl⟩ := DashboardSession.acceptClientHello_ok.mp haccept
        simpa using hopened
    · simpa using ⟨hopened, trivial⟩

end DashboardTask

def Task.Sends (json : SerdeJson) : Task → Prop
  | .dashboard task => task.Sends json
  | _ => True

/-- A dashboard's turn finds targets behind sockets. -/
def TaskTurn.ReadsSockets (json : SerdeJson) : TaskTurn → Prop
  | .dashboard _ ipc => ipc.ReadsSockets json
  | _ => True

theorem Task.Sends.step {task : Task} (h : task.Sends json) {turn : TaskTurn}
    (hturn : turn.ReadsSockets json) (host : RelayHost) (registry : TargetProcessRegistry) :
    (task.step host registry turn).2.1.Sends json := by
  unfold Task.step
  split
  · rename_i acks connection
    have hrounds := registrationRound_rounds host registry acks connection
    generalize registrationRound host registry acks connection = round at hrounds ⊢
    cases hrounds with
    | keeps => trivial
    | registers => trivial
  · rename_i connection
    split
    · trivial
    · trivial
    · exact DashboardTask.sends_spawned connection _ registry
  · exact DashboardTask.Sends.step h hturn registry _
  · exact h

/-- Under every schedule, all that a task has sent or queued is of this kind. -/
theorem RelayProcess.sends (host : RelayHost) (policy : RegistrationPolicy)
    {schedule : List (TaskId × TaskTurn)}
    (hsockets : ∀ turn ∈ schedule, turn.2.ReadsSockets json) :
    ∀ part, (((machine host).final (.start policy) schedule).parts part).Sends json := by
  have hturns : (machine host).Along (fun _ turn => True ∧ turn.2.ReadsSockets json)
      (.start policy) schedule :=
    Machine.along_and (Machine.along_of_forall (fun _ _ => trivial) _ _) hsockets
  refine Machine.guarded_invariant (fun process : RelayProcess => ∀ part,
    (process.parts part).Sends json) (fun process turn hturn hprocess part => ?_) hturns ?_
  · by_cases hpart : part = turn.1
    · subst hpart
      rw [machine, Turns.machine_own]
      exact (hprocess _).step hturn.2 host _
    · rw [machine, Turns.machine_other _ _ _ hpart]
      exact hprocess part
  · intro part
    cases part <;> trivial

end SupervisorRelay
