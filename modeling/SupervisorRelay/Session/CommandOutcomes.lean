import SupervisorRelay.Session.BindOutcomes

/-! What a command leaves behind. A failing one leaves no mark outside the audit
log; an answered one tells the dashboard what the registry holds. -/
namespace SupervisorRelay

open TargetProcessRegistry (WellFormed)

/-- A failed command: nothing is written, and no call is made but the forwarding
that fails. -/
structure FailsSilently (session : DashboardSession) (command : ClientCommand)
    (registry : TargetProcessRegistry) (ipc : TargetIpcPort) (now : OffsetDateTime)
    (step : SessionStep ControlCommandResult) (error : RelayError) : Prop where
  sameSession : step.session = session
  sameRegistry : step.registry = registry
  calls : (session.commandChecks command registry now = .error error ∧ step.calls = []) ∨
    ∃ identity registration prepared,
      session.commandChecks command registry now = .ok (identity, registration, prepared) ∧
        ipc.forwardCommand registration prepared now = .error error ∧
          step.calls = [⟨.handleCommand, .forwardCommand prepared, registration, now, registry⟩]

/-- What follows the result of a completed command in the outbox: the state that the
refresh read, or the notice that it read none, as the registry records it. -/
inductive FollowUp (targetId : String) (registry : TargetProcessRegistry) (ipc : TargetIpcPort)
    (now : OffsetDateTime) (step : SessionStep ControlCommandResult) :
    List ServerMessage → Prop where
  | state (registration : TargetProcessRegistration) (state : DashboardState)
      (connection : TargetProcessConnection)
      (hcall : ⟨.refreshTargetStateAfterCommand, .connectState, registration, now, registry⟩ ∈
        step.calls)
      (hread : ipc.connectState registration now = .ok state)
      (hlookup : step.registry.connections.lookup targetId = some connection)
      (hconnected : connection.state = .connected)
      (hgeneration : connection.lastStateGeneration = some state.stateGeneration) :
      FollowUp targetId registry ipc now step [.state targetId state.payload]
  | unavailable (registration : TargetProcessRegistration) (error : RelayError)
      (connection : TargetProcessConnection)
      (hcall : ⟨.refreshTargetStateAfterCommand, .connectState, registration, now, registry⟩ ∈
        step.calls)
      (hread : ipc.connectState registration now = .error error)
      (hlookup : step.registry.connections.lookup targetId = some connection)
      (hunavailable : connection.state = .unavailable)
      (herror : connection.lastError = some error.message) :
      FollowUp targetId registry ipc now step [.connectionState targetId .unavailable]

namespace DashboardSession

variable {session : DashboardSession} {registry : TargetProcessRegistry} {ipc : TargetIpcPort}
variable {now : OffsetDateTime}

/-- The three ways a command goes: refused by a check, failed by its target, or
answered and finished. -/
theorem handleCommand_cases (newV4 : Nat → Uuid) (session : DashboardSession)
    (command : ClientCommand) (registry : TargetProcessRegistry) (ipc : TargetIpcPort)
    (audit : AuditRecorder) (now : OffsetDateTime) :
    let step := (session.handleCommand newV4 command registry ipc audit now).1
    (∃ error, session.commandChecks command registry now = .error error ∧
        step = ⟨.error error, session, registry, []⟩) ∨
      ∃ identity registration prepared,
        session.commandChecks command registry now = .ok (identity, registration, prepared) ∧
          ((∃ error, ipc.forwardCommand registration prepared now = .error error ∧
              step = ⟨.error error, session, registry,
                [forwardingCall registry registration prepared now]⟩) ∨
            ∃ answer, ipc.forwardCommand registration prepared now = .ok answer ∧
              step = { session.finishCommand registry ipc now answer with
                calls := forwardingCall registry registration prepared now ::
                  (session.finishCommand registry ipc now answer).calls }) := by
  intro step
  unfold step handleCommand
  cases hchecks : session.commandChecks command registry now with
  | error error => exact .inl ⟨error, rfl, rfl⟩
  | ok checked =>
      obtain ⟨identity, registration, prepared⟩ := checked
      refine .inr ⟨identity, registration, prepared, rfl, ?_⟩
      dsimp only
      cases hforward : ipc.forwardCommand registration prepared now with
      | error error => exact .inl ⟨error, rfl, rfl⟩
      | ok answer => exact .inr ⟨answer, rfl, rfl⟩

/-- Once the target has answered, nothing that follows can fail the command. -/
theorem handleCommand_ok {newV4 : Nat → Uuid} {command : ClientCommand} {audit : AuditRecorder}
    {answer : ControlCommandResult}
    (h : (session.handleCommand newV4 command registry ipc audit now).1.result = .ok answer) :
    ∃ identity registration prepared,
      session.commandChecks command registry now = .ok (identity, registration, prepared) ∧
        ipc.forwardCommand registration prepared now = .ok answer ∧
        (session.handleCommand newV4 command registry ipc audit now).1 =
          { session.finishCommand registry ipc now answer with
            calls := forwardingCall registry registration prepared now ::
              (session.finishCommand registry ipc now answer).calls } := by
  rcases handleCommand_cases newV4 session command registry ipc audit now with
    ⟨error, -, hstep⟩ | ⟨identity, registration, prepared, hchecks, hrest⟩
  · rw [hstep] at h
    cases h
  rcases hrest with ⟨error, -, hstep⟩ | ⟨returned, hforward, hstep⟩
  · rw [hstep] at h
    cases h
  · rw [hstep] at h
    have hreply := (finishCommand_reply session registry ipc now returned).1
    cases hreply.symm.trans h
    exact ⟨identity, registration, prepared, hchecks, hforward, hstep⟩

theorem handleCommand_error {newV4 : Nat → Uuid} {command : ClientCommand}
    {audit : AuditRecorder} {error : RelayError}
    (h : (session.handleCommand newV4 command registry ipc audit now).1.result = .error error) :
    FailsSilently session command registry ipc now
      (session.handleCommand newV4 command registry ipc audit now).1 error := by
  rcases handleCommand_cases newV4 session command registry ipc audit now with
    ⟨refusal, hchecks, hstep⟩ | ⟨identity, registration, prepared, hchecks, hrest⟩
  · rw [hstep] at h ⊢
    cases h
    exact ⟨rfl, rfl, .inl ⟨hchecks, rfl⟩⟩
  rcases hrest with ⟨failure, hforward, hstep⟩ | ⟨answer, -, hstep⟩
  · rw [hstep] at h ⊢
    cases h
    exact ⟨rfl, rfl, .inr ⟨identity, registration, prepared, hchecks, hforward, rfl⟩⟩
  · rw [hstep] at h
    have hreply := (finishCommand_reply session registry ipc now answer).1
    cases hreply.symm.trans h

/-- The call that refreshes a state. -/
def refreshingCall (registry : TargetProcessRegistry) (registration : TargetProcessRegistration)
    (now : OffsetDateTime) : IpcCall :=
  ⟨.refreshTargetStateAfterCommand, .connectState, registration, now, registry⟩

variable {registration : TargetProcessRegistration} {targetId : String}

theorem refreshTargetStateAfterCommand_unread {error : RelayError}
    (hlookup : registry.registrations.lookup targetId = some registration)
    (hread : ipc.connectState registration now = .error error) :
    session.refreshTargetStateAfterCommand targetId registry ipc now =
      ⟨.error error, session, registry.markUnavailable targetId error.message now,
        [refreshingCall registry registration now]⟩ := by
  unfold refreshTargetStateAfterCommand
  rw [TargetProcessRegistry.registration_ok.mpr hlookup]
  dsimp only
  rw [hread]
  rfl

theorem refreshTargetStateAfterCommand_read {state : DashboardState}
    {connected : TargetProcessRegistry}
    (hlookup : registry.registrations.lookup targetId = some registration)
    (hread : ipc.connectState registration now = .ok state)
    (hmark : registry.markConnected targetId state.stateGeneration now = .ok connected) :
    session.refreshTargetStateAfterCommand targetId registry ipc now =
      ⟨.ok (), session.push (.state targetId state.payload), connected,
        [refreshingCall registry registration now]⟩ := by
  unfold refreshTargetStateAfterCommand
  rw [TargetProcessRegistry.registration_ok.mpr hlookup]
  dsimp only
  rw [hread]
  dsimp only
  rw [hmark]
  rfl

/-- The refresh of a registered and bound target queues one message, and it is the
one that the registry now agrees with. -/
theorem finishCommand_followUp (session : DashboardSession) (ipc : TargetIpcPort)
    (now : OffsetDateTime) {answer : ControlCommandResult}
    (hcompleted : answer.accepted ∧ answer.status = "completed")
    (hlookup : registry.registrations.lookup answer.targetId = some registration)
    (hconnection : answer.targetId ∈ registry.connections)
    (hbound : answer.targetId ∈ session.boundTargets) :
    let step := session.finishCommand registry ipc now answer
    ∃ follow, step.session = { session with
        outbox := session.outbox ++ .commandResult answer.targetId answer :: follow } ∧
      FollowUp answer.targetId registry ipc now step follow := by
  intro step
  have hstep : step = session.finishCommand registry ipc now answer := rfl
  rw [finishCommand, if_pos hcompleted] at hstep
  cases hread : ipc.connectState registration now with
  | error error =>
      rw [refreshTargetStateAfterCommand_unread hlookup hread] at hstep
      obtain ⟨connection, hmarked, hstate, herror⟩ :=
        TargetProcessRegistry.markUnavailable_connection hconnection error.message now
      refine ⟨[.connectionState answer.targetId .unavailable], ?_, ?_⟩
      · rw [hstep]
        simp [push, acceptConnectionState, hbound]
      · rw [hstep]
        exact .unavailable registration error connection List.mem_cons_self hread hmarked hstate
          herror
  | ok state =>
      cases hmark : registry.markConnected answer.targetId state.stateGeneration now with
      | error error =>
          exact absurd hconnection (TargetProcessRegistry.modifyConnection_error hmark)
      | ok connected =>
          rw [refreshTargetStateAfterCommand_read hlookup hread hmark] at hstep
          obtain ⟨connection, hmarked, hstate, hgeneration⟩ :=
            TargetProcessRegistry.markConnected_connection hmark
          refine ⟨[.state answer.targetId state.payload], ?_, ?_⟩
          · rw [hstep]
            simp [push]
          · rw [hstep]
            exact .state registration state connection List.mem_cons_self hread hmarked hstate
              hgeneration

end DashboardSession

/-- Whatever makes a command fail, the session and the registry are as before, the
state is not read, and the command was forwarded only if the target's own error is
the one returned. -/
theorem failed_command_changes_nothing (newV4 : Nat → Uuid) (session : DashboardSession)
    (command : ClientCommand) (registry : TargetProcessRegistry) (ipc : TargetIpcPort)
    (audit : AuditRecorder) (now : OffsetDateTime) (error : RelayError)
    (h : (session.handleCommand newV4 command registry ipc audit now).1.result = .error error) :
    FailsSilently session command registry ipc now
      (session.handleCommand newV4 command registry ipc audit now).1 error :=
  DashboardSession.handleCommand_error h

/-- A target that is gone. -/
def absentClient : UnixNdjsonIpcClient where
  requestJsonBlocking _ _ := .error connectionRefused

theorem failed_command_changes_nothing_absent :
    let step := (sampleBoundSession.handleCommand (fun _ => 0)
      (sampleCommand "payments-worker-a") sampleRegistry absentClient.port .default .unixEpoch).1
    step.result = .error connectionRefused ∧
      FailsSilently sampleBoundSession (sampleCommand "payments-worker-a") sampleRegistry
        absentClient.port .unixEpoch step connectionRefused := by
  intro step
  have herror : step.result = .error connectionRefused := by decide +kernel
  exact ⟨herror, failed_command_changes_nothing _ _ _ _ _ _ _ _ herror⟩

/-- A command answered for its own target queues its result, and behind it nothing or
the one message that the refresh of a completed command justifies. -/
theorem completed_command_reports_registry (newV4 : Nat → Uuid) (policy : RegistrationPolicy)
    (earlier : List RegistryOp) (session : DashboardSession) (command : ClientCommand)
    (ipc : TargetIpcPort) (audit : AuditRecorder) (now : OffsetDateTime)
    (answer : ControlCommandResult)
    (hresult : (session.handleCommand newV4 command
      (TargetProcessRegistry.machine.final (.new policy) earlier) ipc audit now).1.result =
        .ok answer)
    (htarget : answer.targetId = command.targetId) :
    let registry := TargetProcessRegistry.machine.final (.new policy) earlier
    let step := (session.handleCommand newV4 command registry ipc audit now).1
    ∃ follow, step.session.outbox =
        session.outbox ++ .commandResult command.targetId answer :: follow ∧
      if answer.accepted ∧ answer.status = "completed" then
        FollowUp command.targetId registry ipc now step follow
      else follow = [] ∧ step.registry = registry := by
  intro registry step
  have hwf : WellFormed registry := TargetProcessRegistry.wellFormed_final policy earlier
  obtain ⟨identity, registration, prepared, hchecks, hforward, hstep⟩ :=
    DashboardSession.handleCommand_ok hresult
  obtain ⟨-, -, hbound, hlookup, -⟩ := DashboardSession.commandChecks_ok.mp hchecks
  change step = _ at hstep
  rw [hstep, ← htarget]
  rw [← htarget] at hbound hlookup
  split
  · rename_i hcompleted
    have hmem := hwf.mem_connections hlookup
    obtain ⟨follow, hsession, hfollow⟩ :=
      DashboardSession.finishCommand_followUp session ipc now hcompleted hlookup hmem hbound
    refine ⟨follow, by rw [hsession], ?_⟩
    cases hfollow with
    | state registration state connection hcall hread hlookup hconnected hgeneration =>
        exact .state registration state connection (List.mem_cons_of_mem _ hcall) hread hlookup
          hconnected hgeneration
    | unavailable registration error connection hcall hread hlookup hunavailable herror =>
        exact .unavailable registration error connection (List.mem_cons_of_mem _ hcall) hread
          hlookup hunavailable herror
  · rename_i hpartial
    refine ⟨[], ?_, rfl, (DashboardSession.finishCommand_spec session registry ipc now answer).quiet
      hpartial⟩
    rw [DashboardSession.finishCommand, if_neg hpartial]
    rfl

def sampleAnswer : ControlCommandResult where
  commandId := "RestartChild-cmd"
  correlationId := none
  targetId := "payments-worker-a"
  accepted := true
  status := "completed"
  requestedBy := "CN=operator@example.test"
  completedAt := .unixEpoch

theorem completed_command_reports_registry_refreshed :
    let client := sampleClient "payments-worker-a"
    let step := (sampleBoundSession.handleCommand (fun _ => 0)
      (sampleCommand "payments-worker-a") sampleRegistry client.port .default .unixEpoch).1
    ∃ follow, step.session.outbox = [.commandResult "payments-worker-a" sampleAnswer] ++ follow ∧
      FollowUp "payments-worker-a" sampleRegistry client.port .unixEpoch step follow := by
  intro client step
  have hresult : step.result = .ok sampleAnswer := by decide +kernel
  obtain ⟨follow, houtbox, hfollow⟩ := completed_command_reports_registry (fun _ => 0)
    (samplePolicy 120) sampleRegistryOps sampleBoundSession (sampleCommand "payments-worker-a")
    client.port .default .unixEpoch sampleAnswer hresult rfl
  exact ⟨follow, houtbox, hfollow⟩

end SupervisorRelay
