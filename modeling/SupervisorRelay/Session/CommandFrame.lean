import SupervisorRelay.Session.Gate

/-! What a command can reach. After the forwarding, `handle_command` follows the
target id of the answer, and the answer is the target's own JSON. -/
namespace SupervisorRelay

/-- The command acts on the target it names and on no other: it calls the target
registered under that id, and touches and reports no other id. -/
structure CommandFramed (session : DashboardSession) (command : ClientCommand)
    (registry : TargetProcessRegistry) (step : SessionStep ControlCommandResult) : Prop where
  calls : ∀ call ∈ step.calls,
    registry.registrations.lookup command.targetId = some call.registration
  connections : ∀ other, other ≠ command.targetId →
    step.registry.connections.lookup other = registry.connections.lookup other
  outbox : ∃ extra, step.session.outbox = session.outbox ++ extra ∧
    ∀ message ∈ extra, message.targetId = some command.targetId

/-- Whatever answer the command gets, it names the command's own target. -/
def AnswersForTarget (session : DashboardSession) (command : ClientCommand)
    (registry : TargetProcessRegistry) (ipc : TargetIpcPort) (now : OffsetDateTime) : Prop :=
  ∀ identity registration prepared answer,
    session.commandChecks command registry now = .ok (identity, registration, prepared) →
      ipc.forwardCommand registration prepared now = .ok answer →
        answer.targetId = command.targetId

variable {session : DashboardSession} {command : ClientCommand} {registry : TargetProcessRegistry}
variable {ipc : TargetIpcPort} {now : OffsetDateTime}

theorem commandChecks_lookup {identity : RemoteIdentity}
    {registration : TargetProcessRegistration} {prepared : PreparedCommand}
    (h : session.commandChecks command registry now = .ok (identity, registration, prepared)) :
    registry.registrations.lookup command.targetId = some registration := by
  obtain ⟨-, -, -, hlookup, -⟩ := DashboardSession.commandChecks_ok.mp h
  exact hlookup

/-- An answer in the name of the command's target keeps the command framed. -/
theorem finishes_framed {answer : ControlCommandResult}
    {finish : SessionStep ControlCommandResult}
    (h : DashboardSession.Finishes session registry answer finish)
    (htarget : answer.targetId = command.targetId) :
    CommandFramed session command registry finish := by
  have hgrows := h.extends
  obtain ⟨touches, -, -, -, calls⟩ := h
  rw [htarget] at hgrows touches calls
  constructor
  · intro call hmem
    obtain ⟨-, -, hlookup⟩ := calls call hmem
    exact hlookup
  · exact touches.others
  · exact hgrows.outbox

/-- The result message carries the id of the answer. -/
theorem finishes_message {answer : ControlCommandResult}
    {finish : SessionStep ControlCommandResult}
    (h : DashboardSession.Finishes session registry answer finish) :
    ∃ rest, finish.session.outbox =
      session.outbox ++ .commandResult answer.targetId answer :: rest := by
  obtain ⟨rest, hrest, -⟩ := h.grows.outbox
  refine ⟨rest, ?_⟩
  rw [hrest]
  exact List.append_assoc session.outbox [.commandResult answer.targetId answer] rest

theorem commandFramed_iff {step : SessionStep ControlCommandResult}
    (hspec : DashboardSession.Handles session command registry ipc now step) :
    CommandFramed session command registry step ↔
      AnswersForTarget session command registry ipc now := by
  unfold AnswersForTarget
  cases hspec with
  | refused error hchecks =>
      have hframed : CommandFramed session command registry
          ⟨.error error, session, registry, []⟩ :=
        ⟨by simp, fun _ _ => rfl, [], by simp⟩
      simp [hchecks, hframed]
  | failed identity registration prepared error hchecks hforward =>
      have hframed : CommandFramed session command registry ⟨.error error, session, registry,
          [DashboardSession.forwardingCall registry registration prepared now]⟩ := by
        refine ⟨fun call hmem => ?_, fun _ _ => rfl, [], by simp⟩
        rw [List.mem_singleton.mp hmem]
        exact commandChecks_lookup hchecks
      refine ⟨fun _ _ _ _ answer hok hanswer => ?_, fun _ => hframed⟩
      cases hchecks.symm.trans hok
      cases hforward.symm.trans hanswer
  | answered identity registration prepared answer finish hchecks hforward hfinish =>
      constructor
      · intro hframed _ _ _ other hok hanswer
        cases hchecks.symm.trans hok
        cases hforward.symm.trans hanswer
        obtain ⟨extra, hextra, hall⟩ := hframed.outbox
        obtain ⟨rest, hrest⟩ := finishes_message hfinish
        have hmessages := List.append_cancel_left (hextra.symm.trans hrest)
        have hmessage := hall (.commandResult answer.targetId answer) (by simp [hmessages])
        exact Option.some.inj hmessage
      · intro hanswers
        have htarget := hanswers identity registration prepared answer hchecks hforward
        have hframed := finishes_framed hfinish htarget
        refine ⟨fun call hmem => ?_, hframed.connections, hframed.outbox⟩
        rcases List.mem_cons.mp hmem with rfl | hmem
        · exact commandChecks_lookup hchecks
        · exact hframed.calls call hmem

/-- A command acts on its own target alone precisely when the answer it gets, if
any, names that target. -/
theorem command_framed_iff (newV4 : Nat → Uuid) (session : DashboardSession)
    (command : ClientCommand) (registry : TargetProcessRegistry) (ipc : TargetIpcPort)
    (audit : AuditRecorder) (now : OffsetDateTime) :
    CommandFramed session command registry
        (session.handleCommand newV4 command registry ipc audit now).1 ↔
      AnswersForTarget session command registry ipc now := by
  have hspec := DashboardSession.handleCommand_spec newV4 session command registry ipc audit now
  exact commandFramed_iff hspec

/-- Two registered targets, and a session that bound the first. -/
def twoTargetOps : List RegistryOp :=
  [.register .ok (sampleRequest "payments-worker-a" "/run/rust-supervisor/a.sock" 30) "uid:501"
      .unixEpoch,
    .register .ok (sampleRequest "payments-worker-b" "/run/rust-supervisor/b.sock" 30) "uid:502"
      .unixEpoch]

def boundSession : DashboardSession :=
  { DashboardSession.serverHello 0 sampleIdentity .unixEpoch with
    clientStoreId := some "browser-store-a"
    connectionState := .established
    controlState := .established
    boundTargets := {"payments-worker-a"}
    outbox := [] }

/-- The first target answers in the name of the second. -/
def leakingStep : SessionStep ControlCommandResult :=
  (boundSession.handleCommand (fun _ => 0) (sampleCommand "payments-worker-a")
    (TargetProcessRegistry.machine.final (.new (samplePolicy 120)) twoTargetOps)
    (sampleClient "payments-worker-b").port .default .unixEpoch).1

theorem command_leaks :
    ¬CommandFramed boundSession (sampleCommand "payments-worker-a")
      (TargetProcessRegistry.machine.final (.new (samplePolicy 120)) twoTargetOps)
      leakingStep := by
  intro hframed
  have hsame := hframed.connections "payments-worker-b" (by decide)
  have hbefore : ((TargetProcessRegistry.machine.final (.new (samplePolicy 120))
      twoTargetOps).connections.lookup "payments-worker-b").map (·.state) =
        some .registered := by
    decide +kernel
  have hafter : (leakingStep.registry.connections.lookup "payments-worker-b").map (·.state) =
      some .connected := by
    decide +kernel
  rw [hsame, hbefore] at hafter
  cases hafter

end SupervisorRelay
