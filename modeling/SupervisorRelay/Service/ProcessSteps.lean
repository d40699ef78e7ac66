import SupervisorRelay.Service.Tasks

/-! What one turn of the process can do, with all that it writes and all the events it
leaves. Invariants of the process go by these cases and unfold no task. -/
namespace SupervisorRelay

namespace DashboardTask

/-- The same task with another session, perhaps drained, another audit and more calls.
It has sent what was queued, and errors. -/
structure Becomes (task next : DashboardTask) (left : DashboardSession)
    (audit : AuditRecorder) (calls : List IpcCall) : Prop where
  connection : next.connection = task.connection
  identity : next.identity = task.identity
  session : next.run.session = left ∨ next.run.session = left.drainOutbox.2
  audit : next.run.audit = audit
  calls : next.run.calls = task.run.calls ++ calls
  messages : ∀ message ∈ next.run.sent ++ next.run.session.outbox,
    message ∈ task.run.sent ++ left.outbox ∨ ∃ error, message = .error error

/-- A turn that sends what is queued, and perhaps errors before it. -/
theorem becomes_sent {task next : DashboardTask} {session : DashboardSession}
    {audit : AuditRecorder} {calls : List IpcCall} (errors : List RelayError)
    (hconnection : next.connection = task.connection) (hidentity : next.identity = task.identity)
    (hsession : next.run.session = session.drainOutbox.2) (haudit : next.run.audit = audit)
    (hcalls : next.run.calls = task.run.calls ++ calls)
    (hsent : next.run.sent = task.run.sent ++ errors.map .error ++ session.outbox) :
    Becomes task next session audit calls where
  connection := hconnection
  identity := hidentity
  session := .inr hsession
  audit := haudit
  calls := hcalls
  messages message hmem := by
    rw [hsent, hsession, DashboardSession.drainOutbox, List.append_nil, List.mem_append,
      List.mem_append] at hmem
    rcases hmem with (hsent | herror) | hqueued
    · exact .inl (List.mem_append_left _ hsent)
    · obtain ⟨error, -, rfl⟩ := List.mem_map.mp herror
      exact .inr ⟨error, rfl⟩
    · exact .inl (List.mem_append_right _ hqueued)

/-- The turns of a dashboard. Only a binding and a command reach the registry. -/
inductive Acts (registry : TargetProcessRegistry) (task : DashboardTask) (turn : Turn) :
    TargetProcessRegistry × DashboardTask × List TaskEvent → Prop where
  | publishes (next : DashboardTask)
      (hnext : Becomes task next
        (task.run.session.publishTargetList (registry.activeTargets turn.now)) task.run.audit []) :
      Acts registry task turn (registry, next,
        [.locked turn, .published (registry.activeTargets turn.now) turn.now])
  | binds (targetId : String) (step : SessionStep Unit)
      (hstep : task.run.session.bindTarget targetId registry turn.ipc.port turn.now = step)
      (next : DashboardTask)
      (hnext : Becomes task next step.session task.run.audit step.calls) :
      Acts registry task turn
        (step.registry, next, .locked turn :: step.calls.map .called)
  | handles (command : ClientCommand) (handled : SessionStep ControlCommandResult × AuditRecorder)
      (hhandled : task.run.session.handleCommand task.connection.newV4 command registry
        turn.ipc.port task.run.audit turn.now = handled)
      (next : DashboardTask)
      (hnext : Becomes task next handled.1.session handled.2 handled.1.calls) :
      Acts registry task turn
        (handled.1.registry, next, .locked turn :: handled.1.calls.map .called)
  | rests (next : DashboardTask) (locks : List TaskEvent)
      (hnext : Becomes task next task.run.session task.run.audit [])
      (hlocks : locks = [] ∨ locks = [.locked turn]) :
      Acts registry task turn (registry, next, locks)

theorem step_locked {registry : TargetProcessRegistry} {task : DashboardTask}
    {now : ClockReading} {ipc : UnixNdjsonIpcClient} {next : DashboardTask}
    (hnext : task.advance ⟨fun _ => registry, now, ipc⟩ = next)
    (hturn : next.run.turn = task.run.turn + 1) :
    task.step registry now ipc = (next.run.registry, next,
      .locked ⟨fun _ => registry, now, ipc⟩ :: task.publishes registry now ++
        task.calledSince next) := by
  have hlock : task.tookLock next = true := by
    simp [tookLock, hturn]
  unfold step
  dsimp only
  rw [hnext, if_pos hlock]

theorem step_unlocked {registry : TargetProcessRegistry} {task : DashboardTask}
    {now : ClockReading} {ipc : UnixNdjsonIpcClient} {next : DashboardTask}
    (hnext : task.advance ⟨fun _ => registry, now, ipc⟩ = next)
    (hturn : next.run.turn = task.run.turn) :
    task.step registry now ipc = (registry, next, []) := by
  have hlock : ¬task.tookLock next = true := by
    simp [tookLock, hturn]
  unfold step
  dsimp only
  rw [hnext, if_neg hlock]

theorem handleLocked_becomes (task : DashboardTask) (turn : Turn) (command : ClientCommand)
    (unread : List (Except String InboundMessage)) :
    let handled := task.run.session.handleCommand task.connection.newV4 command
      (turn.others task.run.registry) turn.ipc.port task.run.audit turn.now
    let run := task.run.handleLocked (task.environment turn) command
    run.registry = handled.1.registry ∧
      Becomes task { task with run := run, unread := unread } handled.1.session handled.2
        handled.1.calls := by
  intro handled run
  change (task.run.handleLocked (task.environment turn) command).registry = _ ∧
    Becomes task { task with
      run := task.run.handleLocked (task.environment turn) command, unread := unread } _ _ _
  unfold DashboardRun.handleLocked
  dsimp only
  split
  · rename_i error herror
    exact ⟨rfl, becomes_sent [error] rfl rfl rfl rfl rfl rfl⟩
  · refine ⟨rfl, becomes_sent [] rfl rfl rfl rfl rfl ?_⟩
    rw [List.map_nil, List.append_nil]
    rfl

theorem becomes_rests {task next : DashboardTask} (errors : List RelayError)
    (hconnection : next.connection = task.connection) (hidentity : next.identity = task.identity)
    (hsession : next.run.session = task.run.session) (haudit : next.run.audit = task.run.audit)
    (hcalls : next.run.calls = task.run.calls)
    (hsent : next.run.sent = task.run.sent ++ errors.map .error) :
    Becomes task next task.run.session task.run.audit [] where
  connection := hconnection
  identity := hidentity
  session := .inl hsession
  audit := haudit
  calls := hcalls.trans (List.append_nil _).symm
  messages message hmem := by
    rw [hsent, hsession, List.mem_append, List.mem_append] at hmem
    rcases hmem with (hsent | herror) | hqueued
    · exact .inl (List.mem_append_left _ hsent)
    · obtain ⟨error, -, rfl⟩ := List.mem_map.mp herror
      exact .inr ⟨error, rfl⟩
    · exact .inl (List.mem_append_right _ hqueued)

theorem step_acts (registry : TargetProcessRegistry) (task : DashboardTask)
    (now : ClockReading) (ipc : UnixNdjsonIpcClient) :
    Acts registry task ⟨fun _ => registry, now, ipc⟩ (task.step registry now ipc) := by
  have hnil : task.run.sent = task.run.sent ++ ([] : List RelayError).map .error :=
    (List.append_nil _).symm
  have hmoves := advance_moves task ⟨fun _ => registry, now, ipc⟩
  generalize hnext : task.advance ⟨fun _ => registry, now, ipc⟩ = next at hmoves
  cases hmoves with
  | publishes hstage =>
      rw [step_locked hnext rfl, publishes, hstage, calledSince]
      dsimp only [DashboardRun.publishActiveTargets, DashboardRun.lock]
      rw [List.drop_length]
      exact .publishes _ ⟨rfl, rfl, .inl rfl, rfl, (List.append_nil _).symm, fun _ => .inl⟩
  | reads hstage =>
      rw [step_locked hnext rfl, publishes, hstage, calledSince]
      dsimp only [DashboardRun.lock]
      rw [List.drop_length]
      exact .rests _ _ (becomes_rests [] rfl rfl rfl rfl rfl hnil) (.inr rfl)
  | binds targetId rest hstage =>
      rw [step_locked hnext rfl, publishes, hstage, calledSince]
      dsimp only [DashboardRun.bindLocked, DashboardRun.lock]
      rw [List.drop_left]
      exact .binds targetId _ rfl _ ⟨rfl, rfl, .inl rfl, rfl, rfl, fun _ => .inl⟩
  | handles raw command rest hstage hdecoded =>
      obtain ⟨hregistry, hbecomes⟩ := handleLocked_becomes task
        ⟨fun _ => registry, now, ipc⟩ command rest
      have hpublishes : task.publishes registry now = [] := by
        rw [publishes, hstage]
      rw [step_locked hnext (DashboardRun.handleLocked_turn _ _ _), hpublishes,
        calledSince, hbecomes.calls, List.drop_left]
      dsimp only
      rw [hregistry]
      exact .handles command _ rfl _ hbecomes
  | sends hstage =>
      rw [step_unlocked hnext rfl]
      refine .rests _ [] (becomes_sent [] rfl rfl rfl rfl (List.append_nil _).symm ?_) (.inl rfl)
      rw [List.map_nil, List.append_nil]
      rfl
  | answers errors rest hstage =>
      rw [step_unlocked hnext rfl]
      exact .rests _ [] (becomes_rests errors rfl rfl rfl rfl rfl rfl) (.inl rfl)
  | stops result rest hstage =>
      rw [step_unlocked hnext rfl]
      exact .rests _ [] (becomes_rests [] rfl rfl rfl rfl rfl hnil) (.inl rfl)
  | rests result hstage =>
      rw [step_unlocked hnext rfl]
      exact .rests _ [] (becomes_rests [] rfl rfl rfl rfl rfl hnil) (.inl rfl)

end DashboardTask

/-- A round of the registration loop writes one record and says so, or writes nothing. -/
inductive Rounds (host : RelayHost) (registry : TargetProcessRegistry)
    (connection : RegistrationConnection) :
    TargetProcessRegistry × Task × List TaskEvent → Prop where
  | keeps (status : LoopStatus) (acks : List Json) :
      Rounds host registry connection (registry, .registrationLoop status acks, [])
  | registers (request : RegistrationRequest) (registration : TargetProcessRegistration)
      (changed : TargetProcessRegistry) (status : LoopStatus) (acks : List Json)
      (hcall : registry.register connection.normalizeIpcPathKey request
        connection.ownerIdentity connection.now = (.returned (.ok registration), changed)) :
      Rounds host registry connection
        (changed, .registrationLoop status acks, [.registered registration])

theorem registrationRound_rounds (host : RelayHost) (registry : TargetProcessRegistry)
    (acks : List Json) (connection : RegistrationConnection) :
    Rounds host registry connection (registrationRound host registry acks connection) := by
  unfold registrationRound
  cases haccepted : acceptRegistration host.fromStr connection with
  | error error => exact .keeps _ _
  | ok accepted =>
      have howner : accepted.ownerIdentity = connection.ownerIdentity := by
        unfold acceptRegistration at haccepted
        split at haccepted
        · cases haccepted
        · obtain ⟨request, -, hreturned⟩ := RelayResult.bind_eq_ok.mp haccepted
          cases hreturned
          rfl
      dsimp only
      rw [howner]
      have hspec := TargetProcessRegistry.register_spec registry connection.normalizeIpcPathKey
        accepted.request connection.ownerIdentity connection.now
      generalize hcall : registry.register connection.normalizeIpcPathKey accepted.request
        connection.ownerIdentity connection.now = call at hspec
      cases hspec with
      | rejected error hchecks => exact .keeps _ _
      | panicked ipcPathKey hchecks hexpiry => exact .keeps _ _
      | inserted ipcPathKey expiresAt hchecks hexpiry hnew => exact .registers _ _ _ _ _ hcall
      | updated ipcPathKey expiresAt existing hchecks hexpiry hexisting =>
          exact .registers _ _ _ _ _ hcall

theorem DashboardTask.spawned_session (connection : WssConnection) (identity : RemoteIdentity)
    (registry : TargetProcessRegistry) :
    let task := DashboardTask.spawned connection identity registry
    task.run.session.remoteIdentity = some identity ∧ task.run.session.boundTargets = ∅ ∧
      ∀ targets, .targetList targets ∉ task.run.sent ++ task.run.session.outbox := by
  have hopened (targets : List VisibleTarget) :
      .targetList targets ∉ (DashboardSession.serverHello connection.sessionId identity
        connection.startedAt).outbox := by
    simp [DashboardSession.serverHello]
  unfold spawned DashboardRun.sendOutbox DashboardRun.sendMessages
  dsimp only [DashboardSession.drainOutbox]
  split
  · exact ⟨rfl, rfl, by simpa using hopened⟩
  · exact ⟨rfl, rfl, by simpa using hopened⟩
  · split
    · exact ⟨rfl, rfl, by simpa using hopened⟩
    · split
      · exact ⟨rfl, rfl, by simpa using hopened⟩
      · rename_i session haccept
        obtain ⟨-, rfl⟩ := DashboardSession.acceptClientHello_ok.mp haccept
        exact ⟨rfl, rfl, by simpa using hopened⟩
    · exact ⟨rfl, rfl, by simpa using hopened⟩

end SupervisorRelay
