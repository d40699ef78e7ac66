import SupervisorRelay.Library.Machine
import SupervisorRelay.Session.Streams

/-! When a session may call a target. Every run of one session, with any calls of
other parties on the shared registry in between, leaves a trace; each call in it
has its authorization in the events before it and in the registry at that call. -/
namespace SupervisorRelay

open TargetProcessRegistry (WellFormed)

/-- One step of a run: a method of the session, or a call of anyone on the registry. -/
inductive SessionOp where
  | acceptClientHello (hello : ClientHello) (now : OffsetDateTime)
  | publishTargetList (targets : List VisibleTarget)
  | bindTarget (targetId : String) (ipc : TargetIpcPort) (now : OffsetDateTime)
  | handleCommand (command : ClientCommand) (ipc : TargetIpcPort) (now : OffsetDateTime)
  | acceptEvent (event : EventRecord)
  | acceptLog (log : LogRecord)
  | acceptStateDelta (targetId : String) (delta : Json)
  | acceptDroppedCount (targetId : String) (droppedEventCount : UInt64)
  | acceptConnectionState (targetId : String) (state : ConnectionState)
  | drainOutbox
  | registry (op : RegistryOp)

inductive SessionEvent where
  | helloAccepted
  | targetBound (targetId : String)
  | ipcCall (session : DashboardSession) (call : IpcCall)

structure SessionWorld where
  session : DashboardSession
  registry : TargetProcessRegistry
  audit : AuditRecorder

namespace SessionWorld

def afterStep (world : SessionWorld) (step : SessionStep α) : SessionWorld :=
  { world with session := step.session, registry := step.registry }

def fanOut (world : SessionWorld) (answer : RelayResult (List ServerMessage) × DashboardSession) :
    SessionWorld :=
  { world with session := answer.2 }

def apply (newV4 : Nat → Uuid) (world : SessionWorld) :
    SessionOp → SessionWorld × List SessionEvent
  | .acceptClientHello hello now =>
      match world.session.acceptClientHello hello now with
      | .ok session => ({ world with session := session }, [.helloAccepted])
      | .error _ => (world, [])
  | .publishTargetList targets =>
      ({ world with session := world.session.publishTargetList targets }, [])
  | .bindTarget targetId ipc now =>
      let step := world.session.bindTarget targetId world.registry ipc now
      let bound : List SessionEvent :=
        match step.result with
        | .ok () => [.targetBound targetId]
        | .error _ => []
      (world.afterStep step, step.calls.map (.ipcCall world.session) ++ bound)
  | .handleCommand command ipc now =>
      let handled := world.session.handleCommand newV4 command world.registry ipc world.audit now
      ({ world.afterStep handled.1 with audit := handled.2 },
        handled.1.calls.map (.ipcCall world.session))
  | .acceptEvent event => (world.fanOut (world.session.acceptEvent event), [])
  | .acceptLog log => (world.fanOut (world.session.acceptLog log), [])
  | .acceptStateDelta targetId delta =>
      (world.fanOut (world.session.acceptStateDelta targetId delta), [])
  | .acceptDroppedCount targetId droppedEventCount =>
      (world.fanOut (world.session.acceptDroppedCount targetId droppedEventCount), [])
  | .acceptConnectionState targetId state =>
      (world.fanOut (world.session.acceptConnectionState targetId state), [])
  | .drainOutbox => ({ world with session := world.session.drainOutbox.2 }, [])
  | .registry op => ({ world with registry := (world.registry.apply op).1 }, [])

def machine (newV4 : Nat → Uuid) : Machine SessionWorld SessionOp SessionEvent :=
  ⟨apply newV4⟩

end SessionWorld

/-- The ways a session starts, with the events that belong to its start:
`establish` accepts a `client_hello` of its own. -/
inductive Started : DashboardSession → List SessionEvent → Prop where
  | unauthenticated (sessionId : Uuid) (now : OffsetDateTime) :
      Started (.unauthenticated sessionId now) []
  | serverHello (sessionId : Uuid) (identity : RemoteIdentity) (now : OffsetDateTime) :
      Started (.serverHello sessionId identity now) []
  | established (sessionId : Uuid) (identity : RemoteIdentity) (registry : TargetProcessRegistry)
      (transport : TransportSecurity) (now : OffsetDateTime) (session : DashboardSession)
      (h : DashboardSession.establish sessionId identity registry transport now = .ok session) :
      Started session [.helloAccepted]

/-- An authenticated identity, an accepted `client_hello`, and a target that is
registered with a live lease at the call. -/
structure Authorized (past : List SessionEvent) (session : DashboardSession) (call : IpcCall) :
    Prop where
  identity : session.remoteIdentity.isSome = true
  hello : .helloAccepted ∈ past
  registered : call.registry.registrations.lookup call.registration.targetId =
    some call.registration
  active : call.registration.registrationState = .active
  lease : call.now < call.registration.expiresAt

/-- A valid command for a target that this session bound, which declares it. -/
structure Forwardable (past : List SessionEvent) (session : DashboardSession) (call : IpcCall)
    (command : PreparedCommand) : Prop where
  target : command.targetId = call.registration.targetId
  bound : .targetBound call.registration.targetId ∈ past
  supported : ∃ supported ∈ call.registration.supportedCommands,
    supported.name = command.command.wireName
  commandId : command.commandId.isBlank = false
  reason : command.reason.isBlank = false
  confirmed : command.command = .shutdownTree ∨ command.command = .removeChild ∨
    command.command = .addChild → command.confirmed = true
  requestedBy : ∃ identity, session.remoteIdentity = some identity ∧
    command.requestedBy = identity.principal

/-- What each method of the session owes for a call. Calls not listed never happen. -/
def CallAllowed (past : List SessionEvent) : SessionEvent → Prop
  | .ipcCall session call =>
      match call.caller, call.method with
      | .bindTarget, .connectState => Authorized past session call
      | .bindTarget, .subscribeEventLog => Authorized past session call
      | .handleCommand, .forwardCommand command =>
          Authorized past session call ∧ Forwardable past session call command
      | .refreshTargetStateAfterCommand, .connectState => True
      | _, _ => False
  | _ => True

theorem Authorized.mono {past : List SessionEvent} {session : DashboardSession} {call : IpcCall}
    (h : Authorized past session call) (more : List SessionEvent) :
    Authorized (past ++ more) session call :=
  { h with hello := List.mem_append_left more h.hello }

theorem Forwardable.mono {past : List SessionEvent} {session : DashboardSession} {call : IpcCall}
    {command : PreparedCommand} (h : Forwardable past session call command)
    (more : List SessionEvent) : Forwardable (past ++ more) session call command :=
  { h with bound := List.mem_append_left more h.bound }

theorem CallAllowed.mono (past more : List SessionEvent) (event : SessionEvent)
    (h : CallAllowed past event) : CallAllowed (past ++ more) event := by
  unfold CallAllowed at h ⊢
  split
  · rename_i session call
    dsimp only at h
    split at h
    · exact h.mono more
    · exact h.mono more
    · exact ⟨h.1.mono more, h.2.mono more⟩
    · trivial
    · exact h
  · trivial

/-- What the trace so far says about the session. -/
structure Gated (world : SessionWorld) (trace : List SessionEvent) : Prop where
  wellFormed : WellFormed world.registry
  hello : world.session.connectionState = .established → .helloAccepted ∈ trace
  bound : ∀ targetId ∈ world.session.boundTargets, .targetBound targetId ∈ trace
  calls : GuardedTrace CallAllowed trace

variable {world : SessionWorld} {trace : List SessionEvent}

/-- A session past `ensure_control_established` has an identity and a hello behind it. -/
theorem Gated.authorized (h : Gated world trace) {call : IpcCall} {targetId : String}
    {now : OffsetDateTime} (hcontrol : world.session.ensureControlEstablished = .ok ())
    (hlookup : world.registry.registrations.lookup targetId = some call.registration)
    (hactive : TargetProcessRegistry.isActive now call.registration = true)
    (htime : call.now = now)
    (hregistrations : call.registry.registrations = world.registry.registrations) :
    Authorized trace world.session call := by
  obtain ⟨hestablished, -, hidentity⟩ :=
    DashboardSession.ensureControlEstablished_ok.mp hcontrol
  obtain ⟨hstate, hlease⟩ := TargetProcessRegistry.isActive_iff.mp hactive
  have hid := h.wellFormed.registrationId targetId call.registration hlookup
  constructor
  · exact hidentity
  · exact h.hello hestablished
  · rw [hregistrations, hid]
    exact hlookup
  · exact hstate
  · rw [htime]
    exact hlease

theorem Gated.bindCall (h : Gated world trace) {targetId : String} {now : OffsetDateTime}
    {call : IpcCall}
    (hcall : DashboardSession.BindCall world.session targetId world.registry now call) :
    CallAllowed trace (.ipcCall world.session call) := by
  obtain ⟨hcontrol, hlookup, hactive⟩ := DashboardSession.bindChecks_ok.mp hcall.checks
  have hauthorized := h.authorized hcontrol hlookup hactive hcall.time hcall.registrations
  dsimp only [CallAllowed]
  rw [hcall.caller]
  rcases hcall.method with hmethod | hmethod
  · rw [hmethod]
    exact hauthorized
  · rw [hmethod]
    exact hauthorized

theorem Gated.forwardingCall (h : Gated world trace) {command : ClientCommand}
    {now : OffsetDateTime} {identity : RemoteIdentity}
    {registration : TargetProcessRegistration} {prepared : PreparedCommand}
    (hchecks : world.session.commandChecks command world.registry now =
      .ok (identity, registration, prepared)) :
    CallAllowed trace (.ipcCall world.session
      (DashboardSession.forwardingCall world.registry registration prepared now)) := by
  obtain ⟨hcontrol, hidentity, hbound, hlookup, hactive, hsupported, hprepared⟩ :=
    DashboardSession.commandChecks_ok.mp hchecks
  obtain ⟨⟨hcommandId, -, hreason, hconfirmed⟩, rfl⟩ := prepareClientCommand_ok.mp hprepared
  have hid := h.wellFormed.registrationId command.targetId registration hlookup
  refine ⟨h.authorized hcontrol hlookup hactive rfl rfl, ?_⟩
  constructor
  · exact hid.symm
  · exact hid.symm ▸ h.bound command.targetId hbound
  · exact hsupported
  · exact hcommandId
  · exact hreason
  · intro hdangerous
    apply hconfirmed
    dsimp only at hdangerous
    rcases hdangerous with hname | hname | hname <;> rw [hname] <;> rfl
  · exact ⟨identity, hidentity, rfl⟩

/-- A change of the session that touches neither the handshake nor the bindings. -/
theorem Gated.of_session (h : Gated world trace) {session : DashboardSession}
    (hstate : session.connectionState = world.session.connectionState)
    (hbound : session.boundTargets = world.session.boundTargets) :
    Gated { world with session := session } (trace ++ []) := by
  rw [List.append_nil]
  exact ⟨h.wellFormed, fun hestablished => h.hello (hstate ▸ hestablished),
    fun targetId hmem => h.bound targetId (hbound ▸ hmem), h.calls⟩

theorem Gated.acceptClientHello (h : Gated world trace) {hello : ClientHello}
    {now : OffsetDateTime} {session : DashboardSession}
    (hok : world.session.acceptClientHello hello now = .ok session) :
    Gated { world with session := session } (trace ++ [.helloAccepted]) := by
  obtain ⟨-, rfl⟩ := DashboardSession.acceptClientHello_ok.mp hok
  constructor
  · exact h.wellFormed
  · intro _
    simp
  · intro targetId hmem
    exact List.mem_append_left _ (h.bound targetId hmem)
  · exact h.calls.append CallAllowed.mono (by simp [CallAllowed])

theorem Gated.bindTarget (h : Gated world trace) (targetId : String) (ipc : TargetIpcPort)
    (now : OffsetDateTime) (newV4 : Nat → Uuid) :
    Gated (world.apply newV4 (.bindTarget targetId ipc now)).1
      (trace ++ (world.apply newV4 (.bindTarget targetId ipc now)).2) := by
  have hspec := DashboardSession.bindTarget_spec world.session targetId world.registry ipc now
  dsimp only [SessionWorld.apply, SessionWorld.afterStep]
  generalize world.session.bindTarget targetId world.registry ipc now = step at hspec ⊢
  constructor
  · exact h.wellFormed.of_frames hspec.touches.frames
  · intro hestablished
    exact List.mem_append_left _ (h.hello (hspec.grows.connectionState ▸ hestablished))
  · intro other hmem
    rcases hspec.bound other hmem with hearlier | ⟨rfl, hok⟩
    · exact List.mem_append_left _ (h.bound other hearlier)
    · simp [hok]
  · refine h.calls.append CallAllowed.mono fun event hmem => ?_
    rcases List.mem_append.mp hmem with hmem | hmem
    · obtain ⟨call, hcall, rfl⟩ := List.mem_map.mp hmem
      exact h.bindCall (hspec.calls call hcall)
    · split at hmem
      · rw [List.mem_singleton.mp hmem]
        trivial
      · cases hmem

theorem Gated.handleCommand (h : Gated world trace) (command : ClientCommand)
    (ipc : TargetIpcPort) (now : OffsetDateTime) (newV4 : Nat → Uuid) :
    Gated (world.apply newV4 (.handleCommand command ipc now)).1
      (trace ++ (world.apply newV4 (.handleCommand command ipc now)).2) := by
  have hspec := DashboardSession.handleCommand_spec newV4 world.session command world.registry ipc
    world.audit now
  dsimp only [SessionWorld.apply, SessionWorld.afterStep]
  generalize world.session.handleCommand newV4 command world.registry ipc world.audit now =
    handled at hspec ⊢
  generalize handled.1 = step at hspec ⊢
  cases hspec with
  | refused error hchecks =>
      rw [List.map_nil, List.append_nil]
      exact ⟨h.wellFormed, h.hello, h.bound, h.calls⟩
  | failed identity registration prepared error hchecks hforward =>
      refine ⟨h.wellFormed, fun hestablished => List.mem_append_left _ (h.hello hestablished),
        fun targetId hmem => List.mem_append_left _ (h.bound targetId hmem), ?_⟩
      refine h.calls.append CallAllowed.mono fun event hmem => ?_
      rw [List.mem_singleton.mp hmem]
      exact h.forwardingCall hchecks
  | answered identity registration prepared answer finish hchecks hforward hfinish =>
      refine ⟨h.wellFormed.of_frames hfinish.touches.frames, fun hestablished => ?_,
        fun targetId hmem => ?_, ?_⟩
      · exact List.mem_append_left _ (h.hello (hfinish.grows.connectionState ▸ hestablished))
      · exact List.mem_append_left _ (h.bound targetId (hfinish.bound ▸ hmem))
      · refine h.calls.append CallAllowed.mono fun event hmem => ?_
        rw [List.map_cons, List.mem_cons] at hmem
        rcases hmem with rfl | hmem
        · exact h.forwardingCall hchecks
        · obtain ⟨call, hcall, rfl⟩ := List.mem_map.mp hmem
          obtain ⟨hcaller, hmethod, -⟩ := hfinish.calls call hcall
          dsimp only [CallAllowed]
          rw [hcaller, hmethod]
          trivial

theorem Gated.apply (h : Gated world trace) (newV4 : Nat → Uuid) (op : SessionOp) :
    Gated (world.apply newV4 op).1 (trace ++ (world.apply newV4 op).2) := by
  have haccept (op : StreamOp) :
      Gated { world with session := (world.session.accept op).2 } (trace ++ []) := by
    obtain ⟨-, hstate, hbound⟩ := DashboardSession.accept_keeps world.session op
    exact h.of_session hstate hbound
  cases op with
  | acceptClientHello hello now =>
      dsimp only [SessionWorld.apply]
      cases hok : world.session.acceptClientHello hello now with
      | ok session => exact h.acceptClientHello hok
      | error error => exact h.of_session rfl rfl
  | publishTargetList targets => exact h.of_session rfl rfl
  | bindTarget targetId ipc now => exact h.bindTarget targetId ipc now newV4
  | handleCommand command ipc now => exact h.handleCommand command ipc now newV4
  | acceptEvent event => exact haccept (.event event)
  | acceptLog log => exact haccept (.log log)
  | acceptStateDelta targetId delta => exact haccept (.stateDelta targetId delta)
  | acceptDroppedCount targetId droppedEventCount =>
      exact haccept (.droppedCount targetId droppedEventCount)
  | acceptConnectionState targetId state => exact haccept (.connectionState targetId state)
  | drainOutbox => exact h.of_session rfl rfl
  | registry op =>
      dsimp only [SessionWorld.apply]
      rw [List.append_nil]
      exact ⟨h.wellFormed.apply op, h.hello, h.bound, h.calls⟩

theorem started_gated {session : DashboardSession} {past : List SessionEvent}
    (h : Started session past) {registry : TargetProcessRegistry} (hwf : WellFormed registry)
    (audit : AuditRecorder) : Gated ⟨session, registry, audit⟩ past := by
  cases h with
  | unauthenticated sessionId now =>
      exact ⟨hwf, by simp [DashboardSession.unauthenticated],
        by simp [DashboardSession.unauthenticated], GuardedTrace.nil _⟩
  | serverHello sessionId identity now =>
      exact ⟨hwf, by simp [DashboardSession.serverHello],
        by simp [DashboardSession.serverHello], GuardedTrace.nil _⟩
  | established sessionId identity source transport now _ hok =>
      obtain ⟨-, hbound⟩ := DashboardSession.establish_ok hok
      refine ⟨hwf, fun _ => by simp, by simp [hbound], ?_⟩
      exact (GuardedTrace.nil CallAllowed).append CallAllowed.mono (by simp [CallAllowed])

/-- In every run of a session, whatever others do to the registry meanwhile and
whatever the targets answer, each call of a target has its authorization: the
identity, an earlier `client_hello`, a live lease at the call, and for a command
also the earlier binding, the declared support and a valid command. -/
theorem ipc_calls_gated (newV4 : Nat → Uuid) {session : DashboardSession}
    {past : List SessionEvent} (hstart : Started session past) (policy : RegistrationPolicy)
    (earlier : List RegistryOp) (audit : AuditRecorder) (ops : List SessionOp) :
    let registry := TargetProcessRegistry.machine.final (.new policy) earlier
    let trace := past ++ (SessionWorld.machine newV4).history ⟨session, registry, audit⟩ ops
    ∀ before event after, trace = before ++ event :: after → CallAllowed before event := by
  intro registry trace
  have hwf : WellFormed registry := TargetProcessRegistry.wellFormed_final policy earlier
  have hgated := Machine.invariant_history (M := SessionWorld.machine newV4) Gated
    (fun _ _ op h => h.apply newV4 op) (started_gated hstart hwf audit) ops
  exact hgated.calls

def SessionEvent.isForward : SessionEvent → Bool
  | .ipcCall _ call =>
      match call.method with
      | .forwardCommand _ => true
      | _ => false
  | _ => false

/-- A registration, a handshake, a binding and a command. -/
def sampleSessionOps : List SessionOp :=
  [.registry (.register .ok
      (sampleRequest "payments-worker-a" "/run/rust-supervisor/a.sock" 30) "uid:501" .unixEpoch),
    .acceptClientHello sampleHello .unixEpoch,
    .bindTarget "payments-worker-a" (sampleClient "payments-worker-a").port .unixEpoch,
    .handleCommand (sampleCommand "payments-worker-a") (sampleClient "payments-worker-a").port
      .unixEpoch]

def sampleTrace : List SessionEvent :=
  (SessionWorld.machine fun _ => 0).history
    ⟨.serverHello 0 sampleIdentity .unixEpoch, .new (samplePolicy 120), .default⟩ sampleSessionOps

theorem ipc_calls_gated_sample :
    ∃ before event after, sampleTrace = before ++ event :: after ∧ event.isForward = true ∧
      CallAllowed before event := by
  have hforward : sampleTrace.any SessionEvent.isForward = true := by decide +kernel
  obtain ⟨event, hmem, hevent⟩ := List.any_eq_true.mp hforward
  obtain ⟨before, after, hsplit⟩ := List.append_of_mem hmem
  have hallowed := ipc_calls_gated (fun _ => 0) (.serverHello 0 sampleIdentity .unixEpoch)
    (samplePolicy 120) [] .default sampleSessionOps before event after hsplit
  exact ⟨before, event, after, hsplit, hevent, hallowed⟩

end SupervisorRelay
