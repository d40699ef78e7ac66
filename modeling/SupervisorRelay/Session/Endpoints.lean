import SupervisorRelay.Session.Gate

/-! Where a session's commands go. The session remembers the ids it has bound and
the shared registry holds the paths, so a registration can move a bound target
between the binding and the command. -/
namespace SupervisorRelay

/-- A binding that returned, with the calls it made, or a command on its way. -/
inductive EndpointEvent where
  | bindCompleted (targetId : String) (ipc : TargetIpcPort) (calls : List IpcCall)
  | forwarded (call : IpcCall) (command : PreparedCommand)

namespace EndpointEvent

def ofCall (call : IpcCall) : Option EndpointEvent :=
  match call.method with
  | .forwardCommand command => some (.forwarded call command)
  | _ => none

theorem ofCall_forwarding (registry : TargetProcessRegistry)
    (registration : TargetProcessRegistration) (prepared : PreparedCommand)
    (now : OffsetDateTime) :
    let call := DashboardSession.forwardingCall registry registration prepared now
    ofCall call = some (.forwarded call prepared) := rfl

theorem filterMap_ofCall {calls : List IpcCall} (h : ∀ call ∈ calls, call.method = .connectState) :
    calls.filterMap ofCall = [] := by
  rw [List.filterMap_eq_nil_iff]
  intro call hmem
  unfold ofCall
  rw [h call hmem]

end EndpointEvent

/-- The two calls of a binding, both answered well on one path. -/
structure AnsweredOn (path : PathBuf) (ipc : TargetIpcPort) (connecting subscribing : IpcCall) :
    Prop where
  connectState : connecting.method = .connectState
  connectPath : connecting.registration.ipcPath = path
  connected : ∃ state, ipc.connectState connecting.registration connecting.now = .ok state
  subscribeEventLog : subscribing.method = .subscribeEventLog
  subscribePath : subscribing.registration.ipcPath = path
  subscribed : ipc.subscribeEventLog subscribing.registration subscribing.now = .ok ()

/-- A binding of the target that reached it on the path. -/
def BoundOn (past : List EndpointEvent) (targetId : String) (path : PathBuf) : Prop :=
  ∃ ipc connecting subscribing,
    .bindCompleted targetId ipc [connecting, subscribing] ∈ past ∧
      AnsweredOn path ipc connecting subscribing

/-- A command goes where its target was bound before. -/
def ForwardedWhereBound (past : List EndpointEvent) : EndpointEvent → Prop
  | .forwarded call command => BoundOn past command.targetId call.registration.ipcPath
  | .bindCompleted .. => True

theorem BoundOn.mono {past : List EndpointEvent} {targetId : String} {path : PathBuf}
    (h : BoundOn past targetId path) (more : List EndpointEvent) :
    BoundOn (past ++ more) targetId path := by
  obtain ⟨ipc, connecting, subscribing, hmem, hanswered⟩ := h
  exact ⟨ipc, connecting, subscribing, List.mem_append_left more hmem, hanswered⟩

theorem ForwardedWhereBound.mono (past more : List EndpointEvent) (event : EndpointEvent)
    (h : ForwardedWhereBound past event) : ForwardedWhereBound (past ++ more) event := by
  cases event with
  | bindCompleted targetId ipc calls => trivial
  | forwarded call command => exact BoundOn.mono h more

namespace SessionWorld

def endpoints (newV4 : Nat → Uuid) (world : SessionWorld) : SessionOp → List EndpointEvent
  | .bindTarget targetId ipc now =>
      let step := world.session.bindTarget targetId world.registry ipc now
      match step.result with
      | .ok () => [.bindCompleted targetId ipc step.calls]
      | .error _ => []
  | .handleCommand command ipc now =>
      let handled := world.session.handleCommand newV4 command world.registry ipc world.audit now
      handled.1.calls.filterMap EndpointEvent.ofCall
  | _ => []

def endpointMachine (newV4 : Nat → Uuid) : Machine SessionWorld SessionOp EndpointEvent where
  step world op := ((world.apply newV4 op).1, world.endpoints newV4 op)

/-- The step moves no target that the session has bound to another path. -/
def KeepsBoundPaths (world : SessionWorld) : SessionOp → Prop
  | .registry (.register normalize request ownerIdentity now) =>
      ∀ existing ipcPathKey, request.targetId ∈ world.session.boundTargets →
        world.registry.registrations.lookup request.targetId = some existing →
          world.registry.registerChecks normalize request ownerIdentity = .ok ipcPathKey →
            leaseExpiry now request.leaseSeconds ≠ none → request.ipcPath = existing.ipcPath
  | _ => True

/-- Each bound target was bound on the path it declares now. -/
structure BoundInPlace (world : SessionWorld) (past : List EndpointEvent) : Prop where
  bound : ∀ targetId ∈ world.session.boundTargets, ∃ declaration,
    world.registry.declared targetId = some declaration ∧
      BoundOn past targetId declaration.ipcPath
  forwards : GuardedTrace ForwardedWhereBound past

variable {newV4 : Nat → Uuid} {world changed : SessionWorld} {past : List EndpointEvent}

/-- A step that keeps the bindings and the declarations owes its events alone. -/
theorem BoundInPlace.extend (h : BoundInPlace world past) {new : List EndpointEvent}
    (hbound : changed.session.boundTargets = world.session.boundTargets)
    (hdeclared : ∀ targetId,
      changed.registry.declared targetId = world.registry.declared targetId)
    (hnew : ∀ event ∈ new, ForwardedWhereBound past event) :
    BoundInPlace changed (past ++ new) where
  bound targetId hmem := by
    obtain ⟨declaration, hlookup, hon⟩ := h.bound targetId (hbound ▸ hmem)
    exact ⟨declaration, (hdeclared targetId).trans hlookup, hon.mono new⟩
  forwards := h.forwards.append ForwardedWhereBound.mono hnew

theorem BoundInPlace.silent (h : BoundInPlace world past)
    (hbound : changed.session.boundTargets = world.session.boundTargets)
    (hdeclared : ∀ targetId,
      changed.registry.declared targetId = world.registry.declared targetId) :
    BoundInPlace changed (past ++ []) :=
  h.extend hbound hdeclared (by simp)

theorem declared_of_lookup {registry : TargetProcessRegistry} {targetId : String}
    {registration : TargetProcessRegistration}
    (h : registry.registrations.lookup targetId = some registration) :
    registry.declared targetId = some registration.declaration := by
  rw [TargetProcessRegistry.declared, h]
  rfl

theorem BoundInPlace.bindTarget (h : BoundInPlace world past) (targetId : String)
    (ipc : TargetIpcPort) (now : OffsetDateTime) :
    BoundInPlace (world.apply newV4 (.bindTarget targetId ipc now)).1
      (past ++ world.endpoints newV4 (.bindTarget targetId ipc now)) := by
  have hdeclared := (DashboardSession.bindTarget_spec world.session targetId world.registry ipc
    now).touches.frames.declared
  have houtcome := DashboardSession.bindTarget_outcome world.session targetId world.registry ipc now
  dsimp only [apply, afterStep, endpoints]
  generalize world.session.bindTarget targetId world.registry ipc now = step at hdeclared houtcome ⊢
  cases houtcome with
  | refused error hchecks => exact h.silent rfl hdeclared
  | already registration hchecks hbound =>
      exact h.extend rfl hdeclared (by simp [ForwardedWhereBound])
  | unconnected registration error hchecks hnew hmissing => exact h.silent rfl hdeclared
  | unreachable registration binding error hchecks hnew hbegin hconnect =>
      exact h.silent rfl hdeclared
  | unsubscribed registration binding connected state error hchecks hnew hbegin hconnect hmark
      hsubscribe => exact h.silent rfl hdeclared
  | bound registration binding connected state hchecks hnew hbegin hconnect hmark hsubscribe =>
      obtain ⟨-, hlookup, -⟩ := DashboardSession.bindChecks_ok.mp hchecks
      refine ⟨fun other hmem => ?_, ?_⟩
      · rcases Finset.mem_insert.mp hmem with rfl | hmem
        · refine ⟨registration.declaration,
            (hdeclared other).trans (declared_of_lookup hlookup), ?_⟩
          refine ⟨ipc, _, _, List.mem_append_right past (List.mem_singleton.mpr rfl), ?_⟩
          exact ⟨rfl, rfl, ⟨state, hconnect⟩, rfl, rfl, hsubscribe⟩
        · obtain ⟨declaration, hearlier, hon⟩ := h.bound other hmem
          exact ⟨declaration, (hdeclared other).trans hearlier, hon.mono _⟩
      · exact h.forwards.append ForwardedWhereBound.mono (by simp [ForwardedWhereBound])

/-- A command that passes the checks goes to the path its target declares. -/
theorem BoundInPlace.forwarding (h : BoundInPlace world past) {command : ClientCommand}
    {now : OffsetDateTime} {identity : RemoteIdentity}
    {registration : TargetProcessRegistration} {prepared : PreparedCommand}
    (hchecks : world.session.commandChecks command world.registry now =
      .ok (identity, registration, prepared)) :
    BoundOn past prepared.targetId registration.ipcPath := by
  obtain ⟨-, -, hbound, hlookup, -, -, hprepared⟩ := DashboardSession.commandChecks_ok.mp hchecks
  obtain ⟨-, rfl⟩ := prepareClientCommand_ok.mp hprepared
  obtain ⟨declaration, hdeclared, hon⟩ := h.bound command.targetId hbound
  cases (declared_of_lookup hlookup).symm.trans hdeclared
  exact hon

theorem BoundInPlace.handleCommand (h : BoundInPlace world past) (command : ClientCommand)
    (ipc : TargetIpcPort) (now : OffsetDateTime) :
    BoundInPlace (world.apply newV4 (.handleCommand command ipc now)).1
      (past ++ world.endpoints newV4 (.handleCommand command ipc now)) := by
  have hspec := DashboardSession.handleCommand_spec newV4 world.session command world.registry ipc
    world.audit now
  dsimp only [apply, afterStep, endpoints]
  generalize world.session.handleCommand newV4 command world.registry ipc world.audit now =
    handled at hspec ⊢
  generalize handled.1 = step at hspec ⊢
  cases hspec with
  | refused error hchecks => exact h.silent rfl fun _ => rfl
  | failed identity registration prepared error hchecks hforward =>
      refine h.extend rfl (fun _ => rfl) fun event hmem => ?_
      rw [List.mem_singleton.mp hmem]
      exact h.forwarding hchecks
  | answered identity registration prepared answer finish hchecks hforward hfinish =>
      have hquiet := EndpointEvent.filterMap_ofCall fun call hmem => (hfinish.calls call hmem).2.1
      refine h.extend hfinish.bound hfinish.touches.frames.declared fun event hmem => ?_
      rw [List.filterMap_cons_some (EndpointEvent.ofCall_forwarding _ _ _ _), hquiet] at hmem
      rw [List.mem_singleton.mp hmem]
      exact h.forwarding hchecks

/-- A registration that moves no bound target leaves the bindings where they were made. -/
theorem BoundInPlace.register (h : BoundInPlace world past)
    (normalize : PathBuf → RelayResult String) (request : RegistrationRequest)
    (ownerIdentity : String) (now : OffsetDateTime)
    (hkeeps : KeepsBoundPaths world (.registry (.register normalize request ownerIdentity now))) :
    BoundInPlace { world with
      registry := (world.registry.register normalize request ownerIdentity now).2 }
      (past ++ []) := by
  rw [List.append_nil]
  refine ⟨fun targetId hmem => ?_, h.forwards⟩
  obtain ⟨declaration, hdeclared, hon⟩ := h.bound targetId hmem
  obtain ⟨existing, hexisting, rfl⟩ := Option.map_eq_some_iff.mp hdeclared
  rcases TargetProcessRegistry.register_cases world.registry normalize request ownerIdentity
    now with ⟨error, -, hcall⟩ | ⟨ipcPathKey, -, -, hcall⟩ |
      ⟨ipcPathKey, expiresAt, hchecks, hexpiry, -, hregistrations⟩
  · rw [hcall]
    exact ⟨_, hdeclared, hon⟩
  · rw [hcall]
    exact ⟨_, hdeclared, hon⟩
  · dsimp only
    unfold TargetProcessRegistry.declared
    rw [hregistrations, HashMap.lookup_insert]
    split
    · rename_i heq
      subst heq
      have hpath := hkeeps existing ipcPathKey hmem hexisting hchecks (by simp [hexpiry])
      refine ⟨_, rfl, ?_⟩
      change BoundOn past request.targetId request.ipcPath
      rw [hpath]
      exact hon
    · exact ⟨_, hdeclared, hon⟩

theorem BoundInPlace.step (h : BoundInPlace world past) {op : SessionOp}
    (hkeeps : KeepsBoundPaths world op) :
    BoundInPlace (world.apply newV4 op).1 (past ++ world.endpoints newV4 op) := by
  have haccept (op : StreamOp) :
      BoundInPlace { world with session := (world.session.accept op).2 } (past ++ []) :=
    h.silent (DashboardSession.accept_keeps world.session op).2.2 fun _ => rfl
  cases op with
  | acceptClientHello hello now =>
      dsimp only [apply]
      cases hok : world.session.acceptClientHello hello now with
      | ok session =>
          obtain ⟨-, rfl⟩ := DashboardSession.acceptClientHello_ok.mp hok
          exact h.silent rfl fun _ => rfl
      | error error => exact h.silent rfl fun _ => rfl
  | publishTargetList targets => exact h.silent rfl fun _ => rfl
  | bindTarget targetId ipc now => exact h.bindTarget targetId ipc now
  | handleCommand command ipc now => exact h.handleCommand command ipc now
  | acceptEvent event => exact haccept (.event event)
  | acceptLog log => exact haccept (.log log)
  | acceptStateDelta targetId delta => exact haccept (.stateDelta targetId delta)
  | acceptDroppedCount targetId count => exact haccept (.droppedCount targetId count)
  | acceptConnectionState targetId state => exact haccept (.connectionState targetId state)
  | drainOutbox => exact h.silent rfl fun _ => rfl
  | registry op =>
      cases hregister : TargetProcessRegistry.RegistryOp.isRegister op with
      | false => exact h.silent rfl (TargetProcessRegistry.apply_frames hregister).declared
      | true =>
          cases op with
          | register normalize request ownerIdentity now =>
              exact h.register normalize request ownerIdentity now hkeeps
          | _ => cases hregister

end SessionWorld

theorem started_unbound {session : DashboardSession} {past : List SessionEvent}
    (h : Started session past) : session.boundTargets = ∅ := by
  cases h with
  | unauthenticated sessionId now => rfl
  | serverHello sessionId identity now => rfl
  | established sessionId identity registry transport now _ hok =>
      exact (DashboardSession.establish_ok hok).2

/-- While no registration moves a target that the session has bound, its commands
go only to paths on which it has bound their targets. -/
theorem commands_to_bound_endpoints (newV4 : Nat → Uuid) {session : DashboardSession}
    {past : List SessionEvent} (hstart : Started session past) (registry : TargetProcessRegistry)
    (audit : AuditRecorder) (ops : List SessionOp)
    (hkeeps : (SessionWorld.endpointMachine newV4).Along SessionWorld.KeepsBoundPaths
      ⟨session, registry, audit⟩ ops) :
    let trace := (SessionWorld.endpointMachine newV4).history ⟨session, registry, audit⟩ ops
    ∀ before call command after, trace = before ++ .forwarded call command :: after →
      BoundOn before command.targetId call.registration.ipcPath := by
  intro trace before call command after hsplit
  have hnone : SessionWorld.BoundInPlace ⟨session, registry, audit⟩ [] := by
    refine ⟨fun targetId hmem => ?_, GuardedTrace.nil _⟩
    rw [started_unbound hstart] at hmem
    simp at hmem
  have hplace := Machine.invariant_along (M := SessionWorld.endpointMachine newV4)
    SessionWorld.BoundInPlace (fun _ _ _ hkeep h => h.step hkeep) [] hkeeps hnone
  exact hplace.forwards before (.forwarded call command) after hsplit

/-- The path a command went to, and those its binding called. -/
def EndpointEvent.paths : EndpointEvent → Option PathBuf × List PathBuf
  | .bindCompleted _ _ calls => (none, calls.map (·.registration.ipcPath))
  | .forwarded call _ => (some call.registration.ipcPath, [])

def sampleEndpointTrace (ops : List SessionOp) : List EndpointEvent :=
  (SessionWorld.endpointMachine fun _ => 0).history
    ⟨.serverHello 0 sampleIdentity .unixEpoch, .new (samplePolicy 120), .default⟩ ops

theorem commands_to_bound_endpoints_sample :
    ∃ before call command after,
      sampleEndpointTrace sampleSessionOps = before ++ .forwarded call command :: after ∧
        BoundOn before command.targetId call.registration.ipcPath := by
  have hpaths : (sampleEndpointTrace sampleSessionOps).map EndpointEvent.paths =
      [(none, ["/run/rust-supervisor/a.sock", "/run/rust-supervisor/a.sock"]),
        (some "/run/rust-supervisor/a.sock", [])] := by decide +kernel
  obtain ⟨bound, rest, hbound, -, hrest⟩ := List.map_eq_cons_iff.mp hpaths
  obtain ⟨forwarded, after, hforwarded, hpath, -⟩ := List.map_eq_cons_iff.mp hrest
  cases forwarded with
  | bindCompleted targetId ipc calls => cases hpath
  | forwarded call command =>
      have hsplit : sampleEndpointTrace sampleSessionOps =
          [bound] ++ .forwarded call command :: after := by
        rw [hbound, hforwarded]
        rfl
      have hkeeps : (SessionWorld.endpointMachine fun _ => 0).Along SessionWorld.KeepsBoundPaths
          ⟨.serverHello 0 sampleIdentity .unixEpoch, .new (samplePolicy 120), .default⟩
          sampleSessionOps :=
        ⟨fun _ _ hmem => by simp [DashboardSession.serverHello] at hmem, trivial, trivial, trivial,
          trivial⟩
      exact ⟨[bound], call, command, after, hsplit,
        commands_to_bound_endpoints (fun _ => 0) (.serverHello 0 sampleIdentity .unixEpoch) _ _ _
          hkeeps [bound] call command after hsplit⟩

/-- The owner moves the target after the binding, and the next command follows it. -/
def movedSessionOps : List SessionOp :=
  sampleSessionOps.take 3 ++ [
    .registry (.register .ok
      (sampleRequest "payments-worker-a" "/run/rust-supervisor/b.sock" 30) "uid:501" .unixEpoch),
    .handleCommand (sampleCommand "payments-worker-a") (sampleClient "payments-worker-a").port
      .unixEpoch]

theorem command_follows_moved_target :
    ¬∀ before call command after,
      sampleEndpointTrace movedSessionOps = before ++ .forwarded call command :: after →
        BoundOn before command.targetId call.registration.ipcPath := by
  intro h
  have hpaths : (sampleEndpointTrace movedSessionOps).map EndpointEvent.paths =
      [(none, ["/run/rust-supervisor/a.sock", "/run/rust-supervisor/a.sock"]),
        (some "/run/rust-supervisor/b.sock", [])] := by decide +kernel
  obtain ⟨bound, rest, hbound, hcalls, hrest⟩ := List.map_eq_cons_iff.mp hpaths
  obtain ⟨forwarded, after, hforwarded, hpath, -⟩ := List.map_eq_cons_iff.mp hrest
  cases forwarded with
  | bindCompleted targetId ipc calls => cases hpath
  | forwarded call command =>
      obtain ⟨ipc, connecting, subscribing, hmem, hanswered⟩ :=
        h [bound] call command after (by rw [hbound, hforwarded]; rfl)
      -- the only binding called the first socket, the command went to the second
      rw [← List.mem_singleton.mp hmem] at hcalls
      have hfirst : connecting.registration.ipcPath = "/run/rust-supervisor/a.sock" :=
        (List.cons.inj (Prod.mk.inj hcalls).2).1
      have hsecond : call.registration.ipcPath = "/run/rust-supervisor/b.sock" :=
        Option.some.inj (Prod.mk.inj hpath).1
      have hsame := hfirst.symm.trans (hanswered.connectPath.trans hsecond)
      exact absurd hsame (by decide)

end SupervisorRelay
