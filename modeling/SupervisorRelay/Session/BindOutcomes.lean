import SupervisorRelay.Session.Gate

/-! What a binding leaves behind, on success and on failure. A first binding that
succeeds ends connected; a repeated one answers from the session alone. -/
namespace SupervisorRelay

open TargetProcessRegistry (WellFormed)

/-- A binding as its caller understands it. -/
structure BoundAndConnected (session : DashboardSession) (registry : TargetProcessRegistry)
    (targetId : String) (now : OffsetDateTime) : Prop where
  bound : targetId ∈ session.boundTargets
  active : ∃ registration, registry.registrations.lookup targetId = some registration ∧
    TargetProcessRegistry.isActive now registration = true
  connected : registry.connectionState targetId = some .connected

/-- A `bind_target` step that returns `Ok` leaves its target bound and connected. -/
def BindingConnects (world : SessionWorld) : SessionOp → Prop
  | .bindTarget targetId ipc now =>
      let step := world.session.bindTarget targetId world.registry ipc now
      step.result = .ok () → BoundAndConnected step.session step.registry targetId now
  | _ => True

/-- A target that the session may bind and has bound before is still connected. -/
def RebindsConnected (world : SessionWorld) : SessionOp → Prop
  | .bindTarget targetId _ now =>
      world.session.ensureControlEstablished = .ok () →
        world.registry.ensureTargetActive targetId now = .ok () →
          targetId ∈ world.session.boundTargets →
            world.registry.connectionState targetId = some .connected
  | _ => True

namespace TargetProcessRegistry

variable {registry changed : TargetProcessRegistry} {targetId : String} {now : OffsetDateTime}

theorem markConnected_connection {stateGeneration : UInt64}
    (h : registry.markConnected targetId stateGeneration now = .ok changed) :
    ∃ connection, changed.connections.lookup targetId = some connection ∧
      connection.state = .connected ∧
        connection.lastStateGeneration = some stateGeneration := by
  obtain ⟨hmem, rfl⟩ := modifyConnection_ok.mp h
  obtain ⟨connection, hlookup⟩ := HashMap.mem_iff_lookup.mp hmem
  rw [HashMap.lookup_modify_self, hlookup]
  exact ⟨_, rfl, rfl, rfl⟩

theorem markUnavailable_connection (h : targetId ∈ registry.connections) (reason : String)
    (now : OffsetDateTime) :
    ∃ connection,
      (registry.markUnavailable targetId reason now).connections.lookup targetId =
          some connection ∧
        connection.state = .unavailable ∧ connection.lastError = some reason := by
  obtain ⟨connection, hlookup⟩ := HashMap.mem_iff_lookup.mp h
  rw [markUnavailable, markWith_eq, HashMap.lookup_modify_self, hlookup]
  exact ⟨_, rfl, rfl, rfl⟩

theorem markConnected_connectionState {stateGeneration : UInt64}
    (h : registry.markConnected targetId stateGeneration now = .ok changed) :
    changed.connectionState targetId = some .connected := by
  obtain ⟨connection, hlookup, hstate, -⟩ := markConnected_connection h
  rw [connectionState, hlookup, Option.map_some, hstate]

theorem markUnavailable_connectionState (h : targetId ∈ registry.connections) (reason : String)
    (now : OffsetDateTime) :
    (registry.markUnavailable targetId reason now).connectionState targetId =
      some .unavailable := by
  obtain ⟨connection, hlookup, hstate, -⟩ := markUnavailable_connection h reason now
  rw [connectionState, hlookup, Option.map_some, hstate]

theorem mem_markConnected {stateGeneration : UInt64}
    (h : registry.markConnected targetId stateGeneration now = .ok changed) :
    targetId ∈ changed.connections := by
  obtain ⟨connection, hlookup, -⟩ := markConnected_connection h
  exact HashMap.mem_of_lookup hlookup

theorem Touches.connectionState_ne {before after : TargetProcessRegistry} {other : String}
    (h : Touches targetId before after) (hne : other ≠ targetId) :
    after.connectionState other = before.connectionState other := by
  unfold connectionState
  rw [h.others other hne]

end TargetProcessRegistry

namespace DashboardSession

variable (session : DashboardSession) (targetId : String) (registry : TargetProcessRegistry)
variable (ipc : TargetIpcPort) (now : OffsetDateTime)

/-- A binding makes good its success for whatever was not bound before; an old
binding is answered without a look at the connection. -/
theorem bindTarget_connects_iff :
    let step := session.bindTarget targetId registry ipc now
    (step.result = .ok () → BoundAndConnected step.session step.registry targetId now) ↔
      (session.ensureControlEstablished = .ok () →
        registry.ensureTargetActive targetId now = .ok () → targetId ∈ session.boundTargets →
          registry.connectionState targetId = some .connected) := by
  intro step
  have houtcome := bindTarget_outcome session targetId registry ipc now
  change BindOutcome session targetId registry ipc now step at houtcome
  generalize step = result at houtcome
  cases houtcome with
  | refused error hchecks =>
      refine iff_of_true (fun hresult => by cases hresult) fun hcontrol hactive => ?_
      obtain ⟨registration, hlookup, hlive⟩ :=
        TargetProcessRegistry.ensureTargetActive_ok.mp hactive
      have hpassed := bindChecks_ok.mpr ⟨hcontrol, hlookup, hlive⟩
      rw [hchecks] at hpassed
      cases hpassed
  | already registration hchecks hbound =>
      obtain ⟨hcontrol, hlookup, hlive⟩ := bindChecks_ok.mp hchecks
      have hactive := TargetProcessRegistry.ensureTargetActive_ok.mpr ⟨_, hlookup, hlive⟩
      constructor
      · intro h _ _ _
        exact (h rfl).connected
      · intro h _
        exact ⟨hbound, ⟨registration, hlookup, hlive⟩, h hcontrol hactive hbound⟩
  | unconnected registration error hchecks hnew hmissing
  | unreachable registration binding error hchecks hnew hbegin hconnect
  | unsubscribed registration binding connected state error hchecks hnew hbegin hconnect hmark
      hsubscribe =>
      exact iff_of_true (fun hresult => by cases hresult) fun _ _ hbound => absurd hbound hnew
  | bound registration binding connected state hchecks hnew hbegin hconnect hmark hsubscribe =>
      refine iff_of_true (fun _ => ?_) fun _ _ hbound => absurd hbound hnew
      obtain ⟨-, hlookup, hlive⟩ := bindChecks_ok.mp hchecks
      have htouches := (TargetProcessRegistry.beginBinding_touches hbegin).trans
        (TargetProcessRegistry.markConnected_touches hmark)
      constructor
      · exact Finset.mem_insert_self targetId _
      · rw [htouches.registrations]
        exact ⟨registration, hlookup, hlive⟩
      · exact TargetProcessRegistry.markConnected_connectionState hmark

end DashboardSession

/-- In a run from anywhere, every successful `bind_target` leaves its target bound,
with a live lease and connected, exactly when no step binds again a target that has
left the connected state since. -/
theorem bindings_connected_iff (newV4 : Nat → Uuid) (world : SessionWorld)
    (ops : List SessionOp) :
    (SessionWorld.machine newV4).Along BindingConnects world ops ↔
      (SessionWorld.machine newV4).Along RebindsConnected world ops := by
  refine Machine.along_congr (fun world op => ?_) world ops
  cases op with
  | bindTarget targetId ipc now =>
      exact DashboardSession.bindTarget_connects_iff world.session targetId world.registry ipc now
  | _ => exact Iff.rfl

/-- The target drops its connection after the binding and is bound again. -/
def droppedBindingOps : List SessionOp :=
  sampleSessionOps.take 3 ++
    [.registry (.markUnavailable "payments-worker-a" "reconnect timeout after 10 seconds"
        .unixEpoch),
      .bindTarget "payments-worker-a" (sampleClient "payments-worker-a").port .unixEpoch]

theorem dropped_binding_accepted :
    ¬(SessionWorld.machine fun _ => 0).Along BindingConnects
      ⟨.serverHello 0 sampleIdentity .unixEpoch, .new (samplePolicy 120), .default⟩
      droppedBindingOps := by
  rintro ⟨-, -, -, -, hbinding, -⟩
  have hconnected := (hbinding (by decide +kernel)).connected
  revert hconnected
  decide +kernel

/-- What a failed binding leaves: the session and every other target as they were,
and its own target untouched by a refusal or marked with the error. -/
structure BindRollsForward (session : DashboardSession) (targetId : String)
    (registry : TargetProcessRegistry) (now : OffsetDateTime) (step : SessionStep Unit)
    (error : RelayError) : Prop where
  sameSession : step.session = session
  registrations : step.registry.registrations = registry.registrations
  others : ∀ other, other ≠ targetId →
    step.registry.connections.lookup other = registry.connections.lookup other
  own : (session.bindChecks targetId registry now = .error error ∧ step.calls = [] ∧
      step.registry = registry) ∨
    ∃ registration connection,
      session.bindChecks targetId registry now = .ok registration ∧
        step.registry.connections.lookup targetId = some connection ∧
          connection.state = .unavailable ∧ connection.lastError = some error.message

variable {session : DashboardSession} {targetId : String} {registry : TargetProcessRegistry}
variable {now : OffsetDateTime}

theorem BindRollsForward.refused {error : RelayError}
    (hchecks : session.bindChecks targetId registry now = .error error) :
    BindRollsForward session targetId registry now ⟨.error error, session, registry, []⟩ error where
  sameSession := rfl
  registrations := rfl
  others _ _ := rfl
  own := .inl ⟨hchecks, rfl, rfl⟩

/-- Both calls of a target fail the same way: whatever the binding wrote before, the
marking covers it. -/
theorem BindRollsForward.marked {changed : TargetProcessRegistry}
    {registration : TargetProcessRegistration} {calls : List IpcCall}
    (hchecks : session.bindChecks targetId registry now = .ok registration)
    (htouches : TargetProcessRegistry.Touches targetId registry changed)
    (hmem : targetId ∈ changed.connections) (error : RelayError) :
    BindRollsForward session targetId registry now
      ⟨.error error, session, changed.markUnavailable targetId error.message now, calls⟩ error := by
  have hmarked := htouches.trans
    (TargetProcessRegistry.markUnavailable_touches changed targetId error.message now)
  obtain ⟨connection, hlookup, hstate, herror⟩ :=
    TargetProcessRegistry.markUnavailable_connection hmem error.message now
  exact ⟨rfl, hmarked.registrations, hmarked.others,
    .inr ⟨registration, connection, hchecks, hlookup, hstate, herror⟩⟩

namespace DashboardSession

/-- The invariant leaves no exit between the two calls: the connection that the
binding writes to is there because the registration is. -/
theorem bindTarget_rollsForward (hwf : WellFormed registry) (ipc : TargetIpcPort)
    {error : RelayError}
    (herror : (session.bindTarget targetId registry ipc now).result = .error error) :
    BindRollsForward session targetId registry now
      (session.bindTarget targetId registry ipc now) error := by
  have houtcome := bindTarget_outcome session targetId registry ipc now
  generalize session.bindTarget targetId registry ipc now = step at houtcome herror ⊢
  cases houtcome with
  | refused refusal hchecks =>
      cases herror
      exact .refused hchecks
  | already => cases herror
  | unconnected registration missing hchecks hnew hmissing =>
      obtain ⟨-, hlookup, -⟩ := bindChecks_ok.mp hchecks
      exact absurd (hwf.mem_connections hlookup) hmissing
  | unreachable registration binding failure hchecks hnew hbegin hconnect =>
      cases herror
      exact .marked hchecks (TargetProcessRegistry.beginBinding_touches hbegin)
        (TargetProcessRegistry.mem_beginBinding hbegin).2 _
  | unsubscribed registration binding connected state failure hchecks hnew hbegin hconnect hmark
      hsubscribe =>
      cases herror
      have htouches := (TargetProcessRegistry.beginBinding_touches hbegin).trans
        (TargetProcessRegistry.markConnected_touches hmark)
      exact .marked hchecks htouches (TargetProcessRegistry.mem_markConnected hmark) _
  | bound => cases herror

/-- Every exit overwrites the state that the binding begins with. -/
theorem bindTarget_leaves_connecting (session : DashboardSession) (targetId : String)
    (registry : TargetProcessRegistry) (ipc : TargetIpcPort) (now : OffsetDateTime)
    (other : String)
    (hafter : (session.bindTarget targetId registry ipc now).registry.connectionState other =
      some .connecting) :
    registry.connectionState other = some .connecting := by
  have htouches := (bindTarget_spec session targetId registry ipc now).touches
  by_cases hother : other = targetId
  · subst hother
    have houtcome := bindTarget_outcome session other registry ipc now
    generalize session.bindTarget other registry ipc now = step at houtcome hafter
    cases houtcome with
    | refused | already | unconnected => exact hafter
    | unreachable registration binding failure hchecks hnew hbegin hconnect =>
        rw [TargetProcessRegistry.markUnavailable_connectionState
          (TargetProcessRegistry.mem_beginBinding hbegin).2] at hafter
        cases hafter
    | unsubscribed registration binding connected state failure hchecks hnew hbegin hconnect hmark
        hsubscribe =>
        rw [TargetProcessRegistry.markUnavailable_connectionState
          (TargetProcessRegistry.mem_markConnected hmark)] at hafter
        cases hafter
    | bound registration binding connected state hchecks hnew hbegin hconnect hmark hsubscribe =>
        rw [TargetProcessRegistry.markConnected_connectionState hmark] at hafter
        cases hafter
  · rw [htouches.connectionState_ne hother] at hafter
    exact hafter

end DashboardSession

/-- On a registry that any calls may have led to, a binding that fails anywhere keeps
the session and all other targets, and leaves its own target alone or unavailable
with the error it returns. No binding leaves a target connecting. -/
theorem failed_binding_rolls_forward (policy : RegistrationPolicy) (earlier : List RegistryOp)
    (session : DashboardSession) (targetId : String) (ipc : TargetIpcPort)
    (now : OffsetDateTime) :
    let registry := TargetProcessRegistry.machine.final (.new policy) earlier
    let step := session.bindTarget targetId registry ipc now
    (∀ error, step.result = .error error →
        BindRollsForward session targetId registry now step error) ∧
      ∀ other, step.registry.connectionState other = some .connecting →
        registry.connectionState other = some .connecting := by
  intro registry step
  have hwf : WellFormed registry := TargetProcessRegistry.wellFormed_final policy earlier
  exact ⟨fun error herror => DashboardSession.bindTarget_rollsForward hwf ipc herror,
    DashboardSession.bindTarget_leaves_connecting session targetId registry ipc now⟩

def connectionRefused : RelayError :=
  .new "ipc_connect_failed" "ipc_connect" none
    "target process IPC could not be connected: Connection refused (os error 111)" true

/-- A target that answers the state request and closes before the subscription. -/
def closingClient : UnixNdjsonIpcClient where
  requestJsonBlocking path request :=
    match request with
    | .subscription .. => .error connectionRefused
    | request => (sampleClient "payments-worker-a").requestJsonBlocking path request

/-- A registry with one target. -/
def sampleRegistryOps : List RegistryOp :=
  [.register .ok (sampleRequest "payments-worker-a" "/run/rust-supervisor/a.sock" 30) "uid:501"
    .unixEpoch]

def sampleRegistry : TargetProcessRegistry :=
  TargetProcessRegistry.machine.final (.new (samplePolicy 120)) sampleRegistryOps

theorem failed_binding_rolls_forward_closed :
    let session := { sampleBoundSession with boundTargets := ∅ }
    let step := session.bindTarget "payments-worker-a" sampleRegistry closingClient.port .unixEpoch
    step.result = .error connectionRefused ∧
      BindRollsForward session "payments-worker-a" sampleRegistry .unixEpoch step
        connectionRefused := by
  intro session step
  have herror : step.result = .error connectionRefused := by decide +kernel
  exact ⟨herror, (failed_binding_rolls_forward (samplePolicy 120) sampleRegistryOps session
    "payments-worker-a" closingClient.port .unixEpoch).1 connectionRefused herror⟩

end SupervisorRelay
