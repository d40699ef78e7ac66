import SupervisorRelay.Registry.Invariant
import SupervisorRelay.Source.Session

/-! What each session method can do to the session, to the registry and to the
targets, one lemma for each. -/
namespace SupervisorRelay

open TargetProcessRegistry (Frames WellFormed)

/-- The target a message names. -/
def ServerMessage.targetId : ServerMessage → Option String
  | .serverHello .. => none
  | .targetList _ => none
  | .state targetId _ => some targetId
  | .event targetId _ => some targetId
  | .log targetId _ => some targetId
  | .stateDelta targetId _ => some targetId
  | .droppedCount targetId _ => some targetId
  | .commandResult targetId _ => some targetId
  | .connectionState targetId _ => some targetId
  | .error reported => reported.targetId

namespace TargetProcessRegistry

/-- A change of one target's connection only, which never leaves it expired. -/
structure Touches (targetId : String) (before after : TargetProcessRegistry) : Prop where
  frames : Frames before after
  registrations : after.registrations = before.registrations
  others : ∀ other, other ≠ targetId →
    after.connections.lookup other = before.connections.lookup other
  own : ∀ connection, after.connections.lookup targetId = some connection →
    before.connections.lookup targetId = some connection ∨ connection.state ≠ .expired

variable {registry changed : TargetProcessRegistry} {targetId : String}

theorem Touches.refl (targetId : String) (registry : TargetProcessRegistry) :
    Touches targetId registry registry where
  frames := Frames.refl registry
  registrations := rfl
  others _ _ := rfl
  own _ h := .inl h

theorem Touches.trans {first second third : TargetProcessRegistry}
    (h : Touches targetId first second) (h' : Touches targetId second third) :
    Touches targetId first third where
  frames := h.frames.trans h'.frames
  registrations := h'.registrations.trans h.registrations
  others other hne := (h'.others other hne).trans (h.others other hne)
  own connection hlookup := by
    rcases h'.own connection hlookup with hmiddle | hstate
    · exact h.own connection hmiddle
    · exact .inr hstate

theorem touches_modify {change : TargetProcessConnection → TargetProcessConnection}
    (hplace : ∀ connection, (change connection).place = connection.place)
    (hstate : ∀ connection, (change connection).state ≠ .expired) :
    Touches targetId registry { registry with
      connections := HashMap.modify targetId change registry.connections } where
  frames := placed_modify hplace
  registrations := rfl
  others other hne := HashMap.lookup_modify_ne hne _ _
  own connection hlookup := by
    rw [HashMap.lookup_modify_self] at hlookup
    obtain ⟨earlier, -, rfl⟩ := Option.map_eq_some_iff.mp hlookup
    exact .inr (hstate earlier)

theorem modifyConnection_error {change : TargetProcessConnection → TargetProcessConnection}
    {error : RelayError} (h : registry.modifyConnection targetId change = .error error) :
    targetId ∉ registry.connections := by
  unfold modifyConnection at h
  split at h
  · cases h
  · assumption

theorem mem_beginBinding {now : OffsetDateTime}
    (h : registry.beginBinding targetId now = .ok changed) :
    targetId ∈ registry.connections ∧ targetId ∈ changed.connections := by
  obtain ⟨hmem, rfl⟩ := modifyConnection_ok.mp h
  exact ⟨hmem, HashMap.mem_modify.mpr hmem⟩

theorem beginBinding_touches {now : OffsetDateTime}
    (h : registry.beginBinding targetId now = .ok changed) : Touches targetId registry changed := by
  obtain ⟨-, rfl⟩ := modifyConnection_ok.mp h
  exact touches_modify (fun _ => rfl) (fun _ => by simp)

theorem markConnected_touches {stateGeneration : UInt64} {now : OffsetDateTime}
    (h : registry.markConnected targetId stateGeneration now = .ok changed) :
    Touches targetId registry changed := by
  obtain ⟨-, rfl⟩ := modifyConnection_ok.mp h
  exact touches_modify (fun _ => rfl) (fun _ => by simp)

theorem markUnavailable_touches (registry : TargetProcessRegistry) (targetId reason : String)
    (now : OffsetDateTime) :
    Touches targetId registry (registry.markUnavailable targetId reason now) := by
  rw [markUnavailable, markWith_eq]
  exact touches_modify (fun _ => rfl) (fun _ => by simp)

end TargetProcessRegistry

open TargetProcessRegistry (Touches)

namespace DashboardSession

/-- The identity and the handshake stay, and the outbox grows by messages that
name the one target. -/
structure Extends (targetId : String) (before after : DashboardSession) : Prop where
  remoteIdentity : after.remoteIdentity = before.remoteIdentity
  connectionState : after.connectionState = before.connectionState
  outbox : ∃ extra, after.outbox = before.outbox ++ extra ∧
    ∀ message ∈ extra, message.targetId = some targetId

variable {session changed : DashboardSession} {targetId : String}

theorem Extends.refl (targetId : String) (session : DashboardSession) :
    Extends targetId session session where
  remoteIdentity := rfl
  connectionState := rfl
  outbox := ⟨[], by simp⟩

theorem Extends.trans {first second third : DashboardSession}
    (h : Extends targetId first second) (h' : Extends targetId second third) :
    Extends targetId first third where
  remoteIdentity := h'.remoteIdentity.trans h.remoteIdentity
  connectionState := h'.connectionState.trans h.connectionState
  outbox := by
    obtain ⟨extra, hextra, hall⟩ := h.outbox
    obtain ⟨more, hmore, hall'⟩ := h'.outbox
    refine ⟨extra ++ more, by rw [hmore, hextra, List.append_assoc], fun message hmem => ?_⟩
    rcases List.mem_append.mp hmem with hmem | hmem
    · exact hall message hmem
    · exact hall' message hmem

theorem extends_push {message : ServerMessage} (h : message.targetId = some targetId) :
    Extends targetId session (session.push message) where
  remoteIdentity := rfl
  connectionState := rfl
  outbox := ⟨[message], rfl, fun other hmem => by rw [List.mem_singleton.mp hmem, h]⟩

theorem acceptClientHello_ok {hello : ClientHello} {now : OffsetDateTime} :
    session.acceptClientHello hello now = .ok changed ↔
      (hello.clientStoreId.isBlank = false ∧ session.connectionState = .handshaking) ∧
        changed = { session with
          clientStoreId := some hello.clientStoreId
          connectionState := .established
          controlState := .established
          lastSeenAt := now } := by
  unfold acceptClientHello
  split
  · rename_i hblank
    simp [hblank]
  split
  · rename_i hstate
    simp [hstate]
  · rename_i hblank hstate
    rw [not_not] at hstate
    simp only [Except.ok.injEq, hstate, and_true]
    refine ⟨fun h => ⟨by simpa using hblank, h.symm⟩, fun h => h.2.symm⟩

theorem establish_ok {sessionId : Uuid} {identity : RemoteIdentity}
    {registry : TargetProcessRegistry} {transport : TransportSecurity} {now : OffsetDateTime}
    (h : establish sessionId identity registry transport now = .ok session) :
    transport = .wss ∧ session.boundTargets = ∅ := by
  unfold establish at h
  cases transport with
  | ws => cases h
  | wss =>
      simp only [ne_eq, not_true_eq_false, if_false, RelayResult.bind_eq_ok] at h
      obtain ⟨opened, hopened, hsession⟩ := h
      obtain ⟨-, rfl⟩ := acceptClientHello_ok.mp hopened
      cases hsession
      exact ⟨rfl, rfl⟩

theorem ensureControlEstablished_ok :
    session.ensureControlEstablished = .ok () ↔
      session.connectionState = .established ∧ session.controlState = .established ∧
        session.remoteIdentity.isSome = true := by
  unfold ensureControlEstablished
  split <;> simp_all

variable {registry : TargetProcessRegistry} {registration : TargetProcessRegistration}
variable {now : OffsetDateTime}

theorem bindChecks_ok :
    session.bindChecks targetId registry now = .ok registration ↔
      session.ensureControlEstablished = .ok () ∧
        registry.registrations.lookup targetId = some registration ∧
        TargetProcessRegistry.isActive now registration = true := by
  unfold bindChecks
  rw [RelayResult.unit_bind_eq_ok, RelayResult.unit_bind_eq_ok,
    TargetProcessRegistry.ensureTargetActive_ok, TargetProcessRegistry.registration_ok]
  constructor
  · rintro ⟨hcontrol, ⟨other, hother, hactive⟩, hlookup⟩
    cases hother.symm.trans hlookup
    exact ⟨hcontrol, hlookup, hactive⟩
  · rintro ⟨hcontrol, hlookup, hactive⟩
    exact ⟨hcontrol, ⟨registration, hlookup, hactive⟩, hlookup⟩

theorem commandChecks_ok {command : ClientCommand} {identity : RemoteIdentity}
    {prepared : PreparedCommand} :
    session.commandChecks command registry now = .ok (identity, registration, prepared) ↔
      session.ensureControlEstablished = .ok () ∧ session.remoteIdentity = some identity ∧
        command.targetId ∈ session.boundTargets ∧
        registry.registrations.lookup command.targetId = some registration ∧
        TargetProcessRegistry.isActive now registration = true ∧
        (∃ supported ∈ registration.supportedCommands,
          supported.name = command.command.wireName) ∧
        prepareClientCommand command identity now = .ok prepared := by
  unfold commandChecks
  rw [RelayResult.unit_bind_eq_ok]
  refine and_congr_right fun _ => ?_
  cases hidentity : session.remoteIdentity with
  | none => simp [throw, throwThe, MonadExceptOf.throw, bind, Except.bind]
  | some known =>
      dsimp only
      rw [RelayResult.bind_eq_ok]
      by_cases hbound : command.targetId ∈ session.boundTargets
      · simp only [hbound, not_true_eq_false, if_false, pure, Except.pure, Except.ok.injEq,
          exists_eq_left', Option.some.injEq, true_and]
        rw [RelayResult.unit_bind_eq_ok, TargetProcessRegistry.ensureTargetActive_ok,
          RelayResult.unit_bind_eq_ok, TargetProcessRegistry.ensureCommandSupported_ok,
          RelayResult.bind_eq_ok]
        simp only [TargetProcessRegistry.registration_ok, RelayResult.bind_eq_ok,
          Except.ok.injEq, Prod.mk.injEq]
        constructor
        · rintro ⟨⟨first, hfirst, hactive⟩, ⟨second, hsecond, hsupported⟩, third, hthird,
            _, hprepared, rfl, rfl, rfl⟩
          cases hfirst.symm.trans hthird
          cases hsecond.symm.trans hthird
          exact ⟨rfl, hthird, hactive, hsupported, hprepared⟩
        · rintro ⟨rfl, hlookup, hactive, hsupported, hprepared⟩
          exact ⟨⟨registration, hlookup, hactive⟩, ⟨registration, hlookup, hsupported⟩,
            registration, hlookup, prepared, hprepared, rfl, rfl, rfl⟩
      · simp [hbound, throw, throwThe, MonadExceptOf.throw, bind, Except.bind]

/-- The two calls of `bind_target`. -/
def connectingCall (registry : TargetProcessRegistry) (registration : TargetProcessRegistration)
    (now : OffsetDateTime) : IpcCall :=
  ⟨.bindTarget, .connectState, registration, now, registry⟩

def subscribingCall (registry : TargetProcessRegistry) (registration : TargetProcessRegistration)
    (now : OffsetDateTime) : IpcCall :=
  ⟨.bindTarget, .subscribeEventLog, registration, now, registry⟩

/-- The six ways a binding can go. -/
inductive BindOutcome (session : DashboardSession) (targetId : String)
    (registry : TargetProcessRegistry) (ipc : TargetIpcPort) (now : OffsetDateTime) :
    SessionStep Unit → Prop where
  | refused (error : RelayError)
      (hchecks : session.bindChecks targetId registry now = .error error) :
      BindOutcome session targetId registry ipc now ⟨.error error, session, registry, []⟩
  | already (registration : TargetProcessRegistration)
      (hchecks : session.bindChecks targetId registry now = .ok registration)
      (hbound : targetId ∈ session.boundTargets) :
      BindOutcome session targetId registry ipc now ⟨.ok (), session, registry, []⟩
  | unconnected (registration : TargetProcessRegistration) (error : RelayError)
      (hchecks : session.bindChecks targetId registry now = .ok registration)
      (hnew : targetId ∉ session.boundTargets) (hmissing : targetId ∉ registry.connections) :
      BindOutcome session targetId registry ipc now ⟨.error error, session, registry, []⟩
  | unreachable (registration : TargetProcessRegistration) (binding : TargetProcessRegistry)
      (error : RelayError)
      (hchecks : session.bindChecks targetId registry now = .ok registration)
      (hnew : targetId ∉ session.boundTargets)
      (hbegin : registry.beginBinding targetId now = .ok binding)
      (hconnect : ipc.connectState registration now = .error error) :
      BindOutcome session targetId registry ipc now ⟨.error error, session,
        binding.markUnavailable targetId error.message now,
        [connectingCall binding registration now]⟩
  | unsubscribed (registration : TargetProcessRegistration)
      (binding connected : TargetProcessRegistry) (state : DashboardState) (error : RelayError)
      (hchecks : session.bindChecks targetId registry now = .ok registration)
      (hnew : targetId ∉ session.boundTargets)
      (hbegin : registry.beginBinding targetId now = .ok binding)
      (hconnect : ipc.connectState registration now = .ok state)
      (hmark : binding.markConnected targetId state.stateGeneration now = .ok connected)
      (hsubscribe : ipc.subscribeEventLog registration now = .error error) :
      BindOutcome session targetId registry ipc now ⟨.error error, session,
        connected.markUnavailable targetId error.message now,
        [connectingCall binding registration now, subscribingCall connected registration now]⟩
  | bound (registration : TargetProcessRegistration)
      (binding connected : TargetProcessRegistry) (state : DashboardState)
      (hchecks : session.bindChecks targetId registry now = .ok registration)
      (hnew : targetId ∉ session.boundTargets)
      (hbegin : registry.beginBinding targetId now = .ok binding)
      (hconnect : ipc.connectState registration now = .ok state)
      (hmark : binding.markConnected targetId state.stateGeneration now = .ok connected)
      (hsubscribe : ipc.subscribeEventLog registration now = .ok ()) :
      BindOutcome session targetId registry ipc now ⟨.ok (), { session with
          boundTargets := insert targetId session.boundTargets
          outbox := session.outbox ++ [.state targetId state.payload]
          lastSeenAt := now }, connected,
        [connectingCall binding registration now, subscribingCall connected registration now]⟩

theorem bindTarget_outcome (session : DashboardSession) (targetId : String)
    (registry : TargetProcessRegistry) (ipc : TargetIpcPort) (now : OffsetDateTime) :
    BindOutcome session targetId registry ipc now
      (session.bindTarget targetId registry ipc now) := by
  unfold bindTarget
  cases hchecks : session.bindChecks targetId registry now with
  | error error => exact .refused error hchecks
  | ok registration =>
      dsimp only
      split
      · rename_i hbound
        exact .already registration hchecks hbound
      rename_i hnew
      cases hbegin : registry.beginBinding targetId now with
      | error error =>
          exact .unconnected registration error hchecks hnew
            (TargetProcessRegistry.modifyConnection_error hbegin)
      | ok binding =>
          dsimp only
          cases hconnect : ipc.connectState registration now with
          | error error =>
              exact .unreachable registration binding error hchecks hnew hbegin hconnect
          | ok state =>
              dsimp only
              cases hmark : binding.markConnected targetId state.stateGeneration now with
              | error error =>
                  -- `begin_binding` has just found the connection
                  exact absurd (TargetProcessRegistry.mem_beginBinding hbegin).2
                    (TargetProcessRegistry.modifyConnection_error hmark)
              | ok connected =>
                  dsimp only
                  cases hsubscribe : ipc.subscribeEventLog registration now with
                  | error error =>
                      exact .unsubscribed registration binding connected state error hchecks hnew
                        hbegin hconnect hmark hsubscribe
                  | ok subscribed =>
                      exact .bound registration binding connected state hchecks hnew hbegin
                        hconnect hmark hsubscribe

/-- A call that `bind_target` makes: for the target it was given, past its checks. -/
structure BindCall (session : DashboardSession) (targetId : String)
    (registry : TargetProcessRegistry) (now : OffsetDateTime) (call : IpcCall) : Prop where
  caller : call.caller = .bindTarget
  method : call.method = .connectState ∨ call.method = .subscribeEventLog
  time : call.now = now
  checks : session.bindChecks targetId registry now = .ok call.registration
  registrations : call.registry.registrations = registry.registrations

/-- What `bind_target` can do. -/
structure Binds (session : DashboardSession) (targetId : String)
    (registry : TargetProcessRegistry) (now : OffsetDateTime) (step : SessionStep Unit) :
    Prop where
  refused : ∀ error, session.bindChecks targetId registry now = .error error →
    step = ⟨.error error, session, registry, []⟩
  touches : Touches targetId registry step.registry
  grows : Extends targetId session step.session
  bound : ∀ other ∈ step.session.boundTargets,
    other ∈ session.boundTargets ∨ other = targetId ∧ step.result = .ok ()
  calls : ∀ call ∈ step.calls, BindCall session targetId registry now call

/-- Past its checks, `bind_target` owes what is left. -/
theorem binds_past {step : SessionStep Unit}
    (hchecks : session.bindChecks targetId registry now = .ok registration)
    (touches : Touches targetId registry step.registry)
    (grows : Extends targetId session step.session)
    (bound : ∀ other ∈ step.session.boundTargets,
      other ∈ session.boundTargets ∨ other = targetId ∧ step.result = .ok ())
    (calls : ∀ call ∈ step.calls, BindCall session targetId registry now call) :
    Binds session targetId registry now step where
  refused error hrefused := by cases hchecks.symm.trans hrefused
  touches := touches
  grows := grows
  bound := bound
  calls := calls

theorem connectingCall_bindCall {binding : TargetProcessRegistry}
    (hchecks : session.bindChecks targetId registry now = .ok registration)
    (h : Touches targetId registry binding) :
    BindCall session targetId registry now (connectingCall binding registration now) :=
  ⟨rfl, .inl rfl, rfl, hchecks, h.registrations⟩

theorem subscribingCall_bindCall {connected : TargetProcessRegistry}
    (hchecks : session.bindChecks targetId registry now = .ok registration)
    (h : Touches targetId registry connected) :
    BindCall session targetId registry now (subscribingCall connected registration now) :=
  ⟨rfl, .inr rfl, rfl, hchecks, h.registrations⟩

theorem bindTarget_spec (session : DashboardSession) (targetId : String)
    (registry : TargetProcessRegistry) (ipc : TargetIpcPort) (now : OffsetDateTime) :
    Binds session targetId registry now (session.bindTarget targetId registry ipc now) := by
  have houtcome := bindTarget_outcome session targetId registry ipc now
  generalize session.bindTarget targetId registry ipc now = step at houtcome ⊢
  cases houtcome with
  | refused error hchecks =>
      refine ⟨fun other heq => ?_, Touches.refl _ _, Extends.refl _ _, fun _ h => .inl h, by simp⟩
      cases hchecks.symm.trans heq
      rfl
  | already registration hchecks hbound =>
      exact binds_past hchecks (Touches.refl _ _) (Extends.refl _ _) (fun _ h => .inl h) (by simp)
  | unconnected registration error hchecks hnew hmissing =>
      exact binds_past hchecks (Touches.refl _ _) (Extends.refl _ _) (fun _ h => .inl h) (by simp)
  | unreachable registration binding error hchecks hnew hbegin hconnect =>
      have hbinding := TargetProcessRegistry.beginBinding_touches hbegin
      refine binds_past hchecks ?_ (Extends.refl _ _) (fun _ h => .inl h) ?_
      · exact hbinding.trans
          (TargetProcessRegistry.markUnavailable_touches binding targetId _ now)
      · simpa using connectingCall_bindCall hchecks hbinding
  | unsubscribed registration binding connected state error hchecks hnew hbegin hconnect hmark
      hsubscribe =>
      have hbinding := TargetProcessRegistry.beginBinding_touches hbegin
      have hconnected := hbinding.trans (TargetProcessRegistry.markConnected_touches hmark)
      refine binds_past hchecks ?_ (Extends.refl _ _) (fun _ h => .inl h) ?_
      · exact hconnected.trans
          (TargetProcessRegistry.markUnavailable_touches connected targetId _ now)
      · simpa using ⟨connectingCall_bindCall hchecks hbinding,
          subscribingCall_bindCall hchecks hconnected⟩
  | bound registration binding connected state hchecks hnew hbegin hconnect hmark hsubscribe =>
      have hbinding := TargetProcessRegistry.beginBinding_touches hbegin
      have hconnected := hbinding.trans (TargetProcessRegistry.markConnected_touches hmark)
      refine binds_past hchecks hconnected ?_ ?_ ?_
      · exact ⟨rfl, rfl, [.state targetId state.payload], rfl, by simp [ServerMessage.targetId]⟩
      · intro other hmem
        rcases Finset.mem_insert.mp hmem with heq | hmem
        · exact .inr ⟨heq, rfl⟩
        · exact .inl hmem
      · simpa using ⟨connectingCall_bindCall hchecks hbinding,
          subscribingCall_bindCall hchecks hconnected⟩

/-- What the refresh after a command can do, for the target it was given. -/
structure Refreshes (session : DashboardSession) (targetId : String)
    (registry : TargetProcessRegistry) (step : SessionStep Unit) : Prop where
  touches : Touches targetId registry step.registry
  grows : Extends targetId session step.session
  bound : step.session.boundTargets = session.boundTargets
  calls : ∀ call ∈ step.calls, call.caller = .refreshTargetStateAfterCommand ∧
    call.method = .connectState ∧
    registry.registrations.lookup targetId = some call.registration

theorem refreshTargetStateAfterCommand_spec (session : DashboardSession) (targetId : String)
    (registry : TargetProcessRegistry) (ipc : TargetIpcPort) (now : OffsetDateTime) :
    Refreshes session targetId registry
      (session.refreshTargetStateAfterCommand targetId registry ipc now) := by
  unfold refreshTargetStateAfterCommand
  cases hlookup : registry.registration targetId with
  | error error => exact ⟨Touches.refl _ _, Extends.refl _ _, rfl, by simp⟩
  | ok registration =>
      dsimp only
      rw [TargetProcessRegistry.registration_ok] at hlookup
      cases ipc.connectState registration now with
      | error error =>
          exact ⟨TargetProcessRegistry.markUnavailable_touches registry targetId _ now,
            Extends.refl _ _, rfl, by simp [hlookup]⟩
      | ok state =>
          dsimp only
          cases hmark : registry.markConnected targetId state.stateGeneration now with
          | error error =>
              exact ⟨Touches.refl _ _, Extends.refl _ _, rfl, by simp [hlookup]⟩
          | ok connected =>
              exact ⟨TargetProcessRegistry.markConnected_touches hmark, extends_push rfl, rfl,
                by simp [hlookup]⟩

/-- What follows an answer of the target, for the target that the answer names. -/
structure Finishes (session : DashboardSession) (registry : TargetProcessRegistry)
    (answer : ControlCommandResult) (step : SessionStep ControlCommandResult) : Prop where
  touches : Touches answer.targetId registry step.registry
  quiet : ¬(answer.accepted ∧ answer.status = "completed") → step.registry = registry
  grows : Extends answer.targetId (session.push (.commandResult answer.targetId answer))
    step.session
  bound : step.session.boundTargets = session.boundTargets
  calls : ∀ call ∈ step.calls, call.caller = .refreshTargetStateAfterCommand ∧
    call.method = .connectState ∧
    registry.registrations.lookup answer.targetId = some call.registration

theorem Finishes.extends {session : DashboardSession} {answer : ControlCommandResult}
    {step : SessionStep ControlCommandResult} (h : Finishes session registry answer step) :
    Extends answer.targetId session step.session := by
  have hpush : Extends answer.targetId session
      (session.push (.commandResult answer.targetId answer)) := extends_push rfl
  exact hpush.trans h.grows

theorem acceptConnectionState_extends (session : DashboardSession) (targetId : String)
    (state : ConnectionState) :
    Extends targetId session (session.acceptConnectionState targetId state).2 ∧
      (session.acceptConnectionState targetId state).2.boundTargets = session.boundTargets := by
  unfold acceptConnectionState
  split
  · exact ⟨Extends.refl _ _, rfl⟩
  · exact ⟨extends_push rfl, rfl⟩

theorem finishCommand_spec (session : DashboardSession) (registry : TargetProcessRegistry)
    (ipc : TargetIpcPort) (now : OffsetDateTime) (answer : ControlCommandResult) :
    Finishes session registry answer (session.finishCommand registry ipc now answer) := by
  unfold finishCommand
  dsimp only
  split
  · rename_i hcompleted
    have hrefresh := refreshTargetStateAfterCommand_spec
      (session.push (.commandResult answer.targetId answer)) answer.targetId registry ipc now
    split
    · exact ⟨hrefresh.touches, fun h => absurd hcompleted h, hrefresh.grows, hrefresh.bound,
        hrefresh.calls⟩
    · obtain ⟨hgrows, hbound⟩ := acceptConnectionState_extends
        ((session.push (.commandResult answer.targetId answer)).refreshTargetStateAfterCommand
          answer.targetId registry ipc now).session answer.targetId .unavailable
      exact ⟨hrefresh.touches, fun h => absurd hcompleted h, hrefresh.grows.trans hgrows,
        hbound.trans hrefresh.bound, hrefresh.calls⟩
  · exact ⟨Touches.refl _ _, fun _ => rfl, Extends.refl _ _, rfl, by simp⟩

/-- The call that forwards a command. -/
def forwardingCall (registry : TargetProcessRegistry) (registration : TargetProcessRegistration)
    (prepared : PreparedCommand) (now : OffsetDateTime) : IpcCall :=
  ⟨.handleCommand, .forwardCommand prepared, registration, now, registry⟩

/-- The three ways a command can go. -/
inductive Handles (session : DashboardSession) (command : ClientCommand)
    (registry : TargetProcessRegistry) (ipc : TargetIpcPort) (now : OffsetDateTime) :
    SessionStep ControlCommandResult → Prop where
  | refused (error : RelayError)
      (hchecks : session.commandChecks command registry now = .error error) :
      Handles session command registry ipc now ⟨.error error, session, registry, []⟩
  | failed (identity : RemoteIdentity) (registration : TargetProcessRegistration)
      (prepared : PreparedCommand) (error : RelayError)
      (hchecks : session.commandChecks command registry now =
        .ok (identity, registration, prepared))
      (hforward : ipc.forwardCommand registration prepared now = .error error) :
      Handles session command registry ipc now
        ⟨.error error, session, registry, [forwardingCall registry registration prepared now]⟩
  | answered (identity : RemoteIdentity) (registration : TargetProcessRegistration)
      (prepared : PreparedCommand) (answer : ControlCommandResult)
      (finish : SessionStep ControlCommandResult)
      (hchecks : session.commandChecks command registry now =
        .ok (identity, registration, prepared))
      (hforward : ipc.forwardCommand registration prepared now = .ok answer)
      (hfinish : Finishes session registry answer finish) :
      Handles session command registry ipc now { finish with
        calls := forwardingCall registry registration prepared now :: finish.calls }

theorem handleCommand_spec (newV4 : Nat → Uuid) (session : DashboardSession)
    (command : ClientCommand) (registry : TargetProcessRegistry) (ipc : TargetIpcPort)
    (audit : AuditRecorder) (now : OffsetDateTime) :
    Handles session command registry ipc now
      (session.handleCommand newV4 command registry ipc audit now).1 := by
  unfold handleCommand
  cases hchecks : session.commandChecks command registry now with
  | error error => exact .refused error hchecks
  | ok checked =>
      obtain ⟨identity, registration, prepared⟩ := checked
      dsimp only
      cases hforward : ipc.forwardCommand registration prepared now with
      | error error => exact .failed identity registration prepared error hchecks hforward
      | ok answer =>
          exact .answered identity registration prepared answer _ hchecks hforward
            (finishCommand_spec session registry ipc now answer)

/-- `bind_target` leaves the session alone, or binds its target for an established one. -/
theorem bindTarget_session (session : DashboardSession) (targetId : String)
    (registry : TargetProcessRegistry) (ipc : TargetIpcPort) (now : OffsetDateTime) :
    (session.bindTarget targetId registry ipc now).session = session ∨
      session.ensureControlEstablished = .ok () ∧ ∃ payload,
        (session.bindTarget targetId registry ipc now).session = { session with
          boundTargets := insert targetId session.boundTargets
          outbox := session.outbox ++ [.state targetId payload]
          lastSeenAt := now } := by
  have houtcome := bindTarget_outcome session targetId registry ipc now
  generalize session.bindTarget targetId registry ipc now = step at houtcome ⊢
  cases houtcome with
  | bound registration binding connected state hchecks hnew hbegin hconnect hmark hsubscribe =>
      exact .inr ⟨(bindChecks_ok.mp hchecks).1, state.payload, rfl⟩
  | _ => exact .inl rfl

/-- What the refresh adds behind a result: at most one message. -/
inductive Follows (targetId : String) : List ServerMessage → Prop where
  | nothing : Follows targetId []
  | state (payload : Json) : Follows targetId [.state targetId payload]
  | unavailable : Follows targetId [.connectionState targetId .unavailable]

/-- The refresh queues the state it read, or nothing. -/
theorem refreshTargetStateAfterCommand_session (session : DashboardSession) (targetId : String)
    (registry : TargetProcessRegistry) (ipc : TargetIpcPort) (now : OffsetDateTime) :
    let step := session.refreshTargetStateAfterCommand targetId registry ipc now
    (∃ payload, step.result = .ok () ∧ step.session = session.push (.state targetId payload)) ∨
      ∃ error, step.result = .error error ∧ step.session = session := by
  unfold refreshTargetStateAfterCommand
  cases registry.registration targetId with
  | error error => exact .inr ⟨error, rfl, rfl⟩
  | ok registration =>
      dsimp only
      cases ipc.connectState registration now with
      | error error => exact .inr ⟨error, rfl, rfl⟩
      | ok state =>
          dsimp only
          cases registry.markConnected targetId state.stateGeneration now with
          | error error => exact .inr ⟨error, rfl, rfl⟩
          | ok connected => exact .inl ⟨state.payload, rfl, rfl⟩

/-- An answered command queues its result and at most one message behind it. -/
theorem finishCommand_reply (session : DashboardSession) (registry : TargetProcessRegistry)
    (ipc : TargetIpcPort) (now : OffsetDateTime) (answer : ControlCommandResult) :
    (session.finishCommand registry ipc now answer).result = .ok answer ∧
      ∃ follow, Follows answer.targetId follow ∧
        (session.finishCommand registry ipc now answer).session = { session with
          outbox := session.outbox ++ .commandResult answer.targetId answer :: follow } := by
  unfold finishCommand
  dsimp only
  split
  · rcases refreshTargetStateAfterCommand_session
        (session.push (.commandResult answer.targetId answer)) answer.targetId registry ipc now with
      ⟨payload, hresult, hsession⟩ | ⟨error, hresult, hsession⟩
    · rw [hresult]
      refine ⟨rfl, _, .state payload, ?_⟩
      dsimp only
      rw [hsession]
      simp [push]
    · rw [hresult]
      refine ⟨rfl, ?_⟩
      dsimp only
      rw [hsession, acceptConnectionState]
      split
      · exact ⟨_, .nothing, rfl⟩
      · exact ⟨_, .unavailable, by simp [push]⟩
  · exact ⟨rfl, _, .nothing, rfl⟩

/-- How the session changes with a command: not at all, or by the reply. -/
inductive Replies (session : DashboardSession) (step : SessionStep ControlCommandResult) :
    Prop where
  | refused (error : RelayError) (hresult : step.result = .error error)
      (hsession : step.session = session)
  | answered (answer : ControlCommandResult) (follow : List ServerMessage)
      (hfollow : Follows answer.targetId follow) (hresult : step.result = .ok answer)
      (hsession : step.session = { session with
        outbox := session.outbox ++ .commandResult answer.targetId answer :: follow })

theorem handleCommand_replies (newV4 : Nat → Uuid) (session : DashboardSession)
    (command : ClientCommand) (registry : TargetProcessRegistry) (ipc : TargetIpcPort)
    (audit : AuditRecorder) (now : OffsetDateTime) :
    Replies session (session.handleCommand newV4 command registry ipc audit now).1 := by
  unfold handleCommand
  cases session.commandChecks command registry now with
  | error error => exact .refused error rfl rfl
  | ok checked =>
      dsimp only
      cases ipc.forwardCommand checked.2.1 checked.2.2 now with
      | error error => exact .refused error rfl rfl
      | ok answer =>
          obtain ⟨hresult, follow, hfollow, hsession⟩ :=
            finishCommand_reply session registry ipc now answer
          exact .answered answer follow hfollow hresult hsession

/-- However a command goes, the session grows for one target. -/
theorem Handles.extends {session : DashboardSession} {command : ClientCommand}
    {ipc : TargetIpcPort} {step : SessionStep ControlCommandResult}
    (h : Handles session command registry ipc now step) :
    ∃ targetId, Extends targetId session step.session := by
  cases h with
  | refused => exact ⟨command.targetId, Extends.refl _ _⟩
  | failed => exact ⟨command.targetId, Extends.refl _ _⟩
  | answered identity registration prepared answer finish hchecks hforward hfinish =>
      exact ⟨answer.targetId, hfinish.extends⟩

end DashboardSession

def sampleIdentity : RemoteIdentity where
  clientIdentity :=
    "mtls_cert_fingerprint:e11e5c617a2ebe4f20120d68a0754776550445e1596292ddfa34e75b414a6a8f"
  subject := "CN=operator@example.test"
  issuer := "CN=operators-ca"
  serialNumber := "01"
  principal := "CN=operator@example.test"
  source := .mtls
  notBefore := .unixEpoch
  notAfter := .unixEpoch

def sampleCommand (targetId : String) : ClientCommand where
  commandId := "RestartChild-cmd"
  correlationId := none
  targetId := targetId
  command := .restartChild
  target := ⟨some "/root/payment_loop"⟩
  reason := "operator request"
  confirmed := false
  requestedBy := none

/-- Targets that answer every request and complete every command in the name of
`answerId`. -/
def sampleClient (answerId : String) : UnixNdjsonIpcClient where
  requestJsonBlocking _ request :=
    let result : Json :=
      match request with
      | .state targetId =>
          .object [("target_id", .string targetId),
            ("state", .object [("state_generation", .number (.posInt 1))])]
      | .subscription .. => .object []
      | .command .. =>
          .object [("result", .object [("target_id", .string answerId),
            ("accepted", .bool true), ("status", .string "completed")])]
    .ok (.object [("ok", .bool true), ("result", result)])

def sampleHello : ClientHello :=
  ⟨"browser-store-a", .default⟩

end SupervisorRelay
