import SupervisorRelay.Service.TraceSummary

/-! Every event of the process is allowed, under every schedule. The registry sums up the
events, and each dashboard knows of its own events who it is for and what it subscribed
to; no turn of another task takes that away. -/
namespace SupervisorRelay

open TargetProcessRegistry (WellFormed)

/-- What a dashboard task says of itself: whose session it is, that it subscribed to every
target it bound, and that the lists it sends were read off the registry. -/
structure DashboardTask.Tracked (task : DashboardTask) (past : List TaskEvent) : Prop where
  identity : task.run.session.remoteIdentity = some task.identity
  admitted : .admitted task.connection task.identity ∈ past
  bound : ∀ targetId ∈ task.run.session.boundTargets, ∃ call, .called call ∈ past ∧
    call.method = .subscribeEventLog ∧ call.registration.targetId = targetId
  listed : ∀ targets, .targetList targets ∈ task.run.sent ++ task.run.session.outbox →
    ∃ now, .published targets now ∈ past

theorem mem_eventsOf {part : TaskId} {event : TaskEvent} {trace : List (TaskId × TaskEvent)} :
    event ∈ Turns.eventsOf part trace ↔ (part, event) ∈ trace := by
  simp [Turns.eventsOf]

namespace DashboardTask

variable {policy : RegistrationPolicy} {registry : TargetProcessRegistry}
variable {trace : List (TaskId × TaskEvent)} {part : TaskId} {task next : DashboardTask}

theorem Tracked.of_becomes {past more : List TaskEvent} (h : Tracked task past)
    {left : DashboardSession} {audit : AuditRecorder} {calls : List IpcCall}
    (hnext : Becomes task next left audit calls)
    (hidentity : left.remoteIdentity = task.run.session.remoteIdentity)
    (hbound : ∀ targetId ∈ left.boundTargets,
      targetId ∈ task.run.session.boundTargets ∨ ∃ call, .called call ∈ more ∧
        call.method = .subscribeEventLog ∧ call.registration.targetId = targetId)
    (hlisted : ∀ targets, .targetList targets ∈ left.outbox →
      .targetList targets ∈ task.run.session.outbox ∨ ∃ now, .published targets now ∈ more) :
    Tracked next (past ++ more) := by
  have hdrained : next.run.session.remoteIdentity = left.remoteIdentity ∧
      next.run.session.boundTargets = left.boundTargets := by
    rcases hnext.session with hsession | hsession
    · rw [hsession]
      exact ⟨rfl, rfl⟩
    · rw [hsession]
      exact ⟨rfl, rfl⟩
  constructor
  · rw [hdrained.1, hnext.identity, hidentity, h.identity]
  · rw [hnext.connection, hnext.identity]
    exact List.mem_append_left more h.admitted
  · intro targetId hmem
    rw [hdrained.2] at hmem
    rcases hbound targetId hmem with hearlier | ⟨call, hcall, hsubscribed⟩
    · obtain ⟨call, hcall, hsubscribed⟩ := h.bound targetId hearlier
      exact ⟨call, List.mem_append_left more hcall, hsubscribed⟩
    · exact ⟨call, List.mem_append_right past hcall, hsubscribed⟩
  · intro targets hmem
    have hpast (hearlier : .targetList targets ∈ task.run.sent ++ task.run.session.outbox) :
        ∃ now, .published targets now ∈ past ++ more := by
      obtain ⟨now, hpublished⟩ := h.listed targets hearlier
      exact ⟨now, List.mem_append_left more hpublished⟩
    rcases hnext.messages _ hmem with hqueued | ⟨error, heq⟩
    · rcases List.mem_append.mp hqueued with hsent | houtbox
      · exact hpast (List.mem_append_left _ hsent)
      · rcases hlisted targets houtbox with hearlier | ⟨now, hpublished⟩
        · exact hpast (List.mem_append_right _ hearlier)
        · exact ⟨now, List.mem_append_right past hpublished⟩
    · cases heq

/-- Messages about one target are no lists. -/
theorem listed_of_extends {session left : DashboardSession} {targetId : String}
    (h : DashboardSession.Extends targetId session left) (targets : List VisibleTarget)
    (hmem : .targetList targets ∈ left.outbox) : .targetList targets ∈ session.outbox := by
  obtain ⟨extra, hextra, hall⟩ := h.outbox
  rw [hextra, List.mem_append] at hmem
  refine hmem.resolve_right fun hnew => ?_
  cases hall _ hnew

/-- The calls of one turn, each judged with the calls of the turn before it. -/
theorem guarded_calls {authority : WssAuthority}
    (h : GuardedTrace (EventAllowed authority policy) trace) (turn : Turn) {calls : List IpcCall}
    (hcalls : ∀ before call after, calls = before ++ call :: after →
      Calls (trace ++ [(part, .locked turn)] ++ (before.map .called).map (Prod.mk part)) part
        call) :
    GuardedTrace (EventAllowed authority policy)
      (trace ++ (.locked turn :: calls.map .called).map (Prod.mk part)) := by
  have hlocked : GuardedTrace (EventAllowed authority policy)
      (trace ++ [(part, .locked turn)]) := by
    refine h.extend fun before event after hsplit => ?_
    rcases List.singleton_eq_append_iff.mp hsplit with ⟨rfl, hevent⟩ | ⟨-, hevent⟩
    · cases hevent
      trivial
    · cases hevent
  have hcalled (before : List (TaskId × TaskEvent)) (event : TaskId × TaskEvent)
      (after : List (TaskId × TaskEvent))
      (hsplit : (calls.map TaskEvent.called).map (Prod.mk part) = before ++ event :: after) :
      EventAllowed authority policy (trace ++ [(part, .locked turn)] ++ before) event := by
    obtain ⟨first, second, hcallsSplit, rfl, hsecond⟩ := List.map_eq_append_iff.mp hsplit
    obtain ⟨head, rest, rfl, rfl, rfl⟩ := List.map_eq_cons_iff.mp hsecond
    obtain ⟨earlier, later, rfl, rfl, hlater⟩ := List.map_eq_append_iff.mp hcallsSplit
    obtain ⟨call, after, rfl, rfl, rfl⟩ := List.map_eq_cons_iff.mp hlater
    exact hcalls earlier call after rfl
  have hall := hlocked.extend hcalled
  rwa [List.append_assoc] at hall

theorem calls_quiet (turn : Turn) (calls : List IpcCall) (other : TaskId)
    (registration : TargetProcessRegistration) :
    (other, TaskEvent.registered registration) ∉
      (TaskEvent.locked turn :: calls.map .called).map (Prod.mk part) := by
  simp

/-- A subscription is behind each target that a binding adds. -/
theorem bindTarget_subscribes (hwf : WellFormed registry) (session : DashboardSession)
    (targetId : String) (ipc : TargetIpcPort) (now : OffsetDateTime) :
    let step := session.bindTarget targetId registry ipc now
    ∀ other ∈ step.session.boundTargets, other ∈ session.boundTargets ∨
      ∃ call ∈ step.calls, call.method = .subscribeEventLog ∧
        call.registration.targetId = other := by
  intro step
  have houtcome := DashboardSession.bindTarget_outcome session targetId registry ipc now
  change DashboardSession.BindOutcome session targetId registry ipc now step at houtcome
  generalize step = result at houtcome ⊢
  cases houtcome with
  | bound registration binding connected state hchecks hnew hbegin hconnect hmark hsubscribe =>
      intro other hmem
      rcases Finset.mem_insert.mp hmem with rfl | hmem
      · obtain ⟨-, hlookup, -⟩ := DashboardSession.bindChecks_ok.mp hchecks
        exact .inr ⟨DashboardSession.subscribingCall connected registration now, by simp, rfl,
          hwf.registrationId other registration hlookup⟩
      · exact .inl hmem
  | _ => exact fun other hmem => .inl hmem

theorem called_quiet (before : List IpcCall) (turn : Turn) (other : TaskId)
    (registration : TargetProcessRegistration) :
    (other, TaskEvent.registered registration) ∉
      [(part, TaskEvent.locked turn)] ++ (before.map .called).map (Prod.mk part) := by
  simp

theorem bindCall_calls (h : Summary policy registry trace)
    (htracked : Tracked task (Turns.eventsOf part trace)) {targetId : String}
    {now : OffsetDateTime} {call : IpcCall}
    (hcall : DashboardSession.BindCall task.run.session targetId registry now call)
    (turn : Turn) (before : List IpcCall) :
    Calls (trace ++ [(part, .locked turn)] ++ (before.map .called).map (Prod.mk part)) part
      call := by
  obtain ⟨-, hlookup, hactive⟩ := DashboardSession.bindChecks_ok.mp hcall.checks
  obtain ⟨-, hlease⟩ := TargetProcessRegistry.isActive_iff.mp hactive
  have hid := h.wellFormed.registrationId targetId call.registration hlookup
  rw [List.append_assoc]
  constructor
  · exact ⟨_, _, List.mem_append_left _ (mem_eventsOf.mp htracked.admitted)⟩
  · rw [lastRegistered_append _ _ _ fun other registration hmem =>
      absurd hmem (called_quiet before turn other registration), ← h.last, hid]
    exact hlookup
  · rw [hcall.caller, hcall.time]
    rcases hcall.method with hmethod | hmethod
    · rw [hmethod]
      exact hlease
    · rw [hmethod]
      exact hlease

theorem forwardingCall_calls (h : Summary policy registry trace)
    (htracked : Tracked task (Turns.eventsOf part trace)) {command : ClientCommand}
    {now : OffsetDateTime} {identity : RemoteIdentity}
    {registration : TargetProcessRegistration} {prepared : PreparedCommand}
    (hchecks : task.run.session.commandChecks command registry now =
      .ok (identity, registration, prepared)) (turn : Turn) (before : List IpcCall) :
    Calls (trace ++ [(part, .locked turn)] ++ (before.map .called).map (Prod.mk part)) part
      (DashboardSession.forwardingCall registry registration prepared now) := by
  obtain ⟨-, hidentity, hbound, hlookup, hactive, hsupported, hprepared⟩ :=
    DashboardSession.commandChecks_ok.mp hchecks
  obtain ⟨⟨hcommandId, -, hreason, hconfirmed⟩, rfl⟩ := prepareClientCommand_ok.mp hprepared
  obtain ⟨-, hlease⟩ := TargetProcessRegistry.isActive_iff.mp hactive
  have hid := h.wellFormed.registrationId command.targetId registration hlookup
  rw [htracked.identity] at hidentity
  cases hidentity
  rw [List.append_assoc]
  constructor
  · exact ⟨_, _, List.mem_append_left _ (mem_eventsOf.mp htracked.admitted)⟩
  · rw [lastRegistered_append _ _ _ fun other registration hmem =>
      absurd hmem (called_quiet before turn other registration), ← h.last]
    dsimp only [DashboardSession.forwardingCall]
    rw [hid]
    exact hlookup
  · refine ⟨hlease, ?_⟩
    constructor
    · exact hid.symm
    · obtain ⟨call, hcall, hmethod, htarget⟩ := htracked.bound command.targetId hbound
      exact ⟨call, List.mem_append_left _ (mem_eventsOf.mp hcall), hmethod,
        htarget.trans hid.symm⟩
    · exact hsupported
    · exact hcommandId
    · exact hreason
    · intro hdangerous
      apply hconfirmed
      dsimp only at hdangerous
      rcases hdangerous with hname | hname | hname <;> rw [hname] <;> rfl
    · exact ⟨_, _, List.mem_append_left _ (mem_eventsOf.mp htracked.admitted), rfl⟩

theorem refreshCall_calls (h : Summary policy registry trace)
    (htracked : Tracked task (Turns.eventsOf part trace)) {targetId : String} {call : IpcCall}
    (hcaller : call.caller = .refreshTargetStateAfterCommand)
    (hmethod : call.method = .connectState)
    (hlookup : registry.registrations.lookup targetId = some call.registration) (turn : Turn)
    {forwarding : IpcCall} {before : List IpcCall} (hforwarding : forwarding ∈ before)
    (hcommand : forwarding.caller = .handleCommand) :
    Calls (trace ++ [(part, .locked turn)] ++ (before.map .called).map (Prod.mk part)) part
      call := by
  have hid := h.wellFormed.registrationId targetId call.registration hlookup
  have hmem : (part, TaskEvent.called forwarding) ∈
      (before.map TaskEvent.called).map (Prod.mk part) :=
    List.mem_map_of_mem (List.mem_map_of_mem hforwarding)
  constructor
  · rw [List.append_assoc]
    exact ⟨_, _, List.mem_append_left _ (mem_eventsOf.mp htracked.admitted)⟩
  · rw [List.append_assoc, lastRegistered_append _ _ _ fun other registration hmem =>
      absurd hmem (called_quiet before turn other registration), ← h.last, hid]
    exact hlookup
  · rw [hcaller, hmethod]
    exact ⟨forwarding, List.mem_append_right _ hmem, hcommand⟩

/-- What a turn of a dashboard keeps. -/
structure Keeps (authority : WssAuthority) (policy : RegistrationPolicy)
    (trace : List (TaskId × TaskEvent)) (part : TaskId)
    (result : TargetProcessRegistry × DashboardTask × List TaskEvent) : Prop where
  summary : Summary policy result.1 (trace ++ result.2.2.map (Prod.mk part))
  guarded : GuardedTrace (EventAllowed authority policy)
    (trace ++ result.2.2.map (Prod.mk part))
  tracked : Tracked result.2.1 (Turns.eventsOf part trace ++ result.2.2)

variable {authority : WssAuthority}

theorem binds_keeps (h : Summary policy registry trace)
    (hguarded : GuardedTrace (EventAllowed authority policy) trace)
    (htracked : Tracked task (Turns.eventsOf part trace)) (turn : Turn) (targetId : String)
    {step : SessionStep Unit}
    (hstep : task.run.session.bindTarget targetId registry turn.ipc.port turn.now = step)
    (hnext : Becomes task next step.session task.run.audit step.calls) :
    Keeps authority policy trace part
      (step.registry, next, .locked turn :: step.calls.map .called) := by
  have hspec := DashboardSession.bindTarget_spec task.run.session targetId registry
    turn.ipc.port turn.now
  have hsettled := h.settled.bindTarget task.run.session targetId turn.ipc.port turn.now
  have hbound := bindTarget_subscribes h.wellFormed task.run.session targetId turn.ipc.port
    turn.now
  rw [hstep] at hspec hsettled hbound
  constructor
  · exact h.of_touches hspec.touches hsettled (calls_quiet turn step.calls)
  · refine guarded_calls hguarded turn fun before call after hsplit => ?_
    exact bindCall_calls h htracked (hspec.calls call (by simp [hsplit])) turn before
  · refine htracked.of_becomes hnext hspec.grows.remoteIdentity (fun other hmem => ?_)
      fun targets hmem => .inl (listed_of_extends hspec.grows targets hmem)
    rcases hbound other hmem with hearlier | ⟨call, hcall, hsubscribed⟩
    · exact .inl hearlier
    · exact .inr ⟨call, List.mem_cons_of_mem _ (List.mem_map_of_mem hcall), hsubscribed⟩

theorem handles_keeps (h : Summary policy registry trace)
    (hguarded : GuardedTrace (EventAllowed authority policy) trace)
    (htracked : Tracked task (Turns.eventsOf part trace)) (turn : Turn)
    (command : ClientCommand) {handled : SessionStep ControlCommandResult × AuditRecorder}
    (hhandled : task.run.session.handleCommand task.connection.newV4 command registry
      turn.ipc.port task.run.audit turn.now = handled)
    (hnext : Becomes task next handled.1.session handled.2 handled.1.calls) :
    Keeps authority policy trace part
      (handled.1.registry, next, .locked turn :: handled.1.calls.map .called) := by
  have hspec := DashboardSession.handleCommand_spec task.connection.newV4 task.run.session
    command registry turn.ipc.port task.run.audit turn.now
  have hsettled := h.settled.handleCommand task.connection.newV4 task.run.session command
    turn.ipc.port task.run.audit turn.now
  rw [hhandled] at hspec hsettled
  obtain ⟨step, audit⟩ := handled
  dsimp only at hspec hsettled hnext ⊢
  cases hspec with
  | refused error hchecks =>
      refine ⟨h.quiet (calls_quiet turn []), ?_, ?_⟩
      · exact guarded_calls hguarded turn (by simp)
      · exact htracked.of_becomes hnext rfl (fun _ => .inl) fun _ => .inl
  | failed identity registration prepared error hchecks hforward =>
      refine ⟨h.quiet (calls_quiet turn _), ?_, ?_⟩
      · refine guarded_calls hguarded turn fun before call after hsplit => ?_
        rcases List.singleton_eq_append_iff.mp hsplit with ⟨rfl, hcall⟩ | ⟨-, hcall⟩
        · cases hcall
          exact forwardingCall_calls h htracked hchecks turn []
        · cases hcall
      · exact htracked.of_becomes hnext rfl (fun _ => .inl) fun _ => .inl
  | answered identity registration prepared answer finish hchecks hforward hfinish =>
      refine ⟨h.of_touches hfinish.touches hsettled (calls_quiet turn _), ?_, ?_⟩
      · refine guarded_calls hguarded turn fun before call after hsplit => ?_
        cases before with
        | nil =>
            cases hsplit
            exact forwardingCall_calls h htracked hchecks turn []
        | cons forwarding before =>
            obtain ⟨rfl, hrest⟩ := List.cons_eq_cons.mp hsplit
            obtain ⟨hcaller, hmethod, hlookup⟩ := hfinish.calls call (by simp [hrest])
            exact refreshCall_calls h htracked hcaller hmethod hlookup turn
              List.mem_cons_self rfl
      · refine htracked.of_becomes hnext hfinish.extends.remoteIdentity
          (fun other hmem => .inl ?_)
          fun targets hmem => .inl (listed_of_extends hfinish.extends targets hmem)
        rw [← hfinish.bound]
        exact hmem

/-- A turn that writes nothing, with what it is allowed to leave. -/
theorem quiet_keeps (h : Summary policy registry trace)
    (hguarded : GuardedTrace (EventAllowed authority policy) trace) {events : List TaskEvent}
    (hallowed : ∀ event ∈ events, (∃ turn, event = .locked turn) ∨
      ∃ now, event = .published (registry.activeTargets now) now)
    (htracked : Tracked next (Turns.eventsOf part trace ++ events)) :
    Keeps authority policy trace part (registry, next, events) := by
  have hnone (other : TaskId) (registration : TargetProcessRegistration) :
      (other, TaskEvent.registered registration) ∉ events.map (Prod.mk part) := by
    intro hmem
    obtain ⟨event, hevent, heq⟩ := List.mem_map.mp hmem
    cases heq
    rcases hallowed _ hevent with ⟨turn, heq⟩ | ⟨now, heq⟩
    · cases heq
    · cases heq
  refine ⟨h.quiet hnone, hguarded.extend fun before event after hsplit => ?_, htracked⟩
  obtain ⟨turned, hturned, rfl⟩ := List.mem_map.mp
    (show event ∈ events.map (Prod.mk part) by simp [hsplit])
  have hbefore (other : TaskId) (registration : TargetProcessRegistration) :
      (other, TaskEvent.registered registration) ∉ before :=
    fun hmem => hnone other registration (by simp [hsplit, hmem])
  rcases hallowed turned hturned with ⟨turn, rfl⟩ | ⟨now, rfl⟩
  · trivial
  · exact (h.quiet hbefore).listsLive now

theorem step_keeps (h : Summary policy registry trace)
    (hguarded : GuardedTrace (EventAllowed authority policy) trace)
    (htracked : Tracked task (Turns.eventsOf part trace)) (now : ClockReading)
    (ipc : UnixNdjsonIpcClient) :
    Keeps authority policy trace part (task.step registry now ipc) := by
  have hacts := step_acts registry task now ipc
  generalize task.step registry now ipc = result at hacts ⊢
  cases hacts with
  | publishes next hnext =>
      refine quiet_keeps h hguarded (by simp) ?_
      refine htracked.of_becomes hnext rfl (fun _ => .inl) fun targets hmem => ?_
      rcases List.mem_append.mp hmem with hearlier | hlist
      · exact .inl hearlier
      · cases List.mem_singleton.mp hlist
        exact .inr ⟨now, by simp⟩
  | binds targetId step hstep next hnext =>
      exact binds_keeps h hguarded htracked _ targetId hstep hnext
  | handles command handled hhandled next hnext =>
      exact handles_keeps h hguarded htracked _ command hhandled hnext
  | rests next locks hnext hlocks =>
      refine quiet_keeps h hguarded (fun event hmem => ?_)
        (htracked.of_becomes hnext rfl (fun _ => .inl) fun _ => .inl)
      rcases hlocks with rfl | rfl
      · cases hmem
      · exact .inl ⟨_, List.mem_singleton.mp hmem⟩

end DashboardTask

def Task.Tracked : Task → List TaskEvent → Prop
  | .dashboard task, past => task.Tracked past
  | _, _ => True

/-- The registry sums up the events, and every event is allowed. A task owes the others
nothing more: what it says of itself does not look at the registry. -/
def RelayProcess.traceContract (host : RelayHost) (policy : RegistrationPolicy) :
    Turns.Contract TaskId (RelayProcess.tasks host) where
  store registry trace := Summary policy registry trace ∧
    GuardedTrace (EventAllowed host.toWssAuthority policy) trace
  guarantee _ _ _ := True
  part _ _ task past := task.Tracked past
  keeps part registry task turn trace h htracked := by
    obtain ⟨hsummary, hguarded⟩ := h
    have hsteps := Task.step_steps host registry task turn
    dsimp only [RelayProcess.tasks]
    generalize task.step host registry turn = result at hsteps ⊢
    cases hsteps with
    | registers acks connection =>
        have hrounds := registrationRound_rounds host registry acks connection
        generalize registrationRound host registry acks connection = round at hrounds ⊢
        cases hrounds with
        | keeps status acks =>
            rw [List.map_nil, List.append_nil]
            exact ⟨⟨hsummary, hguarded⟩, trivial, trivial⟩
        | registers request registration changed status acks hcall =>
            refine ⟨⟨hsummary.registers hcall part,
              hguarded.extend fun before event after hsplit => ?_⟩, trivial, trivial⟩
            rcases List.singleton_eq_append_iff.mp hsplit with ⟨rfl, hevent⟩ | ⟨-, hevent⟩
            · cases hevent
              rw [List.append_nil]
              exact hsummary.registrable hcall
            · cases hevent
    | rejects task hended =>
        rw [List.map_nil, List.append_nil]
        refine ⟨⟨hsummary, hguarded⟩, trivial, ?_⟩
        rcases hended with ⟨error, rfl⟩ | rfl
        · trivial
        · trivial
    | spawns connection identity hidentity =>
        obtain ⟨hremote, hbound, hlisted⟩ :=
          DashboardTask.spawned_session connection identity registry
        obtain ⟨hconnection, hself, -⟩ :=
          DashboardTask.spawned_fields connection identity registry
        refine ⟨⟨hsummary.quiet (by simp), hguarded.extend fun before event after hsplit => ?_⟩,
          trivial, ?_⟩
        · rcases List.singleton_eq_append_iff.mp hsplit with ⟨rfl, hevent⟩ | ⟨-, hevent⟩
          · cases hevent
            exact hidentity
          · cases hevent
        · constructor
          · rw [hself]
            exact hremote
          · rw [hconnection, hself]
            simp
          · rw [hbound]
            simp
          · exact fun targets hmem => absurd hmem (hlisted targets)
    | advances dashboard now ipc =>
        have hkeeps := DashboardTask.step_keeps hsummary hguarded htracked now ipc
        exact ⟨⟨hkeeps.summary, hkeeps.guarded⟩, trivial, hkeeps.tracked⟩
    | passes task =>
        rw [List.map_nil, List.append_nil, List.append_nil]
        exact ⟨⟨hsummary, hguarded⟩, trivial, htracked⟩
  stable _ _ _ _ _ _ _ _ h := h

theorem RelayProcess.traceContract_start (host : RelayHost) (policy : RegistrationPolicy) :
    (traceContract host policy).Holds (start policy) [] where
  store := ⟨Summary.new policy, GuardedTrace.nil _⟩
  parts part := by
    cases part with
    | registrationLoop => trivial
    | connection number => trivial

theorem RelayProcess.trace_allowed (host : RelayHost) (policy : RegistrationPolicy)
    (schedule : List (TaskId × TaskTurn)) :
    let trace := (machine host).history (.start policy) schedule
    (traceContract host policy).Holds ((machine host).final (.start policy) schedule) trace :=
  (traceContract_start host policy).run schedule

/-- Whatever the order of turns, and whatever peers and targets do: each call of a target
comes from an admitted connection, to the target's last acknowledged record and under its
running lease. A forwarded command names the identity that admitted the connection, and
is one that the target declares and the connection subscribed to. -/
theorem process_calls_allowed (host : RelayHost) (policy : RegistrationPolicy)
    (schedule : List (TaskId × TaskTurn)) {before after : List (TaskId × TaskEvent)}
    {part : TaskId} {call : IpcCall}
    (h : (RelayProcess.machine host).history (.start policy) schedule =
      before ++ (part, .called call) :: after) :
    Calls before part call ∧ ∀ connection identity,
      (part, .admitted connection identity) ∈ before →
        wssIdentity host.toWssAuthority connection = .returned (.ok identity) := by
  obtain ⟨-, hguarded⟩ := (RelayProcess.trace_allowed host policy schedule).store
  rw [h] at hguarded
  refine ⟨hguarded before _ after rfl, fun connection identity hmem => ?_⟩
  obtain ⟨earlier, later, rfl⟩ := List.append_of_mem hmem
  exact hguarded earlier (part, .admitted connection identity)
    (later ++ (part, .called call) :: after) (by simp)

def TaskEvent.forwarded? : TaskEvent → Option IpcCall
  | .called call =>
      match call.method with
      | .forwardCommand _ => some call
      | _ => none
  | _ => none

theorem TaskEvent.forwarded?_eq_some {event : TaskEvent} {call : IpcCall}
    (h : event.forwarded? = some call) :
    event = .called call ∧ ∃ command, call.method = .forwardCommand command := by
  unfold TaskEvent.forwarded? at h
  split at h
  · split at h
    · rename_i hmethod
      cases h
      exact ⟨rfl, _, hmethod⟩
    · cases h
  · cases h

theorem process_calls_allowed_sample :
    ∃ before part call after, sampleHistory = before ++ (part, .called call) :: after ∧
      (∃ command, call.method = .forwardCommand command) ∧ Calls before part call := by
  have hforward : sampleHistory.any (fun event => event.2.forwarded?.isSome) = true := by
    decide +kernel
  obtain ⟨⟨part, event⟩, hmem, hevent⟩ := List.any_eq_true.mp hforward
  obtain ⟨call, hcall⟩ := Option.isSome_iff_exists.mp hevent
  obtain ⟨rfl, hmethod⟩ := TaskEvent.forwarded?_eq_some hcall
  obtain ⟨before, after, hsplit⟩ := List.append_of_mem hmem
  have hallowed := process_calls_allowed sampleHost (samplePolicy 120) sampleSchedule hsplit
  exact ⟨before, part, call, after, hsplit, hmethod, hallowed.1⟩

/-- Each target list that a dashboard is sent was read at one time of the run, and names
the targets whose last acknowledged lease ran then: all of them, once, as declared, and
with a connection that nobody was working on. -/
theorem process_lists_live (host : RelayHost) (policy : RegistrationPolicy)
    (schedule : List (TaskId × TaskTurn)) {number : Nat} {task : DashboardTask}
    (htask : ((RelayProcess.machine host).final (.start policy) schedule).parts
      (.connection number) = .dashboard task)
    {targets : List VisibleTarget} (hsent : .targetList targets ∈ task.run.sent) :
    ∃ before now after,
      (RelayProcess.machine host).history (.start policy) schedule =
          before ++ (.connection number, .published targets now) :: after ∧
        ListsLive before targets now := by
  have hholds := RelayProcess.trace_allowed host policy schedule
  obtain ⟨-, hguarded⟩ := hholds.store
  have htracked : Task.Tracked
      (((RelayProcess.machine host).final (.start policy) schedule).parts (.connection number)) _ :=
    hholds.parts (.connection number)
  rw [htask] at htracked
  obtain ⟨now, hpublished⟩ := htracked.listed targets (List.mem_append_left _ hsent)
  obtain ⟨before, after, hsplit⟩ := List.append_of_mem (mem_eventsOf.mp hpublished)
  exact ⟨before, now, after, hsplit, hguarded before _ after hsplit⟩

def ServerMessage.hasTargets : ServerMessage → Bool
  | .targetList targets => !targets.isEmpty
  | _ => false

theorem ServerMessage.hasTargets_eq_true {message : ServerMessage}
    (h : message.hasTargets = true) : ∃ targets, message = .targetList targets ∧ targets ≠ [] := by
  cases message with
  | targetList targets => exact ⟨targets, rfl, by simpa [hasTargets] using h⟩
  | _ => cases h

theorem process_lists_live_sample :
    ∃ before targets now after, targets ≠ [] ∧
      sampleHistory = before ++ (.connection 0, .published targets now) :: after ∧
        ListsLive before targets now := by
  have hlists : ((sampleProcess.parts (.connection 0)).dashboard?.map fun task =>
      task.run.sent.any (·.hasTargets)) = some true := by decide +kernel
  obtain ⟨task, htask, hsent⟩ := Option.map_eq_some_iff.mp hlists
  obtain ⟨message, hmem, hlist⟩ := List.any_eq_true.mp hsent
  obtain ⟨targets, rfl, hne⟩ := ServerMessage.hasTargets_eq_true hlist
  obtain ⟨before, now, after, hsplit, hlive⟩ := process_lists_live sampleHost (samplePolicy 120)
    sampleSchedule (Task.dashboard?_eq_some.mp htask) hmem
  exact ⟨before, targets, now, after, hne, hsplit, hlive⟩

/-- Each acknowledged record is one the policy allows, under the owner and the first time
of its target, and on a path that no other target holds then. The registry of the process
is at every moment the last acknowledged records. -/
theorem process_registrations (host : RelayHost) (policy : RegistrationPolicy)
    (schedule : List (TaskId × TaskTurn)) :
    let trace := (RelayProcess.machine host).history (.start policy) schedule
    (∀ before part registration after, trace = before ++ (part, .registered registration) :: after →
        Registrable policy before registration) ∧
      ∀ targetId,
        ((RelayProcess.machine host).final (.start policy) schedule).store.registrations.lookup
          targetId = lastRegistered targetId trace := by
  intro trace
  obtain ⟨hsummary, hguarded⟩ := (RelayProcess.trace_allowed host policy schedule).store
  exact ⟨fun before part registration after hsplit => hguarded before _ after hsplit,
    hsummary.last⟩

def TaskEvent.registers : TaskEvent → Bool
  | .registered _ => true
  | _ => false

theorem process_registrations_sample :
    ∃ before part registration after,
      sampleHistory = before ++ (part, .registered registration) :: after ∧
        Registrable (samplePolicy 120) before registration := by
  have hregistered : (sampleHistory.head?.any (·.2.registers)) = true := by decide +kernel
  obtain ⟨⟨part, event⟩, hhead, hevent⟩ := (Option.any_eq_true _ _).mp hregistered
  obtain ⟨after, hsplit⟩ := List.head?_eq_some_iff.mp hhead
  cases event with
  | registered registration =>
      have hallowed := (process_registrations sampleHost (samplePolicy 120) sampleSchedule).1 []
        part registration after hsplit
      exact ⟨[], part, registration, after, hsplit, hallowed⟩
  | _ => cases hevent

end SupervisorRelay
