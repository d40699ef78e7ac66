import SupervisorRelay.Session.Gate

/-! The audit log against the commands forwarded. The effects of a run are listed in
program order, so that a recording and the call it is about can be told apart. -/
namespace SupervisorRelay

/-- A call of `forward_command`, with the port that answers it. -/
structure Forward where
  identity : RemoteIdentity
  registration : TargetProcessRegistration
  command : PreparedCommand
  registry : TargetProcessRegistry
  ipc : TargetIpcPort
  now : OffsetDateTime

/-- An effect of a session method outside the session. -/
inductive CommandEffect where
  | recorded (event : AuditEvent)
  | forwarded (forward : Forward)
  | called (call : IpcCall)

/-- What an audit event says, without its random id. -/
structure AuditFact where
  identityPrincipal : String
  targetId : String
  commandId : String
  command : String
  target : Option String
  reason : String
  result : AuditResult
  detail : String
  occurredAt : OffsetDateTime
deriving DecidableEq

def AuditEvent.fact (event : AuditEvent) : AuditFact where
  identityPrincipal := event.identityPrincipal
  targetId := event.targetId
  commandId := event.commandId
  command := event.command
  target := event.target
  reason := event.reason
  result := event.result
  detail := event.detail
  occurredAt := event.occurredAt

namespace Forward

def answer (forward : Forward) : RelayResult ControlCommandResult :=
  forward.ipc.forwardCommand forward.registration forward.command forward.now

/-- The principal, the target and the command of a forwarding, with one outcome of it. -/
def fact (forward : Forward) (result : AuditResult) (detail : String) : AuditFact where
  identityPrincipal := forward.identity.principal
  targetId := forward.command.targetId
  commandId := forward.command.commandId
  command := forward.command.command.debugName
  target := forward.command.target.childPath
  reason := forward.command.reason
  result := result
  detail := detail
  occurredAt := forward.now

/-- The two events a forwarding owes. -/
def facts (forward : Forward) : List AuditFact :=
  [forward.fact .accepted "accepted",
    match forward.answer with
    | .ok result => forward.fact .completed result.status
    | .error error => forward.fact .rejected error.message]

theorem facts_error {forward : Forward} {error : RelayError} (h : forward.answer = .error error) :
    forward.facts = [forward.fact .accepted "accepted", forward.fact .rejected error.message] := by
  rw [facts, h]

theorem facts_ok {forward : Forward} {result : ControlCommandResult}
    (h : forward.answer = .ok result) :
    forward.facts = [forward.fact .accepted "accepted", forward.fact .completed result.status] := by
  rw [facts, h]

def call (forward : Forward) : IpcCall :=
  DashboardSession.forwardingCall forward.registry forward.registration forward.command forward.now

end Forward

namespace CommandEffect

def event : CommandEffect → Option AuditEvent
  | recorded event => some event
  | _ => none

def forward : CommandEffect → Option Forward
  | forwarded forward => some forward
  | _ => none

def call : CommandEffect → Option IpcCall
  | recorded _ => none
  | forwarded forward => some forward.call
  | called call => some call

end CommandEffect

/-- The event that the next recording appends. -/
def AuditRecorder.next (newV4 : Nat → Uuid) (recorder : AuditRecorder) (fact : AuditFact) :
    AuditEvent where
  auditId := newV4 recorder.events.length
  identityPrincipal := fact.identityPrincipal
  targetId := fact.targetId
  commandId := fact.commandId
  command := fact.command
  target := fact.target
  reason := fact.reason
  result := fact.result
  detail := fact.detail
  occurredAt := fact.occurredAt

namespace DashboardSession

/-- The effects of `handle_command` in program order: the acceptance is recorded, the
command forwarded, its outcome recorded, and only then the state read again. -/
def commandEffects (newV4 : Nat → Uuid) (session : DashboardSession) (command : ClientCommand)
    (registry : TargetProcessRegistry) (ipc : TargetIpcPort) (audit : AuditRecorder)
    (now : OffsetDateTime) : List CommandEffect :=
  match session.commandChecks command registry now with
  | .error _ => []
  | .ok (identity, registration, prepared) =>
    let forward : Forward := ⟨identity, registration, prepared, registry, ipc, now⟩
    let accepted := audit.next newV4 (forward.fact .accepted "accepted")
    let audit := audit.recordAccepted newV4 identity prepared now
    .recorded accepted :: .forwarded forward ::
      match forward.answer with
      | .error error => [.recorded (audit.next newV4 (forward.fact .rejected error.message))]
      | .ok result =>
          .recorded (audit.next newV4 (forward.fact .completed result.status)) ::
            (session.finishCommand registry ipc now result).calls.map .called

theorem filterMap_called (calls : List IpcCall) :
    (calls.map CommandEffect.called).filterMap CommandEffect.event = [] ∧
      (calls.map CommandEffect.called).filterMap CommandEffect.forward = [] ∧
      (calls.map CommandEffect.called).filterMap CommandEffect.call = calls := by
  simp only [List.filterMap_map]
  refine ⟨?_, ?_, ?_⟩
  · simp [CommandEffect.event]
  · simp [CommandEffect.forward]
  · exact List.filterMap_some

/-- The effects are those of `handle_command`: what it records and what it calls. -/
theorem handleCommand_effects (newV4 : Nat → Uuid) (session : DashboardSession)
    (command : ClientCommand) (registry : TargetProcessRegistry) (ipc : TargetIpcPort)
    (audit : AuditRecorder) (now : OffsetDateTime) :
    let handled := session.handleCommand newV4 command registry ipc audit now
    let effects := session.commandEffects newV4 command registry ipc audit now
    handled.2.events = audit.events ++ effects.filterMap CommandEffect.event ∧
      handled.1.calls = effects.filterMap CommandEffect.call := by
  unfold handleCommand commandEffects
  cases session.commandChecks command registry now with
  | error error => exact ⟨(List.append_nil _).symm, rfl⟩
  | ok checked =>
      obtain ⟨identity, registration, prepared⟩ := checked
      dsimp only [Forward.answer]
      cases ipc.forwardCommand registration prepared now with
      | error error => exact ⟨List.append_assoc _ _ _, rfl⟩
      | ok answer =>
          obtain ⟨hevents, -, hcalls⟩ :=
            filterMap_called (session.finishCommand registry ipc now answer).calls
          constructor
          · simp only [List.filterMap_cons, CommandEffect.event, hevents]
            exact List.append_assoc _ _ _
          · simp only [List.filterMap_cons, CommandEffect.call, hcalls]
            rfl

end DashboardSession

/-- The effect directly before a forwarding records its acceptance. -/
def AcceptedBefore (before : List CommandEffect) : CommandEffect → Prop
  | .forwarded forward => ∃ earlier event, before = earlier ++ [.recorded event] ∧
      event.fact = forward.fact .accepted "accepted"
  | _ => True

/-- Each forwarding of the one identity is recorded by two events, one of them before it. -/
structure Traced (identity : Option RemoteIdentity) (effects : List CommandEffect) : Prop where
  paired : (effects.filterMap CommandEffect.event).map AuditEvent.fact =
    (effects.filterMap CommandEffect.forward).flatMap Forward.facts
  accepted : GuardedTrace AcceptedBefore effects
  identity : ∀ forward, .forwarded forward ∈ effects → identity = some forward.identity

theorem Traced.nil (identity : Option RemoteIdentity) : Traced identity [] where
  paired := rfl
  accepted := GuardedTrace.nil _
  identity forward hmem := by cases hmem

theorem Traced.append {identity : Option RemoteIdentity} {past new : List CommandEffect}
    (h : Traced identity past) (hnew : Traced identity new) : Traced identity (past ++ new) where
  paired := by
    rw [List.filterMap_append, List.filterMap_append, List.map_append, List.flatMap_append,
      h.paired, hnew.paired]
  accepted := by
    refine h.accepted.concat (fun earlier past effect hbefore => ?_) hnew.accepted
    cases effect with
    | forwarded forward =>
        obtain ⟨first, event, rfl, hfact⟩ := hbefore
        exact ⟨earlier ++ first, event, (List.append_assoc _ _ _).symm, hfact⟩
    | recorded event => trivial
    | called call => trivial
  identity forward hmem := by
    rcases List.mem_append.mp hmem with hmem | hmem
    · exact h.identity forward hmem
    · exact hnew.identity forward hmem

theorem traced_called (identity : Option RemoteIdentity) (calls : List IpcCall) :
    Traced identity (calls.map .called) where
  paired := by
    obtain ⟨hevents, hforwards, -⟩ := DashboardSession.filterMap_called calls
    rw [hevents, hforwards]
    rfl
  accepted := by
    intro before effect after hsplit
    have hmem : effect ∈ calls.map CommandEffect.called := by simp [hsplit]
    obtain ⟨call, -, rfl⟩ := List.mem_map.mp hmem
    trivial
  identity forward hmem := by simp at hmem

/-- A forwarding between its two recordings. -/
theorem traced_forward (forward : Forward) {accepted outcome : AuditEvent}
    (haccepted : accepted.fact = forward.fact .accepted "accepted")
    (hfacts : forward.facts = [accepted.fact, outcome.fact]) :
    Traced (some forward.identity)
      [.recorded accepted, .forwarded forward, .recorded outcome] where
  paired := by
    change [accepted.fact, outcome.fact] = forward.facts ++ []
    rw [hfacts, List.append_nil]
  accepted := by
    intro before effect after hsplit
    rcases before with _ | ⟨first, _ | ⟨second, _ | ⟨third, rest⟩⟩⟩
    · cases hsplit
      trivial
    · cases hsplit
      exact ⟨[], accepted, rfl, haccepted⟩
    · cases hsplit
      trivial
    · simp at hsplit
  identity other hmem := by
    simp only [List.mem_cons, reduceCtorEq, CommandEffect.forwarded.injEq, List.not_mem_nil,
      or_false, false_or] at hmem
    rw [hmem]

namespace DashboardSession

theorem traced_commandEffects (newV4 : Nat → Uuid) (session : DashboardSession)
    (command : ClientCommand) (registry : TargetProcessRegistry) (ipc : TargetIpcPort)
    (audit : AuditRecorder) (now : OffsetDateTime) :
    Traced session.remoteIdentity
      (session.commandEffects newV4 command registry ipc audit now) := by
  unfold commandEffects
  cases hchecks : session.commandChecks command registry now with
  | error error => exact Traced.nil _
  | ok checked =>
      obtain ⟨identity, registration, prepared⟩ := checked
      obtain ⟨-, hidentity, -⟩ := commandChecks_ok.mp hchecks
      rw [hidentity]
      dsimp only
      cases hanswer : Forward.answer ⟨identity, registration, prepared, registry, ipc, now⟩ with
      | error error =>
          exact traced_forward ⟨identity, registration, prepared, registry, ipc, now⟩ rfl
            (Forward.facts_error hanswer)
      | ok answer =>
          have hcalled := traced_called (some identity)
            (session.finishCommand registry ipc now answer).calls
          change Traced (some identity) ([_, _, _] ++ List.map CommandEffect.called _)
          refine Traced.append ?_ hcalled
          exact traced_forward ⟨identity, registration, prepared, registry, ipc, now⟩ rfl
            (Forward.facts_ok hanswer)

end DashboardSession

def SessionEvent.call : SessionEvent → Option IpcCall
  | .ipcCall _ call => some call
  | _ => none

namespace SessionWorld

/-- The effects of one step on the recorder and on the targets, in program order. -/
def effects (newV4 : Nat → Uuid) (world : SessionWorld) : SessionOp → List CommandEffect
  | .handleCommand command ipc now =>
      world.session.commandEffects newV4 command world.registry ipc world.audit now
  | .bindTarget targetId ipc now =>
      (world.session.bindTarget targetId world.registry ipc now).calls.map .called
  | _ => []

def effectMachine (newV4 : Nat → Uuid) : Machine SessionWorld SessionOp CommandEffect where
  step world op := ((world.apply newV4 op).1, world.effects newV4 op)

variable {newV4 : Nat → Uuid} {world : SessionWorld}

theorem apply_remoteIdentity (op : SessionOp) :
    (world.apply newV4 op).1.session.remoteIdentity = world.session.remoteIdentity := by
  have haccept (op : StreamOp) :
      (world.session.accept op).2.remoteIdentity = world.session.remoteIdentity :=
    (DashboardSession.accept_keeps world.session op).1
  cases op with
  | acceptClientHello hello now =>
      dsimp only [apply]
      cases hok : world.session.acceptClientHello hello now with
      | ok session =>
          obtain ⟨-, rfl⟩ := DashboardSession.acceptClientHello_ok.mp hok
          rfl
      | error error => rfl
  | publishTargetList targets => rfl
  | bindTarget targetId ipc now =>
      have hspec := DashboardSession.bindTarget_spec world.session targetId world.registry ipc now
      exact hspec.grows.remoteIdentity
  | handleCommand command ipc now =>
      have hspec := DashboardSession.handleCommand_spec newV4 world.session command world.registry
        ipc world.audit now
      obtain ⟨targetId, hgrows⟩ := hspec.extends
      exact hgrows.remoteIdentity
  | acceptEvent event => exact haccept (.event event)
  | acceptLog log => exact haccept (.log log)
  | acceptStateDelta targetId delta => exact haccept (.stateDelta targetId delta)
  | acceptDroppedCount targetId count => exact haccept (.droppedCount targetId count)
  | acceptConnectionState targetId state => exact haccept (.connectionState targetId state)
  | drainOutbox => rfl
  | registry op => rfl

/-- Only `handle_command` records, and what its effects list. -/
theorem apply_audit (op : SessionOp) :
    (world.apply newV4 op).1.audit.events =
      world.audit.events ++ (world.effects newV4 op).filterMap CommandEffect.event := by
  cases op with
  | handleCommand command ipc now =>
      exact (DashboardSession.handleCommand_effects newV4 world.session command world.registry ipc
        world.audit now).1
  | bindTarget targetId ipc now =>
      have hnone := (DashboardSession.filterMap_called
        (world.session.bindTarget targetId world.registry ipc now).calls).1
      dsimp only [effects]
      rw [hnone, List.append_nil]
      rfl
  | acceptClientHello hello now =>
      dsimp only [apply, effects]
      rw [List.filterMap_nil, List.append_nil]
      cases world.session.acceptClientHello hello now <;> rfl
  | _ => exact (List.append_nil _).symm

theorem traced_effects (op : SessionOp) :
    Traced world.session.remoteIdentity (world.effects newV4 op) := by
  cases op with
  | handleCommand command ipc now => exact DashboardSession.traced_commandEffects _ _ _ _ _ _ _
  | bindTarget targetId ipc now => exact traced_called _ _
  | _ => exact Traced.nil _

theorem effects_calls (op : SessionOp) :
    (world.effects newV4 op).filterMap CommandEffect.call =
      (world.apply newV4 op).2.filterMap SessionEvent.call := by
  have hcalls (calls : List IpcCall) :
      (calls.map (.ipcCall world.session)).filterMap SessionEvent.call = calls := by
    rw [List.filterMap_map]
    exact List.filterMap_some
  cases op with
  | handleCommand command ipc now =>
      have heffects := (DashboardSession.handleCommand_effects newV4 world.session command
        world.registry ipc world.audit now).2
      dsimp only [effects, apply]
      rw [hcalls, heffects]
  | bindTarget targetId ipc now =>
      dsimp only [effects, apply]
      rw [List.filterMap_append, hcalls, (DashboardSession.filterMap_called _).2.2]
      split
      · exact (List.append_nil _).symm
      · exact (List.append_nil _).symm
  | acceptClientHello hello now =>
      dsimp only [effects, apply]
      cases world.session.acceptClientHello hello now <;> rfl
  | _ => rfl

/-- The effects are listed beside the same run and the same calls. -/
theorem effectMachine_run (newV4 : Nat → Uuid) (world : SessionWorld) (ops : List SessionOp) :
    (effectMachine newV4).final world ops = (machine newV4).final world ops ∧
      ((effectMachine newV4).history world ops).filterMap CommandEffect.call =
        ((machine newV4).history world ops).filterMap SessionEvent.call := by
  induction ops generalizing world with
  | nil => exact ⟨rfl, rfl⟩
  | cons op rest ih =>
      obtain ⟨hfinal, hcalls⟩ := ih (world.apply newV4 op).1
      refine ⟨hfinal, ?_⟩
      rw [Machine.history_cons, Machine.history_cons, List.filterMap_append,
        List.filterMap_append]
      exact congr_arg₂ (· ++ ·) (effects_calls op) hcalls

/-- The recorder holds what the effects so far recorded, each as its forwarding owes. -/
structure Recorded (start world : SessionWorld) (past : List CommandEffect) : Prop where
  events : world.audit.events = start.audit.events ++ past.filterMap CommandEffect.event
  traced : Traced start.session.remoteIdentity past
  identity : world.session.remoteIdentity = start.session.remoteIdentity

theorem Recorded.step {start : SessionWorld} {past : List CommandEffect}
    (h : Recorded start world past) (op : SessionOp) :
    Recorded start (world.apply newV4 op).1 (past ++ world.effects newV4 op) where
  events := by
    rw [apply_audit, h.events, List.filterMap_append, List.append_assoc]
  traced := h.traced.append (h.identity ▸ traced_effects op)
  identity := (apply_remoteIdentity op).trans h.identity

theorem recorded_run (newV4 : Nat → Uuid) (world : SessionWorld) (ops : List SessionOp) :
    Recorded world ((machine newV4).final world ops)
      ((effectMachine newV4).history world ops) := by
  have hstart : Recorded world world [] := ⟨(List.append_nil _).symm, Traced.nil _, rfl⟩
  have hrun := (effectMachine newV4).invariant_history (Recorded world)
    (fun _ _ op h => h.step op) hstart ops
  rw [← (effectMachine_run newV4 world ops).1]
  exact hrun

end SessionWorld

/-- The audit log is the trace of the commands forwarded: two events for each, in
order, the first of them before the call; none is ever changed or removed. -/
theorem audit_traces_forwards (newV4 : Nat → Uuid) (world : SessionWorld)
    (ops : List SessionOp) :
    let machine := SessionWorld.machine newV4
    let effects := (SessionWorld.effectMachine newV4).history world ops
    (machine.final world ops).audit.events =
        world.audit.events ++ effects.filterMap CommandEffect.event ∧
      Traced world.session.remoteIdentity effects ∧
      effects.filterMap CommandEffect.call =
        (machine.history world ops).filterMap SessionEvent.call ∧
      ∀ earlier later, ops = earlier ++ later →
        (machine.final world earlier).audit.events <+: (machine.final world ops).audit.events := by
  intro machine effects
  have hrecorded := SessionWorld.recorded_run newV4 world ops
  refine ⟨hrecorded.events, hrecorded.traced, (SessionWorld.effectMachine_run newV4 world ops).2,
    ?_⟩
  rintro earlier later rfl
  have hlater := SessionWorld.recorded_run newV4 (machine.final world earlier) later
  rw [Machine.final_append, hlater.events]
  exact List.prefix_append _ _

/-- The relay refuses the command, or the target does. -/
def Refused : RelayResult ControlCommandResult → Prop
  | .error _ => True
  | .ok answer => answer.accepted = false

namespace DashboardSession

/-- The recorder has gained a rejection of the command and no completion of it. -/
structure RejectionGained (commandId : String) (before after : AuditRecorder) : Prop where
  grows : before.events <+: after.events
  rejected : ∃ event ∈ after.events.drop before.events.length,
    event.commandId = commandId ∧ event.result = .rejected
  notCompleted : ∀ event ∈ after.events.drop before.events.length,
    event.commandId = commandId → event.result ≠ .completed

theorem rejectionGained_iff {commandId : String} {before after : AuditRecorder}
    {gained : List AuditEvent} (h : after.events = before.events ++ gained) :
    RejectionGained commandId before after ↔
      (∃ event ∈ gained, event.commandId = commandId ∧ event.result = .rejected) ∧
        ∀ event ∈ gained, event.commandId = commandId → event.result ≠ .completed := by
  have hgained : after.events.drop before.events.length = gained := by
    rw [h, List.drop_left]
  constructor
  · rintro ⟨-, hrejected, hnone⟩
    rw [hgained] at hrejected hnone
    exact ⟨hrejected, hnone⟩
  · rintro ⟨hrejected, hnone⟩
    rw [← hgained] at hrejected hnone
    exact ⟨h ▸ List.prefix_append _ _, hrejected, hnone⟩

/-- What the recorder gains with a command, beside the command's result. -/
inductive Gains (session : DashboardSession) (command : ClientCommand)
    (registry : TargetProcessRegistry) (ipc : TargetIpcPort) (now : OffsetDateTime) :
    RelayResult ControlCommandResult → List AuditEvent → Prop where
  | refused (error : RelayError)
      (hchecks : session.commandChecks command registry now = .error error) :
      Gains session command registry ipc now (.error error) []
  | failed (identity : RemoteIdentity) (registration : TargetProcessRegistration)
      (prepared : PreparedCommand) (error : RelayError) (accepted rejected : AuditEvent)
      (hchecks : session.commandChecks command registry now =
        .ok (identity, registration, prepared))
      (hforward : ipc.forwardCommand registration prepared now = .error error)
      (haccepted : accepted.result = .accepted)
      (hrejected : rejected.result = .rejected ∧ rejected.commandId = command.commandId) :
      Gains session command registry ipc now (.error error) [accepted, rejected]
  | answered (identity : RemoteIdentity) (registration : TargetProcessRegistration)
      (prepared : PreparedCommand) (answer : ControlCommandResult)
      (accepted completed : AuditEvent)
      (hchecks : session.commandChecks command registry now =
        .ok (identity, registration, prepared))
      (hforward : ipc.forwardCommand registration prepared now = .ok answer)
      (haccepted : accepted.result = .accepted) (hcompleted : completed.result = .completed) :
      Gains session command registry ipc now (.ok answer) [accepted, completed]

theorem handleCommand_gains (newV4 : Nat → Uuid) (session : DashboardSession)
    (command : ClientCommand) (registry : TargetProcessRegistry) (ipc : TargetIpcPort)
    (audit : AuditRecorder) (now : OffsetDateTime) :
    let handled := session.handleCommand newV4 command registry ipc audit now
    ∃ gained, handled.2.events = audit.events ++ gained ∧
      Gains session command registry ipc now handled.1.result gained := by
  intro handled
  obtain ⟨hevents, -⟩ := handleCommand_effects newV4 session command registry ipc audit now
  refine ⟨_, hevents, ?_⟩
  unfold handled handleCommand commandEffects
  cases hchecks : session.commandChecks command registry now with
  | error error => exact .refused error hchecks
  | ok checked =>
      obtain ⟨identity, registration, prepared⟩ := checked
      obtain ⟨-, -, -, -, -, -, hprepared⟩ := commandChecks_ok.mp hchecks
      have hcommand : prepared.commandId = command.commandId := by
        obtain ⟨-, rfl⟩ := prepareClientCommand_ok.mp hprepared
        rfl
      dsimp only [Forward.answer]
      cases hforward : ipc.forwardCommand registration prepared now with
      | error error =>
          exact .failed identity registration prepared error _ _ hchecks hforward rfl
            ⟨rfl, hcommand⟩
      | ok answer =>
          dsimp only
          rw [(finishCommand_reply session registry ipc now answer).1]
          obtain ⟨hnone, -, -⟩ :=
            filterMap_called (session.finishCommand registry ipc now answer).calls
          simp only [List.filterMap_cons, CommandEffect.event, hnone]
          exact .answered identity registration prepared answer _ _ hchecks hforward rfl rfl

end DashboardSession

/-- A refused command is audited as a refusal exactly when the relay itself lets it
pass and the target does not answer that it declines. -/
theorem refusals_audited_iff (newV4 : Nat → Uuid) (session : DashboardSession)
    (command : ClientCommand) (registry : TargetProcessRegistry) (ipc : TargetIpcPort)
    (audit : AuditRecorder) (now : OffsetDateTime) :
    let handled := session.handleCommand newV4 command registry ipc audit now
    (Refused handled.1.result →
        DashboardSession.RejectionGained command.commandId audit handled.2) ↔
      ∃ identity registration prepared,
        session.commandChecks command registry now = .ok (identity, registration, prepared) ∧
          ∀ answer, ipc.forwardCommand registration prepared now = .ok answer →
            answer.accepted = true := by
  intro handled
  obtain ⟨gained, hevents, hgains⟩ :=
    DashboardSession.handleCommand_gains newV4 session command registry ipc audit now
  change handled.2.events = _ at hevents
  rw [DashboardSession.rejectionGained_iff hevents]
  change DashboardSession.Gains session command registry ipc now handled.1.result gained at hgains
  generalize handled.1.result = result at hgains ⊢
  cases hgains with
  | refused error hchecks =>
      refine iff_of_false (fun h => ?_) ?_
      · obtain ⟨⟨event, hmem, -⟩, -⟩ := h trivial
        cases hmem
      · rintro ⟨identity, registration, prepared, hpassed, -⟩
        cases hchecks.symm.trans hpassed
  | failed identity registration prepared error accepted rejected hchecks hforward haccepted
      hrejected =>
      refine iff_of_true (fun _ => ⟨?_, fun event hmem _ => ?_⟩)
        ⟨identity, registration, prepared, hchecks, fun answer hanswer => ?_⟩
      · exact ⟨rejected, by simp, hrejected.2, hrejected.1⟩
      · rcases List.mem_pair.mp hmem with rfl | rfl
        · simp [haccepted]
        · simp [hrejected.1]
      · cases hforward.symm.trans hanswer
  | answered identity registration prepared answer accepted completed hchecks hforward haccepted
      hcompleted =>
      have hnone : ¬∃ event ∈ [accepted, completed],
          event.commandId = command.commandId ∧ event.result = .rejected := by
        simp [haccepted, hcompleted]
      cases hanswer : answer.accepted with
      | true =>
          refine iff_of_true (fun hrefused => ?_)
            ⟨identity, registration, prepared, hchecks, fun other hother => ?_⟩
          · cases hanswer.symm.trans hrefused
          · cases hforward.symm.trans hother
            exact hanswer
      | false =>
          -- the target declines, and the log calls the command completed
          refine iff_of_false (fun h => hnone (h hanswer).1) ?_
          rintro ⟨other, again, passed, hpassed, hall⟩
          cases hchecks.symm.trans hpassed
          cases hanswer.symm.trans (hall answer hforward)

/-- A command for a target that is not bound is refused, and nothing is recorded. -/
theorem refusal_unaudited :
    let handled := sampleBoundSession.handleCommand (fun _ => 0) (sampleCommand "payments-worker-c")
      (.new (samplePolicy 120)) (sampleClient "payments-worker-c").port .default .unixEpoch
    ¬(Refused handled.1.result →
      DashboardSession.RejectionGained "RestartChild-cmd" .default handled.2) := by
  intro handled h
  have hrefused : Refused handled.1.result := by
    have hresult : handled.1.result.isOk = false := by decide +kernel
    cases hcase : handled.1.result with
    | error error => trivial
    | ok answer =>
        rw [hcase] at hresult
        cases hresult
  obtain ⟨event, hmem, -⟩ := (h hrefused).rejected
  have hnone : handled.2.events = [] := by
    apply List.eq_nil_of_length_eq_zero
    decide +kernel
  rw [hnone] at hmem
  simp at hmem

end SupervisorRelay
