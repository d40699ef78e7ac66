import SupervisorRelay.Service.ProcessSteps
import SupervisorRelay.Session.Gate

/-! The process refines the machines of its parts. The registry goes through a run of
registry calls, each dashboard through a run of its session among such calls, and the
registrations through the run that the registration loop would make alone. -/
namespace SupervisorRelay

/-- The registry calls that the process makes. -/
def RegistryOp.Served : RegistryOp → Prop
  | .register .. | .beginBinding .. | .markConnected .. | .markUnavailable .. => True
  | _ => False

/-- The session calls that the process makes, and what others do meanwhile. -/
def SessionOp.Served : SessionOp → Prop
  | .acceptClientHello .. | .publishTargetList _ | .bindTarget .. | .handleCommand .. => True
  | .drainOutbox => True
  | .registry op => op.Served
  | _ => False

namespace TargetProcessRegistry

/-- Served calls lead from one registry to the other. -/
def Leads (before after : TargetProcessRegistry) : Prop :=
  ∃ leases, machine.Runs RegistryOp.Served before leases after

variable {registry changed : TargetProcessRegistry}

theorem Leads.refl (registry : TargetProcessRegistry) : Leads registry registry :=
  ⟨[], .nil registry⟩

theorem Leads.trans {first second third : TargetProcessRegistry} (h : Leads first second)
    (h' : Leads second third) : Leads first third := by
  obtain ⟨leases, hruns⟩ := h
  obtain ⟨more, hruns'⟩ := h'
  exact ⟨leases ++ more, hruns.trans hruns'⟩

theorem Leads.of_apply (op : RegistryOp) (hserved : op.Served)
    (h : (registry.apply op).1 = changed) : Leads registry changed :=
  ⟨(registry.apply op).2, h ▸ Machine.Runs.one (M := machine) hserved registry⟩

theorem leads_register {normalize : PathBuf → RelayResult String}
    {request : RegistrationRequest} {ownerIdentity : String} {now : OffsetDateTime}
    {result : Outcome TargetProcessRegistration}
    (h : registry.register normalize request ownerIdentity now = (result, changed)) :
    Leads registry changed := by
  refine .of_apply (.register normalize request ownerIdentity now) trivial ?_
  rw [apply_register, h]

theorem leads_beginBinding {targetId : String} {now : OffsetDateTime}
    (h : registry.beginBinding targetId now = .ok changed) : Leads registry changed := by
  refine .of_apply (.beginBinding targetId now) trivial ?_
  dsimp only [apply]
  rw [h]
  rfl

theorem leads_markConnected {targetId : String} {stateGeneration : UInt64}
    {now : OffsetDateTime}
    (h : registry.markConnected targetId stateGeneration now = .ok changed) :
    Leads registry changed := by
  refine .of_apply (.markConnected targetId stateGeneration now) trivial ?_
  dsimp only [apply]
  rw [h]
  rfl

theorem leads_markUnavailable (registry : TargetProcessRegistry) (targetId reason : String)
    (now : OffsetDateTime) : Leads registry (registry.markUnavailable targetId reason now) :=
  .of_apply (.markUnavailable targetId reason now) trivial rfl

theorem leads_bindTarget (session : DashboardSession) (targetId : String)
    (registry : TargetProcessRegistry) (ipc : TargetIpcPort) (now : OffsetDateTime) :
    Leads registry (session.bindTarget targetId registry ipc now).registry := by
  have houtcome := DashboardSession.bindTarget_outcome session targetId registry ipc now
  generalize session.bindTarget targetId registry ipc now = step at houtcome ⊢
  cases houtcome with
  | refused | already | unconnected => exact .refl registry
  | unreachable registration binding error hchecks hnew hbegin hconnect =>
      exact (leads_beginBinding hbegin).trans (leads_markUnavailable binding targetId _ now)
  | unsubscribed registration binding connected state error hchecks hnew hbegin hconnect hmark
      hsubscribe =>
      have hconnected := (leads_beginBinding hbegin).trans (leads_markConnected hmark)
      exact hconnected.trans (leads_markUnavailable connected targetId _ now)
  | bound registration binding connected state hchecks hnew hbegin hconnect hmark hsubscribe =>
      exact (leads_beginBinding hbegin).trans (leads_markConnected hmark)

theorem leads_refresh (session : DashboardSession) (targetId : String)
    (registry : TargetProcessRegistry) (ipc : TargetIpcPort) (now : OffsetDateTime) :
    Leads registry
      (session.refreshTargetStateAfterCommand targetId registry ipc now).registry := by
  unfold DashboardSession.refreshTargetStateAfterCommand
  cases registry.registration targetId with
  | error error => exact .refl registry
  | ok registration =>
      dsimp only
      cases ipc.connectState registration now with
      | error error => exact leads_markUnavailable registry targetId _ now
      | ok state =>
          dsimp only
          cases hmark : registry.markConnected targetId state.stateGeneration now with
          | error error => exact .refl registry
          | ok connected => exact leads_markConnected hmark

theorem leads_handleCommand (newV4 : Nat → Uuid) (session : DashboardSession)
    (command : ClientCommand) (registry : TargetProcessRegistry) (ipc : TargetIpcPort)
    (audit : AuditRecorder) (now : OffsetDateTime) :
    Leads registry (session.handleCommand newV4 command registry ipc audit now).1.registry := by
  unfold DashboardSession.handleCommand
  cases session.commandChecks command registry now with
  | error error => exact .refl registry
  | ok checked =>
      obtain ⟨identity, registration, prepared⟩ := checked
      dsimp only
      cases ipc.forwardCommand registration prepared now with
      | error error => exact .refl registry
      | ok answer =>
          dsimp only [DashboardSession.finishCommand]
          split
          · split <;> exact leads_refresh _ _ _ _ _
          · exact .refl registry

end TargetProcessRegistry

open TargetProcessRegistry (Leads)

/-- The calls of targets in a run of a session. -/
def ipcCallsOf (events : List SessionEvent) : List IpcCall :=
  events.filterMap fun
    | .ipcCall _ call => some call
    | _ => none

@[simp] theorem ipcCallsOf_append (first second : List SessionEvent) :
    ipcCallsOf (first ++ second) = ipcCallsOf first ++ ipcCallsOf second :=
  List.filterMap_append

@[simp] theorem ipcCallsOf_calls (session : DashboardSession) (calls : List IpcCall) :
    ipcCallsOf (calls.map (.ipcCall session)) = calls := by
  simp [ipcCallsOf, List.filterMap_map]

/-- A run of the session machine, seen by its calls. -/
def SessionWorld.Lives (newV4 : Nat → Uuid) (first : SessionWorld) (calls : List IpcCall)
    (last : SessionWorld) : Prop :=
  ∃ events, (SessionWorld.machine newV4).Runs SessionOp.Served first events last ∧
    ipcCallsOf events = calls

namespace SessionWorld

variable {newV4 : Nat → Uuid} {first world : SessionWorld} {calls : List IpcCall}

theorem Lives.refl (world : SessionWorld) : Lives newV4 world [] world :=
  ⟨[], .nil world, rfl⟩

theorem Lives.step (h : Lives newV4 first calls world) (op : SessionOp) (hserved : op.Served) :
    Lives newV4 first (calls ++ ipcCallsOf (world.apply newV4 op).2) (world.apply newV4 op).1 := by
  obtain ⟨events, hruns, rfl⟩ := h
  exact ⟨_, hruns.trans (Machine.Runs.one (M := SessionWorld.machine newV4) hserved world),
    ipcCallsOf_append _ _⟩

/-- A call of the session that reaches no target. -/
theorem Lives.quiet (h : Lives newV4 first calls world) (op : SessionOp) (hserved : op.Served)
    {next : SessionWorld} (hnext : (world.apply newV4 op).1 = next)
    (hcalls : ipcCallsOf (world.apply newV4 op).2 = []) : Lives newV4 first calls next := by
  have hstep := h.step op hserved
  rwa [hcalls, List.append_nil, hnext] at hstep

theorem Lives.drain (h : Lives newV4 first calls world) :
    Lives newV4 first calls { world with session := world.session.drainOutbox.2 } :=
  h.quiet .drainOutbox trivial rfl rfl

/-- Others may go on with the registry in the middle of a session. -/
theorem Lives.others (h : Lives newV4 first calls world) {changed : TargetProcessRegistry}
    (hleads : Leads world.registry changed) :
    Lives newV4 first calls { world with registry := changed } := by
  obtain ⟨leases, ops, hserved, hfinal, -⟩ := hleads
  induction ops generalizing world with
  | nil =>
      cases hfinal
      exact h
  | cons op rest ih =>
      have hstep := h.quiet (.registry op) (hserved op List.mem_cons_self) rfl rfl
      have hrest := ih hstep
        (fun other hmem => hserved other (List.mem_cons_of_mem op hmem)) hfinal
      exact hrest

theorem Lives.bindTarget (h : Lives newV4 first calls world) (targetId : String)
    (ipc : TargetIpcPort) (now : OffsetDateTime) :
    let step := world.session.bindTarget targetId world.registry ipc now
    Lives newV4 first (calls ++ step.calls) (world.afterStep step) := by
  intro step
  have hcalls : ipcCallsOf (world.apply newV4 (.bindTarget targetId ipc now)).2 = step.calls := by
    dsimp only [apply]
    rw [ipcCallsOf_append, ipcCallsOf_calls]
    split
    · exact List.append_nil _
    · exact List.append_nil _
  rw [← hcalls]
  exact h.step (.bindTarget targetId ipc now) trivial

theorem Lives.handleCommand (h : Lives newV4 first calls world) (command : ClientCommand)
    (ipc : TargetIpcPort) (now : OffsetDateTime) :
    let handled := world.session.handleCommand newV4 command world.registry ipc world.audit now
    Lives newV4 first (calls ++ handled.1.calls)
      { world.afterStep handled.1 with audit := handled.2 } := by
  intro handled
  have hcalls : ipcCallsOf (world.apply newV4 (.handleCommand command ipc now)).2 =
      handled.1.calls := ipcCallsOf_calls world.session handled.1.calls
  rw [← hcalls]
  exact h.step (.handleCommand command ipc now) trivial

end SessionWorld

namespace DashboardTask

/-- The world in which a dashboard's session begins. -/
def opening (connection : WssConnection) (identity : RemoteIdentity)
    (registry : TargetProcessRegistry) : SessionWorld :=
  ⟨.serverHello connection.sessionId identity connection.startedAt, registry, .default⟩

/-- The task is at a point of a run of its session, among served calls of others, that
began in a registry which the process had come to. -/
structure Refines (policy : RegistrationPolicy) (registry : TargetProcessRegistry)
    (task : DashboardTask) : Prop where
  lives : ∃ opened, Leads (.new policy) opened ∧
    SessionWorld.Lives task.connection.newV4 (opening task.connection task.identity opened)
      task.run.calls ⟨task.run.session, registry, task.run.audit⟩

variable {policy : RegistrationPolicy} {registry changed : TargetProcessRegistry}
variable {task next : DashboardTask}

theorem Refines.spawned (h : Leads (.new policy) registry) (connection : WssConnection)
    (identity : RemoteIdentity) :
    Refines policy registry (DashboardTask.spawned connection identity registry) := by
  have hopening : SessionWorld.Lives connection.newV4 (opening connection identity registry) []
      (opening connection identity registry) := .refl _
  have hdrained := hopening.drain
  unfold DashboardTask.spawned DashboardRun.sendOutbox DashboardRun.sendMessages
  dsimp only
  split
  · exact ⟨registry, h, hdrained⟩
  · exact ⟨registry, h, hdrained⟩
  · split
    · exact ⟨registry, h, hdrained⟩
    · rename_i hello hdecoded
      split
      · exact ⟨registry, h, hdrained⟩
      · rename_i session haccept
        refine ⟨registry, h, hdrained.quiet (.acceptClientHello hello connection.helloAt)
          trivial ?_ ?_⟩
        · dsimp only [SessionWorld.apply, opening]
          rw [haccept]
        · dsimp only [SessionWorld.apply, opening]
          rw [haccept]
          rfl
    · exact ⟨registry, h, hdrained⟩

theorem Refines.others (h : Refines policy registry task) (hleads : Leads registry changed) :
    Refines policy changed task := by
  obtain ⟨opened, hopened, hlives⟩ := h.lives
  exact ⟨opened, hopened, hlives.others hleads⟩

/-- What a task becomes is what its session came to, drained or not. -/
theorem Refines.of_becomes {opened : TargetProcessRegistry} {left : DashboardSession}
    {audit : AuditRecorder} {calls : List IpcCall} (hopened : Leads (.new policy) opened)
    (hnext : Becomes task next left audit calls)
    (hlives : SessionWorld.Lives task.connection.newV4
      (opening task.connection task.identity opened) (task.run.calls ++ calls)
      ⟨left, changed, audit⟩) : Refines policy changed next := by
  refine ⟨opened, hopened, ?_⟩
  rw [hnext.connection, hnext.identity, hnext.calls, hnext.audit]
  rcases hnext.session with hsession | hsession
  · rw [hsession]
    exact hlives
  · rw [hsession]
    exact hlives.drain

theorem Refines.step (h : Refines policy registry task) (now : ClockReading)
    (ipc : UnixNdjsonIpcClient) :
    Leads registry (task.step registry now ipc).1 ∧
      Refines policy (task.step registry now ipc).1 (task.step registry now ipc).2.1 := by
  obtain ⟨opened, hopened, hlives⟩ := h.lives
  have hacts := step_acts registry task now ipc
  generalize task.step registry now ipc = result at hacts ⊢
  cases hacts with
  | publishes next hnext =>
      refine ⟨.refl registry, Refines.of_becomes hopened hnext ?_⟩
      rw [List.append_nil]
      exact hlives.quiet (.publishTargetList _) trivial rfl rfl
  | binds targetId step hstep next hnext =>
      have hleads := TargetProcessRegistry.leads_bindTarget task.run.session targetId registry
        ipc.port now
      have hbinds := hlives.bindTarget targetId ipc.port now
      dsimp only at hstep hbinds
      rw [hstep] at hleads hbinds
      exact ⟨hleads, Refines.of_becomes hopened hnext hbinds⟩
  | handles command handled hhandled next hnext =>
      have hleads := TargetProcessRegistry.leads_handleCommand task.connection.newV4
        task.run.session command registry ipc.port task.run.audit now
      have hhandles := hlives.handleCommand command ipc.port now
      dsimp only at hhandled hhandles
      rw [hhandled] at hleads hhandles
      exact ⟨hleads, Refines.of_becomes hopened hnext hhandles⟩
  | rests next locks hnext hlocks =>
      refine ⟨.refl registry, Refines.of_becomes hopened hnext ?_⟩
      rw [List.append_nil]
      exact hlives

end DashboardTask

def Task.Refines (policy : RegistrationPolicy) (registry : TargetProcessRegistry) :
    Task → Prop
  | .dashboard task => task.Refines policy registry
  | _ => True

/-- Every turn is served calls on the registry, and that is all a session notices of it. -/
def RelayProcess.refinementContract (host : RelayHost) (policy : RegistrationPolicy) :
    Turns.Contract TaskId (RelayProcess.tasks host) where
  store registry _ := Leads (.new policy) registry
  guarantee _ before after := Leads before after
  part _ registry task _ := task.Refines policy registry
  keeps part registry task turn trace h hrefines := by
    have hsteps := Task.step_steps host registry task turn
    dsimp only [RelayProcess.tasks]
    generalize task.step host registry turn = result at hsteps ⊢
    cases hsteps with
    | registers acks connection =>
        have hrounds := registrationRound_rounds host registry acks connection
        generalize registrationRound host registry acks connection = round at hrounds ⊢
        cases hrounds with
        | keeps status acks => exact ⟨h, .refl registry, trivial⟩
        | registers request registration changed status acks hcall =>
            have hleads := TargetProcessRegistry.leads_register hcall
            exact ⟨h.trans hleads, hleads, trivial⟩
    | rejects task hended =>
        refine ⟨h, .refl registry, ?_⟩
        rcases hended with ⟨error, rfl⟩ | rfl
        · trivial
        · trivial
    | spawns connection identity hidentity =>
        exact ⟨h, .refl registry, DashboardTask.Refines.spawned h connection identity⟩
    | advances dashboard now ipc =>
        obtain ⟨hleads, hnext⟩ := DashboardTask.Refines.step hrefines now ipc
        exact ⟨h.trans hleads, hleads, hnext⟩
    | passes task => exact ⟨h, .refl registry, hrefines⟩
  stable part other before after task past _ hleads hrefines := by
    cases task with
    | dashboard task => exact DashboardTask.Refines.others hrefines hleads
    | _ => trivial

theorem RelayProcess.refinementContract_start (host : RelayHost) (policy : RegistrationPolicy) :
    (refinementContract host policy).Holds (start policy) [] where
  store := .refl _
  parts part := by
    cases part with
    | registrationLoop => trivial
    | connection number => trivial

/-- Under every schedule the shared registry is where a run of registry calls takes it,
and each dashboard is where a run of its session takes it among registry calls of others,
with the calls of targets that this run makes. No call is one that the process never
makes: it renews and sweeps no lease and fans out no stream. -/
theorem process_refines_sessions (host : RelayHost) (policy : RegistrationPolicy)
    (schedule : List (TaskId × TaskTurn)) :
    let process := (RelayProcess.machine host).final (.start policy) schedule
    Leads (.new policy) process.store ∧
      ∀ number task, process.parts (.connection number) = .dashboard task →
        ∃ opened, Leads (.new policy) opened ∧
          SessionWorld.Lives task.connection.newV4
            (DashboardTask.opening task.connection task.identity opened) task.run.calls
            ⟨task.run.session, process.store, task.run.audit⟩ := by
  intro process
  have hholds := (RelayProcess.refinementContract_start host policy).run schedule
  refine ⟨hholds.store, fun number task htask => ?_⟩
  have hrefines : (process.parts (.connection number)).Refines policy process.store :=
    hholds.parts (.connection number)
  rw [htask] at hrefines
  exact hrefines.lives

theorem process_refines_sessions_sample :
    ∃ (task : DashboardTask) (opened : TargetProcessRegistry), task.run.calls.length = 4 ∧
      Leads (.new (samplePolicy 120)) opened ∧
      SessionWorld.Lives task.connection.newV4
        (DashboardTask.opening task.connection task.identity opened) task.run.calls
        ⟨task.run.session, sampleProcess.store, task.run.audit⟩ := by
  obtain ⟨task, htask, hlength⟩ := sampleProcess_dashboard
  obtain ⟨-, hdashboards⟩ :=
    process_refines_sessions sampleHost (samplePolicy 120) sampleSchedule
  obtain ⟨opened, hopened, hlives⟩ := hdashboards 0 task htask
  exact ⟨task, opened, hlength, hopened, hlives⟩

/-- Two registries that differ at most in their connections. -/
structure SameRegistrations (first second : TargetProcessRegistry) : Prop where
  policy : first.policy = second.policy
  registrations : first.registrations = second.registrations

namespace SameRegistrations

variable {first second : TargetProcessRegistry}

theorem registerChecks (h : SameRegistrations first second)
    (normalize : PathBuf → RelayResult String) (request : RegistrationRequest)
    (ownerIdentity : String) :
    first.registerChecks normalize request ownerIdentity =
      second.registerChecks normalize request ownerIdentity := by
  obtain ⟨hpolicy, hregistrations⟩ := h
  unfold TargetProcessRegistry.registerChecks TargetProcessRegistry.validateRequest
  rw [hpolicy, hregistrations]

/-- A registration looks at no connection. -/
theorem register (h : SameRegistrations first second)
    (normalize : PathBuf → RelayResult String) (request : RegistrationRequest)
    (ownerIdentity : String) (now : OffsetDateTime) :
    (first.register normalize request ownerIdentity now).1 =
        (second.register normalize request ownerIdentity now).1 ∧
      SameRegistrations (first.register normalize request ownerIdentity now).2
        (second.register normalize request ownerIdentity now).2 := by
  have hchecks := h.registerChecks normalize request ownerIdentity
  have htime : first.firstRegisteredAt request.targetId now =
      second.firstRegisteredAt request.targetId now := by
    rw [TargetProcessRegistry.firstRegisteredAt, TargetProcessRegistry.firstRegisteredAt,
      h.registrations]
  have hpolicy : (first.register normalize request ownerIdentity now).2.policy =
      (second.register normalize request ownerIdentity now).2.policy := by
    rw [TargetProcessRegistry.register_policy, TargetProcessRegistry.register_policy, h.policy]
  rcases first.register_cases normalize request ownerIdentity now with
    ⟨error, herror, hcall⟩ | ⟨ipcPathKey, hok, hexpiry, hcall⟩ |
      ⟨ipcPathKey, expiresAt, hok, hexpiry, hresult, hregistrations⟩ <;>
    rcases second.register_cases normalize request ownerIdentity now with
      ⟨error', herror', hcall'⟩ | ⟨ipcPathKey', hok', hexpiry', hcall'⟩ |
        ⟨ipcPathKey', expiresAt', hok', hexpiry', hresult', hregistrations'⟩
  · cases (hchecks.symm.trans herror).symm.trans herror'
    rw [hcall, hcall']
    exact ⟨rfl, h⟩
  · cases (hchecks.symm.trans herror).symm.trans hok'
  · cases (hchecks.symm.trans herror).symm.trans hok'
  · cases (hchecks.symm.trans hok).symm.trans herror'
  · rw [hcall, hcall']
    exact ⟨rfl, h⟩
  · cases hexpiry.symm.trans hexpiry'
  · cases (hchecks.symm.trans hok).symm.trans herror'
  · cases hexpiry.symm.trans hexpiry'
  · cases (hchecks.symm.trans hok).symm.trans hok'
    cases hexpiry.symm.trans hexpiry'
    rw [hresult, hresult', htime]
    exact ⟨rfl, hpolicy, by rw [hregistrations, hregistrations', h.registrations, htime]⟩

end SameRegistrations

theorem SameRegistrations.of_touches {targetId : String}
    {registry changed : TargetProcessRegistry}
    (h : TargetProcessRegistry.Touches targetId registry changed) :
    SameRegistrations changed registry :=
  ⟨h.frames.policy, h.registrations⟩

/-- A dashboard leaves the registrations alone. -/
theorem DashboardTask.step_registrations (registry : TargetProcessRegistry)
    (task : DashboardTask) (now : ClockReading) (ipc : UnixNdjsonIpcClient) :
    SameRegistrations (task.step registry now ipc).1 registry := by
  have hacts := step_acts registry task now ipc
  generalize task.step registry now ipc = result at hacts ⊢
  cases hacts with
  | publishes | rests => exact ⟨rfl, rfl⟩
  | binds targetId step hstep next hnext =>
      have hspec := DashboardSession.bindTarget_spec task.run.session targetId registry
        ipc.port now
      dsimp only at hstep
      rw [hstep] at hspec
      exact .of_touches hspec.touches
  | handles command handled hhandled next hnext =>
      have hspec := DashboardSession.handleCommand_spec task.connection.newV4 task.run.session
        command registry ipc.port task.run.audit now
      dsimp only at hhandled
      rw [hhandled] at hspec
      obtain ⟨step, audit⟩ := handled
      dsimp only at hspec ⊢
      cases hspec with
      | refused | failed => exact ⟨rfl, rfl⟩
      | answered identity registration prepared answer finish hchecks hforward hfinish =>
          exact .of_touches hfinish.touches

/-- The connections that the registration loop accepts under a schedule. -/
def registrationsIn (schedule : List (TaskId × TaskTurn)) : List RegistrationConnection :=
  schedule.filterMap fun
    | (.registrationLoop, .register connection) => some connection
    | _ => none

def Task.isLoop : Task → Bool
  | .registrationLoop .. => true
  | _ => false

/-- A process next to the registration loop of a process without dashboards. -/
structure BesideLoop (process : RelayProcess) (status : LoopStatus)
    (registry : TargetProcessRegistry) (acks : List Json) : Prop where
  same : SameRegistrations process.store registry
  loop : process.parts .registrationLoop = .registrationLoop status acks
  only : ∀ number, (process.parts (.connection number)).isLoop = false

theorem SameRegistrations.trans {first second third : TargetProcessRegistry}
    (h : SameRegistrations first second) (h' : SameRegistrations second third) :
    SameRegistrations first third :=
  ⟨h.policy.trans h'.policy, h.registrations.trans h'.registrations⟩

namespace BesideLoop

variable {host : RelayHost} {process : RelayProcess} {status : LoopStatus}
variable {registry : TargetProcessRegistry} {acks : List Json}

/-- The turn of a connection goes by the loop unseen. -/
theorem connection (h : BesideLoop process status registry acks) (number : Nat)
    (turn : TaskTurn) :
    BesideLoop ((RelayProcess.machine host).step process (.connection number, turn)).1 status
      registry acks := by
  have hsteps := Task.step_steps host process.store (process.parts (.connection number)) turn
  have hself := h.only number
  have hnext : SameRegistrations
        (Task.step host process.store (process.parts (.connection number)) turn).1 process.store ∧
      (Task.step host process.store (process.parts (.connection number)) turn).2.1.isLoop =
        false := by
    generalize Task.step host process.store (process.parts (.connection number)) turn = result
      at hsteps ⊢
    generalize process.parts (.connection number) = task at hself hsteps
    cases hsteps with
    | registers => cases hself
    | rejects task hended =>
        rcases hended with ⟨error, rfl⟩ | rfl
        · exact ⟨⟨rfl, rfl⟩, rfl⟩
        · exact ⟨⟨rfl, rfl⟩, rfl⟩
    | spawns => exact ⟨⟨rfl, rfl⟩, rfl⟩
    | advances dashboard now ipc =>
        exact ⟨DashboardTask.step_registrations process.store dashboard now ipc, rfl⟩
    | passes => exact ⟨⟨rfl, rfl⟩, hself⟩
  have hother (other : TaskId) (hne : other ≠ .connection number) :
      ((RelayProcess.machine host).step process (.connection number, turn)).1.parts other =
        process.parts other :=
    Turns.machine_other (RelayProcess.tasks host) process turn hne
  constructor
  · exact hnext.1.trans h.same
  · rw [hother .registrationLoop (by simp)]
    exact h.loop
  · intro other
    by_cases heq : other = number
    · subst heq
      exact (congrArg Task.isLoop
        (Turns.machine_own (RelayProcess.tasks host) process _ turn)).trans hnext.2
    · rw [hother (.connection other) (by simpa using heq)]
      exact h.only other

/-- The loop's own turn, up to what it makes of it. -/
theorem own (h : BesideLoop process status registry acks) (turn : TaskTurn)
    {changed : TargetProcessRegistry} {next : LoopStatus} {more : List Json}
    {events : List TaskEvent}
    (hstep : Task.step host process.store (.registrationLoop status acks) turn =
      (changed, .registrationLoop next more, events))
    {other : TargetProcessRegistry} (hsame : SameRegistrations changed other) :
    BesideLoop ((RelayProcess.machine host).step process (.registrationLoop, turn)).1 next other
      more := by
  have hown : Task.step host process.store (process.parts .registrationLoop) turn =
      (changed, .registrationLoop next more, events) := by
    rw [h.loop, hstep]
  constructor
  · have hstore : ((RelayProcess.machine host).step process (.registrationLoop, turn)).1.store =
        changed := congrArg Prod.fst hown
    rw [hstore]
    exact hsame
  · have hparts := Turns.machine_own (RelayProcess.tasks host) process .registrationLoop turn
    exact hparts.trans (congrArg (·.2.1) hown)
  · intro number
    have hne : TaskId.connection number ≠ .registrationLoop := by simp
    have hparts := Turns.machine_other (RelayProcess.tasks host) process turn hne
    exact (congrArg Task.isLoop hparts).trans (h.only number)

/-- A loop that has ended takes no further turn. -/
theorem ended (h : BesideLoop process status registry acks) (hended : status ≠ .running)
    (schedule : List (TaskId × TaskTurn)) :
    BesideLoop ((RelayProcess.machine host).final process schedule) status registry acks := by
  induction schedule generalizing process with
  | nil => exact h
  | cons head rest ih =>
      obtain ⟨part, turn⟩ := head
      cases part with
      | registrationLoop =>
          have hpass : Task.step host process.store (.registrationLoop status acks) turn =
              (process.store, .registrationLoop status acks, []) := by
            cases status with
            | running => exact absurd rfl hended
            | stopped | panicked => rfl
          exact ih (h.own turn hpass h.same)
      | connection number => exact ih (h.connection number turn)

end BesideLoop

/-- A round depends on the registrations and not on the connections. -/
theorem SameRegistrations.round {first second : TargetProcessRegistry}
    (h : SameRegistrations first second) (host : RelayHost) (acks : List Json)
    (connection : RegistrationConnection) :
    (registrationRound host first acks connection).2.1 =
        (registrationRound host second acks connection).2.1 ∧
      SameRegistrations (registrationRound host first acks connection).1
        (registrationRound host second acks connection).1 := by
  unfold registrationRound
  cases acceptRegistration host.fromStr connection with
  | error error => exact ⟨rfl, h⟩
  | ok accepted =>
      obtain ⟨hresult, hsame⟩ := h.register connection.normalizeIpcPathKey accepted.request
        accepted.ownerIdentity connection.now
      dsimp only
      rw [hresult]
      split
      · exact ⟨rfl, hsame⟩
      · exact ⟨rfl, hsame⟩

/-- `runRegistrationLoop`, a round at a time. -/
inductive LoopRound (host : RelayHost) (registry : TargetProcessRegistry) (acks : List Json)
    (connection : RegistrationConnection) (rest : List RegistrationConnection) : Prop where
  | goesOn (ack : Json)
      (hround : (registrationRound host registry acks connection).2.1 =
        .registrationLoop .running (acks ++ [ack]))
      (hloop : runRegistrationLoop host.fromStr registry (connection :: rest) =
        let next := runRegistrationLoop host.fromStr
          (registrationRound host registry acks connection).1 rest
        { next with acks := ack :: next.acks })
  | stops (status : LoopStatus) (more : List Json) (hended : status ≠ .running)
      (hround : (registrationRound host registry acks connection).2.1 =
        .registrationLoop status (acks ++ more))
      (hloop : runRegistrationLoop host.fromStr registry (connection :: rest) =
        ⟨status, (registrationRound host registry acks connection).1, more⟩)

theorem loopRound (host : RelayHost) (registry : TargetProcessRegistry) (acks : List Json)
    (connection : RegistrationConnection) (rest : List RegistrationConnection) :
    LoopRound host registry acks connection rest := by
  cases haccept : acceptRegistration host.fromStr connection with
  | error error =>
      refine .stops (.stopped error) [] (by simp) ?_ ?_
      · rw [registrationRound, haccept, List.append_nil]
      · rw [runRegistrationLoop, registrationRound, haccept]
  | ok accepted =>
      generalize hcall : registry.register connection.normalizeIpcPathKey accepted.request
        accepted.ownerIdentity connection.now = call
      obtain ⟨result, changed⟩ := call
      cases result with
      | panicked =>
          refine .stops .panicked [] (by simp) ?_ ?_
          · simp only [registrationRound, haccept, hcall, List.append_nil]
          · simp only [runRegistrationLoop, registrationRound, haccept, hcall]
      | returned result =>
          cases hack : writeRegistrationAck connection result with
          | mk written ack =>
              cases written with
              | error error =>
                  refine .stops (.stopped error) [ack] (by simp) ?_ ?_
                  · simp only [registrationRound, haccept, hcall, hack]
                  · simp only [runRegistrationLoop, registrationRound, haccept, hcall, hack]
              | ok written =>
                  refine .goesOn ack ?_ ?_
                  · simp only [registrationRound, haccept, hcall, hack]
                  · simp only [runRegistrationLoop, registrationRound, haccept, hcall, hack]

/-- The loop beside the process goes through the same rounds. -/
theorem BesideLoop.final {process : RelayProcess} {registry : TargetProcessRegistry}
    {acks : List Json} (h : BesideLoop process .running registry acks) (host : RelayHost)
    (schedule : List (TaskId × TaskTurn)) :
    let loop := runRegistrationLoop host.fromStr registry (registrationsIn schedule)
    BesideLoop ((RelayProcess.machine host).final process schedule) loop.status loop.registry
      (acks ++ loop.acks) := by
  induction schedule generalizing process registry acks with
  | nil =>
      dsimp only [registrationsIn, List.filterMap_nil, runRegistrationLoop]
      rw [List.append_nil]
      exact h
  | cons head rest ih =>
      obtain ⟨part, turn⟩ := head
      cases part with
      | connection number => exact ih (h.connection number turn)
      | registrationLoop =>
          cases turn with
          | spawn | dashboard => exact ih (h.own _ rfl h.same)
          | register connection =>
              obtain ⟨htask, hsame⟩ := h.same.round host acks connection
              have hcons : registrationsIn ((.registrationLoop, .register connection) :: rest) =
                  connection :: registrationsIn rest := rfl
              rw [hcons]
              have hround := loopRound host registry acks connection (registrationsIn rest)
              cases hround with
              | goesOn ack hround hloop =>
                  have hstep : Task.step host process.store (.registrationLoop .running acks)
                      (.register connection) =
                      (_, .registrationLoop .running (acks ++ [ack]), _) :=
                    Prod.ext rfl (Prod.ext (htask.trans hround) rfl)
                  have hnext := ih (h.own _ hstep hsame)
                  dsimp only at hnext
                  rw [List.append_assoc] at hnext
                  rw [hloop]
                  exact hnext
              | stops status more hended hround hloop =>
                  have hstep : Task.step host process.store (.registrationLoop .running acks)
                      (.register connection) =
                      (_, .registrationLoop status (acks ++ more), _) :=
                    Prod.ext rfl (Prod.ext (htask.trans hround) rfl)
                  rw [hloop]
                  exact (h.own _ hstep hsame).ended hended rest

/-- Dashboards, and whatever comes over their connections and from the targets, change
nothing for those who register: under every schedule the acknowledgements, the end of the
loop if it came, and the registrations are those of the loop alone over its connections. -/
theorem registrations_undisturbed (host : RelayHost) (policy : RegistrationPolicy)
    (schedule : List (TaskId × TaskTurn)) :
    let process := (RelayProcess.machine host).final (.start policy) schedule
    let loop := runRegistrationLoop host.fromStr (.new policy) (registrationsIn schedule)
    process.parts .registrationLoop = .registrationLoop loop.status loop.acks ∧
      process.store.registrations = loop.registry.registrations := by
  intro process loop
  have hstart : BesideLoop (.start policy) .running (.new policy) [] :=
    ⟨⟨rfl, rfl⟩, rfl, fun _ => rfl⟩
  have hfinal := hstart.final host schedule
  exact ⟨hfinal.loop, hfinal.same.registrations⟩

end SupervisorRelay
