import SupervisorRelay.Service.Handshake

/-! The start of a session: it publishes the active targets, reads them again and
binds each. The registry lock is given up in between, so the two readings and every
binding meet a registry of their own. -/
namespace SupervisorRelay

namespace DashboardSession

/-- The target is registered and active, has a connection record, and answers. -/
def CanBind (session : DashboardSession) (targetId : String) (registry : TargetProcessRegistry)
    (ipc : TargetIpcPort) (now : OffsetDateTime) : Prop :=
  ∃ registration, session.bindChecks targetId registry now = .ok registration ∧
    targetId ∈ registry.connections ∧
    (∃ state, ipc.connectState registration now = .ok state) ∧
    ipc.subscribeEventLog registration now = .ok ()

theorem mem_bindTarget {session : DashboardSession} {targetId : String}
    {registry : TargetProcessRegistry} {ipc : TargetIpcPort} {now : OffsetDateTime}
    (other : String) :
    other ∈ (session.bindTarget targetId registry ipc now).session.boundTargets ↔
      other ∈ session.boundTargets ∨
        other = targetId ∧ session.CanBind targetId registry ipc now := by
  have hkept (h : ¬session.CanBind targetId registry ipc now) :
      other ∈ session.boundTargets ↔ other ∈ session.boundTargets ∨
        other = targetId ∧ session.CanBind targetId registry ipc now := by
    simp [h]
  have houtcome := bindTarget_outcome session targetId registry ipc now
  generalize session.bindTarget targetId registry ipc now = step at houtcome ⊢
  cases houtcome with
  | refused error hchecks =>
      refine hkept ?_
      rintro ⟨registration, hpassed, -⟩
      cases hchecks.symm.trans hpassed
  | already registration hchecks hbound =>
      constructor
      · exact .inl
      · rintro (hmem | ⟨rfl, -⟩)
        · exact hmem
        · exact hbound
  | unconnected registration error hchecks hnew hmissing =>
      refine hkept ?_
      rintro ⟨-, -, hmem, -⟩
      exact hmissing hmem
  | unreachable registration binding error hchecks hnew hbegin hconnect =>
      refine hkept ?_
      rintro ⟨again, hpassed, -, ⟨state, hstate⟩, -⟩
      cases hchecks.symm.trans hpassed
      cases hconnect.symm.trans hstate
  | unsubscribed registration binding connected state error hchecks hnew hbegin hconnect hmark
      hsubscribe =>
      refine hkept ?_
      rintro ⟨again, hpassed, -, -, hsubscribed⟩
      cases hchecks.symm.trans hpassed
      cases hsubscribe.symm.trans hsubscribed
  | bound registration binding connected state hchecks hnew hbegin hconnect hmark hsubscribe =>
      have hmem := (TargetProcessRegistry.mem_beginBinding hbegin).1
      have hcan : session.CanBind targetId registry ipc now :=
        ⟨registration, hchecks, hmem, ⟨state, hconnect⟩, hsubscribe⟩
      rw [Finset.mem_insert, or_comm]
      simp [hcan]

end DashboardSession

namespace DashboardRun

/-- The target can be bound when this run next takes the lock. -/
def CanBind (environment : SessionEnvironment) (run : DashboardRun) (targetId : String) : Prop :=
  (run.lock environment).2.session.CanBind targetId (run.lock environment).2.registry
    (run.lock environment).1.ipc.port (run.lock environment).1.now

variable {environment : SessionEnvironment} {run : DashboardRun}

/-- A binding in turn binds what can be bound at its turn. -/
theorem mem_foldl_bindLocked (targetIds : List String) (other : String) :
    other ∈ (targetIds.foldl (bindLocked environment) run).session.boundTargets ↔
      other ∈ run.session.boundTargets ∨
        ∃ before after, targetIds = before ++ other :: after ∧
          (before.foldl (bindLocked environment) run).CanBind environment other := by
  induction targetIds generalizing run with
  | nil => simp
  | cons targetId rest ih =>
      have hstep : other ∈ (run.bindLocked environment targetId).session.boundTargets ↔
          other ∈ run.session.boundTargets ∨
            other = targetId ∧ run.CanBind environment targetId :=
        DashboardSession.mem_bindTarget other
      rw [List.foldl_cons, ih, hstep, or_assoc]
      refine or_congr_right ?_
      constructor
      · rintro (⟨rfl, hcan⟩ | ⟨before, after, rfl, hcan⟩)
        · exact ⟨[], rest, rfl, hcan⟩
        · exact ⟨targetId :: before, after, rfl, hcan⟩
      · rintro ⟨before, after, hsplit, hcan⟩
        cases before with
        | nil =>
            cases hsplit
            exact .inl ⟨rfl, hcan⟩
        | cons first before =>
            cases hsplit
            exact .inr ⟨before, after, rfl, hcan⟩

/-- The active targets that a lock taken now would read. -/
def readActive (environment : SessionEnvironment) (run : DashboardRun) : List String :=
  ((run.lock environment).2.registry.activeTargets (run.lock environment).1.now).map (·.targetId)

end DashboardRun

/-- The targets of the target lists among the messages. -/
def announcedTargets (messages : List ServerMessage) : List String :=
  messages.flatMap fun
    | .targetList targets => targets.map (·.targetId)
    | _ => []

/-- Every bound target, and the target of every state, is announced before. -/
structure AnnouncedFirst (messages : List ServerMessage) (session : DashboardSession) : Prop where
  bound : ∀ targetId ∈ session.boundTargets, targetId ∈ announcedTargets messages
  states : ∀ before targetId payload after,
    messages = before ++ .state targetId payload :: after → targetId ∈ announcedTargets before

variable {environment : SessionEnvironment} {identity : RemoteIdentity}
variable {registry : TargetProcessRegistry} {hello : ClientHello}

/-- What a session has sent once it is started up. -/
theorem startUp_sent (environment : SessionEnvironment) (identity : RemoteIdentity)
    (registry : TargetProcessRegistry) (hello : ClientHello) :
    let accepted := acceptedRun environment identity registry hello
    let started := accepted.startUp environment
    ∃ targets states, started.sent =
        openingMessage environment identity :: .targetList targets :: states ∧
      targets.map (·.targetId) = accepted.readActive environment ∧
      ∀ message ∈ states, ∃ targetId payload, message = .state targetId payload ∧
        targetId ∈ started.session.boundTargets := by
  intro accepted started
  let published := accepted.publishActiveTargets environment
  have hbinds := DashboardRun.foldl_bindLocked_binds environment (published.lock environment).2
    (published.readActive environment)
  obtain ⟨states, hstates, hall⟩ := hbinds.states
  refine ⟨_, states, ?_, rfl, hall⟩
  have hsent : started.sent = [openingMessage environment identity] ++
      ((published.readActive environment).foldl (DashboardRun.bindLocked environment)
        (published.lock environment).2).session.outbox :=
    congrArg (· ++ _) hbinds.sent
  rw [hsent, hstates]
  rfl

/-- A target list and states behind it announce what the list holds. -/
theorem announcedTargets_opened (environment : SessionEnvironment) (identity : RemoteIdentity)
    (targets : List VisibleTarget) {states : List ServerMessage}
    (h : ∀ message ∈ states, ∃ targetId payload, message = .state targetId payload) :
    announcedTargets (openingMessage environment identity :: .targetList targets :: states) =
      targets.map (·.targetId) := by
  have hstates : announcedTargets states = [] := by
    refine List.flatMap_eq_nil_iff.mpr fun message hmem => ?_
    obtain ⟨targetId, payload, rfl⟩ := h message hmem
    rfl
  have hlist : announcedTargets (openingMessage environment identity :: .targetList targets ::
      states) = targets.map (·.targetId) ++ announcedTargets states := rfl
  rw [hlist, hstates, List.append_nil]

/-- What is announced first is what the first reading saw. -/
theorem announcedFirst_iff (environment : SessionEnvironment) (identity : RemoteIdentity)
    (registry : TargetProcessRegistry) (hello : ClientHello) :
    let accepted := acceptedRun environment identity registry hello
    let started := accepted.startUp environment
    AnnouncedFirst started.sent started.session ↔
      ∀ targetId ∈ started.session.boundTargets, targetId ∈ accepted.readActive environment := by
  intro accepted started
  obtain ⟨targets, states, hsent, htargets, hstates⟩ :=
    startUp_sent environment identity registry hello
  change started.sent = _ at hsent
  have hnamed : ∀ message ∈ states, ∃ targetId payload,
      message = ServerMessage.state targetId payload := by
    intro message hmem
    obtain ⟨targetId, payload, heq, -⟩ := hstates message hmem
    exact ⟨targetId, payload, heq⟩
  rw [hsent, show accepted.readActive environment = _ from htargets.symm]
  constructor
  · intro h targetId hbound
    rw [← announcedTargets_opened environment identity targets hnamed]
    exact h.bound targetId hbound
  · intro h
    refine ⟨fun targetId hbound => ?_, fun before targetId payload after hsplit => ?_⟩
    · rw [announcedTargets_opened environment identity targets hnamed]
      exact h targetId hbound
    · -- a state is neither of the first two messages
      rcases before with _ | ⟨first, _ | ⟨second, before⟩⟩
      · cases hsplit
      · cases hsplit
      · simp only [List.cons_append, List.cons.injEq] at hsplit
        obtain ⟨rfl, rfl, rfl⟩ := hsplit
        rw [announcedTargets_opened environment identity targets
          fun message hmem => hnamed message (List.mem_append_left _ hmem)]
        obtain ⟨other, _, heq, hbound⟩ := hstates (.state targetId payload) (by simp)
        cases heq
        exact h targetId hbound

/-- The announced list covers what a session binds at its start exactly when no target
that only the second reading saw can be bound at its turn. -/
theorem bound_targets_announced_iff (environment : SessionEnvironment)
    (identity : RemoteIdentity) (registry : TargetProcessRegistry) (hello : ClientHello) :
    let accepted := acceptedRun environment identity registry hello
    let published := accepted.publishActiveTargets environment
    let started := accepted.startUp environment
    AnnouncedFirst started.sent started.session ↔
      ∀ before targetId after,
        published.readActive environment = before ++ targetId :: after →
          targetId ∈ accepted.readActive environment ∨
            ¬(before.foldl (DashboardRun.bindLocked environment)
              (published.lock environment).2).CanBind environment targetId := by
  intro accepted published started
  have hmem (targetId : String) : targetId ∈ started.session.boundTargets ↔
      targetId ∈ (∅ : Finset String) ∨ ∃ before after,
        published.readActive environment = before ++ targetId :: after ∧
          (before.foldl (DashboardRun.bindLocked environment)
            (published.lock environment).2).CanBind environment targetId :=
    DashboardRun.mem_foldl_bindLocked (published.readActive environment) targetId
  refine (announcedFirst_iff environment identity registry hello).trans ?_
  constructor
  · intro hcovered before targetId after hsplit
    refine or_iff_not_imp_right.mpr fun hcan => ?_
    exact hcovered targetId ((hmem targetId).mpr (.inr ⟨before, after, hsplit, not_not.mp hcan⟩))
  · intro hcondition targetId hbound
    rcases (hmem targetId).mp hbound with hnone | ⟨before, after, hsplit, hcan⟩
    · cases hnone
    · exact (hcondition before targetId after hsplit).resolve_right fun h => h hcan

/-- Reads the type of a message from its text. -/
def sampleReader : MessageReader where
  fromStr raw := .ok (.object [("type", .string raw)])
  fromValue value :=
    if (value.get "type").bind Json.asStr = some "client_hello" then .ok (.clientHello sampleHello)
    else .ok (.command (sampleCommand "payments-worker-a"))

/-- A target registers at the second taking of the lock. -/
def sampleEnvironment : SessionEnvironment where
  reader := sampleReader
  newV4 _ := 0
  sessionId := 0
  startedAt := .unixEpoch
  helloAt := .unixEpoch
  turns turn := {
    others := fun registry =>
      if turn = 1 then
        (registry.register .ok
          (sampleRequest "payments-worker-a" "/run/rust-supervisor/a.sock" 30) "uid:501"
          .unixEpoch).2
      else registry
    now := .unixEpoch
    ipc := sampleClient "payments-worker-a" }

/-- It is bound, and no list has announced it. -/
theorem late_target_unannounced :
    let started := (acceptedRun sampleEnvironment sampleIdentity (.new (samplePolicy 120))
      sampleHello).startUp sampleEnvironment
    ¬AnnouncedFirst started.sent started.session := by
  intro started h
  have hbound : "payments-worker-a" ∈ started.session.boundTargets := by decide +kernel
  have hunannounced : "payments-worker-a" ∉ announcedTargets started.sent := by decide +kernel
  exact hunannounced (h.bound "payments-worker-a" hbound)

end SupervisorRelay
