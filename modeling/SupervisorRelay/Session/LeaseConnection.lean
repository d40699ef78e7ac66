import SupervisorRelay.Library.Machine
import SupervisorRelay.Session.Operations

/-! Lease state against connection state. Expiry moves both records of a target;
renewal, a same-path registration and the markings move one. -/
namespace SupervisorRelay

open TargetProcessRegistry (WellFormed Touches)

/-- What the parties do to the shared registry; sessions are whichever they are. -/
inductive SharedOp where
  | register (normalize : PathBuf → RelayResult String) (request : RegistrationRequest)
      (ownerIdentity : String) (now : OffsetDateTime)
  | renew (targetId : String) (now : OffsetDateTime)
  | expireLeases (now : OffsetDateTime)
  | bindTarget (session : DashboardSession) (targetId : String) (ipc : TargetIpcPort)
      (now : OffsetDateTime)
  | handleCommand (newV4 : Nat → Uuid) (session : DashboardSession) (command : ClientCommand)
      (ipc : TargetIpcPort) (audit : AuditRecorder) (now : OffsetDateTime)
  | reconnectTimeout (session : DashboardSession) (targetId : String) (now : OffsetDateTime)

namespace TargetProcessRegistry

def share (registry : TargetProcessRegistry) : SharedOp → TargetProcessRegistry
  | .register normalize request ownerIdentity now =>
      (registry.register normalize request ownerIdentity now).2
  | .renew targetId now => (registry.renew targetId now).2
  | .expireLeases now => (registry.expireLeases now).2
  | .bindTarget session targetId ipc now => (session.bindTarget targetId registry ipc now).registry
  | .handleCommand newV4 session command ipc audit now =>
      (session.handleCommand newV4 command registry ipc audit now).1.registry
  | .reconnectTimeout session targetId now =>
      (SupervisorRelay.reconnectTimeout session registry targetId now).2.2

def sharedMachine : Machine TargetProcessRegistry SharedOp Empty :=
  ⟨fun registry op => (registry.share op, [])⟩

/-- A target's connection is expired exactly when its registration is. -/
def Agrees (registry : TargetProcessRegistry) : Prop :=
  ∀ targetId registration connection,
    registry.registrations.lookup targetId = some registration →
      registry.connections.lookup targetId = some connection →
        (connection.state = .expired ↔ registration.registrationState = .expired)

/-- The target is not registered, or its lease flag is not expired. -/
def NotExpired (registry : TargetProcessRegistry) (targetId : String) : Prop :=
  ∀ registration, registry.registrations.lookup targetId = some registration →
    registration.registrationState ≠ .expired

/-- The step moves no single record of a target whose registration is expired: it
does not revive one on its old path, and does not mark the connection of one. -/
def SparesExpired (registry : TargetProcessRegistry) : SharedOp → Prop
  | .register normalize request ownerIdentity now => ∀ existing,
      registry.registrations.lookup request.targetId = some existing →
        registry.registerChecks normalize request ownerIdentity = .ok existing.ipcPathKey →
          leaseExpiry now request.leaseSeconds = none ∨ existing.registrationState ≠ .expired
  | .renew targetId now => ∀ existing,
      registry.registrations.lookup targetId = some existing →
        leaseExpiry now existing.leaseSeconds = none ∨ existing.registrationState ≠ .expired
  | .expireLeases _ => True
  | .bindTarget .. => True
  | .handleCommand _ session command ipc _ now => ∀ identity registration prepared answer,
      session.commandChecks command registry now = .ok (identity, registration, prepared) →
        ipc.forwardCommand registration prepared now = .ok answer →
          answer.accepted ∧ answer.status = "completed" → registry.NotExpired answer.targetId
  | .reconnectTimeout _ targetId _ => registry.NotExpired targetId

variable {registry changed : TargetProcessRegistry}

theorem agrees_new (policy : RegistrationPolicy) : Agrees (new policy) := by
  intro targetId registration connection hlookup
  simp [new] at hlookup

/-- A change of one target keeps the agreement if that target's records agree after it. -/
theorem Agrees.update (h : Agrees registry) {targetId : String}
    (hregistrations : ∀ other, other ≠ targetId →
      changed.registrations.lookup other = registry.registrations.lookup other)
    (hconnections : ∀ other, other ≠ targetId →
      changed.connections.lookup other = registry.connections.lookup other)
    (hown : ∀ registration connection,
      changed.registrations.lookup targetId = some registration →
        changed.connections.lookup targetId = some connection →
          (connection.state = .expired ↔ registration.registrationState = .expired)) :
    Agrees changed := by
  intro other registration connection hregistration hconnection
  by_cases hother : other = targetId
  · subst hother
    exact hown registration connection hregistration hconnection
  · rw [hregistrations other hother] at hregistration
    rw [hconnections other hother] at hconnection
    exact h other registration connection hregistration hconnection

/-- A marking of a target that is not expired keeps the agreement. -/
theorem Agrees.touches (h : Agrees registry) {targetId : String}
    (htouches : Touches targetId registry changed) (hlive : registry.NotExpired targetId) :
    Agrees changed := by
  have hregistrations (other : String) :
      changed.registrations.lookup other = registry.registrations.lookup other := by
    rw [htouches.registrations]
  refine h.update (fun other _ => hregistrations other) htouches.others ?_
  intro registration connection hregistration hconnection
  rw [hregistrations] at hregistration
  rcases htouches.own connection hconnection with hearlier | hstate
  · exact h targetId registration connection hregistration hearlier
  · exact iff_of_false hstate (hlive registration hregistration)

theorem Agrees.register (h : Agrees registry)
    (normalize : PathBuf → RelayResult String) (request : RegistrationRequest)
    (ownerIdentity : String) (now : OffsetDateTime)
    (hspares : SparesExpired registry (.register normalize request ownerIdentity now)) :
    Agrees (registry.register normalize request ownerIdentity now).2 := by
  generalize hcall : registry.register normalize request ownerIdentity now = call
  have hspec := hcall ▸ register_spec registry normalize request ownerIdentity now
  cases hspec with
  | rejected => exact h
  | panicked => exact h
  | inserted ipcPathKey expiresAt hchecks hexpiry hnew =>
      refine h.update (fun other hne => AList.lookup_insert_ne hne)
        (fun other hne => AList.lookup_insert_ne hne) ?_
      intro registration connection hregistration hconnection
      rw [HashMap.lookup_insert_self] at hregistration hconnection
      cases hregistration
      cases hconnection
      simp [recordOf, freshConnection]
  | updated ipcPathKey expiresAt existing hchecks hexpiry hexisting =>
      refine h.update (fun other hne => AList.lookup_insert_ne hne)
        (fun other hne => HashMap.lookup_modify_ne hne _ _) ?_
      intro registration connection hregistration hconnection
      rw [HashMap.lookup_insert_self] at hregistration
      rw [HashMap.lookup_modify_self] at hconnection
      cases hregistration
      obtain ⟨earlier, hearlier, rfl⟩ := Option.map_eq_some_iff.mp hconnection
      refine iff_of_false ?_ (by simp [recordOf])
      unfold upsertConnection
      by_cases hmoved : existing.ipcPathKey = ipcPathKey
      · -- on the old path the state stays, so the guard has to exclude an expired one
        subst hmoved
        have hlive := (hspares existing hexisting hchecks).resolve_left (by simp [hexpiry])
        simp only [bne_self_eq_false, Bool.false_eq_true, if_false]
        exact fun hstate => hlive ((h _ existing earlier hexisting hearlier).mp hstate)
      · simp [hmoved]

/-- A change of one registration in place, with its connection left alone. -/
theorem Agrees.modify (h : Agrees registry) {targetId : String}
    {existing : TargetProcessRegistration}
    (hexisting : registry.registrations.lookup targetId = some existing)
    (change : TargetProcessRegistration → TargetProcessRegistration)
    (hown : ∀ connection, registry.connections.lookup targetId = some connection →
      (connection.state = .expired ↔ (change existing).registrationState = .expired)) :
    Agrees { registry with
      registrations := HashMap.modify targetId change registry.registrations } := by
  refine h.update (fun other hne => HashMap.lookup_modify_ne hne _ _) (fun _ _ => rfl) ?_
  intro registration connection hregistration hconnection
  rw [HashMap.lookup_modify_self, hexisting] at hregistration
  cases hregistration
  exact hown connection hconnection

theorem Agrees.renew (h : Agrees registry) (targetId : String) (now : OffsetDateTime)
    (hspares : SparesExpired registry (.renew targetId now)) :
    Agrees (registry.renew targetId now).2 := by
  generalize hcall : registry.renew targetId now = call
  have hspec := hcall ▸ renew_spec registry targetId now
  cases hspec with
  | unknown => exact h
  | panicked existing hexisting hexpiry =>
      exact h.modify hexisting _ fun connection hconnection =>
        h targetId existing connection hexisting hconnection
  | renewed existing expiresAt hexisting hexpiry =>
      refine h.modify hexisting _ fun connection hconnection => ?_
      have hlive := (hspares existing hexisting).resolve_left (by simp [hexpiry])
      refine iff_of_false (fun hstate => ?_) (by simp)
      exact hlive ((h targetId existing connection hexisting hconnection).mp hstate)

/-- The sweep moves both records of a target or none. -/
theorem Agrees.expireLeases (h : Agrees registry) (hwf : WellFormed registry)
    (now : OffsetDateTime) : Agrees (registry.expireLeases now).2 := by
  intro targetId registration connection hregistration hconnection
  rw [lookup_swept] at hregistration
  obtain ⟨earlier, hearlier, rfl⟩ := Option.map_eq_some_iff.mp hregistration
  rw [hwf.sweep_connection, hearlier, Option.any_some] at hconnection
  unfold expireRegistration
  split at hconnection
  · rename_i hdue
    rw [if_pos hdue]
    obtain ⟨before, -, rfl⟩ := Option.map_eq_some_iff.mp hconnection
    simp [expiredConnection]
  · rename_i hdue
    rw [if_neg hdue]
    exact h targetId earlier connection hearlier hconnection

/-- A command marks at most the target that an accepted, completed answer names. -/
theorem handleCommand_touches {session : DashboardSession} {command : ClientCommand}
    {ipc : TargetIpcPort} {now : OffsetDateTime} {step : SessionStep ControlCommandResult}
    (h : DashboardSession.Handles session command registry ipc now step) :
    step.registry = registry ∨ ∃ identity registration prepared answer,
      session.commandChecks command registry now = .ok (identity, registration, prepared) ∧
        ipc.forwardCommand registration prepared now = .ok answer ∧
        (answer.accepted ∧ answer.status = "completed") ∧
        Touches answer.targetId registry step.registry := by
  cases h with
  | refused => exact .inl rfl
  | failed => exact .inl rfl
  | answered identity registration prepared answer finish hchecks hforward hfinish =>
      by_cases hcompleted : answer.accepted ∧ answer.status = "completed"
      · exact .inr ⟨identity, registration, prepared, answer, hchecks, hforward, hcompleted,
          hfinish.touches⟩
      · exact .inl (hfinish.quiet hcompleted)

theorem Agrees.bindTarget (h : Agrees registry) (session : DashboardSession) (targetId : String)
    (ipc : TargetIpcPort) (now : OffsetDateTime) :
    Agrees (session.bindTarget targetId registry ipc now).registry := by
  have hspec := DashboardSession.bindTarget_spec session targetId registry ipc now
  cases hchecks : session.bindChecks targetId registry now with
  | error error =>
      rw [hspec.refused error hchecks]
      exact h
  | ok registration =>
      obtain ⟨-, hlookup, hactive⟩ := DashboardSession.bindChecks_ok.mp hchecks
      refine h.touches hspec.touches fun other hother => ?_
      cases hother.symm.trans hlookup
      rw [(isActive_iff.mp hactive).1]
      simp

theorem WellFormed.share (hwf : WellFormed registry) (op : SharedOp) :
    WellFormed (registry.share op) := by
  cases op with
  | register normalize request ownerIdentity now =>
      exact hwf.register normalize request ownerIdentity now
  | renew targetId now => exact hwf.of_frames (renew_frames targetId now)
  | expireLeases now => exact hwf.of_frames (expireLeases_frames now)
  | bindTarget session targetId ipc now =>
      exact hwf.of_frames
        (DashboardSession.bindTarget_spec session targetId registry ipc now).touches.frames
  | handleCommand newV4 session command ipc audit now =>
      have hspec := DashboardSession.handleCommand_spec newV4 session command registry ipc audit now
      dsimp only [TargetProcessRegistry.share]
      rcases handleCommand_touches hspec with hsame | ⟨_, _, _, _, -, -, -, htouches⟩
      · rw [hsame]
        exact hwf
      · exact hwf.of_frames htouches.frames
  | reconnectTimeout session targetId now =>
      exact hwf.of_frames (markUnavailable_touches registry targetId _ now).frames

theorem Agrees.share (h : Agrees registry) (hwf : WellFormed registry) {op : SharedOp}
    (hspares : SparesExpired registry op) : Agrees (registry.share op) := by
  cases op with
  | register normalize request ownerIdentity now =>
      exact h.register normalize request ownerIdentity now hspares
  | renew targetId now => exact h.renew targetId now hspares
  | expireLeases now => exact h.expireLeases hwf now
  | bindTarget session targetId ipc now => exact h.bindTarget session targetId ipc now
  | handleCommand newV4 session command ipc audit now =>
      have hspec := DashboardSession.handleCommand_spec newV4 session command registry ipc audit now
      dsimp only [TargetProcessRegistry.share]
      rcases handleCommand_touches hspec with hsame |
        ⟨identity, registration, prepared, answer, hchecks, hforward, hcompleted, htouches⟩
      · rw [hsame]
        exact h
      · exact h.touches htouches
          (hspares identity registration prepared answer hchecks hforward hcompleted)
  | reconnectTimeout session targetId now =>
      exact h.touches (markUnavailable_touches registry targetId _ now) hspares

/-- Where the records agree, the summary counts expired registrations. -/
theorem Agrees.summary_expired (h : Agrees registry) (hwf : WellFormed registry) :
    registry.availabilitySummary.expired =
      registry.registrations.values.countP fun registration =>
        registration.registrationState = .expired := by
  rw [availabilitySummary_expired]
  refine HashMap.countP_values_eq (fun targetId => (hwf.sameKeys targetId).symm) fun targetId => ?_
  cases hregistration : registry.registrations.lookup targetId with
  | none =>
      have hnone : registry.connections.lookup targetId = none := by
        rw [AList.lookup_eq_none, ← hwf.sameKeys, ← AList.lookup_eq_none]
        exact hregistration
      rw [hnone]
      rfl
  | some registration =>
      have hmem := hwf.mem_connections hregistration
      obtain ⟨connection, hconnection⟩ := HashMap.mem_iff_lookup.mp hmem
      rw [hconnection, Option.any_some, Option.any_some]
      exact decide_eq_decide.mpr (h targetId registration connection hregistration hconnection)

/-- Where the records agree, no target listed as active is shown as expired. -/
theorem Agrees.activeTargets (h : Agrees registry) (hwf : WellFormed registry)
    (now : OffsetDateTime) :
    ∀ target ∈ registry.activeTargets now, target.connectionState ≠ .expired := by
  intro target hmem
  obtain ⟨registration, hvalues, rfl⟩ := List.mem_map.mp hmem
  obtain ⟨hvalue, hactive⟩ := List.mem_filter.mp hvalues
  obtain ⟨targetId, hlookup⟩ := HashMap.mem_values.mp hvalue
  have hid := hwf.registrationId targetId registration hlookup
  dsimp only
  rw [hid]
  cases hconnection : registry.connections.lookup targetId with
  | none => simp
  | some connection =>
      have hiff := h targetId registration connection hlookup hconnection
      intro hstate
      have hexpired := hiff.mp hstate
      rw [(isActive_iff.mp hactive).1] at hexpired
      cases hexpired

/-- While no step moves a single record of an expired target, lease state and
connection state agree, and with them the summary and the list of active targets. -/
theorem lease_and_connection_agree (policy : RegistrationPolicy) (ops : List SharedOp)
    (hspares : sharedMachine.Along SparesExpired (new policy) ops) :
    let registry := sharedMachine.final (new policy) ops
    (∀ targetId registration connection,
      registry.registrations.lookup targetId = some registration →
        registry.connections.lookup targetId = some connection →
          (connection.state = .expired ↔ registration.registrationState = .expired)) ∧
      registry.availabilitySummary.expired =
        (registry.registrations.values.countP fun registration =>
          registration.registrationState = .expired) ∧
      ∀ now, ∀ target ∈ registry.activeTargets now, target.connectionState ≠ .expired := by
  intro registry
  have hrun := Machine.guarded_invariant (fun state => WellFormed state ∧ Agrees state)
    (fun _ op hop hstate => ⟨hstate.1.share op, hstate.2.share hstate.1 hop⟩) hspares
    ⟨wellFormed_new policy, agrees_new policy⟩
  obtain ⟨hwf, hagrees⟩ := hrun
  exact ⟨hagrees, hagrees.summary_expired hwf, hagrees.activeTargets hwf⟩

def oneMinute : OffsetDateTime := ⟨60000000000, by decide⟩

/-- A lease of thirty seconds, swept after a minute. -/
def expiringOps : List SharedOp :=
  [.register .ok (sampleRequest "payments-worker-a" "/run/rust-supervisor/a.sock" 30) "uid:501"
    .unixEpoch, .expireLeases oneMinute]

theorem lease_and_connection_agree_swept :
    (sharedMachine.final (new (samplePolicy 120)) expiringOps).availabilitySummary.expired =
      (sharedMachine.final (new (samplePolicy 120)) expiringOps).registrations.values.countP
        fun registration => registration.registrationState = .expired := by
  have hspares : sharedMachine.Along SparesExpired (new (samplePolicy 120)) expiringOps :=
    ⟨fun existing hexisting => by simp [new] at hexisting, trivial, trivial⟩
  exact (lease_and_connection_agree (samplePolicy 120) expiringOps hspares).2.1

/-- A renewal after the sweep revives the registration and not the connection. -/
theorem renewal_disagrees :
    let registry := sharedMachine.final (new (samplePolicy 120))
      (expiringOps ++ [.renew "payments-worker-a" oneMinute])
    (registry.registrations.lookup "payments-worker-a").map (·.registrationState) =
        some .active ∧
      (registry.connections.lookup "payments-worker-a").map (·.state) = some .expired ∧
      registry.availabilitySummary.expired = 1 ∧
      (registry.activeTargets oneMinute).map (·.connectionState) = [.expired] := by
  decide +kernel

end TargetProcessRegistry
end SupervisorRelay
