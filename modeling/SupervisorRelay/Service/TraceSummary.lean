import SupervisorRelay.Registry.Leases
import SupervisorRelay.Service.ProcessSteps

/-! What each event of the process owes to the events before it: who may be admitted, what
may be registered, what a published list says, and which calls reach a target. The events
alone say it; the registry is their summary. -/
namespace SupervisorRelay

open TargetProcessRegistry (WellFormed)

/-- The record that the process acknowledged last for a target. -/
def lastRegistered (targetId : String) (trace : List (TaskId × TaskEvent)) :
    Option TargetProcessRegistration :=
  (trace.filterMap fun
    | (_, .registered registration) =>
        if registration.targetId = targetId then some registration else none
    | _ => none).getLast?

/-- A connection subscribed to the event log of a target. -/
def Subscribed (before : List (TaskId × TaskEvent)) (part : TaskId) (targetId : String) : Prop :=
  ∃ call, (part, .called call) ∈ before ∧ call.method = .subscribeEventLog ∧
    call.registration.targetId = targetId

/-- A record may be acknowledged under the policy, to the owner its target already has
and at a path that no other target holds. -/
structure Registrable (policy : RegistrationPolicy) (before : List (TaskId × TaskEvent))
    (registration : TargetProcessRegistration) : Prop where
  active : registration.registrationState = .active
  lease : 1 ≤ registration.leaseSeconds.toNat ∧
    registration.leaseSeconds.toNat ≤ policy.maxLeaseSeconds.toNat
  expiry : leaseExpiry registration.renewedAt registration.leaseSeconds =
    some registration.expiresAt
  path : policy.ipcPathIsAllowed registration.ipcPath = true
  owner : ∀ earlier, lastRegistered registration.targetId before = some earlier →
    earlier.ownerIdentity = registration.ownerIdentity ∧
      earlier.registeredAt = registration.registeredAt
  pathKey : ∀ other earlier, lastRegistered other before = some earlier →
    earlier.ipcPathKey = registration.ipcPathKey → other = registration.targetId

/-- The states that a connection can have between two turns. -/
def ConnectionState.Settled : ConnectionState → Prop
  | .registered | .connected | .reconnecting | .unavailable => True
  | _ => False

/-- A list names each target whose last acknowledged lease still runs, once and as its
record declares it. -/
structure ListsLive (before : List (TaskId × TaskEvent)) (targets : List VisibleTarget)
    (now : OffsetDateTime) : Prop where
  once : (targets.map (·.targetId)).Nodup
  live : ∀ targetId, targetId ∈ targets.map (·.targetId) ↔
    ∃ registration, lastRegistered targetId before = some registration ∧
      now < registration.expiresAt
  declared : ∀ target ∈ targets, ∃ registration,
    lastRegistered target.targetId before = some registration ∧
      target = {
        targetId := registration.targetId
        displayName := registration.displayName
        registrationState := .active
        connectionState := target.connectionState
        supportedCommands := registration.supportedCommands }
  settled : ∀ target ∈ targets, target.connectionState.Settled

/-- A valid command of the identity behind a connection, for a target that the connection
subscribed to and that declares it. -/
structure Forwards (before : List (TaskId × TaskEvent)) (part : TaskId) (call : IpcCall)
    (command : PreparedCommand) : Prop where
  target : command.targetId = call.registration.targetId
  subscribed : Subscribed before part call.registration.targetId
  supported : ∃ supported ∈ call.registration.supportedCommands,
    supported.name = command.command.wireName
  commandId : command.commandId.isBlank = false
  reason : command.reason.isBlank = false
  confirmed : command.command = .shutdownTree ∨ command.command = .removeChild ∨
    command.command = .addChild → command.confirmed = true
  requestedBy : ∃ connection identity, (part, .admitted connection identity) ∈ before ∧
    command.requestedBy = identity.principal

/-- A call goes to the target's last acknowledged record: while its lease runs, or to
read the state behind a command of the same connection. -/
structure Calls (before : List (TaskId × TaskEvent)) (part : TaskId) (call : IpcCall) :
    Prop where
  admitted : ∃ connection identity, (part, .admitted connection identity) ∈ before
  registered : lastRegistered call.registration.targetId before = some call.registration
  purpose :
    match call.caller, call.method with
    | .bindTarget, .connectState => call.now < call.registration.expiresAt
    | .bindTarget, .subscribeEventLog => call.now < call.registration.expiresAt
    | .handleCommand, .forwardCommand command =>
        call.now < call.registration.expiresAt ∧ Forwards before part call command
    | .refreshTargetStateAfterCommand, .connectState =>
        ∃ forwarding, (part, .called forwarding) ∈ before ∧ forwarding.caller = .handleCommand
    | _, _ => False

/-- What each event of the process owes to the events before it. -/
def EventAllowed (authority : WssAuthority) (policy : RegistrationPolicy)
    (before : List (TaskId × TaskEvent)) : TaskId × TaskEvent → Prop
  | (_, .registered registration) => Registrable policy before registration
  | (_, .admitted connection identity) =>
      wssIdentity authority connection = .returned (.ok identity)
  | (_, .locked _) => True
  | (_, .published targets now) => ListsLive before targets now
  | (part, .called call) => Calls before part call

theorem lastRegistered_append (targetId : String) (before more : List (TaskId × TaskEvent))
    (h : ∀ part registration, (part, .registered registration) ∈ more →
      registration.targetId ≠ targetId) :
    lastRegistered targetId (before ++ more) = lastRegistered targetId before := by
  unfold lastRegistered
  rw [List.filterMap_append]
  have hmore : more.filterMap (fun
      | (_, TaskEvent.registered registration) =>
          if registration.targetId = targetId then some registration else none
      | _ => none) = [] := by
    refine List.filterMap_eq_nil_iff.mpr fun event hmem => ?_
    split
    · rename_i part registration
      exact if_neg (h part registration hmem)
    · rfl
  rw [hmore, List.append_nil]

theorem lastRegistered_registered (before : List (TaskId × TaskEvent)) (part : TaskId)
    (registration : TargetProcessRegistration) :
    lastRegistered registration.targetId (before ++ [(part, .registered registration)]) =
      some registration := by
  simp [lastRegistered]

namespace TargetProcessRegistry

/-- No connection is under way or expired, except perhaps the one named. -/
def SettledBut (targetId : Option String) (registry : TargetProcessRegistry) : Prop :=
  ∀ other connection, some other ≠ targetId →
    registry.connections.lookup other = some connection → connection.state.Settled

variable {registry changed : TargetProcessRegistry} {targetId : String} {now : OffsetDateTime}

theorem SettledBut.weaken (h : SettledBut none registry) (targetId : Option String) :
    SettledBut targetId registry :=
  fun other connection _ hlookup => h other connection (by simp) hlookup

theorem SettledBut.modify (h : SettledBut (some targetId) registry)
    {change : TargetProcessConnection → TargetProcessConnection}
    (hchange : ∀ connection, (change connection).state.Settled) :
    SettledBut none { registry with
      connections := HashMap.modify targetId change registry.connections } := by
  intro other connection _ hlookup
  dsimp only at hlookup
  rw [HashMap.lookup_modify] at hlookup
  split at hlookup
  · obtain ⟨earlier, -, rfl⟩ := Option.map_eq_some_iff.mp hlookup
    exact hchange earlier
  · rename_i hne
    exact h other connection (by simpa using hne) hlookup

theorem SettledBut.beginBinding (h : SettledBut none registry)
    (hbegin : registry.beginBinding targetId now = .ok changed) :
    SettledBut (some targetId) changed := by
  obtain ⟨-, rfl⟩ := modifyConnection_ok.mp hbegin
  intro other connection hne hlookup
  dsimp only at hlookup
  rw [HashMap.lookup_modify_ne (by simpa using hne)] at hlookup
  exact h other connection (by simp) hlookup

theorem SettledBut.markConnected {stateGeneration : UInt64}
    (h : SettledBut (some targetId) registry)
    (hmark : registry.markConnected targetId stateGeneration now = .ok changed) :
    SettledBut none changed := by
  obtain ⟨-, rfl⟩ := modifyConnection_ok.mp hmark
  exact h.modify fun _ => trivial

theorem SettledBut.markUnavailable (h : SettledBut (some targetId) registry) (reason : String)
    (now : OffsetDateTime) : SettledBut none (registry.markUnavailable targetId reason now) := by
  rw [TargetProcessRegistry.markUnavailable, markWith_eq]
  exact h.modify fun _ => trivial

/-- The lock is not given up in the middle of a binding. -/
theorem SettledBut.bindTarget (h : SettledBut none registry) (session : DashboardSession)
    (targetId : String) (ipc : TargetIpcPort) (now : OffsetDateTime) :
    SettledBut none (session.bindTarget targetId registry ipc now).registry := by
  have houtcome := DashboardSession.bindTarget_outcome session targetId registry ipc now
  generalize session.bindTarget targetId registry ipc now = step at houtcome ⊢
  cases houtcome with
  | refused | already | unconnected => exact h
  | unreachable registration binding error hchecks hnew hbegin hconnect =>
      exact (h.beginBinding hbegin).markUnavailable _ now
  | unsubscribed registration binding connected state error hchecks hnew hbegin hconnect hmark
      hsubscribe =>
      have hconnected := (h.beginBinding hbegin).markConnected hmark
      exact (hconnected.weaken _).markUnavailable _ now
  | bound registration binding connected state hchecks hnew hbegin hconnect hmark hsubscribe =>
      exact (h.beginBinding hbegin).markConnected hmark

theorem SettledBut.refresh (h : SettledBut none registry) (session : DashboardSession)
    (targetId : String) (ipc : TargetIpcPort) (now : OffsetDateTime) :
    SettledBut none
      (session.refreshTargetStateAfterCommand targetId registry ipc now).registry := by
  unfold DashboardSession.refreshTargetStateAfterCommand
  cases registry.registration targetId with
  | error error => exact h
  | ok registration =>
      dsimp only
      cases ipc.connectState registration now with
      | error error => exact (h.weaken _).markUnavailable _ now
      | ok state =>
          dsimp only
          cases hmark : registry.markConnected targetId state.stateGeneration now with
          | error error => exact h
          | ok connected => exact (h.weaken _).markConnected hmark

theorem SettledBut.handleCommand (h : SettledBut none registry) (newV4 : Nat → Uuid)
    (session : DashboardSession) (command : ClientCommand) (ipc : TargetIpcPort)
    (audit : AuditRecorder) (now : OffsetDateTime) :
    SettledBut none
      (session.handleCommand newV4 command registry ipc audit now).1.registry := by
  unfold DashboardSession.handleCommand
  cases session.commandChecks command registry now with
  | error error => exact h
  | ok checked =>
      obtain ⟨identity, registration, prepared⟩ := checked
      dsimp only
      cases ipc.forwardCommand registration prepared now with
      | error error => exact h
      | ok answer =>
          dsimp only [DashboardSession.finishCommand]
          split
          · split <;> exact h.refresh _ _ _ _
          · exact h

theorem SettledBut.register (h : SettledBut none registry)
    (normalize : PathBuf → RelayResult String) (request : RegistrationRequest)
    (ownerIdentity : String) (now : OffsetDateTime) :
    SettledBut none (registry.register normalize request ownerIdentity now).2 := by
  generalize hcall : registry.register normalize request ownerIdentity now = call
  have hspec := hcall ▸ register_spec registry normalize request ownerIdentity now
  cases hspec with
  | rejected | panicked => exact h
  | inserted ipcPathKey expiresAt hchecks hexpiry hnew =>
      intro other connection hne hlookup
      dsimp only at hlookup
      rw [HashMap.lookup_insert] at hlookup
      split at hlookup
      · cases hlookup
        trivial
      · exact h other connection hne hlookup
  | updated ipcPathKey expiresAt existing hchecks hexpiry hexisting =>
      intro other connection hne hlookup
      dsimp only at hlookup
      rw [HashMap.lookup_modify] at hlookup
      split at hlookup
      · obtain ⟨earlier, hearlier, rfl⟩ := Option.map_eq_some_iff.mp hlookup
        unfold upsertConnection
        dsimp only
        split
        · trivial
        · exact h other earlier hne hearlier
      · exact h other connection hne hlookup

end TargetProcessRegistry

/-- The registry under the process: what the events say of its registrations, and
connections that no one is working on. -/
structure Summary (policy : RegistrationPolicy) (registry : TargetProcessRegistry)
    (trace : List (TaskId × TaskEvent)) : Prop where
  wellFormed : WellFormed registry
  policy : registry.policy = policy
  last : ∀ targetId,
    registry.registrations.lookup targetId = lastRegistered targetId trace
  active : ∀ targetId registration,
    registry.registrations.lookup targetId = some registration →
      registration.registrationState = .active
  settled : TargetProcessRegistry.SettledBut none registry

namespace Summary

variable {policy : RegistrationPolicy} {registry changed : TargetProcessRegistry}
variable {trace : List (TaskId × TaskEvent)}

theorem new (policy : RegistrationPolicy) : Summary policy (.new policy) [] where
  wellFormed := TargetProcessRegistry.wellFormed_new policy
  policy := rfl
  last _ := rfl
  active _ _ h := by cases h
  settled _ _ _ h := by cases h

/-- Whoever leaves the registrations alone and settles its connections. -/
theorem of_touches (h : Summary policy registry trace) {targetId : String}
    (htouches : TargetProcessRegistry.Touches targetId registry changed)
    (hsettled : TargetProcessRegistry.SettledBut none changed)
    {more : List (TaskId × TaskEvent)}
    (hmore : ∀ part registration, (part, .registered registration) ∉ more) :
    Summary policy changed (trace ++ more) where
  wellFormed := h.wellFormed.of_frames htouches.frames
  policy := htouches.frames.policy.trans h.policy
  last other := by
    rw [htouches.registrations, lastRegistered_append other trace more
      fun part registration hmem => absurd hmem (hmore part registration)]
    exact h.last other
  active other registration hlookup := by
    rw [htouches.registrations] at hlookup
    exact h.active other registration hlookup
  settled := hsettled

theorem quiet (h : Summary policy registry trace) {more : List (TaskId × TaskEvent)}
    (hmore : ∀ part registration, (part, .registered registration) ∉ more) :
    Summary policy registry (trace ++ more) :=
  h.of_touches (TargetProcessRegistry.Touches.refl "" registry) h.settled hmore

theorem live_iff (h : Summary policy registry trace) (now : OffsetDateTime)
    (targetId : String) :
    (registry.registrations.lookup targetId).any (TargetProcessRegistry.isActive now) = true ↔
      ∃ registration, lastRegistered targetId trace = some registration ∧
        now < registration.expiresAt := by
  rw [← h.last, Option.any_eq_true]
  refine exists_congr fun registration => and_congr_right fun hlookup => ?_
  rw [TargetProcessRegistry.isActive_iff]
  exact and_iff_right (h.active targetId registration hlookup)

theorem listsLive (h : Summary policy registry trace) (now : OffsetDateTime) :
    ListsLive trace (registry.activeTargets now) now := by
  have hids := TargetProcessRegistry.activeTargets_ids h.wellFormed now
  have hrecord (target : VisibleTarget) (hmem : target ∈ registry.activeTargets now) :
      ∃ registration, registry.registrations.lookup target.targetId = some registration ∧
        target = {
          targetId := registration.targetId
          displayName := registration.displayName
          registrationState := .active
          connectionState := target.connectionState
          supportedCommands := registration.supportedCommands } := by
    unfold TargetProcessRegistry.activeTargets at hmem
    obtain ⟨registration, hfilter, rfl⟩ := List.mem_map.mp hmem
    obtain ⟨targetId, hlookup⟩ := HashMap.mem_values.mp (List.mem_of_mem_filter hfilter)
    have hid := h.wellFormed.registrationId targetId registration hlookup
    refine ⟨registration, by rw [hid]; exact hlookup, ?_⟩
    dsimp only
    rw [h.active targetId registration hlookup]
  constructor
  · rw [hids]
    exact registry.registrations.keys_nodup.filter _
  · intro targetId
    rw [hids, List.mem_filter, h.live_iff]
    refine and_iff_right_of_imp ?_
    rintro ⟨registration, hlast, -⟩
    rw [← h.last] at hlast
    exact AList.mem_keys.mp (HashMap.mem_of_lookup hlast)
  · intro target hmem
    rw [← h.last]
    exact hrecord target hmem
  · intro target hmem
    obtain ⟨registration, hlookup, -⟩ := hrecord target hmem
    have hconnected := (h.wellFormed.sameKeys target.targetId).mp (HashMap.mem_of_lookup hlookup)
    obtain ⟨connection, hconnection⟩ := HashMap.mem_iff_lookup.mp hconnected
    have hstate : target.connectionState = connection.state := by
      unfold TargetProcessRegistry.activeTargets at hmem
      obtain ⟨other, -, rfl⟩ := List.mem_map.mp hmem
      dsimp only at hconnection ⊢
      rw [hconnection]
      rfl
    rw [hstate]
    exact h.settled target.targetId connection (by simp) hconnection

section Registers

variable {normalize : PathBuf → RelayResult String} {request : RegistrationRequest}
  {ownerIdentity : String} {now : OffsetDateTime} {registration : TargetProcessRegistration}

/-- A registration that was returned is the one that was written. -/
theorem register_returned (hcall : registry.register normalize request ownerIdentity now =
      (.returned (.ok registration), changed)) :
    ∃ ipcPathKey expiresAt,
      registry.registerChecks normalize request ownerIdentity = .ok ipcPathKey ∧
        leaseExpiry now request.leaseSeconds = some expiresAt ∧
        registration = TargetProcessRegistry.recordOf request ownerIdentity ipcPathKey
          (registry.firstRegisteredAt request.targetId now) now expiresAt ∧
        changed.registrations = registry.registrations.insert request.targetId registration := by
  have hcases := TargetProcessRegistry.register_cases registry normalize request
    ownerIdentity now
  rw [hcall] at hcases
  rcases hcases with ⟨_, _, heq⟩ | ⟨_, _, _, heq⟩ |
    ⟨ipcPathKey, expiresAt, hchecks, hexpiry, hresult, hregistrations⟩
  · cases heq
  · cases heq
  · cases hresult
    exact ⟨ipcPathKey, expiresAt, hchecks, hexpiry, rfl, hregistrations⟩

/-- What the registration loop may write, by the events before it. -/
theorem registrable (h : Summary policy registry trace)
    (hcall : registry.register normalize request ownerIdentity now =
      (.returned (.ok registration), changed)) : Registrable policy trace registration := by
  obtain ⟨ipcPathKey, expiresAt, hchecks, hexpiry, rfl, -⟩ := register_returned hcall
  obtain ⟨hvalid, -, howner, hkey⟩ := TargetProcessRegistry.registerChecks_ok.mp hchecks
  obtain ⟨-, -, hallowed, hlease, -⟩ := TargetProcessRegistry.validateRequest_ok.mp hvalid
  rw [h.policy] at hallowed hlease
  constructor
  · rfl
  · exact hlease
  · exact hexpiry
  · exact hallowed
  · intro earlier hearlier
    rw [← h.last] at hearlier
    refine ⟨howner earlier hearlier, ?_⟩
    dsimp only [TargetProcessRegistry.recordOf] at hearlier ⊢
    rw [TargetProcessRegistry.firstRegisteredAt, hearlier]
    rfl
  · intro other earlier hearlier hsame
    rw [← h.last] at hearlier
    exact hkey other earlier hearlier hsame

/-- The registry sums up the registration that was written too. -/
theorem registers (h : Summary policy registry trace)
    (hcall : registry.register normalize request ownerIdentity now =
      (.returned (.ok registration), changed)) (part : TaskId) :
    Summary policy changed (trace ++ [(part, .registered registration)]) := by
  have hwf := h.wellFormed.register normalize request ownerIdentity now
  have hpolicy := TargetProcessRegistry.register_policy registry normalize request
    ownerIdentity now
  have hsettled := h.settled.register normalize request ownerIdentity now
  rw [hcall] at hwf hpolicy hsettled
  obtain ⟨ipcPathKey, expiresAt, -, -, rfl, hregistrations⟩ := register_returned hcall
  constructor
  · exact hwf
  · exact hpolicy.trans h.policy
  · intro targetId
    rw [hregistrations, HashMap.lookup_insert]
    split
    · rename_i heq
      subst heq
      exact (lastRegistered_registered trace part _).symm
    · rename_i hne
      rw [h.last, lastRegistered_append]
      intro other registration hmem
      cases List.mem_singleton.mp hmem
      exact Ne.symm hne
  · intro targetId registration hlookup
    rw [hregistrations, HashMap.lookup_insert] at hlookup
    split at hlookup
    · cases hlookup
      rfl
    · exact h.active targetId registration hlookup
  · exact hsettled

end Registers

end Summary

end SupervisorRelay
