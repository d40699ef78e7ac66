import SupervisorRelay.Registry.Invariant
import SupervisorRelay.Registry.Leases

/-! What the fields of a connection record say about its state. Each call writes a
part of the fields; with clocks that never go back, what the other fields still hold
fits what was written. -/
namespace SupervisorRelay

/-- The fields of a connection fit its state. -/
structure TargetProcessConnection.Coherent (connection : TargetProcessConnection) : Prop where
  connected : connection.state = .connected → connection.connectedAt.isSome = true ∧
    connection.lastStateGeneration.isSome = true ∧ connection.lastError = none
  registered : connection.state = .registered → connection.lastError = none ∧
    connection.lastStateGeneration = none ∧ connection.connectedAt = none
  failed : connection.state = .reconnecting ∨ connection.state = .unavailable →
    connection.lastError.isSome = true
  since : ∀ connectedAt ∈ connection.connectedAt,
    connection.lastStateGeneration.isSome = true ∧ connectedAt ≤ connection.updatedAt
  neverDisconnected : connection.state ≠ .disconnected

/-- A coherent connection that was connected, if at all, by `limit`. -/
structure TargetProcessConnection.CoherentBy (limit : OffsetDateTime)
    (connection : TargetProcessConnection) : Prop where
  coherent : connection.Coherent
  past : ∀ connectedAt ∈ connection.connectedAt, connectedAt ≤ limit

/-- Registered before the latest renewal, and by `limit`. -/
structure TargetProcessRegistration.CoherentBy (limit : OffsetDateTime)
    (registration : TargetProcessRegistration) : Prop where
  renewed : registration.registeredAt ≤ registration.renewedAt
  past : registration.registeredAt ≤ limit

namespace TargetProcessConnection

variable {connection : TargetProcessConnection} {now : OffsetDateTime}

/-- A state without a claim on the other fields, or a failure with its reason. -/
theorem CoherentBy.mark (h : connection.CoherentBy now) {state : ConnectionState}
    {lastError : Option String}
    (hstate : state = .connecting ∨ state = .expired ∨
      (state = .reconnecting ∨ state = .unavailable) ∧ lastError.isSome = true) :
    CoherentBy now { connection with
      state := state
      lastError := lastError
      updatedAt := now } := by
  refine ⟨⟨?_, ?_, ?_, ?_, ?_⟩, h.past⟩
  · rintro rfl
    simp at hstate
  · rintro rfl
    simp at hstate
  · intro hfailed
    rcases hstate with rfl | rfl | ⟨-, hreason⟩
    · simp at hfailed
    · simp at hfailed
    · exact hreason
  · intro connectedAt hconnected
    exact ⟨(h.coherent.since connectedAt hconnected).1, h.past connectedAt hconnected⟩
  · rintro rfl
    simp at hstate

theorem coherentBy_connected (connection : TargetProcessConnection) (stateGeneration : UInt64)
    (now : OffsetDateTime) :
    CoherentBy now { connection with
      state := .connected
      lastStateGeneration := some stateGeneration
      connectedAt := some now
      updatedAt := now
      lastError := none } where
  coherent := {
    connected := fun _ => ⟨rfl, rfl, rfl⟩
    registered := nofun
    failed := by simp
    since := by
      intro connectedAt hconnected
      cases hconnected
      exact ⟨rfl, OffsetDateTime.le_refl now⟩
    neverDisconnected := nofun }
  past := by
    intro connectedAt hconnected
    cases hconnected
    exact OffsetDateTime.le_refl now

theorem CoherentBy.updateSequence (h : connection.CoherentBy now) (sequence : UInt64) :
    CoherentBy now { connection with lastSequence := some sequence } where
  coherent := ⟨h.coherent.connected, h.coherent.registered, h.coherent.failed, h.coherent.since,
    h.coherent.neverDisconnected⟩
  past := h.past

/-- A repeated registration keeps the state on the same path, and starts over on a
new one. -/
theorem CoherentBy.upsert (h : connection.CoherentBy now) (request : RegistrationRequest)
    (pathChanged : Bool) :
    CoherentBy now (TargetProcessRegistry.upsertConnection request pathChanged now connection) := by
  unfold TargetProcessRegistry.upsertConnection
  cases pathChanged with
  | false =>
      refine ⟨⟨h.coherent.connected, h.coherent.registered, h.coherent.failed, ?_,
        h.coherent.neverDisconnected⟩, h.past⟩
      intro connectedAt hconnected
      exact ⟨(h.coherent.since connectedAt hconnected).1, h.past connectedAt hconnected⟩
  | true =>
      rw [if_pos rfl]
      refine ⟨⟨nofun, nofun, fun _ => Option.isSome_some, ?_, nofun⟩, ?_⟩
      · simp
      · simp

theorem coherentBy_fresh (request : RegistrationRequest) (now : OffsetDateTime) :
    CoherentBy now (TargetProcessRegistry.freshConnection request now) where
  coherent := {
    connected := nofun
    registered := fun _ => ⟨rfl, rfl, rfl⟩
    failed := by simp [TargetProcessRegistry.freshConnection]
    since := by simp [TargetProcessRegistry.freshConnection]
    neverDisconnected := nofun }
  past := by simp [TargetProcessRegistry.freshConnection]

end TargetProcessConnection

namespace TargetProcessRegistry

/-- Every record is coherent, and none speaks of a time after `limit`. -/
structure CoherentBy (limit : OffsetDateTime) (registry : TargetProcessRegistry) : Prop where
  connections : ∀ targetId connection, registry.connections.lookup targetId = some connection →
    connection.CoherentBy limit
  registrations : ∀ targetId registration,
    registry.registrations.lookup targetId = some registration → registration.CoherentBy limit

variable {registry : TargetProcessRegistry} {limit now : OffsetDateTime}

theorem coherentBy_new (policy : RegistrationPolicy) (limit : OffsetDateTime) :
    CoherentBy limit (new policy) where
  connections targetId connection hlookup := by
    simp [new] at hlookup
  registrations targetId registration hlookup := by
    simp [new] at hlookup

theorem CoherentBy.mono (h : CoherentBy limit registry) (hle : limit ≤ now) :
    CoherentBy now registry where
  connections targetId connection hlookup := by
    have hconnection := h.connections targetId connection hlookup
    exact ⟨hconnection.coherent, fun connectedAt hconnected =>
      OffsetDateTime.le_trans (hconnection.past connectedAt hconnected) hle⟩
  registrations targetId registration hlookup := by
    have hregistration := h.registrations targetId registration hlookup
    exact ⟨hregistration.renewed, OffsetDateTime.le_trans hregistration.past hle⟩

/-- A write to one connection that keeps it coherent keeps them all coherent. -/
theorem CoherentBy.modify (h : CoherentBy now registry) (targetId : String)
    {change : TargetProcessConnection → TargetProcessConnection}
    (hchange : ∀ connection : TargetProcessConnection, connection.CoherentBy now →
      (change connection).CoherentBy now) :
    CoherentBy now { registry with
      connections := HashMap.modify targetId change registry.connections } where
  connections other connection hlookup := by
    rw [HashMap.lookup_modify] at hlookup
    split at hlookup
    · obtain ⟨earlier, hearlier, rfl⟩ := Option.map_eq_some_iff.mp hlookup
      exact hchange earlier (h.connections other earlier hearlier)
    · exact h.connections other connection hlookup
  registrations := h.registrations

theorem CoherentBy.settle (h : CoherentBy now registry) (targetId : String)
    {change : TargetProcessConnection → TargetProcessConnection}
    (hchange : ∀ connection : TargetProcessConnection, connection.CoherentBy now →
      (change connection).CoherentBy now) :
    CoherentBy now (registry.settle (registry.modifyConnection targetId change)) := by
  cases hchanged : registry.modifyConnection targetId change with
  | ok changed =>
      obtain ⟨-, rfl⟩ := modifyConnection_ok.mp hchanged
      exact h.modify targetId hchange
  | error error => exact h

theorem CoherentBy.markWith (h : CoherentBy now registry) (targetId reason : String)
    {state : ConnectionState} (hstate : state = .reconnecting ∨ state = .unavailable) :
    CoherentBy now (registry.markWith targetId state reason now) := by
  rw [markWith_eq]
  exact h.modify targetId fun connection hconnection =>
    hconnection.mark (.inr (.inr ⟨hstate, Option.isSome_some⟩))

/-- A stored registration that keeps its first date is renewed after it. -/
theorem coherentBy_recordOf {registeredAt : OffsetDateTime} (request : RegistrationRequest)
    (ownerIdentity ipcPathKey : String) (expiresAt : OffsetDateTime) (hle : registeredAt ≤ now) :
    TargetProcessRegistration.CoherentBy now
      (recordOf request ownerIdentity ipcPathKey registeredAt now expiresAt) :=
  ⟨hle, hle⟩

theorem CoherentBy.register (h : CoherentBy now registry)
    (normalize : PathBuf → RelayResult String) (request : RegistrationRequest)
    (ownerIdentity : String) :
    CoherentBy now (registry.register normalize request ownerIdentity now).2 := by
  generalize hcall : registry.register normalize request ownerIdentity now = call
  have hspec := hcall ▸ register_spec registry normalize request ownerIdentity now
  cases hspec with
  | rejected => exact h
  | panicked => exact h
  | inserted ipcPathKey expiresAt hchecks hexpiry hnew =>
      constructor
      · intro targetId connection hlookup
        rw [HashMap.lookup_insert] at hlookup
        split at hlookup
        · cases hlookup
          exact TargetProcessConnection.coherentBy_fresh request now
        · exact h.connections targetId connection hlookup
      · intro targetId registration hlookup
        rw [HashMap.lookup_insert] at hlookup
        split at hlookup
        · cases hlookup
          exact coherentBy_recordOf request _ _ _ (OffsetDateTime.le_refl now)
        · exact h.registrations targetId registration hlookup
  | updated ipcPathKey expiresAt existing hchecks hexpiry hexisting =>
      have hmodified := h.modify request.targetId fun connection hconnection =>
        hconnection.upsert request (existing.ipcPathKey != ipcPathKey)
      refine ⟨hmodified.connections, fun targetId registration hlookup => ?_⟩
      rw [HashMap.lookup_insert] at hlookup
      split at hlookup
      · cases hlookup
        exact coherentBy_recordOf request _ _ _ (h.registrations _ existing hexisting).past
      · exact h.registrations targetId registration hlookup

theorem CoherentBy.renew (h : CoherentBy now registry) (targetId : String) :
    CoherentBy now (registry.renew targetId now).2 := by
  generalize hcall : registry.renew targetId now = call
  have hspec := hcall ▸ renew_spec registry targetId now
  have hmodify {change : TargetProcessRegistration → TargetProcessRegistration}
      (hchange : ∀ registration, (change registration).registeredAt = registration.registeredAt ∧
        (change registration).renewedAt = now) :
      CoherentBy now { registry with
        registrations := HashMap.modify targetId change registry.registrations } := by
    refine ⟨h.connections, fun other registration hlookup => ?_⟩
    rw [HashMap.lookup_modify] at hlookup
    split at hlookup
    · obtain ⟨earlier, hearlier, rfl⟩ := Option.map_eq_some_iff.mp hlookup
      have hpast := (h.registrations other earlier hearlier).past
      obtain ⟨hregistered, hrenewed⟩ := hchange earlier
      constructor
      · rw [hregistered, hrenewed]
        exact hpast
      · rw [hregistered]
        exact hpast
    · exact h.registrations other registration hlookup
  cases hspec with
  | unknown => exact h
  | panicked => exact hmodify fun registration => ⟨rfl, rfl⟩
  | renewed => exact hmodify fun registration => ⟨rfl, rfl⟩

theorem CoherentBy.expireLeases (h : CoherentBy now registry) :
    CoherentBy now (registry.expireLeases now).2 := by
  constructor
  · intro targetId connection hlookup
    rw [expireLeases_connection] at hlookup
    split at hlookup
    · obtain ⟨earlier, hearlier, rfl⟩ := Option.map_eq_some_iff.mp hlookup
      exact (h.connections targetId earlier hearlier).mark (.inr (.inl rfl))
    · exact h.connections targetId connection hlookup
  · intro targetId registration hlookup
    rw [lookup_swept] at hlookup
    obtain ⟨earlier, hearlier, rfl⟩ := Option.map_eq_some_iff.mp hlookup
    have hcoherent := h.registrations targetId earlier hearlier
    unfold expireRegistration
    split
    · exact ⟨hcoherent.renewed, hcoherent.past⟩
    · exact hcoherent

/-- A call made at `now`, after all that the records speak of. -/
theorem CoherentBy.apply (h : CoherentBy now registry) {op : RegistryOp}
    (htime : ∀ time ∈ op.time, time = now) : CoherentBy now (registry.apply op).1 := by
  cases op with
  | register normalize request ownerIdentity time =>
      cases htime time rfl
      rw [apply_register]
      exact h.register normalize request ownerIdentity
  | renew targetId time =>
      cases htime time rfl
      rw [apply_renew]
      exact h.renew targetId
  | expireLeases time =>
      cases htime time rfl
      exact h.expireLeases
  | beginBinding targetId time =>
      cases htime time rfl
      exact h.settle targetId fun connection hconnection => hconnection.mark (.inl rfl)
  | markConnected targetId stateGeneration time =>
      cases htime time rfl
      exact h.settle targetId fun connection _ =>
        TargetProcessConnection.coherentBy_connected connection stateGeneration now
  | markReconnecting targetId reason time =>
      cases htime time rfl
      exact h.markWith targetId reason (.inl rfl)
  | markUnavailable targetId reason time =>
      cases htime time rfl
      exact h.markWith targetId reason (.inr rfl)
  | updateSequence targetId sequence =>
      exact h.modify targetId fun connection hconnection => hconnection.updateSequence sequence

/-- Calls whose times never go back keep every record coherent. -/
theorem CoherentBy.run (h : CoherentBy limit registry) {ops : List RegistryOp}
    (hmono : (limit :: ops.filterMap RegistryOp.time).Pairwise (· ≤ ·)) :
    ∃ last, CoherentBy last (machine.final registry ops) := by
  induction ops generalizing registry limit with
  | nil => exact ⟨limit, h⟩
  | cons op rest ih =>
      cases htime : op.time with
      | none =>
          rw [List.filterMap_cons_none htime] at hmono
          exact ih (h.apply (by simp [htime])) hmono
      | some now =>
          rw [List.filterMap_cons_some htime] at hmono
          obtain ⟨hfirst, hrest⟩ := List.pairwise_cons.mp hmono
          have hlater := h.mono (hfirst now List.mem_cons_self)
          exact ih (hlater.apply (by simp [htime])) hrest

/-- The records of every target fit together after any calls whose times never go
back: the state of a connection with its other fields, and the dates of its lease. -/
theorem records_coherent (policy : RegistrationPolicy) (ops : List RegistryOp)
    (hmono : (ops.filterMap RegistryOp.time).Pairwise (· ≤ ·)) :
    let registry := machine.final (new policy) ops
    ∀ targetId connection, registry.connections.lookup targetId = some connection →
      connection.Coherent ∧ ∃ registration,
        registry.registrations.lookup targetId = some registration ∧
          registration.registeredAt ≤ registration.renewedAt := by
  intro registry targetId connection hlookup
  have hwf : WellFormed registry := wellFormed_final policy ops
  let earliest : OffsetDateTime := ⟨OffsetDateTime.minNanos, by decide⟩
  have hfirst : (earliest :: ops.filterMap RegistryOp.time).Pairwise (· ≤ ·) :=
    List.pairwise_cons.mpr ⟨fun time _ => time.inRange.1, hmono⟩
  obtain ⟨last, hcoherent⟩ := (coherentBy_new policy earliest).run hfirst
  have hmem : targetId ∈ registry.registrations :=
    (hwf.sameKeys targetId).mpr (HashMap.mem_of_lookup hlookup)
  obtain ⟨registration, hregistration⟩ := HashMap.mem_iff_lookup.mp hmem
  exact ⟨(hcoherent.connections targetId connection hlookup).coherent, registration,
    hregistration, (hcoherent.registrations targetId registration hregistration).renewed⟩

/-- Connected, and then moved to a new path. -/
def sampleLifeOps : List RegistryOp :=
  [.register .ok (sampleRequest "payments-worker-a" "/run/rust-supervisor/a.sock" 30) "uid:501"
      .unixEpoch,
    .beginBinding "payments-worker-a" .unixEpoch,
    .markConnected "payments-worker-a" 1 .unixEpoch,
    .register .ok (sampleRequest "payments-worker-a" "/run/rust-supervisor/b.sock" 30) "uid:501"
      .unixEpoch,
    .updateSequence "payments-worker-a" 4]

theorem records_coherent_moved :
    let registry := machine.final (new (samplePolicy 120)) sampleLifeOps
    ∃ connection, registry.connections.lookup "payments-worker-a" = some connection ∧
      connection.state = .reconnecting ∧ connection.lastError.isSome = true := by
  intro registry
  have hstate : (registry.connections.lookup "payments-worker-a").any
      fun connection => connection.state = .reconnecting := by decide +kernel
  obtain ⟨connection, hlookup, hreconnecting⟩ := Option.any_eq_true _ _ |>.mp hstate
  have hmono : (sampleLifeOps.filterMap RegistryOp.time).Pairwise (· ≤ ·) := by decide
  obtain ⟨hcoherent, -⟩ := records_coherent (samplePolicy 120) sampleLifeOps hmono
    "payments-worker-a" connection hlookup
  have hfailed := hcoherent.failed (.inl (of_decide_eq_true hreconnecting))
  exact ⟨connection, hlookup, of_decide_eq_true hreconnecting, hfailed⟩

end TargetProcessRegistry
end SupervisorRelay
