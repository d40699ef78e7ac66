import SupervisorRelay.Registry.Runs

/-! A registration sent again. Whichever way the first call went in, the second one
updates the record that the first one stored, and moves only its times. -/
namespace SupervisorRelay.TargetProcessRegistry

variable {registry : TargetProcessRegistry} {normalize : PathBuf → RelayResult String}
variable {request : RegistrationRequest} {ownerIdentity : String} {now later : OffsetDateTime}

/-- The registry with the times of one target moved. -/
def retimed (registry : TargetProcessRegistry) (targetId : String)
    (now expiresAt : OffsetDateTime) : TargetProcessRegistry :=
  { registry with
    registrations := HashMap.modify targetId (fun registration =>
      { registration with renewedAt := now, expiresAt := expiresAt }) registry.registrations
    connections := HashMap.modify targetId (fun connection =>
      { connection with updatedAt := now }) registry.connections }

/-- A stored record passes the checks that let it in. -/
theorem registerChecks_stored {ipcPathKey : String}
    (connections : HashMap String TargetProcessConnection)
    (registeredAt now expiresAt : OffsetDateTime)
    (hchecks : registry.registerChecks normalize request ownerIdentity = .ok ipcPathKey) :
    registerChecks { registry with
        connections := connections
        registrations := registry.registrations.insert request.targetId
          (recordOf request ownerIdentity ipcPathKey registeredAt now expiresAt) }
      normalize request ownerIdentity = .ok ipcPathKey := by
  obtain ⟨hvalid, hkey, howner, hconflict⟩ := registerChecks_ok.mp hchecks
  refine registerChecks_ok.mpr ⟨hvalid, hkey, ?_, ?_⟩
  · intro existing hexisting
    rw [HashMap.lookup_insert_self] at hexisting
    cases hexisting
    rfl
  · intro targetId registration hlookup hsame
    rw [HashMap.lookup_insert] at hlookup
    split at hlookup
    · assumption
    · exact hconflict targetId registration hlookup hsame

/-- A registration of a target that holds the very same path keeps its connection. -/
theorem register_again {ipcPathKey : String} {registeredAt expiresAt laterExpiry : OffsetDateTime}
    {connections : HashMap String TargetProcessConnection}
    (hchecks : registry.registerChecks normalize request ownerIdentity = .ok ipcPathKey)
    (hexpiry : leaseExpiry later request.leaseSeconds = some laterExpiry) :
    let stored := registry.registrations.insert request.targetId
      (recordOf request ownerIdentity ipcPathKey registeredAt now expiresAt)
    register { registry with connections := connections, registrations := stored }
        normalize request ownerIdentity later =
      (.returned (.ok (recordOf request ownerIdentity ipcPathKey registeredAt later laterExpiry)),
        { registry with
          connections := HashMap.modify request.targetId (upsertConnection request false later)
            connections
          registrations := stored.insert request.targetId
            (recordOf request ownerIdentity ipcPathKey registeredAt later laterExpiry) }) := by
  intro stored
  have hagain := registerChecks_stored connections registeredAt now expiresAt hchecks
  have hfound : stored.lookup request.targetId =
      some (recordOf request ownerIdentity ipcPathKey registeredAt now expiresAt) :=
    HashMap.lookup_insert_self _ _ _
  have hspec := register_spec
    { registry with connections := connections, registrations := stored } normalize request
    ownerIdentity later
  generalize register { registry with connections := connections, registrations := stored }
    normalize request ownerIdentity later = call at hspec ⊢
  cases hspec with
  | rejected error hrefused =>
      rw [hagain] at hrefused
      cases hrefused
  | panicked key hpassed hnone =>
      rw [hexpiry] at hnone
      cases hnone
  | inserted key laterEnd hpassed hsome hnew =>
      exact absurd (HashMap.mem_of_lookup hfound) hnew
  | updated key laterEnd existing hpassed hsome hexisting =>
      cases hagain.symm.trans hpassed
      cases hexpiry.symm.trans hsome
      cases hfound.symm.trans hexisting
      simp [recordOf]

/-- The connection that a first call leaves has the path of its request, so a second
call finds nothing to write there but the time. -/
theorem upsertConnection_again (pathChanged : Bool) (connection : TargetProcessConnection) :
    upsertConnection request false later (upsertConnection request pathChanged now connection) =
      { upsertConnection request pathChanged now connection with updatedAt := later } := by
  unfold upsertConnection
  cases pathChanged <;> rfl

/-- What a successful call leaves, on whichever path: its record, and a connection on
the path of the request with the time of the call. -/
structure Stored (registry : TargetProcessRegistry) (request : RegistrationRequest)
    (now : OffsetDateTime) (record : TargetProcessRegistration)
    (connections : HashMap String TargetProcessConnection)
    (after : TargetProcessRegistry) : Prop where
  after_eq : after = { registry with
    connections := connections
    registrations := registry.registrations.insert request.targetId record }
  again : ∀ later, HashMap.modify request.targetId (upsertConnection request false later)
      connections =
    HashMap.modify request.targetId (fun connection => { connection with updatedAt := later })
      connections
  updatedAt : ∀ connection, connections.lookup request.targetId = some connection →
    connection.updatedAt = now

/-- Times that are there already move nothing. -/
theorem Stored.retimed_same {record : TargetProcessRegistration}
    {connections : HashMap String TargetProcessConnection} {after : TargetProcessRegistry}
    (h : Stored registry request now record connections after) (hrenewed : record.renewedAt = now) :
    after.retimed request.targetId now record.expiresAt = after := by
  have hconnections : HashMap.modify request.targetId
      (fun connection => { connection with updatedAt := now }) connections = connections := by
    apply HashMap.modify_id
    intro connection hlookup
    rw [← h.updatedAt connection hlookup]
  rw [h.after_eq, retimed, HashMap.modify_insert, hconnections, ← hrenewed]

theorem stored_inserted (request : RegistrationRequest) (now : OffsetDateTime)
    (record : TargetProcessRegistration) :
    Stored registry request now record
      (registry.connections.insert request.targetId (freshConnection request now))
      { registry with
        connections := registry.connections.insert request.targetId (freshConnection request now)
        registrations := registry.registrations.insert request.targetId record } where
  after_eq := rfl
  again later := by
    rw [HashMap.modify_insert, HashMap.modify_insert]
    rfl
  updatedAt connection hlookup := by
    rw [HashMap.lookup_insert_self] at hlookup
    cases hlookup
    rfl

theorem stored_updated (request : RegistrationRequest) (pathChanged : Bool)
    (now : OffsetDateTime) (record : TargetProcessRegistration) :
    Stored registry request now record
      (HashMap.modify request.targetId (upsertConnection request pathChanged now)
        registry.connections)
      { registry with
        connections := HashMap.modify request.targetId
          (upsertConnection request pathChanged now) registry.connections
        registrations := registry.registrations.insert request.targetId record } where
  after_eq := rfl
  again later := by
    rw [HashMap.modify_modify, HashMap.modify_modify]
    congr 1
    funext connection
    exact upsertConnection_again pathChanged connection
  updatedAt connection hlookup := by
    rw [HashMap.lookup_modify_self] at hlookup
    obtain ⟨earlier, -, rfl⟩ := Option.map_eq_some_iff.mp hlookup
    unfold upsertConnection
    cases pathChanged <;> rfl

theorem register_stored {record : TargetProcessRegistration}
    (h : (registry.register normalize request ownerIdentity now).1 = .returned (.ok record)) :
    ∃ ipcPathKey registeredAt expiresAt connections,
      registry.registerChecks normalize request ownerIdentity = .ok ipcPathKey ∧
        leaseExpiry now request.leaseSeconds = some expiresAt ∧
        record = recordOf request ownerIdentity ipcPathKey registeredAt now expiresAt ∧
        Stored registry request now record connections
          (registry.register normalize request ownerIdentity now).2 := by
  have hspec := register_spec registry normalize request ownerIdentity now
  generalize registry.register normalize request ownerIdentity now = call at h hspec ⊢
  cases hspec with
  | rejected => cases h
  | panicked => cases h
  | inserted ipcPathKey expiresAt hchecks hexpiry hnew =>
      cases h
      exact ⟨ipcPathKey, now, expiresAt, _, hchecks, hexpiry, rfl, stored_inserted request now _⟩
  | updated ipcPathKey expiresAt existing hchecks hexpiry hexisting =>
      cases h
      exact ⟨ipcPathKey, existing.registeredAt, expiresAt, _, hchecks, hexpiry, rfl,
        stored_updated request _ now _⟩

/-- A registration that succeeded succeeds again, and then differs from the first one
in `renewed_at`, `expires_at` and `updated_at` of its target; at the same time it
changes nothing. -/
theorem registration_retry (registry : TargetProcessRegistry)
    (normalize : PathBuf → RelayResult String) (request : RegistrationRequest)
    (ownerIdentity : String) (now later : OffsetDateTime) (record : TargetProcessRegistration)
    (laterExpiry : OffsetDateTime)
    (hfirst : (registry.register normalize request ownerIdentity now).1 = .returned (.ok record))
    (hexpiry : leaseExpiry later request.leaseSeconds = some laterExpiry) :
    let first := registry.register normalize request ownerIdentity now
    let second := first.2.register normalize request ownerIdentity later
    second = (.returned (.ok { record with renewedAt := later, expiresAt := laterExpiry }),
        first.2.retimed request.targetId later laterExpiry) ∧
      (later = now → second = first) := by
  intro first second
  obtain ⟨ipcPathKey, registeredAt, expiresAt, connections, hchecks, hfirstExpiry, rfl, hstored⟩ :=
    register_stored hfirst
  have hsecond : second = _ :=
    (congrArg (register · normalize request ownerIdentity later) hstored.after_eq).trans
      (register_again hchecks hexpiry)
  have hretimed : second =
      (.returned (.ok (recordOf request ownerIdentity ipcPathKey registeredAt later laterExpiry)),
        first.2.retimed request.targetId later laterExpiry) := by
    rw [hsecond, hstored.again later, AList.insert_insert]
    have hafter : first.2 = _ := hstored.after_eq
    rw [hafter, retimed, HashMap.modify_insert]
    rfl
  refine ⟨hretimed, fun hsame => ?_⟩
  subst hsame
  cases hexpiry.symm.trans hfirstExpiry
  rw [hretimed]
  exact Prod.ext hfirst.symm (hstored.retimed_same rfl)

/-- A target that moves to another path, and the same message once more a minute later. -/
theorem registration_retry_moved :
    let registry := machine.final (new (samplePolicy 120))
      [.register .ok (sampleRequest "payments-worker-a" "/run/rust-supervisor/a.sock" 30) "uid:501"
        .unixEpoch]
    let moved := sampleRequest "payments-worker-a" "/run/rust-supervisor/b.sock" 30
    let later : OffsetDateTime := ⟨60 * nanosPerSecond, by decide⟩
    let first := registry.register .ok moved "uid:501" .unixEpoch
    ∃ record laterExpiry, first.1 = .returned (.ok record) ∧
      first.2.register .ok moved "uid:501" later =
        (.returned (.ok { record with renewedAt := later, expiresAt := laterExpiry }),
          first.2.retimed "payments-worker-a" later laterExpiry) := by
  intro registry moved later first
  have hisOk : first.1.isOk = true := by decide +kernel
  obtain ⟨record, hrecord⟩ := Outcome.isOk_iff.mp hisOk
  have hinRange : (leaseExpiry later 30).isSome = true := by decide +kernel
  obtain ⟨laterExpiry, hexpiry⟩ := Option.isSome_iff_exists.mp hinRange
  exact ⟨record, laterExpiry, hrecord, (registration_retry registry .ok moved "uid:501" .unixEpoch
    later record laterExpiry hrecord hexpiry).1⟩

end SupervisorRelay.TargetProcessRegistry
