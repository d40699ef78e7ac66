import SupervisorRelay.Registry.Runs

/-! The representation invariant of the two maps, and the counters of the
availability summary that depend on it. -/
namespace SupervisorRelay.TargetProcessRegistry

structure WellFormed (registry : TargetProcessRegistry) : Prop where
  sameKeys : ∀ targetId, targetId ∈ registry.registrations ↔ targetId ∈ registry.connections
  registrationId : ∀ targetId registration,
    registry.registrations.lookup targetId = some registration → registration.targetId = targetId
  connectionId : ∀ targetId connection,
    registry.connections.lookup targetId = some connection → connection.targetId = targetId
  samePath : ∀ targetId registration connection,
    registry.registrations.lookup targetId = some registration →
      registry.connections.lookup targetId = some connection →
        registration.ipcPath = connection.ipcPath
  uniquePathKey : ∀ first second registration other,
    registry.registrations.lookup first = some registration →
      registry.registrations.lookup second = some other →
        registration.ipcPathKey = other.ipcPathKey → first = second
  leaseBounds : ∀ targetId registration,
    registry.registrations.lookup targetId = some registration →
      1 ≤ registration.leaseSeconds.toNat ∧
        registration.leaseSeconds.toNat ≤ registry.policy.maxLeaseSeconds.toNat

theorem wellFormed_new (policy : RegistrationPolicy) : WellFormed (new policy) := by
  constructor <;> simp [new]

variable {registry changed : TargetProcessRegistry}

theorem Frames.registration (h : Frames registry changed) {targetId : String}
    {registration : TargetProcessRegistration}
    (hlookup : changed.registrations.lookup targetId = some registration) :
    ∃ earlier, registry.registrations.lookup targetId = some earlier ∧
      earlier.declaration = registration.declaration := by
  have hsame := h.declared targetId
  simp only [TargetProcessRegistry.declared, hlookup, Option.map_some] at hsame
  exact Option.map_eq_some_iff.mp hsame.symm

theorem Frames.connection (h : Frames registry changed) {targetId : String}
    {connection : TargetProcessConnection}
    (hlookup : changed.connections.lookup targetId = some connection) :
    ∃ earlier, registry.connections.lookup targetId = some earlier ∧
      earlier.place = connection.place := by
  have hsame := h.placed targetId
  simp only [TargetProcessRegistry.placed, hlookup, Option.map_some] at hsame
  exact Option.map_eq_some_iff.mp hsame.symm

theorem Frames.mem_registrations (h : Frames registry changed) (targetId : String) :
    targetId ∈ changed.registrations ↔ targetId ∈ registry.registrations := by
  have hsame := congrArg Option.isSome (h.declared targetId)
  simp only [TargetProcessRegistry.declared, Option.isSome_map] at hsame
  rw [← AList.lookup_isSome, ← AList.lookup_isSome, hsame]

theorem Frames.mem_connections (h : Frames registry changed) (targetId : String) :
    targetId ∈ changed.connections ↔ targetId ∈ registry.connections := by
  have hsame := congrArg Option.isSome (h.placed targetId)
  simp only [TargetProcessRegistry.placed, Option.isSome_map] at hsame
  rw [← AList.lookup_isSome, ← AList.lookup_isSome, hsame]

theorem WellFormed.mem_connections (hwf : WellFormed registry) {targetId : String}
    {registration : TargetProcessRegistration}
    (hlookup : registry.registrations.lookup targetId = some registration) :
    targetId ∈ registry.connections :=
  (hwf.sameKeys targetId).mp (HashMap.mem_of_lookup hlookup)

/-- The invariant speaks of declarations and places only. -/
theorem WellFormed.of_frames (hwf : WellFormed registry) (h : Frames registry changed) :
    WellFormed changed where
  sameKeys targetId := by
    rw [h.mem_registrations, h.mem_connections, hwf.sameKeys]
  registrationId targetId registration hlookup := by
    obtain ⟨earlier, hearlier, hsame⟩ := h.registration hlookup
    have hid := congrArg Declaration.targetId hsame
    exact hid.symm.trans (hwf.registrationId targetId earlier hearlier)
  connectionId targetId connection hlookup := by
    obtain ⟨earlier, hearlier, hsame⟩ := h.connection hlookup
    have hid := congrArg Place.targetId hsame
    exact hid.symm.trans (hwf.connectionId targetId earlier hearlier)
  samePath targetId registration connection hregistration hconnection := by
    obtain ⟨earlier, hearlier, hsame⟩ := h.registration hregistration
    obtain ⟨earlier', hearlier', hsame'⟩ := h.connection hconnection
    have hpath := congrArg Declaration.ipcPath hsame
    have hpath' := congrArg Place.ipcPath hsame'
    exact hpath.symm.trans ((hwf.samePath targetId _ _ hearlier hearlier').trans hpath')
  uniquePathKey first second registration other hfirst hsecond hkey := by
    obtain ⟨earlier, hearlier, hsame⟩ := h.registration hfirst
    obtain ⟨earlier', hearlier', hsame'⟩ := h.registration hsecond
    have hpath := congrArg Declaration.ipcPathKey hsame
    have hpath' := congrArg Declaration.ipcPathKey hsame'
    exact hwf.uniquePathKey first second _ _ hearlier hearlier'
      (hpath.trans (hkey.trans hpath'.symm))
  leaseBounds targetId registration hlookup := by
    obtain ⟨earlier, hearlier, hsame⟩ := h.registration hlookup
    have hlease : earlier.leaseSeconds = registration.leaseSeconds :=
      congrArg Declaration.leaseSeconds hsame
    rw [← hlease, h.policy]
    exact hwf.leaseBounds targetId earlier hearlier

/-- Storing a record whose path key no other target uses keeps the invariant. -/
theorem WellFormed.store (hwf : WellFormed registry) {targetId : String}
    {registration : TargetProcessRegistration}
    {connections : HashMap String TargetProcessConnection}
    (connection : TargetProcessConnection) (hid : registration.targetId = targetId)
    (hplace : connection.place = ⟨targetId, registration.ipcPath⟩)
    (hkey : ∀ other earlier, registry.registrations.lookup other = some earlier →
      earlier.ipcPathKey = registration.ipcPathKey → other = targetId)
    (hlease : 1 ≤ registration.leaseSeconds.toNat ∧
      registration.leaseSeconds.toNat ≤ registry.policy.maxLeaseSeconds.toNat)
    (hconnections : ∀ other, connections.lookup other =
      if other = targetId then some connection else registry.connections.lookup other) :
    WellFormed { registry with
      connections := connections
      registrations := registry.registrations.insert targetId registration } where
  sameKeys other := by
    have hsame := hwf.sameKeys other
    rw [HashMap.mem_iff_lookup, HashMap.mem_iff_lookup] at hsame ⊢
    rw [HashMap.lookup_insert, hconnections]
    split
    · simp
    · exact hsame
  registrationId other stored hlookup := by
    rw [HashMap.lookup_insert] at hlookup
    split at hlookup
    · rename_i heq
      cases hlookup
      exact hid.trans heq.symm
    · exact hwf.registrationId other stored hlookup
  connectionId other stored hlookup := by
    rw [hconnections] at hlookup
    split at hlookup
    · rename_i heq
      cases hlookup
      exact (congrArg Place.targetId hplace).trans heq.symm
    · exact hwf.connectionId other stored hlookup
  samePath other stored placed hregistration hconnection := by
    rw [HashMap.lookup_insert] at hregistration
    rw [hconnections] at hconnection
    split at hregistration
    · rename_i heq
      rw [if_pos heq] at hconnection
      cases hregistration
      cases hconnection
      exact (congrArg Place.ipcPath hplace).symm
    · rename_i hne
      rw [if_neg hne] at hconnection
      exact hwf.samePath other stored placed hregistration hconnection
  uniquePathKey first second stored other hfirst hsecond hsame := by
    rw [HashMap.lookup_insert] at hfirst hsecond
    split at hfirst <;> split at hsecond
    · rename_i heq heq'
      exact heq.trans heq'.symm
    · rename_i heq hne
      cases hfirst
      exact absurd (hkey second other hsecond hsame.symm) hne
    · rename_i hne heq
      cases hsecond
      exact absurd (hkey first stored hfirst hsame) hne
    · exact hwf.uniquePathKey first second stored other hfirst hsecond hsame
  leaseBounds other stored hlookup := by
    rw [HashMap.lookup_insert] at hlookup
    split at hlookup
    · cases hlookup
      exact hlease
    · exact hwf.leaseBounds other stored hlookup

theorem WellFormed.register (hwf : WellFormed registry) (normalize : PathBuf → RelayResult String)
    (request : RegistrationRequest) (ownerIdentity : String) (now : OffsetDateTime) :
    WellFormed (registry.register normalize request ownerIdentity now).2 := by
  generalize hcall : registry.register normalize request ownerIdentity now = call
  have hspec := hcall ▸ register_spec registry normalize request ownerIdentity now
  cases hspec with
  | rejected => exact hwf
  | panicked => exact hwf
  | inserted ipcPathKey expiresAt hchecks hexpiry hnew =>
      obtain ⟨hvalid, -, -, hkey⟩ := registerChecks_ok.mp hchecks
      obtain ⟨-, -, -, hlease, -⟩ := validateRequest_ok.mp hvalid
      refine hwf.store (freshConnection request now) rfl rfl hkey hlease fun other => ?_
      rw [HashMap.lookup_insert]
  | updated ipcPathKey expiresAt existing hchecks hexpiry hexisting =>
      obtain ⟨hvalid, -, -, hkey⟩ := registerChecks_ok.mp hchecks
      obtain ⟨-, -, -, hlease, -⟩ := validateRequest_ok.mp hvalid
      have hmem := hwf.mem_connections hexisting
      obtain ⟨connection, hconnection⟩ := HashMap.mem_iff_lookup.mp hmem
      have hid := hwf.connectionId _ connection hconnection
      let moved := upsertConnection request (existing.ipcPathKey != ipcPathKey) now connection
      refine hwf.store moved rfl ?_ hkey hlease fun other => ?_
      · dsimp only [moved, upsertConnection]
        split <;> exact congrArg (Place.mk · request.ipcPath) hid
      · rw [HashMap.lookup_modify]
        split
        · rename_i heq
          rw [heq, hconnection]
          rfl
        · rfl

theorem WellFormed.apply (hwf : WellFormed registry) (op : RegistryOp) :
    WellFormed (registry.apply op).1 := by
  cases hop : RegistryOp.isRegister op with
  | false => exact hwf.of_frames (apply_frames hop)
  | true =>
      cases op with
      | register normalize request ownerIdentity now =>
          rw [apply_register]
          exact hwf.register normalize request ownerIdentity now
      | _ => cases hop

theorem wellFormed_final (policy : RegistrationPolicy) (ops : List RegistryOp) :
    WellFormed (machine.final (new policy) ops) :=
  machine.invariant WellFormed (fun _ op hwf => hwf.apply op) (wellFormed_new policy) ops

/-- What the sweep does to a connection, by the registration under the same key. -/
theorem WellFormed.sweep_connection (hwf : WellFormed registry) (now : OffsetDateTime)
    (targetId : String) :
    (registry.expireLeases now).2.connections.lookup targetId =
      if (registry.registrations.lookup targetId).any (leaseDue now) then
        (registry.connections.lookup targetId).map (expiredConnection now)
      else registry.connections.lookup targetId := by
  rw [expireLeases_connection]
  refine if_congr ?_ rfl rfl
  rw [Option.any_eq_true]
  constructor
  · rintro ⟨registration, hmem, hdue, hid⟩
    obtain ⟨key, hkey⟩ := HashMap.mem_values.mp hmem
    have hkeyId := hwf.registrationId key registration hkey
    rw [← hkeyId, hid] at hkey
    exact ⟨registration, hkey, hdue⟩
  · rintro ⟨registration, hlookup, hdue⟩
    exact ⟨registration, HashMap.mem_values.mpr ⟨targetId, hlookup⟩, hdue,
      hwf.registrationId targetId registration hlookup⟩

theorem register_policy (registry : TargetProcessRegistry)
    (normalize : PathBuf → RelayResult String) (request : RegistrationRequest)
    (ownerIdentity : String) (now : OffsetDateTime) :
    (registry.register normalize request ownerIdentity now).2.policy = registry.policy := by
  generalize hcall : registry.register normalize request ownerIdentity now = call
  have hspec := hcall ▸ register_spec registry normalize request ownerIdentity now
  cases hspec <;> rfl

theorem apply_policy (op : RegistryOp) : (registry.apply op).1.policy = registry.policy := by
  cases hop : RegistryOp.isRegister op with
  | false => exact (apply_frames hop).policy
  | true =>
      cases op with
      | register normalize request ownerIdentity now =>
          rw [apply_register]
          exact register_policy registry normalize request ownerIdentity now
      | _ => cases hop

theorem final_policy (policy : RegistrationPolicy) (ops : List RegistryOp) :
    (machine.final (new policy) ops).policy = policy :=
  machine.invariant (fun registry => registry.policy = policy)
    (fun _ op h => (apply_policy op).trans h) rfl ops

/-- The sum of the five counters. -/
def counted (summary : AvailabilitySummary) : Nat :=
  summary.registered + summary.connected + summary.reconnecting + summary.unavailable +
    summary.expired

theorem summarize_counted (summary : AvailabilitySummary) (connection : TargetProcessConnection) :
    counted (summarize summary connection) = counted summary + 1 := by
  unfold summarize counted
  cases connection.state <;> dsimp only <;> omega

theorem summarize_total (summary : AvailabilitySummary) (connection : TargetProcessConnection) :
    (summarize summary connection).total = summary.total := by
  unfold summarize
  cases connection.state <;> rfl

theorem summarize_expired (summary : AvailabilitySummary) (connection : TargetProcessConnection) :
    (summarize summary connection).expired =
      summary.expired + if connection.state = .expired then 1 else 0 := by
  unfold summarize
  cases connection.state <;> rfl

theorem foldl_summarize (connections : List TargetProcessConnection)
    (summary : AvailabilitySummary) :
    counted (connections.foldl summarize summary) = counted summary + connections.length ∧
      (connections.foldl summarize summary).total = summary.total ∧
      (connections.foldl summarize summary).expired =
        summary.expired + connections.countP fun connection => connection.state = .expired := by
  induction connections generalizing summary with
  | nil => exact ⟨rfl, rfl, rfl⟩
  | cons connection rest ih =>
      obtain ⟨hcounted, htotal, hexpired⟩ := ih (summarize summary connection)
      rw [summarize_counted] at hcounted
      rw [summarize_total] at htotal
      rw [summarize_expired] at hexpired
      refine ⟨?_, htotal, ?_⟩
      · rw [List.foldl_cons, hcounted, List.length_cons]
        omega
      · rw [List.foldl_cons, hexpired, List.countP_cons]
        simp only [decide_eq_true_eq]
        omega

theorem availabilitySummary_total :
    registry.availabilitySummary.total = registry.connections.len :=
  (foldl_summarize _ _).2.1

theorem availabilitySummary_counted :
    counted registry.availabilitySummary = registry.connections.len := by
  rw [availabilitySummary, (foldl_summarize _ _).1, HashMap.values_length]
  exact Nat.zero_add _

theorem availabilitySummary_expired :
    registry.availabilitySummary.expired =
      registry.connections.values.countP fun connection => connection.state = .expired := by
  rw [availabilitySummary, (foldl_summarize _ _).2.2]
  exact Nat.zero_add _

theorem WellFormed.len_eq (hwf : WellFormed registry) :
    registry.connections.len = registry.registrations.len :=
  HashMap.len_eq fun targetId => (hwf.sameKeys targetId).symm

/-- The two maps describe the same targets after any calls whatever, and the
summary counts each of them once. -/
theorem reachable_wellFormed (policy : RegistrationPolicy) (ops : List RegistryOp) :
    let registry := machine.final (new policy) ops
    let summary := registry.availabilitySummary
    WellFormed registry ∧ registry.policy = policy ∧
      summary.registered + summary.connected + summary.reconnecting + summary.unavailable +
        summary.expired = summary.total ∧
      summary.total = registry.registrations.len := by
  intro registry summary
  have hwf : WellFormed registry := wellFormed_final policy ops
  have htotal : summary.total = registry.connections.len := availabilitySummary_total
  have hcounted : counted summary = registry.connections.len := availabilitySummary_counted
  exact ⟨hwf, final_policy policy ops, hcounted.trans htotal.symm, htotal.trans hwf.len_eq⟩

end SupervisorRelay.TargetProcessRegistry
