import SupervisorRelay.Source.Registry

/-! What each registry operation can do, one lemma for each. Later proofs cite
these and leave the operations folded. -/
namespace SupervisorRelay.TargetProcessRegistry

variable {registry : TargetProcessRegistry}

theorem validateRequest_ok {request : RegistrationRequest} :
    registry.validateRequest request = .ok () ↔
      request.targetId.isBlank = false ∧ request.ipcPath.isAbsolute = true ∧
        registry.policy.ipcPathIsAllowed request.ipcPath = true ∧
        (1 ≤ request.leaseSeconds.toNat ∧
          request.leaseSeconds.toNat ≤ registry.policy.maxLeaseSeconds.toNat) ∧
        ∀ command ∈ request.supportedCommands,
          command.name.isBlank = false ∧ command.timeoutSeconds ≠ 0 := by
  unfold validateRequest
  split
  · simp_all
  split
  · simp_all
  split
  · simp_all
  split
  · rename_i h
    simp only [reduceCtorEq, false_iff]
    rintro ⟨-, -, -, hlease, -⟩
    simp only [Bool.or_eq_true, beq_iff_eq, decide_eq_true_eq, gt_iff_lt,
      UInt64.lt_iff_toNat_lt, ← UInt64.toNat_inj, UInt64.toNat_zero] at h
    omega
  split
  · rename_i h
    simp only [reduceCtorEq, false_iff]
    rintro ⟨-, -, -, -, hcommands⟩
    obtain ⟨command, hmem, hbad⟩ := List.any_eq_true.mp h
    simp [hcommands command hmem] at hbad
  · rename_i hid habs hallowed hlease hcommands
    simp only [Bool.or_eq_true, beq_iff_eq, decide_eq_true_eq, gt_iff_lt,
      UInt64.lt_iff_toNat_lt, ← UInt64.toNat_inj, UInt64.toNat_zero] at hlease
    simp only [true_iff]
    refine ⟨by simpa using hid, by simpa using habs, by simpa using hallowed, by omega, ?_⟩
    intro command hmem
    have hgood := mt (fun hbad => List.any_eq_true.mpr ⟨command, hmem, hbad⟩) hcommands
    simpa using hgood

theorem registerChecks_ok {normalize : PathBuf → RelayResult String}
    {request : RegistrationRequest} {ownerIdentity ipcPathKey : String} :
    registry.registerChecks normalize request ownerIdentity = .ok ipcPathKey ↔
      registry.validateRequest request = .ok () ∧
        normalize request.ipcPath = .ok ipcPathKey ∧
        (∀ existing, registry.registrations.lookup request.targetId = some existing →
          existing.ownerIdentity = ownerIdentity) ∧
        ∀ targetId registration, registry.registrations.lookup targetId = some registration →
          registration.ipcPathKey = ipcPathKey → targetId = request.targetId := by
  unfold registerChecks
  simp only [RelayResult.bind_eq_ok]
  constructor
  · rintro ⟨⟨⟩, hvalid, key, hkey, hchecks⟩
    refine ⟨hvalid, ?_⟩
    split at hchecks
    · cases hchecks
    split at hchecks
    · cases hchecks
    · rename_i howner hconflict
      cases hchecks
      refine ⟨hkey, ?_, ?_⟩
      · intro existing hexisting
        simpa [hexisting] using howner
      · intro targetId registration hlookup hsame
        by_contra hne
        apply hconflict
        refine List.any_eq_true.mpr ⟨⟨targetId, registration⟩, ?_, ?_⟩
        · exact AList.mem_lookup_iff.mp hlookup
        · simp [hne, hsame]
  · rintro ⟨hvalid, hkey, howner, hconflict⟩
    refine ⟨(), hvalid, ipcPathKey, hkey, ?_⟩
    rw [if_neg, if_neg]
    · rfl
    · intro h
      obtain ⟨⟨targetId, registration⟩, hmem, hbad⟩ := List.any_eq_true.mp h
      simp only [Bool.and_eq_true, bne_iff_ne, beq_iff_eq] at hbad
      exact hbad.1 (hconflict targetId registration (AList.mem_lookup_iff.mpr hmem) hbad.2)
    · intro h
      cases hexisting : registry.registrations.lookup request.targetId with
      | none => simp [hexisting] at h
      | some existing => simp [hexisting, howner existing hexisting] at h

/-- The record a successful `register` stores. -/
def recordOf (request : RegistrationRequest) (ownerIdentity ipcPathKey : String)
    (registeredAt now expiresAt : OffsetDateTime) : TargetProcessRegistration where
  targetId := request.targetId
  displayName := request.displayName
  ipcPath := request.ipcPath
  ipcPathKey := ipcPathKey
  ownerIdentity := ownerIdentity
  leaseSeconds := request.leaseSeconds
  supportedCommands := request.supportedCommands
  registeredAt := registeredAt
  renewedAt := now
  expiresAt := expiresAt
  registrationState := .active
  lastRejection := none

/-- The connection a first registration stores. -/
def freshConnection (request : RegistrationRequest) (now : OffsetDateTime) :
    TargetProcessConnection where
  targetId := request.targetId
  ipcPath := request.ipcPath
  state := .registered
  lastError := none
  lastStateGeneration := none
  lastSequence := none
  connectedAt := none
  updatedAt := now

/-- What a repeated registration does to the connection. -/
def upsertConnection (request : RegistrationRequest) (pathChanged : Bool) (now : OffsetDateTime)
    (connection : TargetProcessConnection) : TargetProcessConnection :=
  let connection := { connection with ipcPath := request.ipcPath, updatedAt := now }
  if pathChanged then
    { connection with
      state := .reconnecting
      lastError := some "ipc_path_changed"
      connectedAt := none }
  else connection

/-- The four ways a `register` call can go. -/
inductive Registers (registry : TargetProcessRegistry) (normalize : PathBuf → RelayResult String)
    (request : RegistrationRequest) (ownerIdentity : String) (now : OffsetDateTime) :
    Outcome TargetProcessRegistration × TargetProcessRegistry → Prop where
  | rejected (error : RelayError)
      (hchecks : registry.registerChecks normalize request ownerIdentity = .error error) :
      Registers registry normalize request ownerIdentity now (.returned (.error error), registry)
  | panicked (ipcPathKey : String)
      (hchecks : registry.registerChecks normalize request ownerIdentity = .ok ipcPathKey)
      (hexpiry : leaseExpiry now request.leaseSeconds = none) :
      Registers registry normalize request ownerIdentity now (.panicked, registry)
  | inserted (ipcPathKey : String) (expiresAt : OffsetDateTime)
      (hchecks : registry.registerChecks normalize request ownerIdentity = .ok ipcPathKey)
      (hexpiry : leaseExpiry now request.leaseSeconds = some expiresAt)
      (hnew : request.targetId ∉ registry.registrations) :
      Registers registry normalize request ownerIdentity now
        (.returned (.ok (recordOf request ownerIdentity ipcPathKey now now expiresAt)),
          { registry with
            connections := registry.connections.insert request.targetId
              (freshConnection request now)
            registrations := registry.registrations.insert request.targetId
              (recordOf request ownerIdentity ipcPathKey now now expiresAt) })
  | updated (ipcPathKey : String) (expiresAt : OffsetDateTime)
      (existing : TargetProcessRegistration)
      (hchecks : registry.registerChecks normalize request ownerIdentity = .ok ipcPathKey)
      (hexpiry : leaseExpiry now request.leaseSeconds = some expiresAt)
      (hexisting : registry.registrations.lookup request.targetId = some existing) :
      Registers registry normalize request ownerIdentity now
        (.returned (.ok
            (recordOf request ownerIdentity ipcPathKey existing.registeredAt now expiresAt)),
          { registry with
            connections := HashMap.modify request.targetId
              (upsertConnection request (existing.ipcPathKey != ipcPathKey) now)
              registry.connections
            registrations := registry.registrations.insert request.targetId
              (recordOf request ownerIdentity ipcPathKey existing.registeredAt now expiresAt) })

theorem register_spec (registry : TargetProcessRegistry)
    (normalize : PathBuf → RelayResult String) (request : RegistrationRequest)
    (ownerIdentity : String) (now : OffsetDateTime) :
    Registers registry normalize request ownerIdentity now
      (registry.register normalize request ownerIdentity now) := by
  unfold register
  cases hchecks : registry.registerChecks normalize request ownerIdentity with
  | error error => exact .rejected error hchecks
  | ok ipcPathKey =>
      simp only
      split
      · rename_i hmem
        obtain ⟨existing, hexisting⟩ := HashMap.mem_iff_lookup.mp hmem
        unfold upsertExistingRegistration
        rw [hexisting]
        cases hexpiry : leaseExpiry now request.leaseSeconds with
        | none => exact .panicked ipcPathKey hchecks hexpiry
        | some expiresAt => exact .updated ipcPathKey expiresAt existing hchecks hexpiry hexisting
      · rename_i hnew
        cases hexpiry : leaseExpiry now request.leaseSeconds with
        | none => exact .panicked ipcPathKey hchecks hexpiry
        | some expiresAt => exact .inserted ipcPathKey expiresAt hchecks hexpiry hnew

/-- The time a successful `register` keeps or sets. -/
def firstRegisteredAt (registry : TargetProcessRegistry) (targetId : String)
    (now : OffsetDateTime) : OffsetDateTime :=
  ((registry.registrations.lookup targetId).map (·.registeredAt)).getD now

/-- The registrations after `register`, for facts that do not look at connections. -/
theorem register_cases (registry : TargetProcessRegistry)
    (normalize : PathBuf → RelayResult String) (request : RegistrationRequest)
    (ownerIdentity : String) (now : OffsetDateTime) :
    let call := registry.register normalize request ownerIdentity now
    (∃ error, registry.registerChecks normalize request ownerIdentity = .error error ∧
        call = (.returned (.error error), registry)) ∨
      (∃ ipcPathKey, registry.registerChecks normalize request ownerIdentity = .ok ipcPathKey ∧
        leaseExpiry now request.leaseSeconds = none ∧ call = (.panicked, registry)) ∨
      ∃ ipcPathKey expiresAt,
        registry.registerChecks normalize request ownerIdentity = .ok ipcPathKey ∧
          leaseExpiry now request.leaseSeconds = some expiresAt ∧
          call.1 = .returned (.ok (recordOf request ownerIdentity ipcPathKey
            (registry.firstRegisteredAt request.targetId now) now expiresAt)) ∧
          call.2.registrations = registry.registrations.insert request.targetId
            (recordOf request ownerIdentity ipcPathKey
              (registry.firstRegisteredAt request.targetId now) now expiresAt) := by
  intro call
  have hspec := register_spec registry normalize request ownerIdentity now
  change Registers registry normalize request ownerIdentity now call at hspec
  generalize call = result at hspec
  cases hspec with
  | rejected error hchecks => exact .inl ⟨error, hchecks, rfl⟩
  | panicked ipcPathKey hchecks hexpiry => exact .inr (.inl ⟨ipcPathKey, hchecks, hexpiry, rfl⟩)
  | inserted ipcPathKey expiresAt hchecks hexpiry hnew =>
      have hfirst : registry.firstRegisteredAt request.targetId now = now := by
        rw [firstRegisteredAt, AList.lookup_eq_none.mpr hnew]
        rfl
      rw [hfirst]
      exact .inr (.inr ⟨ipcPathKey, expiresAt, hchecks, hexpiry, rfl, rfl⟩)
  | updated ipcPathKey expiresAt existing hchecks hexpiry hexisting =>
      have hfirst : registry.firstRegisteredAt request.targetId now = existing.registeredAt := by
        rw [firstRegisteredAt, hexisting]
        rfl
      rw [hfirst]
      exact .inr (.inr ⟨ipcPathKey, expiresAt, hchecks, hexpiry, rfl, rfl⟩)

/-- The three ways a `renew` call can go. -/
inductive Renews (registry : TargetProcessRegistry) (targetId : String) (now : OffsetDateTime) :
    Outcome Unit × TargetProcessRegistry → Prop where
  | unknown (error : RelayError) (hunknown : registry.registrations.lookup targetId = none) :
      Renews registry targetId now (.returned (.error error), registry)
  | panicked (existing : TargetProcessRegistration)
      (hexisting : registry.registrations.lookup targetId = some existing)
      (hexpiry : leaseExpiry now existing.leaseSeconds = none) :
      Renews registry targetId now (.panicked, { registry with
        registrations := HashMap.modify targetId
          (fun registration => { registration with renewedAt := now }) registry.registrations })
  | renewed (existing : TargetProcessRegistration) (expiresAt : OffsetDateTime)
      (hexisting : registry.registrations.lookup targetId = some existing)
      (hexpiry : leaseExpiry now existing.leaseSeconds = some expiresAt) :
      Renews registry targetId now (.returned (.ok ()), { registry with
        registrations := HashMap.modify targetId (fun registration =>
          { registration with
            renewedAt := now
            expiresAt := expiresAt
            registrationState := .active }) registry.registrations })

theorem renew_spec (registry : TargetProcessRegistry) (targetId : String) (now : OffsetDateTime) :
    Renews registry targetId now (registry.renew targetId now) := by
  unfold renew
  cases hexisting : registry.registrations.lookup targetId with
  | none => exact .unknown _ hexisting
  | some existing =>
      dsimp only
      cases hexpiry : leaseExpiry now existing.leaseSeconds with
      | none => exact .panicked existing hexisting hexpiry
      | some expiresAt => exact .renewed existing expiresAt hexisting hexpiry

/-- What the sweep does to a registration that is due. -/
def expireRegistration (now : OffsetDateTime) (registration : TargetProcessRegistration) :
    TargetProcessRegistration :=
  if leaseDue now registration then { registration with registrationState := .expired }
  else registration

/-- What the sweep does to the connection of a registration that is due. -/
def expiredConnection (now : OffsetDateTime) (connection : TargetProcessConnection) :
    TargetProcessConnection :=
  { connection with state := .expired, updatedAt := now }

private theorem sweep_lookup (now : OffsetDateTime)
    (registrations : List TargetProcessRegistration)
    (connections : HashMap String TargetProcessConnection) (count : Nat) (targetId : String) :
    (registrations.foldl (expireConnection now) (connections, count)).1.lookup targetId =
      if ∃ registration ∈ registrations,
          leaseDue now registration = true ∧ registration.targetId = targetId then
        (connections.lookup targetId).map (expiredConnection now)
      else connections.lookup targetId := by
  induction registrations generalizing connections count with
  | nil => simp
  | cons registration rest ih =>
      rw [List.foldl_cons]
      by_cases hdue : leaseDue now registration = true
      · rw [expireConnection, if_pos hdue, ih]
        by_cases hid : registration.targetId = targetId
        · -- a second visit to the same connection writes what the first one wrote
          have htwice : ((connections.lookup targetId).map (expiredConnection now)).map
              (expiredConnection now) =
                (connections.lookup targetId).map (expiredConnection now) := by
            rw [Option.map_map]
            rfl
          have hhere : ∃ other ∈ registration :: rest,
              leaseDue now other = true ∧ other.targetId = targetId :=
            ⟨registration, List.mem_cons_self, hdue, hid⟩
          rw [if_pos hhere, hid, HashMap.lookup_modify_self]
          split
          · exact htwice
          · rfl
        · rw [HashMap.lookup_modify_ne (Ne.symm hid)]
          simp [hdue, hid]
      · rw [expireConnection, if_neg hdue, ih]
        simp [hdue]

private theorem sweep_count (now : OffsetDateTime)
    (registrations : List TargetProcessRegistration)
    (connections : HashMap String TargetProcessConnection) (count : Nat) :
    (registrations.foldl (expireConnection now) (connections, count)).2 =
      count + registrations.countP (leaseDue now) := by
  induction registrations generalizing connections count with
  | nil => simp
  | cons registration rest ih =>
      rw [List.foldl_cons]
      by_cases hdue : leaseDue now registration = true
      · rw [expireConnection, if_pos hdue, ih, List.countP_cons_of_pos hdue]
        omega
      · rw [expireConnection, if_neg hdue, ih, List.countP_cons_of_neg hdue]

theorem expireLeases_count (registry : TargetProcessRegistry) (now : OffsetDateTime) :
    (registry.expireLeases now).1 = registry.registrations.values.countP (leaseDue now) := by
  rw [expireLeases, sweep_count, Nat.zero_add]

@[simp] theorem expireLeases_policy (registry : TargetProcessRegistry) (now : OffsetDateTime) :
    (registry.expireLeases now).2.policy = registry.policy := by
  rw [expireLeases]

theorem expireLeases_registrations (registry : TargetProcessRegistry) (now : OffsetDateTime) :
    (registry.expireLeases now).2.registrations =
      HashMap.mapValues (fun _ => expireRegistration now) registry.registrations := by
  rw [expireLeases]
  rfl

theorem lookup_swept (registry : TargetProcessRegistry) (now : OffsetDateTime)
    (targetId : String) :
    (registry.expireLeases now).2.registrations.lookup targetId =
      (registry.registrations.lookup targetId).map (expireRegistration now) := by
  rw [expireLeases_registrations, HashMap.lookup_mapValues]

/-- The sweep reaches a connection through the record's own id, not through its key. -/
theorem expireLeases_connection (registry : TargetProcessRegistry) (now : OffsetDateTime)
    (targetId : String) :
    (registry.expireLeases now).2.connections.lookup targetId =
      if ∃ registration ∈ registry.registrations.values,
          leaseDue now registration = true ∧ registration.targetId = targetId then
        (registry.connections.lookup targetId).map (expiredConnection now)
      else registry.connections.lookup targetId := by
  rw [expireLeases]
  exact sweep_lookup now _ _ 0 targetId

theorem registration_ok {targetId : String} {registration : TargetProcessRegistration} :
    registry.registration targetId = .ok registration ↔
      registry.registrations.lookup targetId = some registration := by
  unfold TargetProcessRegistry.registration
  cases registry.registrations.lookup targetId <;> simp

theorem isActive_iff {now : OffsetDateTime} {registration : TargetProcessRegistration} :
    isActive now registration = true ↔
      registration.registrationState = .active ∧ now < registration.expiresAt := by
  simp [isActive]

theorem ensureTargetActive_ok {targetId : String} {now : OffsetDateTime} :
    registry.ensureTargetActive targetId now = .ok () ↔
      ∃ registration, registry.registrations.lookup targetId = some registration ∧
        isActive now registration = true := by
  unfold ensureTargetActive
  rw [RelayResult.bind_eq_ok]
  refine exists_congr fun registration => ?_
  rw [registration_ok, isActive_iff]
  refine and_congr_right fun _ => ?_
  split
  · rename_i h
    simp only [throw, throwThe, MonadExceptOf.throw, reduceCtorEq, false_iff]
    rintro ⟨hstate, hexpires⟩
    rcases h with h | h
    · exact h hstate
    · exact OffsetDateTime.not_le.mpr hexpires h
  · rename_i h
    rw [not_or, not_not, OffsetDateTime.not_le] at h
    simp only [pure, Except.pure, true_iff]
    exact h

theorem ensureCommandSupported_ok {targetId : String} {command : ControlCommandName} :
    registry.ensureCommandSupported targetId command = .ok () ↔
      ∃ registration, registry.registrations.lookup targetId = some registration ∧
        ∃ supported ∈ registration.supportedCommands, supported.name = command.wireName := by
  unfold ensureCommandSupported
  rw [RelayResult.bind_eq_ok]
  refine exists_congr fun registration => ?_
  rw [registration_ok]
  refine and_congr_right fun _ => ?_
  dsimp only
  split
  · rename_i h
    exact ⟨fun _ => by simpa using h, fun _ => rfl⟩
  · rename_i h
    simpa [throw, throwThe, MonadExceptOf.throw] using h

/-- A successful write through `connection_mut` changes the one connection. -/
theorem modifyConnection_ok {targetId : String}
    {change : TargetProcessConnection → TargetProcessConnection}
    {changed : TargetProcessRegistry} :
    registry.modifyConnection targetId change = .ok changed ↔
      targetId ∈ registry.connections ∧ changed = { registry with
        connections := HashMap.modify targetId change registry.connections } := by
  unfold modifyConnection
  split <;> simp_all [eq_comm]

/-- An absent connection makes a marking do nothing, which `modify` does as well. -/
theorem markWith_eq (targetId : String) (state : ConnectionState) (reason : String)
    (now : OffsetDateTime) :
    registry.markWith targetId state reason now = { registry with
      connections := HashMap.modify targetId (fun connection =>
        { connection with state := state, lastError := some reason, updatedAt := now })
        registry.connections } := by
  unfold markWith modifyConnection
  by_cases hmem : targetId ∈ registry.connections
  · simp [hmem]
  · simp [hmem, HashMap.modify_of_notMem hmem]

end SupervisorRelay.TargetProcessRegistry
