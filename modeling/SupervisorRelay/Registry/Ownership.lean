import SupervisorRelay.Registry.Invariant

/-! Who holds a target id. The first successful registration fixes the owner and
the time, and no later call of any party changes either. -/
namespace SupervisorRelay.TargetProcessRegistry

/-- The target is registered by this owner since this time. -/
def HeldBy (registry : TargetProcessRegistry) (targetId ownerIdentity : String)
    (registeredAt : OffsetDateTime) : Prop :=
  ∃ registration, registry.registrations.lookup targetId = some registration ∧
    registration.ownerIdentity = ownerIdentity ∧ registration.registeredAt = registeredAt

instance (registry : TargetProcessRegistry) (targetId ownerIdentity : String)
    (registeredAt : OffsetDateTime) :
    Decidable (HeldBy registry targetId ownerIdentity registeredAt) :=
  inferInstanceAs (Decidable (∃ registration ∈ registry.registrations.lookup targetId,
    registration.ownerIdentity = ownerIdentity ∧ registration.registeredAt = registeredAt))

variable {registry changed : TargetProcessRegistry}
variable {targetId ownerIdentity : String} {registeredAt : OffsetDateTime}

theorem heldBy_iff_declared :
    HeldBy registry targetId ownerIdentity registeredAt ↔
      ∃ declaration, registry.declared targetId = some declaration ∧
        declaration.ownerIdentity = ownerIdentity ∧ declaration.registeredAt = registeredAt := by
  simp only [declared, Option.map_eq_some_iff]
  constructor
  · intro held
    obtain ⟨registration, hlookup, howner, hat⟩ := held
    exact ⟨registration.declaration, ⟨registration, hlookup, rfl⟩, howner, hat⟩
  · intro hdeclared
    obtain ⟨declaration, ⟨registration, hlookup, rfl⟩, howner, hat⟩ := hdeclared
    exact ⟨registration, hlookup, howner, hat⟩

theorem HeldBy.of_frames (h : Frames registry changed)
    (held : HeldBy registry targetId ownerIdentity registeredAt) :
    HeldBy changed targetId ownerIdentity registeredAt := by
  rw [heldBy_iff_declared] at held ⊢
  rwa [h.declared targetId]

variable {normalize : PathBuf → RelayResult String} {request : RegistrationRequest}
variable {caller : String} {now : OffsetDateTime}

/-- Every error exit comes before the first write. -/
theorem register_error {error : RelayError}
    (h : (registry.register normalize request caller now).1 = .returned (.error error)) :
    (registry.register normalize request caller now).2 = registry := by
  generalize hcall : registry.register normalize request caller now = call at h ⊢
  have hspec := hcall ▸ register_spec registry normalize request caller now
  cases hspec with
  | rejected => rfl
  | panicked => rfl
  | inserted => cases h
  | updated => cases h

/-- A `register` call writes under its own target id only. -/
theorem register_other (registry : TargetProcessRegistry)
    (normalize : PathBuf → RelayResult String) (request : RegistrationRequest) (caller : String)
    (now : OffsetDateTime) {other : String} (hne : other ≠ request.targetId) :
    (registry.register normalize request caller now).2.registrations.lookup other =
        registry.registrations.lookup other ∧
      (registry.register normalize request caller now).2.connections.lookup other =
        registry.connections.lookup other := by
  generalize hcall : registry.register normalize request caller now = call
  have hspec := hcall ▸ register_spec registry normalize request caller now
  cases hspec with
  | rejected => exact ⟨rfl, rfl⟩
  | panicked => exact ⟨rfl, rfl⟩
  | inserted =>
      dsimp only
      rw [HashMap.lookup_insert, if_neg hne, HashMap.lookup_insert, if_neg hne]
      exact ⟨rfl, rfl⟩
  | updated =>
      dsimp only
      rw [HashMap.lookup_insert, if_neg hne, HashMap.lookup_modify_ne hne]
      exact ⟨rfl, rfl⟩

theorem register_foreign (held : HeldBy registry request.targetId ownerIdentity registeredAt)
    (hne : caller ≠ ownerIdentity) :
    ∃ error, registry.register normalize request caller now =
      (.returned (.error error), registry) := by
  obtain ⟨registration, hlookup, howner, -⟩ := held
  have hrefused : ∀ ipcPathKey,
      registry.registerChecks normalize request caller ≠ .ok ipcPathKey := by
    intro ipcPathKey hchecks
    obtain ⟨-, -, hsame, -⟩ := registerChecks_ok.mp hchecks
    exact hne ((hsame registration hlookup).symm.trans howner)
  generalize hcall : registry.register normalize request caller now = call
  have hspec := hcall ▸ register_spec registry normalize request caller now
  cases hspec with
  | rejected error hchecks => exact ⟨error, rfl⟩
  | panicked ipcPathKey hchecks => exact absurd hchecks (hrefused ipcPathKey)
  | inserted ipcPathKey expiresAt hchecks => exact absurd hchecks (hrefused ipcPathKey)
  | updated ipcPathKey expiresAt existing hchecks => exact absurd hchecks (hrefused ipcPathKey)

/-- A successful `register` leaves its caller as the holder; on a free id it
also sets the time. -/
theorem register_held {registration : TargetProcessRegistration}
    (h : (registry.register normalize request caller now).1 = .returned (.ok registration)) :
    HeldBy (registry.register normalize request caller now).2 request.targetId caller
        registration.registeredAt ∧
      (request.targetId ∉ registry.registrations → registration.registeredAt = now) := by
  generalize hcall : registry.register normalize request caller now = call at h ⊢
  have hspec := hcall ▸ register_spec registry normalize request caller now
  cases hspec with
  | rejected => cases h
  | panicked => cases h
  | inserted =>
      cases h
      exact ⟨⟨_, HashMap.lookup_insert_self _ _ _, rfl, rfl⟩, fun _ => rfl⟩
  | updated ipcPathKey expiresAt existing hchecks hexpiry hexisting =>
      cases h
      refine ⟨⟨_, HashMap.lookup_insert_self _ _ _, rfl, rfl⟩, fun hnew => ?_⟩
      exact absurd (HashMap.mem_of_lookup hexisting) hnew

theorem HeldBy.register (held : HeldBy registry targetId ownerIdentity registeredAt)
    (normalize : PathBuf → RelayResult String) (request : RegistrationRequest) (caller : String)
    (now : OffsetDateTime) :
    HeldBy (registry.register normalize request caller now).2 targetId ownerIdentity
      registeredAt := by
  by_cases hother : targetId = request.targetId
  · subst hother
    by_cases hcaller : caller = ownerIdentity
    · obtain ⟨registration, hlookup, howner, hat⟩ := held
      generalize hcall : registry.register normalize request caller now = call
      have hspec := hcall ▸ register_spec registry normalize request caller now
      cases hspec with
      | rejected => exact ⟨registration, hlookup, howner, hat⟩
      | panicked => exact ⟨registration, hlookup, howner, hat⟩
      | inserted ipcPathKey expiresAt hchecks hexpiry hnew =>
          exact absurd (HashMap.mem_of_lookup hlookup) hnew
      | updated ipcPathKey expiresAt existing hchecks hexpiry hexisting =>
          -- the new record copies `registered_at` from the one it replaces
          cases hlookup.symm.trans hexisting
          exact ⟨_, HashMap.lookup_insert_self _ _ _, hcaller, hat⟩
    · obtain ⟨error, hcall⟩ := register_foreign held hcaller
      rw [hcall]
      exact held
  · obtain ⟨registration, hlookup, hheld⟩ := held
    exact ⟨registration,
      (register_other registry normalize request caller now hother).1.trans hlookup, hheld⟩

theorem HeldBy.apply (held : HeldBy registry targetId ownerIdentity registeredAt)
    (op : RegistryOp) : HeldBy (registry.apply op).1 targetId ownerIdentity registeredAt := by
  cases hop : RegistryOp.isRegister op with
  | false => exact held.of_frames (apply_frames hop)
  | true =>
      cases op with
      | register normalize request caller now =>
          rw [apply_register]
          exact held.register normalize request caller now
      | _ => cases hop

theorem HeldBy.final (held : HeldBy registry targetId ownerIdentity registeredAt)
    (ops : List RegistryOp) :
    HeldBy (machine.final registry ops) targetId ownerIdentity registeredAt :=
  machine.invariant (fun state => HeldBy state targetId ownerIdentity registeredAt)
    (fun _ op h => h.apply op) held ops

/-- In every reachable registry: a success binds the id to its caller for good
and touches no other target, an error touches nothing, and a foreign caller gets
an error. -/
theorem ownership_permanent (policy : RegistrationPolicy) (ops : List RegistryOp)
    (normalize : PathBuf → RelayResult String) (request : RegistrationRequest)
    (caller : String) (now : OffsetDateTime) :
    let before := machine.final (new policy) ops
    let call := before.register normalize request caller now
    (∀ registration, call.1 = .returned (.ok registration) →
      (request.targetId ∉ before.registrations → registration.registeredAt = now) ∧
        (∀ later, HeldBy (machine.final call.2 later) request.targetId caller
          registration.registeredAt) ∧
        ∀ other, other ≠ request.targetId →
          call.2.registrations.lookup other = before.registrations.lookup other ∧
            call.2.connections.lookup other = before.connections.lookup other) ∧
      (∀ error, call.1 = .returned (.error error) →
        call.2.registrations = before.registrations ∧ call.2.connections = before.connections) ∧
      ∀ owner registeredAt, HeldBy before request.targetId owner registeredAt →
        caller ≠ owner → ∃ error, call.1 = .returned (.error error) := by
  intro before call
  refine ⟨fun registration hok => ?_, fun error herror => ?_, fun owner registeredAt held hne => ?_⟩
  · obtain ⟨hheld, hnew⟩ := register_held hok
    refine ⟨hnew, fun later => hheld.final later, fun other hne => ?_⟩
    exact register_other before normalize request caller now hne
  · have hsame : call.2 = before := register_error herror
    rw [hsame]
    exact ⟨rfl, rfl⟩
  · obtain ⟨error, hcall⟩ := register_foreign held hne
    exact ⟨error, congrArg Prod.fst hcall⟩

def takeoverRequest (leaseSeconds : UInt64) : RegistrationRequest :=
  sampleRequest "payments-worker-a" "/run/rust-supervisor/a.sock" leaseSeconds

/-- One registration, before a second owner asks for the same id. -/
def takeoverOps : List RegistryOp :=
  [.register .ok (takeoverRequest 30) "uid:501" .unixEpoch]

theorem ownership_permanent_takeover :
    HeldBy (machine.final (new (samplePolicy 120)) takeoverOps) (takeoverRequest 60).targetId
        "uid:501" .unixEpoch ∧
      ∃ error, ((machine.final (new (samplePolicy 120)) takeoverOps).register .ok
        (takeoverRequest 60) "uid:502" .unixEpoch).1 = .returned (.error error) := by
  have hheld : HeldBy (machine.final (new (samplePolicy 120)) takeoverOps)
      (takeoverRequest 60).targetId "uid:501" .unixEpoch := by
    decide +kernel
  obtain ⟨-, -, hforeign⟩ := ownership_permanent (samplePolicy 120) takeoverOps .ok
    (takeoverRequest 60) "uid:502" .unixEpoch
  exact ⟨hheld, hforeign "uid:501" .unixEpoch hheld (by decide)⟩

end SupervisorRelay.TargetProcessRegistry
