import SupervisorRelay.Library.Machine
import SupervisorRelay.Registry.Operations

/-! Runs of registry calls. Only `register` writes what a target declares; every
other call keeps the declarations and the place of each connection, so the shape
of the two maps is an invariant of `register` alone. -/
namespace SupervisorRelay

/-- One call on the shared registry, with everything it is given. -/
inductive RegistryOp where
  | register (normalize : PathBuf → RelayResult String) (request : RegistrationRequest)
      (ownerIdentity : String) (now : OffsetDateTime)
  | renew (targetId : String) (now : OffsetDateTime)
  | expireLeases (now : OffsetDateTime)
  | beginBinding (targetId : String) (now : OffsetDateTime)
  | markConnected (targetId : String) (stateGeneration : UInt64) (now : OffsetDateTime)
  | markReconnecting (targetId reason : String) (now : OffsetDateTime)
  | markUnavailable (targetId reason : String) (now : OffsetDateTime)
  | updateSequence (targetId : String) (sequence : UInt64)

/-- A successful call that starts or restarts a lease. -/
inductive LeaseEvent where
  | registered (targetId : String) (leaseSeconds : UInt64) (now : OffsetDateTime)
  | renewed (targetId : String) (now : OffsetDateTime)
deriving DecidableEq

/-- The part of a registration that only `register` writes. -/
structure Declaration where
  targetId : String
  displayName : String
  ipcPath : PathBuf
  ipcPathKey : String
  ownerIdentity : String
  leaseSeconds : UInt64
  supportedCommands : List SupportedCommand
  registeredAt : OffsetDateTime

def TargetProcessRegistration.declaration (registration : TargetProcessRegistration) :
    Declaration where
  targetId := registration.targetId
  displayName := registration.displayName
  ipcPath := registration.ipcPath
  ipcPathKey := registration.ipcPathKey
  ownerIdentity := registration.ownerIdentity
  leaseSeconds := registration.leaseSeconds
  supportedCommands := registration.supportedCommands
  registeredAt := registration.registeredAt

/-- The part of a connection that only `register` writes. -/
structure Place where
  targetId : String
  ipcPath : PathBuf

def TargetProcessConnection.place (connection : TargetProcessConnection) : Place :=
  ⟨connection.targetId, connection.ipcPath⟩

namespace TargetProcessRegistry

def declared (registry : TargetProcessRegistry) (targetId : String) : Option Declaration :=
  (registry.registrations.lookup targetId).map (·.declaration)

def placed (registry : TargetProcessRegistry) (targetId : String) : Option Place :=
  (registry.connections.lookup targetId).map (·.place)

/-- The registry after a fallible write; an error leaves it as it was. -/
def settle (registry : TargetProcessRegistry) :
    RelayResult TargetProcessRegistry → TargetProcessRegistry
  | .ok changed => changed
  | .error _ => registry

def apply (registry : TargetProcessRegistry) :
    RegistryOp → TargetProcessRegistry × List LeaseEvent
  | .register normalize request ownerIdentity now =>
      let call := registry.register normalize request ownerIdentity now
      (call.2, if call.1.isOk then [.registered request.targetId request.leaseSeconds now] else [])
  | .renew targetId now =>
      let call := registry.renew targetId now
      (call.2, if call.1.isOk then [.renewed targetId now] else [])
  | .expireLeases now => ((registry.expireLeases now).2, [])
  | .beginBinding targetId now => (registry.settle (registry.beginBinding targetId now), [])
  | .markConnected targetId stateGeneration now =>
      (registry.settle (registry.markConnected targetId stateGeneration now), [])
  | .markReconnecting targetId reason now => (registry.markReconnecting targetId reason now, [])
  | .markUnavailable targetId reason now => (registry.markUnavailable targetId reason now, [])
  | .updateSequence targetId sequence => ((registry.updateSequence targetId sequence).2, [])

def machine : Machine TargetProcessRegistry RegistryOp LeaseEvent :=
  ⟨apply⟩

theorem apply_register (registry : TargetProcessRegistry)
    (normalize : PathBuf → RelayResult String) (request : RegistrationRequest)
    (ownerIdentity : String) (now : OffsetDateTime) :
    (registry.apply (.register normalize request ownerIdentity now)).1 =
      (registry.register normalize request ownerIdentity now).2 := by
  simp only [apply]

theorem apply_renew (registry : TargetProcessRegistry) (targetId : String)
    (now : OffsetDateTime) :
    (registry.apply (.renew targetId now)).1 = (registry.renew targetId now).2 := by
  simp only [apply]

/-- A change that keeps the policy, every declaration and every place. -/
structure Frames (before after : TargetProcessRegistry) : Prop where
  policy : after.policy = before.policy
  declared : ∀ targetId, after.declared targetId = before.declared targetId
  placed : ∀ targetId, after.placed targetId = before.placed targetId

theorem Frames.refl (registry : TargetProcessRegistry) : Frames registry registry :=
  ⟨rfl, fun _ => rfl, fun _ => rfl⟩

theorem Frames.trans {first second third : TargetProcessRegistry} (h : Frames first second)
    (h' : Frames second third) : Frames first third where
  policy := h'.policy.trans h.policy
  declared targetId := (h'.declared targetId).trans (h.declared targetId)
  placed targetId := (h'.placed targetId).trans (h.placed targetId)

variable {registry : TargetProcessRegistry}

theorem declared_modify {targetId : String}
    {change : TargetProcessRegistration → TargetProcessRegistration}
    (h : ∀ registration, (change registration).declaration = registration.declaration) :
    Frames registry { registry with
      registrations := HashMap.modify targetId change registry.registrations } where
  policy := rfl
  declared other := by
    simp only [declared, HashMap.lookup_modify]
    split
    · cases registry.registrations.lookup other with
      | none => rfl
      | some registration => exact congrArg some (h registration)
    · rfl
  placed _ := rfl

theorem placed_modify {targetId : String}
    {change : TargetProcessConnection → TargetProcessConnection}
    (h : ∀ connection, (change connection).place = connection.place) :
    Frames registry { registry with
      connections := HashMap.modify targetId change registry.connections } where
  policy := rfl
  declared _ := rfl
  placed other := by
    simp only [placed, HashMap.lookup_modify]
    split
    · cases registry.connections.lookup other with
      | none => rfl
      | some connection => exact congrArg some (h connection)
    · rfl

theorem renew_frames (targetId : String) (now : OffsetDateTime) :
    Frames registry (registry.renew targetId now).2 := by
  generalize hcall : registry.renew targetId now = call
  have hspec := hcall ▸ renew_spec registry targetId now
  cases hspec with
  | unknown => exact Frames.refl registry
  | panicked => exact declared_modify fun _ => rfl
  | renewed => exact declared_modify fun _ => rfl

theorem expireLeases_frames (now : OffsetDateTime) :
    Frames registry (registry.expireLeases now).2 where
  policy := expireLeases_policy registry now
  declared targetId := by
    simp only [declared, lookup_swept, Option.map_map]
    congr 1
    funext registration
    unfold expireRegistration
    dsimp only [Function.comp]
    split <;> rfl
  placed targetId := by
    simp only [placed, expireLeases_connection]
    split
    · rw [Option.map_map]
      rfl
    · rfl

theorem settle_frames {targetId : String}
    {change : TargetProcessConnection → TargetProcessConnection}
    (h : ∀ connection, (change connection).place = connection.place) :
    Frames registry (registry.settle (registry.modifyConnection targetId change)) := by
  cases hresult : registry.modifyConnection targetId change with
  | error error => exact Frames.refl registry
  | ok changed =>
      obtain ⟨-, rfl⟩ := modifyConnection_ok.mp hresult
      exact placed_modify h

theorem markWith_frames (targetId : String) (state : ConnectionState) (reason : String)
    (now : OffsetDateTime) : Frames registry (registry.markWith targetId state reason now) := by
  rw [markWith_eq]
  exact placed_modify fun _ => rfl

def RegistryOp.isRegister : RegistryOp → Bool
  | .register .. => true
  | _ => false

theorem apply_frames {op : RegistryOp} (h : RegistryOp.isRegister op = false) :
    Frames registry (registry.apply op).1 := by
  cases op with
  | register => cases h
  | renew targetId now => exact renew_frames targetId now
  | expireLeases now => exact expireLeases_frames now
  | beginBinding targetId now => exact settle_frames fun _ => rfl
  | markConnected targetId stateGeneration now => exact settle_frames fun _ => rfl
  | markReconnecting targetId reason now => exact markWith_frames targetId _ reason now
  | markUnavailable targetId reason now => exact markWith_frames targetId _ reason now
  | updateSequence targetId sequence => exact placed_modify fun _ => rfl

/-- What a call that starts no lease does to each registration. -/
def RegistryOp.ages : RegistryOp → TargetProcessRegistration → TargetProcessRegistration
  | .expireLeases now => expireRegistration now
  | _ => id

def RegistryOp.startsLease : RegistryOp → Bool
  | .register .. | .renew .. => true
  | _ => false

theorem settle_registrations (targetId : String)
    (change : TargetProcessConnection → TargetProcessConnection) :
    (registry.settle (registry.modifyConnection targetId change)).registrations =
      registry.registrations := by
  cases hresult : registry.modifyConnection targetId change with
  | error error => rfl
  | ok changed =>
      obtain ⟨-, rfl⟩ := modifyConnection_ok.mp hresult
      rfl

theorem markWith_registrations (targetId : String) (state : ConnectionState) (reason : String)
    (now : OffsetDateTime) :
    (registry.markWith targetId state reason now).registrations = registry.registrations := by
  rw [markWith_eq]

theorem lookup_same {changed : TargetProcessRegistry}
    (h : changed.registrations = registry.registrations) (targetId : String) :
    changed.registrations.lookup targetId =
      (registry.registrations.lookup targetId).map id := by
  rw [h, Option.map_id]
  rfl

/-- Only the sweep changes registrations without starting a lease. -/
theorem apply_quiet (registry : TargetProcessRegistry) {op : RegistryOp}
    (h : RegistryOp.startsLease op = false) :
    (registry.apply op).2 = [] ∧ ∀ targetId,
      (registry.apply op).1.registrations.lookup targetId =
        (registry.registrations.lookup targetId).map (RegistryOp.ages op) := by
  cases op with
  | register => cases h
  | renew => cases h
  | expireLeases now =>
      refine ⟨rfl, fun targetId => ?_⟩
      dsimp only [apply, RegistryOp.ages]
      rw [lookup_swept]
  | beginBinding targetId now =>
      exact ⟨rfl, lookup_same (settle_registrations targetId _)⟩
  | markConnected targetId stateGeneration now =>
      exact ⟨rfl, lookup_same (settle_registrations targetId _)⟩
  | markReconnecting targetId reason now =>
      exact ⟨rfl, lookup_same (markWith_registrations targetId _ reason now)⟩
  | markUnavailable targetId reason now =>
      exact ⟨rfl, lookup_same (markWith_registrations targetId _ reason now)⟩
  | updateSequence targetId sequence =>
      exact ⟨rfl, lookup_same rfl⟩

end TargetProcessRegistry

/-- The configuration the repository documents, with a maximum of choice. -/
def samplePolicy (maxLeaseSeconds : UInt64) : RegistrationPolicy where
  listenPath := "/run/rust-supervisor/dashboard-relay-registration.sock"
  permissions := "0600"
  allowedIpcPathPrefixes := ["/run/rust-supervisor"]
  defaultLeaseSeconds := 30
  maxLeaseSeconds := maxLeaseSeconds

def sampleRequest (targetId : String) (ipcPath : PathBuf) (leaseSeconds : UInt64) :
    RegistrationRequest where
  targetId := targetId
  displayName := "payments worker a"
  ipcPath := ipcPath
  leaseSeconds := leaseSeconds
  supportedCommands := [⟨"restart_child", false, 30⟩]

end SupervisorRelay
