import SupervisorRelay.Library.HashMap
import SupervisorRelay.Library.Time
import SupervisorRelay.Source.Command
import SupervisorRelay.Source.Registration

/-! The target process registry of `registry.rs`. Methods that change it return
the changed registry; lease arithmetic can panic, and the registry a panic
leaves behind is part of the result. -/
namespace SupervisorRelay

inductive RegistrationState where
  | active
  | rejected
  | expired
deriving DecidableEq

inductive ConnectionState where
  | registered
  | disconnected
  | connecting
  | connected
  | reconnecting
  | unavailable
  | expired
deriving DecidableEq

structure TargetProcessRegistration where
  targetId : String
  displayName : String
  ipcPath : PathBuf
  ipcPathKey : String
  ownerIdentity : String
  leaseSeconds : UInt64
  supportedCommands : List SupportedCommand
  registeredAt : OffsetDateTime
  renewedAt : OffsetDateTime
  expiresAt : OffsetDateTime
  registrationState : RegistrationState
  lastRejection : Option String
deriving DecidableEq

structure TargetProcessConnection where
  targetId : String
  ipcPath : PathBuf
  state : ConnectionState
  lastError : Option String
  lastStateGeneration : Option UInt64
  lastSequence : Option UInt64
  connectedAt : Option OffsetDateTime
  updatedAt : OffsetDateTime
deriving DecidableEq

structure VisibleTarget where
  targetId : String
  displayName : String
  registrationState : RegistrationState
  connectionState : ConnectionState
  supportedCommands : List SupportedCommand
deriving DecidableEq

structure AvailabilitySummary where
  total : Nat
  registered : Nat
  connected : Nat
  reconnecting : Nat
  unavailable : Nat
  expired : Nat
deriving DecidableEq

structure TargetProcessRegistry where
  policy : RegistrationPolicy
  registrations : HashMap String TargetProcessRegistration
  connections : HashMap String TargetProcessConnection

/-- `now + Duration::seconds(lease_seconds as i64)`; `none` is the panic. -/
def leaseExpiry (now : OffsetDateTime) (leaseSeconds : UInt64) : Option OffsetDateTime :=
  now.checkedAdd (Duration.seconds leaseSeconds.toInt64)

/-- The file system as path normalization sees it. -/
structure FileSystem where
  isSymlink : PathBuf → Bool
  canonicalize : PathBuf → Except String PathBuf

def normalizeIpcPathKey (fileSystem : FileSystem) (path : PathBuf) : RelayResult String :=
  if fileSystem.isSymlink path then
    .error (.new "invalid_ipc_path" "registration" none "ipc path must not be a symlink" false)
  else
    match path.parent with
    | none =>
        .error (.new "invalid_ipc_path" "registration" none
          "ipc path must have a parent directory" false)
    | some parent =>
      match path.fileName with
      | none =>
          .error (.new "invalid_ipc_path" "registration" none
            "ipc path must have a file name" false)
      | some fileName =>
        match fileSystem.canonicalize parent with
        | .error diagnostic =>
            .error (.new "invalid_ipc_path" "registration" none
              ("ipc path parent could not be normalized: " ++ diagnostic) false)
        | .ok parent => .ok (parent.join fileName)

namespace TargetProcessRegistry

def new (policy : RegistrationPolicy) : TargetProcessRegistry :=
  ⟨policy, ∅, ∅⟩

def validateRequest (registry : TargetProcessRegistry) (request : RegistrationRequest) :
    RelayResult Unit :=
  if request.targetId.isBlank then
    .error (.new "empty_target_id" "registration" none "target id must not be empty" false)
  else if !request.ipcPath.isAbsolute then
    .error (.forTarget "relative_ipc_path" "registration" request.targetId
      "IPC path must be absolute" false)
  else if !registry.policy.ipcPathIsAllowed request.ipcPath then
    .error (.forTarget "ipc_path_not_allowed" "registration" request.targetId
      "IPC path is outside allowed prefixes" false)
  else if request.leaseSeconds == 0 || request.leaseSeconds > registry.policy.maxLeaseSeconds then
    .error (.forTarget "invalid_lease_seconds" "registration" request.targetId
      "lease seconds must be positive and must not exceed policy max" false)
  else if request.supportedCommands.any fun command =>
      command.name.isBlank || command.timeoutSeconds == 0 then
    .error (.forTarget "unsupported_command_schema" "registration" request.targetId
      "supported command name and timeout must be valid" false)
  else .ok ()

/-- The checks of `register` before its first write; on success the path key. -/
def registerChecks (registry : TargetProcessRegistry) (normalize : PathBuf → RelayResult String)
    (request : RegistrationRequest) (ownerIdentity : String) : RelayResult String := do
  registry.validateRequest request
  let ipcPathKey ← normalize request.ipcPath
  if (registry.registrations.lookup request.targetId).any
      fun existing => existing.ownerIdentity != ownerIdentity then
    throw (.forTarget "target_id_owner_mismatch" "registration" request.targetId
      "target id is owned by another supervisor identity" false)
  if registry.registrations.entries.any
      fun entry => entry.1 != request.targetId && entry.2.ipcPathKey == ipcPathKey then
    throw (.new "ipc_path_conflict" "registration" none
      "ipc path is already used by another target" false)
  return ipcPathKey

def upsertExistingRegistration (registry : TargetProcessRegistry) (request : RegistrationRequest)
    (ownerIdentity ipcPathKey : String) (now : OffsetDateTime) :
    Outcome TargetProcessRegistration × TargetProcessRegistry :=
  match registry.registrations.lookup request.targetId with
  | none =>
      (.returned (.error (.forTarget "target_not_registered" "registration" request.targetId
        "target is not registered" true)), registry)
  | some existing =>
    let pathChanged := existing.ipcPathKey != ipcPathKey
    match leaseExpiry now request.leaseSeconds with
    | none => (.panicked, registry)
    | some expiresAt =>
      let registration : TargetProcessRegistration := {
        targetId := request.targetId
        displayName := request.displayName
        ipcPath := request.ipcPath
        ipcPathKey := ipcPathKey
        ownerIdentity := ownerIdentity
        leaseSeconds := request.leaseSeconds
        supportedCommands := request.supportedCommands
        registeredAt := existing.registeredAt
        renewedAt := now
        expiresAt := expiresAt
        registrationState := .active
        lastRejection := none }
      (.returned (.ok registration), { registry with
        connections := HashMap.modify request.targetId (fun connection =>
          let connection := { connection with ipcPath := request.ipcPath, updatedAt := now }
          if pathChanged then
            { connection with
              state := .reconnecting
              lastError := some "ipc_path_changed"
              connectedAt := none }
          else connection) registry.connections
        registrations := registry.registrations.insert request.targetId registration })

@[irreducible] def register (registry : TargetProcessRegistry)
    (normalize : PathBuf → RelayResult String) (request : RegistrationRequest)
    (ownerIdentity : String) (now : OffsetDateTime) :
    Outcome TargetProcessRegistration × TargetProcessRegistry :=
  match registry.registerChecks normalize request ownerIdentity with
  | .error error => (.returned (.error error), registry)
  | .ok ipcPathKey =>
    if request.targetId ∈ registry.registrations then
      registry.upsertExistingRegistration request ownerIdentity ipcPathKey now
    else
      match leaseExpiry now request.leaseSeconds with
      | none => (.panicked, registry)
      | some expiresAt =>
        let registration : TargetProcessRegistration := {
          targetId := request.targetId
          displayName := request.displayName
          ipcPath := request.ipcPath
          ipcPathKey := ipcPathKey
          ownerIdentity := ownerIdentity
          leaseSeconds := request.leaseSeconds
          supportedCommands := request.supportedCommands
          registeredAt := now
          renewedAt := now
          expiresAt := expiresAt
          registrationState := .active
          lastRejection := none }
        let connection : TargetProcessConnection := {
          targetId := request.targetId
          ipcPath := request.ipcPath
          state := .registered
          lastError := none
          lastStateGeneration := none
          lastSequence := none
          connectedAt := none
          updatedAt := now }
        (.returned (.ok registration), { registry with
          connections := registry.connections.insert request.targetId connection
          registrations := registry.registrations.insert request.targetId registration })

/-- `renewed_at` is written before the addition that can panic. -/
@[irreducible] def renew (registry : TargetProcessRegistry) (targetId : String)
    (now : OffsetDateTime) :
    Outcome Unit × TargetProcessRegistry :=
  match registry.registrations.lookup targetId with
  | none =>
      (.returned (.error (.forTarget "target_not_registered" "registration_renew" targetId
        "target is not registered" true)), registry)
  | some registration =>
    match leaseExpiry now registration.leaseSeconds with
    | none =>
        (.panicked, { registry with
          registrations := HashMap.modify targetId
            (fun registration => { registration with renewedAt := now }) registry.registrations })
    | some expiresAt =>
        (.returned (.ok ()), { registry with
          registrations := HashMap.modify targetId (fun registration =>
            { registration with
              renewedAt := now
              expiresAt := expiresAt
              registrationState := .active }) registry.registrations })

/-- The sweep's condition on one record. -/
def leaseDue (now : OffsetDateTime) (registration : TargetProcessRegistration) : Bool :=
  registration.registrationState = .active && registration.expiresAt ≤ now

/-- The sweep's effects beyond the registration itself: the connection under the
record's own id, and the count. -/
def expireConnection (now : OffsetDateTime)
    (swept : HashMap String TargetProcessConnection × Nat)
    (registration : TargetProcessRegistration) : HashMap String TargetProcessConnection × Nat :=
  if leaseDue now registration then
    (HashMap.modify registration.targetId (fun connection =>
      { connection with state := .expired, updatedAt := now }) swept.1, swept.2 + 1)
  else swept

@[irreducible] def expireLeases (registry : TargetProcessRegistry) (now : OffsetDateTime) :
    Nat × TargetProcessRegistry :=
  let swept := registry.registrations.values.foldl (expireConnection now) (registry.connections, 0)
  (swept.2, { registry with
    registrations := HashMap.mapValues (fun _ registration =>
      if leaseDue now registration then { registration with registrationState := .expired }
      else registration) registry.registrations
    connections := swept.1 })

def isActive (now : OffsetDateTime) (registration : TargetProcessRegistration) : Bool :=
  registration.registrationState = .active && registration.expiresAt > now

def activeRegistrationCount (registry : TargetProcessRegistry) (now : OffsetDateTime) : Nat :=
  (registry.registrations.values.filter (isActive now)).length

def activeTargets (registry : TargetProcessRegistry) (now : OffsetDateTime) :
    List VisibleTarget :=
  (registry.registrations.values.filter (isActive now)).map fun registration => {
    targetId := registration.targetId
    displayName := registration.displayName
    registrationState := registration.registrationState
    connectionState :=
      ((registry.connections.lookup registration.targetId).map (·.state)).getD .unavailable
    supportedCommands := registration.supportedCommands }

def registration (registry : TargetProcessRegistry) (targetId : String) :
    RelayResult TargetProcessRegistration :=
  match registry.registrations.lookup targetId with
  | some registration => .ok registration
  | none =>
      .error (.forTarget "target_not_registered" "registry" targetId
        "target is not registered" true)

def ensureTargetActive (registry : TargetProcessRegistry) (targetId : String)
    (now : OffsetDateTime) : RelayResult Unit := do
  let registration ← registry.registration targetId
  if registration.registrationState ≠ .active ∨ registration.expiresAt ≤ now then
    throw (.forTarget "target_unavailable" "registry" targetId
      "target registration is not active" true)

def ensureCommandSupported (registry : TargetProcessRegistry) (targetId : String)
    (command : ControlCommandName) : RelayResult Unit := do
  let registration ← registry.registration targetId
  let commandName := command.wireName
  if registration.supportedCommands.any fun supported => supported.name == commandName then
    return ()
  throw (.forTarget "unsupported_command" "command_validate" targetId
    "target does not declare support for this command" false)

/-- A write through `connection_mut`, or its not-registered error. -/
def modifyConnection (registry : TargetProcessRegistry) (targetId : String)
    (change : TargetProcessConnection → TargetProcessConnection) :
    RelayResult TargetProcessRegistry :=
  if targetId ∈ registry.connections then
    .ok { registry with connections := HashMap.modify targetId change registry.connections }
  else
    .error (.forTarget "target_not_registered" "registry" targetId
      "target connection is not registered" true)

def beginBinding (registry : TargetProcessRegistry) (targetId : String) (now : OffsetDateTime) :
    RelayResult TargetProcessRegistry :=
  registry.modifyConnection targetId fun connection =>
    { connection with state := .connecting, updatedAt := now }

def markConnected (registry : TargetProcessRegistry) (targetId : String)
    (stateGeneration : UInt64) (now : OffsetDateTime) : RelayResult TargetProcessRegistry :=
  registry.modifyConnection targetId fun connection =>
    { connection with
      state := .connected
      lastStateGeneration := some stateGeneration
      connectedAt := some now
      updatedAt := now
      lastError := none }

/-- A marking that ignores an absent connection. -/
def markWith (registry : TargetProcessRegistry) (targetId : String) (state : ConnectionState)
    (reason : String) (now : OffsetDateTime) : TargetProcessRegistry :=
  match registry.modifyConnection targetId fun connection =>
    { connection with state := state, lastError := some reason, updatedAt := now } with
  | .ok changed => changed
  | .error _ => registry

def markReconnecting (registry : TargetProcessRegistry) (targetId reason : String)
    (now : OffsetDateTime) : TargetProcessRegistry :=
  registry.markWith targetId .reconnecting reason now

def markUnavailable (registry : TargetProcessRegistry) (targetId reason : String)
    (now : OffsetDateTime) : TargetProcessRegistry :=
  registry.markWith targetId .unavailable reason now

def connectionState (registry : TargetProcessRegistry) (targetId : String) :
    Option ConnectionState :=
  (registry.connections.lookup targetId).map (·.state)

def summarize (summary : AvailabilitySummary) (connection : TargetProcessConnection) :
    AvailabilitySummary :=
  match connection.state with
  | .registered | .disconnected | .connecting =>
      { summary with registered := summary.registered + 1 }
  | .connected => { summary with connected := summary.connected + 1 }
  | .reconnecting => { summary with reconnecting := summary.reconnecting + 1 }
  | .unavailable => { summary with unavailable := summary.unavailable + 1 }
  | .expired => { summary with expired := summary.expired + 1 }

def availabilitySummary (registry : TargetProcessRegistry) : AvailabilitySummary :=
  registry.connections.values.foldl summarize ⟨registry.connections.len, 0, 0, 0, 0, 0⟩

def updateSequence (registry : TargetProcessRegistry) (targetId : String) (sequence : UInt64) :
    Option UInt64 × TargetProcessRegistry :=
  ((registry.connections.lookup targetId).bind (·.lastSequence), { registry with
    connections := HashMap.modify targetId
      (fun connection => { connection with lastSequence := some sequence })
      registry.connections })

end TargetProcessRegistry
end SupervisorRelay
