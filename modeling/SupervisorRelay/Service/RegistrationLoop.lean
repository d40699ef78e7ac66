import SupervisorRelay.Library.Machine
import SupervisorRelay.Registry.Runs
import SupervisorRelay.Source.Main

/-! The registration service. The loop registers every line that decodes for as
long as no connection ends it, so it is compared with a machine that never ends. -/
namespace SupervisorRelay

open TargetProcessRegistry (new)

/-- The request that the connection's line decodes to. -/
def RegistrationConnection.decoded (fromStr : String → Except String RegistrationRequest)
    (connection : RegistrationConnection) : Option RegistrationRequest :=
  match connection.readLine with
  | .error _ => none
  | .ok line => (fromStr line.trimmed).toOption

def RegistrationConnection.register (connection : RegistrationConnection)
    (registry : TargetProcessRegistry) (request : RegistrationRequest) :
    Outcome TargetProcessRegistration × TargetProcessRegistry :=
  registry.register connection.normalizeIpcPathKey request connection.ownerIdentity connection.now

/-- `register`, for a line that decodes. -/
def registerDecoded (fromStr : String → Except String RegistrationRequest)
    (registry : TargetProcessRegistry) (connection : RegistrationConnection) :
    TargetProcessRegistry :=
  match connection.decoded fromStr with
  | none => registry
  | some request => (connection.register registry request).2

/-- The acknowledgements such a line is due. -/
def decodedAcks (fromStr : String → Except String RegistrationRequest)
    (registry : TargetProcessRegistry) (connection : RegistrationConnection) : List Json :=
  match connection.decoded fromStr with
  | none => []
  | some request =>
    match (connection.register registry request).1 with
    | .panicked => []
    | .returned result => [registrationAck result]

/-- The service as it is meant: every connection is followed by the next. -/
def registrationMachine (fromStr : String → Except String RegistrationRequest) :
    Machine TargetProcessRegistry RegistrationConnection Json where
  step registry connection :=
    (registerDecoded fromStr registry connection, decodedAcks fromStr registry connection)

/-- The line decodes, a lease that passes the checks ends at a date, and the peer
stays for the acknowledgement. -/
def WellBehaved (fromStr : String → Except String RegistrationRequest)
    (registry : TargetProcessRegistry) (connection : RegistrationConnection) : Prop :=
  connection.writeAll = .ok () ∧ ∃ request, connection.decoded fromStr = some request ∧
    ∀ ipcPathKey, registry.registerChecks connection.normalizeIpcPathKey request
      connection.ownerIdentity = .ok ipcPathKey →
        (leaseExpiry connection.now request.leaseSeconds).isSome

/-- The loop is still running and has registered every line that decodes. -/
def Serves (fromStr : String → Except String RegistrationRequest)
    (registry : TargetProcessRegistry) (connections : List RegistrationConnection) : Prop :=
  let loop := runRegistrationLoop fromStr registry connections
  loop.status = .running ∧ loop.registry = connections.foldl (registerDecoded fromStr) registry

variable {fromStr : String → Except String RegistrationRequest}
variable {registry : TargetProcessRegistry} {connection : RegistrationConnection}
variable {request : RegistrationRequest}

theorem acceptRegistration_of_decoded (h : connection.decoded fromStr = some request) :
    acceptRegistration fromStr connection = .ok ⟨request, connection.ownerIdentity⟩ := by
  unfold RegistrationConnection.decoded at h
  unfold acceptRegistration decodeRegistrationLine
  cases hread : connection.readLine with
  | error diagnostic => simp [hread] at h
  | ok line =>
      rw [hread] at h
      dsimp only at h ⊢
      cases hparse : fromStr line.trimmed with
      | error diagnostic => simp [hparse, Except.toOption] at h
      | ok decoded =>
          simp only [hparse, Except.toOption, Option.some.injEq] at h
          rw [h]
          rfl

theorem acceptRegistration_of_undecoded (h : connection.decoded fromStr = none) :
    ∃ error, acceptRegistration fromStr connection = .error error := by
  unfold RegistrationConnection.decoded at h
  unfold acceptRegistration decodeRegistrationLine
  cases hread : connection.readLine with
  | error diagnostic => exact ⟨_, rfl⟩
  | ok line =>
      rw [hread] at h
      dsimp only at h ⊢
      cases hparse : fromStr line.trimmed with
      | error diagnostic => exact ⟨_, rfl⟩
      | ok decoded => simp [hparse, Except.toOption] at h

theorem registerDecoded_of_decoded (h : connection.decoded fromStr = some request) :
    registerDecoded fromStr registry connection = (connection.register registry request).2 := by
  rw [registerDecoded, h]

theorem registerDecoded_of_undecoded (h : connection.decoded fromStr = none) :
    registerDecoded fromStr registry connection = registry := by
  rw [registerDecoded, h]

/-- A registration panics exactly when it passes its checks and its lease has no end. -/
theorem register_panicked_iff (connection : RegistrationConnection)
    (registry : TargetProcessRegistry) (request : RegistrationRequest) :
    (connection.register registry request).1 = .panicked ↔
      ∃ ipcPathKey, registry.registerChecks connection.normalizeIpcPathKey request
        connection.ownerIdentity = .ok ipcPathKey ∧
          leaseExpiry connection.now request.leaseSeconds = none := by
  unfold RegistrationConnection.register
  obtain ⟨error, hchecks, hcall⟩ | ⟨ipcPathKey, hchecks, hexpiry, hcall⟩ |
      ⟨ipcPathKey, expiresAt, hchecks, hexpiry, houtcome, -⟩ :=
    registry.register_cases connection.normalizeIpcPathKey request connection.ownerIdentity
      connection.now
  · simp [hcall, hchecks]
  · simp [hcall, hchecks, hexpiry]
  · simp [houtcome, hexpiry]

theorem wellBehaved_iff :
    WellBehaved fromStr registry connection ↔
      connection.writeAll = .ok () ∧ ∃ request result, connection.decoded fromStr = some request ∧
        (connection.register registry request).1 = .returned result := by
  refine and_congr_right fun _ => exists_congr fun request => ?_
  rw [exists_and_left]
  refine and_congr_right fun _ => ?_
  have hpanic := register_panicked_iff connection registry request
  cases houtcome : (connection.register registry request).1 with
  | panicked =>
      obtain ⟨ipcPathKey, hchecks, hexpiry⟩ := hpanic.mp houtcome
      simp [hchecks, hexpiry]
  | returned result =>
      simp only [Outcome.returned.injEq, exists_eq', iff_true]
      intro ipcPathKey hchecks
      by_contra hnone
      have hexpiry := Option.not_isSome_iff_eq_none.mp hnone
      cases houtcome.symm.trans (hpanic.mpr ⟨ipcPathKey, hchecks, hexpiry⟩)

/-- A well-behaved connection is registered and acknowledged, and the loop goes on. -/
theorem runRegistrationLoop_wellBehaved (h : WellBehaved fromStr registry connection)
    (rest : List RegistrationConnection) :
    runRegistrationLoop fromStr registry (connection :: rest) =
      let next := runRegistrationLoop fromStr (registerDecoded fromStr registry connection) rest
      { next with acks := decodedAcks fromStr registry connection ++ next.acks } := by
  obtain ⟨hwrite, request, result, hdecoded, hreturned⟩ := wellBehaved_iff.mp h
  rw [runRegistrationLoop, acceptRegistration_of_decoded hdecoded,
    registerDecoded_of_decoded hdecoded, decodedAcks, hdecoded]
  unfold RegistrationConnection.register at hreturned ⊢
  dsimp only
  rw [hreturned]
  dsimp only
  unfold writeRegistrationAck
  rw [hwrite]
  rfl

/-- Any other connection ends the loop, whatever follows it. -/
theorem runRegistrationLoop_misbehaved (h : ¬WellBehaved fromStr registry connection)
    (rest : List RegistrationConnection) :
    (runRegistrationLoop fromStr registry (connection :: rest)).status ≠ .running := by
  rw [runRegistrationLoop]
  cases hdecoded : connection.decoded fromStr with
  | none =>
      obtain ⟨error, haccept⟩ := acceptRegistration_of_undecoded hdecoded
      rw [haccept]
      simp
  | some request =>
      rw [acceptRegistration_of_decoded hdecoded]
      dsimp only
      cases houtcome : (connection.register registry request).1 with
      | panicked =>
          unfold RegistrationConnection.register at houtcome
          rw [houtcome]
          simp
      | returned result =>
          have hwrite : connection.writeAll ≠ .ok () := fun hok =>
            h (wellBehaved_iff.mpr ⟨hok, request, result, hdecoded, houtcome⟩)
          unfold RegistrationConnection.register at houtcome
          rw [houtcome]
          dsimp only
          unfold writeRegistrationAck
          cases hanswer : connection.writeAll with
          | ok => exact absurd hanswer hwrite
          | error diagnostic => simp

theorem registrationMachine_final (fromStr : String → Except String RegistrationRequest)
    (registry : TargetProcessRegistry) (connections : List RegistrationConnection) :
    (registrationMachine fromStr).final registry connections =
      connections.foldl (registerDecoded fromStr) registry := by
  induction connections generalizing registry with
  | nil => rfl
  | cons connection rest ih => exact ih (registerDecoded fromStr registry connection)

/-- While every connection is well-behaved, the loop is the service as it is meant,
acknowledgements included. -/
theorem runRegistrationLoop_along {connections : List RegistrationConnection}
    (h : (registrationMachine fromStr).Along (WellBehaved fromStr) registry connections) :
    runRegistrationLoop fromStr registry connections =
      ⟨.running, (registrationMachine fromStr).final registry connections,
        (registrationMachine fromStr).history registry connections⟩ := by
  induction connections generalizing registry with
  | nil => rfl
  | cons connection rest ih =>
      have hnext := ih h.2
      change runRegistrationLoop fromStr (registerDecoded fromStr registry connection) rest = _
        at hnext
      rw [runRegistrationLoop_wellBehaved h.1 rest, hnext]
      rfl

theorem along_of_running {connections : List RegistrationConnection}
    (h : (runRegistrationLoop fromStr registry connections).status = .running) :
    (registrationMachine fromStr).Along (WellBehaved fromStr) registry connections := by
  induction connections generalizing registry with
  | nil => trivial
  | cons connection rest ih =>
      by_cases hbehaved : WellBehaved fromStr registry connection
      · rw [runRegistrationLoop_wellBehaved hbehaved] at h
        exact ⟨hbehaved, ih h⟩
      · exact absurd h (runRegistrationLoop_misbehaved hbehaved rest)

/-- The loop serves a sequence of connections exactly when each of them, met in the
registry that those before it leave, is well-behaved. -/
theorem registration_loop_serves_iff (fromStr : String → Except String RegistrationRequest)
    (registry : TargetProcessRegistry) (connections : List RegistrationConnection) :
    Serves fromStr registry connections ↔
      (registrationMachine fromStr).Along (WellBehaved fromStr) registry connections := by
  constructor
  · intro hserves
    exact along_of_running hserves.1
  · intro halong
    have hloop := runRegistrationLoop_along halong
    refine ⟨by rw [hloop], ?_⟩
    rw [hloop, registrationMachine_final]

def sampleMembers : String :=
  "\"target_id\":\"payments-worker-a\",\"display_name\":\"payments worker a\"," ++
    "\"ipc_path\":\"/run/rust-supervisor/a.sock\",\"lease_seconds\":30," ++
    "\"supported_commands\":[\x7b\"name\":\"restart_child\",\"idempotent\":false," ++
    "\"timeout_seconds\":30\x7d]"

/-- The line that registers `payments-worker-a`. -/
def sampleLine : String :=
  "\x7b" ++ (sampleMembers ++ "\x7d\n")

/-- The parser, at that line and at the end of input. -/
def sampleFromStr (line : String) : Except String RegistrationRequest :=
  if line.isEmpty then .error "EOF while parsing a value at line 1 column 0"
  else .ok (sampleRequest "payments-worker-a" "/run/rust-supervisor/a.sock" 30)

def sampleConnection (line : String) : RegistrationConnection where
  ownerIdentity := "uid:501"
  readLine := .ok line
  writeAll := .ok ()
  normalizeIpcPathKey := .ok
  now := .unixEpoch

theorem sampleConnection_decoded {line : String} (h : line.isBlank = false) :
    (sampleConnection line).decoded sampleFromStr =
      some (sampleRequest "payments-worker-a" "/run/rust-supervisor/a.sock" 30) := by
  have hparse : sampleFromStr line.trimmed =
      .ok (sampleRequest "payments-worker-a" "/run/rust-supervisor/a.sock" 30) :=
    if_neg (Bool.eq_false_iff.mp h)
  simp only [RegistrationConnection.decoded, sampleConnection, hparse, Except.toOption]

theorem sampleLine_isBlank : sampleLine.isBlank = false := by
  rw [Bool.eq_false_iff, ne_eq, String.isBlank_iff, sampleLine, String.toList_append]
  intro h
  have hbrace := h '\x7b' (List.mem_append_left _ (by decide))
  simp [Char.isWhiteSpace] at hbrace

/-- A peer that closes without a line ends the service for the peer after it. -/
theorem closed_peer_ends_service :
    let connections := [sampleConnection "", sampleConnection sampleLine]
    let registry := new (samplePolicy 120)
    ¬Serves sampleFromStr registry connections ∧
      (runRegistrationLoop sampleFromStr registry connections).registry.registrations.lookup
        "payments-worker-a" = none ∧
      ((connections.foldl (registerDecoded sampleFromStr) registry).registrations.lookup
        "payments-worker-a").isSome = true := by
  intro connections registry
  have hclosed : (sampleConnection "").decoded sampleFromStr = none := by decide +kernel
  have hmisbehaved : ¬WellBehaved sampleFromStr registry (sampleConnection "") := by
    intro ⟨_, request, hdecoded, _⟩
    cases hclosed.symm.trans hdecoded
  refine ⟨fun hserves => ?_, by decide +kernel, ?_⟩
  · exact runRegistrationLoop_misbehaved hmisbehaved [sampleConnection sampleLine] hserves.1
  · have hsecond : connections.foldl (registerDecoded sampleFromStr) registry =
        ((sampleConnection sampleLine).register registry
          (sampleRequest "payments-worker-a" "/run/rust-supervisor/a.sock" 30)).2 := by
      rw [List.foldl_cons, registerDecoded_of_undecoded hclosed, List.foldl_cons,
        registerDecoded_of_decoded (sampleConnection_decoded sampleLine_isBlank), List.foldl_nil]
    rw [hsecond]
    decide +kernel

end SupervisorRelay
