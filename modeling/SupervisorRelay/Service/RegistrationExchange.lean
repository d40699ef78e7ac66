import SupervisorRelay.Library.JsonAccepted
import SupervisorRelay.Registry.Ownership
import SupervisorRelay.Service.RegistrationLoop
import SupervisorRelay.Source.RegistrationReader

/-! Registration over the socket, as text. A line is a request exactly when it declares one
field for field, and an acknowledgement tells the target what became of it. -/
namespace SupervisorRelay

open Json (Fits Spells depthLimit ofU64 strictMembers_iff)

def SupportedCommand.DeclaredBy (document : Json) (command : SupportedCommand) : Prop :=
  Spells supportedCommandFields
    [.string command.name, .bool command.idempotent, ofU64 command.timeoutSeconds] document

def RegistrationRequest.DeclaredBy (document : Json) (request : RegistrationRequest) : Prop :=
  ∃ commands, Spells registrationRequestFields [.string request.targetId,
      .string request.displayName, .string request.ipcPath, ofU64 request.leaseSeconds,
      .array commands] document ∧
    List.Forall₂ SupportedCommand.DeclaredBy commands request.supportedCommands

theorem readSupportedCommand_eq_some {document : Json} {command : SupportedCommand} :
    readSupportedCommand document = some command ↔ command.DeclaredBy document := by
  rw [SupportedCommand.DeclaredBy, ← strictMembers_iff (by decide) rfl]
  simp only [readSupportedCommand, supportedCommandFields, Option.bind_eq_bind,
    Option.bind_eq_some_iff, Json.required_str, Json.required_bool, Json.required_u64,
    List.zip_cons_cons, List.zip_nil_right, List.forall_mem_cons]
  constructor
  · rintro ⟨members, hmembers, name, hname, idempotent, hidempotent, timeout, htimeout, hcommand⟩
    cases hcommand
    exact ⟨members, hmembers, hname, hidempotent, htimeout, List.forall_mem_nil _⟩
  · rintro ⟨members, hmembers, hname, hidempotent, htimeout, -⟩
    exact ⟨members, hmembers, _, hname, _, hidempotent, _, htimeout, rfl⟩

theorem readRegistrationRequest_eq_some {document : Json} {request : RegistrationRequest} :
    readRegistrationRequest document = some request ↔ request.DeclaredBy document := by
  have hspelled (commands : List Json) :
      _ ↔ Spells registrationRequestFields [.string request.targetId, .string request.displayName,
        .string request.ipcPath, ofU64 request.leaseSeconds, .array commands] document :=
    strictMembers_iff (by decide) rfl
  simp only [RegistrationRequest.DeclaredBy, ← hspelled]
  simp only [readRegistrationRequest, registrationRequestFields, Option.bind_eq_bind,
    Option.bind_eq_some_iff, Json.required_str, Json.required_u64, Json.required_list,
    readSupportedCommand_eq_some, List.zip_cons_cons, List.zip_nil_right, List.forall_mem_cons]
  constructor
  · rintro ⟨members, hmembers, targetId, htarget, displayName, hdisplay, ipcPath, hpath, lease,
      hlease, commands, ⟨items, hitems, hcommands⟩, hrequest⟩
    cases hrequest
    exact ⟨items, ⟨members, hmembers, htarget, hdisplay, hpath, hlease, hitems,
      List.forall_mem_nil _⟩, hcommands⟩
  · rintro ⟨items, ⟨members, hmembers, htarget, hdisplay, hpath, hlease, hitems, -⟩, hcommands⟩
    exact ⟨members, hmembers, _, htarget, _, hdisplay, _, hpath, _, hlease, _,
      ⟨items, hitems, hcommands⟩, rfl⟩

variable {json : SerdeJson} {line : String} {request : RegistrationRequest}

theorem registrationFromStr_ok :
    registrationFromStr json line = .ok request ↔
      ∃ document, json.document line = .ok document ∧ request.DeclaredBy document := by
  simp only [← readRegistrationRequest_eq_some]
  unfold registrationFromStr
  cases json.document line with
  | error diagnostic => simp
  | ok document =>
      cases hread : readRegistrationRequest document <;> simp [hread]

/-- A line is accepted as the request that its document declares: an object that has every
field of the struct once and nothing else, in whatever order, or an array of the fields in
theirs; and so for each of its commands. -/
theorem registration_line_accepted_iff (json : SerdeJson) (line : String)
    (request : RegistrationRequest) :
    decodeRegistrationLine (registrationFromStr json) line = .ok request ↔
      ∃ document, json.document line = .ok document ∧ request.DeclaredBy document := by
  rw [← registrationFromStr_ok]
  unfold decodeRegistrationLine
  cases registrationFromStr json line <;> simp

/-! The request of a target that writes it with the same derive. -/

theorem writeSupportedCommand_declared (command : SupportedCommand) :
    command.DeclaredBy (writeSupportedCommand command) :=
  .object (List.Perm.refl _)

theorem writeRegistrationRequest_declared (request : RegistrationRequest) :
    request.DeclaredBy (writeRegistrationRequest request) := by
  refine ⟨request.supportedCommands.map writeSupportedCommand, .object (List.Perm.refl _), ?_⟩
  rw [List.forall₂_map_left_iff, List.forall₂_same]
  exact fun command _ => writeSupportedCommand_declared command

theorem writeRegistrationRequest_fits (request : RegistrationRequest) :
    Fits 3 (writeRegistrationRequest request) := by
  refine Fits.named registrationRequestFields rfl (by decide) ?_
  simp only [List.forall_mem_cons]
  refine ⟨Fits.string _, Fits.string _, Fits.string _, Fits.integer trivial,
    Fits.array fun item hmem => ?_, List.forall_mem_nil _⟩
  obtain ⟨command, -, rfl⟩ := List.mem_map.mp hmem
  exact writeSupportedCommand_fits command

theorem registrationFromStr_line (hjson : json.Lawful) (request : RegistrationRequest) :
    registrationFromStr json (json.toLine (writeRegistrationRequest request)).trimmed =
      .ok request :=
  registrationFromStr_ok.mpr ⟨writeRegistrationRequest request,
    hjson.document_line ((writeRegistrationRequest_fits request).mono (by decide)),
    writeRegistrationRequest_declared request⟩

/-! The acknowledgement. -/

/-- What a target learns of its registration. -/
def Learns (answer : Json) : RelayResult TargetProcessRegistration → Prop
  | .ok registration =>
      answer.getPath ["ok"] = some (.bool true) ∧
        answer.getPath ["target_id"] = some (.string registration.targetId)
  | .error error =>
      answer.getPath ["ok"] = some (.bool false) ∧
        answer.getPath ["error", "code"] = some (.string error.code) ∧
        answer.getPath ["error", "message"] = some (.string error.message) ∧
        answer.getPath ["retryable"] = some (.bool error.retryable)

/-- The target reads its acknowledgement line and learns the result. -/
def Reports (json : SerdeJson) (result : RelayResult TargetProcessRegistration) (ack : Json) :
    Prop :=
  ∃ answer, json.fromStr (json.toLine ack).trimmed = .ok answer ∧ Learns answer result

theorem registrationAck_fits (result : RelayResult TargetProcessRegistration) :
    Fits 2 (registrationAck result) := by
  cases result with
  | ok registration =>
      refine Fits.named ["ok", "retryable", "status", "target_id"] rfl (by decide) ?_
      simp only [List.forall_mem_cons]
      exact ⟨Fits.bool _, Fits.bool _, Fits.string _, Fits.string _, List.forall_mem_nil _⟩
  | error error =>
      refine Fits.named ["error", "ok", "retryable"] rfl (by decide) ?_
      simp only [List.forall_mem_cons]
      refine ⟨Fits.named ["code", "message"] rfl (by decide) ?_, Fits.bool _, Fits.bool _,
        List.forall_mem_nil _⟩
      simp only [List.forall_mem_cons]
      exact ⟨Fits.string _, Fits.string _, List.forall_mem_nil _⟩

theorem registrationAck_reports (hjson : json.Lawful)
    (result : RelayResult TargetProcessRegistration) :
    Reports json result (registrationAck result) := by
  have hfits := (registrationAck_fits result).mono (show 2 ≤ depthLimit by decide)
  obtain ⟨answer, hanswer, hsame⟩ := hjson.line_parsesBack hfits
  refine ⟨answer, hanswer, ?_⟩
  cases result with
  | ok registration => exact ⟨hsame.getPath_bool rfl, hsame.getPath_str rfl⟩
  | error error =>
      exact ⟨hsame.getPath_bool rfl, hsame.getPath_str rfl, hsame.getPath_str rfl,
        hsame.getPath_bool rfl⟩

theorem decoded_eq_some {fromStr : String → Except String RegistrationRequest}
    {connection : RegistrationConnection} :
    connection.decoded fromStr = some request ↔
      ∃ line, connection.readLine = .ok line ∧ fromStr line.trimmed = .ok request := by
  unfold RegistrationConnection.decoded
  cases connection.readLine with
  | error diagnostic => simp
  | ok line =>
      cases hparse : fromStr line.trimmed <;> simp [hparse, Except.toOption]

/-- A target process with what it declares, and what the host knows when it does. -/
structure Registrant where
  request : RegistrationRequest
  ownerIdentity : String
  normalizeIpcPathKey : PathBuf → RelayResult String
  now : OffsetDateTime

namespace Registrant

/-- It writes one line and stays for the answer. -/
def connection (json : SerdeJson) (registrant : Registrant) : RegistrationConnection where
  ownerIdentity := registrant.ownerIdentity
  readLine := .ok (json.toLine (writeRegistrationRequest registrant.request))
  writeAll := .ok ()
  normalizeIpcPathKey := registrant.normalizeIpcPathKey
  now := registrant.now

/-- Its request, handed to the registry itself. -/
def register (registry : TargetProcessRegistry) (registrant : Registrant) :
    Outcome TargetProcessRegistration × TargetProcessRegistry :=
  registry.register registrant.normalizeIpcPathKey registrant.request registrant.ownerIdentity
    registrant.now

/-- Its lease, should it be granted one, ends at a date. -/
def Dated (registrant : Registrant) : Prop :=
  (leaseExpiry registrant.now registrant.request.leaseSeconds).isSome = true

theorem decoded (hjson : json.Lawful) (registrant : Registrant) :
    (registrant.connection json).decoded (registrationFromStr json) = some registrant.request :=
  decoded_eq_some.mpr ⟨_, rfl, registrationFromStr_line hjson registrant.request⟩

theorem along_dated (hjson : json.Lawful) (registry : TargetProcessRegistry)
    {registrants : List Registrant} (h : ∀ registrant ∈ registrants, registrant.Dated) :
    (registrationMachine (registrationFromStr json)).Along (WellBehaved (registrationFromStr json))
      registry (registrants.map (·.connection json)) := by
  induction registrants generalizing registry with
  | nil => trivial
  | cons registrant rest ih =>
      obtain ⟨hdated, hrest⟩ := List.forall_mem_cons.mp h
      exact ⟨⟨rfl, registrant.request, decoded hjson registrant, fun _ _ => hdated⟩, ih _ hrest⟩

end Registrant

/-- A target on an allowed path. -/
def firstRegistrant : Registrant :=
  ⟨sampleRequest "payments-worker-a" "/run/rust-supervisor/a.sock" 30, "unix_uid:501", .ok,
    .unixEpoch⟩

/-- A target on a path that is not allowed. -/
def secondRegistrant : Registrant :=
  ⟨sampleRequest "payments-worker-b" "/tmp/b.sock" 30, "unix_uid:502", .ok, .unixEpoch⟩

theorem sampleRegistrants_dated :
    ∀ registrant ∈ [firstRegistrant, secondRegistrant], registrant.Dated := by
  simp only [List.forall_mem_cons, Registrant.Dated]
  decide +kernel

/-- A success is a record in the registry, as it was declared and from now on; a refusal
left the registry as it was. -/
def Truthful (met left : TargetProcessRegistry) (connection : RegistrationConnection)
    (request : RegistrationRequest) (answer : Json) : Prop :=
  (answer.getPath ["ok"] = some (.bool true) ∧
    answer.getPath ["target_id"] = some (.string request.targetId) ∧
    ∃ ipcPathKey expiresAt, connection.normalizeIpcPathKey request.ipcPath = .ok ipcPathKey ∧
      leaseExpiry connection.now request.leaseSeconds = some expiresAt ∧
      left.registrations = met.registrations.insert request.targetId
        (TargetProcessRegistry.recordOf request connection.ownerIdentity ipcPathKey
          (met.firstRegisteredAt request.targetId connection.now) connection.now expiresAt)) ∨
  (answer.getPath ["ok"] = some (.bool false) ∧ left = met)

theorem truthful_of_learns {registry : TargetProcessRegistry} {connection : RegistrationConnection}
    {result : RelayResult TargetProcessRegistration} {answer : Json}
    (hreturned : (connection.register registry request).1 = .returned result)
    (h : Learns answer result) :
    Truthful registry (connection.register registry request).2 connection request answer := by
  unfold RegistrationConnection.register at hreturned ⊢
  obtain ⟨error, hchecks, hcall⟩ | ⟨ipcPathKey, hchecks, hexpiry, hcall⟩ |
      ⟨ipcPathKey, expiresAt, hchecks, hexpiry, houtcome, hstored⟩ :=
    registry.register_cases connection.normalizeIpcPathKey request connection.ownerIdentity
      connection.now
  · rw [hcall] at hreturned ⊢
    cases hreturned
    exact .inr ⟨h.1, rfl⟩
  · rw [hcall] at hreturned
    cases hreturned
  · cases houtcome.symm.trans hreturned
    obtain ⟨-, hkey, -⟩ := TargetProcessRegistry.registerChecks_ok.mp hchecks
    exact .inl ⟨h.1, h.2, ipcPathKey, expiresAt, hkey, hexpiry, hstored⟩

/-- While the loop runs, each connection sent a line that declares a request, and was sent a
line from which its target learns what became of it. -/
theorem acknowledgements_tell_the_truth (json : SerdeJson) (hjson : json.Lawful)
    (registry : TargetProcessRegistry) {before after : List RegistrationConnection}
    {connection : RegistrationConnection}
    (hrunning : (runRegistrationLoop (registrationFromStr json) registry
      (before ++ connection :: after)).status = .running) :
    let serve := runRegistrationLoop (registrationFromStr json) registry
    ∃ line request ack later answer, connection.readLine = .ok line ∧
      (∃ document, json.document line.trimmed = .ok document ∧ request.DeclaredBy document) ∧
      (serve (before ++ connection :: after)).acks = (serve before).acks ++ ack :: later ∧
      json.fromStr (json.toLine ack).trimmed = .ok answer ∧
      Truthful (serve before).registry (serve (before ++ [connection])).registry connection
        request answer := by
  intro serve
  have halong := along_of_running hrunning
  obtain ⟨hbefore, hconnection, hafter⟩ := Machine.along_append.mp halong
  have hone : (registrationMachine (registrationFromStr json)).Along
      (WellBehaved (registrationFromStr json)) registry (before ++ [connection]) :=
    Machine.along_append.mpr ⟨hbefore, hconnection, trivial⟩
  obtain ⟨-, request, result, hdecoded, hreturned⟩ := wellBehaved_iff.mp hconnection
  obtain ⟨line, hline, hrequest⟩ := decoded_eq_some.mp hdecoded
  obtain ⟨answer, hanswer, hlearns⟩ := registrationAck_reports hjson result
  have hleft : (serve (before ++ [connection])).registry =
      (connection.register (serve before).registry request).2 := by
    simp only [serve, runRegistrationLoop_along hone, runRegistrationLoop_along hbefore,
      Machine.final_append, Machine.final_cons, Machine.final_nil]
    exact registerDecoded_of_decoded hdecoded
  have hacks : (serve (before ++ connection :: after)).acks = (serve before).acks ++
      registrationAck result :: (registrationMachine (registrationFromStr json)).history
        (serve (before ++ [connection])).registry after := by
    simp only [serve, runRegistrationLoop_along halong, runRegistrationLoop_along hone,
      runRegistrationLoop_along hbefore, Machine.final_append, Machine.final_cons,
      Machine.final_nil, Machine.history_append, Machine.history_cons]
    change _ ++ (decodedAcks _ _ connection ++ _) = _
    rw [decodedAcks, hdecoded]
    dsimp only
    rw [hreturned]
    rfl
  have hmet : (serve before).registry = (registrationMachine (registrationFromStr json)).final
      registry before := by
    simp only [serve, runRegistrationLoop_along hbefore]
  refine ⟨line, request, _, _, answer, hline, registrationFromStr_ok.mp hrequest, hacks, hanswer,
    ?_⟩
  rw [hleft]
  exact truthful_of_learns (hmet ▸ hreturned) hlearns

theorem sampleRegistrants_running (registry : TargetProcessRegistry) :
    (runRegistrationLoop (registrationFromStr JsonText.integers) registry
      ([firstRegistrant, secondRegistrant].map
        (·.connection JsonText.integers))).status = .running := by
  rw [runRegistrationLoop_along
    (Registrant.along_dated JsonText.integers_lawful registry sampleRegistrants_dated)]

theorem acknowledgements_tell_the_truth_sample :
    let json := JsonText.integers
    let serve := runRegistrationLoop (registrationFromStr json) (.new (samplePolicy 120))
    let first := firstRegistrant.connection json
    let second := secondRegistrant.connection json
    ∃ line request ack later answer, second.readLine = .ok line ∧
      (∃ document, json.document line.trimmed = .ok document ∧ request.DeclaredBy document) ∧
      (serve ([first] ++ second :: [])).acks = (serve [first]).acks ++ ack :: later ∧
      json.fromStr (json.toLine ack).trimmed = .ok answer ∧
      Truthful (serve [first]).registry (serve ([first] ++ [second])).registry second request
        answer :=
  acknowledgements_tell_the_truth JsonText.integers JsonText.integers_lawful _
    (sampleRegistrants_running _)

/-! The same service without a socket. -/

namespace Registrant

def results (registry : TargetProcessRegistry) (registrant : Registrant) :
    List (RelayResult TargetProcessRegistration) :=
  match (register registry registrant).1 with
  | .panicked => []
  | .returned result => [result]

/-- Requests in and results out. -/
def service : Machine TargetProcessRegistry Registrant (RelayResult TargetProcessRegistration) where
  step registry registrant := ((register registry registrant).2, results registry registrant)

/-- One registrant leaves the registry alike on both sides, and learns its result. -/
theorem step_over_socket (hjson : json.Lawful) (registry : TargetProcessRegistry)
    (registrant : Registrant) :
    registerDecoded (registrationFromStr json) registry (registrant.connection json) =
        (service.step registry registrant).1 ∧
      List.Forall₂ (Reports json) (service.step registry registrant).2
        (decodedAcks (registrationFromStr json) registry (registrant.connection json)) := by
  refine ⟨registerDecoded_of_decoded (decoded hjson registrant), ?_⟩
  have hregister : (registrant.connection json).register registry registrant.request =
      register registry registrant := rfl
  simp only [decodedAcks, decoded hjson registrant, hregister, service, results]
  cases (register registry registrant).1 with
  | panicked => exact .nil
  | returned result => exact .cons (registrationAck_reports hjson result) .nil

theorem registrationMachine_step (fromStr : String → Except String RegistrationRequest)
    (registry : TargetProcessRegistry) (connection : RegistrationConnection) :
    (registrationMachine fromStr).step registry connection =
      (registerDecoded fromStr registry connection, decodedAcks fromStr registry connection) :=
  rfl

theorem run_over_socket (hjson : json.Lawful) (registry : TargetProcessRegistry)
    (registrants : List Registrant) :
    (registrationMachine (registrationFromStr json)).final registry
        (registrants.map (·.connection json)) = service.final registry registrants ∧
      List.Forall₂ (Reports json) (service.history registry registrants)
        ((registrationMachine (registrationFromStr json)).history registry
          (registrants.map (·.connection json))) := by
  induction registrants generalizing registry with
  | nil => exact ⟨rfl, .nil⟩
  | cons registrant rest ih =>
      obtain ⟨hregistry, hreports⟩ := step_over_socket hjson registry registrant
      obtain ⟨hfinal, hacks⟩ := ih (service.step registry registrant).1
      rw [List.map_cons, Machine.final_cons, Machine.history_cons, Machine.final_cons,
        Machine.history_cons, registrationMachine_step, hregistry]
      dsimp only
      exact ⟨hfinal, List.rel_append hreports hacks⟩

end Registrant

open Registrant (service)

/-- Over the socket the targets get what the registry itself would have told them: for any
row of targets whose leases end at a date, the loop serves all of them, it leaves the registry
that their requests leave, and from its lines they learn the results of their requests. -/
theorem registrations_over_sockets (json : SerdeJson) (hjson : json.Lawful)
    (registry : TargetProcessRegistry) (registrants : List Registrant)
    (hdated : ∀ registrant ∈ registrants, registrant.Dated) :
    let loop := runRegistrationLoop (registrationFromStr json) registry
      (registrants.map (·.connection json))
    loop.status = .running ∧ loop.registry = service.final registry registrants ∧
      List.Forall₂ (Reports json) (service.history registry registrants) loop.acks := by
  intro loop
  have hloop : loop = ⟨.running, _, _⟩ :=
    runRegistrationLoop_along (Registrant.along_dated hjson registry hdated)
  obtain ⟨hregistry, hreports⟩ := Registrant.run_over_socket hjson registry registrants
  rw [hloop]
  exact ⟨rfl, hregistry, hreports⟩

theorem registrations_over_sockets_sample :
    let json := JsonText.integers
    let registry := TargetProcessRegistry.new (samplePolicy 120)
    let registrants := [firstRegistrant, secondRegistrant]
    let loop := runRegistrationLoop (registrationFromStr json) registry
      (registrants.map (·.connection json))
    loop.status = .running ∧ loop.registry = service.final registry registrants ∧
      List.Forall₂ (Reports json) (service.history registry registrants) loop.acks :=
  registrations_over_sockets JsonText.integers JsonText.integers_lawful _ _ sampleRegistrants_dated

end SupervisorRelay
