import SupervisorRelay.Library.JsonAccepted
import SupervisorRelay.Session.ClientRoundTrip
import SupervisorRelay.Session.ClientText
import SupervisorRelay.Session.Operations
import SupervisorRelay.Source.IpcTransport

/-! An exchange with a target over its socket. The relay writes one line, a target reads
it and answers with another, and what arrives on either side is what was sent. -/
namespace SupervisorRelay

open Json (Fits Neat depthLimit distinct_get get_normalize ofOption)

variable {json : SerdeJson}

/-- A target that reads a line of JSON and answers with one. -/
def lineServer (json : SerdeJson) (serve : Json → Json) : IpcPeer where
  connect := .ok ()
  writeAll _ := .ok ()
  readLine bytes :=
    match String.fromUTF8? ⟨bytes.toArray⟩ with
    | none => .error "stream did not contain valid UTF-8"
    | some line => (json.fromStr line.trimmed).map fun request => json.toLine (serve request)

theorem fromUTF8_asBytes (text : String) :
    String.fromUTF8? ⟨text.asBytes.toArray⟩ = some text := by
  have hbytes : (⟨text.asBytes.toArray⟩ : ByteArray) = text.toByteArray := by
    simp [String.asBytes]
  rw [hbytes, String.fromUTF8?, dif_pos text.isValidUTF8]
  rfl

/-- The request that the target gets is in order, and so is the answer that comes back. -/
theorem requestJson_lineServer (hjson : json.Lawful) {serve : Json → Json} {request : Json}
    (hrequest : Fits depthLimit request) (hanswer : Fits depthLimit (serve request.normalize)) :
    requestJson json (lineServer json serve) request = .ok (serve request.normalize).normalize := by
  have hread : (lineServer json serve).readLine (json.toLine request).asBytes =
      .ok (json.toLine (serve request.normalize)) := by
    simp only [lineServer]
    rw [fromUTF8_asBytes]
    dsimp only
    rw [hjson.fromStr_line hrequest]
    rfl
  unfold requestJson
  rw [RelayResult.unit_bind_eq_ok]
  refine ⟨rfl, ?_⟩
  dsimp only
  rw [RelayResult.unit_bind_eq_ok, hread, RelayResult.bind_eq_ok]
  refine ⟨rfl, json.toLine (serve request.normalize), rfl, ?_⟩
  rw [hjson.fromStr_line hanswer]
  rfl

theorem ofI128_isSome {value : Int} :
    (ofI128 value).isSome = true ↔ -2 ^ 63 ≤ value ∧ value < 2 ^ 64 := by
  unfold ofI128
  split
  · simp
    omega
  split
  · simp
    omega
  · simp
    omega

theorem ofI128_neat {limit : Nat} {value : Int} {written : Json} (h : ofI128 value = some written) :
    Neat limit written := by
  unfold ofI128 at h
  split at h
  · cases h
    exact Neat.integer trivial
  split at h
  · rename_i hrange
    cases h
    refine Neat.integer (?_ : (Int64.ofInt value).toInt < 0)
    rw [Int64.toInt_ofInt_of_le (by omega) (by omega)]
    exact hrange.2
  · cases h

theorem writeCommandTarget_neat (limit : Nat) (target : CommandTarget) :
    Neat (limit + 1) (writeCommandTarget target) := by
  refine Neat.object ["child_path"] rfl (by decide) ?_
  simp only [List.forall_mem_cons]
  exact ⟨Neat.option target.childPath, List.forall_mem_nil _⟩

theorem commandParams_neat {command : PreparedCommand} {value : Int} {requestedAt : Json}
    (h : ofI128 value = some requestedAt) :
    Neat 2 (.object (commandParams command requestedAt)) := by
  refine Neat.object ["command", "command_id", "confirmed", "correlation_id", "reason",
    "requested_at_unix_nanos", "requested_by", "target", "target_id"] rfl (by decide) ?_
  unfold commandParams
  simp only [List.forall_mem_cons]
  exact ⟨Neat.string _, Neat.string _, Neat.bool _, Neat.option _, Neat.string _, ofI128_neat h,
    Neat.string _, writeCommandTarget_neat 0 _, Neat.string _, List.forall_mem_nil _⟩

/-- The body of every request can be written, and stands in order. -/
theorem IpcRequest.body_neat {requestId : String} {request : IpcRequest} {body : Json}
    (h : request.body requestId = some body) : Neat 3 body := by
  cases request with
  | state targetId =>
      cases h
      refine Neat.object ["method", "params", "request_id"] rfl (by decide) ?_
      simp only [List.forall_mem_cons]
      refine ⟨Neat.string _, Neat.object ["target_id"] rfl (by decide) ?_, Neat.string _,
        List.forall_mem_nil _⟩
      simp only [List.forall_mem_cons]
      exact ⟨Neat.string targetId, List.forall_mem_nil _⟩
  | subscription method targetId sessionEstablished =>
      cases h
      refine Neat.object ["method", "params", "request_id"] rfl (by decide) ?_
      simp only [List.forall_mem_cons]
      refine ⟨Neat.string method,
        Neat.object ["session_established", "target_id"] rfl (by decide) ?_, Neat.string _,
        List.forall_mem_nil _⟩
      simp only [List.forall_mem_cons]
      exact ⟨Neat.bool sessionEstablished, Neat.string targetId, List.forall_mem_nil _⟩
  | command method prepared requestedAt =>
      obtain ⟨written, hwritten, rfl⟩ := Option.map_eq_some_iff.mp h
      refine Neat.object ["method", "params", "request_id"] rfl (by decide) ?_
      simp only [List.forall_mem_cons]
      exact ⟨Neat.string method, commandParams_neat hwritten, Neat.string _,
        List.forall_mem_nil _⟩

/-- What a clock shows can be written. -/
theorem IpcRequest.command_body (command : PreparedCommand) (sentAt : ClockReading)
    (method requestId : String) :
    ∃ requestedAt body,
      (IpcRequest.command method command sentAt.val.unixNanos).body requestId = some body ∧
        body.get "method" = some (.string method) ∧
        body.get "params" = some (.object (commandParams command requestedAt)) := by
  have hclock : -2 ^ 63 ≤ sentAt.val.unixNanos ∧ sentAt.val.unixNanos < 2 ^ 64 := by
    have hfits := sentAt.property
    omega
  obtain ⟨requestedAt, hrequested⟩ := Option.isSome_iff_exists.mp (ofI128_isSome.mpr hclock)
  rw [IpcRequest.body, hrequested]
  exact ⟨requestedAt, _, rfl, rfl, rfl⟩

/-- The client speaks through sockets, and each request has an identifier of its own. -/
def UnixNdjsonIpcClient.Over (client : UnixNdjsonIpcClient) (json : SerdeJson)
    (requestIds : PathBuf → IpcRequest → String) (peers : PathBuf → IpcPeer) : Prop :=
  ∀ path request body, IpcRequest.body (requestIds path request) request = some body →
    client.requestJsonBlocking path request = requestJson json (peers path) body

/-- The client calls its targets as functions, with no socket in between. -/
def UnixNdjsonIpcClient.Calls (client : UnixNdjsonIpcClient)
    (requestIds : PathBuf → IpcRequest → String) (serve : PathBuf → Json → Json) : Prop :=
  ∀ path request body, IpcRequest.body (requestIds path request) request = some body →
    client.requestJsonBlocking path request = .ok (serve path body)

/-! What the relay reads of an answer does not depend on the order of its members. -/

theorem asStr_normalize (member : Option Json) :
    (member.map Json.normalize).bind Json.asStr = member.bind Json.asStr := by
  cases member with
  | none => rfl
  | some value => cases value <;> rfl

theorem asBool_normalize (member : Option Json) :
    (member.map Json.normalize).bind Json.asBool = member.bind Json.asBool := by
  cases member with
  | none => rfl
  | some value => cases value <;> rfl

theorem asU64_normalize (member : Option Json) :
    (member.map Json.normalize).bind Json.asU64 = member.bind Json.asU64 := by
  cases member with
  | none => rfl
  | some value => cases value <;> rfl

theorem responseResult_normalize {response : Json} (h : Json.Distinct response) :
    responseResult response.normalize =
      (responseResult response).map Json.normalize := by
  unfold responseResult
  rw [get_normalize h, get_normalize h, get_normalize h, asBool_normalize]
  split
  · cases response.get "result" <;> rfl
  · cases herror : response.get "error" with
    | none => rfl
    | some error =>
        have hdistinct := distinct_get h herror
        simp only [Option.map_some, get_normalize hdistinct, asStr_normalize, asBool_normalize]
        rfl

/-- A target that reads its parameters as a client command finds all fields. -/
theorem readClientCommand_params (command : PreparedCommand) (requestedAt : Json) :
    readClientCommand (commandParams command requestedAt) =
      some ⟨command.commandId, command.correlationId, command.targetId, command.command,
        command.target, command.reason, command.confirmed, some command.requestedBy⟩ := by
  have hname : Json.required (commandParams command requestedAt) "command"
      readControlCommandName = some command.command := by
    change readControlCommandName (writeControlCommandName command.command) = _
    cases command.command <;> rfl
  have hcorrelation : Json.optional (commandParams command requestedAt) "correlation_id"
      Json.asStr = some command.correlationId := by
    have hmember : (commandParams command requestedAt).lookup "correlation_id" =
        some (ofOption Json.string command.correlationId) := rfl
    rw [Json.optional, hmember]
    cases command.correlationId <;> rfl
  have htarget : Json.required (commandParams command requestedAt) "target"
      readCommandTarget = some command.target := by
    change readCommandTarget (writeCommandTarget command.target) = _
    obtain ⟨childPath⟩ := command.target
    cases childPath <;> rfl
  unfold readClientCommand
  rw [hname, hcorrelation, htarget]
  rfl

theorem distinct_responseResult {response result : Json} (h : Json.Distinct response)
    (hresult : responseResult response = .ok result) : Json.Distinct result := by
  unfold responseResult at hresult
  split at hresult
  · split at hresult
    · rename_i stored hget
      cases hresult
      exact distinct_get h hget
    · cases hresult
  · split at hresult <;> cases hresult

/-- The same answer at both clients, once as it was written and once as it was read. -/
structure SameAnswer (wire direct : UnixNdjsonIpcClient) (path : PathBuf) (request : IpcRequest)
    (answer : Json) : Prop where
  distinct : Json.Distinct answer
  written : direct.requestJsonBlocking path request = .ok answer
  read : wire.requestJsonBlocking path request =
    .ok answer.normalize

def DashboardState.normalized (state : DashboardState) : DashboardState :=
  { state with payload := state.payload.normalize }

section Answers

variable {wire direct : UnixNdjsonIpcClient} {registration : TargetProcessRegistration}
  {answer : Json}

open UnixNdjsonIpcClient

theorem connectState_read
    (h : SameAnswer wire direct registration.ipcPath (.state registration.targetId) answer)
    (now : OffsetDateTime) :
    wire.connectState registration now =
      (direct.connectState registration now).map DashboardState.normalized := by
  unfold connectState
  rw [h.written, h.read]
  change (responseResult answer.normalize >>= _) =
    (responseResult answer >>= _).map _
  rw [responseResult_normalize h.distinct]
  cases hresult : responseResult answer with
  | error error => rfl
  | ok result =>
      have hdistinct := distinct_responseResult h.distinct hresult
      simp only [Except.map, bind, Except.bind, get_normalize hdistinct, asStr_normalize]
      cases hstate : result.get "state" with
      | none => rfl
      | some state =>
          have hdistinctState := distinct_get hdistinct hstate
          simp only [Option.map_some, get_normalize hdistinctState, asU64_normalize]
          rfl

theorem subscriptionRequest_read {method : String}
    (h : SameAnswer wire direct registration.ipcPath
      (.subscription method registration.targetId true) answer) :
    wire.subscriptionRequest registration.ipcPath registration.targetId method =
      direct.subscriptionRequest registration.ipcPath registration.targetId method := by
  unfold subscriptionRequest
  rw [h.written, h.read]
  change (responseResult answer.normalize >>= _) =
    (responseResult answer >>= _)
  rw [responseResult_normalize h.distinct]
  cases responseResult answer <;> rfl

theorem forwardCommand_read {command : PreparedCommand} {now : OffsetDateTime}
    (h : SameAnswer wire direct registration.ipcPath
      (.command (commandMethod command.command) command now.unixNanos) answer) :
    wire.forwardCommand registration command now =
      direct.forwardCommand registration command now := by
  unfold forwardCommand forwardCommandRequest
  rw [h.written, h.read]
  change (responseResult answer.normalize >>= _) =
    (responseResult answer >>= _)
  rw [responseResult_normalize h.distinct]
  cases hresult : responseResult answer with
  | error error => rfl
  | ok result =>
      have hdistinct := distinct_responseResult h.distinct hresult
      simp only [Except.map, bind, Except.bind, get_normalize hdistinct]
      cases hget : result.get "result" with
      | none => rfl
      | some commandResult =>
          have hdistinctResult := distinct_get hdistinct hget
          simp only [Option.map_some, get_normalize hdistinctResult, asStr_normalize,
            asBool_normalize]

end Answers

/-- A client whose targets always give the same answer. -/
def UnixNdjsonIpcClient.answering (answer : Json) : UnixNdjsonIpcClient :=
  ⟨fun _ _ => .ok answer⟩

section Sockets

variable {wire direct : UnixNdjsonIpcClient} {requestIds : PathBuf → IpcRequest → String}
  {serve : PathBuf → Json → Json}

theorem over_read (hjson : json.Lawful)
    (hover : wire.Over json requestIds fun path => lineServer json (serve path))
    (hfits : ∀ path request, Fits depthLimit (serve path request)) {path : PathBuf}
    {request : IpcRequest} {body : Json}
    (hbody : request.body (requestIds path request) = some body) :
    wire.requestJsonBlocking path request = .ok (serve path body).normalize := by
  have hneat := IpcRequest.body_neat hbody
  rw [hover path request body hbody,
    requestJson_lineServer hjson (hneat.fits.mono (by decide)) (hfits path _), hneat.settled]

theorem over_answer (hjson : json.Lawful)
    (hover : wire.Over json requestIds fun path => lineServer json (serve path))
    (hcalls : direct.Calls requestIds serve)
    (hfits : ∀ path request, Fits depthLimit (serve path request)) {path : PathBuf}
    {request : IpcRequest} {body : Json}
    (hbody : request.body (requestIds path request) = some body) :
    SameAnswer wire direct path request (serve path body) :=
  ⟨(hfits path body).distinct, hcalls path request body hbody,
    over_read hjson hover hfits hbody⟩

/-- A target that completes everything and tells of a state of its own. -/
def completing (_ : PathBuf) (_ : Json) : Json :=
  .object [("ok", .bool true),
    ("result", .object [("state", .object [("state_generation", .number (.posInt 1))]),
      ("result", .object [("status", .string "completed"), ("accepted", .bool true)])])]

theorem completing_fits (path : PathBuf) (request : Json) :
    Fits depthLimit (completing path request) := by
  have hresult : Fits 2 (.object [("state", .object [("state_generation", .number (.posInt 1))]),
      ("result", .object [("status", .string "completed"), ("accepted", .bool true)])]) := by
    refine Fits.object (by decide) ?_
    simp only [List.forall_mem_cons]
    refine ⟨Fits.object (by decide) ?_, Fits.object (by decide) ?_, List.forall_mem_nil _⟩
    · simp only [List.forall_mem_cons]
      exact ⟨Fits.integer trivial, List.forall_mem_nil _⟩
    · simp only [List.forall_mem_cons]
      exact ⟨Fits.string _, Fits.bool _, List.forall_mem_nil _⟩
  have hanswer : Fits 3 (completing path request) := by
    refine Fits.object (by decide) ?_
    simp only [List.forall_mem_cons]
    exact ⟨Fits.bool _, hresult, List.forall_mem_nil _⟩
  exact hanswer.mono (by decide)

/-- The client over sockets at which such targets listen. -/
def completingClient : UnixNdjsonIpcClient :=
  .answering (completing "" .null).normalize

theorem completingClient_over (requestIds : PathBuf → IpcRequest → String) :
    completingClient.Over JsonText.integers requestIds
      fun path => lineServer JsonText.integers (completing path) := by
  intro path request body hbody
  rw [requestJson_lineServer JsonText.integers_lawful
    ((IpcRequest.body_neat hbody).fits.mono (by decide)) (completing_fits path _)]
  rfl

def sampleRegistration : TargetProcessRegistration where
  targetId := "payments-worker-a"
  displayName := "payments worker a"
  ipcPath := "/run/rust-supervisor/payments-worker-a.sock"
  ipcPathKey := "/run/rust-supervisor/payments-worker-a.sock"
  ownerIdentity := "unix_uid:501"
  leaseSeconds := 30
  supportedCommands := []
  registeredAt := .unixEpoch
  renewedAt := .unixEpoch
  expiresAt := .unixEpoch
  registrationState := .active
  lastRejection := none

/-- Over sockets the relay deals with its targets as if it called them: what it reads of
any answer, well formed or not, is what the target wrote, up to the order of members. -/
theorem sockets_are_transparent (json : SerdeJson) (hjson : json.Lawful)
    (wire direct : UnixNdjsonIpcClient) (requestIds : PathBuf → IpcRequest → String)
    (serve : PathBuf → Json → Json)
    (hover : wire.Over json requestIds fun path => lineServer json (serve path))
    (hcalls : direct.Calls requestIds serve)
    (hfits : ∀ path request, Fits depthLimit (serve path request))
    (registration : TargetProcessRegistration) :
    (∀ now, wire.connectState registration now =
        (direct.connectState registration now).map DashboardState.normalized) ∧
      (∀ now, wire.subscribeEventLog registration now =
        direct.subscribeEventLog registration now) ∧
      ∀ (command : PreparedCommand) (now : ClockReading),
        wire.forwardCommand registration command now =
          direct.forwardCommand registration command now := by
  refine ⟨fun now => connectState_read (over_answer hjson hover hcalls hfits rfl) now,
    fun now => ?_, fun command now => ?_⟩
  · unfold UnixNdjsonIpcClient.subscribeEventLog
    rw [subscriptionRequest_read (over_answer hjson hover hcalls hfits rfl),
      subscriptionRequest_read (over_answer hjson hover hcalls hfits rfl)]
  · obtain ⟨-, body, hbody, -⟩ := IpcRequest.command_body command now _ _
    exact forwardCommand_read (over_answer hjson hover hcalls hfits hbody)

theorem sockets_are_transparent_completing :
    let direct := UnixNdjsonIpcClient.answering (completing "" .null)
    (∀ now, completingClient.connectState sampleRegistration now =
        (direct.connectState sampleRegistration now).map DashboardState.normalized) ∧
      (∀ now, completingClient.subscribeEventLog sampleRegistration now =
        direct.subscribeEventLog sampleRegistration now) ∧
      ∀ (command : PreparedCommand) (now : ClockReading),
        completingClient.forwardCommand sampleRegistration command now =
          direct.forwardCommand sampleRegistration command now :=
  sockets_are_transparent JsonText.integers JsonText.integers_lawful _ _ (fun _ _ => "request-1")
    completing (completingClient_over _) (fun _ _ _ _ => rfl) completing_fits sampleRegistration

theorem command_text_read (hjson : json.Lawful) (diagnostic : Json → String)
    (command : ClientCommand) :
    decodeClientMessage (derivedReader json.fromStr diagnostic)
      (json.toString (writeClientMessage (.command command))) = .ok (.command command) := by
  obtain ⟨parsed, hparse, hsame⟩ := clientMessage_parsesBack hjson (.command command)
  cases hsame with
  | object hdistinct hmembers =>
      have htype := type_written hmembers
      rw [decodeClientMessage_object hparse htype (.inr (.inl rfl)), if_neg (by simp),
        readClientMessage_command htype, readClientCommand_written hmembers, Option.map_some]

/-- A command that passes its checks goes from the client's text to the target whole. The
relay reads it as it was written; the target reads one line with the same command and the
authenticated principal as its requester; and `forward_command` answers for what the
target answered. -/
theorem command_reaches_target (client : UnixNdjsonIpcClient) (json : SerdeJson)
    (hjson : json.Lawful) (diagnostic : Json → String)
    (requestIds : PathBuf → IpcRequest → String) (serve : PathBuf → Json → Json)
    (hover : client.Over json requestIds fun path => lineServer json (serve path))
    (hfits : ∀ path request, Fits depthLimit (serve path request))
    (registration : TargetProcessRegistration) (command : ClientCommand)
    (identity : RemoteIdentity) (now : OffsetDateTime) (sentAt : ClockReading)
    (prepared : PreparedCommand)
    (hprepared : prepareClientCommand command identity now = .ok prepared) :
    decodeClientMessage (derivedReader json.fromStr diagnostic)
        (json.toString (writeClientMessage (.command command))) = .ok (.command command) ∧
      ∃ request params, '\n' ∉ (json.toString request).toList ∧
        request.get "method" = some (.string (commandMethod command.command)) ∧
        request.get "params" = some (.object params) ∧
        readClientCommand params = some { command with requestedBy := some identity.principal } ∧
        client.forwardCommand registration prepared sentAt =
          (UnixNdjsonIpcClient.answering (serve registration.ipcPath request)).forwardCommand
            registration prepared sentAt := by
  refine ⟨command_text_read hjson diagnostic command, ?_⟩
  obtain ⟨requestedAt, body, hbody, hmethod, hget⟩ := IpcRequest.command_body prepared
    sentAt (commandMethod prepared.command) (requestIds registration.ipcPath
      (.command (commandMethod prepared.command) prepared sentAt.val.unixNanos))
  have hneat := IpcRequest.body_neat hbody
  have hparams := readClientCommand_params prepared requestedAt
  have hread : client.forwardCommand registration prepared sentAt =
      (UnixNdjsonIpcClient.answering (serve registration.ipcPath body)).forwardCommand
        registration prepared sentAt :=
    forwardCommand_read ⟨(hfits _ _).distinct, rfl, over_read hjson hover hfits hbody⟩
  obtain ⟨-, rfl⟩ := prepareClientCommand_ok.mp hprepared
  exact ⟨body, _, hjson.lineFeed_notMem (hneat.fits.mono (by decide)), hmethod, hget, hparams,
    hread⟩

end Sockets

def samplePrepared : PreparedCommand where
  commandId := "RestartChild-cmd"
  correlationId := none
  targetId := "payments-worker-a"
  command := .restartChild
  target := ⟨some "/root/payment_loop"⟩
  reason := "operator request"
  requestedBy := "CN=operator@example.test"
  confirmed := false
  requestedAt := .unixEpoch

theorem command_reaches_target_sample :
    decodeClientMessage (derivedReader JsonText.integers.fromStr fun _ => "missing field")
        (JsonText.integers.toString
          (writeClientMessage (.command (sampleCommand "payments-worker-a")))) =
          .ok (.command (sampleCommand "payments-worker-a")) ∧
      ∃ request params, '\n' ∉ (JsonText.integers.toString request).toList ∧
        request.get "method" = some (.string "command.restart_child") ∧
        request.get "params" = some (.object params) ∧
        readClientCommand params = some { sampleCommand "payments-worker-a" with
          requestedBy := some "CN=operator@example.test" } ∧
        completingClient.forwardCommand sampleRegistration samplePrepared .unixEpoch =
          (UnixNdjsonIpcClient.answering (completing sampleRegistration.ipcPath
            request)).forwardCommand sampleRegistration samplePrepared .unixEpoch :=
  command_reaches_target completingClient JsonText.integers JsonText.integers_lawful
    (fun _ => "missing field") (fun _ _ => "request-1") completing (completingClient_over _)
    completing_fits sampleRegistration (sampleCommand "payments-worker-a") sampleIdentity
    .unixEpoch .unixEpoch samplePrepared (by decide +kernel)

end SupervisorRelay
