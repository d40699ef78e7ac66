import SupervisorRelay.Session.CommandOutcomes

/-! What a target's answers can bring about. Every reading of an answer falls back to
a refusal, so only a literal consent binds a target or completes a command. -/
namespace SupervisorRelay

/-- The answer says `ok` in so many words and has a member at the path. -/
structure Grants (response : Json) (path : List String) : Prop where
  ok : response.get "ok" = some (.bool true)
  present : (response.getPath path).isSome = true

theorem responseResult_ok {response result : Json} :
    responseResult response = .ok result ↔
      response.get "ok" = some (.bool true) ∧ response.get "result" = some result := by
  unfold responseResult
  split
  · rename_i hok
    rw [Json.asBool_getD_false] at hok
    cases response.get "result" with
    | none => simp
    | some stored => simp [hok]
  · rename_i hrefused
    rw [Json.asBool_getD_false] at hrefused
    cases response.get "error" with
    | none => simp [hrefused]
    | some reported => simp [hrefused]

theorem grants_result {response : Json} :
    Grants response ["result"] ↔ ∃ result, responseResult response = .ok result := by
  simp only [responseResult_ok]
  constructor
  · rintro ⟨hok, hpresent⟩
    obtain ⟨result, hresult, -⟩ := Json.getPath_isSome.mp hpresent
    exact ⟨result, hok, hresult⟩
  · rintro ⟨result, hok, hresult⟩
    exact ⟨hok, Json.getPath_isSome.mpr ⟨result, hresult, rfl⟩⟩

theorem grants_member {response : Json} {key : String} :
    Grants response ["result", key] ↔
      ∃ result member, responseResult response = .ok result ∧ result.get key = some member := by
  simp only [responseResult_ok]
  constructor
  · rintro ⟨hok, hpresent⟩
    obtain ⟨result, hresult, hinner⟩ := Json.getPath_isSome.mp hpresent
    obtain ⟨member, hmember, -⟩ := Json.getPath_isSome.mp hinner
    exact ⟨result, member, ⟨hok, hresult⟩, hmember⟩
  · rintro ⟨result, member, ⟨hok, hresult⟩, hmember⟩
    have hinner : (result.getPath [key]).isSome = true :=
      Json.getPath_isSome.mpr ⟨member, hmember, rfl⟩
    exact ⟨hok, Json.getPath_isSome.mpr ⟨result, hresult, hinner⟩⟩

namespace UnixNdjsonIpcClient

variable {client : UnixNdjsonIpcClient} {registration : TargetProcessRegistration}
variable {command : PreparedCommand} {now : OffsetDateTime}

/-- An operation that makes its result from one member of the answer succeeds exactly
when the answer grants the member. -/
theorem asked_isOk {α : Type} {asked : RelayResult Json} {key : String} {missing : RelayError}
    {read : Json → Json → α} :
    (∃ value, (do
      let response ← asked
      let result ← responseResult response
      match result.get key with
      | none => throw missing
      | some member => return read result member) = (.ok value : RelayResult α)) ↔
      ∃ response, asked = .ok response ∧ Grants response ["result", key] := by
  simp only [RelayResult.bind_eq_ok, grants_member]
  constructor
  · rintro ⟨value, response, hresponse, result, hresult, hvalue⟩
    cases hmember : result.get key with
    | none =>
        rw [hmember] at hvalue
        cases hvalue
    | some member => exact ⟨response, hresponse, result, member, hresult, hmember⟩
  · rintro ⟨response, hresponse, result, member, hresult, hmember⟩
    exact ⟨_, response, hresponse, result, hresult, by rw [hmember]; rfl⟩

theorem connectState_isOk :
    (∃ state, client.connectState registration now = .ok state) ↔
      ∃ response, client.requestJsonBlocking registration.ipcPath (.state registration.targetId) =
          .ok response ∧ Grants response ["result", "state"] := by
  unfold connectState
  exact asked_isOk

theorem subscriptionRequest_ok {path : PathBuf} {targetId method : String} :
    client.subscriptionRequest path targetId method = .ok () ↔
      ∃ response, client.requestJsonBlocking path (.subscription method targetId true) =
        .ok response ∧ Grants response ["result"] := by
  unfold subscriptionRequest
  simp only [RelayResult.bind_eq_ok, grants_result]
  refine exists_congr fun response => and_congr_right fun _ => exists_congr fun result => ?_
  exact and_iff_left rfl

theorem subscribeEventLog_ok (now : OffsetDateTime) :
    client.subscribeEventLog registration now = .ok () ↔
      (∃ events, client.requestJsonBlocking registration.ipcPath
          (.subscription "events.subscribe" registration.targetId true) = .ok events ∧
        Grants events ["result"]) ∧
      ∃ logs, client.requestJsonBlocking registration.ipcPath
          (.subscription "logs.tail" registration.targetId true) = .ok logs ∧
        Grants logs ["result"] := by
  unfold subscribeEventLog
  rw [RelayResult.unit_bind_eq_ok, subscriptionRequest_ok, subscriptionRequest_ok]

theorem forwardCommand_isOk :
    (∃ answer, client.forwardCommand registration command now = .ok answer) ↔
      ∃ response, client.forwardCommandRequest registration command now = .ok response ∧
        Grants response ["result", "result"] := by
  unfold forwardCommand
  exact asked_isOk

/-- What a result takes from the answer: no default says more than the target did. -/
structure Literal (command : PreparedCommand) (response : Json) (answer : ControlCommandResult) :
    Prop where
  accepted : answer.accepted = true →
    response.getPath ["result", "result", "accepted"] = some (.bool true)
  completed : answer.status = "completed" →
    response.getPath ["result", "result", "status"] = some (.string "completed")
  requestedBy : answer.requestedBy = command.requestedBy

theorem forwardCommand_literal {response : Json} {answer : ControlCommandResult}
    (hresponse : client.forwardCommandRequest registration command now = .ok response)
    (h : client.forwardCommand registration command now = .ok answer) :
    Literal command response answer := by
  unfold forwardCommand at h
  simp only [RelayResult.bind_eq_ok] at h
  obtain ⟨other, hother, result, hresult, hanswer⟩ := h
  cases hresponse.symm.trans hother
  obtain ⟨-, hget⟩ := responseResult_ok.mp hresult
  cases hmember : result.get "result" with
  | none =>
      rw [hmember] at hanswer
      cases hanswer
  | some member =>
      rw [hmember] at hanswer
      cases hanswer
      have hpath (key : String) :
          response.getPath ["result", "result", key] = member.get key := by
        simp [Json.getPath, hget, hmember]
      constructor
      · intro haccepted
        rw [hpath]
        exact Json.asBool_getD_false.mp haccepted
      · intro hcompleted
        rw [hpath]
        exact Json.asStr_getD hcompleted (by decide)
      · rfl

end UnixNdjsonIpcClient

/-- The answers on which a session binds a target. -/
structure AnswersBinding (client : UnixNdjsonIpcClient)
    (registration : TargetProcessRegistration) : Prop where
  state : ∃ response, client.requestJsonBlocking registration.ipcPath
    (.state registration.targetId) = .ok response ∧ Grants response ["result", "state"]
  events : ∃ response, client.requestJsonBlocking registration.ipcPath
    (.subscription "events.subscribe" registration.targetId true) = .ok response ∧
      Grants response ["result"]
  logs : ∃ response, client.requestJsonBlocking registration.ipcPath
    (.subscription "logs.tail" registration.targetId true) = .ok response ∧
      Grants response ["result"]

/-- The answer on which a session reads a target's state again after a command. -/
structure AnswersCompletion (client : UnixNdjsonIpcClient)
    (registration : TargetProcessRegistration) (command : PreparedCommand) (now : OffsetDateTime)
    (response : Json) : Prop where
  answered : client.forwardCommandRequest registration command now = .ok response
  grants : Grants response ["result", "result"]
  accepted : response.getPath ["result", "result", "accepted"] = some (.bool true)
  completed : response.getPath ["result", "result", "status"] = some (.string "completed")

namespace DashboardSession

variable {session : DashboardSession} {registry : TargetProcessRegistry}
variable {client : UnixNdjsonIpcClient} {now : OffsetDateTime}

theorem bindTarget_answered {targetId : String} (hnew : targetId ∉ session.boundTargets)
    (hbound : targetId ∈
      (session.bindTarget targetId registry client.port now).session.boundTargets) :
    ∃ registration, registry.registrations.lookup targetId = some registration ∧
      AnswersBinding client registration := by
  have houtcome := bindTarget_outcome session targetId registry client.port now
  generalize session.bindTarget targetId registry client.port now = step at houtcome hbound
  cases houtcome with
  | bound registration binding connected state hchecks _ hbegin hconnect hmark hsubscribe =>
      obtain ⟨-, hlookup, -⟩ := bindChecks_ok.mp hchecks
      have hstate := UnixNdjsonIpcClient.connectState_isOk.mp ⟨state, hconnect⟩
      obtain ⟨hevents, hlogs⟩ := (UnixNdjsonIpcClient.subscribeEventLog_ok now).mp hsubscribe
      exact ⟨registration, hlookup, hstate, hevents, hlogs⟩
  | _ => exact absurd hbound hnew

theorem handleCommand_refresh_answered {newV4 : Nat → Uuid} {command : ClientCommand}
    {audit : AuditRecorder} {call : IpcCall}
    (hcall : call ∈
      (session.handleCommand newV4 command registry client.port audit now).1.calls)
    (hcaller : call.caller = .refreshTargetStateAfterCommand) :
    ∃ identity registration prepared response,
      session.commandChecks command registry now = .ok (identity, registration, prepared) ∧
        AnswersCompletion client registration prepared now response := by
  cases hresult : (session.handleCommand newV4 command registry client.port audit now).1.result with
  | error error =>
      -- a failing command makes at most the forwarding call
      rcases (handleCommand_error hresult).calls with ⟨-, hnone⟩ | ⟨_, _, _, -, -, hone⟩
      · rw [hnone] at hcall
        cases hcall
      · rw [hone, List.mem_singleton] at hcall
        rw [hcall] at hcaller
        cases hcaller
  | ok answer =>
      obtain ⟨identity, registration, prepared, hchecks, hforward, hstep⟩ :=
        handleCommand_ok hresult
      rw [hstep] at hcall
      rcases List.mem_cons.mp hcall with hforwarding | hfinish
      · rw [hforwarding] at hcaller
        cases hcaller
      have hcompleted : answer.accepted ∧ answer.status = "completed" := by
        by_contra hpartial
        rw [finishCommand, if_neg hpartial] at hfinish
        cases hfinish
      obtain ⟨response, hresponse, hgrants⟩ :=
        UnixNdjsonIpcClient.forwardCommand_isOk.mp ⟨answer, hforward⟩
      have hliteral := UnixNdjsonIpcClient.forwardCommand_literal hresponse hforward
      exact ⟨identity, registration, prepared, response, hchecks, hresponse, hgrants,
        hliteral.accepted hcompleted.1, hliteral.completed hcompleted.2⟩

end DashboardSession

/-- Each operation succeeds on literal members of the answer alone, whatever else the
answer holds. -/
structure FailsClosed (client : UnixNdjsonIpcClient) (registration : TargetProcessRegistration)
    (command : PreparedCommand) (now : OffsetDateTime) : Prop where
  forward : (∃ answer, client.forwardCommand registration command now = .ok answer) ↔
    ∃ response, client.forwardCommandRequest registration command now = .ok response ∧
      Grants response ["result", "result"]
  literal : ∀ response answer,
    client.forwardCommandRequest registration command now = .ok response →
      client.forwardCommand registration command now = .ok answer →
        UnixNdjsonIpcClient.Literal command response answer
  connect : (∃ state, client.connectState registration now = .ok state) ↔
    ∃ response, client.requestJsonBlocking registration.ipcPath
      (.state registration.targetId) = .ok response ∧ Grants response ["result", "state"]
  subscribe : client.subscribeEventLog registration now = .ok () ↔
    (∃ response, client.requestJsonBlocking registration.ipcPath
        (.subscription "events.subscribe" registration.targetId true) = .ok response ∧
      Grants response ["result"]) ∧
    ∃ response, client.requestJsonBlocking registration.ipcPath
        (.subscription "logs.tail" registration.targetId true) = .ok response ∧
      Grants response ["result"]

/-- Targets are believed only literally: no answer without `ok = true` and the members
an operation reads makes it succeed, none binds a target, and none but an accepted and
completed one has the state read again after a command. -/
theorem answers_fail_closed (client : UnixNdjsonIpcClient) (now : OffsetDateTime) :
    (∀ registration command, FailsClosed client registration command now) ∧
      (∀ (session : DashboardSession) (targetId : String) (registry : TargetProcessRegistry),
        targetId ∉ session.boundTargets →
        targetId ∈ (session.bindTarget targetId registry client.port now).session.boundTargets →
          ∃ registration, registry.registrations.lookup targetId = some registration ∧
            AnswersBinding client registration) ∧
      ∀ (newV4 : Nat → Uuid) (session : DashboardSession) (command : ClientCommand)
        (registry : TargetProcessRegistry) (audit : AuditRecorder),
        ∀ call ∈ (session.handleCommand newV4 command registry client.port audit now).1.calls,
          call.caller = .refreshTargetStateAfterCommand →
            ∃ identity registration prepared response,
              session.commandChecks command registry now =
                  .ok (identity, registration, prepared) ∧
                AnswersCompletion client registration prepared now response := by
  refine ⟨fun registration command => ?_, ?_, ?_⟩
  · constructor
    · exact UnixNdjsonIpcClient.forwardCommand_isOk
    · exact fun _ _ => UnixNdjsonIpcClient.forwardCommand_literal
    · exact UnixNdjsonIpcClient.connectState_isOk
    · exact UnixNdjsonIpcClient.subscribeEventLog_ok now
  · exact fun _ _ _ => DashboardSession.bindTarget_answered
  · exact fun _ _ _ _ _ _ => DashboardSession.handleCommand_refresh_answered

/-- A first binding of the sample target, with the answers it needs. -/
theorem answers_fail_closed_binding :
    ∃ registration, sampleRegistry.registrations.lookup "payments-worker-a" = some registration ∧
      AnswersBinding (sampleClient "payments-worker-a") registration := by
  let session := { sampleBoundSession with boundTargets := ∅ }
  have hnew : "payments-worker-a" ∉ session.boundTargets := by decide
  have hbound : "payments-worker-a" ∈ (session.bindTarget "payments-worker-a" sampleRegistry
      (sampleClient "payments-worker-a").port .unixEpoch).session.boundTargets := by
    decide +kernel
  exact (answers_fail_closed (sampleClient "payments-worker-a") .unixEpoch).2.1 session
    "payments-worker-a" sampleRegistry hnew hbound

end SupervisorRelay
