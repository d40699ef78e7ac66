import SupervisorRelay.Library.Logged
import SupervisorRelay.Session.Answers
import SupervisorRelay.Session.ClientText
import SupervisorRelay.Source.IpcTransport
import SupervisorRelay.Source.ServerWriter

/-! Server messages as JSON text. A message nests its payload one deeper than it is, and a
state comes from an answer in which it stood two deep, so there is always room for it. -/
namespace SupervisorRelay

open Json (Accepted Fits)

variable {limit : Nat} {forms : WireForms} {json : SerdeJson}

/-- The value that a message passes on as it is. -/
def ServerMessage.payload : ServerMessage → Option Json
  | serverHello _ _ _ conditions _ => some conditions
  | state _ payload => some payload
  | stateDelta _ delta => some delta
  | _ => none

/-- Every answer is read off a socket. -/
def UnixNdjsonIpcClient.ReadsSockets (json : SerdeJson) (client : UnixNdjsonIpcClient) : Prop :=
  ∀ path request answer, client.requestJsonBlocking path request = .ok answer →
    ∃ peer body, requestJson json peer body = .ok answer

/-- It is the state in a target's answer, as the relay read it. -/
def StateRead (json : SerdeJson) (payload : Json) : Prop :=
  ∃ text answer, json.fromStr text = .ok answer ∧ answer.getPath ["ok"] = some (.bool true) ∧
    answer.getPath ["result", "state"] = some payload

/-- Two levels of the answer are not the state's. -/
theorem StateRead.accepted (hjson : json.Lawful) {payload : Json} (h : StateRead json payload) :
    Accepted 125 payload := by
  obtain ⟨text, answer, hanswer, -, hpayload⟩ := h
  obtain ⟨result, hresult, hrest⟩ := Option.bind_eq_some_iff.mp hpayload
  obtain ⟨state, hstate, hsame⟩ := Option.bind_eq_some_iff.mp hrest
  cases hsame
  have haccepted : Accepted (125 + 1 + 1) answer := hjson.accepts text answer hanswer
  exact (haccepted.get hresult).get hstate

theorem requestJson_read {peer : IpcPeer} {body answer : Json}
    (h : requestJson json peer body = .ok answer) : ∃ text, json.fromStr text = .ok answer := by
  unfold requestJson at h
  obtain ⟨-, -, h⟩ := RelayResult.bind_eq_ok.mp h
  obtain ⟨-, -, h⟩ := RelayResult.bind_eq_ok.mp h
  obtain ⟨response, -, h⟩ := RelayResult.bind_eq_ok.mp h
  exact ⟨response.trimmed, Except.mapError_ok.mp h⟩

theorem connectState_read_off {client : UnixNdjsonIpcClient} (hclient : client.ReadsSockets json)
    {registration : TargetProcessRegistration} {now : OffsetDateTime} {state : DashboardState}
    (h : client.connectState registration now = .ok state) : StateRead json state.payload := by
  unfold UnixNdjsonIpcClient.connectState at h
  obtain ⟨answer, hanswer, h⟩ := RelayResult.bind_eq_ok.mp h
  obtain ⟨result, hresult, h⟩ := RelayResult.bind_eq_ok.mp h
  obtain ⟨hok, hmember⟩ := responseResult_ok.mp hresult
  obtain ⟨peer, body, hread⟩ := hclient _ _ answer hanswer
  obtain ⟨text, htext⟩ := requestJson_read hread
  split at h
  · cases h
  · rename_i payload hpayload
    cases h
    have hpath : answer.getPath ["result", "state"] = some payload :=
      Option.bind_eq_some_iff.mpr ⟨result, hmember,
        Option.bind_eq_some_iff.mpr ⟨payload, hpayload, rfl⟩⟩
    exact ⟨text, answer, htext, Option.bind_eq_some_iff.mpr ⟨_, hok, rfl⟩, hpath⟩

end SupervisorRelay
