import SupervisorRelay.Service.RunSteps

/-! The order of messages on a dashboard connection. A run is followed through its
transcript: what it has sent, and behind it what it has queued. -/
namespace SupervisorRelay

/-- The messages that open a session. -/
def ServerMessage.isHandshake : ServerMessage → Bool
  | .serverHello .. => true
  | .targetList _ => true
  | _ => false

/-- The client hello that lets a session start. -/
def openingHello (environment : SessionEnvironment)
    (inbound : List (Except String InboundMessage)) : Option ClientHello :=
  match (nextTextMessage inbound).1 with
  | .ok (some raw) =>
    match decodeClientMessage environment.reader raw with
    | .ok (.clientHello hello) => if hello.clientStoreId.isBlank then none else some hello
    | _ => none
  | _ => none

namespace DashboardRun

def transcript (run : DashboardRun) : List ServerMessage :=
  run.sent ++ run.session.outbox

/-- The transcript grows, and by no message of the handshake. -/
def Continues (before after : DashboardRun) : Prop :=
  ∃ extra, after.transcript = before.transcript ++ extra ∧
    ∀ message ∈ extra, message.isHandshake = false

variable {environment : SessionEnvironment} {run : DashboardRun}

theorem Continues.of_eq {before after : DashboardRun}
    (h : after.transcript = before.transcript) : Continues before after :=
  ⟨[], by simpa using h, by simp⟩

theorem Continues.trans {first second third : DashboardRun} (h : Continues first second)
    (h' : Continues second third) : Continues first third := by
  obtain ⟨extra, hextra, hquiet⟩ := h
  obtain ⟨more, hmore, hquiet'⟩ := h'
  refine ⟨extra ++ more, by rw [hmore, hextra, List.append_assoc], fun message hmem => ?_⟩
  rcases List.mem_append.mp hmem with hmem | hmem
  · exact hquiet message hmem
  · exact hquiet' message hmem

@[simp] theorem sendOutbox_transcript (run : DashboardRun) :
    run.sendOutbox.transcript = run.transcript := by
  simp [sendOutbox, sendMessages, transcript, DashboardSession.drainOutbox]

@[simp] theorem sendOutbox_outbox (run : DashboardRun) : run.sendOutbox.session.outbox = [] := rfl

/-- A binding adds states to the transcript. -/
theorem Binds.continues {before after : DashboardRun} (h : Binds before after) :
    Continues before after := by
  obtain ⟨states, hstates, hall⟩ := h.states
  refine ⟨states, ?_, fun message hmem => ?_⟩
  · rw [transcript, transcript, h.sent, hstates, List.append_assoc]
  · obtain ⟨targetId, payload, rfl, -⟩ := hall message hmem
    rfl

theorem autoBindActiveTargets_continues (environment : SessionEnvironment)
    (run : DashboardRun) : Continues run (run.autoBindActiveTargets environment) := by
  have hlock : Continues run (run.lock environment).2 := Continues.of_eq rfl
  exact hlock.trans (foldl_bindLocked_binds environment (run.lock environment).2 _).continues

/-- No answer to a message is a message of the handshake. -/
theorem Replied.quiet {raw : String} {block : List ServerMessage}
    (h : Replied environment run raw block) : ∀ message ∈ block, message.isHandshake = false := by
  cases h with
  | answered command answer follow hdecoded hresult hfollow =>
      cases hfollow with
      | nothing => simp [ServerMessage.isHandshake]
      | state payload => simp [ServerMessage.isHandshake]
      | unavailable => simp [ServerMessage.isHandshake]
  | _ => simp [ServerMessage.isHandshake]

theorem foldl_receive_continues (environment : SessionEnvironment)
    (hdrained : run.session.outbox = []) (texts : List String) :
    Continues run (texts.foldl (receive environment) run) ∧
      (texts.foldl (receive environment) run).session.outbox = [] := by
  induction texts generalizing run with
  | nil => exact ⟨Continues.of_eq rfl, hdrained⟩
  | cons raw rest ih =>
      obtain ⟨block, hreplied, hsent, hempty⟩ := receive_replies environment hdrained raw
      have hreceive : Continues run (run.receive environment raw) := by
        refine ⟨block, ?_, hreplied.quiet⟩
        rw [transcript, transcript, hsent, hempty, hdrained, List.append_nil, List.append_nil]
      obtain ⟨hrest, hend⟩ := ih hempty
      exact ⟨hreceive.trans hrest, hend⟩

theorem messageLoop_continues (environment : SessionEnvironment)
    (hdrained : run.session.outbox = []) (inbound : List (Except String InboundMessage)) :
    Continues run (run.messageLoop environment inbound).run ∧
      (run.messageLoop environment inbound).run.session.outbox = [] := by
  rw [messageLoop_run]
  exact foldl_receive_continues environment hdrained (textsRead inbound)

theorem publishActiveTargets_transcript (environment : SessionEnvironment)
    (run : DashboardRun) : ∃ targets,
    (run.publishActiveTargets environment).transcript = run.transcript ++ [.targetList targets] :=
  ⟨_, (List.append_assoc run.sent run.session.outbox _).symm⟩

/-- Once the target list is queued, everything sent comes behind it. -/
theorem messageLoop_opened (hdrained : run.session.outbox = [])
    (inbound : List (Except String InboundMessage)) :
    let bound := ((run.publishActiveTargets environment).autoBindActiveTargets environment)
    ∃ targets later, (bound.sendOutbox.messageLoop environment inbound).run.sent =
        run.sent ++ .targetList targets :: later ∧
      ∀ message ∈ later, message.isHandshake = false := by
  intro bound
  have hbound := autoBindActiveTargets_continues environment (run.publishActiveTargets environment)
  have hsend : Continues bound bound.sendOutbox := Continues.of_eq (sendOutbox_transcript bound)
  obtain ⟨hloop, hend⟩ := messageLoop_continues environment (sendOutbox_outbox bound) inbound
  obtain ⟨later, hlater, hquiet⟩ := (hbound.trans hsend).trans hloop
  obtain ⟨targets, htargets⟩ := publishActiveTargets_transcript environment run
  refine ⟨targets, later, ?_, hquiet⟩
  rw [htargets] at hlater
  unfold transcript at hlater
  rw [hend, List.append_nil, hdrained, List.append_nil] at hlater
  rw [hlater, List.append_assoc, List.singleton_append]

end DashboardRun

/-- The message that opens every session. -/
def openingMessage (environment : SessionEnvironment) (identity : RemoteIdentity) :
    ServerMessage :=
  .serverHello environment.sessionId identity.clientIdentity .remote (.object []) 0

variable {environment : SessionEnvironment} {inbound : List (Except String InboundMessage)}

theorem openingHello_eq_some {hello : ClientHello} :
    openingHello environment inbound = some hello ↔
      ∃ raw, (nextTextMessage inbound).1 = .ok (some raw) ∧
        decodeClientMessage environment.reader raw = .ok (.clientHello hello) ∧
        hello.clientStoreId.isBlank = false := by
  unfold openingHello
  split
  · rename_i raw hfirst
    split
    · rename_i other hdecoded
      simp only [hfirst, Except.ok.injEq, Option.some.injEq, exists_eq_left', hdecoded,
        ClientMessage.clientHello.injEq, Option.ite_none_left_eq_some, Bool.not_eq_true]
      constructor
      · rintro ⟨hblank, rfl⟩
        exact ⟨rfl, hblank⟩
      · rintro ⟨rfl, hblank⟩
        exact ⟨hblank, rfl⟩
    · rename_i hother
      simp only [reduceCtorEq, hfirst, Except.ok.injEq, Option.some.injEq, exists_eq_left',
        false_iff]
      intro h
      exact hother hello h.1
  · rename_i hother
    simp only [reduceCtorEq, false_iff]
    intro ⟨raw, hfirst, _⟩
    exact hother raw hfirst

/-- Without a client hello to open it, a session ends at the first message. -/
theorem runDashboardSession_unopened (h : openingHello environment inbound = none)
    (identity : RemoteIdentity) (registry : TargetProcessRegistry) :
    let ended := runDashboardSession environment identity registry inbound
    (ended.run.sent = [openingMessage environment identity] ∨
        ∃ error, ended.run.sent = [openingMessage environment identity, .error error]) ∧
      ended.run.calls = [] ∧ ended.unread = (nextTextMessage inbound).2 := by
  dsimp only [runDashboardSession]
  split
  · exact ⟨.inl rfl, rfl, rfl⟩
  · exact ⟨.inl rfl, rfl, rfl⟩
  · rename_i raw hfirst
    split
    · exact ⟨.inl rfl, rfl, rfl⟩
    · rename_i hello hdecoded
      split
      · exact ⟨.inl rfl, rfl, rfl⟩
      · rename_i session haccept
        obtain ⟨⟨hblank, -⟩, -⟩ := DashboardSession.acceptClientHello_ok.mp haccept
        have hopening := openingHello_eq_some.mpr ⟨raw, hfirst, hdecoded, hblank⟩
        cases h.symm.trans hopening
    · exact ⟨.inr ⟨_, rfl⟩, rfl, rfl⟩

/-- The run once `client_hello` is accepted: the server hello is sent and nothing queued. -/
def acceptedRun (environment : SessionEnvironment) (identity : RemoteIdentity)
    (registry : TargetProcessRegistry) (hello : ClientHello) : DashboardRun where
  session :=
    { DashboardSession.serverHello environment.sessionId identity environment.startedAt with
      clientStoreId := some hello.clientStoreId
      connectionState := .established
      controlState := .established
      outbox := []
      lastSeenAt := environment.helloAt }
  registry := registry
  audit := .default
  turn := 0
  sent := [openingMessage environment identity]
  calls := []

/-- What a session does between its handshake and its first message. -/
def DashboardRun.startUp (environment : SessionEnvironment) (run : DashboardRun) :
    DashboardRun :=
  ((run.publishActiveTargets environment).autoBindActiveTargets environment).sendOutbox

/-- With one, it starts up and then handles its messages. -/
theorem runDashboardSession_startUp {hello : ClientHello}
    (h : openingHello environment inbound = some hello) (identity : RemoteIdentity)
    (registry : TargetProcessRegistry) :
    runDashboardSession environment identity registry inbound =
      ((acceptedRun environment identity registry hello).startUp environment).messageLoop
        environment (nextTextMessage inbound).2 := by
  obtain ⟨raw, hfirst, hdecoded, hblank⟩ := openingHello_eq_some.mp h
  dsimp only [runDashboardSession]
  rw [hfirst]
  dsimp only
  rw [hdecoded]
  dsimp only
  split
  · rename_i error hrefused
    cases hrefused.symm.trans (DashboardSession.acceptClientHello_ok.mpr ⟨⟨hblank, rfl⟩, rfl⟩)
  · rename_i session haccept
    obtain ⟨-, rfl⟩ := DashboardSession.acceptClientHello_ok.mp haccept
    rfl

/-- The target list comes second, and no message of the handshake after it. -/
theorem runDashboardSession_opened {hello : ClientHello}
    (h : openingHello environment inbound = some hello) (identity : RemoteIdentity)
    (registry : TargetProcessRegistry) :
    ∃ targets later, (runDashboardSession environment identity registry inbound).run.sent =
        openingMessage environment identity :: .targetList targets :: later ∧
      ∀ message ∈ later, message.isHandshake = false := by
  rw [runDashboardSession_startUp h]
  exact DashboardRun.messageLoop_opened rfl (nextTextMessage inbound).2

/-- Handshake order: first the server hello; then, unless a client hello opens the
session, at most one error, no call of a target and no further reading; otherwise the
target list, and never again a message of the handshake. -/
theorem handshake_order (environment : SessionEnvironment) (identity : RemoteIdentity)
    (registry : TargetProcessRegistry) (inbound : List (Except String InboundMessage)) :
    let ended := runDashboardSession environment identity registry inbound
    match openingHello environment inbound with
    | none =>
        (ended.run.sent = [openingMessage environment identity] ∨
            ∃ error, ended.run.sent = [openingMessage environment identity, .error error]) ∧
          ended.run.calls = [] ∧ ended.unread = (nextTextMessage inbound).2
    | some _ =>
        ∃ targets later,
          ended.run.sent = openingMessage environment identity :: .targetList targets :: later ∧
            ∀ message ∈ later, message.isHandshake = false := by
  intro ended
  split
  · rename_i hopening
    exact runDashboardSession_unopened hopening identity registry
  · rename_i hello hopening
    exact runDashboardSession_opened hopening identity registry

end SupervisorRelay
