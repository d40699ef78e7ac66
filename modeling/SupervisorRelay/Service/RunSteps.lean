import SupervisorRelay.Session.Operations
import SupervisorRelay.Source.Main

/-! What the steps of a dashboard session do to its run. A binding sends nothing and
queues states; a message is answered by what `Replied` lists, and with the outbox
empty before it the answer is sent before the next message is read. -/
namespace SupervisorRelay

/-- The texts that the message loop handles: up to a close or a failed reading. -/
def textsRead : List (Except String InboundMessage) → List String
  | [] => []
  | message :: rest =>
    match readMessage message with
    | .error _ => []
    | .ok .closed => []
    | .ok (.text raw) => raw :: textsRead rest
    | .ok .ignored => textsRead rest

namespace DashboardRun

variable {environment : SessionEnvironment} {run : DashboardRun}

/-- The later run has bound no less, and has queued states of bound targets only. -/
structure Binds (before after : DashboardRun) : Prop where
  sent : after.sent = before.sent
  bound : before.session.boundTargets ⊆ after.session.boundTargets
  states : ∃ states, after.session.outbox = before.session.outbox ++ states ∧
    ∀ message ∈ states, ∃ targetId payload, message = .state targetId payload ∧
      targetId ∈ after.session.boundTargets

theorem Binds.refl (run : DashboardRun) : Binds run run where
  sent := rfl
  bound := Finset.Subset.refl _
  states := ⟨[], (List.append_nil _).symm, by simp⟩

theorem Binds.trans {first second third : DashboardRun} (h : Binds first second)
    (h' : Binds second third) : Binds first third where
  sent := h'.sent.trans h.sent
  bound := h.bound.trans h'.bound
  states := by
    obtain ⟨states, hstates, hall⟩ := h.states
    obtain ⟨more, hmore, hall'⟩ := h'.states
    refine ⟨states ++ more, by rw [hmore, hstates, List.append_assoc], fun message hmem => ?_⟩
    rcases List.mem_append.mp hmem with hmem | hmem
    · obtain ⟨targetId, payload, rfl, hbound⟩ := hall message hmem
      exact ⟨targetId, payload, rfl, h'.bound hbound⟩
    · exact hall' message hmem

theorem bindLocked_binds (environment : SessionEnvironment) (run : DashboardRun)
    (targetId : String) : Binds run (run.bindLocked environment targetId) := by
  have hsession := DashboardSession.bindTarget_session run.session targetId
    (run.lock environment).2.registry (run.lock environment).1.ipc.port
    (run.lock environment).1.now
  change (run.bindLocked environment targetId).session = run.session ∨ _ ∧ ∃ payload,
    (run.bindLocked environment targetId).session = _ at hsession
  rcases hsession with hsame | ⟨-, payload, hbound⟩
  · refine ⟨rfl, ?_, [], ?_, by simp⟩
    · rw [hsame]
    · rw [hsame, List.append_nil]
  · refine ⟨rfl, ?_, [.state targetId payload], ?_, ?_⟩
    · rw [hbound]
      exact Finset.subset_insert _ _
    · rw [hbound]
    · intro message hmem
      rw [hbound]
      exact ⟨targetId, payload, List.mem_singleton.mp hmem, Finset.mem_insert_self _ _⟩

theorem foldl_bindLocked_binds (environment : SessionEnvironment) (run : DashboardRun)
    (targetIds : List String) : Binds run (targetIds.foldl (bindLocked environment) run) := by
  induction targetIds generalizing run with
  | nil => exact Binds.refl run
  | cons targetId rest ih =>
      exact (bindLocked_binds environment run targetId).trans
        (ih (run.bindLocked environment targetId))

/-- The `handle_command` call of the loop. -/
def commandStep (environment : SessionEnvironment) (run : DashboardRun)
    (command : ClientCommand) : SessionStep ControlCommandResult :=
  let locked := run.lock environment
  (locked.2.session.handleCommand environment.newV4 command locked.2.registry
    locked.1.ipc.port locked.2.audit locked.1.now).1

/-- What one message is answered with. -/
inductive Replied (environment : SessionEnvironment) (run : DashboardRun) (raw : String) :
    List ServerMessage → Prop where
  | undecodable (error : RelayError)
      (hdecoded : decodeClientMessage environment.reader raw = .error error) :
      Replied environment run raw [.error error]
  | repeatedHello (hello : ClientHello) (error : RelayError)
      (hdecoded : decodeClientMessage environment.reader raw = .ok (.clientHello hello)) :
      Replied environment run raw [.error error]
  | conditions (conditions : LogEventFilterConditionsMessage)
      (hdecoded : decodeClientMessage environment.reader raw =
        .ok (.logEventFilterConditions conditions)) :
      Replied environment run raw []
  | refused (command : ClientCommand) (error : RelayError)
      (hdecoded : decodeClientMessage environment.reader raw = .ok (.command command))
      (hresult : (run.commandStep environment command).result = .error error) :
      Replied environment run raw [.error error]
  | answered (command : ClientCommand) (answer : ControlCommandResult)
      (follow : List ServerMessage)
      (hdecoded : decodeClientMessage environment.reader raw = .ok (.command command))
      (hresult : (run.commandStep environment command).result = .ok answer)
      (hfollow : DashboardSession.Follows answer.targetId follow) :
      Replied environment run raw (.commandResult answer.targetId answer :: follow)

/-- A command's error is sent at once, and then whatever is queued. -/
theorem handleLocked_refused {command : ClientCommand} {error : RelayError}
    (hresult : (run.commandStep environment command).result = .error error) :
    (run.handleLocked environment command).sent =
      run.sent ++ .error error :: (run.commandStep environment command).session.outbox := by
  unfold handleLocked
  dsimp only
  split
  · rename_i other hother
    cases hresult.symm.trans hother
    exact List.append_assoc _ _ _
  · rename_i answer hanswer
    cases hresult.symm.trans hanswer

theorem handleLocked_answered {command : ClientCommand} {answer : ControlCommandResult}
    (hresult : (run.commandStep environment command).result = .ok answer) :
    (run.handleLocked environment command).sent =
      run.sent ++ (run.commandStep environment command).session.outbox := by
  unfold handleLocked
  dsimp only
  split
  · rename_i error herror
    cases hresult.symm.trans herror
  · rfl

theorem handleLocked_outbox (environment : SessionEnvironment) (run : DashboardRun)
    (command : ClientCommand) : (run.handleLocked environment command).session.outbox = [] := by
  unfold handleLocked
  dsimp only
  split <;> rfl

/-- With nothing queued, a message is answered in full before the next is read. -/
theorem receive_replies (environment : SessionEnvironment) (hdrained : run.session.outbox = [])
    (raw : String) :
    ∃ block, Replied environment run raw block ∧
      (run.receive environment raw).sent = run.sent ++ block ∧
      (run.receive environment raw).session.outbox = [] := by
  unfold receive
  cases hdecoded : decodeClientMessage environment.reader raw with
  | error error => exact ⟨_, .undecodable error hdecoded, rfl, hdrained⟩
  | ok message =>
      cases message with
      | clientHello hello => exact ⟨_, .repeatedHello hello _ hdecoded, rfl, hdrained⟩
      | logEventFilterConditions conditions =>
          exact ⟨[], .conditions conditions hdecoded, (List.append_nil _).symm, hdrained⟩
      | command command =>
          have hempty := handleLocked_outbox environment run command
          have hreplies : DashboardSession.Replies run.session
              (run.commandStep environment command) :=
            DashboardSession.handleCommand_replies _ _ _ _ _ _ _
          cases hreplies with
          | refused error hresult hsession =>
              refine ⟨_, .refused command error hdecoded hresult, ?_, hempty⟩
              dsimp only
              rw [handleLocked_refused hresult, hsession, hdrained]
          | answered answer follow hfollow hresult hsession =>
              refine ⟨_, .answered command answer follow hdecoded hresult hfollow, ?_, hempty⟩
              dsimp only
              rw [handleLocked_answered hresult, hsession, hdrained]
              rfl

/-- The loop handles the texts it reads, one after the other. -/
theorem messageLoop_run (environment : SessionEnvironment) (run : DashboardRun)
    (inbound : List (Except String InboundMessage)) :
    (run.messageLoop environment inbound).run =
      (textsRead inbound).foldl (receive environment) run := by
  induction inbound generalizing run with
  | nil => rfl
  | cons message rest ih =>
      rw [messageLoop, textsRead]
      cases readMessage message with
      | error error => rfl
      | ok reading =>
          cases reading with
          | text raw => exact ih (run.receive environment raw)
          | closed => rfl
          | ignored => exact ih run

/-- What is sent stays sent. -/
theorem receive_sent (environment : SessionEnvironment) (run : DashboardRun) (raw : String) :
    run.sent <+: (run.receive environment raw).sent := by
  unfold receive
  cases decodeClientMessage environment.reader raw with
  | error error => exact List.prefix_append _ _
  | ok message =>
      cases message with
      | command command =>
          dsimp only
          cases hresult : (run.commandStep environment command).result with
          | error error =>
              rw [handleLocked_refused hresult]
              exact List.prefix_append _ _
          | ok answer =>
              rw [handleLocked_answered hresult]
              exact List.prefix_append _ _
      | logEventFilterConditions conditions => exact List.prefix_refl _
      | clientHello hello => exact List.prefix_append _ _

theorem messageLoop_sent (environment : SessionEnvironment) (run : DashboardRun)
    (inbound : List (Except String InboundMessage)) :
    run.sent <+: (run.messageLoop environment inbound).run.sent := by
  rw [messageLoop_run]
  induction textsRead inbound generalizing run with
  | nil => exact List.prefix_refl _
  | cons raw rest ih => exact (receive_sent environment run raw).trans (ih _)

end DashboardRun
end SupervisorRelay
