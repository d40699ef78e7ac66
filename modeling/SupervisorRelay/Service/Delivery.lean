import SupervisorRelay.Service.StartUp
import SupervisorRelay.Source.WebSocketSink

/-! A session whose peer stops taking messages. Up to that message it is the session that has
every message taken, and what it did to the registry and to targets until then stays done. -/
namespace SupervisorRelay

/-- The runs differ at most in what is sent and what is queued. -/
structure SameWork (run other : DashboardRun) : Prop where
  session : run.session.drainOutbox.2 = other.session.drainOutbox.2
  registry : run.registry = other.registry
  audit : run.audit = other.audit
  turn : run.turn = other.turn
  calls : run.calls = other.calls

theorem SameWork.trans {first second third : DashboardRun} (h : SameWork first second)
    (h' : SameWork second third) : SameWork first third where
  session := h.session.trans h'.session
  registry := h.registry.trans h'.registry
  audit := h.audit.trans h'.audit
  turn := h.turn.trans h'.turn
  calls := h.calls.trans h'.calls

namespace WebSocketSink

variable {sink : WebSocketSink} {whole other run : DashboardRun} {diagnostic : String}

/-- So many messages are taken, from the first one on. -/
def Takes (sink : WebSocketSink) (count : Nat) : Prop :=
  ∀ taken < count, sink.send taken = .ok ()

/-- The run has sent what comes before the first refused message of the whole run, and is
otherwise the whole run: what there is to send is known only when the work is done. -/
structure Refuses (sink : WebSocketSink) (diagnostic : String) (whole run : DashboardRun) :
    Prop where
  takes : sink.Takes run.sent.length
  refuses : sink.send run.sent.length = .error diagnostic
  lost : ∃ message more, whole.sent = run.sent ++ message :: more
  work : SameWork run whole

theorem Refuses.longer (h : sink.Refuses diagnostic whole run)
    (hsent : whole.sent <+: other.sent) (hwork : SameWork whole other) :
    sink.Refuses diagnostic other run := by
  obtain ⟨message, more, hlost⟩ := h.lost
  obtain ⟨unsent, hunsent⟩ := hsent
  refine ⟨h.takes, h.refuses, ⟨message, more ++ unsent, ?_⟩, h.work.trans hwork⟩
  rw [← hunsent, hlost, List.append_assoc, List.cons_append]

/-- What a send comes to, beside the run in which it succeeds. -/
inductive Delivers (sink : WebSocketSink) (whole : DashboardRun) : Sending → Prop where
  | all (h : sink.Takes whole.sent.length) : Delivers sink whole (.ok (), whole)
  | refused (diagnostic : String) (run : DashboardRun) (h : sink.Refuses diagnostic whole run) :
      Delivers sink whole (.error (websocketWriteFailed diagnostic), run)

theorem Delivers.andThen {sending : Sending} {next : DashboardRun → Sending}
    (h : sink.Delivers whole sending) (hsent : whole.sent <+: other.sent)
    (hwork : SameWork whole other)
    (hnext : sink.Takes whole.sent.length → sink.Delivers other (next whole)) :
    sink.Delivers other (sending.andThen next) := by
  cases h with
  | all htakes => exact hnext htakes
  | refused diagnostic run hrefuses =>
      exact .refused diagnostic run (hrefuses.longer hsent hwork)

theorem sendMessages_delivers (h : sink.Takes run.sent.length) (messages : List ServerMessage) :
    sink.Delivers (run.sendMessages messages) (sink.sendMessages run messages) := by
  induction messages generalizing run with
  | nil =>
      have hsame : run.sendMessages [] = run := by
        rw [DashboardRun.sendMessages, List.append_nil]
      rw [hsame]
      exact .all h
  | cons message rest ih =>
      rw [sendMessages]
      split
      · rename_i diagnostic hsend
        exact .refused diagnostic run ⟨h, hsend, ⟨message, rest, rfl⟩, ⟨rfl, rfl, rfl, rfl, rfl⟩⟩
      · rename_i hsend
        have htakes : sink.Takes (run.sent ++ [message]).length := by
          intro taken hlt
          rw [List.length_append, List.length_singleton, Nat.lt_succ_iff_lt_or_eq] at hlt
          rcases hlt with hlt | rfl
          · exact h taken hlt
          · exact hsend
        have hwhole : run.sendMessages (message :: rest) =
            DashboardRun.sendMessages { run with sent := run.sent ++ [message] } rest := by
          rw [DashboardRun.sendMessages, DashboardRun.sendMessages, List.append_assoc,
            List.singleton_append]
        rw [hwhole]
        exact ih htakes

theorem sendOutbox_delivers (h : sink.Takes run.sent.length) :
    sink.Delivers run.sendOutbox (sink.sendOutbox run) := by
  let drained : DashboardRun := { run with session := run.session.drainOutbox.2 }
  have hdrained : sink.Takes drained.sent.length := h
  exact sendMessages_delivers hdrained run.session.drainOutbox.1

theorem sendOutbox_work (run : DashboardRun) : SameWork run run.sendOutbox :=
  ⟨rfl, rfl, rfl, rfl, rfl⟩

theorem handleLocked_delivers (environment : SessionEnvironment) (h : sink.Takes run.sent.length)
    (command : ClientCommand) :
    sink.Delivers (run.handleLocked environment command)
      (sink.handleLocked environment run command) := by
  unfold handleLocked DashboardRun.handleLocked
  dsimp only
  generalize (run.lock environment).2.session.handleCommand environment.newV4 command
    (run.lock environment).2.registry (run.lock environment).1.ipc.port
    (run.lock environment).2.audit (run.lock environment).1.now = handled
  let served : DashboardRun := { (run.lock environment).2 with
    session := handled.1.session
    registry := handled.1.registry
    audit := handled.2
    calls := (run.lock environment).2.calls ++ handled.1.calls }
  have hserved : sink.Takes served.sent.length := h
  cases handled.1.result with
  | error error =>
      exact (sendMessages_delivers hserved [.error error]).andThen (List.prefix_append _ _)
        (sendOutbox_work _) sendOutbox_delivers
  | ok answer => exact sendOutbox_delivers hserved

theorem receive_delivers (environment : SessionEnvironment) (h : sink.Takes run.sent.length)
    (raw : String) :
    sink.Delivers (run.receive environment raw) (sink.receive environment run raw) := by
  unfold receive DashboardRun.receive
  cases decodeClientMessage environment.reader raw with
  | error error => exact sendMessages_delivers h _
  | ok message =>
      cases message with
      | command command => exact handleLocked_delivers environment h command
      | logEventFilterConditions conditions => exact .all h
      | clientHello hello => exact sendMessages_delivers h _

/-! The whole session. -/

/-- The session ended at a refused message, one of those it has for what it had heard. It
heard no more than it took to come to that message, and did for it what it always does. -/
structure Stops (sink : WebSocketSink) (diagnostic : String)
    (serve : List (Except String InboundMessage) → DashboardEnd)
    (inbound heard : List (Except String InboundMessage)) (ended : DashboardEnd) : Prop where
  result : ended.result = .error (websocketWriteFailed diagnostic)
  messages : inbound = heard ++ ended.unread
  refuses : sink.Refuses diagnostic (serve heard).run ended.run
  sent : (serve heard).run.sent <+: (serve inbound).run.sent
  earlier : ∀ earlier message more, heard = earlier ++ message :: more →
    sink.Takes (serve earlier).run.sent.length

/-- The session ends as where all is taken, or at the first message that is not. -/
def Carries (sink : WebSocketSink) (serve : List (Except String InboundMessage) → DashboardEnd)
    (inbound : List (Except String InboundMessage)) (ended : DashboardEnd) : Prop :=
  (sink.Takes (serve inbound).run.sent.length ∧ ended = serve inbound) ∨
    ∃ diagnostic heard, sink.Stops diagnostic serve inbound heard ended

variable {serve serve' : List (Except String InboundMessage) → DashboardEnd}
  {before inbound : List (Except String InboundMessage)} {ended : DashboardEnd}
  {environment : SessionEnvironment}

/-- What was heard before, and had its answers taken, is heard first. -/
theorem Carries.behind (h : sink.Carries serve' inbound ended)
    (hserve : ∀ rest, serve (before ++ rest) = serve' rest)
    (hbefore : ∀ earlier message more, before = earlier ++ message :: more →
      sink.Takes (serve earlier).run.sent.length) :
    sink.Carries serve (before ++ inbound) ended := by
  obtain ⟨htakes, rfl⟩ | ⟨diagnostic, heard, hstops⟩ := h
  · rw [← hserve] at htakes ⊢
    exact .inl ⟨htakes, rfl⟩
  · refine .inr ⟨diagnostic, before ++ heard, hstops.result, ?_, ?_, ?_, ?_⟩
    · rw [hstops.messages, List.append_assoc]
    · rw [hserve]
      exact hstops.refuses
    · rw [hserve, hserve]
      exact hstops.sent
    · intro earlier message more hsplit
      obtain ⟨later, rfl, hheard⟩ | ⟨skipped, hskipped, hmore⟩ :=
        List.append_eq_append_iff.mp hsplit
      · rw [hserve]
        exact hstops.earlier later message more hheard
      · cases skipped with
        | nil =>
            rw [List.append_nil] at hskipped
            rw [← hskipped, ← List.append_nil before, hserve]
            exact hstops.earlier [] message more hmore.symm
        | cons first rest => exact hbefore earlier first rest hskipped

/-- A send that fails stops the session where it is. -/
theorem Delivers.carries {sending : Sending} {next : DashboardRun → DashboardEnd}
    (h : sink.Delivers (serve []).run sending)
    (hsent : (serve []).run.sent <+: (serve inbound).run.sent)
    (hnext : sink.Takes (serve []).run.sent.length →
      sink.Carries serve inbound (next (serve []).run)) :
    sink.Carries serve inbound (sending.orEnd inbound next) := by
  cases h with
  | all htakes => exact hnext htakes
  | refused diagnostic run hrefuses =>
      exact .inr ⟨diagnostic, [], rfl, rfl, hrefuses, hsent, fun _ _ _ hsplit => by
        simp at hsplit⟩

theorem messageLoop_carries (h : sink.Takes run.sent.length)
    (inbound : List (Except String InboundMessage)) :
    sink.Carries (run.messageLoop environment) inbound
      (sink.messageLoop environment run inbound) := by
  induction inbound generalizing run with
  | nil => exact .inl ⟨h, rfl⟩
  | cons message rest ih =>
      have hfirst : ∀ earlier other more, [message] = earlier ++ other :: more →
          sink.Takes (run.messageLoop environment earlier).run.sent.length := by
        intro earlier other more hsplit
        rcases List.singleton_eq_append_iff.mp hsplit with ⟨rfl, -⟩ | ⟨-, hnil⟩
        · exact h
        · cases hnil
      rw [messageLoop]
      change sink.Carries _ ([message] ++ rest) _
      cases hreading : readMessage message with
      | error error =>
          have hloop : ∀ rest, run.messageLoop environment ([message] ++ rest) =
              ⟨.error error, run, rest⟩ := by
            intro rest
            rw [List.singleton_append, DashboardRun.messageLoop, hreading]
          exact Carries.behind (.inl ⟨h, rfl⟩) hloop hfirst
      | ok reading =>
          cases reading with
          | text raw =>
              have hloop : ∀ rest, run.messageLoop environment ([message] ++ rest) =
                  (run.receive environment raw).messageLoop environment rest := by
                intro rest
                rw [List.singleton_append, DashboardRun.messageLoop, hreading]
              refine Carries.behind ?_ hloop hfirst
              exact (receive_delivers environment h raw).carries
                (DashboardRun.messageLoop_sent _ _ _) fun htakes => ih htakes
          | closed =>
              have hloop : ∀ rest, run.messageLoop environment ([message] ++ rest) =
                  ⟨.ok (), run, rest⟩ := by
                intro rest
                rw [List.singleton_append, DashboardRun.messageLoop, hreading]
              exact Carries.behind (.inl ⟨h, rfl⟩) hloop hfirst
          | ignored =>
              have hloop : ∀ rest, run.messageLoop environment ([message] ++ rest) =
                  run.messageLoop environment rest := by
                intro rest
                rw [List.singleton_append, DashboardRun.messageLoop, hreading]
              exact (ih h).behind hloop hfirst

theorem orEnd_ok (sending : Sending) (unread : List (Except String InboundMessage)) :
    sending.orEnd unread (fun run => ⟨.ok (), run, unread⟩) =
      ⟨sending.1, sending.2, unread⟩ := by
  obtain ⟨result, run⟩ := sending
  cases result <;> rfl

/-- An error is the last that such a session sends. -/
theorem close_carries (h : sink.Takes run.sent.length) (error : RelayError)
    (hserve : ∀ rest, serve (before ++ rest) =
      ⟨.ok (), run.sendMessages [.error error], rest⟩)
    (hbefore : ∀ earlier message more, before = earlier ++ message :: more →
      sink.Takes (serve earlier).run.sent.length)
    (rest : List (Except String InboundMessage)) :
    let sending := sink.sendMessages run [.error error]
    sink.Carries serve (before ++ rest) ⟨sending.1, sending.2, rest⟩ := by
  intro sending
  rw [← orEnd_ok]
  refine Carries.behind ?_ hserve hbefore
  exact (sendMessages_delivers h [.error error]).carries (List.prefix_refl _)
    fun htakes => .inl ⟨htakes, rfl⟩

end WebSocketSink

section Session

variable {sink : WebSocketSink} {environment : SessionEnvironment} {identity : RemoteIdentity}
  {registry : TargetProcessRegistry}

open WebSocketSink

/-- The run once the server hello is sent. -/
def helloRun (environment : SessionEnvironment) (identity : RemoteIdentity)
    (registry : TargetProcessRegistry) : DashboardRun :=
  DashboardRun.sendOutbox ⟨.serverHello environment.sessionId identity environment.startedAt,
    registry, .default, 0, [], []⟩

theorem runDashboardSession_sent (inbound : List (Except String InboundMessage)) :
    (helloRun environment identity registry).sent <+:
      (runDashboardSession environment identity registry inbound).run.sent := by
  change [openingMessage environment identity] <+: _
  cases hopening : openingHello environment inbound with
  | none =>
      obtain ⟨hsent | ⟨error, hsent⟩, -⟩ := runDashboardSession_unopened hopening identity registry
      · rw [hsent]
      · exact ⟨[.error error], hsent.symm⟩
  | some hello =>
      obtain ⟨targets, later, hsent, -⟩ := runDashboardSession_opened hopening identity registry
      exact ⟨.targetList targets :: later, hsent.symm⟩

/-- What is read before a text means nothing to the reader, and neither does what follows. -/
theorem nextTextMessage_text {inbound : List (Except String InboundMessage)} {raw : String}
    (h : (nextTextMessage inbound).1 = .ok (some raw)) :
    ∃ before, inbound = before ++ (nextTextMessage inbound).2 ∧
      (∀ rest, nextTextMessage (before ++ rest) = (.ok (some raw), rest)) ∧
      ∀ earlier message more, before = earlier ++ message :: more →
        nextTextMessage earlier = (.ok none, []) := by
  induction inbound with
  | nil => cases h
  | cons message rest ih =>
      rw [nextTextMessage] at h ⊢
      cases hreading : readMessage message with
      | error error =>
          rw [hreading] at h
          cases h
      | ok reading =>
          rw [hreading] at h
          cases reading with
          | closed => cases h
          | text other =>
              cases h
              refine ⟨[message], rfl, fun rest => ?_, fun earlier other more hsplit => ?_⟩
              · rw [List.singleton_append, nextTextMessage, hreading]
              · rcases List.singleton_eq_append_iff.mp hsplit with ⟨rfl, -⟩ | ⟨-, hnil⟩
                · rfl
                · cases hnil
          | ignored =>
              obtain ⟨before, hbefore, hnext, hearlier⟩ := ih h
              refine ⟨message :: before, congrArg _ hbefore, fun rest => ?_,
                fun earlier other more hsplit => ?_⟩
              · rw [List.cons_append, nextTextMessage, hreading]
                exact hnext rest
              · cases earlier with
                | nil => rfl
                | cons first earlier =>
                    obtain ⟨rfl, hrest⟩ := List.cons.inj hsplit
                    rw [nextTextMessage, hreading]
                    exact hearlier earlier other more hrest

/-- The session that has heard its first text goes on as it does where all is taken. -/
theorem handleFirst_carries {raw : String} {before : List (Except String InboundMessage)}
    (htakes : sink.Takes (helloRun environment identity registry).sent.length)
    (hnext : ∀ rest, nextTextMessage (before ++ rest) = (.ok (some raw), rest))
    (hbefore : ∀ earlier message more, before = earlier ++ message :: more →
      sink.Takes (runDashboardSession environment identity registry earlier).run.sent.length)
    (rest : List (Except String InboundMessage)) :
    sink.Carries (runDashboardSession environment identity registry) (before ++ rest)
      (sink.handleFirst environment (helloRun environment identity registry) raw rest) := by
  unfold WebSocketSink.handleFirst
  cases hdecoded : decodeClientMessage environment.reader raw with
  | error error =>
      have hserve : ∀ rest, runDashboardSession environment identity registry (before ++ rest) =
          ⟨.error error, helloRun environment identity registry, rest⟩ := by
        intro rest
        simp only [runDashboardSession, hnext, hdecoded, helloRun]
      exact Carries.behind (.inl ⟨htakes, rfl⟩) hserve hbefore
  | ok message =>
      cases message with
      | clientHello hello =>
          dsimp only
          cases haccept : (helloRun environment identity registry).session.acceptClientHello hello
              environment.helloAt with
          | error error =>
              have hserve : ∀ rest,
                  runDashboardSession environment identity registry (before ++ rest) =
                    ⟨.error error, helloRun environment identity registry, rest⟩ := by
                intro rest
                unfold helloRun at haccept
                simp only [runDashboardSession, hnext, hdecoded, haccept, helloRun]
              exact Carries.behind (.inl ⟨htakes, rfl⟩) hserve hbefore
          | ok session =>
              let greeted := { helloRun environment identity registry with session := session }
              let started := (greeted.publishActiveTargets environment).autoBindActiveTargets
                environment
              have hserve : ∀ rest,
                  runDashboardSession environment identity registry (before ++ rest) =
                    started.sendOutbox.messageLoop environment rest := by
                intro rest
                unfold helloRun at haccept
                simp only [runDashboardSession, hnext, hdecoded, haccept, started, greeted,
                  helloRun]
              have hsent : started.sent = (helloRun environment identity registry).sent :=
                (DashboardRun.foldl_bindLocked_binds environment _ _).sent
              refine Carries.behind ?_ hserve hbefore
              exact (sendOutbox_delivers (hsent ▸ htakes)).carries
                (DashboardRun.messageLoop_sent _ _ _) fun htakes => messageLoop_carries htakes rest
      | command command =>
          refine close_carries htakes _ (fun rest => ?_) hbefore rest
          simp only [runDashboardSession, hnext, hdecoded, helloRun]
      | logEventFilterConditions conditions =>
          refine close_carries htakes _ (fun rest => ?_) hbefore rest
          simp only [runDashboardSession, hnext, hdecoded, helloRun]

/-- Whatever the peer takes, a session goes on as before a peer that takes everything, up to
the first message that is refused. There it ends with the error of the write: it has sent what
comes before that message, reads nothing more, and what it did to the registry and to targets
is what the messages it had read ask for, answered or not. -/
theorem session_stops_at_refusal (sink : WebSocketSink) (environment : SessionEnvironment)
    (identity : RemoteIdentity) (registry : TargetProcessRegistry)
    (inbound : List (Except String InboundMessage)) :
    let serve := runDashboardSession environment identity registry
    let ended := sink.runDashboardSession environment identity registry inbound
    (sink.Takes (serve inbound).run.sent.length ∧ ended = serve inbound) ∨
      ∃ diagnostic heard, sink.Stops diagnostic serve inbound heard ended := by
  intro serve ended
  let opening : DashboardRun := ⟨.serverHello environment.sessionId identity environment.startedAt,
    registry, .default, 0, [], []⟩
  have hnone : sink.Takes opening.sent.length := fun _ hlt => absurd hlt (Nat.not_lt_zero _)
  have hopening : sink.Delivers (serve []).run (sink.sendOutbox opening) :=
    sendOutbox_delivers hnone
  refine hopening.carries (runDashboardSession_sent inbound) fun htakes => ?_
  have hquiet (result : RelayResult Unit)
      (hserve : serve inbound =
        ⟨result, helloRun environment identity registry, (nextTextMessage inbound).2⟩) :
      sink.Carries serve inbound
        ⟨result, helloRun environment identity registry, (nextTextMessage inbound).2⟩ :=
    .inl ⟨by rwa [hserve], hserve.symm⟩
  dsimp only
  cases hfirst : (nextTextMessage inbound).1 with
  | error error =>
      refine hquiet (.error error) ?_
      simp only [serve, runDashboardSession, hfirst, helloRun]
  | ok text =>
      cases text with
      | none =>
          refine hquiet (.error _) ?_
          simp only [serve, runDashboardSession, hfirst, helloRun]
      | some raw =>
          obtain ⟨before, hbefore, hnext, hearlier⟩ := nextTextMessage_text hfirst
          have hsilent (earlier more : List (Except String InboundMessage))
              (message : Except String InboundMessage)
              (hsplit : before = earlier ++ message :: more) :
              sink.Takes (serve earlier).run.sent.length := by
            have hhello : (serve earlier).run = helloRun environment identity registry := by
              simp only [serve, runDashboardSession, hearlier earlier message more hsplit, helloRun]
            rw [hhello]
            exact htakes
          have hcarries := handleFirst_carries htakes hnext
            (fun earlier message more => hsilent earlier more message) (nextTextMessage inbound).2
          rwa [← hbefore] at hcarries

/-- The peer is gone when the answer to its command comes: the command was carried out. -/
example :
    let gone : WebSocketSink := ⟨fun taken => if taken < 3 then .ok () else .error "broken pipe"⟩
    let ended := gone.runDashboardSession sampleEnvironment sampleIdentity
      (.new (samplePolicy 120))
      [.ok (.text "client_hello"), .ok (.text "command"), .ok (.text "command")]
    (ended.run.sent.length, ended.unread.length, ended.run.calls.map (·.caller)) =
      (3, 1, [.bindTarget, .bindTarget, .handleCommand, .refreshTargetStateAfterCommand]) := by
  decide +kernel

end Session

end SupervisorRelay
