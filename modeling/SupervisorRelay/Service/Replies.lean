import SupervisorRelay.Service.StartUp

/-! What a started session sends: one block for each message it reads. Errors are sent
at once and results through the outbox, and both answer the message at hand. -/
namespace SupervisorRelay

namespace DashboardRun

variable {environment : SessionEnvironment} {run : DashboardRun}

/-- The messages sent for a run of texts, one block for each, sent before the next
text is looked at. -/
structure Served (environment : SessionEnvironment) (opened : DashboardRun)
    (texts : List String) (blocks : List (List ServerMessage)) : Prop where
  length : blocks.length = texts.length
  replied : ∀ before raw after, texts = before ++ raw :: after →
    ∃ block, blocks[before.length]? = some block ∧
      Replied environment (before.foldl (receive environment) opened) raw block
  sent : ∀ before after, texts = before ++ after →
    (before.foldl (receive environment) opened).sent =
      opened.sent ++ (blocks.take before.length).flatten
  drained : ∀ before after, texts = before ++ after →
    (before.foldl (receive environment) opened).session.outbox = []

theorem serves (hdrained : run.session.outbox = []) (texts : List String) :
    ∃ blocks, Served environment run texts blocks := by
  induction texts generalizing run with
  | nil =>
      refine ⟨[], rfl, ?_, ?_, ?_⟩
      · intro before raw after hsplit
        simp at hsplit
      · intro before after hsplit
        rw [List.nil_eq_append_iff] at hsplit
        simp [hsplit.1]
      · intro before after hsplit
        rw [List.nil_eq_append_iff] at hsplit
        simpa [hsplit.1] using hdrained
  | cons first rest ih =>
      obtain ⟨block, hreplied, hsent, hempty⟩ := receive_replies environment hdrained first
      obtain ⟨blocks, hserved⟩ := ih hempty
      refine ⟨block :: blocks, by simp [hserved.length], ?_, ?_, ?_⟩
      · intro before raw after hsplit
        cases before with
        | nil =>
            cases hsplit
            exact ⟨block, rfl, hreplied⟩
        | cons head before =>
            cases hsplit
            exact hserved.replied before raw after rfl
      · intro before after hsplit
        cases before with
        | nil => simp
        | cons head before =>
            cases hsplit
            rw [List.foldl_cons, hserved.sent before after rfl, hsent]
            simp
      · intro before after hsplit
        cases before with
        | nil => exact hdrained
        | cons head before =>
            cases hsplit
            exact hserved.drained before after rfl

end DashboardRun

/-- After the handshake a session answers each message it reads, in order and before
it reads the next: a command with its result or its error, anything else that is not
a filter with an error, and a filter with nothing. -/
theorem messages_replied {environment : SessionEnvironment}
    {inbound : List (Except String InboundMessage)} {hello : ClientHello}
    (h : openingHello environment inbound = some hello) (identity : RemoteIdentity)
    (registry : TargetProcessRegistry) :
    let opened := (acceptedRun environment identity registry hello).startUp environment
    let texts := textsRead (nextTextMessage inbound).2
    (runDashboardSession environment identity registry inbound).run =
        texts.foldl (DashboardRun.receive environment) opened ∧
      ∃ blocks, DashboardRun.Served environment opened texts blocks := by
  intro opened texts
  rw [runDashboardSession_startUp h, DashboardRun.messageLoop_run]
  exact ⟨rfl, DashboardRun.serves rfl texts⟩

/-- A hello, a command, a hello too many and an unknown message. -/
def sampleInbound : List (Except String InboundMessage) :=
  [.ok (.text "client_hello"), .ok (.text "command"), .ok .ping,
    .ok (.binary (.ok "client_hello")), .ok (.text "noise"), .ok .close]

theorem messages_replied_sample :
    let opened := (acceptedRun sampleEnvironment sampleIdentity (.new (samplePolicy 120))
      sampleHello).startUp sampleEnvironment
    ∃ blocks, DashboardRun.Served sampleEnvironment opened
      ["command", "client_hello", "noise"] blocks := by
  have hopening : openingHello sampleEnvironment sampleInbound = some sampleHello := by
    rw [openingHello_eq_some]
    exact ⟨"client_hello", rfl, rfl, by decide +kernel⟩
  exact (messages_replied hopening sampleIdentity (.new (samplePolicy 120))).2

end SupervisorRelay
