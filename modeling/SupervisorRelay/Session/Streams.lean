import SupervisorRelay.Library.Machine
import SupervisorRelay.Session.Operations

/-! What targets deliver to a session. The answer to a delivery depends on two
things only: whether its target is bound, and the last sequence of that target.
So the streams of the targets run beside each other without touching. -/
namespace SupervisorRelay

/-- One delivery of a target. -/
inductive StreamOp where
  | event (event : EventRecord)
  | log (log : LogRecord)
  | stateDelta (targetId : String) (delta : Json)
  | droppedCount (targetId : String) (droppedEventCount : UInt64)
  | connectionState (targetId : String) (state : ConnectionState)

namespace StreamOp

def targetId : StreamOp → String
  | .event record => record.targetId
  | .log record => record.targetId
  | .stateDelta targetId _ => targetId
  | .droppedCount targetId _ => targetId
  | .connectionState targetId _ => targetId

/-- An event at or below the last sequence of its target. -/
def stale (previous : Option UInt64) : StreamOp → Bool
  | .event record => previous.any fun previous => record.sequence ≤ previous
  | _ => false

/-- The notice of the events missing before this one. -/
def gapNotice (previous : Option UInt64) (record : EventRecord) : List ServerMessage :=
  match previous with
  | none => []
  | some previous =>
    if record.sequence > previous + 1 then
      [.droppedCount record.targetId (record.sequence - previous - 1)]
    else []

/-- What a delivery that is not stale sends on. -/
def messages (previous : Option UInt64) : StreamOp → List ServerMessage
  | .event record => gapNotice previous record ++ [.event record.targetId record]
  | .log record => [.log record.targetId record]
  | .stateDelta targetId delta => [.stateDelta targetId delta]
  | .droppedCount targetId droppedEventCount => [.droppedCount targetId droppedEventCount]
  | .connectionState targetId state => [.connectionState targetId state]

/-- The last sequence of its target after a delivery that is not stale. -/
def last (previous : Option UInt64) : StreamOp → Option UInt64
  | .event record => some record.sequence
  | _ => previous

/-- A delivery that is not stale takes the sequence no way back. -/
theorem last_le {previous : UInt64} {op : StreamOp} (hfresh : op.stale (some previous) = false) :
    ∃ later, op.last (some previous) = some later ∧ previous ≤ later := by
  cases op with
  | event record =>
      have hlt : ¬record.sequence ≤ previous := of_decide_eq_false hfresh
      exact ⟨record.sequence, rfl, UInt64.le_of_lt (UInt64.not_le.mp hlt)⟩
  | _ => exact ⟨previous, rfl, UInt64.le_refl _⟩

theorem gapNotice_targetId (previous : Option UInt64) (record : EventRecord) :
    ∀ message ∈ gapNotice previous record, message.targetId = some record.targetId := by
  intro message hmem
  unfold gapNotice at hmem
  split at hmem
  · cases hmem
  split at hmem
  · rw [List.mem_singleton.mp hmem]
    rfl
  · cases hmem

theorem messages_targetId (previous : Option UInt64) (op : StreamOp) :
    ∀ message ∈ op.messages previous, message.targetId = some op.targetId := by
  intro message hmem
  cases op with
  | event record =>
      rcases List.mem_append.mp hmem with hmem | hmem
      · exact gapNotice_targetId previous record message hmem
      · rw [List.mem_singleton.mp hmem]
        rfl
  | log record =>
      rw [List.mem_singleton.mp hmem]
      rfl
  | stateDelta targetId delta =>
      rw [List.mem_singleton.mp hmem]
      rfl
  | droppedCount targetId droppedEventCount =>
      rw [List.mem_singleton.mp hmem]
      rfl
  | connectionState targetId state =>
      rw [List.mem_singleton.mp hmem]
      rfl

end StreamOp

def sequenceNotMonotonic (targetId : String) : RelayError :=
  .forTarget "sequence_not_monotonic" "stream" targetId
    "event sequence must be monotonic for each target" false

/-- All that a delivery's answer depends on. -/
structure TargetView where
  bound : Bool
  last : Option UInt64

namespace StreamOp

/-- The messages a delivery returns. -/
def returned (view : TargetView) (op : StreamOp) : List ServerMessage :=
  if view.bound then
    if op.stale view.last then [.error (sequenceNotMonotonic op.targetId)]
    else op.messages view.last
  else []

/-- The messages a delivery queues: a rejection is returned and not queued. -/
def queued (view : TargetView) (op : StreamOp) : List ServerMessage :=
  if view.bound && !op.stale view.last then op.messages view.last else []

def advance (view : TargetView) (op : StreamOp) : TargetView :=
  if view.bound && !op.stale view.last then { view with last := op.last view.last } else view

/-- What a delivery returns it also queues, unless it is stale. -/
theorem queued_eq_returned {view : TargetView} {op : StreamOp}
    (h : view.bound = true → op.stale view.last = false) : op.queued view = op.returned view := by
  unfold queued returned
  cases hbound : view.bound with
  | false => rfl
  | true => simp [h hbound]

/-- A stale delivery is reported by its return value alone. -/
theorem queued_stale {view : TargetView} {op : StreamOp} (hbound : view.bound = true)
    (hstale : op.stale view.last = true) :
    op.queued view = [] ∧ op.returned view = [.error (sequenceNotMonotonic op.targetId)] ∧
      op.advance view = view := by
  unfold queued returned advance
  simp [hbound, hstale]

/-- A delivery that is not stale queues and returns its messages. -/
theorem queued_fresh {view : TargetView} {op : StreamOp} (hbound : view.bound = true)
    (hfresh : op.stale view.last = false) :
    op.queued view = op.messages view.last ∧ op.returned view = op.messages view.last ∧
      op.advance view = { view with last := op.last view.last } := by
  unfold queued returned advance
  simp [hbound, hfresh]

theorem returned_targetId (view : TargetView) (op : StreamOp) :
    ∀ message ∈ op.returned view, message.targetId = some op.targetId := by
  intro message hmem
  unfold returned at hmem
  split at hmem
  · split at hmem
    · rw [List.mem_singleton.mp hmem]
      rfl
    · exact messages_targetId view.last op message hmem
  · cases hmem

theorem queued_targetId (view : TargetView) (op : StreamOp) :
    ∀ message ∈ op.queued view, message.targetId = some op.targetId := by
  intro message hmem
  unfold queued at hmem
  split at hmem
  · exact messages_targetId view.last op message hmem
  · cases hmem

end StreamOp

namespace DashboardSession

def accept (session : DashboardSession) :
    StreamOp → RelayResult (List ServerMessage) × DashboardSession
  | .event event => session.acceptEvent event
  | .log log => session.acceptLog log
  | .stateDelta targetId delta => session.acceptStateDelta targetId delta
  | .droppedCount targetId droppedEventCount =>
      session.acceptDroppedCount targetId droppedEventCount
  | .connectionState targetId state => session.acceptConnectionState targetId state

/-- The three ways a delivery can go. -/
inductive Accepts (session : DashboardSession) (op : StreamOp) :
    RelayResult (List ServerMessage) × DashboardSession → Prop where
  | unbound (hunbound : op.targetId ∉ session.boundTargets) :
      Accepts session op (.ok [], session)
  | stale (hbound : op.targetId ∈ session.boundTargets)
      (hstale : op.stale (session.lastSequences.lookup op.targetId) = true) :
      Accepts session op (.ok [.error (sequenceNotMonotonic op.targetId)], session)
  | queued (previous : Option UInt64) (lastSequences : HashMap String UInt64)
      (hbound : op.targetId ∈ session.boundTargets)
      (hprevious : session.lastSequences.lookup op.targetId = previous)
      (hfresh : op.stale previous = false)
      (hlast : ∀ other, lastSequences.lookup other =
        if other = op.targetId then op.last previous
        else session.lastSequences.lookup other) :
      Accepts session op (.ok (op.messages previous), { session with
        lastSequences := lastSequences
        outbox := session.outbox ++ op.messages previous })

theorem acceptEvent_spec (session : DashboardSession) (record : EventRecord) :
    Accepts session (.event record) (session.acceptEvent record) := by
  unfold acceptEvent
  split
  · rename_i hunbound
    exact .unbound hunbound
  rename_i hbound
  rw [not_not] at hbound
  have hlast (other : String) :
      (session.lastSequences.insert record.targetId record.sequence).lookup other =
        if other = record.targetId then some record.sequence
        else session.lastSequences.lookup other :=
    HashMap.lookup_insert _ _ _ _
  dsimp only
  cases hprevious : session.lastSequences.lookup record.targetId with
  | none => exact .queued none _ hbound hprevious rfl hlast
  | some previous =>
      dsimp only
      split
      · rename_i hstale
        refine .stale hbound ?_
        change StreamOp.stale (session.lastSequences.lookup record.targetId) (.event record) = true
        rw [hprevious]
        exact decide_eq_true hstale
      rename_i hfresh
      have hqueued : Accepts session (.event record) (.ok _, _) :=
        .queued (some previous) _ hbound hprevious (decide_eq_false hfresh) hlast
      split
      · rename_i hgap
        simpa only [StreamOp.messages, StreamOp.gapNotice, if_pos hgap] using hqueued
      · rename_i hgap
        simpa only [StreamOp.messages, StreamOp.gapNotice, if_neg hgap] using hqueued

/-- A delivery of a kind that has no sequences: one message, or none if unbound. -/
theorem accepts_single {session : DashboardSession} {op : StreamOp} {message : ServerMessage}
    (hstale : ∀ previous, op.stale previous = false)
    (hmessages : ∀ previous, op.messages previous = [message])
    (hlast : ∀ previous, op.last previous = previous) :
    Accepts session op (if op.targetId ∉ session.boundTargets then (.ok [], session)
      else (.ok [message], session.push message)) := by
  split
  · rename_i hunbound
    exact .unbound hunbound
  · rename_i hbound
    rw [not_not] at hbound
    unfold push
    rw [← hmessages (session.lastSequences.lookup op.targetId)]
    refine .queued _ session.lastSequences hbound rfl (hstale _) fun other => ?_
    split
    · rename_i heq
      rw [hlast, heq]
    · rfl

theorem accept_spec (session : DashboardSession) (op : StreamOp) :
    Accepts session op (session.accept op) := by
  cases op with
  | event record => exact acceptEvent_spec session record
  | log record => exact accepts_single (fun _ => rfl) (fun _ => rfl) (fun _ => rfl)
  | stateDelta targetId delta =>
      exact accepts_single (fun _ => rfl) (fun _ => rfl) (fun _ => rfl)
  | droppedCount targetId droppedEventCount =>
      exact accepts_single (fun _ => rfl) (fun _ => rfl) (fun _ => rfl)
  | connectionState targetId state =>
      exact accepts_single (fun _ => rfl) (fun _ => rfl) (fun _ => rfl)

/-- No delivery touches the identity, the handshake or the bindings. -/
theorem accept_keeps (session : DashboardSession) (op : StreamOp) :
    (session.accept op).2.remoteIdentity = session.remoteIdentity ∧
      (session.accept op).2.connectionState = session.connectionState ∧
      (session.accept op).2.boundTargets = session.boundTargets := by
  have hspec := accept_spec session op
  generalize session.accept op = call at hspec
  cases hspec with
  | unbound => exact ⟨rfl, rfl, rfl⟩
  | stale => exact ⟨rfl, rfl, rfl⟩
  | queued => exact ⟨rfl, rfl, rfl⟩

/-- What the session knows of one target. -/
def view (session : DashboardSession) (targetId : String) : TargetView :=
  ⟨targetId ∈ session.boundTargets, session.lastSequences.lookup targetId⟩

variable {session : DashboardSession} {op : StreamOp}
variable {call : RelayResult (List ServerMessage) × DashboardSession}

theorem Accepts.answer (h : Accepts session op call) :
    call.1 = .ok (op.returned (session.view op.targetId)) := by
  cases h with
  | unbound hunbound => simp [StreamOp.returned, view, hunbound]
  | stale hbound hstale => simp [StreamOp.returned, view, hbound, hstale]
  | queued previous lastSequences hbound hprevious hfresh hlast =>
      simp [StreamOp.returned, view, hbound, hprevious, hfresh]

theorem Accepts.outbox (h : Accepts session op call) :
    call.2.outbox = session.outbox ++ op.queued (session.view op.targetId) := by
  cases h with
  | unbound hunbound => simp [StreamOp.queued, view, hunbound]
  | stale hbound hstale => simp [StreamOp.queued, view, hstale]
  | queued previous lastSequences hbound hprevious hfresh hlast =>
      simp [StreamOp.queued, view, hbound, hprevious, hfresh]

theorem Accepts.view (h : Accepts session op call) (targetId : String) :
    call.2.view targetId =
      if targetId = op.targetId then op.advance (session.view targetId)
      else session.view targetId := by
  cases h with
  | unbound hunbound =>
      split
      · rename_i heq
        subst heq
        simp [StreamOp.advance, DashboardSession.view, hunbound]
      · rfl
  | stale hbound hstale =>
      split
      · rename_i heq
        subst heq
        simp [StreamOp.advance, DashboardSession.view, hstale]
      · rfl
  | queued previous lastSequences hbound hprevious hfresh hlast =>
      unfold DashboardSession.view
      rw [hlast]
      split
      · rename_i heq
        subst heq
        simp [StreamOp.advance, hbound, hprevious, hfresh]
      · rfl

/-- The messages of a return value. -/
def returnedMessages : RelayResult (List ServerMessage) → List ServerMessage
  | .ok messages => messages
  | .error _ => []

/-- A run of deliveries; its events are the messages returned. -/
def streamMachine : Machine DashboardSession StreamOp ServerMessage where
  step session op := ((session.accept op).2, returnedMessages (session.accept op).1)

theorem streamMachine_returned (session : DashboardSession) (op : StreamOp) :
    (streamMachine.step session op).2 = op.returned (session.view op.targetId) := by
  dsimp only [streamMachine]
  rw [(accept_spec session op).answer]
  rfl

theorem streamMachine_outbox (session : DashboardSession) (op : StreamOp) :
    (streamMachine.step session op).1.outbox =
      session.outbox ++ op.queued (session.view op.targetId) :=
  (accept_spec session op).outbox

theorem streamMachine_view (session : DashboardSession) (op : StreamOp) (targetId : String) :
    (streamMachine.step session op).1.view targetId =
      if targetId = op.targetId then op.advance (session.view targetId)
      else session.view targetId :=
  (accept_spec session op).view targetId

end DashboardSession

/-- The message names the target. -/
def ServerMessage.names (targetId : String) (message : ServerMessage) : Bool :=
  message.targetId = some targetId

/-- The delivery is about the target. -/
def StreamOp.isAbout (targetId : String) (op : StreamOp) : Bool :=
  op.targetId = targetId

/-- No message of one target names another. -/
theorem ServerMessage.filter_names_other {messages : List ServerMessage} {other targetId : String}
    (h : ∀ message ∈ messages, message.targetId = some other) (hne : other ≠ targetId) :
    messages.filter (names targetId) = [] := by
  rw [List.filter_eq_nil_iff]
  intro message hmem
  simp [names, h message hmem, hne]

namespace DashboardSession

/-- Two sessions that know the same of the target, with the same messages queued
for it behind what each had at first. -/
structure SameStream (targetId : String) (before first second : DashboardSession) : Prop where
  view : first.view targetId = second.view targetId
  outbox : ∃ appended appended', first.outbox = before.outbox ++ appended ∧
    second.outbox = before.outbox ++ appended' ∧
    appended.filter (ServerMessage.names targetId) =
      appended'.filter (ServerMessage.names targetId)

theorem SameStream.refl (targetId : String) (session : DashboardSession) :
    SameStream targetId session session session where
  view := rfl
  outbox := ⟨[], [], (List.append_nil _).symm, (List.append_nil _).symm, rfl⟩

variable {targetId : String} {before first second : DashboardSession}

/-- A delivery about the target does the same to both. -/
theorem SameStream.accept (h : SameStream targetId before first second) {op : StreamOp}
    (habout : op.targetId = targetId) :
    SameStream targetId before (streamMachine.step first op).1 (streamMachine.step second op).1 ∧
      (streamMachine.step first op).2 = (streamMachine.step second op).2 := by
  subst habout
  obtain ⟨appended, appended', hfirst, hsecond, hnames⟩ := h.outbox
  constructor
  · constructor
    · rw [streamMachine_view, streamMachine_view, h.view]
    · refine ⟨appended ++ op.queued (first.view op.targetId),
        appended' ++ op.queued (second.view op.targetId), ?_, ?_, ?_⟩
      · rw [streamMachine_outbox, hfirst, List.append_assoc]
      · rw [streamMachine_outbox, hsecond, List.append_assoc]
      · rw [List.filter_append, List.filter_append, hnames, h.view]
  · rw [streamMachine_returned, streamMachine_returned, h.view]

/-- A delivery about another target does nothing the target sees. -/
theorem SameStream.skip (h : SameStream targetId before first second) {op : StreamOp}
    (hother : op.targetId ≠ targetId) :
    SameStream targetId before (streamMachine.step first op).1 second ∧
      (streamMachine.step first op).2.filter (ServerMessage.names targetId) = [] := by
  obtain ⟨appended, appended', hfirst, hsecond, hnames⟩ := h.outbox
  constructor
  · constructor
    · rw [streamMachine_view, if_neg (Ne.symm hother), h.view]
    · refine ⟨appended ++ op.queued (first.view op.targetId), appended', ?_, hsecond, ?_⟩
      · rw [streamMachine_outbox, hfirst, List.append_assoc]
      · rw [List.filter_append, ServerMessage.filter_names_other
          (StreamOp.queued_targetId _ op) hother, List.append_nil, hnames]
  · rw [streamMachine_returned]
    exact ServerMessage.filter_names_other (StreamOp.returned_targetId _ op) hother

/-- The deliveries about other targets can be dropped from a run. -/
theorem run_own_stream (targetId : String) (session : DashboardSession) (ops : List StreamOp) :
    let own := ops.filter (StreamOp.isAbout targetId)
    (streamMachine.history session ops).filter (ServerMessage.names targetId) =
        (streamMachine.history session own).filter (ServerMessage.names targetId) ∧
      SameStream targetId session (streamMachine.final session ops)
        (streamMachine.final session own) := by
  intro own
  have hsilent := Machine.filter_silent (streamMachine.observe (ServerMessage.names targetId))
    (fun _ _ => True) (SameStream targetId session) (StreamOp.isAbout targetId)
    (fun first second op hkeep h => by
      obtain ⟨hnext, hreturned⟩ := h.accept (of_decide_eq_true hkeep)
      exact ⟨hnext, congrArg (List.filter (ServerMessage.names targetId)) hreturned, Iff.rfl⟩)
    (fun first second op hdrop h => by
      obtain ⟨hnext, hreturned⟩ := h.skip (of_decide_eq_false hdrop)
      exact ⟨hnext, hreturned, trivial⟩)
    (SameStream.refl targetId session) ops
  obtain ⟨hhistory, -, hfinal⟩ := hsilent
  rw [Machine.observe_history, Machine.observe_history] at hhistory
  rw [Machine.observe_final, Machine.observe_final] at hfinal
  exact ⟨hhistory, hfinal⟩

end DashboardSession

/-- Two runs with the same deliveries about a target, in the same order, return and
queue the same messages for it, in the same order, and end at the same sequence. -/
theorem target_streams_independent (session : DashboardSession) (targetId : String)
    (first second : List StreamOp)
    (hsame : first.filter (StreamOp.isAbout targetId) =
      second.filter (StreamOp.isAbout targetId)) :
    let machine := DashboardSession.streamMachine
    (machine.history session first).filter (ServerMessage.names targetId) =
        (machine.history session second).filter (ServerMessage.names targetId) ∧
      (∃ appended appended', (machine.final session first).outbox = session.outbox ++ appended ∧
        (machine.final session second).outbox = session.outbox ++ appended' ∧
        appended.filter (ServerMessage.names targetId) =
          appended'.filter (ServerMessage.names targetId)) ∧
      (machine.final session first).lastSequences.lookup targetId =
        (machine.final session second).lastSequences.lookup targetId := by
  intro machine
  obtain ⟨hreturned, hfinal⟩ := DashboardSession.run_own_stream targetId session first
  obtain ⟨hreturned', hfinal'⟩ := DashboardSession.run_own_stream targetId session second
  rw [hsame] at hreturned hfinal
  obtain ⟨appended, own, hfirst, hown, hnames⟩ := hfinal.outbox
  obtain ⟨appended', own', hsecond, hown', hnames'⟩ := hfinal'.outbox
  have howns : own = own' := List.append_cancel_left (hown.symm.trans hown')
  refine ⟨hreturned.trans hreturned'.symm, ⟨appended, appended', hfirst, hsecond, ?_⟩, ?_⟩
  · rw [hnames, hnames', howns]
  · have hview := hfinal.view.trans hfinal'.view.symm
    exact congrArg TargetView.last hview

/-- A session bound to two targets. -/
def sampleBoundSession : DashboardSession :=
  { DashboardSession.serverHello 0 sampleIdentity .unixEpoch with
    clientStoreId := some "browser-store-a"
    connectionState := .established
    controlState := .established
    boundTargets := {"payments-worker-a", "payments-worker-b"}
    outbox := [] }

def sampleEvent (targetId : String) (sequence : UInt64) : EventRecord :=
  ⟨targetId, sequence, "child_restarted", "info", .unixEpoch⟩

theorem target_streams_independent_sample :
    let first : List StreamOp := [.event (sampleEvent "payments-worker-a" 3),
      .event (sampleEvent "payments-worker-b" 9), .event (sampleEvent "payments-worker-a" 7)]
    let second : List StreamOp := [.event (sampleEvent "payments-worker-a" 3),
      .event (sampleEvent "payments-worker-a" 7), .droppedCount "payments-worker-b" 2]
    let machine := DashboardSession.streamMachine
    first.filter (StreamOp.isAbout "payments-worker-a") =
        second.filter (StreamOp.isAbout "payments-worker-a") ∧
      (machine.history sampleBoundSession first).filter
          (ServerMessage.names "payments-worker-a") =
        (machine.history sampleBoundSession second).filter
          (ServerMessage.names "payments-worker-a") := by
  intro first second machine
  have hsame : first.filter (StreamOp.isAbout "payments-worker-a") =
      second.filter (StreamOp.isAbout "payments-worker-a") := rfl
  exact ⟨hsame, (target_streams_independent sampleBoundSession "payments-worker-a" first second
    hsame).1⟩

end SupervisorRelay
