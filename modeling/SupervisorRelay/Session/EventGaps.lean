import SupervisorRelay.Library.Gaps
import SupervisorRelay.Session.Streams

/-! The sequence numbers that a session forwards for one target. They increase, and
with the counts reported for the holes between them they fill their span. -/
namespace SupervisorRelay

/-- The events of the target among the messages, in order. -/
def forwardedEvents (targetId : String) (messages : List ServerMessage) : List EventRecord :=
  messages.filterMap fun
    | .event eventId record => if eventId = targetId then some record else none
    | _ => none

def forwardedSequences (targetId : String) (messages : List ServerMessage) : List UInt64 :=
  (forwardedEvents targetId messages).map (·.sequence)

/-- The counts reported for the target, in order. -/
def reportedCounts (targetId : String) (messages : List ServerMessage) : List UInt64 :=
  messages.filterMap fun
    | .droppedCount countId droppedEventCount =>
        if countId = targetId then some droppedEventCount else none
    | _ => none

/-- The message names the target and is no diagnostic about it. -/
def ServerMessage.delivers (targetId : String) : ServerMessage → Bool
  | .error _ => false
  | message => message.names targetId

/-- How many sequence numbers lie between the last event and this one. -/
def missingBefore (previous : Option UInt64) (sequence : UInt64) : ℕ :=
  match previous with
  | none => 0
  | some previous => sequence.toNat - previous.toNat - 1

/-- What a dashboard should see of the forwarded events: each one, directly after
the count of those missing before it if there are any. -/
def announcedStream (targetId : String) :
    Option UInt64 → List EventRecord → List ServerMessage
  | _, [] => []
  | previous, record :: rest =>
      let missing := missingBefore previous record.sequence
      (if 0 < missing then [.droppedCount targetId (UInt64.ofNat missing)] else []) ++
        .event targetId record :: announcedStream targetId (some record.sequence) rest

theorem announcedStream_append (targetId : String) (previous : Option UInt64)
    (events more : List EventRecord) :
    announcedStream targetId previous (events ++ more) =
      announcedStream targetId previous events ++
        announcedStream targetId ((events.map (·.sequence)).getLast?.or previous) more := by
  induction events generalizing previous with
  | nil => rfl
  | cons first rest ih =>
      rw [List.cons_append, announcedStream, announcedStream, ih, List.append_assoc,
        List.cons_append]
      congr 4
      cases hrest : (rest.map (·.sequence)).getLast? with
      | none =>
          rw [List.getLast?_eq_none_iff, List.map_eq_nil_iff] at hrest
          rw [hrest]
          rfl
      | some last =>
          rw [List.map_cons, List.getLast?_cons, hrest]
          rfl

theorem forwardedEvents_append (targetId : String) (first second : List ServerMessage) :
    forwardedEvents targetId (first ++ second) =
      forwardedEvents targetId first ++ forwardedEvents targetId second :=
  List.filterMap_append

theorem reportedCounts_append (targetId : String) (first second : List ServerMessage) :
    reportedCounts targetId (first ++ second) =
      reportedCounts targetId first ++ reportedCounts targetId second :=
  List.filterMap_append

theorem forwardedEvents_delivers (targetId : String) (messages : List ServerMessage) :
    forwardedEvents targetId (messages.filter (ServerMessage.delivers targetId)) =
      forwardedEvents targetId messages := by
  unfold forwardedEvents
  rw [List.filterMap_filter]
  congr 1
  funext message
  cases message with
  | event eventId record =>
      simp [ServerMessage.delivers, ServerMessage.names, ServerMessage.targetId]
  | _ => simp

theorem reportedCounts_delivers (targetId : String) (messages : List ServerMessage) :
    reportedCounts targetId (messages.filter (ServerMessage.delivers targetId)) =
      reportedCounts targetId messages := by
  unfold reportedCounts
  rw [List.filterMap_filter]
  congr 1
  funext message
  cases message with
  | droppedCount countId count =>
      simp [ServerMessage.delivers, ServerMessage.names, ServerMessage.targetId]
  | _ => simp

theorem announcedStream_singleton (targetId : String) (previous : Option UInt64)
    (record : EventRecord) :
    forwardedEvents targetId (announcedStream targetId previous [record]) = [record] := by
  simp only [announcedStream, forwardedEvents]
  split <;> simp

/-- The numbers reported are the holes of the sequence. -/
theorem reportedCounts_announcedStream (targetId : String) (previous : UInt64)
    (events : List EventRecord) :
    (reportedCounts targetId (announcedStream targetId (some previous) events)).map
        UInt64.toNat =
      holes (previous.toNat :: events.map (·.sequence.toNat)) := by
  induction events generalizing previous with
  | nil => rfl
  | cons record rest ih =>
      have hgaps : gaps (previous.toNat :: (record :: rest).map (·.sequence.toNat)) =
          missingBefore (some previous) record.sequence ::
            gaps (record.sequence.toNat :: rest.map (·.sequence.toNat)) := rfl
      have hcount : (UInt64.ofNat (missingBefore (some previous) record.sequence)).toNat =
          missingBefore (some previous) record.sequence :=
        UInt64.toNat_ofNat_of_lt' (Nat.lt_of_le_of_lt
          ((Nat.sub_le _ _).trans (Nat.sub_le _ _)) record.sequence.toNat_lt)
      have hevent : reportedCounts targetId (.event targetId record ::
          announcedStream targetId (some record.sequence) rest) =
            reportedCounts targetId (announcedStream targetId (some record.sequence) rest) := rfl
      rw [announcedStream, reportedCounts_append, hevent, List.map_append, ih, holes, holes, hgaps]
      by_cases hpositive : 0 < missingBefore (some previous) record.sequence
      · rw [if_pos hpositive, List.filter_cons_of_pos (by simpa using hpositive)]
        simp [reportedCounts, hcount]
      · rw [if_neg hpositive, List.filter_cons_of_neg (by simpa using hpositive)]
        rfl

/-- Below a later sequence, `previous + 1` does not overflow. -/
theorem next_toNat {previous sequence : UInt64} (h : previous < sequence) :
    (previous + 1).toNat = previous.toNat + 1 := by
  have hlt := UInt64.lt_iff_toNat_lt.mp h
  have hbound := sequence.toNat_lt
  rw [UInt64.toNat_add]
  exact Nat.mod_eq_of_lt (by simp; omega)

/-- Past a gap, neither subtraction underflows. -/
theorem missing_toNat {previous sequence : UInt64} (h : previous < sequence)
    (hgap : sequence > previous + 1) :
    (sequence - previous - 1).toNat = sequence.toNat - previous.toNat - 1 := by
  have hlt := UInt64.lt_iff_toNat_lt.mp h
  have hless := UInt64.lt_iff_toNat_lt.mp hgap
  rw [next_toNat h] at hless
  have hfirst : (sequence - previous).toNat = sequence.toNat - previous.toNat :=
    UInt64.toNat_sub_of_le _ _ (UInt64.le_iff_toNat_le.mpr hlt.le)
  rw [UInt64.toNat_sub_of_le, hfirst]
  · rfl
  · rw [UInt64.le_iff_toNat_le, hfirst]
    change 1 ≤ _
    omega

/-- The notice before an event that is not stale counts what is missing. -/
theorem gapNotice_eq {previous : Option UInt64} {record : EventRecord}
    (hfresh : ∀ last ∈ previous, last < record.sequence) :
    StreamOp.gapNotice previous record =
      if 0 < missingBefore previous record.sequence then
        [.droppedCount record.targetId (UInt64.ofNat (missingBefore previous record.sequence))]
      else [] := by
  cases previous with
  | none => rfl
  | some previous =>
      have hlt := hfresh previous rfl
      have hnext := next_toNat hlt
      have hmissing : missingBefore (some previous) record.sequence =
          record.sequence.toNat - previous.toNat - 1 := rfl
      rw [StreamOp.gapNotice]
      by_cases hgap : record.sequence > previous + 1
      · have hless := UInt64.lt_iff_toNat_lt.mp hgap
        have hpositive : 0 < missingBefore (some previous) record.sequence := by omega
        rw [if_pos hgap, if_pos hpositive, hmissing, ← missing_toNat hlt hgap,
          UInt64.ofNat_toNat]
      · have hless := mt UInt64.lt_iff_toNat_lt.mpr hgap
        have hzero : ¬0 < missingBefore (some previous) record.sequence := by omega
        rw [if_neg hgap, if_neg hzero]

/-- Addition that fails where a `u64` overflows. -/
def addChecked (first second : UInt64) : Option UInt64 :=
  if first.toNat + second.toNat < UInt64.size then some (first + second) else none

/-- Subtraction that fails where a `u64` underflows. -/
def subChecked (first second : UInt64) : Option UInt64 :=
  if second ≤ first then some (first - second) else none

namespace DashboardSession

/-- `accept_event` with its arithmetic checked; `none` is an overflow. -/
def acceptEventChecked (session : DashboardSession) (event : EventRecord) :
    Option (RelayResult (List ServerMessage) × DashboardSession) :=
  if event.targetId ∉ session.boundTargets then some (.ok [], session)
  else
    let accept (gap : List ServerMessage) :=
      let messages := gap ++ [.event event.targetId event]
      (.ok messages, { session with
        lastSequences := session.lastSequences.insert event.targetId event.sequence
        outbox := session.outbox ++ messages })
    match session.lastSequences.lookup event.targetId with
    | none => some (accept [])
    | some previous =>
      if event.sequence ≤ previous then
        some (.ok [.error (sequenceNotMonotonic event.targetId)], session)
      else
        (addChecked previous 1).bind fun next =>
          if event.sequence > next then
            (subChecked event.sequence previous).bind fun difference =>
              (subChecked difference 1).map fun count =>
                accept [.droppedCount event.targetId count]
          else some (accept [])

/-- No addition or subtraction of `accept_event` overflows. -/
theorem acceptEventChecked_eq (session : DashboardSession) (event : EventRecord) :
    session.acceptEventChecked event = some (session.acceptEvent event) := by
  unfold acceptEventChecked acceptEvent
  split
  · rfl
  dsimp only
  cases hprevious : session.lastSequences.lookup event.targetId with
  | none => rfl
  | some previous =>
      dsimp only
      by_cases hstale : event.sequence ≤ previous
      · rw [if_pos hstale, if_pos hstale]
        rfl
      have hlt : previous < event.sequence := UInt64.not_le.mp hstale
      have hnext := next_toNat hlt
      have hadd : addChecked previous 1 = some (previous + 1) := by
        refine if_pos ?_
        change previous.toNat + 1 < _
        rw [← hnext]
        exact (previous + 1).toNat_lt
      rw [if_neg hstale, if_neg hstale, hadd, Option.bind_some]
      by_cases hgap : event.sequence > previous + 1
      · have hless := UInt64.lt_iff_toNat_lt.mp hgap
        have hfirst : subChecked event.sequence previous = some (event.sequence - previous) :=
          if_pos (UInt64.le_of_lt hlt)
        have hdifference : (event.sequence - previous).toNat =
            event.sequence.toNat - previous.toNat :=
          UInt64.toNat_sub_of_le _ _ (UInt64.le_of_lt hlt)
        have hsecond : subChecked (event.sequence - previous) 1 =
            some (event.sequence - previous - 1) := by
          refine if_pos ?_
          rw [UInt64.le_iff_toNat_le, hdifference]
          change 1 ≤ _
          omega
        rw [if_pos hgap, if_pos hgap, hfirst, Option.bind_some, hsecond]
        rfl
      · rw [if_neg hgap, if_neg hgap]

/-- A run of events; what it emits are the messages returned. -/
def eventMachine : Machine DashboardSession EventRecord ServerMessage where
  step session event :=
    ((session.acceptEvent event).2, returnedMessages (session.acceptEvent event).1)

theorem eventMachine_step (session : DashboardSession) (record : EventRecord) :
    eventMachine.step session record = streamMachine.step session (.event record) := rfl

/-- What one event does for a bound target: nothing, or it is sent on. -/
inductive Forwards (targetId : String) (session : DashboardSession) (record : EventRecord)
    (next : DashboardSession) (own : List ServerMessage) : Prop where
  | silent (hview : next.view targetId = session.view targetId) (hown : own = [])
      (hstale : record.targetId = targetId →
        ∃ last ∈ (session.view targetId).last, record.sequence ≤ last)
  | forwarded (htarget : record.targetId = targetId)
      (hfresh : ∀ last ∈ (session.view targetId).last, last < record.sequence)
      (hview : next.view targetId = ⟨true, some record.sequence⟩)
      (hown : own = announcedStream targetId (session.view targetId).last [record])

theorem stale_eq_false_iff {previous : Option UInt64} {record : EventRecord} :
    StreamOp.stale previous (.event record) = false ↔
      ∀ last ∈ previous, last < record.sequence := by
  cases previous with
  | none => simp [StreamOp.stale]
  | some previous => simp [StreamOp.stale]

/-- A fresh event is sent on as the stream announces it. -/
theorem messages_eq_announced {previous : Option UInt64} {record : EventRecord}
    (hfresh : ∀ last ∈ previous, last < record.sequence) :
    StreamOp.messages previous (.event record) =
      announcedStream record.targetId previous [record] := by
  rw [StreamOp.messages, gapNotice_eq hfresh]
  rfl

theorem announced_delivers (targetId : String) (previous : Option UInt64)
    (record : EventRecord) :
    ∀ message ∈ announcedStream targetId previous [record],
      message.delivers targetId = true ∧ message.names targetId = true := by
  intro message hmem
  rcases List.mem_append.mp hmem with hmem | hmem
  · split at hmem
    · rw [List.mem_singleton.mp hmem]
      simp [ServerMessage.delivers, ServerMessage.names, ServerMessage.targetId]
    · cases hmem
  · rw [announcedStream, List.mem_singleton] at hmem
    rw [hmem]
    simp [ServerMessage.delivers, ServerMessage.names, ServerMessage.targetId]

theorem filter_delivers_other {messages : List ServerMessage} {other targetId : String}
    (h : ∀ message ∈ messages, message.targetId = some other) (hne : other ≠ targetId) :
    messages.filter (ServerMessage.delivers targetId) = [] := by
  rw [List.filter_eq_nil_iff]
  intro message hmem
  have hnamed := h message hmem
  cases message <;> simp_all [ServerMessage.delivers, ServerMessage.names]

theorem event_forwards {session : DashboardSession} {targetId : String}
    (hbound : (session.view targetId).bound = true) (record : EventRecord) :
    let step := eventMachine.step session record
    Forwards targetId session record step.1 (step.2.filter (ServerMessage.delivers targetId)) ∧
      ∃ added, step.1.outbox = session.outbox ++ added ∧
        added.filter (ServerMessage.names targetId) =
          step.2.filter (ServerMessage.delivers targetId) := by
  intro step
  have hreturned : step.2 = _ := streamMachine_returned session (.event record)
  have houtbox : step.1.outbox = _ := streamMachine_outbox session (.event record)
  have hview := streamMachine_view session (.event record) targetId
  change step.1.view targetId = if targetId = record.targetId then _ else _ at hview
  rw [hreturned]
  by_cases htarget : record.targetId = targetId
  · subst htarget
    rw [if_pos rfl] at hview
    cases hstale : StreamOp.stale (session.view record.targetId).last (.event record) with
    | true =>
        obtain ⟨hqueued, hrejected, hadvance⟩ := StreamOp.queued_stale hbound hstale
        rw [hadvance] at hview
        change step.1.outbox = _ ++ StreamOp.queued (session.view record.targetId) _ at houtbox
        rw [hqueued] at houtbox
        have hnone : (StreamOp.returned (session.view record.targetId) (.event record)).filter
            (ServerMessage.delivers record.targetId) = [] :=
          congrArg (List.filter _) hrejected
        refine ⟨.silent hview hnone fun _ => ?_, [], houtbox, hnone.symm⟩
        obtain ⟨last, hlast, hle⟩ := (Option.any_eq_true _ _).mp hstale
        exact ⟨last, hlast, of_decide_eq_true hle⟩
    | false =>
        have hfresh := stale_eq_false_iff.mp hstale
        obtain ⟨hqueued, hsent, hadvance⟩ := StreamOp.queued_fresh hbound hstale
        rw [messages_eq_announced hfresh] at hqueued hsent
        have hnext : step.1.view record.targetId = ⟨true, some record.sequence⟩ := by
          rw [hview, hadvance, hbound]
          rfl
        change step.1.outbox = _ ++ StreamOp.queued (session.view record.targetId) _ at houtbox
        rw [hqueued] at houtbox
        dsimp only [StreamOp.targetId]
        rw [hsent]
        have hall := announced_delivers record.targetId (session.view record.targetId).last record
        have hown := List.filter_eq_self.mpr fun message hmem => (hall message hmem).1
        have hnamed := List.filter_eq_self.mpr fun message hmem => (hall message hmem).2
        exact ⟨.forwarded rfl hfresh hnext hown, _, houtbox, hnamed.trans hown.symm⟩
  · rw [if_neg (Ne.symm htarget)] at hview
    have hnone := filter_delivers_other (StreamOp.returned_targetId (session.view record.targetId)
      (.event record)) htarget
    have hnone' := ServerMessage.filter_names_other (StreamOp.queued_targetId
      (session.view record.targetId) (.event record)) htarget
    refine ⟨.silent hview hnone fun heq => absurd heq htarget, _, houtbox, ?_⟩
    exact hnone'.trans hnone.symm

/-- The messages returned so far account for the sequence recorded for the target,
and the outbox has grown by the same stream. -/
structure Accounts (initial : DashboardSession) (targetId : String)
    (session : DashboardSession) (past : List ServerMessage) : Prop where
  view : session.view targetId = ⟨true, (forwardedSequences targetId past).getLast?⟩
  increasing : (forwardedSequences targetId past).Pairwise (· < ·)
  announced : past.filter (ServerMessage.delivers targetId) =
    announcedStream targetId none (forwardedEvents targetId past)
  queued : ∃ appended, session.outbox = initial.outbox ++ appended ∧
    appended.filter (ServerMessage.names targetId) =
      announcedStream targetId none (forwardedEvents targetId past)

variable {initial session : DashboardSession} {targetId : String} {past : List ServerMessage}

/-- New messages that announce some later events keep the accounts. -/
theorem Accounts.extend (h : Accounts initial targetId session past) {next : DashboardSession}
    {new added : List ServerMessage} (more : List EventRecord)
    (hview : next.view targetId =
      ⟨true, (forwardedSequences targetId past ++ more.map (·.sequence)).getLast?⟩)
    (hincreasing : (forwardedSequences targetId past ++ more.map (·.sequence)).Pairwise (· < ·))
    (hmore : forwardedEvents targetId new = more)
    (hown : new.filter (ServerMessage.delivers targetId) =
      announcedStream targetId (forwardedSequences targetId past).getLast? more)
    (houtbox : next.outbox = session.outbox ++ added)
    (hadded : added.filter (ServerMessage.names targetId) =
      new.filter (ServerMessage.delivers targetId)) :
    Accounts initial targetId next (past ++ new) := by
  obtain ⟨appended, hqueue, hqueued⟩ := h.queued
  have hevents : forwardedEvents targetId (past ++ new) =
      forwardedEvents targetId past ++ more := by
    rw [forwardedEvents_append, hmore]
  have hsequences : forwardedSequences targetId (past ++ new) =
      forwardedSequences targetId past ++ more.map (·.sequence) := by
    unfold forwardedSequences
    rw [hevents, List.map_append]
  have hstream : announcedStream targetId none (forwardedEvents targetId (past ++ new)) =
      announcedStream targetId none (forwardedEvents targetId past) ++
        announcedStream targetId (forwardedSequences targetId past).getLast? more := by
    rw [hevents, announcedStream_append, Option.or_none]
    rfl
  constructor
  · rw [hview, hsequences]
  · rw [hsequences]
    exact hincreasing
  · rw [List.filter_append, h.announced, hown, hstream]
  · refine ⟨appended ++ added, ?_, ?_⟩
    · rw [houtbox, hqueue, List.append_assoc]
    · rw [List.filter_append, hqueued, hadded, hown, hstream]

theorem Accounts.step (h : Accounts initial targetId session past) (record : EventRecord) :
    Accounts initial targetId (eventMachine.step session record).1
      (past ++ (eventMachine.step session record).2) := by
  have hbound : (session.view targetId).bound = true := by rw [h.view]
  obtain ⟨hforwards, added, houtbox, hadded⟩ := event_forwards hbound record
  generalize eventMachine.step session record = step at hforwards houtbox hadded ⊢
  have hlast : (session.view targetId).last = (forwardedSequences targetId past).getLast? := by
    rw [h.view]
  have hnew := forwardedEvents_delivers targetId step.2
  cases hforwards with
  | silent hview hown hstale =>
      rw [hown] at hnew
      refine h.extend [] ?_ ?_ hnew.symm hown houtbox hadded
      · rw [hview, h.view, List.map_nil, List.append_nil]
      · rw [List.map_nil, List.append_nil]
        exact h.increasing
  | forwarded htarget hfresh hview hown =>
      rw [hlast] at hfresh hown
      rw [hown, announcedStream_singleton] at hnew
      refine h.extend [record] ?_ ?_ hnew.symm hown houtbox hadded
      · rw [hview, List.map_singleton, List.getLast?_concat]
      · rw [List.pairwise_append]
        refine ⟨h.increasing, List.pairwise_singleton _ _, fun sequence hmem other hother => ?_⟩
        rw [List.mem_singleton.mp hother]
        exact (lt_iff_getLast?_lt h.increasing _).mpr hfresh sequence hmem

theorem accounts_run (hbound : targetId ∈ session.boundTargets)
    (hnew : session.lastSequences.lookup targetId = none) (events : List EventRecord) :
    Accounts session targetId (eventMachine.final session events)
      (eventMachine.history session events) := by
  have hstart : Accounts session targetId session [] := by
    constructor
    · rw [view, hnew, decide_eq_true hbound]
      rfl
    · exact List.Pairwise.nil
    · rfl
    · exact ⟨[], (List.append_nil _).symm, rfl⟩
  exact eventMachine.invariant_history (Accounts session targetId)
    (fun _ _ record h => h.step record) hstart events

end DashboardSession

open DashboardSession (eventMachine)

/-- The accounts of one target over a run of events for any targets. -/
structure GapAccounting (session : DashboardSession) (targetId : String)
    (events : List EventRecord) (returned : List ServerMessage) (final : DashboardSession) :
    Prop where
  increasing : (forwardedSequences targetId returned).Pairwise (· < ·)
  forwarded_iff : ∀ before record after, events = before ++ record :: after →
    record.targetId = targetId →
      (.event targetId record ∈ (eventMachine.step (eventMachine.final session before) record).2 ↔
        ∀ sequence ∈ forwardedSequences targetId (eventMachine.history session before),
          sequence < record.sequence)
  adjacent : ∀ before record after, events = before ++ record :: after →
    .event targetId record ∈ (eventMachine.step (eventMachine.final session before) record).2 →
      (eventMachine.step (eventMachine.final session before) record).2 =
          announcedStream targetId (forwardedSequences targetId
            (eventMachine.history session before)).getLast? [record] ∧
        (eventMachine.step (eventMachine.final session before) record).1.outbox =
          (eventMachine.final session before).outbox ++
            (eventMachine.step (eventMachine.final session before) record).2
  announced : returned.filter (ServerMessage.delivers targetId) =
    announcedStream targetId none (forwardedEvents targetId returned)
  queued : ∃ appended, final.outbox = session.outbox ++ appended ∧
    appended.filter (ServerMessage.names targetId) =
      announcedStream targetId none (forwardedEvents targetId returned)
  positive : ∀ count ∈ reportedCounts targetId returned, 0 < count
  total : ∀ first ∈ (forwardedSequences targetId returned).head?,
    ∀ last ∈ (forwardedSequences targetId returned).getLast?,
      last.toNat - first.toNat + 1 = (forwardedSequences targetId returned).length +
        ((reportedCounts targetId returned).map UInt64.toNat).sum
  lastSequence : final.lastSequences.lookup targetId =
    (forwardedSequences targetId returned).getLast?
  noOverflow : ∀ before record after, events = before ++ record :: after →
    (eventMachine.final session before).acceptEventChecked record =
      some ((eventMachine.final session before).acceptEvent record)

namespace DashboardSession

variable {initial session : DashboardSession} {targetId : String} {past : List ServerMessage}

/-- The counts reported are the holes of the sequences forwarded. -/
theorem Accounts.counts (h : Accounts initial targetId session past) :
    (reportedCounts targetId past).map UInt64.toNat =
      holes ((forwardedSequences targetId past).map UInt64.toNat) := by
  rw [← reportedCounts_delivers, h.announced, forwardedSequences]
  cases forwardedEvents targetId past with
  | nil => rfl
  | cons first rest =>
      have hfirst : reportedCounts targetId (announcedStream targetId none (first :: rest)) =
          reportedCounts targetId (announcedStream targetId (some first.sequence) rest) := rfl
      rw [hfirst, reportedCounts_announcedStream, List.map_map]
      rfl

theorem Accounts.positive (h : Accounts initial targetId session past) :
    ∀ count ∈ reportedCounts targetId past, 0 < count := by
  intro count hmem
  have hcount := List.mem_map_of_mem (f := UInt64.toNat) hmem
  rw [h.counts, holes, List.mem_filter, decide_eq_true_iff] at hcount
  exact UInt64.lt_iff_toNat_lt.mpr hcount.2

theorem Accounts.total (h : Accounts initial targetId session past) :
    ∀ first ∈ (forwardedSequences targetId past).head?,
      ∀ last ∈ (forwardedSequences targetId past).getLast?,
        last.toNat - first.toNat + 1 = (forwardedSequences targetId past).length +
          ((reportedCounts targetId past).map UInt64.toNat).sum := by
  rw [h.counts, holes, sum_filter_pos]
  have hincreasing := h.increasing
  generalize forwardedSequences targetId past = sequences at hincreasing ⊢
  intro first hfirst last hlast
  cases sequences with
  | nil => cases hfirst
  | cons head rest =>
      cases hfirst
      have hnumbers : ((first :: rest).map UInt64.toNat).Pairwise (· < ·) :=
        List.pairwise_map.mpr (hincreasing.imp UInt64.lt_iff_toNat_lt.mp)
      have hend : ((first :: rest).map UInt64.toNat).getLast? = some last.toNat := by
        rw [List.getLast?_map, hlast]
        rfl
      have hspan := span_eq hnumbers hend
      rw [List.length_cons, List.length_map] at hspan
      rw [List.map_cons, List.length_cons]
      omega

/-- An event of the target is forwarded when it is later than all forwarded before. -/
theorem Accounts.forwarded_iff (h : Accounts initial targetId session past)
    {record : EventRecord} (htarget : record.targetId = targetId) :
    .event targetId record ∈ (eventMachine.step session record).2 ↔
      ∀ sequence ∈ forwardedSequences targetId past, sequence < record.sequence := by
  have hbound : (session.view targetId).bound = true := by rw [h.view]
  have hlast : (session.view targetId).last = (forwardedSequences targetId past).getLast? := by
    rw [h.view]
  have hdelivers : (ServerMessage.event targetId record).delivers targetId = true := by
    simp [ServerMessage.delivers, ServerMessage.names, ServerMessage.targetId]
  obtain ⟨hforwards, -⟩ := event_forwards hbound record
  have hmem : .event targetId record ∈ (eventMachine.step session record).2 ↔
      .event targetId record ∈ (eventMachine.step session record).2.filter
        (ServerMessage.delivers targetId) := by
    rw [List.mem_filter]
    exact (and_iff_left hdelivers).symm
  rw [hmem, lt_iff_getLast?_lt h.increasing, ← hlast]
  cases hforwards with
  | silent hview hown hstale =>
      rw [hown]
      obtain ⟨last, hmem, hle⟩ := hstale htarget
      exact iff_of_false List.not_mem_nil fun hall =>
        UInt64.not_le.mpr (hall last hmem) hle
  | forwarded _ hfresh hview hown =>
      rw [hown]
      refine iff_of_true ?_ hfresh
      simp [announcedStream]

/-- A step that forwards an event does nothing else: the notice, then the event. -/
theorem Accounts.adjacent (h : Accounts initial targetId session past) {record : EventRecord}
    (hmem : .event targetId record ∈ (eventMachine.step session record).2) :
    (eventMachine.step session record).2 =
        announcedStream targetId (forwardedSequences targetId past).getLast? [record] ∧
      (eventMachine.step session record).1.outbox =
        session.outbox ++ (eventMachine.step session record).2 := by
  have hbound : (session.view targetId).bound = true := by rw [h.view]
  have hlast : (session.view targetId).last = (forwardedSequences targetId past).getLast? := by
    rw [h.view]
  rw [eventMachine_step] at hmem ⊢
  rw [streamMachine_returned] at hmem
  have hnamed := StreamOp.returned_targetId _ _ _ hmem
  have htarget : targetId = record.targetId := Option.some.inj hnamed
  subst htarget
  rw [streamMachine_returned, streamMachine_outbox, ← hlast]
  change StreamOp.returned (session.view record.targetId) _ = _ ∧
    _ ++ StreamOp.queued (session.view record.targetId) _ =
      _ ++ StreamOp.returned (session.view record.targetId) _
  change _ ∈ StreamOp.returned (session.view record.targetId) _ at hmem
  cases hstale : StreamOp.stale (session.view record.targetId).last (.event record) with
  | true =>
      rw [(StreamOp.queued_stale hbound hstale).2.1] at hmem
      cases List.mem_singleton.mp hmem
  | false =>
      obtain ⟨hqueued, hsent, -⟩ := StreamOp.queued_fresh hbound hstale
      rw [hqueued, hsent, messages_eq_announced (stale_eq_false_iff.mp hstale)]
      exact ⟨rfl, rfl⟩

end DashboardSession

/-- For a bound target without a recorded sequence, any events of any targets are
accounted for: what is forwarded increases, and with the counts reported it fills
its span, without any overflow. -/
theorem event_gaps_accounted {session : DashboardSession} {targetId : String}
    (hbound : targetId ∈ session.boundTargets)
    (hnew : session.lastSequences.lookup targetId = none) (events : List EventRecord) :
    GapAccounting session targetId events (eventMachine.history session events)
      (eventMachine.final session events) := by
  have haccounts := DashboardSession.accounts_run hbound hnew events
  constructor
  · exact haccounts.increasing
  · intro before record after _ htarget
    exact (DashboardSession.accounts_run hbound hnew before).forwarded_iff htarget
  · intro before record after _ hmem
    exact (DashboardSession.accounts_run hbound hnew before).adjacent hmem
  · exact haccounts.announced
  · exact haccounts.queued
  · exact haccounts.positive
  · exact haccounts.total
  · exact congrArg TargetView.last haccounts.view
  · intro before record after _
    exact DashboardSession.acceptEventChecked_eq _ record

/-- A gap up to the last number, another target, and an event that comes late. -/
def sampleEvents : List EventRecord :=
  [sampleEvent "payments-worker-a" 18446744073709551612, sampleEvent "payments-worker-b" 4,
    sampleEvent "payments-worker-a" 18446744073709551615, sampleEvent "payments-worker-a" 7]

theorem event_gaps_accounted_sample :
    GapAccounting sampleBoundSession "payments-worker-a" sampleEvents
        (eventMachine.history sampleBoundSession sampleEvents)
        (eventMachine.final sampleBoundSession sampleEvents) ∧
      forwardedSequences "payments-worker-a"
        (eventMachine.history sampleBoundSession sampleEvents) =
          [18446744073709551612, 18446744073709551615] := by
  refine ⟨event_gaps_accounted (by decide) rfl sampleEvents, ?_⟩
  decide +kernel

end SupervisorRelay
