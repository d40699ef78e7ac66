import SupervisorRelay.Session.Streams
import SupervisorRelay.Source.Relay

/-! Fan-outs and drains. Every fan-out reports its messages twice, in its return
value and in the outbox that is sent; the two differ on a stale event only. -/
namespace SupervisorRelay

inductive FanOutOp where
  | fanOutEvent (targetId : String) (sequence : UInt64) (eventType severity : String)
      (occurredAt : OffsetDateTime)
  | fanOutLog (targetId : String) (sequence : Option UInt64) (severity message : String)
      (occurredAt : OffsetDateTime)
  | fanOutStateDelta (targetId : String) (delta : Json)
  | fanOutDroppedCount (targetId : String) (droppedEventCount : UInt64)
  | reconnectTimeout (targetId : String) (now : OffsetDateTime)
  | drainOutbox

/-- The two ways messages leave a session. -/
inductive FanOutEvent where
  | returned (messages : List ServerMessage)
  | drained (messages : List ServerMessage)

structure FanOutWorld where
  session : DashboardSession
  registry : TargetProcessRegistry

namespace FanOutWorld

def fanOut (world : FanOutWorld) (call : RelayResult (List ServerMessage) × DashboardSession) :
    FanOutWorld × List FanOutEvent :=
  ({ world with session := call.2 }, [.returned (DashboardSession.returnedMessages call.1)])

def apply (world : FanOutWorld) : FanOutOp → FanOutWorld × List FanOutEvent
  | .fanOutEvent targetId sequence eventType severity occurredAt =>
      world.fanOut
        (RelayHub.fanOutEvent world.session targetId sequence eventType severity occurredAt)
  | .fanOutLog targetId sequence severity message occurredAt =>
      world.fanOut
        (RelayHub.fanOutLog world.session targetId sequence severity message occurredAt)
  | .fanOutStateDelta targetId delta =>
      world.fanOut (RelayHub.fanOutStateDelta world.session targetId delta)
  | .fanOutDroppedCount targetId droppedEventCount =>
      world.fanOut (RelayHub.fanOutDroppedCount world.session targetId droppedEventCount)
  | .reconnectTimeout targetId now =>
      let call := SupervisorRelay.reconnectTimeout world.session world.registry targetId now
      { world with registry := call.2.2 }.fanOut (call.1, call.2.1)
  | .drainOutbox =>
      let call := world.session.drainOutbox
      ({ world with session := call.2 }, [.drained call.1])

def machine : Machine FanOutWorld FanOutOp FanOutEvent :=
  ⟨apply⟩

end FanOutWorld

/-- The concatenation of the vectors the fan-outs returned. -/
def returnedBy (history : List FanOutEvent) : List ServerMessage :=
  history.flatMap fun
    | .returned messages => messages
    | .drained _ => []

/-- The concatenation of the drained batches. -/
def drainedBy (history : List FanOutEvent) : List ServerMessage :=
  history.flatMap fun
    | .returned _ => []
    | .drained messages => messages

theorem returnedBy_append (first second : List FanOutEvent) :
    returnedBy (first ++ second) = returnedBy first ++ returnedBy second :=
  List.flatMap_append

theorem drainedBy_append (first second : List FanOutEvent) :
    drainedBy (first ++ second) = drainedBy first ++ drainedBy second :=
  List.flatMap_append

/-- The step delivers no event of a bound target at or below the sequence that the
session has recorded for that target. -/
def FreshEvent (world : FanOutWorld) : FanOutOp → Prop
  | .fanOutEvent targetId sequence _ _ _ => targetId ∈ world.session.boundTargets →
      ∀ previous, world.session.lastSequences.lookup targetId = some previous →
        previous < sequence
  | _ => True

namespace FanOutOp

/-- The delivery a fan-out makes. -/
def delivery : FanOutOp → Option StreamOp
  | fanOutEvent targetId sequence eventType severity occurredAt =>
      some (.event ⟨targetId, sequence, eventType, severity, occurredAt⟩)
  | fanOutLog targetId sequence severity message occurredAt =>
      some (.log ⟨targetId, sequence, severity, message, occurredAt⟩)
  | fanOutStateDelta targetId delta => some (.stateDelta targetId delta)
  | fanOutDroppedCount targetId droppedEventCount => some (.droppedCount targetId droppedEventCount)
  | reconnectTimeout targetId _ => some (.connectionState targetId .unavailable)
  | drainOutbox => none

end FanOutOp

namespace FanOutWorld

variable {world : FanOutWorld} {op : FanOutOp}

theorem apply_delivery (world : FanOutWorld) {delivered : StreamOp}
    (h : op.delivery = some delivered) :
    (world.apply op).1.session = (world.session.accept delivered).2 ∧
      (world.apply op).2 =
        [.returned (delivered.returned (world.session.view delivered.targetId))] := by
  have hreturned := DashboardSession.streamMachine_returned world.session delivered
  rw [← hreturned]
  cases op <;> cases h <;> exact ⟨rfl, rfl⟩

theorem freshEvent_iff {delivered : StreamOp} (h : op.delivery = some delivered) :
    FreshEvent world op ↔
      ((world.session.view delivered.targetId).bound = true →
        delivered.stale (world.session.view delivered.targetId).last = false) := by
  cases op with
  | fanOutEvent targetId sequence eventType severity occurredAt =>
      cases h
      dsimp only [FreshEvent, StreamOp.targetId, DashboardSession.view]
      rw [decide_eq_true_iff]
      refine imp_congr_right fun _ => ?_
      cases hprevious : world.session.lastSequences.lookup targetId with
      | none => simp [StreamOp.stale]
      | some previous => simp [StreamOp.stale]
  | drainOutbox => cases h
  | _ =>
      cases h
      simp [FreshEvent, StreamOp.stale]

/-- A step that is not stale takes nothing away and adds what it returns. -/
theorem apply_fresh (h : FreshEvent world op) :
    drainedBy (world.apply op).2 ++ (world.apply op).1.session.outbox =
      world.session.outbox ++ returnedBy (world.apply op).2 := by
  cases hdelivery : op.delivery with
  | none =>
      cases op with
      | drainOutbox =>
          simp [apply, drainedBy, returnedBy, DashboardSession.drainOutbox]
      | _ => cases hdelivery
  | some delivered =>
      obtain ⟨hsession, hevents⟩ := apply_delivery world hdelivery
      rw [hsession, hevents, (DashboardSession.accept_spec world.session delivered).outbox,
        StreamOp.queued_eq_returned ((freshEvent_iff hdelivery).mp h)]
      simp [drainedBy, returnedBy]

/-- A stale event is returned and not queued. -/
theorem apply_stale (h : ¬FreshEvent world op) :
    drainedBy (world.apply op).2 = [] ∧
      (world.apply op).1.session.outbox = world.session.outbox ∧
      returnedBy (world.apply op).2 ≠ [] := by
  cases hdelivery : op.delivery with
  | none =>
      cases op with
      | drainOutbox => exact absurd trivial h
      | _ => cases hdelivery
  | some delivered =>
      rw [freshEvent_iff hdelivery, Classical.not_imp, Bool.not_eq_false] at h
      obtain ⟨hqueued, hreturned, -⟩ := StreamOp.queued_stale h.1 h.2
      obtain ⟨hsession, hevents⟩ := apply_delivery world hdelivery
      rw [hsession, hevents, (DashboardSession.accept_spec world.session delivered).outbox,
        hqueued]
      refine ⟨rfl, List.append_nil _, ?_⟩
      rw [hreturned]
      simp [returnedBy]

/-- Nothing is sent that no fan-out returned. -/
theorem drained_le_returned (world : FanOutWorld) (ops : List FanOutOp) :
    (drainedBy (machine.history world ops) ++ (machine.final world ops).session.outbox).length ≤
      (world.session.outbox ++ returnedBy (machine.history world ops)).length := by
  induction ops generalizing world with
  | nil => simp [drainedBy, returnedBy]
  | cons op rest ih =>
      have hrest := ih (world.apply op).1
      rw [Machine.history_cons, Machine.final_cons, drainedBy_append, returnedBy_append]
      dsimp only [machine] at hrest ⊢
      by_cases hfresh : FreshEvent world op
      · have hstep := congrArg List.length (apply_fresh hfresh)
        simp only [List.length_append] at hstep hrest ⊢
        omega
      · obtain ⟨hdrained, houtbox, -⟩ := apply_stale hfresh
        rw [houtbox] at hrest
        rw [hdrained]
        simp only [List.length_append, List.length_nil] at hrest ⊢
        omega

end FanOutWorld

/-- Drained batches and what is still queued are what was queued at first and all
that the fan-outs returned, in order, exactly when no event delivered is stale. -/
theorem fan_out_lossless_iff (world : FanOutWorld) (ops : List FanOutOp) :
    drainedBy (FanOutWorld.machine.history world ops) ++
          (FanOutWorld.machine.final world ops).session.outbox =
        world.session.outbox ++ returnedBy (FanOutWorld.machine.history world ops) ↔
      FanOutWorld.machine.Along FreshEvent world ops := by
  induction ops generalizing world with
  | nil => simp [drainedBy, returnedBy, Machine.Along]
  | cons op rest ih =>
      have hrest := ih (world.apply op).1
      have hle := FanOutWorld.drained_le_returned (world.apply op).1 rest
      rw [Machine.history_cons, Machine.final_cons, drainedBy_append, returnedBy_append]
      dsimp only [FanOutWorld.machine, Machine.Along] at hrest hle ⊢
      rw [← hrest, List.append_assoc, ← List.append_assoc world.session.outbox]
      by_cases hfresh : FreshEvent world op
      · rw [← FanOutWorld.apply_fresh hfresh, List.append_assoc _ _ (returnedBy _),
          List.append_cancel_left_eq]
        exact (and_iff_right hfresh).symm
      · -- the rejection makes what was returned longer than what can ever be sent
        obtain ⟨hdrained, houtbox, hreturned⟩ := FanOutWorld.apply_stale hfresh
        refine iff_of_false (fun hequal => ?_) (fun h => hfresh h.1)
        have hlength := congrArg List.length hequal
        have hpositive := List.length_pos_iff.mpr hreturned
        rw [houtbox] at hle
        rw [hdrained] at hlength
        simp only [List.length_append, List.length_nil] at hle hlength
        omega

/-- The rejection of a repeated event is returned and never sent. -/
theorem stale_event_unsent :
    let ops : List FanOutOp :=
      [.fanOutEvent "payments-worker-a" 5 "child_restarted" "info" .unixEpoch,
        .fanOutEvent "payments-worker-a" 5 "child_restarted" "info" .unixEpoch, .drainOutbox]
    let world : FanOutWorld := ⟨sampleBoundSession, .new (samplePolicy 120)⟩
    drainedBy (FanOutWorld.machine.history world ops) ++
        (FanOutWorld.machine.final world ops).session.outbox ≠
      world.session.outbox ++ returnedBy (FanOutWorld.machine.history world ops) := by
  intro ops world hequal
  have hlength := congrArg List.length hequal
  revert hlength
  decide +kernel

end SupervisorRelay
