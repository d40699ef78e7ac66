import SupervisorRelay.Session.Gate

/-! What a session's fields say about each other, and what no operation takes back.
Any call may meet any registry and any behaviour of the targets. -/
namespace SupervisorRelay

/-- A call of a session's method, with the registry it is given. -/
inductive SessionCall where
  | acceptClientHello (hello : ClientHello) (now : OffsetDateTime)
  | publishTargetList (targets : List VisibleTarget)
  | bindTarget (targetId : String) (registry : TargetProcessRegistry) (ipc : TargetIpcPort)
      (now : OffsetDateTime)
  | handleCommand (newV4 : Nat → Uuid) (command : ClientCommand)
      (registry : TargetProcessRegistry) (ipc : TargetIpcPort) (audit : AuditRecorder)
      (now : OffsetDateTime)
  | drainOutbox
  | accept (op : StreamOp)

namespace DashboardSession

def call (session : DashboardSession) : SessionCall → DashboardSession × List SessionEvent
  | .acceptClientHello hello now =>
      match session.acceptClientHello hello now with
      | .ok session => (session, [.helloAccepted])
      | .error _ => (session, [])
  | .publishTargetList targets => (session.publishTargetList targets, [])
  | .bindTarget targetId registry ipc now =>
      ((session.bindTarget targetId registry ipc now).session, [])
  | .handleCommand newV4 command registry ipc audit now =>
      ((session.handleCommand newV4 command registry ipc audit now).1.session, [])
  | .drainOutbox => (session.drainOutbox.2, [])
  | .accept op => ((session.accept op).2, [])

def callMachine : Machine DashboardSession SessionCall SessionEvent :=
  ⟨call⟩

/-- The fields that say how far a session has come. -/
structure Coherent (session : DashboardSession) : Prop where
  handshake : session.connectionState = .handshaking ∨ session.connectionState = .established
  control : session.connectionState = .established ↔ session.controlState = .established
  client : session.connectionState = .established ↔
    ∃ clientStoreId, session.clientStoreId = some clientStoreId ∧ clientStoreId.isBlank = false
  unset : session.connectionState ≠ .established → session.clientStoreId = none
  bound : session.boundTargets.Nonempty →
    session.connectionState = .established ∧ session.remoteIdentity.isSome = true
  sequences : ∀ targetId ∈ session.lastSequences, targetId ∈ session.boundTargets

/-- What may change from an earlier state of a session to a later one. -/
structure Later (before after : DashboardSession) : Prop where
  sessionId : after.sessionId = before.sessionId
  remoteIdentity : after.remoteIdentity = before.remoteIdentity
  clientStoreId : ∀ clientStoreId, before.clientStoreId = some clientStoreId →
    after.clientStoreId = some clientStoreId
  boundTargets : before.boundTargets ⊆ after.boundTargets
  lastSequences : ∀ targetId sequence, before.lastSequences.lookup targetId = some sequence →
    ∃ later, after.lastSequences.lookup targetId = some later ∧ sequence ≤ later

variable {session : DashboardSession}

theorem Later.refl (session : DashboardSession) : Later session session where
  sessionId := rfl
  remoteIdentity := rfl
  clientStoreId _ h := h
  boundTargets := Finset.Subset.refl _
  lastSequences _ sequence h := ⟨sequence, h, UInt64.le_refl _⟩

theorem Later.trans {first second third : DashboardSession} (h : Later first second)
    (h' : Later second third) : Later first third where
  sessionId := h'.sessionId.trans h.sessionId
  remoteIdentity := h'.remoteIdentity.trans h.remoteIdentity
  clientStoreId clientStoreId hset := h'.clientStoreId _ (h.clientStoreId _ hset)
  boundTargets := h.boundTargets.trans h'.boundTargets
  lastSequences targetId sequence hlookup := by
    obtain ⟨middle, hmiddle, hle⟩ := h.lastSequences targetId sequence hlookup
    obtain ⟨last, hlast, hle'⟩ := h'.lastSequences targetId middle hmiddle
    exact ⟨last, hlast, UInt64.le_trans hle hle'⟩

/-- A step from a coherent state is coherent again and comes later. -/
def Advances (before after : DashboardSession) : Prop :=
  Coherent before → Coherent after ∧ Later before after

theorem Advances.refl (session : DashboardSession) : Advances session session :=
  fun h => ⟨h, Later.refl session⟩

/-- What is queued and when the session was seen say nothing about its state. -/
theorem advances_outbox (session : DashboardSession) (outbox : List ServerMessage) :
    Advances session { session with outbox := outbox } := by
  intro h
  constructor
  · exact ⟨h.handshake, h.control, h.client, h.unset, h.bound, h.sequences⟩
  · exact ⟨rfl, rfl, fun _ hset => hset, Finset.Subset.refl _,
      (Later.refl session).lastSequences⟩

theorem advances_accept (session : DashboardSession) (op : StreamOp) :
    Advances session (session.accept op).2 := by
  have hspec := accept_spec session op
  generalize session.accept op = call at hspec
  cases hspec with
  | unbound => exact Advances.refl session
  | stale => exact Advances.refl session
  | queued previous lastSequences hbound hprevious hfresh hlast =>
      intro h
      constructor
      · refine ⟨h.handshake, h.control, h.client, h.unset, h.bound, fun targetId hmem => ?_⟩
        obtain ⟨sequence, hlookup⟩ := HashMap.mem_iff_lookup.mp hmem
        rw [hlast] at hlookup
        split at hlookup
        · rename_i heq
          rw [heq]
          exact hbound
        · exact h.sequences targetId (HashMap.mem_of_lookup hlookup)
      · refine ⟨rfl, rfl, fun _ hset => hset, Finset.Subset.refl _,
          fun targetId sequence hlookup => ?_⟩
        dsimp only
        rw [hlast]
        split
        · rename_i heq
          rw [heq, hprevious] at hlookup
          subst hlookup
          exact StreamOp.last_le hfresh
        · exact ⟨sequence, hlookup, UInt64.le_refl _⟩

theorem advances_bindTarget (session : DashboardSession) (targetId : String)
    (registry : TargetProcessRegistry) (ipc : TargetIpcPort) (now : OffsetDateTime) :
    Advances session (session.bindTarget targetId registry ipc now).session := by
  rcases bindTarget_session session targetId registry ipc now with
    hsame | ⟨hcontrol, payload, hsession⟩
  · rw [hsame]
    exact Advances.refl session
  · rw [hsession]
    obtain ⟨hestablished, -, hidentity⟩ := ensureControlEstablished_ok.mp hcontrol
    intro h
    constructor
    · exact ⟨h.handshake, h.control, h.client, h.unset, fun _ => ⟨hestablished, hidentity⟩,
        fun other hmem => Finset.mem_insert_of_mem (h.sequences other hmem)⟩
    · exact ⟨rfl, rfl, fun _ hset => hset, Finset.subset_insert _ _,
        (Later.refl session).lastSequences⟩

theorem advances_handleCommand (newV4 : Nat → Uuid) (session : DashboardSession)
    (command : ClientCommand) (registry : TargetProcessRegistry) (ipc : TargetIpcPort)
    (audit : AuditRecorder) (now : OffsetDateTime) :
    Advances session (session.handleCommand newV4 command registry ipc audit now).1.session := by
  cases handleCommand_replies newV4 session command registry ipc audit now with
  | refused error hresult hsession =>
      rw [hsession]
      exact Advances.refl session
  | answered answer follow hfollow hresult hsession =>
      rw [hsession]
      exact advances_outbox session _

theorem advances_acceptClientHello {session changed : DashboardSession} {hello : ClientHello}
    {now : OffsetDateTime} (hok : session.acceptClientHello hello now = .ok changed) :
    Advances session changed := by
  obtain ⟨⟨hblank, hhandshaking⟩, rfl⟩ := acceptClientHello_ok.mp hok
  intro h
  have hstate : session.connectionState ≠ .established := by simp [hhandshaking]
  constructor
  · exact {
      handshake := .inr rfl
      control := iff_of_true rfl rfl
      client := iff_of_true rfl ⟨hello.clientStoreId, rfl, hblank⟩
      unset := fun hne => absurd rfl hne
      bound := fun hnonempty => absurd (h.bound hnonempty).1 hstate
      sequences := h.sequences }
  · refine ⟨rfl, rfl, fun _ hset => ?_, Finset.Subset.refl _, (Later.refl session).lastSequences⟩
    rw [h.unset hstate] at hset
    cases hset

theorem advances_call (session : DashboardSession) (op : SessionCall) :
    Advances session (session.call op).1 := by
  cases op with
  | acceptClientHello hello now =>
      dsimp only [call]
      cases hok : session.acceptClientHello hello now with
      | ok changed => exact advances_acceptClientHello hok
      | error error => exact Advances.refl session
  | publishTargetList targets => exact advances_outbox session _
  | bindTarget targetId registry ipc now =>
      exact advances_bindTarget session targetId registry ipc now
  | handleCommand newV4 command registry ipc audit now =>
      exact advances_handleCommand newV4 session command registry ipc audit now
  | drainOutbox => exact advances_outbox session _
  | accept op => exact advances_accept session op

/-- Only an accepted `client_hello` moves the handshake, and only once. -/
theorem call_hello (session : DashboardSession) (op : SessionCall) :
    ((session.call op).2 = [] ∧
        (session.call op).1.connectionState = session.connectionState) ∨
      (session.call op).2 = [.helloAccepted] ∧ session.connectionState = .handshaking ∧
        (session.call op).1.connectionState = .established := by
  cases op with
  | acceptClientHello hello now =>
      dsimp only [call]
      cases hok : session.acceptClientHello hello now with
      | ok changed =>
          obtain ⟨⟨-, hhandshaking⟩, rfl⟩ := acceptClientHello_ok.mp hok
          exact .inr ⟨rfl, hhandshaking, rfl⟩
      | error error => exact .inl ⟨rfl, rfl⟩
  | publishTargetList targets => exact .inl ⟨rfl, rfl⟩
  | bindTarget targetId registry ipc now =>
      refine .inl ⟨rfl, ?_⟩
      exact (bindTarget_spec session targetId registry ipc now).grows.connectionState
  | handleCommand newV4 command registry ipc audit now =>
      refine .inl ⟨rfl, ?_⟩
      obtain ⟨targetId, hgrows⟩ :=
        (handleCommand_spec newV4 session command registry ipc audit now).extends
      exact hgrows.connectionState
  | drainOutbox => exact .inl ⟨rfl, rfl⟩
  | accept op =>
      exact .inl ⟨rfl, (accept_keeps session op).2.1⟩

/-- A coherent session with the hellos it has accepted: none while it waits. -/
structure Counted (session : DashboardSession) (past : List SessionEvent) : Prop where
  coherent : Coherent session
  waiting : session.connectionState = .handshaking → past = []
  once : past.length ≤ 1

theorem Counted.call {session : DashboardSession} {past : List SessionEvent}
    (h : Counted session past) (op : SessionCall) :
    Counted (session.call op).1 (past ++ (session.call op).2) := by
  obtain ⟨hcoherent, -⟩ := advances_call session op h.coherent
  rcases call_hello session op with ⟨hevents, hstate⟩ | ⟨hevents, hhandshaking, hestablished⟩
  · rw [hevents, List.append_nil]
    exact ⟨hcoherent, fun hwaiting => h.waiting (hstate ▸ hwaiting), h.once⟩
  · rw [hevents, h.waiting hhandshaking]
    refine ⟨hcoherent, fun hwaiting => ?_, Nat.le_refl _⟩
    rw [hestablished] at hwaiting
    cases hwaiting

theorem serverHello_counted (sessionId : Uuid) (identity : RemoteIdentity)
    (now : OffsetDateTime) : Counted (serverHello sessionId identity now) [] where
  coherent := ⟨.inl rfl, by simp [serverHello], by simp [serverHello], fun _ => rfl,
    by simp [serverHello], by simp [serverHello]⟩
  waiting _ := rfl
  once := Nat.zero_le _

theorem establish_counted {session : DashboardSession} {sessionId : Uuid}
    {identity : RemoteIdentity} {registry : TargetProcessRegistry}
    {transport : TransportSecurity} {now : OffsetDateTime}
    (h : establish sessionId identity registry transport now = .ok session) :
    Counted session [.helloAccepted] := by
  unfold establish at h
  split at h
  · cases h
  obtain ⟨opened, hopened, hsession⟩ := RelayResult.bind_eq_ok.mp h
  cases hsession
  have hcoherent := (advances_acceptClientHello hopened
    (serverHello_counted sessionId identity now).coherent).1
  obtain ⟨-, rfl⟩ := acceptClientHello_ok.mp hopened
  refine ⟨(advances_outbox _ _ hcoherent).1, fun hwaiting => ?_, Nat.le_refl _⟩
  cases hwaiting

theorem started_counted {session : DashboardSession} {past : List SessionEvent}
    (h : Started session past) : Counted session past := by
  cases h with
  | unauthenticated sessionId now =>
      refine ⟨⟨.inl rfl, ?_, ?_, fun _ => rfl, ?_, ?_⟩, fun _ => rfl, Nat.zero_le _⟩
      · simp [unauthenticated]
      · simp [unauthenticated]
      · simp [unauthenticated]
      · simp [unauthenticated]
  | serverHello sessionId identity now => exact serverHello_counted sessionId identity now
  | established sessionId identity registry transport now _ hok => exact establish_counted hok

/-- From a coherent state every further run comes later. -/
theorem later_run {session : DashboardSession} (h : Coherent session)
    (calls : List SessionCall) : Later session (callMachine.final session calls) := by
  have hrun := callMachine.invariant (fun after => Coherent after ∧ Later session after)
    (fun after op hafter => by
      obtain ⟨hcoherent, hlater⟩ := advances_call after op hafter.1
      exact ⟨hcoherent, hafter.2.trans hlater⟩)
    ⟨h, Later.refl session⟩ calls
  exact hrun.2

end DashboardSession

/-- However a session starts and whatever is called on it: its fields agree, it takes
one `client_hello` at most, a refused one changes nothing, and it forgets neither
who it is nor what it has bound and seen. -/
theorem session_state_invariant {session : DashboardSession} {past : List SessionEvent}
    (hstart : Started session past) (calls : List SessionCall) :
    let machine := DashboardSession.callMachine
    (machine.final session calls).Coherent ∧
      (past ++ machine.history session calls).length ≤ 1 ∧
      (∀ before hello now after error, calls = before ++ .acceptClientHello hello now :: after →
        (machine.final session before).acceptClientHello hello now = .error error →
          machine.step (machine.final session before) (.acceptClientHello hello now) =
            (machine.final session before, [])) ∧
      ∀ earlier later, calls = earlier ++ later →
        (machine.final session earlier).Later (machine.final session calls) := by
  intro machine
  have hcounted (run : List SessionCall) :
      (machine.final session run).Counted (past ++ machine.history session run) :=
    machine.invariant_history DashboardSession.Counted (fun _ _ op h => h.call op)
      (DashboardSession.started_counted hstart) run
  refine ⟨(hcounted calls).coherent, (hcounted calls).once, ?_, ?_⟩
  · intro before hello now after error _ hrefused
    dsimp only [machine, DashboardSession.callMachine, DashboardSession.call] at hrefused ⊢
    rw [hrefused]
  · rintro earlier later rfl
    rw [Machine.final_append]
    exact DashboardSession.later_run (hcounted earlier).coherent later

/-- A handshake, a binding, events, a repeated hello and a command. -/
def sampleSessionCalls : List SessionCall :=
  let registry := (TargetProcessRegistry.new (samplePolicy 120)).register .ok
    (sampleRequest "payments-worker-a" "/run/rust-supervisor/a.sock" 30) "uid:501" .unixEpoch
  [.acceptClientHello sampleHello .unixEpoch,
    .bindTarget "payments-worker-a" registry.2 (sampleClient "payments-worker-a").port .unixEpoch,
    .accept (.event (sampleEvent "payments-worker-a" 3)),
    .acceptClientHello sampleHello .unixEpoch,
    .accept (.event (sampleEvent "payments-worker-a" 8)),
    .handleCommand (fun _ => 0) (sampleCommand "payments-worker-a") registry.2
      (sampleClient "payments-worker-a").port .default .unixEpoch]

theorem session_state_invariant_sample :
    let final := DashboardSession.callMachine.final
      (.serverHello 0 sampleIdentity .unixEpoch) sampleSessionCalls
    final.Coherent ∧ final.boundTargets = {"payments-worker-a"} ∧
      final.lastSequences.lookup "payments-worker-a" = some 8 := by
  refine ⟨(session_state_invariant (.serverHello 0 sampleIdentity .unixEpoch)
    sampleSessionCalls).1, ?_⟩
  decide +kernel

end SupervisorRelay
