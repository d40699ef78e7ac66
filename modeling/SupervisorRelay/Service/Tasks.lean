import SupervisorRelay.Auth.TrustedProxy
import SupervisorRelay.Service.RegistrationLoop
import SupervisorRelay.Service.Replies
import SupervisorRelay.Source.Process

/-! A dashboard task among all others. The process takes it forward a lock at a time;
`run_dashboard_session` runs it in one piece, against an environment that stands for the
others. `finish` is what a task has left to do, and no step of the process changes where
that leads. -/
namespace SupervisorRelay

namespace DashboardRun

/-- A message that is no command is answered without the lock. -/
theorem receive_moves (environment : SessionEnvironment) (run : DashboardRun) (raw : String) :
    (∃ command, decodeClientMessage environment.reader raw = .ok (.command command) ∧
        run.receive environment raw = run.handleLocked environment command) ∨
      ∃ errors : List RelayError,
        run.receive environment raw = run.sendMessages (errors.map .error) := by
  have hquiet : run.sendMessages [] = run := by
    rw [sendMessages, List.append_nil]
  unfold receive
  cases decodeClientMessage environment.reader raw with
  | error error => exact .inr ⟨[error], rfl⟩
  | ok message =>
      cases message with
      | command command => exact .inl ⟨command, rfl, rfl⟩
      | clientHello hello => exact .inr ⟨[_], rfl⟩
      | logEventFilterConditions conditions => exact .inr ⟨[], hquiet.symm⟩

theorem handleLocked_turn (environment : SessionEnvironment) (run : DashboardRun)
    (command : ClientCommand) :
    (run.handleLocked environment command).turn = run.turn + 1 := by
  unfold handleLocked
  dsimp only
  split <;> rfl

/-- A run only adds to what it has sent and to the calls it has made. -/
structure Grows (before after : DashboardRun) : Prop where
  sent : before.sent <+: after.sent
  calls : before.calls <+: after.calls

theorem Grows.refl (run : DashboardRun) : Grows run run :=
  ⟨List.prefix_refl _, List.prefix_refl _⟩

theorem Grows.trans {first second third : DashboardRun} (h : Grows first second)
    (h' : Grows second third) : Grows first third :=
  ⟨h.sent.trans h'.sent, h.calls.trans h'.calls⟩

theorem grows_bindLocked (environment : SessionEnvironment) (run : DashboardRun)
    (targetId : String) : Grows run (run.bindLocked environment targetId) :=
  ⟨List.prefix_refl _, List.prefix_append _ _⟩

theorem grows_sendOutbox (run : DashboardRun) : Grows run run.sendOutbox :=
  ⟨List.prefix_append _ _, List.prefix_refl _⟩

theorem grows_foldl {step : DashboardRun → α → DashboardRun}
    (hstep : ∀ run next, Grows run (step run next)) (run : DashboardRun) (items : List α) :
    Grows run (items.foldl step run) := by
  induction items generalizing run with
  | nil => exact Grows.refl run
  | cons next rest ih => exact (hstep run next).trans (ih (step run next))

theorem grows_handleLocked (environment : SessionEnvironment) (run : DashboardRun)
    (command : ClientCommand) : Grows run (run.handleLocked environment command) := by
  have hcalls : run.calls <+: run.calls ++ (run.commandStep environment command).calls :=
    List.prefix_append _ _
  unfold handleLocked
  dsimp only
  split
  · refine ⟨?_, hcalls⟩
    exact (List.prefix_append _ _).trans (List.prefix_append _ _)
  · exact ⟨List.prefix_append _ _, hcalls⟩

theorem grows_receive (environment : SessionEnvironment) (run : DashboardRun) (raw : String) :
    Grows run (run.receive environment raw) := by
  rcases receive_moves environment run raw with ⟨command, -, hreceive⟩ | ⟨errors, hreceive⟩
  · rw [hreceive]
    exact grows_handleLocked environment run command
  · rw [hreceive]
    exact ⟨List.prefix_append _ _, List.prefix_refl _⟩

theorem grows_messageLoop (environment : SessionEnvironment) (run : DashboardRun)
    (inbound : List (Except String InboundMessage)) :
    Grows run (run.messageLoop environment inbound).run := by
  rw [messageLoop_run]
  exact grows_foldl (grows_receive environment) run _

end DashboardRun

namespace DashboardTask

/-- What the task still has to do, in one piece. -/
def finish (environment : SessionEnvironment) (task : DashboardTask) : DashboardEnd :=
  match task.stage with
  | .publishing => (task.run.startUp environment).messageLoop environment task.unread
  | .reading =>
      (task.run.autoBindActiveTargets environment).sendOutbox.messageLoop environment task.unread
  | .binding targetIds =>
      (targetIds.foldl (DashboardRun.bindLocked environment) task.run).sendOutbox.messageLoop
        environment task.unread
  | .serving => task.run.messageLoop environment task.unread
  | .ended result => ⟨result, task.run, task.unread⟩

variable {task : DashboardTask} {turns : Nat → Turn} {turn : Turn}

/-- The handshake needs no lock. -/
theorem spawned_finish (connection : WssConnection) (identity : RemoteIdentity)
    (registry : TargetProcessRegistry) (turns : Nat → Turn) :
    (spawned connection identity registry).finish (connection.environment turns) =
      runDashboardSession (connection.environment turns) identity registry
        connection.inbound := by
  unfold spawned runDashboardSession
  dsimp only [WssConnection.environment]
  cases (nextTextMessage connection.inbound).1 with
  | error error => rfl
  | ok message =>
      cases message with
      | none => rfl
      | some raw =>
          dsimp only
          cases decodeClientMessage connection.reader raw with
          | error error => rfl
          | ok decoded =>
              cases decoded with
              | clientHello hello =>
                  dsimp only
                  generalize DashboardSession.acceptClientHello _ hello _ = accepted
                  cases accepted <;> rfl
              | command command => rfl
              | logEventFilterConditions conditions => rfl

theorem spawned_fields (connection : WssConnection) (identity : RemoteIdentity)
    (registry : TargetProcessRegistry) :
    (spawned connection identity registry).connection = connection ∧
      (spawned connection identity registry).identity = identity ∧
      (spawned connection identity registry).run.turn = 0 := by
  unfold spawned
  dsimp only
  split
  · exact ⟨rfl, rfl, rfl⟩
  · exact ⟨rfl, rfl, rfl⟩
  · split
    · exact ⟨rfl, rfl, rfl⟩
    · split <;> exact ⟨rfl, rfl, rfl⟩
    · exact ⟨rfl, rfl, rfl⟩

/-- The turn that the environment has ready for it brings a task forward and no further. -/
theorem finish_advance (task : DashboardTask) (turns : Nat → Turn) :
    (task.advance (turns task.run.turn)).finish (task.connection.environment turns) =
      task.finish (task.connection.environment turns) := by
  obtain ⟨connection, identity, stage, run, unread⟩ := task
  cases stage with
  | publishing => rfl
  | reading => rfl
  | binding targetIds => cases targetIds <;> rfl
  | serving =>
      cases unread with
      | nil => rfl
      | cons message rest =>
          dsimp only [advance, finish]
          rw [DashboardRun.messageLoop]
          cases readMessage message with
          | error error => rfl
          | ok reading => cases reading <;> rfl
  | ended result => rfl

/-- What a turn can do to a task: four of its moves take the lock. -/
inductive Moves (task : DashboardTask) (turn : Turn) : DashboardTask → Prop where
  | publishes (hstage : task.stage = .publishing) :
      Moves task turn { task with
        stage := .reading
        run := task.run.publishActiveTargets (task.environment turn) }
  | reads (hstage : task.stage = .reading) :
      Moves task turn { task with
        stage := .binding (task.run.readActive (task.environment turn))
        run := (task.run.lock (task.environment turn)).2 }
  | binds (targetId : String) (rest : List String)
      (hstage : task.stage = .binding (targetId :: rest)) :
      Moves task turn { task with
        stage := .binding rest
        run := task.run.bindLocked (task.environment turn) targetId }
  | handles (raw : String) (command : ClientCommand)
      (rest : List (Except String InboundMessage)) (hstage : task.stage = .serving)
      (hdecoded : decodeClientMessage task.connection.reader raw = .ok (.command command)) :
      Moves task turn { task with
        run := task.run.handleLocked (task.environment turn) command
        unread := rest }
  | sends (hstage : task.stage = .binding []) :
      Moves task turn { task with stage := .serving, run := task.run.sendOutbox }
  | answers (errors : List RelayError) (rest : List (Except String InboundMessage))
      (hstage : task.stage = .serving) :
      Moves task turn { task with
        run := task.run.sendMessages (errors.map .error)
        unread := rest }
  | stops (result : RelayResult Unit) (rest : List (Except String InboundMessage))
      (hstage : task.stage = .serving) :
      Moves task turn { task with stage := .ended result, unread := rest }
  | rests (result : RelayResult Unit) (hstage : task.stage = .ended result) :
      Moves task turn task

theorem advance_moves (task : DashboardTask) (turn : Turn) :
    Moves task turn (task.advance turn) := by
  obtain ⟨connection, identity, stage, run, unread⟩ := task
  cases stage with
  | publishing => exact .publishes rfl
  | reading => exact .reads rfl
  | binding targetIds =>
      cases targetIds with
      | nil => exact .sends rfl
      | cons targetId rest => exact .binds targetId rest rfl
  | serving =>
      cases unread with
      | nil => exact .stops (.ok ()) [] rfl
      | cons message rest =>
          dsimp only [advance]
          cases readMessage message with
          | error error => exact .stops (.error error) rest rfl
          | ok reading =>
              cases reading with
              | closed => exact .stops (.ok ()) rest rfl
              | ignored =>
                  have hquiet : run = run.sendMessages [] := by
                    rw [DashboardRun.sendMessages, List.append_nil]
                  dsimp only
                  nth_rewrite 2 [hquiet]
                  exact .answers [] rest rfl
              | text raw =>
                  dsimp only
                  rcases DashboardRun.receive_moves
                      (environment ⟨connection, identity, .serving, run, message :: rest⟩ turn)
                      run raw with
                    ⟨command, hdecoded, hreceive⟩ | ⟨errors, hreceive⟩
                  · rw [hreceive]
                    exact .handles raw command rest rfl hdecoded
                  · rw [hreceive]
                    exact .answers errors rest rfl
  | ended result => exact .rests result rfl

theorem Moves.fields {task next : DashboardTask} {turn : Turn} (h : Moves task turn next) :
    next.connection = task.connection ∧ next.identity = task.identity ∧
      (next.run.turn = task.run.turn ∨ next.run.turn = task.run.turn + 1) := by
  cases h with
  | publishes | reads | binds => exact ⟨rfl, rfl, .inr rfl⟩
  | handles raw command => exact ⟨rfl, rfl, .inr (DashboardRun.handleLocked_turn _ _ _)⟩
  | sends | answers | stops | rests => exact ⟨rfl, rfl, .inl rfl⟩

theorem tookLock_eq_false {before after : DashboardTask} :
    before.tookLock after = false ↔ after.run.turn = before.run.turn := by
  simp [tookLock]

/-- A turn without the lock goes the same way whatever the turn. -/
theorem advance_unlocked {task : DashboardTask} {turn : Turn}
    (h : task.tookLock (task.advance turn) = false) (other : Turn) :
    task.advance other = task.advance turn := by
  rw [tookLock_eq_false] at h
  obtain ⟨connection, identity, stage, run, unread⟩ := task
  cases stage with
  | publishing => exact absurd h (Nat.succ_ne_self run.turn)
  | reading => exact absurd h (Nat.succ_ne_self run.turn)
  | binding targetIds =>
      cases targetIds with
      | nil => rfl
      | cons targetId rest => exact absurd h (Nat.succ_ne_self run.turn)
  | serving =>
      cases unread with
      | nil => rfl
      | cons message rest =>
          dsimp only [advance] at h ⊢
          cases hread : readMessage message with
          | error error => rfl
          | ok reading =>
              cases reading with
              | closed => rfl
              | ignored => rfl
              | text raw =>
                  rw [hread] at h
                  dsimp only [DashboardRun.receive, environment, WssConnection.environment] at h ⊢
                  cases hdecoded : decodeClientMessage connection.reader raw with
                  | error error => rfl
                  | ok decoded =>
                      cases decoded with
                      | command command =>
                          rw [hdecoded] at h
                          dsimp only at h
                          rw [DashboardRun.handleLocked_turn] at h
                          exact absurd h (Nat.succ_ne_self run.turn)
                      | clientHello hello => rfl
                      | logEventFilterConditions conditions => rfl
  | ended result => rfl

end DashboardTask

/-- The turns at which a task took the lock. -/
def locksOf (events : List TaskEvent) : List Turn :=
  events.filterMap fun
    | .locked turn => some turn
    | _ => none

/-- The environment presents these turns first. -/
def Presents (turns : Nat → Turn) (taken : List Turn) : Prop :=
  ∀ number turn, taken[number]? = some turn → turns number = turn

theorem Presents.of_append {turns : Nat → Turn} {taken more : List Turn}
    (h : Presents turns (taken ++ more)) : Presents turns taken := by
  intro number turn hturn
  obtain ⟨hlt, -⟩ := List.getElem?_eq_some_iff.mp hturn
  exact h number turn ((List.getElem?_append_left hlt).trans hturn)

theorem Presents.last {turns : Nat → Turn} {taken : List Turn} {turn : Turn}
    (h : Presents turns (taken ++ [turn])) : turns taken.length = turn :=
  h taken.length turn List.getElem?_concat_length

@[simp] theorem locksOf_append (first second : List TaskEvent) :
    locksOf (first ++ second) = locksOf first ++ locksOf second :=
  List.filterMap_append

@[simp] theorem locksOf_cons_locked (turn : Turn) (events : List TaskEvent) :
    locksOf (.locked turn :: events) = turn :: locksOf events := rfl

@[simp] theorem locksOf_called (calls : List IpcCall) :
    locksOf (calls.map .called) = [] := by
  simp [locksOf, List.filterMap_map]

namespace DashboardTask

/-- The two kinds of turn: with the lock, which leaves events, and without it. -/
inductive Steps (registry : TargetProcessRegistry) (task : DashboardTask) (turn : Turn) :
    TargetProcessRegistry × DashboardTask × List TaskEvent → Prop where
  | locked (hturn : (task.advance turn).run.turn = task.run.turn + 1) :
      Steps registry task turn ((task.advance turn).run.registry, task.advance turn,
        .locked turn :: task.publishes registry turn.now ++ task.calledSince (task.advance turn))
  | unlocked (hturn : (task.advance turn).run.turn = task.run.turn)
      (hany : ∀ other, task.advance other = task.advance turn) :
      Steps registry task turn (registry, task.advance turn, [])

theorem step_steps (registry : TargetProcessRegistry) (task : DashboardTask)
    (now : ClockReading) (ipc : UnixNdjsonIpcClient) :
    Steps registry task ⟨fun _ => registry, now, ipc⟩ (task.step registry now ipc) := by
  unfold step
  dsimp only
  split
  · rename_i hlock
    have hne : (task.advance ⟨fun _ => registry, now, ipc⟩).run.turn ≠ task.run.turn := by
      simpa [tookLock] using hlock
    exact .locked ((advance_moves task _).fields.2.2.resolve_left hne)
  · rename_i hlock
    rw [Bool.not_eq_true] at hlock
    exact .unlocked (tookLock_eq_false.mp hlock) (advance_unlocked hlock)

/-- Beside its first event, a turn with the lock leaves none of another lock. -/
theorem locksOf_locked (registry : TargetProcessRegistry) (task next : DashboardTask)
    (turn : Turn) :
    locksOf (.locked turn :: task.publishes registry turn.now ++ task.calledSince next) =
      [turn] := by
  rw [List.cons_append, locksOf_cons_locked, locksOf_append, calledSince, locksOf_called,
    List.append_nil]
  unfold publishes
  split <;> rfl

end DashboardTask

/-- The task is where `handle_wss_connection` takes it in one piece, in any environment
that presents the turns it took. -/
structure DashboardTask.RunsAlone (authority : WssAuthority) (task : DashboardTask)
    (events : List TaskEvent) : Prop where
  counted : (locksOf events).length = task.run.turn
  authentic : wssIdentity authority task.connection = .returned (.ok task.identity)
  alone : ∃ registry, ∀ turns, Presents turns (locksOf events) →
    runDashboardSession (task.connection.environment turns) task.identity registry
        task.connection.inbound =
      task.finish (task.connection.environment turns)

namespace DashboardTask

theorem RunsAlone.spawned {authority : WssAuthority} {connection : WssConnection}
    {identity : RemoteIdentity}
    (h : wssIdentity authority connection = .returned (.ok identity))
    (registry : TargetProcessRegistry) :
    RunsAlone authority (DashboardTask.spawned connection identity registry)
      [.admitted connection identity] := by
  obtain ⟨hconnection, hidentity, hturn⟩ := spawned_fields connection identity registry
  constructor
  · rw [hturn]
    rfl
  · rw [hconnection, hidentity]
    exact h
  · refine ⟨registry, fun turns _ => ?_⟩
    rw [hconnection, hidentity, spawned_finish]

theorem RunsAlone.step {authority : WssAuthority} {task : DashboardTask}
    {events : List TaskEvent} (h : RunsAlone authority task events)
    (registry : TargetProcessRegistry) (now : ClockReading) (ipc : UnixNdjsonIpcClient) :
    RunsAlone authority (task.step registry now ipc).2.1
      (events ++ (task.step registry now ipc).2.2) := by
  have hsteps := step_steps registry task now ipc
  obtain ⟨hconnection, hidentity, -⟩ :=
    (advance_moves task ⟨fun _ => registry, now, ipc⟩).fields
  obtain ⟨start, halone⟩ := h.alone
  generalize task.step registry now ipc = result at hsteps ⊢
  cases hsteps with
  | locked hturn =>
      refine ⟨?_, ?_, start, fun turns hpresents => ?_⟩
      · rw [locksOf_append, locksOf_locked, hturn, List.length_append, h.counted,
          List.length_singleton]
      · rw [hconnection, hidentity]
        exact h.authentic
      · rw [locksOf_append, locksOf_locked] at hpresents
        have hnext := hpresents.last
        rw [h.counted] at hnext
        rw [hconnection, hidentity, halone turns hpresents.of_append, ← hnext, finish_advance]
  | unlocked hturn hany =>
      rw [List.append_nil]
      refine ⟨?_, ?_, start, fun turns hpresents => ?_⟩
      · rw [hturn, h.counted]
      · rw [hconnection, hidentity]
        exact h.authentic
      · rw [hconnection, hidentity, halone turns hpresents, ← finish_advance,
          hany (turns task.run.turn)]

open DashboardRun in
theorem finish_grows (environment : SessionEnvironment) (task : DashboardTask) :
    Grows task.run (task.finish environment).run := by
  have hserve (run : DashboardRun) :
      Grows run (run.sendOutbox.messageLoop environment task.unread).run :=
    (grows_sendOutbox run).trans (grows_messageLoop environment _ _)
  have hbind (run : DashboardRun) (targetIds : List String) :
      Grows run (targetIds.foldl (bindLocked environment) run) :=
    grows_foldl (grows_bindLocked environment) run targetIds
  have hauto (run : DashboardRun) : Grows run (run.autoBindActiveTargets environment) := by
    have hlock : Grows run (run.lock environment).2 :=
      ⟨List.prefix_refl _, List.prefix_refl _⟩
    exact hlock.trans (hbind _ (run.readActive environment))
  unfold finish
  split
  · have hpublish : Grows task.run (task.run.publishActiveTargets environment) :=
      ⟨List.prefix_refl _, List.prefix_refl _⟩
    exact (hpublish.trans (hauto _)).trans (hserve _)
  · exact (hauto task.run).trans (hserve _)
  · exact (hbind task.run _).trans (hserve _)
  · exact grows_messageLoop environment task.run task.unread
  · exact Grows.refl task.run

end DashboardTask

/-- The four things that can happen to a task. -/
inductive Task.Steps (host : RelayHost) (registry : TargetProcessRegistry) :
    Task → TargetProcessRegistry × Task × List TaskEvent → Prop where
  | registers (acks : List Json) (connection : RegistrationConnection) :
      Steps host registry (.registrationLoop .running acks)
        (registrationRound host registry acks connection)
  | rejects (task : Task) (hended : (∃ error, task = .refused error) ∨ task = .panicked) :
      Steps host registry .idle (registry, task, [])
  | spawns (connection : WssConnection) (identity : RemoteIdentity)
      (hidentity : wssIdentity host.toWssAuthority connection = .returned (.ok identity)) :
      Steps host registry .idle
        (registry, .dashboard (.spawned connection identity registry),
          [.admitted connection identity])
  | advances (task : DashboardTask) (now : ClockReading) (ipc : UnixNdjsonIpcClient) :
      Steps host registry (.dashboard task)
        ((task.step registry now ipc).1, .dashboard (task.step registry now ipc).2.1,
          (task.step registry now ipc).2.2)
  | passes (task : Task) : Steps host registry task (registry, task, [])

theorem Task.step_steps (host : RelayHost) (registry : TargetProcessRegistry) (task : Task)
    (turn : TaskTurn) : Steps host registry task (task.step host registry turn) := by
  unfold Task.step
  split
  · exact .registers _ _
  · rename_i connection
    split
    · exact .rejects _ (.inr rfl)
    · exact .rejects _ (.inl ⟨_, rfl⟩)
    · rename_i identity hidentity
      exact .spawns connection identity hidentity
  · exact .advances _ _ _
  · exact .passes task

/-- What each task asserts of itself and of its own events. -/
def Task.RunsAlone (authority : WssAuthority) : Task → List TaskEvent → Prop
  | .idle, events => events = []
  | .dashboard task, events => task.RunsAlone authority events
  | _, _ => True

/-- A task owes nothing to the others: whatever they do, it runs as if alone. -/
def RelayProcess.aloneContract (host : RelayHost) :
    Turns.Contract TaskId (RelayProcess.tasks host) where
  store _ _ := True
  guarantee _ _ _ := True
  part _ _ task events := task.RunsAlone host.toWssAuthority events
  keeps part registry task turn trace _ h := by
    have hsteps := Task.step_steps host registry task turn
    dsimp only [RelayProcess.tasks]
    refine ⟨trivial, trivial, ?_⟩
    generalize task.step host registry turn = result at hsteps ⊢
    cases hsteps with
    | registers acks connection =>
        unfold registrationRound
        dsimp only
        split
        · trivial
        · split <;> trivial
    | rejects task hended =>
        rcases hended with ⟨error, rfl⟩ | rfl
        · trivial
        · trivial
    | spawns connection identity hidentity =>
        rw [show Turns.eventsOf part trace = [] from h, List.nil_append]
        exact DashboardTask.RunsAlone.spawned hidentity registry
    | advances task now ipc => exact DashboardTask.RunsAlone.step h registry now ipc
    | passes => rwa [List.append_nil]
  stable _ _ _ _ _ _ _ _ h := h

theorem RelayProcess.aloneContract_start (host : RelayHost) (policy : RegistrationPolicy) :
    (aloneContract host).Holds (start policy) [] where
  store := trivial
  parts part := by
    cases part with
    | registrationLoop => trivial
    | connection number => exact rfl

/-- However the tasks of the process are interleaved, each dashboard is at a point of the
run that `handle_wss_connection` makes in one piece, in every environment that presents
the registries this dashboard found under its locks. What it has sent and called so far
begins what that run sends and calls, and where it has ended the two are the same. -/
theorem dashboards_run_alone (host : RelayHost) (policy : RegistrationPolicy)
    (schedule : List (TaskId × TaskTurn)) {number : Nat} {task : DashboardTask}
    (h : ((RelayProcess.machine host).final (.start policy) schedule).parts
      (.connection number) = .dashboard task) :
    let taken := locksOf (Turns.eventsOf (.connection number)
      ((RelayProcess.machine host).history (.start policy) schedule))
    ∃ registry, ∀ turns, Presents turns taken →
      let whole := task.finish (task.connection.environment turns)
      handleWssConnection host.toWssAuthority task.connection turns registry = .session whole ∧
        task.run.sent <+: whole.run.sent ∧ task.run.calls <+: whole.run.calls ∧
          ∀ result, task.stage = .ended result → whole = ⟨result, task.run, task.unread⟩ := by
  intro taken
  have hholds := (RelayProcess.aloneContract_start host policy).run schedule
  have htask : Task.RunsAlone host.toWssAuthority _ _ := hholds.parts (.connection number)
  change Task.RunsAlone host.toWssAuthority
    (((RelayProcess.machine host).final (.start policy) schedule).parts (.connection number)) _
    at htask
  rw [h, List.nil_append] at htask
  obtain ⟨-, hauthentic, registry, halone⟩ := htask
  refine ⟨registry, fun turns hpresents => ⟨?_, ?_⟩⟩
  · rw [handleWssConnection, hauthentic, ← halone turns hpresents]
  · have hgrows := DashboardTask.finish_grows (task.connection.environment turns) task
    refine ⟨hgrows.sent, hgrows.calls, fun result hresult => ?_⟩
    rw [DashboardTask.finish, hresult]

/-- A relay behind a proxy, which needs no certificates. Its only line registers
`payments-worker-a`. -/
def sampleHost : RelayHost where
  trustedProxy := AuthContext.sampleProxyConfig
  sha256 := id
  parseX509Certificate _ := .error "unexpected end of input"
  fromStr _ := .ok (sampleRequest "payments-worker-a" "/run/rust-supervisor/a.sock" 30)

def sampleWss : WssConnection where
  remoteAddr := .v4 127 0 0 1
  peerCertificates := .ok none
  requestHeaders := .ok [⟨"host", some "relay.example.test", by decide +kernel⟩,
    ⟨"x-verified-client-subject", some "CN=operator@example.test", by decide +kernel⟩]
  now := .unixEpoch
  reader := sampleReader
  newV4 _ := 0
  sessionId := 0
  startedAt := .unixEpoch
  helloAt := .unixEpoch
  inbound := sampleInbound

/-- A target registers and a dashboard comes as far as its first command. -/
def sampleSchedule : List (TaskId × TaskTurn) :=
  [(.registrationLoop, .register (sampleConnection sampleLine)),
      (.connection 0, .spawn sampleWss)] ++
    List.replicate 5 (.connection 0, .dashboard .unixEpoch (sampleClient "payments-worker-a"))

def sampleProcess : RelayProcess :=
  (RelayProcess.machine sampleHost).final (.start (samplePolicy 120)) sampleSchedule

def sampleHistory : List (TaskId × TaskEvent) :=
  (RelayProcess.machine sampleHost).history (.start (samplePolicy 120)) sampleSchedule

def Task.dashboard? : Task → Option DashboardTask
  | .dashboard task => some task
  | _ => none

theorem Task.dashboard?_eq_some {task : Task} {dashboard : DashboardTask} :
    task.dashboard? = some dashboard ↔ task = .dashboard dashboard := by
  cases task <;> simp [Task.dashboard?]

theorem sampleProcess_dashboard :
    ∃ task, sampleProcess.parts (.connection 0) = .dashboard task ∧ task.run.calls.length = 4 := by
  have hcalls : ((sampleProcess.parts (.connection 0)).dashboard?.map (·.run.calls.length)) =
      some 4 := by decide +kernel
  obtain ⟨task, htask, hlength⟩ := Option.map_eq_some_iff.mp hcalls
  exact ⟨task, Task.dashboard?_eq_some.mp htask, hlength⟩

/-- Turns as they were taken, and any turn after them. -/
theorem presents_getD (taken : List Turn) (turn : Turn) :
    Presents (fun number => taken.getD number turn) taken := by
  intro number other hother
  dsimp only
  rw [List.getD_eq_getElem?_getD, hother, Option.getD_some]

theorem dashboards_run_alone_sample :
    ∃ task turns registry ended,
      sampleProcess.parts (.connection 0) = .dashboard task ∧ task.run.calls.length = 4 ∧
        handleWssConnection sampleHost.toWssAuthority task.connection turns registry =
          .session ended ∧ task.run.calls <+: ended.run.calls := by
  obtain ⟨task, htask, hlength⟩ := sampleProcess_dashboard
  obtain ⟨registry, halone⟩ :=
    dashboards_run_alone sampleHost (samplePolicy 120) sampleSchedule htask
  let quiet : Turn := ⟨id, .unixEpoch, sampleClient "payments-worker-a"⟩
  have hturns := presents_getD (locksOf (Turns.eventsOf (.connection 0) sampleHistory)) quiet
  obtain ⟨hsession, -, hcalls, -⟩ := halone _ hturns
  exact ⟨task, _, registry, _, htask, hlength, hsession, hcalls⟩

end SupervisorRelay
