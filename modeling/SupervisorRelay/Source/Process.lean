import SupervisorRelay.Library.Interleaving
import SupervisorRelay.Source.Connection

/-! The running relay: the tasks that `run` spawns, around the one registry they share.
A task gives up its turn wherever it waits, so a step is at most one taking of the
registry lock, with what the task does by itself around it. -/
namespace SupervisorRelay

/-- What stands between a dashboard task and its end: the next lock it takes, or the
next message it reads. -/
inductive DashboardStage where
  | publishing
  | reading
  | binding (targetIds : List String)
  | serving
  | ended (result : RelayResult Unit)

/-- A task in `run_dashboard_session`. The registry of its run is the one it left when
it last gave up the lock. -/
structure DashboardTask where
  connection : WssConnection
  identity : RemoteIdentity
  stage : DashboardStage
  run : DashboardRun
  unread : List (Except String InboundMessage)

inductive Task where
  | idle
  | registrationLoop (status : LoopStatus) (acks : List Json)
  | refused (error : RelayError)
  | panicked
  | dashboard (task : DashboardTask)

/-- What a task meets at its turn: the registration loop its next connection, an idle
task the connection it is spawned for, a dashboard the clock and its targets. -/
inductive TaskTurn where
  | register (connection : RegistrationConnection)
  | spawn (connection : WssConnection)
  | dashboard (now : ClockReading) (ipc : UnixNdjsonIpcClient)

inductive TaskEvent where
  | registered (registration : TargetProcessRegistration)
  | admitted (connection : WssConnection) (identity : RemoteIdentity)
  | locked (turn : Turn)
  | published (targets : List VisibleTarget) (now : OffsetDateTime)
  | called (call : IpcCall)

/-- The parsers and keys that the process is started with. -/
structure RelayHost extends WssAuthority where
  fromStr : String → Except String RegistrationRequest

namespace DashboardTask

/-- `run_dashboard_session` up to the first taking of the lock. -/
def spawned (connection : WssConnection) (identity : RemoteIdentity)
    (registry : TargetProcessRegistry) : DashboardTask :=
  let session := DashboardSession.serverHello connection.sessionId identity connection.startedAt
  let run := DashboardRun.sendOutbox ⟨session, registry, .default, 0, [], []⟩
  let first := nextTextMessage connection.inbound
  let ended (result : RelayResult Unit) (run : DashboardRun) : DashboardTask :=
    ⟨connection, identity, .ended result, run, first.2⟩
  match first.1 with
  | .error error => ended (.error error) run
  | .ok none =>
      ended (.error (.new "protocol_error" "session" none
        "client_hello is required before business messages" false)) run
  | .ok (some raw) =>
    match decodeClientMessage connection.reader raw with
    | .error error => ended (.error error) run
    | .ok (.clientHello hello) =>
      match run.session.acceptClientHello hello connection.helloAt with
      | .error error => ended (.error error) run
      | .ok session =>
          ⟨connection, identity, .publishing, { run with session := session }, first.2⟩
    | .ok _ =>
        ended (.ok ()) (run.sendMessages [.error (.new "protocol_error" "session" none
          "client_hello must be the first client message" false)])

/-- The environment of a single turn. -/
def environment (task : DashboardTask) (turn : Turn) : SessionEnvironment :=
  task.connection.environment fun _ => turn

def advance (task : DashboardTask) (turn : Turn) : DashboardTask :=
  let environment := task.environment turn
  match task.stage with
  | .publishing =>
      { task with stage := .reading, run := task.run.publishActiveTargets environment }
  | .reading =>
      let locked := task.run.lock environment
      let targetIds := (locked.2.registry.activeTargets locked.1.now).map (·.targetId)
      { task with stage := .binding targetIds, run := locked.2 }
  | .binding (targetId :: rest) =>
      { task with stage := .binding rest, run := task.run.bindLocked environment targetId }
  | .binding [] => { task with stage := .serving, run := task.run.sendOutbox }
  | .serving =>
    match task.unread with
    | [] => { task with stage := .ended (.ok ()) }
    | message :: rest =>
      match readMessage message with
      | .error error => { task with stage := .ended (.error error), unread := rest }
      | .ok .closed => { task with stage := .ended (.ok ()), unread := rest }
      | .ok (.text raw) => { task with run := task.run.receive environment raw, unread := rest }
      | .ok .ignored => { task with unread := rest }
  | .ended _ => task

/-- A turn in which the lock was taken leaves the registry of the run. -/
def tookLock (before after : DashboardTask) : Bool :=
  after.run.turn != before.run.turn

/-- The list that `publish_target_list` is given. -/
def publishes (task : DashboardTask) (registry : TargetProcessRegistry) (now : OffsetDateTime) :
    List TaskEvent :=
  match task.stage with
  | .publishing => [.published (registry.activeTargets now) now]
  | _ => []

def calledSince (before after : DashboardTask) : List TaskEvent :=
  (after.run.calls.drop before.run.calls.length).map .called

def step (registry : TargetProcessRegistry) (task : DashboardTask) (now : ClockReading)
    (ipc : UnixNdjsonIpcClient) : TargetProcessRegistry × DashboardTask × List TaskEvent :=
  let turn : Turn := ⟨fun _ => registry, now, ipc⟩
  let next := task.advance turn
  if task.tookLock next then
    (next.run.registry, next,
      .locked turn :: task.publishes registry now ++ task.calledSince next)
  else (registry, next, [])

end DashboardTask

/-- One round of `run_registration_loop`. -/
def registrationRound (host : RelayHost) (registry : TargetProcessRegistry) (acks : List Json)
    (connection : RegistrationConnection) : TargetProcessRegistry × Task × List TaskEvent :=
  match acceptRegistration host.fromStr connection with
  | .error error => (registry, .registrationLoop (.stopped error) acks, [])
  | .ok accepted =>
    let call := registry.register connection.normalizeIpcPathKey accepted.request
      accepted.ownerIdentity connection.now
    match call.1 with
    | .panicked => (call.2, .registrationLoop .panicked acks, [])
    | .returned result =>
      let registered : List TaskEvent :=
        match result with
        | .ok registration => [.registered registration]
        | .error _ => []
      let ack := writeRegistrationAck connection result
      let status : LoopStatus :=
        match ack.1 with
        | .error error => .stopped error
        | .ok () => .running
      (call.2, .registrationLoop status (acks ++ [ack.2]), registered)

/-- A turn that does not concern a task passes over it. -/
def Task.step (host : RelayHost) (registry : TargetProcessRegistry) :
    Task → TaskTurn → TargetProcessRegistry × Task × List TaskEvent
  | .registrationLoop .running acks, .register connection =>
      registrationRound host registry acks connection
  | .idle, .spawn connection =>
      match wssIdentity host.toWssAuthority connection with
      | .panicked => (registry, .panicked, [])
      | .returned (.error error) => (registry, .refused error, [])
      | .returned (.ok identity) =>
          (registry, .dashboard (.spawned connection identity registry),
            [.admitted connection identity])
  | .dashboard task, .dashboard now ipc =>
      let next := task.step registry now ipc
      (next.1, .dashboard next.2.1, next.2.2)
  | task, _ => (registry, task, [])

/-- The registration loop is spawned once, the others one for each connection. -/
inductive TaskId where
  | registrationLoop
  | connection (number : Nat)
deriving DecidableEq

abbrev RelayProcess := Scene TargetProcessRegistry TaskId Task

namespace RelayProcess

/-- `run` past its start-up. -/
def start (policy : RegistrationPolicy) : RelayProcess where
  store := .new policy
  parts
    | .registrationLoop => .registrationLoop .running []
    | .connection _ => .idle

def tasks (host : RelayHost) : Turns TargetProcessRegistry Task TaskTurn TaskEvent :=
  ⟨Task.step host⟩

/-- The process under a schedule of turns. -/
def machine (host : RelayHost) :
    Machine RelayProcess (TaskId × TaskTurn) (TaskId × TaskEvent) :=
  (tasks host).machine

end RelayProcess
end SupervisorRelay
