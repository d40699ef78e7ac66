import SupervisorRelay.Library.JsonRoundTrip
import SupervisorRelay.Source.Session

/-! The writers that serde derives for client messages: every field in declared order,
absent options as `null`, the name of the variant under `type` in front. -/
namespace SupervisorRelay

open Json (Members ofOption ofU64 ofList ofMap)

def writeControlCommandName (name : ControlCommandName) : Json :=
  .string name.wireName

def writeCommandTarget (target : CommandTarget) : Json :=
  .object [("child_path", ofOption .string target.childPath)]

def clientCommandMembers (command : ClientCommand) : Members :=
  [("command_id", .string command.commandId),
    ("correlation_id", ofOption .string command.correlationId),
    ("target_id", .string command.targetId),
    ("command", writeControlCommandName command.command),
    ("target", writeCommandTarget command.target),
    ("reason", .string command.reason),
    ("confirmed", .bool command.confirmed),
    ("requested_by", ofOption .string command.requestedBy)]

def writeResumeCursorEntry (entry : ResumeCursorEntry) : Json :=
  .object
    [("delivery_mode", .string entry.deliveryMode),
      ("filter_config_version", ofU64 entry.filterConfigVersion),
      ("stream_epoch", .string entry.streamEpoch),
      ("sequence", ofU64 entry.sequence)]

def writeResumeCursor (cursor : ResumeCursor) : Json :=
  .object
    [("events", ofMap writeResumeCursorEntry cursor.events),
      ("logs", ofMap writeResumeCursorEntry cursor.logs)]

def clientHelloMembers (hello : ClientHello) : Members :=
  [("client_store_id", .string hello.clientStoreId),
    ("resume_cursor", writeResumeCursor hello.resumeCursor)]

def logEventFilterConditionsMembers (conditions : LogEventFilterConditionsMessage) : Members :=
  [("target_ids", ofList .string conditions.targetIds),
    ("child_paths", ofList .string conditions.childPaths),
    ("lifecycle_states", ofList .string conditions.lifecycleStates),
    ("event_types", ofList .string conditions.eventTypes),
    ("severities", ofList .string conditions.severities),
    ("sequence_min", ofOption ofU64 conditions.sequenceMin),
    ("correlation_id", ofOption .string conditions.correlationId)]

def writeClientMessage : ClientMessage → Json
  | .clientHello hello => .object (("type", .string "client_hello") :: clientHelloMembers hello)
  | .command command => .object (("type", .string "command") :: clientCommandMembers command)
  | .logEventFilterConditions conditions =>
      .object (("type", .string "log_event_filter_conditions") ::
        logEventFilterConditionsMembers conditions)

end SupervisorRelay
