import SupervisorRelay.Library.JsonFields
import SupervisorRelay.Source.Session

/-! The readers that serde derives for client messages. None of the structs denies
unknown fields. A tagged message is read from an object: `decode_client_message` hands
over nothing else. -/
namespace SupervisorRelay

open Json (Members required optional defaulted readList readMap structMembers)

def ControlCommandName.ofWireName : String → Option ControlCommandName
  | "restart_child" => some .restartChild
  | "pause_child" => some .pauseChild
  | "resume_child" => some .resumeChild
  | "quarantine_child" => some .quarantineChild
  | "remove_child" => some .removeChild
  | "add_child" => some .addChild
  | "shutdown_tree" => some .shutdownTree
  | _ => none

/-- A unit variant is its name, or an object with the name and an empty content. -/
def readControlCommandName : Json → Option ControlCommandName
  | .string name => ControlCommandName.ofWireName name
  | .object [(name, .null)] => ControlCommandName.ofWireName name
  | .object [(name, .object [])] => ControlCommandName.ofWireName name
  | _ => none

def readCommandTarget (value : Json) : Option CommandTarget := do
  let members ← structMembers ["child_path"] 1 value
  let childPath ← optional members "child_path" Json.asStr
  return ⟨childPath⟩

def readClientCommand (members : Members) : Option ClientCommand := do
  let commandId ← required members "command_id" Json.asStr
  let correlationId ← optional members "correlation_id" Json.asStr
  let targetId ← required members "target_id" Json.asStr
  let command ← required members "command" readControlCommandName
  let target ← required members "target" readCommandTarget
  let reason ← required members "reason" Json.asStr
  let confirmed ← required members "confirmed" Json.asBool
  let requestedBy ← optional members "requested_by" Json.asStr
  return ⟨commandId, correlationId, targetId, command, target, reason, confirmed, requestedBy⟩

def readResumeCursorEntry (value : Json) : Option ResumeCursorEntry := do
  let members ← structMembers
    ["delivery_mode", "filter_config_version", "stream_epoch", "sequence"] 4 value
  let deliveryMode ← required members "delivery_mode" Json.asStr
  let filterConfigVersion ← required members "filter_config_version" Json.asU64
  let streamEpoch ← required members "stream_epoch" Json.asStr
  let sequence ← required members "sequence" Json.asU64
  return ⟨deliveryMode, filterConfigVersion, streamEpoch, sequence⟩

def readResumeCursor (value : Json) : Option ResumeCursor := do
  let members ← structMembers ["events", "logs"] 0 value
  let events ← defaulted members "events" ∅ (readMap readResumeCursorEntry)
  let logs ← defaulted members "logs" ∅ (readMap readResumeCursorEntry)
  return ⟨events, logs⟩

def readClientHello (members : Members) : Option ClientHello := do
  let clientStoreId ← required members "client_store_id" Json.asStr
  let resumeCursor ← defaulted members "resume_cursor" .default readResumeCursor
  return ⟨clientStoreId, resumeCursor⟩

def readLogEventFilterConditions (members : Members) : Option LogEventFilterConditionsMessage := do
  let targetIds ← defaulted members "target_ids" [] (readList Json.asStr)
  let childPaths ← defaulted members "child_paths" [] (readList Json.asStr)
  let lifecycleStates ← defaulted members "lifecycle_states" [] (readList Json.asStr)
  let eventTypes ← defaulted members "event_types" [] (readList Json.asStr)
  let severities ← defaulted members "severities" [] (readList Json.asStr)
  let sequenceMin ← optional members "sequence_min" Json.asU64
  let correlationId ← optional members "correlation_id" Json.asStr
  return ⟨targetIds, childPaths, lifecycleStates, eventTypes, severities, sequenceMin,
    correlationId⟩

/-- The message is read by its `type`, from the members beside it. -/
def readClientMessage : Json → Option ClientMessage
  | .object members =>
    match members.lookup "type" with
    | some (.string "client_hello") => (readClientHello members).map .clientHello
    | some (.string "command") => (readClientCommand members).map .command
    | some (.string "log_event_filter_conditions") =>
        (readLogEventFilterConditions members).map .logEventFilterConditions
    | _ => none
  | _ => none

/-- The reader of `decode_client_message`, up to how serde words its diagnostics and
parses JSON text. -/
def derivedReader (fromStr : String → Except String Json) (diagnostic : Json → String) :
    MessageReader where
  fromStr := fromStr
  fromValue value :=
    match readClientMessage value with
    | some message => .ok message
    | none => .error (diagnostic value)

theorem readClientMessage_hello {members : Members}
    (htype : members.lookup "type" = some (.string "client_hello")) :
    readClientMessage (.object members) = (readClientHello members).map .clientHello := by
  simp [readClientMessage, htype]

theorem readClientMessage_command {members : Members}
    (htype : members.lookup "type" = some (.string "command")) :
    readClientMessage (.object members) = (readClientCommand members).map .command := by
  simp [readClientMessage, htype]

theorem readClientMessage_filter {members : Members}
    (htype : members.lookup "type" = some (.string "log_event_filter_conditions")) :
    readClientMessage (.object members) =
      (readLogEventFilterConditions members).map .logEventFilterConditions := by
  simp [readClientMessage, htype]

/-- What becomes of a parsed object whose `type` is listed: the handshake passes a gate,
every type goes to its reader. -/
theorem decodeClientMessage_object {fromStr : String → Except String Json}
    {diagnostic : Json → String} {raw messageType : String} {members : Members}
    (hparse : fromStr raw = .ok (.object members))
    (htype : members.lookup "type" = some (.string messageType))
    (hlisted : messageType = "client_hello" ∨ messageType = "command" ∨
      messageType = "log_event_filter_conditions") :
    decodeClientMessage (derivedReader fromStr diagnostic) raw =
      if messageType = "client_hello" ∧
          (members.any fun entry => !clientHelloFields.contains entry.1) = true then
        .error (.new "unsupported_field" "session_decode" none
          "message field is not supported by the current protocol" false)
      else
        match readClientMessage (.object members) with
        | some message => .ok message
        | none => .error (.new "invalid_message_schema" "session_decode" none
            ("client message schema is invalid: " ++ diagnostic (.object members)) false) := by
  have hvalue : (Json.object members).get "type" = some (.string messageType) := htype
  simp only [decodeClientMessage, derivedReader, hparse, hvalue, Json.asStr, Option.bind_some,
    Option.some.injEq, ne_eq, pure_bind]
  by_cases hhello : messageType = "client_hello"
  · by_cases hgate : (members.any fun entry => !clientHelloFields.contains entry.1) = true
    · simp only [hhello, hgate, if_true, and_self]
      rfl
    · simp only [hhello, hgate, if_true]
      cases readClientMessage (.object members) <;> rfl
  · have hother : ¬(¬messageType = "command" ∧
        ¬messageType = "log_event_filter_conditions") := by
      tauto
    simp only [hhello, hother, if_false, false_and]
    cases readClientMessage (.object members) <;> rfl

end SupervisorRelay
