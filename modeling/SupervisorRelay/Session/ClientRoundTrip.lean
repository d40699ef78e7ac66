import SupervisorRelay.Source.ClientReader
import SupervisorRelay.Source.ClientWriter

/-! Client messages on their way through JSON text. What a client writes, the relay
reads back, and the gate in front of the handshake reader lets its own fields pass. -/
namespace SupervisorRelay

open Json (Members Same SameMembers Reads ofOption ofU64 ofList ofMap reads_str reads_bool reads_u64
  reads_list required_reads optional_reads defaulted_written defaulted_reads readMap_ofMap)

/-- Two cursors with the same entries: maps are equal whatever their order. -/
structure ResumeCursor.Same (cursor other : ResumeCursor) : Prop where
  events : ∀ key, other.events.lookup key = cursor.events.lookup key
  logs : ∀ key, other.logs.lookup key = cursor.logs.lookup key

/-- Equality of messages. -/
inductive ClientMessage.Same : ClientMessage → ClientMessage → Prop where
  | clientHello (clientStoreId : String) {cursor other : ResumeCursor} (h : cursor.Same other) :
      Same (.clientHello ⟨clientStoreId, cursor⟩) (.clientHello ⟨clientStoreId, other⟩)
  | command (command : ClientCommand) : Same (.command command) (.command command)
  | logEventFilterConditions (conditions : LogEventFilterConditionsMessage) :
      Same (.logEventFilterConditions conditions) (.logEventFilterConditions conditions)

theorem string_ne_null (value : String) : Json.string value ≠ .null := by
  simp

theorem ofU64_ne_null (value : UInt64) : ofU64 value ≠ .null := by
  simp [ofU64]

theorem reads_controlCommandName : Reads readControlCommandName writeControlCommandName := by
  intro name json hsame
  cases hsame
  cases name <;> rfl

theorem reads_commandTarget : Reads readCommandTarget writeCommandTarget := by
  intro target json hsame
  cases hsame with
  | object hdistinct hmembers =>
      rename_i others
      have hpath : Json.optional others "child_path" Json.asStr = some target.childPath :=
        optional_reads reads_str string_ne_null hmembers rfl
      simp [readCommandTarget, Json.structMembers, hpath]

theorem reads_resumeCursorEntry : Reads readResumeCursorEntry writeResumeCursorEntry := by
  intro entry json hsame
  cases hsame with
  | object hdistinct hmembers =>
      rename_i others
      have hmode : Json.required others "delivery_mode" Json.asStr = some entry.deliveryMode :=
        required_reads reads_str hmembers rfl
      have hversion : Json.required others "filter_config_version" Json.asU64 =
          some entry.filterConfigVersion :=
        required_reads reads_u64 hmembers rfl
      have hepoch : Json.required others "stream_epoch" Json.asStr = some entry.streamEpoch :=
        required_reads reads_str hmembers rfl
      have hsequence : Json.required others "sequence" Json.asU64 = some entry.sequence :=
        required_reads reads_u64 hmembers rfl
      simp [readResumeCursorEntry, Json.structMembers, hmode, hversion, hepoch, hsequence]

theorem readResumeCursor_written {cursor : ResumeCursor} {json : Json}
    (hsame : Json.Same (writeResumeCursor cursor) json) :
    ∃ other, readResumeCursor json = some other ∧ cursor.Same other := by
  cases hsame with
  | object hdistinct hmembers =>
      rename_i others
      have hmap (key : String) (map : HashMap String ResumeCursorEntry)
          (hmember : List.lookup key [("events", ofMap writeResumeCursorEntry cursor.events),
            ("logs", ofMap writeResumeCursorEntry cursor.logs)] =
              some (ofMap writeResumeCursorEntry map)) :
          ∃ entries, Json.defaulted others key ∅ (Json.readMap readResumeCursorEntry) =
              some entries ∧ ∀ targetId, entries.lookup targetId = map.lookup targetId := by
        obtain ⟨json, hwritten, hread⟩ :=
          defaulted_written hmembers hmember ∅ (Json.readMap readResumeCursorEntry)
        rw [hread]
        exact readMap_ofMap reads_resumeCursorEntry hwritten
      obtain ⟨events, hevents, hsameEvents⟩ := hmap "events" cursor.events rfl
      obtain ⟨logs, hlogs, hsameLogs⟩ := hmap "logs" cursor.logs rfl
      refine ⟨⟨events, logs⟩, ?_, ⟨hsameEvents, hsameLogs⟩⟩
      simp [readResumeCursor, Json.structMembers, hevents, hlogs]

variable {others : Members}

theorem readClientHello_written {hello : ClientHello}
    (hmembers : SameMembers (("type", .string "client_hello") :: clientHelloMembers hello) others) :
    ∃ other, readClientHello others = some ⟨hello.clientStoreId, other⟩ ∧
      hello.resumeCursor.Same other := by
  have hid : Json.required others "client_store_id" Json.asStr = some hello.clientStoreId :=
    required_reads reads_str hmembers rfl
  have hcursor : List.lookup "resume_cursor" (("type", .string "client_hello") ::
      clientHelloMembers hello) = some (writeResumeCursor hello.resumeCursor) := rfl
  obtain ⟨json, hwritten, hread⟩ :=
    defaulted_written hmembers hcursor ResumeCursor.default readResumeCursor
  obtain ⟨other, hother, hsame⟩ := readResumeCursor_written hwritten
  refine ⟨other, ?_, hsame⟩
  simp [readClientHello, hid, hread, hother]

theorem readClientCommand_written {command : ClientCommand}
    (hmembers : SameMembers (("type", .string "command") :: clientCommandMembers command) others) :
    readClientCommand others = some command := by
  have hid : Json.required others "command_id" Json.asStr = some command.commandId :=
    required_reads reads_str hmembers rfl
  have hcorrelation : Json.optional others "correlation_id" Json.asStr =
      some command.correlationId :=
    optional_reads reads_str string_ne_null hmembers rfl
  have htarget : Json.required others "target_id" Json.asStr = some command.targetId :=
    required_reads reads_str hmembers rfl
  have hcommand : Json.required others "command" readControlCommandName = some command.command :=
    required_reads reads_controlCommandName hmembers rfl
  have hplace : Json.required others "target" readCommandTarget = some command.target :=
    required_reads reads_commandTarget hmembers rfl
  have hreason : Json.required others "reason" Json.asStr = some command.reason :=
    required_reads reads_str hmembers rfl
  have hconfirmed : Json.required others "confirmed" Json.asBool = some command.confirmed :=
    required_reads reads_bool hmembers rfl
  have hrequested : Json.optional others "requested_by" Json.asStr = some command.requestedBy :=
    optional_reads reads_str string_ne_null hmembers rfl
  simp [readClientCommand, hid, hcorrelation, htarget, hcommand, hplace, hreason, hconfirmed,
    hrequested]

theorem readLogEventFilterConditions_written {conditions : LogEventFilterConditionsMessage}
    (hmembers : SameMembers (("type", .string "log_event_filter_conditions") ::
      logEventFilterConditionsMembers conditions) others) :
    readLogEventFilterConditions others = some conditions := by
  have hreads := reads_list reads_str
  have htargets : Json.defaulted others "target_ids" [] (Json.readList Json.asStr) =
      some conditions.targetIds :=
    defaulted_reads hreads hmembers rfl []
  have hpaths : Json.defaulted others "child_paths" [] (Json.readList Json.asStr) =
      some conditions.childPaths :=
    defaulted_reads hreads hmembers rfl []
  have hstates : Json.defaulted others "lifecycle_states" [] (Json.readList Json.asStr) =
      some conditions.lifecycleStates :=
    defaulted_reads hreads hmembers rfl []
  have htypes : Json.defaulted others "event_types" [] (Json.readList Json.asStr) =
      some conditions.eventTypes :=
    defaulted_reads hreads hmembers rfl []
  have hseverities : Json.defaulted others "severities" [] (Json.readList Json.asStr) =
      some conditions.severities :=
    defaulted_reads hreads hmembers rfl []
  have hsequence : Json.optional others "sequence_min" Json.asU64 = some conditions.sequenceMin :=
    optional_reads reads_u64 ofU64_ne_null hmembers rfl
  have hcorrelation : Json.optional others "correlation_id" Json.asStr =
      some conditions.correlationId :=
    optional_reads reads_str string_ne_null hmembers rfl
  simp [readLogEventFilterConditions, htargets, hpaths, hstates, htypes, hseverities, hsequence,
    hcorrelation]

theorem type_written {messageType : String} {fields : Members}
    (hmembers : SameMembers (("type", .string messageType) :: fields) others) :
    others.lookup "type" = some (.string messageType) := by
  obtain ⟨value, hvalue, hsame⟩ := hmembers.lookup List.lookup_cons_self
  cases hsame
  exact hvalue

/-- A written handshake has no other fields than the gate lists. -/
theorem clientHello_passes {hello : ClientHello}
    (hmembers : SameMembers (("type", .string "client_hello") :: clientHelloMembers hello) others) :
    (others.any fun entry => !clientHelloFields.contains entry.1) = false := by
  rw [List.any_eq_false]
  intro entry hmem
  have hkey : entry.1 ∈ clientHelloFields := hmembers.mem_keys hmem
  simp [hkey]

/-- Whatever a client sends, `decode_client_message` reads the same message out of the text
that it was written to. -/
theorem decode_undoes_encode (toString : Json → String) (fromStr : String → Except String Json)
    (diagnostic : Json → String) (message : ClientMessage)
    (hinverse : Json.ParsesBack toString fromStr (writeClientMessage message)) :
    ∃ decoded, decodeClientMessage (derivedReader fromStr diagnostic)
        (toString (writeClientMessage message)) = .ok decoded ∧ message.Same decoded := by
  obtain ⟨parsed, hparse, hsame⟩ := hinverse
  cases message with
  | clientHello hello =>
      cases hsame with
      | object hdistinct hmembers =>
          have htype := type_written hmembers
          obtain ⟨cursor, hread, hcursor⟩ := readClientHello_written hmembers
          refine ⟨.clientHello ⟨hello.clientStoreId, cursor⟩, ?_, .clientHello _ hcursor⟩
          rw [decodeClientMessage_object hparse htype (.inl rfl), clientHello_passes hmembers,
            if_neg (by simp), readClientMessage_hello htype, hread, Option.map_some]
  | command command =>
      cases hsame with
      | object hdistinct hmembers =>
          have htype := type_written hmembers
          refine ⟨.command command, ?_, .command command⟩
          rw [decodeClientMessage_object hparse htype (.inr (.inl rfl)), if_neg (by simp),
            readClientMessage_command htype, readClientCommand_written hmembers, Option.map_some]
  | logEventFilterConditions conditions =>
      cases hsame with
      | object hdistinct hmembers =>
          have htype := type_written hmembers
          refine ⟨.logEventFilterConditions conditions, ?_, .logEventFilterConditions conditions⟩
          rw [decodeClientMessage_object hparse htype (.inr (.inr rfl)), if_neg (by simp),
            readClientMessage_filter htype, readLogEventFilterConditions_written hmembers,
            Option.map_some]

def sampleEntry : ResumeCursorEntry :=
  ⟨"remote", 1, "epoch-1", 18446744073709551615⟩

/-- A handshake that resumes one event stream at the last sequence there is. -/
def resumingHello : ClientMessage :=
  .clientHello ⟨"store-a", ⟨(∅ : HashMap String ResumeCursorEntry).insert "payments-worker-a"
    sampleEntry, ∅⟩⟩

def resumingText : String :=
  "\x7b\"type\":\"client_hello\",\"client_store_id\":\"store-a\",\"resume_cursor\":\x7b" ++
    "\"events\":\x7b\"payments-worker-a\":\x7b\"delivery_mode\":\"remote\"," ++
    "\"filter_config_version\":1,\"stream_epoch\":\"epoch-1\"," ++
    "\"sequence\":18446744073709551615\x7d\x7d,\"logs\":\x7b\x7d\x7d\x7d"

/-- The members in the order of their names, as the parser keeps them. -/
def sortedEntry : Json :=
  .object
    [("delivery_mode", .string "remote"), ("filter_config_version", Json.ofU64 1),
      ("sequence", Json.ofU64 18446744073709551615), ("stream_epoch", .string "epoch-1")]

def sortedHello : Json :=
  .object
    [("client_store_id", .string "store-a"),
      ("resume_cursor", .object
        [("events", .object [("payments-worker-a", sortedEntry)]), ("logs", .object [])]),
      ("type", .string "client_hello")]

theorem sortedEntry_same : Json.Same (writeResumeCursorEntry sampleEntry) sortedEntry := by
  refine .object (by decide) fun key => ?_
  by_cases hmode : key = "delivery_mode"
  · subst hmode
    exact .some (.string _)
  by_cases hversion : key = "filter_config_version"
  · subst hversion
    exact .some (.number _)
  by_cases hepoch : key = "stream_epoch"
  · subst hepoch
    exact .some (.string _)
  by_cases hsequence : key = "sequence"
  · subst hsequence
    exact .some (.number _)
  · simp [List.lookup_cons, beq_false_of_ne, hmode, hversion, hepoch, hsequence]

theorem sortedHello_same : Json.Same (writeClientMessage resumingHello) sortedHello := by
  have hevents : Json.Same (.object [("payments-worker-a", writeResumeCursorEntry sampleEntry)])
      (.object [("payments-worker-a", sortedEntry)]) := by
    refine .object (by decide) fun key => ?_
    by_cases htarget : key = "payments-worker-a"
    · subst htarget
      exact .some sortedEntry_same
    · simp [List.lookup_cons, beq_false_of_ne, htarget]
  have hcursor : Json.Same (.object
      [("events", .object [("payments-worker-a", writeResumeCursorEntry sampleEntry)]),
        ("logs", .object [])])
      (.object [("events", .object [("payments-worker-a", sortedEntry)]),
        ("logs", .object [])]) := by
    refine .object (by decide) fun key => ?_
    by_cases hkey : key = "events"
    · subst hkey
      exact .some hevents
    by_cases hlogs : key = "logs"
    · subst hlogs
      exact .some (.object (by decide) fun _ => .none)
    · simp [List.lookup_cons, beq_false_of_ne, hkey, hlogs]
  refine .object (by decide) fun key => ?_
  by_cases htype : key = "type"
  · subst htype
    exact .some (.string _)
  by_cases hstore : key = "client_store_id"
  · subst hstore
    exact .some (.string _)
  by_cases hresume : key = "resume_cursor"
  · subst hresume
    exact .some hcursor
  · simp [clientHelloMembers, List.lookup_cons, beq_false_of_ne, htype, hstore, hresume]

/-- A parser that knows the one text. -/
def resumingFromStr (raw : String) : Except String Json :=
  if raw = resumingText then .ok sortedHello else .error "expected value at line 1 column 1"

theorem decode_undoes_encode_resuming :
    ∃ decoded, decodeClientMessage (derivedReader resumingFromStr fun _ => "missing field")
      resumingText = .ok decoded ∧ resumingHello.Same decoded := by
  have hinverse : Json.ParsesBack (fun _ => resumingText) resumingFromStr
      (writeClientMessage resumingHello) := ⟨sortedHello, if_pos rfl, sortedHello_same⟩
  exact decode_undoes_encode (fun _ => resumingText) resumingFromStr (fun _ => "missing field")
    resumingHello hinverse

end SupervisorRelay
