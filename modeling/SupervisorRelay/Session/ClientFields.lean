import SupervisorRelay.Source.ClientReader

/-! Which fields of a client message are checked. The handshake goes through a list of
its fields; the other messages go straight to readers that skip what they do not know. -/
namespace SupervisorRelay

open Json (Members Holds Permits PermitsNull required_isSome optional_isSome defaulted_isSome
  bind_isSome)

/-- The fields that a message declares beside its `type`. -/
def declaredFields (messageType : String) : List String :=
  match messageType with
  | "client_hello" => ["client_store_id", "resume_cursor"]
  | "command" =>
      ["command_id", "correlation_id", "target_id", "command", "target", "reason", "confirmed",
        "requested_by"]
  | "log_event_filter_conditions" =>
      ["target_ids", "child_paths", "lifecycle_states", "event_types", "severities",
        "sequence_min", "correlation_id"]
  | _ => []

def IsDeclared (messageType key : String) : Prop :=
  key = "type" ∨ key ∈ declaredFields messageType

/-- The declared members of a command, each in its form. -/
structure CommandMembers (members : Members) : Prop where
  commandId : Holds members "command_id" Json.asStr
  correlationId : PermitsNull members "correlation_id" Json.asStr
  targetId : Holds members "target_id" Json.asStr
  command : Holds members "command" readControlCommandName
  target : Holds members "target" readCommandTarget
  reason : Holds members "reason" Json.asStr
  confirmed : Holds members "confirmed" Json.asBool
  requestedBy : PermitsNull members "requested_by" Json.asStr

structure FilterMembers (members : Members) : Prop where
  targetIds : Permits members "target_ids" (Json.readList Json.asStr)
  childPaths : Permits members "child_paths" (Json.readList Json.asStr)
  lifecycleStates : Permits members "lifecycle_states" (Json.readList Json.asStr)
  eventTypes : Permits members "event_types" (Json.readList Json.asStr)
  severities : Permits members "severities" (Json.readList Json.asStr)
  sequenceMin : PermitsNull members "sequence_min" Json.asU64
  correlationId : PermitsNull members "correlation_id" Json.asStr

theorem readClientCommand_isSome {members : Members} :
    (readClientCommand members).isSome = true ↔ CommandMembers members := by
  have hchain : (readClientCommand members).isSome = true ↔ _ :=
    bind_isSome fun _ => bind_isSome fun _ => bind_isSome fun _ => bind_isSome fun _ =>
      bind_isSome fun _ => bind_isSome fun _ => bind_isSome fun _ => bind_isSome fun _ =>
        iff_of_true rfl trivial
  simp only [required_isSome, optional_isSome, and_true] at hchain
  rw [hchain]
  constructor
  · rintro ⟨hid, hcorrelation, htarget, hcommand, hplace, hreason, hconfirmed, hrequested⟩
    exact ⟨hid, hcorrelation, htarget, hcommand, hplace, hreason, hconfirmed, hrequested⟩
  · intro h
    exact ⟨h.commandId, h.correlationId, h.targetId, h.command, h.target, h.reason, h.confirmed,
      h.requestedBy⟩

theorem readLogEventFilterConditions_isSome {members : Members} :
    (readLogEventFilterConditions members).isSome = true ↔ FilterMembers members := by
  have hchain : (readLogEventFilterConditions members).isSome = true ↔ _ :=
    bind_isSome fun _ => bind_isSome fun _ => bind_isSome fun _ => bind_isSome fun _ =>
      bind_isSome fun _ => bind_isSome fun _ => bind_isSome fun _ => iff_of_true rfl trivial
  simp only [defaulted_isSome, optional_isSome, and_true] at hchain
  rw [hchain]
  constructor
  · rintro ⟨htargets, hpaths, hstates, htypes, hseverities, hsequence, hcorrelation⟩
    exact ⟨htargets, hpaths, hstates, htypes, hseverities, hsequence, hcorrelation⟩
  · intro h
    exact ⟨h.targetIds, h.childPaths, h.lifecycleStates, h.eventTypes, h.severities,
      h.sequenceMin, h.correlationId⟩

variable {fromStr : String → Except String Json} {diagnostic : Json → String} {raw : String}
variable {members : Members}

/-- Some member of the object is no field of its message. -/
def HasUndeclared (messageType : String) (members : Members) : Prop :=
  ∃ entry ∈ members, ¬IsDeclared messageType entry.1

/-- The gate in front of the handshake reader. -/
theorem decode_clientHello_refuses (hparse : fromStr raw = .ok (.object members))
    (htype : members.lookup "type" = some (.string "client_hello"))
    (hextra : HasUndeclared "client_hello" members) :
    ∃ error, decodeClientMessage (derivedReader fromStr diagnostic) raw = .error error := by
  have hgate : (members.any fun entry => !clientHelloFields.contains entry.1) = true := by
    obtain ⟨entry, hmem, hundeclared⟩ := hextra
    refine List.any_eq_true.mpr ⟨entry, hmem, ?_⟩
    simpa [clientHelloFields, IsDeclared, declaredFields] using hundeclared
  rw [decodeClientMessage_object hparse htype (.inl rfl), if_pos ⟨rfl, hgate⟩]
  exact ⟨_, rfl⟩

/-- The other messages are refused by their readers alone. -/
theorem decode_ungated_refuses {messageType : String}
    (hparse : fromStr raw = .ok (.object members))
    (htype : members.lookup "type" = some (.string messageType))
    (hmessage : messageType = "command" ∨ messageType = "log_event_filter_conditions") :
    (∃ error, decodeClientMessage (derivedReader fromStr diagnostic) raw = .error error) ↔
      ¬(readClientMessage (.object members)).isSome = true := by
  have hungated : ¬(messageType = "client_hello" ∧
      (members.any fun entry => !clientHelloFields.contains entry.1) = true) := by
    rintro ⟨rfl, -⟩
    simp at hmessage
  rw [decodeClientMessage_object hparse htype (.inr hmessage), if_neg hungated]
  cases readClientMessage (.object members) with
  | none => simp
  | some message => simp

/-- A message with a field that the protocol does not have is refused exactly when it is
a handshake, or when the fields that the protocol has would not make a message of its
type either. -/
theorem undeclared_fields_refused_iff (fromStr : String → Except String Json)
    (diagnostic : Json → String) (raw : String) (members : Members) (messageType : String)
    (hparse : fromStr raw = .ok (.object members))
    (htype : members.lookup "type" = some (.string messageType))
    (hmessage : messageType = "client_hello" ∨ messageType = "command" ∨
      messageType = "log_event_filter_conditions") :
    (HasUndeclared messageType members →
        ∃ error, decodeClientMessage (derivedReader fromStr diagnostic) raw = .error error) ↔
      (HasUndeclared messageType members → messageType = "client_hello" ∨
        (messageType = "command" ∧ ¬CommandMembers members) ∨
        (messageType = "log_event_filter_conditions" ∧ ¬FilterMembers members)) := by
  refine imp_congr_right fun hextra => ?_
  rcases hmessage with rfl | rfl | rfl
  · exact iff_of_true (decode_clientHello_refuses hparse htype hextra) (.inl rfl)
  · rw [decode_ungated_refuses hparse htype (.inl rfl), readClientMessage_command htype,
      Option.isSome_map, readClientCommand_isSome]
    simp
  · rw [decode_ungated_refuses hparse htype (.inr rfl), readClientMessage_filter htype,
      Option.isSome_map, readLogEventFilterConditions_isSome]
    simp

/-- A message with the resume field of an earlier protocol. -/
def historicalText (messageType : String) : String :=
  "\x7b\"type\":\"" ++ messageType ++ "\",\"client_store_id\":\"store-a\"," ++
    "\"sequence_from\":\x7b\"events\":\x7b\x7d\x7d\x7d"

def historicalMembers (messageType : String) : Members :=
  [("type", .string messageType), ("client_store_id", .string "store-a"),
    ("sequence_from", .object [("events", .object [])])]

/-- A parser that knows the two texts. -/
def historicalFromStr (raw : String) : Except String Json :=
  if raw = historicalText "client_hello" then .ok (.object (historicalMembers "client_hello"))
  else if raw = historicalText "log_event_filter_conditions" then
    .ok (.object (historicalMembers "log_event_filter_conditions"))
  else .error "expected value at line 1 column 1"

/-- No message declares the resume field. -/
theorem historicalMembers_undeclared (messageType : String) :
    HasUndeclared messageType (historicalMembers messageType) := by
  refine ⟨("sequence_from", .object [("events", .object [])]), by simp [historicalMembers], ?_⟩
  unfold IsDeclared declaredFields
  split <;> simp

theorem undeclared_fields_refused_iff_hello :
    HasUndeclared "client_hello" (historicalMembers "client_hello") ∧
      ∃ error, decodeClientMessage (derivedReader historicalFromStr fun _ => "missing field")
        (historicalText "client_hello") = .error error := by
  have hextra := historicalMembers_undeclared "client_hello"
  exact ⟨hextra, (undeclared_fields_refused_iff historicalFromStr (fun _ => "missing field")
    (historicalText "client_hello") (historicalMembers "client_hello") "client_hello"
    (if_pos rfl) rfl (.inl rfl)).mpr (fun _ => .inl rfl) hextra⟩

theorem filter_skips_sequence_from :
    ¬(HasUndeclared "log_event_filter_conditions"
        (historicalMembers "log_event_filter_conditions") →
      ∃ error, decodeClientMessage (derivedReader historicalFromStr fun _ => "missing field")
        (historicalText "log_event_filter_conditions") = .error error) := by
  intro h
  obtain ⟨error, herror⟩ := h (historicalMembers_undeclared "log_event_filter_conditions")
  cases herror

end SupervisorRelay
