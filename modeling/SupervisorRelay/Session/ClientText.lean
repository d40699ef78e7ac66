import SupervisorRelay.Library.SerdeJson
import SupervisorRelay.Source.ClientWriter

/-! Client messages on their way into text. No message nests deeper than its resume cursor,
all its numbers are integers and its names are told apart, so that its text is read back. -/
namespace SupervisorRelay

open Json (Fits depthLimit ofOption ofU64 ofList ofMap)

variable {limit : Nat}

theorem fits_option {α : Type} {write : α → Json} (h : ∀ value, Fits limit (write value))
    (value : Option α) : Fits limit (ofOption write value) := by
  cases value with
  | none => exact Fits.null
  | some stored => exact h stored

theorem fits_u64 (value : UInt64) : Fits limit (ofU64 value) :=
  Fits.integer trivial

theorem fits_list {α : Type} {write : α → Json} (h : ∀ value, Fits limit (write value))
    (items : List α) : Fits (limit + 1) (ofList write items) := by
  refine Fits.array fun item hmem => ?_
  obtain ⟨value, -, rfl⟩ := List.mem_map.mp hmem
  exact h value

theorem fits_map {α : Type} {write : α → Json} (h : ∀ value, Fits limit (write value))
    (entries : HashMap String α) : Fits (limit + 1) (ofMap write entries) := by
  refine Fits.object ?_ fun member hmem => ?_
  · have hkeys := entries.nodupKeys
    rw [List.map_map]
    exact hkeys
  · obtain ⟨entry, -, rfl⟩ := List.mem_map.mp hmem
    exact h entry.2

theorem writeCommandTarget_fits (target : CommandTarget) :
    Fits (limit + 1) (writeCommandTarget target) := by
  refine Fits.named ["child_path"] rfl (by decide) ?_
  simp only [List.forall_mem_cons]
  exact ⟨fits_option Fits.string _, List.forall_mem_nil _⟩

theorem writeResumeCursorEntry_fits (entry : ResumeCursorEntry) :
    Fits (limit + 1) (writeResumeCursorEntry entry) := by
  refine Fits.named ["delivery_mode", "filter_config_version", "stream_epoch", "sequence"] rfl
    (by decide) ?_
  simp only [List.forall_mem_cons]
  exact ⟨Fits.string _, fits_u64 _, Fits.string _, fits_u64 _, List.forall_mem_nil _⟩

theorem writeResumeCursor_fits (cursor : ResumeCursor) :
    Fits (limit + 3) (writeResumeCursor cursor) := by
  refine Fits.named ["events", "logs"] rfl (by decide) ?_
  simp only [List.forall_mem_cons]
  exact ⟨fits_map writeResumeCursorEntry_fits _, fits_map writeResumeCursorEntry_fits _,
    List.forall_mem_nil _⟩

theorem writeClientMessage_fits (message : ClientMessage) :
    Fits 4 (writeClientMessage message) := by
  cases message with
  | clientHello hello =>
      refine Fits.named ["type", "client_store_id", "resume_cursor"] rfl (by decide) ?_
      simp only [clientHelloMembers, List.forall_mem_cons]
      exact ⟨Fits.string _, Fits.string _, writeResumeCursor_fits _, List.forall_mem_nil _⟩
  | command command =>
      refine Fits.named ["type", "command_id", "correlation_id", "target_id", "command", "target",
        "reason", "confirmed", "requested_by"] rfl (by decide) ?_
      simp only [clientCommandMembers, List.forall_mem_cons]
      exact ⟨Fits.string _, Fits.string _, fits_option Fits.string _, Fits.string _,
        Fits.string _, writeCommandTarget_fits _, Fits.string _, Fits.bool _,
        fits_option Fits.string _, List.forall_mem_nil _⟩
  | logEventFilterConditions conditions =>
      refine Fits.named ["type", "target_ids", "child_paths", "lifecycle_states", "event_types",
        "severities", "sequence_min", "correlation_id"] rfl (by decide) ?_
      simp only [logEventFilterConditionsMembers, List.forall_mem_cons]
      exact ⟨Fits.string _, fits_list Fits.string _, fits_list Fits.string _,
        fits_list Fits.string _, fits_list Fits.string _, fits_list Fits.string _,
        fits_option fits_u64 _, fits_option Fits.string _, List.forall_mem_nil _⟩

theorem clientMessage_parsesBack {json : SerdeJson} (hjson : json.Lawful)
    (message : ClientMessage) :
    Json.ParsesBack json.toString json.fromStr (writeClientMessage message) :=
  hjson.parsesBack ((writeClientMessage_fits message).mono (by decide))

end SupervisorRelay
