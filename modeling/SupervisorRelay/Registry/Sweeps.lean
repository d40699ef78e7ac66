import Mathlib.Algebra.GroupWithZero.Nat
import SupervisorRelay.Registry.Invariant

/-! Schedules of the expiry sweep. Sweeping early and often expires the same targets
as sweeping once at the end, each of them once, in whatever order the maps are
visited. -/
namespace SupervisorRelay.TargetProcessRegistry

variable {registry other : TargetProcessRegistry} {first last now : OffsetDateTime}

/-- The targets that a sweep counts. -/
def dueTargets (registry : TargetProcessRegistry) (now : OffsetDateTime) : List String :=
  (registry.registrations.values.filter (leaseDue now)).map (·.targetId)

/-- A connection but for the time of its last change. -/
def restamped (time : OffsetDateTime) (connection : TargetProcessConnection) :
    TargetProcessConnection :=
  { connection with updatedAt := time }

/-- What one sweep reports, and the targets that it counts. -/
structure Sweep where
  count : Nat
  targets : List String

def sweepMachine : Machine TargetProcessRegistry OffsetDateTime Sweep where
  step registry now :=
    ((registry.expireLeases now).2,
      [⟨(registry.expireLeases now).1, registry.dueTargets now⟩])

@[simp] theorem sweepMachine_step (registry : TargetProcessRegistry) (now : OffsetDateTime) :
    sweepMachine.step registry now =
      ((registry.expireLeases now).2, [⟨(registry.expireLeases now).1, registry.dueTargets now⟩]) :=
  rfl

theorem expireLeases_counts_dueTargets (registry : TargetProcessRegistry) (now : OffsetDateTime) :
    (registry.expireLeases now).1 = (registry.dueTargets now).length := by
  rw [expireLeases_count, dueTargets, List.length_map, List.countP_eq_length_filter]

theorem leaseDue_mono (h : first ≤ last) {registration : TargetProcessRegistration}
    (hdue : leaseDue first registration = true) : leaseDue last registration = true := by
  simp only [leaseDue, Bool.and_eq_true, decide_eq_true_eq] at hdue ⊢
  exact ⟨hdue.1, OffsetDateTime.le_trans hdue.2 h⟩

theorem expireRegistration_targetId (now : OffsetDateTime)
    (registration : TargetProcessRegistration) :
    (expireRegistration now registration).targetId = registration.targetId := by
  unfold expireRegistration
  split <;> rfl

theorem expireRegistration_due {registration : TargetProcessRegistration}
    (hdue : leaseDue now registration = true) :
    expireRegistration now registration = { registration with registrationState := .expired } :=
  if_pos hdue

theorem expireRegistration_notDue {registration : TargetProcessRegistration}
    (hdue : ¬leaseDue now registration = true) :
    expireRegistration now registration = registration :=
  if_neg hdue

/-- The flag guard: what an earlier sweep took, a later one does not find. -/
theorem leaseDue_expireRegistration (registration : TargetProcessRegistration) :
    leaseDue last (expireRegistration first registration) =
      (!leaseDue first registration && leaseDue last registration) := by
  by_cases hdue : leaseDue first registration = true
  · rw [expireRegistration_due hdue, hdue]
    simp [leaseDue]
  · rw [expireRegistration_notDue hdue]
    simp [hdue]

theorem expireRegistration_twice (h : first ≤ last) (registration : TargetProcessRegistration) :
    expireRegistration last (expireRegistration first registration) =
      expireRegistration last registration := by
  by_cases hdue : leaseDue first registration = true
  · have hguard : ¬leaseDue last (expireRegistration first registration) = true := by
      simp [leaseDue_expireRegistration, hdue]
    rw [expireRegistration_notDue hguard, expireRegistration_due hdue,
      expireRegistration_due (leaseDue_mono h hdue)]
  · rw [expireRegistration_notDue hdue]

theorem registrations_swept_twice (h : first ≤ last) :
    ((registry.expireLeases first).2.expireLeases last).2.registrations =
      (registry.expireLeases last).2.registrations := by
  rw [expireLeases_registrations, expireLeases_registrations, expireLeases_registrations,
    HashMap.mapValues_mapValues]
  congr 1
  funext _ registration
  exact expireRegistration_twice h registration

theorem dueTargets_swept (registry : TargetProcessRegistry) (first last : OffsetDateTime) :
    (registry.expireLeases first).2.dueTargets last =
      (registry.registrations.values.filter fun registration =>
        !leaseDue first registration && leaseDue last registration).map (·.targetId) := by
  unfold dueTargets
  rw [expireLeases_registrations, HashMap.values_mapValues, List.filter_map, List.map_map]
  have hid : (fun registration => registration.targetId) ∘ expireRegistration first =
      fun registration => registration.targetId := by
    funext registration
    exact expireRegistration_targetId first registration
  have hdue : leaseDue last ∘ expireRegistration first =
      fun registration => !leaseDue first registration && leaseDue last registration := by
    funext registration
    exact leaseDue_expireRegistration registration
  rw [hid, hdue]

/-- Two sweeps share out the targets that the later one alone would count. -/
theorem dueTargets_swept_twice (registry : TargetProcessRegistry) (h : first ≤ last) :
    (registry.dueTargets first ++ (registry.expireLeases first).2.dueTargets last).Perm
      (registry.dueTargets last) := by
  have hearly : registry.registrations.values.filter (leaseDue first) =
      (registry.registrations.values.filter (leaseDue last)).filter (leaseDue first) := by
    rw [List.filter_filter]
    apply List.filter_congr
    intro registration _
    cases hdue : leaseDue first registration with
    | false => simp
    | true => simp [leaseDue_mono h hdue]
  rw [dueTargets_swept, dueTargets, dueTargets, hearly, ← List.filter_filter, ← List.map_append]
  exact (List.filter_append_perm (leaseDue first) _).map _

/-- Two sweeps leave each connection as the later one alone does, but for the time at
which the earlier one expired it. -/
theorem WellFormed.connections_swept_twice (hwf : WellFormed registry) (h : first ≤ last)
    (targetId : String) :
    let twice := ((registry.expireLeases first).2.expireLeases last).2.connections.lookup targetId
    let once := (registry.expireLeases last).2.connections.lookup targetId
    ((registry.registrations.lookup targetId).any (leaseDue first) = false → twice = once) ∧
      ∀ time, twice.map (restamped time) = once.map (restamped time) := by
  have hwf' : WellFormed (registry.expireLeases first).2 :=
    hwf.of_frames (expireLeases_frames first)
  intro twice once
  have htwice : twice = _ := hwf'.sweep_connection last targetId
  have honce : once = _ := hwf.sweep_connection last targetId
  rw [lookup_swept, hwf.sweep_connection first targetId] at htwice
  rw [htwice, honce]
  cases registry.registrations.lookup targetId with
  | none => simp
  | some registration =>
      simp only [Option.map_some, Option.any_some, leaseDue_expireRegistration]
      by_cases hdue : leaseDue first registration = true
      · have hlater := leaseDue_mono h hdue
        refine ⟨by simp [hdue], fun time => ?_⟩
        simp only [hdue, hlater, Bool.not_true, Bool.false_and, Bool.false_eq_true, if_false,
          if_true, Option.map_map]
        rfl
      · simp [hdue]

/-- A schedule of sweeps that ends at `last`, against the one sweep at `last`. -/
structure SweepsAsOne (registry : TargetProcessRegistry) (times : List OffsetDateTime)
    (last : OffsetDateTime) : Prop where
  targets : ((sweepMachine.history registry times).flatMap (·.targets)).Perm
    (registry.dueTargets last)
  registrations : (sweepMachine.final registry times).registrations =
    (registry.expireLeases last).2.registrations
  kept : ∀ targetId, targetId ∉ registry.dueTargets last →
    (sweepMachine.final registry times).connections.lookup targetId =
      (registry.expireLeases last).2.connections.lookup targetId
  expired : ∀ targetId time,
    ((sweepMachine.final registry times).connections.lookup targetId).map (restamped time) =
      ((registry.expireLeases last).2.connections.lookup targetId).map (restamped time)

theorem WellFormed.mem_dueTargets (hwf : WellFormed registry) {targetId : String} :
    targetId ∈ registry.dueTargets now ↔
      (registry.registrations.lookup targetId).any (leaseDue now) = true := by
  unfold dueTargets
  rw [HashMap.filter_values_map hwf.registrationId, List.mem_filter]
  refine and_iff_right_of_imp fun hdue => ?_
  obtain ⟨registration, hlookup, -⟩ := (Option.any_eq_true _ _).mp hdue
  exact HashMap.mem_of_lookup hlookup

/-- One more sweep in front, induction on the schedule. -/
theorem WellFormed.sweepsAsOne (hwf : WellFormed registry) {times : List OffsetDateTime}
    (hsorted : (times ++ [last]).Pairwise (· ≤ ·)) :
    SweepsAsOne registry (times ++ [last]) last := by
  induction times generalizing registry with
  | nil => exact ⟨by simp [sweepMachine], rfl, fun _ _ => rfl, fun _ _ => rfl⟩
  | cons first rest ih =>
      rw [List.cons_append, List.pairwise_cons] at hsorted
      have hle : first ≤ last := hsorted.1 last (by simp)
      have hshares := registry.dueTargets_swept_twice hle
      have hrest := ih (hwf.of_frames (expireLeases_frames first)) hsorted.2
      constructor
      · exact (hrest.targets.append_left _).trans hshares
      · exact hrest.registrations.trans (registrations_swept_twice hle)
      · intro targetId hkept
        have hlater : targetId ∉ (registry.expireLeases first).2.dueTargets last := fun hmem =>
          hkept (hshares.mem_iff.mp (List.mem_append_right _ hmem))
        have hearlier : targetId ∉ registry.dueTargets first := fun hmem =>
          hkept (hshares.mem_iff.mp (List.mem_append_left _ hmem))
        rw [hwf.mem_dueTargets, Bool.not_eq_true] at hearlier
        exact (hrest.kept targetId hlater).trans
          ((hwf.connections_swept_twice hle targetId).1 hearlier)
      · intro targetId time
        exact (hrest.expired targetId time).trans
          ((hwf.connections_swept_twice hle targetId).2 time)

theorem WellFormed.nodup_dueTargets (hwf : WellFormed registry) (now : OffsetDateTime) :
    (registry.dueTargets now).Nodup := by
  unfold dueTargets
  rw [HashMap.filter_values_map hwf.registrationId]
  exact (AList.keys_nodup registry.registrations).filter _

theorem sweep_counts (registry : TargetProcessRegistry) (times : List OffsetDateTime) :
    ∀ sweep ∈ sweepMachine.history registry times, sweep.count = sweep.targets.length := by
  induction times generalizing registry with
  | nil => simp
  | cons now rest ih =>
      simp only [Machine.history_cons, sweepMachine_step, List.singleton_append,
        List.forall_mem_cons]
      exact ⟨expireLeases_counts_dueTargets registry now, ih _⟩

theorem sweep_nothing {registrations : List TargetProcessRegistration}
    (h : ∀ registration ∈ registrations, ¬leaseDue now registration = true)
    (swept : HashMap String TargetProcessConnection × Nat) :
    registrations.foldl (expireConnection now) swept = swept := by
  induction registrations with
  | nil => rfl
  | cons registration rest ih =>
      rw [List.foldl_cons, expireConnection, if_neg (h registration List.mem_cons_self)]
      exact ih fun later hmem => h later (List.mem_cons_of_mem _ hmem)

theorem expireLeases_nothing
    (h : ∀ registration ∈ registry.registrations.values, ¬leaseDue now registration = true) :
    registry.expireLeases now = (0, registry) := by
  have hsame := HashMap.mapValues_id fun registration hmem => expireRegistration_notDue (h _ hmem)
  unfold expireLeases
  rw [sweep_nothing h]
  exact congrArg (fun registrations => (0, { registry with registrations := registrations })) hsame

/-- A sweep at the time of the last one finds nothing to do. -/
theorem expireLeases_again (registry : TargetProcessRegistry) (now : OffsetDateTime) :
    (registry.expireLeases now).2.expireLeases now = (0, (registry.expireLeases now).2) := by
  apply expireLeases_nothing
  intro registration hmem
  rw [expireLeases_registrations, HashMap.values_mapValues] at hmem
  obtain ⟨earlier, -, rfl⟩ := List.mem_map.mp hmem
  simp [leaseDue_expireRegistration]

/-- Two registries with the same contents, whatever the order of their entries. -/
structure SameContents (registry other : TargetProcessRegistry) : Prop where
  policy : other.policy = registry.policy
  registrations : ∀ targetId,
    other.registrations.lookup targetId = registry.registrations.lookup targetId
  connections : ∀ targetId,
    other.connections.lookup targetId = registry.connections.lookup targetId

theorem SameContents.expireLeases (h : SameContents registry other) (now : OffsetDateTime) :
    (other.expireLeases now).1 = (registry.expireLeases now).1 ∧
      SameContents (registry.expireLeases now).2 (other.expireLeases now).2 := by
  have hkeys (targetId : String) :
      targetId ∈ other.registrations ↔ targetId ∈ registry.registrations := by
    rw [HashMap.mem_iff_lookup, HashMap.mem_iff_lookup, h.registrations]
  have hvalues (registration : TargetProcessRegistration) :
      registration ∈ other.registrations.values ↔
        registration ∈ registry.registrations.values := by
    simp only [HashMap.mem_values, h.registrations]
  refine ⟨?_, ?_, fun targetId => ?_, fun targetId => ?_⟩
  · rw [expireLeases_count, expireLeases_count]
    exact HashMap.countP_values_eq hkeys fun targetId => by rw [h.registrations]
  · rw [expireLeases_policy, expireLeases_policy, h.policy]
  · rw [lookup_swept, lookup_swept, h.registrations]
  · rw [expireLeases_connection, expireLeases_connection, h.connections]
    simp only [hvalues]

theorem SameContents.sweeps (h : SameContents registry other) (times : List OffsetDateTime) :
    (sweepMachine.history other times).map (·.count) =
        (sweepMachine.history registry times).map (·.count) ∧
      SameContents (sweepMachine.final registry times) (sweepMachine.final other times) := by
  induction times generalizing registry other with
  | nil => exact ⟨rfl, h⟩
  | cons now rest ih =>
      obtain ⟨hcount, hafter⟩ := h.expireLeases now
      obtain ⟨hrest, hfinal⟩ := ih hafter
      refine ⟨?_, hfinal⟩
      simp only [Machine.history_cons, sweepMachine_step, List.singleton_append, List.map_cons]
      rw [hcount, hrest]

/-- However often the registry is swept on the way to `last`, the same targets expire
as in one sweep at `last`, each counted once; only the times at which their
connections expired differ. A sweep at the same time once more does nothing, and the
order in which the maps are visited does not show. -/
theorem sweeps_schedule_independent (policy : RegistrationPolicy) (ops : List RegistryOp)
    (times : List OffsetDateTime) (last : OffsetDateTime)
    (hsorted : (times ++ [last]).Pairwise (· ≤ ·)) :
    let registry := machine.final (new policy) ops
    let sweeps := sweepMachine.history registry (times ++ [last])
    let swept := sweepMachine.final registry (times ++ [last])
    (sweeps.map (·.count)).sum = (registry.expireLeases last).1 ∧
      (sweeps.flatMap (·.targets)).Nodup ∧
      (∀ sweep ∈ sweeps, sweep.count = sweep.targets.length) ∧
      SweepsAsOne registry (times ++ [last]) last ∧
      swept.expireLeases last = (0, swept) ∧
      ∀ other, SameContents registry other →
        (sweepMachine.history other (times ++ [last])).map (·.count) = sweeps.map (·.count) ∧
          SameContents swept (sweepMachine.final other (times ++ [last])) := by
  intro registry sweeps swept
  have hwf : WellFormed registry := wellFormed_final policy ops
  have hone := hwf.sweepsAsOne hsorted
  refine ⟨?_, ?_, ?_, hone, ?_, fun other hsame => hsame.sweeps _⟩
  · rw [List.map_congr_left (sweep_counts registry _), ← List.length_flatMap,
      hone.targets.length_eq, expireLeases_counts_dueTargets]
  · exact hone.targets.nodup_iff.mpr (hwf.nodup_dueTargets last)
  · exact sweep_counts registry _
  · have hlast : swept = ((sweepMachine.final registry times).expireLeases last).2 :=
      sweepMachine.final_append registry times [last]
    rw [hlast]
    exact expireLeases_again _ last

/-- Two leases that end after thirty and after ninety seconds. -/
def sampleLeaseOps : List RegistryOp :=
  [.register .ok (sampleRequest "payments-worker-a" "/run/rust-supervisor/a.sock" 30) "uid:501"
      .unixEpoch,
    .register .ok (sampleRequest "payments-worker-b" "/run/rust-supervisor/b.sock" 90) "uid:501"
      .unixEpoch]

/-- Sweeps after forty and sixty seconds, before the one after a hundred. -/
def sampleSweepTimes : List OffsetDateTime :=
  [⟨40 * nanosPerSecond, by decide⟩, ⟨60 * nanosPerSecond, by decide⟩]

theorem sweeps_schedule_independent_sample :
    let registry := machine.final (new (samplePolicy 120)) sampleLeaseOps
    let last : OffsetDateTime := ⟨100 * nanosPerSecond, by decide⟩
    ((sweepMachine.history registry (sampleSweepTimes ++ [last])).map (·.count)).sum =
      (registry.expireLeases last).1 := by
  intro registry last
  have hsorted : (sampleSweepTimes ++ [last]).Pairwise (· ≤ ·) := by decide +kernel
  exact (sweeps_schedule_independent (samplePolicy 120) sampleLeaseOps sampleSweepTimes last
    hsorted).1

end SupervisorRelay.TargetProcessRegistry
