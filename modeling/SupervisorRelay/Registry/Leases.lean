import Mathlib.Data.Set.Card
import SupervisorRelay.Registry.LeaseArithmetic

/-! The lease state as a refinement of the plain history of renewals. The history
knows the latest renewal and the latest declared lease of a target; the sweep
flag, the stored end and the three readers add nothing to it. -/
namespace SupervisorRelay

namespace LeaseEvent

def targetId : LeaseEvent → String
  | registered targetId _ _ => targetId
  | renewed targetId _ => targetId

def now : LeaseEvent → OffsetDateTime
  | registered _ _ now => now
  | renewed _ now => now

end LeaseEvent

/-- The time of the latest successful `register` or `renew` of the target. -/
def lastRenewal (targetId : String) (history : List LeaseEvent) : Option OffsetDateTime :=
  history.foldl (fun last event => if event.targetId = targetId then some event.now else last) none

/-- The lease of the latest successful `register` of the target. -/
def lastLease (targetId : String) (history : List LeaseEvent) : Option UInt64 :=
  history.foldl (fun last event =>
    match event with
    | .registered registeredId leaseSeconds _ =>
        if registeredId = targetId then some leaseSeconds else last
    | .renewed .. => last) none

/-- The target was renewed, and `now` is before that renewal plus its lease. -/
def Live (history : List LeaseEvent) (now : OffsetDateTime) (targetId : String) : Prop :=
  ∃ renewedAt ∈ lastRenewal targetId history, ∃ leaseSeconds ∈ lastLease targetId history,
    now.unixNanos < renewedAt.unixNanos + leaseSeconds.toNat * nanosPerSecond

instance (history : List LeaseEvent) (now : OffsetDateTime) (targetId : String) :
    Decidable (Live history now targetId) :=
  inferInstanceAs (Decidable (∃ _ ∈ _, ∃ _ ∈ _, _ < _))

theorem lastRenewal_snoc (targetId : String) (history : List LeaseEvent) (event : LeaseEvent) :
    lastRenewal targetId (history ++ [event]) =
      if event.targetId = targetId then some event.now else lastRenewal targetId history := by
  unfold lastRenewal
  rw [List.foldl_append]
  rfl

theorem lastRenewal_registered (targetId registeredId : String) (leaseSeconds : UInt64)
    (now : OffsetDateTime) (history : List LeaseEvent) :
    lastRenewal targetId (history ++ [.registered registeredId leaseSeconds now]) =
      if registeredId = targetId then some now else lastRenewal targetId history :=
  lastRenewal_snoc targetId history _

theorem lastRenewal_renewed (targetId renewedId : String) (now : OffsetDateTime)
    (history : List LeaseEvent) :
    lastRenewal targetId (history ++ [.renewed renewedId now]) =
      if renewedId = targetId then some now else lastRenewal targetId history :=
  lastRenewal_snoc targetId history _

theorem lastLease_registered (targetId registeredId : String) (leaseSeconds : UInt64)
    (now : OffsetDateTime) (history : List LeaseEvent) :
    lastLease targetId (history ++ [.registered registeredId leaseSeconds now]) =
      if registeredId = targetId then some leaseSeconds else lastLease targetId history := by
  unfold lastLease
  rw [List.foldl_append]
  rfl

theorem lastLease_renewed (targetId renewedId : String) (now : OffsetDateTime)
    (history : List LeaseEvent) :
    lastLease targetId (history ++ [.renewed renewedId now]) = lastLease targetId history := by
  unfold lastLease
  rw [List.foldl_append]
  rfl

namespace RegistryOp

/-- The `now` argument; `update_sequence` has none. -/
def time : RegistryOp → Option OffsetDateTime
  | register _ _ _ now => some now
  | renew _ now => some now
  | expireLeases now => some now
  | beginBinding _ now => some now
  | markConnected _ _ now => some now
  | markReconnecting _ _ now => some now
  | markUnavailable _ _ now => some now
  | updateSequence .. => none

def isSweep : RegistryOp → Bool
  | expireLeases _ => true
  | _ => false

/-- The call was not made after `limit`. -/
def NotAfter (limit : OffsetDateTime) (op : RegistryOp) : Prop :=
  ∀ now, op.time = some now → now ≤ limit

end RegistryOp

namespace TargetProcessRegistry

variable {registry : TargetProcessRegistry} {history : List LeaseEvent} {limit : OffsetDateTime}

/-- The registry and the history tell the same renewals; a registration loses
its active flag only once its lease is over. -/
structure Tracks (limit : OffsetDateTime) (registry : TargetProcessRegistry)
    (history : List LeaseEvent) : Prop where
  unknown : ∀ targetId, registry.registrations.lookup targetId = none →
    lastRenewal targetId history = none
  known : ∀ targetId registration, registry.registrations.lookup targetId = some registration →
    lastRenewal targetId history = some registration.renewedAt ∧
      lastLease targetId history = some registration.leaseSeconds ∧
      (registration.registrationState = .active ∨ registration.expiresAt ≤ limit)

theorem tracks_new (limit : OffsetDateTime) (policy : RegistrationPolicy) :
    Tracks limit (new policy) [] where
  unknown _ _ := rfl
  known targetId registration hlookup := by
    simp [new] at hlookup

theorem Tracks.register (h : Tracks limit registry history)
    (normalize : PathBuf → RelayResult String) (request : RegistrationRequest)
    (ownerIdentity : String) (now : OffsetDateTime) :
    let call := registry.register normalize request ownerIdentity now
    Tracks limit call.2 (history ++
      if call.1.isOk then [.registered request.targetId request.leaseSeconds now] else []) := by
  intro call
  obtain ⟨error, -, hcall⟩ | ⟨ipcPathKey, -, -, hcall⟩ |
      ⟨ipcPathKey, expiresAt, -, -, houtcome, hafter⟩ :=
    register_cases registry normalize request ownerIdentity now
  · have hsame : call = (.returned (.error error), registry) := hcall
    rw [hsame]
    simpa [Outcome.isOk] using h
  · have hsame : call = (.panicked, registry) := hcall
    rw [hsame]
    simpa [Outcome.isOk] using h
  · have hok : call.1.isOk = true := Outcome.isOk_iff.mpr ⟨_, houtcome⟩
    rw [if_pos hok]
    constructor
    · intro targetId hlookup
      rw [show call.2.registrations = _ from hafter, HashMap.lookup_insert] at hlookup
      split at hlookup
      · cases hlookup
      · rename_i hne
        rw [lastRenewal_registered, if_neg (Ne.symm hne)]
        exact h.unknown targetId hlookup
    · intro targetId registration hlookup
      rw [show call.2.registrations = _ from hafter, HashMap.lookup_insert] at hlookup
      rw [lastRenewal_registered, lastLease_registered]
      split at hlookup
      · rename_i heq
        cases hlookup
        rw [if_pos heq.symm, if_pos heq.symm]
        exact ⟨rfl, rfl, .inl rfl⟩
      · rename_i hne
        rw [if_neg (Ne.symm hne), if_neg (Ne.symm hne)]
        exact h.known targetId registration hlookup

theorem Tracks.renew (h : Tracks limit registry history) (targetId : String)
    (now : OffsetDateTime) (hrange : LeaseOpInRange registry (.renew targetId now)) :
    let call := registry.renew targetId now
    Tracks limit call.2 (history ++ if call.1.isOk then [.renewed targetId now] else []) := by
  intro call
  have hspec : Renews registry targetId now call := renew_spec registry targetId now
  generalize call = result at hspec
  cases hspec with
  | unknown error hunknown => simpa [Outcome.isOk] using h
  | panicked existing hexisting hexpiry =>
      exact absurd (hrange existing hexisting) (leaseInRange_of_expiry_none hexpiry)
  | renewed existing expiresAt hexisting hexpiry =>
      simp only [Outcome.isOk, if_true]
      constructor
      · intro other hlookup
        dsimp only at hlookup
        rw [HashMap.lookup_modify] at hlookup
        split at hlookup
        · rename_i heq
          rw [heq, hexisting] at hlookup
          cases hlookup
        · rename_i hne
          rw [lastRenewal_renewed, if_neg (Ne.symm hne)]
          exact h.unknown other hlookup
      · intro other registration hlookup
        dsimp only at hlookup
        rw [HashMap.lookup_modify] at hlookup
        rw [lastRenewal_renewed, lastLease_renewed]
        split at hlookup
        · rename_i heq
          rw [heq, hexisting] at hlookup
          cases hlookup
          rw [if_pos heq.symm, heq]
          exact ⟨rfl, (h.known targetId existing hexisting).2.1, .inl rfl⟩
        · rename_i hne
          rw [if_neg (Ne.symm hne)]
          exact h.known other registration hlookup

theorem ages_renewal (op : RegistryOp) (registration : TargetProcessRegistration) :
    (RegistryOp.ages op registration).renewedAt = registration.renewedAt ∧
      (RegistryOp.ages op registration).leaseSeconds = registration.leaseSeconds ∧
      (RegistryOp.ages op registration).expiresAt = registration.expiresAt := by
  unfold RegistryOp.ages expireRegistration
  split
  · split <;> exact ⟨rfl, rfl, rfl⟩
  · exact ⟨rfl, rfl, rfl⟩

/-- A sweep that was not made after `limit` only clears flags of leases over by then. -/
theorem ages_flag {op : RegistryOp} (hpast : op.NotAfter limit)
    {registration : TargetProcessRegistration}
    (h : registration.registrationState = .active ∨ registration.expiresAt ≤ limit) :
    (RegistryOp.ages op registration).registrationState = .active ∨
      registration.expiresAt ≤ limit := by
  unfold RegistryOp.ages
  split
  · rename_i now
    unfold expireRegistration
    split
    · rename_i hdue
      simp only [leaseDue, Bool.and_eq_true, decide_eq_true_eq] at hdue
      exact .inr (OffsetDateTime.le_trans hdue.2 (hpast now rfl))
    · exact h
  · exact h

theorem Tracks.quiet (h : Tracks limit registry history) {op : RegistryOp}
    (hquiet : RegistryOp.startsLease op = false) (hpast : op.NotAfter limit) :
    Tracks limit (registry.apply op).1 (history ++ (registry.apply op).2) := by
  obtain ⟨hevents, hlookups⟩ := apply_quiet registry hquiet
  rw [hevents, List.append_nil]
  constructor
  · intro targetId hlookup
    rw [hlookups, Option.map_eq_none_iff] at hlookup
    exact h.unknown targetId hlookup
  · intro targetId registration hlookup
    rw [hlookups] at hlookup
    obtain ⟨earlier, hearlier, rfl⟩ := Option.map_eq_some_iff.mp hlookup
    obtain ⟨hrenewal, hlease, hflag⟩ := h.known targetId earlier hearlier
    obtain ⟨hrenewed, hseconds, hexpires⟩ := ages_renewal op earlier
    rw [hrenewed, hseconds, hexpires]
    exact ⟨hrenewal, hlease, ages_flag hpast hflag⟩

theorem Tracks.apply (h : Tracks limit registry history) {op : RegistryOp}
    (hrange : LeaseOpInRange registry op) (hpast : op.NotAfter limit) :
    Tracks limit (registry.apply op).1 (history ++ (registry.apply op).2) := by
  cases hstarts : RegistryOp.startsLease op with
  | false => exact h.quiet hstarts hpast
  | true =>
      cases op with
      | register normalize request ownerIdentity now =>
          exact h.register normalize request ownerIdentity now
      | renew targetId now => exact h.renew targetId now hrange
      | _ => cases hstarts

variable {now : OffsetDateTime}

theorem Tracks.isActive_iff (h : Tracks now registry history) (hexact : LeasesExact registry)
    (targetId : String) :
    (registry.registrations.lookup targetId).any (isActive now) = true ↔
      Live history now targetId := by
  unfold Live
  cases hlookup : registry.registrations.lookup targetId with
  | none => simp [h.unknown targetId hlookup]
  | some registration =>
      obtain ⟨hrenewal, hlease, hflag⟩ := h.known targetId registration hlookup
      have hend := (hexact targetId registration hlookup).1
      simp only [hrenewal, hlease, Option.any_some, TargetProcessRegistry.isActive_iff,
        OffsetDateTime.lt_iff, Option.mem_def, Option.some.injEq, exists_eq_left']
      rw [hend, leaseEnd]
      refine ⟨fun hactive => hactive.2, fun hlive => ⟨?_, hlive⟩⟩
      rcases hflag with hflag | hover
      · exact hflag
      · rw [OffsetDateTime.le_iff, hend, leaseEnd] at hover
        omega

theorem ensureTargetActive_iff (targetId : String) (now : OffsetDateTime) :
    registry.ensureTargetActive targetId now = .ok () ↔
      (registry.registrations.lookup targetId).any (isActive now) = true := by
  rw [ensureTargetActive_ok, Option.any_eq_true]

theorem activeTargets_ids (hwf : WellFormed registry) (now : OffsetDateTime) :
    (registry.activeTargets now).map (·.targetId) =
      registry.registrations.keys.filter fun targetId =>
        (registry.registrations.lookup targetId).any (isActive now) := by
  rw [activeTargets, List.map_map]
  exact HashMap.filter_values_map hwf.registrationId (isActive now)

theorem activeRegistrationCount_eq (registry : TargetProcessRegistry) (now : OffsetDateTime) :
    registry.activeRegistrationCount now =
      ((registry.activeTargets now).map (·.targetId)).length := by
  rw [activeRegistrationCount, activeTargets, List.length_map, List.length_map]

/-- The three readers and the history tell the same set of targets. -/
theorem Tracks.views (h : Tracks now registry history) (hwf : WellFormed registry)
    (hexact : LeasesExact registry) :
    (∀ targetId, registry.ensureTargetActive targetId now = .ok () ↔ Live history now targetId) ∧
      (∀ targetId, ((registry.activeTargets now).map (·.targetId)).count targetId =
        if Live history now targetId then 1 else 0) ∧
      registry.activeRegistrationCount now = {targetId | Live history now targetId}.ncard := by
  have hactive := h.isActive_iff hexact
  have hids := activeTargets_ids hwf now
  have hnodup : ((registry.activeTargets now).map (·.targetId)).Nodup := by
    rw [hids]
    exact registry.registrations.keys_nodup.filter _
  have hmem : ∀ targetId, targetId ∈ (registry.activeTargets now).map (·.targetId) ↔
      Live history now targetId := by
    intro targetId
    rw [hids, List.mem_filter, hactive]
    refine ⟨fun hboth => hboth.2, fun hlive => ⟨?_, hlive⟩⟩
    have hany := (hactive targetId).mpr hlive
    rw [Option.any_eq_true] at hany
    obtain ⟨registration, hlookup, -⟩ := hany
    exact AList.mem_keys.mp (HashMap.mem_of_lookup hlookup)
  refine ⟨?_, ?_, ?_⟩
  · intro targetId
    rw [ensureTargetActive_iff, hactive]
  · intro targetId
    rw [hnodup.count]
    simp only [hmem]
  · have hset : {targetId | Live history now targetId} =
        ((registry.activeTargets now).map (·.targetId)).toFinset := by
      ext targetId
      simp only [Set.mem_ofPred_eq, List.coe_toFinset, hmem]
    rw [activeRegistrationCount_eq, hset, Set.ncard_coe_finset,
      List.toFinset_card_of_nodup hnodup]

/-- Two registries that differ at most in flags, times and connections. -/
structure SameDeclarations (first second : TargetProcessRegistry) : Prop where
  policy : first.policy = second.policy
  declared : ∀ targetId, first.declared targetId = second.declared targetId

variable {first second : TargetProcessRegistry}

theorem SameDeclarations.symm (h : SameDeclarations first second) :
    SameDeclarations second first :=
  ⟨h.policy.symm, fun targetId => (h.declared targetId).symm⟩

theorem SameDeclarations.frames (h : SameDeclarations first second)
    {first' second' : TargetProcessRegistry} (hfirst : Frames first first')
    (hsecond : Frames second second') : SameDeclarations first' second' where
  policy := by rw [hfirst.policy, hsecond.policy, h.policy]
  declared targetId := by rw [hfirst.declared, hsecond.declared, h.declared]

theorem SameDeclarations.lookup (h : SameDeclarations first second) {targetId : String}
    {registration : TargetProcessRegistration}
    (hlookup : first.registrations.lookup targetId = some registration) :
    ∃ other, second.registrations.lookup targetId = some other ∧
      other.declaration = registration.declaration := by
  have hsame := h.declared targetId
  simp only [TargetProcessRegistry.declared, hlookup, Option.map_some] at hsame
  exact Option.map_eq_some_iff.mp hsame.symm

variable {normalize : PathBuf → RelayResult String} {request : RegistrationRequest}
variable {ownerIdentity ipcPathKey : String}

theorem SameDeclarations.registerChecks (h : SameDeclarations first second)
    (hchecks : first.registerChecks normalize request ownerIdentity = .ok ipcPathKey) :
    second.registerChecks normalize request ownerIdentity = .ok ipcPathKey := by
  obtain ⟨hvalid, hkey, howner, hconflict⟩ := registerChecks_ok.mp hchecks
  refine registerChecks_ok.mpr ⟨?_, hkey, ?_, ?_⟩
  · rw [validateRequest_ok] at hvalid ⊢
    rwa [← h.policy]
  · intro existing hexisting
    obtain ⟨other, hother, hsame⟩ := h.symm.lookup hexisting
    exact (congrArg Declaration.ownerIdentity hsame).symm.trans (howner other hother)
  · intro targetId registration hlookup hsameKey
    obtain ⟨other, hother, hsame⟩ := h.symm.lookup hlookup
    have hotherKey := congrArg Declaration.ipcPathKey hsame
    exact hconflict targetId other hother (hotherKey.trans hsameKey)

theorem declared_registeredAt (registry : TargetProcessRegistry) (targetId : String)
    (now : OffsetDateTime) :
    registry.firstRegisteredAt targetId now =
      ((registry.declared targetId).map (·.registeredAt)).getD now := by
  rw [firstRegisteredAt, declared, Option.map_map]
  rfl

theorem SameDeclarations.store (h : SameDeclarations first second)
    {first' second' : TargetProcessRegistry} {targetId : String}
    {registration : TargetProcessRegistration} (hpolicy : first'.policy = first.policy)
    (hpolicy' : second'.policy = second.policy)
    (hfirst : first'.registrations = first.registrations.insert targetId registration)
    (hsecond : second'.registrations = second.registrations.insert targetId registration) :
    SameDeclarations first' second' where
  policy := by rw [hpolicy, hpolicy', h.policy]
  declared other := by
    have hsame := h.declared other
    simp only [TargetProcessRegistry.declared] at hsame ⊢
    rw [hfirst, hsecond, HashMap.lookup_insert, HashMap.lookup_insert]
    split
    · rfl
    · exact hsame

/-- `register` reads nothing of a registry but its policy and declarations. -/
theorem SameDeclarations.register (h : SameDeclarations first second)
    (normalize : PathBuf → RelayResult String) (request : RegistrationRequest)
    (ownerIdentity : String) (now : OffsetDateTime) :
    SameDeclarations (first.register normalize request ownerIdentity now).2
        (second.register normalize request ownerIdentity now).2 ∧
      (first.register normalize request ownerIdentity now).1.isOk =
        (second.register normalize request ownerIdentity now).1.isOk := by
  have hfirstAt : first.firstRegisteredAt request.targetId now =
      second.firstRegisteredAt request.targetId now := by
    rw [declared_registeredAt, declared_registeredAt, h.declared]
  obtain ⟨error, hchecks, hcall⟩ | ⟨ipcPathKey, hchecks, hexpiry, hcall⟩ |
      ⟨ipcPathKey, expiresAt, hchecks, hexpiry, houtcome, hafter⟩ :=
    register_cases first normalize request ownerIdentity now
  · obtain ⟨error', hchecks', hcall'⟩ | ⟨_, hchecks', -⟩ | ⟨_, _, hchecks', -⟩ :=
      register_cases second normalize request ownerIdentity now
    · rw [hcall, hcall']
      exact ⟨h, rfl⟩
    · cases hchecks.symm.trans (h.symm.registerChecks hchecks')
    · cases hchecks.symm.trans (h.symm.registerChecks hchecks')
  · obtain ⟨_, hchecks', -⟩ | ⟨_, hchecks', hexpiry', hcall'⟩ | ⟨_, _, hchecks', hexpiry', -⟩ :=
      register_cases second normalize request ownerIdentity now
    · cases hchecks'.symm.trans (h.registerChecks hchecks)
    · rw [hcall, hcall']
      exact ⟨h, rfl⟩
    · cases hexpiry.symm.trans hexpiry'
  · obtain ⟨_, hchecks', -⟩ | ⟨_, hchecks', hexpiry', -⟩ |
        ⟨ipcPathKey', expiresAt', hchecks', hexpiry', houtcome', hafter'⟩ :=
      register_cases second normalize request ownerIdentity now
    · cases hchecks'.symm.trans (h.registerChecks hchecks)
    · cases hexpiry.symm.trans hexpiry'
    · cases hchecks'.symm.trans (h.registerChecks hchecks)
      cases hexpiry.symm.trans hexpiry'
      rw [← hfirstAt] at hafter' houtcome'
      refine ⟨?_, ?_⟩
      · exact h.store (register_policy first normalize request ownerIdentity now)
          (register_policy second normalize request ownerIdentity now) hafter hafter'
      · rw [houtcome, houtcome']

theorem renew_isOk (registry : TargetProcessRegistry) (targetId : String)
    (now : OffsetDateTime) :
    (registry.renew targetId now).1.isOk =
      (registry.declared targetId).any fun declaration =>
        (leaseExpiry now declaration.leaseSeconds).isSome := by
  generalize hcall : registry.renew targetId now = call
  have hspec := hcall ▸ renew_spec registry targetId now
  cases hspec with
  | unknown error hunknown => simp [declared, hunknown, Outcome.isOk]
  | panicked existing hexisting hexpiry =>
      simp [declared, hexisting, Outcome.isOk, TargetProcessRegistration.declaration, hexpiry]
  | renewed existing expiresAt hexisting hexpiry =>
      simp [declared, hexisting, Outcome.isOk, TargetProcessRegistration.declaration, hexpiry]

theorem SameDeclarations.range (h : SameDeclarations first second) {op : RegistryOp}
    (hrange : LeaseOpInRange first op) : LeaseOpInRange second op := by
  cases op with
  | register normalize request ownerIdentity now =>
      intro ipcPathKey hchecks
      exact hrange ipcPathKey (h.symm.registerChecks hchecks)
  | renew targetId now =>
      intro registration hlookup
      obtain ⟨other, hother, hsame⟩ := h.symm.lookup hlookup
      have hlease : other.leaseSeconds = registration.leaseSeconds :=
        congrArg Declaration.leaseSeconds hsame
      rw [← hlease]
      exact hrange other hother
  | _ => trivial

/-- One call on two registries with the same declarations. -/
theorem SameDeclarations.apply (h : SameDeclarations first second) (op : RegistryOp) :
    SameDeclarations (first.apply op).1 (second.apply op).1 ∧
      (first.apply op).2 = (second.apply op).2 ∧
      (LeaseOpInRange first op ↔ LeaseOpInRange second op) := by
  refine ⟨?_, ?_, h.range, h.symm.range⟩
  · cases hop : RegistryOp.isRegister op with
    | false => exact h.frames (apply_frames hop) (apply_frames hop)
    | true =>
        cases op with
        | register normalize request ownerIdentity now =>
            rw [apply_register, apply_register]
            exact (h.register normalize request ownerIdentity now).1
        | _ => cases hop
  · cases op with
    | register normalize request ownerIdentity now =>
        dsimp only [TargetProcessRegistry.apply]
        rw [(h.register normalize request ownerIdentity now).2]
    | renew targetId now =>
        dsimp only [TargetProcessRegistry.apply]
        rw [renew_isOk, renew_isOk, h.declared]
    | _ => rfl

/-- A sweep is silent, unguarded, and keeps every declaration. -/
theorem SameDeclarations.sweep (h : SameDeclarations first second) {op : RegistryOp}
    (hsweep : (!op.isSweep) = false) :
    SameDeclarations (first.apply op).1 second ∧ (first.apply op).2 = [] ∧
      LeaseOpInRange first op := by
  cases op with
  | expireLeases now =>
      exact ⟨h.frames (expireLeases_frames now) (Frames.refl second), rfl, trivial⟩
  | _ => cases hsweep

theorem tracks_final {policy : RegistrationPolicy} {ops : List RegistryOp}
    (hpast : ∀ op ∈ ops, op.NotAfter now)
    (hrange : machine.Along LeaseOpInRange (new policy) ops) :
    Tracks now (machine.final (new policy) ops) (machine.history (new policy) ops) ∧
      WellFormed (machine.final (new policy) ops) ∧
      LeasesExact (machine.final (new policy) ops) :=
  Machine.invariant_along
    (fun state past => Tracks now state past ∧ WellFormed state ∧ LeasesExact state)
    (fun _ _ op hop hstate => ⟨hstate.1.apply hop.1 hop.2, hstate.2.1.apply op,
      hstate.2.2.apply hstate.2.1 hop.1⟩)
    [] (Machine.along_and hrange hpast)
    ⟨tracks_new now policy, wellFormed_new policy, leasesExact_new policy⟩

/-- Runs that differ in their sweeps only have one history. -/
theorem history_sweeps (policy : RegistrationPolicy) {ops other : List RegistryOp}
    (h : ops.filter (fun op => !op.isSweep) = other.filter fun op => !op.isSweep) :
    machine.history (new policy) ops = machine.history (new policy) other ∧
      (machine.Along LeaseOpInRange (new policy) ops ↔
        machine.Along LeaseOpInRange (new policy) other) := by
  have hsame : SameDeclarations (new policy) (new policy) := ⟨rfl, fun _ => rfl⟩
  have hdrop := Machine.filter_silent machine LeaseOpInRange SameDeclarations
    (fun op => !op.isSweep) (fun _ _ op _ hR => hR.apply op)
    (fun _ _ _ hsweep hR => hR.sweep hsweep) hsame
  obtain ⟨hhistory, hguard, -⟩ := hdrop ops
  obtain ⟨hhistory', hguard', -⟩ := hdrop other
  rw [hhistory, hhistory', hguard, hguard', h]
  exact ⟨rfl, Iff.rfl⟩

/-- The readers compute what the history of renewals says, at any time by which
all calls were made, and sweeps make no difference to any of them. -/
theorem leases_refine_history (policy : RegistrationPolicy) (ops : List RegistryOp)
    (now : OffsetDateTime) (hpast : ∀ op ∈ ops, op.NotAfter now)
    (hrange : machine.Along LeaseOpInRange (new policy) ops) :
    let registry := machine.final (new policy) ops
    let history := machine.history (new policy) ops
    (∀ targetId, registry.ensureTargetActive targetId now = .ok () ↔ Live history now targetId) ∧
      (∀ targetId, ((registry.activeTargets now).map (·.targetId)).count targetId =
        if Live history now targetId then 1 else 0) ∧
      registry.activeRegistrationCount now = {targetId | Live history now targetId}.ncard ∧
      ∀ other : List RegistryOp, (∀ op ∈ other, op.NotAfter now) →
        ops.filter (fun op => !op.isSweep) = other.filter (fun op => !op.isSweep) →
          let swept := machine.final (new policy) other
          (∀ targetId, swept.ensureTargetActive targetId now = .ok () ↔
            registry.ensureTargetActive targetId now = .ok ()) ∧
          (∀ targetId, ((swept.activeTargets now).map (·.targetId)).count targetId =
            ((registry.activeTargets now).map (·.targetId)).count targetId) ∧
          swept.activeRegistrationCount now = registry.activeRegistrationCount now := by
  intro registry history
  obtain ⟨htracks, hwf, hexact⟩ := tracks_final hpast hrange
  obtain ⟨hensure, hcount, hnumber⟩ := htracks.views hwf hexact
  refine ⟨hensure, hcount, hnumber, fun other hpast' hfilter => ?_⟩
  obtain ⟨hhistory, hguard⟩ := history_sweeps policy hfilter
  obtain ⟨htracks', hwf', hexact'⟩ := tracks_final hpast' (hguard.mp hrange)
  rw [← hhistory] at htracks'
  obtain ⟨hensure', hcount', hnumber'⟩ := htracks'.views hwf' hexact'
  refine ⟨?_, ?_, hnumber'.trans hnumber.symm⟩
  · intro targetId
    exact (hensure' targetId).trans (hensure targetId).symm
  · intro targetId
    exact (hcount' targetId).trans (hcount targetId).symm

/-- A lease of thirty seconds, read after a sweep at its tenth. -/
def tenSeconds : OffsetDateTime := ⟨10000000000, by decide⟩

def sweptOps : List RegistryOp :=
  [.register .ok (sampleRequest "payments-worker-a" "/run/rust-supervisor/a.sock" 30) "uid:501"
    .unixEpoch, .expireLeases tenSeconds]

theorem leases_refine_history_swept :
    Live (machine.history (new (samplePolicy 120)) sweptOps) tenSeconds "payments-worker-a" ∧
      (machine.final (new (samplePolicy 120)) sweptOps).ensureTargetActive "payments-worker-a"
        tenSeconds = .ok () := by
  have hpast : ∀ op ∈ sweptOps, op.NotAfter tenSeconds := by
    intro op hmem now htime
    simp only [sweptOps, List.mem_cons, List.not_mem_nil, or_false] at hmem
    rcases hmem with rfl | rfl
    · cases htime
      decide
    · cases htime
      decide
  have hrange : machine.Along LeaseOpInRange (new (samplePolicy 120)) sweptOps :=
    ⟨fun _ _ => by decide, trivial, trivial⟩
  have hlive : Live (machine.history (new (samplePolicy 120)) sweptOps) tenSeconds
      "payments-worker-a" := by
    decide +kernel
  have hrefines := leases_refine_history (samplePolicy 120) sweptOps tenSeconds hpast hrange
  exact ⟨hlive, (hrefines.1 "payments-worker-a").mpr hlive⟩

end TargetProcessRegistry
end SupervisorRelay
