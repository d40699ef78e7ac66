import Mathlib.Algebra.Group.Int.Defs
import Mathlib.Algebra.Group.Nat.Defs
import SupervisorRelay.Registry.Invariant

/-! Lease arithmetic. `lease_seconds as i64` wraps and the date addition is
bounded, so a lease is computed exactly when its true end is still a date. -/
namespace SupervisorRelay

/-- The true end of the lease, with no wrapping and no bound. -/
def leaseEnd (now : OffsetDateTime) (leaseSeconds : UInt64) : Int :=
  now.unixNanos + leaseSeconds.toNat * nanosPerSecond

/-- The true end is a date of the `time` crate. -/
def LeaseInRange (now : OffsetDateTime) (leaseSeconds : UInt64) : Prop :=
  leaseEnd now leaseSeconds ≤ OffsetDateTime.maxNanos

instance (now : OffsetDateTime) (leaseSeconds : UInt64) :
    Decidable (LeaseInRange now leaseSeconds) :=
  inferInstanceAs (Decidable (_ ≤ _))

theorem toInt64_toInt (value : UInt64) :
    value.toInt64.toInt =
      if value.toNat < 2 ^ 63 then (value.toNat : Int) else (value.toNat : Int) - 2 ^ 64 := by
  have hcond := BitVec.toInt_eq_toNat_cond value.toBitVec
  rw [← Int64.toInt_toBitVec, UInt64.toBitVec_toInt64, hcond, UInt64.toNat_toBitVec]
  by_cases hsmall : value.toNat < 2 ^ 63
  · rw [if_pos hsmall, if_pos (by omega)]
  · rw [if_neg hsmall, if_neg (by omega)]
    rfl

/-- The computed end is the true end, or the lease wrapped. -/
theorem leaseExpiry_some {now expiresAt : OffsetDateTime} {leaseSeconds : UInt64}
    (h : leaseExpiry now leaseSeconds = some expiresAt) :
    expiresAt.unixNanos = leaseEnd now leaseSeconds ↔ LeaseInRange now leaseSeconds := by
  have hsum := OffsetDateTime.checkedAdd_eq_some.mp h
  simp only [Duration.seconds, toInt64_toInt] at hsum
  constructor
  · intro hexact
    unfold LeaseInRange
    rw [← hexact]
    exact expiresAt.inRange.2
  · intro hrange
    have hlower := now.inRange.1
    simp only [LeaseInRange, leaseEnd, nanosPerSecond, OffsetDateTime.maxNanos,
      OffsetDateTime.minNanos] at *
    -- a lease that stays in range is far below the sign bit
    rw [hsum, if_pos (by omega)]

theorem leaseExpiry_isSome {now : OffsetDateTime} {leaseSeconds : UInt64}
    (hrange : LeaseInRange now leaseSeconds) :
    ∃ expiresAt, leaseExpiry now leaseSeconds = some expiresAt := by
  rw [← Option.isSome_iff_exists, leaseExpiry, OffsetDateTime.checkedAdd_isSome]
  have hlower := now.inRange.1
  simp only [Duration.seconds, toInt64_toInt]
  simp only [LeaseInRange, leaseEnd, nanosPerSecond, OffsetDateTime.maxNanos,
    OffsetDateTime.minNanos] at *
  rw [if_pos (by omega)]
  omega

/-- The stored end is the renewal time plus the lease, and later than it. -/
def LeaseExact (registration : TargetProcessRegistration) : Prop :=
  registration.expiresAt.unixNanos = leaseEnd registration.renewedAt registration.leaseSeconds ∧
    registration.renewedAt < registration.expiresAt

theorem leaseExact_of_exact {registration : TargetProcessRegistration}
    (hlease : 1 ≤ registration.leaseSeconds.toNat)
    (h : registration.expiresAt.unixNanos =
      leaseEnd registration.renewedAt registration.leaseSeconds) : LeaseExact registration := by
  refine ⟨h, ?_⟩
  rw [OffsetDateTime.lt_iff, h]
  simp only [leaseEnd, nanosPerSecond]
  omega

namespace TargetProcessRegistry

/-- The call does not panic, and a registration it stores is exact. -/
def RegisterExact (registry : TargetProcessRegistry) (normalize : PathBuf → RelayResult String)
    (request : RegistrationRequest) (ownerIdentity : String) (now : OffsetDateTime) : Prop :=
  let call := registry.register normalize request ownerIdentity now
  call.1 ≠ .panicked ∧ ∀ registration, call.1 = .returned (.ok registration) →
    call.2.registrations.lookup request.targetId = some registration ∧
      registration.renewedAt = now ∧ registration.leaseSeconds = request.leaseSeconds ∧
      LeaseExact registration

/-- The call does not panic, and a registration it renews is exact. -/
def RenewExact (registry : TargetProcessRegistry) (targetId : String) (now : OffsetDateTime) :
    Prop :=
  let call := registry.renew targetId now
  call.1 ≠ .panicked ∧ (call.1 = .returned (.ok ()) →
    ∃ registration, call.2.registrations.lookup targetId = some registration ∧
      registration.renewedAt = now ∧ LeaseExact registration)

/-- The lease a call starts ends at a date; calls that start none are free. -/
def LeaseOpInRange (registry : TargetProcessRegistry) : RegistryOp → Prop
  | .register normalize request ownerIdentity now => ∀ ipcPathKey,
      registry.registerChecks normalize request ownerIdentity = .ok ipcPathKey →
        LeaseInRange now request.leaseSeconds
  | .renew targetId now => ∀ registration,
      registry.registrations.lookup targetId = some registration →
        LeaseInRange now registration.leaseSeconds
  | _ => True

variable {registry : TargetProcessRegistry}

theorem registerChecks_lease {normalize : PathBuf → RelayResult String}
    {request : RegistrationRequest} {ownerIdentity ipcPathKey : String}
    (h : registry.registerChecks normalize request ownerIdentity = .ok ipcPathKey) :
    1 ≤ request.leaseSeconds.toNat := by
  obtain ⟨hvalid, -⟩ := registerChecks_ok.mp h
  obtain ⟨-, -, -, hlease, -⟩ := validateRequest_ok.mp hvalid
  exact hlease.1

theorem leaseInRange_of_expiry_none {now : OffsetDateTime} {leaseSeconds : UInt64}
    (h : leaseExpiry now leaseSeconds = none) : ¬LeaseInRange now leaseSeconds := by
  intro hrange
  obtain ⟨expiresAt, hsome⟩ := leaseExpiry_isSome hrange
  rw [h] at hsome
  cases hsome

theorem registerExact_iff (normalize : PathBuf → RelayResult String)
    (request : RegistrationRequest) (ownerIdentity : String) (now : OffsetDateTime) :
    RegisterExact registry normalize request ownerIdentity now ↔
      LeaseOpInRange registry (.register normalize request ownerIdentity now) := by
  dsimp only [RegisterExact, LeaseOpInRange]
  obtain ⟨error, hchecks, hcall⟩ | ⟨ipcPathKey, hchecks, hexpiry, hcall⟩ |
      ⟨ipcPathKey, expiresAt, hchecks, hexpiry, houtcome, hafter⟩ :=
    register_cases registry normalize request ownerIdentity now
  · simp [hcall, hchecks]
  · simp [hcall, hchecks, leaseInRange_of_expiry_none hexpiry]
  · have hlease := registerChecks_lease hchecks
    rw [houtcome, hafter, HashMap.lookup_insert_self]
    constructor
    · intro h _ _
      obtain ⟨-, -, -, hexact, -⟩ := h.2 _ rfl
      exact (leaseExpiry_some hexpiry).mp hexact
    · intro h
      have hexact := (leaseExpiry_some hexpiry).mpr (h ipcPathKey hchecks)
      refine ⟨nofun, fun registration hstored => ?_⟩
      cases hstored
      exact ⟨rfl, rfl, rfl, leaseExact_of_exact hlease hexact⟩

theorem renewExact_iff (hwf : WellFormed registry) (targetId : String) (now : OffsetDateTime) :
    RenewExact registry targetId now ↔ LeaseOpInRange registry (.renew targetId now) := by
  dsimp only [RenewExact, LeaseOpInRange]
  generalize hcall : registry.renew targetId now = call
  have hspec := hcall ▸ renew_spec registry targetId now
  cases hspec with
  | unknown error hunknown => simp [hunknown]
  | panicked existing hexisting hexpiry =>
      simp [hexisting, leaseInRange_of_expiry_none hexpiry]
  | renewed existing expiresAt hexisting hexpiry =>
      have hlease := (hwf.leaseBounds targetId existing hexisting).1
      simp only [HashMap.lookup_modify_self, hexisting, Option.map_some, Option.some.injEq]
      constructor
      · rintro ⟨-, h⟩ registration rfl
        obtain ⟨_, rfl, -, hexact, -⟩ := h trivial
        exact (leaseExpiry_some hexpiry).mp hexact
      · intro h
        have hexact := (leaseExpiry_some hexpiry).mpr (h existing rfl)
        exact ⟨nofun, fun _ => ⟨_, rfl, rfl, leaseExact_of_exact hlease hexact⟩⟩

/-- Every stored registration is exact. -/
def LeasesExact (registry : TargetProcessRegistry) : Prop :=
  ∀ targetId registration, registry.registrations.lookup targetId = some registration →
    LeaseExact registration

theorem leasesExact_new (policy : RegistrationPolicy) : LeasesExact (new policy) := by
  intro targetId registration hlookup
  simp [new] at hlookup

theorem expireRegistration_leaseExact (now : OffsetDateTime)
    (registration : TargetProcessRegistration) :
    LeaseExact (expireRegistration now registration) ↔ LeaseExact registration := by
  unfold expireRegistration
  split <;> rfl

/-- Calls other than `register` and `renew` store no new times. -/
theorem LeasesExact.quiet (h : LeasesExact registry) {op : RegistryOp}
    (hquiet : RegistryOp.startsLease op = false) : LeasesExact (registry.apply op).1 := by
  intro targetId registration hlookup
  rw [(apply_quiet registry hquiet).2 targetId] at hlookup
  obtain ⟨earlier, hearlier, rfl⟩ := Option.map_eq_some_iff.mp hlookup
  have hexact := h targetId earlier hearlier
  unfold RegistryOp.ages
  split
  · exact (expireRegistration_leaseExact _ earlier).mpr hexact
  · exact hexact

theorem LeasesExact.register (h : LeasesExact registry)
    (normalize : PathBuf → RelayResult String) (request : RegistrationRequest)
    (ownerIdentity : String) (now : OffsetDateTime)
    (hrange : LeaseOpInRange registry (.register normalize request ownerIdentity now)) :
    LeasesExact (registry.register normalize request ownerIdentity now).2 := by
  obtain ⟨error, hchecks, hcall⟩ | ⟨ipcPathKey, hchecks, hexpiry, hcall⟩ |
      ⟨ipcPathKey, expiresAt, hchecks, hexpiry, houtcome, hafter⟩ :=
    register_cases registry normalize request ownerIdentity now
  · rw [hcall]
    exact h
  · rw [hcall]
    exact h
  · intro targetId registration hlookup
    rw [hafter, HashMap.lookup_insert] at hlookup
    split at hlookup
    · cases hlookup
      have hexact := (leaseExpiry_some hexpiry).mpr (hrange ipcPathKey hchecks)
      exact leaseExact_of_exact (registerChecks_lease hchecks) hexact
    · exact h targetId registration hlookup

theorem LeasesExact.renew (h : LeasesExact registry) (hwf : WellFormed registry)
    (targetId : String) (now : OffsetDateTime)
    (hrange : LeaseOpInRange registry (.renew targetId now)) :
    LeasesExact (registry.renew targetId now).2 := by
  generalize hcall : registry.renew targetId now = call
  have hspec := hcall ▸ renew_spec registry targetId now
  cases hspec with
  | unknown => exact h
  | panicked existing hexisting hexpiry =>
      exact absurd (hrange existing hexisting) (leaseInRange_of_expiry_none hexpiry)
  | renewed existing expiresAt hexisting hexpiry =>
      intro other registration hlookup
      dsimp only at hlookup
      rw [HashMap.lookup_modify] at hlookup
      split at hlookup
      · rename_i heq
        rw [heq, hexisting] at hlookup
        cases hlookup
        have hlease := (hwf.leaseBounds targetId existing hexisting).1
        have hexact := (leaseExpiry_some hexpiry).mpr (hrange existing hexisting)
        exact leaseExact_of_exact hlease hexact
      · exact h other registration hlookup

theorem LeasesExact.apply (h : LeasesExact registry) (hwf : WellFormed registry)
    {op : RegistryOp} (hrange : LeaseOpInRange registry op) :
    LeasesExact (registry.apply op).1 := by
  cases hstarts : RegistryOp.startsLease op with
  | false => exact h.quiet hstarts
  | true =>
      cases op with
      | register normalize request ownerIdentity now =>
          rw [apply_register]
          exact h.register normalize request ownerIdentity now hrange
      | renew targetId now =>
          rw [apply_renew]
          exact h.renew hwf targetId now hrange
      | _ => cases hstarts

/-- Each call is exact precisely when the lease it starts ends at a date, and a
run of such calls stores exact leases only. -/
theorem lease_exact_iff (policy : RegistrationPolicy) (ops : List RegistryOp) :
    let registry := machine.final (new policy) ops
    (∀ normalize request ownerIdentity now,
      RegisterExact registry normalize request ownerIdentity now ↔
        ∀ ipcPathKey, registry.registerChecks normalize request ownerIdentity = .ok ipcPathKey →
          LeaseInRange now request.leaseSeconds) ∧
      (∀ targetId now, RenewExact registry targetId now ↔
        ∀ registration, registry.registrations.lookup targetId = some registration →
          LeaseInRange now registration.leaseSeconds) ∧
      (machine.Along LeaseOpInRange (new policy) ops → LeasesExact registry) := by
  intro registry
  have hwf : WellFormed registry := wellFormed_final policy ops
  refine ⟨?_, ?_, ?_⟩
  · intro normalize request ownerIdentity now
    exact registerExact_iff normalize request ownerIdentity now
  · intro targetId now
    exact renewExact_iff hwf targetId now
  · intro hguard
    have hboth := Machine.guarded_invariant (fun state => WellFormed state ∧ LeasesExact state)
      (fun state op hrange h => ⟨h.1.apply op, h.2.apply h.1 hrange⟩) hguard
      ⟨wellFormed_new policy, leasesExact_new policy⟩
    exact hboth.2

def wrappingRequest : RegistrationRequest :=
  sampleRequest "payments-worker-a" "/run/rust-supervisor/a.sock" 18446744073709551615

/-- The largest lease wraps to minus one second. -/
theorem lease_wraps :
    (samplePolicy 18446744073709551615).validatePolicy = .ok () ∧
      (new (samplePolicy 18446744073709551615)).validateRequest wrappingRequest = .ok () ∧
      ¬RegisterExact (new (samplePolicy 18446744073709551615)) .ok wrappingRequest "uid:501"
        .unixEpoch := by
  have hvalid : (new (samplePolicy 18446744073709551615)).validateRequest wrappingRequest =
      .ok () := by
    decide +kernel
  refine ⟨by decide +kernel, hvalid, ?_⟩
  rw [registerExact_iff]
  intro hrange
  have hchecks : (new (samplePolicy 18446744073709551615)).registerChecks .ok wrappingRequest
      "uid:501" = .ok wrappingRequest.ipcPath := by
    refine registerChecks_ok.mpr ⟨hvalid, rfl, ?_, ?_⟩ <;> simp [new]
  exact absurd (hrange _ hchecks) (by decide)

end TargetProcessRegistry
end SupervisorRelay
