import SupervisorRelay.Registry.Invariant

/-! Where a registered socket really lies. The prefix check reads the path as it
is written, the stored key is the path resolved; `..` after the prefix is what
can part them. -/
namespace SupervisorRelay

/-- No path is a symbolic link, and canonicalization of a directory that exists
resolves `.` and `..` and nothing else. -/
structure FileSystem.SymlinkFree (fileSystem : FileSystem) : Prop where
  isSymlink : ∀ path, fileSystem.isSymlink path = false
  canonicalize : ∀ path canonical, fileSystem.canonicalize path = .ok canonical →
    canonical = PathBuf.canonical path

theorem normalizeIpcPathKey_ok {fileSystem : FileSystem} (hplain : fileSystem.SymlinkFree)
    {path : PathBuf} (habs : path.isAbsolute = true) {ipcPathKey : String}
    (h : normalizeIpcPathKey fileSystem path = .ok ipcPathKey) :
    ipcPathKey = PathBuf.canonical path := by
  unfold normalizeIpcPathKey at h
  rw [hplain.isSymlink path] at h
  cases hname : PathBuf.fileName path with
  | none => cases hparent : PathBuf.parent path <;> simp [hparent, hname] at h
  | some name =>
      obtain ⟨directory, hparent, hdirectory, hcomponents⟩ := PathBuf.parent_fileName habs hname
      simp only [hparent, hname] at h
      cases hcanonical : fileSystem.canonicalize directory with
      | error diagnostic => simp [hcanonical] at h
      | ok canonical =>
          simp only [hcanonical] at h
          cases h
          have hvalid := PathBuf.resolve_valid hdirectory
          rw [hplain.canonicalize directory canonical hcanonical, PathBuf.canonical,
            PathBuf.join_ofNames hvalid, PathBuf.canonical,
            PathBuf.resolve_of_parent hcomponents]

namespace TargetProcessRegistry

/-- The stored location lies, component by component, under a canonical prefix. -/
def LocationAllowed (policy : RegistrationPolicy) (location : PathBuf) : Prop :=
  ∃ allowed ∈ policy.allowedIpcPathPrefixes, location.startsWith (PathBuf.canonical allowed) = true

/-- A registration over a file system without symbolic links whose path, once
accepted, does not climb out of the allowed prefix it starts with. -/
def RegistersInside (registry : TargetProcessRegistry) : RegistryOp → Prop
  | .register normalize request ownerIdentity _ =>
      (∃ fileSystem : FileSystem, fileSystem.SymlinkFree ∧
        normalize = normalizeIpcPathKey fileSystem) ∧
      ∀ ipcPathKey, registry.registerChecks normalize request ownerIdentity = .ok ipcPathKey →
        ∃ allowed ∈ registry.policy.allowedIpcPathPrefixes,
          request.ipcPath.startsWith allowed = true ∧ request.ipcPath.escapes allowed = false
  | _ => True

/-- Every stored key is an allowed location. -/
def LocationsAllowed (registry : TargetProcessRegistry) : Prop :=
  ∀ targetId registration, registry.registrations.lookup targetId = some registration →
    LocationAllowed registry.policy registration.ipcPathKey

variable {registry : TargetProcessRegistry}

theorem locationAllowed_of_inside {policy : RegistrationPolicy}
    (hpolicy : ∀ allowed ∈ policy.allowedIpcPathPrefixes, allowed.isAbsolute = true)
    {path : PathBuf} (habs : path.isAbsolute = true)
    (h : ∃ allowed ∈ policy.allowedIpcPathPrefixes,
      path.startsWith allowed = true ∧ path.escapes allowed = false) :
    LocationAllowed policy (PathBuf.canonical path) := by
  obtain ⟨allowed, hmem, hstarts, hescapes⟩ := h
  have hallowed := hpolicy allowed hmem
  have hunder := PathBuf.resolve_prefix hallowed hstarts hescapes
  have hvalid := PathBuf.resolve_valid habs
  exact ⟨allowed, hmem,
    (PathBuf.startsWith_ofNames hvalid (PathBuf.resolve_valid hallowed)).mpr hunder⟩

theorem LocationsAllowed.register (h : LocationsAllowed registry)
    (hpolicy : ∀ allowed ∈ registry.policy.allowedIpcPathPrefixes, allowed.isAbsolute = true)
    (normalize : PathBuf → RelayResult String) (request : RegistrationRequest)
    (ownerIdentity : String) (now : OffsetDateTime)
    (hinside : RegistersInside registry (.register normalize request ownerIdentity now)) :
    LocationsAllowed (registry.register normalize request ownerIdentity now).2 := by
  have hsame := register_policy registry normalize request ownerIdentity now
  unfold LocationsAllowed
  rw [hsame]
  obtain ⟨error, hchecks, hcall⟩ | ⟨ipcPathKey, hchecks, hexpiry, hcall⟩ |
      ⟨ipcPathKey, expiresAt, hchecks, hexpiry, houtcome, hafter⟩ :=
    register_cases registry normalize request ownerIdentity now
  · rw [hcall]
    exact h
  · rw [hcall]
    exact h
  · intro targetId registration hlookup
    rw [hafter, HashMap.lookup_insert] at hlookup
    split at hlookup
    · cases hlookup
      obtain ⟨⟨fileSystem, hplain, rfl⟩, hpath⟩ := hinside
      obtain ⟨hvalid, hkey, -, -⟩ := registerChecks_ok.mp hchecks
      obtain ⟨-, habs, -⟩ := validateRequest_ok.mp hvalid
      rw [recordOf, normalizeIpcPathKey_ok hplain habs hkey]
      exact locationAllowed_of_inside hpolicy habs (hpath ipcPathKey hchecks)
    · exact h targetId registration hlookup

theorem LocationsAllowed.of_frames {changed : TargetProcessRegistry}
    (h : LocationsAllowed registry) (hframes : Frames registry changed) :
    LocationsAllowed changed := by
  intro targetId registration hlookup
  obtain ⟨earlier, hearlier, hsame⟩ := hframes.registration hlookup
  have hkey : earlier.ipcPathKey = registration.ipcPathKey :=
    congrArg Declaration.ipcPathKey hsame
  rw [← hkey, hframes.policy]
  exact h targetId earlier hearlier

theorem LocationsAllowed.apply (h : LocationsAllowed registry)
    (hpolicy : ∀ allowed ∈ registry.policy.allowedIpcPathPrefixes, allowed.isAbsolute = true)
    {op : RegistryOp} (hinside : RegistersInside registry op) :
    LocationsAllowed (registry.apply op).1 := by
  cases hop : RegistryOp.isRegister op with
  | false => exact h.of_frames (apply_frames hop)
  | true =>
      cases op with
      | register normalize request ownerIdentity now =>
          rw [apply_register]
          exact h.register hpolicy normalize request ownerIdentity now hinside
      | _ => cases hop

/-- When no accepted path climbs out of its prefix, every stored location lies
under the canonical form of an allowed prefix. -/
theorem locations_allowed (policy : RegistrationPolicy) (ops : List RegistryOp)
    (hpolicy : policy.validatePolicy = .ok ())
    (hinside : machine.Along RegistersInside (new policy) ops) :
    ∀ targetId registration,
      (machine.final (new policy) ops).registrations.lookup targetId = some registration →
        ∃ allowed ∈ policy.allowedIpcPathPrefixes,
          PathBuf.startsWith registration.ipcPathKey (PathBuf.canonical allowed) = true := by
  obtain ⟨-, -, habs, -⟩ := RegistrationPolicy.validatePolicy_ok.mp hpolicy
  have hrun := Machine.guarded_invariant
    (fun state => state.policy = policy ∧ LocationsAllowed state)
    (fun state op hop hstate => ⟨(apply_policy op).trans hstate.1,
      hstate.2.apply (hstate.1 ▸ habs) hop⟩) hinside
    ⟨rfl, fun targetId registration hlookup => by simp [new] at hlookup⟩
  intro targetId registration hlookup
  have hallowed := hrun.2 targetId registration hlookup
  rw [hrun.1] at hallowed
  exact hallowed

/-- A file system where every directory exists and nothing is a symbolic link. -/
def plainFileSystem : FileSystem where
  isSymlink _ := false
  canonicalize path := .ok (PathBuf.canonical path)

theorem plainFileSystem_symlinkFree : plainFileSystem.SymlinkFree where
  isSymlink _ := rfl
  canonicalize path canonical h := by
    cases h
    rfl

def registerAt (ipcPath : PathBuf) : RegistryOp :=
  .register (normalizeIpcPathKey plainFileSystem) (sampleRequest "payments-worker-a" ipcPath 30)
    "uid:501" .unixEpoch

/-- A registration that takes a detour inside its prefix. -/
def detourOps : List RegistryOp :=
  [registerAt "/run/rust-supervisor/a/../b.sock"]

theorem locations_allowed_inside :
    ∃ registration,
      (machine.final (new (samplePolicy 120)) detourOps).registrations.lookup
          "payments-worker-a" = some registration ∧
        ∃ allowed ∈ (samplePolicy 120).allowedIpcPathPrefixes,
          PathBuf.startsWith registration.ipcPathKey (PathBuf.canonical allowed) = true := by
  have hvalid : (samplePolicy 120).validatePolicy = .ok () := by decide +kernel
  have hinside : machine.Along RegistersInside (new (samplePolicy 120)) detourOps := by
    refine ⟨⟨⟨plainFileSystem, plainFileSystem_symlinkFree, rfl⟩, ?_⟩, trivial⟩
    intro ipcPathKey _
    exact ⟨"/run/rust-supervisor", by simp [new, samplePolicy], by decide +kernel,
      by decide +kernel⟩
  have hstored : ((machine.final (new (samplePolicy 120)) detourOps).registrations.lookup
      "payments-worker-a").isSome = true := by
    decide +kernel
  obtain ⟨registration, hlookup⟩ := Option.isSome_iff_exists.mp hstored
  have hallowed := locations_allowed (samplePolicy 120) detourOps hvalid hinside
    "payments-worker-a" registration hlookup
  exact ⟨registration, hlookup, hallowed⟩

/-- Two `..` after the prefix lead out of it, past the check. -/
theorem location_escapes :
    (samplePolicy 120).validatePolicy = .ok () ∧
      ∃ registration,
        (machine.final (new (samplePolicy 120))
          [registerAt "/run/rust-supervisor/../../etc/x.sock"]).registrations.lookup
            "payments-worker-a" = some registration ∧
        registration.ipcPathKey = "/etc/x.sock" ∧
        ∀ allowed ∈ (samplePolicy 120).allowedIpcPathPrefixes,
          PathBuf.startsWith registration.ipcPathKey (PathBuf.canonical allowed) = false := by
  have hkey : ((machine.final (new (samplePolicy 120))
      [registerAt "/run/rust-supervisor/../../etc/x.sock"]).registrations.lookup
        "payments-worker-a").map (·.ipcPathKey) = some "/etc/x.sock" := by
    decide +kernel
  obtain ⟨registration, hlookup, hlocation⟩ := Option.map_eq_some_iff.mp hkey
  refine ⟨by decide +kernel, registration, hlookup, hlocation, ?_⟩
  rw [hlocation]
  decide +kernel

end TargetProcessRegistry
end SupervisorRelay
