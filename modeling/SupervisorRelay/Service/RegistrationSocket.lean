import SupervisorRelay.Registry.Runs
import SupervisorRelay.Source.RegistrationListener

/-! The mode of the registration socket. `bind` sets what it can parse and goes on
without a word where it cannot. -/
namespace SupervisorRelay

/-- The number that `permissions` denotes in octal digits, leading zeros allowed. -/
def RegistrationPolicy.denotedMode (policy : RegistrationPolicy) : Option Nat :=
  Radix.denoted 8 policy.permissions.toList

variable {policy : RegistrationPolicy} {host : SocketHost}

/-- `bind` gives up, or the socket has the mode that `permissions` denotes. -/
def HonoursPermissions (policy : RegistrationPolicy) (host : SocketHost) : Prop :=
  ∀ listener, (RegistrationListener.bind policy host).1 = .ok listener →
    ∃ mode, modeAfter listener.listenPath (RegistrationListener.bind policy host).2 = some mode ∧
      policy.denotedMode = some mode.toNat

/-- The host lets the socket be bound. -/
structure SocketHost.Admits (host : SocketHost) (path : PathBuf) : Prop where
  cleared : host.pathExists path = true → host.removeFile path = .ok ()
  bound : host.bindListener path = .ok ()

/-- An octal number other than zero that fits the permission bits. -/
def RegistrationPolicy.StatesMode (policy : RegistrationPolicy) : Prop :=
  ∃ mode, policy.denotedMode = some mode ∧ 0 < mode ∧ mode ≤ 0o7777

/-- Zero is trimmed away before it can be parsed, and a number past 32 bits overflows. -/
theorem parsedMode_of_denoted {value : Nat} (h : policy.denotedMode = some value) :
    policy.parsedMode =
      if 0 < value ∧ value < UInt32.size then some (UInt32.ofNat value) else none := by
  have hne : policy.permissions.toList ≠ [] := by
    intro hnil
    rw [RegistrationPolicy.denotedMode, hnil] at h
    cases h
  rw [RegistrationPolicy.denotedMode, Radix.denoted, if_neg (by simpa using hne)] at h
  obtain ⟨digits, hdigits, rfl⟩ := Option.map_eq_some_iff.mp h
  unfold RegistrationPolicy.parsedMode
  rcases Radix.denoted_dropZeros (by decide) hdigits with ⟨hzero, hrest⟩ | ⟨hpos, hrest⟩
  · rw [hrest, hzero]
    rfl
  · rw [Radix.fromStrRadix_digits (by decide) (by decide) hrest]
    simp only [hpos, true_and]
    split <;> rfl

example : (["0600", "000", "0o600", "+600"].map fun permissions =>
    ({ samplePolicy 120 with permissions := permissions } : RegistrationPolicy).parsedMode) =
      [some 0o600, none, none, some 0o600] := by
  decide +kernel

theorem clearPath_ok {path : PathBuf} :
    (RegistrationListener.clearPath host path).1 = .ok () ↔
      (host.pathExists path = true → host.removeFile path = .ok ()) := by
  unfold RegistrationListener.clearPath
  split
  · rename_i hexists
    cases host.removeFile path with
    | error diagnostic => simp [hexists]
    | ok => simp
  · rename_i habsent
    simp [habsent]

/-- On a host that lets it, `bind` ends well and the mode is whatever was parsed. -/
theorem bind_admitted (h : host.Admits policy.listenPath) :
    (RegistrationListener.bind policy host).1 = .ok ⟨policy.listenPath⟩ ∧
      modeAfter policy.listenPath (RegistrationListener.bind policy host).2 =
        policy.parsedMode.map (· &&& 0o7777) := by
  have hcleared := clearPath_ok.mpr h.cleared
  generalize hcall : RegistrationListener.clearPath host policy.listenPath = call at hcleared
  obtain ⟨result, calls⟩ := call
  cases hcleared
  unfold RegistrationListener.bind
  rw [hcall, h.bound]
  dsimp only
  cases policy.parsedMode with
  | none => simp [modeAfter, SocketCall.modeAfter]
  | some mode => simp [modeAfter, SocketCall.modeAfter]

theorem bind_refused (h : ¬host.Admits policy.listenPath) :
    ∃ error, (RegistrationListener.bind policy host).1 = .error error := by
  unfold RegistrationListener.bind
  generalize hcall : RegistrationListener.clearPath host policy.listenPath = call
  obtain ⟨result, calls⟩ := call
  cases result with
  | error error => exact ⟨error, rfl⟩
  | ok =>
      cases hbind : host.bindListener policy.listenPath with
      | error diagnostic => exact ⟨_, rfl⟩
      | ok =>
          have hcleared := clearPath_ok.mp (congrArg Prod.fst hcall)
          exact absurd ⟨hcleared, hbind⟩ h

theorem permissionBits_ofNat {value : Nat} (h : value ≤ 0o7777) :
    UInt32.ofNat value &&& 0o7777 = UInt32.ofNat value := by
  have hsize : value < UInt32.size := Nat.lt_of_le_of_lt h (by decide)
  rw [← UInt32.toNat_inj, UInt32.toNat_and, UInt32.toNat_ofNat_of_lt' hsize]
  have hbits : (0o7777 : UInt32).toNat = 2 ^ 12 - 1 := by decide
  rw [hbits, Nat.and_two_pow_sub_one_eq_mod, Nat.mod_eq_of_lt (by omega)]

theorem permissionBits_le (mode : UInt32) : (mode &&& 0o7777).toNat ≤ 0o7777 := by
  rw [UInt32.toNat_and]
  exact Nat.and_le_right

/-- A number beyond the permission bits loses its upper bits in `chmod`. -/
theorem honoursPermissions_admitted (hadmits : host.Admits policy.listenPath) :
    HonoursPermissions policy host ↔ policy.StatesMode := by
  obtain ⟨hok, hmode⟩ := bind_admitted hadmits
  constructor
  · intro h
    obtain ⟨mode, hset, hdenoted⟩ := h _ hok
    rw [hmode, parsedMode_of_denoted hdenoted] at hset
    split at hset
    · rename_i hrange
      rw [Option.map_some, Option.some.injEq] at hset
      have hle := permissionBits_le (UInt32.ofNat mode.toNat)
      rw [hset] at hle
      exact ⟨mode.toNat, hdenoted, hrange.1, hle⟩
    · cases hset
  · rintro ⟨value, hdenoted, hpos, hle⟩ listener hlistener
    cases hok.symm.trans hlistener
    have hsize : value < UInt32.size := Nat.lt_of_le_of_lt hle (by decide)
    refine ⟨UInt32.ofNat value, ?_, ?_⟩
    · rw [hmode, parsedMode_of_denoted hdenoted, if_pos ⟨hpos, hsize⟩, Option.map_some,
        permissionBits_ofNat hle]
    · rw [hdenoted, UInt32.toNat_ofNat_of_lt' hsize]

/-- Permissions are honoured exactly where they are an octal number, not zero, of the
permission bits, or where `bind` is not reached or gives up for another reason. -/
theorem permissions_honoured_iff (policy : RegistrationPolicy) (host : SocketHost) :
    (policy.validatePolicy = .ok () → HonoursPermissions policy host) ↔
      (policy.validatePolicy = .ok () → host.Admits policy.listenPath → policy.StatesMode) := by
  refine imp_congr_right fun _ => ?_
  by_cases hadmits : host.Admits policy.listenPath
  · rw [honoursPermissions_admitted hadmits]
    exact ⟨fun h _ => h, fun h => h hadmits⟩
  · refine iff_of_true (fun listener hlistener => ?_) fun h => absurd h hadmits
    obtain ⟨error, herror⟩ := bind_refused hadmits
    rw [herror] at hlistener
    cases hlistener

/-- A host where nothing stands at the path. -/
def freshHost : SocketHost where
  pathExists _ := false
  removeFile _ := .ok ()
  bindListener _ := .ok ()

/-- The mode in the notation of other languages. -/
def prefixedPolicy : RegistrationPolicy :=
  { samplePolicy 120 with permissions := "0o600" }

theorem prefixed_mode_dropped :
    ¬(prefixedPolicy.validatePolicy = .ok () → HonoursPermissions prefixedPolicy freshHost) := by
  intro h
  obtain ⟨mode, hset, -⟩ := h (by decide +kernel) ⟨prefixedPolicy.listenPath⟩ (by decide +kernel)
  revert hset
  have hnone : modeAfter prefixedPolicy.listenPath
      (RegistrationListener.bind prefixedPolicy freshHost).2 = none := by decide +kernel
  rw [hnone]
  simp

end SupervisorRelay
