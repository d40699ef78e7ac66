import SupervisorRelay.Library.IpAddr
import SupervisorRelay.Library.UnixPath
import SupervisorRelay.Source.Error

/-! The registration policy of `config.rs` with its two checks, and the allow list of
trusted proxies. -/
namespace SupervisorRelay

structure RegistrationPolicy where
  listenPath : PathBuf
  permissions : String
  allowedIpcPathPrefixes : List PathBuf
  defaultLeaseSeconds : UInt64
  maxLeaseSeconds : UInt64

namespace RegistrationPolicy

def validatePolicy (policy : RegistrationPolicy) : RelayResult Unit :=
  if !policy.listenPath.isAbsolute then
    .error (.new "relative_registration_path" "config" none
      "registration.listen_path must be absolute" false)
  else if policy.allowedIpcPathPrefixes.isEmpty then
    .error (.new "empty_allowed_ipc_path_prefixes" "config" none
      "registration.allowed_ipc_path_prefixes must not be empty" false)
  else if policy.allowedIpcPathPrefixes.any fun path => !path.isAbsolute then
    .error (.new "relative_allowed_ipc_path_prefix" "config" none
      "each allowed IPC path prefix must be absolute" false)
  else if policy.defaultLeaseSeconds == 0 || policy.maxLeaseSeconds == 0 ||
      policy.defaultLeaseSeconds > policy.maxLeaseSeconds then
    .error (.new "invalid_registration_lease_policy" "config" none
      "registration lease values must be positive and default must not exceed max" false)
  else .ok ()

def ipcPathIsAllowed (policy : RegistrationPolicy) (ipcPath : PathBuf) : Bool :=
  ipcPath.isAbsolute && policy.allowedIpcPathPrefixes.any fun allowed => ipcPath.startsWith allowed

theorem validatePolicy_ok {policy : RegistrationPolicy} :
    policy.validatePolicy = .ok () ↔
      policy.listenPath.isAbsolute = true ∧ policy.allowedIpcPathPrefixes ≠ [] ∧
        (∀ path ∈ policy.allowedIpcPathPrefixes, path.isAbsolute = true) ∧
        0 < policy.defaultLeaseSeconds.toNat ∧
        policy.defaultLeaseSeconds.toNat ≤ policy.maxLeaseSeconds.toNat := by
  unfold validatePolicy
  split
  · simp_all
  split
  · simp_all
  split
  · rename_i h
    simp only [reduceCtorEq, false_iff]
    rintro ⟨-, -, hall, -⟩
    obtain ⟨path, hmem, hpath⟩ := List.any_eq_true.mp h
    simp [hall path hmem] at hpath
  split
  · rename_i h
    simp only [reduceCtorEq, false_iff]
    rintro ⟨-, -, -, hpos, hle⟩
    simp only [Bool.or_eq_true, beq_iff_eq, decide_eq_true_eq, gt_iff_lt,
      UInt64.lt_iff_toNat_lt, ← UInt64.toNat_inj, UInt64.toNat_zero] at h
    omega
  · rename_i hlisten hempty hall hlease
    simp only [Bool.or_eq_true, beq_iff_eq, decide_eq_true_eq, gt_iff_lt,
      UInt64.lt_iff_toNat_lt, ← UInt64.toNat_inj, UInt64.toNat_zero] at hlease
    simp only [true_iff]
    refine ⟨by simpa using hlisten, by simpa using hempty, ?_, by omega, by omega⟩
    intro path hmem
    by_contra hpath
    exact hall (List.any_eq_true.mpr ⟨path, hmem, by simpa using hpath⟩)

end RegistrationPolicy

structure TrustedProxyConfig where
  enabled : Bool
  allowedRemoteAddrs : List String
  identityHeader : String

/-- An entry that is no address allows nobody. -/
def TrustedProxyConfig.isAllowedRemoteAddr (config : TrustedProxyConfig) (remoteAddr : IpAddr) :
    Bool :=
  config.enabled &&
    (config.allowedRemoteAddrs.filterMap IpAddr.parse).any fun allowed => allowed == remoteAddr

theorem TrustedProxyConfig.isAllowedRemoteAddr_iff {config : TrustedProxyConfig}
    {remoteAddr : IpAddr} :
    config.isAllowedRemoteAddr remoteAddr = true ↔
      config.enabled = true ∧
        ∃ addr ∈ config.allowedRemoteAddrs, IpAddr.parse addr = some remoteAddr := by
  simp only [isAllowedRemoteAddr, Bool.and_eq_true, List.any_eq_true, List.mem_filterMap,
    beq_iff_eq, exists_eq_right]

end SupervisorRelay
