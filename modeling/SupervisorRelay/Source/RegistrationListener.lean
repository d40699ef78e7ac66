import SupervisorRelay.Library.Radix
import SupervisorRelay.Source.Config

/-! `RegistrationListener::bind` of `registration.rs`. What the host answers is data;
the calls that reach the file system are listed beside the result. -/
namespace SupervisorRelay

/-- The host's answers at the socket path. -/
structure SocketHost where
  pathExists : PathBuf → Bool
  removeFile : PathBuf → Except String Unit
  bindListener : PathBuf → Except String Unit

inductive SocketCall where
  | removeFile (path : PathBuf)
  | bindListener (path : PathBuf)
  | setPermissions (path : PathBuf) (mode : UInt32)
deriving DecidableEq

structure RegistrationListener where
  listenPath : PathBuf
deriving DecidableEq

/-- `u32::from_str_radix` in base 8, on the text without its leading zeros. -/
def RegistrationPolicy.parsedMode (policy : RegistrationPolicy) : Option UInt32 :=
  (Radix.fromStrRadix 8 UInt32.size (policy.permissions.toList.dropWhile (· == '0'))).map
    UInt32.ofNat

namespace RegistrationListener

/-- A file that stands at the path is removed first. -/
def clearPath (host : SocketHost) (path : PathBuf) : RelayResult Unit × List SocketCall :=
  if host.pathExists path then
    match host.removeFile path with
    | .error diagnostic =>
        (.error (.new "registration_socket_remove_failed" "registration_bind" none
          ("old registration socket could not be removed: " ++ diagnostic) true),
          [.removeFile path])
    | .ok () => (.ok (), [.removeFile path])
  else (.ok (), [])

/-- A text that is no mode leaves the socket as it was bound, and so would a failure of
`set_permissions`, whose result is dropped. -/
def bind (policy : RegistrationPolicy) (host : SocketHost) :
    RelayResult RegistrationListener × List SocketCall :=
  match clearPath host policy.listenPath with
  | (.error error, calls) => (.error error, calls)
  | (.ok (), calls) =>
    match host.bindListener policy.listenPath with
    | .error diagnostic =>
        (.error (.new "registration_bind_failed" "registration_bind" none
          ("registration socket could not be bound: " ++ diagnostic) true),
          calls ++ [.bindListener policy.listenPath])
    | .ok () =>
      match policy.parsedMode with
      | some mode =>
          (.ok ⟨policy.listenPath⟩,
            calls ++ [.bindListener policy.listenPath, .setPermissions policy.listenPath mode])
      | none => (.ok ⟨policy.listenPath⟩, calls ++ [.bindListener policy.listenPath])

end RegistrationListener

/-- What a call that succeeds does to the mode last set at a path: `chmod` sets the
twelve permission bits, and a fresh socket has the mode that the umask leaves. -/
def SocketCall.modeAfter (path : PathBuf) (mode : Option UInt32) : SocketCall → Option UInt32
  | removeFile changed => if changed = path then none else mode
  | bindListener changed => if changed = path then none else mode
  | setPermissions changed requested =>
      if changed = path then some (requested &&& 0o7777) else mode

/-- The mode that a row of calls gives the file at a path, if one sets it. -/
def modeAfter (path : PathBuf) (calls : List SocketCall) : Option UInt32 :=
  calls.foldl (SocketCall.modeAfter path) none

end SupervisorRelay
