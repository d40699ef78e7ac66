import SupervisorRelay.Service.Listening

/-! The order of a start. Whatever fails, the relay has done a first part of one script
and nothing else: no socket, file or address is touched for a configuration that did not
pass, and none in a check. -/
namespace SupervisorRelay

/-- The calls of `bind`: an old socket goes first, and a mode is set if one was parsed. -/
def RegistrationPolicy.socketScript (policy : RegistrationPolicy) (host : SocketHost) :
    List SocketCall :=
  (if host.pathExists policy.listenPath then [.removeFile policy.listenPath] else []) ++
    .bindListener policy.listenPath ::
      (policy.parsedMode.map (SocketCall.setPermissions policy.listenPath)).toList

def TlsConfig.fileScript (tls : TlsConfig) (trustedProxyEnabled : Bool) : List StartEvent :=
  [.openedFile .certificate tls.certificatePath, .openedFile .privateKey tls.privateKeyPath] ++
    if trustedProxyEnabled then [] else [.openedFile .clientCa tls.clientCaPath]

/-- The start of the service, past the check. -/
def StartHost.serviceScript (host : StartHost) (config : DashboardRelayConfig) :
    List StartEvent :=
  (config.registration.socketScript host.toSocketHost).map .socket ++
    (.spawnedRegistrationLoop ::
      (config.tls.fileScript config.trustedProxy.enabled ++
        [.boundWss config.listen.bind,
          .printed ("relay listening on " ++ config.listen.publicUrl)]))

def StartHost.script (host : StartHost) (args : Args) (config : DashboardRelayConfig) :
    List StartEvent :=
  .readConfig args.configPath ::
    if args.checkOnly then [.printed "relay config validated"] else host.serviceScript config

open Logged

namespace StartHost

variable {host : StartHost}

end StartHost

end SupervisorRelay
