import SupervisorRelay.Service.CommandLine
import SupervisorRelay.Service.RegistrationSocket

/-! What a relay has made sure of when it listens, and what it has done outside itself
by then, or by the time it gave up. -/
namespace SupervisorRelay

namespace StartHost

variable {host : StartHost}

/-- The file at the path holds the certificates, in this order. -/
def HasCerts (host : StartHost) (file : TlsFile) (path : PathBuf)
    (certs : List CertificateDer) : Prop :=
  ∃ contents, host.openFile file path = .ok contents ∧ host.pemCerts contents = certs.map .ok

def HasKey (host : StartHost) (path : PathBuf) (key : PrivateKeyDer) : Prop :=
  ∃ contents, host.openFile .privateKey path = .ok contents ∧
    host.pemPrivateKey contents = .ok (some key)

/-- The certificate authority that clients must be signed by. -/
structure TrustsClients (host : StartHost) (path : PathBuf) (roots : List CertificateDer) :
    Prop where
  file : host.HasCerts .clientCa path roots
  added : ∀ cert ∈ roots, host.addRoot cert = .ok ()
  verifier : host.buildVerifier roots = .ok ()

/-- The TLS configuration that the files give. Clients are asked for a certificate
exactly when no proxy vouches for them. -/
structure Configures (host : StartHost) (tls : TlsConfig) (trustedProxyEnabled : Bool)
    (serverConfig : ServerConfig) : Prop where
  certificates : host.HasCerts .certificate tls.certificatePath serverConfig.certificates
  privateKey : host.HasKey tls.privateKeyPath serverConfig.privateKey
  clients : if trustedProxyEnabled = true then serverConfig.clientRoots = none
    else ∃ roots, serverConfig.clientRoots = some roots ∧
      host.TrustsClients tls.clientCaPath roots
  accepted : host.withSingleCert serverConfig.certificates serverConfig.privateKey = .ok ()

/-- What the host must grant for the relay to listen. -/
structure Grants (host : StartHost) (config : DashboardRelayConfig)
    (serverConfig : ServerConfig) : Prop where
  socket : host.Admits config.registration.listenPath
  tls : host.Configures config.tls config.trustedProxy.enabled serverConfig
  bound : host.bindTcp config.listen.bind = .ok ()

end StartHost

end SupervisorRelay
