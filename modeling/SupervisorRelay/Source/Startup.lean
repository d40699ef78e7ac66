import SupervisorRelay.Library.SocketAddr
import SupervisorRelay.Library.Logged
import SupervisorRelay.Source.Process
import SupervisorRelay.Source.RegistrationListener

/-! `main` and `run` of `main.rs` with the configuration of `config.rs`: from the command
line to the accept loop. File contents, the YAML, URL, PEM and TLS libraries and the
network are what they answer. -/
namespace SupervisorRelay

structure Args where
  configPath : PathBuf
  checkOnly : Bool
deriving DecidableEq

namespace Args

/-- The loop of `parse`, from an argument on. -/
def parseFrom (configPath : Option PathBuf) (checkOnly : Bool) :
    List String → RelayResult Args
  | [] =>
    match configPath with
    | some configPath => .ok ⟨configPath, checkOnly⟩
    | none => .error (.new "missing_config_arg" "args" none "--config is required" false)
  | argument :: rest =>
    if argument = "--config" then
      match rest with
      | [] => .error (.new "missing_config_arg" "args" none "--config requires a path" false)
      | value :: rest => parseFrom (some value) checkOnly rest
    else if argument = "--check" then parseFrom configPath true rest
    else .error (.new "unknown_arg" "args" none ("unknown argument: " ++ argument) false)

def parse (args : List String) : RelayResult Args :=
  parseFrom none false args

end Args

structure ListenConfig where
  bind : String
  publicUrl : String

structure TlsConfig where
  certificatePath : PathBuf
  privateKeyPath : PathBuf
  clientCaPath : PathBuf

structure DashboardRelayConfig where
  listen : ListenConfig
  tls : TlsConfig
  trustedProxy : TrustedProxyConfig
  registration : RegistrationPolicy

/-- A parsed URL, of which the relay reads the scheme. -/
structure Url where
  scheme : String

def ListenConfig.validate (parseUrl : String → Except String Url) (config : ListenConfig) :
    RelayResult Unit :=
  match SocketAddr.parse config.bind with
  | none =>
      .error (.new "invalid_bind_address" "config" none
        "listen.bind must be socket address: invalid socket address syntax" false)
  | some _ =>
    match parseUrl config.publicUrl with
    | .error diagnostic =>
        .error (.new "invalid_public_url" "config" none
          ("listen.public_url could not be parsed: " ++ diagnostic) false)
    | .ok url =>
      if url.scheme != "wss" then
        .error (.new "invalid_public_url" "config" none
          "listen.public_url must use wss://" false)
      else .ok ()

def TlsConfig.validate (config : TlsConfig) (trustedProxyEnabled : Bool) : RelayResult Unit :=
  if config.certificatePath.isEmpty || config.privateKeyPath.isEmpty then
    .error (.new "missing_tls_identity" "config" none
      "tls.certificate_path and tls.private_key_path must be configured" false)
  else if !trustedProxyEnabled && config.clientCaPath.isEmpty then
    .error (.new "missing_client_ca" "config" none
      "tls.client_ca_path must be configured when trusted proxy mode is disabled" false)
  else .ok ()

/-- One round of the loop over the allowed addresses. -/
def TrustedProxyConfig.validateAddr (addr : String) : RelayResult Unit :=
  match IpAddr.parse addr with
  | some _ => .ok ()
  | none =>
      .error (.new "invalid_trusted_proxy_addr" "config" none
        "trusted proxy address could not be parsed: invalid IP address syntax" false)

def TrustedProxyConfig.validate (config : TrustedProxyConfig) : RelayResult Unit :=
  if !config.enabled then .ok ()
  else if config.allowedRemoteAddrs.isEmpty then
    .error (.new "empty_trusted_proxy_addrs" "config" none
      "trusted_proxy.allowed_remote_addrs must not be empty when trusted proxy mode is enabled"
      false)
  else do
    config.allowedRemoteAddrs.forM validateAddr
    if config.identityHeader.isBlank then
      .error (.new "empty_identity_header" "config" none
        "trusted_proxy.identity_header must not be empty" false)
    else .ok ()

def DashboardRelayConfig.validate (parseUrl : String → Except String Url)
    (config : DashboardRelayConfig) : RelayResult Unit := do
  config.listen.validate parseUrl
  config.trustedProxy.validate
  config.tls.validate config.trustedProxy.enabled
  config.registration.validatePolicy

abbrev CertificateDer := List UInt8

abbrev PrivateKeyDer := List UInt8

/-- `clientRoots` is what `with_client_cert_verifier` trusts; `with_no_client_auth` is
`none`. -/
structure ServerConfig where
  clientRoots : Option (List CertificateDer)
  certificates : List CertificateDer
  privateKey : PrivateKeyDer

inductive TlsFile where
  | certificate
  | privateKey
  | clientCa
deriving DecidableEq

/-- What the relay does outside itself while it starts. -/
inductive StartEvent where
  | readConfig (path : PathBuf)
  | printed (line : String)
  | socket (call : SocketCall)
  | spawnedRegistrationLoop
  | openedFile (file : TlsFile) (path : PathBuf)
  | boundWss (address : String)
deriving DecidableEq

/-- What the host and the libraries answer. A file is read when it is opened, so two
openings of one path may differ. -/
structure StartHost extends SocketHost where
  readToString : PathBuf → Except String String
  fromYaml : String → Except String DashboardRelayConfig
  parseUrl : String → Except String Url
  openFile : TlsFile → PathBuf → Except String (List UInt8)
  pemCerts : List UInt8 → List (Except String CertificateDer)
  pemPrivateKey : List UInt8 → Except String (Option PrivateKeyDer)
  addRoot : CertificateDer → Except String Unit
  buildVerifier : List CertificateDer → Except String Unit
  withSingleCert : List CertificateDer → PrivateKeyDer → Except String Unit
  bindTcp : String → Except String Unit

abbrev Start := Logged StartEvent RelayError

namespace StartHost

variable (host : StartHost)

def fromYamlStr (yaml : String) : RelayResult DashboardRelayConfig :=
  (host.fromYaml yaml).mapError
    (relayError "invalid_config_yaml" "config_parse" "relay config yaml could not be parsed: "
      false)

def loadFromPath (path : PathBuf) : Start DashboardRelayConfig := do
  let yaml ← .call (.readConfig path) ((host.readToString path).mapError
    (relayError "config_read_failed" "config_parse" "relay config could not be read: " false))
  .ofExcept (host.fromYamlStr yaml)

def loadCerts (file : TlsFile) (path : PathBuf) : Start (List CertificateDer) := do
  let reader ← .call (.openedFile file path) ((host.openFile file path).mapError
    (relayError "cert_read_failed" "tls" "certificate file could not be opened: " false))
  .ofExcept (((host.pemCerts reader).mapM id).mapError
    (relayError "cert_parse_failed" "tls" "certificate file could not be parsed: " false))

def loadPrivateKey (path : PathBuf) : Start PrivateKeyDer := do
  let reader ← .call (.openedFile .privateKey path) ((host.openFile .privateKey path).mapError
    (relayError "key_read_failed" "tls" "private key file could not be opened: " false))
  let key ← .ofExcept ((host.pemPrivateKey reader).mapError
    (relayError "key_parse_failed" "tls" "private key file could not be parsed: " false))
  match key with
  | some key => pure key
  | none =>
      .ofExcept (.error (.new "missing_private_key" "tls" none
        "private key file does not contain a supported key" false))

/-- `with_single_cert` on either builder. -/
def withCert (clientRoots : Option (List CertificateDer)) (certs : List CertificateDer)
    (privateKey : PrivateKeyDer) : RelayResult ServerConfig :=
  ((host.withSingleCert certs privateKey).map fun () =>
    (⟨clientRoots, certs, privateKey⟩ : ServerConfig)).mapError
    (relayError "tls_config_failed" "tls" "tls server config could not be built: " false)

def buildServerConfig (tls : TlsConfig) (trustedProxyEnabled : Bool) : Start ServerConfig := do
  let certs ← host.loadCerts .certificate tls.certificatePath
  let privateKey ← host.loadPrivateKey tls.privateKeyPath
  if trustedProxyEnabled then .ofExcept (host.withCert none certs privateKey)
  else do
    let roots ← host.loadCerts .clientCa tls.clientCaPath
    roots.forM fun cert =>
      .ofExcept ((host.addRoot cert).mapError
        (relayError "client_ca_load_failed" "tls" "client ca certificate could not be added: "
          false))
    .ofExcept ((host.buildVerifier roots).mapError
      (relayError "client_ca_verifier_failed" "tls"
        "client certificate verifier could not be built: " false))
    .ofExcept (host.withCert (some roots) certs privateKey)

def bindRegistration (policy : RegistrationPolicy) : Start RegistrationListener :=
  let bound := RegistrationListener.bind policy host.toSocketHost
  ⟨bound.1, bound.2.map .socket⟩

end StartHost

/-- How far `run` gets without its loop. -/
inductive StartResult where
  | checked
  | listening (config : DashboardRelayConfig) (serverConfig : ServerConfig)

/-- `run` up to its loop. -/
def StartHost.start (host : StartHost) (arguments : List String) : Start StartResult := do
  let args ← .ofExcept (Args.parse arguments)
  let config ← host.loadFromPath args.configPath
  .ofExcept (config.validate host.parseUrl)
  if args.checkOnly then
    .call (.printed "relay config validated") (.ok .checked)
  else do
    let _ ← host.bindRegistration config.registration
    -- The registration loop is live from here on, also where the start-up still fails.
    .call .spawnedRegistrationLoop (.ok ())
    let serverConfig ← host.buildServerConfig config.tls config.trustedProxy.enabled
    .call (.boundWss config.listen.bind) ((host.bindTcp config.listen.bind).mapError
      (relayError "wss_bind_failed" "wss_listen" "wss listener could not bind: " true))
    .call (.printed ("relay listening on " ++ config.listen.publicUrl)) (.ok ())
    return .listening config serverConfig

/-- What `select!` gets first. -/
inductive Incoming where
  | accepted (connection : Except String WssConnection)
  | ctrlC (signal : Except String Unit)

/-- The loop of `run`: the tasks that it spawns, and its result once it has one. -/
def acceptLoop (spawned : Nat) :
    List Incoming → List (TaskId × TaskTurn) × Option (RelayResult Unit)
  | [] => ([], none)
  | .accepted (.error diagnostic) :: _ =>
      ([], some (.error (relayError "wss_accept_failed" "wss_listen"
        "wss tcp connection could not be accepted: " true diagnostic)))
  | .accepted (.ok connection) :: rest =>
      let next := acceptLoop (spawned + 1) rest
      ((.connection spawned, .spawn connection) :: next.1, next.2)
  | .ctrlC (.error diagnostic) :: _ =>
      ([], some (.error (relayError "shutdown_signal_failed" "runtime"
        "shutdown signal could not be read: " true diagnostic)))
  | .ctrlC (.ok ()) :: _ => ([], some (.ok ()))

/-- The result of `run`, once it has one. -/
def StartHost.run (host : StartHost) (arguments : List String) (incoming : List Incoming) :
    Option (RelayResult Unit) :=
  match (host.start arguments).result with
  | .error error => some (.error error)
  | .ok .checked => some (.ok ())
  | .ok (.listening _ _) => (acceptLoop 0 incoming).2

end SupervisorRelay
