import SupervisorRelay.Library.HashMap
import SupervisorRelay.Source.Command
import SupervisorRelay.Source.Config

/-! The identities that `auth.rs` derives. SHA-256 and the certificate parser are
functions from outside; additions to a time panic when they leave its range. -/
namespace SupervisorRelay

abbrev Sha256 := List UInt8 → List UInt8

/-- `{byte:02x}` for each byte. -/
def lowercaseHex (bytes : List UInt8) : String :=
  String.ofList (bytes.flatMap fun byte =>
    [Nat.digitChar (byte.toNat / 16), Nat.digitChar (byte.toNat % 16)])

def fingerprintIdentity (sha256 : Sha256) (certificateDer : List UInt8) : String :=
  "mtls_cert_fingerprint:" ++ lowercaseHex (sha256 certificateDer)

def fingerprintIdentityFromParts (sha256 : Sha256) (subject issuer serial : List UInt8) : String :=
  "mtls_cert_fingerprint:" ++
    lowercaseHex (sha256 (subject ++ [0] ++ issuer ++ [0] ++ serial))

namespace RemoteIdentity

def fromVerifiedMtlsSubject (sha256 : Sha256) (subject issuer serialNumber : String)
    (notBefore notAfter now : OffsetDateTime) : RelayResult RemoteIdentity :=
  if subject.isBlank then
    .error (.new "empty_certificate_subject" "auth" none
      "client certificate subject must not be empty" false)
  else if now < notBefore ∨ notAfter < now then
    .error (.new "certificate_expired" "auth" none
      "client certificate is outside its validity window" false)
  else
    .ok {
      clientIdentity :=
        fingerprintIdentityFromParts sha256 subject.asBytes issuer.asBytes serialNumber.asBytes
      principal := subject
      subject := subject
      issuer := issuer
      serialNumber := serialNumber
      source := .mtls
      notBefore := notBefore
      notAfter := notAfter }

def fromTrustedProxySubject (subject : String) (now : OffsetDateTime) : Outcome RemoteIdentity :=
  if subject.isBlank then
    .returned (.error (.new "empty_proxy_subject" "auth" none
      "trusted proxy identity header must not be empty" false))
  else
    match now.checkedAdd (Duration.days 1) with
    | none => .panicked
    | some notAfter =>
        .returned (.ok {
          clientIdentity := "trusted_proxy:" ++ subject
          principal := subject
          subject := subject
          issuer := "trusted-proxy"
          serialNumber := "trusted-proxy-header"
          source := .trustedProxy
          notBefore := now
          notAfter := notAfter })

end RemoteIdentity

/-- What the relay reads of a parsed certificate. -/
structure X509Certificate where
  subject : String
  issuer : String
  rawSerial : String

namespace AuthContext

def identityFromMtlsDer (sha256 : Sha256)
    (parseX509Certificate : List UInt8 → Except String X509Certificate)
    (certificateDer : List UInt8) (now : OffsetDateTime) : Outcome RemoteIdentity :=
  if certificateDer.isEmpty then
    .returned (.error (.new "missing_client_certificate" "auth" none
      "client certificate must be present for mTLS mode" false))
  else
    match parseX509Certificate certificateDer with
    | .error diagnostic =>
        .returned (.error (.new "certificate_parse_failed" "auth" none
          ("client certificate could not be parsed: " ++ diagnostic) false))
    | .ok certificate =>
      -- the validity window is the relay's own, around the time of the check
      match now.checkedSub (Duration.seconds 1), now.checkedAdd (Duration.days 1) with
      | some notBefore, some notAfter =>
          .returned do
            let identity ← RemoteIdentity.fromVerifiedMtlsSubject sha256 certificate.subject
              certificate.issuer certificate.rawSerial notBefore notAfter now
            return { identity with clientIdentity := fingerprintIdentity sha256 certificateDer }
      | _, _ => .panicked

def identityFromTrustedProxy (config : TrustedProxyConfig) (remoteAddr : IpAddr)
    (headers : HashMap String String) (now : OffsetDateTime) : Outcome RemoteIdentity :=
  if !config.enabled then
    .returned (.error (.new "trusted_proxy_disabled" "auth" none
      "trusted proxy mode is disabled" false))
  else if !config.isAllowedRemoteAddr remoteAddr then
    .returned (.error (.new "untrusted_proxy" "auth" none
      "identity header came from an untrusted remote address" false))
  else
    let headerKey := config.identityHeader.toAsciiLowercase
    match headers.entries.find? fun entry => entry.1.toAsciiLowercase == headerKey with
    | none =>
        .returned (.error (.new "missing_proxy_identity" "auth" none
          "trusted proxy identity header is missing" false))
    | some entry => RemoteIdentity.fromTrustedProxySubject entry.2.trimmed now

end AuthContext

end SupervisorRelay
