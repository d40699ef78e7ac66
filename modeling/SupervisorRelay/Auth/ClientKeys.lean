import SupervisorRelay.Library.Separated
import SupervisorRelay.Session.Operations
import SupervisorRelay.Source.Auth

/-! Collisions of the client keys. The hash and its hex text lose nothing; what two
operators can share is the text that is hashed, where a name holds the separator. -/
namespace SupervisorRelay

theorem digitChar_injective {first second : Nat} (hfirst : first < 16) (hsecond : second < 16)
    (h : Nat.digitChar first = Nat.digitChar second) : first = second := by
  have hall : ∀ left right : Fin 16,
      Nat.digitChar left = Nat.digitChar right → left = right := by decide
  exact congrArg Fin.val (hall ⟨first, hfirst⟩ ⟨second, hsecond⟩ h)

theorem lowercaseHex_injective {first second : List UInt8}
    (h : lowercaseHex first = lowercaseHex second) : first = second := by
  unfold lowercaseHex at h
  rw [String.ofList_inj] at h
  induction first generalizing second with
  | nil =>
      cases second with
      | nil => rfl
      | cons => simp at h
  | cons byte rest ih =>
      cases second with
      | nil => simp at h
      | cons other others =>
          simp only [List.flatMap_cons, List.cons_append, List.nil_append, List.cons.injEq] at h
          obtain ⟨hhigh, hlow, hrest⟩ := h
          have hbyte := byte.toNat_lt
          have hother := other.toNat_lt
          have hhigh' := digitChar_injective (by omega) (by omega) hhigh
          have hlow' := digitChar_injective (by omega) (by omega) hlow
          have hsame : byte.toNat = other.toNat := by omega
          rw [UInt8.toNat_inj.mp hsame, ih hrest]

theorem fingerprint_hex_injective {sha256 : Sha256} (hsha256 : Function.Injective sha256)
    {first second : List UInt8}
    (h : "mtls_cert_fingerprint:" ++ lowercaseHex (sha256 first) =
      "mtls_cert_fingerprint:" ++ lowercaseHex (sha256 second)) : first = second := by
  rw [String.append_right_inj] at h
  exact hsha256 (lowercaseHex_injective h)

/-- What `from_verified_mtls_subject` takes from a certificate. -/
@[ext] structure CertificateNames where
  subject : String
  issuer : String
  serialNumber : String

namespace CertificateNames

def nul : Char := '\x00'

/-- A text that passes as a subject. -/
def IsSubject (text : List Char) : Prop :=
  (String.ofList text).isBlank = false

def fields (names : CertificateNames) : FieldTriple Char :=
  ⟨names.subject.toList, names.issuer.toList, names.serialNumber.toList⟩

def ofFields (fields : FieldTriple Char) : CertificateNames :=
  ⟨String.ofList fields.first, String.ofList fields.second, String.ofList fields.third⟩

@[simp] theorem fields_ofFields (fields : FieldTriple Char) :
    (ofFields fields).fields = fields := by
  simp [ofFields, CertificateNames.fields]

theorem fields_injective {names other : CertificateNames} (h : other.fields = names.fields) :
    other = names := by
  simp only [fields, FieldTriple.mk.injEq, String.toList_inj] at h
  ext1
  · exact h.1
  · exact h.2.1
  · exact h.2.2

/-- No NUL in the issuer or the serial number, and none in the subject behind a text
that could be a subject. -/
def Separated (names : CertificateNames) : Prop :=
  names.fields.Separated nul IsSubject

/-- What `from_verified_mtls_subject` makes of the names. -/
def derived (sha256 : Sha256) (names : CertificateNames) (notBefore notAfter now : OffsetDateTime) :
    RelayResult RemoteIdentity :=
  RemoteIdentity.fromVerifiedMtlsSubject sha256 names.subject names.issuer names.serialNumber
    notBefore notAfter now

/-- Names without any NUL, as certificate authorities write them. -/
theorem separated_of_notMem {names : CertificateNames} (hsubject : nul ∉ names.subject.toList)
    (hissuer : nul ∉ names.issuer.toList) (hserial : nul ∉ names.serialNumber.toList) :
    names.Separated where
  first before after hsplit := by
    have hmem : nul ∈ names.subject.toList := by
      rw [show names.subject.toList = before ++ nul :: after from hsplit]
      simp
    exact absurd hmem hsubject
  second := hissuer
  third := hserial

/-- The bytes that are hashed. -/
def hashed (names : CertificateNames) : List UInt8 :=
  names.subject.asBytes ++ [0] ++ names.issuer.asBytes ++ [0] ++ names.serialNumber.asBytes

theorem hashed_eq (names : CertificateNames) :
    names.hashed = (String.ofList (names.fields.joined nul)).asBytes := by
  have hnul : (String.ofList [nul]).asBytes = [0] := by decide
  have hjoined : names.fields.joined nul = names.subject.toList ++ ([nul] ++
      (names.issuer.toList ++ ([nul] ++ names.serialNumber.toList))) := rfl
  simp only [hjoined, String.ofList_append, String.asBytes_append, hnul, String.ofList_toList,
    hashed, List.append_assoc]

theorem hashed_inj {names other : CertificateNames} :
    other.hashed = names.hashed ↔ other.fields.joined nul = names.fields.joined nul := by
  rw [hashed_eq, hashed_eq, String.asBytes_inj, String.ofList_inj]

theorem derived_ok {sha256 : Sha256} {names : CertificateNames}
    {notBefore notAfter now : OffsetDateTime} {identity : RemoteIdentity} :
    names.derived sha256 notBefore notAfter now = .ok identity ↔
      (IsSubject names.subject.toList ∧ notBefore ≤ now ∧ now ≤ notAfter) ∧
        identity = {
          clientIdentity := "mtls_cert_fingerprint:" ++ lowercaseHex (sha256 names.hashed)
          principal := names.subject
          subject := names.subject
          issuer := names.issuer
          serialNumber := names.serialNumber
          source := .mtls
          notBefore := notBefore
          notAfter := notAfter } := by
  unfold derived RemoteIdentity.fromVerifiedMtlsSubject IsSubject
  rw [String.ofList_toList]
  split
  · rename_i hblank
    simp [hblank]
  split
  · rename_i hwindow
    rw [← OffsetDateTime.not_le, ← OffsetDateTime.not_le] at hwindow
    simp only [reduceCtorEq, false_iff]
    rintro ⟨⟨-, hbefore, hafter⟩, -⟩
    exact hwindow.elim (absurd hbefore) (absurd hafter)
  · rename_i hblank hwindow
    rw [not_or, ← OffsetDateTime.not_le, ← OffsetDateTime.not_le, not_not, not_not] at hwindow
    have hsubject : names.subject.isBlank = false := by simpa using hblank
    simp only [hsubject, hwindow, and_self, true_and, Except.ok.injEq]
    exact eq_comm

/-- The names that share a key with others, and those that do not. -/
theorem unique_iff {sha256 : Sha256} (hsha256 : Function.Injective sha256)
    {names : CertificateNames} {notBefore notAfter now : OffsetDateTime}
    {identity : RemoteIdentity}
    (hidentity : names.derived sha256 notBefore notAfter now = .ok identity) :
    (∀ (other : CertificateNames) (notBefore' notAfter' now' : OffsetDateTime)
        (otherIdentity : RemoteIdentity),
        other.derived sha256 notBefore' notAfter' now' = .ok otherIdentity →
          otherIdentity.clientIdentity = identity.clientIdentity → other = names) ↔
      names.Separated := by
  obtain ⟨⟨hsubject, hwindow⟩, rfl⟩ := derived_ok.mp hidentity
  constructor
  · intro hall
    refine FieldTriple.separated_of_unique hsubject fun other husable hjoined => ?_
    have hsubject' : IsSubject (ofFields other).subject.toList := by simpa [ofFields] using husable
    have hother : (ofFields other).derived sha256 notBefore notAfter now = .ok _ :=
      derived_ok.mpr ⟨⟨hsubject', hwindow⟩, rfl⟩
    have hsame : (ofFields other).hashed = names.hashed := by
      rw [hashed_inj, fields_ofFields]
      exact hjoined
    have hnames := hall (ofFields other) _ _ _ _ hother (by rw [hsame])
    rw [← fields_ofFields other, hnames]
  · intro hseparated other _ _ _ otherIdentity hother hkey
    obtain ⟨⟨hsubject', -⟩, rfl⟩ := derived_ok.mp hother
    have hhashed := fingerprint_hex_injective hsha256 hkey
    exact fields_injective (hseparated.unique hsubject' (hashed_inj.mp hhashed))

end CertificateNames

/-- The ways to an mTLS identity. -/
inductive MtlsIdentity (sha256 : Sha256) (identity : RemoteIdentity) : Prop where
  | fromVerifiedMtlsSubject (subject issuer serialNumber : String)
      (notBefore notAfter now : OffsetDateTime)
      (h : RemoteIdentity.fromVerifiedMtlsSubject sha256 subject issuer serialNumber notBefore
        notAfter now = .ok identity)
  | identityFromMtlsDer (parseX509Certificate : List UInt8 → Except String X509Certificate)
      (certificateDer : List UInt8) (now : OffsetDateTime)
      (h : AuthContext.identityFromMtlsDer sha256 parseX509Certificate certificateDer now =
        .returned (.ok identity))

/-- The ways to a trusted-proxy identity. -/
inductive ProxyIdentity (identity : RemoteIdentity) : Prop where
  | fromTrustedProxySubject (subject : String) (now : OffsetDateTime)
      (h : RemoteIdentity.fromTrustedProxySubject subject now = .returned (.ok identity))
  | identityFromTrustedProxy (config : TrustedProxyConfig) (remoteAddr : IpAddr)
      (headers : HashMap String String) (now : OffsetDateTime)
      (h : AuthContext.identityFromTrustedProxy config remoteAddr headers now =
        .returned (.ok identity))

theorem MtlsIdentity.clientIdentity {sha256 : Sha256} {identity : RemoteIdentity}
    (h : MtlsIdentity sha256 identity) :
    ∃ digest, identity.clientIdentity = "mtls_cert_fingerprint:" ++ digest := by
  cases h with
  | fromVerifiedMtlsSubject subject issuer serialNumber notBefore notAfter now h =>
      have hderived : CertificateNames.derived sha256 ⟨subject, issuer, serialNumber⟩ notBefore
          notAfter now = .ok identity := h
      obtain ⟨-, rfl⟩ := CertificateNames.derived_ok.mp hderived
      exact ⟨_, rfl⟩
  | identityFromMtlsDer parseX509Certificate certificateDer now h =>
      unfold AuthContext.identityFromMtlsDer at h
      split at h
      · cases h
      split at h
      · cases h
      split at h
      · rw [Outcome.returned.injEq, RelayResult.bind_eq_ok] at h
        obtain ⟨derived, -, hidentity⟩ := h
        cases hidentity
        exact ⟨_, rfl⟩
      · cases h

theorem proxySubject_clientIdentity {subject : String} {now : OffsetDateTime}
    {identity : RemoteIdentity}
    (h : RemoteIdentity.fromTrustedProxySubject subject now = .returned (.ok identity)) :
    identity.clientIdentity = "trusted_proxy:" ++ subject := by
  unfold RemoteIdentity.fromTrustedProxySubject at h
  split at h
  · cases h
  split at h
  · cases h
  · cases h
    rfl

theorem ProxyIdentity.clientIdentity {identity : RemoteIdentity} (h : ProxyIdentity identity) :
    ∃ subject, identity.clientIdentity = "trusted_proxy:" ++ subject := by
  cases h with
  | fromTrustedProxySubject subject now h => exact ⟨subject, proxySubject_clientIdentity h⟩
  | identityFromTrustedProxy config remoteAddr headers now h =>
      unfold AuthContext.identityFromTrustedProxy at h
      split at h
      · cases h
      split at h
      · cases h
      dsimp only at h
      split at h
      · cases h
      · exact ⟨_, proxySubject_clientIdentity h⟩

/-- Two kinds of keys that start with different letters. -/
theorem mtls_ne_proxy {sha256 : Sha256} {mtls proxy : RemoteIdentity}
    (hmtls : MtlsIdentity sha256 mtls) (hproxy : ProxyIdentity proxy) :
    mtls.clientIdentity ≠ proxy.clientIdentity := by
  obtain ⟨digest, hdigest⟩ := hmtls.clientIdentity
  obtain ⟨subject, hsubject⟩ := hproxy.clientIdentity
  intro h
  rw [hdigest, hsubject] at h
  have hhead := congrArg (fun text => text.toList.head?) h
  simp at hhead

/-- Where SHA-256 does not collide, whole certificates and the two kinds of identities
never share a key, and the names of a certificate share theirs with no others exactly
when no NUL in them can be taken for the separator. -/
theorem client_keys_collision_free_iff (sha256 : Sha256) (hsha256 : Function.Injective sha256) :
    (∀ (names : CertificateNames) (notBefore notAfter now : OffsetDateTime)
        (identity : RemoteIdentity),
        names.derived sha256 notBefore notAfter now = .ok identity →
          ((∀ (other : CertificateNames) (notBefore' notAfter' now' : OffsetDateTime)
              (otherIdentity : RemoteIdentity),
              other.derived sha256 notBefore' notAfter' now' = .ok otherIdentity →
                otherIdentity.clientIdentity = identity.clientIdentity → other = names) ↔
            names.Separated)) ∧
      (∀ first second : List UInt8,
        fingerprintIdentity sha256 first = fingerprintIdentity sha256 second → first = second) ∧
      ∀ mtls proxy : RemoteIdentity, MtlsIdentity sha256 mtls → ProxyIdentity proxy →
        mtls.clientIdentity ≠ proxy.clientIdentity := by
  refine ⟨?_, ?_, ?_⟩
  · exact fun _ _ _ _ _ => CertificateNames.unique_iff hsha256
  · exact fun _ _ => fingerprint_hex_injective hsha256
  · exact fun _ _ => mtls_ne_proxy

def sampleNames : CertificateNames :=
  ⟨"CN=operator@example.test", "CN=operators-ca", "01"⟩

/-- The digest of the sample certificate, and a byte in front of any other text. -/
def sampleSha256 : Sha256 := fun bytes =>
  if bytes = sampleNames.hashed then
    [0xe1, 0x1e, 0x5c, 0x61, 0x7a, 0x2e, 0xbe, 0x4f, 0x20, 0x12, 0x0d, 0x68, 0xa0, 0x75, 0x47,
      0x76, 0x55, 0x04, 0x45, 0xe1, 0x59, 0x62, 0x92, 0xdd, 0xfa, 0x34, 0xe7, 0x5b, 0x41, 0x4a,
      0x6a, 0x8f]
  else 0 :: bytes

theorem sampleSha256_injective : Function.Injective sampleSha256 := by
  intro first second h
  unfold sampleSha256 at h
  split at h <;> split at h <;> simp_all

theorem sampleNames_derived :
    sampleNames.derived sampleSha256 .unixEpoch .unixEpoch .unixEpoch = .ok sampleIdentity := by
  have hsubject : CertificateNames.IsSubject sampleNames.subject.toList := by
    unfold CertificateNames.IsSubject
    decide +kernel
  refine CertificateNames.derived_ok.mpr ⟨⟨hsubject, by decide, by decide⟩, ?_⟩
  simp only [sampleIdentity, sampleNames, RemoteIdentity.mk.injEq, and_true]
  decide +kernel

theorem client_keys_collision_free_iff_sample :
    sampleNames.derived sampleSha256 .unixEpoch .unixEpoch .unixEpoch = .ok sampleIdentity ∧
      ¬∃ (other : CertificateNames) (notBefore notAfter now : OffsetDateTime)
        (otherIdentity : RemoteIdentity),
        other.derived sampleSha256 notBefore notAfter now = .ok otherIdentity ∧
          otherIdentity.clientIdentity = sampleIdentity.clientIdentity ∧ other ≠ sampleNames := by
  have hseparated : sampleNames.Separated :=
    CertificateNames.separated_of_notMem (by decide) (by decide) (by decide)
  refine ⟨sampleNames_derived, ?_⟩
  rintro ⟨other, notBefore, notAfter, now, otherIdentity, hother, hkey, hne⟩
  exact hne (((client_keys_collision_free_iff sampleSha256 sampleSha256_injective).1 sampleNames
    .unixEpoch .unixEpoch .unixEpoch sampleIdentity sampleNames_derived).mpr hseparated other
    notBefore notAfter now otherIdentity hother hkey)

/-- Two certificates whose names differ in where a NUL stands share a key, whatever the
hash. -/
theorem nul_shifts_boundary :
    ¬∀ sha256 : Sha256, Function.Injective sha256 →
      ∀ (names other : CertificateNames) (identity otherIdentity : RemoteIdentity),
        names.derived sha256 .unixEpoch .unixEpoch .unixEpoch = .ok identity →
          other.derived sha256 .unixEpoch .unixEpoch .unixEpoch = .ok otherIdentity →
            otherIdentity.clientIdentity = identity.clientIdentity → other = names := by
  intro h
  have hsubject : CertificateNames.IsSubject "CN=operator".toList := by
    unfold CertificateNames.IsSubject
    decide +kernel
  have hlonger : CertificateNames.IsSubject "CN=operator\x00OU=east".toList := by
    unfold CertificateNames.IsSubject
    decide +kernel
  have hsame := h id Function.injective_id ⟨"CN=operator", "OU=east\x00CN=ca", "01"⟩
    ⟨"CN=operator\x00OU=east", "CN=ca", "01"⟩ _ _
    (CertificateNames.derived_ok.mpr ⟨⟨hsubject, by decide, by decide⟩, rfl⟩)
    (CertificateNames.derived_ok.mpr ⟨⟨hlonger, by decide, by decide⟩, rfl⟩) (by decide +kernel)
  have hsubjects := congrArg CertificateNames.subject hsame
  revert hsubjects
  decide +kernel

end SupervisorRelay
