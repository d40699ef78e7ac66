import SupervisorRelay.Source.Auth

/-! Which inputs decide a trusted-proxy identity. Headers live in a hash map, so the
first header under the configured name is whichever the map yields first. -/
namespace SupervisorRelay

/-- The header name is the configured one up to letter case. -/
def TrustedProxyConfig.Names (config : TrustedProxyConfig) (key : String) : Prop :=
  key.toAsciiLowercase = config.identityHeader.toAsciiLowercase

instance (config : TrustedProxyConfig) (key : String) : Decidable (config.Names key) :=
  inferInstanceAs (Decidable (key.toAsciiLowercase = config.identityHeader.toAsciiLowercase))

namespace AuthContext

variable {config : TrustedProxyConfig} {remoteAddr : IpAddr} {headers : HashMap String String}
variable {now : OffsetDateTime}

/-- The identity does not depend on the order of the headers nor on headers under
other names, and an admitted proxy needs one non-blank header for it. -/
structure TrustsInputsOnly (config : TrustedProxyConfig) (remoteAddr : IpAddr)
    (headers : HashMap String String) (now : OffsetDateTime) : Prop where
  sameResult : ∀ other : HashMap String String,
    (∀ key, config.Names key → other.lookup key = headers.lookup key) →
      identityFromTrustedProxy config remoteAddr other now =
        identityFromTrustedProxy config remoteAddr headers now
  isOk : (∃ identity,
      identityFromTrustedProxy config remoteAddr headers now = .returned (.ok identity)) ↔
    config.enabled = true ∧
      (∃ addr ∈ config.allowedRemoteAddrs, IpAddr.parse addr = some remoteAddr) ∧
        ∃ key value, config.Names key ∧ headers.lookup key = some value ∧ value.isBlank = false
  principal : ∀ identity,
    identityFromTrustedProxy config remoteAddr headers now = .returned (.ok identity) →
      ∃ key value, config.Names key ∧ headers.lookup key = some value ∧
        identity.principal = value.trimmed

/-- Headers under the configured name agree up to the white space around them, and
where there is an identity its last day can be written down. -/
structure OneIdentity (config : TrustedProxyConfig) (headers : HashMap String String)
    (now : OffsetDateTime) : Prop where
  agree : ∀ first second value other, config.Names first → config.Names second →
    headers.lookup first = some value → headers.lookup second = some other →
      value.trimmed = other.trimmed
  inRange : ∀ key value, config.Names key → headers.lookup key = some value →
    value.isBlank = false → (now.checkedAdd (Duration.days 1)).isSome = true

theorem fromTrustedProxySubject_ok {subject : String} {identity : RemoteIdentity}
    (h : RemoteIdentity.fromTrustedProxySubject subject now = .returned (.ok identity)) :
    subject.isBlank = false ∧ (now.checkedAdd (Duration.days 1)).isSome = true ∧
      identity.principal = subject := by
  unfold RemoteIdentity.fromTrustedProxySubject at h
  split at h
  · cases h
  · rename_i hsubject
    split at h
    · cases h
    · rename_i notAfter hnotAfter
      cases h
      exact ⟨by simpa using hsubject, by simp [hnotAfter], rfl⟩

theorem fromTrustedProxySubject_isOk {subject : String} (hsubject : subject.isBlank = false)
    (hrange : (now.checkedAdd (Duration.days 1)).isSome = true) :
    ∃ identity,
      RemoteIdentity.fromTrustedProxySubject subject now = .returned (.ok identity) := by
  obtain ⟨notAfter, hnotAfter⟩ := Option.isSome_iff_exists.mp hrange
  simp [RemoteIdentity.fromTrustedProxySubject, hsubject, hnotAfter]

theorem identityFromTrustedProxy_refused (now : OffsetDateTime)
    (hrefused : ¬config.isAllowedRemoteAddr remoteAddr = true) :
    ∃ error, ∀ headers,
      identityFromTrustedProxy config remoteAddr headers now = .returned (.error error) := by
  unfold identityFromTrustedProxy
  by_cases henabled : config.enabled = true
  · simp [henabled, hrefused]
  · simp [henabled]

/-- An admitted proxy is heard through some header under the configured name, or
through none because there is none. -/
theorem identityFromTrustedProxy_admitted
    (hallowed : config.isAllowedRemoteAddr remoteAddr = true) (headers : HashMap String String)
    (now : OffsetDateTime) :
    ((∀ key, config.Names key → headers.lookup key = none) ∧
        identityFromTrustedProxy config remoteAddr headers now =
          .returned (.error (.new "missing_proxy_identity" "auth" none
            "trusted proxy identity header is missing" false))) ∨
      ∃ key value, config.Names key ∧ headers.lookup key = some value ∧
        identityFromTrustedProxy config remoteAddr headers now =
          RemoteIdentity.fromTrustedProxySubject value.trimmed now := by
  have henabled := (TrustedProxyConfig.isAllowedRemoteAddr_iff.mp hallowed).1
  unfold identityFromTrustedProxy
  simp only [henabled, hallowed, Bool.not_true, Bool.false_eq_true, if_false]
  cases hfind : headers.entries.find? fun entry =>
      entry.1.toAsciiLowercase == config.identityHeader.toAsciiLowercase with
  | none =>
      refine .inl ⟨fun key hkey => ?_, rfl⟩
      cases hlookup : headers.lookup key with
      | none => rfl
      | some value =>
          have hmem := AList.mem_lookup_iff.mp hlookup
          have hother := List.find?_eq_none.mp hfind _ hmem
          exact absurd (beq_iff_eq.mpr hkey) hother
  | some entry =>
      have hmem := List.mem_of_find?_eq_some hfind
      have hkey := List.find?_some hfind
      exact .inr ⟨entry.1, entry.2, beq_iff_eq.mp hkey, AList.mem_lookup_iff.mpr hmem, rfl⟩

/-- Any header under the configured name may be the first one. -/
theorem identityFromTrustedProxy_insert
    (hallowed : config.isAllowedRemoteAddr remoteAddr = true) {key : String}
    (hkey : config.Names key) (value : String) :
    identityFromTrustedProxy config remoteAddr (headers.insert key value) now =
      RemoteIdentity.fromTrustedProxySubject value.trimmed now := by
  have henabled := (TrustedProxyConfig.isAllowedRemoteAddr_iff.mp hallowed).1
  unfold identityFromTrustedProxy
  simp only [henabled, hallowed, Bool.not_true, Bool.false_eq_true, if_false,
    AList.entries_insert]
  rw [List.find?_cons_of_pos]
  exact beq_iff_eq.mpr hkey

/-- The same headers, with one of them in front. -/
theorem lookup_insert_same {key value : String} (h : headers.lookup key = some value)
    (other : String) : (headers.insert key value).lookup other = headers.lookup other := by
  rw [HashMap.lookup_insert]
  split
  · rename_i hsame
    rw [hsame, h]
  · rfl

theorem oneIdentity_of_trustsInputsOnly
    (hallowed : config.isAllowedRemoteAddr remoteAddr = true)
    (h : TrustsInputsOnly config remoteAddr headers now) : OneIdentity config headers now := by
  obtain ⟨henabled, haddr⟩ := TrustedProxyConfig.isAllowedRemoteAddr_iff.mp hallowed
  -- whichever header is in front, the result is the one with `headers` as they are
  have hfront (key value : String) (hkey : config.Names key)
      (hlookup : headers.lookup key = some value) :
      RemoteIdentity.fromTrustedProxySubject value.trimmed now =
        identityFromTrustedProxy config remoteAddr headers now := by
    rw [← identityFromTrustedProxy_insert hallowed hkey value]
    exact h.sameResult _ fun other _ => lookup_insert_same hlookup other
  have hidentity (key value : String) (hkey : config.Names key)
      (hlookup : headers.lookup key = some value) (hvalue : value.isBlank = false) :
      ∃ identity,
        identityFromTrustedProxy config remoteAddr headers now = .returned (.ok identity) :=
    h.isOk.mpr ⟨henabled, haddr, key, value, hkey, hlookup, hvalue⟩
  -- two headers, one of them not blank, lead to one and the same principal
  have hprincipal (first second value other : String) (hfirst : config.Names first)
      (hsecond : config.Names second) (hvalue : headers.lookup first = some value)
      (hother : headers.lookup second = some other) (hfilled : value.isBlank = false) :
      value.trimmed = other.trimmed := by
    obtain ⟨identity, hok⟩ := hidentity first value hfirst hvalue hfilled
    have hleft := (fromTrustedProxySubject_ok ((hfront first value hfirst hvalue).trans hok)).2.2
    have hright := (fromTrustedProxySubject_ok ((hfront second other hsecond hother).trans hok)).2.2
    exact hleft.symm.trans hright
  constructor
  · intro first second value other hfirst hsecond hvalue hother
    cases hfilled : value.isBlank with
    | false => exact hprincipal first second value other hfirst hsecond hvalue hother hfilled
    | true =>
        cases hfilled' : other.isBlank with
        | false =>
            exact (hprincipal second first other value hsecond hfirst hother hvalue hfilled').symm
        | true =>
            have hempty : value.trimmed = "" := by simpa [String.isBlank] using hfilled
            have hempty' : other.trimmed = "" := by simpa [String.isBlank] using hfilled'
            rw [hempty, hempty']
  · intro key value hkey hlookup hfilled
    obtain ⟨identity, hok⟩ := hidentity key value hkey hlookup hfilled
    exact (fromTrustedProxySubject_ok ((hfront key value hkey hlookup).trans hok)).2.1

theorem trustsInputsOnly_refused (hrefused : ¬config.isAllowedRemoteAddr remoteAddr = true) :
    TrustsInputsOnly config remoteAddr headers now := by
  obtain ⟨error, hresult⟩ := identityFromTrustedProxy_refused now hrefused
  constructor
  · intro other _
    rw [hresult, hresult]
  · rw [hresult]
    refine iff_of_false (by simp) ?_
    rintro ⟨henabled, haddr, -⟩
    exact hrefused (TrustedProxyConfig.isAllowedRemoteAddr_iff.mpr ⟨henabled, haddr⟩)
  · intro identity hok
    rw [hresult] at hok
    cases hok

theorem trustsInputsOnly_admitted (hallowed : config.isAllowedRemoteAddr remoteAddr = true)
    (h : OneIdentity config headers now) : TrustsInputsOnly config remoteAddr headers now := by
  obtain ⟨henabled, haddr⟩ := TrustedProxyConfig.isAllowedRemoteAddr_iff.mp hallowed
  have hadmitted := identityFromTrustedProxy_admitted hallowed headers now
  constructor
  · intro other hsame
    rcases identityFromTrustedProxy_admitted hallowed other now with ⟨hnone, hmissing⟩ |
      ⟨key, value, hkey, hlookup, hresult⟩
    · rcases hadmitted with ⟨-, hmissing'⟩ | ⟨key, value, hkey, hlookup, -⟩
      · rw [hmissing, hmissing']
      · rw [← hsame key hkey, hnone key hkey] at hlookup
        cases hlookup
    · rw [hsame key hkey] at hlookup
      rcases hadmitted with ⟨hnone, -⟩ | ⟨key', value', hkey', hlookup', hresult'⟩
      · rw [hnone key hkey] at hlookup
        cases hlookup
      · rw [hresult, hresult', h.agree key key' value value' hkey hkey' hlookup hlookup']
  · constructor
    · rintro ⟨identity, hok⟩
      rcases hadmitted with ⟨-, hmissing⟩ | ⟨key, value, hkey, hlookup, hresult⟩
      · rw [hmissing] at hok
        cases hok
      · have hfilled := (fromTrustedProxySubject_ok (hresult.symm.trans hok)).1
        rw [String.isBlank_trimmed] at hfilled
        exact ⟨henabled, haddr, key, value, hkey, hlookup, hfilled⟩
    · rintro ⟨-, -, key, value, hkey, hlookup, hfilled⟩
      rcases hadmitted with ⟨hnone, -⟩ | ⟨key', value', hkey', hlookup', hresult⟩
      · rw [hnone key hkey] at hlookup
        cases hlookup
      · rw [hresult, ← h.agree key key' value value' hkey hkey' hlookup hlookup']
        exact fromTrustedProxySubject_isOk ((String.isBlank_trimmed value).trans hfilled)
          (h.inRange key value hkey hlookup hfilled)
  · intro identity hok
    rcases hadmitted with ⟨-, hmissing⟩ | ⟨key, value, hkey, hlookup, hresult⟩
    · rw [hmissing] at hok
      cases hok
    · have hprincipal := (fromTrustedProxySubject_ok (hresult.symm.trans hok)).2.2
      exact ⟨key, value, hkey, hlookup, hprincipal⟩

/-- Trusted inputs alone decide the identity exactly when an admitted proxy sends one
identity, whatever the letter case of the headers it sends it in. -/
theorem identity_from_trusted_inputs_iff (config : TrustedProxyConfig) (remoteAddr : IpAddr)
    (headers : HashMap String String) (now : OffsetDateTime) :
    TrustsInputsOnly config remoteAddr headers now ↔
      (config.isAllowedRemoteAddr remoteAddr = true → OneIdentity config headers now) := by
  constructor
  · intro h hallowed
    exact oneIdentity_of_trustsInputsOnly hallowed h
  · intro h
    by_cases hallowed : config.isAllowedRemoteAddr remoteAddr = true
    · exact trustsInputsOnly_admitted hallowed (h hallowed)
    · exact trustsInputsOnly_refused hallowed

def sampleProxyConfig : TrustedProxyConfig where
  enabled := true
  allowedRemoteAddrs := ["127.0.0.1"]
  identityHeader := "x-verified-client-subject"

/-- One name in two spellings, with two identities. -/
def spelledTwice : HashMap String String :=
  ((∅ : HashMap String String).insert "X-Verified-Client-Subject"
    "CN=guest@example.test").insert "x-verified-client-subject" "CN=operator@example.test"

theorem spelling_chooses_identity :
    ¬TrustsInputsOnly sampleProxyConfig (.v4 127 0 0 1) spelledTwice .unixEpoch := by
  intro h
  have hone := oneIdentity_of_trustsInputsOnly (by decide +kernel) h
  have hagree := hone.agree "X-Verified-Client-Subject" "x-verified-client-subject"
    "CN=guest@example.test" "CN=operator@example.test" (by decide +kernel) (by decide +kernel)
    (by decide +kernel) (by decide +kernel)
  revert hagree
  decide +kernel

end AuthContext
end SupervisorRelay
