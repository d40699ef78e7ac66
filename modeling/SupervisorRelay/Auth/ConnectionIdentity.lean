import SupervisorRelay.Auth.TrustedProxy
import SupervisorRelay.Source.Connection

/-! Who is behind a connection. The captured headers are a map with lower-case names, so
of all that a request carries one value decides, and the order of the map does not. -/
namespace SupervisorRelay

/-- The value that counts under a name: the last one that is text. -/
def lastReadable (headers : List RequestHeader) (name : String) : Option String :=
  (headers.filterMap fun header => if header.name = name then header.value else none).getLast?

theorem lastReadable_concat (headers : List RequestHeader) (header : RequestHeader)
    (name : String) :
    lastReadable (headers ++ [header]) name =
      if header.name = name ∧ header.value.isSome = true then header.value
      else lastReadable headers name := by
  unfold lastReadable
  rw [List.filterMap_append, List.getLast?_append]
  by_cases hname : header.name = name
  · cases hvalue : header.value with
    | none => simp [hname, hvalue]
    | some value => simp [hname, hvalue]
  · simp [hname]

theorem captureHeaders_concat (headers : List RequestHeader) (header : RequestHeader) :
    captureHeaders (headers ++ [header]) =
      match header.value with
      | some value => (captureHeaders headers).insert header.name value
      | none => captureHeaders headers := by
  unfold captureHeaders
  rw [List.foldl_append]
  rfl

theorem captureHeaders_lookup (headers : List RequestHeader) (name : String) :
    (captureHeaders headers).lookup name = lastReadable headers name := by
  induction headers using List.reverseRecOn with
  | nil => rfl
  | append_singleton headers header ih =>
      rw [captureHeaders_concat, lastReadable_concat]
      cases header.value with
      | none => simp [ih]
      | some value =>
          dsimp only
          rw [HashMap.lookup_insert]
          by_cases hname : name = header.name
          · simp [hname]
          · simp [hname, Ne.symm hname, ih]

theorem captureHeaders_lowercase (headers : List RequestHeader) :
    ∀ key ∈ captureHeaders headers, key.toAsciiLowercase = key := by
  induction headers using List.reverseRecOn with
  | nil =>
      intro key hmem
      cases hmem
  | append_singleton headers header ih =>
      rw [captureHeaders_concat]
      cases header.value with
      | none => exact ih
      | some value =>
          intro key hmem
          obtain ⟨found, hfound⟩ := HashMap.mem_iff_lookup.mp hmem
          dsimp only at hfound
          rw [HashMap.lookup_insert] at hfound
          split at hfound
          · rename_i heq
            rw [heq]
            exact header.lowercase
          · exact ih key (HashMap.mem_of_lookup hfound)

/-- Among lower-case names the first match is the only one. -/
theorem identityFromTrustedProxy_lowercase (config : TrustedProxyConfig) (remoteAddr : IpAddr)
    {headers : HashMap String String} (now : OffsetDateTime)
    (hlower : ∀ key ∈ headers, key.toAsciiLowercase = key)
    (hallowed : config.isAllowedRemoteAddr remoteAddr = true) :
    AuthContext.identityFromTrustedProxy config remoteAddr headers now =
      match headers.lookup config.identityHeader.toAsciiLowercase with
      | none => .returned (.error (.new "missing_proxy_identity" "auth" none
          "trusted proxy identity header is missing" false))
      | some value => RemoteIdentity.fromTrustedProxySubject value.trimmed now := by
  have hnames (key value : String) (hlookup : headers.lookup key = some value) :
      config.Names key ↔ key = config.identityHeader.toAsciiLowercase := by
    rw [TrustedProxyConfig.Names, hlower key (HashMap.mem_of_lookup hlookup)]
  rcases AuthContext.identityFromTrustedProxy_admitted hallowed headers now with
    ⟨hnone, hmissing⟩ | ⟨key, value, hkey, hlookup, hresult⟩
  · cases hlookup : headers.lookup config.identityHeader.toAsciiLowercase with
    | none => exact hmissing
    | some value =>
        have hfound := hnone _ ((hnames _ value hlookup).mpr rfl)
        cases hlookup.symm.trans hfound
  · rw [hresult, ← (hnames key value hlookup).mp hkey, hlookup]

/-- A connection is admitted for what its transport shows: behind a proxy, an allowed
address and the last readable value under the configured header; otherwise the first
certificate of the peer. Nothing else that it sends has a say. -/
theorem wss_identity_iff (authority : WssAuthority) (connection : WssConnection)
    (identity : RemoteIdentity) :
    wssIdentity authority connection = .returned (.ok identity) ↔
      ∃ certificates headers, connection.peerCertificates = .ok certificates ∧
        connection.requestHeaders = .ok headers ∧
        if authority.trustedProxy.enabled = true then
          (∃ addr ∈ authority.trustedProxy.allowedRemoteAddrs,
              IpAddr.parse addr = some connection.remoteAddr) ∧
            ∃ value, lastReadable headers
                authority.trustedProxy.identityHeader.toAsciiLowercase = some value ∧
              RemoteIdentity.fromTrustedProxySubject value.trimmed connection.now =
                .returned (.ok identity)
        else
          ∃ certificate rest, certificates = some (certificate :: rest) ∧
            AuthContext.identityFromMtlsDer authority.sha256 authority.parseX509Certificate
              certificate connection.now = .returned (.ok identity) := by
  unfold wssIdentity
  cases connection.peerCertificates with
  | error diagnostic => simp
  | ok certificates =>
      cases connection.requestHeaders with
      | error diagnostic => simp
      | ok headers =>
          simp only [Except.ok.injEq, exists_and_left, exists_eq_left']
          split
          · rename_i henabled
            by_cases hallowed : authority.trustedProxy.isAllowedRemoteAddr
                connection.remoteAddr = true
            · obtain ⟨-, haddr⟩ := TrustedProxyConfig.isAllowedRemoteAddr_iff.mp hallowed
              rw [identityFromTrustedProxy_lowercase _ _ _ (captureHeaders_lowercase headers)
                hallowed, captureHeaders_lookup]
              cases lastReadable headers authority.trustedProxy.identityHeader.toAsciiLowercase with
              | none => simp
              | some value => simp [haddr]
            · obtain ⟨error, hrefused⟩ :=
                AuthContext.identityFromTrustedProxy_refused connection.now hallowed
              rw [TrustedProxyConfig.isAllowedRemoteAddr_iff] at hallowed
              rw [hrefused]
              refine iff_of_false (by simp) fun h => hallowed ⟨henabled, h.1⟩
          · cases certificates with
            | none => simp
            | some certificates =>
                cases certificates with
                | nil => simp
                | cons certificate rest => simp

end SupervisorRelay
