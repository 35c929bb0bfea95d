import ClusterHarness.Proofs.Http.Failover
import ClusterHarness.Proofs.Settings.Selection

/-!
The scheme of what a client asks for. The client of a secured cluster puts the secure scheme before every
address that has none; an address with a scheme of its own is taken at its word.
-/

namespace ClusterHarness

open Http

namespace ClientSettings

section Secured

variable {transport : Transport} {host : Text} (pathPrefix : Option Text)

theorem hostUrl_unschemed (hnone : ¬schemeMark <:+: host) :
    hostUrl transport host = transport.scheme ++ schemeMark ++ host :=
  if_neg (mt Text.contains_iff.mp hnone)

theorem baseUrl_unschemed (hnone : ¬schemeMark <:+: host) (hhost : ∃ c ∈ host, isSlash c = false) :
    baseUrl transport pathPrefix host =
      transport.scheme ++ schemeMark ++ host.trimEnd isSlash ++ pathPrefix.getD [] := by
  rw [baseUrl, hostUrl_unschemed hnone, Text.trimEnd_append hhost]

theorem scheme_secured (h : transport.isSecured = true) :
    transport.scheme ++ schemeMark = Text.ofString "https://" := by
  rw [Transport.scheme, if_pos h]
  rfl

theorem baseUrl_schemed (h : schemeMark <:+: host) :
    baseUrl transport pathPrefix host = host.trimEnd isSlash ++ pathPrefix.getD [] := by
  rw [baseUrl, hostUrl, if_pos (Text.contains_iff.mpr h)]

theorem secure_baseUrl (h : transport.isSecured = true) (hnone : ¬schemeMark <:+: host) :
    Text.ofString "https:" <+: baseUrl transport pathPrefix host := by
  by_cases hhost : ∃ c ∈ host, isSlash c = false
  · rw [baseUrl_unschemed pathPrefix hnone hhost, scheme_secured h, List.append_assoc]
    exact (List.prefix_append (Text.ofString "https:") (Text.ofString "//")).trans (List.prefix_append _ _)
  · have hall : ∀ c ∈ host, isSlash c = true := by simpa using hhost
    have htrim : (Text.ofString "https://").trimEnd isSlash = Text.ofString "https:" := by decide
    rw [baseUrl, hostUrl_unschemed hnone, scheme_secured h, Text.trimEnd_append_of_all hall, htrim]
    exact List.prefix_append _ _

end Secured

/-! ### The clear scheme -/

def clearStart : Text := "http://"

def colon : CodePoint := CodePoint.ofChar ':'

theorem length_of_clear_stem : ∀ n ≤ 7, colon ∈ clearStart.take n →
    Text.trimEnd isSlash (clearStart.take n) = clearStart.take n → n = 5 := by decide

theorem clear_of_stem {host : Text} (hmark : schemeMark <:+: host)
    (hstem : host.trimEnd isSlash <+: clearStart) : clearStart <+: host := by
  obtain ⟨rest, hhost, hslashes⟩ := Text.exists_trimEnd isSlash host
  have hstable := Text.trimEnd_trimEnd isSlash host
  rw [List.prefix_iff_eq_take] at hstem
  have hle : (host.trimEnd isSlash).length ≤ 7 := by
    have := congrArg List.length hstem
    rw [List.length_take] at this
    exact this.le.trans (Nat.min_le_right _ _)
  have hcolon : colon ∈ host.trimEnd isSlash := by
    have hmem : colon ∈ host := hmark.subset (by decide)
    rw [hhost, List.mem_append] at hmem
    exact hmem.resolve_right fun h => absurd (hslashes colon h) (by decide)
  have hfive : (host.trimEnd isSlash).length = 5 :=
    length_of_clear_stem _ hle (hstem ▸ hcolon) (by rw [← hstem, hstable])
  rw [hfive] at hstem
  rw [hstem] at hhost
  rw [hhost] at hmark ⊢
  -- a scheme of its own needs both slashes
  rcases rest with _ | ⟨a, _ | ⟨b, rest⟩⟩
  · exact absurd hmark (by decide)
  · have ha : a = slash := by simpa [isSlash] using hslashes a (by simp)
    rw [ha] at hmark
    exact absurd hmark (by decide)
  · have ha : a = slash := by simpa [isSlash] using hslashes a (by simp)
    have hb : b = slash := by simpa [isSlash] using hslashes b (by simp)
    rw [ha, hb]
    exact ⟨rest, rfl⟩

/-- What the scheme of a request to an address is: the secure one, or the address's own. An address of
slashes alone, which has no host, loses those of the scheme as well. -/
structure KeepsScheme (address url : Text) : Prop where
  secure : ¬schemeMark <:+: address → Text.ofString "https:" <+: url
  unschemed : ¬schemeMark <:+: address → (∃ c ∈ address, c ≠ slash) → Text.ofString "https://" <+: url
  schemed : schemeMark <:+: address → address.trimEnd isSlash <+: url
  clear : clearStart <+: url → clearStart <+: address

theorem url_keepsScheme {transport : Transport} (h : transport.isSecured = true) (pathPrefix : Option Text)
    (address path : Text) :
    KeepsScheme address (baseUrl transport pathPrefix address ++ slash :: path) where
  secure hnone := (secure_baseUrl pathPrefix h hnone).trans (List.prefix_append _ _)
  unschemed hnone hhost := by
    have hother : ∃ c ∈ address, isSlash c = false := by simpa [isSlash] using hhost
    rw [baseUrl_unschemed pathPrefix hnone hother, scheme_secured h, List.append_assoc, List.append_assoc]
    exact List.prefix_append _ _
  schemed hmark := by
    rw [baseUrl_schemed pathPrefix hmark, List.append_assoc]
    exact List.prefix_append _ _
  clear hclear := by
    by_cases hmark : schemeMark <:+: address
    · rw [baseUrl_schemed pathPrefix hmark, List.append_assoc] at hclear
      rcases List.prefix_or_prefix_of_prefix hclear (List.prefix_append _ _) with hfull | hstem
      · exact hfull.trans (Text.trimEnd_prefix _ _)
      · exact clear_of_stem hmark hstem
    · have hsecure := (secure_baseUrl pathPrefix h hmark).trans (List.prefix_append _ (slash :: path))
      have hboth := List.prefix_of_prefix_length_le hsecure hclear (by decide)
      exact absurd hboth (by decide)

end ClientSettings

namespace RuntimeFlags

variable {files : FileTree} {flags : RuntimeFlags} {admin : Bool}

theorem basicAuth_isSecured {t : Transport} (h : flags.basicAuth = .ok t) : t.isSecured = true := by
  obtain ⟨c, -, hrest⟩ := bind_eq_ok.mp h
  obtain ⟨username, -, hrest⟩ := bind_eq_ok.mp hrest
  cases hrest
  rfl

theorem transport_isSecured {t : Transport} (h : flags.https = true)
    (ht : flags.transport files admin = .ok t) : flags.NamesCluster ∧ t.isSecured = true := by
  have hnames : flags.NamesCluster := by
    by_contra hnot
    rw [transport_unnamed h hnot] at ht
    cases ht
  refine ⟨hnames, ?_⟩
  by_cases hpresent : admin = true ∧ TrustMaterial.Present files flags.resourcesDir
  · rw [transport_keystore h hnames hpresent.1 hpresent.2] at ht
    cases ht
    rfl
  by_cases hsearch : admin = true → TrustMaterial.Searchable files flags.resourcesDir
  · rw [transport_basicAuth h hnames hpresent hsearch] at ht
    exact basicAuth_isSecured ht
  · obtain ⟨hadmin, hnot⟩ := Classical.not_imp.mp hsearch
    obtain ⟨_, -, hlong⟩ := transport_unsearchable h hnames hadmin hnot
    rw [hlong] at ht
    cases ht

theorem clientSettings_secured {s : ClientSettings} (h : flags.https = true)
    (hs : flags.clientSettings files admin = .ok s) :
    s.transport.isSecured = true ∧ s.hosts = flags.hosts ∧ flags.hosts ≠ [] := by
  obtain ⟨t, ht, hfollows⟩ := clientSettings_eq_ok hs
  obtain ⟨hnames, hsecured⟩ := transport_isSecured h ht
  have hhosts : flags.hosts ≠ [] := hosts_ne_nil.mpr hnames
  refine ⟨hfollows.transport ▸ hsecured, hfollows.hosts.trans ?_, hhosts⟩
  rw [clientHosts, if_neg (mt List.isEmpty_iff.mp hhosts)]

end RuntimeFlags

variable {σ : Type}

theorem Failover.urls {c : Client σ} {s t : Session σ} {e : Exchange} (h : Failover c s e t)
    {call : Call} (hcall : call ∈ callsOf t.trace) : call ∈ callsOf s.trace ∨
      ∃ base ∈ c.baseUrls, ∃ path, call.url = base ++ ClientSettings.slash :: path := by
  rw [h.sent, List.mem_append] at hcall
  refine hcall.imp_right fun hsent => ?_
  obtain ⟨a, ha, rfl⟩ := List.mem_map.mp hsent
  obtain ⟨method, path, base, -, hbase, hcall⟩ := h.calls a ha
  exact ⟨base, List.mem_of_getElem? hbase, path, by rw [hcall]; rfl⟩

theorem Conversation.urls {c : Client σ} {s t : Session σ} {es : List Exchange}
    (h : Conversation c s es t) {call : Call} (hcall : call ∈ callsOf t.trace) :
    call ∈ callsOf s.trace ∨ ∃ base ∈ c.baseUrls, ∃ path, call.url = base ++ ClientSettings.slash :: path := by
  induction h with
  | done => exact .inl hcall
  | next he _ ih =>
    rcases ih hcall with hearlier | hlater
    · exact he.urls hearlier
    · exact .inr hlater

open ClientSettings in
/-- Every call of a client of a secured cluster goes to one of its addresses, by the scheme that the address has
or else encrypted. -/
theorem secured_client_keeps_scheme {files : FileTree} {flags : RuntimeFlags} {admin : Bool}
    {settings : ClientSettings} (h : flags.https = true)
    (hsettings : flags.clientSettings files admin = .ok settings) (wire : Call → σ → Outcome × σ) (far : σ)
    (qs : List Inquiry) :
    ∀ call ∈ callsOf (Inquiry.askAll ⟨settings, wire⟩ qs ⟨0, far, []⟩).2.trace,
      ∃ address ∈ flags.hosts, KeepsScheme address call.url := by
  obtain ⟨hsecured, hhosts, hne⟩ := RuntimeFlags.clientSettings_secured h hsettings
  have hbases : 0 < (Client.baseUrls ⟨settings, wire⟩).length := by
    rw [Client.baseUrls, ClientSettings.baseUrls, List.length_map, hhosts]
    exact List.length_pos_of_ne_nil hne
  obtain ⟨es, -, -, hrun⟩ := askAll_conversation ⟨settings, wire⟩ qs ⟨0, far, []⟩ hbases
  intro call hcall
  rcases hrun.urls hcall with hbefore | ⟨base, hbase, path, hurl⟩
  · cases hbefore
  · obtain ⟨address, haddress, rfl⟩ := List.mem_map.mp hbase
    rw [hurl]
    exact ⟨address, hhosts ▸ haddress, url_keepsScheme hsecured settings.pathPrefix address path⟩

/-- The flags of a secured cluster with an address without a scheme, one with the clear one, and one that
has no host. -/
def mixedFlags : RuntimeFlags :=
  { RuntimeFlags.ofEnvironment (RuntimeFlags.securedEnvironment "res") with
    cluster := some "node-1:9200, http://node-2:9200/, //" }

def mixedSettings : ClientSettings :=
  ⟨["node-1:9200", "http://node-2:9200/", "//"], .basicAuth ⟨"admin", ⟨"secret"⟩⟩, true,
    some (.ofRatio false 120 1), none, 10, 30, []⟩

theorem mixedFlags_https : mixedFlags.https = true := by decide +kernel

theorem mixedFlags_settings : mixedFlags.clientSettings RuntimeFlags.emptyTree false = .ok mixedSettings := by
  decide +kernel

open ClientSettings in
theorem secured_client_keeps_scheme_of_mixed :
    mixedFlags.https = true ∧ mixedFlags.clientSettings RuntimeFlags.emptyTree false = .ok mixedSettings ∧
      ∀ call ∈ callsOf (Inquiry.askAll ⟨mixedSettings, scripted⟩ [ping, ping] ⟨0, stumbling, []⟩).2.trace,
        ∃ address ∈ mixedFlags.hosts, KeepsScheme address call.url :=
  ⟨mixedFlags_https, mixedFlags_settings,
    secured_client_keeps_scheme mixedFlags_https mixedFlags_settings scripted stumbling [ping, ping]⟩

/-- A client with credentials, whose hosts cannot be reached one after another. The second one is asked in
the clear, as its address says, and the third one at what is no address at all. -/
theorem clear_address_is_kept :
    mixedFlags.https = true ∧ mixedFlags.clientSettings RuntimeFlags.emptyTree false = .ok mixedSettings ∧
      (callsOf (Inquiry.askAll ⟨mixedSettings, scripted⟩ [ping]
        ⟨0, [.fault .ssl "no handshake", .fault .connection "refused"], []⟩).2.trace).map Call.url =
          [Text.ofString "https://node-1:9200/_cluster/health",
            Text.ofString "http://node-2:9200/_cluster/health", Text.ofString "https:/_cluster/health"] ∧
      ¬Text.ofString "https://" <+: Text.ofString "http://node-2:9200/_cluster/health" ∧
      ¬Text.ofString "https://" <+: Text.ofString "https:/_cluster/health" :=
  ⟨mixedFlags_https, mixedFlags_settings, by decide +kernel, by decide +kernel, by decide +kernel⟩

end ClusterHarness
