import ClusterHarness.Proofs.Settings.Scheme
import ClusterHarness.Proofs.Text.Pieces

/-!
From the environment to the URLs that are asked for. However the addresses of a cluster are listed and its path
prefix is padded with slashes, each address is asked once by its own base URL, and a single slash parts that from
the endpoint.
-/

namespace ClusterHarness

open Http

/-! ### Lists of addresses -/

def comma : CodePoint := CodePoint.ofChar ','

theorem comma_not_blank : comma.isBlank = false := by decide

theorem comma_not_mem_blank {t : Text} (h : t.isBlank = true) : comma ∉ t := fun hmem =>
  absurd ((List.all_eq_true.mp h comma hmem).symm.trans comma_not_blank) (by decide)

/-- An address of a host, without a scheme. -/
structure IsAddress (a : Text) : Prop where
  notBlank : a.isBlank = false
  trimmed : a.trim = a
  single : comma ∉ a
  unschemed : ¬ClientSettings.schemeMark <:+: a
  host : ∃ c ∈ a, c ≠ ClientSettings.slash

/-- Entries between commas: blank ones, and addresses with white space around them. -/
inductive Lists : List Text → List Text → Prop
  | nil : Lists [] []
  | blank {entry : Text} {entries addresses : List Text} (h : entry.isBlank = true) (rest : Lists entries addresses) :
      Lists (entry :: entries) addresses
  | address {lead address trail : Text} {entries addresses : List Text} (hlead : lead.isBlank = true)
      (h : IsAddress address) (htrail : trail.isBlank = true) (rest : Lists entries addresses) :
      Lists ((lead ++ address ++ trail) :: entries) (address :: addresses)

namespace Lists

variable {entries addresses : List Text}

theorem isAddress (h : Lists entries addresses) : ∀ a ∈ addresses, IsAddress a := by
  induction h with
  | nil => exact nofun
  | blank _ _ ih => exact ih
  | address _ h _ _ ih => exact List.forall_mem_cons.mpr ⟨h, ih⟩

theorem single (h : Lists entries addresses) : ∀ entry ∈ entries, comma ∉ entry := by
  induction h with
  | nil => exact nofun
  | blank h _ ih => exact List.forall_mem_cons.mpr ⟨comma_not_mem_blank h, ih⟩
  | address hlead h htrail _ ih =>
    refine List.forall_mem_cons.mpr ⟨?_, ih⟩
    simp only [List.mem_append, not_or]
    exact ⟨⟨comma_not_mem_blank hlead, h.single⟩, comma_not_mem_blank htrail⟩

/-- What is kept of the entries are the addresses, in their order. -/
theorem kept (h : Lists entries addresses) : (entries.filter (!·.isBlank)).map Text.trim = addresses := by
  induction h with
  | nil => rfl
  | @blank entry entries addresses h _ ih =>
    rw [List.filter_cons_of_neg (by simp [h])]
    exact ih
  | @address lead address trail entries addresses hlead h htrail _ ih =>
    have hblank : (lead ++ address ++ trail).isBlank = false := by
      rw [Text.isBlank, List.all_append, List.all_append, Bool.and_eq_false_iff, Bool.and_eq_false_iff]
      exact .inl (.inr h.notBlank)
    have htrim : (lead ++ address ++ trail).trim = address := by
      rw [Text.trim, Text.trimBy_append_of_all (List.all_eq_true.mp htrail),
        Text.trimBy_append (List.all_eq_true.mp hlead)]
      exact h.trimmed
    rw [List.filter_cons_of_pos (by rw [hblank]; rfl), List.map_cons, htrim, ih]

end Lists

/-! ### Path prefixes -/

/-- The part of a base URL that a path prefix gives: none if there are only blanks or only slashes, and otherwise
one slash before what stands between the slashes at its ends. -/
inductive Leads : Option Text → Text → Prop
  | unset : Leads none []
  | blank {t : Text} (h : t.isBlank = true) : Leads (some t) []
  | slashes (count : ℕ) : Leads (some (List.replicate count ClientSettings.slash)) []
  | core (before after : ℕ) {core : Text} (notBlank : core.isBlank = false)
      (head : core.head? ≠ some ClientSettings.slash) (last : core.getLast? ≠ some ClientSettings.slash) :
      Leads (some (List.replicate before ClientSettings.slash ++ core ++ List.replicate after ClientSettings.slash))
        (ClientSettings.slash :: core)

namespace Leads

open ClientSettings

variable {given : Option Text} {part : Text}

theorem isSlash_replicate (count : ℕ) : ∀ c ∈ List.replicate count slash, isSlash c = true := fun _ hc =>
  decide_eq_true (List.eq_of_mem_replicate hc)

theorem normalPrefix_slashes {t : Text} (h : ∀ c ∈ t, isSlash c = true) : normalPrefix (some t) = none := by
  have hnil : t.trimBy isSlash = [] := Text.trimBy_eq_nil.mpr (List.all_eq_true.mpr h)
  rw [normalPrefix, Option.bind_some, hnil]
  rfl

theorem normal (h : Leads given part) : (normalPrefix (RuntimeFlags.setText given)).getD [] = part := by
  cases h with
  | unset => rfl
  | @blank t h =>
    have hset : RuntimeFlags.setText (some t) = none := by simp [RuntimeFlags.setText, h]
    rw [hset]
    rfl
  | slashes count =>
    have hnone : normalPrefix (RuntimeFlags.setText (some (List.replicate count slash))) = none := by
      rw [RuntimeFlags.setText, Option.filter_some]
      split
      · exact normalPrefix_slashes (isSlash_replicate count)
      · rfl
    rw [hnone]
    rfl
  | @core before after core notBlank head last =>
    have hset : RuntimeFlags.setText (some (List.replicate before slash ++ core ++ List.replicate after slash)) =
        some (List.replicate before slash ++ core ++ List.replicate after slash) := by
      rw [RuntimeFlags.setText, Option.filter_some, if_pos]
      simp [Text.isBlank, List.all_append, show core.all CodePoint.isBlank = false from notBlank]
    have hcore : Text.trimBy isSlash (List.replicate before slash ++ core ++ List.replicate after slash) = core := by
      rw [Text.trimBy_append_of_all (isSlash_replicate after), Text.trimBy_append (isSlash_replicate before)]
      refine Text.trimBy_eq_self (fun c hc => ?_) fun c hc => ?_
      · exact decide_eq_false fun hslash => head (hslash ▸ hc)
      · exact decide_eq_false fun hslash => last (hslash ▸ hc)
    rw [hset, normalPrefix, Option.bind_some, hcore]
    cases core with
    | nil => cases notBlank
    | cons => rfl

theorem last (h : Leads given part) : part.getLast? ≠ some slash := by
  cases h with
  | @core _ _ t notBlank _ last =>
    cases t with
    | nil => cases notBlank
    | cons c t => rwa [List.getLast?_cons_cons]
  | _ => exact nofun

end Leads

/-! ### Environments -/

/-- An environment that lists addresses and gives a path prefix. -/
structure Spells (env : Fields Text) (addresses : List Text) (part : Text) : Prop where
  some : addresses ≠ []
  cluster : ∃ entries, Lists entries addresses ∧ env.get? RuntimeFlags.clusterVariable = .some (Text.join "," entries)
  path : Leads (env.get? RuntimeFlags.pathPrefixVariable) part

namespace RuntimeFlags

variable {env : Fields Text} {addresses : List Text} {part : Text} {files : FileTree} {admin : Bool}

theorem splitOn_entries {entries : List Text} (h : Lists entries addresses) (hne : addresses ≠ []) :
    (Text.join "," entries).splitOn "," = entries := by
  have hentries : entries ≠ [] := fun hnil => by
    subst hnil
    cases h
    exact hne rfl
  exact Text.splitOn_join hentries h.single

theorem hosts_spelled (h : Spells env addresses part) : (ofEnvironment env).hosts = addresses := by
  obtain ⟨entries, hlists, hget⟩ := h.cluster
  have hsplit := splitOn_entries hlists h.some
  -- a blank text has no comma, so it would be the only entry
  have hblank : (Text.join "," entries).isBlank = false := by
    rw [Bool.eq_false_iff]
    intro hblank
    have hunmarked : ¬Text.ofString "," <:+: Text.join "," entries := fun hmark =>
      comma_not_mem_blank hblank (hmark.subset (by decide))
    rw [Text.splitOn, Text.splitFrom_unmarked hunmarked] at hsplit
    have hkept := hlists.kept
    rw [← hsplit, List.filter_cons_of_neg (by rw [hblank]; decide)] at hkept
    exact h.some hkept.symm
  have hcluster : (ofEnvironment env).cluster = .some (Text.join "," entries) := by
    change setText (env.get? clusterVariable) = _
    rw [hget, setText, Option.filter_some, if_pos (by rw [hblank]; rfl)]
  rw [hosts, hcluster]
  simp only [hsplit]
  exact hlists.kept

/-- What it takes to be let into a secured cluster. -/
def Admitted (files : FileTree) (flags : RuntimeFlags) (admin : Bool) : Prop :=
  flags.https = true → (∃ c, flags.Credentialed c) ∧
    (admin = true → TrustMaterial.Searchable files flags.resourcesDir)

theorem transport_admitted {flags : RuntimeFlags} (h : Admitted files flags admin) (hnames : flags.NamesCluster) :
    ∃ t, flags.transport files admin = .ok t ∧ (admin = false → ∀ k, t ≠ .keystore k) := by
  cases hhttps : flags.https with
  | false => exact ⟨.plain, transport_plain hhttps, fun _ _ => nofun⟩
  | true =>
    obtain ⟨⟨c, hc⟩, hsearch⟩ := h hhttps
    by_cases hpresent : admin = true ∧ TrustMaterial.Present files flags.resourcesDir
    · obtain ⟨rfl, hpresent⟩ := hpresent
      exact ⟨_, transport_keystore hhttps hnames rfl hpresent, nofun⟩
    · have ht := (transport_basicAuth hhttps hnames hpresent hsearch).trans (basicAuth_credentialed hc)
      exact ⟨_, ht, fun _ _ => nofun⟩

theorem transport_isSecured_eq {flags : RuntimeFlags} {t : Transport} (ht : flags.transport files admin = .ok t) :
    t.isSecured = flags.https := by
  cases hhttps : flags.https with
  | false =>
    cases (transport_plain hhttps).symm.trans ht
    rfl
  | true => exact (transport_isSecured hhttps ht).2

end RuntimeFlags

theorem TlsContext.ofTransport_ok {t : Transport} (h : ∀ k, t ≠ .keystore k) (w : World) :
    ∃ notices tls, TlsContext.ofTransport w t = (notices, .ok tls) := by
  cases t with
  | plain => exact ⟨_, _, rfl⟩
  | keystore k => exact absurd rfl (h k)
  | basicAuth c => exact ⟨_, _, rfl⟩

theorem Connection.build_ok {settings : ClientSettings} (h : ∀ k, settings.transport ≠ .keystore k) (w : World) :
    ∃ tls, (Connection.build w settings).2 = .ok ⟨settings, tls⟩ := by
  obtain ⟨notices, tls, htls⟩ := TlsContext.ofTransport_ok h w
  refine ⟨tls, ?_⟩
  unfold Connection.build
  rw [htls]
  rfl

/-! ### URLs -/

/-- A client of some addresses with the URL of each: all its calls go to the URL of their host's address, with a
slash before the endpoint. -/
structure Reaches (settings : ClientSettings) (url : Text → Text) (addresses : List Text) : Prop where
  bases : settings.baseUrls = addresses.map url
  ends : ∀ base ∈ settings.baseUrls, base.getLast? ≠ some ClientSettings.slash
  calls : ∀ {σ : Type} (wire : Call → σ → Outcome × σ) (far : σ) (qs : List Inquiry), ∃ es,
    es.map Exchange.inquiry = qs ∧
      Conversation ⟨settings, wire⟩ ⟨0, far, []⟩ es (Inquiry.askAll ⟨settings, wire⟩ qs ⟨0, far, []⟩).2 ∧
      ∀ e ∈ es, ∀ a ∈ e.attempts, ∃ endpoint address, e.inquiry.request.endpoint = some endpoint ∧
        addresses[a.host]? = some address ∧
        a.call.url = url address ++ ClientSettings.slash :: endpoint.dropWhile ClientSettings.isSlash

namespace RuntimeFlags

open ClientSettings (schemeMark isSlash slash)

variable {env : Fields Text} {addresses : List Text} {part : Text} {files : FileTree} {admin : Bool}

/-- The base URL of an address: the scheme of the cluster, the address without its trailing slashes, and the path. -/
def addressUrl (flags : RuntimeFlags) (part address : Text) : Text :=
  (if flags.https then Text.ofString "https" else "http") ++ schemeMark ++ address.trimEnd isSlash ++ part

theorem last_addressUrl (flags : RuntimeFlags) {a : Text} (ha : IsAddress a) (hpart : part.getLast? ≠ some slash) :
    (flags.addressUrl part a).getLast? ≠ some slash := by
  have hstem : a.trimEnd isSlash ≠ [] := fun hnil =>
    have ⟨c, hc, hother⟩ := ha.host
    hother (of_decide_eq_true (List.rdropWhile_eq_nil_iff.mp hnil c hc))
  rw [addressUrl, List.getLast?_append]
  cases hlast : part.getLast? with
  | some d => exact fun h => hpart (hlast.trans h)
  | none =>
    rw [Option.none_or, List.getLast?_append_of_ne_nil _ hstem]
    exact fun hslash => absurd (Text.last_trimEnd slash hslash) (by decide)

theorem addressUrl_eq (h : Spells env addresses part) {settings : ClientSettings}
    (hpath : settings.pathPrefix = ClientSettings.normalPrefix (ofEnvironment env).pathPrefix)
    (hsecured : settings.transport.isSecured = (ofEnvironment env).https) {a : Text} (ha : IsAddress a) :
    ClientSettings.baseUrl settings.transport settings.pathPrefix a = (ofEnvironment env).addressUrl part a := by
  have hhost : ∃ c ∈ a, isSlash c = false := ha.host.imp fun c hc => ⟨hc.1, decide_eq_false hc.2⟩
  have hpart : settings.pathPrefix.getD [] = part := by
    rw [hpath]
    exact h.path.normal
  rw [ClientSettings.baseUrl_unschemed _ ha.unschemed hhost, hpart, addressUrl, Transport.scheme, hsecured]

theorem baseUrls_spelled (h : Spells env addresses part) {settings : ClientSettings}
    (hsettings : (ofEnvironment env).clientSettings files admin = .ok settings) :
    settings.baseUrls = addresses.map ((ofEnvironment env).addressUrl part) := by
  obtain ⟨t, ht, hfollows⟩ := clientSettings_eq_ok hsettings
  obtain ⟨entries, hlists, -⟩ := h.cluster
  have hsecured : settings.transport.isSecured = (ofEnvironment env).https :=
    hfollows.transport ▸ transport_isSecured_eq ht
  have hhosts : settings.hosts = addresses := by
    rw [hfollows.hosts, clientHosts, hosts_spelled h, if_neg (mt List.isEmpty_iff.mp h.some)]
  rw [ClientSettings.baseUrls, hhosts]
  exact List.map_congr_left fun a ha => addressUrl_eq h hfollows.pathPrefix hsecured (hlists.isAddress a ha)

theorem reaches_of_baseUrls {settings : ClientSettings} {url : Text → Text} (hne : addresses ≠ [])
    (hbases : settings.baseUrls = addresses.map url) (hends : ∀ a ∈ addresses, (url a).getLast? ≠ some slash) :
    Reaches settings url addresses where
  bases := hbases
  ends := hbases ▸ List.forall_mem_map.mpr hends
  calls {σ} wire far qs := by
    have hlength : 0 < (Client.baseUrls ⟨settings, wire⟩).length := by
      rw [Client.baseUrls, hbases, List.length_map]
      exact List.length_pos_of_ne_nil hne
    obtain ⟨es, hqs, -, hrun⟩ := askAll_conversation ⟨settings, wire⟩ qs ⟨0, far, []⟩ hlength
    refine ⟨es, hqs, hrun, fun e he a ha => ?_⟩
    obtain ⟨method, path, base, htarget, hbase, hcall⟩ := hrun.calls e he a ha
    obtain ⟨endpoint, hendpoint, rfl⟩ := Client.target_eq_ok htarget
    rw [Client.baseUrls, hbases, List.getElem?_map, Option.map_eq_some_iff] at hbase
    obtain ⟨address, haddress, rfl⟩ := hbase
    exact ⟨endpoint, address, hendpoint, haddress, by rw [hcall]; rfl⟩

/-- A client is made of every environment that lets one in and has a readable timeout, and whatever client an
environment gives reaches the addresses it lists. -/
theorem client_reaches_addresses (h : Spells env addresses part) :
    ((ofEnvironment env).AcceptsTimeout → Admitted files (ofEnvironment env) admin →
      ∃ settings, (ofEnvironment env).clientSettings files admin = .ok settings ∧
        (admin = false → ∀ w, ∃ tls, (Connection.build w settings).2 = .ok ⟨settings, tls⟩)) ∧
      ∀ settings, (ofEnvironment env).clientSettings files admin = .ok settings →
        Reaches settings ((ofEnvironment env).addressUrl part) addresses := by
  constructor
  · intro htimeout hadmitted
    have hnames : (ofEnvironment env).NamesCluster := hosts_ne_nil.mp (hosts_spelled h ▸ h.some)
    obtain ⟨t, ht, hregular⟩ := transport_admitted hadmitted hnames
    obtain ⟨settings, hsettings, hfollows⟩ := clientSettings_of_ok htimeout ht
    exact ⟨settings, hsettings, fun hadmin w => Connection.build_ok (hfollows.transport ▸ hregular hadmin) w⟩
  · intro settings hsettings
    obtain ⟨entries, hlists, -⟩ := h.cluster
    exact reaches_of_baseUrls h.some (baseUrls_spelled h hsettings) fun a ha =>
      last_addressUrl _ (hlists.isAddress a ha) h.path.last

/-! ### A cluster behind a path -/

def listedEnvironment : Fields Text :=
  [(httpsVariable, "True"), (clusterVariable, " , node-1:9200 ,, node-2//"), (pathPrefixVariable, "//os/v1/"),
    (userVariable, "admin"), (passwordVariable, "secret")]

def listedEntries : List Text :=
  [" ", Text.ofString " " ++ Text.ofString "node-1:9200" ++ Text.ofString " ", [],
    Text.ofString " " ++ Text.ofString "node-2//" ++ []]

theorem listedEntries_lists : Lists listedEntries ["node-1:9200", "node-2//"] := by
  have hfirst : IsAddress "node-1:9200" :=
    ⟨by decide, by decide, by decide, by decide, CodePoint.ofChar 'n', by decide, by decide⟩
  have hsecond : IsAddress "node-2//" :=
    ⟨by decide, by decide, by decide, by decide, CodePoint.ofChar 'n', by decide, by decide⟩
  have hlast : Lists [[], Text.ofString " " ++ Text.ofString "node-2//" ++ []] ["node-2//"] :=
    .blank rfl (.address (by decide) hsecond rfl .nil)
  exact .blank (by decide) (.address (by decide) hfirst (by decide) hlast)

theorem listedPrefix_leads : Leads (some "//os/v1/") "/os/v1" := by
  have hpadded : Text.ofString "//os/v1/" = List.replicate 2 slash ++ Text.ofString "os/v1" ++ List.replicate 1 slash :=
    by decide
  rw [hpadded]
  exact .core 2 1 (by decide) (by decide) (by decide)

theorem listedEnvironment_spells : Spells listedEnvironment ["node-1:9200", "node-2//"] "/os/v1" where
  some := nofun
  cluster := ⟨listedEntries, listedEntries_lists, by decide +kernel⟩
  path := listedPrefix_leads

theorem client_reaches_listed_addresses :
    Spells listedEnvironment ["node-1:9200", "node-2//"] "/os/v1" ∧
      ∃ settings, (ofEnvironment listedEnvironment).clientSettings emptyTree false = .ok settings ∧
        (∀ w, ∃ tls, (Connection.build w settings).2 = .ok ⟨settings, tls⟩) ∧
        Reaches settings ((ofEnvironment listedEnvironment).addressUrl "/os/v1") ["node-1:9200", "node-2//"] := by
  have hreaches := @client_reaches_addresses listedEnvironment _ _ emptyTree false listedEnvironment_spells
  have htimeout : (ofEnvironment listedEnvironment).AcceptsTimeout := fun t ht => by cases ht
  have hadmitted : Admitted emptyTree (ofEnvironment listedEnvironment) false := fun _ =>
    ⟨⟨⟨"admin", ⟨"secret"⟩⟩, by decide +kernel, by decide +kernel, by decide +kernel, by decide +kernel⟩, nofun⟩
  obtain ⟨settings, hsettings, hbuilt⟩ := hreaches.1 htimeout hadmitted
  exact ⟨listedEnvironment_spells, settings, hsettings, hbuilt rfl, hreaches.2 settings hsettings⟩

end RuntimeFlags

end ClusterHarness
