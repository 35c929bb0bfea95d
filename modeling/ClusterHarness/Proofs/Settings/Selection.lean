import ClusterHarness.Proofs.Settings.Flags
import ClusterHarness.Proofs.Settings.Keystore
import ClusterHarness.Proofs.Settings.Timeout

/-!
Which transport flags lead to. A secured cluster is reached with the keystore by the admin alone, and by
everyone else with the credentials that were given; what is missing is an error and never less security.
The one error of another kind is that of a file system that takes the keystore's path for too long.
-/

namespace ClusterHarness

open TrustMaterial Validated

namespace RuntimeFlags

variable {files : FileTree} {flags : RuntimeFlags} {admin : Bool} {t : Transport} {e : SettingsError}

/-- The user that was given is not blank, and the password not empty. -/
structure Credentialed (flags : RuntimeFlags) (c : Credentials) : Prop where
  user : flags.user = some c.username
  named : c.username.isBlank = false
  password : flags.password = some c.password
  secret : c.password.clear ≠ []

theorem credentials_eq_ok {c : Credentials} : flags.credentials = .ok c ↔
    flags.user = some c.username ∧ c.username ≠ [] ∧ flags.password = some c.password ∧
      c.password.clear ≠ [] := by
  obtain ⟨username, ⟨clear⟩⟩ := c
  unfold credentials
  rcases huser : flags.user with _ | _ | ⟨u, user⟩
  · simp
  · simp only [reduceCtorEq, Option.some.injEq, false_iff, not_and]
    exact fun hempty hne => absurd hempty.symm hne
  · rcases hpassword : flags.password with _ | ⟨_ | ⟨p, password⟩⟩
    · simp
    · simp only [reduceCtorEq, Option.some.injEq, Secret.mk.injEq, false_iff, not_and]
      exact fun _ _ hempty hne => absurd hempty.symm hne
    · simp only [Except.ok.injEq, Credentials.mk.injEq, Secret.mk.injEq, Option.some.injEq]
      refine ⟨fun ⟨hu, hp⟩ => ⟨hu, ?_, hp, ?_⟩, fun ⟨hu, _, hp, _⟩ => ⟨hu, hp⟩⟩
      · exact hu ▸ List.cons_ne_nil u user
      · exact hp ▸ List.cons_ne_nil p password

theorem basicAuth_credentialed {c : Credentials} (h : flags.Credentialed c) :
    flags.basicAuth = .ok (.basicAuth c) := by
  have hne : c.username ≠ [] := by
    intro hempty
    have hnamed := h.named
    rw [hempty] at hnamed
    cases hnamed
  have hcredentials : flags.credentials = .ok c :=
    credentials_eq_ok.mpr ⟨h.user, hne, h.password, h.secret⟩
  have hnamed : Transport.namedUser c.username = .ok c.username := by
    rw [Transport.namedUser, h.named, if_neg Bool.false_ne_true]
  refine bind_eq_ok.mpr ⟨c, mapError_eq_ok.mpr hcredentials, ?_⟩
  rw [hnamed]
  rfl

theorem basicAuth_incomplete (given : Given flags) (h : ∀ c, ¬flags.Credentialed c) :
    ∃ e, flags.basicAuth = .error (.configuration e) := by
  cases hcredentials : flags.credentials with
  | error e => exact ⟨e, by rw [basicAuth, hcredentials]; rfl⟩
  | ok c =>
    obtain ⟨huser, -, hpassword, hsecret⟩ := credentials_eq_ok.mp hcredentials
    exact absurd ⟨huser, given.user_not_blank huser, hpassword, hsecret⟩ (h c)

/-! ### The transport -/

theorem transport_plain (h : flags.https = false) : flags.transport files admin = .ok .plain := by
  have hsecured : flags.isSecured = .ok false := by
    rw [isSecured, h, Bool.false_and, if_neg Bool.false_ne_true]
  rw [transport, chooseTransport, hsecured]

theorem transport_unnamed (h : flags.https = true) (hnames : ¬flags.NamesCluster) :
    flags.transport files admin = .error (.configuration .clusterMissing) := by
  have hhosts : flags.hosts = [] := not_not.mp (mt hosts_ne_nil.mp hnames)
  have hsecured : flags.isSecured = .error .clusterMissing := by rw [isSecured, h, hhosts]; rfl
  rw [transport, chooseTransport, hsecured]

theorem transport_secured (h : flags.https = true) (hnames : flags.NamesCluster) :
    flags.transport files admin = (do
      let keystore ← if admin then (keystore? files flags.resourcesDir).mapError .opening else pure none
      match keystore with
      | some k => return .keystore k
      | none => flags.basicAuth) := by
  have hhosts : flags.hosts.isEmpty = false := by
    rw [List.isEmpty_eq_false_iff]
    exact hosts_ne_nil.mpr hnames
  have hsecured : flags.isSecured = .ok true := by
    rw [isSecured, h, hhosts, Bool.and_false, if_neg Bool.false_ne_true]
  rw [transport, chooseTransport, hsecured, keystore?]
  cases admin with
  | false => rfl
  | true =>
    rcases findKeystore files flags.resourcesDir with ⟨notices, e | _ | k⟩
    · rfl
    · rfl
    · rfl

theorem transport_keystore (h : flags.https = true) (hnames : flags.NamesCluster) (hadmin : admin = true)
    (hpresent : Present files flags.resourcesDir) :
    flags.transport files admin = .ok (.keystore (keystoreAt files flags.resourcesDir)) := by
  rw [transport_secured h hnames, if_pos hadmin]
  rcases keystore?_cases files flags.resourcesDir with ⟨-, hk⟩ | ⟨hnot, -⟩ | ⟨hnot, -⟩
  · rw [hk]
    rfl
  · exact absurd hpresent hnot
  · exact absurd hpresent.searchable hnot

theorem transport_basicAuth (h : flags.https = true) (hnames : flags.NamesCluster)
    (hother : ¬(admin = true ∧ Present files flags.resourcesDir))
    (hsearch : admin = true → Searchable files flags.resourcesDir) :
    flags.transport files admin = flags.basicAuth := by
  rw [transport_secured h hnames]
  cases admin with
  | false => rfl
  | true =>
    rw [if_pos rfl]
    rcases keystore?_cases files flags.resourcesDir with ⟨hpresent, -⟩ | ⟨-, -, hk⟩ | ⟨hnot, -⟩
    · exact absurd ⟨rfl, hpresent⟩ hother
    · rw [hk]
      rfl
    · exact absurd (hsearch rfl) hnot

theorem transport_unsearchable (h : flags.https = true) (hnames : flags.NamesCluster)
    (hadmin : admin = true) (hnot : ¬Searchable files flags.resourcesDir) :
    ∃ name ∈ fileNames, flags.transport files admin =
      .error (.opening (.system .nameTooLong (fileAt flags.resourcesDir name))) := by
  rw [transport_secured h hnames, if_pos hadmin]
  rcases keystore?_cases files flags.resourcesDir with ⟨hpresent, -⟩ | ⟨-, hsearch, -⟩ | ⟨-, name, hname, hk⟩
  · exact absurd hpresent.searchable hnot
  · exact absurd hsearch hnot
  · exact ⟨name, hname, by rw [hk]; rfl⟩

/-- The transports and errors there are for the regular client and for the admin's, of a cluster that is
secured or is not. -/
inductive Route : Bool → Bool → Except SettingsError Transport → Prop
  | plain {admin : Bool} : Route admin false (.ok .plain)
  | keystore {k : Keystore} : Route true true (.ok (.keystore k))
  | basicAuth {admin : Bool} {c : Credentials} : Route admin true (.ok (.basicAuth c))
  | misconfigured {admin : Bool} {e : ConfigurationError} : Route admin true (.error (.configuration e))
  | unsearchable {e : OpenError} : Route true true (.error (.opening e))

theorem transport_route (files : FileTree) (admin : Bool) (given : Given flags) :
    Route admin flags.https (flags.transport files admin) := by
  cases h : flags.https with
  | false =>
    rw [transport_plain h]
    exact .plain
  | true =>
    by_cases hnames : flags.NamesCluster
    · by_cases hpresent : admin = true ∧ Present files flags.resourcesDir
      · rw [transport_keystore h hnames hpresent.1 hpresent.2, hpresent.1]
        exact .keystore
      by_cases hsearch : admin = true → Searchable files flags.resourcesDir
      · rw [transport_basicAuth h hnames hpresent hsearch]
        by_cases hgiven : ∃ c, flags.Credentialed c
        · obtain ⟨c, hc⟩ := hgiven
          rw [basicAuth_credentialed hc]
          exact .basicAuth
        · obtain ⟨e, he⟩ := basicAuth_incomplete given (not_exists.mp hgiven)
          rw [he]
          exact .misconfigured
      · obtain ⟨hadmin, hnot⟩ := Classical.not_imp.mp hsearch
        obtain ⟨name, -, hlong⟩ := transport_unsearchable h hnames hadmin hnot
        rw [hlong, hadmin]
        exact .unsearchable
    · rw [transport_unnamed h hnames]
      exact .misconfigured

/-! ### The settings -/

theorem clientSettings_of_error (h : flags.transport files admin = .error e) :
    flags.clientSettings files admin = .error e := by
  rw [clientSettings, h]
  rfl

/-- Settings with the given transport and the flags for the rest. -/
structure Follows (flags : RuntimeFlags) (admin : Bool) (t : Transport) (s : ClientSettings) : Prop where
  transport : s.transport = t
  strict : s.strictDeprecationMode = !admin
  hosts : s.hosts = flags.clientHosts
  pathPrefix : s.pathPrefix = ClientSettings.normalPrefix flags.pathPrefix

theorem clientSettings_eq_ok {s : ClientSettings} (h : flags.clientSettings files admin = .ok s) :
    ∃ t, flags.transport files admin = .ok t ∧ flags.Follows admin t s := by
  obtain ⟨t, ht, hrest⟩ := bind_eq_ok.mp h
  obtain ⟨seconds, -, hrest⟩ := bind_eq_ok.mp hrest
  obtain ⟨⟨hosts, timeout⟩, hchecked, hpool⟩ := bind_eq_ok.mp hrest
  rw [mapError_eq_ok, both_eq_ok, within_eq_ok, normalHosts_clientHosts, Except.ok.injEq] at hchecked
  rw [mapError_eq_ok] at hpool
  cases hpool
  exact ⟨t, ht, rfl, rfl, hchecked.1.symm, rfl⟩

theorem clientSettings_of_seconds {seconds : Time.Seconds} {timeout : Option Binary64}
    (hseconds : flags.timeout = .ok seconds) (hchecked : secondsTimeout seconds = .ok timeout)
    (h : flags.transport files admin = .ok t) :
    ∃ s, flags.clientSettings files admin = .ok s ∧ flags.Follows admin t s := by
  refine ⟨⟨flags.clientHosts, t, !admin, timeout, ClientSettings.normalPrefix flags.pathPrefix,
    ClientSettings.defaultPerRoute, ClientSettings.defaultTotal, []⟩, ?_, rfl, rfl, rfl, rfl⟩
  have hhosts : within (.name "hosts") (ClientSettings.normalHosts flags.clientHosts) =
      .ok flags.clientHosts := within_eq_ok.mpr flags.normalHosts_clientHosts
  refine bind_eq_ok.mpr ⟨t, h, bind_eq_ok.mpr ⟨seconds, hseconds, bind_eq_ok.mpr
    ⟨(flags.clientHosts, timeout), ?_, rfl⟩⟩⟩
  exact mapError_eq_ok.mpr (both_eq_ok.mpr ⟨hhosts, hchecked⟩)

theorem clientSettings_of_ok (htimeout : flags.AcceptsTimeout)
    (h : flags.transport files admin = .ok t) :
    ∃ s, flags.clientSettings files admin = .ok s ∧ flags.Follows admin t s := by
  obtain ⟨seconds, timeout, hseconds, hchecked⟩ := timeout_ok htimeout
  exact clientSettings_of_seconds hseconds hchecked h

/-- What the settings of a client are, by the flags, the files and whether it is the admin's. -/
structure SelectsTransport (files : FileTree) (flags : RuntimeFlags) (admin : Bool) : Prop where
  plain : (∃ s, flags.clientSettings files admin = .ok s ∧ s.transport = .plain) ↔ flags.https = false
  unnamed : flags.https = true → ¬flags.NamesCluster →
    flags.clientSettings files admin = .error (.configuration .clusterMissing)
  keystore : flags.https = true → flags.NamesCluster → admin = true → Present files flags.resourcesDir →
    ∃ s, flags.clientSettings files admin = .ok s ∧
      s.transport = .keystore (keystoreAt files flags.resourcesDir)
  credentialed : ∀ c, flags.https = true → flags.NamesCluster →
    ¬(admin = true ∧ Present files flags.resourcesDir) →
    (admin = true → Searchable files flags.resourcesDir) → flags.Credentialed c →
      ∃ s, flags.clientSettings files admin = .ok s ∧ s.transport = .basicAuth c
  incomplete : flags.https = true → flags.NamesCluster →
    ¬(admin = true ∧ Present files flags.resourcesDir) →
    (admin = true → Searchable files flags.resourcesDir) → (∀ c, ¬flags.Credentialed c) →
      ∃ e, flags.clientSettings files admin = .error (.configuration e)
  unsearchable : flags.https = true → flags.NamesCluster → admin = true →
    ¬Searchable files flags.resourcesDir → ∃ name ∈ fileNames, flags.clientSettings files admin =
      .error (.opening (.system .nameTooLong (fileAt flags.resourcesDir name)))
  regular : ∀ s k, flags.clientSettings files false = .ok s → s.transport ≠ .keystore k
  strict : ∀ s, flags.clientSettings files admin = .ok s → s.strictDeprecationMode = !admin
  valid : ∀ issues, flags.clientSettings files admin ≠ .error (.invalid issues)

/-- A cluster without TLS is reached in plain. The admin of a secured one presents the keystore, where there is
one, and everybody else the credentials, without which the flags are an error. -/
theorem clientSettings_selects_transport (files : FileTree) (given : Given flags)
    (htimeout : flags.AcceptsTimeout) (admin : Bool) : SelectsTransport files flags admin where
  plain := by
    constructor
    · rintro ⟨s, hs, hplain⟩
      obtain ⟨t, ht, hfollows⟩ := clientSettings_eq_ok hs
      have hroute := transport_route files admin given
      rw [ht, ← hfollows.transport, hplain] at hroute
      generalize flags.https = https at hroute
      cases hroute
      rfl
    · intro h
      have ht : flags.transport files admin = .ok .plain := transport_plain h
      obtain ⟨s, hs, hfollows⟩ := clientSettings_of_ok htimeout ht
      exact ⟨s, hs, hfollows.transport⟩
  unnamed h hnames := clientSettings_of_error (transport_unnamed h hnames)
  keystore h hnames hadmin hpresent := by
    obtain ⟨s, hs, hfollows⟩ := clientSettings_of_ok htimeout (transport_keystore h hnames hadmin hpresent)
    exact ⟨s, hs, hfollows.transport⟩
  credentialed c h hnames hother hsearch hc := by
    have ht := (transport_basicAuth h hnames hother hsearch).trans (basicAuth_credentialed hc)
    obtain ⟨s, hs, hfollows⟩ := clientSettings_of_ok htimeout ht
    exact ⟨s, hs, hfollows.transport⟩
  incomplete h hnames hother hsearch hnone := by
    obtain ⟨e, he⟩ := basicAuth_incomplete given hnone
    exact ⟨e, clientSettings_of_error ((transport_basicAuth h hnames hother hsearch).trans he)⟩
  unsearchable h hnames hadmin hnot := by
    obtain ⟨name, hname, hlong⟩ := transport_unsearchable h hnames hadmin hnot
    exact ⟨name, hname, clientSettings_of_error hlong⟩
  regular s k hs hkeystore := by
    obtain ⟨t, ht, hfollows⟩ := clientSettings_eq_ok hs
    have hroute := transport_route files false given
    rw [ht, ← hfollows.transport, hkeystore] at hroute
    generalize flags.https = https at hroute
    cases hroute
  strict s hs := by
    obtain ⟨_, -, hfollows⟩ := clientSettings_eq_ok hs
    exact hfollows.strict
  valid issues hinvalid := by
    have hroute := transport_route files admin given
    cases ht : flags.transport files admin with
    | ok t =>
      obtain ⟨s, hs, -⟩ := clientSettings_of_ok htimeout ht
      rw [hs] at hinvalid
      cases hinvalid
    | error e =>
      rw [clientSettings_of_error ht, Except.error.injEq] at hinvalid
      rw [ht, hinvalid] at hroute
      generalize flags.https = https at hroute
      cases hroute

/-! ### A secured cluster and its admin -/

def securedEnvironment (resources : Text) : Fields Text :=
  [(httpsVariable, "True"), (clusterVariable, " , node-1:9200"), (userVariable, "admin"),
    (passwordVariable, "secret"), (socketTimeoutVariable, "2m"), (resourcesDirVariable, resources)]

def emptyTree : FileTree := ⟨.ofText "/home", []⟩

def keystoreTree : FileTree := ⟨.ofText "/home", fileNames.map fun name =>
  ([Text.ofString "res", directory, name].map Utf8.encode, .bytes [])⟩

theorem securedEnvironment_acceptsTimeout (resources : Text) :
    (ofEnvironment (securedEnvironment resources)).AcceptsTimeout := by
  intro t ht
  have htwo : (ofEnvironment (securedEnvironment resources)).socketTimeout = some (Text.ofString "2m") := rfl
  rw [htwo, Option.some.injEq] at ht
  refine ⟨.whole 120, by rw [← ht]; decide +kernel, ?_⟩
  calc ((120 : ℤ) : ℚ) < 10 ^ 3 := by norm_num
    _ ≤ 10 ^ 300 := pow_le_pow_right₀ (by norm_num) (by norm_num)

theorem clientSettings_selects_transport_of_admin :
    Given (ofEnvironment (securedEnvironment "res")) ∧ (ofEnvironment (securedEnvironment "res")).AcceptsTimeout ∧
      SelectsTransport keystoreTree (ofEnvironment (securedEnvironment "res")) true :=
  ⟨.environment _, securedEnvironment_acceptsTimeout _,
    clientSettings_selects_transport keystoreTree (.environment _) (securedEnvironment_acceptsTimeout _) true⟩

def overlongDirectory : Text := List.replicate 256 (CodePoint.ofChar 'a')

def overlongFlags : RuntimeFlags := ofEnvironment (securedEnvironment overlongDirectory)

/-- Below a directory with a name that is too long there is no keystore, and yet the credentials that
were given are not turned to. -/
theorem overlong_directory_gives_no_settings :
    (Given overlongFlags ∧ overlongFlags.AcceptsTimeout) ∧
      (overlongFlags.https = true ∧ overlongFlags.NamesCluster) ∧
      ¬Present emptyTree overlongFlags.resourcesDir ∧
      overlongFlags.Credentialed ⟨"admin", ⟨"secret"⟩⟩ ∧
      overlongFlags.clientSettings emptyTree true =
        .error (.opening (.system .nameTooLong (fileAt overlongFlags.resourcesDir caFile))) := by
  have hca : emptyTree.Overlong (fileAt overlongFlags.resourcesDir caFile) := by
    unfold FileTree.Overlong
    decide +kernel
  refine ⟨⟨.environment _, securedEnvironment_acceptsTimeout _⟩, ⟨by decide +kernel, ?_⟩, ?_, ?_, ?_⟩
  · exact hosts_ne_nil.mp (by decide +kernel)
  · exact fun hpresent => FileTree.not_overlong_of_holds (hpresent caFile (by simp [fileNames])) hca
  · exact ⟨by decide +kernel, by decide +kernel, by decide +kernel, by decide +kernel⟩
  · decide +kernel

end RuntimeFlags

end ClusterHarness
