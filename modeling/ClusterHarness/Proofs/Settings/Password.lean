import ClusterHarness.Proofs.Http.Alike
import ClusterHarness.Proofs.Http.Failover
import ClusterHarness.Proofs.Settings.Selection

/-!
The password is confined to the credentials of a connection. Flags that differ in their passwords alone give
the same error or settings that are written alike, and clients that nobody tells apart by what they answer,
record or send.
-/

namespace ClusterHarness

open Http Validation

/-! ### Settings with other passwords -/

inductive Transport.SameButPassword : Transport → Transport → Prop
  | plain : SameButPassword .plain .plain
  | keystore (k : Keystore) : SameButPassword (.keystore k) (.keystore k)
  | basicAuth (username : Text) {p q : Secret} : p.clear ≠ [] → q.clear ≠ [] →
      SameButPassword (.basicAuth ⟨username, p⟩) (.basicAuth ⟨username, q⟩)

namespace Transport.SameButPassword

variable {t u : Transport} (h : t.SameButPassword u)

include h

theorem isSecured : u.isSecured = t.isSecured := by cases h <;> rfl

theorem trustsAll : u.trustsAll = t.trustsAll := by cases h <;> rfl

theorem ofTransport (w : World) : TlsContext.ofTransport w u = TlsContext.ofTransport w t := by
  cases h <;> rfl

theorem mode : u.mode = t.mode := by cases h <;> rfl

theorem toJson : u.toJson = t.toJson := by
  cases h with
  | plain => rfl
  | keystore k => rfl
  | basicAuth username hp hq => simp [Transport.toJson, Secret.masked, hp, hq]

end Transport.SameButPassword

inductive ClientSettings.SameButPassword : ClientSettings → ClientSettings → Prop
  | of (s : ClientSettings) {t u : Transport} : t.SameButPassword u →
      SameButPassword { s with transport := t } { s with transport := u }

namespace ClientSettings.SameButPassword

variable {a b : ClientSettings} (h : a.SameButPassword b)

include h

theorem transport : a.transport.SameButPassword b.transport := by
  cases h with
  | of s htransport => exact htransport

theorem baseUrls : b.baseUrls = a.baseUrls := by
  cases h with
  | of s htransport =>
    refine List.map_congr_left fun host _ => ?_
    simp only [baseUrl, hostUrl, Transport.scheme, htransport.isSecured]

theorem toJson : b.toJson = a.toJson := by
  cases h with
  | of s htransport => simp only [ClientSettings.toJson, htransport.toJson]

theorem actAlike : ActAlike a b where
  baseUrls := h.baseUrls
  socketTimeout := by cases h; rfl
  trustsAll := h.transport.trustsAll
  strict := by cases h; rfl

end ClientSettings.SameButPassword

/-! ### Flags with other passwords -/

namespace RuntimeFlags

/-- The flags are the same but for the password, of which there is one in both. -/
inductive SameButPassword : RuntimeFlags → RuntimeFlags → Prop
  | of (flags : RuntimeFlags) {p q : Secret} : p.clear ≠ [] → q.clear ≠ [] →
      SameButPassword { flags with password := some p } { flags with password := some q }

namespace SameButPassword

variable {flags flags' : RuntimeFlags} (h : flags.SameButPassword flags') (files : FileTree) (admin : Bool)

include h

theorem credentials : EndAlike (fun c d => Transport.SameButPassword (.basicAuth c) (.basicAuth d))
    flags.credentials flags'.credentials := by
  cases h with
  | @of flags p q hp hq =>
    obtain ⟨_ | ⟨a, p⟩⟩ := p
    · exact absurd rfl hp
    obtain ⟨_ | ⟨b, q⟩⟩ := q
    · exact absurd rfl hq
    simp only [RuntimeFlags.credentials]
    split
    · exact .error _
    · exact .error _
    · exact .ok (.basicAuth _ hp hq)

theorem basicAuth : EndAlike Transport.SameButPassword flags.basicAuth flags'.basicAuth := by
  refine (h.credentials.mapError _).bind fun c d hcd => ?_
  cases hcd with
  | basicAuth username hp hq =>
    refine (EndAlike.of_eq _).bind fun user user' huser => ?_
    rw [← huser]
    exact .ok (.basicAuth user hp hq)

theorem isSecured : flags'.isSecured = flags.isSecured := by cases h; rfl

theorem resourcesDir : flags'.resourcesDir = flags.resourcesDir := by cases h; rfl

/-- The same is announced, and the same error comes of it or transports that differ in the password. -/
theorem chooseTransport : flags'.notices files admin = flags.notices files admin ∧
    EndAlike Transport.SameButPassword (flags.transport files admin) (flags'.transport files admin) := by
  have hbasic := h.basicAuth
  unfold RuntimeFlags.notices RuntimeFlags.transport RuntimeFlags.chooseTransport
  rw [h.isSecured, h.resourcesDir]
  rcases flags.isSecured with e | _ | _
  · exact ⟨rfl, .error _⟩
  · exact ⟨rfl, .ok .plain⟩
  · cases admin with
    | false => exact ⟨rfl, hbasic⟩
    | true =>
      rcases TrustMaterial.findKeystore files flags.resourcesDir with ⟨notices, e | _ | k⟩
      · exact ⟨rfl, .error _⟩
      · exact ⟨rfl, hbasic⟩
      · exact ⟨rfl, .ok (.keystore k)⟩

theorem clientSettings : EndAlike ClientSettings.SameButPassword (flags.clientSettings files admin)
    (flags'.clientSettings files admin) := by
  have htransport := (h.chooseTransport files admin).2
  cases h with
  | of flags hp hq =>
    refine htransport.bind fun t u htu => ?_
    refine (EndAlike.of_eq _).bind fun seconds _ hseconds => ?_
    subst hseconds
    refine (EndAlike.of_eq _).bind fun checked _ hchecked => ?_
    subst hchecked
    exact .ok (.of ⟨checked.1, t, !admin, checked.2, ClientSettings.normalPrefix flags.pathPrefix,
      ClientSettings.defaultPerRoute, ClientSettings.defaultTotal, []⟩ htu)

end SameButPassword

end RuntimeFlags

/-! ### What can be seen -/

/-- Connections of which only the credentials may differ, and of these the password alone. -/
structure SameButAuth (a b : Connection) : Prop where
  tls : b.tls = a.tls
  settings : a.settings.SameButPassword b.settings
  poolSize : b.poolSize = a.poolSize
  poolCount : b.poolCount = a.poolCount
  header : ∀ name, b.header? name = a.header? name
  user : b.credentials?.map Credentials.username = a.credentials?.map Credentials.username

/-- Settings that nobody tells apart, neither as they are written nor by what a client of theirs records and
does. -/
structure Indistinguishable (a b : ClientSettings) : Prop where
  document : b.toJson = a.toJson
  text : toText b.toJson = toText a.toJson
  baseUrls : b.baseUrls = a.baseUrls
  requests : ∀ (σ : Type) (wire : Call → σ → Outcome × σ) (qs : List Inquiry) (s : Session σ),
    Inquiry.askAll ⟨b, wire⟩ qs s = Inquiry.askAll ⟨a, wire⟩ qs s
  notices : ∀ w, (Connection.build w b).1 = (Connection.build w a).1
  built : ∀ w, EndAlike SameButAuth (Connection.build w a).2 (Connection.build w b).2

namespace ClientSettings.SameButPassword

variable {a b : ClientSettings} (h : a.SameButPassword b)

include h

theorem sameButAuth (tls : Option TlsContext) : SameButAuth ⟨a, tls⟩ ⟨b, tls⟩ where
  tls := rfl
  settings := h
  poolSize := by cases h; rfl
  poolCount := by cases h; rfl
  header name := by cases h; rfl
  user := by
    cases h with
    | of s htransport => cases htransport <;> rfl

theorem indistinguishable : Indistinguishable a b where
  document := h.toJson
  text := congrArg toText h.toJson
  baseUrls := h.baseUrls
  requests σ wire qs s := h.actAlike.askAll wire qs s
  notices w := by
    rw [Connection.build, Connection.build, h.transport.ofTransport, h.transport.mode]
    cases h
    rfl
  built w := by
    rw [Connection.build, Connection.build, h.transport.ofTransport]
    refine (EndAlike.of_eq _).map fun tls _ htls => ?_
    rw [← htls]
    exact h.sameButAuth tls

end ClientSettings.SameButPassword

/-- Whatever the password, the same is announced while the settings are made, and the same error comes of
the flags or settings that nobody tells apart: of what is built from them the credentials alone may differ. -/
theorem password_is_confined {flags flags' : RuntimeFlags} (h : flags.SameButPassword flags') (files : FileTree)
    (admin : Bool) :
    flags'.notices files admin = flags.notices files admin ∧
      EndAlike Indistinguishable (flags.clientSettings files admin) (flags'.clientSettings files admin) :=
  ⟨(h.chooseTransport files admin).1,
    (h.clientSettings files admin).mono fun _ _ hsame => hsame.indistinguishable⟩

def flagsWith (password : Text) : RuntimeFlags :=
  { RuntimeFlags.ofEnvironment (RuntimeFlags.securedEnvironment "res") with password := some ⟨password⟩ }

def settingsWith (password : Text) : ClientSettings :=
  ⟨["node-1:9200"], .basicAuth ⟨"admin", ⟨password⟩⟩, false, some (.ofRatio false 120 1), none, 10, 30, []⟩

/-- Two admins without a keystore, of which it is announced that there is none. -/
theorem password_is_confined_of_two : (flagsWith "secret").SameButPassword (flagsWith "hunter2") ∧
    (flagsWith "secret").clientSettings RuntimeFlags.emptyTree true = .ok (settingsWith "secret") ∧
    (flagsWith "hunter2").clientSettings RuntimeFlags.emptyTree true = .ok (settingsWith "hunter2") ∧
    (flagsWith "hunter2").notices RuntimeFlags.emptyTree true =
      (flagsWith "secret").notices RuntimeFlags.emptyTree true ∧
    Indistinguishable (settingsWith "secret") (settingsWith "hunter2") := by
  have hflags : (flagsWith "secret").SameButPassword (flagsWith "hunter2") := .of _ (by decide) (by decide)
  have hsecret : (flagsWith "secret").clientSettings RuntimeFlags.emptyTree true = .ok (settingsWith "secret") := by
    decide +kernel
  have hhunter : (flagsWith "hunter2").clientSettings RuntimeFlags.emptyTree true =
      .ok (settingsWith "hunter2") := by decide +kernel
  obtain ⟨hnotices, hends⟩ := password_is_confined hflags RuntimeFlags.emptyTree true
  rw [hsecret, hhunter] at hends
  cases hends with
  | ok hsame => exact ⟨hflags, hsecret, hhunter, hnotices, hsame⟩

end ClusterHarness
