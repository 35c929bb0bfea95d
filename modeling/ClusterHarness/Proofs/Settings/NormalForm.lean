import ClusterHarness.Proofs.Files.PathText
import ClusterHarness.Proofs.Text.Trim
import ClusterHarness.Proofs.Validation.Checks
import ClusterHarness.Proofs.Validation.Integers
import ClusterHarness.Settings.Client

/-!
The normal form of client settings. What a rule of the settings makes of a field, it makes of its own result
again; settings that are accepted are in the form that their rules make.
-/

namespace ClusterHarness

open Validation Validated

namespace ClientSettings

/-! ### The rules, applied twice -/

theorem trimHosts_spec {hosts : List Text} {host : Text} (h : host ∈ trimHosts hosts) :
    host.isBlank = false ∧ host.trim = host := by
  obtain ⟨given, hgiven, rfl⟩ := List.mem_map.mp h
  have hblank : given.isBlank = false := by simpa using (List.mem_filter.mp hgiven).2
  exact ⟨(Text.isBlank_trim given).trans hblank, Text.trim_trim given⟩

theorem trimHosts_of_trimmed {hosts : List Text} (h : ∀ host ∈ hosts, host.isBlank = false ∧ host.trim = host) :
    trimHosts hosts = hosts := by
  have hkept : hosts.filter (!·.isBlank) = hosts :=
    List.filter_eq_self.mpr fun host hhost => by rw [(h host hhost).1]; rfl
  rw [trimHosts, hkept]
  exact (List.map_congr_left fun host hhost => (h host hhost).2).trans (List.map_id _)

theorem normalHosts_eq_ok {given hosts : List Text} (h : normalHosts given = .ok hosts) :
    hosts ≠ [] ∧ ∀ host ∈ hosts, host.isBlank = false ∧ host.trim = host := by
  simp only [normalHosts] at h
  split at h
  · cases h
  · next hne =>
    cases h
    exact ⟨by simpa using hne, fun host => trimHosts_spec⟩

theorem normalHosts_self {hosts : List Text} (hne : hosts ≠ [])
    (h : ∀ host ∈ hosts, host.isBlank = false ∧ host.trim = host) : normalHosts hosts = .ok hosts := by
  rw [normalHosts, trimHosts_of_trimmed h, if_neg (by simpa using hne)]

theorem normalTimeout_eq_ok {given timeout : Option Binary64} (h : normalTimeout given = .ok timeout) :
    ∀ x, timeout = some x → x.isNegative = false ∧ x.isZero = false := by
  intro x hx
  cases given with
  | none =>
    cases h
    cases hx
  | some y =>
    simp only [normalTimeout] at h
    split at h
    · cases h
    · next hbelow =>
      cases h
      split at hx
      · cases hx
      · next hzero =>
        cases hx
        simpa [Binary64.isBelowZero, hzero] using hbelow

theorem normalTimeout_self {timeout : Option Binary64}
    (h : ∀ x, timeout = some x → x.isNegative = false ∧ x.isZero = false) : normalTimeout timeout = .ok timeout := by
  cases timeout with
  | none => rfl
  | some x =>
    obtain ⟨hnegative, hzero⟩ := h x rfl
    simp [normalTimeout, Binary64.isBelowZero, hnegative, hzero]

/-- A slash, followed by a text that has one at neither end. -/
def IsPrefix (lead : Text) : Prop :=
  ∃ core, lead = slash :: core ∧ core ≠ [] ∧ core.head? ≠ some slash ∧ core.getLast? ≠ some slash

theorem normalPrefix_isPrefix {given : Option Text} {lead : Text} (h : normalPrefix given = some lead) :
    IsPrefix lead := by
  obtain ⟨t, -, hlead⟩ := Option.bind_eq_some_iff.mp h
  dsimp only at hlead
  split at hlead
  · cases hlead
  · next hne =>
    cases hlead
    refine ⟨t.trimBy isSlash, rfl, by simpa using hne, fun hhead => ?_, fun hlast => ?_⟩
    · exact absurd (Text.head_trimBy slash hhead) (by decide)
    · exact absurd (Text.last_trimBy slash hlast) (by decide)

theorem normalPrefix_self {lead : Option Text} (h : ∀ t, lead = some t → IsPrefix t) : normalPrefix lead = lead := by
  cases lead with
  | none => rfl
  | some t =>
    obtain ⟨core, rfl, hne, hhead, hlast⟩ := h t rfl
    have hcore : Text.trimBy isSlash (slash :: core) = core := by
      have hdrop : Text.trimBy isSlash (slash :: core) = Text.trimBy isSlash core := by
        rw [Text.trimBy, List.dropWhile_cons_of_pos (by decide), Text.trimBy]
      rw [hdrop]
      refine Text.trimBy_eq_self (fun c hc => ?_) fun c hc => ?_
      · exact decide_eq_false fun hslash => hhead (hslash ▸ hc)
      · exact decide_eq_false fun hslash => hlast (hslash ▸ hc)
    simp only [normalPrefix, Option.bind_some, hcore]
    rw [if_neg (by simpa using hne)]

theorem checkPool_eq_ok {given s : ClientSettings} : checkPool given = .ok s ↔
    given = s ∧ 1 ≤ s.maxConnPerRoute ∧ s.maxConnPerRoute ≤ s.maxConnTotal := by
  simp only [checkPool]
  split
  · next hpositive =>
    refine iff_of_false nofun ?_
    rintro ⟨rfl, hroute, htotal⟩
    omega
  · next hpositive =>
    split
    · next hsmall =>
      refine iff_of_false nofun ?_
      rintro ⟨rfl, -, htotal⟩
      omega
    · next hlarge =>
      rw [Except.ok.injEq]
      refine ⟨?_, And.left⟩
      rintro rfl
      exact ⟨rfl, by omega, by omega⟩

/-! ### Settings that are accepted -/

structure IsNormal (s : ClientSettings) : Prop where
  hosts_ne_nil : s.hosts ≠ []
  hosts : ∀ host ∈ s.hosts, host.isBlank = false ∧ host.trim = host
  pathPrefix : ∀ lead, s.pathPrefix = some lead → IsPrefix lead
  timeout : ∀ x, s.socketTimeout = some x → x.isNegative = false ∧ x.isZero = false
  pool : 1 ≤ s.maxConnPerRoute ∧ s.maxConnPerRoute ≤ s.maxConnTotal

/-- Settings that can be written and checked again. -/
structure IsSettled (s : ClientSettings) : Prop extends IsNormal s where
  perRoute : Writable s.maxConnPerRoute
  total : Writable s.maxConnTotal
  headers : (s.defaultHeaders.map Prod.fst).Nodup
  paths : ∀ k, s.transport = .keystore k → k.caCert.Named ∧ k.clientCert.Named ∧ k.clientKey.Named

section Accepted

variable {source : Source} {fields : Fields Json} {dialect : Json.Dialect}

theorem path_eq_ok {v : Json} {p : Path} (h : path v = .ok p) : p.Named := by
  cases v with
  | str t =>
    cases h
    exact Path.ofText_named t
  | _ => cases h

theorem required_path_named {name : Text} {p : Path} (h : required fields name path = .ok p) : p.Named := by
  obtain ⟨v, -, hv⟩ := required_eq_ok.mp h
  exact path_eq_ok hv

theorem keystore_paths_named {v : Json} {k : Keystore} (h : Transport.check source v = .ok (.keystore k)) :
    k.caCert.Named ∧ k.clientCert.Named ∧ k.clientKey.Named := by
  cases v with
  | obj members =>
    simp only [Transport.check] at h
    split at h
    · next tag htag =>
      cases tag with
      | str t =>
        simp only [Transport.checkTagged] at h
        split at h
        · obtain ⟨_, -, hother⟩ := map_eq_ok.mp (within_eq_ok.mp h)
          cases hother
        split at h
        · obtain ⟨_, hk, hsame⟩ := map_eq_ok.mp (within_eq_ok.mp h)
          cases hsame
          obtain ⟨⟨_, ca, cert, key, verify⟩, hparts, rfl⟩ := map_eq_ok.mp hk
          simp only [both_eq_ok] at hparts
          obtain ⟨-, hca, hcert, hkey, -⟩ := hparts
          exact ⟨required_path_named hca, required_path_named hcert, required_path_named hkey⟩
        split at h
        · obtain ⟨_, -, hother⟩ := map_eq_ok.mp (within_eq_ok.mp h)
          cases hother
        · cases h
      | _ => cases h
    · cases h
  | _ => cases source <;> cases h

theorem limit_writable (hfields : ∀ f ∈ fields, Json.isPortable dialect f.2) {name : Text} {default n : Int}
    (hdefault : Writable default) (h : withDefault fields name default integer = .ok n) : Writable n := by
  rcases withDefault_eq_ok h with rfl | ⟨v, hv, hn⟩
  · exact hdefault
  · exact integer_writable (hfields _ (Fields.mem_of_get? hv)) hn

theorem hosts_normal {hosts : List Text} (h : required fields "hosts" (checkHosts source) = .ok hosts) :
    hosts ≠ [] ∧ ∀ host ∈ hosts, host.isBlank = false ∧ host.trim = host := by
  obtain ⟨v, -, hv⟩ := required_eq_ok.mp h
  obtain ⟨given, -, hgiven⟩ := bind_eq_ok.mp hv
  exact normalHosts_eq_ok hgiven

theorem timeout_normal {timeout : Option Binary64} (h : withDefault fields "socket_timeout" (some defaultTimeout)
    (checkTimeout source) = .ok timeout) : ∀ x, timeout = some x → x.isNegative = false ∧ x.isZero = false := by
  rcases withDefault_eq_ok h with rfl | ⟨v, -, hv⟩
  · intro x hx
    rw [← Option.some.inj hx]
    decide +kernel
  · obtain ⟨given, -, hgiven⟩ := bind_eq_ok.mp hv
    exact normalTimeout_eq_ok hgiven

theorem prefix_normal {lead : Option Text} (h : withDefault fields "path_prefix" none checkPrefix = .ok lead) :
    ∀ t, lead = some t → IsPrefix t := by
  rintro t rfl
  rcases withDefault_eq_ok h with hnone | ⟨v, -, hv⟩
  · cases hnone
  · obtain ⟨given, -, hgiven⟩ := map_eq_ok.mp hv
    exact normalPrefix_isPrefix hgiven

theorem headers_nodup {headers : Fields Text}
    (h : withDefault fields "default_headers" [] (objectOf source text) = .ok headers) :
    (headers.map Prod.fst).Nodup := by
  rcases withDefault_eq_ok h with rfl | ⟨v, -, hv⟩
  · exact List.nodup_nil
  · cases v with
    | obj members =>
      obtain ⟨checked, -, rfl⟩ := map_eq_ok.mp hv
      exact (Fields.ofList_spec checked).1
    | _ => cases hv

theorem transport_named {t : Transport}
    (h : withDefault fields "transport" .plain (Transport.check source) = .ok t) :
    ∀ k, t = .keystore k → k.caCert.Named ∧ k.clientCert.Named ∧ k.clientKey.Named := by
  rintro k rfl
  rcases withDefault_eq_ok h with hplain | ⟨v, -, hv⟩
  · cases hplain
  · exact keystore_paths_named hv

theorem check_isSettled {s : ClientSettings} (hfields : ∀ f ∈ fields, Json.isPortable dialect f.2)
    (h : check source fields = .ok s) : IsSettled s := by
  obtain ⟨⟨hosts, transport, strict, timeout, lead, perRoute, total, headers⟩, hparts, hpool⟩ := bind_eq_ok.mp h
  simp only [both_eq_ok] at hparts
  obtain ⟨hhosts, htransport, -, htimeout, hlead, hroute, htotal, hheaders⟩ := hparts
  obtain ⟨rfl, hbounds⟩ := checkPool_eq_ok.mp hpool
  exact {
    hosts_ne_nil := (hosts_normal hhosts).1
    hosts := (hosts_normal hhosts).2
    pathPrefix := prefix_normal hlead
    timeout := timeout_normal htimeout
    pool := hbounds
    perRoute := limit_writable hfields (writable_of_isInsideLong (by decide)) hroute
    total := limit_writable hfields (writable_of_isInsideLong (by decide)) htotal
    headers := headers_nodup hheaders
    paths := transport_named htransport }

end Accepted

end ClientSettings

end ClusterHarness
