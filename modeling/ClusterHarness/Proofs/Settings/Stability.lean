import ClusterHarness.Proofs.Json.RoundTrip
import ClusterHarness.Proofs.Json.SortedKeys
import ClusterHarness.Proofs.Number.Rounding
import ClusterHarness.Proofs.Settings.NormalForm

/-!
Settings that are accepted are stable: what is written for them is accepted again, as a value and as a text,
and gives the same settings.
-/

namespace ClusterHarness

open Validation Validated

/-! ### What is written -/

theorem Validation.dumpedName_of_scalars {t : Text} (h : t.Scalars) : dumpedName t = t := by
  have hself : t.flatMap (fun c => if c.isSurrogate then List.replicate 3 Utf8.replacement else [c]) =
      t.flatMap fun c => [c] :=
    List.flatMap_congr fun c hc => if_neg (by simp [h c hc])
  rw [dumpedName, hself, List.flatMap_singleton']

theorem Validation.dumpedFields_of_scalars {α : Type} {fields : Fields α} (h : ∀ f ∈ fields, Text.Scalars f.1)
    (hnodup : (fields.map Prod.fst).Nodup) : dumpedFields fields = fields := by
  have hself : dumpedFields fields = Fields.ofList (fields.map id) := congrArg Fields.ofList <|
    List.map_congr_left fun f hf => Prod.ext (dumpedName_of_scalars (h f hf)) rfl
  rw [hself, List.map_id, Fields.ofList_of_nodup hnodup]

namespace ClientSettings

/-- The members that are written for settings whose header names can be written as they are. -/
def members (s : ClientSettings) : Fields Json :=
  [("hosts", .arr (s.hosts.map .str)), ("transport", s.transport.toJson),
    ("strict_deprecation_mode", .bool s.strictDeprecationMode),
    ("socket_timeout", (s.socketTimeout.map Json.float).getD .null),
    ("path_prefix", nullable s.pathPrefix), ("max_conn_per_route", .int s.maxConnPerRoute),
    ("max_conn_total", .int s.maxConnTotal), ("default_headers", .obj (s.defaultHeaders.map Json.textMember))]

/-- No text of the settings holds a surrogate. -/
structure HasScalars (s : ClientSettings) : Prop where
  hosts : ∀ host ∈ s.hosts, host.Scalars
  pathPrefix : ∀ lead, s.pathPrefix = some lead → lead.Scalars
  headers : ∀ h ∈ s.defaultHeaders, Text.Scalars h.1 ∧ Text.Scalars h.2
  paths : ∀ k, s.transport = .keystore k →
    k.caCert.toText.Scalars ∧ k.clientCert.toText.Scalars ∧ k.clientKey.toText.Scalars

variable {s : ClientSettings}

theorem toJson_eq (hsettled : IsSettled s) (hscalars : HasScalars s) : s.toJson = .obj s.members := by
  rw [toJson, dumpedFields_of_scalars (fun f hf => (hscalars.headers f hf).1) hsettled.headers]
  rfl

theorem names_nodup (s : ClientSettings) : (s.members.map Prod.fst).Nodup := by
  simp only [members, List.map_cons, List.map_nil]
  decide +kernel

/-! ### Checking what is written -/

/-- The members of a transport, in whatever order. -/
def HoldsTransport (fields : Fields Json) : Transport → Prop
  | .plain => fields.get? "mode" = some (.str Transport.plainMode)
  | .keystore k => fields.get? "mode" = some (.str Transport.keystoreMode) ∧
      fields.get? "ca_cert" = some (.str k.caCert.toText) ∧
      fields.get? "client_cert" = some (.str k.clientCert.toText) ∧
      fields.get? "client_key" = some (.str k.clientKey.toText) ∧
      fields.get? "verify_hostname" = some (.bool k.verifyHostname)
  | .basicAuth _ => False

/-- The members of settings, in whatever order. -/
structure Holds (fields : Fields Json) (s : ClientSettings) : Prop where
  hosts : fields.get? "hosts" = some (.arr (s.hosts.map .str))
  transport : ∃ members, fields.get? "transport" = some (.obj members) ∧
    HoldsTransport (Fields.ofList members) s.transport
  strict : fields.get? "strict_deprecation_mode" = some (.bool s.strictDeprecationMode)
  timeout : fields.get? "socket_timeout" = some ((s.socketTimeout.map Json.float).getD .null)
  pathPrefix : fields.get? "path_prefix" = some (nullable s.pathPrefix)
  perRoute : fields.get? "max_conn_per_route" = some (.int s.maxConnPerRoute)
  total : fields.get? "max_conn_total" = some (.int s.maxConnTotal)
  headers : fields.get? "default_headers" = some (.obj (s.defaultHeaders.map Json.textMember))

section Checks

variable {source : Source} {fields : Fields Json}

theorem checkMode_of_get? {mode : Text} (hscalars : mode.Scalars)
    (h : fields.get? "mode" = some (.str mode)) : Transport.checkMode mode fields = .ok () := by
  refine withDefault_of_get? h ?_
  rw [word, readable, Text.scalars_iff.mp hscalars, if_neg Bool.false_ne_true, if_pos rfl]

theorem check_keystore {k : Keystore} (h : HoldsTransport fields (.keystore k))
    (hpaths : k.caCert.Named ∧ k.clientCert.Named ∧ k.clientKey.Named) :
    Transport.checkKeystore source fields = .ok k := by
  obtain ⟨hmode, hca, hcert, hkey, hverify⟩ := h
  have hpath : ∀ {name : Text} {p : Path}, p.Named → fields.get? name = some (.str p.toText) →
      required fields name path = .ok p := fun hp hget =>
    required_eq_ok.mpr ⟨_, hget, congrArg _ (Path.ofText_toText hp)⟩
  refine map_eq_ok.mpr ⟨((), k.caCert, k.clientCert, k.clientKey, k.verifyHostname), ?_, rfl⟩
  simp only [both_eq_ok]
  exact ⟨checkMode_of_get? (by decide +kernel) hmode, hpath hpaths.1 hca, hpath hpaths.2.1 hcert,
    hpath hpaths.2.2 hkey, withDefault_of_get? hverify rfl⟩

theorem check_transport {members : Fields Json} {t : Transport} (h : HoldsTransport (Fields.ofList members) t)
    (hpaths : ∀ k, t = .keystore k → k.caCert.Named ∧ k.clientCert.Named ∧ k.clientKey.Named) :
    Transport.check source (.obj members) = .ok t := by
  cases t with
  | plain =>
    have hplain : Transport.checkPlain source (Fields.ofList members) = .ok () :=
      checkMode_of_get? (by decide +kernel) h
    simp only [Transport.check, show Fields.get? "mode" (Fields.ofList members) = _ from h]
    rw [Transport.checkTagged, if_pos rfl, hplain]
    rfl
  | keystore k =>
    have hother : Transport.keystoreMode ≠ Transport.plainMode := by decide +kernel
    simp only [Transport.check, show Fields.get? "mode" (Fields.ofList members) = _ from h.1]
    rw [Transport.checkTagged, if_neg hother, if_pos rfl, check_keystore h (hpaths k rfl)]
    rfl
  | basicAuth c => exact h.elim

theorem check_of_holds (hsettled : IsSettled s) (h : Holds fields s) : check source fields = .ok s := by
  obtain ⟨members, htransport, hmembers⟩ := h.transport
  refine bind_eq_ok.mpr ⟨(s.hosts, s.transport, s.strictDeprecationMode, s.socketTimeout, s.pathPrefix,
    s.maxConnPerRoute, s.maxConnTotal, s.defaultHeaders), ?_, checkPool_eq_ok.mpr ⟨rfl, hsettled.pool⟩⟩
  simp only [both_eq_ok]
  refine ⟨required_eq_ok.mpr ⟨_, h.hosts, ?_⟩,
    withDefault_of_get? htransport (check_transport hmembers hsettled.paths), withDefault_of_get? h.strict rfl,
    withDefault_of_get? h.timeout ?_, withDefault_of_get? h.pathPrefix ?_, withDefault_of_get? h.perRoute rfl,
    withDefault_of_get? h.total rfl, withDefault_of_get? h.headers ?_⟩
  · exact bind_eq_ok.mpr ⟨s.hosts, each_map Json.str (fun _ => rfl) s.hosts 0,
      normalHosts_self hsettled.hosts_ne_nil hsettled.hosts⟩
  · refine bind_eq_ok.mpr ⟨s.socketTimeout, ?_, normalTimeout_self hsettled.timeout⟩
    cases s.socketTimeout <;> rfl
  · refine map_eq_ok.mpr ⟨s.pathPrefix, ?_, normalPrefix_self hsettled.pathPrefix⟩
    cases s.pathPrefix <;> rfl
  · exact map_eq_ok.mpr ⟨s.defaultHeaders, eachMember_map Json.str (fun _ => rfl) s.defaultHeaders,
      Fields.ofList_of_nodup hsettled.headers⟩

end Checks

/-! ### Looking up what is written -/

theorem get?_members {name : Text} {v : Json} (h : (name, v) ∈ s.members) : s.members.get? name = some v :=
  (Fields.get?_eq_some_iff (names_nodup s)).mpr h

/-- The members that are written for a transport without a password. -/
def transportMembers : Transport → Fields Json
  | .keystore k => [("mode", .str Transport.keystoreMode), ("ca_cert", .str k.caCert.toText),
      ("client_cert", .str k.clientCert.toText), ("client_key", .str k.clientKey.toText),
      ("verify_hostname", .bool k.verifyHostname)]
  | _ => [("mode", .str Transport.plainMode)]

theorem transport_toJson {t : Transport} (h : ∀ c, t ≠ .basicAuth c) : t.toJson = .obj (transportMembers t) := by
  cases t with
  | plain => rfl
  | keystore k => rfl
  | basicAuth c => exact absurd rfl (h c)

theorem transportNames_nodup (t : Transport) : ((transportMembers t).map Prod.fst).Nodup := by
  cases t with
  | keystore k =>
    simp only [transportMembers, List.map_cons, List.map_nil]
    decide +kernel
  | plain => exact List.nodup_singleton _
  | basicAuth c => exact List.nodup_singleton _

theorem holds_transportMembers {t : Transport} (h : ∀ c, t ≠ .basicAuth c) :
    HoldsTransport (transportMembers t) t := by
  have hget : ∀ {name : Text} {v : Json}, (name, v) ∈ transportMembers t →
      (transportMembers t).get? name = some v := (Fields.get?_eq_some_iff (transportNames_nodup t)).mpr
  cases t with
  | plain => exact hget (.head _)
  | keystore k =>
    exact ⟨hget (.head _), hget (.tail _ (.head _)), hget (.tail _ (.tail _ (.head _))),
      hget (.tail _ (.tail _ (.tail _ (.head _)))), hget (.tail _ (.tail _ (.tail _ (.tail _ (.head _)))))⟩
  | basicAuth c => exact absurd rfl (h c)

theorem HoldsTransport.sorted {fields : Fields Json} {t : Transport} (h : HoldsTransport fields t)
    (hnodup : (fields.map Prod.fst).Nodup) : HoldsTransport (Json.sortKeysFields fields) t := by
  cases t with
  | plain => exact (Fields.get?_sortKeysFields hnodup _).trans (congrArg _ h)
  | keystore k =>
    obtain ⟨hmode, hca, hcert, hkey, hverify⟩ := h
    simp only [HoldsTransport, Fields.get?_sortKeysFields hnodup, hmode, hca, hcert, hkey, hverify]
    exact ⟨rfl, rfl, rfl, rfl, rfl⟩
  | basicAuth c => exact h

theorem holds_members (h : ∀ c, s.transport ≠ .basicAuth c) : Holds s.members s where
  hosts := get?_members (.head _)
  transport := by
    refine ⟨transportMembers s.transport, ?_, ?_⟩
    · rw [← transport_toJson h]
      exact get?_members (.tail _ (.head _))
    · rw [Fields.ofList_of_nodup (transportNames_nodup _)]
      exact holds_transportMembers h
  strict := get?_members (.tail _ (.tail _ (.head _)))
  timeout := get?_members (.tail _ (.tail _ (.tail _ (.head _))))
  pathPrefix := get?_members (.tail _ (.tail _ (.tail _ (.tail _ (.head _)))))
  perRoute := get?_members (.tail _ (.tail _ (.tail _ (.tail _ (.tail _ (.head _))))))
  total := get?_members (.tail _ (.tail _ (.tail _ (.tail _ (.tail _ (.tail _ (.head _)))))))
  headers := get?_members (.tail _ (.tail _ (.tail _ (.tail _ (.tail _ (.tail _ (.tail _ (.head _))))))))

theorem holds_sorted (h : ∀ c, s.transport ≠ .basicAuth c) : ∃ headers : Fields Text,
    headers.Perm s.defaultHeaders ∧ Holds (Json.sortKeysFields s.members) { s with defaultHeaders := headers } := by
  obtain ⟨headers, hperm, hheaders⟩ := Json.sortKeysFields_texts s.defaultHeaders
  have hget := Fields.get?_sortKeysFields (names_nodup s)
  have hmembers := holds_members h
  refine ⟨headers, hperm, ?_, ?_, ?_, ?_, ?_, ?_, ?_, ?_⟩
  · rw [hget, hmembers.hosts, Option.map_some, Json.sortKeys, Json.sortKeysItems_eq, List.map_map]
    rfl
  · have hnodup := transportNames_nodup s.transport
    have hsorted := (Json.names_sortKeysFields (transportMembers s.transport)).nodup_iff.mpr hnodup
    refine ⟨Json.sortKeysFields (transportMembers s.transport), ?_, ?_⟩
    · rw [hget, get?_members (.tail _ (.head _)), transport_toJson h]
      rfl
    · rw [Fields.ofList_of_nodup hsorted]
      exact (holds_transportMembers h).sorted hnodup
  · rw [hget, hmembers.strict]
    rfl
  · rw [hget, hmembers.timeout]
    cases s.socketTimeout <;> rfl
  · rw [hget, hmembers.pathPrefix]
    cases s.pathPrefix <;> rfl
  · rw [hget, hmembers.perRoute]
    rfl
  · rw [hget, hmembers.total]
    rfl
  · rw [hget, hmembers.headers, Option.map_some, Json.sortKeys, hheaders]

/-! ### Reading what is written -/

theorem isPortable_texts {fields : Fields Text} (h : ∀ f ∈ fields, Text.Scalars f.1 ∧ Text.Scalars f.2) :
    Json.isPortable .settings (.obj (fields.map Json.textMember)) := by
  refine Json.isPortable_obj.mpr ⟨.inl rfl, fun f hf => ?_⟩
  obtain ⟨header, hheader, rfl⟩ := List.mem_map.mp hf
  exact ⟨Json.Dialect.admits_of_scalars _ (h header hheader).1, Json.Dialect.admits_of_scalars _ (h header hheader).2⟩

theorem portable_transport {t : Transport} (hpaths : ∀ k, t = .keystore k →
      k.caCert.toText.Scalars ∧ k.clientCert.toText.Scalars ∧ k.clientKey.toText.Scalars) :
    Json.isPortable .settings (.obj (transportMembers t)) := by
  cases t with
  | keystore k =>
    obtain ⟨hca, hcert, hkey⟩ := hpaths k rfl
    refine Json.isPortable_obj.mpr ⟨.inl rfl, ?_⟩
    simp only [transportMembers, List.forall_mem_cons]
    exact ⟨⟨by decide +kernel, by decide +kernel⟩, ⟨by decide +kernel, Json.Dialect.admits_of_scalars _ hca⟩,
      ⟨by decide +kernel, Json.Dialect.admits_of_scalars _ hcert⟩,
      ⟨by decide +kernel, Json.Dialect.admits_of_scalars _ hkey⟩, ⟨by decide +kernel, rfl⟩, nofun⟩
  | plain => decide +kernel
  | basicAuth c =>
    change Json.isPortable .settings (.obj (transportMembers .plain))
    decide +kernel

theorem portable_members (hsettled : IsSettled s) (hscalars : HasScalars s) (h : ∀ c, s.transport ≠ .basicAuth c) :
    Json.isPortable .settings (.obj s.members) := by
  refine Json.isPortable_obj.mpr ⟨.inl rfl, ?_⟩
  simp only [members, List.forall_mem_cons]
  refine ⟨⟨by decide +kernel, ?_⟩, ⟨by decide +kernel, ?_⟩, ⟨by decide +kernel, rfl⟩, ⟨by decide +kernel, ?_⟩,
    ⟨by decide +kernel, ?_⟩, ⟨by decide +kernel, decide_eq_true hsettled.perRoute⟩,
    ⟨by decide +kernel, decide_eq_true hsettled.total⟩,
    ⟨by decide +kernel, isPortable_texts hscalars.headers⟩, nofun⟩
  · refine Json.isPortableItems_iff.mpr fun v hv => ?_
    obtain ⟨host, hhost, rfl⟩ := List.mem_map.mp hv
    exact Json.Dialect.admits_of_scalars _ (hscalars.hosts host hhost)
  · rw [transport_toJson h]
    exact portable_transport hscalars.paths
  · cases s.socketTimeout <;> rfl
  · cases hlead : s.pathPrefix with
    | none => rfl
    | some lead => exact Json.Dialect.admits_of_scalars _ (hscalars.pathPrefix lead hlead)

theorem nesting_transport (t : Transport) : Json.nesting (.obj (transportMembers t)) < 2 := by
  cases t <;> exact Nat.one_lt_two

theorem nesting_members (h : ∀ c, s.transport ≠ .basicAuth c) : Json.nesting (.obj s.members) ≤ 2 := by
  rw [Json.nesting, Json.nestingFields_le]
  simp only [members, List.forall_mem_cons]
  refine ⟨?_, ?_, Nat.two_pos, ?_, ?_, Nat.two_pos, Nat.two_pos, ?_, fun _ hf => absurd hf List.not_mem_nil⟩
  · refine Nat.lt_succ_of_le (Json.nestingItems_le.mpr fun v hv => ?_)
    obtain ⟨host, -, rfl⟩ := List.mem_map.mp hv
    exact Nat.one_pos
  · rw [transport_toJson h]
    exact nesting_transport _
  · cases s.socketTimeout <;> exact Nat.two_pos
  · cases s.pathPrefix <;> exact Nat.two_pos
  · refine Nat.lt_succ_of_le (Json.nestingFields_le.mpr fun f hf => ?_)
    obtain ⟨header, -, rfl⟩ := List.mem_map.mp hf
    exact Nat.one_pos

theorem IsSettled.reordered {headers : Fields Text} (hsettled : IsSettled s) (hperm : headers.Perm s.defaultHeaders) :
    IsSettled { s with defaultHeaders := headers } where
  hosts_ne_nil := hsettled.hosts_ne_nil
  hosts := hsettled.hosts
  pathPrefix := hsettled.pathPrefix
  timeout := hsettled.timeout
  pool := hsettled.pool
  perRoute := hsettled.perRoute
  total := hsettled.total
  headers := (hperm.map Prod.fst).nodup_iff.mpr hsettled.headers
  paths := hsettled.paths

theorem ofValue_toJson (hsettled : IsSettled s) (hscalars : HasScalars s) (h : ∀ c, s.transport ≠ .basicAuth c) :
    ofValue check s.toJson = .ok s := by
  have hcheck : check .value s.members = .ok s := check_of_holds hsettled (holds_members h)
  rw [toJson_eq hsettled hscalars]
  exact mapError_eq_ok.mpr hcheck

theorem read_toText (hsettled : IsSettled s) (hscalars : HasScalars s) (h : ∀ c, s.transport ≠ .basicAuth c) :
    Json.read .settings (toText s.toJson) = .ok (.obj (Json.sortKeysFields s.members)) := by
  have hdepth : Json.nesting (.obj s.members) ≤ Json.Dialect.settings.maxDepth :=
    (nesting_members h).trans (by decide)
  rw [toText, toJson_eq hsettled hscalars]
  exact Json.read_render (Json.isPortable_sortKeys (portable_members hsettled hscalars h))
    (Json.nesting_sortKeys hdepth)

theorem ofText_toText (hsettled : IsSettled s) (hscalars : HasScalars s) (h : ∀ c, s.transport ≠ .basicAuth c) :
    ∃ headers : Fields Text, headers.Perm s.defaultHeaders ∧
      ofText check (toText s.toJson) = .ok { s with defaultHeaders := headers } := by
  obtain ⟨headers, hperm, hholds⟩ := holds_sorted h
  have hcheck : check .text (Json.sortKeysFields s.members) = .ok { s with defaultHeaders := headers } :=
    check_of_holds (hsettled.reordered hperm) hholds
  have hnodup : ((Json.sortKeysFields s.members).map Prod.fst).Nodup :=
    (Json.names_sortKeysFields s.members).nodup_iff.mpr (names_nodup s)
  refine ⟨headers, hperm, ?_⟩
  rw [ofText, read_toText hsettled hscalars h]
  simp only [Fields.ofList_of_nodup hnodup, hcheck]
  rfl

/-! ### Accepted settings -/

/-- Settings in normal form that are accepted again, as they are, when they are written as a value or as a text. A
text has the headers in the order of their names. -/
structure IsStable (s : ClientSettings) : Prop extends IsNormal s where
  positive : ∀ x, s.socketTimeout = some x → x.isNegative = false ∧ 0 < x.magnitude
  value : ofValue check s.toJson = .ok s
  text : ∃ headers : Fields Text, headers.Perm s.defaultHeaders ∧
    ofText check (toText s.toJson) = .ok { s with defaultHeaders := headers }

theorem ofValue_isSettled {v : Json} (hv : v.isPortable .document) (h : ofValue check v = .ok s) : IsSettled s := by
  unfold ofValue at h
  split at h
  · have hnone : ∀ f ∈ ([] : Fields Json), Json.isPortable .document f.2 := nofun
    exact check_isSettled hnone (mapError_eq_ok.mp h)
  · cases v with
    | obj fields => exact check_isSettled (fun f hf => ((Json.isPortable_obj.mp hv).2 f hf).2) (mapError_eq_ok.mp h)
    | _ => cases h

/-- Settings that a document is accepted as are in normal form, and come back from what they are written as. -/
theorem accepted_settings_are_stable {v : Json} (hv : v.isPortable .document) (h : ofValue check v = .ok s)
    (hfinite : ∀ x, s.socketTimeout = some x → x.isFinite) (hscalars : HasScalars s)
    (hopen : ∀ c, s.transport ≠ .basicAuth c) : IsStable s := by
  have hsettled := ofValue_isSettled hv h
  refine ⟨hsettled.toIsNormal, fun x hx => ?_, ofValue_toJson hsettled hscalars hopen,
    ofText_toText hsettled hscalars hopen⟩
  obtain ⟨hnegative, hzero⟩ := hsettled.timeout x hx
  exact ⟨hnegative, Binary64.magnitude_pos (hfinite x hx) hzero⟩

def looseDocument : Json :=
  .obj [("hosts", .arr [.str " a:9200 ", .str "  ", .str "b"]),
    ("transport", .obj [("client_key", .str "/certs//./key"), ("mode", .str "secured-keystore"),
      ("ca_cert", .str "//ca.pem"), ("client_cert", .str "."), ("verify_hostname", .str "off")]),
    ("socket_timeout", .str " 7 "), ("path_prefix", .str "//os/v1/"), ("max_conn_per_route", .str "+03"),
    ("default_headers", .obj [("X-Run", .str "7"), ("Accept", .str "*/*")])]

def tightSettings : ClientSettings :=
  ⟨["a:9200", "b"], .keystore ⟨.ofText "//ca.pem", .ofText ".", .ofText "/certs/key", false⟩, true,
    some (.ofRatio false 7 1), some (Text.ofString "/os/v1"), 3, 30, [("X-Run", "7"), ("Accept", "*/*")]⟩

theorem loose_document_is_tightened : ofValue check looseDocument = .ok tightSettings ∧ IsStable tightSettings := by
  have hportable : looseDocument.isPortable .document := by decide +kernel
  have haccepted : ofValue check looseDocument = .ok tightSettings := by decide +kernel
  have hfinite : ∀ x, tightSettings.socketTimeout = some x → x.isFinite := by
    intro x hx
    rw [← Option.some.inj hx]
    decide +kernel
  have hscalars : HasScalars tightSettings := by
    refine ⟨by decide +kernel, ?_, by decide +kernel, ?_⟩
    · rintro lead ⟨⟩
      decide +kernel
    · rintro k ⟨⟩
      decide +kernel
  exact ⟨haccepted, accepted_settings_are_stable hportable haccepted hfinite hscalars nofun⟩

end ClientSettings

end ClusterHarness
