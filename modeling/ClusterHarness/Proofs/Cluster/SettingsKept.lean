import ClusterHarness.Cluster.PersistentSettings
import ClusterHarness.Proofs.Http.Course
import ClusterHarness.Proofs.Http.Reply
import ClusterHarness.Proofs.Json.Fields

/-!
A cluster that keeps persistent settings: it answers with them, and a write overwrites them name by
name. Against such a cluster, entering a scope and leaving it always succeed.
-/

namespace ClusterHarness

namespace PersistentSettings

open Http ClusterHarness.Action Client

/-- What a name has after a write: null unsets it. -/
def overwritten (changes : Fields Json) (old : Option Json) (name : Text) : Option Json :=
  match Fields.get? name changes with
  | some .null => none
  | some v => some v
  | none => old

/-- Settings that can be written and read. -/
structure Carried (settings : Fields Json) : Prop where
  portable : Json.isPortable .document (.obj settings)
  shallow : Json.nesting (.obj settings) < 990

variable {σ : Type}

structure KeepsSettings (c : Client σ) (settings : σ → Fields Json) : Prop where
  carried : ∀ far, Carried (settings far)
  noNull : ∀ far, ∀ f ∈ settings far, f.2 ≠ .null
  reading : ∀ call far, call.method = ("GET" : Text) → c.Reaches endpoint call →
    call.params = readRequest.params → ∃ response far' fields,
      c.wire call far = (.response response, far') ∧ response.Gives (.obj fields) ∧
      (Fields.get? key fields).getD (.obj []) = .obj (settings far) ∧ settings far' = settings far
  writing : ∀ call far t changes, call.method = ("PUT" : Text) → c.Reaches endpoint call →
    call.body = some (.text t) → Json.read .document t = .ok (.obj [(key, .obj changes)]) →
    Carried changes → ∃ response far' fields,
      c.wire call far = (.response response, far') ∧ response.Gives (.obj fields) ∧
      ((Fields.get? "acknowledged" fields).getD .null).truthy = true ∧
      ∀ name, Fields.get? name (settings far') =
        overwritten changes (Fields.get? name (settings far)) name

/-- The values that the names of a scope have, null for those unset. -/
def previousOf (scope current : Fields Json) : Fields Json :=
  scope.map fun f => (f.1, (Fields.get? f.1 current).getD .null)

theorem names_previousOf (scope current : Fields Json) :
    (previousOf scope current).map Prod.fst = scope.map Prod.fst := by
  simp [previousOf]

theorem get?_previousOf (scope current : Fields Json) (name : Text) :
    Fields.get? name (previousOf scope current) =
      if name ∈ scope.map Prod.fst then some ((Fields.get? name current).getD .null) else none := by
  rw [previousOf, Fields.get?_map fun k _ => (Fields.get? k current).getD .null]
  cases hname : Fields.get? name scope with
  | none => exact (if_neg (Fields.get?_eq_none_iff.mp hname)).symm
  | some v => exact (if_pos (List.mem_map_of_mem (Fields.mem_of_get? hname))).symm

theorem Carried.nodup {settings : Fields Json} (h : Carried settings) :
    (settings.map Prod.fst).Nodup :=
  (Json.isPortable_obj.mp h.portable).1.resolve_left Bool.false_ne_true

theorem Carried.field {settings : Fields Json} (h : Carried settings) {f : Text × Json}
    (hf : f ∈ settings) : Json.Dialect.document.admits f.1 ∧ Json.isPortable .document f.2 ∧
      Json.nesting f.2 < 989 := by
  have hfields := (Json.isPortable_obj.mp h.portable).2
  have hshallow := Json.nestingFields_le.mp (Nat.le_of_lt_succ h.shallow)
  exact ⟨(hfields f hf).1, (hfields f hf).2, hshallow f hf⟩

theorem carried_of_fields {settings : Fields Json} (hnodup : (settings.map Prod.fst).Nodup)
    (h : ∀ f ∈ settings, Json.Dialect.document.admits f.1 ∧ Json.isPortable .document f.2 ∧
      Json.nesting f.2 < 989) : Carried settings where
  portable := Json.isPortable_obj.mpr ⟨.inr hnodup, fun f hf => ⟨(h f hf).1, (h f hf).2.1⟩⟩
  shallow := Nat.lt_succ_of_le (Json.nestingFields_le.mpr fun f hf => (h f hf).2.2)

theorem Carried.previousOf {scope current : Fields Json} (hscope : Carried scope)
    (hcurrent : Carried current) : Carried (previousOf scope current) := by
  refine carried_of_fields (by rw [names_previousOf]; exact hscope.nodup) fun f hf => ?_
  obtain ⟨g, hg, rfl⟩ := List.mem_map.mp hf
  refine ⟨(hscope.field hg).1, ?_⟩
  cases hget : Fields.get? g.1 current with
  | none => exact ⟨rfl, (by decide : Json.nesting .null < 989)⟩
  | some v => exact (hcurrent.field (Fields.mem_of_get? hget)).2

theorem Carried.wrapped {changes : Fields Json} (h : Carried changes) :
    Json.isPortable .document (.obj [(key, .obj changes)]) ∧
      Json.nesting (.obj [(key, .obj changes)]) ≤ 990 := by
  constructor
  · have hkey : Json.Dialect.document.admits key := by decide
    refine Json.isPortable_obj.mpr ⟨.inr (List.nodup_singleton key), fun f hf => ?_⟩
    rw [List.mem_singleton.mp hf]
    exact ⟨hkey, h.portable⟩
  · have hshallow := h.shallow
    simp only [Json.nesting, Json.nestingFields] at hshallow ⊢
    exact Nat.max_le.mpr ⟨hshallow, Nat.zero_le _⟩

theorem Carried.read_write {changes : Fields Json} (h : Carried changes) :
    Json.read .document (Json.render (.obj [(key, .obj changes)])) = .ok (.obj [(key, .obj changes)]) :=
  Json.read_render h.wrapped.1 h.wrapped.2

theorem overwritten_previousOf {scope current : Fields Json} (hnull : ∀ f ∈ current, f.2 ≠ .null)
    (old : Option Json) (name : Text) :
    overwritten (previousOf scope current) old name =
      if name ∈ scope.map Prod.fst then Fields.get? name current else old := by
  rw [overwritten, get?_previousOf]
  by_cases hname : name ∈ scope.map Prod.fst
  · rw [if_pos hname, if_pos hname]
    cases hget : Fields.get? name current with
    | none => rfl
    | some v =>
      have hv : v ≠ .null := hnull (name, v) (Fields.mem_of_get? hget)
      cases v with
      | null => exact absurd rfl hv
      | _ => rfl
  · rw [if_neg hname, if_neg hname]

section Runs

variable {c : Client σ} {settings : σ → Fields Json}

theorem read_run (hosts : 0 < c.baseUrls.length) (keeps : KeepsSettings c settings) (s : Session σ) :
    ∃ t, (read c).run s = (.ok (.obj (settings s.far)), t) ∧ settings t.far = settings s.far := by
  obtain ⟨response, far, fields, hwire, hgives, hcurrent, hsame⟩ := keeps.reading
    (c.hostCall "GET" endpoint readRequest (c.hostInUse s)) s.far rfl
    (c.reaches_hostCall hosts _ _ _ s) rfl
  refine ⟨c.answered s (c.hostCall "GET" endpoint readRequest (c.hostInUse s)) far, ?_, hsame⟩
  rw [read, run_bind, json_answered none hosts readRequest_consists.target hwire hgives]
  simp only [refuseShape, run_bind, run_lift, Json.members, mapError_ok, hcurrent]
  rfl

theorem write_run (hosts : 0 < c.baseUrls.length) (keeps : KeepsSettings c settings)
    {changes : Fields Json} (hchanges : Carried changes) (s : Session σ) :
    ∃ t, (write c (.obj changes)).run s = (.ok (), t) ∧ ∀ name, Fields.get? name (settings t.far) =
      overwritten changes (Fields.get? name (settings s.far)) name := by
  obtain ⟨response, far, fields, hwire, hgives, hacknowledged, hwritten⟩ := keeps.writing
    (c.hostCall "PUT" endpoint (writeRequest (.obj changes)) (c.hostInUse s)) s.far _ changes rfl
    (c.reaches_hostCall hosts _ _ _ s) rfl hchanges.read_write hchanges
  refine ⟨c.answered s (c.hostCall "PUT" endpoint (writeRequest (.obj changes)) (c.hostInUse s)) far, ?_,
    hwritten⟩
  rw [write, run_bind, json_answered none hosts (writeRequest_consists _).target hwire hgives]
  simp only [refuseShape, run_bind, run_lift, Json.member, Json.members, Except.map, mapError_ok,
    hacknowledged]
  rfl

theorem valuesOf_names {scope : Fields Json} (current : Fields Json) (seen : List SettingKey)
    (hnodup : (scope.map Prod.fst).Nodup) (hseen : ∀ f ∈ scope, SettingKey.text f.1 ∉ seen) :
    valuesOf (.obj current) seen (scope.map fun f => .str f.1) = .ok (previousOf scope current) := by
  induction scope generalizing seen with
  | nil => rfl
  | cons f scope ih =>
    obtain ⟨hf, hnodup⟩ := List.nodup_cons.mp hnodup
    have hrest := ih (.text f.1 :: seen) hnodup fun g hg hmem => by
      rcases List.mem_cons.mp hmem with hsame | hmem
      · rw [SettingKey.text.injEq] at hsame
        exact hf (hsame ▸ List.mem_map_of_mem hg)
      · exact hseen g (List.mem_cons_of_mem _ hg) hmem
    have hnew : seen.elem (.text f.1) = false := by
      rw [List.elem_eq_mem]
      exact decide_eq_false (hseen f List.mem_cons_self)
    simp only [List.map_cons, valuesOf, Json.members, SettingKey.of, bind, Except.bind, hrest, hnew]
    rfl

theorem enter_run (hosts : 0 < c.baseUrls.length) (keeps : KeepsSettings c settings)
    {scope : Fields Json} (hscope : Carried scope) (s : Session σ) :
    ∃ t, (enter c (.obj scope)).run s = (.ok (.obj (previousOf scope (settings s.far))), t) ∧
      ∀ name, Fields.get? name (settings t.far) =
        overwritten scope (Fields.get? name (settings s.far)) name := by
  obtain ⟨u, hread, hsame⟩ := read_run hosts keeps s
  obtain ⟨t, hwrite, hwritten⟩ := write_run hosts keeps hscope u
  have hvalues := valuesOf_names (settings s.far) [] hscope.nodup fun _ _ => List.not_mem_nil
  refine ⟨t, ?_, by rw [← hsame]; exact hwritten⟩
  rw [enter, run_bind, hread]
  simp only [refuseShape, run_bind, run_lift, Json.elements, mapError_ok, hvalues, hwrite]
  rfl

theorem leave_run (hosts : 0 < c.baseUrls.length) (keeps : KeepsSettings c settings)
    {scope : Fields Json} (hscope : Carried scope) (before : σ) (s : Session σ) :
    ∃ t, (leave c (.obj (previousOf scope (settings before)))).run s = (.ok (), t) ∧
      ∀ name, Fields.get? name (settings t.far) = if name ∈ scope.map Prod.fst
        then Fields.get? name (settings before) else Fields.get? name (settings s.far) := by
  obtain ⟨t, hwrite, hwritten⟩ := write_run hosts keeps (hscope.previousOf (keeps.carried before)) s
  exact ⟨t, hwrite, fun name => (hwritten name).trans (overwritten_previousOf (keeps.noNull before) _ name)⟩

end Runs

end PersistentSettings

end ClusterHarness
