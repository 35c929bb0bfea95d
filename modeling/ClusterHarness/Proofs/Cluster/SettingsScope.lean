import ClusterHarness.Proofs.Cluster.SettingsKept
import ClusterHarness.Suite

/-!
Scopes of cluster settings, nested in any way around anything that may happen in them. Whenever one is
left, its settings are what they were before it, and all others are as its body left them.
-/

namespace ClusterHarness

open Http ClusterHarness.Action PersistentSettings

namespace Scenario

variable {σ : Type}

/-- The body of a scope as an action: its steps, and what it raises after them. -/
def scopeBody (c : Client σ) (files : FileTree) (body : List Step) (raises : Option Text) :
    Action σ Unit := fun s =>
  let (reports, s) := runBody c files body s
  (bodyFailure reports raises, s)

/-- A step that is a scope runs its body during the settings. -/
theorem runStep_scope (c : Client σ) (files : FileTree) (settings : Json) (body : List Step)
    (raises : Option Text) (s : Session σ) :
    ((runStep c files (.scope settings body raises) s).1.result,
      (runStep c files (.scope settings body raises) s).2) =
    (((during c settings fun _ => scopeBody c files body raises).run s).1.map fun _ => Answer.nothing,
      ((during c settings fun _ => scopeBody c files body raises).run s).2) := by
  rw [runStep, during, run_bind]
  rcases (PersistentSettings.enter c settings).run s with ⟨e | previous, t⟩
  · rfl
  · rfl

end Scenario

/-- The ways to open a scope: with settings of its own, or without fault tolerance, by itself or as a
fixture of a test or of a suite. -/
inductive Scope where
  | settings (fields : Fields Json) (carried : Carried fields)
  | faultTolerance
  | testFixture
  | suiteFixture

namespace Scope

def noFaultTolerance : Fields Json := [(maxRetrySetting, .int 100000), (backoffSetting, .int 0)]

def fields : Scope → Fields Json
  | settings fields _ => fields
  | _ => noFaultTolerance

def names (scope : Scope) : List Text := scope.fields.map Prod.fst

theorem noFaultTolerance_carried : Carried noFaultTolerance := ⟨by decide, by decide⟩

theorem fields_carried : ∀ scope : Scope, Carried scope.fields
  | settings _ carried => carried
  | faultTolerance | testFixture | suiteFixture => noFaultTolerance_carried

variable {σ α : Type}

def enter (c : Client σ) : Scope → Action σ Json
  | settings fields _ => PersistentSettings.enter c (.obj fields)
  | faultTolerance => PersistentSettings.enter c PersistentSettings.noFaultTolerance
  | testFixture => SuiteFixture.setup c .faultToleranceDisabled
  | suiteFixture => SuiteFixture.setup c .suiteFaultToleranceDisabled

def leave (c : Client σ) (previous : Json) : Scope → Action σ Unit
  | settings _ _ | faultTolerance => PersistentSettings.leave c previous
  | testFixture => SuiteFixture.teardown c previous .faultToleranceDisabled
  | suiteFixture => SuiteFixture.teardown c previous .suiteFaultToleranceDisabled

def around (c : Client σ) (scope : Scope) (body : Json → Action σ α) : Action σ α := do
  let previous ← scope.enter c
  (body previous).ensuring (scope.leave c previous)

theorem around_eq_during (c : Client σ) (scope : Scope) (body : Json → Action σ α) :
    scope.around c body = during c (.obj scope.fields) body := by
  cases scope <;> rfl

theorem enter_eq (c : Client σ) (scope : Scope) :
    scope.enter c = PersistentSettings.enter c (.obj scope.fields) := by
  cases scope <;> rfl

end Scope

/-- What a caller does: actions and scopes, one after another, the next depending on how the last one
ended. A failure goes on as the routine says, and so may be caught. -/
inductive Routine (σ : Type) : Type 1 where
  | done (result : Except Failure Json)
  | act {α : Type} (a : Action σ α) (next : Except Failure α → Routine σ)
  | within (scope : Scope) (body : Json → Routine σ) (next : Except Failure Json → Routine σ)

/-- One time that a scope was opened: the session before it, what entering ended with, what the body
ended with, and what the scope ended with. -/
structure Visit (σ : Type) where
  scope : Scope
  before : Session σ
  opened : Except Failure Json × Session σ
  left : Except Failure Json × Session σ
  closed : Except Failure Json × Session σ

namespace Routine

variable {σ : Type}

def run (c : Client σ) : Routine σ → Action σ Json
  | done result => lift result
  | act a next => fun s =>
    let (result, s) := a.run s
    (next result).run c s
  | within scope body next => fun s =>
    let (result, s) := (scope.around c fun previous => (body previous).run c).run s
    (next result).run c s

/-- The scopes that are opened while a routine runs, the inner ones first. -/
def visits (c : Client σ) : Routine σ → Session σ → List (Visit σ)
  | done _, _ => []
  | act a next, s => (next (a.run s).1).visits c (a.run s).2
  | within scope body next, s =>
    let opened := (scope.enter c).run s
    let closed := (scope.around c fun previous => (body previous).run c).run s
    let after := (next closed.1).visits c closed.2
    match opened with
    | (.ok previous, t) =>
      (body previous).visits c t ++ ⟨scope, s, opened, ((body previous).run c).run t, closed⟩ :: after
    | (.error e, t) => ⟨scope, s, opened, (.error e, t), closed⟩ :: after

end Routine

/-- What a scope promises, as the cluster's settings tell. -/
structure Visit.Restores {σ : Type} (settings : σ → Fields Json) (v : Visit σ) : Prop where
  yielded : v.opened.1 = .ok (.obj (previousOf v.scope.fields (settings v.before.far)))
  applied : ∀ name, Fields.get? name (settings v.opened.2.far) =
    overwritten v.scope.fields (Fields.get? name (settings v.before.far)) name
  restored : ∀ name ∈ v.scope.names,
    Fields.get? name (settings v.closed.2.far) = Fields.get? name (settings v.before.far)
  kept : ∀ name ∉ v.scope.names,
    Fields.get? name (settings v.closed.2.far) = Fields.get? name (settings v.left.2.far)
  passed : v.closed.1 = v.left.1

section Restores

variable {σ : Type} {c : Client σ} {settings : σ → Fields Json}

theorem run_ensuring {body : Action σ Json} {last : Action σ Unit} {s t u : Session σ}
    {r : Except Failure Json} (hbody : body.run s = (r, t)) (hlast : last.run t = (.ok (), u)) :
    (body.ensuring last).run s = (r, u) := by
  unfold run at hbody hlast
  simp only [run, ensuring, hbody, hlast]

theorem scope_restores (hosts : 0 < c.baseUrls.length) (keeps : KeepsSettings c settings) (scope : Scope)
    (body : Json → Action σ Json) (s : Session σ) :
    ∃ previous t, (scope.enter c).run s = (.ok previous, t) ∧
      Visit.Restores settings
        ⟨scope, s, (.ok previous, t), (body previous).run t, (scope.around c body).run s⟩ := by
  obtain ⟨t, henter, happlied⟩ := enter_run hosts keeps scope.fields_carried s
  rcases hbody : (body (.obj (previousOf scope.fields (settings s.far)))).run t with ⟨r, u⟩
  obtain ⟨w, hleave, hleft⟩ := leave_run hosts keeps scope.fields_carried s.far u
  have haround : (scope.around c body).run s = (r, w) := by
    rw [Scope.around_eq_during, during, run_bind, henter]
    exact run_ensuring hbody hleave
  refine ⟨_, t, by rw [Scope.enter_eq, henter], ?_⟩
  rw [haround, hbody]
  exact {
    yielded := rfl
    applied := happlied
    restored := fun name hname => (hleft name).trans (if_pos hname)
    kept := fun name hname => (hleft name).trans (if_neg hname)
    passed := rfl }

/-- However scopes are nested in a routine and whatever else it does, each scope restores its settings,
leaves the others alone and passes on what its body ended with. -/
theorem routine_restores (hosts : 0 < c.baseUrls.length) (keeps : KeepsSettings c settings)
    (routine : Routine σ) (s : Session σ) : ∀ v ∈ routine.visits c s, v.Restores settings := by
  -- a scope's own promise takes its body as any action, so the induction is only for the visits inside
  induction routine generalizing s with
  | done result => simp only [Routine.visits, List.not_mem_nil, false_implies, implies_true]
  | act a next ih => exact ih _ _
  | within scope body next ihbody ihnext =>
    obtain ⟨previous, t, henter, hrestores⟩ :=
      scope_restores hosts keeps scope (fun previous => (body previous).run c) s
    intro v hv
    simp only [Routine.visits, henter, List.mem_append, List.mem_cons] at hv
    rcases hv with hv | hv | hv
    · exact ihbody previous t v hv
    · rw [hv]
      exact hrestores
    · exact ihnext _ _ v hv

end Restores

/-! ### A cluster that keeps settings -/

/-- Persistent settings as a cluster holds them. -/
structure SettingsStore where
  fields : Fields Json
  carried : Carried fields
  noNull : ∀ f ∈ fields, f.2 ≠ .null

namespace SettingsStore

def isNull : Json → Bool
  | .null => true
  | _ => false

theorem isNull_iff {v : Json} : isNull v ↔ v = .null := by
  cases v <;> simp [isNull]

def isOther (changes : Fields Json) (f : Text × Json) : Bool := (Fields.get? f.1 changes).isNone

theorem isOther_iff {changes : Fields Json} {f : Text × Json} :
    isOther changes f ↔ f.1 ∉ changes.map Prod.fst := by
  rw [isOther, Option.isNone_iff_eq_none, Fields.get?_eq_none_iff]

def merged (changes fields : Fields Json) : Fields Json :=
  fields.filter (isOther changes) ++ changes.filter fun f => !isNull f.2

theorem mem_merged {changes fields : Fields Json} {f : Text × Json} :
    f ∈ merged changes fields ↔
      f ∈ fields ∧ f.1 ∉ changes.map Prod.fst ∨ f ∈ changes ∧ f.2 ≠ .null := by
  rw [merged, List.mem_append, List.mem_filter, List.mem_filter, isOther_iff,
    Bool.not_eq_true', ← Bool.not_eq_true, isNull_iff]

theorem merged_nodup {changes fields : Fields Json} (hchanges : (changes.map Prod.fst).Nodup)
    (hfields : (fields.map Prod.fst).Nodup) : ((merged changes fields).map Prod.fst).Nodup := by
  rw [merged, List.map_append, List.nodup_append]
  refine ⟨(List.filter_sublist.map _).nodup hfields, (List.filter_sublist.map _).nodup hchanges, ?_⟩
  intro name hname other hother hsame
  obtain ⟨f, hf, rfl⟩ := List.mem_map.mp hname
  obtain ⟨g, hg, rfl⟩ := List.mem_map.mp hother
  refine isOther_iff.mp (List.mem_filter.mp hf).2 ?_
  rw [hsame]
  exact List.mem_map_of_mem (List.mem_filter.mp hg).1

def merge (store : SettingsStore) (changes : Fields Json) (h : Carried changes) : SettingsStore where
  fields := merged changes store.fields
  carried := by
    refine carried_of_fields (merged_nodup h.nodup store.carried.nodup) fun f hf => ?_
    rcases mem_merged.mp hf with ⟨hf, -⟩ | ⟨hf, -⟩
    · exact store.carried.field hf
    · exact h.field hf
  noNull f hf := by
    rcases mem_merged.mp hf with ⟨hf, -⟩ | ⟨-, hnull⟩
    · exact store.noNull f hf
    · exact hnull

theorem get?_merge (store : SettingsStore) {changes : Fields Json} (h : Carried changes) (name : Text) :
    Fields.get? name (store.merge changes h).fields =
      overwritten changes (Fields.get? name store.fields) name := by
  ext v
  change Fields.get? name (merged changes store.fields) = some v ↔ _
  rw [Fields.get?_eq_some_iff (merged_nodup h.nodup store.carried.nodup), mem_merged, overwritten,
    ← Fields.get?_eq_some_iff h.nodup, ← Fields.get?_eq_some_iff store.carried.nodup]
  cases hget : Fields.get? name changes with
  | none =>
    have hnot : name ∉ changes.map Prod.fst := Fields.get?_eq_none_iff.mp hget
    simp [hnot]
  | some w =>
    have hmem : name ∈ changes.map Prod.fst := List.mem_map_of_mem (Fields.mem_of_get? hget)
    cases w <;> simp [hmem] <;> rintro rfl <;> simp

def acknowledgement : Fields Json := [("acknowledged", .bool true)]

/-- Answers with the settings, or writes those of a body that can be read. -/
def wire (call : Call) (store : SettingsStore) : Outcome × SettingsStore :=
  if call.method = ("GET" : Text) then
    (.response (.holding (.obj [(key, .obj store.fields)])), store)
  else
    match call.body with
    | some (.text t) =>
      match Json.read .document t with
      | .ok (.obj [(_, .obj changes)]) =>
        if h : Json.isPortable .document (.obj changes) ∧ Json.nesting (.obj changes) < 990 then
          (.response (.holding (.obj acknowledgement)), store.merge changes ⟨h.1, h.2⟩)
        else (.fault .silence "settings too large", store)
      | _ => (.fault .silence "no settings", store)
    | _ => (.fault .silence "no settings", store)

theorem wire_keepsSettings (settings : ClientSettings) : KeepsSettings ⟨settings, wire⟩ fields where
  carried store := store.carried
  noNull store := store.noNull
  reading call store hmethod _ _ := by
    refine ⟨_, store, _, if_pos hmethod, Response.holding_gives store.carried.wrapped.1
      store.carried.wrapped.2, rfl, rfl⟩
  writing call store t changes hmethod _ hbody hread hcarried := by
    have hget : call.method ≠ ("GET" : Text) := by
      rw [hmethod]
      decide
    refine ⟨_, store.merge changes hcarried, acknowledgement, ?_, Response.holding_gives (by decide) (by decide),
      by decide, store.get?_merge hcarried⟩
    simp only [wire, if_neg hget, hbody, hread]
    rw [dif_pos ⟨hcarried.portable, hcarried.shallow⟩]

def client : Client SettingsStore := ⟨threeHosts, wire⟩

def initial : SettingsStore := ⟨[("a", .int 0), ("b", .str "on")], ⟨by decide, by decide⟩, by simp⟩

/-- Two scopes with a name in common; the inner body writes that name and raises. -/
def overlapping : Routine SettingsStore :=
  .within (.settings [("a", .int 1), ("b", .null)] ⟨by decide, by decide⟩)
    (fun _ => .within (.settings [("b", .str "off"), ("c", .bool true)] ⟨by decide, by decide⟩)
      (fun _ => .act (update client "b" (.int 2) defaultSettle) fun _ => .done (.error (.raised "stop")))
      .done)
    .done

end SettingsStore

open SettingsStore in
theorem overlapping_restores :
    0 < client.baseUrls.length ∧ KeepsSettings client fields ∧
      ∀ v ∈ overlapping.visits client ⟨0, initial, []⟩, v.Restores fields :=
  ⟨by decide, wire_keepsSettings threeHosts,
    routine_restores (by decide) (wire_keepsSettings threeHosts) overlapping ⟨0, initial, []⟩⟩

end ClusterHarness
