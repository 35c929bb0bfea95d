import ClusterHarness.Proofs.Cluster.SettingsKept

/-!
Rolling settings back, however the cluster replies. The previous values of a scope are sent last on every
path on which its new values were acknowledged. A write that was not acknowledged may have been done all
the same, and nothing follows it.
-/

namespace ClusterHarness

open Http ClusterHarness.Action Client

namespace PersistentSettings

variable {σ α : Type} {c : Client σ} {s t : Session σ}

def Acknowledged : Except Failure Json → Prop
  | .ok v => ∃ w, v.member "acknowledged" = .ok w ∧ w.truthy = true
  | .error _ => False

/-- What a scope remembers of the settings in a reply. Only a scope of nothing does without them. -/
def Records (scope : Fields Json) (v : Json) (previous : Fields Json) : Prop :=
  ∃ fields current, v = .obj fields ∧
    (scope ≠ [] → (Fields.get? key fields).getD (.obj []) = .obj current) ∧
    previous = previousOf scope current

def readDeed (reply : Except Failure Json) : Deed := .json readRequest none reply

def writeDeed (settings : Fields Json) (reply : Except Failure Json) : Deed :=
  .json (writeRequest (.obj settings)) none reply

theorem write_course {settings : Fields Json} {r : Except Failure Unit}
    (h : (write c (.obj settings)).run s = (r, t)) :
    ∃ reply, Course c s [writeDeed settings reply] t ∧
      (Acknowledged reply ∧ r = .ok () ∨ ¬Acknowledged reply ∧ ∃ e, r = .error e) := by
  rcases run_bind_eq h with ⟨e, he, rfl⟩ | ⟨v, u, hv, hrest⟩
  · exact ⟨.error e, .ofJson he, .inr ⟨id, e, rfl⟩⟩
  refine ⟨.ok v, ?_⟩
  rcases lift_bind_eq hrest with ⟨e, he, rfl, rfl⟩ | ⟨w, hw, hrest⟩
  · refine ⟨.ofJson hv, .inr ⟨?_, e, rfl⟩⟩
    rintro ⟨w, hw, -⟩
    rw [hw] at he
    cases he
  have hmember : v.member "acknowledged" = .ok w := mapError_eq_ok.mp hw
  cases htruthy : w.truthy with
  | true =>
    rw [if_pos htruthy] at hrest
    cases hrest
    exact ⟨.ofJson hv, .inl ⟨⟨w, hmember, htruthy⟩, rfl⟩⟩
  | false =>
    rw [if_neg (by rw [htruthy]; exact Bool.false_ne_true)] at hrest
    cases hrest
    refine ⟨.ofJson hv, .inr ⟨?_, _, rfl⟩⟩
    rintro ⟨x, hx, htrue⟩
    rw [hmember, Except.ok.injEq] at hx
    rw [← hx, htruthy] at htrue
    cases htrue

theorem read_course {r : Except Failure Json} (h : (read c).run s = (r, t)) :
    ∃ reply, Course c s [readDeed reply] t ∧ ((∃ e, r = .error e) ∨ ∃ fields, reply = .ok (.obj fields) ∧
      r = .ok ((Fields.get? key fields).getD (.obj []))) := by
  rcases run_bind_eq h with ⟨e, he, rfl⟩ | ⟨v, u, hv, hrest⟩
  · exact ⟨.error e, .ofJson he, .inl ⟨e, rfl⟩⟩
  rcases lift_bind_eq hrest with ⟨e, -, rfl, rfl⟩ | ⟨fields, hfields, hrest⟩
  · exact ⟨.ok v, .ofJson hv, .inl ⟨e, rfl⟩⟩
  cases hrest
  refine ⟨.ok v, .ofJson hv, .inr ⟨fields, ?_, rfl⟩⟩
  cases v with
  | obj members =>
    cases hfields
    rfl
  | _ => cases hfields

theorem valuesOf_records {scope : Fields Json} (hscope : (scope.map Prod.fst).Nodup) {fields : Fields Json}
    {previous : Fields Json} (h : valuesOf ((Fields.get? key fields).getD (.obj [])) []
      (scope.map fun f => .str f.1) = .ok previous) : Records scope (.obj fields) previous := by
  cases hcurrent : (Fields.get? key fields).getD (.obj []) with
  | obj current =>
    rw [hcurrent, valuesOf_names current [] hscope fun _ _ => List.not_mem_nil] at h
    exact ⟨fields, current, rfl, fun _ => hcurrent, (Except.ok.inj h).symm⟩
  | _ =>
    cases scope with
    | nil =>
      cases h
      exact ⟨fields, [], rfl, absurd rfl, rfl⟩
    | cons f scope =>
      rw [hcurrent] at h
      cases h

theorem enter_course {scope : Fields Json} (hscope : (scope.map Prod.fst).Nodup) {r : Except Failure Json}
    (h : (enter c (.obj scope)).run s = (r, t)) :
    (∃ e reply, r = .error e ∧ Course c s [readDeed reply] t) ∨
      ∃ v previous reply, Records scope v previous ∧
        Course c s [readDeed (.ok v), writeDeed scope reply] t ∧
        (Acknowledged reply ∧ r = .ok (.obj previous) ∨ ¬Acknowledged reply ∧ ∃ e, r = .error e) := by
  rcases run_bind_eq h with ⟨e, he, rfl⟩ | ⟨current, u, hcurrent, hrest⟩
  · obtain ⟨reply, hcourse, -⟩ := read_course he
    exact .inl ⟨e, reply, rfl, hcourse⟩
  obtain ⟨reply, hread, ⟨e, he⟩ | ⟨fields, rfl, hfields⟩⟩ := read_course hcurrent
  · cases he
  rw [Except.ok.injEq] at hfields
  subst hfields
  have hnames : (refuseShape (Json.obj scope).elements : Action σ _) = pure (scope.map fun f => .str f.1) := rfl
  rw [hnames, pure_bind] at hrest
  rcases lift_bind_eq hrest with ⟨e, -, rfl, rfl⟩ | ⟨previous, hprevious, hrest⟩
  · exact .inl ⟨e, _, rfl, hread⟩
  refine .inr ⟨.obj fields, previous, ?_⟩
  have hrecords := valuesOf_records hscope (mapError_eq_ok.mp hprevious)
  rcases run_bind_eq hrest with ⟨e, he, rfl⟩ | ⟨_, w, hw, hpure⟩
  · obtain ⟨reply, hwrite, ⟨-, hok⟩ | ⟨hnot, -⟩⟩ := write_course he
    · cases hok
    · exact ⟨reply, hrecords, hread.append hwrite, .inr ⟨hnot, e, rfl⟩⟩
  · obtain ⟨reply, hwrite, ⟨hyes, -⟩ | ⟨-, e, he⟩⟩ := write_course hw
    · cases hpure
      exact ⟨reply, hrecords, hread.append hwrite, .inl ⟨hyes, rfl⟩⟩
    · cases he

/-- The ways through a scope of settings, from the session before it to the session after it. -/
inductive Passage (c : Client σ) (scope : Fields Json) (body : Json → Action σ α) (s : Session σ) :
    Except Failure α → Session σ → Prop
  | unread {e : Failure} {reply : Except Failure Json} {t : Session σ} :
      Course c s [readDeed reply] t → Passage c scope body s (.error e) t
  | unacknowledged {e : Failure} {v : Json} {previous : Fields Json} {reply : Except Failure Json}
      {t : Session σ} : Records scope v previous →
      Course c s [readDeed (.ok v), writeDeed scope reply] t → ¬Acknowledged reply →
        Passage c scope body s (.error e) t
  | rolledBack {v : Json} {previous : Fields Json} {reply answer : Except Failure Json}
      {r result : Except Failure α} {t u w : Session σ} : Records scope v previous →
      Course c s [readDeed (.ok v), writeDeed scope reply] t → Acknowledged reply →
      (body (.obj previous)).run t = (r, u) → Course c u [writeDeed previous answer] w →
      (Acknowledged answer ∧ result = r ∨ ¬Acknowledged answer ∧ ∃ e, result = .error e) →
        Passage c scope body s result w

/-- A scope of settings is left as it was entered once its settings were acknowledged, however its body ends. What
was not acknowledged is not rolled back. -/
theorem during_passage (c : Client σ) {scope : Fields Json} (hscope : (scope.map Prod.fst).Nodup)
    (body : Json → Action σ α) (s : Session σ) :
    Passage c scope body s ((during c (.obj scope) body).run s).1 ((during c (.obj scope) body).run s).2 := by
  rcases henter : (enter c (.obj scope)).run s with ⟨entered, t⟩
  rcases enter_course hscope henter with ⟨e, reply, rfl, hread⟩ |
    ⟨v, previous, reply, hrecords, hcourse, ⟨hyes, rfl⟩ | ⟨hnot, e, rfl⟩⟩
  · rw [during, run_bind, henter]
    exact .unread hread
  · rcases hbody : (body (.obj previous)).run t with ⟨r, u⟩
    rcases hleave : (leave c (.obj previous)).run u with ⟨left, w⟩
    have hrun : (during c (.obj scope) body).run s =
        (match left with | .ok () => r | .error e => .error e, w) := by
      rw [during, run_bind, henter]
      simp only [run, ensuring] at hbody hleave ⊢
      rw [hbody]
      simp only [hleave]
      cases left <;> rfl
    rw [hrun]
    obtain ⟨answer, hwrite, ⟨hanswer, rfl⟩ | ⟨hanswer, e, rfl⟩⟩ := write_course hleave
    · exact .rolledBack hrecords hcourse hyes hbody hwrite (.inl ⟨hanswer, rfl⟩)
    · exact .rolledBack hrecords hcourse hyes hbody hwrite (.inr ⟨hanswer, e, rfl⟩)
  · rw [during, run_bind, henter]
    exact .unacknowledged hrecords hcourse hnot

def oneSetting : Fields Json := [("a", .int 1)]

/-- The setting is reported with another value, and then the write is not acknowledged. -/
def hesitant : List Outcome :=
  [.response (.holding (.obj [(key, .obj [("a", .int 0)])])),
    .response (.holding (.obj [("acknowledged", .bool false)]))]

def hesitantRun : Except Failure Unit × Session (List Outcome) :=
  (during ⟨threeHosts, scripted⟩ (.obj oneSetting) fun _ => pure ()).run ⟨0, hesitant, []⟩

theorem during_passage_one_setting :
    (oneSetting.map Prod.fst).Nodup ∧
      Passage ⟨threeHosts, scripted⟩ oneSetting (fun _ => pure ()) ⟨0, hesitant, []⟩ hesitantRun.1
        hesitantRun.2 :=
  ⟨by decide, during_passage _ (by decide) _ _⟩

/-- A write that was not acknowledged is the last one. -/
theorem unacknowledged_settings_stay :
    hesitantRun.1.isOk = false ∧
      (callsOf hesitantRun.2.trace).map (fun call => (call.method, call.body)) =
        [(("GET" : Text), none),
          ("PUT", some (Body.text (Json.obj [(key, .obj oneSetting)]).render))] := by
  decide +kernel

end PersistentSettings

end ClusterHarness
