import ClusterHarness.Proofs.Http.Lockstep
import ClusterHarness.Proofs.Http.Refusal

/-!
Deprecation warnings. In strict mode a response with warnings is an error that carries them; in lenient
mode it is what it would be without them, and is logged. Nothing else hangs on warnings, and which mode a
request is made in is its own affair.
-/

namespace ClusterHarness

open Http ClusterHarness.Action Client

variable {σ : Type}

namespace Http

/-- The values of the headers of a name in whatever letter case, in the order of the headers. -/
inductive Lists (name : Text) : Fields Text → List Text → Prop
  | nil : Lists name [] []
  | value {key value : Text} {headers : Fields Text} {values : List Text} :
      key.lowerCase = name.lowerCase → Lists name headers values →
        Lists name ((key, value) :: headers) (value :: values)
  | other {key value : Text} {headers : Fields Text} {values : List Text} :
      key.lowerCase ≠ name.lowerCase → Lists name headers values → Lists name ((key, value) :: headers) values

theorem lists_iff {name : Text} {headers : Fields Text} {values : List Text} : Lists name headers values ↔
    values = (headers.filter fun h => Text.sameName h.1 name).map Prod.snd := by
  constructor
  · intro h
    induction h with
    | nil => rfl
    | value hname _ ih =>
      have hsame := Text.sameName_iff.mpr hname
      rw [List.filter_cons, if_pos hsame, List.map_cons, ih]
    | other hname _ ih =>
      have hother := mt Text.sameName_iff.mp hname
      rw [List.filter_cons, if_neg hother, ih]
  · rintro rfl
    induction headers with
    | nil => exact .nil
    | cons header headers ih =>
      rw [List.filter_cons]
      split
      · next hsame => exact .value (Text.sameName_iff.mp hsame) ih
      · next hother => exact .other (mt Text.sameName_iff.mpr hother) ih

namespace Response

/-- The warnings of a response are the values of its `Warning` headers. Where only joined values are offered
they are one warning, or none if nothing is in it. -/
inductive Warns (r : Response) : List Text → Prop
  | each {values : List Text} : r.joinedHeaders = false → Lists "Warning" r.headers values → r.Warns values
  | joined {values : List Text} : r.joinedHeaders = true → Lists "Warning" r.headers values →
      Text.join ", " values ≠ [] → r.Warns [Text.join ", " values]
  | blank {values : List Text} : r.joinedHeaders = true → Lists "Warning" r.headers values →
      Text.join ", " values = [] → r.Warns []

theorem warns_warnings (r : Response) : r.Warns r.warnings := by
  have hlists : Lists "Warning" r.headers (r.headerValues warningHeader) := lists_iff.mpr rfl
  simp only [warnings]
  split
  · next hjoined =>
    split
    · next hblank => exact .blank hjoined hlists (List.isEmpty_iff.mp hblank)
    · next htext => exact .joined hjoined hlists (mt List.isEmpty_iff.mpr htext)
  · next hjoined => exact .each (eq_false_of_ne_true hjoined) hlists

theorem Warns.eq_warnings {r : Response} {W : List Text} (h : r.Warns W) : W = r.warnings := by
  cases h with
  | each hjoined hlists =>
    obtain rfl := lists_iff.mp hlists
    rw [warnings, hjoined]
    rfl
  | joined hjoined hlists htext =>
    obtain rfl := lists_iff.mp hlists
    rw [warnings, hjoined]
    exact (if_neg (mt List.isEmpty_iff.mp htext)).symm
  | blank hjoined hlists hblank =>
    obtain rfl := lists_iff.mp hlists
    rw [warnings, hjoined]
    exact (if_pos (List.isEmpty_iff.mpr hblank)).symm

end Response

end Http

namespace Http.Response

def unwarned (r : Response) : Response :=
  { r with headers := r.headers.filter fun h => !Text.sameName h.1 warningHeader }

variable (r : Response)

@[simp] theorem unwarned_json : r.unwarned.json = r.json := rfl

@[simp] theorem unwarned_isRefusal : r.unwarned.IsRefusal ↔ r.IsRefusal := Iff.rfl

@[simp] theorem warnings_unwarned : r.unwarned.warnings = [] := by
  have hnone : r.unwarned.headerValues warningHeader = [] := by
    rw [headerValues, unwarned, List.filter_filter, List.map_eq_nil_iff, List.filter_eq_nil_iff]
    simp
  rw [warnings, hnone]
  split
  · rfl
  · rfl

end Http.Response

/-- The answer whose response, if that is what it is, has no warnings. -/
def Answer.unwarned : Answer → Answer
  | .response r => .response r.unwarned
  | answer => answer

/-- The client of a far side that never warns. -/
def Client.unwarned (c : Client σ) : Client σ := c.revised Response.unwarned

/-- What is recorded of the warnings of an accepted response. -/
def warningRecords (method path : Text) (warnings : List Text) : List Event :=
  if warnings.isEmpty then []
  else [.log .warning (method ++ " /" ++ path ++ " returned warnings: "
    ++ (Json.arr (warnings.map .str)).literal)]

namespace Inquiry

/-- The request with no word on whether warnings are errors. -/
def unruled (q : Inquiry) : Inquiry := { q with strict := none }

def accept (q : Inquiry) (r : Response) : Except Failure Answer :=
  match q.form with
  | .status => .ok (.status r.status)
  | .response => .ok (.response r)
  | .json => (r.json.mapError .ofBody).map .document

theorem accept_unwarned (q : Inquiry) (r : Response) :
    q.accept r.unwarned = (q.accept r).map Answer.unwarned := by
  obtain ⟨request, form, strict⟩ := q
  cases form with
  | status => rfl
  | response => rfl
  | json =>
    unfold accept
    rw [Response.unwarned_json]
    cases r.json <;> rfl

variable {c : Client σ} {q : Inquiry} {r : Response} {s t : Session σ} {method path : Text}

theorem conclude_status (c : Client σ) (hform : q.form = .status) (r : Response) (s : Session σ) :
    (q.conclude c r).run s = (.ok (.status r.status), s) := by
  rw [conclude, hform]
  rfl

theorem conclude_checked (hform : q.form ≠ .status)
    (h : (c.check q.request q.strict r).run s = (.ok (), t)) : (q.conclude c r).run s = (q.accept r, t) := by
  obtain ⟨request, form, strict⟩ := q
  cases form with
  | status => exact absurd rfl hform
  | response => exact run_bind_ok h _
  | json =>
    refine (run_bind_ok h _).trans ?_
    unfold accept
    cases r.json <;> rfl

theorem conclude_strict (hform : q.form ≠ .status) (hpassed : ¬r.IsRefusal) (hwarned : r.warnings ≠ [])
    (hstrict : c.isStrict q.strict = true) (s : Session σ) :
    (q.conclude c r).run s = (.error (.deprecation r.warnings (some r.status)), s) := by
  have hcheck : c.check q.request q.strict r = fail (.deprecation r.warnings (some r.status)) := by
    rw [check, Response.isOk_eq_true.mpr hpassed, if_neg (by decide),
      if_neg (mt List.isEmpty_iff.mp hwarned), if_pos hstrict]
  obtain ⟨request, form, strict⟩ := q
  cases form with
  | status => exact absurd rfl hform
  | response => rw [conclude, hcheck]; rfl
  | json => rw [conclude, hcheck]; rfl

theorem conclude_unwarned (hform : q.form ≠ .status) (hpassed : ¬r.IsRefusal) (hnone : r.warnings = [])
    (s : Session σ) : (q.conclude c r).run s = (q.accept r, s) := by
  refine conclude_checked hform ?_
  rw [check, Response.isOk_eq_true.mpr hpassed, if_neg (by decide), if_pos (List.isEmpty_iff.mpr hnone)]
  rfl

theorem conclude_lenient (hform : q.form ≠ .status) (hpassed : ¬r.IsRefusal)
    (hlenient : r.warnings ≠ [] → c.isStrict q.strict = false)
    (htarget : target q.request = .ok (method, path)) (s : Session σ) :
    (q.conclude c r).run s =
      (q.accept r, { s with trace := s.trace ++ warningRecords method path r.warnings }) := by
  by_cases hwarned : r.warnings = []
  · rw [conclude_unwarned hform hpassed hwarned, hwarned, warningRecords, List.isEmpty_nil, if_pos rfl,
      List.append_nil]
  · have hmany : ¬r.warnings.isEmpty = true := mt List.isEmpty_iff.mp hwarned
    refine conclude_checked hform ?_
    rw [check, Response.isOk_eq_true.mpr hpassed, if_neg (by decide), if_neg hmany, hlenient hwarned,
      if_neg (by decide), htarget, warningRecords, if_neg hmany]
    rfl

end Inquiry

/-! ### Turns of a run -/

/-- One request of a run, between the sessions before and after it. -/
structure Turn (σ : Type) where
  before : Session σ
  inquiry : Inquiry
  result : Except Failure Answer
  after : Session σ

namespace Inquiry

def turn (c : Client σ) (q : Inquiry) (s : Session σ) : Turn σ :=
  ⟨s, q, ((q.ask c).run s).1, ((q.ask c).run s).2⟩

def turns (c : Client σ) : List Inquiry → Session σ → List (Turn σ)
  | [], _ => []
  | q :: qs, s => q.turn c s :: turns c qs (q.turn c s).after

theorem turns_results (c : Client σ) (qs : List Inquiry) (s : Session σ) :
    (turns c qs s).map Turn.result = (askAll c qs s).1 := by
  induction qs generalizing s with
  | nil => rfl
  | cons q qs ih => rw [turns, List.map_cons, ih]; rfl

end Inquiry

namespace Turn

def Receives (c : Client σ) (a : Turn σ) (r : Response) : Prop :=
  ∃ t, (c.send a.inquiry.request).run a.before = (.ok r, t)

def Adds (more : List Event) (a b : Turn σ) : Prop :=
  ClusterHarness.Adds more a.before a.after b.before b.after

end Turn

/-- How a turn compares with the same one at a far side that never warns. A response that is not refused,
such as a success, is in strict mode an error with its warnings, and is otherwise answered with what it
would be answered with if it did not warn, but for a record. -/
structure HeedsWarnings (c : Client σ) (a b : Turn σ) : Prop where
  inStep : InStep a.after b.after
  received : ∀ r, a.Receives c r →
    (∃ W, r.Warns W) ∧ b.Receives c.unwarned r.unwarned ∧ r.unwarned.Warns []
  unanswered : (∀ r, ¬a.Receives c r) → b.result = a.result ∧ a.Adds [] b
  unheeded : ∀ r, a.Receives c r → r.IsRefusal ∨ a.inquiry.form = .status →
    b.result = a.result ∧ a.Adds [] b
  strict : ∀ r W, a.Receives c r → r.Warns W → ¬r.IsRefusal → a.inquiry.form ≠ .status → W ≠ [] →
    c.isStrict a.inquiry.strict = true →
      a.result = .error (.deprecation W (some r.status)) ∧ a.Adds [] b
  lenient : ∀ r W, a.Receives c r → r.Warns W → ¬r.IsRefusal → a.inquiry.form ≠ .status →
    (W ≠ [] → c.isStrict a.inquiry.strict = false) →
      a.result = a.inquiry.accept r ∧ b.result = a.result.map Answer.unwarned ∧
        ∃ method path, target a.inquiry.request = .ok (method, path) ∧
          a.Adds (warningRecords method path W) b

theorem target_of_send {c : Client σ} {request : Request} {r : Response} {s t : Session σ}
    (h : (c.send request).run s = (.ok r, t)) : ∃ method path, target request = .ok (method, path) := by
  cases htarget : target request with
  | ok p => exact ⟨p.1, p.2, rfl⟩
  | error e =>
    rw [send_untargeted c s htarget] at h
    cases h

section Turn

variable {c : Client σ} {q : Inquiry} {r : Response} {s t s' t' : Session σ}

theorem turn_answered (hsent : (c.send q.request).run s = (.ok r, t)) {result : Except Failure Answer}
    {u : Session σ} (h : (q.conclude c r).run t = (result, u)) : q.turn c s = ⟨s, q, result, u⟩ := by
  rw [Inquiry.turn, Inquiry.ask_of_response hsent, h]

theorem received_eq (hsent : (c.send q.request).run s = (.ok r, t)) {r' : Response}
    (h : (q.turn c s).Receives c r') : r' = r := by
  obtain ⟨u, hu⟩ := h
  have hsame := hsent.symm.trans hu
  simp only [Prod.mk.injEq, Except.ok.injEq] at hsame
  exact hsame.1.symm

theorem heeds_of_response (hsent : (c.send q.request).run s = (.ok r, t))
    (hsent' : (c.unwarned.send q.request).run s' = (.ok r.unwarned, t')) (hstep : InStep t t')
    (hadds : Adds [] s t s' t') : HeedsWarnings c (q.turn c s) (q.turn c.unwarned s') where
  inStep := by
    have hleft := q.ask_inStep c s
    have hright := q.ask_inStep c.unwarned s'
    rw [hsent] at hleft
    rw [hsent'] at hright
    exact hstep.across hleft hright
  received r' hr := by
    rw [received_eq hsent hr]
    exact ⟨⟨_, r.warns_warnings⟩, ⟨t', hsent'⟩, r.warnings_unwarned ▸ r.unwarned.warns_warnings⟩
  unanswered hnone := absurd ⟨t, hsent⟩ (hnone r)
  unheeded r' hr hcase := by
    rw [received_eq hsent hr] at hcase
    by_cases hform : q.form = .status
    · rw [turn_answered hsent (Inquiry.conclude_status c hform r t),
        turn_answered hsent' (Inquiry.conclude_status c.unwarned hform r.unwarned t')]
      exact ⟨rfl, hadds⟩
    · have hrefusal := hcase.resolve_right hform
      rw [turn_answered hsent (Inquiry.conclude_refused hform hrefusal t),
        turn_answered hsent' (Inquiry.conclude_refused hform (r.unwarned_isRefusal.mpr hrefusal) t')]
      exact ⟨rfl, hadds⟩
  strict r' W hr hwarns hpassed hform hwarned hstrict := by
    obtain rfl : r = r' := (received_eq hsent hr).symm
    obtain rfl := hwarns.eq_warnings
    have hpassed' : ¬r.unwarned.IsRefusal := r.unwarned_isRefusal.not.mpr hpassed
    rw [turn_answered hsent (Inquiry.conclude_strict hform hpassed hwarned hstrict t),
      turn_answered hsent' (Inquiry.conclude_unwarned hform hpassed' r.warnings_unwarned t')]
    exact ⟨rfl, hadds⟩
  lenient r' W hr hwarns hpassed hform hlenient := by
    obtain rfl : r = r' := (received_eq hsent hr).symm
    obtain rfl := hwarns.eq_warnings
    have hpassed' : ¬r.unwarned.IsRefusal := r.unwarned_isRefusal.not.mpr hpassed
    obtain ⟨method, path, htarget⟩ := target_of_send hsent
    rw [turn_answered hsent (Inquiry.conclude_lenient hform hpassed hlenient htarget t),
      turn_answered hsent' (Inquiry.conclude_unwarned hform hpassed' r.warnings_unwarned t')]
    obtain ⟨events, hright, hleft⟩ := hadds
    refine ⟨rfl, q.accept_unwarned r, method, path, htarget, events, hright, ?_⟩
    rw [hleft, List.append_nil]

theorem heeds_of_failure {e : Failure} (hsent : (c.send q.request).run s = (.error e, t))
    (hsent' : (c.unwarned.send q.request).run s' = (.error e, t')) (hstep : InStep t t')
    (hadds : Adds [] s t s' t') : HeedsWarnings c (q.turn c s) (q.turn c.unwarned s') := by
  have hleft : q.turn c s = ⟨s, q, .error e, t⟩ := by rw [Inquiry.turn, Inquiry.ask_eq, run_bind, hsent]
  have hright : q.turn c.unwarned s' = ⟨s', q, .error e, t'⟩ := by
    rw [Inquiry.turn, Inquiry.ask_eq, run_bind, hsent']
  have hnone : ∀ r, ¬(q.turn c s).Receives c r := by
    rintro r ⟨u, hu⟩
    cases hsent.symm.trans hu
  rw [hleft] at hnone ⊢
  rw [hright]
  exact ⟨hstep, fun r hr => absurd hr (hnone r), fun _ => ⟨rfl, hadds⟩, fun r hr => absurd hr (hnone r),
    fun r _ hr => absurd hr (hnone r), fun r _ hr => absurd hr (hnone r)⟩

theorem turn_heeds (c : Client σ) (q : Inquiry) (h : InStep s s') :
    HeedsWarnings c (q.turn c s) (q.turn c.unwarned s') := by
  have hlockstep : Lockstep Response.unwarned (c.send q.request) (c.unwarned.send q.request) :=
    c.lockstep_send Response.unwarned q.request
  rcases hsent : (c.send q.request).run s with ⟨e | r, t⟩
  · obtain ⟨t', hsent', hstep, hadds⟩ := hlockstep.error h hsent
    exact heeds_of_failure hsent hsent' hstep hadds
  · obtain ⟨t', hsent', hstep, hadds⟩ := hlockstep.ok h hsent
    exact heeds_of_response hsent hsent' hstep hadds

end Turn

/-! ### Overrides -/

structure SameButOverride (a b : Turn σ) : Prop where
  inStep : InStep a.after b.after
  same : a.inquiry.strict = b.inquiry.strict → b.result = a.result ∧ a.Adds [] b

section Override

variable {c : Client σ} {q q' : Inquiry} {s s' : Session σ}

theorem turn_same (c : Client σ) (hq : q'.unruled = q.unruled) (h : InStep s s') :
    SameButOverride (q.turn c s) (q'.turn c s') where
  inStep := by
    have hrequest : q'.request = q.request := (congrArg Inquiry.request hq :)
    have hright := q'.ask_inStep c s'
    rw [hrequest] at hright
    exact (c.lockstep_send_self q.request s s' h).2.1.across (q.ask_inStep c s) hright
  same hstrict := by
    have hsame : q' = q := by
      obtain ⟨request, form, strict⟩ := q
      obtain ⟨request', form', strict'⟩ := q'
      simp only [Inquiry.unruled, Inquiry.mk.injEq] at hq
      simp only [Inquiry.turn] at hstrict
      rw [hq.1, hq.2.1, hstrict]
    obtain ⟨hresult, -, hadds⟩ := q.lockstep_ask c s s' h
    rw [hsame]
    exact ⟨hresult.trans (Except.map_id ▸ rfl), hadds⟩

end Override

theorem turns_forall₂ {c c' : Client σ} {P : Inquiry → Inquiry → Prop} {R : Turn σ → Turn σ → Prop}
    (hturn : ∀ q q' s s', P q q' → InStep s s' → R (q.turn c s) (q'.turn c' s'))
    (hstep : ∀ a b, R a b → InStep a.after b.after) {qs qs' : List Inquiry} (hqs : List.Forall₂ P qs qs')
    {s s' : Session σ} (h : InStep s s') :
    List.Forall₂ R (Inquiry.turns c qs s) (Inquiry.turns c' qs' s') := by
  induction hqs generalizing s s' with
  | nil => exact .nil
  | cons hq _ ih =>
    have hboth := hturn _ _ s s' hq h
    exact .cons hboth (ih (hstep _ _ hboth))

/-- Each turn of a run heeds the warnings it gets, and other overrides change no turn but their own. -/
theorem run_heeds_warnings (c : Client σ) (qs : List Inquiry) (s : Session σ) :
    (Inquiry.turns c qs s).map Turn.result = (Inquiry.askAll c qs s).1 ∧
      List.Forall₂ (HeedsWarnings c) (Inquiry.turns c qs s) (Inquiry.turns c.unwarned qs s) ∧
      ∀ qs', List.Forall₂ (fun q q' => q'.unruled = q.unruled) qs qs' →
        List.Forall₂ SameButOverride (Inquiry.turns c qs s) (Inquiry.turns c qs' s) := by
  refine ⟨Inquiry.turns_results c qs s, ?_, ?_⟩
  · refine turns_forall₂ (P := Eq) ?_ (fun a b h => h.inStep) (List.forall₂_refl qs) ⟨rfl, rfl⟩
    rintro q q' s s' rfl h
    exact turn_heeds c q h
  · intro qs' hqs
    exact turns_forall₂ (fun q q' s s' hq h => turn_same c hq h) (fun a b h => h.inStep) hqs ⟨rfl, rfl⟩

def warned : Response := .utf8 200 [] [("warning", "old"), ("Server", "b"), ("WARNING", "older")] false

/-- Two requests, the second of which says that a warning is none of its errors. -/
def warnedRequests : List Inquiry := [ping, { ping with strict := some false }]

def warnedSession : Session (List Outcome) := ⟨0, [.response warned, .response warned], []⟩

/-- A warning is an error by the settings, and none for a request that says so. -/
theorem warned_requests_heed_warnings : warned.Warns ["old", "older"] ∧
    (Inquiry.askAll ⟨threeHosts, scripted⟩ warnedRequests warnedSession).1 =
      [.error (.deprecation ["old", "older"] (some 200)), .ok (.document (.obj []))] ∧
    List.Forall₂ (HeedsWarnings ⟨threeHosts, scripted⟩)
      (Inquiry.turns ⟨threeHosts, scripted⟩ warnedRequests warnedSession)
      (Inquiry.turns (Client.unwarned ⟨threeHosts, scripted⟩) warnedRequests warnedSession) :=
  ⟨warned.warns_warnings, rfl, (run_heeds_warnings _ _ _).2.1⟩

end ClusterHarness
