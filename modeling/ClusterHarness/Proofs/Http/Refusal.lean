import ClusterHarness.Proofs.Http.Course

/-!
Which responses are refused. A client or server error is, and every other status passes as a success
does, so that a value that is answered with tells of no more than that.
-/

namespace ClusterHarness

open Http ClusterHarness.Action Client

namespace Http.Response

def IsRefusal (r : Response) : Prop := 400 ≤ r.status ∧ r.status < 600

def IsSuccess (r : Response) : Prop := 200 ≤ r.status ∧ r.status < 300

/-- The body has a text, and no document that is nested too deeply. -/
def IsTellable (r : Response) : Prop := (∃ text, r.text = .ok text) ∧ r.json ≠ .error (.reading .tooDeep)

instance (r : Response) : Decidable r.IsSuccess := inferInstanceAs (Decidable (_ ∧ _))

theorem isOk_eq_false {r : Response} : r.isOk = false ↔ r.IsRefusal := by
  simp [isOk, IsRefusal]

theorem isOk_eq_true {r : Response} : r.isOk = true ↔ ¬r.IsRefusal := by
  rw [← isOk_eq_false, Bool.not_eq_false]

end Http.Response

def Failure.IsHttp : Failure → Prop
  | .http _ => True
  | _ => False

variable {σ α β : Type} {c : Client σ} {s t : Session σ}

theorem responseFailure_tooDeep {response : Response} (h : response.json = .error (.reading .tooDeep)) :
    responseFailure response = .document .tooDeep := by
  rw [responseFailure, h]

theorem responseFailure_undecodable {response : Response} {fault : DecodingFault}
    (hdepth : response.json ≠ .error (.reading .tooDeep)) (htext : response.text = .error fault) :
    responseFailure response = .undecodable fault := by
  unfold responseFailure
  split
  · exact absurd ‹_› hdepth
  · next hfault _ => cases hfault.symm.trans htext; rfl
  · next hok _ => cases hok.symm.trans htext

theorem responseFailure_told {response : Response} {text : Text}
    (hdepth : response.json ≠ .error (.reading .tooDeep)) (htext : response.text = .ok text) :
    responseFailure response =
      .http (.make (response.json.toOption.getD .null) (some response.status) (some text)) := by
  unfold responseFailure
  split
  · exact absurd ‹_› hdepth
  · next hfault _ => cases hfault.symm.trans htext
  · next hok _ => cases hok.symm.trans htext; rfl

theorem responseFailure_isHttp {response : Response} :
    (responseFailure response).IsHttp ↔ response.IsTellable := by
  by_cases hdepth : response.json = .error (.reading .tooDeep)
  · rw [responseFailure_tooDeep hdepth]
    exact iff_of_false id fun h => h.2 hdepth
  cases htext : response.text with
  | error fault =>
    rw [responseFailure_undecodable hdepth htext]
    refine iff_of_false id fun ⟨⟨text, hok⟩, _⟩ => ?_
    cases htext.symm.trans hok
  | ok text =>
    rw [responseFailure_told hdepth htext]
    exact iff_of_true trivial ⟨⟨text, htext⟩, hdepth⟩

namespace Inquiry

variable {q : Inquiry} {response : Response}

theorem conclude_refused (hform : q.form ≠ .status) (h : response.IsRefusal) (s : Session σ) :
    (q.conclude c response).run s = (.error (responseFailure response), s) := by
  have hcheck : c.check q.request q.strict response = fail (responseFailure response) := by
    rw [check, Response.isOk_eq_false.mpr h]
    rfl
  obtain ⟨r, form, strict⟩ := q
  cases form with
  | status => exact absurd rfl hform
  | response => simp only [conclude, hcheck, run_bind, run_fail]
  | json => simp only [conclude, hcheck, run_bind, run_fail]

theorem check_passed_failsBy (h : ¬response.IsRefusal) :
    FailsBy (¬·.IsHttp) (c.check q.request q.strict response) := by
  rw [check, Response.isOk_eq_true.mpr h]
  split
  · exact absurd ‹_› (by decide)
  split
  · exact failsBy_pure ()
  split
  · exact failsBy_fail id
  · refine failsBy_bind (failsBy_lift fun e he => ?_) fun _ => failsBy_log _ _
    unfold target at he
    split at he <;> cases he
    exact id

theorem conclude_passed_failsBy (h : ¬response.IsRefusal) :
    FailsBy (¬·.IsHttp) (q.conclude c response) := by
  obtain ⟨r, form, strict⟩ := q
  cases form with
  | status => exact failsBy_pure _
  | response => exact failsBy_bind (check_passed_failsBy (q := ⟨r, .response, strict⟩) h) fun _ => failsBy_pure _
  | json =>
    refine failsBy_bind (check_passed_failsBy (q := ⟨r, .json, strict⟩) h) fun _ =>
      failsBy_bind (failsBy_lift fun e he => ?_) fun _ => failsBy_pure _
    obtain ⟨d, -, rfl⟩ := mapError_eq_error.mp he
    cases d <;> exact id

theorem ask_of_response {u : Session σ} (h : (c.send q.request).run s = (.ok response, u)) :
    (q.ask c).run s = (q.conclude c response).run u := by
  rw [ask_eq]
  exact run_bind_ok h _

end Inquiry

def Passed (c : Client σ) (s : Session σ) (r : Request) : Prop :=
  ∃ response u, (c.send r).run s = (.ok response, u) ∧ ¬response.IsRefusal

theorem ask_passed {q : Inquiry} {answer : Answer} (hform : q.form ≠ .status)
    (h : (q.ask c).run s = (.ok answer, t)) : Passed c s q.request := by
  rw [Inquiry.ask_eq] at h
  rcases run_bind_eq h with ⟨e, -, he⟩ | ⟨response, u, hsent, hrest⟩
  · cases he
  · refine ⟨response, u, hsent, fun hrefusal => ?_⟩
    rw [Inquiry.conclude_refused hform hrefusal] at hrest
    cases hrest

theorem json_bind_passed {r : Request} {strict : Option Bool} {f : Json → Action σ β} {x : β}
    (h : (c.json r strict >>= f).run s = (.ok x, t)) : Passed c s r := by
  rcases run_bind_eq h with ⟨e, -, he⟩ | ⟨v, u, hv, -⟩
  · cases he
  · have hask : (Inquiry.ask c ⟨r, .json, strict⟩).run s = (.ok (.document v), u) := run_bind_ok hv _
    exact ask_passed (nofun : RequestForm.json ≠ .status) hask

theorem update_status {setting : Text} {value : Json} {settle : Time.Seconds}
    (h : (PersistentSettings.update c setting value settle).run s = (.ok (), t)) :
    ∃ response u, (c.send (PersistentSettings.writeRequest (.obj [(setting, value)]))).run s =
      (.ok response, u) ∧ response.status = 200 := by
  rcases run_bind_eq h with ⟨e, -, he⟩ | ⟨status, u, hstatus, hrest⟩
  · cases he
  rcases run_bind_eq hstatus with ⟨e, -, he⟩ | ⟨response, w, hsent, hpure⟩
  · cases he
  obtain ⟨hsame, -⟩ := Prod.mk.inj hpure
  refine ⟨response, w, hsent, ?_⟩
  rw [Except.ok.injEq] at hsame
  by_contra hother
  rw [if_neg (hsame ▸ hother)] at hrest
  cases hrest

def Refuses (c : Client σ) (q : Inquiry) (s : Session σ) (response : Response) (t : Session σ) : Prop :=
  ∃ e, (q.ask c).run s = (.error (.http e), t) ∧ e.code = some response.status ∧
    ∃ text, response.text = .ok text ∧ e.text = some text

theorem refuses_iff {q : Inquiry} {response : Response} (hform : q.form ≠ .status)
    (hsent : (c.send q.request).run s = (.ok response, t)) :
    Refuses c q s response t ↔ response.IsRefusal ∧ response.IsTellable := by
  rw [Refuses, Inquiry.ask_of_response hsent]
  constructor
  · rintro ⟨e, hrun, -⟩
    have hrefusal : response.IsRefusal := by
      by_contra hpassed
      exact Inquiry.conclude_passed_failsBy hpassed t _ t hrun trivial
    rw [Inquiry.conclude_refused hform hrefusal, Prod.mk.injEq, Except.error.injEq] at hrun
    exact ⟨hrefusal, responseFailure_isHttp.mp (hrun.1 ▸ trivial)⟩
  · rintro ⟨hrefusal, ⟨text, htext⟩, hdepth⟩
    rw [Inquiry.conclude_refused hform hrefusal, responseFailure_told hdepth htext]
    exact ⟨_, rfl, rfl, text, htext, rfl⟩

/-- A request refuses every response but a success exactly if the response is a success, or an error
whose body can be decoded and is not too deep to be read; and what ends well has got a response that is no
error. -/
structure RefusesErrors (c : Client σ) (s : Session σ) : Prop where
  refused : ∀ (q : Inquiry) (response : Response) (t : Session σ), q.form ≠ .status →
    (c.send q.request).run s = (.ok response, t) →
      ((¬response.IsSuccess → Refuses c q s response t) ↔
        response.IsSuccess ∨ response.IsRefusal ∧ response.IsTellable)
  answered : ∀ (q : Inquiry) (answer : Answer) (t : Session σ), q.form ≠ .status →
    (q.ask c).run s = (.ok answer, t) → Passed c s q.request
  created : ∀ index mapping settle t, (Ingestion.createIndex c index mapping settle).run s = (.ok (), t) →
    Passed c s (Ingestion.createRequest index mapping)
  written : ∀ records index split t, (Bulk.write c records index split).run s = (.ok (), t) →
    Passed c s (Bulk.request records index split)
  searched : ∀ index query hits t, (Visibility.search c index query).run s = (.ok hits, t) →
    Passed c s (Visibility.searchRequest index query)
  deleted : ∀ name t, (Indices.delete c name).run s = (.ok (), t) → Passed c s (Indices.deleteRequest name)
  set : ∀ settings t, (PersistentSettings.write c settings).run s = (.ok (), t) →
    Passed c s (PersistentSettings.writeRequest settings)
  updated : ∀ setting value settle t, (PersistentSettings.update c setting value settle).run s = (.ok (), t) →
    ∃ response u, (c.send (PersistentSettings.writeRequest (.obj [(setting, value)]))).run s =
      (.ok response, u) ∧ response.status = 200

/-- The errors are refused, and no status besides them: what ends well was no error, and need not have been a
success. -/
theorem client_refuses_errors (c : Client σ) (s : Session σ) : RefusesErrors c s where
  refused q response t hform hsent := by
    rw [refuses_iff hform hsent]
    constructor
    · intro hrefused
      by_cases hsuccess : response.IsSuccess
      · exact .inl hsuccess
      · exact .inr (hrefused hsuccess)
    · rintro (hsuccess | hrefusal) hnot
      · exact absurd hsuccess hnot
      · exact hrefusal
  answered q answer t hform h := ask_passed hform h
  created index mapping settle t h := json_bind_passed h
  written records index split t h := json_bind_passed h
  searched index query hits t h := json_bind_passed h
  deleted name t h := json_bind_passed h
  set settings t h := json_bind_passed h
  updated setting value settle t h := update_status h

/-- A response with the status 304 is no success, and its document is the answer. -/
theorem not_modified_is_answered :
    ∃ t, (ping.ask ⟨threeHosts, scripted⟩).run ⟨0, [.response (.utf8 304 [] [] false)], []⟩ =
      (.ok (.document (.obj [])), t) ∧ ¬(Response.utf8 304 [] [] false).IsSuccess :=
  ⟨_, rfl, by decide⟩

end ClusterHarness
