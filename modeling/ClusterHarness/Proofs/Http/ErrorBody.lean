import ClusterHarness.Proofs.Http.Refusal
import ClusterHarness.Proofs.Http.Reply
import ClusterHarness.Proofs.Json.Limits

/-!
What the error of a refused response carries: the status, the text, and the document of the body, or an
empty object where there is none. A body that is nested too deeply hides all of it, and so does one that
its character set gives no text for.
-/

namespace ClusterHarness

open Http ClusterHarness.Action Client

namespace Http.Response

/-- What comes of reading the body as a document, if there is a body and it can be decoded. -/
def ReadsAs (r : Response) (result : Except Json.ReadError Json) : Prop :=
  r.body ≠ [] ∧ ∃ text, r.documentText = .ok text ∧ Json.read .document text = result

def HasDocument (r : Response) (v : Json) : Prop := r.ReadsAs (.ok v)

def IsTooDeep (r : Response) : Prop := r.ReadsAs (.error .tooDeep)

variable {r : Response} {e : HttpError} {text : Text}

theorem json_of_empty (h : r.body = []) : r.json = .ok (.obj []) := by
  rw [json, h]
  rfl

theorem json_of_body (h : r.body ≠ []) :
    r.json = (r.documentText.mapError .decoding >>= fun t => (Json.read .document t).mapError .reading) := by
  rw [json, List.isEmpty_eq_false_iff.mpr h, if_neg Bool.false_ne_true]

theorem ReadsAs.json_eq {result : Except Json.ReadError Json} (h : r.ReadsAs result) :
    r.json = result.mapError .reading := by
  obtain ⟨hbody, t, htext, rfl⟩ := h
  rw [json_of_body hbody, htext]
  rfl

theorem readsAs_of_json {result : Except Json.ReadError Json} (hbody : r.body ≠ [])
    (h : r.json = result.mapError .reading) : r.ReadsAs result := by
  rw [json_of_body hbody] at h
  refine ⟨hbody, ?_⟩
  cases htext : r.documentText with
  | error fault =>
    rw [htext] at h
    cases result <;> cases h
  | ok t =>
    rw [htext] at h
    refine ⟨t, rfl, ?_⟩
    replace h : (Json.read .document t).mapError .reading = result.mapError BodyError.reading := h
    cases hread : Json.read .document t <;> cases result <;> rw [hread] at h <;> cases h <;> rfl

theorem json_eq_tooDeep : r.json = .error (.reading .tooDeep) ↔ r.IsTooDeep := by
  refine ⟨fun h => ?_, fun h => h.json_eq⟩
  refine readsAs_of_json (fun hbody => ?_) h
  rw [json_of_empty hbody] at h
  cases h

/-- The error tells the status, the text and the document; a document that counts as false, and a body
without one, are told as an empty object. -/
structure ToldBy (r : Response) (e : HttpError) : Prop where
  code : e.code = some r.status
  text : ∃ text, r.text = .ok text ∧ e.text = some text
  document : ∀ v, r.HasDocument v → v.truthy = true → e.body = v
  nothing : (∀ v, r.HasDocument v → v.truthy = false) → e.body = .obj []

theorem toldBy_document {v : Json} (htext : r.text = .ok text) (h : r.HasDocument v) :
    r.ToldBy (.make v (some r.status) (some text)) where
  code := rfl
  text := ⟨text, htext, rfl⟩
  document w hw htruthy := by
    obtain rfl : v = w := Except.ok.inj (h.json_eq.symm.trans hw.json_eq)
    exact if_pos htruthy
  nothing hnone := if_neg (by rw [hnone v h]; exact Bool.false_ne_true)

theorem toldBy_nothing {v : Json} (htext : r.text = .ok text) (hnone : ∀ w, ¬r.HasDocument w)
    (hv : v.truthy = false) : r.ToldBy (.make v (some r.status) (some text)) where
  code := rfl
  text := ⟨text, htext, rfl⟩
  document w hw := absurd hw (hnone w)
  nothing _ := if_neg (by rw [hv]; exact Bool.false_ne_true)

theorem toldBy_make (htext : r.text = .ok text) :
    r.ToldBy (.make (r.json.toOption.getD .null) (some r.status) (some text)) := by
  by_cases hbody : r.body = []
  · rw [json_of_empty hbody]
    exact toldBy_nothing htext (fun v hv => hv.1 hbody) rfl
  cases hjson : r.json with
  | ok v => exact toldBy_document htext (readsAs_of_json hbody hjson)
  | error e =>
    refine toldBy_nothing htext (fun v hv => ?_) rfl
    cases hjson.symm.trans hv.json_eq

end Http.Response

variable {σ : Type} {c : Client σ} {s t : Session σ} {q : Inquiry} {response : Response}

/-- What becomes of a refusal. It tells all, unless the body is nested too deeply or cannot be decoded, and
the document is asked for first. -/
structure ReportsRefusal (c : Client σ) (q : Inquiry) (s : Session σ) (response : Response) (t : Session σ) :
    Prop where
  reported : (∃ e, (q.ask c).run s = (.error (.http e), t) ∧ response.ToldBy e) ↔
    (∃ text, response.text = .ok text) ∧ ¬response.IsTooDeep
  tooDeep : response.IsTooDeep → (q.ask c).run s = (.error (.document .tooDeep), t) ∧
    ∃ text, response.documentText = .ok text ∧ 990 < Json.openings text
  undecodable : ∀ fault, response.text = .error fault → ¬response.IsTooDeep →
    (q.ask c).run s = (.error (.undecodable fault), t)

/-- A refused response is reported with all it says, whatever its body is, unless the body cannot be decoded
or has more opening brackets than are read. -/
theorem refusals_tell_the_body (c : Client σ) (q : Inquiry) (s t : Session σ) (response : Response)
    (hform : q.form ≠ .status) (hsent : (c.send q.request).run s = (.ok response, t))
    (hrefusal : response.IsRefusal) : ReportsRefusal c q s response t := by
  have hrun : (q.ask c).run s = (.error (responseFailure response), t) := by
    rw [Inquiry.ask_of_response hsent, Inquiry.conclude_refused hform hrefusal]
  have htellable : response.IsTellable ↔ (∃ text, response.text = .ok text) ∧ ¬response.IsTooDeep := by
    rw [Response.IsTellable, ne_eq, Response.json_eq_tooDeep]
  constructor
  · rw [hrun, ← htellable]
    constructor
    · rintro ⟨e, he, -⟩
      rw [Prod.mk.injEq, Except.error.injEq] at he
      exact responseFailure_isHttp.mp (he.1 ▸ trivial)
    · rintro ⟨⟨text, htext⟩, hdepth⟩
      rw [responseFailure_told hdepth htext]
      exact ⟨_, rfl, Response.toldBy_make htext⟩
  · intro hdeep
    rw [hrun, responseFailure_tooDeep (Response.json_eq_tooDeep.mpr hdeep)]
    obtain ⟨-, text, htext, hread⟩ := hdeep
    exact ⟨rfl, text, htext, Json.openings_of_tooDeep hread⟩
  · intro fault hfault hdepth
    rw [hrun, responseFailure_undecodable (mt Response.json_eq_tooDeep.mp hdepth) hfault]

def notFound : Response := .utf8 404 (Utf8.encode "\x7b\"error\": \x7b\"type\": \"gone\"\x7d\x7d") [] false

theorem notFound_isRefusal : notFound.IsRefusal := ⟨by decide, by decide⟩

theorem not_found_tells_the_body :
    RequestForm.json ≠ .status ∧ notFound.IsRefusal ∧
      ∃ t, ((⟨threeHosts, scripted⟩ : Client _).send ping.request).run ⟨0, [.response notFound], []⟩ =
        (.ok notFound, t) ∧
        ReportsRefusal ⟨threeHosts, scripted⟩ ping ⟨0, [.response notFound], []⟩ notFound t :=
  ⟨nofun, notFound_isRefusal, _, rfl,
    refusals_tell_the_body _ ping _ _ notFound nofun rfl notFound_isRefusal⟩

def crash : Response := .utf8 500 (Utf8.encode (List.replicate 5000 (CodePoint.ofChar '['))) [] false

theorem crash_isTooDeep : crash.IsTooDeep := by
  refine ⟨?_, List.replicate 5000 (CodePoint.ofChar '['), ?_, Json.read_nested (by decide)⟩
  · rw [crash, Response.utf8, List.replicate_succ, Utf8.encode_cons (by decide)]
    exact List.cons_ne_nil _ _
  · have hdecoded := Utf8.decodeLenient_encode
      (Text.isAscii_replicate (c := CodePoint.ofChar '[') (by decide) 5000)
    exact congrArg Except.ok hdecoded

/-- The status of a response with a body that is nested too deeply is not told. -/
theorem crash_is_not_told : crash.IsRefusal ∧
    ∃ t, (ping.ask ⟨threeHosts, scripted⟩).run ⟨0, [.response crash], []⟩ = (.error (.document .tooDeep), t) := by
  have hrefusal : crash.IsRefusal := ⟨by decide, by decide⟩
  have hsent : ∃ t, ((⟨threeHosts, scripted⟩ : Client _).send ping.request).run ⟨0, [.response crash], []⟩ =
    (.ok crash, t) := ⟨_, rfl⟩
  obtain ⟨t, hsent⟩ := hsent
  refine ⟨hrefusal, t, ?_⟩
  rw [Inquiry.ask_of_response hsent, Inquiry.conclude_refused (nofun : RequestForm.json ≠ .status) hrefusal,
    responseFailure_tooDeep (Response.json_eq_tooDeep.mpr crash_isTooDeep)]

end ClusterHarness
