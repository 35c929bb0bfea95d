import ClusterHarness.Proofs.Http.ErrorBody

/-!
The type of an error, as the object under `error` in the body of a refused response names it. Asking for
the type fails exactly where another value that counts as true stands in the place of that object.
-/

namespace ClusterHarness

open Http ClusterHarness.Action Client

namespace Json

def NamesErrorType (v kind : Json) : Prop :=
  ∃ fields error, v = .obj fields ∧ Fields.get? "error" fields = some (.obj error) ∧
    Fields.get? "type" error = some kind

/-- An error is told, but not by an object. -/
def HasBareError (v : Json) : Prop :=
  ∃ fields error, v = .obj fields ∧ Fields.get? "error" fields = some error ∧ error.truthy = true ∧
    ∀ members, error ≠ .obj members

/-- What comes of asking for the type of the error that a body describes. -/
structure TypedBy (v : Json) (result : Except ShapeError Json) : Prop where
  named : ∀ kind, v.NamesErrorType kind → result = .ok kind
  unnamed : (∀ kind, ¬v.NamesErrorType kind) → ¬v.HasBareError → result = .ok .null
  fails : (∃ e, result = .error e) ↔ v.HasBareError

section Object

variable {fields : Fields Json}

theorem namesErrorType_obj {kind : Json} : NamesErrorType (.obj fields) kind ↔
    ∃ error, Fields.get? "error" fields = some (.obj error) ∧ Fields.get? "type" error = some kind := by
  constructor
  · rintro ⟨_, error, heq, h⟩
    cases heq
    exact ⟨error, h⟩
  · rintro ⟨error, h⟩
    exact ⟨fields, error, rfl, h⟩

theorem hasBareError_obj : HasBareError (.obj fields) ↔ ∃ error, Fields.get? "error" fields = some error ∧
    error.truthy = true ∧ ∀ members, error ≠ .obj members := by
  constructor
  · rintro ⟨_, error, heq, h⟩
    cases heq
    exact ⟨error, h⟩
  · rintro ⟨error, h⟩
    exact ⟨fields, error, rfl, h⟩

theorem typedBy_no_error (hget : Fields.get? "error" fields = none) : TypedBy (.obj fields) (.ok .null) := by
  refine ⟨fun kind hkind => ?_, fun _ _ => rfl, iff_of_false nofun fun hbare => ?_⟩
  · obtain ⟨error, herror, -⟩ := namesErrorType_obj.mp hkind
    cases hget.symm.trans herror
  · obtain ⟨error, herror, -⟩ := hasBareError_obj.mp hbare
    cases hget.symm.trans herror

theorem typedBy_error_object {members : Fields Json} (hget : Fields.get? "error" fields = some (.obj members)) :
    TypedBy (.obj fields) (.ok ((Fields.get? "type" members).getD .null)) := by
  refine ⟨fun kind hkind => ?_, fun hnone _ => ?_, iff_of_false nofun fun hbare => ?_⟩
  · obtain ⟨_, herror, htype⟩ := namesErrorType_obj.mp hkind
    cases hget.symm.trans herror
    rw [htype, Option.getD_some]
  · cases htype : Fields.get? "type" members with
    | none => rfl
    | some kind => exact absurd (namesErrorType_obj.mpr ⟨members, hget, htype⟩) (hnone kind)
  · obtain ⟨_, herror, -, hbare⟩ := hasBareError_obj.mp hbare
    cases hget.symm.trans herror
    exact hbare members rfl

theorem typedBy_other_error {error : Json} (hget : Fields.get? "error" fields = some error)
    (hother : ∀ members, error ≠ .obj members) :
    TypedBy (.obj fields) (if error.truthy then .error .noMembers else .ok .null) := by
  have hunnamed : ∀ kind, ¬NamesErrorType (.obj fields) kind := by
    intro kind hkind
    obtain ⟨members, herror, -⟩ := namesErrorType_obj.mp hkind
    exact hother members (Option.some.inj (hget.symm.trans herror))
  have hbare : HasBareError (.obj fields) ↔ error.truthy = true := by
    rw [hasBareError_obj, hget]
    simp [hother]
  refine ⟨fun kind hkind => absurd hkind (hunnamed kind), fun _ hnot => ?_, ?_⟩
  · rw [hbare] at hnot
    exact if_neg hnot
  · rw [hbare]
    cases error.truthy <;> simp

end Object

theorem typedBy_of_not_object {v : Json} (h : ∀ fields, v ≠ .obj fields) : v.TypedBy (.ok .null) where
  named _ := fun ⟨fields, _, hv, _⟩ => absurd hv (h fields)
  unnamed _ _ := rfl
  fails := iff_of_false nofun fun ⟨fields, _, hv, _⟩ => h fields hv

theorem member_of_not_object {v : Json} (h : ∀ members, v ≠ .obj members) (key : Text) :
    v.member key = .error .noMembers := by
  cases v with
  | obj members => exact absurd rfl (h members)
  | _ => rfl

end Json

namespace HttpError

variable (code : Option Int) (text : Option Text)

theorem errorType_make_obj (fields : Fields Json) : (make (.obj fields) code text).errorType =
    if ((Fields.get? "error" fields).getD .null).truthy
      then ((Fields.get? "error" fields).getD .null).member "type" else .ok .null := by
  cases fields <;> rfl

theorem errorType_make_other {v : Json} (h : ∀ fields, v ≠ .obj fields) :
    (make v code text).errorType = .ok .null := by
  unfold make
  split
  · cases v with
    | obj fields => exact absurd rfl (h fields)
    | _ => rfl
  · rfl

theorem typedBy_object (fields : Fields Json) :
    Json.TypedBy (.obj fields) (make (.obj fields) code text).errorType := by
  rw [errorType_make_obj]
  cases hget : Fields.get? "error" fields with
  | none => exact Json.typedBy_no_error hget
  | some error =>
    rw [Option.getD_some]
    by_cases hobject : ∃ members, error = .obj members
    · obtain ⟨members, rfl⟩ := hobject
      have hresult : (if (Json.obj members).truthy then (Json.obj members).member "type" else .ok .null) =
          .ok ((Fields.get? "type" members).getD .null) := by
        cases members <;> rfl
      rw [hresult]
      exact Json.typedBy_error_object hget
    · have hother : ∀ members, error ≠ .obj members := not_exists.mp hobject
      rw [Json.member_of_not_object hother]
      exact Json.typedBy_other_error hget hother

theorem typedBy_body (v : Json) : v.TypedBy (make v code text).errorType := by
  by_cases hobject : ∃ fields, v = .obj fields
  · obtain ⟨fields, rfl⟩ := hobject
    exact typedBy_object code text fields
  · have hother : ∀ fields, v ≠ .obj fields := not_exists.mp hobject
    rw [errorType_make_other code text hother]
    exact Json.typedBy_of_not_object hother

end HttpError

variable {σ : Type} {c : Client σ} {q : Inquiry} {s t : Session σ} {response : Response} {v : Json}

theorem ask_refused_document {text : Text} (hform : q.form ≠ .status)
    (hsent : (c.send q.request).run s = (.ok response, t)) (hrefusal : response.IsRefusal)
    (htext : response.text = .ok text) (hdocument : response.HasDocument v) :
    (q.ask c).run s = (.error (.http (.make v (some response.status) (some text))), t) := by
  have hjson : response.json = .ok v := hdocument.json_eq
  rw [Inquiry.ask_of_response hsent, Inquiry.conclude_refused hform hrefusal,
    responseFailure_told (hjson ▸ nofun) htext, hjson]
  rfl

/-- Whatever document a refused response has, the error that it is reported by names the type that stands in
it, or none, unless what stands under `error` counts as true and is no object: then there is no answer. -/
theorem refusal_tells_error_type (c : Client σ) (q : Inquiry) (s t : Session σ) (response : Response) (v : Json)
    (text : Text) (hform : q.form ≠ .status) (hsent : (c.send q.request).run s = (.ok response, t))
    (hrefusal : response.IsRefusal) (htext : response.text = .ok text) (hdocument : response.HasDocument v) :
    ∃ e, (q.ask c).run s = (.error (.http e), t) ∧ v.TypedBy e.errorType :=
  ⟨_, ask_refused_document hform hsent hrefusal htext hdocument, HttpError.typedBy_body _ _ v⟩

namespace Http.Response

def refusing (v : Json) : Response := { holding v with status := 400 }

theorem refusing_isRefusal (v : Json) : (refusing v).IsRefusal :=
  (by decide : 400 ≤ (400 : Int) ∧ (400 : Int) < 600)

theorem refusing_text (v : Json) : (refusing v).text = .ok v.render := holding_text v

theorem refusing_hasDocument (h : v.Kept) : (refusing v).HasDocument v := by
  refine readsAs_of_json (holding_body_ne_nil v) ?_
  have hjson : (refusing v).json = (Json.read .document v.render).mapError .reading := holding_json v
  rw [hjson, h.read_render]

end Http.Response

def typedError : Json := .obj [("error", .obj [("reason", .null), ("type", .str "gone")]), ("status", .int 400)]

theorem typedError_kept : typedError.Kept := ⟨by decide +kernel, by decide⟩

theorem refusal_tells_error_type_of_typed : ping.form ≠ .status ∧ (Response.refusing typedError).IsRefusal ∧
    (Response.refusing typedError).text = .ok typedError.render ∧
    (Response.refusing typedError).HasDocument typedError ∧
    ∃ t, ((⟨threeHosts, scripted⟩ : Client _).send ping.request).run
        ⟨0, [.response (.refusing typedError)], []⟩ = (.ok (.refusing typedError), t) ∧
      ∃ e, (ping.ask ⟨threeHosts, scripted⟩).run ⟨0, [.response (.refusing typedError)], []⟩ =
        (.error (.http e), t) ∧ typedError.TypedBy e.errorType :=
  have hrefusal := Response.refusing_isRefusal typedError
  have htext := Response.refusing_text typedError
  have hdocument := Response.refusing_hasDocument typedError_kept
  ⟨nofun, hrefusal, htext, hdocument, _, rfl,
    refusal_tells_error_type _ ping _ _ _ _ _ nofun rfl hrefusal htext hdocument⟩

def bareError : Json := .obj [("error", .str "no handler found"), ("status", .int 400)]

theorem bareError_kept : bareError.Kept := ⟨by decide +kernel, by decide⟩

/-- An error that is told by a text alone has no type, and asking for it fails. -/
theorem bare_error_has_no_type :
    ∃ e t, (ping.ask ⟨threeHosts, scripted⟩).run ⟨0, [.response (.refusing bareError)], []⟩ =
      (.error (.http e), t) ∧ e.errorType = .error .noMembers :=
  ⟨_, _, ask_refused_document (q := ping) nofun rfl (Response.refusing_isRefusal bareError)
    (Response.refusing_text bareError) (Response.refusing_hasDocument bareError_kept), rfl⟩

end ClusterHarness
