import ClusterHarness.Proofs.Http.Failover
import ClusterHarness.Proofs.Json.RoundTrip
import ClusterHarness.Proofs.Results

/-!
Replies with a document. A client whose request is answered so by the host in use goes on with the
document.
-/

namespace ClusterHarness

namespace Http.Response

/-- The response is a success without warnings and has the document. -/
structure Gives (r : Response) (v : Json) : Prop where
  success : 200 ≤ r.status ∧ r.status < 300
  unwarned : r.warnings = []
  document : r.json = .ok v

theorem Gives.isOk {r : Response} {v : Json} (h : r.Gives v) : r.isOk = true := by
  obtain ⟨hlow, hhigh⟩ := h.success
  simp only [Response.isOk, Bool.not_eq_true', Bool.and_eq_false_iff, decide_eq_false_iff_not]
  omega

def holding (v : Json) : Response := .utf8 200 (Utf8.encode v.render) [] false

/-- What a body that is declared to be UTF-8 says. -/
theorem json_utf8 {body : Bytes} (hbody : body ≠ []) (status : Int) (headers : Fields Text)
    (joinedHeaders : Bool) : (utf8 status body headers joinedHeaders).json =
      (Json.read .document (Utf8.decodeLenient body)).mapError .reading := by
  rw [json, utf8, List.isEmpty_eq_false_iff.mpr hbody]
  rfl

theorem text_utf8 (status : Int) (body : Bytes) (headers : Fields Text) (joinedHeaders : Bool) :
    (utf8 status body headers joinedHeaders).text = .ok (Utf8.decodeLenient body) := by
  cases body <;> rfl

theorem holding_body_ne_nil (v : Json) : (holding v).body ≠ [] := by
  obtain ⟨c, t, ht⟩ := List.exists_cons_of_ne_nil (Json.render_opens v).nonempty
  have hc : c.val < 0x80 := Json.render_ascii v c (ht ▸ List.mem_cons_self)
  rw [holding, utf8, ht, Utf8.encode_cons hc]
  exact List.cons_ne_nil _ _

theorem holding_text (v : Json) : (holding v).text = .ok v.render := by
  rw [holding, text_utf8, Utf8.decodeLenient_encode (Json.render_ascii v)]

theorem holding_json (v : Json) : (holding v).json = (Json.read .document v.render).mapError .reading := by
  have hbody : Utf8.encode v.render ≠ [] := holding_body_ne_nil v
  rw [holding, json_utf8 hbody, Utf8.decodeLenient_encode (Json.render_ascii v)]

theorem holding_gives {v : Json} (hv : v.isPortable .document) (hdepth : v.nesting ≤ 990) :
    (holding v).Gives v where
  success := (by decide : 200 ≤ (200 : Int) ∧ (200 : Int) < 300)
  unwarned := rfl
  document := by rw [holding_json, Json.read_render hv hdepth, mapError_ok]

end Http.Response

open Http ClusterHarness.Action

variable {σ : Type}

/-- A call of a path on one of the hosts. -/
def Client.Reaches (c : Client σ) (path : Text) (call : Call) : Prop :=
  ∃ base ∈ c.baseUrls, call.url = base ++ ClientSettings.slash :: path

namespace Client

variable (c : Client σ)

/-- The position of the host that is tried first. -/
def hostInUse (s : Session σ) : Nat := s.host % c.baseUrls.length

/-- The session after a request that the host in use answered. -/
def answered (s : Session σ) (call : Call) (far : σ) : Session σ :=
  { called s call far with host := c.hostInUse s }

theorem reaches_hostCall (hosts : 0 < c.baseUrls.length) (method path : Text) (r : Request)
    (s : Session σ) : c.Reaches path (c.hostCall method path r (c.hostInUse s)) := by
  have hlt : c.hostInUse s < c.baseUrls.length := Nat.mod_lt _ hosts
  refine ⟨c.baseUrls[c.hostInUse s], List.getElem_mem hlt, ?_⟩
  rw [hostCall, List.getElem?_eq_getElem hlt, Option.getD_some]
  rfl

theorem rotation_cons {count : Nat} (start : Nat) (h : 0 < count) :
    ∃ hosts, rotation count start = start % count :: hosts := by
  obtain ⟨count, rfl⟩ := Nat.exists_eq_succ_of_ne_zero (Nat.ne_of_gt h)
  rw [rotation, List.range_succ_eq_map, List.map_cons, Nat.add_zero]
  exact ⟨_, rfl⟩

variable {c} {r : Request} {method path : Text} {s : Session σ} {far : σ} {response : Response}

theorem send_answered (hosts : 0 < c.baseUrls.length) (htarget : target r = .ok (method, path))
    (hwire : c.wire (c.hostCall method path r (c.hostInUse s)) s.far = (.response response, far)) :
    (c.send r).run s = (.ok response, c.answered s (c.hostCall method path r (c.hostInUse s)) far) := by
  obtain ⟨others, hrotation⟩ := rotation_cons s.host hosts
  rw [send_run c s htarget, hrotation]
  exact tryHosts_answered c method path r (c.hostInUse s) others "None" s hwire

theorem json_answered {v : Json} (strict : Option Bool) (hosts : 0 < c.baseUrls.length)
    (htarget : target r = .ok (method, path))
    (hwire : c.wire (c.hostCall method path r (c.hostInUse s)) s.far = (.response response, far))
    (hgives : response.Gives v) :
    (c.json r strict).run s = (.ok v, c.answered s (c.hostCall method path r (c.hostInUse s)) far) := by
  have hcheck : c.check r strict response = pure () := by
    rw [check, hgives.isOk, hgives.unwarned]
    rfl
  rw [json, Client.response, run_bind, run_bind, send_answered hosts htarget hwire]
  simp only [hcheck, hgives.document, run_bind, run_pure, mapError_ok]
  rfl

variable (c) in
/-- The far side answers a call with a document, and the document and what becomes of the far side are
as told. -/
def Answers (call : Call) (far : σ) (told : Json → σ → Prop) : Prop :=
  ∃ response far' v, c.wire call far = (.response response, far') ∧ response.Gives v ∧ told v far'

theorem json_run {told : Json → σ → Prop} (strict : Option Bool) (hosts : 0 < c.baseUrls.length)
    (htarget : target r = .ok (method, path))
    (h : c.Answers (c.hostCall method path r (c.hostInUse s)) s.far told) :
    ∃ v t, (c.json r strict).run s = (.ok v, t) ∧ told v t.far := by
  obtain ⟨response, far, v, hwire, hgives, htold⟩ := h
  exact ⟨v, _, json_answered strict hosts htarget hwire hgives, htold⟩

theorem json_scripted {settings : ClientSettings} (hosts : 0 < (baseUrls ⟨settings, scripted⟩).length)
    (htarget : target r = .ok (method, path)) {v : Json} (hkept : Json.Kept v) {rest : List Outcome}
    {s : Session (List Outcome)} (hfar : s.far = .response (.holding v) :: rest) :
    ∃ t, (Client.json ⟨settings, scripted⟩ r none).run s = (.ok v, t) ∧ t.far = rest := by
  have hgives := Response.holding_gives hkept.portable hkept.shallow
  have hwire : scripted (hostCall ⟨settings, scripted⟩ method path r (hostInUse ⟨settings, scripted⟩ s)) s.far =
      (.response (.holding v), rest) := by
    rw [hfar]
    rfl
  exact ⟨_, json_answered (c := ⟨settings, scripted⟩) none hosts htarget hwire hgives, rfl⟩

end Client

end ClusterHarness
