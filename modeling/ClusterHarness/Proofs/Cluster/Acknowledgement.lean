import ClusterHarness.Proofs.Http.Refusal
import ClusterHarness.Proofs.Http.Reply

/-!
What a write of settings that goes well tells. The writer of whole settings has seen the cluster acknowledge
them; the writer of a single setting sends the same request and has seen the status 200 and nothing more.
-/

namespace ClusterHarness

open Http Time

namespace Action

variable {σ α β : Type} {s : Session σ}

/-- The action ends well. -/
def Returns (a : Action σ α) (s : Session σ) : Prop := ∃ x t, a.run s = (.ok x, t)

@[simp] theorem returns_pure (x : α) : Returns (pure x : Action σ α) s := ⟨x, s, rfl⟩

@[simp] theorem not_returns_fail (e : Failure) : ¬Returns (fail e : Action σ α) s := by
  rintro ⟨x, t, h⟩
  cases h

@[simp] theorem returns_record (e : Event) : Returns (record e : Action σ Unit) s := ⟨(), _, rfl⟩

@[simp] theorem returns_sleep {seconds : Seconds} : Returns (sleep seconds : Action σ Unit) s ↔ seconds.IsPause := by
  rw [sleep, Seconds.IsPause]
  cases seconds.pauseError? <;> simp

theorem returns_bind {a : Action σ α} {f : α → Action σ β} :
    Returns (a >>= f) s ↔ ∃ x t, a.run s = (.ok x, t) ∧ Returns (f x) t := by
  constructor
  · rintro ⟨y, u, h⟩
    rcases run_bind_eq h with ⟨e, -, he⟩ | ⟨x, t, ha, hf⟩
    · cases he
    · exact ⟨x, t, ha, y, u, hf⟩
  · rintro ⟨x, t, ha, y, u, hf⟩
    exact ⟨y, u, (run_bind_ok ha f).trans hf⟩

theorem returns_lift_bind {r : Except Failure α} {f : α → Action σ β} :
    Returns (lift r >>= f) s ↔ ∃ x, r = .ok x ∧ Returns (f x) s := by
  rw [returns_bind]
  constructor
  · rintro ⟨x, t, h, hf⟩
    cases h
    exact ⟨x, rfl, hf⟩
  · rintro ⟨x, rfl, hf⟩
    exact ⟨x, s, rfl, hf⟩

/-- What comes next ends well or not, whatever session it starts from. -/
theorem returns_bind_of_forall {a : Action σ α} {f : α → Action σ β} {p : Prop}
    (hf : ∀ x t, Returns (f x) t ↔ p) : Returns (a >>= f) s ↔ Returns a s ∧ p := by
  simp only [returns_bind, hf, exists_and_right]
  rfl

end Action

open ClusterHarness.Action Client

def Http.Response.IsAcknowledged (r : Response) : Prop :=
  ∃ fields acknowledged, r.json = .ok (.obj fields) ∧
    Fields.get? "acknowledged" fields = some acknowledged ∧ acknowledged.truthy = true

namespace Client

variable {σ : Type} {c : Client σ} {r : Request} {s t u : Session σ} {response : Response}

/-- The request is answered, be it by an error. -/
def Receives (c : Client σ) (s : Session σ) (r : Request) (response : Response) : Prop :=
  ∃ t, (c.send r).run s = (.ok response, t)

theorem Receives.unique {response' : Response} (h : c.Receives s r response) (h' : c.Receives s r response') :
    response = response' := by
  obtain ⟨t, ht⟩ := h
  obtain ⟨u, hu⟩ := h'
  rw [ht] at hu
  cases hu
  rfl

/-- The client does not take the response's warnings for an error. -/
def Tolerates (c : Client σ) (response : Response) : Prop :=
  response.warnings = [] ∨ c.settings.strictDeprecationMode = false

theorem check_returns (htarget : ∃ p, target r = .ok p) :
    Returns (c.check r none response) s ↔ ¬response.IsRefusal ∧ c.Tolerates response := by
  obtain ⟨⟨method, path⟩, htarget⟩ := htarget
  rw [check, ← Response.isOk_eq_true]
  cases response.isOk with
  | false => simp
  | true =>
    cases hwarnings : response.warnings with
    | nil => simp [Tolerates, hwarnings]
    | cons w ws =>
      cases hstrict : c.settings.strictDeprecationMode with
      | true => simp [Tolerates, isStrict, hwarnings, hstrict]
      | false => simp [Tolerates, isStrict, hwarnings, hstrict, returns_lift_bind, htarget, log]

end Client

namespace PersistentSettings

variable {σ : Type} {c : Client σ} {s : Session σ} {response : Response}

/-- What is made of the document that a write is answered with. -/
def acknowledge (v : Json) : Action σ Unit := do
  let acknowledged ← refuseShape (v.member "acknowledged")
  if acknowledged.truthy then return ()
  else .fail (.http (.make v none (some "Cluster settings update not acknowledged.")))

theorem write_eq (c : Client σ) (settings : Json) : write c settings =
    c.send (writeRequest settings) >>= fun response => c.check (writeRequest settings) none response >>=
      fun _ => .lift (response.json.mapError .ofBody) >>= acknowledge := by
  simp only [write, Client.json, Client.response, bind_assoc, pure_bind]
  rfl

theorem acknowledge_returns {v : Json} : Returns (acknowledge v : Action σ Unit) s ↔
    ∃ fields acknowledged, v = .obj fields ∧ Fields.get? "acknowledged" fields = some acknowledged ∧
      acknowledged.truthy = true := by
  rw [acknowledge, refuseShape, returns_lift_bind]
  cases v with
  | obj fields =>
    cases hget : Fields.get? "acknowledged" fields with
    | none => simp [Json.member, Json.members, Except.map, hget, Json.truthy]
    | some acknowledged =>
      cases htruthy : acknowledged.truthy <;>
        simp [Json.member, Json.members, Except.map, hget, htruthy]
  | _ => simp [Json.member, Json.members, Except.map]

theorem read_acknowledge_returns : Returns (.lift (response.json.mapError .ofBody) >>= acknowledge) s ↔
    response.IsAcknowledged := by
  simp only [returns_lift_bind, mapError_eq_ok, acknowledge_returns, Response.IsAcknowledged]
  constructor
  · rintro ⟨_, hjson, fields, acknowledged, rfl, hget, htruthy⟩
    exact ⟨fields, acknowledged, hjson, hget, htruthy⟩
  · rintro ⟨fields, acknowledged, hjson, hget, htruthy⟩
    exact ⟨_, hjson, fields, acknowledged, rfl, hget, htruthy⟩

theorem write_returns_iff {settings : Json} : Returns (write c settings) s ↔
    ∃ response, c.Receives s (writeRequest settings) response ∧
      (¬response.IsRefusal ∧ c.Tolerates response) ∧ response.IsAcknowledged := by
  have htarget : ∃ p, target (writeRequest settings) = .ok p := ⟨_, (writeRequest_consists settings).target⟩
  rw [write_eq, returns_bind]
  refine exists_congr fun response => ?_
  have hrest : ∀ t, Returns (c.check (writeRequest settings) none response >>= fun _ =>
      .lift (response.json.mapError .ofBody) >>= acknowledge) t ↔
        (¬response.IsRefusal ∧ c.Tolerates response) ∧ response.IsAcknowledged := fun t => by
    rw [returns_bind_of_forall fun _ _ => read_acknowledge_returns, check_returns htarget]
  simp only [hrest, exists_and_right]
  rfl

theorem update_returns_iff {setting : Text} {value : Json} {settle : Seconds} :
    Returns (update c setting value settle) s ↔
      (∃ response, c.Receives s (writeRequest (.obj [(setting, value)])) response ∧ response.status = 200) ∧
        settle.IsPause := by
  have hstatus : update c setting value settle = c.send (writeRequest (.obj [(setting, value)])) >>=
      fun response => if response.status = 200 then .sleep settle else
        .fail (.http (.ofText (some response.status) ("Failed to update cluster setting " ++ setting))) := by
    simp only [update, Client.status, bind_assoc, pure_bind]
  have hrest : ∀ (response : Response) (t : Session σ), Returns (if response.status = 200 then .sleep settle else
      .fail (.http (.ofText (some response.status) ("Failed to update cluster setting " ++ setting)))) t ↔
        response.status = 200 ∧ settle.IsPause := fun response t => by
    by_cases h : response.status = 200 <;> simp [h]
  rw [hstatus, returns_bind]
  simp only [hrest, ← and_assoc, exists_and_right]
  rfl

/-- What is known of the response once a write of settings ended well. -/
structure TellsResponse (c : Client σ) (s : Session σ) : Prop where
  written : ∀ settings, Returns (write c settings) s → ∃ response,
    c.Receives s (writeRequest settings) response ∧ ¬response.IsRefusal ∧ response.IsAcknowledged
  accepted : ∀ settings response, c.Receives s (writeRequest settings) response → response.IsSuccess →
    (Returns (write c settings) s ↔ response.IsAcknowledged ∧ c.Tolerates response)
  updated : ∀ setting value settle, Returns (update c setting value settle) s ↔
    (∃ response, c.Receives s (writeRequest (.obj [(setting, value)])) response ∧ response.status = 200) ∧
      settle.IsPause
  alike : ∀ setting value settle, Returns (update c setting value settle) s →
    (Returns (write c (.obj [(setting, value)])) s ↔ ∃ response,
      c.Receives s (writeRequest (.obj [(setting, value)])) response ∧ response.IsAcknowledged ∧
        c.Tolerates response)

theorem write_of_success {settings : Json} (hreceived : c.Receives s (writeRequest settings) response)
    (hsuccess : response.IsSuccess) :
    Returns (write c settings) s ↔ response.IsAcknowledged ∧ c.Tolerates response := by
  have hpassed : ¬response.IsRefusal := by
    unfold Response.IsSuccess at hsuccess
    unfold Response.IsRefusal
    omega
  rw [write_returns_iff]
  constructor
  · rintro ⟨response', hreceived', ⟨-, htolerated⟩, hacknowledged⟩
    cases hreceived.unique hreceived'
    exact ⟨hacknowledged, htolerated⟩
  · rintro ⟨hacknowledged, htolerated⟩
    exact ⟨response, hreceived, ⟨hpassed, htolerated⟩, hacknowledged⟩

/-- The writer of whole settings ends well on an acknowledgement. The writer of a single setting goes by the
status, and by whether one can wait so long for the setting to settle. -/
theorem writes_tell_response (c : Client σ) (s : Session σ) : TellsResponse c s where
  written settings h := by
    obtain ⟨response, hreceived, ⟨hpassed, -⟩, hacknowledged⟩ := write_returns_iff.mp h
    exact ⟨response, hreceived, hpassed, hacknowledged⟩
  accepted settings response hreceived hsuccess := write_of_success hreceived hsuccess
  updated setting value settle := update_returns_iff
  alike setting value settle h := by
    obtain ⟨⟨response, hreceived, hstatus⟩, -⟩ := update_returns_iff.mp h
    have hsuccess : response.IsSuccess := by
      rw [Response.IsSuccess, hstatus]
      decide
    rw [write_of_success hreceived hsuccess]
    constructor
    · exact fun h => ⟨response, hreceived, h⟩
    · rintro ⟨response', hreceived', h⟩
      rwa [hreceived.unique hreceived']

/-- A success that says otherwise. -/
def unacknowledging : Response := .holding (.obj [("acknowledged", .bool false)])

theorem unacknowledging_json : unacknowledging.json = .ok (.obj [("acknowledged", .bool false)]) :=
  (Response.holding_gives (by decide) (by decide)).document

/-- The writer of a single setting takes the status for an acknowledgement. -/
theorem unacknowledged_update_returns :
    Returns (update ⟨threeHosts, scripted⟩ "a" (.int 1) defaultSettle) ⟨0, [.response unacknowledging], []⟩ ∧
      ¬unacknowledging.IsAcknowledged ∧
      ¬Returns (write ⟨threeHosts, scripted⟩ (.obj [("a", .int 1)])) ⟨0, [.response unacknowledging], []⟩ := by
  have hreceived : Client.Receives ⟨threeHosts, scripted⟩ ⟨0, [.response unacknowledging], []⟩
      (writeRequest (.obj [("a", .int 1)])) unacknowledging := ⟨_, rfl⟩
  have hnot : ¬unacknowledging.IsAcknowledged := by
    rintro ⟨fields, acknowledged, hjson, hget, htruthy⟩
    rw [unacknowledging_json] at hjson
    cases hjson
    cases hget
    cases htruthy
  refine ⟨update_returns_iff.mpr ⟨⟨_, hreceived, rfl⟩, by decide⟩, hnot, fun h => ?_⟩
  exact hnot ((write_of_success hreceived (by decide)).mp h).1

end PersistentSettings

end ClusterHarness
