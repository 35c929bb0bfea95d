import ClusterHarness.Proofs.Http.Refusal
import Mathlib.Logic.Relation

/-!
What a request does to the far side. It makes calls of one kind on the hosts, and what it ends with, if
it ends well, is what the last of them was answered with.
-/

namespace ClusterHarness

open Http ClusterHarness.Action Relation

variable {σ : Type}

namespace Client

variable (c : Client σ) (method path : Text) (r : Request)

def Places (call : Call) : Prop := ∃ base ∈ c.baseUrls, call = c.call method path r base

/-- Calls of the request lead the far side from one state to another. -/
def Leads : σ → σ → Prop :=
  ReflTransGen fun far far' => ∃ call, c.Places method path r call ∧ (c.wire call far).2 = far'

/-- The request leads to a state in which a call of it is answered, and the answer to its end. -/
def Ended (response : Response) (far far' : σ) : Prop :=
  ∃ call mid, c.Places method path r call ∧ c.Leads method path r far mid ∧
    c.wire call mid = (.response response, far')

variable {c method path r} {host : Nat} {s t : Session σ} {response : Response}

theorem hostCall_places (h : host < c.baseUrls.length) :
    c.Places method path r (c.hostCall method path r host) := by
  refine ⟨c.baseUrls[host], List.getElem_mem h, ?_⟩
  rw [hostCall, List.getElem?_eq_getElem h, Option.getD_some]

theorem tryHosts_ended {hosts : List Nat} {last : Text} (hhosts : ∀ host ∈ hosts, host < c.baseUrls.length)
    (h : (c.tryHosts method path r last hosts).run s = (.ok response, t)) :
    c.Ended method path r response s.far t.far := by
  induction hosts generalizing last s with
  | nil => cases h
  | cons host hosts ih =>
    rw [List.forall_mem_cons] at hhosts
    have hplaces : c.Places method path r (c.hostCall method path r host) := hostCall_places hhosts.1
    rcases hw : c.wire (c.hostCall method path r host) s.far with ⟨answer | ⟨f, message⟩, far⟩
    · rw [tryHosts_answered c method path r host hosts last s hw] at h
      cases h
      exact ⟨_, s.far, hplaces, .refl, hw⟩
    · cases hf : f.isUnreachable with
      | false =>
        rw [tryHosts_stopped c method path r host hosts last s hf hw] at h
        cases h
      | true =>
        obtain ⟨note, hmoved⟩ := tryHosts_moved c method path r host hosts last s hf hw
        rw [hmoved] at h
        obtain ⟨call, mid, hcall, hleads, hanswer⟩ := ih hhosts.2 h
        have hfirst : ∃ call, c.Places method path r call ∧ (c.wire call s.far).2 = far :=
          ⟨_, hplaces, congrArg Prod.snd hw⟩
        exact ⟨call, mid, hcall, .head hfirst hleads, hanswer⟩

theorem rotation_lt {count start : Nat} : ∀ host ∈ rotation count start, host < count := by
  intro host hhost
  obtain ⟨k, hk, rfl⟩ := List.mem_map.mp hhost
  exact Nat.mod_lt _ (Nat.zero_lt_of_lt (List.mem_range.mp hk))

theorem send_ended (htarget : target r = .ok (method, path)) (h : (c.send r).run s = (.ok response, t)) :
    c.Ended method path r response s.far t.far := by
  rw [send_run c s htarget] at h
  exact tryHosts_ended rotation_lt h

theorem json_ended {strict : Option Bool} {v : Json} (htarget : target r = .ok (method, path))
    (h : (c.json r strict).run s = (.ok v, t)) :
    ∃ response, c.Ended method path r response s.far t.far ∧ ¬response.IsRefusal ∧ response.json = .ok v := by
  rcases run_bind_eq h with ⟨e, -, he⟩ | ⟨response, u, hresponse, hread⟩
  · cases he
  rcases run_bind_eq hresponse with ⟨e, -, he⟩ | ⟨sent, w, hsent, hchecked⟩
  · cases he
  rcases run_bind_eq hchecked with ⟨e, -, he⟩ | ⟨_, x, hcheck, hpure⟩
  · cases he
  cases hpure
  rw [run_lift, Prod.mk.injEq, mapError_eq_ok] at hread
  obtain ⟨hjson, rfl⟩ := hread
  have hfar : u.far = w.far := by
    have hquiet := c.quiet_check r strict response w
    rw [hcheck] at hquiet
    exact hquiet.2.1
  refine ⟨response, hfar ▸ send_ended htarget hsent, fun hrefusal => ?_, hjson⟩
  rw [check, Response.isOk_eq_false.mpr hrefusal] at hcheck
  cases hcheck

end Client

end ClusterHarness
