import ClusterHarness.Proofs.Http.Inquiry
import Mathlib.Data.List.Nodup
import Mathlib.Data.Nat.ModEq

/-!
Failover. A request is tried on the hosts in turn, starting at the host in use; the host that answers
becomes the host in use, and stays it until another one answers.
-/

namespace ClusterHarness

open Http ClusterHarness.Action

structure Attempt where
  host : Nat
  call : Call
  outcome : Outcome

namespace Attempt

def isUnreachable (a : Attempt) : Bool :=
  match a.outcome with
  | .fault f _ => f.isUnreachable
  | .response _ => false

def answering? (a : Attempt) : Option Nat :=
  match a.outcome with
  | .response _ => some a.host
  | .fault _ _ => none

end Attempt

structure Exchange where
  inquiry : Inquiry
  attempts : List Attempt
  result : Except Failure Answer

namespace Exchange

def answering? (e : Exchange) : Option Nat := e.attempts.getLast?.bind Attempt.answering?

def lastAnswering? (es : List Exchange) : Option Nat := (es.filterMap answering?).getLast?

end Exchange

variable {σ : Type}

/-- The far side answers the attempts one after another. -/
def Replied (wire : Call → σ → Outcome × σ) : List Attempt → σ → σ → Prop
  | [], far, far' => far' = far
  | a :: as, far, far' => ∃ mid, wire a.call far = (a.outcome, mid) ∧ Replied wire as mid far'

namespace Client

/-- What a request ends with when its last host does not answer. -/
def faultFailure (f : Fault) (message : Text) : Failure :=
  if f.isUnreachable || f.isTimeout then .http ⟨.obj [], none, some message⟩ else .connection f message

def hostCall (c : Client σ) (method path : Text) (r : Request) (host : Nat) : Call :=
  c.call method path r ((c.baseUrls[host]?).getD [])

theorem callsOf_attempt (events : List Event) (call : Call) :
    callsOf (events ++ attemptEvents call) = callsOf events ++ [call] := by
  rw [callsOf, List.filterMap_append]
  rfl

/-- The session after an attempt that left the far side in the given state. -/
def called (s : Session σ) (call : Call) (far : σ) : Session σ :=
  { s with far := far, trace := s.trace ++ attemptEvents call }

theorem perform_run (c : Client σ) (call : Call) (s : Session σ) :
    (c.perform call).run s = (.ok (c.wire call s.far).1, called s call (c.wire call s.far).2) := rfl

section

variable (c : Client σ) (method path : Text) (r : Request) (host : Nat) (hosts : List Nat)
variable (last : Text) (s : Session σ) {far : σ} {response : Response} {f : Fault} {message : Text}

theorem tryHosts_answered
    (hw : c.wire (c.hostCall method path r host) s.far = (.response response, far)) :
    (c.tryHosts method path r last (host :: hosts)).run s =
      (.ok response, { called s (c.hostCall method path r host) far with host := host }) := by
  unfold hostCall at hw ⊢
  simp only [tryHosts, run_bind, perform_run, hw]
  rfl

theorem tryHosts_moved (hf : f.isUnreachable = true)
    (hw : c.wire (c.hostCall method path r host) s.far = (.fault f message, far)) :
    ∃ note, (c.tryHosts method path r last (host :: hosts)).run s =
      (c.tryHosts method path r message hosts).run
        { called s (c.hostCall method path r host) far with
          trace := s.trace ++ attemptEvents (c.hostCall method path r host) ++ [.log .warning note] } := by
  unfold hostCall at hw ⊢
  simp only [tryHosts, run_bind, perform_run, hw, hf]
  exact ⟨_, rfl⟩

theorem tryHosts_stopped (hf : f.isUnreachable = false)
    (hw : c.wire (c.hostCall method path r host) s.far = (.fault f message, far)) :
    (c.tryHosts method path r last (host :: hosts)).run s =
      (.error (faultFailure f message), called s (c.hostCall method path r host) far) := by
  unfold hostCall at hw ⊢
  simp only [tryHosts, run_bind, perform_run, hw, hf, faultFailure, Bool.false_or]
  by_cases ht : f.isTimeout = true <;> simp only [ht] <;> rfl

end

/-- How trying hosts ends, told from the last attempt. -/
def Ending (hosts : List Nat) (last : Text) (start : Nat) (as : List Attempt)
    (result : Except Failure Response) (finish : Nat) : Prop :=
  match as.getLast? with
  | none => hosts = [] ∧ finish = start ∧ result = .error (noAnswer last)
  | some a =>
    match a.outcome with
    | .response response => finish = a.host ∧ result = .ok response
    | .fault f message =>
      finish = start ∧ result = .error (faultFailure f message) ∧
        (f.isUnreachable = true → as.map Attempt.host = hosts)

structure Trial (c : Client σ) (method path : Text) (r : Request) (hosts : List Nat) (last : Text)
    (s : Session σ) (as : List Attempt) (result : Except Failure Response) (t : Session σ) : Prop where
  inTurn : as.map Attempt.host <+: hosts
  calls : ∀ a ∈ as, a.call = c.hostCall method path r a.host
  sent : callsOf t.trace = callsOf s.trace ++ as.map Attempt.call
  replied : Replied c.wire as s.far t.far
  moved : ∀ a ∈ as.dropLast, a.isUnreachable = true
  ended : Ending hosts last s.host as result t.host

theorem Ending.cons {host : Nat} {hosts : List Nat} {start : Nat} {call : Call} {f : Fault}
    {message last : Text} {as : List Attempt} {result : Except Failure Response} {finish : Nat}
    (hf : f.isUnreachable = true) (h : Ending hosts message start as result finish) :
    Ending (host :: hosts) last start (⟨host, call, .fault f message⟩ :: as) result finish := by
  cases as with
  | nil =>
    obtain ⟨rfl, rfl, rfl⟩ := h
    exact ⟨rfl, by simp [faultFailure, hf, noAnswer, HttpError.ofText, HttpError.make, Json.truthy],
      fun _ => rfl⟩
  | cons a as =>
    unfold Ending at h ⊢
    rw [List.getLast?_cons_cons]
    rcases hlast : (a :: as).getLast? with _ | b
    · simp at hlast
    · rw [hlast] at h
      rcases ho : b.outcome with response | ⟨g, text⟩
      · simpa only [ho] using h
      · simp only [ho] at h ⊢
        exact ⟨h.1, h.2.1, fun hg => congrArg (List.cons host) (h.2.2 hg)⟩

namespace Trial

variable {c : Client σ} {method path last : Text} {r : Request} {host : Nat} {hosts : List Nat}
  {s : Session σ} {far : σ} {response : Response} {f : Fault} {message : Text}

theorem answered (hw : c.wire (c.hostCall method path r host) s.far = (.response response, far)) :
    Trial c method path r (host :: hosts) last s
      [⟨host, c.hostCall method path r host, .response response⟩] (.ok response)
      { called s (c.hostCall method path r host) far with host := host } where
  inTurn := ⟨hosts, rfl⟩
  calls a ha := by rw [List.mem_singleton.mp ha]
  sent := callsOf_attempt _ _
  replied := ⟨far, hw, rfl⟩
  moved := by simp
  ended := ⟨rfl, rfl⟩

theorem stopped (hf : f.isUnreachable = false)
    (hw : c.wire (c.hostCall method path r host) s.far = (.fault f message, far)) :
    Trial c method path r (host :: hosts) last s
      [⟨host, c.hostCall method path r host, .fault f message⟩] (.error (faultFailure f message))
      (called s (c.hostCall method path r host) far) where
  inTurn := ⟨hosts, rfl⟩
  calls a ha := by rw [List.mem_singleton.mp ha]
  sent := callsOf_attempt _ _
  replied := ⟨far, hw, rfl⟩
  moved := by simp
  ended := ⟨rfl, rfl, fun h => absurd (hf.symm.trans h) (by decide)⟩

theorem cons {note : Text} {as : List Attempt} {result : Except Failure Response} {t : Session σ}
    (hf : f.isUnreachable = true)
    (hw : c.wire (c.hostCall method path r host) s.far = (.fault f message, far))
    (h : Trial c method path r hosts message
      { called s (c.hostCall method path r host) far with
        trace := s.trace ++ attemptEvents (c.hostCall method path r host) ++ [.log .warning note] }
      as result t) :
    Trial c method path r (host :: hosts) last s
      (⟨host, c.hostCall method path r host, .fault f message⟩ :: as) result t where
  inTurn := List.cons_prefix_cons.mpr ⟨rfl, h.inTurn⟩
  calls a ha := by
    rcases List.mem_cons.mp ha with rfl | ha
    · rfl
    · exact h.calls a ha
  sent := by
    rw [h.sent, callsOf_log, callsOf_attempt, List.append_assoc]
    rfl
  replied := ⟨far, hw, h.replied⟩
  moved a ha := by
    cases as with
    | nil => simp at ha
    | cons b as =>
      rw [List.dropLast_cons_cons] at ha
      rcases List.mem_cons.mp ha with rfl | ha
      · exact hf
      · exact h.moved a ha
  ended := h.ended.cons hf

end Trial

theorem tryHosts_trial (c : Client σ) (method path : Text) (r : Request) (hosts : List Nat)
    (last : Text) (s : Session σ) :
    ∃ as, Trial c method path r hosts last s as
      ((c.tryHosts method path r last hosts).run s).1
      ((c.tryHosts method path r last hosts).run s).2 := by
  induction hosts generalizing last s with
  | nil => exact ⟨[], ⟨List.nil_prefix, by simp, by simp [tryHosts], rfl, by simp, rfl, rfl, rfl⟩⟩
  | cons host hosts ih =>
    rcases hw : c.wire (c.hostCall method path r host) s.far with ⟨response | ⟨f, message⟩, far⟩
    · rw [tryHosts_answered c method path r host hosts last s hw]
      exact ⟨_, .answered hw⟩
    · cases hf : f.isUnreachable with
      | false =>
        rw [tryHosts_stopped c method path r host hosts last s hf hw]
        exact ⟨_, .stopped hf hw⟩
      | true =>
        obtain ⟨note, heq⟩ := tryHosts_moved c method path r host hosts last s hf hw
        rw [heq]
        obtain ⟨as, h⟩ := ih message _
        exact ⟨_, h.cons hf hw⟩

theorem length_rotation (count start : Nat) : (rotation count start).length = count := by
  simp [rotation]

theorem rotation_nodup (count start : Nat) : (rotation count start).Nodup := by
  refine List.Nodup.map_on ?_ List.nodup_range
  intro j hj k hk h
  have hmod : j ≡ k [MOD count] := Nat.ModEq.add_left_cancel' start h
  rwa [Nat.ModEq, Nat.mod_eq_of_lt (List.mem_range.mp hj), Nat.mod_eq_of_lt (List.mem_range.mp hk)] at hmod

theorem prefix_rotation {count start : Nat} {hosts : List Nat} (h : hosts <+: rotation count start) :
    hosts = (List.range hosts.length).map fun k => (start + k) % count := by
  have hle : hosts.length ≤ count := by simpa [length_rotation] using h.length_le
  have htake := List.prefix_iff_eq_take.mp h
  rw [rotation, ← List.map_take, List.take_range, Nat.min_eq_left hle] at htake
  exact htake

theorem send_run (c : Client σ) {r : Request} {method path : Text} (s : Session σ)
    (h : target r = .ok (method, path)) :
    (c.send r).run s = (c.tryHosts method path r "None" (rotation c.baseUrls.length s.host)).run s := by
  simp only [send, run_bind, h]
  rfl

theorem send_untargeted (c : Client σ) {r : Request} {e : Failure} (s : Session σ)
    (h : target r = .error e) : (c.send r).run s = (.error e, s) := by
  simp only [send, run_bind, h]
  rfl

theorem target_eq_ok {r : Request} {method path : Text} (h : target r = .ok (method, path)) :
    ∃ endpoint, r.endpoint = some endpoint ∧ path = Client.path endpoint := by
  unfold target at h
  split at h
  · next m endpoint _ hendpoint =>
    cases h
    exact ⟨endpoint, hendpoint, rfl⟩
  · cases h

end Client

open Client

/-- How an exchange ends, told from its last attempt: with the host that answered in use, or with the
host unchanged and the failure of the last fault. -/
def Exchange.Ends (c : Client σ) (s : Session σ) (e : Exchange) (t : Session σ) : Prop :=
  match e.attempts.getLast? with
  | none => (e.inquiry.request.method = none ∨ e.inquiry.request.endpoint = none) ∧
      e.result = .error .noTarget ∧ t = s
  | some a =>
    match a.outcome with
    | .response _ => t.host = a.host
    | .fault f message =>
      t.host = s.host ∧ e.result = .error (faultFailure f message) ∧
        (f.isUnreachable = true → e.attempts.length = c.baseUrls.length)

/-- One request by the rules of failover. -/
structure Failover (c : Client σ) (s : Session σ) (e : Exchange) (t : Session σ) : Prop where
  ran : (e.inquiry.ask c).run s = (e.result, t)
  inRange : t.host < c.baseUrls.length
  inTurn : e.attempts.map Attempt.host =
    (List.range e.attempts.length).map fun k => (s.host + k) % c.baseUrls.length
  once : (e.attempts.map Attempt.host).Nodup
  sent : callsOf t.trace = callsOf s.trace ++ e.attempts.map Attempt.call
  replied : Replied c.wire e.attempts s.far t.far
  calls : ∀ a ∈ e.attempts, ∃ method path base, target e.inquiry.request = .ok (method, path) ∧
    c.baseUrls[a.host]? = some base ∧ a.call = c.call method path e.inquiry.request base
  alike : ∀ a ∈ e.attempts, ∀ b ∈ e.attempts, { a.call with url := b.call.url } = b.call
  moved : ∀ a ∈ e.attempts.dropLast, a.isUnreachable = true
  ended : e.Ends c s t

namespace Failover

theorem host_eq {c : Client σ} {s t : Session σ} {e : Exchange} (h : Failover c s e t) :
    t.host = e.answering?.getD s.host := by
  have hended := h.ended
  unfold Exchange.Ends at hended
  unfold Exchange.answering?
  rcases hlast : e.attempts.getLast? with _ | a
  · simp only [hlast] at hended
    simp [hended.2.2]
  · simp only [hlast] at hended
    rcases ho : a.outcome with response | ⟨f, message⟩
    · simpa [ho, Attempt.answering?] using hended
    · simp only [ho] at hended
      simpa [ho, Attempt.answering?] using hended.1

theorem first_host {c : Client σ} {s t : Session σ} {e : Exchange} (h : Failover c s e t)
    (hs : s.host < c.baseUrls.length) {a : Attempt} (ha : e.attempts.head? = some a) :
    a.host = s.host := by
  have hturn := h.inTurn
  rcases he : e.attempts with _ | ⟨b, as⟩
  · simp [he] at ha
  · rw [he, List.head?_cons, Option.some.injEq] at ha
    subst ha
    rw [he, List.length_cons, List.range_succ_eq_map, List.map_cons, List.map_cons,
      List.cons.injEq, Nat.add_zero, Nat.mod_eq_of_lt hs] at hturn
    exact hturn.1

end Failover

theorem ask_untargeted (c : Client σ) (q : Inquiry) (s : Session σ)
    (hs : s.host < c.baseUrls.length) {e : Failure} (h : target q.request = .error e) :
    Failover c s ⟨q, [], .error e⟩ s where
  ran := by rw [Inquiry.ask_eq, run_bind, send_untargeted c s h]
  inRange := hs
  inTurn := rfl
  once := List.nodup_nil
  sent := (List.append_nil _).symm
  replied := rfl
  calls := by simp
  alike := by simp
  moved := by simp
  ended := by
    unfold target at h
    split at h
    · cases h
    · next hnone =>
      cases h
      refine ⟨?_, rfl, rfl⟩
      by_contra hboth
      obtain ⟨hm, he⟩ := not_or.mp hboth
      obtain ⟨m, hm⟩ := Option.ne_none_iff_exists'.mp hm
      obtain ⟨p, he⟩ := Option.ne_none_iff_exists'.mp he
      exact hnone m p hm he

/-- What follows the sending neither calls nor changes the host, and keeps the failure to send. -/
theorem ask_of_send (c : Client σ) (q : Inquiry) (s : Session σ) :
    ((q.ask c).run s).2.host = ((c.send q.request).run s).2.host ∧
      ((q.ask c).run s).2.far = ((c.send q.request).run s).2.far ∧
      callsOf ((q.ask c).run s).2.trace = callsOf ((c.send q.request).run s).2.trace ∧
      ∀ e, ((c.send q.request).run s).1 = .error e → ((q.ask c).run s).1 = .error e := by
  rw [Inquiry.ask_eq, run_bind]
  rcases (c.send q.request).run s with ⟨e | response, u⟩
  · exact ⟨rfl, rfl, rfl, fun _ h => by cases h; rfl⟩
  · obtain ⟨hhost, hfar, hcalls⟩ := q.quiet_conclude c response u
    exact ⟨hhost, hfar, hcalls, fun _ h => by cases h⟩

theorem rotation_ne_nil {count : Nat} (start : Nat) (h : 0 < count) : rotation count start ≠ [] := by
  rw [← List.length_pos_iff, length_rotation]
  exact h

theorem Exchange.Ends.inRange {s t : Session σ} {e : Exchange} (h : e.Ends c s t)
    (hs : s.host < c.baseUrls.length) (hall : ∀ a ∈ e.attempts, a.host < c.baseUrls.length) :
    t.host < c.baseUrls.length := by
  unfold Ends at h
  rcases hlast : e.attempts.getLast? with _ | a
  · simp only [hlast] at h
    rw [h.2.2]
    exact hs
  · simp only [hlast] at h
    rcases ho : a.outcome with response | ⟨f, message⟩
    · simp only [ho] at h
      rw [h]
      exact hall a (List.mem_of_getLast? hlast)
    · simp only [ho] at h
      rw [h.1]
      exact hs

theorem Client.Trial.ends {method path : Text} {r : Request} {last : Text} {s t u : Session σ}
    {as : List Attempt} {result : Except Failure Response} {q : Inquiry} {answer : Except Failure Answer}
    (trial : Trial c method path r (rotation c.baseUrls.length s.host) last s as result t)
    (hosts : 0 < c.baseUrls.length) (hhost : u.host = t.host)
    (herror : ∀ e, result = .error e → answer = .error e) :
    Exchange.Ends c s ⟨q, as, answer⟩ u := by
  have hended := trial.ended
  unfold Ending at hended
  unfold Exchange.Ends
  rcases hlast : as.getLast? with _ | a
  · simp only [hlast] at hended
    exact absurd hended.1 (rotation_ne_nil _ hosts)
  · simp only [hlast] at hended ⊢
    rcases ho : a.outcome with response | ⟨f, message⟩
    · simp only [ho] at hended ⊢
      exact hhost.trans hended.1
    · simp only [ho] at hended ⊢
      refine ⟨hhost.trans hended.1, herror _ hended.2.1, fun hf => ?_⟩
      simpa [length_rotation] using congrArg List.length (hended.2.2 hf)

theorem ask_targeted (c : Client σ) (q : Inquiry) (s : Session σ)
    (hs : s.host < c.baseUrls.length) {method path : Text}
    (h : target q.request = .ok (method, path)) :
    ∃ as, Failover c s ⟨q, as, ((q.ask c).run s).1⟩ ((q.ask c).run s).2 := by
  have hosts : 0 < c.baseUrls.length := Nat.zero_lt_of_lt hs
  obtain ⟨hhost, hfar, hcalls, herror⟩ := ask_of_send c q s
  rw [send_run c s h] at hhost hfar hcalls herror
  obtain ⟨as, trial⟩ := tryHosts_trial c method path q.request
    (rotation c.baseUrls.length s.host) "None" s
  have hturn := prefix_rotation trial.inTurn
  rw [List.length_map] at hturn
  have hrange : ∀ a ∈ as, a.host < c.baseUrls.length := by
    intro a ha
    have hmem : a.host ∈ as.map Attempt.host := List.mem_map_of_mem ha
    rw [hturn] at hmem
    obtain ⟨k, -, hk⟩ := List.mem_map.mp hmem
    exact hk ▸ Nat.mod_lt _ hosts
  have hended : Exchange.Ends c s ⟨q, as, ((q.ask c).run s).1⟩ ((q.ask c).run s).2 :=
    trial.ends hosts hhost herror
  refine ⟨as, rfl, hended.inRange hs hrange, hturn, ?_, ?_, ?_, ?_, ?_, trial.moved, hended⟩
  · exact trial.inTurn.sublist.nodup (rotation_nodup _ _)
  · rw [hcalls, trial.sent]
  · rw [hfar]
    exact trial.replied
  · intro a ha
    exact ⟨method, path, _, h, List.getElem?_eq_getElem (hrange a ha), by
      rw [trial.calls a ha, hostCall, List.getElem?_eq_getElem (hrange a ha), Option.getD_some]⟩
  · intro a ha b hb
    rw [trial.calls a ha, trial.calls b hb]
    rfl

theorem ask_fails_over (c : Client σ) (q : Inquiry) (s : Session σ)
    (hs : s.host < c.baseUrls.length) :
    ∃ as, Failover c s ⟨q, as, ((q.ask c).run s).1⟩ ((q.ask c).run s).2 := by
  rcases h : target q.request with e | ⟨method, path⟩
  · have hrun : (q.ask c).run s = (.error e, s) := (ask_untargeted c q s hs h).ran
    rw [hrun]
    exact ⟨[], ask_untargeted c q s hs h⟩
  · exact ask_targeted c q s hs h

/-- A run of requests, one exchange after another. -/
inductive Conversation (c : Client σ) : Session σ → List Exchange → Session σ → Prop
  | done (s : Session σ) : Conversation c s [] s
  | next {s t u : Session σ} {e : Exchange} {es : List Exchange} :
      Failover c s e t → Conversation c t es u → Conversation c s (e :: es) u

theorem askAll_conversation (c : Client σ) (qs : List Inquiry) (s : Session σ)
    (hs : s.host < c.baseUrls.length) :
    ∃ es, es.map Exchange.inquiry = qs ∧ es.map Exchange.result = (Inquiry.askAll c qs s).1 ∧
      Conversation c s es (Inquiry.askAll c qs s).2 := by
  induction qs generalizing s with
  | nil => exact ⟨[], rfl, rfl, .done s⟩
  | cons q qs ih =>
    obtain ⟨as, h⟩ := ask_fails_over c q s hs
    obtain ⟨es, hqs, hresults, hes⟩ := ih _ h.inRange
    refine ⟨⟨q, as, ((q.ask c).run s).1⟩ :: es, ?_, ?_, .next h hes⟩
    · rw [List.map_cons, hqs]
    · rw [List.map_cons, hresults]
      rfl

namespace Exchange

theorem lastAnswering?_cons (e : Exchange) (es : List Exchange) (host : Nat) :
    (lastAnswering? (e :: es)).getD host = (lastAnswering? es).getD (e.answering?.getD host) := by
  unfold lastAnswering?
  rcases he : e.answering? with _ | k
  · rw [List.filterMap_cons_none he, Option.getD_none]
  · rw [List.filterMap_cons_some he, List.getLast?_cons, Option.getD_some, Option.getD_some]

end Exchange

namespace Conversation

variable {c : Client σ} {s t : Session σ}

theorem host_eq {es : List Exchange} (h : Conversation c s es t) :
    t.host = (Exchange.lastAnswering? es).getD s.host := by
  induction h with
  | done => rfl
  | @next s u t e es he _ ih => rw [ih, Exchange.lastAnswering?_cons, he.host_eq]

theorem inRange {es : List Exchange} (h : Conversation c s es t) (hs : s.host < c.baseUrls.length) :
    t.host < c.baseUrls.length := by
  induction h with
  | done => exact hs
  | next he _ ih => exact ih he.inRange

theorem split {earlier later : List Exchange} {e : Exchange}
    (h : Conversation c s (earlier ++ e :: later) t) :
    ∃ u v, Conversation c s earlier u ∧ Failover c u e v ∧ Conversation c v later t := by
  induction earlier generalizing s with
  | nil =>
    cases h with
    | next he h => exact ⟨_, _, .done s, he, h⟩
  | cons d earlier ih =>
    cases h with
    | next hd h =>
      obtain ⟨u, v, hu, he, hv⟩ := ih h
      exact ⟨u, v, .next hd hu, he, hv⟩

theorem calls {es : List Exchange} (h : Conversation c s es t) :
    ∀ e ∈ es, ∀ a ∈ e.attempts, ∃ method path base, target e.inquiry.request = .ok (method, path) ∧
      c.baseUrls[a.host]? = some base ∧ a.call = c.call method path e.inquiry.request base := by
  induction h with
  | done => exact fun _ he => absurd he List.not_mem_nil
  | next he _ ih => exact List.forall_mem_cons.mpr ⟨he.calls, ih⟩

theorem first_host {earlier later : List Exchange} {e : Exchange} {a : Attempt}
    (h : Conversation c s (earlier ++ e :: later) t) (hs : s.host < c.baseUrls.length)
    (ha : e.attempts.head? = some a) : a.host = (Exchange.lastAnswering? earlier).getD s.host := by
  obtain ⟨u, v, hu, he, -⟩ := h.split
  rw [he.first_host (hu.inRange hs) ha, hu.host_eq]

end Conversation

/-- The requests of a client are a conversation, in which each one begins at the host that answered last, or at
the first one while none has. -/
theorem conversation_fails_over (c : Client σ) (hosts : 0 < c.baseUrls.length) (far : σ)
    (qs : List Inquiry) :
    ∃ es, es.map Exchange.inquiry = qs ∧
      es.map Exchange.result = (Inquiry.askAll c qs ⟨0, far, []⟩).1 ∧
      Conversation c ⟨0, far, []⟩ es (Inquiry.askAll c qs ⟨0, far, []⟩).2 ∧
      ∀ earlier e later, es = earlier ++ e :: later → ∀ a, e.attempts.head? = some a →
        a.host = (Exchange.lastAnswering? earlier).getD 0 := by
  obtain ⟨es, hqs, hresults, h⟩ := askAll_conversation c qs ⟨0, far, []⟩ hosts
  refine ⟨es, hqs, hresults, h, ?_⟩
  rintro earlier e later rfl a ha
  exact h.first_host hosts ha

def threeHosts : ClientSettings := ⟨["a", "b", "c"], .plain, true, none, none, 10, 30, []⟩

def ping : Inquiry := ⟨.bare "GET" "_cluster/health", .json, none⟩

/-- The first host is unreachable, the second one refuses, and the next request times out there. -/
def stumbling : List Outcome :=
  [.fault .ssl "no handshake", .response (.utf8 503 [] [] false), .fault .readTimeout "too slow"]

theorem conversation_fails_over_three_hosts :
    0 < (Client.baseUrls ⟨threeHosts, scripted⟩).length ∧
      ∃ es, es.map Exchange.inquiry = [ping, ping] ∧
        es.map Exchange.result = (Inquiry.askAll ⟨threeHosts, scripted⟩ [ping, ping] ⟨0, stumbling, []⟩).1 ∧
        Conversation ⟨threeHosts, scripted⟩ ⟨0, stumbling, []⟩ es
          (Inquiry.askAll ⟨threeHosts, scripted⟩ [ping, ping] ⟨0, stumbling, []⟩).2 ∧
        ∀ earlier e later, es = earlier ++ e :: later → ∀ a, e.attempts.head? = some a →
          a.host = (Exchange.lastAnswering? earlier).getD 0 :=
  ⟨by decide, conversation_fails_over ⟨threeHosts, scripted⟩ (by decide) stumbling [ping, ping]⟩

end ClusterHarness
