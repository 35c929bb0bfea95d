import ClusterHarness.Proofs.Http.Course

/-!
Actions in lockstep. Two far sides that differ only in their responses take a client through the same
calls, to the same hosts and with the same records: what a request does until it has a response does
not hang on what the response says, nor on what was seen before.
-/

namespace ClusterHarness

open Http ClusterHarness.Action

variable {σ α β γ δ : Type}

/-- The sessions use the same host, and their far sides are in the same state. -/
def InStep (s s' : Session σ) : Prop := s'.host = s.host ∧ s'.far = s.far

theorem InStep.across {s s' t t' : Session σ} (h : InStep s s') (hleft : InStep s t) (hright : InStep s' t') :
    InStep t t' :=
  ⟨hright.1.trans (h.1.trans hleft.1.symm), hright.2.trans (h.2.trans hleft.2.symm)⟩

/-- The way from `s` to `t` adds the events of the way from `s'` to `t'`, and then some more. -/
def Adds (more : List Event) (s t s' t' : Session σ) : Prop :=
  ∃ events, t'.trace = s'.trace ++ events ∧ t.trace = s.trace ++ events ++ more

namespace Adds

variable {s t u s' t' u' : Session σ} {more : List Event}

theorem nothing (s s' : Session σ) : Adds [] s s s' s' :=
  ⟨[], (List.append_nil _).symm, by rw [List.append_nil, List.append_nil]⟩

theorem same {events : List Event} (hright : t'.trace = s'.trace ++ events) (hleft : t.trace = s.trace ++ events) :
    Adds [] s t s' t' :=
  ⟨events, hright, hleft.trans (List.append_nil _).symm⟩

theorem trans (h : Adds [] s t s' t') (h' : Adds more t u t' u') : Adds more s u s' u' := by
  obtain ⟨events, hright, hleft⟩ := h
  obtain ⟨events', hright', hleft'⟩ := h'
  refine ⟨events ++ events', ?_, ?_⟩
  · rw [hright', hright, List.append_assoc]
  · rw [hleft', hleft, List.append_nil, List.append_assoc s.trace]

end Adds

/-- From sessions in step, both actions end alike, in sessions in step, and add the same events. -/
def Lockstep (f : α → β) (a : Action σ α) (b : Action σ β) : Prop :=
  ∀ s s', InStep s s' → (b.run s').1 = (a.run s).1.map f ∧ InStep (a.run s).2 (b.run s').2 ∧
    Adds [] s (a.run s).2 s' (b.run s').2

theorem lockstep_pure (f : α → β) (x : α) : Lockstep f (pure x : Action σ α) (pure (f x)) :=
  fun s s' h => ⟨rfl, h, .nothing s s'⟩

theorem lockstep_fail (f : α → β) (e : Failure) : Lockstep f (fail e : Action σ α) (fail e) :=
  fun s s' h => ⟨rfl, h, .nothing s s'⟩

theorem lockstep_lift (r : Except Failure α) : Lockstep id (lift r : Action σ α) (lift r) :=
  fun s s' h => ⟨by rw [Except.map_id]; rfl, h, .nothing s s'⟩

theorem lockstep_log (level : Level) (message : Text) :
    Lockstep id (log level message : Action σ Unit) (log level message) :=
  fun _ _ h => ⟨rfl, h, .same rfl rfl⟩

section Bind

variable {f : α → β} {g : γ → δ} {a : Action σ α} {b : Action σ β} {s t s' : Session σ}

theorem Lockstep.error {e : Failure} (h : Lockstep f a b) (hs : InStep s s') (ha : a.run s = (.error e, t)) :
    ∃ t', b.run s' = (.error e, t') ∧ InStep t t' ∧ Adds [] s t s' t' := by
  obtain ⟨hresult, hstep, hadds⟩ := h s s' hs
  rw [ha] at hresult hstep hadds
  exact ⟨_, Prod.ext hresult rfl, hstep, hadds⟩

theorem Lockstep.ok {x : α} (h : Lockstep f a b) (hs : InStep s s') (ha : a.run s = (.ok x, t)) :
    ∃ t', b.run s' = (.ok (f x), t') ∧ InStep t t' ∧ Adds [] s t s' t' := by
  obtain ⟨hresult, hstep, hadds⟩ := h s s' hs
  rw [ha] at hresult hstep hadds
  exact ⟨_, Prod.ext hresult rfl, hstep, hadds⟩

theorem lockstep_bind {k : α → Action σ γ} {l : β → Action σ δ} (h : Lockstep f a b)
    (hk : ∀ x, Lockstep g (k x) (l (f x))) : Lockstep g (a >>= k) (b >>= l) := by
  intro s s' hs
  rcases ha : a.run s with ⟨e | x, t⟩
  · obtain ⟨t', hb, hstep, hadds⟩ := h.error hs ha
    rw [run_bind, run_bind, ha, hb]
    exact ⟨rfl, hstep, hadds⟩
  · obtain ⟨t', hb, hstep, hadds⟩ := h.ok hs ha
    obtain ⟨hresult, hafter, hmore⟩ := hk x t t' hstep
    rw [run_bind, run_bind, ha, hb]
    exact ⟨hresult, hafter, hadds.trans hmore⟩

end Bind

theorem lockstep_bind_self {g : γ → δ} {a : Action σ α} {k : α → Action σ γ} {l : α → Action σ δ}
    (h : Lockstep id a a) (hk : ∀ x, Lockstep g (k x) (l x)) : Lockstep g (a >>= k) (a >>= l) :=
  lockstep_bind h hk

namespace Http.Outcome

def revised (f : Response → Response) : Outcome → Outcome
  | .response r => .response (f r)
  | .fault g message => .fault g message

@[simp] theorem revised_id (o : Outcome) : o.revised id = o := by cases o <;> rfl

end Http.Outcome

namespace Client

/-- The client of a far side that says everything in another way. -/
def revised (c : Client σ) (f : Response → Response) : Client σ where
  settings := c.settings
  wire call far := ((c.wire call far).1.revised f, (c.wire call far).2)

@[simp] theorem revised_id (c : Client σ) : c.revised id = c := by simp [revised]

variable (c : Client σ) (f : Response → Response)

theorem lockstep_perform (call : Call) :
    Lockstep (Outcome.revised f) (c.perform call) ((c.revised f).perform call) := by
  rintro s s' ⟨hhost, hfar⟩
  rw [perform_run, perform_run, hfar]
  exact ⟨rfl, ⟨hhost, rfl⟩, .same rfl rfl⟩

theorem lockstep_settleHost (host : Nat) : Lockstep id (settleHost host : Action σ Unit) (settleHost host) :=
  fun s s' h => ⟨rfl, ⟨rfl, h.2⟩, .nothing s s'⟩

theorem lockstep_tryHosts (method path : Text) (r : Request) (last : Text) (hosts : List Nat) :
    Lockstep f (c.tryHosts method path r last hosts) ((c.revised f).tryHosts method path r last hosts) := by
  induction hosts generalizing last with
  | nil => exact lockstep_fail f _
  | cons host hosts ih =>
    refine lockstep_bind (c.lockstep_perform f _) fun outcome => ?_
    cases outcome with
    | response response => exact lockstep_bind_self (lockstep_settleHost host) fun _ => lockstep_pure f response
    | fault g message =>
      simp only [Outcome.revised]
      split
      · exact lockstep_bind_self (lockstep_log _ _) fun _ => ih message
      · split
        · exact lockstep_fail f _
        · exact lockstep_fail f _

theorem lockstep_send (r : Request) : Lockstep f (c.send r) ((c.revised f).send r) := by
  refine lockstep_bind_self (lockstep_lift _) fun _ => ?_
  have hstart : Lockstep id (fun s => (.ok s.host, s) : Action σ Nat) (fun s => (.ok s.host, s)) := by
    rintro s s' ⟨hhost, hfar⟩
    exact ⟨congrArg Except.ok hhost, ⟨hhost, hfar⟩, .nothing s s'⟩
  exact lockstep_bind_self hstart fun start => c.lockstep_tryHosts f _ _ r _ _

theorem lockstep_send_self (r : Request) : Lockstep id (c.send r) (c.send r) := by
  simpa using c.lockstep_send id r

end Client

namespace Inquiry

variable (c : Client σ) (q : Inquiry)

/-- What follows a response does not hang on what was seen before. -/
theorem lockstep_conclude (r : Response) : Lockstep id (q.conclude c r) (q.conclude c r) := by
  have hcheck : Lockstep id (c.check q.request q.strict r) (c.check q.request q.strict r) := by
    unfold Client.check
    split
    · exact lockstep_fail id _
    split
    · exact lockstep_pure id ()
    split
    · exact lockstep_fail id _
    · exact lockstep_bind_self (lockstep_lift _) fun _ => lockstep_log _ _
  unfold conclude
  split
  · exact lockstep_pure id _
  · exact lockstep_bind_self hcheck fun _ => lockstep_pure id _
  · exact lockstep_bind_self hcheck fun _ => lockstep_bind_self (lockstep_lift _) fun _ => lockstep_pure id _

theorem lockstep_ask : Lockstep id (q.ask c) (q.ask c) := by
  rw [ask_eq]
  exact lockstep_bind_self (c.lockstep_send_self q.request) (q.lockstep_conclude c)

theorem ask_inStep (s : Session σ) : InStep ((c.send q.request).run s).2 ((q.ask c).run s).2 := by
  rw [ask_eq, run_bind]
  rcases (c.send q.request).run s with ⟨e | r, t⟩
  · exact ⟨rfl, rfl⟩
  · obtain ⟨hhost, hfar, -⟩ := q.quiet_conclude c r t
    exact ⟨hhost, hfar⟩

end Inquiry

end ClusterHarness
