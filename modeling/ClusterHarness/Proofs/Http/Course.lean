import ClusterHarness.Proofs.Http.Failover
import ClusterHarness.Proofs.Results

/-!
What an action does, seen from its caller: requests with what they ended with, sleeps and log records,
in order. A request counts once, on however many hosts it is tried.
-/

namespace ClusterHarness

open Http Time

inductive Deed where
  | ask (q : Inquiry) (reply : Except Failure Answer)
  | sleep (seconds : Seconds)
  | log (level : Level) (message : Text)

/-- A deed without what it ended with. -/
inductive Move where
  | ask (q : Inquiry)
  | sleep (seconds : Seconds)
  | log (level : Level) (message : Text)

namespace Move

def json (r : Request) (strict : Option Bool) : Move := .ask ⟨r, .json, strict⟩

theorem json_inj {r r' : Request} {strict strict' : Option Bool} (h : json r strict = json r' strict') :
    r = r' := by
  injection h with h
  injection h

end Move

namespace Deed

def move : Deed → Move
  | ask q _ => .ask q
  | sleep seconds => .sleep seconds
  | log level message => .log level message

def json (r : Request) (strict : Option Bool) (x : Except Failure Json) : Deed :=
  .ask ⟨r, .json, strict⟩ (x.map .document)

@[simp] theorem move_json (r : Request) (strict : Option Bool) (x : Except Failure Json) :
    (json r strict x).move = .json r strict := rfl

@[simp] theorem move_sleep (seconds : Seconds) : (sleep seconds).move = .sleep seconds := rfl

@[simp] theorem move_log (level : Level) (message : Text) :
    (log level message).move = .log level message := rfl

end Deed

variable {σ α β : Type}

/-- The deeds that lead from one session to another. A sleep and a record are each one event that is seen,
and nobody sleeps for a time that is no pause. -/
inductive Course (c : Client σ) : Session σ → List Deed → Session σ → Prop
  | done (s : Session σ) : Course c s [] s
  | ask {s t u : Session σ} {q : Inquiry} {reply : Except Failure Answer} {ds : List Deed} :
      (q.ask c).run s = (reply, t) → Course c t ds u → Course c s (.ask q reply :: ds) u
  | sleep {s u : Session σ} {seconds : Seconds} {ds : List Deed} : seconds.IsPause →
      Course c { s with trace := s.trace ++ [.sleep seconds] } ds u → Course c s (.sleep seconds :: ds) u
  | log {s u : Session σ} {level : Level} {message : Text} {ds : List Deed} :
      Course c { s with trace := s.trace ++ [.log level message] } ds u →
        Course c s (.log level message :: ds) u

namespace Course

variable {c : Client σ} {s t u : Session σ}

theorem append {ds ds' : List Deed} (h : Course c s ds t) (h' : Course c t ds' u) :
    Course c s (ds ++ ds') u := by
  induction h with
  | done => exact h'
  | ask ha _ ih => exact .ask ha (ih h')
  | sleep hpause _ ih => exact .sleep hpause (ih h')
  | log _ ih => exact .log (ih h')

theorem unique {ds : List Deed} (h : Course c s ds t) (h' : Course c s ds u) : t = u := by
  induction h with
  | done =>
    cases h'
    rfl
  | ask ha _ ih =>
    cases h' with
    | ask hb hrest =>
      rw [ha] at hb
      cases hb
      exact ih hrest
  | sleep _ _ ih =>
    cases h' with
    | sleep _ hrest => exact ih hrest
  | log _ ih =>
    cases h' with
    | log hrest => exact ih hrest

theorem ofJson {r : Request} {strict : Option Bool} {x : Except Failure Json}
    (h : (c.json r strict).run s = (x, t)) : Course c s [.json r strict x] t := by
  refine .ask ?_ (.done t)
  rw [Inquiry.ask, Action.run_bind, h]
  cases x <;> rfl

theorem ofSleep (c : Client σ) (s : Session σ) {seconds : Seconds} (h : seconds.IsPause) :
    Course c s [.sleep seconds] { s with trace := s.trace ++ [.sleep seconds] } :=
  .sleep h (.done _)

theorem ofLog (c : Client σ) (s : Session σ) (level : Level) (message : Text) :
    Course c s [.log level message] { s with trace := s.trace ++ [.log level message] } :=
  .log (.done _)

/-- A sleep that nobody can take is not seen, and nothing comes after it. -/
theorem sleep_bind (c : Client σ) {seconds : Seconds} {f : Unit → Action σ α} {r : Except Failure α}
    (h : (Action.sleep seconds >>= f).run s = (r, t)) :
    (∃ e, r = .error (.pause e) ∧ t = s) ∨
      ∃ u, Course c s [.sleep seconds] u ∧ (f ()).run u = (r, t) := by
  cases hpause : seconds.pauseError? with
  | some e =>
    rw [Action.run_bind, Action.run_sleep_refused hpause, Prod.mk.injEq] at h
    exact .inl ⟨e, h.1.symm, h.2.symm⟩
  | none =>
    rw [Action.run_bind, Action.run_sleep hpause] at h
    exact .inr ⟨_, .ofSleep c s hpause, h⟩

end Course

/-- The moves lead from one session to another. -/
def Takes (c : Client σ) (s : Session σ) (moves : List Move) (t : Session σ) : Prop :=
  ∃ ds, Course c s ds t ∧ ds.map Deed.move = moves

namespace Takes

variable {c : Client σ} {s t u : Session σ}

theorem append {moves moves' : List Move} (h : Takes c s moves t) (h' : Takes c t moves' u) :
    Takes c s (moves ++ moves') u := by
  obtain ⟨ds, hds, rfl⟩ := h
  obtain ⟨ds', hds', rfl⟩ := h'
  exact ⟨ds ++ ds', hds.append hds', List.map_append⟩

theorem ofJson {r : Request} {strict : Option Bool} {x : Except Failure Json}
    (h : (c.json r strict).run s = (x, t)) : Takes c s [.json r strict] t :=
  ⟨_, .ofJson h, rfl⟩

theorem ofSleep (c : Client σ) (s : Session σ) {seconds : Seconds} (h : seconds.IsPause) :
    Takes c s [.sleep seconds] { s with trace := s.trace ++ [.sleep seconds] } :=
  ⟨_, .ofSleep c s h, rfl⟩

theorem ofLog (c : Client σ) (s : Session σ) (level : Level) (message : Text) :
    Takes c s [.log level message] { s with trace := s.trace ++ [.log level message] } :=
  ⟨_, .ofLog c s level message, rfl⟩

end Takes

namespace Action

theorem run_bind_ok {a : Action σ α} {x : α} {s t : Session σ} (h : a.run s = (.ok x, t))
    (f : α → Action σ β) : (a >>= f).run s = (f x).run t := by
  rw [run_bind, h]

theorem run_bind_eq {a : Action σ α} {f : α → Action σ β} {s t : Session σ} {r : Except Failure β}
    (h : (a >>= f).run s = (r, t)) :
    (∃ e, a.run s = (.error e, t) ∧ r = .error e) ∨ ∃ x u, a.run s = (.ok x, u) ∧ (f x).run u = (r, t) := by
  rw [run_bind] at h
  rcases ha : a.run s with ⟨e | x, u⟩
  · simp only [ha, Prod.mk.injEq] at h
    exact .inl ⟨e, by rw [h.2], h.1.symm⟩
  · simp only [ha] at h
    exact .inr ⟨x, u, rfl, h⟩

/-- The first of two actions comes to an end of its own, and the second goes on from there. -/
theorem run_bind_split {a : Action σ α} {f : α → Action σ β} {s t : Session σ} {r : Except Failure β}
    (h : (a >>= f).run s = (r, t)) : ∃ x u, a.run s = (x, u) ∧
      match x with
      | .ok y => (f y).run u = (r, t)
      | .error e => r = .error e ∧ t = u := by
  rcases run_bind_eq h with ⟨e, he, hr⟩ | ⟨y, u, hy, hrest⟩
  · exact ⟨.error e, t, he, hr, rfl⟩
  · exact ⟨.ok y, u, hy, hrest⟩

theorem lift_bind_eq {x : Except Failure α} {f : α → Action σ β} {s t : Session σ}
    {r : Except Failure β} (h : (lift x >>= f).run s = (r, t)) :
    (∃ e, x = .error e ∧ r = .error e ∧ t = s) ∨ ∃ y, x = .ok y ∧ (f y).run s = (r, t) := by
  cases x with
  | error e =>
    simp only [run_bind, run_lift, Prod.mk.injEq] at h
    exact .inl ⟨e, rfl, h.1.symm, h.2.symm⟩
  | ok y => exact .inr ⟨y, rfl, h⟩

/-- Every failure of the action is of a kind. -/
def FailsBy (p : Failure → Prop) (a : Action σ α) : Prop :=
  ∀ s e t, a.run s = (.error e, t) → p e

section FailsBy

variable {p : Failure → Prop}

theorem failsBy_pure (x : α) : FailsBy p (pure x : Action σ α) := by
  intro s e t h
  cases h

theorem failsBy_fail {e : Failure} (he : p e) : FailsBy p (fail e : Action σ α) := by
  intro s d t h
  cases h
  exact he

theorem failsBy_log (level : Level) (message : Text) : FailsBy p (log level message : Action σ Unit) := by
  intro s e t h
  cases h

theorem failsBy_sleep {seconds : Seconds} (hp : ∀ e, p (.pause e)) : FailsBy p (sleep seconds : Action σ Unit) := by
  unfold sleep
  split
  · intro s e t h
    cases h
  · exact failsBy_fail (hp _)

theorem failsBy_lift {x : Except Failure α} (hx : ∀ e, x = .error e → p e) :
    FailsBy p (lift x : Action σ α) := by
  intro s e t h
  exact hx e (congrArg Prod.fst h)

theorem failsBy_bind {a : Action σ α} {f : α → Action σ β} (ha : FailsBy p a)
    (hf : ∀ x, FailsBy p (f x)) : FailsBy p (a >>= f) := by
  intro s e t h
  rcases run_bind_eq h with ⟨d, hd, hde⟩ | ⟨x, u, -, hx⟩
  · rw [Except.error.injEq] at hde
    exact hde ▸ ha s d t hd
  · exact hf x u e t hx

end FailsBy

end Action

open ClusterHarness.Action

/-- The failures of a request: no other part of the harness is behind them. -/
def Failure.IsOfRequest : Failure → Prop
  | .noTarget | .http _ | .deprecation _ _ | .connection _ _ | .document _ | .undecodable _ => True
  | _ => False

namespace Client

theorem faultFailure_isOfRequest (f : Fault) (message : Text) :
    (faultFailure f message).IsOfRequest := by
  unfold faultFailure
  split <;> trivial

theorem target_isOfRequest {r : Request} {e : Failure} (h : target r = .error e) : e.IsOfRequest := by
  unfold target at h
  split at h <;> cases h
  trivial

theorem tryHosts_failsBy (c : Client σ) (method path : Text) (r : Request) (last : Text)
    (hosts : List Nat) : FailsBy Failure.IsOfRequest (c.tryHosts method path r last hosts) := by
  intro s e t h
  obtain ⟨as, trial⟩ := tryHosts_trial c method path r hosts last s
  have hended := trial.ended
  unfold Ending at hended
  rw [h] at hended
  rcases hlast : as.getLast? with _ | a
  · simp only [hlast, Except.error.injEq] at hended
    rw [hended.2.2]
    trivial
  · simp only [hlast] at hended
    rcases ho : a.outcome with response | ⟨f, message⟩
    · simp [ho] at hended
    · simp only [ho, Except.error.injEq] at hended
      rw [hended.2.1]
      exact faultFailure_isOfRequest f message

theorem send_failsBy (c : Client σ) (r : Request) : FailsBy Failure.IsOfRequest (c.send r) := by
  refine failsBy_bind (failsBy_lift fun e => target_isOfRequest) fun _ => ?_
  refine failsBy_bind (fun s e t h => by cases h) fun _ => ?_
  exact c.tryHosts_failsBy _ _ _ _ _

theorem check_failsBy (c : Client σ) (r : Request) (strict : Option Bool) (response : Response) :
    FailsBy Failure.IsOfRequest (c.check r strict response) := by
  unfold check
  split
  · refine failsBy_fail ?_
    unfold responseFailure
    split <;> trivial
  · split
    · exact failsBy_pure ()
    · split
      · exact failsBy_fail trivial
      · exact failsBy_bind (failsBy_lift fun e => target_isOfRequest) fun _ => failsBy_log _ _

theorem json_failsBy (c : Client σ) (r : Request) (strict : Option Bool) :
    FailsBy Failure.IsOfRequest (c.json r strict) := by
  refine failsBy_bind (failsBy_bind (c.send_failsBy r) fun response =>
    failsBy_bind (c.check_failsBy r strict response) fun _ => failsBy_pure _) fun response => ?_
  refine failsBy_lift fun e he => ?_
  cases hj : response.json with
  | error d =>
    rw [hj] at he
    cases he
    cases d <;> trivial
  | ok v =>
    rw [hj] at he
    cases he

end Client

end ClusterHarness
