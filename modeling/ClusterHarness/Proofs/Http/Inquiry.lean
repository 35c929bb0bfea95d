import ClusterHarness.Scenario

/-!
Requests as a caller makes them, one after another. A request is first sent, which takes calls and may
change the host; what follows looks at the response alone.
-/

namespace ClusterHarness

open Http

structure Inquiry where
  request : Request
  form : RequestForm
  strict : Option Bool

namespace Http

def Event.call? : Event → Option Call
  | .call c => some c
  | _ => none

def callsOf (events : List Event) : List Call := events.filterMap Event.call?

theorem callsOf_log (events : List Event) (level : Level) (message : Text) :
    callsOf (events ++ [.log level message]) = callsOf events := by
  simp [callsOf, Event.call?]

end Http

variable {σ α β : Type}

namespace Action

instance : LawfulMonad (Action σ) := LawfulMonad.mk' (Action σ)
  (fun a => by
    funext s
    change (match a s with | (.ok x, s) => (.ok x, s) | (.error e, s) => (.error e, s)) = a s
    rcases a s with ⟨_ | _, _⟩ <;> rfl)
  (fun _ _ => rfl)
  (fun a f g => by
    funext s
    change (andThen (andThen a f) g) s = (andThen a fun x => andThen (f x) g) s
    unfold andThen
    rcases a s with ⟨_ | _, _⟩ <;> rfl)

/-- What follows a response neither calls the far side nor moves to another host. -/
def Quiet (a : Action σ α) : Prop :=
  ∀ s, (a.run s).2.host = s.host ∧ (a.run s).2.far = s.far ∧
    callsOf (a.run s).2.trace = callsOf s.trace

theorem quiet_pure (x : α) : Quiet (pure x : Action σ α) := fun _ => ⟨rfl, rfl, rfl⟩

theorem quiet_fail (e : Failure) : Quiet (fail e : Action σ α) := fun _ => ⟨rfl, rfl, rfl⟩

theorem quiet_lift (r : Except Failure α) : Quiet (lift r : Action σ α) := fun _ => ⟨rfl, rfl, rfl⟩

theorem quiet_log (level : Level) (message : Text) : Quiet (log level message : Action σ Unit) :=
  fun _ => ⟨rfl, rfl, callsOf_log _ _ _⟩

theorem quiet_bind {a : Action σ α} {f : α → Action σ β} (ha : Quiet a) (hf : ∀ x, Quiet (f x)) :
    Quiet (a >>= f) := by
  intro s
  have hs := ha s
  rw [run_bind]
  rcases ht : a.run s with ⟨r, t⟩
  rw [ht] at hs
  cases r with
  | error e => exact hs
  | ok x =>
    obtain ⟨hhost, hfar, hcalls⟩ := hf x t
    exact ⟨hhost.trans hs.1, hfar.trans hs.2.1, hcalls.trans hs.2.2⟩

end Action

open ClusterHarness.Action

namespace Client

theorem quiet_check (c : Client σ) (r : Request) (strict : Option Bool) (response : Response) :
    Quiet (c.check r strict response) := by
  unfold check
  split
  · exact quiet_fail _
  · split
    · exact quiet_pure ()
    · split
      · exact quiet_fail _
      · exact quiet_bind (quiet_lift _) fun _ => quiet_log _ _

end Client

namespace Inquiry

def ask (c : Client σ) (q : Inquiry) : Action σ Answer :=
  match q.form with
  | .status => do return .status (← c.status q.request)
  | .response => do return .response (← c.response q.request q.strict)
  | .json => do return .document (← c.json q.request q.strict)

def askAll (c : Client σ) : List Inquiry → Session σ → List (Except Failure Answer) × Session σ
  | [], s => ([], s)
  | q :: qs, s =>
    let (result, s) := (q.ask c).run s
    let (results, s) := askAll c qs s
    (result :: results, s)

theorem ask_eq_answer (c : Client σ) (files : FileTree) (q : Inquiry) :
    q.ask c = Scenario.answer c files (.request q.request q.form q.strict) := by
  obtain ⟨r, form, strict⟩ := q
  cases form <;> rfl

/-- What is made of a response, by the form in which the answer is wanted. -/
def conclude (c : Client σ) (q : Inquiry) (response : Response) : Action σ Answer :=
  match q.form with
  | .status => return .status response.status
  | .response => do
    c.check q.request q.strict response
    return .response response
  | .json => do
    c.check q.request q.strict response
    return .document (← .lift (response.json.mapError .ofBody))

theorem ask_eq (c : Client σ) (q : Inquiry) : q.ask c = c.send q.request >>= q.conclude c := by
  obtain ⟨r, form, strict⟩ := q
  cases form <;>
    · simp only [ask, Client.status, Client.response, Client.json, bind_assoc, pure_bind]
      rfl

theorem quiet_conclude (c : Client σ) (q : Inquiry) (response : Response) :
    Quiet (q.conclude c response) := by
  unfold conclude
  split
  · exact quiet_pure _
  · exact quiet_bind (c.quiet_check _ _ _) fun _ => quiet_pure _
  · exact quiet_bind (c.quiet_check _ _ _) fun _ => quiet_bind (quiet_lift _) fun _ => quiet_pure _

end Inquiry

end ClusterHarness
