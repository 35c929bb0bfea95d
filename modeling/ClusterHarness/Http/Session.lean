import ClusterHarness.Failure

/-!
Sessions: which host a client talks to, the state of the far side, and what was seen so far. An action
runs in a session and ends with a value or a failure; what it did before a failure stays done.
-/

namespace ClusterHarness

open Http

structure Session (σ : Type) where
  /-- The position of the host in use. -/
  host : Nat
  far : σ
  trace : List Event

def Action (σ α : Type) : Type := Session σ → Except Failure α × Session σ

namespace Action

variable {σ α β : Type}

def run (a : Action σ α) (s : Session σ) : Except Failure α × Session σ := a s

def ok (x : α) : Action σ α := fun s => (.ok x, s)

def fail (e : Failure) : Action σ α := fun s => (.error e, s)

def andThen (a : Action σ α) (f : α → Action σ β) : Action σ β := fun s =>
  match a s with
  | (.ok x, s) => f x s
  | (.error e, s) => (.error e, s)

instance : Monad (Action σ) where
  pure := ok
  bind := andThen

/-- A result that does not hang on the session. -/
def lift (r : Except Failure α) : Action σ α := fun s => (r, s)

def record (e : Event) : Action σ Unit := fun s => (.ok (), { s with trace := s.trace ++ [e] })

def log (level : Level) (message : Text) : Action σ Unit := record (.log level message)

/-- Waits, if anybody can wait so long. -/
def sleep (seconds : Time.Seconds) : Action σ Unit :=
  match seconds.pauseError? with
  | none => record (.sleep seconds)
  | some e => fail (.pause e)

/-- Runs a body and then a last action, however the body ends. A failure of the last action takes the
place of what the body ended with. -/
def ensuring (body : Action σ α) (last : Action σ Unit) : Action σ α := fun s =>
  match body s with
  | (result, s) =>
    match last s with
    | (.ok (), s) => (result, s)
    | (.error e, s) => (.error e, s)

/-- Looks at a failure before it goes on. -/
def onFailure (body : Action σ α) (look : Failure → Action σ Unit) : Action σ α := fun s =>
  match body s with
  | (.ok x, s) => (.ok x, s)
  | (.error e, s) => andThen (look e) (fun _ => fail e) s

@[simp] theorem run_ok (x : α) (s : Session σ) : (ok x : Action σ α).run s = (.ok x, s) := rfl

@[simp] theorem run_pure (x : α) (s : Session σ) : (pure x : Action σ α).run s = (.ok x, s) := rfl

@[simp] theorem run_fail (e : Failure) (s : Session σ) : (fail e : Action σ α).run s = (.error e, s) := rfl

@[simp] theorem run_lift (r : Except Failure α) (s : Session σ) : (lift r).run s = (r, s) := rfl

@[simp] theorem run_record (e : Event) (s : Session σ) :
    (record e).run s = (.ok (), { s with trace := s.trace ++ [e] }) := rfl

theorem run_sleep {seconds : Time.Seconds} (h : seconds.IsPause) (s : Session σ) :
    (sleep seconds).run s = (.ok (), { s with trace := s.trace ++ [.sleep seconds] }) := by
  rw [sleep, h, run_record]

theorem run_sleep_refused {seconds : Time.Seconds} {e : Time.PauseError} (h : seconds.pauseError? = some e)
    (s : Session σ) : (sleep seconds).run s = (.error (.pause e), s) := by
  rw [sleep, h, run_fail]

theorem run_bind (a : Action σ α) (f : α → Action σ β) (s : Session σ) :
    (a >>= f).run s = match a.run s with
      | (.ok x, s) => (f x).run s
      | (.error e, s) => (.error e, s) := rfl

end Action

end ClusterHarness
