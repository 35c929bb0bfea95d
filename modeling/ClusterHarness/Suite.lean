import ClusterHarness.Scenario

/-!
Test suites: the two clients that are built from the environment and live as long as the suite, the
fixtures that a test asks for, its steps, and the teardown of what was set up, last first.
-/

namespace ClusterHarness

open Http Time

namespace Notice

def level : Notice → Level
  | .keystoreMissing _ _ => .debug
  | .keystoreUsed _ | .building _ _ _ => .info
  | .expiring _ _ _ | .verificationOff => .warning

/-- The record that announces it. -/
def event (n : Notice) : Event := .log n.level n.message

end Notice

/-- The clients of a suite. -/
inductive Party where
  | rest
  | admin
  deriving DecidableEq, Repr

inductive SuiteFixture where
  | wipeIndices
  | faultToleranceDisabled
  | suiteFaultToleranceDisabled
  deriving DecidableEq, Repr

namespace SuiteFixture

variable {σ : Type}

/-- Sets a fixture up and answers with its value. -/
def setup (c : Client σ) : SuiteFixture → Action σ Json
  | .wipeIndices => return .null
  | _ => PersistentSettings.enter c PersistentSettings.noFaultTolerance

/-- Wipes the indices; a failed request is logged before it goes on. -/
def wipe (c : Client σ) : Action σ Unit :=
  Action.onFailure (do let _ ← Indices.wipe c) fun e =>
    match e with
    | .http _ | .deprecation _ _ => .log .error ("Failed to reset the cluster state: " ++ e.message)
    | _ => return ()

/-- Tears a fixture down, given the value of its setup. -/
def teardown (c : Client σ) (value : Json) : SuiteFixture → Action σ Unit
  | .wipeIndices => wipe c
  | _ => PersistentSettings.leave c value

end SuiteFixture

namespace Suite

/-- The hosts in use by the two clients, and the script that they share. -/
structure State where
  restHost : Nat
  adminHost : Nat
  replies : List Outcome

def State.session (s : State) : Party → Session (List Outcome)
  | .rest => ⟨s.restHost, s.replies, []⟩
  | .admin => ⟨s.adminHost, s.replies, []⟩

def State.ofSession (s : State) (party : Party) (t : Session (List Outcome)) : State :=
  match party with
  | .rest => { s with restHost := t.host, replies := t.far }
  | .admin => { s with adminHost := t.host, replies := t.far }

/-- Runs an action of one client and answers also with what was seen. -/
def runAs {α : Type} (party : Party) (a : Action (List Outcome) α) (s : State) :
    Except Failure α × List Event × State :=
  let (result, t) := a.run (s.session party)
  (result, t.trace, s.ofSession party t)

structure Plan where
  environment : Fields Text
  world : World
  replies : List Outcome
  fixtures : List SuiteFixture
  stages : List (Party × Scenario.Stage)
  teardownReplies : List Outcome

/-- Settings of a client, or why there are none, and what was announced. -/
structure Built where
  notices : List Notice
  settings : Except Failure ClientSettings

def build (w : World) (flags : RuntimeFlags) (party : Party) : Built :=
  let before := flags.notices w.files (party == .admin)
  match flags.clientSettings w.files (party == .admin) with
  | .error e => ⟨before, .error (.ofSettings e)⟩
  | .ok settings =>
    let (notices, connection) := Connection.build w settings
    ⟨before ++ notices, match connection with
      | .ok c => .ok c.settings
      | .error e => .error (.ofTls e)⟩

structure FixtureReport where
  fixture : SuiteFixture
  result : Except Failure Json

/-- Sets fixtures up in order; one that fails does not keep the others from it. -/
def setupAll (c : Scenario.ScriptedClient) :
    List SuiteFixture → State → List FixtureReport × List Event × State
  | [], s => ([], [], s)
  | f :: fs, s =>
    let (result, seen, s) := runAs .admin (f.setup c) s
    let (reports, more, s) := setupAll c fs s
    (⟨f, result⟩ :: reports, seen ++ more, s)

def runStages (rest admin : Scenario.ScriptedClient) (files : FileTree) :
    List (Party × Scenario.Stage) → State → List (Party × Scenario.StageReport) × State
  | [], s => ([], s)
  | (party, stage) :: stages, s =>
    let c := match party with
      | .rest => rest
      | .admin => admin
    let (report, t) := Scenario.runStage c files stage (s.session party)
    let (reports, s) := runStages rest admin files stages (s.ofSession party t)
    ((party, report) :: reports, s)

structure TeardownReport where
  fixture : SuiteFixture
  result : Except Failure Unit
  trace : List Event

def teardownAll (c : Scenario.ScriptedClient) :
    List (SuiteFixture × Json) → State → List TeardownReport × State
  | [], s => ([], s)
  | (f, value) :: fs, s =>
    let (result, seen, s) := runAs .admin (f.teardown c value) s
    let (reports, s) := teardownAll c fs s
    (⟨f, result, seen⟩ :: reports, s)

/-- The fixtures that were set up, with their values, last first. -/
def started (reports : List FixtureReport) : List (SuiteFixture × Json) :=
  (reports.filterMap fun r => r.result.toOption.map fun v => (r.fixture, v)).reverse

/-- What a suite did. A client that could not be built ends the setup. -/
structure Result where
  flags : RuntimeFlags
  rest : Except Failure ClientSettings
  admin : Option (Except Failure ClientSettings)
  announced : List Notice
  setup : List FixtureReport
  setupTrace : List Event
  stages : List (Party × Scenario.StageReport)
  teardown : List TeardownReport
  unused : Nat

def run (plan : Plan) : Result :=
  let flags := RuntimeFlags.ofEnvironment plan.environment
  let idle : Result :=
    ⟨flags, .error .noTarget, none, [], [], [], [], [], plan.teardownReplies.length⟩
  let restBuilt := build plan.world flags .rest
  match restBuilt.settings with
  | .error e => { idle with rest := .error e, announced := restBuilt.notices }
  | .ok restSettings =>
    let adminBuilt := build plan.world flags .admin
    let announced := restBuilt.notices ++ adminBuilt.notices
    match adminBuilt.settings with
    | .error e =>
      { idle with rest := .ok restSettings, admin := some (.error e), announced := announced }
    | .ok adminSettings =>
      let rest : Scenario.ScriptedClient := ⟨restSettings, scripted⟩
      let admin : Scenario.ScriptedClient := ⟨adminSettings, scripted⟩
      let (setup, setupTrace, s) := setupAll admin plan.fixtures ⟨0, 0, plan.replies⟩
      let (stages, s) := runStages rest admin plan.world.files plan.stages s
      let (teardown, s) :=
        teardownAll admin (started setup) { s with replies := plan.teardownReplies }
      { flags := flags, rest := .ok restSettings, admin := some (.ok adminSettings)
        announced := announced, setup := setup, setupTrace := setupTrace, stages := stages
        teardown := teardown, unused := s.replies.length }

end Suite

end ClusterHarness
