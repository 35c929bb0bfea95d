import ClusterHarness.Cluster.Indices
import ClusterHarness.Cluster.PersistentSettings
import ClusterHarness.Detector
import ClusterHarness.Ingestion.Load

/-!
Scenarios: steps that a client takes one after another, against a far side that answers from a script.
Each step is reported with its result and with what was seen while it ran. A step may be a scope of
cluster settings with steps inside; the first of these that fails ends the scope with its failure.
-/

namespace ClusterHarness

open Http Time

/-- What a request answers with. -/
inductive RequestForm where
  | status
  | response
  | json

inductive Step where
  | request (r : Request) (form : RequestForm) (strict : Option Bool)
  | hosts
  | close
  | listIndices
  | wipe
  | deleteIndex (name : Text)
  | indexIsThere (name : Text)
  | readSettings
  | writeSettings (settings : Json)
  | updateSetting (setting : Text) (value : Json) (settle : Seconds)
  | search (index : Text) (query : Json)
  | await (expected : Int) (index : Text) (pacing : Pacing)
  | createIndex (index : Text) (mapping : Json) (settle : Seconds)
  | ingest (index : Text) (records : Json) (split : Int) (mapping : Json) (pacing : Pacing)
  | load (dataset : DatasetDefinition) (split : Int) (resources : Text) (pacing : Pacing)
  | validate (detector : Json) (kind : Text)
  | scope (settings : Json) (body : List Step) (raises : Option Text)
  /-- A step that cannot be made sense of. -/
  | refused (e : Failure)

/-- What a step answers with. -/
inductive Answer where
  | nothing
  | self
  | flag (b : Bool)
  | status (n : Int)
  | response (r : Response)
  | document (v : Json)
  | texts (ts : List Text)
  | listing (names : List Text) (dump : Json)
  | outcome (o : PollOutcome)
  | instant (i : Instant)

inductive Report where
  | simple (result : Except Failure Answer)
  | scope (previous : Option Json) (body : List Report) (result : Except Failure Answer)

def Report.result : Report → Except Failure Answer
  | .simple result => result
  | .scope _ _ result => result

namespace Scenario

variable {σ : Type}

/-- The answer of a step that holds no others. -/
def answer (c : Client σ) (files : FileTree) : Step → Action σ Answer
  | .request r .status _ => return .status (← c.status r)
  | .request r .response strict => return .response (← c.response r strict)
  | .request r .json strict => return .document (← c.json r strict)
  | .hosts => return .texts c.baseUrls
  | .close => do
    .log .debug ("Closing REST client for " ++ (Json.arr (c.baseUrls.map .str)).literal)
    .record .close
    return .self
  | .listIndices => do
    let listing ← Indices.list c
    return .listing listing.names (← .lift ((listing.dump true).mapError .dump))
  | .wipe => return .texts (← Indices.wipe c)
  | .deleteIndex name => do
    Indices.delete c name
    return .nothing
  | .indexIsThere name => return .flag (← Indices.isThere c name)
  | .readSettings => return .document (← PersistentSettings.read c)
  | .writeSettings settings => do
    PersistentSettings.write c settings
    return .nothing
  | .updateSetting setting value settle => do
    PersistentSettings.update c setting value settle
    return .nothing
  | .search index query => return .document (← Visibility.search c index query)
  | .await expected index pacing =>
    return .outcome (← Visibility.await c expected index pacing.cycles pacing.interval)
  | .createIndex index mapping settle => do
    Ingestion.createIndex c index mapping settle
    return .nothing
  | .ingest index records split mapping pacing =>
    return .outcome (← Ingestion.ingest c index records split mapping pacing)
  | .load dataset split resources pacing =>
    return .instant (← Ingestion.load c files dataset split resources pacing)
  | .validate detector kind => return .document (← Detector.validate c detector kind)
  | .scope _ _ _ => return .nothing
  | .refused e => .fail e

/-- The failure that a body ends with, if any: that of its first failing step, or the one it raises. -/
def bodyFailure (reports : List Report) (raises : Option Text) : Except Failure Unit :=
  match reports.getLast?.map Report.result with
  | some (.error e) => .error e
  | _ =>
    match raises with
    | some message => .error (.raised message)
    | none => .ok ()

mutual

def runStep (c : Client σ) (files : FileTree) : Step → Session σ → Report × Session σ
  | .scope settings body raises, s =>
    match (PersistentSettings.enter c settings).run s with
    | (.error e, s) => (.scope none [] (.error e), s)
    | (.ok previous, s) =>
      let (reports, s) := runBody c files body s
      let ending : Action σ Unit := .lift (bodyFailure reports raises)
      let (result, s) := (ending.ensuring (PersistentSettings.leave c previous)).run s
      (.scope (some previous) reports (result.map fun _ => .nothing), s)
  | step, s =>
    let (result, s) := (answer c files step).run s
    (.simple result, s)

/-- Runs steps up to the first that fails. -/
def runBody (c : Client σ) (files : FileTree) : List Step → Session σ → List Report × Session σ
  | [], s => ([], s)
  | step :: steps, s =>
    let (report, s) := runStep c files step s
    match report.result with
    | .error _ => ([report], s)
    | .ok _ =>
      let (reports, s) := runBody c files steps s
      (report :: reports, s)

end

/-- A step, and the script that takes the place of what is left of the last one. -/
structure Stage where
  replies : Option (List Outcome)
  step : Step

/-- A report with what was seen, and how many outcomes of the script are left. -/
structure StageReport where
  report : Report
  trace : List Event
  unused : Nat

abbrev ScriptedClient := Client (List Outcome)

def runStage (c : ScriptedClient) (files : FileTree) (stage : Stage) (s : Session (List Outcome)) :
    StageReport × Session (List Outcome) :=
  let (report, s) := runStep c files stage.step ⟨s.host, stage.replies.getD s.far, []⟩
  (⟨report, s.trace, s.far.length⟩, s)

def runStages (c : ScriptedClient) (files : FileTree) :
    List Stage → Session (List Outcome) → List StageReport
  | [], _ => []
  | stage :: stages, s =>
    let (report, s) := runStage c files stage s
    report :: runStages c files stages s

/-- Runs stages with a new client of the given settings. -/
def run (settings : ClientSettings) (files : FileTree) (replies : List Outcome) (stages : List Stage) :
    List StageReport :=
  runStages ⟨settings, scripted⟩ files stages ⟨0, replies, []⟩

end Scenario

end ClusterHarness
