import ClusterHarness.Ingestion.Bulk
import ClusterHarness.Ingestion.Visibility

/-!
Loading a dataset: the head of its fixture is read, its index is created, the records are written in
one bulk request, and the last of them is waited for. The time of that record is the train time.
-/

namespace ClusterHarness

open Http Time

/-- How long to wait for the cluster at each step. -/
structure Pacing where
  settle : Seconds
  cycles : Int
  interval : Seconds

namespace Ingestion

variable {σ : Type}

def defaultSettle : Seconds := .fraction (.ofRatio false 1 1)

def Pacing.standard : Pacing := ⟨defaultSettle, Visibility.defaultCycles, Visibility.defaultInterval⟩

def createRequest (index : Text) (mapping : Json) : Request := .ofDocument "PUT" index mapping

theorem createRequest_consists (index : Text) (mapping : Json) :
    Client.Consists (createRequest index mapping) "PUT" (Client.path index) none (.ofDocument mapping) :=
  ⟨rfl, rfl, rfl⟩

/-- Creates an index, whatever warnings that brings, and lets it settle. -/
def createIndex (c : Client σ) (index : Text) (mapping : Json) (settle : Seconds) : Action σ Unit := do
  let _ ← c.json (createRequest index mapping) (some false)
  .sleep settle

/-- Whether so many of the records can be taken. -/
def checkSplit (index : Text) (records : Json) (split : Int) : Except Failure Unit := do
  if !records.truthy then throw (.ingest (.noRecords index))
  let count ← records.count.mapError .shape
  if 0 < split ∧ split ≤ count then return ()
  else throw (.ingest (.badSplit split index count))

/-- Creates the index, writes the training records, a list of them, and waits for the last. -/
def ingest (c : Client σ) (index : Text) (records : Json) (split : Int) (mapping : Json)
    (pacing : Pacing) : Action σ PollOutcome := do
  .lift (checkSplit index records split)
  createIndex c index mapping pacing.settle
  Bulk.write c (← .lift (records.sequence.mapError .shape)) index split
  .sleep pacing.settle
  Visibility.await c split index pacing.cycles pacing.interval

/-- The time of the last training record. -/
def trainTime (records : Json) (split : Int) : Except Failure Instant := do
  let record ← (records.atPosition (split - 1)).mapError .shape
  match ← (record.member Dataset.timestampField).mapError .shape with
  | .null => throw (.ingest (.noTimestamp (split - 1)))
  | raw =>
    match instantOf raw with
    | .ok i => return i
    | .error .beyondCalendar => throw (.timestamp .beyondCalendar)
    | .error e => throw (.ingest (.badTimestamp raw e))

/-- Loads a dataset and answers with its train time. -/
def load (c : Client σ) (files : FileTree) (dataset : DatasetDefinition) (split : Int) (resources : Text)
    (pacing : Pacing) : Action σ Instant := do
  let records ← .lift ((Fixture.readRecords files (Dataset.resource dataset.name Dataset.nameSpace) split
    resources).mapError Failure.ofRecords)
  match ← ingest c dataset.name (.arr records) split (.obj dataset.mapping) pacing with
  | .confirmed => .lift (trainTime (.arr records) split)
  | .exhausted => .fail (.ingestTimeout split dataset.name)

end Ingestion

end ClusterHarness
