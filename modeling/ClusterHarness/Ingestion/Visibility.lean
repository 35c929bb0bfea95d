import ClusterHarness.Http.Client

/-!
Visibility of ingested documents. The cluster makes writes searchable some time after they are made, so
the latest document is asked for again and again, with a refresh after each vain attempt and a pause
between attempts, until it is the one expected or the attempts are used up.
-/

namespace ClusterHarness

open Http Time

inductive PollOutcome where
  | confirmed
  | exhausted
  deriving DecidableEq, Repr

namespace PollOutcome

def all : List PollOutcome := [.confirmed, .exhausted]

def text : PollOutcome → Text
  | .confirmed => "confirmed"
  | .exhausted => "exhausted"

def name (o : PollOutcome) : Text := o.text.toUpper

def ofText? (t : Text) : Option PollOutcome := all.find? fun o => o.text = t

end PollOutcome

namespace Visibility

variable {σ : Type}

/-- The hits of a search response, null if there are none. -/
def hits (response : Json) : Except ShapeError Json := do
  match ← response.member "hits" with
  | .null => return .null
  | part => part.member "hits"

def searchRequest (index : Text) (query : Json) : Request :=
  .ofDocument "POST" (index ++ "/_search") query

theorem searchRequest_consists (index : Text) (query : Json) : Client.Consists (searchRequest index query) "POST"
    (Client.path (index ++ "/_search")) none (.ofDocument query) := ⟨rfl, rfl, rfl⟩

def search (c : Client σ) (index : Text) (query : Json) : Action σ Json := do
  let v ← c.json (searchRequest index query) none
  .lift ((hits v).mapError .shape)

/-- Whether the hits are one document with the given id. -/
def isDocument (id : Text) (hits : Json) : Except ShapeError Bool := do
  if !hits.truthy then return false
  let count ← hits.count
  if count ≠ 1 then return false
  let found ← (← hits.first).member "_id"
  return found.plain = id

def refreshRequest (index : Text) : Request := .bare "POST" (index ++ "/_refresh")

theorem refreshRequest_consists (index : Text) : Client.Consists (refreshRequest index) "POST"
    (Client.path (index ++ "/_refresh")) none .none := ⟨rfl, rfl, rfl⟩

/-- One attempt: a search and, if it is in vain, a refresh. -/
def attempt (c : Client σ) (index id : Text) : Action σ Bool := do
  let found ← search c index Dataset.latestDocumentQuery
  let visible ← .lift ((isDocument id found).mapError .shape)
  if visible then return true
  let _ ← c.json (refreshRequest index) none
  return false

/-- The first attempt and at most `more` after it. -/
def attempts (c : Client σ) (index id : Text) (pause : Seconds) : Nat → Action σ Bool
  | 0 => attempt c index id
  | more + 1 => do
    if ← attempt c index id then return true
    .sleep pause
    attempts c index id pause more

def defaultCycles : Int := 3

def defaultInterval : Seconds := .fraction (.ofRatio false 1 1)

/-- The pause between attempts is a floating number of seconds. -/
def pauseOf (interval : Seconds) : Except Failure Seconds :=
  match interval.toBinary64? with
  | some x => .ok (.fraction x)
  | none => .error .numberTooLarge

/-- Waits until the last of so many documents is the latest one, with `cycles` attempts after the
first. -/
def await (c : Client σ) (expected : Int) (index : Text) (cycles : Int) (interval : Seconds) :
    Action σ PollOutcome := do
  let id := Text.ofInt (expected - 1)
  let pause ← .lift (pauseOf interval)
  if ← attempts c index id pause cycles.toNat then return .confirmed
  .log .error ("Document " ++ id ++ " of " ++ index ++ " not visible after " ++ Text.ofInt (cycles + 1)
    ++ " attempts.")
  return .exhausted

end Visibility

end ClusterHarness
