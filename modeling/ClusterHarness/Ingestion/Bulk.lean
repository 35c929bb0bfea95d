import ClusterHarness.Http.Client

/-!
Bulk requests: the lines that write records under the ids of their positions, and the items of a
response that failed.
-/

namespace ClusterHarness

open Http Time

namespace Bulk

variable {σ : Type}

/-- The first `split` items; a negative number leaves out so many at the end. -/
def head {α : Type} (split : Int) (items : List α) : List α :=
  match split with
  | .ofNat n => items.take n
  | .negSucc n => items.take (items.length - (n + 1))

def actionLine (index : Text) (position : Nat) : Json :=
  .obj [("index", .obj [("_index", .str index), ("_id", .str (Text.ofNat position))])]

/-- Two documents for each record, from a position on. -/
def documents (index : Text) (position : Nat) : List Json → List Json
  | [] => []
  | record :: records => actionLine index position :: record :: documents index (position + 1) records

/-- The body of the request, a document a line. -/
def encode (records : List Json) (index : Text) (split : Int) : Text :=
  Text.join [10] ((documents index 0 (head split records)).map Json.render) ++ [10]

/-- The failures among the results of one item. -/
def itemFailures : List (Text × Json) → Except ShapeError (List Json)
  | [] => .ok []
  | (_, result) :: more => do
    let error ← result.member "error"
    if error.truthy then
      let id ← result.member "_id"
      let rest ← itemFailures more
      return .obj [("_id", id), ("error", error)] :: rest
    else itemFailures more

def allFailures : List Json → Except ShapeError (List Json)
  | [] => .ok []
  | item :: items => do
    let found ← itemFailures (← item.members)
    return found ++ (← allFailures items)

/-- The failed items of a response, each with its id and its error. -/
def failures (response : Json) : Except ShapeError (List Json) := do
  match (← response.members).get? "items" with
  | none => return []
  | some items => allFailures (← items.elements)

def userAgent : Text := "Kibana"

def request (records : List Json) (index : Text) (split : Int) : Request :=
  { Request.bare "POST" "_bulk" with
    payload := .body (.text (encode records index split))
    params := some (.obj [("refresh", .str "true")])
    headers := [("User-Agent", userAgent), ("Content-Type", "application/x-ndjson")] }

theorem request_consists (records : List Json) (index : Text) (split : Int) :
    Client.Consists (request records index split) "POST" "_bulk" (some (.obj [("refresh", .str "true")]))
      (.body (.text (encode records index split))) := ⟨rfl, rfl, rfl⟩

/-- The number of failures that a message shows. -/
def shownFailures : Nat := 3

/-- Writes records, all of which the cluster must take. -/
def write (c : Client σ) (records : List Json) (index : Text) (split : Int) : Action σ Unit := do
  let response ← c.json (request records index split) none
  let errors ← .lift ((response.member "errors").mapError .shape)
  if errors.truthy then
    let failed ← .lift ((failures response).mapError .shape)
    .fail (.ingest (.refusedItems failed.length index (failed.take shownFailures)))

end Bulk

end ClusterHarness
