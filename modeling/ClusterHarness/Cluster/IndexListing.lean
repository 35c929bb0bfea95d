import ClusterHarness.Json.Literal
import ClusterHarness.Validation.Model
import ClusterHarness.Validation.Scalar

/-!
Index listings. The cluster answers with an array of rows, or with one row alone; both are the same
listing. A row has four known columns, of which the document count has two names, and any others are
kept as they are.
-/

namespace ClusterHarness

open Validation Validated

structure IndexInfo where
  index : Option Text
  health : Option Text
  status : Option Text
  docsCount : Option Text
  extra : Fields Json

namespace IndexInfo

def docsColumn : Text := "docs.count"

def docsField : Text := "docs_count"

/-- The name under which a row holds the document count; the column's comes first. -/
def docsName (fields : Fields Json) : Text :=
  if (fields.get? docsColumn).isSome then docsColumn else docsField

def check : FieldCheck IndexInfo := fun _ fields =>
  let docs := docsName fields
  let known : List Text := ["index", "health", "status", docs]
  if fields.any fun f => f.1.any CodePoint.isSurrogate then refuse .notUnicode
  else (both (withDefault fields "index" none (optional text)) <|
    both (withDefault fields "health" none (optional text)) <|
    both (withDefault fields "status" none (optional text)) <|
    withDefault fields docs none (optional text)).map
      fun (index, health, status, count) =>
        ⟨index, health, status, count,
          (fields.filter fun f => !known.elem f.1).map fun (k, v) => (k, v.merged)⟩

def ofRow (source : Source) : Json → Validated IndexInfo
  | .obj fields => check source (Fields.ofList fields)
  | _ => refuse (.notModel "IndexInfo" source)

/-- The row under the names of the columns, or of the fields. Its other columns may be too deep, or hold
names that are not written. -/
def dump (byColumn : Bool) (info : IndexInfo) : Except DumpError Json := do
  let known : Fields Json := [("index", nullable info.index), ("health", nullable info.health),
    ("status", nullable info.status),
    (if byColumn then docsColumn else docsField, nullable info.docsCount)]
  let extra ← dumpLooseFields info.extra
  return .obj (extra.foldl (fun fields (k, v) => Fields.put k v fields) known)

end IndexInfo

structure IndexListing where
  indices : List IndexInfo

inductive ListingError where
  | unexpected (response : Json)
  | invalid (issues : List Issue)

def ListingError.message : ListingError → Text
  | .unexpected v => "Unexpected _cat/indices response: " ++ v.literal
  | .invalid _ => "The listing has an invalid row"

namespace IndexListing

def check : FieldCheck IndexListing := fun source fields =>
  (withDefault fields "indices" [] (listOf source (IndexInfo.ofRow source))).map .mk

/-- The rows of a response. -/
def rows : Json → Except ListingError (List Json)
  | .obj [] => .ok []
  | .obj fields => .ok [.obj fields]
  | .arr rows => .ok rows
  | v => .error (.unexpected v)

def ofResponse (response : Json) : Except ListingError IndexListing := do
  let rows ← rows response
  let infos ← (rows.mapM (IndexInfo.ofRow .value)).mapError .invalid
  return ⟨infos⟩

def names (listing : IndexListing) : List Text :=
  listing.indices.filterMap fun info => info.index.filter (!·.isEmpty)

def dump (byColumn : Bool) (listing : IndexListing) : Except DumpError Json :=
  (listing.indices.mapM (IndexInfo.dump byColumn)).map fun rows => .obj [("indices", .arr rows)]

end IndexListing

end ClusterHarness
