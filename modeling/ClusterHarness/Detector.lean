import ClusterHarness.Http.Client

/-!
Detectors of the anomaly detection plugin: their definitions, the request that validates one, and the
messages that report data too sparse for some features.
-/

namespace ClusterHarness

open Http

namespace Detector

variable {σ : Type}

def baseEndpoint : Text := "/_plugins/_anomaly_detection/detectors"

def validateSegment : Text := "_validate"

def defaultValidation : Text := "model"

def validateRequest (detector : Json) (kind : Text) : Request :=
  .ofDocument "POST" (baseEndpoint ++ "/" ++ validateSegment ++ "/" ++ kind) detector

/-- Has the plugin validate a definition, which must be an object. -/
def validate (c : Client σ) (detector : Json) (kind : Text) : Action σ Json := do
  let v ← c.json (validateRequest detector kind) none
  let _ ← .lift (detector.members.mapError .shape)
  return v

def texts (fields : List (Text × Text)) : Fields Json := fields.map fun (k, v) => (k, .str v)

/-- The greatest value of a field among the documents before a time in milliseconds. -/
def maxFeature (name field : Text) (before : Int) (filter : Text) : Json :=
  let range : Json := .obj [("range", .obj [(Dataset.timestampField, .obj [("lt", .int before)])])]
  .obj [("feature_id", .str name), ("feature_name", .str name), ("feature_enabled", .bool true),
    ("importance", .int 1),
    ("aggregation_query", .obj [(filter, .obj [
      ("filter", .obj [("bool", .obj [("must", .arr [range])])]),
      ("aggregations", .obj [(name, .obj [("max", .obj [("field", .str field)])])])])])]

def period (minutes : Int) : Json :=
  .obj [("period", .obj [("interval", .int minutes), ("unit", .str "MINUTES")])]

/-- A detector with two features that see nothing from the given time on. -/
def twoSparseFeatures (index : Text) (before delay : Int) : Json :=
  .obj [("name", .str "Second-Test-Detector-4"), ("description", .str "ok rate"),
    ("time_field", .str Dataset.timestampField), ("indices", .arr [.str index]),
    ("feature_attributes", .arr [
      maxFeature "max1" "transform._doc_count" before "filtered_max_1",
      maxFeature "max2" "transform._doc_count" before "filtered_max_2"]),
    ("window_delay", period delay), ("ui_metadata", .obj [("aabb", .obj [("ab", .str "bb")])]),
    ("schema_version", .int 2), ("detection_interval", period 10)]

/-! ### Sparsity messages -/

def sparseMessage : Text :=
  "Data is most likely too sparse when given feature queries are applied. Consider revising feature queries"

/-- Each item together with all the others, in order. -/
def selections {α : Type} : List α → List (α × List α)
  | [] => []
  | x :: xs => (x, xs) :: (selections xs).map fun (y, ys) => (y, x :: ys)

/-- The arrangements of so many of the items, in the order of the positions taken. -/
def arrangements {α : Type} : Nat → List α → List (List α)
  | 0, _ => [[]]
  | count + 1, xs => (selections xs).flatMap fun (x, rest) => (arrangements count rest).map (x :: ·)

def permutations {α : Type} (xs : List α) : List (List α) := arrangements xs.length xs

def combinedMessage (names : List Text) : Text :=
  Text.join ", " (names.map fun name => sparseMessage ++ ": " ++ name)

/-- Every message that may report the features, which come in any order. -/
def sparseMessages (names : List Text) : List Text := (permutations names).map combinedMessage

end Detector

end ClusterHarness
