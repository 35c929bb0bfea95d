import ClusterHarness.Validation.Model
import ClusterHarness.Validation.Scalar

/-!
Datasets: a name, which is also the name of the index, and the mapping of the index.
-/

namespace ClusterHarness

open Validation Validated

structure DatasetDefinition where
  name : Text
  mapping : Fields Json

namespace DatasetDefinition

def check : FieldCheck DatasetDefinition := fun source fields =>
  (both (required fields "name" text) (required fields "mapping" (objectOf source fun v => .ok v.merged))).map
    fun (name, mapping) => ⟨name, mapping⟩

/-- The definition as it is written. Its mapping may be too deep, or hold names that are not written. -/
def dump (d : DatasetDefinition) : Except DumpError Json := do
  let mapping ← dumpLooseFields d.mapping
  return .obj [("name", .str d.name), ("mapping", .obj (dumpedFields mapping))]

end DatasetDefinition

namespace Dataset

def syntheticName : Text := "synthetic"

def ruleName : Text := "rule"

/-- The field of a record that holds its time. -/
def timestampField : Text := "timestamp"

def fieldType (name type : Text) : Text × Json := (name, .obj [("type", .str type)])

def mappingOf (properties : Fields Json) : Fields Json :=
  [("mappings", .obj [("properties", .obj properties)])]

/-- A time and two features. -/
def synthetic : DatasetDefinition :=
  ⟨syntheticName, mappingOf [fieldType timestampField "date", fieldType "Feature1" "double",
    fieldType "Feature2" "double"]⟩

/-- A time, a count of documents and the name of a component. -/
def rule : DatasetDefinition :=
  ⟨ruleName, mappingOf [fieldType timestampField "date", fieldType "transform._doc_count" "integer",
    fieldType "componentName" "keyword"]⟩

/-- Asks for the most recent document. -/
def latestDocumentQuery : Json :=
  .obj [("query", .obj [("match_all", .obj [])]), ("size", .int 1),
    ("sort", .arr [.obj [(timestampField, .obj [("order", .str "desc")])]])]

end Dataset

end ClusterHarness
