import ClusterHarness.Files.Tree
import ClusterHarness.Json.Reader
import ClusterHarness.Text.Lines

/-!
Fixture resources: files below a resources directory that hold a JSON array of records. Reading takes
the head of the array, and only the head must be objects.
-/

namespace ClusterHarness

namespace Dataset

def nameSpace : Text := "ad/e2e"

/-- The resource of a dataset in a name space. -/
def resource (dataset : Text) (within : Text) : Text := within ++ "/data/" ++ dataset ++ ".data"

end Dataset

/-- What is wrong with a resource. -/
inductive FixtureError where
  | notFound (resource dir : Text)
  | unreadable (path : Path) (problem : FileProblem)
  | notUtf8 (path : Path) (e : Utf8.Error)
  | malformed (path : Path) (e : Json.ReadError)
  | notAnArray (path : Path) (kind : Text)
  | notAnObject (path : Path) (position : Nat)
  deriving DecidableEq, Repr

def FixtureError.message : FixtureError → Text
  | .notFound resource dir => "Fixture resource " ++ resource ++ " not found in " ++ dir
  | .unreadable path problem =>
    "Cannot read fixture resource " ++ path.toText ++ ": " ++ (OpenError.system problem path).message
  | .notUtf8 path e => "Fixture resource " ++ path.toText ++ " is not valid UTF-8: " ++ e.message
  | .malformed path e => "Malformed JSON in fixture resource " ++ path.toText ++ ": " ++ e.message
  | .notAnArray path kind =>
    "Fixture resource " ++ path.toText ++ " must hold a JSON array, got " ++ kind
  | .notAnObject path position =>
    "Element " ++ Text.ofNat position ++ " of fixture resource " ++ path.toText ++ " is not a JSON object"

/-- Why records are not read: a fault of the resource, or one that is not blamed on it. -/
inductive RecordsError where
  | fixture (e : FixtureError)
  | negativeLimit (limit : Int)
  | path (fault : PathFault)
  | tooManyDigits (count : Nat)
  | tooDeep
  deriving DecidableEq, Repr

def RecordsError.message : RecordsError → Text
  | .fixture e => e.message
  | .negativeLimit limit => "limit must be non-negative, got " ++ Text.ofInt limit
  | .path fault => fault.message
  | .tooManyDigits count => Json.tooManyDigitsMessage count
  | .tooDeep => Json.ReadError.tooDeep.message

namespace Fixture

def isObject : Json → Bool
  | .obj _ => true
  | _ => false

/-- Refuses the first record that is no object. -/
def checkRecords (path : Path) (position : Nat) : List Json → Except RecordsError Unit
  | [] => .ok ()
  | v :: vs =>
    if isObject v then checkRecords path (position + 1) vs
    else .error (.fixture (.notAnObject path position))

/-- The bytes of a resource. -/
def fetch (tree : FileTree) (resource dir : Text) (path : Path) : Except RecordsError Bytes :=
  match tree.readBytes path with
  | .ok content => .ok content
  | .error (.path fault) => .error (.path fault)
  | .error (.system .missing _) => .error (.fixture (.notFound resource dir))
  | .error (.system problem _) => .error (.fixture (.unreadable path problem))

/-- The document of a resource. -/
def parse (path : Path) (content : Bytes) : Except RecordsError Json :=
  match Utf8.decode content with
  | .error e => .error (.fixture (.notUtf8 path e))
  | .ok t =>
    match Json.read .document t.unifyLineEnds with
    | .ok v => .ok v
    | .error .tooDeep => .error .tooDeep
    | .error (.tooManyDigits count) => .error (.tooManyDigits count)
    | .error e => .error (.fixture (.malformed path e))

/-- The first records of a resource, at most `limit` of them. -/
def readRecords (tree : FileTree) (resource : Text) (limit : Int) (dir : Text) :
    Except RecordsError (List Json) := do
  if limit < 0 then throw (.negativeLimit limit)
  let path := (Path.ofText dir).child resource
  let content ← fetch tree resource dir path
  match ← parse path content with
  | .arr records =>
    let head := records.take limit.toNat
    checkRecords path 0 head
    return head
  | v => throw (.fixture (.notAnArray path v.kindName))

end Fixture

end ClusterHarness
