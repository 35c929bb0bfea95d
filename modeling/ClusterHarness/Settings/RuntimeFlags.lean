import ClusterHarness.Settings.Transport

/-!
Runtime flags: what is known about the cluster under test when a run starts. They come from a document
or from environment variables; a blank text counts as unset.
-/

namespace ClusterHarness

open Validation Validated

structure RuntimeFlags where
  https : Bool
  cluster : Option Text
  user : Option Text
  password : Option Secret
  socketTimeout : Option Text
  pathPrefix : Option Text
  resourcesDir : Path
  deriving DecidableEq, Repr

namespace RuntimeFlags

def defaultResources : Path := .ofText "tests/resources"

/-- A text that is not blank. -/
def setText (t : Option Text) : Option Text := t.filter (!·.isBlank)

/-- A blank text is checked as null. -/
def flag (v : Json) : Validated (Option Text) := (optional text v).map setText

def check : FieldCheck RuntimeFlags := fun _ fields =>
  (both (withDefault fields "https" false boolean) <|
    both (withDefault fields "cluster" none flag) <|
    both (withDefault fields "user" none flag) <|
    both (withDefault fields "password" none (optional secret)) <|
    both (withDefault fields "socket_timeout" none flag) <|
    both (withDefault fields "path_prefix" none flag) <|
    withDefault fields "resources_dir" defaultResources path).map
      fun (https, cluster, user, password, timeout, lead, dir) =>
        ⟨https, cluster, user, password, timeout, lead, dir⟩

def httpsVariable : Text := "HTTPS"
def clusterVariable : Text := "TESTS_REST_CLUSTER"
def userVariable : Text := "OPENSEARCH_USER"
def passwordVariable : Text := "OPENSEARCH_PASSWORD"
def socketTimeoutVariable : Text := "CLIENT_SOCKET_TIMEOUT"
def pathPrefixVariable : Text := "CLIENT_PATH_PREFIX"
def resourcesDirVariable : Text := "TESTS_RESOURCES_DIR"

/-- The flags of an environment. -/
def ofEnvironment (env : Fields Text) : RuntimeFlags where
  https := ((env.get? httpsVariable).getD []).trim.toLower == "true"
  cluster := setText (env.get? clusterVariable)
  user := setText (env.get? userVariable)
  password := (env.get? passwordVariable).map .mk
  socketTimeout := setText (env.get? socketTimeoutVariable)
  pathPrefix := setText (env.get? pathPrefixVariable)
  resourcesDir := match env.get? resourcesDirVariable with
    | some (c :: t) => .ofText (c :: t)
    | _ => defaultResources

/-- The cluster addresses, separated by commas. -/
def hosts (flags : RuntimeFlags) : List Text :=
  match flags.cluster with
  | none => []
  | some cluster => ((cluster.splitOn ",").filter (!·.isBlank)).map Text.trim

def toJson (flags : RuntimeFlags) : Json :=
  .obj [("https", .bool flags.https), ("cluster", nullable flags.cluster), ("user", nullable flags.user),
    ("password", nullable (flags.password.map Secret.masked)),
    ("socket_timeout", nullable flags.socketTimeout), ("path_prefix", nullable flags.pathPrefix),
    ("resources_dir", .str flags.resourcesDir.toText)]

end RuntimeFlags

end ClusterHarness
