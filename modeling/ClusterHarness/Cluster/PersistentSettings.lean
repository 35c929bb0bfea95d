import ClusterHarness.Http.Client
import ClusterHarness.Json.Access

/-!
Persistent cluster settings, and scopes in which some of them have other values. A scope remembers the
values that its settings had, null for those unset, and writes them back when it is left.
-/

namespace ClusterHarness

open Http Time

namespace PersistentSettings

variable {σ α : Type}

def endpoint : Text := "_cluster/settings"

def key : Text := "persistent"

def readRequest : Request :=
  { Request.bare "GET" endpoint with params := some (.obj [("flat_settings", .str "true")]) }

theorem readRequest_consists : Client.Consists readRequest "GET" "_cluster/settings"
    (some (.obj [("flat_settings", .str "true")])) .none := ⟨rfl, rfl, rfl⟩

def writeRequest (settings : Json) : Request := .ofDocument "PUT" endpoint (.obj [(key, settings)])

theorem writeRequest_consists (settings : Json) : Client.Consists (writeRequest settings) "PUT"
    "_cluster/settings" none (.json (.obj [("persistent", settings)])) := ⟨rfl, rfl, rfl⟩

def refuseShape {β : Type} (r : Except ShapeError β) : Action σ β := .lift (r.mapError .shape)

/-- The settings with flat names; none at all is an empty object. -/
def read (c : Client σ) : Action σ Json := do
  let v ← c.json readRequest none
  let fields ← refuseShape v.members
  return (fields.get? key).getD (.obj [])

/-- Writes settings, of which null unsets one. The cluster must acknowledge it. -/
def write (c : Client σ) (settings : Json) : Action σ Unit := do
  let v ← c.json (writeRequest settings) none
  let acknowledged ← refuseShape (v.member "acknowledged")
  if acknowledged.truthy then return ()
  else .fail (.http (.make v none (some "Cluster settings update not acknowledged.")))

def defaultSettle : Seconds := .fraction (.ofRatio false 2 1)

/-- Writes one setting, judging by the status, and lets the nodes apply it. -/
def update (c : Client σ) (setting : Text) (value : Json) (settle : Seconds) : Action σ Unit := do
  let status ← c.status (writeRequest (.obj [(setting, value)]))
  if status = 200 then .sleep settle
  else .fail (.http (.ofText (some status) ("Failed to update cluster setting " ++ setting)))

/-- What tells settings apart. Numbers and truth values that count the same are one setting. -/
inductive SettingKey where
  | null
  | text (t : Text)
  | whole (n : Int)
  | fraction (x : Binary64)
  deriving DecidableEq, Repr

/-- A container names no setting. -/
def SettingKey.of : Json → Except ShapeError SettingKey
  | .null => .ok .null
  | .bool b => .ok (.whole (if b then 1 else 0))
  | .int n => .ok (.whole n)
  | .float x => .ok (match x.toInt? with
    | some n => .whole n
    | none => .fraction x)
  | .str t => .ok (.text t)
  | .arr _ | .obj _ => .error .notACollection

/-- The value that a setting has; only texts name settings that have one. -/
def valueOf (fields : Fields Json) : SettingKey → Json
  | .text t => (fields.get? t).getD .null
  | _ => .null

/-- The name that a value is written as. -/
def writtenName : Json → Text
  | .str t => t
  | v => v.render

/-- The values that the given settings have, each setting once, where it first stands. -/
def valuesOf (current : Json) (seen : List SettingKey) : List Json → Except ShapeError (Fields Json)
  | [] => .ok []
  | v :: vs => do
    let fields ← current.members
    let key ← SettingKey.of v
    let more ← valuesOf current (key :: seen) vs
    return if seen.elem key then more else (writtenName v, valueOf fields key) :: more

/-- Writes the settings of a scope and answers with their previous values. -/
def enter (c : Client σ) (settings : Json) : Action σ Json := do
  let current ← read c
  let named ← refuseShape settings.elements
  let previous ← refuseShape (valuesOf current [] named)
  write c settings
  return .obj previous

/-- Writes the previous values back. -/
def leave (c : Client σ) (previous : Json) : Action σ Unit := write c previous

/-- Runs a body in a scope of settings. -/
def during (c : Client σ) (settings : Json) (body : Json → Action σ α) : Action σ α := do
  let previous ← enter c settings
  (body previous).ensuring (leave c previous)

/-- How often a node may fail to answer before it is left alone. -/
def maxRetrySetting : Text := "plugins.timeseries.max_retry_for_unresponsive_node"

/-- How long a node is left alone. -/
def backoffSetting : Text := "plugins.timeseries.backoff_minutes"

/-- Nodes are not left alone however often they fail. -/
def noFaultTolerance : Json := .obj [(maxRetrySetting, .int 100000), (backoffSetting, .int 0)]

end PersistentSettings

end ClusterHarness
