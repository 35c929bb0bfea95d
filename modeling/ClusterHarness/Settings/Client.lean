import ClusterHarness.Settings.Transport

/-!
Client settings, in a normal form: hosts are trimmed and not blank, a path prefix starts with a slash
and does not end with one, a timeout is positive or absent, and no route takes more connections than
the pool has.
-/

namespace ClusterHarness

open Validation Validated

structure ClientSettings where
  hosts : List Text
  transport : Transport
  strictDeprecationMode : Bool
  socketTimeout : Option Binary64
  pathPrefix : Option Text
  maxConnPerRoute : Int
  maxConnTotal : Int
  defaultHeaders : Fields Text
  deriving DecidableEq, Repr

namespace ClientSettings

def slash : CodePoint := CodePoint.ofChar '/'

def isSlash (c : CodePoint) : Bool := c = slash

/-- The hosts that are not blank, trimmed. -/
def trimHosts (hosts : List Text) : List Text := (hosts.filter (!·.isBlank)).map Text.trim

def normalHosts (hosts : List Text) : Validated (List Text) :=
  let kept := trimHosts hosts
  if kept.isEmpty then refuse (.rule .hostMissing) else .ok kept

/-- A timeout of zero is no timeout. -/
def normalTimeout (timeout : Option Binary64) : Validated (Option Binary64) :=
  match timeout with
  | none => .ok none
  | some x =>
    if x.isBelowZero then refuse (.rule .negativeTimeout) else .ok (if x.isZero then none else some x)

def normalPrefix (t : Option Text) : Option Text :=
  t.bind fun t =>
    let core := t.trimBy isSlash
    if core.isEmpty then none else some (slash :: core)

def checkHosts (source : Source) (v : Json) : Validated (List Text) := do
  normalHosts (← listOf source text v)

def checkTimeout (source : Source) (v : Json) : Validated (Option Binary64) := do
  normalTimeout (← optional (number source) v)

def checkPrefix (v : Json) : Validated (Option Text) := (optional text v).map normalPrefix

/-- A route takes at least one connection and at most as many as the pool has. -/
def checkPool (s : ClientSettings) : Validated ClientSettings :=
  if s.maxConnPerRoute ≤ 0 ∨ s.maxConnTotal ≤ 0 then refuse (.rule .poolNotPositive)
  else if s.maxConnTotal < s.maxConnPerRoute then refuse (.rule .poolTooSmall)
  else .ok s

def defaultTimeout : Binary64 := .ofRatio false 60 1

def defaultPerRoute : Int := 10

def defaultTotal : Int := 30

def check : FieldCheck ClientSettings := fun source fields => do
  let (hosts, transport, strict, timeout, lead, perRoute, total, headers) ←
    both (required fields "hosts" (checkHosts source)) <|
    both (withDefault fields "transport" .plain (Transport.check source)) <|
    both (withDefault fields "strict_deprecation_mode" true boolean) <|
    both (withDefault fields "socket_timeout" (some defaultTimeout) (checkTimeout source)) <|
    both (withDefault fields "path_prefix" none checkPrefix) <|
    both (withDefault fields "max_conn_per_route" defaultPerRoute integer) <|
    both (withDefault fields "max_conn_total" defaultTotal integer) <|
    withDefault fields "default_headers" [] (objectOf source text)
  checkPool ⟨hosts, transport, strict, timeout, lead, perRoute, total, headers⟩

def toJson (s : ClientSettings) : Json :=
  .obj [("hosts", .arr (s.hosts.map .str)), ("transport", s.transport.toJson),
    ("strict_deprecation_mode", .bool s.strictDeprecationMode),
    ("socket_timeout", (s.socketTimeout.map Json.float).getD .null),
    ("path_prefix", nullable s.pathPrefix), ("max_conn_per_route", .int s.maxConnPerRoute),
    ("max_conn_total", .int s.maxConnTotal),
    ("default_headers", .obj ((dumpedFields s.defaultHeaders).map fun (k, v) => (k, .str v)))]

def schemeMark : Text := "://"

/-- A host with the scheme of the transport, unless it names one itself. -/
def hostUrl (transport : Transport) (host : Text) : Text :=
  if Text.contains host schemeMark then host else transport.scheme ++ schemeMark ++ host

def baseUrl (transport : Transport) (pathPrefix : Option Text) (host : Text) : Text :=
  (hostUrl transport host).trimEnd isSlash ++ pathPrefix.getD []

def baseUrls (s : ClientSettings) : List Text := s.hosts.map (baseUrl s.transport s.pathPrefix)

end ClientSettings

end ClusterHarness
