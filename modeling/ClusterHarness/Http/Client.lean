import ClusterHarness.Http.Session

/-!
The REST client. A request goes to the host that answered last; a host that cannot be reached is
followed by the next one, and every host is tried once. The first response settles the host, whatever
it says. Responses that are not ok are failures, and so are deprecation warnings in strict mode.
-/

namespace ClusterHarness

open Http Time

inductive Payload where
  | none
  | json (v : Json)
  | body (b : Body)

/-- The payload that a document stands for: a text is sent as it is, and null sends nothing. -/
def Payload.ofDocument : Json → Payload
  | .null => .none
  | .str t => .body (.text t)
  | v => .json v

structure Request where
  method : Option Text
  endpoint : Option Text
  payload : Payload
  params : Option Json
  headers : Fields Text
  timeout : Option Seconds

namespace Request

/-- A request without a payload. -/
def bare (method endpoint : Text) : Request := ⟨some method, some endpoint, .none, none, [], none⟩

def ofDocument (method endpoint : Text) (v : Json) : Request :=
  { bare method endpoint with payload := .ofDocument v }

def acceptHeader : Text := "Accept"

def contentType : Text := "Content-Type"

def jsonType : Text := "application/json"

/-- The headers of a request: JSON is accepted, unless the caller says otherwise, and a payload has a
type, which a JSON payload does not leave to the caller. Names are compared as they are written. -/
def callHeaders (r : Request) : Fields Text :=
  let headers := r.headers.foldl (fun fields (k, v) => Fields.put k v fields) [(acceptHeader, jsonType)]
  match r.payload with
  | .none => headers
  | .json _ => Fields.put contentType jsonType headers
  | .body _ =>
    if (Fields.get? contentType headers).isSome then headers else Fields.put contentType jsonType headers

def callBody (r : Request) : Option Body :=
  match r.payload with
  | .none => none
  | .json v => some (.text v.render)
  | .body b => some b

end Request

/-- Zero seconds are no timeout. -/
def positiveTimeout (s : Option Seconds) : Option Seconds := s.filter (!·.isZero)

structure Client (σ : Type) where
  settings : ClientSettings
  /-- How the far side answers a call. -/
  wire : Call → σ → Outcome × σ

namespace Client

variable {σ : Type}

def baseUrls (c : Client σ) : List Text := c.settings.baseUrls

/-- The endpoint of a request without its leading slashes. -/
def path (endpoint : Text) : Text := endpoint.dropWhile ClientSettings.isSlash

def timeout (c : Client σ) (r : Request) : Option Seconds :=
  positiveTimeout (r.timeout <|> c.settings.socketTimeout.map .fraction)

/-- The call of a request on one host. -/
def call (c : Client σ) (method path : Text) (r : Request) (base : Text) : Call where
  method := method
  url := base ++ ClientSettings.slash :: path
  params := r.params
  headers := r.callHeaders
  timeout := c.timeout r
  body := r.callBody
  unverified := c.settings.transport.trustsAll

/-- What is seen of an attempt: a record and the call. -/
def attemptEvents (call : Call) : List Event :=
  [.log .debug (call.method ++ " " ++ call.url), .call call]

/-- Makes one call. -/
def perform (c : Client σ) (call : Call) : Action σ Outcome := fun s =>
  let (outcome, far) := c.wire call s.far
  (.ok outcome, { s with far := far, trace := s.trace ++ attemptEvents call })

def settleHost (host : Nat) : Action σ Unit := fun s => (.ok (), { s with host := host })

/-- The hosts in the order in which they are tried. -/
def rotation (count start : Nat) : List Nat := (List.range count).map fun k => (start + k) % count

/-- The failure of a request that no host answered. -/
def noAnswer (text : Text) : Failure := .http (.ofText none text)

/-- Tries hosts in turn until one answers; `last` is what the last unreachable one had to say. -/
def tryHosts (c : Client σ) (method path : Text) (r : Request) (last : Text) : List Nat → Action σ Response
  | [] => .fail (noAnswer last)
  | host :: hosts => do
    let call := c.call method path r ((c.baseUrls[host]?).getD [])
    match ← c.perform call with
    | .response response =>
      settleHost host
      return response
    | .fault f message =>
      if f.isUnreachable then
        .log .warning ("Request " ++ method ++ " " ++ call.url ++ " failed: " ++ message)
        tryHosts c method path r message hosts
      else if f.isTimeout then .fail (noAnswer message)
      else .fail (.connection f message)

/-- The method and the path of a request, which must have both. -/
def target (r : Request) : Except Failure (Text × Text) :=
  match r.method, r.endpoint with
  | some method, some endpoint => .ok (method.upperCase, path endpoint)
  | _, _ => .error .noTarget

/-- What a request consists of: its method in capitals, its path without leading slashes, its parameters and its
payload. -/
structure Consists (r : Request) (method path : Text) (params : Option Json) (payload : Payload) : Prop where
  target : target r = .ok (method, path)
  params : r.params = params
  payload : r.payload = payload

/-- Sends a request and answers with the response, whatever its status. -/
def send (c : Client σ) (r : Request) : Action σ Response := do
  let (method, path) ← .lift (target r)
  let start ← fun s => (.ok s.host, s)
  c.tryHosts method path r "None" (rotation c.baseUrls.length start)

/-- Sends a request and answers with the status of the response. -/
def status (c : Client σ) (r : Request) : Action σ Int := do
  return (← c.send r).status

/-- The failure that a response is which is not ok. A body that is no document counts as empty, unless it is
nested too deeply; the text is asked for after the document. -/
def responseFailure (response : Response) : Failure :=
  match response.json, response.text with
  | .error (.reading .tooDeep), _ => .document .tooDeep
  | _, .error fault => .undecodable fault
  | document, .ok text =>
    .http (.make (document.toOption.getD .null) (some response.status) (some text))

/-- Whether warnings are errors: as the call says, or else as the settings say. -/
def isStrict (c : Client σ) (strict : Option Bool) : Bool := strict.getD c.settings.strictDeprecationMode

/-- Refuses a response that is not ok, or that carries warnings in strict mode. -/
def check (c : Client σ) (r : Request) (strict : Option Bool) (response : Response) : Action σ Unit := do
  if !response.isOk then .fail (responseFailure response)
  else if response.warnings.isEmpty then return ()
  else if c.isStrict strict then .fail (.deprecation response.warnings (some response.status))
  else
    let (method, path) ← .lift (target r)
    .log .warning (method ++ " /" ++ path ++ " returned warnings: "
      ++ (Json.arr (response.warnings.map .str)).literal)

/-- Sends a request and answers with its response, if that is accepted. -/
def response (c : Client σ) (r : Request) (strict : Option Bool) : Action σ Response := do
  let response ← c.send r
  c.check r strict response
  return response

/-- Sends a request and answers with the document of its response. -/
def json (c : Client σ) (r : Request) (strict : Option Bool) : Action σ Json := do
  let response ← c.response r strict
  .lift (response.json.mapError .ofBody)

end Client

/-- A far side that answers with given outcomes, one a call, and then falls silent. -/
def scripted (_ : Call) : List Outcome → Outcome × List Outcome
  | [] => (.fault .silence "no more replies", [])
  | outcome :: more => (outcome, more)

end ClusterHarness
