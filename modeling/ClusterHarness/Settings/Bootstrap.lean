import ClusterHarness.Security.TlsContext
import ClusterHarness.Settings.Client
import ClusterHarness.Settings.RuntimeFlags
import ClusterHarness.Text.LetterCase

/-!
From runtime flags to client settings, and from settings to a client's connection pools.

An unsecured cluster is reached in plain. A secured one must be named; its admin client presents the
keystore if there is one, and every other client presents the given credentials.
-/

namespace ClusterHarness

open Time Validation Validated

/-- Why flags give no settings. -/
inductive SettingsError where
  | configuration (e : ConfigurationError)
  | opening (e : OpenError)
  | interval (e : IntervalError)
  | invalid (issues : List Issue)
  deriving DecidableEq, Repr

namespace RuntimeFlags

def timeoutSetting : Text := "client.socket.timeout"

def prefixSetting : Text := "client.path.prefix"

def defaultTimeout : Text := "60s"

def defaultHost : Text := "localhost:9200"

/-- Whether the cluster is secured; then its address must be known. -/
def isSecured (flags : RuntimeFlags) : Except ConfigurationError Bool :=
  if flags.https && flags.hosts.isEmpty then .error .clusterMissing else .ok flags.https

/-- The user and the password, of which neither may be missing. -/
def credentials (flags : RuntimeFlags) : Except ConfigurationError Credentials :=
  match flags.user with
  | none | some [] => .error .userMissing
  | some user =>
    match flags.password with
    | none | some ⟨[]⟩ => .error .passwordMissing
    | some password => .ok ⟨user, password⟩

/-- The credentials as a transport, which has rules of its own for the user. -/
def basicAuth (flags : RuntimeFlags) : Except SettingsError Transport := do
  let c ← flags.credentials.mapError .configuration
  let username ← (within (.name "username") (Transport.namedUser c.username)).mapError .invalid
  return .basicAuth ⟨username, c.password⟩

/-- Chooses the transport of the regular or of the admin client. -/
def chooseTransport (files : FileTree) (flags : RuntimeFlags) (admin : Bool) :
    List Notice × Except SettingsError Transport :=
  match flags.isSecured with
  | .error e => ([], .error (.configuration e))
  | .ok false => ([], .ok .plain)
  | .ok true =>
    if !admin then ([], flags.basicAuth)
    else match TrustMaterial.findKeystore files flags.resourcesDir with
    | (notices, .error e) => (notices, .error (.opening e))
    | (notices, .ok (some k)) => (notices ++ [.keystoreUsed flags.resourcesDir], .ok (.keystore k))
    | (notices, .ok none) => (notices, flags.basicAuth)

def transport (files : FileTree) (flags : RuntimeFlags) (admin : Bool) : Except SettingsError Transport :=
  (chooseTransport files flags admin).2

/-- What is announced while settings are made. -/
def notices (files : FileTree) (flags : RuntimeFlags) (admin : Bool) : List Notice :=
  (chooseTransport files flags admin).1

def intervalError : IntervalError → SettingsError
  | .malformed setting value => .configuration (.malformedInterval setting value)
  | .negative setting value => .configuration (.negativeInterval setting value)
  | e => .interval e

def timeout (flags : RuntimeFlags) : Except SettingsError Seconds :=
  (parseInterval timeoutSetting (some (flags.socketTimeout.getD defaultTimeout))).mapError intervalError

/-- A number of seconds as a timeout of the settings. -/
def secondsTimeout (s : Seconds) : Validated (Option Binary64) :=
  within (.name "socket_timeout") <| match s.toBinary64? with
    | some x => ClientSettings.normalTimeout (some x)
    | none => refuse .notNumber

/-- The hosts of a secured cluster are known; any other cluster has a default address. -/
def clientHosts (flags : RuntimeFlags) : List Text :=
  if flags.hosts.isEmpty then [defaultHost] else flags.hosts

/-- The settings of the regular client, or of the admin client, to which deprecation warnings are no
errors. They have to pass the checks of any settings. -/
def clientSettings (files : FileTree) (flags : RuntimeFlags) (admin : Bool) :
    Except SettingsError ClientSettings := do
  let transport ← flags.transport files admin
  let seconds ← flags.timeout
  let (hosts, timeout) ← (both (within (.name "hosts") (ClientSettings.normalHosts flags.clientHosts))
    (secondsTimeout seconds)).mapError .invalid
  let settings := {
    hosts := hosts
    transport := transport
    strictDeprecationMode := !admin
    socketTimeout := timeout
    pathPrefix := ClientSettings.normalPrefix flags.pathPrefix
    maxConnPerRoute := ClientSettings.defaultPerRoute
    maxConnTotal := ClientSettings.defaultTotal
    defaultHeaders := [] }
  (ClientSettings.checkPool settings).mapError .invalid

end RuntimeFlags

/-- A client's connection pools and what they are built with. -/
structure Connection where
  settings : ClientSettings
  tls : Option TlsContext
  deriving DecidableEq, Repr

namespace Connection

def build (w : World) (settings : ClientSettings) : List Notice × Except TlsError Connection :=
  let (notices, tls) := TlsContext.ofTransport w settings.transport
  (.building settings.transport.mode settings.hosts settings.strictDeprecationMode :: notices,
    tls.map (⟨settings, ·⟩))

/-- The connections of one pool. -/
def poolSize (c : Connection) : Int := c.settings.maxConnPerRoute

/-- The number of pools that the limits leave room for. -/
def poolCount (c : Connection) : Int :=
  max 1 (c.settings.maxConnTotal.fdiv c.settings.maxConnPerRoute)

def credentials? (c : Connection) : Option Credentials :=
  match c.settings.transport with
  | .basicAuth credentials => some credentials
  | _ => none

/-- The value of a default header by its name in any letter case; the last one counts. -/
def header? (c : Connection) (name : Text) : Option Text :=
  (c.settings.defaultHeaders.reverse.find? fun h => Text.sameName h.1 name).map Prod.snd

end Connection

end ClusterHarness
