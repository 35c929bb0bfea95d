import ClusterHarness.Json.Literal
import ClusterHarness.Validation.Model
import ClusterHarness.Validation.Scalar

/-!
Transports: how a client reaches the cluster. Plain access has neither TLS nor credentials; keystore
access is TLS with a client certificate; basic access is TLS that trusts every certificate, with a
user name and a password. The word in `mode` tells them apart.
-/

namespace ClusterHarness

open Validation Validated

/-- A password. It is masked wherever settings are written. -/
structure Secret where
  clear : Text
  deriving DecidableEq, Repr

def Secret.masked (s : Secret) : Text := if s.clear.isEmpty then [] else "**********"

def Validation.secret (v : Json) : Validated Secret := (Validation.text v).map .mk

structure Keystore where
  caCert : Path
  clientCert : Path
  clientKey : Path
  verifyHostname : Bool
  deriving DecidableEq, Repr

structure Credentials where
  username : Text
  password : Secret
  deriving DecidableEq, Repr

inductive Transport where
  | plain
  | keystore (k : Keystore)
  | basicAuth (c : Credentials)
  deriving DecidableEq, Repr

namespace Transport

def plainMode : Text := "plain"
def keystoreMode : Text := "secured-keystore"
def basicAuthMode : Text := "secured-basic-auth"

def mode : Transport → Text
  | .plain => plainMode
  | .keystore _ => keystoreMode
  | .basicAuth _ => basicAuthMode

def isSecured : Transport → Bool
  | .plain => false
  | _ => true

/-- Whether certificates are trusted without a check. -/
def trustsAll : Transport → Bool
  | .basicAuth _ => true
  | _ => false

def scheme (t : Transport) : Text := if t.isSecured then "https" else "http"

def password? : Transport → Option Secret
  | .basicAuth c => some c.password
  | _ => none

def toJson : Transport → Json
  | .plain => .obj [("mode", .str plainMode)]
  | .keystore k => .obj [("mode", .str keystoreMode), ("ca_cert", .str k.caCert.toText),
      ("client_cert", .str k.clientCert.toText), ("client_key", .str k.clientKey.toText),
      ("verify_hostname", .bool k.verifyHostname)]
  | .basicAuth c => .obj [("mode", .str basicAuthMode), ("username", .str c.username),
      ("password", .str c.password.masked)]

def checkMode (mode : Text) (fields : Fields Json) : Validated Unit :=
  withDefault fields "mode" () (word mode)

def checkPlain : FieldCheck Unit := fun _ fields => checkMode plainMode fields

def checkKeystore : FieldCheck Keystore := fun _ fields =>
  (both (checkMode keystoreMode fields) <|
    both (required fields "ca_cert" path) <|
    both (required fields "client_cert" path) <|
    both (required fields "client_key" path) <|
    withDefault fields "verify_hostname" false boolean).map
      fun (_, ca, cert, key, verify) => ⟨ca, cert, key, verify⟩

/-- A user name is not blank. -/
def namedUser (t : Text) : Validated Text := if t.isBlank then refuse (.rule .userMissing) else .ok t

def username (v : Json) : Validated Text := do namedUser (← Validation.text v)

def checkBasicAuth : FieldCheck Credentials := fun _ fields =>
  (both (checkMode basicAuthMode fields) <|
    both (required fields "username" username) (required fields "password" secret)).map
      fun (_, user, password) => ⟨user, password⟩

/-- Checks the fields that the word in `mode` calls for. -/
def checkTagged (source : Source) (fields : Fields Json) (tag : Json) : Validated Transport :=
  match tag with
  | .str t =>
    if t = plainMode then within (.name t) ((checkPlain source fields).map fun _ => .plain)
    else if t = keystoreMode then within (.name t) ((checkKeystore source fields).map .keystore)
    else if t = basicAuthMode then within (.name t) ((checkBasicAuth source fields).map .basicAuth)
    else refuse (.unknownTag (dumpedName t))
  | v => refuse (.unknownTag v.plain)

def check (source : Source) : Json → Validated Transport
  | .obj members =>
    let fields := Fields.ofList members
    match Fields.get? "mode" fields with
    | some tag => checkTagged source fields tag
    | none => refuse .noTag
  | _ =>
    match source with
    | .value => refuse .noAttributes
    | .text => refuse (.notObject .text)

end Transport

end ClusterHarness
