import ClusterHarness.Security.Certificate
import ClusterHarness.Settings.ConfigurationError
import ClusterHarness.Settings.Transport
import ClusterHarness.Text.Lines

/-!
Trust material: the certificates and the key that the admin client presents and trusts. Certificates
that expire within a day are announced, and an expired one is an error.
-/

namespace ClusterHarness

open Time

/-- What is announced while the settings of a client are chosen and while it is built. -/
inductive Notice where
  | keystoreMissing (directory : Path) (names : List Text)
  | keystoreUsed (resources : Path)
  | building (mode : Text) (hosts : List Text) (strict : Bool)
  | expiring (subject : Text) (path : Path) (hours : Int)
  | verificationOff
  deriving DecidableEq, Repr

namespace Notice

def message : Notice → Text
  | .keystoreMissing directory names =>
    "No keystore material in " ++ directory.toText ++ ", missing: " ++ (Json.arr (names.map .str)).literal
  | .keystoreUsed resources => "Using keystore material from " ++ resources.toText ++ " for the admin client"
  | .building mode hosts strict =>
    "Building " ++ mode ++ " REST client for " ++ (Json.arr (hosts.map .str)).literal
      ++ " (strict deprecation mode: " ++ (Json.bool strict).literal ++ ")"
  | .expiring subject path hours =>
    "Certificate " ++ subject ++ " in " ++ path.toText ++ " expires in " ++ Text.ofInt hours ++ " hours."
  | .verificationOff => "TLS certificate and hostname verification are disabled."

end Notice

/-- A file system with a clock. -/
structure World where
  files : FileTree
  now : Instant

/-- Why trust material cannot be used: most errors tell the file, some only what is wrong with a
certificate in it. -/
inductive TrustError where
  | configuration (e : ConfigurationError)
  | certificate (e : CertificateError)
  deriving DecidableEq, Repr

namespace TrustMaterial

def directory : Text := "security"
def caFile : Text := "sample.pem"
def certificateFile : Text := "kirk.pem"
def keyFile : Text := "kirk-key.pem"

/-- Those of the names that no file of the directory has. -/
def missing (files : FileTree) (dir : Path) : List Text → Except OpenError (List Text)
  | [] => .ok []
  | name :: names => do
    let there ← files.isFile (dir.child name)
    let more ← missing files dir names
    return if there then more else name :: more

/-- The files of a keystore. -/
def fileNames : List Text := [caFile, certificateFile, keyFile]

/-- Looks for the admin's keystore below a resources directory. It is there if all of its files are. -/
def findKeystore (files : FileTree) (resources : Path) : List Notice × Except OpenError (Option Keystore) :=
  let dir := resources.child directory
  match missing files dir fileNames with
  | .error e => ([], .error e)
  | .ok [] =>
    ([], .ok (some ⟨files.absolute (dir.child caFile), files.absolute (dir.child certificateFile),
      files.absolute (dir.child keyFile), false⟩))
  | .ok names => ([.keystoreMissing dir names], .ok none)

def keystore? (files : FileTree) (resources : Path) : Except OpenError (Option Keystore) :=
  (findKeystore files resources).2

def unsound (path : Path) : TrustError := .configuration (.certificateFile path .unsoundContent)

/-- A version that is not known is told without the file. -/
def readError (path : Path) : CertificateError → TrustError
  | .version n => .certificate (.version n)
  | _ => unsound path

/-- The text of a file of certificates. -/
def content (files : FileTree) (path : Path) : Except TrustError Text := do
  let bytes ← (files.readBytes path).mapError fun e =>
    match e with
    | .path _ => unsound path
    | e => .configuration (.certificateFile path (.opening e))
  (Utf8.decode bytes).mapError fun _ => unsound path

/-- Every certificate of a file, at least one. -/
def loadCertificates (files : FileTree) (path : Path) : Except TrustError (List Certificate) := do
  let text ← content files path
  let certificates ← (Pem.splitChain text.unifyLineEnds).mapM fun t =>
    (Certificate.ofPem t).mapError (readError path)
  if certificates.isEmpty then throw (.configuration (.noCertificate path))
  return certificates

/-- Fewer hours than these to the expiry are announced. -/
def warningHours : Int := 24

/-- What a certificate of a file gives rise to. -/
def checkCertificate (now : Instant) (path : Path) (c : Certificate) : Except TrustError (Option Notice) := do
  let hours ← (c.remainingHours now).mapError .certificate
  if hours < warningHours then
    let subject ← c.subjectText.mapError .certificate
    if hours < 0 then throw (.configuration (.expired subject path))
    return some (.expiring subject path hours)
  return none

/-- Goes through the certificates of a file up to the first that is in error. -/
def checkCertificates (now : Instant) (path : Path) :
    List Certificate → List Notice × Except TrustError Unit
  | [] => ([], .ok ())
  | c :: cs =>
    match checkCertificate now path c with
    | .error e => ([], .error e)
    | .ok notice =>
      let (notices, result) := checkCertificates now path cs
      (notice.toList ++ notices, result)

def checkFile (w : World) (path : Path) : List Notice × Except TrustError Unit :=
  match loadCertificates w.files path with
  | .error e => ([], .error e)
  | .ok cs => checkCertificates w.now path cs

/-- Checks files in turn; after one that fails no other is read. -/
def checkFiles (w : World) : List Path → List Notice × Except TrustError Unit
  | [] => ([], .ok ())
  | path :: paths =>
    match checkFile w path with
    | (notices, .error e) => (notices, .error e)
    | (notices, .ok ()) =>
      let (more, result) := checkFiles w paths
      (notices ++ more, result)

/-- Checks the authorities' certificates and then the client's. -/
def check (w : World) (k : Keystore) : List Notice × Except TrustError Unit :=
  checkFiles w [k.caCert, k.clientCert]

end TrustMaterial

end ClusterHarness
