import ClusterHarness.Security.PrivateKey
import ClusterHarness.Security.TlsCertificate
import ClusterHarness.Security.TrustMaterial

/-!
TLS contexts: how far a connection checks its peer, the authorities that it trusts, and the certificate
with its key that a client presents.
-/

namespace ClusterHarness

/-- How far a TLS connection checks its peer. -/
structure TlsContext where
  verifiesCertificates : Bool
  checksHostname : Bool
  deriving DecidableEq, Repr

/-- What the TLS library finds wrong with a file of authorities. -/
inductive AuthorityFault where
  | brokenBlock
  | noCertificate
  deriving DecidableEq, Repr

def AuthorityFault.message : AuthorityFault → Text
  | .brokenBlock => "[X509] PEM lib"
  | .noCertificate => "[X509: NO_CERTIFICATE_OR_CRL_FOUND] no certificate or crl found"

inductive TlsError where
  | trust (e : TrustError)
  | authorities (fault : AuthorityFault)
  /-- The path of the key is none. -/
  | keyPath (fault : PathFault)
  deriving DecidableEq, Repr

namespace TlsContext

open PemFile (Block)

/-! ### Authorities -/

def plainLabels : List Text := ["CERTIFICATE", "X509 CERTIFICATE"]

def trustedLabel : Text := "TRUSTED CERTIFICATE"

def revocationLabel : Text := "X509 CRL"

open Asn1 Form in
/-- A certificate that was revoked, and when. -/
def isRevoked : Form := sequence do
  required integer
  required (Certificate.isTime .basic)
  optional .sequence (listOf fun e => (Extension.ofElement? .basic e).isSome)

open Asn1 Form in
/-- The signed part of a list of revoked certificates. -/
def revocations : Members Unit := do
  optional .integer integer
  required fun e => (AlgorithmId.ofElement? .basic e).isSome
  required Extension.name
  required (Certificate.isTime .basic)
  optional .utcTime (Certificate.isTime .basic)
  optional .generalizedTime (Certificate.isTime .basic)
  optional .sequence (listOf isRevoked)
  optional (.context 0) (marking (listOf fun e => (Extension.ofElement? .basic e).isSome))

open Asn1 Form in
/-- Whether some bytes are a list of revoked certificates. -/
def isRevocationList (bs : Bytes) : Bool :=
  let list : Members Unit := do
    required (sequence revocations)
    required fun e => (AlgorithmId.ofElement? .basic e).isSome
    required bits
  (element? .basic bs).any fun (e, _) => sequence list e

/-- What a block is to the authorities: one of them, or a list of revoked certificates; something else that
is passed over; or an error. -/
inductive Role where
  | authority
  | passedOver
  | broken
  deriving DecidableEq, Repr

def roleIf (role : Role) (sound : Bool) (b : Block) : Role :=
  if sound && b.header.isEmpty then role else .broken

def roleOf : Option Block → Role
  | none => .broken
  | some b =>
    if plainLabels.elem b.label then roleIf .authority (Certificate.loadable? b.content).isSome b
    else if b.label = trustedLabel then roleIf .authority (Certificate.loadableTrusted? b.content).isSome b
    else if b.label = revocationLabel then roleIf .authority (isRevocationList b.content) b
    else if b.label.contains PrivateKey.keyWords ∧ b.label ≠ PrivateKey.encryptedLabel then
      roleIf .passedOver (PrivateKey.isLabelled b.label b.content) b
    else .passedOver

/-- Loads the authorities of a file. -/
def loadAuthorities (bs : Bytes) : Except AuthorityFault Unit :=
  let roles := (PemFile.blocks bs).map roleOf
  if roles.elem .broken then .error .brokenBlock
  else if roles.elem .authority then .ok ()
  else .error .noCertificate

/-! ### The client -/

/-- The client's own certificate, and the blocks after it. Blocks with other labels are passed over. -/
def ownCertificate? : List (Option Block) → Option (Certificate × List (Option Block))
  | [] => none
  | none :: _ => none
  | some b :: rest =>
    if plainLabels.elem b.label ∨ b.label = trustedLabel then do
      guard b.header.isEmpty
      return (← Certificate.loadableTrusted? b.content, rest)
    else ownCertificate? rest

/-- Whether the certificates of a chain can be presented with the client's own. -/
def isChain (blocks : List (Option Block)) : Bool :=
  blocks.all fun b =>
    match b with
    | none => false
    | some b =>
      !plainLabels.elem b.label
        || b.header.isEmpty && (Certificate.loadable? b.content).any fun (c, _) => c.isStrong

/-- The certificate that a file of them presents. -/
def presented? (bs : Bytes) : Option Certificate := do
  let (c, rest) ← ownCertificate? (PemFile.blocks bs)
  guard (c.isPresentable ∧ isChain rest)
  return c

/-- Whether the key of a file belongs to a certificate. -/
def hasKey (c : Certificate) (bs : Bytes) : Bool :=
  match (PrivateKey.ofBlocks? (PemFile.blocks bs)).bind PrivateKey.publicKey?, c.publicKey? with
  | some k, some l => k.same l
  | _, _ => false

def systemCause : OpenError → TrustCause
  | .system problem _ => .system problem
  | .path _ => .unsoundContent

/-- Loads a certificate and the key that belongs to it. -/
def loadClient (files : FileTree) (certificate key : Path) : Except TrustCause Unit := do
  let bs ← (files.readBytes certificate).mapError systemCause
  match presented? bs with
  | none => throw .unsoundContent
  | some c =>
    let bs ← (files.readBytes key).mapError systemCause
    if hasKey c bs then return () else throw .unsoundContent

/-- The TLS context with a keystore. The file of authorities was read before, so it is there. -/
def ofKeystore (w : World) (k : Keystore) : List Notice × Except TlsError TlsContext :=
  let (notices, checked) := TrustMaterial.check w k
  let context : Except TlsError TlsContext := do
    checked.mapError .trust
    (loadAuthorities ((w.files.readBytes k.caCert).toOption.getD [])).mapError .authorities
    let _ ← (FileTree.locate k.clientKey).mapError .keyPath
    (loadClient w.files k.clientCert k.clientKey).mapError fun cause =>
      .trust (.configuration (.clientCertificate k.clientCert cause))
    return ⟨true, k.verifyHostname⟩
  (notices, context)

/-- The TLS context of a transport; plain access has none. -/
def ofTransport (w : World) : Transport → List Notice × Except TlsError (Option TlsContext)
  | .plain => ([], .ok none)
  | .keystore k =>
    let (notices, context) := ofKeystore w k
    (notices, context.map some)
  | .basicAuth _ => ([.verificationOff], .ok (some ⟨false, false⟩))

end TlsContext

end ClusterHarness
