import ClusterHarness.Security.AgreementGroup
import ClusterHarness.Security.Certificate
import ClusterHarness.Security.CurveParameters
import ClusterHarness.Security.RsaPadding

/-!
Public keys: what the bits of a key in a certificate say, how strong a key is, and when two keys are the
same.
-/

namespace ClusterHarness

open Asn1

inductive PublicKey where
  | rsa (modulus exponent : Nat)
  /-- An RSA key for signatures with random padding only. -/
  | rsaPss (modulus exponent : Nat)
  | dsa (p q g : Nat) (y : Int)
  | diffieHellman (group : AgreementGroup) (y : Int)
  | ellipticCurve (group : CurveGroup) (point : CurvePoint)
  | x25519 (key : Bytes)
  | x448 (key : Bytes)
  | ed25519 (key : Bytes)
  | ed448 (key : Bytes)
  deriving DecidableEq, Repr

/-- The kinds of keys that sign. -/
inductive KeyKind where
  | rsa
  | rsaPss
  | dsa
  | ellipticCurve
  | ed25519
  | ed448
  deriving DecidableEq, Repr

namespace PublicKey

/-- The modulus and the exponent of an RSA key. -/
def rsaParts? (bs : Bytes) : Option (Nat × Nat) := do
  let (e, _) ← element? .basic bs
  Members.all? .basic (do return (← Members.magnitude, ← Members.magnitude)) e

/-- The number that is the key of some algorithms. -/
def numberOf? (bs : Bytes) : Option Int := do
  let (e, _) ← element? .basic bs
  e.integer?

/-- The prime, the order and the generator of a DSA key. -/
def dsaDomain? (e : Element) : Option (Nat × Nat × Nat) :=
  let members : Members (Nat × Nat × Nat) := do
    return (← Members.magnitude, ← Members.magnitude, ← Members.magnitude)
  Members.all? .basic members e

/-- The curve SM2, whose keys are of a kind of their own. -/
def isSm2 (g : CurveGroup) : Bool := g.id == some NamedCurve.sm2.id

/-- Whether the padding that a key is for, if any is given, has known digests. Its salt and its trailer
count only where a signature is made. -/
def hasPadding (a : AlgorithmId) : Bool :=
  a.parameter.all fun e => (RsaPadding.ofElement? e).any RsaPadding.hasKnownDigests

/-- The key that stands in a certificate. -/
def ofSubjectKey? (k : SubjectKey) : Option PublicKey := do
  let id := k.algorithm.id
  let parameter := k.algorithm.parameter
  let bs := k.bits.bytes
  let plain (width : Nat) : Option Bytes := if parameter.isNone ∧ bs.length = width then some bs else none
  if AlgorithmId.rsaIds.elem id then
    let (n, e) ← rsaParts? bs
    return .rsa n e
  if id = AlgorithmId.rsaPssId then
    guard (hasPadding k.algorithm)
    let (n, e) ← rsaParts? bs
    return .rsaPss n e
  if AlgorithmId.dsaIds.elem id then
    let (p, q, g) ← dsaDomain? (← parameter)
    return .dsa p q g (← numberOf? bs)
  if id = AlgorithmId.diffieHellmanId ∨ id = AlgorithmId.orderedDiffieHellmanId then
    return .diffieHellman (← AgreementGroup.ofAlgorithm? k.algorithm) (← numberOf? bs)
  if id = AlgorithmId.ellipticCurveId then
    let group ← CurveGroup.ofElement? (← parameter)
    return .ellipticCurve group (← group.curve.point? bs)
  if id = AlgorithmId.x25519Id then return .x25519 (← plain 32)
  if id = AlgorithmId.x448Id then return .x448 (← plain 56)
  if id = AlgorithmId.ed25519Id then return .ed25519 (← plain 32)
  if id = AlgorithmId.ed448Id then return .ed448 (← plain 57)
  none

/-- The least bits of an RSA modulus that counts as strong as 112 bits. -/
def rsaBits : Nat := 1963

/-- Whether a key is as strong as 112 bits. -/
def isStrong : PublicKey → Bool
  | .rsa n _ => rsaBits ≤ ByteOrder.bitLength n
  | .rsaPss n _ => rsaBits ≤ ByteOrder.bitLength n
  | .dsa p q _ _ => 2048 ≤ ByteOrder.bitLength p && 224 ≤ ByteOrder.bitLength q
  | .diffieHellman g _ => g.isStrong
  | .ellipticCurve g _ => 224 ≤ g.bits
  | .x25519 _ | .x448 _ | .ed25519 _ | .ed448 _ => true

/-- The kind of a key that signs for a TLS client. -/
def kind? : PublicKey → Option KeyKind
  | .rsa _ _ => some .rsa
  | .rsaPss _ _ => some .rsaPss
  | .dsa _ _ _ _ => some .dsa
  | .ellipticCurve g _ => if isSm2 g then none else some .ellipticCurve
  | .ed25519 _ => some .ed25519
  | .ed448 _ => some .ed448
  | .diffieHellman _ _ | .x25519 _ | .x448 _ => none

/-- Whether two keys are the same; the order of a DSA key does not count. -/
def same : PublicKey → PublicKey → Bool
  | .dsa p _ g y, .dsa p' _ g' y' => p == p' && g == g' && y == y'
  | .ellipticCurve g p, .ellipticCurve h q => g.same h && p == q
  | k, l => k == l

end PublicKey

end ClusterHarness
