import ClusterHarness.Asn1.Form
import ClusterHarness.Crypto.EdwardsCurve
import ClusterHarness.Security.PemFile
import ClusterHarness.Security.PublicKey
import ClusterHarness.Text.AsciiCase

/-!
Private keys: the key that a file holds, and the public key that belongs to it. A key stands alone in the
form of its algorithm, or is wrapped together with the name of the algorithm.
-/

namespace ClusterHarness

open Asn1

inductive PrivateKey where
  | rsa (modulus exponent : Nat)
  | rsaPss (modulus exponent : Nat)
  /-- A secret with the public number, if that is given. -/
  | dsa (p q g : Nat) (y : Option Nat) (secret : Nat)
  /-- A secret with the public point, if that is given. -/
  | ellipticCurve (group : CurveGroup) (point : Option CurvePoint) (secret : Nat)
  | ed25519 (secret : Bytes)
  | ed448 (secret : Bytes)
  /-- A key that agrees on secrets and signs nothing. -/
  | agreement (id : ObjectId)
  deriving DecidableEq, Repr

namespace PrivateKey

/-- The public key that belongs to a private one. -/
def publicKey? : PrivateKey → Option PublicKey
  | .rsa n e => some (.rsa n e)
  | .rsaPss n e => some (.rsaPss n e)
  | .dsa p q g y secret => some (.dsa p q g (y.getD (PrimeField.power p g secret) : Nat))
  | .ellipticCurve group point secret =>
    some (.ellipticCurve group (point.getD (group.curve.publicPoint secret)))
  | .ed25519 secret => some (.ed25519 (EdwardsCurve.ed25519.publicKey secret))
  | .ed448 secret => some (.ed448 (EdwardsCurve.ed448.publicKey secret))
  | .agreement _ => none

/-! ### Keys in the forms of their algorithms -/

/-- A further prime of an RSA key. -/
def otherPrime : Members Unit := do
  let _ ← Members.magnitude
  let _ ← Members.magnitude
  let _ ← Members.magnitude

/-- An RSA key with more than two primes says so in its version. -/
def rsaParts : Members (Nat × Nat) := do
  let v ← Members.version
  let n ← Members.magnitude
  let e ← Members.magnitude
  let _ ← [(), (), (), (), (), ()].mapM fun _ => Members.magnitude
  match ← Members.any with
  | none => guard (v ≠ 1)
  | some e =>
    let others ← e.items? .basic .sequence
    guard ((v ≠ 1 ∨ others ≠ []) ∧ others.all (Form.sequence otherPrime) = true)
  return (n, e)

/-- The bytes of a key; what follows it is left out. -/
def reading {α : Type} (m : Members α) (bs : Bytes) : Option α := do
  let (e, _) ← element? .basic bs
  Members.all? .basic m e

def rsa? (bs : Bytes) : Option PrivateKey := do
  let (n, e) ← reading rsaParts bs
  return .rsa n e

def dsaParts : Members PrivateKey := do
  let _ ← Members.version
  let p ← Members.magnitude
  let q ← Members.magnitude
  let g ← Members.magnitude
  let y ← Members.magnitude
  return .dsa p q g (some y) (← Members.magnitude)

def dsa? (bs : Bytes) : Option PrivateKey := reading dsaParts bs

/-- A secret on an elliptic curve. Its own parameters win over those that it is wrapped with. -/
def curveParts (wrapped : Option CurveGroup) : Members PrivateKey := do
  let _ ← Members.version
  let secret ← (← Members.next).octets? .basic
  let group ← match ← Members.optional (Tag.context 0).constructed with
    | none => wrapped
    | some e => (e.marked? .basic).bind CurveGroup.ofElement?
  let point ← match ← Members.optional (Tag.context 1).constructed with
    | none => pure none
    | some e => do
      let bits ← (e.marked? .basic).bind (Element.bitString? .basic)
      let point ← group.curve.point? bits.bytes
      pure (some point)
  return .ellipticCurve group point (ByteOrder.bigValue secret)

def curve? (wrapped : Option CurveGroup) (bs : Bytes) : Option PrivateKey := reading (curveParts wrapped) bs

/-- The bytes of a secret, which have a fixed number. -/
def secret? (a : AlgorithmId) (width : Nat) (bs : Bytes) : Option Bytes := do
  guard a.parameter.isNone
  let (e, _) ← element? .basic bs
  let secret ← e.octets? .basic
  guard (secret.length = width)
  return secret

/-! ### Wrapped keys -/

/-- A key of the algorithm that it is wrapped with; the name of the curve SM2 wraps keys on any curve. The
public number of a DSA key is left out, and there is none to work out for an even modulus. -/
def ofAlgorithm? (a : AlgorithmId) (bs : Bytes) : Option PrivateKey := do
  if AlgorithmId.rsaIds.elem a.id then rsa? bs
  else if a.id = AlgorithmId.rsaPssId then
    guard (PublicKey.hasPadding a)
    let (n, e) ← reading rsaParts bs
    return .rsaPss n e
  else if AlgorithmId.dsaIds.elem a.id then
    let (p, q, g) ← PublicKey.dsaDomain? (← a.parameter)
    let secret ← PublicKey.numberOf? bs
    guard (p % 2 = 1 ∧ 0 ≤ secret)
    return .dsa p q g none secret.toNat
  else if a.id = AlgorithmId.ellipticCurveId ∨ a.id = NamedCurve.sm2.id then
    let group ← CurveGroup.ofElement? (← a.parameter)
    curve? (some group) bs
  else if a.id = AlgorithmId.ed25519Id then return .ed25519 (← secret? a 32 bs)
  else if a.id = AlgorithmId.ed448Id then return .ed448 (← secret? a 57 bs)
  else if a.id = AlgorithmId.x25519Id then
    let _ ← secret? a 32 bs
    return .agreement a.id
  else if a.id = AlgorithmId.x448Id then
    let _ ← secret? a 56 bs
    return .agreement a.id
  else if a.id = AlgorithmId.diffieHellmanId ∨ a.id = AlgorithmId.orderedDiffieHellmanId then
    let group ← AgreementGroup.ofAlgorithm? a
    let _ ← PublicKey.numberOf? bs
    guard group.isUsable
    return .agreement a.id
  else none

open Form in
/-- An attribute of a wrapped key, which nothing reads. -/
def isAttribute : Form := sequence do
  required objectId
  required (setOf anyValue)

def wrappedParts : Members (AlgorithmId × Bytes) := do
  let _ ← Members.integer
  let a ← AlgorithmId.ofElement? .basic (← Members.next)
  let bs ← (← Members.next).octets? .basic
  Form.optional (.context 0) (Form.tagged .set (Form.setOf isAttribute))
  return (a, bs)

def wrapped? (bs : Bytes) : Option PrivateKey := do
  let (a, key) ← reading wrappedParts bs
  ofAlgorithm? a key

/-! ### Kinds of keys and labels -/

def isRsa : PrivateKey → Bool
  | .rsa _ _ => true
  | _ => false

def isDsa : PrivateKey → Bool
  | .dsa _ _ _ _ _ => true
  | _ => false

def isCurve : PrivateKey → Bool
  | .ellipticCurve _ _ _ => true
  | _ => false

def isAgreement (id : ObjectId) : PrivateKey → Bool
  | .agreement i => i == id
  | _ => false

/-- An RSA key, alone or wrapped. -/
def anyRsa? (bs : Bytes) : Option PrivateKey := (rsa? bs).or ((wrapped? bs).filter isRsa)

def anyDsa? (bs : Bytes) : Option PrivateKey := (dsa? bs).or ((wrapped? bs).filter isDsa)

def anyCurve? (bs : Bytes) : Option PrivateKey := (curve? none bs).or ((wrapped? bs).filter isCurve)

def encryptedLabel : Text := "ENCRYPTED PRIVATE KEY"

/-- The ways to read a block of a file of keys, by its label. -/
def readers : List (Text × (Bytes → Option PrivateKey)) :=
  [("PRIVATE KEY", wrapped?), (encryptedLabel, wrapped?),
    ("RSA PRIVATE KEY", anyRsa?), ("RSA PUBLIC KEY", anyRsa?),
    ("EC PRIVATE KEY", anyCurve?), ("EC PARAMETERS", anyCurve?),
    ("DSA PRIVATE KEY", anyDsa?), ("DSA PARAMETERS", anyDsa?), ("DSA PUBLIC KEY", anyDsa?),
    ("DH PARAMETERS", fun bs => (wrapped? bs).filter (isAgreement AlgorithmId.diffieHellmanId))]

def ofBlock? (b : PemFile.Block) : Option PrivateKey :=
  (readers.find? fun r => r.1 == b.label).bind fun r => r.2 b.content

/-- The bytes of a header, with the ends of its lines, that are passed over. -/
def headerRoom : Nat := 10

def headerLength (b : PemFile.Block) : Nat := b.header.foldl (fun n line => n + line.length + 1) 0

/-- The algorithm and the bytes of an encrypted key. -/
def encryptedParts : Members Unit := do
  let _ ← AlgorithmId.ofElement? .basic (← Members.next)
  let _ ← (← Members.next).octets? .basic

/-- Whether a block is an encrypted key, for which there is no password: by a header, or in itself. -/
def isEncrypted (b : PemFile.Block) : Bool :=
  headerRoom < headerLength b || (b.label == encryptedLabel && (reading encryptedParts b.content).isSome)

/-- The first key of a file. Blocks that are no key are passed over; one that is encrypted ends the
search. -/
def ofBlocks? : List (Option PemFile.Block) → Option PrivateKey
  | [] => none
  | none :: bs => ofBlocks? bs
  | some b :: bs =>
    if isEncrypted b then none
    else match ofBlock? b with
      | some k => some k
      | none => ofBlocks? bs

/-! ### Keys among authorities -/

def isRsaPss : PrivateKey → Bool
  | .rsaPss _ _ => true
  | _ => false

def isEd25519 : PrivateKey → Bool
  | .ed25519 _ => true
  | _ => false

def isEd448 : PrivateKey → Bool
  | .ed448 _ => true
  | _ => false

/-- What labels call the kinds of keys. -/
def kinds : List (Text × (PrivateKey → Bool)) :=
  [("RSA", isRsa), ("EC", isCurve), ("SM2", isCurve), ("DSA", isDsa), ("RSA-PSS", isRsaPss),
    ("RSASSA-PSS", isRsaPss), ("ED25519", isEd25519), ("ED448", isEd448),
    ("X25519", isAgreement AlgorithmId.x25519Id), ("X448", isAgreement AlgorithmId.x448Id),
    ("DH", isAgreement AlgorithmId.diffieHellmanId),
    ("DHX", isAgreement AlgorithmId.orderedDiffieHellmanId),
    ("X9.42 DH", isAgreement AlgorithmId.orderedDiffieHellmanId)]

/-- What labels of keys have in common. -/
def keyWords : Text := "PRIVATE KEY"

/-- The kind of key that a label names in letters of either case, before what all labels have in common. -/
def kindName (label : Text) : Text :=
  match label.splitOn (CodePoint.ofChar ' ' :: keyWords) with
  | kind :: _ :: _ => kind.toUpper
  | _ => []

/-- A key in any form. -/
def any? (bs : Bytes) : Option PrivateKey :=
  ((wrapped? bs).or (rsa? bs)).or ((dsa? bs).or (curve? none bs))

/-- Whether some bytes are a key of the kind that their label names, or of any kind if it names none. -/
def isLabelled (label : Text) (bs : Bytes) : Bool :=
  let name := kindName label
  (any? bs).any fun k => (kinds.find? fun n => n.1 == name).all fun n => n.2 k

end PrivateKey

end ClusterHarness
