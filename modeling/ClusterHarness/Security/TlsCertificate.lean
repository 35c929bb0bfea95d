import ClusterHarness.Security.CertificateExtensions
import ClusterHarness.Security.SignatureAlgorithm

/-!
Certificates as a TLS library loads them: it is lenient about the form, but the keys and the signatures of
the certificates that it presents have to be strong. A certificate that is signed by its own key is not
asked for a strong signature.
-/

namespace ClusterHarness

open Asn1

namespace DistinguishedName

/-- A value as names are compared by: letters in lower case, and blanks closed up, if it is a string. -/
structure Folded where
  type : ObjectId
  /-- The kind of a value that is no string. -/
  kind : Option Nat
  bytes : Bytes
  deriving DecidableEq, Repr

/-- The kinds of strings that are compared by their texts. -/
def textKinds : List Nat := [12, 19, 20, 22, 26, 28, 30]

def isGap (b : UInt8) : Bool := b == 32 || (9 ≤ b && b ≤ 13)

/-- Bytes without blanks at both ends, and with one space for each run of blanks between. -/
def closeUp : Bytes → Bytes
  | [] => []
  | b :: bs =>
    if isGap b then
      match closeUp bs with
      | [] => []
      | c :: rest => if c = 32 then c :: rest else 32 :: c :: rest
    else b :: closeUp bs

def lowerAscii (b : UInt8) : UInt8 := if 65 ≤ b ∧ b ≤ 90 then b + 32 else b

/-- The text of a string of some kind in UTF-8. -/
def utf8Of (kind : Nat) (bs : Bytes) : Bytes :=
  if kind = 12 then bs
  else if kind = 28 then Utf8.encode ((universalText? bs).getD [])
  else if kind = 30 then Utf8.encode ((basicText? bs).getD [])
  else Utf8.encode (bs.map fun b => Utf8.codePoint b.toNat)

def fold (a : Attribute) : Folded :=
  let kind := a.value.tag.number
  let bs := (tlsBytes? a.value).getD []
  if textKinds.elem kind then ⟨a.type, none, (closeUp ((utf8Of kind bs).dropWhile isGap)).map lowerAscii⟩
  else ⟨a.type, some kind, bs⟩

/-- Whether two names are the same, whatever the order within their parts. -/
def same (m n : DistinguishedName) : Bool :=
  m.length == n.length && (m.zip n).all fun (s, t) => (s.map fold).isPerm (t.map fold)

end DistinguishedName

namespace Certificate

/-- A certificate at the head of some bytes, and what follows it. -/
def loadable? (bs : Bytes) : Option (Certificate × Bytes) := do
  let (e, rest) ← element? .basic bs
  let c ← ofElement? .basic e
  guard (c.issuer.isTlsName ∧ c.subject.isTlsName)
  return (c, rest)

open Form in
/-- What a trusted certificate is trusted for, and what not, with a name and a key. -/
def trust : Members Unit := do
  optional .sequence (listOf objectId)
  optional (.context 0) (tagged .sequence (listOf objectId))
  optional (.universal 12) (string (.universal 12))
  optional .octetString octets
  optional (.context 1) (tagged .sequence (listOf fun e => (AlgorithmId.ofElement? .basic e).isSome))

/-- A certificate that may be followed by what it is trusted for. -/
def loadableTrusted? (bs : Bytes) : Option Certificate := do
  let (c, rest) ← loadable? bs
  if rest.isEmpty then return c
  let (e, _) ← element? .basic rest
  guard (Form.sequence trust e)
  return c

def publicKey? (c : Certificate) : Option PublicKey := PublicKey.ofSubjectKey? c.key

/-- What an authority is known by: its key, the name of its issuer and the number that this gave it. -/
structure AuthorityKey where
  key : Option Bytes
  names : List Element
  serial : Option Bytes

def authorityKey? (c : Certificate) : Option AuthorityKey := do
  let e ← Extension.only? c.extensions Extension.authorityKeyId
  guard (Form.sequence Extension.authorityKey e)
  let es ← e.members? .basic .sequence
  let marked (n : Nat) : Option Element := es.find? (Form.hasMark n)
  let names := (marked 1).bind fun e => (e.unmarked .sequence).items? .basic .sequence
  return ⟨(marked 0).bind fun e => (e.unmarked .octetString).octets? .basic, names.getD [],
    (marked 2).map (·.content)⟩

/-- Whether a certificate may be that of its own authority. -/
def isOwnAuthority (c : Certificate) : Bool :=
  match c.authorityKey? with
  | none => true
  | some a =>
    let own := (Extension.only? c.extensions Extension.subjectKeyId).bind (Element.octets? .basic)
    let name := (a.names.find? (Form.hasMark 4)).bind fun e =>
      (e.marked? .basic).bind (DistinguishedName.ofElement? .basic)
    (match a.key, own with
      | some k, some l => k == l
      | _, _ => true)
      && a.serial.all (· == c.serial) && name.all c.issuer.same

/-- Whether a certificate looks as if its own key had signed it. -/
def isSelfSigned (c : Certificate) : Bool :=
  c.subject.same c.issuer && c.isOwnAuthority
    && (c.publicKey?.bind PublicKey.kind?).any (SignatureAlgorithm.fitsKey c.signing)

/-- Whether the key and the signature are strong enough for a certificate that is presented. -/
def isStrong (c : Certificate) : Bool :=
  c.publicKey?.any PublicKey.isStrong && (c.isSelfSigned || SignatureAlgorithm.isStrong c.signature)

/-- Whether a certificate can be a client's own: its key signs, and its extensions are sound. -/
def isPresentable (c : Certificate) : Bool :=
  c.isStrong && (c.publicKey?.bind PublicKey.kind?).isSome && Extension.sound c.extensions

end Certificate

end ClusterHarness
