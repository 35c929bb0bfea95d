import ClusterHarness.Asn1.Form
import ClusterHarness.Security.Certificate

/-!
The extensions of a certificate that a TLS library reads when it presents the certificate. Each may come
once and has a form of its own; the others are not looked into.
-/

namespace ClusterHarness

open Asn1

namespace DistinguishedName

/-- The kinds of value of a name that a TLS library knows, but for sequences. -/
def tlsKinds : List Nat := [3, 7, 8, 9, 11, 12, 13, 14, 15, 18, 19, 20, 22, 28, 29, 30, 31]

/-- The bytes of a value, and those of all of a sequence. -/
def tlsBytes? (e : Element) : Option Bytes :=
  if e.tag = .sequence then some e.encoded
  else if tlsKinds.elem e.tag.number then e.bytes? .basic (.universal e.tag.number)
  else none

/-- Whether the bytes of a value of some kind are such a value. -/
def fitsKind (kind : Nat) (bs : Bytes) : Bool :=
  if kind = 3 then (bitStringOf? .basic bs).isSome
  else if kind = 12 then (Utf8.decode bs).toOption.isSome
  else if kind = 28 then (universalText? bs).isSome
  else if kind = 30 then bs.length % 2 == 0 && (units 2 (bs.length / 2) bs).all fun n => !isHigh n && !isLow n
  else true

def isTlsValue (e : Element) : Bool := (tlsBytes? e).any (fitsKind e.tag.number)

/-- Whether a TLS library can read the values of a name. -/
def isTlsName (n : DistinguishedName) : Bool := n.all fun set => set.all fun a => isTlsValue a.value

end DistinguishedName

namespace Extension

open Form

def name : Form := fun e => (DistinguishedName.ofElement? .basic e).any DistinguishedName.isTlsName

/-- The strings of a directory: printable, teletex, in units of four or two bytes, and UTF-8. -/
def directoryText : Form := anyOf ([12, 19, 20, 28, 30].map fun n => string (.universal n))

def otherName : Members Unit := do
  required objectId
  required fun e => hasMark 0 e && marking anyValue e

def partyName : Members Unit := do
  optional (.context 0) (marking directoryText)
  required fun e => hasMark 1 e && marking directoryText e

def asciiText : Tag := .universal 22

/-- The kinds of names besides those of directories, each with a mark. -/
def generalNames : List (Nat × Form) :=
  [(0, tagged .sequence (sequence otherName)), (1, tagged asciiText (string asciiText)),
    (2, tagged asciiText (string asciiText)), (3, fun e => e.tag.isConstructed), (4, marking name),
    (5, tagged .sequence (sequence partyName)), (6, tagged asciiText (string asciiText)),
    (7, tagged .octetString octets), (8, tagged .objectId objectId)]

def generalName : Form := fun e => generalNames.any fun n => hasMark n.1 e && n.2 e

def basicConstraints : Members Unit := do
  optional .boolean boolean
  optional .integer fun e => e.integer?.any (0 ≤ ·)

/-- A constraint says whether it holds for an authority. -/
def isAuthority (e : Element) : Bool :=
  match e.members? .basic .sequence with
  | some (e :: _) => e.boolean? .basic == some true
  | _ => false

/-- Some bit of the first two bytes has to be set. -/
def keyUsage : Form := fun e =>
  (e.bitString? .basic).any fun b =>
    let cleared := b.bytes.mapIdx fun i x =>
      if i + 1 = b.bytes.length then (x >>> UInt8.ofNat b.unused) <<< UInt8.ofNat b.unused else x
    (cleared.take 2).any (· != 0)

def authorityKey : Members Unit := do
  optional (.context 0) (tagged .octetString octets)
  optional (.context 1) (tagged .sequence (listOf generalName))
  optional (.context 2) (tagged .integer integer)

def subtree : Members Unit := do
  required generalName
  optional (.context 0) (tagged .integer integer)
  optional (.context 1) (tagged .integer integer)

def nameConstraints : Members Unit := do
  optional (.context 0) (tagged .sequence (listOf (sequence subtree)))
  optional (.context 1) (tagged .sequence (listOf (sequence subtree)))

/-- An attribute of a name. -/
def nameAttribute : Form := fun e =>
  (Attribute.ofElement? .basic e).any fun a => DistinguishedName.isTlsValue a.value

def pointName : Form := fun e =>
  (hasMark 0 e && tagged .sequence (listOf generalName) e) || (hasMark 1 e && tagged .set (setOf nameAttribute) e)

/-- Where lists of revoked certificates are: a place or the names of their issuers have to be given. -/
def distributionPoint : Members Unit := do
  let es ← get
  optional (.context 0) (marking pointName)
  optional (.context 1) (tagged .bitString bits)
  optional (.context 2) (tagged .sequence (listOf generalName))
  guard (es.any fun e => hasMark 0 e || (hasMark 2 e && !e.content.isEmpty))

def proxyPolicy : Members Unit := do
  required objectId
  optional .octetString octets

def proxy : Members Unit := do
  optional .integer integer
  required (sequence proxyPolicy)

def null : Form := Element.isNull

/-- A value, or the two ends of a range of them. -/
def valueOrRange (f : Form) : Form := fun e =>
  f e || sequence (do required f; required f) e

/-- All values of a parent, or values and ranges. -/
def values (f : Form) : Form := fun e => null e || listOf (valueOrRange f) e

def addressFamily : Members Unit := do
  required octets
  required (values bits)

def systemNumbers : Members Unit := do
  optional (.context 0) (marking (values integer))
  optional (.context 1) (marking (values integer))

def constraintsId : ObjectId := [2, 5, 29, 19]

def proxyId : ObjectId := [1, 3, 6, 1, 5, 5, 7, 1, 14]

def subjectNamesId : ObjectId := [2, 5, 29, 17]

def issuerNamesId : ObjectId := [2, 5, 29, 18]

def subjectKeyId : ObjectId := [2, 5, 29, 14]

def authorityKeyId : ObjectId := [2, 5, 29, 35]

/-- The extensions that are read, with their forms. -/
def forms : List (ObjectId × Form) :=
  [(constraintsId, sequence basicConstraints), (proxyId, sequence proxy), ([2, 5, 29, 15], keyUsage),
    ([2, 5, 29, 37], listOf objectId), ([2, 16, 840, 1, 113730, 1, 1], bits), (subjectKeyId, octets),
    (authorityKeyId, sequence authorityKey), (subjectNamesId, listOf generalName),
    ([2, 5, 29, 30], sequence nameConstraints), ([2, 5, 29, 31], listOf (sequence distributionPoint)),
    ([1, 3, 6, 1, 5, 5, 7, 1, 7], listOf (sequence addressFamily)),
    ([1, 3, 6, 1, 5, 5, 7, 1, 8], sequence systemNumbers)]

/-- The element in an extension; what follows it is left out. -/
def element (x : Extension) : Option Element := (element? .basic x.value).map (·.1)

/-- The element in the only extension of a kind. -/
def only? (xs : List Extension) (id : ObjectId) : Option Element :=
  match xs.filter fun x => x.id == id with
  | [x] => x.element
  | _ => none

def hasSoundForm (xs : List Extension) (id : ObjectId) (f : Form) : Bool :=
  match xs.filter fun x => x.id == id with
  | [] => true
  | [x] => x.element.any f
  | _ => false

/-- A proxy is no authority and has no other names. -/
def proxyOk (xs : List Extension) : Bool :=
  (only? xs proxyId).all fun e =>
    !sequence proxy e
      || !((only? xs constraintsId).any fun e => sequence basicConstraints e && isAuthority e)
        && !xs.any fun x => x.id == subjectNamesId || x.id == issuerNamesId

/-- Whether the extensions that are read have their forms. -/
def sound (xs : List Extension) : Bool := (forms.all fun (id, f) => hasSoundForm xs id f) && proxyOk xs

end Extension

end ClusterHarness
