import ClusterHarness.Number.Binary64
import ClusterHarness.Security.AlgorithmId
import ClusterHarness.Security.DistinguishedName
import ClusterHarness.Security.Pem
import ClusterHarness.Time.Instant

/-!
X.509 certificates: their parts, what makes a certificate sound, and the hours that are left until it
expires.
-/

namespace ClusterHarness

open Asn1 Time

/-- A public key as it stands in a certificate: its algorithm and the bits of the key. -/
structure SubjectKey where
  algorithm : AlgorithmId
  bits : BitString
  deriving DecidableEq, Repr

structure Extension where
  id : ObjectId
  critical : Bool
  value : Bytes
  deriving DecidableEq, Repr

structure Certificate where
  version : Int
  serial : Bytes
  /-- The algorithm of the signature, as the signed part names it. -/
  signing : AlgorithmId
  issuer : DistinguishedName
  start : Element
  stop : Element
  subject : DistinguishedName
  key : SubjectKey
  extensions : List Extension
  /-- The algorithm of the signature, as it is named beside the signature. -/
  signature : AlgorithmId
  deriving DecidableEq, Repr

namespace SubjectKey

def ofElement? (rules : Rules) (e : Element) : Option SubjectKey :=
  let members : Members SubjectKey := do
    let algorithm ← AlgorithmId.ofElement? rules (← Members.next)
    return ⟨algorithm, ← (← Members.next).bitString? rules⟩
  Members.all? rules members e

end SubjectKey

/-- An extension is not critical unless it says so; under the distinguished rules it does not say that
it is not. -/
def Extension.ofElement? (rules : Rules) (e : Element) : Option Extension :=
  let members : Members Extension := do
    let id ← Members.objectId
    let critical ← match ← Members.optional .boolean with
      | none => pure false
      | some e => do
        let b ← e.boolean? rules
        guard (b = true ∨ rules = .basic)
        pure b
    return ⟨id, critical, ← (← Members.next).octets? rules⟩
  Members.all? rules members e

namespace Certificate

/-- The first version goes without saying; under the distinguished rules it is not said. -/
def versionNumber (rules : Rules) : Members Int := do
  match ← Members.optional (Tag.context 0).constructed with
  | none => return 0
  | some e =>
    let n ← (e.marked? rules).bind Element.integer?
    guard (n ≠ 0 ∨ rules = .basic)
    return n

/-- Bits that identify the issuer or the subject, which nothing reads. -/
def uniqueId (rules : Rules) (n : Nat) : Members Unit := do
  match ← Members.optional (Tag.context n) with
  | none => return ()
  | some e => let _ ← bitStringOf? rules e.content

def extensionList? (rules : Rules) (e : Element) : Option (List Extension) := do
  let list ← e.marked? rules
  (← list.items? rules .sequence).mapM (Extension.ofElement? rules)

def extensionList (rules : Rules) : Members (List Extension) := do
  match ← Members.optional (Tag.context 3).constructed with
  | none => return []
  | some e => extensionList? rules e

/-- Start and end of the time in which a certificate holds. -/
def validity? (rules : Rules) (e : Element) : Option (Element × Element) :=
  Members.all? rules (do return (← Members.next, ← Members.next)) e

def isTime (rules : Rules) (e : Element) : Bool :=
  (e.bytes? rules .utcTime).isSome || (e.bytes? rules .generalizedTime).isSome

/-- The signed part of a certificate, completed by the algorithm beside the signature. -/
def signedPart (rules : Rules) (signature : AlgorithmId) : Members Certificate := do
  let version ← versionNumber rules
  let serial ← Members.next
  let _ ← serial.integer?
  let signing ← AlgorithmId.ofElement? rules (← Members.next)
  let issuer ← DistinguishedName.ofElement? rules (← Members.next)
  let (start, stop) ← validity? rules (← Members.next)
  guard (isTime rules start ∧ isTime rules stop)
  let subject ← DistinguishedName.ofElement? rules (← Members.next)
  let key ← SubjectKey.ofElement? rules (← Members.next)
  uniqueId rules 1
  uniqueId rules 2
  let extensions ← extensionList rules
  return ⟨version, serial.content, signing, issuer, start, stop, subject, key, extensions, signature⟩

def ofElement? (rules : Rules) (e : Element) : Option Certificate :=
  let members : Members Certificate := do
    let signed ← Members.next
    let signature ← AlgorithmId.ofElement? rules (← Members.next)
    let _ ← (← Members.next).bitString? rules
    Members.all? rules (signedPart rules signature) signed
  Members.all? rules members e

/-! ### Soundness -/

/-- The value of decimal digits. -/
def decimal? (bs : Bytes) : Option Nat :=
  if bs.all fun b => 48 ≤ b && b ≤ 57 then some (bs.foldl (fun n b => 10 * n + (b.toNat - 48)) 0) else none

/-- The date and the time of day that follow some digits of the year: pairs of digits before a final
letter. -/
def civil? (year : Nat) (bs : Bytes) : Option Civil := do
  guard (bs.length = 11 ∧ bs.getLast? = some 90)
  let pair (i : Nat) : Option Nat := decimal? ((bs.drop (2 * i)).take 2)
  return ⟨⟨year, ← pair 0, ← pair 1⟩, ← pair 2, ← pair 3, ← pair 4, 0⟩

/-- The short form of a time has two digits of the year, which lies from 1950 to 2049. The year zero of
the long form is a leap year like the year 400. -/
def time? (e : Element) : Option Civil := do
  let c ← if e.tag = .utcTime then do
      let y ← decimal? (e.content.take 2)
      civil? (if y < 50 then 2000 + y else 1900 + y) (e.content.drop 2)
    else do
      civil? (← decimal? (e.content.take 4)) (e.content.drop 4)
  let known := if c.date.year = 0 then { c with date := ⟨400, c.date.month, c.date.day⟩ } else c
  guard known.fault?.isNone
  return c

/-- Whether the algorithms, the names and the times of a certificate are as they should be. -/
def isSound (c : Certificate) : Bool :=
  0 ≤ c.version && c.version < 256
    && c.signing.fits && c.signature.fits && c.key.algorithm.fits
    && c.issuer.sound && c.subject.sound
    && (time? c.start).isSome && (time? c.stop).isSome

/-- The versions one and three, counted from zero. -/
def versions : List Int := [0, 2]

end Certificate

/-- Why a certificate cannot be read, or not be used as it is. -/
inductive CertificateError where
  | unsound
  | version (n : Int)
  | name (e : NameError)
  /-- An expiry in the year zero, which the calendar does not have. -/
  | expiry
  /-- A text with surrogates. -/
  | unwritable (e : Utf8.Unwritable)
  deriving DecidableEq, Repr

def CertificateError.message : CertificateError → Text
  | .unsound => "the certificate is not sound"
  | .version n => Text.ofInt n ++ " is not a valid X509 version"
  | .name e => e.message
  | .expiry => "year 0 is out of range"
  | .unwritable e => e.message

namespace Certificate

/-- The certificate that some bytes are. -/
def ofDer (bs : Bytes) : Except CertificateError Certificate :=
  match (single? .distinguished bs).bind (ofElement? .distinguished) with
  | none => .error .unsound
  | some c =>
    if !c.isSound then .error .unsound
    else if versions.elem c.version then .ok c
    else .error (.version c.version)

def labels : List Text := ["CERTIFICATE", "X509 CERTIFICATE"]

/-- The first certificate of a PEM text in which every block is sound. -/
def ofPem (t : Text) : Except CertificateError Certificate := do
  let _ ← (Utf8.write t).mapError .unwritable
  match (Pem.blocks? t).bind fun blocks => blocks.find? fun b => labels.elem b.label with
  | some b => ofDer b.content
  | none => throw .unsound

/-- Microseconds from the start of the year 1. -/
def expiry (c : Certificate) : Except CertificateError Int :=
  match time? c.stop with
  | none => .error .unsound
  | some t => if t.date.year = 0 then .error .expiry else .ok t.toMicros

/-- Seconds to the expiry, and these in hours, each rounded to a floating number; the whole hours are
the greatest number not above. -/
def remainingHours (c : Certificate) (now : Instant) : Except CertificateError Int := do
  let seconds := Binary64.ofQuotient ((← c.expiry) - now.micros) 1000000
  return (seconds.quotient 3600).floor

def subjectText (c : Certificate) : Except CertificateError Text := c.subject.text.mapError .name

end Certificate

end ClusterHarness
