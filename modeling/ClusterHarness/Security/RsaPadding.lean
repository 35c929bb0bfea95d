import ClusterHarness.Asn1.Form
import ClusterHarness.Security.AlgorithmId

/-!
Random padding of RSA signatures: the digest, the digest that masks are made with, and the length of the
salt. What is left out has a value of its own.
-/

namespace ClusterHarness

open Asn1

structure RsaPadding where
  digest : ObjectId
  maskDigest : ObjectId
  salt : Int
  trailer : Int
  deriving DecidableEq, Repr

namespace RsaPadding

def algorithm? (e : Element) : Option AlgorithmId := AlgorithmId.ofElement? .basic e

/-- A member that is marked with a number. -/
def marked? {α : Type} (n : Nat) (usual : α) (read : Element → Option α) : Members α := do
  match ← Members.optional (Tag.context n).constructed with
  | none => return usual
  | some e => (e.marked? .basic).bind read

/-- The digest of a generator of masks. -/
def maskDigest? (e : Element) : Option ObjectId := do
  let a ← algorithm? e
  guard (a.id = AlgorithmId.maskGenerationId)
  return (← algorithm? (← a.parameter)).id

def ofElement? (e : Element) : Option RsaPadding :=
  let members : Members RsaPadding := do
    let digest ← marked? 0 AlgorithmId.sha1Id fun e => (algorithm? e).map (·.id)
    let mask ← marked? 1 AlgorithmId.sha1Id maskDigest?
    return ⟨digest, mask, ← marked? 2 20 Element.integer?, ← marked? 3 1 Element.integer?⟩
  Members.all? .basic members e

/-- Digests as strong as 112 bits, each by its own name or by that of an RSA signature with it. -/
def strongDigests : List ObjectId :=
  AlgorithmId.family [2, 16, 840, 1, 101, 3, 4, 2] [1, 2, 3, 4, 5, 6, 7, 8, 9, 10, 12]
    ++ AlgorithmId.family [1, 2, 840, 113549, 1, 1] [11, 12, 13, 14, 15, 16]
    ++ AlgorithmId.family [2, 16, 840, 1, 101, 3, 4, 3] [13, 14, 15, 16]
    ++ AlgorithmId.family [1, 2, 156, 10197, 1] [401, 504]
    ++ [[1, 3, 6, 1, 4, 1, 1722, 12, 2, 1, 16], [1, 3, 6, 1, 4, 1, 1722, 12, 2, 2, 8], [1, 0, 10118, 3, 0, 55]]

/-- Digests that are known but weaker. -/
def weakDigests : List ObjectId :=
  [AlgorithmId.sha1Id, [1, 3, 14, 3, 2, 29], [1, 3, 36, 3, 2, 1], [1, 3, 36, 3, 3, 1, 2],
    [2, 16, 840, 1, 101, 3, 4, 2, 11]]
    ++ AlgorithmId.family [1, 2, 840, 113549, 2] [4, 5]
    ++ AlgorithmId.family [1, 2, 840, 113549, 1, 1] [3, 4, 5]
    ++ AlgorithmId.family [2, 5, 8, 3] [100, 101]

def isKnown (digest : ObjectId) : Bool := strongDigests.elem digest || weakDigests.elem digest

def hasKnownDigests (p : RsaPadding) : Bool := isKnown p.digest && isKnown p.maskDigest

/-- Whether the padding can be made: with known digests, and the one trailer that there is. -/
def isUsable (p : RsaPadding) : Bool := p.hasKnownDigests && 0 ≤ p.salt && p.trailer == 1

def isStrong (p : RsaPadding) : Bool := p.isUsable && strongDigests.elem p.digest

end RsaPadding

end ClusterHarness
