import ClusterHarness.Asn1.Form

/-!
Algorithms in certificates and keys: an object identifier and at most one parameter. For the algorithms
that are known here the form of the parameter is fixed.
-/

namespace ClusterHarness

open Asn1

structure AlgorithmId where
  id : ObjectId
  parameter : Option Element
  deriving DecidableEq, Repr

namespace AlgorithmId

def ofElement? (rules : Rules) (e : Element) : Option AlgorithmId := do
  let a ← Members.all? rules (do return (⟨← Members.objectId, ← Members.any⟩ : AlgorithmId)) e
  guard (rules = .distinguished ∨ a.parameter.all Form.anyValue = true)
  return a

def rsaId : ObjectId := [1, 2, 840, 113549, 1, 1, 1]

/-- RSA by its own name and by an older one. -/
def rsaIds : List ObjectId := [rsaId, [2, 5, 8, 1, 1]]

def rsaPssId : ObjectId := [1, 2, 840, 113549, 1, 1, 10]

def dsaId : ObjectId := [1, 2, 840, 10040, 4, 1]

/-- DSA by its own name, by an older one, and by those of signatures with it. -/
def dsaIds : List ObjectId :=
  [dsaId, [1, 3, 14, 3, 2, 12], [1, 3, 14, 3, 2, 13], [1, 3, 14, 3, 2, 27], [1, 2, 840, 10040, 4, 3]]

def ellipticCurveId : ObjectId := [1, 2, 840, 10045, 2, 1]

def diffieHellmanId : ObjectId := [1, 2, 840, 113549, 1, 3, 1]

/-- The same in a group of known order. -/
def orderedDiffieHellmanId : ObjectId := [1, 2, 840, 10046, 2, 1]

def x25519Id : ObjectId := [1, 3, 101, 110]

def x448Id : ObjectId := [1, 3, 101, 111]

def ed25519Id : ObjectId := [1, 3, 101, 112]

def ed448Id : ObjectId := [1, 3, 101, 113]

def sha1Id : ObjectId := [1, 3, 14, 3, 2, 26]

def maskGenerationId : ObjectId := [1, 2, 840, 113549, 1, 1, 8]

/-- The object identifiers that end in each of some numbers. -/
def family (stem : ObjectId) (ends : List Nat) : List ObjectId := ends.map fun n => stem ++ [n]

/-- Algorithms without a parameter: keys on Edwards and Montgomery curves, and signatures by DSA and by
elliptic curves with a digest. -/
def bare : List ObjectId :=
  [x25519Id, x448Id, ed25519Id, ed448Id]
    ++ family [2, 16, 840, 1, 101, 3, 4, 3] [1, 2, 3, 4, 9, 10, 11, 12]
    ++ family [1, 2, 840, 10045, 4, 3] [1, 2, 3, 4]

/-- Algorithms whose parameter is null or left out: digests, codes of authentication, RSA, and
signatures by RSA with a digest. -/
def nullable : List ObjectId :=
  [sha1Id, [1, 3, 14, 3, 2, 29], rsaId]
    ++ family [2, 16, 840, 1, 101, 3, 4, 2] [1, 2, 3, 4, 7, 8, 9, 10]
    ++ family [1, 2, 840, 113549, 2] [7, 8, 9, 10, 11]
    ++ family [1, 2, 840, 113549, 1, 1] [5, 11, 12, 13, 14]
    ++ family [2, 16, 840, 1, 101, 3, 4, 3] [13, 14, 15, 16]

def naturalBelow? (bound : Int) (e : Element) : Option Int := do
  let n ← e.integer?
  guard (0 ≤ n ∧ n < bound)
  return n

def isNatural (e : Element) : Bool :=
  match e.integer? with
  | some n => decide (0 ≤ n)
  | none => false

/-- A member that is marked with a number of the context and is not the value that goes without saying. -/
def marked? {α : Type} [DecidableEq α] (n : Nat) (usual : α) (read : Element → Option α) : Members Unit := do
  match ← Members.optional (Tag.context n).constructed with
  | none => return ()
  | some e =>
    let v ← (e.marked? .distinguished).bind read
    guard (v ≠ usual)

def nullElement : Element := ⟨.null, [], [5, 0]⟩

def sha1 : AlgorithmId := ⟨sha1Id, some nullElement⟩

/-- The parameter of RSA with random padding: the digest, the generator of masks, the length of the salt
and a trailer. -/
def isPadding (fits : AlgorithmId → Bool) (e : Element) : Bool :=
  let fitting (e : Element) : Option AlgorithmId := (ofElement? .distinguished e).filter fits
  let mask (e : Element) : Option (ObjectId × AlgorithmId) :=
    Members.all? .distinguished (do return (← Members.objectId, ← fitting (← Members.next))) e
  let members : Members Unit := do
    marked? 0 sha1 fitting
    marked? 1 (maskGenerationId, sha1) mask
    marked? 2 20 (naturalBelow? 0x10000)
    marked? 3 256 (naturalBelow? 256)
  (Members.all? .distinguished members e).isSome

/-- Whether the parameter has the form that its algorithm asks for. The algorithms in a parameter are
checked too, up to a number of levels. -/
def fitsWithin : Nat → AlgorithmId → Bool
  | 0, _ => false
  | depth + 1, a =>
    if bare.elem a.id then a.parameter.isNone
    else if nullable.elem a.id then a.parameter.all Element.isNull
    else if a.id = ellipticCurveId then
      a.parameter.any fun e => e.objectId?.isSome || e.isNull || e.tag == .sequence
    else if a.id = dsaId then
      a.parameter.any fun e =>
        match e.members? .distinguished .sequence with
        | some [p, q, g] => [p, q, g].all isNatural
        | _ => false
    else if a.id = diffieHellmanId then
      a.parameter.any fun e =>
        match e.members? .distinguished .sequence with
        | some [p, g] => [p, g].all isNatural
        | some [p, g, size] => [p, g].all isNatural && (naturalBelow? 0x100000000 size).isSome
        | _ => false
    else if a.id = rsaPssId then a.parameter.all (isPadding (fitsWithin depth))
    else true

def fits (a : AlgorithmId) : Bool := fitsWithin 8 a

end AlgorithmId

end ClusterHarness
