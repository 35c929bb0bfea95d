import ClusterHarness.Security.PublicKey
import ClusterHarness.Security.RsaPadding

/-!
Signature algorithms of certificates: the kind of key that signs, and whether the digest that is signed is
as strong as 112 bits.
-/

namespace ClusterHarness

open Asn1

structure SignatureAlgorithm where
  id : ObjectId
  key : KeyKind
  strong : Bool
  deriving DecidableEq, Repr

namespace SignatureAlgorithm

/-- Algorithms of one kind of key. -/
def ofKind (key : KeyKind) (strong : Bool) (ids : List ObjectId) : List SignatureAlgorithm :=
  ids.map fun id => ⟨id, key, strong⟩

def rsaStem : ObjectId := [1, 2, 840, 113549, 1, 1]

def nistStem : ObjectId := [2, 16, 840, 1, 101, 3, 4, 3]

def ecdsaStem : ObjectId := [1, 2, 840, 10045, 4]

/-- The algorithms with a digest; those on Edwards curves need no other. Further ones are not known. -/
def known : List SignatureAlgorithm :=
  ofKind .rsa true
    (AlgorithmId.family rsaStem [11, 12, 13, 14] ++ AlgorithmId.family nistStem [13, 14, 15, 16])
  ++ ofKind .rsa false
    (AlgorithmId.family rsaStem [2, 3, 4, 5]
      ++ [[1, 3, 14, 3, 2, 3], [1, 3, 14, 3, 2, 15], [1, 3, 14, 3, 2, 29], [2, 5, 8, 3, 100],
        [1, 3, 36, 3, 3, 1, 2]])
  ++ ofKind .dsa true (AlgorithmId.family nistStem [1, 2])
  ++ ofKind .dsa false [[1, 2, 840, 10040, 4, 3], [1, 3, 14, 3, 2, 13], [1, 3, 14, 3, 2, 27]]
  ++ ofKind .ellipticCurve true (AlgorithmId.family (ecdsaStem ++ [3]) [1, 2, 3, 4])
  ++ ofKind .ellipticCurve false (AlgorithmId.family ecdsaStem [1, 2, 3])
  ++ [⟨AlgorithmId.ed25519Id, .ed25519, true⟩, ⟨AlgorithmId.ed448Id, .ed448, true⟩]

/-- Algorithms with a strong digest that no key of a TLS client signs by: SM2, and agreements on keys. -/
def strongElsewhere : List ObjectId :=
  [[1, 2, 156, 10197, 1, 501]]
    ++ AlgorithmId.family [1, 3, 132, 1, 11] [0, 1, 2, 3] ++ AlgorithmId.family [1, 3, 132, 1, 14] [0, 1, 2, 3]

def find? (a : AlgorithmId) : Option SignatureAlgorithm := known.find? (·.id == a.id)

/-- Whether the digest of a signature is strong enough. -/
def isStrong (a : AlgorithmId) : Bool :=
  if a.id = AlgorithmId.rsaPssId then (a.parameter.bind RsaPadding.ofElement?).any RsaPadding.isStrong
  else if strongElsewhere.elem a.id then true
  else (find? a).any (·.strong)

/-- Whether a key of some kind makes signatures by an algorithm. -/
def fitsKey (a : AlgorithmId) (k : KeyKind) : Bool :=
  if a.id = AlgorithmId.rsaPssId then k == .rsa || k == .rsaPss
  else (find? a).any (·.key == k)

end SignatureAlgorithm

end ClusterHarness
