import ClusterHarness.Asn1.Form
import ClusterHarness.Security.AlgorithmId

/-!
Groups in which keys agree on a secret: the powers of a generator modulo a prime. A group is written with
the length of its secrets, or with the order of its generator.
-/

namespace ClusterHarness

open Asn1

structure AgreementGroup where
  prime : Nat
  generator : Nat
  /-- How many bits a secret has, if that is known. -/
  secretBits : Option Int
  deriving DecidableEq, Repr

namespace AgreementGroup

/-- The length of secrets, which may be left out; zero and one below stand for none. -/
def secretLength : Members (Option Int) := fun es =>
  match es with
  | [] => some (none, [])
  | es => (Members.version.map fun n => if n = 0 ∨ n = -1 then none else some n) es

def withLength : Members AgreementGroup := do
  return ⟨← Members.magnitude, ← Members.magnitude, ← secretLength⟩

/-- How the prime was found, which nothing reads. -/
def isSearch : Form := Form.sequence do
  Form.required Form.bits
  let _ ← Members.magnitude

def withOrder : Members AgreementGroup := do
  let p ← Members.magnitude
  let g ← Members.magnitude
  let order ← Members.magnitude
  Form.optional .integer fun e => e.magnitude?.isSome
  Form.optional .sequence isSearch
  return ⟨p, g, some (ByteOrder.bitLength order)⟩

/-- The group that stands beside an algorithm. -/
def ofAlgorithm? (a : AlgorithmId) : Option AgreementGroup := do
  let members := if a.id = AlgorithmId.diffieHellmanId then withLength else withOrder
  Members.all? .basic members (← a.parameter)

/-- Whether a group is as strong as 112 bits. -/
def isStrong (g : AgreementGroup) : Bool :=
  2048 ≤ ByteOrder.bitLength g.prime && g.secretBits.all fun n => 224 ≤ n

/-- The least and the most bits of a prime that public keys are worked out for. -/
def primeBits : Nat × Nat := (512, 10000)

/-- Whether the public key that belongs to a secret can be worked out. -/
def isUsable (g : AgreementGroup) : Bool :=
  let n := ByteOrder.bitLength g.prime
  g.prime % 2 == 1 && primeBits.1 ≤ n && n ≤ primeBits.2

end AgreementGroup

end ClusterHarness
