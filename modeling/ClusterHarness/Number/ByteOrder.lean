import ClusterHarness.Text.Utf8

/-!
Numbers in bytes, with the highest or the lowest byte first.
-/

namespace ClusterHarness.ByteOrder

/-- The number whose highest byte comes first. -/
def bigValue (bs : Bytes) : Nat := bs.foldl (fun n b => 256 * n + b.toNat) 0

/-- The number whose lowest byte comes first. -/
def littleValue (bs : Bytes) : Nat := bs.foldr (fun b n => b.toNat + 256 * n) 0

/-- The lowest `count` bytes of a number, the lowest first. -/
def littleBytes : Nat → Nat → Bytes
  | 0, _ => []
  | count + 1, n => UInt8.ofNat n :: littleBytes count (n / 256)

/-- The lowest `count` bytes of a number, the highest first. -/
def bigBytes (count n : Nat) : Bytes := (littleBytes count n).reverse

/-- How many bits a number has from its highest one on. -/
def bitLength (n : Nat) : Nat := if n = 0 then 0 else n.log2 + 1

@[simp] theorem littleBytes_length (count n : Nat) : (littleBytes count n).length = count := by
  induction count generalizing n with
  | zero => rfl
  | succ count ih => simp [littleBytes, ih]

end ClusterHarness.ByteOrder
