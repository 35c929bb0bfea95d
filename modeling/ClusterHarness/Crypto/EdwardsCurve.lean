import ClusterHarness.Crypto.PrimeField
import ClusterHarness.Crypto.Sha512
import ClusterHarness.Crypto.Shake256

/-!
Edwards curves, `ax² + y² = 1 + dx²y²`, and the public keys of Ed25519 and Ed448: a secret key is
digested, some bits of the digest are fixed, and the base point is multiplied by the number that they are.
-/

namespace ClusterHarness

structure EdwardsCurve where
  p : Nat
  a : Nat
  d : Nat
  base : Nat × Nat
  /-- The bytes of a key, secret or public. -/
  width : Nat
  digest : Bytes → Bytes
  /-- The highest bit of the multiplier. -/
  top : Nat
  /-- How many of the lowest bits of the multiplier are zero. -/
  zeros : Nat

namespace EdwardsCurve

def add (c : EdwardsCurve) (q r : Nat × Nat) : Nat × Nat :=
  let mul := PrimeField.mul c.p
  let t := mul c.d (mul (mul q.1 r.1) (mul q.2 r.2))
  let x := PrimeField.add c.p (mul q.1 r.2) (mul q.2 r.1)
  let y := PrimeField.sub c.p (mul q.2 r.2) (mul c.a (mul q.1 r.1))
  (mul x (PrimeField.inverse c.p (1 + t)), mul y (PrimeField.inverse c.p (PrimeField.sub c.p 1 t)))

/-- The neutral point. -/
def zero : Nat × Nat := (0, 1)

def multiply (c : EdwardsCurve) (n : Nat) (q : Nat × Nat) : Nat × Nat :=
  if n = 0 then zero
  else
    let half := multiply c (n / 2) (c.add q q)
    if n % 2 = 1 then c.add q half else half
termination_by n

/-- The second coordinate, the low byte first, with the lowest bit of the first as the highest of all. -/
def write (c : EdwardsCurve) (q : Nat × Nat) : Bytes :=
  ByteOrder.littleBytes c.width (q.2 + (q.1 % 2) * (1 <<< (8 * c.width - 1)))

/-- The multiplier in a digest: the bits below the top one, but for the lowest, and the top one. -/
def multiplier (c : EdwardsCurve) (secret : Bytes) : Nat :=
  let n := ByteOrder.littleValue ((c.digest secret).take c.width) % (1 <<< c.top)
  n - n % (1 <<< c.zeros) + (1 <<< c.top)

/-- The public key of a secret one. -/
def publicKey (c : EdwardsCurve) (secret : Bytes) : Bytes := c.write (c.multiply (c.multiplier secret) c.base)

@[simp] theorem publicKey_length (c : EdwardsCurve) (secret : Bytes) : (c.publicKey secret).length = c.width := by
  simp [publicKey, write]

def ed25519 : EdwardsCurve :=
  { p := 0x7FFFFFFFFFFFFFFFFFFFFFFFFFFFFFFFFFFFFFFFFFFFFFFFFFFFFFFFFFFFFFED
    a := 0x7FFFFFFFFFFFFFFFFFFFFFFFFFFFFFFFFFFFFFFFFFFFFFFFFFFFFFFFFFFFFFEC
    d := 0x52036CEE2B6FFE738CC740797779E89800700A4D4141D8AB75EB4DCA135978A3
    base :=
      (0x216936D3CD6E53FEC0A4E231FDD6DC5C692CC7609525A7B2C9562D608F25D51A,
        0x6666666666666666666666666666666666666666666666666666666666666658)
    width := 32
    digest := Sha512.digest
    top := 254
    zeros := 3 }

def ed448 : EdwardsCurve :=
  { p := 0xFFFFFFFFFFFFFFFFFFFFFFFFFFFFFFFFFFFFFFFFFFFFFFFFFFFFFFFEFFFFFFFFFFFFFFFFFFFFFFFFFFFFFFFFFFFFFFFFFFFFFFFFFFFFFFFF
    a := 1
    d := 0xFFFFFFFFFFFFFFFFFFFFFFFFFFFFFFFFFFFFFFFFFFFFFFFFFFFFFFFEFFFFFFFFFFFFFFFFFFFFFFFFFFFFFFFFFFFFFFFFFFFFFFFFFFFF6756
    base :=
      (0x4F1970C66BED0DED221D15A622BF36DA9E146570470F1767EA6DE324A3D3A46412AE1AF72AB66511433B80E18B00938E2626A82BC70CC05E,
        0x693F46716EB6BC248876203756C9C7624BEA73736CA3984087789C1E05A0C2D73AD3FF1CE67C39C4FDBD132C4ED7C8AD9808795BF230FA14)
    width := 57
    digest := Shake256.digest 114
    top := 447
    zeros := 2 }

end EdwardsCurve

end ClusterHarness
