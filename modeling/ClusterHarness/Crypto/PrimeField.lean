/-!
Arithmetic modulo a prime: powers, inverses and square roots. An inverse comes from Euclid's algorithm; a
square root is mended bit by bit where the prime is one more than a multiple of four.
-/

namespace ClusterHarness.PrimeField

def add (p a b : Nat) : Nat := (a + b) % p

def sub (p a b : Nat) : Nat := (a + (p - b % p)) % p

def mul (p a b : Nat) : Nat := a * b % p

/-- A power, by squaring. -/
def power (p a n : Nat) : Nat :=
  if n = 0 then 1 % p
  else
    let half := power p (a * a % p) (n / 2)
    if n % 2 = 1 then a * half % p else half
termination_by n

/-- The step of Euclid's algorithm: `s` and `t` are what `r` and `q` are multiples by, modulo `p`. -/
def euclid (p r q s t : Nat) : Nat :=
  if h : q = 0 then s
  else
    have : r % q < q := Nat.mod_lt _ (Nat.pos_of_ne_zero h)
    euclid p q (r % q) t (sub p s (r / q * t))
termination_by q

/-- The inverse of a number, zero for zero. -/
def inverse (p a : Nat) : Nat := if a % p = 0 then 0 else euclid p (a % p) p (1 % p) 0

/-- The twos in a number, at most `fuel`, and what is left without them. -/
def splitTwos : Nat → Nat → Nat × Nat
  | 0, n => (0, n)
  | fuel + 1, n =>
    if n % 2 = 1 then (0, n)
    else
      let (k, odd) := splitTwos fuel (n / 2)
      (k + 1, odd)

/-- Mends a root `r` of `a * t`, where `t` has an order that divides `1 <<< k` and the order of `c` is twice
that, into a root of `a`. -/
def mendRoot (p : Nat) : Nat → Nat → Nat → Nat → Nat
  | 0, r, _, _ => r
  | k + 1, r, t, c =>
    let square := c * c % p
    if power p t (1 <<< k) = 1 then mendRoot p k r t square
    else mendRoot p k (r * c % p) (t * square % p) square

/-- The first number from `n` on that is no square. -/
def nonResidue (p : Nat) : Nat → Nat → Nat
  | 0, n => n
  | fuel + 1, n => if power p n ((p - 1) / 2) = p - 1 then n else nonResidue p fuel (n + 1)

/-- A number whose square is the given one. -/
def root? (p a : Nat) : Option Nat :=
  let (k, odd) := splitTwos p.log2 (p - 1)
  let c := power p (nonResidue p 1000 2) odd
  let r := mendRoot p (k - 1) (power p a ((odd + 1) / 2)) (power p a odd) c
  if r * r % p = a % p then some r else none

/-- A root that is found is one. -/
theorem root?_sound {p a r : Nat} (h : root? p a = some r) : r * r % p = a % p := by
  simp only [root?] at h
  split at h
  · next hr => exact Option.some.inj h ▸ hr
  · exact nomatch h

end ClusterHarness.PrimeField
