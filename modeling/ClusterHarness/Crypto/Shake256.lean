import ClusterHarness.Number.ByteOrder

/-!
The digest SHAKE256, whose length can be chosen: blocks of 136 bytes are added to a state of five by five
words, which is permuted after each.
-/

namespace ClusterHarness.Shake256

/-- Words of a state; the word of column `x` and row `y` is at `x + 5 * y`. -/
abbrev State := List UInt64

/-- What is added to the first word after each round. -/
def roundWords : List UInt64 :=
  [
    0x0000000000000001, 0x0000000000008082, 0x800000000000808A, 0x8000000080008000,
    0x000000000000808B, 0x0000000080000001, 0x8000000080008081, 0x8000000000008009,
    0x000000000000008A, 0x0000000000000088, 0x0000000080008009, 0x000000008000000A,
    0x000000008000808B, 0x800000000000008B, 0x8000000000008089, 0x8000000000008003,
    0x8000000000008002, 0x8000000000000080, 0x000000000000800A, 0x800000008000000A,
    0x8000000080008081, 0x8000000000008080, 0x0000000080000001, 0x8000000080008008]

/-- How far each word is rotated. -/
def rotations : List UInt64 :=
  [0, 1, 62, 28, 27,
    36, 44, 6, 55, 20,
    3, 10, 43, 25, 39,
    41, 45, 15, 21, 8,
    18, 2, 61, 56, 14]

def rotateLeft (x n : UInt64) : UInt64 := if n = 0 then x else (x <<< n) ||| (x >>> (64 - n))

def word (s : State) (x y : Nat) : UInt64 := (s[x % 5 + 5 * (y % 5)]?).getD 0

/-- A state from its words by column and row. -/
def build (f : Nat → Nat → UInt64) : State := (List.range 25).map fun i => f (i % 5) (i / 5)

/-- Adds to each word the parities of two columns beside its own. -/
def mixColumns (s : State) : State :=
  let parity (x : Nat) : UInt64 := (List.range 5).foldl (fun p y => p ^^^ word s x y) 0
  let parities := (List.range 5).map parity
  let column (x : Nat) : UInt64 := (parities[x % 5]?).getD 0
  build fun x y => word s x y ^^^ column (x + 4) ^^^ rotateLeft (column (x + 1)) 1

/-- Rotates the words and moves them to other places. -/
def scatter (s : State) : State :=
  let turned := List.zipWith rotateLeft s rotations
  build fun x y => word turned (x + 3 * y) x

/-- Mixes each word with the two after it in its row. -/
def mixRows (s : State) : State :=
  build fun x y => word s x y ^^^ (~~~word s (x + 1) y &&& word s (x + 2) y)

def round (s : State) (c : UInt64) : State :=
  match mixRows (scatter (mixColumns s)) with
  | [] => []
  | w :: ws => (w ^^^ c) :: ws

def permute (s : State) : State := roundWords.foldl round s

/-- Bytes that are taken in, or given out, at a time. -/
def rate : Nat := 136

/-- The message after a mark of the kind of digest, zeros to the end of a block, and a last bit. -/
def padded (message : Bytes) : Bytes :=
  let room := rate - message.length % rate
  if room = 1 then message ++ [0x9F] else message ++ 0x1F :: List.replicate (room - 2) 0 ++ [0x80]

/-- The words of some bytes, the low byte first. -/
def words : Nat → Bytes → List UInt64
  | 0, _ => []
  | count + 1, bs => UInt64.ofNat (ByteOrder.littleValue (bs.take 8)) :: words count (bs.drop 8)

def absorb (s : State) (block : Bytes) : State := permute (List.zipWith (· ^^^ ·) s (words 25 block))

def absorbBlocks : Nat → Bytes → State → State
  | 0, _, s => s
  | count + 1, bs, s => absorbBlocks count (bs.drop rate) (absorb s (bs.take rate))

/-- Gives out blocks until there are as many as asked for. -/
def squeeze : Nat → State → Bytes
  | 0, _ => []
  | count + 1, s => (s.flatMap fun w => ByteOrder.littleBytes 8 w.toNat).take rate ++ squeeze count (permute s)

/-- The first `length` bytes of the digest. -/
def digest (length : Nat) (message : Bytes) : Bytes :=
  let bs := padded message
  let s := absorbBlocks (bs.length / rate) bs (List.replicate 25 0)
  (squeeze (length / rate + 1) s).take length

end ClusterHarness.Shake256
