import CeloLightClient.Lib.Bytes

/-!
Keccak-256, the hash function of the Ethereum family.

A state is a number of 1600 bits: five planes of 320 bits, each of five words of 64 bits. The
message is padded to blocks of `rate` bytes, which are mixed into the state one after another.
-/

namespace CeloLightClient.Lib.Keccak

def wordOf (a i : ℕ) : ℕ := a >>> (64 * i) % 2 ^ 64

def planeOf (a y : ℕ) : ℕ := a >>> (320 * y) % 2 ^ 320

/-- Rotate a word to the left. -/
def rotl (x n : ℕ) : ℕ := (x <<< n ||| x >>> (64 - n)) % 2 ^ 64

/-- The plane with word `x + k` in place of word `x`. -/
def shift (p k : ℕ) : ℕ := (p >>> (64 * k) ||| p <<< (320 - 64 * k)) % 2 ^ 320

/-- The lowest bit of each word of a plane. -/
def lowBits : ℕ := 1 + 2 ^ 64 + 2 ^ 128 + 2 ^ 192 + 2 ^ 256

/-- Rotate each word of a plane to the left by one bit. -/
def rotlEach (p : ℕ) : ℕ := (p <<< 1 &&& (2 ^ 320 - 1 - lowBits)) ||| (p >>> 63 &&& lowBits)

/-- The state with plane `p` five times. -/
def repeated (p : ℕ) : ℕ := p * (1 + 2 ^ 320 + 2 ^ 640 + 2 ^ 960 + 2 ^ 1280)

def parity (a : ℕ) : ℕ :=
  planeOf a 0 ^^^ planeOf a 1 ^^^ planeOf a 2 ^^^ planeOf a 3 ^^^ planeOf a 4

def theta (a : ℕ) : ℕ := a ^^^ repeated (shift (parity a) 4 ^^^ rotlEach (shift (parity a) 1))

/-- For each word of the state after `rhoPi`, the word it comes from, and the bits it is
rotated by. -/
def moves : List (ℕ × ℕ) := [
  (0, 0), (6, 44), (12, 43), (18, 21), (24, 14),
  (3, 28), (9, 20), (10, 3), (16, 45), (22, 61),
  (1, 1), (7, 6), (13, 25), (19, 8), (20, 18),
  (4, 27), (5, 36), (11, 10), (17, 15), (23, 56),
  (2, 62), (8, 55), (14, 39), (15, 41), (21, 2)]

def rhoPi (a : ℕ) : ℕ := moves.foldr (fun m b => rotl (wordOf a m.1) m.2 + 2 ^ 64 * b) 0

def chiPlane (p : ℕ) : ℕ := p ^^^ ((2 ^ 320 - 1 - shift p 1) &&& shift p 2)

def chi (a : ℕ) : ℕ :=
  [0, 1, 2, 3, 4].foldr (fun y b => chiPlane (planeOf a y) + 2 ^ 320 * b) 0

def roundConstants : List ℕ := [
  0x0000000000000001, 0x0000000000008082, 0x800000000000808A, 0x8000000080008000,
  0x000000000000808B, 0x0000000080000001, 0x8000000080008081, 0x8000000000008009,
  0x000000000000008A, 0x0000000000000088, 0x0000000080008009, 0x000000008000000A,
  0x000000008000808B, 0x800000000000008B, 0x8000000000008089, 0x8000000000008003,
  0x8000000000008002, 0x8000000000000080, 0x000000000000800A, 0x800000008000000A,
  0x8000000080008081, 0x8000000000008080, 0x0000000080000001, 0x8000000080008008]

def permute (a : ℕ) : ℕ := roundConstants.foldl (fun a c => chi (rhoPi (theta a)) ^^^ c) a

/-! ### The sponge -/

/-- The number written in `b`, least significant byte first. -/
def ofBytesLE (b : Bytes) : ℕ := b.foldr (fun x n => x.toNat + 256 * n) 0

/-- The lowest `k` bytes of `n`. -/
def toBytesLE : ℕ → ℕ → Bytes
  | 0, _ => []
  | k + 1, n => UInt8.ofNat n :: toBytesLE k (n / 256)

/-- The bytes in a block. -/
def rate : ℕ := 136

def pad (b : Bytes) : Bytes :=
  let free := rate - b.length % rate
  if free = 1 then b ++ [0x81] else b ++ 0x01 :: List.replicate (free - 2) 0 ++ [0x80]

/-- Mix in the first `k` blocks of `b`. -/
def absorb : ℕ → ℕ → Bytes → ℕ
  | 0, a, _ => a
  | k + 1, a, b => absorb k (permute (a ^^^ ofBytesLE (b.take rate))) (b.drop rate)

@[simp] lemma length_toBytesLE (k n : ℕ) : (toBytesLE k n).length = k := by
  induction k generalizing n with
  | zero => rfl
  | succ k ih => rw [toBytesLE, List.length_cons, ih]

def keccak256 (b : Bytes) : FixedBytes 32 :=
  ⟨toBytesLE 32 (absorb (b.length / rate + 1) 0 (pad b)), length_toBytesLE ..⟩

-- the digest of the empty message
example : ofBytesBE (keccak256 []).1 =
    0xc5d2460186f7233c927e7db2dcc703c0e500b653ca82273b7bfad8045d85a470 := by decide +kernel

end CeloLightClient.Lib.Keccak
