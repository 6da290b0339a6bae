import AdapterRuntime.Lib.Blocks
import Mathlib

/-!
# The SHA-256 of FIPS 180-4

The standard, for messages of whole bytes. Words are bit vectors, `+` is
addition modulo `2 ^ 32`, and every definition names the section it is taken
from. The constants are computed from the primes they are defined by.
-/

namespace AdapterRuntime.Lib.Sha256

/-- A 32-bit word. -/
abbrev Word := BitVec 32

-- ---------------------------------------------------------------------------
-- Functions and constants (4.1.2, 4.2.2, 5.3.3)
-- ---------------------------------------------------------------------------

/-- `Ch(x, y, z)`: `x` chooses between the bits of `y` and `z`. -/
def Ch (x y z : Word) : Word := (x &&& y) ^^^ (~~~x &&& z)

/-- `Maj(x, y, z)`: the majority of each bit. -/
def Maj (x y z : Word) : Word := (x &&& y) ^^^ (x &&& z) ^^^ (y &&& z)

/-- `Σ₀`, in the rounds. -/
def bigSigma0 (x : Word) : Word := x.rotateRight 2 ^^^ x.rotateRight 13 ^^^ x.rotateRight 22

/-- `Σ₁`, in the rounds. -/
def bigSigma1 (x : Word) : Word := x.rotateRight 6 ^^^ x.rotateRight 11 ^^^ x.rotateRight 25

/-- `σ₀`, in the message schedule. -/
def smallSigma0 (x : Word) : Word := x.rotateRight 7 ^^^ x.rotateRight 18 ^^^ x >>> 3

/-- `σ₁`, in the message schedule. -/
def smallSigma1 (x : Word) : Word := x.rotateRight 17 ^^^ x.rotateRight 19 ^^^ x >>> 10

/-- The primes below `n`. -/
def primesBelow (n : Nat) : List Nat :=
  (List.range n).filter fun p => 2 ≤ p && (List.range p).all fun d => d < 2 || p % d != 0

/-- The first 32 bits of the fractional part of the cube root of `p`. -/
def cubeRootFraction (p : Nat) : Word := BitVec.ofNat 32 (Nat.nthRoot 3 (p * 2 ^ 96))

/-- The first 32 bits of the fractional part of the square root of `p`. -/
def squareRootFraction (p : Nat) : Word := BitVec.ofNat 32 (Nat.nthRoot 2 (p * 2 ^ 64))

/-- `K_t`: the cube roots of the first 64 primes. -/
def K (t : Nat) : Word := cubeRootFraction ((primesBelow 312).getD t 0)

/-- The eight working variables, and the eight words of a hash value. -/
structure Registers where
  a : Word
  b : Word
  c : Word
  d : Word
  e : Word
  f : Word
  g : Word
  h : Word
  deriving DecidableEq

namespace Registers

/-- The sum of 6.2.2, step 4. -/
def add (x y : Registers) : Registers :=
  ⟨x.a + y.a, x.b + y.b, x.c + y.c, x.d + y.d, x.e + y.e, x.f + y.f, x.g + y.g, x.h + y.h⟩

/-- The registers in the order in which the digest lists them. -/
def words (x : Registers) : List Word := [x.a, x.b, x.c, x.d, x.e, x.f, x.g, x.h]

end Registers

/-- `H(0)`: the square roots of the first eight primes. -/
def initial : Registers :=
  ⟨squareRootFraction 2, squareRootFraction 3, squareRootFraction 5, squareRootFraction 7,
    squareRootFraction 11, squareRootFraction 13, squareRootFraction 17, squareRootFraction 19⟩

-- ---------------------------------------------------------------------------
-- Padding (5.1.1)
-- ---------------------------------------------------------------------------

/-- The zero bytes between the byte that starts with the bit `1` and the length. -/
def zeroBytes (length : Nat) : Nat := (119 - length % 64) % 64

/-- With the seven zero bits of the byte `80`, these are the least zero bits that make
the length of the padded message, without its length field, 448 modulo 512. -/
theorem zeroBytes_least (length : Nat) :
    (8 * length + 1 + (7 + 8 * zeroBytes length)) % 512 = 448 ∧
    ∀ k, (8 * length + 1 + k) % 512 = 448 → 7 + 8 * zeroBytes length ≤ k := by
  unfold zeroBytes
  constructor
  · omega
  · intro k hk
    omega

/-- The big-endian bytes of a 64-bit number. -/
def bytes64 (x : BitVec 64) : List UInt8 :=
  [⟨(x >>> 56).setWidth 8⟩, ⟨(x >>> 48).setWidth 8⟩, ⟨(x >>> 40).setWidth 8⟩,
    ⟨(x >>> 32).setWidth 8⟩, ⟨(x >>> 24).setWidth 8⟩, ⟨(x >>> 16).setWidth 8⟩,
    ⟨(x >>> 8).setWidth 8⟩, ⟨x.setWidth 8⟩]

/-- What is appended to a message of this many bytes. -/
def padding (length : Nat) : List UInt8 :=
  0x80 :: List.replicate (zeroBytes length) 0 ++ bytes64 (BitVec.ofNat 64 (8 * length))

/-- The message followed by its padding. -/
def pad (message : List UInt8) : List UInt8 := message ++ padding message.length

@[simp] theorem length_bytes64 (x : BitVec 64) : (bytes64 x).length = 8 := rfl

theorem length_padding (length : Nat) :
    (padding length).length = 9 + zeroBytes length := by
  simp only [padding, List.cons_append, List.length_cons, List.length_append,
    List.length_replicate, length_bytes64]
  omega

/-- A padded message is a sequence of whole blocks. -/
theorem length_pad (message : List UInt8) : (pad message).length % 64 = 0 := by
  rw [pad, List.length_append, length_padding, zeroBytes]
  omega

-- ---------------------------------------------------------------------------
-- Hash computation (6.2.2)
-- ---------------------------------------------------------------------------

/-- The `t`-th big-endian word of a block. -/
def blockWord (block : List UInt8) (t : Nat) : Word :=
  (block.getD (4 * t) 0).toBitVec ++ (block.getD (4 * t + 1) 0).toBitVec ++
    (block.getD (4 * t + 2) 0).toBitVec ++ (block.getD (4 * t + 3) 0).toBitVec

/-- The message schedule `W_t`. -/
def schedule (block : List UInt8) (t : Nat) : Word :=
  if t < 16 then blockWord block t
  else
    smallSigma1 (schedule block (t - 2)) + schedule block (t - 7) +
      smallSigma0 (schedule block (t - 15)) + schedule block (t - 16)

/-- One round, with the constant and the schedule word of its number. -/
def round (x : Registers) (k w : Word) : Registers :=
  let t₁ := x.h + bigSigma1 x.e + Ch x.e x.f x.g + k + w
  let t₂ := bigSigma0 x.a + Maj x.a x.b x.c
  ⟨t₁ + t₂, x.a, x.b, x.c, x.d + t₁, x.e, x.f, x.g⟩

/-- The hash value after a block. -/
def compress (x : Registers) (block : List UInt8) : Registers :=
  ((List.range 64).foldl (fun v t => round v (K t) (schedule block t)) x).add x

/-- The big-endian bytes of a word. -/
def wordBytes (x : Word) : List UInt8 :=
  [⟨(x >>> 24).setWidth 8⟩, ⟨(x >>> 16).setWidth 8⟩, ⟨(x >>> 8).setWidth 8⟩, ⟨x.setWidth 8⟩]

/-- The 256-bit message digest. -/
def digest (message : List UInt8) : List UInt8 :=
  ((blocks 64 (pad message)).foldl compress initial).words.flatMap wordBytes

end AdapterRuntime.Lib.Sha256
