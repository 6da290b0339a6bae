import AdapterRuntime.Lib.Sha256
import AdapterRuntime.Model.Text

/-!
# AdapterRuntime — the terminal digest

`digest.cpp`: the incremental hash class and the digest of a terminal message
it is used for. The eight words of `state_`, and the working variables of a
block, are `Registers`; the loops over arrays are folds over their indices.
-/

namespace AdapterRuntime.Model

open AdapterRuntime.Lib.Sha256 (Word Registers)

-- ---------------------------------------------------------------------------
-- One block
-- ---------------------------------------------------------------------------

/-- `kRoundConstants`. -/
def kRoundConstants : List Word := [
  0x428a2f98, 0x71374491, 0xb5c0fbcf, 0xe9b5dba5, 0x3956c25b, 0x59f111f1,
  0x923f82a4, 0xab1c5ed5, 0xd807aa98, 0x12835b01, 0x243185be, 0x550c7dc3,
  0x72be5d74, 0x80deb1fe, 0x9bdc06a7, 0xc19bf174, 0xe49b69c1, 0xefbe4786,
  0x0fc19dc6, 0x240ca1cc, 0x2de92c6f, 0x4a7484aa, 0x5cb0a9dc, 0x76f988da,
  0x983e5152, 0xa831c66d, 0xb00327c8, 0xbf597fc7, 0xc6e00bf3, 0xd5a79147,
  0x06ca6351, 0x14292967, 0x27b70a85, 0x2e1b2138, 0x4d2c6dfc, 0x53380d13,
  0x650a7354, 0x766a0abb, 0x81c2c92e, 0x92722c85, 0xa2bfe8a1, 0xa81a664b,
  0xc24b8b70, 0xc76c51a3, 0xd192e819, 0xd6990624, 0xf40e3585, 0x106aa070,
  0x19a4c116, 0x1e376c08, 0x2748774c, 0x34b0bcb5, 0x391c0cb3, 0x4ed8aa4a,
  0x5b9cca4f, 0x682e6ff3, 0x748f82ee, 0x78a5636f, 0x84c87814, 0x8cc70208,
  0x90befffa, 0xa4506ceb, 0xbef9a3f7, 0xc67178f2]

/-- `RotateRight`. -/
def rotateRight (value : Word) (shift : Nat) : Word := value >>> shift ||| value <<< (32 - shift)

/-- `static_cast<std::uint32_t>` of a byte of the block. -/
def byteWord (block : List UInt8) (index : Nat) : Word := (block.getD index 0).toBitVec.setWidth 32

/-- The first loop of `Transform`: the sixteen words of the block. -/
def loadWords (block : List UInt8) : List Word :=
  (List.range 16).foldl (fun words index =>
    words.set index (byteWord block (index * 4) <<< 24 ||| byteWord block (index * 4 + 1) <<< 16 |||
      byteWord block (index * 4 + 2) <<< 8 ||| byteWord block (index * 4 + 3)))
    (List.replicate 64 0)

/-- The word the second loop of `Transform` computes. -/
def nextWord (words : List Word) (index : Nat) : Word :=
  let w15 := words.getD (index - 15) 0
  let w2 := words.getD (index - 2) 0
  let s0 := rotateRight w15 7 ^^^ rotateRight w15 18 ^^^ w15 >>> 3
  let s1 := rotateRight w2 17 ^^^ rotateRight w2 19 ^^^ w2 >>> 10
  words.getD (index - 16) 0 + s0 + words.getD (index - 7) 0 + s1

/-- The second loop of `Transform`. -/
def extendWords (words : List Word) : List Word :=
  (List.range' 16 48).foldl (fun words index => words.set index (nextWord words index)) words

/-- One turn of the third loop of `Transform`. -/
def transformRound (words : List Word) (v : Registers) (index : Nat) : Registers :=
  let upperSigma1 := rotateRight v.e 6 ^^^ rotateRight v.e 11 ^^^ rotateRight v.e 25
  let choice := (v.e &&& v.f) ^^^ (~~~v.e &&& v.g)
  let temporary1 := v.h + upperSigma1 + choice + kRoundConstants.getD index 0 + words.getD index 0
  let upperSigma0 := rotateRight v.a 2 ^^^ rotateRight v.a 13 ^^^ rotateRight v.a 22
  let majority := (v.a &&& v.b) ^^^ (v.a &&& v.c) ^^^ (v.b &&& v.c)
  let temporary2 := upperSigma0 + majority
  { a := temporary1 + temporary2
    b := v.a
    c := v.b
    d := v.c
    e := v.d + temporary1
    f := v.e
    g := v.f
    h := v.g }

/-- `Transform`. -/
def transform (state : Registers) (block : List UInt8) : Registers :=
  let words := extendWords (loadWords block)
  let v := (List.range 64).foldl (transformRound words) state
  { a := state.a + v.a
    b := state.b + v.b
    c := state.c + v.c
    d := state.d + v.d
    e := state.e + v.e
    f := state.f + v.f
    g := state.g + v.g
    h := state.h + v.h }

-- ---------------------------------------------------------------------------
-- The stream
-- ---------------------------------------------------------------------------

/-- `std::memcpy` and `std::fill` into the block: the bytes from `offset` on are
replaced, and all others stay. -/
def overwrite (block : List UInt8) (offset : Nat) (bytes : List UInt8) : List UInt8 :=
  block.take offset ++ bytes ++ block.drop (offset + bytes.length)

/-- Overwriting inside a block keeps its length. -/
theorem length_overwrite {block bytes : List UInt8} {offset : Nat}
    (h : offset + bytes.length ≤ block.length) :
    (overwrite block offset bytes).length = block.length := by
  simp only [overwrite, List.length_append, List.length_take, List.length_drop]
  omega

/-- The members of `Sha256`. Beyond `buffered_bytes_` the block holds what was copied
there before. -/
structure Sha256 where
  state : Registers :=
    ⟨0x6a09e667, 0xbb67ae85, 0x3c6ef372, 0xa54ff53a, 0x510e527f, 0x9b05688c, 0x1f83d9ab, 0x5be0cd19⟩
  block : List UInt8 := List.replicate 64 0
  bufferedBytes : Nat := 0
  totalBytes : BitVec 64 := 0
  blockSize : block.length = 64 := by rfl
  buffered_lt : bufferedBytes < 64 := by decide

namespace Sha256

/-- One turn of the loop of `Update`, with the bytes it copies. -/
def copyBytes (hash : Sha256) (bytes : List UInt8)
    (hFits : hash.bufferedBytes + bytes.length ≤ 64) : Sha256 :=
  let block := overwrite hash.block hash.bufferedBytes bytes
  have hSize : block.length = 64 := by
    rw [length_overwrite (by rw [hash.blockSize]; exact hFits), hash.blockSize]
  if hFull : hash.bufferedBytes + bytes.length = 64 then
    { state := transform hash.state block
      block
      bufferedBytes := 0
      totalBytes := hash.totalBytes
      blockSize := hSize }
  else
    { state := hash.state
      block
      bufferedBytes := hash.bufferedBytes + bytes.length
      totalBytes := hash.totalBytes
      blockSize := hSize
      buffered_lt := Nat.lt_of_le_of_ne hFits hFull }

/-- The loop of `Update`. It copies at least one byte a turn, so that it ends within
`length` turns. -/
def updateLoop : Nat → Sha256 → List UInt8 → Sha256
  | 0, hash, _ => hash
  | turns + 1, hash, bytes =>
    if bytes = [] then hash
    else
      let copy := min bytes.length (64 - hash.bufferedBytes)
      updateLoop turns
        (hash.copyBytes (bytes.take copy) (by
          have hBuffered := hash.buffered_lt
          rw [List.length_take]
          omega))
        (bytes.drop copy)

/-- `Update`. -/
def update (hash : Sha256) (bytes : List UInt8) : Sha256 :=
  updateLoop bytes.length
    { hash with totalBytes := hash.totalBytes + BitVec.ofNat 64 bytes.length } bytes

/-- The loop of `Finish` that writes the length into the block. -/
def writeLength (block : List UInt8) (bitLength : BitVec 64) : List UInt8 :=
  (List.range 8).foldl
    (fun block index => block.set (63 - index) ⟨(bitLength >>> (index * 8)).setWidth 8⟩) block

/-- The loops of `Finish` over the words of the state. -/
def resultBytes (state : Registers) : List UInt8 :=
  (List.range 8).flatMap fun word =>
    (List.range 4).map fun byte => ⟨(state.words.getD word 0 >>> ((3 - byte) * 8)).setWidth 8⟩

/-- `Finish`. -/
def finish (hash : Sha256) : List UInt8 :=
  let bitLength := hash.totalBytes * 8
  let block := hash.block.set hash.bufferedBytes 0x80
  let buffered := hash.bufferedBytes + 1
  let filled := overwrite block buffered (List.replicate (64 - buffered) 0)
  let (state, block, buffered) :=
    if 56 < buffered then (transform hash.state filled, filled, 0)
    else (hash.state, block, buffered)
  let block := overwrite block buffered (List.replicate (56 - buffered) 0)
  let block := writeLength block bitLength
  resultBytes (transform state block)

end Sha256

-- ---------------------------------------------------------------------------
-- The digest of a message
-- ---------------------------------------------------------------------------

/-- A lowercase hexadecimal digit. -/
def hexDigit (n : Nat) : UInt8 := if n < 10 then ascii '0' + UInt8.ofNat n else
  ascii 'a' + UInt8.ofNat (n - 10)

/-- A byte as `std::hex` with `std::setw(2)` and `std::setfill('0')` writes it. -/
def hexByte (byte : UInt8) : Text := [hexDigit (byte.toNat / 16), hexDigit (byte.toNat % 16)]

/-- The text of a hash. -/
def formatDigest (bytes : List UInt8) : Text := text "sha256:" ++ bytes.flatMap hexByte

/-- What `TerminalDigest` feeds to the hash, call by call. -/
def digestInputs (typeName encoded : Text) : List (List UInt8) := [typeName, [0], encoded]

/-- `TerminalDigest`, for a message of type `typeName` with this deterministic
encoding; `none` is a message that could not be encoded. -/
def terminalDigestOf (typeName : Text) (encoded : Option Text) : Except Text Text :=
  match encoded with
  | none => .error (text "terminal protobuf message could not be encoded")
  | some encoded =>
    let hash := (digestInputs typeName encoded).foldl Sha256.update {}
    .ok (formatDigest hash.finish)

end AdapterRuntime.Model
