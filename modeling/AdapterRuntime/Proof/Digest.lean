import AdapterRuntime.Lib.Wire
import AdapterRuntime.Model.Digest
import AdapterRuntime.Proof.Ownership

/-!
# AdapterRuntime — the terminal digest is SHA-256

The incremental class of `digest.cpp` against the standard in `Lib.Sha256`.

* `transform_eq` — one block is compressed as the standard says.
* `Sha256.represents_update` — what the class holds between its calls.
* `sha256_streaming` — the digest of a message, in whatever pieces it is fed.
* `terminal_digest_law` — the text of a digest, and what it separates.
-/

namespace AdapterRuntime.Model

open AdapterRuntime.Lib
open AdapterRuntime.Lib.Sha256 (Word Registers Ch Maj bigSigma0 bigSigma1 smallSigma0 smallSigma1
  primesBelow cubeRootFraction K initial blockWord schedule compress bytes64 length_bytes64 padding
  zeroBytes wordBytes digest)

-- ---------------------------------------------------------------------------
-- One block
-- ---------------------------------------------------------------------------

/-- `RotateRight` is the rotation of the specification. -/
theorem rotateRight_eq (value : Word) {shift : Nat} (h : shift < 32) :
    rotateRight value shift = value.rotateRight shift :=
  (BitVec.rotateRight_eq_rotateRightAux_of_lt h).symm

/-- The table holds the constants the standard defines by the primes. -/
theorem kRoundConstants_eq : kRoundConstants = (primesBelow 312).map cubeRootFraction := by
  decide +kernel

/-- The table of round constants is that of the specification. -/
theorem getD_kRoundConstants {t : Nat} (h : t < 64) : kRoundConstants.getD t 0 = K t := by
  have hLength : (primesBelow 312).length = 64 := by decide +kernel
  unfold K
  rw [kRoundConstants_eq, List.getD_eq_getElem?_getD, List.getD_eq_getElem?_getD,
    List.getElem?_map, List.getElem?_eq_getElem (by rw [hLength]; exact h)]
  rfl

/-- A fresh object holds the initial hash value. -/
theorem initial_eq : ({} : Sha256).state = initial := by decide +kernel

/-- Four bytes joined by shifts are four bytes in a row. -/
theorem joinBytes (x y z w : BitVec 8) :
    x.setWidth 32 <<< 24 ||| y.setWidth 32 <<< 16 ||| z.setWidth 32 <<< 8 ||| w.setWidth 32 =
      x ++ y ++ z ++ w := by
  apply BitVec.eq_of_getLsbD_eq
  intro i hi
  simp only [BitVec.getLsbD_or, BitVec.getLsbD_shiftLeft, BitVec.getLsbD_setWidth,
    BitVec.getLsbD_append]
  have hx := fun h => BitVec.getLsbD_of_ge x (i - 24) h
  have hy := fun h => BitVec.getLsbD_of_ge y (i - 16) h
  have hz := fun h => BitVec.getLsbD_of_ge z (i - 8) h
  have hw := fun h => BitVec.getLsbD_of_ge w i h
  grind

/-- The word that was set. -/
theorem getD_set_self {words : List Word} {index : Nat} (h : index < words.length) (w : Word) :
    (words.set index w).getD index 0 = w := by
  rw [List.getD_eq_getElem?_getD, List.getElem?_set_self h]
  rfl

/-- The words that were not set. -/
theorem getD_set_ne {words : List Word} {index t : Nat} (h : t ≠ index) (w : Word) :
    (words.set index w).getD t 0 = words.getD t 0 := by
  rw [List.getD_eq_getElem?_getD, List.getD_eq_getElem?_getD, List.getElem?_set_ne (Ne.symm h)]

/-- A loop that writes one word after the other leaves the sequence it computes. -/
theorem foldl_set_words (W : Nat → Word) (next : List Word → Nat → Word) (count : Nat) :
    ∀ (start : Nat) (words : List Word), start + count ≤ words.length →
    (∀ t < start, words.getD t 0 = W t) →
    (∀ words index, start ≤ index → (∀ t < index, words.getD t 0 = W t) →
      next words index = W index) →
    let words' := (List.range' start count).foldl
      (fun words index => words.set index (next words index)) words
    words'.length = words.length ∧ ∀ t < start + count, words'.getD t 0 = W t := by
  induction count with
  | zero =>
    intro start words _ hBefore _
    exact ⟨rfl, hBefore⟩
  | succ count ih =>
    intro start words hRoom hBefore hNext
    have hSet : (words.set start (next words start)).length = words.length := List.length_set
    have hNow : ∀ t < start + 1, (words.set start (next words start)).getD t 0 = W t := by
      intro t ht
      by_cases hEq : t = start
      · subst hEq
        rw [getD_set_self (by omega)]
        exact hNext words t (le_refl t) hBefore
      · rw [getD_set_ne hEq]
        exact hBefore t (by omega)
    obtain ⟨hLength, hAll⟩ := ih (start + 1) _ (by rw [hSet]; omega) hNow
      (fun words index hIndex => hNext words index (by omega))
    refine ⟨hLength.trans hSet, fun t ht => hAll t (by omega)⟩

/-- The first sixteen words are those of the block. -/
theorem loadWords_eq (block : List UInt8) :
    (loadWords block).length = 64 ∧ ∀ t < 16, (loadWords block).getD t 0 = blockWord block t := by
  have hLoop := foldl_set_words (blockWord block) (fun _ index =>
    byteWord block (index * 4) <<< 24 ||| byteWord block (index * 4 + 1) <<< 16 |||
      byteWord block (index * 4 + 2) <<< 8 ||| byteWord block (index * 4 + 3)) 16 0
    (List.replicate 64 0) (by simp) (by simp) (by
      intro words index _ _
      unfold blockWord byteWord
      rw [joinBytes, Nat.mul_comm])
  rw [List.length_replicate] at hLoop
  unfold loadWords
  rw [List.range_eq_range']
  exact ⟨hLoop.1, fun t ht => hLoop.2 t (by omega)⟩

/-- The first sixteen words of the schedule are those of the block. -/
theorem schedule_of_lt {block : List UInt8} {t : Nat} (h : t < 16) :
    schedule block t = blockWord block t := by
  rw [schedule, if_pos h]

/-- The loops of `Transform` compute the message schedule. -/
theorem extendWords_eq (block : List UInt8) {t : Nat} (h : t < 64) :
    (extendWords (loadWords block)).getD t 0 = schedule block t := by
  obtain ⟨hLength, hFirst⟩ := loadWords_eq block
  have hLoop := foldl_set_words (schedule block) nextWord 48 16 (loadWords block) (by rw [hLength])
    (fun t ht => by rw [hFirst t ht, schedule_of_lt ht]) (by
      intro words index hIndex hBefore
      unfold nextWord
      simp only
      rw [hBefore _ (by omega), hBefore _ (by omega), hBefore _ (by omega), hBefore _ (by omega)]
      simp only [rotateRight_eq _ (show 7 < 32 by decide), rotateRight_eq _ (show 18 < 32 by decide),
        rotateRight_eq _ (show 17 < 32 by decide), rotateRight_eq _ (show 19 < 32 by decide)]
      conv_rhs => rw [schedule]
      rw [if_neg (by omega)]
      unfold smallSigma0 smallSigma1
      ac_rfl)
  exact hLoop.2 t (by omega)

/-- One turn of the loop of `Transform` is one round. -/
theorem transformRound_eq {words : List Word} {block : List UInt8} {t : Nat} (h : t < 64)
    (hWord : words.getD t 0 = schedule block t) (v : Registers) :
    transformRound words v t = Sha256.round v (K t) (schedule block t) := by
  unfold transformRound Sha256.round
  simp only [rotateRight_eq _ (show 6 < 32 by decide), rotateRight_eq _ (show 11 < 32 by decide),
    rotateRight_eq _ (show 25 < 32 by decide), rotateRight_eq _ (show 2 < 32 by decide),
    rotateRight_eq _ (show 13 < 32 by decide), rotateRight_eq _ (show 22 < 32 by decide),
    getD_kRoundConstants h, hWord]
  rfl

/-- `Transform` is the compression of the standard. -/
theorem transform_eq (state : Registers) (block : List UInt8) :
    transform state block = compress state block := by
  unfold transform compress
  have hRounds : (List.range 64).foldl (transformRound (extendWords (loadWords block))) state =
      (List.range 64).foldl (fun v t => Sha256.round v (K t) (schedule block t)) state := by
    apply List.foldl_ext
    intro v t ht
    have hLt := List.mem_range.mp ht
    exact transformRound_eq hLt (extendWords_eq block hLt) v
  simp only [hRounds, Registers.add, BitVec.add_comm]

-- ---------------------------------------------------------------------------
-- The buffer
-- ---------------------------------------------------------------------------

/-- The bytes before and inside what was overwritten. -/
theorem take_overwrite {block bytes : List UInt8} {offset : Nat} (h : offset ≤ block.length) :
    (overwrite block offset bytes).take (offset + bytes.length) = block.take offset ++ bytes := by
  have hFront : (block.take offset ++ bytes).length = offset + bytes.length := by
    rw [List.length_append, List.length_take, Nat.min_eq_left h]
  unfold overwrite
  rw [← hFront, List.take_left]

/-- Bytes that reach the end of the block replace all that followed. -/
theorem overwrite_to_end (block bytes : List UInt8) {offset : Nat}
    (h : block.length ≤ offset + bytes.length) :
    overwrite block offset bytes = block.take offset ++ bytes := by
  unfold overwrite
  rw [List.drop_eq_nil_of_le h, List.append_nil]

namespace Sha256

/-- The part of the block that is in use. -/
def buffer (hash : Sha256) : List UInt8 := hash.block.take hash.bufferedBytes

theorem length_buffer (hash : Sha256) : hash.buffer.length = hash.bufferedBytes := by
  unfold buffer
  rw [List.length_take, hash.blockSize, Nat.min_eq_left (Nat.le_of_lt hash.buffered_lt)]

/-- One turn of the loop absorbs the bytes it copies. -/
theorem copyBytes_eq (hash : Sha256) (bytes : List UInt8)
    (hFits : hash.bufferedBytes + bytes.length ≤ 64) :
    ((hash.copyBytes bytes hFits).state, (hash.copyBytes bytes hFits).buffer) =
      absorb compress 64 (hash.state, hash.buffer) bytes ∧
    (hash.copyBytes bytes hFits).totalBytes = hash.totalBytes := by
  have hStart : hash.bufferedBytes ≤ hash.block.length := by
    rw [hash.blockSize]
    exact Nat.le_of_lt hash.buffered_lt
  unfold copyBytes
  by_cases hFull : hash.bufferedBytes + bytes.length = 64
  · simp only [hFull, dif_pos, and_true]
    rw [absorb_full hash.state hash.buffer bytes (by rw [length_buffer]; exact hash.buffered_lt)
      (by rw [length_buffer]; exact hFull), transform_eq]
    have hBlock := overwrite_to_end hash.block bytes (by rw [hash.blockSize, hFull])
    exact Prod.ext (congrArg (compress hash.state) hBlock) rfl
  · simp only [hFull, dif_neg, not_false_eq_true, and_true]
    rw [absorb_short hash.state hash.buffer bytes (by rw [length_buffer]; omega)]
    exact congrArg (Prod.mk hash.state) (take_overwrite hStart)

/-- The loop of `Update` absorbs all its bytes. -/
theorem updateLoop_eq {turns : Nat} : ∀ (hash : Sha256) {bytes : List UInt8},
    bytes.length ≤ turns →
    ((updateLoop turns hash bytes).state, (updateLoop turns hash bytes).buffer) =
      absorb compress 64 (hash.state, hash.buffer) bytes ∧
    (updateLoop turns hash bytes).totalBytes = hash.totalBytes := by
  induction turns with
  | zero =>
    intro hash bytes hTurns
    rw [List.length_eq_zero_iff.mp (Nat.le_zero.mp hTurns)]
    exact ⟨rfl, rfl⟩
  | succ turns ih =>
    intro hash bytes hTurns
    rw [updateLoop]
    by_cases hEmpty : bytes = []
    · rw [if_pos hEmpty, hEmpty]
      exact ⟨rfl, rfl⟩
    · have hBytes : 0 < bytes.length := List.length_pos_of_ne_nil hEmpty
      have hBuffered := hash.buffered_lt
      simp only [hEmpty, if_false]
      -- every turn copies at least one byte, as the buffer is never full
      have hRest : (bytes.drop (min bytes.length (64 - hash.bufferedBytes))).length ≤ turns := by
        rw [List.length_drop]
        omega
      obtain ⟨hAbsorbed, hTotal⟩ := ih _ hRest
      obtain ⟨hCopied, hSame⟩ := hash.copyBytes_eq
        (bytes.take (min bytes.length (64 - hash.bufferedBytes)))
        (by rw [List.length_take]; omega)
      refine ⟨?_, hTotal.trans hSame⟩
      rw [hAbsorbed, hCopied, ← absorb_append, List.take_append_drop]

-- ---------------------------------------------------------------------------
-- Between the calls
-- ---------------------------------------------------------------------------

/-- The class has taken in `message`. -/
structure Represents (hash : Sha256) (message : List UInt8) : Prop where
  absorbed : (hash.state, hash.buffer) = absorb compress 64 (initial, []) message
  total : hash.totalBytes = BitVec.ofNat 64 message.length

/-- A fresh object has absorbed the empty message. -/
theorem represents_init : Represents {} [] := by
  refine ⟨?_, rfl⟩
  rw [initial_eq]
  rfl

/-- `Update` takes in its bytes after the message so far. -/
theorem represents_update {hash : Sha256} {message : List UInt8} (h : hash.Represents message)
    (bytes : List UInt8) : (hash.update bytes).Represents (message ++ bytes) := by
  obtain ⟨hAbsorbed, hTotal⟩ := updateLoop_eq
    { hash with totalBytes := hash.totalBytes + BitVec.ofNat 64 bytes.length }
    (le_refl bytes.length)
  refine ⟨?_, ?_⟩
  · rw [absorb_append, ← h.absorbed]
    exact hAbsorbed
  · refine hTotal.trans ?_
    show hash.totalBytes + BitVec.ofNat 64 bytes.length = _
    rw [h.total, List.length_append, BitVec.ofNat_add]

/-- Any sequence of updates absorbs its chunks one after the other. -/
theorem represents_updates (chunks : List (List UInt8)) : ∀ {hash : Sha256} {message : List UInt8},
    hash.Represents message →
    (chunks.foldl update hash).Represents (message ++ chunks.flatten) := by
  induction chunks with
  | nil =>
    intro hash message h
    simpa using h
  | cons chunk rest ih =>
    intro hash message h
    rw [List.foldl_cons, List.flatten_cons, ← List.append_assoc]
    exact ih (represents_update h chunk)

-- ---------------------------------------------------------------------------
-- The end of the message
-- ---------------------------------------------------------------------------

/-- `Finish` prints the registers as big-endian words. -/
theorem resultBytes_eq (state : Registers) :
    resultBytes state = state.words.flatMap wordBytes := rfl

/-- The length field is the last eight bytes of the block. -/
theorem writeLength_eq {front : List UInt8} (hFront : front.length = 56) (tail : List UInt8)
    (hTail : tail.length = 8) (bitLength : BitVec 64) :
    writeLength (front ++ tail) bitLength = front ++ bytes64 bitLength := by
  match tail, hTail with
  | [x0, x1, x2, x3, x4, x5, x6, x7], _ =>
    unfold writeLength bytes64
    simp [List.range, List.range.loop, hFront]

/-- Zeros up to a bound, after the byte that ends the message. -/
theorem overwrite_zeros (hash : Sha256) {bound : Nat} (hBound : hash.bufferedBytes + 1 ≤ bound) :
    overwrite (hash.block.set hash.bufferedBytes 0x80) (hash.bufferedBytes + 1)
        (List.replicate (bound - (hash.bufferedBytes + 1)) 0) =
      (hash.buffer ++ 0x80 :: List.replicate (bound - (hash.bufferedBytes + 1)) 0) ++
        hash.block.drop bound := by
  have hIn : hash.bufferedBytes < hash.block.length := by
    rw [hash.blockSize]
    exact hash.buffered_lt
  have hFront : (hash.block.set hash.bufferedBytes 0x80).take (hash.bufferedBytes + 1) =
      hash.buffer ++ [0x80] := by
    rw [List.take_succ_eq_append_getElem (by rw [List.length_set]; exact hIn),
      List.take_set_of_le (le_refl _), List.getElem_set_self]
    rfl
  have hBack : hash.bufferedBytes + 1 + (bound - (hash.bufferedBytes + 1)) = bound := by omega
  unfold overwrite
  rw [hFront, List.length_replicate, hBack, List.drop_set_of_lt hBound]
  simp only [List.append_assoc, List.singleton_append]

variable {hash : Sha256} {message : List UInt8}

/-- `buffered_bytes_` counts the bytes of the last, incomplete block. -/
theorem Represents.bufferedBytes_eq (h : hash.Represents message) :
    hash.bufferedBytes = message.length % 64 := by
  have hBuffer := absorb_buffer_length (f := compress) (show 0 < 64 by decide) (initial, [])
    message (by decide)
  rw [← h.absorbed, List.length_nil, Nat.zero_add] at hBuffer
  exact hash.length_buffer.symm.trans hBuffer

/-- `total_bytes_` counts the message, modulo the word size. -/
theorem Represents.bitLength_eq (h : hash.Represents message) :
    hash.totalBytes * 8 = BitVec.ofNat 64 (8 * message.length) := by
  rw [h.total, Nat.mul_comm, BitVec.ofNat_mul]
  rfl

/-- What is left for `Finish`: to absorb the padding. -/
theorem Represents.digest_eq (h : hash.Represents message) :
    digest message =
      (absorb compress 64 (hash.state, hash.buffer) (padding message.length)).1.words.flatMap
        wordBytes := by
  have hBlocks := foldl_blocks (f := compress) (show 0 < 64 by decide) initial
    (Sha256.length_pad message)
  rw [Sha256.pad, absorb_append, ← h.absorbed] at hBlocks
  rw [hBlocks]
  rfl

/-- The padding when the length still has room in the block. -/
theorem Represents.padding_one (h : hash.Represents message) (hRoom : hash.bufferedBytes + 1 ≤ 56) :
    padding message.length =
      (0x80 :: List.replicate (56 - (hash.bufferedBytes + 1)) 0) ++
        bytes64 (hash.totalBytes * 8) := by
  have hBuffered := h.bufferedBytes_eq
  have hZeros : zeroBytes message.length = 56 - (hash.bufferedBytes + 1) := by
    unfold zeroBytes
    omega
  unfold padding
  rw [hZeros, h.bitLength_eq]

/-- The padding when the length takes a block of its own. -/
theorem Represents.padding_two (h : hash.Represents message) (hRoom : 56 < hash.bufferedBytes + 1) :
    padding message.length =
      (0x80 :: List.replicate (64 - (hash.bufferedBytes + 1)) 0) ++
        (List.replicate 56 0 ++ bytes64 (hash.totalBytes * 8)) := by
  have hBuffered := h.bufferedBytes_eq
  have hZeros : zeroBytes message.length = 64 - (hash.bufferedBytes + 1) + 56 := by
    unfold zeroBytes
    omega
  unfold padding
  rw [hZeros, List.replicate_add, h.bitLength_eq]
  simp only [List.cons_append, List.append_assoc]

theorem length_buffer_zeros (hash : Sha256) {bound : Nat}
    (hBound : hash.bufferedBytes + 1 ≤ bound) :
    hash.buffer.length + (0x80 :: List.replicate (bound - (hash.bufferedBytes + 1)) 0 :
      List UInt8).length = bound := by
  rw [List.length_cons, List.length_replicate, length_buffer]
  omega

/-- `Finish` is the digest of the message taken in. -/
theorem finish_eq (h : hash.Represents message) : hash.finish = digest message := by
  have hLt : hash.buffer.length < 64 := by
    rw [length_buffer]
    exact hash.buffered_lt
  rw [h.digest_eq]
  unfold finish
  by_cases hTwo : 56 < hash.bufferedBytes + 1
  · have hBound : hash.bufferedBytes + 1 ≤ 64 := hash.buffered_lt
    have hFilled := hash.overwrite_zeros hBound
    rw [List.drop_eq_nil_of_le (by rw [hash.blockSize]), List.append_nil] at hFilled
    have hFirst := hash.length_buffer_zeros hBound
    have hLast : ([] : List UInt8).length +
        (List.replicate 56 0 ++ bytes64 (hash.totalBytes * 8)).length = 64 := rfl
    rw [h.padding_two hTwo, absorb_append, absorb_full _ _ _ hLt hFirst,
      absorb_full _ [] _ (by decide) hLast]
    simp only [hTwo, if_true, hFilled, transform_eq, List.nil_append]
    rw [resultBytes_eq]
    unfold overwrite
    rw [List.take_zero, List.nil_append, List.length_replicate, Nat.zero_add,
      writeLength_eq (List.length_replicate) _ (by
        rw [List.length_drop, List.length_append, hFirst])]
  · have hBound : hash.bufferedBytes + 1 ≤ 56 := Nat.le_of_not_lt hTwo
    have hFilled := hash.overwrite_zeros hBound
    have hFront := hash.length_buffer_zeros hBound
    rw [h.padding_one hBound, absorb_full _ _ _ hLt (by
      rw [List.length_append, length_bytes64, ← Nat.add_assoc, hFront])]
    simp only [hTwo, if_false, hFilled, transform_eq]
    rw [writeLength_eq (by rw [List.length_append, hFront]) _
      (by rw [List.length_drop, hash.blockSize]), resultBytes_eq, List.append_assoc]

end Sha256

-- ---------------------------------------------------------------------------
-- The whole stream
-- ---------------------------------------------------------------------------

/-- Hashing in pieces is hashing the message. -/
theorem finish_updates (chunks : List (List UInt8)) :
    (chunks.foldl Sha256.update {}).finish = digest chunks.flatten :=
  Sha256.finish_eq (Sha256.represents_updates chunks Sha256.represents_init)

/-- Whatever calls of `Update` a message is fed by, `Finish` returns its SHA-256. -/
theorem sha256_streaming (message : List UInt8) (chunks : List (List UInt8))
    (hSplit : chunks.flatten = message) :
    (chunks.foldl Sha256.update {}).finish = digest message := by
  rw [finish_updates, hSplit]

/-- "abc" in three pieces, one of them empty. -/
theorem sha256_streaming_pieces :
    (Sha256.update (Sha256.update (Sha256.update {} [97]) []) [98, 99]).finish =
      digest [97, 98, 99] :=
  sha256_streaming [97, 98, 99] [[97], [], [98, 99]] rfl

example : (Sha256.update {} (text "abc")).finish.take 8 =
    [0xba, 0x78, 0x16, 0xbf, 0x8f, 0x01, 0xcf, 0xea] := by
  decide +kernel

-- ---------------------------------------------------------------------------
-- The text of a digest
-- ---------------------------------------------------------------------------

/-- The digits of a digest are lower-case. -/
theorem isLowerHex_hexDigit : ∀ n < 16, isLowerHex (hexDigit n) = true := by decide

/-- Different values have different digits. -/
theorem hexDigit_inj : ∀ n < 16, ∀ m < 16, hexDigit n = hexDigit m → n = m := by decide

/-- The two digits of a byte determine it. -/
theorem hexByte_inj {x y : UInt8} (h : hexByte x = hexByte y) : x = y := by
  unfold hexByte at h
  rw [List.cons.injEq, List.cons.injEq] at h
  have hx : x.toNat < 256 := x.toNat_lt
  have hy : y.toNat < 256 := y.toNat_lt
  have hHigh := hexDigit_inj _ (by omega) _ (by omega) h.1
  have hLow := hexDigit_inj _ (by omega) _ (by omega) h.2.1
  apply UInt8.toNat_inj.mp
  omega

/-- The digits of a string determine its bytes. -/
theorem hexBytes_inj : ∀ {bytes other : List UInt8},
    bytes.flatMap hexByte = other.flatMap hexByte → bytes = other
  | [], [], _ => rfl
  | [], _ :: _, h => by simp [hexByte] at h
  | _ :: _, [], h => by simp [hexByte] at h
  | x :: bytes, y :: other, h => by
    rw [List.flatMap_cons, List.flatMap_cons] at h
    -- every byte takes two characters, so that the first two are those of the first byte
    obtain ⟨hFirst, hRest⟩ := List.append_inj h rfl
    rw [hexByte_inj hFirst, hexBytes_inj hRest]

/-- `FormatDigest` is injective. -/
theorem formatDigest_inj {bytes other : List UInt8} (h : formatDigest bytes = formatDigest other) :
    bytes = other :=
  hexBytes_inj (List.append_cancel_left h)

theorem length_hexBytes (bytes : List UInt8) : (bytes.flatMap hexByte).length = 2 * bytes.length := by
  induction bytes with
  | nil => rfl
  | cons x bytes ih =>
    rw [List.flatMap_cons, List.length_append, ih, List.length_cons]
    show 2 + 2 * bytes.length = _
    omega

theorem length_formatDigest {bytes : List UInt8} (h : bytes.length = 32) :
    (formatDigest bytes).length = kCanonicalSha256TextBytes := by
  have hPrefix : (text "sha256:").length = 7 := by decide +kernel
  unfold formatDigest
  rw [List.length_append, length_hexBytes, h, hPrefix]
  rfl

/-- The recogniser of acknowledged digests accepts what the formatter writes. -/
theorem isCanonicalSha256_formatDigest {bytes : List UInt8} (h : bytes.length = 32) :
    isCanonicalSha256 (formatDigest bytes) = true := by
  have hPrefix : (text "sha256:").length = 7 := by decide +kernel
  have hTake : (formatDigest bytes).take 7 = text "sha256:" := by
    unfold formatDigest
    rw [← hPrefix, List.take_left]
  have hDrop : (formatDigest bytes).drop 7 = bytes.flatMap hexByte := by
    unfold formatDigest
    rw [← hPrefix, List.drop_left]
  have hHex : (bytes.flatMap hexByte).all isLowerHex = true := by
    rw [List.all_flatMap, List.all_eq_true]
    intro x _
    have hx : x.toNat < 256 := x.toNat_lt
    simp [hexByte, isLowerHex_hexDigit (x.toNat / 16) (by omega),
      isLowerHex_hexDigit (x.toNat % 16) (by omega)]
  unfold isCanonicalSha256
  rw [length_formatDigest h, hTake, hDrop, hHex]
  decide

theorem length_digest (message : List UInt8) : (digest message).length = 32 := rfl

/-- A type name without the separator can be read off the digest's input. -/
theorem separated_inj {typeName other : Text} (hName : 0 ∉ typeName) (hOther : 0 ∉ other)
    {encoded otherEncoded : Text}
    (h : (digestInputs typeName encoded).flatten = (digestInputs other otherEncoded).flatten) :
    typeName = other ∧ encoded = otherEncoded := by
  simp only [digestInputs, List.flatten_cons, List.flatten_nil, List.append_nil,
    List.singleton_append] at h
  exact Wire.separator_inj hName hOther h

/-- A terminal digest is that of the type name and the encoding, with a zero byte between them. -/
theorem terminalDigestOf_ok {typeName : Text} {encoded : Option Text} {terminalDigest : Text}
    (h : terminalDigestOf typeName encoded = .ok terminalDigest) :
    ∃ bytes, encoded = some bytes ∧
      terminalDigest = formatDigest (digest (typeName ++ [0] ++ bytes)) := by
  cases encoded with
  | none => cases h
  | some bytes =>
    have hText : formatDigest ((digestInputs typeName bytes).foldl Sha256.update {}).finish =
        terminalDigest := Except.ok.inj h
    have hMessage : (digestInputs typeName bytes).flatten = typeName ++ [0] ++ bytes := by
      simp [digestInputs]
    rw [finish_updates, hMessage] at hText
    exact ⟨bytes, rfl, hText.symm⟩

/-- A client whose digests are computed by `TerminalDigest` reserves what they take. -/
theorem canonicalDigests_of_terminalDigestOf {env : Env} (typeName : WorkFrame → Text)
    (encode : WorkFrame → Option Text)
    (h : ∀ frame, env.protobuf.terminalDigest frame =
      (terminalDigestOf (typeName frame) (encode frame)).toOption) : env.CanonicalDigests := by
  intro frame terminalDigest hSome
  rw [h frame] at hSome
  cases hResult : terminalDigestOf (typeName frame) (encode frame) with
  | error message =>
    rw [hResult] at hSome
    cases hSome
  | ok result =>
    rw [hResult] at hSome
    cases hSome
    obtain ⟨bytes, -, hText⟩ := terminalDigestOf_ok hResult
    rw [hText]
    exact length_formatDigest (length_digest _)

/-- The digest of every terminal: its text, and what it separates. -/
theorem terminal_digest_law :
    (∀ typeName encoded terminalDigest,
      terminalDigestOf typeName encoded = .ok terminalDigest →
      ∃ bytes, encoded = some bytes ∧
        terminalDigest =
          text "sha256:" ++ (digest (typeName ++ [0] ++ bytes)).flatMap hexByte ∧
        isCanonicalSha256 terminalDigest = true ∧
        terminalDigest.length = kCanonicalSha256TextBytes) ∧
    (∀ hash other : List UInt8, hash.length = 32 → other.length = 32 →
      formatDigest hash = formatDigest other → hash = other) ∧
    (∀ typeName encoded other otherEncoded : Text, 0 ∉ typeName → 0 ∉ other →
      (digestInputs typeName encoded).flatten = (digestInputs other otherEncoded).flatten →
      (typeName, encoded) = (other, otherEncoded)) := by
  refine ⟨?_, fun _ _ _ _ => formatDigest_inj, ?_⟩
  · intro typeName encoded terminalDigest hOk
    obtain ⟨bytes, hEncoded, hText⟩ := terminalDigestOf_ok hOk
    subst hText
    exact ⟨bytes, hEncoded, rfl, isCanonicalSha256_formatDigest (length_digest _),
      length_formatDigest (length_digest _)⟩
  · intro typeName encoded other otherEncoded hName hOther h
    obtain ⟨hNames, hEncoded⟩ := separated_inj hName hOther h
    rw [hNames, hEncoded]

theorem terminal_digest_law_response :
    ∃ terminalDigest, terminalDigestOf (text "xgc.v1.UnaryResponse") (some [1, 2]) =
        .ok terminalDigest ∧
      isCanonicalSha256 terminalDigest = true ∧
      (digestInputs (text "ab") [1]).flatten ≠ (digestInputs (text "a") [98, 0, 1]).flatten := by
  obtain ⟨bytes, -, -, hCanonical, -⟩ :=
    terminal_digest_law.1 (text "xgc.v1.UnaryResponse") (some [1, 2]) _ rfl
  refine ⟨_, rfl, hCanonical, fun h => ?_⟩
  have hSame := terminal_digest_law.2.2 (text "ab") [1] (text "a") [98, 0, 1] (by decide +kernel)
    (by decide +kernel) h
  exact absurd hSame (by decide +kernel)

end AdapterRuntime.Model
