import Mathlib

/-!
# Blocks of a stream

A block function is folded over a stream in two ways. `blocks` cuts a finished
list into its full blocks. `absorb` takes the elements one by one into a
buffer and applies the function whenever the buffer is full, which is what an
incremental implementation keeps between its calls. The two agree, whatever
pieces the stream arrives in.
-/

namespace AdapterRuntime.Lib

variable {α σ : Type}

-- ---------------------------------------------------------------------------
-- Cutting a list
-- ---------------------------------------------------------------------------

/-- The first `count` blocks of `size` elements. -/
def blocksOf (size : Nat) : Nat → List α → List (List α)
  | 0, _ => []
  | count + 1, l => l.take size :: blocksOf size count (l.drop size)

/-- The full blocks of a list, in order. -/
def blocks (size : Nat) (l : List α) : List (List α) := blocksOf size (l.length / size) l

-- ---------------------------------------------------------------------------
-- Absorbing a stream
-- ---------------------------------------------------------------------------

/-- Takes one element into the buffer and applies `f` to a full buffer. -/
def push (f : σ → List α → σ) (size : Nat) (p : σ × List α) (a : α) : σ × List α :=
  if p.2.length + 1 = size then (f p.1 (p.2 ++ [a]), []) else (p.1, p.2 ++ [a])

/-- Takes the elements of a list one by one. -/
def absorb (f : σ → List α → σ) (size : Nat) (p : σ × List α) (l : List α) : σ × List α :=
  l.foldl (push f size) p

variable {f : σ → List α → σ} {size : Nat}

@[simp] theorem absorb_nil (p : σ × List α) : absorb f size p [] = p := rfl

theorem absorb_append (p : σ × List α) (l₁ l₂ : List α) :
    absorb f size p (l₁ ++ l₂) = absorb f size (absorb f size p l₁) l₂ :=
  List.foldl_append

/-- What does not fill the buffer is only buffered. -/
theorem absorb_short (s : σ) (buffer l : List α) (h : buffer.length + l.length < size) :
    absorb f size (s, buffer) l = (s, buffer ++ l) := by
  induction l generalizing buffer with
  | nil => simp
  | cons a rest ih =>
    rw [List.length_cons] at h
    have hStep : push f size (s, buffer) a = (s, buffer ++ [a]) := by
      unfold push
      rw [if_neg (by show buffer.length + 1 ≠ size; omega)]
    have hRest : (buffer ++ [a]).length + rest.length < size := by
      simp only [List.length_append, List.length_singleton]
      omega
    show absorb f size (push f size (s, buffer) a) rest = _
    rw [hStep, ih _ hRest, List.append_assoc, List.singleton_append]

/-- What exactly fills the buffer is handed to the block function. -/
theorem absorb_full (s : σ) (buffer l : List α) (hBuffer : buffer.length < size)
    (h : buffer.length + l.length = size) :
    absorb f size (s, buffer) l = (f s (buffer ++ l), []) := by
  obtain ⟨front, last, rfl⟩ : ∃ front last, l = front ++ [last] := by
    rcases List.eq_nil_or_concat l with rfl | ⟨front, last, rfl⟩
    · simp only [List.length_nil] at h
      omega
    · exact ⟨front, last, by simp⟩
  rw [List.length_append, List.length_singleton] at h
  rw [absorb_append, absorb_short s buffer front (by omega)]
  show push f size (s, buffer ++ front) last = _
  unfold push
  rw [if_pos (by simp only [List.length_append]; omega), List.append_assoc]

/-- The buffer holds the remainder of the stream. -/
theorem absorb_buffer_length (hSize : 0 < size) (p : σ × List α) (l : List α)
    (h : p.2.length < size) :
    (absorb f size p l).2.length = (p.2.length + l.length) % size := by
  induction l generalizing p with
  | nil => exact (Nat.mod_eq_of_lt h).symm
  | cons a rest ih =>
    show (absorb f size (push f size p a) rest).2.length = _
    unfold push
    split
    · rename_i hFull
      rw [ih (_, []) hSize, List.length_cons, List.length_nil, Nat.zero_add,
        show p.2.length + (rest.length + 1) = rest.length + size by omega, Nat.add_mod_right]
    · rename_i hNot
      rw [ih _ (by rw [List.length_append, List.length_singleton]; omega), List.length_append,
        List.length_singleton, List.length_cons, Nat.add_assoc, Nat.add_comm 1]

/-- A stream of full blocks is absorbed block by block. -/
theorem absorb_blocksOf (hSize : 0 < size) (s : σ) {count : Nat} {l : List α}
    (h : l.length = count * size) :
    absorb f size (s, []) l = ((blocksOf size count l).foldl f s, []) := by
  induction count generalizing s l with
  | zero =>
    rw [Nat.zero_mul, List.length_eq_zero_iff] at h
    subst h
    rfl
  | succ count ih =>
    rw [Nat.succ_mul] at h
    have hFirst : (l.take size).length = size := by
      rw [List.length_take]
      omega
    have hRest : (l.drop size).length = count * size := by
      rw [List.length_drop]
      omega
    have hSplit : absorb f size (s, []) (l.take size ++ l.drop size) =
        absorb f size (absorb f size (s, []) (l.take size)) (l.drop size) :=
      absorb_append _ _ _
    rw [List.take_append_drop] at hSplit
    rw [hSplit, absorb_full s [] (l.take size) hSize (by rw [List.length_nil, hFirst, Nat.zero_add]),
      ih _ hRest]
    rfl

/-- Folding a block function over a finished stream is absorbing the stream. -/
theorem foldl_blocks (hSize : 0 < size) (s : σ) {l : List α} (h : l.length % size = 0) :
    absorb f size (s, []) l = ((blocks size l).foldl f s, []) :=
  absorb_blocksOf hSize s (Nat.div_mul_cancel (Nat.dvd_of_mod_eq_zero h)).symm

end AdapterRuntime.Lib
