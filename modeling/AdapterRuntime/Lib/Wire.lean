import Mathlib

/-!
# Encodings

Names in front of a separator can be read back (`separator_inj`).

The sizes of the encodings a message is built from: a varint takes one byte for
every seven bits, a singular field that has its default value is left out, and
a text or a message is preceded by its length. `tag` is the size of a field's
tag. All of them grow with what they encode.
-/

namespace AdapterRuntime.Lib.Wire

/-- The first separator ends the name. -/
theorem separator_inj {α : Type} {separator : α} {name name' rest rest' : List α}
    (hName : separator ∉ name) (hName' : separator ∉ name')
    (h : name ++ separator :: rest = name' ++ separator :: rest') :
    name = name' ∧ rest = rest' := by
  induction name generalizing name' with
  | nil =>
    cases name' with
    | nil => exact ⟨rfl, List.tail_eq_of_cons_eq h⟩
    | cons y name' => exact absurd (List.mem_cons.mpr (.inl (List.head_eq_of_cons_eq h))) hName'
  | cons x name ih =>
    cases name' with
    | nil => exact absurd (List.mem_cons.mpr (.inl (List.head_eq_of_cons_eq h).symm)) hName
    | cons y name' =>
      rw [List.cons_append, List.cons_append, List.cons.injEq] at h
      obtain ⟨hNames, hRest⟩ := ih (fun hMem => hName (List.mem_cons_of_mem x hMem))
        (fun hMem => hName' (List.mem_cons_of_mem y hMem)) h.2
      exact ⟨by rw [h.1, hNames], hRest⟩

/-- The bytes of a varint. -/
def varintBytes (n : Nat) : Nat := Nat.log2 n / 7 + 1

/-- A singular integer field. -/
def integerField (tag n : Nat) : Nat := if n = 0 then 0 else tag + varintBytes n

/-- A singular text or bytes field, by its length. -/
def textField (tag length : Nat) : Nat :=
  if length = 0 then 0 else tag + varintBytes length + length

/-- A message field that is set, by the size of the message. -/
def messageField (tag length : Nat) : Nat := tag + varintBytes length + length

theorem varintBytes_mono {n m : Nat} (h : n ≤ m) : varintBytes n ≤ varintBytes m := by
  have hLog : Nat.log2 n ≤ Nat.log2 m := by
    rw [Nat.log2_eq_log_two, Nat.log2_eq_log_two]
    exact Nat.log_mono_right h
  exact Nat.succ_le_succ (Nat.div_le_div_right hLog)

/-- A word takes at most ten bytes. -/
theorem varintBytes_le_ten {n : Nat} (h : n < 2 ^ 64) : varintBytes n ≤ 10 := by
  have hLog : Nat.log2 n ≤ 63 := by
    by_cases hZero : n = 0
    · simp [hZero]
    · exact Nat.le_of_lt_succ ((Nat.log2_lt hZero).mpr h)
  unfold varintBytes
  omega

/-- A length that grows by less than 128 needs at most one more byte. -/
theorem varintBytes_add_le {n d : Nat} (h : d < 128) :
    varintBytes (n + d) ≤ varintBytes n + 1 := by
  by_cases hZero : n + d = 0
  · have hDefault : n = n + d := by omega
    rw [← hDefault]
    exact Nat.le_succ _
  · unfold varintBytes
    by_cases hSmall : n < 128
    · have hLog : Nat.log2 (n + d) < 8 := (Nat.log2_lt hZero).mpr (by omega)
      omega
    · -- the sum is below twice the length, which is one more bit
      have hBits : n < 2 ^ (Nat.log2 n + 1) := Nat.lt_log2_self
      have hLog : Nat.log2 (n + d) < Nat.log2 n + 2 := by
        refine (Nat.log2_lt hZero).mpr ?_
        rw [Nat.pow_succ]
        omega
      omega

theorem integerField_mono (tag : Nat) {n m : Nat} (h : n ≤ m) :
    integerField tag n ≤ integerField tag m := by
  unfold integerField
  by_cases hZero : n = 0
  · simp [hZero]
  · rw [if_neg hZero, if_neg (by omega)]
    exact Nat.add_le_add_left (varintBytes_mono h) tag

theorem messageField_mono (tag : Nat) {n m : Nat} (h : n ≤ m) :
    messageField tag n ≤ messageField tag m :=
  Nat.add_le_add (Nat.add_le_add_left (varintBytes_mono h) tag) h

/-- A 64-bit integer takes at most ten bytes after its tag. -/
theorem integerField_le {tag n : Nat} (h : n < 2 ^ 64) : integerField tag n ≤ tag + 10 := by
  unfold integerField
  split
  · exact Nat.zero_le _
  · exact Nat.add_le_add_left (varintBytes_le_ten h) tag

/-- Lengthening a message by less than 128 bytes costs at most one byte of its length prefix. -/
theorem messageField_add_le (tag n : Nat) {d : Nat} (h : d < 128) :
    messageField tag (n + d) ≤ messageField tag n + (d + 1) := by
  have hLength := varintBytes_add_le (n := n) h
  unfold messageField
  omega

/-- A message field holds the message and at least its tag. -/
theorem le_messageField (tag n : Nat) : n + 1 ≤ messageField tag n := by
  have hLength : 1 ≤ varintBytes n := Nat.le_add_left 1 _
  unfold messageField
  omega

/-- A text that is present holds its bytes and at least its tag. -/
theorem le_textField (tag : Nat) {n : Nat} (h : n ≠ 0) : n + 1 ≤ textField tag n := by
  rw [textField, if_neg h]
  exact le_messageField tag n

end AdapterRuntime.Lib.Wire
