import Mathlib

/-!
# Queues with a counter kept beside them

A queue whose entries have a weight, a counter that is maintained by hand, and
two bounds. `Tally` says that the counter is the sum of the weights and that
both bounds hold; an owner that only pushes what fits, and takes off the front
what it charged for it, keeps it.

* `Tally.push`, `Tally.pop`, `Tally.nil` — the three ways a queue changes.
* `Tally.covers` — the counter covers every entry, so that no subtraction of a
  weight can run below zero.
-/

namespace AdapterRuntime.Lib

variable {α : Type}

/-- The counter of a queue is exact and within its bound, and so is its length. -/
structure Tally (weight : α → Nat) (maximum maximumBytes : Nat) (queue : List α)
    (bytes : Nat) : Prop where
  exact : bytes = (queue.map weight).sum
  bytes : bytes ≤ maximumBytes
  entries : queue.length ≤ maximum

namespace Tally

variable {weight : α → Nat} {maximum maximumBytes bytes : Nat} {queue rest : List α} {entry : α}

/-- The empty queue is tallied. -/
protected theorem nil : Tally weight maximum maximumBytes [] 0 where
  exact := rfl
  bytes := Nat.zero_le _
  entries := Nat.zero_le _

/-- Appending an entry within both limits. -/
theorem push (h : Tally weight maximum maximumBytes queue bytes)
    (hRoom : queue.length < maximum) (hFits : bytes + weight entry ≤ maximumBytes) :
    Tally weight maximum maximumBytes (queue ++ [entry]) (bytes + weight entry) where
  exact := by simp [h.exact]
  bytes := hFits
  entries := by
    simp only [List.length_append, List.length_singleton]
    omega

/-- The counter covers each entry of the queue. -/
theorem covers (h : Tally weight maximum maximumBytes queue bytes) (hMem : entry ∈ queue) :
    weight entry ≤ bytes := by
  rw [h.exact]
  exact List.single_le_sum (fun _ _ => Nat.zero_le _) _ (List.mem_map_of_mem hMem)

/-- Taking the first entry. -/
theorem pop (h : Tally weight maximum maximumBytes (entry :: rest) bytes) :
    Tally weight maximum maximumBytes rest (bytes - weight entry) where
  exact := by
    have hExact := h.exact
    simp only [List.map_cons, List.sum_cons] at hExact
    omega
  bytes := by
    have hBytes := h.bytes
    omega
  entries := by
    have hEntries := h.entries
    simp only [List.length_cons] at hEntries
    omega

end Tally

end AdapterRuntime.Lib
