import Mathlib

/-!
# Languages read one character at a time

Lemmas that let a scanner be compared with a regular language: membership of a
nonempty word in a product whose first factor is a character class, and the
unfolding of a Kleene star.

* `cons_mem_oneOf_mul`, `nil_notMem_oneOf_mul` — a class in front of a language.
* `mem_singleton_mul` — a fixed word in front of a language.
* `mem_kstar_iff` — a star is empty or starts with one of its words.
-/

namespace AdapterRuntime.Lib

open Computability

variable {α : Type} {p : α → Bool} {l : Language α} {c : α} {w : List α}

/-- The words of one character of the class `p`. -/
def oneOf (p : α → Bool) : Language α := {w | ∃ c, p c = true ∧ w = [c]}

/-- A word of `oneOf p * l` is a letter with `p` followed by a word of `l`. -/
@[simp] theorem cons_mem_oneOf_mul : c :: w ∈ oneOf p * l ↔ p c = true ∧ w ∈ l := by
  rw [Language.mem_mul]
  constructor
  · rintro ⟨_, ⟨d, hd, rfl⟩, rest, hRest, hEq⟩
    obtain ⟨rfl, rfl⟩ := List.cons.inj hEq
    exact ⟨hd, hRest⟩
  · rintro ⟨hc, hw⟩
    exact ⟨[c], ⟨c, hc, rfl⟩, w, hw, rfl⟩

/-- Every word of `oneOf p * l` has a first letter. -/
@[simp] theorem nil_notMem_oneOf_mul : [] ∉ oneOf p * l := by
  rw [Language.mem_mul]
  rintro ⟨_, ⟨d, _, rfl⟩, rest, _, hEq⟩
  cases hEq

/-- A fixed word in front of a language. -/
theorem mem_singleton_mul {v : List α} :
    w ∈ ({v} : Language α) * l ↔ ∃ rest ∈ l, w = v ++ rest := by
  rw [Language.mem_mul]
  constructor
  · rintro ⟨_, rfl, rest, hRest, rfl⟩
    exact ⟨rest, hRest, rfl⟩
  · rintro ⟨rest, hRest, rfl⟩
    exact ⟨v, rfl, rest, hRest, rfl⟩

/-- A word of a star is empty, or one of the words of the language and the rest. -/
theorem mem_kstar_iff : w ∈ l∗ ↔ w = [] ∨ w ∈ l * l∗ := by
  nth_rewrite 1 [← Language.one_add_self_mul_kstar_eq_kstar]
  rw [Language.mem_add, Language.mem_one]

end AdapterRuntime.Lib
