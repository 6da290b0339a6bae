import Mathlib

/-!
# Mutual exclusion by a flag

A lock is a flag, and each party is inside its critical section or not. A step is the turn of
one party: it stays where it is, it enters while the flag is clear and sets it, or it leaves and
clears it. Nothing else touches the flag.

* `Mutex.Guarded.turn` — at most one party is inside, and the flag is set exactly while one is.
-/

namespace AdapterRuntime.Lib

/-- `locked` is the flag, and `inside` says who is in the critical section. -/
structure Mutex (H : Type) where
  locked : Bool
  inside : H → Bool

namespace Mutex

variable {H : Type} {m m' : Mutex H} {p : H}

/-- What a turn does to the flag and to the place of the party that takes it: first both before
the turn, then both after it. -/
inductive Turn : Bool → Bool → Bool → Bool → Prop
  | stay {locked inside : Bool} : Turn locked inside locked inside
  | enter {inside : Bool} : Turn false inside true true
  | leave {locked : Bool} : Turn locked true false false

/-- The lock does its work. -/
structure Guarded (m : Mutex H) : Prop where
  sole : ∀ p q, m.inside p = true → m.inside q = true → p = q
  held : m.locked = true ↔ ∃ p, m.inside p = true

/-- Nobody is inside while the flag is clear. -/
theorem Guarded.outside (h : m.Guarded) (hFree : m.locked = false) (q : H) :
    m.inside q = false := by
  by_contra hInside
  have hLocked := h.held.mpr ⟨q, by simpa using hInside⟩
  rw [hFree] at hLocked
  cases hLocked

/-- Whoever is inside, nobody else is. -/
theorem Guarded.alone (h : m.Guarded) (hInside : m.inside p = true) {q : H} (hNe : q ≠ p) :
    m.inside q = false := by
  by_contra hOther
  exact hNe (h.sole q p (by simpa using hOther) hInside)

/-- Exactly one party is inside. -/
theorem Guarded.of_sole (hLocked : m.locked = true) (hInside : m.inside p = true)
    (hOthers : ∀ q, q ≠ p → m.inside q = false) : m.Guarded := by
  have hSole : ∀ q, m.inside q = true → q = p := by
    intro q hq
    by_contra hNe
    rw [hOthers q hNe] at hq
    cases hq
  exact ⟨fun q r hq hr => (hSole q hq).trans (hSole r hr).symm,
    fun _ => ⟨p, hInside⟩, fun _ => hLocked⟩

/-- Nobody is inside. -/
theorem Guarded.of_free (hLocked : m.locked = false) (hNone : ∀ q, m.inside q = false) :
    m.Guarded := by
  refine ⟨fun q _ hq => ?_, fun h => ?_, fun ⟨q, hq⟩ => ?_⟩
  · rw [hNone q] at hq
    cases hq
  · rw [hLocked] at h
    cases h
  · rw [hNone q] at hq
    cases hq

/-- A turn of one party keeps the lock working. -/
theorem Guarded.turn (h : m.Guarded) (hOthers : ∀ q, q ≠ p → m'.inside q = m.inside q)
    (hTurn : Turn m.locked (m.inside p) m'.locked (m'.inside p)) : m'.Guarded := by
  generalize hL : m.locked = l, hI : m.inside p = i, hL' : m'.locked = l',
    hI' : m'.inside p = i' at hTurn
  cases hTurn with
  | stay =>
    have hInside : m'.inside = m.inside := by
      funext q
      by_cases hq : q = p
      · rw [hq, hI, hI']
      · exact hOthers q hq
    refine ⟨?_, ?_⟩
    · rw [hInside]
      exact h.sole
    · rw [hInside, hL', ← hL]
      exact h.held
  | enter =>
    refine .of_sole hL' hI' fun q hq => ?_
    rw [hOthers q hq]
    exact h.outside hL q
  | leave =>
    refine .of_free hL' fun q => ?_
    by_cases hq : q = p
    · rw [hq, hI']
    · rw [hOthers q hq]
      exact h.alone hI hq

end Mutex

end AdapterRuntime.Lib
