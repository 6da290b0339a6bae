import Mathlib

/-!
# Brackets in an event log

A log lists events, the newest one first. Some events open a bracket and some
close it; `isOpen` says whether the log has an opening that has not been closed
since.

* `isOpen_cons_open`, `isOpen_cons_close`, `isOpen_cons_other` — how the newest
  event moves it.
* `isOpen_mono` — more openings keep it open.
-/

namespace AdapterRuntime.Lib

variable {ε : Type}

/-- The newest event that opens or closes is one that opens. -/
def isOpen (opens closes : ε → Bool) : List ε → Bool
  | [] => false
  | event :: past => if opens event then true else if closes event then false
    else isOpen opens closes past

variable {opens opens' closes : ε → Bool} {event : ε} {past : List ε}

@[simp] theorem isOpen_nil : isOpen opens closes [] = false := rfl

/-- An opening event leaves a bracket open. -/
theorem isOpen_cons_open (h : opens event = true) : isOpen opens closes (event :: past) = true := by
  rw [isOpen, if_pos h]

/-- A closing event leaves none open. -/
theorem isOpen_cons_close (hOpens : opens event = false) (hCloses : closes event = true) :
    isOpen opens closes (event :: past) = false := by
  rw [isOpen, if_neg (by simp [hOpens]), if_pos hCloses]

/-- Any other event changes nothing. -/
theorem isOpen_cons_other (hOpens : opens event = false) (hCloses : closes event = false) :
    isOpen opens closes (event :: past) = isOpen opens closes past := by
  rw [isOpen, if_neg (by simp [hOpens]), if_neg (by simp [hCloses])]

/-- A bracket that is open stays so when more events open it. -/
theorem isOpen_mono (hMono : ∀ event, opens event = true → opens' event = true)
    {log : List ε} (h : isOpen opens closes log = true) : isOpen opens' closes log = true := by
  induction log with
  | nil => cases h
  | cons event past ih =>
    cases hOpens' : opens' event with
    | true => exact isOpen_cons_open hOpens'
    | false =>
      have hOpens : opens event = false := by
        by_contra hNot
        rw [hMono event (by simpa using hNot)] at hOpens'
        cases hOpens'
      cases hCloses : closes event with
      | true =>
        rw [isOpen_cons_close hOpens hCloses] at h
        cases h
      | false =>
        rw [isOpen_cons_other hOpens hCloses] at h
        rw [isOpen_cons_other hOpens' hCloses]
        exact ih h

end AdapterRuntime.Lib
