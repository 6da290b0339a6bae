import Mathlib

/-!
# Custody of items

Items with a key are kept in one place until they are taken out. A holder that takes items
keeps them in a list of its own and settles them one by one; settling an item may write its
key to a log. `Custody` is the state of such a system and `Move` a step of it; many holders
may take from the one place.

* `Sole.move` — a key is in the place, with one holder, once, or in the log, once.
* `Gone.move` — a key that has left without being taken never comes back and is never logged.
* `Due.move` — a taken item that is to be logged stays with its holder until it is.
-/

namespace AdapterRuntime.Lib

/-- `seen` are the keys used so far, `live` those in place, `held` the items of each holder
and `log` the keys of settled items, newest first. -/
structure Custody (α ι H : Type) where
  seen : ι → Prop
  live : ι → Prop
  held : H → List α
  log : List ι

namespace Custody

variable {α ι H : Type} [DecidableEq H] {key : α → ι} {logs : α → Bool} {s s' : Custody α ι H}

/-- What the log gains when an item is settled. -/
def entry (key : α → ι) (logs : α → Bool) (x : α) : List ι := if logs x then [key x] else []

/-- A step: keys leave the place or enter it for the first time, a free holder takes items
out of it, or a holder settles the first of its items. -/
inductive Move (key : α → ι) (logs : α → Bool) (s s' : Custody α ι H) : Prop
  | keep (hSeen : ∀ i, s.seen i → s'.seen i)
      (hLive : ∀ i, s'.live i → s.live i ∨ (¬s.seen i ∧ s'.seen i))
      (hHeld : s'.held = s.held) (hLog : s'.log = s.log)
  | take {h : H} {taken : List α} (hSeen : ∀ i, s.seen i → s'.seen i)
      (hLive : ∀ i, s'.live i → s.live i ∧ i ∉ taken.map key)
      (hTaken : ∀ x ∈ taken, s.live (key x)) (hNodup : (taken.map key).Nodup)
      (hFree : s.held h = []) (hHeld : s'.held = Function.update s.held h taken)
      (hLog : s'.log = s.log)
  | settle {h : H} {x : α} {rest : List α} (hSeen : ∀ i, s.seen i → s'.seen i)
      (hLive : ∀ i, s'.live i → s.live i) (hBefore : s.held h = x :: rest)
      (hHeld : s'.held = Function.update s.held h rest)
      (hLog : s'.log = entry key logs x ++ s.log)

/-- A key is used, at most once, in one of the three roles. -/
structure Sole (key : α → ι) (s : Custody α ι H) : Prop where
  liveSeen : ∀ i, s.live i → s.seen i
  heldSeen : ∀ h, ∀ x ∈ s.held h, s.seen (key x)
  logSeen : ∀ i ∈ s.log, s.seen i
  heldDead : ∀ h, ∀ x ∈ s.held h, ¬s.live (key x)
  logDead : ∀ i ∈ s.log, ¬s.live i
  logFree : ∀ h, ∀ x ∈ s.held h, key x ∉ s.log
  nodup : ∀ h, ((s.held h).map key).Nodup
  apart : ∀ h h', h ≠ h' → ∀ x ∈ s.held h, ∀ y ∈ s.held h', key x ≠ key y
  logNodup : s.log.Nodup

/-- The key was used and is in none of the three roles. -/
structure Gone (key : α → ι) (s : Custody α ι H) (i : ι) : Prop where
  seen : s.seen i
  dead : ¬s.live i
  free : ∀ h, ∀ x ∈ s.held h, key x ≠ i
  unlogged : i ∉ s.log

/-- The item is with a holder, or its key is in the log. -/
def Due (key : α → ι) (s : Custody α ι H) (x : α) : Prop :=
  (∃ h, x ∈ s.held h) ∨ key x ∈ s.log

/-- Every entry logged for `x` carries its key. -/
theorem mem_entry {x : α} {i : ι} (h : i ∈ entry key logs x) : i = key x := by
  unfold entry at h
  split at h
  · simpa using h
  · cases h

/-- An item of a holder after one of them has taken some. -/
theorem mem_update {held : H → List α} {h k : H} {items : List α} {x : α}
    (hMem : x ∈ Function.update held h items k) : (k = h ∧ x ∈ items) ∨ (k ≠ h ∧ x ∈ held k) := by
  by_cases hEq : k = h
  · subst hEq
    rw [Function.update_self] at hMem
    exact .inl ⟨rfl, hMem⟩
  · rw [Function.update_of_ne hEq] at hMem
    exact .inr ⟨hEq, hMem⟩

omit [DecidableEq H] in
/-- A step without takings keeps the keys in their roles. -/
theorem Sole.keep (hSole : s.Sole key) (hSeen : ∀ i, s.seen i → s'.seen i)
    (hLive : ∀ i, s'.live i → s.live i ∨ (¬s.seen i ∧ s'.seen i)) (hHeld : s'.held = s.held)
    (hLog : s'.log = s.log) : s'.Sole key where
  liveSeen i hNow := (hLive i hNow).elim (fun hWas => hSeen i (hSole.liveSeen i hWas)) And.right
  heldSeen h x hMem := hSeen _ (hSole.heldSeen h x (hHeld ▸ hMem))
  logSeen i hMem := hSeen i (hSole.logSeen i (hLog ▸ hMem))
  heldDead h x hMem hNow := by
    rw [hHeld] at hMem
    obtain hWas | ⟨hFresh, -⟩ := hLive _ hNow
    · exact hSole.heldDead h x hMem hWas
    · exact hFresh (hSole.heldSeen h x hMem)
  logDead i hMem hNow := by
    rw [hLog] at hMem
    obtain hWas | ⟨hFresh, -⟩ := hLive i hNow
    · exact hSole.logDead i hMem hWas
    · exact hFresh (hSole.logSeen i hMem)
  logFree h x hMem := by
    rw [hHeld] at hMem
    rw [hLog]
    exact hSole.logFree h x hMem
  nodup h := hHeld ▸ hSole.nodup h
  apart := hHeld ▸ hSole.apart
  logNodup := hLog ▸ hSole.logNodup

/-- What is taken was in place, so nobody held it and it was not logged. -/
theorem Sole.take (hSole : s.Sole key) {h : H} {taken : List α}
    (hSeen : ∀ i, s.seen i → s'.seen i) (hLive : ∀ i, s'.live i → s.live i ∧ i ∉ taken.map key)
    (hTaken : ∀ x ∈ taken, s.live (key x)) (hNodup : (taken.map key).Nodup)
    (hHeld : s'.held = Function.update s.held h taken) (hLog : s'.log = s.log) :
    s'.Sole key where
  liveSeen i hNow := hSeen i (hSole.liveSeen i (hLive i hNow).1)
  heldSeen k x hMem := by
    obtain ⟨-, hMem⟩ | ⟨-, hMem⟩ := mem_update (hHeld ▸ hMem)
    · exact hSeen _ (hSole.liveSeen _ (hTaken x hMem))
    · exact hSeen _ (hSole.heldSeen k x hMem)
  logSeen i hMem := hSeen i (hSole.logSeen i (hLog ▸ hMem))
  heldDead k x hMem hNow := by
    obtain ⟨-, hMem⟩ | ⟨-, hMem⟩ := mem_update (hHeld ▸ hMem)
    · exact (hLive _ hNow).2 (List.mem_map_of_mem hMem)
    · exact hSole.heldDead k x hMem (hLive _ hNow).1
  logDead i hMem hNow := hSole.logDead i (hLog ▸ hMem) (hLive i hNow).1
  logFree k x hMem := by
    rw [hLog]
    obtain ⟨-, hMem⟩ | ⟨-, hMem⟩ := mem_update (hHeld ▸ hMem)
    · exact fun hLogged => hSole.logDead _ hLogged (hTaken x hMem)
    · exact hSole.logFree k x hMem
  nodup k := by
    rw [hHeld]
    by_cases hEq : k = h
    · subst hEq
      rw [Function.update_self]
      exact hNodup
    · rw [Function.update_of_ne hEq]
      exact hSole.nodup k
  apart k k' hNe x hMem y hMem' := by
    obtain ⟨hk, hMem⟩ | ⟨-, hMem⟩ := mem_update (hHeld ▸ hMem)
    · obtain ⟨hk', -⟩ | ⟨-, hMem'⟩ := mem_update (hHeld ▸ hMem')
      · exact absurd (hk.trans hk'.symm) hNe
      · exact fun hEq => hSole.heldDead k' y hMem' (hEq ▸ hTaken x hMem)
    · obtain ⟨-, hMem'⟩ | ⟨-, hMem'⟩ := mem_update (hHeld ▸ hMem')
      · exact fun hEq => hSole.heldDead k x hMem (hEq ▸ hTaken y hMem')
      · exact hSole.apart k k' hNe x hMem y hMem'
  logNodup := hLog ▸ hSole.logNodup

/-- The key of a settled item goes from its holder to the log, or out. -/
theorem Sole.settle (hSole : s.Sole key) {h : H} {x : α} {rest : List α}
    (hSeen : ∀ i, s.seen i → s'.seen i) (hLive : ∀ i, s'.live i → s.live i)
    (hBefore : s.held h = x :: rest) (hHeld : s'.held = Function.update s.held h rest)
    (hLog : s'.log = entry key logs x ++ s.log) : s'.Sole key := by
  have hFirst : x ∈ s.held h := by simp [hBefore]
  have hRest : ∀ y ∈ rest, y ∈ s.held h := fun y hMem => by simp [hBefore, hMem]
  have hOrder := hSole.nodup h
  rw [hBefore, List.map_cons, List.nodup_cons] at hOrder
  -- an item that is still held was held before, under another key than the settled one
  have hStill : ∀ k, ∀ y ∈ s'.held k, y ∈ s.held k ∧ key y ≠ key x := by
    intro k y hMem
    obtain ⟨hk, hMem⟩ | ⟨hk, hMem⟩ := mem_update (hHeld ▸ hMem)
    · subst hk
      exact ⟨hRest y hMem, fun hEq => hOrder.1 (hEq ▸ List.mem_map_of_mem hMem)⟩
    · exact ⟨hMem, hSole.apart k h hk y hMem x hFirst⟩
  have hLogged : ∀ i ∈ s'.log, i = key x ∨ i ∈ s.log := by
    intro i hMem
    rw [hLog, List.mem_append] at hMem
    exact hMem.imp_left mem_entry
  constructor
  · exact fun i hNow => hSeen i (hSole.liveSeen i (hLive i hNow))
  · exact fun k y hMem => hSeen _ (hSole.heldSeen k y (hStill k y hMem).1)
  · intro i hMem
    obtain rfl | hOld := hLogged i hMem
    · exact hSeen _ (hSole.heldSeen h x hFirst)
    · exact hSeen i (hSole.logSeen i hOld)
  · exact fun k y hMem hNow => hSole.heldDead k y (hStill k y hMem).1 (hLive _ hNow)
  · intro i hMem hNow
    obtain rfl | hOld := hLogged i hMem
    · exact hSole.heldDead h x hFirst (hLive _ hNow)
    · exact hSole.logDead i hOld (hLive i hNow)
  · intro k y hMem hIn
    obtain ⟨hWas, hNe⟩ := hStill k y hMem
    obtain hEq | hOld := hLogged _ hIn
    · exact hNe hEq
    · exact hSole.logFree k y hWas hOld
  · intro k
    rw [hHeld]
    by_cases hEq : k = h
    · subst hEq
      rw [Function.update_self]
      exact hOrder.2
    · rw [Function.update_of_ne hEq]
      exact hSole.nodup k
  · intro k k' hNe y hMem z hMem'
    exact hSole.apart k k' hNe y (hStill k y hMem).1 z (hStill k' z hMem').1
  · rw [hLog]
    unfold entry
    split
    · exact List.nodup_cons.mpr ⟨hSole.logFree h x hFirst, hSole.logNodup⟩
    · exact hSole.logNodup

/-- Every step keeps each key in at most one role, at most once. -/
theorem Sole.move (hSole : s.Sole key) (h : Move key logs s s') : s'.Sole key := by
  cases h with
  | keep hSeen hLive hHeld hLog => exact hSole.keep hSeen hLive hHeld hLog
  | take hSeen hLive hTaken hNodup _ hHeld hLog =>
    exact hSole.take hSeen hLive hTaken hNodup hHeld hLog
  | settle hSeen hLive hBefore hHeld hLog => exact hSole.settle hSeen hLive hBefore hHeld hLog

/-- A key that is gone stays so. -/
theorem Gone.move {i : ι} (hGone : s.Gone key i) (h : Move key logs s s') : s'.Gone key i := by
  cases h with
  | keep hSeen hLive hHeld hLog =>
    refine ⟨hSeen i hGone.seen, fun hNow => ?_, hHeld ▸ hGone.free, hLog ▸ hGone.unlogged⟩
    obtain hWas | ⟨hFresh, -⟩ := hLive i hNow
    · exact hGone.dead hWas
    · exact hFresh hGone.seen
  | take hSeen hLive hTaken _ _ hHeld hLog =>
    refine ⟨hSeen i hGone.seen, fun hNow => hGone.dead (hLive i hNow).1, fun k x hMem => ?_,
      hLog ▸ hGone.unlogged⟩
    obtain ⟨-, hMem⟩ | ⟨-, hMem⟩ := mem_update (hHeld ▸ hMem)
    · exact fun hEq => hGone.dead (hEq ▸ hTaken x hMem)
    · exact hGone.free k x hMem
  | @settle h x rest hSeen hLive hBefore hHeld hLog =>
    refine ⟨hSeen i hGone.seen, fun hNow => hGone.dead (hLive i hNow), fun k y hMem => ?_, ?_⟩
    · obtain ⟨hk, hMem⟩ | ⟨-, hMem⟩ := mem_update (hHeld ▸ hMem)
      · exact hGone.free h y (by simp [hBefore, hMem])
      · exact hGone.free k y hMem
    · rw [hLog, List.mem_append, not_or]
      refine ⟨fun hMem => ?_, hGone.unlogged⟩
      exact hGone.free h x (by simp [hBefore]) (mem_entry hMem).symm

/-- A taken item that is to be logged stays with its holder until it is. -/
theorem Due.move {x : α} (hDue : s.Due key x) (hLogs : logs x = true) (h : Move key logs s s') :
    s'.Due key x := by
  cases h with
  | keep _ _ hHeld hLog =>
    unfold Due
    rw [hHeld, hLog]
    exact hDue
  | @take h taken _ _ _ _ hFree hHeld hLog =>
    obtain ⟨k, hMem⟩ | hIn := hDue
    · refine .inl ⟨k, ?_⟩
      have hNe : k ≠ h := by
        rintro rfl
        rw [hFree] at hMem
        cases hMem
      rw [hHeld, Function.update_of_ne hNe]
      exact hMem
    · exact .inr (hLog ▸ hIn)
  | @settle h y rest _ _ hBefore hHeld hLog =>
    obtain ⟨k, hMem⟩ | hIn := hDue
    · by_cases hk : k = h
      · subst hk
        rw [hBefore, List.mem_cons] at hMem
        obtain rfl | hMem := hMem
        · refine .inr ?_
          simp [hLog, entry, hLogs]
        · refine .inl ⟨k, ?_⟩
          rw [hHeld, Function.update_self]
          exact hMem
      · refine .inl ⟨k, ?_⟩
        rw [hHeld, Function.update_of_ne hk]
        exact hMem
    · exact .inr (by rw [hLog]; exact List.mem_append_right _ hIn)

end Custody

end AdapterRuntime.Lib
