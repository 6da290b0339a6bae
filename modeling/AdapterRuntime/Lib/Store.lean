import Mathlib

/-!
# Keyed stores and their totals

`Store κ α` is the finite map of the development: Mathlib's association list
with distinct keys, used at a constant value type. What is added here is the
arithmetic of accounting over a store: the number of entries and the total of
a natural-number weight, and how both move when an entry is added, replaced
or erased.
-/

namespace AdapterRuntime.Lib

/-- A finite map with distinct keys. -/
abbrev Store (κ α : Type) := AList (fun _ : κ => α)

namespace Store

variable {κ α : Type}

/-- The number of entries. -/
def size (s : Store κ α) : Nat := s.entries.length

/-- The sum of a weight over all values. -/
def total (f : α → Nat) (s : Store κ α) : Nat := (s.entries.map fun e => f e.2).sum

@[simp] theorem size_empty : size (∅ : Store κ α) = 0 := rfl

@[simp] theorem total_empty (f : α → Nat) : total f (∅ : Store κ α) = 0 := rfl

/-- The size is a total in which every entry counts one. -/
theorem size_eq_total (s : Store κ α) : size s = total (fun _ => 1) s := by
  simp [size, total]

/-- The number of entries with a property, as a total. -/
theorem length_filter_entries (p : α → Bool) (s : Store κ α) :
    (s.entries.filter fun e => p e.2).length = total (fun v => if p v then 1 else 0) s := by
  unfold total
  induction s.entries with
  | nil => rfl
  | cons e rest ih =>
    by_cases hp : p e.2 = true
    · simp [hp, ih, Nat.add_comm]
    · simp [hp, ih]

variable [DecidableEq κ]

/-- A key is absent exactly when its lookup fails. -/
theorem notMem_iff_lookup_eq_none {s : Store κ α} {k : κ} : k ∉ s ↔ s.lookup k = none :=
  AList.lookup_eq_none.symm

/-- A key that is found is present. -/
theorem mem_of_lookup_eq_some {s : Store κ α} {k : κ} {v : α} (h : s.lookup k = some v) :
    k ∈ s :=
  AList.lookup_isSome.mp (by simp [h])

/-- Lookup after insertion, by cases on the key. -/
theorem lookup_insert_ite (s : Store κ α) (k k' : κ) (v : α) :
    (s.insert k v).lookup k' = if k' = k then some v else s.lookup k' := by
  by_cases h : k' = k
  · subst h
    simp [AList.lookup_insert]
  · simp [AList.lookup_insert_ne h, h]

/-- Lookup after erasure, by cases on the key. -/
theorem lookup_erase_ite (s : Store κ α) (k k' : κ) :
    (s.erase k).lookup k' = if k' = k then none else s.lookup k' := by
  by_cases h : k' = k
  · subst h
    simp [AList.lookup_erase]
  · simp [AList.lookup_erase_ne h, h]

/-- A stored entry occurs in the entry list. -/
theorem mem_entries_of_lookup {s : Store κ α} {k : κ} {v : α} (h : s.lookup k = some v) :
    (⟨k, v⟩ : Sigma fun _ : κ => α) ∈ s.entries :=
  AList.mem_lookup_iff.mp h

/-- Erasing a stored entry takes exactly that entry out of the entry list. -/
theorem entries_perm_cons_erase {s : Store κ α} {k : κ} {v : α} (h : s.lookup k = some v) :
    s.entries.Perm (⟨k, v⟩ :: (s.erase k).entries) := by
  obtain ⟨b, l₁, l₂, -, hSplit, hErase⟩ :=
    List.exists_of_kerase (AList.mem_keys.mp (mem_of_lookup_eq_some h))
  have hb : b = v := by
    have hMem : (⟨k, b⟩ : Sigma fun _ : κ => α) ∈ s.entries := by
      rw [hSplit]
      simp
    have hLook : s.lookup k = some b := AList.mem_lookup_iff.mpr hMem
    rw [hLook] at h
    exact Option.some.inj h
  subst hb
  have hEntries : (s.erase k).entries = l₁ ++ l₂ := hErase
  rw [hEntries, hSplit]
  exact List.perm_middle

/-- Erasing an entry takes one off the size. -/
theorem size_erase {s : Store κ α} {k : κ} {v : α} (h : s.lookup k = some v) :
    size (s.erase k) + 1 = size s := by
  have := (entries_perm_cons_erase h).length_eq
  simpa [size] using this.symm

/-- Erasing an entry takes its weight off the total. -/
theorem total_erase (f : α → Nat) {s : Store κ α} {k : κ} {v : α} (h : s.lookup k = some v) :
    total f (s.erase k) + f v = total f s := by
  have := ((entries_perm_cons_erase h).map fun e => f e.2).sum_eq
  simp only [List.map_cons, List.sum_cons] at this
  unfold total
  omega

/-- A fresh entry adds one to the size. -/
theorem size_insert {s : Store κ α} {k : κ} {v : α} (h : s.lookup k = none) :
    size (s.insert k v) = size s + 1 := by
  simp [size, AList.insert_of_notMem (AList.lookup_eq_none.mp h)]

/-- A fresh entry adds its weight to the total. -/
theorem total_insert (f : α → Nat) {s : Store κ α} {k : κ} {v : α} (h : s.lookup k = none) :
    total f (s.insert k v) = total f s + f v := by
  simp [total, AList.insert_of_notMem (AList.lookup_eq_none.mp h), Nat.add_comm]

/-- Insertion puts its entry before the others, whether the key was stored or not. -/
theorem total_insert_eq (f : α → Nat) (s : Store κ α) (k : κ) (v : α) :
    total f (s.insert k v) = f v + total f (s.erase k) := by
  simp [total, AList.entries_insert, AList.erase]

/-- Replacing a stored entry moves the total by the difference of the weights. -/
theorem total_replace (f : α → Nat) {s : Store κ α} {k : κ} {v : α} (h : s.lookup k = some v)
    (v' : α) : total f (s.insert k v') + f v = total f s + f v' := by
  have hErase := total_erase f h
  rw [total_insert_eq]
  omega

/-- Replacing an entry keeps the size. -/
theorem size_replace {s : Store κ α} {k : κ} {v : α} (h : s.lookup k = some v) (v' : α) :
    size (s.insert k v') = size s := by
  have hTotal := total_replace (fun _ => 1) h v'
  rw [size_eq_total, size_eq_total]
  omega

/-- The weight of a stored entry is part of the total. -/
theorem le_total (f : α → Nat) {s : Store κ α} {k : κ} {v : α} (h : s.lookup k = some v) :
    f v ≤ total f s := by
  have := total_erase f h
  omega

/-- A store in which every key looks up `none` is empty. -/
theorem eq_empty_of_lookup {s : Store κ α} (h : ∀ k, s.lookup k = none) : s = ∅ := by
  apply AList.ext
  cases hE : s.entries with
  | nil => rfl
  | cons e rest =>
    have hMem : (⟨e.1, e.2⟩ : Sigma fun _ : κ => α) ∈ s.entries := by simp [hE]
    have hLook : s.lookup e.1 = some e.2 := AList.mem_lookup_iff.mpr hMem
    simp [h] at hLook

end Store

end AdapterRuntime.Lib
