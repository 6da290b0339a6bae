import AdapterRuntime.Proof.Frames

/-!
# AdapterRuntime — releasing Work tokens

What `ReleaseWorkTokenLocked` and the release-all loop do to the four identity
tables: they take tokens out of `work_tokens_` and leave the other three alone.
-/

namespace AdapterRuntime.Model.Tables

open AdapterRuntime.Lib

variable (t : Tables) (workId : Text)

@[simp] theorem releaseWorkToken_replay : (t.releaseWorkToken workId).replay = t.replay := by
  unfold releaseWorkToken
  split <;> rfl

@[simp] theorem releaseWorkToken_sourceStreams :
    (t.releaseWorkToken workId).sourceStreams = t.sourceStreams := by
  unfold releaseWorkToken
  split <;> rfl

@[simp] theorem releaseWorkToken_closedSources :
    (t.releaseWorkToken workId).closedSources = t.closedSources := by
  unfold releaseWorkToken
  split <;> rfl

@[simp] theorem releaseWorkToken_sourceStateBytes :
    (t.releaseWorkToken workId).sourceStateBytes = t.sourceStateBytes := by
  unfold releaseWorkToken
  split <;> rfl

/-- `ReleaseWorkTokenLocked` erases the token. -/
theorem releaseWorkToken_workTokens :
    (t.releaseWorkToken workId).workTokens = t.workTokens.erase workId := by
  unfold releaseWorkToken
  split
  · rename_i hNone
    apply AList.ext
    exact (List.kerase_of_notMem_keys
      (fun hMem => (Store.notMem_iff_lookup_eq_none.mpr hNone) (AList.mem_keys.mpr hMem))).symm
  · rfl

/-- An invariant of every single release holds after the release-all loop. -/
theorem releaseAllWorkTokens_induction (P : Tables → Prop) (h : P t)
    (hStep : ∀ t workId, P t → P (t.releaseWorkToken workId)) : P t.releaseAllWorkTokens := by
  unfold releaseAllWorkTokens
  generalize t.workTokens.keys = keys
  induction keys generalizing t with
  | nil => exact h
  | cons k rest ih => exact ih (t.releaseWorkToken k) (hStep t k h)

@[simp] theorem releaseAllWorkTokens_replay : t.releaseAllWorkTokens.replay = t.replay :=
  releaseAllWorkTokens_induction t (fun u => u.replay = t.replay) rfl fun _ _ h => by simp [h]

@[simp] theorem releaseAllWorkTokens_sourceStreams :
    t.releaseAllWorkTokens.sourceStreams = t.sourceStreams :=
  releaseAllWorkTokens_induction t (fun u => u.sourceStreams = t.sourceStreams) rfl
    fun _ _ h => by simp [h]

@[simp] theorem releaseAllWorkTokens_closedSources :
    t.releaseAllWorkTokens.closedSources = t.closedSources :=
  releaseAllWorkTokens_induction t (fun u => u.closedSources = t.closedSources) rfl
    fun _ _ h => by simp [h]

@[simp] theorem releaseAllWorkTokens_sourceStateBytes :
    t.releaseAllWorkTokens.sourceStateBytes = t.sourceStateBytes :=
  releaseAllWorkTokens_induction t (fun u => u.sourceStateBytes = t.sourceStateBytes) rfl
    fun _ _ h => by simp [h]

/-- After the loop the tokens of the keys are gone, and the others are as before. -/
theorem lookup_foldl_releaseWorkToken (keys : List Text) (k : Text) :
    (keys.foldl releaseWorkToken t).workTokens.lookup k =
      if k ∈ keys then none else t.workTokens.lookup k := by
  induction keys generalizing t with
  | nil => simp
  | cons key rest ih =>
    rw [List.foldl_cons, ih, releaseWorkToken_workTokens, Store.lookup_erase_ite]
    by_cases hRest : k ∈ rest
    · simp [hRest]
    · by_cases hKey : k = key
      · simp [hKey]
      · simp [hRest, hKey]

/-- The loop empties the token table. -/
@[simp] theorem releaseAllWorkTokens_workTokens : t.releaseAllWorkTokens.workTokens = ∅ := by
  apply Store.eq_empty_of_lookup
  intro k
  unfold releaseAllWorkTokens
  rw [lookup_foldl_releaseWorkToken]
  split
  · rfl
  · rename_i hMem
    exact Store.notMem_iff_lookup_eq_none.mp fun hKey => hMem (AList.mem_keys.mp hKey)

end AdapterRuntime.Model.Tables
