import AdapterRuntime.Lib.Machine

/-!
# Completion under every schedule

Some actions of a machine are turns of its own threads, the others come from outside. `Completes`
says that a state is on its way to a goal: whatever comes from outside, a thread can always take
a turn, and whichever turns are taken, finitely many of them lead to the goal.

* `Machine.Completes.of_measure` — the rule for it: the threads never get stuck, every turn makes
  a measure smaller, and nothing from outside makes it larger.
-/

namespace AdapterRuntime.Lib.Machine

variable {σ α β : Type} {M : Machine σ α} {turn : α → Prop} {goal : σ → Prop}

/-- A run of actions from outside. -/
abbrev Outside (M : Machine σ α) (turn : α → Prop) : σ → σ → Prop :=
  M.Path fun _ a => ¬turn a

/-- The goal holds, or whatever comes from outside a turn can be taken, and every turn that is
taken leads to a state that completes. -/
inductive Completes (M : Machine σ α) (turn : α → Prop) (goal : σ → Prop) : σ → Prop
  | here {s : σ} (hGoal : goal s) : Completes M turn goal s
  | later {s : σ}
      (hTurn : ∀ s₁, M.Outside turn s s₁ → ∃ a s', turn a ∧ M.step s₁ a = some s')
      (hNext : ∀ s₁, M.Outside turn s s₁ → ∀ a s', turn a → M.step s₁ a = some s' →
        Completes M turn goal s') : Completes M turn goal s

/-- The measure rule. `I` holds until the goal is met. -/
theorem Completes.of_measure [Preorder β] [WellFoundedLT β] {I : σ → Prop} (μ : σ → β)
    (hMore : ∀ s, I s → ∃ a s', turn a ∧ M.step s a = some s')
    (hTurn : ∀ s a s', I s → turn a → M.step s a = some s' → (goal s' ∨ I s') ∧ μ s' < μ s)
    (hOutside : ∀ s a s', I s → ¬turn a → M.step s a = some s' → I s' ∧ μ s' ≤ μ s)
    {s : σ} (hI : I s) : M.Completes turn goal s := by
  -- what comes from outside keeps the invariant and the measure
  have hPath : ∀ {s s₁ : σ}, I s → M.Outside turn s s₁ → I s₁ ∧ μ s₁ ≤ μ s := by
    intro s s₁ hs hRun
    induction hRun with
    | refl => exact ⟨hs, le_refl _⟩
    | step _ hCond hStep ih =>
      obtain ⟨hI₁, hLe⟩ := hOutside _ _ _ ih.1 hCond hStep
      exact ⟨hI₁, hLe.trans ih.2⟩
  have hAll : ∀ v : β, ∀ s, I s → μ s = v → M.Completes turn goal s := by
    intro v
    induction v using WellFoundedLT.induction with
    | ind v ih =>
      intro s hs hv
      refine .later (fun s₁ hRun => hMore s₁ (hPath hs hRun).1) ?_
      intro s₁ hRun a s' hA hStep
      obtain ⟨hI₁, hLe⟩ := hPath hs hRun
      obtain ⟨hCases, hLt⟩ := hTurn s₁ a s' hI₁ hA hStep
      rcases hCases with hGoal | hI'
      · exact .here hGoal
      · exact ih (μ s') (hv ▸ hLt.trans_le hLe) s' hI' rfl
  exact hAll _ s hI rfl

end AdapterRuntime.Lib.Machine
