import Mathlib

/-!
# Executable labelled machines

A `Machine` is an initial state and a partial step function: `step s a` is
`none` when the action `a` is not enabled in `s`. `Reaches P s` says that `s`
is reached from the initial state by steps that all meet the side condition
`P`, a predicate on the state before the step and the action taken. The
unconditional notion is `Reachable`.

* `Machine.Reaches.invariant` — an initial predicate preserved by every
  admissible step holds in every state reached.
* `Machine.Path` — the same from any state; `Machine.Path.preserves` is its
  invariant rule.
* `Machine.Run` — a run with the steps it took, for properties of whole runs;
  `Machine.record` is its executable counterpart.
* `Machine.runWith` — the executable counterpart, for runs on fixed inputs;
  `Machine.reaches_of_runWith` turns a successful run into `Reaches`.
-/

namespace AdapterRuntime.Lib

/-- An initial state and a partial, executable step function. -/
structure Machine (σ α : Type) where
  init : σ
  step : σ → α → Option σ

namespace Machine

variable {σ α : Type} {M : Machine σ α} {P Q : σ → α → Prop}

/-- States reached from `init` by steps that all meet `P`. -/
inductive Reaches (M : Machine σ α) (P : σ → α → Prop) : σ → Prop
  | init : Reaches M P M.init
  | step {s s' : σ} {a : α} (hPrev : Reaches M P s) (hCond : P s a)
      (hStep : M.step s a = some s') : Reaches M P s'

/-- States reached by any steps. -/
def Reachable (M : Machine σ α) (s : σ) : Prop :=
  M.Reaches (fun _ _ => True) s

/-- Fewer side conditions reach more states. -/
theorem Reaches.mono {s : σ} (hPQ : ∀ s a, P s a → Q s a) (h : M.Reaches P s) :
    M.Reaches Q s := by
  induction h with
  | init => exact .init
  | step _ hCond hStep ih => exact .step ih (hPQ _ _ hCond) hStep

/-- A checked run is a run. -/
theorem Reaches.reachable {s : σ} (h : M.Reaches P s) : M.Reachable s :=
  h.mono fun _ _ _ => trivial

/-- A step from a reachable state leads to a reachable state. -/
theorem Reachable.step {s s' : σ} {a : α} (h : M.Reachable s)
    (hStep : M.step s a = some s') : M.Reachable s' :=
  Reaches.step h trivial hStep

/-- The invariant rule. The step obligation may use that its source state is
itself reached, so invariants proved earlier are available there. -/
theorem Reaches.invariant {I : σ → Prop} (hInit : I M.init)
    (hStep : ∀ s a s', M.Reaches P s → I s → P s a → M.step s a = some s' → I s')
    {s : σ} (h : M.Reaches P s) : I s := by
  induction h with
  | init => exact hInit
  | step hPrev hCond hS ih => exact hStep _ _ _ hPrev ih hCond hS

/-- The invariant rule without side conditions. -/
theorem Reachable.invariant {I : σ → Prop} (hInit : I M.init)
    (hStep : ∀ s a s', M.Reachable s → I s → M.step s a = some s' → I s')
    {s : σ} (h : M.Reachable s) : I s :=
  Reaches.invariant hInit (fun s a s' hR hI _ hS => hStep s a s' hR hI hS) h

/-- A run from one state to another by steps that all meet `P`. -/
inductive Path (M : Machine σ α) (P : σ → α → Prop) (s : σ) : σ → Prop
  | refl : Path M P s s
  | step {s₁ s₂ : σ} {a : α} (hPrev : Path M P s s₁) (hCond : P s₁ a)
      (hStep : M.step s₁ a = some s₂) : Path M P s s₂

/-- A checked path from a reachable state ends in one. -/
theorem Path.reachable {s s' : σ} (h : M.Path P s s') (hS : M.Reachable s) : M.Reachable s' := by
  induction h with
  | refl => exact hS
  | step _ _ hStep ih => exact ih.step hStep

/-- What every admissible step from a reachable state preserves, a run preserves. -/
theorem Path.preserves {I : σ → Prop} {s s' : σ}
    (hStep : ∀ s a s', M.Reachable s → I s → P s a → M.step s a = some s' → I s')
    (hS : M.Reachable s) (hI : I s) (h : M.Path P s s') : I s' := by
  induction h with
  | refl => exact hI
  | step hPrev hCond hS' ih => exact hStep _ _ _ (hPrev.reachable hS) ih hCond hS'

/-- A run from the initial state: the steps it took, newest first, each with the
state before it, and the state it leads to. -/
inductive Run (M : Machine σ α) : List (σ × α) → σ → Prop
  | init : Run M [] M.init
  | step {steps : List (σ × α)} {s s' : σ} {a : α} (hPrev : Run M steps s)
      (hStep : M.step s a = some s') : Run M ((s, a) :: steps) s'

/-- The last state of a run is reachable. -/
theorem Run.reachable {steps : List (σ × α)} {s : σ} (h : M.Run steps s) : M.Reachable s := by
  induction h with
  | init => exact Reaches.init
  | step _ hStep ih => exact ih.step hStep

/-- A run whose steps all meet `P` leads to a state that such steps reach. -/
theorem Run.reaches {steps : List (σ × α)} {s : σ} (h : M.Run steps s)
    (hCond : ∀ e ∈ steps, P e.1 e.2) : M.Reaches P s := by
  induction h with
  | init => exact .init
  | step _ hStep ih =>
    exact .step (ih fun e he => hCond e (List.mem_cons_of_mem _ he))
      (hCond _ List.mem_cons_self) hStep

/-- The invariant rule for properties of the run so far. -/
theorem Run.invariant {I : List (σ × α) → σ → Prop} (hInit : I [] M.init)
    (hStep : ∀ steps s a s', M.Run steps s → I steps s → M.step s a = some s' →
      I ((s, a) :: steps) s')
    {steps : List (σ × α)} {s : σ} (h : M.Run steps s) : I steps s := by
  induction h with
  | init => exact hInit
  | step hPrev hS ih => exact hStep _ _ _ _ hPrev ih hS

/-- Runs a list of actions and records the steps, newest first. -/
def record (M : Machine σ α) : List (σ × α) → σ → List α → Option (List (σ × α) × σ)
  | steps, s, [] => some (steps, s)
  | steps, s, a :: rest =>
    match M.step s a with
    | some s' => record M ((s, a) :: steps) s' rest
    | none => none

/-- `record` extends the run it is given. -/
theorem run_of_record_from : ∀ (acts : List α) {steps steps' : List (σ × α)} {s s' : σ},
    M.Run steps s → M.record steps s acts = some (steps', s') → M.Run steps' s' := by
  intro acts
  induction acts with
  | nil =>
    intro steps steps' s s' hRun hRecord
    simp only [record, Option.some.injEq, Prod.mk.injEq] at hRecord
    obtain ⟨rfl, rfl⟩ := hRecord
    exact hRun
  | cons a rest ih =>
    intro steps steps' s s' hRun hRecord
    rw [record] at hRecord
    cases hStep : M.step s a with
    | none => simp [hStep] at hRecord
    | some s₁ =>
      simp only [hStep] at hRecord
      exact ih (hRun.step hStep) hRecord

/-- A property found by recording a list of actions is one of some run. -/
theorem exists_run_of_record (M : Machine σ α) (acts : List α) (f : List (σ × α) → σ → Bool)
    (hRecord : (M.record [] M.init acts).map (fun r => f r.1 r.2) = some true) :
    ∃ steps s, M.Run steps s ∧ f steps s = true := by
  cases h : M.record [] M.init acts with
  | none => simp [h] at hRecord
  | some r =>
    refine ⟨r.1, r.2, run_of_record_from acts .init h, ?_⟩
    simpa [h] using hRecord

/-- Runs a list of actions, each of which must be enabled and meet `P`. -/
def runWith (M : Machine σ α) (P : σ → α → Prop) [∀ s a, Decidable (P s a)] :
    σ → List α → Option σ
  | s, [] => some s
  | s, a :: rest =>
    if P s a then
      match M.step s a with
      | some s' => runWith M P s' rest
      | none => none
    else none

/-- `runWith` extends the checked run it is given. -/
theorem reaches_of_runWith_from [∀ s a, Decidable (P s a)] :
    ∀ (acts : List α) {s s' : σ}, M.Reaches P s →
      M.runWith P s acts = some s' → M.Reaches P s' := by
  intro acts
  induction acts with
  | nil =>
    intro s s' hS hRun
    simp only [runWith, Option.some.injEq] at hRun
    exact hRun ▸ hS
  | cons a rest ih =>
    intro s s' hS hRun
    rw [runWith] at hRun
    split at hRun
    · rename_i hCond
      cases hStep : M.step s a with
      | none => simp [hStep] at hRun
      | some s₁ =>
        simp only [hStep] at hRun
        exact ih (hS.step hCond hStep) hRun
    · simp at hRun

/-- A run that succeeds reaches its last state. -/
theorem reaches_of_runWith [∀ s a, Decidable (P s a)] {acts : List α} {s : σ}
    (hRun : M.runWith P M.init acts = some s) : M.Reaches P s :=
  reaches_of_runWith_from acts .init hRun

/-- `runWith` extends the checked path it is given. -/
theorem path_of_runWith_from [∀ s a, Decidable (P s a)] {s : σ} :
    ∀ (acts : List α) {s₁ s₂ : σ}, M.Path P s s₁ → M.runWith P s₁ acts = some s₂ →
      M.Path P s s₂ := by
  intro acts
  induction acts with
  | nil =>
    intro s₁ s₂ hPath hRun
    simp only [runWith, Option.some.injEq] at hRun
    exact hRun ▸ hPath
  | cons a rest ih =>
    intro s₁ s₂ hPath hRun
    rw [runWith] at hRun
    split at hRun
    · rename_i hCond
      cases hStep : M.step s₁ a with
      | none => simp [hStep] at hRun
      | some next =>
        simp only [hStep] at hRun
        exact ih (hPath.step hCond hStep) hRun
    · simp at hRun

/-- A run from any state that succeeds is a path to its last state. -/
theorem path_of_runWith [∀ s a, Decidable (P s a)] {acts : List α} {s s' : σ}
    (hRun : M.runWith P s acts = some s') : M.Path P s s' :=
  path_of_runWith_from acts .refl hRun

/-- A property found by running to the end of a list of actions holds in some
state that is reached. -/
theorem exists_reaches_of_runWith (M : Machine σ α) (P : σ → α → Prop)
    [∀ s a, Decidable (P s a)] (acts : List α) (f : σ → Bool)
    (hRun : (M.runWith P M.init acts).map f = some true) :
    ∃ s, M.Reaches P s ∧ f s = true := by
  cases h : M.runWith P M.init acts with
  | none => simp [h] at hRun
  | some s =>
    refine ⟨s, reaches_of_runWith h, ?_⟩
    simpa [h] using hRun

end Machine

end AdapterRuntime.Lib
