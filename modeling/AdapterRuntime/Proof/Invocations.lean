import AdapterRuntime.Proof.Terminals

/-!
# AdapterRuntime — the invocations of handlers

A handler is invoked by a worker that holds its job, and by nobody else.

* `PlaneMove.invocations` — a step invokes no handler, or it is a worker's.
-/

namespace AdapterRuntime.Model

open AdapterRuntime.Lib

variable {env : Env} {c c' : Client} {s s' : System}

/-- The event is the invocation of a handler. -/
def WorkEvent.invokes : WorkEvent → Bool
  | .started _ _ _ _ => true
  | _ => false

/-- The invocations so far, newest first. -/
def Client.invocations (c : Client) : List WorkEvent := c.history.filter WorkEvent.invokes

/-- Events that invoke nothing leave the invocations alone. -/
theorem invocations_of_adds (new : List WorkEvent) (h : c'.history = new ++ c.history)
    (hNew : ∀ event ∈ new, event.invokes = false) : c'.invocations = c.invocations := by
  have hNone : new.filter WorkEvent.invokes = [] := by
    rw [List.filter_eq_nil_iff]
    intro event hEvent
    simp [hNew event hEvent]
  rw [Client.invocations, h, List.filter_append, hNone]
  rfl

/-- A worker is past the last check before it invokes a handler. -/
def WorkerPc.invoking : WorkerPc → Bool
  | .handle _ _ | .queueStarted _ _ | .sourceDispatch _ _ => true
  | _ => false

theorem WorkerMove.invocations {pc pc' : WorkerPc} (h : WorkerMove env c pc pc' c') :
    c'.invocations = c.invocations ∨ pc.invoking = true := by
  have hSame : c'.history = c.history → c'.invocations = c.invocations :=
    fun hEq => congrArg (List.filter WorkEvent.invokes) hEq
  cases h with
  | exit | pop | leave => exact .inl (hSame rfl)
  | quiet _ _ hCore => exact .inl (hSame (congrArg Core.history hCore))
  | erase hCore | finish hCore | leaveSource hCore =>
    exact .inl (hSame (congrArg Core.history hCore))
  | accept => exact .inl (invocations_of_adds [_] rfl (by simp [WorkEvent.invokes]))
  | commit =>
    exact .inl (invocations_of_adds [_, _] rfl (by simp [WorkEvent.invokes]))
  | startOperation | startUnary | startSource => exact .inr rfl
  | returnUnary | returnOperation | returnSource =>
    unfold Client.recordReturned
    split
    · exact .inl (invocations_of_adds [_] rfl (by simp [WorkEvent.invokes]))
    · exact .inl rfl
  | refuse _ _ _ hCommit hResult =>
    obtain ⟨hCommitted, -⟩ | ⟨-, hRefused⟩ := Client.commitTerminalFrame_cases hCommit
    · exact absurd hCommitted hResult
    · exact .inl (hSame (congrArg Core.history hRefused.core))
  | commitSource hCommit =>
    obtain ⟨-, rfl, -⟩ | ⟨source, -, -, -, -, hCases⟩ := commitSourceOpen_cases hCommit
    · exact .inl rfl
    · obtain ⟨-, hRefused⟩ | ⟨-, -, rfl⟩ | ⟨-, -, digest, rfl⟩ := hCases
      · exact .inl (hSame (congrArg Core.history hRefused.core))
      · exact .inl (invocations_of_adds [_] rfl (by simp [WorkEvent.invokes]))
      · exact .inl (invocations_of_adds [_] rfl (by simp [WorkEvent.invokes]))

theorem ReaderMove.invocations {pc pc' : WorkReaderPc} (h : ReaderMove env c pc pc' c') :
    c'.invocations = c.invocations := by
  have hSame : c'.history = c.history → c'.invocations = c.invocations :=
    fun hEq => congrArg (List.filter WorkEvent.invokes) hEq
  cases h with
  | quiet hCore | answer hCore | retireSource hCore => exact hSame (congrArg Core.history hCore)
  | immediate _ _ hCore => exact hSame (congrArg Core.history hCore)
  | cancelRefused _ _ _ _ _ hRefused =>
    exact invocations_of_adds [_] (congrArg Core.history hRefused.core)
      (by simp [WorkEvent.invokes])
  | commit | cancelOpened =>
    exact invocations_of_adds [_, _] rfl (by simp [WorkEvent.invokes])
  | report | replay | accept | admitSource | rejectSource | grant | cancelOpening | acknowledge =>
    exact invocations_of_adds [_] rfl (by simp [WorkEvent.invokes])
  | lateGrant | acknowledgeSource => exact hSame rfl

/-- Only workers invoke handlers. -/
theorem PlaneMove.invocations {a : Action} (h : PlaneMove env s a s') :
    s'.client.invocations = s.client.invocations ∨
      ∃ i input, a = .worker i input ∧
        WorkerMove env s.client (s.workers i) (s'.workers i) s'.client ∧
        workerStep env s.client (s.workers i) input = some (s'.workers i, s'.client) := by
  have hSame : s'.client.history = s.client.history →
      s'.client.invocations = s.client.invocations :=
    fun hEq => congrArg (List.filter WorkEvent.invokes) hEq
  cases h with
  | @worker i input pc' hAction hStep hMove hWorkers =>
    have hPc : s'.workers i = pc' := by simp [hWorkers, System.setWorker]
    exact .inr ⟨i, input, hAction, by rw [hPc]; exact hMove, by rw [hPc]; exact hStep⟩
  | reader _ hMove => exact .inl hMove.invocations
  | publish _ hClient =>
    obtain ⟨new, hEq, hNew⟩ := adds_publishSource env s.client
    refine .inl (invocations_of_adds _ (hClient ▸ hEq) fun event hEvent => ?_)
    obtain ⟨owner, frame, rfl, -⟩ := hNew event hEvent
    rfl
  | close _ hClient =>
    obtain ⟨new, hEq, hNew⟩ := adds_closeSource env s.client
    refine .inl (invocations_of_adds _ (hClient ▸ hEq) fun event hEvent => ?_)
    obtain ⟨owner, frame, rfl, -⟩ := hNew event hEvent
    rfl
  | quiet hCore | deactivate hCore | release _ _ _ hCore =>
    exact .inl (hSame (congrArg Core.history hCore))
  | drop _ hCore => exact .inl (hSame (congrArg Core.history hCore))
  | outside _ _ _ _ _ _ _ _ hHistory => exact .inl (hSame hHistory)

end AdapterRuntime.Model
