import AdapterRuntime.Proof.Terminals

/-!
# AdapterRuntime — what a worker decides about its job

The terminal of a job is decided before it is committed, in another section: the
worker finds the cancellation flag set, the context invalid or the input refused,
or normalizes the result its handler returned.

* `Decides` — the step of a worker decides about its job, and on what ground.
* `Decided` — a run contains such a step.
* `decided_of_run` — a worker that carries a decision made it.
-/

namespace AdapterRuntime.Model

open AdapterRuntime.Lib

variable {env : Env} {s s' : System} {c c' : Client} {run : List (System × Action)}
  {history history' : List WorkEvent}

/-- What becomes of a job. -/
inductive Verdict
  | cancelled
  | context (error : Text)
  | input
  | result (frame : WorkFrame)
  | tooLarge (frame : WorkFrame)

/-- The step is that of the worker which holds the job, and there the verdict is
reached: the cancellation flag of the job is set, `ValidateWorkContext` returns
this error, the input does not match its contract, the frame is the normalized
result of the handler, or the frame is too large to be committed. -/
inductive Decides (env : Env) (job : DispatchJob) (s : System) : Action → Verdict → Prop
  | cancelled {i : Nat} {now : Int} (hPc : s.workers i = .popped job)
      (hFlag : s.client.cancelled job = true) :
      Decides env job s (.worker i (.tick now)) .cancelled
  | context {i : Nat} {now : Int} {error : Text} (hPc : s.workers i = .validate job)
      (hError : validateWorkContext env s.client now job.context job.kind = .error error) :
      Decides env job s (.worker i (.tick now)) (.context error)
  | input {i binding : Nat} {now : Int} (hPc : s.workers i = .handle job binding)
      (hInput : inputAccepted env binding job = false) :
      Decides env job s (.worker i (.tick now)) .input
  | unary {i binding : Nat} {now : Int} {result : UnaryResult}
      {endpoint : CapabilityEndpointContract}
      (hPc : s.workers i = .returnedUnary job binding result)
      (hEndpoint : handlerEndpoint env binding job = some endpoint) :
      Decides env job s (.worker i (.tick now)) (.result (unaryTerminal job.workId
        (normalizeUnary env endpoint (s.client.cancelled job) result)))
  | operation {i binding : Nat} {now : Int} {result : OperationResult}
      {endpoint : CapabilityEndpointContract}
      (hPc : s.workers i = .returnedOperation job binding result)
      (hEndpoint : handlerEndpoint env binding job = some endpoint) :
      Decides env job s (.worker i (.tick now)) (.result (operationTerminal now job.workId
        (normalizeOperation env endpoint result)))
  | tooLarge {i : Nat} {now : Int} {frame : WorkFrame} (hPc : s.workers i = .commit job frame)
      (hCommit : (s.client.commitTerminalFrame env job frame).1 = .tooLarge) :
      Decides env job s (.worker i (.tick now)) (.tooLarge frame)

/-- The verdict was reached in a step of the run. -/
def Decided (env : Env) (run : List (System × Action)) (job : DispatchJob) (verdict : Verdict) :
    Prop :=
  ∃ e ∈ run, Decides env job e.1 e.2 verdict

/-- What was decided stays decided. -/
theorem Decided.later {job : DispatchJob} {verdict : Verdict} {e : System × Action}
    (h : Decided env run job verdict) : Decided env (e :: run) job verdict := by
  obtain ⟨e', hMem, hDecides⟩ := h
  exact ⟨e', List.mem_cons_of_mem _ hMem, hDecides⟩

/-- A step that decides has decided. -/
theorem Decides.decided {job : DispatchJob} {verdict : Verdict} {a : Action}
    (h : Decides env job s a verdict) : Decided env ((s, a) :: run) job verdict :=
  ⟨_, List.mem_cons_self, h⟩

/-- The verdict a worker acts on was reached; what was too large is the result of its
handler. -/
def WorkerPc.Decided (env : Env) (run : List (System × Action)) (history : List WorkEvent) :
    WorkerPc → Prop
  | .cancelledCommit job => Model.Decided env run job .cancelled
  | .contextReject job error => Model.Decided env run job (.context error)
  | .inputReject job => Model.Decided env run job .input
  | .commit job frame => Model.Decided env run job (.result frame)
  | .commitFallback job =>
    ∃ id frame, job.cancellation = some id ∧ Normalized env history job id frame ∧
      Model.Decided env run job (.result frame) ∧ Model.Decided env run job (.tooLarge frame)
  | _ => True

/-- The verdict of a worker stays decided. -/
theorem WorkerPc.Decided.later {pc : WorkerPc} {e : System × Action}
    (h : pc.Decided env run history) (hGrow : ∀ event ∈ history, event ∈ history') :
    pc.Decided env (e :: run) history' := by
  cases pc with
  | cancelledCommit | contextReject | inputReject | commit => exact Model.Decided.later h
  | commitFallback =>
    obtain ⟨id, frame, hId, hNormalized, hResult, hLarge⟩ := h
    exact ⟨id, frame, hId, hNormalized.mono hGrow, hResult.later, hLarge.later⟩
  | _ => trivial

theorem WorkerPc.decided_of_jobless {pc : WorkerPc} (h : pc.job? = none) :
    pc.Decided env run history := by
  cases pc with
  | cancelledCommit | contextReject | inputReject | commit | commitFallback => cases h
  | _ => trivial

/-- After a signal nothing is left to decide. -/
theorem decided_afterSignal {job : DispatchJob} {after : AfterSignal} :
    (WorkerPc.afterSignal job after).Decided env run history := by
  cases after <;> trivial

/-- The step of a worker: what it acts on afterwards it has just decided, or it acts
on it already. -/
theorem decided_workerStep {i : Nat} {pc' : WorkerPc} {input : WorkerInput}
    (hStep : workerStep env s.client (s.workers i) input = some (pc', c'))
    (hReports : (s.workers i).Reports env s.client.history)
    (h : (s.workers i).Decided env run s.client.history) :
    pc'.Decided env ((s, .worker i input) :: run) c'.history := by
  generalize hPc : s.workers i = pc at hStep hReports h
  cases workerStep_branch hStep with
  -- the flag was set: the job is answered as cancelled
  | cancelled _ hFlag => exact (Decides.cancelled hPc hFlag).decided
  -- `validateWorkContext` refused the context, and its error is the answer
  | invalid hError => exact (Decides.context hPc hError).decided
  -- the input check failed
  | refuseInput hInput => exact (Decides.input hPc hInput).decided
  -- the handler has returned: the answer is made of its result
  | normalizeUnary hEndpoint => exact (Decides.unary hPc hEndpoint).decided
  | normalizeOperation hEndpoint => exact (Decides.operation hPc hEndpoint).decided
  | @tooLarge now job frame _ hCommit =>
    obtain ⟨hCommitted, -⟩ | ⟨-, hRefused⟩ := Client.commitTerminalFrame_cases hCommit
    · cases hCommitted
    · -- the frame was too large: the compact failure replaces it
      have hHistory : c'.history = s.client.history := congrArg Core.history hRefused.core
      have hLarge : Decides env job s (.worker i (.tick now)) (.tooLarge frame) :=
        .tooLarge hPc (congrArg Prod.fst hCommit)
      obtain ⟨id, hId, hNormalized⟩ := hReports
      exact ⟨id, frame, hId, hHistory ▸ hNormalized, Model.Decided.later h, hLarge.decided⟩
  -- a rejection that is committed was decided before, and nothing is at the other points
  | commit hCommits => cases hCommits <;> trivial
  | unheard | signalSession => exact decided_afterSignal
  | _ => trivial

/-- In every run, a worker that acts on a decision has made it. -/
theorem decided_of_run (h : (machine env).Run run s) :
    ∀ i, (s.workers i).Decided env run s.client.history := by
  refine h.invariant (I := fun run s => ∀ i, (s.workers i).Decided env run s.client.history)
    (fun i => trivial) ?_
  intro run s a s' hRun hDecided hStep i
  have hReach := hRun.reachable
  have hMove := planeMove_of_step (shape_of_reachable hReach) hStep
  obtain hSame | hNone | ⟨input, rfl, hWorker⟩ := hMove.worker_cases i
  · rw [hSame]
    exact (hDecided i).later (hMove.grows (jobs_of_reachable hReach))
  · exact WorkerPc.decided_of_jobless hNone
  · exact decided_workerStep hWorker (reports_of_reachable hReach i) (hDecided i)

end AdapterRuntime.Model
