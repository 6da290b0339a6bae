import AdapterRuntime.Proof.ReadyGate
import AdapterRuntime.Proof.Drain

/-!
# AdapterRuntime — validation before a callback

A unary request is validated in the last section its worker takes under the
mutex before the callback. An operation is validated there too, and then queues
ACCEPTED and STARTED in sections of their own. A source open is validated only
when it is enqueued: its worker looks the source up, and calls the handler.

* `Client.Fits` — what the gate must be at the last section before a callback.
* `System.movesGate` — the sections that write `accepting_work_`, `state_`,
  `session_failed_` or `spec_revision_`; `gate_of_step`: no other section does.
* `System.keepsGate` — none of these changes the gate, and no deadline passes,
  while a job waits behind a validation of the past.
* `dispatch_validated` — then every callback of a run is invoked as validated.
-/

namespace AdapterRuntime.Model

open AdapterRuntime.Lib

variable {env : Env} {c c' : Client} {s s' : System} {a : Action} {job : DispatchJob}

-- ---------------------------------------------------------------------------
-- The gate
-- ---------------------------------------------------------------------------

/-- The client takes this job: it is ready for Work, and on the job's revision. -/
structure Client.Fits (c : Client) (job : DispatchJob) : Prop where
  accepting : c.flags.acceptingWork = true
  ready : c.flags.state = .ready
  live : c.flags.sessionFailed = false
  revision : job.context.specRevision = c.spec.specRevision

/-- The deadline of the job, if it has one, is later than the clock. -/
def DispatchJob.InTime (job : DispatchJob) (now : Int) : Prop :=
  0 < job.context.deadline.deadlineUnixNanos → now < job.context.deadline.deadlineUnixNanos

instance (job : DispatchJob) (now : Int) : Decidable (job.InTime now) :=
  inferInstanceAs (Decidable (_ → _))

/-- What `Fits` reads of the client. -/
def Client.gate (c : Client) : Bool × ClientState × Bool × Nat :=
  (c.flags.acceptingWork, c.flags.state, c.flags.sessionFailed, c.spec.specRevision)

/-- What fits the client depends on the gate only. -/
theorem Client.Fits.of_gate (h : c.Fits job) (hGate : c'.gate = c.gate) : c'.Fits job := by
  simp only [Client.gate, Prod.mk.injEq] at hGate
  obtain ⟨hAccepting, hState, hFailed, hRevision⟩ := hGate
  exact ⟨hAccepting.trans h.accepting, hState.trans h.ready, hFailed.trans h.live,
    h.revision.trans hRevision.symm⟩

/-- A validated job fits the client and is in time. -/
theorem fits_of_validated {now : Int} {result : Nat × CapabilityEndpointContract}
    (h : validateWorkContext env c now job.context job.kind = .ok result) :
    c.Fits job ∧ job.InTime now := by
  obtain ⟨hAccepting, hReady, hLive, hRevision, hDeadline⟩ := validateWorkContext_ok h
  exact ⟨⟨hAccepting, hReady, hLive, hRevision⟩, hDeadline⟩

-- ---------------------------------------------------------------------------
-- The sections that move the gate
-- ---------------------------------------------------------------------------

/-- The sections of `ApplyInstanceSpec` that write what the gate consists of: the two
commits, the two deactivations, and the ends that record a state. -/
def ApplyPc.movesGate : ApplyPc → Bool
  | .begin _ | .deactivating _ .locked | .failing _ _ _ | .committing _ _
  | .readyDeactivating _ _ .locked | .readyFailing _ _ | .finishing _ => true
  | _ => false

/-- The sections of `ControlStreamLoop` that write what the gate consists of: those of
the transaction, Drain, Stop, and the failures of the stream. -/
def ControlReaderPc.movesGate : ControlReaderPc → Bool
  | .applying _ at_ => at_.movesGate
  | .handling _ .drain | .opening _ | .remoteStop _ | .signal _ _ | .terminal _ _
  | .lastTerminal _ | .lastSignal _ _ => true
  | _ => false

/-- The sections of `ControlWriterLoop` that signal a failure. -/
def ControlWriterPc.movesGate : ControlWriterPc → Bool
  | .signal _ _ | .terminal _ _ => true
  | _ => false

/-- The sections of `WorkWriterLoop` that make the pair ready or signal a failure. -/
def WorkWriterPc.movesGate : WorkWriterPc → Bool
  | .markReady _ | .signal _ _ => true
  | _ => false

/-- The sections of `SupervisorLoop` that write what the gate consists of. -/
def SupervisorPc.movesGate : SupervisorPc → Bool
  | .install _ | .prepare _ | .replaceBegin _ | .clear _ | .advance _ | .deactivating _ .locked _
  | .enterLost _ | .endSession => true
  | _ => false

/-- The sections of `Stop` after the first that write what the gate consists of. -/
def StopPc.movesGate : StopPc → Bool
  | .deactivating .locked | .reset => true
  | _ => false

/-- The step is a section that writes `accepting_work_`, `state_`, `session_failed_` or
`spec_revision_`. -/
def System.movesGate (s : System) : Action → Bool
  | .start | .publishSource _ _ | .closeSource _ _ => false
  | .startThreads | .startReturns _ | .stop => true
  | .stopper => s.stopper.movesGate
  | .worker i _ => (s.workers i).touchesFlags
  | .workReader _ => s.workReader.touchesFlags
  | .workWriter _ => s.workWriter.movesGate
  | .controlReader _ => s.controlReader.movesGate
  | .controlWriter _ => s.controlWriter.movesGate
  | .supervisor _ => s.supervisor.movesGate

/-- The gate is made of the flags and the revision. -/
theorem Client.gate_of_fields (hFlags : c'.flags = c.flags)
    (hRevision : c'.spec.specRevision = c.spec.specRevision) : c'.gate = c.gate := by
  simp only [Client.gate, hFlags, hRevision]

/-- A step that leaves flags and spec alone leaves the gate alone. -/
theorem Client.Aside.gate {touches : Bool} (h : c.Aside c' touches) (hNot : touches = false) :
    c'.gate = c.gate :=
  Client.gate_of_fields (h.flags hNot) (congrArg SpecState.specRevision (spec_of_helm h.helm))

theorem gate_of_surround (h : c'.surround = c.surround) : c'.gate = c.gate :=
  Client.gate_of_fields (congrArg Surround.flags h)
    (congrArg (fun r : Surround => r.spec.specRevision) h)

@[simp] theorem gate_callStop (binding : Nat) : (c.callStop env binding).gate = c.gate :=
  Client.gate_of_fields (by simp) (by simp)

@[simp] theorem gate_callClear : (c.callClear env).gate = c.gate :=
  Client.gate_of_fields (by simp) (by simp)

@[simp] theorem gate_notifySourceClosed (source : SourceState) (error : AdapterError) :
    (c.notifySourceClosed env source error).gate = c.gate :=
  Client.gate_of_fields (by simp) (by simp)

/-- Queueing a Control frame leaves the gate alone. -/
theorem gate_queueControlLocked (frame : ControlFrame) :
    (c.queueControlLocked env frame).2.gate = c.gate := by
  unfold Client.queueControlLocked
  simp only
  split
  · split <;> rfl
  · rfl

/-- A deactivation moves the gate in its first section only. -/
theorem gate_deactivateStep {reason : Text} {at_ : DeactivatePc} {next : Option DeactivatePc}
    (h : deactivateStep env reason c at_ = some (next, c')) (hAt : at_ ≠ .locked) :
    c'.gate = c.gate := by
  cases deactivateStep_move h with
  | begin => exact absurd rfl hAt
  | waited | stopped | finish => rfl
  | stop => exact gate_callStop _
  | clear =>
    split
    · exact gate_callClear
    · rfl
  | notify => exact gate_notifySourceClosed _ _

/-- The other steps of a transaction leave the gate alone. -/
theorem gate_applyMove {session : Text} {at_ : ApplyPc} {next : ApplyNext}
    (h : ApplyMove env session c at_ next c') (hNot : at_.movesGate = false) :
    c'.gate = c.gate := by
  cases h with
  -- the transaction has returned or has not begun
  | answer | waited | lock | current | stale | proceed => rfl
  | begin | failed | commit | outdated | readyFailure | finish => cases hNot
  | deactivate hStep | deactivated hStep =>
    exact gate_deactivateStep hStep (by rintro rfl; cases hNot)
  | readyDeactivate hStep | readyDeactivated hStep =>
    exact gate_deactivateStep hStep (by rintro rfl; cases hNot)
  -- the callbacks
  | skipApply | applied | skipStart | started | startFailed | startedAll => rfl
  | applyFailed => exact gate_callClear
  | unwindStop | staleStop => exact gate_callStop _
  | unwound =>
    split
    · exact gate_callClear
    · rfl
  | staleUnwound => exact gate_callClear (c := c)
  | skipReady | readied | readyFailed | readiedAll => rfl

theorem gate_controlReaderStep {pc pc' : ControlReaderPc} {input : ReaderInput ControlResponse}
    (h : controlReaderStep env c pc input = some (pc', c')) (hNot : pc.movesGate = false) :
    c'.gate = c.gate := by
  cases controlReaderStep_branch h with
  | stopping | awaitFrame | oversize | received | readFailed | badHeader | goodHeader | badSpec
  | goodSpec | ping | hostError | emptyFrame | closed | ended | rejected | lost => rfl
  | stop => split <;> rfl
  -- the transaction
  | apply hMove | conclude hMove => exact gate_applyMove hMove hNot
  | @queued _ _ frame _ _ hQueue | @overflow _ _ frame _ _ hQueue =>
    have hGate : (c.queueControlLocked env frame).2.gate = c.gate := gate_queueControlLocked frame
    rwa [hQueue] at hGate
  -- Drain and the ends of the stream move it
  | opened | unopened | drain | remoteStop | signal | terminal | lastTerminal | lastSignal =>
    cases hNot

theorem gate_controlWriterStep {pc pc' : ControlWriterPc} {input : WriterInput}
    (h : controlWriterStep env c pc input = some (pc', c')) (hNot : pc.movesGate = false) :
    c'.gate = c.gate := by
  cases controlWriterStep_branch h with
  | ended | dequeue | heartbeat | write | lose => rfl
  | gate =>
    unfold Client.openAttachGate
    split <;> rfl
  | signal | terminal => cases hNot

theorem gate_workWriterStep {pc pc' : WorkWriterPc} {input : WriterInput}
    (h : workWriterStep env c pc input = some (pc', c')) (hNot : pc.movesGate = false) :
    c'.gate = c.gate := by
  cases workWriterStep_branch h with
  | attach | unattached | attached | loseAttach | ended | dequeue | write | lose => rfl
  | ready | signal => cases hNot

theorem gate_supervisorStep {controlDone workDone : Bool} {pc pc' : SupervisorPc}
    {input : SupervisorInput}
    (h : supervisorStep env c controlDone workDone pc input = some (pc', c'))
    (hNot : pc.movesGate = false) : c'.gate = c.gate := by
  cases supervisorStep_branch h with
  | install | prepare | replaceBegin | clear | advance | endSession => cases hNot
  | alreadyLost | enterLost => cases hNot
  | deactivate hStep => exact gate_deactivateStep hStep (by rintro rfl; cases hNot)
  | deactivated hStep =>
    have hGate := gate_deactivateStep hStep (by rintro rfl; cases hNot)
    exact hGate
  | notify => exact gate_notifySourceClosed _ _
  | reportLost => split <;> rfl
  | _ => rfl

theorem gate_stopperStep (h : s.stopperStep env = some s') (hNot : s.stopper.movesGate = false) :
    s'.client.gate = s.client.gate := by
  unfold System.stopperStep at h
  split at h <;> rename_i hStopper
  · cases h
  · split at h <;> cases h <;> rfl
  · split at h <;> cases h
    rfl
  · split at h <;> cases h
    rfl
  · rename_i at_
    have hAt : at_ ≠ .locked := by
      rintro rfl
      rw [hStopper] at hNot
      cases hNot
    split at h <;> rename_i hStep
    · cases h
    · cases h
      exact gate_deactivateStep hStep hAt
    · cases h
      have hGate := gate_deactivateStep hStep hAt
      exact hGate
  · rw [hStopper] at hNot
    cases hNot

/-- Every other step leaves the gate as it finds it. -/
theorem gate_of_step (h : s.step env a = some s') (hNot : s.movesGate a = false) :
    s'.client.gate = s.client.gate := by
  cases a with
  | start =>
    simp only [System.step, System.startStep] at h
    split at h
    · split at h
      · cases h
      · split at h <;> cases h
        rfl
    · cases h
  | startThreads | startReturns | stop => cases hNot
  | stopper => exact gate_stopperStep h hNot
  | publishSource =>
    cases h
    exact gate_of_surround surround_publishSource
  | closeSource =>
    cases h
    exact gate_of_surround surround_closeSource
  | worker i input =>
    obtain ⟨⟨pc', c'⟩, hStep, rfl⟩ := Option.map_eq_some_iff.mp h
    exact (aside_workerStep hStep).gate hNot
  | workReader input => exact (aside_workReaderStep (workReaderStep_of_step h)).gate hNot
  | workWriter input =>
    obtain ⟨⟨pc', c'⟩, hStep, rfl⟩ := Option.map_eq_some_iff.mp h
    exact gate_workWriterStep hStep hNot
  | controlReader input => exact gate_controlReaderStep (controlReaderStep_of_step h) hNot
  | controlWriter input =>
    obtain ⟨⟨pc', c'⟩, hStep, rfl⟩ := Option.map_eq_some_iff.mp h
    exact gate_controlWriterStep hStep hNot
  | supervisor input =>
    obtain ⟨⟨pc', c'⟩, hStep, rfl⟩ := Option.map_eq_some_iff.mp h
    exact gate_supervisorStep hStep hNot

-- ---------------------------------------------------------------------------
-- The sections before a callback
-- ---------------------------------------------------------------------------

/-- The job for which the next step of a worker holds the mutex, ahead of its
callback. -/
def WorkerPc.locks? : WorkerPc → Option DispatchJob
  | .popped job => if job.kind = .sourceOpen then some job else none
  | .validate job | .queueAccepted job _ | .queueStarted job _ | .sourceInitial job => some job
  | _ => none

/-- The job of a worker whose next step is the last of these, for a kind that does
not validate in it. -/
def WorkerPc.last? : WorkerPc → Option DispatchJob
  | .queueStarted job _ | .sourceInitial job => some job
  | _ => none

/-- The job of a worker that has been validated, and whether the worker is past the
last section before the callback. -/
def WorkerPc.check? : WorkerPc → Option (DispatchJob × Bool)
  | .popped job => if job.kind = .sourceOpen then some (job, false) else none
  | .handle job _ => some (job, job.kind == .unary)
  | .sourceInitial job | .queueAccepted job _ | .queueStarted job _ => some (job, false)
  | .running job _ | .sourceDispatch job _ | .sourceRunning job _ => some (job, true)
  | _ => none

/-- The job whose handler a worker has called. -/
def WorkerPc.called? : WorkerPc → Option DispatchJob
  | .running job _ | .sourceRunning job _ => some job
  | _ => none

/-- The last step worker `i` took under the mutex for a job ahead of its callback:
the state it found, the clock and the job. -/
def lockedOn (i : Nat) : List (System × Action) → Option (System × Int × DispatchJob)
  | [] => none
  | (s, .worker j (.tick now)) :: steps =>
    match if j = i then (s.workers i).locks? else none with
    | some job => some (s, now, job)
    | none => lockedOn i steps
  | _ :: steps => lockedOn i steps

/-- A job waits behind a validation of the past: a source open that is queued or has
been taken by a worker, or an operation that has not queued STARTED. -/
def System.awaits (s : System) : Bool :=
  s.client.queues.dispatch.any (·.kind == .sourceOpen) ||
    (List.range s.dispatchThreads).any fun i => (s.workers i).check?.any fun job => !job.2

/-- The operation or source open whose last section the step is, and the clock. -/
def System.takes? (s : System) : Action → Option (DispatchJob × Int)
  | .worker i (.tick now) => (s.workers i).last?.map fun job => (job, now)
  | _ => none

/-- While a job waits, a section that may move the gate leaves it as it is, and a worker
that takes the last section of an operation or a source open finds its deadline ahead. -/
def System.keepsGate (env : Env) (s : System) (a : Action) : Prop :=
  (s.awaits = true → s.movesGate a = true → ∀ s' ∈ s.step env a,
      s'.client.gate = s.client.gate) ∧
    ∀ due ∈ s.takes? a, due.1.InTime due.2

instance (s : System) (a : Action) : Decidable (s.keepsGate env a) :=
  inferInstanceAs (Decidable ((_ → _ → ∀ s' ∈ _, _) ∧ ∀ due ∈ _, _))

/-- While a job waits nothing moves the gate. -/
theorem System.keepsGate.gate (h : s.keepsGate env a) (hStep : s.step env a = some s')
    (hAwaits : s.awaits = true) : s'.client.gate = s.client.gate := by
  by_cases hMoves : s.movesGate a = true
  · exact h.1 hAwaits hMoves s' hStep
  · exact gate_of_step hStep (by simpa using hMoves)

-- ---------------------------------------------------------------------------
-- One step
-- ---------------------------------------------------------------------------

/-- How a worker comes to a point at which its job has been validated. -/
inductive Checked (env : Env) (c : Client) (pc : WorkerPc) (input : WorkerInput)
    (job : DispatchJob) : Bool → Prop
  | kept {past : Bool} (hPc : pc.check? = some (job, past))
      (hLocks : past = true → pc.locks? = none) : Checked env c pc input job past
  | popped (hPc : pc = .idle) (hMem : job ∈ c.queues.dispatch) (hKind : job.kind = .sourceOpen) :
      Checked env c pc input job false
  | validated {past : Bool} {now : Int} {result : Nat × CapabilityEndpointContract}
      (hPc : pc = .validate job) (hInput : input = .tick now)
      (hValid : validateWorkContext env c now job.context job.kind = .ok result) :
      Checked env c pc input job past
  | passed {now : Int} (hInput : input = .tick now) (hPc : pc.check? = some (job, false))
      (hLast : pc.last? = some job) : Checked env c pc input job true

/-- How a worker that takes a step comes to hold a checked job. -/
theorem checked_of_step {pc pc' : WorkerPc} {input : WorkerInput} {past : Bool}
    (h : workerStep env c pc input = some (pc', c'))
    (hCheck : pc'.check? = some (job, past)) : Checked env c pc input job past := by
  cases workerStep_branch h with
  | pop hQueue =>
    -- a source that is popped was screened at its admission
    simp only [WorkerPc.check?] at hCheck
    split at hCheck
    · rename_i hSource
      cases hCheck
      exact .popped rfl (by rw [hQueue]; exact List.mem_cons_self) hSource
    · cases hCheck
  -- a source open keeps the check of its admission
  | enterSource hSource =>
    cases hCheck
    exact .kept (by simp [WorkerPc.check?, hSource]) (by simp)
  -- the point that validates
  | valid hValid =>
    cases hCheck
    exact .validated rfl rfl hValid
  -- a unary request is dispatched at once, an operation is accepted first
  | startUnary _ hUnary =>
    cases hCheck
    exact .kept (by simp [WorkerPc.check?, hUnary]) fun _ => rfl
  | toOperation _ hUnary =>
    cases hCheck
    exact .kept (by simp [WorkerPc.check?, hUnary]) (by simp)
  | accepted =>
    cases hCheck
    exact .kept rfl (by simp)
  -- STARTED was queued, or the source was found: the handler is next
  | started | findSource =>
    cases hCheck
    exact .passed rfl rfl rfl
  | startSource =>
    cases hCheck
    exact .kept rfl fun _ => rfl
  -- every other branch leads to a point past the handler
  | commit hCommits => cases hCommits <;> cases hCheck
  | @unheard _ _ _ after | @signalSession _ _ _ _ after => cases after <;> cases hCheck
  | _ => cases hCheck

/-- A source open of the queue was there before the step, or the step has validated
it. -/
theorem PlaneMove.queued (h : PlaneMove env s a s') (hMem : job ∈ s'.client.queues.dispatch)
    (hKind : job.kind = .sourceOpen) :
    job ∈ s.client.queues.dispatch ∨ (s.client.Fits job ∧ s'.client.gate = s.client.gate) := by
  have hSame : s'.client.queues.dispatch = s.client.queues.dispatch →
      job ∈ s.client.queues.dispatch := fun hEq => hEq ▸ hMem
  cases h with
  | worker _ _ hMove =>
    obtain ⟨popped, hEq, -, -⟩ | ⟨hEq, -⟩ := hMove.dispatch
    · exact .inl (by rw [hEq]; exact List.mem_cons_of_mem _ hMem)
    · exact .inl (hSame hEq)
  | reader _ hMove =>
    obtain hEq | ⟨request, reservation, hRequest, -, hClient, -⟩ |
      ⟨request, now, index, endpoint, bytes, hRequest, hVerdict, hClient⟩ := hMove.dispatch
    · exact .inl (hSame hEq)
    · rw [hClient] at hMem
      obtain hMem | hMem := List.mem_append.mp hMem
      · exact .inl hMem
      · rw [List.mem_singleton.mp hMem] at hKind
        exact absurd hKind hRequest.kind
    · rw [hClient] at hMem ⊢
      obtain hMem | hMem := List.mem_append.mp hMem
      · exact .inl hMem
      · obtain rfl := List.mem_singleton.mp hMem
        obtain ⟨-, -, -, hFresh⟩ := sourceOpenVerdict_fresh hVerdict (by simp) (by simp)
        obtain ⟨hAccepting, hReady, hLive, hRevision, -⟩ :=
          validateWorkContext_ok (freshSourceVerdict_accept hFresh).1
        refine .inr ⟨⟨hAccepting, hReady, hLive, ?_⟩, rfl⟩
        rw [← hRevision, DispatchJob.context, hKind]
  | publish _ hClient => exact .inl (hSame (by rw [hClient]; exact tokens_publishSource.2))
  | close _ hClient => exact .inl (hSame (by rw [hClient]; exact tokens_closeSource.2))
  | quiet hCore | deactivate hCore => exact .inl (hSame (congrArg Core.dispatch hCore))
  | drop _ hCore =>
    rw [show s'.client.queues.dispatch = [] from congrArg Core.dispatch hCore] at hMem
    cases hMem
  | release _ _ hNone | outside _ _ hNone =>
    rw [hNone.dispatch] at hMem
    cases hMem

/-- A worker with a checked job holds it. -/
theorem WorkerPc.job_of_check {pc : WorkerPc} {past : Bool}
    (h : pc.check? = some (job, past)) : pc.job? = some job := by
  cases pc with
  | popped held =>
    simp only [check?] at h
    split at h <;> cases h
    rfl
  | handle | running | sourceInitial | sourceDispatch | sourceRunning | queueAccepted
  | queueStarted => cases h; rfl
  | _ => cases h

/-- The last section before a callback is taken under the mutex. -/
theorem WorkerPc.locks_of_last {pc : WorkerPc} (h : pc.last? = some job) :
    pc.locks? = some job := by
  cases pc <;> first | (cases h; done) | (cases h; rfl)

/-- Past its last section a worker takes the mutex no more before the callback. -/
theorem WorkerPc.locks_of_past {pc : WorkerPc} (h : pc.check? = some (job, true)) :
    pc.locks? = none := by
  cases pc with
  | popped held =>
    simp only [check?] at h
    split at h <;> cases h
  | handle | running | sourceDispatch | sourceRunning => rfl
  | _ => cases h

/-- A step at which worker `i` takes no such section. -/
theorem lockedOn_none {i : Nat} {steps : List (System × Action)}
    (h : (s.workers i).locks? = none) : lockedOn i ((s, a) :: steps) = lockedOn i steps := by
  cases a with
  | worker j input =>
    cases input with
    | tick now =>
      simp only [lockedOn]
      by_cases hj : j = i
      · simp [hj, h]
      · simp [hj]
    | unaryOutcome | operationOutcome | sourceOutcome => rfl
  | _ => rfl

/-- A step at which it takes one. -/
theorem lockedOn_some {i : Nat} {now : Int} {steps : List (System × Action)}
    (h : (s.workers i).locks? = some job) :
    lockedOn i ((s, .worker i (.tick now)) :: steps) = some (s, now, job) := by
  simp [lockedOn, h]

/-- Validating a job leaves the gate alone. -/
theorem gate_of_validate {input : WorkerInput} {pc' : WorkerPc}
    (h : workerStep env c (.validate job) input = some (pc', c')) : c'.gate = c.gate := by
  cases workerStep_branch h with
  | invalid | valid => rfl
  | commit hCommits | uncommitted hCommits => cases hCommits

-- ---------------------------------------------------------------------------
-- Whole runs
-- ---------------------------------------------------------------------------

/-- The jobs that wait still fit, and those past their last section did when they
took it. -/
structure Screened (steps : List (System × Action)) (s : System) : Prop where
  queue : ∀ job ∈ s.client.queues.dispatch, job.kind = .sourceOpen → s.client.Fits job
  waiting : ∀ i job, (s.workers i).check? = some (job, false) → s.client.Fits job
  past : ∀ i job, (s.workers i).check? = some (job, true) → ∃ s₁ now,
    lockedOn i steps = some (s₁, now, job) ∧ s₁.client.Fits job ∧ job.InTime now

/-- A queued source open waits. -/
theorem System.awaits_of_queue (hMem : job ∈ s.client.queues.dispatch)
    (hKind : job.kind = .sourceOpen) : s.awaits = true := by
  simp only [System.awaits, Bool.or_eq_true, List.any_eq_true]
  exact .inl ⟨job, hMem, by simp [hKind]⟩

/-- A worker that has not passed its last section keeps a job waiting. -/
theorem System.awaits_of_worker (h : Shape s) {i : Nat}
    (hCheck : (s.workers i).check? = some (job, false)) : s.awaits = true := by
  have hi : i < s.dispatchThreads := by
    by_contra hNot
    rw [h.occupancy.beyond i (Nat.le_of_not_lt hNot)] at hCheck
    cases hCheck
  simp only [System.awaits, Bool.or_eq_true, List.any_eq_true]
  exact .inr ⟨i, List.mem_range.mpr hi, by simp [hCheck]⟩

/-- A step that keeps the gate keeps every job screened. -/
theorem Screened.step {steps : List (System × Action)} (h : Screened steps s)
    (hReach : (machine env).Reachable s) (hKeeps : s.keepsGate env a)
    (hStep : s.step env a = some s') : Screened ((s, a) :: steps) s' := by
  have hShape := shape_of_reachable hReach
  have hMove := planeMove_of_step hShape hStep
  have hGate : s.awaits = true → s'.client.gate = s.client.gate :=
    hKeeps.gate hStep
  constructor
  · intro job hMem hKind
    obtain hWas | ⟨hFits, hSame⟩ := hMove.queued hMem hKind
    · exact (h.queue job hWas hKind).of_gate (hGate (System.awaits_of_queue hWas hKind))
    · exact hFits.of_gate hSame
  · intro i job hCheck
    obtain hSame | hNone | ⟨input, -, hWorker⟩ := hMove.worker_cases i
    · rw [hSame] at hCheck
      exact (h.waiting i job hCheck).of_gate (hGate (System.awaits_of_worker hShape hCheck))
    · rw [WorkerPc.job_of_check hCheck] at hNone
      cases hNone
    · cases checked_of_step hWorker hCheck with
      | kept hPc =>
        exact (h.waiting i job hPc).of_gate (hGate (System.awaits_of_worker hShape hPc))
      | popped _ hMem hKind =>
        exact (h.queue job hMem hKind).of_gate (hGate (System.awaits_of_queue hMem hKind))
      | validated hPc _ hValid =>
        rw [hPc] at hWorker
        exact (fits_of_validated hValid).1.of_gate (gate_of_validate hWorker)
  · intro i job hCheck
    obtain hSame | hNone | ⟨input, rfl, hWorker⟩ := hMove.worker_cases i
    · rw [hSame] at hCheck
      rw [lockedOn_none (WorkerPc.locks_of_past hCheck)]
      exact h.past i job hCheck
    · rw [WorkerPc.job_of_check hCheck] at hNone
      cases hNone
    · cases checked_of_step hWorker hCheck with
      | kept hPc hLocks =>
        rw [lockedOn_none (hLocks rfl)]
        exact h.past i job hPc
      | validated hPc hInput hValid =>
        subst hInput
        exact ⟨s, _, lockedOn_some (by rw [hPc]; rfl), fits_of_validated hValid⟩
      | passed hInput hPc hLast =>
        subst hInput
        refine ⟨s, _, lockedOn_some (WorkerPc.locks_of_last hLast), h.waiting i job hPc, ?_⟩
        exact hKeeps.2 (job, _) (by simp [System.takes?, hLast])

/-- **Every handler is invoked on a validated job.** Along every run on which nothing
moves the gate, and no deadline passes, while a job waits behind an older validation:
in the last section a worker took under the mutex before a callback, the client was
accepting Work, ready, not failed and on the job's revision, and the deadline was
ahead of the clock. -/
theorem dispatch_validated {steps : List (System × Action)} (h : (machine env).Run steps s)
    (hKeeps : ∀ step ∈ steps, step.1.keepsGate env step.2) {i : Nat}
    (hCalled : (s.workers i).called? = some job) :
    ∃ s₁ now, lockedOn i steps = some (s₁, now, job) ∧ s₁.client.Fits job ∧ job.InTime now := by
  have hScreened : (∀ step ∈ steps, step.1.keepsGate env step.2) → Screened steps s := by
    refine h.invariant (I := fun steps s =>
      (∀ step ∈ steps, step.1.keepsGate env step.2) → Screened steps s) ?_ ?_
    · intro _
      refine ⟨?_, ?_, ?_⟩
      · intro job hMem
        cases hMem
      · intro i job hCheck
        cases hCheck
      · intro i job hCheck
        cases hCheck
    · intro steps s a s' hRun hBefore hStep hKeeps
      have hScreened := hBefore fun step hMem => hKeeps step (List.mem_cons_of_mem _ hMem)
      exact hScreened.step hRun.reachable (hKeeps (s, a) List.mem_cons_self) hStep
  refine (hScreened hKeeps).past i job ?_
  generalize s.workers i = pc at hCalled ⊢
  cases pc <;> first | (cases hCalled; rfl) | cases hCalled

section Runs

open Deployment

/-- The Host opens a source, and its handler is called while nothing else happens. -/
theorem dispatch_validated_source :
    ∃ steps s job, (machine deployment).Run steps s ∧
      (∀ step ∈ steps, step.1.keepsGate deployment step.2) ∧
      (s.workers 0).called? = some job ∧ ∃ s₁ now, lockedOn 0 steps = some (s₁, now, job) ∧
        s₁.client.Fits job ∧ job.InTime now := by
  obtain ⟨steps, s, hRun, hFound⟩ := (machine deployment).exists_run_of_record
    (bringUp ++ hostFrame 1 1 (sourceOpenRequestFrame "f") ++ worker 0 4)
    (fun steps s => decide (∀ step ∈ steps, step.1.keepsGate deployment step.2) &&
      (s.workers 0).called?.isSome) (by decide +kernel)
  simp only [Bool.and_eq_true, decide_eq_true_eq] at hFound
  obtain ⟨hKeeps, hCalled⟩ := hFound
  obtain ⟨job, hCalled⟩ := Option.isSome_iff_exists.mp hCalled
  exact ⟨steps, s, job, hRun, hKeeps, hCalled, dispatch_validated hRun hKeeps hCalled⟩

/-- The Host opens a source and drains the client before a worker takes the job: its
handler is called on a client that accepts no Work. -/
theorem dispatch_unvalidated :
    ∃ steps s job s₁ now, (machine deployment).Run steps s ∧
      (s.workers 0).called? = some job ∧ lockedOn 0 steps = some (s₁, now, job) ∧
      s₁.client.flags.acceptingWork = false := by
  obtain ⟨steps, s, hRun, hFound⟩ := (machine deployment).exists_run_of_record
    (bringUp ++ hostFrame 1 1 (sourceOpenRequestFrame "f") ++ receiveDrain 1 2 ++ worker 0 4)
    (fun steps s => (s.workers 0).called?.any fun job =>
      (lockedOn 0 steps).any fun last =>
        last.2.2 == job && !last.1.client.flags.acceptingWork) (by decide +kernel)
  simp only [Option.any_eq_true, Bool.and_eq_true, beq_iff_eq, Bool.not_eq_true'] at hFound
  obtain ⟨job, hCalled, ⟨s₁, now, last⟩, hLocked, rfl, hClosed⟩ := hFound
  exact ⟨steps, s, last, s₁, now, hRun, hCalled, hLocked, hClosed⟩

end Runs

end AdapterRuntime.Model
