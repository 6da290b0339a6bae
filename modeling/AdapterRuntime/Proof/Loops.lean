import AdapterRuntime.Proof.Steps

/-!
# AdapterRuntime — the branches of the thread loops

`workerStep`, the two reader steps and the two writer steps read back once, one
constructor for each branch of the loop with the guard under which it is taken
(the texts of the reasons aside). Every later module that asks what a step of a
thread does to its part of the client splits these branches; none opens a loop
again.

* `workerStep_branch` — `DispatchLoop`, `HandleUnary`, `HandleOperation`, `HandleSourceOpen`.
* `controlReaderStep_branch` — `ControlStreamLoop` and `HandleControlResponse`.
* `workReaderStep_branch`, `followUpStep_branch` — `WorkStreamLoop`.
* `workWriterStep_branch`, `controlWriterStep_branch` — the writer loops.
-/

namespace AdapterRuntime.Model

open AdapterRuntime.Lib

-- ---------------------------------------------------------------------------
-- Dispatch workers
-- ---------------------------------------------------------------------------

/-- The client after a worker has taken the first job of the queue. -/
def Client.popped (c : Client) (job : DispatchJob) (rest : List DispatchJob) : Client :=
  { c with queues := { c.queues with
      dispatch := rest
      dispatchBytes := c.queues.dispatchBytes - job.accountedBytes
      activeDispatchJobs := c.queues.activeDispatchJobs + 1 } }

/-- The points at which a worker commits a terminal: the frame it commits, where it goes
on when the frame is committed, and where it goes on after it has signalled. -/
inductive WorkerPc.Commits (now : Int) :
    WorkerPc → DispatchJob → WorkFrame → WorkerPc → AfterSignal → Prop
  | cancelled {job : DispatchJob} :
      Commits now (.cancelledCommit job) job
        (rejectedDispatch now job.kind job.workId (text "cancelled")
          (text "Work was cancelled before dispatch") .cancelled)
        (.eraseToken job true) .eraseToken
  | context {job : DispatchJob} {error : Text} :
      Commits now (.contextReject job error) job
        (rejectedDispatch now job.kind job.workId (text "invalid-work-context") error)
        (.eraseToken job true) .eraseToken
  | input {job : DispatchJob} :
      Commits now (.inputReject job) job
        (rejectedDispatch now job.kind job.workId (text "input-schema-mismatch")
          (text (if job.kind = .unary then "unary input does not match its contract"
            else "operation input does not match its contract")))
        (.finish job true) .finish
  | result {job : DispatchJob} {frame : WorkFrame} :
      Commits now (.commit job frame) job frame (.finish job true) .finish
  | fallback {job : DispatchJob} :
      Commits now (.commitFallback job) job (fallbackTerminal now job.kind job.workId)
        (.finish job true) .finish

/-- A step of a dispatch worker, one case for each branch of the source. -/
inductive WorkerBranch (env : Env) (c : Client) :
    WorkerPc → WorkerInput → WorkerPc → Client → Prop
  | exit {now : Int} (hEmpty : c.queues.dispatch = []) (hStop : c.flags.stopRequested = true) :
      WorkerBranch env c .idle (.tick now) .exited c
  | pop {now : Int} {job : DispatchJob} {rest : List DispatchJob}
      (hQueue : c.queues.dispatch = job :: rest) :
      WorkerBranch env c .idle (.tick now) (.popped job) (c.popped job rest)
  | skipSource {now : Int} {job : DispatchJob} (hKind : job.kind = .sourceOpen)
      (hForeign : ∀ source, c.tables.sourceStreams.lookup job.workId = some source →
        ¬(source.connectionEpoch = job.connectionEpoch ∧
          job.cancellation = some source.cancellation)) :
      WorkerBranch env c (.popped job) (.tick now) (.sourceFinish job false) c
  | enterSource {now : Int} {job : DispatchJob} {source : SourceState}
      (hKind : job.kind = .sourceOpen)
      (hActive : c.tables.sourceStreams.lookup job.workId = some source)
      (hEpoch : source.connectionEpoch = job.connectionEpoch)
      (hOwn : job.cancellation = some source.cancellation) :
      WorkerBranch env c (.popped job) (.tick now) (.sourceInitial job) c.enterHandler
  | cancelled {now : Int} {job : DispatchJob} (hKind : job.kind ≠ .sourceOpen)
      (hFlag : c.cancelled job = true) :
      WorkerBranch env c (.popped job) (.tick now) (.cancelledCommit job) c
  | uncancelled {now : Int} {job : DispatchJob} (hKind : job.kind ≠ .sourceOpen)
      (hFlag : c.cancelled job = false) :
      WorkerBranch env c (.popped job) (.tick now) (.validate job) c
  | invalid {now : Int} {job : DispatchJob} {error : Text}
      (hError : validateWorkContext env c now job.context job.kind = .error error) :
      WorkerBranch env c (.validate job) (.tick now) (.contextReject job error) c.countRejected
  | valid {now : Int} {job : DispatchJob} {found : Nat × CapabilityEndpointContract}
      (hValid : validateWorkContext env c now job.context job.kind = .ok found) :
      WorkerBranch env c (.validate job) (.tick now) (.handle job found.1) c.enterHandler
  | refuseInput {now : Int} {job : DispatchJob} {binding : Nat}
      (hInput : inputAccepted env binding job = false) :
      WorkerBranch env c (.handle job binding) (.tick now) (.inputReject job) c
  | startUnary {now : Int} {job : DispatchJob} {binding : Nat}
      (hInput : inputAccepted env binding job = true) (hKind : job.kind = .unary) :
      WorkerBranch env c (.handle job binding) (.tick now) (.running job binding)
        (c.recordStarted job)
  | toOperation {now : Int} {job : DispatchJob} {binding : Nat}
      (hInput : inputAccepted env binding job = true) (hKind : job.kind ≠ .unary) :
      WorkerBranch env c (.handle job binding) (.tick now) (.queueAccepted job binding) c
  | accepted {now : Int} {job : DispatchJob} {binding : Nat} {c' : Client}
      (hQueue : c.queueWorkLocked env job.cancellation
        (operationFrame now job.workId .accepted) = (true, c')) :
      WorkerBranch env c (.queueAccepted job binding) (.tick now) (.queueStarted job binding) c'
  | unaccepted {now : Int} {job : DispatchJob} {binding : Nat} {reason : Text} {c' : Client}
      (hQueue : c.queueWorkLocked env job.cancellation
        (operationFrame now job.workId .accepted) = (false, c')) :
      WorkerBranch env c (.queueAccepted job binding) (.tick now) (.signal job reason .finish) c'
  | started {now : Int} {job : DispatchJob} {binding : Nat} {c' : Client}
      (hQueue : c.queueWorkLocked env job.cancellation
        (operationFrame now job.workId .started) = (true, c')) :
      WorkerBranch env c (.queueStarted job binding) (.tick now) (.running job binding)
        (c'.recordStarted job)
  | unstarted {now : Int} {job : DispatchJob} {binding : Nat} {reason : Text} {c' : Client}
      (hQueue : c.queueWorkLocked env job.cancellation
        (operationFrame now job.workId .started) = (false, c')) :
      WorkerBranch env c (.queueStarted job binding) (.tick now) (.signal job reason .finish) c'
  | returnUnary {outcome : Outcome UnaryResult} {job : DispatchJob} {binding : Nat}
      (hKind : job.kind = .unary) :
      WorkerBranch env c (.running job binding) (.unaryOutcome outcome)
        (.returnedUnary job binding (.ofOutcome outcome))
        (c.recordReturned (.unary (.ofOutcome outcome)) job)
  | returnOperation {outcome : Outcome OperationResult} {job : DispatchJob} {binding : Nat}
      (hKind : job.kind ≠ .unary) :
      WorkerBranch env c (.running job binding) (.operationOutcome outcome)
        (.returnedOperation job binding (.ofOutcome outcome))
        (c.recordReturned (.operation (.ofOutcome outcome)) job)
  | normalizeUnary {now : Int} {job : DispatchJob} {binding : Nat} {result : UnaryResult}
      {endpoint : CapabilityEndpointContract}
      (hEndpoint : handlerEndpoint env binding job = some endpoint) :
      WorkerBranch env c (.returnedUnary job binding result) (.tick now)
        (.commit job
          (unaryTerminal job.workId (normalizeUnary env endpoint (c.cancelled job) result))) c
  | normalizeOperation {now : Int} {job : DispatchJob} {binding : Nat} {result : OperationResult}
      {endpoint : CapabilityEndpointContract}
      (hEndpoint : handlerEndpoint env binding job = some endpoint) :
      WorkerBranch env c (.returnedOperation job binding result) (.tick now)
        (.commit job
          (operationTerminal now job.workId (normalizeOperation env endpoint result))) c
  | commit {now : Int} {pc done : WorkerPc} {job : DispatchJob} {frame : WorkFrame}
      {after : AfterSignal} {c' : Client} (hCommits : pc.Commits now job frame done after)
      (hCommit : c.commitTerminalFrame env job frame = (.committed, c')) :
      WorkerBranch env c pc (.tick now) done c'
  | tooLarge {now : Int} {job : DispatchJob} {frame : WorkFrame} {c' : Client}
      (hCommit : c.commitTerminalFrame env job frame = (.tooLarge, c')) :
      WorkerBranch env c (.commit job frame) (.tick now) (.commitFallback job) c'
  | uncommitted {now : Int} {pc done : WorkerPc} {job : DispatchJob} {frame : WorkFrame}
      {reason : Text} {after : AfterSignal} {result : TerminalCommitResult} {c' : Client}
      (hCommits : pc.Commits now job frame done after)
      (hCommit : c.commitTerminalFrame env job frame = (result, c'))
      (hResult : result = .unavailable ∨ (result = .tooLarge ∧ pc ≠ .commit job frame)) :
      WorkerBranch env c pc (.tick now) (.signal job reason after) c'
  | unheard {now : Int} {job : DispatchJob} {reason : Text} {after : AfterSignal}
      (hSession : c.session.sessionId = []) :
      WorkerBranch env c (.signal job reason after) (.tick now) (.afterSignal job after) c
  | signal {now : Int} {job : DispatchJob} {reason : Text} {after : AfterSignal}
      (hSession : c.session.sessionId ≠ []) :
      WorkerBranch env c (.signal job reason after) (.tick now)
        (.signalSession job c.session.sessionId reason after) c
  | signalSession {now : Int} {job : DispatchJob} {session reason : Text} {after : AfterSignal} :
      WorkerBranch env c (.signalSession job session reason after) (.tick now)
        (.afterSignal job after) (c.signalSessionFailure session reason)
  | eraseToken {now : Int} {job : DispatchJob} {committed : Bool} :
      WorkerBranch env c (.eraseToken job committed) (.tick now) (.leave job)
        ((c.releaseWorkToken job.workId).maybeQueueDrainStatus env)
  | leave {now : Int} {job : DispatchJob} :
      WorkerBranch env c (.leave job) (.tick now) .idle c.leaveJob
  | finish {now : Int} {job : DispatchJob} {committed : Bool} :
      WorkerBranch env c (.finish job committed) (.tick now) .idle
        (((c.leaveHandler.leaveJob).releaseWorkToken job.workId).maybeQueueDrainStatus env)
  | loseSource {now : Int} {job : DispatchJob}
      (hForeign : ∀ source, c.tables.sourceStreams.lookup job.workId = some source →
        source.connectionEpoch ≠ job.connectionEpoch) :
      WorkerBranch env c (.sourceInitial job) (.tick now) (.sourceFinish job true) c
  | findSource {now : Int} {job : DispatchJob} {source : SourceState}
      (hActive : c.tables.sourceStreams.lookup job.workId = some source)
      (hEpoch : source.connectionEpoch = job.connectionEpoch) :
      WorkerBranch env c (.sourceInitial job) (.tick now)
        (.sourceDispatch job source.bindingIndex) c
  | cancelSource {now : Int} {job : DispatchJob} {binding : Nat} (hFlag : c.cancelled job = true) :
      WorkerBranch env c (.sourceDispatch job binding) (.tick now)
        (.sourceReturned job binding
          (.reject .cancelled "cancelled" "source open was cancelled before dispatch")) c
  | startSource {now : Int} {job : DispatchJob} {binding : Nat} (hFlag : c.cancelled job = false) :
      WorkerBranch env c (.sourceDispatch job binding) (.tick now) (.sourceRunning job binding)
        (c.recordStarted job)
  | returnSource {outcome : Outcome SourceOpenDecision} {job : DispatchJob} {binding : Nat} :
      WorkerBranch env c (.sourceRunning job binding) (.sourceOutcome outcome)
        (.sourceReturned job binding (.ofOutcome outcome))
        (c.recordReturned (.sourceOpen (.ofOutcome outcome)) job)
  | normalizeSource {now : Int} {job : DispatchJob} {binding : Nat}
      {decision : SourceOpenDecision} :
      WorkerBranch env c (.sourceReturned job binding decision) (.tick now)
        (.sourceCommit job
          (normalizeDecision env (handlerEndpoint env binding job) (c.cancelled job) decision)) c
  | settleSource {now : Int} {job : DispatchJob} {decision : SourceOpenDecision} {c' : Client}
      (hCommit : commitSourceOpen env c job decision = (.settled, c')) :
      WorkerBranch env c (.sourceCommit job decision) (.tick now) (.sourceFinish job true) c'
  | failSource {now : Int} {job : DispatchJob} {decision : SourceOpenDecision} {reason : Text}
      {c' : Client} (hCommit : commitSourceOpen env c job decision = (.failPair, c')) :
      WorkerBranch env c (.sourceCommit job decision) (.tick now)
        (.signal job reason .sourceFinish) c'
  | declineSource {now : Int} {job : DispatchJob} {decision : SourceOpenDecision}
      {source : SourceState} {error : AdapterError} {c' : Client}
      (hCommit : commitSourceOpen env c job decision = (.notifySourceClosed source error, c')) :
      WorkerBranch env c (.sourceCommit job decision) (.tick now) (.sourceNotify job source error)
        c'
  | notifySource {now : Int} {job : DispatchJob} {source : SourceState} {error : AdapterError} :
      WorkerBranch env c (.sourceNotify job source error) (.tick now) (.sourceFinish job true)
        (c.notifySourceClosed env source error)
  | finishSource {now : Int} {job : DispatchJob} {dispatched : Bool} :
      WorkerBranch env c (.sourceFinish job dispatched) (.tick now) .idle
        (((if dispatched then c.leaveHandler else c).leaveJob).maybeQueueDrainStatus env)

variable {env : Env} {c c' : Client}

/-- A section that commits a terminal without a fallback of its own. -/
theorem commitStep_branch {now : Int} {pc pc' done : WorkerPc} {job : DispatchJob}
    {frame : WorkFrame} {reason : String} {after : AfterSignal}
    (hCommits : pc.Commits now job frame done after) (hOther : pc ≠ .commit job frame)
    (h : commitStep env c job frame done reason after = (pc', c')) :
    WorkerBranch env c pc (.tick now) pc' c' := by
  unfold commitStep at h
  cases hCommit : c.commitTerminalFrame env job frame with
  | mk result c₁ =>
    rw [hCommit] at h
    cases result with
    | committed =>
      cases h
      exact .commit hCommits hCommit
    | tooLarge =>
      cases h
      exact .uncommitted hCommits hCommit (.inr ⟨rfl, hOther⟩)
    | unavailable =>
      cases h
      exact .uncommitted hCommits hCommit (.inl rfl)

/-- A step of a worker on its own is one of its branches. -/
theorem workerTick_branch {now : Int} {pc pc' : WorkerPc}
    (h : workerTick env c now pc = some (pc', c')) :
    WorkerBranch env c pc (.tick now) pc' c' := by
  cases pc with
  | notStarted | exited | running | sourceRunning => cases h
  | idle =>
    simp only [workerTick, popStep] at h
    split at h
    · rename_i hEmpty
      split at h <;> rename_i hStop <;> cases h
      exact .exit hEmpty hStop
    · rename_i hQueue
      cases h
      exact .pop hQueue
  | popped job =>
    simp only [workerTick] at h
    split at h <;> rename_i hKind
    · split at h
      · rename_i hNone
        cases h
        exact .skipSource hKind fun source hActive => by simp [hNone] at hActive
      · rename_i source hActive
        split at h <;> rename_i hOwn <;> cases h
        · exact .enterSource hKind hActive hOwn.1 hOwn.2
        · refine .skipSource hKind fun other hOther => ?_
          rw [hActive, Option.some.injEq] at hOther
          rwa [← hOther]
    · split at h <;> rename_i hFlag <;> cases h
      · exact .cancelled hKind hFlag
      · exact .uncancelled hKind (by simpa using hFlag)
  | validate job =>
    simp only [workerTick] at h
    split at h <;> rename_i hContext <;> cases h
    · exact .invalid hContext
    · exact .valid hContext
  | handle job binding =>
    simp only [workerTick] at h
    split at h <;> rename_i hInput
    · cases h
      exact .refuseInput (by simpa using hInput)
    · have hInput : inputAccepted env binding job = true := by simpa using hInput
      split at h <;> rename_i hKind <;> cases h
      · exact .startUnary hInput hKind
      · exact .toOperation hInput hKind
  | queueAccepted job binding =>
    simp only [workerTick] at h
    split at h <;> rename_i hQueue <;> cases h
    · exact .accepted hQueue
    · exact .unaccepted hQueue
  | queueStarted job binding =>
    simp only [workerTick] at h
    split at h <;> rename_i hQueue <;> cases h
    · exact .started hQueue
    · exact .unstarted hQueue
  | returnedUnary job binding result =>
    simp only [workerTick] at h
    split at h <;> rename_i hEndpoint <;> cases h
    exact .normalizeUnary hEndpoint
  | returnedOperation job binding result =>
    simp only [workerTick] at h
    split at h <;> rename_i hEndpoint <;> cases h
    exact .normalizeOperation hEndpoint
  | commit job frame =>
    simp only [workerTick] at h
    split at h <;> rename_i hCommit <;> cases h
    · exact .commit .result hCommit
    · exact .tooLarge hCommit
    · exact .uncommitted .result hCommit (.inl rfl)
  | cancelledCommit job =>
    simp only [workerTick, Option.some.injEq] at h
    exact commitStep_branch .cancelled (by simp) h
  | contextReject job error =>
    simp only [workerTick, Option.some.injEq] at h
    exact commitStep_branch .context (by simp) h
  | inputReject job =>
    simp only [workerTick, Option.some.injEq] at h
    exact commitStep_branch .input (by simp) h
  | commitFallback job =>
    simp only [workerTick, Option.some.injEq] at h
    exact commitStep_branch .fallback (by simp) h
  | signal job reason after =>
    simp only [workerTick] at h
    split at h <;> rename_i hSession <;> cases h
    · exact .unheard hSession
    · exact .signal hSession
  | signalSession job session reason after =>
    cases h
    exact .signalSession
  | eraseToken job committed =>
    cases h
    exact .eraseToken
  | leave job =>
    cases h
    exact .leave
  | finish job committed =>
    cases h
    exact .finish
  | sourceInitial job =>
    simp only [workerTick] at h
    split at h
    · rename_i hNone
      cases h
      exact .loseSource fun source hActive => by simp [hNone] at hActive
    · rename_i source hActive
      split at h <;> rename_i hEpoch <;> cases h
      · exact .findSource hActive hEpoch
      · refine .loseSource fun other hOther => ?_
        rw [hActive, Option.some.injEq] at hOther
        rwa [← hOther]
  | sourceDispatch job binding =>
    simp only [workerTick] at h
    split at h <;> rename_i hFlag <;> cases h
    · exact .cancelSource hFlag
    · exact .startSource (by simpa using hFlag)
  | sourceReturned job binding decision =>
    cases h
    exact .normalizeSource
  | sourceCommit job decision =>
    simp only [workerTick] at h
    split at h <;> rename_i hCommit <;> cases h
    · exact .settleSource hCommit
    · exact .failSource hCommit
    · exact .declineSource hCommit
  | sourceNotify job source error =>
    cases h
    exact .notifySource
  | sourceFinish job dispatched =>
    cases h
    exact .finishSource

/-- A step of a worker is one of its branches: the outcome of a handler belongs to the kind
of the job. -/
theorem workerStep_branch {pc pc' : WorkerPc} {input : WorkerInput}
    (h : workerStep env c pc input = some (pc', c')) : WorkerBranch env c pc input pc' c' := by
  cases input with
  | tick now => exact workerTick_branch h
  | unaryOutcome outcome =>
    simp only [workerStep] at h
    split at h
    · split at h <;> rename_i hKind <;> cases h
      exact .returnUnary hKind
    · cases h
  | operationOutcome outcome =>
    simp only [workerStep] at h
    split at h
    · split at h <;> rename_i hKind <;> cases h
      exact .returnOperation hKind
    · cases h
  | sourceOutcome outcome =>
    simp only [workerStep] at h
    split at h <;> cases h
    exact .returnSource

-- ---------------------------------------------------------------------------
-- Headers and fronts of the queues
-- ---------------------------------------------------------------------------

/-- The client after the Control reader has accepted the header of a frame. -/
def Client.controlReceived (c : Client) (sequence : Nat) : Client :=
  { c with session := { c.session with controlInSequence := sequence } }

/-- The client after the Work reader has accepted the header of a frame. -/
def Client.workReceived (c : Client) (sequence : Nat) : Client :=
  { c with session := { c.session with workInSequence := sequence } }

/-- The client after the next Work frame has been stamped. -/
def Client.workStamped (c : Client) : Client :=
  { c with session := { c.session with workOutSequence := c.session.workOutSequence + 1 } }

/-- The header the next Work frame is stamped with. -/
def Client.nextWorkHeader (env : Env) (c : Client) (fence : SessionFence) : SessionHeader :=
  stampHeader env fence fence.connectionEpoch (c.session.workOutSequence + 1)

/-- The header the next Control frame is stamped with. -/
def Client.nextControlHeader (env : Env) (c : Client) (fence : SessionFence) : SessionHeader :=
  stampHeader env fence fence.connectionEpoch (c.session.controlOutSequence + 1)

/-- The client after the next Control frame has been stamped. -/
def Client.controlStamped (c : Client) : Client :=
  { c with session := { c.session with controlOutSequence := c.session.controlOutSequence + 1 } }

/-- The client after the Work writer has taken and stamped the front of its queue. -/
def Client.workTaken (c : Client) (front : QueuedWorkFrame) (rest : List QueuedWorkFrame) :
    Client :=
  { c.workStamped with queues := { c.queues with
      work := rest, workBytes := c.queues.workBytes - front.accountedBytes } }

/-- The client after the Control writer has taken and stamped the front of its queue. -/
def Client.controlTaken (c : Client) (front : QueuedControlFrame)
    (rest : List QueuedControlFrame) : Client :=
  { c.controlStamped with queues := { c.queues with
      control := rest, controlBytes := c.queues.controlBytes - front.accountedBytes } }

-- ---------------------------------------------------------------------------
-- Control reader
-- ---------------------------------------------------------------------------

/-- A step of the Control reader, one case for each branch of the source. -/
inductive ControlReaderBranch (env : Env) (c : Client) :
    ControlReaderPc → ReaderInput ControlResponse → ControlReaderPc → Client → Prop
  | opened {fence : SessionFence} :
      ControlReaderBranch env c (.opening fence) (.opened true) (.reading fence)
        (c.log (.controlOpened fence.connectionEpoch))
  | unopened {fence : SessionFence} {reason : Text} :
      ControlReaderBranch env c (.opening fence) (.opened false) .exited
        (c.signalSessionFailure fence.sessionId reason)
  | stopping {now : Int} {fence : SessionFence} (hStop : c.flags.stopRequested = true) :
      ControlReaderBranch env c (.reading fence) (.tick now) (.closing fence) c
  | awaitFrame {now : Int} {fence : SessionFence} (hStop : c.flags.stopRequested = false) :
      ControlReaderBranch env c (.reading fence) (.tick now) (.blocked fence) c
  | oversize {fence : SessionFence} {response : ControlResponse} {reason : Text}
      (hLarge : fence.maximumControlFrameBytes < env.protobuf.controlResponseBytes response) :
      ControlReaderBranch env c (.blocked fence) (.received response) (.terminal fence reason) c
  | received {fence : SessionFence} {response : ControlResponse}
      (hFits : env.protobuf.controlResponseBytes response ≤ fence.maximumControlFrameBytes) :
      ControlReaderBranch env c (.blocked fence) (.received response)
        (.validating fence response) c
  | readFailed {fence : SessionFence} :
      ControlReaderBranch env c (.blocked fence) .readFailed (.closing fence) c
  | badHeader {now : Int} {fence : SessionFence} {response : ControlResponse}
      {error reason : Text}
      (hInvalid : validateHeader env response.header fence c.session.controlInSequence =
        .error error) :
      ControlReaderBranch env c (.validating fence response) (.tick now) (.terminal fence reason) c
  | goodHeader {now : Int} {fence : SessionFence} {response : ControlResponse}
      (hValid : validateHeader env response.header fence c.session.controlInSequence = .ok ()) :
      ControlReaderBranch env c (.validating fence response) (.tick now)
        (.handling fence response.frame) (c.controlReceived response.header.frameSequence)
  | badSpec {now : Int} {fence : SessionFence} {spec : AdapterInstanceSpec} {error : Text}
      (hInvalid : env.validateInstanceSpec spec = .error error) :
      ControlReaderBranch env c (.handling fence (.instanceSpec spec)) (.tick now)
        (queueSpecResult fence (specRefused spec .rejected "invalid-instance-spec" error
          env.disabledCapabilityStatuses)) c
  | goodSpec {now : Int} {fence : SessionFence} {spec : AdapterInstanceSpec} {bindings : List Nat}
      (hValid : env.validateInstanceSpec spec = .ok bindings) :
      ControlReaderBranch env c (.handling fence (.instanceSpec spec)) (.tick now)
        (.applying fence (.begin ⟨spec, bindings⟩)) c
  | ping {now : Int} {fence : SessionFence} {nonce : Nat} {reason : Text} :
      ControlReaderBranch env c (.handling fence (.ping nonce)) (.tick now)
        (.queueing fence (.heartbeat (buildHeartbeat c now nonce)) reason) c
  | drain {now : Int} {fence : SessionFence} :
      ControlReaderBranch env c (.handling fence .drain) (.tick now) (.reading fence)
        (c.beginDrain env)
  | stop {now : Int} {fence : SessionFence} :
      ControlReaderBranch env c (.handling fence .stop) (.tick now) (.remoteStop fence)
        (if env.callbacks.stopRequested then c.log .stopRequestedCalled else c)
  | hostError {now : Int} {fence : SessionFence} {error : AdapterError} {reason : Text} :
      ControlReaderBranch env c (.handling fence (.protocolError error)) (.tick now)
        (.terminal fence reason) c
  | emptyFrame {now : Int} {fence : SessionFence} {reason : Text} :
      ControlReaderBranch env c (.handling fence .notSet) (.tick now) (.signal fence reason) c
  | apply {input : ReaderInput ControlResponse} {fence : SessionFence} {at_ next : ApplyPc}
      {c' : Client} (hMove : ApplyMove env fence.sessionId c at_ (.inl next) c') :
      ControlReaderBranch env c (.applying fence at_) input (.applying fence next) c'
  | conclude {input : ReaderInput ControlResponse} {fence : SessionFence} {at_ : ApplyPc}
      {result : ApplyInstanceSpecResult} {c' : Client}
      (hMove : ApplyMove env fence.sessionId c at_ (.inr result) c') :
      ControlReaderBranch env c (.applying fence at_) input (queueSpecResult fence result) c'
  | queued {now : Int} {fence : SessionFence} {frame : ControlFrame} {reason : Text} {c' : Client}
      (hQueue : c.queueControlLocked env frame = (true, c')) :
      ControlReaderBranch env c (.queueing fence frame reason) (.tick now) (.reading fence) c'
  | overflow {now : Int} {fence : SessionFence} {frame : ControlFrame} {reason : Text}
      {c' : Client} (hQueue : c.queueControlLocked env frame = (false, c')) :
      ControlReaderBranch env c (.queueing fence frame reason) (.tick now) (.signal fence reason) c'
  | remoteStop {now : Int} {fence : SessionFence} :
      ControlReaderBranch env c (.remoteStop fence) (.tick now) (.closing fence) c.requestStop
  | signal {now : Int} {fence : SessionFence} {reason : Text} :
      ControlReaderBranch env c (.signal fence reason) (.tick now) (.closing fence)
        (c.signalSessionFailure fence.sessionId reason)
  | terminal {now : Int} {fence : SessionFence} {reason : Text} :
      ControlReaderBranch env c (.terminal fence reason) (.tick now) (.closing fence)
        (c.signalTerminalSessionFailure fence.sessionId reason)
  | closed {fence : SessionFence} {status : StreamStatus} :
      ControlReaderBranch env c (.closing fence) (.status status) (.finished fence status) c
  | ended {now : Int} {fence : SessionFence} {status : StreamStatus}
      (hStop : c.flags.stopRequested = true) :
      ControlReaderBranch env c (.finished fence status) (.tick now) .exited c
  | rejected {now : Int} {fence : SessionFence} (hStop : c.flags.stopRequested = false) :
      ControlReaderBranch env c (.finished fence .terminal) (.tick now) (.lastTerminal fence) c
  | lost {now : Int} {fence : SessionFence} {status : StreamStatus}
      (hStop : c.flags.stopRequested = false) (hStatus : status ≠ .terminal) :
      ControlReaderBranch env c (.finished fence status) (.tick now) (.lastSignal fence status) c
  | lastTerminal {now : Int} {fence : SessionFence} {reason : Text} :
      ControlReaderBranch env c (.lastTerminal fence) (.tick now) .exited
        (c.signalTerminalSessionFailure fence.sessionId reason)
  | lastSignal {now : Int} {fence : SessionFence} {status : StreamStatus} {reason : Text} :
      ControlReaderBranch env c (.lastSignal fence status) (.tick now) .exited
        (c.signalSessionFailure fence.sessionId reason)

/-- The handling of a frame is one of the branches of the reader. -/
theorem handleControlResponse_branch {now : Int} {fence : SessionFence} {frame : HostControl}
    {pc' : ControlReaderPc} (h : handleControlResponse env c now fence frame = (pc', c')) :
    ControlReaderBranch env c (.handling fence frame) (.tick now) pc' c' := by
  cases frame with
  | instanceSpec spec =>
    simp only [handleControlResponse] at h
    split at h <;> rename_i hSpec <;> cases h
    · exact .badSpec hSpec
    · exact .goodSpec hSpec
  | ping nonce =>
    cases h
    exact .ping
  | drain =>
    cases h
    exact .drain
  | stop =>
    cases h
    exact .stop
  | protocolError error =>
    cases h
    exact .hostError
  | notSet =>
    cases h
    exact .emptyFrame

/-- A step of the transaction is one of the branches of the reader. -/
theorem afterApply_branch {input : ReaderInput ControlResponse} {fence : SessionFence}
    {at_ : ApplyPc} {r : ApplyNext × Client} {pc' : ControlReaderPc}
    (hMove : ApplyMove env fence.sessionId c at_ r.1 r.2) (h : afterApply fence r = (pc', c')) :
    ControlReaderBranch env c (.applying fence at_) input pc' c' := by
  obtain ⟨next | result, c₁⟩ := r
  · cases h
    exact .apply hMove
  · cases h
    exact .conclude hMove

/-- A step of the Control reader is one of its branches. -/
theorem controlReaderStep_branch {pc pc' : ControlReaderPc} {input : ReaderInput ControlResponse}
    (h : controlReaderStep env c pc input = some (pc', c')) :
    ControlReaderBranch env c pc input pc' c' := by
  unfold controlReaderStep at h
  split at h
  · split at h <;> rename_i hOk <;> cases h
    · subst hOk
      exact .opened
    · obtain rfl := Bool.eq_false_iff.mpr hOk
      exact .unopened
  · split at h <;> rename_i hStop <;> cases h
    · exact .stopping hStop
    · exact .awaitFrame (by simpa using hStop)
  · split at h <;> rename_i hLarge <;> cases h
    · exact .oversize hLarge
    · exact .received (Nat.le_of_not_lt hLarge)
  · cases h
    exact .readFailed
  · split at h <;> rename_i hHeader <;> cases h <;>
      unfold Client.validateControlHeader at hHeader <;> split at hHeader <;>
      rename_i hHeader <;> cases hHeader
    · exact .badHeader hHeader
    · exact .goodHeader hHeader
  · exact handleControlResponse_branch (Option.some.inj h)
  -- the transaction
  · obtain ⟨r, hTick, hAfter⟩ := Option.map_eq_some_iff.mp h
    exact afterApply_branch (applyTick_cases hTick) hAfter
  · obtain ⟨r, hCall, hAfter⟩ := Option.map_eq_some_iff.mp h
    exact afterApply_branch (applyCallback_cases _ hCall) hAfter
  · split at h <;> rename_i hQueue <;> cases h
    · exact .queued hQueue
    · exact .overflow hQueue
  -- the ends of the stream
  · cases h
    exact .remoteStop
  · cases h
    exact .signal
  · cases h
    exact .terminal
  · cases h
    exact .closed
  · split at h <;> rename_i hStop
    · cases h
      exact .ended hStop
    · have hStop : c.flags.stopRequested = false := by simpa using hStop
      split at h <;> rename_i hStatus <;> cases h
      · subst hStatus
        exact .rejected hStop
      · exact .lost hStop hStatus
  · cases h
    exact .lastTerminal
  · cases h
    exact .lastSignal
  · cases h

-- ---------------------------------------------------------------------------
-- Work reader
-- ---------------------------------------------------------------------------

/-- A step of the Work reader, one case for each branch of the source. -/
inductive WorkReaderBranch (env : Env) (c : Client) :
    WorkReaderPc → ReaderInput WorkResponse → WorkReaderPc → Client → Prop
  | opened {fence : SessionFence} :
      WorkReaderBranch env c (.opening fence) (.opened true) (.reading fence)
        (c.log (.workOpened fence.connectionEpoch))
  | unopened {fence : SessionFence} {reason : Text} :
      WorkReaderBranch env c (.opening fence) (.opened false) .exited
        (c.signalSessionFailure fence.sessionId reason)
  | stopping {now : Int} {fence : SessionFence} (hStop : c.flags.stopRequested = true) :
      WorkReaderBranch env c (.reading fence) (.tick now) (.closing fence) c
  | awaitFrame {now : Int} {fence : SessionFence} (hStop : c.flags.stopRequested = false) :
      WorkReaderBranch env c (.reading fence) (.tick now) (.blocked fence) c
  | oversize {fence : SessionFence} {response : WorkResponse} {reason : Text}
      (hLarge : fence.maximumWorkFrameBytes < env.protobuf.workResponseBytes response) :
      WorkReaderBranch env c (.blocked fence) (.received response) (.terminal fence reason) c
  | received {fence : SessionFence} {response : WorkResponse}
      (hFits : env.protobuf.workResponseBytes response ≤ fence.maximumWorkFrameBytes) :
      WorkReaderBranch env c (.blocked fence) (.received response) (.validating fence response) c
  | readFailed {fence : SessionFence} :
      WorkReaderBranch env c (.blocked fence) .readFailed (.closing fence) c
  | badHeader {now : Int} {fence : SessionFence} {response : WorkResponse} {error reason : Text}
      (hInvalid : validateHeader env response.header fence c.session.workInSequence =
        .error error) :
      WorkReaderBranch env c (.validating fence response) (.tick now) (.terminal fence reason) c
  | goodHeader {now : Int} {fence : SessionFence} {response : WorkResponse}
      (hValid : validateHeader env response.header fence c.session.workInSequence = .ok ()) :
      WorkReaderBranch env c (.validating fence response) (.tick now) (.handling fence response)
        (c.workReceived response.header.frameSequence)
  | handle {now : Int} {fence : SessionFence} {response : WorkResponse} {todo : FollowUp}
      {c' : Client} (hHandle : handleWorkResponse env c now response = (.inl todo, c')) :
      WorkReaderBranch env c (.handling fence response) (.tick now) (.followUp fence todo) c'
  | hostError {now : Int} {fence : SessionFence} {response : WorkResponse} {reason : Text}
      {c' : Client} (hHandle : handleWorkResponse env c now response = (.inr reason, c')) :
      WorkReaderBranch env c (.handling fence response) (.tick now) (.terminal fence reason) c'
  | followUp {now : Int} {fence : SessionFence} {todo : FollowUp} {pc' : WorkReaderPc}
      {c' : Client} (hFollow : followUpStep env c fence todo = (pc', c')) :
      WorkReaderBranch env c (.followUp fence todo) (.tick now) pc' c'
  | signalSession {now : Int} {fence : SessionFence} {session reason : Text} :
      WorkReaderBranch env c (.signalSession fence session reason) (.tick now) (.reading fence)
        (c.signalSessionFailure session reason)
  | terminal {now : Int} {fence : SessionFence} {reason : Text} :
      WorkReaderBranch env c (.terminal fence reason) (.tick now) (.closing fence)
        (c.signalTerminalSessionFailure fence.sessionId reason)
  | closed {fence : SessionFence} {status : StreamStatus} :
      WorkReaderBranch env c (.closing fence) (.status status) (.finished fence status) c
  | ended {now : Int} {fence : SessionFence} {status : StreamStatus}
      (hStop : c.flags.stopRequested = true) :
      WorkReaderBranch env c (.finished fence status) (.tick now) .exited c
  | rejected {now : Int} {fence : SessionFence} (hStop : c.flags.stopRequested = false) :
      WorkReaderBranch env c (.finished fence .terminal) (.tick now) (.lastTerminal fence) c
  | lost {now : Int} {fence : SessionFence} {status : StreamStatus}
      (hStop : c.flags.stopRequested = false) (hStatus : status ≠ .terminal) :
      WorkReaderBranch env c (.finished fence status) (.tick now) (.lastSignal fence status) c
  | lastTerminal {now : Int} {fence : SessionFence} {reason : Text} :
      WorkReaderBranch env c (.lastTerminal fence) (.tick now) .exited
        (c.signalTerminalSessionFailure fence.sessionId reason)
  | lastSignal {now : Int} {fence : SessionFence} {status : StreamStatus} {reason : Text} :
      WorkReaderBranch env c (.lastSignal fence status) (.tick now) .exited
        (c.signalSessionFailure fence.sessionId reason)

/-- A follow-up of the Work reader, one case for each branch of the source. -/
inductive FollowUpBranch (env : Env) (c : Client) (fence : SessionFence) :
    FollowUp → WorkReaderPc → Client → Prop
  | done : FollowUpBranch env c fence .done (.reading fence) c
  | reported {sequence : Nat} {message : Text} {c' : Client}
      (hQueue : c.queueWorkLocked env none (protocolErrorFrame sequence message) = (true, c')) :
      FollowUpBranch env c fence (.protocolError sequence message) (.reading fence) c'
  | unreported {sequence : Nat} {message reason : Text} {c' : Client}
      (hQueue : c.queueWorkLocked env none (protocolErrorFrame sequence message) = (false, c')) :
      FollowUpBranch env c fence (.protocolError sequence message)
        (.followUp fence (.signalFailure reason)) c'
  | unheard {reason : Text} (hSession : c.session.sessionId = []) :
      FollowUpBranch env c fence (.signalFailure reason) (.reading fence) c
  | signal {reason : Text} (hSession : c.session.sessionId ≠ []) :
      FollowUpBranch env c fence (.signalFailure reason)
        (.signalSession fence c.session.sessionId reason) c
  | replayed {frame : WorkFrame} {reason : Text} {c' : Client}
      (hQueue : c.queueWorkLocked env none frame = (true, c')) :
      FollowUpBranch env c fence (.queueReplay frame reason) (.reading fence) c'
  | unreplayed {frame : WorkFrame} {reason : Text} {c' : Client}
      (hQueue : c.queueWorkLocked env none frame = (false, c')) :
      FollowUpBranch env c fence (.queueReplay frame reason)
        (.followUp fence (.signalFailure reason)) c'
  | answered {job : DispatchJob} {frame : WorkFrame} {c' : Client}
      (hCommit : c.commitTerminalFrame env job frame = (.committed, c')) :
      FollowUpBranch env c fence (.commitImmediate job frame) (.reading fence) c'
  | unanswered {job : DispatchJob} {frame : WorkFrame} {reason : Text}
      {result : TerminalCommitResult} {c' : Client}
      (hCommit : c.commitTerminalFrame env job frame = (result, c'))
      (hResult : result ≠ .committed) :
      FollowUpBranch env c fence (.commitImmediate job frame)
        (.followUp fence (.signalFailure reason)) c'
  | notify {source : SourceState} {error : AdapterError} :
      FollowUpBranch env c fence (.notifySourceClosed source error) (.reading fence)
        (c.notifySourceClosed env source error)

/-- A follow-up is one of its branches. -/
theorem followUpStep_branch {fence : SessionFence} {todo : FollowUp} {pc' : WorkReaderPc}
    (h : followUpStep env c fence todo = (pc', c')) : FollowUpBranch env c fence todo pc' c' := by
  cases todo with
  | done =>
    cases h
    exact .done
  | protocolError sequence message =>
    simp only [followUpStep] at h
    split at h <;> rename_i hQueue <;> cases h
    · exact .reported hQueue
    · exact .unreported hQueue
  | signalFailure reason =>
    simp only [followUpStep] at h
    split at h <;> rename_i hSession <;> cases h
    · exact .unheard hSession
    · exact .signal hSession
  | queueReplay frame reason =>
    simp only [followUpStep] at h
    split at h <;> rename_i hQueue <;> cases h
    · exact .replayed hQueue
    · exact .unreplayed hQueue
  | commitImmediate job frame =>
    simp only [followUpStep] at h
    cases hCommit : c.commitTerminalFrame env job frame with
    | mk result c₁ =>
      rw [hCommit] at h
      cases result with
      | committed =>
        cases h
        exact .answered hCommit
      | tooLarge | unavailable =>
        cases h
        exact .unanswered hCommit (by decide)
  | notifySourceClosed source error =>
    cases h
    exact .notify

/-- A step of the Work reader is one of its branches. -/
theorem workReaderStep_branch {pc pc' : WorkReaderPc} {input : ReaderInput WorkResponse}
    (h : workReaderStep env c pc input = some (pc', c')) :
    WorkReaderBranch env c pc input pc' c' := by
  unfold workReaderStep at h
  split at h
  · split at h <;> rename_i hOk <;> cases h
    · subst hOk
      exact .opened
    · obtain rfl := Bool.eq_false_iff.mpr hOk
      exact .unopened
  · split at h <;> rename_i hStop <;> cases h
    · exact .stopping hStop
    · exact .awaitFrame (by simpa using hStop)
  · split at h <;> rename_i hLarge <;> cases h
    · exact .oversize hLarge
    · exact .received (Nat.le_of_not_lt hLarge)
  · cases h
    exact .readFailed
  · split at h <;> rename_i hHeader <;> cases h <;>
      unfold Client.validateWorkHeader at hHeader <;> split at hHeader <;>
      rename_i hHeader <;> cases hHeader
    · exact .badHeader hHeader
    · exact .goodHeader hHeader
  · split at h <;> rename_i hHandle <;> cases h
    · exact .handle hHandle
    · exact .hostError hHandle
  · exact .followUp (Option.some.inj h)
  -- the ends of the stream
  · cases h
    exact .signalSession
  · cases h
    exact .terminal
  · cases h
    exact .closed
  · split at h <;> rename_i hStop
    · cases h
      exact .ended hStop
    · have hStop : c.flags.stopRequested = false := by simpa using hStop
      split at h <;> rename_i hStatus <;> cases h
      · subst hStatus
        exact .rejected hStop
      · exact .lost hStop hStatus
  · cases h
    exact .lastTerminal
  · cases h
    exact .lastSignal
  · cases h

-- ---------------------------------------------------------------------------
-- Writers
-- ---------------------------------------------------------------------------

/-- A step of the Work writer, one case for each branch of the source. -/
inductive WorkWriterBranch (env : Env) (c : Client) :
    WorkWriterPc → WriterInput → WorkWriterPc → Client → Prop
  | attach {fence : SessionFence} (hAllowed : c.attachAllowed fence = true)
      (hLive : c.pairLive fence = true) :
      WorkWriterBranch env c (.attach fence) .tick
        (.writingAttach fence (c.nextWorkHeader env fence)
          (.attach c.spec.specRevision c.spec.specDigest)) c.workStamped
  | unattached {fence : SessionFence} {reason : Text}
      (hShut : (c.attachAllowed fence && c.pairLive fence) = false) :
      WorkWriterBranch env c (.attach fence) .tick (.signal fence reason) c
  | attached {fence : SessionFence} {header : SessionHeader} {frame : WorkFrame}
      (hFits : withinLimit fence.maximumWorkFrameBytes
        (env.protobuf.workRequestBytes header frame) = true) :
      WorkWriterBranch env c (.writingAttach fence header frame) (.wrote true) (.markReady fence)
        (c.log (.workWritten fence.connectionEpoch header frame))
  | loseAttach {fence : SessionFence} {header : SessionHeader} {frame : WorkFrame} {ok : Bool}
      {reason : Text}
      (hLost : (withinLimit fence.maximumWorkFrameBytes
        (env.protobuf.workRequestBytes header frame) && ok) = false) :
      WorkWriterBranch env c (.writingAttach fence header frame) (.wrote ok)
        (.signal fence reason) c
  | ready {fence : SessionFence} :
      WorkWriterBranch env c (.markReady fence) .tick (.loop fence) (c.markReady fence)
  | ended {fence : SessionFence} (hOver : c.pairLive fence = false) :
      WorkWriterBranch env c (.loop fence) .tick .exited c
  | dequeue {fence : SessionFence} {front : QueuedWorkFrame} {rest : List QueuedWorkFrame}
      (hLive : c.pairLive fence = true) (hQueue : c.queues.work = front :: rest) :
      WorkWriterBranch env c (.loop fence) .tick
        (.writing fence (c.nextWorkHeader env fence) front.request) (c.workTaken front rest)
  | write {fence : SessionFence} {header : SessionHeader} {frame : WorkFrame}
      (hFits : withinLimit fence.maximumWorkFrameBytes
        (env.protobuf.workRequestBytes header frame) = true) :
      WorkWriterBranch env c (.writing fence header frame) (.wrote true) (.loop fence)
        (c.log (.workWritten fence.connectionEpoch header frame))
  | lose {fence : SessionFence} {header : SessionHeader} {frame : WorkFrame} {ok : Bool}
      {reason : Text}
      (hLost : (withinLimit fence.maximumWorkFrameBytes
        (env.protobuf.workRequestBytes header frame) && ok) = false) :
      WorkWriterBranch env c (.writing fence header frame) (.wrote ok) (.signal fence reason) c
  | signal {fence : SessionFence} {reason : Text} :
      WorkWriterBranch env c (.signal fence reason) .tick .exited
        (c.signalSessionFailure fence.sessionId reason)

/-- A step of the Work writer is one of its branches. -/
theorem workWriterStep_branch {pc pc' : WorkWriterPc} {input : WriterInput}
    (h : workWriterStep env c pc input = some (pc', c')) :
    WorkWriterBranch env c pc input pc' c' := by
  unfold workWriterStep at h
  split at h
  · split at h <;> rename_i hBuild <;> cases h <;> unfold Client.buildAttach at hBuild <;>
      split at hBuild <;> rename_i hOpen <;> cases hBuild
    · rw [Bool.and_eq_true] at hOpen
      exact .attach hOpen.1 hOpen.2
    · exact .unattached (Bool.eq_false_iff.mpr hOpen)
  · split at h <;> rename_i hSent <;> cases h
    · obtain ⟨hFits, rfl⟩ := Bool.and_eq_true_iff.mp hSent
      exact .attached hFits
    · exact .loseAttach (Bool.eq_false_iff.mpr hSent)
  · cases h
    exact .ready
  · split at h <;> rename_i hLive
    · cases h
      exact .ended (by simpa using hLive)
    · split at h <;> rename_i hDequeue <;> cases h
      unfold Client.dequeueWork at hDequeue
      split at hDequeue <;> rename_i hQueue <;> cases hDequeue
      exact .dequeue (by simpa using hLive) hQueue
  · split at h <;> rename_i hSent <;> cases h
    · obtain ⟨hFits, rfl⟩ := Bool.and_eq_true_iff.mp hSent
      exact .write hFits
    · exact .lose (Bool.eq_false_iff.mpr hSent)
  · cases h
    exact .signal
  · cases h

/-- A step of the Control writer, one case for each branch of the source. -/
inductive ControlWriterBranch (env : Env) (c : Client) :
    ControlWriterPc → WriterInput → ControlWriterPc → Client → Prop
  | ended {fence : SessionFence} {input : WriterInput} (hOver : c.pairLive fence = false)
      (hInput : ∀ ok, input ≠ .wrote ok) :
      ControlWriterBranch env c (.loop fence) input .exited c
  | dequeue {fence : SessionFence} {front : QueuedControlFrame} {rest : List QueuedControlFrame}
      (hLive : c.pairLive fence = true) (hQueue : c.queues.control = front :: rest) :
      ControlWriterBranch env c (.loop fence) .tick
        (.writing fence (c.nextControlHeader env fence) front.request) (c.controlTaken front rest)
  | heartbeat {now : Int} {fence : SessionFence} (hLive : c.pairLive fence = true) :
      ControlWriterBranch env c (.loop fence) (.heartbeat now)
        (.writing fence (c.nextControlHeader env fence) (.heartbeat (buildHeartbeat c now 0)))
        c.controlStamped
  | write {fence : SessionFence} {header : SessionHeader} {frame : ControlFrame}
      (hFits : withinLimit fence.maximumControlFrameBytes
        (env.protobuf.controlRequestBytes header frame) = true) :
      ControlWriterBranch env c (.writing fence header frame) (.wrote true)
        (afterControlWrite fence frame)
        (c.log (.controlWritten fence.connectionEpoch header frame))
  | lose {fence : SessionFence} {header : SessionHeader} {frame : ControlFrame} {ok : Bool}
      {reason : Text}
      (hLost : (withinLimit fence.maximumControlFrameBytes
        (env.protobuf.controlRequestBytes header frame) && ok) = false) :
      ControlWriterBranch env c (.writing fence header frame) (.wrote ok) (.signal fence reason) c
  | gate {fence : SessionFence} :
      ControlWriterBranch env c (.gate fence) .tick (.loop fence) (c.openAttachGate fence)
  | signal {fence : SessionFence} {reason : Text} :
      ControlWriterBranch env c (.signal fence reason) .tick .exited
        (c.signalSessionFailure fence.sessionId reason)
  | terminal {fence : SessionFence} {reason : Text} :
      ControlWriterBranch env c (.terminal fence reason) .tick .exited
        (c.signalTerminalSessionFailure fence.sessionId reason)

/-- A step of the Control writer is one of its branches. -/
theorem controlWriterStep_branch {pc pc' : ControlWriterPc} {input : WriterInput}
    (h : controlWriterStep env c pc input = some (pc', c')) :
    ControlWriterBranch env c pc input pc' c' := by
  unfold controlWriterStep at h
  split at h
  · split at h <;> rename_i hLive
    · cases h
      exact .ended (by simpa using hLive) (by simp)
    · split at h <;> rename_i hDequeue <;> cases h
      unfold Client.dequeueControl at hDequeue
      split at hDequeue <;> rename_i hQueue <;> cases hDequeue
      exact .dequeue (by simpa using hLive) hQueue
  · split at h <;> rename_i hLive <;> cases h
    · exact .ended (by simpa using hLive) (by simp)
    · exact .heartbeat (by simpa using hLive)
  · split at h <;> rename_i hSent <;> cases h
    · obtain ⟨hFits, rfl⟩ := Bool.and_eq_true_iff.mp hSent
      exact .write hFits
    · exact .lose (Bool.eq_false_iff.mpr hSent)
  · cases h
    exact .gate
  · cases h
    exact .signal
  · cases h
    exact .terminal
  · cases h

end AdapterRuntime.Model
