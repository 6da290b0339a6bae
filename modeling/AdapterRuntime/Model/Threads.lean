import AdapterRuntime.Model.Session

/-!
# AdapterRuntime — the threads

Each thread of the client is a program counter and a step function. A step is
one section under `mutex_`, one read of an atomic flag, one callback, or one
blocking call of the transport; between two steps of a thread any other thread
may move. What the environment decides — the frames of the Host, the results
of callbacks, transport outcomes, the clock — is the input of the step. `none`
means that the thread cannot take this step now.

A callback is one step, taken when it returns; while the thread is at the
program counter before it, the callback is running. Handler invocations are
two steps, so that their start is visible too.
-/

namespace AdapterRuntime.Model

open AdapterRuntime.Lib

-- ---------------------------------------------------------------------------
-- Callbacks
-- ---------------------------------------------------------------------------

namespace Client

/-- Logs an event of the lifecycle. -/
def log (c : Client) (event : LifecycleEvent) : Client :=
  { c with trace := event :: c.trace }

/-- Logs an event of the Work plane. -/
def record (c : Client) (event : WorkEvent) : Client :=
  { c with history := event :: c.history }

/-- `SafeStopCapability`. -/
def callStop (env : Env) (c : Client) (binding : Nat) : Client :=
  if env.hasCallback CapabilityCallbacks.stop binding then c.log (.stopCalled binding) else c

/-- `SafeClearInstanceSpec`. -/
def callClear (env : Env) (c : Client) : Client :=
  if env.callbacks.clearInstanceSpec then c.log .clearCalled else c

/-- `NotifySourceClosed`. -/
def notifySourceClosed (env : Env) (c : Client) (source : SourceState) (error : AdapterError) :
    Client :=
  if env.hasCallback CapabilityCallbacks.sourceClosed source.bindingIndex then
    c.log (.sourceClosedCalled source.cancellation error)
  else c

/-- The predicate of `WaitForCallbacks`. -/
def callbacksQuiet (c : Client) : Bool :=
  c.queues.inFlightWork == 0 && c.queues.activeDispatchJobs == 0

end Client

/-- How a lifecycle callback with an error out-parameter ended. -/
inductive CallbackOutcome
  | returned (ok : Bool) (error : Text)
  | threw (what : Text)
  | threwUnknown

-- ---------------------------------------------------------------------------
-- Dispatch workers
-- ---------------------------------------------------------------------------

/-- Where a worker continues after `SignalCurrentSessionFailure`. -/
inductive AfterSignal
  | eraseToken | finish | sourceFinish
  deriving DecidableEq

/-- The program counter of a dispatch worker. The `committed` arguments are
ghost: whether the job's own terminal was committed. -/
inductive WorkerPc
  | notStarted
  | idle
  | exited
  | popped (job : DispatchJob)
  | cancelledCommit (job : DispatchJob)
  | validate (job : DispatchJob)
  | contextReject (job : DispatchJob) (error : Text)
  | handle (job : DispatchJob) (binding : Nat)
  | inputReject (job : DispatchJob)
  | queueAccepted (job : DispatchJob) (binding : Nat)
  | queueStarted (job : DispatchJob) (binding : Nat)
  | running (job : DispatchJob) (binding : Nat)
  | returnedUnary (job : DispatchJob) (binding : Nat) (result : UnaryResult)
  | returnedOperation (job : DispatchJob) (binding : Nat) (result : OperationResult)
  | commit (job : DispatchJob) (frame : WorkFrame)
  | commitFallback (job : DispatchJob)
  | signal (job : DispatchJob) (reason : Text) (after : AfterSignal)
  | signalSession (job : DispatchJob) (session reason : Text) (after : AfterSignal)
  | eraseToken (job : DispatchJob) (committed : Bool)
  | leave (job : DispatchJob)
  | finish (job : DispatchJob) (committed : Bool)
  | sourceInitial (job : DispatchJob)
  | sourceDispatch (job : DispatchJob) (binding : Nat)
  | sourceRunning (job : DispatchJob) (binding : Nat)
  | sourceReturned (job : DispatchJob) (binding : Nat) (decision : SourceOpenDecision)
  | sourceCommit (job : DispatchJob) (decision : SourceOpenDecision)
  | sourceNotify (job : DispatchJob) (source : SourceState) (error : AdapterError)
  | sourceFinish (job : DispatchJob) (dispatched : Bool)

/-- What a worker's step gets from outside: the clock, or the outcome of the handler. -/
inductive WorkerInput
  | tick (now : Int)
  | unaryOutcome (outcome : Outcome UnaryResult)
  | operationOutcome (outcome : Outcome OperationResult)
  | sourceOutcome (outcome : Outcome SourceOpenDecision)

/-- The job's cancellation flag, `job.cancellation->requested.load()`. -/
def Client.cancelled (c : Client) (job : DispatchJob) : Bool :=
  match job.cancellation with
  | some id => c.requested id
  | none => false

/-- Records that the handler of a job was invoked. -/
def Client.recordStarted (c : Client) (job : DispatchJob) : Client :=
  match job.cancellation with
  | some id => c.record (.started id job.kind job.workId job.fingerprint)
  | none => c

/-- Records that the handler of a job returned. -/
def Client.recordReturned (c : Client) (result : HandlerResult) (job : DispatchJob) : Client :=
  match job.cancellation with
  | some id => c.record (.returned id job.kind job.workId job.fingerprint result)
  | none => c

/-- Where a worker goes on after it has signalled. -/
def WorkerPc.afterSignal (job : DispatchJob) : AfterSignal → WorkerPc
  | .eraseToken => .eraseToken job false
  | .finish => .finish job false
  | .sourceFinish => .sourceFinish job true

/-- Commits a terminal and continues at `done` or with a failure signal. -/
def commitStep (env : Env) (c : Client) (job : DispatchJob) (frame : WorkFrame)
    (done : WorkerPc) (reason : String) (after : AfterSignal) : WorkerPc × Client :=
  match c.commitTerminalFrame env job frame with
  | (.committed, c') => (done, c')
  | (_, c') => (.signal job (text reason) after, c')

/-- The head of the loop of `DispatchLoop`. -/
def popStep (c : Client) : Option (WorkerPc × Client) :=
  match c.queues.dispatch with
  | [] => if c.flags.stopRequested then some (.exited, c) else none
  | job :: rest =>
    some (.popped job,
      { c with queues := { c.queues with
          dispatch := rest
          dispatchBytes := c.queues.dispatchBytes - job.accountedBytes
          activeDispatchJobs := c.queues.activeDispatchJobs + 1 } })

/-- `++in_flight_work_`. -/
def Client.enterHandler (c : Client) : Client :=
  { c with queues := { c.queues with inFlightWork := c.queues.inFlightWork + 1 } }

/-- `if (in_flight_work_ > 0) --in_flight_work_`. -/
def Client.leaveHandler (c : Client) : Client :=
  { c with queues := { c.queues with inFlightWork := c.queues.inFlightWork - 1 } }

/-- `--active_dispatch_jobs_`. -/
def Client.leaveJob (c : Client) : Client :=
  { c with queues := { c.queues with activeDispatchJobs := c.queues.activeDispatchJobs - 1 } }

/-- `ReleaseWorkTokenLocked`. -/
def Client.releaseWorkToken (c : Client) (workId : Text) : Client :=
  { c with tables := c.tables.releaseWorkToken workId }

/-- The input check at the head of `HandleUnary` and `HandleOperation`. -/
def inputAccepted (env : Env) (binding : Nat) (job : DispatchJob) : Bool :=
  match handlerEndpoint env binding job with
  | none => false
  | some endpoint => env.validateInput endpoint job.input

/-- A step of a worker that needs no outcome of a handler. -/
def workerTick (env : Env) (c : Client) (now : Int) : WorkerPc → Option (WorkerPc × Client)
  | .idle => popStep c
  | .popped job =>
    if job.kind = .sourceOpen then
      match c.tables.sourceStreams.lookup job.workId with
      | none => some (.sourceFinish job false, c)
      | some source =>
        if source.connectionEpoch = job.connectionEpoch ∧
            job.cancellation = some source.cancellation then
          some (.sourceInitial job, c.enterHandler)
        else some (.sourceFinish job false, c)
    else if c.cancelled job then some (.cancelledCommit job, c)
    else some (.validate job, c)
  | .cancelledCommit job =>
    some (commitStep env c job
      (rejectedDispatch now job.kind job.workId (text "cancelled")
        (text "Work was cancelled before dispatch") .cancelled)
      (.eraseToken job true) "bounded Work transport could not retain cancellation terminal"
      .eraseToken)
  | .validate job =>
    match validateWorkContext env c now job.context job.kind with
    | .error e => some (.contextReject job e, c.countRejected)
    | .ok (binding, _) => some (.handle job binding, c.enterHandler)
  | .contextReject job error =>
    some (commitStep env c job
      (rejectedDispatch now job.kind job.workId (text "invalid-work-context") error)
      (.eraseToken job true) "bounded Work transport could not retain context rejection"
      .eraseToken)
  | .handle job binding =>
    if !inputAccepted env binding job then some (.inputReject job, c)
    else if job.kind = .unary then
      some (.running job binding, c.recordStarted job)
    else some (.queueAccepted job binding, c)
  | .inputReject job =>
    some (commitStep env c job
      (rejectedDispatch now job.kind job.workId (text "input-schema-mismatch")
        (text (if job.kind = .unary then "unary input does not match its contract"
          else "operation input does not match its contract")))
      (.finish job true)
      (if job.kind = .unary then "bounded Work transport could not retain unary input rejection"
        else "bounded Work transport could not retain operation input rejection")
      .finish)
  | .queueAccepted job binding =>
    match c.queueWorkLocked env job.cancellation (operationFrame now job.workId .accepted) with
    | (true, c') => some (.queueStarted job binding, c')
    | (false, c') =>
      some (.signal job
        (text "bounded Work transport could not send operation lifecycle events") .finish, c')
  | .queueStarted job binding =>
    match c.queueWorkLocked env job.cancellation (operationFrame now job.workId .started) with
    | (true, c') => some (.running job binding, c'.recordStarted job)
    | (false, c') =>
      some (.signal job
        (text "bounded Work transport could not send operation lifecycle events") .finish, c')
  | .returnedUnary job binding result =>
    match handlerEndpoint env binding job with
    | none => none
    | some endpoint =>
      some (.commit job
        (unaryTerminal job.workId (normalizeUnary env endpoint (c.cancelled job) result)), c)
  | .returnedOperation job binding result =>
    match handlerEndpoint env binding job with
    | none => none
    | some endpoint =>
      some (.commit job
        (operationTerminal now job.workId (normalizeOperation env endpoint result)), c)
  | .commit job frame =>
    match c.commitTerminalFrame env job frame with
    | (.committed, c') => some (.finish job true, c')
    | (.tooLarge, c') => some (.commitFallback job, c')
    | (.unavailable, c') =>
      some (.signal job
        (text (if job.kind = .unary then
            "bounded Work transport could not commit the unary terminal result"
          else "bounded Work transport could not commit the operation terminal result"))
        .finish, c')
  | .commitFallback job =>
    some (commitStep env c job (fallbackTerminal now job.kind job.workId) (.finish job true)
      (if job.kind = .unary then
          "bounded Work transport could not commit the unary terminal result"
        else "bounded Work transport could not commit the operation terminal result")
      .finish)
  | .signal job reason after =>
    if c.session.sessionId = [] then some (.afterSignal job after, c)
    else some (.signalSession job c.session.sessionId reason after, c)
  | .signalSession job session reason after =>
    some (.afterSignal job after, c.signalSessionFailure session reason)
  | .eraseToken job _ =>
    some (.leave job, (c.releaseWorkToken job.workId).maybeQueueDrainStatus env)
  | .leave _ => some (.idle, c.leaveJob)
  | .finish job _ =>
    some (.idle,
      ((c.leaveHandler.leaveJob).releaseWorkToken job.workId).maybeQueueDrainStatus env)
  | .sourceInitial job =>
    match c.tables.sourceStreams.lookup job.workId with
    | none => some (.sourceFinish job true, c)
    | some source =>
      if source.connectionEpoch = job.connectionEpoch then
        some (.sourceDispatch job source.bindingIndex, c)
      else some (.sourceFinish job true, c)
  | .sourceDispatch job binding =>
    if c.cancelled job then
      some (.sourceReturned job binding
        (.reject .cancelled "cancelled" "source open was cancelled before dispatch"), c)
    else some (.sourceRunning job binding, c.recordStarted job)
  | .sourceReturned job binding decision =>
    some (.sourceCommit job
      (normalizeDecision env (handlerEndpoint env binding job) (c.cancelled job) decision), c)
  | .sourceCommit job decision =>
    match commitSourceOpen env c job decision with
    | (.settled, c') => some (.sourceFinish job true, c')
    | (.failPair, c') =>
      some (.signal job (text "bounded Work queue could not send SourceOpenResult")
        .sourceFinish, c')
    | (.notifySourceClosed source error, c') => some (.sourceNotify job source error, c')
  | .sourceNotify job source error =>
    some (.sourceFinish job true, c.notifySourceClosed env source error)
  | .sourceFinish _ dispatched =>
    some (.idle,
      ((if dispatched then c.leaveHandler else c).leaveJob).maybeQueueDrainStatus env)
  | .notStarted | .exited | .running _ _ | .sourceRunning _ _ => none

/-- One step of a dispatch worker. -/
def workerStep (env : Env) (c : Client) (pc : WorkerPc) :
    WorkerInput → Option (WorkerPc × Client)
  | .tick now => workerTick env c now pc
  | .unaryOutcome outcome =>
    match pc with
    | .running job binding =>
      if job.kind = .unary then
        some (.returnedUnary job binding (.ofOutcome outcome),
          c.recordReturned (.unary (.ofOutcome outcome)) job)
      else none
    | _ => none
  | .operationOutcome outcome =>
    match pc with
    | .running job binding =>
      if job.kind = .unary then none
      else
        some (.returnedOperation job binding (.ofOutcome outcome),
          c.recordReturned (.operation (.ofOutcome outcome)) job)
    | _ => none
  | .sourceOutcome outcome =>
    match pc with
    | .sourceRunning job binding =>
      some (.sourceReturned job binding (.ofOutcome outcome),
        c.recordReturned (.sourceOpen (.ofOutcome outcome)) job)
    | _ => none

-- ---------------------------------------------------------------------------
-- Work reader
-- ---------------------------------------------------------------------------

/-- The program counter of `WorkStreamLoop`. -/
inductive WorkReaderPc
  | notStarted
  | opening (fence : SessionFence)
  | reading (fence : SessionFence)
  | blocked (fence : SessionFence)
  | validating (fence : SessionFence) (response : WorkResponse)
  | handling (fence : SessionFence) (response : WorkResponse)
  | followUp (fence : SessionFence) (todo : FollowUp)
  | signalSession (fence : SessionFence) (session reason : Text)
  | terminal (fence : SessionFence) (reason : Text)
  | closing (fence : SessionFence)
  | finished (fence : SessionFence) (status : StreamStatus)
  | lastTerminal (fence : SessionFence)
  | lastSignal (fence : SessionFence) (status : StreamStatus)
  | exited

/-- What a reader's step gets from outside: frames, outcomes of callbacks and the status of
its stream. -/
inductive ReaderInput (ρ : Type)
  | tick (now : Int)
  | opened (ok : Bool)
  | received (response : ρ)
  | readFailed
  | callback (outcome : CallbackOutcome)
  | status (status : StreamStatus)

/-- `HandleWorkResponse`, up to the end of its first locked section. A protocol
error of the Host is terminal for the session. -/
def handleWorkResponse (env : Env) (c : Client) (now : Int) (response : WorkResponse) :
    (FollowUp ⊕ Text) × Client :=
  let sequence := response.header.frameSequence
  let lift (r : FollowUp × Client) : (FollowUp ⊕ Text) × Client := (.inl r.1, r.2)
  match response.frame with
  | .unaryRequest request => lift (enqueueDispatch env c now (unaryJob env now request sequence))
  | .operationRequest request =>
    lift (enqueueDispatch env c now (operationJob env now request sequence))
  | .sourceOpenRequest request =>
    lift (enqueueSourceOpen env c now (sourceOpenJob env now request sequence))
  | .sourceCredit credit => lift (grantSourceCredit c credit sequence)
  | .cancellation cancellation => lift (handleCancellation env c cancellation sequence)
  | .terminalAcknowledgement acknowledgement =>
    lift (handleTerminalAcknowledgement c acknowledgement sequence)
  | .protocolError error =>
    (.inr (text "Host reported Work protocol error: " ++ error.message), c)
  | .notSet => (.inl (.protocolError sequence (text "Host sent an empty Work frame")), c)

/-- The section a follow-up starts with. -/
def followUpStep (env : Env) (c : Client) (fence : SessionFence) :
    FollowUp → WorkReaderPc × Client
  | .done => (.reading fence, c)
  | .protocolError sequence message =>
    match c.queueWorkLocked env none (protocolErrorFrame sequence message) with
    | (true, c') => (.reading fence, c')
    | (false, c') =>
      (.followUp fence (.signalFailure (text "bounded outbound Work queue overflowed")), c')
  | .signalFailure reason =>
    if c.session.sessionId = [] then (.reading fence, c)
    else (.signalSession fence c.session.sessionId reason, c)
  | .queueReplay frame reason =>
    match c.queueWorkLocked env none frame with
    | (true, c') => (.reading fence, c')
    | (false, c') => (.followUp fence (.signalFailure reason), c')
  | .commitImmediate job frame =>
    match c.commitTerminalFrame env job frame with
    | (.committed, c') => (.reading fence, c')
    | (_, c') =>
      (.followUp fence (.signalFailure
        (text "bounded Work transport could not retain immediate terminal for " ++ job.workId)),
        c')
  | .notifySourceClosed source error => (.reading fence, c.notifySourceClosed env source error)

/-- One step of the Work reader. Joining the writer and spawning it are guarded
and performed by the system. -/
def workReaderStep (env : Env) (c : Client) :
    WorkReaderPc → ReaderInput WorkResponse → Option (WorkReaderPc × Client)
  | .opening fence, .opened ok =>
    if ok then some (.reading fence, c.log (.workOpened fence.connectionEpoch))
    else
      some (.exited,
        c.signalSessionFailure fence.sessionId (text "Work stream could not be opened"))
  | .reading fence, .tick _ =>
    if c.flags.stopRequested then some (.closing fence, c) else some (.blocked fence, c)
  | .blocked fence, .received response =>
    if fence.maximumWorkFrameBytes < env.protobuf.workResponseBytes response then
      some (.terminal fence (text "Host Work frame exceeds the negotiated limit"), c)
    else some (.validating fence response, c)
  | .blocked fence, .readFailed => some (.closing fence, c)
  | .validating fence response, .tick _ =>
    match c.validateWorkHeader env response.header fence with
    | .error e => some (.terminal fence (text "invalid Work fence: " ++ e), c)
    | .ok c' => some (.handling fence response, c')
  | .handling fence response, .tick now =>
    match handleWorkResponse env c now response with
    | (.inl todo, c') => some (.followUp fence todo, c')
    | (.inr reason, c') => some (.terminal fence reason, c')
  | .followUp fence todo, .tick _ => some (followUpStep env c fence todo)
  | .signalSession fence session reason, .tick _ =>
    some (.reading fence, c.signalSessionFailure session reason)
  | .terminal fence reason, .tick _ =>
    some (.closing fence, c.signalTerminalSessionFailure fence.sessionId reason)
  | .closing fence, .status status => some (.finished fence status, c)
  | .finished fence status, .tick _ =>
    if c.flags.stopRequested then some (.exited, c)
    else if status = .terminal then some (.lastTerminal fence, c)
    else some (.lastSignal fence status, c)
  | .lastTerminal fence, .tick _ =>
    some (.exited,
      c.signalTerminalSessionFailure fence.sessionId (text "Work attachment was rejected"))
  | .lastSignal fence status, .tick _ =>
    some (.exited,
      c.signalSessionFailure fence.sessionId
        (if status = .ok then text "Work stream closed" else text "Work stream failed"))
  | _, _ => none

-- ---------------------------------------------------------------------------
-- Work writer
-- ---------------------------------------------------------------------------

/-- The program counter of `WorkWriterLoop`. -/
inductive WorkWriterPc
  | notStarted
  | attach (fence : SessionFence)
  | writingAttach (fence : SessionFence) (header : SessionHeader) (frame : WorkFrame)
  | markReady (fence : SessionFence)
  | loop (fence : SessionFence)
  | writing (fence : SessionFence) (header : SessionHeader) (frame : WorkFrame)
  | signal (fence : SessionFence) (reason : Text)
  | exited

/-- What a writer's step gets from outside: the clock, and whether the write succeeded. -/
inductive WriterInput
  | tick
  | heartbeat (now : Int)
  | wrote (ok : Bool)

/-- A stamped frame may be written: it is within the limit of the fence. -/
def withinLimit (limit bytes : Nat) : Bool := limit == 0 || bytes ≤ limit

/-- One step of the Work writer. -/
def workWriterStep (env : Env) (c : Client) :
    WorkWriterPc → WriterInput → Option (WorkWriterPc × Client)
  | .attach fence, .tick =>
    match c.buildAttach env fence with
    | (some (header, frame), c') => some (.writingAttach fence header frame, c')
    | (none, c') =>
      some (.signal fence
        (text "WorkAttach gate was lost before the paired Work stream started"), c')
  | .writingAttach fence header frame, .wrote ok =>
    if withinLimit fence.maximumWorkFrameBytes (env.protobuf.workRequestBytes header frame) && ok
    then some (.markReady fence, c.log (.workWritten fence.connectionEpoch header frame))
    else some (.signal fence (text "mandatory WorkAttach could not be written"), c)
  | .markReady fence, .tick => some (.loop fence, c.markReady fence)
  | .loop fence, .tick =>
    if !c.pairLive fence then some (.exited, c)
    else
      match c.dequeueWork env fence with
      | some (header, frame, c') => some (.writing fence header frame, c')
      | none => none
  | .writing fence header frame, .wrote ok =>
    if withinLimit fence.maximumWorkFrameBytes (env.protobuf.workRequestBytes header frame) && ok
    then some (.loop fence, c.log (.workWritten fence.connectionEpoch header frame))
    else some (.signal fence (text "Work outbound frame failed or exceeded limit"), c)
  | .signal fence reason, .tick =>
    some (.exited, c.signalSessionFailure fence.sessionId reason)
  | _, _ => none

-- ---------------------------------------------------------------------------
-- Control writer
-- ---------------------------------------------------------------------------

/-- The program counter of `ControlWriterLoop`. -/
inductive ControlWriterPc
  | notStarted
  | loop (fence : SessionFence)
  | writing (fence : SessionFence) (header : SessionHeader) (frame : ControlFrame)
  | gate (fence : SessionFence)
  | signal (fence : SessionFence) (reason : Text)
  | terminal (fence : SessionFence) (reason : Text)
  | exited

/-- Where the Control writer goes after a frame has been written. -/
def afterControlWrite (fence : SessionFence) : ControlFrame → ControlWriterPc
  | .applyInstanceSpecResult result =>
    if result.applied then .gate fence
    else
      let error := result.error.getD {}
      let failure :=
        text "exact instance spec was not applied" ++
          (if error.message.isEmpty then [] else text ": " ++ error.message)
      if isTerminalSpecFailure error.code then .terminal fence failure else .signal fence failure
  | _ => .loop fence

/-- One step of the Control writer. A due heartbeat goes before the queue. -/
def controlWriterStep (env : Env) (c : Client) :
    ControlWriterPc → WriterInput → Option (ControlWriterPc × Client)
  | .loop fence, .tick =>
    if !c.pairLive fence then some (.exited, c)
    else
      match c.dequeueControl with
      | some (frame, c') =>
        let (header, c'') := c'.stampControl env fence
        some (.writing fence header frame, c'')
      | none => none
  | .loop fence, .heartbeat now =>
    if !c.pairLive fence then some (.exited, c)
    else
      let (header, c') := c.stampControl env fence
      some (.writing fence header (.heartbeat (buildHeartbeat c now 0)), c')
  | .writing fence header frame, .wrote ok =>
    if withinLimit fence.maximumControlFrameBytes
        (env.protobuf.controlRequestBytes header frame) && ok then
      some (afterControlWrite fence frame,
        c.log (.controlWritten fence.connectionEpoch header frame))
    else some (.signal fence (text "Control outbound frame failed or exceeded limit"), c)
  | .gate fence, .tick => some (.loop fence, c.openAttachGate fence)
  | .signal fence reason, .tick =>
    some (.exited, c.signalSessionFailure fence.sessionId reason)
  | .terminal fence reason, .tick =>
    some (.exited, c.signalTerminalSessionFailure fence.sessionId reason)
  | _, _ => none

end AdapterRuntime.Model
