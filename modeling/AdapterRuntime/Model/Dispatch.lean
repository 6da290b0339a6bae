import AdapterRuntime.Model.Stream

/-!
# AdapterRuntime — admission, validation and handler results

The functions of `dispatch.cpp` and `source_dispatch.cpp` other than the loops
themselves: the admission sections of the Work reader, the dispatch-time
validation, and the normalization of what a handler returned or threw.
-/

namespace AdapterRuntime.Model

open AdapterRuntime.Lib

-- ---------------------------------------------------------------------------
-- Handler results
-- ---------------------------------------------------------------------------

/-- How a callback invocation ended: a value, a `std::exception`, or any other
exception. -/
inductive Outcome (α : Type)
  | value (result : α) | exception | unknownException

/-- `UnaryResult::Failure`. -/
def UnaryResult.failure (errorClass : ErrorClass) (code message : String) : UnaryResult :=
  { error := makeError errorClass (text code) (text message) }

/-- The phase `OperationResult::Failure` derives from the error class. -/
def failurePhase : ErrorClass → OperationPhase
  | .uncertain => .uncertain
  | .cancelled => .cancelled
  | .rejected => .rejected
  | .deadline => .expired
  | _ => .failed

/-- `OperationResult::Failure`. -/
def OperationResult.failure (errorClass : ErrorClass) (code message : String) :
    OperationResult :=
  { phase := failurePhase errorClass
    error := makeError errorClass (text code) (text message) }

/-- `SourceOpenDecision::Reject`. -/
def SourceOpenDecision.reject (errorClass : ErrorClass) (code message : String) :
    SourceOpenDecision :=
  { error := makeError errorClass (text code) (text message) }

/-- The result of a unary handler; an exception is a permanent failure. -/
def UnaryResult.ofOutcome : Outcome UnaryResult → UnaryResult
  | .value result => result
  | .exception => .failure .permanent "handler-exception" "unary handler threw an exception"
  | .unknownException =>
    .failure .permanent "handler-exception" "unary handler threw an unknown exception"

/-- The result of an operation handler; an exception is a permanent failure. -/
def OperationResult.ofOutcome : Outcome OperationResult → OperationResult
  | .value result => result
  | .exception => .failure .permanent "handler-exception" "operation handler threw an exception"
  | .unknownException =>
    .failure .permanent "handler-exception" "operation handler threw an unknown exception"

/-- The decision of a source handler; an exception is a rejection. -/
def SourceOpenDecision.ofOutcome : Outcome SourceOpenDecision → SourceOpenDecision
  | .value decision => decision
  | .exception => .reject .permanent "handler-exception" "source open handler threw an exception"
  | .unknownException =>
    .reject .permanent "handler-exception" "source open handler threw an unknown exception"

/-- The else-if chain of `HandleUnary`; `cancelled` is the job's flag as read
there. -/
def normalizeUnary (env : Env) (endpoint : CapabilityEndpointContract) (cancelled : Bool)
    (result : UnaryResult) : UnaryResult :=
  if result.succeeded && (hasError result.error || !env.outputMatches endpoint result.output) then
    .failure .permanent "invalid-handler-result"
      "unary handler returned a malformed success result"
  else if !result.succeeded && (env.hasPayload result.output || !env.isTypedError result.error)
  then
    .failure .permanent "invalid-handler-result"
      "unary handler returned a malformed failure result"
  else if result.succeeded && endpoint.limits.maximumResponseBytes < result.output.value.length
  then
    .failure .resourceExhausted "response-too-large" "unary output exceeds its contract limit"
  else if cancelled && result.succeeded then
    .failure .cancelled "cancelled" "unary work was cancelled"
  else result

/-- The malformed-result condition of `HandleOperation`. -/
def operationMalformed (env : Env) (endpoint : CapabilityEndpointContract)
    (result : OperationResult) : Bool :=
  !result.phase.isTerminal ||
    (result.phase == .succeeded &&
      (hasError result.error ||
        (result.hasOutput && !env.outputMatches endpoint result.output) ||
        (!result.hasOutput && env.hasPayload result.output))) ||
    (result.phase != .succeeded &&
      (result.hasOutput || env.hasPayload result.output || !env.isTypedError result.error ||
        !errorMatchesOperationPhase result.phase result.error.errorClass))

/-- The else-if chain of `HandleOperation`. -/
def normalizeOperation (env : Env) (endpoint : CapabilityEndpointContract)
    (result : OperationResult) : OperationResult :=
  if operationMalformed env endpoint result then
    .failure .permanent "invalid-handler-result"
      "operation handler returned a malformed terminal result"
  else if result.hasOutput && endpoint.limits.maximumResponseBytes < result.output.value.length
  then
    .failure .resourceExhausted "response-too-large" "operation output exceeds its contract limit"
  else result

/-- The initial-payload condition of `HandleSourceOpen`. -/
def initialPayloadInvalid (env : Env) (endpoint : Option CapabilityEndpointContract)
    (payload : Payload) : Bool :=
  match endpoint with
  | none => true
  | some endpoint =>
    !env.isValidPayload payload ||
      !schemaMatches (endpoint.outputSchema.getD {}) payload.schemaOrDefault ||
      (0 < endpoint.limits.maximumResponseBytes &&
        endpoint.limits.maximumResponseBytes < payload.value.length)

/-- The else-if chain of `HandleSourceOpen`; `cancelled` is the job's flag as
read there. -/
def normalizeDecision (env : Env) (endpoint : Option CapabilityEndpointContract)
    (cancelled : Bool) (decision : SourceOpenDecision) : SourceOpenDecision :=
  if cancelled then .reject .cancelled "cancelled" "source open was cancelled"
  else if decision.accepted && (hasError decision.error ||
      (!decision.hasInitialPayload && env.hasPayload decision.initialPayload)) then
    .reject .permanent "invalid-handler-result" "accepted source open also returned an error"
  else if !decision.accepted && (decision.hasInitialPayload ||
      env.hasPayload decision.initialPayload || !env.isTypedError decision.error) then
    .reject .permanent "invalid-handler-result"
      "rejected source open must return one typed error and no payload"
  else if decision.accepted && decision.hasInitialPayload &&
      initialPayloadInvalid env endpoint decision.initialPayload then
    .reject .rejected "initial-payload-invalid"
      "source initial payload violates its output contract"
  else decision

-- ---------------------------------------------------------------------------
-- Frames
-- ---------------------------------------------------------------------------

/-- The phase `RejectedDispatch` derives from the error class. -/
def rejectedPhase : ErrorClass → OperationPhase
  | .cancelled => .cancelled
  | .deadline => .expired
  | .rejected => .rejected
  | _ => .failed

/-- `RejectedDispatch`. -/
def rejectedDispatch (now : Int) (kind : DispatchKind) (workId code message : Text)
    (errorClass : ErrorClass := .rejected) : WorkFrame :=
  let error := makeError errorClass code message
  match kind with
  | .unary => .unaryResponse { workId, error := some error }
  | _ =>
    .operationEvent
      { workId, occurredUnixNanos := now, phase := rejectedPhase errorClass, error := some error }

/-- `OperationFrame`. -/
def operationFrame (now : Int) (workId : Text) (phase : OperationPhase) : WorkFrame :=
  .operationEvent { workId, phase, occurredUnixNanos := now }

/-- The terminal frame of a normalized unary result. -/
def unaryTerminal (workId : Text) (result : UnaryResult) : WorkFrame :=
  .unaryResponse
    (if result.succeeded then { workId, output := some result.output }
     else { workId, error := some result.error })

/-- The terminal frame of a normalized operation result. -/
def operationTerminal (now : Int) (workId : Text) (result : OperationResult) : WorkFrame :=
  .operationEvent
    { workId
      phase := result.phase
      occurredUnixNanos := now
      nativeCode := result.nativeCode
      output := if result.hasOutput then some result.output else none
      error :=
        if !result.error.code.isEmpty || result.error.errorClass != .unspecified then
          some result.error
        else none }

/-- The compact terminal committed when the full one exceeds the frame limit. -/
def fallbackTerminal (now : Int) (kind : DispatchKind) (workId : Text) : WorkFrame :=
  match kind with
  | .unary =>
    .unaryResponse
      { workId
        error := some (makeError .resourceExhausted (text "response-too-large")
          (text "unary result exceeds the Work frame limit")) }
  | _ =>
    .operationEvent
      { workId
        phase := .failed
        occurredUnixNanos := now
        error := some (makeError .resourceExhausted (text "response-too-large")
          (text "operation result exceeds the Work frame limit")) }

/-- The `SourceOpenResult` of a normalized decision. -/
def sourceOpenFrame (streamId : Text) (decision : SourceOpenDecision) : WorkFrame :=
  .sourceOpenResult
    { streamId
      accepted := decision.accepted
      initialPayload :=
        if decision.accepted && decision.hasInitialPayload then some decision.initialPayload
        else none
      error := if decision.accepted then none else some decision.error }

-- ---------------------------------------------------------------------------
-- Dispatch-time validation
-- ---------------------------------------------------------------------------

/-- The interaction mode an endpoint must have for a job of this kind. -/
def expectedMode : DispatchKind → InteractionMode
  | .unary => .unary
  | .operation => .operation
  | .sourceOpen => .streamSource

/-- `ValidateWorkContextLocked`: the binding index and the endpoint, or the
validation error. -/
def validateWorkContext (env : Env) (c : Client) (now : Int) (context : WorkContext)
    (kind : DispatchKind) : Except Text (Nat × CapabilityEndpointContract) :=
  if !c.flags.acceptingWork || c.flags.state != .ready || c.flags.sessionFailed then
    .error (text "Runtime Link is not ready")
  else if context.specRevision != c.spec.specRevision then
    .error (text "Work references a stale spec revision")
  else
    match findActiveEndpoint env c context.capabilityId context.endpointId with
    | none => .error (text "Work does not match an active capability contract")
    | some (index, grant, endpoint) =>
      if context.contractVersion != grant.contractVersion ||
          context.contractDigest != grant.contractDigest then
        .error (text "Work does not match an active capability contract")
      else if endpoint.interactionMode != expectedMode kind then
        .error (text "Work interaction mode does not match the endpoint")
      else if endpoint.deadlineRequired && context.deadline.deadlineUnixNanos ≤ 0 then
        .error (text "endpoint requires a deadline")
      else if 0 < context.deadline.deadlineUnixNanos &&
          context.deadline.deadlineUnixNanos ≤ now then
        .error (text "Work deadline has expired")
      else if endpoint.idempotencyMode == env.protobuf.idempotencyModeRequired &&
          context.idempotencyKey.isEmpty then
        .error (text "endpoint requires an idempotency key")
      else if !isCanonicalSha256 context.requestDigest then
        .error (text "Work request_digest must use sha256:<lowercase-hex>")
      else if !context.subject.any ScopeReference.isCanonical then
        .error (text "Work subject is missing or non-canonical")
      else .ok (index, endpoint)

/-- The context of the request a job carries. -/
def DispatchJob.context (job : DispatchJob) : WorkContext :=
  match job.kind with
  | .unary => job.unary.context
  | .operation => job.operation.context
  | .sourceOpen => job.sourceOpen.context

/-- The input of the request a unary or operation job carries. -/
def DispatchJob.input (job : DispatchJob) : Payload :=
  match job.kind with
  | .unary => job.unary.input
  | _ => job.operation.input

/-- The endpoint `HandleUnary`, `HandleOperation` and `HandleSourceOpen` look up
again in the binding's contract. -/
def handlerEndpoint (env : Env) (bindingIndex : Nat) (job : DispatchJob) :
    Option CapabilityEndpointContract :=
  match env.binding? bindingIndex with
  | none => none
  | some binding => findEndpoint binding.contract job.context.endpointId

-- ---------------------------------------------------------------------------
-- Admission of unary and operation requests
-- ---------------------------------------------------------------------------

/-- The job `EnqueueUnary` builds. -/
def unaryJob (env : Env) (now : Int) (request : UnaryRequest) (frameSequence : Nat) :
    DispatchJob :=
  let normalized := { request with context := request.context.normalized now }
  { kind := .unary
    workId := request.context.workId
    fingerprint := request.context.requestDigest
    inboundFrameSequence := frameSequence
    unary := normalized
    accountedBytes := env.protobuf.unaryRequestBytes normalized }

/-- The job `EnqueueOperation` builds. -/
def operationJob (env : Env) (now : Int) (request : OperationRequest) (frameSequence : Nat) :
    DispatchJob :=
  let normalized := { request with context := request.context.normalized now }
  { kind := .operation
    workId := request.context.workId
    fingerprint := request.context.requestDigest
    inboundFrameSequence := frameSequence
    operation := normalized
    accountedBytes := env.protobuf.operationRequestBytes normalized }

/-- The job `EnqueueSourceOpen` builds. -/
def sourceOpenJob (env : Env) (now : Int) (request : SourceOpenRequest) (frameSequence : Nat) :
    DispatchJob :=
  let normalized := { request with context := request.context.normalized now }
  { kind := .sourceOpen
    workId := request.context.workId
    fingerprint := request.context.requestDigest
    inboundFrameSequence := frameSequence
    sourceOpen := normalized
    accountedBytes := env.protobuf.sourceOpenRequestBytes normalized }

/-- Some active source was opened for this work id. -/
def Tables.sourceUses (t : Tables) (workId : Text) : Bool :=
  t.sourceStreams.entries.any fun e => e.2.request.context.workId == workId

/-- What `EnqueueDispatch` decides under the lock. -/
inductive DispatchVerdict
  | replay (entry : ReplayEntry)
  | violation
  | reject (code message : Text)
  | retire
  | accept (reservation : Nat)

/-- The decision chain of `EnqueueDispatch`. -/
def dispatchVerdict (env : Env) (c : Client) (job : DispatchJob) : DispatchVerdict :=
  let t := c.tables
  if job.workId = [] then .violation
  else
    match t.replay.lookup job.workId with
    | some entry =>
      if entry.kind = job.kind ∧ entry.fingerprint = job.fingerprint then .replay entry
      else .violation
    | none =>
      if ¬c.flags.acceptingWork ∨ c.flags.state ≠ .ready then
        .reject (text "not-ready") (text "capabilities are not ready for Work")
      else if (t.workTokens.lookup job.workId).isSome then .violation
      else if t.sourceUses job.workId then .violation
      else if env.config.maximumDispatchQueue ≤ c.queues.dispatch.length then
        .reject (text "dispatch-queue-full") (text "bounded dispatch queue is full")
      else if !fitsByteBudget c.queues.dispatchBytes job.accountedBytes
          env.config.maximumDispatchQueueBytes then
        .reject (text "dispatch-byte-budget") (text "dispatch byte budget is exhausted")
      else
        match reserveTerminalReplay env c job with
        | none => .retire
        | some reservation => .accept reservation

/-- The admission of a unary or operation job: the reservation is charged, the
token recorded and the job queued. -/
def Client.admitDispatch (c : Client) (job : DispatchJob) (reservation : Nat) : Client :=
  let id := c.nextCancellation
  let job := { job with cancellation := some id, terminalReservationBytes := reservation }
  { c with
    tables := { c.tables with
      terminalReplayBytes := c.tables.terminalReplayBytes + reservation
      workTokens := c.tables.workTokens.insert job.workId
        { cancellation := id, terminalReservationBytes := reservation } }
    queues := { c.queues with
      dispatchBytes := c.queues.dispatchBytes + job.accountedBytes
      dispatch := c.queues.dispatch ++ [job] }
    nextCancellation := id + 1
    history := .admitted id job.kind job.workId job.fingerprint :: c.history }

/-- The locked section of `EnqueueDispatch`. -/
def enqueueDispatch (env : Env) (c : Client) (now : Int) (job : DispatchJob) :
    FollowUp × Client :=
  match dispatchVerdict env c job with
  | .replay entry =>
    (.queueReplay entry.terminal (text "Work queue rejected dispatch response"), c.countRejected)
  | .violation =>
    (.protocolError job.inboundFrameSequence
      (text "Work request must use one exact, unused nonempty work_id identity"),
      c.countRejected)
  | .reject code message =>
    (.commitImmediate job (rejectedDispatch now job.kind job.workId code message),
      c.countRejected)
  | .retire =>
    (.signalFailure
      (text "terminal replay identity or byte budget requires connection-pair retirement"), c)
  | .accept reservation => (.done, c.admitDispatch job reservation)

-- ---------------------------------------------------------------------------
-- Admission of source opens
-- ---------------------------------------------------------------------------

/-- The accounting of a source identity, with the overflow guards of
`EnqueueSourceOpen`; `none` is `source_accounting_overflow`. -/
def sourceAccountedBytes (c : Client) (job : DispatchJob) : Option Nat :=
  if sizeMax - kCanonicalSha256TextBytes < job.fingerprint.length then none
  else
    let metadataBytes := kCanonicalSha256TextBytes + job.fingerprint.length
    if sizeMax - metadataBytes < c.session.maximumWorkFrameBytes then none
    else
      let metadataBytes := metadataBytes + c.session.maximumWorkFrameBytes
      if sizeMax - metadataBytes < job.accountedBytes then none
      else some (job.accountedBytes + metadataBytes)

/-- The source-state budget admits the accounting of `job`. -/
def sourceBudgetFits (env : Env) (c : Client) (job : DispatchJob) : Option Nat :=
  match sourceAccountedBytes c job with
  | none => none
  | some bytes =>
    if fitsByteBudget c.tables.sourceStateBytes bytes env.config.maximumSourceStateBytes then
      some bytes
    else none

/-- Source identities held, active and retained. -/
def Tables.sourceIdentities (t : Tables) : Nat :=
  Store.size t.sourceStreams + Store.size t.closedSources

/-- What `EnqueueSourceOpen` decides under the lock. -/
inductive SourceOpenVerdict
  | replay (frame : WorkFrame)
  | violation
  | reject (error : AdapterError)
  | retire
  | accept (bindingIndex : Nat) (endpoint : CapabilityEndpointContract) (accountedBytes : Nat)

/-- The decision chain of `EnqueueSourceOpen` once the identity is unused. -/
def freshSourceVerdict (env : Env) (c : Client) (now : Int) (job : DispatchJob) :
    SourceOpenVerdict :=
  let context := job.sourceOpen.context
  let reject (errorClass : ErrorClass) (code : String) (message : Text) : SourceOpenVerdict :=
    .reject (makeError errorClass (text code) message)
  if context.capabilityId = [] ∨ context.endpointId = [] then
    reject .rejected "invalid-source-open"
      (text "source stream and WorkContext identity must not be empty")
  else if !(job.sourceOpen.initialCredit.any fun credit =>
      credit.messages != 0 && credit.bytes != 0) then
    reject .rejected "invalid-initial-credit"
      (text "source open requires positive message and byte credit")
  else
    match validateWorkContext env c now context .sourceOpen with
    | .error e => reject .rejected "invalid-work-context" e
    | .ok (index, endpoint) =>
      if !env.hasCallback CapabilityCallbacks.sourceOpen index then
        reject .rejected "handler-not-bound" (text "source endpoint has no bound open handler")
      else if env.config.maximumSourceTombstones ≤ c.tables.sourceIdentities then .retire
      else if env.config.maximumSourceStreams ≤ Store.size c.tables.sourceStreams then
        reject .resourceExhausted "source-stream-limit"
          (text "global source stream limit is exhausted")
      else if 0 < endpoint.limits.maximumStreams ∧
          endpoint.limits.maximumStreams ≤
            countSourceStreams c context.capabilityId context.endpointId then
        reject .resourceExhausted "endpoint-stream-limit"
          (text "endpoint source stream limit is exhausted")
      else if env.config.maximumDispatchQueue ≤ c.queues.dispatch.length then
        reject .resourceExhausted "dispatch-queue-full" (text "bounded dispatch queue is full")
      else if !fitsByteBudget c.queues.dispatchBytes job.accountedBytes
          env.config.maximumDispatchQueueBytes then
        reject .resourceExhausted "dispatch-byte-budget" (text "dispatch byte budget is exhausted")
      else
        match sourceBudgetFits env c job with
        | none => .retire
        | some bytes => .accept index endpoint bytes

/-- The decision chain of `EnqueueSourceOpen`. -/
def sourceOpenVerdict (env : Env) (c : Client) (now : Int) (job : DispatchJob) :
    SourceOpenVerdict :=
  let t := c.tables
  if job.workId = [] then .violation
  else
    match t.closedSources.lookup job.workId with
    | some closed =>
      if closed.fingerprint = job.fingerprint ∧ closed.terminalDigest ≠ [] then
        .replay closed.terminalFrame
      else .violation
    | none =>
      if (t.sourceStreams.lookup job.workId).isSome ∨ (t.workTokens.lookup job.workId).isSome ∨
          (t.replay.lookup job.workId).isSome ∨ t.sourceUses job.workId then .violation
      else freshSourceVerdict env c now job

/-- The source state of an admitted open. -/
def admittedSource (c : Client) (job : DispatchJob) (bindingIndex : Nat)
    (endpoint : CapabilityEndpointContract) (accountedBytes : Nat) : SourceState where
  request := job.sourceOpen
  bindingIndex := bindingIndex
  cancellation := c.nextCancellation
  connectionEpoch := c.session.connectionEpochCounter
  maximumChunkBytes := endpoint.limits.maximumStreamChunkBytes
  maximumChunkMessages := endpoint.limits.maximumStreamChunkMessages
  accountedBytes := accountedBytes

/-- The admission of a source open. -/
def Client.admitSource (c : Client) (job : DispatchJob) (bindingIndex : Nat)
    (endpoint : CapabilityEndpointContract) (accountedBytes : Nat) : Client :=
  let id := c.nextCancellation
  let job := { job with
    cancellation := some id, connectionEpoch := c.session.connectionEpochCounter }
  { c with
    tables := { c.tables with
      sourceStreams := c.tables.sourceStreams.insert job.workId
        (admittedSource c job bindingIndex endpoint accountedBytes)
      sourceStateBytes := c.tables.sourceStateBytes + accountedBytes }
    queues := { c.queues with
      dispatchBytes := c.queues.dispatchBytes + job.accountedBytes
      dispatch := c.queues.dispatch ++ [job] }
    nextCancellation := id + 1
    history := .sourceAdmitted id job.workId :: c.history }

/-- The source state an immediate rejection is committed with. -/
def rejectedSource (c : Client) (job : DispatchJob) (accountedBytes : Nat) : SourceState where
  request := job.sourceOpen
  cancellation := c.nextCancellation
  connectionEpoch := c.session.connectionEpochCounter
  accountedBytes := accountedBytes

/-- The pair is retired for a source identity that cannot be accounted for. -/
def retireForSource : FollowUp :=
  .signalFailure (text "source identity or byte budget requires connection-pair retirement")

/-- The tail of the locked section that commits an immediate rejection: the
identity is charged, and the charge rolled back when the commit fails. -/
def Client.rejectSource (env : Env) (c : Client) (job : DispatchJob) (error : AdapterError) :
    FollowUp × Client :=
  if env.config.maximumSourceTombstones ≤ c.tables.sourceIdentities then (retireForSource, c)
  else
    match sourceBudgetFits env c job with
    | none => (retireForSource, c)
    | some bytes =>
      let charged : Client :=
        { c with
          tables := { c.tables with sourceStateBytes := c.tables.sourceStateBytes + bytes }
          nextCancellation := c.nextCancellation + 1 }
      match commitSourceTerminal env charged job.workId (rejectedSource c job bytes)
          (sourceOpenRejected job.workId error) with
      | (true, c') => (.done, c')
      | (false, c') =>
        (retireForSource,
          { c' with tables := { c'.tables with
              sourceStateBytes := c'.tables.sourceStateBytes - bytes } })

/-- The locked section of `EnqueueSourceOpen`. -/
def enqueueSourceOpen (env : Env) (c : Client) (now : Int) (job : DispatchJob) :
    FollowUp × Client :=
  match sourceOpenVerdict env c now job with
  | .replay frame => (.queueReplay frame (text "Work queue rejected SourceOpenResult"), c)
  | .violation =>
    (.protocolError job.inboundFrameSequence
      (text "SourceOpenRequest must use one exact, unused context.work_id identity"),
      c.countRejected)
  | .reject error => c.countRejected.rejectSource env job error
  | .retire => (retireForSource, c)
  | .accept index endpoint bytes => (.done, c.admitSource job index endpoint bytes)

-- ---------------------------------------------------------------------------
-- The commit section of HandleSourceOpen
-- ---------------------------------------------------------------------------

/-- What the worker does after the commit section of `HandleSourceOpen`. -/
inductive SourceCommit
  | settled
  | failPair
  | notifySourceClosed (source : SourceState) (error : AdapterError)

/-- The last locked section of `HandleSourceOpen`. -/
def commitSourceOpen (env : Env) (c : Client) (job : DispatchJob)
    (decision : SourceOpenDecision) : SourceCommit × Client :=
  match c.tables.sourceStreams.lookup job.workId with
  | none => (.settled, c)
  | some source =>
    if source.connectionEpoch ≠ job.connectionEpoch ∨
        job.cancellation ≠ some source.cancellation then (.settled, c)
    else if c.flags.sessionFailed ∨ c.flags.stopRequested ∨
        c.session.connectionEpochCounter ≠ job.connectionEpoch then (.settled, c)
    else if env.config.maximumWorkQueue ≤ c.queues.work.length then (.failPair, c.countDropped)
    else
      let frame := sourceOpenFrame job.workId decision
      if decision.accepted then
        if !c.workFrameFits env frame then (.failPair, c)
        else
          match c.queueWorkLocked env (some source.cancellation) frame with
          | (false, c') => (.failPair, c')
          | (true, c') =>
            (.settled, c'.setSource job.workId
              { source with
                phase := .opened
                messageCredit := (job.sourceOpen.initialCredit.getD {}).messages
                byteCredit := (job.sourceOpen.initialCredit.getD {}).bytes })
      else
        match commitSourceTerminal env c job.workId source frame with
        | (false, c') => (.failPair, c')
        | (true, c') =>
          (if decision.error.errorClass = .cancelled then
             .notifySourceClosed source decision.error
           else .settled,
            c'.eraseSource job.workId)

end AdapterRuntime.Model
