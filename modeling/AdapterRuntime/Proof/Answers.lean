import AdapterRuntime.Proof.Grants

/-!
# AdapterRuntime — the terminals the Host is sent

A terminal answers one request of the Host: it carries the identity of the request,
and it is either a fitting result or one typed error. Results come out of the else-if
chains of `HandleUnary`, `HandleOperation` and `HandleSourceOpen`, rejections out of
`RejectedDispatch` and `SourceOpenRejected`.

* `answers_dueTerminal` — what a worker commits answers the request of its job.
* `accounted_of_run` — what is enqueued or retained answers a request of the run.
* `terminals_wellFormed` — the same, for the frames and the tables of the client.
-/

namespace AdapterRuntime.Model

open AdapterRuntime.Lib

variable {env : Env} {c c' : Client} {s s' : System} {commits commits' : List AdapterInstanceSpec}

-- ---------------------------------------------------------------------------
-- Well-formed terminals
-- ---------------------------------------------------------------------------

/-- A request of the Host: its kind and its context. -/
structure Request where
  kind : DispatchKind
  context : WorkContext

/-- The request of a frame of the Host, if it is one. -/
def HostWork.request? : HostWork → Option Request
  | .unaryRequest request => some ⟨.unary, request.context⟩
  | .operationRequest request => some ⟨.operation, request.context⟩
  | .sourceOpenRequest request => some ⟨.sourceOpen, request.context⟩
  | _ => none

/-- The requests that were handled in a run, newest first. -/
def requests : List (System × Action) → List Request
  | [] => []
  | (s, a) :: steps =>
    match s.workReader, a with
    | .handling _ response, .workReader (.tick _) =>
      response.frame.request?.toList ++ requests steps
    | _, _ => requests steps

/-- The output is a valid payload of the output schema, within the limit. -/
def Env.fitsOutput (env : Env) (endpoint : CapabilityEndpointContract) (output : Payload) : Bool :=
  env.outputMatches endpoint output &&
    output.value.length ≤ endpoint.limits.maximumResponseBytes

/-- The output fits an endpoint that serves the request. -/
def Request.Accepts (env : Env) (commits : List AdapterInstanceSpec) (request : Request)
    (output : Payload) : Prop :=
  ∃ index binding endpoint,
    Granted env commits request.kind request.context index binding endpoint ∧
      env.fitsOutput endpoint output = true

/-- A response has either a fitting output or one typed error. -/
def UnaryResponse.WellFormed (env : Env) (commits : List AdapterInstanceSpec) (request : Request)
    (response : UnaryResponse) : Prop :=
  (∃ output, response.output = some output ∧ response.error = none ∧
    request.Accepts env commits output) ∨
  (response.output = none ∧ ∃ error, response.error = some error ∧ env.isTypedError error = true)

/-- A terminal event has a terminal phase. A success has no error, and an output that
fits; any other one has no output, and one typed error of the class of its phase. -/
def OperationEvent.WellFormed (env : Env) (commits : List AdapterInstanceSpec)
    (request : Request) (event : OperationEvent) : Prop :=
  event.phase.isTerminal = true ∧
  (event.phase = .succeeded → event.error = none ∧
    ∀ output, event.output = some output → request.Accepts env commits output) ∧
  (event.phase ≠ .succeeded → event.output = none ∧ ∃ error, event.error = some error ∧
    env.isTypedError error = true ∧ errorMatchesOperationPhase event.phase error.errorClass = true)

/-- A rejection has one typed error and no payload. -/
def SourceOpenResult.WellFormed (env : Env) (result : SourceOpenResult) : Prop :=
  result.accepted = false → result.initialPayload = none ∧
    ∃ error, result.error = some error ∧ env.isTypedError error = true

/-- The error of a `SourceClose`, if it has one, is typed. -/
def SourceClose.WellFormed (env : Env) (close : SourceClose) : Prop :=
  ∀ error, close.error = some error → env.isTypedError error = true

/-- The frame is a terminal; the acceptance of a source is none. -/
def WorkFrame.isTerminal : WorkFrame → Bool
  | .unaryResponse _ | .sourceClose _ => true
  | .operationEvent event => event.phase.isTerminal
  | .sourceOpenResult result => !result.accepted
  | _ => false

/-- The frame is a well-formed terminal of the kind and the identity of the request. -/
def WorkFrame.Answers (env : Env) (commits : List AdapterInstanceSpec) (request : Request) :
    WorkFrame → Prop
  | .unaryResponse response =>
    request.kind = .unary ∧ response.workId = request.context.workId ∧
      response.WellFormed env commits request
  | .operationEvent event =>
    request.kind = .operation ∧ event.workId = request.context.workId ∧
      event.WellFormed env commits request
  | .sourceOpenResult result =>
    request.kind = .sourceOpen ∧ result.streamId = request.context.workId ∧ result.WellFormed env
  | .sourceClose close =>
    request.kind = .sourceOpen ∧ close.streamId = request.context.workId ∧ close.WellFormed env
  | _ => False

theorem Request.Accepts.mono {request : Request} {output : Payload}
    (h : request.Accepts env commits output) (hGrow : ∀ spec ∈ commits, spec ∈ commits') :
    request.Accepts env commits' output := by
  obtain ⟨index, binding, endpoint, hGranted, hFits⟩ := h
  exact ⟨index, binding, endpoint, hGranted.mono hGrow, hFits⟩

theorem WorkFrame.Answers.mono {request : Request} {frame : WorkFrame}
    (h : frame.Answers env commits request) (hGrow : ∀ spec ∈ commits, spec ∈ commits') :
    frame.Answers env commits' request := by
  cases frame with
  | unaryResponse response =>
    refine ⟨h.1, h.2.1, ?_⟩
    obtain ⟨output, hOutput, hError, hAccepts⟩ | hFailure := h.2.2
    · exact .inl ⟨output, hOutput, hError, hAccepts.mono hGrow⟩
    · exact .inr hFailure
  | operationEvent event =>
    obtain ⟨hTerminal, hSuccess, hFailure⟩ := h.2.2
    refine ⟨h.1, h.2.1, hTerminal, fun hPhase => ?_, hFailure⟩
    obtain ⟨hError, hOutput⟩ := hSuccess hPhase
    exact ⟨hError, fun output hSome => (hOutput output hSome).mono hGrow⟩
  | sourceOpenResult | sourceClose => exact h
  | _ => exact h

-- ---------------------------------------------------------------------------
-- Typed errors
-- ---------------------------------------------------------------------------

/-- An error built from a typed class and canonical texts is typed. -/
theorem typed_makeError {errorClass : ErrorClass} {code message : Text}
    (hClass : errorClass.isTyped = true) (hCode : isCanonicalIdentifier code = true)
    (hMessage : isCanonicalText message = true) :
    env.isTypedError (makeError errorClass code message) = true := by
  simp [Env.isTypedError, makeError, hClass, hCode, hMessage]

/-- The error texts of `ValidateWorkContextLocked` are canonical. -/
theorem canonical_validateWorkContext {now : Int} {context : WorkContext} {kind : DispatchKind}
    {error : Text} (h : validateWorkContext env c now context kind = .error error) :
    isCanonicalText error = true := by
  unfold validateWorkContext at h
  split at h
  · cases h
    decide
  · split at h
    · cases h
      decide
    · split at h
      · cases h
        decide
      · repeat' split at h
        all_goals
          cases h
          try decide

/-- The codes and messages of the immediate rejections are canonical. -/
theorem canonical_dispatchVerdict {job : DispatchJob} {code message : Text}
    (h : dispatchVerdict env c job = .reject code message) :
    isCanonicalIdentifier code = true ∧ isCanonicalText message = true := by
  unfold dispatchVerdict at h
  simp only at h
  repeat' split at h
  all_goals
    cases h
    try decide

/-- Every rejection of a source open has a typed error. -/
theorem typed_sourceOpenVerdict {now : Int} {job : DispatchJob} {error : AdapterError}
    (h : sourceOpenVerdict env c now job = .reject error) : env.isTypedError error = true := by
  obtain ⟨-, -, -, hFresh⟩ := sourceOpenVerdict_fresh h (by simp) (by simp)
  unfold freshSourceVerdict at hFresh
  simp only at hFresh
  split at hFresh
  · cases hFresh
    exact typed_makeError rfl (by decide) (by decide)
  · split at hFresh
    · cases hFresh
      exact typed_makeError rfl (by decide) (by decide)
    · split at hFresh
      · rename_i hInvalid
        cases hFresh
        exact typed_makeError rfl (by decide) (canonical_validateWorkContext hInvalid)
      · repeat' split at hFresh
        all_goals
          cases hFresh
          try exact typed_makeError rfl (by decide) (by decide)

/-- The error of a cancelled source is typed, whatever reason the Host gave. -/
theorem typed_cancellationError (cancellation : WorkCancellation) :
    env.isTypedError (cancellationError cancellation) = true := by
  refine typed_makeError rfl (by decide) ?_
  split
  · assumption
  · decide

-- ---------------------------------------------------------------------------
-- Normalized results
-- ---------------------------------------------------------------------------

/-- A normalized unary result is a success with a fitting output or a typed failure. -/
theorem normalizeUnary_cases (endpoint : CapabilityEndpointContract) (cancelled : Bool)
    (result : UnaryResult) :
    ((normalizeUnary env endpoint cancelled result).succeeded = true ∧
      env.fitsOutput endpoint (normalizeUnary env endpoint cancelled result).output = true) ∨
    ((normalizeUnary env endpoint cancelled result).succeeded = false ∧
      env.isTypedError (normalizeUnary env endpoint cancelled result).error = true) := by
  unfold normalizeUnary
  split
  · exact .inr ⟨rfl, typed_makeError rfl (by decide) (by decide)⟩
  · rename_i hSuccess
    split
    · exact .inr ⟨rfl, typed_makeError rfl (by decide) (by decide)⟩
    · rename_i hFailure
      split
      · exact .inr ⟨rfl, typed_makeError rfl (by decide) (by decide)⟩
      · rename_i hLarge
        split
        · exact .inr ⟨rfl, typed_makeError rfl (by decide) (by decide)⟩
        · -- the result is passed on: the checks of its own kind have all passed
          cases hOk : result.succeeded with
          | true =>
            simp only [hOk, Bool.true_and, Bool.or_eq_true, Bool.not_eq_true', not_or,
              Bool.not_eq_false, decide_eq_true_eq, not_lt] at hSuccess hLarge
            exact .inl ⟨rfl, by simp [Env.fitsOutput, hSuccess.2, hLarge]⟩
          | false =>
            simp only [hOk, Bool.not_false, Bool.true_and, Bool.or_eq_true, Bool.not_eq_true',
              not_or, Bool.not_eq_false] at hFailure
            exact .inr ⟨rfl, hFailure.2⟩

/-- `UnaryTerminal` answers a granted query. -/
theorem answers_unaryTerminal (request : Request) {endpoint : CapabilityEndpointContract}
    {index : Nat} {binding : CapabilityBinding} {workId : Text} (hKind : request.kind = .unary)
    (hId : workId = request.context.workId)
    (hGranted : Granted env commits request.kind request.context index binding endpoint)
    (cancelled : Bool) (result : UnaryResult) :
    (unaryTerminal workId (normalizeUnary env endpoint cancelled result)).Answers env commits
      request := by
  refine ⟨hKind, ?_, ?_⟩
  · split <;> exact hId
  · obtain ⟨hOk, hFits⟩ | ⟨hOk, hTyped⟩ := @normalizeUnary_cases env endpoint cancelled result
    · rw [if_pos hOk]
      exact .inl ⟨_, rfl, rfl, index, binding, endpoint, hGranted, hFits⟩
    · rw [if_neg (by simp [hOk])]
      exact .inr ⟨rfl, _, rfl, hTyped⟩

/-- What the chain of `HandleOperation` lets through. -/
structure OperationResult.Sound (env : Env) (endpoint : CapabilityEndpointContract)
    (result : OperationResult) : Prop where
  terminal : result.phase.isTerminal = true
  success : result.phase = .succeeded → hasError result.error = false ∧
    (result.hasOutput = true → env.fitsOutput endpoint result.output = true)
  failure : result.phase ≠ .succeeded → result.hasOutput = false ∧
    env.isTypedError result.error = true ∧
    errorMatchesOperationPhase result.phase result.error.errorClass = true

/-- The failures that the client itself makes up for an operation are sound. -/
theorem sound_operationFailure {endpoint : CapabilityEndpointContract} {errorClass : ErrorClass}
    {code message : String} (hClass : errorClass.isTyped = true)
    (hPhase : errorMatchesOperationPhase .failed errorClass = true)
    (hFailed : failurePhase errorClass = .failed)
    (hCode : isCanonicalIdentifier (text code) = true)
    (hMessage : isCanonicalText (text message) = true) :
    (OperationResult.failure errorClass code message).Sound env endpoint := by
  have hIs : (OperationResult.failure errorClass code message).phase = .failed := hFailed
  refine ⟨by rw [hIs]; rfl, fun hSucceeded => ?_, fun _ => ⟨rfl, ?_, ?_⟩⟩
  · rw [hIs] at hSucceeded
    cases hSucceeded
  · exact typed_makeError hClass hCode hMessage
  · rw [hIs]
    exact hPhase

/-- A normalized operation result is sound. -/
theorem sound_normalizeOperation (endpoint : CapabilityEndpointContract)
    (result : OperationResult) : (normalizeOperation env endpoint result).Sound env endpoint := by
  unfold normalizeOperation
  split
  · exact sound_operationFailure rfl rfl rfl (by decide) (by decide)
  · rename_i hMalformed
    split
    · exact sound_operationFailure rfl rfl rfl (by decide) (by decide)
    · rename_i hLarge
      simp only [operationMalformed, Bool.or_eq_true, Bool.and_eq_true, Bool.not_eq_true',
        beq_iff_eq, bne_iff_ne, ne_eq, not_or, not_and, Bool.not_eq_false, Bool.not_eq_true,
        decide_eq_true_eq, not_lt] at hMalformed hLarge
      obtain ⟨⟨hTerminal, hSuccess⟩, hFailure⟩ := hMalformed
      refine ⟨hTerminal, fun hPhase => ?_, fun hPhase => ?_⟩
      · obtain ⟨⟨hError, hOutput⟩, -⟩ := hSuccess hPhase
        exact ⟨hError, fun hHas => by simp [Env.fitsOutput, hOutput hHas, hLarge hHas]⟩
      · obtain ⟨⟨⟨hHas, -⟩, hTyped⟩, hMatches⟩ := hFailure hPhase
        exact ⟨hHas, hTyped, hMatches⟩

/-- A typed error is copied into the terminal. -/
theorem copies_of_typed {error : AdapterError} (h : env.isTypedError error = true) :
    (!error.code.isEmpty || error.errorClass != .unspecified) = true := by
  simp only [Env.isTypedError, Bool.and_eq_true] at h
  have hClass : error.errorClass ≠ .unspecified := by
    intro hEq
    rw [hEq] at h
    exact absurd h.1.1.1 (by decide)
  simp [hClass]

/-- An empty error is not. -/
theorem not_copies_of_none {error : AdapterError} (h : hasError error = false) :
    (!error.code.isEmpty || error.errorClass != .unspecified) = false := by
  simp only [hasError, Bool.or_eq_false_iff] at h
  simp [h.1.1.1.1, h.1.1.1.2]

/-- `OperationTerminal` answers a granted operation. -/
theorem answers_operationTerminal (request : Request) {endpoint : CapabilityEndpointContract}
    {index : Nat} {binding : CapabilityBinding} {workId : Text}
    (hKind : request.kind = .operation) (hId : workId = request.context.workId)
    (hGranted : Granted env commits request.kind request.context index binding endpoint)
    (now : Int) (result : OperationResult) :
    (operationTerminal now workId (normalizeOperation env endpoint result)).Answers env commits
      request := by
  have hSound := @sound_normalizeOperation env endpoint result
  generalize normalizeOperation env endpoint result = normal at hSound
  refine ⟨hKind, hId, hSound.terminal, fun hPhase => ?_, fun hPhase => ?_⟩
  · obtain ⟨hError, hOutput⟩ := hSound.success hPhase
    refine ⟨by simp [not_copies_of_none hError], fun output hSome => ?_⟩
    have hSome : (if normal.hasOutput then some normal.output else none) = some output := hSome
    split at hSome
    · rename_i hHas
      cases hSome
      exact ⟨index, binding, endpoint, hGranted, hOutput hHas⟩
    · cases hSome
  · obtain ⟨hHas, hTyped, hMatches⟩ := hSound.failure hPhase
    exact ⟨by simp [hHas], normal.error, by simp [copies_of_typed hTyped], hTyped, hMatches⟩

/-- The compact terminal is a typed failure. -/
theorem answers_fallbackTerminal (request : Request) {workId : Text}
    (hKind : request.kind ≠ .sourceOpen) (hId : workId = request.context.workId) (now : Int) :
    (fallbackTerminal now request.kind workId).Answers env commits request := by
  cases hEq : request.kind with
  | unary =>
    exact ⟨hEq, hId, .inr ⟨rfl, _, rfl, typed_makeError rfl (by decide) (by decide)⟩⟩
  | operation =>
    exact ⟨hEq, hId, rfl, by simp, fun _ =>
      ⟨rfl, _, rfl, typed_makeError rfl (by decide) (by decide), rfl⟩⟩
  | sourceOpen => exact absurd hEq hKind

/-- `RejectedDispatch`, for the two classes it is called with. -/
theorem answers_rejectedDispatch (request : Request) {workId code message : Text}
    {errorClass : ErrorClass} (hKind : request.kind ≠ .sourceOpen)
    (hId : workId = request.context.workId)
    (hClass : errorClass = .rejected ∨ errorClass = .cancelled)
    (hCode : isCanonicalIdentifier code = true) (hMessage : isCanonicalText message = true)
    (now : Int) :
    (rejectedDispatch now request.kind workId code message errorClass).Answers env commits
      request := by
  have hTyped : env.isTypedError (makeError errorClass code message) = true :=
    typed_makeError (by obtain rfl | rfl := hClass <;> rfl) hCode hMessage
  cases hEq : request.kind with
  | unary => exact ⟨hEq, hId, .inr ⟨rfl, _, rfl, hTyped⟩⟩
  | operation =>
    refine ⟨hEq, hId, ?_, fun hPhase => ?_, fun _ => ⟨rfl, _, rfl, hTyped, ?_⟩⟩
    · obtain rfl | rfl := hClass <;> rfl
    · obtain rfl | rfl := hClass <;> cases hPhase
    · obtain rfl | rfl := hClass <;> rfl
  | sourceOpen => exact absurd hEq hKind

/-- A normalized decision that rejects has a typed error. -/
theorem typed_normalizeDecision (endpoint : Option CapabilityEndpointContract) (cancelled : Bool)
    (decision : SourceOpenDecision)
    (h : (normalizeDecision env endpoint cancelled decision).accepted = false) :
    env.isTypedError (normalizeDecision env endpoint cancelled decision).error = true := by
  unfold normalizeDecision at h ⊢
  split
  · exact typed_makeError rfl (by decide) (by decide)
  · split
    · exact typed_makeError rfl (by decide) (by decide)
    · split
      · exact typed_makeError rfl (by decide) (by decide)
      · rename_i hRejects
        split
        · exact typed_makeError rfl (by decide) (by decide)
        · rename_i hNot hAccepts hInvalid
          rw [if_neg hNot, if_neg hAccepts, if_neg hRejects, if_neg hInvalid] at h
          simp only [h, Bool.not_false, Bool.true_and, Bool.or_eq_true, Bool.not_eq_true', not_or,
            Bool.not_eq_false] at hRejects
          exact hRejects.2

/-- The answer to a source open is well formed when its rejections are. -/
theorem answers_sourceOpenFrame {request : Request} {streamId : Text}
    {decision : SourceOpenDecision} (hKind : request.kind = .sourceOpen)
    (hId : streamId = request.context.workId)
    (hTyped : decision.accepted = false → env.isTypedError decision.error = true) :
    (sourceOpenFrame streamId decision).Answers env commits request := by
  refine ⟨hKind, hId, fun hRejected => ?_⟩
  have hRejected : decision.accepted = false := hRejected
  exact ⟨by simp [hRejected], decision.error, by simp [hRejected], hTyped hRejected⟩

/-- A rejection with a typed error answers a source open. -/
theorem answers_sourceOpenRejected {request : Request} {streamId : Text} {error : AdapterError}
    (hKind : request.kind = .sourceOpen) (hId : streamId = request.context.workId)
    (hTyped : env.isTypedError error = true) :
    (sourceOpenRejected streamId error).Answers env commits request :=
  ⟨hKind, hId, fun _ => ⟨rfl, error, rfl, hTyped⟩⟩

-- ---------------------------------------------------------------------------
-- Workers
-- ---------------------------------------------------------------------------

/-- The request a job carries. -/
def DispatchJob.request (job : DispatchJob) : Request := ⟨job.kind, job.context⟩

/-- What a worker has decided to send is well formed. -/
def WorkerPc.Sound (env : Env) (commits : List AdapterInstanceSpec) : WorkerPc → Prop
  | .contextReject _ error => isCanonicalText error = true
  | .commit job frame =>
    job.workId = job.context.workId → frame.Answers env commits job.request
  | .sourceCommit _ decision =>
    decision.accepted = false → env.isTypedError decision.error = true
  | _ => True

theorem WorkerPc.Sound.mono {pc : WorkerPc} (h : pc.Sound env commits)
    (hGrow : ∀ spec ∈ commits, spec ∈ commits') : pc.Sound env commits' := by
  cases pc with
  | commit => exact fun hId => (h hId).mono hGrow
  | contextReject | sourceCommit => exact h
  | _ => trivial

/-- The endpoint that is looked up again is the one the request was granted. -/
theorem Granted.endpoint_eq {kind : DispatchKind} {job : DispatchJob} {index : Nat}
    {binding : CapabilityBinding} {endpoint found : CapabilityEndpointContract}
    (h : Granted env commits kind job.context index binding endpoint)
    (hFound : handlerEndpoint env index job = some found) : found = endpoint := by
  rw [handlerEndpoint, h.bound] at hFound
  exact Option.some.inj (hFound.symm.trans h.found)

/-- A worker prepares sound terminals only. -/
theorem sound_workerStep {pc pc' : WorkerPc} {input : WorkerInput}
    (hStep : workerStep env c pc input = some (pc', c')) (hKind : pc.KindOk)
    (hGranted : ∀ job index, pc.attends? = some (job, some index) →
      ∃ binding endpoint, Granted env commits job.kind job.context index binding endpoint) :
    pc'.Sound env commits := by
  cases workerStep_branch hStep with
  -- the error of the validation becomes the answer
  | invalid hInvalid => exact canonical_validateWorkContext hInvalid
  -- the answer is made for the endpoint that served the request
  | @normalizeUnary _ job index _ _ hFound =>
    obtain ⟨binding, endpoint, hServed⟩ := hGranted job index rfl
    intro hId
    rw [hServed.endpoint_eq hFound]
    exact answers_unaryTerminal job.request hKind hId hServed _ _
  | @normalizeOperation _ job index _ _ hFound =>
    obtain ⟨binding, endpoint, hServed⟩ := hGranted job index rfl
    intro hId
    rw [hServed.endpoint_eq hFound]
    exact answers_operationTerminal job.request hKind hId hServed _ _
  -- the decision of the handler is typed by its normalization
  | normalizeSource => exact typed_normalizeDecision _ _ _
  -- at the other points there is no answer yet, or no longer
  | commit hCommits => cases hCommits <;> trivial
  | @unheard _ _ _ after | @signalSession _ _ _ _ after => cases after <;> trivial
  | _ => trivial

/-- The terminal a worker is about to commit answers the request of its job. -/
theorem answers_dueTerminal {pc : WorkerPc} {job : DispatchJob} {now : Int} {frame : WorkFrame}
    (h : pc.Sound env commits) (hKind : pc.KindOk) (hJob : pc.job? = some job)
    (hId : job.workId = job.context.workId) (hDue : pc.dueTerminal now = some frame) :
    frame.Answers env commits job.request := by
  cases pc with
  | commit =>
    cases hJob
    cases hDue
    exact h hId
  | commitFallback =>
    cases hJob
    cases hDue
    exact answers_fallbackTerminal job.request hKind hId now
  | cancelledCommit =>
    cases hJob
    cases hDue
    exact answers_rejectedDispatch job.request hKind hId (.inr rfl) (by decide)
      (by decide) now
  | contextReject =>
    cases hJob
    cases hDue
    exact answers_rejectedDispatch job.request hKind hId (.inl rfl) (by decide) h now
  | inputReject =>
    cases hJob
    cases hDue
    refine answers_rejectedDispatch job.request hKind hId (.inl rfl) (by decide) ?_ now
    split <;> decide
  | _ => cases hDue

-- ---------------------------------------------------------------------------
-- Requests and the jobs built from them
-- ---------------------------------------------------------------------------

variable {R R' : List Request}

/-- A request of this kind and identity was handled; the context is its own, with the
deadline made absolute. -/
def Asked (R : List Request) (kind : DispatchKind) (workId : Text) (context : WorkContext) :
    Prop :=
  ∃ raw now, ⟨kind, raw⟩ ∈ R ∧ raw.workId = workId ∧ context = raw.normalized now

/-- The request the job was built from; its deadline has been made absolute. -/
def DispatchJob.Asks (job : DispatchJob) (request : Request) : Prop :=
  job.kind = request.kind ∧ job.workId = request.context.workId ∧
    ∃ now, job.context = request.context.normalized now

/-- The frame answers a request with this identity. -/
def Settles (env : Env) (commits : List AdapterInstanceSpec) (R : List Request) (workId : Text)
    (frame : WorkFrame) : Prop :=
  ∃ request ∈ R, request.context.workId = workId ∧ frame.Answers env commits request

theorem Asked.mono {kind : DispatchKind} {workId : Text} {context : WorkContext}
    (h : Asked R kind workId context) (hGrow : ∀ request ∈ R, request ∈ R') :
    Asked R' kind workId context := by
  obtain ⟨raw, now, hMem, hRest⟩ := h
  exact ⟨raw, now, hGrow _ hMem, hRest⟩

/-- What is asked under an identity carries it in its context. -/
theorem Asked.workId {kind : DispatchKind} {workId : Text} {context : WorkContext}
    (h : Asked R kind workId context) : workId = context.workId := by
  obtain ⟨raw, now, -, hId, rfl⟩ := h
  exact hId.symm

/-- A job that was asked for has its own request in the run. -/
theorem Asked.own {job : DispatchJob} (h : Asked R job.kind job.workId job.context) :
    ∃ request ∈ R, job.Asks request ∧ Asked [request] job.kind job.workId job.context := by
  obtain ⟨raw, now, hMem, hId, hContext⟩ := h
  exact ⟨⟨job.kind, raw⟩, hMem, ⟨rfl, hId.symm, now, hContext⟩,
    raw, now, List.mem_singleton_self _, hId, hContext⟩

theorem Settles.mono {workId : Text} {frame : WorkFrame} (h : Settles env commits R workId frame)
    (hGrow : ∀ request ∈ R, request ∈ R') (hCommits : ∀ spec ∈ commits, spec ∈ commits') :
    Settles env commits' R' workId frame := by
  obtain ⟨request, hMem, hId, hAnswers⟩ := h
  exact ⟨request, hGrow _ hMem, hId, hAnswers.mono hCommits⟩

/-- A deadline does not matter to a grant. -/
theorem Granted.of_normalized {kind : DispatchKind} {raw : WorkContext} {now : Int} {index : Nat}
    {binding : CapabilityBinding} {endpoint : CapabilityEndpointContract}
    (h : Granted env commits kind (raw.normalized now) index binding endpoint) :
    Granted env commits kind raw index binding endpoint :=
  ⟨h.bound, h.contract, h.unique, h.found, h.mode, h.callback, h.enabled⟩

/-- Normalising the deadline of a context does not change what answers it. -/
theorem Request.Accepts.of_normalized {kind : DispatchKind} {raw : WorkContext} {now : Int}
    {output : Payload} (h : Request.Accepts env commits ⟨kind, raw.normalized now⟩ output) :
    Request.Accepts env commits ⟨kind, raw⟩ output := by
  obtain ⟨index, binding, endpoint, hGranted, hFits⟩ := h
  exact ⟨index, binding, endpoint, hGranted.of_normalized, hFits⟩

/-- What answers a job answers the request the job was built from. -/
theorem Asked.settles {kind : DispatchKind} {workId : Text} {context : WorkContext}
    {frame : WorkFrame} (h : Asked R kind workId context)
    (hAnswers : frame.Answers env commits ⟨kind, context⟩) :
    Settles env commits R workId frame := by
  obtain ⟨raw, now, hMem, hId, rfl⟩ := h
  refine ⟨⟨kind, raw⟩, hMem, hId, ?_⟩
  cases frame with
  | unaryResponse response =>
    refine ⟨hAnswers.1, hAnswers.2.1, ?_⟩
    obtain ⟨output, hOutput, hError, hAccepts⟩ | hFailure := hAnswers.2.2
    · exact .inl ⟨output, hOutput, hError, hAccepts.of_normalized⟩
    · exact .inr hFailure
  | operationEvent event =>
    obtain ⟨hTerminal, hSuccess, hFailure⟩ := hAnswers.2.2
    refine ⟨hAnswers.1, hAnswers.2.1, hTerminal, fun hPhase => ?_, hFailure⟩
    obtain ⟨hError, hOutput⟩ := hSuccess hPhase
    exact ⟨hError, fun output hSome => (hOutput output hSome).of_normalized⟩
  | sourceOpenResult | sourceClose => exact hAnswers
  | _ => exact hAnswers

/-- A terminal that settles the only request there is answers it. -/
theorem Settles.own {workId : Text} {request : Request} {frame : WorkFrame}
    (h : Settles env commits [request] workId frame) : frame.Answers env commits request := by
  obtain ⟨other, hMem, -, hAnswers⟩ := h
  rwa [List.mem_singleton.mp hMem] at hAnswers

/-- The reader builds the job from the request in its hand. -/
def Built (response : WorkResponse) (now : Int) (job : DispatchJob) : Prop :=
  ∃ request, response.frame.request? = some request ∧ job.kind = request.kind ∧
    job.workId = request.context.workId ∧ job.context = request.context.normalized now

/-- The tombstones are those of before, up to what the Host has acknowledged. -/
def Client.KeepsClosed (c c' : Client) : Prop :=
  ∀ streamId closed', c'.tables.closedSources.lookup streamId = some closed' →
    ∃ closed, c.tables.closedSources.lookup streamId = some closed ∧ closed.Keeps closed'

theorem Client.KeepsClosed.of_eq (h : c'.tables.closedSources = c.tables.closedSources) :
    c.KeepsClosed c' := by
  intro streamId closed' hLook
  rw [h] at hLook
  exact ⟨closed', hLook, .refl _⟩

theorem Client.KeepsClosed.of_empty (h : c'.tables.closedSources = ∅) : c.KeepsClosed c' := by
  intro streamId closed' hLook
  rw [h] at hLook
  cases hLook

/-- What the section that handles a Host frame can do to the answers of the client. -/
inductive HandleMove (env : Env) (c : Client) (response : WorkResponse) (now : Int) :
    FollowUp → Client → Prop
  | accept {job : DispatchJob} {reservation : Nat} (hBuilt : Built response now job) :
      HandleMove env c response now .done (c.admitDispatch job reservation)
  | immediate {job : DispatchJob} {code message : Text} {c' : Client}
      (hBuilt : Built response now job) (hKind : job.kind ≠ .sourceOpen)
      (hVerdict : dispatchVerdict env c job = .reject code message) (hCore : c'.core = c.core) :
      HandleMove env c response now
        (.commitImmediate job (rejectedDispatch now job.kind job.workId code message)) c'
  | admitSource {job : DispatchJob} {index bytes : Nat} {endpoint : CapabilityEndpointContract}
      (hBuilt : Built response now job) :
      HandleMove env c response now .done (c.admitSource job index endpoint bytes)
  | rejectSource {job : DispatchJob} {bytes : Nat} {error : AdapterError} {digest : Text}
      (hBuilt : Built response now job) (hKind : job.kind = .sourceOpen)
      (hTyped : env.isTypedError error = true) :
      HandleMove env c response now .done
        ((c.countRejected.charged bytes).sourceCommitted env job.workId
          (rejectedSource c.countRejected job bytes) (sourceOpenRejected job.workId error) digest)
  | answer {frame : WorkFrame} {reason : Text} {c' : Client}
      (hRetained : c.tables.Retains frame) (hCore : c'.core = c.core) :
      HandleMove env c response now (.queueReplay frame reason) c'
  | cancelOpened {streamId digest : Text} {source : SourceState} {error : AdapterError}
      (hActive : c.tables.sourceStreams.lookup streamId = some source)
      (hTyped : env.isTypedError error = true) :
      HandleMove env c response now (.notifySourceClosed source error)
        ((c.sourceCancelled source).closed env streamId source (some error) digest)
  | quiet {todo : FollowUp} {c' : Client} (new : List WorkEvent) (hNameless : todo.Nameless)
      (hDispatch : c'.queues.dispatch = c.queues.dispatch)
      (hHistory : c'.history = new ++ c.history)
      (hNew : ∀ owner frame, .enqueued owner frame ∉ new) (hClosed : c.KeepsClosed c') :
      HandleMove env c response now todo c'

theorem HandleMove.of_core {response : WorkResponse} {now : Int} {todo : FollowUp}
    (hNameless : todo.Nameless) (h : c'.core = c.core) :
    HandleMove env c response now todo c' :=
  .quiet [] hNameless (congrArg Core.dispatch h) (congrArg Core.history h) (by simp)
    (.of_eq (congrArg (fun k : Core => k.tables.closedSources) h))

theorem handleMove_enqueueDispatch {response : WorkResponse} {now : Int} {job : DispatchJob}
    {todo : FollowUp} (hBuilt : Built response now job) (hKind : job.kind ≠ .sourceOpen)
    (h : enqueueDispatch env c now job = (todo, c')) : HandleMove env c response now todo c' := by
  obtain ⟨reservation, -, rfl, rfl⟩ | ⟨hCore, -, -, -, hCases⟩ := enqueueDispatch_cases h
  · exact .accept hBuilt
  · obtain ⟨entry, hVerdict, rfl⟩ | ⟨-, rfl⟩ | ⟨code, message, hVerdict, rfl⟩ | ⟨reason, -, rfl⟩ :=
      hCases
    · exact .answer (.inl ⟨job.workId, entry, (dispatchVerdict_replay hVerdict).1, rfl⟩) hCore
    · exact .of_core trivial hCore
    · exact .immediate hBuilt hKind hVerdict hCore
    · exact .of_core trivial hCore

theorem handleMove_enqueueSourceOpen {response : WorkResponse} {now : Int} {job : DispatchJob}
    {todo : FollowUp} (hBuilt : Built response now job) (hKind : job.kind = .sourceOpen)
    (h : enqueueSourceOpen env c now job = (todo, c')) :
    HandleMove env c response now todo c' := by
  obtain ⟨index, endpoint, bytes, -, rfl, rfl⟩ | ⟨error, hVerdict, hReject⟩ |
    ⟨hCore, -, -, -, hCases⟩ := enqueueSourceOpen_cases h
  · exact .admitSource hBuilt
  · obtain ⟨rfl, bytes, digest, rfl, -⟩ | ⟨rfl, -, -, -, hCore⟩ := rejectSource_cases hReject
    · exact .rejectSource hBuilt hKind (typed_sourceOpenVerdict hVerdict)
    · obtain hCore | hCore := hCore
      · exact .of_core trivial hCore
      · exact .quiet [] trivial (congrArg Core.dispatch hCore) (congrArg Core.history hCore)
          (by simp) (.of_eq (congrArg (fun k : Core => k.tables.closedSources) hCore))
  · obtain ⟨frame, hVerdict, rfl⟩ | ⟨-, rfl⟩ | rfl := hCases
    · exact .answer (.inr ⟨job.workId, sourceOpenVerdict_replay hVerdict⟩) hCore
    · exact .of_core trivial hCore
    · exact .of_core trivial hCore

theorem handleMove_grantSourceCredit {response : WorkResponse} {now : Int} {credit : SourceCredit}
    {sequence : Nat} {todo : FollowUp} (h : grantSourceCredit c credit sequence = (todo, c')) :
    HandleMove env c response now todo c' := by
  obtain ⟨rfl, grant, source, -, -, -, -, -, -, -, -, rfl⟩ | ⟨rfl, closed, hClosed, -, rfl⟩ |
    ⟨⟨message, rfl⟩, rfl⟩ := grantSourceCredit_cases h
  · exact .quiet [_] trivial rfl rfl (by simp) (.of_eq rfl)
  · refine .quiet [] trivial rfl rfl (by simp) ?_
    intro streamId closed' hLook
    simp only [Store.lookup_insert_ite] at hLook
    split at hLook
    · rename_i hKey
      subst hKey
      cases hLook
      exact ⟨closed, hClosed, rfl, rfl, rfl⟩
    · exact ⟨closed', hLook, .refl _⟩
  · exact .of_core trivial rfl

theorem handleMove_handleCancellation {response : WorkResponse} {now : Int}
    {cancellation : WorkCancellation} {sequence : Nat} {todo : FollowUp}
    (h : handleCancellation env c cancellation sequence = (todo, c')) :
    HandleMove env c response now todo c' := by
  obtain ⟨source, streamId, -, hActive, -, hCases⟩ | ⟨rfl, workId, token, -, -, rfl⟩ |
    ⟨hTodo, rfl⟩ := handleCancellation_cases h
  · obtain ⟨rfl, -, rfl⟩ | ⟨rfl, -, hRefused⟩ | ⟨rfl, -, digest, rfl⟩ := hCases
    · exact .quiet [_] trivial rfl rfl (by simp) (.of_eq rfl)
    · exact .quiet [.sourceCancelled source.cancellation] trivial
        (congrArg Core.dispatch hRefused.core) (congrArg Core.history hRefused.core) (by simp)
        (.of_eq (congrArg (fun k : Core => k.tables.closedSources) hRefused.core))
    · exact .cancelOpened hActive (typed_cancellationError cancellation)
  · exact .of_core trivial rfl
  · obtain rfl | ⟨message, rfl⟩ := hTodo <;> exact .of_core trivial rfl

theorem handleMove_handleTerminalAcknowledgement {response : WorkResponse} {now : Int}
    {acknowledgement : TerminalAcknowledgement} {sequence : Nat} {todo : FollowUp}
    (h : handleTerminalAcknowledgement c acknowledgement sequence = (todo, c')) :
    HandleMove env c response now todo c' := by
  obtain ⟨rfl, workId, entry, -, -, -, -, -, -, rfl⟩ | ⟨rfl, streamId, closed, bytes, -, -, -, rfl, -⟩ |
    ⟨hTodo, rfl⟩ := handleTerminalAcknowledgement_cases h
  · exact .quiet [_] trivial rfl rfl (by simp) (.of_eq rfl)
  · refine .quiet [] trivial rfl rfl (by simp) ?_
    intro key closed' hLook
    simp only [Store.lookup_erase_ite] at hLook
    split at hLook
    · cases hLook
    · exact ⟨closed', hLook, .refl _⟩
  · obtain rfl | ⟨message, rfl⟩ := hTodo <;> exact .of_core trivial rfl

/-- Everything the section that handles a Host frame can do. -/
theorem handleMove_of_handle {response : WorkResponse} {now : Int} {todo : FollowUp}
    (h : handleWorkResponse env c now response = (.inl todo, c')) :
    HandleMove env c response now todo c' := by
  unfold handleWorkResponse at h
  simp only at h
  split at h <;> rename_i hFrame <;> simp only [Prod.mk.injEq, Sum.inl.injEq, reduceCtorEq,
    false_and] at h <;> obtain ⟨rfl, rfl⟩ := h
  · exact handleMove_enqueueDispatch ⟨_, by rw [hFrame]; rfl, rfl, rfl, rfl⟩
      (by simp [unaryJob]) rfl
  · exact handleMove_enqueueDispatch ⟨_, by rw [hFrame]; rfl, rfl, rfl, rfl⟩
      (by simp [operationJob]) rfl
  · exact handleMove_enqueueSourceOpen ⟨_, by rw [hFrame]; rfl, rfl, rfl, rfl⟩ rfl rfl
  · exact handleMove_grantSourceCredit rfl
  · exact handleMove_handleCancellation rfl
  · exact handleMove_handleTerminalAcknowledgement rfl
  · exact .of_core trivial rfl

-- ---------------------------------------------------------------------------
-- What a step adds
-- ---------------------------------------------------------------------------

/-- Every terminal that is enqueued, and every new tombstone, answers a request. -/
structure Client.Adds (env : Env) (commits : List AdapterInstanceSpec) (R : List Request)
    (c c' : Client) : Prop where
  history : ∃ new, c'.history = new ++ c.history ∧
    ∀ owner frame, .enqueued owner frame ∈ new → frame.isTerminal = true →
      ∃ workId, Settles env commits R workId frame
  closed : ∀ streamId closed', c'.tables.closedSources.lookup streamId = some closed' →
    (∃ closed, c.tables.closedSources.lookup streamId = some closed ∧ closed.Keeps closed') ∨
      Settles env commits R streamId closed'.terminalFrame

namespace Client.Adds

/-- Nothing is enqueued. -/
theorem of_none (new : List WorkEvent) (hHistory : c'.history = new ++ c.history)
    (hNew : ∀ owner frame, .enqueued owner frame ∉ new) (hClosed : c.KeepsClosed c') :
    c.Adds env commits R c' :=
  ⟨⟨new, hHistory, fun owner frame hMem => absurd hMem (hNew owner frame)⟩,
    fun streamId closed' hLook => .inl (hClosed streamId closed' hLook)⟩

theorem of_core (h : c'.core = c.core) : c.Adds env commits R c' :=
  of_none [] (congrArg Core.history h) (by simp)
    (.of_eq (congrArg (fun k : Core => k.tables.closedSources) h))

/-- One frame is enqueued. -/
theorem of_frame (new : List WorkEvent) (frame : WorkFrame)
    (hHistory : c'.history = new ++ c.history)
    (hNew : ∀ owner other, .enqueued owner other ∈ new → other = frame)
    (hFrame : frame.isTerminal = true → ∃ workId, Settles env commits R workId frame)
    (hClosed : c'.tables.closedSources = c.tables.closedSources) : c.Adds env commits R c' := by
  refine ⟨⟨new, hHistory, fun owner other hMem hTerminal => ?_⟩,
    fun streamId closed' hLook => .inl (Client.KeepsClosed.of_eq hClosed streamId closed' hLook)⟩
  cases hNew owner other hMem
  exact hFrame hTerminal

/-- A source terminal is committed. -/
theorem of_committed (new : List WorkEvent) (frame : WorkFrame) {streamId : Text}
    {closed : ClosedSourceState} (hHistory : c'.history = new ++ c.history)
    (hNew : ∀ owner other, .enqueued owner other ∈ new → other = frame)
    (hSettles : Settles env commits R streamId frame)
    (hClosed : c'.tables.closedSources = c.tables.closedSources.insert streamId closed)
    (hFrame : closed.terminalFrame = frame) : c.Adds env commits R c' := by
  refine ⟨⟨new, hHistory, fun owner other hMem _ => ?_⟩, fun key closed' hLook => ?_⟩
  · cases hNew owner other hMem
    exact ⟨streamId, hSettles⟩
  · rw [hClosed, Store.lookup_insert_ite] at hLook
    split at hLook
    · rename_i hKey
      subst hKey
      cases hLook
      rw [hFrame]
      exact .inr hSettles
    · exact .inl ⟨closed', hLook, .refl _⟩

end Client.Adds

/-- The close of an active source settles the request that opened it. -/
theorem settles_sourceClose {streamId : Text} {source : SourceState}
    (hAsked : Asked R .sourceOpen streamId source.request.context) {error : Option AdapterError}
    (hTyped : ∀ e, error = some e → env.isTypedError e = true) :
    Settles env commits R streamId
      (.sourceClose { streamId, finalSequence := source.sequence, error }) :=
  hAsked.settles ⟨rfl, hAsked.workId, hTyped⟩

/-- A step of a worker. -/
theorem WorkerMove.settles {pc pc' : WorkerPc} (h : WorkerMove env c pc pc' c')
    (hSound : pc.Sound env commits) (hKind : pc.KindOk)
    (hAsked : ∀ job, pc.job? = some job → Asked R job.kind job.workId job.context) :
    c.Adds env commits R c' := by
  cases h with
  | exit | leave => exact .of_core rfl
  | pop => exact .of_none [] rfl (by simp) (.of_eq rfl)
  | quiet _ _ hCore | leaveSource hCore => exact .of_core hCore
  | @accept job _ now =>
    refine .of_frame [_] (operationFrame now job.workId .accepted) rfl (by simp) ?_ rfl
    simp [operationFrame, WorkFrame.isTerminal, OperationPhase.isTerminal]
  | @startOperation job _ now =>
    have hStarted : (operationFrame now job.workId .started).isTerminal = true →
        ∃ workId, Settles env commits R workId (operationFrame now job.workId .started) := by
      simp [operationFrame, WorkFrame.isTerminal, OperationPhase.isTerminal]
    unfold Client.recordStarted
    split
    · exact .of_frame [_, _] _ rfl (by simp) hStarted rfl
    · exact .of_frame [_] _ rfl (by simp) hStarted rfl
  | startUnary | startSource =>
    unfold Client.recordStarted
    split
    · exact .of_none [_] rfl (by simp) (.of_eq rfl)
    · exact .of_core rfl
  | returnUnary | returnOperation | returnSource =>
    unfold Client.recordReturned
    split
    · exact .of_none [_] rfl (by simp) (.of_eq rfl)
    · exact .of_core rfl
  | @commit _ _ job now frame entry hJob hDue =>
    have hJobAsked := hAsked job hJob
    have hAnswers := answers_dueTerminal hSound hKind hJob hJobAsked.workId hDue
    exact .of_frame [.enqueued job.cancellation frame, .retained job.cancellation job.workId] frame
      rfl (by simp) (fun _ => ⟨_, hJobAsked.settles hAnswers⟩) (by simp)
  | refuse _ _ _ hCommit hResult =>
    obtain ⟨hCommitted, -⟩ | ⟨-, hRefused⟩ := Client.commitTerminalFrame_cases hCommit
    · exact absurd hCommitted hResult
    · exact .of_core hRefused.core
  | erase hCore | finish hCore =>
    refine .of_none [] (congrArg Core.history hCore) (by simp) (.of_eq ?_)
    exact (congrArg (fun k : Core => k.tables.closedSources) hCore).trans
      (c.tables.releaseWorkToken_closedSources _)
  | @commitSource pc' c' job decision r hCommit =>
    obtain ⟨-, rfl, -⟩ | ⟨source, -, -, -, -, hCases⟩ := commitSourceOpen_cases hCommit
    · exact .of_core rfl
    · have hJobAsked := hAsked job rfl
      have hJobKind : job.kind = .sourceOpen := hKind
      have hAnswers : (sourceOpenFrame job.workId decision).Answers env commits job.request :=
        answers_sourceOpenFrame hJobKind hJobAsked.workId hSound
      obtain ⟨-, hRefused⟩ | ⟨-, -, rfl⟩ | ⟨-, -, digest, rfl⟩ := hCases
      · exact .of_core hRefused.core
      · exact .of_frame [_] _ rfl (by simp) (fun _ => ⟨_, hJobAsked.settles hAnswers⟩) rfl
      · exact .of_committed [_] _ rfl (by simp) (hJobAsked.settles hAnswers) rfl rfl

/-- What the reader has in its hand answers a request. -/
def FollowUp.Answered (env : Env) (commits : List AdapterInstanceSpec) (R : List Request) :
    FollowUp → Prop
  | .commitImmediate job frame =>
    ∃ request ∈ R, job.Asks request ∧ frame.Answers env commits request
  | .queueReplay frame _ => ∃ workId, Settles env commits R workId frame
  | _ => True

theorem FollowUp.Answered.mono {todo : FollowUp} (h : todo.Answered env commits R)
    (hGrow : ∀ request ∈ R, request ∈ R') (hCommits : ∀ spec ∈ commits, spec ∈ commits') :
    todo.Answered env commits' R' := by
  cases todo with
  | commitImmediate =>
    obtain ⟨request, hMem, hAsks, hAnswers⟩ := h
    exact ⟨request, hGrow _ hMem, hAsks, hAnswers.mono hCommits⟩
  | queueReplay =>
    obtain ⟨workId, hSettles⟩ := h
    exact ⟨workId, hSettles.mono hGrow hCommits⟩
  | done | protocolError | signalFailure | notifySourceClosed => trivial

/-- An immediate rejection settles the identity of its job. -/
theorem FollowUp.Answered.settles {job : DispatchJob} {frame : WorkFrame}
    (h : (FollowUp.commitImmediate job frame).Answered env commits R) :
    Settles env commits R job.workId frame := by
  obtain ⟨request, hMem, hAsks, hAnswers⟩ := h
  exact ⟨request, hMem, hAsks.2.1.symm, hAnswers⟩

/-- A follow-up that carries no terminal answers nothing. -/
theorem FollowUp.answered_of_nameless {todo : FollowUp} (h : todo.Nameless) :
    todo.Answered env commits R := by
  cases todo with
  | commitImmediate | queueReplay => exact h.elim
  | done | protocolError | signalFailure | notifySourceClosed => trivial

/-- A job built from a request that has been handled is asked for. -/
theorem Built.asked {response : WorkResponse} {now : Int} {job : DispatchJob}
    (h : Built response now job) (hMem : ∀ request, response.frame.request? = some request →
      request ∈ R) : Asked R job.kind job.workId job.context := by
  obtain ⟨request, hRequest, hKind, hId, hContext⟩ := h
  exact ⟨request.context, now, by rw [hKind]; exact hMem request hRequest, hId.symm, hContext⟩

/-- The section that handles a Host frame: what it adds, what it leaves to be done, and
the jobs it queues. -/
theorem HandleMove.settles {response : WorkResponse} {now : Int} {todo : FollowUp}
    (h : HandleMove env c response now todo c')
    (hMem : ∀ request, response.frame.request? = some request → request ∈ R)
    (hSources : ∀ streamId source, c.tables.sourceStreams.lookup streamId = some source →
      Asked R .sourceOpen streamId source.request.context)
    (hRetained : ∀ frame, c.tables.Retains frame → ∃ workId, Settles env commits R workId frame) :
    c.Adds env commits R c' ∧ todo.Answered env commits R ∧
      ∀ job ∈ c'.queues.dispatch, job ∈ c.queues.dispatch ∨
        Asked R job.kind job.workId job.context := by
  have hSame : c'.queues.dispatch = c.queues.dispatch → ∀ job ∈ c'.queues.dispatch,
      job ∈ c.queues.dispatch ∨ Asked R job.kind job.workId job.context := by
    intro hEq job hJob
    rw [hEq] at hJob
    exact .inl hJob
  cases h with
  | @accept job reservation hBuilt =>
    refine ⟨.of_none [_] rfl (by simp) (.of_eq rfl), trivial, fun queued hQueued => ?_⟩
    obtain hOld | hNew := List.mem_append.mp hQueued
    · exact .inl hOld
    · rw [List.mem_singleton.mp hNew]
      exact .inr (hBuilt.asked hMem)
  | @admitSource job _ _ _ hBuilt =>
    refine ⟨.of_none [_] rfl (by simp) (.of_eq rfl), trivial, fun queued hQueued => ?_⟩
    obtain hOld | hNew := List.mem_append.mp hQueued
    · exact .inl hOld
    · rw [List.mem_singleton.mp hNew]
      exact .inr (hBuilt.asked hMem)
  | @immediate job _ _ _ hBuilt hKind hVerdict hCore =>
    obtain ⟨hCode, hMessage⟩ := canonical_dispatchVerdict hVerdict
    obtain ⟨request, hRequest, hAsks, hAsked⟩ := (hBuilt.asked hMem).own
    have hSettles : Settles env commits [request] job.workId _ :=
      hAsked.settles (answers_rejectedDispatch job.request hKind hAsked.workId (.inl rfl) hCode
        hMessage now)
    exact ⟨.of_core hCore, ⟨request, hRequest, hAsks, hSettles.own⟩,
      hSame (congrArg Core.dispatch hCore)⟩
  | @rejectSource job _ error _ hBuilt hKind hTyped =>
    have hAsked := hBuilt.asked hMem
    have hSettles : Settles env commits R job.workId (sourceOpenRejected job.workId error) :=
      hAsked.settles (answers_sourceOpenRejected hKind hAsked.workId hTyped)
    exact ⟨.of_committed [_] _ rfl (by simp) hSettles rfl rfl, trivial, hSame rfl⟩
  | answer hRetains hCore =>
    exact ⟨.of_core hCore, hRetained _ hRetains, hSame (congrArg Core.dispatch hCore)⟩
  | @cancelOpened streamId _ source error hActive hTyped =>
    have hError : ∀ e, some error = some e → env.isTypedError e = true :=
      fun e hSome => Option.some.inj hSome ▸ hTyped
    have hSettles : Settles env commits R streamId (.sourceClose
        { streamId, finalSequence := source.sequence, error := some error }) :=
      settles_sourceClose (hSources streamId source hActive) hError
    exact ⟨.of_committed [_, _] _ rfl (by simp) hSettles rfl rfl, trivial, hSame rfl⟩
  | quiet new hNameless hDispatch hHistory hNew hClosed =>
    exact ⟨.of_none new hHistory hNew hClosed, FollowUp.answered_of_nameless hNameless,
      hSame hDispatch⟩

-- ---------------------------------------------------------------------------
-- The invariant
-- ---------------------------------------------------------------------------

/-- Jobs and sources were asked for, and what is to be sent, retained or enqueued
answers a request. -/
structure Accounted (env : Env) (commits : List AdapterInstanceSpec) (R : List Request)
    (s : System) : Prop where
  held : ∀ job, s.Holds job → Asked R job.kind job.workId job.context
  sources : ∀ streamId source, s.client.tables.sourceStreams.lookup streamId = some source →
    Asked R .sourceOpen streamId source.request.context
  workers : ∀ i, (s.workers i).Sound env commits
  pending : ∀ todo, s.workReader.pending? = some todo → todo.Answered env commits R
  replay : ∀ workId entry, s.client.tables.replay.lookup workId = some entry →
    Settles env commits R workId entry.terminal
  closed : ∀ streamId closed, s.client.tables.closedSources.lookup streamId = some closed →
    Settles env commits R streamId closed.terminalFrame
  history : ∀ owner frame, .enqueued owner frame ∈ s.client.history → frame.isTerminal = true →
    ∃ workId, Settles env commits R workId frame

theorem Accounted.mono (h : Accounted env commits R s) (hGrow : ∀ request ∈ R, request ∈ R')
    (hCommits : ∀ spec ∈ commits, spec ∈ commits') : Accounted env commits' R' s where
  held job hHeld := (h.held job hHeld).mono hGrow
  sources streamId source hLook := (h.sources streamId source hLook).mono hGrow
  workers i := (h.workers i).mono hCommits
  pending todo hTodo := (h.pending todo hTodo).mono hGrow hCommits
  replay workId entry hLook := (h.replay workId entry hLook).mono hGrow hCommits
  closed streamId closed hLook := (h.closed streamId closed hLook).mono hGrow hCommits
  history owner frame hMem hTerminal := by
    obtain ⟨workId, hSettles⟩ := h.history owner frame hMem hTerminal
    exact ⟨workId, hSettles.mono hGrow hCommits⟩

/-- Whatever is retained answers a request. -/
theorem Accounted.retained (h : Accounted env commits R s) {frame : WorkFrame}
    (hRetains : s.client.tables.Retains frame) : ∃ workId, Settles env commits R workId frame := by
  obtain ⟨workId, entry, hLook, rfl⟩ | ⟨streamId, closed, hLook, rfl⟩ := hRetains
  · exact ⟨workId, h.replay workId entry hLook⟩
  · exact ⟨streamId, h.closed streamId closed hLook⟩

/-- The parts of a step the invariant depends on. -/
structure StepAnswers (env : Env) (commits : List AdapterInstanceSpec) (R : List Request)
    (s s' : System) : Prop where
  adds : s.client.Adds env commits R s'.client
  pending : ∀ todo, s'.workReader.pending? = some todo → todo.Answered env commits R
  queue : ∀ job ∈ s'.client.queues.dispatch, job ∈ s.client.queues.dispatch ∨
    Asked R job.kind job.workId job.context

/-- A step of the Work reader that handles no Host frame. -/
theorem ReaderMove.settles {pc pc' : WorkReaderPc} (h : ReaderMove env c pc pc' c')
    (hOther : ∀ fence response, pc ≠ .handling fence response)
    (hPending : ∀ todo, pc.pending? = some todo → todo.Answered env commits R) :
    c.Adds env commits R c' ∧ (∀ todo, pc'.pending? = some todo → todo.Answered env commits R) ∧
      c'.queues.dispatch = c.queues.dispatch := by
  cases h with
  | quiet hCore _ hNameless =>
    exact ⟨.of_core hCore, fun todo hTodo => FollowUp.answered_of_nameless (hNameless todo hTodo),
      congrArg Core.dispatch hCore⟩
  | report sequence message =>
    refine ⟨.of_frame [_] (protocolErrorFrame sequence message) rfl (by simp) ?_ rfl, ?_, rfl⟩
    · intro hTerminal
      cases hTerminal
    · intro todo hTodo
      cases hTodo
  | @replay fence frame reason =>
    refine ⟨.of_frame [_] frame rfl (by simp) (fun _ => hPending (.queueReplay frame reason) rfl)
      rfl, ?_, rfl⟩
    intro todo hTodo
    cases hTodo
  | @commit fence job frame entry =>
    have hSettles := (hPending (.commitImmediate job frame) rfl).settles
    refine ⟨.of_frame [.enqueued job.cancellation frame, .retained job.cancellation job.workId]
      frame rfl (by simp) (fun _ => ⟨_, hSettles⟩) (by simp), ?_, rfl⟩
    intro todo hTodo
    cases hTodo
  | accept | immediate | answer | admitSource | rejectSource | retireSource | grant | lateGrant
  | acknowledge | acknowledgeSource | cancelOpening | cancelRefused | cancelOpened =>
    exact absurd rfl (hOther _ _)

/-- The Work reader adds terminals for requests it has received. -/
theorem answers_reader {input : ReaderInput WorkResponse} (h : Accounted env commits R s)
    (hMem : ∀ fence response, s.workReader = .handling fence response → ∀ request,
      response.frame.request? = some request → ∀ now, input = .tick now → request ∈ R)
    (hStep : workReaderStep env s.client s.workReader input = some (s'.workReader, s'.client)) :
    StepAnswers env commits R s s' := by
  by_cases hHandling : ∃ fence response, s.workReader = .handling fence response
  · obtain ⟨fence, response, hPc⟩ := hHandling
    have hRequests := hMem fence response hPc
    rw [hPc] at hStep
    generalize hPc' : s'.workReader = pc', hClient : s'.client = c' at hStep
    cases workReaderStep_branch hStep with
    | @handle now _ _ todo _ hHandle =>
      obtain ⟨hAdds, hTodo, hQueue⟩ := (handleMove_of_handle hHandle).settles
        (fun request hRequest => hRequests request hRequest now rfl) h.sources
        (fun frame hRetains => h.retained hRetains)
      subst hClient
      refine ⟨hAdds, fun next hNext => ?_, hQueue⟩
      rw [hPc'] at hNext
      cases hNext
      exact hTodo
    | hostError hHandle =>
      rw [handleWorkResponse_terminal hHandle] at hClient
      refine ⟨.of_core (by rw [hClient]), fun next hNext => ?_, fun job hJob => .inl ?_⟩
      · rw [hPc'] at hNext
        cases hNext
      · rwa [hClient] at hJob
  · simp only [not_exists] at hHandling
    obtain ⟨hAdds, hPending, hQueue⟩ :=
      (workReaderStep_cases hStep).settles hHandling h.pending
    exact ⟨hAdds, hPending, fun job hJob => .inl (by rwa [hQueue] at hJob)⟩

/-- A source is closed with a typed error or with none. -/
theorem typed_closeSource {streamId : Text} {error : Option AdapterError}
    (h : closeSource env c streamId error = (true, c')) :
    ∀ e, error = some e → env.isTypedError e = true := by
  intro e hError
  subst hError
  unfold closeSource at h
  simp only at h
  split at h
  · cases h
  · split at h
    · cases h
    · rename_i hChecks
      simp only [not_or, Option.any_some, Bool.not_eq_true', Bool.not_eq_false] at hChecks
      exact hChecks.2.2.2.2.1

/-- A step of the reader has handled its request once it is taken. -/
theorem mem_requests {steps : List (System × Action)} {fence : SessionFence}
    {response : WorkResponse} {request : Request} {now : Int} (hPc : s.workReader = .handling fence response)
    (hRequest : response.frame.request? = some request) :
    request ∈ requests ((s, .workReader (.tick now)) :: steps) := by
  simp [requests, hPc, hRequest]

/-- A step forgets no request. -/
theorem requests_grow {steps : List (System × Action)} {a : Action} :
    ∀ request ∈ requests steps, request ∈ requests ((s, a) :: steps) := by
  intro request hMem
  simp only [requests]
  split
  · exact List.mem_append_right _ hMem
  · exact hMem

/-- `PublishSource` enqueues no terminal. -/
theorem settles_publishSource {streamId : Text} {items : List Text} :
    c.Adds env commits R (publishSource env c streamId items).2 := by
  obtain ⟨-, source, -, hEq⟩ | ⟨-, hRefused⟩ :=
    publishSource_cases (Prod.mk.eta (p := publishSource env c streamId items)).symm
  · rw [hEq]
    refine .of_frame [_] (.sourceData { streamId, sequence := source.sequence + 1, items }) rfl
      (by simp) (fun hTerminal => ?_) rfl
    cases hTerminal
  · exact .of_core hRefused.core

/-- `CloseSource` ends a source that the Host asked for. -/
theorem settles_closeSource {streamId : Text} {error : Option AdapterError}
    (hSources : ∀ streamId source, c.tables.sourceStreams.lookup streamId = some source →
      Asked R .sourceOpen streamId source.request.context) :
    c.Adds env commits R (closeSource env c streamId error).2 := by
  have hPair := (Prod.mk.eta (p := closeSource env c streamId error)).symm
  obtain ⟨hOk, source, digest, hActive, -, -, hEq⟩ | ⟨-, hRefused⟩ := closeSource_cases hPair
  · have hTyped := typed_closeSource (hOk ▸ hPair)
    have hSettles : Settles env commits R streamId
        (.sourceClose { streamId, finalSequence := source.sequence, error }) :=
      settles_sourceClose (hSources streamId source hActive) hTyped
    rw [hEq]
    exact .of_committed [_] _ rfl (by simp) hSettles rfl rfl
  · exact .of_core hRefused.core

/-- A step that touches neither the history nor the dispatch queue. -/
theorem StepAnswers.of_still (h : Accounted env commits R s)
    (hHistory : s'.client.history = s.client.history)
    (hClosed : s.client.KeepsClosed s'.client)
    (hDispatch : s'.client.queues.dispatch = s.client.queues.dispatch ∨
      s'.client.queues.dispatch = [])
    (hReader : s'.workReader = s.workReader ∨ s'.workReader.pending? = none) :
    StepAnswers env commits R s s' where
  adds := .of_none [] hHistory (by simp) hClosed
  pending todo hTodo := by
    obtain hSame | hNone := hReader
    · rw [hSame] at hTodo
      exact h.pending todo hTodo
    · rw [hNone] at hTodo
      cases hTodo
  queue job hJob := by
    obtain hSame | hEmpty := hDispatch
    · exact .inl (by rwa [hSame] at hJob)
    · rw [hEmpty] at hJob
      cases hJob

/-- What a step of any thread adds is an answer to a request. -/
theorem stepAnswers_of_step {a : Action} (h : Accounted env commits R s)
    (hReach : (machine env).Reachable s) (hStep : s.step env a = some s')
    (hMem : ∀ fence response request now, s.workReader = .handling fence response →
      response.frame.request? = some request → a = .workReader (.tick now) → request ∈ R) :
    StepAnswers env commits R s s' := by
  have hShape := shape_of_reachable hReach
  have hKeep : s'.client.core = s.client.core → s.client.KeepsClosed s'.client :=
    fun hCore => .of_eq (congrArg (fun k : Core => k.tables.closedSources) hCore)
  cases planeMove_of_step hShape hStep with
  | @worker i _ _ _ _ hMove _ hReader =>
    -- a worker settles its own job only
    refine ⟨?_, fun todo hTodo => ?_, fun job hJob => ?_⟩
    · exact hMove.settles (h.workers i) (hShape.kinds i) (fun job hJob => h.held job (.inr ⟨i, hJob⟩))
    · rw [hReader] at hTodo
      exact h.pending todo hTodo
    · obtain ⟨popped, hEq, -, -⟩ | ⟨hEq, -⟩ := hMove.dispatch
      · exact .inl (by rw [hEq]; exact List.mem_cons_of_mem _ hJob)
      · exact .inl (by rwa [hEq] at hJob)
  | @reader input hAction _ _ _ =>
    subst hAction
    refine answers_reader h ?_ (workReaderStep_of_step hStep)
    -- the request in hand is among those received
    intro fence response hPc request hRequest now hTick
    exact hMem fence response request now hPc hRequest (by rw [hTick])
  | publish _ hClient _ hReader =>
    refine ⟨?_, fun todo hTodo => ?_, fun job hJob => .inl ?_⟩
    · -- the application settles nothing, and ends sources of its own
      rw [hClient]
      exact settles_publishSource
    · rw [hReader] at hTodo
      exact h.pending todo hTodo
    · rwa [hClient, tokens_publishSource.2] at hJob
  | close _ hClient _ hReader =>
    refine ⟨?_, fun todo hTodo => ?_, fun job hJob => .inl ?_⟩
    · rw [hClient]
      exact settles_closeSource h.sources
    · rw [hReader] at hTodo
      exact h.pending todo hTodo
    · rwa [hClient, tokens_closeSource.2] at hJob
  | quiet hCore _ _ hReader =>
    exact .of_still h (congrArg Core.history hCore) (hKeep hCore)
      (.inl (congrArg Core.dispatch hCore)) hReader
  | deactivate hCore _ _ hReader =>
    exact .of_still h (congrArg Core.history hCore)
      (.of_empty (congrArg (fun k : Core => k.tables.closedSources) hCore))
      (.inl (congrArg Core.dispatch hCore)) (.inl hReader)
  | drop _ hCore _ _ hReader =>
    exact .of_still h (congrArg Core.history hCore)
      (.of_eq (congrArg (fun k : Core => k.tables.closedSources) hCore))
      (.inr (congrArg Core.dispatch hCore)) (.inl hReader)
  | release _ _ hNone' hCore hReader =>
    refine .of_still h (congrArg Core.history hCore) (.of_eq ?_) (.inr hNone'.dispatch)
      (.inl hReader)
    exact (congrArg (fun k : Core => k.tables.closedSources) hCore).trans
      s.client.tables.releaseAllWorkTokens_closedSources
  | outside _ _ hNone' _ _ _ _ hClosed hHistory _ hReader =>
    refine .of_still h hHistory ?_ (.inr hNone'.dispatch) (.inr hReader)
    obtain hSame | hEmpty := hClosed
    · exact .of_eq hSame
    · exact .of_empty hEmpty

/-- A program counter without a job is sound. -/
theorem WorkerPc.sound_of_idle {pc : WorkerPc} (h : pc.job? = none) : pc.Sound env commits := by
  cases pc with
  | contextReject | commit | sourceCommit => cases h
  | _ => trivial

/-- A worker after a step is sound: a handler returned, or a context was refused. -/
theorem sound_of_step {a : Action} (h : Accounted env s'.client.commits R s)
    (hReach : (machine env).Reachable s) (hStep : s.step env a = some s') (i : Nat) :
    (s'.workers i).Sound env s'.client.commits := by
  have hShape := shape_of_reachable hReach
  rcases (planeMove_of_step hShape hStep).worker_cases i with hSame | hNone | ⟨input, -, hWorker⟩
  · rw [hSame]
    exact h.workers i
  · exact WorkerPc.sound_of_idle hNone
  · refine sound_workerStep hWorker (hShape.kinds i) ?_
    intro job index hAttends
    -- a worker with a job runs under a validated configuration
    have hJob := WorkerPc.job_of_attends hAttends
    have hStarted : s.supervisor ≠ .notStarted := by
      intro hEq
      have hNone := hShape.occupancy.holds (by rw [hEq]; rfl) i
      rw [hNone] at hJob
      cases hJob
    have hConfig := validated_of_reachable hReach hStarted
    obtain ⟨binding, endpoint, hGranted⟩ :=
      (resolution_of_reachable hConfig hReach).workers i job index hAttends
    exact ⟨binding, endpoint, hGranted.mono (commits_grow hReach hStep)⟩

/-- A terminal that is retained after a step was retained before, or has just been
committed. -/
theorem settles_replay {a : Action} (h : Accounted env commits R s)
    (hReach : (machine env).Reachable s) (hStep : s.step env a = some s') {workId : Text}
    {entry : ReplayEntry} (hLook : s'.client.tables.replay.lookup workId = some entry) :
    Settles env commits R workId entry.terminal := by
  have hShape := shape_of_reachable hReach
  obtain hOld | ⟨i, job, hRetains, rfl⟩ | ⟨job, hRetains, rfl⟩ :=
    (planeMove_of_step hShape hStep).replay hLook
  · exact h.replay workId entry hOld
  · obtain ⟨now, frame, hDue, -, hEntry, -⟩ := hRetains.due
    have hAsked := h.held job (.inr ⟨i, hRetains.holds⟩)
    rw [terminal_replayEntryOf hEntry]
    exact hAsked.settles (answers_dueTerminal (h.workers i) (hShape.kinds i) hRetains.holds
      hAsked.workId hDue)
  · obtain ⟨fence, frame, hPc, hEntry, -⟩ := hRetains.pending
    rw [terminal_replayEntryOf hEntry]
    exact (h.pending (.commitImmediate job frame) (by rw [hPc]; rfl)).settles

/-- The jobs that are held after a step. -/
theorem StepAnswers.held {a : Action} (h : StepAnswers env commits R s s')
    (hAccounted : Accounted env commits R s) (hReach : (machine env).Reachable s)
    (hStep : s.step env a = some s') {job : DispatchJob} (hHeld : s'.Holds job) :
    Asked R job.kind job.workId job.context := by
  have hQueued : job ∈ s'.client.queues.dispatch → Asked R job.kind job.workId job.context := by
    intro hMem
    obtain hOld | hAsked := h.queue job hMem
    · exact hAccounted.held job (.inl hOld)
    · exact hAsked
  obtain hOld | ⟨request, reservation, hAdmits, rfl⟩ | ⟨request, hAdmits, rfl⟩ :=
    (planeMove_of_step (shape_of_reachable hReach) hStep).holds hHeld
  · exact hAccounted.held job hOld
  · refine hQueued ?_
    rw [hAdmits.client]
    exact List.mem_append_right _ (List.mem_singleton_self _)
  · obtain ⟨now, index, endpoint, bytes, -, hClient⟩ := hAdmits.verdict
    refine hQueued ?_
    rw [hClient]
    exact List.mem_append_right _ (List.mem_singleton_self _)

/-- The sources that are active after a step. -/
theorem StepAnswers.sources {a : Action} (h : StepAnswers env commits R s s')
    (hAccounted : Accounted env commits R s) (hReach : (machine env).Reachable s)
    (hStep : s.step env a = some s') {streamId : Text} {source' : SourceState}
    (hLook' : s'.client.tables.sourceStreams.lookup streamId = some source') :
    Asked R .sourceOpen streamId source'.request.context := by
  obtain ⟨source, hLook, hTurn⟩ |
    ⟨job, index, endpoint, bytes, now, hJob, -, -, -, hClient, rfl, rfl⟩ :=
    (sourceMove_of_step (shape_of_reachable hReach) hStep).back hLook'
  · rw [hTurn.sameSource.request]
    exact hAccounted.sources streamId source hLook
  · -- the job of the source is at the end of the queue
    have hHeld : s'.Holds (job.openedAs s.client.nextCancellation
        s.client.session.connectionEpochCounter) := by
      refine .inl ?_
      rw [hClient]
      exact List.mem_append_right _ (List.mem_singleton_self _)
    have hAsked := h.held hAccounted hReach hStep hHeld
    have hKind : (job.openedAs s.client.nextCancellation
        s.client.session.connectionEpochCounter).kind = .sourceOpen := hJob.kind
    rw [DispatchJob.context, hKind] at hAsked
    exact hAsked

/-- A step keeps the accounts. -/
theorem Accounted.step {steps : List (System × Action)} {a : Action}
    (h : Accounted env s.client.commits (requests steps) s) (hReach : (machine env).Reachable s)
    (hStep : s.step env a = some s') :
    Accounted env s'.client.commits (requests ((s, a) :: steps)) s' := by
  have hWas : Accounted env s'.client.commits (requests ((s, a) :: steps)) s :=
    h.mono requests_grow (commits_grow hReach hStep)
  have hMoves : StepAnswers env s'.client.commits (requests ((s, a) :: steps)) s s' := by
    refine stepAnswers_of_step hWas hReach hStep ?_
    intro fence response request now hPc hRequest hAction
    rw [hAction]
    exact mem_requests hPc hRequest
  constructor
  · exact fun job hHeld => hMoves.held hWas hReach hStep hHeld
  · exact fun streamId source hLook => hMoves.sources hWas hReach hStep hLook
  · exact sound_of_step hWas hReach hStep
  · exact hMoves.pending
  · exact fun workId entry hLook => settles_replay hWas hReach hStep hLook
  · intro streamId closed' hLook
    obtain ⟨closed, hOld, hKeeps⟩ | hSettles := hMoves.adds.closed streamId closed' hLook
    · rw [hKeeps.terminalFrame]
      exact hWas.closed streamId closed hOld
    · exact hSettles
  · intro owner frame hMem hTerminal
    obtain ⟨new, hHistory, hNew⟩ := hMoves.adds.history
    rw [hHistory, List.mem_append] at hMem
    obtain hMem | hMem := hMem
    · exact hNew owner frame hMem hTerminal
    · exact hWas.history owner frame hMem hTerminal

/-- The accounts are valid at the end of every run. -/
theorem accounted_of_run {steps : List (System × Action)} (h : (machine env).Run steps s) :
    Accounted env s.client.commits (requests steps) s := by
  refine h.invariant (I := fun steps s => Accounted env s.client.commits (requests steps) s) ?_ ?_
  · constructor
    · rintro job (hQueue | ⟨i, hJob⟩)
      · cases hQueue
      · cases hJob
    · intro streamId source hLook
      cases hLook
    · exact fun i => trivial
    · intro todo hTodo
      cases hTodo
    · intro workId entry hLook
      cases hLook
    · intro streamId closed hLook
      cases hLook
    · intro owner frame hMem
      cases hMem
  · intro steps s a s' hRun hAccounted hStep
    exact hAccounted.step hRun.reachable hStep

-- ---------------------------------------------------------------------------
-- Terminals
-- ---------------------------------------------------------------------------

/-- Every terminal that is enqueued between the two clients answers this request. -/
def Client.AnswersOnly (env : Env) (commits : List AdapterInstanceSpec) (c c' : Client)
    (request : Request) : Prop :=
  ∃ new, c'.history = new ++ c.history ∧
    ∀ owner frame, .enqueued owner frame ∈ new → frame.isTerminal = true →
      frame.Answers env commits request

/-- What a worker commits answers the request its job was built from, also where the Host has
used the identity again. -/
theorem Accounted.own (h : Accounted env s.client.commits R s) (hReach : (machine env).Reachable s)
    {i : Nat} {input : WorkerInput} (hStep : (machine env).step s (.worker i input) = some s')
    {job : DispatchJob} (hJob : (s.workers i).job? = some job) :
    ∃ request ∈ R, job.Asks request ∧
      s.client.AnswersOnly env s.client.commits s'.client request := by
  obtain ⟨request, hMem, hAsks, hAsked⟩ := (h.held job (.inr ⟨i, hJob⟩)).own
  have hStep : s.workerAction env i input = some s' := hStep
  simp only [System.workerAction, Option.map_eq_some_iff] at hStep
  obtain ⟨⟨pc', c'⟩, hWorker, rfl⟩ := hStep
  -- among the requests of the run only the one of this job is looked at
  have hAdds := (workerStep_cases hWorker).settles (R := [request]) (h.workers i)
    ((shape_of_reachable hReach).kinds i) fun other hOther => by
      rw [hJob] at hOther
      cases hOther
      exact hAsked
  obtain ⟨new, hHistory, hNew⟩ := hAdds.history
  refine ⟨request, hMem, hAsks, new, hHistory, fun owner frame hFrame hTerminal => ?_⟩
  obtain ⟨workId, hSettles⟩ := hNew owner frame hFrame hTerminal
  exact hSettles.own

/-- What `CloseSource` commits answers the request that opened the source. -/
theorem Accounted.closes (h : Accounted env commits R s) {streamId : Text} {source : SourceState}
    (hActive : s.client.tables.sourceStreams.lookup streamId = some source) :
    ∃ request ∈ R, request.kind = .sourceOpen ∧ request.context.workId = streamId ∧
      (∃ now, source.request.context = request.context.normalized now) ∧
      ∀ error c', closeSource env s.client streamId error = (true, c') →
        (WorkFrame.sourceClose { streamId, finalSequence := source.sequence, error }).Answers env
          commits request := by
  obtain ⟨raw, now, hMem, hId, hContext⟩ := h.sources streamId source hActive
  refine ⟨⟨.sourceOpen, raw⟩, hMem, rfl, hId, ⟨now, hContext⟩, fun error c' hClose => ?_⟩
  exact ⟨rfl, hId.symm, typed_closeSource hClose⟩

/-- Whatever the handlers return or throw, and for every rejection of the readers: a
terminal that was enqueued, and one that is retained under an identity, is a well-formed
answer to a request of the Host with that identity. What a worker commits, the reader is
about to commit and `CloseSource` commits answers the very request its job, or its source,
came from. -/
theorem terminals_wellFormed {steps : List (System × Action)}
    (h : (machine env).Run steps s) :
    (∀ owner frame, .enqueued owner frame ∈ s.client.history → frame.isTerminal = true →
      ∃ request ∈ requests steps, frame.Answers env s.client.commits request) ∧
    (∀ workId entry, s.client.tables.replay.lookup workId = some entry →
      ∃ request ∈ requests steps, request.context.workId = workId ∧
        entry.terminal.Answers env s.client.commits request) ∧
    (∀ streamId closed, s.client.tables.closedSources.lookup streamId = some closed →
      ∃ request ∈ requests steps, request.context.workId = streamId ∧
        closed.terminalFrame.Answers env s.client.commits request) ∧
    (∀ i input s' job, (machine env).step s (.worker i input) = some s' →
      (s.workers i).job? = some job → ∃ request ∈ requests steps, job.Asks request ∧
        s.client.AnswersOnly env s.client.commits s'.client request) ∧
    (∀ job frame, s.workReader.pending? = some (.commitImmediate job frame) →
      ∃ request ∈ requests steps, job.Asks request ∧
        frame.Answers env s.client.commits request) ∧
    ∀ streamId source, s.client.tables.sourceStreams.lookup streamId = some source →
      ∃ request ∈ requests steps, request.kind = .sourceOpen ∧
        request.context.workId = streamId ∧
        (∃ now, source.request.context = request.context.normalized now) ∧
        ∀ error c', closeSource env s.client streamId error = (true, c') →
          (WorkFrame.sourceClose { streamId, finalSequence := source.sequence, error }).Answers
            env s.client.commits request := by
  have hAccounted := accounted_of_run h
  refine ⟨fun owner frame hMem hTerminal => ?_, hAccounted.replay, hAccounted.closed,
    fun i input s' job hStep hJob => hAccounted.own h.reachable hStep hJob,
    fun job frame hPending => hAccounted.pending _ hPending,
    fun streamId source hActive => hAccounted.closes hActive⟩
  obtain ⟨workId, request, hRequest, -, hAnswers⟩ :=
    hAccounted.history owner frame hMem hTerminal
  exact ⟨request, hRequest, hAnswers⟩

section Runs

open Deployment

/-- A query is answered and a source is closed by the application. -/
theorem terminals_wellFormed_served :
    ∃ steps s, (machine deployment).Run steps s ∧
      (∃ entry, s.client.tables.replay.lookup (text "query") = some entry ∧
        ∃ request ∈ requests steps, request.context.workId = text "query" ∧
          entry.terminal.Answers deployment s.client.commits request) ∧
      ∃ closed, s.client.tables.closedSources.lookup (text "feed") = some closed ∧
        ∃ request ∈ requests steps, request.context.workId = text "feed" ∧
          closed.terminalFrame.Answers deployment s.client.commits request := by
  obtain ⟨steps, s, hRun, hTables⟩ := Machine.exists_run_of_record (machine deployment)
    (bringUp ++ openFeed 1 "feed" ++ .closeSource (text "feed") none ::
      hostFrame 1 2 (unaryFrame "query") ++ runQuery 0 ++ worker 0 2)
    (fun _ s => (s.client.tables.replay.lookup (text "query")).isSome &&
      (s.client.tables.closedSources.lookup (text "feed")).isSome) (by decide +kernel)
  simp only [Bool.and_eq_true, Option.isSome_iff_exists] at hTables
  obtain ⟨⟨entry, hEntry⟩, closed, hClosed⟩ := hTables
  obtain ⟨-, hReplay, hTombstones, -⟩ := terminals_wellFormed hRun
  exact ⟨steps, s, hRun, ⟨entry, hEntry, hReplay _ _ hEntry⟩, closed, hClosed,
    hTombstones _ _ hClosed⟩

end Runs

end AdapterRuntime.Model
