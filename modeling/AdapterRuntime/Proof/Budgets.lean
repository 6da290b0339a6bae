import AdapterRuntime.Proof.Preflight
import AdapterRuntime.Proof.Limits
import AdapterRuntime.Proof.Ledger
import AdapterRuntime.Proof.SourceLedger
import AdapterRuntime.Proof.Queues
import AdapterRuntime.Proof.Inbound

/-!
# AdapterRuntime — one request and the byte budgets

`Register` compares the byte budgets with the negotiated Work frame limit once,
by closed formulas. The budgets are charged later, with the size a request has
after `NormalizeDeadline` has rewritten it.

* `layout_normalized_le` — the request grows by less than the header that is
  dropped with its frame.
* `negotiated_of_reachable` — the limit in force has passed the formulas.
* `accepted_of_reachable` — a frame that is handled is within the limit and
  carries the header of the pair.
* `budgets_adequate` — into empty tables every accepted request fits.
-/

namespace AdapterRuntime.Model

open AdapterRuntime.Lib
open AdapterRuntime.Lib.Wire

variable {env : Env} {c c' : Client} {s s' : System} {a : Action}

-- ---------------------------------------------------------------------------
-- Sizes
-- ---------------------------------------------------------------------------

/-- How the requests of the Host are laid out: the sizes of the tags, and of the
fields that `NormalizeDeadline` leaves alone. The tag of a field takes at most
five bytes, and a deadline that reads back as anything but the default is set. -/
structure RequestLayout where
  header : HeaderTags
  headerTag : Nat
  bodyTag : DispatchKind → Nat
  contextTag : DispatchKind → Nat
  deadlineTag : Nat
  nanosTag : Nat
  ttlTag : Nat
  deadlineTag_le : deadlineTag ≤ 5
  nanosTag_le : nanosTag ≤ 5
  contextRest : WorkContext → Nat
  contextRest_deadline : ∀ context deadline,
    contextRest { context with deadline := deadline } = contextRest context
  inputField : Payload → Nat
  creditField : Option Credit → Nat
  deadlineSet : WorkContext → Bool
  deadlineSet_of_ne : ∀ context, context.deadline ≠ {} → deadlineSet context = true

namespace RequestLayout

variable (layout : RequestLayout)

/-- A `Deadline`; its instant is a signed word. -/
def deadlineBytes (deadline : Deadline) : Nat :=
  integerField layout.nanosTag (deadline.deadlineUnixNanos % 2 ^ 64).toNat +
    integerField layout.ttlTag deadline.ttlMs

/-- The deadline field of a context as the Host has sent it. -/
def sentDeadline (context : WorkContext) : Nat :=
  if layout.deadlineSet context then
    messageField layout.deadlineTag (layout.deadlineBytes context.deadline)
  else 0

/-- The deadline field once `mutable_deadline` has set it. -/
def ownDeadline (context : WorkContext) : Nat :=
  messageField layout.deadlineTag (layout.deadlineBytes context.deadline)

/-- A request, by its context, the size of its deadline field and that of its last
field. -/
def requestBytes (kind : DispatchKind) (context : WorkContext) (deadlineField last : Nat) : Nat :=
  messageField (layout.contextTag kind) (layout.contextRest context + deadlineField) + last

/-- The frame that carries a request. -/
def frameBytes (kind : DispatchKind) (header : SessionHeader) (context : WorkContext)
    (last : Nat) : Nat :=
  messageField layout.headerTag (layout.header.bytes header) +
    messageField (layout.bodyTag kind)
      (layout.requestBytes kind context (layout.sentDeadline context) last)

end RequestLayout

/-- `ByteSizeLong` of the Work requests and of the frames they come in is the
standard wire size. -/
def Protobuf.StandardRequests (p : Protobuf) : Prop :=
  ∃ layout : RequestLayout,
    (∀ request, p.unaryRequestBytes request = layout.requestBytes .unary request.context
      (layout.ownDeadline request.context) (layout.inputField request.input)) ∧
    (∀ request, p.operationRequestBytes request = layout.requestBytes .operation request.context
      (layout.ownDeadline request.context) (layout.inputField request.input)) ∧
    (∀ request, p.sourceOpenRequestBytes request = layout.requestBytes .sourceOpen request.context
      (layout.ownDeadline request.context) (layout.creditField request.initialCredit)) ∧
    (∀ header request, p.workResponseBytes ⟨header, .unaryRequest request⟩ =
      layout.frameBytes .unary header request.context (layout.inputField request.input)) ∧
    (∀ header request, p.workResponseBytes ⟨header, .operationRequest request⟩ =
      layout.frameBytes .operation header request.context (layout.inputField request.input)) ∧
    ∀ header request, p.workResponseBytes ⟨header, .sourceOpenRequest request⟩ =
      layout.frameBytes .sourceOpen header request.context
        (layout.creditField request.initialCredit)

namespace RequestLayout

variable {layout : RequestLayout}

/-- Rewriting the deadline adds at most 21 bytes to its field. -/
theorem ownDeadline_normalized_le (context : WorkContext) (now : Int) :
    layout.ownDeadline (context.normalized now) ≤ layout.sentDeadline context + 21 := by
  have hDeadlineTag := layout.deadlineTag_le
  have hNanosTag := layout.nanosTag_le
  by_cases hTtl : context.deadline.ttlMs = 0
  · have hSame : (context.normalized now).deadline = context.deadline := by
      simp [WorkContext.normalized, normalizeDeadline, hTtl]
    rw [ownDeadline, hSame]
    by_cases hSet : layout.deadlineSet context = true
    · rw [sentDeadline, if_pos hSet]
      omega
    · -- only `mutable_deadline` has changed it: an empty message is set
      have hDefault : context.deadline = {} := by
        by_contra hNot
        exact hSet (layout.deadlineSet_of_ne context hNot)
      rw [hDefault]
      have hEmpty : layout.deadlineBytes {} = 0 := rfl
      rw [hEmpty, messageField]
      have hLength : varintBytes 0 = 1 := by decide
      omega
  · -- the time to live is dropped, and an instant takes one field
    have hBytes : layout.deadlineBytes (context.normalized now).deadline ≤ 15 := by
      have hDropped : (context.normalized now).deadline.ttlMs = 0 := by
        simp [WorkContext.normalized, normalizeDeadline, hTtl]
      rw [deadlineBytes, hDropped]
      have hInstant : integerField layout.nanosTag
          ((context.normalized now).deadline.deadlineUnixNanos % 2 ^ 64).toNat ≤
            layout.nanosTag + 10 := integerField_le (by omega)
      have hNone : integerField layout.ttlTag 0 = 0 := rfl
      omega
    have hField := messageField_mono layout.deadlineTag hBytes
    have hLength : varintBytes 15 = 1 := by decide
    have hMost : messageField layout.deadlineTag 15 = layout.deadlineTag + 1 + 15 := by
      rw [messageField, hLength]
    rw [ownDeadline]
    omega

/-- So the request grows by at most 22. -/
theorem requestBytes_normalized_le (kind : DispatchKind) (context : WorkContext) (now : Int)
    (last : Nat) :
    layout.requestBytes kind (context.normalized now)
        (layout.ownDeadline (context.normalized now)) last ≤
      layout.requestBytes kind context (layout.sentDeadline context) last + 22 := by
  have hRest : layout.contextRest (context.normalized now) = layout.contextRest context :=
    layout.contextRest_deadline context _
  have hGrown := layout.ownDeadline_normalized_le context now
  have hContext : messageField (layout.contextTag kind)
      (layout.contextRest context + layout.ownDeadline (context.normalized now)) ≤
      messageField (layout.contextTag kind)
        (layout.contextRest context + layout.sentDeadline context + 21) :=
    messageField_mono _ (by omega)
  have hLength := messageField_add_le (layout.contextTag kind)
    (layout.contextRest context + layout.sentDeadline context) (d := 21) (by omega)
  unfold requestBytes
  rw [hRest]
  omega

/-- The header that is dropped outweighs the growth: an instance id takes 36 bytes. -/
theorem layout_normalized_le (kind : DispatchKind) {header : SessionHeader}
    (hInstance : header.instanceId.length = 36) (context : WorkContext) (now : Int)
    (last : Nat) :
    layout.requestBytes kind (context.normalized now)
        (layout.ownDeadline (context.normalized now)) last ≤
      layout.frameBytes kind header context last := by
  have hGrown := layout.requestBytes_normalized_le kind context now last
  have hBody := le_messageField (layout.bodyTag kind)
    (layout.requestBytes kind context (layout.sentDeadline context) last)
  have hName := le_textField layout.header.instanceId (n := header.instanceId.length) (by omega)
  have hHeader := le_messageField layout.headerTag (layout.header.bytes header)
  have hBytes : textField layout.header.instanceId header.instanceId.length ≤
      layout.header.bytes header := by
    unfold HeaderTags.bytes
    omega
  unfold frameBytes
  omega

end RequestLayout

-- ---------------------------------------------------------------------------
-- What Register has checked
-- ---------------------------------------------------------------------------

/-- The budgets hold one frame at this limit, and the formulas do not wrap. -/
structure Negotiated (env : Env) (limit : Nat) : Prop where
  word : limit * 2 + kCanonicalSha256TextBytes * 2 ≤ sizeMax
  dispatch : limit ≤ env.config.maximumDispatchQueueBytes
  replay : limit + kCanonicalSha256TextBytes * 2 ≤ env.config.maximumTerminalReplayBytes
  source : limit * 2 + kCanonicalSha256TextBytes * 2 ≤ env.config.maximumSourceStateBytes

/-- A fence comes out of the limits that were negotiated. -/
theorem checkRegisterResponse_negotiated {response : RegisterResponse} {fence : SessionFence}
    (h : checkRegisterResponse env response = .ok fence) :
    Negotiated env fence.maximumWorkFrameBytes := by
  have hText : kCanonicalSha256TextBytes * 2 ≤ sizeMax := by decide
  unfold checkRegisterResponse at h
  simp only at h
  split at h
  · cases h
  · split at h
    · cases h
    · split at h
      · cases h
      · split at h
        · cases h
        · split at h
          · cases h
          · rename_i hWord
            split at h
            · cases h
            · rename_i hBudgets
              simp only [Bool.or_eq_true, decide_eq_true_eq, not_or, not_lt] at hWord hBudgets
              obtain ⟨⟨⟨⟨-, -⟩, hDispatch⟩, hReplay⟩, hSource⟩ := hBudgets
              obtain rfl := Except.ok.inj h
              refine ⟨?_, hDispatch, hReplay, hSource⟩
              show response.maximumWorkFrameBytes * 2 + kCanonicalSha256TextBytes * 2 ≤ sizeMax
              omega

/-- A fence that waits to be installed comes from `Register`. -/
theorem registered_of_supervisorStep {controlDone workDone : Bool} {pc pc' : SupervisorPc}
    {input : SupervisorInput} {fence : SessionFence}
    (h : supervisorStep env c controlDone workDone pc input = some (pc', c'))
    (hFence : pc'.registered? = some fence) : Negotiated env fence.maximumWorkFrameBytes := by
  cases supervisorStep_branch h with
  | registered hCheck =>
    cases hFence
    exact checkRegisterResponse_negotiated hCheck
  | @deactivated _ _ after => cases after <;> cases hFence
  | @enterLost _ notify => cases notify <;> cases hFence
  | _ => cases hFence

/-- The limit in force has been negotiated. -/
theorem negotiated_of_reachable (h : (machine env).Reachable s)
    (hLimit : s.client.session.maximumWorkFrameBytes ≠ 0) :
    Negotiated env s.client.session.maximumWorkFrameBytes := by
  refine (h.invariant (I := fun s => (s.client.session.maximumWorkFrameBytes ≠ 0 →
      Negotiated env s.client.session.maximumWorkFrameBytes) ∧
    ∀ fence, s.supervisor.registered? = some fence →
      Negotiated env fence.maximumWorkFrameBytes) ?_ ?_).1 hLimit
  · exact ⟨fun hNot => absurd rfl hNot, fun fence hNone => by cases hNone⟩
  · intro s a s' hReach ⟨hKept, hRegistered⟩ hStep
    constructor
    · intro hLimit
      obtain hSame | ⟨fence, hFence, hInstalled⟩ | hZero := frameLimit_of_step hStep
      · rw [hSame] at hLimit ⊢
        exact hKept hLimit
      · rw [hInstalled]
        exact hRegistered fence hFence
      · exact absurd hZero hLimit
    · intro fence hFence
      cases System.step_cases hStep with
      | supervisor hSupervisor => exact registered_of_supervisorStep hSupervisor hFence
      | startThreads | joinSupervisor => cases hFence
      | worker | workReader | controlReader | workWriter | controlWriter | publishSource
      | closeSource | flags | joinWorkers | stopDeactivate | stopReset =>
        exact hRegistered fence hFence

-- ---------------------------------------------------------------------------
-- The frames WorkStreamLoop accepts
-- ---------------------------------------------------------------------------

/-- What `WorkStreamLoop` has checked of the frame it holds: the size, and after
`ValidateWorkHeader` also the header. -/
def WorkReaderPc.Accepted (env : Env) : WorkReaderPc → Prop
  | .validating fence response =>
    env.protobuf.workResponseBytes response ≤ fence.maximumWorkFrameBytes
  | .handling fence response =>
    env.protobuf.workResponseBytes response ≤ fence.maximumWorkFrameBytes ∧
      response.header = stampHeader env fence fence.connectionEpoch response.header.frameSequence
  | _ => True

/-- A frame in the reader's hands is within the negotiated limit. -/
theorem accepted_workReaderStep {pc pc' : WorkReaderPc} {input : ReaderInput WorkResponse}
    (h : workReaderStep env c pc input = some (pc', c')) (hAccepted : pc.Accepted env) :
    pc'.Accepted env := by
  cases workReaderStep_branch h with
  | received hFits => exact hFits
  | goodHeader hValid => exact ⟨hAccepted, (validateHeader_ok hValid).1⟩
  | followUp hFollow => cases followUpStep_branch hFollow <;> trivial
  | _ => trivial

/-- This holds in every reachable state. -/
theorem accepted_of_reachable (h : (machine env).Reachable s) : s.workReader.Accepted env := by
  refine h.invariant (I := fun s => s.workReader.Accepted env) trivial ?_
  intro s a s' _ hAccepted hStep
  cases System.step_cases hStep with
  | workReader hReader => exact accepted_workReaderStep hReader hAccepted
  | supervisor =>
    unfold System.spawn
    split
    · trivial
    · trivial
    · exact hAccepted
  | worker | controlReader | workWriter | controlWriter | publishSource | closeSource | flags
  | startThreads | joinSupervisor | joinWorkers | stopDeactivate | stopReset => exact hAccepted

/-- The instance id of a validated configuration takes 36 bytes. -/
theorem validateConfig_instanceId (h : env.validateConfig = .ok ()) :
    env.config.registration.instanceId.length = 36 := by
  unfold Env.validateConfig at h
  simp only at h
  split at h
  · cases h
  · split at h
    · cases h
    · rename_i hInstance
      simp only [Bool.or_eq_true, Bool.not_eq_true', not_or, Bool.not_eq_false,
        isCanonicalInstanceId, Bool.and_eq_true, beq_iff_eq] at hInstance
      exact hInstance.1.1.1

-- ---------------------------------------------------------------------------
-- One request
-- ---------------------------------------------------------------------------

/-- The job `HandleWorkResponse` builds from the request of a frame. -/
def WorkResponse.job? (env : Env) (now : Int) (response : WorkResponse) : Option DispatchJob :=
  match response.frame with
  | .unaryRequest request => some (unaryJob env now request response.header.frameSequence)
  | .operationRequest request =>
    some (operationJob env now request response.header.frameSequence)
  | .sourceOpenRequest request =>
    some (sourceOpenJob env now request response.header.frameSequence)
  | _ => none

/-- A job is charged for no more than the frame it came in. -/
theorem accountedBytes_le_frame (hSizes : env.protobuf.StandardRequests)
    {response : WorkResponse} (hInstance : response.header.instanceId.length = 36) {now : Int}
    {job : DispatchJob} (hJob : response.job? env now = some job) :
    job.accountedBytes ≤ env.protobuf.workResponseBytes response := by
  obtain ⟨layout, hUnary, hOperation, hSource, hUnaryFrame, hOperationFrame, hSourceFrame⟩ := hSizes
  obtain ⟨header, frame⟩ := response
  cases frame with
  | unaryRequest request =>
    cases hJob
    rw [hUnaryFrame]
    simp only [unaryJob, hUnary]
    exact layout.layout_normalized_le .unary hInstance request.context now _
  | operationRequest request =>
    cases hJob
    rw [hOperationFrame]
    simp only [operationJob, hOperation]
    exact layout.layout_normalized_le .operation hInstance request.context now _
  | sourceOpenRequest request =>
    cases hJob
    rw [hSourceFrame]
    simp only [sourceOpenJob, hSource]
    exact layout.layout_normalized_le .sourceOpen hInstance request.context now _
  | sourceCredit | cancellation | terminalAcknowledgement | protocolError | notSet => cases hJob

/-- The byte-budget checks of the admission sections pass, and neither the sizes
they compare nor the counters they would be added to leave the word. -/
structure Client.Adequate (env : Env) (c : Client) (job : DispatchJob) : Prop where
  dispatch : fitsByteBudget c.queues.dispatchBytes job.accountedBytes
    env.config.maximumDispatchQueueBytes = true
  reservation : fitsByteBudget c.tables.terminalReplayBytes
    (c.session.maximumWorkFrameBytes + job.fingerprint.length + kCanonicalSha256TextBytes)
    env.config.maximumTerminalReplayBytes = true
  source : sourceBudgetFits env c job = some (sourceCharge c job)
  dispatchWord : c.queues.dispatchBytes + job.accountedBytes ≤ sizeMax
  metadataWord : job.fingerprint.length + kCanonicalSha256TextBytes ≤ sizeMax
  reservationWord : c.tables.terminalReplayBytes + (c.session.maximumWorkFrameBytes +
    job.fingerprint.length + kCanonicalSha256TextBytes) ≤ sizeMax
  sourceWord : c.tables.sourceStateBytes + sourceCharge c job ≤ sizeMax

/-- Empty counters hold one job of the negotiated size. -/
theorem Client.Adequate.of_empty {job : DispatchJob} {limit : Nat} (h : Negotiated env limit)
    (hLimit : c.session.maximumWorkFrameBytes = limit) (hBytes : job.accountedBytes ≤ limit)
    (hDigest : job.fingerprint.length = kCanonicalSha256TextBytes)
    (hDispatch : c.queues.dispatchBytes = 0) (hReplay : c.tables.terminalReplayBytes = 0)
    (hSource : c.tables.sourceStateBytes = 0) : c.Adequate env job := by
  obtain ⟨hWord, hDispatchBudget, hReplayBudget, hSourceBudget⟩ := h
  have hCharge : sourceCharge c job ≤ limit * 2 + kCanonicalSha256TextBytes * 2 := by
    unfold sourceCharge
    omega
  refine ⟨fitsByteBudget_iff.mpr (by omega), fitsByteBudget_iff.mpr (by omega), ?_, by omega,
    by omega, by omega, by omega⟩
  have hFits : fitsByteBudget c.tables.sourceStateBytes (sourceCharge c job)
      env.config.maximumSourceStateBytes = true := fitsByteBudget_iff.mpr (by omega)
  unfold sourceBudgetFits
  rw [sourceAccountedBytes_eq, if_pos (by omega)]
  simp only [hFits, if_true]

/-- With room for one more identity the reservation succeeds. -/
theorem Client.Adequate.reserve {job : DispatchJob} (h : c.Adequate env job)
    (hId : job.workId ≠ [])
    (hRoom : c.tables.retainedIdentities < env.config.maximumTerminalReplay) :
    reserveTerminalReplay env c job = some
      (c.session.maximumWorkFrameBytes + job.fingerprint.length + kCanonicalSha256TextBytes) := by
  have hSum : sizeAdd job.fingerprint.length kCanonicalSha256TextBytes =
      job.fingerprint.length + kCanonicalSha256TextBytes :=
    Nat.mod_eq_of_lt (Nat.lt_succ_of_le h.metadataWord)
  have hWord := h.reservationWord
  have hFits := h.reservation
  unfold reserveTerminalReplay
  rw [if_neg (by simp [hId]; omega)]
  simp only [hSum]
  rw [if_neg (by omega), ← Nat.add_assoc, if_pos hFits]

/-- The dispatch budget and the reservation do not stop the job. -/
theorem Client.Adequate.dispatchVerdict {job : DispatchJob} (h : c.Adequate env job)
    (hRoom : c.tables.retainedIdentities < env.config.maximumTerminalReplay) :
    dispatchVerdict env c job ≠ .retire ∧
    ∀ message, dispatchVerdict env c job ≠ .reject (text "dispatch-byte-budget") message := by
  have hReady : text "not-ready" ≠ text "dispatch-byte-budget" := by decide
  have hFull : text "dispatch-queue-full" ≠ text "dispatch-byte-budget" := by decide
  unfold Model.dispatchVerdict
  simp only [h.dispatch, Bool.not_true, Bool.false_eq_true, if_false]
  by_cases hId : job.workId = []
  · simp [hId]
  · simp only [if_neg hId, h.reserve hId hRoom]
    repeat' split
    all_goals simp [hReady, hFull]

/-- Neither do the dispatch budget and the source state. -/
theorem Client.Adequate.sourceOpenVerdict {now : Int} {job : DispatchJob}
    (h : c.Adequate env job)
    (hRoom : c.tables.sourceIdentities < env.config.maximumSourceTombstones) :
    sourceOpenVerdict env c now job ≠ .retire ∧
    ∀ error, sourceOpenVerdict env c now job = .reject error →
      error.code ≠ text "dispatch-byte-budget" := by
  unfold Model.sourceOpenVerdict freshSourceVerdict
  simp only [h.dispatch, h.source, Bool.not_true, Bool.false_eq_true, if_false,
    if_neg (Nat.not_le_of_lt hRoom)]
  constructor
  · repeat' split
    all_goals simp
  · intro error hReject
    repeat' split at hReject
    all_goals cases hReject
    all_goals simp only [makeError]
    all_goals decide

/-- A rejection is charged to the source state, and fails only with its frame. -/
theorem Client.Adequate.rejectSource {job : DispatchJob} {error : AdapterError} {reason : Text}
    (h : c.Adequate env job)
    (hRoom : c.tables.sourceIdentities < env.config.maximumSourceTombstones)
    (hFailed : c.countRejected.rejectSource env job error = (.signalFailure reason, c')) :
    (commitSourceTerminal env c job.workId (Model.rejectedSource c job (sourceCharge c job))
      (sourceOpenRejected job.workId error)).1 = false := by
  have hSource : sourceBudgetFits env c.countRejected job = some (sourceCharge c job) := h.source
  have hIdentities : ¬env.config.maximumSourceTombstones ≤
      c.countRejected.tables.sourceIdentities := Nat.not_le_of_lt hRoom
  unfold Client.rejectSource at hFailed
  simp only [if_neg hIdentities, hSource] at hFailed
  split at hFailed
  · cases hFailed
  · rename_i hCommit
    have hFst := congrArg Prod.fst hCommit
    rw [commitSourceTerminal_fst, queueWorkLocked_fst] at hFst ⊢
    exact hFst

/-- `EnqueueDispatch` fails the pair only when no identity is left. -/
theorem enqueueDispatch_signal {now : Int} {job : DispatchJob} {reason : Text}
    (h : enqueueDispatch env c now job = (.signalFailure reason, c')) :
    dispatchVerdict env c job = .retire := by
  unfold enqueueDispatch at h
  split at h
  case h_4 hRetire => exact hRetire
  all_goals cases h

/-- `EnqueueSourceOpen` fails the pair only when no identity is left, or when its rejection
finds no room. -/
theorem enqueueSourceOpen_signal {now : Int} {job : DispatchJob} {reason : Text}
    (h : enqueueSourceOpen env c now job = (.signalFailure reason, c')) :
    sourceOpenVerdict env c now job = .retire ∨
    ∃ error, sourceOpenVerdict env c now job = .reject error ∧
      c.countRejected.rejectSource env job error = (.signalFailure reason, c') := by
  unfold enqueueSourceOpen at h
  split at h
  case h_3 error hReject => exact .inr ⟨error, hReject, h⟩
  case h_4 hRetire => exact .inl hRetire
  all_goals cases h

/-- The job of a request that signals a failure was retired, or it is a source open
whose rejection failed. -/
theorem handleWorkResponse_signal {now : Int} {response : WorkResponse} {job : DispatchJob}
    {reason : Text} (hJob : response.job? env now = some job)
    (h : handleWorkResponse env c now response = (.inl (.signalFailure reason), c')) :
    dispatchVerdict env c job = .retire ∨ sourceOpenVerdict env c now job = .retire ∨
    ∃ error, job.kind = .sourceOpen ∧ sourceOpenVerdict env c now job = .reject error ∧
      c.countRejected.rejectSource env job error = (.signalFailure reason, c') := by
  obtain ⟨header, frame⟩ := response
  cases frame with
  | unaryRequest request =>
    cases hJob
    simp only [handleWorkResponse, Prod.mk.injEq, Sum.inl.injEq] at h
    exact .inl (enqueueDispatch_signal (Prod.ext h.1 h.2))
  | operationRequest request =>
    cases hJob
    simp only [handleWorkResponse, Prod.mk.injEq, Sum.inl.injEq] at h
    exact .inl (enqueueDispatch_signal (Prod.ext h.1 h.2))
  | sourceOpenRequest request =>
    cases hJob
    simp only [handleWorkResponse, Prod.mk.injEq, Sum.inl.injEq] at h
    obtain hRetire | ⟨error, hReject, hFailed⟩ := enqueueSourceOpen_signal (Prod.ext h.1 h.2)
    · exact .inr (.inl hRetire)
    · exact .inr (.inr ⟨error, rfl, hReject, hFailed⟩)
  | sourceCredit | cancellation | terminalAcknowledgement | protocolError | notSet => cases hJob

-- ---------------------------------------------------------------------------
-- The budgets of a run
-- ---------------------------------------------------------------------------

/-- The counters of empty tables are zero. -/
theorem counters_of_empty (h : (machine env).Reachable s)
    (hAttached : s.supervisor.phase.attached = true) (hDispatch : s.client.queues.dispatch = [])
    (hReplay : s.client.tables.replay = ∅) (hTokens : s.client.tables.workTokens = ∅)
    (hSources : s.client.tables.sourceStreams = ∅)
    (hClosed : s.client.tables.closedSources = ∅) :
    s.client.queues.dispatchBytes = 0 ∧ s.client.tables.terminalReplayBytes = 0 ∧
      s.client.tables.sourceStateBytes = 0 := by
  have hBalance := (ledger_of_reachable h).balance
  simp only [Tables.ledger, hReplay, hTokens] at hBalance
  refine ⟨?_, hBalance, ?_⟩
  · have hExact := (coreTallied_of_reachable h).exact
    simp only [Client.core, hDispatch] at hExact
    exact hExact
  · rw [← (sourceLedger_of_reachable h).exact_ hAttached]
    exact Tables.sourceWeight_of_empty hSources hClosed

/-- Into empty tables every accepted request fits: no byte budget refuses it, no size
leaves the word, and the pair is not retired for it. Only a source open that is
rejected on other grounds can fail the pair, when the Work transport does not take
the frame of the rejection. -/
theorem budgets_adequate (hSizes : env.protobuf.StandardRequests) (h : (machine env).Reachable s)
    {fence : SessionFence} {response : WorkResponse}
    (hReader : s.workReader = .handling fence response) {now : Int} {job : DispatchJob}
    (hJob : response.job? env now = some job)
    (hDigest : isCanonicalSha256 job.fingerprint = true)
    (hDispatch : s.client.queues.dispatch = []) (hReplay : s.client.tables.replay = ∅)
    (hTokens : s.client.tables.workTokens = ∅) (hSources : s.client.tables.sourceStreams = ∅)
    (hClosed : s.client.tables.closedSources = ∅) :
    s.client.Adequate env job ∧
    (dispatchVerdict env s.client job ≠ .retire ∧
      ∀ message,
        dispatchVerdict env s.client job ≠ .reject (text "dispatch-byte-budget") message) ∧
    (sourceOpenVerdict env s.client now job ≠ .retire ∧
      ∀ error, sourceOpenVerdict env s.client now job = .reject error →
        error.code ≠ text "dispatch-byte-budget") ∧
    ∀ reason c', handleWorkResponse env s.client now response =
        (.inl (.signalFailure reason), c') →
      ∃ error, job.kind = .sourceOpen ∧ sourceOpenVerdict env s.client now job = .reject error ∧
        (commitSourceTerminal env s.client job.workId
          (rejectedSource s.client job (sourceCharge s.client job))
          (sourceOpenRejected job.workId error)).1 = false := by
  have hShape := shape_of_reachable h
  -- a reader with a frame is in the Work phase of an attached pair
  have hFence : s.workReader.fence? = some fence := by rw [hReader]; rfl
  have hPhase : s.supervisor.phase.work = true := by
    by_contra hNot
    rw [Bool.not_eq_true] at hNot
    rw [hShape.threads.workReader hNot] at hFence
    cases hFence
  have hAttached : s.supervisor.phase.attached = true := by
    generalize s.supervisor.phase = phase at hPhase ⊢
    cases phase <;> first | rfl | cases hPhase
  -- the configuration was validated at `Start`
  have hConfig : env.validateConfig = .ok () := by
    refine validated_of_reachable h fun hIdle => ?_
    rw [hIdle] at hPhase
    cases hPhase
  -- the frame is within the limit, and the job within the frame
  have hAccepted : (WorkReaderPc.handling fence response).Accepted env :=
    hReader ▸ accepted_of_reachable h
  have hInstance : response.header.instanceId.length = 36 := by
    rw [hAccepted.2]
    exact validateConfig_instanceId hConfig
  have hLimit := ((fenced_of_reachable h).used fence (.workReader hFence)).1.workLimit
  have hBytes : job.accountedBytes ≤ s.client.session.maximumWorkFrameBytes := by
    rw [hLimit]
    exact (accountedBytes_le_frame hSizes hInstance hJob).trans hAccepted.1
  -- the session has negotiated its limits
  have hNegotiated := negotiated_of_reachable h (frameLimit_ne_zero hShape hPhase)
  have hLength : job.fingerprint.length = kCanonicalSha256TextBytes := by
    simp only [isCanonicalSha256, Bool.and_eq_true, beq_iff_eq] at hDigest
    exact hDigest.1.1
  -- with empty tables the counters are zero
  obtain ⟨hZeroDispatch, hZeroReplay, hZeroSource⟩ :=
    counters_of_empty h hAttached hDispatch hReplay hTokens hSources hClosed
  have hAdequate : s.client.Adequate env job :=
    .of_empty hNegotiated rfl hBytes hLength hZeroDispatch hZeroReplay hZeroSource
  -- one identity is always within the limits of a validated configuration
  have hBounds := (validateConfig_passed hConfig).1
  simp only [Env.boundsOk, Bool.and_eq_true, bne_iff_ne, ne_eq, decide_eq_true_eq] at hBounds
  have hIdentities : s.client.tables.retainedIdentities < env.config.maximumTerminalReplay := by
    rw [Tables.retainedIdentities, hReplay, hTokens]
    exact Nat.pos_of_ne_zero hBounds.1.1.1.1.1.1.1.1.2
  have hTombstones : s.client.tables.sourceIdentities < env.config.maximumSourceTombstones := by
    rw [Tables.sourceIdentities, hSources, hClosed]
    exact (Nat.pos_of_ne_zero hBounds.1.1.1.1.1.1.1.2).trans_le hBounds.1.1.1.1.1.1.2
  have hAdmits := hAdequate.dispatchVerdict hIdentities
  refine ⟨hAdequate, hAdmits, hAdequate.sourceOpenVerdict hTombstones, ?_⟩
  -- only a rejection that cannot be retained signals a failure
  intro reason c' hHandled
  obtain hRetire | hRetire | ⟨error, hKind, hReject, hFailed⟩ :=
    handleWorkResponse_signal hJob hHandled
  · exact absurd hRetire hAdmits.1
  · exact absurd hRetire (hAdequate.sourceOpenVerdict hTombstones).1
  · exact ⟨error, hKind, hReject, hAdequate.rejectSource hTombstones hFailed⟩

section Runs

open Deployment

/-- The requests of the deployment, laid out with tags of one byte. -/
def Deployment.layout : RequestLayout where
  header := {}
  headerTag := 1
  bodyTag _ := 1
  contextTag _ := 1
  deadlineTag := 1
  nanosTag := 1
  ttlTag := 1
  deadlineTag_le := by decide
  nanosTag_le := by decide
  contextRest context :=
    textField 1 context.workId.length + textField 1 context.capabilityId.length +
      textField 1 context.endpointId.length + integerField 1 context.contractVersion +
      textField 1 context.contractDigest.length + integerField 1 context.specRevision +
      textField 1 context.idempotencyKey.length + textField 1 context.requestDigest.length +
      context.subject.elim 0 fun subject =>
        messageField 1 (textField 1 subject.kind.length + textField 1 subject.key.length)
  contextRest_deadline _ _ := rfl
  inputField payload := messageField 1 (textField 1 payload.value.length)
  creditField credit :=
    credit.elim 0 fun credit =>
      messageField 1 (integerField 1 credit.messages + integerField 1 credit.bytes)
  deadlineSet context := context.deadline ≠ {}
  deadlineSet_of_ne := fun _ hNe => decide_eq_true hNe

/-- The deployment with these sizes and the smallest budgets for its frame limit. -/
def Deployment.tight : Env :=
  { deployment with
    config := { deployment.config with
      maximumDispatchQueueBytes := 4096
      maximumTerminalReplayBytes := 4096 + 142
      maximumSourceStateBytes := 2 * 4096 + 142 }
    protobuf := { Deployment.wire with
      unaryRequestBytes := fun request => layout.requestBytes .unary request.context
        (layout.ownDeadline request.context) (layout.inputField request.input)
      operationRequestBytes := fun request => layout.requestBytes .operation request.context
        (layout.ownDeadline request.context) (layout.inputField request.input)
      sourceOpenRequestBytes := fun request => layout.requestBytes .sourceOpen request.context
        (layout.ownDeadline request.context) (layout.creditField request.initialCredit)
      workResponseBytes := fun response =>
        match response.frame with
        | .unaryRequest request => layout.frameBytes .unary response.header request.context
            (layout.inputField request.input)
        | .operationRequest request => layout.frameBytes .operation response.header
            request.context (layout.inputField request.input)
        | .sourceOpenRequest request => layout.frameBytes .sourceOpen response.header
            request.context (layout.creditField request.initialCredit)
        | _ => 256 } }

/-- A source open with a time to live and no instant: its deadline is rewritten. -/
def Deployment.hurriedOpen : SourceOpenRequest where
  context := { context "f" "feed" 1 with deadline := { ttlMs := 5 } }
  initialCredit := some ⟨4, 64⟩

theorem Store.eq_empty_of_entries {κ α : Type} {table : Store κ α}
    (h : table.entries.isEmpty = true) : table = ∅ := AList.ext (List.isEmpty_iff.mp h)

/-- The Work reader handles this frame. -/
def WorkReaderPc.handles (response : WorkResponse) : WorkReaderPc → Bool
  | .handling _ response' => response' == response
  | _ => false

/-- The rewritten request is larger than the one the Host has sent, and fits. -/
theorem budgets_adequate_hurried :
    ∃ s job, (machine tight).Reachable s ∧
      layout.requestBytes .sourceOpen hurriedOpen.context
        (layout.sentDeadline hurriedOpen.context)
        (layout.creditField hurriedOpen.initialCredit) < job.accountedBytes ∧
      s.client.Adequate tight job := by
  obtain ⟨s, hReach, hRun⟩ := (machine tight).exists_reaches_of_runWith (fun _ _ => True)
    (bringUp ++ receiveWork 1 1 (.sourceOpenRequest hurriedOpen))
    (fun s => s.client.queues.dispatch.isEmpty && s.client.tables.replay.entries.isEmpty &&
      s.client.tables.workTokens.entries.isEmpty &&
      s.client.tables.sourceStreams.entries.isEmpty &&
      s.client.tables.closedSources.entries.isEmpty &&
      s.workReader.handles ⟨hostHeader 1 1, .sourceOpenRequest hurriedOpen⟩) (by decide +kernel)
  simp only [Bool.and_eq_true] at hRun
  obtain ⟨⟨⟨⟨⟨hDispatch, hReplay⟩, hTokens⟩, hSources⟩, hClosed⟩, hReader⟩ := hRun
  cases hPc : s.workReader with
  | handling fence response =>
    rw [hPc, WorkReaderPc.handles, beq_iff_eq] at hReader
    subst hReader
    have hSizes : tight.protobuf.StandardRequests :=
      ⟨layout, fun _ => rfl, fun _ => rfl, fun _ => rfl, fun _ _ => rfl, fun _ _ => rfl,
        fun _ _ => rfl⟩
    have hJob : WorkResponse.job? tight (10 ^ 18) ⟨hostHeader 1 1, .sourceOpenRequest hurriedOpen⟩ =
        some (sourceOpenJob tight (10 ^ 18) hurriedOpen 1) := rfl
    refine ⟨s, sourceOpenJob tight (10 ^ 18) hurriedOpen 1, hReach, by decide +kernel, ?_⟩
    exact (budgets_adequate hSizes hReach hPc hJob (by decide +kernel)
      (List.isEmpty_iff.mp hDispatch) (Store.eq_empty_of_entries hReplay)
      (Store.eq_empty_of_entries hTokens) (Store.eq_empty_of_entries hSources)
      (Store.eq_empty_of_entries hClosed)).1
  | notStarted | opening | reading | blocked | validating | followUp | signalSession | terminal
  | closing | finished | lastTerminal | lastSignal | exited =>
    rw [hPc] at hReader
    cases hReader

end Runs

end AdapterRuntime.Model
