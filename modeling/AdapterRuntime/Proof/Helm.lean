import AdapterRuntime.Proof.Reader

/-!
# AdapterRuntime — what the Work plane leaves to the Control plane

The counterpart of `Client.core`: `Client.helm` collects what the spec
transaction, the attach gate and the lifecycle callbacks depend on. No step of
a worker, of the Work reader or of the application's source calls touches it;
they only log notifications of closed sources and queue drain reports.
-/

namespace AdapterRuntime.Model

open AdapterRuntime.Lib

/-- The events no property of the Control plane speaks of. -/
def LifecycleEvent.incidental : LifecycleEvent → Bool
  | .sourceClosedCalled _ _ | .controlOpened _ | .workOpened _ | .registerSent
  | .stopRequestedCalled => true
  | _ => false

/-- The spec result a Control frame carries. -/
def ControlFrame.specResult? : ControlFrame → Option ApplyInstanceSpecResult
  | .applyInstanceSpecResult result => some result
  | _ => none

/-- The part of a client the Control-plane invariants depend on: the spec, the
log without the incidental events, the spec results in the Control queue, the
drain request and whether the pair became ready. -/
structure Helm where
  spec : SpecState
  events : List LifecycleEvent
  results : List ApplyInstanceSpecResult
  draining : Bool
  pairReady : Bool

/-- The part of a client the Control-plane invariants depend on. -/
def Client.helm (c : Client) : Helm where
  spec := c.spec
  events := c.trace.filter fun e => !e.incidental
  results := c.queues.control.filterMap fun f => f.request.specResult?
  draining := c.flags.drainRequested
  pairReady := c.flags.pairReady

-- ---------------------------------------------------------------------------
-- Sections
-- ---------------------------------------------------------------------------

namespace Client

variable {env : Env} {c c' : Client}

theorem helm_of_surround (h : c'.surround = c.surround) : c'.helm = c.helm := by
  have hSpec : c'.spec = c.spec := congrArg Surround.spec h
  have hTrace : c'.trace = c.trace := congrArg Surround.trace h
  have hControl : c'.queues.control = c.queues.control := congrArg Surround.control h
  have hFlags : c'.flags = c.flags := congrArg Surround.flags h
  simp only [helm, hSpec, hTrace, hControl, hFlags]

@[simp] theorem helm_cancelAllWork : c.cancelAllWork.helm = c.helm := rfl

@[simp] theorem helm_enterHandler : c.enterHandler.helm = c.helm := rfl

@[simp] theorem helm_leaveHandler : c.leaveHandler.helm = c.helm := rfl

@[simp] theorem helm_leaveJob : c.leaveJob.helm = c.helm := rfl

@[simp] theorem helm_releaseWorkToken (workId : Text) :
    (c.releaseWorkToken workId).helm = c.helm := rfl

@[simp] theorem helm_requestStop : c.requestStop.helm = c.helm := rfl

@[simp] theorem helm_notifySourceClosed (source : SourceState) (error : AdapterError) :
    (c.notifySourceClosed env source error).helm = c.helm := by
  unfold notifySourceClosed
  split <;> rfl

@[simp] theorem helm_signalSessionFailure (session reason : Text) :
    (c.signalSessionFailure session reason).helm = c.helm := by
  unfold signalSessionFailure
  split <;> rfl

@[simp] theorem helm_signalTerminalSessionFailure (session reason : Text) :
    (c.signalTerminalSessionFailure session reason).helm = c.helm := by
  unfold signalTerminalSessionFailure
  split <;> rfl

/-- Queueing a Control frame adds the spec result it carries, if it is queued. -/
theorem helm_queueControlLocked {frame : ControlFrame} {ok : Bool}
    (h : c.queueControlLocked env frame = (ok, c')) :
    c'.helm = { c.helm with
      results := c.helm.results ++ (if ok then frame.specResult?.toList else []) } := by
  unfold queueControlLocked at h
  simp only at h
  split at h
  · cases h
    split <;> simp [helm, countDropped]
  · cases h
    cases hResult : frame.specResult? <;> simp [helm, hResult]

@[simp] theorem helm_maybeQueueDrainStatus : (c.maybeQueueDrainStatus env).helm = c.helm := by
  unfold maybeQueueDrainStatus
  split
  · rfl
  · split <;> rename_i hQueue
    · exact (helm_queueControlLocked hQueue).trans (by simp [ControlFrame.specResult?])
    · exact (helm_queueControlLocked hQueue).trans (by simp)

theorem helm_beginDrain (c : Client) (env : Env) :
    (c.beginDrain env).helm = { c.helm with draining := true } := by
  unfold beginDrain
  rw [helm_maybeQueueDrainStatus]
  rfl

end Client

-- ---------------------------------------------------------------------------
-- Workers
-- ---------------------------------------------------------------------------

section Steps

variable {env : Env} {c c' : Client}

/-- The points at which a worker touches the flags: it signals a failure of the pair, or its
section looks for the end of a drain, which fails the pair when the Control queue is full. -/
def WorkerPc.touchesFlags : WorkerPc → Bool
  | .signalSession _ _ _ _ | .eraseToken _ _ | .finish _ _ | .sourceFinish _ _ => true
  | _ => false

/-- The points at which the Work reader touches the flags: it signals a failure of the pair. -/
def WorkReaderPc.touchesFlags : WorkReaderPc → Bool
  | .opening _ | .signalSession _ _ _ | .terminal _ _ | .lastTerminal _ | .lastSignal _ _ => true
  | _ => false

/-- The step leaves the Control plane alone, and the flags where `touches` does not hold. -/
structure Client.Aside (c c' : Client) (touches : Bool) : Prop where
  helm : c'.helm = c.helm
  flags : touches = false → c'.flags = c.flags

theorem Client.Aside.of_surround {touches : Bool} (h : c'.surround = c.surround) :
    c.Aside c' touches :=
  ⟨helm_of_surround h, fun _ => congrArg Surround.flags h⟩

theorem surround_commitTerminalFrame {job : DispatchJob} {frame : WorkFrame}
    {result : TerminalCommitResult} (h : c.commitTerminalFrame env job frame = (result, c')) :
    c'.surround = c.surround := by
  obtain ⟨-, -, entry, -, -, rfl⟩ | ⟨-, hRefused⟩ := Client.commitTerminalFrame_cases h
  · rfl
  · exact hRefused.surround

theorem surround_queueWorkLocked {owner : Option CancellationId} {frame : WorkFrame} {ok : Bool}
    (h : c.queueWorkLocked env owner frame = (ok, c')) : c'.surround = c.surround := by
  obtain ⟨-, -, rfl⟩ | ⟨-, -, hRefused⟩ := Client.queueWorkLocked_cases h
  · rfl
  · exact hRefused.surround

theorem surround_commitSourceOpen {job : DispatchJob} {decision : SourceOpenDecision}
    {r : SourceCommit} (h : commitSourceOpen env c job decision = (r, c')) :
    c'.surround = c.surround := by
  obtain ⟨-, rfl, -⟩ | ⟨source, -, -, -, -, hCases⟩ := commitSourceOpen_cases h
  · rfl
  · obtain ⟨-, hRefused⟩ | ⟨-, -, rfl⟩ | ⟨-, -, digest, rfl⟩ := hCases
    · exact hRefused.surround
    · rfl
    · rfl

/-- A step of a worker leaves the Control plane alone. -/
theorem aside_workerStep {pc pc' : WorkerPc} {input : WorkerInput}
    (h : workerStep env c pc input = some (pc', c')) : c.Aside c' pc.touchesFlags := by
  -- most points change neither the helm nor the flags
  have hSame : ∀ {c₁ : Client}, c₁.helm = c.helm → c₁.flags = c.flags →
      c.Aside c₁ pc.touchesFlags := fun hHelm hFlags => ⟨hHelm, fun _ => hFlags⟩
  cases workerStep_branch h with
  | exit | pop | skipSource | enterSource | cancelled | uncancelled | invalid | valid
  | refuseInput | toOperation | normalizeUnary | normalizeOperation | unheard | signal | leave
  | loseSource | findSource | cancelSource | normalizeSource => exact hSame rfl rfl
  -- STARTED and the return of a handler are records of the history
  | startUnary | startSource => exact .of_surround (Client.surround_recordStarted _)
  | returnUnary | returnOperation | returnSource =>
    exact .of_surround (Client.surround_recordReturned _ _)
  -- queue and history are not part of the helm
  | accepted hQueue | unaccepted hQueue | unstarted hQueue =>
    exact .of_surround (surround_queueWorkLocked hQueue)
  | started hQueue =>
    exact .of_surround
      ((Client.surround_recordStarted _).trans (surround_queueWorkLocked hQueue))
  | commit _ hCommit | tooLarge hCommit | uncommitted _ hCommit =>
    exact .of_surround (surround_commitTerminalFrame hCommit)
  | settleSource hCommit | failSource hCommit | declineSource hCommit =>
    exact .of_surround (surround_commitSourceOpen hCommit)
  | notifySource =>
    refine hSame (by simp) ?_
    unfold Client.notifySourceClosed
    split <;> rfl
  -- the points that touch flags keep the helm
  | signalSession | eraseToken | finish => exact ⟨by simp, fun hNot => by cases hNot⟩
  | @finishSource _ _ dispatched =>
    exact ⟨by cases dispatched <;> simp, fun hNot => by cases hNot⟩

theorem helm_workerStep {pc pc' : WorkerPc} {input : WorkerInput}
    (h : workerStep env c pc input = some (pc', c')) : c'.helm = c.helm :=
  (aside_workerStep h).helm

-- ---------------------------------------------------------------------------
-- Work reader and the application
-- ---------------------------------------------------------------------------

theorem surround_enqueueDispatch {now : Int} {job : DispatchJob} {todo : FollowUp}
    (h : enqueueDispatch env c now job = (todo, c')) : c'.surround = c.surround := by
  obtain ⟨reservation, -, -, rfl⟩ | ⟨-, hRest, -⟩ := enqueueDispatch_cases h
  · rfl
  · exact hRest

theorem surround_enqueueSourceOpen {now : Int} {job : DispatchJob} {todo : FollowUp}
    (h : enqueueSourceOpen env c now job = (todo, c')) : c'.surround = c.surround := by
  obtain ⟨index, endpoint, bytes, -, -, rfl⟩ | ⟨error, -, hReject⟩ | ⟨-, hRest, -⟩ :=
    enqueueSourceOpen_cases h
  · rfl
  · obtain ⟨-, bytes, digest, rfl, -⟩ | ⟨-, hRest, -⟩ := rejectSource_cases hReject
    · rfl
    · exact hRest
  · exact hRest

theorem surround_grantSourceCredit {credit : SourceCredit} {sequence : Nat} {todo : FollowUp}
    (h : grantSourceCredit c credit sequence = (todo, c')) : c'.surround = c.surround := by
  obtain ⟨-, grant, source, -, -, -, -, -, -, -, -, rfl⟩ | ⟨-, closed, -, -, rfl⟩ | ⟨-, rfl⟩ :=
    grantSourceCredit_cases h <;> rfl

theorem surround_handleTerminalAcknowledgement {acknowledgement : TerminalAcknowledgement}
    {sequence : Nat} {todo : FollowUp}
    (h : handleTerminalAcknowledgement c acknowledgement sequence = (todo, c')) :
    c'.surround = c.surround := by
  obtain ⟨-, workId, entry, -, -, -, -, -, -, rfl⟩ | ⟨-, streamId, closed, bytes, -, -, -, rfl, -⟩ |
    ⟨-, rfl⟩ := handleTerminalAcknowledgement_cases h <;> rfl

/-- A cancellation raises flags of jobs, and closes a source. -/
theorem aside_handleCancellation {cancellation : WorkCancellation} {sequence : Nat}
    {todo : FollowUp} {touches : Bool}
    (h : handleCancellation env c cancellation sequence = (todo, c')) : c.Aside c' touches := by
  obtain ⟨source, streamId, -, -, -, hCases⟩ | ⟨-, workId, token, -, -, rfl⟩ | ⟨-, rfl⟩ :=
    handleCancellation_cases h
  · obtain ⟨-, -, rfl⟩ | ⟨-, -, hRefused⟩ | ⟨-, -, digest, rfl⟩ := hCases
    · exact ⟨rfl, fun _ => rfl⟩
    · exact ⟨(Client.helm_of_surround hRefused.surround).trans rfl,
        fun _ => congrArg Surround.flags hRefused.surround⟩
    · exact ⟨rfl, fun _ => rfl⟩
  · exact ⟨rfl, fun _ => rfl⟩
  · exact ⟨rfl, fun _ => rfl⟩

/-- Handling a Work frame steps aside. -/
theorem aside_handleWorkResponse {now : Int} {response : WorkResponse} {r : FollowUp ⊕ Text}
    {touches : Bool} (h : handleWorkResponse env c now response = (r, c')) :
    c.Aside c' touches := by
  unfold handleWorkResponse at h
  simp only at h
  split at h <;> cases h
  · exact .of_surround (surround_enqueueDispatch rfl)
  · exact .of_surround (surround_enqueueDispatch rfl)
  · exact .of_surround (surround_enqueueSourceOpen rfl)
  · exact .of_surround (surround_grantSourceCredit rfl)
  · exact aside_handleCancellation rfl
  · exact .of_surround (surround_handleTerminalAcknowledgement rfl)
  · exact ⟨rfl, fun _ => rfl⟩
  · exact ⟨rfl, fun _ => rfl⟩

theorem aside_followUpStep {fence : SessionFence} {todo : FollowUp} {pc' : WorkReaderPc}
    {touches : Bool} (h : followUpStep env c fence todo = (pc', c')) : c.Aside c' touches := by
  cases followUpStep_branch h with
  | done | unheard | signal => exact ⟨rfl, fun _ => rfl⟩
  | reported hQueue | unreported hQueue | replayed hQueue | unreplayed hQueue =>
    exact .of_surround (surround_queueWorkLocked hQueue)
  | answered hCommit | unanswered hCommit =>
    exact .of_surround (surround_commitTerminalFrame hCommit)
  | notify =>
    refine ⟨by simp, fun _ => ?_⟩
    unfold Client.notifySourceClosed
    split <;> rfl

/-- A step of the Work reader leaves the Control plane alone. -/
theorem aside_workReaderStep {pc pc' : WorkReaderPc} {input : ReaderInput WorkResponse}
    (h : workReaderStep env c pc input = some (pc', c')) : c.Aside c' pc.touchesFlags := by
  cases workReaderStep_branch h with
  | opened | stopping | awaitFrame | oversize | received | readFailed | badHeader | goodHeader
  | closed | ended | rejected | lost => exact ⟨rfl, fun _ => rfl⟩
  | handle hHandle | hostError hHandle => exact aside_handleWorkResponse hHandle
  | followUp hFollow => exact aside_followUpStep hFollow
  -- the signals
  | unopened | signalSession | terminal | lastTerminal | lastSignal =>
    exact ⟨by simp, fun hNot => by cases hNot⟩

theorem helm_workReaderStep {pc pc' : WorkReaderPc} {input : ReaderInput WorkResponse}
    (h : workReaderStep env c pc input = some (pc', c')) : c'.helm = c.helm :=
  (aside_workReaderStep h).helm

theorem surround_publishSource {streamId : Text} {items : List Text} :
    (publishSource env c streamId items).2.surround = c.surround := by
  obtain ⟨-, source, -, hEq⟩ | ⟨-, hRefused⟩ :=
    publishSource_cases (Prod.eta (publishSource env c streamId items)).symm
  · rw [hEq]
    rfl
  · exact hRefused.surround

theorem surround_closeSource {streamId : Text} {error : Option AdapterError} :
    (closeSource env c streamId error).2.surround = c.surround := by
  obtain ⟨-, source, digest, -, -, -, hEq⟩ | ⟨-, hRefused⟩ :=
    closeSource_cases (Prod.eta (closeSource env c streamId error)).symm
  · rw [hEq]
    rfl
  · exact hRefused.surround

end Steps

end AdapterRuntime.Model
