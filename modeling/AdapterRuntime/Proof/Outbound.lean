import AdapterRuntime.Proof.Shape

/-!
# AdapterRuntime — what leaves the client

`Wire` is the part of the client the two outbound streams are made of: the
session with its counters, the two queues, and the ghost logs of what was
queued and what was written. A section that is not one of the writers, of the
header checks or of the supervisor changes it in at most one way, by one frame
that the queue admits.

* `Client.Feed` — the sections that feed the queues.
* `wireMove_of_step` — everything a step can do to the streams.
-/

namespace AdapterRuntime.Model

open AdapterRuntime.Lib

variable {env : Env} {c c' : Client} {s s' : System}

-- ---------------------------------------------------------------------------
-- The outbound part of a client
-- ---------------------------------------------------------------------------

/-- The frame of an event that queues one. -/
def WorkEvent.queued? : WorkEvent → Option WorkFrame
  | .enqueued _ frame => some frame
  | _ => none

/-- The event is a frame written on one of the streams. -/
def LifecycleEvent.written : LifecycleEvent → Bool
  | .controlWritten _ _ _ | .workWritten _ _ _ => true
  | _ => false

/-- The session, the outbound queues, and what was queued and written so far. -/
structure Wire where
  session : Session
  work : List QueuedWorkFrame
  workBytes : Nat
  control : List QueuedControlFrame
  controlBytes : Nat
  queued : List WorkFrame
  written : List LifecycleEvent

/-- What the writers read and write of a client. -/
def Client.wire (c : Client) : Wire where
  session := c.session
  work := c.queues.work
  workBytes := c.queues.workBytes
  control := c.queues.control
  controlBytes := c.queues.controlBytes
  queued := c.history.filterMap WorkEvent.queued?
  written := c.trace.filter LifecycleEvent.written

/-- `QueueControlLocked` admits the frame. -/
def Client.controlAdmits (env : Env) (c : Client) (frame : ControlFrame) : Bool :=
  !c.sessionClosed && !c.controlQueueFull env (c.controlFrameBytes env frame) &&
    c.controlFrameBytes env frame ≤ c.session.maximumControlFrameBytes

/-- At most one frame enters a queue, measured as the preflight does. -/
inductive Client.Feed (env : Env) (c c' : Client) : Prop
  | nothing (hWire : c'.wire = c.wire)
  | work (frame : WorkFrame) (hAdmits : c.workAdmits env frame = true)
      (hWire : c'.wire = { c.wire with
        work := c.queues.work ++ [⟨frame, c.workFrameBytes env frame⟩]
        workBytes := c.queues.workBytes + c.workFrameBytes env frame
        queued := frame :: c.wire.queued })
  | control (frame : ControlFrame) (hAdmits : c.controlAdmits env frame = true)
      (hWire : c'.wire = { c.wire with
        control := c.queues.control ++ [⟨frame, c.controlFrameBytes env frame⟩]
        controlBytes := c.queues.controlBytes + c.controlFrameBytes env frame })

namespace Client.Feed

/-- The queues as they are. -/
protected theorem refl (c : Client) : c.Feed env c := .nothing rfl

theorem of_refused (h : Client.Refused c c') : c.Feed env c' := by
  obtain rfl | rfl := h <;> exact .nothing rfl

/-- What happens around the frame does not touch the streams. -/
theorem around {c₁ c₂ : Client} (h : c₁.Feed env c₂) (hBefore : c₁.wire = c.wire)
    (hClosed : c₁.sessionClosed = c.sessionClosed) (hAfter : c'.wire = c₂.wire) :
    c.Feed env c' := by
  have hSession : c₁.session = c.session := congrArg Wire.session hBefore
  have hWork : c₁.queues.work = c.queues.work := congrArg Wire.work hBefore
  have hWorkBytes : c₁.queues.workBytes = c.queues.workBytes := congrArg Wire.workBytes hBefore
  have hControl : c₁.queues.control = c.queues.control := congrArg Wire.control hBefore
  have hControlBytes : c₁.queues.controlBytes = c.queues.controlBytes :=
    congrArg Wire.controlBytes hBefore
  cases h with
  | nothing hWire => exact .nothing (hAfter.trans (hWire.trans hBefore))
  | work frame hAdmits hWire =>
    have hBytes : c₁.workFrameBytes env frame = c.workFrameBytes env frame := by
      simp only [Client.workFrameBytes, Client.memberFence, hSession]
    refine .work frame ?_ (hAfter.trans (hWire.trans ?_))
    · simp only [Client.workAdmits, Client.workQueueFull, hBytes, hSession, hClosed, hWork,
        hWorkBytes] at hAdmits ⊢
      exact hAdmits
    · rw [hBefore, hWork, hWorkBytes, hBytes]
  | control frame hAdmits hWire =>
    have hBytes : c₁.controlFrameBytes env frame = c.controlFrameBytes env frame := by
      simp only [Client.controlFrameBytes, Client.memberFence, hSession]
    refine .control frame ?_ (hAfter.trans (hWire.trans ?_))
    · simp only [Client.controlAdmits, Client.controlQueueFull, hBytes, hSession, hClosed,
        hControl, hControlBytes] at hAdmits ⊢
      exact hAdmits
    · rw [hBefore, hControl, hControlBytes, hBytes]

/-- A section that ends with untouched streams. -/
theorem after {c₂ : Client} (h : c.Feed env c₂) (hAfter : c'.wire = c₂.wire) : c.Feed env c' :=
  h.around rfl rfl hAfter

/-- A frame that is admitted is fed to the Work queue. -/
theorem queued {owner : Option CancellationId} {frame : WorkFrame}
    (hAdmits : c.workAdmits env frame = true) : c.Feed env (c.queued env owner frame) :=
  .work frame hAdmits rfl

/-- `QueueWorkLocked` feeds the queue or refuses. -/
theorem queueWorkLocked {owner : Option CancellationId} {frame : WorkFrame} {ok : Bool}
    (h : c.queueWorkLocked env owner frame = (ok, c')) : c.Feed env c' := by
  obtain ⟨-, hAdmits, rfl⟩ | ⟨-, -, hRefused⟩ := Client.queueWorkLocked_cases h
  · exact .queued hAdmits
  · exact .of_refused hRefused

/-- `CommitTerminalFrame` feeds the terminal when it retains it. -/
theorem commitTerminalFrame {job : DispatchJob} {frame : WorkFrame}
    {result : TerminalCommitResult} (h : c.commitTerminalFrame env job frame = (result, c')) :
    c.Feed env c' := by
  obtain ⟨-, hAdmits, entry, -, -, rfl⟩ | ⟨-, hRefused⟩ := Client.commitTerminalFrame_cases h
  · exact .work frame hAdmits rfl
  · exact .of_refused hRefused

/-- `CommitSourceTerminal` feeds the terminal of a source. -/
theorem commitSourceTerminal {streamId : Text} {source : SourceState} {frame : WorkFrame}
    {ok : Bool} (h : commitSourceTerminal env c streamId source frame = (ok, c')) :
    c.Feed env c' := by
  obtain ⟨-, -, hAdmits, digest, -, rfl⟩ | ⟨-, hRefused⟩ := Client.commitSourceTerminal_cases h
  · exact .work frame hAdmits rfl
  · exact .of_refused hRefused

/-- `CloseSource` feeds it. -/
theorem closeSource (streamId : Text) (error : Option AdapterError) :
    c.Feed env (closeSource env c streamId error).2 := by
  unfold Model.closeSource
  simp only
  split
  · split <;> exact .nothing rfl
  · split
    · split <;> exact .nothing rfl
    · split <;> rename_i hCommit
      · exact commitSourceTerminal hCommit
      · exact (commitSourceTerminal hCommit).after rfl

/-- `PublishSource` feeds a chunk. -/
theorem publishSource (streamId : Text) (items : List Text) :
    c.Feed env (publishSource env c streamId items).2 := by
  cases h : Model.publishSource env c streamId items with
  | mk result c' =>
    obtain ⟨-, source, hPublishes, rfl⟩ | ⟨-, hRefused⟩ := publishSource_cases h
    · exact (queued hPublishes.admits).after rfl
    · exact .of_refused hRefused

/-- A cancellation feeds the terminal of the source it closes. -/
theorem handleCancellation (cancellation : WorkCancellation) (sequence : Nat) :
    c.Feed env (handleCancellation env c cancellation sequence).2 := by
  unfold Model.handleCancellation
  simp only
  split
  · exact .nothing rfl
  · split
    · exact .nothing rfl
    · split <;> exact .nothing rfl
  · split
    · exact .nothing rfl
    · split
      · split
        · exact .nothing rfl
        · split <;> exact .nothing rfl
      · split
        · exact .nothing rfl
        · split
          · exact .nothing rfl
          · split
            · exact .nothing rfl
            · split <;> rename_i hCommit
              · exact (commitSourceTerminal hCommit).around rfl rfl rfl
              · exact (commitSourceTerminal hCommit).around rfl rfl rfl

/-- A rejection feeds its result. -/
theorem rejectSource (job : DispatchJob) (error : AdapterError) :
    c.Feed env (c.rejectSource env job error).2 := by
  unfold Client.rejectSource
  split
  · exact .nothing rfl
  · split
    · exact .nothing rfl
    · simp only
      split <;> rename_i hCommit
      · exact (commitSourceTerminal hCommit).around rfl rfl rfl
      · exact (commitSourceTerminal hCommit).around rfl rfl rfl

/-- `EnqueueSourceOpen` feeds a rejection at most. -/
theorem enqueueSourceOpen (now : Int) (job : DispatchJob) :
    c.Feed env (enqueueSourceOpen env c now job).2 := by
  unfold Model.enqueueSourceOpen
  split
  · exact .nothing rfl
  · exact .nothing rfl
  · rename_i error _
    have hFeed : c.countRejected.Feed env (c.countRejected.rejectSource env job error).2 :=
      rejectSource job error
    exact hFeed.around rfl rfl rfl
  · exact .nothing rfl
  · exact .nothing rfl

/-- `CommitSourceOpen` feeds the result of the open. -/
theorem commitSourceOpen (job : DispatchJob) (decision : SourceOpenDecision) :
    c.Feed env (commitSourceOpen env c job decision).2 := by
  unfold Model.commitSourceOpen
  split
  · exact .nothing rfl
  · split
    · exact .nothing rfl
    · split
      · exact .nothing rfl
      · split
        · exact .nothing rfl
        · simp only
          split
          · split
            · exact .nothing rfl
            · split <;> rename_i hQueue
              · exact queueWorkLocked hQueue
              · exact (queueWorkLocked hQueue).after rfl
          · split <;> rename_i hCommit
            · exact commitSourceTerminal hCommit
            · exact (commitSourceTerminal hCommit).after rfl

theorem queueControlLocked (frame : ControlFrame) :
    c.Feed env (c.queueControlLocked env frame).2 := by
  unfold Client.queueControlLocked
  simp only
  split
  · split <;> exact .nothing rfl
  · rename_i hAdmits
    simp only [Bool.or_eq_true, decide_eq_true_eq, not_or, Bool.not_eq_true, not_lt] at hAdmits
    refine .control frame ?_ rfl
    simp [Client.controlAdmits, hAdmits]

theorem maybeQueueDrainStatus (c : Client) : c.Feed env (c.maybeQueueDrainStatus env) := by
  have hFeed : c.Feed env (c.queueControlLocked env (.drainStatus true 0)).2 :=
    queueControlLocked _
  unfold Client.maybeQueueDrainStatus
  split
  · exact .nothing rfl
  · split <;> rename_i hEq <;> rw [hEq] at hFeed
    · exact hFeed.after rfl
    · exact hFeed.after rfl

end Client.Feed

-- ---------------------------------------------------------------------------
-- Sections that leave the streams alone
-- ---------------------------------------------------------------------------

namespace Client

variable (c)

/-- A callback or an attach is no frame. -/
theorem wire_log {event : LifecycleEvent} (h : event.written = false) :
    (c.log event).wire = c.wire := by
  simp [wire, log, h]

@[simp] theorem wire_callStop (binding : Nat) : (c.callStop env binding).wire = c.wire := by
  unfold callStop
  split <;> rfl

@[simp] theorem wire_callClear : (c.callClear env).wire = c.wire := by
  unfold callClear
  split <;> rfl

@[simp] theorem wire_notifySourceClosed (source : SourceState) (error : AdapterError) :
    (c.notifySourceClosed env source error).wire = c.wire := by
  unfold notifySourceClosed
  split <;> rfl

@[simp] theorem wire_signalSessionFailure (session reason : Text) :
    (c.signalSessionFailure session reason).wire = c.wire := by
  unfold signalSessionFailure
  split <;> rfl

@[simp] theorem wire_signalTerminalSessionFailure (session reason : Text) :
    (c.signalTerminalSessionFailure session reason).wire = c.wire := by
  unfold signalTerminalSessionFailure
  split <;> rfl

@[simp] theorem wire_recordStarted (job : DispatchJob) :
    (c.recordStarted job).wire = c.wire := by
  unfold recordStarted
  split <;> rfl

@[simp] theorem wire_recordReturned (result : HandlerResult) (job : DispatchJob) :
    (c.recordReturned result job).wire = c.wire := by
  unfold recordReturned
  split <;> rfl

@[simp] theorem wire_finishApply (session : Text) (statuses : List CapabilityStatus) :
    (finishApply c session statuses).wire = c.wire := by
  unfold finishApply
  split <;> rfl

@[simp] theorem wire_openAttachGate (fence : SessionFence) :
    (c.openAttachGate fence).wire = c.wire := by
  unfold openAttachGate
  split <;> rfl

@[simp] theorem wire_markReady (fence : SessionFence) : (c.markReady fence).wire = c.wire := by
  unfold markReady
  split <;> rfl

end Client

theorem wire_deactivateStep {reason : Text} {at_ : DeactivatePc} {next : Option DeactivatePc}
    (h : deactivateStep env reason c at_ = some (next, c')) : c'.wire = c.wire := by
  cases deactivateStep_move h with
  | begin | waited | stopped | finish => rfl
  | stop => exact c.wire_callStop _
  | clear =>
    split
    · exact c.wire_callClear
    · rfl
  | notify => exact c.wire_notifySourceClosed _ _

theorem wire_beginApply {session : Text} {spec : AdapterInstanceSpec}
    (h : beginApply env c session spec = .inr c') : c'.wire = c.wire := by
  unfold beginApply at h
  split at h
  · cases h
  · split at h
    · split at h <;> cases h
    · split at h
      · cases h
      · split at h <;> cases h
        rfl

theorem wire_commitSpec {session : Text} {spec : AdapterInstanceSpec} {bindings : List Nat}
    {statuses : List CapabilityStatus} (h : commitSpec c session spec bindings statuses = some c') :
    c'.wire = c.wire := by
  unfold commitSpec at h
  split at h <;> cases h
  rfl

/-- A transaction writes and queues nothing until it is over. -/
theorem wire_applyMove {session : Text} {at_ : ApplyPc} {next : ApplyNext}
    (h : ApplyMove env session c at_ next c') : c'.wire = c.wire := by
  cases h with
  | begin hBegin => exact wire_beginApply hBegin
  | deactivate hStep | deactivated hStep | readyDeactivate hStep | readyDeactivated hStep =>
    exact wire_deactivateStep hStep
  | unwindStop | staleStop => exact c.wire_callStop _
  | unwound =>
    split
    · exact c.wire_callClear
    · rfl
  | applyFailed => exact Client.wire_callClear _
  | commit hCommit => exact (Client.wire_log _ rfl).trans (wire_commitSpec hCommit)
  | staleUnwound => exact c.wire_callClear
  | finish => exact c.wire_finishApply _ _
  | answer | waited | lock | current | stale | proceed | skipApply | applied | skipStart | started
  | startFailed | startedAll | failed | outdated | skipReady | readied | readyFailed | readiedAll
  | readyFailure => rfl

-- ---------------------------------------------------------------------------
-- Threads
-- ---------------------------------------------------------------------------

/-- A worker queues at most one frame a step. -/
theorem feed_workerStep {pc pc' : WorkerPc} {input : WorkerInput}
    (h : workerStep env c pc input = some (pc', c')) : c.Feed env c' := by
  cases workerStep_branch h with
  | exit | skipSource | cancelled | uncancelled | refuseInput | toOperation | normalizeUnary
  | normalizeOperation | unheard | signal | loseSource | findSource | cancelSource
  | normalizeSource => exact .refl _
  -- the token dies before the job is taken, or the job is taken
  | pop | enterSource | invalid | valid | leave => exact .nothing rfl
  -- the start and the return of a handler are recorded, not sent
  | startUnary | startSource => exact .nothing (c.wire_recordStarted _)
  | returnUnary | returnOperation | returnSource => exact .nothing (c.wire_recordReturned _ _)
  -- an accepted frame is queued, a refused one changes nothing
  | accepted hQueue | unaccepted hQueue | unstarted hQueue => exact .queueWorkLocked hQueue
  | @started _ job _ c₁ hQueue =>
    exact (Client.Feed.queueWorkLocked hQueue).after (c₁.wire_recordStarted job)
  | commit _ hCommit | tooLarge hCommit | uncommitted _ hCommit =>
    exact .commitTerminalFrame hCommit
  | signalSession => exact .nothing (c.wire_signalSessionFailure _ _)
  -- a drain report can follow the released token
  | @eraseToken _ job =>
    exact (Client.Feed.maybeQueueDrainStatus (c.releaseWorkToken job.workId)).around rfl rfl rfl
  | @finish _ job =>
    exact (Client.Feed.maybeQueueDrainStatus
      ((c.leaveHandler.leaveJob).releaseWorkToken job.workId)).around rfl rfl rfl
  -- the result of the open goes out with the section that decides
  | @settleSource _ job decision _ hCommit | @failSource _ job decision _ _ hCommit
  | @declineSource _ job decision _ _ _ hCommit =>
    have hFeed : c.Feed env (commitSourceOpen env c job decision).2 := .commitSourceOpen _ _
    rwa [hCommit] at hFeed
  | notifySource => exact .nothing (c.wire_notifySourceClosed _ _)
  | @finishSource _ _ dispatched =>
    have hFeed : Client.Feed env _ _ := .maybeQueueDrainStatus
      (if dispatched then c.leaveHandler else c).leaveJob
    cases dispatched <;> exact hFeed.around rfl rfl rfl

/-- What the handling of a Work frame feeds. -/
theorem feed_handleWorkResponse (now : Int) (response : WorkResponse) :
    c.Feed env (handleWorkResponse env c now response).2 := by
  unfold handleWorkResponse
  simp only
  split
  · unfold enqueueDispatch
    split <;> exact .nothing rfl
  · unfold enqueueDispatch
    split <;> exact .nothing rfl
  · exact .enqueueSourceOpen _ _
  · rename_i credit _
    obtain ⟨-, grant, source, -, -, -, -, -, -, -, -, hEq⟩ | ⟨-, closed, -, -, hEq⟩ | ⟨-, hEq⟩ :=
      grantSourceCredit_cases
        (Prod.mk.eta (p := grantSourceCredit c credit response.header.frameSequence)).symm <;>
      rw [hEq] <;> exact .nothing rfl
  · exact .handleCancellation _ _
  · rename_i acknowledgement _
    obtain ⟨-, workId, entry, -, -, -, -, -, -, hEq⟩ | ⟨-, streamId, closed, bytes, -, -, -, hEq, -⟩ |
      ⟨-, hEq⟩ := handleTerminalAcknowledgement_cases (Prod.mk.eta
        (p := handleTerminalAcknowledgement c acknowledgement
          response.header.frameSequence)).symm <;>
      rw [hEq] <;> exact .nothing rfl
  · exact .refl _
  · exact .refl _

/-- What its follow-up feeds. -/
theorem feed_followUpStep {fence : SessionFence} {todo : FollowUp} {pc' : WorkReaderPc}
    (h : followUpStep env c fence todo = (pc', c')) : c.Feed env c' := by
  cases followUpStep_branch h with
  | done | unheard | signal => exact .refl _
  | reported hQueue | unreported hQueue | replayed hQueue | unreplayed hQueue =>
    exact .queueWorkLocked hQueue
  | answered hCommit | unanswered hCommit => exact .commitTerminalFrame hCommit
  | notify => exact .nothing (c.wire_notifySourceClosed _ _)

/-- The Work reader feeds the queues, or accepts a header. -/
theorem wire_workReaderStep {pc pc' : WorkReaderPc} {input : ReaderInput WorkResponse}
    (h : workReaderStep env c pc input = some (pc', c')) :
    c.Feed env c' ∨ ∃ fence response, pc = .validating fence response ∧
      pc' = .handling fence response ∧
      validateHeader env response.header fence c.session.workInSequence = .ok () ∧
      c' = { c with session := { c.session with
        workInSequence := response.header.frameSequence } } := by
  cases workReaderStep_branch h with
  | opened => exact .inl (.nothing (c.wire_log rfl))
  | stopping | awaitFrame | oversize | received | readFailed | badHeader | closed | ended
  | rejected | lost => exact .inl (.refl _)
  | goodHeader hValid => exact .inr ⟨_, _, rfl, rfl, hValid, rfl⟩
  | @handle now _ response _ _ hHandle | @hostError now _ response _ _ hHandle =>
    have hFeed : c.Feed env (handleWorkResponse env c now response).2 :=
      feed_handleWorkResponse now response
    rw [hHandle] at hFeed
    exact .inl hFeed
  | followUp hFollow => exact .inl (feed_followUpStep hFollow)
  | unopened | signalSession | lastSignal =>
    exact .inl (.nothing (c.wire_signalSessionFailure _ _))
  | terminal | lastTerminal => exact .inl (.nothing (c.wire_signalTerminalSessionFailure _ _))

/-- The Control reader feeds the queues, or accepts a header. -/
theorem wire_controlReaderStep {pc pc' : ControlReaderPc} {input : ReaderInput ControlResponse}
    (h : controlReaderStep env c pc input = some (pc', c')) :
    c.Feed env c' ∨ ∃ fence response, pc = .validating fence response ∧
      pc' = .handling fence response.frame ∧
      validateHeader env response.header fence c.session.controlInSequence = .ok () ∧
      c' = { c with session := { c.session with
        controlInSequence := response.header.frameSequence } } := by
  cases controlReaderStep_branch h with
  | opened => exact .inl (.nothing (c.wire_log rfl))
  | stopping | awaitFrame | oversize | received | readFailed | badHeader | badSpec | goodSpec
  | ping | hostError | emptyFrame | closed | ended | rejected | lost => exact .inl (.refl _)
  | goodHeader hValid => exact .inr ⟨_, _, rfl, rfl, hValid, rfl⟩
  | drain =>
    -- the check of a drain may queue its report
    unfold Client.beginDrain
    refine .inl ((Client.Feed.maybeQueueDrainStatus _).around ?_ ?_ rfl) <;> rfl
  | stop =>
    split
    · exact .inl (.nothing (c.wire_log rfl))
    · exact .inl (.refl _)
  | apply hMove | conclude hMove => exact .inl (.nothing (wire_applyMove hMove))
  | @queued _ _ frame _ _ hQueue | @overflow _ _ frame _ _ hQueue =>
    have hFeed : c.Feed env (c.queueControlLocked env frame).2 := .queueControlLocked frame
    rw [hQueue] at hFeed
    exact .inl hFeed
  | remoteStop => exact .inl (.nothing rfl)
  | unopened | signal | lastSignal => exact .inl (.nothing (c.wire_signalSessionFailure _ _))
  | terminal | lastTerminal => exact .inl (.nothing (c.wire_signalTerminalSessionFailure _ _))

-- ---------------------------------------------------------------------------
-- Writers
-- ---------------------------------------------------------------------------

/-- What a step of the Work writer can be. -/
inductive WorkWrite (env : Env) (c : Client) :
    WorkWriterPc → WorkWriterPc → Client → Prop
  | attach {fence : SessionFence} (hLive : c.pairLive fence = true) :
      WorkWrite env c (.attach fence)
        (.writingAttach fence (c.nextWorkHeader env fence)
          (.attach c.spec.specRevision c.spec.specDigest)) c.workStamped
  | attached {fence : SessionFence} {header : SessionHeader} {frame : WorkFrame} :
      WorkWrite env c (.writingAttach fence header frame) (.markReady fence)
        (c.log (.workWritten fence.connectionEpoch header frame))
  | ready {fence : SessionFence} {c' : Client} (hWire : c'.wire = c.wire) :
      WorkWrite env c (.markReady fence) (.loop fence) c'
  | dequeue {fence : SessionFence} {front : QueuedWorkFrame} {rest : List QueuedWorkFrame}
      {c' : Client} (hLive : c.pairLive fence = true) (hQueue : c.queues.work = front :: rest)
      (hWire : c'.wire = { c.workStamped.wire with
        work := rest, workBytes := c.queues.workBytes - front.accountedBytes }) :
      WorkWrite env c (.loop fence)
        (.writing fence (c.nextWorkHeader env fence) front.request) c'
  | wrote {fence : SessionFence} {header : SessionHeader} {frame : WorkFrame} :
      WorkWrite env c (.writing fence header frame) (.loop fence)
        (c.log (.workWritten fence.connectionEpoch header frame))
  | ended {fence : SessionFence} {pc pc' : WorkWriterPc} {c' : Client}
      (hFence : pc.fence? = some fence)
      (hOver : pc' = .exited ∨ ∃ reason, pc' = .signal fence reason)
      (hWire : c'.wire = c.wire) : WorkWrite env c pc pc' c'

/-- A step of the Work writer, by what it writes. -/
theorem workWrite_of_step {pc pc' : WorkWriterPc} {input : WriterInput}
    (h : workWriterStep env c pc input = some (pc', c')) : WorkWrite env c pc pc' c' := by
  cases workWriterStep_branch h with
  | attach _ hLive => exact .attach hLive
  | attached => exact .attached
  | ready => exact .ready (c.wire_markReady _)
  | dequeue hLive hQueue => exact .dequeue hLive hQueue rfl
  | write => exact .wrote
  | unattached | loseAttach | lose => exact .ended rfl (.inr ⟨_, rfl⟩) rfl
  | ended => exact .ended rfl (.inl rfl) rfl
  | signal => exact .ended rfl (.inl rfl) (c.wire_signalSessionFailure _ _)

/-- The Control writer holds a frame. -/
def ControlWriterPc.holds : ControlWriterPc → Bool
  | .writing _ _ _ => true
  | _ => false

/-- What a step of the Control writer can be. -/
inductive ControlWrite (env : Env) (c : Client) :
    ControlWriterPc → ControlWriterPc → Client → Prop
  | dequeue {fence : SessionFence} {front : QueuedControlFrame} {rest : List QueuedControlFrame}
      {c' : Client} (hLive : c.pairLive fence = true) (hQueue : c.queues.control = front :: rest)
      (hWire : c'.wire = { c.wire with
        control := rest
        controlBytes := c.queues.controlBytes - front.accountedBytes
        session := { c.session with controlOutSequence := c.session.controlOutSequence + 1 } }) :
      ControlWrite env c (.loop fence)
        (.writing fence (c.nextControlHeader env fence) front.request) c'
  | heartbeat {fence : SessionFence} {now : Int} {c' : Client} (hLive : c.pairLive fence = true)
      (hWire : c'.wire = { c.wire with
        session := { c.session with controlOutSequence := c.session.controlOutSequence + 1 } }) :
      ControlWrite env c (.loop fence)
        (.writing fence (c.nextControlHeader env fence) (.heartbeat (buildHeartbeat c now 0))) c'
  | wrote {fence : SessionFence} {header : SessionHeader} {frame : ControlFrame}
      {pc' : ControlWriterPc} (hNext : pc'.holds = false) (hFence : pc'.fence? = some fence) :
      ControlWrite env c (.writing fence header frame) pc'
        (c.log (.controlWritten fence.connectionEpoch header frame))
  | quiet {fence : SessionFence} {pc pc' : ControlWriterPc} {c' : Client}
      (hFence : pc.fence? = some fence) (hNext : pc'.holds = false) (hWire : c'.wire = c.wire) :
      ControlWrite env c pc pc' c'

theorem holds_afterControlWrite (fence : SessionFence) (frame : ControlFrame) :
    (afterControlWrite fence frame).holds = false := by
  unfold afterControlWrite
  split
  · split
    · rfl
    · simp only
      split <;> rfl
  · rfl

/-- A step of the Control writer, by what it writes. -/
theorem controlWrite_of_step {pc pc' : ControlWriterPc} {input : WriterInput}
    (h : controlWriterStep env c pc input = some (pc', c')) :
    ControlWrite env c pc pc' c' := by
  cases controlWriterStep_branch h with
  | dequeue hLive hQueue => exact .dequeue hLive hQueue rfl
  | heartbeat hLive => exact .heartbeat hLive rfl
  | write => exact .wrote (holds_afterControlWrite _ _) (fence_afterControlWrite _ _)
  | ended | lose => exact .quiet rfl rfl rfl
  | gate => exact .quiet rfl rfl (c.wire_openAttachGate _)
  | signal => exact .quiet rfl rfl (c.wire_signalSessionFailure _ _)
  | terminal => exact .quiet rfl rfl (c.wire_signalTerminalSessionFailure _ _)

-- ---------------------------------------------------------------------------
-- Supervisor
-- ---------------------------------------------------------------------------

/-- The steps of the supervisor that reset or renumber the streams. -/
inductive WireReset (env : Env) (c : Client) : SupervisorPc → SupervisorPc → Client → Prop
  | install {fence : SessionFence} :
      WireReset env c (.install fence) (.loop ⟨fence, env.config.reconnectInitialDelayMs, 0⟩)
        (c.installSession env fence)
  | prepare {r : Supervision} {fence : SessionFence}
      (hFence : fence = { r.fence with connectionEpoch := c.session.connectionEpochCounter }) :
      WireReset env c (.prepare r) (.awaitAttach r fence) (c.prepareConnectionPair fence)
  | clear {r : Supervision} :
      WireReset env c (.clear r) (.checkStop r c.flags.pairReady) c.clearConnectionState
  | advance {r : Supervision} : WireReset env c (.advance r) (.checkEpoch r) c.advanceEpoch
  | endSession : WireReset env c .endSession .finished (c.endSupervision env)

/-- A reset is taken outside a pair. -/
theorem WireReset.phase {pc pc' : SupervisorPc} (h : WireReset env c pc pc' c') :
    pc.phase = .outside := by
  cases h <;> rfl

/-- A step of the supervisor leaves both streams and both queues alone, or starts them anew. -/
theorem wire_supervisorStep {controlDone workDone : Bool} {pc pc' : SupervisorPc}
    {input : SupervisorInput}
    (h : supervisorStep env c controlDone workDone pc input = some (pc', c')) :
    c'.wire = c.wire ∨ WireReset env c pc pc' c' := by
  cases supervisorStep_branch h with
  | install => exact .inr .install
  | prepare => exact .inr (.prepare rfl)
  | clear => exact .inr .clear
  | advance => exact .inr .advance
  | endSession => exact .inr .endSession
  | notify => exact .inl (c.wire_notifySourceClosed _ _)
  | deactivate hStep => exact .inl (wire_deactivateStep hStep)
  | deactivated hStep =>
    have hWire := wire_deactivateStep hStep
    exact .inl hWire
  | enterLost hLost =>
    unfold Client.enterSessionLost at hLost
    split at hLost <;> cases hLost
    exact .inl rfl
  | reportLost =>
    split
    · exact .inl (c.wire_log rfl)
    · exact .inl rfl
  | refuse | register | unanswered | registered | giveUp | lock | goOn | unattached | attach | ended
  | joinControl | joinWork | replaceBegin | replaceWait | release | error | notified | unstopped
  | terminal | spent | retry | epochLeft | backOff | alreadyLost => exact .inl rfl

-- ---------------------------------------------------------------------------
-- The fence of the pair
-- ---------------------------------------------------------------------------

/-- A thread of the pair, or the supervisor that waits on it, holds this fence. -/
inductive System.UsesFence (s : System) (fence : SessionFence) : Prop
  | workReader (h : s.workReader.fence? = some fence)
  | controlReader (h : s.controlReader.fence? = some fence)
  | workWriter (h : s.workWriter.fence? = some fence)
  | controlWriter (h : s.controlWriter.fence? = some fence)
  | supervisor (h : s.supervisor.pairFence? = some fence)

/-- A thread keeps the fence it was started with. -/
theorem fence_kept {α : Type} {fence? : α → Option SessionFence} {pc pc' exit : α}
    {fence : SessionFence}
    (h : ∃ held, fence? pc = some held ∧ (fence? pc' = some held ∨ pc' = exit))
    (hExit : fence? exit = none) (hFence : fence? pc' = some fence) : fence? pc = some fence := by
  obtain ⟨held, hHeld, hSame | rfl⟩ := h
  · rw [hSame] at hFence
    exact hHeld.trans hFence
  · rw [hExit] at hFence
    cases hFence

/-- Outside of a pair the supervisor has no fence of one. -/
theorem pairFence_of_phase {pc : SupervisorPc} (h : pc.phase = .outside) :
    pc.pairFence? = none := by
  cases pc <;> first | rfl | cases h

/-- The supervisor waits on the pair it prepared. -/
theorem SupervisorMove.pairFence {controlDone workDone : Bool} {pc pc' : SupervisorPc}
    {fence : SessionFence} (h : SupervisorMove env c controlDone workDone pc pc' c')
    (hFence : pc'.pairFence? = some fence) :
    pc.pairFence? = some fence ∨ ∃ r, pc = .prepare r ∧ pc' = .awaitAttach r fence := by
  cases h with
  | quiet _ _ _ hPhase =>
    rw [pairFence_of_phase hPhase] at hFence
    cases hFence
  | prepare =>
    cases hFence
    exact .inr ⟨_, rfl, rfl⟩
  | attach =>
    cases hFence
    exact .inl rfl
  | install | ended | joinControl | joinWork | replaceBegin | replaceWait | release | clear
  | advance | deactivate | endSession => cases hFence

/-- A fence comes into use when its pair is prepared. -/
theorem usesFence_of_step {a : Action} {fence : SessionFence} (hStep : s.step env a = some s')
    (h : s'.UsesFence fence) :
    s.UsesFence fence ∨ ∃ r, s.supervisor = .prepare r ∧ s'.supervisor = .awaitAttach r fence := by
  cases System.step_cases hStep with
  | worker | publishSource | closeSource | flags | stopDeactivate | stopReset | joinWorkers =>
    -- these steps move no thread that carries a fence
    refine .inl ?_
    cases h with
    | workReader h => exact .workReader h
    | controlReader h => exact .controlReader h
    | workWriter h => exact .workWriter h
    | controlWriter h => exact .controlWriter h
    | supervisor h => exact .supervisor h
  | startThreads | joinSupervisor =>
    -- a supervisor that is started or joined carries none
    refine .inl ?_
    cases h with
    | workReader h => exact .workReader h
    | controlReader h => exact .controlReader h
    | workWriter h => exact .workWriter h
    | controlWriter h => exact .controlWriter h
    | supervisor h => cases h
  | workReader hReader hSpawn =>
    refine .inl ?_
    cases h with
    | workReader h => exact .workReader (fence_kept (workReaderStep_fence hReader) rfl h)
    | workWriter h =>
      -- the Work writer inherits the fence of its reader
      obtain rfl | ⟨held, hPc, rfl, rfl⟩ := hSpawn
      · exact .workWriter h
      · exact .workReader (fence_kept (workReaderStep_fence hReader) rfl h)
    | controlReader h => exact .controlReader h
    | controlWriter h => exact .controlWriter h
    | supervisor h => exact .supervisor h
  | controlReader hReader hSpawn =>
    refine .inl ?_
    cases h with
    | controlReader h => exact .controlReader (fence_kept (controlReaderStep_fence hReader) rfl h)
    | controlWriter h =>
      -- the Control writer inherits the fence of its reader
      obtain rfl | ⟨held, hPc, rfl, rfl⟩ := hSpawn
      · exact .controlWriter h
      · exact .controlReader (fence_kept (controlReaderStep_fence hReader) rfl h)
    | workReader h => exact .workReader h
    | workWriter h => exact .workWriter h
    | supervisor h => exact .supervisor h
  | workWriter hWriter =>
    refine .inl ?_
    cases h with
    | workWriter h => exact .workWriter (fence_kept (workWriterStep_fence hWriter) rfl h)
    | workReader h => exact .workReader h
    | controlReader h => exact .controlReader h
    | controlWriter h => exact .controlWriter h
    | supervisor h => exact .supervisor h
  | controlWriter hWriter =>
    refine .inl ?_
    cases h with
    | controlWriter h => exact .controlWriter (fence_kept (controlWriterStep_fence hWriter) rfl h)
    | workReader h => exact .workReader h
    | controlReader h => exact .controlReader h
    | workWriter h => exact .workWriter h
    | supervisor h => exact .supervisor h
  | @supervisor input pc' c' hSupervisor =>
    have hMove := supervisorStep_cases hSupervisor
    have hPair : ∀ held, pc'.pairFence? = some held →
        s.UsesFence held ∨ ∃ r, s.supervisor = .prepare r ∧ pc' = .awaitAttach r held :=
      fun held hHeld => (hMove.pairFence hHeld).imp_left .supervisor
    -- what the supervisor spawns, it spawns under the fence of the pair
    have hSpawn : (s.spawn pc').workWriter = s.workWriter ∧
        (s.spawn pc').controlWriter = s.controlWriter ∧
        ((s.spawn pc').workReader.fence? = some fence →
          s.workReader.fence? = some fence ∨ pc'.pairFence? = some fence) ∧
        ((s.spawn pc').controlReader.fence? = some fence →
          s.controlReader.fence? = some fence ∨ pc'.pairFence? = some fence) := by
      unfold System.spawn
      split
      · exact ⟨rfl, rfl, fun h => (by cases h), .inr⟩
      · exact ⟨rfl, rfl, .inr, .inl⟩
      · exact ⟨rfl, rfl, .inl, .inl⟩
    cases h with
    | workReader h =>
      obtain hSame | hHeld := hSpawn.2.2.1 h
      · exact .inl (.workReader hSame)
      · exact hPair fence hHeld
    | controlReader h =>
      obtain hSame | hHeld := hSpawn.2.2.2 h
      · exact .inl (.controlReader hSame)
      · exact hPair fence hHeld
    | workWriter h => exact .inl (.workWriter (hSpawn.1 ▸ h))
    | controlWriter h => exact .inl (.controlWriter (hSpawn.2.1 ▸ h))
    | supervisor h => exact hPair fence h

-- ---------------------------------------------------------------------------
-- The session of the pair
-- ---------------------------------------------------------------------------

/-- The session without its frame counters. -/
def Session.identity (x : Session) : Session :=
  { x with controlOutSequence := 0, workOutSequence := 0, controlInSequence := 0,
           workInSequence := 0 }

theorem Client.Feed.session (h : c.Feed env c') : c'.session = c.session := by
  cases h with
  | nothing hWire | work _ _ hWire | control _ _ hWire => exact congrArg Wire.session hWire

theorem WorkWrite.identity {pc pc' : WorkWriterPc} (h : WorkWrite env c pc pc' c') :
    c'.session.identity = c.session.identity := by
  cases h with
  | attach | attached | wrote => rfl
  | ready hWire | ended _ _ hWire | dequeue _ _ hWire =>
    exact congrArg (fun w : Wire => w.session.identity) hWire

theorem ControlWrite.identity {pc pc' : ControlWriterPc} (h : ControlWrite env c pc pc' c') :
    c'.session.identity = c.session.identity := by
  cases h with
  | wrote => rfl
  | quiet _ _ hWire | dequeue _ _ hWire | heartbeat _ hWire =>
    exact congrArg (fun w : Wire => w.session.identity) hWire

/-- Only the supervisor and the end of `Stop` change what frames are stamped with. -/
theorem identity_of_step {a : Action} (hStep : s.step env a = some s') :
    s'.client.session.identity = s.client.session.identity ∨
      WireReset env s.client s.supervisor s'.supervisor s'.client ∨ s.stopper = .reset := by
  have hWire : ∀ {c' : Client}, c'.wire = s.client.wire →
      c'.session.identity = s.client.session.identity :=
    fun h => congrArg (fun w : Wire => w.session.identity) h
  cases System.step_cases hStep with
  | worker hWorker => exact .inl (congrArg Session.identity (feed_workerStep hWorker).session)
  | @publishSource streamId items =>
    have hFeed : s.client.Feed env _ := .publishSource streamId items
    exact .inl (congrArg Session.identity hFeed.session)
  | @closeSource streamId error =>
    have hFeed : s.client.Feed env _ := .closeSource streamId error
    exact .inl (congrArg Session.identity hFeed.session)
  | flags _ _ _ _ _ _ _ _ _ hClient =>
    obtain rfl | rfl | rfl := hClient <;> exact .inl rfl
  | startThreads | joinSupervisor | joinWorkers => exact .inl rfl
  | stopReset hStopper => exact .inr (.inr hStopper)
  | stopDeactivate _ hDeactivate hNext =>
    have hSame := wire_deactivateStep hDeactivate
    obtain ⟨_, -, -, rfl⟩ | ⟨-, -, rfl⟩ := hNext
    · exact .inl (hWire hSame)
    · exact .inl (hWire hSame)
  | workReader hReader =>
    obtain hFeed | ⟨fence, response, -, -, -, rfl⟩ := wire_workReaderStep hReader
    · exact .inl (congrArg Session.identity hFeed.session)
    · exact .inl rfl
  | controlReader hReader =>
    obtain hFeed | ⟨fence, response, -, -, -, rfl⟩ := wire_controlReaderStep hReader
    · exact .inl (congrArg Session.identity hFeed.session)
    · exact .inl rfl
  | workWriter hWriter =>
    exact .inl (workWrite_of_step hWriter).identity
  | controlWriter hWriter =>
    exact .inl (controlWrite_of_step hWriter).identity
  | supervisor hSupervisor =>
    obtain hSame | hReset := wire_supervisorStep hSupervisor
    · exact .inl (hWire hSame)
    · exact .inr (.inl hReset)

/-- The members of the session are those of this fence. -/
structure Session.Holds (x : Session) (fence : SessionFence) : Prop where
  sessionId : x.sessionId = fence.sessionId
  sessionGeneration : x.sessionGeneration = fence.sessionGeneration
  runtimeEpoch : x.runtimeEpoch = fence.runtimeEpoch
  controlLimit : x.maximumControlFrameBytes = fence.maximumControlFrameBytes
  workLimit : x.maximumWorkFrameBytes = fence.maximumWorkFrameBytes

/-- A session holds a fence by its identity. -/
theorem Session.Holds.of_identity {x y : Session} {fence : SessionFence} (h : x.Holds fence)
    (hSame : y.identity = x.identity) : y.Holds fence where
  sessionId := (congrArg Session.sessionId hSame :).trans h.sessionId
  sessionGeneration := (congrArg Session.sessionGeneration hSame :).trans h.sessionGeneration
  runtimeEpoch := (congrArg Session.runtimeEpoch hSame :).trans h.runtimeEpoch
  controlLimit := (congrArg Session.maximumControlFrameBytes hSame :).trans h.controlLimit
  workLimit := (congrArg Session.maximumWorkFrameBytes hSame :).trans h.workLimit

/-- Every fence in use is that of the session and of the current epoch. -/
structure Fenced (s : System) : Prop where
  used : ∀ fence, s.UsesFence fence → s.client.session.Holds fence ∧
    fence.connectionEpoch = s.client.session.connectionEpochCounter
  installed : ∀ r, s.supervisor.supervision? = some r → s.client.session.Holds r.fence

/-- Outside of a pair no thread has a fence. -/
theorem Threads.no_fence (h : Threads s) (hPhase : s.supervisor.phase = .outside)
    (fence : SessionFence) : ¬s.UsesFence fence := by
  have hWork := h.workReader (by rw [hPhase]; rfl)
  have hControl := h.controlReader (by rw [hPhase]; rfl)
  have hWorkWriter := h.workWriter (WorkReaderPc.alone_of_fence_none hWork)
  have hControlWriter := h.controlWriter (ControlReaderPc.alone_of_fence_none hControl)
  intro hUsed
  cases hUsed with
  | workReader hFence => simp [hWork] at hFence
  | controlReader hFence => simp [hControl] at hFence
  | workWriter hFence => simp [hWorkWriter] at hFence
  | controlWriter hFence => simp [hControlWriter] at hFence
  | supervisor hFence => simp [pairFence_of_phase hPhase] at hFence

/-- The step that prepares a pair, and the fence it is prepared with. -/
theorem prepare_of_step {a : Action} {r : Supervision} {fence : SessionFence}
    (hStep : s.step env a = some s') (hPc : s.supervisor = .prepare r)
    (hPc' : s'.supervisor = .awaitAttach r fence) :
    fence = { r.fence with connectionEpoch := s.client.session.connectionEpochCounter } ∧
      s'.client = s.client.prepareConnectionPair fence := by
  cases System.step_cases hStep with
  | worker | workReader | controlReader | workWriter | controlWriter | publishSource | closeSource
  | flags | joinWorkers | stopDeactivate | stopReset =>
    rw [show s.supervisor = _ from hPc'] at hPc
    cases hPc
  | startThreads | joinSupervisor => cases hPc'
  | supervisor hSupervisor =>
    rw [hPc] at hSupervisor
    obtain rfl : _ = SupervisorPc.awaitAttach r fence := hPc'
    cases supervisorStep_cases hSupervisor with
    | quiet _ _ _ hPhase => cases hPhase
    | prepare hFence => exact ⟨hFence, rfl⟩

/-- The locals of the supervisor live from the installation of a session to its end. -/
theorem supervision_of_step {a : Action} {r : Supervision} (hStep : s.step env a = some s')
    (h : s'.supervisor.supervision? = some r) :
    (∃ r', s.supervisor.supervision? = some r' ∧ r'.fence = r.fence) ∨
      (s.supervisor = .install r.fence ∧ s'.client = s.client.installSession env r.fence) := by
  cases System.step_cases hStep with
  | worker | workReader | controlReader | workWriter | controlWriter | publishSource | closeSource
  | flags | joinWorkers | stopDeactivate | stopReset => exact .inl ⟨r, h, rfl⟩
  | startThreads | joinSupervisor => cases h
  | supervisor hSupervisor =>
    have hMove := supervisorStep_cases hSupervisor
    generalize hPc : s.supervisor = pc at hMove ⊢
    cases hMove with
    | quiet _ _ _ _ hSession => exact .inl (hSession r h)
    | install =>
      cases h
      exact .inr ⟨rfl, rfl⟩
    | ended hPc =>
      cases h
      obtain rfl | rfl := hPc <;> exact .inl ⟨_, rfl, rfl⟩
    | prepare | attach | joinControl | joinWork | replaceBegin | replaceWait | release | clear
    | advance =>
      cases h
      exact .inl ⟨_, rfl, rfl⟩
    | deactivate | endSession => cases h

/-- A step keeps the fences in order. -/
theorem fenced_step {a : Action} (hReach : (machine env).Reachable s) (h : Fenced s)
    (hStep : s.step env a = some s') : Fenced s' := by
  have hThreads := (shape_of_reachable hReach).threads
  constructor
  · intro fence hUsed
    obtain hBefore | ⟨r, hPc, hPc'⟩ := usesFence_of_step hStep hUsed
    · obtain ⟨hHolds, hEpoch⟩ := h.used fence hBefore
      have hInside : s.supervisor.phase ≠ .outside :=
        fun hPhase => hThreads.no_fence hPhase fence hBefore
      obtain hSame | hReset | hStopper := identity_of_step hStep
      · refine ⟨hHolds.of_identity hSame, hEpoch.trans ?_⟩
        exact (congrArg Session.connectionEpochCounter hSame :).symm
      · exact absurd hReset.phase hInside
      · have hIdle := hThreads.stopper (by rw [hStopper]; rfl)
        exact absurd (by rw [hIdle]; rfl) hInside
    · obtain ⟨rfl, hClient⟩ := prepare_of_step hStep hPc hPc'
      have hHolds := h.installed r (by rw [hPc]; rfl)
      rw [hClient]
      exact ⟨⟨hHolds.sessionId, hHolds.sessionGeneration, hHolds.runtimeEpoch,
        hHolds.controlLimit, hHolds.workLimit⟩, rfl⟩
  · intro r hInstalled
    obtain ⟨r', hBefore, hFence⟩ | ⟨-, hClient⟩ := supervision_of_step hStep hInstalled
    · have hHolds := h.installed r' hBefore
      rw [hFence] at hHolds
      obtain hSame | hReset | hStopper := identity_of_step hStep
      · exact hHolds.of_identity hSame
      · generalize s.supervisor = pc at hReset hBefore
        generalize s'.supervisor = pc' at hReset hInstalled
        generalize s'.client = c' at hReset
        cases hReset with
        | install => cases hBefore
        | prepare | clear => exact hHolds.of_identity rfl
        | advance =>
          unfold Client.advanceEpoch
          split
          · exact hHolds
          · exact ⟨hHolds.sessionId, hHolds.sessionGeneration, hHolds.runtimeEpoch,
              hHolds.controlLimit, hHolds.workLimit⟩
        | endSession => cases hInstalled
      · have hIdle := hThreads.stopper (by rw [hStopper]; rfl)
        rw [hIdle] at hBefore
        cases hBefore
    · rw [hClient]
      exact ⟨rfl, rfl, rfl, rfl, rfl⟩

/-- In every reachable state the fences are in order. -/
theorem fenced_of_reachable (h : (machine env).Reachable s) : Fenced s := by
  refine h.invariant ?_ fun s a s' hReach hFenced hStep => fenced_step hReach hFenced hStep
  constructor
  · intro fence hUsed
    cases hUsed with
    | workReader hFence | controlReader hFence | workWriter hFence | controlWriter hFence
    | supervisor hFence => cases hFence
  · intro r hInstalled
    cases hInstalled

end AdapterRuntime.Model
