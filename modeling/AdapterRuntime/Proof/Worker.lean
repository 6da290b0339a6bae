import AdapterRuntime.Proof.Loops
import AdapterRuntime.Proof.SourceSections

/-!
# AdapterRuntime — the steps of a dispatch worker

`WorkerPc.stage` groups the program counters of a worker by what has happened
to the job it holds. `workerStep_cases` says everything a step of a worker can
do to the Work plane, as one case per effect; the invariants of the Work plane
are derived from it and never unfold the loop again.
-/

namespace AdapterRuntime.Model

open AdapterRuntime.Lib

/-- How far a worker has come with the job it holds. -/
inductive Stage
  /-- The worker holds no job. -/
  | free
  /-- Nothing has been sent for the job. -/
  | fresh
  /-- A terminal is due without an invocation of the handler. -/
  | refusing
  /-- `ACCEPTED` is on the Work queue. -/
  | accepted
  /-- The handler is running. -/
  | running
  /-- The handler has returned, and its terminal is due. -/
  | returned
  /-- The worker gave up without committing a terminal. -/
  | failed
  /-- The job's terminal is committed. -/
  | committed
  /-- The token has been released in a section of its own. -/
  | left
  /-- A source open before its commit section. -/
  | opening
  /-- A source open after its commit section. -/
  | sourceDone
  deriving DecidableEq

namespace WorkerPc

/-- The job a worker holds. -/
def job? : WorkerPc → Option DispatchJob
  | .notStarted | .idle | .exited => none
  | .popped job | .cancelledCommit job | .validate job | .contextReject job _ | .handle job _
  | .inputReject job | .queueAccepted job _ | .queueStarted job _ | .running job _
  | .returnedUnary job _ _ | .returnedOperation job _ _ | .commit job _ | .commitFallback job
  | .signal job _ _ | .signalSession job _ _ _ | .eraseToken job _ | .leave job
  | .finish job _ | .sourceInitial job | .sourceDispatch job _ | .sourceRunning job _
  | .sourceReturned job _ _ | .sourceCommit job _ | .sourceNotify job _ _
  | .sourceFinish job _ => some job

/-- How far a worker is with its job. -/
def stage : WorkerPc → Stage
  | .notStarted | .idle | .exited => .free
  | .popped _ | .validate _ | .handle _ _ | .queueAccepted _ _ => .fresh
  | .cancelledCommit _ | .contextReject _ _ | .inputReject _ => .refusing
  | .queueStarted _ _ => .accepted
  | .running _ _ => .running
  | .returnedUnary _ _ _ | .returnedOperation _ _ _ | .commit _ _ | .commitFallback _ =>
    .returned
  | .signal _ _ after | .signalSession _ _ _ after =>
    if after = .sourceFinish then .sourceDone else .failed
  | .eraseToken _ committed | .finish _ committed => if committed then .committed else .failed
  | .leave _ => .left
  | .sourceInitial _ | .sourceDispatch _ _ | .sourceRunning _ _ | .sourceReturned _ _ _
  | .sourceCommit _ _ => .opening
  | .sourceNotify _ _ _ | .sourceFinish _ _ => .sourceDone

/-- The terminal a worker is about to commit. -/
def dueTerminal (now : Int) : WorkerPc → Option WorkFrame
  | .cancelledCommit job =>
    some (rejectedDispatch now job.kind job.workId (text "cancelled")
      (text "Work was cancelled before dispatch") .cancelled)
  | .contextReject job error =>
    some (rejectedDispatch now job.kind job.workId (text "invalid-work-context") error)
  | .inputReject job =>
    some (rejectedDispatch now job.kind job.workId (text "input-schema-mismatch")
      (text (if job.kind = .unary then "unary input does not match its contract"
        else "operation input does not match its contract")))
  | .commit _ frame => some frame
  | .commitFallback job => some (fallbackTerminal now job.kind job.workId)
  | _ => none

/-- The kind of the job fits the point the worker is at. -/
def KindOk : WorkerPc → Prop
  | .sourceInitial job | .sourceDispatch job _ | .sourceRunning job _ | .sourceReturned job _ _
  | .sourceCommit job _ | .sourceNotify job _ _ | .sourceFinish job _ => job.kind = .sourceOpen
  | .signal job _ after | .signalSession job _ _ after =>
    after = .sourceFinish ↔ job.kind = .sourceOpen
  | .queueAccepted job _ | .queueStarted job _ | .returnedOperation job _ _ =>
    job.kind = .operation
  | .returnedUnary job _ _ => job.kind = .unary
  | .notStarted | .idle | .exited | .popped _ => True
  | .cancelledCommit job | .validate job | .contextReject job _ | .handle job _
  | .inputReject job | .running job _ | .commit job _ | .commitFallback job | .eraseToken job _
  | .leave job | .finish job _ => job.kind ≠ .sourceOpen

end WorkerPc

/-- The stages a worker moves between without touching the Work plane. -/
def Stage.Quiet (a b : Stage) : Prop :=
  a = b ∨ (a = .fresh ∧ (b = .refusing ∨ b = .failed ∨ b = .opening ∨ b = .sourceDone)) ∨
    (a = .accepted ∧ b = .failed) ∨ (a = .opening ∧ b = .sourceDone)

/-- What a step of a worker can do. -/
inductive WorkerMove (env : Env) (c : Client) : WorkerPc → WorkerPc → Client → Prop
  | exit : WorkerMove env c .idle .exited c
  | pop {job : DispatchJob} {rest : List DispatchJob} (hQueue : c.queues.dispatch = job :: rest) :
      WorkerMove env c .idle (.popped job) (c.popped job rest)
  | quiet {pc pc' : WorkerPc} {c' : Client} {job : DispatchJob} (hJob : pc.job? = some job)
      (hJob' : pc'.job? = some job) (hCore : c'.core = c.core)
      (hRest : (c.withFlight c'.queues.inFlightWork).Subsides c')
      (hStage : pc.stage.Quiet pc'.stage) : WorkerMove env c pc pc' c'
  | accept {job : DispatchJob} {binding : Nat} (now : Int) :
      WorkerMove env c (.queueAccepted job binding) (.queueStarted job binding)
        (c.queued env job.cancellation (operationFrame now job.workId .accepted))
  | startOperation {job : DispatchJob} {binding : Nat} (now : Int) :
      WorkerMove env c (.queueStarted job binding) (.running job binding)
        ((c.queued env job.cancellation
          (operationFrame now job.workId .started)).recordStarted job)
  | startUnary {job : DispatchJob} {binding : Nat} (hKind : job.kind = .unary) :
      WorkerMove env c (.handle job binding) (.running job binding) (c.recordStarted job)
  | returnUnary {job : DispatchJob} {binding : Nat} (result : UnaryResult)
      (hKind : job.kind = .unary) :
      WorkerMove env c (.running job binding) (.returnedUnary job binding result)
        (c.recordReturned (.unary result) job)
  | returnOperation {job : DispatchJob} {binding : Nat} (result : OperationResult)
      (hKind : job.kind ≠ .unary) :
      WorkerMove env c (.running job binding) (.returnedOperation job binding result)
        (c.recordReturned (.operation result) job)
  | commit {pc pc' : WorkerPc} {job : DispatchJob} (now : Int) {frame : WorkFrame}
      {entry : ReplayEntry} (hJob : pc.job? = some job) (hDue : pc.dueTerminal now = some frame)
      (hNext : pc' = .eraseToken job true ∨ pc' = .finish job true)
      (hAdmits : c.workAdmits env frame = true)
      (hEntry : replayEntryOf env job frame (c.workFrameBytes env frame) = some entry)
      (hLedger : c.ledgerAdmits env job entry = true) :
      WorkerMove env c pc pc' (c.committed env job frame entry)
  | refuse {pc pc' : WorkerPc} {c' : Client} {job : DispatchJob} (now : Int) {frame : WorkFrame}
      {result : TerminalCommitResult} (hJob : pc.job? = some job)
      (hDue : pc.dueTerminal now = some frame)
      (hCommit : c.commitTerminalFrame env job frame = (result, c'))
      (hResult : result ≠ .committed)
      (hNext : (result = .tooLarge ∧ pc = .commit job frame ∧ pc' = .commitFallback job) ∨
        ∃ reason after, after ≠ .sourceFinish ∧ pc' = .signal job reason after) :
      WorkerMove env c pc pc' c'
  | erase {c' : Client} {job : DispatchJob} {committed : Bool}
      (hCore : c'.core = (c.releaseWorkToken job.workId).core) (hRest : c.Subsides c') :
      WorkerMove env c (.eraseToken job committed) (.leave job) c'
  | leave {job : DispatchJob} : WorkerMove env c (.leave job) .idle c.leaveJob
  | finish {c' : Client} {job : DispatchJob} {committed : Bool}
      (hCore : c'.core = (c.releaseWorkToken job.workId).core)
      (hRest : (c.leaveJob.withFlight c'.queues.inFlightWork).Subsides c') :
      WorkerMove env c (.finish job committed) .idle c'
  | startSource {job : DispatchJob} {binding : Nat} :
      WorkerMove env c (.sourceDispatch job binding) (.sourceRunning job binding)
        (c.recordStarted job)
  | returnSource {job : DispatchJob} {binding : Nat} (decision : SourceOpenDecision) :
      WorkerMove env c (.sourceRunning job binding) (.sourceReturned job binding decision)
        (c.recordReturned (.sourceOpen decision) job)
  | commitSource {pc' : WorkerPc} {c' : Client} {job : DispatchJob}
      {decision : SourceOpenDecision} {r : SourceCommit}
      (hCommit : commitSourceOpen env c job decision = (r, c')) (hJob' : pc'.job? = some job)
      (hStage' : pc'.stage = .sourceDone) :
      WorkerMove env c (.sourceCommit job decision) pc' c'
  | leaveSource {c' : Client} {job : DispatchJob} {dispatched : Bool} (hCore : c'.core = c.core)
      (hRest : (c.leaveJob.withFlight c'.queues.inFlightWork).Subsides c') :
      WorkerMove env c (.sourceFinish job dispatched) .idle c'

variable {env : Env} {c c' : Client} {pc pc' : WorkerPc} {now : Int}

/-- A quiet step that leaves `in_flight_work_` alone. -/
theorem WorkerMove.calm {job : DispatchJob} (hJob : pc.job? = some job)
    (hJob' : pc'.job? = some job) (hCore : c'.core = c.core) (hRest : c.Subsides c')
    (hStage : pc.stage.Quiet pc'.stage) : WorkerMove env c pc pc' c' :=
  .quiet hJob hJob' hCore hRest.withFlight hStage

/-- A commit section of a worker commits the terminal that is due there. -/
theorem WorkerPc.Commits.due {job : DispatchJob} {frame : WorkFrame} {done : WorkerPc}
    {after : AfterSignal} (h : pc.Commits now job frame done after) :
    pc.job? = some job ∧ pc.dueTerminal now = some frame ∧
      (done = .eraseToken job true ∨ done = .finish job true) ∧ after ≠ .sourceFinish := by
  cases h with
  | cancelled | context => exact ⟨rfl, rfl, .inl rfl, by decide⟩
  | input | result | fallback => exact ⟨rfl, rfl, .inr rfl, by decide⟩

/-- A source open sends its result in a commit section of its own. -/
theorem WorkerPc.Commits.kind {job : DispatchJob} {frame : WorkFrame} {done : WorkerPc}
    {after : AfterSignal} (h : pc.Commits now job frame done after) (hKind : pc.KindOk) :
    job.kind ≠ .sourceOpen := by
  cases h <;> exact hKind

/-- Everything a step of a worker can do. -/
theorem workerStep_cases {input : WorkerInput}
    (h : workerStep env c pc input = some (pc', c')) : WorkerMove env c pc pc' c' := by
  cases workerStep_branch h with
  | exit => exact .exit
  | pop hQueue => exact .pop hQueue
  -- a request before its handler, and the source opens that are gone or find their source
  | skipSource => exact .calm rfl rfl rfl (.refl _) (.inr (.inl ⟨rfl, .inr (.inr (.inr rfl))⟩))
  | enterSource =>
    exact .quiet rfl rfl rfl (.of_surround rfl) (.inr (.inl ⟨rfl, .inr (.inr (.inl rfl))⟩))
  | cancelled | refuseInput =>
    exact .calm rfl rfl rfl (.refl _) (.inr (.inl ⟨rfl, .inl rfl⟩))
  | uncancelled | toOperation => exact .calm rfl rfl rfl (.refl _) (.inl rfl)
  | invalid => exact .calm rfl rfl rfl (.of_surround rfl) (.inr (.inl ⟨rfl, .inl rfl⟩))
  | valid => exact .quiet rfl rfl rfl (.of_surround rfl) (.inl rfl)
  | startUnary _ hKind => exact .startUnary hKind
  -- the frames of an operation
  | @accepted now _ _ _ hQueue =>
    obtain ⟨-, -, rfl⟩ | ⟨hFalse, -⟩ := Client.queueWorkLocked_cases hQueue
    · exact .accept now
    · cases hFalse
  | unaccepted hQueue =>
    obtain ⟨hTrue, -⟩ | ⟨-, -, hRefused⟩ := Client.queueWorkLocked_cases hQueue
    · cases hTrue
    · exact .calm rfl rfl hRefused.core (.of_surround hRefused.surround)
        (.inr (.inl ⟨rfl, .inr (.inl rfl)⟩))
  | @started now _ _ _ hQueue =>
    obtain ⟨-, -, rfl⟩ | ⟨hFalse, -⟩ := Client.queueWorkLocked_cases hQueue
    · exact .startOperation now
    · cases hFalse
  | unstarted hQueue =>
    obtain ⟨hTrue, -⟩ | ⟨-, -, hRefused⟩ := Client.queueWorkLocked_cases hQueue
    · cases hTrue
    · exact .calm rfl rfl hRefused.core (.of_surround hRefused.surround)
        (.inr (.inr (.inl ⟨rfl, rfl⟩)))
  -- the results of the handlers and their terminals
  | returnUnary hKind => exact .returnUnary _ hKind
  | returnOperation hKind => exact .returnOperation _ hKind
  | normalizeUnary | normalizeOperation => exact .calm rfl rfl rfl (.refl _) (.inl rfl)
  | @commit now _ _ _ _ _ _ hCommits hCommit =>
    obtain ⟨hJob, hDue, hDone, -⟩ := hCommits.due
    obtain ⟨-, hAdmits, entry, hEntry, hLedger, rfl⟩ | ⟨hResult, -⟩ :=
      Client.commitTerminalFrame_cases hCommit
    · exact .commit now hJob hDue hDone hAdmits hEntry hLedger
    · exact absurd rfl hResult
  | @tooLarge now _ _ _ hCommit =>
    exact .refuse now rfl rfl hCommit (by decide) (.inl ⟨rfl, rfl, rfl⟩)
  | @uncommitted now _ _ _ _ _ _ result _ hCommits hCommit hResult =>
    obtain ⟨hJob, hDue, -, hAfter⟩ := hCommits.due
    refine .refuse now hJob hDue hCommit ?_ (.inr ⟨_, _, hAfter, rfl⟩)
    obtain rfl | ⟨rfl, -⟩ := hResult <;> decide
  -- the failure signal and the ends of a job
  | @unheard _ _ _ after => cases after <;> exact .calm rfl rfl rfl (.refl _) (.inl rfl)
  | signal => exact .calm rfl rfl rfl (.refl _) (.inl rfl)
  | @signalSession _ _ _ _ after =>
    cases after <;> exact .calm rfl rfl (by simp) (.signalSessionFailure _ _) (.inl rfl)
  | eraseToken =>
    -- the drain check after the token is gone touches flags and the Control queue
    refine .erase (by simp) (.trans ?_ (.maybeQueueDrainStatus _ _))
    exact .of_surround rfl
  | leave => exact .leave
  | @finish _ job =>
    refine .finish (by rw [Client.core_maybeQueueDrainStatus]; rfl) ?_
    have hCheck := Client.Subsides.maybeQueueDrainStatus
      ((c.leaveHandler.leaveJob).releaseWorkToken job.workId) env
    rw [hCheck.flight]
    refine .trans ?_ hCheck
    exact .of_surround rfl
  -- source opens
  | loseSource => exact .calm rfl rfl rfl (.refl _) (.inr (.inr (.inr ⟨rfl, rfl⟩)))
  | findSource | cancelSource | normalizeSource => exact .calm rfl rfl rfl (.refl _) (.inl rfl)
  | startSource => exact .startSource
  | returnSource => exact .returnSource _
  | settleSource hCommit | failSource hCommit | declineSource hCommit =>
    exact .commitSource hCommit rfl rfl
  | notifySource => exact .calm rfl rfl (by simp) (.notifySourceClosed _ _) (.inl rfl)
  | @finishSource _ _ dispatched =>
    refine .leaveSource ?_ ?_
    · cases dispatched <;> (rw [Client.core_maybeQueueDrainStatus]; rfl)
    · have hCheck := Client.Subsides.maybeQueueDrainStatus
        (if dispatched then c.leaveHandler else c).leaveJob env
      rw [hCheck.flight]
      refine .trans ?_ hCheck
      cases dispatched <;> exact .of_surround rfl

-- ---------------------------------------------------------------------------
-- Kinds
-- ---------------------------------------------------------------------------

theorem kindOk_afterSignal {job : DispatchJob} {after : AfterSignal}
    (h : after = .sourceFinish ↔ job.kind = .sourceOpen) :
    (WorkerPc.afterSignal job after).KindOk := by
  cases after with
  | eraseToken | finish => exact fun hKind => by simp [hKind] at h
  | sourceFinish => exact h.mp rfl

/-- A job that is neither a unary request nor a source open is an operation. -/
theorem kind_of_not {job : DispatchJob} (hSource : job.kind ≠ .sourceOpen)
    (hUnary : job.kind ≠ .unary) : job.kind = .operation := by
  cases hKind : job.kind <;> simp_all

/-- A step of a worker keeps the kind of its job fitting. -/
theorem kindOk_workerStep {input : WorkerInput} (hPc : pc.KindOk)
    (h : workerStep env c pc input = some (pc', c')) : pc'.KindOk := by
  cases workerStep_branch h with
  | exit | pop | leave | finish | finishSource => trivial
  -- the kind is read from the job
  | skipSource hKind | enterSource hKind | cancelled hKind | uncancelled hKind
  | returnUnary hKind => exact hKind
  | toOperation _ hKind | returnOperation hKind => exact kind_of_not hPc hKind
  -- a point of unary requests and operations goes on to another
  | invalid | valid | refuseInput | startUnary | accepted | tooLarge | eraseToken => exact hPc
  | started | normalizeUnary | normalizeOperation =>
    exact fun hKind => by cases hKind.symm.trans hPc
  | unaccepted | unstarted =>
    have hPc : _ = DispatchKind.operation := hPc
    simp [WorkerPc.KindOk, hPc]
  | commit hCommits => cases hCommits <;> exact hPc
  | uncommitted hCommits =>
    cases hCommits <;> (simp only [WorkerPc.KindOk] at hPc; simp [WorkerPc.KindOk, hPc])
  | unheard | signalSession => exact kindOk_afterSignal hPc
  | signal => exact hPc
  -- a source open stays one
  | loseSource | findSource | cancelSource | startSource | returnSource | normalizeSource
  | settleSource | declineSource | notifySource => exact hPc
  | failSource => exact ⟨fun _ => hPc, fun _ => rfl⟩

end AdapterRuntime.Model
