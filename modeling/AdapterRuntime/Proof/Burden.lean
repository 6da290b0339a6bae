import AdapterRuntime.Proof.Exclusion
import AdapterRuntime.Proof.Workload

/-!
# AdapterRuntime — what `Stop` still has to wait for

Once a stop is requested no thread starts over: every program counter only moves towards its end.
What a thread may still have to go through is its `rank`; the queued jobs, the sources and the
granted capabilities, which are handled one by one, are the `stock` of the client. A frame that a
Control read was about to return can bring in a spec of any size, but only once, so that the
`burden` of a state is lexicographic.

* `burden_turn`    — every turn of a thread lowers the burden.
* `burden_outside` — nothing that the application calls in the meantime raises it.
-/

namespace AdapterRuntime.Model

open AdapterRuntime.Lib

variable {env : Env} {c c' : Client} {s s' : System}

-- ---------------------------------------------------------------------------
-- What is left to do
-- ---------------------------------------------------------------------------

/-- The jobs, sources and capabilities that are still to be taken one by one. A worker takes at
most 13 more steps on a job. -/
def Client.stock (c : Client) : Nat :=
  14 * c.queues.dispatch.length + Store.size c.tables.sourceStreams +
    Store.size c.spec.activeCapabilities

/-- How many steps a worker has before it, once its handler returns. -/
def WorkerPc.rank : WorkerPc → Nat
  | .notStarted | .exited => 0
  | .idle => 1
  | .leave _ | .finish _ _ | .sourceFinish _ _ => 2
  | .eraseToken _ _ | .sourceNotify _ _ _ => 3
  | .signalSession _ _ _ _ => 4
  | .signal _ _ _ => 5
  | .commitFallback _ | .inputReject _ | .contextReject _ _ | .cancelledCommit _
  | .sourceCommit _ _ => 6
  | .commit _ _ | .sourceReturned _ _ _ => 7
  | .returnedUnary _ _ _ | .returnedOperation _ _ _ | .sourceRunning _ _ => 8
  | .running _ _ | .sourceDispatch _ _ => 9
  | .queueStarted _ _ | .sourceInitial _ => 10
  | .queueAccepted _ _ => 11
  | .handle _ _ => 12
  | .validate _ => 13
  | .popped _ => 14

/-- How many steps a follow-up has before it. -/
def FollowUp.rank : FollowUp → Nat
  | .signalFailure _ => 6
  | _ => 7

/-- An open Work stream leaves its writer to be ended too. -/
def WorkReaderPc.rank : WorkReaderPc → Nat
  | .notStarted | .exited => 0
  | .lastTerminal _ | .lastSignal _ _ => 1
  | .finished _ _ => 2
  | .closing _ => 3
  | .terminal _ _ | .reading _ => 4
  | .signalSession _ _ _ => 5
  | .followUp _ todo => todo.rank
  | .handling _ _ => 8
  | .validating _ _ | .opening _ => 9
  | .blocked _ => 10

/-- How many steps the Work writer has before it. -/
def WorkWriterPc.rank : WorkWriterPc → Nat
  | .notStarted | .exited => 0
  | .signal _ _ | .loop _ => 1
  | .writing _ _ _ | .markReady _ => 2
  | .writingAttach _ _ _ => 3
  | .attach _ => 4

/-- How many steps the Control writer has before it. -/
def ControlWriterPc.rank : ControlWriterPc → Nat
  | .notStarted | .exited => 0
  | .loop _ | .signal _ _ | .terminal _ _ => 1
  | .gate _ => 2
  | .writing _ _ _ => 3

/-- How many steps a deactivation has before it, apart from the callbacks it makes. -/
def DeactivatePc.rank : DeactivatePc → Nat
  | .locked => 5
  | .waiting plan => plan.bindings.length + plan.streams.length + 4
  | .stopping remaining plan => remaining.length + plan.streams.length + 3
  | .clearing plan => plan.streams.length + 2
  | .notifying remaining => remaining.length + 1

/-- The grants the transaction goes through. -/
def Candidate.grants (cand : Candidate) : Nat := (cand.spec.capabilities.zip cand.bindings).length

/-- How many steps a transaction has before it, apart from its deactivations. -/
def ApplyPc.rank : ApplyPc → Nat
  | .begin cand => 2 * cand.grants + 14
  | .waiting cand => 2 * cand.grants + 13
  | .lock cand => 2 * cand.grants + 12
  | .checkSession cand => 2 * cand.grants + 11
  | .checkStop cand => 2 * cand.grants + 10
  | .deactivating cand at_ => at_.rank + (2 * cand.grants + 4)
  | .applying cand => 2 * cand.grants + 4
  | .starting _ remaining started _ => 2 * remaining.length + started.length + 3
  | .unwinding _ remaining _ _ _ => remaining.length + 2
  | .failing _ _ _ => 1
  | .committing _ started => started.length + 2
  | .staleUnwinding _ remaining => remaining.length + 1
  | .readying _ remaining => remaining.length + 6
  | .readyDeactivating _ _ at_ => at_.rank + 1
  | .readyFailing _ _ => 1
  | .finishing _ => 1

/-- The most grants a frame of the Host can bring in. -/
def HostControl.grants : HostControl → Nat
  | .instanceSpec spec => spec.capabilities.length
  | _ => 0

/-- A read that has not returned is worth nothing here: `System.reads` counts it. -/
def ControlReaderPc.rank : ControlReaderPc → Nat
  | .notStarted | .exited | .blocked _ => 0
  | .lastTerminal _ | .lastSignal _ _ => 1
  | .finished _ _ => 2
  | .closing _ => 3
  | .signal _ _ | .terminal _ _ | .remoteStop _ | .reading _ => 4
  | .queueing _ _ _ => 5
  | .opening _ => 6
  | .applying _ at_ => at_.rank + 5
  | .handling _ frame => 2 * frame.grants + 20
  | .validating _ response => 2 * response.frame.grants + 21

/-- How many steps the supervisor has before it. -/
def SupervisorPc.rank : SupervisorPc → Nat
  | .notStarted | .finished => 0
  | .reportLost | .endSession => 1
  | .enterLost _ => 2
  | .deactivating _ at_ _ => at_.rank + 2
  | .lostTerminal | .lostBudget | .registerFailed _ | .loop _ => 8
  | .install _ | .backOff _ => 9
  | .registerCall | .checkEpoch _ => 10
  | .register | .advance _ => 11
  | .checkTerminal _ _ => 12
  | .checkStop _ _ => 13
  | .clear _ => 14
  | .replaceNotify _ sources _ => sources.length + 15
  | .replaceError _ sources => sources.length + 16
  | .replaceRelease _ sources => sources.length + 17
  | .replaceWait _ sources => sources.length + 18
  | .replaceBegin _ => 19
  | .joinWork _ => 20
  | .joinControl _ => 21
  | .awaitFailure _ _ => 22
  | .awaitAttach _ _ => 23
  | .prepare _ => 30

/-- How many steps `Stop` has before it. -/
def StopPc.rank : StopPc → Nat
  | .idle => 0
  | .reset => 1
  | .deactivating at_ => at_.rank + 1
  | .lock => 7
  | .joinWorkers => 8
  | .joinSupervisor => 9

/-- The Control reader is in a read that may still return a frame. -/
def ControlReaderPc.awaits : ControlReaderPc → Bool
  | .blocked _ => true
  | _ => false

/-- The Control reads that may still return a frame. -/
def System.reads (s : System) : Nat := if s.controlReader.awaits then 1 else 0

/-- What all threads have left. -/
def System.weight (s : System) : Nat :=
  s.client.stock + (∑ i ∈ Finset.range s.dispatchThreads, (s.workers i).rank) +
    s.workReader.rank + s.workWriter.rank + s.controlReader.rank + s.controlWriter.rank +
    s.supervisor.rank + s.stopper.rank

/-- The pending reads come first: what they bring in does not count against them. -/
def System.burden (s : System) : ℕ ×ₗ ℕ := toLex (s.reads, s.weight)

-- ---------------------------------------------------------------------------
-- Workers
-- ---------------------------------------------------------------------------

theorem stock_of_same (hDispatch : c'.queues.dispatch = c.queues.dispatch)
    (hSources : c'.tables.sourceStreams = c.tables.sourceStreams)
    (hSpec : c'.spec.activeCapabilities = c.spec.activeCapabilities) : c'.stock = c.stock := by
  simp only [Client.stock, hDispatch, hSources, hSpec]

theorem stock_of_core (hCore : c'.core = c.core)
    (hSpec : c'.spec.activeCapabilities = c.spec.activeCapabilities) : c'.stock = c.stock :=
  stock_of_same (congrArg Core.dispatch hCore)
    (congrArg (fun k : Core => k.tables.sourceStreams) hCore) hSpec

theorem rank_afterSignal (job : DispatchJob) (after : AfterSignal) :
    (WorkerPc.afterSignal job after).rank ≤ 3 := by
  cases after <;> simp [WorkerPc.afterSignal, WorkerPc.rank]

/-- A worker that holds a job moves towards the end of it. -/
theorem rank_workerStep {pc pc' : WorkerPc} {input : WorkerInput} (hBusy : pc ≠ .idle)
    (h : workerStep env c pc input = some (pc', c')) : pc'.rank < pc.rank := by
  cases workerStep_branch h with
  | exit | pop => exact absurd rfl hBusy
  | commit hCommits | uncommitted hCommits => cases hCommits <;> simp [WorkerPc.rank]
  | @unheard _ job _ after =>
    have hRank := rank_afterSignal job after
    show (WorkerPc.afterSignal job after).rank < 5
    omega
  | @signalSession _ job _ _ after =>
    have hRank := rank_afterSignal job after
    show (WorkerPc.afterSignal job after).rank < 4
    omega
  | _ => simp [WorkerPc.rank]

theorem stock_recordStarted (job : DispatchJob) :
    (c.recordStarted job).stock = c.stock := by
  unfold Client.recordStarted
  split <;> rfl

theorem stock_recordReturned (result : HandlerResult) (job : DispatchJob) :
    (c.recordReturned result job).stock = c.stock := by
  unfold Client.recordReturned
  split <;> rfl

theorem stock_committed {job : DispatchJob} {frame : WorkFrame} {entry : ReplayEntry} :
    (c.committed env job frame entry).stock = c.stock := by
  exact stock_of_same rfl (Client.retainTerminal_sourceStreams job entry) rfl

/-- A worker that holds a job adds nothing to the stock. -/
theorem stock_workerStep {pc pc' : WorkerPc} {input : WorkerInput} (hBusy : pc ≠ .idle)
    (hStop : c.flags.stopRequested = true)
    (h : workerStep env c pc input = some (pc', c')) : c'.stock = c.stock := by
  have hSpec : c'.spec.activeCapabilities = c.spec.activeCapabilities :=
    congrArg (fun k : Helm => k.spec.activeCapabilities) (helm_workerStep h)
  cases workerStep_cases h with
  | exit | pop => exact absurd rfl hBusy
  | quiet _ _ hCore | leaveSource hCore => exact stock_of_core hCore hSpec
  | accept | leave => rfl
  | startOperation | startUnary | startSource => exact stock_recordStarted _
  | returnUnary | returnOperation | returnSource => exact stock_recordReturned _ _
  | commit => exact stock_committed
  | refuse _ _ _ hCommit hResult =>
    obtain ⟨hCommitted, -⟩ | ⟨-, hRefused⟩ := Client.commitTerminalFrame_cases hCommit
    · exact absurd hCommitted hResult
    · exact stock_of_core hRefused.core hSpec
  | erase hCore | finish hCore =>
    refine stock_of_same (congrArg Core.dispatch hCore) ?_ hSpec
    exact (congrArg (fun k : Core => k.tables.sourceStreams) hCore).trans
      (c.tables.releaseWorkToken_sourceStreams _)
  | commitSource hCommit =>
    -- with a stop requested the open is left to whoever drops the source
    obtain ⟨-, rfl, -⟩ | ⟨source, -, -, hLive, -⟩ := commitSourceOpen_cases hCommit
    · rfl
    · rw [hStop] at hLive
      cases hLive

/-- A turn of a worker lowers what it has left, jobs on the queue included. -/
theorem weight_workerStep {pc pc' : WorkerPc} {input : WorkerInput}
    (hStop : c.flags.stopRequested = true)
    (h : workerStep env c pc input = some (pc', c')) :
    c'.stock + pc'.rank < c.stock + pc.rank := by
  by_cases hIdle : pc = .idle
  · subst hIdle
    cases workerStep_branch h with
    | exit => simp [WorkerPc.rank]
    | pop hQueue =>
      -- the job leaves the stock and is what the worker has left
      simp only [Client.stock, Client.popped, hQueue, List.length_cons, WorkerPc.rank]
      omega
    | commit hCommits | uncommitted hCommits => cases hCommits
  · have hRank := rank_workerStep hIdle h
    have hStock := stock_workerStep hIdle hStop h
    omega

-- ---------------------------------------------------------------------------
-- Work stream
-- ---------------------------------------------------------------------------

theorem stock_setSource {streamId : Text} {source source' : SourceState}
    (h : c.tables.sourceStreams.lookup streamId = some source) :
    (c.setSource streamId source').stock = c.stock := by
  have hSize := Store.size_replace h source'
  show 14 * _ + Store.size (c.tables.sourceStreams.insert streamId source') + _ = _
  rw [hSize]
  rfl

theorem stock_closed {streamId digest : Text} {source : SourceState}
    {error : Option AdapterError}
    (h : c.tables.sourceStreams.lookup streamId = some source) :
    (c.closed env streamId source error digest).stock ≤ c.stock := by
  have hSize := Store.size_erase h
  show 14 * _ + Store.size (c.tables.sourceStreams.erase streamId) + _ ≤ c.stock
  simp only [Client.stock]
  show 14 * c.queues.dispatch.length + _ + Store.size c.spec.activeCapabilities ≤ _
  omega

/-- The Work reader admits nothing once a stop is requested. -/
theorem stock_workReaderStep {pc pc' : WorkReaderPc} {input : ReaderInput WorkResponse}
    (hAccepting : c.flags.acceptingWork = false)
    (h : workReaderStep env c pc input = some (pc', c')) : c'.stock ≤ c.stock := by
  have hSpec : c'.spec.activeCapabilities = c.spec.activeCapabilities :=
    congrArg (fun k : Helm => k.spec.activeCapabilities) (helm_workReaderStep h)
  cases workReaderStep_cases h with
  | quiet hCore | immediate _ _ hCore | answer hCore => exact le_of_eq (stock_of_core hCore hSpec)
  | report | replay | rejectSource | lateGrant | acknowledge | acknowledgeSource
  | cancelOpening => exact le_of_eq rfl
  | commit => exact le_of_eq stock_committed
  | accept _ hVerdict =>
    rw [(dispatchVerdict_accept hVerdict).2.2.1] at hAccepting
    cases hAccepting
  | admitSource _ hVerdict =>
    obtain ⟨-, -, -, hFresh⟩ := sourceOpenVerdict_fresh hVerdict (by simp) (by simp)
    rw [(validateWorkContext_ok (freshSourceVerdict_accept hFresh).1).1] at hAccepting
    cases hAccepting
  | retireSource hCore =>
    exact le_of_eq (stock_of_same (congrArg Core.dispatch hCore)
      (congrArg (fun k : Core => k.tables.sourceStreams) hCore) hSpec)
  | grant hActive => exact le_of_eq (stock_setSource hActive)
  | cancelRefused _ _ _ _ _ hRefused =>
    exact le_of_eq ((stock_of_core hRefused.core hSpec).trans rfl)
  | cancelOpened _ _ hActive => exact stock_closed hActive

theorem rank_followUp (todo : FollowUp) : todo.rank ≤ 7 := by
  cases todo <;> simp [FollowUp.rank]

theorem rank_followUpStep {fence : SessionFence} {todo : FollowUp} {pc' : WorkReaderPc}
    (h : followUpStep env c fence todo = (pc', c')) : pc'.rank < todo.rank := by
  cases followUpStep_branch h <;> simp [WorkReaderPc.rank, FollowUp.rank]

/-- Once a stop is requested the Work reader reads no further frame. -/
theorem rank_workReaderStep {pc pc' : WorkReaderPc} {input : ReaderInput WorkResponse}
    (hStop : c.flags.stopRequested = true)
    (h : workReaderStep env c pc input = some (pc', c')) :
    pc'.rank < pc.rank ∧ ∀ fence, pc = .opening fence → pc'.rank ≤ 4 := by
  cases workReaderStep_branch h with
  | awaitFrame hRuns | rejected hRuns | lost hRuns =>
    -- a stop ends the loop at its head
    rw [hStop] at hRuns
    cases hRuns
  | @handle _ _ _ todo =>
    have hRank := rank_followUp todo
    refine ⟨?_, by simp⟩
    show todo.rank < 8
    omega
  | followUp hFollow => exact ⟨rank_followUpStep hFollow, by simp⟩
  | _ => simp [WorkReaderPc.rank]

theorem rank_workWriterStep {pc pc' : WorkWriterPc} {input : WriterInput}
    (hStop : c.flags.stopRequested = true)
    (h : workWriterStep env c pc input = some (pc', c')) : pc'.rank < pc.rank := by
  cases workWriterStep_branch h with
  | dequeue hLive =>
    -- the pair of a client that stops is not live
    simp [Client.pairLive, hStop] at hLive
  | _ => simp [WorkWriterPc.rank]

theorem stock_workWriterStep {pc pc' : WorkWriterPc} {input : WriterInput}
    (h : workWriterStep env c pc input = some (pc', c')) : c'.stock = c.stock := by
  refine stock_of_core (core_workWriterStep h) ?_
  rw [spec_workWriterMove (workWriterStep_cases h)]

-- ---------------------------------------------------------------------------
-- Control stream
-- ---------------------------------------------------------------------------

theorem rank_afterControlWrite (fence : SessionFence) (frame : ControlFrame) :
    (afterControlWrite fence frame).rank ≤ 2 := by
  unfold afterControlWrite
  split
  · split
    · simp [ControlWriterPc.rank]
    · simp only
      split <;> simp [ControlWriterPc.rank]
  · simp [ControlWriterPc.rank]

theorem rank_controlWriterStep {pc pc' : ControlWriterPc} {input : WriterInput}
    (hStop : c.flags.stopRequested = true)
    (h : controlWriterStep env c pc input = some (pc', c')) : pc'.rank < pc.rank := by
  cases controlWriterStep_branch h with
  | dequeue hLive | heartbeat hLive =>
    -- the pair of a client that stops is not live
    simp [Client.pairLive, hStop] at hLive
  | @write fence _ frame =>
    have hRank := rank_afterControlWrite fence frame
    show (afterControlWrite fence frame).rank < 3
    omega
  | _ => simp [ControlWriterPc.rank]

theorem stock_controlWriterStep {pc pc' : ControlWriterPc} {input : WriterInput}
    (h : controlWriterStep env c pc input = some (pc', c')) : c'.stock = c.stock := by
  refine stock_of_core (core_controlWriterStep h) ?_
  rw [spec_controlWriterMove (controlWriterStep_cases h)]

theorem length_inKeyOrder {α : Type} (store : Store Text α) :
    (inKeyOrder store).length = Store.size store := by
  rw [inKeyOrder_eq, List.length_map, List.length_insertionSort]
  rfl

@[simp] theorem stock_callStop (binding : Nat) : (c.callStop env binding).stock = c.stock := by
  unfold Client.callStop
  split <;> rfl

@[simp] theorem stock_callClear : (c.callClear env).stock = c.stock := by
  unfold Client.callClear
  split <;> rfl

/-- `clear_instance_spec` is called only for a spec that was applied. -/
theorem stock_ite_callClear (applied : Bool) :
    (if applied then c.callClear env else c).stock = c.stock := by
  split
  · exact stock_callClear
  · rfl

@[simp] theorem stock_notifySourceClosed (source : SourceState) (error : AdapterError) :
    (c.notifySourceClosed env source error).stock = c.stock := by
  unfold Client.notifySourceClosed
  split <;> rfl

@[simp] theorem stock_signalSessionFailure (session reason : Text) :
    (c.signalSessionFailure session reason).stock = c.stock := by
  unfold Client.signalSessionFailure
  split <;> rfl

@[simp] theorem stock_signalTerminalSessionFailure (session reason : Text) :
    (c.signalTerminalSessionFailure session reason).stock = c.stock := by
  unfold Client.signalTerminalSessionFailure
  split <;> rfl

/-- A deactivation works off the capabilities and sources it took over. -/
theorem weight_deactivateStep {reason : Text} {at_ : DeactivatePc} {next : Option DeactivatePc}
    (h : deactivateStep env reason c at_ = some (next, c')) :
    c'.stock + next.elim 0 DeactivatePc.rank < c.stock + at_.rank := by
  cases deactivateStep_move h with
  | begin =>
    -- the locked section moves both tables into the plan
    simp only [deactivate, Option.elim_some, DeactivatePc.rank, Client.stock, List.length_map,
      length_inKeyOrder, Store.size_empty, Client.cancelAllWork]
    omega
  | waited =>
    simp only [Option.elim_some, DeactivatePc.rank, List.length_reverse]
    omega
  | stopped =>
    simp only [Option.elim_some, DeactivatePc.rank, List.length_nil]
    omega
  | stop =>
    simp only [Option.elim_some, DeactivatePc.rank, List.length_cons, stock_callStop]
    omega
  | clear =>
    rw [stock_ite_callClear]
    simp only [Option.elim_some, DeactivatePc.rank]
    omega
  | notify =>
    simp only [Option.elim_some, DeactivatePc.rank, List.length_cons, stock_notifySourceClosed]
    omega
  | finish => simp [DeactivatePc.rank]

/-- What the transaction has left after a step. -/
def ApplyNext.rank : ApplyNext → Nat
  | .inl next => next.rank
  | .inr _ => 0

theorem rank_nextStart {cand : Candidate} {remaining : List (EnabledCapability × Nat)}
    {started : List Nat} {error : Text} :
    (nextStart cand remaining started error).rank ≤ 2 * remaining.length + started.length + 3 := by
  unfold nextStart
  split <;> simp only [ApplyPc.rank, List.length_nil] <;> omega

/-- Once a stop is requested the transaction commits nothing, and every step of it brings its
return nearer. -/
theorem weight_applyMove {session : Text} {at_ : ApplyPc} {next : ApplyNext}
    (hStop : c.flags.stopRequested = true) (h : ApplyMove env session c at_ next c') :
    c'.stock + next.rank < c.stock + at_.rank := by
  cases h with
  -- neither `beginApply` nor the commit gets past a stop
  | begin hBegin =>
    simp only [beginApply, hStop, true_or, or_true, if_true] at hBegin
    cases hBegin
  | commit hCommit =>
    simp only [commitSpec, hStop, true_or, or_true, if_true] at hCommit
    cases hCommit
  | deactivate hStep | readyDeactivate hStep =>
    have hWeight := weight_deactivateStep hStep
    simp only [ApplyNext.rank, ApplyPc.rank, Option.elim_some] at hWeight ⊢
    omega
  | deactivated hStep | readyDeactivated hStep =>
    have hWeight := weight_deactivateStep hStep
    simp only [ApplyNext.rank, ApplyPc.rank, Option.elim_none] at hWeight ⊢
    omega
  -- the callbacks that go on to the next `start`
  | @skipApply cand =>
    have hRank := @rank_nextStart cand (cand.spec.capabilities.zip cand.bindings) [] []
    show c.stock + _ < _
    simp only [ApplyNext.rank, ApplyPc.rank, Candidate.grants, List.length_nil] at hRank ⊢
    omega
  | @applied cand error =>
    have hRank := @rank_nextStart cand (cand.spec.capabilities.zip cand.bindings) [] error
    show c.stock + _ < _
    simp only [ApplyNext.rank, ApplyPc.rank, Candidate.grants, List.length_nil] at hRank ⊢
    omega
  | @skipStart cand grant binding rest started error =>
    have hRank := @rank_nextStart cand rest (started ++ [binding]) error
    simp only [List.length_append, List.length_singleton] at hRank
    show c.stock + _ < c.stock + (2 * (rest.length + 1) + started.length + 3)
    simp only [ApplyNext.rank]
    omega
  | @started cand grant binding rest started _ error =>
    have hRank := @rank_nextStart cand rest (started ++ [binding]) error
    simp only [List.length_append, List.length_singleton] at hRank
    show c.stock + _ < c.stock + (2 * (rest.length + 1) + started.length + 3)
    simp only [ApplyNext.rank]
    omega
  -- the unwinding of a failed transaction
  | applyFailed =>
    rw [stock_callClear]
    show c.stock + 2 < c.stock + _
    simp only [ApplyPc.rank]
    omega
  | unwound =>
    rw [stock_ite_callClear]
    simp [ApplyNext.rank, ApplyPc.rank]
  | unwindStop | staleStop => simp [ApplyNext.rank, ApplyPc.rank]
  | staleUnwound =>
    show (c.callClear env).stock + 0 < c.stock + 1
    rw [stock_callClear]
    omega
  | finish =>
    show (finishApply c session _).stock + 0 < c.stock + 1
    unfold finishApply
    split
    · show c.stock + 0 < c.stock + 1
      omega
    · omega
  | stale hPc =>
    show c.stock + 0 < c.stock + _
    obtain rfl | rfl := hPc <;> simp only [ApplyPc.rank] <;> omega
  | answer | waited | lock | current | proceed | startFailed | startedAll | failed | outdated
  | skipReady | readied | readyFailed | readiedAll | readyFailure =>
    show c.stock + _ < _
    simp only [ApplyNext.rank, ApplyPc.rank, DeactivatePc.rank, List.length_cons, List.length_nil,
      List.length_reverse]
    omega

@[simp] theorem stock_queueControlLocked (frame : ControlFrame) :
    (c.queueControlLocked env frame).2.stock = c.stock := by
  refine stock_of_core (Client.core_queueControlLocked env c frame) ?_
  have hHelm := Client.helm_queueControlLocked
    (Prod.eta (c.queueControlLocked env frame)).symm
  exact congrArg (fun k : Helm => k.spec.activeCapabilities) hHelm

theorem stock_beginDrain : (c.beginDrain env).stock = c.stock := by
  refine stock_of_core (Client.core_beginDrain env c) ?_
  exact congrArg (fun k : Helm => k.spec.activeCapabilities) (c.helm_beginDrain env)

/-- Once a stop is requested the Control reader begins no further read. It lowers what is left
unless it leaves a read. -/
theorem weight_controlReaderStep {pc pc' : ControlReaderPc} {input : ReaderInput ControlResponse}
    (hStop : c.flags.stopRequested = true)
    (h : controlReaderStep env c pc input = some (pc', c')) :
    pc'.awaits = false ∧ (pc.awaits = true ∨ c'.stock + pc'.rank < c.stock + pc.rank) ∧
      ∀ fence, pc = .opening fence → c'.stock + pc'.rank ≤ c.stock + 4 := by
  cases controlReaderStep_branch h with
  -- opening: the stream is there, or the pair fails
  | opened => exact ⟨rfl, .inr (by show c.stock + 4 < c.stock + 6; omega), fun _ _ => le_refl _⟩
  | unopened =>
    rw [stock_signalSessionFailure]
    exact ⟨rfl, .inr (by show c.stock + 0 < c.stock + 6; omega),
      fun _ _ => by show c.stock + 0 ≤ c.stock + 4; omega⟩
  -- a stop ends the loop at its head
  | stopping => exact ⟨rfl, .inr (Nat.lt_succ_self _), by simp⟩
  | awaitFrame hRuns | rejected hRuns | lost hRuns =>
    rw [hStop] at hRuns
    cases hRuns
  -- waiting for a frame
  | oversize | received | readFailed => exact ⟨rfl, .inl rfl, by simp⟩
  -- a frame: its header, then its handling
  | @badHeader _ _ response =>
    refine ⟨rfl, .inr ?_, by simp⟩
    show c.stock + 4 < c.stock + (2 * response.frame.grants + 21)
    omega
  | @goodHeader _ _ response =>
    refine ⟨rfl, .inr ?_, by simp⟩
    show c.stock + (2 * response.frame.grants + 20) < c.stock + (2 * response.frame.grants + 21)
    omega
  | @badSpec _ _ spec =>
    refine ⟨rfl, .inr ?_, by simp⟩
    show c.stock + 5 < c.stock + (2 * spec.capabilities.length + 20)
    omega
  | @goodSpec _ _ spec bindings =>
    have hZip : (spec.capabilities.zip bindings).length ≤ spec.capabilities.length := by
      rw [List.length_zip]
      exact min_le_left _ _
    refine ⟨rfl, .inr ?_, by simp⟩
    show c.stock + (2 * (spec.capabilities.zip bindings).length + 14 + 5) <
      c.stock + (2 * spec.capabilities.length + 20)
    omega
  | ping =>
    refine ⟨rfl, .inr ?_, by simp⟩
    show c.stock + 5 < c.stock + 20
    omega
  | drain =>
    refine ⟨rfl, .inr ?_, by simp⟩
    rw [stock_beginDrain]
    show c.stock + 4 < c.stock + 20
    omega
  | stop =>
    refine ⟨rfl, .inr ?_, by simp⟩
    split
    · show c.stock + 4 < c.stock + 20
      omega
    · show c.stock + 4 < c.stock + 20
      omega
  | hostError | emptyFrame =>
    refine ⟨rfl, .inr ?_, by simp⟩
    show c.stock + 4 < c.stock + 20
    omega
  -- a transaction takes one step of its own weight
  | @apply _ _ _ next _ hMove =>
    have hWeight : c'.stock + next.rank < _ := weight_applyMove hStop hMove
    refine ⟨rfl, .inr ?_, by simp⟩
    simp only [ControlReaderPc.rank]
    omega
  | conclude hMove =>
    have hWeight : c'.stock + 0 < _ := weight_applyMove hStop hMove
    refine ⟨rfl, .inr ?_, by simp⟩
    simp only [queueSpecResult, ControlReaderPc.rank]
    omega
  -- an answer is queued or refused
  | @queued _ _ frame _ _ hQueue | @overflow _ _ frame _ _ hQueue =>
    have hStock : (c.queueControlLocked env frame).2.stock = c.stock :=
      stock_queueControlLocked frame
    rw [hQueue] at hStock
    refine ⟨rfl, .inr ?_, by simp⟩
    rw [show c'.stock = c.stock from hStock]
    exact Nat.lt_succ_self _
  | remoteStop | closed => exact ⟨rfl, .inr (Nat.lt_succ_self _), by simp⟩
  -- failing the pair or the session
  | signal | lastSignal =>
    rw [stock_signalSessionFailure]
    exact ⟨rfl, .inr (Nat.lt_succ_self _), by simp⟩
  | terminal | lastTerminal =>
    rw [stock_signalTerminalSessionFailure]
    exact ⟨rfl, .inr (Nat.lt_succ_self _), by simp⟩
  -- the loop is over, the reader exits
  | ended => exact ⟨rfl, .inr (by show c.stock + 0 < c.stock + 2; omega), by simp⟩

-- ---------------------------------------------------------------------------
-- Supervisor
-- ---------------------------------------------------------------------------

theorem stock_clearQueues : c.clearQueues.stock ≤ c.stock := by
  simp only [Client.stock, Client.clearQueues, List.length_nil]
  omega

theorem stock_releaseAllWorkTokens : c.releaseAllWorkTokens.stock = c.stock :=
  stock_of_same rfl c.tables.releaseAllWorkTokens_sourceStreams rfl

theorem stock_prepareConnectionPair (fence : SessionFence) :
    (c.prepareConnectionPair fence).stock ≤ c.stock := by
  have hTokens : (c.prepareConnectionPair fence).stock =
      c.clearSequences.clearQueues.releaseAllWorkTokens.stock := rfl
  rw [hTokens, stock_releaseAllWorkTokens]
  exact stock_clearQueues

theorem stock_clearConnectionState : c.clearConnectionState.stock ≤ c.stock := by
  have hTokens : c.clearConnectionState.stock = c.clearQueues.releaseAllWorkTokens.stock := rfl
  rw [hTokens, stock_releaseAllWorkTokens]
  exact stock_clearQueues

theorem stock_installSession (fence : SessionFence) :
    (c.installSession env fence).stock ≤ c.stock := by
  simp only [Client.stock, Client.installSession, List.length_nil, Store.size_empty]
  omega

theorem stock_endSupervision : (c.endSupervision env).stock = 0 := rfl

theorem stock_endStop : (c.endStop env).stock = 0 := by
  have hTokens : (c.endStop env).stock =
      { c.endSupervision env with queues :=
        { (c.endSupervision env).queues with dispatch := [] } }.releaseAllWorkTokens.stock := rfl
  rw [hTokens, stock_releaseAllWorkTokens]
  rfl

theorem stock_beginPairReplacement :
    c.beginPairReplacement.2.stock + c.beginPairReplacement.1.length ≤ c.stock := by
  simp only [Client.stock, Client.beginPairReplacement, Client.cancelAllWork, List.length_nil,
    Store.size_empty, length_inKeyOrder]
  omega

@[simp] theorem stock_advanceEpoch : c.advanceEpoch.stock = c.stock := by
  unfold Client.advanceEpoch
  split <;> rfl

/-- A deactivation the supervisor begins is less than what it leaves behind. -/
theorem SupervisorPc.Locks.rank {pc : SupervisorPc} {reason : Text} {after : AfterDeactivation}
    (h : pc.Locks c reason after) : 8 ≤ pc.rank := by
  cases h <;> simp [SupervisorPc.rank]

/-- Once a stop is requested the supervisor prepares no pair, and opens no Work stream. -/
theorem weight_supervisorStep {controlDone workDone : Bool} {pc pc' : SupervisorPc}
    {input : SupervisorInput} (hStop : c.flags.stopRequested = true)
    (h : supervisorStep env c controlDone workDone pc input = some (pc', c')) :
    c'.stock + pc'.rank < c.stock + pc.rank ∧
      (∀ r, pc = .prepare r → c'.stock + pc'.rank + 6 < c.stock + pc.rank) ∧
      ∀ r fence, pc = .awaitAttach r fence → pc'.phase = .running ∧ pc' = .joinControl r := by
  have hOver : ∀ fence, c.pairOver fence = true := by
    intro fence
    simp [Client.pairOver, hStop]
  have hNot : ∀ {flag : Bool}, c.flags.stopRequested = flag → flag = true := fun h => h ▸ hStop
  cases supervisorStep_branch h with
  -- a stop turns back what would go on
  | register _ hRunning | goOn hRunning | unstopped hRunning => cases hNot hRunning
  | attach hLive =>
    rw [hOver] at hLive
    cases hLive
  | enterLost hLost =>
    simp only [Client.enterSessionLost, hStop, if_true] at hLost
    cases hLost
  -- the two steps the bounds on `prepare` and `awaitAttach` are about
  | prepare =>
    refine ⟨?_, fun _ _ => ?_, by simp⟩
    · exact lt_of_le_of_lt (Nat.add_le_add_right (stock_prepareConnectionPair _) 23)
        (by simp [SupervisorPc.rank])
    · exact lt_of_le_of_lt (Nat.add_le_add_right (stock_prepareConnectionPair _) 29)
        (by simp [SupervisorPc.rank])
  | unattached =>
    refine ⟨by simp [SupervisorPc.rank], by simp, fun r fence hPc => ?_⟩
    cases hPc
    exact ⟨rfl, rfl⟩
  -- sections that empty or move the tables
  | @install fence =>
    have hStock := @stock_installSession env c fence
    refine ⟨?_, by simp, by simp⟩
    simp only [SupervisorPc.rank]
    omega
  | replaceBegin =>
    have hStock := @stock_beginPairReplacement c
    refine ⟨?_, by simp, by simp⟩
    show c.beginPairReplacement.2.stock + (c.beginPairReplacement.1.length + 18) < c.stock + 19
    omega
  | release =>
    rw [stock_releaseAllWorkTokens]
    exact ⟨by simp [SupervisorPc.rank], by simp, by simp⟩
  | clear =>
    have hStock := @stock_clearConnectionState c
    refine ⟨?_, by simp, by simp⟩
    simp only [SupervisorPc.rank]
    omega
  | advance =>
    rw [stock_advanceEpoch]
    exact ⟨by simp [SupervisorPc.rank], by simp, by simp⟩
  | endSession =>
    rw [stock_endSupervision]
    exact ⟨by show 0 + 0 < c.stock + 1; omega, by simp, by simp⟩
  -- the deactivation
  | @lock pc _ _ hLocks =>
    have hRank := hLocks.rank
    refine ⟨?_, ?_, ?_⟩
    · show c.stock + 7 < c.stock + pc.rank
      omega
    · rintro r rfl
      cases hLocks
    · rintro r fence rfl
      cases hLocks
  | deactivate hStep =>
    have hWeight := weight_deactivateStep hStep
    refine ⟨?_, by simp, by simp⟩
    simp only [SupervisorPc.rank, Option.elim_some] at hWeight ⊢
    omega
  | @deactivated _ at_ after c₁ hStep =>
    have hWeight := weight_deactivateStep hStep
    refine ⟨?_, by simp, by simp⟩
    show c₁.stock + _ < c.stock + (at_.rank + 2)
    rw [Option.elim_none] at hWeight
    cases after with
    | sessionLost reason =>
      show c₁.stock + 2 < _
      omega
    | stopped =>
      show c₁.stock + 1 < _
      omega
  | reportLost =>
    split
    · exact ⟨by show c.stock + 0 < c.stock + 1; omega, by simp, by simp⟩
    · exact ⟨by show c.stock + 0 < c.stock + 1; omega, by simp, by simp⟩
  -- elsewhere only the program counter moves, towards the end
  | refuse | unanswered | registered | giveUp | ended | joinControl | joinWork | replaceWait | error
  | notified | notify | terminal | spent | retry | epochLeft | backOff | alreadyLost =>
    exact ⟨by simp [SupervisorPc.rank], by simp, by simp⟩

-- ---------------------------------------------------------------------------
-- Every turn lowers the burden
-- ---------------------------------------------------------------------------

/-- The action is a turn of a thread of the client, and no call of the application. -/
def Action.isTurn : Action → Bool
  | .stopper | .worker _ _ | .workReader _ | .workWriter _ | .controlReader _ | .controlWriter _
  | .supervisor _ => true
  | .start | .startThreads | .startReturns _ | .stop | .publishSource _ _ | .closeSource _ _ =>
    false

theorem burden_lt_of_weight (hReads : s'.reads ≤ s.reads) (hWeight : s'.weight < s.weight) :
    s'.burden < s.burden := by
  rw [System.burden, System.burden, Prod.Lex.toLex_lt_toLex]
  rcases Nat.lt_or_eq_of_le hReads with hLt | hEq
  · exact .inl hLt
  · exact .inr ⟨hEq, hWeight⟩

theorem burden_le_of_weight (hReads : s'.reads = s.reads) (hWeight : s'.weight ≤ s.weight) :
    s'.burden ≤ s.burden := by
  rw [System.burden, System.burden, Prod.Lex.toLex_le_toLex]
  exact .inr ⟨hReads, hWeight⟩

theorem burden_worker {i : Nat} {input : WorkerInput} (hShape : Shape s)
    (hStop : s.client.flags.stopRequested = true) (h : s.workerAction env i input = some s') :
    s'.burden < s.burden := by
  obtain ⟨⟨pc', c'⟩, hStep, rfl⟩ := Option.map_eq_some_iff.mp h
  have hi : i < s.dispatchThreads := by
    by_contra hNot
    rw [hShape.occupancy.beyond i (Nat.not_lt.mp hNot)] at hStep
    cases input <;> cases hStep
  have hWeight := weight_workerStep hStop hStep
  have hSum := Occupancy.sum_setWorker (s := s) WorkerPc.rank hi pc'
  refine burden_lt_of_weight (le_refl _) ?_
  show c'.stock + (∑ j ∈ Finset.range s.dispatchThreads, ((s.setWorker i pc').workers j).rank) +
    s.workReader.rank + s.workWriter.rank + s.controlReader.rank + s.controlWriter.rank +
    s.supervisor.rank + s.stopper.rank < s.weight
  unfold System.weight
  omega

theorem burden_workReader {input : ReaderInput WorkResponse}
    (hStop : s.client.flags.stopRequested = true)
    (hAccepting : s.client.flags.acceptingWork = false)
    (h : s.workReaderAction env input = some s') : s'.burden < s.burden := by
  have hStep := workReaderStep_of_step (s := s) h
  have hStock := stock_workReaderStep hAccepting hStep
  obtain ⟨hRank, hOpening⟩ := rank_workReaderStep hStop hStep
  have hWriter : s'.workWriter.rank = s.workWriter.rank ∨
      ((∃ fence, s.workReader = .opening fence) ∧ s'.workWriter.rank = 4) := by
    unfold System.workReaderAction at h
    split at h
    · split at h
      · obtain ⟨r, -, rfl⟩ := Option.map_eq_some_iff.mp h
        exact .inl rfl
      · cases h
    · rename_i fence hPc
      obtain ⟨r, -, rfl⟩ := Option.map_eq_some_iff.mp h
      exact .inr ⟨⟨fence, hPc⟩, rfl⟩
    · obtain ⟨r, -, rfl⟩ := Option.map_eq_some_iff.mp h
      exact .inl rfl
  have hBoth : s'.workReader.rank + s'.workWriter.rank <
      s.workReader.rank + s.workWriter.rank := by
    rcases hWriter with hSame | ⟨⟨fence, hPc⟩, hAttach⟩
    · omega
    · have hReading := hOpening fence hPc
      have hNine : s.workReader.rank = 9 := by
        rw [hPc]
        rfl
      omega
  have hFrame := workReaderAction_frame h
  refine burden_lt_of_weight ?_ ?_
  · rw [hFrame]
    exact le_refl _
  · rw [hFrame]
    simp only [System.weight]
    omega

theorem burden_controlReader {input : ReaderInput ControlResponse}
    (hStop : s.client.flags.stopRequested = true)
    (h : s.controlReaderAction env input = some s') : s'.burden < s.burden := by
  have hStep := System.controlReaderAction_step h
  obtain ⟨hDone, hWeight, hOpening⟩ := weight_controlReaderStep hStop hStep
  have hReads : s'.reads = 0 := by simp [System.reads, hDone]
  rcases hWeight with hAwaits | hWeight
  · -- the read returns, and there is none after it
    rw [System.burden, System.burden, Prod.Lex.toLex_lt_toLex]
    refine .inl ?_
    show s'.reads < s.reads
    rw [hReads]
    simp [System.reads, hAwaits]
  · have hWriter : s'.controlWriter.rank = s.controlWriter.rank ∨
        ((∃ fence, s.controlReader = .opening fence) ∧ s'.controlWriter.rank = 1) := by
      unfold System.controlReaderAction at h
      split at h
      · split at h
        · obtain ⟨r, -, rfl⟩ := Option.map_eq_some_iff.mp h
          exact .inl rfl
        · cases h
      · rename_i fence hPc
        obtain ⟨r, -, rfl⟩ := Option.map_eq_some_iff.mp h
        exact .inr ⟨⟨fence, hPc⟩, rfl⟩
      · obtain ⟨r, -, rfl⟩ := Option.map_eq_some_iff.mp h
        exact .inl rfl
    have hBoth : s'.client.stock + s'.controlReader.rank + s'.controlWriter.rank <
        s.client.stock + s.controlReader.rank + s.controlWriter.rank := by
      rcases hWriter with hSame | ⟨⟨fence, hPc⟩, hLoop⟩
      · omega
      · have hReading := hOpening fence hPc
        have hSix : s.controlReader.rank = 6 := by
          rw [hPc]
          rfl
        omega
    have hFrame := controlReaderAction_frame h
    refine burden_lt_of_weight (by rw [hReads]; exact Nat.zero_le _) ?_
    rw [hFrame]
    simp only [System.weight]
    omega

theorem burden_supervisor {input : SupervisorInput} (hShape : Shape s)
    (hStop : s.client.flags.stopRequested = true)
    (h : s.supervisorAction env input = some s') : s'.burden < s.burden := by
  obtain ⟨⟨pc', c'⟩, hStep, rfl⟩ := Option.map_eq_some_iff.mp h
  obtain ⟨hWeight, hPrepare, hAttach⟩ := weight_supervisorStep hStop hStep
  show ({ s.spawn pc' with supervisor := pc', client := c' } : System).burden < s.burden
  unfold System.spawn
  split
  · -- the pair before has been joined, so that the new stream takes nobody's place
    rename_i r _ _ hPc
    have hSix := hPrepare r hPc
    have hNone : s.controlReader.fence? = none :=
      hShape.threads.controlReader (by rw [hPc]; rfl)
    have hReader : s.controlReader.rank = 0 ∧ s.controlReader.awaits = false := by
      cases hR : s.controlReader <;> rw [hR] at hNone <;> first | exact ⟨rfl, rfl⟩ | cases hNone
    refine burden_lt_of_weight ?_ ?_
    · simp [System.reads, ControlReaderPc.awaits]
    · simp only [System.weight, ControlReaderPc.rank, WorkReaderPc.rank]
      omega
  · rename_i r fence _ _ hPc
    obtain ⟨-, hEq⟩ := hAttach _ _ hPc
    cases hEq
  · refine burden_lt_of_weight (le_refl _) ?_
    simp only [System.weight]
    omega

theorem burden_stopper (h : s.stopperStep env = some s') : s'.burden < s.burden := by
  cases hStopper : s.stopper with
  | idle => simp [System.stopperStep, hStopper] at h
  | joinSupervisor =>
    simp only [System.stopperStep, hStopper] at h
    split at h <;> rename_i hSupervisor <;> cases h
    · refine burden_lt_of_weight (le_refl _) ?_
      simp only [System.weight, hStopper, hSupervisor, StopPc.rank]
      omega
    · refine burden_lt_of_weight (le_refl _) ?_
      simp only [System.weight, hStopper, hSupervisor, StopPc.rank, SupervisorPc.rank]
      omega
  | joinWorkers =>
    simp only [System.stopperStep, hStopper] at h
    split at h <;> cases h
    refine burden_lt_of_weight (le_refl _) ?_
    simp only [System.weight, hStopper, StopPc.rank, Finset.range_zero, Finset.sum_empty]
    omega
  | lock =>
    simp only [System.stopperStep, hStopper] at h
    split at h <;> cases h
    refine burden_lt_of_weight (le_refl _) ?_
    show s.client.stock + _ + _ + _ + _ + _ + _ + 6 < s.weight
    simp only [System.weight, hStopper, StopPc.rank]
    omega
  | deactivating at_ =>
    simp only [System.stopperStep, hStopper] at h
    split at h
    · cases h
    · rename_i next c' hStep
      cases h
      have hWeight := weight_deactivateStep hStep
      rw [Option.elim_some] at hWeight
      refine burden_lt_of_weight (le_refl _) ?_
      simp only [System.weight, hStopper, StopPc.rank]
      omega
    · rename_i c' hStep
      cases h
      have hWeight := weight_deactivateStep hStep
      rw [Option.elim_none] at hWeight
      refine burden_lt_of_weight (le_refl _) ?_
      show c'.stock + _ + _ + _ + _ + _ + _ + 1 < s.weight
      simp only [System.weight, hStopper, StopPc.rank]
      omega
  | reset =>
    simp only [System.stopperStep, hStopper] at h
    cases h
    refine burden_lt_of_weight (le_refl _) ?_
    show (s.client.endStop env).stock + _ + _ + _ + _ + _ + _ + 0 < s.weight
    rw [stock_endStop]
    simp only [System.weight, hStopper, StopPc.rank]
    omega

/-- Every turn of a thread lowers the burden while `Stop` is under way. -/
theorem burden_turn {a : Action} (hReach : (machine env).Reachable s) (hStopping : s.stopper ≠ .idle)
    (hTurn : a.isTurn = true) (hStep : s.step env a = some s') : s'.burden < s.burden := by
  have hShape := shape_of_reachable hReach
  have hSingle := single_of_reachable hReach
  have hStop := hSingle.stopping hStopping
  cases a with
  | start | startThreads | startReturns | stop | publishSource | closeSource => cases hTurn
  | stopper => exact burden_stopper hStep
  | worker i input => exact burden_worker hShape hStop hStep
  | workReader input => exact burden_workReader hStop (hSingle.halted hStop) hStep
  | controlReader input => exact burden_controlReader hStop hStep
  | supervisor input => exact burden_supervisor hShape hStop hStep
  | workWriter input =>
    obtain ⟨⟨pc', c'⟩, hWriter, rfl⟩ := Option.map_eq_some_iff.mp hStep
    have hRank := rank_workWriterStep hStop hWriter
    have hStock := stock_workWriterStep hWriter
    refine burden_lt_of_weight (le_refl _) ?_
    simp only [System.weight]
    omega
  | controlWriter input =>
    obtain ⟨⟨pc', c'⟩, hWriter, rfl⟩ := Option.map_eq_some_iff.mp hStep
    have hRank := rank_controlWriterStep hStop hWriter
    have hStock := stock_controlWriterStep hWriter
    refine burden_lt_of_weight (le_refl _) ?_
    simp only [System.weight]
    omega

/-- What the application calls in the meantime does not hold `Stop` up. -/
theorem burden_outside {a : Action} (hStopping : s.stopper ≠ .idle) (hTurn : a.isTurn = false)
    (hStep : s.step env a = some s') : s'.stopper ≠ .idle ∧ s'.burden ≤ s.burden := by
  cases a with
  | stopper | worker | workReader | workWriter | controlReader | controlWriter | supervisor =>
    cases hTurn
  | start =>
    simp only [System.step, System.startStep] at hStep
    split at hStep
    · split at hStep
      · cases hStep
      · split at hStep <;> cases hStep
        exact ⟨hStopping, le_refl _⟩
    · cases hStep
  | startThreads =>
    simp only [System.step, System.startThreadsStep] at hStep
    split at hStep
    · rename_i hIdle
      exact absurd hIdle hStopping
    · cases hStep
  | startReturns timeout =>
    simp only [System.step, System.startReturnsStep] at hStep
    split at hStep
    · rename_i hIdle
      exact absurd hIdle hStopping
    · cases hStep
  | stop =>
    simp only [System.step] at hStep
    cases hStep
  | publishSource streamId items =>
    cases hStep
    refine ⟨hStopping, burden_le_of_weight rfl ?_⟩
    have hStock : (publishSource env s.client streamId items).2.stock = s.client.stock := by
      obtain ⟨-, source, hPublishes, hEq⟩ | ⟨-, hRefused⟩ :=
        publishSource_cases (Prod.mk.eta (p := publishSource env s.client streamId items)).symm
      · rw [hEq]
        exact stock_setSource (c := s.client.queued env _ _) hPublishes.active
      · exact stock_of_core hRefused.core
          (congrArg (fun k : Surround => k.spec.activeCapabilities) hRefused.surround)
    simp only [System.weight]
    omega
  | closeSource streamId error =>
    cases hStep
    refine ⟨hStopping, burden_le_of_weight rfl ?_⟩
    have hStock : (closeSource env s.client streamId error).2.stock ≤ s.client.stock := by
      obtain ⟨-, source, digest, hActive, -, -, hEq⟩ | ⟨-, hRefused⟩ :=
        closeSource_cases (Prod.mk.eta (p := closeSource env s.client streamId error)).symm
      · rw [hEq]
        exact stock_closed hActive
      · exact le_of_eq (stock_of_core hRefused.core
          (congrArg (fun k : Surround => k.spec.activeCapabilities) hRefused.surround))
    simp only [System.weight]
    omega

end AdapterRuntime.Model
