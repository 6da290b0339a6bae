import Mathlib
import AdapterRuntime.Proof.Drain
import AdapterRuntime.Proof.Epochs
import AdapterRuntime.Proof.Outbound

/-!
# AdapterRuntime — the workers' counters and the drain report

`active_dispatch_jobs_` and `in_flight_work_` are incremented and decremented in
different branches of `DispatchLoop`. Both are exact: the first counts the
workers that hold a job, the second those among them that are past the entry of
a handler. What the other threads conclude from them is therefore right: a drain
is reported only when no job is left, and once per pair, and `WaitForCallbacks`
returns only when no handler runs.

* `Workload` — the invariant of `in_flight_work_`.
* `drain_report_sound` — the counters, the drain report and the wait.
-/

namespace AdapterRuntime.Model

open AdapterRuntime.Lib

variable {env : Env} {c c' : Client} {s s' : System}

-- ---------------------------------------------------------------------------
-- One step of a worker
-- ---------------------------------------------------------------------------

namespace WorkerPc

/-- The worker is between `++in_flight_work_` and its decrement. -/
def inHandler : WorkerPc → Bool
  | .handle _ _ | .inputReject _ | .queueAccepted _ _ | .queueStarted _ _ | .running _ _
  | .returnedUnary _ _ _ | .returnedOperation _ _ _ | .commit _ _ | .commitFallback _
  | .finish _ _ | .sourceInitial _ | .sourceDispatch _ _ | .sourceRunning _ _
  | .sourceReturned _ _ _ | .sourceCommit _ _ | .sourceNotify _ _ _ => true
  | .signal _ _ after | .signalSession _ _ _ after => after != .eraseToken
  | .sourceFinish _ dispatched => dispatched
  | _ => false

/-- What a worker contributes to `in_flight_work_`. -/
def flight (pc : WorkerPc) : Nat := if pc.inHandler then 1 else 0

/-- A signal does not change what is in flight. -/
theorem flight_afterSignal (job : DispatchJob) (reason session : Text) (after : AfterSignal) :
    (WorkerPc.afterSignal job after).flight = (WorkerPc.signal job reason after).flight ∧
      (WorkerPc.signalSession job session reason after).flight =
        (WorkerPc.signal job reason after).flight := by
  cases after <;> exact ⟨rfl, rfl⟩

/-- Only a job is in a handler. -/
theorem job_of_inHandler {pc : WorkerPc} (h : pc.inHandler = true) : pc.job?.isSome = true := by
  cases pc <;> first | rfl | cases h

/-- A worker in a handler carries a job. -/
theorem flight_le_load (pc : WorkerPc) : pc.flight ≤ pc.load := by
  unfold flight load
  by_cases h : pc.inHandler = true
  · rw [if_pos h, if_pos (job_of_inHandler h)]
  · rw [if_neg h]
    exact Nat.zero_le _

end WorkerPc

/-- What a step of a worker does to `in_flight_work_` and to the Control queue:
only a section that ends by looking for the end of a drain feeds the queue. -/
structure WorkerCounts (env : Env) (c : Client) (pc pc' : WorkerPc) (c' : Client) : Prop where
  flight : c'.queues.inFlightWork = c.queues.inFlightWork + pc'.flight - pc.flight
  report : c'.queues.control = c.queues.control ∨
    pc.job?.isSome = true ∧ ∃ c₁ : Client, c₁.flags = c.flags ∧
      c₁.queues.control = c.queues.control ∧ c' = c₁.maybeQueueDrainStatus env

namespace WorkerCounts

variable {pc pc' : WorkerPc}

/-- A section of the Work plane inside or outside of the handler. -/
theorem of_surround (h : c'.surround = c.surround) (hFlight : pc'.flight = pc.flight) :
    WorkerCounts env c pc pc' c' where
  flight := by
    have hSame : c'.queues.inFlightWork = c.queues.inFlightWork :=
      congrArg Surround.inFlightWork h
    omega
  report := .inl (congrArg Surround.control h)

/-- A section that ends by looking for the end of a drain. -/
theorem of_check (c₁ : Client) (hFlags : c₁.flags = c.flags)
    (hControl : c₁.queues.control = c.queues.control)
    (hFlight : c₁.queues.inFlightWork = c.queues.inFlightWork + pc'.flight - pc.flight)
    (hJob : pc.job?.isSome = true) :
    WorkerCounts env c pc pc' (c₁.maybeQueueDrainStatus env) where
  flight := (Client.Subsides.maybeQueueDrainStatus c₁ env).flight.trans hFlight
  report := .inr ⟨hJob, c₁, hFlags, hControl, rfl⟩

end WorkerCounts

/-- The counters after a step of a worker. -/
theorem workerCounts_of_step {pc pc' : WorkerPc} {input : WorkerInput}
    (h : workerStep env c pc input = some (pc', c')) : WorkerCounts env c pc pc' c' := by
  cases workerStep_branch h with
  | exit | skipSource | cancelled | uncancelled | refuseInput | toOperation | normalizeUnary
  | normalizeOperation | loseSource | findSource | cancelSource | normalizeSource =>
    exact .of_surround rfl rfl
  -- a job is taken, and past its validation it counts as in flight
  | pop | enterSource | invalid | valid | leave => exact ⟨rfl, .inl rfl⟩
  | startUnary | startSource => exact .of_surround (Client.surround_recordStarted _) rfl
  | returnUnary | returnOperation | returnSource =>
    exact .of_surround (Client.surround_recordReturned _ _) rfl
  | accepted hQueue | unaccepted hQueue | unstarted hQueue =>
    exact .of_surround (surround_queueWorkLocked hQueue) rfl
  | started hQueue =>
    exact .of_surround
      ((Client.surround_recordStarted _).trans (surround_queueWorkLocked hQueue)) rfl
  | commit hCommits hCommit | uncommitted hCommits hCommit =>
    have hSurround := surround_commitTerminalFrame hCommit
    cases hCommits <;> exact .of_surround hSurround rfl
  | tooLarge hCommit => exact .of_surround (surround_commitTerminalFrame hCommit) rfl
  -- a signal touches flags only, whichever way the worker goes on
  | @unheard _ job reason after =>
    exact .of_surround rfl (WorkerPc.flight_afterSignal job reason [] after).1
  | @signal _ job reason after =>
    exact .of_surround rfl (WorkerPc.flight_afterSignal job reason _ after).2
  | @signalSession _ job session reason after =>
    have hFlight := WorkerPc.flight_afterSignal job reason session after
    have hRest : c.Subsides (c.signalSessionFailure session reason) := .signalSessionFailure _ _
    refine ⟨?_, .inl ?_⟩
    · rw [hRest.flight, hFlight.1, hFlight.2]
      omega
    · unfold Client.signalSessionFailure
      split <;> rfl
  -- both counters drop in one section, which then looks for the end of a drain
  | eraseToken | finish => exact .of_check _ rfl rfl rfl rfl
  | @finishSource _ _ dispatched => cases dispatched <;> exact .of_check _ rfl rfl rfl rfl
  | settleSource hCommit | failSource hCommit | declineSource hCommit =>
    exact .of_surround (surround_commitSourceOpen hCommit) rfl
  | @notifySource _ _ source error =>
    have hRest : c.Subsides (c.notifySourceClosed env source error) := .notifySourceClosed _ _
    refine ⟨hRest.flight, .inl ?_⟩
    unfold Client.notifySourceClosed
    split <;> rfl

-- ---------------------------------------------------------------------------
-- The counter of the handlers
-- ---------------------------------------------------------------------------

/-- `in_flight_work_` counts the workers inside a handler section, and there are
no more workers than configured. -/
structure Workload (env : Env) (s : System) : Prop where
  flight : s.client.queues.inFlightWork =
    ∑ i ∈ Finset.range s.dispatchThreads, (s.workers i).flight
  threads : s.dispatchThreads ≤ env.config.dispatchWorkers

namespace Workload

/-- A step of another thread. -/
theorem of_quiet (h : Workload env s) (hWorkers : s'.workers = s.workers)
    (hThreads : s'.dispatchThreads = s.dispatchThreads)
    (hFlight : s'.client.queues.inFlightWork = s.client.queues.inFlightWork) :
    Workload env s' where
  flight := by
    rw [hFlight, hThreads, hWorkers]
    exact h.flight
  threads := hThreads ▸ h.threads

/-- A step that leaves no worker in a handler. -/
theorem of_none (hFlight : s'.client.queues.inFlightWork = 0)
    (hNone : ∀ i < s'.dispatchThreads, (s'.workers i).flight = 0)
    (hThreads : s'.dispatchThreads ≤ env.config.dispatchWorkers) : Workload env s' where
  flight := by
    rw [hFlight]
    exact (Finset.sum_eq_zero fun i hi => hNone i (Finset.mem_range.mp hi)).symm
  threads := hThreads

/-- The counters agree after a step of a worker. -/
theorem worker (h : Workload env s) (hShape : Shape s) {i : Nat} {input : WorkerInput}
    {pc' : WorkerPc} (hStep : workerStep env s.client (s.workers i) input = some (pc', c')) :
    Workload env { s.setWorker i pc' with client := c' } := by
  have hi : i < s.dispatchThreads := by
    by_contra hNot
    rw [hShape.occupancy.beyond i (Nat.not_lt.mp hNot)] at hStep
    cases input <;> cases hStep
  have hFlight := (workerCounts_of_step hStep).flight
  have hSum := Occupancy.sum_setWorker (s := s) WorkerPc.flight hi pc'
  have hBefore := h.flight
  have hOwn : (s.workers i).flight ≤ s.client.queues.inFlightWork := by
    rw [hBefore]
    exact Finset.single_le_sum (f := fun j => (s.workers j).flight) (fun _ _ => Nat.zero_le _)
      (Finset.mem_range.mpr hi)
  refine ⟨?_, h.threads⟩
  change c'.queues.inFlightWork =
    ∑ j ∈ Finset.range s.dispatchThreads, ((s.setWorker i pc').workers j).flight
  omega

/-- The counters agree after a step of the supervisor. -/
theorem supervisor (h : Workload env s) {input : SupervisorInput} {pc' : SupervisorPc}
    (hStep : supervisorStep env s.client s.controlReaderDone s.workReaderDone s.supervisor
      input = some (pc', c')) :
    Workload env { s.spawn pc' with supervisor := pc', client := c' } := by
  have hThreads : (s.spawn pc').dispatchThreads = s.dispatchThreads := by
    unfold System.spawn
    split <;> rfl
  refine h.of_quiet (workers_spawn pc') hThreads ?_
  change c'.queues.inFlightWork = s.client.queues.inFlightWork
  have hMove := supervisorStep_cases hStep
  generalize s.supervisor = pc at hMove
  cases hMove with
  | quiet _ hRest => exact hRest.flight
  | install | prepare | attach | ended | joinControl | joinWork | replaceBegin | replaceWait
  | release | clear | deactivate | endSession => rfl
  | advance =>
    unfold Client.advanceEpoch
    split <;> rfl

/-- The counters agree after a step of any thread. -/
theorem step {a : Action} (h : Workload env s) (hShape : Shape s)
    (hStep : s.step env a = some s') : Workload env s' := by
  -- without worker threads nobody is in a handler
  have hIdle : s.dispatchThreads = 0 → s.client.queues.inFlightWork = 0 := by
    intro hNone
    rw [h.flight, hNone, Finset.sum_range_zero]
  cases System.step_cases hStep with
  | worker hWorker => exact h.worker hShape hWorker
  | workReader hReader =>
    exact h.of_quiet rfl rfl (workReaderStep_cases hReader).subsides.flight
  | controlReader hReader => exact h.of_quiet rfl rfl (steady_controlReaderStep hReader).flight
  | workWriter hWriter => exact h.of_quiet rfl rfl (steady_workWriterStep hWriter).flight
  | controlWriter hWriter => exact h.of_quiet rfl rfl (steady_controlWriterStep hWriter).flight
  | supervisor hSupervisor => exact h.supervisor hSupervisor
  | publishSource => exact h.of_quiet rfl rfl subsides_publishSource.flight
  | closeSource => exact h.of_quiet rfl rfl subsides_closeSource.flight
  | flags _ hRest => exact h.of_quiet rfl rfl hRest.flight
  | startThreads hStopped =>
    simp only [System.fullyStopped, Bool.and_eq_true, beq_iff_eq] at hStopped
    refine .of_none (hIdle hStopped.1.2) ?_ (le_refl _)
    intro i hi
    simp only [hi, if_true]
    rfl
  | joinSupervisor => exact h.of_quiet rfl rfl rfl
  | joinWorkers _ hDone =>
    refine .of_none ?_ (fun _ _ => rfl) (Nat.zero_le _)
    rw [h.flight]
    refine Finset.sum_eq_zero fun i hi => ?_
    rw [hDone i (Finset.mem_range.mp hi)]
    rfl
  | stopDeactivate _ hDeactivate hNext =>
    have hFlight := (steady_deactivateStep hDeactivate).flight
    obtain ⟨_, -, -, rfl⟩ | ⟨-, -, rfl⟩ := hNext <;> exact h.of_quiet rfl rfl hFlight
  | stopReset => exact h.of_quiet rfl rfl rfl

end Workload

/-- The counters agree in every reachable state. -/
theorem workload_of_reachable (h : (machine env).Reachable s) : Workload env s := by
  refine Machine.Reachable.invariant (I := Workload env) ?_ ?_ h
  · exact ⟨rfl, Nat.zero_le _⟩
  · intro s a s' hReach hLoad hStep
    exact hLoad.step (shape_of_reachable hReach) hStep

/-- A sum of indicators over the workers counts them; there are none beyond the
threads that were created. -/
theorem ncard_workers (hShape : Shape s) (p : WorkerPc → Bool) (hIdle : p .notStarted = false) :
    {i | p (s.workers i) = true}.ncard =
      ∑ i ∈ Finset.range s.dispatchThreads, if p (s.workers i) then 1 else 0 := by
  have hSet : {i | p (s.workers i) = true} =
      ((Finset.range s.dispatchThreads).filter fun i => p (s.workers i) = true : Finset Nat) := by
    ext i
    simp only [Set.mem_ofPred_eq, Finset.coe_filter, Finset.mem_range]
    refine ⟨fun hBusy => ⟨?_, hBusy⟩, fun hBoth => hBoth.2⟩
    by_contra hNot
    rw [hShape.occupancy.beyond i (Nat.not_lt.mp hNot), hIdle] at hBusy
    cases hBusy
  rw [hSet, Set.ncard_coe_finset, Finset.card_filter]

-- ---------------------------------------------------------------------------
-- The report of a drain
-- ---------------------------------------------------------------------------

/-- The frame reports a drain as complete. -/
def ControlFrame.drained : ControlFrame → Bool
  | .drainStatus drained _ => drained
  | _ => false

/-- Between the two states a drained `DrainStatus` entered the Control queue. -/
def reportsDrain (s s' : System) : Bool :=
  match s'.client.queues.control.getLast? with
  | some frame =>
    frame.request.drained &&
      s'.client.queues.control.length == s.client.queues.control.length + 1
  | none => false

/-- A Control queue that does not grow reports nothing. -/
theorem reportsDrain_false_of_length
    (h : s'.client.queues.control.length ≤ s.client.queues.control.length) :
    reportsDrain s s' = false := by
  unfold reportsDrain
  split
  · have hNe : s'.client.queues.control.length ≠ s.client.queues.control.length + 1 := by omega
    simp [hNe]
  · rfl

/-- The section looks for the end of a drain: it leaves the queue alone, or it
finds no job left and queues the first report of the pair. -/
theorem maybeQueueDrainStatus_report (c : Client) :
    (c.maybeQueueDrainStatus env).queues.control = c.queues.control ∨
      (c.flags.drainReported = false ∧ (c.maybeQueueDrainStatus env).flags.drainReported = true ∧
        (c.maybeQueueDrainStatus env).idle = true) := by
  unfold Client.maybeQueueDrainStatus
  split
  · exact .inl rfl
  · rename_i hGuard
    simp only [not_or, not_not] at hGuard
    obtain ⟨-, hReported, hFlight, hActive, hDispatch, -⟩ := hGuard
    split
    · rename_i hQueue
      refine .inr ⟨by simpa using hReported, rfl, ?_⟩
      unfold Client.queueControlLocked at hQueue
      simp only at hQueue
      split at hQueue <;> cases hQueue
      exact Client.idle_iff.mpr ⟨hDispatch, hActive, hFlight⟩
    · rename_i hQueue
      left
      unfold Client.queueControlLocked at hQueue
      simp only at hQueue
      split at hQueue <;> cases hQueue
      split <;> rfl

/-- The Control reader never queues a report itself. -/
def ControlReaderPc.plain : ControlReaderPc → Bool
  | .queueing _ frame _ => !frame.drained
  | _ => true

theorem plain_controlReaderStep {pc pc' : ControlReaderPc} {input : ReaderInput ControlResponse}
    (h : controlReaderStep env c pc input = some (pc', c')) : pc'.plain = true := by
  cases controlReaderStep_branch h <;> rfl

theorem plain_of_reachable (h : (machine env).Reachable s) : s.controlReader.plain = true := by
  refine Machine.Reachable.invariant (I := fun s => s.controlReader.plain = true) rfl ?_ h
  intro s a s' _ hPlain hStep
  cases System.step_cases hStep with
  | controlReader hReader => exact plain_controlReaderStep hReader
  | @supervisor _ pc' _ _ =>
    change (s.spawn pc').controlReader.plain = true
    unfold System.spawn
    split
    · rfl
    · exact hPlain
    · exact hPlain
  | worker | workReader | workWriter | controlWriter | publishSource | closeSource | flags
  | startThreads | joinSupervisor | joinWorkers | stopDeactivate | stopReset => exact hPlain

/-- What a step of the Control reader does to the Control queue. -/
theorem control_controlReaderStep {pc pc' : ControlReaderPc}
    {input : ReaderInput ControlResponse} (h : controlReaderStep env c pc input = some (pc', c'))
    (hPlain : pc.plain = true) :
    c'.queues.control = c.queues.control ∨
      (∃ frame : QueuedControlFrame, frame.request.drained = false ∧
        c'.queues.control = c.queues.control ++ [frame]) ∨
      ∃ fence, pc = .handling fence .drain ∧ c' = c.beginDrain env := by
  have hSame : ∀ {c₁ : Client}, c₁.wire = c.wire → c₁.queues.control = c.queues.control :=
    fun hWire => congrArg Wire.control hWire
  cases controlReaderStep_branch h with
  | opened | stopping | awaitFrame | oversize | received | readFailed | badHeader | goodHeader
  | badSpec | goodSpec | ping | hostError | emptyFrame | remoteStop | closed | ended | rejected
  | lost => exact .inl rfl
  -- `BeginDrain` reports by itself
  | @drain _ fence => exact .inr (.inr ⟨fence, rfl, rfl⟩)
  | stop =>
    left
    split <;> rfl
  -- a transaction queues nothing before it has ended
  | apply hMove | conclude hMove => exact .inl (hSame (wire_applyMove hMove))
  | @queued _ _ frame _ _ hQueue =>
    -- the answer in hand is no drain report
    have hDrained : frame.drained = false := by simpa [ControlReaderPc.plain] using hPlain
    unfold Client.queueControlLocked at hQueue
    simp only at hQueue
    split at hQueue <;> cases hQueue
    exact .inr (.inl ⟨_, hDrained, rfl⟩)
  | overflow hQueue =>
    unfold Client.queueControlLocked at hQueue
    simp only at hQueue
    split at hQueue <;> cases hQueue
    left
    split <;> rfl
  -- the ways out of the loop
  | unopened | signal | lastSignal => exact .inl (hSame (c.wire_signalSessionFailure _ _))
  | terminal | lastTerminal => exact .inl (hSame (c.wire_signalTerminalSessionFailure _ _))

theorem control_of_surround (h : c'.surround = c.surround) :
    c'.queues.control = c.queues.control :=
  congrArg Surround.control h

theorem control_handleCancellation {cancellation : WorkCancellation} {sequence : Nat}
    {todo : FollowUp} (h : handleCancellation env c cancellation sequence = (todo, c')) :
    c'.queues.control = c.queues.control := by
  obtain ⟨source, streamId, -, -, -, hCases⟩ | ⟨-, workId, token, -, -, rfl⟩ | ⟨-, rfl⟩ :=
    handleCancellation_cases h
  · obtain ⟨-, -, rfl⟩ | ⟨-, -, hRefused⟩ | ⟨-, -, digest, rfl⟩ := hCases
    · rfl
    · exact (control_of_surround hRefused.surround).trans rfl
    · rfl
  · rfl
  · rfl

theorem control_handleWorkResponse {now : Int} {response : WorkResponse} {r : FollowUp ⊕ Text}
    (h : handleWorkResponse env c now response = (r, c')) :
    c'.queues.control = c.queues.control := by
  unfold handleWorkResponse at h
  simp only at h
  split at h <;> cases h
  · exact control_of_surround (surround_enqueueDispatch rfl)
  · exact control_of_surround (surround_enqueueDispatch rfl)
  · exact control_of_surround (surround_enqueueSourceOpen rfl)
  · exact control_of_surround (surround_grantSourceCredit rfl)
  · exact control_handleCancellation rfl
  · exact control_of_surround (surround_handleTerminalAcknowledgement rfl)
  · rfl
  · rfl

theorem control_followUpStep {fence : SessionFence} {todo : FollowUp} {pc' : WorkReaderPc}
    (h : followUpStep env c fence todo = (pc', c')) : c'.queues.control = c.queues.control := by
  cases followUpStep_branch h with
  | done | unheard | signal => rfl
  | reported hQueue | unreported hQueue | replayed hQueue | unreplayed hQueue =>
    exact control_of_surround (surround_queueWorkLocked hQueue)
  | answered hCommit | unanswered hCommit =>
    exact control_of_surround (surround_commitTerminalFrame hCommit)
  | notify => exact congrArg Wire.control (c.wire_notifySourceClosed _ _)

/-- The Work reader never touches the Control queue. -/
theorem control_workReaderStep {pc pc' : WorkReaderPc} {input : ReaderInput WorkResponse}
    (h : workReaderStep env c pc input = some (pc', c')) :
    c'.queues.control = c.queues.control := by
  cases workReaderStep_branch h with
  | opened | stopping | awaitFrame | oversize | received | readFailed | badHeader | goodHeader
  | closed | ended | rejected | lost => rfl
  | handle hHandle | hostError hHandle => exact control_handleWorkResponse hHandle
  | followUp hFollow => exact control_followUpStep hFollow
  | unopened | signalSession | lastSignal =>
    exact congrArg Wire.control (c.wire_signalSessionFailure _ _)
  | terminal | lastTerminal => exact congrArg Wire.control (c.wire_signalTerminalSessionFailure _ _)

-- ---------------------------------------------------------------------------
-- One report per pair
-- ---------------------------------------------------------------------------

/-- What a step that queues a drained status has found, and what it leaves. -/
structure ReportsOnce (s s' : System) : Prop where
  inPair : s.supervisor.phase ≠ .outside
  first : s.client.flags.drainReported = false
  reported : s'.client.flags.drainReported = true
  idle : s'.client.idle = true

/-- A report that was found by looking for the end of a drain. -/
theorem ReportsOnce.of_check (c₁ : Client) (hClient : s'.client = c₁.maybeQueueDrainStatus env)
    (hControl : c₁.queues.control = s.client.queues.control)
    (hFlag : c₁.flags.drainReported = s.client.flags.drainReported)
    (hPhase : s.supervisor.phase ≠ .outside) (hReport : reportsDrain s s' = true) :
    ReportsOnce s s' := by
  obtain hSame | ⟨hFirst, hReported, hIdle⟩ := @maybeQueueDrainStatus_report env c₁
  · rw [reportsDrain_false_of_length (by rw [hClient, hSame, hControl])] at hReport
    cases hReport
  · exact ⟨hPhase, hFlag ▸ hFirst, hClient ▸ hReported, hClient ▸ hIdle⟩

/-- A step that reports a drain reports it once, on an idle client. -/
theorem reportsOnce_of_step {a : Action} (hReach : (machine env).Reachable s)
    (hStep : (machine env).step s a = some s') (hReport : reportsDrain s s' = true) :
    ReportsOnce s s' := by
  have hShape := shape_of_reachable hReach
  have hNot : s'.client.queues.control.length ≤ s.client.queues.control.length →
      ReportsOnce s s' := by
    intro hLength
    rw [reportsDrain_false_of_length hLength] at hReport
    cases hReport
  cases System.step_cases hStep with
  | @worker i input pc' c' hWorker =>
    obtain hSame | ⟨hJob, c₁, hFlags, hControl, hClient⟩ := (workerCounts_of_step hWorker).report
    · exact hNot (Nat.le_of_eq (congrArg List.length hSame))
    · refine .of_check c₁ hClient hControl (by rw [hFlags]) ?_ hReport
      intro hPhase
      rw [hShape.occupancy.holds (by rw [hPhase]; rfl) i] at hJob
      cases hJob
  | workReader hReader =>
    exact hNot (Nat.le_of_eq (congrArg List.length (control_workReaderStep hReader)))
  | controlReader hReader =>
    obtain hSame | ⟨frame, hDrained, hPush⟩ | ⟨fence, hPc, hClient⟩ :=
      control_controlReaderStep hReader (plain_of_reachable hReach)
    · exact hNot (Nat.le_of_eq (congrArg List.length hSame))
    · -- another frame was queued
      simp [reportsDrain, hPush, hDrained] at hReport
    · refine .of_check s.client.closeForDrain hClient rfl rfl ?_ hReport
      intro hPhase
      have hFence := hShape.threads.controlReader (by rw [hPhase]; rfl)
      rw [hPc] at hFence
      cases hFence
  | workWriter hWriter =>
    refine hNot (Nat.le_of_eq (congrArg List.length ?_))
    have hWrite := workWrite_of_step hWriter
    generalize s.workWriter = pc at hWrite
    cases hWrite with
    | attach | attached | wrote => rfl
    | ready hWire | ended _ _ hWire | dequeue _ _ hWire => exact congrArg Wire.control hWire
  | controlWriter hWriter =>
    refine hNot ?_
    have hWrite := controlWrite_of_step hWriter
    generalize s.controlWriter = pc at hWrite
    cases hWrite with
    | wrote => exact le_refl _
    | quiet _ _ hWire | heartbeat _ hWire =>
      exact Nat.le_of_eq (congrArg List.length (congrArg Wire.control hWire))
    | dequeue _ hQueue hWire =>
      have hRest := congrArg Wire.control hWire
      simp only [Client.wire] at hRest
      rw [hRest, hQueue]
      exact Nat.le_succ _
  | supervisor hSupervisor =>
    refine hNot ?_
    obtain hWire | hReset := wire_supervisorStep hSupervisor
    · exact Nat.le_of_eq (congrArg List.length (congrArg Wire.control hWire))
    · generalize s.supervisor = pc at hReset
      cases hReset with
      | install | prepare | clear | endSession => exact Nat.zero_le _
      | advance =>
        unfold Client.advanceEpoch
        split <;> exact le_refl _
  | publishSource =>
    exact hNot (Nat.le_of_eq (congrArg List.length (control_of_surround surround_publishSource)))
  | closeSource =>
    exact hNot (Nat.le_of_eq (congrArg List.length (control_of_surround surround_closeSource)))
  | flags _ _ _ _ _ _ _ _ _ hClient =>
    obtain rfl | rfl | rfl := hClient <;> exact hNot (le_refl _)
  | startThreads | joinSupervisor | joinWorkers => exact hNot (le_refl _)
  | stopDeactivate _ hDeactivate hNext =>
    have hWire := congrArg Wire.control (wire_deactivateStep hDeactivate)
    obtain ⟨_, -, -, rfl⟩ | ⟨-, -, rfl⟩ := hNext <;>
      exact hNot (Nat.le_of_eq (congrArg List.length hWire))
  | stopReset => exact hNot (Nat.zero_le _)

/-- Inside a pair a report stays on record. -/
theorem reported_of_step {a : Action} (hReach : (machine env).Reachable s)
    (hStep : (machine env).step s a = some s') (hReported : s.client.flags.drainReported = true)
    (hPhase : s.supervisor.phase ≠ .outside) : s'.client.flags.drainReported = true := by
  have hShape := shape_of_reachable hReach
  have hRuns : s.supervisor ≠ .notStarted := by
    intro hPc
    rw [hPc] at hPhase
    exact hPhase rfl
  cases System.step_cases hStep with
  | worker hWorker =>
    have hRest := (workerStep_cases hWorker).subsides
    exact hRest.reported hReported
  | workReader hReader => exact (workReaderStep_cases hReader).subsides.reported hReported
  | controlReader hReader => exact (steady_controlReaderStep hReader).reported hReported
  | workWriter hWriter => exact (steady_workWriterStep hWriter).reported hReported
  | controlWriter hWriter => exact (steady_controlWriterStep hWriter).reported hReported
  | publishSource => exact subsides_publishSource.reported hReported
  | closeSource => exact subsides_closeSource.reported hReported
  | flags _ hRest => exact hRest.reported hReported
  | supervisor hSupervisor =>
    have hMove := supervisorStep_cases hSupervisor
    generalize s.supervisor = pc at hMove hPhase
    cases hMove with
    | quiet _ _ hOutside => exact absurd hOutside hPhase
    | install | prepare | clear | advance | deactivate | endSession => exact absurd rfl hPhase
    | attach | ended | joinControl | joinWork | replaceBegin | replaceWait | release =>
      exact hReported
  | startThreads hStopped => exact absurd (System.notStarted_of_fullyStopped hStopped) hRuns
  | joinSupervisor => exact hReported
  | joinWorkers => exact hReported
  | stopDeactivate hStopper | stopReset hStopper =>
    exact absurd (hShape.threads.stopper (by rw [hStopper]; rfl)) hRuns

/-- Only the opening of a pair leads into one. -/
theorem outside_of_step {a : Action} (hStep : (machine env).step s a = some s')
    (hPhase : s.supervisor.phase = .outside) (hOpens : s.opensPair a = false) :
    s'.supervisor.phase = .outside := by
  cases System.step_cases hStep with
  | @supervisor input pc' c' hSupervisor =>
    change pc'.phase = .outside
    have hMove := supervisorStep_cases hSupervisor
    generalize hPc : s.supervisor = pc at hMove hPhase
    cases hMove with
    | quiet _ _ _ hPhase' => exact hPhase'
    | ended hWas =>
      obtain rfl | rfl := hWas <;> cases hPhase
    | prepare =>
      cases input with
      | tick => simp [System.opensPair, SupervisorPc.opensPair, hPc] at hOpens
      | registered =>
        rw [hPc] at hSupervisor
        cases hSupervisor
    | install | clear | advance | deactivate | endSession => rfl
    | attach | joinControl | joinWork | replaceBegin | replaceWait | release => cases hPhase
  | startThreads | joinSupervisor => rfl
  | worker | workReader | controlReader | workWriter | controlWriter | publishSource
  | closeSource | flags | joinWorkers | stopDeactivate | stopReset => exact hPhase

/-- The drained statuses queued on the newest pair of a run that ends in `s`. -/
def drainReports : List (System × Action) → System → Nat
  | [], _ => 0
  | (s, a) :: steps, s' =>
    if s.opensPair a then 0
    else drainReports steps s + if reportsDrain s s' then 1 else 0

/-- At most one report, and it is on record as long as the pair lasts. -/
theorem drainReports_of_run {steps : List (System × Action)} (h : (machine env).Run steps s) :
    drainReports steps s ≤ 1 ∧
      (drainReports steps s = 1 →
        s.client.flags.drainReported = true ∨ s.supervisor.phase = .outside) := by
  refine Machine.Run.invariant (I := fun steps s => drainReports steps s ≤ 1 ∧
    (drainReports steps s = 1 →
      s.client.flags.drainReported = true ∨ s.supervisor.phase = .outside)) ?_ ?_ h
  · exact ⟨Nat.zero_le _, fun hOne => absurd hOne (by simp [drainReports])⟩
  · intro steps s a s' hRun ih hStep
    have hReach := hRun.reachable
    rw [drainReports]
    split
    · exact ⟨Nat.zero_le _, fun hOne => absurd hOne (by simp)⟩
    · rename_i hOpens
      cases hReport : reportsDrain s s' with
      | true =>
        have hOnce := reportsOnce_of_step hReach hStep hReport
        -- a first report of this pair
        have hNone : drainReports steps s = 0 := by
          by_contra hSome
          obtain hReported | hOutside := ih.2 (by omega)
          · rw [hOnce.first] at hReported
            cases hReported
          · exact hOnce.inPair hOutside
        rw [hNone]
        exact ⟨le_refl _, fun _ => .inl hOnce.reported⟩
      | false =>
        refine ⟨ih.1, fun hOne => ?_⟩
        by_cases hPhase : s.supervisor.phase = .outside
        · exact .inr (outside_of_step hStep hPhase (by simpa using hOpens))
        · exact .inl (reported_of_step hReach hStep ((ih.2 hOne).resolve_right hPhase) hPhase)

-- ---------------------------------------------------------------------------
-- Every run
-- ---------------------------------------------------------------------------

/-- **The counters are exact and the drain report is sound.** At every point of
every run, with any number of workers: `active_dispatch_jobs_` is the number of
workers that hold a job and `in_flight_work_` the number of those in a handler
section, so that no decrement runs below zero and neither exceeds the number of
workers; at most one drained status has been queued on the pair; the next step
queues one only if it leaves no job queued or held; and once the condition of
`WaitForCallbacks` holds no worker holds a job, so no handler runs. -/
theorem drain_report_sound {steps : List (System × Action)} (h : (machine env).Run steps s) :
    s.client.queues.activeDispatchJobs = {i | (s.workers i).job?.isSome = true}.ncard ∧
    s.client.queues.inFlightWork = {i | (s.workers i).inHandler = true}.ncard ∧
    (∀ i, (s.workers i).job?.isSome = true → 0 < s.client.queues.activeDispatchJobs) ∧
    (∀ i, (s.workers i).inHandler = true → 0 < s.client.queues.inFlightWork) ∧
    s.client.queues.activeDispatchJobs ≤ env.config.dispatchWorkers ∧
    s.client.queues.inFlightWork ≤ env.config.dispatchWorkers ∧
    drainReports steps s ≤ 1 ∧
    (∀ a s', (machine env).step s a = some s' → reportsDrain s s' = true →
      s'.client.queues.dispatch = [] ∧ ∀ i, (s'.workers i).job? = none) ∧
    (s.client.callbacksQuiet = true →
      ∀ i, (s.workers i).job? = none ∧ (s.workers i).inHandler = false) := by
  have hReach := h.reachable
  have hShape := shape_of_reachable hReach
  have hLoad := workload_of_reachable hReach
  have hBound : ∀ f : Nat → Nat, (∀ i, f i ≤ 1) →
      ∑ i ∈ Finset.range s.dispatchThreads, f i ≤ env.config.dispatchWorkers := by
    intro f hf
    -- each worker counts at most once
    calc ∑ i ∈ Finset.range s.dispatchThreads, f i
        ≤ ∑ _i ∈ Finset.range s.dispatchThreads, 1 := Finset.sum_le_sum fun i _ => hf i
      _ = s.dispatchThreads := by simp
      _ ≤ env.config.dispatchWorkers := hLoad.threads
  have hOne : ∀ pc : WorkerPc, pc.load ≤ 1 := by
    intro pc
    unfold WorkerPc.load
    split <;> omega
  -- a worker that has something to count is one of the threads
  have hThread : ∀ i, (s.workers i).job?.isSome = true → i ∈ Finset.range s.dispatchThreads := by
    intro i hJob
    rw [Finset.mem_range]
    by_contra hNot
    rw [hShape.occupancy.beyond i (Nat.not_lt.mp hNot)] at hJob
    cases hJob
  refine ⟨?_, ?_, ?_, ?_, ?_, ?_, (drainReports_of_run h).1, ?_, ?_⟩
  · -- the counters are sums over the workers, and so cardinalities
    rw [ncard_workers hShape (fun pc => pc.job?.isSome) rfl]
    exact hShape.occupancy.active
  · rw [ncard_workers hShape WorkerPc.inHandler rfl]
    exact hLoad.flight
  · -- a busy worker makes its sum positive
    intro i hJob
    rw [hShape.occupancy.active]
    refine Finset.sum_pos' (fun _ _ => Nat.zero_le _) ⟨i, hThread i hJob, ?_⟩
    simp [WorkerPc.load, hJob]
  · intro i hHandler
    rw [hLoad.flight]
    refine Finset.sum_pos' (fun _ _ => Nat.zero_le _)
      ⟨i, hThread i (WorkerPc.job_of_inHandler hHandler), ?_⟩
    simp [WorkerPc.flight, hHandler]
  · rw [hShape.occupancy.active]
    exact hBound _ fun i => hOne _
  · rw [hLoad.flight]
    exact hBound _ fun i => (WorkerPc.flight_le_load _).trans (hOne _)
  · intro a s' hStep hReport
    -- a report comes from an idle client
    have hIdle := Client.idle_iff.mp (reportsOnce_of_step hReach hStep hReport).idle
    have hShape' := shape_of_reachable (hReach.step hStep)
    exact ⟨hIdle.1, hShape'.occupancy.job_none_of_active hIdle.2.1⟩
  · intro hQuiet i
    -- quiet means that no worker holds a job, hence none is in a handler
    simp only [Client.callbacksQuiet, Bool.and_eq_true, beq_iff_eq] at hQuiet
    have hNone := hShape.occupancy.job_none_of_active hQuiet.2 i
    refine ⟨hNone, ?_⟩
    by_contra hHandler
    have hJob := WorkerPc.job_of_inHandler (by simpa using hHandler)
    rw [hNone] at hJob
    cases hJob

section Runs

open Deployment

/-- A drain is requested while a query runs; the worker's last section reports it. -/
theorem drain_report_sound_query :
    ∃ steps s, (machine deployment).Run steps s ∧ drainReports steps s = 1 ∧
      s.client.callbacksQuiet = true ∧ ∀ i, (s.workers i).job? = none := by
  obtain ⟨steps, s, hRun, hFound⟩ := Machine.exists_run_of_record (machine deployment)
    (bringUp ++ hostFrame 1 1 (unaryFrame "w") ++ runQuery 0 ++ receiveDrain 1 2 ++ worker 0 2)
    (fun steps s => drainReports steps s == 1 && s.client.callbacksQuiet) (by decide +kernel)
  simp only [Bool.and_eq_true, beq_iff_eq] at hFound
  obtain ⟨-, -, -, -, -, -, -, -, hWaited⟩ := drain_report_sound hRun
  exact ⟨steps, s, hRun, hFound.1, hFound.2, fun i => (hWaited hFound.2 i).1⟩

end Runs

end AdapterRuntime.Model
