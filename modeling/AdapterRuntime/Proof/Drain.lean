import AdapterRuntime.Proof.Opening
import AdapterRuntime.Proof.Invocations

/-!
# AdapterRuntime — the end of a drain

A drain is reported by whichever section finds the last job gone. Some of those
sections look before they count the job out, and all of them look only once, so
a report can be missed.

* `drain_completion` — in every run in which the section that leaves a drain
  without Work looks for its end, and finds room for the report, no drain is
  left unreported.
* `drain_missed` — the last job is a cancelled one, and the drain is never
  reported.
-/

namespace AdapterRuntime.Model

open AdapterRuntime.Lib

variable {env : Env} {c c' : Client} {s s' : System}

namespace Client

/-- A drain of a live pair has been requested and not reported. -/
def drainDue (c : Client) : Bool :=
  c.flags.drainRequested && !c.flags.drainReported && !c.flags.sessionFailed &&
    !c.flags.stopRequested

/-- No job is queued, held by a worker or in a handler. -/
def idle (c : Client) : Bool :=
  c.queues.dispatch.isEmpty && c.queues.activeDispatchJobs == 0 && c.queues.inFlightWork == 0

theorem drainDue_iff : c.drainDue = true ↔ c.flags.drainRequested = true ∧
    c.flags.drainReported = false ∧ c.flags.sessionFailed = false ∧
    c.flags.stopRequested = false := by
  simp [drainDue, and_assoc]

theorem idle_iff : c.idle = true ↔ c.queues.dispatch = [] ∧
    c.queues.activeDispatchJobs = 0 ∧ c.queues.inFlightWork = 0 := by
  simp [idle, and_assoc]

end Client

-- ---------------------------------------------------------------------------
-- The sections that can end a drain
-- ---------------------------------------------------------------------------

/-- The flags `BeginDrain` sets before it looks for the end of the drain. -/
def Client.closeForDrain (c : Client) : Client :=
  { c with flags := { c.flags with
      state := match c.flags.state with
        | .ready | .applyingSpec => .draining
        | state => state
      acceptingWork := false
      drainRequested := true } }

/-- The client after a worker has counted its job out, and whether the section
then looks for the end of a drain. -/
def WorkerPc.countOut? (c : Client) : WorkerPc → Option (Bool × Client)
  | .leave _ => some (false, c.leaveJob)
  | .finish job _ => some (true, (c.leaveHandler.leaveJob).releaseWorkToken job.workId)
  | .sourceFinish _ dispatched =>
    some (true, (if dispatched then c.leaveHandler else c).leaveJob)
  | _ => none

/-- A section that counts a job out or begins a drain: whether it looks for the
end of the drain afterwards, and the client it then finds. -/
def System.drainCheck (s : System) : Action → Option (Bool × Client)
  | .worker i _ => (s.workers i).countOut? s.client
  | .controlReader _ =>
    match s.controlReader with
    | .handling _ .drain => some (true, s.client.closeForDrain)
    | _ => none
  | _ => none

/-- A section after which a drain is due and no Work is left looks for the end
of the drain, and finds room for the report. -/
def System.drainChecked (env : Env) (s : System) (a : Action) : Bool :=
  match s.drainCheck a with
  | some (checked, c) =>
    !(c.drainDue && c.idle) ||
      (checked && decide (c.queues.control.length < env.config.maximumControlQueue))
  | none => true

/-- In a checked run a section that leaves a due drain without Work looks for its end, and
finds room. -/
theorem System.drainChecked_some {a : Action} {checked : Bool}
    (hSafe : s.drainChecked env a = true) (hCheck : s.drainCheck a = some (checked, c))
    (hDue : c.drainDue = true) (hIdle : c.idle = true) :
    checked = true ∧ c.queues.control.length < env.config.maximumControlQueue := by
  simpa [drainChecked, hCheck, hDue, hIdle] using hSafe

/-- A look at the end of a drain that finds room for the report. -/
theorem not_idle_maybeQueueDrainStatus
    (hRoom : c.drainDue = true → c.idle = true →
      c.queues.control.length < env.config.maximumControlQueue)
    (hDue : (c.maybeQueueDrainStatus env).drainDue = true) :
    (c.maybeQueueDrainStatus env).idle = false := by
  unfold Client.maybeQueueDrainStatus at hDue ⊢
  split at hDue
  · rename_i hGuard
    rw [if_pos hGuard]
    by_contra hNot
    have hIdle : c.idle = true := by simpa using hNot
    have hLength := hRoom hDue hIdle
    obtain ⟨hRequested, hReported, -, -⟩ := Client.drainDue_iff.mp hDue
    obtain ⟨hDispatch, hActive, hFlight⟩ := Client.idle_iff.mp hIdle
    simp only [hRequested, hReported, hDispatch, hActive, hFlight] at hGuard
    simp at hGuard
    omega
  · rename_i hGuard
    split at hDue
    · simp [Client.drainDue] at hDue
    · simp [Client.drainDue, Client.cancelAllWork] at hDue

-- ---------------------------------------------------------------------------
-- What the threads leave of a drain
-- ---------------------------------------------------------------------------

/-- A drain that is due after a step that requests none was due before it. -/
theorem Client.Steady.drainDue (h : c.Steady c')
    (hDrain : c'.flags.drainRequested = c.flags.drainRequested) (hDue : c'.drainDue = true) :
    c.drainDue = true := by
  obtain ⟨hRequested, hReported, hFailed, hStopped⟩ := Client.drainDue_iff.mp hDue
  refine Client.drainDue_iff.mpr ⟨hDrain ▸ hRequested, ?_, ?_, ?_⟩
  · by_contra hNot
    rw [h.reported (by simpa using hNot)] at hReported
    cases hReported
  · by_contra hNot
    rw [h.failed (by simpa using hNot)] at hFailed
    cases hFailed
  · by_contra hNot
    rw [h.stopped (by simpa using hNot)] at hStopped
    cases hStopped

/-- The transaction does not touch the progress of its pair. -/
theorem ApplyMove.progress {session : Text} {at_ : ApplyPc} {next : ApplyNext}
    (h : ApplyMove env session c at_ next c') : c'.flags.progress = c.flags.progress := by
  cases h with
  | begin hBegin =>
    obtain ⟨-, -, -, -, rfl⟩ := beginApply_inr hBegin
    rfl
  | deactivate hStep | deactivated hStep | readyDeactivate hStep | readyDeactivated hStep =>
    exact progress_deactivateStep hStep
  | commit hCommit =>
    unfold commitSpec at hCommit
    split at hCommit <;> cases hCommit
    rfl
  | unwindStop | staleStop => exact congrArg Flags.progress (flags_callStop _)
  | staleUnwound => exact congrArg Flags.progress flags_callClear
  | unwound =>
    split
    · exact congrArg Flags.progress flags_callClear
    · rfl
  | applyFailed => exact congrArg Flags.progress flags_callClear
  | finish =>
    show (finishApply c session _).flags.progress = _
    unfold finishApply
    split <;> rfl
  | answer | stale | waited | lock | current | proceed | skipApply | applied | skipStart | started
  | startFailed | startedAll | failed | outdated | skipReady | readied | readyFailed | readiedAll
  | readyFailure => rfl

/-- Of the Control reader's steps only the handling of a drain frame requests a drain. -/
theorem ControlReaderMove.progress {pc pc' : ControlReaderPc}
    (h : ControlReaderMove env c pc pc' c') :
    c'.flags.progress = c.flags.progress ∨
      ∃ fence, pc = .handling fence .drain ∧ c' = c.beginDrain env := by
  cases h with
  | calm hHelm => exact .inl (Client.progress_of_helm hHelm)
  | drain => exact .inr ⟨_, rfl, rfl⟩
  | refuse | receive => exact .inl rfl
  | apply hMove | conclude hMove => exact .inl hMove.progress
  | queue hQueue | overflow hQueue =>
    have hHelm := Client.helm_queueControlLocked hQueue
    exact .inl (congrArg (fun k : Helm => (k.pairReady, k.draining)) hHelm)
  | signal => exact .inl (Client.progress_of_helm (Client.helm_signalSessionFailure _ _))

theorem ControlWriterMove.progress {pc pc' : ControlWriterPc}
    (h : ControlWriterMove env c pc pc' c') : c'.flags.progress = c.flags.progress := by
  cases h with
  | exit | write | lose => rfl
  | dequeue hHelm => exact (congrArg (fun k : Helm => (k.pairReady, k.draining)) hHelm).symm
  | heartbeat _ hHelm => exact Client.progress_of_helm hHelm
  | gate =>
    unfold Client.openAttachGate
    split <;> rfl
  | signal => exact Client.progress_of_helm (Client.helm_signalSessionFailure _ _)
  | terminal => exact Client.progress_of_helm (Client.helm_signalTerminalSessionFailure _ _)

theorem WorkWriterMove.draining {pc pc' : WorkWriterPc} (h : WorkWriterMove env c pc pc' c') :
    c'.flags.drainRequested = c.flags.drainRequested := by
  cases h with
  | calm hHelm | attach _ _ hHelm => exact congrArg Helm.draining hHelm
  | attached | write => rfl
  | ready =>
    unfold Client.markReady
    split <;> rfl

/-- A worker that is left without a job has counted it out, or had none. -/
theorem workerStep_countOut {pc pc' : WorkerPc} {input : WorkerInput}
    (h : workerStep env c pc input = some (pc', c')) (hJob' : pc'.job? = none) :
    c' = c ∨ ∃ checked c₁, pc.countOut? c = some (checked, c₁) ∧
      c' = if checked then c₁.maybeQueueDrainStatus env else c₁ := by
  cases workerStep_branch h with
  | exit => exact .inl rfl
  | leave => exact .inr ⟨false, _, rfl, rfl⟩
  | finish | finishSource => exact .inr ⟨true, _, rfl, rfl⟩
  -- every other branch goes on with the job
  | commit hCommits => cases hCommits <;> cases hJob'
  | @unheard _ _ _ after | @signalSession _ _ _ _ after => cases after <;> cases hJob'
  | _ => cases hJob'

-- ---------------------------------------------------------------------------
-- The invariant
-- ---------------------------------------------------------------------------

/-- A section that leaves the client as `drainCheck` says. -/
theorem not_idle_of_check (c : Client) {a : Action} (checked : Bool)
    (hSafe : s.drainChecked env a = true)
    (hCheck : s.drainCheck a = some (checked, c))
    (hClient : c' = if checked then c.maybeQueueDrainStatus env else c)
    (hDue : c'.drainDue = true) : c'.idle = false := by
  have hRoom := System.drainChecked_some hSafe hCheck
  cases checked with
  | true =>
    simp only [if_true] at hClient
    subst hClient
    exact not_idle_maybeQueueDrainStatus (fun hDue hIdle => (hRoom hDue hIdle).2) hDue
  | false =>
    simp only [Bool.false_eq_true, if_false] at hClient
    subst hClient
    by_contra hNot
    cases (hRoom hDue (by simpa using hNot)).1

/-- A step that touches neither the drain nor the jobs. -/
theorem not_idle_of_steady (h : c.drainDue = true → c.idle = false) (hSteady : c.Steady c')
    (hDrain : c'.flags.drainRequested = c.flags.drainRequested)
    (hDispatch : c'.queues.dispatch = c.queues.dispatch ∨ c'.queues.dispatch ≠ [])
    (hDue : c'.drainDue = true) : c'.idle = false := by
  by_contra hNot
  obtain ⟨hEmpty, hNone, hFlight⟩ := Client.idle_iff.mp (by simpa using hNot)
  have hSame := hDispatch.resolve_right (not_not_intro hEmpty)
  have hIdle : c.idle = true := Client.idle_iff.mpr
    ⟨hSame ▸ hEmpty, hSteady.active ▸ hNone, hSteady.flight ▸ hFlight⟩
  rw [h (hSteady.drainDue hDrain hDue)] at hIdle
  cases hIdle

/-- A drain that is due belongs to a pair the supervisor waits on. -/
theorem SupervisorPc.Lives.waits_of_due {pc : SupervisorPc} (h : pc.Lives c)
    (hDue : c.drainDue = true) : pc.waits = true := by
  obtain ⟨hRequested, -, hFailed, hStopped⟩ := Client.drainDue_iff.mp hDue
  obtain hWaits | hRetires := h.draining hRequested
  · exact hWaits
  · have hOver := h.retires hRetires
    simp [hFailed, hStopped] at hOver

/-- The supervisor enters the wait on a pair with a new pair, or leaves the client alone. -/
theorem supervisorStep_waits {controlDone workDone : Bool} {pc pc' : SupervisorPc}
    {input : SupervisorInput}
    (h : supervisorStep env c controlDone workDone pc input = some (pc', c'))
    (hWaits : pc'.waits = true) : c' = c ∨ c'.flags.drainRequested = false := by
  cases supervisorStep_cases h with
  | prepare => exact .inr rfl
  | attach => exact .inl rfl
  | quiet _ _ _ hPhase' =>
    cases pc' <;> simp_all [SupervisorPc.waits, SupervisorPc.phase]
  | install | ended | joinControl | joinWork | replaceBegin | replaceWait | release | clear
  | advance | deactivate | endSession => cases hWaits

/-- Every checked step keeps a due drain busy. -/
theorem not_idle_step {a : Action} (hReach : (machine env).Reachable s)
    (h : s.client.drainDue = true → s.client.idle = false)
    (hSafe : s.drainChecked env a = true) (hStep : (machine env).step s a = some s')
    (hDue : s'.client.drainDue = true) : s'.client.idle = false := by
  have hShape := shape_of_reachable hReach
  have hShape' := shape_of_reachable (hReach.step hStep)
  have hWaits := (lives_of_reachable (hReach.step hStep)).waits_of_due hDue
  -- `Stop` is past the supervisor only when there is no pair
  have hGone : s'.supervisor = .notStarted → s'.client.idle = false := by
    intro hPc
    rw [hPc] at hWaits
    cases hWaits
  cases System.step_cases hStep with
  | @worker i input pc' c' hWorker =>
    by_cases hJob : pc'.job? = none
    · -- it did not give up its count, or looked for the end of the drain itself
      obtain hSame | ⟨checked, c₁, hCount, hClient⟩ := workerStep_countOut hWorker hJob
      · rw [hSame] at hDue ⊢
        exact h hDue
      · exact not_idle_of_check _ _ hSafe hCount hClient hDue
    · -- the worker still holds a job, and the job is counted
      by_contra hNot
      obtain ⟨-, hActive, -⟩ := Client.idle_iff.mp (by simpa using hNot)
      have hNone := hShape'.occupancy.job_none_of_active hActive i
      exact hJob (by simpa [System.setWorker] using hNone)
  | workReader hReader =>
    have hMove := workReaderStep_cases hReader
    refine not_idle_of_steady h hMove.subsides.steady
      (congrArg Helm.draining (helm_workReaderStep hReader)) ?_ hDue
    -- an admitted job makes the client busy
    obtain hSame | ⟨job, reservation, -, -, rfl, -⟩ | ⟨job, _, _, _, _, -, -, rfl⟩ :=
      hMove.dispatch
    · exact .inl hSame
    · exact .inr (by simp [Client.admitDispatch])
    · exact .inr (by simp [Client.admitSource])
  | controlReader hReader =>
    -- `BeginDrain` looks for the end itself
    obtain hSame | ⟨fence, hPc, hClient⟩ := (controlReaderStep_cases hReader).progress
    · refine not_idle_of_steady h (steady_controlReaderStep hReader) (congrArg Prod.snd hSame)
        (.inl ?_) hDue
      obtain hCore | ⟨-, hCore⟩ := core_controlReaderStep hReader <;>
        exact congrArg Core.dispatch hCore
    · refine not_idle_of_check s.client.closeForDrain true hSafe ?_ hClient hDue
      simp [System.drainCheck, hPc]
  | controlWriter hWriter =>
    exact not_idle_of_steady h (steady_controlWriterStep hWriter)
      (congrArg Prod.snd (controlWriterStep_cases hWriter).progress)
      (.inl (congrArg Core.dispatch (core_controlWriterStep hWriter))) hDue
  | workWriter hWriter =>
    exact not_idle_of_steady h (steady_workWriterStep hWriter)
      (workWriterStep_cases hWriter).draining
      (.inl (congrArg Core.dispatch (core_workWriterStep hWriter))) hDue
  | supervisor hSupervisor =>
    -- a new pair is not draining
    obtain hSame | hNone := supervisorStep_waits hSupervisor hWaits
    · rw [hSame] at hDue ⊢
      exact h hDue
    · rw [(Client.drainDue_iff.mp hDue).1] at hNone
      cases hNone
  | publishSource =>
    exact not_idle_of_steady h subsides_publishSource.steady
      (congrArg (fun k : Surround => k.flags.drainRequested) surround_publishSource)
      (.inl tokens_publishSource.2) hDue
  | closeSource =>
    exact not_idle_of_steady h subsides_closeSource.steady
      (congrArg (fun k : Surround => k.flags.drainRequested) surround_closeSource)
      (.inl tokens_closeSource.2) hDue
  -- the rest leaves the counters and the queue alone
  | flags hCore hRest _ _ _ _ hHelm =>
    exact not_idle_of_steady h hRest.steady (congrArg Helm.draining hHelm)
      (.inl (congrArg Core.dispatch hCore)) hDue
  | startThreads => cases hWaits
  | joinSupervisor => cases hWaits
  | joinWorkers hStopper | stopReset hStopper | stopDeactivate hStopper =>
    exact hGone (hShape.threads.stopper (by rw [hStopper]; rfl))

/-- **No drain is left unreported.** In every run in which each section that
leaves a due drain without Work looks for its end and finds room for the report:
a live pair with a drain requested, nothing queued and no worker holding a job
has reported its drain, whether or not the Control queue has room now. -/
theorem drain_completion (h : (machine env).Reaches (fun s a => s.drainChecked env a = true) s)
    (hLive : s.client.flags.sessionFailed = false) (hRuns : s.client.flags.stopRequested = false)
    (hRequested : s.client.flags.drainRequested = true) (hQueue : s.client.queues.dispatch = [])
    (hFlight : s.client.queues.inFlightWork = 0)
    (hActive : s.client.queues.activeDispatchJobs = 0) : s.client.flags.drainReported = true := by
  have hBusy : s.client.drainDue = true → s.client.idle = false := by
    refine Machine.Reaches.invariant
      (I := fun s => s.client.drainDue = true → s.client.idle = false) ?_ ?_ h
    · intro hDue
      cases hDue
    · intro s a s' hReach hBusy hSafe hStep
      exact not_idle_step hReach.reachable hBusy hSafe hStep
  by_contra hNot
  have hDue : s.client.drainDue = true :=
    Client.drainDue_iff.mpr ⟨hRequested, by simpa using hNot, hLive, hRuns⟩
  have hIdle : s.client.idle = true := Client.idle_iff.mpr ⟨hQueue, hActive, hFlight⟩
  rw [hBusy hDue] at hIdle
  cases hIdle

section Runs

open Deployment

/-- The Control reader takes a drain frame. -/
def receiveDrain (epoch sequence : Nat) : List Action :=
  [.controlReader (.tick 0), .controlReader (.received ⟨hostHeader epoch sequence, .drain⟩),
    .controlReader (.tick 0), .controlReader (.tick 0)]

/-- The drain begins while a query is running, and its last section reports it. -/
theorem drain_completion_query :
    ∃ s, (machine deployment).Reaches (fun s a => s.drainChecked deployment a = true) s ∧
      s.client.queues.control.length < deployment.config.maximumControlQueue ∧
      s.client.flags.drainReported = true := by
  obtain ⟨s, hReach, hRun⟩ := Machine.exists_reaches_of_runWith (machine deployment)
    (fun s a => s.drainChecked deployment a = true)
    (bringUp ++ hostFrame 1 1 (unaryFrame "w") ++ runQuery 0 ++ receiveDrain 1 2 ++ worker 0 2)
    (fun s => s.client.flags.drainRequested && !s.client.flags.sessionFailed &&
      !s.client.flags.stopRequested && s.client.idle &&
      s.client.queues.control.length < deployment.config.maximumControlQueue) (by decide +kernel)
  simp only [Bool.and_eq_true, Bool.not_eq_true', decide_eq_true_eq, Client.idle_iff] at hRun
  obtain ⟨⟨⟨⟨hRequested, hLive⟩, hRuns⟩, hQueue, hActive, hFlight⟩, hRoom⟩ := hRun
  exact ⟨s, hReach, hRoom,
    drain_completion hReach hLive hRuns hRequested hQueue hFlight hActive⟩

/-- The last job of the drain was cancelled before its dispatch: its worker looks
for the end of the drain while it still counts the job, and nobody looks again. -/
theorem drain_missed :
    ∃ s, (machine deployment).Reachable s ∧ s.client.flags.sessionFailed = false ∧
      s.client.flags.stopRequested = false ∧ s.client.flags.drainRequested = true ∧
      s.client.queues.dispatch = [] ∧ s.client.queues.inFlightWork = 0 ∧
      s.client.queues.activeDispatchJobs = 0 ∧
      s.client.queues.control.length < deployment.config.maximumControlQueue ∧
      s.client.flags.drainReported = false := by
  obtain ⟨s, hReach, hRun⟩ := Machine.exists_reaches_of_runWith (machine deployment)
    (fun _ _ => True)
    (bringUp ++ hostFrame 1 1 (unaryFrame "w") ++
      hostFrame 1 2 (.cancellation { identity := .workId (text "w"), reason := text "stop" }) ++
      receiveDrain 1 2 ++ worker 0 5)
    (fun s => !s.client.flags.sessionFailed && !s.client.flags.stopRequested &&
      s.client.flags.drainRequested && s.client.idle &&
      decide (s.client.queues.control.length < deployment.config.maximumControlQueue) &&
      !s.client.flags.drainReported) (by decide +kernel)
  simp only [Bool.and_eq_true, Bool.not_eq_true', decide_eq_true_eq, Client.idle_iff] at hRun
  obtain ⟨⟨⟨⟨⟨hLive, hRuns⟩, hRequested⟩, hQueue, hActive, hFlight⟩, hRoom⟩, hUnreported⟩ := hRun
  exact ⟨s, hReach, hLive, hRuns, hRequested, hQueue, hFlight, hActive, hRoom, hUnreported⟩

end Runs

-- ---------------------------------------------------------------------------
-- What is on its way to a handler
-- ---------------------------------------------------------------------------

/-- The worker will invoke the handler of its job without another look at
`accepting_work_`. -/
def WorkerPc.armed (env : Env) (c : Client) : WorkerPc → Bool
  | .handle job binding => inputAccepted env binding job
  | .queueAccepted _ _ | .queueStarted _ _ => true
  | .popped job => job.kind == .sourceOpen && !c.cancelled job
  | .sourceInitial job | .sourceDispatch job _ => !c.cancelled job
  | _ => false

/-- A source open that is not cancelled is queued, or a worker is armed. -/
def System.armed (env : Env) (s : System) : Bool :=
  (s.client.queues.dispatch.any fun job => job.kind == .sourceOpen && !s.client.cancelled job) ||
    (List.range s.dispatchThreads).any fun i => (s.workers i).armed env s.client

/-- The Control reader executes `BeginDrain`. -/
def System.beginsDrain (s : System) : Action → Bool
  | .controlReader _ =>
    match s.controlReader with
    | .handling _ .drain => true
    | _ => false
  | _ => false

/-- A drain begins with nothing on its way to a handler, and after it nobody
opens the client for Work. -/
def System.drainsForGood (env : Env) (s : System) (a : Action) : Bool :=
  (!s.beginsDrain a || !s.armed env) && (!s.client.flags.drainRequested || !s.opensWork a)

/-- The client is closed for Work, and nothing is on its way to a handler. -/
structure System.Shut (env : Env) (s : System) : Prop where
  accepting : s.client.flags.acceptingWork = false
  queue : ∀ job ∈ s.client.queues.dispatch, job.kind = .sourceOpen → s.client.cancelled job = true
  workers : ∀ i, (s.workers i).armed env s.client = false

theorem Client.cancelled_mono (hMono : ∀ id, c.requested id = true → c'.requested id = true)
    {job : DispatchJob} (h : c.cancelled job = true) : c'.cancelled job = true := by
  unfold Client.cancelled at h ⊢
  cases hId : job.cancellation with
  | none => simp [hId] at h
  | some id =>
    rw [hId] at h
    exact hMono id h

/-- More cancellations disarm. -/
theorem WorkerPc.armed_mono {pc : WorkerPc}
    (hMono : ∀ id, c.requested id = true → c'.requested id = true)
    (h : pc.armed env c = false) : pc.armed env c' = false := by
  have hCancelled : ∀ job : DispatchJob, c.cancelled job = true → c'.cancelled job = true :=
    fun _ => Client.cancelled_mono hMono
  cases pc with
  | popped job =>
    simp only [armed, Bool.and_eq_false_iff, Bool.not_eq_false'] at h ⊢
    exact h.imp_right (hCancelled job)
  | sourceInitial job | sourceDispatch job =>
    simp only [armed, Bool.not_eq_false'] at h ⊢
    exact hCancelled job h
  | _ => exact h

/-- When nothing is armed, every queued open is cancelled and no worker is about to call. -/
theorem System.unarmed (hShape : Shape s) (hArmed : s.armed env = false) :
    (∀ job ∈ s.client.queues.dispatch, job.kind = .sourceOpen → s.client.cancelled job = true) ∧
      ∀ i, (s.workers i).armed env s.client = false := by
  simp only [armed, Bool.or_eq_false_iff, List.any_eq_false, Bool.and_eq_true, beq_iff_eq,
    Bool.not_eq_true', not_and, Bool.not_eq_false, List.mem_range, Bool.not_eq_true] at hArmed
  refine ⟨hArmed.1, fun i => ?_⟩
  by_cases hi : i < s.dispatchThreads
  · exact hArmed.2 i hi
  · rw [hShape.occupancy.beyond i (Nat.not_lt.mp hi)]
    rfl

/-- A worker without a way to a handler finds none while the client is shut. -/
theorem workerStep_armed {pc pc' : WorkerPc} {input : WorkerInput}
    (h : workerStep env c pc input = some (pc', c')) (hArmed : pc.armed env c = false)
    (hAccepting : c.flags.acceptingWork = false)
    (hQueue : ∀ job ∈ c.queues.dispatch, job.kind = .sourceOpen → c.cancelled job = true) :
    pc'.armed env c' = false := by
  cases workerStep_branch h with
  | @pop _ job _ hDispatch =>
    -- a job that is popped is armed only if it is a source nobody has cancelled
    simp only [WorkerPc.armed, Bool.and_eq_false_iff, beq_eq_false_iff_ne, Bool.not_eq_false']
    by_cases hKind : job.kind = .sourceOpen
    · exact .inr (hQueue job (by simp [hDispatch]) hKind)
    · exact .inl hKind
  | enterSource hKind =>
    -- the source goes on under the flag it was popped with
    simp only [WorkerPc.armed, hKind, beq_self_eq_true, Bool.true_and] at hArmed
    exact hArmed
  | valid hContext =>
    -- the context of a client that accepts nothing is refused
    rw [(validateWorkContext_ok hContext).1] at hAccepting
    cases hAccepting
  -- a request whose input is accepted is armed, and so is a source that is not cancelled
  | startUnary hInput | toOperation hInput =>
    simp only [WorkerPc.armed, hInput] at hArmed
    cases hArmed
  | accepted | unaccepted | started | unstarted => cases hArmed
  | findSource => exact hArmed
  | startSource hFlag =>
    simp only [WorkerPc.armed, hFlag] at hArmed
    cases hArmed
  -- every other branch leads away from the handlers
  | commit hCommits => cases hCommits <;> rfl
  | @unheard _ _ _ after | @signalSession _ _ _ _ after => cases after <;> rfl
  | _ => rfl

/-- A worker that is not armed invokes no handler. -/
theorem workerStep_unarmed {pc pc' : WorkerPc} {input : WorkerInput}
    (h : workerStep env c pc input = some (pc', c')) (hArmed : pc.armed env c = false) :
    c'.invocations = c.invocations := by
  obtain hSame | hInvoking := (workerStep_cases h).invocations
  · exact hSame
  · -- the branches that invoke a handler are armed
    cases workerStep_branch h with
    | refuseInput | cancelSource => rfl
    | startUnary hInput | toOperation hInput =>
      simp only [WorkerPc.armed, hInput] at hArmed
      cases hArmed
    | started | unstarted => cases hArmed
    | startSource hFlag =>
      simp only [WorkerPc.armed, hFlag] at hArmed
      cases hArmed
    | commit hCommits | uncommitted hCommits => cases hCommits <;> cases hInvoking
    | _ => cases hInvoking

/-- A worker without a job is not armed. -/
theorem WorkerPc.armed_of_free {pc : WorkerPc} (h : pc.job? = none) : pc.armed env c = false := by
  cases pc <;> first | rfl | cases h

/-- Nobody but the Work reader puts a job into the queue, and not while the
client is closed for Work, unless it is a unary or an operation job. -/
theorem PlaneMove.opens {a : Action} (h : PlaneMove env s a s')
    (hAccepting : s.client.flags.acceptingWork = false) :
    ∀ job ∈ s'.client.queues.dispatch, job.kind = .sourceOpen →
      job ∈ s.client.queues.dispatch := by
  have hSame : s'.client.queues.dispatch = s.client.queues.dispatch →
      ∀ job ∈ s'.client.queues.dispatch, job.kind = .sourceOpen →
        job ∈ s.client.queues.dispatch := by
    intro hEq job hMem _
    rwa [hEq] at hMem
  have hNone : s'.client.queues.dispatch = [] →
      ∀ job ∈ s'.client.queues.dispatch, job.kind = .sourceOpen →
        job ∈ s.client.queues.dispatch := by
    intro hEq job hMem _
    simp [hEq] at hMem
  cases h with
  | worker _ _ hMove =>
    obtain ⟨first, hQueue, -⟩ | ⟨hEq, -⟩ := hMove.dispatch
    · intro job hMem _
      rw [hQueue]
      exact List.mem_cons_of_mem _ hMem
    · exact hSame hEq
  | reader _ hMove =>
    obtain hEq | ⟨job, reservation, hJob, -, hClient, -⟩ |
      ⟨job, now, index, endpoint, bytes, -, hVerdict, -⟩ := hMove.dispatch
    · exact hSame hEq
    · intro other hMem hKind
      rw [hClient] at hMem
      simp only [Client.admitDispatch, List.mem_append, List.mem_singleton] at hMem
      obtain hOld | rfl := hMem
      · exact hOld
      · exact absurd hKind hJob.kind
    · -- the verdict on a source open looks at `accepting_work_`
      obtain ⟨-, -, -, hFresh⟩ := sourceOpenVerdict_fresh hVerdict (by simp) (by simp)
      rw [(validateWorkContext_ok (freshSourceVerdict_accept hFresh).1).1] at hAccepting
      cases hAccepting
  | publish _ hClient => exact hSame (hClient ▸ tokens_publishSource.2)
  | close _ hClient => exact hSame (hClient ▸ tokens_closeSource.2)
  | quiet hCore | deactivate hCore => exact hSame (congrArg Core.dispatch hCore)
  | drop _ hCore => exact hNone (congrArg Core.dispatch hCore)
  | release _ _ hJobs' | outside _ _ hJobs' => exact hNone hJobs'.dispatch

/-- A step that does not open the client keeps it shut. -/
theorem System.Shut.step {a : Action} (h : s.Shut env) (hShape : Shape s)
    (hStep : s.step env a = some s') (hOpens : s.opensWork a = false) : s'.Shut env := by
  have hMono : ∀ id, s.client.requested id = true → s'.client.requested id = true :=
    fun _ => requested_of_step hStep
  have hMove := planeMove_of_step hShape hStep
  refine ⟨?_, fun job hMem hKind => ?_, fun i => ?_⟩
  · by_contra hNot
    have hWas := (narrower_of_step hStep hOpens).accepting (by simpa using hNot)
    rw [h.accepting] at hWas
    cases hWas
  · exact Client.cancelled_mono hMono (h.queue job (hMove.opens h.accepting job hMem hKind) hKind)
  · have hSame : s'.workers = s.workers → (s'.workers i).armed env s'.client = false := by
      intro hEq
      rw [hEq]
      exact WorkerPc.armed_mono hMono (h.workers i)
    cases hMove with
    | @worker j _ pc' _ hWorker _ hWorkers =>
      by_cases hi : i = j
      · subst hi
        have hPc : s'.workers i = pc' := by simp [hWorkers, System.setWorker]
        rw [hPc]
        exact workerStep_armed hWorker (h.workers i) h.accepting h.queue
      · have hPc : s'.workers i = s.workers i := by simp [hWorkers, System.setWorker, hi]
        rw [hPc]
        exact WorkerPc.armed_mono hMono (h.workers i)
    | reader _ _ hWorkers | publish _ _ hWorkers | close _ _ hWorkers => exact hSame hWorkers
    | quiet _ _ hWorkers | deactivate _ _ hWorkers => exact hSame hWorkers
    | drop _ _ _ hWorkers => exact hSame hWorkers
    | release _ _ hJobs' | outside _ _ hJobs' => exact WorkerPc.armed_of_free (hJobs'.workers i)

theorem SupervisorTurn.draining {pc pc' : SupervisorPc} (h : SupervisorTurn env c pc pc' c')
    (hDrain : c'.flags.drainRequested = true) : c.flags.drainRequested = true := by
  cases h with
  | calm hHelm =>
    have hSame : c'.flags.drainRequested = c.flags.drainRequested := congrArg Helm.draining hHelm
    rw [← hSame]
    exact hDrain
  | replace | report => exact hDrain
  | install | prepare | clear | endSession => cases hDrain
  | advance =>
    unfold Client.advanceEpoch at hDrain
    split at hDrain <;> exact hDrain
  | deactivate hStep | deactivated hStep =>
    exact (congrArg Prod.snd (progress_deactivateStep hStep)).symm.trans hDrain

/-- Only `BeginDrain` requests a drain. -/
theorem draining_of_step {a : Action} (hStep : s.step env a = some s')
    (hDrain : s'.client.flags.drainRequested = true) :
    s.client.flags.drainRequested = true ∨
      (s.beginsDrain a = true ∧ s'.client = s.client.beginDrain env ∧ s'.workers = s.workers) := by
  have hSame : s'.client.flags.drainRequested = s.client.flags.drainRequested →
      s.client.flags.drainRequested = true := fun hEq => hEq ▸ hDrain
  cases System.step_cases hStep with
  | worker hWorker => exact .inl (hSame (congrArg Helm.draining (helm_workerStep hWorker)))
  | workReader hReader => exact .inl (hSame (congrArg Helm.draining (helm_workReaderStep hReader)))
  | controlReader hReader =>
    obtain hEq | ⟨fence, hPc, hClient⟩ := (controlReaderStep_cases hReader).progress
    · exact .inl (hSame (congrArg Prod.snd hEq))
    · exact .inr ⟨by simp [System.beginsDrain, hPc], hClient, rfl⟩
  | controlWriter hWriter =>
    exact .inl (hSame (congrArg Prod.snd (controlWriterStep_cases hWriter).progress))
  | workWriter hWriter => exact .inl (hSame (workWriterStep_cases hWriter).draining)
  | supervisor hSupervisor => exact .inl ((supervisorTurn_of_step hSupervisor).draining hDrain)
  | publishSource =>
    exact .inl (hSame (congrArg (fun k : Surround => k.flags.drainRequested) surround_publishSource))
  | closeSource =>
    exact .inl (hSame (congrArg (fun k : Surround => k.flags.drainRequested) surround_closeSource))
  | flags _ _ _ _ _ _ hHelm => exact .inl (hSame (congrArg Helm.draining hHelm))
  | startThreads | joinSupervisor | joinWorkers => exact .inl hDrain
  | stopDeactivate _ hDeactivate hNext =>
    have hEq := congrArg Prod.snd (progress_deactivateStep hDeactivate)
    obtain ⟨_, -, -, rfl⟩ | ⟨-, -, rfl⟩ := hNext <;>
      exact .inl (hEq.symm.trans hDrain)
  | stopReset => cases hDrain

/-- The supervisor replaces the pair: `ClearConnectionState`, which runs after both of its
streams have been joined. -/
def System.clearsPair (s : System) : Action → Bool
  | .supervisor _ =>
    match s.supervisor with
    | .clear _ => true
    | _ => false
  | _ => false

/-- The supervisor withdraws a drain only when it replaces the pair. -/
theorem SupervisorTurn.keepsDrain {pc pc' : SupervisorPc} (h : SupervisorTurn env c pc pc' c')
    (hLives : pc.Lives c) (hDrain : c.flags.drainRequested = true) (hPair : ∀ r, pc ≠ .clear r) :
    c'.flags.drainRequested = true := by
  have hPhase := hLives.draining hDrain
  cases h with
  | calm hHelm =>
    have hSame : c'.flags.drainRequested = c.flags.drainRequested := congrArg Helm.draining hHelm
    exact hSame.trans hDrain
  | replace | report => exact hDrain
  | clear => exact absurd rfl (hPair _)
  -- a drained pair is waited on or retired
  | install | prepare | advance | endSession | deactivate | deactivated =>
    simp [SupervisorPc.waits, SupervisorPc.retires] at hPhase

/-- A drain that has been requested lasts until its pair is replaced. -/
theorem draining_kept {a : Action} (hReach : (machine env).Reachable s)
    (hStep : s.step env a = some s') (hDrain : s.client.flags.drainRequested = true)
    (hPair : s.clearsPair a = false) : s'.client.flags.drainRequested = true := by
  have hLives := lives_of_reachable hReach
  have hShape := shape_of_reachable hReach
  have hSame : s'.client.flags.drainRequested = s.client.flags.drainRequested →
      s'.client.flags.drainRequested = true := fun hEq => hEq.trans hDrain
  have hPaired : s.supervisor ≠ .notStarted := by
    intro hPc
    have hPhase := hLives.draining hDrain
    simp [hPc, SupervisorPc.waits, SupervisorPc.retires] at hPhase
  cases System.step_cases hStep with
  | worker hWorker => exact hSame (congrArg Helm.draining (helm_workerStep hWorker))
  | workReader hReader => exact hSame (congrArg Helm.draining (helm_workReaderStep hReader))
  | controlReader hReader =>
    obtain hEq | ⟨fence, -, hClient⟩ := (controlReaderStep_cases hReader).progress
    · exact hSame (congrArg Prod.snd hEq)
    · show Helm.draining (Client.helm _) = true
      rw [hClient, Client.helm_beginDrain]
  | controlWriter hWriter =>
    exact hSame (congrArg Prod.snd (controlWriterStep_cases hWriter).progress)
  | workWriter hWriter => exact hSame (workWriterStep_cases hWriter).draining
  | supervisor hSupervisor =>
    refine (supervisorTurn_of_step hSupervisor).keepsDrain hLives hDrain fun r hPc => ?_
    simp [System.clearsPair, hPc] at hPair
  | publishSource =>
    exact hSame (congrArg (fun k : Surround => k.flags.drainRequested) surround_publishSource)
  | closeSource =>
    exact hSame (congrArg (fun k : Surround => k.flags.drainRequested) surround_closeSource)
  | flags _ _ _ _ _ _ hHelm => exact hSame (congrArg Helm.draining hHelm)
  | joinSupervisor | joinWorkers => exact hDrain
  -- the supervisor runs, so the client is neither started nor stopped
  | startThreads hStopped => exact absurd (System.notStarted_of_fullyStopped hStopped) hPaired
  | stopDeactivate hStopper =>
    exact absurd (hShape.threads.stopper (by rw [hStopper]; rfl)) hPaired
  | stopReset hStopper => exact absurd (hShape.threads.stopper (by rw [hStopper]; rfl)) hPaired

/-- `BeginDrain` requests a drain. -/
theorem draining_begun {a : Action} (hStep : s.step env a = some s')
    (hBegins : s.beginsDrain a = true) : s'.client.flags.drainRequested = true := by
  cases a with
  | controlReader input =>
    simp only [System.beginsDrain] at hBegins
    split at hBegins
    · rename_i fence hPc
      have hReader := controlReaderStep_of_step hStep
      rw [hPc] at hReader
      generalize s'.controlReader = pc', s'.client = c' at hReader ⊢
      cases controlReaderStep_branch hReader with
      | drain =>
        show Helm.draining (Client.helm _) = true
        rw [Client.helm_beginDrain]
    · cases hBegins
  | _ => cases hBegins

theorem accepting_beginDrain : (c.beginDrain env).flags.acceptingWork = false := by
  have hRest : c.closeForDrain.Subsides (c.beginDrain env) := .maybeQueueDrainStatus _ _
  by_contra hNot
  have hWas := hRest.accepting (by simpa using hNot)
  cases hWas

/-- `BeginDrain` shuts a client with nothing on its way to a handler. -/
theorem System.shut_beginDrain (hShape : Shape s) (hArmed : s.armed env = false)
    (hClient : s'.client = s.client.beginDrain env) (hWorkers : s'.workers = s.workers) :
    s'.Shut env := by
  obtain ⟨hQueue, hIdle⟩ := System.unarmed hShape hArmed
  have hRest : s.client.Subsides (s.client.beginDrain env) := .beginDrain
  have hDispatch : (s.client.beginDrain env).queues.dispatch = s.client.queues.dispatch :=
    congrArg Core.dispatch (Client.core_beginDrain env s.client)
  refine ⟨?_, fun job hMem hKind => ?_, fun i => ?_⟩
  · rw [hClient]
    exact accepting_beginDrain
  · rw [hClient] at hMem ⊢
    rw [hDispatch] at hMem
    exact Client.cancelled_mono hRest.requested (hQueue job hMem hKind)
  · rw [hClient, hWorkers]
    exact WorkerPc.armed_mono hRest.requested (hIdle i)

/-- In runs that pass the check a drained client is shut. -/
theorem shut_of_reaches (h : (machine env).Reaches (fun s a => s.drainsForGood env a = true) s)
    (hDrain : s.client.flags.drainRequested = true) : s.Shut env := by
  refine Machine.Reaches.invariant
    (I := fun s => s.client.flags.drainRequested = true → s.Shut env) ?_ ?_ h hDrain
  · intro hNone
    cases hNone
  · intro s a s' hReach hShut hSafe hStep hDrain'
    have hShape := shape_of_reachable hReach.reachable
    simp only [System.drainsForGood, Bool.and_eq_true, Bool.or_eq_true, Bool.not_eq_true'] at hSafe
    obtain hWas | ⟨hBegins, hClient, hWorkers⟩ := draining_of_step hStep hDrain'
    · refine (hShut hWas).step hShape hStep ?_
      exact hSafe.2.resolve_left (by simp [hWas])
    · exact System.shut_beginDrain hShape (hSafe.1.resolve_left (by simp [hBegins])) hClient
        hWorkers

/-- **A drain is final.** `BeginDrain` requests the drain, and the request stands until
the pair is replaced. In every run in which a drain begins with nothing on its way to a
handler and nobody opens a draining client for Work: while the drain lasts the client
stays closed, and no step invokes a handler. -/
theorem drain_final (h : (machine env).Reaches (fun s a => s.drainsForGood env a = true) s) :
    (∀ a s', (machine env).step s a = some s' → s.beginsDrain a = true →
      s'.client.flags.drainRequested = true) ∧
    (s.client.flags.drainRequested = true →
      s.client.flags.acceptingWork = false ∧
      (∀ a s', (machine env).step s a = some s' →
        s'.client.invocations = s.client.invocations) ∧
      ∀ a s', (machine env).step s a = some s' → s.clearsPair a = false →
        s'.client.flags.drainRequested = true) := by
  refine ⟨fun a s' hStep hBegins => draining_begun hStep hBegins, fun hDrain => ?_⟩
  have hShut := shut_of_reaches h hDrain
  refine ⟨hShut.accepting, fun a s' hStep => ?_, fun a s' hStep hPair => ?_⟩
  · have hMove := planeMove_of_step (shape_of_reachable h.reachable) hStep
    obtain hSame | ⟨i, input, -, -, hWorker⟩ := hMove.invocations
    · exact hSame
    · exact workerStep_unarmed hWorker (hShut.workers i)
  · exact draining_kept h.reachable hStep hDrain hPair

section Runs

open Deployment

/-- A query is queued when the drain begins: a worker takes it and refuses it. -/
theorem drain_final_refused :
    ∃ s, (machine deployment).Reaches (fun s a => s.drainsForGood deployment a = true) s ∧
      s.client.flags.drainRequested = true ∧ s.client.flags.acceptingWork = false ∧
      (∀ a s', (machine deployment).step s a = some s' →
        s'.client.invocations = s.client.invocations) ∧
      ∀ a s', (machine deployment).step s a = some s' → s.clearsPair a = false →
        s'.client.flags.drainRequested = true := by
  obtain ⟨s, hReach, hRun⟩ := Machine.exists_reaches_of_runWith (machine deployment)
    (fun s a => s.drainsForGood deployment a = true)
    (bringUp ++ hostFrame 1 1 (unaryFrame "w") ++ receiveDrain 1 2 ++ worker 0 3)
    (fun s => s.client.flags.drainRequested) (by decide +kernel)
  exact ⟨s, hReach, hRun, (drain_final hReach).2 hRun⟩

/-- The Host drains the pair and then sends the next spec: the transaction opens
the draining client for Work, and a query is run. -/
theorem drain_undone :
    ∃ s, (machine deployment).Reachable s ∧ s.client.flags.drainRequested = true ∧
      s.client.flags.acceptingWork = true ∧
      ∃ a s', (machine deployment).step s a = some s' ∧
        s'.client.invocations ≠ s.client.invocations := by
  obtain ⟨s, hReach, hRun⟩ := Machine.exists_reaches_of_runWith (machine deployment)
    (fun _ _ => True)
    (bringUp ++ receiveDrain 1 2 ++ receiveSpec 1 3 2 ++ transaction 1 ++
      hostFrame 1 1 (unaryFrame "w" 2) ++ worker 0 3)
    (fun s => s.client.flags.drainRequested && s.client.flags.acceptingWork &&
      (((machine deployment).step s (.worker 0 (.tick 0))).any fun s' =>
        s'.client.invocations.length != s.client.invocations.length)) (by decide +kernel)
  simp only [Bool.and_eq_true, Option.any_eq_true, bne_iff_ne] at hRun
  obtain ⟨⟨hDrain, hOpen⟩, s', hStep, hMore⟩ := hRun
  exact ⟨s, hReach, hDrain, hOpen, _, s', hStep, fun hEq => hMore (congrArg List.length hEq)⟩

end Runs

end AdapterRuntime.Model
