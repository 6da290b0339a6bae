import AdapterRuntime.Proof.LedgerMoves

/-!
# AdapterRuntime — how steps move the Work plane

`planeMove_of_step` is the classification the Work-plane invariants are proved
from: the step of a worker, of the Work reader or of the application, and what
the remaining threads can do — nothing, dropping the sources, dropping the
queued jobs, releasing the tokens of a retired pair, or a step outside any
pair, where no job and no token exists.

`System.Holds` says that a job is queued or in the hands of a worker.
-/

namespace AdapterRuntime.Model

open AdapterRuntime.Lib

/-- The job is in the dispatch queue or held by a worker. -/
def System.Holds (s : System) (job : DispatchJob) : Prop :=
  job ∈ s.client.queues.dispatch ∨ ∃ i, (s.workers i).job? = some job

/-- No job is queued or held. -/
structure System.Jobless (s : System) : Prop where
  dispatch : s.client.queues.dispatch = []
  workers : ∀ i, (s.workers i).job? = none

/-- Where there are no jobs none is held. -/
theorem System.Jobless.not_holds {s : System} (h : s.Jobless) (job : DispatchJob) :
    ¬s.Holds job := by
  rintro (hQueue | ⟨i, hWorker⟩)
  · rw [h.dispatch] at hQueue
    cases hQueue
  · rw [h.workers i] at hWorker
    cases hWorker

/-- The step keeps the tombstones of closed sources and the source ledger, or
drops both. -/
def Tables.SameOrNoTombstones (t t' : Tables) : Prop :=
  (t'.closedSources = t.closedSources ∧ t'.sourceStateBytes = t.sourceStateBytes) ∨
    (t'.closedSources = ∅ ∧ t'.sourceStateBytes = 0)

/-- What a step can do to the Work plane. -/
inductive PlaneMove (env : Env) (s : System) (a : Action) (s' : System) : Prop
  | worker {i : Nat} {input : WorkerInput} {pc' : WorkerPc} (hAction : a = .worker i input)
      (hStep : workerStep env s.client (s.workers i) input = some (pc', s'.client))
      (hMove : WorkerMove env s.client (s.workers i) pc' s'.client)
      (hWorkers : s'.workers = (s.setWorker i pc').workers)
      (hReader : s'.workReader = s.workReader)
      (hHolds : s.supervisor.phase.holds = true ∨ (s.workers i).job? = none ∧ pc'.job? = none)
  | reader {input : ReaderInput WorkResponse} (hAction : a = .workReader input)
      (hMove : ReaderMove env s.client s.workReader s'.workReader s'.client)
      (hWorkers : s'.workers = s.workers) (hWork : s.supervisor.phase.work = true)
  | publish {streamId : Text} {items : List Text} (hAction : a = .publishSource streamId items)
      (hClient : s'.client = (publishSource env s.client streamId items).2)
      (hWorkers : s'.workers = s.workers) (hReader : s'.workReader = s.workReader)
  | close {streamId : Text} {error : Option AdapterError} (hAction : a = .closeSource streamId error)
      (hClient : s'.client = (closeSource env s.client streamId error).2)
      (hWorkers : s'.workers = s.workers) (hReader : s'.workReader = s.workReader)
  | quiet (hCore : s'.client.core = s.client.core) (hSteady : s.client.Steady s'.client)
      (hWorkers : s'.workers = s.workers)
      (hReader : s'.workReader = s.workReader ∨ s'.workReader.pending? = none)
  | deactivate (hCore : s'.client.core = s.client.core.deactivated)
      (hSteady : s.client.Steady s'.client) (hWorkers : s'.workers = s.workers)
      (hReader : s'.workReader = s.workReader)
      (hControl : (∃ input, a = .controlReader input) ∧ s.controlReader.deactivates = true)
  | drop (hPhase : s.supervisor.phase = .replacing)
      (hCore : s'.client.core = { s.client.core with
        tables := { s.client.tables with sourceStreams := ∅ }, dispatch := []
        dispatchBytes := 0 })
      (hSteady : s.client.Steady s'.client) (hWorkers : s'.workers = s.workers)
      (hReader : s'.workReader = s.workReader) (hAction : ∃ input, a = .supervisor input)
  | release (hPhase : s.supervisor.phase = .releasing) (hJobs : s.Jobless) (hJobs' : s'.Jobless)
      (hCore : s'.client.core = { s.client.core with
        tables := s.client.tables.releaseAllWorkTokens })
      (hReader : s'.workReader = s.workReader)
  | outside (hPhase : s.supervisor.phase = .outside) (hJobs : s.Jobless) (hJobs' : s'.Jobless)
      (hTokens : s.client.tables.workTokens = ∅) (hTokens' : s'.client.tables.workTokens = ∅)
      (hReplay : s'.client.tables.replay = s.client.tables.replay ∨ s'.client.tables.replay = ∅)
      (hSources : s'.client.tables.sourceStreams = s.client.tables.sourceStreams ∨
        s'.client.tables.sourceStreams = ∅)
      (hClosed : s'.client.tables.closedSources = s.client.tables.closedSources ∨
        s'.client.tables.closedSources = ∅)
      (hHistory : s'.client.history = s.client.history)
      (hNext : s'.client.nextCancellation = s.client.nextCancellation)
      (hReader : s'.workReader.pending? = none)
      (hLedger : s.client.tables.SameOrNoTombstones s'.client.tables)

variable {env : Env} {s s' : System} {c' : Client}

/-- A Work reader that is gone has no job pending. -/
theorem WorkReaderPc.pending_none {pc : WorkReaderPc} (h : pc.fence? = none) :
    pc.pending? = none := by
  cases pc <;> simp_all [fence?, pending?]

/-- Outside a pair, no job is queued or held. -/
theorem Shape.jobless (h : Shape s) (hQueues : s.supervisor.phase.queues = false)
    (hHolds : s.supervisor.phase.holds = false) : s.Jobless :=
  ⟨h.occupancy.queue hQueues, h.occupancy.holds hHolds⟩

theorem workers_spawn (pc' : SupervisorPc) : (s.spawn pc').workers = s.workers := by
  unfold System.spawn
  split <;> rfl

/-- The Work reader after the supervisor has spawned threads. -/
theorem workReader_spawn (pc' : SupervisorPc) :
    (s.spawn pc').workReader = s.workReader ∨ (s.spawn pc').workReader.pending? = none := by
  unfold System.spawn
  split
  · exact .inr rfl
  · exact .inr rfl
  · exact .inl rfl

/-- A step of the supervisor and the Work plane. -/
theorem planeMove_supervisor (h : Shape s) (h' : Shape s') {input : SupervisorInput}
    {pc' : SupervisorPc} (hSystem : s' = { s.spawn pc' with supervisor := pc', client := c' })
    (hStep : supervisorStep env s.client s.controlReaderDone s.workReaderDone s.supervisor
      input = some (pc', c')) : PlaneMove env s (.supervisor input) s' := by
  have hClient : s'.client = c' := by rw [hSystem]
  have hSupervisor : s'.supervisor = pc' := by rw [hSystem]
  have hWorkers : s'.workers = s.workers := by
    rw [hSystem]
    exact workers_spawn pc'
  have hReader : s'.workReader = s.workReader ∨ s'.workReader.pending? = none := by
    rw [hSystem]
    exact workReader_spawn pc'
  have hSteadyRefl : s.client.Steady s.client := (Client.Subsides.refl _).steady
  have hMove := supervisorStep_cases hStep
  generalize hPc : s.supervisor = pc at hMove
  -- outside a pair before and after: the shape of both states says the rest
  have hOutside : pc.phase = .outside → pc'.phase.queues = false → pc'.phase.holds = false →
      pc'.phase.tokens = false → pc'.phase.work = false →
      (c'.tables.replay = s.client.tables.replay ∨ c'.tables.replay = ∅) →
      (c'.tables.sourceStreams = s.client.tables.sourceStreams ∨ c'.tables.sourceStreams = ∅) →
      (c'.tables.closedSources = s.client.tables.closedSources ∨ c'.tables.closedSources = ∅) →
      c'.history = s.client.history → c'.nextCancellation = s.client.nextCancellation →
      s.client.tables.SameOrNoTombstones c'.tables →
      PlaneMove env s (.supervisor input) s' := by
    intro hPhase hQueues' hHolds' hTokens' hWork' hReplay hSources hClosed hHistory hNext hLedger
    have hPhaseS : s.supervisor.phase = .outside := by rw [hPc, hPhase]
    exact .outside hPhaseS (h.jobless (by rw [hPhaseS]; rfl) (by rw [hPhaseS]; rfl))
      (h'.jobless (by rw [hSupervisor, hQueues']) (by rw [hSupervisor, hHolds']))
      (h.occupancy.tokens (by rw [hPhaseS]; rfl))
      (h'.occupancy.tokens (by rw [hSupervisor, hTokens']))
      (by rw [hClient]; exact hReplay) (by rw [hClient]; exact hSources)
      (by rw [hClient]; exact hClosed) (by rw [hClient]; exact hHistory)
      (by rw [hClient]; exact hNext)
      (WorkReaderPc.pending_none (h'.threads.workReader (by rw [hSupervisor, hWork'])))
      (by rw [hClient]; exact hLedger)
  cases hMove with
  | quiet hCore hRest hPhase hPhase' hSup hFence =>
    refine hOutside hPhase (by rw [hPhase']; rfl) (by rw [hPhase']; rfl) (by rw [hPhase']; rfl)
      (by rw [hPhase']; rfl) (.inl ?_) (.inl ?_) (.inl ?_) ?_ ?_ (.inl ⟨?_, ?_⟩)
    · exact congrArg (fun k : Core => k.tables.replay) hCore
    · exact congrArg (fun k : Core => k.tables.sourceStreams) hCore
    · exact congrArg (fun k : Core => k.tables.closedSources) hCore
    · exact congrArg Core.history hCore
    · exact congrArg Core.nextCancellation hCore
    · exact congrArg (fun k : Core => k.tables.closedSources) hCore
    · exact congrArg (fun k : Core => k.tables.sourceStateBytes) hCore
  | install =>
    -- a new session starts without replay, sources and tombstones
    exact hOutside rfl rfl rfl rfl rfl (.inl rfl) (.inr rfl) (.inr rfl) rfl rfl (.inr ⟨rfl, rfl⟩)
  | prepare hFence =>
    -- a new pair starts without tombstones
    refine hOutside rfl rfl rfl rfl rfl (.inl ?_) (.inl ?_) (.inr rfl) rfl rfl (.inr ⟨rfl, rfl⟩)
    · exact s.client.tables.releaseAllWorkTokens_replay
    · exact s.client.tables.releaseAllWorkTokens_sourceStreams
  | clear =>
    -- the sections that only release tokens
    refine hOutside rfl rfl rfl rfl rfl (.inl ?_) (.inl ?_) (.inl ?_) rfl rfl (.inl ⟨?_, ?_⟩)
    · exact s.client.tables.releaseAllWorkTokens_replay
    · exact s.client.tables.releaseAllWorkTokens_sourceStreams
    · exact s.client.tables.releaseAllWorkTokens_closedSources
    · exact s.client.tables.releaseAllWorkTokens_closedSources
    · exact s.client.tables.releaseAllWorkTokens_sourceStateBytes
  | advance =>
    -- a new epoch leaves the plane alone
    have hCore := Client.core_advanceEpoch s.client
    refine hOutside rfl rfl rfl rfl rfl (.inl ?_) (.inl ?_) (.inl ?_) ?_ ?_ (.inl ⟨?_, ?_⟩)
    · exact congrArg (fun k : Core => k.tables.replay) hCore
    · exact congrArg (fun k : Core => k.tables.sourceStreams) hCore
    · exact congrArg (fun k : Core => k.tables.closedSources) hCore
    · exact congrArg Core.history hCore
    · exact congrArg Core.nextCancellation hCore
    · exact congrArg (fun k : Core => k.tables.closedSources) hCore
    · exact congrArg (fun k : Core => k.tables.sourceStateBytes) hCore
  | deactivate =>
    exact hOutside rfl rfl rfl rfl rfl (.inl rfl) (.inr rfl) (.inr rfl) rfl rfl (.inr ⟨rfl, rfl⟩)
  | endSession =>
    -- the end of the session empties all tables
    exact hOutside rfl rfl rfl rfl rfl (.inr rfl) (.inr rfl) (.inr rfl) rfl rfl (.inr ⟨rfl, rfl⟩)
  | attach | ended | joinControl | joinWork | replaceWait =>
    exact .quiet (by rw [hClient]) (by rw [hClient]; exact hSteadyRefl) hWorkers hReader
  | replaceBegin =>
    -- the replacement cancels what was queued or open
    refine .drop (by rw [hPc]; rfl) (by rw [hClient]; rfl) ?_ hWorkers ?_ ⟨input, rfl⟩
    · rw [hClient]
      constructor <;> simp +contextual [Client.beginPairReplacement, Client.cancelAllWork]
    · rw [hSystem, Threads.spawn_of_phase (by simp [SupervisorPc.phase]) (by simp)]
  | release =>
    refine .release (by rw [hPc]; rfl) (h.jobless (by rw [hPc]; rfl) (by rw [hPc]; rfl))
      (h'.jobless (by rw [hSupervisor]; rfl) (by rw [hSupervisor]; rfl)) (by rw [hClient]; rfl) ?_
    rw [hSystem, Threads.spawn_of_phase (by simp [SupervisorPc.phase]) (by simp)]

/-- Everything a step can do to the Work plane. -/
theorem planeMove_of_step {a : Action} (h : Shape s) (hStep : s.step env a = some s') :
    PlaneMove env s a s' := by
  have h' := h.step hStep
  -- a step of `Stop` after the supervisor was joined
  have hStopped : s.supervisor.phase = .outside → s'.supervisor.phase = .outside →
      (s'.client.tables.replay = s.client.tables.replay ∨ s'.client.tables.replay = ∅) →
      (s'.client.tables.sourceStreams = s.client.tables.sourceStreams ∨
        s'.client.tables.sourceStreams = ∅) →
      (s'.client.tables.closedSources = s.client.tables.closedSources ∨
        s'.client.tables.closedSources = ∅) →
      s'.client.history = s.client.history →
      s'.client.nextCancellation = s.client.nextCancellation →
      s.client.tables.SameOrNoTombstones s'.client.tables → PlaneMove env s a s' := by
    intro hPhase hPhase' hReplay hSources hClosed hHistory hNext hLedger
    exact .outside hPhase (h.jobless (by rw [hPhase]; rfl) (by rw [hPhase]; rfl))
      (h'.jobless (by rw [hPhase']; rfl) (by rw [hPhase']; rfl))
      (h.occupancy.tokens (by rw [hPhase]; rfl)) (h'.occupancy.tokens (by rw [hPhase']; rfl))
      hReplay hSources hClosed hHistory hNext
      (WorkReaderPc.pending_none (h'.threads.workReader (by rw [hPhase']; rfl))) hLedger
  cases System.step_cases hStep with
  | @worker i input pc' c' hWorker =>
    -- the supervisor decides whether the workers may hold jobs
    refine .worker rfl hWorker (workerStep_cases hWorker) rfl rfl ?_
    cases hHolds : s.supervisor.phase.holds with
    | true => exact .inl rfl
    | false =>
      refine .inr ⟨h.occupancy.holds hHolds i, ?_⟩
      have hAfter := h'.occupancy.holds hHolds i
      simpa [System.setWorker] using hAfter
  | workReader hReader hSpawn hOpening hJoin =>
    obtain ⟨fence, hFence, -⟩ := workReaderStep_fence hReader
    refine .reader rfl (workReaderStep_cases hReader) rfl ?_
    -- a Work reader runs in the Work phase only
    by_contra hNot
    rw [h.threads.workReader (by simpa using hNot)] at hFence
    cases hFence
  | controlReader hReader hSpawn hOpening hJoin =>
    -- a Control reader that deactivates empties the source tables
    rcases core_controlReaderStep hReader with hCore | ⟨hPc, hCore⟩
    · exact .quiet hCore (steady_controlReaderStep hReader) rfl (.inl rfl)
    · exact .deactivate hCore (steady_controlReaderStep hReader) rfl rfl ⟨⟨_, rfl⟩, hPc⟩
  | workWriter hWriter =>
    -- the writers and the entry points do not touch the plane
    exact .quiet (core_workWriterStep hWriter) (steady_workWriterStep hWriter) rfl (.inl rfl)
  | controlWriter hWriter =>
    exact .quiet (core_controlWriterStep hWriter) (steady_controlWriterStep hWriter) rfl (.inl rfl)
  | supervisor hSupervisor => exact planeMove_supervisor h h' rfl hSupervisor
  | publishSource => exact .publish rfl rfl rfl rfl
  | closeSource => exact .close rfl rfl rfl rfl
  | flags hCore hRest hStopper hAlone => exact .quiet hCore hRest.steady rfl (.inl rfl)
  | startThreads hFully hStopper hStarter =>
    have hPc := System.notStarted_of_fullyStopped hFully
    exact hStopped (by rw [hPc]; rfl) rfl (.inr rfl) (.inl rfl) (.inl rfl) rfl rfl
      (.inl ⟨rfl, rfl⟩)
  | joinSupervisor hDone hStopper =>
    exact .quiet rfl (Client.Subsides.refl _).steady rfl (.inl rfl)
  | joinWorkers hStopper hDone =>
    have hPc := h.threads.stopper (by rw [hStopper]; rfl)
    exact hStopped (by rw [hPc]; rfl) (by rw [hPc]; rfl) (.inl rfl) (.inl rfl) (.inl rfl) rfl rfl
      (.inl ⟨rfl, rfl⟩)
  | stopDeactivate hStopper hDeactivate hNext =>
    -- the deactivation of `Stop`: what it does to each table, one by one
    have hPc := h.threads.stopper (by rw [hStopper]; rfl)
    have hCore := core_deactivateStep hDeactivate
    have hReplay : _ = s.client.tables.replay :=
      hCore.elim (congrArg fun k : Core => k.tables.replay)
        (congrArg fun k : Core => k.tables.replay)
    have hSources := hCore.imp (congrArg fun k : Core => k.tables.sourceStreams)
      (congrArg fun k : Core => k.tables.sourceStreams)
    have hClosed := hCore.imp (congrArg fun k : Core => k.tables.closedSources)
      (congrArg fun k : Core => k.tables.closedSources)
    have hHistory : _ = s.client.history :=
      hCore.elim (congrArg Core.history) (congrArg Core.history)
    have hNextId : _ = s.client.nextCancellation :=
      hCore.elim (congrArg Core.nextCancellation) (congrArg Core.nextCancellation)
    have hLedger := hCore.imp
      (fun hEq => And.intro (congrArg (fun k : Core => k.tables.closedSources) hEq)
        (congrArg (fun k : Core => k.tables.sourceStateBytes) hEq))
      (fun hEq => And.intro (congrArg (fun k : Core => k.tables.closedSources) hEq)
        (congrArg (fun k : Core => k.tables.sourceStateBytes) hEq))
    obtain ⟨pc, -, rfl, rfl⟩ | ⟨-, rfl, rfl⟩ := hNext
    · exact hStopped (by rw [hPc]; rfl) (by rw [hPc]; rfl) (.inl hReplay) hSources hClosed hHistory
        hNextId hLedger
    · exact hStopped (by rw [hPc]; rfl) (by rw [hPc]; rfl) (.inl hReplay) hSources hClosed hHistory
        hNextId hLedger
  | stopReset hStopper =>
    have hPc := h.threads.stopper (by rw [hStopper]; rfl)
    refine hStopped (by rw [hPc]; rfl) (by rw [hPc]; rfl) (.inr rfl) (.inr ?_) (.inr ?_) rfl rfl
      (.inr ⟨?_, ?_⟩)
    all_goals
      simp [Client.endStop, Client.endSupervision, Client.resetSession, Client.releaseAllWorkTokens]

end AdapterRuntime.Model
