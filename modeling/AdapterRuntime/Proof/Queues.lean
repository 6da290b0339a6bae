import AdapterRuntime.Lib.Tally
import AdapterRuntime.Model.Deployment
import AdapterRuntime.Proof.Outbound

/-!
# AdapterRuntime — the bounded queues and their byte counters

Three counters are kept by hand beside their queues. Two of the queues are part
of `Wire`, the third of `Core`; each section changes them in one of the three
ways a `Tally` allows.

* `queues_tallied` — in every reachable state the counters are exact and within
  their maxima, and no writer or worker subtracts more than was charged.
-/

namespace AdapterRuntime.Model

open AdapterRuntime.Lib

variable {env : Env} {c c' : Client} {s s' : System}

-- ---------------------------------------------------------------------------
-- The outbound queues
-- ---------------------------------------------------------------------------

/-- The counters of the two outbound queues are exact and within their bounds. -/
structure Wire.Tallied (env : Env) (w : Wire) : Prop where
  control : Tally QueuedControlFrame.accountedBytes env.config.maximumControlQueue
    env.config.maximumControlQueueBytes w.control w.controlBytes
  work : Tally QueuedWorkFrame.accountedBytes env.config.maximumWorkQueue
    env.config.maximumWorkQueueBytes w.work w.workBytes

namespace Wire.Tallied

theorem of_eq (h : c.wire.Tallied env) (hWire : c'.wire = c.wire) : c'.wire.Tallied env :=
  hWire ▸ h

/-- Both queues are empty and their counters zero. -/
theorem cleared {w : Wire} (hControl : w.control = []) (hControlBytes : w.controlBytes = 0)
    (hWork : w.work = []) (hWorkBytes : w.workBytes = 0) : w.Tallied env where
  control := by
    rw [hControl, hControlBytes]
    exact .nil
  work := by
    rw [hWork, hWorkBytes]
    exact .nil

/-- A queue only takes a frame it has room for. -/
theorem feed (h : c.wire.Tallied env) (hFeed : c.Feed env c') : c'.wire.Tallied env := by
  cases hFeed with
  | nothing hWire => exact h.of_eq hWire
  | work frame hAdmits hWire =>
    rw [hWire]
    simp only [Client.workAdmits, Client.workQueueFull, Bool.and_eq_true, Bool.not_eq_true',
      Bool.or_eq_false_iff, decide_eq_false_iff_not, Bool.not_eq_false'] at hAdmits
    obtain ⟨⟨-, hRoom, hFits⟩, -⟩ := hAdmits
    exact ⟨h.control, h.work.push (Nat.lt_of_not_le hRoom) (fitsByteBudget_iff.mp hFits)⟩
  | control frame hAdmits hWire =>
    rw [hWire]
    simp only [Client.controlAdmits, Client.controlQueueFull, Bool.and_eq_true, Bool.not_eq_true',
      Bool.or_eq_false_iff, decide_eq_false_iff_not, Bool.not_eq_false'] at hAdmits
    obtain ⟨⟨-, hRoom, hFits⟩, -⟩ := hAdmits
    exact ⟨h.control.push (Nat.lt_of_not_le hRoom) (fitsByteBudget_iff.mp hFits), h.work⟩

/-- The Work writer takes a frame off with its bytes. -/
theorem workWrite (h : c.wire.Tallied env) {pc pc' : WorkWriterPc}
    (hWrite : WorkWrite env c pc pc' c') : c'.wire.Tallied env := by
  cases hWrite with
  | attach | attached | wrote => exact ⟨h.control, h.work⟩
  | ready hWire => exact h.of_eq hWire
  | ended _ _ hWire => exact h.of_eq hWire
  | dequeue hLive hQueue hWire =>
    rw [hWire]
    have hWork := h.work
    simp only [Client.wire, hQueue] at hWork
    exact ⟨h.control, hWork.pop⟩

/-- The Control writer takes a frame off with its bytes. -/
theorem controlWrite (h : c.wire.Tallied env) {pc pc' : ControlWriterPc}
    (hWrite : ControlWrite env c pc pc' c') : c'.wire.Tallied env := by
  cases hWrite with
  | wrote => exact ⟨h.control, h.work⟩
  | quiet _ _ hWire => exact h.of_eq hWire
  | heartbeat hLive hWire =>
    rw [hWire]
    exact ⟨h.control, h.work⟩
  | dequeue hLive hQueue hWire =>
    rw [hWire]
    have hControl := h.control
    simp only [Client.wire, hQueue] at hControl
    exact ⟨hControl.pop, h.work⟩

/-- The supervisor clears queues with their counters. -/
theorem reset (h : c.wire.Tallied env) {pc pc' : SupervisorPc}
    (hReset : WireReset env c pc pc' c') : c'.wire.Tallied env := by
  cases hReset with
  | install | prepare | clear | endSession => exact .cleared rfl rfl rfl rfl
  | advance =>
    unfold Client.advanceEpoch
    split <;> exact ⟨h.control, h.work⟩

/-- A step keeps the outbound queues tallied. -/
theorem step {a : Action} (h : s.client.wire.Tallied env) (hStep : s.step env a = some s') :
    s'.client.wire.Tallied env := by
  cases System.step_cases hStep with
  | worker hWorker => exact h.feed (feed_workerStep hWorker)
  | publishSource => exact h.feed (.publishSource _ _)
  | closeSource => exact h.feed (.closeSource _ _)
  | workReader hReader =>
    obtain hFeed | ⟨_, _, -, -, -, rfl⟩ := wire_workReaderStep hReader
    · exact h.feed hFeed
    · exact ⟨h.control, h.work⟩
  | controlReader hReader =>
    obtain hFeed | ⟨_, _, -, -, -, rfl⟩ := wire_controlReaderStep hReader
    · exact h.feed hFeed
    · exact ⟨h.control, h.work⟩
  | workWriter hWriter => exact h.workWrite (workWrite_of_step hWriter)
  | controlWriter hWriter => exact h.controlWrite (controlWrite_of_step hWriter)
  | supervisor hSupervisor =>
    obtain hWire | hReset := wire_supervisorStep hSupervisor
    · exact h.of_eq hWire
    · exact h.reset hReset
  | flags _ _ _ _ _ _ _ _ _ hClient =>
    obtain rfl | rfl | rfl := hClient <;> exact ⟨h.control, h.work⟩
  | startThreads | joinSupervisor | joinWorkers => exact ⟨h.control, h.work⟩
  | stopDeactivate _ hDeactivate hNext =>
    have hWire := wire_deactivateStep hDeactivate
    obtain ⟨_, -, -, rfl⟩ | ⟨-, -, rfl⟩ := hNext <;> exact h.of_eq hWire
  | stopReset => exact .cleared rfl rfl rfl rfl

end Wire.Tallied

-- ---------------------------------------------------------------------------
-- The dispatch queue
-- ---------------------------------------------------------------------------

/-- The counter of the dispatch queue is exact and within its bounds. -/
def Core.Tallied (env : Env) (k : Core) : Prop :=
  Tally DispatchJob.accountedBytes env.config.maximumDispatchQueue
    env.config.maximumDispatchQueueBytes k.dispatch k.dispatchBytes

/-- `EnqueueDispatch` admits a job only when the queue has room for it. -/
theorem dispatchVerdict_queue {job : DispatchJob} {reservation : Nat}
    (h : dispatchVerdict env c job = .accept reservation) :
    c.queues.dispatch.length < env.config.maximumDispatchQueue ∧
      c.queues.dispatchBytes + job.accountedBytes ≤ env.config.maximumDispatchQueueBytes := by
  unfold dispatchVerdict at h
  simp only at h
  repeat' split at h
  all_goals try cases h
  rename_i hLength hFits _ _
  exact ⟨by omega, fitsByteBudget_iff.mp (by simpa using hFits)⟩

/-- So does `EnqueueSourceOpen`. -/
theorem freshSourceVerdict_queue {now : Int} {job : DispatchJob} {index bytes : Nat}
    {endpoint : CapabilityEndpointContract}
    (h : freshSourceVerdict env c now job = .accept index endpoint bytes) :
    c.queues.dispatch.length < env.config.maximumDispatchQueue ∧
      c.queues.dispatchBytes + job.accountedBytes ≤ env.config.maximumDispatchQueueBytes := by
  unfold freshSourceVerdict at h
  simp only at h
  repeat' split at h
  all_goals try cases h
  rename_i hLength hFits _ _ _ _ _
  exact ⟨by omega, fitsByteBudget_iff.mp (by simpa using hFits)⟩

namespace Core.Tallied

theorem of_core (h : c.core.Tallied env) (hCore : c'.core = c.core) : c'.core.Tallied env :=
  hCore ▸ h

/-- The queue and its counter are as before. -/
theorem kept {k k' : Core} (h : k.Tallied env) (hQueue : k'.dispatch = k.dispatch)
    (hBytes : k'.dispatchBytes = k.dispatchBytes) : k'.Tallied env := by
  unfold Core.Tallied at h ⊢
  rw [hQueue, hBytes]
  exact h

/-- A step that leaves the dispatch queue alone keeps it tallied. -/
theorem via {k k' : Core} (h : k.Tallied env) (hCore : c'.core = k')
    (hQueue : k'.dispatch = k.dispatch) (hBytes : k'.dispatchBytes = k.dispatchBytes) :
    c'.core.Tallied env :=
  hCore ▸ h.kept hQueue hBytes

/-- The queue has been emptied and its counter zeroed. -/
theorem cleared {k : Core} (hQueue : k.dispatch = []) (hBytes : k.dispatchBytes = 0) :
    k.Tallied env := by
  unfold Core.Tallied
  rw [hQueue, hBytes]
  exact .nil

/-- A worker takes a job off with its bytes. -/
theorem worker (h : c.core.Tallied env) {pc pc' : WorkerPc}
    (hMove : WorkerMove env c pc pc' c') : c'.core.Tallied env := by
  cases hMove with
  | exit => exact h
  | pop hQueue =>
    have hTally : Tally _ _ _ c.queues.dispatch c.queues.dispatchBytes := h
    rw [hQueue] at hTally
    exact hTally.pop
  | quiet _ _ hCore => exact h.of_core hCore
  | leaveSource hCore => exact h.of_core hCore
  | accept | leave | commit => exact h.kept rfl rfl
  | startOperation | startUnary | startSource =>
    unfold Client.recordStarted
    split <;> exact h.kept rfl rfl
  | returnUnary | returnOperation | returnSource =>
    unfold Client.recordReturned
    split <;> exact h.kept rfl rfl
  | refuse _ _ _ hCommit hResult =>
    obtain ⟨hCommitted, -⟩ | ⟨-, hRefused⟩ := Client.commitTerminalFrame_cases hCommit
    · exact absurd hCommitted hResult
    · exact h.of_core hRefused.core
  | erase hCore => exact h.via hCore rfl rfl
  | finish hCore => exact h.via hCore rfl rfl
  | commitSource hCommit =>
    obtain ⟨-, rfl, -⟩ | ⟨source, -, -, -, -, hCases⟩ := commitSourceOpen_cases hCommit
    · exact h
    · obtain ⟨-, hRefused⟩ | ⟨-, -, rfl⟩ | ⟨-, -, digest, rfl⟩ := hCases
      · exact h.of_core hRefused.core
      · exact h.kept rfl rfl
      · exact h.kept rfl rfl

/-- The Work reader appends a job within the limits. -/
theorem reader (h : c.core.Tallied env) {pc pc' : WorkReaderPc}
    (hMove : ReaderMove env c pc pc' c') : c'.core.Tallied env := by
  have hTally : Tally DispatchJob.accountedBytes _ _ c.queues.dispatch c.queues.dispatchBytes := h
  cases hMove with
  | quiet hCore => exact h.of_core hCore
  | answer hCore => exact h.of_core hCore
  | immediate _ _ hCore => exact h.of_core hCore
  | retireSource hCore => exact h.via hCore rfl rfl
  | cancelRefused _ _ _ _ _ hRefused => exact h.via hRefused.core rfl rfl
  | accept _ hVerdict =>
    obtain ⟨hRoom, hFits⟩ := dispatchVerdict_queue hVerdict
    exact hTally.push hRoom hFits
  | admitSource _ hVerdict =>
    obtain ⟨-, -, -, hFresh⟩ := sourceOpenVerdict_fresh hVerdict (by simp) (by simp)
    obtain ⟨hRoom, hFits⟩ := freshSourceVerdict_queue hFresh
    exact hTally.push hRoom hFits
  | report | replay | commit | rejectSource | grant | lateGrant | acknowledge
  | acknowledgeSource | cancelOpening | cancelOpened => exact h.kept rfl rfl

/-- The supervisor keeps or clears the queue. -/
theorem supervisor (h : c.core.Tallied env) {controlDone workDone : Bool} {pc pc' : SupervisorPc}
    (hMove : SupervisorMove env c controlDone workDone pc pc' c') : c'.core.Tallied env := by
  cases hMove with
  | quiet hCore => exact h.of_core hCore
  | install | prepare | replaceBegin | clear | endSession => exact .cleared rfl rfl
  | attach | ended | joinControl | joinWork | replaceWait => exact h
  | release | deactivate => exact h.kept rfl rfl
  | advance => exact h.of_core c.core_advanceEpoch

/-- A step keeps the dispatch queue tallied. -/
theorem step {a : Action} (h : s.client.core.Tallied env) (hStep : s.step env a = some s') :
    s'.client.core.Tallied env := by
  cases System.step_cases hStep with
  | worker hWorker => exact h.worker (workerStep_cases hWorker)
  | workReader hReader => exact h.reader (workReaderStep_cases hReader)
  | controlReader hReader =>
    rcases core_controlReaderStep hReader with hCore | ⟨-, hCore⟩
    · exact h.of_core hCore
    · exact h.via hCore rfl rfl
  | workWriter hWriter => exact h.of_core (core_workWriterStep hWriter)
  | controlWriter hWriter => exact h.of_core (core_controlWriterStep hWriter)
  | supervisor hSupervisor => exact h.supervisor (supervisorStep_cases hSupervisor)
  | @publishSource streamId items =>
    obtain ⟨-, source, -, hEq⟩ | ⟨-, hRefused⟩ :=
      publishSource_cases (Prod.mk.eta (p := publishSource env s.client streamId items)).symm
    · exact h.via (congrArg Client.core hEq) rfl rfl
    · exact h.of_core hRefused.core
  | @closeSource streamId error =>
    obtain ⟨-, source, digest, -, -, -, hEq⟩ | ⟨-, hRefused⟩ :=
      closeSource_cases (Prod.mk.eta (p := closeSource env s.client streamId error)).symm
    · exact h.via (congrArg Client.core hEq) rfl rfl
    · exact h.of_core hRefused.core
  | flags hCore => exact h.of_core hCore
  | startThreads | joinSupervisor | joinWorkers => exact h.kept rfl rfl
  | stopDeactivate _ hDeactivate hNext =>
    have hKept := (core_deactivateStep hDeactivate).elim h.of_core fun hCore =>
      h.via hCore rfl rfl
    obtain ⟨_, -, -, rfl⟩ | ⟨-, -, rfl⟩ := hNext <;> exact hKept
  | stopReset => exact .cleared rfl rfl

end Core.Tallied

-- ---------------------------------------------------------------------------
-- Every reachable state
-- ---------------------------------------------------------------------------

/-- The outbound queues are tallied in every reachable state. -/
theorem wireTallied_of_reachable (h : (machine env).Reachable s) : s.client.wire.Tallied env :=
  Machine.Reachable.invariant (I := fun s => s.client.wire.Tallied env)
    (Wire.Tallied.cleared rfl rfl rfl rfl) (fun _ _ _ _ hTallied hStep => hTallied.step hStep) h

/-- The dispatch queue is tallied in every reachable state. -/
theorem coreTallied_of_reachable (h : (machine env).Reachable s) : s.client.core.Tallied env :=
  Machine.Reachable.invariant (I := fun s => s.client.core.Tallied env)
    (Core.Tallied.cleared rfl rfl) (fun _ _ _ _ hTallied hStep => hTallied.step hStep) h

/-- In every reachable state each of the three counters is the sum of what the
entries of its queue were charged with, the byte and entry maxima hold, and the
entry a writer or a worker takes next is covered by its counter. -/
theorem queues_tallied (h : (machine env).Reachable s) :
    let q := s.client.queues
    (q.controlBytes = (q.control.map QueuedControlFrame.accountedBytes).sum ∧
      q.workBytes = (q.work.map QueuedWorkFrame.accountedBytes).sum ∧
      q.dispatchBytes = (q.dispatch.map DispatchJob.accountedBytes).sum) ∧
    (q.controlBytes ≤ env.config.maximumControlQueueBytes ∧
      q.workBytes ≤ env.config.maximumWorkQueueBytes ∧
      q.dispatchBytes ≤ env.config.maximumDispatchQueueBytes) ∧
    (q.control.length ≤ env.config.maximumControlQueue ∧
      q.work.length ≤ env.config.maximumWorkQueue ∧
      q.dispatch.length ≤ env.config.maximumDispatchQueue) ∧
    (∀ front rest, q.control = front :: rest → front.accountedBytes ≤ q.controlBytes) ∧
    (∀ front rest, q.work = front :: rest → front.accountedBytes ≤ q.workBytes) ∧
    ∀ front rest, q.dispatch = front :: rest → front.accountedBytes ≤ q.dispatchBytes := by
  intro q
  have hWire := wireTallied_of_reachable h
  have hControl : Tally _ _ _ q.control q.controlBytes := hWire.control
  have hWork : Tally _ _ _ q.work q.workBytes := hWire.work
  have hDispatch : Tally _ _ _ q.dispatch q.dispatchBytes := coreTallied_of_reachable h
  refine ⟨⟨hControl.exact, hWork.exact, hDispatch.exact⟩,
    ⟨hControl.bytes, hWork.bytes, hDispatch.bytes⟩,
    ⟨hControl.entries, hWork.entries, hDispatch.entries⟩, ?_, ?_, ?_⟩
  · intro front rest hQueue
    exact hControl.covers (hQueue ▸ List.mem_cons_self)
  · intro front rest hQueue
    exact hWork.covers (hQueue ▸ List.mem_cons_self)
  · intro front rest hQueue
    exact hDispatch.covers (hQueue ▸ List.mem_cons_self)

section Runs

open Deployment

/-- One query waits for a worker and the terminal of another for the writer. -/
theorem queues_tallied_busy :
    ∃ s, (machine deployment).Reachable s ∧ s.client.queues.dispatch.length = 1 ∧
      s.client.queues.work.length = 1 ∧
      s.client.queues.dispatchBytes =
        (s.client.queues.dispatch.map DispatchJob.accountedBytes).sum ∧
      s.client.queues.workBytes =
        (s.client.queues.work.map QueuedWorkFrame.accountedBytes).sum := by
  obtain ⟨s, hReach, hRun⟩ := Machine.exists_reaches_of_runWith (machine deployment)
    (fun _ _ => True)
    (bringUp ++ hostFrame 1 1 (unaryFrame "v") ++ hostFrame 1 2 (unaryFrame "w") ++ runQuery 0 ++
      worker 0 1)
    (fun s => s.client.queues.dispatch.length == 1 && s.client.queues.work.length == 1)
    (by decide +kernel)
  simp only [Bool.and_eq_true, beq_iff_eq] at hRun
  obtain ⟨⟨-, hWork, hDispatch⟩, -⟩ := queues_tallied hReach
  exact ⟨s, hReach, hRun.1, hRun.2, hDispatch, hWork⟩

end Runs

end AdapterRuntime.Model
