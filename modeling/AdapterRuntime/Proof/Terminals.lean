import AdapterRuntime.Proof.Replay

/-!
# AdapterRuntime — the terminals in flight

What holds, in every reachable state, of the terminals that are being produced
and retained:

* `WorkerPc.Reports` — a worker that carries the result of a handler carries
  what the handler of its job returned.
* `Keyed` — a retained or pending terminal is filed under the work id it
  carries, and a source terminal carries none.
* `WorkerPc.Fails` — a worker that has given up on its terminal has failed the
  pair.
-/

namespace AdapterRuntime.Model

open AdapterRuntime.Lib

/-- The work id a frame carries. -/
def WorkFrame.workId? : WorkFrame → Option Text
  | .unaryResponse response => some response.workId
  | .operationEvent event => some event.workId
  | _ => none

@[simp] theorem workId_rejectedDispatch (now : Int) (kind : DispatchKind)
    (workId code message : Text) (errorClass : ErrorClass) :
    (rejectedDispatch now kind workId code message errorClass).workId? = some workId := by
  cases kind <;> rfl

@[simp] theorem workId_fallbackTerminal (now : Int) (kind : DispatchKind) (workId : Text) :
    (fallbackTerminal now kind workId).workId? = some workId := by
  cases kind <;> rfl

@[simp] theorem workId_unaryTerminal (workId : Text) (result : UnaryResult) :
    (unaryTerminal workId result).workId? = some workId := by
  unfold unaryTerminal
  split <;> rfl

@[simp] theorem workId_operationTerminal (now : Int) (workId : Text) (result : OperationResult) :
    (operationTerminal now workId result).workId? = some workId := rfl

@[simp] theorem workId_operationFrame (now : Int) (workId : Text) (phase : OperationPhase) :
    (operationFrame now workId phase).workId? = some workId := rfl

-- ---------------------------------------------------------------------------
-- Results on their way to the commit
-- ---------------------------------------------------------------------------

/-- The frame is the normalized result of the handler of the job `id`. -/
inductive Normalized (env : Env) (history : List WorkEvent) (job : DispatchJob)
    (id : CancellationId) : WorkFrame → Prop
  | unary {binding : Nat} {endpoint : CapabilityEndpointContract} (cancelled : Bool)
      {result : UnaryResult} (hKind : job.kind = .unary)
      (hEndpoint : handlerEndpoint env binding job = some endpoint)
      (hReturned : .returned id job.kind job.workId job.fingerprint (.unary result) ∈ history) :
      Normalized env history job id
        (unaryTerminal job.workId (normalizeUnary env endpoint cancelled result))
  | operation (now : Int) {binding : Nat} {endpoint : CapabilityEndpointContract}
      {result : OperationResult} (hKind : job.kind = .operation)
      (hEndpoint : handlerEndpoint env binding job = some endpoint)
      (hReturned : .returned id job.kind job.workId job.fingerprint (.operation result) ∈ history) :
      Normalized env history job id
        (operationTerminal now job.workId (normalizeOperation env endpoint result))

theorem Normalized.mono {env : Env} {history history' : List WorkEvent} {job : DispatchJob}
    {id : CancellationId} {frame : WorkFrame} (h : Normalized env history job id frame)
    (hGrow : ∀ event ∈ history, event ∈ history') : Normalized env history' job id frame := by
  cases h with
  | unary cancelled hKind hEndpoint hReturned =>
    exact .unary cancelled hKind hEndpoint (hGrow _ hReturned)
  | operation now hKind hEndpoint hReturned =>
    exact .operation now hKind hEndpoint (hGrow _ hReturned)

/-- A normalised result is for the job's identity. -/
theorem Normalized.workId {env : Env} {history : List WorkEvent} {job : DispatchJob}
    {id : CancellationId} {frame : WorkFrame} (h : Normalized env history job id frame) :
    frame.workId? = some job.workId := by
  cases h <;> simp

/-- What a worker carries is what the handler of its job returned. -/
def WorkerPc.Reports (env : Env) (history : List WorkEvent) : WorkerPc → Prop
  | .returnedUnary job _ result =>
    ∃ id, job.cancellation = some id ∧
      .returned id job.kind job.workId job.fingerprint (.unary result) ∈ history
  | .returnedOperation job _ result =>
    ∃ id, job.cancellation = some id ∧
      .returned id job.kind job.workId job.fingerprint (.operation result) ∈ history
  | .commit job frame =>
    ∃ id, job.cancellation = some id ∧ Normalized env history job id frame
  | .commitFallback job =>
    ∃ id frame, job.cancellation = some id ∧ Normalized env history job id frame
  | _ => True

variable {env : Env} {s s' : System} {c c' : Client}

theorem WorkerPc.Reports.mono {pc : WorkerPc} {history history' : List WorkEvent}
    (h : pc.Reports env history) (hGrow : ∀ event ∈ history, event ∈ history') :
    pc.Reports env history' := by
  cases pc with
  | returnedUnary | returnedOperation =>
    obtain ⟨id, hId, hReturned⟩ := h
    exact ⟨id, hId, hGrow _ hReturned⟩
  | commit =>
    obtain ⟨id, hId, hNormalized⟩ := h
    exact ⟨id, hId, hNormalized.mono hGrow⟩
  | commitFallback =>
    obtain ⟨id, frame, hId, hNormalized⟩ := h
    exact ⟨id, frame, hId, hNormalized.mono hGrow⟩
  | _ => trivial

/-- Only a worker whose handler has returned reports. -/
theorem WorkerPc.reports_of_stage {pc : WorkerPc} {history : List WorkEvent}
    (h : pc.stage ≠ .returned) : pc.Reports env history := by
  cases pc <;> trivial

/-- The step of a worker. -/
theorem reports_workerStep {pc pc' : WorkerPc} {input : WorkerInput}
    (hStep : workerStep env c pc input = some (pc', c')) (hKind : pc.KindOk)
    (hId : ∀ job, pc.job? = some job → ∃ id, job.cancellation = some id)
    (h : pc.Reports env c.history) : pc'.Reports env c'.history := by
  cases workerStep_branch hStep with
  -- the handler returns, and its return is recorded
  | @returnUnary _ job | @returnOperation _ job =>
    obtain ⟨id, hSome⟩ := hId job rfl
    exact ⟨id, hSome, by simp [Client.recordReturned, hSome, Client.record]⟩
  -- the result moves towards its commit, and the history stays
  | normalizeUnary hEndpoint =>
    obtain ⟨id, hId, hReturned⟩ := h
    exact ⟨id, hId, .unary _ hKind hEndpoint hReturned⟩
  | normalizeOperation hEndpoint =>
    obtain ⟨id, hId, hReturned⟩ := h
    exact ⟨id, hId, .operation _ hKind hEndpoint hReturned⟩
  | @tooLarge _ _ frame _ hCommit =>
    -- too large: the compact failure of the same result
    obtain ⟨hCommitted, -⟩ | ⟨-, hRefused⟩ := Client.commitTerminalFrame_cases hCommit
    · cases hCommitted
    · have hHistory : c'.history = c.history := congrArg Core.history hRefused.core
      obtain ⟨id, hId, hNormalized⟩ := h
      exact ⟨id, frame, hId, hHistory ▸ hNormalized⟩
  -- at the other points no result is under way
  | commit hCommits => cases hCommits <;> trivial
  | @unheard _ _ _ after | @signalSession _ _ _ _ after => cases after <;> trivial
  | _ => trivial

-- ---------------------------------------------------------------------------
-- What a step adds to the history
-- ---------------------------------------------------------------------------

/-- The job a lifecycle event of a job belongs to. -/
def WorkEvent.owner? : WorkEvent → Option CancellationId
  | .admitted id _ _ _ | .started id _ _ _ | .returned id _ _ _ _ => some id
  | .retained owner _ => owner
  | _ => none

/-- What a step of the Work reader adds: lifecycle events only of the job it
admits, and of the frames with a work id only the answer in its hand, which is
queued for no job. What it takes out of `replay_` it records as acknowledged. -/
theorem ReaderMove.adds {pc pc' : WorkReaderPc} (h : ReaderMove env c pc pc' c')
    (hPending : ∀ job frame, pc.pending? = some (.commitImmediate job frame) → IsRequestJob job) :
    ∃ new, c'.history = new ++ c.history ∧
      (∀ event ∈ new, event.owner? = none ∨ event.owner? = some c.nextCancellation) ∧
      (∀ owner frame, .enqueued owner frame ∈ new → frame.workId? = none ∨
        (owner = none ∧ ((∃ reason, pc.pending? = some (.queueReplay frame reason)) ∨
          ∃ job, pc.pending? = some (.commitImmediate job frame) ∧
            c.tables.replay.lookup job.workId = none))) ∧
      ∀ workId entry, c.tables.replay.lookup workId = some entry →
        c'.tables.replay.lookup workId = some entry ∨ .acknowledged workId ∈ new := by
  have hNone : c'.core.history = c.history → c'.core.tables.replay = c.tables.replay →
      ∃ new, c'.history = new ++ c.history ∧
        (∀ event ∈ new, event.owner? = none ∨ event.owner? = some c.nextCancellation) ∧
        (∀ owner frame, .enqueued owner frame ∈ new → frame.workId? = none ∨
          (owner = none ∧ ((∃ reason, pc.pending? = some (.queueReplay frame reason)) ∨
            ∃ job, pc.pending? = some (.commitImmediate job frame) ∧
              c.tables.replay.lookup job.workId = none))) ∧
        ∀ workId entry, c.tables.replay.lookup workId = some entry →
          c'.tables.replay.lookup workId = some entry ∨ .acknowledged workId ∈ new := by
    intro hHistory hReplay
    have hSame : c'.tables.replay = c.tables.replay := hReplay
    exact ⟨[], hHistory, by simp, by simp, fun _ _ hEntry => .inl (by rwa [hSame])⟩
  cases h with
  -- moves that touch neither the history nor what is retained
  | quiet hCore | answer hCore | retireSource hCore =>
    exact hNone (congrArg Core.history hCore) (congrArg (fun k : Core => k.tables.replay) hCore)
  | immediate hJob hVerdict hCore hRest =>
    exact hNone (congrArg Core.history hCore) (congrArg (fun k : Core => k.tables.replay) hCore)
  | report =>
    -- a report of an error carries no identity
    exact ⟨[_], rfl, by simp [WorkEvent.owner?], by simp [protocolErrorFrame, WorkFrame.workId?],
      fun _ _ hEntry => .inl hEntry⟩
  | replay =>
    refine ⟨[_], rfl, by simp [WorkEvent.owner?], fun owner frame hNew => .inr ?_,
      fun _ _ hEntry => .inl hEntry⟩
    -- a retained result is sent again
    simp only [List.mem_singleton, WorkEvent.enqueued.injEq] at hNew
    obtain ⟨rfl, rfl⟩ := hNew
    exact ⟨rfl, .inl ⟨_, rfl⟩⟩
  | @commit fence job frame kept hKept hLedger =>
    have hFree := Client.ledgerAdmits_replay hLedger
    refine ⟨[_, _], rfl, ?_, fun owner other hNew => .inr ?_, fun workId entry hEntry => ?_⟩
    · -- a request refused at once: queued and retained in one section
      simp [WorkEvent.owner?, (hPending job frame rfl).cancellation]
    · simp only [List.mem_cons, WorkEvent.enqueued.injEq, reduceCtorEq, List.not_mem_nil, or_false]
        at hNew
      obtain ⟨rfl, rfl⟩ := hNew
      exact ⟨(hPending job _ rfl).cancellation, .inr ⟨job, rfl, hFree⟩⟩
    · have hOther : workId ≠ job.workId := by
        rintro rfl
        rw [hFree] at hEntry
        cases hEntry
      refine .inl ?_
      rwa [Client.tables_committed, Client.retainTerminal_replay, Store.lookup_insert_ite,
        if_neg hOther]
  | accept | admitSource | grant | cancelOpening =>
    exact ⟨[_], rfl, by simp [WorkEvent.owner?], by simp, fun _ _ hEntry => .inl hEntry⟩
  | rejectSource =>
    exact ⟨[_], rfl, by simp [WorkEvent.owner?], by simp [sourceOpenRejected, WorkFrame.workId?],
      fun _ _ hEntry => .inl hEntry⟩
  | cancelRefused hFrame hIdentity hActive hEpoch hPhase hRefused =>
    have hSame : c'.tables.replay = c.tables.replay :=
      congrArg (fun k : Core => k.tables.replay) hRefused.core
    exact ⟨[_], congrArg Core.history hRefused.core, by simp [WorkEvent.owner?], by simp,
      fun _ _ hEntry => .inl (by rwa [hSame])⟩
  | cancelOpened =>
    exact ⟨[_, _], rfl, by simp [WorkEvent.owner?], by simp [WorkFrame.workId?],
      fun _ _ hEntry => .inl hEntry⟩
  | @acknowledge fence response acknowledgement key kept =>
    refine ⟨[_], rfl, by simp [WorkEvent.owner?], by simp, fun workId entry hEntry => ?_⟩
    by_cases hKey : workId = key
    · exact .inr (by simp [hKey])
    · exact .inl (by simpa [hKey] using hEntry)
  | lateGrant | acknowledgeSource => exact ⟨[], rfl, by simp, by simp, fun _ _ hEntry => .inl hEntry⟩

/-- What a call of the application adds: frames of its source. -/
theorem adds_publishSource (env : Env) (c : Client) {streamId : Text} {items : List Text} :
    ∃ new, (publishSource env c streamId items).2.history = new ++ c.history ∧
      ∀ event ∈ new, ∃ owner frame, event = .enqueued owner frame ∧ frame.workId? = none := by
  obtain ⟨-, source, -, hEq⟩ | ⟨-, hRefused⟩ :=
    publishSource_cases (Prod.mk.eta (p := publishSource env c streamId items)).symm
  · rw [hEq]
    exact ⟨[_], rfl, by simp [WorkFrame.workId?]⟩
  · exact ⟨[], congrArg Core.history hRefused.core, by simp⟩

/-- `CloseSource` logs one frame at most, and it names no Work. -/
theorem adds_closeSource (env : Env) (c : Client) {streamId : Text} {error : Option AdapterError} :
    ∃ new, (closeSource env c streamId error).2.history = new ++ c.history ∧
      ∀ event ∈ new, ∃ owner frame, event = .enqueued owner frame ∧ frame.workId? = none := by
  obtain ⟨-, source, digest, -, -, -, hEq⟩ | ⟨-, hRefused⟩ :=
    closeSource_cases (Prod.mk.eta (p := closeSource env c streamId error)).symm
  · rw [hEq]
    exact ⟨[_], rfl, by simp [WorkFrame.workId?]⟩
  · exact ⟨[], congrArg Core.history hRefused.core, by simp⟩

/-- Events are never taken back. -/
theorem PlaneMove.grows {a : Action} (hJobs : Jobs s) (h : PlaneMove env s a s') :
    ∀ event ∈ s.client.history, event ∈ s'.client.history := by
  have hGrow : (∃ new, s'.client.history = new ++ s.client.history) →
      ∀ event ∈ s.client.history, event ∈ s'.client.history := by
    rintro ⟨new, hEq⟩ event hEvent
    rw [hEq]
    exact List.mem_append_right _ hEvent
  refine hGrow ?_
  cases h with
  | worker hAction hStep hMove hWorkers hReader hHolds =>
    obtain ⟨new, hEq, -⟩ := hMove.history
    exact ⟨new, hEq⟩
  | reader hAction hMove hWorkers hWork =>
    obtain ⟨new, hEq, -⟩ := hMove.adds hJobs.pending
    exact ⟨new, hEq⟩
  | publish hAction hClient hWorkers hReader =>
    obtain ⟨new, hEq, -⟩ := adds_publishSource _ _
    exact ⟨new, hClient ▸ hEq⟩
  | close hAction hClient hWorkers hReader =>
    obtain ⟨new, hEq, -⟩ := adds_closeSource _ _
    exact ⟨new, hClient ▸ hEq⟩
  | quiet hCore | deactivate hCore => exact ⟨[], congrArg Core.history hCore⟩
  | drop hPhase hCore => exact ⟨[], congrArg Core.history hCore⟩
  | release hPhase hNone hNone' hCore => exact ⟨[], congrArg Core.history hCore⟩
  | outside hPhase hNone hNone' hTokens hTokens' hReplay hSources hClosed hHistory =>
    exact ⟨[], hHistory⟩

/-- A worker after a step has its old program counter, has stepped, or holds no
job. -/
theorem PlaneMove.worker_cases {a : Action} (h : PlaneMove env s a s') (i : Nat) :
    s'.workers i = s.workers i ∨ (s'.workers i).job? = none ∨
    ∃ input, a = .worker i input ∧
      workerStep env s.client (s.workers i) input = some (s'.workers i, s'.client) := by
  cases h with
  | @worker j input pc' hAction hStep hMove hWorkers hReader hHolds =>
    by_cases hi : i = j
    · subst hi
      have hSelf : s'.workers i = pc' := by simp [hWorkers, System.setWorker]
      exact .inr (.inr ⟨input, hAction, hSelf ▸ hStep⟩)
    · exact .inl (by simp [hWorkers, System.setWorker, hi])
  | reader hAction hMove hWorkers | publish hAction hClient hWorkers
  | close hAction hClient hWorkers => exact .inl (by rw [hWorkers])
  | quiet hCore hSteady hWorkers | deactivate hCore hSteady hWorkers =>
    exact .inl (by rw [hWorkers])
  | drop hPhase hCore hSteady hWorkers => exact .inl (by rw [hWorkers])
  | release hPhase hNone hNone' | outside hPhase hNone hNone' =>
    exact .inr (.inl (hNone'.workers i))

/-- In every reachable state a worker reports what its handler returned. -/
theorem reports_of_reachable (h : (machine env).Reachable s) :
    ∀ i, (s.workers i).Reports env s.client.history := by
  refine h.invariant (I := fun s => ∀ i, (s.workers i).Reports env s.client.history)
    (fun i => trivial) ?_
  intro s a s' hReach hReports hRun i
  have hShape := shape_of_reachable hReach
  have hJobs := jobs_of_reachable hReach
  have hMove := planeMove_of_step hShape hRun
  rcases hMove.worker_cases i with hSame | hNone | ⟨input, -, hStep⟩
  · rw [hSame]
    exact (hReports i).mono (hMove.grows hJobs)
  · refine WorkerPc.reports_of_stage fun hStage => ?_
    cases hPc : s'.workers i <;> simp_all [WorkerPc.job?, WorkerPc.stage]
  · refine reports_workerStep hStep (hShape.kinds i) (fun job hJob => ?_) (hReports i)
    obtain ⟨id, hId, -⟩ := hJobs.held job (.inr ⟨i, hJob⟩)
    exact ⟨id, hId⟩

-- ---------------------------------------------------------------------------
-- Where terminals are filed
-- ---------------------------------------------------------------------------

/-- The frame of an answer in the reader's hand is filed under its work id: a
retained terminal is still retained. -/
def FollowUp.Filed (t : Tables) : FollowUp → Prop
  | .commitImmediate job frame => frame.workId? = some job.workId
  | .queueReplay frame _ =>
    ∀ workId, frame.workId? = some workId →
      ∃ entry, t.replay.lookup workId = some entry ∧ entry.terminal = frame
  | _ => True

/-- Terminals are filed under the work id they carry; source terminals carry none. -/
structure Keyed (s : System) : Prop where
  replay : ∀ workId entry, s.client.tables.replay.lookup workId = some entry →
    entry.terminal.workId? = some workId
  closed : ∀ streamId closed, s.client.tables.closedSources.lookup streamId = some closed →
    closed.terminalFrame.workId? = none
  pending : ∀ todo, s.workReader.pending? = some todo → todo.Filed s.client.tables

/-- A replay entry is made of the terminal it retains. -/
theorem terminal_replayEntryOf {job : DispatchJob} {frame : WorkFrame} {bytes : Nat}
    {entry : ReplayEntry} (h : replayEntryOf env job frame bytes = some entry) :
    entry.terminal = frame := by
  unfold replayEntryOf at h
  split at h
  · split at h <;> cases h
    rfl
  · cases h

/-- The terminal a worker is about to commit carries the work id of its job. -/
theorem workId_dueTerminal {pc : WorkerPc} {history : List WorkEvent} {job : DispatchJob}
    {now : Int} {frame : WorkFrame} (h : pc.Reports env history) (hJob : pc.job? = some job)
    (hDue : pc.dueTerminal now = some frame) : frame.workId? = some job.workId := by
  cases pc with
  | commit held due =>
    cases hJob
    cases hDue
    obtain ⟨id, -, hNormalized⟩ := h
    exact hNormalized.workId
  | cancelledCommit | contextReject | inputReject | commitFallback =>
    cases hJob
    cases hDue
    simp
  | _ => cases hDue

/-- Source terminals committed by a step carry no work id. -/
theorem closed_insert {store : Store Text ClosedSourceState} {key : Text}
    {entry : ClosedSourceState} (hEntry : entry.terminalFrame.workId? = none)
    (h : ∀ streamId closed, store.lookup streamId = some closed →
      closed.terminalFrame.workId? = none) :
    ∀ streamId closed, (store.insert key entry).lookup streamId = some closed →
      closed.terminalFrame.workId? = none := by
  intro streamId closed hLook
  rw [Store.lookup_insert_ite] at hLook
  split at hLook
  · cases hLook
    exact hEntry
  · exact h streamId closed hLook

theorem WorkerMove.closed {pc pc' : WorkerPc} (h : WorkerMove env c pc pc' c')
    (hBefore : ∀ streamId closed, c.tables.closedSources.lookup streamId = some closed →
      closed.terminalFrame.workId? = none) :
    ∀ streamId closed, c'.tables.closedSources.lookup streamId = some closed →
      closed.terminalFrame.workId? = none := by
  have hSame : c'.core.tables.closedSources = c.tables.closedSources →
      ∀ streamId closed, c'.tables.closedSources.lookup streamId = some closed →
        closed.terminalFrame.workId? = none := by
    intro hEq
    have hEq : c'.tables.closedSources = c.tables.closedSources := hEq
    rwa [hEq]
  cases h with
  | commitSource hCommit hJob' hStage' =>
    obtain ⟨-, rfl, -⟩ | ⟨source, hOwns, -, -, -, hCases⟩ := commitSourceOpen_cases hCommit
    · exact hBefore
    · obtain ⟨-, hRefused⟩ | ⟨-, -, rfl⟩ | ⟨-, -, digest, rfl⟩ := hCases
      · exact hSame (congrArg (fun k : Core => k.tables.closedSources) hRefused.core)
      · exact hBefore
      · exact closed_insert rfl hBefore
  | exit | pop | accept | leave => exact hBefore
  | quiet hJob hJob' hCore => exact hSame (congrArg (fun k : Core => k.tables.closedSources) hCore)
  | startOperation now | startUnary hKind | startSource =>
    refine hSame ?_
    unfold Client.recordStarted
    split <;> rfl
  | returnUnary _ hKind | returnOperation _ hKind | returnSource =>
    refine hSame ?_
    unfold Client.recordReturned
    split <;> rfl
  | commit => exact hSame (by simp [Client.core])
  | refuse now hJob hDue hCommit hResult hNext =>
    obtain ⟨hCommitted, -⟩ | ⟨-, hRefused⟩ := Client.commitTerminalFrame_cases hCommit
    · exact absurd hCommitted hResult
    · exact hSame (congrArg (fun k : Core => k.tables.closedSources) hRefused.core)
  | erase hCore hRest | finish hCore hRest =>
    refine hSame ((congrArg (fun k : Core => k.tables.closedSources) hCore).trans ?_)
    exact c.tables.releaseWorkToken_closedSources _
  | leaveSource hCore hRest =>
    exact hSame (congrArg (fun k : Core => k.tables.closedSources) hCore)

theorem ReaderMove.closed {pc pc' : WorkReaderPc} (h : ReaderMove env c pc pc' c')
    (hBefore : ∀ streamId closed, c.tables.closedSources.lookup streamId = some closed →
      closed.terminalFrame.workId? = none) :
    ∀ streamId closed, c'.tables.closedSources.lookup streamId = some closed →
      closed.terminalFrame.workId? = none := by
  have hSame : c'.core.tables.closedSources = c.tables.closedSources →
      ∀ streamId closed, c'.tables.closedSources.lookup streamId = some closed →
        closed.terminalFrame.workId? = none := by
    intro hEq
    have hEq : c'.tables.closedSources = c.tables.closedSources := hEq
    rwa [hEq]
  cases h with
  | quiet hCore | answer hCore | retireSource hCore =>
    exact hSame (congrArg (fun k : Core => k.tables.closedSources) hCore)
  | immediate hJob hVerdict hCore hRest =>
    exact hSame (congrArg (fun k : Core => k.tables.closedSources) hCore)
  | cancelRefused hFrame hIdentity hActive hEpoch hPhase hRefused =>
    exact hSame (congrArg (fun k : Core => k.tables.closedSources) hRefused.core)
  | commit => exact hSame (by simp [Client.core])
  | rejectSource | cancelOpened => exact closed_insert rfl hBefore
  | @lateGrant _ _ streamId closed _ hClosed =>
    have hFrame := hBefore streamId closed hClosed
    exact closed_insert hFrame hBefore
  | acknowledgeSource =>
    intro streamId closed hLook
    simp only [Store.lookup_erase_ite] at hLook
    split at hLook
    · cases hLook
    · exact hBefore streamId closed hLook
  | report | replay | accept | admitSource | grant | acknowledge | cancelOpening => exact hBefore

/-- An answer in the reader's hand was there before, or the step that decided it
filed it. -/
theorem ReaderMove.filed {pc pc' : WorkReaderPc} (h : ReaderMove env c pc pc' c')
    (hReplay : ∀ workId entry, c.tables.replay.lookup workId = some entry →
      entry.terminal.workId? = some workId)
    (hClosed : ∀ streamId closed, c.tables.closedSources.lookup streamId = some closed →
      closed.terminalFrame.workId? = none) {todo : FollowUp} (hTodo : pc'.pending? = some todo) :
    todo.Filed c'.tables := by
  cases h with
  | quiet hCore hRest hNameless =>
    have hNamed := hNameless todo hTodo
    cases todo with
    | commitImmediate | queueReplay => exact hNamed.elim
    | done | protocolError | signalFailure | notifySourceClosed => trivial
  | immediate hJob hVerdict hCore hRest =>
    cases hTodo
    exact workId_rejectedDispatch _ _ _ _ _ _
  | answer hCore hRest hRetained =>
    cases hTodo
    intro workId hName
    have hSame : c'.tables.replay = c.tables.replay :=
      congrArg (fun k : Core => k.tables.replay) hCore
    obtain ⟨key, entry, hEntry, rfl⟩ | ⟨key, closed, hSource, rfl⟩ := hRetained
    · rw [hReplay key entry hEntry, Option.some.injEq] at hName
      subst hName
      exact ⟨entry, by rw [hSame, hEntry], rfl⟩
    · rw [hClosed key closed hSource] at hName
      cases hName
  | report | replay | commit => cases hTodo
  | accept | admitSource | rejectSource | retireSource | grant | lateGrant | acknowledge
  | acknowledgeSource | cancelOpening | cancelRefused | cancelOpened =>
    cases hTodo
    trivial

theorem Keyed.of_same (h : Keyed s)
    (hReplay : s'.client.tables.replay = s.client.tables.replay)
    (hClosed : s'.client.tables.closedSources = s.client.tables.closedSources ∨
      s'.client.tables.closedSources = ∅)
    (hReader : s'.workReader = s.workReader ∨ s'.workReader.pending? = none) : Keyed s' := by
  refine ⟨by rw [hReplay]; exact h.replay, fun streamId closed hLook => ?_, fun todo hTodo => ?_⟩
  · rcases hClosed with hEq | hEq <;> rw [hEq] at hLook
    · exact h.closed streamId closed hLook
    · cases hLook
  · rcases hReader with hSame | hNone
    · rw [hSame] at hTodo
      have hFiled := h.pending todo hTodo
      cases todo with
      | queueReplay frame reason =>
        intro workId hName
        rw [hReplay]
        exact hFiled workId hName
      | commitImmediate => exact hFiled
      | done | protocolError | signalFailure | notifySourceClosed => trivial
    · rw [hNone] at hTodo
      cases hTodo

/-- In every reachable state the tables are keyed by what they hold. -/
theorem keyed_of_reachable (h : (machine env).Reachable s) : Keyed s := by
  refine h.invariant (I := Keyed) ?_ ?_
  · -- nothing is retained and nothing pending at first
    refine ⟨fun _ _ hLook => ?_, fun _ _ hLook => ?_, fun _ hTodo => ?_⟩
    · cases hLook
    · cases hLook
    · cases hTodo
  · intro s a s' hReach hKeyed hRun
    have hShape := shape_of_reachable hReach
    have hMove := planeMove_of_step hShape hRun
    -- a terminal retained by the step carries the work id of its job
    have hReplay : ∀ workId entry, s'.client.tables.replay.lookup workId = some entry →
        entry.terminal.workId? = some workId := by
      intro workId entry hEntry
      -- retained before, by a worker, or by the Work reader
      obtain hWas | ⟨i, job, hRetains, rfl⟩ | ⟨job, hRetains, rfl⟩ := hMove.replay hEntry
      · exact hKeyed.replay workId entry hWas
      · obtain ⟨now, frame, hDue, -, hKept, -⟩ := hRetains.due
        rw [terminal_replayEntryOf hKept]
        exact workId_dueTerminal (reports_of_reachable hReach i) hRetains.holds hDue
      · obtain ⟨fence, frame, hPc, hKept, -⟩ := hRetains.pending
        rw [terminal_replayEntryOf hKept]
        exact hKeyed.pending (.commitImmediate job frame) (by rw [hPc]; rfl)
    cases hMove with
    | worker hAction hStep hWorker hWorkers hReader hHolds =>
      refine ⟨hReplay, hWorker.closed hKeyed.closed, fun todo hTodo => ?_⟩
      rw [hReader] at hTodo
      have hFiled := hKeyed.pending todo hTodo
      -- what the reader had pending is still filed
      cases todo with
      | queueReplay frame reason =>
        intro workId hName
        obtain ⟨entry, hEntry, hTerminal⟩ := hFiled workId hName
        exact ⟨entry, hWorker.replay_kept hEntry, hTerminal⟩
      | commitImmediate => exact hFiled
      | done | protocolError | signalFailure | notifySourceClosed => trivial
    | reader hAction hReader hWorkers hWork =>
      exact ⟨hReplay, hReader.closed hKeyed.closed,
        fun todo hTodo => hReader.filed hKeyed.replay hKeyed.closed hTodo⟩
    | publish hAction hClient hWorkers hReader =>
      -- an accepted chunk retains nothing
      obtain ⟨-, source, -, hEq⟩ | ⟨-, hRefused⟩ := publishSource_cases (Prod.mk.eta.symm)
      · rw [hEq] at hClient
        exact hKeyed.of_same (by rw [hClient]; rfl) (.inl (by rw [hClient]; rfl)) (.inl hReader)
      · have hCore : s'.client.core = s.client.core := hClient ▸ hRefused.core
        exact hKeyed.of_same (congrArg (fun k : Core => k.tables.replay) hCore)
          (.inl (congrArg (fun k : Core => k.tables.closedSources) hCore)) (.inl hReader)
    | close hAction hClient hWorkers hReader =>
      -- an accepted close leaves a tombstone with its own identity
      obtain ⟨-, source, digest, -, -, -, hEq⟩ | ⟨-, hRefused⟩ := closeSource_cases Prod.mk.eta.symm
      · rw [hEq] at hClient
        refine ⟨hReplay, ?_, fun todo hTodo => ?_⟩
        · rw [hClient]
          exact closed_insert rfl hKeyed.closed
        · rw [hReader] at hTodo
          rw [hClient]
          exact hKeyed.pending todo hTodo
      · have hCore : s'.client.core = s.client.core := hClient ▸ hRefused.core
        exact hKeyed.of_same (congrArg (fun k : Core => k.tables.replay) hCore)
          (.inl (congrArg (fun k : Core => k.tables.closedSources) hCore)) (.inl hReader)
    | quiet hCore hSteady hWorkers hReader =>
      -- the moves that keep what is retained, or drop it whole
      exact hKeyed.of_same (congrArg (fun k : Core => k.tables.replay) hCore)
        (.inl (congrArg (fun k : Core => k.tables.closedSources) hCore)) hReader
    | deactivate hCore hSteady hWorkers hReader hControl =>
      exact hKeyed.of_same (congrArg (fun k : Core => k.tables.replay) hCore)
        (.inr (congrArg (fun k : Core => k.tables.closedSources) hCore)) (.inl hReader)
    | drop hPhase hCore hSteady hWorkers hReader =>
      exact hKeyed.of_same (congrArg (fun k : Core => k.tables.replay) hCore)
        (.inl (congrArg (fun k : Core => k.tables.closedSources) hCore)) (.inl hReader)
    | release hPhase hNone hNone' hCore hReader =>
      exact hKeyed.of_same ((congrArg (fun k : Core => k.tables.replay) hCore).trans (by simp))
        (.inl ((congrArg (fun k : Core => k.tables.closedSources) hCore).trans (by simp)))
        (.inl hReader)
    | outside hPhase hNone hNone' hTokens hTokens' hKept hSources hClosed hHistory hNext hReader =>
      refine ⟨hReplay, fun streamId closed hLook => ?_, fun todo hTodo => ?_⟩
      · -- the end of the session: both tables stay or become empty
        rcases hClosed with hEq | hEq <;> rw [hEq] at hLook
        · exact hKeyed.closed streamId closed hLook
        · cases hLook
      · rw [hReader] at hTodo
        cases hTodo

-- ---------------------------------------------------------------------------
-- Workers that give up
-- ---------------------------------------------------------------------------

/-- A worker that has given up on its terminal has failed the pair, or found it
failed or being stopped. -/
def WorkerPc.Fails (c : Client) : WorkerPc → Prop
  | .signalSession _ session _ _ => session = c.session.sessionId
  | .eraseToken _ false | .finish _ false =>
    c.flags.sessionFailed = true ∨ c.flags.stopRequested = true
  | _ => True

/-- While a worker holds a job, the session stays and failures are not taken back. -/
theorem PlaneMove.lasts {a : Action} (h : PlaneMove env s a s') {i : Nat} {job : DispatchJob}
    (hHeld : (s'.workers i).job? = some job) :
    s'.client.session.sessionId = s.client.session.sessionId ∧
    (s.client.flags.sessionFailed = true → s'.client.flags.sessionFailed = true) ∧
    (s.client.flags.stopRequested = true → s'.client.flags.stopRequested = true) := by
  cases h with
  | worker hAction hStep hMove hWorkers hReader hHolds =>
    have hRest := hMove.subsides
    exact ⟨hRest.sessionId, hRest.failed, hRest.stopped⟩
  | reader hAction hMove hWorkers hWork =>
    have hRest := hMove.subsides
    exact ⟨hRest.sessionId, hRest.failed, hRest.stopped⟩
  | publish hAction hClient hWorkers hReader =>
    rw [hClient]
    exact ⟨subsides_publishSource.sessionId, subsides_publishSource.failed,
      subsides_publishSource.stopped⟩
  | close hAction hClient hWorkers hReader =>
    rw [hClient]
    exact ⟨subsides_closeSource.sessionId, subsides_closeSource.failed,
      subsides_closeSource.stopped⟩
  | quiet hCore hSteady | deactivate hCore hSteady =>
    exact ⟨hSteady.sessionId, hSteady.failed, hSteady.stopped⟩
  | drop hPhase hCore hSteady => exact ⟨hSteady.sessionId, hSteady.failed, hSteady.stopped⟩
  | release hPhase hNone hNone' | outside hPhase hNone hNone' =>
    rw [hNone'.workers i] at hHeld
    cases hHeld

/-- While a worker holds a job, a session is installed. -/
theorem session_of_held (hShape : Shape s) {i : Nat} {job : DispatchJob}
    (hHeld : (s.workers i).job? = some job) : s.client.session.sessionId ≠ [] := by
  have hHolds : s.supervisor.phase.holds = true := by
    by_contra hNot
    rw [hShape.occupancy.holds (by simpa using hNot) i] at hHeld
    cases hHeld
  have hSome : ∃ r, s.supervisor.supervision? = some r := by
    cases hS : s.supervisor <;>
      simp_all [SupervisorPc.phase, PairPhase.holds, SupervisorPc.supervision?]
  obtain ⟨r, hSupervision⟩ := hSome
  have hInstalled := hShape.threads.session r hSupervision
  rw [hInstalled.sessionId]
  exact hInstalled.valid.sessionId

/-- A failure signalled for the current session fails it. -/
theorem failed_signalSessionFailure (c : Client) (reason : Text) :
    (c.signalSessionFailure c.session.sessionId reason).flags.sessionFailed = true ∨
      (c.signalSessionFailure c.session.sessionId reason).flags.stopRequested = true := by
  unfold Client.signalSessionFailure
  split
  · rename_i hSkip
    rcases hSkip with hOther | hStop | hFailed
    · exact absurd rfl hOther
    · exact .inr hStop
    · exact .inl hFailed
  · exact .inl rfl

/-- The step of a worker. -/
theorem fails_workerStep {pc pc' : WorkerPc} {input : WorkerInput}
    (hStep : workerStep env c pc input = some (pc', c'))
    (hSession : ∀ job, pc.job? = some job → c.session.sessionId ≠ [])
    (h : pc.Fails c) : pc'.Fails c' := by
  cases workerStep_branch hStep with
  -- a job is held, so the session has an identity
  | @unheard _ job _ _ hNone => exact absurd hNone (hSession job rfl)
  | signal => rfl
  | @signalSession _ _ session reason after =>
    -- the signal fails the session the worker has read
    have hFailed := failed_signalSessionFailure c reason
    rw [← show session = c.session.sessionId from h] at hFailed
    cases after with
    | eraseToken | finish => exact hFailed
    | sourceFinish => trivial
  -- the other points signal nothing
  | commit hCommits => cases hCommits <;> trivial
  | _ => trivial

/-- In every reachable state a worker that gave up has failed the session, or is about to. -/
theorem fails_of_reachable (h : (machine env).Reachable s) : ∀ i, (s.workers i).Fails s.client := by
  refine h.invariant (I := fun s => ∀ i, (s.workers i).Fails s.client) (fun i => trivial) ?_
  intro s a s' hReach hFails hRun i
  have hShape := shape_of_reachable hReach
  have hMove := planeMove_of_step hShape hRun
  cases hJob : (s'.workers i).job? with
  | none => cases hPc : s'.workers i <;> simp_all [WorkerPc.job?, WorkerPc.Fails]
  | some job =>
    rcases hMove.worker_cases i with hSame | hNone | ⟨input, -, hStep⟩
    · obtain ⟨hSession, hFailed, hStopped⟩ := hMove.lasts hJob
      rw [hSame]
      have hWas := hFails i
      cases hPc : s.workers i with
      | signalSession held session reason after =>
        rw [hPc] at hWas
        exact hWas.trans hSession.symm
      | eraseToken held committed | finish held committed =>
        rw [hPc] at hWas
        cases committed with
        | true => trivial
        | false => exact hWas.imp hFailed hStopped
      | _ => trivial
    · rw [hNone] at hJob
      cases hJob
    · exact fails_workerStep hStep (fun job hJob => session_of_held hShape hJob) (hFails i)

end AdapterRuntime.Model
