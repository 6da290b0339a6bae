import AdapterRuntime.Proof.Plane

/-!
# AdapterRuntime — cancellation objects identify jobs and sources

Every admission allocates a `CancellationState` of its own. The invariant
`Jobs` says so: identities are allocated in increasing order, every job that is
queued or held has one that no other job has, and tokens, sources and ghost
events only mention identities that have been allocated.

* `HistoryMove` — the events a step adds to the ghost history.
* `jobs_of_reachable` — `Jobs` holds in every reachable state.
-/

namespace AdapterRuntime.Model

open AdapterRuntime.Lib

/-- The identity a ghost event belongs to. -/
def WorkEvent.id? : WorkEvent → Option CancellationId
  | .admitted id _ _ _ | .sourceAdmitted id _ | .started id _ _ _ | .returned id _ _ _ _
  | .granted id _ _ | .sourceCancelled id => some id
  | .enqueued owner _ | .retained owner _ => owner
  | .acknowledged _ => none

variable {env : Env} {s s' : System} {c c' : Client}

-- ---------------------------------------------------------------------------
-- Tokens, sources and events under a step of a worker
-- ---------------------------------------------------------------------------

/-- A step of a worker keeps a token or takes it out. -/
theorem WorkerMove.token {pc pc' : WorkerPc} (h : WorkerMove env c pc pc' c') (workId : Text) :
    c'.tables.workTokens.lookup workId = c.tables.workTokens.lookup workId ∨
    c'.tables.workTokens.lookup workId = none := by
  have hErase : ∀ k : Text, (c.tables.workTokens.erase k).lookup workId =
      c.tables.workTokens.lookup workId ∨ (c.tables.workTokens.erase k).lookup workId = none := by
    intro k
    rw [Store.lookup_erase_ite]
    split
    · exact .inr rfl
    · exact .inl rfl
  obtain hSame | ⟨job, now, frame, entry, -, -, -, -, hEq⟩ | ⟨job, committed, -, hEq⟩ := h.ledger
  · exact .inl (congrArg (fun l : LedgerPart => l.workTokens.lookup workId) hSame)
  · have hTokens : c'.tables.workTokens = (c.retainTerminal job entry).workTokens :=
      congrArg LedgerPart.workTokens hEq
    rw [hTokens, Client.retainTerminal_workTokens]
    split
    · exact hErase _
    · exact .inl rfl
  · have hTokens : c'.tables.workTokens = (c.tables.releaseWorkToken job.workId).workTokens :=
      congrArg LedgerPart.workTokens hEq
    rw [hTokens, Tables.releaseWorkToken_workTokens]
    exact hErase _

/-- The state a source keeps for as long as it is active. -/
structure SourceState.SameSource (a b : SourceState) : Prop where
  cancellation : b.cancellation = a.cancellation
  request : b.request = a.request
  connectionEpoch : b.connectionEpoch = a.connectionEpoch
  maximumChunkBytes : b.maximumChunkBytes = a.maximumChunkBytes
  maximumChunkMessages : b.maximumChunkMessages = a.maximumChunkMessages
  bindingIndex : b.bindingIndex = a.bindingIndex

protected theorem SourceState.SameSource.refl (a : SourceState) : a.SameSource a :=
  ⟨rfl, rfl, rfl, rfl, rfl, rfl⟩

/-- Every source of `c'` was a source of `c`. -/
def Client.NoNewSource (c c' : Client) : Prop :=
  ∀ streamId source', c'.tables.sourceStreams.lookup streamId = some source' →
    ∃ source, c.tables.sourceStreams.lookup streamId = some source ∧ source.SameSource source'

namespace Client.NoNewSource

theorem of_eq (h : c'.tables.sourceStreams = c.tables.sourceStreams) : c.NoNewSource c' := by
  intro streamId source' hLook
  rw [h] at hLook
  exact ⟨source', hLook, .refl source'⟩

theorem of_core (h : c'.core = c.core) : c.NoNewSource c' :=
  of_eq (congrArg (fun k : Core => k.tables.sourceStreams) h)

theorem of_empty (h : c'.tables.sourceStreams = ∅) : c.NoNewSource c' := by
  intro streamId source' hLook
  rw [h] at hLook
  cases hLook

/-- A source replaced by the same source is no new one. -/
theorem of_insert {streamId : Text} {source source' : SourceState}
    (hActive : c.tables.sourceStreams.lookup streamId = some source)
    (hSame : source.SameSource source')
    (h : c'.tables.sourceStreams = c.tables.sourceStreams.insert streamId source') :
    c.NoNewSource c' := by
  intro k source'' hLook
  rw [h, Store.lookup_insert_ite] at hLook
  split at hLook
  · rename_i hKey
    cases hLook
    exact ⟨source, by rw [hKey]; exact hActive, hSame⟩
  · exact ⟨source'', hLook, .refl source''⟩

/-- Closing a source opens none. -/
theorem of_erase {streamId : Text}
    (h : c'.tables.sourceStreams = c.tables.sourceStreams.erase streamId) : c.NoNewSource c' := by
  intro k source' hLook
  rw [h, Store.lookup_erase_ite] at hLook
  split at hLook
  · cases hLook
  · exact ⟨source', hLook, .refl source'⟩

end Client.NoNewSource

/-- `CommitSourceOpen` opens no source that was not opening. -/
theorem noNewSource_commitSourceOpen {job : DispatchJob} {decision : SourceOpenDecision}
    {r : SourceCommit} (h : commitSourceOpen env c job decision = (r, c')) : c.NoNewSource c' := by
  obtain ⟨-, rfl, -⟩ | ⟨source, hOwns, -, -, -, hCases⟩ := commitSourceOpen_cases h
  · exact .of_eq rfl
  · obtain ⟨-, hRefused⟩ | ⟨-, -, rfl⟩ | ⟨-, -, digest, rfl⟩ := hCases
    · exact .of_core hRefused.core
    · have hSame : source.SameSource (source.openedWith job) :=
        ⟨rfl, rfl, rfl, rfl, rfl, rfl⟩
      exact .of_insert hOwns.active hSame rfl
    · exact .of_erase rfl

theorem WorkerMove.noNewSource {pc pc' : WorkerPc} (h : WorkerMove env c pc pc' c') :
    c.NoNewSource c' := by
  cases h with
  | exit | pop | accept | leave => exact .of_eq rfl
  | quiet hJob hJob' hCore hRest hStage => exact .of_core hCore
  | startOperation now | startUnary hKind | startSource =>
    refine .of_eq ?_
    unfold Client.recordStarted
    split <;> rfl
  | returnUnary _ hKind | returnOperation _ hKind | returnSource =>
    refine .of_eq ?_
    unfold Client.recordReturned
    split <;> rfl
  | commit now hJob hDue hNext hAdmits hEntry hLedger => exact .of_eq (by simp)
  | refuse now hJob hDue hCommit hResult hNext =>
    obtain ⟨hCommitted, -⟩ | ⟨-, hRefused⟩ := Client.commitTerminalFrame_cases hCommit
    · exact absurd hCommitted hResult
    · exact .of_core hRefused.core
  | erase hCore hRest | finish hCore hRest =>
    refine .of_eq ((congrArg (fun k : Core => k.tables.sourceStreams) hCore).trans ?_)
    exact c.tables.releaseWorkToken_sourceStreams _
  | commitSource hCommit hJob' hStage' => exact noNewSource_commitSourceOpen hCommit
  | leaveSource hCore hRest => exact .of_core hCore

/-- The events a step of a worker adds belong to the job it holds. -/
theorem WorkerMove.history {pc pc' : WorkerPc} (h : WorkerMove env c pc pc' c') :
    ∃ new, c'.history = new ++ c.history ∧
      ∀ event ∈ new, ∃ job, pc.job? = some job ∧ event.id? = job.cancellation := by
  have hCoreNone : ∀ {c₁ : Client}, c'.core = c₁.core → c₁.history = c.history →
      ∃ new, c'.history = new ++ c.history ∧
        ∀ event ∈ new, ∃ job, pc.job? = some job ∧ event.id? = job.cancellation :=
    fun hCore hSame => ⟨[], (congrArg Core.history hCore).trans hSame, by simp⟩
  cases h with
  | exit | pop | leave => exact ⟨[], rfl, by simp⟩
  | quiet hJob hJob' hCore hRest hStage => exact hCoreNone hCore rfl
  | @accept job binding now =>
    exact ⟨[.enqueued job.cancellation _], rfl, by simp [WorkerPc.job?, WorkEvent.id?]⟩
  | @startOperation job binding now =>
    unfold Client.recordStarted
    split
    · rename_i id hId
      exact ⟨[.started id _ _ _, .enqueued job.cancellation _], rfl,
        by simp [WorkerPc.job?, WorkEvent.id?, hId]⟩
    · exact ⟨[.enqueued job.cancellation _], rfl, by simp [WorkerPc.job?, WorkEvent.id?]⟩
  | startUnary hKind | startSource =>
    unfold Client.recordStarted
    split
    · rename_i id hId
      exact ⟨[.started id _ _ _], rfl, by simp [WorkerPc.job?, WorkEvent.id?, hId]⟩
    · exact ⟨[], rfl, by simp⟩
  | returnUnary result hKind | returnOperation result hKind | returnSource result =>
    unfold Client.recordReturned
    split
    · rename_i id hId
      exact ⟨[.returned id _ _ _ _], rfl, by simp [WorkerPc.job?, WorkEvent.id?, hId]⟩
    · exact ⟨[], rfl, by simp⟩
  | @commit _ _ job now frame entry hJob hDue hNext hAdmits hEntry hLedger =>
    exact ⟨[.enqueued job.cancellation frame, .retained job.cancellation job.workId], rfl,
      by simp [hJob, WorkEvent.id?]⟩
  | refuse now hJob hDue hCommit hResult hNext =>
    obtain ⟨hCommitted, -⟩ | ⟨-, hRefused⟩ := Client.commitTerminalFrame_cases hCommit
    · exact absurd hCommitted hResult
    · exact hCoreNone hRefused.core rfl
  | erase hCore hRest | finish hCore hRest => exact hCoreNone hCore rfl
  | @commitSource _ _ job decision _ hCommit hJob' hStage' =>
    obtain ⟨-, rfl, -⟩ | ⟨source, hOwns, -, -, -, hCases⟩ := commitSourceOpen_cases hCommit
    · exact ⟨[], rfl, by simp⟩
    · obtain ⟨-, hRefused⟩ | ⟨-, -, rfl⟩ | ⟨-, -, digest, rfl⟩ := hCases
      · exact hCoreNone hRefused.core rfl
      · exact ⟨[.enqueued (some source.cancellation) _], rfl,
          by simp [WorkerPc.job?, WorkEvent.id?, hOwns.own]⟩
      · exact ⟨[.enqueued (some source.cancellation) _], rfl,
          by simp [WorkerPc.job?, WorkEvent.id?, hOwns.own]⟩
  | leaveSource hCore hRest => exact hCoreNone hCore rfl

theorem WorkerMove.nextCancellation {pc pc' : WorkerPc} (h : WorkerMove env c pc pc' c') :
    c'.nextCancellation = c.nextCancellation := by
  cases h with
  | exit | pop | accept | leave | commit => rfl
  | quiet hJob hJob' hCore hRest hStage => exact congrArg Core.nextCancellation hCore
  | startOperation now | startUnary hKind | startSource =>
    unfold Client.recordStarted
    split <;> rfl
  | returnUnary _ hKind | returnOperation _ hKind | returnSource =>
    unfold Client.recordReturned
    split <;> rfl
  | refuse now hJob hDue hCommit hResult hNext =>
    obtain ⟨hCommitted, -⟩ | ⟨-, hRefused⟩ := Client.commitTerminalFrame_cases hCommit
    · exact absurd hCommitted hResult
    · exact congrArg Core.nextCancellation hRefused.core
  | erase hCore hRest | finish hCore hRest | leaveSource hCore hRest =>
    exact congrArg Core.nextCancellation hCore
  | commitSource hCommit hJob' hStage' =>
    obtain ⟨-, rfl, -⟩ | ⟨source, hOwns, -, -, -, hCases⟩ := commitSourceOpen_cases hCommit
    · rfl
    · obtain ⟨-, hRefused⟩ | ⟨-, -, rfl⟩ | ⟨-, -, digest, rfl⟩ := hCases
      · exact congrArg Core.nextCancellation hRefused.core
      · rfl
      · rfl

-- ---------------------------------------------------------------------------
-- The same for the application's calls
-- ---------------------------------------------------------------------------

/-- What `PublishSource` leaves alone, and what it logs. -/
theorem publishSource_plane {streamId : Text} {items : List Text} :
    c.NoNewSource (publishSource env c streamId items).2 ∧
    (publishSource env c streamId items).2.nextCancellation = c.nextCancellation ∧
    (publishSource env c streamId items).2.queues.dispatch = c.queues.dispatch ∧
    ∃ new, (publishSource env c streamId items).2.history = new ++ c.history ∧
      ∀ event ∈ new, ∃ k source, c.tables.sourceStreams.lookup k = some source ∧
        event.id? = some source.cancellation := by
  obtain ⟨-, source, hPublishes, hEq⟩ | ⟨-, hRefused⟩ :=
    publishSource_cases (Prod.mk.eta (p := publishSource env c streamId items)).symm
  · rw [hEq]
    have hSame : source.SameSource (source.published items) :=
      ⟨rfl, rfl, rfl, rfl, rfl, rfl⟩
    refine ⟨.of_insert hPublishes.active hSame rfl, rfl, rfl, [.enqueued (some source.cancellation) _],
      rfl, ?_⟩
    simp only [List.mem_singleton, forall_eq]
    exact ⟨streamId, source, hPublishes.active, rfl⟩
  · exact ⟨.of_core hRefused.core, congrArg Core.nextCancellation hRefused.core,
      congrArg Core.dispatch hRefused.core, [], congrArg Core.history hRefused.core, by simp⟩

/-- What `CloseSource` leaves alone, and what it logs. -/
theorem closeSource_plane {streamId : Text} {error : Option AdapterError} :
    c.NoNewSource (closeSource env c streamId error).2 ∧
    (closeSource env c streamId error).2.nextCancellation = c.nextCancellation ∧
    (closeSource env c streamId error).2.queues.dispatch = c.queues.dispatch ∧
    ∃ new, (closeSource env c streamId error).2.history = new ++ c.history ∧
      ∀ event ∈ new, ∃ k source, c.tables.sourceStreams.lookup k = some source ∧
        event.id? = some source.cancellation := by
  obtain ⟨-, source, digest, hActive, -, -, hEq⟩ | ⟨-, hRefused⟩ :=
    closeSource_cases (Prod.mk.eta (p := closeSource env c streamId error)).symm
  · rw [hEq]
    refine ⟨.of_erase rfl, rfl, rfl, [.enqueued (some source.cancellation) _], rfl, ?_⟩
    simp only [List.mem_singleton, forall_eq]
    exact ⟨streamId, source, hActive, rfl⟩
  · exact ⟨.of_core hRefused.core, congrArg Core.nextCancellation hRefused.core,
      congrArg Core.dispatch hRefused.core, [], congrArg Core.history hRefused.core, by simp⟩

-- ---------------------------------------------------------------------------
-- The invariant
-- ---------------------------------------------------------------------------

/-- Cancellation objects identify jobs and sources. -/
structure Jobs (s : System) : Prop where
  held : ∀ job, s.Holds job → ∃ id, job.cancellation = some id ∧ id < s.client.nextCancellation
  workers : ∀ i j a b, i ≠ j → (s.workers i).job? = some a → (s.workers j).job? = some b →
    a.cancellation ≠ b.cancellation
  mixed : ∀ i a b, (s.workers i).job? = some a → b ∈ s.client.queues.dispatch →
    a.cancellation ≠ b.cancellation
  queue : s.client.queues.dispatch.Pairwise fun a b => a.cancellation ≠ b.cancellation
  tokens : ∀ workId token, s.client.tables.workTokens.lookup workId = some token →
    token.cancellation < s.client.nextCancellation
  sources : ∀ streamId source, s.client.tables.sourceStreams.lookup streamId = some source →
    source.cancellation < s.client.nextCancellation ∧ source.request.context.workId = streamId
  history : ∀ event ∈ s.client.history, ∀ id, event.id? = some id →
    id < s.client.nextCancellation
  pending : ∀ job frame, s.workReader.pending? = some (.commitImmediate job frame) →
    IsRequestJob job

namespace Jobs

/-- The parts that only speak of the client and the Work reader, under a step
that allocates nothing. -/
theorem client_step (h : Jobs s) (s' : System)
    (hNext : s'.client.nextCancellation = s.client.nextCancellation)
    (hTokens : ∀ workId token, s'.client.tables.workTokens.lookup workId = some token →
      s.client.tables.workTokens.lookup workId = some token)
    (hSources : s.client.NoNewSource s'.client)
    (hHistory : ∃ new, s'.client.history = new ++ s.client.history ∧
      ∀ event ∈ new, ∀ id, event.id? = some id → id < s.client.nextCancellation) :
    (∀ workId token, s'.client.tables.workTokens.lookup workId = some token →
      token.cancellation < s'.client.nextCancellation) ∧
    (∀ streamId source, s'.client.tables.sourceStreams.lookup streamId = some source →
      source.cancellation < s'.client.nextCancellation ∧
        source.request.context.workId = streamId) ∧
    (∀ event ∈ s'.client.history, ∀ id, event.id? = some id →
      id < s'.client.nextCancellation) := by
  rw [hNext]
  refine ⟨fun workId token hLook => h.tokens workId token (hTokens workId token hLook), ?_, ?_⟩
  · intro streamId source' hLook
    obtain ⟨source, hWas, hSame⟩ := hSources streamId source' hLook
    rw [hSame.cancellation, hSame.request]
    exact h.sources streamId source hWas
  · intro event hMem id hId
    obtain ⟨new, hEq, hNew⟩ := hHistory
    rw [hEq, List.mem_append] at hMem
    rcases hMem with hMem | hMem
    · exact hNew event hMem id hId
    · exact h.history event hMem id hId

/-- The parts about held jobs, when none is added. -/
theorem of_fewer (h : Jobs s) (hNext : s.client.nextCancellation ≤ s'.client.nextCancellation)
    (hWorkers : s'.workers = s.workers)
    (hDispatch : s'.client.queues.dispatch = s.client.queues.dispatch ∨
      s'.client.queues.dispatch = [])
    (hTokens : ∀ workId token, s'.client.tables.workTokens.lookup workId = some token →
      token.cancellation < s'.client.nextCancellation)
    (hSources : ∀ streamId source, s'.client.tables.sourceStreams.lookup streamId = some source →
      source.cancellation < s'.client.nextCancellation ∧
        source.request.context.workId = streamId)
    (hHistory : ∀ event ∈ s'.client.history, ∀ id, event.id? = some id →
      id < s'.client.nextCancellation)
    (hPending : ∀ job frame, s'.workReader.pending? = some (.commitImmediate job frame) →
      IsRequestJob job) : Jobs s' := by
  have hSubset : ∀ job ∈ s'.client.queues.dispatch, job ∈ s.client.queues.dispatch := by
    intro job hJob
    rcases hDispatch with hEq | hEq
    · rwa [hEq] at hJob
    · rw [hEq] at hJob
      cases hJob
  constructor
  · intro job hHeld
    obtain ⟨id, hId, hLt⟩ := h.held job (by
      rcases hHeld with hQueue | ⟨i, hWorker⟩
      · exact .inl (hSubset job hQueue)
      · exact .inr ⟨i, by rw [← hWorkers]; exact hWorker⟩)
    exact ⟨id, hId, Nat.lt_of_lt_of_le hLt hNext⟩
  · rw [hWorkers]
    exact h.workers
  · rw [hWorkers]
    exact fun i a b hA hB => h.mixed i a b hA (hSubset b hB)
  · rcases hDispatch with hEq | hEq
    · rw [hEq]
      exact h.queue
    · rw [hEq]
      exact .nil
  · exact hTokens
  · exact hSources
  · exact hHistory
  · exact hPending

/-- Without jobs only the client's part is left. -/
theorem of_jobless (hJobs : s'.Jobless)
    (hTokens : ∀ workId token, s'.client.tables.workTokens.lookup workId = some token →
      token.cancellation < s'.client.nextCancellation)
    (hSources : ∀ streamId source, s'.client.tables.sourceStreams.lookup streamId = some source →
      source.cancellation < s'.client.nextCancellation ∧
        source.request.context.workId = streamId)
    (hHistory : ∀ event ∈ s'.client.history, ∀ id, event.id? = some id →
      id < s'.client.nextCancellation)
    (hPending : ∀ job frame, s'.workReader.pending? = some (.commitImmediate job frame) →
      IsRequestJob job) : Jobs s' where
  held job hHeld := absurd hHeld (hJobs.not_holds job)
  workers i j a b _ hA := by
    rw [hJobs.workers i] at hA
    cases hA
  mixed i a b hA := by
    rw [hJobs.workers i] at hA
    cases hA
  queue := by
    rw [hJobs.dispatch]
    exact .nil
  tokens := hTokens
  sources := hSources
  history := hHistory
  pending := hPending

/-- A step of a worker keeps the jobs in order. -/
theorem workerStep (h : Jobs s) {i : Nat} {pc' : WorkerPc}
    (hMove : WorkerMove env s.client (s.workers i) pc' s'.client)
    (hWorkers : s'.workers = (s.setWorker i pc').workers)
    (hReader : s'.workReader = s.workReader) : Jobs s' := by
  -- tokens only go, no source is added, and events concern the job held
  obtain ⟨hTokens, hSources, hHistory⟩ := h.client_step s' hMove.nextCancellation
    (by
      intro workId token hLook
      rcases hMove.token workId with hSame | hNone
      · rwa [hSame] at hLook
      · rw [hNone] at hLook
        cases hLook)
    hMove.noNewSource
    (by
      obtain ⟨new, hEq, hNew⟩ := hMove.history
      refine ⟨new, hEq, fun event hMem id hId => ?_⟩
      obtain ⟨job, hJob, hEvent⟩ := hNew event hMem
      obtain ⟨id', hId', hLt⟩ := h.held job (.inr ⟨i, hJob⟩)
      rw [hEvent, hId', Option.some.injEq] at hId
      exact hId ▸ hLt)
  have hSelf : s'.workers i = pc' := by simp [hWorkers, System.setWorker]
  have hOther : ∀ j, j ≠ i → s'.workers j = s.workers j := by
    intro j hj
    simp [hWorkers, System.setWorker, hj]
  -- every job held by a worker after the step, and where it was before
  have hWas : ∀ j a, (s'.workers j).job? = some a →
      (s.workers j).job? = some a ∨
        (j = i ∧ s.client.queues.dispatch = a :: s'.client.queues.dispatch) := by
    intro j a hA
    by_cases hj : j = i
    · subst hj
      rw [hSelf] at hA
      -- this worker popped the head of the queue, or kept its job
      obtain ⟨job, hQueue, -, rfl⟩ | ⟨-, hJob⟩ := hMove.dispatch
      · cases hA
        exact .inr ⟨rfl, hQueue⟩
      · rcases hJob with hJob | hJob
        · exact .inl (by rw [← hJob]; exact hA)
        · rw [hJob] at hA
          cases hA
    · rw [hOther j hj] at hA
      exact .inl hA
  -- the queue only loses its head
  have hSubset : ∀ job ∈ s'.client.queues.dispatch, job ∈ s.client.queues.dispatch := by
    intro job hJob
    obtain ⟨a, hQueue, -, -⟩ | ⟨hSame, -⟩ := hMove.dispatch
    · rw [hQueue]
      exact List.mem_cons_of_mem _ hJob
    · rwa [hSame] at hJob
  constructor
  · -- every held job is older than the next cancellation
    rw [hMove.nextCancellation]
    intro job hHeld
    apply h.held job
    rcases hHeld with hQueue | ⟨j, hJ⟩
    · exact .inl (hSubset job hQueue)
    · rcases hWas j job hJ with hBefore | ⟨-, hQueue⟩
      · exact .inr ⟨j, hBefore⟩
      · exact .inl (by rw [hQueue]; exact List.mem_cons_self)
  · -- two workers hold jobs of different identity
    intro j k a b hne hA hB
    rcases hWas j a hA with hA | ⟨hj, hQueueA⟩
    · rcases hWas k b hB with hB | ⟨hk, hQueueB⟩
      · exact h.workers j k a b hne hA hB
      · exact h.mixed j a b hA (by rw [hQueueB]; exact List.mem_cons_self)
    · rcases hWas k b hB with hB | ⟨hk, -⟩
      · exact (h.mixed k b a hB (by rw [hQueueA]; exact List.mem_cons_self)).symm
      · exact absurd (hj.trans hk.symm) hne
  · -- no job is both held and queued
    intro j a b hA hB
    rcases hWas j a hA with hA | ⟨-, hQueue⟩
    · exact h.mixed j a b hA (hSubset b hB)
    · have hPair := h.queue
      rw [hQueue, List.pairwise_cons] at hPair
      exact hPair.1 b hB
  · -- and none is queued twice
    obtain ⟨a, hQueue, -, -⟩ | ⟨hSame, -⟩ := hMove.dispatch
    · have hPair := h.queue
      rw [hQueue, List.pairwise_cons] at hPair
      exact hPair.2
    · rw [hSame]
      exact h.queue
  · exact hTokens
  · exact hSources
  · exact hHistory
  · rw [hReader]
    exact h.pending

/-- An admission puts a job with a fresh identity at the end of the queue. -/
theorem admission (h : Jobs s) (job : DispatchJob) (hWorkers : s'.workers = s.workers)
    (hId : job.cancellation = some s.client.nextCancellation)
    (hNext : s'.client.nextCancellation = s.client.nextCancellation + 1)
    (hDispatch : s'.client.queues.dispatch = s.client.queues.dispatch ++ [job])
    (hTokens : ∀ workId token, s'.client.tables.workTokens.lookup workId = some token →
      token.cancellation < s'.client.nextCancellation)
    (hSources : ∀ streamId source, s'.client.tables.sourceStreams.lookup streamId = some source →
      source.cancellation < s'.client.nextCancellation ∧
        source.request.context.workId = streamId)
    (hHistory : ∃ event, s'.client.history = event :: s.client.history ∧
      event.id? = some s.client.nextCancellation)
    (hPending : s'.workReader.pending? = some .done) : Jobs s' := by
  have hFresh : ∀ a, s.Holds a → a.cancellation ≠ job.cancellation := by
    intro a hHeld hEq
    obtain ⟨id, hIdA, hLt⟩ := h.held a hHeld
    rw [hIdA, hId, Option.some.injEq] at hEq
    exact Nat.lt_irrefl _ (hEq ▸ hLt)
  constructor
  · rw [hNext]
    intro a hHeld
    have hCases : s.Holds a ∨ a = job := by
      rcases hHeld with hQueue | ⟨i, hWorker⟩
      · rw [hDispatch, List.mem_append, List.mem_singleton] at hQueue
        exact hQueue.imp_left .inl
      · exact .inl (.inr ⟨i, by rw [← hWorkers]; exact hWorker⟩)
    rcases hCases with hWas | rfl
    · obtain ⟨id, hIdA, hLt⟩ := h.held a hWas
      exact ⟨id, hIdA, Nat.lt_succ_of_lt hLt⟩
    · exact ⟨_, hId, Nat.lt_succ_self _⟩
  · rw [hWorkers]
    exact h.workers
  · rw [hWorkers, hDispatch]
    intro i a b hA hB
    rw [List.mem_append, List.mem_singleton] at hB
    rcases hB with hB | rfl
    · exact h.mixed i a b hA hB
    · exact hFresh a (.inr ⟨i, hA⟩)
  · rw [hDispatch, List.pairwise_append]
    refine ⟨h.queue, List.pairwise_singleton _ _, ?_⟩
    intro a hA b hB
    rw [List.mem_singleton] at hB
    exact hB ▸ hFresh a (.inl hA)
  · exact hTokens
  · exact hSources
  · obtain ⟨event, hEq, hEvent⟩ := hHistory
    rw [hEq, hNext]
    intro e hMem id hIdE
    rcases List.mem_cons.mp hMem with rfl | hMem
    · rw [hEvent, Option.some.injEq] at hIdE
      exact hIdE ▸ Nat.lt_succ_self _
    · exact Nat.lt_succ_of_lt (h.history e hMem id hIdE)
  · simp [hPending]

/-- A step of the Work reader keeps the jobs in order. -/
theorem readerStep (h : Jobs s)
    (hMove : ReaderMove env s.client s.workReader s'.workReader s'.client)
    (hWorkers : s'.workers = s.workers) : Jobs s' := by
  generalize hPc : s.workReader = pc at hMove
  generalize hPc' : s'.workReader = pc' at hMove
  generalize hC' : s'.client = c' at hMove
  -- a step that allocates nothing and queues nothing
  have hPlain : c'.nextCancellation = s.client.nextCancellation →
      c'.queues.dispatch = s.client.queues.dispatch →
      (∀ workId token, c'.tables.workTokens.lookup workId = some token →
        s.client.tables.workTokens.lookup workId = some token) →
      s.client.NoNewSource c' →
      (∃ new, c'.history = new ++ s.client.history ∧
        ∀ event ∈ new, ∀ id, event.id? = some id → id < s.client.nextCancellation) →
      (∀ job frame, pc'.pending? = some (.commitImmediate job frame) → IsRequestJob job) →
      Jobs s' := by
    intro hNext hDispatch hTokens hSources hHistory hPending
    subst hC'
    obtain ⟨hT, hS, hH⟩ := h.client_step s' hNext hTokens hSources hHistory
    exact h.of_fewer (Nat.le_of_eq hNext.symm) hWorkers (.inl hDispatch) hT hS hH
      (by rw [hPc']; exact hPending)
  have hCore : c'.core = s.client.core →
      (∀ job frame, pc'.pending? = some (.commitImmediate job frame) → IsRequestJob job) →
      Jobs s' := by
    intro hEq hPending
    refine hPlain (congrArg Core.nextCancellation hEq) (congrArg Core.dispatch hEq) ?_
      (.of_core hEq) ⟨[], congrArg Core.history hEq, by simp⟩ hPending
    have hTokens : c'.tables.workTokens = s.client.tables.workTokens :=
      congrArg (fun k : Core => k.tables.workTokens) hEq
    intro workId token hLook
    rwa [hTokens] at hLook
  -- sources that keep their identity, and events that belong to one of them
  have hSource : ∀ {streamId : Text} {source : SourceState},
      s.client.tables.sourceStreams.lookup streamId = some source →
      c'.nextCancellation = s.client.nextCancellation →
      c'.queues.dispatch = s.client.queues.dispatch →
      c'.tables.workTokens = s.client.tables.workTokens → s.client.NoNewSource c' →
      (∃ new, c'.history = new ++ s.client.history ∧
        ∀ event ∈ new, event.id? = some source.cancellation) →
      (∀ job frame, pc'.pending? ≠ some (.commitImmediate job frame)) → Jobs s' := by
    intro streamId source hActive hNext hDispatch hTokens hSources hHistory hPending
    obtain ⟨new, hEq, hNew⟩ := hHistory
    refine hPlain hNext hDispatch (by rw [hTokens]; exact fun _ _ hLook => hLook) hSources
      ⟨new, hEq, ?_⟩ fun job frame hTodo => absurd hTodo (hPending job frame)
    intro event hMem id hId
    rw [hNew event hMem, Option.some.injEq] at hId
    exact hId ▸ (h.sources _ _ hActive).1
  cases hMove with
  | quiet hSame hRest hPending =>
    refine hCore hSame fun job frame hTodo => ?_
    exact absurd (hPending _ hTodo) (by simp [FollowUp.Nameless])
  | answer hSame hRest hRetained => exact hCore hSame (by simp [WorkReaderPc.pending?])
  | immediate hJob hVerdict hSame hRest =>
    refine hCore hSame fun job frame hTodo => ?_
    simp only [WorkReaderPc.pending?, Option.some.injEq, FollowUp.commitImmediate.injEq] at hTodo
    exact hTodo.1 ▸ hJob
  | report sequence message =>
    exact hPlain rfl rfl (fun _ _ hLook => hLook) (.of_eq rfl)
      ⟨[.enqueued none _], rfl, by simp [WorkEvent.id?]⟩ (by simp [WorkReaderPc.pending?])
  | replay =>
    exact hPlain rfl rfl (fun _ _ hLook => hLook) (.of_eq rfl)
      ⟨[.enqueued none _], rfl, by simp [WorkEvent.id?]⟩ (by simp [WorkReaderPc.pending?])
  | @commit fence job frame entry hEntry hLedger =>
    have hJob := h.pending job frame (by rw [hPc]; rfl)
    have hUnconverted : s.client.tables.convertedReservation job = none := by
      unfold Tables.convertedReservation
      split
      · simp [hJob.cancellation]
      · rfl
    refine hPlain rfl rfl ?_ (.of_eq (by simp))
      ⟨[.enqueued job.cancellation frame, .retained job.cancellation job.workId], rfl, ?_⟩
      (by simp [WorkReaderPc.pending?])
    · intro workId token hLook
      simpa [Client.retainTerminal_workTokens, hUnconverted] using hLook
    · simp [hJob.cancellation, WorkEvent.id?]
  | @accept fence response job reservation hJob hVerdict =>
    refine h.admission { job with
        cancellation := some s.client.nextCancellation
        terminalReservationBytes := reservation } hWorkers rfl ?_ ?_ ?_ ?_ ?_ (by rw [hPc']; rfl)
    · rw [hC']
      rfl
    · rw [hC']
      rfl
    · rw [hC']
      intro workId token hLook
      simp only [Client.admitDispatch, Store.lookup_insert_ite] at hLook
      split at hLook
      · cases hLook
        exact Nat.lt_succ_self _
      · exact Nat.lt_succ_of_lt (h.tokens workId token hLook)
    · rw [hC']
      intro streamId source hLook
      obtain ⟨hLt, hKey⟩ := h.sources streamId source hLook
      exact ⟨Nat.lt_succ_of_lt hLt, hKey⟩
    · rw [hC']
      exact ⟨_, rfl, rfl⟩
  | @admitSource fence response job index bytes endpoint now hJob hVerdict =>
    refine h.admission { job with
        cancellation := some s.client.nextCancellation
        connectionEpoch := s.client.session.connectionEpochCounter } hWorkers rfl ?_ ?_ ?_ ?_ ?_
      (by rw [hPc']; rfl)
    · rw [hC']
      rfl
    · rw [hC']
      rfl
    · rw [hC']
      exact fun workId token hLook => Nat.lt_succ_of_lt (h.tokens workId token hLook)
    · rw [hC']
      intro streamId source hLook
      simp only [Client.admitSource, Store.lookup_insert_ite] at hLook
      split at hLook
      · rename_i hKey
        cases hLook
        exact ⟨Nat.lt_succ_self _, hJob.workId.trans hKey.symm⟩
      · obtain ⟨hLt, hKey⟩ := h.sources streamId source hLook
        exact ⟨Nat.lt_succ_of_lt hLt, hKey⟩
    · rw [hC']
      exact ⟨_, rfl, rfl⟩
  | @rejectSource fence response job bytes error digest now hJob hVerdict =>
    have hNext : s'.client.nextCancellation = s.client.nextCancellation + 1 := by
      rw [hC']
      rfl
    refine h.of_fewer (by rw [hNext]; exact Nat.le_succ _) hWorkers (.inl (by rw [hC']; rfl))
      ?_ ?_ ?_ (by simp [hPc', WorkReaderPc.pending?])
    · rw [hC']
      exact fun workId token hLook => Nat.lt_succ_of_lt (h.tokens workId token hLook)
    · rw [hC']
      intro streamId source hLook
      obtain ⟨hLt, hKey⟩ := h.sources streamId source hLook
      exact ⟨Nat.lt_succ_of_lt hLt, hKey⟩
    · rw [hC']
      intro event hMem id hId
      rcases List.mem_cons.mp hMem with rfl | hMem
      · simp only [WorkEvent.id?, Option.some.injEq] at hId
        exact hId ▸ Nat.lt_succ_self _
      · exact Nat.lt_succ_of_lt (h.history event hMem id hId)
  | retireSource hEq hRest =>
    have hNext : c'.nextCancellation = s.client.nextCancellation + 1 :=
      congrArg Core.nextCancellation hEq
    have hDispatch : c'.queues.dispatch = s.client.queues.dispatch := congrArg Core.dispatch hEq
    have hTables : c'.tables = s.client.tables := congrArg Core.tables hEq
    have hHistory : c'.history = s.client.history := congrArg Core.history hEq
    refine h.of_fewer (by rw [hC', hNext]; exact Nat.le_succ _) hWorkers
      (.inl (by rw [hC', hDispatch])) ?_ ?_ ?_
      (by simp [hPc', WorkReaderPc.pending?, retireForSource])
    · rw [hC', hTables, hNext]
      exact fun workId token hLook => Nat.lt_succ_of_lt (h.tokens workId token hLook)
    · rw [hC', hTables, hNext]
      intro streamId source hLook
      obtain ⟨hLt, hKey⟩ := h.sources streamId source hLook
      exact ⟨Nat.lt_succ_of_lt hLt, hKey⟩
    · rw [hC', hHistory, hNext]
      exact fun event hMem id hId => Nat.lt_succ_of_lt (h.history event hMem id hId)
  | @grant fence response streamId source acknowledged messages bytes hActive =>
    have hSame : source.SameSource (source.granted acknowledged messages bytes) :=
      ⟨rfl, rfl, rfl, rfl, rfl, rfl⟩
    exact hSource hActive rfl rfl rfl (.of_insert hActive hSame rfl)
      ⟨[.granted source.cancellation messages bytes], rfl, by simp [WorkEvent.id?]⟩
      (by simp [WorkReaderPc.pending?])
  | lateGrant hClosed =>
    exact hPlain rfl rfl (fun _ _ hLook => hLook) (.of_eq rfl) ⟨[], rfl, by simp⟩
      (by simp [WorkReaderPc.pending?])
  | @acknowledge _ _ _ workId =>
    exact hPlain rfl rfl (fun _ _ hLook => hLook) (.of_eq rfl)
      ⟨[.acknowledged workId], rfl, by simp [WorkEvent.id?]⟩ (by simp [WorkReaderPc.pending?])
  | acknowledgeSource hClosed =>
    exact hPlain rfl rfl (fun _ _ hLook => hLook) (.of_eq rfl) ⟨[], rfl, by simp⟩
      (by simp [WorkReaderPc.pending?])
  | @cancelOpening fence response streamId source cancellation hFrame hIdentity hActive =>
    exact hSource hActive rfl rfl rfl (.of_eq rfl)
      ⟨[.sourceCancelled source.cancellation], rfl, by simp [WorkEvent.id?]⟩
      (by simp [WorkReaderPc.pending?])
  | @cancelRefused fence response _ streamId source reason cancellation hFrame hIdentity hActive
      hEpoch hPhase hRefused =>
    have hEq := hRefused.core
    exact hSource hActive (congrArg Core.nextCancellation hEq) (congrArg Core.dispatch hEq)
      (congrArg (fun k : Core => k.tables.workTokens) hEq)
      (.of_eq (congrArg (fun k : Core => k.tables.sourceStreams) hEq))
      ⟨[.sourceCancelled source.cancellation], congrArg Core.history hEq, by simp [WorkEvent.id?]⟩
      (by simp [WorkReaderPc.pending?])
  | @cancelOpened fence response streamId source error digest cancellation hFrame hIdentity
      hActive =>
    exact hSource hActive rfl rfl rfl (.of_erase rfl)
      ⟨[.enqueued (some source.cancellation) _, .sourceCancelled source.cancellation], rfl,
        by simp [WorkEvent.id?]⟩ (by simp [WorkReaderPc.pending?])

/-- A call of the application about a source. -/
theorem sourceCall (h : Jobs s)
    (hNext : s'.client.nextCancellation = s.client.nextCancellation)
    (hDispatch : s'.client.queues.dispatch = s.client.queues.dispatch)
    (hTokens : s'.client.tables.workTokens = s.client.tables.workTokens)
    (hSources : s.client.NoNewSource s'.client)
    (hHistory : ∃ new, s'.client.history = new ++ s.client.history ∧
      ∀ event ∈ new, ∃ k source, s.client.tables.sourceStreams.lookup k = some source ∧
        event.id? = some source.cancellation)
    (hWorkers : s'.workers = s.workers) (hReader : s'.workReader = s.workReader) : Jobs s' := by
  obtain ⟨new, hEq, hNew⟩ := hHistory
  obtain ⟨hT, hS, hH⟩ := h.client_step s' hNext
    (by rw [hTokens]; exact fun _ _ hLook => hLook) hSources ⟨new, hEq, by
      intro event hMem id hId
      obtain ⟨k, source, hActive, hEvent⟩ := hNew event hMem
      rw [hEvent, Option.some.injEq] at hId
      exact hId ▸ (h.sources k source hActive).1⟩
  exact h.of_fewer (Nat.le_of_eq hNext.symm) hWorkers (.inl hDispatch) hT hS hH
    (by rw [hReader]; exact h.pending)

end Jobs

/-- `Jobs` holds in every reachable state. -/
theorem jobs_of_reachable (h : (machine env).Reachable s) : Jobs s := by
  refine h.invariant (I := Jobs) ?_ ?_
  · -- no job at first
    refine Jobs.of_jobless ⟨rfl, fun _ => rfl⟩ ?_ ?_ ?_ ?_ <;>
      simp [machine, WorkReaderPc.pending?]
  · intro s a s' hReach hJobs hStep
    cases planeMove_of_step (shape_of_reachable hReach) hStep with
    | worker hAction hWorker hMove hWorkers hReader hHolds =>
      exact hJobs.workerStep hMove hWorkers hReader
    | reader hAction hMove hWorkers hWork => exact hJobs.readerStep hMove hWorkers
    | publish hAction hClient hWorkers hReader =>
      -- the application touches its own sources only
      obtain ⟨hSources, hNext, hDispatch, hHistory⟩ := publishSource_plane
      refine hJobs.sourceCall ?_ ?_ ?_ ?_ ?_ hWorkers hReader <;> rw [hClient]
      · exact hNext
      · exact hDispatch
      · exact tokens_publishSource.1
      · exact hSources
      · exact hHistory
    | close hAction hClient hWorkers hReader =>
      obtain ⟨hSources, hNext, hDispatch, hHistory⟩ := closeSource_plane
      refine hJobs.sourceCall ?_ ?_ ?_ ?_ ?_ hWorkers hReader <;> rw [hClient]
      · exact hNext
      · exact hDispatch
      · exact tokens_closeSource.1
      · exact hSources
      · exact hHistory
    | quiet hCore hSteady hWorkers hReader =>
      -- tables and queues are as before, and so is the history
      have hTables : s'.client.tables = s.client.tables := congrArg Core.tables hCore
      obtain ⟨hT, hS, hH⟩ := hJobs.client_step s' (congrArg Core.nextCancellation hCore)
        (by rw [hTables]; exact fun _ _ hLook => hLook) (.of_core hCore)
        ⟨[], congrArg Core.history hCore, by simp⟩
      refine hJobs.of_fewer (Nat.le_of_eq (congrArg Core.nextCancellation hCore).symm) hWorkers
        (.inl (congrArg Core.dispatch hCore)) hT hS hH ?_
      rcases hReader with hSame | hNone
      · rw [hSame]
        exact hJobs.pending
      · simp [hNone]
    | deactivate hCore hSteady hWorkers hReader hControl =>
      -- the sources are gone, tokens and jobs stay
      obtain ⟨hT, hS, hH⟩ := hJobs.client_step s' (congrArg Core.nextCancellation hCore)
        (by
          have hTokens : s'.client.tables.workTokens = s.client.tables.workTokens :=
            congrArg (fun k : Core => k.tables.workTokens) hCore
          rw [hTokens]
          exact fun _ _ hLook => hLook)
        (.of_empty (congrArg (fun k : Core => k.tables.sourceStreams) hCore))
        ⟨[], congrArg Core.history hCore, by simp⟩
      exact hJobs.of_fewer (Nat.le_of_eq (congrArg Core.nextCancellation hCore).symm) hWorkers
        (.inl (congrArg Core.dispatch hCore)) hT hS hH (by rw [hReader]; exact hJobs.pending)
    | drop hPhase hCore hSteady hWorkers hReader =>
      -- the queue is dropped with the sources
      obtain ⟨hT, hS, hH⟩ := hJobs.client_step s' (congrArg Core.nextCancellation hCore)
        (by
          have hTokens : s'.client.tables.workTokens = s.client.tables.workTokens :=
            congrArg (fun k : Core => k.tables.workTokens) hCore
          rw [hTokens]
          exact fun _ _ hLook => hLook)
        (.of_empty (congrArg (fun k : Core => k.tables.sourceStreams) hCore))
        ⟨[], congrArg Core.history hCore, by simp⟩
      exact hJobs.of_fewer (Nat.le_of_eq (congrArg Core.nextCancellation hCore).symm) hWorkers
        (.inr (congrArg Core.dispatch hCore)) hT hS hH (by rw [hReader]; exact hJobs.pending)
    | release hPhase hNone hNone' hCore hReader =>
      -- no job is left when the tokens are released
      have hTokens : s'.client.tables.workTokens = ∅ :=
        (congrArg (fun k : Core => k.tables.workTokens) hCore).trans (by simp)
      have hSources : s'.client.tables.sourceStreams = s.client.tables.sourceStreams :=
        (congrArg (fun k : Core => k.tables.sourceStreams) hCore).trans (by simp)
      obtain ⟨hT, hS, hH⟩ := hJobs.client_step s' (congrArg Core.nextCancellation hCore)
        (by
          rw [hTokens]
          intro workId token hLook
          cases hLook) (.of_eq hSources) ⟨[], congrArg Core.history hCore, by simp⟩
      exact .of_jobless hNone' hT hS hH (by rw [hReader]; exact hJobs.pending)
    | outside hPhase hNone hNone' hTokens hTokens' hReplay hSources hClosed hHistory hNext
        hReader =>
      -- outside a pair there are neither jobs nor tokens
      obtain ⟨hT, hS, hH⟩ := hJobs.client_step s' hNext
        (by
          rw [hTokens']
          intro workId token hLook
          cases hLook)
        (hSources.elim .of_eq .of_empty) ⟨[], hHistory, by simp⟩
      exact .of_jobless hNone' hT hS hH (by simp [hReader])

-- ---------------------------------------------------------------------------
-- Where held jobs and tokens come from
-- ---------------------------------------------------------------------------

/-- The reader is about to handle a unary or operation request for `workId`. -/
def WorkReaderPc.Asks (pc : WorkReaderPc) (workId : Text) : Prop :=
  ∃ fence response, pc = .handling fence response ∧ response.frame.dispatchId? = some workId

/-- The step admits the request `job` of the Host: the job that enters the queue
is `job` with the fresh identity and its reservation. -/
structure Admits (env : Env) (s : System) (job : DispatchJob) (reservation : Nat) (s' : System) :
    Prop where
  request : IsRequestJob job
  verdict : dispatchVerdict env s.client job = .accept reservation
  client : s'.client = s.client.admitDispatch job reservation
  workers : s'.workers = s.workers
  phase : s.supervisor.phase.work = true
  asked : s.workReader.Asks job.workId

/-- The job an admission queues. -/
def DispatchJob.admittedAs (job : DispatchJob) (id : CancellationId) (reservation : Nat) :
    DispatchJob :=
  { job with cancellation := some id, terminalReservationBytes := reservation }

/-- The step admits the source request `job`. -/
structure AdmitsSource (env : Env) (s : System) (job : DispatchJob) (s' : System) : Prop where
  request : IsSourceJob job
  verdict : ∃ now index endpoint bytes,
    sourceOpenVerdict env s.client now job = .accept index endpoint bytes ∧
    s'.client = s.client.admitSource job index endpoint bytes
  workers : s'.workers = s.workers
  phase : s.supervisor.phase.work = true

/-- The job the admission of a source queues. -/
def DispatchJob.openedAs (job : DispatchJob) (id : CancellationId) (epoch : Nat) : DispatchJob :=
  { job with cancellation := some id, connectionEpoch := epoch }

/-- A step of the reader queues nothing, or admits one job. -/
theorem ReaderMove.dispatch {pc pc' : WorkReaderPc} (h : ReaderMove env c pc pc' c') :
    c'.queues.dispatch = c.queues.dispatch ∨
    (∃ job reservation, IsRequestJob job ∧ dispatchVerdict env c job = .accept reservation ∧
      c' = c.admitDispatch job reservation ∧ pc.Asks job.workId) ∨
    ∃ job now index endpoint bytes, IsSourceJob job ∧
      sourceOpenVerdict env c now job = .accept index endpoint bytes ∧
      c' = c.admitSource job index endpoint bytes := by
  cases h with
  | quiet hCore hRest hPending => exact .inl (congrArg Core.dispatch hCore)
  | answer hCore hRest hRetained => exact .inl (congrArg Core.dispatch hCore)
  | immediate hJob hVerdict hCore hRest => exact .inl (congrArg Core.dispatch hCore)
  | retireSource hCore hRest => exact .inl (congrArg Core.dispatch hCore)
  | cancelRefused hFrame hIdentity hActive hEpoch hPhase hRefused =>
    exact .inl (congrArg Core.dispatch hRefused.core)
  | accept hJob hVerdict hId => exact .inr (.inl ⟨_, _, hJob, hVerdict, rfl, _, _, rfl, hId⟩)
  | admitSource hJob hVerdict => exact .inr (.inr ⟨_, _, _, _, _, hJob, hVerdict, rfl⟩)
  | report | replay | commit | rejectSource | grant | lateGrant | acknowledge
  | acknowledgeSource | cancelOpening | cancelOpened => exact .inl rfl

/-- A job that is held after a step was held before, or the step admitted it. -/
theorem PlaneMove.holds {a : Action} (h : PlaneMove env s a s') {job : DispatchJob}
    (hHeld : s'.Holds job) :
    s.Holds job ∨
    (∃ request reservation, Admits env s request reservation s' ∧
      job = request.admittedAs s.client.nextCancellation reservation) ∨
    ∃ request, AdmitsSource env s request s' ∧
      job = request.openedAs s.client.nextCancellation
        s.client.session.connectionEpochCounter := by
  have hSame : s'.workers = s.workers →
      (s'.client.queues.dispatch = s.client.queues.dispatch ∨
        s'.client.queues.dispatch = []) → s.Holds job := by
    intro hWorkers hDispatch
    rcases hHeld with hQueue | ⟨i, hWorker⟩
    · rcases hDispatch with hEq | hEq
      · exact .inl (by rwa [hEq] at hQueue)
      · rw [hEq] at hQueue
        cases hQueue
    · exact .inr ⟨i, by rwa [hWorkers] at hWorker⟩
  cases h with
  | @worker i input pc' hAction hStep hMove hWorkers hReader hHolds =>
    refine .inl ?_
    -- in the queue before, or held by some worker
    rcases hHeld with hQueue | ⟨j, hWorker⟩
    · obtain ⟨popped, hEq, -, -⟩ | ⟨hEq, -⟩ := hMove.dispatch
      · exact .inl (by rw [hEq]; exact List.mem_cons_of_mem _ hQueue)
      · exact .inl (by rwa [hEq] at hQueue)
    · by_cases hj : j = i
      · subst hj
        have hPc : (s'.workers j).job? = pc'.job? := by simp [hWorkers, System.setWorker]
        rw [hPc] at hWorker
        -- popped by this step, or held before
        obtain ⟨popped, hEq, -, rfl⟩ | ⟨-, hJob | hJob⟩ := hMove.dispatch
        · cases hWorker
          exact .inl (by rw [hEq]; exact List.mem_cons_self)
        · exact .inr ⟨j, by rwa [hJob] at hWorker⟩
        · rw [hJob] at hWorker
          cases hWorker
      · refine .inr ⟨j, ?_⟩
        simpa [hWorkers, System.setWorker, hj] using hWorker
  | reader hAction hMove hWorkers hWork =>
    obtain hEq | ⟨request, reservation, hRequest, hVerdict, hClient, hAsks⟩ |
      ⟨request, now, index, endpoint, bytes, hRequest, hVerdict, hClient⟩ := hMove.dispatch
    · -- no admission, a request, or a source open
      exact .inl (hSame hWorkers (.inl hEq))
    · rcases hHeld with hQueue | hWorker
      · rw [hClient] at hQueue
        rcases List.mem_append.mp hQueue with hQueue | hQueue
        · exact .inl (.inl hQueue)
        · exact .inr (.inl ⟨request, reservation,
            ⟨hRequest, hVerdict, hClient, hWorkers, hWork, hAsks⟩,
            List.mem_singleton.mp hQueue⟩)
      · exact .inl (.inr (by rwa [hWorkers] at hWorker))
    · rcases hHeld with hQueue | hWorker
      · rw [hClient] at hQueue
        rcases List.mem_append.mp hQueue with hQueue | hQueue
        · exact .inl (.inl hQueue)
        · exact .inr (.inr ⟨request,
            ⟨hRequest, ⟨now, index, endpoint, bytes, hVerdict, hClient⟩, hWorkers, hWork⟩,
            List.mem_singleton.mp hQueue⟩)
      · exact .inl (.inr (by rwa [hWorkers] at hWorker))
  | publish hAction hClient hWorkers hReader =>
    exact .inl (hSame hWorkers (.inl (by rw [hClient]; exact tokens_publishSource.2)))
  | close hAction hClient hWorkers hReader =>
    exact .inl (hSame hWorkers (.inl (by rw [hClient]; exact tokens_closeSource.2)))
  | quiet hCore hSteady hWorkers hReader =>
    -- the threads without jobs
    exact .inl (hSame hWorkers (.inl (congrArg Core.dispatch hCore)))
  | deactivate hCore hSteady hWorkers hReader hControl =>
    exact .inl (hSame hWorkers (.inl (congrArg Core.dispatch hCore)))
  | drop hPhase hCore hSteady hWorkers hReader =>
    exact .inl (hSame hWorkers (.inr (congrArg Core.dispatch hCore)))
  -- nobody holds a job any more
  | release hPhase hNone hNone' hCore hReader => exact absurd hHeld (hNone'.not_holds job)
  | outside hPhase hNone hNone' => exact absurd hHeld (hNone'.not_holds job)

/-- A token of the reader's client was there before, or the step admitted it. -/
theorem ReaderMove.token {pc pc' : WorkReaderPc} (h : ReaderMove env c pc pc' c')
    {workId : Text} {token : WorkTokenState}
    (hToken : c'.tables.workTokens.lookup workId = some token) :
    c.tables.workTokens.lookup workId = some token ∨
    ∃ job reservation, IsRequestJob job ∧ dispatchVerdict env c job = .accept reservation ∧
      c' = c.admitDispatch job reservation ∧ pc.Asks job.workId ∧ workId = job.workId ∧
      token = ⟨c.nextCancellation, reservation⟩ := by
  cases h with
  | quiet hCore hRest hPending =>
    have hEq : c'.tables.workTokens = c.tables.workTokens :=
      congrArg (fun k : Core => k.tables.workTokens) hCore
    exact .inl (by rwa [hEq] at hToken)
  | answer hCore hRest hRetained =>
    have hEq : c'.tables.workTokens = c.tables.workTokens :=
      congrArg (fun k : Core => k.tables.workTokens) hCore
    exact .inl (by rwa [hEq] at hToken)
  | immediate hJob hVerdict hCore hRest =>
    have hEq : c'.tables.workTokens = c.tables.workTokens :=
      congrArg (fun k : Core => k.tables.workTokens) hCore
    exact .inl (by rwa [hEq] at hToken)
  | retireSource hCore hRest =>
    have hEq : c'.tables.workTokens = c.tables.workTokens :=
      congrArg (fun k : Core => k.tables.workTokens) hCore
    exact .inl (by rwa [hEq] at hToken)
  | cancelRefused hFrame hIdentity hActive hEpoch hPhase hRefused =>
    have hEq : c'.tables.workTokens = c.tables.workTokens :=
      congrArg (fun k : Core => k.tables.workTokens) hRefused.core
    exact .inl (by rwa [hEq] at hToken)
  | commit hEntry hLedger =>
    rw [Client.tables_committed, Client.retainTerminal_workTokens] at hToken
    split at hToken
    · rw [Store.lookup_erase_ite] at hToken
      split at hToken
      · cases hToken
      · exact .inl hToken
    · exact .inl hToken
  | @accept fence response job reservation hJob hVerdict hId =>
    have hCopy := hToken
    simp only [Client.admitDispatch, Store.lookup_insert_ite] at hCopy
    split at hCopy
    · rename_i hKey
      cases hCopy
      exact .inr ⟨job, reservation, hJob, hVerdict, rfl, ⟨_, _, rfl, hId⟩, hKey, rfl⟩
    · exact .inl hCopy
  | report | replay | admitSource | rejectSource | grant | lateGrant | acknowledge
  | acknowledgeSource | cancelOpening | cancelOpened => exact .inl hToken

/-- A token that exists after a step existed before, or the step admitted its
job. -/
theorem PlaneMove.token {a : Action} (h : PlaneMove env s a s') {workId : Text}
    {token : WorkTokenState}
    (hToken : s'.client.tables.workTokens.lookup workId = some token) :
    s.client.tables.workTokens.lookup workId = some token ∨
    ∃ request reservation, Admits env s request reservation s' ∧ workId = request.workId ∧
      token = ⟨s.client.nextCancellation, reservation⟩ := by
  have hSame : s'.client.tables.workTokens = s.client.tables.workTokens →
      s.client.tables.workTokens.lookup workId = some token := fun hEq => by rwa [hEq] at hToken
  cases h with
  | worker hAction hStep hMove hWorkers hReader hHolds =>
    rcases hMove.token workId with hEq | hNone
    · exact .inl (by rwa [hEq] at hToken)
    · rw [hNone] at hToken
      cases hToken
  | reader hAction hMove hWorkers hWork =>
    obtain hWas | ⟨request, reservation, hRequest, hVerdict, hClient, hAsks, hKey, hEq⟩ :=
      hMove.token hToken
    · exact .inl hWas
    · exact .inr ⟨request, reservation,
        ⟨hRequest, hVerdict, hClient, hWorkers, hWork, hAsks⟩, hKey, hEq⟩
  | publish hAction hClient hWorkers hReader =>
    exact .inl (hSame (by rw [hClient]; exact tokens_publishSource.1))
  | close hAction hClient hWorkers hReader =>
    exact .inl (hSame (by rw [hClient]; exact tokens_closeSource.1))
  | quiet hCore hSteady hWorkers hReader =>
    exact .inl (hSame (congrArg (fun k : Core => k.tables.workTokens) hCore))
  | deactivate hCore hSteady hWorkers hReader hControl =>
    exact .inl (hSame (congrArg (fun k : Core => k.tables.workTokens) hCore))
  | drop hPhase hCore hSteady hWorkers hReader =>
    exact .inl (hSame (congrArg (fun k : Core => k.tables.workTokens) hCore))
  | release hPhase hNone hNone' hCore hReader =>
    have hEq : s'.client.tables.workTokens = ∅ :=
      (congrArg (fun k : Core => k.tables.workTokens) hCore).trans (by simp)
    rw [hEq] at hToken
    cases hToken
  | outside hPhase hNone hNone' hTokens hTokens' =>
    rw [hTokens'] at hToken
    cases hToken

/-- The frame limit does not change while a job is held. -/
theorem PlaneMove.frameLimit {a : Action} (h : PlaneMove env s a s') {job : DispatchJob}
    (hHeld : s'.Holds job) :
    s'.client.session.maximumWorkFrameBytes = s.client.session.maximumWorkFrameBytes := by
  cases h with
  | worker hAction hStep hMove hWorkers hReader hHolds => exact hMove.subsides.frameLimit
  | reader hAction hMove hWorkers hWork => exact hMove.subsides.frameLimit
  | publish hAction hClient hWorkers hReader =>
    rw [hClient]
    exact subsides_publishSource.frameLimit
  | close hAction hClient hWorkers hReader =>
    rw [hClient]
    exact subsides_closeSource.frameLimit
  | quiet hCore hSteady hWorkers hReader => exact hSteady.frameLimit
  | deactivate hCore hSteady hWorkers hReader hControl => exact hSteady.frameLimit
  | drop hPhase hCore hSteady hWorkers hReader => exact hSteady.frameLimit
  | release hPhase hNone hNone' hCore hReader => exact absurd hHeld (hNone'.not_holds job)
  | outside hPhase hNone hNone' => exact absurd hHeld (hNone'.not_holds job)

end AdapterRuntime.Model
