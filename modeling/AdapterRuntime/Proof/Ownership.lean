import AdapterRuntime.Model.Deployment
import AdapterRuntime.Proof.Ledger
import AdapterRuntime.Proof.Replay

/-!
# AdapterRuntime — token ownership

A job that has neither committed its terminal nor been released holds its own
entry of `work_tokens_`. Tokens are keyed by the work id alone, and a worker
releases the token of its work id in a section after the commit, so the
property needs the condition `releasesOwn`: no release finds the token of
another job.

* `System.Owes` — the jobs that still owe their terminal.
* `token_owned` — each of them holds its token, is reached by a cancellation
  of its work id, and excludes a second admission.
* `token_lost` — without the condition: an acknowledged identity is reused
  before the worker of the first job has released it.
-/

namespace AdapterRuntime.Model

open AdapterRuntime.Lib

/-- The job has neither committed its terminal nor been released. -/
def Stage.owes : Stage → Bool
  | .fresh | .refusing | .accepted | .running | .returned | .failed => true
  | .free | .committed | .left | .opening | .sourceDone => false

/-- The job whose token the next section of the worker releases. -/
def WorkerPc.releases? : WorkerPc → Option DispatchJob
  | .eraseToken job _ | .finish job _ => some job
  | _ => none

/-- The job has been admitted, and it has neither committed its terminal nor
been released by its worker. -/
def System.Owes (s : System) (job : DispatchJob) : Prop :=
  job.kind ≠ .sourceOpen ∧
    (job ∈ s.client.queues.dispatch ∨
      ∃ i, (s.workers i).job? = some job ∧ (s.workers i).stage.owes = true)

/-- A section that releases the token of a work id finds no token there, or the
token of the job it releases. -/
def releasesOwn (s : System) : Action → Bool
  | .worker i _ =>
    match (s.workers i).releases? with
    | some job =>
      (s.client.tables.workTokens.lookup job.workId).all fun token =>
        job.cancellation == some token.cancellation
    | none => true
  | _ => true

/-- A worker that releases its own token owns what it releases. -/
theorem releasesOwn_token {s : System} {i : Nat} {input : WorkerInput} {job : DispatchJob}
    {workId : Text} {token : WorkTokenState} (h : releasesOwn s (.worker i input) = true)
    (hReleases : (s.workers i).releases? = some job) (hKey : job.workId = workId)
    (hToken : s.client.tables.workTokens.lookup workId = some token) :
    job.cancellation = some token.cancellation := by
  subst hKey
  simpa [releasesOwn, hReleases, hToken] using h

/-- The job's own token is in the table. -/
def Client.OwnsToken (c : Client) (job : DispatchJob) : Prop :=
  ∃ token, c.tables.workTokens.lookup job.workId = some token ∧
    job.cancellation = some token.cancellation

/-- Every job that owes its terminal holds its token. -/
def Owned (s : System) : Prop := ∀ job, s.Owes job → s.client.OwnsToken job

variable {env : Env} {s s' : System} {c c' : Client}

/-- A job that owes a terminal is held. -/
theorem System.Owes.holds {job : DispatchJob} (h : s.Owes job) : s.Holds job :=
  h.2.imp_right fun ⟨i, hJob, _⟩ => ⟨i, hJob⟩

-- ---------------------------------------------------------------------------
-- What happens to a token
-- ---------------------------------------------------------------------------

/-- A step of a worker keeps a token, or its job commits by it, or the worker
releases the token's work id. -/
theorem WorkerMove.token_kept {pc pc' : WorkerPc} (h : WorkerMove env c pc pc' c')
    {workId : Text} {token : WorkTokenState}
    (hToken : c.tables.workTokens.lookup workId = some token) :
    c'.tables.workTokens.lookup workId = some token ∨
    ∃ job, pc.job? = some job ∧ job.workId = workId ∧ pc'.stage.owes = false ∧
      (job.cancellation = some token.cancellation ∨ pc.releases? = some job) := by
  have hErase : ∀ k : Text, (c.tables.workTokens.erase k).lookup workId = some token ∨
      k = workId := by
    intro k
    rw [Store.lookup_erase_ite]
    split
    · rename_i hKey
      exact .inr hKey.symm
    · exact .inl hToken
  cases h with
  | @commit _ _ job now frame entry hJob hDue hNext hAdmits hEntry hLedger =>
    rw [Client.tables_committed, Client.retainTerminal_workTokens]
    -- the commit erases the token it converts
    split
    · rename_i hConverts
      rcases hErase job.workId with hKept | hKey
      · exact .inl hKept
      · obtain ⟨reservation, hConverts⟩ := Option.isSome_iff_exists.mp hConverts
        obtain ⟨own, hOwn, hCancellation, -⟩ := Ledger.convertedReservation_some hConverts
        rw [hKey, hToken, Option.some.injEq] at hOwn
        refine .inr ⟨job, hJob, hKey, ?_, .inl (by rw [hCancellation, hOwn])⟩
        rcases hNext with rfl | rfl <;> rfl
    · exact .inl hToken
  | @erase _ job committed hCore hRest =>
    -- the token is released by the worker that gives up its job
    have hEq : c'.tables.workTokens = (c.tables.releaseWorkToken job.workId).workTokens :=
      congrArg (fun k : Core => k.tables.workTokens) hCore
    rw [hEq, Tables.releaseWorkToken_workTokens]
    exact (hErase job.workId).imp_right fun hKey => ⟨job, rfl, hKey, rfl, .inr rfl⟩
  | @finish _ job committed hCore hRest =>
    -- and by the one that has finished
    have hEq : c'.tables.workTokens = (c.tables.releaseWorkToken job.workId).workTokens :=
      congrArg (fun k : Core => k.tables.workTokens) hCore
    rw [hEq, Tables.releaseWorkToken_workTokens]
    exact (hErase job.workId).imp_right fun hKey => ⟨job, rfl, hKey, rfl, .inr rfl⟩
  | exit | pop | accept | leave => exact .inl hToken
  | quiet hJob hJob' hCore hRest hStage =>
    -- the other steps of a job keep every token
    have hEq : c'.tables.workTokens = c.tables.workTokens :=
      congrArg (fun k : Core => k.tables.workTokens) hCore
    exact .inl (by rwa [hEq])
  | startOperation now | startUnary hKind | startSource =>
    refine .inl ?_
    unfold Client.recordStarted
    split <;> exact hToken
  | returnUnary _ hKind | returnOperation _ hKind | returnSource =>
    refine .inl ?_
    unfold Client.recordReturned
    split <;> exact hToken
  | refuse now hJob hDue hCommit hResult hNext =>
    -- a refused commit leaves the plane alone
    obtain ⟨hCommitted, -⟩ | ⟨-, hRefused⟩ := Client.commitTerminalFrame_cases hCommit
    · exact absurd hCommitted hResult
    · have hEq : c'.tables.workTokens = c.tables.workTokens :=
        congrArg (fun k : Core => k.tables.workTokens) hRefused.core
      exact .inl (by rwa [hEq])
  | commitSource hCommit hJob' hStage' =>
    -- a source has no token
    obtain ⟨-, rfl, -⟩ | ⟨source, -, -, -, -, hCases⟩ := commitSourceOpen_cases hCommit
    · exact .inl hToken
    · obtain ⟨-, hRefused⟩ | ⟨-, -, rfl⟩ | ⟨-, -, digest, rfl⟩ := hCases
      · have hEq : c'.tables.workTokens = c.tables.workTokens :=
          congrArg (fun k : Core => k.tables.workTokens) hRefused.core
        exact .inl (by rwa [hEq])
      · exact .inl hToken
      · exact .inl hToken
  | leaveSource hCore hRest =>
    have hEq : c'.tables.workTokens = c.tables.workTokens :=
      congrArg (fun k : Core => k.tables.workTokens) hCore
    exact .inl (by rwa [hEq])

/-- A step of the reader keeps every token: the jobs it commits have none. -/
theorem ReaderMove.token_kept {pc pc' : WorkReaderPc} (h : ReaderMove env c pc pc' c')
    (hPending : ∀ job frame, pc.pending? = some (.commitImmediate job frame) → IsRequestJob job)
    {workId : Text} {token : WorkTokenState}
    (hToken : c.tables.workTokens.lookup workId = some token) :
    c'.tables.workTokens.lookup workId = some token := by
  have hCore : c'.core = c.core → c'.tables.workTokens.lookup workId = some token := by
    intro hEq
    have hTokens : c'.tables.workTokens = c.tables.workTokens :=
      congrArg (fun k : Core => k.tables.workTokens) hEq
    rwa [hTokens]
  cases h with
  | quiet hSame hRest hNameless => exact hCore hSame
  | answer hSame hRest hRetained => exact hCore hSame
  | immediate hJob hVerdict hSame hRest => exact hCore hSame
  | retireSource hSame hRest =>
    have hTokens : c'.tables.workTokens = c.tables.workTokens :=
      congrArg (fun k : Core => k.tables.workTokens) hSame
    rwa [hTokens]
  | cancelRefused hFrame hIdentity hActive hEpoch hPhase hRefused =>
    have hTokens : c'.tables.workTokens = c.tables.workTokens :=
      congrArg (fun k : Core => k.tables.workTokens) hRefused.core
    rwa [hTokens]
  | @commit fence job frame entry hEntry hLedger =>
    have hNone := (hPending job frame rfl).cancellation
    rw [Client.tables_committed, Client.retainTerminal_workTokens]
    split
    · rename_i hConverts
      obtain ⟨reservation, hConverts⟩ := Option.isSome_iff_exists.mp hConverts
      obtain ⟨own, -, hCancellation, -⟩ := Ledger.convertedReservation_some hConverts
      rw [hNone] at hCancellation
      cases hCancellation
    · exact hToken
  | @accept fence response job reservation hJob hVerdict =>
    obtain ⟨-, -, -, -, hFree, -⟩ := dispatchVerdict_accept hVerdict
    have hOther : workId ≠ job.workId := by
      rintro rfl
      rw [hFree] at hToken
      cases hToken
    simpa [Client.admitDispatch, Store.lookup_insert_ite, hOther] using hToken
  | report | replay | admitSource | rejectSource | grant | lateGrant | acknowledge
  | acknowledgeSource | cancelOpening | cancelOpened => exact hToken

/-- A worker whose job still owes its terminal after a step owed it before, or
has just taken the job from the queue. -/
theorem WorkerMove.owes {pc pc' : WorkerPc} (h : WorkerMove env c pc pc' c')
    {job : DispatchJob} (hJob : pc'.job? = some job) (hOwes : pc'.stage.owes = true) :
    (pc.job? = some job ∧ pc.stage.owes = true) ∨
    (c.queues.dispatch = job :: c'.queues.dispatch ∧ c'.tables = c.tables) := by
  cases h with
  | @quiet _ _ _ held hBefore hAfter hCore hRest hStage =>
    rw [hAfter] at hJob
    cases hJob
    refine .inl ⟨hBefore, ?_⟩
    obtain hEq | ⟨hFresh, -⟩ | ⟨hAccepted, -⟩ | ⟨-, hDone⟩ := hStage
    · rwa [hEq]
    · rw [hFresh]
      rfl
    · rw [hAccepted]
      rfl
    · rw [hDone] at hOwes
      cases hOwes
  | pop hQueue =>
    cases hJob
    exact .inr ⟨hQueue, rfl⟩
  | refuse now hBefore hDue hCommit hResult hNext =>
    refine .inl ⟨?_, ?_⟩
    · rcases hNext with ⟨-, -, rfl⟩ | ⟨reason, after, -, rfl⟩
      · cases hJob
        exact hBefore
      · cases hJob
        exact hBefore
    · cases pc <;> simp_all [WorkerPc.dueTerminal, WorkerPc.stage, Stage.owes]
  | commit now hBefore hDue hNext hAdmits hEntry hLedger =>
    rcases hNext with rfl | rfl <;> cases hOwes
  | accept | startOperation | startUnary | returnUnary | returnOperation => exact .inl ⟨hJob, rfl⟩
  | exit | erase | leave | finish | startSource | returnSource | leaveSource => cases hOwes
  | commitSource hCommit hJob' hStage' =>
    rw [hStage'] at hOwes
    cases hOwes

-- ---------------------------------------------------------------------------
-- The invariant
-- ---------------------------------------------------------------------------

/-- A step that adds no job and no token owner keeps `Owned`. -/
theorem Owned.of_same (h : Owned s) (hWorkers : s'.workers = s.workers)
    (hDispatch : s'.client.queues.dispatch = s.client.queues.dispatch ∨
      s'.client.queues.dispatch = [])
    (hTokens : s'.client.tables.workTokens = s.client.tables.workTokens) : Owned s' := by
  intro job hOwes
  have hWas : s.Owes job := by
    refine ⟨hOwes.1, ?_⟩
    rcases hOwes.2 with hQueue | ⟨i, hJob, hStage⟩
    · rcases hDispatch with hEq | hEq
      · exact .inl (by rwa [hEq] at hQueue)
      · rw [hEq] at hQueue
        cases hQueue
    · rw [hWorkers] at hJob hStage
      exact .inr ⟨i, hJob, hStage⟩
  obtain ⟨token, hToken, hOwn⟩ := h job hWas
  exact ⟨token, by rwa [hTokens], hOwn⟩

/-- The step of a worker. -/
theorem Owned.workerStep (h : Owned s) (hJobs : Jobs s) {i : Nat} {input : WorkerInput}
    {pc' : WorkerPc} (hRelease : releasesOwn s (.worker i input) = true)
    (hMove : WorkerMove env s.client (s.workers i) pc' s'.client)
    (hWorkers : s'.workers = (s.setWorker i pc').workers) : Owned s' := by
  have hSelf : s'.workers i = pc' := by simp [hWorkers, System.setWorker]
  -- the token of a job is kept unless the worker holds that very job and is done with it
  have hKept : ∀ job, s.client.OwnsToken job →
      (∀ held, (s.workers i).job? = some held → held.cancellation = job.cancellation →
        pc'.stage.owes = true) → s'.client.OwnsToken job := by
    rintro job ⟨token, hToken, hOwn⟩ hOther
    rcases hMove.token_kept hToken with hKept | ⟨held, hHeld, hKey, hDone, hCause⟩
    · exact ⟨token, hKept, hOwn⟩
    · have hSame : held.cancellation = job.cancellation := by
        rcases hCause with hCommits | hReleases
        · rw [hCommits, hOwn]
        · rw [releasesOwn_token hRelease hReleases hKey hToken, hOwn]
      rw [hOther held hHeld hSame] at hDone
      cases hDone
  rintro job ⟨hKind, hQueue | ⟨j, hJob, hStage⟩⟩
  · -- a queued job is not the one the worker holds
    have hWas : job ∈ s.client.queues.dispatch := by
      obtain ⟨popped, hEq, -, -⟩ | ⟨hEq, -⟩ := hMove.dispatch
      · rw [hEq]
        exact List.mem_cons_of_mem _ hQueue
      · rwa [hEq] at hQueue
    refine hKept job (h job ⟨hKind, .inl hWas⟩) fun held hHeld hSame => ?_
    exact absurd hSame (hJobs.mixed i held job hHeld hWas)
  · by_cases hj : j = i
    · subst hj
      rw [hSelf] at hJob hStage
      obtain ⟨hBefore, hOwed⟩ | ⟨hQueue, hTables⟩ := hMove.owes hJob hStage
      · exact hKept job (h job ⟨hKind, .inr ⟨j, hBefore, hOwed⟩⟩) fun _ _ _ => hStage
      · obtain ⟨token, hToken, hOwn⟩ :=
          h job ⟨hKind, .inl (by rw [hQueue]; exact List.mem_cons_self)⟩
        exact ⟨token, by rwa [hTables], hOwn⟩
    · have hSame : s'.workers j = s.workers j := by simp [hWorkers, System.setWorker, hj]
      rw [hSame] at hJob hStage
      refine hKept job (h job ⟨hKind, .inr ⟨j, hJob, hStage⟩⟩) fun held hHeld hEq => ?_
      exact absurd hEq (hJobs.workers i j held job (Ne.symm hj) hHeld hJob)

/-- The step of the Work reader. -/
theorem Owned.readerStep (h : Owned s) (hJobs : Jobs s)
    (hMove : ReaderMove env s.client s.workReader s'.workReader s'.client)
    (hWorkers : s'.workers = s.workers) : Owned s' := by
  have hKept : ∀ job, s.client.OwnsToken job → s'.client.OwnsToken job := by
    rintro job ⟨token, hToken, hOwn⟩
    exact ⟨token, hMove.token_kept hJobs.pending hToken, hOwn⟩
  have hOld : ∀ job, job.kind ≠ .sourceOpen → (job ∈ s.client.queues.dispatch ∨
      ∃ i, (s'.workers i).job? = some job ∧ (s'.workers i).stage.owes = true) →
      s'.client.OwnsToken job := by
    intro job hKind hWhere
    rw [hWorkers] at hWhere
    exact hKept job (h job ⟨hKind, hWhere⟩)
  rintro job ⟨hKind, hWhere⟩
  obtain hEq | ⟨request, reservation, hRequest, hVerdict, hClient, -⟩ |
    ⟨request, now, index, endpoint, bytes, hRequest, hVerdict, hClient⟩ := hMove.dispatch
  · rw [hEq] at hWhere
    exact hOld job hKind hWhere
  · rcases hWhere with hQueue | hWorker
    · rw [hClient] at hQueue
      rcases List.mem_append.mp hQueue with hQueue | hQueue
      · exact hOld job hKind (.inl hQueue)
      · rw [List.mem_singleton.mp hQueue, hClient]
        exact ⟨⟨s.client.nextCancellation, reservation⟩, by simp [Client.admitDispatch], rfl⟩
    · exact hOld job hKind (.inr hWorker)
  · rcases hWhere with hQueue | hWorker
    · rw [hClient] at hQueue
      rcases List.mem_append.mp hQueue with hQueue | hQueue
      · exact hOld job hKind (.inl hQueue)
      · rw [List.mem_singleton.mp hQueue] at hKind
        exact absurd hRequest.kind hKind
    · exact hOld job hKind (.inr hWorker)

theorem Owned.of_jobless (h : s'.Jobless) : Owned s' :=
  fun job hOwes => absurd hOwes.holds (h.not_holds job)

/-- `Owned` holds while every release is of the releasing job's own token. -/
theorem owned_of_reaches (h : (machine env).Reaches (fun s a => releasesOwn s a = true) s) :
    Owned s := by
  refine h.invariant (I := Owned) (.of_jobless ⟨rfl, fun _ => rfl⟩) ?_
  intro s a s' hReach hOwned hRelease hStep
  have hJobs := jobs_of_reachable hReach.reachable
  cases planeMove_of_step (shape_of_reachable hReach.reachable) hStep with
  | worker hAction hWorker hMove hWorkers hReader hHolds =>
    subst hAction
    exact hOwned.workerStep hJobs hRelease hMove hWorkers
  | reader hAction hMove hWorkers hWork => exact hOwned.readerStep hJobs hMove hWorkers
  | publish hAction hClient hWorkers hReader =>
    refine hOwned.of_same hWorkers (.inl ?_) ?_ <;> rw [hClient]
    · exact tokens_publishSource.2
    · exact tokens_publishSource.1
  | close hAction hClient hWorkers hReader =>
    refine hOwned.of_same hWorkers (.inl ?_) ?_ <;> rw [hClient]
    · exact tokens_closeSource.2
    · exact tokens_closeSource.1
  | quiet hCore hSteady hWorkers hReader =>
    exact hOwned.of_same hWorkers (.inl (congrArg Core.dispatch hCore))
      (congrArg (fun k : Core => k.tables.workTokens) hCore)
  | deactivate hCore hSteady hWorkers hReader hControl =>
    exact hOwned.of_same hWorkers (.inl (congrArg Core.dispatch hCore))
      (congrArg (fun k : Core => k.tables.workTokens) hCore)
  | drop hPhase hCore hSteady hWorkers hReader =>
    exact hOwned.of_same hWorkers (.inr (congrArg Core.dispatch hCore))
      (congrArg (fun k : Core => k.tables.workTokens) hCore)
  | release hPhase hNone hNone' hCore hReader => exact .of_jobless hNone'
  | outside hPhase hNone hNone' => exact .of_jobless hNone'

/-- A worker that is about to commit holds a job that owes its terminal. -/
theorem owes_of_due {pc : WorkerPc} {now : Int} {frame : WorkFrame} {job : DispatchJob}
    (hKind : pc.KindOk) (hJob : pc.job? = some job) (hDue : pc.dueTerminal now = some frame) :
    job.kind ≠ .sourceOpen ∧ pc.stage.owes = true := by
  cases pc <;> simp_all [WorkerPc.dueTerminal, WorkerPc.job?, WorkerPc.KindOk, WorkerPc.stage,
    Stage.owes]

/-- The token of a held job carries a reservation that its commit converts. -/
theorem converts_of_owned {job : DispatchJob} (h : (machine env).Reachable s)
    (hHeld : s.Holds job) (hOwns : s.client.OwnsToken job) :
    ∃ reservation, s.client.tables.convertedReservation job = some reservation ∧
      Reserves s.client job reservation := by
  obtain ⟨token, hToken, hOwn⟩ := hOwns
  have hReserves := reserved_of_reachable h job token hHeld hToken hOwn
  refine ⟨token.terminalReservationBytes, ?_, hReserves⟩
  simp [Tables.convertedReservation, hToken, hOwn, hReserves.positive]

/-- Every digest of a terminal is a canonical SHA-256 text. -/
def Env.CanonicalDigests (env : Env) : Prop :=
  ∀ frame digest, env.protobuf.terminalDigest frame = some digest →
    digest.length = kCanonicalSha256TextBytes

/-- The ledger admits every terminal of a held job that owns its token, unless
its identity already has one. -/
theorem ledgerAdmits_of_owned {job : DispatchJob} {frame : WorkFrame} {entry : ReplayEntry}
    (hDigests : env.CanonicalDigests) (h : (machine env).Reachable s) (hHeld : s.Holds job)
    (hOwns : s.client.OwnsToken job)
    (hFrame : s.client.workFrameBytes env frame ≤ s.client.session.maximumWorkFrameBytes)
    (hEntry : replayEntryOf env job frame (s.client.workFrameBytes env frame) = some entry)
    (hFree : s.client.tables.replay.lookup job.workId = none) :
    s.client.ledgerAdmits env job entry = true := by
  obtain ⟨reservation, hConverted, hReserves⟩ := converts_of_owned h hHeld hOwns
  have hDigest : entry.terminalDigest.length = kCanonicalSha256TextBytes := by
    unfold replayEntryOf at hEntry
    split at hEntry
    · split at hEntry
      · rename_i digest hSome
        cases hEntry
        exact hDigests frame digest hSome
      · cases hEntry
    · cases hEntry
  obtain ⟨hLe, hIdentity, hByte⟩ :=
    rooms_of_reserved (ledger_of_reachable h) hReserves hConverted hFrame hEntry hDigest
  rw [Client.ledgerAdmits_eq, hIdentity, hByte, hConverted, hFree]
  simp [hLe]

/-- While every release is of the releasing job's own token, a job that owes its
terminal holds its token; a Host cancellation of its work id reaches it, and no
second request for the work id is admitted. -/
theorem token_owned (h : (machine env).Reaches (fun s a => releasesOwn s a = true) s)
    {job : DispatchJob} (hOwes : s.Owes job) :
    (∃ token, s.client.tables.workTokens.lookup job.workId = some token ∧
      job.cancellation = some token.cancellation) ∧
    (∀ cancellation sequence, cancellation.identity = .workId job.workId →
      (handleCancellation env s.client cancellation sequence).2.cancelled job = true) ∧
    (∀ request reservation, request.workId = job.workId →
      dispatchVerdict env s.client request ≠ .accept reservation) ∧
    (∀ now request index endpoint bytes, request.workId = job.workId →
      sourceOpenVerdict env s.client now request ≠ .accept index endpoint bytes) := by
  obtain ⟨token, hToken, hOwn⟩ := owned_of_reaches h job hOwes
  have hName := (named_of_reachable h.reachable).held job hOwes.holds
  refine ⟨⟨token, hToken, hOwn⟩, ?_, ?_, ?_⟩
  · intro cancellation sequence hIdentity
    simp [handleCancellation, hIdentity, hName, hToken, Client.cancelled, hOwn, Client.request]
  · intro request reservation hKey hVerdict
    obtain ⟨-, -, -, -, hFree, -⟩ := dispatchVerdict_accept hVerdict
    rw [hKey, hToken] at hFree
    cases hFree
  · intro now request index endpoint bytes hKey hVerdict
    obtain ⟨-, ⟨-, -, hFree, -⟩, -⟩ := sourceOpenVerdict_fresh hVerdict (by simp) (by simp)
    rw [hKey, hToken] at hFree
    cases hFree

section Runs

open Deployment

/-- A query is admitted and its handler is running. -/
theorem token_owned_query :
    ∃ s job, (machine deployment).Reaches (fun s a => releasesOwn s a = true) s ∧ s.Owes job ∧
      ∃ token, s.client.tables.workTokens.lookup job.workId = some token ∧
        job.cancellation = some token.cancellation := by
  obtain ⟨s, hReach, hRun⟩ := (machine deployment).exists_reaches_of_runWith
    (fun s a => releasesOwn s a = true)
    (bringUp ++ hostFrame 1 1 (unaryFrame "w") ++ worker 0 4)
    (fun s => ((s.workers 0).job?.any fun job => job.kind == .unary) &&
      (s.workers 0).stage.owes) (by decide +kernel)
  simp only [Bool.and_eq_true, Option.any_eq_true] at hRun
  obtain ⟨⟨job, hJob, hKind⟩, hStage⟩ := hRun
  have hOwes : s.Owes job := ⟨by simp_all, .inr ⟨0, hJob, hStage⟩⟩
  exact ⟨s, job, hReach, hOwes, (token_owned hReach hOwes).1⟩

/-- The terminal of a query is acknowledged and its work id reused before the
worker of the first query releases: on the attached pair the second query is
queued without a token. -/
theorem token_lost :
    ∃ s job, (machine deployment).Reachable s ∧ s.client.flags.pairReady = true ∧
      s.client.flags.sessionFailed = false ∧ s.Owes job ∧
      s.client.tables.workTokens.lookup job.workId = none := by
  obtain ⟨s, hReach, hRun⟩ := (machine deployment).exists_reaches_of_runWith
    (fun _ _ => True)
    (bringUp ++ hostFrame 1 1 (unaryFrame "w") ++ runQuery 0 ++ worker 0 1 ++
      hostFrame 1 2 (acknowledgement "w" (answer "w")) ++ hostFrame 1 3 (unaryFrame "w") ++
      worker 0 1)
    (fun s => s.client.flags.pairReady && !s.client.flags.sessionFailed &&
      s.client.queues.dispatch.any fun job => job.kind == .unary &&
        (s.client.tables.workTokens.lookup job.workId).isNone) (by decide +kernel)
  simp only [Bool.and_eq_true, List.any_eq_true, Bool.not_eq_true', beq_iff_eq,
    Option.isNone_iff_eq_none] at hRun
  obtain ⟨⟨hReady, hLive⟩, job, hQueue, hKind, hNone⟩ := hRun
  exact ⟨s, job, hReach, hReady, hLive, ⟨by simp [hKind], .inl hQueue⟩, hNone⟩

end Runs

end AdapterRuntime.Model
