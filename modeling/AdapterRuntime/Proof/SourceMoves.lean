import AdapterRuntime.Proof.Terminals
import AdapterRuntime.Proof.Identity

/-!
# AdapterRuntime — how steps move the sources

`sourceMove_of_step` is the classification the source invariants are proved
from: the one place where a source is admitted, opened, charged, credited or
closed, and what is left of the other steps.

* `sources_of_reachable` — what links the source tables to the jobs that open
  their entries, in every reachable state.
-/

namespace AdapterRuntime.Model

open AdapterRuntime.Lib

/-- The source instance a frame of the Work queue or another event is about. -/
def WorkEvent.source? : WorkEvent → Option CancellationId
  | .sourceAdmitted id _ | .granted id _ _ | .sourceCancelled id => some id
  | .enqueued owner (.sourceOpenResult _) | .enqueued owner (.sourceData _)
  | .enqueued owner (.sourceClose _) => owner
  | _ => none

/-- The Work reader handles a cancellation of this stream. -/
def System.Cancels (s : System) (streamId : Text) : Prop :=
  ∃ fence response cancellation, s.workReader = .handling fence response ∧
    response.frame = .cancellation cancellation ∧ cancellation.identity = .streamId streamId

/-- What a step can do to the source tables and to the history of sources. -/
inductive SourceMove (env : Env) (s : System) (a : Action) (s' : System) : Prop
  | keep {new : List WorkEvent}
      (hSources : s'.client.tables.sourceStreams = s.client.tables.sourceStreams)
      (hClosed : s'.client.tables.closedSources = s.client.tables.closedSources)
      (hHistory : s'.client.history = new ++ s.client.history)
      (hNew : ∀ event ∈ new, event.source? = none)
      (hBytes : s'.client.tables.sourceStateBytes = s.client.tables.sourceStateBytes)
  | enter {input : ReaderInput WorkResponse} {job : DispatchJob} {index bytes : Nat}
      {endpoint : CapabilityEndpointContract} {now : Int} (hAction : a = .workReader input)
      (hWork : s.supervisor.phase.work = true) (hJob : IsSourceJob job)
      (hVerdict : sourceOpenVerdict env s.client now job = .accept index endpoint bytes)
      (hClient : s'.client = s.client.admitSource job index endpoint bytes)
      (hWorkers : s'.workers = s.workers)
  | reject {input : ReaderInput WorkResponse} {job : DispatchJob} {bytes : Nat}
      {error : AdapterError} {digest : Text} (hAction : a = .workReader input)
      (hUnused : s.client.tables.Unused job.workId)
      (hClient : s'.client = (s.client.countRejected.charged bytes).sourceCommitted env job.workId
        (rejectedSource s.client.countRejected job bytes) (sourceOpenRejected job.workId error)
        digest)
      (hWorkers : s'.workers = s.workers)
      (hRoom : s.client.tables.sourceIdentities < env.config.maximumSourceTombstones)
      (hFits : sourceBudgetFits env s.client job = some bytes)
  | open_ {i : Nat} {job : DispatchJob} {decision : SourceOpenDecision} {source : SourceState}
      (hPc : s.workers i = .sourceCommit job decision) (hOwns : OwnsSource s.client job source)
      (hAccepted : decision.accepted = true)
      (hClient : s'.client = (s.client.queued env (some source.cancellation)
        (sourceOpenFrame job.workId decision)).setSource job.workId (source.openedWith job))
      (hWorkers : s'.workers = (s.setWorker i (.sourceFinish job true)).workers)
  | refuse {i : Nat} {job : DispatchJob} {decision : SourceOpenDecision} {source : SourceState}
      {digest : Text} {pc' : WorkerPc} (hPc : s.workers i = .sourceCommit job decision)
      (hOwns : OwnsSource s.client job source) (hAccepted : decision.accepted = false)
      (hClient : s'.client = (s.client.sourceCommitted env job.workId source
        (sourceOpenFrame job.workId decision) digest).eraseSource job.workId)
      (hWorkers : s'.workers = (s.setWorker i pc').workers)
      (hPc' : pc' = .sourceFinish job true ∨ pc' = .sourceNotify job source decision.error)
  | publish {streamId : Text} {items : List Text} {source : SourceState}
      (hAction : a = .publishSource streamId items)
      (hPublishes : Publishes env s.client streamId items source)
      (hClient : s'.client = (s.client.queued env (some source.cancellation)
        (.sourceData { streamId, sequence := source.sequence + 1, items })).setSource streamId
          (source.published items))
      (hWorkers : s'.workers = s.workers)
  | close {streamId digest : Text} {error : Option AdapterError} {source : SourceState}
      (hAction : a = .closeSource streamId error)
      (hActive : s.client.tables.sourceStreams.lookup streamId = some source)
      (hPhase : source.phase = .opened)
      (hClient : s'.client = s.client.closed env streamId source error digest)
      (hWorkers : s'.workers = s.workers)
  | cancelOpened {input : ReaderInput WorkResponse} {streamId digest : Text}
      {error : AdapterError} {source : SourceState} (hAction : a = .workReader input)
      (hActive : s.client.tables.sourceStreams.lookup streamId = some source)
      (hPhase : source.phase = .opened)
      (hClient : s'.client =
        (s.client.sourceCancelled source).closed env streamId source (some error) digest)
      (hWorkers : s'.workers = s.workers) (hCancels : s.Cancels streamId)
  | cancel {input : ReaderInput WorkResponse} {streamId : Text} {source : SourceState}
      (hAction : a = .workReader input)
      (hActive : s.client.tables.sourceStreams.lookup streamId = some source)
      (hCore : s'.client.core = (s.client.sourceCancelled source).core)
      (hWorkers : s'.workers = s.workers)
      (hFails : source.phase = .opening ∨ ∃ fence reason,
        s'.workReader = .followUp fence (.signalFailure reason))
      (hCancels : s.Cancels streamId)
      (hRequested : s'.client.requested source.cancellation = true)
  | grant {input : ReaderInput WorkResponse} {streamId : Text} {source : SourceState}
      {acknowledged messages bytes : Nat} (hAction : a = .workReader input)
      (hActive : s.client.tables.sourceStreams.lookup streamId = some source)
      (hPhase : source.phase = .opened) (hLower : source.acknowledgedSequence ≤ acknowledged)
      (hUpper : acknowledged ≤ source.sequence)
      (hMessages : source.messageCredit + messages ≤ sizeMax)
      (hBytes : source.byteCredit + bytes ≤ sizeMax)
      (hClient : s'.client = { s.client with
        history := .granted source.cancellation messages bytes ::
          s.client.history }.setSource streamId (source.granted acknowledged messages bytes))
      (hWorkers : s'.workers = s.workers)
  | lateGrant {input : ReaderInput WorkResponse} {streamId : Text} {closed : ClosedSourceState}
      {acknowledged : Nat} (hAction : a = .workReader input)
      (hActive : s.client.tables.closedSources.lookup streamId = some closed)
      (hClient : s'.client = { s.client with tables := { s.client.tables with
        closedSources := s.client.tables.closedSources.insert streamId
          { closed with acknowledgedSequence := acknowledged } } })
      (hWorkers : s'.workers = s.workers)
  | acknowledge {input : ReaderInput WorkResponse} {streamId : Text} {closed : ClosedSourceState}
      {fence : SessionFence} {response : WorkResponse} {bytes : Nat}
      {acknowledgement : TerminalAcknowledgement} (hAction : a = .workReader input)
      (hPc : s.workReader = .handling fence response)
      (hFrame : response.frame = .terminalAcknowledgement acknowledgement)
      (hIdentity : acknowledgement.identity = .streamId streamId)
      (hActive : s.client.tables.closedSources.lookup streamId = some closed)
      (hDigest : closed.terminalDigest = acknowledgement.terminalDigest)
      (hClient : s'.client = { s.client with tables := { s.client.tables with
        sourceStateBytes := bytes
        closedSources := s.client.tables.closedSources.erase streamId } })
      (hWorkers : s'.workers = s.workers)
      (hBytes : bytes = s.client.tables.sourceStateBytes - closed.accountedBytes)
  | deactivate {input : ReaderInput ControlResponse} (hAction : a = .controlReader input)
      (hPc : s.controlReader.deactivates = true)
      (hCore : s'.client.core = s.client.core.deactivated) (hWorkers : s'.workers = s.workers)
  | retire (hPhase : s.supervisor.phase = .replacing ∨ s.supervisor.phase = .outside)
      (hSources : s'.client.tables.sourceStreams = s.client.tables.sourceStreams ∨
        s'.client.tables.sourceStreams = ∅)
      (hClosed : s'.client.tables.closedSources = s.client.tables.closedSources ∨
        s'.client.tables.closedSources = ∅)
      (hHistory : s'.client.history = s.client.history)
      (hLedger : s.client.tables.SameOrNoTombstones s'.client.tables)
      (hDrop : s.supervisor.phase = .replacing → (∃ input, a = .supervisor input) ∧
        s'.client.tables.sourceStreams = ∅)

variable {env : Env} {c c' : Client} {s s' : System} {a : Action}

-- ---------------------------------------------------------------------------
-- Every step is one of these
-- ---------------------------------------------------------------------------

/-- A step that leaves the tables and the history alone. -/
theorem SourceMove.of_core (h : s'.client.core = s.client.core) : SourceMove env s a s' :=
  @SourceMove.keep _ _ _ _ [] (congrArg (fun k : Core => k.tables.sourceStreams) h)
    (congrArg (fun k : Core => k.tables.closedSources) h) (congrArg Core.history h) (by simp)
    (congrArg (fun k : Core => k.tables.sourceStateBytes) h)

/-- A frame that is retained in `replay_` is no source frame. -/
theorem source_of_replayEntryOf {job : DispatchJob} {frame : WorkFrame} {bytes : Nat}
    {entry : ReplayEntry} (h : replayEntryOf env job frame bytes = some entry)
    (owner : Option CancellationId) : (WorkEvent.enqueued owner frame).source? = none := by
  unfold replayEntryOf at h
  split at h
  · rename_i hCarries
    cases frame <;> cases hKind : job.kind <;> simp_all [carriesTerminalOf, WorkEvent.source?]
  · cases h

/-- What a commit to `replay_` adds to the history is not about a source. -/
theorem source_committed {job : DispatchJob} {frame : WorkFrame} {bytes : Nat}
    {entry : ReplayEntry} (h : replayEntryOf env job frame bytes = some entry) :
    ∀ event ∈ [WorkEvent.enqueued job.cancellation frame,
      .retained job.cancellation job.workId], event.source? = none := by
  intro event hMem
  simp only [List.mem_cons, List.not_mem_nil, or_false] at hMem
  obtain rfl | rfl := hMem
  · exact source_of_replayEntryOf h _
  · rfl

/-- Where the commit of an open leads its worker. -/
theorem next_of_sourceCommit {pc' : WorkerPc} {input : WorkerInput} {job : DispatchJob}
    {decision : SourceOpenDecision} {r : SourceCommit}
    (h : workerStep env c (.sourceCommit job decision) input = some (pc', c'))
    (hCommit : commitSourceOpen env c job decision = (r, c')) :
    (r = .settled → pc' = .sourceFinish job true) ∧
      ∀ source error, r = .notifySourceClosed source error →
        pc' = .sourceNotify job source error := by
  cases workerStep_branch h with
  | settleSource hIs | failSource hIs | declineSource hIs =>
    cases hCommit.symm.trans hIs
    simp
  | commit hCommits | uncommitted hCommits => cases hCommits

/-- A step of a worker. -/
theorem sourceMove_worker {i : Nat} {input : WorkerInput} {pc' : WorkerPc}
    (hStep : workerStep env s.client (s.workers i) input = some (pc', s'.client))
    (hWorkers : s'.workers = (s.setWorker i pc').workers) : SourceMove env s a s' := by
  have hMove := workerStep_cases hStep
  generalize hPc : s.workers i = pc at hMove hStep
  generalize hClient : s'.client = c' at hMove hStep
  have hKeep : ∀ new : List WorkEvent, c'.tables.sourceStreams = s.client.tables.sourceStreams →
      c'.tables.closedSources = s.client.tables.closedSources →
      c'.history = new ++ s.client.history → (∀ event ∈ new, event.source? = none) →
      c'.tables.sourceStateBytes = s.client.tables.sourceStateBytes → SourceMove env s a s' := by
    intro new hSources hClosed hHistory hNew hBytes
    subst hClient
    exact .keep hSources hClosed hHistory hNew hBytes
  cases hMove with
  | exit | pop | leave => exact hKeep [] rfl rfl rfl (by simp) rfl
  | quiet _ _ hCore | leaveSource hCore => exact .of_core (by rw [hClient]; exact hCore)
  -- the frames and records of an operation are none of a source
  | accept => exact hKeep [_] rfl rfl rfl (by simp [operationFrame, WorkEvent.source?]) rfl
  | startOperation =>
    unfold Client.recordStarted at hKeep
    split at hKeep
    · exact hKeep [_, _] rfl rfl rfl (by simp [operationFrame, WorkEvent.source?]) rfl
    · exact hKeep [_] rfl rfl rfl (by simp [operationFrame, WorkEvent.source?]) rfl
  | startUnary | startSource =>
    unfold Client.recordStarted at hKeep
    split at hKeep
    · exact hKeep [_] rfl rfl rfl (by simp [WorkEvent.source?]) rfl
    · exact hKeep [] rfl rfl rfl (by simp) rfl
  | returnUnary | returnOperation | returnSource =>
    unfold Client.recordReturned at hKeep
    split at hKeep
    · exact hKeep [_] rfl rfl rfl (by simp [WorkEvent.source?]) rfl
    · exact hKeep [] rfl rfl rfl (by simp) rfl
  | @commit _ _ job now frame entry _ _ _ _ hEntry =>
    exact hKeep _ (by simp) (by simp) rfl (source_committed hEntry) (by simp)
  | refuse _ _ _ hCommit hResult =>
    obtain ⟨hCommitted, -⟩ | ⟨-, hRefused⟩ := Client.commitTerminalFrame_cases hCommit
    · exact absurd hCommitted hResult
    · -- a refused commit leaves the plane alone
      exact .of_core (by rw [hClient]; exact hRefused.core)
  | erase hCore | finish hCore =>
    refine hKeep [] ?_ ?_ (congrArg Core.history hCore) (by simp) ?_
    · exact (congrArg (fun k : Core => k.tables.sourceStreams) hCore).trans
        (s.client.tables.releaseWorkToken_sourceStreams _)
    · exact (congrArg (fun k : Core => k.tables.closedSources) hCore).trans
        (s.client.tables.releaseWorkToken_closedSources _)
    · exact (congrArg (fun k : Core => k.tables.sourceStateBytes) hCore).trans
        (s.client.tables.releaseWorkToken_sourceStateBytes _)
  | @commitSource _ _ job decision r hCommit =>
    obtain ⟨-, hSame, -⟩ | ⟨source, hOwns, -, -, -, hCases⟩ := commitSourceOpen_cases hCommit
    · exact .of_core (by rw [hClient, hSame])
    · obtain ⟨hSettled, hNotify⟩ := next_of_sourceCommit hStep hCommit
      obtain ⟨-, hRefused⟩ | ⟨hAccepted, rfl, hEq⟩ | ⟨hRejected, hResult, digest, hEq⟩ := hCases
      · exact .of_core (by rw [hClient]; exact hRefused.core)
      · -- the open is accepted
        obtain rfl := hSettled rfl
        exact .open_ hPc hOwns hAccepted (hClient.trans hEq) hWorkers
      · -- the open is refused, with a notice to the application or without
        obtain rfl | rfl := hResult
        · obtain rfl := hSettled rfl
          exact .refuse hPc hOwns hRejected (hClient.trans hEq) hWorkers (.inl rfl)
        · obtain rfl := hNotify _ _ rfl
          exact .refuse hPc hOwns hRejected (hClient.trans hEq) hWorkers (.inr rfl)

/-- A step of the Work reader. -/
theorem sourceMove_reader {input : ReaderInput WorkResponse} (hAction : a = .workReader input)
    (hMove : ReaderMove env s.client s.workReader s'.workReader s'.client)
    (hWorkers : s'.workers = s.workers) (hWork : s.supervisor.phase.work = true) :
    SourceMove env s a s' := by
  generalize hPc : s.workReader = pc at hMove
  generalize hPc' : s'.workReader = pc' at hMove
  generalize hClient : s'.client = c' at hMove
  have hKeep : ∀ new : List WorkEvent, c'.tables.sourceStreams = s.client.tables.sourceStreams →
      c'.tables.closedSources = s.client.tables.closedSources →
      c'.history = new ++ s.client.history → (∀ event ∈ new, event.source? = none) →
      c'.tables.sourceStateBytes = s.client.tables.sourceStateBytes → SourceMove env s a s' := by
    intro new hSources hClosed hHistory hNew hBytes
    subst hClient
    exact .keep hSources hClosed hHistory hNew hBytes
  have hCoreKeep : ∀ n : CancellationId,
      c'.core = { s.client.core with nextCancellation := n } → SourceMove env s a s' := by
    intro n hCore
    exact hKeep [] (congrArg (fun k : Core => k.tables.sourceStreams) hCore)
      (congrArg (fun k : Core => k.tables.closedSources) hCore) (congrArg Core.history hCore)
      (by simp) (congrArg (fun k : Core => k.tables.sourceStateBytes) hCore)
  cases hMove with
  | quiet hCore | answer hCore => exact hCoreKeep _ hCore
  | retireSource hCore => exact hCoreKeep _ hCore
  | immediate _ _ hCore => exact hCoreKeep _ hCore
  | report => exact hKeep [_] rfl rfl rfl (by simp [protocolErrorFrame, WorkEvent.source?]) rfl
  | @replay _ frame =>
    refine hKeep [_] rfl rfl rfl ?_ rfl
    cases frame <;> simp [WorkEvent.source?]
  | @commit _ job frame entry hEntry =>
    exact hKeep _ (by simp) (by simp) rfl (source_committed hEntry) (by simp)
  | accept | acknowledge => exact hKeep [_] rfl rfl rfl (by simp [WorkEvent.source?]) rfl
  | admitSource hJob hVerdict => exact .enter hAction hWork hJob hVerdict hClient hWorkers
  | rejectSource hJob hVerdict hRoom hFits =>
    obtain ⟨-, hUnused, -, -⟩ := sourceOpenVerdict_fresh hVerdict (by simp) (by simp)
    exact .reject hAction hUnused hClient hWorkers hRoom hFits
  | grant hActive hPhase hEpoch hLower hUpper hMessages hBytes =>
    exact .grant hAction hActive hPhase hLower hUpper hMessages hBytes hClient hWorkers
  | lateGrant hActive => exact .lateGrant hAction hActive hClient hWorkers
  | acknowledgeSource hActive hFrame hIdentity hDigest hBytes =>
    exact .acknowledge hAction hPc hFrame hIdentity hActive hDigest hClient hWorkers hBytes
  | cancelOpening hFrame hIdentity hActive _ hPhase =>
    exact .cancel hAction hActive (by rw [hClient]) hWorkers (.inl hPhase)
      ⟨_, _, _, hPc, hFrame, hIdentity⟩ (by simp [hClient, Client.sourceCancelled, Client.request])
  | cancelRefused hFrame hIdentity hActive _ _ hRefused =>
    refine .cancel hAction hActive (by rw [hClient]; exact hRefused.core) hWorkers
      (.inr ⟨_, _, hPc'⟩) ⟨_, _, _, hPc, hFrame, hIdentity⟩ ?_
    obtain hSame | hSame := hRefused <;>
      simp [hClient, hSame, Client.sourceCancelled, Client.request, Client.countDropped]
  | cancelOpened hFrame hIdentity hActive _ hPhase =>
    exact .cancelOpened hAction hActive hPhase hClient hWorkers ⟨_, _, _, hPc, hFrame, hIdentity⟩

/-- Every step is one of the moves of the sources. -/
theorem sourceMove_of_step (h : Shape s) (hStep : s.step env a = some s') :
    SourceMove env s a s' := by
  cases planeMove_of_step h hStep with
  | worker _ hWorker _ hWorkers => exact sourceMove_worker hWorker hWorkers
  | reader hAction hMove hWorkers hWork => exact sourceMove_reader hAction hMove hWorkers hWork
  | @publish streamId items hAction hClient hWorkers =>
    obtain ⟨-, source, hPublishes, hEq⟩ | ⟨-, hRefused⟩ :=
      publishSource_cases (Prod.mk.eta (p := publishSource env s.client streamId items)).symm
    · exact .publish hAction hPublishes (hClient.trans hEq) hWorkers
    · exact .of_core (by rw [hClient]; exact hRefused.core)
  | @close streamId error hAction hClient hWorkers =>
    obtain ⟨-, source, digest, hActive, hPhase, -, hEq⟩ | ⟨-, hRefused⟩ :=
      closeSource_cases (Prod.mk.eta (p := closeSource env s.client streamId error)).symm
    · exact .close hAction hActive hPhase (hClient.trans hEq) hWorkers
    · exact .of_core (by rw [hClient]; exact hRefused.core)
  | quiet hCore => exact .of_core hCore
  | deactivate hCore _ hWorkers _ hControl =>
    obtain ⟨⟨input, hAction⟩, hPc⟩ := hControl
    exact .deactivate hAction hPc hCore hWorkers
  | drop hPhase hCore _ _ _ hAction =>
    exact .retire (.inl hPhase) (.inr (congrArg (fun k : Core => k.tables.sourceStreams) hCore))
      (.inl (congrArg (fun k : Core => k.tables.closedSources) hCore))
      (congrArg Core.history hCore)
      (.inl ⟨congrArg (fun k : Core => k.tables.closedSources) hCore,
        congrArg (fun k : Core => k.tables.sourceStateBytes) hCore⟩)
      (fun _ => ⟨hAction, congrArg (fun k : Core => k.tables.sourceStreams) hCore⟩)
  | release hPhase hJobs hJobs' hCore =>
    refine @SourceMove.keep _ _ _ _ [] ?_ ?_ (congrArg Core.history hCore) (by simp) ?_
    · exact (congrArg (fun k : Core => k.tables.sourceStreams) hCore).trans
        s.client.tables.releaseAllWorkTokens_sourceStreams
    · exact (congrArg (fun k : Core => k.tables.closedSources) hCore).trans
        s.client.tables.releaseAllWorkTokens_closedSources
    · exact (congrArg (fun k : Core => k.tables.sourceStateBytes) hCore).trans
        s.client.tables.releaseAllWorkTokens_sourceStateBytes
  | outside hPhase _ _ _ _ _ hSources hClosed hHistory _ _ hLedger =>
    exact .retire (.inr hPhase) hSources hClosed hHistory hLedger (by simp [hPhase])

-- ---------------------------------------------------------------------------
-- Where the sources of a state come from
-- ---------------------------------------------------------------------------

/-- What a step can make of a source that stays in the table. -/
inductive SourceTurn (s s' : System) (streamId : Text) (source : SourceState) :
    SourceState → Prop
  | same : SourceTurn s s' streamId source source
  | opened {i : Nat} {job : DispatchJob} {decision : SourceOpenDecision}
      (hPc : s.workers i = .sourceCommit job decision) (hOwns : OwnsSource s.client job source)
      (hKey : streamId = job.workId) (hPc' : s'.workers i = .sourceFinish job true)
      (hAccepted : decision.accepted = true) :
      SourceTurn s s' streamId source (source.openedWith job)
  | published {items : List Text} (hPhase : source.phase = .opened) :
      SourceTurn s s' streamId source (source.published items)
  | granted {acknowledged messages bytes : Nat} (hPhase : source.phase = .opened)
      (hLower : source.acknowledgedSequence ≤ acknowledged)
      (hUpper : acknowledged ≤ source.sequence) :
      SourceTurn s s' streamId source (source.granted acknowledged messages bytes)

/-- A turn of a source keeps its identity. -/
theorem SourceTurn.sameSource {streamId : Text} {source source' : SourceState}
    (h : SourceTurn s s' streamId source source') : source.SameSource source' := by
  cases h <;> exact ⟨rfl, rfl, rfl, rfl, rfl, rfl⟩

/-- A source after a step was there before it, or it has just been admitted. -/
theorem SourceMove.back (h : SourceMove env s a s') {streamId : Text} {source' : SourceState}
    (hLook : s'.client.tables.sourceStreams.lookup streamId = some source') :
    (∃ source, s.client.tables.sourceStreams.lookup streamId = some source ∧
      SourceTurn s s' streamId source source') ∨
    ∃ job index endpoint bytes now, IsSourceJob job ∧ s.supervisor.phase.work = true ∧
      s.client.tables.Unused job.workId ∧
      sourceOpenVerdict env s.client now job = .accept index endpoint bytes ∧
      s'.client = s.client.admitSource job index endpoint bytes ∧ streamId = job.workId ∧
      source' = admittedSource s.client job index endpoint bytes := by
  have hSame : s'.client.tables.sourceStreams = s.client.tables.sourceStreams →
      ∃ source, s.client.tables.sourceStreams.lookup streamId = some source ∧
        SourceTurn s s' streamId source source' :=
    fun hEq => ⟨source', by rwa [hEq] at hLook, .same⟩
  -- an entry that is replaced in place, or left alone
  have hReplaced : ∀ {key : Text} {old new : SourceState},
      s.client.tables.sourceStreams.lookup key = some old →
      s'.client.tables.sourceStreams = s.client.tables.sourceStreams.insert key new →
      SourceTurn s s' key old new →
      ∃ source, s.client.tables.sourceStreams.lookup streamId = some source ∧
        SourceTurn s s' streamId source source' := by
    intro key old new hOld hEq hTurn
    rw [hEq, Store.lookup_insert_ite] at hLook
    split at hLook
    · rename_i hKey
      subst hKey
      cases hLook
      exact ⟨old, hOld, hTurn⟩
    · exact ⟨source', hLook, .same⟩
  have hErased : ∀ {key : Text},
      s'.client.tables.sourceStreams = s.client.tables.sourceStreams.erase key →
      ∃ source, s.client.tables.sourceStreams.lookup streamId = some source ∧
        SourceTurn s s' streamId source source' := by
    intro key hEq
    rw [hEq, Store.lookup_erase_ite] at hLook
    split at hLook
    · cases hLook
    · exact ⟨source', hLook, .same⟩
  have hEmpty : s'.client.tables.sourceStreams = ∅ → False := by
    intro hEq
    rw [hEq] at hLook
    cases hLook
  cases h with
  | keep hSources => exact .inl (hSame hSources)
  | @enter _ job index bytes endpoint now _ hWork hJob hVerdict hClient =>
    obtain ⟨-, hUnused, -, -⟩ := sourceOpenVerdict_fresh hVerdict (by simp) (by simp)
    rw [hClient] at hLook
    simp only [Client.admitSource, Store.lookup_insert_ite] at hLook
    split at hLook
    · rename_i hKey
      cases hLook
      exact .inr ⟨job, index, endpoint, bytes, now, hJob, hWork, hUnused, hVerdict, hClient, hKey,
        rfl⟩
    · exact .inl ⟨source', hLook, .same⟩
  | reject _ _ hClient => exact .inl (hSame (by rw [hClient]; rfl))
  | lateGrant _ _ hClient => exact .inl (hSame (by rw [hClient]))
  | acknowledge _ _ _ _ _ _ hClient => exact .inl (hSame (by simp [hClient]))
  | cancel _ _ hCore =>
    exact .inl (hSame (congrArg (fun k : Core => k.tables.sourceStreams) hCore))
  | @open_ i job decision source hPc hOwns hAccepted hClient hWorkers =>
    refine .inl (hReplaced hOwns.active (by rw [hClient]; rfl)
      (.opened hPc hOwns rfl ?_ hAccepted))
    simp [hWorkers, System.setWorker]
  | refuse _ _ _ hClient => exact .inl (hErased (by rw [hClient]; rfl))
  | publish _ hPublishes hClient =>
    exact .inl (hReplaced hPublishes.active (by rw [hClient]; rfl) (.published hPublishes.opened))
  | close _ _ _ hClient => exact .inl (hErased (by rw [hClient]; rfl))
  | cancelOpened _ _ _ hClient => exact .inl (hErased (by rw [hClient]; rfl))
  | grant _ hActive hPhase hLower hUpper _ _ hClient =>
    exact .inl (hReplaced hActive (by rw [hClient]; rfl) (.granted hPhase hLower hUpper))
  | deactivate _ _ hCore =>
    exact (hEmpty (congrArg (fun k : Core => k.tables.sourceStreams) hCore)).elim
  | retire _ hSources =>
    obtain hEq | hEq := hSources
    · exact .inl (hSame hEq)
    · exact (hEmpty hEq).elim

/-- How a step takes a source out of the table. -/
inductive SourceExit (env : Env) (s : System) (a : Action) (s' : System) (streamId : Text)
    (source : SourceState) : Prop
  | refused {i : Nat} {job : DispatchJob} {decision : SourceOpenDecision} {digest : Text}
      {pc' : WorkerPc} (hPc : s.workers i = .sourceCommit job decision)
      (hOwns : OwnsSource s.client job source) (hKey : streamId = job.workId)
      (hAccepted : decision.accepted = false)
      (hClient : s'.client = (s.client.sourceCommitted env job.workId source
        (sourceOpenFrame job.workId decision) digest).eraseSource job.workId)
      (hWorkers : s'.workers = (s.setWorker i pc').workers)
      (hPc' : pc' = .sourceFinish job true ∨ pc' = .sourceNotify job source decision.error)
  | closed {digest : Text} {error : Option AdapterError}
      (hAction : a = .closeSource streamId error) (hPhase : source.phase = .opened)
      (hClient : s'.client = s.client.closed env streamId source error digest)
  | cancelled {input : ReaderInput WorkResponse} {digest : Text} {error : AdapterError}
      (hAction : a = .workReader input) (hPhase : source.phase = .opened)
      (hClient : s'.client =
        (s.client.sourceCancelled source).closed env streamId source (some error) digest)
  | deactivated {input : ReaderInput ControlResponse} (hAction : a = .controlReader input)
      (hPc : s.controlReader.deactivates = true)
      (hCore : s'.client.core = s.client.core.deactivated)
  | retired (hPhase : s.supervisor.phase = .replacing ∨ s.supervisor.phase = .outside)
      (hSources : s'.client.tables.sourceStreams = ∅)

/-- A source before a step is there after it, or the step takes it out. -/
theorem SourceMove.forward (h : SourceMove env s a s') {streamId : Text} {source : SourceState}
    (hLook : s.client.tables.sourceStreams.lookup streamId = some source) :
    (∃ source', s'.client.tables.sourceStreams.lookup streamId = some source' ∧
      SourceTurn s s' streamId source source') ∨ SourceExit env s a s' streamId source := by
  -- the table is the same
  have hSame : s'.client.tables.sourceStreams = s.client.tables.sourceStreams →
      ∃ source', s'.client.tables.sourceStreams.lookup streamId = some source' ∧
        SourceTurn s s' streamId source source' :=
    fun hEq => ⟨source, by rwa [hEq], .same⟩
  -- one entry is replaced, maybe this one
  have hReplaced : ∀ {key : Text} {old new : SourceState},
      s.client.tables.sourceStreams.lookup key = some old →
      s'.client.tables.sourceStreams = s.client.tables.sourceStreams.insert key new →
      SourceTurn s s' key old new →
      ∃ source', s'.client.tables.sourceStreams.lookup streamId = some source' ∧
        SourceTurn s s' streamId source source' := by
    intro key old new hOld hEq hTurn
    simp only [hEq, Store.lookup_insert_ite]
    by_cases hKey : streamId = key
    · subst hKey
      rw [hLook, Option.some.injEq] at hOld
      subst hOld
      exact ⟨new, if_pos rfl, hTurn⟩
    · exact ⟨source, by rw [if_neg hKey, hLook], .same⟩
  -- the entry that is taken out is the one with the key of the step
  have hErased : ∀ {key : Text} {old : SourceState},
      s.client.tables.sourceStreams.lookup key = some old →
      s'.client.tables.sourceStreams = s.client.tables.sourceStreams.erase key →
      (∃ source', s'.client.tables.sourceStreams.lookup streamId = some source' ∧
        SourceTurn s s' streamId source source') ∨ (streamId = key ∧ source = old) := by
    intro key old hOld hEq
    by_cases hKey : streamId = key
    · subst hKey
      rw [hLook, Option.some.injEq] at hOld
      exact .inr ⟨rfl, hOld⟩
    · exact .inl ⟨source, by simp [hEq, hKey, hLook], .same⟩
  cases h with
  | keep hSources => exact .inl (hSame hSources)
  | @enter _ job index bytes endpoint now _ hWork hJob hVerdict hClient =>
    obtain ⟨-, hUnused, -, -⟩ := sourceOpenVerdict_fresh hVerdict (by simp) (by simp)
    -- an admitted source has an identity of its own
    have hKey : streamId ≠ job.workId := by
      rintro rfl
      rw [hUnused.2.1] at hLook
      cases hLook
    refine .inl ⟨source, ?_, .same⟩
    simp [hClient, Client.admitSource, hKey, hLook]
  | reject _ _ hClient => exact .inl (hSame (by rw [hClient]; rfl))
  | lateGrant _ _ hClient => exact .inl (hSame (by rw [hClient]))
  | acknowledge _ _ _ _ _ _ hClient => exact .inl (hSame (by simp [hClient]))
  | cancel _ _ hCore =>
    exact .inl (hSame (congrArg (fun k : Core => k.tables.sourceStreams) hCore))
  | @open_ i job decision opened hPc hOwns hAccepted hClient hWorkers =>
    refine .inl (hReplaced hOwns.active (by rw [hClient]; rfl)
      (.opened hPc hOwns rfl ?_ hAccepted))
    simp [hWorkers, System.setWorker]
  | refuse hPc hOwns hAccepted hClient hWorkers hPc' =>
    -- a refused open takes its own source out
    obtain hStays | ⟨hKey, rfl⟩ := hErased hOwns.active (by rw [hClient]; rfl)
    · exact .inl hStays
    · exact .inr (.refused hPc hOwns hKey hAccepted hClient hWorkers hPc')
  | publish _ hPublishes hClient =>
    exact .inl (hReplaced hPublishes.active (by rw [hClient]; rfl) (.published hPublishes.opened))
  | close hAction hActive hPhase hClient =>
    -- closed by the application
    obtain hStays | ⟨rfl, rfl⟩ := hErased hActive (by rw [hClient]; rfl)
    · exact .inl hStays
    · exact .inr (.closed hAction hPhase hClient)
  | cancelOpened hAction hActive hPhase hClient =>
    -- cancelled by the Host
    obtain hStays | ⟨rfl, rfl⟩ := hErased hActive (by rw [hClient]; rfl)
    · exact .inl hStays
    · exact .inr (.cancelled hAction hPhase hClient)
  | grant _ hActive hPhase hLower hUpper _ _ hClient =>
    exact .inl (hReplaced hActive (by rw [hClient]; rfl) (.granted hPhase hLower hUpper))
  | deactivate hAction hPc hCore => exact .inr (.deactivated hAction hPc hCore)
  | retire hPhase hSources =>
    -- the session ends and takes all sources with it
    obtain hEq | hEq := hSources
    · exact .inl (hSame hEq)
    · exact .inr (.retired hPhase hEq)

/-- The tombstone is the same but for the acknowledged sequence. -/
structure ClosedSourceState.Keeps (a b : ClosedSourceState) : Prop where
  terminalFrame : b.terminalFrame = a.terminalFrame
  terminalDigest : b.terminalDigest = a.terminalDigest
  accountedBytes : b.accountedBytes = a.accountedBytes

protected theorem ClosedSourceState.Keeps.refl (a : ClosedSourceState) : a.Keeps a :=
  ⟨rfl, rfl, rfl⟩

protected theorem ClosedSourceState.Keeps.trans {a b c : ClosedSourceState} (h : a.Keeps b)
    (h' : b.Keeps c) : a.Keeps c :=
  ⟨h'.1.trans h.1, h'.2.trans h.2, h'.3.trans h.3⟩

/-- A tombstone after a step was there before it, or its source is gone. -/
theorem SourceMove.closed_back (h : SourceMove env s a s') {streamId : Text}
    {closed' : ClosedSourceState}
    (hLook : s'.client.tables.closedSources.lookup streamId = some closed') :
    (∃ closed, s.client.tables.closedSources.lookup streamId = some closed ∧
      closed.Keeps closed') ∨
    s'.client.tables.sourceStreams.lookup streamId = none := by
  have hSame : s'.client.tables.closedSources = s.client.tables.closedSources →
      ∃ closed, s.client.tables.closedSources.lookup streamId = some closed ∧
        closed.Keeps closed' :=
    fun hEq => ⟨closed', by rwa [hEq] at hLook, .refl _⟩
  -- the tombstone of a source that has just left the table, or of one refused at the door
  have hAdded : ∀ {key : Text} {closed : ClosedSourceState},
      s'.client.tables.closedSources = s.client.tables.closedSources.insert key closed →
      s'.client.tables.sourceStreams.lookup key = none →
      (∃ closed, s.client.tables.closedSources.lookup streamId = some closed ∧
        closed.Keeps closed') ∨
      s'.client.tables.sourceStreams.lookup streamId = none := by
    -- either the tombstone is the new one, and its source gone, or it was there
    intro key closed hEq hGone
    rw [hEq, Store.lookup_insert_ite] at hLook
    split at hLook
    · rename_i hKey
      rw [hKey]
      exact .inr hGone
    · exact .inl ⟨closed', hLook, .refl _⟩
  have hEmpty : s'.client.tables.closedSources = ∅ → False := by
    intro hEq
    rw [hEq] at hLook
    cases hLook
  cases h with
  -- moves that leave the tombstones alone
  | keep _ hClosed => exact .inl (hSame hClosed)
  | enter _ _ _ _ hClient | open_ _ _ _ hClient => exact .inl (hSame (by rw [hClient]; rfl))
  | publish _ _ hClient => exact .inl (hSame (by rw [hClient]; rfl))
  | grant _ _ _ _ _ _ _ hClient => exact .inl (hSame (by rw [hClient]; rfl))
  | cancel _ _ hCore =>
    exact .inl (hSame (congrArg (fun k : Core => k.tables.closedSources) hCore))
  | reject _ hUnused hClient =>
    -- moves that add one
    exact hAdded (by rw [hClient]; rfl) (by rw [hClient]; exact hUnused.2.1)
  | refuse _ _ _ hClient =>
    exact hAdded (by rw [hClient]; rfl)
      (by rw [hClient]; simp [Client.eraseSource])
  | close _ _ _ hClient =>
    exact hAdded (by rw [hClient]; rfl)
      (by rw [hClient]; simp [Client.closed, Client.eraseSource])
  | cancelOpened _ _ _ hClient =>
    exact hAdded (by rw [hClient]; rfl)
      (by rw [hClient]; simp [Client.closed, Client.eraseSource])
  | @lateGrant _ key closed _ _ hActive hClient =>
    -- a late grant rewrites one in place
    simp only [hClient, Store.lookup_insert_ite] at hLook
    split at hLook
    · rename_i hKey
      subst hKey
      cases hLook
      exact .inl ⟨closed, hActive, rfl, rfl, rfl⟩
    · exact .inl ⟨closed', hLook, .refl _⟩
  | acknowledge _ _ _ _ _ _ hClient =>
    -- an acknowledgement takes one out
    simp only [hClient, Store.lookup_erase_ite] at hLook
    split at hLook
    · cases hLook
    · exact .inl ⟨closed', hLook, .refl _⟩
  | deactivate _ _ hCore =>
    -- the end of the session takes them all
    exact (hEmpty (congrArg (fun k : Core => k.tables.closedSources) hCore)).elim
  | retire _ _ hClosed =>
    obtain hEq | hEq := hClosed
    · exact .inl (hSame hEq)
    · exact (hEmpty hEq).elim

-- ---------------------------------------------------------------------------
-- The invariant
-- ---------------------------------------------------------------------------

/-- What links the source tables to each other and to the jobs that open their
entries. -/
structure Sources (s : System) : Prop where
  exclusive : ∀ streamId source, s.client.tables.sourceStreams.lookup streamId = some source →
    s.client.tables.closedSources.lookup streamId = none
  distinct : ∀ k k' x y, s.client.tables.sourceStreams.lookup k = some x →
    s.client.tables.sourceStreams.lookup k' = some y → x.cancellation = y.cancellation → k = k'
  linked : ∀ job streamId source, s.Holds job →
    s.client.tables.sourceStreams.lookup streamId = some source →
    job.cancellation = some source.cancellation →
    job.kind = .sourceOpen ∧ streamId = job.workId ∧ source.request = job.sourceOpen
  opening : ∀ job streamId source, s.Holds job →
    s.client.tables.sourceStreams.lookup streamId = some source →
    job.cancellation = some source.cancellation →
    source.phase = .opening ∨
      ∃ i, (s.workers i).job? = some job ∧ (s.workers i).stage = .sourceDone
  fresh : ∀ streamId source, s.client.tables.sourceStreams.lookup streamId = some source →
    source.phase = .opening → source.sequence = 0 ∧ source.acknowledgedSequence = 0

/-- A worker with a terminal to commit is not done with a source open. -/
theorem WorkerPc.stage_of_due {pc : WorkerPc} {now : Int} {frame : WorkFrame}
    (h : pc.dueTerminal now = some frame) : pc.stage ≠ .sourceDone := by
  cases pc <;> first | (cases h; done) | (intro hDone; cases hDone)

/-- A worker that is done with a source open stays so, or is left without a job. -/
theorem WorkerMove.sourceDone {pc pc' : WorkerPc} (h : WorkerMove env c pc pc' c')
    (hDone : pc.stage = .sourceDone) : pc'.stage = .sourceDone ∨ pc'.job? = none := by
  cases h with
  | quiet _ _ _ _ hStage =>
    simp only [Stage.Quiet, hDone, reduceCtorEq, false_and, or_false] at hStage
    exact .inl hStage.symm
  | leaveSource => exact .inr rfl
  | refuse _ _ hDue | commit _ _ hDue => exact absurd hDone (WorkerPc.stage_of_due hDue)
  | erase => cases ‹Bool› <;> cases hDone
  | finish => cases ‹Bool› <;> cases hDone
  | exit | pop | accept | startOperation | startUnary | returnUnary | returnOperation | leave
  | startSource | returnSource | commitSource => cases hDone

/-- A job that is held, and the job of a worker with the same cancellation. -/
theorem Jobs.held_by (h : Jobs s) {i : Nat} {job job' : DispatchJob} (hHeld : s.Holds job)
    (hWorker : (s.workers i).job? = some job') (hSame : job.cancellation = job'.cancellation) :
    job = job' := by
  obtain hQueue | ⟨j, hOther⟩ := hHeld
  · exact absurd hSame.symm (h.mixed i job' job hWorker hQueue)
  · by_cases hj : j = i
    · subst hj
      rw [hOther, Option.some.injEq] at hWorker
      exact hWorker
    · exact absurd hSame (h.workers j i job job' hj hOther hWorker)

/-- A worker that is done with its source open, after a step. -/
theorem PlaneMove.sourceDone (h : PlaneMove env s a s') (hJobs : Jobs s) {i : Nat}
    {job : DispatchJob} (hJob : (s.workers i).job? = some job)
    (hDone : (s.workers i).stage = .sourceDone) (hHeld' : s'.Holds job) :
    ∃ i, (s'.workers i).job? = some job ∧ (s'.workers i).stage = .sourceDone := by
  have hSame : s'.workers = s.workers →
      ∃ i, (s'.workers i).job? = some job ∧ (s'.workers i).stage = .sourceDone :=
    fun hEq => ⟨i, by rw [hEq]; exact hJob, by rw [hEq]; exact hDone⟩
  cases h with
  | @worker j _ pc' _ _ hMove hWorkers =>
    have hOther : ∀ k, k ≠ j → s'.workers k = s.workers k := by
      intro k hk
      simp [hWorkers, System.setWorker, hk]
    have hOwn : s'.workers j = pc' := by simp [hWorkers, System.setWorker]
    by_cases hij : i = j
    swap
    · exact ⟨i, by rw [hOther i hij]; exact hJob, by rw [hOther i hij]; exact hDone⟩
    subst hij
    obtain hDone' | hNone := hMove.sourceDone hDone
    · obtain ⟨_, -, hFree, -⟩ | ⟨-, hKept | hNone⟩ := hMove.dispatch
      · rw [hFree] at hJob
        cases hJob
      · exact ⟨i, by rw [hOwn, hKept]; exact hJob, by rw [hOwn]; exact hDone'⟩
      · -- a worker at such a point holds a job
        cases pc' <;> first | (cases hDone'; done) | cases hNone
    · -- the job is counted out, and nobody else held it
      exfalso
      obtain hQueue | ⟨k, hWorker⟩ := hHeld'
      · have hWas : job ∈ s.client.queues.dispatch := by
          obtain ⟨_, hEq, -⟩ | ⟨hEq, -⟩ := hMove.dispatch
          · rw [hEq]
            exact List.mem_cons_of_mem _ hQueue
          · rwa [hEq] at hQueue
        exact hJobs.mixed i job job hJob hWas rfl
      · by_cases hk : k = i
        · subst hk
          rw [hOwn, hNone] at hWorker
          cases hWorker
        · rw [hOther k hk] at hWorker
          exact hJobs.workers k i job job hk hWorker hJob rfl
  | reader _ _ hWorkers | publish _ _ hWorkers | close _ _ hWorkers => exact hSame hWorkers
  | quiet _ _ hWorkers | deactivate _ _ hWorkers => exact hSame hWorkers
  | drop _ _ _ hWorkers => exact hSame hWorkers
  | release _ _ hJobs' | outside _ _ hJobs' => exact absurd hHeld' (hJobs'.not_holds job)

/-- A job that is held after a step, and the source with its cancellation: both
were there before the step, or the step admitted both. -/
theorem PlaneMove.source_back (h : PlaneMove env s a s') (hMove : SourceMove env s a s')
    (hJobs : Jobs s) {job : DispatchJob} {streamId : Text} {source' : SourceState}
    (hHeld' : s'.Holds job)
    (hLook' : s'.client.tables.sourceStreams.lookup streamId = some source')
    (hSame : job.cancellation = some source'.cancellation) :
    (s.Holds job ∧ ∃ source, s.client.tables.sourceStreams.lookup streamId = some source ∧
      SourceTurn s s' streamId source source') ∨
    ∃ request index endpoint bytes, IsSourceJob request ∧ streamId = request.workId ∧
      source' = admittedSource s.client request index endpoint bytes ∧
      job = request.openedAs s.client.nextCancellation
        s.client.session.connectionEpochCounter := by
  have hOld : ∀ {source : SourceState},
      s.client.tables.sourceStreams.lookup streamId = some source →
      some s.client.nextCancellation ≠ some source.cancellation := by
    intro source hLook hEq
    have hLt := (hJobs.sources _ _ hLook).1
    rw [Option.some.injEq] at hEq
    rw [← hEq] at hLt
    exact absurd hLt (Nat.lt_irrefl _)
  obtain hHeld | ⟨request, reservation, hAdmits, rfl⟩ | ⟨request, hAdmits, rfl⟩ := h.holds hHeld'
  · obtain hWas | ⟨_, _, _, _, _, -, -, -, -, -, -, rfl⟩ := hMove.back hLook'
    · exact .inl ⟨hHeld, hWas⟩
    · -- a job of the past does not have the id that is being allocated
      obtain ⟨id, hId, hLt⟩ := hJobs.held job hHeld
      rw [hId] at hSame
      have hEq : id = s.client.nextCancellation := Option.some.inj hSame
      rw [hEq] at hLt
      exact absurd hLt (Nat.lt_irrefl _)
  · rw [hAdmits.client] at hLook'
    exact absurd hSame (hOld hLook')
  · obtain ⟨_, index, endpoint, bytes, -, hClient⟩ := hAdmits.verdict
    rw [hClient] at hLook'
    simp only [Client.admitSource, Store.lookup_insert_ite] at hLook'
    split at hLook'
    · rename_i hKey
      cases hLook'
      exact .inr ⟨request, index, endpoint, bytes, hAdmits.request, hKey, rfl, rfl⟩
    · exact absurd hSame (hOld hLook')

/-- Every step keeps the sources linked to their jobs. -/
theorem Sources.step (h : Sources s) (hReach : (machine env).Reachable s)
    (hStep : (machine env).step s a = some s') : Sources s' := by
  have hShape := shape_of_reachable hReach
  have hJobs := jobs_of_reachable hReach
  have hPlane := planeMove_of_step hShape hStep
  have hMove := sourceMove_of_step hShape hStep
  -- a source that was there before the step has an older cancellation
  have hOld : ∀ {k : Text} {x : SourceState}, s.client.tables.sourceStreams.lookup k = some x →
      x.cancellation < s.client.nextCancellation := fun hLook => (hJobs.sources _ _ hLook).1
  refine ⟨?_, ?_, ?_, ?_, ?_⟩
  · -- a source and a tombstone never share an identity
    intro streamId source' hLook
    by_contra hNot
    obtain ⟨closed', hClosed'⟩ := Option.ne_none_iff_exists'.mp hNot
    obtain ⟨closed, hClosed, -⟩ | hGone := hMove.closed_back hClosed'
    · obtain ⟨source, hWas, -⟩ | ⟨job, _, _, _, _, -, -, hUnused, -, -, hKey, -⟩ := hMove.back hLook
      · rw [h.exclusive streamId source hWas] at hClosed
        cases hClosed
      · rw [hKey, hUnused.1] at hClosed
        cases hClosed
    · rw [hGone] at hLook
      cases hLook
  · intro k k' x y hX hY hEq
    -- the newly admitted source is the only one with its cancellation
    -- two sources never share a cancellation
    have hNew : ∀ {k k' : Text} {x y : SourceState} {job : DispatchJob} {index bytes : Nat}
        {endpoint : CapabilityEndpointContract},
        s'.client = s.client.admitSource job index endpoint bytes → k = job.workId →
        x = admittedSource s.client job index endpoint bytes →
        s'.client.tables.sourceStreams.lookup k' = some y → x.cancellation = y.cancellation →
        k = k' := by
      intro k k' x y job index bytes endpoint hClient hKey hSource hLook hSame
      rw [hClient] at hLook
      simp only [Client.admitSource, Store.lookup_insert_ite] at hLook
      split at hLook
      · rename_i hKey'
        rw [hKey, hKey']
      · have hLt := hOld hLook
        rw [← hSame, hSource] at hLt
        exact absurd hLt (Nat.lt_irrefl _)
    obtain ⟨x₀, hX₀, hTurn⟩ | ⟨_, _, _, _, _, -, -, -, -, hClient, hKey, hSource⟩ := hMove.back hX
    · obtain ⟨y₀, hY₀, hTurn'⟩ | ⟨_, _, _, _, _, -, -, -, -, hClient, hKey, hSource⟩ := hMove.back hY
      · refine h.distinct k k' x₀ y₀ hX₀ hY₀ ?_
        rw [← hTurn.sameSource.cancellation, ← hTurn'.sameSource.cancellation]
        exact hEq
      · exact (hNew hClient hKey hSource hX hEq.symm).symm
    · exact hNew hClient hKey hSource hY hEq
  · intro job streamId source' hHeld' hLook' hSame
    -- a job and its source agree on the request
    obtain ⟨hHeld, source, hLook, hTurn⟩ | ⟨request, _, _, _, hRequest, hKey, rfl, rfl⟩ :=
      hPlane.source_back hMove hJobs hHeld' hLook' hSame
    · have hSameSource := hTurn.sameSource
      rw [hSameSource.cancellation] at hSame
      rw [hSameSource.request]
      exact h.linked job streamId source hHeld hLook hSame
    · exact ⟨hRequest.kind, hKey, rfl⟩
  · intro job streamId source' hHeld' hLook' hSame
    obtain ⟨hHeld, source, hLook, hTurn⟩ | ⟨_, _, _, _, -, -, rfl, -⟩ :=
      hPlane.source_back hMove hJobs hHeld' hLook' hSame
    swap
    · exact .inl rfl
    rw [hTurn.sameSource.cancellation] at hSame
    -- a source still opening belongs to a job that has yet to answer
    obtain hOpening | ⟨i, hJob, hDone⟩ := h.opening job streamId source hHeld hLook hSame
    · cases hTurn with
      | same => exact .inl hOpening
      | @opened i opener _ hPc hOwns _ hPc' =>
        have hOpener : job = opener :=
          hJobs.held_by hHeld (by rw [hPc]; rfl) (hSame.trans hOwns.own.symm)
        exact .inr ⟨i, by rw [hPc', hOpener]; rfl, by rw [hPc']; rfl⟩
      | published hOpened | granted hOpened =>
        rw [hOpened] at hOpening
        cases hOpening
    · exact .inr (hPlane.sourceDone hJobs hJob hDone hHeld')
  · intro streamId source' hLook hPhase
    -- a source that has not opened has published nothing
    obtain ⟨source, hWas, hTurn⟩ | ⟨_, _, _, _, _, -, -, -, -, -, -, rfl⟩ := hMove.back hLook
    · cases hTurn with
      | same => exact h.fresh streamId _ hWas hPhase
      | opened => cases hPhase
      | published hOpened | granted hOpened =>
        have hPhase : source.phase = .opening := hPhase
        rw [hOpened] at hPhase
        cases hPhase
    · exact ⟨rfl, rfl⟩

/-- A job that is about to commit the opening of a source finds it opening. -/
theorem Sources.opening_of_commit (h : Sources s) (hJobs : Jobs s) {i : Nat} {job : DispatchJob}
    {decision : SourceOpenDecision} {source : SourceState}
    (hPc : s.workers i = .sourceCommit job decision) (hOwns : OwnsSource s.client job source) :
    source.phase = .opening := by
  have hJob : (s.workers i).job? = some job := by
    rw [hPc]
    rfl
  obtain hOpening | ⟨j, hOther, hDone⟩ :=
    h.opening job job.workId source (.inr ⟨i, hJob⟩) hOwns.active hOwns.own
  · exact hOpening
  · by_cases hij : j = i
    · subst hij
      rw [hPc] at hDone
      cases hDone
    · exact absurd rfl (hJobs.workers j i job job hij hOther hJob)

/-- In every reachable state the source tables are linked to the jobs. -/
theorem sources_of_reachable (h : (machine env).Reachable s) : Sources s := by
  refine h.invariant (I := Sources) ?_ ?_
  · constructor <;> intros <;> simp_all [machine]
  · intro s a s' hReach hSources hStep
    exact hSources.step hReach hStep

end AdapterRuntime.Model
