import AdapterRuntime.Model.Deployment
import AdapterRuntime.Proof.Jobs

/-!
# AdapterRuntime — retained Work terminals

A terminal in `replay_` stays there, exactly, until its exact acknowledgement
or the end of the session, and while it is there the Host's requests for its
identity are answered from it.

* `replay_of_step` — the frame property, from `LedgerMove`.
* `WorkReaderPc.answer?` — the frame the Work reader is about to enqueue in
  answer to a request. The answer takes a section of its own, and a refused
  one is followed by the failure of the pair.
* `replay_retained_exact` — both together, and over whole runs.
-/

namespace AdapterRuntime.Model

open AdapterRuntime.Lib

variable {env : Env} {s s' : System}

/-- The step handles the exact acknowledgement of the terminal `entry` of `workId`. -/
def ExactlyAcknowledges (s : System) (a : Action) (workId : Text) (entry : ReplayEntry) : Prop :=
  ∃ now fence response acknowledgement, a = .workReader (.tick now) ∧
    s.workReader = .handling fence response ∧
    response.frame = .terminalAcknowledgement acknowledgement ∧
    acknowledgement.identity = .workId workId ∧
    acknowledgement.terminalDigest = entry.terminalDigest

/-- A retained terminal survives every step but its exact acknowledgement and
the end of the session. -/
theorem replay_of_step {a : Action} {workId : Text} {entry : ReplayEntry} (hShape : Shape s)
    (hStep : s.step env a = some s') (hEntry : s.client.tables.replay.lookup workId = some entry)
    (hEnd : ¬EndsSession s a) (hAck : ¬ExactlyAcknowledges s a workId entry) :
    s'.client.tables.replay.lookup workId = some entry := by
  have hSame : ∀ {l : LedgerPart}, s'.client.tables.ledger = l →
      l.replay.lookup workId = some entry →
      s'.client.tables.replay.lookup workId = some entry := by
    intro l hEq hLook
    rw [← hEq] at hLook
    exact hLook
  cases ledgerMove_of_step hShape hStep with
  | same hLedger => exact hSame hLedger hEntry
  | accept hJob hVerdict hClient hWork =>
    rw [hClient]
    exact hEntry
  | @retain job frame kept hKept hAdmits hLedger =>
    refine hSame hLedger ?_
    have hFree := Client.ledgerAdmits_replay hAdmits
    have hOther : workId ≠ job.workId := by
      rintro rfl
      rw [hFree] at hEntry
      cases hEntry
    simpa [Tables.ledger, Store.lookup_insert_ite, hOther] using hEntry
  | release hLedger => exact hSame hLedger (by simpa [Tables.ledger] using hEntry)
  | releaseAll hLedger => exact hSame hLedger (by simpa [Tables.ledger] using hEntry)
  | @acknowledge fence response acknowledgement other kept now hAction hReader hFrame hIdentity
      hKept hDigest hLedger =>
    refine hSame hLedger ?_
    have hOther : workId ≠ other := by
      rintro rfl
      rw [hKept, Option.some.injEq] at hEntry
      subst hEntry
      exact hAck ⟨now, fence, response, acknowledgement, hAction, hReader, hFrame, hIdentity,
        hDigest.symm⟩
    simpa [Store.lookup_erase_ite, hOther] using hEntry
  | reset hReset hLedger => exact absurd hReset hEnd

-- ---------------------------------------------------------------------------
-- Answers
-- ---------------------------------------------------------------------------

namespace WorkReaderPc

/-- The frame the reader is about to enqueue in answer to the Host. -/
def answer? : WorkReaderPc → Option WorkFrame
  | .followUp _ (.queueReplay frame _) => some frame
  | .followUp _ (.protocolError sequence message) => some (protocolErrorFrame sequence message)
  | _ => none

/-- The reader is about to signal the failure of the pair. -/
def failing : WorkReaderPc → Bool
  | .followUp _ (.signalFailure _) | .signalSession _ _ _ => true
  | _ => false

/-- The reader is about to report a protocol error. -/
def reporting : WorkReaderPc → Bool
  | .followUp _ (.protocolError _ _) => true
  | _ => false

end WorkReaderPc

/-- The job the reader builds from a unary or operation request. -/
def requestJob? (env : Env) (now : Int) (response : WorkResponse) : Option DispatchJob :=
  match response.frame with
  | .unaryRequest request => some (unaryJob env now request response.header.frameSequence)
  | .operationRequest request => some (operationJob env now request response.header.frameSequence)
  | _ => none

/-- A step of another thread leaves a reader that has a frame in hand alone. -/
theorem workReader_of_step {a : Action} (hShape : Shape s) (hStep : s.step env a = some s')
    (hBusy : s.workReader.fence? ≠ none) (hOther : ∀ input, a ≠ .workReader input) :
    s'.workReader = s.workReader := by
  cases System.step_cases hStep with
  | workReader => exact absurd rfl (hOther _)
  | @supervisor input pc' c' hSupervisor =>
    have hWork : s.supervisor.phase.work = true := by
      by_contra hNot
      exact hBusy (hShape.threads.workReader (by simpa using hNot))
    show (s.spawn pc').workReader = s.workReader
    unfold System.spawn
    split
    · rename_i r _ fence hPc
      simp [hPc, SupervisorPc.phase, PairPhase.work] at hWork
    · rename_i r fence _ _ hPc
      simp [hPc, SupervisorPc.phase, PairPhase.work] at hWork
    · rfl
  | worker | controlReader | workWriter | controlWriter | publishSource | closeSource | flags
  | startThreads | joinSupervisor | joinWorkers | stopDeactivate | stopReset => rfl

/-- While the reader has a frame in hand, the session it belongs to is installed. -/
theorem current_of_reading (hShape : Shape s) {fence : SessionFence}
    (hPc : s.workReader.fence? = some fence) :
    s.client.session.sessionId = fence.sessionId ∧ s.client.session.sessionId ≠ [] := by
  have hCurrent := hShape.threads.workReaderFence fence hPc
  have hWork : s.supervisor.phase.work = true := by
    by_contra hNot
    rw [hShape.threads.workReader (by simpa using hNot)] at hPc
    cases hPc
  have hSome : ∃ r, s.supervisor.supervision? = some r := by
    cases hS : s.supervisor <;>
      simp_all [SupervisorPc.phase, PairPhase.work, SupervisorPc.supervision?]
  obtain ⟨r, hSupervision⟩ := hSome
  have hInstalled := hShape.threads.session r hSupervision
  refine ⟨hCurrent.sessionId.symm, ?_⟩
  rw [hInstalled.sessionId]
  exact hInstalled.valid.sessionId

/-- The session a reader is about to fail is the one its stream belongs to. -/
def FailsOwnSession (s : System) : Prop :=
  ∀ fence session reason, s.workReader = .signalSession fence session reason →
    session = fence.sessionId

/-- Only a follow-up that signals a failure leads to the signal, and it names
the session that is installed. -/
theorem workReaderStep_signalSession {c c' : Client} {pc : WorkReaderPc}
    {input : ReaderInput WorkResponse} {fence : SessionFence} {session reason : Text}
    (h : workReaderStep env c pc input = some (.signalSession fence session reason, c')) :
    pc = .followUp fence (.signalFailure reason) ∧ session = c.session.sessionId := by
  generalize hNext : WorkReaderPc.signalSession fence session reason = pc' at h
  cases workReaderStep_branch h with
  | followUp hFollow =>
    cases followUpStep_branch hFollow with
    | signal =>
      cases hNext
      exact ⟨rfl, rfl⟩
    | _ => cases hNext
  | _ => cases hNext

/-- In every reachable state a failure names the session it is of. -/
theorem failsOwnSession_of_reachable (h : (machine env).Reachable s) : FailsOwnSession s := by
  refine h.invariant (I := FailsOwnSession) ?_ ?_
  · intro fence session reason hPc
    cases hPc
  · intro s a s' hReach hOwn hRun fence session reason hPc'
    have hStep : s.step env a = some s' := hRun
    have hShape := shape_of_reachable hReach
    cases System.step_cases hStep with
    | workReader hReader hSpawn hOpening hJoin =>
      simp only at hPc'
      rw [hPc'] at hReader
      obtain ⟨hPc, rfl⟩ := workReaderStep_signalSession hReader
      exact (current_of_reading hShape (by rw [hPc]; rfl)).1
    | @supervisor input pc' c' hSupervisor =>
      have hSpawn : (s.spawn pc').workReader = s.workReader ∨
          (s.spawn pc').workReader = .notStarted ∨
          ∃ fence, (s.spawn pc').workReader = .opening fence := by
        unfold System.spawn
        split
        · exact .inr (.inl rfl)
        · exact .inr (.inr ⟨_, rfl⟩)
        · exact .inl rfl
      simp only at hPc'
      rw [hPc'] at hSpawn
      obtain hSame | hNone | ⟨_, hNone⟩ := hSpawn
      · exact hOwn fence session reason hSame.symm
      · cases hNone
      · cases hNone
    | worker | controlReader | workWriter | controlWriter | publishSource | closeSource | flags
    | startThreads | joinSupervisor | joinWorkers | stopDeactivate | stopReset =>
      exact hOwn fence session reason hPc'

-- ---------------------------------------------------------------------------
-- Where retained terminals come from
-- ---------------------------------------------------------------------------

/-- A worker commits the terminal `entry` of the job it holds. -/
structure WorkerRetains (env : Env) (s : System) (i : Nat) (job : DispatchJob)
    (entry : ReplayEntry) (s' : System) : Prop where
  holds : (s.workers i).job? = some job
  due : ∃ now frame, (s.workers i).dueTerminal now = some frame ∧
    s.client.workAdmits env frame = true ∧
    replayEntryOf env job frame (s.client.workFrameBytes env frame) = some entry ∧
    s'.client = s.client.committed env job frame entry
  admits : s.client.ledgerAdmits env job entry = true
  next : s'.workers i = .eraseToken job true ∨ s'.workers i = .finish job true

/-- The Work reader commits the immediate rejection it has in hand. -/
structure ReaderRetains (env : Env) (s : System) (job : DispatchJob) (entry : ReplayEntry)
    (s' : System) : Prop where
  pending : ∃ fence frame, s.workReader = .followUp fence (.commitImmediate job frame) ∧
    replayEntryOf env job frame (s.client.workFrameBytes env frame) = some entry ∧
    s'.client = s.client.committed env job frame entry
  admits : s.client.ledgerAdmits env job entry = true

/-- A worker adds the terminal that is due to the replay table, or nothing. -/
theorem WorkerMove.replay {c c' : Client} {pc pc' : WorkerPc} (h : WorkerMove env c pc pc' c') :
    c'.tables.replay = c.tables.replay ∨
    ∃ job now frame entry, pc.job? = some job ∧ pc.dueTerminal now = some frame ∧
      c.workAdmits env frame = true ∧
      replayEntryOf env job frame (c.workFrameBytes env frame) = some entry ∧
      c.ledgerAdmits env job entry = true ∧ c' = c.committed env job frame entry ∧
      (pc' = .eraseToken job true ∨ pc' = .finish job true) := by
  cases h with
  | commit now hJob hDue hNext hAdmits hEntry hLedger =>
    exact .inr ⟨_, now, _, _, hJob, hDue, hAdmits, hEntry, hLedger, rfl, hNext⟩
  | exit | pop | accept | leave => exact .inl rfl
  | quiet hJob hJob' hCore hRest hStage =>
    exact .inl (congrArg (fun k : Core => k.tables.replay) hCore)
  | startOperation now | startUnary hKind | startSource =>
    refine .inl ?_
    unfold Client.recordStarted
    split <;> rfl
  | returnUnary _ hKind | returnOperation _ hKind | returnSource =>
    refine .inl ?_
    unfold Client.recordReturned
    split <;> rfl
  | refuse now hJob hDue hCommit hResult hNext =>
    obtain ⟨hCommitted, -⟩ | ⟨-, hRefused⟩ := Client.commitTerminalFrame_cases hCommit
    · exact absurd hCommitted hResult
    · exact .inl (congrArg (fun k : Core => k.tables.replay) hRefused.core)
  | erase hCore hRest | finish hCore hRest =>
    refine .inl ((congrArg (fun k : Core => k.tables.replay) hCore).trans ?_)
    exact c.tables.releaseWorkToken_replay _
  | commitSource hCommit hJob' hStage' =>
    obtain ⟨-, rfl, -⟩ | ⟨source, -, -, -, -, hCases⟩ := commitSourceOpen_cases hCommit
    · exact .inl rfl
    · obtain ⟨-, hRefused⟩ | ⟨-, -, rfl⟩ | ⟨-, -, digest, rfl⟩ := hCases
      · exact .inl (congrArg (fun k : Core => k.tables.replay) hRefused.core)
      · exact .inl rfl
      · exact .inl rfl
  | leaveSource hCore hRest => exact .inl (congrArg (fun k : Core => k.tables.replay) hCore)

/-- A step of a worker keeps every retained terminal. -/
theorem WorkerMove.replay_kept {c c' : Client} {pc pc' : WorkerPc}
    (h : WorkerMove env c pc pc' c') {workId : Text} {entry : ReplayEntry}
    (hKept : c.tables.replay.lookup workId = some entry) :
    c'.tables.replay.lookup workId = some entry := by
  obtain hEq | ⟨job, now, frame, other, -, -, -, -, hLedger, hEq, -⟩ := h.replay
  · rwa [hEq]
  · rw [hEq, Client.tables_committed, Client.retainTerminal_replay, Store.lookup_insert_ite]
    split
    · rename_i hKey
      subst hKey
      rw [Client.ledgerAdmits_replay hLedger] at hKept
      cases hKept
    · exact hKept

/-- A terminal that is retained after a step was retained before, or the step
committed it. -/
theorem PlaneMove.replay {a : Action} (h : PlaneMove env s a s') {workId : Text}
    {entry : ReplayEntry} (hEntry : s'.client.tables.replay.lookup workId = some entry) :
    s.client.tables.replay.lookup workId = some entry ∨
    (∃ i job, WorkerRetains env s i job entry s' ∧ job.workId = workId) ∨
    ∃ job, ReaderRetains env s job entry s' ∧ job.workId = workId := by
  -- the table is the same
  have hSame : s'.client.tables.replay = s.client.tables.replay →
      s.client.tables.replay.lookup workId = some entry := fun hEq => by rwa [hEq] at hEntry
  -- a commit adds the entry of its own job
  have hCommitted : ∀ {job : DispatchJob} {frame : WorkFrame} {kept : ReplayEntry},
      s'.client = s.client.committed env job frame kept →
      s.client.tables.replay.lookup workId = some entry ∨ (job.workId = workId ∧ kept = entry) := by
    intro job frame kept hClient
    rw [hClient, Client.tables_committed, Client.retainTerminal_replay,
      Store.lookup_insert_ite] at hEntry
    split at hEntry
    · rename_i hKey
      exact .inr ⟨hKey.symm, Option.some.inj hEntry⟩
    · exact .inl hEntry
  cases h with
  | @worker i input pc' hAction hStep hMove hWorkers hReader hHolds =>
    -- a worker retains, or changes nothing
    obtain hEq | ⟨job, now, frame, kept, hJob, hDue, hAdmits, hKept, hLedger, hClient, hNext⟩ :=
      hMove.replay
    · exact .inl (hSame hEq)
    · obtain hWas | ⟨hKey, rfl⟩ := hCommitted hClient
      · exact .inl hWas
      · have hPc : s'.workers i = pc' := by simp [hWorkers, System.setWorker]
        exact .inr (.inl ⟨i, job, ⟨hJob, ⟨now, frame, hDue, hAdmits, hKept, hClient⟩, hLedger,
          by rwa [hPc]⟩, hKey⟩)
  | reader hAction hMove hWorkers hWork =>
    generalize hPc : s.workReader = pc at hMove
    generalize s'.workReader = pc' at hMove
    generalize hC' : s'.client = c' at hMove
    cases hMove with
    | @commit fence job frame kept hKept hLedger =>
      -- the Work reader commits a request it refuses at once
      obtain hWas | ⟨hKey, rfl⟩ := hCommitted hC'
      · exact .inl hWas
      · exact .inr (.inr ⟨job, ⟨⟨fence, frame, hPc, hKept, hC'⟩, hLedger⟩, hKey⟩)
    | quiet hCore hRest hPending =>
      exact .inl (hSame (by rw [hC']; exact congrArg (fun k : Core => k.tables.replay) hCore))
    | answer hCore hRest hRetained =>
      exact .inl (hSame (by rw [hC']; exact congrArg (fun k : Core => k.tables.replay) hCore))
    | immediate hJob hVerdict hCore hRest =>
      exact .inl (hSame (by rw [hC']; exact congrArg (fun k : Core => k.tables.replay) hCore))
    | retireSource hCore hRest =>
      exact .inl (hSame (by rw [hC']; exact congrArg (fun k : Core => k.tables.replay) hCore))
    | cancelRefused hFrame hIdentity hActive hEpoch hPhase hRefused =>
      exact .inl (hSame (by
        rw [hC']
        exact congrArg (fun k : Core => k.tables.replay) hRefused.core))
    | @acknowledge _ _ _ other kept =>
      -- an acknowledgement takes one entry out
      rw [hC'] at hEntry
      simp only [Store.lookup_erase_ite] at hEntry
      split at hEntry
      · cases hEntry
      · exact .inl hEntry
    | report | replay | accept | admitSource | rejectSource | grant | lateGrant | acknowledgeSource
    | cancelOpening | cancelOpened =>
      exact .inl (hSame ((congrArg (fun c : Client => c.tables.replay) hC').trans rfl))
  | publish hAction hClient hWorkers hReader =>
    -- the other moves never retain anything
    exact .inl (hSame (by rw [hClient]; exact congrArg LedgerPart.replay ledger_publishSource))
  | close hAction hClient hWorkers hReader =>
    exact .inl (hSame (by rw [hClient]; exact congrArg LedgerPart.replay ledger_closeSource))
  | quiet hCore hSteady hWorkers hReader =>
    exact .inl (hSame (congrArg (fun k : Core => k.tables.replay) hCore))
  | deactivate hCore hSteady hWorkers hReader hControl =>
    exact .inl (hSame (congrArg (fun k : Core => k.tables.replay) hCore))
  | drop hPhase hCore hSteady hWorkers hReader =>
    exact .inl (hSame (congrArg (fun k : Core => k.tables.replay) hCore))
  | release hPhase hNone hNone' hCore hReader =>
    exact .inl (hSame ((congrArg (fun k : Core => k.tables.replay) hCore).trans (by simp)))
  | outside hPhase hNone hNone' hTokens hTokens' hReplay =>
    -- the end of the session drops them all
    rcases hReplay with hEq | hEq
    · exact .inl (hSame hEq)
    · rw [hEq] at hEntry
      cases hEntry

/-- No job and no retained terminal has an empty identity. -/
structure Named (s : System) : Prop where
  held : ∀ job, s.Holds job → job.workId ≠ []
  pending : ∀ job frame, s.workReader.pending? = some (.commitImmediate job frame) →
    job.workId ≠ []
  retained : s.client.tables.replay.lookup [] = none

/-- An immediate rejection in the reader's hand was there before, or the step
decided it. -/
theorem PlaneMove.pending {a : Action} (h : PlaneMove env s a s') {job : DispatchJob}
    {frame : WorkFrame} (hPending : s'.workReader.pending? = some (.commitImmediate job frame)) :
    s'.workReader = s.workReader ∨
    ∃ code message, IsRequestJob job ∧
      dispatchVerdict env s.client job = .reject code message ∧
      s'.client.core = s.client.core ∧ s'.workers = s.workers ∧
      s.supervisor.phase.work = true ∧ s.workReader.Asks job.workId := by
  cases h with
  | worker hAction hStep hMove hWorkers hReader hHolds => exact .inl hReader
  | reader hAction hMove hWorkers hWork =>
    generalize s.workReader = pc at hMove ⊢
    generalize s'.workReader = pc' at hMove hPending
    generalize hC' : s'.client = c' at hMove
    cases hMove with
    | quiet hCore hRest hNameless =>
      exact absurd (hNameless _ hPending) (by simp [FollowUp.Nameless])
    | @immediate fence response _ request code message now hJob hVerdict hCore hRest hId =>
      simp only [WorkReaderPc.pending?, Option.some.injEq, FollowUp.commitImmediate.injEq]
        at hPending
      obtain ⟨rfl, -⟩ := hPending
      exact .inr ⟨code, message, hJob, hVerdict, hCore, hWorkers, hWork, _, _, rfl, hId⟩
    | report | replay | commit | accept | answer | admitSource | rejectSource | retireSource | grant
    | lateGrant | acknowledge | acknowledgeSource | cancelOpening | cancelRefused
    | cancelOpened => simp [WorkReaderPc.pending?, retireForSource] at hPending
  | publish hAction hClient hWorkers hReader => exact .inl hReader
  | close hAction hClient hWorkers hReader => exact .inl hReader
  | quiet hCore hSteady hWorkers hReader =>
    rcases hReader with hSame | hNone
    · exact .inl hSame
    · rw [hNone] at hPending
      cases hPending
  | deactivate hCore hSteady hWorkers hReader hControl => exact .inl hReader
  | drop hPhase hCore hSteady hWorkers hReader => exact .inl hReader
  | release hPhase hNone hNone' hCore hReader => exact .inl hReader
  | outside hPhase hNone hNone' hTokens hTokens' hReplay hSources hClosed hHistory hNext
      hReader =>
    rw [hReader] at hPending
    cases hPending

/-- In every reachable state the entries are named by their terminals. -/
theorem named_of_reachable (h : (machine env).Reachable s) : Named s := by
  refine h.invariant (I := Named) ?_ ?_
  · refine ⟨fun job hHeld => ?_, by simp [machine, WorkReaderPc.pending?], rfl⟩
    exact absurd hHeld (System.Jobless.not_holds ⟨rfl, fun _ => rfl⟩ job)
  · intro s a s' hReach hNamed hStep
    have hMove := planeMove_of_step (shape_of_reachable hReach) hStep
    constructor
    · intro job hHeld
      obtain hWas | ⟨request, reservation, hAdmits, rfl⟩ | ⟨request, hAdmits, rfl⟩ :=
        hMove.holds hHeld
      · exact hNamed.held job hWas
      · exact (dispatchVerdict_accept hAdmits.verdict).1
      · obtain ⟨now, index, endpoint, bytes, hVerdict, -⟩ := hAdmits.verdict
        exact (sourceOpenVerdict_fresh hVerdict (by simp) (by simp)).1
    · intro job frame hPending
      obtain hSame | ⟨code, message, -, hVerdict, -⟩ := hMove.pending hPending
      · exact hNamed.pending job frame (by rwa [hSame] at hPending)
      · exact (dispatchVerdict_reject hVerdict).1
    · cases hEntry : s'.client.tables.replay.lookup [] with
      | none => rfl
      | some entry =>
        obtain hWas | ⟨i, job, hRetains, hKey⟩ | ⟨job, hRetains, hKey⟩ := hMove.replay hEntry
        · rw [hNamed.retained] at hWas
          cases hWas
        · exact absurd hKey (hNamed.held job (.inr ⟨i, hRetains.holds⟩))
        · obtain ⟨fence, frame, hPc, -, -⟩ := hRetains.pending
          exact absurd hKey (hNamed.pending job frame (by rw [hPc]; rfl))

-- ---------------------------------------------------------------------------
-- Requests for a retained identity
-- ---------------------------------------------------------------------------

/-- Tables, queues of frames and jobs, and history are as before. -/
structure Client.SamePlane (c c' : Client) : Prop where
  tables : c'.tables = c.tables
  history : c'.history = c.history
  work : c'.queues.work = c.queues.work
  dispatch : c'.queues.dispatch = c.queues.dispatch

theorem Client.SamePlane.of_core {c c' : Client} (h : c'.core = c.core)
    (hWork : c'.queues.work = c.queues.work) : c.SamePlane c' :=
  ⟨congrArg Core.tables h, congrArg Core.history h, hWork, congrArg Core.dispatch h⟩

theorem Client.Refused.samePlane {c c' : Client} (h : c.Refused c') : c.SamePlane c' :=
  .of_core h.core h.work.1

/-- `EnqueueDispatch` on an identity with a retained terminal. -/
theorem enqueueDispatch_retained {c c' : Client} {now : Int} {job : DispatchJob}
    {todo : FollowUp} {entry : ReplayEntry}
    (h : enqueueDispatch env c now job = (todo, c')) (hName : job.workId ≠ [])
    (hEntry : c.tables.replay.lookup job.workId = some entry) :
    c.SamePlane c' ∧
    ((entry.kind = job.kind ∧ entry.fingerprint = job.fingerprint ∧
        ∃ reason, todo = .queueReplay entry.terminal reason) ∨
      (¬(entry.kind = job.kind ∧ entry.fingerprint = job.fingerprint) ∧
        ∃ sequence message, todo = .protocolError sequence message)) := by
  have hPlane : c.SamePlane c.countRejected := .of_core rfl rfl
  by_cases hExact : entry.kind = job.kind ∧ entry.fingerprint = job.fingerprint
  · have hVerdict : dispatchVerdict env c job = .replay entry := by
      simp [dispatchVerdict, hName, hEntry, hExact]
    simp only [enqueueDispatch, hVerdict, Prod.mk.injEq] at h
    obtain ⟨rfl, rfl⟩ := h
    exact ⟨hPlane, .inl ⟨hExact.1, hExact.2, _, rfl⟩⟩
  · have hVerdict : dispatchVerdict env c job = .violation := by
      simp [dispatchVerdict, hName, hEntry, hExact]
    simp only [enqueueDispatch, hVerdict, Prod.mk.injEq] at h
    obtain ⟨rfl, rfl⟩ := h
    exact ⟨hPlane, .inr ⟨hExact, _, _, rfl⟩⟩

/-- `EnqueueSourceOpen` on an identity with a retained Work terminal and no
source tombstone. -/
theorem enqueueSourceOpen_retained {c c' : Client} {now : Int} {job : DispatchJob}
    {todo : FollowUp} {entry : ReplayEntry}
    (h : enqueueSourceOpen env c now job = (todo, c')) (hName : job.workId ≠ [])
    (hEntry : c.tables.replay.lookup job.workId = some entry)
    (hClosed : c.tables.closedSources.lookup job.workId = none) :
    c.SamePlane c' ∧ ∃ sequence message, todo = .protocolError sequence message := by
  have hVerdict : sourceOpenVerdict env c now job = .violation := by
    simp [sourceOpenVerdict, hName, hEntry, hClosed]
  simp only [enqueueSourceOpen, hVerdict, Prod.mk.injEq] at h
  obtain ⟨rfl, rfl⟩ := h
  exact ⟨.of_core rfl rfl, _, _, rfl⟩

/-- The section of the reader that handles a frame. -/
theorem step_handling {fence : SessionFence} {response : WorkResponse} {now : Int}
    {todo : FollowUp} {c' : Client} (hPc : s.workReader = .handling fence response)
    (h : handleWorkResponse env s.client now response = (.inl todo, c')) :
    s.step env (.workReader (.tick now)) =
      some { s with workReader := .followUp fence todo, client := c' } := by
  simp [System.step, System.workReaderAction, hPc, workReaderStep, h]

/-- A request of the Host is handled by `EnqueueDispatch`. -/
theorem handleWorkResponse_request {response : WorkResponse} {now : Int} {job : DispatchJob}
    {c : Client} (h : requestJob? env now response = some job) :
    handleWorkResponse env c now response =
      (.inl (enqueueDispatch env c now job).1, (enqueueDispatch env c now job).2) := by
  unfold requestJob? at h
  split at h
  · rename_i request hFrame
    cases h
    simp [handleWorkResponse, hFrame]
  · rename_i request hFrame
    cases h
    simp [handleWorkResponse, hFrame]
  · cases h

/-- The answer in the hands of the reader is queued, or the pair fails. -/
theorem followUpStep_answer {c : Client} {fence : SessionFence} {todo : FollowUp}
    {frame : WorkFrame} (h : (WorkReaderPc.followUp fence todo).answer? = some frame) :
    (c.workAdmits env frame = true ∧
      followUpStep env c fence todo = (.reading fence, c.queued env none frame)) ∨
    (c.workAdmits env frame = false ∧ ∃ reason c', c.Refused c' ∧
      followUpStep env c fence todo = (.followUp fence (.signalFailure reason), c')) := by
  cases hAdmits : c.workAdmits env frame with
  | true =>
    refine .inl ⟨rfl, ?_⟩
    have hQueue := @Client.queueWorkLocked_of_admits env c none frame hAdmits
    cases todo with
    | protocolError sequence message =>
      cases h
      simp [followUpStep, hQueue]
    | queueReplay terminal reason =>
      cases h
      simp [followUpStep, hQueue]
    | done | signalFailure | commitImmediate | notifySourceClosed => cases h
  | false =>
    obtain ⟨c', hQueue, hRefused⟩ := Client.queueWorkLocked_of_refuses none hAdmits
    cases todo with
    | protocolError sequence message =>
      cases h
      refine .inr ⟨rfl, text "bounded outbound Work queue overflowed", c', hRefused, ?_⟩
      simp [followUpStep, hQueue]
    | queueReplay terminal reason =>
      cases h
      exact .inr ⟨rfl, reason, c', hRefused, by simp [followUpStep, hQueue]⟩
    | done | signalFailure | commitImmediate | notifySourceClosed => cases h

/-- A follow-up is taken by a step without input. -/
theorem step_followUp {fence : SessionFence} {todo : FollowUp}
    {input : ReaderInput WorkResponse} (hPc : s.workReader = .followUp fence todo)
    (hStep : s.step env (.workReader input) = some s') :
    s'.client = (followUpStep env s.client fence todo).2 ∧
    s'.workReader = (followUpStep env s.client fence todo).1 := by
  have hTakes := workReaderStep_of_step hStep
  rw [hPc] at hTakes
  generalize s'.workReader = pc', s'.client = c' at hTakes ⊢
  cases workReaderStep_branch hTakes with
  | followUp hFollow =>
    rw [hFollow]
    exact ⟨rfl, rfl⟩

/-- The section in which the reader answers. -/
theorem step_answer {frame : WorkFrame} {input : ReaderInput WorkResponse}
    (hAnswer : s.workReader.answer? = some frame)
    (hStep : s.step env (.workReader input) = some s') :
    (s.client.workAdmits env frame = true ∧ s'.client = s.client.queued env none frame) ∨
    (s.client.workAdmits env frame = false ∧ s.client.SamePlane s'.client ∧
      s'.workReader.failing = true) := by
  have hPc : ∃ fence todo, s.workReader = .followUp fence todo := by
    unfold WorkReaderPc.answer? at hAnswer
    split at hAnswer
    · exact ⟨_, _, by assumption⟩
    · exact ⟨_, _, by assumption⟩
    · cases hAnswer
  obtain ⟨fence, todo, hPc⟩ := hPc
  obtain ⟨hClient, hReader⟩ := step_followUp hPc hStep
  rw [hPc] at hAnswer
  obtain ⟨hAdmits, hEq⟩ | ⟨hAdmits, reason, c', hRefused, hEq⟩ :=
    @followUpStep_answer env s.client fence todo frame hAnswer
  · exact .inl ⟨hAdmits, by rw [hClient, hEq]⟩
  · rw [hEq] at hClient hReader
    exact .inr ⟨hAdmits, by rw [hClient]; exact hRefused.samePlane, by rw [hReader]; rfl⟩

/-- The sections in which the reader fails the pair. -/
theorem step_failing {input : ReaderInput WorkResponse} (h : (machine env).Reachable s)
    (hFailing : s.workReader.failing = true)
    (hStep : s.step env (.workReader input) = some s') :
    s.client.SamePlane s'.client ∧
    (s'.workReader.failing = true ∨ s'.client.flags.sessionFailed = true ∨
      s'.client.flags.stopRequested = true) := by
  have hShape := shape_of_reachable h
  unfold WorkReaderPc.failing at hFailing
  split at hFailing
  · rename_i fence reason hPc
    obtain ⟨hClient, hReader⟩ := step_followUp hPc hStep
    have hSession := (current_of_reading hShape (by rw [hPc]; rfl)).2
    simp only [followUpStep, hSession, if_false] at hClient hReader
    exact ⟨by rw [hClient]; exact .of_core rfl rfl, .inl (by rw [hReader]; rfl)⟩
  · rename_i fence session reason hPc
    have hOwn := failsOwnSession_of_reachable h fence session reason hPc
    have hCurrent := (current_of_reading hShape (by rw [hPc]; rfl)).1
    have hTakes := workReaderStep_of_step hStep
    rw [hPc] at hTakes
    generalize s'.workReader = pc', s'.client = c' at hTakes ⊢
    cases workReaderStep_branch hTakes with
    | signalSession =>
      refine ⟨.of_core (by simp) ?_, .inr ?_⟩
      · simp only [Client.signalSessionFailure]
        split <;> rfl
      · simp only [Client.signalSessionFailure]
        split
        · rename_i hSkip
          rcases hSkip with hOther | hStopped | hFailed
          · exact absurd (hCurrent.trans hOwn.symm) hOther
          · exact .inr hStopped
          · exact .inl hFailed
        · exact .inl rfl
  · cases hFailing

/-- A retained terminal stays exactly as it is over every run without its exact
acknowledgement and without the end of the session. A request that repeats its
kind and digest is answered by exactly this terminal, any other by a protocol
error; neither touches the tables, the queue of jobs or the history of handler
invocations before the answer is enqueued, and an answer that is refused ends
in a failed pair. -/
theorem replay_retained_exact {workId : Text} {entry : ReplayEntry}
    (h : (machine env).Reachable s)
    (hEntry : s.client.tables.replay.lookup workId = some entry) :
    (∀ s', (machine env).Path
        (fun s a => ¬EndsSession s a ∧ ¬ExactlyAcknowledges s a workId entry) s s' →
      s'.client.tables.replay.lookup workId = some entry) ∧
    (∀ fence response now job, s.workReader = .handling fence response →
      requestJob? env now response = some job → job.workId = workId →
      ∃ s', s.step env (.workReader (.tick now)) = some s' ∧ s.client.SamePlane s'.client ∧
        if entry.kind = job.kind ∧ entry.fingerprint = job.fingerprint then
          s'.workReader.answer? = some entry.terminal
        else s'.workReader.reporting = true) ∧
    (∀ fence response now request, s.workReader = .handling fence response →
      response.frame = .sourceOpenRequest request → request.context.workId = workId →
      s.client.tables.closedSources.lookup workId = none →
      ∃ s', s.step env (.workReader (.tick now)) = some s' ∧ s.client.SamePlane s'.client ∧
        s'.workReader.reporting = true) ∧
    (∀ frame, s.workReader.answer? = some frame →
      (∀ now, ∃ s', s.step env (.workReader (.tick now)) = some s') ∧
      (∀ input s', s.step env (.workReader input) = some s' →
        (s.client.workAdmits env frame = true ∧ s'.client = s.client.queued env none frame) ∨
        (s.client.workAdmits env frame = false ∧ s.client.SamePlane s'.client ∧
          s'.workReader.failing = true)) ∧
      ∀ a s', s.step env a = some s' → (∀ input, a ≠ .workReader input) →
        s'.workReader = s.workReader) ∧
    (s.workReader.failing = true →
      (∀ now, ∃ s', s.step env (.workReader (.tick now)) = some s') ∧
      (∀ input s', s.step env (.workReader input) = some s' →
        s.client.SamePlane s'.client ∧ (s'.workReader.failing = true ∨
          s'.client.flags.sessionFailed = true ∨ s'.client.flags.stopRequested = true)) ∧
      ∀ a s', s.step env a = some s' → (∀ input, a ≠ .workReader input) →
        s'.workReader = s.workReader) := by
  have hShape := shape_of_reachable h
  -- the identity of a retained result has a name
  have hName : workId ≠ [] := by
    rintro rfl
    rw [(named_of_reachable h).retained] at hEntry
    cases hEntry
  refine ⟨?_, ?_, ?_, ?_, ?_⟩
  · -- on the way the entry stays, step by step
    intro s' hPath
    refine hPath.preserves (I := fun s => s.client.tables.replay.lookup workId = some entry)
      ?_ h hEntry
    intro s a s' hReach hKept hCond hStep
    exact replay_of_step (shape_of_reachable hReach) hStep hKept hCond.1 hCond.2
  · intro fence response now job hPc hRequest hKey
    -- a redelivery is answered or reported, and changes nothing
    subst hKey
    refine ⟨_, step_handling hPc (handleWorkResponse_request hRequest), ?_⟩
    obtain ⟨hPlane, hTodo⟩ := enqueueDispatch_retained
      (Prod.mk.eta (p := enqueueDispatch env s.client now job)).symm hName hEntry
    refine ⟨hPlane, ?_⟩
    -- the same request again, or another request under the same identity
    obtain ⟨hKind, hDigest, reason, hEq⟩ | ⟨hOther, sequence, message, hEq⟩ := hTodo
    · simp [hKind, hDigest, hEq, WorkReaderPc.answer?]
    · simp [hOther, hEq, WorkReaderPc.reporting]
  · intro fence response now request hPc hFrame hKey hClosed
    -- a source open under a retained identity is reported
    subst hKey
    have hEta := Prod.mk.eta (p := enqueueSourceOpen env s.client now
      (sourceOpenJob env now request response.header.frameSequence))
    obtain ⟨hPlane, sequence, message, hEq⟩ :=
      enqueueSourceOpen_retained hEta.symm hName hEntry hClosed
    refine ⟨_, step_handling hPc (by simp only [handleWorkResponse, hFrame]; rfl), hPlane, ?_⟩
    simp [hEq, WorkReaderPc.reporting]
  · intro frame hAnswer
    refine ⟨?_, ?_, ?_⟩
    · -- the answering section is there in every state
      intro now
      unfold WorkReaderPc.answer? at hAnswer
      split at hAnswer
      · rename_i hPc
        exact ⟨_, by simp only [System.step, System.workReaderAction, hPc]; rfl⟩
      · rename_i hPc
        exact ⟨_, by simp only [System.step, System.workReaderAction, hPc]; rfl⟩
      · cases hAnswer
    · exact fun input s' hStep => step_answer hAnswer hStep
    · intro a s' hStep hOther
      -- no other thread moves the Work reader
      refine workReader_of_step hShape hStep ?_ hOther
      intro hNone
      cases hPc : s.workReader <;> simp_all [WorkReaderPc.fence?, WorkReaderPc.answer?]
  · intro hFailing
    -- the reader fails the session in its next sections
    refine ⟨?_, ?_, ?_⟩
    · intro now
      unfold WorkReaderPc.failing at hFailing
      split at hFailing
      · rename_i hPc
        exact ⟨_, by simp only [System.step, System.workReaderAction, hPc]; rfl⟩
      · rename_i hPc
        exact ⟨_, by simp only [System.step, System.workReaderAction, hPc]; rfl⟩
      · cases hFailing
    · exact fun input s' hStep => step_failing h hFailing hStep
    · intro a s' hStep hOther
      refine workReader_of_step hShape hStep ?_ hOther
      intro hNone
      cases hPc : s.workReader <;> simp_all [WorkReaderPc.fence?, WorkReaderPc.failing]

open Deployment in
/-- The terminal of a query is retained and stays so. -/
theorem replay_retained_exact_query :
    ∃ s entry, (machine deployment).Reachable s ∧
      s.client.tables.replay.lookup (text "w") = some entry ∧
      ∀ s', (machine deployment).Path
          (fun s a => ¬EndsSession s a ∧ ¬ExactlyAcknowledges s a (text "w") entry) s s' →
        s'.client.tables.replay.lookup (text "w") = some entry := by
  obtain ⟨s, hReach, hRun⟩ := (machine deployment).exists_reaches_of_runWith (fun _ _ => True)
    (bringUp ++ hostFrame 1 1 (unaryFrame "w") ++ runQuery 0 ++ worker 0 1)
    (fun s => (s.client.tables.replay.lookup (text "w")).isSome) (by decide +kernel)
  obtain ⟨entry, hEntry⟩ := Option.isSome_iff_exists.mp hRun
  exact ⟨s, entry, hReach, hEntry, (replay_retained_exact hReach hEntry).1⟩

end AdapterRuntime.Model
