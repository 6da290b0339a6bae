import AdapterRuntime.Proof.Shape

/-!
# AdapterRuntime — how steps move the terminal ledger

The terminal ledger is `work_tokens_`, `replay_` and `terminal_replay_bytes_`.
`ledgerMove_of_step` says which of them a step of the system can change and
how: an admission, a commit, a release, an exact acknowledgement or the end of
the session. Every other step leaves all three alone.
-/

namespace AdapterRuntime.Model

open AdapterRuntime.Lib

/-- The part of the tables the terminal ledger accounts for. -/
structure LedgerPart where
  workTokens : Store Text WorkTokenState
  replay : Store Text ReplayEntry
  terminalReplayBytes : Nat

/-- The part of the tables that the replay budget is about. -/
def Tables.ledger (t : Tables) : LedgerPart where
  workTokens := t.workTokens
  replay := t.replay
  terminalReplayBytes := t.terminalReplayBytes

/-- The step ends the session: `ResetSessionLocked` by the supervisor, the last
section of `Stop`, or `Start`. -/
def EndsSession (s : System) : Action → Prop
  | .supervisor _ => s.supervisor = .endSession
  | .stopper => s.stopper = .reset
  | .startThreads => True
  | _ => False

/-- What a step can do to the terminal ledger. -/
inductive LedgerMove (env : Env) (s : System) (a : Action) (s' : System) : Prop
  | same (hLedger : s'.client.tables.ledger = s.client.tables.ledger)
  | accept {job : DispatchJob} {reservation : Nat} (hJob : IsRequestJob job)
      (hVerdict : dispatchVerdict env s.client job = .accept reservation)
      (hClient : s'.client = s.client.admitDispatch job reservation)
      (hWork : s.supervisor.phase.work = true)
  | retain {job : DispatchJob} {frame : WorkFrame} {entry : ReplayEntry}
      (hEntry : replayEntryOf env job frame (s.client.workFrameBytes env frame) = some entry)
      (hAdmits : s.client.ledgerAdmits env job entry = true)
      (hLedger : s'.client.tables.ledger = (s.client.retainTerminal job entry).ledger)
  | release {workId : Text}
      (hLedger : s'.client.tables.ledger = (s.client.tables.releaseWorkToken workId).ledger)
  | releaseAll (hLedger : s'.client.tables.ledger = s.client.tables.releaseAllWorkTokens.ledger)
  | acknowledge {fence : SessionFence} {response : WorkResponse}
      {acknowledgement : TerminalAcknowledgement} {workId : Text} {entry : ReplayEntry}
      {now : Int} (hAction : a = .workReader (.tick now))
      (hReader : s.workReader = .handling fence response)
      (hFrame : response.frame = .terminalAcknowledgement acknowledgement)
      (hIdentity : acknowledgement.identity = .workId workId)
      (hEntry : s.client.tables.replay.lookup workId = some entry)
      (hDigest : entry.terminalDigest = acknowledgement.terminalDigest)
      (hLedger : s'.client.tables.ledger =
        { workTokens := s.client.tables.workTokens
          replay := s.client.tables.replay.erase workId
          terminalReplayBytes := s.client.tables.terminalReplayBytes - entry.accountedBytes })
  | reset (hEnd : EndsSession s a) (hLedger : s'.client.tables.ledger = ⟨∅, ∅, 0⟩)

variable {env : Env} {s s' : System} {c c' : Client}

theorem ledger_of_core (h : c'.core = c.core) : c'.tables.ledger = c.tables.ledger :=
  congrArg (fun k : Core => k.tables.ledger) h

theorem ledger_of_deactivated (h : c'.core = c.core ∨ c'.core = c.core.deactivated) :
    c'.tables.ledger = c.tables.ledger := by
  rcases h with h | h
  · exact ledger_of_core h
  · exact congrArg (fun k : Core => k.tables.ledger) h

/-- A step of a worker and the terminal ledger. -/
theorem WorkerMove.ledger {pc pc' : WorkerPc} (h : WorkerMove env c pc pc' c') :
    c'.tables.ledger = c.tables.ledger ∨
    (∃ job now frame entry, pc.job? = some job ∧ pc.dueTerminal now = some frame ∧
      replayEntryOf env job frame (c.workFrameBytes env frame) = some entry ∧
      c.ledgerAdmits env job entry = true ∧
      c'.tables.ledger = (c.retainTerminal job entry).ledger) ∨
    (∃ job committed, (pc = .eraseToken job committed ∨ pc = .finish job committed) ∧
      c'.tables.ledger = (c.tables.releaseWorkToken job.workId).ledger) := by
  cases h with
  | exit | pop | accept | leave => exact .inl rfl
  | quiet hJob hJob' hCore hRest hStage => exact .inl (ledger_of_core hCore)
  | startOperation now | startUnary hKind | startSource =>
    refine .inl ?_
    unfold Client.recordStarted
    split <;> rfl
  | returnUnary _ hKind | returnOperation _ hKind | returnSource =>
    refine .inl ?_
    unfold Client.recordReturned
    split <;> rfl
  | commit now hJob hDue hNext hAdmits hEntry hLedger =>
    exact .inr (.inl ⟨_, now, _, _, hJob, hDue, hEntry, hLedger, rfl⟩)
  | refuse now hJob hDue hCommit hResult hNext =>
    obtain ⟨hCommitted, -⟩ | ⟨-, hRefused⟩ := Client.commitTerminalFrame_cases hCommit
    · exact absurd hCommitted hResult
    · exact .inl (ledger_of_core hRefused.core)
  | erase hCore hRest => exact .inr (.inr ⟨_, _, .inl rfl, ledger_of_core hCore⟩)
  | finish hCore hRest => exact .inr (.inr ⟨_, _, .inr rfl, ledger_of_core hCore⟩)
  | commitSource hCommit hJob' hStage' =>
    obtain ⟨-, rfl, -⟩ | ⟨source, -, -, -, -, hCases⟩ := commitSourceOpen_cases hCommit
    · exact .inl rfl
    · obtain ⟨-, hRefused⟩ | ⟨-, -, rfl⟩ | ⟨-, -, digest, rfl⟩ := hCases
      · exact .inl (ledger_of_core hRefused.core)
      · exact .inl rfl
      · exact .inl rfl
  | leaveSource hCore hRest => exact .inl (ledger_of_core hCore)

theorem ledger_publishSource {streamId : Text} {items : List Text} :
    (publishSource env c streamId items).2.tables.ledger = c.tables.ledger := by
  obtain ⟨-, source, -, hEq⟩ | ⟨-, hRefused⟩ :=
    publishSource_cases (Prod.mk.eta (p := publishSource env c streamId items)).symm
  · rw [hEq]
    rfl
  · exact ledger_of_core hRefused.core

theorem ledger_closeSource {streamId : Text} {error : Option AdapterError} :
    (closeSource env c streamId error).2.tables.ledger = c.tables.ledger := by
  obtain ⟨-, source, digest, -, -, -, hEq⟩ | ⟨-, hRefused⟩ :=
    closeSource_cases (Prod.mk.eta (p := closeSource env c streamId error)).symm
  · rw [hEq]
    rfl
  · exact ledger_of_core hRefused.core

/-- What the Work reader does to the ledger. -/
theorem ledgerMove_workReader (hShape : Shape s) {input : ReaderInput WorkResponse}
    {pc' : WorkReaderPc} (hClient : s'.client = c')
    (hStep : workReaderStep env s.client s.workReader input = some (pc', c')) :
    LedgerMove env s (.workReader input) s' := by
  obtain ⟨fence, hFence, -⟩ := workReaderStep_fence hStep
  have hWork : s.supervisor.phase.work = true := by
    by_contra hNot
    rw [hShape.threads.workReader (by simpa using hNot)] at hFence
    cases hFence
  have hTick : ∀ fence response, s.workReader = .handling fence response →
      ∃ now, input = .tick now := by
    intro fence response hPc
    rw [hPc] at hStep
    cases workReaderStep_branch hStep <;> exact ⟨_, rfl⟩
  have hMove := workReaderStep_cases hStep
  generalize hPc : s.workReader = pc at hMove
  cases hMove with
  | quiet hCore hRest hPending => exact .same (by rw [hClient, ledger_of_core hCore])
  | answer hCore hRest hRetained => exact .same (by rw [hClient, ledger_of_core hCore])
  | immediate hJob hVerdict hCore hRest => exact .same (by rw [hClient, ledger_of_core hCore])
  | retireSource hCore hRest =>
    exact .same (by rw [hClient]; exact congrArg (fun k : Core => k.tables.ledger) hCore)
  | cancelRefused hFrame hIdentity hActive hEpoch hPhase hRefused =>
    exact .same (by rw [hClient]; exact (ledger_of_core hRefused.core).trans rfl)
  | commit hEntry hLedger => exact .retain hEntry hLedger (by rw [hClient]; rfl)
  | accept hJob hVerdict => exact .accept hJob hVerdict hClient hWork
  | acknowledge hFrame hIdentity hToken hSource hClosed hEntry hDigest =>
    obtain ⟨now, rfl⟩ := hTick _ _ hPc
    exact .acknowledge rfl hPc hFrame hIdentity hEntry hDigest (by rw [hClient]; rfl)
  | report | replay | admitSource | rejectSource | grant | lateGrant | acknowledgeSource
  | cancelOpening | cancelOpened => exact .same (by rw [hClient]; rfl)

/-- What the supervisor does to the ledger. -/
theorem ledgerMove_supervisor {input : SupervisorInput} {pc' : SupervisorPc}
    (hClient : s'.client = c')
    (hStep : supervisorStep env s.client s.controlReaderDone s.workReaderDone s.supervisor
      input = some (pc', c')) : LedgerMove env s (.supervisor input) s' := by
  have hMove := supervisorStep_cases hStep
  generalize hPc : s.supervisor = pc at hMove
  cases hMove with
  | quiet hCore hRest hPhase hPhase' hSup hFence =>
    exact .same (by rw [hClient, ledger_of_core hCore])
  | prepare | release | clear => exact .releaseAll (by rw [hClient]; rfl)
  | advance => exact .same (by rw [hClient]; exact ledger_of_core (Client.core_advanceEpoch _))
  | endSession =>
    refine .reset hPc ?_
    rw [hClient]
    simp [Client.endSupervision, Client.resetSession, Client.releaseAllWorkTokens, Tables.ledger]
  | install | replaceBegin | deactivate => exact .same (by rw [hClient]; rfl)
  | attach | ended | joinControl | joinWork | replaceWait => exact .same (by rw [hClient])

/-- Everything a step can do to the terminal ledger. -/
theorem ledgerMove_of_step {a : Action} (hShape : Shape s) (hStep : s.step env a = some s') :
    LedgerMove env s a s' := by
  cases System.step_cases hStep with
  | worker hWorker =>
    obtain hSame | ⟨job, now, frame, entry, -, -, hEntry, hAdmits, hLedger⟩ |
      ⟨job, committed, -, hLedger⟩ := (workerStep_cases hWorker).ledger
    · exact .same hSame
    · exact .retain hEntry hAdmits hLedger
    · exact .release hLedger
  | workReader hReader hSpawn hOpening hJoin => exact ledgerMove_workReader hShape rfl hReader
  | controlReader hReader hSpawn hOpening hJoin =>
    exact .same (ledger_of_deactivated ((core_controlReaderStep hReader).imp_right And.right))
  | workWriter hWriter => exact .same (ledger_of_core (core_workWriterStep hWriter))
  | controlWriter hWriter => exact .same (ledger_of_core (core_controlWriterStep hWriter))
  | supervisor hSupervisor => exact ledgerMove_supervisor rfl hSupervisor
  | publishSource => exact .same ledger_publishSource
  | closeSource => exact .same ledger_closeSource
  | flags hCore hRest hStopper hAlone => exact .same (ledger_of_core hCore)
  | startThreads hStopped hStopper hStarter =>
    have hPc : s.supervisor = .notStarted := by
      simp only [System.fullyStopped, Bool.and_eq_true] at hStopped
      cases hS : s.supervisor <;> simp_all
    refine .reset trivial ?_
    have hTokens := hShape.occupancy.tokens (by rw [hPc]; rfl)
    simp [Client.beginStart, Tables.ledger, hTokens]
  | joinSupervisor hDone hStopper => exact .same rfl
  | joinWorkers hStopper hDone => exact .same rfl
  | stopDeactivate hStopper hDeactivate hNext =>
    have hLedger := ledger_of_deactivated (core_deactivateStep hDeactivate)
    obtain ⟨pc, -, rfl, rfl⟩ | ⟨-, rfl, rfl⟩ := hNext
    · exact .same hLedger
    · exact .same hLedger
  | stopReset hStopper =>
    refine .reset hStopper ?_
    simp [Client.endStop, Client.endSupervision, Client.resetSession, Client.releaseAllWorkTokens,
      Tables.ledger]

end AdapterRuntime.Model
