import AdapterRuntime.Lib.Custody
import AdapterRuntime.Proof.Cancellation
import AdapterRuntime.Proof.Duties

/-!
# AdapterRuntime — the notifications of closed sources

A thread that takes a source out of `source_streams_` under the lock keeps it
in a local and calls `source_closed` for it later, unlocked. `System.notices`
are the sources each thread still has to report; together with the table and
the log of the calls made they are an instance of `Lib.Custody`.

* `custodyMove_of_step` — every step is a move of that custody.
* `noticeTurn_of_step` — what a step does to the sources that leave the table.
-/

namespace AdapterRuntime.Model

open AdapterRuntime.Lib

-- ---------------------------------------------------------------------------
-- Who still has to report what
-- ---------------------------------------------------------------------------

/-- The source a `source_closed` call reported. -/
def LifecycleEvent.closed? : LifecycleEvent → Option CancellationId
  | .sourceClosedCalled source _ => some source
  | _ => none

/-- The sources that were reported closed, newest first. -/
def Client.closings (c : Client) : List CancellationId := c.trace.filterMap LifecycleEvent.closed?

/-- The notifications a deactivation has still to make. -/
def DeactivatePc.notices : DeactivatePc → List SourceState
  | .locked => []
  | .waiting plan | .stopping _ plan | .clearing plan => plan.streams
  | .notifying remaining => remaining

/-- The notifications a transaction has still to make. -/
def ApplyPc.notices : ApplyPc → List SourceState
  | .deactivating _ at_ | .readyDeactivating _ _ at_ => at_.notices
  | _ => []

/-- The notifications the Control reader has still to make. -/
def ControlReaderPc.notices : ControlReaderPc → List SourceState
  | .applying _ at_ => at_.notices
  | _ => []

/-- The notifications the supervisor has still to make. -/
def SupervisorPc.notices : SupervisorPc → List SourceState
  | .replaceWait _ sources | .replaceRelease _ sources | .replaceError _ sources
  | .replaceNotify _ sources _ => sources
  | .deactivating _ at_ _ => at_.notices
  | _ => []

/-- The notifications `Stop` has still to make. -/
def StopPc.notices : StopPc → List SourceState
  | .deactivating at_ => at_.notices
  | _ => []

/-- The notification a follow-up makes. -/
def FollowUp.notices : FollowUp → List SourceState
  | .notifySourceClosed source _ => [source]
  | _ => []

/-- The notification the Work reader has still to make. -/
def WorkReaderPc.notices : WorkReaderPc → List SourceState
  | .followUp _ todo => todo.notices
  | _ => []

/-- The notification a worker has still to make. -/
def WorkerPc.notices : WorkerPc → List SourceState
  | .sourceNotify _ source _ => [source]
  | _ => []

/-- The notification the commit of an open leaves its worker with. -/
def SourceCommit.notices : SourceCommit → List SourceState
  | .notifySourceClosed source _ => [source]
  | .settled | .failPair => []

/-- The threads that report closed sources. -/
inductive Notifier
  | worker (i : Nat)
  | workReader
  | controlReader
  | supervisor
  | stopper
  deriving DecidableEq

/-- The sources a thread has taken out of the table and not yet reported. -/
def System.notices (s : System) : Notifier → List SourceState
  | .worker i => (s.workers i).notices
  | .workReader => s.workReader.notices
  | .controlReader => s.controlReader.notices
  | .supervisor => s.supervisor.notices
  | .stopper => s.stopper.notices

/-- `NotifySourceClosed` finds the callback of the source's capability bound. -/
def Env.reports (env : Env) (source : SourceState) : Bool :=
  env.hasCallback CapabilityCallbacks.sourceClosed source.bindingIndex

/-- The sources as a custody: those in the table, those a thread has still to report, and
those reported. -/
def System.custody (s : System) : Custody SourceState CancellationId Notifier where
  seen id := id < s.client.nextCancellation
  live id := s.client.Lists id
  held := s.notices
  log := s.client.closings

-- ---------------------------------------------------------------------------
-- What a step of a thread does to them
-- ---------------------------------------------------------------------------

/-- Every source of the table is still there. -/
def Client.KeepsSources (c c' : Client) : Prop :=
  ∀ streamId source, c.tables.sourceStreams.lookup streamId = some source →
    ∃ source', c'.tables.sourceStreams.lookup streamId = some source' ∧
      source'.cancellation = source.cancellation

/-- The sources were taken out of the table, all of them or one. -/
inductive Client.Takes (c c' : Client) : List SourceState → Prop
  | all (hSources : c'.tables.sourceStreams = ∅) : Takes c c' (inKeyOrder c.tables.sourceStreams)
  | one {streamId : Text} {source : SourceState}
      (hActive : c.tables.sourceStreams.lookup streamId = some source)
      (hSources : c'.tables.sourceStreams = c.tables.sourceStreams.erase streamId) :
      Takes c c' [source]

/-- A step of a thread that has the sources `pending` to report before it and `pending'`
after it; `declined` says that it closes a source for the application. -/
inductive NoticeTurn (env : Env) (declined : Prop) (c c' : Client)
    (pending pending' : List SourceState) : Prop
  | keep (hPending : pending' = pending) (hLog : c'.closings = c.closings)
      (hSources : declined ∨ c.KeepsSources c')
  | take (hFree : pending = []) (hLog : c'.closings = c.closings) (hPlain : ¬declined)
      (hTaken : c.Takes c' pending')
  | settle {source : SourceState} (hBefore : pending = source :: pending')
      (hLog : c'.closings =
        Custody.entry SourceState.cancellation env.reports source ++ c.closings)
      (hSources : c'.tables.sourceStreams = c.tables.sourceStreams)

variable {env : Env} {c c' : Client} {s s' : System} {a : Action}

theorem Client.KeepsSources.of_eq (h : c'.tables.sourceStreams = c.tables.sourceStreams) :
    c.KeepsSources c' :=
  fun _ source hLook => ⟨source, by rwa [h], rfl⟩

theorem Client.KeepsSources.of_core (h : c'.core = c.core) : c.KeepsSources c' :=
  .of_eq (congrArg (fun k : Core => k.tables.sourceStreams) h)

/-- An entry that is replaced keeps its identity. -/
theorem Client.KeepsSources.of_insert {key : Text} {old new : SourceState}
    (hOld : c.tables.sourceStreams.lookup key = some old)
    (h : c'.tables.sourceStreams = c.tables.sourceStreams.insert key new)
    (hNew : new.cancellation = old.cancellation) : c.KeepsSources c' := by
  intro streamId source hLook
  by_cases hKey : streamId = key
  · subst hKey
    rw [hLook, Option.some.injEq] at hOld
    subst hOld
    exact ⟨new, by simp [h], hNew⟩
  · exact ⟨source, by simp [h, hKey, hLook], rfl⟩

theorem closings_of_trace (h : c'.trace = c.trace) : c'.closings = c.closings := by
  unfold Client.closings
  rw [h]

theorem closings_of_surround (h : c'.surround = c.surround) : c'.closings = c.closings :=
  closings_of_trace (congrArg Surround.trace h)

@[simp] theorem closings_log (event : LifecycleEvent) :
    (c.log event).closings = event.closed?.toList ++ c.closings := by
  unfold Client.closings Client.log
  cases h : event.closed? <;> simp [h]

@[simp] theorem closings_callStop (binding : Nat) :
    (c.callStop env binding).closings = c.closings := by
  unfold Client.callStop
  split <;> simp [LifecycleEvent.closed?]

@[simp] theorem closings_callClear : (c.callClear env).closings = c.closings := by
  unfold Client.callClear
  split <;> simp [LifecycleEvent.closed?]

/-- Reporting a source calls the callback if there is one. -/
theorem closings_notifySourceClosed (source : SourceState) (error : AdapterError) :
    (c.notifySourceClosed env source error).closings =
      Custody.entry SourceState.cancellation env.reports source ++ c.closings := by
  unfold Client.notifySourceClosed Custody.entry Env.reports
  split <;> simp [LifecycleEvent.closed?]

theorem sources_notifySourceClosed (source : SourceState) (error : AdapterError) :
    (c.notifySourceClosed env source error).tables.sourceStreams = c.tables.sourceStreams := by
  unfold Client.notifySourceClosed
  split <;> rfl

@[simp] theorem closings_signalSessionFailure (session reason : Text) :
    (c.signalSessionFailure session reason).closings = c.closings := by
  unfold Client.signalSessionFailure
  split <;> rfl

@[simp] theorem closings_signalTerminalSessionFailure (session reason : Text) :
    (c.signalTerminalSessionFailure session reason).closings = c.closings := by
  unfold Client.signalTerminalSessionFailure
  split <;> rfl

theorem closings_queueControlLocked {frame : ControlFrame} {ok : Bool}
    (h : c.queueControlLocked env frame = (ok, c')) : c'.closings = c.closings := by
  unfold Client.queueControlLocked at h
  simp only at h
  split at h
  · cases h
    split <;> rfl
  · cases h
    rfl

@[simp] theorem closings_maybeQueueDrainStatus :
    (c.maybeQueueDrainStatus env).closings = c.closings := by
  unfold Client.maybeQueueDrainStatus
  split
  · rfl
  · split <;> rename_i hQueue
    · have hSame := closings_queueControlLocked hQueue
      exact hSame
    · have hSame := closings_queueControlLocked hQueue
      exact hSame

-- ---------------------------------------------------------------------------
-- Workers
-- ---------------------------------------------------------------------------

section Workers

variable {pc pc' : WorkerPc}

/-- A worker touches the table of sources when it commits the result of an open only. -/
theorem WorkerMove.sources (h : WorkerMove env c pc pc' c')
    (hPc : ∀ job decision, pc ≠ .sourceCommit job decision) :
    c'.tables.sourceStreams = c.tables.sourceStreams := by
  cases h with
  | exit | pop | leave | accept => rfl
  | quiet _ _ hCore | leaveSource hCore =>
    exact congrArg (fun k : Core => k.tables.sourceStreams) hCore
  | startOperation | startUnary | startSource =>
    unfold Client.recordStarted
    split <;> rfl
  | returnUnary | returnOperation | returnSource =>
    unfold Client.recordReturned
    split <;> rfl
  | commit => simp
  | refuse _ _ _ hCommit hResult =>
    obtain ⟨hCommitted, -⟩ | ⟨-, hRefused⟩ := Client.commitTerminalFrame_cases hCommit
    · exact absurd hCommitted hResult
    · exact congrArg (fun k : Core => k.tables.sourceStreams) hRefused.core
  | erase hCore | finish hCore =>
    exact (congrArg (fun k : Core => k.tables.sourceStreams) hCore).trans
      (c.tables.releaseWorkToken_sourceStreams _)
  | commitSource => exact absurd rfl (hPc _ _)

/-- The worker is to commit a rejection that the application made. -/
def WorkerPc.Declines (pc : WorkerPc) : Prop :=
  ∃ job decision, pc = .sourceCommit job decision ∧ decision.error.errorClass ≠ .cancelled

/-- The class of the error decides whether a rejected open is reported. -/
theorem commitSourceOpen_class {job : DispatchJob} {decision : SourceOpenDecision}
    {r : SourceCommit} (h : commitSourceOpen env c job decision = (r, c')) :
    (∀ source error, r = .notifySourceClosed source error →
      decision.error.errorClass = .cancelled) ∧
    (r = .settled → c' = c ∨ decision.accepted = true ∨
      decision.error.errorClass ≠ .cancelled) := by
  unfold commitSourceOpen at h
  split at h
  · cases h
    exact ⟨by simp, fun _ => .inl rfl⟩
  split at h
  · cases h
    exact ⟨by simp, fun _ => .inl rfl⟩
  split at h
  · cases h
    exact ⟨by simp, fun _ => .inl rfl⟩
  split at h
  · cases h
    simp
  simp only at h
  split at h
  · rename_i hAccepted
    refine ⟨?_, fun _ => .inr (.inl hAccepted)⟩
    split at h
    · cases h
      simp
    · split at h <;> cases h <;> simp
  · split at h
    · cases h
      simp
    · split at h <;> rename_i hClass <;> cases h
      · exact ⟨fun _ _ _ => hClass, by simp⟩
      · exact ⟨by simp, fun _ => .inr (.inr hClass)⟩

/-- The commit of an open takes the source out of the table when it is rejected. The worker
reports it if the error has the class of a cancellation. -/
theorem noticeTurn_commit {job : DispatchJob} {decision : SourceOpenDecision} {r : SourceCommit}
    (hCommit : commitSourceOpen env c job decision = (r, c')) :
    NoticeTurn env (WorkerPc.Declines (.sourceCommit job decision)) c c' [] r.notices := by
  have hLog : c'.closings = c.closings := closings_of_surround (surround_commitSourceOpen hCommit)
  obtain ⟨hNotified, hSettled⟩ := commitSourceOpen_class hCommit
  obtain ⟨rfl, rfl, -⟩ | ⟨source, hOwns, -, -, -, hCases⟩ := commitSourceOpen_cases hCommit
  · exact .keep rfl rfl (.inr (.of_eq rfl))
  obtain ⟨rfl, hRefused⟩ | ⟨-, rfl, hEq⟩ | ⟨hRejected, hResult, digest, hEq⟩ := hCases
  · exact .keep rfl hLog (.inr (.of_core hRefused.core))
  · have hOpened : c'.tables.sourceStreams =
        c.tables.sourceStreams.insert job.workId (source.openedWith job) := by
      rw [hEq]
      rfl
    exact .keep rfl hLog (.inr (.of_insert hOwns.active hOpened rfl))
  · have hErased : c'.tables.sourceStreams = c.tables.sourceStreams.erase job.workId := by
      rw [hEq]
      rfl
    obtain rfl | rfl := hResult
    · refine .keep rfl hLog (.inl ⟨job, decision, rfl, ?_⟩)
      obtain hSame | hAccepted | hClass := hSettled rfl
      · -- the entry was there and is erased, so the table has changed
        have hGone : c.tables.sourceStreams.lookup job.workId = none := by
          rw [← hSame, hErased]
          simp
        rw [hOwns.active] at hGone
        cases hGone
      · rw [hRejected] at hAccepted
        cases hAccepted
      · exact hClass
    · refine .take rfl hLog ?_ (.one hOwns.active hErased)
      rintro ⟨job', decision', hPc, hClass⟩
      cases hPc
      exact hClass (hNotified _ _ rfl)

/-- A step of a worker. Apart from the commit of an open and the report after it, a worker
reports nothing and has nothing to report. -/
theorem noticeTurn_workerStep {input : WorkerInput}
    (h : workerStep env c pc input = some (pc', c')) :
    NoticeTurn env pc.Declines c c' pc.notices pc'.notices := by
  have hSources := (workerStep_cases h).sources
  cases workerStep_branch h with
  | exit | pop | skipSource | enterSource | cancelled | uncancelled | invalid | valid
  | refuseInput | toOperation | normalizeUnary | normalizeOperation | leave
  | loseSource | findSource | cancelSource | normalizeSource =>
    exact .keep rfl rfl (.inr (.of_eq (hSources (by simp))))
  -- sections on queues and history report no closing
  | startUnary | startSource =>
    exact .keep rfl (closings_of_surround (Client.surround_recordStarted _))
      (.inr (.of_eq (hSources (by simp))))
  | returnUnary | returnOperation | returnSource =>
    exact .keep rfl (closings_of_surround (Client.surround_recordReturned _ _))
      (.inr (.of_eq (hSources (by simp))))
  | accepted hQueue | unaccepted hQueue | unstarted hQueue =>
    exact .keep rfl (closings_of_surround (surround_queueWorkLocked hQueue))
      (.inr (.of_eq (hSources (by simp))))
  | @started _ job _ c₁ hQueue =>
    have hLog : (c₁.recordStarted job).closings = c.closings := closings_of_surround
      ((Client.surround_recordStarted job).trans (surround_queueWorkLocked hQueue))
    exact .keep rfl hLog (.inr (.of_eq (hSources (by simp))))
  | commit hCommits hTerminal | uncommitted hCommits hTerminal =>
    have hLog := closings_of_surround (surround_commitTerminalFrame hTerminal)
    cases hCommits <;> exact .keep rfl hLog (.inr (.of_eq (hSources (by simp))))
  | tooLarge hTerminal =>
    exact .keep rfl (closings_of_surround (surround_commitTerminalFrame hTerminal))
      (.inr (.of_eq (hSources (by simp))))
  | @unheard _ _ _ after =>
    cases after <;> exact .keep rfl rfl (.inr (.of_eq (hSources (by simp))))
  | signal => exact .keep rfl rfl (.inr (.of_eq (hSources (by simp))))
  | @signalSession _ _ _ _ after =>
    cases after <;> exact .keep rfl (by simp) (.inr (.of_eq (hSources (by simp))))
  -- the drain check reports to the Host, not to the application
  | eraseToken | finish =>
    exact .keep rfl closings_maybeQueueDrainStatus (.inr (.of_eq (hSources (by simp))))
  | @finishSource _ _ dispatched =>
    refine .keep rfl ?_ (.inr (.of_eq (hSources (by simp))))
    cases dispatched <;> exact closings_maybeQueueDrainStatus
  -- the two points that report
  | settleSource hCommit | failSource hCommit | declineSource hCommit =>
    exact noticeTurn_commit hCommit
  | notifySource =>
    exact .settle rfl (closings_notifySourceClosed _ _) (sources_notifySourceClosed _ _)

end Workers

-- ---------------------------------------------------------------------------
-- The Work reader and the application
-- ---------------------------------------------------------------------------

section Reader

variable {pc pc' : WorkReaderPc} {todo : FollowUp}

/-- A step that neither reports nor takes a source. -/
theorem NoticeTurn.calm {declined : Prop} {pending pending' : List SourceState}
    (hPending : pending' = pending) (hLog : c'.closings = c.closings)
    (hSources : c'.tables.sourceStreams = c.tables.sourceStreams) :
    NoticeTurn env declined c c' pending pending' :=
  .keep hPending hLog (.inr (.of_eq hSources))

/-- The end of a deactivation releases `transition_mutex_`. -/
theorem NoticeTurn.unlocked {declined : Prop} {pending pending' : List SourceState}
    (h : NoticeTurn env declined c c' pending pending') :
    NoticeTurn env declined c c'.unlocked pending pending' := by
  cases h with
  | keep hPending hLog hSources => exact .keep hPending hLog hSources
  | take hFree hLog hPlain hTaken =>
    refine .take hFree hLog hPlain ?_
    cases hTaken with
    | all hSources => exact .all hSources
    | one hActive hSources => exact .one hActive hSources
  | settle hBefore hLog hSources => exact .settle hBefore hLog hSources

theorem noticeTurn_enqueueDispatch {now : Int} {job : DispatchJob}
    (h : enqueueDispatch env c now job = (todo, c')) :
    NoticeTurn env False c c' [] todo.notices := by
  have hLog : c'.closings = c.closings := closings_of_surround (surround_enqueueDispatch h)
  obtain ⟨reservation, -, rfl, rfl⟩ | ⟨hCore, -, -, -, hTodo⟩ := enqueueDispatch_cases h
  · exact .calm rfl hLog rfl
  · refine .calm ?_ hLog (congrArg (fun k : Core => k.tables.sourceStreams) hCore)
    obtain ⟨_, -, rfl⟩ | ⟨-, rfl⟩ | ⟨_, _, -, rfl⟩ | ⟨_, -, rfl⟩ := hTodo <;> rfl

theorem noticeTurn_enqueueSourceOpen {now : Int} {job : DispatchJob}
    (h : enqueueSourceOpen env c now job = (todo, c')) :
    NoticeTurn env False c c' [] todo.notices := by
  have hLog : c'.closings = c.closings := closings_of_surround (surround_enqueueSourceOpen h)
  obtain ⟨index, endpoint, bytes, hVerdict, rfl, rfl⟩ | ⟨error, -, hReject⟩ |
    ⟨hCore, -, -, -, hTodo⟩ := enqueueSourceOpen_cases h
  · refine .keep rfl hLog (.inr ?_)
    -- the new entry has an unused key
    obtain ⟨-, hUnused, -, -⟩ := sourceOpenVerdict_fresh hVerdict (by simp) (by simp)
    intro streamId source hLook
    have hKey : streamId ≠ job.workId := by
      rintro rfl
      rw [hUnused.2.1] at hLook
      cases hLook
    exact ⟨source, by simp [Client.admitSource, hKey, hLook], rfl⟩
  · obtain ⟨rfl, bytes, digest, rfl, -⟩ | ⟨rfl, -, -, -, hCore⟩ := rejectSource_cases hReject
    · exact .calm rfl hLog rfl
    · refine .calm rfl hLog ?_
      obtain hCore | hCore := hCore <;>
        exact congrArg (fun k : Core => k.tables.sourceStreams) hCore
  · refine .calm ?_ hLog (congrArg (fun k : Core => k.tables.sourceStreams) hCore)
    obtain ⟨_, -, rfl⟩ | ⟨-, rfl⟩ | rfl := hTodo <;> rfl

theorem noticeTurn_grantSourceCredit {credit : SourceCredit} {sequence : Nat}
    (h : grantSourceCredit c credit sequence = (todo, c')) :
    NoticeTurn env False c c' [] todo.notices := by
  obtain ⟨rfl, grant, source, -, hActive, -, -, -, -, -, -, rfl⟩ | ⟨rfl, closed, -, -, rfl⟩ |
    ⟨⟨_, rfl⟩, rfl⟩ := grantSourceCredit_cases h
  · exact .keep rfl rfl (.inr (.of_insert hActive rfl rfl))
  · exact .calm rfl rfl rfl
  · exact .calm rfl rfl rfl

theorem noticeTurn_handleTerminalAcknowledgement {acknowledgement : TerminalAcknowledgement}
    {sequence : Nat} (h : handleTerminalAcknowledgement c acknowledgement sequence = (todo, c')) :
    NoticeTurn env False c c' [] todo.notices := by
  obtain ⟨rfl, workId, entry, -, -, -, -, -, -, rfl⟩ |
    ⟨rfl, streamId, closed, bytes, -, -, -, rfl, -⟩ | ⟨hTodo, rfl⟩ :=
    handleTerminalAcknowledgement_cases h
  · exact .calm rfl rfl rfl
  · exact .calm rfl rfl rfl
  · refine .calm ?_ rfl rfl
    obtain rfl | ⟨_, rfl⟩ := hTodo <;> rfl

/-- A cancellation of an opened source takes it out of the table, to be reported. -/
theorem noticeTurn_handleCancellation {cancellation : WorkCancellation} {sequence : Nat}
    (h : handleCancellation env c cancellation sequence = (todo, c')) :
    NoticeTurn env False c c' [] todo.notices := by
  obtain ⟨source, streamId, -, hActive, -, hCases⟩ | ⟨rfl, workId, token, -, -, rfl⟩ |
    ⟨hTodo, rfl⟩ := handleCancellation_cases h
  · obtain ⟨rfl, -, rfl⟩ | ⟨rfl, -, hRefused⟩ | ⟨rfl, -, digest, rfl⟩ := hCases
    · exact .calm rfl rfl rfl
    · obtain rfl | rfl := hRefused <;> exact .calm rfl rfl rfl
    · exact .take rfl rfl id (.one hActive rfl)
  · exact .calm rfl rfl rfl
  · refine .calm ?_ rfl rfl
    obtain rfl | ⟨_, rfl⟩ := hTodo <;> rfl

theorem noticeTurn_handleWorkResponse {now : Int} {response : WorkResponse}
    (h : handleWorkResponse env c now response = (.inl todo, c')) :
    NoticeTurn env False c c' [] todo.notices := by
  unfold handleWorkResponse at h
  simp only at h
  split at h <;> simp only [Prod.mk.injEq, Sum.inl.injEq, reduceCtorEq, false_and] at h
  · exact noticeTurn_enqueueDispatch (Prod.ext h.1 h.2)
  · exact noticeTurn_enqueueDispatch (Prod.ext h.1 h.2)
  · exact noticeTurn_enqueueSourceOpen (Prod.ext h.1 h.2)
  · exact noticeTurn_grantSourceCredit (Prod.ext h.1 h.2)
  · exact noticeTurn_handleCancellation (Prod.ext h.1 h.2)
  · exact noticeTurn_handleTerminalAcknowledgement (Prod.ext h.1 h.2)
  · obtain ⟨rfl, rfl⟩ := h
    exact .calm rfl rfl rfl

theorem noticeTurn_followUpStep {fence : SessionFence}
    (h : followUpStep env c fence todo = (pc', c')) :
    NoticeTurn env False c c' todo.notices pc'.notices := by
  have hQueued : ∀ {owner : Option CancellationId} {frame : WorkFrame} {ok : Bool} {c₁ : Client},
      c.queueWorkLocked env owner frame = (ok, c₁) →
      c₁.closings = c.closings ∧ c₁.tables.sourceStreams = c.tables.sourceStreams := by
    intro owner frame ok c₁ hQueue
    refine ⟨closings_of_surround (surround_queueWorkLocked hQueue), ?_⟩
    obtain ⟨-, -, rfl⟩ | ⟨-, -, hRefused⟩ := Client.queueWorkLocked_cases hQueue
    · rfl
    · exact congrArg (fun k : Core => k.tables.sourceStreams) hRefused.core
  have hCommitted : ∀ {job : DispatchJob} {frame : WorkFrame} {r : TerminalCommitResult}
      {c₁ : Client}, c.commitTerminalFrame env job frame = (r, c₁) →
      c₁.closings = c.closings ∧ c₁.tables.sourceStreams = c.tables.sourceStreams := by
    intro job frame r c₁ hCommit
    refine ⟨closings_of_surround (surround_commitTerminalFrame hCommit), ?_⟩
    obtain ⟨-, -, entry, -, -, rfl⟩ | ⟨-, hRefused⟩ := Client.commitTerminalFrame_cases hCommit
    · simp
    · exact congrArg (fun k : Core => k.tables.sourceStreams) hRefused.core
  cases followUpStep_branch h with
  | done | unheard | signal => exact .calm rfl rfl rfl
  | reported hQueue | unreported hQueue | replayed hQueue | unreplayed hQueue =>
    exact .calm rfl (hQueued hQueue).1 (hQueued hQueue).2
  | answered hCommit | unanswered hCommit =>
    exact .calm rfl (hCommitted hCommit).1 (hCommitted hCommit).2
  | notify =>
    exact .settle rfl (closings_notifySourceClosed _ _) (sources_notifySourceClosed _ _)

theorem sources_signalSessionFailure (session reason : Text) :
    (c.signalSessionFailure session reason).tables.sourceStreams = c.tables.sourceStreams := by
  unfold Client.signalSessionFailure
  split <;> rfl

theorem sources_signalTerminalSessionFailure (session reason : Text) :
    (c.signalTerminalSessionFailure session reason).tables.sourceStreams =
      c.tables.sourceStreams := by
  unfold Client.signalTerminalSessionFailure
  split <;> rfl

/-- A step of the Work reader. -/
theorem noticeTurn_workReaderStep {input : ReaderInput WorkResponse}
    (h : workReaderStep env c pc input = some (pc', c')) :
    NoticeTurn env False c c' pc.notices pc'.notices := by
  cases workReaderStep_branch h with
  | opened | stopping | awaitFrame | oversize | received | readFailed | badHeader | goodHeader
  | closed | ended | rejected | lost => exact .calm rfl rfl rfl
  | handle hHandle => exact noticeTurn_handleWorkResponse hHandle
  | hostError hHandle =>
    rw [handleWorkResponse_terminal hHandle]
    exact .calm rfl rfl rfl
  | followUp hFollow => exact noticeTurn_followUpStep hFollow
  | unopened | signalSession | lastSignal =>
    exact .calm rfl (by simp) (sources_signalSessionFailure _ _)
  | terminal | lastTerminal =>
    exact .calm rfl (by simp) (sources_signalTerminalSessionFailure _ _)

theorem noticeTurn_publishSource {streamId : Text} {items : List Text}
    {pending : List SourceState} :
    NoticeTurn env False c (publishSource env c streamId items).2 pending pending := by
  have hLog : (publishSource env c streamId items).2.closings = c.closings :=
    closings_of_surround surround_publishSource
  obtain ⟨-, source, hPublishes, hEq⟩ | ⟨-, hRefused⟩ :=
    publishSource_cases (Prod.eta (publishSource env c streamId items)).symm
  · have hPublished : (publishSource env c streamId items).2.tables.sourceStreams =
        c.tables.sourceStreams.insert streamId (source.published items) := by
      rw [hEq]
      rfl
    exact .keep rfl hLog (.inr (.of_insert hPublishes.active hPublished rfl))
  · exact .keep rfl hLog (.inr (.of_core hRefused.core))

/-- A source that the application closes is reported by nobody. -/
theorem noticeTurn_closeSource {streamId : Text} {error : Option AdapterError}
    {pending : List SourceState} :
    NoticeTurn env True c (closeSource env c streamId error).2 pending pending :=
  .keep rfl (closings_of_surround surround_closeSource) (.inl trivial)

end Reader

-- ---------------------------------------------------------------------------
-- Deactivation and the Control reader
-- ---------------------------------------------------------------------------

/-- What is left to report when a deactivation goes on, or ends. -/
def nextNotices : Option DeactivatePc → List SourceState
  | some at_ => at_.notices
  | none => []

/-- A deactivation takes all sources in its locked section and reports them one by one. -/
theorem noticeTurn_deactivateStep {reason : Text} {at_ : DeactivatePc}
    {next : Option DeactivatePc} (h : deactivateStep env reason c at_ = some (next, c')) :
    NoticeTurn env False c c' at_.notices (nextNotices next) := by
  cases deactivateStep_move h with
  | begin => exact .take rfl rfl id (.all rfl)
  | waited | stopped | finish => exact .calm rfl rfl rfl
  | stop =>
    refine .calm rfl (by simp) ?_
    unfold Client.callStop
    split <;> rfl
  | clear =>
    refine .calm rfl ?_ ?_
    · split
      · simp
      · rfl
    · unfold Client.callClear
      repeat' split
      all_goals rfl
  | notify => exact .settle rfl (closings_notifySourceClosed _ _) (sources_notifySourceClosed _ _)

/-- What a transaction that goes on, or returns, has left to report. -/
def applyNotices : ApplyNext → List SourceState
  | .inl at_ => at_.notices
  | .inr _ => []

/-- Until it unwinds a transaction has nothing to notify. -/
theorem notices_nextStart (cand : Candidate) (remaining : List (EnabledCapability × Nat))
    (started : List Nat) (error : Text) : (nextStart cand remaining started error).notices = [] := by
  unfold nextStart
  split <;> rfl

theorem sources_callStop (binding : Nat) :
    (c.callStop env binding).tables.sourceStreams = c.tables.sourceStreams := by
  unfold Client.callStop
  split <;> rfl

theorem sources_callClear :
    (c.callClear env).tables.sourceStreams = c.tables.sourceStreams := by
  unfold Client.callClear
  split <;> rfl

/-- A transaction takes sources over in its deactivations only. -/
theorem noticeTurn_applyMove {session : Text} {at_ : ApplyPc} {next : ApplyNext}
    (h : ApplyMove env session c at_ next c') :
    NoticeTurn env False c c' at_.notices (applyNotices next) := by
  cases h with
  | begin hBegin =>
    unfold beginApply at hBegin
    repeat' split at hBegin
    all_goals first | (cases hBegin; done) | (cases hBegin; exact .calm rfl rfl rfl)
  | stale hPc => obtain rfl | rfl := hPc <;> exact .calm rfl rfl rfl
  | deactivate hStep | deactivated hStep | readyDeactivate hStep | readyDeactivated hStep =>
    exact noticeTurn_deactivateStep hStep
  | skipApply | skipStart => exact .calm (notices_nextStart _ _ _ _) rfl rfl
  | applied | started =>
    exact .calm (notices_nextStart _ _ _ _) (by simp [LifecycleEvent.closed?]) rfl
  | applyFailed => exact .calm rfl (by simp [LifecycleEvent.closed?]) sources_callClear
  | startFailed => exact .calm rfl (by simp [LifecycleEvent.closed?]) rfl
  | @unwindStop _ binding | @staleStop _ binding =>
    exact .calm rfl (by simp) (sources_callStop binding)
  | @unwound _ clear =>
    refine .calm rfl ?_ ?_ <;> cases clear
    · rfl
    · simp
    · rfl
    · exact sources_callClear
  | commit hCommit =>
    unfold commitSpec at hCommit
    split at hCommit <;> cases hCommit
    exact .calm rfl rfl rfl
  | staleUnwound => exact .calm rfl closings_callClear sources_callClear
  | finish =>
    unfold finishApply
    split <;> exact .calm rfl rfl rfl
  | answer | waited | lock | current | proceed | startedAll | failed | outdated | skipReady
  | readied | readyFailed | readiedAll | readyFailure => exact .calm rfl rfl rfl

/-- A step of the Control reader. -/
theorem noticeTurn_controlReaderStep {pc pc' : ControlReaderPc}
    {input : ReaderInput ControlResponse}
    (h : controlReaderStep env c pc input = some (pc', c')) :
    NoticeTurn env False c c' pc.notices pc'.notices := by
  have hDrain : (c.beginDrain env).closings = c.closings ∧
      (c.beginDrain env).tables.sourceStreams = c.tables.sourceStreams := by
    unfold Client.beginDrain
    exact ⟨closings_maybeQueueDrainStatus,
      congrArg (fun k : Core => k.tables.sourceStreams) (Client.core_maybeQueueDrainStatus env _)⟩
  cases controlReaderStep_branch h with
  -- a header that fails only fails the session
  | opened | stopping | awaitFrame | oversize | received | readFailed | badHeader | goodHeader
  | remoteStop | closed | ended | rejected | lost => exact .calm rfl rfl rfl
  -- the frames: spec, ping, drain, stop, error and nothing
  | badSpec | goodSpec | ping | hostError | emptyFrame => exact .calm rfl rfl rfl
  | drain => exact .calm rfl hDrain.1 hDrain.2
  | stop => split <;> exact .calm rfl rfl rfl
  -- a transaction may deactivate, and so take the sources out
  | apply hMove => exact noticeTurn_applyMove hMove
  | conclude hMove => exact noticeTurn_applyMove hMove
  -- queueing an answer, then the ways out of the loop
  | @queued _ _ frame _ _ hQueue | @overflow _ _ frame _ _ hQueue =>
    have hCore := Client.core_queueControlLocked env c frame
    rw [hQueue] at hCore
    exact .calm rfl (closings_queueControlLocked hQueue)
      (congrArg (fun k : Core => k.tables.sourceStreams) hCore)
  | unopened | signal | lastSignal => exact .calm rfl (by simp) (sources_signalSessionFailure _ _)
  | terminal | lastTerminal =>
    exact .calm rfl (by simp) (sources_signalTerminalSessionFailure _ _)

-- ---------------------------------------------------------------------------
-- The writers and the supervisor
-- ---------------------------------------------------------------------------

theorem closings_workWriterStep {pc pc' : WorkWriterPc} {input : WriterInput}
    (h : workWriterStep env c pc input = some (pc', c')) : c'.closings = c.closings := by
  cases workWriterStep_branch h with
  | ready =>
    unfold Client.markReady
    split <;> rfl
  | attach | unattached | attached | loseAttach | ended | dequeue | write | lose => rfl
  | signal => simp

theorem closings_controlWriterStep {pc pc' : ControlWriterPc} {input : WriterInput}
    (h : controlWriterStep env c pc input = some (pc', c')) : c'.closings = c.closings := by
  cases controlWriterStep_branch h with
  | ended | dequeue | heartbeat | write | lose => rfl
  | gate =>
    unfold Client.openAttachGate
    split <;> rfl
  | signal | terminal => simp

/-- A step of the supervisor in a reachable state, where there are sources in a pair only. -/
theorem noticeTurn_supervisorStep {controlDone workDone : Bool} {pc pc' : SupervisorPc}
    {input : SupervisorInput} (hPair : pc.phase.queues = false → c.tables.sourceStreams = ∅)
    (h : supervisorStep env c controlDone workDone pc input = some (pc', c')) :
    NoticeTurn env False c c' pc.notices pc'.notices := by
  cases supervisorStep_branch h with
  -- the replacement of a pair and a deactivation take sources over, and report them
  | replaceBegin => exact .take rfl rfl id (.all rfl)
  | notify => exact .settle rfl (closings_notifySourceClosed _ _) (sources_notifySourceClosed _ _)
  | deactivate hStep => exact noticeTurn_deactivateStep hStep
  | @deactivated _ _ after _ hStep =>
    have hTurn := (noticeTurn_deactivateStep hStep).unlocked
    cases after <;> exact hTurn
  -- where the tables are cleared there was nothing left to report
  | install | endSession => exact .calm rfl rfl (hPair rfl).symm
  | prepare | release | clear => exact .calm rfl rfl c.tables.releaseAllWorkTokens_sourceStreams
  | lock hLocks => cases hLocks <;> exact .calm rfl rfl rfl
  | advance =>
    unfold Client.advanceEpoch
    split <;> exact .calm rfl rfl rfl
  | enterLost hEnter =>
    unfold Client.enterSessionLost at hEnter
    split at hEnter <;> cases hEnter
    refine .calm ?_ rfl rfl
    split <;> rfl
  | reportLost => split <;> exact .calm rfl rfl rfl
  | refuse | register | unanswered | registered | giveUp | goOn | unattached | attach | ended
  | joinControl | joinWork | replaceWait | error | notified | unstopped | terminal | spent | retry
  | epochLeft | backOff | alreadyLost => exact .calm rfl rfl rfl

-- ---------------------------------------------------------------------------
-- Every step of the system
-- ---------------------------------------------------------------------------

/-- The step closes a source for the application: `CloseSource`, or the commit of a rejection
that is no cancellation. -/
def System.Declines (s : System) (a : Action) : Prop :=
  (∃ streamId error, a = .closeSource streamId error) ∨
    ∃ i input, a = .worker i input ∧ (s.workers i).Declines

/-- A step is the turn of one thread, and the others keep what they have to report. -/
def NoticeStep (env : Env) (s : System) (a : Action) (s' : System) : Prop :=
  ∃ n, NoticeTurn env (s.Declines a) s.client s'.client (s.notices n) (s'.notices n) ∧
    ∀ m, m ≠ n → s'.notices m = s.notices m

/-- The condition of a turn may be replaced by an equivalent one. -/
theorem NoticeTurn.congr {declined declined' : Prop} {pending pending' : List SourceState}
    (hIff : declined ↔ declined') (h : NoticeTurn env declined c c' pending pending') :
    NoticeTurn env declined' c c' pending pending' := by
  cases h with
  | keep hPending hLog hSources => exact .keep hPending hLog (hSources.imp_left hIff.mp)
  | take hFree hLog hPlain hTaken => exact .take hFree hLog (fun h => hPlain (hIff.mpr h)) hTaken
  | settle hBefore hLog hSources => exact .settle hBefore hLog hSources

/-- A worker without a job has nothing to notify. -/
theorem WorkerPc.notices_of_free {pc : WorkerPc} (h : pc.job? = none) : pc.notices = [] := by
  cases pc <;> first | rfl | cases h

/-- A Work reader that is gone has nothing to notify. -/
theorem WorkReaderPc.notices_of_done {pc : WorkReaderPc} (h : pc.fence? = none) :
    pc.notices = [] := by
  cases pc <;> first | rfl | cases h

/-- A Control reader that is gone has nothing to notify. -/
theorem ControlReaderPc.notices_of_done {pc : ControlReaderPc} (h : pc.fence? = none) :
    pc.notices = [] := by
  cases pc <;> first | rfl | cases h

/-- The readers that the supervisor spawns, and those they take the place of, have nothing to
report. -/
theorem notices_spawn (hShape : Shape s) (pc' : SupervisorPc) :
    (s.spawn pc').workReader.notices = s.workReader.notices ∧
      (s.spawn pc').controlReader.notices = s.controlReader.notices := by
  unfold System.spawn
  split
  · rename_i hPc
    have hWork : s.workReader.fence? = none := hShape.threads.workReader (by rw [hPc]; rfl)
    have hControl : s.controlReader.fence? = none :=
      hShape.threads.controlReader (by rw [hPc]; rfl)
    rw [WorkReaderPc.notices_of_done hWork, ControlReaderPc.notices_of_done hControl]
    exact ⟨rfl, rfl⟩
  · rename_i hPc
    have hWork : s.workReader.fence? = none := hShape.threads.workReader (by rw [hPc]; rfl)
    rw [WorkReaderPc.notices_of_done hWork]
    exact ⟨rfl, rfl⟩
  · exact ⟨rfl, rfl⟩

/-- No step but a worker's and `CloseSource` closes a source for the application. -/
theorem not_declines (hWorker : ∀ i input, a ≠ .worker i input)
    (hClose : ∀ streamId error, a ≠ .closeSource streamId error) : False ↔ s.Declines a := by
  constructor
  · exact False.elim
  · rintro (⟨streamId, error, hAction⟩ | ⟨i, input, hAction, -⟩)
    · exact hClose streamId error hAction
    · exact hWorker i input hAction

/-- A step in which no thread reports or takes a source. -/
theorem NoticeStep.calm (hNotices : s'.notices = s.notices)
    (hLog : s'.client.closings = s.client.closings)
    (hSources : s'.client.tables.sourceStreams = s.client.tables.sourceStreams) :
    NoticeStep env s a s' :=
  ⟨.stopper, .calm (by rw [hNotices]) hLog hSources, fun m _ => by rw [hNotices]⟩

/-- Every step of the system is the turn of one thread. -/
theorem noticeTurn_of_step (hReach : (machine env).Reachable s)
    (hStep : s.step env a = some s') : NoticeStep env s a s' := by
  have hShape := shape_of_reachable hReach
  have hPair := sources_in_pair hReach
  -- the workers of a client that is outside a pair have nothing to report
  have hFree : s.supervisor.phase.holds = false → ∀ i, (s.workers i).notices = [] :=
    fun hHolds i => WorkerPc.notices_of_free (hShape.occupancy.holds hHolds i)
  cases System.step_cases hStep with
  | @worker i input pc' c' hWorker =>
    have hTurn := noticeTurn_workerStep hWorker
    -- the only declined open a worker reports is its own
    have hOwn : (s.workers i).Declines ↔ s.Declines (.worker i input) := by
      constructor
      · exact fun h => .inr ⟨i, input, rfl, h⟩
      · rintro (⟨_, _, hAction⟩ | ⟨_, _, hAction, h⟩)
        · cases hAction
        · cases hAction
          exact h
    refine ⟨.worker i, ?_, ?_⟩
    · simp only [System.notices, System.setWorker, if_true]
      exact hTurn.congr hOwn
    · intro m hm
      cases m with
      | worker j =>
        have hj : j ≠ i := fun h => hm (by rw [h])
        simp [System.notices, System.setWorker, hj]
      | workReader | controlReader | supervisor | stopper => rfl
  | workReader hReader =>
    -- every other thread keeps what it had to report
    refine ⟨.workReader, (noticeTurn_workReaderStep hReader).congr
      (not_declines (by simp) (by simp)), ?_⟩
    intro m hm
    cases m <;> first | rfl | exact absurd rfl hm
  | controlReader hReader =>
    refine ⟨.controlReader, (noticeTurn_controlReaderStep hReader).congr
      (not_declines (by simp) (by simp)), ?_⟩
    intro m hm
    cases m <;> first | rfl | exact absurd rfl hm
  | workWriter hWriter =>
    refine .calm ?_ (closings_workWriterStep hWriter)
      (congrArg (fun k : Core => k.tables.sourceStreams) (core_workWriterStep hWriter))
    funext m
    cases m <;> rfl
  | controlWriter hWriter =>
    refine .calm ?_ (closings_controlWriterStep hWriter)
      (congrArg (fun k : Core => k.tables.sourceStreams) (core_controlWriterStep hWriter))
    funext m
    cases m <;> rfl
  | @supervisor input pc' c' hSupervisor =>
    obtain ⟨hWork, hControl⟩ := notices_spawn hShape pc'
    have hWorkers := workers_spawn (s := s) pc'
    refine ⟨.supervisor, (noticeTurn_supervisorStep hPair hSupervisor).congr
      (not_declines (by simp) (by simp)), ?_⟩
    intro m hm
    cases m with
    | worker j => exact congrArg (fun w : Nat → WorkerPc => (w j).notices) hWorkers
    | workReader => exact hWork
    | controlReader => exact hControl
    | supervisor => exact absurd rfl hm
    | stopper =>
      show (s.spawn pc').stopper.notices = s.stopper.notices
      unfold System.spawn
      split <;> rfl
  | publishSource =>
    exact ⟨.stopper, noticeTurn_publishSource.congr (not_declines (by simp) (by simp)),
      fun m _ => by cases m <;> rfl⟩
  | @closeSource streamId error =>
    exact ⟨.stopper, noticeTurn_closeSource.congr
      ⟨fun _ => .inl ⟨streamId, error, rfl⟩, fun _ => trivial⟩, fun m _ => by cases m <;> rfl⟩
  | flags _ _ _ _ _ _ _ hStop _ hClient =>
    -- neither `RequestStop` nor the lock adds to what `Stop` has to report
    have hStopper : ∀ stopper : StopPc, (stopper = s.stopper ∨
        (s.stopper = .idle ∧ stopper = .joinSupervisor) ∨
        (s.stopper = .lock ∧ stopper = .deactivating .locked)) →
        stopper.notices = s.stopper.notices := by
      rintro stopper (rfl | ⟨hBefore, rfl⟩ | ⟨hBefore, rfl⟩)
      · rfl
      · rw [hBefore]
        rfl
      · rw [hBefore]
        rfl
    refine .calm ?_ ?_ ?_
    · funext m
      cases m with
      | stopper => exact hStopper _ hStop
      | worker | workReader | controlReader | supervisor => rfl
    · obtain rfl | rfl | rfl := hClient <;> rfl
    · obtain rfl | rfl | rfl := hClient <;> rfl
  -- the threads that are created have nothing to report
  | startThreads hStopped hStopper =>
    have hPc := System.notStarted_of_fullyStopped hStopped
    refine .calm ?_ rfl rfl
    funext m
    cases m with
    | worker j =>
      have hNone := hFree (by rw [hPc]; rfl) j
      simp only [System.notices, hNone]
      split <;> rfl
    | supervisor => simp only [System.notices, hPc, SupervisorPc.notices]
    | workReader | controlReader | stopper => rfl
  | joinSupervisor hDone hStopper =>
    refine .calm ?_ rfl rfl
    funext m
    cases m with
    | supervisor =>
      obtain hPc | hPc := hDone <;> simp only [System.notices, hPc, SupervisorPc.notices]
    | stopper => simp only [System.notices, hStopper, StopPc.notices]
    | worker | workReader | controlReader => rfl
  | joinWorkers hStopper hDone =>
    have hPc : s.supervisor = .notStarted := hShape.threads.stopper (by rw [hStopper]; rfl)
    refine .calm ?_ rfl rfl
    funext m
    cases m with
    | worker j =>
      have hNone := hFree (by rw [hPc]; rfl) j
      simp only [System.notices, hNone]
      rfl
    | stopper => simp only [System.notices, hStopper, StopPc.notices]
    | supervisor | workReader | controlReader => rfl
  | stopDeactivate hStopper hDeactivate hNext =>
    have hTurn := noticeTurn_deactivateStep hDeactivate
    refine ⟨.stopper, ?_, fun m hm => by cases m <;> first | rfl | exact absurd rfl hm⟩
    -- `Stop` reports the sources its deactivation has taken out
    refine NoticeTurn.congr (not_declines (by simp) (by simp)) ?_
    simp only [System.notices, hStopper]
    obtain ⟨next, rfl, rfl, rfl⟩ | ⟨rfl, rfl, rfl⟩ := hNext
    · exact hTurn
    · exact hTurn.unlocked
  | stopReset hStopper =>
    have hPc : s.supervisor = .notStarted := hShape.threads.stopper (by rw [hStopper]; rfl)
    refine .calm ?_ rfl ?_
    · funext m
      cases m with
      | stopper => simp only [System.notices, hStopper, StopPc.notices]
      | worker | supervisor | workReader | controlReader => rfl
    · -- the tables of a client without a supervisor are empty
      rw [hPair (by rw [hPc]; rfl)]
      exact Tables.releaseAllWorkTokens_sourceStreams _

-- ---------------------------------------------------------------------------
-- The custody of the sources
-- ---------------------------------------------------------------------------

/-- Identities of `CancellationState` objects are not used twice. -/
theorem nextCancellation_of_step (hShape : Shape s) (hStep : s.step env a = some s') :
    s.client.nextCancellation ≤ s'.client.nextCancellation := by
  have hCore : ∀ {k : Core}, s'.client.core = k → k.nextCancellation = s.client.nextCancellation →
      s.client.nextCancellation ≤ s'.client.nextCancellation :=
    fun hEq hNext => Nat.le_of_eq (hNext.symm.trans (congrArg Core.nextCancellation hEq).symm)
  cases planeMove_of_step hShape hStep with
  | worker _ _ hMove => exact Nat.le_of_eq hMove.nextCancellation.symm
  | reader _ hMove =>
    generalize s.workReader = pc at hMove
    generalize s'.workReader = pc' at hMove
    generalize s'.client = c' at hMove hCore
    cases hMove with
    | quiet hSame | answer hSame => exact hCore hSame rfl
    | immediate _ _ hSame => exact hCore hSame rfl
    | retireSource hSame =>
      rw [show c'.nextCancellation = s.client.nextCancellation + 1 from
        congrArg Core.nextCancellation hSame]
      exact Nat.le_succ _
    | cancelRefused _ _ _ _ _ hRefused => exact hCore hRefused.core rfl
    | accept | admitSource | rejectSource => exact Nat.le_succ _
    | report | replay | commit | grant | lateGrant | acknowledge | acknowledgeSource
    | cancelOpening | cancelOpened => exact Nat.le_refl _
  | @publish streamId items _ hClient =>
    rw [hClient]
    exact Nat.le_of_eq publishSource_plane.2.1.symm
  | @close streamId error _ hClient =>
    rw [hClient]
    exact Nat.le_of_eq closeSource_plane.2.1.symm
  | quiet hSame | deactivate hSame => exact hCore hSame rfl
  | drop _ hSame => exact hCore hSame rfl
  | release _ _ _ hSame => exact hCore hSame rfl
  | outside _ _ _ _ _ _ _ _ _ hNext => exact Nat.le_of_eq hNext.symm

/-- `inKeyOrder` lists the entries of the table. -/
theorem mem_inKeyOrder {α : Type} {store : Store Text α} {x : α} :
    x ∈ inKeyOrder store ↔ ∃ key, store.lookup key = some x := by
  rw [inKeyOrder_eq, List.mem_map]
  constructor
  · rintro ⟨e, hMem, rfl⟩
    refine ⟨e.1, ?_⟩
    exact AList.mem_lookup_iff.mpr (List.mem_insertionSort keyLe |>.mp hMem)
  · rintro ⟨key, hLook⟩
    exact ⟨⟨key, x⟩, List.mem_insertionSort keyLe |>.mpr (Store.mem_entries_of_lookup hLook), rfl⟩

/-- The sources of the table have different identities. -/
theorem nodup_inKeyOrder (hOwn : Sources s) :
    ((inKeyOrder s.client.tables.sourceStreams).map SourceState.cancellation).Nodup := by
  rw [inKeyOrder_eq, List.map_map]
  have hPerm := List.perm_insertionSort keyLe s.client.tables.sourceStreams.entries
  rw [(hPerm.map _).nodup_iff]
  have hEntries : s.client.tables.sourceStreams.entries.Nodup :=
    s.client.tables.sourceStreams.nodupKeys.nodup
  refine List.Nodup.map_on ?_ hEntries
  rintro ⟨key, source⟩ hMem ⟨key', source'⟩ hMem' hSame
  have hLook : s.client.tables.sourceStreams.lookup key = some source :=
    AList.mem_lookup_iff.mpr hMem
  have hLook' : s.client.tables.sourceStreams.lookup key' = some source' :=
    AList.mem_lookup_iff.mpr hMem'
  have hKey : key = key' := hOwn.distinct key key' source source' hLook hLook' hSame
  subst hKey
  rw [hLook, Option.some.injEq] at hLook'
  rw [hLook']

/-- Every step is a move of the custody of the sources. -/
theorem custodyMove_of_step (hReach : (machine env).Reachable s)
    (hStep : s.step env a = some s') :
    Custody.Move SourceState.cancellation env.reports s.custody s'.custody := by
  have hShape := shape_of_reachable hReach
  have hOwn := sources_of_reachable hReach
  have hNext := nextCancellation_of_step hShape hStep
  -- a cancellation that was given out stays given out
  have hSeen : ∀ id, s.custody.seen id → s'.custody.seen id :=
    fun id hOld => Nat.lt_of_lt_of_le hOld hNext
  obtain ⟨n, hTurn, hOthers⟩ := noticeTurn_of_step hReach hStep
  have hUpdate : s'.notices = Function.update s.notices n (s'.notices n) := by
    funext m
    by_cases hm : m = n
    · subst hm
      rw [Function.update_self]
    · rw [Function.update_of_ne hm]
      exact hOthers m hm
  cases hTurn with
  | keep hPending hLog _ =>
    -- nobody takes a source or reports one
    refine .keep hSeen ?_ ?_ hLog
    · rintro id ⟨streamId, source', hLook, rfl⟩
      obtain ⟨source, hWas, hSource⟩ | ⟨_, _, _, _, _, -, -, -, -, hClient, -, rfl⟩ :=
        (sourceMove_of_step hShape hStep).back hLook
      · exact .inl ⟨streamId, source, hWas, hSource.sameSource.cancellation.symm⟩
      · -- a new source has a new cancellation
        refine .inr ⟨Nat.lt_irrefl _, ?_⟩
        show s.client.nextCancellation < s'.client.nextCancellation
        rw [hClient]
        exact Nat.lt_succ_self _
    · show s'.notices = s.notices
      rw [hUpdate, hPending, Function.update_eq_self]
  | take hFree hLog _ hTaken =>
    -- a thread takes one source out of the table, or all of them
    refine .take hSeen ?_ ?_ ?_ hFree hUpdate hLog
    · rintro id ⟨streamId, source', hLook, rfl⟩
      generalize s'.notices n = taken at hTaken
      cases hTaken with
      | all hSources =>
        rw [hSources] at hLook
        cases hLook
      | @one key source hActive hSources =>
        rw [hSources, Store.lookup_erase_ite] at hLook
        split at hLook
        · cases hLook
        · rename_i hKey
          refine ⟨⟨streamId, source', hLook, rfl⟩, ?_⟩
          simp only [List.map_cons, List.map_nil, List.mem_singleton]
          exact fun hSame => hKey (hOwn.distinct _ _ _ _ hLook hActive hSame)
    · intro source hMem
      generalize s'.notices n = taken at hTaken hMem
      cases hTaken with
      | all hSources =>
        obtain ⟨key, hLook⟩ := mem_inKeyOrder.mp hMem
        exact ⟨key, source, hLook, rfl⟩
      | @one key other hActive hSources =>
        rw [List.mem_singleton] at hMem
        rw [hMem]
        exact ⟨key, other, hActive, rfl⟩
    · generalize s'.notices n = taken at hTaken
      cases hTaken with
      | all hSources => exact nodup_inKeyOrder hOwn
      | one hActive hSources => simp
  | settle hBefore hLog hSources =>
    -- a thread reports what it has taken
    refine .settle hSeen ?_ hBefore hUpdate hLog
    rintro id ⟨streamId, source', hLook, hSame⟩
    exact ⟨streamId, source', by rwa [← hSources], hSame⟩

/-- In every reachable state a source is in the table, with one thread that is to report it,
or reported, and reported once. -/
theorem sole_of_reachable (h : (machine env).Reachable s) :
    s.custody.Sole SourceState.cancellation := by
  refine h.invariant (I := fun s => s.custody.Sole SourceState.cancellation) ?_ ?_
  · have hFree : ∀ n, ({} : System).notices n = [] := by
      intro n
      cases n <;> rfl
    have hUnlisted : ∀ id, ¬(machine env).init.custody.live id := by
      rintro id ⟨streamId, source, hLook, -⟩
      cases hLook
    constructor
    · exact fun id hLive => absurd hLive (hUnlisted id)
    all_goals simp [hFree, System.custody, machine, Client.closings]
  · intro s a s' hReach hSole hStep
    exact hSole.move (custodyMove_of_step hReach hStep)

/-- A source that leaves the table in a step is with the thread that took it, unless the step
closes it for the application. -/
theorem departs_of_step (hReach : (machine env).Reachable s) (hStep : s.step env a = some s')
    {streamId : Text} {source : SourceState}
    (hLook : s.client.tables.sourceStreams.lookup streamId = some source)
    (hGone : ¬s'.client.Lists source.cancellation) :
    (s.Declines a ∧ s'.custody.Gone SourceState.cancellation source.cancellation) ∨
      (¬s.Declines a ∧ s'.custody.Due SourceState.cancellation source) := by
  have hSole := sole_of_reachable hReach
  have hLive : s.custody.live source.cancellation := ⟨streamId, source, hLook, rfl⟩
  have hNext := nextCancellation_of_step (shape_of_reachable hReach) hStep
  obtain ⟨n, hTurn, hOthers⟩ := noticeTurn_of_step hReach hStep
  -- a source that is still in the table has not left
  have hStays : ∀ source', s'.client.tables.sourceStreams.lookup streamId = some source' →
      source'.cancellation = source.cancellation → False :=
    fun source' hLook' hSame => hGone ⟨streamId, source', hLook', hSame⟩
  cases hTurn with
  | keep hPending hLog hSources =>
    obtain hDeclines | hKeeps := hSources
    · have hSame : ∀ m, s'.notices m = s.notices m := by
        intro m
        by_cases hm : m = n
        · rw [hm, hPending]
        · exact hOthers m hm
      refine .inl ⟨hDeclines, Nat.lt_of_lt_of_le (hSole.liveSeen _ hLive) hNext, hGone, ?_, ?_⟩
      · intro m x hMem hEq
        have hMem : x ∈ s.notices m := hSame m ▸ hMem
        exact hSole.heldDead m x hMem (hEq ▸ hLive)
      · intro hMem
        have hMem : source.cancellation ∈ s.client.closings := hLog ▸ hMem
        exact hSole.logDead _ hMem hLive
    · obtain ⟨source', hLook', hSame⟩ := hKeeps streamId source hLook
      exact (hStays source' hLook' hSame).elim
  | take _ _ hPlain hTaken =>
    refine .inr ⟨hPlain, .inl ⟨n, ?_⟩⟩
    show source ∈ s'.notices n
    generalize s'.notices n = taken at hTaken
    cases hTaken with
    | all hSources => exact mem_inKeyOrder.mpr ⟨streamId, hLook⟩
    | @one key other hActive hSources =>
      by_cases hKey : streamId = key
      · subst hKey
        rw [hLook, Option.some.injEq] at hActive
        rw [hActive]
        exact List.mem_singleton_self _
      · refine (hStays source ?_ rfl).elim
        rw [hSources, Store.lookup_erase_ite, if_neg hKey]
        exact hLook
  | settle _ _ hSources =>
    rw [← hSources] at hLook
    exact (hStays source hLook rfl).elim

-- ---------------------------------------------------------------------------
-- Whose doing it was
-- ---------------------------------------------------------------------------

/-- The error `HandleSourceOpen` puts in the place of the handler's decision when the flag of
the job is set. -/
def cancelledOpenError : AdapterError :=
  (SourceOpenDecision.reject .cancelled "cancelled" "source open was cancelled").error

/-- The step takes a source out of the table because of the application: its `CloseSource`, or
the commit of what its open handler decided. -/
def System.closedByApplication (s : System) : Action → Bool
  | .closeSource _ _ => true
  | .worker i _ =>
    match s.workers i with
    | .sourceCommit _ decision => decision.error != cancelledOpenError
    | _ => false
  | _ => false

/-- A well-formed rejection whose error has the class of a cancellation. -/
def SourceOpenDecision.claimsCancellation (env : Env) (decision : SourceOpenDecision) : Bool :=
  !decision.accepted && !decision.hasInitialPayload && !env.hasPayload decision.initialPayload &&
    env.isTypedError decision.error && decision.error.errorClass == .cancelled

/-- A worker is to take such a rejection over from the handler of a job that nobody cancelled. -/
def System.claimsCancellation (env : Env) (s : System) : Action → Bool
  | .worker i _ =>
    match s.workers i with
    | .sourceReturned job _ decision =>
      !s.client.cancelled job && decision.claimsCancellation env
    | _ => false
  | _ => false

/-- The class of a cancellation stands for one. -/
def WorkerPc.Honest : WorkerPc → Prop
  | .sourceCommit _ decision =>
    decision.error.errorClass = .cancelled → decision.error = cancelledOpenError
  | _ => True

/-- What `HandleSourceOpen` commits has the class of a cancellation only if the flag was set, or
the handler claims so. -/
theorem normalizeDecision_class {endpoint : Option CapabilityEndpointContract}
    {cancelled : Bool} {decision : SourceOpenDecision}
    (hPlain : (!cancelled && decision.claimsCancellation env) = false)
    (hClass : (normalizeDecision env endpoint cancelled decision).error.errorClass = .cancelled) :
    (normalizeDecision env endpoint cancelled decision).error = cancelledOpenError := by
  unfold normalizeDecision at hClass ⊢
  split at hClass
  · rename_i hFlag
    rw [if_pos hFlag]
    rfl
  split at hClass
  · cases hClass
  split at hClass
  · cases hClass
  split at hClass
  · cases hClass
  rename_i hFlag hAccepted hRejected _
  exfalso
  -- an accepted decision has no error, and a rejection of this class claims a cancellation
  cases hAccept : decision.accepted with
  | true =>
    simp only [hAccept, Bool.true_and, Bool.or_eq_true, not_or, hasError, hClass] at hAccepted
    simp at hAccepted
  | false =>
    simp only [hAccept, Bool.not_false, Bool.true_and, Bool.or_eq_true, not_or,
      Bool.not_eq_true, Bool.not_eq_false'] at hRejected
    obtain ⟨⟨hInitial, hPayload⟩, hTyped⟩ := hRejected
    simp [SourceOpenDecision.claimsCancellation, hFlag, hAccept, hInitial, hPayload, hTyped,
      hClass] at hPlain

/-- Every step of a run without such claims leaves the workers honest. -/
theorem honest_of_step (hShape : Shape s) (hStep : s.step env a = some s')
    (hPlain : s.claimsCancellation env a = false) (hHonest : ∀ i, (s.workers i).Honest) :
    ∀ i, (s'.workers i).Honest := by
  have hFree : ∀ {pc : WorkerPc}, pc.job? = none → pc.Honest := by
    intro pc hNone
    cases pc <;> trivial
  intro j
  cases planeMove_of_step hShape hStep with
  | @worker i input pc' hAction hWorker _ hWorkers =>
    by_cases hij : j = i
    · subst hij
      have hOwn : s'.workers j = pc' := by simp [hWorkers, System.setWorker]
      rw [hOwn]
      cases pc' with
      | sourceCommit job decision =>
        intro hClass
        obtain ⟨binding, result, hPc, rfl⟩ := sourceCommit_of_workerStep hWorker
        refine normalizeDecision_class ?_ hClass
        simpa [System.claimsCancellation, hAction, hPc] using hPlain
      | _ => trivial
    · have hOther : s'.workers j = s.workers j := by simp [hWorkers, System.setWorker, hij]
      rw [hOther]
      exact hHonest j
  | reader _ _ hWorkers | publish _ _ hWorkers | close _ _ hWorkers | quiet _ _ hWorkers
  | deactivate _ _ hWorkers | drop _ _ _ hWorkers =>
    rw [hWorkers]
    exact hHonest j
  | release _ _ hJobs' | outside _ _ hJobs' => exact hFree (hJobs'.workers j)

/-- With honest workers, a step closes a source for the application when it declines it. -/
theorem declines_iff (hHonest : ∀ i, (s.workers i).Honest) :
    s.Declines a ↔ s.closedByApplication a = true := by
  constructor
  · rintro (⟨streamId, error, rfl⟩ | ⟨i, input, rfl, job, decision, hPc, hClass⟩)
    · rfl
    · simp only [System.closedByApplication, hPc, bne_iff_ne]
      rintro hEq
      rw [hEq] at hClass
      exact hClass rfl
  · intro hClosed
    cases a with
    | closeSource streamId error => exact .inl ⟨streamId, error, rfl⟩
    | worker i input =>
      have hOwn := hHonest i
      simp only [System.closedByApplication] at hClosed
      split at hClosed
      · rename_i job decision hPc
        rw [hPc] at hOwn
        refine .inr ⟨i, input, rfl, job, decision, hPc, fun hClass => ?_⟩
        simp [hOwn hClass] at hClosed
      · cases hClosed
    | _ => cases hClosed

/-- When `Stop` has returned, no thread has a source to report. -/
theorem notices_at_rest (hShape : Shape s) (hSupervisor : s.supervisor = .notStarted)
    (hStopper : s.stopper = .idle) (n : Notifier) : s.notices n = [] := by
  have hPhase : s.supervisor.phase = .outside := by rw [hSupervisor]; rfl
  cases n with
  | worker i =>
    exact WorkerPc.notices_of_free (hShape.occupancy.holds (by rw [hPhase]; rfl) i)
  | workReader =>
    exact WorkReaderPc.notices_of_done (hShape.threads.workReader (by rw [hPhase]; rfl))
  | controlReader =>
    exact ControlReaderPc.notices_of_done (hShape.threads.controlReader (by rw [hPhase]; rfl))
  | supervisor => simp only [System.notices, hSupervisor, SupervisorPc.notices]
  | stopper => simp only [System.notices, hStopper, StopPc.notices]

-- ---------------------------------------------------------------------------
-- Whole runs
-- ---------------------------------------------------------------------------

/-- The source leaves the table in the step. -/
def System.Departs (env : Env) (s : System) (a : Action) (source : SourceState) : Prop :=
  (∃ streamId, s.client.tables.sourceStreams.lookup streamId = some source) ∧
    ∃ s', s.step env a = some s' ∧ ¬s'.client.Lists source.cancellation

/-- What has become of the sources that left the table in a run. -/
structure Accounts (env : Env) (steps : List (System × Action)) (s : System) : Prop where
  honest : ∀ i, (s.workers i).Honest
  gone : ∀ e ∈ steps, ∀ source, e.1.Departs env e.2 source →
    e.1.closedByApplication e.2 = true →
      s.custody.Gone SourceState.cancellation source.cancellation
  due : ∀ e ∈ steps, ∀ source, e.1.Departs env e.2 source → env.reports source = true →
    e.1.closedByApplication e.2 = false → s.custody.Due SourceState.cancellation source

/-- At the end of every plain run every source is accounted for. -/
theorem accounts_of_run {steps : List (System × Action)} (hRun : (machine env).Run steps s)
    (hPlain : ∀ e ∈ steps, e.1.claimsCancellation env e.2 = false) : Accounts env steps s := by
  refine hRun.invariant (I := fun steps s =>
    (∀ e ∈ steps, e.1.claimsCancellation env e.2 = false) → Accounts env steps s) ?_ ?_ hPlain
  · intro _
    exact ⟨fun _ => trivial, by simp, by simp⟩
  · intro steps s a s' hRun ih hStep hPlain
    have hReach := hRun.reachable
    have hOld := ih fun e hMem => hPlain e (List.mem_cons_of_mem _ hMem)
    have hMove := custodyMove_of_step hReach hStep
    have hIff := declines_iff (a := a) hOld.honest
    -- what leaves the table in the last step is accounted for at once
    have hNew : ∀ source, s.Departs env a source →
        (s.closedByApplication a = true ∧
          s'.custody.Gone SourceState.cancellation source.cancellation) ∨
        (s.closedByApplication a = false ∧ s'.custody.Due SourceState.cancellation source) := by
      rintro source ⟨⟨streamId, hLook⟩, next, hNext, hGone⟩
      obtain rfl : s' = next := Option.some.inj (hStep.symm.trans hNext)
      obtain ⟨hDeclines, hGone⟩ | ⟨hKept, hDue⟩ := departs_of_step hReach hStep hLook hGone
      · exact .inl ⟨hIff.mp hDeclines, hGone⟩
      · exact .inr ⟨by rw [hIff, Bool.not_eq_true] at hKept; exact hKept, hDue⟩
    refine ⟨honest_of_step (shape_of_reachable hReach) hStep (hPlain (s, a) List.mem_cons_self)
      hOld.honest, ?_, ?_⟩
    · intro e hMem source hDeparts hClosed
      obtain rfl | hMem := List.mem_cons.mp hMem
      · obtain ⟨-, hGone⟩ | ⟨hKept, -⟩ := hNew source hDeparts
        · exact hGone
        · rw [hClosed] at hKept
          cases hKept
      · exact (hOld.gone e hMem source hDeparts hClosed).move hMove
    · intro e hMem source hDeparts hReports hKept
      obtain rfl | hMem := List.mem_cons.mp hMem
      · obtain ⟨hClosed, -⟩ | ⟨-, hDue⟩ := hNew source hDeparts
        · rw [hClosed] at hKept
          cases hKept
        · exact hDue
      · exact (hOld.due e hMem source hDeparts hReports hKept).move hReports hMove

/-- Along every run in which no open handler rejects a job nobody cancelled with the class of a
cancellation, no source is reported closed twice. A source that left the table because of the
application is never reported. Any other is reported if its capability has the callback: it
stays with the thread that took it until the call, and when `Stop` has returned the call was
made. -/
theorem source_closed_accounted {steps : List (System × Action)}
    (hRun : (machine env).Run steps s)
    (hPlain : ∀ e ∈ steps, e.1.claimsCancellation env e.2 = false) :
    s.client.closings.Nodup ∧
    ∀ e ∈ steps, ∀ source, e.1.Departs env e.2 source →
      (e.1.closedByApplication e.2 = true → source.cancellation ∉ s.client.closings) ∧
      (e.1.closedByApplication e.2 = false → env.reports source = true →
        (source.cancellation ∈ s.client.closings ∨ ∃ n, source ∈ s.notices n) ∧
        (s.supervisor = .notStarted → s.stopper = .idle →
          source.cancellation ∈ s.client.closings)) := by
  have hReach := hRun.reachable
  have hAccounts := accounts_of_run hRun hPlain
  refine ⟨(sole_of_reachable hReach).logNodup, fun e hMem source hDeparts => ⟨?_, ?_⟩⟩
  · intro hClosed
    exact (hAccounts.gone e hMem source hDeparts hClosed).unlogged
  · intro hKept hReports
    have hDue := hAccounts.due e hMem source hDeparts hReports hKept
    refine ⟨hDue.symm, fun hSupervisor hStopper => ?_⟩
    obtain ⟨n, hPending⟩ | hCalled := hDue
    · have hNone := notices_at_rest (shape_of_reachable hReach) hSupervisor hStopper n
      have hPending : source ∈ s.notices n := hPending
      rw [hNone] at hPending
      cases hPending
    · exact hCalled

-- ---------------------------------------------------------------------------
-- Runs
-- ---------------------------------------------------------------------------

section Runs

open Deployment

/-- The deployment with a `source_closed` callback. -/
def Deployment.reporting : Env :=
  { deployment with config := { deployment.config with
      capabilities :=
        [{ contract := contract
           callbacks :=
            { unary := true, operation := true, sourceOpen := true, sourceClosed := true } }] } }

/-- A source with `p` is in the table under this key before the step, and not after it. -/
def System.drops (env : Env) (s : System) (a : Action) (streamId : Text)
    (p : SourceState → Bool) : Bool :=
  (s.client.tables.sourceStreams.lookup streamId).any fun source =>
    p source && (s.step env a).any fun s' =>
      s'.client.tables.sourceStreams.entries.all fun entry =>
        entry.2.cancellation != source.cancellation

/-- A dropped source departs. -/
theorem departs_of_drops {streamId : Text} {p : SourceState → Bool}
    (h : s.drops env a streamId p = true) : ∃ source, s.Departs env a source ∧ p source = true := by
  simp only [System.drops, Option.any_eq_true, Bool.and_eq_true, List.all_eq_true] at h
  obtain ⟨source, hLook, hKind, s', hStep, hAll⟩ := h
  refine ⟨source, ⟨⟨streamId, hLook⟩, s', hStep, ?_⟩, hKind⟩
  rintro ⟨key, source', hLook', hSame⟩
  have hNot := hAll ⟨key, source'⟩ (Store.mem_entries_of_lookup hLook')
  simp [hSame] at hNot

/-- The Host cancels an open source: it is reported. -/
theorem source_closed_accounted_cancelled :
    ∃ steps s e source, (machine reporting).Run steps s ∧
      (∀ e ∈ steps, e.1.claimsCancellation reporting e.2 = false) ∧ e ∈ steps ∧
      e.1.Departs reporting e.2 source ∧ reporting.reports source = true ∧
      e.1.closedByApplication e.2 = false ∧ s.client.closings.Nodup ∧
      (source.cancellation ∈ s.client.closings ∨ ∃ n, source ∈ s.notices n) := by
  obtain ⟨steps, s, hRun, hFound⟩ := (machine reporting).exists_run_of_record
    (bringUp ++ openFeed 1 "f" ++ hostFrame 1 2 (cancelFrame "f"))
    (fun steps _ => steps.all (fun e => !e.1.claimsCancellation reporting e.2) &&
      steps.any fun e => e.1.drops reporting e.2 (text "f") reporting.reports &&
        !e.1.closedByApplication e.2)
    (by decide +kernel)
  simp only [Bool.and_eq_true, List.all_eq_true, List.any_eq_true, Bool.not_eq_true'] at hFound
  obtain ⟨hPlain, e, hMem, hDrops, hKept⟩ := hFound
  obtain ⟨source, hDeparts, hReports⟩ := departs_of_drops hDrops
  obtain ⟨hNodup, hAll⟩ := source_closed_accounted hRun hPlain
  exact ⟨steps, s, e, source, hRun, hPlain, hMem, hDeparts, hReports, hKept, hNodup,
    ((hAll e hMem source hDeparts).2 hKept hReports).1⟩

/-- An open handler rejects with the class of a cancellation, and nobody has cancelled: the
source is reported closed although the application has turned it down. -/
theorem source_closed_rejected :
    ∃ steps s e source, (machine reporting).Run steps s ∧ e ∈ steps ∧
      e.1.Departs reporting e.2 source ∧ e.1.closedByApplication e.2 = true ∧
      s.client.requested source.cancellation = false ∧
      source.cancellation ∈ s.client.closings := by
  obtain ⟨steps, s, hRun, hFound⟩ := (machine reporting).exists_run_of_record
    (bringUp ++ hostFrame 1 1 (sourceOpenRequestFrame "f") ++ worker 0 4 ++
      .worker 0 (.sourceOutcome (.value (.reject .cancelled "declined" "not now"))) :: worker 0 3)
    (fun steps s => steps.any fun e =>
      e.1.drops reporting e.2 (text "f") (fun source =>
        !s.client.requested source.cancellation &&
          s.client.closings.contains source.cancellation) &&
        e.1.closedByApplication e.2)
    (by decide +kernel)
  simp only [Bool.and_eq_true, List.any_eq_true] at hFound
  obtain ⟨e, hMem, hDrops, hClosed⟩ := hFound
  obtain ⟨source, hDeparts, hKind⟩ := departs_of_drops hDrops
  simp only [Bool.and_eq_true, Bool.not_eq_true', List.contains_iff_mem] at hKind
  exact ⟨steps, s, e, source, hRun, hMem, hDeparts, hClosed, hKind.1, hKind.2⟩

end Runs

end AdapterRuntime.Model
