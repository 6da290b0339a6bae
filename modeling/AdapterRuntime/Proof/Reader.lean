import AdapterRuntime.Proof.Worker

/-!
# AdapterRuntime — the steps of the Work reader

`workReaderStep_cases` says everything a step of the Work reader can do to the
Work plane: the effect of each Host frame, and of each follow-up the reader
takes after it.
-/

namespace AdapterRuntime.Model

open AdapterRuntime.Lib

/-- What the Work reader still has to do for the frame it is handling. -/
def WorkReaderPc.pending? : WorkReaderPc → Option FollowUp
  | .followUp _ todo => some todo
  | _ => none

/-- The follow-up sends nothing about a Work or source identity. -/
def FollowUp.Nameless : FollowUp → Prop
  | .commitImmediate _ _ | .queueReplay _ _ => False
  | _ => True

/-- The identity a unary or operation request asks for. -/
def HostWork.dispatchId? : HostWork → Option Text
  | .unaryRequest request => some request.context.workId
  | .operationRequest request => some request.context.workId
  | _ => none

/-- The frame is the retained terminal of an identity. -/
def Tables.Retains (t : Tables) (frame : WorkFrame) : Prop :=
  (∃ workId entry, t.replay.lookup workId = some entry ∧ entry.terminal = frame) ∨
    ∃ streamId closed, t.closedSources.lookup streamId = some closed ∧
      closed.terminalFrame = frame

/-- The job an enqueue function builds from a unary or operation request. -/
structure IsRequestJob (job : DispatchJob) : Prop where
  kind : job.kind ≠ .sourceOpen
  cancellation : job.cancellation = none

/-- The job `EnqueueSourceOpen` builds. -/
structure IsSourceJob (job : DispatchJob) : Prop where
  kind : job.kind = .sourceOpen
  cancellation : job.cancellation = none
  workId : job.sourceOpen.context.workId = job.workId

/-- What a step of the Work reader can do. -/
inductive ReaderMove (env : Env) (c : Client) : WorkReaderPc → WorkReaderPc → Client → Prop
  | quiet {pc pc' : WorkReaderPc} {c' : Client} (hCore : c'.core = c.core)
      (hRest : c.Subsides c') (hPending : ∀ todo, pc'.pending? = some todo → todo.Nameless) :
      ReaderMove env c pc pc' c'
  | report {fence : SessionFence} (sequence : Nat) (message : Text) :
      ReaderMove env c (.followUp fence (.protocolError sequence message)) (.reading fence)
        (c.queued env none (protocolErrorFrame sequence message))
  | replay {fence : SessionFence} {frame : WorkFrame} {reason : Text} :
      ReaderMove env c (.followUp fence (.queueReplay frame reason)) (.reading fence)
        (c.queued env none frame)
  | commit {fence : SessionFence} {job : DispatchJob} {frame : WorkFrame} {entry : ReplayEntry}
      (hEntry : replayEntryOf env job frame (c.workFrameBytes env frame) = some entry)
      (hLedger : c.ledgerAdmits env job entry = true) :
      ReaderMove env c (.followUp fence (.commitImmediate job frame)) (.reading fence)
        (c.committed env job frame entry)
  | accept {fence : SessionFence} {response : WorkResponse} {job : DispatchJob}
      {reservation : Nat} (hJob : IsRequestJob job)
      (hVerdict : dispatchVerdict env c job = .accept reservation)
      (hId : response.frame.dispatchId? = some job.workId) :
      ReaderMove env c (.handling fence response) (.followUp fence .done)
        (c.admitDispatch job reservation)
  | immediate {fence : SessionFence} {response : WorkResponse} {c' : Client}
      {job : DispatchJob} {code message : Text} {now : Int} (hJob : IsRequestJob job)
      (hVerdict : dispatchVerdict env c job = .reject code message) (hCore : c'.core = c.core)
      (hRest : c.Subsides c') (hId : response.frame.dispatchId? = some job.workId) :
      ReaderMove env c (.handling fence response)
        (.followUp fence (.commitImmediate job
          (rejectedDispatch now job.kind job.workId code message))) c'
  | answer {fence : SessionFence} {response : WorkResponse} {c' : Client} {frame : WorkFrame}
      {reason : Text} (hCore : c'.core = c.core) (hRest : c.Subsides c')
      (hRetained : c.tables.Retains frame) :
      ReaderMove env c (.handling fence response) (.followUp fence (.queueReplay frame reason)) c'
  | admitSource {fence : SessionFence} {response : WorkResponse} {job : DispatchJob}
      {index bytes : Nat} {endpoint : CapabilityEndpointContract} {now : Int}
      (hJob : IsSourceJob job)
      (hVerdict : sourceOpenVerdict env c now job = .accept index endpoint bytes) :
      ReaderMove env c (.handling fence response) (.followUp fence .done)
        (c.admitSource job index endpoint bytes)
  | rejectSource {fence : SessionFence} {response : WorkResponse} {job : DispatchJob}
      {bytes : Nat} {error : AdapterError} {digest : Text} {now : Int} (hJob : IsSourceJob job)
      (hVerdict : sourceOpenVerdict env c now job = .reject error)
      (hRoom : c.tables.sourceIdentities < env.config.maximumSourceTombstones)
      (hFits : sourceBudgetFits env c job = some bytes) :
      ReaderMove env c (.handling fence response) (.followUp fence .done)
        ((c.countRejected.charged bytes).sourceCommitted env job.workId
          (rejectedSource c.countRejected job bytes) (sourceOpenRejected job.workId error) digest)
  | retireSource {fence : SessionFence} {response : WorkResponse} {c' : Client}
      (hCore : c'.core = { c.core with nextCancellation := c.nextCancellation + 1 })
      (hRest : c.Subsides c') :
      ReaderMove env c (.handling fence response) (.followUp fence retireForSource) c'
  | grant {fence : SessionFence} {response : WorkResponse} {streamId : Text}
      {source : SourceState} {acknowledged messages bytes : Nat}
      (hActive : c.tables.sourceStreams.lookup streamId = some source)
      (hPhase : source.phase = .opened)
      (hEpoch : source.connectionEpoch = c.session.connectionEpochCounter)
      (hLower : source.acknowledgedSequence ≤ acknowledged)
      (hUpper : acknowledged ≤ source.sequence)
      (hMessages : source.messageCredit + messages ≤ sizeMax)
      (hBytes : source.byteCredit + bytes ≤ sizeMax) :
      ReaderMove env c (.handling fence response) (.followUp fence .done)
        ({ c with history := .granted source.cancellation messages bytes ::
          c.history }.setSource streamId (source.granted acknowledged messages bytes))
  | lateGrant {fence : SessionFence} {response : WorkResponse} {streamId : Text}
      {closed : ClosedSourceState} {acknowledged : Nat}
      (hClosed : c.tables.closedSources.lookup streamId = some closed) :
      ReaderMove env c (.handling fence response) (.followUp fence .done)
        { c with tables := { c.tables with
          closedSources := c.tables.closedSources.insert streamId
            { closed with acknowledgedSequence := acknowledged } } }
  | acknowledge {fence : SessionFence} {response : WorkResponse}
      {acknowledgement : TerminalAcknowledgement} {workId : Text} {entry : ReplayEntry}
      (hFrame : response.frame = .terminalAcknowledgement acknowledgement)
      (hIdentity : acknowledgement.identity = .workId workId)
      (hToken : c.tables.workTokens.lookup workId = none)
      (hSource : c.tables.sourceStreams.lookup workId = none)
      (hClosed : c.tables.closedSources.lookup workId = none)
      (hEntry : c.tables.replay.lookup workId = some entry)
      (hDigest : entry.terminalDigest = acknowledgement.terminalDigest) :
      ReaderMove env c (.handling fence response) (.followUp fence .done)
        { c with
          tables := { c.tables with
            terminalReplayBytes := c.tables.terminalReplayBytes - entry.accountedBytes
            replay := c.tables.replay.erase workId }
          history := .acknowledged workId :: c.history }
  | acknowledgeSource {fence : SessionFence} {response : WorkResponse} {streamId : Text}
      {closed : ClosedSourceState} {bytes : Nat}
      (hClosed : c.tables.closedSources.lookup streamId = some closed)
      {acknowledgement : TerminalAcknowledgement}
      (hFrame : response.frame = .terminalAcknowledgement acknowledgement)
      (hIdentity : acknowledgement.identity = .streamId streamId)
      (hDigest : closed.terminalDigest = acknowledgement.terminalDigest)
      (hBytes : bytes = c.tables.sourceStateBytes - closed.accountedBytes) :
      ReaderMove env c (.handling fence response) (.followUp fence .done)
        { c with tables := { c.tables with
          sourceStateBytes := bytes
          closedSources := c.tables.closedSources.erase streamId } }
  | cancelOpening {fence : SessionFence} {response : WorkResponse} {streamId : Text}
      {source : SourceState} {cancellation : WorkCancellation}
      (hFrame : response.frame = .cancellation cancellation)
      (hIdentity : cancellation.identity = .streamId streamId)
      (hActive : c.tables.sourceStreams.lookup streamId = some source)
      (hEpoch : source.connectionEpoch = c.session.connectionEpochCounter)
      (hPhase : source.phase = .opening) :
      ReaderMove env c (.handling fence response) (.followUp fence .done)
        (c.sourceCancelled source)
  | cancelRefused {fence : SessionFence} {response : WorkResponse} {c' : Client}
      {streamId : Text} {source : SourceState} {reason : Text}
      {cancellation : WorkCancellation} (hFrame : response.frame = .cancellation cancellation)
      (hIdentity : cancellation.identity = .streamId streamId)
      (hActive : c.tables.sourceStreams.lookup streamId = some source)
      (hEpoch : source.connectionEpoch = c.session.connectionEpochCounter)
      (hPhase : source.phase = .opened)
      (hRefused : Client.Refused (c.sourceCancelled source) c') :
      ReaderMove env c (.handling fence response) (.followUp fence (.signalFailure reason)) c'
  | cancelOpened {fence : SessionFence} {response : WorkResponse} {streamId : Text}
      {source : SourceState} {error : AdapterError} {digest : Text}
      {cancellation : WorkCancellation} (hFrame : response.frame = .cancellation cancellation)
      (hIdentity : cancellation.identity = .streamId streamId)
      (hActive : c.tables.sourceStreams.lookup streamId = some source)
      (hEpoch : source.connectionEpoch = c.session.connectionEpochCounter)
      (hPhase : source.phase = .opened) :
      ReaderMove env c (.handling fence response)
        (.followUp fence (.notifySourceClosed source error))
        ((c.sourceCancelled source).closed env streamId source (some error) digest)

variable {env : Env} {c c' : Client} {now : Int} {fence : SessionFence}
  {response : WorkResponse} {todo : FollowUp}

/-- The effects of a request of the Host for a unary or operation job. -/
theorem readerMove_enqueueDispatch {job : DispatchJob} (hJob : IsRequestJob job)
    (hId : response.frame.dispatchId? = some job.workId)
    (h : enqueueDispatch env c now job = (todo, c')) :
    ReaderMove env c (.handling fence response) (.followUp fence todo) c' := by
  obtain ⟨reservation, hVerdict, rfl, rfl⟩ | ⟨hCore, hRest, -, -, hTodo⟩ :=
    enqueueDispatch_cases h
  · exact .accept hJob hVerdict hId
  · have hSub : c.Subsides c' := .of_surround hRest
    obtain ⟨entry, hVerdict, rfl⟩ | ⟨-, rfl⟩ | ⟨code, message, hVerdict, rfl⟩ | ⟨reason, -, rfl⟩ := hTodo
    · exact .answer hCore hSub (.inl ⟨_, entry, (dispatchVerdict_replay hVerdict).1, rfl⟩)
    · exact .quiet hCore hSub (by simp [WorkReaderPc.pending?, FollowUp.Nameless])
    · exact .immediate hJob hVerdict hCore hSub hId
    · exact .quiet hCore hSub (by simp [WorkReaderPc.pending?, FollowUp.Nameless])

/-- The effects of a request of the Host for a source. -/
theorem readerMove_enqueueSourceOpen {job : DispatchJob} (hJob : IsSourceJob job)
    (h : enqueueSourceOpen env c now job = (todo, c')) :
    ReaderMove env c (.handling fence response) (.followUp fence todo) c' := by
  obtain ⟨index, endpoint, bytes, hVerdict, rfl, rfl⟩ | ⟨error, hVerdict, hReject⟩ |
    ⟨hCore, hRest, -, -, hTodo⟩ := enqueueSourceOpen_cases h
  · exact .admitSource hJob hVerdict
  · obtain ⟨rfl, bytes, digest, rfl, hRoom, hFits⟩ | ⟨rfl, hRest, -, -, hCore⟩ :=
      rejectSource_cases hReject
    · exact .rejectSource hJob hVerdict hRoom hFits
    · have hSub : c.Subsides c' := .of_surround hRest
      obtain hCore | hCore := hCore
      · exact .quiet hCore hSub
          (by simp [WorkReaderPc.pending?, retireForSource, FollowUp.Nameless])
      · exact .retireSource hCore hSub
  · have hSub : c.Subsides c' := .of_surround hRest
    obtain ⟨frame, hVerdict, rfl⟩ | ⟨-, rfl⟩ | rfl := hTodo
    · obtain ⟨closed, hClosed, hFrame⟩ := sourceOpenVerdict_replay hVerdict
      exact .answer hCore hSub (.inr ⟨_, closed, hClosed, hFrame⟩)
    · exact .quiet hCore hSub (by simp [WorkReaderPc.pending?, FollowUp.Nameless])
    · exact .quiet hCore hSub
        (by simp [WorkReaderPc.pending?, retireForSource, FollowUp.Nameless])

theorem readerMove_grantSourceCredit {credit : SourceCredit} {sequence : Nat}
    (h : grantSourceCredit c credit sequence = (todo, c')) :
    ReaderMove env c (.handling fence response) (.followUp fence todo) c' := by
  obtain ⟨rfl, grant, source, -, hActive, hPhase, hEpoch, hLower, hUpper, hMessages, hBytes, rfl⟩ |
    ⟨rfl, closed, hClosed, -, rfl⟩ | ⟨⟨message, rfl⟩, rfl⟩ := grantSourceCredit_cases h
  · exact .grant hActive hPhase hEpoch hLower hUpper hMessages hBytes
  · exact .lateGrant hClosed
  · exact .quiet rfl (.refl _) (by simp [WorkReaderPc.pending?, FollowUp.Nameless])

theorem readerMove_handleTerminalAcknowledgement {acknowledgement : TerminalAcknowledgement}
    {sequence : Nat} (hFrame : response.frame = .terminalAcknowledgement acknowledgement)
    (h : handleTerminalAcknowledgement c acknowledgement sequence = (todo, c')) :
    ReaderMove env c (.handling fence response) (.followUp fence todo) c' := by
  obtain ⟨rfl, workId, entry, hIdentity, hToken, hSource, hClosed, hEntry, hDigest, rfl⟩ |
    ⟨rfl, streamId, closed, bytes, hIdentity, hClosed, hDigest, rfl, hBytes⟩ | ⟨hTodo, rfl⟩ :=
    handleTerminalAcknowledgement_cases h
  · exact .acknowledge hFrame hIdentity hToken hSource hClosed hEntry hDigest
  · exact .acknowledgeSource hClosed hFrame hIdentity hDigest hBytes
  · obtain rfl | ⟨message, rfl⟩ := hTodo <;>
      exact .quiet rfl (.refl _) (by simp [WorkReaderPc.pending?, FollowUp.Nameless])

theorem readerMove_handleCancellation {cancellation : WorkCancellation} {sequence : Nat}
    (hFrame : response.frame = .cancellation cancellation)
    (h : handleCancellation env c cancellation sequence = (todo, c')) :
    ReaderMove env c (.handling fence response) (.followUp fence todo) c' := by
  obtain ⟨source, streamId, hIdentity, hActive, hEpoch, hCases⟩ |
    ⟨rfl, workId, token, -, -, rfl⟩ | ⟨hTodo, rfl⟩ := handleCancellation_cases h
  · obtain ⟨rfl, hPhase, rfl⟩ | ⟨rfl, hPhase, hRefused⟩ | ⟨rfl, hPhase, digest, rfl⟩ := hCases
    · exact .cancelOpening hFrame hIdentity hActive hEpoch hPhase
    · exact .cancelRefused hFrame hIdentity hActive hEpoch hPhase hRefused
    · exact .cancelOpened hFrame hIdentity hActive hEpoch hPhase
  · exact .quiet rfl (.request _) (by simp [WorkReaderPc.pending?, FollowUp.Nameless])
  · obtain rfl | ⟨message, rfl⟩ := hTodo <;>
      exact .quiet rfl (.refl _) (by simp [WorkReaderPc.pending?, FollowUp.Nameless])

/-- The effects of one Host frame. -/
theorem readerMove_handleWorkResponse
    (h : handleWorkResponse env c now response = (.inl todo, c')) :
    ReaderMove env c (.handling fence response) (.followUp fence todo) c' := by
  unfold handleWorkResponse at h
  simp only at h
  split at h <;> rename_i hFrame <;> simp only [Prod.mk.injEq, Sum.inl.injEq, reduceCtorEq,
    false_and] at h <;> obtain ⟨rfl, rfl⟩ := h
  · exact readerMove_enqueueDispatch ⟨by simp [unaryJob], rfl⟩ (by rw [hFrame]; rfl) rfl
  · exact readerMove_enqueueDispatch ⟨by simp [operationJob], rfl⟩ (by rw [hFrame]; rfl) rfl
  · exact readerMove_enqueueSourceOpen ⟨rfl, rfl, rfl⟩ rfl
  · exact readerMove_grantSourceCredit rfl
  · exact readerMove_handleCancellation hFrame rfl
  · exact readerMove_handleTerminalAcknowledgement hFrame rfl
  · exact .quiet rfl (.refl _) (by simp [WorkReaderPc.pending?, FollowUp.Nameless])

/-- A frame that ends the session leaves the client as it was. -/
theorem handleWorkResponse_terminal {reason : Text}
    (h : handleWorkResponse env c now response = (.inr reason, c')) : c' = c := by
  unfold handleWorkResponse at h
  simp only at h
  split at h <;> simp only [Prod.mk.injEq, reduceCtorEq, false_and] at h
  exact h.2.symm

/-- The effects of a follow-up. -/
theorem readerMove_followUpStep {pc' : WorkReaderPc}
    (h : followUpStep env c fence todo = (pc', c')) :
    ReaderMove env c (.followUp fence todo) pc' c' := by
  cases followUpStep_branch h with
  | done | unheard | signal => exact .quiet rfl (.refl _) (by simp [WorkReaderPc.pending?])
  -- the report is queued, or refused
  | reported hQueue =>
    obtain ⟨-, -, rfl⟩ | ⟨hFalse, -⟩ := Client.queueWorkLocked_cases hQueue
    · exact .report _ _
    · cases hFalse
  -- the retained result is queued again, or refused
  | replayed hQueue =>
    obtain ⟨-, -, rfl⟩ | ⟨hFalse, -⟩ := Client.queueWorkLocked_cases hQueue
    · exact .replay
    · cases hFalse
  | unreported hQueue | unreplayed hQueue =>
    obtain ⟨hTrue, -⟩ | ⟨-, -, hRefused⟩ := Client.queueWorkLocked_cases hQueue
    · cases hTrue
    · exact .quiet hRefused.core (.of_surround hRefused.surround)
        (by simp [WorkReaderPc.pending?, FollowUp.Nameless])
  -- the rejection is queued and retained in one section
  | answered hCommit =>
    obtain ⟨-, -, entry, hEntry, hLedger, rfl⟩ | ⟨hResult, -⟩ :=
      Client.commitTerminalFrame_cases hCommit
    · exact .commit hEntry hLedger
    · exact absurd rfl hResult
  | unanswered hCommit hResult =>
    obtain ⟨hCommitted, -⟩ | ⟨-, hRefused⟩ := Client.commitTerminalFrame_cases hCommit
    · exact absurd hCommitted hResult
    · exact .quiet hRefused.core (.of_surround hRefused.surround)
        (by simp [WorkReaderPc.pending?, FollowUp.Nameless])
  | notify => exact .quiet (by simp) (.notifySourceClosed _ _) (by simp [WorkReaderPc.pending?])

/-- Everything a step of the Work reader can do. -/
theorem workReaderStep_cases {pc pc' : WorkReaderPc} {input : ReaderInput WorkResponse}
    (h : workReaderStep env c pc input = some (pc', c')) : ReaderMove env c pc pc' c' := by
  cases workReaderStep_branch h with
  | opened => exact .quiet (by simp) (.log _) (by simp [WorkReaderPc.pending?])
  | stopping | awaitFrame | oversize | received | readFailed | badHeader | closed | ended
  | rejected | lost => exact .quiet rfl (.refl _) (by simp [WorkReaderPc.pending?])
  | goodHeader =>
    exact .quiet rfl (by constructor <;> simp [Client.workReceived])
      (by simp [WorkReaderPc.pending?])
  | handle hHandle => exact readerMove_handleWorkResponse hHandle
  | hostError hHandle =>
    rw [handleWorkResponse_terminal hHandle]
    exact .quiet rfl (.refl _) (by simp [WorkReaderPc.pending?])
  | followUp hFollow => exact readerMove_followUpStep hFollow
  -- the signals of a failure
  | unopened | signalSession | lastSignal =>
    exact .quiet (by simp) (.signalSessionFailure _ _) (by simp [WorkReaderPc.pending?])
  | terminal | lastTerminal =>
    exact .quiet (by simp) (.signalTerminalSessionFailure _ _) (by simp [WorkReaderPc.pending?])

end AdapterRuntime.Model
