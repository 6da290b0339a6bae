import AdapterRuntime.Proof.Acknowledgement

/-!
# AdapterRuntime — admission and commit take effect as a whole

`EnqueueDispatch`, `EnqueueSourceOpen`, `CommitTerminalFrame`,
`CommitSourceTerminalLocked` and `CloseSource` refuse in many places, before,
between and after updates. Each of their locked sections either takes its whole
effect on `Contents` or leaves them as they were. Sections of other threads may
run between the sections of one call, so every statement is about the client
the section starts from.

* `admission_atomic`, `sourceAdmission_atomic` — the admissions.
* `followUp_atomic` — what the reader still does for a call.
* `commit_atomic`, `sourceCommit_atomic`, `closeSource_atomic` — the commits.
* `all_or_nothing` — the law.
-/

namespace AdapterRuntime.Model

open AdapterRuntime.Lib

variable {env : Env} {c c' : Client} {job : DispatchJob} {frame : WorkFrame}

-- ---------------------------------------------------------------------------
-- Contents
-- ---------------------------------------------------------------------------

/-- What an admission or a commit changes: the tables with their two ledgers, and the
dispatch queue with its own. -/
structure Contents where
  tables : Tables
  dispatch : List DispatchJob
  dispatchBytes : Nat

/-- What a section either writes as a whole or leaves alone. -/
def Client.contents (c : Client) : Contents :=
  ⟨c.tables, c.queues.dispatch, c.queues.dispatchBytes⟩

/-- Nothing but statistics counters, and the supply of cancellation states, has
moved. -/
def Client.OnlyCounts (c c' : Client) : Prop :=
  ∃ dropped rejected next, c' = { c with
    queues := { c.queues with
      droppedOutboundFrames := dropped, rejectedDispatches := rejected }
    nextCancellation := next }

namespace Client.OnlyCounts

protected theorem refl (c : Client) : c.OnlyCounts c := ⟨_, _, _, rfl⟩

theorem of_refused (h : Client.Refused c c') : c.OnlyCounts c' := by
  obtain rfl | rfl := h
  · exact .refl c'
  · exact ⟨_, _, _, rfl⟩

/-- A section that only counts leaves the contents alone. -/
theorem contents (h : c.OnlyCounts c') : c'.contents = c.contents := by
  obtain ⟨_, _, _, rfl⟩ := h
  rfl

end Client.OnlyCounts

/-- Exactly this frame has been appended to the Work queue, with its bytes. -/
structure Client.Enqueues (env : Env) (c c' : Client) (frame : WorkFrame) : Prop where
  work : c'.queues.work = c.queues.work ++ [⟨frame, c.workFrameBytes env frame⟩]
  bytes : c'.queues.workBytes = c.queues.workBytes + c.workFrameBytes env frame

-- ---------------------------------------------------------------------------
-- Whole effects
-- ---------------------------------------------------------------------------

/-- A unary or operation job is admitted: its token is recorded under an unused identity and
the next cancellation state, the reservation `ReserveTerminalReplayLocked` computes and the
bytes of the job are charged, and the job is queued with both. -/
structure RecordsDispatch (env : Env) (c c' : Client) (job : DispatchJob) : Prop where
  unused : c.tables.workTokens.lookup job.workId = none
  effect : ∃ reservation, reserveTerminalReplay env c job = some reservation ∧ c'.contents =
    { tables := { c.tables with
        workTokens := c.tables.workTokens.insert job.workId ⟨c.nextCancellation, reservation⟩
        terminalReplayBytes := c.tables.terminalReplayBytes + reservation }
      dispatch := c.queues.dispatch ++ [{ job with
        cancellation := some c.nextCancellation, terminalReservationBytes := reservation }]
      dispatchBytes := c.queues.dispatchBytes + job.accountedBytes }
  work : c'.queues.work = c.queues.work

/-- A source open is admitted: under an unused identity and the next cancellation state the
source is recorded for the endpoint its context was validated for, with the charge
`SourceAccountedBytes` computes on both ledgers, and the job is queued. -/
structure RecordsSource (env : Env) (c c' : Client) (now : Int) (job : DispatchJob) : Prop where
  unused : c.tables.Unused job.workId
  effect : ∃ index endpoint bytes,
    freshSourceVerdict env c now job = .accept index endpoint bytes ∧
    sourceBudgetFits env c job = some bytes ∧ c'.contents =
      { tables := { c.tables with
          sourceStreams := c.tables.sourceStreams.insert job.workId
            (admittedSource c job index endpoint bytes)
          sourceStateBytes := c.tables.sourceStateBytes + bytes }
        dispatch := c.queues.dispatch ++ [{ job with
          cancellation := some c.nextCancellation
          connectionEpoch := c.session.connectionEpochCounter }]
        dispatchBytes := c.queues.dispatchBytes + job.accountedBytes }
  work : c'.queues.work = c.queues.work

/-- A terminal is committed: the frame is on the Work queue, the terminal retained,
and the token of the job, if it still has one, converted. -/
structure CommitsTerminal (env : Env) (c c' : Client) (job : DispatchJob) (frame : WorkFrame) :
    Prop where
  queued : c.Enqueues env c' frame
  unretained : c.tables.replay.lookup job.workId = none
  covered : (c.tables.convertedReservation job).getD 0 ≤ c.tables.terminalReplayBytes
  effect : ∃ entry, replayEntryOf env job frame (c.workFrameBytes env frame) = some entry ∧
    c'.contents = { c.contents with tables := { c.tables with
      replay := c.tables.replay.insert job.workId entry
      workTokens :=
        if (c.tables.convertedReservation job).isSome then c.tables.workTokens.erase job.workId
        else c.tables.workTokens
      terminalReplayBytes := c.tables.terminalReplayBytes -
        (c.tables.convertedReservation job).getD 0 + entry.accountedBytes } }

/-- A source terminal is committed: the frame is on the Work queue and the tombstone
retained, with the charge of the source. `before` is the client the charge has been
taken in. -/
structure CommitsSource (env : Env) (before c' : Client) (streamId : Text)
    (source : SourceState) (frame : WorkFrame) (sources : Store Text SourceState) : Prop where
  queued : before.Enqueues env c' frame
  effect : ∃ closed, closed.terminalFrame = frame ∧
    env.protobuf.terminalDigest frame = some closed.terminalDigest ∧
    closed.accountedBytes = source.accountedBytes ∧
    c'.contents = { before.contents with tables := { before.tables with
      sourceStreams := sources
      closedSources := before.tables.closedSources.insert streamId closed } }

-- ---------------------------------------------------------------------------
-- Commits
-- ---------------------------------------------------------------------------

/-- `CommitTerminalFrame`. -/
theorem commit_atomic {result : TerminalCommitResult}
    (h : c.commitTerminalFrame env job frame = (result, c')) :
    (result = .committed ∧ CommitsTerminal env c c' job frame) ∨
    (result ≠ .committed ∧ c.OnlyCounts c') := by
  obtain ⟨hResult, -, entry, hEntry, hAdmits, rfl⟩ | ⟨hResult, hRefused⟩ :=
    Client.commitTerminalFrame_cases h
  · have hUnretained := Client.ledgerAdmits_replay hAdmits
    have hCovered : (c.tables.convertedReservation job).getD 0 ≤ c.tables.terminalReplayBytes := by
      simp only [Client.ledgerAdmits, Bool.and_eq_true, decide_eq_true_eq] at hAdmits
      exact hAdmits.1.1.2
    refine .inl ⟨hResult, ⟨rfl, rfl⟩, hUnretained, hCovered, entry, hEntry, ?_⟩
    show Contents.mk (c.retainTerminal job entry) _ _ = _
    unfold Client.retainTerminal
    simp only
    cases hConverted : c.tables.convertedReservation job <;>
      simp [Tables.rememberReplay, hUnretained, Client.contents, Client.committed,
        Client.pushWork]
  · exact .inr ⟨hResult, .of_refused hRefused⟩

/-- `CommitSourceTerminalLocked`. -/
theorem sourceCommit_atomic {streamId : Text} {source : SourceState} {ok : Bool}
    (h : commitSourceTerminal env c streamId source frame = (ok, c')) :
    (ok = true ∧ CommitsSource env c c' streamId source frame c.tables.sourceStreams) ∨
    (ok = false ∧ c.OnlyCounts c') := by
  obtain ⟨hOk, -, -, digest, hDigest, rfl⟩ | ⟨hOk, hRefused⟩ :=
    Client.commitSourceTerminal_cases h
  · exact .inl ⟨hOk, ⟨rfl, rfl⟩, _, rfl, hDigest, rfl, rfl⟩
  · exact .inr ⟨hOk, .of_refused hRefused⟩

/-- `CloseSource`: the stream is erased in the section that commits its terminal. -/
theorem closeSource_atomic {streamId : Text} {error : Option AdapterError} {ok : Bool}
    (h : closeSource env c streamId error = (ok, c')) :
    (ok = true ∧ ∃ source, c.tables.sourceStreams.lookup streamId = some source ∧
      CommitsSource env c c' streamId source
        (.sourceClose { streamId, finalSequence := source.sequence, error })
        (c.tables.sourceStreams.erase streamId)) ∨
    (ok = false ∧ c.OnlyCounts c') := by
  have hCases := closeSource_cases h
  obtain ⟨hOk, source, digest, hActive, -, -, hEq⟩ | ⟨hOk, hRefused⟩ := hCases
  · -- the digest the tombstone keeps is the one of the frame it queued
    refine .inl ⟨hOk, source, hActive, ?_⟩
    unfold closeSource at h
    simp only [hActive] at h
    split at h
    · cases h
      cases hOk
    · split at h
      · cases h
        cases hOk
      · rename_i c₁ hCommit
        cases h
        obtain ⟨-, hQueued, closed, hFrame, hDigest, hCharge, hContents⟩ | ⟨hFalse, -⟩ :=
          sourceCommit_atomic hCommit
        · refine ⟨⟨hQueued.work, hQueued.bytes⟩, closed, hFrame, hDigest, hCharge, ?_⟩
          simp only [Client.contents, Contents.mk.injEq] at hContents
          obtain ⟨hTables, hDispatch, hBytes⟩ := hContents
          simp [Client.contents, Client.eraseSource, hTables, hDispatch, hBytes]
        · cases hFalse
  · exact .inr ⟨hOk, .of_refused hRefused⟩

-- ---------------------------------------------------------------------------
-- Admissions
-- ---------------------------------------------------------------------------

/-- The locked section of `EnqueueDispatch`. -/
theorem admission_atomic {now : Int} {todo : FollowUp}
    (h : enqueueDispatch env c now job = (todo, c')) :
    (todo = .done ∧ RecordsDispatch env c c' job) ∨ (todo ≠ .done ∧ c.OnlyCounts c') := by
  unfold enqueueDispatch at h
  split at h <;> rename_i hVerdict <;> simp only [Prod.mk.injEq] at h <;>
    obtain ⟨rfl, rfl⟩ := h
  · exact .inr ⟨by simp, _, _, _, rfl⟩
  · exact .inr ⟨by simp, _, _, _, rfl⟩
  · exact .inr ⟨by simp, _, _, _, rfl⟩
  · exact .inr ⟨by simp, .refl _⟩
  · obtain ⟨-, -, -, -, hUnused, -, hReserve⟩ := dispatchVerdict_accept hVerdict
    exact .inl ⟨rfl, hUnused, ⟨_, hReserve, rfl⟩, rfl⟩

/-- The locked section of `EnqueueSourceOpen`: an admission, or an immediate rejection
that is charged and retained, or nothing. -/
theorem sourceAdmission_atomic {now : Int} {todo : FollowUp}
    (h : enqueueSourceOpen env c now job = (todo, c')) :
    (todo = .done ∧ RecordsSource env c c' now job) ∨
    (todo = .done ∧ c.tables.Unused job.workId ∧ ∃ error bytes,
      freshSourceVerdict env c now job = .reject error ∧
      sourceBudgetFits env c job = some bytes ∧
      CommitsSource env (c.countRejected.charged bytes) c' job.workId (rejectedSource c job bytes)
        (sourceOpenRejected job.workId error) c.tables.sourceStreams) ∨
    (todo ≠ .done ∧ c.OnlyCounts c') := by
  unfold enqueueSourceOpen at h
  split at h <;> rename_i hVerdict
  · cases h
    exact .inr (.inr ⟨by simp, .refl _⟩)
  · cases h
    exact .inr (.inr ⟨by simp, _, _, _, rfl⟩)
  · obtain ⟨-, hUnused, -, hFresh⟩ := sourceOpenVerdict_fresh hVerdict (by simp) (by simp)
    unfold Client.rejectSource at h
    split at h
    · cases h
      exact .inr (.inr ⟨by simp [retireForSource], _, _, _, rfl⟩)
    · split at h
      · cases h
        exact .inr (.inr ⟨by simp [retireForSource], _, _, _, rfl⟩)
      · rename_i bytes hFits
        simp only at h
        split at h <;> rename_i c₁ hCommit <;> cases h
        · obtain ⟨-, hCommits⟩ | ⟨hFalse, -⟩ := sourceCommit_atomic hCommit
          · exact .inr (.inl ⟨rfl, hUnused, _, bytes, hFresh, hFits, hCommits⟩)
          · cases hFalse
        · -- the charge is rolled back
          obtain ⟨hTrue, -⟩ | ⟨-, dropped, rejected, next, rfl⟩ := sourceCommit_atomic hCommit
          · cases hTrue
          · refine .inr (.inr ⟨by simp [retireForSource], dropped, rejected, next, ?_⟩)
            simp [Client.countRejected]
  · cases h
    exact .inr (.inr ⟨by simp [retireForSource], .refl _⟩)
  · cases h
    obtain ⟨-, hUnused, -, hFresh⟩ := sourceOpenVerdict_fresh hVerdict (by simp) (by simp)
    exact .inl ⟨rfl, hUnused,
      ⟨_, _, _, hFresh, (freshSourceVerdict_room hFresh).budget, rfl⟩, rfl⟩

-- ---------------------------------------------------------------------------
-- What the reader still does for a call
-- ---------------------------------------------------------------------------

/-- A frame that answers a call outside its section: queued alone, or refused and the
pair about to be failed. -/
theorem queueWork_atomic {owner : Option CancellationId} {ok : Bool}
    (h : c.queueWorkLocked env owner frame = (ok, c')) :
    (ok = true ∧ c.Enqueues env c' frame ∧ c'.contents = c.contents) ∨
    (ok = false ∧ c.OnlyCounts c') := by
  obtain ⟨hOk, -, rfl⟩ | ⟨hOk, -, hRefused⟩ := Client.queueWorkLocked_cases h
  · exact .inl ⟨hOk, ⟨rfl, rfl⟩, rfl⟩
  · exact .inr ⟨hOk, .of_refused hRefused⟩

/-- Signalling a failure of the pair leaves the contents alone. -/
theorem contents_signalSessionFailure (session reason : Text) :
    (c.signalSessionFailure session reason).contents = c.contents ∧
      (c.signalSessionFailure session reason).queues.work = c.queues.work := by
  unfold Client.signalSessionFailure
  split <;> exact ⟨rfl, rfl⟩

/-- The section of the reader that carries a call on. It answers with one frame, or
commits the immediate terminal as a whole, and the call is over; or nothing moves and
the pair is about to be failed. -/
theorem followUp_atomic {fence : SessionFence} {todo : FollowUp} {pc' : WorkReaderPc}
    (hTodo : ∀ source error, todo ≠ .notifySourceClosed source error)
    (h : followUpStep env c fence todo = (pc', c')) :
    (pc' = .reading fence ∧ c'.contents = c.contents ∧ ∃ frame, c.Enqueues env c' frame ∧
      ((∃ sequence message, todo = .protocolError sequence message ∧
          frame = protocolErrorFrame sequence message) ∨
        ∃ reason, todo = .queueReplay frame reason)) ∨
    (pc' = .reading fence ∧ ∃ job frame, todo = .commitImmediate job frame ∧
      CommitsTerminal env c c' job frame) ∨
    (c.OnlyCounts c' ∧ (pc' = .reading fence ∨
      (∃ reason, pc' = .followUp fence (.signalFailure reason)) ∨
      ∃ session reason, pc' = .signalSession fence session reason)) := by
  cases followUpStep_branch h with
  | notify => exact absurd rfl (hTodo _ _)
  | done | unheard => exact .inr (.inr ⟨.refl _, .inl rfl⟩)
  | signal => exact .inr (.inr ⟨.refl _, .inr (.inr ⟨_, _, rfl⟩)⟩)
  -- the frame is on the queue, or the pair is about to be failed
  | reported hQueue =>
    obtain ⟨-, hEnqueues, hSame⟩ | ⟨hFalse, -⟩ := queueWork_atomic hQueue
    · exact .inl ⟨rfl, hSame, _, hEnqueues, .inl ⟨_, _, rfl, rfl⟩⟩
    · cases hFalse
  | replayed hQueue =>
    obtain ⟨-, hEnqueues, hSame⟩ | ⟨hFalse, -⟩ := queueWork_atomic hQueue
    · exact .inl ⟨rfl, hSame, _, hEnqueues, .inr ⟨_, rfl⟩⟩
    · cases hFalse
  | unreported hQueue | unreplayed hQueue =>
    obtain ⟨hTrue, -⟩ | ⟨-, hCounts⟩ := queueWork_atomic hQueue
    · cases hTrue
    · exact .inr (.inr ⟨hCounts, .inr (.inl ⟨_, rfl⟩)⟩)
  | @answered job frame _ hCommit =>
    obtain ⟨-, hCommits⟩ | ⟨hResult, -⟩ := commit_atomic hCommit
    · exact .inr (.inl ⟨rfl, job, frame, rfl, hCommits⟩)
    · exact absurd rfl hResult
  | unanswered hCommit hResult =>
    obtain ⟨hCommitted, -⟩ | ⟨-, hCounts⟩ := commit_atomic hCommit
    · exact absurd hCommitted hResult
    · exact .inr (.inr ⟨hCounts, .inr (.inl ⟨_, rfl⟩)⟩)

/-- A call of `EnqueueDispatch` or `EnqueueSourceOpen` never notifies a source. -/
theorem admission_todo {now : Int} {todo : FollowUp}
    (h : enqueueDispatch env c now job = (todo, c') ∨
      enqueueSourceOpen env c now job = (todo, c')) (source : SourceState)
    (error : AdapterError) : todo ≠ .notifySourceClosed source error := by
  obtain h | h := h
  · unfold enqueueDispatch at h
    split at h <;> cases h <;> simp
  · unfold enqueueSourceOpen at h
    split at h <;> first | (cases h; simp [retireForSource]) | skip
    unfold Client.rejectSource at h
    split at h
    · cases h
      simp [retireForSource]
    · split at h
      · cases h
        simp [retireForSource]
      · simp only at h
        split at h <;> cases h <;> simp [retireForSource]

-- ---------------------------------------------------------------------------
-- The law
-- ---------------------------------------------------------------------------

/-- What a call of an admission does after the section that decided it, from whatever
client its follow-ups find. -/
def FollowsAtomically (env : Env) (todo : FollowUp) : Prop :=
  (∀ (c c' : Client) (fence : SessionFence) (pc' : WorkReaderPc),
    followUpStep env c fence todo = (pc', c') →
    (pc' = .reading fence ∧ c'.contents = c.contents ∧ ∃ frame, c.Enqueues env c' frame ∧
      ((∃ sequence message, todo = .protocolError sequence message ∧
          frame = protocolErrorFrame sequence message) ∨
        ∃ reason, todo = .queueReplay frame reason)) ∨
    (pc' = .reading fence ∧ ∃ job frame, todo = .commitImmediate job frame ∧
      CommitsTerminal env c c' job frame) ∨
    (c.OnlyCounts c' ∧ (pc' = .reading fence ∨
      (∃ reason, pc' = .followUp fence (.signalFailure reason)) ∨
      ∃ session reason, pc' = .signalSession fence session reason))) ∧
  ∀ (c : Client) (session reason : Text),
    (c.signalSessionFailure session reason).contents = c.contents ∧
      (c.signalSessionFailure session reason).queues.work = c.queues.work

/-- From every client and for every input, the five operations take their whole effect
or leave the contents as they were, with at most one answer queued, counters moved or
the pair failed. -/
theorem all_or_nothing (env : Env) (c : Client) :
    (∀ now job todo c', enqueueDispatch env c now job = (todo, c') →
      ((todo = .done ∧ RecordsDispatch env c c' job) ∨ (todo ≠ .done ∧ c.OnlyCounts c')) ∧
      FollowsAtomically env todo) ∧
    (∀ now job todo c', enqueueSourceOpen env c now job = (todo, c') →
      ((todo = .done ∧ RecordsSource env c c' now job) ∨
        (todo = .done ∧ c.tables.Unused job.workId ∧ ∃ error bytes,
          freshSourceVerdict env c now job = .reject error ∧
          sourceBudgetFits env c job = some bytes ∧
          CommitsSource env (c.countRejected.charged bytes) c' job.workId
            (rejectedSource c job bytes) (sourceOpenRejected job.workId error)
            c.tables.sourceStreams) ∨
        (todo ≠ .done ∧ c.OnlyCounts c')) ∧
      FollowsAtomically env todo) ∧
    (∀ job frame result c', c.commitTerminalFrame env job frame = (result, c') →
      (result = .committed ∧ CommitsTerminal env c c' job frame) ∨
      (result ≠ .committed ∧ c.OnlyCounts c')) ∧
    (∀ streamId source frame ok c',
      commitSourceTerminal env c streamId source frame = (ok, c') →
      (ok = true ∧ CommitsSource env c c' streamId source frame c.tables.sourceStreams) ∨
      (ok = false ∧ c.OnlyCounts c')) ∧
    (∀ streamId error ok c', closeSource env c streamId error = (ok, c') →
      (ok = true ∧ ∃ source, c.tables.sourceStreams.lookup streamId = some source ∧
        CommitsSource env c c' streamId source
          (.sourceClose { streamId, finalSequence := source.sequence, error })
          (c.tables.sourceStreams.erase streamId)) ∨
      (ok = false ∧ c.OnlyCounts c')) ∧
    ∀ c', c.OnlyCounts c' → c'.contents = c.contents ∧ c'.queues.work = c.queues.work ∧
      c'.flags = c.flags := by
  refine ⟨?_, ?_, fun _ _ _ _ h => commit_atomic h, fun _ _ _ _ _ h => sourceCommit_atomic h,
    fun _ _ _ _ h => closeSource_atomic h, ?_⟩
  · intro now job todo c' h
    refine ⟨admission_atomic h, ?_, fun c => contents_signalSessionFailure⟩
    intro c₁ c₂ fence pc' hStep
    exact followUp_atomic (admission_todo (.inl h)) hStep
  · intro now job todo c' h
    refine ⟨sourceAdmission_atomic h, ?_, fun c => contents_signalSessionFailure⟩
    intro c₁ c₂ fence pc' hStep
    exact followUp_atomic (admission_todo (.inr h)) hStep
  · rintro c' ⟨dropped, rejected, next, rfl⟩
    exact ⟨rfl, rfl, rfl⟩

end AdapterRuntime.Model
