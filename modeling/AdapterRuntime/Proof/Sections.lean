import AdapterRuntime.Proof.Frames

/-!
# AdapterRuntime — what the Work-plane sections do

One lemma per locked section of the Work plane, saying everything its outcome
can be. Every such section leaves the lifecycle flags, the session, the spec
and the Control queue alone; `Client.surround` collects those.

* `queueWorkLocked_cases`, `commitTerminalFrame_cases`,
  `commitSourceTerminal_cases` — the queueing primitives.
* `dispatchVerdict_*`, `sourceOpenVerdict_*` — what an admission has checked.
-/

namespace AdapterRuntime.Model

open AdapterRuntime.Lib

/-- The members the Work-plane sections leave alone. -/
structure Surround where
  flags : Flags
  session : Session
  spec : SpecState
  control : List QueuedControlFrame
  inFlightWork : Nat
  activeDispatchJobs : Nat
  transitionLocked : Bool
  trace : List LifecycleEvent
  requested : CancellationId → Bool

/-- What the Work plane leaves to the other threads. -/
def Client.surround (c : Client) : Surround where
  flags := c.flags
  session := c.session
  spec := c.spec
  control := c.queues.control
  inFlightWork := c.queues.inFlightWork
  activeDispatchJobs := c.queues.activeDispatchJobs
  transitionLocked := c.transitionLocked
  trace := c.trace
  requested := c.requested

namespace Client

variable {env : Env} {c c' : Client} {owner : Option CancellationId} {frame : WorkFrame}

-- ---------------------------------------------------------------------------
-- Queueing a Work frame
-- ---------------------------------------------------------------------------

/-- `QueueWorkLocked` admits the frame: the session is live, the queue has room
and the frame is within the negotiated limit. -/
def workAdmits (env : Env) (c : Client) (frame : WorkFrame) : Bool :=
  !c.sessionClosed && !c.workQueueFull env (c.workFrameBytes env frame) &&
    c.workFrameBytes env frame ≤ c.session.maximumWorkFrameBytes

/-- The client after `frame` has been queued. -/
def queued (env : Env) (c : Client) (owner : Option CancellationId) (frame : WorkFrame) : Client :=
  c.pushWork owner frame (c.workFrameBytes env frame)

/-- A refusal changes at most the drop counter. -/
def Refused (c c' : Client) : Prop := c' = c ∨ c' = c.countDropped

/-- A refused frame leaves the Work plane alone. -/
theorem Refused.core (h : Refused c c') : c'.core = c.core := by
  rcases h with rfl | rfl <;> rfl

/-- It leaves the rest of the client alone too. -/
theorem Refused.surround (h : Refused c c') : c'.surround = c.surround := by
  rcases h with rfl | rfl <;> rfl

/-- It is not queued, and cancels nothing. -/
theorem Refused.work (h : Refused c c') :
    c'.queues.work = c.queues.work ∧ c'.requested = c.requested := by
  rcases h with rfl | rfl <;> exact ⟨rfl, rfl⟩

/-- A frame that is admitted is queued. -/
theorem queueWorkLocked_of_admits (h : c.workAdmits env frame = true) :
    c.queueWorkLocked env owner frame = (true, c.queued env owner frame) := by
  simp only [workAdmits, Bool.and_eq_true, Bool.not_eq_true', decide_eq_true_eq] at h
  obtain ⟨⟨hOpen, hRoom⟩, hLimit⟩ := h
  simp [queueWorkLocked, queued, hOpen, hRoom, Nat.not_lt.mpr hLimit]

/-- A frame that is not admitted is refused. -/
theorem queueWorkLocked_of_refuses (owner : Option CancellationId)
    (h : c.workAdmits env frame = false) :
    ∃ c', c.queueWorkLocked env owner frame = (false, c') ∧ Refused c c' := by
  have hTest : (c.sessionClosed || c.workQueueFull env (c.workFrameBytes env frame) ||
      decide (c.session.maximumWorkFrameBytes < c.workFrameBytes env frame)) = true := by
    by_contra hNot
    simp only [Bool.not_eq_true, Bool.or_eq_false_iff, decide_eq_false_iff_not, not_lt] at hNot
    simp [workAdmits, hNot.1.1, hNot.1.2, hNot.2] at h
  refine ⟨_, by simp only [queueWorkLocked, hTest, if_true]; rfl, ?_⟩
  unfold Refused
  split
  · exact .inr rfl
  · exact .inl rfl

/-- `QueueWorkLocked`: the frame is queued, or refused. -/
theorem queueWorkLocked_cases {ok : Bool} (h : c.queueWorkLocked env owner frame = (ok, c')) :
    (ok = true ∧ c.workAdmits env frame = true ∧ c' = c.queued env owner frame) ∨
    (ok = false ∧ c.workAdmits env frame = false ∧ Refused c c') := by
  cases hAdmit : c.workAdmits env frame with
  | true =>
    rw [queueWorkLocked_of_admits hAdmit, Prod.mk.injEq] at h
    exact .inl ⟨h.1.symm, rfl, h.2.symm⟩
  | false =>
    obtain ⟨c₁, hEq, hRefused⟩ := queueWorkLocked_of_refuses owner hAdmit
    rw [hEq, Prod.mk.injEq] at h
    exact .inr ⟨h.1.symm, rfl, h.2 ▸ hRefused⟩

@[simp] theorem surround_queued : (c.queued env owner frame).surround = c.surround := rfl

@[simp] theorem tables_queued : (c.queued env owner frame).tables = c.tables := rfl

@[simp] theorem history_queued :
    (c.queued env owner frame).history = .enqueued owner frame :: c.history := rfl

@[simp] theorem dispatch_queued :
    (c.queued env owner frame).queues.dispatch = c.queues.dispatch := rfl

@[simp] theorem nextCancellation_queued :
    (c.queued env owner frame).nextCancellation = c.nextCancellation := rfl

@[simp] theorem requested_queued : (c.queued env owner frame).requested = c.requested := rfl

@[simp] theorem work_queued : (c.queued env owner frame).queues.work =
    c.queues.work ++ [⟨frame, c.workFrameBytes env frame⟩] := rfl

@[simp] theorem surround_setSource (streamId : Text) (source : SourceState) :
    (c.setSource streamId source).surround = c.surround := rfl

@[simp] theorem surround_eraseSource (streamId : Text) :
    (c.eraseSource streamId).surround = c.surround := rfl

@[simp] theorem surround_rememberClosedSource (streamId : Text) (source : SourceState)
    (terminal : WorkFrame) (digest : Text) :
    (c.rememberClosedSource streamId source terminal digest).surround = c.surround := rfl

@[simp] theorem surround_countRejected : c.countRejected.surround = c.surround := rfl

@[simp] theorem surround_countDropped : c.countDropped.surround = c.surround := rfl

@[simp] theorem surround_releaseWorkToken (workId : Text) :
    (c.releaseWorkToken workId).surround = c.surround := rfl

@[simp] theorem surround_recordStarted (job : DispatchJob) :
    (c.recordStarted job).surround = c.surround := by
  unfold recordStarted
  split <;> rfl

@[simp] theorem surround_recordReturned (result : HandlerResult) (job : DispatchJob) :
    (c.recordReturned result job).surround = c.surround := by
  unfold recordReturned
  split <;> rfl

-- ---------------------------------------------------------------------------
-- Committing a terminal
-- ---------------------------------------------------------------------------

/-- The client after a terminal has been committed. -/
def committed (env : Env) (c : Client) (job : DispatchJob) (frame : WorkFrame)
    (entry : ReplayEntry) : Client :=
  { c with
    tables := c.retainTerminal job entry
    history := .retained job.cancellation job.workId :: c.history }.pushWork
      job.cancellation frame (c.workFrameBytes env frame)

/-- `CommitTerminalFrame`: the terminal is retained and queued, or the client is as before. -/
theorem commitTerminalFrame_cases {job : DispatchJob} {result : TerminalCommitResult}
    (h : c.commitTerminalFrame env job frame = (result, c')) :
    (result = .committed ∧ c.workAdmits env frame = true ∧
      ∃ entry, replayEntryOf env job frame (c.workFrameBytes env frame) = some entry ∧
        c.ledgerAdmits env job entry = true ∧ c' = c.committed env job frame entry) ∨
    (result ≠ .committed ∧ Refused c c') := by
  unfold commitTerminalFrame at h
  simp only at h
  split at h
  · simp only [Prod.mk.injEq] at h
    exact .inr ⟨by simp [← h.1], .inl h.2.symm⟩
  · rename_i hLimit
    split at h
    · simp only [Prod.mk.injEq] at h
      refine .inr ⟨by simp [← h.1], ?_⟩
      rw [← h.2]
      unfold Refused
      split
      · exact .inr rfl
      · exact .inl rfl
    · rename_i hOpen
      simp only [Bool.or_eq_true, not_or, Bool.not_eq_true] at hOpen
      split at h
      · simp only [Prod.mk.injEq] at h
        exact .inr ⟨by simp [← h.1], .inl h.2.symm⟩
      · rename_i entry hEntry
        split at h
        · rename_i hLedger
          simp only [Prod.mk.injEq] at h
          refine .inl ⟨h.1.symm, ?_, entry, hEntry, hLedger, h.2.symm⟩
          simp [workAdmits, hOpen.1, hOpen.2, Nat.not_lt.mp hLimit]
        · simp only [Prod.mk.injEq] at h
          exact .inr ⟨by simp [← h.1], .inl h.2.symm⟩

/-- A terminal that passes both checks is committed. -/
theorem commitTerminalFrame_of_admits {job : DispatchJob} {entry : ReplayEntry}
    (hAdmits : c.workAdmits env frame = true)
    (hEntry : replayEntryOf env job frame (c.workFrameBytes env frame) = some entry)
    (hLedger : c.ledgerAdmits env job entry = true) :
    c.commitTerminalFrame env job frame = (.committed, c.committed env job frame entry) := by
  simp only [workAdmits, Bool.and_eq_true, Bool.not_eq_true', decide_eq_true_eq] at hAdmits
  obtain ⟨⟨hOpen, hRoom⟩, hLimit⟩ := hAdmits
  simp [commitTerminalFrame, hOpen, hRoom, Nat.not_lt.mpr hLimit, hEntry, hLedger, committed]

@[simp] theorem surround_committed (job : DispatchJob) (entry : ReplayEntry) :
    (c.committed env job frame entry).surround = c.surround := rfl

@[simp] theorem dispatch_committed (job : DispatchJob) (entry : ReplayEntry) :
    (c.committed env job frame entry).queues.dispatch = c.queues.dispatch := rfl

@[simp] theorem nextCancellation_committed (job : DispatchJob) (entry : ReplayEntry) :
    (c.committed env job frame entry).nextCancellation = c.nextCancellation := rfl

@[simp] theorem requested_committed (job : DispatchJob) (entry : ReplayEntry) :
    (c.committed env job frame entry).requested = c.requested := rfl

@[simp] theorem tables_committed (job : DispatchJob) (entry : ReplayEntry) :
    (c.committed env job frame entry).tables = c.retainTerminal job entry := rfl

@[simp] theorem history_committed (job : DispatchJob) (entry : ReplayEntry) :
    (c.committed env job frame entry).history =
      .enqueued job.cancellation frame :: .retained job.cancellation job.workId :: c.history :=
  rfl

@[simp] theorem retainTerminal_replay (job : DispatchJob) (entry : ReplayEntry) :
    (c.retainTerminal job entry).replay = c.tables.replay.insert job.workId entry := by
  unfold retainTerminal
  simp only
  split <;> rfl

@[simp] theorem retainTerminal_sourceStreams (job : DispatchJob) (entry : ReplayEntry) :
    (c.retainTerminal job entry).sourceStreams = c.tables.sourceStreams := by
  unfold retainTerminal
  simp only
  split <;> rfl

@[simp] theorem retainTerminal_closedSources (job : DispatchJob) (entry : ReplayEntry) :
    (c.retainTerminal job entry).closedSources = c.tables.closedSources := by
  unfold retainTerminal
  simp only
  split <;> rfl

@[simp] theorem retainTerminal_sourceStateBytes (job : DispatchJob) (entry : ReplayEntry) :
    (c.retainTerminal job entry).sourceStateBytes = c.tables.sourceStateBytes := by
  unfold retainTerminal
  simp only
  split <;> rfl

/-- Retaining a terminal erases the token of its job, if the job still holds it. -/
theorem retainTerminal_workTokens (job : DispatchJob) (entry : ReplayEntry) :
    (c.retainTerminal job entry).workTokens =
      if (c.tables.convertedReservation job).isSome then c.tables.workTokens.erase job.workId
      else c.tables.workTokens := by
  unfold retainTerminal
  simp only
  split
  · rename_i hConv
    simp [hConv, Tables.rememberReplay]
  · rename_i hConv
    simp [hConv, Tables.rememberReplay]

/-- The ledger admits a terminal only for an identity that retains none. -/
theorem ledgerAdmits_replay {job : DispatchJob} {entry : ReplayEntry}
    (h : c.ledgerAdmits env job entry = true) : c.tables.replay.lookup job.workId = none := by
  simp only [ledgerAdmits, Bool.and_eq_true, Option.isNone_iff_eq_none] at h
  exact h.1.1.1

-- ---------------------------------------------------------------------------
-- Committing a source terminal
-- ---------------------------------------------------------------------------

/-- The client after a source terminal has been committed. -/
def sourceCommitted (env : Env) (c : Client) (streamId : Text) (source : SourceState)
    (frame : WorkFrame) (digest : Text) : Client :=
  (c.queued env (some source.cancellation) frame).rememberClosedSource streamId source frame digest

/-- `CommitSourceTerminal`: the tombstone and its frame are made together, or the client is
as before. -/
theorem commitSourceTerminal_cases {streamId : Text} {source : SourceState} {ok : Bool}
    (h : commitSourceTerminal env c streamId source frame = (ok, c')) :
    (ok = true ∧ streamId ≠ [] ∧ c.workAdmits env frame = true ∧
      ∃ digest, env.protobuf.terminalDigest frame = some digest ∧
        c' = c.sourceCommitted env streamId source frame digest) ∨
    (ok = false ∧ Refused c c') := by
  unfold commitSourceTerminal at h
  split at h
  · simp only [Prod.mk.injEq] at h
    exact .inr ⟨h.1.symm, .inl h.2.symm⟩
  · rename_i hId
    simp only [Bool.or_eq_true, not_or, List.isEmpty_iff] at hId
    split at h
    · simp only [Prod.mk.injEq] at h
      exact .inr ⟨h.1.symm, .inl h.2.symm⟩
    · rename_i digest hDigest
      split at h
      · simp only [Prod.mk.injEq] at h
        exact .inr ⟨h.1.symm, .inl h.2.symm⟩
      · split at h
        · rename_i hQueue
          simp only [Prod.mk.injEq] at h
          obtain ⟨hFalse, -, -⟩ | ⟨-, -, hRefused⟩ := queueWorkLocked_cases hQueue
          · simp at hFalse
          · exact .inr ⟨h.1.symm, h.2 ▸ hRefused⟩
        · rename_i hQueue
          simp only [Prod.mk.injEq] at h
          obtain ⟨-, hAdmits, hEq⟩ | ⟨hTrue, -, -⟩ := queueWorkLocked_cases hQueue
          · exact .inl ⟨h.1.symm, hId.1, hAdmits, digest, hDigest, by rw [← h.2, hEq]; rfl⟩
          · simp at hTrue

@[simp] theorem surround_sourceCommitted (streamId : Text) (source : SourceState)
    (digest : Text) :
    (c.sourceCommitted env streamId source frame digest).surround = c.surround := rfl

end Client

-- ---------------------------------------------------------------------------
-- Sections that only move towards rest
-- ---------------------------------------------------------------------------

/-- The section keeps the identity of the pair, the spec and the attach gate,
never takes back a failure or a stop, and never opens the client for Work. -/
structure Client.Subsides (c c' : Client) : Prop where
  spec : c'.spec = c.spec
  sessionId : c'.session.sessionId = c.session.sessionId
  epoch : c'.session.connectionEpochCounter = c.session.connectionEpochCounter
  frameLimit : c'.session.maximumWorkFrameBytes = c.session.maximumWorkFrameBytes
  failed : c.flags.sessionFailed = true → c'.flags.sessionFailed = true
  stopped : c.flags.stopRequested = true → c'.flags.stopRequested = true
  accepting : c'.flags.acceptingWork = true → c.flags.acceptingWork = true
  ready : c'.flags.state = .ready → c.flags.state = .ready
  gate : c'.flags.workAttachAllowed = c.flags.workAttachAllowed
  gateEpoch : c'.flags.workAttachConnectionEpoch = c.flags.workAttachConnectionEpoch
  halted : (c.flags.stopRequested = true → c.flags.acceptingWork = false) →
    c'.flags.stopRequested = true → c'.flags.acceptingWork = false
  attempted : c'.flags.registrationAttempted = c.flags.registrationAttempted
  active : c'.queues.activeDispatchJobs = c.queues.activeDispatchJobs
  draining : c.flags.drainRequested = true → c'.flags.drainRequested = true
  reported : c.flags.drainReported = true → c'.flags.drainReported = true
  terminal : c.flags.terminalSessionFailure = true → c'.flags.terminalSessionFailure = true
  doomed : (c.flags.terminalSessionFailure = true → c.flags.sessionFailed = true) →
    c'.flags.terminalSessionFailure = true → c'.flags.sessionFailed = true
  flight : c'.queues.inFlightWork = c.queues.inFlightWork
  requested : ∀ id, c.requested id = true → c'.requested id = true

/-- The client with another value of `in_flight_work_`. -/
def Client.withFlight (c : Client) (n : Nat) : Client :=
  { c with queues := { c.queues with inFlightWork := n } }

namespace Client.Subsides

variable {c c' c'' : Client}

theorem of_surround (h : c'.surround = c.surround) : c.Subsides c' := by
  have hFlags : c'.flags = c.flags := congrArg Surround.flags h
  have hSession : c'.session = c.session := congrArg Surround.session h
  have hSpec : c'.spec = c.spec := congrArg Surround.spec h
  have hActive : c'.queues.activeDispatchJobs = c.queues.activeDispatchJobs :=
    congrArg Surround.activeDispatchJobs h
  have hFlight : c'.queues.inFlightWork = c.queues.inFlightWork :=
    congrArg Surround.inFlightWork h
  have hRequested : c'.requested = c.requested := congrArg Surround.requested h
  constructor <;> simp [hFlags, hSession, hSpec, hActive, hFlight, hRequested]

/-- A client as it was. -/
protected theorem refl (c : Client) : c.Subsides c := of_surround rfl

/-- Winding down goes on. -/
theorem trans (h : c.Subsides c') (h' : c'.Subsides c'') : c.Subsides c'' where
  spec := h'.spec.trans h.spec
  sessionId := h'.sessionId.trans h.sessionId
  epoch := h'.epoch.trans h.epoch
  frameLimit := h'.frameLimit.trans h.frameLimit
  failed hF := h'.failed (h.failed hF)
  stopped hS := h'.stopped (h.stopped hS)
  accepting hA := h.accepting (h'.accepting hA)
  ready hR := h.ready (h'.ready hR)
  gate := h'.gate.trans h.gate
  gateEpoch := h'.gateEpoch.trans h.gateEpoch
  halted hH := h'.halted (h.halted hH)
  attempted := h'.attempted.trans h.attempted
  active := h'.active.trans h.active
  draining hD := h'.draining (h.draining hD)
  reported hR := h'.reported (h.reported hR)
  terminal hT := h'.terminal (h.terminal hT)
  doomed hD := h'.doomed (h.doomed hD)
  flight := h'.flight.trans h.flight
  requested id hR := h'.requested id (h.requested id hR)

theorem withFlight (h : c.Subsides c') : (c.withFlight c'.queues.inFlightWork).Subsides c' := by
  rw [h.flight]
  exact h

theorem cancelAllWork : c.Subsides c.cancelAllWork := by
  constructor <;> simp +contextual [Client.cancelAllWork]

theorem request (id : CancellationId) : c.Subsides (c.request id) := by
  constructor <;> simp +contextual [Client.request]

theorem signalSessionFailure (session reason : Text) :
    c.Subsides (c.signalSessionFailure session reason) := by
  unfold Client.signalSessionFailure
  split
  · exact .refl c
  · refine .trans ?_ cancelAllWork
    constructor <;> simp

theorem signalTerminalSessionFailure (session reason : Text) :
    c.Subsides (c.signalTerminalSessionFailure session reason) := by
  unfold Client.signalTerminalSessionFailure
  split
  · exact .refl c
  · refine .trans ?_ cancelAllWork
    constructor <;> simp

theorem log (event : LifecycleEvent) : c.Subsides (c.log event) := by
  constructor <;> simp [Client.log]

theorem notifySourceClosed {env : Env} (source : SourceState) (error : AdapterError) :
    c.Subsides (c.notifySourceClosed env source error) := by
  unfold Client.notifySourceClosed
  split
  · exact log _
  · exact .refl c

theorem callStop (c : Client) (env : Env) (binding : Nat) : c.Subsides (c.callStop env binding) := by
  unfold Client.callStop
  split
  · exact log _
  · exact .refl c

theorem callClear (c : Client) (env : Env) : c.Subsides (c.callClear env) := by
  unfold Client.callClear
  split
  · exact log _
  · exact .refl c

theorem queueControlLocked {env : Env} (frame : ControlFrame) :
    c.Subsides (c.queueControlLocked env frame).2 := by
  unfold Client.queueControlLocked
  simp only
  split
  · split
    · constructor <;> simp [Client.countDropped]
    · exact .refl c
  · constructor <;> simp

theorem maybeQueueDrainStatus (c : Client) (env : Env) : c.Subsides (c.maybeQueueDrainStatus env) := by
  have hQueue : c.Subsides (c.queueControlLocked env (.drainStatus true 0)).2 :=
    queueControlLocked _
  unfold Client.maybeQueueDrainStatus
  split
  · exact .refl c
  · split
    · rename_i c₁ hEq
      rw [hEq] at hQueue
      refine hQueue.trans ?_
      constructor <;> simp
    · rename_i c₁ hEq
      rw [hEq] at hQueue
      refine hQueue.trans (.trans ?_ cancelAllWork)
      constructor <;> simp

theorem beginDrain {env : Env} : c.Subsides (c.beginDrain env) := by
  unfold Client.beginDrain
  refine .trans ?_ (maybeQueueDrainStatus _ _)
  constructor <;> simp
  intro hState
  cases hCase : c.flags.state <;> simp_all

theorem requestStop : c.Subsides c.requestStop := by
  unfold Client.requestStop
  refine .trans ?_ cancelAllWork
  constructor <;> simp

end Client.Subsides

section Admission

variable {env : Env} {c c' : Client} {now : Int} {job : DispatchJob}

-- ---------------------------------------------------------------------------
-- Admission of unary and operation requests
-- ---------------------------------------------------------------------------

/-- The work id names no source that is opening or open. -/
theorem Tables.lookup_sourceStreams_of_not_uses {t : Tables} {workId : Text}
    (hKey : ∀ k source, t.sourceStreams.lookup k = some source →
      source.request.context.workId = k)
    (h : t.sourceUses workId = false) : t.sourceStreams.lookup workId = none := by
  cases hLook : t.sourceStreams.lookup workId with
  | none => rfl
  | some source =>
    have hMem := Store.mem_entries_of_lookup hLook
    simp only [Tables.sourceUses, List.any_eq_false, beq_iff_eq] at h
    exact absurd (hKey _ _ hLook) (h _ hMem)

/-- What a reservation amounts to, and what `ReserveTerminalReplayLocked` has
checked for it. -/
theorem reserveTerminalReplay_some {reservation : Nat}
    (h : reserveTerminalReplay env c job = some reservation) :
    job.workId ≠ [] ∧ c.tables.retainedIdentities < env.config.maximumTerminalReplay ∧
    reservation = c.session.maximumWorkFrameBytes +
      sizeAdd job.fingerprint.length kCanonicalSha256TextBytes ∧
    reservation ≤ sizeMax ∧
    c.tables.terminalReplayBytes + reservation ≤ env.config.maximumTerminalReplayBytes := by
  unfold reserveTerminalReplay at h
  simp only at h
  split at h
  · cases h
  · rename_i hRoom
    simp only [not_or, not_le, List.isEmpty_iff] at hRoom
    split at h
    · cases h
    · rename_i hNoWrap
      split at h
      · rename_i hFits
        rw [fitsByteBudget_iff] at hFits
        cases h
        have hMeta : sizeAdd job.fingerprint.length kCanonicalSha256TextBytes ≤ sizeMax :=
          Nat.lt_succ_iff.mp (Nat.mod_lt _ (Nat.succ_pos _))
        exact ⟨hRoom.1, hRoom.2, rfl, by omega, hFits⟩
      · cases h

/-- What an admission by `EnqueueDispatch` has checked. -/
theorem dispatchVerdict_accept {reservation : Nat}
    (h : dispatchVerdict env c job = .accept reservation) :
    job.workId ≠ [] ∧ c.tables.replay.lookup job.workId = none ∧
    c.flags.acceptingWork = true ∧ c.flags.state = .ready ∧
    c.tables.workTokens.lookup job.workId = none ∧ c.tables.sourceUses job.workId = false ∧
    reserveTerminalReplay env c job = some reservation := by
  unfold dispatchVerdict at h
  simp only at h
  split at h
  · cases h
  · rename_i hId
    split at h
    · split at h <;> cases h
    · rename_i hReplay
      split at h
      · cases h
      · rename_i hReady
        split at h
        · cases h
        · rename_i hToken
          split at h
          · cases h
          · rename_i hUses
            split at h
            · cases h
            · split at h
              · cases h
              · split at h
                · cases h
                · rename_i hReserve
                  cases h
                  simp only [not_or, Bool.not_eq_false, not_not, Bool.not_eq_true] at hReady hToken hUses
                  exact ⟨hId, hReplay, hReady.1, hReady.2, by simpa using hToken, hUses, hReserve⟩

/-- What an immediate rejection by `EnqueueDispatch` has checked: the identity
has no retained terminal, and it is unused unless Work is not accepted. -/
theorem dispatchVerdict_reject {code message : Text}
    (h : dispatchVerdict env c job = .reject code message) :
    job.workId ≠ [] ∧ c.tables.replay.lookup job.workId = none ∧
    ((c.flags.acceptingWork = false ∨ c.flags.state ≠ .ready) ∨
      (c.tables.workTokens.lookup job.workId = none ∧
        c.tables.sourceUses job.workId = false)) := by
  unfold dispatchVerdict at h
  simp only at h
  split at h
  · cases h
  · rename_i hId
    split at h
    · split at h <;> cases h
    · rename_i hReplay
      refine ⟨hId, hReplay, ?_⟩
      split at h
      · rename_i hNotReady
        exact .inl (by simpa using hNotReady)
      · split at h
        · cases h
        · rename_i hToken
          split at h
          · cases h
          · rename_i hUses
            exact .inr ⟨by simpa using hToken, by simpa using hUses⟩

/-- A request is answered from the replay table by the entry of its own identity and content. -/
theorem dispatchVerdict_replay {entry : ReplayEntry}
    (h : dispatchVerdict env c job = .replay entry) :
    c.tables.replay.lookup job.workId = some entry ∧ entry.kind = job.kind ∧
      entry.fingerprint = job.fingerprint := by
  unfold dispatchVerdict at h
  simp only at h
  split at h
  · cases h
  · split at h
    · rename_i hReplay
      split at h
      · rename_i hSame
        cases h
        exact ⟨hReplay, hSame⟩
      · cases h
    · split at h
      · cases h
      · split at h
        · cases h
        · split at h
          · cases h
          · split at h
            · cases h
            · split at h
              · cases h
              · split at h <;> cases h

@[simp] theorem surround_admitDispatch (reservation : Nat) :
    (c.admitDispatch job reservation).surround = c.surround := rfl

/-- The outcomes of the locked section of `EnqueueDispatch`. Only an admission
changes the Work plane. -/
theorem enqueueDispatch_cases {todo : FollowUp} (h : enqueueDispatch env c now job = (todo, c')) :
    (∃ reservation, dispatchVerdict env c job = .accept reservation ∧ todo = .done ∧
      c' = c.admitDispatch job reservation) ∨
    (c'.core = c.core ∧ c'.surround = c.surround ∧ c'.requested = c.requested ∧
      c'.queues.work = c.queues.work ∧
      ((∃ entry, dispatchVerdict env c job = .replay entry ∧
          todo = .queueReplay entry.terminal (text "Work queue rejected dispatch response")) ∨
        (dispatchVerdict env c job = .violation ∧
          todo = .protocolError job.inboundFrameSequence
            (text "Work request must use one exact, unused nonempty work_id identity")) ∨
        (∃ code message, dispatchVerdict env c job = .reject code message ∧
          todo = .commitImmediate job
            (rejectedDispatch now job.kind job.workId code message)) ∨
        ∃ reason, dispatchVerdict env c job = .retire ∧ todo = .signalFailure reason)) := by
  unfold enqueueDispatch at h
  split at h <;> rename_i hVerdict <;> simp only [Prod.mk.injEq] at h <;>
    obtain ⟨rfl, rfl⟩ := h
  · exact .inr ⟨rfl, rfl, rfl, rfl, .inl ⟨_, hVerdict, rfl⟩⟩
  · exact .inr ⟨rfl, rfl, rfl, rfl, .inr (.inl ⟨hVerdict, rfl⟩)⟩
  · exact .inr ⟨rfl, rfl, rfl, rfl, .inr (.inr (.inl ⟨_, _, hVerdict, rfl⟩))⟩
  · exact .inr ⟨rfl, rfl, rfl, rfl, .inr (.inr (.inr ⟨_, hVerdict, rfl⟩))⟩
  · exact .inl ⟨_, hVerdict, rfl, rfl⟩

-- ---------------------------------------------------------------------------
-- Admission of source opens
-- ---------------------------------------------------------------------------

/-- The identity is in none of the four tables. -/
def Tables.Unused (t : Tables) (workId : Text) : Prop :=
  t.closedSources.lookup workId = none ∧ t.sourceStreams.lookup workId = none ∧
    t.workTokens.lookup workId = none ∧ t.replay.lookup workId = none

/-- A source open that is neither replayed nor refused as a violation has found
its identity unused. -/
theorem sourceOpenVerdict_fresh {v : SourceOpenVerdict}
    (h : sourceOpenVerdict env c now job = v) (hReplay : ∀ frame, v ≠ .replay frame)
    (hViolation : v ≠ .violation) :
    job.workId ≠ [] ∧ c.tables.Unused job.workId ∧
      c.tables.sourceUses job.workId = false ∧ freshSourceVerdict env c now job = v := by
  unfold sourceOpenVerdict at h
  simp only at h
  split at h
  · exact absurd h.symm hViolation
  · rename_i hId
    split at h
    · split at h
      · exact absurd h.symm (hReplay _)
      · exact absurd h.symm hViolation
    · rename_i hClosed
      split at h
      · exact absurd h.symm hViolation
      · rename_i hUnused
        simp only [not_or, Bool.not_eq_true, Option.isSome_eq_false_iff,
          Option.isNone_iff_eq_none] at hUnused
        obtain ⟨hStream, hToken, hReplay', hUses⟩ := hUnused
        exact ⟨hId, ⟨hClosed, hStream, hToken, hReplay'⟩, hUses, h⟩

/-- What an admission by `EnqueueSourceOpen` has checked. -/
theorem sourceOpenVerdict_replay {frame : WorkFrame}
    (h : sourceOpenVerdict env c now job = .replay frame) :
    ∃ closed, c.tables.closedSources.lookup job.workId = some closed ∧
      closed.terminalFrame = frame := by
  unfold sourceOpenVerdict at h
  simp only at h
  split at h
  · cases h
  · split at h
    · rename_i closed hClosed
      split at h
      · cases h
        exact ⟨closed, hClosed, rfl⟩
      · cases h
    · split at h
      · cases h
      · unfold freshSourceVerdict at h
        simp only at h
        repeat' split at h
        all_goals cases h

/-- A source open is accepted when every check of `EnqueueSourceOpen` passes. -/
theorem freshSourceVerdict_accept {index bytes : Nat} {endpoint : CapabilityEndpointContract}
    (h : freshSourceVerdict env c now job = .accept index endpoint bytes) :
    validateWorkContext env c now job.sourceOpen.context .sourceOpen = .ok (index, endpoint) ∧
    (∃ credit, job.sourceOpen.initialCredit = some credit ∧ credit.messages ≠ 0 ∧
      credit.bytes ≠ 0) := by
  unfold freshSourceVerdict at h
  simp only at h
  split at h
  · cases h
  · split at h
    · cases h
    · rename_i hCredit
      split at h
      · cases h
      · rename_i index' endpoint' hContext
        split at h
        · cases h
        · split at h
          · cases h
          · split at h
            · cases h
            · split at h
              · cases h
              · split at h
                · cases h
                · split at h
                  · cases h
                  · split at h
                    · cases h
                    · cases h
                      refine ⟨hContext, ?_⟩
                      simp only [Bool.not_eq_true', Bool.not_eq_false, Option.any_eq_true,
                        Bool.and_eq_true, bne_iff_ne] at hCredit
                      obtain ⟨credit, hSome, hPositive⟩ := hCredit
                      exact ⟨credit, hSome, hPositive⟩

@[simp] theorem surround_admitSource (index bytes : Nat) (endpoint : CapabilityEndpointContract) :
    (c.admitSource job index endpoint bytes).surround = c.surround := rfl

/-- The client with a rejected source identity charged, before its commit. -/
def Client.charged (c : Client) (bytes : Nat) : Client :=
  { c with
    tables := { c.tables with sourceStateBytes := c.tables.sourceStateBytes + bytes }
    nextCancellation := c.nextCancellation + 1 }

/-- The outcomes of an immediate source rejection. -/
theorem rejectSource_cases {error : AdapterError} {todo : FollowUp}
    (h : c.rejectSource env job error = (todo, c')) :
    (todo = .done ∧ ∃ bytes digest, c' = (c.charged bytes).sourceCommitted env job.workId
      (rejectedSource c job bytes) (sourceOpenRejected job.workId error) digest ∧
      c.tables.sourceIdentities < env.config.maximumSourceTombstones ∧
      sourceBudgetFits env c job = some bytes) ∨
    (todo = retireForSource ∧ c'.surround = c.surround ∧ c'.requested = c.requested ∧
      c'.queues.work = c.queues.work ∧
      (c'.core = c.core ∨ c'.core = { c.core with nextCancellation := c.nextCancellation + 1 })) := by
  unfold Client.rejectSource at h
  split at h
  · simp only [Prod.mk.injEq] at h
    obtain ⟨rfl, rfl⟩ := h
    exact .inr ⟨rfl, rfl, rfl, rfl, .inl rfl⟩
  · rename_i hRoom
    split at h
    · simp only [Prod.mk.injEq] at h
      obtain ⟨rfl, rfl⟩ := h
      exact .inr ⟨rfl, rfl, rfl, rfl, .inl rfl⟩
    · rename_i bytes hBytes
      simp only at h
      split at h <;> rename_i c₁ hCommit <;> simp only [Prod.mk.injEq] at h <;>
        obtain ⟨rfl, rfl⟩ := h
      · obtain ⟨-, -, -, digest, -, hEq⟩ | ⟨hFalse, -⟩ := Client.commitSourceTerminal_cases hCommit
        · exact .inl ⟨rfl, bytes, digest, hEq, not_le.mp hRoom, hBytes⟩
        · simp at hFalse
      · obtain ⟨hTrue, -⟩ | ⟨-, hRefused⟩ := Client.commitSourceTerminal_cases hCommit
        · simp at hTrue
        · refine .inr ⟨rfl, ?_, ?_, ?_, .inr ?_⟩ <;> rcases hRefused with rfl | rfl <;>
            first
            | rfl
            | simp [Client.core, Client.countDropped]

/-- The outcomes of the locked section of `EnqueueSourceOpen`. -/
theorem enqueueSourceOpen_cases {todo : FollowUp}
    (h : enqueueSourceOpen env c now job = (todo, c')) :
    (∃ index endpoint bytes, sourceOpenVerdict env c now job = .accept index endpoint bytes ∧
      todo = .done ∧ c' = c.admitSource job index endpoint bytes) ∨
    (∃ error, sourceOpenVerdict env c now job = .reject error ∧
      c.countRejected.rejectSource env job error = (todo, c')) ∨
    (c'.core = c.core ∧ c'.surround = c.surround ∧ c'.requested = c.requested ∧
      c'.queues.work = c.queues.work ∧
      ((∃ frame, sourceOpenVerdict env c now job = .replay frame ∧
          todo = .queueReplay frame (text "Work queue rejected SourceOpenResult")) ∨
        (sourceOpenVerdict env c now job = .violation ∧
          todo = .protocolError job.inboundFrameSequence
            (text "SourceOpenRequest must use one exact, unused context.work_id identity")) ∨
        todo = retireForSource)) := by
  unfold enqueueSourceOpen at h
  split at h <;> rename_i hVerdict
  · simp only [Prod.mk.injEq] at h
    obtain ⟨rfl, rfl⟩ := h
    exact .inr (.inr ⟨rfl, rfl, rfl, rfl, .inl ⟨_, hVerdict, rfl⟩⟩)
  · simp only [Prod.mk.injEq] at h
    obtain ⟨rfl, rfl⟩ := h
    exact .inr (.inr ⟨rfl, rfl, rfl, rfl, .inr (.inl ⟨hVerdict, rfl⟩)⟩)
  · exact .inr (.inl ⟨_, hVerdict, h⟩)
  · simp only [Prod.mk.injEq] at h
    obtain ⟨rfl, rfl⟩ := h
    exact .inr (.inr ⟨rfl, rfl, rfl, rfl, .inr (.inr rfl)⟩)
  · simp only [Prod.mk.injEq] at h
    obtain ⟨rfl, rfl⟩ := h
    exact .inl ⟨_, _, _, hVerdict, rfl, rfl⟩

end Admission

end AdapterRuntime.Model
