import AdapterRuntime.Proof.Tombstones
import AdapterRuntime.Proof.Opening
import AdapterRuntime.Proof.SourceLedger

/-!
# AdapterRuntime — Host cancellations of sources

`HandleCancellation` sets the flag of a source and closes it when it is open.
An opening source is left to its worker, which reads the flag once more after
the handler has returned and commits its decision in a later section.

Three windows lose a cancellation: between that read and the commit of an
accepted open; when the Work transport does not take the `SourceClose` of an
open source; and when a spec transaction deactivates the live pair, which drops
a cancelled source that is still opening without a word to the Host.

* `System.sparesCancellation` — a step that opens none of the three.
* `Honoured` — what keeps a cancelled source from being opened.
* `cancellation_kept` — the law, along runs of such steps.
-/

namespace AdapterRuntime.Model

open AdapterRuntime.Lib

variable {env : Env} {c c' : Client} {s s' : System} {a : Action} {id : CancellationId}

-- ---------------------------------------------------------------------------
-- The windows
-- ---------------------------------------------------------------------------

/-- The instance a worker is about to open: its handler has accepted, and the flag
is not read again. -/
def WorkerPc.accepts? : WorkerPc → Option CancellationId
  | .sourceCommit job decision => if decision.accepted then job.cancellation else none
  | _ => none

/-- The cancellation of a stream the step handles. -/
def System.cancellation? (s : System) : Action → Option (Text × WorkCancellation)
  | .workReader _ =>
    match s.workReader with
    | .handling _ ⟨_, .cancellation cancellation⟩ =>
      match cancellation.identity with
      | .streamId streamId => some (streamId, cancellation)
      | _ => none
    | _ => none
  | _ => none

/-- The close that acknowledges a cancellation. -/
def cancelClose (streamId : Text) (source : SourceState) (cancellation : WorkCancellation) :
    WorkFrame :=
  .sourceClose
    { streamId, finalSequence := source.sequence, error := some (cancellationError cancellation) }

/-- The Work transport takes the close of an open source. -/
def Client.takesClose (env : Env) (c : Client) (streamId : Text) (source : SourceState)
    (cancellation : WorkCancellation) : Prop :=
  source.phase = .opened →
    c.workAdmits env (cancelClose streamId source cancellation) = true ∧
      c.workFrameFits env (cancelClose streamId source cancellation) = true ∧
      (env.protobuf.terminalDigest (cancelClose streamId source cancellation)).isSome = true

/-- The event is the cancellation of this instance. -/
def WorkEvent.cancels (id : CancellationId) : WorkEvent → Bool
  | .sourceCancelled other => other == id
  | _ => false

/-- The Host has cancelled the instance. A spec transaction and the retirement of a pair set the
flag of every source, so the flag does not tell. -/
def Client.hostCancelled (c : Client) (id : CancellationId) : Bool :=
  c.history.any (WorkEvent.cancels id)

theorem Client.hostCancelled_iff : c.hostCancelled id = true ↔ .sourceCancelled id ∈ c.history := by
  rw [Client.hostCancelled, List.any_eq_true]
  constructor
  · rintro ⟨event, hMem, hCancels⟩
    cases event <;> simp only [WorkEvent.cancels, beq_iff_eq, Bool.false_eq_true] at hCancels
    exact hCancels ▸ hMem
  · exact fun hMem => ⟨_, hMem, by simp [WorkEvent.cancels]⟩

/-- The step opens none of the windows. -/
def System.sparesCancellation (env : Env) (s : System) (a : Action) : Prop :=
  (∀ named ∈ s.cancellation? a, ∀ source ∈ s.client.tables.sourceStreams.lookup named.1,
    (∀ i < s.dispatchThreads, (s.workers i).accepts? ≠ some source.cancellation) ∧
      s.client.takesClose env named.1 source named.2) ∧
  (s.deactivatesLive a = true → ∀ entry ∈ s.client.tables.sourceStreams.entries,
    s.client.hostCancelled entry.2.cancellation = false)

instance (streamId : Text) (source : SourceState) (cancellation : WorkCancellation) :
    Decidable (c.takesClose env streamId source cancellation) :=
  inferInstanceAs (Decidable (_ → _ ∧ _ ∧ _))

instance (s : System) (a : Action) : Decidable (s.sparesCancellation env a) :=
  inferInstanceAs (Decidable ((∀ named ∈ _, ∀ source ∈ _, (∀ i < _, _) ∧ _) ∧ (_ → _)))

/-- The step at which a source is cancelled handles the frame that cancels it. -/
theorem System.cancellation_of_cancels {streamId : Text} {input : ReaderInput WorkResponse}
    (h : s.Cancels streamId) (hAction : a = .workReader input) :
    ∃ fence response cancellation, s.workReader = .handling fence response ∧
      response.frame = .cancellation cancellation ∧ cancellation.identity = .streamId streamId ∧
      s.cancellation? a = some (streamId, cancellation) := by
  obtain ⟨fence, ⟨header, frame⟩, cancellation, hReader, hFrame, hIdentity⟩ := h
  refine ⟨fence, ⟨header, frame⟩, cancellation, hReader, hFrame, hIdentity, ?_⟩
  simp only at hFrame
  simp only [System.cancellation?, hAction, hReader, hFrame, hIdentity]

/-- A close the transport takes does not fail the pair. -/
theorem handleCancellation_takes {cancellation : WorkCancellation} {streamId reason : Text}
    {source : SourceState} {sequence : Nat} (hIdentity : cancellation.identity = .streamId streamId)
    (hLook : c.tables.sourceStreams.lookup streamId = some source)
    (hTakes : c.takesClose env streamId source cancellation) :
    (handleCancellation env c cancellation sequence).1 ≠ .signalFailure reason := by
  unfold handleCancellation
  simp only [hIdentity, hLook]
  split
  · simp
  · rename_i hName
    split
    · simp
    · split
      · simp
      · rename_i hOpened
        rw [ne_eq, not_not] at hOpened
        obtain ⟨hAdmits, hFits, hDigest⟩ := hTakes hOpened
        simp only [Client.workAdmits, Bool.and_eq_true, Bool.not_eq_true', decide_eq_true_eq]
          at hAdmits
        obtain ⟨⟨hLive, hRoom⟩, hLimit⟩ := hAdmits
        have hLength : ¬env.config.maximumWorkQueue ≤
            (c.request source.cancellation).queues.work.length := by
          intro hFull
          have hFull : env.config.maximumWorkQueue ≤ c.queues.work.length := hFull
          simp [Client.workQueueFull, hFull] at hRoom
        rw [if_neg hLength]
        -- the commit only asks what `takesClose` has answered
        have hTerminal : isSourceTerminalOf streamId (cancelClose streamId source cancellation) =
            true := by simp [cancelClose, isSourceTerminalOf]
        have hCommit : (commitSourceTerminal env c streamId source
            (cancelClose streamId source cancellation)).1 = true := by
          rw [commitSourceTerminal_fst, queueWorkLocked_fst, hTerminal, hDigest, hFits, hLive,
            hRoom]
          simp [hName, hLimit]
        have hSame : (commitSourceTerminal env (c.sourceCancelled source) streamId source
            (cancelClose streamId source cancellation)).1 = true := by
          rw [← hCommit, commitSourceTerminal_fst, commitSourceTerminal_fst, queueWorkLocked_fst,
            queueWorkLocked_fst]
          rfl
        split
        · rename_i hRefused
          have hFalse := congrArg Prod.fst hRefused
          exact absurd (hSame.symm.trans hFalse) (by simp)
        · simp

-- ---------------------------------------------------------------------------
-- One step
-- ---------------------------------------------------------------------------

/-- A worker that has signalled is past its commit section. -/
theorem WorkerPc.afterSignal_ne_sourceCommit {job job' : DispatchJob} {after : AfterSignal}
    {decision : SourceOpenDecision} : afterSignal job after ≠ .sourceCommit job' decision := by
  cases after <;> simp [afterSignal]

/-- A worker comes to the commit of a source open from the read of the flag. -/
theorem sourceCommit_of_workerStep {pc : WorkerPc} {input : WorkerInput} {job : DispatchJob}
    {decision : SourceOpenDecision}
    (h : workerStep env c pc input = some (.sourceCommit job decision, c')) :
    ∃ binding result, pc = .sourceReturned job binding result ∧ decision =
      normalizeDecision env (handlerEndpoint env binding job) (c.cancelled job) result := by
  generalize hNext : WorkerPc.sourceCommit job decision = pc' at h
  cases workerStep_branch h with
  | normalizeSource =>
    cases hNext
    exact ⟨_, _, rfl, rfl⟩
  -- every other branch leads to another point
  | commit hCommits => cases hCommits <;> cases hNext
  | unheard | signalSession => exact absurd hNext.symm WorkerPc.afterSignal_ne_sourceCommit
  | _ => cases hNext

/-- A worker comes to an acceptance with the flag unset. -/
theorem requested_of_accepts {pc pc' : WorkerPc} {input : WorkerInput}
    (h : workerStep env c pc input = some (pc', c')) (hAccepts : pc'.accepts? = some id) :
    c.requested id = false := by
  cases pc' <;> simp only [WorkerPc.accepts?, reduceCtorEq] at hAccepts
  rename_i job decision
  split at hAccepts
  · rename_i hAccepted
    obtain ⟨binding, result, -, rfl⟩ := sourceCommit_of_workerStep h
    by_contra hSet
    rw [Bool.not_eq_false] at hSet
    have hCancelled : c.cancelled job = true := by
      rw [Client.cancelled, hAccepts]
      exact hSet
    rw [hCancelled] at hAccepted
    cases hAccepted
  · cases hAccepts

/-- No worker takes up the instance of a set flag for opening. -/
theorem refuses_of_step (hStep : s.step env a = some s') (hSet : s.client.requested id = true)
    (h : ∀ i, (s.workers i).accepts? ≠ some id) : ∀ i, (s'.workers i).accepts? ≠ some id := by
  cases System.step_cases hStep with
  | @worker i input pc' c' hWorker =>
    intro j
    by_cases hj : j = i
    · subst hj
      simp only [System.setWorker, if_true]
      intro hAccepts
      rw [requested_of_accepts hWorker hAccepts] at hSet
      cases hSet
    · simp only [System.setWorker, if_neg hj]
      exact h j
  | startThreads =>
    intro j
    show WorkerPc.accepts? (if j < env.config.dispatchWorkers then .idle else .notStarted) ≠ _
    split <;> exact fun hNone => by cases hNone
  | joinWorkers => exact fun _ hNone => by cases hNone
  | supervisor =>
    rw [workers_spawn]
    exact h
  | workReader | controlReader | workWriter | controlWriter | publishSource | closeSource | flags
  | joinSupervisor | stopDeactivate | stopReset => exact h

/-- What keeps a cancelled source from being opened. -/
structure Honoured (s : System) (id : CancellationId) : Prop where
  requested : s.client.requested id = true
  opening : ∀ streamId source, s.client.tables.sourceStreams.lookup streamId = some source →
    source.cancellation = id → source.phase = .opening
  refuses : ∀ i, (s.workers i).accepts? ≠ some id

/-- A cancelled source stays unopened. -/
theorem Honoured.step (h : Honoured s id) (hReach : (machine env).Reachable s)
    (hHistory : .sourceCancelled id ∈ s.client.history) (hStep : s.step env a = some s') :
    Honoured s' id := by
  refine ⟨requested_of_step hStep h.requested, ?_, refuses_of_step hStep h.requested h.refuses⟩
  intro streamId source' hLook hSame
  have hMove := sourceMove_of_step (shape_of_reachable hReach) hStep
  obtain ⟨source, hWas, hTurn⟩ | ⟨_, _, _, _, _, -, -, -, -, -, -, rfl⟩ := hMove.back hLook
  · have hPhase := h.opening streamId source hWas (hTurn.sameSource.cancellation.symm.trans hSame)
    cases hTurn with
    | same => exact hPhase
    | @opened i job decision hPc hOwns _ _ hAccepted =>
      -- its worker would have accepted it
      refine absurd ?_ (h.refuses i)
      rw [hPc, WorkerPc.accepts?, if_pos hAccepted, hOwns.own]
      exact congrArg some hSame
    | published hOpened | granted hOpened => rw [hPhase] at hOpened; cases hOpened
  · -- a source that has just been admitted is another instance
    have hLt := (jobs_of_reachable hReach).history _ hHistory id rfl
    exact absurd (hSame ▸ hLt) (Nat.lt_irrefl _)

/-- The Work reader continues with what `HandleCancellation` leaves to it. -/
theorem followUp_of_cancellation {fence : SessionFence} {response : WorkResponse}
    {cancellation : WorkCancellation} {input : ReaderInput WorkResponse}
    (hReader : s.workReader = .handling fence response)
    (hFrame : response.frame = .cancellation cancellation)
    (hStep : s.step env (.workReader input) = some s') :
    s'.workReader = .followUp fence
      (handleCancellation env s.client cancellation response.header.frameSequence).1 := by
  have hTakes := workReaderStep_of_step hStep
  rw [hReader] at hTakes
  generalize s'.workReader = pc' at hTakes ⊢
  cases workReaderStep_branch hTakes with
  | handle hHandle =>
    simp only [handleWorkResponse, hFrame, Prod.mk.injEq, Sum.inl.injEq] at hHandle
    rw [hHandle.1]
  | hostError hHandle => simp [handleWorkResponse, hFrame] at hHandle

/-- A cancellation that is handled outside the windows is honoured at once: the
source is closed, or it is still opening. -/
theorem honoured_of_cancel {streamId : Text} {source : SourceState}
    {input : ReaderInput WorkResponse} (hReach : (machine env).Reachable s)
    (hSpares : s.sparesCancellation env a) (hStep : s.step env a = some s')
    (hAction : a = .workReader input)
    (hLook : s.client.tables.sourceStreams.lookup streamId = some source)
    (hCancels : s.Cancels streamId) (hWorkers : s'.workers = s.workers)
    (hRequested : s'.client.requested source.cancellation = true)
    (hStays : ∀ source', s'.client.tables.sourceStreams.lookup streamId = some source' →
      source' = source ∧ (source.phase = .opening ∨ ∃ fence reason,
        s'.workReader = .followUp fence (.signalFailure reason)))
    (hOthers : ∀ k, k ≠ streamId → s'.client.tables.sourceStreams.lookup k =
      s.client.tables.sourceStreams.lookup k) :
    Honoured s' source.cancellation := by
  obtain ⟨fence, response, cancellation, hReader, hFrame, hIdentity, hNamed⟩ :=
    System.cancellation_of_cancels hCancels hAction
  obtain ⟨hRefuses, hTakes⟩ := hSpares.1 _ hNamed source hLook
  refine ⟨hRequested, ?_, ?_⟩
  · intro k source' hLook' hSame
    obtain rfl : k = streamId := by
      by_contra hKey
      rw [hOthers k hKey] at hLook'
      exact hKey ((sources_of_reachable hReach).distinct k streamId _ _ hLook' hLook hSame)
    obtain ⟨rfl, hOpening | ⟨_, reason, hFails⟩⟩ := hStays source' hLook'
    · exact hOpening
    · subst hAction
      rw [followUp_of_cancellation hReader hFrame hStep] at hFails
      exact absurd (WorkReaderPc.followUp.inj hFails).2
        (handleCancellation_takes hIdentity hLook hTakes)
  · intro i
    rw [hWorkers]
    by_cases hi : i < s.dispatchThreads
    · exact hRefuses i hi
    · rw [(shape_of_reachable hReach).occupancy.beyond i (Nat.le_of_not_lt hi)]
      exact fun hNone => by cases hNone

-- ---------------------------------------------------------------------------
-- How a cancelled source ends
-- ---------------------------------------------------------------------------

/-- The frame ends a source: a rejected open or a close. -/
def WorkFrame.endsSource : WorkFrame → Bool
  | .sourceOpenResult result => !result.accepted
  | .sourceClose _ => true
  | _ => false

/-- The instance is in the table. -/
def Client.Lists (c : Client) (id : CancellationId) : Prop :=
  ∃ streamId source, c.tables.sourceStreams.lookup streamId = some source ∧
    source.cancellation = id

/-- A frame that ends the instance has been put on the Work queue. -/
def Client.Ends (c : Client) (id : CancellationId) : Prop :=
  ∃ frame : WorkFrame, frame.endsSource = true ∧ .enqueued (some id) frame ∈ c.history

/-- Closing a source ends it. -/
theorem Client.ends_of_closed {streamId digest : Text} {error : Option AdapterError}
    {source : SourceState} : (c.closed env streamId source error digest).Ends source.cancellation :=
  ⟨_, rfl, List.mem_cons_self⟩

/-- A cancellation that is new after a step names a source of the table, and is
honoured. -/
theorem cancelled_of_step (hReach : (machine env).Reachable s)
    (hSpares : s.sparesCancellation env a) (hStep : s.step env a = some s')
    (hNew : .sourceCancelled id ∈ s'.client.history)
    (hOld : .sourceCancelled id ∉ s.client.history) :
    Honoured s' id ∧ (s'.client.Lists id ∨ s'.client.Ends id) := by
  have hSame : s'.client.history = s.client.history → False := fun hEq => hOld (hEq ▸ hNew)
  have hOne : ∀ event, s'.client.history = event :: s.client.history →
      event = .sourceCancelled id := by
    intro event hEq
    rw [hEq, List.mem_cons] at hNew
    exact (hNew.resolve_right hOld).symm
  have hMove := sourceMove_of_step (shape_of_reachable hReach) hStep
  cases hMove with
  | keep _ _ hHistory hEvents =>
    -- events of other kinds
    rw [hHistory, List.mem_append] at hNew
    have hNone := hEvents _ (hNew.resolve_right hOld)
    cases hNone
  | enter _ _ _ _ hClient => cases hOne _ (by rw [hClient]; rfl)
  | reject _ _ hClient => cases hOne _ (by rw [hClient]; rfl)
  | open_ _ _ _ hClient => cases hOne _ (by rw [hClient]; rfl)
  | refuse _ _ _ hClient => cases hOne _ (by rw [hClient]; rfl)
  | publish _ _ hClient => cases hOne _ (by rw [hClient]; rfl)
  | close _ _ _ hClient => cases hOne _ (by rw [hClient]; rfl)
  | grant _ _ _ _ _ _ _ hClient => cases hOne _ (by rw [hClient]; rfl)
  | lateGrant _ _ hClient => exact (hSame (by rw [hClient])).elim
  | acknowledge _ _ _ _ _ _ hClient => exact (hSame (by rw [hClient])).elim
  | deactivate _ _ hCore => exact (hSame (congrArg Core.history hCore)).elim
  | retire _ _ _ hHistory => exact (hSame hHistory).elim
  | @cancelOpened input streamId digest error source hAction hActive hPhase hClient hWorkers
      hCancels =>
    obtain rfl : source.cancellation = id := by
      -- the cancellation that closes an open source
      rw [hClient] at hNew
      simp only [Client.closed, Client.eraseSource, Client.sourceCommitted, Client.queued,
        Client.rememberClosedSource, Client.pushWork, Client.sourceCancelled, List.mem_cons,
        reduceCtorEq, WorkEvent.sourceCancelled.injEq, false_or] at hNew
      exact (hNew.resolve_right hOld).symm
    refine ⟨honoured_of_cancel hReach hSpares hStep hAction hActive hCancels hWorkers ?_ ?_ ?_,
      .inr (hClient ▸ Client.ends_of_closed)⟩
    · rw [hClient]
      simp [Client.closed, Client.eraseSource, Client.sourceCommitted, Client.sourceCancelled,
        Client.request, Client.queued, Client.rememberClosedSource, Client.pushWork]
    · intro source' hLook
      simp [hClient, Client.closed, Client.eraseSource] at hLook
    · intro k hKey
      rw [hClient]
      simp [Client.closed, Client.eraseSource, Client.sourceCommitted, Client.sourceCancelled,
        Client.request, Client.queued, Client.rememberClosedSource, Client.pushWork, hKey]
  | @cancel input streamId source hAction hActive hCore hWorkers hFails hCancels hRequested =>
    have hTables : s'.client.tables.sourceStreams = s.client.tables.sourceStreams :=
      congrArg (fun k : Core => k.tables.sourceStreams) hCore
    obtain rfl : source.cancellation = id := by
      -- the cancellation of a source still opening
      have hEvent := hOne _ (congrArg Core.history hCore)
      cases hEvent
      rfl
    refine ⟨honoured_of_cancel hReach hSpares hStep hAction hActive hCancels hWorkers hRequested
      ?_ fun k _ => by rw [hTables], .inl ⟨streamId, source, by rw [hTables]; exact hActive, rfl⟩⟩
    intro source' hLook
    rw [hTables, hActive, Option.some.injEq] at hLook
    exact ⟨hLook.symm, hFails⟩

/-- A cancelled source that leaves the table has ended, or its pair has. -/
theorem ends_of_step (hReach : (machine env).Reachable s) (hSpares : s.sparesCancellation env a)
    (hStep : s.step env a = some s') (hCancelled : .sourceCancelled id ∈ s.client.history)
    (hLists : s.client.Lists id) :
    s'.client.Lists id ∨ s'.client.Ends id ∨ s.retires = true := by
  obtain ⟨streamId, source, hLook, rfl⟩ := hLists
  have hMove := sourceMove_of_step (shape_of_reachable hReach) hStep
  obtain ⟨source', hLook', hTurn⟩ | hExit := hMove.forward hLook
  · exact .inl ⟨streamId, source', hLook', hTurn.sameSource.cancellation⟩
  · cases hExit with
    | refused _ _ _ hAccepted hClient =>
      refine .inr (.inl ⟨_, ?_, by rw [hClient]; exact List.mem_cons_self⟩)
      simp [WorkFrame.endsSource, sourceOpenFrame, hAccepted]
    | closed _ _ hClient => exact .inr (.inl (hClient ▸ Client.ends_of_closed))
    | cancelled _ _ hClient => exact .inr (.inl (hClient ▸ Client.ends_of_closed))
    | deactivated hAction hPc =>
      have hUnset := hSpares.2 (by simp [System.deactivatesLive, hAction, hPc])
        ⟨streamId, source⟩ (AList.mem_lookup_iff.mp hLook)
      rw [Client.hostCancelled_iff.mpr hCancelled] at hUnset
      cases hUnset
    | retired hPhase =>
      refine .inr (.inr ?_)
      obtain hPhase | hPhase := hPhase <;> simp [System.retires, hPhase]

-- ---------------------------------------------------------------------------
-- Whole runs
-- ---------------------------------------------------------------------------

section Runs

open Deployment

/-- The Host cancels a stream. -/
def Deployment.cancelFrame (streamId : String) : HostWork :=
  .cancellation { identity := .streamId (text streamId), reason := text "stop" }

/-- The Host opens a source, and the handler of the first worker accepts it. -/
def Deployment.acceptFeed (streamId : String) : List Action :=
  hostFrame 1 1 (sourceOpenRequestFrame streamId) ++ worker 0 4 ++
    [.worker 0 (.sourceOutcome (.value { accepted := true }))]

/-- The event is the queueing of a frame that ends a source. -/
def WorkEvent.endsSource : WorkEvent → Bool
  | .enqueued _ frame => frame.endsSource
  | _ => false

end Runs

end AdapterRuntime.Model
