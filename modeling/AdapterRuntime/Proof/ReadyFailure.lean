import AdapterRuntime.Proof.SessionEnd
import AdapterRuntime.Proof.Opening
import AdapterRuntime.Proof.Outbound

/-!
# AdapterRuntime — a `ready` callback that throws

The Control reader answers a `ready` callback that threw with a failed spec result,
and it is the Control writer that makes the failure terminal, once it has written the
result. Until then the client is an ordinary one: the pair can fail and be replaced,
the result can be refused by the queue or lost by the stream, a further instance spec
can be applied, and the Work writer can mark the pair ready.

* `System.keepsReport` — none of this happens while the report is on its way.
* `Reported.step` — the report is on its way until the session is given up.
* `ready_throw_terminal` — what a run that keeps its reports does after a throw.
-/

namespace AdapterRuntime.Model

open AdapterRuntime.Lib

variable {env : Env} {c c' : Client} {s s' : System} {a : Action}

-- ---------------------------------------------------------------------------
-- The report
-- ---------------------------------------------------------------------------

/-- The transaction has seen `ready` throw. -/
def ApplyPc.threw : ApplyPc → Bool
  | .readyDeactivating _ _ _ | .readyFailing _ _ => true
  | _ => false

/-- The frame reports that `ready` threw. -/
def ControlFrame.reportsThrow : ControlFrame → Bool
  | .applyInstanceSpecResult result =>
    !result.applied && (result.error.getD {}).code == text "ready-callback-failed"
  | _ => false

/-- The Control reader has a report of the throw in hand, or is about to make one. -/
def ControlReaderPc.holdsReport : ControlReaderPc → Bool
  | .applying _ at_ => at_.threw
  | .queueing _ frame _ => frame.reportsThrow
  | _ => false

/-- The Control writer writes the report, or is about to signal a terminal failure. -/
def ControlWriterPc.writesReport : ControlWriterPc → Bool
  | .writing _ _ frame => frame.reportsThrow
  | .terminal _ _ => true
  | _ => false

/-- The report is with the Control reader or in the queue. -/
def System.holdsReport (s : System) : Bool :=
  s.controlReader.holdsReport || s.client.queues.control.any fun queued =>
    queued.request.reportsThrow

/-- The report is on its way. -/
def System.reports (s : System) : Bool := s.holdsReport || s.controlWriter.writesReport

/-- The step loses the report: the queue refuses it, or the stream does not take it. -/
def System.dropsReport (env : Env) (s : System) : Action → Bool
  | .controlReader (.tick _) =>
    match s.controlReader with
    | .queueing _ frame _ => frame.reportsThrow && !(s.client.queueControlLocked env frame).1
    | _ => false
  | .controlWriter (.wrote ok) =>
    match s.controlWriter with
    | .writing fence header frame =>
      frame.reportsThrow && !(withinLimit fence.maximumControlFrameBytes
        (env.protobuf.controlRequestBytes header frame) && ok)
    | _ => false
  | _ => false

/-- The step begins a spec transaction. -/
def System.beginsSpec (env : Env) (s : System) : Action → Bool
  | .controlReader (.tick _) =>
    match s.controlReader with
    | .applying fence (.begin cand) =>
      (beginApply env s.client fence.sessionId cand.spec).isRight
    | _ => false
  | _ => false

/-- While a report is on its way, in a session that is neither stopping nor given up: the
pair does not fail before the Control writer has the report, the report is not lost, and
nothing opens the client or begins another transaction. -/
def System.keepsReport (env : Env) (s : System) (a : Action) : Bool :=
  !(s.reports && !s.client.flags.stopRequested && !s.client.flags.terminalSessionFailure) ||
    (!(s.holdsReport && s.client.flags.sessionFailed) && !s.dropsReport env a &&
      !s.marksReady a && !s.beginsSpec env a)

/-- A `ready` callback throws in this step. -/
def System.throwsReady (env : Env) (s : System) : Action → Bool
  | .controlReader (.callback (.threw _)) | .controlReader (.callback .threwUnknown) =>
    match s.controlReader with
    | .applying _ (.readying _ (binding :: _)) => env.hasCallback CapabilityCallbacks.ready binding
    | _ => false
  | _ => false

-- ---------------------------------------------------------------------------
-- The report on its way
-- ---------------------------------------------------------------------------

/-- From the throw the transaction goes on to its report. -/
theorem ApplyMove.threw {session : Text} {at_ : ApplyPc} {next : ApplyNext}
    (h : ApplyMove env session c at_ next c') (hThrew : at_.threw = true) :
    (∃ pc, next = .inl pc ∧ pc.threw = true) ∨
      ∃ result, next = .inr result ∧
        (ControlFrame.applyInstanceSpecResult result).reportsThrow = true := by
  cases h with
  | readyDeactivate | readyDeactivated => exact .inl ⟨_, rfl, rfl⟩
  | readyFailure =>
    refine .inr ⟨_, rfl, ?_⟩
    simp [ControlFrame.reportsThrow, specRefused, specResult, makeError]
  | stale hPc =>
    obtain rfl | rfl := hPc <;> cases hThrew
  | _ => cases hThrew

/-- The Control reader carries the report to the queue, unless it is refused there. -/
theorem controlReaderStep_holdsReport {pc pc' : ControlReaderPc}
    {input : ReaderInput ControlResponse}
    (h : controlReaderStep env c pc input = some (pc', c')) (hHolds : pc.holdsReport = true) :
    pc'.holdsReport = true ∨
      (c'.queues.control.any fun queued => queued.request.reportsThrow) = true ∨
      ∃ fence frame reason now, pc = .queueing fence frame reason ∧ input = .tick now ∧
        frame.reportsThrow = true ∧ (c.queueControlLocked env frame).1 = false := by
  cases pc with
  | applying fence at_ =>
    have hMove := controlReaderStep_cases h
    generalize hPc : ControlReaderPc.applying fence at_ = pc at hMove
    cases hMove with
    | @apply fence at_ next _ hApply =>
      cases hPc
      obtain ⟨pc, hNext, hThrew⟩ | ⟨result, hNext, -⟩ := hApply.threw hHolds <;> cases hNext
      exact .inl hThrew
    | @conclude fence at_ result _ hApply =>
      cases hPc
      obtain ⟨pc, hNext, -⟩ | ⟨result, hNext, hReports⟩ := hApply.threw hHolds <;> cases hNext
      exact .inl hReports
    | calm _ _ hNone =>
      subst hPc
      cases hNone
    | _ => cases hPc
  | queueing fence frame reason =>
    have hReports : frame.reportsThrow = true := hHolds
    cases controlReaderStep_branch h with
    | queued hQueue =>
      refine .inr (.inl ?_)
      unfold Client.queueControlLocked at hQueue
      simp only at hQueue
      split at hQueue <;> cases hQueue
      simp [hReports]
    | @overflow now _ _ _ _ hQueue =>
      exact .inr (.inr ⟨fence, frame, reason, now, rfl, rfl, hReports, by rw [hQueue]⟩)
  | _ => cases hHolds

/-- Feeding the queues takes no frame away. -/
theorem Client.Feed.control_grows (h : c.Feed env c') {queued : QueuedControlFrame}
    (hMem : queued ∈ c.queues.control) : queued ∈ c'.queues.control := by
  cases h with
  | nothing hWire | work _ _ hWire =>
    have hEq : c'.queues.control = c.queues.control := congrArg Wire.control hWire
    rw [hEq]
    exact hMem
  | control frame _ hWire =>
    have hEq : c'.queues.control = c.queues.control ++ _ := congrArg Wire.control hWire
    rw [hEq]
    exact List.mem_append_left _ hMem

theorem WorkWrite.control {pc pc' : WorkWriterPc} (h : WorkWrite env c pc pc' c') :
    c'.queues.control = c.queues.control := by
  cases h with
  | attach | attached | wrote => rfl
  | ready hWire | dequeue _ _ hWire | ended _ _ hWire => exact congrArg Wire.control hWire

/-- The Control writer takes at most the front of its queue. -/
theorem ControlWrite.control {pc pc' : ControlWriterPc} (h : ControlWrite env c pc pc' c') :
    c'.queues.control = c.queues.control ∨ ∃ fence header front,
      c.queues.control = front :: c'.queues.control ∧
        pc' = .writing fence header front.request := by
  cases h with
  | @dequeue fence front rest _ _ hQueue hWire =>
    have hRest : c'.queues.control = rest := congrArg Wire.control hWire
    exact .inr ⟨_, _, front, by rw [hRest, hQueue], rfl⟩
  | heartbeat _ hWire | quiet _ _ hWire => exact .inl (congrArg Wire.control hWire)
  | wrote => exact .inl rfl

/-- A frame of the Control queue stays there until the Control writer takes it, or the
supervisor ends the pair. -/
theorem queued_of_step {queued : QueuedControlFrame} (hStep : s.step env a = some s')
    (hPair : s.supervisor.waits = true) (hShape : Shape s)
    (hMem : queued ∈ s.client.queues.control) :
    queued ∈ s'.client.queues.control ∨
      ∃ fence header, s'.controlWriter = .writing fence header queued.request := by
  have hStarted : s.supervisor ≠ .notStarted := by
    intro hPc
    rw [hPc] at hPair
    cases hPair
  have hJoined : s.stopper.joined = true → False := fun hJoined =>
    hStarted (hShape.threads.stopper hJoined)
  have hWire : s'.client.wire = s.client.wire → queued ∈ s'.client.queues.control := by
    intro hWire
    rw [show s'.client.queues.control = s.client.queues.control from congrArg Wire.control hWire]
    exact hMem
  cases System.step_cases hStep with
  -- threads that only append to the Control queue
  | worker hWorker => exact .inl ((feed_workerStep hWorker).control_grows hMem)
  | workReader hReader =>
    obtain hFeed | ⟨_, _, -, -, -, hClient⟩ := wire_workReaderStep hReader
    · exact .inl (hFeed.control_grows hMem)
    · subst hClient
      exact .inl hMem
  | controlReader hReader =>
    obtain hFeed | ⟨_, _, -, -, -, hClient⟩ := wire_controlReaderStep hReader
    · exact .inl (hFeed.control_grows hMem)
    · subst hClient
      exact .inl hMem
  | workWriter hWriter =>
    refine .inl ?_
    rw [show _ = s.client.queues.control from (workWrite_of_step hWriter).control]
    exact hMem
  | controlWriter hWriter =>
    obtain hSame | ⟨fence, header, front, hQueue, hPc⟩ := (controlWrite_of_step hWriter).control
    · refine .inl ?_
      rw [show _ = s.client.queues.control from hSame]
      exact hMem
    · -- the Control writer takes the head of the queue
      rw [hQueue] at hMem
      obtain rfl | hMem := List.mem_cons.mp hMem
      · exact .inr ⟨fence, header, hPc⟩
      · exact .inl hMem
  | supervisor hSupervisor =>
    obtain hWire' | hReset := wire_supervisorStep hSupervisor
    · exact .inl (hWire hWire')
    · -- the queue is emptied outside a pair only
      have hPhase := hReset.phase
      cases hPc : s.supervisor <;> rw [hPc] at hPair hPhase <;>
        first | (cases hPair; done) | cases hPhase
  | publishSource => exact .inl ((Client.Feed.publishSource _ _).control_grows hMem)
  | closeSource => exact .inl ((Client.Feed.closeSource _ _).control_grows hMem)
  | flags _ _ _ _ _ _ _ _ _ hClient =>
    obtain rfl | rfl | rfl := hClient <;> exact .inl hMem
  -- none of these is taken while the supervisor waits
  | startThreads hFully => exact absurd (System.notStarted_of_fullyStopped hFully) hStarted
  | joinSupervisor | joinWorkers => exact .inl hMem
  | stopDeactivate hStopper => exact (hJoined (by rw [hStopper]; rfl)).elim
  | stopReset hStopper => exact (hJoined (by rw [hStopper]; rfl)).elim

/-- The report is on its way on a pair, or the session is given up. -/
def Reported (s : System) : Prop :=
  Doomed s ∨ ((s.supervisor.waits = true ∨ s.supervisor.retires = true) ∧ s.reports = true)

/-- A stop, or a terminal failure, on a pair dooms the session. -/
theorem doomed_of_pair (hReach : (machine env).Reachable s)
    (hPair : s.supervisor.waits = true ∨ s.supervisor.retires = true)
    (hOver : s.client.flags.terminalSessionFailure = true ∨ s.client.flags.stopRequested = true) :
    Doomed s := by
  have hBegun : s.supervisor.begun = true := by
    cases hPc : s.supervisor <;> rw [hPc] at hPair <;>
      simp_all [SupervisorPc.waits, SupervisorPc.retires, SupervisorPc.begun]
  refine ⟨(single_of_reachable hReach).begun hBegun, fun _ => .inl ⟨?_, hOver⟩⟩
  cases hPc : s.supervisor <;> rw [hPc] at hPair <;>
    simp_all [SupervisorPc.waits, SupervisorPc.retires, SupervisorPc.attends]

/-- While the threads of a pair run in a session that is given up, the pair is over. -/
theorem Doomed.pair_over (h : Doomed s) (hReach : (machine env).Reachable s)
    (hPhase : s.supervisor.phase.control = true ∨ s.supervisor.phase.work = true) :
    s.client.flags.sessionFailed = true ∨ s.client.flags.stopRequested = true := by
  have hLives := lives_of_reachable hReach
  obtain ⟨hPair, -⟩ := SupervisorPc.paired hPhase
  obtain hWaits | hRetires := hPair
  · have hBegun : s.supervisor.begun = true := by
      cases hPc : s.supervisor <;> rw [hPc] at hWaits <;> first | rfl | cases hWaits
    obtain ⟨-, hTerminal | hStop⟩ | ⟨hChecks, -⟩ := h.ended hBegun
    · exact .inl (hLives.waits hWaits hTerminal)
    · exact .inr hStop
    · cases hPc : s.supervisor <;> rw [hPc] at hWaits hChecks <;>
        first | (cases hWaits; done) | cases hChecks
  · exact hLives.retires hRetires

/-- What a step on a kept report leaves alone. -/
theorem keepsReport_iff (hReports : s.reports = true)
    (hRuns : s.client.flags.stopRequested = false)
    (hOpen : s.client.flags.terminalSessionFailure = false) (h : s.keepsReport env a = true) :
    (s.holdsReport = true → s.client.flags.sessionFailed = false) ∧
      s.dropsReport env a = false ∧ s.marksReady a = false ∧ s.beginsSpec env a = false := by
  simp only [System.keepsReport, hReports, hRuns, hOpen, Bool.not_false, Bool.and_self,
    Bool.not_true, Bool.false_or, Bool.and_eq_true, Bool.not_eq_true', Bool.and_eq_false_iff] at h
  obtain ⟨⟨⟨hFailed, hDrops⟩, hMarks⟩, hBegins⟩ := h
  exact ⟨fun hHolds => hFailed.resolve_left (by simp [hHolds]), hDrops, hMarks, hBegins⟩

/-- A writer of a report writes on a pair. -/
theorem ControlWriterPc.fence_of_writes {pc : ControlWriterPc} (h : pc.writesReport = true) :
    ∃ fence, pc.fence? = some fence := by
  cases pc <;> first | exact ⟨_, rfl⟩ | cases h

/-- A running Control writer is moved by its own steps alone. -/
theorem Threads.controlWriter_other (h : Threads s)
    (hFence : ∃ fence, s.controlWriter.fence? = some fence) (hStep : s.step env a = some s')
    (hOther : ∀ input, a ≠ .controlWriter input) : s'.controlWriter = s.controlWriter := by
  cases System.step_cases hStep with
  | @controlWriter input => exact absurd rfl (hOther input)
  | controlReader _ hSpawn =>
    obtain hSame | ⟨fence, hOpening, -, -⟩ := hSpawn
    · exact hSame
    · obtain ⟨fence', hFence'⟩ := hFence
      rw [h.controlWriter (by rw [hOpening]; rfl)] at hFence'
      cases hFence'
  | supervisor => exact (spawn_writers _).1
  | worker | workReader | workWriter | publishSource | closeSource | flags | startThreads
  | joinSupervisor | joinWorkers | stopDeactivate | stopReset => rfl

/-- The Control writer writes the report, and then makes the failure terminal. -/
theorem reported_of_writes (hReach : (machine env).Reachable s)
    (hStep : (machine env).step s a = some s') (hWrites : s.controlWriter.writesReport = true)
    (hDrops : s.dropsReport env a = false) : Reported s' := by
  have hThreads := (shape_of_reachable hReach).threads
  have hThreads' := (shape_of_reachable (hReach.step hStep)).threads
  -- a writer with a frame has a pair around it
  have hPair : s'.controlWriter.writesReport = true → Reported s' := by
    intro hWrites'
    obtain ⟨fence, hFence⟩ := ControlWriterPc.fence_of_writes hWrites'
    refine .inr ⟨(SupervisorPc.paired (.inl (hThreads'.phase_of_controlWriter hFence))).1, ?_⟩
    simp [System.reports, hWrites']
  by_cases hWriter : ∃ input, a = .controlWriter input
  · obtain ⟨input, rfl⟩ := hWriter
    by_cases hTerminal : s.controlWriter.signalsTerminal = true
    · exact .inl (doomed_of_signal hReach hStep hTerminal)
    · simp only [machine, System.step, Option.map_eq_some_iff] at hStep
      obtain ⟨⟨pc', c'⟩, hWriter, rfl⟩ := hStep
      cases hPc : s.controlWriter with
      | writing fence header frame =>
        rw [hPc] at hWrites hWriter
        have hReports : frame.reportsThrow = true := hWrites
        cases controlWriterStep_branch hWriter with
        | write =>
          refine hPair ?_
          cases frame with
          | applyInstanceSpecResult result =>
            simp only [ControlFrame.reportsThrow, Bool.and_eq_true, Bool.not_eq_true',
              beq_iff_eq] at hReports
            simp [afterControlWrite, hReports, isTerminalSpecFailure,
              ControlWriterPc.writesReport]
          | _ => cases hReports
        | lose hLost => simp [System.dropsReport, hPc, hReports, hLost] at hDrops
      | terminal =>
        rw [hPc] at hTerminal
        exact absurd rfl hTerminal
      | _ =>
        rw [hPc] at hWrites
        cases hWrites
  · refine hPair ?_
    have hSame := hThreads.controlWriter_other (ControlWriterPc.fence_of_writes hWrites) hStep
      fun input hInput => hWriter ⟨input, hInput⟩
    rw [hSame]
    exact hWrites

/-- The Control reader of a pair is moved by its own steps alone. -/
theorem controlReader_other (hPhase : s.supervisor.phase ≠ .outside)
    (hStep : s.step env a = some s') (hOther : ∀ input, a ≠ .controlReader input) :
    s'.controlReader = s.controlReader := by
  cases System.step_cases hStep with
  | @controlReader input => exact absurd rfl (hOther input)
  | @supervisor _ pc' =>
    obtain hSame | ⟨hOutside, -⟩ := controlReader_spawn (s := s) pc'
    · exact hSame
    · exact absurd hOutside hPhase
  | worker | workReader | workWriter | controlWriter | publishSource | closeSource | flags
  | startThreads | joinSupervisor | joinWorkers | stopDeactivate | stopReset => rfl

/-- A supervisor that waits on a live pair goes on waiting. -/
theorem waits_of_step (hReach : (machine env).Reachable s)
    (hStep : (machine env).step s a = some s') (hWaits : s.supervisor.waits = true)
    (hLive : s.client.flags.sessionFailed = false) (hRuns : s.client.flags.stopRequested = false)
    (hOpen : s.client.flags.terminalSessionFailure = false) : s'.supervisor.waits = true := by
  have hThreads := (shape_of_reachable hReach).threads
  have hPair : ∀ fence, s.supervisor.pairFence? = some fence → s.client.pairOver fence = false := by
    intro fence hFence
    have hSession := (hThreads.supervisorFence fence hFence).sessionId
    simp [Client.pairOver, hLive, hRuns, hOpen, hSession]
  by_cases hOther : ∀ input, a ≠ .supervisor input
  · have hMove := System.step_cases hStep
    generalize hPc : s.supervisor = pc at hWaits
    cases hMove with
    | @supervisor input => exact absurd rfl (hOther input)
    | startThreads hFully =>
      rw [System.notStarted_of_fullyStopped hFully] at hPc
      subst hPc
      cases hWaits
    | joinSupervisor hDone =>
      obtain hDone | hDone := hDone <;> rw [hDone] at hPc <;> subst hPc <;> cases hWaits
    | worker | workReader | controlReader | workWriter | controlWriter | publishSource
    | closeSource | flags | joinWorkers | stopDeactivate | stopReset =>
      subst hPc
      exact hWaits
  · simp only [ne_eq, not_forall, not_not] at hOther
    obtain ⟨input, rfl⟩ := hOther
    simp only [machine, System.step, System.supervisorAction, Option.map_eq_some_iff] at hStep
    obtain ⟨⟨pc', c'⟩, hSupervisor, rfl⟩ := hStep
    -- a pair that is not over is waited on, for the attachment or for its end
    have hBranch := supervisorStep_branch hSupervisor
    generalize hPc : s.supervisor = pc at hBranch hWaits hPair
    cases hBranch with
    | attach => rfl
    | unattached hOver | ended hOver =>
      rw [hPair _ rfl] at hOver
      cases hOver
    | lock hLocks => cases hLocks <;> cases hWaits
    | _ => cases hWaits

/-- The report comes to the Control writer while the pair lives. -/
theorem reported_of_holds (hReach : (machine env).Reachable s)
    (hStep : (machine env).step s a = some s') (hWaits : s.supervisor.waits = true)
    (hHolds : s.holdsReport = true) (hDrops : s.dropsReport env a = false)
    (hWaits' : s'.supervisor.waits = true) : Reported s' := by
  have hShape := shape_of_reachable hReach
  have hQueued : (s'.client.queues.control.any fun queued => queued.request.reportsThrow) = true →
      Reported s' := by
    intro hAny
    exact .inr ⟨.inl hWaits', by simp [System.reports, System.holdsReport, hAny]⟩
  have hHeld : s'.controlReader.holdsReport = true → Reported s' := by
    intro hHolds'
    exact .inr ⟨.inl hWaits', by simp [System.reports, System.holdsReport, hHolds']⟩
  obtain hReader | hAny := Bool.or_eq_true_iff.mp hHolds
  · by_cases hOwn : ∃ input, a = .controlReader input
    · obtain ⟨input, rfl⟩ := hOwn
      obtain hStill | hAny | ⟨fence, frame, reason, now, hPc, rfl, hReports, hRefused⟩ :=
        controlReaderStep_holdsReport (controlReaderStep_of_step hStep) hReader
      · exact hHeld hStill
      · exact hQueued hAny
      · simp [System.dropsReport, hPc, hReports, hRefused] at hDrops
    · have hPhase : s.supervisor.phase ≠ .outside := by
        cases hPc : s.supervisor <;> rw [hPc] at hWaits <;>
          first | (cases hWaits; done) | (intro hOutside; cases hOutside)
      refine hHeld ?_
      rw [controlReader_other hPhase hStep fun input hInput => hOwn ⟨input, hInput⟩]
      exact hReader
  · obtain ⟨queued, hMem, hReports⟩ := List.any_eq_true.mp hAny
    obtain hMem' | ⟨fence, header, hPc⟩ := queued_of_step hStep hWaits hShape hMem
    · exact hQueued (List.any_eq_true.mpr ⟨queued, hMem', hReports⟩)
    · refine .inr ⟨.inl hWaits', ?_⟩
      simp [System.reports, hPc, ControlWriterPc.writesReport, hReports]

/-- A kept report stays on its way until the session is given up. -/
theorem Reported.step (h : Reported s) (hReach : (machine env).Reachable s)
    (hKeeps : s.keepsReport env a = true) (hStep : (machine env).step s a = some s') :
    Reported s' := by
  obtain hDoomed | ⟨hPair, hReports⟩ := h
  · exact .inl (hDoomed.step hReach hStep)
  by_cases hOver : s.client.flags.terminalSessionFailure = true ∨
      s.client.flags.stopRequested = true
  · exact .inl ((doomed_of_pair hReach hPair hOver).step hReach hStep)
  rw [not_or, Bool.not_eq_true, Bool.not_eq_true] at hOver
  obtain ⟨hOpen, hRuns⟩ := hOver
  obtain ⟨hHeld, hDrops, -, -⟩ := keepsReport_iff hReports hRuns hOpen hKeeps
  obtain hHolds | hWrites := Bool.or_eq_true_iff.mp hReports
  · -- a pair that has not failed is not retired
    have hLive := hHeld hHolds
    have hWaits : s.supervisor.waits = true := by
      refine hPair.resolve_right fun hRetires => ?_
      have hFailed := (lives_of_reachable hReach).retires hRetires
      simp [hLive, hRuns] at hFailed
    exact reported_of_holds hReach hStep hWaits hHolds hDrops
      (waits_of_step hReach hStep hWaits hLive hRuns hOpen)
  · exact reported_of_writes hReach hStep hWrites hDrops

-- ---------------------------------------------------------------------------
-- After the throw
-- ---------------------------------------------------------------------------

/-- The Control reader is in no transaction, or in one that has not begun or has seen
`ready` throw. -/
def ControlReaderPc.spent : ControlReaderPc → Bool
  | .applying _ at_ => !at_.begun || at_.threw
  | _ => true

/-- A reader outside a transaction has spent it. -/
theorem ControlReaderPc.spent_of_none {pc : ControlReaderPc} (h : pc.transaction? = none) :
    pc.spent = true := by
  cases pc <;> first | rfl | cases h

/-- Only the first section of a transaction leads out of a spent reader. -/
theorem controlReaderStep_spent {pc pc' : ControlReaderPc} {input : ReaderInput ControlResponse}
    (h : controlReaderStep env c pc input = some (pc', c')) (hSpent : pc.spent = true) :
    pc'.spent = true ∨ ∃ fence cand now c₁, pc = .applying fence (.begin cand) ∧
      input = .tick now ∧ beginApply env c fence.sessionId cand.spec = .inr c₁ := by
  have hMove := controlReaderStep_cases h
  cases hMove with
  | calm _ _ _ hNone => exact .inl (ControlReaderPc.spent_of_none hNone)
  | @apply fence at_ next _ hApply =>
    cases hApply with
    | @begin cand _ hBegin =>
      cases input with
      | tick now => exact .inr ⟨fence, cand, now, c', rfl, rfl, hBegin⟩
      | _ => cases h
    | readyDeactivate | readyDeactivated => exact .inl rfl
    | _ => cases hSpent
  | drain | refuse | receive | conclude | queue | overflow | signal => exact .inl rfl

theorem beginsSpec_iff {input : ReaderInput ControlResponse} {fence : SessionFence}
    {cand : Candidate} {now : Int} {c₁ : Client}
    (hPc : s.controlReader = .applying fence (.begin cand)) (hInput : input = .tick now)
    (hBegin : beginApply env s.client fence.sessionId cand.spec = .inr c₁) :
    s.beginsSpec env (.controlReader input) = true := by
  subst hInput
  simp [System.beginsSpec, hPc, hBegin]

/-- After a throw no transaction is begun, and the Work writer does not mark the pair
ready. -/
theorem Reported.quiet (h : Reported s) (hReach : (machine env).Reachable s)
    (hKeeps : s.keepsReport env a = true) :
    s.marksReady a = false ∧ s.beginsSpec env a = false := by
  have hThreads := (shape_of_reachable hReach).threads
  by_cases hDoomed : Doomed s
  · refine ⟨?_, ?_⟩
    · by_contra hMarks
      obtain ⟨fence, hPc, hLive⟩ : ∃ fence, s.workWriter = .markReady fence ∧
          s.client.pairLive fence = true := by
        unfold System.marksReady at hMarks
        split at hMarks
        · split at hMarks
          · rename_i fence hPc
            rw [Bool.not_eq_false, Bool.and_eq_true] at hMarks
            exact ⟨fence, hPc, hMarks.1⟩
          · exact absurd rfl hMarks
        · exact absurd rfl hMarks
      have hFence : s.workWriter.fence? = some fence := by
        rw [hPc]
        rfl
      have hPhase := hThreads.phase_of_workWriter hFence
      have hOver := hDoomed.pair_over hReach (.inr hPhase)
      simp only [Client.pairLive, Bool.and_eq_true, Bool.not_eq_true'] at hLive
      simp [hLive] at hOver
    · by_contra hBegins
      obtain ⟨fence, cand, hPc, c₁, hBegin⟩ : ∃ fence cand,
          s.controlReader = .applying fence (.begin cand) ∧ ∃ c₁,
            beginApply env s.client fence.sessionId cand.spec = .inr c₁ := by
        unfold System.beginsSpec at hBegins
        split at hBegins
        · split at hBegins
          · rename_i fence cand hPc
            rw [Bool.not_eq_false, Sum.isRight_iff] at hBegins
            exact ⟨fence, cand, hPc, hBegins⟩
          · exact absurd rfl hBegins
        · exact absurd rfl hBegins
      have hFence : s.controlReader.fence? = some fence := by
        rw [hPc]
        rfl
      have hPhase := hThreads.phase_of_controlReader hFence
      have hOver := hDoomed.pair_over hReach (.inl hPhase)
      obtain ⟨-, -, hStop, hFailed, -⟩ := beginApply_inr hBegin
      simp [hStop, hFailed] at hOver
  · obtain hSome | ⟨hPair, hReports⟩ := h
    · exact absurd hSome hDoomed
    have hOver : ¬(s.client.flags.terminalSessionFailure = true ∨
        s.client.flags.stopRequested = true) := fun hOver =>
      hDoomed (doomed_of_pair hReach hPair hOver)
    rw [not_or, Bool.not_eq_true, Bool.not_eq_true] at hOver
    exact (keepsReport_iff hReports hOver.2 hOver.1 hKeeps).2.2

/-- A spent reader stays so where no transaction is begun. -/
theorem spent_of_step (hSpent : s.controlReader.spent = true)
    (hBegins : s.beginsSpec env a = false) (hStep : s.step env a = some s') :
    s'.controlReader.spent = true := by
  by_cases hOther : ∀ input, a ≠ .controlReader input
  · cases System.step_cases hStep with
    | @controlReader input => exact absurd rfl (hOther input)
    | @supervisor _ pc' =>
      obtain hSame | ⟨-, fence, hOpening⟩ := controlReader_spawn (s := s) pc'
      · show (s.spawn pc').controlReader.spent = true
        rw [hSame]
        exact hSpent
      · show (s.spawn pc').controlReader.spent = true
        rw [hOpening]
        rfl
    | worker | workReader | workWriter | controlWriter | publishSource | closeSource | flags
    | startThreads | joinSupervisor | joinWorkers | stopDeactivate | stopReset => exact hSpent
  · simp only [ne_eq, not_forall, not_not] at hOther
    obtain ⟨input, rfl⟩ := hOther
    obtain hStill | ⟨fence, cand, now, c₁, hPc, hInput, hBegin⟩ :=
      controlReaderStep_spent (controlReaderStep_of_step hStep) hSpent
    · exact hStill
    · rw [beginsSpec_iff hPc hInput hBegin] at hBegins
      cases hBegins

/-- A spent reader commits nothing, and ends no transaction that opens the client. -/
theorem commits_of_spent (hReach : (machine env).Reachable s)
    (hSpent : s.controlReader.spent = true) (hStep : (machine env).step s a = some s') :
    s'.client.commits = s.client.commits ∧ s.finishesSpec a = false := by
  have hMove := (controlMove_of_reachable hReach hStep).sessionMove (shape_of_reachable hReach)
    (standing_of_reachable hReach)
  refine ⟨?_, ?_⟩
  · cases hMove with
    | inside _ _ _ hReader =>
      generalize s.controlReader = pc at hReader hSpent
      generalize s'.controlReader = pc' at hReader
      generalize s'.client = c' at hReader
      cases hReader with
      | calm hHelm => exact commits_of_helm hHelm
      | drain => exact commits_of_events (by rw [Client.helm_beginDrain])
      | refuse | receive => rfl
      | apply hApply =>
        cases hApply with
        | begin hBegin =>
          obtain ⟨-, -, -, -, rfl⟩ := beginApply_inr hBegin
          rfl
        | readyDeactivate hDeactivate | readyDeactivated hDeactivate =>
          exact commits_deactivateStep hDeactivate
        | _ => cases hSpent
      | conclude hApply =>
        cases hApply with
        | answer | readyFailure => rfl
        | stale hPc => obtain rfl | rfl := hPc <;> cases hSpent
        | _ => cases hSpent
      | queue hQueue | overflow hQueue =>
        exact commits_of_events (by rw [Client.helm_queueControlLocked hQueue])
      | signal => exact commits_of_helm (Client.helm_signalSessionFailure _ _)
    | kept _ _ hCommits => exact hCommits
    | install _ hClient =>
      rw [hClient]
      rfl
  · by_contra hFinishes
    unfold System.finishesSpec at hFinishes
    split at hFinishes
    · split at hFinishes
      · rename_i hPc
        rw [hPc] at hSpent
        cases hSpent
      · exact absurd rfl hFinishes
    · exact absurd rfl hFinishes

-- ---------------------------------------------------------------------------
-- The end of the session
-- ---------------------------------------------------------------------------

namespace SupervisorPc

/-- The supervisor ends a session that is being stopped. -/
def stopping : SupervisorPc → Bool
  | .deactivating _ _ .stopped | .endSession => true
  | _ => false

/-- The supervisor has left its loop for good. -/
def concluded : SupervisorPc → Bool
  | .reportLost | .finished => true
  | _ => false

end SupervisorPc

/-- A session ends by a stop, or is lost. -/
structure Concludes (pc : SupervisorPc) (c : Client) : Prop where
  stopping : pc.stopping = true → c.flags.stopRequested = true
  concluded : pc.concluded = true → c.flags.stopRequested = true ∨
    (c.flags.state = .sessionLost ∧ c.flags.sessionFailed = true)

theorem Concludes.of_open {pc : SupervisorPc} (hStopping : pc.stopping = false)
    (hConcluded : pc.concluded = false) : Concludes pc c := by
  constructor <;> simp [hStopping, hConcluded]

/-- The supervisor concludes a session once. -/
theorem concludes_supervisorStep {controlDone workDone : Bool} {pc pc' : SupervisorPc}
    {input : SupervisorInput}
    (h : supervisorStep env c controlDone workDone pc input = some (pc', c'))
    (hPast : Concludes pc c) : Concludes pc' c' := by
  cases supervisorStep_branch h with
  -- the supervisor ends because of a stop it has seen
  | giveUp hStop => exact ⟨fun _ => hStop, fun _ => .inl hStop⟩
  | lock hLocks =>
    cases hLocks with
    | stopped hStop | stoppedInPair hStop =>
      exact ⟨fun _ => hStop, fun hConcluded => by cases hConcluded⟩
    | unregistered | terminal | budget | exhausted => exact .of_open rfl rfl
  | @deactivate _ _ _ after _ hStep =>
    cases after with
    | sessionLost => exact .of_open rfl rfl
    | stopped =>
      exact ⟨fun _ => (steady_deactivateStep hStep).stopped (hPast.stopping rfl),
        fun hConcluded => by cases hConcluded⟩
  | @deactivated _ _ after _ hStep =>
    cases after with
    | sessionLost => exact .of_open rfl rfl
    | stopped =>
      exact ⟨fun _ => (steady_deactivateStep hStep).stopped (hPast.stopping rfl),
        fun hConcluded => by cases hConcluded⟩
  | endSession =>
    exact ⟨(fun hStopping => by cases hStopping), fun _ => .inl (hPast.stopping rfl)⟩
  -- or because the session is lost
  | alreadyLost hNone =>
    unfold Client.enterSessionLost at hNone
    split at hNone
    · rename_i hStop
      exact ⟨fun _ => hStop, fun _ => .inl hStop⟩
    · cases hNone
  | enterLost hSome =>
    unfold Client.enterSessionLost at hSome
    split at hSome <;> cases hSome
    refine ⟨fun hStopping => ?_, fun _ => .inr ⟨rfl, rfl⟩⟩
    cases hReported : c.flags.sessionLostReported <;> rw [hReported] at hStopping <;>
      cases hStopping
  | reportLost =>
    refine ⟨(fun hStopping => by cases hStopping), fun _ => ?_⟩
    have hKept := hPast.concluded rfl
    split <;> exact hKept
  | refuse | register | unanswered | registered | install | goOn | prepare | unattached | attach
  | ended | joinControl | joinWork | replaceBegin | replaceWait | release | error | notified
  | notify | clear | unstopped | terminal | spent | retry | advance | epochLeft | backOff =>
    exact .of_open rfl rfl

/-- Outside a pair, and with the supervisor there, the other threads can do no more to the
flags than request a stop. -/
theorem flags_of_outside (hShape : Shape s) (hPhase : s.supervisor.phase = .outside)
    (hStarted : s.supervisor ≠ .notStarted) (hStep : s.step env a = some s')
    (hOther : ∀ input, a ≠ .supervisor input) :
    s'.client.flags = s.client.flags ∨ s'.client.flags.stopRequested = true := by
  obtain ⟨hReader, hWriter, hWork⟩ := hShape.threads.paired hPhase
  have hAbsurd : ∀ {fence? : Option SessionFence} {fence : SessionFence}, fence? = none →
      fence? = some fence → False := by
    intro fence? fence hNone hSome
    rw [hNone] at hSome
    cases hSome
  have hJoined : s.stopper.joined = true → False := fun hJoined =>
    hStarted (hShape.threads.stopper hJoined)
  cases System.step_cases hStep with
  | @supervisor input => exact absurd rfl (hOther input)
  | @worker i input pc' c' hWorker =>
    have hHolds : s.supervisor.phase.holds = false := by
      rw [hPhase]
      rfl
    have hJob' : pc'.job? = none := by
      have hAfter := (hShape.step hStep).occupancy.holds hHolds i
      simpa [System.setWorker] using hAfter
    have hSame := (workerStep_cases hWorker).idle (hShape.occupancy.holds hHolds i) hJob'
    subst hSame
    exact .inl rfl
  | workReader hStep' =>
    obtain ⟨fence, hFence, -⟩ := workReaderStep_fence hStep'
    exact (hAbsurd (hShape.threads.workReader (by rw [hPhase]; rfl)) hFence).elim
  | controlReader hStep' =>
    obtain ⟨fence, hFence, -⟩ := controlReaderStep_fence hStep'
    exact (hAbsurd hReader hFence).elim
  | controlWriter hStep' =>
    obtain ⟨fence, hFence, -⟩ := controlWriterStep_fence hStep'
    exact (hAbsurd hWriter hFence).elim
  | workWriter hStep' =>
    obtain ⟨fence, hFence, -⟩ := workWriterStep_fence hStep'
    exact (hAbsurd hWork hFence).elim
  | publishSource => exact .inl (congrArg Surround.flags surround_publishSource)
  | closeSource => exact .inl (congrArg Surround.flags surround_closeSource)
  | flags _ _ _ _ _ _ _ _ _ hClient =>
    obtain rfl | rfl | rfl := hClient
    · exact .inl rfl
    · exact .inr rfl
    · exact .inl rfl
  | startThreads hFully => exact absurd (System.notStarted_of_fullyStopped hFully) hStarted
  | joinSupervisor | joinWorkers => exact .inl rfl
  | stopDeactivate hStopper => exact (hJoined (by rw [hStopper]; rfl)).elim
  | stopReset hStopper => exact (hJoined (by rw [hStopper]; rfl)).elim

/-- In every reachable state the session is concluded as the supervisor says. -/
theorem concludes_of_reachable (h : (machine env).Reachable s) :
    Concludes s.supervisor s.client := by
  refine Machine.Reachable.invariant (M := machine env)
    (I := fun s => Concludes s.supervisor s.client) (.of_open rfl rfl) ?_ h
  intro s a s' hReach hPast hStep
  by_cases hOther : ∀ input, a ≠ .supervisor input
  · obtain hPc | hPc | hPc := supervisor_of_step hStep hOther
    · by_cases hOpen : s.supervisor.stopping = false ∧ s.supervisor.concluded = false
      · rw [hPc]
        exact .of_open hOpen.1 hOpen.2
      · -- a supervisor at the end of a session is outside any pair
        have hOutside : s.supervisor.phase = .outside ∧ s.supervisor ≠ .notStarted := by
          cases hAt : s.supervisor <;> rw [hAt] at hOpen <;>
            first | exact absurd ⟨rfl, rfl⟩ hOpen | exact ⟨rfl, by simp⟩
        rw [hPc]
        obtain hFlags | hStop := flags_of_outside (shape_of_reachable hReach) hOutside.1
          hOutside.2 hStep hOther
        · exact ⟨fun hStopping => hFlags ▸ hPast.stopping hStopping,
            fun hConcluded => hFlags ▸ hPast.concluded hConcluded⟩
        · exact ⟨fun _ => hStop, fun _ => .inl hStop⟩
    · rw [hPc]
      exact .of_open rfl rfl
    · rw [hPc]
      exact .of_open rfl rfl
  · simp only [ne_eq, not_forall, not_not] at hOther
    obtain ⟨input, rfl⟩ := hOther
    simp only [machine, System.step, System.supervisorAction, Option.map_eq_some_iff] at hStep
    obtain ⟨⟨pc', c'⟩, hSupervisor, rfl⟩ := hStep
    exact concludes_supervisorStep hSupervisor hPast

-- ---------------------------------------------------------------------------
-- Whole runs
-- ---------------------------------------------------------------------------

/-- While a pair is there no other is opened. -/
theorem opensPair_of_pair (h : s.supervisor.waits = true ∨ s.supervisor.retires = true)
    (a : Action) : s.opensPair a = false := by
  by_cases hOther : ∀ input, a ≠ .supervisor input
  · exact opensPair_other hOther
  · simp only [ne_eq, not_forall, not_not] at hOther
    obtain ⟨input, rfl⟩ := hOther
    cases input with
    | registered => rfl
    | tick =>
      show s.supervisor.opensPair = false
      cases hPc : s.supervisor with
      | prepare r =>
        rw [hPc] at h
        obtain hWaits | hRetires := h
        · cases hWaits
        · cases hRetires
      | _ => rfl

/-- The step at which `ready` throws. -/
theorem reported_of_throw (hReach : (machine env).Reachable s)
    (hStep : (machine env).step s a = some s') (hThrows : s.throwsReady env a = true) :
    Reported s' ∧ s'.controlReader.spent = true := by
  obtain ⟨outcome, fence, cand, binding, rest, rfl, hPc, hBound, hOutcome⟩ :
      ∃ outcome fence cand binding rest, a = .controlReader (.callback outcome) ∧
        s.controlReader = .applying fence (.readying cand (binding :: rest)) ∧
        env.hasCallback CapabilityCallbacks.ready binding = true ∧
        ∀ ok error, outcome ≠ .returned ok error := by
    unfold System.throwsReady at hThrows
    split at hThrows
    · split at hThrows
      · rename_i hPc
        exact ⟨_, _, _, _, _, rfl, hPc, hThrows, by simp⟩
      · cases hThrows
    · split at hThrows
      · rename_i hPc
        exact ⟨_, _, _, _, _, rfl, hPc, hThrows, by simp⟩
      · cases hThrows
    · cases hThrows
  have hFence : s.controlReader.fence? = some fence := by
    rw [hPc]
    rfl
  have hPhase := (shape_of_reachable hReach).threads.phase_of_controlReader hFence
  have hSupervisor := supervisor_of_controlReader hStep
  have hReader := controlReaderStep_of_step hStep
  rw [hPc] at hReader
  simp only [controlReaderStep, applyCallback, hBound, Bool.not_true, Bool.false_eq_true,
    if_false] at hReader
  have hPc' : s'.controlReader =
      .applying fence (.readyDeactivating cand binding .locked) := by
    cases outcome with
    | returned ok error => exact absurd rfl (hOutcome ok error)
    | threw | threwUnknown =>
      simp only [Option.map_some, afterApply, Option.some.injEq, Prod.mk.injEq] at hReader
      exact hReader.1.symm
  refine ⟨.inr ⟨?_, ?_⟩, by rw [hPc']; rfl⟩
  · rw [hSupervisor]
    exact (SupervisorPc.paired (.inl hPhase)).1
  · simp [System.reports, System.holdsReport, hPc', ControlReaderPc.holdsReport, ApplyPc.threw]

/-- **A `ready` callback that throws ends the session.** After it, along every path that
keeps the report: no step opens the client for Work or makes it ready, no spec is
committed and no pair is opened; until the session is given up the report is on its way;
and when the supervisor returns the session is lost or stopped. -/
theorem ready_throw_terminal {t t' : System} {b : Action} (hReach : (machine env).Reachable s)
    (hStep : (machine env).step s a = some s') (hThrows : s.throwsReady env a = true)
    (hPath : (machine env).Path (fun t b => t.keepsReport env b = true) s' t)
    (hKeeps : t.keepsReport env b = true) (hNext : (machine env).step t b = some t') :
    (t'.client.flags.acceptingWork = true → t.client.flags.acceptingWork = true) ∧
      (t'.client.flags.state = .ready → t.client.flags.state = .ready) ∧
      t'.client.commits = t.client.commits ∧ t.opensPair b = false ∧
      (t.reports = true ∨ Doomed t) ∧
      (t'.supervisor = .finished → t'.client.flags.state = .sessionLost ∨
        t'.client.flags.stopRequested = true) := by
  have hReach' := hReach.step hStep
  have hReachT := hPath.reachable hReach'
  obtain ⟨hReported, hSpent⟩ : Reported t ∧ t.controlReader.spent = true := by
    refine hPath.preserves (I := fun t => Reported t ∧ t.controlReader.spent = true) ?_ hReach'
      (reported_of_throw hReach hStep hThrows)
    intro t b t' hReachT hPast hKeeps hNext
    obtain ⟨hReported, hSpent⟩ := hPast
    exact ⟨hReported.step hReachT hKeeps hNext,
      spent_of_step hSpent (hReported.quiet hReachT hKeeps).2 hNext⟩
  obtain ⟨hMarks, hBegins⟩ := hReported.quiet hReachT hKeeps
  obtain ⟨hCommits, hFinishes⟩ := commits_of_spent hReachT hSpent hNext
  have hNarrower := narrower_of_step hNext (by simp [System.opensWork, hMarks, hFinishes])
  refine ⟨hNarrower.accepting, hNarrower.ready, hCommits, ?_, ?_, fun hPc => ?_⟩
  · obtain hDoomed | ⟨hPair, -⟩ := hReported
    · exact hDoomed.opens_none b
    · exact opensPair_of_pair hPair b
  · exact hReported.symm.imp_left And.right
  · have hEnds := (concludes_of_reachable (hReachT.step hNext)).concluded (by rw [hPc]; rfl)
    exact hEnds.symm.imp_left And.left

section Runs

open Deployment

/-- The first transaction of `managed`, up to its `ready` callback. -/
def Deployment.untilReady : List Action :=
  register ++ Action.controlReader (.opened true) :: receiveSpec 1 1 1 ++
    List.replicate 10 (Action.controlReader (.tick 0)) ++
    [Deployment.succeeds, Deployment.succeeds, Action.controlReader (.tick 0)]

/-- The `ready` callback throws. -/
def Deployment.throws : Action := .controlReader (.callback (.threw []))

/-- The Control reader deactivates the application and queues the report. -/
def Deployment.queueReport : List Action := List.replicate 8 (.controlReader (.tick 0))

/-- The Control stream of a pair without a Work stream ends. -/
def Deployment.endControl : List Action :=
  [.supervisor .tick, .controlReader (.tick 0), .controlReader .readFailed,
    .controlReader (.status .ok), .controlReader (.tick 0), .controlReader (.tick 0)]

/-- The supervisor has returned. -/
def SupervisorPc.returned : SupervisorPc → Bool
  | .finished => true
  | _ => false

/-- A supervisor that has returned is finished. -/
theorem SupervisorPc.eq_of_returned {pc : SupervisorPc} (h : pc.returned = true) :
    pc = .finished := by
  cases pc <;> first | rfl | cases h

/-- The report is written, the failure becomes terminal, and the session is lost. -/
theorem ready_throw_terminal_lost :
    ∃ s a s' t t' b, (machine managed).Reachable s ∧ (machine managed).step s a = some s' ∧
      s.throwsReady managed a = true ∧
      (machine managed).Path (fun t b => t.keepsReport managed b = true) s' t ∧
      t.keepsReport managed b = true ∧ (machine managed).step t b = some t' ∧
      t'.supervisor = .finished ∧
      (t'.client.flags.state = .sessionLost ∨ t'.client.flags.stopRequested = true) ∧
      t'.client.commits = t.client.commits := by
  obtain ⟨s, hReach, hFound⟩ := (machine managed).exists_reaches_of_runWith (fun _ _ => True)
    untilReady
    (fun s => s.throwsReady managed throws && ((machine managed).step s throws).any fun s' =>
      ((machine managed).runWith (fun t b => t.keepsReport managed b = true) s'
        (queueReport ++ writeControl ++ .controlWriter .tick :: endControl ++
          List.replicate 17 (.supervisor .tick))).any fun t =>
        t.keepsReport managed (.supervisor .tick) &&
          ((machine managed).step t (.supervisor .tick)).any fun t' => t'.supervisor.returned)
    (by decide +kernel)
  simp only [Bool.and_eq_true, Option.any_eq_true] at hFound
  obtain ⟨hThrows, s', hStep, t, hRun, hKeeps, t', hNext, hReturned⟩ := hFound
  have hPath := Machine.path_of_runWith hRun
  have hPc := SupervisorPc.eq_of_returned hReturned
  obtain ⟨-, -, hCommits, -, -, hEnds⟩ :=
    ready_throw_terminal hReach.reachable hStep hThrows hPath hKeeps hNext
  exact ⟨s, _, s', t, t', _, hReach.reachable, hStep, hThrows, hPath, hKeeps, hNext, hPc,
    hEnds hPc, hCommits⟩

/-- The pair fails before the Control writer takes the report: on the next pair of the
same session the spec is committed again, and the client becomes ready. -/
theorem ready_throw_survived :
    ∃ s a s' t, (machine managed).Reachable s ∧ (machine managed).step s a = some s' ∧
      s.throwsReady managed a = true ∧ (machine managed).Path (fun _ _ => True) s' t ∧
      t.client.session.sessionId = s'.client.session.sessionId ∧
      s'.client.commits.length < t.client.commits.length ∧
      t.client.flags.acceptingWork = true ∧ t.client.flags.state = .ready := by
  obtain ⟨s, hReach, hFound⟩ := (machine managed).exists_reaches_of_runWith (fun _ _ => True)
    untilReady
    (fun s => s.throwsReady managed throws && ((machine managed).step s throws).any fun s' =>
      ((machine managed).runWith (fun _ _ => True) s' (queueReport ++ failPair ++ endControl ++
        List.replicate 15 (Action.supervisor .tick) ++ Action.controlReader (.opened true) ::
          receiveSpec 2 1 1 ++ managedTransaction)).any fun t =>
        t.client.session.sessionId == s'.client.session.sessionId &&
          decide (s'.client.commits.length < t.client.commits.length) &&
          t.client.flags.acceptingWork && t.client.flags.state == .ready) (by decide +kernel)
  simp only [Bool.and_eq_true, Option.any_eq_true, beq_iff_eq, decide_eq_true_eq] at hFound
  obtain ⟨hThrows, s', hStep, t, hRun, ⟨⟨hSession, hCommits⟩, hAccepting⟩, hReady⟩ := hFound
  exact ⟨s, _, s', t, hReach.reachable, hStep, hThrows, Machine.path_of_runWith hRun, hSession,
    hCommits, hAccepting, hReady⟩

end Runs

end AdapterRuntime.Model
