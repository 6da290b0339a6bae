import AdapterRuntime.Proof.Jobs

/-!
# AdapterRuntime — one session per client

`Register` is single-use, so a client lives through at most one registered
session. `Single` collects what follows for `Start` and `Stop`: nothing has
happened before the registration, `Start` cannot begin a second session, and a
client that is asked to stop accepts no more Work.
-/

namespace AdapterRuntime.Model

open AdapterRuntime.Lib

namespace SupervisorPc

/-- The registration has been attempted and the session has not been given up. -/
def begun : SupervisorPc → Bool
  | .notStarted | .register | .registerFailed _ | .lostTerminal | .lostBudget
  | .deactivating _ _ _ | .enterLost _ | .reportLost | .endSession | .finished => false
  | _ => true

/-- The supervisor is ending the session because of a stop. -/
def ending : SupervisorPc → Bool
  | .deactivating _ _ .stopped | .endSession => true
  | _ => false

end SupervisorPc

variable {env : Env} {s s' : System} {c c' : Client}

-- ---------------------------------------------------------------------------
-- Steps of the supervisor
-- ---------------------------------------------------------------------------

/-- What a step of the supervisor can do to the flags of `Start` and `Stop`. -/
structure Supervises (c : Client) (pc pc' : SupervisorPc) (c' : Client) : Prop where
  attempted : c'.flags.registrationAttempted = c.flags.registrationAttempted ∨
    (pc = .register ∧ c.flags.stopRequested = false ∧ c'.flags.registrationAttempted = true)
  begun : pc'.begun = true → pc.begun = true ∨ c'.flags.registrationAttempted = true
  registered : pc' ≠ .register
  stopped : c.flags.stopRequested = true → c'.flags.stopRequested = true
  halted : (c.flags.stopRequested = true → c.flags.acceptingWork = false) →
    c'.flags.stopRequested = true → c'.flags.acceptingWork = false
  ending : pc'.ending = true → pc.ending = true ∨ c.flags.stopRequested = true

theorem Supervises.steady {pc pc' : SupervisorPc} (hBegun : pc'.begun = true → pc.begun = true)
    (hRegister : pc' ≠ .register)
    (hEnding : pc'.ending = true → pc.ending = true ∨ c.flags.stopRequested = true)
    (hSteady : c.Steady c') : Supervises c pc pc' c' :=
  ⟨.inl hSteady.attempted, fun h => .inl (hBegun h), hRegister, hSteady.stopped, hSteady.halted,
    hEnding⟩

/-- `EnterSessionLost` after an ended session or a stop. -/
theorem Client.steady_of_enterSessionLost {reason : Text} {notify : Bool}
    (h : c.enterSessionLost reason = some (notify, c')) : c.Steady c' := by
  unfold Client.enterSessionLost at h
  split at h
  · cases h
  · cases h
    constructor <;> simp

/-- A deactivation does not lead back into a session. -/
theorem AfterDeactivation.next_begun (after : AfterDeactivation) : after.next.begun = false := by
  cases after <;> rfl

/-- Only the registration changes whether one was attempted, and only it leads
into the session. -/
theorem supervises_of_step {controlDone workDone : Bool} {pc pc' : SupervisorPc}
    {input : SupervisorInput}
    (h : supervisorStep env c controlDone workDone pc input = some (pc', c')) :
    Supervises c pc pc' c' := by
  have hStep : ∀ {pc₁ pc₂ : SupervisorPc}, c.Steady c' → (pc₂.begun = true → pc₁.begun = true) →
      pc₂ ≠ .register → pc₂.ending = false → Supervises c pc₁ pc₂ c' :=
    fun hSteady hPc hRegister hEnding => .steady hPc hRegister (by simp [hEnding]) hSteady
  have hRefl : c.Steady c := (Client.Subsides.refl c).steady
  cases supervisorStep_branch h with
  -- the registration
  | register _ hRunning =>
    exact ⟨.inr ⟨rfl, hRunning, rfl⟩, fun _ => .inr rfl, by simp, id, id,
      by simp [SupervisorPc.ending]⟩
  | refuse | unanswered | registered | giveUp =>
    exact hStep hRefl (by simp [SupervisorPc.begun]) (by simp) rfl
  -- inside the session the locals stay, and the client where only the program counter moves
  | goOn | unattached | attach | ended | joinControl | joinWork | replaceWait | error | notified
  | unstopped | epochLeft | backOff | retry =>
    exact hStep hRefl (fun _ => rfl) (by simp) rfl
  | terminal | spent => exact hStep hRefl (by simp [SupervisorPc.begun]) (by simp) rfl
  | notify => exact hStep (Client.Subsides.notifySourceClosed _ _).steady (fun _ => rfl) (by simp) rfl
  -- the sections of a pair
  | install | prepare | replaceBegin | clear =>
    exact ⟨.inl rfl, fun _ => .inl rfl, by simp, id, fun _ _ => rfl, by simp [SupervisorPc.ending]⟩
  | release =>
    exact ⟨.inl rfl, fun _ => .inl rfl, by simp, id, id, by simp [SupervisorPc.ending]⟩
  | advance =>
    refine ⟨.inl ?_, fun _ => .inl rfl, by simp, ?_, ?_, by simp [SupervisorPc.ending]⟩ <;>
      unfold Client.advanceEpoch <;> split <;> first | rfl | exact id
  -- the end of the session: it ends because of a stop when it does not deactivate for a loss
  | lock hLocks =>
    refine ⟨.inl rfl, by simp [SupervisorPc.begun], by simp, id, id, fun hEnding => .inr ?_⟩
    cases hLocks with
    | stopped hStop | stoppedInPair hStop => exact hStop
    | unregistered | terminal | budget | exhausted => cases hEnding
  | @deactivate _ _ _ after _ hDown =>
    refine .steady (by simp [SupervisorPc.begun]) (by simp) ?_ (steady_deactivateStep hDown)
    intro hEnding
    exact .inl (by cases after <;> simp_all [SupervisorPc.ending])
  | @deactivated _ _ after _ hDown =>
    refine .steady (by simp [after.next_begun]) ?_ ?_
      ((steady_deactivateStep hDown).trans Client.steady_unlocked)
    · cases after <;> simp [AfterDeactivation.next]
    · cases after <;> simp [AfterDeactivation.next, SupervisorPc.ending]
  | alreadyLost => exact hStep hRefl (by simp [SupervisorPc.begun]) (by simp) rfl
  | @enterLost _ notify _ hLost =>
    refine hStep (Client.steady_of_enterSessionLost hLost) ?_ ?_ ?_ <;> cases notify <;>
      simp [SupervisorPc.begun, SupervisorPc.ending]
  | reportLost =>
    refine hStep ?_ (by simp [SupervisorPc.begun]) (by simp) rfl
    split
    · exact (Client.Subsides.log _).steady
    · exact hRefl
  | endSession =>
    exact ⟨.inl rfl, by simp [SupervisorPc.begun], by simp, id, fun _ _ => rfl,
      by simp [SupervisorPc.ending]⟩

-- ---------------------------------------------------------------------------
-- The invariant
-- ---------------------------------------------------------------------------

/-- Nothing has happened on the Work plane. -/
structure Client.Unused (c : Client) : Prop where
  history : c.history = []
  sources : c.tables.sourceStreams = ∅

/-- A client registers once. -/
structure Single (s : System) : Prop where
  halted : s.client.flags.stopRequested = true → s.client.flags.acceptingWork = false
  ending : s.supervisor.ending = true → s.client.flags.stopRequested = true
  stopping : s.stopper ≠ .idle → s.client.flags.stopRequested = true
  connecting : s.supervisor = .register → s.client.flags.state ≠ .ready
  waiting : s.supervisor = .register → s.client.flags.stopRequested = false →
    s.starter = .waiting
  unattempted : s.starter = .validated → s.client.flags.registrationAttempted = false
  begun : s.supervisor.begun = true → s.client.flags.registrationAttempted = true
  unused : s.client.flags.registrationAttempted = false → s.client.Unused

/-- A supervisor that has not begun is outside of a pair. -/
theorem SupervisorPc.phase_of_not_begun {pc : SupervisorPc} (h : pc.begun = false) :
    pc.phase = .outside := by
  cases pc <;> first | rfl | cases h

theorem unused_publishSource {streamId : Text} {items : List Text} (h : c.Unused) :
    (publishSource env c streamId items).2.Unused := by
  obtain ⟨-, source, hPublishes, -⟩ | ⟨-, hRefused⟩ :=
    publishSource_cases (Prod.mk.eta (p := publishSource env c streamId items)).symm
  · have hActive := hPublishes.active
    rw [h.sources] at hActive
    cases hActive
  · rcases hRefused with hEq | hEq <;> rw [hEq] <;> exact ⟨h.history, h.sources⟩

theorem unused_closeSource {streamId : Text} {error : Option AdapterError} (h : c.Unused) :
    (closeSource env c streamId error).2.Unused := by
  obtain ⟨-, source, digest, hActive, -⟩ | ⟨-, hRefused⟩ :=
    closeSource_cases (Prod.mk.eta (p := closeSource env c streamId error)).symm
  · rw [h.sources] at hActive
    cases hActive
  · rcases hRefused with hEq | hEq <;> rw [hEq] <;> exact ⟨h.history, h.sources⟩

/-- A worker without a job leaves the client alone. -/
theorem WorkerMove.unused {pc pc' : WorkerPc} (h : WorkerMove env c pc pc' c')
    (hJob : pc.job? = none) (hJob' : pc'.job? = none) (hUnused : c.Unused) : c'.Unused := by
  cases h with
  | exit => exact hUnused
  | pop => cases hJob'
  | quiet hSome | commit _ hSome | refuse _ hSome =>
    rw [hSome] at hJob
    cases hJob
  | accept | startOperation | startUnary | returnUnary | returnOperation | erase | leave | finish
  | startSource | returnSource | commitSource | leaveSource => cases hJob

/-- Outside a pair, a step leaves an unused client unused. -/
theorem unused_step {a : Action} (hShape : Shape s) (hPhase : s.supervisor.phase = .outside)
    (h : s.client.Unused) (hStep : s.step env a = some s') : s'.client.Unused := by
  have hCore : s'.client.core = s.client.core → s'.client.Unused := fun hEq =>
    ⟨(congrArg Core.history hEq).trans h.history,
      (congrArg (fun k : Core => k.tables.sourceStreams) hEq).trans h.sources⟩
  cases planeMove_of_step hShape hStep with
  | worker hAction hWorker hMove hWorkers hReader hHolds =>
    obtain hHolds | ⟨hJob, hJob'⟩ := hHolds
    · rw [hPhase] at hHolds
      cases hHolds
    · exact hMove.unused hJob hJob' h
  | reader hAction hMove hWorkers hWork =>
    rw [hPhase] at hWork
    cases hWork
  | publish hAction hClient hWorkers hReader =>
    rw [hClient]
    exact unused_publishSource h
  | close hAction hClient hWorkers hReader =>
    rw [hClient]
    exact unused_closeSource h
  | quiet hSame hSteady hWorkers hReader => exact hCore hSame
  | deactivate hSame hSteady hWorkers hReader hControl =>
    exact ⟨(congrArg Core.history hSame).trans h.history,
      congrArg (fun k : Core => k.tables.sourceStreams) hSame⟩
  | drop hReplacing => simp [hPhase] at hReplacing
  | release hReleasing => simp [hPhase] at hReleasing
  | outside hPhase' hJobs hJobs' hTokens hTokens' hReplay hSources hClosed hHistory hNext hReader =>
    refine ⟨hHistory.trans h.history, ?_⟩
    rcases hSources with hEq | hEq
    · exact hEq.trans h.sources
    · exact hEq

/-- A step outside the supervisor's own. -/
theorem Single.of_flags (h : Single s)
    (hSupervisor : s'.supervisor = s.supervisor ∨ s'.supervisor = .notStarted)
    (hValidated : s'.starter = .validated → s.starter = .validated ∨
      s.client.flags.registrationAttempted = false)
    (hWaiting : s.supervisor = .register → s'.client.flags.stopRequested = false →
      s.starter = .waiting → s'.starter = .waiting)
    (hStopper : s'.stopper = .idle ∨ s.stopper ≠ .idle ∨ s'.client.flags.stopRequested = true)
    (hAttempted : s'.client.flags.registrationAttempted = s.client.flags.registrationAttempted)
    (hStopped : s.client.flags.stopRequested = true → s'.client.flags.stopRequested = true)
    (hHalted : (s.client.flags.stopRequested = true → s.client.flags.acceptingWork = false) →
      s'.client.flags.stopRequested = true → s'.client.flags.acceptingWork = false)
    (hReady : s.supervisor.phase = .outside → s'.client.flags.state = .ready →
      s.client.flags.state = .ready)
    (hUnused : s.client.flags.registrationAttempted = false → s'.client.Unused) :
    Single s' := by
  have hRegister : s'.supervisor = .register → s.supervisor = .register := by
    intro hPc
    rcases hSupervisor with hEq | hEq <;> rw [hEq] at hPc
    · exact hPc
    · cases hPc
  constructor
  · exact hHalted h.halted
  · intro hPc
    rcases hSupervisor with hEq | hEq <;> rw [hEq] at hPc
    · exact hStopped (h.ending hPc)
    · cases hPc
  · intro hPc
    rcases hStopper with hIdle | hWas | hStop
    · exact absurd hIdle hPc
    · exact hStopped (h.stopping hWas)
    · exact hStop
  · intro hPc hState
    exact h.connecting (hRegister hPc) (hReady (by rw [hRegister hPc]; rfl) hState)
  · intro hPc hStop
    refine hWaiting (hRegister hPc) hStop (h.waiting (hRegister hPc) ?_)
    by_contra hWas
    rw [hStopped (by simpa using hWas)] at hStop
    cases hStop
  · intro hPc
    rw [hAttempted]
    rcases hValidated hPc with hWas | hNot
    · exact h.unattempted hWas
    · exact hNot
  · intro hPc
    rw [hAttempted]
    rcases hSupervisor with hEq | hEq <;> rw [hEq] at hPc
    · exact h.begun hPc
    · cases hPc
  · exact fun hNot => hUnused (by rwa [hAttempted] at hNot)

/-- A steady step of the client alone. -/
theorem Single.of_steady (h : Single s) (hSupervisor : s'.supervisor = s.supervisor)
    (hStarter : s'.starter = s.starter) (hStopper : s'.stopper = s.stopper)
    (hSteady : s.client.Steady s'.client)
    (hReady : s.supervisor.phase = .outside → s'.client.flags.state = .ready →
      s.client.flags.state = .ready)
    (hUnused : s.client.flags.registrationAttempted = false → s'.client.Unused) : Single s' := by
  have hIdle : s'.stopper = .idle ∨ s.stopper ≠ .idle ∨ s'.client.flags.stopRequested = true := by
    rw [hStopper]
    exact (Classical.em _).imp_right .inl
  exact h.of_flags (.inl hSupervisor) (fun hPc => .inl (hStarter ▸ hPc))
    (fun _ _ hPc => hStarter.trans hPc) hIdle hSteady.attempted hSteady.stopped hSteady.halted
    hReady hUnused

theorem state_deactivateStep {reason : Text} {at_ : DeactivatePc} {next : Option DeactivatePc}
    (h : deactivateStep env reason c at_ = some (next, c')) (hState : c'.flags.state = .ready) :
    c.flags.state = .ready := by
  obtain ⟨-, rfl, -⟩ | ⟨-, -, -, hRest⟩ := deactivateStep_cases h
  · exact hState
  · exact hRest.ready hState

/-- A client that was never started has registered no session. -/
theorem Single.init : Single (machine env).init := by
  constructor <;> simp [machine, SupervisorPc.ending, SupervisorPc.begun]
  exact ⟨rfl, rfl⟩

/-- The threads of a pair do not move outside one. -/
theorem Threads.paired (h : Threads s) (hPhase : s.supervisor.phase = .outside) :
    s.controlReader.fence? = none ∧ s.controlWriter.fence? = none ∧
      s.workWriter.fence? = none := by
  have hControl := h.controlReader (by rw [hPhase]; rfl)
  have hWork := h.workReader (by rw [hPhase]; rfl)
  exact ⟨hControl, h.controlWriter (ControlReaderPc.alone_of_fence_none hControl),
    h.workWriter (WorkReaderPc.alone_of_fence_none hWork)⟩

/-- A step of the supervisor. -/
theorem Single.supervisorStep (h : Single s) {pc' : SupervisorPc}
    (hMove : Supervises s.client s.supervisor pc' c') (hSupervisor : s'.supervisor = pc')
    (hClient : s'.client = c') (hStarter : s'.starter = s.starter)
    (hStopper : s'.stopper = s.stopper)
    (hUnused : s'.client.flags.registrationAttempted = false → s'.client.Unused) :
    Single s' := by
  subst hClient hSupervisor
  constructor
  · exact hMove.halted h.halted
  · intro hPc
    refine hMove.stopped ?_
    rcases hMove.ending hPc with hEnding | hStop
    · exact h.ending hEnding
    · exact hStop
  · intro hPc
    exact hMove.stopped (h.stopping (by rwa [hStopper] at hPc))
  · exact fun hPc => absurd hPc hMove.registered
  · exact fun hPc => absurd hPc hMove.registered
  · intro hPc
    rw [hStarter] at hPc
    rcases hMove.attempted with hEq | ⟨hRegister, hStop, -⟩
    · rw [hEq]
      exact h.unattempted hPc
    · rw [h.waiting hRegister hStop] at hPc
      cases hPc
  · intro hPc
    rcases hMove.begun hPc with hBegun | hAttempted
    · rcases hMove.attempted with hEq | ⟨-, -, hAttempted⟩
      · rw [hEq]
        exact h.begun hBegun
      · exact hAttempted
    · exact hAttempted
  · exact hUnused

/-- In every reachable state the client has registered at most once. -/
theorem single_of_reachable (h : (machine env).Reachable s) : Single s := by
  refine h.invariant (I := Single) .init ?_
  intro s a s' hReach hSingle hRun
  have hStep : s.step env a = some s' := hRun
  have hShape := shape_of_reachable hReach
  -- before the registration the client is unused, and stays so
  have hUnused : s.client.flags.registrationAttempted = false → s'.client.Unused := by
    intro hAttempted
    have hBegun : s.supervisor.begun = false := by
      by_contra hBegun
      rw [hSingle.begun (by simpa using hBegun)] at hAttempted
      cases hAttempted
    exact unused_step hShape (SupervisorPc.phase_of_not_begun hBegun)
      (hSingle.unused hAttempted) hStep
  -- a thread of a pair with a fence excludes the outside phase
  have hOutside : ∀ {fence? : Option SessionFence} {fence : SessionFence}, fence? = some fence →
      fence? = none → False := by
    intro fence? fence hSome hNone
    rw [hSome] at hNone
    cases hNone
  cases System.step_cases hStep with
  -- a worker leaves the starter, the stopper and the supervisor alone
  | worker hWorker =>
    have hRest := (workerStep_cases hWorker).subsides
    exact hSingle.of_flags (.inl rfl) .inl (fun _ _ => id) ((Classical.em _).imp_right .inl)
      hRest.attempted hRest.stopped hRest.halted (fun _ => hRest.ready) hUnused
  | workReader hReader hSpawn hOpening hJoin =>
    have hRest := (workReaderStep_cases hReader).subsides
    exact hSingle.of_steady rfl rfl rfl hRest.steady (fun _ => hRest.ready) hUnused
  | controlReader hReader hSpawn hOpening hJoin =>
    obtain ⟨fence, hFence, -⟩ := controlReaderStep_fence hReader
    exact hSingle.of_steady rfl rfl rfl (steady_controlReaderStep hReader)
      (fun hPhase => (hOutside hFence (hShape.threads.paired hPhase).1).elim) hUnused
  | controlWriter hWriter =>
    obtain ⟨fence, hFence, -⟩ := controlWriterStep_fence hWriter
    exact hSingle.of_steady rfl rfl rfl (steady_controlWriterStep hWriter)
      (fun hPhase => (hOutside hFence (hShape.threads.paired hPhase).2.1).elim) hUnused
  | workWriter hWriter =>
    obtain ⟨fence, hFence, -⟩ := workWriterStep_fence hWriter
    exact hSingle.of_steady rfl rfl rfl (steady_workWriterStep hWriter)
      (fun hPhase => (hOutside hFence (hShape.threads.paired hPhase).2.2).elim) hUnused
  | @supervisor input pc' c' hSupervisor =>
    have hMove := supervises_of_step hSupervisor
    have hStarter : (s.spawn pc').starter = s.starter ∧ (s.spawn pc').stopper = s.stopper := by
      unfold System.spawn
      split <;> exact ⟨rfl, rfl⟩
    -- the supervisor registers at most once
    refine hSingle.supervisorStep hMove rfl rfl hStarter.1 hStarter.2 fun hNot => ?_
    rcases hMove.attempted with hEq | ⟨-, -, hAttempted⟩
    · exact hUnused (hEq.symm.trans hNot)
    · exact absurd (hAttempted.symm.trans hNot) (by simp)
  | publishSource =>
    exact hSingle.of_steady rfl rfl rfl subsides_publishSource.steady
      (fun _ => subsides_publishSource.ready) hUnused
  | closeSource =>
    exact hSingle.of_steady rfl rfl rfl subsides_closeSource.steady
      (fun _ => subsides_closeSource.ready) hUnused
  | flags hCore hRest hStopper hAlone hStarter hStopping =>
    -- the caller of `Start` wakes on readiness, stop or a failed session
    refine hSingle.of_flags (.inl rfl) ?_ ?_ hStopping hRest.attempted hRest.stopped hRest.halted
      (fun _ => hRest.ready) hUnused
    · intro hPc
      rcases hStarter with hEq | ⟨-, -, hNot⟩ | ⟨hIdle, -⟩
      · exact .inl (hEq.symm.trans hPc)
      · exact .inr hNot.1
      · exact absurd (hIdle.symm.trans hPc) (by simp)
    · intro hRegister hStop hWaiting
      rcases hStarter with hEq | ⟨-, hIdle, -⟩ | ⟨-, hWhy⟩
      · exact hEq.trans hWaiting
      · rw [hWaiting] at hIdle
        cases hIdle
      · rcases hWhy with hWas | hReady | hStop' | hPc
        · rw [hWaiting] at hWas
          cases hWas
        · exact absurd hReady (hSingle.connecting hRegister)
        · exact absurd (hStop'.symm.trans hStop) (by simp)
        · rw [hRegister] at hPc
          cases hPc
  | startThreads hStopped hStopper hStarter =>
    -- the registration of an earlier run was cleared by the reset
    have hNot := hSingle.unattempted hStarter
    constructor <;> simp [Client.beginStart, hStopper, SupervisorPc.ending, SupervisorPc.begun]
    exact fun _ => hUnused hNot
  | joinSupervisor hDone hStopper =>
    exact hSingle.of_flags (.inr rfl) .inl (fun _ _ => id) (.inr (.inl (by simp [hStopper]))) rfl id
      id (fun _ => id) hUnused
  | joinWorkers hStopper hDone =>
    exact hSingle.of_flags (.inl rfl) .inl (fun _ _ => id) (.inr (.inl (by simp [hStopper]))) rfl id
      id (fun _ => id) hUnused
  | stopDeactivate hStopper hDeactivate hNext =>
    have hSteady := steady_deactivateStep hDeactivate
    have hReady := state_deactivateStep hDeactivate
    obtain ⟨pc, -, rfl, rfl⟩ | ⟨-, rfl, rfl⟩ := hNext <;>
      exact hSingle.of_flags (.inl rfl) .inl (fun _ _ => id) (.inr (.inl (by simp [hStopper])))
        hSteady.attempted hSteady.stopped hSteady.halted (fun _ => hReady) hUnused
  | stopReset hStopper =>
    refine hSingle.of_flags (.inl rfl) .inl (fun _ _ => id) (.inl rfl) rfl id (fun _ _ => rfl) ?_
      hUnused
    -- the reset leaves the client stopped, not ready
    intro _ hState
    cases hState

end AdapterRuntime.Model
