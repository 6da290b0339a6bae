import AdapterRuntime.Proof.Standing

/-!
# AdapterRuntime — the life of a pair

What the supervisor can rely on from one point of its loop to the next: a pair
is retired only after a failure or a stop, a terminal failure is a failure, the
loop is not taken again after one, and a drain ends with its pair.

* `lives_of_reachable` — this holds in every reachable state.
-/

namespace AdapterRuntime.Model

open AdapterRuntime.Lib

variable {env : Env} {c c' : Client} {s s' : System}

/-- How far a pair has come: it became ready, and it is to be drained. -/
def Flags.progress (f : Flags) : Bool × Bool :=
  (f.pairReady, f.drainRequested)

theorem Client.progress_of_helm (h : c'.helm = c.helm) : c'.flags.progress = c.flags.progress :=
  congrArg (fun k : Helm => (k.pairReady, k.draining)) h

namespace SupervisorPc

/-- The supervisor waits on a pair. -/
def waits : SupervisorPc → Bool
  | .awaitAttach _ _ | .awaitFailure _ _ => true
  | _ => false

/-- The supervisor retires a pair. -/
def retires : SupervisorPc → Bool
  | .joinControl _ | .joinWork _ | .replaceBegin _ | .replaceWait _ _ | .replaceRelease _ _
  | .replaceError _ _ | .replaceNotify _ _ _ | .clear _ => true
  | _ => false

/-- The supervisor is about to open a pair, now or after the back-off. -/
def reopens : SupervisorPc → Bool
  | .register | .registerCall | .install _ | .loop _ | .prepare _ | .advance _ | .backOff _ => true
  | _ => false

/-- What holds of the lifecycle flags at a point of the supervisor. -/
structure Lives (pc : SupervisorPc) (c : Client) : Prop where
  waits : pc.waits = true → c.flags.terminalSessionFailure = true → c.flags.sessionFailed = true
  retires : pc.retires = true → c.flags.sessionFailed = true ∨ c.flags.stopRequested = true
  reopens : pc.reopens = true → c.flags.terminalSessionFailure = false
  progress : c.flags.progress ≠ (false, false) → pc.waits = true ∨ pc.retires = true

variable {pc pc' : SupervisorPc}

/-- A point that is neither in a pair nor on the way to one. -/
theorem Lives.of_idle (hWaits : pc.waits = false) (hRetires : pc.retires = false)
    (hReopens : pc.reopens = false) (hNone : c.flags.progress = (false, false)) : pc.Lives c := by
  constructor <;> simp [hWaits, hRetires, hReopens, hNone]

/-- On the way to a pair nothing is left of the last one. -/
theorem Lives.of_reopens (hReopens : pc.reopens = true)
    (hTerminal : c.flags.terminalSessionFailure = false)
    (hNone : c.flags.progress = (false, false)) : pc.Lives c := by
  have hWaits : pc.waits = false ∧ pc.retires = false := by
    cases pc <;> first | exact ⟨rfl, rfl⟩ | cases hReopens
  constructor <;> simp [hWaits, hTerminal, hNone]

/-- A pair is retired after a failure or a stop. -/
theorem Lives.of_retires (hRetires : pc.retires = true)
    (hOver : c.flags.sessionFailed = true ∨ c.flags.stopRequested = true) : pc.Lives c := by
  have hWaits : pc.waits = false ∧ pc.reopens = false := by
    cases pc <;> first | exact ⟨rfl, rfl⟩ | cases hRetires
  constructor <;> simp [hWaits, hRetires, hOver]

/-- Outside a pair nothing is left of its progress. -/
theorem Lives.no_progress (h : pc.Lives c) (hWaits : pc.waits = false)
    (hRetires : pc.retires = false) : c.flags.progress = (false, false) := by
  by_contra hSome
  have hPair := h.progress hSome
  simp [hWaits, hRetires] at hPair

theorem Lives.draining (h : pc.Lives c) (hDrain : c.flags.drainRequested = true) :
    pc.waits = true ∨ pc.retires = true :=
  h.progress (by simp [Flags.progress, hDrain])

/-- A pair that became ready is still there, or being retired. -/
theorem Lives.ready (h : pc.Lives c) (hReady : c.flags.pairReady = true) :
    pc.waits = true ∨ pc.retires = true :=
  h.progress (by simp [Flags.progress, hReady])

end SupervisorPc

-- ---------------------------------------------------------------------------
-- Steps of the supervisor
-- ---------------------------------------------------------------------------

@[simp] theorem flags_callStop (binding : Nat) : (c.callStop env binding).flags = c.flags := by
  unfold Client.callStop
  split <;> rfl

@[simp] theorem flags_callClear : (c.callClear env).flags = c.flags := by
  unfold Client.callClear
  split <;> rfl

@[simp] theorem flags_notifySourceClosed (source : SourceState) (error : AdapterError) :
    (c.notifySourceClosed env source error).flags = c.flags := by
  unfold Client.notifySourceClosed
  split <;> rfl

/-- A deactivation closes the client for Work and touches no other flag. -/
theorem flags_deactivateStep {reason : Text} {at_ : DeactivatePc} {next : Option DeactivatePc}
    (h : deactivateStep env reason c at_ = some (next, c')) :
    c'.flags = c.flags ∨ c'.flags = { c.flags with acceptingWork := false } := by
  cases deactivateStep_move h with
  | begin => exact .inr rfl
  | waited | stopped | finish => exact .inl rfl
  | stop => exact .inl (flags_callStop _)
  | clear =>
    split
    · exact .inl flags_callClear
    · exact .inl rfl
  | notify => exact .inl (flags_notifySourceClosed _ _)

theorem progress_deactivateStep {reason : Text} {at_ : DeactivatePc} {next : Option DeactivatePc}
    (h : deactivateStep env reason c at_ = some (next, c')) :
    c'.flags.progress = c.flags.progress := by
  obtain hFlags | hFlags := flags_deactivateStep h <;> rw [hFlags]
  rfl

/-- A step of the supervisor. -/
theorem lives_supervisorStep {controlDone workDone : Bool} {pc pc' : SupervisorPc}
    {input : SupervisorInput}
    (h : supervisorStep env c controlDone workDone pc input = some (pc', c'))
    (hSession : ∀ fence, pc.pairFence? = some fence → c.session.sessionId = fence.sessionId)
    (hLives : pc.Lives c) : pc'.Lives c' := by
  -- the pair is over because of a failure or a stop
  have hOver : ∀ fence, pc.pairFence? = some fence → c.pairOver fence = true →
      c.flags.sessionFailed = true ∨ c.flags.stopRequested = true := by
    intro fence hFence hPair
    have hWaits : pc.waits = true := by
      cases pc <;> first | rfl | cases hFence
    simp only [Client.pairOver, hSession fence hFence, bne_self_eq_false, Bool.or_false,
      Bool.or_eq_true] at hPair
    obtain (hStop | hFailed) | hTerminal := hPair
    · exact .inr hStop
    · exact .inl hFailed
    · exact .inl (hLives.waits hWaits hTerminal)
  have hNone : pc.waits = false → pc.retires = false → c.flags.progress = (false, false) :=
    hLives.no_progress
  have hTerminal := hLives.reopens
  have hRetires := hLives.retires
  cases supervisorStep_branch h with
  -- no pair, and none is opened
  | refuse | unanswered | giveUp | unstopped | terminal | spent | alreadyLost =>
    exact .of_idle rfl rfl rfl (hNone rfl rfl)
  | lock hLocks =>
    have hIdle : pc.waits = false ∧ pc.retires = false := by cases hLocks <;> exact ⟨rfl, rfl⟩
    exact .of_idle rfl rfl rfl (hNone hIdle.1 hIdle.2)
  | deactivate hStep =>
    exact .of_idle rfl rfl rfl ((progress_deactivateStep hStep).trans (hNone rfl rfl))
  | @deactivated _ _ after c₁ hStep =>
    have hNone₁ : c₁.flags.progress = (false, false) :=
      (progress_deactivateStep hStep).trans (hNone rfl rfl)
    cases after <;> exact .of_idle rfl rfl rfl hNone₁
  | @enterLost _ notify _ hLost =>
    have hNone' : c'.flags.progress = (false, false) := by
      unfold Client.enterSessionLost at hLost
      split at hLost <;> cases hLost
      exact hNone rfl rfl
    cases notify <;> exact .of_idle rfl rfl rfl hNone'
  | reportLost =>
    refine .of_idle rfl rfl rfl ?_
    split <;> exact hNone rfl rfl
  | endSession => exact .of_idle rfl rfl rfl rfl
  -- no pair yet, and the session is not terminal
  | register | registered | goOn | backOff => exact .of_reopens rfl (hTerminal rfl) (hNone rfl rfl)
  | install =>
    have hReady : c.flags.pairReady = false := congrArg Prod.fst (hNone rfl rfl)
    exact .of_reopens rfl (hTerminal rfl) (congrArg (·, false) hReady)
  | retry hAlive | epochLeft hAlive => exact .of_reopens rfl hAlive (hNone rfl rfl)
  | advance =>
    refine .of_idle rfl rfl rfl ?_
    unfold Client.advanceEpoch
    split <;> exact hNone rfl rfl
  -- the pair lives
  | prepare =>
    refine ⟨fun _ hFlag => ?_, by simp [SupervisorPc.retires], by simp [SupervisorPc.reopens],
      fun _ => .inl rfl⟩
    rw [show (c.prepareConnectionPair _).flags.terminalSessionFailure = false from hTerminal rfl]
      at hFlag
    cases hFlag
  | attach =>
    exact ⟨fun _ => hLives.waits rfl, by simp [SupervisorPc.retires],
      by simp [SupervisorPc.reopens], fun _ => .inl rfl⟩
  | unattached hPair | ended hPair => exact .of_retires rfl (hOver _ rfl hPair)
  -- the pair is taken down
  | joinControl | joinWork | replaceBegin | replaceWait | release | error | notified =>
    exact .of_retires rfl (hRetires rfl)
  | @notify _ source _ error =>
    have hRest : c.Subsides (c.notifySourceClosed env source error) := .notifySourceClosed _ _
    exact .of_retires rfl ((hRetires rfl).imp hRest.failed hRest.stopped)
  | clear => exact .of_idle rfl rfl rfl rfl

-- ---------------------------------------------------------------------------
-- The system
-- ---------------------------------------------------------------------------

/-- A worker that holds no job, before and after its step, leaves the client alone. -/
theorem WorkerMove.idle {pc pc' : WorkerPc} (h : WorkerMove env c pc pc' c')
    (hJob : pc.job? = none) (hJob' : pc'.job? = none) : c' = c := by
  cases h with
  | exit => rfl
  | pop => cases hJob'
  | quiet hSome | commit _ hSome | refuse _ hSome =>
    rw [hSome] at hJob
    cases hJob
  | accept | startOperation | startUnary | returnUnary | returnOperation | erase | leave | finish
  | startSource | returnSource | commitSource | leaveSource => cases hJob

/-- Outside a pair only the supervisor can find the session lost. -/
theorem terminal_of_outside {a : Action} (hShape : Shape s)
    (hPhase : s.supervisor.phase = .outside) (hStep : s.step env a = some s')
    (hOther : ∀ input, a ≠ .supervisor input)
    (hTerminal : s'.client.flags.terminalSessionFailure = true) :
    s.client.flags.terminalSessionFailure = true := by
  obtain ⟨hReader, hWriter, hWork⟩ := hShape.threads.paired hPhase
  have hAbsurd : ∀ {fence? : Option SessionFence} {fence : SessionFence}, fence? = none →
      fence? = some fence → False := by
    intro fence? fence hNone hSome
    rw [hNone] at hSome
    cases hSome
  cases System.step_cases hStep with
  | @supervisor input => exact absurd rfl (hOther input)
  | @worker i input pc' c' hWorker =>
    -- a worker holds nothing outside a pair
    have hHolds : s.supervisor.phase.holds = false := by
      rw [hPhase]
      rfl
    have hJob := hShape.occupancy.holds hHolds i
    have hJob' : pc'.job? = none := by
      have hAfter := (hShape.step hStep).occupancy.holds hHolds i
      simpa [System.setWorker] using hAfter
    rw [← (workerStep_cases hWorker).idle hJob hJob']
    exact hTerminal
  | workReader hStep' =>
    -- the threads of a pair are gone
    obtain ⟨fence, hFence, -⟩ := workReaderStep_fence hStep'
    exact (hAbsurd (hShape.threads.workReader (by rw [hPhase]; rfl)) hFence).elim
  | controlReader hStep' =>
    obtain ⟨fence, hFence, -⟩ := controlReaderStep_fence hStep'
    exact (hAbsurd hReader hFence).elim
  | controlWriter hStep' =>
    obtain ⟨fence, hFence, -⟩ := controlWriterStep_fence hStep'
    exact (hAbsurd hWriter hFence).elim
  | workWriter hStep' =>
    obtain ⟨fence, hFence, -⟩ := workWriterStep_fence hStep'
    exact (hAbsurd hWork hFence).elim
  | @publishSource streamId items =>
    -- the application sets no flag
    have hFlags : (publishSource env s.client streamId items).2.flags = s.client.flags :=
      congrArg Surround.flags surround_publishSource
    rw [← hFlags]
    exact hTerminal
  | @closeSource streamId error =>
    have hFlags : (closeSource env s.client streamId error).2.flags = s.client.flags :=
      congrArg Surround.flags surround_closeSource
    rw [← hFlags]
    exact hTerminal
  | flags _ _ _ _ _ _ _ _ hSame =>
    rw [← hSame]
    exact hTerminal
  | startThreads => cases hTerminal
  | joinSupervisor | joinWorkers => exact hTerminal
  | stopDeactivate _ hDeactivate hNext =>
    have hFlags := flags_deactivateStep hDeactivate
    obtain ⟨_, -, -, rfl⟩ | ⟨-, -, rfl⟩ := hNext <;> obtain hEq | hEq := hFlags <;>
      simpa [hEq] using hTerminal
  | stopReset => cases hTerminal

/-- On the way to a pair the supervisor is outside of one. -/
theorem SupervisorPc.outside_of_reopens {pc : SupervisorPc} (h : pc.reopens = true) :
    pc.phase = .outside := by
  cases pc <;> first | rfl | cases h

/-- A supervisor with the threads of a pair running waits on the pair or retires it. -/
theorem SupervisorPc.paired {pc : SupervisorPc}
    (h : pc.phase.control = true ∨ pc.phase.work = true) :
    (pc.waits = true ∨ pc.retires = true) ∧ pc.reopens = false := by
  cases pc <;> simp_all [SupervisorPc.phase, SupervisorPc.waits, SupervisorPc.retires,
    SupervisorPc.reopens, PairPhase.control, PairPhase.work]

/-- A step of the threads of a pair. -/
theorem SupervisorPc.Lives.steady {pc : SupervisorPc} (h : pc.Lives c)
    (hPhase : pc.phase.control = true ∨ pc.phase.work = true) (hSteady : c.Steady c') :
    pc.Lives c' := by
  obtain ⟨hPair, hReopens⟩ := SupervisorPc.paired hPhase
  exact ⟨fun hWaits => hSteady.doomed (h.waits hWaits),
    fun hRetires => (h.retires hRetires).imp hSteady.failed hSteady.stopped,
    by simp [hReopens], fun _ => hPair⟩

/-- A step that leaves the progress alone, and outside a pair the terminal flag too. -/
theorem SupervisorPc.Lives.kept {pc : SupervisorPc} (h : pc.Lives c)
    (hProgress : c'.flags.progress = c.flags.progress)
    (hDoomed : (c.flags.terminalSessionFailure = true → c.flags.sessionFailed = true) →
      c'.flags.terminalSessionFailure = true → c'.flags.sessionFailed = true)
    (hFailed : c.flags.sessionFailed = true → c'.flags.sessionFailed = true)
    (hStopped : c.flags.stopRequested = true → c'.flags.stopRequested = true)
    (hTerminal : pc.phase = .outside → c'.flags.terminalSessionFailure = true →
      c.flags.terminalSessionFailure = true) : pc.Lives c' := by
  refine ⟨fun hWaits => hDoomed (h.waits hWaits),
    fun hRetires => (h.retires hRetires).imp hFailed hStopped, fun hReopens => ?_, ?_⟩
  · by_contra hNot
    have hWas := hTerminal (SupervisorPc.outside_of_reopens hReopens) (by simpa using hNot)
    rw [h.reopens hReopens] at hWas
    cases hWas
  · rw [hProgress]
    exact h.progress

/-- Every step keeps the supervisor's view of the lifecycle flags. -/
theorem lives_step {a : Action} (hReach : (machine env).Reachable s)
    (h : s.supervisor.Lives s.client) (hStep : (machine env).step s a = some s') :
    s'.supervisor.Lives s'.client := by
  have hShape := shape_of_reachable hReach
  have hOutside : ∀ {a : Action}, (machine env).step s a = some s' →
      (∀ input, a ≠ .supervisor input) → s.supervisor.phase = .outside →
      s'.client.flags.terminalSessionFailure = true →
      s.client.flags.terminalSessionFailure = true :=
    fun hStep hOther hPhase => terminal_of_outside hShape hPhase hStep hOther
  -- nothing is left of a session that has been stopped
  have hGone : s.supervisor = .notStarted → s'.supervisor = .notStarted →
      s'.client.flags.progress = (false, false) → s'.supervisor.Lives s'.client := by
    intro hPc hPc' hNone
    rw [hPc']
    exact .of_idle rfl rfl rfl hNone
  have hAlone : s.supervisor = .notStarted → s.client.flags.progress = (false, false) := by
    intro hPc
    rw [hPc] at h
    exact h.no_progress rfl rfl
  cases System.step_cases hStep with
  | @supervisor input pc' c' hSupervisor =>
    -- the supervisor decides over its pair
    refine lives_supervisorStep hSupervisor ?_ h
    intro fence hFence
    exact (hShape.threads.supervisorFence fence hFence).sessionId.symm
  | worker hWorker =>
    -- workers and the Work reader signal, but end no pair
    have hRest := (workerStep_cases hWorker).subsides
    exact h.kept (Client.progress_of_helm (helm_workerStep hWorker)) hRest.doomed hRest.failed
      hRest.stopped (hOutside hStep (by simp))
  | workReader hReader =>
    have hRest := (workReaderStep_cases hReader).subsides
    exact h.kept (Client.progress_of_helm (helm_workReaderStep hReader)) hRest.doomed hRest.failed
      hRest.stopped (hOutside hStep (by simp))
  | controlReader hReader =>
    -- the threads of the Control plane run inside the pair
    obtain ⟨fence, hFence, -⟩ := controlReaderStep_fence hReader
    exact h.steady (.inl (hShape.threads.phase_of_controlReader hFence))
      (steady_controlReaderStep hReader)
  | controlWriter hWriter =>
    obtain ⟨fence, hFence, -⟩ := controlWriterStep_fence hWriter
    exact h.steady (.inl (hShape.threads.phase_of_controlWriter hFence))
      (steady_controlWriterStep hWriter)
  | workWriter hWriter =>
    obtain ⟨fence, hFence, -⟩ := workWriterStep_fence hWriter
    exact h.steady (.inr (hShape.threads.phase_of_workWriter hFence))
      (steady_workWriterStep hWriter)
  | publishSource =>
    -- the calls of the application
    exact h.kept (congrArg (fun k : Surround => k.flags.progress) surround_publishSource)
      subsides_publishSource.doomed subsides_publishSource.failed subsides_publishSource.stopped
      (hOutside hStep (by simp))
  | closeSource =>
    exact h.kept (congrArg (fun k : Surround => k.flags.progress) surround_closeSource)
      subsides_closeSource.doomed subsides_closeSource.failed subsides_closeSource.stopped
      (hOutside hStep (by simp))
  | flags _ hRest _ _ _ _ hHelm _ hTerminal =>
    exact h.kept (Client.progress_of_helm hHelm) hRest.doomed hRest.failed hRest.stopped
      (fun _ hNow => hTerminal ▸ hNow)
  | startThreads hFully =>
    -- a start comes after a reset
    have hPc := System.notStarted_of_fullyStopped hFully
    exact .of_reopens rfl rfl (hAlone hPc)
  | joinSupervisor hDone =>
    refine .of_idle rfl rfl rfl ?_
    -- a supervisor that is joined has no pair
    obtain hPc | hPc := hDone <;> rw [hPc] at h <;> exact h.no_progress rfl rfl
  | joinWorkers => exact h
  | stopDeactivate hStopper hDeactivate hNext =>
    have hPc : s.supervisor = .notStarted := hShape.threads.stopper (by rw [hStopper]; rfl)
    have hNone := (progress_deactivateStep hDeactivate).trans (hAlone hPc)
    obtain ⟨_, -, rfl, rfl⟩ | ⟨-, rfl, rfl⟩ := hNext <;> exact hGone hPc hPc hNone
  | stopReset hStopper =>
    have hPc : s.supervisor = .notStarted := hShape.threads.stopper (by rw [hStopper]; rfl)
    exact hGone hPc hPc rfl

/-- In every reachable state the supervisor's view of the flags is right. -/
theorem lives_of_reachable (h : (machine env).Reachable s) : s.supervisor.Lives s.client := by
  refine Machine.Reachable.invariant (I := fun s => s.supervisor.Lives s.client) ?_ ?_ h
  · exact .of_idle rfl rfl rfl rfl
  · intro s a s' hReach hLives hStep
    exact lives_step hReach hLives hStep

end AdapterRuntime.Model
