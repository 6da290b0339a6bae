import AdapterRuntime.Proof.Retries
import AdapterRuntime.Proof.Lifecycle
import AdapterRuntime.Proof.SourceLedger

/-!
# AdapterRuntime — the end of a session

A client registers once, and its session ends once: it is given up by the supervisor,
which deactivates the application and reports the loss, or it is stopped.

* `Ended.step` — nothing is called, opened or written once the session is lost.
* `Doomed.step` — no pair is opened after one with a terminal failure.
* `supervision` — what the supervisor of every run keeps to.
-/

namespace AdapterRuntime.Model

open AdapterRuntime.Lib LifecycleEvent

variable {env : Env} {c c' : Client} {s s' : System}

-- ---------------------------------------------------------------------------
-- The registration
-- ---------------------------------------------------------------------------

/-- The supervisor is about to send `Register`. -/
def System.sendsRegister (s : System) : Action → Bool
  | .supervisor .tick =>
    match s.supervisor with
    | .register => !s.client.flags.registrationAttempted && !s.client.flags.stopRequested
    | _ => false
  | _ => false

/-- The registrations a run sent. -/
def registrations (steps : List (System × Action)) : Nat :=
  steps.countP fun step => step.1.sendsRegister step.2

/-- A registration is sent by a client that has attempted none, and is an attempt. -/
theorem attempted_of_sends {a : Action} (hStep : s.step env a = some s')
    (hSends : s.sendsRegister a = true) : s.client.flags.registrationAttempted = false ∧
      s'.client.flags.registrationAttempted = true := by
  unfold System.sendsRegister at hSends
  split at hSends
  · split at hSends
    · rename_i hPc
      rw [Bool.and_eq_true, Bool.not_eq_true', Bool.not_eq_true'] at hSends
      refine ⟨hSends.1, ?_⟩
      simp only [System.step, System.supervisorAction, hPc, supervisorStep, hSends.1, hSends.2,
        Bool.false_eq_true, if_false, Option.map_some, Option.some.injEq] at hStep
      rw [← hStep]
      rfl
    · cases hSends
  · cases hSends

/-- An attempted registration stays attempted. -/
theorem attempted_kept {a : Action} (hStep : s.step env a = some s')
    (hAttempted : s.client.flags.registrationAttempted = true) :
    s'.client.flags.registrationAttempted = true := by
  by_cases hOther : ∀ input, a ≠ .supervisor input
  · rw [attempted_other hStep hOther]
    exact hAttempted
  · simp only [ne_eq, not_forall, not_not] at hOther
    obtain ⟨input, rfl⟩ := hOther
    simp only [System.step, System.supervisorAction, Option.map_eq_some_iff] at hStep
    obtain ⟨⟨pc', c'⟩, hSupervisor, rfl⟩ := hStep
    obtain hSame | ⟨-, -, hTrue⟩ := (supervises_of_step hSupervisor).attempted
    · exact hSame.trans hAttempted
    · exact hTrue

/-- A run sends one registration at most, and none before the first attempt. -/
theorem registrations_le {steps : List (System × Action)} (h : (machine env).Run steps s) :
    registrations steps ≤ 1 ∧
      (s.client.flags.registrationAttempted = false → registrations steps = 0) := by
  refine Machine.Run.invariant (M := machine env) (I := fun steps s => registrations steps ≤ 1 ∧
    (s.client.flags.registrationAttempted = false → registrations steps = 0))
    ⟨Nat.zero_le _, fun _ => rfl⟩ ?_ h
  intro steps s a s' _ hPast hStep
  have hCons : registrations ((s, a) :: steps) =
      registrations steps + if s.sendsRegister a then 1 else 0 := by
    simp [registrations, List.countP_cons]
  rw [hCons]
  cases hSends : s.sendsRegister a with
  | true =>
    obtain ⟨hFresh, hAttempted⟩ := attempted_of_sends hStep hSends
    rw [hPast.2 hFresh]
    refine ⟨by simp, fun hNot => ?_⟩
    rw [hAttempted] at hNot
    cases hNot
  | false =>
    refine ⟨by simpa using hPast.1, fun hNot => ?_⟩
    have hFresh : s.client.flags.registrationAttempted = false := by
      by_contra hSome
      rw [attempted_kept hStep (by simpa using hSome)] at hNot
      cases hNot
    simpa using hPast.2 hFresh

-- ---------------------------------------------------------------------------
-- The loss of a session
-- ---------------------------------------------------------------------------

namespace SupervisorPc

/-- The supervisor gives the session up as lost. -/
def lost : SupervisorPc → Bool
  | .lostTerminal | .lostBudget | .deactivating _ _ (.sessionLost _) | .enterLost _
  | .reportLost => true
  | _ => false

/-- The registration has failed. -/
def refused : SupervisorPc → Bool
  | .registerFailed _ => true
  | _ => false

end SupervisorPc

/-- A session is lost after it was begun, or when the registration failed. -/
theorem lost_of_step {controlDone workDone : Bool} {pc pc' : SupervisorPc}
    {input : SupervisorInput}
    (h : supervisorStep env c controlDone workDone pc input = some (pc', c'))
    (hLost : pc'.lost = true) : pc.lost = true ∨ pc.begun = true ∨
      (pc.refused = true ∧ c.flags.stopRequested = false) := by
  cases supervisorStep_branch h with
  | lock hLocks =>
    cases hLocks with
    | unregistered hRunning => exact .inr (.inr ⟨rfl, hRunning⟩)
    | terminal | budget => exact .inl rfl
    | stopped | stoppedInPair => cases hLost
    | exhausted => exact .inr (.inl rfl)
  -- a deactivation for a loss goes on as one
  | @deactivate _ _ _ after =>
    cases after with
    | sessionLost => exact .inl rfl
    | stopped => cases hLost
  | @deactivated _ _ after =>
    cases after with
    | sessionLost => exact .inl rfl
    | stopped => cases hLost
  | enterLost => exact .inl rfl
  -- the points inside the session, and those that lead to no loss
  | terminal | spent => exact .inr (.inl rfl)
  | refuse | register | unanswered | registered | giveUp | install | goOn | prepare | unattached
  | attach | ended | joinControl | joinWork | replaceBegin | replaceWait | release | error
  | notified | notify | clear | unstopped | retry | advance | epochLeft | backOff | alreadyLost
  | reportLost | endSession => cases hLost

/-- The registration fails after an attempt, or because of a stop. -/
theorem refused_of_step {controlDone workDone : Bool} {pc pc' : SupervisorPc}
    {input : SupervisorInput}
    (h : supervisorStep env c controlDone workDone pc input = some (pc', c'))
    (hRefused : pc'.refused = true) : pc.begun = true ∨
      c.flags.registrationAttempted = true ∨ c.flags.stopRequested = true := by
  cases supervisorStep_branch h with
  | refuse hEither => exact .inr hEither
  | unanswered => exact .inl rfl
  | @deactivated _ _ after => cases after <;> cases hRefused
  | @enterLost _ notify => cases notify <;> cases hRefused
  | _ => cases hRefused

/-- A stop stays requested until the next `Start`. -/
theorem stopped_other {a : Action} (hStep : s.step env a = some s')
    (hOther : ∀ input, a ≠ .supervisor input) (hStarted : s'.supervisor ≠ .register)
    (hStop : s.client.flags.stopRequested = true) : s'.client.flags.stopRequested = true := by
  cases System.step_cases hStep with
  | @supervisor input => exact absurd rfl (hOther input)
  | worker hWorker => exact (workerStep_cases hWorker).subsides.stopped hStop
  | workReader hReader => exact (workReaderStep_cases hReader).subsides.stopped hStop
  | controlReader hReader => exact (steady_controlReaderStep hReader).stopped hStop
  | controlWriter hWriter => exact (steady_controlWriterStep hWriter).stopped hStop
  | workWriter hWriter => exact (steady_workWriterStep hWriter).stopped hStop
  | publishSource => exact subsides_publishSource.stopped hStop
  | closeSource => exact subsides_closeSource.stopped hStop
  | flags hCore hSubsides => exact hSubsides.stopped hStop
  | startThreads => exact absurd rfl hStarted
  | joinSupervisor | joinWorkers | stopReset => exact hStop
  | stopDeactivate _ hDeactivate hNext =>
    obtain ⟨_, -, -, rfl⟩ | ⟨-, -, rfl⟩ := hNext <;>
      exact (steady_deactivateStep hDeactivate).stopped hStop

/-- A session is lost only after its registration was attempted. -/
theorem attempted_of_lost (h : (machine env).Reachable s) :
    (s.supervisor.lost = true → s.client.flags.registrationAttempted = true) ∧
      (s.supervisor.refused = true → s.client.flags.registrationAttempted = true ∨
        s.client.flags.stopRequested = true) := by
  refine Machine.Reachable.invariant (M := machine env) (I := fun s =>
    (s.supervisor.lost = true → s.client.flags.registrationAttempted = true) ∧
      (s.supervisor.refused = true → s.client.flags.registrationAttempted = true ∨
        s.client.flags.stopRequested = true)) ⟨(fun h => by cases h), fun h => by cases h⟩ ?_ h
  intro s a s' hReach hPast hStep
  have hKept := attempted_kept hStep
  have hBegun : s.supervisor.begun = true → s'.client.flags.registrationAttempted = true :=
    fun hBegun => hKept ((single_of_reachable hReach).begun hBegun)
  by_cases hOther : ∀ input, a ≠ .supervisor input
  · obtain hPc | hPc | hPc := supervisor_of_step hStep hOther
    · rw [hPc]
      refine ⟨fun hLost => hKept (hPast.1 hLost), fun hRefused => ?_⟩
      refine (hPast.2 hRefused).imp hKept (stopped_other hStep hOther ?_)
      rw [hPc]
      intro hRegister
      rw [hRegister] at hRefused
      cases hRefused
    · rw [hPc]
      exact ⟨(fun hLost => by cases hLost), fun hRefused => by cases hRefused⟩
    · rw [hPc]
      exact ⟨(fun hLost => by cases hLost), fun hRefused => by cases hRefused⟩
  · simp only [ne_eq, not_forall, not_not] at hOther
    obtain ⟨input, rfl⟩ := hOther
    have hStep' := hStep
    simp only [machine, System.step, System.supervisorAction, Option.map_eq_some_iff] at hStep'
    obtain ⟨⟨pc', c'⟩, hSupervisor, rfl⟩ := hStep'
    refine ⟨fun hLost => ?_, fun hRefused => ?_⟩
    · obtain hWas | hWas | ⟨hWas, hStop⟩ := lost_of_step hSupervisor hLost
      · exact hKept (hPast.1 hWas)
      · exact hBegun hWas
      · obtain hAttempted | hStopped := hPast.2 hWas
        · exact hKept hAttempted
        · rw [hStop] at hStopped
          cases hStopped
    · obtain hWas | hWas | hWas := refused_of_step hSupervisor hRefused
      · exact .inl (hBegun hWas)
      · exact .inl (hKept hWas)
      · exact .inr ((supervises_of_step hSupervisor).stopped hWas)

-- ---------------------------------------------------------------------------
-- After the loss
-- ---------------------------------------------------------------------------

/-- A deactivation with nothing to do. -/
def DeactivationPlan.Empty (plan : DeactivationPlan) : Prop :=
  plan.bindings = [] ∧ plan.streams = [] ∧ plan.hadSpec = false

/-- What a deactivation finds when nothing is committed. -/
def DeactivatePc.Empty : DeactivatePc → Prop
  | .locked => True
  | .waiting plan | .clearing plan => plan.Empty
  | .stopping remaining plan => remaining = [] ∧ plan.Empty
  | .notifying remaining => remaining = []

/-- Without a spec and without sources a deactivation finds nothing to do. -/
theorem deactivateStep_empty {reason : Text} {at_ : DeactivatePc} {next : Option DeactivatePc}
    (h : deactivateStep env reason c at_ = some (next, c')) (hEmpty : at_.Empty)
    (hVacant : c.spec.Vacant) (hSources : c.tables.sourceStreams = ∅) :
    (∀ pc, next = some pc → pc.Empty) ∧ c'.trace = c.trace ∧ c'.history = c.history := by
  cases deactivateStep_move h with
  | begin =>
    refine ⟨fun pc hPc => ?_, rfl, rfl⟩
    cases hPc
    have hCapabilities := hVacant.capabilities
    have hRevision := hVacant.revision
    refine ⟨?_, ?_, ?_⟩
    · show (inKeyOrder c.spec.activeCapabilities).map (·.bindingIndex) = []
      rw [hCapabilities]
      rfl
    · show inKeyOrder c.tables.sourceStreams = []
      rw [hSources]
      rfl
    · show (c.spec.specRevision != 0) = false
      rw [hRevision]
      rfl
  | waited =>
    refine ⟨fun pc hPc => ?_, rfl, rfl⟩
    cases hPc
    exact ⟨by rw [hEmpty.1, List.reverse_nil], hEmpty⟩
  | stopped => exact ⟨fun pc hPc => by cases hPc; exact hEmpty.2, rfl, rfl⟩
  | stop => cases hEmpty.1
  | clear =>
    rw [hEmpty.2.2]
    exact ⟨fun pc hPc => by cases hPc; exact hEmpty.2.1, rfl, rfl⟩
  | notify => cases hEmpty
  | finish => exact ⟨(fun pc hPc => by cases hPc), rfl, rfl⟩

/-- Where nothing is committed a deactivation commits nothing. -/
theorem vacant_after_deactivateStep {reason : Text} {at_ : DeactivatePc}
    {next : Option DeactivatePc} (h : deactivateStep env reason c at_ = some (next, c'))
    (hVacant : c.spec.Vacant) : c'.spec.Vacant := by
  obtain ⟨-, -, -, hAfter, -⟩ | ⟨-, -, hEq⟩ := spec_deactivateStep h
  · exact hAfter
  · rw [hEq]
    exact hVacant

/-- The session was lost, and nothing is left of it. -/
structure Ended (s : System) : Prop where
  supervisor : s.supervisor = .finished ∨ s.supervisor = .notStarted
  attempted : s.client.flags.registrationAttempted = true
  vacant : s.client.spec.Vacant
  stopper : ∀ at_, s.stopper = .deactivating at_ → at_.Empty

theorem history_publishSource {streamId : Text} {items : List Text}
    (hSources : c.tables.sourceStreams = ∅) :
    (publishSource env c streamId items).2.history = c.history := by
  obtain ⟨-, source, hPublishes, -⟩ | ⟨-, hRefused⟩ :=
    publishSource_cases (Prod.mk.eta (p := publishSource env c streamId items)).symm
  · have hActive := hPublishes.active
    rw [hSources] at hActive
    cases hActive
  · rcases hRefused with hEq | hEq
    · rw [hEq]
    · rw [hEq]
      rfl

theorem history_closeSource {streamId : Text} {error : Option AdapterError}
    (hSources : c.tables.sourceStreams = ∅) :
    (closeSource env c streamId error).2.history = c.history := by
  obtain ⟨-, source, digest, hActive, -⟩ | ⟨-, hRefused⟩ :=
    closeSource_cases (Prod.mk.eta (p := closeSource env c streamId error)).symm
  · rw [hSources] at hActive
    cases hActive
  · rcases hRefused with hEq | hEq
    · rw [hEq]
    · rw [hEq]
      rfl

/-- Nothing is called, opened, written or handled once a session is lost. -/
theorem Ended.step {a : Action} (h : Ended s) (hReach : (machine env).Reachable s)
    (hStep : (machine env).step s a = some s') :
    Ended s' ∧ s'.client.trace = s.client.trace ∧ s'.client.history = s.client.history := by
  have hShape := shape_of_reachable hReach
  have hShape' := shape_of_reachable (hReach.step hStep)
  have hAttempted : s'.client.flags.registrationAttempted = true :=
    attempted_kept hStep h.attempted
  have hPhase : s.supervisor.phase = .outside := by
    obtain hPc | hPc := h.supervisor <;> (rw [hPc]; rfl)
  -- no pair is running: no source, no reader and no writer
  have hSources : s.client.tables.sourceStreams = ∅ :=
    sources_in_pair hReach (by rw [hPhase]; rfl)
  obtain ⟨hReader, hWriter, hWork⟩ := hShape.threads.paired hPhase
  have hAbsurd : ∀ {fence? : Option SessionFence} {fence : SessionFence}, fence? = none →
      fence? = some fence → False := by
    intro fence? fence hNone hSome
    rw [hNone] at hSome
    cases hSome
  cases System.step_cases hStep with
  | supervisor hSupervisor =>
    obtain hPc | hPc := h.supervisor <;> rw [hPc] at hSupervisor <;> cases hSupervisor
  | @worker i input pc' c' hWorker =>
    -- a worker holds nothing and finds nothing
    have hHolds : s.supervisor.phase.holds = false := by
      rw [hPhase]
      rfl
    have hJob' : pc'.job? = none := by
      have hAfter := hShape'.occupancy.holds hHolds i
      simpa [System.setWorker] using hAfter
    have hSame := (workerStep_cases hWorker).idle (hShape.occupancy.holds hHolds i) hJob'
    subst hSame
    exact ⟨⟨h.supervisor, h.attempted, h.vacant, h.stopper⟩, rfl, rfl⟩
  -- the threads of a pair are gone
  | workReader hStep' =>
    obtain ⟨fence, hFence, -⟩ := workReaderStep_fence hStep'
    exact (hAbsurd (hShape.threads.workReader (by rw [hPhase]; rfl)) hFence).elim
  | controlReader hStep' =>
    obtain ⟨fence, hFence, -⟩ := controlReaderStep_fence hStep'
    exact (hAbsurd hReader hFence).elim
  | controlWriter hStep' =>
    obtain ⟨fence, hFence, -⟩ := controlWriterStep_fence hStep'
    exact (hAbsurd hWriter hFence).elim
  | workWriter hStep' =>
    obtain ⟨fence, hFence, -⟩ := workWriterStep_fence hStep'
    exact (hAbsurd hWork hFence).elim
  | @publishSource streamId items =>
    -- the application finds no source under the identity it names
    have hSurround : (publishSource env s.client streamId items).2.surround = s.client.surround :=
      surround_publishSource
    have hSpec : (publishSource env s.client streamId items).2.spec = s.client.spec :=
      congrArg Surround.spec hSurround
    exact ⟨⟨h.supervisor, hAttempted, hSpec ▸ h.vacant, h.stopper⟩,
      congrArg Surround.trace hSurround, history_publishSource hSources⟩
  | @closeSource streamId error =>
    have hSurround : (closeSource env s.client streamId error).2.surround = s.client.surround :=
      surround_closeSource
    have hSpec : (closeSource env s.client streamId error).2.spec = s.client.spec :=
      congrArg Surround.spec hSurround
    exact ⟨⟨h.supervisor, hAttempted, hSpec ▸ h.vacant, h.stopper⟩,
      congrArg Surround.trace hSurround, history_closeSource hSources⟩
  | @flags _ c' _ stopper _ _ _ _ _ _ _ hStop _ hClient =>
    -- a `Stop` that begins now has nothing to deactivate
    have hStopper : ∀ at_, stopper = .deactivating at_ → at_.Empty := by
      intro at_ hAt
      obtain hEq | ⟨-, hEq⟩ | ⟨-, hEq⟩ := hStop
      · exact h.stopper at_ (hEq ▸ hAt)
      · rw [hEq] at hAt
        cases hAt
      · rw [hEq] at hAt
        cases hAt
        trivial
    obtain rfl | rfl | rfl := hClient <;>
      exact ⟨⟨h.supervisor, h.attempted, h.vacant, hStopper⟩, rfl, rfl⟩
  | startThreads _ _ hStarter =>
    -- a second `Start` would need a reset client
    have hFresh := (single_of_reachable hReach).unattempted hStarter
    rw [h.attempted] at hFresh
    cases hFresh
  | joinSupervisor =>
    exact ⟨⟨.inr rfl, h.attempted, h.vacant, fun at_ hAt => by cases hAt⟩, rfl, rfl⟩
  | joinWorkers =>
    exact ⟨⟨h.supervisor, h.attempted, h.vacant, fun at_ hAt => by cases hAt⟩, rfl, rfl⟩
  | stopDeactivate hStopper hDeactivate hNext =>
    -- the deactivation of `Stop` calls no callback
    obtain ⟨hEmpty, hTrace, hHistory⟩ :=
      deactivateStep_empty hDeactivate (h.stopper _ hStopper) h.vacant hSources
    have hVacant := vacant_after_deactivateStep hDeactivate h.vacant
    obtain ⟨pc, hPc, rfl, rfl⟩ | ⟨-, rfl, rfl⟩ := hNext
    · refine ⟨⟨h.supervisor, hAttempted, hVacant, fun at_ hAt => ?_⟩, hTrace, hHistory⟩
      cases hAt
      exact hEmpty _ hPc
    · exact ⟨⟨h.supervisor, hAttempted, hVacant, fun at_ hAt => by cases hAt⟩, hTrace, hHistory⟩
  | stopReset =>
    exact ⟨⟨h.supervisor, h.attempted, ⟨rfl, rfl, rfl, rfl, rfl⟩, fun at_ hAt => by cases hAt⟩,
      rfl, rfl⟩

/-- The supervisor is about to invoke `session_lost`. -/
def System.reportsLost (env : Env) (s : System) : Action → Bool
  | .supervisor .tick =>
    match s.supervisor with
    | .reportLost => env.callbacks.sessionLost
    | _ => false
  | _ => false

/-- The step that reports the loss is the supervisor's. -/
theorem reportLost_of_reports {a : Action} (h : s.reportsLost env a = true) :
    a = .supervisor .tick ∧ s.supervisor = .reportLost ∧ env.callbacks.sessionLost = true := by
  unfold System.reportsLost at h
  split at h
  · split at h
    · rename_i hPc
      exact ⟨rfl, hPc, h⟩
    · cases h
  · cases h

/-- Once the loss is reported the session is over. -/
theorem ended_of_reports {a : Action} (hReach : (machine env).Reachable s)
    (hStep : (machine env).step s a = some s') (h : s.reportsLost env a = true) : Ended s' := by
  obtain ⟨rfl, hPc, hBound⟩ := reportLost_of_reports h
  have hAttempted := (attempted_of_lost hReach).1 (by rw [hPc]; rfl)
  have hVacant := (standing_of_reachable hReach).settled (by rw [hPc]; rfl)
  have hStop := ((shape_of_reachable hReach).threads.stopper_waits (by rw [hPc]; simp)).1
  simp only [machine, System.step, System.supervisorAction, hPc, supervisorStep, hBound, if_true,
    Option.map_some, Option.some.injEq] at hStep
  subst hStep
  have hSpawn : s.spawn .finished = s := by
    unfold System.spawn
    rw [hPc]
  refine ⟨.inl rfl, hAttempted, hVacant, fun at_ hAt => ?_⟩
  rw [hSpawn] at hAt
  have hAt' : s.stopper = .deactivating at_ := hAt
  rw [hAt'] at hStop
  cases hStop

/-- `session_lost` is invoked when nothing is left to be undone. -/
theorem quiet_of_reports {a : Action} (hReach : (machine env).Reachable s)
    (h : s.reportsLost env a = true) : Quiet env s.client.calls ∧ s.client.spec.Vacant := by
  obtain ⟨-, hPc, -⟩ := reportLost_of_reports h
  have hThreads := (shape_of_reachable hReach).threads
  have hVacant := (standing_of_reachable hReach).settled (by rw [hPc]; rfl)
  have hKept := (upholds_of_reachable hReach).settled
    (hThreads.no_transaction (by rw [hPc]; rfl)) (by rw [hPc]; rfl)
    (hThreads.stopper_waits (by rw [hPc]; simp)).1
  rw [hVacant.duty] at hKept
  exact ⟨hKept.quiet, hVacant⟩

/-- The losses a run reported. -/
def losses (env : Env) (steps : List (System × Action)) : Nat :=
  steps.countP fun step => step.1.reportsLost env step.2

/-- At most one loss is reported, and it ends the session. -/
theorem losses_le {steps : List (System × Action)} (h : (machine env).Run steps s) :
    losses env steps = 0 ∨ (losses env steps = 1 ∧ Ended s) := by
  refine Machine.Run.invariant (M := machine env)
    (I := fun steps s => losses env steps = 0 ∨ (losses env steps = 1 ∧ Ended s)) (.inl rfl) ?_ h
  intro steps s a s' hRun hPast hStep
  have hCons : losses env ((s, a) :: steps) =
      losses env steps + if s.reportsLost env a then 1 else 0 := by
    simp [losses, List.countP_cons]
  rw [hCons]
  cases hReports : s.reportsLost env a with
  | true =>
    refine .inr ⟨?_, ended_of_reports hRun.reachable hStep hReports⟩
    obtain hNone | ⟨-, hEnded⟩ := hPast
    · rw [hNone]
      rfl
    · -- a session that is over has no supervisor to report it
      obtain ⟨-, hPc, -⟩ := reportLost_of_reports hReports
      obtain hOver | hOver := hEnded.supervisor <;> rw [hPc] at hOver <;> cases hOver
  | false =>
    refine hPast.imp (fun hNone => by simpa using hNone) fun hOne => ?_
    exact ⟨by simpa using hOne.1, (hOne.2.step hRun.reachable hStep).1⟩

/-- What has ended stays as it is. -/
theorem Ended.path {t : System} (h : Ended s) (hReach : (machine env).Reachable s)
    (hPath : (machine env).Path (fun _ _ => True) s t) :
    Ended t ∧ t.client.trace = s.client.trace ∧ t.client.history = s.client.history := by
  refine hPath.preserves (I := fun t => Ended t ∧ t.client.trace = s.client.trace ∧
    t.client.history = s.client.history) ?_ hReach ⟨h, rfl, rfl⟩
  intro t a t' hReach' hKept _ hStep
  obtain ⟨hEnded, hTrace, hHistory⟩ := hKept.1.step hReach' hStep
  exact ⟨hEnded, hTrace.trans hKept.2.1, hHistory.trans hKept.2.2⟩

/-- An ended session opens no pair. -/
theorem Ended.opens_none (h : Ended s) (a : Action) : s.opensPair a = false := by
  by_cases hOther : ∀ input, a ≠ .supervisor input
  · exact opensPair_other hOther
  · simp only [ne_eq, not_forall, not_not] at hOther
    obtain ⟨input, rfl⟩ := hOther
    cases input with
    | tick =>
      show s.supervisor.opensPair = false
      obtain hPc | hPc := h.supervisor <;> (rw [hPc]; rfl)
    | registered => rfl

-- ---------------------------------------------------------------------------
-- Terminal failures
-- ---------------------------------------------------------------------------

/-- The Work reader is about to signal a terminal failure. -/
def WorkReaderPc.signalsTerminal : WorkReaderPc → Bool
  | .terminal _ _ | .lastTerminal _ => true
  | _ => false

/-- The Control reader is about to signal a terminal failure. -/
def ControlReaderPc.signalsTerminal : ControlReaderPc → Bool
  | .terminal _ _ | .lastTerminal _ => true
  | _ => false

/-- The Control writer is about to signal a terminal failure. -/
def ControlWriterPc.signalsTerminal : ControlWriterPc → Bool
  | .terminal _ _ => true
  | _ => false

/-- A thread of the pair is about to signal a terminal failure. -/
def System.signalsTerminal (s : System) : Action → Bool
  | .workReader _ => s.workReader.signalsTerminal
  | .controlReader _ => s.controlReader.signalsTerminal
  | .controlWriter _ => s.controlWriter.signalsTerminal
  | _ => false

namespace SupervisorPc

/-- The supervisor has a pair, or has just retired one. -/
def attends : SupervisorPc → Bool
  | .checkStop _ _ => true
  | pc => pc.waits || pc.retires

/-- The supervisor is about to look for a terminal failure. -/
def checksTerminal : SupervisorPc → Bool
  | .checkTerminal _ _ => true
  | _ => false

end SupervisorPc

/-- The supervisor opens no further pair. -/
structure Doomed (s : System) : Prop where
  attempted : s.client.flags.registrationAttempted = true
  ended : s.supervisor.begun = true →
    (s.supervisor.attends = true ∧ (s.client.flags.terminalSessionFailure = true ∨
      s.client.flags.stopRequested = true)) ∨
    (s.supervisor.checksTerminal = true ∧ s.client.flags.terminalSessionFailure = true)

/-- A session that has not been begun, or has been given up, is not begun again. -/
theorem begun_of_step {controlDone workDone : Bool} {pc pc' : SupervisorPc}
    {input : SupervisorInput}
    (h : supervisorStep env c controlDone workDone pc input = some (pc', c'))
    (hAttempted : c.flags.registrationAttempted = true) (hBegun : pc'.begun = true) :
    pc.begun = true := by
  cases supervisorStep_branch h with
  | register hFresh =>
    rw [hAttempted] at hFresh
    cases hFresh
  | @deactivated _ _ after =>
    rw [after.next_begun] at hBegun
    cases hBegun
  | @enterLost _ notify => cases notify <;> cases hBegun
  | refuse | giveUp | lock | deactivate | alreadyLost | reportLost | endSession => cases hBegun
  | unanswered | registered | install | goOn | prepare | unattached | attach | ended | joinControl
  | joinWork | replaceBegin | replaceWait | release | error | notified | notify | clear | unstopped
  | terminal | spent | retry | advance | epochLeft | backOff => rfl

/-- The supervisor retires a pair that is over, and gives the session up. -/
theorem doomed_supervisorStep {controlDone workDone : Bool} {pc pc' : SupervisorPc}
    {input : SupervisorInput}
    (h : supervisorStep env c controlDone workDone pc input = some (pc', c'))
    (hOver : (pc.attends = true ∧ (c.flags.terminalSessionFailure = true ∨
      c.flags.stopRequested = true)) ∨
      (pc.checksTerminal = true ∧ c.flags.terminalSessionFailure = true))
    (hBegun : pc'.begun = true) :
    (pc'.attends = true ∧ (c'.flags.terminalSessionFailure = true ∨
      c'.flags.stopRequested = true)) ∨
      (pc'.checksTerminal = true ∧ c'.flags.terminalSessionFailure = true) := by
  -- elsewhere the supervisor has no pair it would retire
  have hElse : pc.attends = false → pc.checksTerminal = false → False := by
    intro hAttends hChecks
    simp [hAttends, hChecks] at hOver
  -- and inside a pair it knows that the pair is over
  have hFlag : pc.checksTerminal = false → c.flags.terminalSessionFailure = true ∨
      c.flags.stopRequested = true := by
    intro hChecks
    simp only [hChecks, Bool.false_eq_true, false_and, or_false] at hOver
    exact hOver.2
  cases supervisorStep_branch h with
  | unattached | attach | ended | joinControl | joinWork | replaceBegin | replaceWait | release
  | error | notified | clear => exact .inl ⟨rfl, hFlag rfl⟩
  | notify =>
    rw [flags_notifySourceClosed]
    exact .inl ⟨rfl, hFlag rfl⟩
  | unstopped hRunning =>
    refine .inr ⟨rfl, (hFlag rfl).resolve_right ?_⟩
    rw [hRunning]
    exact Bool.false_ne_true
  | terminal => cases hBegun
  | spent hAlive | retry hAlive =>
    obtain ⟨hAttends, -⟩ | ⟨-, hTerminal⟩ := hOver
    · cases hAttends
    · rw [hAlive] at hTerminal
      cases hTerminal
  | lock => cases hBegun
  | refuse | register | unanswered | registered | giveUp | install | goOn | prepare | advance
  | epochLeft | backOff | deactivate | deactivated | alreadyLost | enterLost | reportLost
  | endSession => exact (hElse rfl rfl).elim

/-- The other threads leave a terminal failure of a session that is begun. -/
theorem terminal_other {a : Action} (hThreads : Threads s) (hStep : s.step env a = some s')
    (hOther : ∀ input, a ≠ .supervisor input) (hBegun : s.supervisor.begun = true)
    (hTerminal : s.client.flags.terminalSessionFailure = true) :
    s'.client.flags.terminalSessionFailure = true := by
  have hStarted : s.supervisor ≠ .notStarted := by
    intro hPc
    rw [hPc] at hBegun
    cases hBegun
  have hJoined : s.stopper.joined = true → False := fun hJoined =>
    hStarted (hThreads.stopper hJoined)
  cases System.step_cases hStep with
  | @supervisor input => exact absurd rfl (hOther input)
  | worker hWorker => exact (workerStep_cases hWorker).subsides.terminal hTerminal
  | workReader hReader => exact (workReaderStep_cases hReader).subsides.terminal hTerminal
  | controlReader hReader => exact (steady_controlReaderStep hReader).terminal hTerminal
  | controlWriter hWriter => exact (steady_controlWriterStep hWriter).terminal hTerminal
  | workWriter hWriter => exact (steady_workWriterStep hWriter).terminal hTerminal
  | publishSource => exact subsides_publishSource.terminal hTerminal
  | closeSource => exact subsides_closeSource.terminal hTerminal
  | flags hCore hSubsides => exact hSubsides.terminal hTerminal
  | startThreads hFully => exact absurd (System.notStarted_of_fullyStopped hFully) hStarted
  | joinSupervisor => exact hTerminal
  | joinWorkers => exact hTerminal
  | stopDeactivate hStopper => exact (hJoined (by rw [hStopper]; rfl)).elim
  | stopReset hStopper => exact (hJoined (by rw [hStopper]; rfl)).elim

/-- A doomed session stays doomed. -/
theorem Doomed.step {a : Action} (h : Doomed s) (hReach : (machine env).Reachable s)
    (hStep : (machine env).step s a = some s') : Doomed s' := by
  refine ⟨attempted_kept hStep h.attempted, fun hBegun => ?_⟩
  by_cases hOther : ∀ input, a ≠ .supervisor input
  · obtain hPc | hPc | hPc := supervisor_of_step hStep hOther
    · rw [hPc] at hBegun ⊢
      have hTerminal := terminal_other (shape_of_reachable hReach).threads hStep hOther hBegun
      have hStop := stopped_other hStep hOther (by
        rw [hPc]
        intro hRegister
        rw [hRegister] at hBegun
        cases hBegun)
      refine (h.ended hBegun).imp (fun hPair => ?_) fun hLast => ?_
      · exact ⟨hPair.1, hPair.2.imp hTerminal hStop⟩
      · exact ⟨hLast.1, hTerminal hLast.2⟩
    · rw [hPc] at hBegun
      cases hBegun
    · rw [hPc] at hBegun
      cases hBegun
  · simp only [ne_eq, not_forall, not_not] at hOther
    obtain ⟨input, rfl⟩ := hOther
    simp only [machine, System.step, System.supervisorAction, Option.map_eq_some_iff] at hStep
    obtain ⟨⟨pc', c'⟩, hSupervisor, rfl⟩ := hStep
    have hWas := begun_of_step hSupervisor h.attempted hBegun
    exact doomed_supervisorStep hSupervisor (h.ended hWas) hBegun

/-- A doomed session opens no pair. -/
theorem Doomed.opens_none (h : Doomed s) (a : Action) : s.opensPair a = false := by
  by_cases hOther : ∀ input, a ≠ .supervisor input
  · exact opensPair_other hOther
  · simp only [ne_eq, not_forall, not_not] at hOther
    obtain ⟨input, rfl⟩ := hOther
    cases input with
    | registered => rfl
    | tick =>
      show s.supervisor.opensPair = false
      by_contra hOpens
      cases hPc : s.supervisor <;> rw [hPc] at hOpens <;>
        first | exact hOpens rfl | skip
      have hOver := h.ended (by rw [hPc]; rfl)
      rw [hPc] at hOver
      simp [SupervisorPc.attends, SupervisorPc.waits, SupervisorPc.retires,
        SupervisorPc.checksTerminal] at hOver

/-- A signal from a thread of the current session is heard, or the client is stopping. -/
theorem signalTerminal_heard {session reason : Text} (h : c.session.sessionId = session) :
    (c.signalTerminalSessionFailure session reason).flags.terminalSessionFailure = true ∨
      (c.signalTerminalSessionFailure session reason).flags.stopRequested = true := by
  unfold Client.signalTerminalSessionFailure
  split
  · rename_i hIgnored
    exact .inr (hIgnored.resolve_left (not_not_intro h))
  · exact .inl rfl

/-- While a pair has a stream the supervisor attends to it. -/
theorem SupervisorPc.attends_of_pair {pc : SupervisorPc}
    (h : pc.phase.control = true ∨ pc.phase.work = true) : pc.attends = true := by
  obtain ⟨hPair, -⟩ := SupervisorPc.paired h
  cases pc <;> simp_all [SupervisorPc.attends]

theorem Threads.phase_of_workReader (h : Threads s) {fence : SessionFence}
    (hFence : s.workReader.fence? = some fence) : s.supervisor.phase.work = true := by
  by_contra hPhase
  rw [Bool.not_eq_true] at hPhase
  rw [h.workReader hPhase] at hFence
  cases hFence

/-- What a reader that signals a terminal failure does. -/
theorem workReaderStep_signals {pc pc' : WorkReaderPc} {input : ReaderInput WorkResponse}
    (h : workReaderStep env c pc input = some (pc', c')) (hSignals : pc.signalsTerminal = true) :
    ∃ fence reason, pc.fence? = some fence ∧
      c' = c.signalTerminalSessionFailure fence.sessionId reason := by
  cases pc with
  | terminal fence reason =>
    cases input <;> cases h
    exact ⟨fence, _, rfl, rfl⟩
  | lastTerminal fence =>
    cases input <;> cases h
    exact ⟨fence, _, rfl, rfl⟩
  | _ => cases hSignals

/-- What the Control reader signals is of its own session. -/
theorem controlReaderStep_signals {pc pc' : ControlReaderPc} {input : ReaderInput ControlResponse}
    (h : controlReaderStep env c pc input = some (pc', c'))
    (hSignals : pc.signalsTerminal = true) : ∃ fence reason, pc.fence? = some fence ∧
      c' = c.signalTerminalSessionFailure fence.sessionId reason := by
  cases pc with
  | terminal fence reason =>
    cases input <;> cases h
    exact ⟨fence, _, rfl, rfl⟩
  | lastTerminal fence =>
    cases input <;> cases h
    exact ⟨fence, _, rfl, rfl⟩
  | _ => cases hSignals

/-- What the Control writer signals is of its own session. -/
theorem controlWriterStep_signals {pc pc' : ControlWriterPc} {input : WriterInput}
    (h : controlWriterStep env c pc input = some (pc', c'))
    (hSignals : pc.signalsTerminal = true) : ∃ fence reason, pc.fence? = some fence ∧
      c' = c.signalTerminalSessionFailure fence.sessionId reason := by
  cases pc with
  | terminal fence reason =>
    cases input <;> cases h
    exact ⟨fence, _, rfl, rfl⟩
  | _ => cases hSignals

/-- A step of the Work reader is none of the supervisor. -/
theorem supervisor_of_workReader {input : ReaderInput WorkResponse}
    (h : s.step env (.workReader input) = some s') : s'.supervisor = s.supervisor := by
  simp only [System.step, System.workReaderAction] at h
  repeat' split at h
  all_goals simp only [Option.map_eq_some_iff, reduceCtorEq] at h
  all_goals
    obtain ⟨_, -, rfl⟩ := h
    rfl

/-- A step of the Control reader is none of the supervisor. -/
theorem supervisor_of_controlReader {input : ReaderInput ControlResponse}
    (h : s.step env (.controlReader input) = some s') : s'.supervisor = s.supervisor := by
  simp only [System.step, System.controlReaderAction] at h
  repeat' split at h
  all_goals simp only [Option.map_eq_some_iff, reduceCtorEq] at h
  all_goals
    obtain ⟨_, -, rfl⟩ := h
    rfl

/-- A terminal failure that is signalled on a pair dooms the session. -/
theorem doomed_of_signal {a : Action} (hReach : (machine env).Reachable s)
    (hStep : (machine env).step s a = some s') (hSignals : s.signalsTerminal a = true) :
    Doomed s' := by
  have hThreads := (shape_of_reachable hReach).threads
  -- while the threads of a pair run, the session is begun
  have hKept := attempted_kept hStep
  have hDoomed : s.supervisor.phase.control = true ∨ s.supervisor.phase.work = true →
      s'.supervisor = s.supervisor → (s'.client.flags.terminalSessionFailure = true ∨
        s'.client.flags.stopRequested = true) → Doomed s' := by
    intro hPhase hPc hFlag
    have hAttends := SupervisorPc.attends_of_pair hPhase
    have hBegun : s.supervisor.begun = true := by
      cases hAt : s.supervisor <;> rw [hAt] at hAttends <;> first | rfl | cases hAttends
    refine ⟨hKept ((single_of_reachable hReach).begun hBegun), fun _ => .inl ⟨?_, hFlag⟩⟩
    rw [hPc]
    exact hAttends
  cases a with
  | workReader input =>
    obtain ⟨fence, reason, hFence, hClient⟩ :=
      workReaderStep_signals (workReaderStep_of_step hStep) hSignals
    refine hDoomed (.inr (hThreads.phase_of_workReader hFence)) (supervisor_of_workReader hStep) ?_
    rw [hClient]
    exact signalTerminal_heard (hThreads.workReaderFence fence hFence).sessionId.symm
  | controlReader input =>
    obtain ⟨fence, reason, hFence, hClient⟩ :=
      controlReaderStep_signals (controlReaderStep_of_step hStep) hSignals
    refine hDoomed (.inl (hThreads.phase_of_controlReader hFence))
      (supervisor_of_controlReader hStep) ?_
    rw [hClient]
    exact signalTerminal_heard (hThreads.controlReaderFence fence hFence).sessionId.symm
  | controlWriter input =>
    simp only [machine, System.step, Option.map_eq_some_iff] at hStep
    obtain ⟨⟨pc', c'⟩, hWriter, rfl⟩ := hStep
    obtain ⟨fence, reason, hFence, hClient⟩ := controlWriterStep_signals hWriter hSignals
    refine hDoomed (.inl (hThreads.phase_of_controlWriter hFence)) rfl ?_
    rw [hClient]
    exact signalTerminal_heard (hThreads.controlWriterFence fence hFence).sessionId.symm
  | start | startThreads | startReturns | stop | stopper | publishSource | closeSource | worker
  | workWriter | supervisor => cases hSignals

-- ---------------------------------------------------------------------------
-- The whole run
-- ---------------------------------------------------------------------------

/-- A doomed session stays doomed along every path. -/
theorem Doomed.path {t : System} (h : Doomed s) (hReach : (machine env).Reachable s)
    (hPath : (machine env).Path (fun _ _ => True) s t) : Doomed t := by
  refine hPath.preserves (I := Doomed) ?_ hReach h
  intro t a t' hReach' hDoomed _ hStep
  exact hDoomed.step hReach' hStep

/-- **Supervision.** Every run sends at most one registration and invokes `session_lost` at
most once, with every capability stopped and the spec cleared; after it no pair is opened
and nothing is called, written or handled; a terminal failure signalled on a pair is not
followed by another pair; and the retries in a row that do not become ready stay within
the budget. -/
theorem supervision {steps : List (System × Action)} (h : (machine env).Run steps s) :
    registrations steps ≤ 1 ∧ losses env steps ≤ 1 ∧
    (∀ a, s.reportsLost env a = true → Quiet env s.client.calls ∧ s.client.spec.Vacant) ∧
    (∀ a s' t, (machine env).step s a = some s' → s.reportsLost env a = true →
      (machine env).Path (fun _ _ => True) s' t →
      t.client.trace = s'.client.trace ∧ t.client.history = s'.client.history ∧
        ∀ b, t.opensPair b = false) ∧
    (∀ a s' t, (machine env).step s a = some s' → s.signalsTerminal a = true →
      (machine env).Path (fun _ _ => True) s' t → ∀ b, t.opensPair b = false) ∧
    retries env steps ≤ env.config.maximumPairReconnectAttempts := by
  have hReach := h.reachable
  refine ⟨(registrations_le h).1, ?_, ?_, ?_, ?_, (backoffs_of_run h).limit⟩
  · obtain hNone | ⟨hOne, -⟩ := losses_le h
    · rw [hNone]
      exact Nat.zero_le _
    · exact hOne.le
  · intro a hReports
    exact quiet_of_reports hReach hReports
  · intro a s' t hStep hReports hPath
    obtain ⟨hEnded, hTrace, hHistory⟩ :=
      (ended_of_reports hReach hStep hReports).path (hReach.step hStep) hPath
    exact ⟨hTrace, hHistory, hEnded.opens_none⟩
  · intro a s' t hStep hSignals hPath
    exact ((doomed_of_signal hReach hStep hSignals).path (hReach.step hStep) hPath).opens_none

section Runs

open Deployment

/-- A deployment that retries a pair once. -/
def Deployment.frugal : Env :=
  { managed with config := { managed.config with maximumPairReconnectAttempts := 1 } }

/-- The second pair fails too, and the loss of the session is reported. -/
def Deployment.exhaustBudget : List Action :=
  register ++ refusePair ++ reopenPair ++ .controlReader (.opened false) ::
    List.replicate 18 (.supervisor .tick)

/-- One retry, and the budget is spent: the loss is reported once. -/
theorem supervision_exhausted :
    ∃ steps s, (machine frugal).Run steps s ∧ s.reportsLost frugal (.supervisor .tick) = true ∧
      registrations steps = 1 ∧ retries frugal steps = 1 ∧ losses frugal steps ≤ 1 ∧
      Quiet frugal s.client.calls := by
  obtain ⟨steps, s, hRun, hCheck⟩ := Machine.exists_run_of_record (machine frugal) exhaustBudget
    (fun steps s => (s.reportsLost frugal (.supervisor .tick) && registrations steps == 1) &&
      retries frugal steps == 1) (by decide +kernel)
  rw [Bool.and_eq_true, Bool.and_eq_true, beq_iff_eq, beq_iff_eq] at hCheck
  obtain ⟨⟨hReports, hOne⟩, hRetries⟩ := hCheck
  obtain ⟨-, hLosses, hQuiet, -⟩ := supervision hRun
  exact ⟨steps, s, hRun, hReports, hOne, hRetries, hLosses, (hQuiet _ hReports).1⟩

end Runs

end AdapterRuntime.Model
