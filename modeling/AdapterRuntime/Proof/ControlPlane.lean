import AdapterRuntime.Proof.Transaction

/-!
# AdapterRuntime — how steps move the Control plane

`controlMove_of_step` is the counterpart of `planeMove_of_step` for the spec,
the lifecycle callbacks and the attach gate: the step of one of the Control
threads, of the Work writer, of the supervisor or of `Stop`, or a step that
leaves the helm alone and only takes flags back.
-/

namespace AdapterRuntime.Model

open AdapterRuntime.Lib

-- ---------------------------------------------------------------------------
-- Supervisor
-- ---------------------------------------------------------------------------

/-- The pair takes no Work any more: its threads have been joined and its
dispatch queue dropped. -/
def PairPhase.closed : PairPhase → Bool
  | .outside | .waiting | .releasing => true
  | _ => false

namespace SupervisorPc

/-- The point of the deactivation the supervisor is at. -/
def deactivation? : SupervisorPc → Option DeactivatePc
  | .deactivating _ at_ _ => some at_
  | _ => none

/-- The last deactivation is over, and the session is about to be given up. -/
def settled : SupervisorPc → Bool
  | .enterLost _ | .reportLost | .endSession => true
  | _ => false

/-- The registration is under way. -/
def registering : SupervisorPc → Bool
  | .registerCall | .install _ => true
  | _ => false

end SupervisorPc

/-- What a step of the supervisor can do to the Control plane. -/
inductive SupervisorTurn (env : Env) (c : Client) : SupervisorPc → SupervisorPc → Client → Prop
  | calm {pc pc' : SupervisorPc} {c' : Client} (hHelm : c'.helm = c.helm)
      (hRest : { c with flags := { c.flags with
        registrationAttempted := c'.flags.registrationAttempted } }.Subsides c')
      (hPc : pc.deactivation? = none)
      (hDown : ∀ at_, pc'.deactivation? = some at_ → at_ = .locked)
      (hSettled : pc'.settled = true → pc.settled = true)
      (hRegistering : pc'.registering = true → pc.registering = true ∨
        (c.flags.registrationAttempted = false ∧ c'.flags.registrationAttempted = true))
      (hAttempted : c.flags.registrationAttempted = true → c'.flags.registrationAttempted = true)
      (hSession : ∀ r, pc'.supervision? = some r →
        ∃ r', pc.supervision? = some r' ∧ r'.fence = r.fence)
      (hClosed : pc'.phase.closed = true → pc.phase.closed = true) :
      SupervisorTurn env c pc pc' c'
  | replace {r : Supervision} :
      SupervisorTurn env c (.replaceBegin r) (.replaceWait r c.beginPairReplacement.1)
        c.beginPairReplacement.2
  | install {fence : SessionFence} :
      SupervisorTurn env c (.install fence)
        (.loop ⟨fence, env.config.reconnectInitialDelayMs, 0⟩) (c.installSession env fence)
  | prepare {r : Supervision} {fence : SessionFence}
      (hFence : fence = { r.fence with connectionEpoch := c.session.connectionEpochCounter }) :
      SupervisorTurn env c (.prepare r) (.awaitAttach r fence) (c.prepareConnectionPair fence)
  | clear {r : Supervision} :
      SupervisorTurn env c (.clear r) (.checkStop r c.flags.pairReady) c.clearConnectionState
  | advance {r : Supervision} :
      SupervisorTurn env c (.advance r) (.checkEpoch r) c.advanceEpoch
  | deactivate {reason : Text} {at_ next : DeactivatePc} {after : AfterDeactivation} {c' : Client}
      (hStep : deactivateStep env reason c at_ = some (some next, c')) :
      SupervisorTurn env c (.deactivating reason at_ after) (.deactivating reason next after) c'
  | deactivated {reason : Text} {at_ : DeactivatePc} {after : AfterDeactivation}
      {pc' : SupervisorPc} {c' : Client}
      (hStep : deactivateStep env reason c at_ = some (none, c'))
      (hPc' : (∃ reason, after = .sessionLost reason ∧ pc' = .enterLost reason) ∨
        (after = .stopped ∧ pc' = .endSession)) :
      SupervisorTurn env c (.deactivating reason at_ after) pc' c'.unlocked
  | report (hBound : env.callbacks.sessionLost = true) :
      SupervisorTurn env c .reportLost .finished (c.log .sessionLostCalled)
  | endSession : SupervisorTurn env c .endSession .finished (c.endSupervision env)

variable {env : Env} {c c' : Client}

/-- A supervisor step that keeps the client and leads to an ordinary point. -/
theorem SupervisorTurn.pass {pc pc' : SupervisorPc} (hPc : pc.deactivation? = none)
    (hDown : pc'.deactivation? = none) (hSettled : pc'.settled = true → pc.settled = true)
    (hRegistering : pc'.registering = true → pc.registering = true)
    (hSession : ∀ r, pc'.supervision? = some r →
      ∃ r', pc.supervision? = some r' ∧ r'.fence = r.fence)
    (hClosed : pc'.phase.closed = true → pc.phase.closed = true) :
    SupervisorTurn env c pc pc' c :=
  .calm rfl (.refl _) hPc (by simp [hDown]) hSettled (fun h => .inl (hRegistering h)) id hSession
    hClosed

/-- Where the supervisor asks for `transition_mutex_` it deactivates nothing yet, and a pair
it has had is cleared. -/
theorem SupervisorPc.Locks.settled {pc : SupervisorPc} {reason : Text} {after : AfterDeactivation}
    (h : pc.Locks c reason after) : pc.deactivation? = none ∧ pc.phase.closed = true := by
  cases h <;> exact ⟨rfl, rfl⟩

/-- Everything a step of the supervisor can do to the Control plane. -/
theorem supervisorTurn_of_step {controlDone workDone : Bool} {pc pc' : SupervisorPc}
    {input : SupervisorInput}
    (h : supervisorStep env c controlDone workDone pc input = some (pc', c')) :
    SupervisorTurn env c pc pc' c' := by
  cases supervisorStep_branch h with
  | install => exact .install
  | prepare => exact .prepare rfl
  | replaceBegin => exact .replace
  | clear => exact .clear
  | advance => exact .advance
  | deactivate hStep => exact .deactivate hStep
  | endSession => exact .endSession
  -- only the program counter moves
  | refuse | unanswered | registered | giveUp | goOn | unattached | attach | ended | joinControl
  | joinWork | replaceWait | error | notified | unstopped | terminal | spent | retry | epochLeft
  | backOff | alreadyLost =>
    exact .pass rfl rfl (by simp [SupervisorPc.settled]) (by simp [SupervisorPc.registering])
      (by simp [SupervisorPc.supervision?]) (by simp [SupervisorPc.phase, PairPhase.closed])
  -- sections that leave the Control plane alone
  | register hFresh =>
    refine .calm rfl ?_ rfl (by simp [SupervisorPc.deactivation?]) id
      (fun _ => .inr ⟨hFresh, rfl⟩) (fun _ => rfl) (by simp [SupervisorPc.supervision?])
      (by simp [SupervisorPc.phase, PairPhase.closed])
    constructor <;> simp [Client.log]
  | lock hLocks =>
    refine .calm rfl ?_ hLocks.settled.1 ?_ (by simp [SupervisorPc.settled])
      (by simp [SupervisorPc.registering]) id (by simp [SupervisorPc.supervision?])
      (fun _ => hLocks.settled.2)
    · constructor <;> simp [Client.locked]
    · simp [SupervisorPc.deactivation?]
  | release =>
    exact .calm rfl (.of_surround rfl) rfl (by simp [SupervisorPc.deactivation?]) id
      (by simp [SupervisorPc.registering]) id (by simp [SupervisorPc.supervision?])
      (by simp [SupervisorPc.phase, PairPhase.closed])
  | @notify _ source _ error =>
    have hNotify : c.Subsides (c.notifySourceClosed env source error) := .notifySourceClosed _ _
    refine .calm (by simp) ?_ rfl (by simp [SupervisorPc.deactivation?]) id
      (by simp [SupervisorPc.registering]) (by simp [hNotify.attempted])
      (by simp [SupervisorPc.supervision?]) (by simp [SupervisorPc.phase, PairPhase.closed])
    rw [hNotify.attempted]
    exact hNotify
  -- the end of the session
  | @deactivated _ _ after _ hStep =>
    refine .deactivated hStep ?_
    cases after with
    | sessionLost reason => exact .inl ⟨reason, rfl, rfl⟩
    | stopped => exact .inr ⟨rfl, rfl⟩
  | @enterLost _ notify _ hLost =>
    unfold Client.enterSessionLost at hLost
    split at hLost <;> cases hLost
    refine .calm rfl ?_ rfl ?_ (fun _ => rfl) ?_ id ?_ (fun _ => rfl)
    · constructor <;> simp
    · split <;> simp [SupervisorPc.deactivation?]
    · split <;> simp [SupervisorPc.registering]
    · split <;> simp [SupervisorPc.supervision?]
  | reportLost =>
    split
    · rename_i hBound
      exact .report hBound
    · exact .pass rfl rfl (by simp [SupervisorPc.settled]) id (by simp [SupervisorPc.supervision?])
        (by simp [SupervisorPc.phase, PairPhase.closed])

-- ---------------------------------------------------------------------------
-- The system
-- ---------------------------------------------------------------------------

/-- `Stop` is at this point of its deactivation. -/
def StopPc.deactivation? : StopPc → Option DeactivatePc
  | .deactivating at_ => some at_
  | _ => none

/-- What a step can do to the Control plane. -/
inductive ControlMove (env : Env) (s : System) (s' : System) : Prop
  | calm {n m : Nat} (hHelm : s'.client.helm = s.client.helm)
      (hRest : ((s.client.withActive n).withFlight m).Subsides s'.client)
      (hReader : s'.controlReader = s.controlReader) (hWriter : s'.controlWriter = s.controlWriter)
      (hWork : s'.workWriter = s.workWriter ∨
        ∃ fence, s.workReader = .opening fence ∧ s'.workWriter = .attach fence)
      (hSupervisor : s'.supervisor = s.supervisor)
      (hStopper : s'.stopper = s.stopper ∨ (s.stopper = .idle ∧ s'.stopper = .joinSupervisor) ∨
        (s.stopper = .lock ∧ s'.stopper = .deactivating .locked))
  | controlReader
      (hMove : ControlReaderMove env s.client s.controlReader s'.controlReader s'.client)
      (hWriter : s'.controlWriter = s.controlWriter ∨
        ∃ fence, s.controlReader = .opening fence ∧ s'.controlWriter = .loop fence)
      (hPhase : s.supervisor.phase.control = true)
      (hWork : s'.workWriter = s.workWriter) (hSupervisor : s'.supervisor = s.supervisor)
      (hStopper : s'.stopper = s.stopper) (hSteady : s.client.Steady s'.client)
  | controlWriter
      (hMove : ControlWriterMove env s.client s.controlWriter s'.controlWriter s'.client)
      (hPhase : s.supervisor.phase.control = true)
      (hReader : s'.controlReader = s.controlReader) (hWork : s'.workWriter = s.workWriter)
      (hSupervisor : s'.supervisor = s.supervisor) (hStopper : s'.stopper = s.stopper)
      (hSteady : s.client.Steady s'.client)
  | workWriter (hMove : WorkWriterMove env s.client s.workWriter s'.workWriter s'.client)
      (hPhase : s.supervisor.phase.work = true)
      (hReader : s'.controlReader = s.controlReader) (hWriter : s'.controlWriter = s.controlWriter)
      (hSupervisor : s'.supervisor = s.supervisor) (hStopper : s'.stopper = s.stopper)
      (hSteady : s.client.Steady s'.client)
  | supervisor (hTurn : SupervisorTurn env s.client s.supervisor s'.supervisor s'.client)
      (hReader : s'.controlReader = s.controlReader ∨
        (s.supervisor.phase = .outside ∧ ∃ fence, s'.controlReader = .opening fence))
      (hWriter : s'.controlWriter = s.controlWriter) (hWork : s'.workWriter = s.workWriter)
      (hStopper : s'.stopper = s.stopper) (hStarted : s.supervisor ≠ .notStarted)
  | startThreads (hStopped : s.supervisor = .notStarted) (hClient : s'.client = s.client.beginStart)
      (hReader : s'.controlReader = s.controlReader) (hWriter : s'.controlWriter = s.controlWriter)
      (hWork : s'.workWriter = s.workWriter) (hSupervisor : s'.supervisor = .register)
      (hStopper : s'.stopper = .idle) (hStarter : s.starter = .validated)
      (hIdle : s.stopper = .idle)
  | join (hClient : s'.client = s.client) (hReader : s'.controlReader = s.controlReader)
      (hWriter : s'.controlWriter = s.controlWriter) (hWork : s'.workWriter = s.workWriter)
      (hSupervisor : s'.supervisor = .notStarted) (hOver : s.supervisor = .notStarted ∨
        s.supervisor = .finished)
      (hStopper : s'.stopper = .joinWorkers ∨ s'.stopper = .lock)
      (hBefore : s.stopper = .joinSupervisor ∨ s.stopper = .joinWorkers)
  | stopDeactivate {at_ next : DeactivatePc} (hStopper : s.stopper = .deactivating at_)
      (hStep : deactivateStep env (text "client stopped") s.client at_ =
        some (some next, s'.client))
      (hStopper' : s'.stopper = .deactivating next) (hReader : s'.controlReader = s.controlReader)
      (hWriter : s'.controlWriter = s.controlWriter) (hWork : s'.workWriter = s.workWriter)
      (hSupervisor : s'.supervisor = s.supervisor)
  | stopDeactivated {at_ : DeactivatePc} {c' : Client} (hStopper : s.stopper = .deactivating at_)
      (hStep : deactivateStep env (text "client stopped") s.client at_ = some (none, c'))
      (hClient : s'.client = c'.unlocked) (hStopper' : s'.stopper = .reset)
      (hReader : s'.controlReader = s.controlReader) (hWriter : s'.controlWriter = s.controlWriter)
      (hWork : s'.workWriter = s.workWriter) (hSupervisor : s'.supervisor = s.supervisor)
  | stopReset (hStopper : s.stopper = .reset) (hClient : s'.client = s.client.endStop env)
      (hStopper' : s'.stopper = .idle) (hReader : s'.controlReader = s.controlReader)
      (hWriter : s'.controlWriter = s.controlWriter) (hWork : s'.workWriter = s.workWriter)
      (hSupervisor : s'.supervisor = s.supervisor)

variable {s s' : System}

theorem Threads.phase_of_controlReader (h : Threads s) {fence : SessionFence}
    (hFence : s.controlReader.fence? = some fence) : s.supervisor.phase.control = true := by
  by_contra hPhase
  rw [Bool.not_eq_true] at hPhase
  rw [h.controlReader hPhase] at hFence
  cases hFence

theorem Threads.phase_of_controlWriter (h : Threads s) {fence : SessionFence}
    (hFence : s.controlWriter.fence? = some fence) : s.supervisor.phase.control = true := by
  by_contra hPhase
  rw [Bool.not_eq_true] at hPhase
  have hAlone := ControlReaderPc.alone_of_fence_none (h.controlReader hPhase)
  rw [h.controlWriter hAlone] at hFence
  cases hFence

theorem Threads.phase_of_workWriter (h : Threads s) {fence : SessionFence}
    (hFence : s.workWriter.fence? = some fence) : s.supervisor.phase.work = true := by
  by_contra hPhase
  rw [Bool.not_eq_true] at hPhase
  have hAlone := WorkReaderPc.alone_of_fence_none (h.workReader hPhase)
  rw [h.workWriter hAlone] at hFence
  cases hFence

/-- The streams of a pair after the supervisor has spawned threads. -/
theorem controlReader_spawn (pc' : SupervisorPc) :
    (s.spawn pc').controlReader = s.controlReader ∨
      (s.supervisor.phase = .outside ∧ ∃ fence, (s.spawn pc').controlReader = .opening fence) := by
  unfold System.spawn
  split
  · rename_i hPc
    exact .inr ⟨by rw [hPc]; rfl, _, rfl⟩
  · exact .inl rfl
  · exact .inl rfl

/-- Spawning a reader touches neither writer and not `Stop`. -/
theorem spawn_writers (pc' : SupervisorPc) :
    (s.spawn pc').controlWriter = s.controlWriter ∧ (s.spawn pc').workWriter = s.workWriter ∧
      (s.spawn pc').stopper = s.stopper := by
  unfold System.spawn
  split <;> exact ⟨rfl, rfl, rfl⟩

/-- Every step is one of the moves of the Control plane. -/
theorem controlMove_of_step {a : Action} (h : Shape s) (hStep : s.step env a = some s') :
    ControlMove env s s' := by
  cases System.step_cases hStep with
  | worker hWorker =>
    exact .calm (helm_workerStep hWorker) (workerStep_cases hWorker).subsides rfl rfl (.inl rfl)
      rfl (.inl rfl)
  | workReader hReader hSpawn _ _ =>
    refine .calm (n := s.client.queues.activeDispatchJobs)
      (m := s.client.queues.inFlightWork) (helm_workReaderStep hReader)
      (workReaderStep_cases hReader).subsides rfl rfl ?_ rfl (.inl rfl)
    obtain hSame | ⟨fence, hPc, -, hAttach⟩ := hSpawn
    · exact .inl hSame
    · exact .inr ⟨fence, hPc, hAttach⟩
  | controlReader hReader hSpawn _ _ =>
    obtain ⟨fence, hFence, -⟩ := controlReaderStep_fence hReader
    refine .controlReader (controlReaderStep_cases hReader) ?_
      (h.threads.phase_of_controlReader hFence) rfl rfl rfl (steady_controlReaderStep hReader)
    obtain hSame | ⟨fence, hPc, -, hLoop⟩ := hSpawn
    · exact .inl hSame
    · exact .inr ⟨fence, hPc, hLoop⟩
  | workWriter hWriter =>
    obtain ⟨fence, hFence, -⟩ := workWriterStep_fence hWriter
    exact .workWriter (workWriterStep_cases hWriter) (h.threads.phase_of_workWriter hFence) rfl rfl
      rfl rfl (steady_workWriterStep hWriter)
  | controlWriter hWriter =>
    obtain ⟨fence, hFence, -⟩ := controlWriterStep_fence hWriter
    exact .controlWriter (controlWriterStep_cases hWriter)
      (h.threads.phase_of_controlWriter hFence) rfl rfl rfl rfl (steady_controlWriterStep hWriter)
  | @supervisor _ pc' _ hSupervisor =>
    obtain ⟨hControl, hWork, hStop⟩ := spawn_writers (s := s) pc'
    refine .supervisor (supervisorTurn_of_step hSupervisor) (controlReader_spawn pc') hControl hWork
      hStop ?_
    exact (supervisorStep_branch hSupervisor).started.1
  | publishSource =>
    exact .calm (n := s.client.queues.activeDispatchJobs)
      (m := s.client.queues.inFlightWork) (Client.helm_of_surround surround_publishSource)
      subsides_publishSource rfl rfl (.inl rfl) rfl (.inl rfl)
  | closeSource =>
    exact .calm (n := s.client.queues.activeDispatchJobs)
      (m := s.client.queues.inFlightWork) (Client.helm_of_surround surround_closeSource) subsides_closeSource
      rfl rfl (.inl rfl) rfl (.inl rfl)
  | flags hCore hRest hStopper hAlone hStarter hStopping hHelm hStop =>
    exact .calm (n := s.client.queues.activeDispatchJobs)
      (m := s.client.queues.inFlightWork) hHelm hRest rfl rfl (.inl rfl) rfl hStop
  | startThreads hStopped hStopper hStarter =>
    exact .startThreads (System.notStarted_of_fullyStopped hStopped) rfl rfl rfl rfl rfl hStopper
      hStarter hStopper
  | joinSupervisor hDone hStopper =>
    exact .join rfl rfl rfl rfl rfl hDone (.inl rfl) (.inl hStopper)
  | joinWorkers hStopper hDone =>
    have hPc : s.supervisor = .notStarted := h.threads.stopper (by rw [hStopper]; rfl)
    exact .join rfl rfl rfl rfl hPc (.inl hPc) (.inr rfl) (.inr hStopper)
  | @stopDeactivate at_ next c' c'' stopper hStopper hDeact hNext =>
    obtain ⟨pc, rfl, rfl, rfl⟩ | ⟨rfl, rfl, rfl⟩ := hNext
    · exact .stopDeactivate hStopper hDeact rfl rfl rfl rfl rfl
    · exact .stopDeactivated hStopper hDeact rfl rfl rfl rfl rfl rfl
  | stopReset hStopper => exact .stopReset hStopper rfl rfl rfl rfl rfl rfl

/-- Inside a pair only the Control reader moves its own program counter. -/
theorem System.controlReader_of_ne {a : Action} (hStep : s.step env a = some s')
    (hNe : s'.controlReader ≠ s.controlReader) (hPhase : s.supervisor.phase ≠ .outside) :
    ∃ input, a = .controlReader input ∧
      controlReaderStep env s.client s.controlReader input = some (s'.controlReader, s'.client) := by
  cases System.step_cases hStep with
  | controlReader hReader => exact ⟨_, rfl, hReader⟩
  | @supervisor _ pc' =>
    obtain hEq | ⟨hOutside, -⟩ := controlReader_spawn (s := s) pc'
    · exact absurd hEq hNe
    · exact absurd hOutside hPhase
  | worker | workReader | workWriter | controlWriter | publishSource | closeSource | flags
  | startThreads | joinSupervisor | joinWorkers | stopDeactivate | stopReset =>
    exact absurd rfl hNe

/-- Only the Work writer moves on once it has been spawned. -/
theorem System.workWriter_of_ne {a : Action} (hStep : s.step env a = some s')
    (hNe : s'.workWriter ≠ s.workWriter) (hAttach : ∀ fence, s'.workWriter ≠ .attach fence) :
    ∃ input, a = .workWriter input ∧
      workWriterStep env s.client s.workWriter input = some (s'.workWriter, s'.client) := by
  cases System.step_cases hStep with
  | workWriter hWriter => exact ⟨_, rfl, hWriter⟩
  | workReader _ hSpawn =>
    obtain hEq | ⟨fence, -, -, hEq⟩ := hSpawn
    · exact absurd hEq hNe
    · exact absurd hEq (hAttach fence)
  | @supervisor _ pc' => exact absurd (spawn_writers (s := s) pc').2.1 hNe
  | worker | controlReader | controlWriter | publishSource | closeSource | flags | startThreads
  | joinSupervisor | joinWorkers | stopDeactivate | stopReset => exact absurd rfl hNe

end AdapterRuntime.Model
