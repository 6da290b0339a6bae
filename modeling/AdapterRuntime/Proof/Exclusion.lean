import AdapterRuntime.Lib.Mutex
import AdapterRuntime.Proof.Lifecycle

/-!
# AdapterRuntime — who holds `transition_mutex_`

Three threads run lifecycle transitions: the Control reader in `ApplyInstanceSpec`, the
supervisor in `EnterSessionLost` and at the end of its loop, and the thread that called `Stop`.
Each of them takes `transition_mutex_` first. The flag `transitionLocked` is set exactly while
one of them is inside, and the callbacks that change the application are made by that one.

* `transition_exclusive` — at most one thread is inside a transition, the mutex is locked exactly
  then, and only that thread calls the application.
* `transition_uncontended` — a thread that comes to the mutex finds it free: the joins before it
  have already ended the other two.
-/

namespace AdapterRuntime.Model

open AdapterRuntime.Lib

variable {env : Env} {c c' : Client} {s s' : System}

/-- The threads that run transitions. -/
inductive Transitioner
  | transaction | supervisor | stopper
  deriving DecidableEq

/-- The thread is between taking and releasing `transition_mutex_`. -/
def System.inTransition (s : System) : Transitioner → Bool
  | .transaction => s.controlReader.transaction?.any ApplyPc.holdsTransition
  | .supervisor => s.supervisor.deactivation?.isSome
  | .stopper => s.stopper.deactivation?.isSome

/-- The mutex as the threads use it. -/
def System.transitionMutex (s : System) : Mutex Transitioner where
  locked := s.client.transitionLocked
  inside := s.inTransition

/-- The action is a step of this thread. -/
def Action.ofTransitioner : Action → Transitioner → Bool
  | .controlReader _, .transaction | .supervisor _, .supervisor | .stopper, .stopper => true
  | _, _ => false

/-- The callbacks of a transition: those that put a spec into force or take it out of force. -/
def LifecycleEvent.isTransition : LifecycleEvent → Bool
  | .applyCalled _ _ | .startCalled _ _ | .readyCalled _ _ | .stopCalled _ | .clearCalled
  | .specCommitted _ => true
  | _ => false

/-- The transition callbacks made so far, newest first. -/
def Client.transitions (c : Client) : List LifecycleEvent :=
  c.trace.filter LifecycleEvent.isTransition

theorem transitions_of_calls (h : c'.calls = c.calls) : c'.transitions = c.transitions := by
  have hFilter : ∀ k : Client, k.transitions = k.calls.filter LifecycleEvent.isTransition := by
    intro k
    simp only [Client.transitions, Client.calls, List.filter_filter]
    refine List.filter_congr fun e _ => ?_
    cases e <;> rfl
  rw [hFilter, hFilter, h]

-- ---------------------------------------------------------------------------
-- Sections and the mutex
-- ---------------------------------------------------------------------------

namespace Client

theorem transitionLocked_of_surround (h : c'.surround = c.surround) :
    c'.transitionLocked = c.transitionLocked :=
  congrArg Surround.transitionLocked h

@[simp] theorem transitionLocked_log (event : LifecycleEvent) :
    (c.log event).transitionLocked = c.transitionLocked := rfl

@[simp] theorem transitionLocked_callStop (binding : Nat) :
    (c.callStop env binding).transitionLocked = c.transitionLocked := by
  unfold callStop
  split <;> rfl

@[simp] theorem transitionLocked_callClear :
    (c.callClear env).transitionLocked = c.transitionLocked := by
  unfold callClear
  split <;> rfl

@[simp] theorem transitionLocked_notifySourceClosed (source : SourceState) (error : AdapterError) :
    (c.notifySourceClosed env source error).transitionLocked = c.transitionLocked := by
  unfold notifySourceClosed
  split <;> rfl

@[simp] theorem transitionLocked_signalSessionFailure (session reason : Text) :
    (c.signalSessionFailure session reason).transitionLocked = c.transitionLocked := by
  unfold signalSessionFailure
  split <;> rfl

@[simp] theorem transitionLocked_signalTerminalSessionFailure (session reason : Text) :
    (c.signalTerminalSessionFailure session reason).transitionLocked = c.transitionLocked := by
  unfold signalTerminalSessionFailure
  split <;> rfl

@[simp] theorem transitionLocked_queueControlLocked (frame : ControlFrame) :
    (c.queueControlLocked env frame).2.transitionLocked = c.transitionLocked := by
  unfold queueControlLocked
  simp only
  split
  · split <;> rfl
  · rfl

@[simp] theorem transitionLocked_maybeQueueDrainStatus :
    (c.maybeQueueDrainStatus env).transitionLocked = c.transitionLocked := by
  have hQueue := @transitionLocked_queueControlLocked env c (.drainStatus true 0)
  unfold maybeQueueDrainStatus
  split
  · rfl
  · split <;> rename_i hEq <;> rw [hEq] at hQueue <;> exact hQueue

@[simp] theorem transitionLocked_beginDrain :
    (c.beginDrain env).transitionLocked = c.transitionLocked := by
  unfold beginDrain
  rw [transitionLocked_maybeQueueDrainStatus]

@[simp] theorem transitionLocked_finishApply (session : Text) (statuses : List CapabilityStatus) :
    (finishApply c session statuses).transitionLocked = c.transitionLocked := by
  unfold finishApply
  split <;> rfl

@[simp] theorem transitionLocked_advanceEpoch :
    c.advanceEpoch.transitionLocked = c.transitionLocked := by
  unfold advanceEpoch
  split <;> rfl

end Client

/-- No step of a worker touches the mutex. -/
theorem transitionLocked_workerStep {pc pc' : WorkerPc} {input : WorkerInput}
    (h : workerStep env c pc input = some (pc', c')) :
    c'.transitionLocked = c.transitionLocked := by
  cases workerStep_branch h with
  -- most points change flags and tables of the Work plane only
  | exit | pop | skipSource | enterSource | cancelled | uncancelled | invalid | valid
  | refuseInput | toOperation | normalizeUnary | normalizeOperation | unheard | signal | leave
  | loseSource | findSource | cancelSource | normalizeSource => rfl
  -- commits and queueing leave everything around the plane alone
  | startUnary | startSource =>
    exact Client.transitionLocked_of_surround (Client.surround_recordStarted _)
  | returnUnary | returnOperation | returnSource =>
    exact Client.transitionLocked_of_surround (Client.surround_recordReturned _ _)
  | accepted hQueue | unaccepted hQueue | unstarted hQueue =>
    exact Client.transitionLocked_of_surround (surround_queueWorkLocked hQueue)
  | started hQueue =>
    exact Client.transitionLocked_of_surround
      ((Client.surround_recordStarted _).trans (surround_queueWorkLocked hQueue))
  | commit _ hCommit | tooLarge hCommit | uncommitted _ hCommit =>
    exact Client.transitionLocked_of_surround (surround_commitTerminalFrame hCommit)
  | settleSource hCommit | failSource hCommit | declineSource hCommit =>
    exact Client.transitionLocked_of_surround (surround_commitSourceOpen hCommit)
  -- the releases at the end of a job
  | signalSession | eraseToken | finish | notifySource =>
    simp [Client.releaseWorkToken, Client.leaveJob, Client.leaveHandler]
  | @finishSource _ _ dispatched =>
    cases dispatched <;> simp [Client.leaveJob, Client.leaveHandler]

theorem transitionLocked_handleWorkResponse {now : Int} {response : WorkResponse}
    {r : FollowUp ⊕ Text} (h : handleWorkResponse env c now response = (r, c')) :
    c'.transitionLocked = c.transitionLocked := by
  unfold handleWorkResponse at h
  simp only at h
  split at h <;> cases h
  · exact Client.transitionLocked_of_surround (surround_enqueueDispatch rfl)
  · exact Client.transitionLocked_of_surround (surround_enqueueDispatch rfl)
  · exact Client.transitionLocked_of_surround (surround_enqueueSourceOpen rfl)
  · exact Client.transitionLocked_of_surround (surround_grantSourceCredit rfl)
  · rename_i cancellation _
    obtain ⟨source, streamId, -, -, -, hCases⟩ | ⟨-, workId, token, -, -, hEq⟩ | ⟨-, hEq⟩ :=
      handleCancellation_cases (Prod.eta (handleCancellation env c cancellation
        response.header.frameSequence)).symm
    · obtain ⟨-, -, hEq⟩ | ⟨-, -, hRefused⟩ | ⟨-, -, digest, hEq⟩ := hCases
      · rw [hEq]
        rfl
      · exact (Client.transitionLocked_of_surround hRefused.surround).trans rfl
      · rw [hEq]
        rfl
    · rw [hEq]
      rfl
    · rw [hEq]
  · exact Client.transitionLocked_of_surround (surround_handleTerminalAcknowledgement rfl)
  · rfl
  · rfl

theorem transitionLocked_followUpStep {fence : SessionFence} {todo : FollowUp}
    {pc' : WorkReaderPc} (h : followUpStep env c fence todo = (pc', c')) :
    c'.transitionLocked = c.transitionLocked := by
  cases followUpStep_branch h with
  | done | unheard | signal => rfl
  | reported hQueue | unreported hQueue | replayed hQueue | unreplayed hQueue =>
    exact Client.transitionLocked_of_surround (surround_queueWorkLocked hQueue)
  | answered hCommit | unanswered hCommit =>
    exact Client.transitionLocked_of_surround (surround_commitTerminalFrame hCommit)
  | notify => simp

/-- No step of the Work reader touches the mutex. -/
theorem transitionLocked_workReaderStep {pc pc' : WorkReaderPc} {input : ReaderInput WorkResponse}
    (h : workReaderStep env c pc input = some (pc', c')) :
    c'.transitionLocked = c.transitionLocked := by
  cases workReaderStep_branch h with
  | opened | stopping | awaitFrame | oversize | received | readFailed | badHeader | goodHeader
  | closed | ended | rejected | lost => rfl
  | handle hHandle | hostError hHandle => exact transitionLocked_handleWorkResponse hHandle
  | followUp hFollow => exact transitionLocked_followUpStep hFollow
  | unopened | signalSession | terminal | lastTerminal | lastSignal => simp

theorem transitionLocked_workWriterStep {pc pc' : WorkWriterPc} {input : WriterInput}
    (h : workWriterStep env c pc input = some (pc', c')) :
    c'.transitionLocked = c.transitionLocked := by
  cases workWriterStep_branch h with
  | ready =>
    unfold Client.markReady
    split <;> rfl
  | attach | unattached | attached | loseAttach | ended | dequeue | write | lose => rfl
  | signal => simp

theorem transitionLocked_controlWriterStep {pc pc' : ControlWriterPc} {input : WriterInput}
    (h : controlWriterStep env c pc input = some (pc', c')) :
    c'.transitionLocked = c.transitionLocked := by
  cases controlWriterStep_branch h with
  | ended | dequeue | heartbeat | write | lose => rfl
  | gate =>
    unfold Client.openAttachGate
    split <;> rfl
  | signal | terminal => simp

theorem transitionLocked_deactivateStep {reason : Text} {at_ : DeactivatePc}
    {next : Option DeactivatePc} (h : deactivateStep env reason c at_ = some (next, c')) :
    c'.transitionLocked = c.transitionLocked := by
  cases deactivateStep_move h with
  | begin | waited | stopped | finish => rfl
  | stop | notify => simp
  | clear => split <;> simp

-- ---------------------------------------------------------------------------
-- The turns of the three threads
-- ---------------------------------------------------------------------------

/-- A transaction that goes on to its next `start` keeps the mutex. -/
theorem holdsTransition_nextStart (cand : Candidate)
    (remaining : List (EnabledCapability × Nat)) (started : List Nat) (error : Text) :
    (nextStart cand remaining started error).holdsTransition = true := by
  cases remaining <;> rfl

/-- A step of the transaction takes the mutex, keeps it, or returns and releases it. -/
theorem turn_applyMove {session : Text} {at_ : ApplyPc} {next : ApplyNext}
    (h : ApplyMove env session c at_ next c') :
    Mutex.Turn c.transitionLocked at_.holdsTransition c'.transitionLocked
      (next.getLeft?.any ApplyPc.holdsTransition) := by
  cases h with
  | lock hFree =>
    rw [hFree]
    exact .enter
  -- the returns
  | failed | staleUnwound | readyFailure | finish => exact .leave
  | stale hPc => obtain rfl | rfl := hPc <;> exact .leave
  -- the other steps leave the mutex alone
  | begin hBegin =>
    obtain ⟨-, -, -, -, rfl⟩ := beginApply_inr hBegin
    exact .stay
  | deactivate hStep | deactivated hStep | readyDeactivate hStep | readyDeactivated hStep =>
    rw [transitionLocked_deactivateStep hStep]
    exact .stay
  | skipApply | applied | skipStart | started =>
    simp only [Sum.getLeft?_inl, Option.any_some, holdsTransition_nextStart]
    exact .stay
  | applyFailed =>
    simp only [Client.transitionLocked_callClear]
    exact .stay
  | unwindStop | staleStop =>
    rw [Client.transitionLocked_callStop]
    exact .stay
  | @unwound _ clear =>
    cases clear
    · exact .stay
    · simp only [if_true, Client.transitionLocked_callClear]
      exact .stay
  | commit hCommit =>
    unfold commitSpec at hCommit
    split at hCommit <;> cases hCommit
    exact .stay
  | answer | waited | current | proceed | startFailed | startedAll | outdated | skipReady | readied
  | readyFailed | readiedAll => exact .stay

/-- The Control reader takes and gives up the lock with its transaction. -/
theorem turn_controlReaderStep {pc pc' : ControlReaderPc} {input : ReaderInput ControlResponse}
    (h : controlReaderStep env c pc input = some (pc', c')) :
    Mutex.Turn c.transitionLocked (pc.transaction?.any ApplyPc.holdsTransition)
      c'.transitionLocked (pc'.transaction?.any ApplyPc.holdsTransition) := by
  cases controlReaderStep_branch h with
  | opened | stopping | awaitFrame | oversize | received | readFailed | badHeader | goodHeader
  | remoteStop | closed | ended | rejected | lost => exact .stay
  -- the frames: none of them touches the mutex
  | badSpec | goodSpec | ping | hostError | emptyFrame => exact .stay
  | drain =>
    rw [Client.transitionLocked_beginDrain]
    exact .stay
  | stop => split <;> exact .stay
  -- a transaction takes the lock and gives it back
  | apply hMove => exact turn_applyMove hMove
  | conclude hMove => exact turn_applyMove hMove
  -- queueing an answer, then the ways out of the loop
  | @queued _ _ frame _ _ hQueue | @overflow _ _ frame _ _ hQueue =>
    have hSame := @Client.transitionLocked_queueControlLocked env c frame
    rw [hQueue] at hSame
    rw [hSame]
    exact .stay
  | unopened | signal | lastSignal =>
    rw [Client.transitionLocked_signalSessionFailure]
    exact .stay
  | terminal | lastTerminal =>
    rw [Client.transitionLocked_signalTerminalSessionFailure]
    exact .stay

/-- A step of the supervisor takes the mutex for a deactivation, keeps it, or releases it
after one. -/
theorem turn_supervisorStep {controlDone workDone : Bool} {pc pc' : SupervisorPc}
    {input : SupervisorInput}
    (h : supervisorStep env c controlDone workDone pc input = some (pc', c')) :
    Mutex.Turn c.transitionLocked pc.deactivation?.isSome c'.transitionLocked
      pc'.deactivation?.isSome := by
  cases supervisorStep_branch h with
  | lock hLocks hFree =>
    rw [hLocks.settled.1, hFree]
    exact .enter
  | @deactivated _ _ after => cases after <;> exact .leave
  | deactivate hStep =>
    rw [transitionLocked_deactivateStep hStep]
    exact .stay
  | notify =>
    rw [Client.transitionLocked_notifySourceClosed]
    exact .stay
  | advance =>
    rw [Client.transitionLocked_advanceEpoch]
    exact .stay
  | @enterLost _ notify _ hLost =>
    unfold Client.enterSessionLost at hLost
    split at hLost <;> cases hLost
    split <;> exact .stay
  | reportLost => split <;> exact .stay
  | refuse | register | unanswered | registered | giveUp | install | goOn | prepare | unattached
  | attach | ended | joinControl | joinWork | replaceBegin | replaceWait | release | error
  | notified | clear | unstopped | terminal | spent | retry | epochLeft | backOff | alreadyLost
  | endSession => exact .stay

/-- `Stop` takes and gives up the lock around its deactivation. -/
theorem turn_stopperStep (h : s.stopperStep env = some s') :
    Mutex.Turn s.client.transitionLocked s.stopper.deactivation?.isSome
      s'.client.transitionLocked s'.stopper.deactivation?.isSome := by
  unfold System.stopperStep at h
  split at h
  · cases h
  · rename_i hStopper
    rw [hStopper]
    split at h <;> cases h <;> exact .stay
  · rename_i hStopper
    rw [hStopper]
    split at h <;> cases h
    exact .stay
  · split at h <;> rename_i hFree <;> cases h
    rw [Bool.not_eq_true] at hFree
    rw [hFree]
    exact .enter
  · rename_i at_ hStopper
    rw [hStopper]
    split at h
    · cases h
    · rename_i hStep
      cases h
      have hSame := transitionLocked_deactivateStep hStep
      simp only [hSame]
      exact .stay
    · cases h
      exact .leave
  · rename_i hStopper
    rw [hStopper]
    cases h
    exact .stay

-- ---------------------------------------------------------------------------
-- The system
-- ---------------------------------------------------------------------------

/-- What a step of the Work reader leaves alone. -/
theorem workReaderAction_frame {input : ReaderInput WorkResponse}
    (h : s.workReaderAction env input = some s') :
    s' = { s with
      workReader := s'.workReader, client := s'.client, workWriter := s'.workWriter } := by
  unfold System.workReaderAction at h
  split at h
  · split at h
    · obtain ⟨r, -, rfl⟩ := Option.map_eq_some_iff.mp h
      rfl
    · cases h
  · obtain ⟨r, -, rfl⟩ := Option.map_eq_some_iff.mp h
    rfl
  · obtain ⟨r, -, rfl⟩ := Option.map_eq_some_iff.mp h
    rfl

/-- What a step of the Control reader leaves alone. -/
theorem controlReaderAction_frame {input : ReaderInput ControlResponse}
    (h : s.controlReaderAction env input = some s') :
    s' = { s with
      controlReader := s'.controlReader, client := s'.client,
      controlWriter := s'.controlWriter } := by
  unfold System.controlReaderAction at h
  split at h
  · split at h
    · obtain ⟨r, -, rfl⟩ := Option.map_eq_some_iff.mp h
      rfl
    · cases h
  · obtain ⟨r, -, rfl⟩ := Option.map_eq_some_iff.mp h
    rfl
  · obtain ⟨r, -, rfl⟩ := Option.map_eq_some_iff.mp h
    rfl

/-- A step that touches neither the mutex nor the three threads. -/
theorem guarded_of_same (h : s.transitionMutex.Guarded)
    (hLocked : s'.client.transitionLocked = s.client.transitionLocked)
    (hReader : s'.controlReader = s.controlReader)
    (hSupervisor : s'.supervisor.deactivation? = s.supervisor.deactivation?)
    (hStopper : s'.stopper.deactivation? = s.stopper.deactivation?) :
    s'.transitionMutex.Guarded := by
  have hEq : s'.transitionMutex = s.transitionMutex := by
    have hInside : s'.inTransition = s.inTransition := by
      funext p
      cases p <;> simp only [System.inTransition, hReader, hSupervisor, hStopper]
    simp only [System.transitionMutex, hLocked, hInside]
  rw [hEq]
  exact h

/-- The first section of `Stop` keeps the lock guarded. -/
theorem guarded_beginStop {starter : StartPc} (h : s.transitionMutex.Guarded)
    (hIdle : s.stopper = .idle) :
    ({ s with starter := starter }.beginStop).transitionMutex.Guarded := by
  unfold System.beginStop
  split
  · exact guarded_of_same h rfl rfl rfl rfl
  · exact guarded_of_same h rfl rfl rfl (by rw [hIdle]; rfl)

/-- Outside a pair no transaction runs. -/
theorem Threads.transaction_none (h : Threads s) (hPhase : s.supervisor.phase.control = false) :
    s.controlReader.transaction? = none := by
  have hFence := h.controlReader hPhase
  cases hPc : s.controlReader <;> rw [hPc] at hFence <;> first | rfl | cases hFence

/-- A step of the supervisor keeps the lock guarded. -/
theorem guarded_supervisorAction {input : SupervisorInput} (hThreads : Threads s)
    (h : s.transitionMutex.Guarded) (hStep : s.supervisorAction env input = some s') :
    s'.transitionMutex.Guarded := by
  obtain ⟨⟨pc', c'⟩, hRun, rfl⟩ := Option.map_eq_some_iff.mp hStep
  refine h.turn (p := .supervisor) ?_ (turn_supervisorStep hRun)
  intro q hq
  cases q with
  | supervisor => exact absurd rfl hq
  | stopper =>
    simp only [System.transitionMutex, System.inTransition]
    unfold System.spawn
    split <;> rfl
  | transaction =>
    simp only [System.transitionMutex, System.inTransition]
    unfold System.spawn
    split
    · -- the Control stream of a new pair: the last one has been joined
      rename_i hPc
      rw [hThreads.transaction_none (by rw [hPc]; rfl)]
      rfl
    · rfl
    · rfl

/-- The mutex does its work in every state. -/
theorem guarded_of_reachable (h : (machine env).Reachable s) : s.transitionMutex.Guarded := by
  refine h.invariant (I := fun s => s.transitionMutex.Guarded) ?_ ?_
  · exact .of_free rfl fun q => by cases q <;> rfl
  · intro s a s' hReach hGuarded hRun
    have hStep : s.step env a = some s' := hRun
    cases a with
    -- the entry points before and after the threads run take no lock
    | start =>
      simp only [System.step, System.startStep] at hStep
      split at hStep
      · split at hStep
        · cases hStep
        · split at hStep <;> cases hStep
          exact guarded_of_same hGuarded rfl rfl rfl rfl
      · cases hStep
    | startThreads =>
      simp only [System.step, System.startThreadsStep] at hStep
      split at hStep
      · split at hStep
        · cases hStep
          exact guarded_of_same hGuarded rfl rfl rfl rfl
        · rename_i hStopped
          cases hStep
          have hPc := System.notStarted_of_fullyStopped (s := s) (by simpa using hStopped)
          exact guarded_of_same hGuarded rfl rfl (by rw [hPc]; rfl) rfl
      · cases hStep
    | startReturns timeout =>
      simp only [System.step, System.startReturnsStep] at hStep
      split at hStep
      · rename_i hStopper
        split at hStep
        · cases hStep
          exact guarded_of_same hGuarded rfl rfl rfl rfl
        · split at hStep <;> cases hStep
          -- a `Start` that times out becomes the caller of `Stop`
          exact guarded_beginStop hGuarded hStopper
      · cases hStep
    | stop =>
      simp only [System.step] at hStep
      split at hStep
      · rename_i hStopper
        cases hStep
        exact guarded_beginStop hGuarded hStopper
      · cases hStep
    | stopper =>
      -- `Stop` moves only its own thread
      refine hGuarded.turn (p := .stopper) ?_ (turn_stopperStep hStep)
      intro q hq
      cases stopperStep_cases hStep with
      | flags | stopDeactivate | stopReset | joinWorkers =>
        cases q with
        | stopper => exact absurd rfl hq
        | transaction | supervisor => rfl
      | joinSupervisor hDone =>
        cases q with
        | stopper => exact absurd rfl hq
        | transaction => rfl
        | supervisor =>
          -- the joined supervisor is in no deactivation
          have hNone : s.supervisor.deactivation? = none := by
            obtain hPc | hPc := hDone <;> rw [hPc]
            · rfl
            · rfl
          simp only [System.transitionMutex, System.inTransition, hNone]
          rfl
    -- sources, workers and the Work threads never touch the mutex
    | publishSource streamId items =>
      cases hStep
      exact guarded_of_same hGuarded
        (Client.transitionLocked_of_surround surround_publishSource) rfl rfl rfl
    | closeSource streamId error =>
      cases hStep
      exact guarded_of_same hGuarded
        (Client.transitionLocked_of_surround surround_closeSource) rfl rfl rfl
    | worker i input =>
      obtain ⟨⟨pc', c'⟩, hWorker, rfl⟩ := Option.map_eq_some_iff.mp hStep
      exact guarded_of_same hGuarded (transitionLocked_workerStep hWorker) rfl rfl rfl
    | workReader input =>
      have hLocked := transitionLocked_workReaderStep (workReaderStep_of_step hStep)
      rw [workReaderAction_frame hStep]
      exact guarded_of_same hGuarded hLocked rfl rfl rfl
    | workWriter input =>
      obtain ⟨⟨pc', c'⟩, hWriter, rfl⟩ := Option.map_eq_some_iff.mp hStep
      exact guarded_of_same hGuarded (transitionLocked_workWriterStep hWriter) rfl rfl rfl
    | controlReader input =>
      -- the Control reader is the thread of the transactions
      refine hGuarded.turn (p := .transaction) ?_
        (turn_controlReaderStep (System.controlReaderAction_step hStep))
      intro q hq
      rw [controlReaderAction_frame hStep]
      cases q with
      | transaction => exact absurd rfl hq
      | supervisor | stopper => rfl
    | controlWriter input =>
      obtain ⟨⟨pc', c'⟩, hWriter, rfl⟩ := Option.map_eq_some_iff.mp hStep
      exact guarded_of_same hGuarded (transitionLocked_controlWriterStep hWriter) rfl rfl rfl
    | supervisor input =>
      exact guarded_supervisorAction (shape_of_reachable hReach).threads hGuarded hStep

-- ---------------------------------------------------------------------------
-- Who calls the application
-- ---------------------------------------------------------------------------

theorem transitions_of_helm (h : c'.helm = c.helm) : c'.transitions = c.transitions :=
  transitions_of_calls (calls_of_helm h)

theorem transitions_of_surround (h : c'.surround = c.surround) :
    c'.transitions = c.transitions :=
  transitions_of_helm (Client.helm_of_surround h)

/-- Before it has taken the mutex, the transaction calls nothing. -/
theorem transitions_applyMove {session : Text} {at_ : ApplyPc} {next : ApplyNext}
    (h : ApplyMove env session c at_ next c') (hOut : at_.holdsTransition = false) :
    c'.transitions = c.transitions := by
  cases h with
  | answer | waited | lock => rfl
  | begin hBegin =>
    obtain ⟨-, -, -, -, rfl⟩ := beginApply_inr hBegin
    rfl
  | stale hPc => obtain rfl | rfl := hPc <;> cases hOut
  | _ => cases hOut

theorem transitions_controlReaderStep {pc pc' : ControlReaderPc}
    {input : ReaderInput ControlResponse} (h : controlReaderStep env c pc input = some (pc', c'))
    (hOut : pc.transaction?.any ApplyPc.holdsTransition = false) :
    c'.transitions = c.transitions := by
  cases controlReaderStep_cases h with
  | calm hHelm => exact transitions_of_helm hHelm
  | drain =>
    have hEvents := congrArg Helm.events (c.helm_beginDrain env)
    exact transitions_of_calls (calls_of_events hEvents)
  | refuse | receive => rfl
  | apply hMove | conclude hMove => exact transitions_applyMove hMove hOut
  | queue hQueue | overflow hQueue =>
    have hEvents := congrArg Helm.events (Client.helm_queueControlLocked hQueue)
    exact transitions_of_calls (calls_of_events hEvents)
  | signal => exact transitions_of_helm (Client.helm_signalSessionFailure _ _)

theorem transitions_supervisorStep {controlDone workDone : Bool} {pc pc' : SupervisorPc}
    {input : SupervisorInput}
    (h : supervisorStep env c controlDone workDone pc input = some (pc', c'))
    (hOut : pc.deactivation?.isSome = false) : c'.transitions = c.transitions := by
  cases supervisorTurn_of_step h with
  | calm hHelm => exact transitions_of_helm hHelm
  | replace | install | prepare | clear | report | endSession => rfl
  | advance =>
    unfold Client.advanceEpoch
    split <;> rfl
  | deactivate | deactivated => cases hOut

/-- A step in which a transition callback is made is one of the thread inside. -/
theorem inside_of_transitions {a : Action} (hStep : s.step env a = some s')
    (hCall : s'.client.transitions ≠ s.client.transitions) :
    ∃ p, a.ofTransitioner p = true ∧ s.inTransition p = true := by
  cases System.step_cases hStep with
  | controlReader hReader =>
    refine ⟨.transaction, rfl, ?_⟩
    by_contra hOut
    exact hCall (transitions_controlReaderStep hReader
      (by simpa [System.inTransition] using hOut))
  | supervisor hRun =>
    refine ⟨.supervisor, rfl, ?_⟩
    by_contra hOut
    exact hCall (transitions_supervisorStep hRun (by simpa [System.inTransition] using hOut))
  | stopDeactivate hStopper =>
    refine ⟨.stopper, rfl, ?_⟩
    simp [System.inTransition, hStopper, StopPc.deactivation?]
  | worker hWorker => exact absurd (transitions_of_helm (helm_workerStep hWorker)) hCall
  | workReader hReader => exact absurd (transitions_of_helm (helm_workReaderStep hReader)) hCall
  | workWriter hWriter =>
    exact absurd (transitions_of_calls (calls_workWriterMove (workWriterStep_cases hWriter))) hCall
  | controlWriter hWriter =>
    exact absurd (transitions_of_calls (calls_controlWriterMove (controlWriterStep_cases hWriter)))
      hCall
  | publishSource => exact absurd (transitions_of_surround surround_publishSource) hCall
  | closeSource => exact absurd (transitions_of_surround surround_closeSource) hCall
  | flags _ _ _ _ _ _ hHelm => exact absurd (transitions_of_helm hHelm) hCall
  | startThreads | joinSupervisor | joinWorkers | stopReset => exact absurd rfl hCall

-- ---------------------------------------------------------------------------
-- Results
-- ---------------------------------------------------------------------------

/-- Lifecycle transitions exclude each other: at most one of the three threads is inside, the
mutex is locked exactly while one is, and every callback that puts a spec into force or takes it
out of force is made in a step of the thread inside. -/
theorem transition_exclusive (hReach : (machine env).Reachable s) :
    (∀ p q, s.inTransition p = true → s.inTransition q = true → p = q) ∧
    (s.client.transitionLocked = true ↔ ∃ p, s.inTransition p = true) ∧
    ∀ a s', s.step env a = some s' → s'.client.transitions ≠ s.client.transitions →
      ∃ p, a.ofTransitioner p = true ∧ s.inTransition p = true ∧
        ∀ q, q ≠ p → s.inTransition q = false := by
  have hGuarded := guarded_of_reachable hReach
  refine ⟨hGuarded.sole, hGuarded.held, fun a s' hStep hCall => ?_⟩
  obtain ⟨p, hAction, hInside⟩ := inside_of_transitions hStep hCall
  exact ⟨p, hAction, hInside, fun q hq => hGuarded.alone hInside hq⟩

section Runs

open Deployment

/-- The transaction of the first spec is inside, and the other two threads are not. -/
theorem transition_exclusive_applying :
    ∃ s, (machine deployment).Reachable s ∧ s.client.transitionLocked = true ∧
      s.inTransition .transaction = true ∧ s.inTransition .supervisor = false ∧
      s.inTransition .stopper = false := by
  obtain ⟨s, hReach, hInside⟩ := Machine.exists_reaches_of_runWith (machine deployment)
    (fun _ _ => True)
    (register ++ .controlReader (.opened true) :: receiveSpec 1 1 1 ++
      List.replicate 5 (.controlReader (.tick 0)))
    (fun s => s.inTransition .transaction) (by decide +kernel)
  obtain ⟨hSole, hHeld, -⟩ := transition_exclusive hReach.reachable
  refine ⟨s, hReach.reachable, hHeld.mpr ⟨_, hInside⟩, hInside, ?_, ?_⟩
  · by_contra hOther
    cases hSole .transaction .supervisor hInside (by simpa using hOther)
  · by_contra hOther
    cases hSole .transaction .stopper hInside (by simpa using hOther)

end Runs

/-- The supervisor is at a point where it may take `transition_mutex_`. -/
def SupervisorPc.locks : SupervisorPc → Bool
  | .registerFailed _ | .loop _ | .checkStop _ _ | .lostTerminal | .lostBudget | .checkEpoch _ =>
    true
  | _ => false

/-- While a pair has a Control stream the supervisor deactivates nothing. -/
theorem SupervisorPc.deactivation_of_control {pc : SupervisorPc} (h : pc.phase.control = true) :
    pc.deactivation? = none := by
  cases pc <;> first | rfl | cases h

/-- Where the supervisor asks for the lock it holds nothing yet. -/
theorem SupervisorPc.of_locks {pc : SupervisorPc} (h : pc.locks = true) :
    pc.phase.control = false ∧ pc.deactivation? = none ∧ pc ≠ .notStarted := by
  cases pc <;> first | cases h; done | exact ⟨rfl, rfl, by simp⟩

-- Who is inside says where the supervisor is.

theorem control_of_transaction (hReach : (machine env).Reachable s)
    (hInside : s.inTransition .transaction = true) : s.supervisor.phase.control = true := by
  by_contra hPhase
  have hNone := (shape_of_reachable hReach).threads.transaction_none (by simpa using hPhase)
  simp [System.inTransition, hNone] at hInside

/-- `Stop` deactivates after it has joined the supervisor. -/
theorem notStarted_of_stopper (hReach : (machine env).Reachable s)
    (hInside : s.inTransition .stopper = true) : s.supervisor = .notStarted := by
  obtain ⟨at_, hAt⟩ := Option.isSome_iff_exists.mp hInside
  exact (shape_of_reachable hReach).threads.stopper (StopPc.joined_of_deactivation hAt)

/-- When nobody is inside the lock is free. -/
theorem free_of_nobody (hReach : (machine env).Reachable s)
    (hNone : ∀ p, s.inTransition p = false) : s.client.transitionLocked = false := by
  by_contra hLocked
  rw [Bool.not_eq_false] at hLocked
  obtain ⟨p, hp⟩ := (guarded_of_reachable hReach).held.mp hLocked
  rw [show s.transitionMutex.inside p = s.inTransition p from rfl, hNone p] at hp
  cases hp

/-- A transaction runs inside a pair, where the supervisor waits for the pair to end. -/
theorem free_for_transaction (hReach : (machine env).Reachable s) {fence : SessionFence}
    {cand : Candidate} (hPc : s.controlReader = .applying fence (.lock cand)) :
    s.client.transitionLocked = false := by
  have hPhase : s.supervisor.phase.control = true := by
    by_contra hPhase
    have hNone := (shape_of_reachable hReach).threads.transaction_none (by simpa using hPhase)
    rw [hPc] at hNone
    cases hNone
  refine free_of_nobody hReach fun p => ?_
  cases p with
  | transaction => simp [System.inTransition, hPc, ControlReaderPc.transaction?,
      ApplyPc.holdsTransition]
  | supervisor => simp [System.inTransition, SupervisorPc.deactivation_of_control hPhase]
  | stopper =>
    by_contra hInside
    rw [notStarted_of_stopper hReach (by simpa using hInside)] at hPhase
    cases hPhase

/-- The supervisor has joined the Control reader, and `Stop` has not joined the supervisor. -/
theorem free_for_supervisor (hReach : (machine env).Reachable s)
    (hLocks : s.supervisor.locks = true) : s.client.transitionLocked = false := by
  obtain ⟨hPhase, hNone, hStarted⟩ := SupervisorPc.of_locks hLocks
  refine free_of_nobody hReach fun p => ?_
  cases p with
  | transaction =>
    by_contra hInside
    rw [control_of_transaction hReach (by simpa using hInside)] at hPhase
    cases hPhase
  | supervisor => simp [System.inTransition, hNone]
  | stopper =>
    by_contra hInside
    exact hStarted (notStarted_of_stopper hReach (by simpa using hInside))

/-- `Stop` has joined the supervisor, which has joined the Control reader. -/
theorem free_for_stopper (hReach : (machine env).Reachable s) (hPc : s.stopper = .lock) :
    s.client.transitionLocked = false := by
  have hSupervisor := (shape_of_reachable hReach).threads.stopper (by rw [hPc]; rfl)
  refine free_of_nobody hReach fun p => ?_
  cases p with
  | transaction =>
    by_contra hInside
    have hPhase := control_of_transaction hReach (by simpa using hInside)
    rw [hSupervisor] at hPhase
    cases hPhase
  | supervisor => simp [System.inTransition, hSupervisor, SupervisorPc.deactivation?]
  | stopper => simp [System.inTransition, hPc, StopPc.deactivation?]

/-- Nobody ever waits for `transition_mutex_`: a thread that comes to it finds it free. While the
transaction runs, the supervisor waits for its pair to end; it takes the mutex only after it has
joined the Control reader, and `Stop` only after it has joined the supervisor. -/
theorem transition_uncontended (hReach : (machine env).Reachable s) :
    (∀ fence cand, s.controlReader = .applying fence (.lock cand) →
      s.client.transitionLocked = false) ∧
    (s.supervisor.locks = true → s.client.transitionLocked = false) ∧
    (s.stopper = .lock → s.client.transitionLocked = false) := by
  refine ⟨?_, ?_, ?_⟩
  · intro fence cand hPc
    exact free_for_transaction hReach hPc
  · intro hLocks
    exact free_for_supervisor hReach hLocks
  · intro hPc
    exact free_for_stopper hReach hPc

section Runs

open Deployment

/-- After a failed pair the supervisor comes to the mutex and finds it free. -/
theorem transition_uncontended_failed :
    ∃ s, (machine deployment).Reachable s ∧ s.supervisor.locks = true ∧
      s.client.transitionLocked = false := by
  obtain ⟨s, hReach, hLocks⟩ := Machine.exists_reaches_of_runWith (machine deployment)
    (fun _ _ => True) (bringUp ++ failPair ++ joinPair ++ List.replicate 6 (.supervisor .tick))
    (fun s => s.supervisor.locks) (by decide +kernel)
  exact ⟨s, hReach.reachable, hLocks, (transition_uncontended hReach.reachable).2.1 hLocks⟩

end Runs

end AdapterRuntime.Model
