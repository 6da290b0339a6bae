import AdapterRuntime.Lib.Progress
import AdapterRuntime.Proof.Burden

/-!
# AdapterRuntime — `Stop` comes to its end

`Stop` sets `stop_requested_`, cancels the streams and then joins the supervisor and the workers,
which join and wait for the other threads in turn. The waits form no cycle, so that until `Stop`
has returned there is always a thread that waits for nobody. Once it has returned nothing is left
of the session, and a client that has registered does not start again.

* `turn_enabled`   — while `Stop` has not returned, some thread can take a turn.
* `stop_completes` — under every schedule `Stop` returns.
* `stop_final`     — after `Stop` nothing is left, and nothing comes back.
-/

namespace AdapterRuntime.Model

open AdapterRuntime.Lib

variable {env : Env} {c c' : Client} {s s' : System}

-- ---------------------------------------------------------------------------
-- Workers
-- ---------------------------------------------------------------------------

/-- A handler that was reached has an endpoint. -/
def WorkerPc.Served (env : Env) : WorkerPc → Prop
  | .queueAccepted job binding | .queueStarted job binding | .running job binding
  | .returnedUnary job binding _ | .returnedOperation job binding _ =>
    (handlerEndpoint env binding job).isSome = true
  | _ => True

theorem served_afterSignal (job : DispatchJob) (after : AfterSignal) :
    (WorkerPc.afterSignal job after).Served env := by
  cases after <;> trivial

/-- An input that is accepted has an endpoint. -/
theorem handlerEndpoint_of_inputAccepted {job : DispatchJob} {binding : Nat}
    (h : inputAccepted env binding job = true) : (handlerEndpoint env binding job).isSome := by
  simp only [inputAccepted] at h
  split at h
  · simp at h
  · rename_i hEndpoint
    rw [hEndpoint]
    rfl

theorem served_workerStep {pc pc' : WorkerPc} {input : WorkerInput} (hServed : pc.Served env)
    (h : workerStep env c pc input = some (pc', c')) : pc'.Served env := by
  cases workerStep_branch h with
  -- an accepted input has an endpoint, whose handler serves the job
  | startUnary hInput | toOperation hInput => exact handlerEndpoint_of_inputAccepted hInput
  -- the handler chosen stays the same until it has returned
  | accepted | started | returnUnary | returnOperation => exact hServed
  -- the other branches lead to points that need none
  | commit hCommits => cases hCommits <;> trivial
  | unheard | signalSession => exact served_afterSignal _ _
  | _ => trivial

theorem served_of_reachable (h : (machine env).Reachable s) : ∀ i, (s.workers i).Served env := by
  refine h.invariant (I := fun s => ∀ i, (s.workers i).Served env) (fun i => trivial) ?_
  intro s a s' _ hServed hRun
  have hStep : s.step env a = some s' := hRun
  cases System.step_cases hStep with
  | @worker i input pc' c' hWorker =>
    intro j
    by_cases hj : j = i
    · subst hj
      simp only [System.setWorker, if_true]
      exact served_workerStep (hServed j) hWorker
    · simp only [System.setWorker, hj, if_false]
      exact hServed j
  | supervisor =>
    show ∀ i, ((s.spawn _).workers i).Served env
    rw [workers_spawn]
    exact hServed
  | startThreads =>
    intro i
    show (if i < env.config.dispatchWorkers then WorkerPc.idle else .notStarted).Served env
    split <;> trivial
  | joinWorkers => exact fun _ => trivial
  | _ => exact hServed

theorem started_workerStep {pc pc' : WorkerPc} {input : WorkerInput}
    (h : workerStep env c pc input = some (pc', c')) : pc' ≠ .notStarted := by
  cases workerStep_cases h with
  | quiet _ hJob' | commitSource _ hJob' =>
    intro hPc
    rw [hPc] at hJob'
    cases hJob'
  | commit _ _ _ hNext => obtain rfl | rfl := hNext <;> simp
  | refuse _ _ _ _ _ hNext =>
    obtain ⟨-, -, rfl⟩ | ⟨reason, after, -, rfl⟩ := hNext <;> simp
  | _ => simp

/-- The threads that were created are there until they are joined. -/
theorem created_of_reachable (h : (machine env).Reachable s) :
    ∀ i < s.dispatchThreads, s.workers i ≠ .notStarted := by
  refine h.invariant (I := fun s => ∀ i < s.dispatchThreads, s.workers i ≠ .notStarted)
    (fun i hi => absurd hi (Nat.not_lt_zero i)) ?_
  intro s a s' _ hCreated hRun
  have hStep : s.step env a = some s' := hRun
  cases System.step_cases hStep with
  | @worker i input pc' c' hWorker =>
    intro j hj
    by_cases hEq : j = i
    · subst hEq
      simp only [System.setWorker, if_true]
      exact started_workerStep hWorker
    · simp only [System.setWorker, hEq, if_false]
      exact hCreated j hj
  | supervisor =>
    show ∀ i < (s.spawn _).dispatchThreads, (s.spawn _).workers i ≠ .notStarted
    unfold System.spawn
    split <;> exact hCreated
  | startThreads =>
    intro i hi
    have hi : i < env.config.dispatchWorkers := hi
    simp [hi]
  | joinWorkers => exact fun i hi => absurd hi (Nat.not_lt_zero i)
  | _ => exact hCreated

/-- A worker waits for nothing but the return of a handler. -/
theorem workerStep_enabled {pc : WorkerPc} (hStop : c.flags.stopRequested = true)
    (hServed : pc.Served env) (hStarted : pc ≠ .notStarted) (hAlive : pc ≠ .exited) :
    ∃ input, (workerStep env c pc input).isSome = true := by
  cases pc with
  | notStarted => exact absurd rfl hStarted
  | exited => exact absurd rfl hAlive
  | idle =>
    refine ⟨.tick 0, ?_⟩
    simp only [workerStep, workerTick, popStep, hStop, if_true]
    split <;> rfl
  | running job binding =>
    by_cases hKind : job.kind = .unary
    · exact ⟨.unaryOutcome (.value {}), by simp [workerStep, hKind]⟩
    · exact ⟨.operationOutcome (.value {}), by simp [workerStep, hKind]⟩
  | sourceRunning job binding => exact ⟨.sourceOutcome (.value {}), rfl⟩
  | returnedUnary job binding result | returnedOperation job binding result =>
    obtain ⟨endpoint, hEndpoint⟩ := Option.isSome_iff_exists.mp hServed
    exact ⟨.tick 0, by simp [workerStep, workerTick, hEndpoint]⟩
  | popped job =>
    refine ⟨.tick 0, ?_⟩
    simp only [workerStep, workerTick]
    split
    · split
      · rfl
      · split <;> rfl
    · split <;> rfl
  | handle job binding =>
    refine ⟨.tick 0, ?_⟩
    simp only [workerStep, workerTick]
    split
    · rfl
    · split <;> rfl
  | sourceInitial job =>
    refine ⟨.tick 0, ?_⟩
    simp only [workerStep, workerTick]
    split
    · rfl
    · split <;> rfl
  | validate | queueAccepted | queueStarted | commit | signal | sourceDispatch | sourceCommit =>
    refine ⟨.tick 0, ?_⟩
    simp only [workerStep, workerTick]
    split <;> rfl
  | cancelledCommit | contextReject | inputReject | commitFallback | signalSession | eraseToken
  | leave | finish | sourceReturned | sourceNotify | sourceFinish => exact ⟨.tick 0, rfl⟩

-- ---------------------------------------------------------------------------
-- Streams
-- ---------------------------------------------------------------------------

/-- After the stop request a Work writer can always go on. -/
theorem workWriterStep_enabled {pc : WorkWriterPc} (hStop : c.flags.stopRequested = true)
    (hAlive : pc.fence? ≠ none) : ∃ input, (workWriterStep env c pc input).isSome = true := by
  cases pc with
  | notStarted | exited => exact absurd rfl hAlive
  | attach fence =>
    refine ⟨.tick, ?_⟩
    simp only [workWriterStep]
    split <;> rfl
  | writingAttach | writing =>
    refine ⟨.wrote false, ?_⟩
    simp [workWriterStep]
  | loop fence =>
    refine ⟨.tick, ?_⟩
    simp [workWriterStep, Client.pairLive, hStop]
  | markReady | signal => exact ⟨.tick, rfl⟩

/-- After the stop request a Control writer can always go on. -/
theorem controlWriterStep_enabled {pc : ControlWriterPc} (hStop : c.flags.stopRequested = true)
    (hAlive : pc.fence? ≠ none) : ∃ input, (controlWriterStep env c pc input).isSome = true := by
  cases pc with
  | notStarted | exited => exact absurd rfl hAlive
  | loop fence =>
    refine ⟨.tick, ?_⟩
    simp [controlWriterStep, Client.pairLive, hStop]
  | writing =>
    refine ⟨.wrote false, ?_⟩
    simp [controlWriterStep]
  | gate | signal | terminal => exact ⟨.tick, rfl⟩

/-- The Work reader waits for nothing but its writer. -/
theorem workReaderAction_enabled (hAlive : s.workReader.fence? ≠ none)
    (hWriter : s.workWriterDone = true) :
    ∃ input, (s.workReaderAction env input).isSome = true := by
  cases hPc : s.workReader with
  | notStarted | exited =>
    rw [hPc] at hAlive
    exact absurd rfl hAlive
  | opening fence => exact ⟨.opened false, by simp [System.workReaderAction, hPc, workReaderStep]⟩
  | blocked fence => exact ⟨.readFailed, by simp [System.workReaderAction, hPc, workReaderStep]⟩
  | closing fence =>
    exact ⟨.status .ok, by simp [System.workReaderAction, hPc, hWriter, workReaderStep]⟩
  | reading | validating | handling | finished =>
    refine ⟨.tick 0, ?_⟩
    simp only [System.workReaderAction, hPc, workReaderStep, Option.isSome_map]
    split
    · rfl
    · first | rfl | (split <;> rfl)
  | followUp | signalSession | terminal | lastTerminal | lastSignal =>
    exact ⟨.tick 0, by simp [System.workReaderAction, hPc, workReaderStep]⟩

-- ---------------------------------------------------------------------------
-- Transitions
-- ---------------------------------------------------------------------------

/-- When the callbacks are quiet a deactivation can always go on. -/
theorem deactivateStep_enabled (reason : Text) (at_ : DeactivatePc)
    (hQuiet : c.callbacksQuiet = true) :
    ∃ next c', deactivateStep env reason c at_ = some (next, c') := by
  cases at_ with
  | locked | clearing => exact ⟨_, _, rfl⟩
  | waiting plan => exact ⟨_, _, if_pos hQuiet⟩
  | stopping remaining plan => cases remaining <;> exact ⟨_, _, rfl⟩
  | notifying remaining => cases remaining <;> exact ⟨_, _, rfl⟩

/-- With the workers at rest and the mutex free, the transaction waits for nothing but the return
of a callback. -/
theorem applyStep_enabled {session : Text} (at_ : ApplyPc) (hQuiet : c.callbacksQuiet = true)
    (hFree : ∀ cand, at_ = .lock cand → c.transitionLocked = false) :
    (applyTick env session c at_).isSome = true ∨
      ∃ outcome, (applyCallback env c outcome at_).isSome = true := by
  cases at_ with
  | begin cand =>
    refine .inl ?_
    simp only [applyTick]
    split <;> rfl
  | waiting cand => exact .inl (by simp [applyTick, hQuiet])
  | lock cand => exact .inl (by simp [applyTick, hFree cand rfl])
  | checkSession | checkStop | committing =>
    refine .inl ?_
    simp only [applyTick, applyReturn]
    split <;> rfl
  | deactivating cand at_ =>
    obtain ⟨next, c', hStep⟩ :=
      @deactivateStep_enabled env c (text "instance spec replaced") at_ hQuiet
    refine .inl ?_
    simp only [applyTick, hStep]
    cases next <;> rfl
  | readyDeactivating cand failed at_ =>
    obtain ⟨next, c', hStep⟩ :=
      @deactivateStep_enabled env c (text "capability ready callback failed") at_ hQuiet
    refine .inl ?_
    simp only [applyTick, hStep]
    cases next <;> rfl
  | applying cand =>
    by_cases hBound : env.callbacks.applyInstanceSpec = true
    · refine .inr ⟨.returned true [], ?_⟩
      simp [applyCallback, hBound, CallbackOutcome.succeeded]
    · exact .inl (by simp [applyTick, hBound])
  | starting cand remaining started error =>
    cases remaining with
    | nil => exact .inl rfl
    | cons entry rest =>
      by_cases hBound : env.hasCallback CapabilityCallbacks.start entry.2 = true
      · refine .inr ⟨.returned true [], ?_⟩
        simp [applyCallback, hBound, CallbackOutcome.succeeded]
      · exact .inl (by simp [applyTick, hBound])
  | readying cand remaining =>
    cases remaining with
    | nil => exact .inl rfl
    | cons binding rest =>
      by_cases hBound : env.hasCallback CapabilityCallbacks.ready binding = true
      · exact .inr ⟨.returned true [], by simp [applyCallback, hBound]⟩
      · exact .inl (by simp [applyTick, hBound])
  | unwinding cand remaining clear failedKey error => cases remaining <;> exact .inl rfl
  | staleUnwinding cand remaining => cases remaining <;> exact .inl rfl
  | failing | readyFailing | finishing => exact .inl rfl

/-- With the workers at rest and the mutex free, the Control reader waits for nothing but its
writer. -/
theorem controlReaderAction_enabled (hAlive : s.controlReader.fence? ≠ none)
    (hWriter : s.controlWriterDone = true) (hQuiet : s.client.callbacksQuiet = true)
    (hFree : ∀ fence cand, s.controlReader = .applying fence (.lock cand) →
      s.client.transitionLocked = false) :
    ∃ input, (s.controlReaderAction env input).isSome = true := by
  cases hPc : s.controlReader with
  | notStarted | exited =>
    rw [hPc] at hAlive
    exact absurd rfl hAlive
  | opening fence =>
    exact ⟨.opened false, by simp [System.controlReaderAction, hPc, controlReaderStep]⟩
  | blocked fence =>
    exact ⟨.readFailed, by simp [System.controlReaderAction, hPc, controlReaderStep]⟩
  | closing fence =>
    exact ⟨.status .ok, by simp [System.controlReaderAction, hPc, hWriter, controlReaderStep]⟩
  | applying fence at_ =>
    have hLock : ∀ cand, at_ = .lock cand → s.client.transitionLocked = false :=
      fun cand hAt => hFree fence cand (hAt ▸ hPc)
    obtain hTick | ⟨outcome, hCall⟩ :=
      @applyStep_enabled env s.client fence.sessionId at_ hQuiet hLock
    · exact ⟨.tick 0, by simpa [System.controlReaderAction, hPc, controlReaderStep] using hTick⟩
    · exact ⟨.callback outcome, by
        simpa [System.controlReaderAction, hPc, controlReaderStep] using hCall⟩
  | reading | validating | queueing | finished =>
    refine ⟨.tick 0, ?_⟩
    simp only [System.controlReaderAction, hPc, controlReaderStep, Option.isSome_map]
    split
    · rfl
    · first | rfl | (split <;> rfl)
  | handling | remoteStop | signal | terminal | lastTerminal | lastSignal =>
    exact ⟨.tick 0, by simp [System.controlReaderAction, hPc, controlReaderStep]⟩

-- ---------------------------------------------------------------------------
-- Joins
-- ---------------------------------------------------------------------------

/-- With the streams ended, the workers at rest and the mutex free, the supervisor waits for
nothing. -/
theorem supervisorStep_enabled {pc : SupervisorPc} (hStop : c.flags.stopRequested = true)
    (hQuiet : c.callbacksQuiet = true) (hFree : pc.locks = true → c.transitionLocked = false)
    (hStarted : pc ≠ .notStarted) (hAlive : pc ≠ .finished) :
    ∃ input, (supervisorStep env c true true pc input).isSome = true := by
  have hLock : pc.locks = true → ∀ reason after, (lockTransition c reason after).isSome = true := by
    intro hLocks reason after
    simp [lockTransition, hFree hLocks]
  cases pc with
  | notStarted => exact absurd rfl hStarted
  | finished => exact absurd rfl hAlive
  | register =>
    refine ⟨.tick, ?_⟩
    simp only [supervisorStep, hStop, if_true]
    split <;> rfl
  | registerCall => exact ⟨.registered none [], rfl⟩
  | registerFailed reason => exact ⟨.tick, by simp [supervisorStep, hStop]⟩
  | loop r => exact ⟨.tick, by simpa [supervisorStep, hStop] using hLock rfl _ _⟩
  | awaitAttach r fence => exact ⟨.tick, by simp [supervisorStep, Client.pairOver, hStop]⟩
  | awaitFailure r fence => exact ⟨.tick, by simp [supervisorStep, Client.pairOver, hStop]⟩
  | replaceWait r sources => exact ⟨.tick, by simp [supervisorStep, hQuiet]⟩
  | replaceNotify r sources error => cases sources <;> exact ⟨.tick, rfl⟩
  | checkStop r wasReady => exact ⟨.tick, by simpa [supervisorStep, hStop] using hLock rfl _ _⟩
  | checkTerminal r wasReady =>
    refine ⟨.tick, ?_⟩
    simp only [supervisorStep]
    split <;> rfl
  | lostTerminal => exact ⟨.tick, hLock rfl _ _⟩
  | lostBudget => exact ⟨.tick, hLock rfl _ _⟩
  | checkEpoch r =>
    refine ⟨.tick, ?_⟩
    simp only [supervisorStep]
    split
    · exact hLock rfl _ _
    · rfl
  | deactivating reason at_ after =>
    obtain ⟨next, c', hStep⟩ := @deactivateStep_enabled env c reason at_ hQuiet
    refine ⟨.tick, ?_⟩
    simp only [supervisorStep, hStep]
    cases next <;> rfl
  | enterLost reason =>
    refine ⟨.tick, ?_⟩
    simp only [supervisorStep]
    split <;> rfl
  | install | prepare | joinControl | joinWork | replaceBegin | replaceRelease | replaceError
  | clear | advance | backOff | reportLost | endSession => exact ⟨.tick, rfl⟩

/-- With everybody else at rest, `Stop` waits for nothing. -/
theorem stopperStep_enabled (hStopping : s.stopper ≠ .idle)
    (hSupervisor : s.supervisor = .notStarted ∨ s.supervisor = .finished)
    (hWorkers : ∀ i < s.dispatchThreads, s.workers i = .exited)
    (hQuiet : s.client.callbacksQuiet = true)
    (hFree : s.stopper = .lock → s.client.transitionLocked = false) :
    (s.stopperStep env).isSome = true := by
  cases hPc : s.stopper with
  | idle => exact absurd hPc hStopping
  | joinSupervisor =>
    obtain hDone | hDone := hSupervisor <;> simp [System.stopperStep, hPc, hDone]
  | joinWorkers =>
    simp only [System.stopperStep, hPc]
    split
    · rfl
    · rename_i hNot
      refine absurd (List.all_eq_true.mpr fun i hi => ?_) hNot
      rw [hWorkers i (List.mem_range.mp hi)]
  | lock => simp [System.stopperStep, hPc, hFree hPc]
  | deactivating at_ =>
    obtain ⟨next, c', hStep⟩ :=
      @deactivateStep_enabled env s.client (text "client stopped") at_ hQuiet
    simp only [System.stopperStep, hPc, hStep]
    cases next <;> rfl
  | reset => simp [System.stopperStep, hPc]

/-- While `Stop` has not returned, some thread can take a turn. The waits form no cycle: workers
and writers wait for nobody, readers for their writers, transitions for the workers, the
supervisor for the readers, and `Stop` for the supervisor and the workers. -/
theorem turn_enabled (hReach : (machine env).Reachable s) (hStopping : s.stopper ≠ .idle) :
    ∃ a s', a.isTurn = true ∧ s.step env a = some s' := by
  by_contra hStuck
  have hShape := shape_of_reachable hReach
  have hStop := (single_of_reachable hReach).stopping hStopping
  have hNone : ∀ a, a.isTurn = true → (s.step env a).isSome = true → False := by
    intro a hTurn hSome
    obtain ⟨s', hStep⟩ := Option.isSome_iff_exists.mp hSome
    exact hStuck ⟨a, s', hTurn, hStep⟩
  -- every worker has returned, so that no callback is waited for
  have hIdle : ∀ i, s.workers i = .notStarted ∨ s.workers i = .exited := by
    intro i
    by_contra hBusy
    rw [not_or] at hBusy
    obtain ⟨input, hSome⟩ := workerStep_enabled hStop (served_of_reachable hReach i) hBusy.1 hBusy.2
    exact hNone (.worker i input) rfl
      (by simpa [System.step, System.workerAction] using hSome)
  have hWorkers : ∀ i < s.dispatchThreads, s.workers i = .exited := fun i hi =>
    (hIdle i).resolve_left (created_of_reachable hReach i hi)
  have hQuiet : s.client.callbacksQuiet = true := by
    have hActive : s.client.queues.activeDispatchJobs = 0 := by
      rw [hShape.occupancy.active]
      exact Finset.sum_eq_zero fun i hi => by rw [hWorkers i (Finset.mem_range.mp hi)]; rfl
    have hFlight : s.client.queues.inFlightWork = 0 := by
      rw [(workload_of_reachable hReach).flight]
      exact Finset.sum_eq_zero fun i hi => by rw [hWorkers i (Finset.mem_range.mp hi)]; rfl
    simp [Client.callbacksQuiet, hActive, hFlight]
  -- the writers have returned, and then the readers
  have hWorkWriter : s.workWriterDone = true := by
    rw [System.workWriterDone_iff]
    by_contra hAlive
    obtain ⟨input, hSome⟩ := workWriterStep_enabled hStop hAlive
    exact hNone (.workWriter input) rfl (by simpa [System.step] using hSome)
  have hControlWriter : s.controlWriterDone = true := by
    rw [System.controlWriterDone_iff]
    by_contra hAlive
    obtain ⟨input, hSome⟩ := controlWriterStep_enabled hStop hAlive
    exact hNone (.controlWriter input) rfl (by simpa [System.step] using hSome)
  have hWorkReader : s.workReaderDone = true := by
    rw [System.workReaderDone_iff]
    by_contra hAlive
    obtain ⟨input, hSome⟩ := workReaderAction_enabled hAlive hWorkWriter
    exact hNone (.workReader input) rfl hSome
  have hControlReader : s.controlReaderDone = true := by
    rw [System.controlReaderDone_iff]
    by_contra hAlive
    obtain ⟨input, hSome⟩ := controlReaderAction_enabled hAlive hControlWriter hQuiet
      fun _ _ hPc => free_for_transaction hReach hPc
    exact hNone (.controlReader input) rfl hSome
  -- nothing is left for the supervisor to wait for, and then nothing for `Stop`
  have hSupervisor : s.supervisor = .notStarted ∨ s.supervisor = .finished := by
    by_contra hAlive
    rw [not_or] at hAlive
    obtain ⟨input, hSome⟩ := supervisorStep_enabled hStop hQuiet
      (free_for_supervisor hReach) hAlive.1 hAlive.2
    refine hNone (.supervisor input) rfl ?_
    simpa [System.step, System.supervisorAction, hControlReader, hWorkReader] using hSome
  exact hNone .stopper rfl (stopperStep_enabled hStopping hSupervisor hWorkers hQuiet
    (free_for_stopper hReach))

-- ---------------------------------------------------------------------------
-- Completion
-- ---------------------------------------------------------------------------

/-- **`Stop` returns.** From every reachable state in which `Stop` is under way, whatever the
application calls in the meantime, some thread can take a turn until `Stop` has returned, and
under every schedule finitely many turns take it there. -/
theorem stop_completes (hReach : (machine env).Reachable s) (hStopping : s.stopper ≠ .idle) :
    (machine env).Completes (fun a => a.isTurn = true) (fun s => s.stopper = .idle) s := by
  refine Machine.Completes.of_measure
    (I := fun s => (machine env).Reachable s ∧ s.stopper ≠ .idle) System.burden ?_ ?_ ?_
    ⟨hReach, hStopping⟩
  · intro s hs
    exact turn_enabled hs.1 hs.2
  · intro s a s' hs hTurn hStep
    refine ⟨?_, burden_turn hs.1 hs.2 hTurn hStep⟩
    by_cases hDone : s'.stopper = .idle
    · exact .inl hDone
    · exact .inr ⟨hs.1.step hStep, hDone⟩
  · intro s a s' hs hTurn hStep
    obtain ⟨hStopper, hLe⟩ := burden_outside hs.2 (by simpa using hTurn) hStep
    exact ⟨⟨hs.1.step hStep, hStopper⟩, hLe⟩

section Runs

open Deployment

/-- `Stop` has begun. -/
def StopPc.begun : StopPc → Bool
  | .idle => false
  | _ => true

/-- A stop that comes while the transaction of the first spec is under way completes. -/
theorem stop_completes_applying :
    ∃ s, (machine deployment).Reachable s ∧ s.stopper ≠ .idle ∧
      s.inTransition .transaction = true ∧
      (machine deployment).Completes (fun a => a.isTurn = true) (fun s => s.stopper = .idle) s := by
  obtain ⟨s, hReach, hCheck⟩ := Machine.exists_reaches_of_runWith (machine deployment)
    (fun _ _ => True)
    (register ++ .controlReader (.opened true) :: receiveSpec 1 1 1 ++
      List.replicate 5 (.controlReader (.tick 0)) ++ [.stop])
    (fun s => s.stopper.begun && s.inTransition .transaction) (by decide +kernel)
  rw [Bool.and_eq_true] at hCheck
  have hStopping : s.stopper ≠ .idle := by
    intro hIdle
    rw [hIdle] at hCheck
    cases hCheck.1
  exact ⟨s, hReach.reachable, hStopping, hCheck.2, stop_completes hReach.reachable hStopping⟩

end Runs

-- ---------------------------------------------------------------------------
-- After `Stop`
-- ---------------------------------------------------------------------------

/-- What the last section of `Stop` has put away. -/
structure System.Cleared (s : System) : Prop where
  state : s.client.flags.state = .stopped
  dispatchThreads : s.dispatchThreads = 0
  work : s.client.queues.work = []
  control : s.client.queues.control = []
  replay : s.client.tables.replay = ∅
  sourceStreams : s.client.tables.sourceStreams = ∅
  closedSources : s.client.tables.closedSources = ∅

/-- Nothing is left of a session: no thread, no work, no source, no spec, no callback under way
and nothing to be written. -/
structure System.Quiescent (s : System) : Prop extends s.Cleared where
  supervisor : s.supervisor = .notStarted
  stopper : s.stopper = .idle
  workers : ∀ i, s.workers i = .notStarted
  workReader : s.workReader.fence? = none
  workWriter : s.workWriter.fence? = none
  controlReader : s.controlReader.fence? = none
  controlWriter : s.controlWriter.fence? = none
  dispatch : s.client.queues.dispatch = []
  workTokens : s.client.tables.workTokens = ∅
  spec : s.client.spec.Vacant
  unlocked : s.client.transitionLocked = false

/-- A refused frame leaves a cleared client cleared. -/
theorem System.Cleared.refused (h : s.Cleared) (hThreads : s'.dispatchThreads = s.dispatchThreads)
    (hRefused : s.client.Refused s'.client) : s'.Cleared := by
  obtain hEq | hEq := hRefused <;> exact {
    state := (congrArg (fun k : Client => k.flags.state) hEq).trans h.state
    dispatchThreads := hThreads.trans h.dispatchThreads
    work := (congrArg (fun k : Client => k.queues.work) hEq).trans h.work
    control := (congrArg (fun k : Client => k.queues.control) hEq).trans h.control
    replay := (congrArg (fun k : Client => k.tables.replay) hEq).trans h.replay
    sourceStreams := (congrArg (fun k : Client => k.tables.sourceStreams) hEq).trans h.sourceStreams
    closedSources :=
      (congrArg (fun k : Client => k.tables.closedSources) hEq).trans h.closedSources }

/-- `Stop` deactivates the application after it has joined the workers. -/
theorem joined_of_alone (h : (machine env).Reachable s) (hAlone : s.stopper.alone = true) :
    s.dispatchThreads = 0 := by
  refine Machine.Reachable.invariant (M := machine env)
    (I := fun s => s.stopper.alone = true → s.dispatchThreads = 0) (fun _ => rfl) ?_ h hAlone
  intro s a s' _ hJoined hRun hAlone'
  have hStep : s.step env a = some s' := hRun
  cases System.step_cases hStep with
  | flags _ _ _ _ _ _ _ hStop =>
    obtain rfl | ⟨-, rfl⟩ | ⟨hLock, -⟩ := hStop
    · exact hJoined hAlone'
    · cases hAlone'
    · exact hJoined (by rw [hLock]; rfl)
  | @supervisor input pc' c' hSupervisor =>
    have hSame : (s.spawn pc').stopper = s.stopper ∧
        (s.spawn pc').dispatchThreads = s.dispatchThreads := by
      unfold System.spawn
      split <;> exact ⟨rfl, rfl⟩
    have hAlone' : (s.spawn pc').stopper.alone = true := hAlone'
    rw [hSame.1] at hAlone'
    exact hSame.2.trans (hJoined hAlone')
  | startThreads _ hStopper =>
    have hAlone' : s.stopper.alone = true := hAlone'
    rw [hStopper] at hAlone'
    cases hAlone'
  | joinWorkers => rfl
  | stopDeactivate hStopper => exact hJoined (by rw [hStopper]; rfl)
  | joinSupervisor | stopReset => cases hAlone'
  | _ => exact hJoined hAlone'

/-- Where the threads have been joined none takes a turn. -/
theorem turn_none (hShape : Shape s) (hThreads : s.dispatchThreads = 0)
    (hPc : s.supervisor = .notStarted) (hIdle : s.stopper = .idle) {a : Action}
    (hTurn : a.isTurn = true) (hStep : s.step env a = some s') : False := by
  have hWorkReader := hShape.threads.workReader (by rw [hPc]; rfl)
  have hControlReader := hShape.threads.controlReader (by rw [hPc]; rfl)
  have hWorkWriter := hShape.threads.workWriter (WorkReaderPc.alone_of_fence_none hWorkReader)
  have hControlWriter :=
    hShape.threads.controlWriter (ControlReaderPc.alone_of_fence_none hControlReader)
  cases a with
  | worker i input =>
    simp only [System.step, System.workerAction, Option.map_eq_some_iff] at hStep
    obtain ⟨⟨pc', c'⟩, hWorker, -⟩ := hStep
    rw [hShape.occupancy.beyond i (by omega)] at hWorker
    cases input <;> cases hWorker
  | workReader input =>
    obtain ⟨fence, hFence, -⟩ := workReaderStep_fence (workReaderStep_of_step (s := s) hStep)
    rw [hWorkReader] at hFence
    cases hFence
  | controlReader input =>
    obtain ⟨fence, hFence, -⟩ := controlReaderStep_fence (System.controlReaderAction_step hStep)
    rw [hControlReader] at hFence
    cases hFence
  | workWriter input =>
    simp only [System.step, Option.map_eq_some_iff] at hStep
    obtain ⟨⟨pc', c'⟩, hWriter, -⟩ := hStep
    obtain ⟨fence, hFence, -⟩ := workWriterStep_fence hWriter
    rw [hWorkWriter] at hFence
    cases hFence
  | controlWriter input =>
    simp only [System.step, Option.map_eq_some_iff] at hStep
    obtain ⟨⟨pc', c'⟩, hWriter, -⟩ := hStep
    obtain ⟨fence, hFence, -⟩ := controlWriterStep_fence hWriter
    rw [hControlWriter] at hFence
    cases hFence
  | supervisor input =>
    simp only [System.step, System.supervisorAction, Option.map_eq_some_iff] at hStep
    obtain ⟨⟨pc', c'⟩, hSupervisor, -⟩ := hStep
    rw [hPc] at hSupervisor
    cases hSupervisor
  | stopper =>
    simp only [System.step, System.stopperStep, hIdle] at hStep
    cases hStep
  | start | startThreads | startReturns | stop | publishSource | closeSource => cases hTurn

/-- A call of the application that finds the client cleared changes nothing that anybody reads,
unless it starts the client. -/
theorem outside_of_cleared (hCleared : s.Cleared) (hPc : s.supervisor = .notStarted)
    (hIdle : s.stopper = .idle) {a : Action} (hTurn : a.isTurn = false)
    (hStep : s.step env a = some s') :
    (s.starter = .validated ∧ s'.supervisor = .register) ∨
      (s'.supervisor = .notStarted ∧ s'.stopper = .idle ∧
        s'.dispatchThreads = s.dispatchThreads ∧ s.client.Refused s'.client) := by
  -- nothing is left to stop
  have hFully : s.fullyStopped = true := by
    simp [System.fullyStopped, hCleared.state, hCleared.dispatchThreads, hPc]
  have hBegin : s.beginStop = s := by
    unfold System.beginStop
    rw [if_pos hFully]
  cases a with
  | stopper | worker | workReader | workWriter | controlReader | controlWriter | supervisor =>
    cases hTurn
  | start =>
    -- `Start` refuses, or validates
    simp only [System.step, System.startStep] at hStep
    split at hStep
    · split at hStep
      · cases hStep
      · split at hStep <;> cases hStep
        exact .inr ⟨hPc, hIdle, rfl, .inl rfl⟩
    · cases hStep
  | startThreads =>
    simp only [System.step, System.startThreadsStep] at hStep
    split at hStep
    · rename_i hStarter _
      split at hStep <;> cases hStep
      · -- overtaken by a `Stop`, or the supervisor is created
        exact .inr ⟨hPc, hIdle, rfl, .inl rfl⟩
      · exact .inl ⟨hStarter, rfl⟩
    · cases hStep
  | startReturns timeout =>
    have hBegin' : { s with starter := .idle }.beginStop = { s with starter := .idle } := by
      unfold System.beginStop
      exact if_pos hFully
    simp only [System.step, System.startReturnsStep] at hStep
    -- the caller of `Start` times out into a `Stop` that has nothing to do
    split at hStep
    · split at hStep
      · cases hStep
        exact .inr ⟨hPc, hIdle, rfl, .inl rfl⟩
      · split at hStep <;> cases hStep
        rw [hBegin']
        exact .inr ⟨hPc, hIdle, rfl, .inl rfl⟩
    · cases hStep
  | stop =>
    simp only [System.step, hIdle, hBegin] at hStep
    cases hStep
    exact .inr ⟨hPc, hIdle, rfl, .inl rfl⟩
  | publishSource streamId items =>
    cases hStep
    refine .inr ⟨hPc, hIdle, rfl, ?_⟩
    -- nothing can be published before the client is ready
    obtain ⟨-, source, hPublishes, -⟩ | ⟨-, hRefused⟩ :=
      publishSource_cases (Prod.mk.eta (p := publishSource env s.client streamId items)).symm
    · have hState := hPublishes.ready
      rw [hCleared.state] at hState
      cases hState
    · exact hRefused
  | closeSource streamId error =>
    cases hStep
    refine .inr ⟨hPc, hIdle, rfl, ?_⟩
    -- and there is no source to close
    obtain ⟨-, source, digest, hActive, -⟩ | ⟨-, hRefused⟩ :=
      closeSource_cases (Prod.mk.eta (p := closeSource env s.client streamId error)).symm
    · rw [hCleared.sourceStreams] at hActive
      cases hActive
    · exact hRefused

/-- Nobody is there after a step if nobody was, or if `Stop` has just returned. -/
theorem idle_before {a : Action} (hStep : s.step env a = some s')
    (hPc' : s'.supervisor = .notStarted) (hIdle' : s'.stopper = .idle) :
    (s.supervisor = .notStarted ∧ s.stopper = .idle) ∨
      (s.stopper = .reset ∧ s' = { s with client := s.client.endStop env, stopper := .idle }) := by
  cases System.step_cases hStep with
  | supervisor hSupervisor => exact absurd hPc' (supervisorStep_branch hSupervisor).started.2
  | flags _ _ _ _ _ _ _ hStop =>
    obtain hEq | ⟨-, hEq⟩ | ⟨-, hEq⟩ := hStop <;> rw [hEq] at hIdle'
    · exact .inl ⟨hPc', hIdle'⟩
    · cases hIdle'
    · cases hIdle'
  | startThreads => cases hPc'
  | joinSupervisor | joinWorkers => cases hIdle'
  | stopDeactivate _ _ hNext =>
    obtain ⟨_, -, rfl, -⟩ | ⟨-, rfl, -⟩ := hNext <;> cases hIdle'
  | stopReset hStopper => exact .inr ⟨hStopper, rfl⟩
  | _ => exact .inl ⟨hPc', hIdle'⟩

/-- A client that is not running is cleared. -/
theorem cleared_of_idle (h : (machine env).Reachable s) (hPc : s.supervisor = .notStarted)
    (hIdle : s.stopper = .idle) : s.Cleared := by
  refine Machine.Reachable.invariant (M := machine env)
    (I := fun s => s.supervisor = .notStarted → s.stopper = .idle → s.Cleared) ?_ ?_ h hPc hIdle
  · intro _ _
    exact ⟨rfl, rfl, rfl, rfl, rfl, rfl, rfl⟩
  · intro s a s' hReach hCleared hRun hPc' hIdle'
    have hStep : s.step env a = some s' := hRun
    obtain ⟨hPc, hIdle⟩ | ⟨hReset, rfl⟩ := idle_before hStep hPc' hIdle'
    · have hCleared := hCleared hPc hIdle
      cases hTurn : a.isTurn with
      | true =>
        exact (turn_none (shape_of_reachable hReach) hCleared.dispatchThreads hPc hIdle hTurn
          hStep).elim
      | false =>
        obtain ⟨-, hRegister⟩ | ⟨-, -, hThreads, hRefused⟩ :=
          outside_of_cleared hCleared hPc hIdle hTurn hStep
        · rw [hRegister] at hPc'
          cases hPc'
        · exact hCleared.refused hThreads hRefused
    · have hJoined : s.dispatchThreads = 0 := joined_of_alone hReach (by rw [hReset]; rfl)
      refine ⟨rfl, hJoined, rfl, rfl, rfl, ?_, ?_⟩ <;>
        simp [Client.endStop, Client.endSupervision, Client.resetSession,
          Client.releaseAllWorkTokens]

/-- Where neither a supervisor nor a `Stop` is there, nothing is. -/
theorem quiescent_of_idle (h : (machine env).Reachable s) (hPc : s.supervisor = .notStarted)
    (hIdle : s.stopper = .idle) : s.Quiescent := by
  have hShape := shape_of_reachable h
  have hCleared := cleared_of_idle h hPc hIdle
  have hWorkReader := hShape.threads.workReader (by rw [hPc]; rfl)
  have hControlReader := hShape.threads.controlReader (by rw [hPc]; rfl)
  have hUnlocked : s.client.transitionLocked = false := by
    refine free_of_nobody h fun p => ?_
    cases p with
    | transaction =>
      simp [System.inTransition, hShape.threads.transaction_none (by rw [hPc]; rfl)]
    | supervisor => simp [System.inTransition, hPc, SupervisorPc.deactivation?]
    | stopper => simp [System.inTransition, hIdle, StopPc.deactivation?]
  exact {
    toCleared := hCleared
    supervisor := hPc
    stopper := hIdle
    workers := fun i => hShape.occupancy.beyond i (by rw [hCleared.dispatchThreads]; omega)
    workReader := hWorkReader
    workWriter := hShape.threads.workWriter (WorkReaderPc.alone_of_fence_none hWorkReader)
    controlReader := hControlReader
    controlWriter :=
      hShape.threads.controlWriter (ControlReaderPc.alone_of_fence_none hControlReader)
    dispatch := hShape.occupancy.queue (by rw [hPc]; rfl)
    workTokens := hShape.occupancy.tokens (by rw [hPc]; rfl)
    spec := vacant_of_idle h hPc hIdle
    unlocked := hUnlocked }

/-- **`Stop` is final.** Where neither a supervisor nor a `Stop` is there, nothing is left of a
session, and if the client has registered before, nothing ever comes back: whatever the application
calls, no thread runs, no callback is made, no frame is queued and no chunk is accepted. -/
theorem stop_final (hReach : (machine env).Reachable s) (hPc : s.supervisor = .notStarted)
    (hIdle : s.stopper = .idle) :
    s.Quiescent ∧ (s.client.flags.registrationAttempted = true →
      ∀ s', (machine env).Path (fun _ _ => True) s s' →
        s'.Quiescent ∧ s'.client.trace = s.client.trace ∧ s'.client.history = s.client.history ∧
          ∀ streamId items, (publishSource env s'.client streamId items).1 ≠ .accepted) := by
  refine ⟨quiescent_of_idle hReach hPc hIdle, fun hAttempted s' hPath => ?_⟩
  have hKept := hPath.preserves (I := fun s' => s'.supervisor = .notStarted ∧ s'.stopper = .idle ∧
    s'.client.flags.registrationAttempted = true ∧ s'.client.trace = s.client.trace ∧
    s'.client.history = s.client.history) ?_ hReach ⟨hPc, hIdle, hAttempted, rfl, rfl⟩
  · obtain ⟨hPc', hIdle', -, hTrace, hHistory⟩ := hKept
    have hQuiescent := quiescent_of_idle (hPath.reachable hReach) hPc' hIdle'
    refine ⟨hQuiescent, hTrace, hHistory, fun streamId items hAccepted => ?_⟩
    obtain ⟨-, source, hPublishes, -⟩ | ⟨hRefused, -⟩ :=
      publishSource_cases (Prod.mk.eta (p := publishSource env s'.client streamId items)).symm
    · have hState := hPublishes.ready
      rw [hQuiescent.state] at hState
      cases hState
    · exact hRefused hAccepted
  · intro s₁ a s₂ hReach₁ hI _ hRun
    have hStep : s₁.step env a = some s₂ := hRun
    obtain ⟨hPc₁, hIdle₁, hAttempted₁, hTrace₁, hHistory₁⟩ := hI
    have hCleared := cleared_of_idle hReach₁ hPc₁ hIdle₁
    cases hTurn : a.isTurn with
    | true =>
      exact (turn_none (shape_of_reachable hReach₁) hCleared.dispatchThreads hPc₁ hIdle₁ hTurn
        hStep).elim
    | false =>
      obtain ⟨hStarter, -⟩ | ⟨hPc₂, hIdle₂, -, hRefused⟩ :=
        outside_of_cleared hCleared hPc₁ hIdle₁ hTurn hStep
      · -- a client that has registered is not validated again
        rw [(single_of_reachable hReach₁).unattempted hStarter] at hAttempted₁
        cases hAttempted₁
      · obtain hEq | hEq := hRefused <;> rw [hEq] <;>
          exact ⟨hPc₂, hIdle₂, hAttempted₁, hTrace₁, hHistory₁⟩

section Runs

open Deployment

/-- A `Stop` that has not begun is idle. -/
theorem StopPc.eq_of_not_begun {pc : StopPc} (h : pc.begun = false) : pc = .idle := by
  cases pc <;> first | rfl | cases h

/-- A session is brought up and stopped, and six callbacks were made in it: there is no seventh. -/
theorem stop_final_managed :
    ∃ s, (machine managed).Reachable s ∧ s.client.calls.length = 6 ∧ s.Quiescent ∧
      ∀ s', (machine managed).Path (fun _ _ => True) s s' →
        s'.Quiescent ∧ s'.client.trace = s.client.trace := by
  obtain ⟨s, hReach, hCheck⟩ := Machine.exists_reaches_of_runWith (machine managed)
    (fun _ _ => True)
    (register ++ .controlReader (.opened true) :: receiveSpec 1 1 1 ++ managedTransaction ++
      writeControl ++ attachWork ++ stopPair ++ finishStop ++ [.stopper])
    (fun s => s.fullyStopped && !s.stopper.begun && s.client.flags.registrationAttempted &&
      s.client.calls.length == 6) (by decide +kernel)
  simp only [Bool.and_eq_true, Bool.not_eq_true', beq_iff_eq] at hCheck
  obtain ⟨⟨⟨hFully, hBegun⟩, hAttempted⟩, hCalls⟩ := hCheck
  obtain ⟨hQuiescent, hFinal⟩ := stop_final hReach.reachable
    (System.notStarted_of_fullyStopped hFully) (StopPc.eq_of_not_begun hBegun)
  refine ⟨s, hReach.reachable, hCalls, hQuiescent, fun s' hPath => ?_⟩
  obtain ⟨hQuiescent', hTrace, -⟩ := hFinal hAttempted s' hPath
  exact ⟨hQuiescent', hTrace⟩

end Runs

end AdapterRuntime.Model
