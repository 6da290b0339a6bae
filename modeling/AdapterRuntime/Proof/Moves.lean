import AdapterRuntime.Proof.Supervision
import AdapterRuntime.Proof.Helm

/-!
# AdapterRuntime — the steps of the system

`System.step_cases` takes a step of the system apart into the step of the one
thread that moves. The steps of `Start` and `Stop` that only touch flags are
one case.
-/

namespace AdapterRuntime.Model

open AdapterRuntime.Lib

/-- `Stop` has joined the supervisor. -/
def StopPc.joined : StopPc → Bool
  | .idle | .joinSupervisor => false
  | _ => true

/-- `Stop` has joined the workers. -/
def StopPc.alone : StopPc → Bool
  | .idle | .joinSupervisor | .joinWorkers => false
  | _ => true

/-- What a step of the system can be. -/
inductive SystemMove (env : Env) (s : System) : Action → System → Prop
  | worker {i : Nat} {input : WorkerInput} {pc' : WorkerPc} {c' : Client}
      (hStep : workerStep env s.client (s.workers i) input = some (pc', c')) :
      SystemMove env s (.worker i input) { s.setWorker i pc' with client := c' }
  | workReader {input : ReaderInput WorkResponse} {pc' : WorkReaderPc} {c' : Client}
      {writer : WorkWriterPc}
      (hStep : workReaderStep env s.client s.workReader input = some (pc', c'))
      (hSpawn : writer = s.workWriter ∨
        ∃ fence, s.workReader = .opening fence ∧ pc' = .reading fence ∧ writer = .attach fence)
      (hOpening : ∀ fence, s.workReader = .opening fence →
        pc' = .exited ∨ writer = .attach fence)
      (hJoin : ∀ fence, s.workReader = .closing fence → s.workWriterDone = true) :
      SystemMove env s (.workReader input)
        { s with workReader := pc', client := c', workWriter := writer }
  | controlReader {input : ReaderInput ControlResponse} {pc' : ControlReaderPc} {c' : Client}
      {writer : ControlWriterPc}
      (hStep : controlReaderStep env s.client s.controlReader input = some (pc', c'))
      (hSpawn : writer = s.controlWriter ∨
        ∃ fence, s.controlReader = .opening fence ∧ pc' = .reading fence ∧ writer = .loop fence)
      (hOpening : ∀ fence, s.controlReader = .opening fence →
        pc' = .exited ∨ writer = .loop fence)
      (hJoin : ∀ fence, s.controlReader = .closing fence → s.controlWriterDone = true) :
      SystemMove env s (.controlReader input)
        { s with controlReader := pc', client := c', controlWriter := writer }
  | workWriter {input : WriterInput} {pc' : WorkWriterPc} {c' : Client}
      (hStep : workWriterStep env s.client s.workWriter input = some (pc', c')) :
      SystemMove env s (.workWriter input) { s with workWriter := pc', client := c' }
  | controlWriter {input : WriterInput} {pc' : ControlWriterPc} {c' : Client}
      (hStep : controlWriterStep env s.client s.controlWriter input = some (pc', c')) :
      SystemMove env s (.controlWriter input) { s with controlWriter := pc', client := c' }
  | supervisor {input : SupervisorInput} {pc' : SupervisorPc} {c' : Client}
      (hStep : supervisorStep env s.client s.controlReaderDone s.workReaderDone s.supervisor
        input = some (pc', c')) :
      SystemMove env s (.supervisor input) { s.spawn pc' with supervisor := pc', client := c' }
  | publishSource {streamId : Text} {items : List Text} :
      SystemMove env s (.publishSource streamId items)
        { s with client := (publishSource env s.client streamId items).2 }
  | closeSource {streamId : Text} {error : Option AdapterError} :
      SystemMove env s (.closeSource streamId error)
        { s with client := (closeSource env s.client streamId error).2 }
  | flags {a : Action} {c' : Client} {starter : StartPc} {stopper : StopPc}
      (hCore : c'.core = s.client.core) (hRest : s.client.Subsides c')
      (hStopper : stopper.joined = true → s.stopper.joined = true)
      (hAlone : stopper.alone = true → s.stopper.joined = true ∧
        (s.stopper.alone = true ∨ s.stopper = .joinWorkers))
      (hStarter : starter = s.starter ∨
        (starter = .validated ∧ s.starter = .idle ∧
          s.client.flags.registrationAttempted = false ∧ env.validateConfig = .ok ()) ∨
        (starter = .idle ∧ (s.starter = .validated ∨ s.client.flags.state = .ready ∨
          c'.flags.stopRequested = true ∨ s.supervisor = .notStarted)))
      (hStopping : stopper = .idle ∨ s.stopper ≠ .idle ∨ c'.flags.stopRequested = true)
      (hHelm : c'.helm = s.client.helm)
      (hStop : stopper = s.stopper ∨ (s.stopper = .idle ∧ stopper = .joinSupervisor) ∨
        (s.stopper = .lock ∧ stopper = .deactivating .locked))
      (hTerminal : c'.flags.terminalSessionFailure = s.client.flags.terminalSessionFailure)
      (hClient : c' = s.client ∨ c' = s.client.requestStop ∨
        c' = { s.client with transitionLocked := true }) :
      SystemMove env s a { s with client := c', starter := starter, stopper := stopper }
  | startThreads (hStopped : s.fullyStopped = true) (hStopper : s.stopper = .idle)
      (hStarter : s.starter = .validated) :
      SystemMove env s .startThreads
        { s with
          client := s.client.beginStart
          workers := fun i => if i < env.config.dispatchWorkers then .idle else .notStarted
          dispatchThreads := env.config.dispatchWorkers
          supervisor := .register
          starter := .waiting }
  | joinSupervisor (hDone : s.supervisor = .notStarted ∨ s.supervisor = .finished)
      (hStopper : s.stopper = .joinSupervisor) :
      SystemMove env s .stopper { s with supervisor := .notStarted, stopper := .joinWorkers }
  | joinWorkers (hStopper : s.stopper = .joinWorkers)
      (hDone : ∀ i < s.dispatchThreads, s.workers i = .exited) :
      SystemMove env s .stopper
        { s with workers := fun _ => .notStarted, dispatchThreads := 0, stopper := .lock }
  | stopDeactivate {at_ : DeactivatePc} {next : Option DeactivatePc} {c' c'' : Client}
      {stopper : StopPc} (hStopper : s.stopper = .deactivating at_)
      (hStep : deactivateStep env (text "client stopped") s.client at_ = some (next, c'))
      (hNext : (∃ pc, next = some pc ∧ stopper = .deactivating pc ∧ c'' = c') ∨
        (next = none ∧ stopper = .reset ∧ c'' = { c' with transitionLocked := false })) :
      SystemMove env s .stopper { s with client := c'', stopper := stopper }
  | stopReset (hStopper : s.stopper = .reset) :
      SystemMove env s .stopper { s with client := s.client.endStop env, stopper := .idle }

variable {env : Env} {s s' : System}

/-- A fully stopped client has no supervisor. -/
theorem System.notStarted_of_fullyStopped (h : s.fullyStopped = true) :
    s.supervisor = .notStarted := by
  simp only [fullyStopped, Bool.and_eq_true] at h
  cases hS : s.supervisor <;> simp_all

theorem flags_beginStop (a : Action) {starter : StartPc} (hIdle : s.stopper = .idle)
    (hStarter : starter = s.starter ∨ starter = .idle) :
    SystemMove env s a ({ s with starter := starter }.beginStop) := by
  unfold System.beginStop
  split
  · rename_i hStopped
    have hPc : s.supervisor = .notStarted := System.notStarted_of_fullyStopped hStopped
    exact .flags rfl (.refl _) id (by simp [hIdle, StopPc.alone])
      (hStarter.imp_right fun h => .inr ⟨h, .inr (.inr (.inr hPc))⟩) (.inl hIdle) rfl
      (.inl rfl) rfl (.inl rfl)
  · exact .flags (by simp) .requestStop (by simp [StopPc.joined]) (by simp [StopPc.alone])
      (hStarter.imp_right fun h => .inr ⟨h, .inr (.inr (.inl rfl))⟩) (.inr (.inr rfl)) (by simp)
      (.inr (.inl ⟨hIdle, rfl⟩)) rfl (.inr (.inl rfl))

/-- An action of the Work reader is a step of it. -/
theorem workReaderAction_cases {input : ReaderInput WorkResponse}
    (h : s.workReaderAction env input = some s') : SystemMove env s (.workReader input) s' := by
  unfold System.workReaderAction at h
  split at h
  · rename_i hPc
    split at h
    · rename_i hDone
      simp only [Option.map_eq_some_iff] at h
      obtain ⟨⟨pc', c'⟩, hStep, rfl⟩ := h
      exact .workReader hStep (.inl rfl) (by simp [hPc]) (fun _ _ => hDone)
    · cases h
  · rename_i fence hPc
    simp only [Option.map_eq_some_iff] at h
    obtain ⟨⟨pc', c'⟩, hStep, rfl⟩ := h
    refine .workReader hStep (.inr ⟨fence, hPc, ?_, rfl⟩) ?_ (by simp [hPc])
    · rw [hPc] at hStep
      cases workReaderStep_branch hStep
      rfl
    · intro fence' hPc'
      rw [hPc, WorkReaderPc.opening.injEq] at hPc'
      exact .inr (by rw [hPc'])
  · rename_i input _ _ hNotClosing hNotOpening
    simp only [Option.map_eq_some_iff] at h
    obtain ⟨⟨pc', c'⟩, hStep, rfl⟩ := h
    refine .workReader hStep (.inl rfl) ?_ (fun fence hPc => absurd hPc (hNotClosing fence))
    intro fence hPc
    rw [hPc] at hStep
    cases workReaderStep_branch hStep with
    | opened => exact absurd rfl (hNotOpening fence hPc)
    | unopened => exact .inl rfl

/-- An action of the Control reader is a step of it. -/
theorem controlReaderAction_cases {input : ReaderInput ControlResponse}
    (h : s.controlReaderAction env input = some s') :
    SystemMove env s (.controlReader input) s' := by
  unfold System.controlReaderAction at h
  split at h
  · rename_i hPc
    split at h
    · rename_i hDone
      simp only [Option.map_eq_some_iff] at h
      obtain ⟨⟨pc', c'⟩, hStep, rfl⟩ := h
      exact .controlReader hStep (.inl rfl) (by simp [hPc]) (fun _ _ => hDone)
    · cases h
  · rename_i fence hPc
    simp only [Option.map_eq_some_iff] at h
    obtain ⟨⟨pc', c'⟩, hStep, rfl⟩ := h
    refine .controlReader hStep (.inr ⟨fence, hPc, ?_, rfl⟩) ?_ (by simp [hPc])
    · rw [hPc] at hStep
      cases controlReaderStep_branch hStep
      rfl
    · intro fence' hPc'
      rw [hPc, ControlReaderPc.opening.injEq] at hPc'
      exact .inr (by rw [hPc'])
  · rename_i input _ _ hNotClosing hNotOpening
    simp only [Option.map_eq_some_iff] at h
    obtain ⟨⟨pc', c'⟩, hStep, rfl⟩ := h
    refine .controlReader hStep (.inl rfl) ?_ (fun fence hPc => absurd hPc (hNotClosing fence))
    intro fence hPc
    rw [hPc] at hStep
    cases controlReaderStep_branch hStep with
    | opened => exact absurd rfl (hNotOpening fence hPc)
    | unopened => exact .inl rfl

/-- The step of the Control reader behind an action of it. -/
theorem System.controlReaderAction_step {input : ReaderInput ControlResponse}
    (h : s.controlReaderAction env input = some s') :
    controlReaderStep env s.client s.controlReader input =
      some (s'.controlReader, s'.client) := by
  unfold System.controlReaderAction at h
  split at h
  · split at h
    · obtain ⟨⟨pc', c'⟩, hStep, rfl⟩ := Option.map_eq_some_iff.mp h
      exact hStep
    · cases h
  · obtain ⟨⟨pc', c'⟩, hStep, rfl⟩ := Option.map_eq_some_iff.mp h
    exact hStep
  · obtain ⟨⟨pc', c'⟩, hStep, rfl⟩ := Option.map_eq_some_iff.mp h
    exact hStep

/-- A step of `Stop`, by the point where it stands. -/
theorem stopperStep_cases (h : s.stopperStep env = some s') : SystemMove env s .stopper s' := by
  unfold System.stopperStep at h
  split at h
  · cases h
  · rename_i hStopper
    split at h
    · rename_i hSupervisor
      cases h
      exact .joinSupervisor (.inl hSupervisor) hStopper
    · rename_i hSupervisor
      cases h
      exact .joinSupervisor (.inr hSupervisor) hStopper
    · cases h
  · rename_i hStopper
    split at h
    · rename_i hDone
      cases h
      refine .joinWorkers hStopper fun i hi => ?_
      have hWorker := List.all_eq_true.mp hDone i (List.mem_range.mpr hi)
      split at hWorker
      · assumption
      · simp at hWorker
    · cases h
  · rename_i hStopper
    split at h
    · cases h
    · cases h
      refine .flags rfl ?_ (by simp [hStopper, StopPc.joined]) (by simp [hStopper, StopPc.joined,
        StopPc.alone]) (.inl rfl) (.inr (.inl (by simp [hStopper]))) rfl
        (.inr (.inr ⟨hStopper, rfl⟩)) rfl (.inr (.inr rfl))
      constructor <;> simp
  · rename_i at_ hStopper
    split at h
    · cases h
    · rename_i next c' hStep
      cases h
      exact .stopDeactivate hStopper hStep (.inl ⟨next, rfl, rfl, rfl⟩)
    · rename_i c' hStep
      cases h
      exact .stopDeactivate hStopper hStep (.inr ⟨rfl, rfl, rfl⟩)
  · rename_i hStopper
    cases h
    exact .stopReset hStopper

/-- Every step of the system is a step of one of its threads. -/
theorem System.step_cases {a : Action} (h : s.step env a = some s') : SystemMove env s a s' := by
  cases a with
  | start =>
    simp only [System.step, System.startStep] at h
    split at h
    · rename_i hStarter
      split at h
      · cases h
      · rename_i hAttempted
        -- the section of `Start`
        split at h
        · cases h
        · rename_i hConfig
          cases h
          have hSame : s.stopper = .idle ∨ s.stopper ≠ .idle := Classical.em _
          exact .flags rfl (.refl _) id (fun hA => ⟨by
            cases hS : s.stopper <;> simp_all [StopPc.alone, StopPc.joined], .inl hA⟩)
            (.inr (.inl ⟨rfl, hStarter, by simpa using hAttempted, hConfig⟩))
            (hSame.imp_right .inl) rfl (.inl rfl) rfl (.inl rfl)
    · cases h
  | startThreads =>
    simp only [System.step, System.startThreadsStep] at h
    split at h
    · rename_i hStarter hStopper
      -- `Stop` was called in between, or the threads are created
      split at h
      · cases h
        exact .flags rfl (.refl _) id (by simp [hStopper, StopPc.alone])
          (.inr (.inr ⟨rfl, .inl hStarter⟩)) (.inl hStopper) rfl (.inl rfl) rfl (.inl rfl)
      · rename_i hStopped
        cases h
        exact .startThreads (by simpa using hStopped) hStopper hStarter
    · cases h
  | startReturns timeout =>
    simp only [System.step, System.startReturnsStep] at h
    split at h
    · rename_i hStarter hStopper
      split at h
      · -- ready in time, or the caller goes on to `Stop`
        rename_i hReady
        cases h
        have hState : s.client.flags.state = .ready := by
          simp only [System.startReady, Bool.and_eq_true, beq_iff_eq] at hReady
          exact hReady.1.1
        exact .flags rfl (.refl _) id (by simp [hStopper, StopPc.alone])
          (.inr (.inr ⟨rfl, .inr (.inl hState)⟩)) (.inl hStopper) rfl (.inl rfl) rfl (.inl rfl)
      · split at h
        · cases h
          exact flags_beginStop _ hStopper (.inr rfl)
        · cases h
    · cases h
  | stop =>
    simp only [System.step] at h
    split at h
    · -- the caller enters `Stop`
      rename_i hStopper
      cases h
      exact flags_beginStop _ hStopper (.inl rfl)
    · cases h
  | stopper => exact stopperStep_cases h
  | publishSource streamId items =>
    cases h
    exact .publishSource
  | closeSource streamId error =>
    cases h
    exact .closeSource
  | worker i input =>
    simp only [System.step, System.workerAction, Option.map_eq_some_iff] at h
    -- the threads: each by its own step function
    obtain ⟨⟨pc', c'⟩, hStep, rfl⟩ := h
    exact .worker hStep
  | workReader input => exact workReaderAction_cases h
  | workWriter input =>
    simp only [System.step, Option.map_eq_some_iff] at h
    obtain ⟨⟨pc', c'⟩, hStep, rfl⟩ := h
    exact .workWriter hStep
  | controlReader input => exact controlReaderAction_cases h
  | controlWriter input =>
    simp only [System.step, Option.map_eq_some_iff] at h
    obtain ⟨⟨pc', c'⟩, hStep, rfl⟩ := h
    exact .controlWriter hStep
  | supervisor input =>
    simp only [System.step, System.supervisorAction, Option.map_eq_some_iff] at h
    obtain ⟨⟨pc', c'⟩, hStep, rfl⟩ := h
    exact .supervisor hStep

/-- A step of the Work reader is one of its thread. -/
theorem workReaderStep_of_step {input : ReaderInput WorkResponse}
    (h : s.step env (.workReader input) = some s') :
    workReaderStep env s.client s.workReader input = some (s'.workReader, s'.client) := by
  have h : s.workReaderAction env input = some s' := h
  unfold System.workReaderAction at h
  split at h
  · split at h
    · simp only [Option.map_eq_some_iff] at h
      obtain ⟨⟨pc', c'⟩, hStep, rfl⟩ := h
      exact hStep
    · cases h
  · simp only [Option.map_eq_some_iff] at h
    obtain ⟨⟨pc', c'⟩, hStep, rfl⟩ := h
    exact hStep
  · simp only [Option.map_eq_some_iff] at h
    obtain ⟨⟨pc', c'⟩, hStep, rfl⟩ := h
    exact hStep

/-- A step of the Control reader is one of its thread. -/
theorem controlReaderStep_of_step {input : ReaderInput ControlResponse}
    (h : s.step env (.controlReader input) = some s') :
    controlReaderStep env s.client s.controlReader input =
      some (s'.controlReader, s'.client) := by
  have h : s.controlReaderAction env input = some s' := h
  unfold System.controlReaderAction at h
  split at h
  · split at h
    · simp only [Option.map_eq_some_iff] at h
      obtain ⟨⟨pc', c'⟩, hStep, rfl⟩ := h
      exact hStep
    · cases h
  · simp only [Option.map_eq_some_iff] at h
    obtain ⟨⟨pc', c'⟩, hStep, rfl⟩ := h
    exact hStep
  · simp only [Option.map_eq_some_iff] at h
    obtain ⟨⟨pc', c'⟩, hStep, rfl⟩ := h
    exact hStep

end AdapterRuntime.Model
