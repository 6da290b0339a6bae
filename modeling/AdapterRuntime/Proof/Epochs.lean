import AdapterRuntime.Proof.Standing
import AdapterRuntime.Model.Deployment

/-!
# AdapterRuntime — connection epochs

`docs/design.md` has a pair that the Host acknowledged advance the epoch by one,
and a pair that never received a valid Host frame retry its epoch. The
supervisor of the source advances the counter after every pair. `attempts` reads
the pairs off a run: the epoch each was opened with, and whether a Host frame
passed `ValidateControlHeader` on it.

* `numbered_of_run` — the `n`-th pair of a run has epoch `n`.
* `epoch_advance` — so the discipline of the epochs holds in a run exactly when
  every pair but the newest was acknowledged.
-/

namespace AdapterRuntime.Model

open AdapterRuntime.Lib

variable {env : Env} {c c' : Client} {s s' : System}

-- ---------------------------------------------------------------------------
-- Attempts
-- ---------------------------------------------------------------------------

/-- A connection pair that was opened. -/
structure Attempt where
  epoch : Nat
  acknowledged : Bool
  deriving DecidableEq

/-- The supervisor is about to prepare a pair. -/
def SupervisorPc.opensPair : SupervisorPc → Bool
  | .prepare _ => true
  | _ => false

/-- The step opens a pair: `PrepareConnectionPair` runs. -/
def System.opensPair (s : System) : Action → Bool
  | .supervisor .tick => s.supervisor.opensPair
  | _ => false

/-- The Control reader is about to accept the header of a Host frame. -/
def System.acknowledged (env : Env) (s : System) : Action → Bool
  | .controlReader (.tick _) =>
    match s.controlReader with
    | .validating fence response =>
      match s.client.validateControlHeader env response.header fence with
      | .ok _ => true
      | .error _ => false
    | _ => false
  | _ => false

/-- The newest pair has been acknowledged. -/
def acknowledgeNewest : List Attempt → List Attempt
  | [] => []
  | newest :: older => { newest with acknowledged := true } :: older

/-- The pairs of a run, newest first. -/
def attempts (env : Env) : List (System × Action) → List Attempt
  | [] => []
  | (s, a) :: steps =>
    if s.opensPair a then ⟨s.client.session.connectionEpochCounter, false⟩ :: attempts env steps
    else if s.acknowledged env a then acknowledgeNewest (attempts env steps)
    else attempts env steps

/-- The last epoch the Host acknowledged. -/
def lastAcknowledged : List Attempt → Nat
  | [] => 0
  | newest :: older => if newest.acknowledged then newest.epoch else lastAcknowledged older

/-- The epoch of each pair follows from the pair before it, and is one more than
the last epoch the Host acknowledged. -/
def EpochDiscipline : List Attempt → Prop
  | [] => True
  | newest :: older =>
    newest.epoch = lastAcknowledged older + 1 ∧
    (∀ previous ∈ older.head?,
      newest.epoch = if previous.acknowledged then previous.epoch + 1 else previous.epoch) ∧
    EpochDiscipline older

/-- The pairs are numbered from one. -/
def Numbered : List Attempt → Prop
  | [] => True
  | newest :: older => newest.epoch = older.length + 1 ∧ Numbered older

theorem length_acknowledgeNewest (pairs : List Attempt) :
    (acknowledgeNewest pairs).length = pairs.length := by
  cases pairs <;> rfl

/-- An acknowledgement keeps the epochs. -/
theorem Numbered.acknowledgeNewest {pairs : List Attempt} (h : Numbered pairs) :
    Numbered (acknowledgeNewest pairs) := by
  cases pairs with
  | nil => trivial
  | cons newest older => exact h

/-- The last acknowledged epoch of numbered pairs that were all acknowledged. -/
theorem Numbered.lastAcknowledged {pairs : List Attempt} (h : Numbered pairs)
    (hAll : ∀ pair ∈ pairs, pair.acknowledged = true) : lastAcknowledged pairs = pairs.length := by
  cases pairs with
  | nil => rfl
  | cons newest older =>
    have hNewest := hAll newest List.mem_cons_self
    rw [Model.lastAcknowledged, if_pos hNewest, h.1, List.length_cons]

/-- Numbered pairs keep the discipline exactly when all but the newest were
acknowledged. -/
theorem Numbered.discipline_iff {pairs : List Attempt} (h : Numbered pairs) :
    EpochDiscipline pairs ↔ ∀ pair ∈ pairs.tail, pair.acknowledged = true := by
  induction pairs with
  | nil => simp [EpochDiscipline]
  | cons newest older ih =>
    obtain ⟨hNewest, hOlder⟩ := h
    constructor
    · rintro ⟨-, hNext, hRest⟩ pair hPair
      cases older with
      | nil => cases hPair
      | cons previous rest =>
        obtain rfl | hPair := List.mem_cons.mp hPair
        · -- its successor has the next number
          have hStep := hNext pair rfl
          by_contra hNot
          rw [if_neg hNot, hNewest, hOlder.1, List.length_cons] at hStep
          omega
        · exact (ih hOlder).mp hRest pair hPair
    · intro hAll
      have hAll : ∀ pair ∈ older, pair.acknowledged = true := hAll
      refine ⟨?_, ?_, (ih hOlder).mpr ?_⟩
      · rw [hNewest, hOlder.lastAcknowledged hAll]
      · intro previous hPrevious
        cases older with
        | nil => cases hPrevious
        | cons head rest =>
          cases hPrevious
          rw [if_pos (hAll _ List.mem_cons_self), hNewest, hOlder.1, List.length_cons]
      · intro pair hPair
        exact hAll pair (List.mem_of_mem_tail hPair)

-- ---------------------------------------------------------------------------
-- The counter
-- ---------------------------------------------------------------------------

/-- What the supervisor knows of the counter when `n` pairs have been opened. -/
def SupervisorPc.Counts (c : Client) (n : Nat) : SupervisorPc → Prop
  | .registerCall => n = 0
  | .install fence => n = 0 ∧ fence.connectionEpoch = 1
  | .loop _ | .prepare _ | .backOff _ => c.session.connectionEpochCounter = n + 1
  | .awaitAttach _ _ | .awaitFailure _ _ | .joinControl _ | .joinWork _ | .replaceBegin _
  | .replaceWait _ _ | .replaceRelease _ _ | .replaceError _ _ | .replaceNotify _ _ _ | .clear _
  | .checkStop _ _ | .checkTerminal _ _ | .advance _ => c.session.connectionEpochCounter = n
  | .checkEpoch _ =>
    -- a counter at its end is not advanced, and the session is given up
    c.session.connectionEpochCounter = n + 1 ∨ c.flags.terminalSessionFailure = true
  | .notStarted | .register | .registerFailed _ | .lostTerminal | .lostBudget
  | .deactivating _ _ _ | .enterLost _ | .reportLost | .endSession | .finished => True

/-- The fence of a fresh session has epoch 1. -/
theorem checkRegisterResponse_epoch {response : RegisterResponse} {fence : SessionFence}
    (h : checkRegisterResponse env response = .ok fence) : fence.connectionEpoch = 1 := by
  unfold checkRegisterResponse at h
  simp only at h
  repeat' split at h
  all_goals cases h
  all_goals rfl

/-- A step of the supervisor counts the pair it opens. -/
theorem counts_supervisorStep {controlDone workDone : Bool} {pc pc' : SupervisorPc}
    {input : SupervisorInput} {n : Nat}
    (h : supervisorStep env c controlDone workDone pc input = some (pc', c'))
    (hFresh : c.flags.registrationAttempted = false → n = 0) (hCounts : pc.Counts c n) :
    pc'.Counts c' (if pc.opensPair then n + 1 else n) := by
  cases supervisorStep_branch h with
  -- nothing is known of the counter outside a session
  | refuse | unanswered | giveUp | lock | terminal | spent | deactivate | alreadyLost | reportLost
  | endSession => trivial
  | @deactivated _ _ after => cases after <;> trivial
  | @enterLost _ notify => cases notify <;> trivial
  | register hNot => exact hFresh hNot
  | registered hOk => exact ⟨hCounts, checkRegisterResponse_epoch hOk⟩
  | install =>
    obtain ⟨rfl, hEpoch⟩ := hCounts
    exact hEpoch
  -- only `prepare` opens a pair, and it keeps the counter
  | goOn | prepare | unattached | attach | ended | joinControl | joinWork | replaceBegin
  | replaceWait | release | error | notified | clear | unstopped | retry | backOff => exact hCounts
  | notify =>
    show (Client.notifySourceClosed env c _ _).session.connectionEpochCounter = n
    rw [(Client.Subsides.notifySourceClosed _ _).epoch]
    exact hCounts
  | advance =>
    unfold Client.advanceEpoch
    split
    · exact .inr rfl
    · refine .inl ?_
      show c.session.connectionEpochCounter + 1 = n + 1
      rw [show c.session.connectionEpochCounter = n from hCounts]
  | epochLeft hAlive =>
    refine hCounts.resolve_right ?_
    rw [hAlive]
    exact Bool.false_ne_true

/-- What leaves the counter alone keeps the count. -/
theorem SupervisorPc.Counts.kept {pc : SupervisorPc} {n : Nat} (h : pc.Counts c n)
    (hEpoch : c'.session.connectionEpochCounter = c.session.connectionEpochCounter)
    (hTerminal : pc.phase = .outside → c.flags.terminalSessionFailure = true →
      c'.flags.terminalSessionFailure = true) : pc.Counts c' n := by
  cases pc with
  | checkEpoch r =>
    refine h.imp (fun hCounter => ?_) (hTerminal rfl)
    rw [hEpoch]
    exact hCounter
  | registerCall | install => exact h
  | loop | prepare | backOff | awaitAttach | awaitFailure | joinControl | joinWork | replaceBegin
  | replaceWait | replaceRelease | replaceError | replaceNotify | clear | checkStop
  | checkTerminal | advance => exact hEpoch.trans h
  | notStarted | register | registerFailed | lostTerminal | lostBudget | deactivating | enterLost
  | reportLost | endSession | finished => trivial

/-- Only the supervisor attempts a registration. -/
theorem attempted_other {a : Action} (hStep : s.step env a = some s')
    (hOther : ∀ input, a ≠ .supervisor input) :
    s'.client.flags.registrationAttempted = s.client.flags.registrationAttempted := by
  cases System.step_cases hStep with
  | @supervisor input => exact absurd rfl (hOther input)
  | worker hWorker => exact (workerStep_cases hWorker).subsides.attempted
  | workReader hReader => exact (workReaderStep_cases hReader).subsides.attempted
  | controlReader hReader => exact (steady_controlReaderStep hReader).attempted
  | controlWriter hWriter => exact (steady_controlWriterStep hWriter).attempted
  | workWriter hWriter => exact (steady_workWriterStep hWriter).attempted
  | publishSource => exact subsides_publishSource.attempted
  | closeSource => exact subsides_closeSource.attempted
  | flags hCore hSubsides => exact hSubsides.attempted
  | startThreads | joinSupervisor | joinWorkers | stopReset => rfl
  | stopDeactivate _ hDeactivate hNext =>
    obtain ⟨_, -, -, rfl⟩ | ⟨-, -, rfl⟩ := hNext <;>
      exact (steady_deactivateStep hDeactivate).attempted

/-- The other threads leave the counter alone. -/
theorem counts_of_step {a : Action} {n : Nat} (hShape : Shape s) (hStep : s.step env a = some s')
    (hOther : ∀ input, a ≠ .supervisor input) (h : s.supervisor.Counts s.client n) :
    s'.supervisor.Counts s'.client n := by
  -- the threads of a pair: the supervisor is not looking at the terminal flag
  have hPair : ∀ {c' : Client}, s.supervisor.phase ≠ .outside → s.client.Steady c' →
      s.supervisor.Counts c' n :=
    fun hPhase hSteady => h.kept hSteady.epoch fun hOutside => absurd hOutside hPhase
  have hRest : ∀ {c' : Client}, s.client.Subsides c' → s.supervisor.Counts c' n :=
    fun hRest => h.kept hRest.epoch fun _ => hRest.terminal
  have hAlone : ∀ {c' : Client}, s.stopper.joined = true → s.supervisor.Counts c' n := by
    intro c' hJoined
    rw [hShape.threads.stopper hJoined]
    trivial
  cases System.step_cases hStep with
  | @supervisor input => exact absurd rfl (hOther input)
  | worker hWorker =>
    have hMoves := (workerStep_cases hWorker).subsides
    exact h.kept hMoves.epoch fun _ => hMoves.terminal
  | workReader hReader => exact hRest (workReaderStep_cases hReader).subsides
  | controlReader hReader =>
    obtain ⟨fence, hFence, -⟩ := controlReaderStep_fence hReader
    exact hPair (phase_of_control (hShape.threads.phase_of_controlReader hFence))
      (steady_controlReaderStep hReader)
  | controlWriter hWriter =>
    obtain ⟨fence, hFence, -⟩ := controlWriterStep_fence hWriter
    exact hPair (phase_of_control (hShape.threads.phase_of_controlWriter hFence))
      (steady_controlWriterStep hWriter)
  | workWriter hWriter =>
    obtain ⟨fence, hFence, -⟩ := workWriterStep_fence hWriter
    exact hPair (phase_of_work (hShape.threads.phase_of_workWriter hFence))
      (steady_workWriterStep hWriter)
  | publishSource => exact hRest subsides_publishSource
  | closeSource => exact hRest subsides_closeSource
  | flags hCore hSubsides => exact hRest hSubsides
  | startThreads | joinSupervisor => trivial
  | joinWorkers => exact h
  | stopDeactivate hStopper _ hNext =>
    have hJoined : s.stopper.joined = true := by
      rw [hStopper]
      rfl
    obtain ⟨_, -, rfl, rfl⟩ | ⟨-, rfl, rfl⟩ := hNext <;> exact hAlone hJoined
  | stopReset hStopper => exact hAlone (by rw [hStopper]; rfl)

-- ---------------------------------------------------------------------------
-- The run
-- ---------------------------------------------------------------------------

/-- What is known of the pairs of a run in the state it leads to. -/
structure Epochs (env : Env) (steps : List (System × Action)) (s : System) : Prop where
  numbered : Numbered (attempts env steps)
  counts : s.supervisor.Counts s.client (attempts env steps).length
  fresh : s.client.flags.registrationAttempted = false → (attempts env steps).length = 0

/-- Only the supervisor opens pairs. -/
theorem opensPair_other {a : Action} (hOther : ∀ input, a ≠ .supervisor input) :
    s.opensPair a = false := by
  cases a with
  | supervisor input => exact absurd rfl (hOther input)
  | start | startThreads | startReturns | stop | stopper | publishSource | closeSource
  | worker | workReader | workWriter | controlReader | controlWriter => rfl

/-- Which step opens a pair is read off the supervisor. -/
theorem opensPair_supervisor {input : SupervisorInput} {pc' : SupervisorPc}
    {controlDone workDone : Bool}
    (h : supervisorStep env s.client controlDone workDone s.supervisor input = some (pc', c')) :
    s.opensPair (.supervisor input) = s.supervisor.opensPair := by
  cases input with
  | tick => rfl
  | registered response error =>
    -- only a pending registration takes such an input
    cases hPc : s.supervisor <;> first | rfl | (rw [hPc] at h; cases h)

/-- A step adds the pair it opens. -/
theorem length_attempts_cons (steps : List (System × Action)) (a : Action) :
    (attempts env ((s, a) :: steps)).length =
      if s.opensPair a then (attempts env steps).length + 1 else (attempts env steps).length := by
  rw [attempts]
  split
  · rfl
  · split
    · exact length_acknowledgeNewest _
    · rfl

/-- A step keeps the epochs. -/
theorem Epochs.step {steps : List (System × Action)} {a : Action} (h : Epochs env steps s)
    (hReach : (machine env).Reachable s) (hStep : (machine env).step s a = some s') :
    Epochs env ((s, a) :: steps) s' := by
  have hShape := shape_of_reachable hReach
  by_cases hOther : ∀ input, a ≠ .supervisor input
  · -- another thread opens no pair, but may acknowledge the newest attempt
    have hOpens := opensPair_other (s := s) hOther
    have hLength : (attempts env ((s, a) :: steps)).length = (attempts env steps).length := by
      rw [length_attempts_cons, if_neg (by simp [hOpens])]
    have hCounts := counts_of_step hShape hStep hOther h.counts
    have hAttempted := attempted_other hStep hOther
    refine ⟨?_, ?_, ?_⟩
    · rw [attempts, if_neg (by simp [hOpens])]
      split
      · exact h.numbered.acknowledgeNewest
      · exact h.numbered
    · rw [hLength]
      exact hCounts
    · rw [hLength, hAttempted]
      exact h.fresh
  · simp only [ne_eq, not_forall, not_not] at hOther
    obtain ⟨input, rfl⟩ := hOther
    simp only [machine, System.step, System.supervisorAction, Option.map_eq_some_iff] at hStep
    obtain ⟨⟨pc', c'⟩, hSupervisor, rfl⟩ := hStep
    -- the supervisor: it opens a pair in `prepare` only
    have hCounts := counts_supervisorStep hSupervisor h.fresh h.counts
    have hOpens := opensPair_supervisor hSupervisor
    have hAttempts : attempts env ((s, .supervisor input) :: steps) =
        if s.supervisor.opensPair then
          ⟨s.client.session.connectionEpochCounter, false⟩ :: attempts env steps
        else attempts env steps := by
      rw [attempts, hOpens]
      rfl
    have hLength : (attempts env ((s, .supervisor input) :: steps)).length =
        if s.supervisor.opensPair then (attempts env steps).length + 1
        else (attempts env steps).length := by
      rw [length_attempts_cons, hOpens]
    refine ⟨?_, ?_, ?_⟩
    · rw [hAttempts]
      split
      · -- the attempt has the number of the counter
        rename_i hPrepare
        refine ⟨?_, h.numbered⟩
        have hCounter := h.counts
        cases hPc : s.supervisor <;> rw [hPc] at hPrepare <;> try cases hPrepare
        rw [hPc] at hCounter
        exact hCounter
      · exact h.numbered
    · rw [hLength]
      exact hCounts
    · intro hNot
      -- before the registration there has been no attempt
      have hWas : s.client.flags.registrationAttempted = false := by
        obtain hSame | ⟨-, -, hTrue⟩ := (supervises_of_step hSupervisor).attempted
        · rw [← hSame]
          exact hNot
        · rw [hTrue] at hNot
          cases hNot
      rw [hLength, if_neg ?_]
      · exact h.fresh hWas
      · intro hPrepare
        have hBegun : s.supervisor.begun = true := by
          cases hPc : s.supervisor <;> rw [hPc] at hPrepare <;> first | rfl | cases hPrepare
        rw [(single_of_reachable hReach).begun hBegun] at hWas
        cases hWas

/-- Along every run the epochs are as counted. -/
theorem epochs_of_run {steps : List (System × Action)} (h : (machine env).Run steps s) :
    Epochs env steps s := by
  refine Machine.Run.invariant (M := machine env) (I := Epochs env)
    ⟨trivial, trivial, fun _ => rfl⟩ ?_ h
  intro steps s a s' hRun hEpochs hStep
  exact hEpochs.step hRun.reachable hStep

/-- The pairs of a run are numbered from one. -/
theorem numbered_of_run {steps : List (System × Action)} (h : (machine env).Run steps s) :
    Numbered (attempts env steps) :=
  (epochs_of_run h).numbered

/-- **Epoch advance.** In every run, the epoch of each pair is one more than that
of the pair before it, so it is the one the Host expects exactly when every pair
but the newest received a Host frame with a valid header. -/
theorem epoch_advance {steps : List (System × Action)} (h : (machine env).Run steps s) :
    EpochDiscipline (attempts env steps) ↔
      ∀ pair ∈ (attempts env steps).tail, pair.acknowledged = true :=
  (numbered_of_run h).discipline_iff

section Runs

open Deployment

/-- A pair that applied its spec fails and is replaced by the next epoch. -/
theorem epoch_advance_replaced :
    ∃ steps s, (machine deployment).Run steps s ∧
      attempts deployment steps = [⟨2, true⟩, ⟨1, true⟩] ∧
      EpochDiscipline (attempts deployment steps) := by
  obtain ⟨steps, s, hRun, hPairs⟩ := Machine.exists_run_of_record (machine deployment)
    (bringUp ++ failPair ++ replacePair 2)
    (fun steps _ => attempts deployment steps == [⟨2, true⟩, ⟨1, true⟩]) (by decide +kernel)
  have hPairs := eq_of_beq hPairs
  refine ⟨steps, s, hRun, hPairs, (epoch_advance hRun).mpr ?_⟩
  rw [hPairs]
  decide

/-- A Control stream that cannot be opened uses up its epoch: the Host, which
has acknowledged none, is presented with epoch 2. -/
theorem epoch_skipped :
    ∃ steps s, (machine deployment).Run steps s ∧
      attempts deployment steps = [⟨2, false⟩, ⟨1, false⟩] ∧
      ¬EpochDiscipline (attempts deployment steps) := by
  obtain ⟨steps, s, hRun, hPairs⟩ := Machine.exists_run_of_record (machine deployment)
    (register ++ .controlReader (.opened false) :: List.replicate 16 (.supervisor .tick))
    (fun steps _ => attempts deployment steps == [⟨2, false⟩, ⟨1, false⟩]) (by decide +kernel)
  have hPairs := eq_of_beq hPairs
  refine ⟨steps, s, hRun, hPairs, ?_⟩
  rw [hPairs]
  rintro ⟨hEpoch, -⟩
  cases hEpoch

end Runs

end AdapterRuntime.Model
