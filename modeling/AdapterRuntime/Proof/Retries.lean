import AdapterRuntime.Proof.Drain
import AdapterRuntime.Proof.Epochs
import AdapterRuntime.Proof.Limits

/-!
# AdapterRuntime — retries and their delays

The supervisor keeps two locals across pairs: the number of retries it has used
and the delay before the next one. `retries` reads the number of retries in a row
off a run; `backoffDelay` is the sequence of delays `NextBackoff` produces.

* `backoffDelay_eq_iff` — the delays are the doubled ones exactly when no delay
  below the maximum is doubled past 32 bits.
* `backoffs_of_run` — the locals of the supervisor count the retries of the run.
* `reconnect_backoff` — so does the delay of every wait.
-/

namespace AdapterRuntime.Model

open AdapterRuntime.Lib

variable {env : Env} {c c' : Client} {s s' : System}

-- ---------------------------------------------------------------------------
-- The delays
-- ---------------------------------------------------------------------------

/-- The delay before the retry that follows `k` retries in a row. -/
def backoffDelay (env : Env) : Nat → Nat
  | 0 => env.config.reconnectInitialDelayMs
  | k + 1 => nextBackoff env (backoffDelay env k)

/-- The delay as the integers have it. -/
def doubledDelay (env : Env) (k : Nat) : Nat :=
  min env.config.reconnectMaxDelayMs (env.config.reconnectInitialDelayMs * 2 ^ k)

/-- No delay that is doubled for a further retry is below the maximum and at
least half of the 32-bit range. -/
def DoublingFits (env : Env) : Prop :=
  ∀ k, k + 1 < env.config.maximumPairReconnectAttempts →
    env.config.reconnectInitialDelayMs * 2 ^ k < 2 ^ 31 ∨
      env.config.reconnectMaxDelayMs ≤ env.config.reconnectInitialDelayMs * 2 ^ k

/-- A delay that is small, or at the maximum, is doubled correctly. -/
theorem nextBackoff_doubledDelay {k : Nat}
    (hFits : env.config.reconnectInitialDelayMs * 2 ^ k < 2 ^ 31 ∨
      env.config.reconnectMaxDelayMs ≤ env.config.reconnectInitialDelayMs * 2 ^ k) :
    nextBackoff env (doubledDelay env k) = doubledDelay env (k + 1) := by
  unfold nextBackoff doubledDelay
  rw [pow_succ 2 k, ← Nat.mul_assoc]
  generalize env.config.reconnectInitialDelayMs * 2 ^ k = delay at *
  generalize env.config.reconnectMaxDelayMs = maximum at *
  by_cases hBelow : delay < maximum
  · have hSmall : delay < 2 ^ 31 := by omega
    rw [Nat.min_eq_right hBelow.le, if_neg (by omega), Nat.mod_eq_of_lt (by omega)]
  · rw [Nat.min_eq_left (by omega), if_pos le_rfl, Nat.min_eq_left (by omega)]

/-- A delay below the maximum whose double leaves 32 bits falls below itself. -/
theorem nextBackoff_wraps {k : Nat} (hWord : env.config.reconnectMaxDelayMs < 2 ^ 32)
    (hLarge : 2 ^ 31 ≤ env.config.reconnectInitialDelayMs * 2 ^ k)
    (hBelow : env.config.reconnectInitialDelayMs * 2 ^ k < env.config.reconnectMaxDelayMs) :
    nextBackoff env (doubledDelay env k) ≠ doubledDelay env (k + 1) := by
  unfold nextBackoff doubledDelay
  rw [pow_succ 2 k, ← Nat.mul_assoc]
  generalize env.config.reconnectInitialDelayMs * 2 ^ k = delay at *
  generalize env.config.reconnectMaxDelayMs = maximum at *
  rw [Nat.min_eq_right hBelow.le, if_neg (by omega),
    Nat.min_eq_left (by omega : maximum ≤ delay * 2)]
  omega

/-- As long as the doublings fit, the delays are the doubled ones. -/
theorem backoffDelay_of_fits {k : Nat}
    (hInitial : env.config.reconnectInitialDelayMs ≤ env.config.reconnectMaxDelayMs)
    (hFits : ∀ j < k, env.config.reconnectInitialDelayMs * 2 ^ j < 2 ^ 31 ∨
      env.config.reconnectMaxDelayMs ≤ env.config.reconnectInitialDelayMs * 2 ^ j) :
    backoffDelay env k = doubledDelay env k := by
  induction k with
  | zero =>
    show env.config.reconnectInitialDelayMs = _
    rw [doubledDelay, pow_zero, Nat.mul_one, Nat.min_eq_right hInitial]
  | succ k ih =>
    have hPrevious := ih fun j hLess => hFits j (by omega)
    show nextBackoff env (backoffDelay env k) = _
    rw [hPrevious, nextBackoff_doubledDelay (hFits k (by omega))]

/-- A doubling that does not fit is the first one that does not. -/
theorem fits_below {j k : Nat} (hLess : j < k)
    (hWord : env.config.reconnectInitialDelayMs * 2 ^ k < 2 ^ 32) :
    env.config.reconnectInitialDelayMs * 2 ^ j < 2 ^ 31 := by
  have hPower : 2 ^ (j + 1) ≤ 2 ^ k := Nat.pow_le_pow_right (by omega) hLess
  have hDouble : env.config.reconnectInitialDelayMs * 2 ^ j * 2 ≤
      env.config.reconnectInitialDelayMs * 2 ^ k := by
    rw [Nat.mul_assoc, ← pow_succ]
    exact Nat.mul_le_mul_left _ hPower
  omega

/-- The delays of the retries a budget allows are the doubled ones exactly when
every doubling fits. -/
theorem backoffDelay_eq_iff (hWord : env.config.reconnectMaxDelayMs < 2 ^ 32)
    (hInitial : env.config.reconnectInitialDelayMs ≤ env.config.reconnectMaxDelayMs) :
    (∀ k < env.config.maximumPairReconnectAttempts, backoffDelay env k = doubledDelay env k) ↔
      DoublingFits env := by
  constructor
  · intro hDelays k hBudget
    by_contra hNot
    rw [not_or, not_lt, not_le] at hNot
    obtain ⟨hLarge, hBelow⟩ := hNot
    have hNow : backoffDelay env k = doubledDelay env k :=
      backoffDelay_of_fits hInitial fun j hLess => .inl (fits_below hLess (by omega))
    have hNext : nextBackoff env (backoffDelay env k) = doubledDelay env (k + 1) :=
      hDelays (k + 1) hBudget
    rw [hNow] at hNext
    exact nextBackoff_wraps hWord hLarge hBelow hNext
  · intro hFits k hBudget
    exact backoffDelay_of_fits hInitial fun j hLess => hFits j (by omega)

/-- The doubled delays are positive, bounded and never decrease. -/
theorem doubledDelay_bounds (hPositive : 0 < env.config.reconnectInitialDelayMs)
    (hInitial : env.config.reconnectInitialDelayMs ≤ env.config.reconnectMaxDelayMs) (k : Nat) :
    0 < doubledDelay env k ∧ doubledDelay env k ≤ env.config.reconnectMaxDelayMs ∧
      doubledDelay env k ≤ doubledDelay env (k + 1) := by
  have hPower : 0 < 2 ^ k := Nat.two_pow_pos k
  have hDelay : 0 < env.config.reconnectInitialDelayMs * 2 ^ k := Nat.mul_pos hPositive hPower
  refine ⟨Nat.lt_min.mpr ⟨by omega, hDelay⟩, Nat.min_le_left _ _, ?_⟩
  refine Nat.le_min.mpr ⟨Nat.min_le_left _ _, (Nat.min_le_right _ _).trans ?_⟩
  exact Nat.mul_le_mul_left _ (Nat.pow_le_pow_right (by omega) (by omega))

-- ---------------------------------------------------------------------------
-- The retries of a run
-- ---------------------------------------------------------------------------

/-- The pairs that were opened in a row, after the initial pair or after the last
pair that became ready, and did not become ready. -/
def retries (env : Env) : List (System × Action) → Nat
  | [] => 0
  | (s, a) :: steps =>
    if s.client.flags.pairReady then 0
    else if s.opensPair a && decide (0 < (attempts env steps).length) then retries env steps + 1
    else retries env steps

/-- The locals of the supervisor agree with each other and with the budget. -/
structure Supervision.Paced (env : Env) (r : Supervision) : Prop where
  delay : r.reconnectDelay = backoffDelay env r.reconnectsUsed
  budget : r.reconnectsUsed ≤ env.config.maximumPairReconnectAttempts

/-- What the locals of the supervisor say when `opened` pairs have been opened, the
last `n` of them as retries in a row; `ready` tells whether the pair has become ready. -/
def SupervisorPc.Retried (env : Env) (ready : Bool) (opened n : Nat) : SupervisorPc → Prop
  | .registerCall | .install _ => opened = 0
  | .loop r | .prepare r => r.Paced env ∧ r.reconnectsUsed = if 0 < opened then n + 1 else 0
  | .awaitAttach r _ | .awaitFailure r _ | .joinControl r | .joinWork r | .replaceBegin r
  | .replaceWait r _ | .replaceRelease r _ | .replaceError r _ | .replaceNotify r _ _ | .clear r =>
    r.Paced env ∧ 0 < opened ∧ (ready = false → r.reconnectsUsed = n)
  | .checkStop r wasReady | .checkTerminal r wasReady =>
    r.Paced env ∧ 0 < opened ∧ n = if wasReady then 0 else r.reconnectsUsed
  | .advance r | .checkEpoch r | .backOff r =>
    -- the retry has been counted, and the delay is the one before it
    0 < opened ∧ r.reconnectDelay = backoffDelay env n ∧ r.reconnectsUsed = n + 1 ∧
      n < env.config.maximumPairReconnectAttempts
  | .notStarted | .register | .registerFailed _ | .lostTerminal | .lostBudget
  | .deactivating _ _ _ | .enterLost _ | .reportLost | .endSession | .finished => True

/-- The locals after a pair: a pair that was ready starts the count again. -/
theorem Supervision.renewed_paced {r : Supervision} {wasReady : Bool} {n : Nat}
    (hPaced : r.Paced env) (hCount : n = if wasReady then 0 else r.reconnectsUsed) :
    (r.renewed env wasReady).reconnectsUsed = n ∧
      (r.renewed env wasReady).reconnectDelay = backoffDelay env n := by
  subst hCount
  cases wasReady with
  | true => exact ⟨rfl, rfl⟩
  | false => exact ⟨rfl, hPaced.delay⟩

/-- How a step of the supervisor changes the number of pairs and of retries. -/
structure RetryCount (pc : SupervisorPc) (ready : Bool) (opened n opened' n' : Nat) : Prop where
  outside : pc.waits = false → pc.retires = false → pc.opensPair = false →
    opened' = opened ∧ n' = n
  inside : pc.waits = true ∨ pc.retires = true →
    opened' = opened ∧ n' = if ready then 0 else n
  opens : pc.opensPair = true → opened' = opened + 1 ∧ n' = if 0 < opened then n + 1 else 0

/-- A point of a pair that leaves the locals alone. -/
theorem RetryCount.kept {pc : SupervisorPc} {ready : Bool} {opened n opened' n' : Nat}
    (h : RetryCount pc ready opened n opened' n') (hPair : pc.waits = true ∨ pc.retires = true)
    {r : Supervision}
    (hRetried : r.Paced env ∧ 0 < opened ∧ (ready = false → r.reconnectsUsed = n)) :
    r.Paced env ∧ 0 < opened' ∧ (ready = false → r.reconnectsUsed = n') := by
  obtain ⟨rfl, rfl⟩ := h.inside hPair
  refine ⟨hRetried.1, hRetried.2.1, ?_⟩
  rintro rfl
  exact hRetried.2.2 rfl

/-- A step of the supervisor keeps its locals in step with the pairs it opens. -/
theorem retried_supervisorStep {controlDone workDone : Bool} {pc pc' : SupervisorPc}
    {input : SupervisorInput} {opened n opened' n' : Nat}
    (h : supervisorStep env c controlDone workDone pc input = some (pc', c'))
    (hFresh : c.flags.registrationAttempted = false → opened = 0)
    (hCount : RetryCount pc c.flags.pairReady opened n opened' n')
    (hRetried : pc.Retried env c.flags.pairReady opened n) :
    pc'.Retried env c'.flags.pairReady opened' n' := by
  have hOutside := hCount.outside
  cases supervisorStep_branch h with
  -- the session is over, and nothing is known of the locals
  | refuse | unanswered | giveUp | lock | terminal | spent | deactivate | alreadyLost | reportLost
  | endSession => trivial
  | @deactivated _ _ after => cases after <;> trivial
  | @enterLost _ notify => cases notify <;> trivial
  -- no pair has been opened yet
  | register hNot => exact (hOutside rfl rfl rfl).1.trans (hFresh hNot)
  | registered => exact (hOutside rfl rfl rfl).1.trans hRetried
  | install =>
    obtain ⟨rfl, rfl⟩ := hOutside rfl rfl rfl
    have hNone : opened' = 0 := hRetried
    subst hNone
    exact ⟨⟨rfl, Nat.zero_le _⟩, rfl⟩
  -- between two pairs
  | goOn | unstopped | advance | epochLeft =>
    obtain ⟨rfl, rfl⟩ := hOutside rfl rfl rfl
    exact hRetried
  | retry _ hBudget =>
    -- the retry is counted on top of what the pair left
    obtain ⟨rfl, rfl⟩ := hOutside rfl rfl rfl
    obtain ⟨hUsed, hDelay⟩ := Supervision.renewed_paced hRetried.1 hRetried.2.2
    exact ⟨hRetried.2.1, hDelay, congrArg (· + 1) hUsed, hUsed ▸ hBudget⟩
  | backOff =>
    -- the next delay belongs to the retry that has been counted
    obtain ⟨rfl, rfl⟩ := hOutside rfl rfl rfl
    obtain ⟨hOpened, hDelay, hUsed, hBudget⟩ := hRetried
    refine ⟨⟨?_, ?_⟩, ?_⟩
    · show nextBackoff env _ = backoffDelay env _
      rw [hDelay, hUsed]
      rfl
    · exact hUsed.le.trans hBudget
    · rw [if_pos hOpened]
      exact hUsed
  -- the pair is the retry the locals have counted
  | prepare =>
    obtain ⟨rfl, rfl⟩ := hCount.opens rfl
    exact ⟨hRetried.1, Nat.succ_pos _, fun _ => hRetried.2⟩
  | unattached | attach | ended => exact hCount.kept (.inl rfl) hRetried
  | joinControl | joinWork | replaceBegin | replaceWait | release | error | notified =>
    exact hCount.kept (.inr rfl) hRetried
  | notify =>
    rw [flags_notifySourceClosed]
    exact hCount.kept (.inr rfl) hRetried
  | clear =>
    obtain ⟨rfl, rfl⟩ := hCount.inside (.inr rfl)
    refine ⟨hRetried.1, hRetried.2.1, ?_⟩
    split
    · rfl
    · rename_i hNot
      exact (hRetried.2.2 (by simpa using hNot)).symm

-- ---------------------------------------------------------------------------
-- The other threads
-- ---------------------------------------------------------------------------

/-- A pair becomes ready when the Work writer says so. -/
theorem WorkWriterMove.ready_kept {pc pc' : WorkWriterPc} (h : WorkWriterMove env c pc pc' c')
    (hReady : c.flags.pairReady = true) : c'.flags.pairReady = true := by
  cases h with
  | calm hHelm | attach _ _ hHelm => exact (congrArg Helm.pairReady hHelm).trans hReady
  | attached | write => exact hReady
  | ready =>
    unfold Client.markReady
    split
    · rfl
    · exact hReady

/-- The other threads leave a ready pair ready, and start or end the supervisor
only outside a pair. -/
theorem ready_of_step {a : Action} (hShape : Shape s) (hStep : s.step env a = some s')
    (hOther : ∀ input, a ≠ .supervisor input)
    (hPair : s.supervisor.waits = true ∨ s.supervisor.retires = true) :
    s'.supervisor = s.supervisor ∧
      (s.client.flags.pairReady = true → s'.client.flags.pairReady = true) := by
  have hSame : ∀ {c' : Client}, c'.flags.progress = s.client.flags.progress →
      s.client.flags.pairReady = true → c'.flags.pairReady = true := by
    intro c' hProgress hReady
    exact (congrArg Prod.fst hProgress).trans hReady
  have hStarted : s.supervisor ≠ .notStarted ∧ s.supervisor ≠ .finished := by
    constructor <;> intro hPc <;> rw [hPc] at hPair <;> simp [SupervisorPc.waits,
      SupervisorPc.retires] at hPair
  have hJoined : s.stopper.joined = true → False := fun hJoined =>
    hStarted.1 (hShape.threads.stopper hJoined)
  cases System.step_cases hStep with
  | @supervisor input => exact absurd rfl (hOther input)
  | worker hWorker => exact ⟨rfl, hSame (Client.progress_of_helm (helm_workerStep hWorker))⟩
  | workReader hReader =>
    exact ⟨rfl, hSame (Client.progress_of_helm (helm_workReaderStep hReader))⟩
  | controlReader hReader =>
    obtain hProgress | ⟨fence, -, hClient⟩ := (controlReaderStep_cases hReader).progress
    · exact ⟨rfl, hSame hProgress⟩
    · refine ⟨rfl, fun hReady => ?_⟩
      have hHelm := Client.helm_beginDrain s.client env
      rw [← hClient] at hHelm
      exact (congrArg Helm.pairReady hHelm).trans hReady
  | controlWriter hWriter => exact ⟨rfl, hSame (controlWriterStep_cases hWriter).progress⟩
  | workWriter hWriter => exact ⟨rfl, (workWriterStep_cases hWriter).ready_kept⟩
  | publishSource =>
    exact ⟨rfl, hSame (congrArg (fun k : Surround => k.flags.progress) surround_publishSource)⟩
  | closeSource =>
    exact ⟨rfl, hSame (congrArg (fun k : Surround => k.flags.progress) surround_closeSource)⟩
  | flags _ _ _ _ _ _ hHelm => exact ⟨rfl, hSame (Client.progress_of_helm hHelm)⟩
  | startThreads hFully => exact absurd (System.notStarted_of_fullyStopped hFully) hStarted.1
  | joinSupervisor hDone => exact (hDone.elim hStarted.1 hStarted.2).elim
  | joinWorkers hStopper => exact (hJoined (by rw [hStopper]; rfl)).elim
  | stopDeactivate hStopper => exact (hJoined (by rw [hStopper]; rfl)).elim
  | stopReset hStopper => exact (hJoined (by rw [hStopper]; rfl)).elim

/-- In a pair the locals stay right while the pair does not become ready. -/
theorem SupervisorPc.Retried.in_pair {pc : SupervisorPc} {ready ready' : Bool}
    {opened n n' : Nat} (h : pc.Retried env ready opened n)
    (hPair : pc.waits = true ∨ pc.retires = true)
    (hKept : ready' = false → ready = false ∧ n' = n) : pc.Retried env ready' opened n' := by
  have hUsed : ∀ {r : Supervision}, (ready = false → r.reconnectsUsed = n) → ready' = false →
      r.reconnectsUsed = n' := by
    intro r hUsed hNot
    obtain ⟨hWas, rfl⟩ := hKept hNot
    exact hUsed hWas
  cases pc with
  | awaitAttach | awaitFailure | joinControl | joinWork | replaceBegin | replaceWait
  | replaceRelease | replaceError | replaceNotify | clear => exact ⟨h.1, h.2.1, hUsed h.2.2⟩
  | notStarted | register | registerCall | registerFailed | install | loop | prepare | checkStop
  | checkTerminal | lostTerminal | lostBudget | advance | checkEpoch | backOff | deactivating
  | enterLost | reportLost | endSession | finished =>
    simp [SupervisorPc.waits, SupervisorPc.retires] at hPair

/-- Outside a pair its readiness does not matter. -/
theorem SupervisorPc.Retried.outside {pc : SupervisorPc} {ready ready' : Bool} {opened n : Nat}
    (h : pc.Retried env ready opened n) (hWaits : pc.waits = false)
    (hRetires : pc.retires = false) : pc.Retried env ready' opened n := by
  cases pc with
  | awaitAttach | awaitFailure => cases hWaits
  | joinControl | joinWork | replaceBegin | replaceWait | replaceRelease | replaceError
  | replaceNotify | clear => cases hRetires
  | notStarted | register | registerCall | registerFailed | install | loop | prepare | checkStop
  | checkTerminal | lostTerminal | lostBudget | advance | checkEpoch | backOff | deactivating
  | enterLost | reportLost | endSession | finished => exact h

/-- The other threads move the supervisor only to its start or to its end. -/
theorem supervisor_of_step {a : Action} (hStep : s.step env a = some s')
    (hOther : ∀ input, a ≠ .supervisor input) :
    s'.supervisor = s.supervisor ∨ s'.supervisor = .register ∨ s'.supervisor = .notStarted := by
  cases System.step_cases hStep with
  | @supervisor input => exact absurd rfl (hOther input)
  | startThreads => exact .inr (.inl rfl)
  | joinSupervisor => exact .inr (.inr rfl)
  | worker | workReader | controlReader | controlWriter | workWriter | publishSource | closeSource
  | flags | joinWorkers | stopDeactivate | stopReset => exact .inl rfl

-- ---------------------------------------------------------------------------
-- The run
-- ---------------------------------------------------------------------------

/-- A run that has opened no pair has retried none. -/
theorem retries_of_unopened {steps : List (System × Action)}
    (h : (attempts env steps).length = 0) : retries env steps = 0 := by
  induction steps with
  | nil => rfl
  | cons step steps ih =>
    obtain ⟨s, a⟩ := step
    rw [length_attempts_cons] at h
    split at h
    · omega
    · rename_i hOpens
      simp [retries, hOpens, ih h]

/-- What is known of the retries of a run in the state it leads to. -/
structure Backoffs (env : Env) (steps : List (System × Action)) (s : System) : Prop where
  retried : s.supervisor.Retried env s.client.flags.pairReady (attempts env steps).length
    (retries env steps)
  limit : retries env steps ≤ env.config.maximumPairReconnectAttempts

theorem retries_cons (steps : List (System × Action)) (a : Action) :
    retries env ((s, a) :: steps) =
      if s.client.flags.pairReady then 0
      else if s.opensPair a && decide (0 < (attempts env steps).length) then retries env steps + 1
      else retries env steps := rfl

/-- The counts of a run after a step of the supervisor. -/
theorem retryCount_of_step (env : Env) (steps : List (System × Action)) {input : SupervisorInput}
    (hLives : s.supervisor.Lives s.client)
    (hOpens : s.opensPair (.supervisor input) = s.supervisor.opensPair) :
    RetryCount s.supervisor s.client.flags.pairReady (attempts env steps).length
      (retries env steps) (attempts env ((s, .supervisor input) :: steps)).length
      (retries env ((s, .supervisor input) :: steps)) := by
  have hReady : s.supervisor.waits = false → s.supervisor.retires = false →
      s.client.flags.pairReady = false := fun hWaits hRetires =>
    congrArg Prod.fst (hLives.no_progress hWaits hRetires)
  rw [length_attempts_cons, retries_cons, hOpens]
  refine ⟨?_, ?_, ?_⟩
  · intro hWaits hRetires hNot
    simp [hReady hWaits hRetires, hNot]
  · intro hPair
    have hNot : s.supervisor.opensPair = false := by
      cases hPc : s.supervisor <;> rw [hPc] at hPair <;>
        first | rfl | simp [SupervisorPc.waits, SupervisorPc.retires] at hPair
    simp [hNot]
  · intro hPrepare
    have hNot : s.supervisor.waits = false ∧ s.supervisor.retires = false := by
      cases hPc : s.supervisor <;> rw [hPc] at hPrepare <;>
        first | exact ⟨rfl, rfl⟩ | cases hPrepare
    refine ⟨by simp [hPrepare], ?_⟩
    rw [hReady hNot.1 hNot.2, hPrepare]
    by_cases hOpened : 0 < (attempts env steps).length
    · simp [hOpened]
    · have hNone : retries env steps = 0 := retries_of_unopened (by omega)
      simp [hOpened, hNone]

/-- A step keeps the record of the waits. -/
theorem Backoffs.step {steps : List (System × Action)} {a : Action} (h : Backoffs env steps s)
    (hRun : (machine env).Run steps s) (hStep : (machine env).step s a = some s') :
    Backoffs env ((s, a) :: steps) s' := by
  have hLives := lives_of_reachable hRun.reachable
  by_cases hOther : ∀ input, a ≠ .supervisor input
  · have hOpens := opensPair_other (s := s) hOther
    have hLength : (attempts env ((s, a) :: steps)).length = (attempts env steps).length := by
      rw [length_attempts_cons, if_neg (by simp [hOpens])]
    have hCount : retries env ((s, a) :: steps) =
        if s.client.flags.pairReady then 0 else retries env steps := by
      simp [retries_cons, hOpens]
    refine ⟨?_, ?_⟩
    · -- the counter of the supervisor follows the attempts
      rw [hLength, hCount]
      by_cases hPair : s.supervisor.waits = true ∨ s.supervisor.retires = true
      · obtain ⟨hPc, hReady⟩ :=
          ready_of_step (shape_of_reachable hRun.reachable) hStep hOther hPair
        rw [hPc]
        refine h.retried.in_pair hPair fun hNot => ?_
        have hWas : s.client.flags.pairReady = false := by
          by_contra hSome
          rw [hReady (by simpa using hSome)] at hNot
          cases hNot
        simp [hWas]
      · rw [not_or] at hPair
        have hWaits : s.supervisor.waits = false := by simpa using hPair.1
        have hRetires : s.supervisor.retires = false := by simpa using hPair.2
        have hReady : s.client.flags.pairReady = false :=
          congrArg Prod.fst (hLives.no_progress hWaits hRetires)
        rw [hReady, if_neg (by simp)]
        obtain hPc | hPc | hPc := supervisor_of_step hStep hOther <;> rw [hPc]
        · exact h.retried.outside hWaits hRetires
        · trivial
        · trivial
    · rw [hCount]
      split
      · exact Nat.zero_le _
      · exact h.limit
  · simp only [ne_eq, not_forall, not_not] at hOther
    obtain ⟨input, rfl⟩ := hOther
    simp only [machine, System.step, System.supervisorAction, Option.map_eq_some_iff] at hStep
    obtain ⟨⟨pc', c'⟩, hSupervisor, rfl⟩ := hStep
    have hCount := retryCount_of_step env steps hLives (opensPair_supervisor hSupervisor)
    refine ⟨retried_supervisorStep hSupervisor (epochs_of_run hRun).fresh hCount h.retried, ?_⟩
    rw [retries_cons, opensPair_supervisor hSupervisor]
    -- a ready pair starts the count over
    split
    · exact Nat.zero_le _
    · split
      · rename_i hPrepare
        rw [Bool.and_eq_true, decide_eq_true_eq] at hPrepare
        have hRetried := h.retried
        -- the supervisor has counted the pair it opens
        cases hPc : s.supervisor <;> rw [hPc] at hPrepare <;> try cases hPrepare.1
        rw [hPc] at hRetried
        have hUsed := hRetried.2
        rw [if_pos hPrepare.2] at hUsed
        exact hUsed ▸ hRetried.1.budget
      · exact h.limit

/-- Along every run the waits are as recorded. -/
theorem backoffs_of_run {steps : List (System × Action)} (h : (machine env).Run steps s) :
    Backoffs env steps s := by
  refine Machine.Run.invariant (M := machine env) (I := Backoffs env)
    ⟨trivial, Nat.zero_le _⟩ ?_ h
  intro steps s a s' hRun hBackoffs hStep
  exact hBackoffs.step hRun hStep

/-- The delays of a configuration. -/
theorem validateConfig_delays (h : env.validateConfig = .ok ()) :
    0 < env.config.reconnectInitialDelayMs ∧
      env.config.reconnectInitialDelayMs ≤ env.config.reconnectMaxDelayMs := by
  have hBounds := (validateConfig_passed h).1
  simp only [Env.boundsOk, Bool.and_eq_true, bne_iff_ne, decide_eq_true_eq] at hBounds
  omega

/-- **Reconnect backoff.** In every run of an accepted configuration, the wait of
the supervisor before the `(k + 1)`-th retry in a row is the `k`-th delay of
`NextBackoff`, and `k` is within the budget. These delays are the doubled ones,
which are positive, bounded by the maximum and never decrease, exactly when no
doubling below the maximum leaves 32 bits. -/
theorem reconnect_backoff (hWord : env.config.reconnectMaxDelayMs < 2 ^ 32)
    (hConfig : env.validateConfig = .ok ()) :
    ((∀ k < env.config.maximumPairReconnectAttempts, backoffDelay env k = doubledDelay env k) ↔
      DoublingFits env) ∧
    (∀ steps s r, (machine env).Run steps s → s.supervisor = .backOff r →
      retries env steps < env.config.maximumPairReconnectAttempts ∧
      r.reconnectDelay = backoffDelay env (retries env steps) ∧
      (DoublingFits env → r.reconnectDelay = doubledDelay env (retries env steps))) ∧
    (∀ k, 0 < doubledDelay env k ∧ doubledDelay env k ≤ env.config.reconnectMaxDelayMs ∧
      doubledDelay env k ≤ doubledDelay env (k + 1)) := by
  obtain ⟨hPositive, hInitial⟩ := validateConfig_delays hConfig
  have hDelays := backoffDelay_eq_iff hWord hInitial
  refine ⟨hDelays, ?_, doubledDelay_bounds hPositive hInitial⟩
  intro steps s r hRun hPc
  have hRetried := (backoffs_of_run hRun).retried
  rw [hPc] at hRetried
  obtain ⟨-, hDelay, -, hBudget⟩ := hRetried
  refine ⟨hBudget, hDelay, fun hFits => ?_⟩
  rw [hDelay, hDelays.mpr hFits _ hBudget]

section Runs

open Deployment

/-- The Control stream of the new pair cannot be opened, and the pair is given up;
the supervisor then waits to retry. -/
def Deployment.refusePair : List Action :=
  .controlReader (.opened false) :: List.replicate 13 (.supervisor .tick)

/-- The wait is over and the next pair is opened. -/
def Deployment.reopenPair : List Action :=
  List.replicate 3 (.supervisor .tick)

/-- The delay the supervisor waits for. -/
def SupervisorPc.waitDelay? : SupervisorPc → Option Nat
  | .backOff r => some r.reconnectDelay
  | _ => none

/-- A supervisor that waits is backing off. -/
theorem SupervisorPc.backOff_of_delay {pc : SupervisorPc} {delay : Nat}
    (h : pc.waitDelay? = some delay) : ∃ r, pc = .backOff r ∧ r.reconnectDelay = delay := by
  cases pc with
  | backOff r => exact ⟨r, rfl, Option.some.inj h⟩
  | _ => cases h

/-- The second wait of a deployment with the default delays. -/
theorem reconnect_backoff_second :
    ∃ steps s r, (machine deployment).Run steps s ∧ s.supervisor = .backOff r ∧
      retries deployment steps = 1 ∧ r.reconnectDelay = doubledDelay deployment 1 := by
  obtain ⟨steps, s, hRun, hCheck⟩ := Machine.exists_run_of_record (machine deployment)
    (register ++ refusePair ++ reopenPair ++ refusePair)
    (fun steps s => s.supervisor.waitDelay? == some 500 && retries deployment steps == 1)
    (by decide +kernel)
  rw [Bool.and_eq_true, beq_iff_eq, beq_iff_eq] at hCheck
  obtain ⟨r, hPc, -⟩ := SupervisorPc.backOff_of_delay hCheck.1
  have hFits : DoublingFits deployment := by
    intro k hBudget
    have hSmall : k < 7 := Nat.lt_of_succ_lt_succ hBudget
    clear hBudget
    revert k
    decide
  have hBackoff := @reconnect_backoff deployment (by decide) (by decide +kernel)
  have hDelay := (hBackoff.2.1 steps s r hRun hPc).2.2 hFits
  rw [hCheck.2] at hDelay
  exact ⟨steps, s, r, hRun, hPc, hCheck.2, hDelay⟩

/-- A deployment whose delays are as long as 32 bits allow. -/
def Deployment.patient : Env :=
  { deployment with config := { deployment.config with
      reconnectInitialDelayMs := 2 ^ 31, reconnectMaxDelayMs := 2 ^ 32 - 1 } }

/-- The second wait of an accepted configuration is no wait at all: the doubled
delay leaves 32 bits, and the retry follows at once. -/
theorem reconnect_backoff_zero :
    patient.validateConfig = .ok () ∧ patient.config.reconnectMaxDelayMs < 2 ^ 32 ∧
    ∃ steps s r, (machine patient).Run steps s ∧ s.supervisor = .backOff r ∧
      retries patient steps = 1 ∧ r.reconnectDelay = 0 ∧
      doubledDelay patient 1 = 2 ^ 32 - 1 := by
  refine ⟨by decide +kernel, by decide, ?_⟩
  obtain ⟨steps, s, hRun, hCheck⟩ := Machine.exists_run_of_record (machine patient)
    (register ++ refusePair ++ reopenPair ++ refusePair)
    (fun steps s => s.supervisor.waitDelay? == some 0 && retries patient steps == 1)
    (by decide +kernel)
  rw [Bool.and_eq_true, beq_iff_eq, beq_iff_eq] at hCheck
  obtain ⟨r, hPc, hDelay⟩ := SupervisorPc.backOff_of_delay hCheck.1
  exact ⟨steps, s, r, hRun, hPc, hCheck.2, hDelay, by decide⟩

end Runs

end AdapterRuntime.Model
