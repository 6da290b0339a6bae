import AdapterRuntime.Model.System

/-!
# AdapterRuntime — the branches of a step

`deactivateStep`, `applyTick`, `applyCallback` and `supervisorStep` read back
once, one constructor for each branch of the source with the guard under which
it is taken. Every later module that asks what such a step does to its part of
the client splits these moves; none opens the step functions again, so a change
of `SupervisorLoop` or `ApplyInstanceSpec` is met here.

* `deactivateStep_move` — `DeactivateApplicationUnlocked`.
* `applyTick_cases`, `applyCallback_cases` — `ApplyInstanceSpec`.
* `supervisorStep_branch` — `SupervisorLoop`.
-/

namespace AdapterRuntime.Model

open AdapterRuntime.Lib

-- ---------------------------------------------------------------------------
-- Deactivation
-- ---------------------------------------------------------------------------

/-- A step of a deactivation, one case for each branch; `none` is its end. -/
inductive DeactivateMove (env : Env) (reason : Text) (c : Client) :
    DeactivatePc → Option DeactivatePc → Client → Prop
  | begin : DeactivateMove env reason c .locked (some (.waiting (deactivate env c).1))
      (deactivate env c).2
  | waited {plan : DeactivationPlan} (hQuiet : c.callbacksQuiet = true) :
      DeactivateMove env reason c (.waiting plan) (some (.stopping plan.bindings.reverse plan)) c
  | stopped {plan : DeactivationPlan} :
      DeactivateMove env reason c (.stopping [] plan) (some (.clearing plan)) c
  | stop {plan : DeactivationPlan} {binding : Nat} {rest : List Nat} :
      DeactivateMove env reason c (.stopping (binding :: rest) plan) (some (.stopping rest plan))
        (c.callStop env binding)
  | clear {plan : DeactivationPlan} :
      DeactivateMove env reason c (.clearing plan) (some (.notifying plan.streams))
        (if plan.hadSpec then c.callClear env else c)
  | notify {source : SourceState} {rest : List SourceState} :
      DeactivateMove env reason c (.notifying (source :: rest)) (some (.notifying rest))
        (c.notifySourceClosed env source (deactivationError reason))
  | finish : DeactivateMove env reason c (.notifying []) none c

/-- The steps of a deactivation. -/
theorem deactivateStep_move {env : Env} {reason : Text} {c c' : Client} {at_ : DeactivatePc}
    {next : Option DeactivatePc} (h : deactivateStep env reason c at_ = some (next, c')) :
    DeactivateMove env reason c at_ next c' := by
  unfold deactivateStep at h
  split at h
  · cases h
    exact .begin
  · split at h <;> rename_i hQuiet <;> cases h
    exact .waited hQuiet
  · cases h
    exact .stopped
  · cases h
    exact .stop
  · cases h
    exact .clear
  · cases h
    exact .finish
  · cases h
    exact .notify

-- ---------------------------------------------------------------------------
-- The transaction
-- ---------------------------------------------------------------------------

/-- The transaction returns and gives up `transition_mutex_`. -/
def Client.unlocked (c : Client) : Client := { c with transitionLocked := false }

/-- The thread has taken `transition_mutex_`. -/
def Client.locked (c : Client) : Client := { c with transitionLocked := true }

/-- The client after a `ready` callback has returned. -/
def Client.readied (c : Client) (binding : Nat) : Client :=
  { c.log (.readyCalled binding true) with
    spec := { c.spec with readyReturned := binding :: c.spec.readyReturned } }

/-- A step of `ApplyInstanceSpec`, one case for each branch of the source. What a
callback leaves in its error argument stays open. -/
inductive ApplyMove (env : Env) (session : Text) (c : Client) :
    ApplyPc → ApplyNext → Client → Prop
  | answer {cand : Candidate} {result : ApplyInstanceSpecResult}
      (hResult : beginApply env c session cand.spec = .inl result) :
      ApplyMove env session c (.begin cand) (.inr result) c
  | begin {cand : Candidate} {c' : Client}
      (hBegin : beginApply env c session cand.spec = .inr c') :
      ApplyMove env session c (.begin cand) (.inl (.waiting cand)) c'
  | waited {cand : Candidate} (hQuiet : c.callbacksQuiet = true) :
      ApplyMove env session c (.waiting cand) (.inl (.lock cand)) c
  | lock {cand : Candidate} (hFree : c.transitionLocked = false) :
      ApplyMove env session c (.lock cand) (.inl (.checkSession cand)) c.locked
  | current {cand : Candidate} (hCurrent : c.currentSessionIs session = true) :
      ApplyMove env session c (.checkSession cand) (.inl (.checkStop cand)) c
  | stale {pc : ApplyPc} {cand : Candidate} (hPc : pc = .checkSession cand ∨ pc = .checkStop cand)
      (hSession : pc = .checkSession cand → c.currentSessionIs session = false)
      (hStop : pc = .checkStop cand → c.flags.stopRequested = true) :
      ApplyMove env session c pc
        (.inr (specStale cand.spec "session changed while applying instance spec")) c.unlocked
  | proceed {cand : Candidate} (hRunning : c.flags.stopRequested = false) :
      ApplyMove env session c (.checkStop cand) (.inl (.deactivating cand .locked)) c
  | deactivate {cand : Candidate} {at_ next : DeactivatePc} {c' : Client}
      (hStep : deactivateStep env (text "instance spec replaced") c at_ = some (some next, c')) :
      ApplyMove env session c (.deactivating cand at_) (.inl (.deactivating cand next)) c'
  | deactivated {cand : Candidate} {at_ : DeactivatePc} {c' : Client}
      (hStep : deactivateStep env (text "instance spec replaced") c at_ = some (none, c')) :
      ApplyMove env session c (.deactivating cand at_) (.inl (.applying cand)) c'
  | skipApply {cand : Candidate} (hBound : env.callbacks.applyInstanceSpec = false) :
      ApplyMove env session c (.applying cand)
        (.inl (nextStart cand (cand.spec.capabilities.zip cand.bindings) [] []))
        (c.log (.applySkipped cand.spec))
  | applied {cand : Candidate} {error : Text} (hBound : env.callbacks.applyInstanceSpec = true) :
      ApplyMove env session c (.applying cand)
        (.inl (nextStart cand (cand.spec.capabilities.zip cand.bindings) [] error))
        (c.log (.applyCalled cand.spec true))
  | applyFailed {cand : Candidate} {error : Text}
      (hBound : env.callbacks.applyInstanceSpec = true) :
      ApplyMove env session c (.applying cand) (.inl (.unwinding cand [] false [] error))
        ((c.log (.applyCalled cand.spec false)).callClear env)
  | skipStart {cand : Candidate} {grant : EnabledCapability} {binding : Nat}
      {rest : List (EnabledCapability × Nat)} {started : List Nat} {error : Text}
      (hBound : env.hasCallback CapabilityCallbacks.start binding = false) :
      ApplyMove env session c (.starting cand ((grant, binding) :: rest) started error)
        (.inl (nextStart cand rest (started ++ [binding]) error)) (c.log (.startSkipped binding))
  | started {cand : Candidate} {grant : EnabledCapability} {binding : Nat}
      {rest : List (EnabledCapability × Nat)} {started : List Nat} {error error' : Text}
      (hBound : env.hasCallback CapabilityCallbacks.start binding = true) :
      ApplyMove env session c (.starting cand ((grant, binding) :: rest) started error)
        (.inl (nextStart cand rest (started ++ [binding]) error'))
        (c.log (.startCalled binding true))
  | startFailed {cand : Candidate} {grant : EnabledCapability} {binding : Nat}
      {rest : List (EnabledCapability × Nat)} {started : List Nat} {error error' : Text}
      (hBound : env.hasCallback CapabilityCallbacks.start binding = true) :
      ApplyMove env session c (.starting cand ((grant, binding) :: rest) started error)
        (.inl (.unwinding cand started.reverse true grant.key error'))
        (c.log (.startCalled binding false))
  | startedAll {cand : Candidate} {started : List Nat} {error : Text} :
      ApplyMove env session c (.starting cand [] started error) (.inl (.committing cand started)) c
  | unwindStop {cand : Candidate} {binding : Nat} {rest : List Nat} {clear : Bool}
      {failedKey error : Text} :
      ApplyMove env session c (.unwinding cand (binding :: rest) clear failedKey error)
        (.inl (.unwinding cand rest clear failedKey error)) (c.callStop env binding)
  | unwound {cand : Candidate} {clear : Bool} {failedKey error : Text} :
      ApplyMove env session c (.unwinding cand [] clear failedKey error)
        (.inl (.failing cand failedKey error)) (if clear then c.callClear env else c)
  | failed {cand : Candidate} {failedKey error message : Text} :
      ApplyMove env session c (.failing cand failedKey error)
        (.inr (specRefused cand.spec .permanent "spec-apply-failed" message
          (failureStatuses env failedKey error)))
        (recordApplyFailure c (failureStatuses env failedKey error)).unlocked
  | commit {cand : Candidate} {started : List Nat} {c' : Client}
      (hCommit : commitSpec c session cand.spec cand.bindings (grantedStatuses env cand.spec) =
        some c') :
      ApplyMove env session c (.committing cand started) (.inl (.readying cand started))
        (c'.log (.specCommitted cand.spec))
  | outdated {cand : Candidate} {started : List Nat}
      (hStale : commitSpec c session cand.spec cand.bindings (grantedStatuses env cand.spec) =
        none) :
      ApplyMove env session c (.committing cand started)
        (.inl (.staleUnwinding cand started.reverse)) c
  | staleStop {cand : Candidate} {binding : Nat} {rest : List Nat} :
      ApplyMove env session c (.staleUnwinding cand (binding :: rest))
        (.inl (.staleUnwinding cand rest)) (c.callStop env binding)
  | staleUnwound {cand : Candidate} :
      ApplyMove env session c (.staleUnwinding cand [])
        (.inr (specStale cand.spec "session changed before instance spec commit"))
        (c.callClear env).unlocked
  | skipReady {cand : Candidate} {binding : Nat} {rest : List Nat}
      (hBound : env.hasCallback CapabilityCallbacks.ready binding = false) :
      ApplyMove env session c (.readying cand (binding :: rest)) (.inl (.readying cand rest)) c
  | readied {cand : Candidate} {binding : Nat} {rest : List Nat}
      (hBound : env.hasCallback CapabilityCallbacks.ready binding = true) :
      ApplyMove env session c (.readying cand (binding :: rest)) (.inl (.readying cand rest))
        (c.readied binding)
  | readyFailed {cand : Candidate} {binding : Nat} {rest : List Nat}
      (hBound : env.hasCallback CapabilityCallbacks.ready binding = true) :
      ApplyMove env session c (.readying cand (binding :: rest))
        (.inl (.readyDeactivating cand binding .locked)) (c.log (.readyCalled binding false))
  | readiedAll {cand : Candidate} :
      ApplyMove env session c (.readying cand []) (.inl (.finishing cand)) c
  | readyDeactivate {cand : Candidate} {failed : Nat} {at_ next : DeactivatePc} {c' : Client}
      (hStep : deactivateStep env (text "capability ready callback failed") c at_ =
        some (some next, c')) :
      ApplyMove env session c (.readyDeactivating cand failed at_)
        (.inl (.readyDeactivating cand failed next)) c'
  | readyDeactivated {cand : Candidate} {failed : Nat} {at_ : DeactivatePc} {c' : Client}
      (hStep : deactivateStep env (text "capability ready callback failed") c at_ =
        some (none, c')) :
      ApplyMove env session c (.readyDeactivating cand failed at_)
        (.inl (.readyFailing cand failed)) c'
  | readyFailure {cand : Candidate} {failed : Nat} :
      ApplyMove env session c (.readyFailing cand failed)
        (.inr (specRefused cand.spec .permanent "ready-callback-failed"
          (text "capability ready callback failed after instance spec commit")
          (readyFailureStatuses env failed)))
        (recordReadyFailure c (readyFailureStatuses env failed)).unlocked
  | finish {cand : Candidate} :
      ApplyMove env session c (.finishing cand)
        (.inr (specApplied cand.spec (grantedStatuses env cand.spec)))
        (finishApply c session (grantedStatuses env cand.spec)).unlocked

variable {env : Env} {c c' : Client}

/-- The steps of a transaction that wait for no callback. -/
theorem applyTick_cases {session : Text} {at_ : ApplyPc} {next : ApplyNext}
    (h : applyTick env session c at_ = some (next, c')) : ApplyMove env session c at_ next c' := by
  unfold applyTick at h
  split at h
  · split at h <;> rename_i hBegin <;> cases h
    · exact .answer hBegin
    · exact .begin hBegin
  · split at h <;> rename_i hQuiet <;> cases h
    exact .waited hQuiet
  · split at h <;> rename_i hFree <;> cases h
    exact .lock (by simpa using hFree)
  · split at h <;> rename_i hSession <;> cases h
    · exact .current hSession
    · exact .stale (.inl rfl) (fun _ => by simpa using hSession) (fun hPc => by cases hPc)
  · split at h <;> rename_i hStop <;> cases h
    · exact .stale (.inr rfl) (fun hPc => by cases hPc) (fun _ => hStop)
    · exact .proceed (by simpa using hStop)
  · split at h <;> rename_i hStep <;> cases h
    · exact .deactivate hStep
    · exact .deactivated hStep
  · split at h <;> rename_i hBound <;> cases h
    exact .skipApply (by simpa using hBound)
  · split at h <;> rename_i hBound <;> cases h
    exact .skipStart (by simpa using hBound)
  · cases h
    exact .startedAll
  · cases h
    exact .unwindStop
  · cases h
    exact .unwound
  · cases h
    exact .failed
  · split at h <;> rename_i hCommit <;> cases h
    · exact .outdated hCommit
    · exact .commit hCommit
  · cases h
    exact .staleStop
  · cases h
    exact .staleUnwound
  · split at h <;> rename_i hBound <;> cases h
    exact .skipReady (by simpa using hBound)
  · cases h
    exact .readiedAll
  · split at h <;> rename_i hStep <;> cases h
    · exact .readyDeactivate hStep
    · exact .readyDeactivated hStep
  · cases h
    exact .readyFailure
  · cases h
    exact .finish

/-- The steps of a transaction at which a callback has returned or thrown. -/
theorem applyCallback_cases (session : Text) {outcome : CallbackOutcome} {at_ : ApplyPc}
    {next : ApplyNext} (h : applyCallback env c outcome at_ = some (next, c')) :
    ApplyMove env session c at_ next c' := by
  unfold applyCallback at h
  split at h
  · split at h <;> rename_i hBound
    · cases h
    · have hApply : env.callbacks.applyInstanceSpec = true := by simpa using hBound
      simp only at h
      split at h <;> rename_i hOk <;> cases h
      · rw [hOk]
        exact .applied hApply
      · rw [Bool.not_eq_true] at hOk
        rw [hOk]
        exact .applyFailed hApply
  · split at h <;> rename_i hBound
    · cases h
    · simp only [Bool.not_eq_true', Bool.not_eq_false] at hBound
      simp only at h
      split at h <;> rename_i hOk <;> cases h
      · rw [hOk]
        exact .started hBound
      · rw [Bool.not_eq_true] at hOk
        rw [hOk]
        exact .startFailed hBound
  · split at h <;> rename_i hBound
    · cases h
    · simp only [Bool.not_eq_true', Bool.not_eq_false] at hBound
      split at h <;> cases h
      · exact .readied hBound
      · exact .readyFailed hBound
  · cases h

-- ---------------------------------------------------------------------------
-- The supervisor
-- ---------------------------------------------------------------------------

/-- The locals of `SupervisorLoop` after a pair: one that was ready clears the
retry budget. -/
def Supervision.renewed (env : Env) (r : Supervision) (pairWasReady : Bool) : Supervision :=
  if pairWasReady then
    { r with reconnectsUsed := 0, reconnectDelay := env.config.reconnectInitialDelayMs }
  else r

/-- The retry budget is no part of the fence. -/
@[simp] theorem Supervision.renewed_fence (env : Env) (r : Supervision) (pairWasReady : Bool) :
    (r.renewed env pairWasReady).fence = r.fence := by
  cases pairWasReady <;> rfl

/-- The fence of the next pair. -/
def Supervision.nextFence (r : Supervision) (c : Client) : SessionFence :=
  { r.fence with connectionEpoch := c.session.connectionEpochCounter }

/-- Where `SupervisorLoop` goes on after a deactivation. -/
def AfterDeactivation.next : AfterDeactivation → SupervisorPc
  | .sessionLost reason => .enterLost reason
  | .stopped => .endSession

/-- The points at which the supervisor asks for `transition_mutex_`, the reason
it gives and what follows the deactivation. -/
inductive SupervisorPc.Locks (c : Client) : SupervisorPc → Text → AfterDeactivation → Prop
  | unregistered {reason : Text} (hRunning : c.flags.stopRequested = false) :
      Locks c (.registerFailed reason) (text "registration failed: " ++ reason)
        (.sessionLost (text "registration failed: " ++ reason))
  | stopped {r : Supervision} (hStop : c.flags.stopRequested = true) :
      Locks c (.loop r) (text "Runtime Link supervisor stopped") .stopped
  | stoppedInPair {r : Supervision} {pairWasReady : Bool} (hStop : c.flags.stopRequested = true) :
      Locks c (.checkStop r pairWasReady) (text "Runtime Link supervisor stopped") .stopped
  | terminal : Locks c .lostTerminal c.flags.terminalSessionError
      (.sessionLost c.flags.terminalSessionError)
  | budget {reason : Text} : Locks c .lostBudget reason (.sessionLost reason)
  | exhausted {r : Supervision} (hTerminal : c.flags.terminalSessionFailure = true) :
      Locks c (.checkEpoch r) (text "connection epoch is exhausted")
        (.sessionLost (text "connection epoch is exhausted"))

/-- A step of `SupervisorLoop`, one case for each branch of the source. -/
inductive SupervisorBranch (env : Env) (c : Client) (controlDone workDone : Bool) :
    SupervisorPc → SupervisorPc → Client → Prop
  | refuse {reason : Text}
      (hRefused : c.flags.registrationAttempted = true ∨ c.flags.stopRequested = true) :
      SupervisorBranch env c controlDone workDone .register (.registerFailed reason) c
  | register (hFresh : c.flags.registrationAttempted = false)
      (hRunning : c.flags.stopRequested = false) :
      SupervisorBranch env c controlDone workDone .register .registerCall
        ({ c with flags := { c.flags with registrationAttempted := true } }.log .registerSent)
  | unanswered {reason : Text} :
      SupervisorBranch env c controlDone workDone .registerCall (.registerFailed reason) c
  | registered {response : RegisterResponse} {fence : SessionFence}
      (hCheck : checkRegisterResponse env response = .ok fence) :
      SupervisorBranch env c controlDone workDone .registerCall (.install fence) c
  | giveUp {reason : Text} (hStop : c.flags.stopRequested = true) :
      SupervisorBranch env c controlDone workDone (.registerFailed reason) .finished c
  | lock {pc : SupervisorPc} {reason : Text} {after : AfterDeactivation}
      (hLocks : pc.Locks c reason after) (hFree : c.transitionLocked = false) :
      SupervisorBranch env c controlDone workDone pc (.deactivating reason .locked after) c.locked
  | install {fence : SessionFence} :
      SupervisorBranch env c controlDone workDone (.install fence)
        (.loop ⟨fence, env.config.reconnectInitialDelayMs, 0⟩) (c.installSession env fence)
  | goOn {r : Supervision} (hRunning : c.flags.stopRequested = false) :
      SupervisorBranch env c controlDone workDone (.loop r) (.prepare r) c
  | prepare {r : Supervision} :
      SupervisorBranch env c controlDone workDone (.prepare r) (.awaitAttach r (r.nextFence c))
        (c.prepareConnectionPair (r.nextFence c))
  | unattached {r : Supervision} {fence : SessionFence} (hOver : c.pairOver fence = true) :
      SupervisorBranch env c controlDone workDone (.awaitAttach r fence) (.joinControl r) c
  | attach {r : Supervision} {fence : SessionFence} (hLive : c.pairOver fence = false)
      (hOpen : c.attachAllowed fence = true) :
      SupervisorBranch env c controlDone workDone (.awaitAttach r fence) (.awaitFailure r fence) c
  | ended {r : Supervision} {fence : SessionFence} (hOver : c.pairOver fence = true) :
      SupervisorBranch env c controlDone workDone (.awaitFailure r fence) (.joinControl r) c
  | joinControl {r : Supervision} (hDone : controlDone = true) :
      SupervisorBranch env c controlDone workDone (.joinControl r) (.joinWork r) c
  | joinWork {r : Supervision} (hDone : workDone = true) :
      SupervisorBranch env c controlDone workDone (.joinWork r) (.replaceBegin r) c
  | replaceBegin {r : Supervision} :
      SupervisorBranch env c controlDone workDone (.replaceBegin r)
        (.replaceWait r c.beginPairReplacement.1) c.beginPairReplacement.2
  | replaceWait {r : Supervision} {sources : List SourceState} (hQuiet : c.callbacksQuiet = true) :
      SupervisorBranch env c controlDone workDone (.replaceWait r sources)
        (.replaceRelease r sources) c
  | release {r : Supervision} {sources : List SourceState} :
      SupervisorBranch env c controlDone workDone (.replaceRelease r sources)
        (.replaceError r sources) c.releaseAllWorkTokens
  | error {r : Supervision} {sources : List SourceState} :
      SupervisorBranch env c controlDone workDone (.replaceError r sources)
        (.replaceNotify r sources c.pairReplacedError) c
  | notified {r : Supervision} {error : AdapterError} :
      SupervisorBranch env c controlDone workDone (.replaceNotify r [] error) (.clear r) c
  | notify {r : Supervision} {source : SourceState} {rest : List SourceState}
      {error : AdapterError} :
      SupervisorBranch env c controlDone workDone (.replaceNotify r (source :: rest) error)
        (.replaceNotify r rest error) (c.notifySourceClosed env source error)
  | clear {r : Supervision} :
      SupervisorBranch env c controlDone workDone (.clear r) (.checkStop r c.flags.pairReady)
        c.clearConnectionState
  | unstopped {r : Supervision} {pairWasReady : Bool} (hRunning : c.flags.stopRequested = false) :
      SupervisorBranch env c controlDone workDone (.checkStop r pairWasReady)
        (.checkTerminal r pairWasReady) c
  | terminal {r : Supervision} {pairWasReady : Bool}
      (hTerminal : c.flags.terminalSessionFailure = true) :
      SupervisorBranch env c controlDone workDone (.checkTerminal r pairWasReady) .lostTerminal c
  | spent {r : Supervision} {pairWasReady : Bool}
      (hAlive : c.flags.terminalSessionFailure = false)
      (hBudget : env.config.maximumPairReconnectAttempts ≤
        (r.renewed env pairWasReady).reconnectsUsed) :
      SupervisorBranch env c controlDone workDone (.checkTerminal r pairWasReady) .lostBudget c
  | retry {r : Supervision} {pairWasReady : Bool}
      (hAlive : c.flags.terminalSessionFailure = false)
      (hBudget : (r.renewed env pairWasReady).reconnectsUsed <
        env.config.maximumPairReconnectAttempts) :
      SupervisorBranch env c controlDone workDone (.checkTerminal r pairWasReady)
        (.advance { r.renewed env pairWasReady with
          reconnectsUsed := (r.renewed env pairWasReady).reconnectsUsed + 1 }) c
  | advance {r : Supervision} :
      SupervisorBranch env c controlDone workDone (.advance r) (.checkEpoch r) c.advanceEpoch
  | epochLeft {r : Supervision} (hAlive : c.flags.terminalSessionFailure = false) :
      SupervisorBranch env c controlDone workDone (.checkEpoch r) (.backOff r) c
  | backOff {r : Supervision} :
      SupervisorBranch env c controlDone workDone (.backOff r)
        (.loop { r with reconnectDelay := nextBackoff env r.reconnectDelay }) c
  | deactivate {reason : Text} {at_ next : DeactivatePc} {after : AfterDeactivation} {c' : Client}
      (hStep : deactivateStep env reason c at_ = some (some next, c')) :
      SupervisorBranch env c controlDone workDone (.deactivating reason at_ after)
        (.deactivating reason next after) c'
  | deactivated {reason : Text} {at_ : DeactivatePc} {after : AfterDeactivation} {c' : Client}
      (hStep : deactivateStep env reason c at_ = some (none, c')) :
      SupervisorBranch env c controlDone workDone (.deactivating reason at_ after) after.next
        c'.unlocked
  | alreadyLost {reason : Text} (hLost : c.enterSessionLost reason = none) :
      SupervisorBranch env c controlDone workDone (.enterLost reason) .finished c
  | enterLost {reason : Text} {notify : Bool} {c' : Client}
      (hLost : c.enterSessionLost reason = some (notify, c')) :
      SupervisorBranch env c controlDone workDone (.enterLost reason)
        (if notify then .reportLost else .finished) c'
  | reportLost :
      SupervisorBranch env c controlDone workDone .reportLost .finished
        (if env.callbacks.sessionLost then c.log .sessionLostCalled else c)
  | endSession :
      SupervisorBranch env c controlDone workDone .endSession .finished (c.endSupervision env)

/-- The supervisor takes `transition_mutex_` when it is free. -/
theorem lockTransition_branch {pc pc' : SupervisorPc} {reason : Text} {after : AfterDeactivation}
    {controlDone workDone : Bool} (hLocks : pc.Locks c reason after)
    (h : lockTransition c reason after = some (pc', c')) :
    SupervisorBranch env c controlDone workDone pc pc' c' := by
  unfold lockTransition at h
  split at h <;> rename_i hFree <;> cases h
  exact .lock hLocks (by simpa using hFree)

/-- The supervisor gives up or retries, as its budget says. -/
theorem afterPair_branch {r : Supervision} {pairWasReady controlDone workDone : Bool}
    (hAlive : c.flags.terminalSessionFailure = false) :
    SupervisorBranch env c controlDone workDone (.checkTerminal r pairWasReady)
      (afterPair env r pairWasReady) c := by
  by_cases hBudget : env.config.maximumPairReconnectAttempts ≤
      (r.renewed env pairWasReady).reconnectsUsed
  · have hPair : afterPair env r pairWasReady = .lostBudget := if_pos hBudget
    rw [hPair]
    exact .spent hAlive hBudget
  · have hPair : afterPair env r pairWasReady =
        .advance { r.renewed env pairWasReady with
          reconnectsUsed := (r.renewed env pairWasReady).reconnectsUsed + 1 } := if_neg hBudget
    rw [hPair]
    exact .retry hAlive (Nat.lt_of_not_le hBudget)

/-- Every step of `SupervisorLoop` takes one of its branches. -/
theorem supervisorStep_branch {controlDone workDone : Bool} {pc pc' : SupervisorPc}
    {input : SupervisorInput}
    (h : supervisorStep env c controlDone workDone pc input = some (pc', c')) :
    SupervisorBranch env c controlDone workDone pc pc' c' := by
  unfold supervisorStep at h
  split at h
  · -- register
    split at h <;> rename_i hAttempted
    · cases h
      exact .refuse (.inl hAttempted)
    · split at h <;> rename_i hStop <;> cases h
      · exact .refuse (.inr hStop)
      · exact .register (by simpa using hAttempted) (by simpa using hStop)
  · -- no answer to the registration, or one to check
    cases h
    exact .unanswered
  · split at h <;> rename_i hCheck <;> cases h
    · exact .unanswered
    · exact .registered hCheck
  · -- registered: stop, or a lock between two pairs
    split at h <;> rename_i hStop
    · cases h
      exact .giveUp hStop
    · exact lockTransition_branch (.unregistered (by simpa using hStop)) h
  · -- install and prepare the pair
    cases h
    exact .install
  · split at h <;> rename_i hStop
    · exact lockTransition_branch (.stopped hStop) h
    · cases h
      exact .goOn (by simpa using hStop)
  · cases h
    exact .prepare
  · -- awaitAttach
    split at h <;> rename_i hOver
    · cases h
      exact .unattached hOver
    · split at h <;> rename_i hOpen <;> cases h
      exact .attach (by simpa using hOver) hOpen
  · -- the pair runs until it is over; then its readers are joined
    split at h <;> rename_i hOver <;> cases h
    exact .ended hOver
  · split at h <;> rename_i hDone <;> cases h
    exact .joinControl hDone
  · split at h <;> rename_i hDone <;> cases h
    exact .joinWork hDone
  · -- the queues of the pair are drained and released
    cases h
    exact .replaceBegin
  · split at h <;> rename_i hQuiet <;> cases h
    exact .replaceWait hQuiet
  · cases h
    exact .release
  · -- the sources of the pair are notified one by one
    cases h
    exact .error
  · cases h
    exact .notified
  · cases h
    exact .notify
  · cases h
    exact .clear
  · -- stop in the pair, or the classification of its loss
    split at h <;> rename_i hStop
    · exact lockTransition_branch (.stoppedInPair hStop) h
    · cases h
      exact .unstopped (by simpa using hStop)
  · split at h <;> rename_i hTerminal <;> cases h
    · exact .terminal hTerminal
    · exact afterPair_branch (by simpa using hTerminal)
  · -- the locks that lead to a deactivation
    exact lockTransition_branch .terminal h
  · exact lockTransition_branch .budget h
  · -- the next epoch, and the retries that are left
    cases h
    exact .advance
  · split at h <;> rename_i hTerminal
    · exact lockTransition_branch (.exhausted hTerminal) h
    · cases h
      exact .epochLeft (by simpa using hTerminal)
  · cases h
    exact .backOff
  · -- deactivating
    split at h <;> rename_i hStep <;> cases h
    · exact .deactivate hStep
    · exact .deactivated hStep
  · -- the loss of the session is reported at most once
    split at h <;> rename_i hLost <;> cases h
    · exact .alreadyLost hLost
    · exact .enterLost hLost
  · cases h
    exact .reportLost
  · cases h
    exact .endSession
  · cases h

/-- A supervisor that takes a step runs, and it does not end itself. -/
theorem SupervisorBranch.started {controlDone workDone : Bool} {pc pc' : SupervisorPc}
    (h : SupervisorBranch env c controlDone workDone pc pc' c') :
    pc ≠ .notStarted ∧ pc' ≠ .notStarted := by
  cases h with
  | lock hLocks => cases hLocks <;> simp
  | @deactivated _ _ after => cases after <;> simp [AfterDeactivation.next]
  | @enterLost _ notify => cases notify <;> simp
  | _ => simp

end AdapterRuntime.Model
