import AdapterRuntime.Proof.Reader
import AdapterRuntime.Proof.Loops

/-!
# AdapterRuntime — the steps of supervision and of the spec transaction

What a step of the supervisor, of the Control threads and of the Work writer
can do to the Work plane. `SupervisorPc.phase` is the life of a connection pair
as the other threads see it: which threads may run, whether jobs may be held
and whether tokens may exist.
-/

namespace AdapterRuntime.Model

open AdapterRuntime.Lib

-- ---------------------------------------------------------------------------
-- Phases of a pair
-- ---------------------------------------------------------------------------

/-- The life of a connection pair, as the supervisor drives it. -/
inductive PairPhase
  /-- No pair: only the supervisor and idle workers run. -/
  | outside
  /-- The Control stream runs, and the Work stream does not yet. -/
  | opening
  /-- Both streams may run. -/
  | running
  /-- The Control stream has been joined. -/
  | joining
  /-- Both streams have been joined. -/
  | replacing
  /-- The dispatch queue has been cleared; callbacks are being waited for. -/
  | waiting
  /-- Every worker is idle. -/
  | releasing
  deriving DecidableEq

namespace PairPhase

/-- The Control threads may run. -/
def control : PairPhase → Bool
  | .opening | .running => true
  | _ => false

/-- The Work threads may run. -/
def work : PairPhase → Bool
  | .running | .joining => true
  | _ => false

/-- Jobs may be queued. -/
def queues : PairPhase → Bool
  | .running | .joining | .replacing => true
  | _ => false

/-- Workers may hold jobs. -/
def holds : PairPhase → Bool
  | .running | .joining | .replacing | .waiting => true
  | _ => false

/-- Work tokens may exist. -/
def tokens : PairPhase → Bool
  | .running | .joining | .replacing | .waiting | .releasing => true
  | _ => false

end PairPhase

namespace SupervisorPc

/-- Where a pair is in its life, as the supervisor sees it. -/
def phase : SupervisorPc → PairPhase
  | .awaitAttach _ _ => .opening
  | .awaitFailure _ _ | .joinControl _ => .running
  | .joinWork _ => .joining
  | .replaceBegin _ => .replacing
  | .replaceWait _ _ => .waiting
  | .replaceRelease _ _ => .releasing
  | _ => .outside

/-- The locals of the supervisor while a session is installed. -/
def supervision? : SupervisorPc → Option Supervision
  | .loop r | .prepare r | .awaitAttach r _ | .awaitFailure r _ | .joinControl r | .joinWork r
  | .replaceBegin r | .replaceWait r _ | .replaceRelease r _ | .replaceError r _
  | .replaceNotify r _ _ | .clear r | .checkStop r _ | .checkTerminal r _ | .advance r
  | .checkEpoch r | .backOff r => some r
  | _ => none

/-- The fence of the pair the supervisor waits on. -/
def pairFence? : SupervisorPc → Option SessionFence
  | .awaitAttach _ fence | .awaitFailure _ fence => some fence
  | _ => none

/-- The fence `Register` returned, before it is installed. -/
def registered? : SupervisorPc → Option SessionFence
  | .install fence => some fence
  | _ => none

end SupervisorPc

-- ---------------------------------------------------------------------------
-- Steps inside a pair
-- ---------------------------------------------------------------------------

/-- The step keeps the identity of the pair and never takes back a failure or a
stop. -/
structure Client.Steady (c c' : Client) : Prop where
  sessionId : c'.session.sessionId = c.session.sessionId
  epoch : c'.session.connectionEpochCounter = c.session.connectionEpochCounter
  frameLimit : c'.session.maximumWorkFrameBytes = c.session.maximumWorkFrameBytes
  failed : c.flags.sessionFailed = true → c'.flags.sessionFailed = true
  stopped : c.flags.stopRequested = true → c'.flags.stopRequested = true
  halted : (c.flags.stopRequested = true → c.flags.acceptingWork = false) →
    c'.flags.stopRequested = true → c'.flags.acceptingWork = false
  attempted : c'.flags.registrationAttempted = c.flags.registrationAttempted
  active : c'.queues.activeDispatchJobs = c.queues.activeDispatchJobs
  draining : c.flags.drainRequested = true → c'.flags.drainRequested = true
  reported : c.flags.drainReported = true → c'.flags.drainReported = true
  terminal : c.flags.terminalSessionFailure = true → c'.flags.terminalSessionFailure = true
  doomed : (c.flags.terminalSessionFailure = true → c.flags.sessionFailed = true) →
    c'.flags.terminalSessionFailure = true → c'.flags.sessionFailed = true
  flight : c'.queues.inFlightWork = c.queues.inFlightWork
  requested : ∀ id, c.requested id = true → c'.requested id = true

theorem Client.Steady.trans {c c' c'' : Client} (h : c.Steady c') (h' : c'.Steady c'') :
    c.Steady c'' where
  sessionId := h'.sessionId.trans h.sessionId
  epoch := h'.epoch.trans h.epoch
  frameLimit := h'.frameLimit.trans h.frameLimit
  failed hF := h'.failed (h.failed hF)
  stopped hS := h'.stopped (h.stopped hS)
  halted hH := h'.halted (h.halted hH)
  attempted := h'.attempted.trans h.attempted
  active := h'.active.trans h.active
  draining hD := h'.draining (h.draining hD)
  reported hR := h'.reported (h.reported hR)
  terminal hT := h'.terminal (h.terminal hT)
  doomed hD := h'.doomed (h.doomed hD)
  flight := h'.flight.trans h.flight
  requested id hR := h'.requested id (h.requested id hR)

theorem Client.Subsides.steady {c c' : Client} (h : c.Subsides c') : c.Steady c' where
  sessionId := h.sessionId
  epoch := h.epoch
  frameLimit := h.frameLimit
  failed := h.failed
  stopped := h.stopped
  halted := h.halted
  attempted := h.attempted
  active := h.active
  draining := h.draining
  reported := h.reported
  terminal := h.terminal
  doomed := h.doomed
  flight := h.flight
  requested := h.requested

-- ---------------------------------------------------------------------------
-- Deactivation
-- ---------------------------------------------------------------------------

/-- The core after the locked section of a deactivation. -/
def Core.deactivated (k : Core) : Core :=
  { k with tables := { k.tables with
      sourceStreams := ∅, closedSources := ∅, sourceStateBytes := 0 } }

variable {env : Env} {c c' : Client}

theorem steady_deactivate : c.Steady (deactivate env c).2 := by
  constructor <;> simp +contextual [deactivate, Client.cancelAllWork]

/-- A step of a deactivation is its locked section, or leaves the Work plane
alone. -/
theorem deactivateStep_cases {reason : Text} {at_ : DeactivatePc} {next : Option DeactivatePc}
    (h : deactivateStep env reason c at_ = some (next, c')) :
    (at_ = .locked ∧ c' = (deactivate env c).2 ∧ next = some (.waiting (deactivate env c).1)) ∨
    (at_ ≠ .locked ∧ next ≠ some .locked ∧ c'.core = c.core ∧ c.Subsides c') := by
  cases deactivateStep_move h with
  | begin => exact .inl ⟨rfl, rfl, rfl⟩
  | waited | stopped | finish => exact .inr ⟨by simp, by simp, rfl, .refl _⟩
  | stop => exact .inr ⟨by simp, by simp, by simp, .callStop _ _ _⟩
  | clear =>
    refine .inr ⟨by simp, by simp, ?_, ?_⟩
    · split
      · simp
      · rfl
    · split
      · exact .callClear _ _
      · exact .refl _
  | notify => exact .inr ⟨by simp, by simp, by simp, .notifySourceClosed _ _⟩

theorem core_deactivateStep {reason : Text} {at_ : DeactivatePc} {next : Option DeactivatePc}
    (h : deactivateStep env reason c at_ = some (next, c')) :
    c'.core = c.core ∨ c'.core = c.core.deactivated := by
  obtain ⟨-, rfl, -⟩ | ⟨-, -, hCore, -⟩ := deactivateStep_cases h
  · exact .inr rfl
  · exact .inl hCore

-- ---------------------------------------------------------------------------
-- Supervisor
-- ---------------------------------------------------------------------------

/-- What `Register` has checked of the fence it returns. -/
structure SessionFence.Valid (fence : SessionFence) : Prop where
  sessionId : fence.sessionId ≠ []
  frameLimit : fence.maximumWorkFrameBytes ≠ 0
  frameBound : fence.maximumWorkFrameBytes < sizeMax

/-- What a step of the supervisor can do. -/
inductive SupervisorMove (env : Env) (c : Client) (controlDone workDone : Bool) :
    SupervisorPc → SupervisorPc → Client → Prop
  | quiet {pc pc' : SupervisorPc} {c' : Client} (hCore : c'.core = c.core)
      (hRest : { c with flags := { c.flags with
        registrationAttempted := c'.flags.registrationAttempted } }.Subsides c')
      (hPhase : pc.phase = .outside) (hPhase' : pc'.phase = .outside)
      (hSession : ∀ r, pc'.supervision? = some r →
        ∃ r', pc.supervision? = some r' ∧ r'.fence = r.fence)
      (hFence : ∀ fence, pc'.registered? = some fence → fence.Valid) :
      SupervisorMove env c controlDone workDone pc pc' c'
  | install {fence : SessionFence} :
      SupervisorMove env c controlDone workDone (.install fence)
        (.loop ⟨fence, env.config.reconnectInitialDelayMs, 0⟩) (c.installSession env fence)
  | prepare {r : Supervision} {fence : SessionFence}
      (hFence : fence = { r.fence with connectionEpoch := c.session.connectionEpochCounter }) :
      SupervisorMove env c controlDone workDone (.prepare r) (.awaitAttach r fence)
        (c.prepareConnectionPair fence)
  | attach {r : Supervision} {fence : SessionFence} (hOpen : c.attachAllowed fence = true)
      (hLive : c.pairOver fence = false) :
      SupervisorMove env c controlDone workDone (.awaitAttach r fence) (.awaitFailure r fence) c
  | ended {pc : SupervisorPc} {r : Supervision} {fence : SessionFence}
      (hPc : pc = .awaitAttach r fence ∨ pc = .awaitFailure r fence)
      (hOver : c.pairOver fence = true) :
      SupervisorMove env c controlDone workDone pc (.joinControl r) c
  | joinControl {r : Supervision} (hDone : controlDone = true) :
      SupervisorMove env c controlDone workDone (.joinControl r) (.joinWork r) c
  | joinWork {r : Supervision} (hDone : workDone = true) :
      SupervisorMove env c controlDone workDone (.joinWork r) (.replaceBegin r) c
  | replaceBegin {r : Supervision} :
      SupervisorMove env c controlDone workDone (.replaceBegin r)
        (.replaceWait r c.beginPairReplacement.1) c.beginPairReplacement.2
  | replaceWait {r : Supervision} {sources : List SourceState}
      (hQuiet : c.callbacksQuiet = true) :
      SupervisorMove env c controlDone workDone (.replaceWait r sources)
        (.replaceRelease r sources) c
  | release {r : Supervision} {sources : List SourceState} :
      SupervisorMove env c controlDone workDone (.replaceRelease r sources)
        (.replaceError r sources) c.releaseAllWorkTokens
  | clear {r : Supervision} :
      SupervisorMove env c controlDone workDone (.clear r) (.checkStop r c.flags.pairReady)
        c.clearConnectionState
  | advance {r : Supervision} :
      SupervisorMove env c controlDone workDone (.advance r) (.checkEpoch r) c.advanceEpoch
  | deactivate {reason : Text} {after : AfterDeactivation} :
      SupervisorMove env c controlDone workDone (.deactivating reason .locked after)
        (.deactivating reason (.waiting (deactivate env c).1) after) (deactivate env c).2
  | endSession :
      SupervisorMove env c controlDone workDone .endSession .finished (c.endSupervision env)

/-- The fence of an accepted registration is valid. -/
theorem checkRegisterResponse_valid {response : RegisterResponse} {fence : SessionFence}
    (h : checkRegisterResponse env response = .ok fence) : fence.Valid := by
  unfold checkRegisterResponse at h
  simp only at h
  split at h
  · cases h
  · split at h
    · cases h
    · rename_i hFence
      simp only [Bool.or_eq_true, not_or, List.isEmpty_iff] at hFence
      split at h
      · cases h
      · split at h
        · cases h
        · rename_i hLimits
          simp only [Bool.or_eq_true, beq_iff_eq, not_or] at hLimits
          split at h
          · cases h
          · rename_i hBound
            simp only [Bool.or_eq_true, decide_eq_true_eq, not_or, not_lt] at hBound
            split at h
            · cases h
            · cases h
              refine ⟨hFence.1.1.1.2, hLimits.2, ?_⟩
              have hHalf : (sizeMax - kCanonicalSha256TextBytes * 2) / 2 < sizeMax := by decide
              exact Nat.lt_of_le_of_lt hBound.2 hHalf

/-- The supervisor asks for `transition_mutex_` outside a pair only. -/
theorem SupervisorPc.Locks.outside {pc : SupervisorPc} {reason : Text} {after : AfterDeactivation}
    (h : pc.Locks c reason after) : pc.phase = .outside := by
  cases h <;> rfl

/-- Everything a step of the supervisor can do. -/
theorem supervisorStep_cases {controlDone workDone : Bool} {pc pc' : SupervisorPc}
    {input : SupervisorInput}
    (h : supervisorStep env c controlDone workDone pc input = some (pc', c')) :
    SupervisorMove env c controlDone workDone pc pc' c' := by
  have hSame : ∀ {pc pc' : SupervisorPc}, pc.phase = .outside → pc'.phase = .outside →
      (∀ r, pc'.supervision? = some r → ∃ r', pc.supervision? = some r' ∧ r'.fence = r.fence) →
      (∀ fence, pc'.registered? = some fence → fence.Valid) →
      SupervisorMove env c controlDone workDone pc pc' c :=
    fun hPhase hPhase' hSession hFence => .quiet rfl (.refl c) hPhase hPhase' hSession hFence
  -- a move that keeps the client and stays outside
  cases supervisorStep_branch h with
  | install => exact .install
  | prepare => exact .prepare rfl
  | unattached hOver => exact .ended (.inl rfl) hOver
  | ended hOver => exact .ended (.inr rfl) hOver
  | attach hLive hOpen => exact .attach hOpen hLive
  | joinControl hDone => exact .joinControl hDone
  | joinWork hDone => exact .joinWork hDone
  | replaceBegin => exact .replaceBegin
  | replaceWait hQuiet => exact .replaceWait hQuiet
  | release => exact .release
  | clear => exact .clear
  | advance => exact .advance
  | endSession => exact .endSession
  -- the points between two pairs that leave the client alone
  | refuse | unanswered | giveUp | goOn | error | notified | unstopped | terminal | spent
  | epochLeft | backOff | alreadyLost =>
    exact hSame rfl rfl (by simp [SupervisorPc.supervision?]) (by simp [SupervisorPc.registered?])
  | registered hCheck =>
    refine hSame rfl rfl (by simp [SupervisorPc.supervision?]) ?_
    simp only [SupervisorPc.registered?, Option.some.injEq, forall_eq']
    exact checkRegisterResponse_valid hCheck
  | @retry r wasReady =>
    refine hSame rfl rfl ?_ (by simp [SupervisorPc.registered?])
    simp [SupervisorPc.supervision?]
  -- those that touch only what the Work plane does not read
  | register =>
    refine .quiet rfl ?_ rfl rfl (by simp [SupervisorPc.supervision?])
      (by simp [SupervisorPc.registered?])
    constructor <;> simp [Client.log]
  | lock hLocks =>
    refine .quiet rfl ?_ hLocks.outside rfl (by simp [SupervisorPc.supervision?])
      (by simp [SupervisorPc.registered?])
    constructor <;> simp [Client.locked]
  | @notify _ source _ error =>
    refine .quiet (by simp) ?_ rfl rfl (by simp [SupervisorPc.supervision?])
      (by simp [SupervisorPc.registered?])
    have hNotify : c.Subsides (c.notifySourceClosed env source error) := .notifySourceClosed _ _
    rw [hNotify.attempted]
    exact hNotify
  | deactivate hStep =>
    -- the call that empties the source tables is a move of its own
    obtain ⟨rfl, rfl, hNext⟩ | ⟨-, -, hCore, hRest⟩ := deactivateStep_cases hStep
    · cases hNext
      exact .deactivate
    · refine .quiet hCore ?_ rfl rfl (by simp [SupervisorPc.supervision?])
        (by simp [SupervisorPc.registered?])
      rw [hRest.attempted]
      exact hRest
  | @deactivated _ _ after c₁ hStep =>
    -- the last call of a deactivation
    obtain ⟨-, -, hNext⟩ | ⟨-, -, hCore, hRest⟩ := deactivateStep_cases hStep
    · cases hNext
    · refine .quiet hCore ?_ rfl ?_ ?_ ?_
      · rw [show c₁.unlocked.flags.registrationAttempted = c.flags.registrationAttempted from
          hRest.attempted]
        exact hRest.trans (by constructor <;> simp [Client.unlocked])
      · cases after <;> rfl
      · cases after <;> simp [AfterDeactivation.next, SupervisorPc.supervision?]
      · cases after <;> simp [AfterDeactivation.next, SupervisorPc.registered?]
  | @enterLost _ notify _ hLost =>
    -- the loss is decided on flags, and reported by the next section
    refine .quiet (Client.core_of_enterSessionLost hLost) ?_ rfl ?_ ?_ ?_
    · unfold Client.enterSessionLost at hLost
      split at hLost
      · cases hLost
      · cases hLost
        constructor <;> simp
    · cases notify <;> rfl
    · cases notify <;> simp [SupervisorPc.supervision?]
    · cases notify <;> simp [SupervisorPc.registered?]
  | reportLost =>
    refine .quiet ?_ ?_ rfl rfl (by simp [SupervisorPc.supervision?])
      (by simp [SupervisorPc.registered?])
    · split <;> rfl
    · split <;> (constructor <;> simp [Client.log])

-- ---------------------------------------------------------------------------
-- Control threads and the Work writer
-- ---------------------------------------------------------------------------

/-- The transaction is at the locked section of a deactivation. -/
def ApplyPc.deactivates : ApplyPc → Bool
  | .deactivating _ .locked | .readyDeactivating _ _ .locked => true
  | _ => false

/-- The Control reader is at the locked section of a deactivation. -/
def ControlReaderPc.deactivates : ControlReaderPc → Bool
  | .applying _ at_ => at_.deactivates
  | _ => false

theorem core_of_deactivateStep {reason : Text} {at_ : DeactivatePc} {next : Option DeactivatePc}
    (h : deactivateStep env reason c at_ = some (next, c')) {pc : ApplyPc}
    (hPc : at_ = .locked → pc.deactivates = true) :
    c'.core = c.core ∨ (pc.deactivates = true ∧ c'.core = c.core.deactivated) := by
  obtain ⟨hLocked, rfl, -⟩ | ⟨-, -, hCore, -⟩ := deactivateStep_cases h
  · exact .inr ⟨hPc hLocked, rfl⟩
  · exact .inl hCore

/-- A step of the transaction is the locked section of a deactivation, or leaves
the Work plane alone. -/
theorem core_applyMove {session : Text} {at_ : ApplyPc} {next : ApplyNext}
    (h : ApplyMove env session c at_ next c') :
    c'.core = c.core ∨ (at_.deactivates = true ∧ c'.core = c.core.deactivated) := by
  cases h with
  | begin hBegin => exact .inl (Client.core_of_beginApply hBegin)
  | deactivate hStep | deactivated hStep | readyDeactivate hStep | readyDeactivated hStep =>
    exact core_of_deactivateStep hStep (by rintro rfl; rfl)
  | commit hCommit => exact .inl ((Client.core_log _ _).trans (Client.core_of_commitSpec hCommit))
  | unwound =>
    refine .inl ?_
    split
    · simp
    · rfl
  | unwindStop | staleStop => exact .inl (by simp)
  | staleUnwound => exact .inl (Client.core_callClear env c)
  | applyFailed => exact .inl (by simp)
  | finish => exact .inl (Client.core_finishApply c session _)
  | answer | waited | lock | current | stale | proceed | skipApply | applied | skipStart | started
  | startFailed | startedAll | failed | outdated | skipReady | readied | readyFailed | readiedAll
  | readyFailure => exact .inl rfl

/-- Everything a step of the Control reader can do to the Work plane. -/
theorem core_controlReaderStep {pc pc' : ControlReaderPc} {input : ReaderInput ControlResponse}
    (h : controlReaderStep env c pc input = some (pc', c')) :
    c'.core = c.core ∨ (pc.deactivates = true ∧ c'.core = c.core.deactivated) := by
  cases controlReaderStep_branch h with
  -- only a transaction replaces the application
  | apply hMove | conclude hMove => exact core_applyMove hMove
  | @queued _ _ frame _ _ hQueue | @overflow _ _ frame _ _ hQueue =>
    have hCore := Client.core_queueControlLocked env c frame
    rw [hQueue] at hCore
    exact .inl hCore
  | stop =>
    refine .inl ?_
    split <;> simp
  | opened | unopened | drain | remoteStop | signal | terminal | lastTerminal | lastSignal =>
    exact .inl (by simp)
  | stopping | awaitFrame | oversize | received | readFailed | badHeader | goodHeader | badSpec
  | goodSpec | ping | hostError | emptyFrame | closed | ended | rejected | lost => exact .inl rfl

theorem core_controlWriterStep {pc pc' : ControlWriterPc} {input : WriterInput}
    (h : controlWriterStep env c pc input = some (pc', c')) : c'.core = c.core := by
  cases controlWriterStep_branch h with
  | ended | dequeue | heartbeat | write | lose => rfl
  | gate | signal | terminal => simp

theorem core_workWriterStep {pc pc' : WorkWriterPc} {input : WriterInput}
    (h : workWriterStep env c pc input = some (pc', c')) : c'.core = c.core := by
  cases workWriterStep_branch h with
  | attach | unattached | attached | loseAttach | ended | dequeue | write | lose => rfl
  | ready | signal => simp

theorem steady_deactivateStep {reason : Text} {at_ : DeactivatePc} {next : Option DeactivatePc}
    (h : deactivateStep env reason c at_ = some (next, c')) : c.Steady c' := by
  obtain ⟨-, rfl, -⟩ | ⟨-, -, -, hRest⟩ := deactivateStep_cases h
  · exact steady_deactivate
  · exact hRest.steady

theorem Client.steady_unlocked : c.Steady c.unlocked := by
  constructor <;> simp [Client.unlocked]

/-- The first section of a transaction is steady. -/
theorem Client.steady_of_beginApply {session : Text} {spec : AdapterInstanceSpec}
    (h : beginApply env c session spec = .inr c') : c.Steady c' := by
  unfold beginApply at h
  split at h
  · cases h
  · split at h
    · split at h <;> cases h
    · split at h
      · cases h
      · split at h
        · cases h
        · cases h
          constructor <;> simp +contextual [Client.cancelAllWork]

theorem Client.steady_finishApply {session : Text} {statuses : List CapabilityStatus} :
    c.Steady (finishApply c session statuses) := by
  unfold finishApply
  split
  · rename_i hLive
    constructor <;> simp
    exact fun _ => by simpa using hLive.2.2
  · exact (Client.Subsides.refl c).steady

/-- A step of the transaction keeps the pair and takes back no failure and no stop. -/
theorem steady_applyMove {session : Text} {at_ : ApplyPc} {next : ApplyNext}
    (h : ApplyMove env session c at_ next c') : c.Steady c' := by
  cases h with
  | begin hBegin => exact Client.steady_of_beginApply hBegin
  | lock => constructor <;> simp [Client.locked]
  | stale => exact Client.steady_unlocked
  | deactivate hStep | deactivated hStep | readyDeactivate hStep | readyDeactivated hStep =>
    exact steady_deactivateStep hStep
  | skipApply | applied | skipStart | started | startFailed | readyFailed =>
    exact (Client.Subsides.log _).steady
  | applyFailed => exact ((Client.Subsides.log _).trans (.callClear _ _)).steady
  | unwindStop | staleStop => exact (Client.Subsides.callStop _ _ _).steady
  | unwound =>
    split
    · exact (Client.Subsides.callClear _ _).steady
    · exact (Client.Subsides.refl c).steady
  | failed | readyFailure =>
    refine Client.Steady.trans ?_ Client.steady_unlocked
    constructor <;> simp [recordApplyFailure, recordReadyFailure]
  | commit hCommit =>
    unfold commitSpec at hCommit
    split at hCommit
    · cases hCommit
    · cases hCommit
      constructor <;> simp [Client.log]
  | staleUnwound => exact (Client.Subsides.callClear _ _).steady.trans Client.steady_unlocked
  | readied => constructor <;> simp [Client.readied, Client.log]
  | finish => exact Client.steady_finishApply.trans Client.steady_unlocked
  | answer | waited | current | proceed | startedAll | outdated | skipReady | readiedAll =>
    exact (Client.Subsides.refl c).steady

theorem steady_controlReaderStep {pc pc' : ControlReaderPc} {input : ReaderInput ControlResponse}
    (h : controlReaderStep env c pc input = some (pc', c')) : c.Steady c' := by
  cases controlReaderStep_branch h with
  | stopping | awaitFrame | oversize | received | readFailed | badHeader | badSpec | goodSpec
  | ping | hostError | emptyFrame | closed | ended | rejected | lost =>
    exact (Client.Subsides.refl c).steady
  | opened => exact (Client.Subsides.log _).steady
  | goodHeader => constructor <;> simp [Client.controlReceived]
  | drain => exact Client.Subsides.beginDrain.steady
  | stop =>
    split
    · exact (Client.Subsides.log _).steady
    · exact (Client.Subsides.refl c).steady
  | apply hMove | conclude hMove => exact steady_applyMove hMove
  | @queued _ _ frame _ _ hQueue | @overflow _ _ frame _ _ hQueue =>
    have hRest : c.Subsides (c.queueControlLocked env frame).2 := .queueControlLocked frame
    rw [hQueue] at hRest
    exact hRest.steady
  | remoteStop => exact Client.Subsides.requestStop.steady
  | unopened | signal | lastSignal => exact (Client.Subsides.signalSessionFailure _ _).steady
  | terminal | lastTerminal => exact (Client.Subsides.signalTerminalSessionFailure _ _).steady

theorem steady_controlWriterStep {pc pc' : ControlWriterPc} {input : WriterInput}
    (h : controlWriterStep env c pc input = some (pc', c')) : c.Steady c' := by
  cases controlWriterStep_branch h with
  | dequeue => constructor <;> simp [Client.controlTaken, Client.controlStamped]
  | heartbeat => constructor <;> simp [Client.controlStamped]
  | ended | lose => exact (Client.Subsides.refl c).steady
  | write => exact (Client.Subsides.log _).steady
  | gate =>
    unfold Client.openAttachGate
    split
    · constructor <;> simp
    · exact (Client.Subsides.refl c).steady
  | signal => exact (Client.Subsides.signalSessionFailure _ _).steady
  | terminal => exact (Client.Subsides.signalTerminalSessionFailure _ _).steady

theorem steady_workWriterStep {pc pc' : WorkWriterPc} {input : WriterInput}
    (h : workWriterStep env c pc input = some (pc', c')) : c.Steady c' := by
  have hRefl : c.Steady c := (Client.Subsides.refl c).steady
  cases workWriterStep_branch h with
  | attach => constructor <;> simp [Client.workStamped]
  | ready =>
    unfold Client.markReady
    split
    · rename_i hLive
      constructor <;> simp
      simp only [Client.pairLive, Bool.and_eq_true, Bool.not_eq_true'] at hLive
      exact fun _ => hLive.1.2
    · exact hRefl
  | dequeue => constructor <;> simp [Client.workTaken, Client.workStamped]
  | attached | write => exact (Client.Subsides.log _).steady
  | unattached | loseAttach | ended | lose => exact hRefl
  | signal => exact (Client.Subsides.signalSessionFailure _ _).steady

end AdapterRuntime.Model
