import AdapterRuntime.Proof.ReadyGate
import AdapterRuntime.Proof.PairLife

/-!
# AdapterRuntime — who opens the client

Two sections open the client for Work: the Work writer's, after its attach, and
the last one of a spec transaction. Every other step can only close it. A
cancellation, once requested, stays requested.

* `narrower_of_step` — a step that is neither of the two opens nothing.
* `requested_of_step` — cancellation flags are never taken back.
-/

namespace AdapterRuntime.Model

open AdapterRuntime.Lib

variable {env : Env} {c c' : Client} {s s' : System}

/-- The last section of a spec transaction takes effect in this step. -/
def System.finishesSpec (s : System) : Action → Bool
  | .controlReader (.tick _) =>
    match s.controlReader with
    | .applying fence (.finishing _) => s.client.pairLive fence
    | _ => false
  | _ => false

/-- The step opens the client for Work. -/
def System.opensWork (s : System) (a : Action) : Bool := s.marksReady a || s.finishesSpec a

/-- The step opens nothing that was closed. -/
structure Client.Narrower (c c' : Client) : Prop where
  accepting : c'.flags.acceptingWork = true → c.flags.acceptingWork = true
  ready : c'.flags.state = .ready → c.flags.state = .ready

namespace Client.Narrower

/-- Nothing opens by itself. -/
protected theorem refl (c : Client) : c.Narrower c := ⟨id, id⟩

theorem of_flags (h : c'.flags = c.flags) : c.Narrower c' := by
  constructor <;> simp [h]

theorem of_subsides (h : c.Subsides c') : c.Narrower c' := ⟨h.accepting, h.ready⟩

end Client.Narrower

-- ---------------------------------------------------------------------------
-- Opening
-- ---------------------------------------------------------------------------

theorem narrower_deactivateStep {reason : Text} {at_ : DeactivatePc} {next : Option DeactivatePc}
    (h : deactivateStep env reason c at_ = some (next, c')) : c.Narrower c' := by
  obtain hFlags | hFlags := flags_deactivateStep h
  · exact .of_flags hFlags
  · constructor <;> simp [hFlags]

/-- Of the transaction only the last section opens the client. -/
theorem ApplyMove.narrower {session : Text} {at_ : ApplyPc} {next : ApplyNext}
    (h : ApplyMove env session c at_ next c') :
    c.Narrower c' ∨ ∃ cand, at_ = .finishing cand ∧ c.session.sessionId = session ∧
      c.flags.sessionFailed = false ∧ c.flags.stopRequested = false := by
  cases h with
  | begin hBegin =>
    obtain ⟨-, -, -, -, rfl⟩ := beginApply_inr hBegin
    refine .inl ?_
    constructor <;> simp [Client.cancelAllWork]
  | deactivate hStep | deactivated hStep | readyDeactivate hStep | readyDeactivated hStep =>
    exact .inl (narrower_deactivateStep hStep)
  | commit hCommit =>
    unfold commitSpec at hCommit
    split at hCommit <;> cases hCommit
    refine .inl ?_
    constructor <;> simp [Client.log]
  | unwindStop | staleStop => exact .inl (.of_flags (flags_callStop _))
  | staleUnwound => exact .inl (.of_flags flags_callClear)
  | unwound =>
    split
    · exact .inl (.of_flags flags_callClear)
    · exact .inl (.refl c)
  | applyFailed => exact .inl (.of_flags flags_callClear)
  | failed | readyFailure =>
    refine .inl ?_
    constructor <;> simp [Client.unlocked, recordApplyFailure, recordReadyFailure]
  | @finish cand =>
    by_cases hGuard : c.session.sessionId = session ∧ ¬c.flags.sessionFailed ∧ ¬c.flags.stopRequested
    · exact .inr ⟨cand, rfl, hGuard.1, by simpa using hGuard.2.1, by simpa using hGuard.2.2⟩
    · unfold finishApply
      rw [if_neg hGuard]
      exact .inl (.of_flags rfl)
  | answer | stale | waited | lock | current | proceed | skipApply | applied | skipStart | started
  | startFailed | startedAll | outdated | skipReady | readied | readyFailed | readiedAll =>
    exact .inl (.of_flags rfl)

theorem ControlReaderMove.narrower {pc pc' : ControlReaderPc}
    (h : ControlReaderMove env c pc pc' c') :
    c.Narrower c' ∨ ∃ fence cand, pc = .applying fence (.finishing cand) ∧
      c.pairLive fence = true := by
  cases h with
  | calm _ hRest => exact .inl (.of_subsides hRest)
  | drain => exact .inl (.of_subsides .beginDrain)
  | refuse | receive => exact .inl (.refl c)
  | @apply fence _ _ _ hMove | @conclude fence _ _ _ hMove =>
    obtain hSame | ⟨cand, rfl, hSession, hLive, hRuns⟩ := hMove.narrower
    · exact .inl hSame
    · exact .inr ⟨fence, cand, rfl, by simp [Client.pairLive, hSession, hLive, hRuns]⟩
  | @queue _ result _ _ hQueue | @overflow _ result _ _ hQueue =>
    have hRest : c.Subsides (c.queueControlLocked env (.applyInstanceSpecResult result)).2 :=
      .queueControlLocked _
    rw [hQueue] at hRest
    exact .inl (.of_subsides hRest)
  | signal => exact .inl (.of_subsides (.signalSessionFailure _ _))

theorem ControlWriterMove.narrower {pc pc' : ControlWriterPc}
    (h : ControlWriterMove env c pc pc' c') : c.Narrower c' := by
  cases h with
  | exit | lose => exact .refl c
  | write => exact .of_flags rfl
  | dequeue _ hRest | heartbeat _ _ hRest => exact .of_subsides hRest
  | gate =>
    unfold Client.openAttachGate
    split
    · exact ⟨id, id⟩
    · exact .refl c
  | signal => exact .of_subsides (.signalSessionFailure _ _)
  | terminal => exact .of_subsides (.signalTerminalSessionFailure _ _)

theorem WorkWriterMove.narrower {pc pc' : WorkWriterPc} (h : WorkWriterMove env c pc pc' c') :
    c.Narrower c' ∨ ∃ fence, pc = .markReady fence ∧ c.pairLive fence = true ∧
      c.attachAllowed fence = true := by
  cases h with
  | calm _ hRest | attach _ _ _ hRest => exact .inl (.of_subsides hRest)
  | attached | write => exact .inl (.of_flags rfl)
  | @ready fence =>
    by_cases hGuard : (c.pairLive fence && c.attachAllowed fence) = true
    · rw [Bool.and_eq_true] at hGuard
      exact .inr ⟨fence, rfl, hGuard⟩
    · unfold Client.markReady
      rw [if_neg hGuard]
      exact .inl (.refl c)

theorem SupervisorTurn.narrower {pc pc' : SupervisorPc} (h : SupervisorTurn env c pc pc' c') :
    c.Narrower c' := by
  cases h with
  | calm _ hRest => exact ⟨hRest.accepting, hRest.ready⟩
  | replace | install | clear | endSession =>
    constructor <;> simp [Client.beginPairReplacement, Client.cancelAllWork,
      Client.installSession, Client.clearConnectionState, Client.endSupervision,
      Client.resetSession, Client.clearQueues, Client.clearSequences, Client.releaseAllWorkTokens]
  | prepare =>
    refine ⟨by simp [Client.prepareConnectionPair], fun hReady => ?_⟩
    simp only [Client.prepareConnectionPair] at hReady
    split at hReady <;> cases hReady
  | advance =>
    unfold Client.advanceEpoch
    split
    · exact ⟨id, id⟩
    · exact ⟨id, by simp⟩
  | deactivate hStep => exact narrower_deactivateStep hStep
  | deactivated hStep =>
    have hNarrower := narrower_deactivateStep hStep
    exact ⟨hNarrower.accepting, hNarrower.ready⟩
  | report => exact .of_flags rfl

/-- A step that neither marks the pair ready nor ends a transaction opens nothing. -/
theorem narrower_of_step {a : Action} (hStep : s.step env a = some s')
    (hOpens : s.opensWork a = false) : s.client.Narrower s'.client := by
  obtain ⟨hMarks, hFinishes⟩ := Bool.or_eq_false_iff.mp hOpens
  cases System.step_cases hStep with
  | worker hWorker =>
    have hRest := (workerStep_cases hWorker).subsides
    exact ⟨hRest.accepting, hRest.ready⟩
  | workReader hReader => exact .of_subsides (workReaderStep_cases hReader).subsides
  | @controlReader input _ _ _ hReader =>
    obtain hNarrower | ⟨fence, cand, hPc, hLive⟩ := (controlReaderStep_cases hReader).narrower
    · exact hNarrower
    · rw [hPc] at hReader
      cases input with
      | tick now => simp [System.finishesSpec, hPc, hLive] at hFinishes
      | opened | received | readFailed | callback | status => cases hReader
  | @workWriter input _ _ hWriter =>
    obtain hNarrower | ⟨fence, hPc, hLive, hOpen⟩ := (workWriterStep_cases hWriter).narrower
    · exact hNarrower
    · rw [hPc] at hWriter
      cases input with
      | tick => simp [System.marksReady, hPc, hLive, hOpen] at hMarks
      | heartbeat | wrote => cases hWriter
  | controlWriter hWriter => exact (controlWriterStep_cases hWriter).narrower
  | supervisor hSupervisor => exact (supervisorTurn_of_step hSupervisor).narrower
  | publishSource => exact .of_flags (congrArg Surround.flags surround_publishSource)
  | closeSource => exact .of_flags (congrArg Surround.flags surround_closeSource)
  | flags _ hRest => exact .of_subsides hRest
  | startThreads => exact ⟨id, by simp [Client.beginStart]⟩
  | joinSupervisor | joinWorkers => exact .refl _
  | stopDeactivate _ hDeactivate hNext =>
    have hNarrower := narrower_deactivateStep hDeactivate
    obtain ⟨_, -, -, rfl⟩ | ⟨-, -, rfl⟩ := hNext <;> exact ⟨hNarrower.accepting, hNarrower.ready⟩
  | stopReset =>
    constructor <;> simp [Client.endStop, Client.endSupervision, Client.resetSession,
      Client.releaseAllWorkTokens]

-- ---------------------------------------------------------------------------
-- Cancellation
-- ---------------------------------------------------------------------------

theorem requested_deactivateStep {reason : Text} {at_ : DeactivatePc} {next : Option DeactivatePc}
    (h : deactivateStep env reason c at_ = some (next, c')) {id : CancellationId}
    (hId : c.requested id = true) : c'.requested id = true := by
  obtain ⟨-, rfl, -⟩ | ⟨-, -, -, hRest⟩ := deactivateStep_cases h
  · exact steady_deactivate.requested id hId
  · exact hRest.requested id hId

/-- A cancellation that was requested stays requested. -/
theorem requested_of_step {a : Action} (hStep : s.step env a = some s') {id : CancellationId}
    (hId : s.client.requested id = true) : s'.client.requested id = true := by
  cases System.step_cases hStep with
  | worker hWorker => exact (workerStep_cases hWorker).subsides.requested id hId
  | workReader hReader => exact (workReaderStep_cases hReader).subsides.requested id hId
  | controlReader hReader => exact (steady_controlReaderStep hReader).requested id hId
  | workWriter hWriter => exact (steady_workWriterStep hWriter).requested id hId
  | controlWriter hWriter => exact (steady_controlWriterStep hWriter).requested id hId
  | supervisor hSupervisor =>
    have hTurn := supervisorTurn_of_step hSupervisor
    generalize s.supervisor = pc at hTurn
    cases hTurn with
    | calm _ hRest => exact hRest.requested id hId
    | replace => exact (Client.Subsides.cancelAllWork).requested id hId
    | advance =>
      unfold Client.advanceEpoch
      split <;> exact hId
    | deactivate hDeactivate => exact requested_deactivateStep hDeactivate hId
    | deactivated hDeactivate => exact requested_deactivateStep hDeactivate hId
    | install | prepare | clear | report | endSession => exact hId
  | publishSource => exact subsides_publishSource.requested id hId
  | closeSource => exact subsides_closeSource.requested id hId
  | flags _ hRest => exact hRest.requested id hId
  | startThreads | joinSupervisor | joinWorkers | stopReset => exact hId
  | stopDeactivate _ hDeactivate hNext =>
    have hNow := requested_deactivateStep hDeactivate hId
    obtain ⟨_, -, -, rfl⟩ | ⟨-, -, rfl⟩ := hNext <;> exact hNow

end AdapterRuntime.Model
