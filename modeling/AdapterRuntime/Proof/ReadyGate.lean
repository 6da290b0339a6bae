import AdapterRuntime.Proof.Revisions
import AdapterRuntime.Proof.Identity
import AdapterRuntime.Model.Deployment

/-!
# AdapterRuntime — the gate for Work

`accepting_work_` is set in two places: by the last section of
`ApplyInstanceSpec`, and by the Work writer after it has written `WorkAttach`.
The first is part of the transaction; the second checks the pair but not the
spec, so it can open the client while a further instance spec is being applied
or after one has failed. `System.readiesSafely` is the check the Work writer
does not make.

* `ready_gate` — in runs that pass the check, the client accepts Work only with
  a committed spec whose `ready` callbacks have all returned, and never during a
  lifecycle transaction.
-/

namespace AdapterRuntime.Model

open AdapterRuntime.Lib

variable {env : Env} {c c' : Client} {s s' : System}

-- ---------------------------------------------------------------------------
-- Transactions
-- ---------------------------------------------------------------------------

/-- The transaction has left its first section. -/
def ApplyPc.begun : ApplyPc → Bool
  | .begin _ => false
  | _ => true

/-- A lifecycle transaction is in progress: the application of a spec, or a
deactivation by the supervisor or by `Stop`. -/
def System.inTransaction (s : System) : Bool :=
  (s.controlReader.transaction?.any fun at_ => at_.begun) ||
    s.supervisor.deactivation?.isSome || s.stopper.deactivation?.isSome

/-- The Work writer is about to open the client for Work. -/
def System.marksReady (s : System) : Action → Bool
  | .workWriter .tick =>
    match s.workWriter with
    | .markReady fence => s.client.pairLive fence && s.client.attachAllowed fence
    | _ => false
  | _ => false

/-- The Work writer opens the client for Work only with a committed spec and
outside any transaction. -/
def System.readiesSafely (s : System) (a : Action) : Bool :=
  !s.marksReady a || (!s.inTransaction && s.client.spec.specRevision != 0)

theorem System.inTransaction_iff : s.inTransaction = false ↔
    (∀ at_, s.controlReader.transaction? = some at_ → at_.begun = false) ∧
      s.supervisor.deactivation? = none ∧ s.stopper.deactivation? = none := by
  unfold System.inTransaction
  cases s.controlReader.transaction? <;> cases s.supervisor.deactivation? <;>
    cases s.stopper.deactivation? <;> simp

/-- Inside a pair only the Control reader runs transactions. -/
theorem Threads.inTransaction (h : Threads s) (hPhase : s.supervisor.phase ≠ .outside) :
    s.inTransaction = false ↔
      ∀ at_, s.controlReader.transaction? = some at_ → at_.begun = false := by
  obtain ⟨hDown, -, hStarted⟩ := SupervisorPc.pair_running hPhase
  have hStop := (h.stopper_waits hStarted).1
  rw [System.inTransaction_iff]
  exact ⟨And.left, fun hReader => ⟨hReader, hDown, hStop⟩⟩

-- ---------------------------------------------------------------------------
-- Where Work is accepted
-- ---------------------------------------------------------------------------

theorem accepting_deactivateStep {reason : Text} {at_ : DeactivatePc} {next : Option DeactivatePc}
    (h : deactivateStep env reason c at_ = some (next, c'))
    (hAccepting : c'.flags.acceptingWork = true) : c.flags.acceptingWork = true := by
  obtain ⟨-, rfl, -⟩ | ⟨-, -, -, hRest⟩ := deactivateStep_cases h
  · cases hAccepting
  · exact hRest.accepting hAccepting

/-- Only the last section of the transaction opens the client for Work; the
first one closes it. -/
theorem ApplyMove.accepting {session : Text} {at_ : ApplyPc} {next : ApplyNext}
    (h : ApplyMove env session c at_ next c') (hAccepting : c'.flags.acceptingWork = true) :
    (c.flags.acceptingWork = true ∧ ∀ pc, next = .inl pc → at_.begun = true) ∨
      ∃ cand result, at_ = .finishing cand ∧ next = .inr result := by
  cases h with
  | answer => exact .inl ⟨hAccepting, by simp⟩
  | begin hBegin =>
    obtain ⟨-, -, -, -, rfl⟩ := beginApply_inr hBegin
    cases hAccepting
  | deactivate hStep | deactivated hStep | readyDeactivate hStep | readyDeactivated hStep =>
    exact .inl ⟨accepting_deactivateStep hStep hAccepting, fun _ _ => rfl⟩
  | commit hCommit =>
    unfold commitSpec at hCommit
    split at hCommit <;> cases hCommit
    cases hAccepting
  | readyFailure => cases hAccepting
  | finish => exact .inr ⟨_, _, rfl, rfl⟩
  | unwindStop | staleStop =>
    exact .inl ⟨(Client.Subsides.callStop _ _ _).accepting hAccepting, fun _ _ => rfl⟩
  | staleUnwound =>
    exact .inl ⟨(Client.Subsides.callClear _ env).accepting hAccepting, fun _ _ => rfl⟩
  | unwound =>
    refine .inl ⟨?_, fun _ _ => rfl⟩
    split at hAccepting
    · exact (Client.Subsides.callClear _ env).accepting hAccepting
    · exact hAccepting
  | @applyFailed cand _ _ =>
    refine .inl ⟨?_, fun _ _ => rfl⟩
    exact (Client.Subsides.trans (.log (.applyCalled cand.spec false))
      (.callClear _ env)).accepting hAccepting
  | stale hPc =>
    refine .inl ⟨hAccepting, by simp⟩
  | waited | lock | current | proceed | skipApply | applied | skipStart | started
  | startFailed | startedAll | failed | outdated | skipReady | readied | readyFailed
  | readiedAll => exact .inl ⟨hAccepting, fun _ _ => rfl⟩

/-- The client accepts Work only with a committed spec and outside transactions. -/
structure Gate (s : System) : Prop where
  accepting : s.client.flags.acceptingWork = true →
    s.client.spec.specRevision ≠ 0 ∧ s.inTransaction = false
  closed : s.supervisor.phase.closed = true → s.client.flags.acceptingWork = false

theorem Gate.of_closed (h : s.client.flags.acceptingWork = false) : Gate s :=
  ⟨by simp [h], fun _ => h⟩

/-- The Control reader keeps the gate. -/
theorem Gate.controlReader (h : Gate s) (hStanding : Standing env s) (hThreads : Threads s)
    (hThreads' : Threads s')
    (hMove : ControlReaderMove env s.client s.controlReader s'.controlReader s'.client)
    (hPhase : s.supervisor.phase.control = true) (hSupervisor : s'.supervisor = s.supervisor) :
    Gate s' := by
  have hRunning := phase_of_control hPhase
  have hRunning' : s'.supervisor.phase ≠ .outside := by
    rw [hSupervisor]
    exact hRunning
  have hStill := hThreads.inTransaction hRunning
  have hStill' := hThreads'.inTransaction hRunning'
  refine ⟨?_, ?_⟩
  · intro hAccepting
    rw [hStill']
    have hSpec := hStanding.spec
    -- a step that keeps the spec and leaves no transaction behind
    have hKept : s.client.flags.acceptingWork = true →
        s'.client.spec.specRevision = s.client.spec.specRevision →
        (∀ at_, s'.controlReader.transaction? = some at_ → at_.begun = false) →
        s'.client.spec.specRevision ≠ 0 ∧
          ∀ at_, s'.controlReader.transaction? = some at_ → at_.begun = false := by
      intro hOld hRevision hReader
      rw [hRevision]
      exact ⟨(h.accepting hOld).1, hReader⟩
    generalize hPc : s.controlReader = pc at hMove hSpec hStill
    generalize hPc' : s'.controlReader = pc' at hMove hStill' hKept ⊢
    generalize hClient : s'.client = c' at hMove hAccepting hKept ⊢
    cases hMove with
    -- a reader outside a transaction
    | calm hHelm hRest _ hNone =>
      exact hKept (hRest.accepting hAccepting) (by rw [hRest.spec]) (by simp [hNone])
    | drain =>
      have hRest : s.client.Subsides (s.client.beginDrain env) := .beginDrain
      exact hKept (hRest.accepting hAccepting) (by rw [hRest.spec])
        (by simp [ControlReaderPc.transaction?])
    | refuse => exact hKept hAccepting rfl (by simp [ControlReaderPc.transaction?, queueSpecResult])
    -- a new transaction has not begun to change anything
    | receive => exact hKept hAccepting rfl (by simp [ControlReaderPc.transaction?, ApplyPc.begun])
    | @apply fence at_ next _ hApply =>
      obtain ⟨hOld, hBegun⟩ | ⟨_, _, -, hNext⟩ := hApply.accepting hAccepting
      · -- inside the transaction the client was closed
        have hNot := hStill.mp (h.accepting hOld).2 at_ rfl
        rw [hBegun next rfl] at hNot
        cases hNot
      · cases hNext
    | @conclude fence at_ result _ hApply =>
      have hReader : ∀ at_, (queueSpecResult fence result).transaction? = some at_ →
          at_.begun = false := by simp [ControlReaderPc.transaction?, queueSpecResult]
      -- only the last section of a transaction opens the gate
      obtain ⟨hOld, -⟩ | ⟨cand, _, rfl, -⟩ := hApply.accepting hAccepting
      · have hNot := hStill.mp (h.accepting hOld).2 at_ rfl
        cases hApply with
        | answer => exact hKept hAccepting rfl hReader
        | stale hAt => obtain rfl | rfl := hAt <;> cases hNot
        | failed | staleUnwound | readyFailure | finish => cases hNot
      · refine ⟨?_, hReader⟩
        -- and it does so for the spec it has committed
        obtain ⟨-, -, hForce, -⟩ := hSpec
        cases hApply with
        | stale hAt => obtain hAt | hAt := hAt <;> cases hAt
        | finish =>
          have hAlike := (alike_finishApply s.client fence.sessionId
            (grantedStatuses env cand.spec)).1
          rw [spec_unlocked, hAlike.revision]
          exact hForce.revision_ne
    | @queue _ result _ _ hQueue | @overflow _ result _ _ hQueue =>
      have hRest : s.client.Subsides (s.client.queueControlLocked env
          (.applyInstanceSpecResult result)).2 := .queueControlLocked _
      rw [hQueue] at hRest
      exact hKept (hRest.accepting hAccepting) (by rw [hRest.spec])
        (by simp [ControlReaderPc.transaction?])
    | signal =>
      have hRest := Client.Subsides.signalSessionFailure (c := s.client)
      exact hKept ((hRest _ _).accepting hAccepting) (by rw [(hRest _ _).spec])
        (by simp [ControlReaderPc.transaction?])
  · -- the phases in which the gate is closed have no Control reader
    intro hClosed
    rw [hSupervisor] at hClosed
    cases hP : s.supervisor.phase <;> simp_all [PairPhase.closed, PairPhase.control]

theorem accepting_controlWriterMove {pc pc' : ControlWriterPc}
    (h : ControlWriterMove env c pc pc' c') (hAccepting : c'.flags.acceptingWork = true) :
    c.flags.acceptingWork = true := by
  cases h with
  | exit | write | lose => exact hAccepting
  | dequeue _ hRest | heartbeat _ _ hRest => exact hRest.accepting hAccepting
  | gate =>
    unfold Client.openAttachGate at hAccepting
    split at hAccepting <;> exact hAccepting
  | signal => exact (Client.Subsides.signalSessionFailure _ _).accepting hAccepting
  | terminal => exact (Client.Subsides.signalTerminalSessionFailure _ _).accepting hAccepting

/-- Only the Work writer moves its own program counter past the attach. -/
theorem System.action_of_markReady {a : Action} {fence : SessionFence}
    (hStep : s.step env a = some s') (hPc : s.workWriter = .markReady fence)
    (hPc' : s'.workWriter = .loop fence) : a = .workWriter .tick := by
  obtain ⟨input, rfl, hWriter⟩ :=
    System.workWriter_of_ne hStep (by simp [hPc, hPc']) (by simp [hPc'])
  rw [hPc] at hWriter
  cases input with
  | tick => rfl
  | heartbeat | wrote => cases hWriter

/-- A run that passes the check opens the client for Work with a committed spec. -/
theorem System.readiesSafely_ready {a : Action} {fence : SessionFence}
    (hSafe : s.readiesSafely a = true) (hStep : s.step env a = some s')
    (hPc : s.workWriter = .markReady fence) (hPc' : s'.workWriter = .loop fence)
    (hAccepting : (s.client.markReady fence).flags.acceptingWork = true) :
    s.client.flags.acceptingWork = true ∨
      (s.inTransaction = false ∧ s.client.spec.specRevision ≠ 0) := by
  obtain rfl := System.action_of_markReady hStep hPc hPc'
  unfold Client.markReady at hAccepting
  split at hAccepting
  · rename_i hFires
    rw [System.readiesSafely, System.marksReady, hPc] at hSafe
    simp only [hFires, Bool.not_true, Bool.false_or, Bool.and_eq_true, Bool.not_eq_true',
      bne_iff_ne, ne_eq] at hSafe
    exact .inr hSafe
  · exact .inl hAccepting

/-- Threads that leave the transactions alone keep the gate where they keep the
client closed. -/
theorem Gate.of_still (h : Gate s) (hReader : s'.controlReader = s.controlReader)
    (hSupervisor : s'.supervisor = s.supervisor) (hStopper : s'.stopper = s.stopper)
    (hSpec : s'.client.spec = s.client.spec)
    (hAccepting : s'.client.flags.acceptingWork = true → s.client.flags.acceptingWork = true) :
    Gate s' := by
  have hStill : s'.inTransaction = s.inTransaction := by
    unfold System.inTransaction
    rw [hReader, hSupervisor, hStopper]
  refine ⟨fun hNow => ?_, fun hClosed => ?_⟩
  · rw [hStill, hSpec]
    exact h.accepting (hAccepting hNow)
  · rw [hSupervisor] at hClosed
    by_contra hNot
    have hWas := hAccepting (by simpa using hNot)
    rw [h.closed hClosed] at hWas
    cases hWas

/-- The Work writer keeps the gate in runs that pass the check. -/
theorem Gate.workWriter {a : Action} (h : Gate s) (hSafe : s.readiesSafely a = true)
    (hStep : s.step env a = some s')
    (hMove : WorkWriterMove env s.client s.workWriter s'.workWriter s'.client)
    (hPhase : s.supervisor.phase.work = true) (hReader : s'.controlReader = s.controlReader)
    (hSupervisor : s'.supervisor = s.supervisor) (hStopper : s'.stopper = s.stopper) :
    Gate s' := by
  have hSpec := spec_workWriterMove hMove
  by_cases hWas : s'.client.flags.acceptingWork = true → s.client.flags.acceptingWork = true
  · exact h.of_still hReader hSupervisor hStopper hSpec hWas
  · rw [Classical.not_imp] at hWas
    obtain ⟨hNow, hClosed⟩ := hWas
    generalize hPc : s.workWriter = pc at hMove
    generalize hPc' : s'.workWriter = pc' at hMove
    generalize hClient : s'.client = c' at hMove hNow hSpec
    cases hMove with
    | calm _ hRest => exact absurd (hRest.accepting hNow) hClosed
    | attach _ _ _ hRest => exact absurd (hRest.accepting hNow) hClosed
    | attached | write => exact absurd hNow hClosed
    | ready =>
      obtain hOld | ⟨hOutside, hRevision⟩ := System.readiesSafely_ready hSafe hStep hPc hPc' hNow
      · exact absurd hOld hClosed
      · refine ⟨fun _ => ⟨?_, ?_⟩, fun hPair => ?_⟩
        · rw [hClient, hSpec]
          exact hRevision
        · unfold System.inTransaction at hOutside ⊢
          rw [hReader, hSupervisor, hStopper]
          exact hOutside
        · rw [hSupervisor] at hPair
          cases hP : s.supervisor.phase <;> simp_all [PairPhase.closed, PairPhase.work]

/-- The supervisor closes the client before it ends a pair. -/
theorem Gate.supervisorTurn (h : Gate s)
    (hTurn : SupervisorTurn env s.client s.supervisor s'.supervisor s'.client)
    (hReader : s'.controlReader = s.controlReader ∨
      (s.supervisor.phase = .outside ∧ ∃ fence, s'.controlReader = .opening fence))
    (hStopper : s'.stopper = s.stopper) : Gate s' := by
  by_cases hNow : s'.client.flags.acceptingWork = true
  swap
  · -- a gate that is closed needs no argument
    exact .of_closed (by simpa using hNow)
  -- the client was open, so the supervisor was waiting on a pair
  have hOpen : s.supervisor.phase.closed = false → s.client.flags.acceptingWork = true →
      s'.client.spec = s.client.spec → s'.supervisor.phase.closed = false → Gate s' := by
    intro hPair hWas hSpec hPair'
    obtain ⟨hRevision, hStill⟩ := h.accepting hWas
    refine ⟨fun _ => ⟨by rw [hSpec]; exact hRevision, ?_⟩, fun hClosed => ?_⟩
    · rw [System.inTransaction_iff] at hStill ⊢
      refine ⟨?_, ?_, by rw [hStopper]; exact hStill.2.2⟩
      · obtain hEq | ⟨hOutside, -⟩ := hReader
        · rw [hEq]
          exact hStill.1
        · rw [hOutside] at hPair
          cases hPair
      · refine (SupervisorPc.pair_running ?_).1
        intro hOutside
        rw [hOutside] at hPair'
        cases hPair'
    · rw [hPair'] at hClosed
      cases hClosed
  have hOutside : s.client.flags.acceptingWork = true → s.supervisor.phase.closed = false := by
    intro hWas
    by_contra hClosed
    rw [h.closed (by simpa using hClosed)] at hWas
    cases hWas
  generalize hPc : s.supervisor = pc at hTurn
  generalize hPc' : s'.supervisor = pc' at hTurn
  generalize hClient : s'.client = c' at hTurn hNow
  cases hTurn with
  | calm hHelm hRest _ _ _ _ _ _ hClosed =>
    -- the supervisor looks on
    have hWas := hRest.accepting hNow
    have hPair := hOutside hWas
    refine hOpen hPair hWas (by rw [hClient]; exact spec_of_helm hHelm) ?_
    by_contra hNot
    rw [hPc'] at hNot
    have hEnds := hClosed (by simpa using hNot)
    rw [← hPc, hPair] at hEnds
    cases hEnds
  -- the sections that close the gate, or find it closed
  | replace | install | prepare | clear | endSession => cases hNow
  | advance =>
    -- the points outside a pair have it closed
    have hWas : s.client.flags.acceptingWork = true := by
      unfold Client.advanceEpoch at hNow
      split at hNow <;> exact hNow
    have hPair := hOutside hWas
    rw [hPc] at hPair
    cases hPair
  | deactivate hStep | deactivated hStep =>
    have hPair := hOutside (accepting_deactivateStep hStep hNow)
    rw [hPc] at hPair
    cases hPair
  | report =>
    have hPair := hOutside hNow
    rw [hPc] at hPair
    cases hPair

/-- Every step of a run that passes the check keeps the gate. -/
theorem Gate.step {a : Action} (h : Gate s) (hReach : (machine env).Reachable s)
    (hSafe : s.readiesSafely a = true) (hStep : (machine env).step s a = some s') : Gate s' := by
  have hShape := shape_of_reachable hReach
  have hShape' := shape_of_reachable (hReach.step hStep)
  -- no pair, and so no Work
  have hQuiet : s.supervisor.phase = .outside →
      (s'.client.flags.acceptingWork = true → s.client.flags.acceptingWork = true) → Gate s' := by
    intro hOutside hWas
    have hClosed := h.closed (by rw [hOutside]; rfl)
    refine .of_closed ?_
    by_contra hNot
    rw [hWas (by simpa using hNot)] at hClosed
    cases hClosed
  cases controlMove_of_reachable hReach hStep with
  | calm hHelm hRest hReader _ _ hSupervisor hStopper =>
    obtain hEq | ⟨-, hEq⟩ | ⟨hLock, -⟩ := hStopper
    · exact h.of_still hReader hSupervisor hEq (spec_of_helm hHelm) hRest.accepting
    · refine ⟨fun hNow => ?_, fun hClosed => ?_⟩
      · obtain ⟨hRevision, hStill⟩ := h.accepting (hRest.accepting hNow)
        rw [System.inTransaction_iff] at hStill ⊢
        rw [spec_of_helm hHelm, hReader, hSupervisor, hEq]
        exact ⟨hRevision, hStill.1, hStill.2.1, rfl⟩
      · rw [hSupervisor] at hClosed
        by_contra hNot
        have hWas : s.client.flags.acceptingWork = true := hRest.accepting (by simpa using hNot)
        rw [h.closed hClosed] at hWas
        cases hWas
    · have hPc : s.supervisor = .notStarted := hShape.threads.stopper (by rw [hLock]; rfl)
      exact hQuiet (by rw [hPc]; rfl) hRest.accepting
  | controlReader hMove _ hPhase _ hSupervisor =>
    exact h.controlReader (standing_of_reachable hReach) hShape.threads hShape'.threads hMove hPhase
      hSupervisor
  | controlWriter hMove _ hReader _ hSupervisor hStopper =>
    exact h.of_still hReader hSupervisor hStopper (spec_controlWriterMove hMove)
      (accepting_controlWriterMove hMove)
  | workWriter hMove hPhase hReader _ hSupervisor hStopper =>
    exact h.workWriter hSafe hStep hMove hPhase hReader hSupervisor hStopper
  | supervisor hTurn hReader _ _ hStopper => exact h.supervisorTurn hTurn hReader hStopper
  | startThreads hStopped hClient =>
    exact hQuiet (by rw [hStopped]; rfl) (by rw [hClient]; exact id)
  | join hClient _ _ _ _ hOver =>
    refine hQuiet ?_ (by rw [hClient]; exact id)
    obtain hPc | hPc := hOver <;> rw [hPc] <;> rfl
  | stopDeactivate hStopper hDeactivate =>
    have hPc : s.supervisor = .notStarted := hShape.threads.stopper (by rw [hStopper]; rfl)
    exact hQuiet (by rw [hPc]; rfl) (accepting_deactivateStep hDeactivate)
  | stopDeactivated hStopper hDeactivate hClient =>
    have hPc : s.supervisor = .notStarted := hShape.threads.stopper (by rw [hStopper]; rfl)
    refine hQuiet (by rw [hPc]; rfl) fun hNow => accepting_deactivateStep hDeactivate ?_
    rw [hClient] at hNow
    exact hNow
  | stopReset hStopper hClient => exact .of_closed (by rw [hClient]; rfl)

/-- Every run that makes ready safely passes the gate. -/
theorem gate_of_reaches
    (h : (machine env).Reaches (fun s a => s.readiesSafely a = true) s) : Gate s := by
  refine Machine.Reaches.invariant (.of_closed rfl) ?_ h
  intro s a s' hReach hGate hSafe hStep
  exact hGate.step hReach.reachable hSafe hStep

-- ---------------------------------------------------------------------------
-- Active capabilities
-- ---------------------------------------------------------------------------

/-- The entries of the `active` map after the grant loop: the ones that were
there, and the grants of new capabilities. -/
theorem lookup_activeCapabilities {entries : List (EnabledCapability × Nat)}
    (hDistinct : (entries.map (·.1.capabilityId)).Nodup) {active : Store Text ActiveCapability}
    (hFresh : ∀ e ∈ entries, active.lookup e.1.capabilityId = none) (id : Text)
    (capability : ActiveCapability) :
    (entries.foldl (fun active entry =>
      if (active.lookup entry.1.capabilityId).isSome then active
      else active.insert entry.1.capabilityId ⟨entry.2, entry.1⟩) active).lookup id =
        some capability ↔
      active.lookup id = some capability ∨
        ∃ e ∈ entries, e.1.capabilityId = id ∧ capability = ⟨e.2, e.1⟩ := by
  induction entries generalizing active with
  | nil => simp
  | cons entry rest ih =>
    rw [List.map_cons, List.nodup_cons] at hDistinct
    have hNew := hFresh entry List.mem_cons_self
    have hRest : ∀ e ∈ rest, (active.insert entry.1.capabilityId
        ⟨entry.2, entry.1⟩).lookup e.1.capabilityId = none := by
      intro e he
      have hNe : e.1.capabilityId ≠ entry.1.capabilityId := fun hEq =>
        hDistinct.1 (List.mem_map.mpr ⟨e, he, hEq⟩)
      rw [Store.lookup_insert_ite, if_neg hNe]
      exact hFresh e (List.mem_cons_of_mem _ he)
    rw [List.foldl_cons, if_neg (by simp [hNew]), ih hDistinct.2 hRest, Store.lookup_insert_ite]
    by_cases hId : id = entry.1.capabilityId
    · -- the new entry is the only one of its capability
      subst hId
      simp [hNew, eq_comm]
    · simp [hId, Ne.symm hId]

/-- The capabilities of a committed spec are exactly its grants. -/
theorem SpecState.InForce.lookup {spec : SpecState} {cand : Candidate}
    (h : spec.InForce env cand) (id : Text) (capability : ActiveCapability) :
    spec.activeCapabilities.lookup id = some capability ↔
      capability.grant ∈ spec.activeSpec.capabilities ∧ capability.grant.capabilityId = id ∧
        env.findBindingIndex capability.grant = some capability.bindingIndex := by
  have hGrants := h.valid.grants
  have hFirst : (cand.spec.capabilities.zip cand.bindings).map (·.1) = cand.spec.capabilities :=
    List.map_fst_zip (le_of_eq hGrants.length.symm)
  have hDistinct : ((cand.spec.capabilities.zip cand.bindings).map
      (·.1.capabilityId)).Nodup := by
    have hMap := hGrants.distinct
    rw [← hFirst, List.map_map] at hMap
    exact hMap
  rw [h.capabilities, h.activeSpec, activeCapabilitiesOf,
    lookup_activeCapabilities hDistinct (by simp)]
  constructor
  · rintro (hEmpty | ⟨e, he, rfl, rfl⟩)
    · simp at hEmpty
    · exact ⟨(List.of_mem_zip he).1, rfl, hGrants.bound e he⟩
  · rintro ⟨hMem, rfl, hBinding⟩
    rw [← hFirst] at hMem
    obtain ⟨e, he, hEq⟩ := List.mem_map.mp hMem
    refine .inr ⟨e, he, by rw [hEq], ?_⟩
    have hBound := hGrants.bound e he
    rw [hEq, hBinding, Option.some.injEq] at hBound
    rw [hEq, ← hBound]

-- ---------------------------------------------------------------------------
-- The ready gate
-- ---------------------------------------------------------------------------

/-- The step admits Work: it queues a job, or a worker passes the validation
that leads to the handler. -/
def System.Admits (s s' : System) : Prop :=
  (∃ job, s'.Holds job ∧ ¬s.Holds job) ∨
    ∃ i job binding, s.workers i = .validate job ∧ s'.workers i = .handle job binding

/-- What `ValidateWorkContextLocked` has checked of the client and the clock. -/
theorem validateWorkContext_ok {now : Int} {context : WorkContext} {kind : DispatchKind}
    {result : Nat × CapabilityEndpointContract}
    (h : validateWorkContext env c now context kind = .ok result) :
    c.flags.acceptingWork = true ∧ c.flags.state = .ready ∧ c.flags.sessionFailed = false ∧
      context.specRevision = c.spec.specRevision ∧
      (0 < context.deadline.deadlineUnixNanos → now < context.deadline.deadlineUnixNanos) := by
  unfold validateWorkContext at h
  split at h
  · cases h
  · rename_i hReady
    split at h
    · cases h
    · rename_i hRevision
      split at h
      · cases h
      · split at h
        · cases h
        · split at h
          · cases h
          · split at h
            · cases h
            · split at h
              · cases h
              · rename_i hDeadline
                simp only [Bool.or_eq_true, Bool.not_eq_true', bne_iff_ne, ne_eq, not_or,
                  Bool.not_eq_false, not_not, Bool.not_eq_true] at hReady
                simp only [bne_iff_ne, ne_eq, not_not] at hRevision
                simp only [Bool.and_eq_true, decide_eq_true_eq, not_and, not_le] at hDeadline
                exact ⟨hReady.1.1, hReady.1.2, hReady.2, hRevision, hDeadline⟩

/-- Work is admitted only by a client that accepts it. -/
theorem System.Admits.accepting {a : Action} (h : s.Admits s') (hShape : Shape s)
    (hStep : s.step env a = some s') : s.client.flags.acceptingWork = true := by
  obtain ⟨job, hHeld, hNew⟩ | ⟨i, job, binding, hPc, hPc'⟩ := h
  · obtain hOld | ⟨request, reservation, hAdmits, -⟩ | ⟨request, hAdmits, -⟩ :=
      (planeMove_of_step hShape hStep).holds hHeld
    · exact absurd hOld hNew
    · exact (dispatchVerdict_accept hAdmits.verdict).2.2.1
    · obtain ⟨now, index, endpoint, bytes, hVerdict, -⟩ := hAdmits.verdict
      obtain ⟨-, -, -, hFresh⟩ := sourceOpenVerdict_fresh hVerdict (by simp) (by simp)
      exact (validateWorkContext_ok (freshSourceVerdict_accept hFresh).1).1
  · have hSame : s'.workers i ≠ s.workers i := by simp [hPc, hPc']
    cases System.step_cases hStep with
    | @worker j input pc' c' hWorker =>
      by_cases hi : i = j
      · subst hi
        simp only [System.setWorker, if_pos] at hPc'
        rw [hPc, hPc'] at hWorker
        generalize hNext : WorkerPc.handle job binding = next at hWorker
        cases workerStep_branch hWorker with
        | valid hContext => exact (validateWorkContext_ok hContext).1
        | invalid => cases hNext
        | commit hCommits | uncommitted hCommits => cases hCommits
      · simp [System.setWorker, hi] at hSame
    | @supervisor _ pc' => exact absurd (congrFun (workers_spawn (s := s) pc') i) hSame
    | startThreads =>
      simp only at hPc'
      split at hPc' <;> cases hPc'
    | joinWorkers => cases hPc'
    | workReader | controlReader | workWriter | controlWriter | publishSource | closeSource | flags
    | joinSupervisor | stopDeactivate | stopReset => exact absurd rfl hSame

/-- What holds of a client that is ready for Work. -/
structure ReadyForWork (env : Env) (s : System) : Prop where
  revision : s.client.spec.specRevision ≠ 0
  active : s.client.spec.specRevision = s.client.spec.activeSpec.revision
  digest : s.client.spec.specDigest ≠ []
  granted : ∀ id capability, s.client.spec.activeCapabilities.lookup id = some capability ↔
    capability.grant ∈ s.client.spec.activeSpec.capabilities ∧
      capability.grant.capabilityId = id ∧
      env.findBindingIndex capability.grant = some capability.bindingIndex
  returned : ∀ grant ∈ s.client.spec.activeSpec.capabilities, ∀ binding,
    env.findBindingIndex grant = some binding →
    env.hasCallback CapabilityCallbacks.ready binding = true →
    binding ∈ s.client.spec.readyReturned
  idle : s.inTransaction = false

/-- The spec of the transaction is committed, and its `ready` callbacks are
under way. -/
def ApplyPc.readies : ApplyPc → Bool
  | .readying _ _ | .finishing _ | .readyDeactivating _ _ .locked => true
  | _ => false

/-- A transaction that has not begun makes nothing ready. -/
theorem ApplyPc.readies_of_not_begun {at_ : ApplyPc} (h : at_.begun = false) :
    at_.readies = false := by
  cases at_ <;> first | rfl | cases h

/-- A committed spec outside the stretch of its own `ready` callbacks is complete. -/
theorem SpecState.Stands.complete {spec : SpecState} {at? : Option ApplyPc}
    (h : spec.Stands env at?) (hAt : at?.any ApplyPc.readies = false)
    (hRevision : spec.specRevision ≠ 0) :
    ∃ cand, spec.InForce env cand ∧ spec.Ready env cand.bindings := by
  have hSettled : spec.Settled env →
      ∃ cand, spec.InForce env cand ∧ spec.Ready env cand.bindings := by
    rintro (hVacant | hComplete)
    · exact absurd hVacant.revision hRevision
    · exact hComplete
  cases at? with
  | none => exact hSettled h
  | some at_ =>
    cases at_ with
    | begin => exact hSettled h.2
    | waiting | lock | checkSession | checkStop => exact hSettled h.2.2
    | deactivating _ at' =>
      cases at' with
      | locked => exact hSettled h.2.2
      | waiting | stopping | clearing | notifying => exact absurd h.2.2.revision hRevision
    | applying | unwinding | failing | staleUnwinding | readyFailing =>
      exact absurd h.2.2.revision hRevision
    | starting | committing => exact absurd h.2.2.1.revision hRevision
    | readyDeactivating _ _ at' =>
      cases at' with
      | locked => cases hAt
      | waiting | stopping | clearing | notifying => exact absurd h.2.2.revision hRevision
    | readying | finishing => cases hAt

/-- The `ready` callbacks of a complete spec have returned. -/
theorem SpecState.InForce.returned {spec : SpecState} {cand : Candidate}
    (h : spec.InForce env cand) (hReady : spec.Ready env cand.bindings)
    {grant : EnabledCapability} (hGrant : grant ∈ spec.activeSpec.capabilities) {binding : Nat}
    (hBinding : env.findBindingIndex grant = some binding)
    (hBound : env.hasCallback CapabilityCallbacks.ready binding = true) :
    binding ∈ spec.readyReturned := by
  have hGrants := h.valid.grants
  rw [h.activeSpec] at hGrant
  obtain ⟨k, hk, rfl⟩ := List.mem_iff_getElem.mp hGrant
  have hk' : k < cand.bindings.length := by
    rw [hGrants.length]
    exact hk
  have hZip : (cand.spec.capabilities[k], cand.bindings[k]) ∈
      cand.spec.capabilities.zip cand.bindings :=
    List.mem_iff_getElem.mpr ⟨k, by simp [hk, hk'], by simp⟩
  have hEq := hGrants.bound _ hZip
  rw [hBinding, Option.some.injEq] at hEq
  subst hEq
  exact hReady _ (List.getElem_mem hk') hBound

/-- Outside transactions a committed spec is complete. -/
theorem Gate.settled (h : Gate s) (hStanding : Standing env s)
    (hAccepting : s.client.flags.acceptingWork = true) :
    ∃ cand, s.client.spec.InForce env cand ∧ s.client.spec.Ready env cand.bindings := by
  obtain ⟨hRevision, hIdle⟩ := h.accepting hAccepting
  have hReader := (System.inTransaction_iff.mp hIdle).1
  refine hStanding.spec.complete ?_ hRevision
  cases hAt : s.controlReader.transaction? with
  | none => rfl
  | some at_ => exact ApplyPc.readies_of_not_begun (hReader at_ hAt)

/-- **The ready gate.** In every run in which the Work writer opens the client
only with a committed spec and outside transactions: a client that accepts Work
has a committed spec, its capabilities are the grants of that spec, their
`ready` callbacks have all returned and no transaction is in progress; and no
Work is admitted during a transaction. -/
theorem ready_gate (h : (machine env).Reaches (fun s a => s.readiesSafely a = true) s) :
    (s.client.flags.acceptingWork = true → s.client.flags.state = .ready →
      ReadyForWork env s) ∧
    ∀ a s', (machine env).step s a = some s' → s.Admits s' → s.inTransaction = false := by
  have hGate := gate_of_reaches h
  have hStanding := standing_of_reachable h.reachable
  refine ⟨fun hAccepting _ => ?_, fun a s' hStep hAdmits => ?_⟩
  · obtain ⟨hRevision, hIdle⟩ := hGate.accepting hAccepting
    obtain ⟨cand, hForce, hReady⟩ := hGate.settled hStanding hAccepting
    refine ⟨hRevision, hStanding.revision_of_active hRevision, ?_, hForce.lookup, ?_, hIdle⟩
    · rw [hForce.digest]
      exact hForce.valid.digest
    · intro grant hGrant binding hBinding hBound
      exact hForce.returned hReady hGrant hBinding hBound
  · exact (hGate.accepting (hAdmits.accepting (shape_of_reachable h.reachable) hStep)).2

section Runs

open Deployment

/-- A ready pair passed the check, and is ready for Work. -/
theorem ready_gate_bringUp :
    ∃ s, (machine deployment).Reaches (fun s a => s.readiesSafely a = true) s ∧
      s.client.flags.acceptingWork = true ∧ s.client.flags.state = .ready ∧
      ReadyForWork deployment s := by
  obtain ⟨s, hReach, hRun⟩ := Machine.exists_reaches_of_runWith (machine deployment)
    (fun s a => s.readiesSafely a = true) bringUp
    (fun s => s.client.flags.acceptingWork && s.client.flags.state == .ready) (by decide +kernel)
  rw [Bool.and_eq_true, beq_iff_eq] at hRun
  exact ⟨s, hReach, hRun.1, hRun.2, (ready_gate hReach).1 hRun.1 hRun.2⟩

/-- A second spec arrives before the Work writer has passed its attach: the
client is opened for Work while the application applies that spec. -/
theorem ready_during_transaction :
    ∃ s, (machine deployment).Reachable s ∧ s.client.flags.acceptingWork = true ∧
      s.client.flags.state = .ready ∧ s.client.spec.specRevision = 0 ∧
      s.inTransaction = true ∧ ¬ReadyForWork deployment s := by
  obtain ⟨s, hReach, hRun⟩ := Machine.exists_reaches_of_runWith (machine deployment)
    (fun _ _ => True)
    (bringUp.dropLast ++ receiveSpec 1 2 2 ++ List.replicate 11 (.controlReader (.tick 0)) ++
      [.workWriter .tick])
    (fun s => s.client.flags.acceptingWork && s.client.flags.state == .ready &&
      s.client.spec.specRevision == 0 && s.inTransaction) (by decide +kernel)
  simp only [Bool.and_eq_true, beq_iff_eq] at hRun
  obtain ⟨⟨⟨hAccepting, hReady⟩, hRevision⟩, hBusy⟩ := hRun
  exact ⟨s, hReach, hAccepting, hReady, hRevision, hBusy, fun h => h.revision hRevision⟩

end Runs

end AdapterRuntime.Model
