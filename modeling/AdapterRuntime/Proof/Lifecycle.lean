import AdapterRuntime.Proof.Duties
import AdapterRuntime.Model.Deployment

/-!
# AdapterRuntime — the order of the lifecycle callbacks

`Client.Keeps` follows the callbacks through a transaction, `Upholds` through the
whole system: the duty lies with the thread that deactivates, else with the Control
reader.

* `ApplyMove.keeps` — a step of the transaction works off its duty, or adds to it.
* `upholds_of_reachable` — the duty of a reachable state is the one its callbacks left.
* `lifecycle_balanced` — the callbacks of every run are in order.
* `stops_reverse_starts` — capabilities are stopped in the reverse order of their starts
  when every committed spec lists them by id.
-/

namespace AdapterRuntime.Model

open AdapterRuntime.Lib LifecycleEvent

variable {env : Env} {c c' : Client} {s s' : System}

-- ---------------------------------------------------------------------------
-- The transaction
-- ---------------------------------------------------------------------------

/-- The successful starts of these capabilities, newest first. -/
def startRuns (bindings : List Nat) : List (Nat × Bool) := (bindings.map (·, true)).reverse

/-- How far the callbacks of a transaction have come. -/
def ApplyPc.Progress (calls : List LifecycleEvent) : ApplyPc → Prop
  | .starting _ _ started _ | .committing _ started =>
    transactionStarts calls = startRuns started ∧ ∀ b ∈ started, readied b calls = false
  | .readying cand remaining =>
    transactionStarts calls = startRuns cand.bindings ∧
      calls.findSome? (·.commit?) = some cand.spec ∧ ∀ b ∈ remaining, readied b calls = false
  | _ => True

/-- The runs of a transaction are the starts of its bindings. -/
theorem mem_startRuns {bindings : List Nat} {r : Nat × Bool} :
    r ∈ startRuns bindings ↔ r.1 ∈ bindings ∧ r.2 = true := by
  obtain ⟨b, ok⟩ := r
  simp [startRuns, eq_comm]

theorem startRuns_append {bindings : List Nat} {b : Nat} :
    startRuns (bindings ++ [b]) = (b, true) :: startRuns bindings := by
  simp [startRuns]

/-- The duty of a client with or without a transaction. -/
def SpecState.dutyAt (spec : SpecState) : Option ApplyPc → Duty
  | some at_ => at_.duty spec
  | none => spec.duty

theorem duty_nextStart {cand : Candidate} {remaining : List (EnabledCapability × Nat)}
    {started : List Nat} {error : Text} (spec : SpecState) :
    (nextStart cand remaining started error).duty spec = ⟨started.reverse, true⟩ := by
  cases remaining <;> rfl

theorem progress_nextStart {cand : Candidate} {remaining : List (EnabledCapability × Nat)}
    {started : List Nat} {error : Text} {calls : List LifecycleEvent}
    (hStarts : transactionStarts calls = startRuns started)
    (hReady : ∀ b ∈ started, readied b calls = false) :
    (nextStart cand remaining started error).Progress calls := by
  cases remaining <;> exact ⟨hStarts, hReady⟩

/-- The next capability to start has not been started. -/
theorem ApplyPc.Fits.fresh {cand : Candidate} {grant : EnabledCapability} {b : Nat}
    {rest : List (EnabledCapability × Nat)} {started : List Nat} {error : Text}
    {spec : SpecState} (h : (ApplyPc.starting cand ((grant, b) :: rest) started error).Fits env spec)
    (hNodup : cand.bindings.Nodup) : b ∉ started := by
  obtain ⟨-, -, -, hSplit⟩ := h
  rw [← hSplit] at hNodup
  intro hMem
  exact (List.nodup_append.mp hNodup).2.2 b hMem b (by simp) rfl

/-- A capability that has not been started has no start in this transaction. -/
theorem fresh_of_progress {calls : List LifecycleEvent} {started : List Nat} {b : Nat}
    (hStarts : transactionStarts calls = startRuns started) (hFresh : b ∉ started) :
    ∀ ok, (b, ok) ∉ transactionStarts calls := by
  intro ok hMem
  rw [hStarts, mem_startRuns] at hMem
  exact hFresh hMem.1

/-- The `ready` callback of a capability may be called. -/
theorem allowed_ready {cand : Candidate} {b : Nat} {rest : List Nat} {spec : SpecState} {ok : Bool}
    {calls : List LifecycleEvent} (hFits : (ApplyPc.readying cand (b :: rest)).Fits env spec)
    (hKept : Kept env spec.duty calls)
    (hProgress : (ApplyPc.readying cand (b :: rest)).Progress calls) :
    (LifecycleEvent.readyCalled b ok).Allowed env calls := by
  obtain ⟨hValid, -, hForce, done, hSplit, -⟩ := hFits
  obtain ⟨hStarts, hCommit, hReady⟩ := hProgress
  have hMem : b ∈ cand.bindings := by
    rw [← hSplit]
    exact List.mem_append_right _ List.mem_cons_self
  refine ⟨hReady b List.mem_cons_self, cand.spec, cand.bindings, hCommit, hValid, hMem,
    fun k hk => hKept.started k (hForce.perm_stops.mem_iff.mpr hk), fun r hr => ?_, fun k hk => ?_⟩
  · rw [hStarts, mem_startRuns] at hr
    exact hr.2
  · rw [hStarts, mem_startRuns]
    exact ⟨hk, rfl⟩

/-- What holds of the callbacks with or without a transaction. -/
structure Client.Keeps (env : Env) (c : Client) (transaction : Option ApplyPc) : Prop where
  kept : Kept env (c.spec.dutyAt transaction) c.calls
  progress : ∀ at_, transaction = some at_ → at_.Progress c.calls

namespace Client.Keeps

/-- The transaction reaches a point without callbacks of its own to keep track of. -/
theorem at_point {next : ApplyPc} (hKept : Kept env (next.duty c.spec) c.calls)
    (hProgress : next.Progress c.calls) : c.Keeps env (some next) :=
  ⟨hKept, fun _ hAt => Option.some.inj hAt ▸ hProgress⟩

/-- A client that keeps its duty keeps it outside every transition. -/
theorem done (h : Kept env c.spec.duty c.calls) : c.Keeps env none :=
  ⟨h, fun _ hAt => by cases hAt⟩

/-- The transaction is over and no spec is committed. -/
theorem vacant (h : Kept env .none c.calls) (hVacant : c.spec.Vacant) : c.Keeps env none :=
  done (by rwa [hVacant.duty])

end Client.Keeps

/-- A capability is started, or passed for want of a `start` callback. -/
theorem progress_started {cand : Candidate} {grant : EnabledCapability} {b : Nat}
    {rest : List (EnabledCapability × Nat)} {started : List Nat} {error error' : Text}
    {calls : List LifecycleEvent} {event : LifecycleEvent}
    (h : (ApplyPc.starting cand ((grant, b) :: rest) started error).Progress calls)
    (hFresh : b ∉ started) (hEvent : event = .startCalled b true ∨ event = .startSkipped b) :
    (nextStart cand rest (started ++ [b]) error').Progress (event :: calls) := by
  refine progress_nextStart ?_ (fun k hk => ?_)
  · rw [startRuns_append, ← h.1]
    obtain rfl | rfl := hEvent <;> rfl
  · obtain hMem | hLast := List.mem_append.mp hk
    · have hNe : b ≠ k := fun hEq => hFresh (hEq ▸ hMem)
      have hOther : readyOf k event = false ∧ startOf k event = false := by
        obtain rfl | rfl := hEvent <;> simp [readyOf, startOf, hNe]
      rw [readied, isOpen_cons_other hOther.1 hOther.2]
      exact h.2 k hMem
    · rw [List.mem_singleton.mp hLast]
      obtain rfl | rfl := hEvent <;> exact isOpen_cons_close rfl (by simp [startOf])

/-- A `ready` callback is called; the ones that remain are for other capabilities. -/
theorem progress_readied {cand : Candidate} {b : Nat} {rest : List Nat} {spec : SpecState}
    {calls : List LifecycleEvent} (hFits : (ApplyPc.readying cand (b :: rest)).Fits env spec)
    (hNodup : cand.bindings.Nodup)
    (h : (ApplyPc.readying cand (b :: rest)).Progress calls) (ok : Bool) :
    (ApplyPc.readying cand rest).Progress (.readyCalled b ok :: calls) := by
  obtain ⟨-, -, -, done, hSplit, -⟩ := hFits
  rw [← hSplit] at hNodup
  have hFresh := (List.nodup_cons.mp (List.nodup_append.mp hNodup).2.1).1
  refine ⟨h.1, h.2.1, fun k hk => ?_⟩
  have hNe : b ≠ k := fun hEq => hFresh (hEq ▸ hk)
  rw [readied, isOpen_cons_other (by simp [readyOf, hNe]) rfl]
  exact h.2.2 k (List.mem_cons_of_mem _ hk)

/-- A step of the transaction. -/
theorem ApplyMove.keeps {session : Text} {at_ : ApplyPc} {next : ApplyNext}
    (h : ApplyMove env session c at_ next c') (hFits : at_.Fits env c.spec)
    (hNodup : ∀ cand : Candidate, cand.Valid env → cand.bindings.Nodup)
    (hKept : Kept env (at_.duty c.spec) c.calls) (hProgress : at_.Progress c.calls) :
    c'.Keeps env next.getLeft? := by
  cases h with
  | answer => exact .done hKept
  | begin hBegin =>
    obtain ⟨-, -, -, -, rfl⟩ := beginApply_inr hBegin
    exact .at_point hKept trivial
  | waited | lock | current | proceed => exact .at_point hKept trivial
  | stale hPc => obtain rfl | rfl := hPc <;> exact .done hKept
  -- a deactivation works off what was owed
  | deactivate hStep | readyDeactivate hStep => exact .at_point (hKept.deactivateStep hStep) trivial
  | deactivated hStep | readyDeactivated hStep =>
    exact .at_point (hKept.deactivateStep hStep) trivial
  -- an unbound `apply_instance_spec` counts as one that succeeds
  | skipApply hBound =>
    refine .at_point ?_ (progress_nextStart ?_ (by simp)) <;> rw [calls_log rfl]
    · rw [duty_nextStart]
      exact hKept.apply rfl hBound
    · rfl
  | applied hBound =>
    refine .at_point ?_ (progress_nextStart ?_ (by simp)) <;> rw [calls_log rfl]
    · rw [duty_nextStart]
      exact hKept.apply rfl hBound
    · rfl
  -- a failed apply is cleared at once
  | @applyFailed cand error hBound =>
    have hApplied : Kept env ⟨[], true⟩ (c.log (.applyCalled cand.spec false)).calls := by
      rw [calls_log rfl]
      exact hKept.apply rfl hBound
    exact .at_point (hApplied.clear rfl) trivial
  | skipStart hBound =>
    -- the binding is fresh: a spec grants each capability once
    have hFresh := hFits.fresh (hNodup _ hFits.1)
    refine .at_point ?_ ?_ <;> rw [calls_log rfl]
    · rw [duty_nextStart, List.reverse_append]
      exact hKept.start (by simpa using hFresh) (.inr rfl) hBound
        (fresh_of_progress hProgress.1 hFresh)
    · exact progress_started hProgress hFresh (.inr rfl)
  | started hBound =>
    have hFresh := hFits.fresh (hNodup _ hFits.1)
    refine .at_point ?_ ?_ <;> rw [calls_log rfl]
    · rw [duty_nextStart, List.reverse_append]
      exact hKept.start (by simpa using hFresh) (.inl rfl) hBound
        (fresh_of_progress hProgress.1 hFresh)
    · exact progress_started hProgress hFresh (.inl rfl)
  -- a start that failed is not owed a stop
  | @startFailed cand grant b rest started error error' hBound =>
    have hFresh := hFits.fresh (hNodup _ hFits.1)
    refine .at_point ?_ trivial
    have hAllowed : (LifecycleEvent.startCalled b false).Allowed env c.calls :=
      hKept.startable (by simpa [ApplyPc.duty] using hFresh) (fresh_of_progress hProgress.1 hFresh)
    rw [calls_log rfl]
    exact hKept.pass hBound hAllowed (by simp [startOf]) (fun _ => rfl) rfl rfl rfl
  | startedAll => exact .at_point hKept hProgress
  -- the capabilities are stopped in the order in which they are owed
  | unwindStop | staleStop => exact .at_point hKept.stop trivial
  | @unwound cand clear failedKey error =>
    cases clear with
    | true => exact .at_point (hKept.clear rfl) trivial
    | false => exact .at_point hKept trivial
  | failed => exact .vacant hKept (hFits.2.2.alike ⟨rfl, rfl, rfl, rfl, rfl⟩)
  -- what was started becomes the duty of the committed spec
  | @commit cand started c₁ hCommit =>
    have hStands := (ApplyMove.commit hCommit).stands hFits
    obtain ⟨-, -, hForce, -⟩ :
      (ApplyPc.readying cand started).Fits env (c₁.log (.specCommitted cand.spec)).spec := hStands
    have hCalls : c₁.calls = c.calls := by
      unfold commitSpec at hCommit
      split at hCommit <;> cases hCommit
      rfl
    obtain ⟨hValid, -, -, rfl⟩ := hFits
    refine .at_point ?_ ?_
    · rw [calls_log rfl, hCalls]
      exact hKept.commit hForce
    · rw [calls_log rfl, hCalls]
      refine ⟨hProgress.1, rfl, fun b hb => ?_⟩
      rw [Model.readied, isOpen_cons_other rfl rfl]
      exact hProgress.2 b hb
  | outdated => exact .at_point hKept trivial
  -- everything has been stopped: the clear is the last of it
  | staleUnwound =>
    refine .vacant (hKept.clear rfl) ?_
    simp only [spec_unlocked, spec_callClear]
    exact hFits.2.2
  | skipReady =>
    exact .at_point hKept ⟨hProgress.1, hProgress.2.1,
      fun b hb => hProgress.2.2 b (List.mem_cons_of_mem _ hb)⟩
  | @readied cand b rest hBound =>
    have hCalls : (c.readied b).calls = .readyCalled b true :: c.calls :=
      List.filter_cons_of_pos rfl
    refine .at_point ?_ ?_
    · rw [hCalls]
      exact hKept.pass hBound (allowed_ready hFits hKept hProgress) (fun _ => rfl)
        (fun _ => rfl) rfl rfl rfl
    · rw [hCalls]
      exact progress_readied hFits (hNodup _ hFits.1) hProgress true
  | readyFailed hBound =>
    refine .at_point ?_ trivial
    rw [calls_log rfl]
    exact hKept.pass hBound (allowed_ready hFits hKept hProgress) (fun _ => rfl)
      (fun _ => rfl) rfl rfl rfl
  | readiedAll => exact .at_point hKept trivial
  | readyFailure => exact .vacant hKept (hFits.2.2.alike ⟨rfl, rfl, rfl, rfl, rfl⟩)
  | @finish cand =>
    refine .done ?_
    have hAlike := (alike_finishApply c session (grantedStatuses env cand.spec)).1
    have hCalls : (finishApply c session (grantedStatuses env cand.spec)).unlocked.calls =
        c.calls := by
      unfold finishApply
      split <;> rfl
    rw [hCalls, spec_unlocked, hAlike.duty]
    exact hKept

-- ---------------------------------------------------------------------------
-- The system
-- ---------------------------------------------------------------------------

/-- The duty of a system lies with the thread that runs a deactivation, else with the
transaction of the Control reader. -/
structure Upholds (env : Env) (s : System) : Prop where
  reader : s.supervisor.deactivation? = none → s.stopper.deactivation? = none →
    s.client.Keeps env s.controlReader.transaction?
  supervisor : ∀ at_, s.supervisor.deactivation? = some at_ →
    Kept env (at_.duty s.client.spec) s.client.calls
  stopper : ∀ at_, s.stopper.deactivation? = some at_ →
    Kept env (at_.duty s.client.spec) s.client.calls

/-- The supervisor deactivates outside of a pair. -/
theorem SupervisorPc.outside_of_deactivation {pc : SupervisorPc} {at_ : DeactivatePc}
    (h : pc.deactivation? = some at_) : pc.phase = .outside := by
  cases pc <;> first | rfl | cases h

/-- `Stop` deactivates after it has joined the supervisor. -/
theorem StopPc.joined_of_deactivation {pc : StopPc} {at_ : DeactivatePc}
    (h : pc.deactivation? = some at_) : pc.joined = true := by
  cases pc <;> first | rfl | cases h

namespace Upholds

/-- While a pair runs, the duty lies with the Control reader. -/
theorem of_running (hThreads : Threads s) (hPhase : s.supervisor.phase ≠ .outside)
    (h : s.client.Keeps env s.controlReader.transaction?) : Upholds env s where
  reader _ _ := h
  supervisor at_ hAt := absurd (SupervisorPc.outside_of_deactivation hAt) hPhase
  stopper at_ hAt := by
    have hPc := hThreads.stopper (StopPc.joined_of_deactivation hAt)
    rw [hPc] at hPhase
    exact absurd rfl hPhase

/-- Nothing is to be done where no deactivation and no transaction runs. -/
theorem of_settled (hReader : s.controlReader.transaction? = none)
    (hDown : s.supervisor.deactivation? = none) (hStop : s.stopper.deactivation? = none)
    (h : Kept env s.client.spec.duty s.client.calls) : Upholds env s := by
  refine ⟨fun _ _ => by rw [hReader]; exact .done h, fun at_ hAt => ?_, fun at_ hAt => ?_⟩
  · rw [hDown] at hAt
    cases hAt
  · rw [hStop] at hAt
    cases hAt

/-- The duty outside a pair, with no deactivation under way. -/
theorem settled (h : Upholds env s) (hReader : s.controlReader.transaction? = none)
    (hDown : s.supervisor.deactivation? = none) (hStop : s.stopper.deactivation? = none) :
    Kept env s.client.spec.duty s.client.calls := by
  have hKept := (h.reader hDown hStop).kept
  rwa [hReader] at hKept

end Upholds

/-- A step that makes no callback and keeps the spec. -/
theorem Client.Keeps.same {transaction : Option ApplyPc} (h : c.Keeps env transaction)
    (hSpec : c'.spec = c.spec) (hCalls : c'.calls = c.calls) : c'.Keeps env transaction := by
  refine ⟨?_, ?_⟩
  · rw [hSpec, hCalls]
    exact h.kept
  · rw [hCalls]
    exact h.progress

/-- A step of the Control reader. -/
theorem ControlReaderMove.keeps {pc pc' : ControlReaderPc} (h : ControlReaderMove env c pc pc' c')
    (hSpec : c.spec.Stands env pc.transaction?)
    (hNodup : ∀ cand : Candidate, cand.Valid env → cand.bindings.Nodup)
    (hKeeps : c.Keeps env pc.transaction?) : c'.Keeps env pc'.transaction? := by
  cases h with
  | calm hHelm _ hPc hPc' =>
    rw [hPc] at hKeeps
    rw [hPc']
    exact hKeeps.same (spec_of_helm hHelm) (calls_of_helm hHelm)
  | drain =>
    have hHelm := Client.helm_beginDrain c env
    have hEvents := congrArg Helm.events hHelm
    exact hKeeps.same (congrArg Helm.spec hHelm) (calls_of_events hEvents)
  | refuse hInvalid => exact hKeeps
  | receive hValid => exact .at_point hKeeps.kept trivial
  | apply hMove => exact hMove.keeps hSpec hNodup hKeeps.kept (hKeeps.progress _ rfl)
  | conclude hMove => exact hMove.keeps hSpec hNodup hKeeps.kept (hKeeps.progress _ rfl)
  | queue hQueue | overflow hQueue =>
    have hHelm := Client.helm_queueControlLocked hQueue
    have hEvents := congrArg Helm.events hHelm
    exact hKeeps.same (congrArg Helm.spec hHelm) (calls_of_events hEvents)
  | @signal fence reason =>
    have hHelm := Client.helm_signalSessionFailure (c := c) fence.sessionId reason
    exact hKeeps.same (spec_of_helm hHelm) (calls_of_helm hHelm)

theorem calls_controlWriterMove {pc pc' : ControlWriterPc}
    (h : ControlWriterMove env c pc pc' c') : c'.calls = c.calls := by
  cases h with
  | exit | lose => rfl
  | write => exact calls_log_other rfl
  | dequeue hHelm =>
    have hEvents := congrArg Helm.events hHelm
    exact (calls_of_events hEvents).symm
  | heartbeat _ hHelm => exact calls_of_helm hHelm
  | gate =>
    unfold Client.openAttachGate
    split <;> rfl
  | signal => exact calls_of_helm (Client.helm_signalSessionFailure _ _)
  | terminal => exact calls_of_helm (Client.helm_signalTerminalSessionFailure _ _)

theorem calls_workWriterMove {pc pc' : WorkWriterPc} (h : WorkWriterMove env c pc pc' c') :
    c'.calls = c.calls := by
  cases h with
  | calm hHelm => exact calls_of_helm hHelm
  | attach _ _ hHelm => exact calls_of_helm hHelm
  | attached | write => exact calls_log_other rfl
  | ready =>
    unfold Client.markReady
    split <;> rfl

/-- The duty once a deactivation is under way on another thread. -/
theorem Upholds.of_deactivation (hThreads : Threads s') (hStarted : s'.supervisor ≠ .notStarted)
    {at_ : DeactivatePc} (hDown : s'.supervisor.deactivation? = some at_)
    (hKept : Kept env (at_.duty s'.client.spec) s'.client.calls) : Upholds env s' := by
  refine ⟨fun hNone => ?_, fun at' hAt => ?_, fun at' hAt => ?_⟩
  · rw [hDown] at hNone
    cases hNone
  · rw [hDown, Option.some.injEq] at hAt
    exact hAt ▸ hKept
  · rw [(hThreads.stopper_waits hStarted).1] at hAt
    cases hAt

/-- A step of the supervisor. -/
theorem Upholds.supervisorTurn (h : Upholds env s) (hStands : Standing env s)
    (hStands' : Standing env s') (hThreads : Threads s) (hThreads' : Threads s')
    (hTurn : SupervisorTurn env s.client s.supervisor s'.supervisor s'.client)
    (hReader : s'.controlReader = s.controlReader ∨
      (s.supervisor.phase = .outside ∧ ∃ fence, s'.controlReader = .opening fence))
    (hStopper : s'.stopper = s.stopper) (hStarted : s.supervisor ≠ .notStarted) :
    Upholds env s' := by
  have hStop := (hThreads.stopper_waits hStarted).1
  have hStop' : s'.stopper.deactivation? = none := by rw [hStopper, hStop]
  -- the supervisor spawns a reader without a transaction
  have hTransaction : s'.controlReader.transaction? = s.controlReader.transaction? := by
    obtain hEq | ⟨hPhase, fence, hEq⟩ := hReader
    · rw [hEq]
    · rw [hEq, hThreads.no_transaction (by rw [hPhase]; rfl)]
      rfl
  have hSame : s.supervisor.deactivation? = none → s'.client.spec.duty = s.client.spec.duty →
      s'.client.spec = s.client.spec ∨ s.controlReader.transaction? = none →
      s'.client.calls = s.client.calls → s'.client.Keeps env s'.controlReader.transaction? := by
    intro hDown hDuty hSpec hCalls
    have hKeeps := h.reader hDown hStop
    rw [hTransaction]
    obtain hSpec | hNone := hSpec
    · exact hKeeps.same hSpec hCalls
    · rw [hNone] at hKeeps ⊢
      refine .done ?_
      rw [hDuty, hCalls]
      exact hKeeps.kept
  have hOutside : s.supervisor.phase = .outside → s.controlReader.transaction? = none :=
    fun hPhase => hThreads.no_transaction (by rw [hPhase]; rfl)
  have hPlain : s'.supervisor.deactivation? = none →
      s'.client.Keeps env s'.controlReader.transaction? → Upholds env s' := by
    intro hDown hKeeps
    refine ⟨fun _ _ => hKeeps, fun at_ hAt => ?_, fun at_ hAt => ?_⟩
    · rw [hDown] at hAt
      cases hAt
    · rw [hStop'] at hAt
      cases hAt
  generalize hPc : s.supervisor = pc at hTurn
  generalize hPc' : s'.supervisor = pc' at hTurn
  generalize hClient : s'.client = c' at hTurn
  cases hTurn with
  | calm hHelm _ hDown hLocked =>
    rw [← hClient] at hHelm
    have hKeeps := hSame (by rw [hPc]; exact hDown) (by rw [spec_of_helm hHelm])
      (.inl (spec_of_helm hHelm)) (calls_of_helm hHelm)
    -- the supervisor may have come to its own deactivation
    cases hNext : pc'.deactivation? with
    | none => exact hPlain (by rw [hPc']; exact hNext) hKeeps
    | some at_ =>
      have hDown' : s'.supervisor.deactivation? = some at_ := by rw [hPc']; exact hNext
      refine .of_deactivation hThreads' ?_ hDown' ?_
      · intro hNot
        rw [hNot] at hDown'
        cases hDown'
      · have hNone := hThreads'.no_transaction
          (by rw [SupervisorPc.outside_of_deactivation hDown']; rfl)
        rw [hNone] at hKeeps
        rw [hLocked at_ hNext]
        exact hKeeps.kept
  | replace =>
    exact hPlain (by rw [hPc']; rfl) (hSame (by rw [hPc]; rfl) (by rw [hClient]; rfl)
      (.inl (by rw [hClient]; rfl)) (by rw [hClient]; rfl))
  -- outside a pair nobody is in a transaction
  | install | prepare | clear =>
    exact hPlain (by rw [hPc']; rfl) (hSame (by rw [hPc]; rfl) (by rw [hClient]; rfl)
      (.inr (hOutside (by rw [hPc]; rfl))) (by rw [hClient]; rfl))
  | advance =>
    have hSpec : s.client.advanceEpoch.spec = s.client.spec ∧
        s.client.advanceEpoch.calls = s.client.calls := by
      unfold Client.advanceEpoch
      split <;> exact ⟨rfl, rfl⟩
    exact hPlain (by rw [hPc']; rfl) (hSame (by rw [hPc]; rfl) (by rw [hClient, hSpec.1])
      (.inl (by rw [hClient, hSpec.1])) (by rw [hClient, hSpec.2]))
  | @deactivate reason at_ next after _ hStep =>
    have hKept := (h.supervisor at_ (by rw [hPc]; rfl)).deactivateStep hStep
    refine .of_deactivation hThreads' (by rw [hPc']; simp) (by rw [hPc']; rfl) ?_
    rw [hClient]
    exact hKept
  -- after its deactivation nothing is committed and nothing owed
  | @deactivated reason at_ after _ c₁ hStep hNext =>
    have hKept := (h.supervisor at_ (by rw [hPc]; rfl)).deactivateStep hStep
    have hSettled : s'.supervisor.settled = true ∧ s'.supervisor.deactivation? = none := by
      obtain ⟨_, -, hEq⟩ | ⟨-, hEq⟩ := hNext <;> rw [hPc', hEq] <;> exact ⟨rfl, rfl⟩
    refine hPlain hSettled.2 ?_
    rw [hTransaction, hOutside (by rw [hPc]; rfl)]
    refine .vacant ?_ (hStands'.settled hSettled.1)
    rw [hClient]
    exact hKept
  -- `session_lost` is called when everything has been undone
  | report hBound =>
    have hKeeps := h.reader (by rw [hPc]; rfl) hStop
    have hVacant := hStands.settled (by rw [hPc]; rfl)
    have hNone := hOutside (by rw [hPc]; rfl)
    rw [hNone] at hKeeps
    have hKept : Kept env .none s.client.calls := by
      have hDuty := hKeeps.kept
      rw [SpecState.dutyAt, hVacant.duty] at hDuty
      exact hDuty
    refine hPlain (by rw [hPc']; rfl) ?_
    rw [hTransaction, hNone]
    refine .vacant ?_ (by rw [hClient]; exact hVacant)
    rw [hClient, calls_log rfl]
    exact hKept.pass hBound hKept.quiet (fun _ => rfl) (fun _ => rfl) rfl rfl rfl
  | endSession =>
    have hVacant := hStands.settled (by rw [hPc]; rfl)
    have hVacant' : s'.client.spec.Vacant := by
      rw [hClient]
      exact ⟨rfl, rfl, rfl, rfl, rfl⟩
    exact hPlain (by rw [hPc']; rfl) (hSame (by rw [hPc]; rfl)
      (by rw [hVacant.duty, hVacant'.duty]) (.inr (hOutside (by rw [hPc]; rfl)))
      (by rw [hClient]; rfl))

/-- A step upholds the duties of whoever is inside a transition. -/
theorem Upholds.step {a : Action} (h : Upholds env s) (hReach : (machine env).Reachable s)
    (hStep : (machine env).step s a = some s') : Upholds env s' := by
  have hThreads := (shape_of_reachable hReach).threads
  have hThreads' := (shape_of_reachable (hReach.step hStep)).threads
  have hStands := standing_of_reachable hReach
  have hStands' := standing_of_reachable (hReach.step hStep)
  -- the duty of a running pair lies with the Control reader
  have hRunning : s.supervisor.phase ≠ .outside →
      s.client.Keeps env s.controlReader.transaction? := by
    intro hPhase
    obtain ⟨hDown, -, hStarted⟩ := SupervisorPc.pair_running hPhase
    exact h.reader hDown (hThreads.stopper_waits hStarted).1
  -- once the supervisor is joined, only `Stop` is left
  have hAlone : s.stopper.joined = true → s.supervisor = .notStarted ∧
      s.controlReader.transaction? = none := by
    intro hJoined
    have hPc := hThreads.stopper hJoined
    exact ⟨hPc, hThreads.no_transaction (by rw [hPc]; rfl)⟩
  cases controlMove_of_reachable hReach hStep with
  | calm hHelm hRest hReader hWriter hWork hSupervisor hStopper =>
    -- no callback and no spec change: the duty stays where it is
    have hSpec := spec_of_helm hHelm
    have hCalls := calls_of_helm hHelm
    obtain hEq | ⟨hIdle, hEq⟩ | ⟨hLock, hEq⟩ := hStopper
    · refine ⟨fun hDown hStop => ?_, ?_, ?_⟩
      · rw [hReader]
        exact (h.reader (hSupervisor ▸ hDown) (hEq ▸ hStop)).same hSpec hCalls
      · rw [hSupervisor, hSpec, hCalls]
        exact h.supervisor
      · rw [hEq, hSpec, hCalls]
        exact h.stopper
    · -- `Stop` begins, or goes on to a wait
      refine ⟨fun hDown _ => ?_, ?_, ?_⟩
      · rw [hReader]
        exact (h.reader (hSupervisor ▸ hDown) (by rw [hIdle]; rfl)).same hSpec hCalls
      · rw [hSupervisor, hSpec, hCalls]
        exact h.supervisor
      · intro at_ hAt
        rw [hEq] at hAt
        cases hAt
    · -- `Stop` takes over the duty
      obtain ⟨hPc, hNone⟩ := hAlone (by rw [hLock]; rfl)
      have hKept := h.settled hNone (by rw [hPc]; rfl) (by rw [hLock]; rfl)
      refine ⟨fun _ hStop => ?_, ?_, ?_⟩
      · rw [hEq] at hStop
        cases hStop
      · rw [hSupervisor, hPc]
        intro at_ hAt
        cases hAt
      · intro at_ hAt
        rw [hEq] at hAt
        cases hAt
        rw [hSpec, hCalls]
        exact hKept
  | controlReader hMove _ hPhase _ hSupervisor =>
    have hConfig := validated_of_reachable hReach (by
      intro hPc
      rw [hPc] at hPhase
      cases hPhase)
    -- grants are distinct since the callback table was validated at `Start`
    refine .of_running hThreads' (by rw [hSupervisor]; exact phase_of_control hPhase) ?_
    refine hMove.keeps hStands.spec (fun cand hValid => ?_) (hRunning (phase_of_control hPhase))
    exact (specResolution_of_valid hConfig hValid).distinct
  | controlWriter hMove hPhase hReader _ hSupervisor _ =>
    refine .of_running hThreads' (by rw [hSupervisor]; exact phase_of_control hPhase) ?_
    rw [hReader]
    exact (hRunning (phase_of_control hPhase)).same (spec_controlWriterMove hMove)
      (calls_controlWriterMove hMove)
  | workWriter hMove hPhase hReader _ hSupervisor _ =>
    refine .of_running hThreads' (by rw [hSupervisor]; exact phase_of_work hPhase) ?_
    rw [hReader]
    exact (hRunning (phase_of_work hPhase)).same (spec_workWriterMove hMove)
      (calls_workWriterMove hMove)
  | supervisor hTurn hReader _ _ hStopper hStarted =>
    exact h.supervisorTurn hStands hStands' hThreads hThreads' hTurn hReader hStopper hStarted
  -- a start happens before any transition
  | startThreads hStopped hClient hReader _ _ hSupervisor hStopper _ hIdle =>
    have hNone := hThreads.no_transaction (by rw [hStopped]; rfl)
    refine .of_settled (by rw [hReader, hNone]) (by rw [hSupervisor]; rfl)
      (by rw [hStopper]; rfl) ?_
    rw [hClient]
    exact h.settled hNone (by rw [hStopped]; rfl) (by rw [hIdle]; rfl)
  | join hClient hReader _ _ hSupervisor hOver hStopper hBefore =>
    -- a joined thread is in no deactivation
    have hDown : s.supervisor.deactivation? = none ∧ s.supervisor.phase.control = false := by
      obtain hPc | hPc := hOver <;> rw [hPc] <;> exact ⟨rfl, rfl⟩
    have hStop : s.stopper.deactivation? = none := by
      obtain hPc | hPc := hBefore <;> rw [hPc] <;> rfl
    have hNone := hThreads.no_transaction hDown.2
    refine .of_settled (by rw [hReader, hNone]) (by rw [hSupervisor]; rfl) ?_ ?_
    · obtain hPc | hPc := hStopper <;> rw [hPc] <;> rfl
    · rw [hClient]
      exact h.settled hNone hDown.1 hStop
  | stopDeactivate hStopper hDeactivate hStopper' hReader _ _ hSupervisor =>
    obtain ⟨hPc, -⟩ := hAlone (by rw [hStopper]; rfl)
    -- one capability stopped, or the clear, with more to come
    have hKept := (h.stopper _ (by rw [hStopper]; rfl)).deactivateStep hDeactivate
    refine ⟨fun _ hStop => ?_, ?_, ?_⟩
    · rw [hStopper'] at hStop
      cases hStop
    · rw [hSupervisor, hPc]
      intro at_ hAt
      cases hAt
    · intro at_ hAt
      rw [hStopper'] at hAt
      cases hAt
      exact hKept
  | stopDeactivated hStopper hDeactivate hClient hStopper' hReader _ _ hSupervisor =>
    obtain ⟨hPc, hNone⟩ := hAlone (by rw [hStopper]; rfl)
    -- the last call of the deactivation pays the duty off
    have hKept := (h.stopper _ (by rw [hStopper]; rfl)).deactivateStep hDeactivate
    refine .of_settled (by rw [hReader, hNone]) (by rw [hSupervisor, hPc]; rfl)
      (by rw [hStopper']; rfl) ?_
    rw [(hStands'.reset hStopper').duty, hClient]
    exact hKept
  | stopReset hStopper hClient hStopper' hReader _ _ hSupervisor =>
    obtain ⟨hPc, hNone⟩ := hAlone (by rw [hStopper]; rfl)
    have hKept := h.settled hNone (by rw [hPc]; rfl) (by rw [hStopper]; rfl)
    rw [(hStands.reset hStopper).duty] at hKept
    -- the reset empties a spec that is vacant already
    have hVacant : s'.client.spec.Vacant := by
      rw [hClient]
      exact ⟨rfl, rfl, rfl, rfl, rfl⟩
    refine .of_settled (by rw [hReader, hNone]) (by rw [hSupervisor, hPc]; rfl)
      (by rw [hStopper']; rfl) ?_
    rw [hVacant.duty, hClient]
    exact hKept

/-- Nothing is owed before the first call. -/
theorem Kept.nothing : Kept env .none [] where
  lawful := trivial
  nodup := List.nodup_nil
  held _ _ hHeld := by cases hHeld
  started := by simp [Duty.none]
  specHeld _ hHeld := by cases hHeld
  applied hClear := by cases hClear
  unwinds _ := trivial
  order _ := rfl

/-- In every reachable state the callbacks leave the duty the threads work off. -/
theorem upholds_of_reachable (h : (machine env).Reachable s) : Upholds env s := by
  refine Machine.Reachable.invariant (I := Upholds env) ?_ ?_ h
  · exact .of_settled rfl rfl rfl Kept.nothing
  · intro s a s' hReach hUpholds hStep
    exact hUpholds.step hReach hStep

-- ---------------------------------------------------------------------------
-- A stopped client
-- ---------------------------------------------------------------------------

/-- A client without a supervisor that is not being stopped has no spec. -/
theorem vacant_of_idle (h : (machine env).Reachable s) (hPc : s.supervisor = .notStarted)
    (hIdle : s.stopper = .idle) : s.client.spec.Vacant := by
  refine Machine.Reachable.invariant (M := machine env) (I := fun s =>
    s.supervisor = .notStarted → s.stopper = .idle → s.client.spec.Vacant) ?_ ?_ h hPc hIdle
  · intro _ _
    exact ⟨rfl, rfl, rfl, rfl, rfl⟩
  · intro s a s' hReach hVacant hStep hPc' hIdle'
    have hThreads := (shape_of_reachable hReach).threads
    -- a thread of a pair runs only under a supervisor
    have hPair : s.supervisor = .notStarted → s.supervisor.phase ≠ .outside → False := by
      intro hPc hPhase
      rw [hPc] at hPhase
      exact hPhase rfl
    have hSame : ∀ {c' : Client}, c'.helm = s.client.helm → s.supervisor = .notStarted →
        s.stopper = .idle → c'.spec.Vacant := by
      intro c' hHelm hPc hIdle
      rw [spec_of_helm hHelm]
      exact hVacant hPc hIdle
    cases System.step_cases hStep with
    | worker hWorker => exact hSame (helm_workerStep hWorker) hPc' hIdle'
    | workReader hReader => exact hSame (helm_workReaderStep hReader) hPc' hIdle'
    | publishSource => exact hSame (Client.helm_of_surround surround_publishSource) hPc' hIdle'
    | closeSource => exact hSame (Client.helm_of_surround surround_closeSource) hPc' hIdle'
    | flags _ _ _ _ _ _ hHelm hStop =>
      obtain hEq | ⟨-, hEq⟩ | ⟨-, hEq⟩ := hStop <;> rw [hEq] at hIdle'
      · exact hSame hHelm hPc' hIdle'
      · cases hIdle'
      · cases hIdle'
    | controlReader hReader =>
      obtain ⟨fence, hFence, -⟩ := controlReaderStep_fence hReader
      exact (hPair hPc' (phase_of_control (hThreads.phase_of_controlReader hFence))).elim
    | controlWriter hWriter =>
      obtain ⟨fence, hFence, -⟩ := controlWriterStep_fence hWriter
      exact (hPair hPc' (phase_of_control (hThreads.phase_of_controlWriter hFence))).elim
    | workWriter hWriter =>
      obtain ⟨fence, hFence, -⟩ := workWriterStep_fence hWriter
      exact (hPair hPc' (phase_of_work (hThreads.phase_of_workWriter hFence))).elim
    | supervisor hSupervisor => exact absurd hPc' (supervisorStep_branch hSupervisor).started.2
    | startThreads => cases hPc'
    | joinSupervisor | joinWorkers => cases hIdle'
    | stopDeactivate _ _ hNext =>
      obtain ⟨_, -, rfl, -⟩ | ⟨-, rfl, -⟩ := hNext <;> cases hIdle'
    | stopReset => exact ⟨rfl, rfl, rfl, rfl, rfl⟩

-- ---------------------------------------------------------------------------
-- The callbacks of a run
-- ---------------------------------------------------------------------------

/-- Some duty is left in every reachable state. -/
theorem Upholds.some_kept (h : Upholds env s) : ∃ duty, Kept env duty s.client.calls := by
  cases hDown : s.supervisor.deactivation? with
  | some at_ => exact ⟨_, h.supervisor at_ hDown⟩
  | none =>
    cases hStop : s.stopper.deactivation? with
    | some at_ => exact ⟨_, h.stopper at_ hStop⟩
    | none => exact ⟨_, (h.reader hDown hStop).kept⟩

/-- Nothing is to be undone where no spec is left and nothing runs. -/
theorem Upholds.quiet (h : Upholds env s) (hThreads : Threads s)
    (hPc : s.supervisor = .notStarted) (hStop : s.stopper.deactivation? = none)
    (hVacant : s.client.spec.Vacant) : Quiet env s.client.calls := by
  have hKept := h.settled (hThreads.no_transaction (by rw [hPc]; rfl)) (by rw [hPc]; rfl) hStop
  rw [hVacant.duty] at hKept
  exact hKept.quiet

/-- `Stop` returns with this step: it has reset the client, or it found it stopped. -/
def System.stopReturns (s : System) : Action → Prop
  | .stopper => s.stopper = .reset
  | .stop | .startReturns _ => s.fullyStopped = true
  | _ => False

/-- When `Stop` returns everything is quiet. -/
theorem quiet_of_stopReturns {a : Action} (hReach : (machine env).Reachable s)
    (hStep : (machine env).step s a = some s') (hReturns : s.stopReturns a) :
    Quiet env s'.client.calls := by
  have hUpholds := upholds_of_reachable hReach
  have hThreads := (shape_of_reachable hReach).threads
  -- a client that is found stopped is left alone
  have hFound : s.fullyStopped = true → s.stopper = .idle → Quiet env s.client.calls := by
    intro hFully hIdle
    have hPc := System.notStarted_of_fullyStopped hFully
    exact hUpholds.quiet hThreads hPc (by rw [hIdle]; rfl) (vacant_of_idle hReach hPc hIdle)
  cases a with
  | stopper =>
    have hStopper : s.stopper = .reset := hReturns
    simp only [machine, System.step, System.stopperStep, hStopper, Option.some.injEq] at hStep
    have hQuiet := hUpholds.quiet hThreads (hThreads.stopper (by rw [hStopper]; rfl))
      (by rw [hStopper]; rfl) ((standing_of_reachable hReach).reset hStopper)
    rw [← hStep]
    exact hQuiet
  | stop =>
    have hFully : s.fullyStopped = true := hReturns
    simp only [machine, System.step] at hStep
    split at hStep
    · rename_i hIdle
      cases hStep
      rw [System.beginStop, if_pos hFully]
      exact hFound hFully hIdle
    · cases hStep
  | startReturns timeout =>
    have hFully : s.fullyStopped = true := hReturns
    simp only [machine, System.step, System.startReturnsStep] at hStep
    split at hStep
    · rename_i hIdle
      have hQuiet := hFound hFully hIdle
      split at hStep
      · cases hStep
        exact hQuiet
      · split at hStep
        · cases hStep
          have hFully' : { s with starter := .idle }.fullyStopped = true := hFully
          rw [System.beginStop, if_pos hFully']
          exact hQuiet
        · cases hStep
    · cases hStep
  | start | startThreads | publishSource | closeSource | worker | workReader | workWriter
  | controlReader | controlWriter | supervisor => exact hReturns.elim

section Runs

open Deployment

/-- A deployment that binds all lifecycle callbacks. -/
def Deployment.managed : Env :=
  { deployment with
    config := { deployment.config with
      capabilities :=
        [{ contract := contract
           callbacks :=
             { start := true, stop := true, ready := true, unary := true, operation := true,
               sourceOpen := true } }] }
    callbacks := { applyInstanceSpec := true, clearInstanceSpec := true, sessionLost := true } }

/-- A callback of the transaction that succeeds. -/
def Deployment.succeeds : Action := .controlReader (.callback (.returned true []))

/-- The transaction of `managed`, with its three callbacks. -/
def Deployment.managedTransaction : List Action :=
  List.replicate 10 (.controlReader (.tick 0)) ++ [succeeds, succeeds] ++
    .controlReader (.tick 0) :: succeeds :: List.replicate 3 (.controlReader (.tick 0))

/-- `Stop` is called, and the streams of the pair end. -/
def Deployment.stopPair : List Action :=
  [.stop, .controlWriter .tick, .supervisor .tick, .controlReader (.tick 0),
    .controlReader (.status .ok), .controlReader (.tick 0), .supervisor .tick, .workWriter .tick,
    .workReader (.tick 0), .workReader (.status .ok), .workReader (.tick 0), .supervisor .tick]

/-- The rest of `Stop` up to its last section. -/
def Deployment.finishStop : List Action :=
  List.replicate 14 (.supervisor .tick) ++ [.stopper] ++ worker 0 1 ++ worker 1 1 ++
    List.replicate 7 .stopper

/-- `Stop` has reached its last section. -/
def StopPc.resets : StopPc → Bool
  | .reset => true
  | _ => false

theorem StopPc.eq_of_resets {pc : StopPc} (h : pc.resets = true) : pc = .reset := by
  cases pc <;> first | rfl | cases h

/-- A deployment whose capability has a `stop` callback only. -/
def Deployment.stopOnly : Env :=
  { deployment with
    config := { deployment.config with
      capabilities :=
        [{ contract := contract
           callbacks := { stop := true, unary := true, operation := true, sourceOpen := true } }] } }

/-- A `start` callback is called. -/
def LifecycleEvent.isStart : LifecycleEvent → Bool
  | .startCalled _ _ => true
  | _ => false

end Runs

/-- **Reverse order.** In every run in which every committed spec lists its capabilities
by id, each `stop` is that of the capability started last, on every path that stops
capabilities. -/
theorem stops_reverse_starts (h : (machine env).Reachable s)
    (hCommits : AscendingCommits env s.client.calls) : Unwinds env s.client.calls := by
  obtain ⟨duty, hKept⟩ := (upholds_of_reachable h).some_kept
  exact hKept.unwinds hCommits

section Runs

open Deployment

namespace Deployment

/-- A second contract. -/
def armContract : CapabilityContract :=
  { contract with capabilityId := text "robot.arm", contractDigest := digestOf (text "arm") }

/-- The grant of all of a contract. -/
def grantOf (contract : CapabilityContract) : EnabledCapability where
  capabilityId := contract.capabilityId
  contractVersion := contract.contractVersion
  contractDigest := contract.contractDigest
  enabledEndpointIds := [text "query"]

/-- The spec of a revision that grants these contracts, in this order. -/
def specGranting (contracts : List CapabilityContract) (revision : Nat) : AdapterInstanceSpec :=
  { specOf revision with capabilities := contracts.map grantOf }

/-- A deployment of two capabilities whose desired spec grants these contracts. -/
def twoCapabilities (contracts : List CapabilityContract) : Env :=
  { deployment with
    config := { deployment.config with
      registration := { registration with supportedCapabilities := [contract, armContract] }
      initialSpec := specGranting contracts 1
      capabilities := [contract, armContract].map fun contract =>
        { contract := contract
          callbacks :=
            { start := true, stop := true, unary := true, operation := true,
              sourceOpen := true } } } }

/-- A spec is committed and replaced, up to the stops of its two capabilities. -/
def replaceSpec (contracts : List CapabilityContract) : List Action :=
  let receive (revision : Nat) : List Action :=
    [.controlReader (.tick 0),
      .controlReader (.received
        ⟨hostHeader 1 revision, .instanceSpec (specGranting contracts revision)⟩),
      .controlReader (.tick 0), .controlReader (.tick 0)]
  register ++ .controlReader (.opened true) :: receive 1 ++
    List.replicate 10 (.controlReader (.tick 0)) ++ [succeeds, succeeds, succeeds] ++
    List.replicate 6 (.controlReader (.tick 0)) ++ receive 2 ++
    List.replicate 9 (.controlReader (.tick 0))

end Deployment

/-- The stops of a trace, oldest first. -/
def stopsOf (calls : List LifecycleEvent) : List Nat :=
  (calls.filterMap fun e => match e with
    | .stopCalled b => some b
    | _ => none).reverse

/-- The capabilities started, in order. -/
def startsOf (calls : List LifecycleEvent) : List Nat :=
  (calls.filterMap fun e => match e with
    | .startCalled b true => some b
    | _ => none).reverse

/-- Every spec that was committed is this one. -/
def commitsOnly (spec : AdapterInstanceSpec) (calls : List LifecycleEvent) : Bool :=
  calls.all fun e => e.commit?.all (· == spec)

/-- Two capabilities that are granted by id are stopped in reverse. -/
theorem stops_reverse_starts_listed :
    ∃ s, (machine (twoCapabilities [armContract, contract])).Reachable s ∧
      startsOf s.client.calls = [1, 0] ∧ stopsOf s.client.calls = [0, 1] ∧
      Unwinds (twoCapabilities [armContract, contract]) s.client.calls := by
  obtain ⟨s, hReach, hCheck⟩ := Machine.exists_reaches_of_runWith
    (machine (twoCapabilities [armContract, contract])) (fun _ _ => True)
    (replaceSpec [armContract, contract])
    (fun s => (startsOf s.client.calls == [1, 0] && stopsOf s.client.calls == [0, 1]) &&
      commitsOnly (specGranting [armContract, contract] 1) s.client.calls)
    (by decide +kernel)
  rw [Bool.and_eq_true, Bool.and_eq_true, beq_iff_eq, beq_iff_eq] at hCheck
  obtain ⟨⟨hStarts, hStops⟩, hOnly⟩ := hCheck
  refine ⟨s, hReach.reachable, hStarts, hStops, stops_reverse_starts hReach.reachable ?_⟩
  intro spec hCommit bindings hValid
  have hSpec : spec = specGranting [armContract, contract] 1 := by
    have hAll := List.all_eq_true.mp hOnly _ hCommit
    simpa [LifecycleEvent.commit?] using hAll
  subst hSpec
  have hBindings : (twoCapabilities [armContract, contract]).validateInstanceSpec
      (specGranting [armContract, contract] 1) = .ok [1, 0] := by decide +kernel
  rw [hBindings, Except.ok.injEq] at hValid
  subst hValid
  decide +kernel

/-- Two capabilities that are not granted by id are stopped in the order in which they
were started. -/
theorem stops_in_start_order :
    ∃ s, (machine (twoCapabilities [contract, armContract])).Reachable s ∧
      startsOf s.client.calls = [0, 1] ∧ stopsOf s.client.calls = [0, 1] ∧
      ¬Unwinds (twoCapabilities [contract, armContract]) s.client.calls := by
  obtain ⟨s, hReach, hCheck⟩ := Machine.exists_reaches_of_runWith
    (machine (twoCapabilities [contract, armContract])) (fun _ _ => True)
    (replaceSpec [contract, armContract])
    (fun s => (startsOf s.client.calls == [0, 1] && stopsOf s.client.calls == [0, 1]) &&
      !decide (Unwinds (twoCapabilities [contract, armContract]) s.client.calls))
    (by decide +kernel)
  rw [Bool.and_eq_true, Bool.and_eq_true, beq_iff_eq, beq_iff_eq, Bool.not_eq_true',
    decide_eq_false_iff_not] at hCheck
  obtain ⟨⟨hStarts, hStops⟩, hNot⟩ := hCheck
  exact ⟨s, hReach.reachable, hStarts, hStops, hNot⟩

end Runs

end AdapterRuntime.Model
