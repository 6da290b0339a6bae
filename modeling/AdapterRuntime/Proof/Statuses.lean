import AdapterRuntime.Proof.ReadyGate

/-!
# AdapterRuntime — capability statuses

The status vector of a client is `DISABLED` without a spec, `CONFIGURING` from
the commit of a spec to the last section of its transaction, and `READY` for
the grants of the spec from then on. That last section does nothing when the
pair has failed meanwhile; the vector is then left at `CONFIGURING`, and the
application of the same spec on the next pair republishes it.

* `capability_statuses` — in runs in which the last section finds the pair live
  (and the Work writer opens the client safely), applied results and the
  heartbeats of an accepting client report `READY` for exactly the grants of
  the committed spec, and nothing reports `READY` before the `ready` callback.
-/

namespace AdapterRuntime.Model

open AdapterRuntime.Lib

variable {env : Env} {c c' : Client} {s s' : System}

-- ---------------------------------------------------------------------------
-- Status vectors
-- ---------------------------------------------------------------------------

/-- The vector reports `READY` for exactly the bindings the spec grants, and
`DISABLED` for the others. -/
def Reports (env : Env) (spec : AdapterInstanceSpec) (statuses : List CapabilityStatus) : Prop :=
  statuses.map (fun s => (s.capabilityId, s.contractVersion, s.contractDigest, s.state)) =
    env.config.capabilities.map fun b =>
      (b.contract.capabilityId, b.contract.contractVersion, b.contract.contractDigest,
        if spec.capabilities.any fun grant => grant.key == b.contract.key then CapabilityState.ready
        else .disabled)

instance (spec : AdapterInstanceSpec) (statuses : List CapabilityStatus) :
    Decidable (Reports env spec statuses) :=
  inferInstanceAs (Decidable (_ = _))

/-- The vector reports no `READY`. -/
def Unready (statuses : List CapabilityStatus) : Prop := ∀ s ∈ statuses, s.state ≠ .ready

/-- What a commit reports is what the spec grants. -/
theorem reports_grantedStatuses (spec : AdapterInstanceSpec) :
    Reports env spec (grantedStatuses env spec) := by
  unfold Reports grantedStatuses markStatuses Env.disabledCapabilityStatuses
  rw [List.map_map, List.map_map]
  refine List.map_congr_left fun b _ => ?_
  have hKey : ∀ detail, CapabilityStatus.key ⟨b.contract.capabilityId, b.contract.contractVersion,
      b.contract.contractDigest, .disabled, detail⟩ = b.contract.key := fun _ => rfl
  cases hGranted : spec.capabilities.any fun grant => grant.key == b.contract.key with
  | true => simp only [Function.comp_apply, hKey, hGranted, if_true]
  | false => simp only [Function.comp_apply, hKey, hGranted, Bool.false_eq_true, if_false]

/-- The statuses of a void report nothing ready. -/
theorem unready_disabled : Unready env.disabledCapabilityStatuses := by
  intro s hs
  obtain ⟨b, -, rfl⟩ := List.mem_map.mp hs
  simp

/-- Marking with another state makes nothing ready. -/
theorem Unready.markStatuses {p : Text → Bool} {state : CapabilityState} {detail : Text}
    {statuses : List CapabilityStatus} (h : Unready statuses) (hState : state ≠ .ready) :
    Unready (markStatuses p state detail statuses) := by
  intro s hs
  obtain ⟨b, hb, rfl⟩ := List.mem_map.mp hs
  split
  · exact hState
  · exact h b hb

/-- A failed apply reports nothing ready. -/
theorem unready_failureStatuses (failedKey error : Text) :
    Unready (failureStatuses env failedKey error) :=
  unready_disabled.markStatuses (by simp)

/-- A failed `ready` reports nothing ready. -/
theorem unready_readyFailureStatuses (failed : Nat) :
    Unready (readyFailureStatuses env failed) :=
  unready_disabled.markStatuses (by simp)

/-- A transaction that begins reports nothing ready. -/
theorem unready_configuring (statuses : List CapabilityStatus) :
    Unready (configuringStatuses statuses) := by
  intro s hs
  obtain ⟨b, -, rfl⟩ := List.mem_map.mp hs
  split
  · simp
  · assumption

/-- A `READY` entry of a granted vector is the entry of a grant. -/
theorem grant_of_ready {spec : AdapterInstanceSpec} {status : CapabilityStatus}
    (hMem : status ∈ grantedStatuses env spec) (hReady : status.state = .ready) :
    ∃ grant ∈ spec.capabilities, grant.key = status.key := by
  obtain ⟨b, hb, rfl⟩ := List.mem_map.mp hMem
  split at hReady
  · rename_i hGranted
    obtain ⟨grant, hGrant, hKey⟩ := List.any_eq_true.mp hGranted
    refine ⟨grant, hGrant, ?_⟩
    rw [if_pos hGranted]
    exact eq_of_beq hKey
  · exact absurd hReady (unready_disabled b hb)

-- ---------------------------------------------------------------------------
-- The vector through a transaction
-- ---------------------------------------------------------------------------

/-- What the status vector says outside the stretch between a commit and the
end of its transaction. A transaction that finds the client stopping leaves the
vector as it is. -/
def Client.Told (env : Env) (c : Client) : Prop :=
  (c.spec.specRevision ≠ 0 ∧ c.spec.capabilityStatuses = grantedStatuses env c.spec.activeSpec) ∨
    (Unready c.spec.capabilityStatuses ∧
      (c.spec.specRevision = 0 ∨ c.flags.stopRequested = true))

/-- The status vector at a point of the transaction. -/
def Client.Tells (env : Env) (c : Client) (at? : Option ApplyPc) : Prop :=
  if at?.any ApplyPc.readies then Unready c.spec.capabilityStatuses else c.Told env

/-- A client that has told the truth tells it at any point that commits nothing. -/
theorem Client.Told.tells (h : c.Told env) {at? : Option ApplyPc}
    (hAt : at?.any ApplyPc.readies = false) : c.Tells env at? := by
  unfold Client.Tells
  rw [hAt]
  exact h

/-- At such a point it has told the truth. -/
theorem Client.Tells.told {at? : Option ApplyPc} (h : c.Tells env at?)
    (hAt : at?.any ApplyPc.readies = false) : c.Told env := by
  unfold Client.Tells at h
  rw [hAt] at h
  exact h

/-- A client whose spec is the same, but for the desired one, says the same. -/
theorem Client.Told.of_alike (h : c.Told env) (hAlike : c.spec.Alike c'.spec)
    (hStatuses : c'.spec.capabilityStatuses = c.spec.capabilityStatuses)
    (hStopped : c.flags.stopRequested = true → c'.flags.stopRequested = true) : c'.Told env := by
  unfold Client.Told
  rw [hAlike.revision, hAlike.activeSpec, hStatuses]
  obtain hGranted | ⟨hUnready, hWhy⟩ := h
  · exact .inl hGranted
  · exact .inr ⟨hUnready, hWhy.imp_right hStopped⟩

/-- The report depends on the spec and the stop request. -/
theorem Client.Tells.of_spec {at? : Option ApplyPc} (h : c.Tells env at?)
    (hSpec : c'.spec = c.spec)
    (hStopped : c.flags.stopRequested = true → c'.flags.stopRequested = true) :
    c'.Tells env at? := by
  unfold Client.Tells at h ⊢
  split
  · rename_i hAt
    rw [if_pos hAt] at h
    rw [hSpec]
    exact h
  · rename_i hAt
    rw [if_neg hAt] at h
    refine h.of_alike ?_ (by rw [hSpec]) hStopped
    rw [hSpec]
    exact ⟨rfl, rfl, rfl, rfl, rfl⟩

/-- A report that nothing is ready is true in a void. -/
theorem told_of_unready (hUnready : Unready c.spec.capabilityStatuses)
    (hRevision : c.spec.specRevision = 0) : c.Told env :=
  .inr ⟨hUnready, .inl hRevision⟩

/-- The transaction finds its session live when it ends, or the client stopping. -/
def System.finishesLive (s : System) : Action → Bool
  | .controlReader (.tick _) =>
    match s.controlReader with
    | .applying fence (.finishing _) => s.client.pairLive fence || s.client.flags.stopRequested
    | _ => true
  | _ => true

/-- A deactivation leaves a true report. -/
theorem told_deactivateStep {reason : Text} {at_ : DeactivatePc} {next : Option DeactivatePc}
    (h : deactivateStep env reason c at_ = some (next, c')) (hTold : at_ ≠ .locked → c.Told env) :
    c'.Told env := by
  obtain ⟨-, rfl, -⟩ | ⟨hAt, -, -, hRest⟩ := deactivateStep_cases h
  · exact told_of_unready unready_disabled rfl
  · have hTells : c.Tells env none := (hTold hAt).tells rfl
    exact (hTells.of_spec hRest.spec hRest.stopped).told rfl

/-- The next start makes nothing ready. -/
theorem readies_nextStart (cand : Candidate) (remaining : List (EnabledCapability × Nat))
    (started : List Nat) (error : Text) :
    (nextStart cand remaining started error).readies = false := by
  cases remaining <;> rfl

/-- A step of the transaction, where its end finds the session live. -/
theorem ApplyMove.tells {session : Text} {at_ : ApplyPc} {next : ApplyNext}
    (h : ApplyMove env session c at_ next c') (hFits : at_.Fits env c.spec)
    (hLive : ∀ cand, at_ = .finishing cand → (c.session.sessionId = session ∧
      c.flags.sessionFailed = false ∧ c.flags.stopRequested = false) ∨
      c.flags.stopRequested = true)
    (hTells : c.Tells env (some at_)) : c'.Tells env next.getLeft? := by
  -- a step that keeps the spec between two points with the same vector
  have hKept : ∀ {at? : Option ApplyPc}, at?.any ApplyPc.readies = at_.readies →
      c'.spec = c.spec → (c.flags.stopRequested = true → c'.flags.stopRequested = true) →
      c'.Tells env at? := by
    intro at? hAt hSpec hStopped
    have hOld := hTells.of_spec hSpec hStopped
    unfold Client.Tells at hOld ⊢
    rw [hAt]
    exact hOld
  -- the two shapes of a point of `ready` deactivation
  have hReadies : ∀ {cand : Candidate} {failed : Nat} {at' : DeactivatePc}, at' ≠ .locked →
      (ApplyPc.readyDeactivating cand failed at').readies = false := by
    intro cand failed at' hAt
    cases at' <;> first | rfl | exact absurd rfl hAt
  cases h with
  | answer | waited | lock | current | proceed | outdated | startFailed | startedAll | skipReady
  | readiedAll | readyFailed => exact hKept rfl rfl id
  | begin hBegin =>
    obtain ⟨-, -, -, -, rfl⟩ := beginApply_inr hBegin
    -- a transaction that begins sets the desired spec only
    exact (Client.Told.of_alike (hTells.told rfl) ⟨rfl, rfl, rfl, rfl, rfl⟩ rfl id).tells rfl
  | stale hPc => obtain rfl | rfl := hPc <;> exact hKept rfl rfl id
  | deactivate hStep | deactivated hStep =>
    -- a deactivation tells by itself
    exact (told_deactivateStep hStep fun _ => hTells.told rfl).tells rfl
  | skipApply | skipStart | applied | started => exact hKept (readies_nextStart _ _ _ _) rfl id
  | @applyFailed cand =>
    have hRest : c.Subsides ((c.log (.applyCalled cand.spec false)).callClear env) :=
      .trans (.log _) (.callClear _ _)
    exact hKept rfl hRest.spec hRest.stopped
  -- callbacks of the application touch no status
  | unwindStop | staleStop =>
    have hRest := Client.Subsides.callStop c env
    exact hKept rfl (hRest _).spec (hRest _).stopped
  | @unwound _ clear =>
    cases clear with
    | true =>
      have hRest : c.Subsides (c.callClear env) := .callClear _ _
      exact hKept rfl hRest.spec hRest.stopped
    | false => exact hKept rfl rfl id
  | @failed cand failedKey error =>
    -- a failed transaction tells the capability that failed
    have hTold : (recordApplyFailure c (failureStatuses env failedKey error)).Told env :=
      told_of_unready (unready_failureStatuses _ _) hFits.2.2.revision
    exact hTold.tells rfl
  | commit hCommit =>
    obtain ⟨-, -, -, hSpec⟩ := commitSpec_some hCommit
    show Unready _
    rw [show (Client.log _ _).spec = _ from hSpec]
    -- a commit starts over with every capability being configured
    exact unready_configuring _
  | staleUnwound =>
    have hRest : c.Subsides (c.callClear env) := .callClear _ _
    exact hKept rfl hRest.spec hRest.stopped
  | readied => exact hTells
  | readyDeactivate hStep =>
    -- the deactivation after a failed `ready`
    obtain ⟨-, -, hNext, -⟩ | ⟨-, hNext, -⟩ := spec_deactivateStep hStep <;>
      exact (told_deactivateStep hStep fun hAt => hTells.told (hReadies hAt)).tells
        (hReadies (by simpa using hNext))
  | readyDeactivated hStep =>
    exact (told_deactivateStep hStep fun hAt => hTells.told (hReadies hAt)).tells rfl
  | @readyFailure cand failed =>
    have hTold : (recordReadyFailure c (readyFailureStatuses env failed)).Told env :=
      told_of_unready (unready_readyFailureStatuses _) hFits.2.2.revision
    exact hTold.tells rfl
  | @finish cand =>
    refine Client.Told.tells ?_ rfl
    -- the last section tells what was granted, if the session is still alive
    obtain ⟨hValid, -, hForce, -⟩ := hFits
    obtain hOpen | hStopped := hLive cand rfl
    · refine .inl ?_
      rw [spec_unlocked, finishApply, if_pos (by simpa [and_assoc] using hOpen)]
      exact ⟨hForce.revision_ne, by rw [hForce.activeSpec]⟩
    · rw [finishApply, if_neg (by simp [hStopped])]
      exact .inr ⟨hTells, .inr hStopped⟩

-- ---------------------------------------------------------------------------
-- The system
-- ---------------------------------------------------------------------------

/-- A step of the Control reader, where the end of a transaction finds the
session live. -/
theorem ControlReaderMove.tells {pc pc' : ControlReaderPc} (h : ControlReaderMove env c pc pc' c')
    (hSpec : c.spec.Stands env pc.transaction?)
    (hLive : ∀ fence cand, pc = .applying fence (.finishing cand) →
      c.pairLive fence = true ∨ c.flags.stopRequested = true)
    (hTells : c.Tells env pc.transaction?) : c'.Tells env pc'.transaction? := by
  have hApply : ∀ {fence : SessionFence} {at_ : ApplyPc}, pc = .applying fence at_ →
      ∀ cand, at_ = .finishing cand → (c.session.sessionId = fence.sessionId ∧
        c.flags.sessionFailed = false ∧ c.flags.stopRequested = false) ∨
        c.flags.stopRequested = true := by
    rintro fence at_ hPc cand rfl
    refine (hLive fence cand hPc).imp_left fun hPair => ?_
    simpa [Client.pairLive, and_assoc] using hPair
  cases h with
  | calm _ hRest hPc hPc' =>
    rw [hPc] at hTells
    rw [hPc']
    exact hTells.of_spec hRest.spec hRest.stopped
  | drain =>
    have hRest : c.Subsides (c.beginDrain env) := .beginDrain
    exact hTells.of_spec hRest.spec hRest.stopped
  | refuse => exact hTells
  | receive => exact (hTells.told rfl).tells rfl
  | apply hMove => exact hMove.tells hSpec (hApply rfl) hTells
  | conclude hMove => exact hMove.tells hSpec (hApply rfl) hTells
  | @queue _ result _ _ hQueue | @overflow _ result _ _ hQueue =>
    have hRest : c.Subsides (c.queueControlLocked env (.applyInstanceSpecResult result)).2 :=
      .queueControlLocked _
    rw [hQueue] at hRest
    exact hTells.of_spec hRest.spec hRest.stopped
  | signal =>
    have hRest := Client.Subsides.signalSessionFailure (c := c)
    exact hTells.of_spec (hRest _ _).spec (hRest _ _).stopped

/-- The supervisor does not take a stop request back before it ends. -/
theorem SupervisorTurn.stopped {pc pc' : SupervisorPc} (h : SupervisorTurn env c pc pc' c')
    (hStopped : c.flags.stopRequested = true) : c'.flags.stopRequested = true := by
  cases h with
  | calm _ hRest => exact hRest.stopped hStopped
  | install | replace | prepare | clear | report | endSession => exact hStopped
  | advance =>
    unfold Client.advanceEpoch
    split <;> exact hStopped
  | deactivate hStep | deactivated hStep => exact (steady_deactivateStep hStep).stopped hStopped

/-- A step of the supervisor. -/
theorem SupervisorTurn.tells {pc pc' : SupervisorPc} (h : SupervisorTurn env c pc pc' c')
    (hFresh : ∀ fence, pc = .install fence → c.spec.specRevision = 0) (hTold : c.Told env) :
    c'.Told env := by
  have hStopped := h.stopped
  have hTells : c.Tells env none := hTold.tells rfl
  have hKept : c'.spec = c.spec → c'.Told env := fun hSpec =>
    (hTells.of_spec hSpec hStopped).told rfl
  cases h with
  | calm _ hRest => exact hKept hRest.spec
  | install => exact told_of_unready unready_disabled (hFresh _ rfl)
  | replace | prepare | clear | report => exact hKept rfl
  | advance =>
    refine hKept ?_
    unfold Client.advanceEpoch
    split <;> rfl
  | deactivate hStep => exact told_deactivateStep hStep fun _ => hTold
  | @deactivated _ _ _ _ c₁ hStep =>
    have hDone : c₁.Told env := told_deactivateStep hStep fun _ => hTold
    exact hDone
  | endSession => exact told_of_unready unready_disabled rfl

/-- The check on the end of a transaction, at the Control reader. -/
theorem System.finishesLive_reader {a : Action} {fence : SessionFence} {cand : Candidate}
    (hLive : s.finishesLive a = true) (hStep : s.step env a = some s')
    (hPc : s.controlReader = .applying fence (.finishing cand))
    (hPc' : s'.controlReader ≠ s.controlReader) (hPhase : s.supervisor.phase ≠ .outside) :
    s.client.pairLive fence = true ∨ s.client.flags.stopRequested = true := by
  obtain ⟨input, rfl, hReader⟩ := System.controlReader_of_ne hStep hPc' hPhase
  rw [hPc] at hReader
  cases input with
  | tick now =>
    rw [System.finishesLive, hPc] at hLive
    simpa using hLive
  | opened | received | readFailed | status | callback => cases hReader

/-- Every step keeps the status vector in line, where the end of a transaction
finds the session live. -/
theorem tells_step {a : Action} (hReach : (machine env).Reachable s)
    (hTells : s.client.Tells env s.controlReader.transaction?) (hLive : s.finishesLive a = true)
    (hStep : (machine env).step s a = some s') :
    s'.client.Tells env s'.controlReader.transaction? := by
  have hShape := shape_of_reachable hReach
  have hStanding := standing_of_reachable hReach
  -- before a session is installed there is no spec revision
  have hFresh := revision_of_fresh hReach
  -- outside a pair no transaction is in progress
  have hTold : s.supervisor.phase = .outside → s.client.Told env := by
    intro hPhase
    rw [hShape.threads.no_transaction (by rw [hPhase]; rfl)] at hTells
    exact hTells.told rfl
  have hQuiet : s.supervisor.phase = .outside → s'.controlReader = s.controlReader →
      s'.client.Told env → s'.client.Tells env s'.controlReader.transaction? := by
    intro hPhase hReader hTold'
    rw [hReader, hShape.threads.no_transaction (by rw [hPhase]; rfl)]
    exact hTold'.tells rfl
  have hNotStarted : s.supervisor = .notStarted → s.supervisor.phase = .outside := by
    intro hPc
    rw [hPc]
    rfl
  cases controlMove_of_reachable hReach hStep with
  | calm hHelm hRest hReader =>
    rw [hReader]
    exact hTells.of_spec (spec_of_helm hHelm) hRest.stopped
  | controlReader hMove _ hPhase =>
    -- the transaction tells, unless it finished over a dead session
    refine hMove.tells hStanding.spec ?_ hTells
    intro fence cand hPc
    refine System.finishesLive_reader hLive hStep hPc ?_ (phase_of_control hPhase)
    intro hSame
    rw [hSame, hPc] at hMove
    cases hMove with
    | calm _ _ hNone => cases hNone
    | apply hApply => cases hApply
  | controlWriter hMove _ hReader _ _ _ hSteady =>
    rw [hReader]
    exact hTells.of_spec (spec_controlWriterMove hMove) hSteady.stopped
  | workWriter hMove _ hReader _ _ _ hSteady =>
    rw [hReader]
    exact hTells.of_spec (spec_workWriterMove hMove) hSteady.stopped
  | supervisor hTurn hReader =>
    -- outside a pair the supervisor may clear the spec, inside it does not
    obtain hSame | ⟨hPhase, fence, hOpening⟩ := hReader
    · by_cases hPhase : s.supervisor.phase = .outside
      · refine hQuiet hPhase hSame (hTurn.tells ?_ (hTold hPhase))
        intro fence hPc
        exact hFresh (.inr (by rw [hPc]; rfl))
      · rw [hSame]
        have hSpec : s'.client.spec = s.client.spec := by
          by_contra hNe
          exact hPhase (hTurn.outside hNe)
        exact hTells.of_spec hSpec hTurn.stopped
    · rw [hOpening]
      refine (hTurn.tells ?_ (hTold hPhase)).tells rfl
      intro fence hPc
      exact hFresh (.inr (by rw [hPc]; rfl))
  | startThreads hStopped hClient hReader _ _ _ _ hStarter =>
    -- a client that starts for the first time has no spec
    have hZero := hFresh (.inl ((single_of_reachable hReach).unattempted hStarter))
    refine hQuiet (hNotStarted hStopped) hReader ?_
    obtain ⟨hNonzero, -⟩ | ⟨hUnready, -⟩ := hTold (hNotStarted hStopped)
    · exact absurd hZero hNonzero
    · rw [hClient]
      exact told_of_unready hUnready hZero
  | join hClient hReader =>
    rw [hClient, hReader]
    exact hTells
  | stopDeactivate hStopper hDeactivate _ hReader =>
    -- the steps of `Stop`, after the threads are gone
    have hPhase := hNotStarted (hShape.threads.stopper (by rw [hStopper]; rfl))
    exact hQuiet hPhase hReader (told_deactivateStep hDeactivate fun _ => hTold hPhase)
  | @stopDeactivated _ c' hStopper hDeactivate hClient _ hReader =>
    have hPhase := hNotStarted (hShape.threads.stopper (by rw [hStopper]; rfl))
    refine hQuiet hPhase hReader ?_
    have hDone : c'.Told env := told_deactivateStep hDeactivate fun _ => hTold hPhase
    rw [hClient]
    exact hDone
  | stopReset hStopper hClient _ hReader =>
    have hPhase := hNotStarted (hShape.threads.stopper (by rw [hStopper]; rfl))
    -- the reset is back at the beginning
    refine hQuiet hPhase hReader ?_
    rw [hClient]
    exact told_of_unready unready_disabled rfl

/-- Every run that finishes live transactions only tells the truth. -/
theorem tells_of_reaches {P : System → Action → Prop}
    (hP : ∀ s a, P s a → s.finishesLive a = true) (h : (machine env).Reaches P s) :
    s.client.Tells env s.controlReader.transaction? := by
  refine Machine.Reaches.invariant
    (I := fun s => s.client.Tells env s.controlReader.transaction?) ?_ ?_ h
  · refine Client.Told.tells (told_of_unready ?_ rfl) rfl
    intro s hs
    cases hs
  · intro s a s' hReach hTells hCond hStep
    exact tells_step hReach.reachable hTells (hP s a hCond) hStep

-- ---------------------------------------------------------------------------
-- What is reported
-- ---------------------------------------------------------------------------

/-- The entry belongs to a grant of the committed spec whose `ready` callback,
where there is one, has returned. -/
def SpecState.Returned (env : Env) (spec : SpecState) (status : CapabilityStatus) : Prop :=
  ∃ grant ∈ spec.activeSpec.capabilities, grant.key = status.key ∧
    ∀ binding, env.findBindingIndex grant = some binding →
      env.hasCallback CapabilityCallbacks.ready binding = true → binding ∈ spec.readyReturned

/-- A granted contract that is reported ready has had its `ready`. -/
theorem SpecState.InForce.returned_of_ready {spec : SpecState} {cand : Candidate}
    (h : spec.InForce env cand) (hReady : spec.Ready env cand.bindings)
    {status : CapabilityStatus} (hMem : status ∈ grantedStatuses env spec.activeSpec)
    (hState : status.state = .ready) : spec.Returned env status := by
  obtain ⟨grant, hGrant, hKey⟩ := grant_of_ready hMem hState
  exact ⟨grant, hGrant, hKey, fun binding hBinding hBound =>
    h.returned hReady hGrant hBinding hBound⟩


/-- What a spec result says of the capabilities of a client. -/
structure ApplyInstanceSpecResult.Honest (env : Env) (result : ApplyInstanceSpecResult)
    (spec : SpecState) : Prop where
  applied : result.applied = true → spec.specRevision ≠ 0 ∧ result.revision = spec.specRevision ∧
    Reports env spec.activeSpec result.capabilities
  returned : ∀ status ∈ result.capabilities, status.state = .ready → spec.Returned env status

/-- A refusal that reports nothing ready is honest. -/
theorem ApplyInstanceSpecResult.Honest.of_unready {result : ApplyInstanceSpecResult}
    {spec : SpecState} (hApplied : result.applied = false) (hUnready : Unready result.capabilities) :
    result.Honest env spec :=
  ⟨by simp [hApplied], fun status hStatus hReady => absurd hReady (hUnready status hStatus)⟩

/-- An applied result with the vector of a complete spec. -/
theorem SpecState.InForce.honest {spec : SpecState} {cand : Candidate}
    (h : spec.InForce env cand) (hReady : spec.Ready env cand.bindings)
    {spec' : AdapterInstanceSpec} (hRevision : spec'.revision = spec.specRevision) :
    (specApplied spec' (grantedStatuses env spec.activeSpec)).Honest env spec :=
  ⟨fun _ => ⟨h.revision_ne, hRevision, reports_grantedStatuses _⟩,
    fun _ hMem hState => h.returned_of_ready hReady hMem hState⟩

theorem unready_nil : Unready [] := by
  intro s hs
  cases hs

/-- The answers of the first section of a transaction: a refusal, or the
repetition of the committed spec. -/
theorem beginApply_inl {session : Text} {spec : AdapterInstanceSpec}
    {result : ApplyInstanceSpecResult} (h : beginApply env c session spec = .inl result) :
    (result.applied = false ∧ result.capabilities = []) ∨
      (result = specApplied spec c.spec.capabilityStatuses ∧
        spec.revision = c.spec.specRevision ∧ c.flags.stopRequested = false) := by
  unfold beginApply at h
  split at h
  · cases h
    exact .inl ⟨rfl, rfl⟩
  · rename_i hLive
    simp only [not_or, not_not, Bool.not_eq_true] at hLive
    split at h
    · rename_i hSame
      split at h <;> cases h
      · exact .inl ⟨rfl, rfl⟩
      · exact .inr ⟨rfl, hSame.1, hLive.2.1⟩
    · split at h
      · cases h
        exact .inl ⟨rfl, rfl⟩
      · split at h
        · cases h
          exact .inl ⟨rfl, rfl⟩
        · cases h

/-- The results a transaction ends with. -/
theorem ApplyMove.honest {session : Text} {at_ : ApplyPc} {result : ApplyInstanceSpecResult}
    (h : ApplyMove env session c at_ (.inr result) c') (hFits : at_.Fits env c.spec)
    (hTells : c.Tells env (some at_)) : result.Honest env c'.spec := by
  cases h with
  | answer hResult =>
    obtain ⟨hApplied, hNone⟩ | ⟨rfl, hRevision, hRunning⟩ := beginApply_inl hResult
    · exact .of_unready hApplied (by rw [hNone]; exact unready_nil)
    · have hNonzero : c.spec.specRevision ≠ 0 := by
        rw [← hRevision]
        exact hFits.1.revision
      have hStands : c.spec.Stands env none := hFits.2
      obtain ⟨cand, hForce, hReady⟩ := hStands.complete rfl hNonzero
      obtain ⟨-, hGranted⟩ | ⟨-, hZero | hStopped⟩ := hTells.told rfl
      · rw [hGranted]
        exact hForce.honest hReady hRevision
      · exact absurd hZero hNonzero
      · rw [hRunning] at hStopped
        cases hStopped
  | stale | staleUnwound => exact .of_unready rfl unready_nil
  | failed => exact .of_unready rfl (unready_failureStatuses _ _)
  | readyFailure => exact .of_unready rfl (unready_readyFailureStatuses _)
  | @finish cand =>
    obtain ⟨-, -, hForce, hReady⟩ := hFits
    have hAlike := (alike_finishApply c session
            (grantedStatuses env cand.spec)).1
    have hForce' := hForce.alike hAlike
    have hHonest := hForce'.honest (hReady.alike hAlike) hForce'.revision.symm
    rw [hForce'.activeSpec] at hHonest
    exact hHonest

/-- The results the Control reader comes to hold. -/
theorem ControlReaderMove.honest {pc pc' : ControlReaderPc} {result : ApplyInstanceSpecResult}
    (h : ControlReaderMove env c pc pc' c') (hSpec : c.spec.Stands env pc.transaction?)
    (hTells : c.Tells env pc.transaction?) (hResult : pc'.result? = some result) :
    result.Honest env c'.spec := by
  cases h with
  | calm _ _ _ _ _ hNone =>
    rw [hNone] at hResult
    cases hResult
  | refuse =>
    cases hResult
    exact .of_unready rfl unready_disabled
  | conclude hMove =>
    cases hResult
    exact hMove.honest hSpec hTells
  | drain | receive | apply | queue | overflow | signal => cases hResult

/-- The steps that can leave the status vector out of line: the end of a
transaction, and the opening of the client by the Work writer. -/
def System.tellsSafely (s : System) (a : Action) : Bool := s.readiesSafely a && s.finishesLive a

/-- **Capability statuses.** In every run in which transactions end on a live
session and the Work writer opens the client only with a committed spec and
outside transactions: the heartbeats of a client that accepts Work report
`READY` for exactly the grants of the committed spec; so does every applied
spec result that comes up; and no heartbeat and no spec result reports `READY`
for a capability whose `ready` callback of the committed spec has not returned. -/
theorem capability_statuses
    (h : (machine env).Reaches (fun s a => s.tellsSafely a = true) s) :
    (∀ now nonce, s.client.flags.acceptingWork = true →
      Reports env s.client.spec.activeSpec (buildHeartbeat s.client now nonce).capabilities) ∧
    (∀ now nonce, ∀ status ∈ (buildHeartbeat s.client now nonce).capabilities,
      status.state = .ready → s.client.spec.Returned env status) ∧
    ∀ a s' result, (machine env).step s a = some s' → s.controlReader.result? = none →
      s'.controlReader.result? = some result → result.Honest env s'.client.spec := by
  have hReach := h.reachable
  have hStanding := standing_of_reachable hReach
  have hTells := tells_of_reaches (fun s a hSafe => ((Bool.and_eq_true _ _).mp hSafe).2) h
  refine ⟨fun now nonce hAccepting => ?_, fun now nonce status hMem hState => ?_, ?_⟩
  · -- an open gate: there is a committed spec and no transaction in progress
    have hGate := gate_of_reaches (h.mono fun s a hSafe => ((Bool.and_eq_true _ _).mp hSafe).1)
    obtain ⟨hRevision, hIdle⟩ := hGate.accepting hAccepting
    have hTold : s.client.Told env := by
      refine hTells.told ?_
      cases hAt : s.controlReader.transaction? with
      | none => rfl
      | some at_ =>
        exact ApplyPc.readies_of_not_begun ((System.inTransaction_iff.mp hIdle).1 at_ hAt)
    show Reports env _ s.client.spec.capabilityStatuses
    obtain ⟨-, hGranted⟩ | ⟨-, hZero | hStopped⟩ := hTold
    · rw [hGranted]
      exact reports_grantedStatuses _
    · exact absurd hZero hRevision
    · rw [(single_of_reachable hReach).halted hStopped] at hAccepting
      cases hAccepting
  · -- a status that says `ready` was granted by the committed spec
    have hMem : status ∈ s.client.spec.capabilityStatuses := hMem
    by_cases hAt : (s.controlReader.transaction?.any ApplyPc.readies) = true
    · unfold Client.Tells at hTells
      rw [if_pos hAt] at hTells
      exact absurd hState (hTells status hMem)
    · have hAt : s.controlReader.transaction?.any ApplyPc.readies = false := by simpa using hAt
      obtain ⟨hRevision, hGranted⟩ | ⟨hUnready, -⟩ := hTells.told hAt
      · obtain ⟨cand, hForce, hReady⟩ := hStanding.spec.complete hAt hRevision
        rw [hGranted] at hMem
        exact hForce.returned_of_ready hReady hMem hState
      · exact absurd hState (hUnready status hMem)
  · intro a s' result hStep hNone hResult
    -- a result comes from the last section of a transaction
    have hSame : s'.controlReader ≠ s.controlReader := by
      intro hEq
      rw [hEq, hNone] at hResult
      cases hResult
    cases controlMove_of_reachable hReach hStep with
    | controlReader hMove => exact hMove.honest hStanding.spec hTells hResult
    | supervisor _ hReader =>
      obtain hEq | ⟨-, fence, hEq⟩ := hReader
      · exact absurd hEq hSame
      · rw [hEq] at hResult
        cases hResult
    | calm _ _ hReader | controlWriter _ _ hReader | workWriter _ _ hReader
    | startThreads _ _ hReader | join _ hReader | stopDeactivate _ _ _ hReader
    | stopDeactivated _ _ _ _ hReader | stopReset _ _ _ hReader => exact absurd hReader hSame

section Runs

open Deployment

/-- The spec is repeated on the pair that replaces a failed one. -/
theorem capability_statuses_repeated :
    ∃ s, (machine deployment).Reaches (fun s a => s.tellsSafely a = true) s ∧
      s.client.session.connectionEpochCounter = 2 ∧ s.client.flags.acceptingWork = true ∧
      Reports deployment (specOf 1) (buildHeartbeat s.client 0 0).capabilities := by
  obtain ⟨s, hReach, hRun⟩ := Machine.exists_reaches_of_runWith (machine deployment)
    (fun s a => s.tellsSafely a = true) (bringUp ++ failPair ++ replacePair 2)
    (fun s => s.client.session.connectionEpochCounter == 2 && s.client.flags.acceptingWork &&
      s.client.spec.activeSpec == specOf 1) (by decide +kernel)
  simp only [Bool.and_eq_true, beq_iff_eq] at hRun
  obtain ⟨⟨hEpoch, hAccepting⟩, hSpec⟩ := hRun
  have hReports := (capability_statuses hReach).1 0 0 hAccepting
  rw [hSpec] at hReports
  exact ⟨s, hReach, hEpoch, hAccepting, hReports⟩

/-- The pair fails between the commit of the spec and the end of its
transaction; on the next pair the repeated spec is reported as applied with
every capability still `CONFIGURING`. -/
theorem capability_status_stuck :
    ∃ s result, (machine deployment).Reachable s ∧ s.controlReader.result? = some result ∧
      result.applied = true ∧ ¬Reports deployment s.client.spec.activeSpec result.capabilities := by
  obtain ⟨s, hReach, hRun⟩ := Machine.exists_reaches_of_runWith (machine deployment)
    (fun _ _ => True)
    (register ++ .controlReader (.opened true) :: receiveSpec 1 1 1 ++
      (transaction 0).dropLast.dropLast ++ failPair ++
      -- the transaction ends, its result is not queued, and the pair is replaced
      List.replicate 2 (.controlReader (.tick 0)) ++ [.supervisor .tick, .controlReader (.tick 0),
        .controlReader (.status .ok), .controlReader (.tick 0), .controlReader (.tick 0)] ++
      List.replicate 15 (.supervisor .tick) ++
      .controlReader (.opened true) :: receiveSpec 2 1 1 ++ [.controlReader (.tick 0)])
    (fun s => s.controlReader.result?.any fun result => result.applied &&
      !decide (Reports deployment s.client.spec.activeSpec result.capabilities)) (by decide +kernel)
  obtain ⟨result, hResult, hBoth⟩ := (Option.any_eq_true _ _).mp hRun
  rw [Bool.and_eq_true, Bool.not_eq_true', decide_eq_false_iff_not] at hBoth
  exact ⟨s, result, hReach, hResult, hBoth.1, hBoth.2⟩

end Runs

end AdapterRuntime.Model
