import AdapterRuntime.Proof.Limits

/-!
# AdapterRuntime — the source ledger

`source_state_bytes_` is charged when a source identity is admitted, or refused
with a retained terminal, and given back when the Host acknowledges that
terminal. In between the charge moves with the identity, from the table of
active sources to the tombstones.

* `SourceMove.ledger` — what a step does to the ledger.
* `sourceLedger_of_reachable` — the ledger and its limits in every reachable
  state.
* `source_ledger` — the law of the ledger on an attached pair.
-/

namespace AdapterRuntime.Model

open AdapterRuntime.Lib

variable {env : Env} {c c' : Client} {s s' : System} {a : Action}

-- ---------------------------------------------------------------------------
-- The accounting of one identity
-- ---------------------------------------------------------------------------

/-- The bytes a source identity is charged for, in exact arithmetic. -/
def sourceCharge (c : Client) (job : DispatchJob) : Nat :=
  job.accountedBytes + kCanonicalSha256TextBytes + job.fingerprint.length +
    c.session.maximumWorkFrameBytes

/-- The overflow guards refuse exactly the charges that do not fit a word. -/
theorem sourceAccountedBytes_eq (job : DispatchJob) :
    sourceAccountedBytes c job =
      if sourceCharge c job ≤ sizeMax then some (sourceCharge c job) else none := by
  have hText : kCanonicalSha256TextBytes ≤ sizeMax := by decide
  unfold sourceAccountedBytes sourceCharge
  simp only
  generalize kCanonicalSha256TextBytes = digestBytes at *
  generalize sizeMax = word at *
  split
  · rw [if_neg (by omega)]
  · split
    · rw [if_neg (by omega)]
    · split
      · rw [if_neg (by omega)]
      · rw [if_pos (by omega)]
        congr 1
        omega

/-- A charge the budget admits is exact and keeps the ledger within its limit. -/
theorem sourceBudgetFits_some {job : DispatchJob} {bytes : Nat}
    (h : sourceBudgetFits env c job = some bytes) :
    bytes = sourceCharge c job ∧ bytes ≤ sizeMax ∧
      c.tables.sourceStateBytes + bytes ≤ env.config.maximumSourceStateBytes := by
  unfold sourceBudgetFits at h
  rw [sourceAccountedBytes_eq] at h
  by_cases hWord : sourceCharge c job ≤ sizeMax
  · rw [if_pos hWord] at h
    simp only at h
    split at h
    · rename_i hFits
      cases h
      exact ⟨rfl, hWord, fitsByteBudget_iff.mp hFits⟩
    · cases h
  · rw [if_neg hWord] at h
    cases h

/-- What an admission by `EnqueueSourceOpen` has checked of the limits. -/
structure SourceRoom (env : Env) (c : Client) (job : DispatchJob)
    (endpoint : CapabilityEndpointContract) (bytes : Nat) : Prop where
  identities : c.tables.sourceIdentities < env.config.maximumSourceTombstones
  streams : Store.size c.tables.sourceStreams < env.config.maximumSourceStreams
  endpoint : 0 < endpoint.limits.maximumStreams →
    countSourceStreams c job.sourceOpen.context.capabilityId job.sourceOpen.context.endpointId <
      endpoint.limits.maximumStreams
  budget : sourceBudgetFits env c job = some bytes

/-- An accepted open has found room in every budget. -/
theorem freshSourceVerdict_room {now : Int} {job : DispatchJob} {index bytes : Nat}
    {endpoint : CapabilityEndpointContract}
    (h : freshSourceVerdict env c now job = .accept index endpoint bytes) :
    SourceRoom env c job endpoint bytes := by
  unfold freshSourceVerdict at h
  simp only at h
  split at h
  · cases h
  · split at h
    · cases h
    · split at h
      · cases h
      · split at h
        · cases h
        · split at h
          · cases h
          · rename_i hIdentities
            split at h
            · cases h
            · rename_i hStreams
              split at h
              · cases h
              · rename_i hEndpoint
                split at h
                · cases h
                · split at h
                  · cases h
                  · split at h
                    · cases h
                    · rename_i hBudget
                      cases h
                      rw [not_and, not_le] at hEndpoint
                      exact ⟨not_le.mp hIdentities, not_le.mp hStreams, hEndpoint, hBudget⟩

-- ---------------------------------------------------------------------------
-- One step
-- ---------------------------------------------------------------------------

/-- The bytes charged for the source identities of the tables. -/
def Tables.sourceWeight (t : Tables) : Nat :=
  Store.total SourceState.accountedBytes t.sourceStreams +
    Store.total ClosedSourceState.accountedBytes t.closedSources

/-- What a step can do to the source ledger. -/
inductive SourceLedgerMove (env : Env) (s : System) (a : Action) (s' : System) : Prop
  | level (hWeight : s'.client.tables.sourceWeight = s.client.tables.sourceWeight)
      (hBytes : s'.client.tables.sourceStateBytes = s.client.tables.sourceStateBytes)
      (hIdentities : s'.client.tables.sourceIdentities = s.client.tables.sourceIdentities)
      (hStreams : Store.size s'.client.tables.sourceStreams ≤
        Store.size s.client.tables.sourceStreams)
  | charge {bytes : Nat}
      (hRoom : s.client.tables.sourceIdentities < env.config.maximumSourceTombstones)
      (hFits : s.client.tables.sourceStateBytes + bytes ≤ env.config.maximumSourceStateBytes)
      (hWeight : s'.client.tables.sourceWeight = s.client.tables.sourceWeight + bytes)
      (hBytes : s'.client.tables.sourceStateBytes = s.client.tables.sourceStateBytes + bytes)
      (hIdentities : s'.client.tables.sourceIdentities = s.client.tables.sourceIdentities + 1)
      (hStreams : Store.size s'.client.tables.sourceStreams ≤
          Store.size s.client.tables.sourceStreams ∨
        Store.size s'.client.tables.sourceStreams ≤ env.config.maximumSourceStreams)
  | discharge {bytes : Nat}
      (hWeight : s'.client.tables.sourceWeight + bytes = s.client.tables.sourceWeight)
      (hBytes : s'.client.tables.sourceStateBytes = s.client.tables.sourceStateBytes - bytes)
      (hIdentities : s'.client.tables.sourceIdentities + 1 = s.client.tables.sourceIdentities)
      (hStreams : s'.client.tables.sourceStreams = s.client.tables.sourceStreams)
  | clear (hSources : s'.client.tables.sourceStreams = ∅)
      (hClosed : s'.client.tables.closedSources = ∅)
      (hBytes : s'.client.tables.sourceStateBytes = 0)
  | retire (hPhase : s.supervisor.phase = .replacing ∨ s.supervisor.phase = .outside)
      (hSources : s'.client.tables.sourceStreams = s.client.tables.sourceStreams ∨
        s'.client.tables.sourceStreams = ∅)
      (hLedger : s.client.tables.SameOrNoTombstones s'.client.tables)
      (hDrop : s.supervisor.phase = .replacing → (∃ input, a = .supervisor input) ∧
        s'.client.tables.sourceStreams = ∅)

/-- A step that replaces active sources in place leaves the ledger level. -/
theorem SourceLedgerMove.of_replaced {streamId : Text} {source source' : SourceState}
    (hActive : s.client.tables.sourceStreams.lookup streamId = some source)
    (hSources : s'.client.tables.sourceStreams =
      s.client.tables.sourceStreams.insert streamId source')
    (hClosed : s'.client.tables.closedSources = s.client.tables.closedSources)
    (hBytes : s'.client.tables.sourceStateBytes = s.client.tables.sourceStateBytes)
    (hCharge : source'.accountedBytes = source.accountedBytes) :
    SourceLedgerMove env s a s' := by
  have hSize := Store.size_replace hActive source'
  have hTotal := Store.total_replace SourceState.accountedBytes hActive source'
  refine .level ?_ hBytes ?_ ?_
  · unfold Tables.sourceWeight
    rw [hSources, hClosed]
    omega
  · unfold Tables.sourceIdentities
    rw [hSources, hClosed, hSize]
  · rw [hSources, hSize]

/-- A source that becomes a tombstone takes its charge along. -/
theorem SourceLedgerMove.of_closed {streamId : Text} {source : SourceState}
    {closed : ClosedSourceState} (hOwn : Sources s)
    (hActive : s.client.tables.sourceStreams.lookup streamId = some source)
    (hSources : s'.client.tables.sourceStreams = s.client.tables.sourceStreams.erase streamId)
    (hClosed : s'.client.tables.closedSources =
      s.client.tables.closedSources.insert streamId closed)
    (hBytes : s'.client.tables.sourceStateBytes = s.client.tables.sourceStateBytes)
    (hCharge : closed.accountedBytes = source.accountedBytes) : SourceLedgerMove env s a s' := by
  have hFresh := hOwn.exclusive streamId source hActive
  have hSize := Store.size_erase hActive
  have hTotal := Store.total_erase SourceState.accountedBytes hActive
  have hSize' := Store.size_insert (v := closed) hFresh
  have hTotal' := Store.total_insert ClosedSourceState.accountedBytes (v := closed) hFresh
  refine .level ?_ hBytes ?_ ?_
  · unfold Tables.sourceWeight
    rw [hSources, hClosed]
    omega
  · unfold Tables.sourceIdentities
    rw [hSources, hClosed]
    omega
  · rw [hSources]
    omega

/-- Every step moves the source ledger in one of these ways. -/
theorem SourceMove.ledger (h : SourceMove env s a s') (hOwn : Sources s) :
    SourceLedgerMove env s a s' := by
  -- a move that keeps both tables and the counter keeps the ledger level
  have hLevel : s'.client.tables.sourceStreams = s.client.tables.sourceStreams →
      s'.client.tables.closedSources = s.client.tables.closedSources →
      s'.client.tables.sourceStateBytes = s.client.tables.sourceStateBytes →
      SourceLedgerMove env s a s' := by
    intro hSources hClosed hBytes
    refine .level ?_ hBytes ?_ (by rw [hSources]) <;>
      simp only [Tables.sourceWeight, Tables.sourceIdentities, hSources, hClosed]
  cases h with
  | keep hSources hClosed _ _ hBytes => exact hLevel hSources hClosed hBytes
  | cancel _ _ hCore =>
    exact hLevel (congrArg (fun k : Core => k.tables.sourceStreams) hCore)
      (congrArg (fun k : Core => k.tables.closedSources) hCore)
      (congrArg (fun k : Core => k.tables.sourceStateBytes) hCore)
  | @enter _ job index bytes endpoint now _ _ _ hVerdict hClient =>
    -- the new source is charged in full, and there was room for it
    obtain ⟨-, hUnused, -, hFresh⟩ := sourceOpenVerdict_fresh hVerdict (by simp) (by simp)
    have hRoom := freshSourceVerdict_room hFresh
    have hBudget := sourceBudgetFits_some hRoom.budget
    have hNew : s.client.tables.sourceStreams.lookup job.workId = none := hUnused.2.1
    refine @SourceLedgerMove.charge _ _ _ _ bytes hRoom.identities hBudget.2.2 ?_ (by rw [hClient]; rfl) ?_
      (.inr ?_) <;> rw [hClient]
    · simp only [Tables.sourceWeight, Client.admitSource, Store.total_insert _ hNew,
        admittedSource]
      omega
    · simp only [Tables.sourceIdentities, Client.admitSource, Store.size_insert hNew]
      omega
    · simp only [Client.admitSource, Store.size_insert hNew]
      exact hRoom.streams
  | @reject _ job bytes error digest _ hUnused hClient _ hRoom hFits =>
    -- a rejected open charges its tombstone
    have hBudget := sourceBudgetFits_some hFits
    have hNew : s.client.tables.closedSources.lookup job.workId = none := hUnused.1
    have hSources : s'.client.tables.sourceStreams = s.client.tables.sourceStreams := by
      rw [hClient]
      rfl
    obtain ⟨closed, hClosed, hCharge⟩ : ∃ closed, s'.client.tables.closedSources =
        s.client.tables.closedSources.insert job.workId closed ∧
        closed.accountedBytes = bytes :=
      ⟨_, congrArg (fun k : Client => k.tables.closedSources) hClient, rfl⟩
    refine @SourceLedgerMove.charge _ _ _ _ bytes hRoom hBudget.2.2 ?_ (by rw [hClient]; rfl) ?_
      (.inl (by rw [hSources]))
    · simp only [Tables.sourceWeight, hSources, hClosed, Store.total_insert _ hNew]
      omega
    · simp only [Tables.sourceIdentities, hSources, hClosed, Store.size_insert hNew]
      omega
  | open_ _ hOwns _ hClient =>
    -- an open source is replaced by one of the same charge
    exact .of_replaced hOwns.active (congrArg (fun k : Client => k.tables.sourceStreams) hClient)
      (by rw [hClient]; rfl) (by rw [hClient]; rfl) rfl
  | publish _ hPublishes hClient =>
    exact .of_replaced hPublishes.active
      (congrArg (fun k : Client => k.tables.sourceStreams) hClient) (by rw [hClient]; rfl)
      (by rw [hClient]; rfl) rfl
  | grant _ hActive _ _ _ _ _ hClient =>
    exact .of_replaced hActive (congrArg (fun k : Client => k.tables.sourceStreams) hClient)
      (by rw [hClient]; rfl) (by rw [hClient]; rfl) rfl
  | refuse _ hOwns _ hClient =>
    -- a closing source hands its charge to the tombstone
    exact .of_closed hOwn hOwns.active (by rw [hClient]; rfl)
      (congrArg (fun k : Client => k.tables.closedSources) hClient) (by rw [hClient]; rfl) rfl
  | close _ hActive _ hClient =>
    exact .of_closed hOwn hActive (by rw [hClient]; rfl)
      (congrArg (fun k : Client => k.tables.closedSources) hClient) (by rw [hClient]; rfl) rfl
  | cancelOpened _ hActive _ hClient =>
    exact .of_closed hOwn hActive (by rw [hClient]; rfl)
      (congrArg (fun k : Client => k.tables.closedSources) hClient) (by rw [hClient]; rfl) rfl
  | @lateGrant _ streamId closed acknowledged _ hActive hClient =>
    -- a late grant rewrites a tombstone of the same charge
    have hSize := Store.size_replace hActive { closed with acknowledgedSequence := acknowledged }
    have hTotal := Store.total_replace ClosedSourceState.accountedBytes hActive
      { closed with acknowledgedSequence := acknowledged }
    refine .level ?_ (by rw [hClient]) ?_ (by rw [hClient]) <;> rw [hClient]
    · simp only [Tables.sourceWeight] at hTotal ⊢
      omega
    · simp only [Tables.sourceIdentities, hSize]
  | @acknowledge _ streamId closed _ _ bytes _ _ _ _ _ hActive _ hClient _ hBytes =>
    -- the acknowledged tombstone gives its charge back
    have hSize := Store.size_erase hActive
    have hTotal := Store.total_erase ClosedSourceState.accountedBytes hActive
    refine @SourceLedgerMove.discharge _ _ _ _ closed.accountedBytes ?_ (by rw [hClient]; exact hBytes) ?_
      (by rw [hClient]) <;> rw [hClient]
    · simp only [Tables.sourceWeight]
      omega
    · simp only [Tables.sourceIdentities]
      omega
  | deactivate _ _ hCore =>
    -- a session that ends empties the ledger
    exact .clear (congrArg (fun k : Core => k.tables.sourceStreams) hCore)
      (congrArg (fun k : Core => k.tables.closedSources) hCore)
      (congrArg (fun k : Core => k.tables.sourceStateBytes) hCore)
  | retire hPhase hSources _ _ hLedger hDrop => exact .retire hPhase hSources hLedger hDrop

-- ---------------------------------------------------------------------------
-- The pair
-- ---------------------------------------------------------------------------

/-- The pair is attached: prepared, and not yet being replaced. -/
def PairPhase.attached : PairPhase → Bool
  | .opening | .running | .joining | .replacing => true
  | _ => false

/-- A pair that is attached after a step is the one of before, or it has just been
prepared. -/
theorem attached_of_step (h : Shape s) (hStep : s.step env a = some s')
    (hAttached : s'.supervisor.phase.attached = true) :
    (s.supervisor.phase.attached = true ∧ s'.client.core = s.client.core) ∨
    (s'.supervisor = s.supervisor ∧ ∀ input, a ≠ .supervisor input) ∨
    (s.supervisor.phase = .outside ∧
      s'.client.tables.sourceStreams = s.client.tables.sourceStreams ∧
      s'.client.tables.closedSources = ∅ ∧ s'.client.tables.sourceStateBytes = 0) := by
  cases System.step_cases hStep with
  | worker | workReader | controlReader | workWriter | controlWriter | publishSource
  | closeSource => exact .inr (.inl ⟨rfl, by simp⟩)
  | flags hCore => exact .inl ⟨hAttached, hCore⟩
  | startThreads | joinSupervisor => cases hAttached
  | joinWorkers hStopper | stopDeactivate hStopper | stopReset hStopper =>
    have hPc := h.threads.stopper (by rw [hStopper]; rfl)
    simp only [hPc] at hAttached
    cases hAttached
  | supervisor hSupervisor =>
    have hMove := supervisorStep_cases hSupervisor
    simp only at hAttached
    generalize s.supervisor = pc at hMove
    cases hMove with
    | quiet _ _ _ hPhase' =>
      rw [hPhase'] at hAttached
      cases hAttached
    | prepare =>
      exact .inr (.inr ⟨rfl, s.client.tables.releaseAllWorkTokens_sourceStreams, rfl, rfl⟩)
    | attach | joinControl | joinWork => exact .inl ⟨rfl, rfl⟩
    | ended hPc => obtain rfl | rfl := hPc <;> exact .inl ⟨rfl, rfl⟩
    | install | replaceBegin | replaceWait | release | clear | advance | deactivate
    | endSession => cases hAttached

/-- Sources outlive a step of a pair, unless the pair drops them. -/
theorem queues_of_step (h : Shape s) (hStep : s.step env a = some s')
    (hQueues : s.supervisor.phase.queues = true) :
    s'.supervisor.phase.queues = true ∨ s'.client.tables.sourceStreams = ∅ := by
  cases System.step_cases hStep with
  | worker | workReader | controlReader | workWriter | controlWriter | publishSource
  | closeSource | flags => exact .inl hQueues
  | startThreads hFully =>
    rw [System.notStarted_of_fullyStopped hFully] at hQueues
    cases hQueues
  | joinSupervisor hDone => obtain hPc | hPc := hDone <;> rw [hPc] at hQueues <;> cases hQueues
  | joinWorkers hStopper | stopDeactivate hStopper | stopReset hStopper =>
    rw [h.threads.stopper (by rw [hStopper]; rfl)] at hQueues
    cases hQueues
  | supervisor hSupervisor =>
    have hMove := supervisorStep_cases hSupervisor
    generalize s.supervisor = pc at hMove hQueues
    cases hMove with
    | quiet _ _ hPhase =>
      rw [hPhase] at hQueues
      cases hQueues
    | ended hPc => exact .inl rfl
    | joinControl | joinWork => exact .inl rfl
    | replaceBegin => exact .inr rfl
    | attach | install | prepare | replaceWait | release | clear | advance | deactivate
    | endSession => cases hQueues

/-- There are sources in a pair only. -/
theorem sources_in_pair (h : (machine env).Reachable s)
    (hQueues : s.supervisor.phase.queues = false) : s.client.tables.sourceStreams = ∅ := by
  refine h.invariant (I := fun s => s.supervisor.phase.queues = false →
    s.client.tables.sourceStreams = ∅) (fun _ => rfl) ?_ hQueues
  intro s a s' hReach hVacant hStep hQueues'
  have hShape := shape_of_reachable hReach
  cases hQueues : s.supervisor.phase.queues with
  | true =>
    obtain hTrue | hEmpty := queues_of_step hShape hStep hQueues
    · rw [hTrue] at hQueues'
      cases hQueues'
    · exact hEmpty
  | false =>
    apply Store.eq_empty_of_lookup
    intro streamId
    rw [Option.eq_none_iff_forall_ne_some]
    intro source' hLook
    obtain ⟨source, hWas, -⟩ | ⟨_, _, _, _, _, -, hWork, -⟩ :=
      (sourceMove_of_step hShape hStep).back hLook
    · rw [hVacant hQueues] at hWas
      cases hWas
    · cases hPhase : s.supervisor.phase <;> rw [hPhase] at hWork hQueues <;>
        first | (cases hWork; done) | cases hQueues

-- ---------------------------------------------------------------------------
-- The ledger
-- ---------------------------------------------------------------------------

/-- The ledger of the source identities and the global limits. -/
structure SourceLedger (env : Env) (s : System) : Prop where
  covers : s.client.tables.sourceWeight ≤ s.client.tables.sourceStateBytes
  exact_ : s.supervisor.phase.attached = true →
    s.client.tables.sourceWeight = s.client.tables.sourceStateBytes
  bytes : s.client.tables.sourceStateBytes ≤ env.config.maximumSourceStateBytes
  identities : s.client.tables.sourceIdentities ≤ env.config.maximumSourceTombstones
  streams : Store.size s.client.tables.sourceStreams ≤ env.config.maximumSourceStreams

theorem Tables.sourceWeight_of_empty {t : Tables} (hSources : t.sourceStreams = ∅)
    (hClosed : t.closedSources = ∅) : t.sourceWeight = 0 := by
  simp [Tables.sourceWeight, hSources, hClosed]

/-- A move of the source ledger stays within the limits. -/
theorem SourceLedgerMove.limits (h : SourceLedgerMove env s a s') (hLedger : SourceLedger env s)
    (hVacant : s.supervisor.phase.queues = false → s.client.tables.sourceStreams = ∅) :
    s'.client.tables.sourceWeight ≤ s'.client.tables.sourceStateBytes ∧
    s'.client.tables.sourceStateBytes ≤ env.config.maximumSourceStateBytes ∧
    s'.client.tables.sourceIdentities ≤ env.config.maximumSourceTombstones ∧
    Store.size s'.client.tables.sourceStreams ≤ env.config.maximumSourceStreams := by
  obtain ⟨hCovers, -, hBytes, hIdentities, hStreams⟩ := hLedger
  cases h with
  | level hWeight' hBytes' hIdentities' hStreams' => omega
  | charge hRoom hFits hWeight' hBytes' hIdentities' hStreams' => omega
  | discharge hWeight' hBytes' hIdentities' hStreams' =>
    rw [hStreams']
    omega
  | clear hSources hClosed hZero =>
    have hIds : s'.client.tables.sourceIdentities = 0 := by
      simp [Tables.sourceIdentities, hSources, hClosed]
    rw [Tables.sourceWeight_of_empty hSources hClosed, hSources, hIds, Store.size_empty]
    omega
  | retire hPhase hSources hKept hDrop =>
    -- outside a pair there is no source left to account for
    have hGone : s'.client.tables.sourceStreams = ∅ := by
      obtain hPhase | hPhase := hPhase
      · exact (hDrop hPhase).2
      · exact hSources.elim (fun hEq => hEq.trans (hVacant (by rw [hPhase]; rfl))) id
    have hNone := Store.size_empty (κ := Text) (α := SourceState)
    have hNone' := Store.size_empty (κ := Text) (α := ClosedSourceState)
    have hFree := Store.total_empty (κ := Text) SourceState.accountedBytes
    have hFree' := Store.total_empty (κ := Text) ClosedSourceState.accountedBytes
    unfold Tables.sourceWeight Tables.sourceIdentities at *
    obtain ⟨hClosed, hZero⟩ | ⟨hClosed, hZero⟩ := hKept <;> rw [hGone, hClosed, hZero] <;> omega

/-- The ledger in every reachable state. -/
theorem sourceLedger_of_reachable (h : (machine env).Reachable s) : SourceLedger env s := by
  refine h.invariant (I := SourceLedger env) ?_ ?_
  · constructor <;> simp [machine, Tables.sourceWeight, Tables.sourceIdentities]
  · intro s a s' hReach hLedger hStep
    have hShape := shape_of_reachable hReach
    have hMove := (sourceMove_of_step hShape hStep).ledger (sources_of_reachable hReach)
    obtain ⟨hCovers, hBytes, hIdentities, hStreams⟩ := hMove.limits hLedger (sources_in_pair hReach)
    refine ⟨hCovers, ?_, hBytes, hIdentities, hStreams⟩
    intro hAttached
    obtain ⟨hBefore, hCore⟩ | ⟨hSame, hOther⟩ | ⟨hOutside, hSources, hClosed, hZero⟩ :=
      attached_of_step hShape hStep hAttached
    · rw [show s'.client.tables = s.client.tables from congrArg Core.tables hCore]
      exact hLedger.exact_ hBefore
    · have hExact := hLedger.exact_ (by rw [← hSame]; exact hAttached)
      cases hMove with
      | level hWeight' hBytes' => omega
      | charge _ _ hWeight' hBytes' => omega
      | discharge hWeight' hBytes' => omega
      | clear hSources hClosed hZero => rw [Tables.sourceWeight_of_empty hSources hClosed, hZero]
      | retire hPhase _ _ hDrop =>
        obtain hPhase | hPhase := hPhase
        · obtain ⟨⟨input, rfl⟩, -⟩ := hDrop hPhase
          exact absurd rfl (hOther input)
        · rw [hSame, hPhase] at hAttached
          cases hAttached
    · rw [sources_in_pair hReach (by rw [hOutside]; rfl)] at hSources
      rw [Tables.sourceWeight_of_empty hSources hClosed, hZero]

-- ---------------------------------------------------------------------------
-- The limits of the endpoints
-- ---------------------------------------------------------------------------

/-- The active capabilities are the same, or no source is left under them, or there
were none and the sources are the same. -/
def Client.KeepsGrants (c c' : Client) : Prop :=
  c'.spec.activeCapabilities = c.spec.activeCapabilities ∨ c'.tables.sourceStreams = ∅ ∨
    (c.spec.activeCapabilities = ∅ ∧ c'.tables.sourceStreams = c.tables.sourceStreams)

/-- A step that leaves the spec alone keeps the grants. -/
theorem Client.KeepsGrants.of_spec (h : c'.spec = c.spec) : c.KeepsGrants c' :=
  .inl (congrArg SpecState.activeCapabilities h)

/-- Giving up the lock keeps the grants. -/
theorem Client.KeepsGrants.unlocked (h : c.KeepsGrants c') : c.KeepsGrants c'.unlocked := h

/-- A deactivation drops the grants with the sources. -/
theorem keepsGrants_deactivateStep {reason : Text} {at_ : DeactivatePc}
    {next : Option DeactivatePc} (h : deactivateStep env reason c at_ = some (next, c')) :
    c.KeepsGrants c' := by
  obtain ⟨-, rfl, -⟩ | ⟨-, -, -, hRest⟩ := deactivateStep_cases h
  · exact .inr (.inl rfl)
  · exact .of_spec hRest.spec

theorem ApplyMove.keepsGrants {session : Text} {at_ : ApplyPc} {next : ApplyNext}
    (h : ApplyMove env session c at_ next c') (hFits : at_.Fits env c.spec) :
    c.KeepsGrants c' := by
  cases h with
  | begin hBegin =>
    obtain ⟨-, -, -, -, rfl⟩ := beginApply_inr hBegin
    exact .inl rfl
  | deactivate hStep | deactivated hStep | readyDeactivate hStep | readyDeactivated hStep =>
    exact keepsGrants_deactivateStep hStep
  | commit hCommit =>
    obtain ⟨-, -, hVacant, -⟩ := hFits
    unfold commitSpec at hCommit
    split at hCommit <;> cases hCommit
    exact .inr (.inr ⟨hVacant.capabilities, rfl⟩)
  | unwindStop | staleStop => exact .of_spec (spec_callStop _)
  | staleUnwound => exact .of_spec spec_callClear
  | unwound =>
    split
    · exact .of_spec spec_callClear
    · exact .of_spec rfl
  | applyFailed => exact .of_spec spec_callClear
  | finish => exact .inl (alike_finishApply _ _ _).1.capabilities
  | failed | readyFailure | answer | stale | waited | lock | current | proceed | skipApply | applied
  | skipStart | started | startFailed | startedAll | outdated | skipReady | readied | readyFailed
  | readiedAll => exact .inl rfl

theorem ControlReaderMove.keepsGrants {pc pc' : ControlReaderPc}
    (h : ControlReaderMove env c pc pc' c') (hSpec : c.spec.Stands env pc.transaction?) :
    c.KeepsGrants c' := by
  cases h with
  | calm hHelm => exact .of_spec (spec_of_helm hHelm)
  | drain => exact .of_spec (congrArg Helm.spec (Client.helm_beginDrain _ _))
  | refuse | receive => exact .of_spec rfl
  | apply hMove | conclude hMove => exact hMove.keepsGrants hSpec
  | queue hQueue | overflow hQueue =>
    exact .of_spec (congrArg Helm.spec (Client.helm_queueControlLocked hQueue))
  | signal => exact .of_spec (spec_of_helm (Client.helm_signalSessionFailure _ _))

theorem SupervisorTurn.keepsGrants {pc pc' : SupervisorPc}
    (h : SupervisorTurn env c pc pc' c') : c.KeepsGrants c' := by
  cases h with
  | calm hHelm => exact .of_spec (spec_of_helm hHelm)
  | replace | endSession => exact .inr (.inl rfl)
  | install | prepare | clear | report => exact .inl rfl
  | advance =>
    unfold Client.advanceEpoch
    split <;> exact .inl rfl
  | deactivate hStep => exact keepsGrants_deactivateStep hStep
  | deactivated hStep => exact (keepsGrants_deactivateStep hStep).unlocked

/-- The capabilities change only while no source is open. -/
theorem keepsGrants_of_step (hReach : (machine env).Reachable s)
    (hStep : s.step env a = some s') : s.client.KeepsGrants s'.client := by
  cases controlMove_of_reachable hReach hStep with
  | calm hHelm => exact .of_spec (spec_of_helm hHelm)
  | controlReader hMove => exact hMove.keepsGrants (standing_of_reachable hReach).spec
  | controlWriter hMove => exact .of_spec (spec_controlWriterMove hMove)
  | workWriter hMove => exact .of_spec (spec_workWriterMove hMove)
  | supervisor hTurn => exact hTurn.keepsGrants
  | startThreads _ hClient | join hClient =>
    rw [hClient]
    exact .of_spec rfl
  | stopDeactivate _ hDeactivate => exact keepsGrants_deactivateStep hDeactivate
  | stopDeactivated _ hDeactivate hClient =>
    rw [hClient]
    exact (keepsGrants_deactivateStep hDeactivate).unlocked
  | stopReset _ hClient =>
    rw [hClient]
    refine .inr (.inl ?_)
    simp [Client.endStop, Client.endSupervision, Client.resetSession, Client.releaseAllWorkTokens]

/-- The number of streams the endpoint in force admits; none without one. -/
def endpointStreamLimit (env : Env) (c : Client) (capabilityId endpointId : Text) : Nat :=
  match findActiveEndpoint env c capabilityId endpointId with
  | some (_, _, endpoint) => endpoint.limits.maximumStreams
  | none => 0

theorem endpointStreamLimit_congr
    (h : c'.spec.activeCapabilities = c.spec.activeCapabilities) (capabilityId endpointId : Text) :
    endpointStreamLimit env c' capabilityId endpointId =
      endpointStreamLimit env c capabilityId endpointId := by
  unfold endpointStreamLimit findActiveEndpoint
  rw [h]

theorem endpointStreamLimit_of_empty (h : c.spec.activeCapabilities = ∅)
    (capabilityId endpointId : Text) : endpointStreamLimit env c capabilityId endpointId = 0 := by
  unfold endpointStreamLimit findActiveEndpoint
  rw [h]
  rfl

/-- One for a source of the endpoint, nothing for the others. -/
def SourceState.countsFor (capabilityId endpointId : Text) (source : SourceState) : Nat :=
  if source.request.context.capabilityId == capabilityId &&
      source.request.context.endpointId == endpointId then 1 else 0

theorem countSourceStreams_eq (capabilityId endpointId : Text) :
    countSourceStreams c capabilityId endpointId =
      Store.total (SourceState.countsFor capabilityId endpointId) c.tables.sourceStreams :=
  Store.length_filter_entries (fun source : SourceState =>
    source.request.context.capabilityId == capabilityId &&
      source.request.context.endpointId == endpointId) c.tables.sourceStreams

theorem countSourceStreams_congr (h : c'.tables.sourceStreams = c.tables.sourceStreams)
    (capabilityId endpointId : Text) : countSourceStreams c' capabilityId endpointId =
      countSourceStreams c capabilityId endpointId := by
  unfold countSourceStreams
  rw [h]

theorem countSourceStreams_of_empty (h : c.tables.sourceStreams = ∅)
    (capabilityId endpointId : Text) : countSourceStreams c capabilityId endpointId = 0 := by
  unfold countSourceStreams
  rw [h]
  rfl

/-- A step adds a stream to an endpoint only by admitting it within the limit. -/
theorem SourceMove.count (h : SourceMove env s a s') (capabilityId endpointId : Text) :
    countSourceStreams s'.client capabilityId endpointId ≤
      countSourceStreams s.client capabilityId endpointId ∨
    ∃ job now index endpoint bytes,
      sourceOpenVerdict env s.client now job = .accept index endpoint bytes ∧
      s.supervisor.phase.work = true ∧
      s'.client = s.client.admitSource job index endpoint bytes ∧
      job.sourceOpen.context.capabilityId = capabilityId ∧
      job.sourceOpen.context.endpointId = endpointId ∧
      countSourceStreams s'.client capabilityId endpointId =
        countSourceStreams s.client capabilityId endpointId + 1 := by
  simp only [countSourceStreams_eq]
  have hSame : s'.client.tables.sourceStreams = s.client.tables.sourceStreams →
      Store.total (SourceState.countsFor capabilityId endpointId) s'.client.tables.sourceStreams ≤
        Store.total (SourceState.countsFor capabilityId endpointId)
          s.client.tables.sourceStreams :=
    fun hEq => by rw [hEq]
  have hEmpty : s'.client.tables.sourceStreams = ∅ →
      Store.total (SourceState.countsFor capabilityId endpointId) s'.client.tables.sourceStreams ≤
        Store.total (SourceState.countsFor capabilityId endpointId)
          s.client.tables.sourceStreams :=
    fun hEq => by
      rw [hEq, Store.total_empty]
      exact Nat.zero_le _
  -- the request of a source that stays is the one it was opened with
  have hReplaced : ∀ {key : Text} {old new : SourceState},
      s.client.tables.sourceStreams.lookup key = some old →
      s'.client.tables.sourceStreams = s.client.tables.sourceStreams.insert key new →
      new.request = old.request →
      Store.total (SourceState.countsFor capabilityId endpointId) s'.client.tables.sourceStreams ≤
        Store.total (SourceState.countsFor capabilityId endpointId)
          s.client.tables.sourceStreams := by
    intro key old new hOld hEq hRequest
    have hTotal := Store.total_replace (SourceState.countsFor capabilityId endpointId) hOld new
    have hWeight : new.countsFor capabilityId endpointId = old.countsFor capabilityId endpointId := by
      unfold SourceState.countsFor
      rw [hRequest]
    rw [hEq]
    omega
  -- a source that leaves is counted no longer
  have hErased : ∀ {key : Text} {old : SourceState},
      s.client.tables.sourceStreams.lookup key = some old →
      s'.client.tables.sourceStreams = s.client.tables.sourceStreams.erase key →
      Store.total (SourceState.countsFor capabilityId endpointId) s'.client.tables.sourceStreams ≤
        Store.total (SourceState.countsFor capabilityId endpointId)
          s.client.tables.sourceStreams := by
    intro key old hOld hEq
    have hTotal := Store.total_erase (SourceState.countsFor capabilityId endpointId) hOld
    rw [hEq]
    omega
  cases h with
  | keep hSources => exact .inl (hSame hSources)
  | reject _ _ hClient => exact .inl (hSame (by rw [hClient]; rfl))
  | lateGrant _ _ hClient => exact .inl (hSame (by rw [hClient]))
  | acknowledge _ _ _ _ _ _ hClient => exact .inl (hSame (by simp [hClient]))
  | cancel _ _ hCore =>
    exact .inl (hSame (congrArg (fun k : Core => k.tables.sourceStreams) hCore))
  | deactivate _ _ hCore =>
    exact .inl (hEmpty (congrArg (fun k : Core => k.tables.sourceStreams) hCore))
  | retire _ hSources => exact .inl (hSources.elim hSame hEmpty)
  | open_ _ hOwns _ hClient =>
    exact .inl (hReplaced hOwns.active
      (congrArg (fun k : Client => k.tables.sourceStreams) hClient) rfl)
  | publish _ hPublishes hClient =>
    exact .inl (hReplaced hPublishes.active
      (congrArg (fun k : Client => k.tables.sourceStreams) hClient) rfl)
  | grant _ hActive _ _ _ _ _ hClient =>
    exact .inl (hReplaced hActive
      (congrArg (fun k : Client => k.tables.sourceStreams) hClient) rfl)
  | refuse _ hOwns _ hClient => exact .inl (hErased hOwns.active (by rw [hClient]; rfl))
  | close _ hActive _ hClient => exact .inl (hErased hActive (by rw [hClient]; rfl))
  | cancelOpened _ hActive _ hClient => exact .inl (hErased hActive (by rw [hClient]; rfl))
  | @enter _ job index bytes endpoint now _ hWork _ hVerdict hClient =>
    obtain ⟨-, hUnused, -, -⟩ := sourceOpenVerdict_fresh hVerdict (by simp) (by simp)
    -- the admitted source counts for the endpoint of its request
    have hTotal := Store.total_insert (SourceState.countsFor capabilityId endpointId)
      (v := admittedSource s.client job index endpoint bytes) hUnused.2.1
    have hSources : s'.client.tables.sourceStreams =
        s.client.tables.sourceStreams.insert job.workId
          (admittedSource s.client job index endpoint bytes) := by
      rw [hClient]
      rfl
    by_cases hHere : job.sourceOpen.context.capabilityId = capabilityId ∧
        job.sourceOpen.context.endpointId = endpointId
    · refine .inr ⟨job, now, index, endpoint, bytes, hVerdict, hWork, hClient, hHere.1, hHere.2, ?_⟩
      rw [hSources, hTotal]
      simp [SourceState.countsFor, admittedSource, hHere]
    · refine .inl ?_
      rw [hSources, hTotal]
      simp only [SourceState.countsFor, admittedSource, Bool.and_eq_true, beq_iff_eq, if_neg hHere,
        Nat.add_zero, le_refl]

/-- No endpoint has more streams than its contract admits. -/
theorem endpointStreams_of_reachable (h : (machine env).Reachable s)
    (capabilityId endpointId : Text) :
    countSourceStreams s.client capabilityId endpointId ≤
      endpointStreamLimit env s.client capabilityId endpointId := by
  refine h.invariant (I := fun s => ∀ capabilityId endpointId,
    countSourceStreams s.client capabilityId endpointId ≤
      endpointStreamLimit env s.client capabilityId endpointId) ?_ ?_ capabilityId endpointId
  · intro capabilityId endpointId
    exact (countSourceStreams_of_empty rfl _ _).le.trans (Nat.zero_le _)
  · intro s a s' hReach hLimits hStep capabilityId endpointId
    have hLimit := hLimits capabilityId endpointId
    have hMove := sourceMove_of_step (shape_of_reachable hReach) hStep
    obtain hGrants | hEmpty | ⟨hNone, hSources⟩ := keepsGrants_of_step hReach hStep
    · rw [endpointStreamLimit_congr hGrants]
      obtain hFewer | ⟨job, now, index, endpoint, bytes, hVerdict, hWork, -, rfl, rfl, hCount⟩ :=
        hMove.count capabilityId endpointId
      · exact hFewer.trans hLimit
      · -- the admission has counted the streams of this very endpoint
        obtain ⟨-, -, -, hFresh⟩ := sourceOpenVerdict_fresh hVerdict (by simp) (by simp)
        have hContext := (freshSourceVerdict_accept hFresh).1
        obtain ⟨hMode, grant, hFind, -⟩ := validateWorkContext_active hContext
        obtain ⟨-, -, binding, hBinding, hEndpoint⟩ := findActiveEndpoint_some hFind
        have hStarted : s.supervisor ≠ .notStarted := by
          intro hEq
          rw [hEq] at hWork
          cases hWork
        have hChunked := validateConfig_chunked (validated_of_reachable hReach hStarted) hBinding
          hEndpoint hMode
        have hRoom := (freshSourceVerdict_room hFresh).endpoint (Nat.pos_of_ne_zero hChunked.streams)
        simp only [endpointStreamLimit, hFind]
        omega
    · rw [countSourceStreams_of_empty hEmpty]
      exact Nat.zero_le _
    · rw [endpointStreamLimit_of_empty hNone] at hLimit
      rw [countSourceStreams_congr hSources, Nat.le_zero.mp hLimit]
      exact Nat.zero_le _

-- ---------------------------------------------------------------------------
-- From source to tombstone
-- ---------------------------------------------------------------------------

/-- A source that becomes a tombstone keeps its charge and its identity. -/
theorem SourceMove.converts (h : SourceMove env s a s') (hOwn : Sources s) {streamId : Text}
    {source : SourceState} {closed : ClosedSourceState}
    (hActive : s.client.tables.sourceStreams.lookup streamId = some source)
    (hClosed : s'.client.tables.closedSources.lookup streamId = some closed) :
    closed.accountedBytes = source.accountedBytes ∧
      s'.client.tables.sourceStreams = s.client.tables.sourceStreams.erase streamId ∧
      s'.client.tables.closedSources =
        s.client.tables.closedSources.insert streamId closed ∧
      s'.client.tables.sourceStateBytes = s.client.tables.sourceStateBytes := by
  -- the identity had no tombstone before
  have hFresh := hOwn.exclusive streamId source hActive
  have hAbsurd : s'.client.tables.closedSources = s.client.tables.closedSources → False := by
    intro hEq
    rw [hEq, hFresh] at hClosed
    cases hClosed
  -- the tombstone that was added is the one of this source
  have hAdded : ∀ {key : Text} {new : ClosedSourceState},
      s'.client.tables.closedSources = s.client.tables.closedSources.insert key new →
      streamId = key ∧ closed = new := by
    intro key new hEq
    rw [hEq, Store.lookup_insert_ite] at hClosed
    split at hClosed
    · rename_i hKey
      cases hClosed
      exact ⟨hKey, rfl⟩
    · rw [hFresh] at hClosed
      cases hClosed
  -- a source whose erasure and tombstone come in one step
  have hConverts : ∀ {key : Text} {old : SourceState} {new : ClosedSourceState},
      s.client.tables.sourceStreams.lookup key = some old →
      s'.client.tables.closedSources = s.client.tables.closedSources.insert key new →
      s'.client.tables.sourceStreams = s.client.tables.sourceStreams.erase key →
      s'.client.tables.sourceStateBytes = s.client.tables.sourceStateBytes →
      new.accountedBytes = old.accountedBytes →
      closed.accountedBytes = source.accountedBytes ∧
      s'.client.tables.sourceStreams = s.client.tables.sourceStreams.erase streamId ∧
      s'.client.tables.closedSources =
        s.client.tables.closedSources.insert streamId closed ∧
      s'.client.tables.sourceStateBytes = s.client.tables.sourceStateBytes := by
    intro key old new hOld hEq hErased hBytes hCharge
    obtain ⟨rfl, rfl⟩ := hAdded hEq
    rw [hActive, Option.some.injEq] at hOld
    exact ⟨hCharge.trans (by rw [hOld]), hErased, hEq, hBytes⟩
  cases h with
  -- moves that leave the tombstones alone
  | keep _ hSame => exact (hAbsurd hSame).elim
  | enter _ _ _ _ hClient => exact (hAbsurd (by rw [hClient]; rfl)).elim
  | open_ _ _ _ hClient => exact (hAbsurd (by rw [hClient]; rfl)).elim
  | publish _ _ hClient => exact (hAbsurd (by rw [hClient]; rfl)).elim
  | grant _ _ _ _ _ _ _ hClient => exact (hAbsurd (by rw [hClient]; rfl)).elim
  | cancel _ _ hCore =>
    exact (hAbsurd (congrArg (fun k : Core => k.tables.closedSources) hCore)).elim
  | reject _ hUnused hClient =>
    -- a tombstone for an unused identity, or over an old one
    obtain ⟨rfl, -⟩ := hAdded (congrArg (fun k : Client => k.tables.closedSources) hClient)
    rw [hUnused.2.1] at hActive
    cases hActive
  | lateGrant _ hTombstone hClient =>
    obtain ⟨rfl, -⟩ := hAdded (congrArg (fun k : Client => k.tables.closedSources) hClient)
    rw [hFresh] at hTombstone
    cases hTombstone
  | acknowledge _ _ _ _ _ _ hClient =>
    -- tombstones that go
    rw [hClient] at hClosed
    simp only [Store.lookup_erase_ite, hFresh, ite_self, reduceCtorEq] at hClosed
  | deactivate _ _ hCore =>
    rw [show s'.client.tables.closedSources = ∅ from
      congrArg (fun k : Core => k.tables.closedSources) hCore] at hClosed
    cases hClosed
  | retire _ _ hSame =>
    obtain hEq | hEq := hSame
    · exact (hAbsurd hEq).elim
    · rw [hEq] at hClosed
      cases hClosed
  | refuse _ hOwns _ hClient =>
    -- the three endings of a source
    exact hConverts hOwns.active (congrArg (fun k : Client => k.tables.closedSources) hClient)
      (by rw [hClient]; rfl) (by rw [hClient]; rfl) rfl
  | close _ hOld _ hClient =>
    exact hConverts hOld (congrArg (fun k : Client => k.tables.closedSources) hClient)
      (by rw [hClient]; rfl) (by rw [hClient]; rfl) rfl
  | cancelOpened _ hOld _ hClient =>
    exact hConverts hOld (congrArg (fun k : Client => k.tables.closedSources) hClient)
      (by rw [hClient]; rfl) (by rw [hClient]; rfl) rfl

/-- The same client under other limits on the source state. -/
def Env.withSourceLimits (env : Env) (bytes identities streams : Nat) : Env :=
  { env with config := { env.config with
      maximumSourceStateBytes := bytes
      maximumSourceTombstones := identities
      maximumSourceStreams := streams } }

/-- `QueueWorkLocked` admits what its checks admit. -/
theorem queueWorkLocked_fst (owner : Option CancellationId) (frame : WorkFrame) :
    (c.queueWorkLocked env owner frame).1 =
      !(c.sessionClosed || c.workQueueFull env (c.workFrameBytes env frame) ||
        c.session.maximumWorkFrameBytes < c.workFrameBytes env frame) := by
  unfold Client.queueWorkLocked
  simp only
  split <;> rename_i hFull <;> simp [hFull]

/-- `CommitSourceTerminal` succeeds when its checks do. -/
theorem commitSourceTerminal_fst (streamId : Text) (source : SourceState) (frame : WorkFrame) :
    (commitSourceTerminal env c streamId source frame).1 =
      (!(streamId.isEmpty || !isSourceTerminalOf streamId frame) &&
        (env.protobuf.terminalDigest frame).isSome && c.workFrameFits env frame &&
        (c.queueWorkLocked env (some source.cancellation) frame).1) := by
  unfold commitSourceTerminal
  split
  · rename_i hRefused
    simp [hRefused]
  · rename_i hNamed
    cases hDigest : env.protobuf.terminalDigest frame with
    | none => simp
    | some digest =>
      simp only
      split
      · rename_i hFits
        rw [Bool.not_eq_true'] at hFits
        simp [hFits]
      · rename_i hFits
        rw [Bool.not_eq_true', Bool.not_eq_false] at hFits
        cases hQueue : c.queueWorkLocked env (some source.cancellation) frame with
        | mk ok c' => cases ok <;> simp [hNamed, hFits]

/-- Neither the limits on the source state nor the ledger decide whether a source
terminal is committed. -/
theorem commitSourceTerminal_free (streamId : Text) (source : SourceState) (frame : WorkFrame)
    (bytes identities streams ledger : Nat) :
    (commitSourceTerminal (env.withSourceLimits bytes identities streams)
      { c with tables := { c.tables with sourceStateBytes := ledger } } streamId source frame).1 =
      (commitSourceTerminal env c streamId source frame).1 := by
  rw [commitSourceTerminal_fst, commitSourceTerminal_fst, queueWorkLocked_fst,
    queueWorkLocked_fst]
  rfl

-- ---------------------------------------------------------------------------
-- The law of the ledger
-- ---------------------------------------------------------------------------

/-- The source accounts of an attached pair. -/
structure SourceAccounts (env : Env) (c : Client) : Prop where
  balance : c.tables.sourceStateBytes =
    Store.total SourceState.accountedBytes c.tables.sourceStreams +
      Store.total ClosedSourceState.accountedBytes c.tables.closedSources
  bytes : c.tables.sourceStateBytes ≤ env.config.maximumSourceStateBytes
  identities : Store.size c.tables.sourceStreams + Store.size c.tables.closedSources ≤
    env.config.maximumSourceTombstones
  streams : Store.size c.tables.sourceStreams ≤ env.config.maximumSourceStreams
  endpoints : ∀ capabilityId endpointId, countSourceStreams c capabilityId endpointId ≤
    endpointStreamLimit env c capabilityId endpointId

/-- The accounting stays within the word: the charge of an identity is its exact
sum or refused, it is added only below the limit, and what is subtracted is part of
the ledger. -/
structure SourceArithmetic (env : Env) (c : Client) : Prop where
  charge : ∀ job, sourceAccountedBytes c job =
    if sourceCharge c job ≤ sizeMax then some (sourceCharge c job) else none
  charged : ∀ job bytes, sourceBudgetFits env c job = some bytes →
    c.tables.sourceStateBytes + bytes ≤ env.config.maximumSourceStateBytes
  rolledBack : ∀ job error todo c', c.rejectSource env job error = (todo, c') → todo ≠ .done →
    c'.tables.sourceStateBytes = c.tables.sourceStateBytes
  released : ∀ streamId closed, c.tables.closedSources.lookup streamId = some closed →
    closed.accountedBytes ≤ c.tables.sourceStateBytes

/-- In every reachable state of an attached pair the source ledger is exact and
within its limits, its arithmetic is exact, and an active source becomes a tombstone
on its own budget. -/
theorem source_ledger (h : (machine env).Reachable s) :
    (s.supervisor.phase.attached = true → SourceAccounts env s.client) ∧
    SourceArithmetic env s.client ∧
    (∀ a s' streamId source closed, (machine env).step s a = some s' →
      s.client.tables.sourceStreams.lookup streamId = some source →
      s'.client.tables.closedSources.lookup streamId = some closed →
      closed.accountedBytes = source.accountedBytes ∧
        s'.client.tables.sourceStateBytes = s.client.tables.sourceStateBytes ∧
        s'.client.tables.sourceIdentities = s.client.tables.sourceIdentities) ∧
    ∀ streamId source frame bytes identities streams ledger,
      (commitSourceTerminal (env.withSourceLimits bytes identities streams)
        { s.client with tables := { s.client.tables with sourceStateBytes := ledger } } streamId
        source frame).1 = (commitSourceTerminal env s.client streamId source frame).1 := by
  have hLedger := sourceLedger_of_reachable h
  refine ⟨fun hAttached => ?_, ?_, ?_, fun streamId source frame bytes identities streams ledger =>
    commitSourceTerminal_free streamId source frame bytes identities streams ledger⟩
  · exact ⟨(hLedger.exact_ hAttached).symm, hLedger.bytes, hLedger.identities, hLedger.streams,
      endpointStreams_of_reachable h⟩
  · refine ⟨sourceAccountedBytes_eq, fun job bytes hFits => (sourceBudgetFits_some hFits).2.2, ?_, ?_⟩
    · intro job error todo c' hReject hTodo
      obtain ⟨hDone, -⟩ | ⟨-, -, -, -, hCore⟩ := rejectSource_cases hReject
      · exact absurd hDone hTodo
      · exact hCore.elim (congrArg fun k : Core => k.tables.sourceStateBytes)
          (congrArg fun k : Core => k.tables.sourceStateBytes)
    · intro streamId closed hLook
      have hPart := Store.le_total ClosedSourceState.accountedBytes hLook
      have hCovers := hLedger.covers
      unfold Tables.sourceWeight at hCovers
      omega
  · intro a s' streamId source closed hStep hActive hClosed
    have hOwn := sources_of_reachable h
    obtain ⟨hCharge, hErased, hAdded, hBytes⟩ :=
      (sourceMove_of_step (shape_of_reachable h) hStep).converts hOwn hActive hClosed
    refine ⟨hCharge, hBytes, ?_⟩
    have hSize := Store.size_erase hActive
    unfold Tables.sourceIdentities
    rw [hErased, hAdded, Store.size_insert (hOwn.exclusive streamId source hActive)]
    omega

section Runs

open Deployment

/-- A source is charged when it is opened, and its tombstone holds the same charge. -/
theorem source_ledger_feed :
    ∃ s, (machine deployment).Reachable s ∧ Store.size s.client.tables.sourceStreams = 1 ∧
      Store.size s.client.tables.closedSources = 1 ∧ 0 < s.client.tables.sourceStateBytes ∧
      SourceAccounts deployment s.client := by
  obtain ⟨s, hReach, hRun⟩ := (machine deployment).exists_reaches_of_runWith (fun _ _ => True)
    (bringUp ++ openFeed 1 "a" ++ openFeed 2 "b" ++ [.closeSource (text "a") none])
    (fun s => s.supervisor.phase.attached && Store.size s.client.tables.sourceStreams == 1 &&
      Store.size s.client.tables.closedSources == 1 && (0 < s.client.tables.sourceStateBytes : Bool))
    (by decide +kernel)
  simp only [Bool.and_eq_true, beq_iff_eq, decide_eq_true_eq] at hRun
  obtain ⟨⟨⟨hAttached, hStreams⟩, hClosed⟩, hBytes⟩ := hRun
  exact ⟨s, hReach, hStreams, hClosed, hBytes, (source_ledger hReach).1 hAttached⟩

end Runs

end AdapterRuntime.Model
