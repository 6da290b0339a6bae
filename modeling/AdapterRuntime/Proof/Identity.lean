import AdapterRuntime.Proof.Ownership

/-!
# AdapterRuntime — an identity has one role

A Host identity is active Work, a retained Work terminal, an active source or a
retained source terminal, and never two of them at once. `EnqueueSourceOpen`
tests all four tables; `EnqueueDispatch` does not test `closed_sources_`, and
when the client is not ready it tests `replay_` alone. The property therefore
needs `asksUnclaimed` of every unary and operation request, and `releasesOwn`
of every release.

* `Tables.roles` — the number of tables an identity is a key of.
* `identity_exclusive` — at most one, and what is retained can be acknowledged.
* `identity_shared` — without the condition: a request reuses the identity of a
  closed source.
-/

namespace AdapterRuntime.Model

open AdapterRuntime.Lib

namespace Tables

/-- The number of source tables that hold `workId`. -/
def sourceRoles (t : Tables) (workId : Text) : Nat :=
  (t.sourceStreams.lookup workId).isSome.toNat + (t.closedSources.lookup workId).isSome.toNat

/-- The number of identity tables that hold `workId`. -/
def roles (t : Tables) (workId : Text) : Nat :=
  (t.workTokens.lookup workId).isSome.toNat + (t.replay.lookup workId).isSome.toNat +
    t.sourceRoles workId

/-- `workId` is neither active Work nor a source identity. -/
def Unclaimed (t : Tables) (workId : Text) : Prop :=
  t.workTokens.lookup workId = none ∧ t.sourceRoles workId = 0

variable {t t' : Tables} {workId : Text}

theorem sourceRoles_eq_zero : t.sourceRoles workId = 0 ↔
    t.sourceStreams.lookup workId = none ∧ t.closedSources.lookup workId = none := by
  unfold sourceRoles
  cases t.sourceStreams.lookup workId <;> cases t.closedSources.lookup workId <;> simp

/-- Two roles of one identity are one too many. -/
theorem roles_pairs (h : t.roles workId ≤ 1) :
    ¬(workId ∈ t.workTokens ∧ workId ∈ t.replay) ∧
    ¬(workId ∈ t.workTokens ∧ workId ∈ t.sourceStreams) ∧
    ¬(workId ∈ t.workTokens ∧ workId ∈ t.closedSources) ∧
    ¬(workId ∈ t.replay ∧ workId ∈ t.sourceStreams) ∧
    ¬(workId ∈ t.replay ∧ workId ∈ t.closedSources) ∧
    ¬(workId ∈ t.sourceStreams ∧ workId ∈ t.closedSources) := by
  simp only [← AList.lookup_isSome]
  unfold roles sourceRoles at h
  revert h
  generalize (t.workTokens.lookup workId).isSome = a
  generalize (t.replay.lookup workId).isSome = b
  generalize (t.sourceStreams.lookup workId).isSome = x
  generalize (t.closedSources.lookup workId).isSome = y
  revert a b x y
  decide

/-- A source that is updated in place. -/
theorem sourceRoles_update {streamId : Text} {source : SourceState}
    (hActive : (t.sourceStreams.lookup streamId).isSome)
    (hSources : t'.sourceStreams = t.sourceStreams.insert streamId source)
    (hClosed : t'.closedSources = t.closedSources) :
    t'.sourceRoles workId = t.sourceRoles workId := by
  unfold sourceRoles
  rw [hSources, hClosed, Store.lookup_insert_ite]
  split
  · rename_i hKey
    subst hKey
    simp [hActive]
  · rfl

/-- A source whose terminal is retained. -/
theorem sourceRoles_retire {streamId : Text} {closed : ClosedSourceState}
    (hActive : (t.sourceStreams.lookup streamId).isSome)
    (hSources : t'.sourceStreams = t.sourceStreams.erase streamId)
    (hClosed : t'.closedSources = t.closedSources.insert streamId closed) :
    t'.sourceRoles workId ≤ t.sourceRoles workId := by
  unfold sourceRoles
  rw [hSources, hClosed, Store.lookup_insert_ite, Store.lookup_erase_ite]
  split
  · rename_i hKey
    subst hKey
    simp [hActive]
  · rfl

theorem sourceRoles_drop
    (hSources : t'.sourceStreams = t.sourceStreams ∨ t'.sourceStreams = ∅)
    (hClosed : t'.closedSources = t.closedSources ∨ t'.closedSources = ∅) :
    t'.sourceRoles workId ≤ t.sourceRoles workId := by
  unfold sourceRoles
  rcases hSources with hEq | hEq <;> rcases hClosed with hEq' | hEq' <;> rw [hEq, hEq'] <;> simp

end Tables

/-- A unary or operation request asks for an identity that is retained in
`replay_`, or that is no source terminal and, when the client is not ready, no
active Work and no active source either. -/
def asksUnclaimed (s : System) : Action → Bool
  | .workReader _ =>
    match s.workReader with
    | .handling _ response =>
      match response.frame.dispatchId? with
      | some workId =>
        (s.client.tables.replay.lookup workId).isSome ||
          ((s.client.tables.closedSources.lookup workId).isNone &&
            ((s.client.flags.acceptingWork && s.client.flags.state == .ready) ||
              ((s.client.tables.workTokens.lookup workId).isNone &&
                (s.client.tables.sourceStreams.lookup workId).isNone)))
      | none => true
    | _ => true
  | _ => true

variable {env : Env} {s s' : System} {c c' : Client}

/-- A request under a free identity meets no tombstone, and a ready client or no token. -/
theorem asksUnclaimed_of_asks {workId : Text} {input : ReaderInput WorkResponse}
    (h : asksUnclaimed s (.workReader input) = true) (hAsks : s.workReader.Asks workId)
    (hFree : s.client.tables.replay.lookup workId = none) :
    s.client.tables.closedSources.lookup workId = none ∧
    ((s.client.flags.acceptingWork = true ∧ s.client.flags.state = .ready) ∨
      (s.client.tables.workTokens.lookup workId = none ∧
        s.client.tables.sourceStreams.lookup workId = none)) := by
  obtain ⟨fence, response, hPc, hId⟩ := hAsks
  simpa [asksUnclaimed, hPc, hId, hFree] using h

-- ---------------------------------------------------------------------------
-- Sections that claim no identity
-- ---------------------------------------------------------------------------

theorem sourceRoles_of_core (h : c'.core = c.core) (workId : Text) :
    c'.tables.sourceRoles workId = c.tables.sourceRoles workId :=
  congrArg (fun k : Core => k.tables.sourceRoles workId) h

/-- A worker claims no source identity. -/
theorem WorkerMove.sourceRoles {pc pc' : WorkerPc} (h : WorkerMove env c pc pc' c')
    (workId : Text) : c'.tables.sourceRoles workId ≤ c.tables.sourceRoles workId := by
  cases h with
  | exit | pop | accept | leave => exact Nat.le_refl _
  | quiet hJob hJob' hCore hRest hStage => exact Nat.le_of_eq (sourceRoles_of_core hCore workId)
  | startOperation now | startUnary hKind | startSource =>
    unfold Client.recordStarted
    split <;> exact Nat.le_refl _
  | returnUnary _ hKind | returnOperation _ hKind | returnSource =>
    unfold Client.recordReturned
    split <;> exact Nat.le_refl _
  | commit now hJob hDue hNext hAdmits hEntry hLedger =>
    exact Tables.sourceRoles_drop (.inl (by simp)) (.inl (by simp))
  | refuse now hJob hDue hCommit hResult hNext =>
    obtain ⟨hCommitted, -⟩ | ⟨-, hRefused⟩ := Client.commitTerminalFrame_cases hCommit
    · exact absurd hCommitted hResult
    · exact Nat.le_of_eq (sourceRoles_of_core hRefused.core workId)
  | @erase _ job _ hCore hRest | @finish _ job _ hCore hRest =>
    rw [sourceRoles_of_core hCore workId]
    exact Tables.sourceRoles_drop (.inl (c.tables.releaseWorkToken_sourceStreams job.workId))
      (.inl (c.tables.releaseWorkToken_closedSources job.workId))
  | commitSource hCommit hJob' hStage' =>
    obtain ⟨-, rfl, -⟩ | ⟨source, hOwns, -, -, -, hCases⟩ := commitSourceOpen_cases hCommit
    · exact Nat.le_refl _
    · have hActive := Option.isSome_of_eq_some hOwns.active
      obtain ⟨-, hRefused⟩ | ⟨-, -, rfl⟩ | ⟨-, -, digest, rfl⟩ := hCases
      · exact Nat.le_of_eq (sourceRoles_of_core hRefused.core workId)
      · exact Nat.le_of_eq (Tables.sourceRoles_update hActive rfl rfl)
      · exact Tables.sourceRoles_retire hActive rfl rfl
  | leaveSource hCore hRest => exact Nat.le_of_eq (sourceRoles_of_core hCore workId)

theorem sourceRoles_publishSource {streamId : Text} {items : List Text} (workId : Text) :
    (publishSource env c streamId items).2.tables.sourceRoles workId =
      c.tables.sourceRoles workId := by
  obtain ⟨-, source, hPublishes, hEq⟩ | ⟨-, hRefused⟩ :=
    publishSource_cases (Prod.mk.eta (p := publishSource env c streamId items)).symm
  · rw [hEq]
    exact Tables.sourceRoles_update (Option.isSome_of_eq_some hPublishes.active) rfl rfl
  · exact sourceRoles_of_core hRefused.core workId

theorem sourceRoles_closeSource {streamId : Text} {error : Option AdapterError} (workId : Text) :
    (closeSource env c streamId error).2.tables.sourceRoles workId ≤
      c.tables.sourceRoles workId := by
  obtain ⟨-, source, digest, hActive, -, -, hEq⟩ | ⟨-, hRefused⟩ :=
    closeSource_cases (Prod.mk.eta (p := closeSource env c streamId error)).symm
  · rw [hEq]
    exact Tables.sourceRoles_retire (Option.isSome_of_eq_some hActive) rfl rfl
  · exact Nat.le_of_eq (sourceRoles_of_core hRefused.core workId)

/-- A step that neither handles a Host frame nor commits a terminal claims no
identity. -/
structure Tables.Recedes (t t' : Tables) : Prop where
  tokens : ∀ workId, t.workTokens.lookup workId = none → t'.workTokens.lookup workId = none
  sources : ∀ workId, t'.sourceRoles workId ≤ t.sourceRoles workId
  replay : ∀ workId, t.replay.lookup workId = none → t'.replay.lookup workId = none

/-- Receding tables take no role on. -/
theorem Tables.Recedes.roles {t t' : Tables} (h : t.Recedes t') (workId : Text) :
    t'.roles workId ≤ t.roles workId := by
  have hIndicator : ∀ {α : Type} {a b : Option α}, (b = none → a = none) →
      a.isSome.toNat ≤ b.isSome.toNat := by
    intro α a b hNone
    cases b with
    | none => simp [hNone rfl]
    | some => cases a <;> simp
  have hTokens := hIndicator (h.tokens workId)
  have hReplay := hIndicator (h.replay workId)
  have hSources := h.sources workId
  unfold Tables.roles
  omega

/-- An unclaimed identity stays unclaimed. -/
theorem Tables.Recedes.unclaimed {t t' : Tables} (h : t.Recedes t') {workId : Text}
    (hFree : t.Unclaimed workId) : t'.Unclaimed workId :=
  ⟨h.tokens workId hFree.1, Nat.le_zero.mp (hFree.2 ▸ h.sources workId)⟩

theorem Tables.Recedes.of_eq {t t' : Tables} (hTokens : t'.workTokens = t.workTokens)
    (hReplay : t'.replay = t.replay)
    (hSources : ∀ workId, t'.sourceRoles workId ≤ t.sourceRoles workId) : t.Recedes t' :=
  ⟨fun workId hNone => by rwa [hTokens], hSources, fun workId hNone => by rwa [hReplay]⟩

theorem Tables.Recedes.of_core (h : c'.core = c.core) : c.tables.Recedes c'.tables :=
  .of_eq (congrArg (fun k : Core => k.tables.workTokens) h)
    (congrArg (fun k : Core => k.tables.replay) h)
    fun workId => Nat.le_of_eq (sourceRoles_of_core h workId)

/-- A step of a worker claims no identity, or it commits a terminal. -/
theorem WorkerMove.recedes {pc pc' : WorkerPc} (h : WorkerMove env c pc pc' c') :
    c.tables.Recedes c'.tables ∨
    ∃ job now frame entry, pc.job? = some job ∧ pc.dueTerminal now = some frame ∧
      c.ledgerAdmits env job entry = true ∧ c' = c.committed env job frame entry := by
  obtain hEq | ⟨job, now, frame, entry, hJob, hDue, -, -, hLedger, hClient, -⟩ := h.replay
  · refine .inl ⟨fun workId hNone => h.workTokens hNone, h.sourceRoles, fun workId hNone => ?_⟩
    rwa [hEq]
  · exact .inr ⟨job, now, frame, entry, hJob, hDue, hLedger, hClient⟩

/-- A step of the reader claims no identity, commits an immediate rejection, or
claims one identity in a table that it names. -/
theorem ReaderMove.recedes {pc pc' : WorkReaderPc} (h : ReaderMove env c pc pc' c') :
    c.tables.Recedes c'.tables ∨
    (∃ fence job frame entry, pc = .followUp fence (.commitImmediate job frame) ∧
      c.ledgerAdmits env job entry = true ∧ c' = c.committed env job frame entry) ∨
    (∃ job reservation, dispatchVerdict env c job = .accept reservation ∧
      pc.Asks job.workId ∧ c' = c.admitDispatch job reservation) ∨
    ∃ workId, workId ≠ [] ∧ c.tables.Unused workId ∧ c'.tables.workTokens = c.tables.workTokens ∧
      c'.tables.replay = c.tables.replay ∧
      ((∃ source, c'.tables.sourceStreams = c.tables.sourceStreams.insert workId source ∧
          c'.tables.closedSources = c.tables.closedSources) ∨
        ∃ closed, c'.tables.sourceStreams = c.tables.sourceStreams ∧
          c'.tables.closedSources = c.tables.closedSources.insert workId closed) := by
  cases h with
  | quiet hCore hRest hPending => exact .inl (.of_core hCore)
  | answer hCore hRest hRetained => exact .inl (.of_core hCore)
  | immediate hJob hVerdict hCore hRest hId => exact .inl (.of_core hCore)
  | retireSource hCore hRest =>
    have hTables : c'.tables = c.tables := congrArg Core.tables hCore
    exact .inl (.of_eq (by rw [hTables]) (by rw [hTables]) fun workId => by rw [hTables])
  | cancelRefused hFrame hIdentity hActive hEpoch hPhase hRefused =>
    have hTables : c'.tables = c.tables := congrArg Core.tables hRefused.core
    exact .inl (.of_eq (by rw [hTables]) (by rw [hTables]) fun workId => by rw [hTables])
  | report | replay | cancelOpening => exact .inl (.of_eq rfl rfl fun _ => Nat.le_refl _)
  | commit hEntry hLedger => exact .inr (.inl ⟨_, _, _, _, rfl, hLedger, rfl⟩)
  | accept hJob hVerdict hId => exact .inr (.inr (.inl ⟨_, _, hVerdict, ⟨_, _, rfl, hId⟩, rfl⟩))
  | admitSource hJob hVerdict =>
    obtain ⟨hName, hUnused, -, -⟩ := sourceOpenVerdict_fresh hVerdict (by simp) (by simp)
    exact .inr (.inr (.inr ⟨_, hName, hUnused, rfl, rfl, .inl ⟨_, rfl, rfl⟩⟩))
  | rejectSource hJob hVerdict =>
    obtain ⟨hName, hUnused, -, -⟩ := sourceOpenVerdict_fresh hVerdict (by simp) (by simp)
    exact .inr (.inr (.inr ⟨_, hName, hUnused, rfl, rfl, .inr ⟨_, rfl, rfl⟩⟩))
  | grant hActive =>
    exact .inl (.of_eq rfl rfl fun workId =>
      Nat.le_of_eq (Tables.sourceRoles_update (Option.isSome_of_eq_some hActive) rfl rfl))
  | @lateGrant fence response streamId closed acknowledged hClosed =>
    refine .inl (.of_eq rfl rfl fun workId => ?_)
    simp only [Tables.sourceRoles, Store.lookup_insert_ite]
    split
    · rename_i hKey
      subst hKey
      simp [hClosed]
    · exact Nat.le_refl _
  | @acknowledge fence response acknowledgement workId entry =>
    refine .inl ⟨fun _ hNone => hNone, fun _ => Nat.le_refl _, fun other hNone => ?_⟩
    simp only [Store.lookup_erase_ite]
    split
    · rfl
    · exact hNone
  | @acknowledgeSource fence response streamId closed bytes hClosed =>
    refine .inl (.of_eq rfl rfl fun workId => ?_)
    simp only [Tables.sourceRoles, Store.lookup_erase_ite]
    split
    · simp
    · exact Nat.le_refl _
  | cancelOpened hFrame hIdentity hActive =>
    exact .inl (.of_eq rfl rfl fun workId =>
      Tables.sourceRoles_retire (Option.isSome_of_eq_some hActive) rfl rfl)

/-- A step of the reader that leaves an immediate rejection in its hand keeps the
tables. -/
theorem ReaderMove.decided {pc pc' : WorkReaderPc} (h : ReaderMove env c pc pc' c') :
    c'.core = c.core ∨ ∀ job frame, pc'.pending? ≠ some (.commitImmediate job frame) := by
  cases h with
  | quiet hCore hRest hNameless => exact .inl hCore
  | immediate hJob hVerdict hCore hRest hId => exact .inl hCore
  | report | replay | commit | accept | answer | admitSource | rejectSource | retireSource
  | grant | lateGrant | acknowledge | acknowledgeSource | cancelOpening | cancelRefused
  | cancelOpened => exact .inr (by simp [WorkReaderPc.pending?, retireForSource])

-- ---------------------------------------------------------------------------
-- The invariant
-- ---------------------------------------------------------------------------

/-- Every identity has at most one role, and an immediate rejection in the
reader's hand is for an identity without one. -/
structure Identities (s : System) : Prop where
  exclusive : ∀ workId, s.client.tables.roles workId ≤ 1
  named : s.client.tables.sourceRoles [] = 0
  pending : ∀ job frame, s.workReader.pending? = some (.commitImmediate job frame) →
    s.client.tables.Unclaimed job.workId

/-- A commit that converts a token moves its identity from one role to another. -/
theorem roles_committed {job : DispatchJob} {frame : WorkFrame} {entry : ReplayEntry}
    {reservation : Nat} (h : ∀ workId, c.tables.roles workId ≤ 1)
    (hConverts : c.tables.convertedReservation job = some reservation) (workId : Text) :
    (c.committed env job frame entry).tables.roles workId ≤ 1 := by
  obtain ⟨token, hToken, -⟩ := Ledger.convertedReservation_some hConverts
  have hBefore := h workId
  simp only [Tables.roles, Tables.sourceRoles, Client.tables_committed,
    Client.retainTerminal_workTokens, hConverts, Option.isSome_some, if_true,
    Client.retainTerminal_replay, Client.retainTerminal_sourceStreams,
    Client.retainTerminal_closedSources, Store.lookup_insert_ite, Store.lookup_erase_ite]
    at hBefore ⊢
  split
  · rename_i hKey
    subst hKey
    simp only [hToken, Option.isSome_some, Bool.toNat_true] at hBefore
    simp only [Option.isSome_none, Bool.toNat_false, Option.isSome_some, Bool.toNat_true]
    omega
  · exact hBefore

/-- A commit of an identity without a role gives it one. -/
theorem roles_immediate {job : DispatchJob} {frame : WorkFrame} {entry : ReplayEntry}
    (h : ∀ workId, c.tables.roles workId ≤ 1) (hFree : c.tables.Unclaimed job.workId)
    (workId : Text) : (c.committed env job frame entry).tables.roles workId ≤ 1 := by
  have hUnconverted : c.tables.convertedReservation job = none := by
    simp [Tables.convertedReservation, hFree.1]
  have hBefore := h workId
  have hSources := hFree.2
  simp only [Tables.roles, Tables.sourceRoles, Client.tables_committed,
    Client.retainTerminal_workTokens, hUnconverted, Option.isSome_none, Bool.false_eq_true,
    if_false, Client.retainTerminal_replay, Client.retainTerminal_sourceStreams,
    Client.retainTerminal_closedSources, Store.lookup_insert_ite] at hBefore hSources ⊢
  split
  · rename_i hKey
    subst hKey
    simp only [hFree.1, Option.isSome_none, Bool.toNat_false, Option.isSome_some,
      Bool.toNat_true]
    omega
  · exact hBefore

/-- An admitted job takes the only role of its identity. -/
theorem roles_admitDispatch {job : DispatchJob} {reservation : Nat}
    (h : ∀ workId, c.tables.roles workId ≤ 1) (hReplay : c.tables.replay.lookup job.workId = none)
    (hSources : c.tables.sourceRoles job.workId = 0) (workId : Text) :
    (c.admitDispatch job reservation).tables.roles workId ≤ 1 := by
  have hBefore := h workId
  simp only [Tables.roles, Tables.sourceRoles, Client.admitDispatch, Store.lookup_insert_ite]
    at hBefore hSources ⊢
  split
  · rename_i hKey
    subst hKey
    simp only [hReplay, Option.isSome_none, Bool.toNat_false, Option.isSome_some,
      Bool.toNat_true]
    omega
  · exact hBefore

/-- A source takes the only role of an unused key. -/
theorem roles_claimSource {t t' : Tables} {key : Text} (h : ∀ workId, t.roles workId ≤ 1)
    (hUnused : t.Unused key) (hTokens : t'.workTokens = t.workTokens)
    (hReplay : t'.replay = t.replay)
    (hClaim : (∃ source, t'.sourceStreams = t.sourceStreams.insert key source ∧
        t'.closedSources = t.closedSources) ∨
      ∃ closed, t'.sourceStreams = t.sourceStreams ∧
        t'.closedSources = t.closedSources.insert key closed) (workId : Text) :
    t'.roles workId ≤ 1 := by
  obtain ⟨hClosed, hSource, hToken, hEntry⟩ := hUnused
  have hBefore := h workId
  obtain ⟨source, hSources, hSame⟩ | ⟨closed, hSame, hSources⟩ := hClaim
  all_goals
    simp only [Tables.roles, Tables.sourceRoles, hTokens, hReplay, hSources, hSame,
      Store.lookup_insert_ite] at hBefore ⊢
    split
    · rename_i hKey
      subst hKey
      simp [hToken, hEntry, hClosed, hSource]
    · exact hBefore

namespace Identities

/-- A step that claims no identity, with the same rejection in hand or none. -/
theorem of_recedes (h : Identities s) (hRecedes : s.client.tables.Recedes s'.client.tables)
    (hReader : s'.workReader = s.workReader ∨ s'.workReader.pending? = none) :
    Identities s' where
  exclusive workId := Nat.le_trans (hRecedes.roles workId) (h.exclusive workId)
  named := Nat.le_zero.mp (h.named ▸ hRecedes.sources [])
  pending job frame hPending := by
    rcases hReader with hSame | hNone
    · rw [hSame] at hPending
      exact hRecedes.unclaimed (h.pending job frame hPending)
    · rw [hNone] at hPending
      cases hPending

/-- The step of a worker: a commit finds the worker's own token. -/
theorem workerStep (h : Identities s) (hReach : (machine env).Reachable s) (hOwned : Owned s)
    {i : Nat} {pc' : WorkerPc} (hMove : WorkerMove env s.client (s.workers i) pc' s'.client)
    (hReader : s'.workReader = s.workReader) : Identities s' := by
  obtain hRecedes | ⟨job, now, frame, entry, hJob, hDue, -, hClient⟩ := hMove.recedes
  · exact h.of_recedes hRecedes (.inl hReader)
  · obtain ⟨hKind, hOwes⟩ := owes_of_due ((shape_of_reachable hReach).kinds i) hJob hDue
    have hOwns := hOwned job ⟨hKind, .inr ⟨i, hJob, hOwes⟩⟩
    obtain ⟨reservation, hConverts, -⟩ := converts_of_owned hReach (.inr ⟨i, hJob⟩) hOwns
    constructor
    · rw [hClient]
      exact roles_committed h.exclusive hConverts
    · exact Nat.le_zero.mp (h.named ▸ hMove.sourceRoles [])
    · intro pending immediate hPending
      rw [hReader] at hPending
      obtain ⟨hFree, hSources⟩ := h.pending pending immediate hPending
      exact ⟨hMove.workTokens hFree, Nat.le_zero.mp (hSources ▸ hMove.sourceRoles _)⟩

/-- The step of the Work reader. -/
theorem readerStep (h : Identities s) (hReach : (machine env).Reachable s)
    {input : ReaderInput WorkResponse} (hAsks : asksUnclaimed s (.workReader input) = true)
    (hMove : ReaderMove env s.client s.workReader s'.workReader s'.client)
    (hPlane : PlaneMove env s (.workReader input) s') : Identities s' := by
  have hJobs := jobs_of_reachable hReach
  have hUses : ∀ {workId : Text}, s.client.tables.sourceUses workId = false →
      s.client.tables.sourceStreams.lookup workId = none := fun hNot =>
    Tables.lookup_sourceStreams_of_not_uses (fun k source hLook => (hJobs.sources k source hLook).2)
      hNot
  -- a rejection in hand afterwards was decided by this step
  have hPending : s'.client.core = s.client.core ∨ (∀ job frame,
      s'.workReader.pending? ≠ some (.commitImmediate job frame)) →
      ∀ job frame, s'.workReader.pending? = some (.commitImmediate job frame) →
        s'.client.tables.Unclaimed job.workId := by
    intro hCases job frame hTodo
    rcases hCases with hCore | hNone
    · have hTables : s'.client.tables = s.client.tables := congrArg Core.tables hCore
      rw [hTables]
      -- the rejection was in hand before, or is decided here
      obtain hSame | ⟨code, message, -, hVerdict, -, -, -, hAsked⟩ := hPlane.pending hTodo
      · rw [hSame] at hTodo
        exact h.pending job frame hTodo
      · obtain ⟨-, hFree, hReason⟩ := dispatchVerdict_reject hVerdict
        obtain ⟨hClosed, hRole⟩ := asksUnclaimed_of_asks hAsks hAsked hFree
        -- not ready, or an identity in no use
        rcases hReason with hNotReady | ⟨hToken, hNoUse⟩
        · rcases hRole with ⟨hAccepting, hReady⟩ | ⟨hToken, hSource⟩
          · rcases hNotReady with hNot | hNot
            · rw [hAccepting] at hNot
              cases hNot
            · exact absurd hReady hNot
          · exact ⟨hToken, Tables.sourceRoles_eq_zero.mpr ⟨hSource, hClosed⟩⟩
        · exact ⟨hToken, Tables.sourceRoles_eq_zero.mpr ⟨hUses hNoUse, hClosed⟩⟩
    · exact absurd hTodo (hNone job frame)
  have hDecided := hMove.decided
  obtain hRecedes | ⟨fence, job, frame, entry, hPc, -, hClient⟩ |
    ⟨job, reservation, hVerdict, hAsked, hClient⟩ |
    ⟨workId, hName, hUnused, hTokens, hReplay, hClaim⟩ := hMove.recedes
  · -- the step only gives identities up
    exact ⟨fun workId => Nat.le_trans (hRecedes.roles workId) (h.exclusive workId),
      Nat.le_zero.mp (h.named ▸ hRecedes.sources []), hPending hDecided⟩
  · -- the rejection in hand is retained
    have hFree := h.pending job frame (by rw [hPc]; rfl)
    refine ⟨?_, ?_, hPending hDecided⟩
    · rw [hClient]
      exact roles_immediate h.exclusive hFree
    · have hSources : s'.client.tables.sourceRoles [] = s.client.tables.sourceRoles [] := by
        simp [hClient, Tables.sourceRoles]
      rw [hSources, h.named]
  · -- a request is admitted
    obtain ⟨-, hFree, hAccepting, hReady, hToken, hNoUse, -⟩ := dispatchVerdict_accept hVerdict
    obtain ⟨hClosed, -⟩ := asksUnclaimed_of_asks hAsks hAsked hFree
    refine ⟨?_, ?_, hPending hDecided⟩
    · rw [hClient]
      exact roles_admitDispatch h.exclusive hFree
        (Tables.sourceRoles_eq_zero.mpr ⟨hUses hNoUse, hClosed⟩)
    · rw [hClient]
      exact h.named
  · -- a source open claims its identity
    refine ⟨roles_claimSource h.exclusive hUnused hTokens hReplay hClaim, ?_,
      hPending hDecided⟩
    obtain ⟨hSource, hClosed⟩ := Tables.sourceRoles_eq_zero.mp h.named
    have hOther : ([] : Text) ≠ workId := Ne.symm hName
    rw [Tables.sourceRoles_eq_zero]
    obtain ⟨source, hEq, hSame⟩ | ⟨closed, hSame, hEq⟩ := hClaim
    · rw [hEq, hSame, Store.lookup_insert_ite, if_neg hOther]
      exact ⟨hSource, hClosed⟩
    · rw [hEq, hSame, Store.lookup_insert_ite, if_neg hOther]
      exact ⟨hSource, hClosed⟩

end Identities

/-- Requests ask for unclaimed identities and releases are of own tokens. -/
def keepsIdentities (s : System) (a : Action) : Prop :=
  releasesOwn s a = true ∧ asksUnclaimed s a = true

instance (s : System) (a : Action) : Decidable (keepsIdentities s a) :=
  inferInstanceAs (Decidable (_ ∧ _))

/-- In every run that keeps identities apart they have at most one role. -/
theorem identities_of_reaches (h : (machine env).Reaches keepsIdentities s) : Identities s := by
  refine h.invariant (I := Identities) ⟨fun workId => ?_, rfl, ?_⟩ ?_
  · simp [machine, Tables.roles, Tables.sourceRoles]
  · simp [machine, WorkReaderPc.pending?]
  · -- every move gives identities up, but for the two that claim one
    intro s a s' hReach hIdentities hCond hStep
    have hOwned := owned_of_reaches (hReach.mono fun _ _ hCond => hCond.1)
    have hPlane := planeMove_of_step (shape_of_reachable hReach.reachable) hStep
    have hCopy := hPlane
    cases hPlane with
    | worker hAction hWorker hMove hWorkers hReader hHolds =>
      exact hIdentities.workerStep hReach.reachable hOwned hMove hReader
    | reader hAction hMove hWorkers hWork =>
      subst hAction
      exact hIdentities.readerStep hReach.reachable hCond.2 hMove hCopy
    | publish hAction hClient hWorkers hReader =>
      -- the application claims no identity
      refine hIdentities.of_recedes (.of_eq ?_ ?_ fun workId => ?_) (.inl hReader) <;> rw [hClient]
      · exact tokens_publishSource.1
      · exact congrArg LedgerPart.replay ledger_publishSource
      · exact Nat.le_of_eq (sourceRoles_publishSource workId)
    | close hAction hClient hWorkers hReader =>
      refine hIdentities.of_recedes (.of_eq ?_ ?_ fun workId => ?_) (.inl hReader) <;> rw [hClient]
      · exact tokens_closeSource.1
      · exact congrArg LedgerPart.replay ledger_closeSource
      · exact sourceRoles_closeSource workId
    | quiet hCore hSteady hWorkers hReader => exact hIdentities.of_recedes (.of_core hCore) hReader
    | deactivate hCore hSteady hWorkers hReader hControl =>
      refine hIdentities.of_recedes (.of_eq ?_ ?_ fun workId => ?_) (.inl hReader)
      · -- the tables that are emptied hold no identity
        exact congrArg (fun k : Core => k.tables.workTokens) hCore
      · exact congrArg (fun k : Core => k.tables.replay) hCore
      · exact Tables.sourceRoles_drop
          (.inr (congrArg (fun k : Core => k.tables.sourceStreams) hCore))
          (.inr (congrArg (fun k : Core => k.tables.closedSources) hCore))
    | drop hPhase hCore hSteady hWorkers hReader =>
      refine hIdentities.of_recedes (.of_eq ?_ ?_ fun workId => ?_) (.inl hReader)
      · exact congrArg (fun k : Core => k.tables.workTokens) hCore
      · exact congrArg (fun k : Core => k.tables.replay) hCore
      · exact Tables.sourceRoles_drop
          (.inr (congrArg (fun k : Core => k.tables.sourceStreams) hCore))
          (.inl (congrArg (fun k : Core => k.tables.closedSources) hCore))
    | release hPhase hNone hNone' hCore hReader =>
      have hTables : s'.client.tables = s.client.tables.releaseAllWorkTokens :=
        congrArg Core.tables hCore
      refine hIdentities.of_recedes ⟨fun workId hFree => ?_, fun workId => ?_,
        fun workId hFree => ?_⟩ (.inl hReader) <;> rw [hTables]
      · simp
      · exact Tables.sourceRoles_drop (.inl (by simp)) (.inl (by simp))
      · simpa using hFree
    | outside hPhase hNone hNone' hTokens hTokens' hReplay hSources hClosed hHistory hNext
        hReader =>
      refine hIdentities.of_recedes ⟨fun workId hFree => ?_, fun workId => ?_,
        fun workId hFree => ?_⟩ (.inr hReader)
      · rw [hTokens']
        rfl
      · exact Tables.sourceRoles_drop hSources hClosed
      · rcases hReplay with hEq | hEq
        · rwa [hEq]
        · rw [hEq]
          rfl

/-- While requests ask for unclaimed identities and releases are of own tokens,
the four identity tables have disjoint keys, and every retained terminal is
released by its exact acknowledgement. -/
theorem identity_exclusive (h : (machine env).Reaches keepsIdentities s) :
    (∀ workId,
      ¬(workId ∈ s.client.tables.workTokens ∧ workId ∈ s.client.tables.replay) ∧
      ¬(workId ∈ s.client.tables.workTokens ∧ workId ∈ s.client.tables.sourceStreams) ∧
      ¬(workId ∈ s.client.tables.workTokens ∧ workId ∈ s.client.tables.closedSources) ∧
      ¬(workId ∈ s.client.tables.replay ∧ workId ∈ s.client.tables.sourceStreams) ∧
      ¬(workId ∈ s.client.tables.replay ∧ workId ∈ s.client.tables.closedSources) ∧
      ¬(workId ∈ s.client.tables.sourceStreams ∧ workId ∈ s.client.tables.closedSources)) ∧
    (∀ workId entry acknowledgement sequence,
      s.client.tables.replay.lookup workId = some entry →
      acknowledgement = { identity := .workId workId, terminalDigest := entry.terminalDigest } →
      isCanonicalSha256 entry.terminalDigest = true →
      (handleTerminalAcknowledgement s.client acknowledgement sequence).2.tables.replay.lookup
        workId = none) ∧
    (∀ streamId closed acknowledgement sequence,
      s.client.tables.closedSources.lookup streamId = some closed →
      acknowledgement =
        { identity := .streamId streamId, terminalDigest := closed.terminalDigest } →
      isCanonicalSha256 closed.terminalDigest = true →
      (handleTerminalAcknowledgement s.client acknowledgement
        sequence).2.tables.closedSources.lookup streamId = none) := by
  have hIdentities := identities_of_reaches h
  have hPairs := fun workId => Tables.roles_pairs (hIdentities.exclusive workId)
  simp only [← AList.lookup_isSome] at hPairs ⊢
  refine ⟨hPairs, ?_, ?_⟩
  · rintro workId entry acknowledgement sequence hEntry rfl hCanonical
    have hName : workId ≠ [] := by
      rintro rfl
      rw [(named_of_reachable h.reachable).retained] at hEntry
      cases hEntry
    obtain ⟨hToken, -, -, hSource, hClosed, -⟩ := hPairs workId
    simp only [hEntry, Option.isSome_some, and_true, true_and, Bool.not_eq_true,
      Option.isSome_eq_false_iff, Option.isNone_iff_eq_none] at hToken hSource hClosed
    simp [handleTerminalAcknowledgement, hCanonical, hName, hToken, hSource, hClosed, hEntry]
  · rintro streamId closed acknowledgement sequence hClosed rfl hCanonical
    have hName : streamId ≠ [] := by
      rintro rfl
      rw [(Tables.sourceRoles_eq_zero.mp hIdentities.named).2] at hClosed
      cases hClosed
    have hDigest : closed.terminalDigest ≠ [] := by
      intro hEmpty
      simp [isCanonicalSha256, hEmpty] at hCanonical
    obtain ⟨-, -, hToken, -, hReplay, hSource⟩ := hPairs streamId
    simp only [hClosed, Option.isSome_some, and_true, Bool.not_eq_true,
      Option.isSome_eq_false_iff, Option.isNone_iff_eq_none] at hToken hReplay hSource
    simp [handleTerminalAcknowledgement, hCanonical, hName, hDigest, hToken, hSource, hReplay,
      hClosed]

section Runs

open Deployment

/-- A query retained, a second one running and a source open. -/
theorem identity_exclusive_mixed :
    ∃ s, (machine deployment).Reaches keepsIdentities s ∧
      text "a" ∈ s.client.tables.replay ∧ text "b" ∈ s.client.tables.workTokens ∧
      text "c" ∈ s.client.tables.sourceStreams ∧
      ∀ workId, ¬(workId ∈ s.client.tables.workTokens ∧ workId ∈ s.client.tables.replay) := by
  obtain ⟨s, hReach, hRun⟩ := (machine deployment).exists_reaches_of_runWith keepsIdentities
    (bringUp ++ hostFrame 1 1 (unaryFrame "a") ++ runQuery 0 ++ worker 0 2 ++
      hostFrame 1 2 (unaryFrame "b") ++ hostFrame 1 3 (sourceOpenRequestFrame "c"))
    (fun s => (s.client.tables.replay.lookup (text "a")).isSome &&
      (s.client.tables.workTokens.lookup (text "b")).isSome &&
      (s.client.tables.sourceStreams.lookup (text "c")).isSome) (by decide +kernel)
  simp only [Bool.and_eq_true, AList.lookup_isSome] at hRun
  exact ⟨s, hReach, hRun.1.1, hRun.1.2, hRun.2,
    fun workId => ((identity_exclusive hReach).1 workId).1⟩

/-- A source is opened and closed, and its identity reused by a query before the
retained close is acknowledged: it is active Work and a source terminal. -/
theorem identity_shared :
    ∃ s, (machine deployment).Reachable s ∧ text "w" ∈ s.client.tables.workTokens ∧
      text "w" ∈ s.client.tables.closedSources := by
  obtain ⟨s, hReach, hRun⟩ := (machine deployment).exists_reaches_of_runWith (fun _ _ => True)
    (bringUp ++ hostFrame 1 1 (sourceOpenRequestFrame "w") ++ worker 0 4 ++
      .worker 0 (.sourceOutcome (.value { accepted := true })) :: worker 0 2 ++
      .closeSource (text "w") none :: hostFrame 1 2 (unaryFrame "w"))
    (fun s => (s.client.tables.workTokens.lookup (text "w")).isSome &&
      (s.client.tables.closedSources.lookup (text "w")).isSome) (by decide +kernel)
  simp only [Bool.and_eq_true, AList.lookup_isSome] at hRun
  exact ⟨s, hReach, hRun.1, hRun.2⟩

end Runs

end AdapterRuntime.Model
