import AdapterRuntime.Proof.SourceMoves

/-!
# AdapterRuntime — source tombstones of a pair

A source that has been accepted leaves the table with a `SourceClose` on the
Work queue and a tombstone, and the tombstone stays until the Host acknowledges
it. The one section that breaks this on a live pair is the deactivation a spec
transaction runs, which drops both tables at once.

* `tombstones_kept` — the law, for runs in which no deactivation of a live pair
  finds an open source or a tombstone.
-/

namespace AdapterRuntime.Model

open AdapterRuntime.Lib

variable {env : Env} {s s' : System} {a : Action}

-- ---------------------------------------------------------------------------
-- What ends a source and a tombstone
-- ---------------------------------------------------------------------------

/-- The step is the locked section of a deactivation, run by a transaction. -/
def System.deactivatesLive (s : System) : Action → Bool
  | .controlReader _ => s.controlReader.deactivates
  | _ => false

/-- A deactivation of a live pair finds no open source and no tombstone. -/
def System.sparesSources (s : System) (a : Action) : Prop :=
  s.deactivatesLive a = true → s.client.tables.closedSources = ∅ ∧
    ∀ entry ∈ s.client.tables.sourceStreams.entries, entry.2.phase = .opening

instance (s : System) (a : Action) : Decidable (s.sparesSources a) :=
  inferInstanceAs (Decidable (_ → _ ∧ ∀ entry ∈ _, _))

/-- The pair has ended: its streams have been joined. -/
def System.retires (s : System) : Bool :=
  s.supervisor.phase = .replacing || s.supervisor.phase = .outside

/-- The step handles the exact acknowledgement of a source terminal. -/
def System.acknowledges (s : System) (streamId : Text) : Action → Bool
  | .workReader _ =>
    match s.workReader with
    | .handling _ ⟨_, .terminalAcknowledgement acknowledgement⟩ =>
      acknowledgement.identity = .streamId streamId &&
        (s.client.tables.closedSources.lookup streamId).any
          (·.terminalDigest == acknowledgement.terminalDigest)
    | _ => false
  | _ => false

-- ---------------------------------------------------------------------------
-- One step
-- ---------------------------------------------------------------------------

/-- A tombstone before a step is there after it, unless the Host acknowledges it
or the pair has ended. -/
theorem SourceMove.tombstone (h : SourceMove env s a s') (hSources : Sources s)
    (hSpares : s.sparesSources a) (hRetires : s.retires = false) {streamId : Text}
    (hAcknowledges : s.acknowledges streamId a = false) {closed : ClosedSourceState}
    (hLook : s.client.tables.closedSources.lookup streamId = some closed) :
    ∃ closed', s'.client.tables.closedSources.lookup streamId = some closed' ∧
      closed.Keeps closed' := by
  have hSame : s'.client.tables.closedSources = s.client.tables.closedSources →
      ∃ closed', s'.client.tables.closedSources.lookup streamId = some closed' ∧
        closed.Keeps closed' :=
    fun hEq => ⟨closed, by rwa [hEq], .refl _⟩
  -- the tombstone that is added is of another source
  have hAdded : ∀ {key : Text} {new : ClosedSourceState},
      s.client.tables.closedSources.lookup key = none →
      s'.client.tables.closedSources = s.client.tables.closedSources.insert key new →
      ∃ closed', s'.client.tables.closedSources.lookup streamId = some closed' ∧
        closed.Keeps closed' := by
    intro key new hNone hEq
    have hKey : streamId ≠ key := by
      rintro rfl
      rw [hLook] at hNone
      cases hNone
    exact ⟨closed, by simp [hEq, hKey, hLook], .refl _⟩
  cases h with
  -- moves that leave the tombstones alone
  | keep _ hClosed => exact hSame hClosed
  | enter _ _ _ _ hClient | open_ _ _ _ hClient => exact hSame (by rw [hClient]; rfl)
  | publish _ _ hClient => exact hSame (by rw [hClient]; rfl)
  | grant _ _ _ _ _ _ _ hClient => exact hSame (by rw [hClient]; rfl)
  | cancel _ _ hCore =>
    exact hSame (congrArg (fun k : Core => k.tables.closedSources) hCore)
  | reject _ hUnused hClient => exact hAdded hUnused.1 (by rw [hClient]; rfl)
  | refuse _ hOwns _ hClient =>
    exact hAdded (hSources.exclusive _ _ hOwns.active) (by rw [hClient]; rfl)
  | close _ hActive _ hClient =>
    exact hAdded (hSources.exclusive _ _ hActive) (by rw [hClient]; rfl)
  | cancelOpened _ hActive _ hClient =>
    exact hAdded (hSources.exclusive _ _ hActive) (by rw [hClient]; rfl)
  | @lateGrant _ key late acknowledged _ hActive hClient =>
    -- a late grant keeps everything but the acknowledged sequence
    by_cases hKey : streamId = key
    · subst hKey
      rw [hLook, Option.some.injEq] at hActive
      subst hActive
      exact ⟨{ closed with acknowledgedSequence := acknowledged }, by simp [hClient], rfl, rfl, rfl⟩
    · exact ⟨closed, by simp [hClient, hKey, hLook], .refl _⟩
  | @acknowledge _ key other _ response _ acknowledgement hAction hPc hFrame hIdentity hActive
      hDigest hClient =>
    -- the acknowledgement is of another tombstone
    have hKey : streamId ≠ key := by
      rintro rfl
      obtain ⟨_, _⟩ := response
      subst hFrame
      simp [System.acknowledges, hAction, hPc, hIdentity, hActive, hDigest] at hAcknowledges
    exact ⟨closed, by simp [hClient, hKey, hLook], .refl _⟩
  | deactivate hAction hPc hCore =>
    -- the deactivation finds no tombstone
    have hEmpty := (hSpares (by simp [System.deactivatesLive, hAction, hPc])).1
    rw [hEmpty] at hLook
    cases hLook
  | retire hPhase =>
    simp only [System.retires, Bool.or_eq_false_iff, decide_eq_false_iff_not] at hRetires
    exact (hPhase.elim hRetires.1 hRetires.2).elim

/-- The step takes the open source `source` out of the table with a
`SourceClose` on the Work queue and a tombstone that holds it. -/
structure System.Closes (s s' : System) (streamId : Text) (source : SourceState) : Prop where
  active : s.client.tables.sourceStreams.lookup streamId = some source
  gone : s'.client.tables.sourceStreams.lookup streamId = none
  terminal : ∃ error closed,
    s'.client.tables.closedSources.lookup streamId = some closed ∧
    closed.terminalFrame =
      .sourceClose { streamId, finalSequence := source.sequence, error } ∧
    closed.terminalFrame ∈ s'.client.queues.work.map (·.request) ∧
    WorkEvent.enqueued (some source.cancellation) closed.terminalFrame ∈ s'.client.history

/-- A close of the source leaves its frame on the Work queue and in the tombstone. -/
theorem System.closes_of_closed {c : Client} {streamId digest : Text}
    {error : Option AdapterError} {source : SourceState}
    (hActive : s.client.tables.sourceStreams.lookup streamId = some source)
    (hClient : s'.client = c.closed env streamId source error digest) :
    s.Closes s' streamId source := by
  have hTombstone := congrArg (fun c => c.tables.closedSources.lookup streamId) hClient
  refine ⟨hActive, ?_, error, _, hTombstone.trans (AList.lookup_insert _), rfl, ?_, ?_⟩
  · rw [hClient]
    simp [Client.closed, Client.eraseSource]
  · rw [hClient]
    simp [Client.closed, Client.eraseSource, Client.sourceCommitted, Client.queued,
      Client.rememberClosedSource, Client.pushWork]
  · rw [hClient]
    exact List.mem_cons_self

/-- An open source before a step is there after it, or the step closes it, unless
the pair has ended. -/
theorem SourceMove.opened (h : SourceMove env s a s') (hSources : Sources s) (hJobs : Jobs s)
    (hSpares : s.sparesSources a) (hRetires : s.retires = false) {streamId : Text}
    {source : SourceState}
    (hLook : s.client.tables.sourceStreams.lookup streamId = some source)
    (hPhase : source.phase = .opened) :
    (∃ source', s'.client.tables.sourceStreams.lookup streamId = some source' ∧
      source'.cancellation = source.cancellation ∧ source'.phase = .opened) ∨
    s.Closes s' streamId source := by
  obtain ⟨source', hLook', hTurn⟩ | hExit := h.forward hLook
  · refine .inl ⟨source', hLook', hTurn.sameSource.cancellation, ?_⟩
    cases hTurn with
    | same => exact hPhase
    | opened => rfl
    | published | granted => exact hPhase
  · cases hExit with
    | refused hPc hOwns =>
      -- only a source that is still opening is refused
      rw [hSources.opening_of_commit hJobs hPc hOwns] at hPhase
      cases hPhase
    | closed _ _ hClient => exact .inr (System.closes_of_closed hLook hClient)
    | cancelled _ _ hClient => exact .inr (System.closes_of_closed hLook hClient)
    | deactivated hAction hPc =>
      have hOpening := (hSpares (by simp [System.deactivatesLive, hAction, hPc])).2
        ⟨streamId, source⟩ (AList.mem_lookup_iff.mp hLook)
      rw [hPhase] at hOpening
      cases hOpening
    | retired hEnded =>
      simp only [System.retires, Bool.or_eq_false_iff, decide_eq_false_iff_not] at hRetires
      exact (hEnded.elim hRetires.1 hRetires.2).elim

-- ---------------------------------------------------------------------------
-- Whole runs
-- ---------------------------------------------------------------------------

/-- **Tombstones are kept within a pair.** Along every run of a pair on which no
deactivation finds an open source or a tombstone: a tombstone keeps its terminal
frame, digest and bytes as long as no exact acknowledgement of it is handled, and
an open source stays, or one step of the run takes it out together with a
`SourceClose` on the Work queue and a tombstone. -/
theorem tombstones_kept (h : (machine env).Reachable s) {streamId : Text} :
    (∀ closed, s.client.tables.closedSources.lookup streamId = some closed → ∀ s',
      (machine env).Path (fun s a => s.sparesSources a ∧ s.retires = false ∧
        s.acknowledges streamId a = false) s s' →
      ∃ closed', s'.client.tables.closedSources.lookup streamId = some closed' ∧
        closed.Keeps closed') ∧
    (∀ source, s.client.tables.sourceStreams.lookup streamId = some source →
      source.phase = .opened → ∀ s',
      (machine env).Path (fun s a => s.sparesSources a ∧ s.retires = false) s s' →
      (∃ source', s'.client.tables.sourceStreams.lookup streamId = some source' ∧
        source'.cancellation = source.cancellation ∧ source'.phase = .opened) ∨
      ∃ s₁ a s₂ source₁,
        (machine env).Path (fun s a => s.sparesSources a ∧ s.retires = false) s s₁ ∧
        (machine env).step s₁ a = some s₂ ∧
        (machine env).Path (fun s a => s.sparesSources a ∧ s.retires = false) s₂ s' ∧
        source₁.cancellation = source.cancellation ∧ s₁.Closes s₂ streamId source₁) := by
  refine ⟨fun closed hLook s' hPath => ?_, fun source hLook hPhase s' hPath => ?_⟩
  · refine hPath.preserves (I := fun s => ∃ closed',
      s.client.tables.closedSources.lookup streamId = some closed' ∧ closed.Keeps closed')
      ?_ h ⟨closed, hLook, .refl _⟩
    intro s a s' hReach ⟨closed₁, hLook₁, hKeeps⟩ ⟨hSpares, hRetires, hAcknowledges⟩ hStep
    have hMove := sourceMove_of_step (shape_of_reachable hReach) hStep
    obtain ⟨closed', hLook', hKeeps'⟩ :=
      hMove.tombstone (sources_of_reachable hReach) hSpares hRetires hAcknowledges hLook₁
    exact ⟨closed', hLook', hKeeps.trans hKeeps'⟩
  · -- induction on the run: the source has been closed already, or this step may close it
    induction hPath with
    | refl => exact .inl ⟨source, hLook, rfl, hPhase⟩
    | @step s₁ s₂ a hPrev hCond hStep ih =>
      obtain ⟨source₁, hLook₁, hSame, hPhase₁⟩ | ⟨t₁, b, t₂, source₁, hTo, hClose, hFrom, hRest⟩ := ih
      · have hReach := hPrev.reachable h
        have hMove := sourceMove_of_step (shape_of_reachable hReach) hStep
        obtain ⟨source₂, hLook₂, hSame₂, hPhase₂⟩ | hCloses :=
          hMove.opened (sources_of_reachable hReach) (jobs_of_reachable hReach) hCond.1 hCond.2
            hLook₁ hPhase₁
        · exact .inl ⟨source₂, hLook₂, hSame₂.trans hSame, hPhase₂⟩
        · exact .inr ⟨s₁, a, s₂, source₁, hPrev, hStep, .refl, hSame, hCloses⟩
      · exact .inr ⟨t₁, b, t₂, source₁, hTo, hClose, hFrom.step hCond hStep, hRest⟩

section Runs

open Deployment

/-- One source is closed and another open; a query is served and the other source
closed, and the tombstone of the first is kept. -/
theorem tombstones_kept_query :
    ∃ s s' closed, (machine deployment).Reachable s ∧
      s.client.tables.closedSources.lookup (text "a") = some closed ∧
      (∃ source, s.client.tables.sourceStreams.lookup (text "b") = some source ∧
        source.phase = .opened) ∧
      (machine deployment).Path (fun s a => s.sparesSources a ∧ s.retires = false ∧
        s.acknowledges (text "a") a = false) s s' ∧
      s'.client.tables.sourceStreams.lookup (text "b") = none ∧
      ∃ closed', s'.client.tables.closedSources.lookup (text "a") = some closed' ∧
        closed.Keeps closed' := by
  obtain ⟨s, hReach, hRun⟩ := (machine deployment).exists_reaches_of_runWith (fun _ _ => True)
    (bringUp ++ openFeed 1 "a" ++ openFeed 2 "b" ++ [.closeSource (text "a") none])
    (fun s => (s.client.tables.closedSources.lookup (text "a")).isSome &&
      (s.client.tables.sourceStreams.lookup (text "b")).any (·.phase == .opened) &&
      ((machine deployment).runWith (fun s a => s.sparesSources a ∧ s.retires = false ∧
          s.acknowledges (text "a") a = false) s
        (hostFrame 1 3 (unaryFrame "w") ++ runQuery 0 ++ [.closeSource (text "b") none])).any
        fun s' => (s'.client.tables.sourceStreams.lookup (text "b")).isNone) (by decide +kernel)
  simp only [Bool.and_eq_true, Option.any_eq_true, Option.isSome_iff_exists,
    Option.isNone_iff_eq_none, beq_iff_eq] at hRun
  obtain ⟨⟨⟨closed, hClosed⟩, hOpen⟩, s', hPath, hGone⟩ := hRun
  have hPath := Machine.path_of_runWith hPath
  exact ⟨s, s', closed, hReach, hClosed, hOpen, hPath, hGone,
    (tombstones_kept hReach).1 closed hClosed s' hPath⟩

/-- One source is closed and another open when the next spec arrives: one step of
the transaction on the live pair drops the tombstone that nobody acknowledged and
the open source, and queues nothing. -/
theorem tombstones_dropped :
    ∃ s a s', (machine deployment).Reachable s ∧ (machine deployment).step s a = some s' ∧
      s.retires = false ∧ s.acknowledges (text "a") a = false ∧
      (s.client.tables.closedSources.lookup (text "a")).isSome = true ∧
      s'.client.tables.closedSources.lookup (text "a") = none ∧
      (∃ source, s.client.tables.sourceStreams.lookup (text "b") = some source ∧
        source.phase = .opened) ∧
      s'.client.tables.sourceStreams.lookup (text "b") = none ∧
      s'.client.tables.closedSources.lookup (text "b") = none ∧
      s'.client.queues.work = s.client.queues.work := by
  obtain ⟨s, hReach, hRun⟩ := (machine deployment).exists_reaches_of_runWith (fun _ _ => True)
    (bringUp ++ openFeed 1 "a" ++ openFeed 2 "b" ++ .closeSource (text "a") none ::
      receiveSpec 1 2 2 ++ List.replicate 5 (.controlReader (.tick 0)))
    (fun s => !s.retires && !s.acknowledges (text "a") (.controlReader (.tick 0)) &&
      (s.client.tables.closedSources.lookup (text "a")).isSome &&
      (s.client.tables.sourceStreams.lookup (text "b")).any (·.phase == .opened) &&
      ((machine deployment).step s (.controlReader (.tick 0))).any fun s' =>
        (s'.client.tables.closedSources.lookup (text "a")).isNone &&
        (s'.client.tables.sourceStreams.lookup (text "b")).isNone &&
        (s'.client.tables.closedSources.lookup (text "b")).isNone &&
        s'.client.queues.work == s.client.queues.work) (by decide +kernel)
  simp only [Bool.and_eq_true, Bool.not_eq_true', Option.any_eq_true, Option.isNone_iff_eq_none,
    beq_iff_eq] at hRun
  obtain ⟨⟨⟨⟨hLive, hSilent⟩, hClosed⟩, hOpen⟩, s', hStep, ⟨⟨hLost, hGone⟩, hNone⟩, hQueue⟩ := hRun
  exact ⟨s, _, s', hReach, hStep, hLive, hSilent, hClosed, hLost, hOpen, hGone, hNone, hQueue⟩

end Runs

end AdapterRuntime.Model
