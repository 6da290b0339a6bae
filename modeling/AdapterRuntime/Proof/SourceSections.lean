import AdapterRuntime.Proof.Sections

/-!
# AdapterRuntime — what the source sections do

The outcomes of `PublishSource`, `CloseSource`, `GrantSourceCredit`,
`HandleTerminalAcknowledgement`, `HandleCancellation` and of the commit section
of `HandleSourceOpen`, one lemma each.
-/

namespace AdapterRuntime.Model

open AdapterRuntime.Lib

section Sources

variable {env : Env} {c c' : Client} {streamId : Text}

-- ---------------------------------------------------------------------------
-- The source calls of the application
-- ---------------------------------------------------------------------------

/-- The source after an accepted chunk. -/
def SourceState.published (source : SourceState) (items : List Text) : SourceState :=
  { source with
    messageCredit := source.messageCredit - items.length
    byteCredit := source.byteCredit - chunkBytes items
    sequence := source.sequence + 1 }

/-- What `PublishSource` has checked when it accepts a chunk. -/
structure Publishes (env : Env) (c : Client) (streamId : Text) (items : List Text)
    (source : SourceState) : Prop where
  accepting : c.flags.acceptingWork = true
  ready : c.flags.state = .ready
  live : c.flags.sessionFailed = false
  active : c.tables.sourceStreams.lookup streamId = some source
  epoch : source.connectionEpoch = c.session.connectionEpochCounter
  opened : source.phase = .opened
  nonempty : items ≠ []
  messageLimit : source.maximumChunkMessages = 0 ∨ items.length ≤ source.maximumChunkMessages
  byteLimit : source.maximumChunkBytes = 0 ∨ chunkBytes items ≤ source.maximumChunkBytes
  messageCredit : items.length ≤ source.messageCredit
  byteCredit : chunkBytes items ≤ source.byteCredit
  admits : c.workAdmits env (.sourceData { streamId, sequence := source.sequence + 1, items }) = true

/-- The outcomes of `PublishSource`: an accepted chunk is charged and queued in
one step, and every other result leaves the client as it was. -/
theorem publishSource_cases {items : List Text} {result : SourceWriteResult}
    (h : publishSource env c streamId items = (result, c')) :
    (result = .accepted ∧ ∃ source, Publishes env c streamId items source ∧
      c' = (c.queued env (some source.cancellation)
        (.sourceData { streamId, sequence := source.sequence + 1, items })).setSource streamId
          (source.published items)) ∨
    (result ≠ .accepted ∧ Client.Refused c c') := by
  unfold publishSource at h
  split at h
  · -- not ready, or not accepting
    simp only [Prod.mk.injEq] at h
    exact .inr ⟨by simp [← h.1], .inl h.2.symm⟩
  · rename_i hReady
    simp only [not_or, not_not, Bool.not_eq_true] at hReady
    split at h
    · -- no such source
      simp only [Prod.mk.injEq] at h
      exact .inr ⟨by simp [← h.1], .inl h.2.symm⟩
    · rename_i source hActive
      simp only at h
      split at h
      · -- a source of another epoch
        simp only [Prod.mk.injEq] at h
        exact .inr ⟨by simp [← h.1], .inl h.2.symm⟩
      · rename_i hEpoch
        split at h
        · -- not open yet
          simp only [Prod.mk.injEq] at h
          exact .inr ⟨by simp [← h.1], .inl h.2.symm⟩
        · rename_i hPhase
          split at h
          · -- no item, or no byte
            simp only [Prod.mk.injEq] at h
            exact .inr ⟨by simp [← h.1], .inl h.2.symm⟩
          · rename_i hEmpty
            split at h
            · -- over the limits of a chunk
              simp only [Prod.mk.injEq] at h
              exact .inr ⟨by simp [← h.1], .inl h.2.symm⟩
            · rename_i hLimits
              split at h
              · -- over the credit
                simp only [Prod.mk.injEq] at h
                exact .inr ⟨by simp [← h.1], .inl h.2.symm⟩
              · rename_i hCredit
                split at h
                · simp only [Prod.mk.injEq] at h
                  exact .inr ⟨by simp [← h.1], .inr h.2.symm⟩
                · split at h
                  · simp only [Prod.mk.injEq] at h
                    exact .inr ⟨by simp [← h.1], .inl h.2.symm⟩
                  · split at h <;> rename_i hQueue <;> simp only [Prod.mk.injEq] at h
                    · obtain ⟨hTrue, -⟩ | ⟨-, -, hRefused⟩ := Client.queueWorkLocked_cases hQueue
                      · simp at hTrue
                      · exact .inr ⟨by simp [← h.1], h.2 ▸ hRefused⟩
                    · obtain ⟨-, hAdmits, hEq⟩ | ⟨hFalse, -⟩ := Client.queueWorkLocked_cases hQueue
                      · refine .inl ⟨h.1.symm, source, ?_, ?_⟩
                        · exact
                            { accepting := by simpa using hReady.2.1
                              ready := hReady.1
                              live := hReady.2.2
                              active := hActive
                              epoch := not_not.mp hEpoch
                              opened := not_not.mp hPhase
                              nonempty := fun hNil => hEmpty (.inl hNil)
                              messageLimit := by omega
                              byteLimit := by omega
                              messageCredit := by omega
                              byteCredit := by omega
                              admits := hAdmits }
                        · rw [← h.2, hEq]
                          rfl
                      · simp at hFalse

/-- The client after a `SourceClose` of an open source. -/
def Client.closed (env : Env) (c : Client) (streamId : Text) (source : SourceState)
    (error : Option AdapterError) (digest : Text) : Client :=
  (c.sourceCommitted env streamId source
    (.sourceClose { streamId, finalSequence := source.sequence, error }) digest).eraseSource streamId

/-- The outcomes of `CloseSource`. -/
theorem closeSource_cases {error : Option AdapterError} {ok : Bool}
    (h : closeSource env c streamId error = (ok, c')) :
    (ok = true ∧ ∃ source digest, c.tables.sourceStreams.lookup streamId = some source ∧
      source.phase = .opened ∧ source.connectionEpoch = c.session.connectionEpochCounter ∧
      c' = c.closed env streamId source error digest) ∨
    (ok = false ∧ Client.Refused c c') := by
  have hRefuse : ∀ b : Bool, Client.Refused c (if b then c.countDropped else c) := by
    intro b
    cases b
    · exact .inl rfl
    · exact .inr rfl
  unfold closeSource at h
  simp only at h
  split at h
  · simp only [Prod.mk.injEq] at h
    exact .inr ⟨h.1.symm, h.2 ▸ hRefuse _⟩
  · rename_i source hActive
    split at h
    · simp only [Prod.mk.injEq] at h
      exact .inr ⟨h.1.symm, h.2 ▸ hRefuse _⟩
    · rename_i hChecks
      simp only [not_or, not_not] at hChecks
      split at h <;> rename_i hCommit <;> simp only [Prod.mk.injEq] at h
      · obtain ⟨hTrue, -⟩ | ⟨-, hRefused⟩ := Client.commitSourceTerminal_cases hCommit
        · simp at hTrue
        · exact .inr ⟨h.1.symm, h.2 ▸ hRefused⟩
      · obtain ⟨-, -, -, digest, -, hEq⟩ | ⟨hFalse, -⟩ := Client.commitSourceTerminal_cases hCommit
        · refine .inl ⟨h.1.symm, source, digest, hActive, hChecks.1, hChecks.2.1, ?_⟩
          rw [← h.2, hEq]
          rfl
        · simp at hFalse

-- ---------------------------------------------------------------------------
-- Host frames about sources
-- ---------------------------------------------------------------------------

/-- The source after a grant. -/
def SourceState.granted (source : SourceState) (acknowledged messages bytes : Nat) :
    SourceState :=
  { source with
    acknowledgedSequence := acknowledged
    messageCredit := sizeAdd source.messageCredit messages
    byteCredit := sizeAdd source.byteCredit bytes }

/-- The outcomes of `GrantSourceCredit`. -/
theorem grantSourceCredit_cases {credit : SourceCredit} {sequence : Nat} {todo : FollowUp}
    (h : grantSourceCredit c credit sequence = (todo, c')) :
    (todo = .done ∧ ∃ grant source, credit.grant = some grant ∧
      c.tables.sourceStreams.lookup credit.streamId = some source ∧
      source.phase = .opened ∧ source.connectionEpoch = c.session.connectionEpochCounter ∧
      source.acknowledgedSequence ≤ credit.acknowledgedSequence ∧
      credit.acknowledgedSequence ≤ source.sequence ∧
      source.messageCredit + grant.messages ≤ sizeMax ∧
      source.byteCredit + grant.bytes ≤ sizeMax ∧
      c' = { c with history := .granted source.cancellation grant.messages grant.bytes ::
          c.history }.setSource credit.streamId
            (source.granted credit.acknowledgedSequence grant.messages grant.bytes)) ∨
    (todo = .done ∧ ∃ closed, c.tables.closedSources.lookup credit.streamId = some closed ∧
      c.tables.sourceStreams.lookup credit.streamId = none ∧
      c' = { c with tables := { c.tables with
        closedSources := c.tables.closedSources.insert credit.streamId
          { closed with acknowledgedSequence := credit.acknowledgedSequence } } }) ∨
    ((∃ message, todo = .protocolError sequence message) ∧ c' = c) := by
  unfold grantSourceCredit at h
  simp only at h
  split at h
  · -- no grant in the message
    simp only [Prod.mk.injEq] at h
    exact .inr (.inr ⟨⟨_, h.1.symm⟩, h.2.symm⟩)
  · rename_i grant hGrant
    split at h
    · -- a grant of nothing, or without identity
      simp only [Prod.mk.injEq] at h
      exact .inr (.inr ⟨⟨_, h.1.symm⟩, h.2.symm⟩)
    · rename_i hPositive
      split at h
      · -- no such source: a late grant for a tombstone, or an error
        rename_i hInactive
        split at h
        · simp only [Prod.mk.injEq] at h
          exact .inr (.inr ⟨⟨_, h.1.symm⟩, h.2.symm⟩)
        · rename_i closed hClosed
          split at h
          · simp only [Prod.mk.injEq] at h
            exact .inr (.inr ⟨⟨_, h.1.symm⟩, h.2.symm⟩)
          · split at h
            · simp only [Prod.mk.injEq] at h
              exact .inr (.inr ⟨⟨_, h.1.symm⟩, h.2.symm⟩)
            · simp only [Prod.mk.injEq] at h
              exact .inr (.inl ⟨h.1.symm, closed, hClosed, hInactive, h.2.symm⟩)
      · rename_i source hActive
        split at h
        · -- not open, or of another epoch
          simp only [Prod.mk.injEq] at h
          exact .inr (.inr ⟨⟨_, h.1.symm⟩, h.2.symm⟩)
        · rename_i hOpen
          split at h
          · -- an acknowledgement outside what was sent
            simp only [Prod.mk.injEq] at h
            exact .inr (.inr ⟨⟨_, h.1.symm⟩, h.2.symm⟩)
          · rename_i hAck
            split at h
            · -- credit that would overflow
              simp only [Prod.mk.injEq] at h
              exact .inr (.inr ⟨⟨_, h.1.symm⟩, h.2.symm⟩)
            · rename_i hOverflow
              simp only [not_or, not_not, not_lt, Bool.not_eq_true] at hOpen hAck hOverflow
              simp only [addOverflows, decide_eq_false_iff_not, not_lt] at hOverflow
              simp only [not_or] at hPositive
              simp only [Prod.mk.injEq] at h
              -- a positive grant that does not overflow leaves the exact sum in the word
              have hMessages : source.messageCredit + grant.messages ≤ sizeMax := by omega
              have hBytes : source.byteCredit + grant.bytes ≤ sizeMax := by omega
              exact .inl ⟨h.1.symm, grant, source, hGrant, hActive, hOpen.1, hOpen.2, hAck.1,
                hAck.2, hMessages, hBytes, h.2.symm⟩

/-- The outcomes of `HandleTerminalAcknowledgement`. -/
theorem handleTerminalAcknowledgement_cases {acknowledgement : TerminalAcknowledgement}
    {sequence : Nat} {todo : FollowUp}
    (h : handleTerminalAcknowledgement c acknowledgement sequence = (todo, c')) :
    (todo = .done ∧ ∃ workId entry, acknowledgement.identity = .workId workId ∧
      c.tables.workTokens.lookup workId = none ∧ c.tables.sourceStreams.lookup workId = none ∧
      c.tables.closedSources.lookup workId = none ∧
      c.tables.replay.lookup workId = some entry ∧
      entry.terminalDigest = acknowledgement.terminalDigest ∧
      c' = { c with
        tables := { c.tables with
          terminalReplayBytes := c.tables.terminalReplayBytes - entry.accountedBytes
          replay := c.tables.replay.erase workId }
        history := .acknowledged workId :: c.history }) ∨
    (todo = .done ∧ ∃ streamId closed bytes, acknowledgement.identity = .streamId streamId ∧
      c.tables.closedSources.lookup streamId = some closed ∧
      closed.terminalDigest = acknowledgement.terminalDigest ∧
      c' = { c with tables := { c.tables with
        sourceStateBytes := bytes
        closedSources := c.tables.closedSources.erase streamId } } ∧
      bytes = c.tables.sourceStateBytes - closed.accountedBytes) ∨
    ((todo = .done ∨ ∃ message, todo = .protocolError sequence message) ∧ c' = c) := by
  unfold handleTerminalAcknowledgement at h
  simp only at h
  split at h
  · -- an identity or digest that is not well formed
    simp only [Prod.mk.injEq] at h
    exact .inr (.inr ⟨.inr ⟨_, h.1.symm⟩, h.2.symm⟩)
  · split at h
    · rename_i workId hIdentity
      -- a Work identity: unnamed, still active, or closed as a source
      split at h
      · simp only [Prod.mk.injEq] at h
        exact .inr (.inr ⟨.inr ⟨_, h.1.symm⟩, h.2.symm⟩)
      · split at h
        · simp only [Prod.mk.injEq] at h
          exact .inr (.inr ⟨.inr ⟨_, h.1.symm⟩, h.2.symm⟩)
        · rename_i hActive
          split at h
          · simp only [Prod.mk.injEq] at h
            exact .inr (.inr ⟨.inr ⟨_, h.1.symm⟩, h.2.symm⟩)
          · rename_i hClosed
            split at h
            · -- acknowledged before
              simp only [Prod.mk.injEq] at h
              exact .inr (.inr ⟨.inl h.1.symm, h.2.symm⟩)
            · rename_i entry hEntry
              split at h
              · -- another digest than the retained one
                simp only [Prod.mk.injEq] at h
                exact .inr (.inr ⟨.inr ⟨_, h.1.symm⟩, h.2.symm⟩)
              · rename_i hDigest
                simp only [not_or, Bool.not_eq_true, Option.isSome_eq_false_iff,
                  Option.isNone_iff_eq_none] at hActive hClosed
                simp only [Prod.mk.injEq] at h
                -- exactly the retained result: it goes
                exact .inl ⟨h.1.symm, workId, entry, hIdentity, hActive.1, hActive.2, hClosed,
                  hEntry, not_not.mp hDigest, h.2.symm⟩
    · rename_i streamId hIdentity
      -- a stream identity, in the same order
      split at h
      · simp only [Prod.mk.injEq] at h
        exact .inr (.inr ⟨.inr ⟨_, h.1.symm⟩, h.2.symm⟩)
      · split at h
        · simp only [Prod.mk.injEq] at h
          exact .inr (.inr ⟨.inr ⟨_, h.1.symm⟩, h.2.symm⟩)
        · split at h
          · simp only [Prod.mk.injEq] at h
            exact .inr (.inr ⟨.inr ⟨_, h.1.symm⟩, h.2.symm⟩)
          · split at h
            · simp only [Prod.mk.injEq] at h
              exact .inr (.inr ⟨.inl h.1.symm, h.2.symm⟩)
            · rename_i closed hClosed
              split at h
              · simp only [Prod.mk.injEq] at h
                exact .inr (.inr ⟨.inr ⟨_, h.1.symm⟩, h.2.symm⟩)
              · rename_i hDigest
                -- exactly the tombstone: it goes
                simp only [Prod.mk.injEq] at h
                refine .inr (.inl ⟨h.1.symm, streamId, closed, _, hIdentity, hClosed,
                  not_not.mp (not_or.mp hDigest).2, h.2.symm, ?_⟩)
                split <;> omega
    · -- no identity at all
      simp only [Prod.mk.injEq] at h
      exact .inr (.inr ⟨.inr ⟨_, h.1.symm⟩, h.2.symm⟩)

/-- The client after a Host cancellation has been recorded for a source. -/
def Client.sourceCancelled (c : Client) (source : SourceState) : Client :=
  { c.request source.cancellation with
    history := .sourceCancelled source.cancellation :: c.history }

/-- Noting a cancellation winds nothing down. -/
theorem Client.Subsides.sourceCancelled (source : SourceState) :
    c.Subsides (c.sourceCancelled source) :=
  .trans (.request source.cancellation) (.of_surround rfl)

/-- The outcomes of `HandleCancellation`. -/
theorem handleCancellation_cases {cancellation : WorkCancellation} {sequence : Nat}
    {todo : FollowUp} (h : handleCancellation env c cancellation sequence = (todo, c')) :
    (∃ source streamId, cancellation.identity = .streamId streamId ∧
      c.tables.sourceStreams.lookup streamId = some source ∧
      source.connectionEpoch = c.session.connectionEpochCounter ∧
      ((todo = .done ∧ source.phase = .opening ∧ c' = c.sourceCancelled source) ∨
        (todo = .signalFailure
            (text "bounded Work queue could not acknowledge source cancellation") ∧
          source.phase = .opened ∧ Client.Refused (c.sourceCancelled source) c') ∨
        (todo = .notifySourceClosed source (cancellationError cancellation) ∧
          source.phase = .opened ∧ ∃ digest,
            c' = (c.sourceCancelled source).closed env streamId source
              (some (cancellationError cancellation)) digest))) ∨
    (todo = .done ∧ ∃ workId token, cancellation.identity = .workId workId ∧
      c.tables.workTokens.lookup workId = some token ∧ c' = c.request token.cancellation) ∨
    ((todo = .done ∨ ∃ message, todo = .protocolError sequence message) ∧ c' = c) := by
  unfold handleCancellation at h
  simp only at h
  split at h
  · -- no identity
    simp only [Prod.mk.injEq] at h
    exact .inr (.inr ⟨.inr ⟨_, h.1.symm⟩, h.2.symm⟩)
  · rename_i workId hIdentity
    split at h
    · -- a Work identity that is empty
      simp only [Prod.mk.injEq] at h
      exact .inr (.inr ⟨.inr ⟨_, h.1.symm⟩, h.2.symm⟩)
    · split at h <;> simp only [Prod.mk.injEq] at h
      · -- nothing to cancel, or the token of a request
        exact .inr (.inr ⟨.inl h.1.symm, h.2.symm⟩)
      · rename_i token hToken
        exact .inr (.inl ⟨h.1.symm, workId, token, hIdentity, hToken, h.2.symm⟩)
  · rename_i streamId hIdentity
    split at h
    · -- a stream identity that is empty
      simp only [Prod.mk.injEq] at h
      exact .inr (.inr ⟨.inr ⟨_, h.1.symm⟩, h.2.symm⟩)
    · split at h
      · -- no source: a tombstone makes the cancellation late, else it is an error
        split at h
        · simp only [Prod.mk.injEq] at h
          exact .inr (.inr ⟨.inr ⟨_, h.1.symm⟩, h.2.symm⟩)
        · split at h <;> simp only [Prod.mk.injEq] at h
          · exact .inr (.inr ⟨.inr ⟨_, h.1.symm⟩, h.2.symm⟩)
          · exact .inr (.inr ⟨.inl h.1.symm, h.2.symm⟩)
      · rename_i source hActive
        split at h
        · -- a source of an older epoch
          simp only [Prod.mk.injEq] at h
          exact .inr (.inr ⟨.inr ⟨_, h.1.symm⟩, h.2.symm⟩)
        · rename_i hEpoch
          refine .inl ⟨source, streamId, hIdentity, hActive, not_not.mp hEpoch, ?_⟩
          split at h
          · -- still opening: flagged, and left to its worker
            rename_i hPhase
            simp only [Prod.mk.injEq] at h
            refine .inl ⟨h.1.symm, ?_, h.2.symm⟩
            cases hP : source.phase with
            | opening => rfl
            | opened => exact absurd hP hPhase
          · rename_i hPhase
            -- open: the cancellation closes it in this section, if it can be queued
            have hOpened : source.phase = .opened := not_not.mp hPhase
            split at h
            · simp only [Prod.mk.injEq] at h
              exact .inr (.inl ⟨h.1.symm, hOpened, .inr h.2.symm⟩)
            · split at h <;> rename_i hCommit <;> simp only [Prod.mk.injEq] at h
              · obtain ⟨hTrue, -⟩ | ⟨-, hRefused⟩ := Client.commitSourceTerminal_cases hCommit
                · simp at hTrue
                · exact .inr (.inl ⟨h.1.symm, hOpened, h.2 ▸ hRefused⟩)
              · obtain ⟨-, -, -, digest, -, hEq⟩ | ⟨hFalse, -⟩ :=
                  Client.commitSourceTerminal_cases hCommit
                · refine .inr (.inr ⟨h.1.symm, hOpened, digest, ?_⟩)
                  rw [← h.2, hEq]
                  rfl
                · simp at hFalse

-- ---------------------------------------------------------------------------
-- The commit section of HandleSourceOpen
-- ---------------------------------------------------------------------------

/-- The source after an accepted open. -/
def SourceState.openedWith (source : SourceState) (job : DispatchJob) : SourceState :=
  { source with
    phase := .opened
    messageCredit := (job.sourceOpen.initialCredit.getD {}).messages
    byteCredit := (job.sourceOpen.initialCredit.getD {}).bytes }

/-- The job's source is the one in the table. -/
structure OwnsSource (c : Client) (job : DispatchJob) (source : SourceState) : Prop where
  active : c.tables.sourceStreams.lookup job.workId = some source
  epoch : source.connectionEpoch = job.connectionEpoch
  own : job.cancellation = some source.cancellation

/-- The outcomes of the commit section of `HandleSourceOpen`. -/
theorem commitSourceOpen_cases {job : DispatchJob} {decision : SourceOpenDecision}
    {r : SourceCommit} (h : commitSourceOpen env c job decision = (r, c')) :
    (r = .settled ∧ c' = c ∧
      ((∀ source, ¬OwnsSource c job source) ∨ c.flags.sessionFailed = true ∨
        c.flags.stopRequested = true ∨
        c.session.connectionEpochCounter ≠ job.connectionEpoch)) ∨
    (∃ source, OwnsSource c job source ∧ c.flags.sessionFailed = false ∧
      c.flags.stopRequested = false ∧
      c.session.connectionEpochCounter = job.connectionEpoch ∧
      ((r = .failPair ∧ Client.Refused c c') ∨
        (decision.accepted = true ∧ r = .settled ∧
          c' = (c.queued env (some source.cancellation)
            (sourceOpenFrame job.workId decision)).setSource job.workId
              (source.openedWith job)) ∨
        (decision.accepted = false ∧
          (r = .settled ∨ r = .notifySourceClosed source decision.error) ∧ ∃ digest,
            c' = (c.sourceCommitted env job.workId source
              (sourceOpenFrame job.workId decision) digest).eraseSource job.workId))) := by
  unfold commitSourceOpen at h
  split at h
  · -- the source is gone
    rename_i hNone
    simp only [Prod.mk.injEq] at h
    refine .inl ⟨h.1.symm, h.2.symm, .inl fun source hOwns => ?_⟩
    simp [hOwns.active] at hNone
  · rename_i source hActive
    split at h
    · -- it is another source by now
      rename_i hForeign
      simp only [Prod.mk.injEq] at h
      refine .inl ⟨h.1.symm, h.2.symm, .inl fun other hOwns => ?_⟩
      have hSame : source = other := by
        have := hOwns.active
        rw [hActive] at this
        exact Option.some.inj this
      subst hSame
      exact hForeign.elim (fun hE => hE hOwns.epoch) (fun hC => hC hOwns.own)
    · rename_i hOwn
      simp only [not_or, not_not] at hOwn
      split at h
      · -- the session has failed, is stopped, or has moved on
        rename_i hDead
        simp only [Prod.mk.injEq] at h
        exact .inl ⟨h.1.symm, h.2.symm, .inr hDead⟩
      · rename_i hLive
        simp only [not_or, not_not, Bool.not_eq_true] at hLive
        refine .inr ⟨source, ⟨hActive, hOwn.1, hOwn.2⟩, hLive.1, hLive.2.1, hLive.2.2, ?_⟩
        split at h
        · -- the reservation is gone
          simp only [Prod.mk.injEq] at h
          exact .inl ⟨h.1.symm, .inr h.2.symm⟩
        · simp only at h
          cases hDecision : decision.accepted with
          | true =>
            simp only [hDecision, if_true] at h
            split at h
            · -- no room on the Work queue
              simp only [Prod.mk.injEq] at h
              exact .inl ⟨h.1.symm, .inl h.2.symm⟩
            · split at h <;> rename_i hQueue <;> simp only [Prod.mk.injEq] at h
              · -- the accepting frame was refused
                obtain ⟨hTrue, -⟩ | ⟨-, -, hRefused⟩ := Client.queueWorkLocked_cases hQueue
                · simp at hTrue
                · exact .inl ⟨h.1.symm, h.2 ▸ hRefused⟩
              · obtain ⟨-, -, hEq⟩ | ⟨hFalse, -⟩ := Client.queueWorkLocked_cases hQueue
                · -- accepted and queued: the source is open
                  refine .inr (.inl ⟨rfl, h.1.symm, ?_⟩)
                  rw [← h.2, hEq]
                  rfl
                · simp at hFalse
          | false =>
            simp only [hDecision, Bool.false_eq_true, if_false] at h
            cases hCommit : commitSourceTerminal env c job.workId source
                (sourceOpenFrame job.workId decision) with
            | mk ok c₁ =>
              rw [hCommit] at h
              -- rejected: the frame becomes the tombstone
              obtain ⟨rfl, -, -, digest, -, hEq⟩ | ⟨rfl, hRefused⟩ :=
                Client.commitSourceTerminal_cases hCommit
              · simp only [Prod.mk.injEq] at h
                refine .inr (.inr ⟨rfl, ?_, digest, ?_⟩)
                · rw [← h.1]
                  split
                  · exact .inr rfl
                  · exact .inl rfl
                · rw [← h.2, hEq]
              · simp only [Prod.mk.injEq] at h
                exact .inl ⟨h.1.symm, h.2 ▸ hRefused⟩

end Sources

end AdapterRuntime.Model
