import AdapterRuntime.Model.Deployment
import AdapterRuntime.Proof.Jobs

/-!
# AdapterRuntime — the terminal ledger balances

`terminal_replay_bytes_` is the sum of what `replay_` accounts for and what
`work_tokens_` reserves, and both budgets hold, in every reachable state. No
subtraction on the ledger can then underflow, and a reservation that is still
live is enough for any terminal within the frame limit.

* `Ledger` — the balance and the two budgets; `ledger_of_reachable`.
* `Reserved` — what the token of a held job reserves; `reserved_of_reachable`.
* `terminalLedger_exact` — the ledger, its subtractions and the adequacy of
  live reservations together.
-/

namespace AdapterRuntime.Model

open AdapterRuntime.Lib

/-- The ledger balances and is within its budgets. -/
structure Ledger (env : Env) (l : LedgerPart) : Prop where
  balance : l.terminalReplayBytes =
    Store.total (·.accountedBytes) l.replay + Store.total (·.terminalReservationBytes) l.workTokens
  bytes : l.terminalReplayBytes ≤ env.config.maximumTerminalReplayBytes
  identities : Store.size l.replay + Store.size l.workTokens ≤ env.config.maximumTerminalReplay

namespace Ledger

variable {env : Env} {t : Tables} {c : Client}

/-- The empty tables balance. -/
theorem empty : Ledger env ⟨∅, ∅, 0⟩ := ⟨rfl, Nat.zero_le _, Nat.zero_le _⟩

/-- The counter covers every reservation. -/
theorem reservation_le (h : Ledger env t.ledger) {workId : Text} {token : WorkTokenState}
    (hToken : t.workTokens.lookup workId = some token) :
    token.terminalReservationBytes ≤ t.terminalReplayBytes := by
  have hBalance : t.terminalReplayBytes = _ := h.balance
  rw [hBalance]
  exact Nat.le_add_left_of_le (Store.le_total _ hToken)

/-- The counter covers every entry. -/
theorem accounted_le (h : Ledger env t.ledger) {workId : Text} {entry : ReplayEntry}
    (hEntry : t.replay.lookup workId = some entry) :
    entry.accountedBytes ≤ t.terminalReplayBytes := by
  have hBalance : t.terminalReplayBytes = _ := h.balance
  rw [hBalance]
  exact Nat.le_add_right_of_le (Store.le_total _ hEntry)

/-- A release takes out exactly what the token reserved. -/
theorem releaseWorkToken (h : Ledger env t.ledger) (workId : Text) :
    Ledger env (t.releaseWorkToken workId).ledger := by
  unfold Tables.releaseWorkToken
  split
  · exact h
  · rename_i token hToken
    have hLe := h.reservation_le hToken
    have hTotal := Store.total_erase (·.terminalReservationBytes) hToken
    have hSize := Store.size_erase hToken
    obtain ⟨hBalance, hBytes, hIdentities⟩ := h
    simp only [Tables.ledger] at hBalance hBytes hIdentities
    constructor
    · simp only [Tables.ledger, hLe, if_true]
      omega
    · simp only [Tables.ledger, hLe, if_true]
      omega
    · simp only [Tables.ledger]
      omega

/-- Releasing every token keeps the balance. -/
theorem releaseAllWorkTokens (h : Ledger env t.ledger) :
    Ledger env t.releaseAllWorkTokens.ledger :=
  t.releaseAllWorkTokens_induction (fun u => Ledger env u.ledger) h
    fun _ workId hU => hU.releaseWorkToken workId

/-- An admission charges its reservation within both budgets. -/
theorem admitDispatch (h : Ledger env c.tables.ledger) {job : DispatchJob} {reservation : Nat}
    (hVerdict : dispatchVerdict env c job = .accept reservation) :
    Ledger env (c.admitDispatch job reservation).tables.ledger := by
  obtain ⟨-, -, -, -, hToken, -, hReserve⟩ := dispatchVerdict_accept hVerdict
  have hTotal := Store.total_insert (·.terminalReservationBytes)
    (v := { cancellation := c.nextCancellation, terminalReservationBytes := reservation }) hToken
  have hSize := Store.size_insert
    (v := { cancellation := c.nextCancellation, terminalReservationBytes := reservation }) hToken
  obtain ⟨-, hRoom, -, -, hFits⟩ := reserveTerminalReplay_some hReserve
  obtain ⟨hBalance, hBytes, hIdentities⟩ := h
  simp only [Tables.ledger, Tables.retainedIdentities] at hBalance hBytes hIdentities hRoom
  constructor <;> simp only [Tables.ledger, Client.admitDispatch]
  · rw [hTotal, hBalance]
    exact Nat.add_assoc _ _ _
  · exact hFits
  · rw [hSize]
    omega

/-- A reservation that is converted is that of the job's own token. -/
theorem convertedReservation_some {job : DispatchJob} {reservation : Nat}
    (h : t.convertedReservation job = some reservation) :
    ∃ token, t.workTokens.lookup job.workId = some token ∧
      job.cancellation = some token.cancellation ∧
      token.terminalReservationBytes = reservation ∧ reservation ≠ 0 := by
  unfold Tables.convertedReservation at h
  split at h
  · rename_i token hToken
    split at h
    · rename_i hOwn
      cases h
      exact ⟨token, hToken, hOwn.1, rfl, hOwn.2⟩
    · cases h
  · cases h

/-- A commit converts its reservation into the entry it retains. -/
theorem retainTerminal (h : Ledger env c.tables.ledger) {job : DispatchJob} {entry : ReplayEntry}
    (hAdmits : c.ledgerAdmits env job entry = true) :
    Ledger env (c.retainTerminal job entry).ledger := by
  have hNone := Client.ledgerAdmits_replay hAdmits
  have hTotal := Store.total_insert (·.accountedBytes) (v := entry) hNone
  have hSize := Store.size_insert (v := entry) hNone
  obtain ⟨hBalance, hBytes, hIdentities⟩ := h
  simp only [Tables.ledger] at hBalance hBytes hIdentities
  simp only [Client.ledgerAdmits, Bool.and_eq_true, Bool.or_eq_true, decide_eq_true_eq] at hAdmits
  obtain ⟨⟨⟨-, hReserve⟩, hRoom⟩, hFits⟩ := hAdmits
  rw [fitsByteBudget_iff] at hFits
  unfold Client.retainTerminal
  simp only
  split
  · rename_i reservation hConverted
    rw [hConverted, Option.getD_some] at hReserve hFits
    obtain ⟨token, hToken, -, hBytesEq, -⟩ := convertedReservation_some hConverted
    have hTokenTotal := Store.total_erase (·.terminalReservationBytes) hToken
    have hTokenSize := Store.size_erase hToken
    constructor <;> simp only [Tables.rememberReplay, Tables.ledger, hNone]
    · rw [hTotal]
      omega
    · omega
    · rw [hSize]
      omega
  · rename_i hConverted
    rw [hConverted, Option.getD_none] at hReserve hFits
    rw [hConverted] at hRoom
    simp only [Option.isSome_none, Bool.false_eq_true, false_or, Tables.retainedIdentities]
      at hRoom
    constructor <;> simp only [Tables.rememberReplay, Tables.ledger, hNone]
    · rw [hTotal]
      omega
    · omega
    · rw [hSize]
      omega

/-- An acknowledgement takes out exactly what the entry accounted for. -/
theorem acknowledge (h : Ledger env t.ledger) {workId : Text} {entry : ReplayEntry}
    (hEntry : t.replay.lookup workId = some entry) :
    Ledger env
      { workTokens := t.workTokens
        replay := t.replay.erase workId
        terminalReplayBytes := t.terminalReplayBytes - entry.accountedBytes } := by
  have hLe := h.accounted_le hEntry
  have hTotal := Store.total_erase (·.accountedBytes) hEntry
  have hSize := Store.size_erase hEntry
  obtain ⟨hBalance, hBytes, hIdentities⟩ := h
  simp only [Tables.ledger] at hBalance hBytes hIdentities
  constructor
  · simp only
    omega
  · simp only
    omega
  · simp only
    omega

end Ledger

variable {env : Env} {s s' : System}

/-- The ledger balances in every reachable state. -/
theorem ledger_of_reachable (h : (machine env).Reachable s) :
    Ledger env s.client.tables.ledger := by
  refine h.invariant (I := fun s => Ledger env s.client.tables.ledger) Ledger.empty ?_
  intro s a s' hReach hLedger hStep
  cases ledgerMove_of_step (shape_of_reachable hReach) hStep with
  | same hSame =>
    rw [hSame]
    exact hLedger
  | accept hJob hVerdict hClient hWork =>
    rw [hClient]
    exact hLedger.admitDispatch hVerdict
  | retain hEntry hAdmits hEq =>
    rw [hEq]
    exact hLedger.retainTerminal hAdmits
  | release hEq =>
    rw [hEq]
    exact hLedger.releaseWorkToken _
  | releaseAll hEq =>
    rw [hEq]
    exact hLedger.releaseAllWorkTokens
  | acknowledge hAction hReader hFrame hIdentity hEntry hDigest hEq =>
    rw [hEq]
    exact hLedger.acknowledge hEntry
  | reset hEnd hEq =>
    rw [hEq]
    exact Ledger.empty

-- ---------------------------------------------------------------------------
-- Reservations
-- ---------------------------------------------------------------------------

/-- What the token of a job reserves: one frame at the limit, the fingerprint
and a digest, in the arithmetic of the source. -/
structure Reserves (c : Client) (job : DispatchJob) (bytes : Nat) : Prop where
  amount : bytes = c.session.maximumWorkFrameBytes +
    sizeAdd job.fingerprint.length kCanonicalSha256TextBytes
  word : bytes ≤ sizeMax
  positive : bytes ≠ 0

/-- Every held job whose own token is in the table holds a full reservation. -/
def Reserved (s : System) : Prop :=
  ∀ job token, s.Holds job → s.client.tables.workTokens.lookup job.workId = some token →
    job.cancellation = some token.cancellation →
    Reserves s.client job token.terminalReservationBytes

/-- While Work may be admitted, a session with a frame limit is installed. -/
theorem frameLimit_ne_zero (h : Shape s) (hWork : s.supervisor.phase.work = true) :
    s.client.session.maximumWorkFrameBytes ≠ 0 := by
  have hSome : ∃ r, s.supervisor.supervision? = some r := by
    cases hPc : s.supervisor <;>
      simp_all [SupervisorPc.phase, PairPhase.work, SupervisorPc.supervision?]
  obtain ⟨r, hSupervision⟩ := hSome
  have hInstalled := h.threads.session r hSupervision
  rw [hInstalled.frameLimit]
  exact hInstalled.valid.frameLimit

/-- An admitted job holds the reservation made for it. -/
theorem reserves_of_admits {job : DispatchJob} {reservation : Nat} (hShape : Shape s)
    (h : Admits env s job reservation s') :
    Reserves s'.client (job.admittedAs s.client.nextCancellation reservation) reservation := by
  obtain ⟨-, -, -, -, -, -, hReserve⟩ := dispatchVerdict_accept h.verdict
  obtain ⟨-, -, hAmount, hWord, -⟩ := reserveTerminalReplay_some hReserve
  refine ⟨?_, hWord, ?_⟩
  · rw [h.client]
    exact hAmount
  · have hLimit := frameLimit_ne_zero hShape h.phase
    omega

/-- In every reachable state the jobs on their way hold their reservations. -/
theorem reserved_of_reachable (h : (machine env).Reachable s) : Reserved s := by
  refine h.invariant (I := Reserved) ?_ ?_
  · intro job token hHeld
    exact absurd hHeld (System.Jobless.not_holds ⟨rfl, fun _ => rfl⟩ job)
  · intro s a s' hReach hReserved hStep job token hHeld hToken hOwn
    have hShape := shape_of_reachable hReach
    have hJobs := jobs_of_reachable hReach
    have hMove := planeMove_of_step hShape hStep
    -- a job held before with a token admitted now would share its identity
    obtain hWas | ⟨request, reservation, hAdmits, rfl⟩ | ⟨request, hAdmits, rfl⟩ :=
      hMove.holds hHeld
    · obtain hBefore | ⟨request, reservation, hAdmits, -, rfl⟩ := hMove.token hToken
      · obtain ⟨hAmount, hWord, hPositive⟩ := hReserved job token hWas hBefore hOwn
        exact ⟨by rw [hMove.frameLimit hHeld]; exact hAmount, hWord, hPositive⟩
      · obtain ⟨id, hId, hLt⟩ := hJobs.held job hWas
        rw [hId, Option.some.injEq] at hOwn
        exact absurd (hOwn ▸ hLt) (Nat.lt_irrefl _)
    · have hInserted : s'.client.tables.workTokens.lookup request.workId =
          some ⟨s.client.nextCancellation, reservation⟩ := by
        simp [hAdmits.client, Client.admitDispatch]
      rw [show (request.admittedAs s.client.nextCancellation reservation).workId =
        request.workId from rfl, hInserted] at hToken
      cases hToken
      exact reserves_of_admits hShape hAdmits
    · obtain ⟨now, index, endpoint, bytes, -, hClient⟩ := hAdmits.verdict
      have hTokens : s'.client.tables.workTokens = s.client.tables.workTokens := by
        rw [hClient]
        rfl
      rw [hTokens] at hToken
      have hLt := hJobs.tokens _ token hToken
      simp only [DispatchJob.openedAs, Option.some.injEq] at hOwn
      exact absurd (hOwn ▸ hLt) (Nat.lt_irrefl _)

/-- An entry for a frame within the limit is covered by the reservation of its
job, when the digest has the canonical length. -/
theorem accountedBytes_le {c : Client} {job : DispatchJob} {bytes frameBytes : Nat}
    {frame : WorkFrame} {entry : ReplayEntry} (hReserves : Reserves c job bytes)
    (hFrame : frameBytes ≤ c.session.maximumWorkFrameBytes)
    (hEntry : replayEntryOf env job frame frameBytes = some entry)
    (hDigest : entry.terminalDigest.length = kCanonicalSha256TextBytes) :
    entry.accountedBytes ≤ bytes := by
  obtain ⟨hAmount, hWord, -⟩ := hReserves
  unfold replayEntryOf at hEntry
  split at hEntry
  · split at hEntry
    · rename_i digest hSome
      cases hEntry
      simp only at hDigest
      simp only [hDigest, sizeAdd] at hAmount ⊢
      -- both sides wrap at the same word; the reservation is below it
      rw [Nat.mod_add_mod, Nat.add_assoc, Nat.add_mod, hAmount]
      rw [hAmount] at hWord
      have hSmall : frameBytes % (sizeMax + 1) = frameBytes := Nat.mod_eq_of_lt (by omega)
      rw [hSmall, Nat.mod_eq_of_lt (by omega)]
      omega
    · cases hEntry
  · cases hEntry

/-- The identity check of `CommitTerminalFrame` passes. -/
def Client.identityRoom (env : Env) (c : Client) (job : DispatchJob) : Bool :=
  (c.tables.convertedReservation job).isSome ||
    c.tables.retainedIdentities < env.config.maximumTerminalReplay

/-- The byte-budget check of `CommitTerminalFrame` passes. -/
def Client.byteRoom (env : Env) (c : Client) (job : DispatchJob) (entry : ReplayEntry) : Bool :=
  fitsByteBudget (c.tables.terminalReplayBytes - (c.tables.convertedReservation job).getD 0)
    entry.accountedBytes env.config.maximumTerminalReplayBytes

/-- The check of the ledger, by its parts. -/
theorem Client.ledgerAdmits_eq (c : Client) (job : DispatchJob) (entry : ReplayEntry) :
    c.ledgerAdmits env job entry =
      ((c.tables.replay.lookup job.workId).isNone &&
        decide ((c.tables.convertedReservation job).getD 0 ≤ c.tables.terminalReplayBytes) &&
        c.identityRoom env job && c.byteRoom env job entry) := rfl

/-- A live reservation is enough for every terminal within the frame limit. -/
theorem rooms_of_reserved {c : Client} {job : DispatchJob} {reservation : Nat} {frame : WorkFrame}
    {entry : ReplayEntry} (hLedger : Ledger env c.tables.ledger)
    (hReserves : Reserves c job reservation)
    (hConverted : c.tables.convertedReservation job = some reservation)
    (hFrame : c.workFrameBytes env frame ≤ c.session.maximumWorkFrameBytes)
    (hEntry : replayEntryOf env job frame (c.workFrameBytes env frame) = some entry)
    (hDigest : entry.terminalDigest.length = kCanonicalSha256TextBytes) :
    reservation ≤ c.tables.terminalReplayBytes ∧ c.identityRoom env job = true ∧
      c.byteRoom env job entry = true := by
  obtain ⟨token, hToken, -, hBytes, -⟩ := Ledger.convertedReservation_some hConverted
  have hLe := hLedger.reservation_le hToken
  have hEntryLe := accountedBytes_le hReserves hFrame hEntry hDigest
  have hBudget : c.tables.terminalReplayBytes ≤ env.config.maximumTerminalReplayBytes :=
    hLedger.bytes
  refine ⟨hBytes ▸ hLe, by simp [Client.identityRoom, hConverted], ?_⟩
  rw [Client.byteRoom, fitsByteBudget_iff, hConverted, Option.getD_some]
  omega

/-- Every release of the release-all loop finds what it gives back on the
ledger. -/
theorem Ledger.release_prefix {t : Tables} (h : Ledger env t.ledger) (done : List Text)
    {workId : Text} {token : WorkTokenState}
    (hToken : (done.foldl Tables.releaseWorkToken t).workTokens.lookup workId = some token) :
    token.terminalReservationBytes ≤
      (done.foldl Tables.releaseWorkToken t).terminalReplayBytes := by
  induction done generalizing t with
  | nil => exact h.reservation_le hToken
  | cons key rest ih => exact ih (h.releaseWorkToken key) hToken

/-- The terminal ledger balances within its budgets, no subtraction on it
underflows, and the budget checks of a commit cannot fail for a job whose
reservation is live. -/
theorem terminalLedger_exact (h : (machine env).Reachable s) :
    Ledger env s.client.tables.ledger ∧
    (∀ (done : List Text) (workId : Text) (token : WorkTokenState),
      (done.foldl Tables.releaseWorkToken s.client.tables).workTokens.lookup workId = some token →
      token.terminalReservationBytes ≤
        (done.foldl Tables.releaseWorkToken s.client.tables).terminalReplayBytes) ∧
    (∀ workId entry, s.client.tables.replay.lookup workId = some entry →
      entry.accountedBytes ≤ s.client.tables.terminalReplayBytes) ∧
    (∀ job entry, s.client.ledgerAdmits env job entry = true →
      (s.client.tables.convertedReservation job).getD 0 ≤ s.client.tables.terminalReplayBytes ∧
      s.client.tables.replay.lookup job.workId = none) ∧
    (∀ job reservation frame entry, s.Holds job →
      s.client.tables.convertedReservation job = some reservation →
      s.client.workFrameBytes env frame ≤ s.client.session.maximumWorkFrameBytes →
      replayEntryOf env job frame (s.client.workFrameBytes env frame) = some entry →
      entry.terminalDigest.length = kCanonicalSha256TextBytes →
      reservation ≤ s.client.tables.terminalReplayBytes ∧
      s.client.identityRoom env job = true ∧ s.client.byteRoom env job entry = true ∧
      s.client.ledgerAdmits env job entry =
        (s.client.tables.replay.lookup job.workId).isNone) := by
  have hLedger := ledger_of_reachable h
  refine ⟨hLedger, ?_, ?_, ?_, ?_⟩
  · intro done workId token hToken
    exact hLedger.release_prefix done hToken
  · intro workId entry hEntry
    exact hLedger.accounted_le hEntry
  · intro job entry hAdmits
    refine ⟨?_, Client.ledgerAdmits_replay hAdmits⟩
    simp only [Client.ledgerAdmits, Bool.and_eq_true, decide_eq_true_eq] at hAdmits
    exact hAdmits.1.1.2
  · intro job reservation frame entry hHeld hConverted hFrame hEntry hDigest
    obtain ⟨token, hToken, hOwn, hBytes, -⟩ := Ledger.convertedReservation_some hConverted
    have hReserves := reserved_of_reachable h job token hHeld hToken hOwn
    rw [hBytes] at hReserves
    obtain ⟨hLe, hIdentity, hByte⟩ :=
      rooms_of_reserved hLedger hReserves hConverted hFrame hEntry hDigest
    refine ⟨hLe, hIdentity, hByte, ?_⟩
    rw [Client.ledgerAdmits_eq, hIdentity, hByte, hConverted]
    simp [hLe]

open Deployment in
/-- A query is about to commit its terminal: its reservation is live and both
checks pass. -/
theorem terminalLedger_exact_query :
    ∃ s job reservation entry, (machine deployment).Reachable s ∧ s.Holds job ∧
      s.client.tables.convertedReservation job = some reservation ∧
      s.client.identityRoom deployment job = true ∧
      s.client.byteRoom deployment job entry = true := by
  obtain ⟨s, hReach, hRun⟩ := (machine deployment).exists_reaches_of_runWith (fun _ _ => True)
    (bringUp ++ hostFrame 1 1 (unaryFrame "w") ++ runQuery 0)
    (fun s => (s.workers 0).job?.any fun job => ((s.workers 0).dueTerminal 0).any fun frame =>
      (s.client.tables.convertedReservation job).isSome &&
      decide (s.client.workFrameBytes deployment frame ≤ s.client.session.maximumWorkFrameBytes) &&
      (replayEntryOf deployment job frame (s.client.workFrameBytes deployment frame)).any
        fun entry => entry.terminalDigest.length == kCanonicalSha256TextBytes) (by decide +kernel)
  simp only [Option.any_eq_true, Bool.and_eq_true, decide_eq_true_eq, beq_iff_eq,
    Option.isSome_iff_exists] at hRun
  obtain ⟨job, hJob, frame, -, ⟨⟨reservation, hConverted⟩, hFrame⟩, entry, hEntry, hDigest⟩ := hRun
  obtain ⟨-, -, -, -, hRooms⟩ := terminalLedger_exact hReach
  obtain ⟨-, hIdentity, hByte, -⟩ := hRooms job reservation frame entry (.inr ⟨0, hJob⟩)
    hConverted hFrame hEntry hDigest
  exact ⟨s, job, reservation, entry, hReach, .inr ⟨0, hJob⟩, hConverted, hIdentity, hByte⟩

end AdapterRuntime.Model
