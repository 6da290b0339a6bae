import AdapterRuntime.Proof.Ownership
import AdapterRuntime.Proof.Single

/-!
# AdapterRuntime — a completed handler is not run again

Once a unary or operation handler has returned, its terminal is retained until
the Host acknowledges it, and a redelivered request is answered from it. The
commit of the terminal can fail, though: the pair may have failed while the
handler ran, or the Work queue may be full. Then nothing remembers that the
handler has run.

* `outstanding` — a handler for the identity has returned and its terminal has
  not been acknowledged since.
* `keepsResults` — the condition: the commit of a returned result is not
  refused, and no worker releases the token of another job.
* `handler_not_rerun` — then no handler starts for an outstanding identity.
* `handler_rerun` — without it: the pair fails while a query runs, and the
  query is run again on the next pair.
-/

namespace AdapterRuntime.Model

open AdapterRuntime.Lib

-- ---------------------------------------------------------------------------
-- The history of an identity
-- ---------------------------------------------------------------------------

/-- A unary or operation handler for `workId` has returned, and no exact
acknowledgement of `workId` has been handled since. The history is newest
first. -/
def outstanding (workId : Text) : List WorkEvent → Bool
  | [] => false
  | .returned _ kind id _ _ :: older =>
    (kind != .sourceOpen && id == workId) || outstanding workId older
  | .acknowledged id :: older => id != workId && outstanding workId older
  | _ :: older => outstanding workId older

/-- No unary or operation handler was started while its identity was
outstanding. -/
def NoRerun : List WorkEvent → Prop
  | [] => True
  | .started _ kind workId _ :: older =>
    (kind ≠ .sourceOpen → outstanding workId older = false) ∧ NoRerun older
  | _ :: older => NoRerun older

/-- The event neither starts nor completes a unary or operation handler, and it
is no acknowledgement. -/
def WorkEvent.Neutral : WorkEvent → Prop
  | .started _ kind _ _ | .returned _ kind _ _ _ => kind = .sourceOpen
  | .acknowledged _ => False
  | _ => True

/-- Neutral events leave what is outstanding. -/
theorem outstanding_neutral {workId : Text} {new older : List WorkEvent}
    (h : ∀ event ∈ new, event.Neutral) :
    outstanding workId (new ++ older) = outstanding workId older := by
  induction new with
  | nil => rfl
  | cons event rest ih =>
    have hEvent := h event List.mem_cons_self
    have hRest := ih fun e he => h e (List.mem_cons_of_mem _ he)
    cases event <;> simp_all [outstanding, WorkEvent.Neutral]

/-- Neutral events rerun nothing. -/
theorem noRerun_neutral {new older : List WorkEvent} (h : ∀ event ∈ new, event.Neutral)
    (hOlder : NoRerun older) : NoRerun (new ++ older) := by
  induction new with
  | nil => exact hOlder
  | cons event rest ih =>
    have hEvent := h event List.mem_cons_self
    have hRest := ih fun e he => h e (List.mem_cons_of_mem _ he)
    cases event <;> simp_all [NoRerun, WorkEvent.Neutral]

theorem NoRerun.of_append {new older : List WorkEvent} (h : NoRerun (new ++ older)) :
    NoRerun older := by
  induction new with
  | nil => exact h
  | cons event rest ih =>
    refine ih ?_
    cases event <;> simp_all [NoRerun]

/-- An identity that is not outstanding after a return has been acknowledged. -/
theorem acknowledged_of_not_outstanding {workId digest : Text} {kind : DispatchKind}
    {id : CancellationId} {result : HandlerResult} {middle older : List WorkEvent}
    (hKind : kind ≠ .sourceOpen)
    (h : outstanding workId (middle ++ .returned id kind workId digest result :: older) = false) :
    .acknowledged workId ∈ middle := by
  induction middle with
  | nil => simp [outstanding, hKind] at h
  | cons event rest ih =>
    cases event with
    | acknowledged other =>
      simp only [List.cons_append, outstanding, Bool.and_eq_false_iff, bne_eq_false_iff_eq] at h
      rcases h with rfl | h
      · exact List.mem_cons_self
      · exact List.mem_cons_of_mem _ (ih h)
    | returned other kind' workId' digest' result' =>
      simp only [List.cons_append, outstanding, Bool.or_eq_false_iff] at h
      exact List.mem_cons_of_mem _ (ih h.2)
    | admitted | sourceAdmitted | started | enqueued | retained | granted | sourceCancelled =>
      exact List.mem_cons_of_mem _ (ih h)

-- ---------------------------------------------------------------------------
-- The condition
-- ---------------------------------------------------------------------------

/-- The commit of a returned result retains a terminal of its identity, or the
client is being stopped: `CommitTerminalFrame` finds a live session, room in
the Work queue and a terminal it can digest, or the identity already has a
terminal. -/
def Client.retainsResult (env : Env) (c : Client) (job : DispatchJob) (frame : WorkFrame) : Bool :=
  c.flags.stopRequested || (c.tables.replay.lookup job.workId).isSome ||
    (c.workAdmits env frame &&
      (replayEntryOf env job frame (c.workFrameBytes env frame)).isSome)

/-- The result of a handler is not lost in its commit section; a terminal over
the frame limit is replaced by the compact one first. -/
def commitsResult (env : Env) (s : System) : Action → Bool
  | .worker i (.tick now) =>
    match s.workers i with
    | .commit job frame =>
      s.client.session.maximumWorkFrameBytes < s.client.workFrameBytes env frame ||
        s.client.retainsResult env job frame
    | .commitFallback job =>
      s.client.retainsResult env job (fallbackTerminal now job.kind job.workId)
    | _ => true
  | _ => true

/-- No commit of a result is refused, and no worker releases a token of another
job. -/
def keepsResults (env : Env) (s : System) (a : Action) : Prop :=
  commitsResult env s a = true ∧ releasesOwn s a = true

instance (env : Env) (s : System) (a : Action) : Decidable (keepsResults env s a) :=
  inferInstanceAs (Decidable (_ ∧ _))

-- ---------------------------------------------------------------------------
-- What a step adds to the history
-- ---------------------------------------------------------------------------

/-- The handler of the job has not returned, and the job has not given up. -/
def Stage.early : Stage → Bool
  | .fresh | .refusing | .accepted | .running => true
  | _ => false

/-- The job is queued, or its worker has not come to the end of its handler. -/
def System.Early (s : System) (job : DispatchJob) : Prop :=
  job.kind ≠ .sourceOpen ∧
    (job ∈ s.client.queues.dispatch ∨
      ∃ i, (s.workers i).job? = some job ∧ (s.workers i).stage.early = true)

variable {env : Env} {s s' : System} {c c' : Client}

/-- An early job owes its terminal. -/
theorem Stage.owes_of_early {stage : Stage} (h : stage.early = true) : stage.owes = true := by
  cases stage <;> first | rfl | cases h

/-- A job that is held early owes its terminal. -/
theorem System.Early.owes {job : DispatchJob} (h : s.Early job) : s.Owes job :=
  ⟨h.1, h.2.imp_right fun ⟨i, hJob, hStage⟩ => ⟨i, hJob, Stage.owes_of_early hStage⟩⟩

/-- A step of a worker starts a handler, completes one, or does neither. -/
theorem WorkerMove.events {pc pc' : WorkerPc} (h : WorkerMove env c pc pc' c')
    (hKind : pc.KindOk) :
    (∃ new, c'.history = new ++ c.history ∧ ∀ event ∈ new, event.Neutral) ∨
    (∃ job id new, pc.job? = some job ∧ pc.stage.early = true ∧ job.kind ≠ .sourceOpen ∧
      c'.history = .started id job.kind job.workId job.fingerprint :: (new ++ c.history) ∧
      ∀ event ∈ new, event.Neutral) ∨
    ∃ job id result, pc.job? = some job ∧ pc.stage = .running ∧ pc'.job? = some job ∧
      pc'.stage = .returned ∧ job.kind ≠ .sourceOpen ∧
      c'.history = .returned id job.kind job.workId job.fingerprint result :: c.history := by
  have hNone : c'.core.history = c.history →
      ∃ new, c'.history = new ++ c.history ∧ ∀ event ∈ new, event.Neutral :=
    fun hSame => ⟨[], hSame, by simp⟩
  cases h with
  | exit | pop | leave => exact .inl ⟨[], rfl, by simp⟩
  | quiet hJob hJob' hCore hRest hStage => exact .inl (hNone (congrArg Core.history hCore))
  | accept now => exact .inl ⟨[_], rfl, by simp [WorkEvent.Neutral]⟩
  | @startOperation job binding now =>
    have hOperation : job.kind = .operation := hKind
    unfold Client.recordStarted
    split
    · -- a job with an identity has its start recorded
      rename_i id hId
      exact .inr (.inl ⟨job, id, [_], rfl, rfl, by simp [hOperation], rfl,
        by simp [WorkEvent.Neutral]⟩)
    · exact .inl ⟨[_], rfl, by simp [WorkEvent.Neutral]⟩
  | @startUnary job binding hUnary =>
    unfold Client.recordStarted
    split
    · rename_i id hId
      exact .inr (.inl ⟨job, id, [], rfl, rfl, by simp [hUnary], rfl, by simp⟩)
    · exact .inl ⟨[], rfl, by simp⟩
  | @returnUnary job binding result hUnary =>
    unfold Client.recordReturned
    split
    · rename_i id hId
      exact .inr (.inr ⟨job, id, _, rfl, rfl, rfl, rfl, hKind, rfl⟩)
    · exact .inl ⟨[], rfl, by simp⟩
  | @returnOperation job binding result hOther =>
    unfold Client.recordReturned
    split
    · rename_i id hId
      exact .inr (.inr ⟨job, id, _, rfl, rfl, rfl, rfl, hKind, rfl⟩)
    · exact .inl ⟨[], rfl, by simp⟩
  -- a commit queues and retains, and neither starts nor returns a handler
  | commit => exact .inl ⟨[_, _], rfl, by simp [WorkEvent.Neutral]⟩
  | refuse now hJob hDue hCommit hResult hNext =>
    obtain ⟨hCommitted, -⟩ | ⟨-, hRefused⟩ := Client.commitTerminalFrame_cases hCommit
    · exact absurd hCommitted hResult
    · exact .inl (hNone (congrArg Core.history hRefused.core))
  | erase hCore hRest | finish hCore hRest => exact .inl (hNone (congrArg Core.history hCore))
  | @startSource job binding =>
    -- the events of a source open are neutral
    have hSource : job.kind = .sourceOpen := hKind
    unfold Client.recordStarted
    split
    · exact .inl ⟨[_], rfl, by simp [WorkEvent.Neutral, hSource]⟩
    · exact .inl ⟨[], rfl, by simp⟩
  | @returnSource job binding decision =>
    have hSource : job.kind = .sourceOpen := hKind
    unfold Client.recordReturned
    split
    · exact .inl ⟨[_], rfl, by simp [WorkEvent.Neutral, hSource]⟩
    · exact .inl ⟨[], rfl, by simp⟩
  | commitSource hCommit hJob' hStage' =>
    obtain ⟨-, rfl, -⟩ | ⟨source, hOwns, -, -, -, hCases⟩ := commitSourceOpen_cases hCommit
    · exact .inl ⟨[], rfl, by simp⟩
    · obtain ⟨-, hRefused⟩ | ⟨-, -, rfl⟩ | ⟨-, -, digest, rfl⟩ := hCases
      · exact .inl (hNone (congrArg Core.history hRefused.core))
      · exact .inl ⟨[_], rfl, by simp [WorkEvent.Neutral]⟩
      · exact .inl ⟨[_], rfl, by simp [WorkEvent.Neutral]⟩
  | leaveSource hCore hRest => exact .inl (hNone (congrArg Core.history hCore))

/-- A step of the Work reader handles an exact acknowledgement, or it keeps what
is retained and adds neutral events. -/
theorem ReaderMove.events {pc pc' : WorkReaderPc} (h : ReaderMove env c pc pc' c') :
    (∃ new, c'.history = new ++ c.history ∧ (∀ event ∈ new, event.Neutral) ∧
      ∀ workId, (c.tables.replay.lookup workId).isSome = true →
        (c'.tables.replay.lookup workId).isSome = true) ∨
    ∃ workId, c'.history = .acknowledged workId :: c.history ∧
      ∀ other, other ≠ workId → c'.tables.replay.lookup other = c.tables.replay.lookup other := by
  have hCoreNone : c'.core.history = c.history → c'.core.tables.replay = c.tables.replay →
      ∃ new, c'.history = new ++ c.history ∧ (∀ event ∈ new, event.Neutral) ∧
        ∀ workId, (c.tables.replay.lookup workId).isSome = true →
          (c'.tables.replay.lookup workId).isSome = true := by
    intro hHistory hReplay
    have hSame : c'.tables.replay = c.tables.replay := hReplay
    exact ⟨[], hHistory, by simp, fun workId hSome => by rwa [hSame]⟩
  cases h with
  | quiet hCore | answer hCore | retireSource hCore =>
    exact .inl (hCoreNone (congrArg Core.history hCore)
      (congrArg (fun k : Core => k.tables.replay) hCore))
  | immediate hJob hVerdict hCore hRest =>
    exact .inl (hCoreNone (congrArg Core.history hCore)
      (congrArg (fun k : Core => k.tables.replay) hCore))
  | cancelRefused hFrame hIdentity hActive hEpoch hPhase hRefused =>
    refine .inl ⟨[_], congrArg Core.history hRefused.core, by simp [WorkEvent.Neutral], ?_⟩
    have hSame : c'.tables.replay = c.tables.replay :=
      congrArg (fun k : Core => k.tables.replay) hRefused.core
    exact fun workId hSome => by rwa [hSame]
  | @commit fence job frame entry hEntry hLedger =>
    refine .inl ⟨[_, _], rfl, by simp [WorkEvent.Neutral], fun workId hSome => ?_⟩
    rw [Client.tables_committed, Client.retainTerminal_replay, Store.lookup_insert_ite]
    split
    · rfl
    · exact hSome
  | @acknowledge fence response acknowledgement workId entry =>
    refine .inr ⟨workId, rfl, fun other hOther => ?_⟩
    simp [hOther]
  | report | replay | accept | admitSource | rejectSource | grant | cancelOpening =>
    exact .inl ⟨[_], rfl, by simp [WorkEvent.Neutral], fun _ => id⟩
  | cancelOpened => exact .inl ⟨[_, _], rfl, by simp [WorkEvent.Neutral], fun _ => id⟩
  | lateGrant | acknowledgeSource => exact .inl ⟨[], rfl, by simp, fun _ => id⟩

theorem events_publishSource {streamId : Text} {items : List Text} :
    (∃ new, (publishSource env c streamId items).2.history = new ++ c.history ∧
      ∀ event ∈ new, event.Neutral) ∧
    (publishSource env c streamId items).2.tables.replay = c.tables.replay := by
  obtain ⟨-, source, -, hEq⟩ | ⟨-, hRefused⟩ :=
    publishSource_cases (Prod.mk.eta (p := publishSource env c streamId items)).symm
  · rw [hEq]
    exact ⟨⟨[_], rfl, by simp [WorkEvent.Neutral]⟩, rfl⟩
  · exact ⟨⟨[], congrArg Core.history hRefused.core, by simp⟩,
      congrArg (fun k : Core => k.tables.replay) hRefused.core⟩

theorem events_closeSource {streamId : Text} {error : Option AdapterError} :
    (∃ new, (closeSource env c streamId error).2.history = new ++ c.history ∧
      ∀ event ∈ new, event.Neutral) ∧
    (closeSource env c streamId error).2.tables.replay = c.tables.replay := by
  obtain ⟨-, source, digest, -, -, -, hEq⟩ | ⟨-, hRefused⟩ :=
    closeSource_cases (Prod.mk.eta (p := closeSource env c streamId error)).symm
  · rw [hEq]
    exact ⟨⟨[_], rfl, by simp [WorkEvent.Neutral]⟩, rfl⟩
  · exact ⟨⟨[], congrArg Core.history hRefused.core, by simp⟩,
      congrArg (fun k : Core => k.tables.replay) hRefused.core⟩

/-- A worker whose job is early after a step held it early before, or has just
taken it from the queue. -/
theorem WorkerMove.early {pc pc' : WorkerPc} (h : WorkerMove env c pc pc' c')
    {job : DispatchJob} (hJob : pc'.job? = some job) (hEarly : pc'.stage.early = true) :
    (pc.job? = some job ∧ pc.stage.early = true) ∨ job ∈ c.queues.dispatch := by
  obtain ⟨hHeld, hOwes⟩ | ⟨hQueue, -⟩ := h.owes hJob (Stage.owes_of_early hEarly)
  · refine .inl ⟨hHeld, ?_⟩
    cases h with
    | quiet hBefore hAfter hCore hRest hStage =>
      obtain hEq | ⟨hFresh, -⟩ | ⟨hAccepted, -⟩ | ⟨-, hDone⟩ := hStage
      · rwa [hEq]
      · rw [hFresh]
        rfl
      · rw [hAccepted]
        rfl
      · rw [hDone] at hEarly
        cases hEarly
    | refuse now hBefore hDue hCommit hResult hNext =>
      rcases hNext with ⟨-, -, rfl⟩ | ⟨reason, after, hAfter, rfl⟩
      · cases hEarly
      · simp [WorkerPc.stage, hAfter, Stage.early] at hEarly
    | accept | startOperation | startUnary => rfl
    | commit now hBefore hDue hNext =>
      rcases hNext with rfl | rfl <;> cases hEarly
    | commitSource hCommit hJob' hStage' =>
      rw [hStage'] at hEarly
      cases hEarly
    | pop => cases hHeld
    | exit | returnUnary | returnOperation | erase | leave | finish | startSource | returnSource
    | leaveSource => cases hEarly
  · exact .inr (by rw [hQueue]; exact List.mem_cons_self)

-- ---------------------------------------------------------------------------
-- The commit of a result
-- ---------------------------------------------------------------------------

/-- A commit that meets the condition leaves a terminal of the identity
retained, or the client is being stopped. -/
theorem retained_of_commit {job : DispatchJob} {frame : WorkFrame} {result : TerminalCommitResult}
    (hDigests : env.CanonicalDigests) (h : (machine env).Reachable s) (hHeld : s.Holds job)
    (hOwns : s.client.OwnsToken job) (hRetains : s.client.retainsResult env job frame = true)
    (hCommit : s.client.commitTerminalFrame env job frame = (result, c')) :
    (c'.tables.replay.lookup job.workId).isSome = true ∨ c'.flags.stopRequested = true := by
  obtain ⟨-, -, entry, -, -, rfl⟩ | ⟨hResult, hRefused⟩ := Client.commitTerminalFrame_cases hCommit
  · exact .inl (by simp)
  · have hReplay : c'.tables.replay = s.client.tables.replay :=
      congrArg (fun k : Core => k.tables.replay) hRefused.core
    have hFlags : c'.flags = s.client.flags := congrArg Surround.flags hRefused.surround
    rw [hReplay, hFlags]
    simp only [Client.retainsResult, Bool.or_eq_true, Bool.and_eq_true,
      Option.isSome_iff_exists] at hRetains
    obtain (hStop | ⟨entry, hEntry⟩) | ⟨hAdmits, entry, hEntry⟩ := hRetains
    · exact .inr hStop
    · exact .inl (by rw [hEntry]; rfl)
    · by_contra hNot
      have hFree : s.client.tables.replay.lookup job.workId = none := by
        simpa using fun hSome => hNot (.inl hSome)
      have hFrame : s.client.workFrameBytes env frame ≤ s.client.session.maximumWorkFrameBytes := by
        simp only [Client.workAdmits, Bool.and_eq_true, decide_eq_true_eq] at hAdmits
        exact hAdmits.2
      have hLedger := ledgerAdmits_of_owned hDigests h hHeld hOwns hFrame hEntry hFree
      rw [Client.commitTerminalFrame_of_admits hAdmits hEntry hLedger] at hCommit
      cases hCommit
      exact hResult rfl

/-- A commit of a result retains its frame, unless the frame is too large and the compact
failure comes next. -/
theorem retains_of_commits {i : Nat} {now : Int} {pc done : WorkerPc} {job : DispatchJob}
    {frame : WorkFrame} {after : AfterSignal} {result : TerminalCommitResult}
    (hPc : s.workers i = pc) (hPoint : pc.Commits now job frame done after)
    (hStage : pc.stage = .returned) (hCommits : commitsResult env s (.worker i (.tick now)) = true)
    (hCommit : s.client.commitTerminalFrame env job frame = (result, c'))
    (hResult : result = .tooLarge → pc ≠ .commit job frame) :
    s.client.retainsResult env job frame = true := by
  cases hPoint with
  | cancelled | context | input => cases hStage
  | result =>
    simp only [commitsResult, hPc, Bool.or_eq_true, decide_eq_true_eq] at hCommits
    rcases hCommits with hLarge | hRetains
    · -- the frame is too large, and the next point is the compact failure
      simp only [Client.commitTerminalFrame, hLarge, if_true, Prod.mk.injEq] at hCommit
      exact absurd rfl (hResult hCommit.1.symm)
    · exact hRetains
  | fallback => simpa only [commitsResult, hPc] using hCommits

/-- A worker that holds a result keeps it until its commit has retained a
terminal of the identity. -/
theorem returned_of_step {i : Nat} {input : WorkerInput} {pc' : WorkerPc} {job : DispatchJob}
    (hDigests : env.CanonicalDigests) (h : (machine env).Reachable s) (hOwned : Owned s)
    (hCommits : commitsResult env s (.worker i input) = true)
    (hStep : workerStep env s.client (s.workers i) input = some (pc', c'))
    (hJob : (s.workers i).job? = some job) (hStage : (s.workers i).stage = .returned) :
    (pc'.job? = some job ∧ pc'.stage = .returned) ∨
    (c'.tables.replay.lookup job.workId).isSome = true ∨ c'.flags.stopRequested = true := by
  have hKind := (shape_of_reachable h).kinds i
  have hHeld : s.Holds job := .inr ⟨i, hJob⟩
  have hOwns : job.kind ≠ .sourceOpen → s.client.OwnsToken job := fun hKind =>
    hOwned job ⟨hKind, .inr ⟨i, hJob, by rw [hStage]; rfl⟩⟩
  generalize hPc : s.workers i = pc at hStep hJob hStage hKind
  cases workerStep_branch hStep with
  -- the result goes on to its commit, or to the compact failure of the same result
  | normalizeUnary | normalizeOperation | tooLarge =>
    cases hJob
    exact .inl ⟨rfl, rfl⟩
  | commit hPoint hCommit =>
    have hRetains := retains_of_commits hPc hPoint hStage hCommits hCommit (fun h => by cases h)
    obtain rfl : job = _ := Option.some.inj (hJob.symm.trans hPoint.due.1)
    exact .inr (retained_of_commit hDigests h hHeld (hOwns (hPoint.kind hKind)) hRetains hCommit)
  | uncommitted hPoint hCommit hResult =>
    have hRetains := retains_of_commits hPc hPoint hStage hCommits hCommit (by
      rintro rfl
      obtain hNone | ⟨-, hOther⟩ := hResult
      · cases hNone
      · exact hOther)
    obtain rfl : job = _ := Option.some.inj (hJob.symm.trans hPoint.due.1)
    exact .inr (retained_of_commit hDigests h hHeld (hOwns (hPoint.kind hKind)) hRetains hCommit)
  -- no result is in the hands of the worker at the other points
  | @unheard _ _ _ after | @signal _ _ _ after | @signalSession _ _ _ _ after =>
    cases after <;> cases hStage
  | @eraseToken _ _ committed | @finish _ _ committed => cases committed <;> cases hStage
  | _ => cases hStage

-- ---------------------------------------------------------------------------
-- The invariant
-- ---------------------------------------------------------------------------

/-- A result of `workId` is in the hands of a worker. -/
def System.HoldsResult (s : System) (workId : Text) : Prop :=
  ∃ i job, (s.workers i).job? = some job ∧ job.workId = workId ∧
    (s.workers i).stage = .returned

/-- What is outstanding is retained or still held, and no handler is to start
for it. -/
structure Settled (s : System) : Prop where
  retained : ∀ workId, outstanding workId s.client.history = true →
    (s.client.tables.replay.lookup workId).isSome = true ∨
      s.client.flags.stopRequested = true ∨ s.HoldsResult workId
  early : ∀ job, s.Early job → outstanding job.workId s.client.history = false
  noRerun : NoRerun s.client.history

namespace Settled

/-- Before the first event everything is settled. -/
theorem of_unused (h : s.client.history = []) : Settled s where
  retained workId hOut := by
    rw [h] at hOut
    cases hOut
  early job _ := by rw [h]; rfl
  noRerun := by rw [h]; trivial

/-- A step that keeps what is retained, adds neutral events and no job. -/
theorem of_same (h : Settled s)
    (hHistory : ∃ new, s'.client.history = new ++ s.client.history ∧
      ∀ event ∈ new, event.Neutral)
    (hReplay : ∀ workId, (s.client.tables.replay.lookup workId).isSome = true →
      (s'.client.tables.replay.lookup workId).isSome = true ∨
        s'.client.flags.stopRequested = true)
    (hStop : s.client.flags.stopRequested = true → s'.client.flags.stopRequested = true)
    (hHolds : ∀ workId, s.HoldsResult workId → s'.HoldsResult workId)
    (hEarly : ∀ job, s'.Early job → s.Early job) : Settled s' := by
  obtain ⟨new, hHistory, hNeutral⟩ := hHistory
  constructor
  · intro workId hOut
    rw [hHistory, outstanding_neutral hNeutral] at hOut
    rcases h.retained workId hOut with hKept | hStopped | hHeld
    · exact (hReplay workId hKept).imp_right .inl
    · exact .inr (.inl (hStop hStopped))
    · exact .inr (.inr (hHolds workId hHeld))
  · intro job hJob
    rw [hHistory, outstanding_neutral hNeutral]
    exact h.early job (hEarly job hJob)
  · rw [hHistory]
    exact noRerun_neutral hNeutral h.noRerun

/-- Steps of other threads make no job early. -/
theorem early_of_workers (hWorkers : s'.workers = s.workers)
    (hDispatch : s'.client.queues.dispatch = s.client.queues.dispatch ∨
      s'.client.queues.dispatch = []) : ∀ job, s'.Early job → s.Early job := by
  rintro job ⟨hKind, hQueue | hWorker⟩
  · rcases hDispatch with hEq | hEq
    · exact ⟨hKind, .inl (by rwa [hEq] at hQueue)⟩
    · rw [hEq] at hQueue
      cases hQueue
  · exact ⟨hKind, .inr (by rwa [hWorkers] at hWorker)⟩

theorem holds_of_workers (hWorkers : s'.workers = s.workers) :
    ∀ workId, s.HoldsResult workId → s'.HoldsResult workId := by
  intro workId hHeld
  unfold System.HoldsResult
  rwa [hWorkers]

/-- The step of a worker. -/
theorem workerStep (h : Settled s) (hDigests : env.CanonicalDigests)
    (hReach : (machine env).Reachable s) (hOwned : Owned s) {i : Nat} {input : WorkerInput}
    {pc' : WorkerPc} (hCommits : commitsResult env s (.worker i input) = true)
    (hStep : AdapterRuntime.Model.workerStep env s.client (s.workers i) input =
      some (pc', s'.client))
    (hWorkers : s'.workers = (s.setWorker i pc').workers) : Settled s' := by
  have hMove := workerStep_cases hStep
  have hJobs := jobs_of_reachable hReach
  have hSelf : s'.workers i = pc' := by simp [hWorkers, System.setWorker]
  have hOther : ∀ j, j ≠ i → s'.workers j = s.workers j := by
    intro j hj
    simp [hWorkers, System.setWorker, hj]
  have hStopped := hMove.subsides.stopped
  -- what was outstanding before the step is still accounted for
  have hKept : ∀ workId, outstanding workId s.client.history = true →
      (s'.client.tables.replay.lookup workId).isSome = true ∨
        s'.client.flags.stopRequested = true ∨ s'.HoldsResult workId := by
    intro workId hOut
    rcases h.retained workId hOut with hSome | hStop | ⟨j, job, hJob, hKey, hStage⟩
    · -- retained before: a worker removes no entry
      obtain ⟨entry, hEntry⟩ := Option.isSome_iff_exists.mp hSome
      exact .inl (Option.isSome_iff_exists.mpr ⟨entry, hMove.replay_kept hEntry⟩)
    · exact .inr (.inl (hStopped hStop))
    · by_cases hj : j = i
      · -- held by this worker: its result is retained or still held
        subst hj
        obtain ⟨hJob', hStage'⟩ | hSome | hStop :=
          returned_of_step hDigests hReach hOwned hCommits hStep hJob hStage
        · exact .inr (.inr ⟨j, job, by rwa [hSelf], hKey, by rwa [hSelf]⟩)
        · exact .inl (hKey ▸ hSome)
        · exact .inr (.inl hStop)
      · exact .inr (.inr ⟨j, job, by rwa [hOther j hj], hKey, by rwa [hOther j hj]⟩)
  -- an early job was early before
  have hEarly : ∀ job, s'.Early job → s.Early job := by
    rintro job ⟨hKind, hQueue | ⟨j, hJob, hStage⟩⟩
    · refine ⟨hKind, .inl ?_⟩
      obtain ⟨popped, hEq, -, -⟩ | ⟨hEq, -⟩ := hMove.dispatch
      · rw [hEq]
        exact List.mem_cons_of_mem _ hQueue
      · rwa [hEq] at hQueue
    · by_cases hj : j = i
      · subst hj
        rw [hSelf] at hJob hStage
        exact ⟨hKind, (hMove.early hJob hStage).symm.imp_right fun hWas => ⟨j, hWas⟩⟩
      · rw [hOther j hj] at hJob hStage
        exact ⟨hKind, .inr ⟨j, hJob, hStage⟩⟩
  -- three kinds of history: neutral, a handler starts, a handler returns
  obtain ⟨new, hHistory, hNeutral⟩ | ⟨job, id, new, hJob, hStage, hKind, hHistory, hNeutral⟩ |
    ⟨job, id, result, hJob, hRunning, hJob', hStage', hKind, hHistory⟩ :=
    hMove.events ((shape_of_reachable hReach).kinds i)
  · -- nothing started, nothing returned
    refine ⟨fun workId hOut => hKept workId ?_, fun job hJob => ?_, ?_⟩
    · rwa [hHistory, outstanding_neutral hNeutral] at hOut
    · rw [hHistory, outstanding_neutral hNeutral]
      exact h.early job (hEarly job hJob)
    · rw [hHistory]
      exact noRerun_neutral hNeutral h.noRerun
  · -- the handler of an early job starts
    have hSame : ∀ workId,
        outstanding workId s'.client.history = outstanding workId s.client.history := by
      intro workId
      rw [hHistory]
      exact outstanding_neutral hNeutral
    refine ⟨fun workId hOut => hKept workId (by rwa [hSame] at hOut), fun other hOtherJob => ?_, ?_⟩
    · rw [hSame]
      exact h.early other (hEarly other hOtherJob)
    · rw [hHistory]
      refine ⟨fun _ => ?_, noRerun_neutral hNeutral h.noRerun⟩
      rw [outstanding_neutral hNeutral]
      exact h.early job ⟨hKind, .inr ⟨i, hJob, hStage⟩⟩
  · -- the handler of a job returns: no early job has the same identity
    have hOwes : s.Owes job := ⟨hKind, .inr ⟨i, hJob, by rw [hRunning]; rfl⟩⟩
    refine ⟨fun workId hOut => ?_, fun other hOtherJob => ?_, ?_⟩
    · rw [hHistory] at hOut
      simp only [outstanding, Bool.or_eq_true, Bool.and_eq_true, beq_iff_eq] at hOut
      -- the returned result is held by this worker
      rcases hOut with ⟨-, hKey⟩ | hOut
      · exact .inr (.inr ⟨i, job, by rwa [hSelf], hKey, by rwa [hSelf]⟩)
      · exact hKept workId hOut
    · have hWas := hEarly other hOtherJob
      rw [hHistory]
      simp only [outstanding, Bool.or_eq_false_iff, h.early other hWas, and_true,
        Bool.and_eq_false_iff, beq_eq_false_iff_ne]
      refine .inr fun hKey => ?_
      obtain ⟨token, hToken, hOwn⟩ := hOwned job hOwes
      obtain ⟨token', hToken', hOwn'⟩ := hOwned other hWas.owes
      -- two jobs of one identity share a token, and so a cancellation
      have hId : job.cancellation = other.cancellation := by
        rw [← hKey, hToken, Option.some.injEq] at hToken'
        rw [hOwn, hOwn', hToken']
      -- but the other job is queued, or held by some worker
      rcases hOtherJob.2 with hQueue | ⟨j, hHeld, hStage⟩
      · refine hJobs.mixed i job other hJob ?_ hId
        obtain ⟨popped, hEq, -, -⟩ | ⟨hEq, -⟩ := hMove.dispatch
        · rw [hEq]
          exact List.mem_cons_of_mem _ hQueue
        · rwa [hEq] at hQueue
      · by_cases hj : j = i
        · subst hj
          rw [hSelf, hStage'] at hStage
          cases hStage
        · rw [hOther j hj] at hHeld
          exact hJobs.workers i j job other (Ne.symm hj) hJob hHeld hId
    · rw [hHistory]
      exact h.noRerun

/-- A handler that returned was not that of a source. -/
theorem kind_of_returned {pc : WorkerPc} {job : DispatchJob} (hKind : pc.KindOk)
    (hJob : pc.job? = some job) (hStage : pc.stage = .returned) : job.kind ≠ .sourceOpen := by
  cases pc with
  | returnedUnary held binding result =>
    cases hJob
    rw [show job.kind = .unary from hKind]
    decide
  | returnedOperation held binding result =>
    cases hJob
    rw [show job.kind = .operation from hKind]
    decide
  | commit | commitFallback =>
    cases hJob
    exact hKind
  | signal held reason after | signalSession held session reason after =>
    cases after <;> cases hStage
  | eraseToken held committed | finish held committed => cases committed <;> cases hStage
  | notStarted | idle | exited | popped | cancelledCommit | validate | contextReject | handle
  | inputReject | queueAccepted | queueStarted | running | leave | sourceInitial | sourceDispatch
  | sourceRunning | sourceReturned | sourceCommit | sourceNotify | sourceFinish => cases hStage

/-- The step of the Work reader. -/
theorem readerStep (h : Settled s) (hShape : Shape s) (hSingle : Single s) (hOwned : Owned s)
    (hMove : ReaderMove env s.client s.workReader s'.workReader s'.client)
    (hWorkers : s'.workers = s.workers) : Settled s' := by
  have hHolds := holds_of_workers hWorkers
  obtain ⟨new, hHistory, hNeutral, hReplay⟩ | ⟨acked, hHistory, hReplay⟩ := hMove.events
  · -- no acknowledgement: what is retained and outstanding stays
    have hSame : ∀ workId,
        outstanding workId s'.client.history = outstanding workId s.client.history := by
      intro workId
      rw [hHistory]
      exact outstanding_neutral hNeutral
    refine ⟨fun workId hOut => ?_, fun job hJob => ?_, ?_⟩
    · -- retained, stopped or held as before
      rw [hSame] at hOut
      rcases h.retained workId hOut with hSome | hStop | hHeld
      · exact .inl (hReplay workId hSome)
      · exact .inr (.inl (hMove.subsides.stopped hStop))
      · exact .inr (.inr (hHolds workId hHeld))
    · rw [hSame]
      have hOld : (job ∈ s.client.queues.dispatch ∨
          ∃ i, (s'.workers i).job? = some job ∧ (s'.workers i).stage.early = true) →
          outstanding job.workId s.client.history = false := by
        intro hWhere
        rw [hWorkers] at hWhere
        exact h.early job ⟨hJob.1, hWhere⟩
      -- the queue is unchanged, or ends in the admitted job
      obtain hEq | ⟨request, reservation, hRequest, hVerdict, hClient, -⟩ |
        ⟨request, now, index, endpoint, bytes, hRequest, hVerdict, hClient⟩ := hMove.dispatch
      · exact hOld (by rw [← hEq]; exact hJob.2)
      · rcases hJob.2 with hQueue | hWorker
        · rw [hClient] at hQueue
          rcases List.mem_append.mp hQueue with hQueue | hQueue
          · exact hOld (.inl hQueue)
          · -- the admitted job: its identity is neither retained nor held
            rw [List.mem_singleton.mp hQueue]
            obtain ⟨-, hFree, hAccepting, -, hToken, -⟩ := dispatchVerdict_accept hVerdict
            by_contra hOut
            rcases h.retained request.workId (by simpa using hOut) with
              hSome | hStop | ⟨i, held, hHeld, hKey, hStage⟩
            · rw [hFree] at hSome
              cases hSome
            · rw [hSingle.halted hStop] at hAccepting
              cases hAccepting
            · have hKind := kind_of_returned (hShape.kinds i) hHeld hStage
              obtain ⟨token, hSome, -⟩ :=
                hOwned held ⟨hKind, .inr ⟨i, hHeld, by rw [hStage]; rfl⟩⟩
              rw [hKey, hToken] at hSome
              cases hSome
        · exact hOld (.inr hWorker)
      · rcases hJob.2 with hQueue | hWorker
        · rw [hClient] at hQueue
          rcases List.mem_append.mp hQueue with hQueue | hQueue
          · exact hOld (.inl hQueue)
          · -- a source open is no early job
            have hKind := hJob.1
            rw [List.mem_singleton.mp hQueue] at hKind
            exact absurd hRequest.kind hKind
        · exact hOld (.inr hWorker)
    · rw [hHistory]
      exact noRerun_neutral hNeutral h.noRerun
  · -- an acknowledgement: one identity is outstanding no longer
    have hLess : ∀ workId, outstanding workId s'.client.history = true →
        workId ≠ acked ∧ outstanding workId s.client.history = true := by
      intro workId hOut
      rw [hHistory] at hOut
      simp only [outstanding, Bool.and_eq_true, bne_iff_ne] at hOut
      exact ⟨Ne.symm hOut.1, hOut.2⟩
    -- it admits nothing
    have hDispatch : s'.client.queues.dispatch = s.client.queues.dispatch := by
      obtain hEq | ⟨request, reservation, -, -, hClient, -⟩ |
        ⟨request, now, index, endpoint, bytes, -, -, hClient⟩ := hMove.dispatch
      · exact hEq
      · rw [hClient] at hHistory
        simp [Client.admitDispatch] at hHistory
      · rw [hClient] at hHistory
        simp [Client.admitSource] at hHistory
    refine ⟨fun workId hOut => ?_, fun job hJob => ?_, ?_⟩
    · obtain ⟨hOther, hOut⟩ := hLess workId hOut
      rcases h.retained workId hOut with hSome | hStop | hHeld
      · exact .inl (by rwa [hReplay workId hOther])
      · exact .inr (.inl (hMove.subsides.stopped hStop))
      · exact .inr (.inr (hHolds workId hHeld))
    · -- an early job whose handler had returned would have been outstanding before
      by_contra hOut
      have hWas := h.early job (early_of_workers hWorkers (.inl hDispatch) job hJob)
      rw [(hLess job.workId (by simpa using hOut)).2] at hWas
      cases hWas
    · rw [hHistory]
      exact h.noRerun

end Settled

-- ---------------------------------------------------------------------------
-- Runs
-- ---------------------------------------------------------------------------

/-- A stop request stands until a client that was never used is started. -/
theorem stop_of_step {a : Action} (hSingle : Single s) (hStep : s.step env a = some s') :
    s'.client.history = [] ∨
    (s.client.flags.stopRequested = true → s'.client.flags.stopRequested = true) := by
  cases System.step_cases hStep with
  | worker hWorker => exact .inr (workerStep_cases hWorker).subsides.stopped
  | workReader hReader hSpawn hOpening hJoin =>
    exact .inr (workReaderStep_cases hReader).subsides.stopped
  | controlReader hReader hSpawn hOpening hJoin =>
    exact .inr (steady_controlReaderStep hReader).stopped
  | controlWriter hWriter => exact .inr (steady_controlWriterStep hWriter).stopped
  | workWriter hWriter => exact .inr (steady_workWriterStep hWriter).stopped
  | supervisor hSupervisor => exact .inr (supervises_of_step hSupervisor).stopped
  | publishSource => exact .inr subsides_publishSource.stopped
  | closeSource => exact .inr subsides_closeSource.stopped
  | flags hCore hRest hStopper hAlone hStarter hStopping => exact .inr hRest.stopped
  | startThreads hStopped hStopper hStarter =>
    exact .inl (hSingle.unused (hSingle.unattempted hStarter)).history
  | joinSupervisor hDone hStopper | joinWorkers hStopper hDone => exact .inr id
  | stopDeactivate hStopper hDeactivate hNext =>
    have hStopped := (steady_deactivateStep hDeactivate).stopped
    obtain ⟨pc, -, rfl, rfl⟩ | ⟨-, rfl, rfl⟩ := hNext <;> exact .inr hStopped
  | stopReset hStopper => exact .inr id

/-- The session ends for a client that is being stopped. -/
theorem stop_of_endsSession {a : Action} (hSingle : Single s) (hStep : s.step env a = some s')
    (hEnd : EndsSession s a) :
    s'.client.history = [] ∨ s'.client.flags.stopRequested = true ∨
      s'.client.core = s.client.core := by
  have hStop : s.client.flags.stopRequested = true →
      s'.client.history = [] ∨ s'.client.flags.stopRequested = true :=
    fun h => (stop_of_step hSingle hStep).imp_right fun hStopped => hStopped h
  cases a with
  | supervisor input =>
    have hPc : s.supervisor = .endSession := hEnd
    exact (hStop (hSingle.ending (by rw [hPc]; rfl))).imp_right .inl
  | stopper =>
    have hPc : s.stopper = .reset := hEnd
    exact (hStop (hSingle.stopping (by simp [hPc]))).imp_right .inl
  | startThreads =>
    cases System.step_cases hStep with
    | flags hCore => exact .inr (.inr hCore)
    | startThreads hStopped hStopper hStarter =>
      exact .inl (hSingle.unused (hSingle.unattempted hStarter)).history
  | start | startReturns | stop | publishSource | closeSource | worker | workReader | workWriter
  | controlReader | controlWriter => exact hEnd.elim

/-- A step that moves no job keeps `Settled`. -/
theorem Settled.of_idle (h : Settled s) (hSingle : Single s) {a : Action}
    (hStep : s.step env a = some s')
    (hHistory : s'.client.history = s.client.history)
    (hReplay : ∀ workId, (s.client.tables.replay.lookup workId).isSome = true →
      s'.client.history = [] ∨ (s'.client.tables.replay.lookup workId).isSome = true ∨
        s'.client.flags.stopRequested = true)
    (hHolds : ∀ workId, s.HoldsResult workId → s'.HoldsResult workId)
    (hEarly : ∀ job, s'.Early job → s.Early job) : Settled s' := by
  rcases stop_of_step hSingle hStep with hUnused | hStopped
  · exact .of_unused hUnused
  · by_cases hUnused : s'.client.history = []
    · exact .of_unused hUnused
    · exact h.of_same ⟨[], hHistory, by simp⟩
        (fun workId hSome => (hReplay workId hSome).resolve_left hUnused) hStopped hHolds hEarly

/-- In every run that keeps its results everything is settled. -/
theorem settled_of_reaches (hDigests : env.CanonicalDigests)
    (h : (machine env).Reaches (keepsResults env) s) : Settled s := by
  refine h.invariant (I := Settled) (.of_unused rfl) ?_
  intro s a s' hReach hSettled hKeeps hRun
  have hStep : s.step env a = some s' := hRun
  have hShape := shape_of_reachable hReach.reachable
  have hSingle := single_of_reachable hReach.reachable
  have hOwned := owned_of_reaches (hReach.mono fun _ _ hKeeps => hKeeps.2)
  -- nothing is returned and nothing retained is dropped
  have hIdle : s'.client.history = s.client.history →
      s'.client.tables.replay = s.client.tables.replay → s'.workers = s.workers →
      (s'.client.queues.dispatch = s.client.queues.dispatch ∨
        s'.client.queues.dispatch = []) → Settled s' := by
    intro hHistory hReplay hWorkers hDispatch
    exact hSettled.of_idle hSingle hStep hHistory
      (fun workId hSome => .inr (.inl (by rwa [hReplay])))
      (Settled.holds_of_workers hWorkers) (Settled.early_of_workers hWorkers hDispatch)
  cases planeMove_of_step hShape hStep with
  | worker hAction hWorker hMove hWorkers hReader hHolds =>
    subst hAction
    exact hSettled.workerStep hDigests hReach.reachable hOwned hKeeps.1 hWorker hWorkers
  | reader hAction hMove hWorkers hWork =>
    exact hSettled.readerStep hShape hSingle hOwned hMove hWorkers
  | publish hAction hClient hWorkers hReader =>
    -- the calls of the application concern sources, which are never retained
    refine hSettled.of_same ?_ (fun workId hSome => .inl ?_) ?_ (Settled.holds_of_workers hWorkers)
      (Settled.early_of_workers hWorkers (.inl ?_)) <;> rw [hClient]
    · exact events_publishSource.1
    · rwa [events_publishSource.2]
    · exact subsides_publishSource.stopped
    · exact tokens_publishSource.2
  | close hAction hClient hWorkers hReader =>
    refine hSettled.of_same ?_ (fun workId hSome => .inl ?_) ?_ (Settled.holds_of_workers hWorkers)
      (Settled.early_of_workers hWorkers (.inl ?_)) <;> rw [hClient]
    · exact events_closeSource.1
    · rwa [events_closeSource.2]
    · exact subsides_closeSource.stopped
    · exact tokens_closeSource.2
  | quiet hCore hSteady hWorkers hReader =>
    -- the three moves of the threads that hold no job
    exact hIdle (congrArg Core.history hCore) (congrArg (fun k : Core => k.tables.replay) hCore)
      hWorkers (.inl (congrArg Core.dispatch hCore))
  | deactivate hCore hSteady hWorkers hReader hControl =>
    exact hIdle (congrArg Core.history hCore) (congrArg (fun k : Core => k.tables.replay) hCore)
      hWorkers (.inl (congrArg Core.dispatch hCore))
  | drop hPhase hCore hSteady hWorkers hReader =>
    exact hIdle (congrArg Core.history hCore) (congrArg (fun k : Core => k.tables.replay) hCore)
      hWorkers (.inr (congrArg Core.dispatch hCore))
  | release hPhase hNone hNone' hCore hReader =>
    -- the workers are done when the tokens go
    refine hSettled.of_idle hSingle hStep (congrArg Core.history hCore) ?_ ?_ ?_
    · intro workId hSome
      have hReplay : s'.client.tables.replay = s.client.tables.replay :=
        (congrArg (fun k : Core => k.tables.replay) hCore).trans (by simp)
      exact .inr (.inl (by rwa [hReplay]))
    · rintro workId ⟨i, job, hJob, -⟩
      rw [hNone.workers i] at hJob
      cases hJob
    · exact fun job hJob => absurd hJob.owes.holds (hNone'.not_holds job)
  | outside hPhase hNone hNone' hTokens hTokens' hReplay hSources hClosed hHistory =>
    refine hSettled.of_idle hSingle hStep hHistory ?_ ?_ ?_
    · intro workId hSome
      -- only the end of the session drops what is retained
      by_cases hEnd : EndsSession s a
      · rcases stop_of_endsSession hSingle hStep hEnd with hUnused | hStop | hCore
        · exact .inl hUnused
        · exact .inr (.inr hStop)
        · have hSame : s'.client.tables.replay = s.client.tables.replay :=
            congrArg (fun k : Core => k.tables.replay) hCore
          exact .inr (.inl (by rwa [hSame]))
      · obtain ⟨entry, hEntry⟩ := Option.isSome_iff_exists.mp hSome
        refine .inr (.inl ?_)
        rw [replay_of_step hShape hStep hEntry hEnd]
        · rfl
        · rintro ⟨now, fence, response, acknowledgement, -, hPc, -⟩
          have hFence := hShape.threads.workReader (by rw [hPhase]; rfl)
          rw [hPc] at hFence
          cases hFence
    · -- no worker holds a result
      rintro workId ⟨i, job, hJob, -⟩
      rw [hNone.workers i] at hJob
      cases hJob
    · exact fun job hJob => absurd hJob.owes.holds (hNone'.not_holds job)

/-- While no commit of a result is refused and no worker releases a token of
another job: after a unary or operation handler has returned, no handler for
the same request starts unless an exact acknowledgement of the identity was
handled in between. -/
theorem handler_not_rerun (hDigests : env.CanonicalDigests)
    (h : (machine env).Reaches (keepsResults env) s) {first second : CancellationId}
    {kind : DispatchKind} {workId digest : Text} {result : HandlerResult}
    {newer middle older : List WorkEvent} (hKind : kind ≠ .sourceOpen)
    (hHistory : s.client.history = newer ++ .started second kind workId digest ::
      (middle ++ .returned first kind workId digest result :: older)) :
    .acknowledged workId ∈ middle := by
  have hRuns := (settled_of_reaches hDigests h).noRerun
  rw [hHistory] at hRuns
  have hStart := hRuns.of_append.1 hKind
  exact acknowledged_of_not_outstanding hKind hStart

section Runs

open Deployment

theorem length_hexDigits : ∀ count n, (hexDigits count n).length = count
  | 0, _ => rfl
  | count + 1, n => by rw [hexDigits, List.length_cons, length_hexDigits count]

/-- The digests of the deployment are canonical. -/
theorem canonicalDigests_deployment : deployment.CanonicalDigests := by
  intro frame digest hDigest
  cases hDigest
  simp only [digestOf, List.length_append, length_hexDigits]
  decide

/-- The newest event starts a query that was acknowledged after it had returned. -/
def restartsAcknowledged : List WorkEvent → Bool
  | .started _ .unary workId digest :: .admitted _ _ _ _ :: .acknowledged _ ::
      .enqueued _ _ :: .retained _ _ :: .returned _ .unary workId' digest' _ :: _ =>
    workId == workId' && digest == digest'
  | _ => false

/-- The newest event starts a query that has returned and was not retained. -/
def restartsReturned : List WorkEvent → Bool
  | .started _ .unary workId digest :: .admitted _ _ _ _ ::
      .returned _ .unary workId' digest' _ :: _ => workId == workId' && digest == digest'
  | _ => false

/-- A query is completed, acknowledged, and run again on a new request. -/
theorem handler_not_rerun_acknowledged :
    ∃ s first second kind workId digest result newer middle older,
      deployment.CanonicalDigests ∧ (machine deployment).Reaches (keepsResults deployment) s ∧
      kind ≠ .sourceOpen ∧
      s.client.history = newer ++ .started second kind workId digest ::
        (middle ++ .returned first kind workId digest result :: older) ∧
      WorkEvent.acknowledged workId ∈ middle := by
  obtain ⟨s, hReach, hRun⟩ := (machine deployment).exists_reaches_of_runWith
    (keepsResults deployment)
    (bringUp ++ hostFrame 1 1 (unaryFrame "w") ++ runQuery 0 ++ worker 0 2 ++
      hostFrame 1 2 (acknowledgement "w" (answer "w")) ++ hostFrame 1 3 (unaryFrame "w") ++
      worker 0 4)
    (fun s => restartsAcknowledged s.client.history) (by decide +kernel)
  unfold restartsAcknowledged at hRun
  split at hRun
  · rename_i hHistory
    simp only [Bool.and_eq_true, beq_iff_eq] at hRun
    obtain ⟨rfl, rfl⟩ := hRun
    have hSplit : s.client.history = [] ++ _ :: ([_, _, _, _] ++ _ :: _) := hHistory
    exact ⟨s, _, _, .unary, _, _, _, _, _, _, canonicalDigests_deployment, hReach, by decide, hSplit,
      handler_not_rerun canonicalDigests_deployment hReach (by decide) hSplit⟩
  · cases hRun

/-- The pair fails while a query runs, so its result is not retained; the Host
redelivers the query on the next pair, and it is run again. -/
theorem handler_rerun :
    ∃ s first second kind workId digest result newer middle older,
      deployment.CanonicalDigests ∧ (machine deployment).Reachable s ∧
      kind ≠ DispatchKind.sourceOpen ∧
      s.client.history = newer ++ .started second kind workId digest ::
        (middle ++ .returned first kind workId digest result :: older) ∧
      WorkEvent.acknowledged workId ∉ middle := by
  obtain ⟨s, hReach, hRun⟩ := (machine deployment).exists_reaches_of_runWith (fun _ _ => True)
    (bringUp ++ hostFrame 1 1 (unaryFrame "w") ++ worker 0 4 ++ failPair ++
      .worker 0 (.unaryOutcome (.value answered)) :: worker 0 5 ++ replacePair 2 ++
      hostFrame 2 1 (unaryFrame "w") ++ worker 0 4)
    (fun s => restartsReturned s.client.history) (by decide +kernel)
  unfold restartsReturned at hRun
  split at hRun
  · rename_i hHistory
    simp only [Bool.and_eq_true, beq_iff_eq] at hRun
    obtain ⟨rfl, rfl⟩ := hRun
    exact ⟨s, _, _, .unary, _, _, _, [], [_], _, canonicalDigests_deployment, hReach,
      by decide, hHistory, by simp⟩
  · cases hRun

end Runs

end AdapterRuntime.Model
