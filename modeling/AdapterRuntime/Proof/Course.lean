import AdapterRuntime.Proof.Identity
import AdapterRuntime.Proof.Verdicts

/-!
# AdapterRuntime — one own terminal per admission

The frames of an admitted job on the Work queue: `ACCEPTED` and `STARTED` of an
operation, then one terminal, which is the outcome of the job itself.

* `framesSince` — the frames with a work id queued since an admission, by
  whomever.
* `OwnTerminal` — the outcomes of a job, each with the step that decided it.
* `keepsCourse` — the condition: no request that finds the client not ready
  names an active identity, and no worker releases the token of another job.
* `own_terminal` — up to the commit of its terminal nothing else is queued for
  the work id of a job, and a worker that finishes a job on a live pair has
  committed its terminal.
* `own_terminal_replayed` — after the commit the retained terminal is queued
  again for a redelivered request, also before the worker has finished.
-/

namespace AdapterRuntime.Model

open AdapterRuntime.Lib

-- ---------------------------------------------------------------------------
-- Active identities have no terminal
-- ---------------------------------------------------------------------------

/-- A unary or operation request that finds the client not ready does not name
an active identity. -/
def asksIdle (s : System) : Action → Bool
  | .workReader _ =>
    match s.workReader with
    | .handling _ response =>
      match response.frame.dispatchId? with
      | some workId =>
        (s.client.flags.acceptingWork && s.client.flags.state == .ready) ||
          (s.client.tables.workTokens.lookup workId).isNone
      | none => true
    | _ => true
  | _ => true

/-- Requests for active identities find the client ready, and releases are of own
tokens. -/
def keepsCourse (s : System) (a : Action) : Prop :=
  releasesOwn s a = true ∧ asksIdle s a = true

instance (s : System) (a : Action) : Decidable (keepsCourse s a) :=
  inferInstanceAs (Decidable (_ ∧ _))

variable {env : Env} {s s' : System} {c c' : Client} {run : List (System × Action)}
  {e : System × Action}

/-- A request under an identity meets a client that is ready, or one that does not know the
identity. -/
theorem asksIdle_of_asks {workId : Text} {input : ReaderInput WorkResponse}
    (h : asksIdle s (.workReader input) = true) (hAsks : s.workReader.Asks workId) :
    (s.client.flags.acceptingWork = true ∧ s.client.flags.state = .ready) ∨
      s.client.tables.workTokens.lookup workId = none := by
  obtain ⟨fence, response, hPc, hId⟩ := hAsks
  simpa [asksIdle, hPc, hId] using h

/-- An identity with a token has no retained terminal, and an immediate
rejection in the reader's hand is for an identity without a token. -/
structure Apart (s : System) : Prop where
  disjoint : ∀ workId, s.client.tables.workTokens.lookup workId ≠ none →
    s.client.tables.replay.lookup workId = none
  pending : ∀ job frame, s.workReader.pending? = some (.commitImmediate job frame) →
    s.client.tables.workTokens.lookup job.workId = none

namespace Apart

/-- A step that admits nothing keeps what is on its way apart. -/
theorem of_recedes (h : Apart s)
    (hTokens : ∀ workId, s.client.tables.workTokens.lookup workId = none →
      s'.client.tables.workTokens.lookup workId = none)
    (hReplay : ∀ workId, s.client.tables.replay.lookup workId = none →
      s'.client.tables.replay.lookup workId = none)
    (hReader : s'.workReader = s.workReader ∨ s'.workReader.pending? = none) : Apart s' where
  disjoint workId hSome := hReplay workId (h.disjoint workId fun hNone =>
    hSome (hTokens workId hNone))
  pending job frame hPending := by
    rcases hReader with hSame | hNone
    · rw [hSame] at hPending
      exact hTokens _ (h.pending job frame hPending)
    · rw [hNone] at hPending
      cases hPending

/-- The step of a worker: a commit converts the worker's own token. -/
theorem workerStep (h : Apart s) (hReach : (machine env).Reachable s) (hOwned : Owned s) {i : Nat}
    {pc' : WorkerPc} (hMove : WorkerMove env s.client (s.workers i) pc' s'.client)
    (hReader : s'.workReader = s.workReader) : Apart s' := by
  have hTokens : ∀ workId, s.client.tables.workTokens.lookup workId = none →
      s'.client.tables.workTokens.lookup workId = none := fun workId => hMove.workTokens
  obtain hRecedes | ⟨job, now, frame, entry, hJob, hDue, -, hClient⟩ := hMove.recedes
  · exact h.of_recedes hTokens hRecedes.replay (.inl hReader)
  · obtain ⟨hKind, hOwes⟩ := owes_of_due ((shape_of_reachable hReach).kinds i) hJob hDue
    have hOwns := hOwned job ⟨hKind, .inr ⟨i, hJob, hOwes⟩⟩
    obtain ⟨reservation, hConverts, -⟩ := converts_of_owned hReach (.inr ⟨i, hJob⟩) hOwns
    refine ⟨fun workId hSome => ?_, fun other frame hPending => ?_⟩
    · rw [hClient, Client.tables_committed, Client.retainTerminal_workTokens, hConverts] at hSome
      rw [hClient, Client.tables_committed, Client.retainTerminal_replay]
      simp only [Option.isSome_some, if_true, Store.lookup_erase_ite] at hSome
      rw [Store.lookup_insert_ite]
      split
      · rename_i hKey
        rw [if_pos hKey] at hSome
        exact absurd rfl hSome
      · rename_i hKey
        rw [if_neg hKey] at hSome
        exact h.disjoint workId hSome
    · rw [hReader] at hPending
      exact hTokens _ (h.pending other frame hPending)

/-- The step of the Work reader. -/
theorem readerStep (h : Apart s) {input : ReaderInput WorkResponse}
    (hAsks : asksIdle s (.workReader input) = true)
    (hMove : ReaderMove env s.client s.workReader s'.workReader s'.client)
    (hPlane : PlaneMove env s (.workReader input) s') : Apart s' := by
  refine ⟨?_, fun job frame hTodo => ?_⟩
  · obtain hRecedes | ⟨fence, job, frame, entry, hPc, -, hClient⟩ |
      ⟨job, reservation, hVerdict, -, hClient⟩ |
      ⟨workId, -, -, hTokens, hReplay, -⟩ := hMove.recedes
    · exact fun workId hSome => hRecedes.replay workId
        (h.disjoint workId fun hNone => hSome (hRecedes.tokens workId hNone))
    · have hFree := h.pending job frame (by rw [hPc]; rfl)
      intro workId hSome
      rw [hClient, Client.tables_committed, Client.retainTerminal_workTokens] at hSome
      simp only [Tables.convertedReservation, hFree, Option.isSome_none, Bool.false_eq_true,
        if_false] at hSome
      rw [hClient, Client.tables_committed, Client.retainTerminal_replay, Store.lookup_insert_ite]
      split
      · rename_i hKey
        subst hKey
        exact absurd hFree hSome
      · exact h.disjoint workId hSome
    · obtain ⟨-, hFree, -⟩ := dispatchVerdict_accept hVerdict
      intro workId hSome
      rw [hClient] at hSome ⊢
      by_cases hKey : workId = job.workId
      · subst hKey
        exact hFree
      · refine h.disjoint workId ?_
        simpa [Client.admitDispatch, Store.lookup_insert_ite, hKey] using hSome
    · intro workId hSome
      rw [hTokens] at hSome
      rw [hReplay]
      exact h.disjoint workId hSome
  · rcases hMove.decided with hCore | hNone
    · have hTables : s'.client.tables = s.client.tables := congrArg Core.tables hCore
      rw [hTables]
      obtain hSame | ⟨code, message, -, hVerdict, -, -, -, hAsked⟩ := hPlane.pending hTodo
      · rw [hSame] at hTodo
        exact h.pending job frame hTodo
      · obtain ⟨-, -, hReason⟩ := dispatchVerdict_reject hVerdict
        rcases asksIdle_of_asks hAsks hAsked with ⟨hAccepting, hReady⟩ | hToken
        · rcases hReason with (hNot | hNot) | ⟨hToken, -⟩
          · rw [hAccepting] at hNot
            cases hNot
          · exact absurd hReady hNot
          · exact hToken
        · exact hToken
    · exact absurd hTodo (hNone job frame)

end Apart

/-- What is on its way is apart in every run on course. -/
theorem apart_of_reaches (h : (machine env).Reaches keepsCourse s) : Apart s := by
  refine h.invariant (I := Apart) ⟨fun workId hSome => rfl, fun job frame hTodo => ?_⟩ ?_
  · cases hTodo
  · intro s a s' hReach hApart hCond hStep
    have hOwned := owned_of_reaches (hReach.mono fun _ _ hCond => hCond.1)
    have hPlane := planeMove_of_step (shape_of_reachable hReach.reachable) hStep
    have hCopy := hPlane
    have hSame : s'.client.tables.workTokens = s.client.tables.workTokens →
        s'.client.tables.replay = s.client.tables.replay →
        s'.workReader = s.workReader ∨ s'.workReader.pending? = none → Apart s' :=
      fun hTokens hReplay => hApart.of_recedes (fun _ hNone => by rwa [hTokens])
        (fun _ hNone => by rwa [hReplay])
    cases hPlane with
    | worker hAction hWorker hMove hWorkers hReader hHolds =>
      exact hApart.workerStep hReach.reachable hOwned hMove hReader
    | reader hAction hMove hWorkers hWork =>
      subst hAction
      exact hApart.readerStep hCond.2 hMove hCopy
    | publish hAction hClient hWorkers hReader =>
      rw [hClient] at hSame
      exact hSame tokens_publishSource.1 (congrArg LedgerPart.replay ledger_publishSource)
        (.inl hReader)
    | close hAction hClient hWorkers hReader =>
      rw [hClient] at hSame
      exact hSame tokens_closeSource.1 (congrArg LedgerPart.replay ledger_closeSource)
        (.inl hReader)
    | quiet hCore hSteady hWorkers hReader =>
      exact hSame (congrArg (fun k : Core => k.tables.workTokens) hCore)
        (congrArg (fun k : Core => k.tables.replay) hCore) hReader
    | deactivate hCore hSteady hWorkers hReader hControl =>
      exact hSame (congrArg (fun k : Core => k.tables.workTokens) hCore)
        (congrArg (fun k : Core => k.tables.replay) hCore) (.inl hReader)
    | drop hPhase hCore hSteady hWorkers hReader =>
      exact hSame (congrArg (fun k : Core => k.tables.workTokens) hCore)
        (congrArg (fun k : Core => k.tables.replay) hCore) (.inl hReader)
    | release hPhase hNone hNone' hCore hReader =>
      have hTables : s'.client.tables = s.client.tables.releaseAllWorkTokens :=
        congrArg Core.tables hCore
      refine hApart.of_recedes (fun workId hFree => ?_) (fun workId hFree => ?_) (.inl hReader) <;>
        rw [hTables]
      · simp
      · simpa using hFree
    | outside hPhase hNone hNone' hTokens hTokens' hReplay hSources hClosed hHistory hNext
        hReader =>
      refine hApart.of_recedes (fun workId hFree => ?_) (fun workId hFree => ?_) (.inr hReader)
      · rw [hTokens']
        rfl
      · rcases hReplay with hEq | hEq
        · rwa [hEq]
        · rw [hEq]
          rfl

-- ---------------------------------------------------------------------------
-- The frames of an admission
-- ---------------------------------------------------------------------------

/-- The event is the admission of the job `id`. -/
def WorkEvent.admits (id : CancellationId) : WorkEvent → Bool
  | .admitted other _ _ _ => other == id
  | _ => false

/-- The event is the invocation of the handler of the job `id`. -/
def WorkEvent.starts (id : CancellationId) : WorkEvent → Bool
  | .started other _ _ _ => other == id
  | _ => false

/-- The event is the retention of a terminal by the job `id`. -/
def WorkEvent.retains (id : CancellationId) : WorkEvent → Bool
  | .retained owner _ => owner == some id
  | _ => false

/-- The frame for `workId` that an event put on the Work queue, with the job it
was queued for. -/
def WorkEvent.sent? (workId : Text) : WorkEvent → Option (Option CancellationId × WorkFrame)
  | .enqueued owner frame => if frame.workId? = some workId then some (owner, frame) else none
  | _ => none

/-- The events since the admission of the job `id`, in order. -/
def eventsSince (id : CancellationId) (history : List WorkEvent) : List WorkEvent :=
  (history.takeWhile fun event => !event.admits id).reverse

/-- The frames for `workId` put on the Work queue since the admission of the job
`id`, in order and by whomever. -/
def framesSince (id : CancellationId) (workId : Text) (history : List WorkEvent) :
    List (Option CancellationId × WorkFrame) :=
  (eventsSince id history).filterMap (WorkEvent.sent? workId)

/-- The handler of the job `id` has been invoked. -/
def Started (id : CancellationId) (history : List WorkEvent) : Prop :=
  history.any (WorkEvent.starts id) = true

/-- How many terminals the job `id` has retained. -/
def commitsOf (id : CancellationId) (history : List WorkEvent) : Nat :=
  history.countP (WorkEvent.retains id)

/-- An admission belongs to the job it admits. -/
theorem WorkEvent.owner_of_admits {id : CancellationId} {event : WorkEvent}
    (h : event.admits id = true) : event.owner? = some id := by
  cases event <;> simp_all [admits, owner?]

/-- A start belongs to the job it starts. -/
theorem WorkEvent.owner_of_starts {id : CancellationId} {event : WorkEvent}
    (h : event.starts id = true) : event.owner? = some id := by
  cases event <;> simp_all [starts, owner?]

/-- A retained terminal belongs to the job it is of. -/
theorem WorkEvent.owner_of_retains {id : CancellationId} {event : WorkEvent}
    (h : event.retains id = true) : event.owner? = some id := by
  cases event <;> simp_all [retains, owner?]

section Histories

variable {id : CancellationId} {workId : Text} {new older : List WorkEvent}

theorem eventsSince_append (h : ∀ event ∈ new, event.admits id = false) :
    eventsSince id (new ++ older) = eventsSince id older ++ new.reverse := by
  unfold eventsSince
  rw [List.takeWhile_append_of_pos (by simpa using h), List.reverse_append]

theorem framesSince_append (h : ∀ event ∈ new, event.admits id = false) :
    framesSince id workId (new ++ older) =
      framesSince id workId older ++ new.reverse.filterMap (WorkEvent.sent? workId) := by
  unfold framesSince
  rw [eventsSince_append h, List.filterMap_append]

@[simp] theorem started_append :
    Started id (new ++ older) ↔ new.any (WorkEvent.starts id) = true ∨ Started id older := by
  simp [Started]

@[simp] theorem commitsOf_append :
    commitsOf id (new ++ older) = new.countP (WorkEvent.retains id) + commitsOf id older :=
  List.countP_append

/-- The record of a job starts with its admission. -/
theorem eventsSince_admitted {kind : DispatchKind} {digest : Text} :
    eventsSince id (.admitted id kind workId digest :: older) = [] := by
  simp [eventsSince, WorkEvent.admits]

/-- No event of the job `id` is in `new`. -/
def Foreign (id : CancellationId) (new : List WorkEvent) : Prop :=
  ∀ event ∈ new, event.owner? ≠ some id

/-- The events of other jobs do not admit this one. -/
theorem Foreign.admits (h : Foreign id new) : ∀ event ∈ new, event.admits id = false := by
  intro event hEvent
  cases hAdmits : event.admits id with
  | false => rfl
  | true => exact absurd (WorkEvent.owner_of_admits hAdmits) (h event hEvent)

theorem Foreign.started (h : Foreign id new) : Started id (new ++ older) ↔ Started id older := by
  rw [started_append, or_iff_right]
  intro hAny
  obtain ⟨event, hEvent, hStarts⟩ := List.any_eq_true.mp hAny
  exact h event hEvent (WorkEvent.owner_of_starts hStarts)

theorem Foreign.commitsOf (h : Foreign id new) :
    commitsOf id (new ++ older) = commitsOf id older := by
  rw [commitsOf_append, List.countP_eq_zero.mpr, Nat.zero_add]
  exact fun event hEvent hRetains => h event hEvent (WorkEvent.owner_of_retains hRetains)

end Histories

/-- What stands before the terminal of a job: `ACCEPTED` and `STARTED` of an
operation whose handler was invoked. -/
def Lead (job : DispatchJob) (id : CancellationId) (ran : Bool)
    (lead : List (Option CancellationId × WorkFrame)) : Prop :=
  if job.kind = .operation ∧ ran = true then
    ∃ accepted started, lead = [(some id, operationFrame accepted job.workId .accepted),
      (some id, operationFrame started job.workId .started)]
  else lead = []

/-- The outcomes of a job: a rejection before its handler is invoked, for its
cancellation flag, the error of `ValidateWorkContext` or its failed input check;
otherwise what the handler returned, or the compact failure in the place of a
result too large to commit. -/
inductive OwnTerminal (env : Env) (run : List (System × Action)) (history : List WorkEvent)
    (job : DispatchJob) (id : CancellationId) : Bool → WorkFrame → Prop
  | cancelled (now : Int) (hFlag : Decided env run job .cancelled) :
      OwnTerminal env run history job id false
        (rejectedDispatch now job.kind job.workId (text "cancelled")
          (text "Work was cancelled before dispatch") .cancelled)
  | context (now : Int) {error : Text} (hError : Decided env run job (.context error)) :
      OwnTerminal env run history job id false
        (rejectedDispatch now job.kind job.workId (text "invalid-work-context") error)
  | input (now : Int) (hInput : Decided env run job .input) :
      OwnTerminal env run history job id false
        (rejectedDispatch now job.kind job.workId (text "input-schema-mismatch")
          (text (if job.kind = .unary then "unary input does not match its contract"
            else "operation input does not match its contract")))
  | result {frame : WorkFrame} (hResult : Normalized env history job id frame)
      (hDecided : Decided env run job (.result frame)) :
      OwnTerminal env run history job id true frame
  | fallback (now : Int) {frame : WorkFrame} (hResult : Normalized env history job id frame)
      (hDecided : Decided env run job (.result frame))
      (hLarge : Decided env run job (.tooLarge frame)) :
      OwnTerminal env run history job id true (fallbackTerminal now job.kind job.workId)

/-- A terminal that was the job's own at its commit stays so. -/
theorem OwnTerminal.later {history history' : List WorkEvent} {job : DispatchJob}
    {id : CancellationId} {ran : Bool} {frame : WorkFrame} {e : System × Action}
    (h : OwnTerminal env run history job id ran frame)
    (hGrow : ∀ event ∈ history, event ∈ history') :
    OwnTerminal env (e :: run) history' job id ran frame := by
  cases h with
  | cancelled now hFlag => exact .cancelled now hFlag.later
  | context now hError => exact .context now hError.later
  | input now hInput => exact .input now hInput.later
  | result hResult hDecided => exact .result (hResult.mono hGrow) hDecided.later
  | fallback now hResult hDecided hLarge =>
    exact .fallback now (hResult.mono hGrow) hDecided.later hLarge.later

/-- Nothing but `ACCEPTED` and `STARTED` of the job itself has been queued, and
no terminal retained. -/
structure Unanswered (c : Client) (job : DispatchJob) (id : CancellationId) : Prop where
  frames : (¬Started id c.history ∧ framesSince id job.workId c.history = []) ∨
    (¬Started id c.history ∧ job.kind = .operation ∧ ∃ now,
      framesSince id job.workId c.history =
        [(some id, operationFrame now job.workId .accepted)]) ∨
    (Started id c.history ∧ Lead job id true (framesSince id job.workId c.history))
  none : commitsOf id c.history = 0

/-- The terminal of the job has been queued after what leads it, and retained
once. Nothing that follows is queued by the job, and until the terminal is
acknowledged, it is that terminal again. -/
structure AnsweredBy (env : Env) (run : List (System × Action)) (c : Client) (job : DispatchJob)
    (id : CancellationId) (ran : Bool) (lead later : List (Option CancellationId × WorkFrame))
    (terminal : WorkFrame) : Prop where
  frames : framesSince id job.workId c.history = lead ++ (some id, terminal) :: later
  lead : Lead job id ran lead
  own : OwnTerminal env run c.history job id ran terminal
  others : ∀ sent ∈ later, sent.1 ≠ some id
  started : Started id c.history ↔ ran = true
  once : commitsOf id c.history = 1
  again : .acknowledged job.workId ∈ eventsSince id c.history ∨
    ((∀ sent ∈ later, sent.2 = terminal) ∧
      ∃ entry, c.tables.replay.lookup job.workId = some entry ∧ entry.terminal = terminal)

/-- The job has been answered: its frames are a lead, a terminal of its own and what came later. -/
def Answered (env : Env) (run : List (System × Action)) (c : Client) (job : DispatchJob)
    (id : CancellationId) : Prop :=
  ∃ ran lead later terminal, AnsweredBy env run c job id ran lead later terminal

/-- What has been queued for a job at a stage of its worker. -/
def Stands (env : Env) (run : List (System × Action)) (c : Client) (job : DispatchJob)
    (id : CancellationId) : Stage → Prop
  | .fresh | .refusing => ¬Started id c.history ∧ commitsOf id c.history = 0 ∧
      framesSince id job.workId c.history = []
  | .accepted => ¬Started id c.history ∧ commitsOf id c.history = 0 ∧ job.kind = .operation ∧
      ∃ now, framesSince id job.workId c.history =
        [(some id, operationFrame now job.workId .accepted)]
  | .running | .returned => Started id c.history ∧ commitsOf id c.history = 0 ∧
      Lead job id true (framesSince id job.workId c.history)
  | .failed => Unanswered c job id
  | .committed => Answered env run c job id
  | .left => Answered env run c job id ∨ c.flags.sessionFailed = true ∨ c.flags.stopRequested = true
  | .free | .opening | .sourceDone => True

-- ---------------------------------------------------------------------------
-- Steps of others
-- ---------------------------------------------------------------------------

/-- The events a step adds leave a job alone: none is of the job; no frame for its
work id is queued by it, nor by others while it owes its terminal; and its retained
terminal is kept, and what is queued for it is that terminal, or it is acknowledged. -/
structure PassesBy (c c' : Client) (job : DispatchJob) (id : CancellationId) (stage : Stage)
    (new : List WorkEvent) : Prop where
  history : c'.history = new ++ c.history
  foreign : Foreign id new
  failed : c.flags.sessionFailed = true → c'.flags.sessionFailed = true
  stopped : c.flags.stopRequested = true → c'.flags.stopRequested = true
  others : ∀ owner frame, .enqueued owner frame ∈ new → frame.workId? = some job.workId →
    owner ≠ some id
  silent : stage.owes = true → ∀ owner frame, .enqueued owner frame ∈ new →
    frame.workId? ≠ some job.workId
  kept : ∀ entry, c.tables.replay.lookup job.workId = some entry →
    .acknowledged job.workId ∈ new ∨
      (c'.tables.replay.lookup job.workId = some entry ∧
        ∀ owner frame, .enqueued owner frame ∈ new → frame.workId? = some job.workId →
          frame = entry.terminal)

/-- A step that adds no event and keeps `replay_`. -/
theorem PassesBy.of_core {job : DispatchJob} {id : CancellationId} {stage : Stage}
    (hHistory : c'.history = c.history) (hReplay : c'.tables.replay = c.tables.replay)
    (hFailed : c.flags.sessionFailed = true → c'.flags.sessionFailed = true)
    (hStopped : c.flags.stopRequested = true → c'.flags.stopRequested = true) :
    PassesBy c c' job id stage [] where
  history := hHistory
  foreign := by simp [Foreign]
  failed := hFailed
  stopped := hStopped
  others := by simp
  silent := by simp
  kept entry hEntry := .inr ⟨by rwa [hReplay], by simp⟩

theorem sent_eq_nil {workId : Text} {new : List WorkEvent}
    (h : ∀ owner frame, .enqueued owner frame ∈ new → frame.workId? ≠ some workId) :
    new.reverse.filterMap (WorkEvent.sent? workId) = [] := by
  rw [List.filterMap_eq_nil_iff]
  intro event hEvent
  cases event with
  | enqueued owner frame => simp [WorkEvent.sent?, h owner frame (List.mem_reverse.mp hEvent)]
  | _ => rfl

/-- A frame of the job among new events was enqueued there. -/
theorem mem_sent {workId : Text} {new : List WorkEvent}
    {sent : Option CancellationId × WorkFrame}
    (h : sent ∈ new.reverse.filterMap (WorkEvent.sent? workId)) :
    .enqueued sent.1 sent.2 ∈ new ∧ sent.2.workId? = some workId := by
  obtain ⟨event, hEvent, hSent⟩ := List.mem_filterMap.mp h
  cases event with
  | enqueued owner frame =>
    simp only [WorkEvent.sent?, Option.ite_none_right_eq_some, Option.some.injEq] at hSent
    obtain ⟨hId, rfl⟩ := hSent
    exact ⟨List.mem_reverse.mp hEvent, hId⟩
  | _ => cases hSent

section Others

variable {job : DispatchJob} {id : CancellationId} {stage : Stage} {new : List WorkEvent}

/-- A step that passes a job by sends nothing for it. -/
theorem PassesBy.frames (h : PassesBy c c' job id stage new) (hOwes : stage.owes = true) :
    framesSince id job.workId c'.history = framesSince id job.workId c.history := by
  rw [h.history, framesSince_append h.foreign.admits, sent_eq_nil (h.silent hOwes),
    List.append_nil]

/-- It does not start the job. -/
theorem PassesBy.started (h : PassesBy c c' job id stage new) :
    Started id c'.history ↔ Started id c.history := by
  rw [h.history]
  exact h.foreign.started

/-- It commits nothing for the job. -/
theorem PassesBy.commits (h : PassesBy c c' job id stage new) :
    commitsOf id c'.history = commitsOf id c.history := by
  rw [h.history]
  exact h.foreign.commitsOf

/-- A job that has been answered stays answered. -/
theorem PassesBy.answered (h : PassesBy c c' job id stage new)
    (hBefore : Answered env run c job id) : Answered env (e :: run) c' job id := by
  obtain ⟨ran, lead, later, terminal, hBy⟩ := hBefore
  refine ⟨ran, lead, later ++ new.reverse.filterMap (WorkEvent.sent? job.workId), terminal, ?_⟩
  constructor
  · rw [h.history, framesSince_append h.foreign.admits, hBy.frames]
    simp
  · exact hBy.lead
  · refine hBy.own.later fun event hEvent => ?_
    rw [h.history]
    exact List.mem_append_right _ hEvent
  · intro sent hSent
    rcases List.mem_append.mp hSent with hSent | hSent
    · exact hBy.others sent hSent
    · obtain ⟨hNew, hId⟩ := mem_sent hSent
      exact h.others sent.1 sent.2 hNew hId
  · rw [h.started]
    exact hBy.started
  · rw [h.commits]
    exact hBy.once
  · rw [h.history, eventsSince_append h.foreign.admits, List.mem_append, List.mem_reverse]
    rcases hBy.again with hAcknowledged | ⟨hLater, entry, hEntry, hTerminal⟩
    · exact .inl (.inl hAcknowledged)
    · rcases h.kept entry hEntry with hAcknowledged | ⟨hKept, hAgain⟩
      · exact .inl (.inr hAcknowledged)
      · refine .inr ⟨fun sent hSent => ?_, entry, hKept, hTerminal⟩
        rcases List.mem_append.mp hSent with hSent | hSent
        · exact hLater sent hSent
        · obtain ⟨hNew, hId⟩ := mem_sent hSent
          rw [hAgain sent.1 sent.2 hNew hId, hTerminal]

/-- What has been queued for a job stands under the steps of others. -/
theorem PassesBy.stands (h : PassesBy c c' job id stage new)
    (hBefore : Stands env run c job id stage) : Stands env (e :: run) c' job id stage := by
  cases stage with
  | fresh | refusing | accepted | running | returned =>
    unfold Stands at hBefore ⊢
    rwa [h.started, h.commits, h.frames rfl]
  | failed =>
    obtain ⟨hFrames, hNone⟩ := hBefore
    refine ⟨?_, by rwa [h.commits]⟩
    rwa [h.started, h.frames rfl]
  | committed => exact h.answered hBefore
  | left =>
    rcases hBefore with hAnswered | hFailed | hStopped
    · exact .inl (h.answered hAnswered)
    · exact .inr (.inl (h.failed hFailed))
    · exact .inr (.inr (h.stopped hStopped))
  | free | opening | sourceDone => trivial

end Others

-- ---------------------------------------------------------------------------
-- The steps of the job's own worker
-- ---------------------------------------------------------------------------

section Own

variable {job : DispatchJob} {id : CancellationId}

/-- The terminal a worker is about to commit is an outcome of its job, after
what leads it. -/
theorem own_of_due {pc : WorkerPc} {now : Int} {frame : WorkFrame} (hJob : pc.job? = some job)
    (hId : job.cancellation = some id) (hDue : pc.dueTerminal now = some frame)
    (hReports : pc.Reports env c.history) (hDecided : pc.Decided env run c.history)
    (h : Stands env run c job id pc.stage) :
    ∃ ran, OwnTerminal env run c.history job id ran frame ∧
      (Started id c.history ↔ ran = true) ∧
      Lead job id ran (framesSince id job.workId c.history) ∧ commitsOf id c.history = 0 := by
  cases pc with
  | cancelledCommit held =>
    cases hJob
    cases hDue
    obtain ⟨hNot, hNone, hFrames⟩ := h
    exact ⟨false, .cancelled now hDecided, by simp [hNot], by simp [Lead, hFrames], hNone⟩
  | contextReject held error =>
    cases hJob
    cases hDue
    obtain ⟨hNot, hNone, hFrames⟩ := h
    exact ⟨false, .context now hDecided, by simp [hNot], by simp [Lead, hFrames], hNone⟩
  | inputReject held =>
    cases hJob
    cases hDue
    obtain ⟨hNot, hNone, hFrames⟩ := h
    exact ⟨false, .input now hDecided, by simp [hNot], by simp [Lead, hFrames], hNone⟩
  | commit held due =>
    cases hJob
    cases hDue
    obtain ⟨own, hOwn, hNormalized⟩ := hReports
    rw [hId, Option.some.injEq] at hOwn
    subst hOwn
    obtain ⟨hStarted, hNone, hLead⟩ := h
    exact ⟨true, .result hNormalized hDecided, by simp [hStarted], hLead, hNone⟩
  | commitFallback held =>
    cases hJob
    cases hDue
    obtain ⟨own, due, hOwn, hNormalized, hResult, hLarge⟩ := hDecided
    rw [hId, Option.some.injEq] at hOwn
    subst hOwn
    obtain ⟨hStarted, hNone, hLead⟩ := h
    exact ⟨true, .fallback now hNormalized hResult hLarge, by simp [hStarted], hLead, hNone⟩
  | _ => cases hDue

/-- A job that has neither committed nor failed is unanswered. -/
theorem unanswered_of_stands {stage : Stage} (h : Stands env run c job id stage)
    (hOwes : stage.owes = true) : Unanswered c job id := by
  cases stage with
  | fresh | refusing => exact ⟨.inl ⟨h.1, h.2.2⟩, h.2.1⟩
  | accepted => exact ⟨.inr (.inl ⟨h.1, h.2.2⟩), h.2.1⟩
  | running | returned => exact ⟨.inr (.inr ⟨h.1, h.2.2⟩), h.2.1⟩
  | failed => exact h
  | free | committed | left | opening | sourceDone => cases hOwes

/-- The commit of a job's terminal. -/
theorem answered_committed {pc : WorkerPc} {now : Int} {frame : WorkFrame} {entry : ReplayEntry}
    (hJob : pc.job? = some job) (hId : job.cancellation = some id)
    (hDue : pc.dueTerminal now = some frame) (hReports : pc.Reports env c.history)
    (hDecided : pc.Decided env run c.history)
    (hEntry : replayEntryOf env job frame (c.workFrameBytes env frame) = some entry)
    (h : Stands env run c job id pc.stage) :
    Answered env (e :: run) (c.committed env job frame entry) job id := by
  obtain ⟨ran, hOwn, hStarted, hLead, hNone⟩ := own_of_due hJob hId hDue hReports hDecided h
  have hFrame := workId_dueTerminal hReports hJob hDue
  have hHistory : (c.committed env job frame entry).history =
      [.enqueued (some id) frame, .retained (some id) job.workId] ++ c.history := by
    rw [← hId]
    rfl
  refine ⟨ran, _, [], frame, ?_, hLead, ?_, by simp, ?_, ?_, .inr ⟨by simp, entry, ?_, ?_⟩⟩
  · rw [hHistory, framesSince_append (by simp [WorkEvent.admits])]
    simp [List.filterMap_cons, WorkEvent.sent?, hFrame]
  · refine hOwn.later fun event hEvent => ?_
    rw [hHistory]
    exact List.mem_append_right _ hEvent
  · rw [hHistory, started_append]
    simpa [WorkEvent.starts] using hStarted
  · rw [hHistory, commitsOf_append, hNone]
    simp [WorkEvent.retains]
  · simp
  · exact terminal_replayEntryOf hEntry

/-- The step of the worker that holds the job. -/
theorem stands_workerMove {pc pc' : WorkerPc} (hMove : WorkerMove env c pc pc' c')
    (hBefore : pc.job? = some job) (hAfter : pc'.job? = some job)
    (hId : job.cancellation = some id) (hKind : pc.KindOk) (hKind' : pc'.KindOk)
    (hSource : job.kind ≠ .sourceOpen) (hReports : pc.Reports env c.history)
    (hDecided : pc.Decided env run c.history) (hFails : pc.Fails c)
    (h : Stands env run c job id pc.stage) : Stands env (e :: run) c' job id pc'.stage := by
  have hRest := hMove.subsides
  cases hMove with
  | exit | pop => cases hBefore
  | leave | finish | leaveSource => cases hAfter
  -- nothing is logged; the stage may advance to one that owes as much
  | @quiet _ _ _ held _ _ hCore hSubsides hStage =>
    have hPass : ∀ stage, Stands env run c job id stage →
        Stands env (e :: run) c' job id stage :=
      fun stage => (PassesBy.of_core (congrArg Core.history hCore)
        (congrArg (fun k : Core => k.tables.replay) hCore) hRest.failed hRest.stopped).stands
    rcases hStage with hEq | ⟨hFresh, hNext⟩ | ⟨hAccepted, hNext⟩ | ⟨-, hNext⟩
    · rw [← hEq]
      exact hPass _ h
    · rw [hFresh] at h
      rcases hNext with hNext | hNext | hNext | hNext <;> rw [hNext]
      · exact hPass .refusing h
      · exact hPass .failed (unanswered_of_stands h rfl)
      · trivial
      · trivial
    · rw [hAccepted] at h
      rw [hNext]
      exact hPass .failed (unanswered_of_stands h rfl)
    · rw [hNext]
      trivial
  | @accept held binding now =>
    cases hBefore
    obtain ⟨hNot, hNone, hFrames⟩ := h
    -- `ACCEPTED` is the first frame of the operation
    have hHistory : (c.queued env job.cancellation (operationFrame now job.workId .accepted)).history
        = [.enqueued (some id) (operationFrame now job.workId .accepted)] ++ c.history := by
      rw [← hId]
      rfl
    refine ⟨?_, ?_, hKind, now, ?_⟩
    · rw [hHistory, started_append]
      simpa [WorkEvent.starts] using hNot
    · rw [hHistory, commitsOf_append, hNone]
      simp [WorkEvent.retains]
    · rw [hHistory, framesSince_append (by simp [WorkEvent.admits]), hFrames]
      simp [WorkEvent.sent?]
  | @startOperation held binding now =>
    cases hBefore
    have hOperation : job.kind = .operation := hKind
    obtain ⟨hNot, hNone, -, accepted, hFrames⟩ := h
    -- `STARTED` is queued before the handler is invoked
    have hHistory : ((c.queued env job.cancellation
          (operationFrame now job.workId .started)).recordStarted job).history =
        [.started id job.kind job.workId job.fingerprint,
          .enqueued (some id) (operationFrame now job.workId .started)] ++ c.history := by
      simp only [Client.recordStarted, hId]
      rfl
    refine ⟨?_, ?_, ?_⟩
    · rw [hHistory, started_append]
      simp [WorkEvent.starts]
    · rw [hHistory, commitsOf_append, hNone]
      simp [WorkEvent.retains]
    · rw [hHistory, framesSince_append (by simp [WorkEvent.admits]), hFrames]
      simp only [Lead, hOperation, and_self, if_true]
      exact ⟨accepted, now, by simp [List.filterMap_cons, WorkEvent.sent?]⟩
  | @startUnary held binding hUnary =>
    cases hBefore
    obtain ⟨hNot, hNone, hFrames⟩ := h
    have hHistory : (c.recordStarted job).history =
        [.started id job.kind job.workId job.fingerprint] ++ c.history := by
      simp only [Client.recordStarted, hId]
      rfl
    refine ⟨?_, ?_, ?_⟩
    · rw [hHistory, started_append]
      simp [WorkEvent.starts]
    · rw [hHistory, commitsOf_append, hNone]
      simp [WorkEvent.retains]
    · rw [hHistory, framesSince_append (by simp [WorkEvent.admits]), hFrames]
      simp [List.filterMap_cons, WorkEvent.sent?, Lead, hUnary]
  -- the return of the handler is logged and sends nothing
  | @returnUnary held binding result _ | @returnOperation held binding result _ =>
    cases hBefore
    obtain ⟨hStarted, hNone, hLead⟩ := h
    have hHistory : ∀ value, (c.recordReturned value job).history =
        [.returned id job.kind job.workId job.fingerprint value] ++ c.history := by
      intro value
      simp only [Client.recordReturned, hId]
      rfl
    refine ⟨?_, ?_, ?_⟩
    · rw [hHistory, started_append]
      exact .inr hStarted
    · rw [hHistory, commitsOf_append, hNone]
      simp [WorkEvent.retains]
    · rw [hHistory, framesSince_append (by simp [WorkEvent.admits])]
      simpa [List.filterMap_cons, WorkEvent.sent?] using hLead
  | @commit _ _ held now frame entry hJob hDue hNext hAdmits hEntry hLedger =>
    rw [hBefore, Option.some.injEq] at hJob
    subst hJob
    have hAnswered := answered_committed (e := e) hBefore hId hDue hReports hDecided hEntry h
    rcases hNext with rfl | rfl <;> exact hAnswered
  | @refuse _ _ _ held now frame result hJob hDue hCommit hResult hNext =>
    obtain ⟨hCommitted, -⟩ | ⟨-, hRefused⟩ := Client.commitTerminalFrame_cases hCommit
    · exact absurd hCommitted hResult
    · have hPass : ∀ stage, Stands env run c job id stage →
        Stands env (e :: run) c' job id stage :=
        fun stage => (PassesBy.of_core (congrArg Core.history hRefused.core)
          (congrArg (fun k : Core => k.tables.replay) hRefused.core) hRest.failed
          hRest.stopped).stands
      -- too large: the compact failure follows; else the worker has given up
      rcases hNext with ⟨-, rfl, rfl⟩ | ⟨reason, after, hNot, rfl⟩
      · exact hPass .returned h
      · have hStage : (WorkerPc.signal held reason after).stage = .failed := if_neg hNot
        rw [hStage]
        refine hPass .failed (unanswered_of_stands h ?_)
        exact (owes_of_due hKind hBefore hDue).2
  -- the token is gone, and the record of the job with it complete
  | @erase _ held committed hCore hSubsides =>
    cases hBefore
    have hReplay : c'.tables.replay = (c.tables.releaseWorkToken job.workId).replay :=
      congrArg (fun k : Core => k.tables.replay) hCore
    have hPass : PassesBy c c' job id .left [] := .of_core (congrArg Core.history hCore)
      (hReplay.trans (c.tables.releaseWorkToken_replay _)) hRest.failed hRest.stopped
    refine hPass.stands ?_
    cases committed with
    | true => exact .inl h
    | false => exact .inr hFails
  -- a source open has no such course
  | startSource | returnSource | commitSource =>
    cases hBefore
    exact absurd hKind hSource

end Own

-- ---------------------------------------------------------------------------
-- The steps of other threads
-- ---------------------------------------------------------------------------

/-- The owner of an event is the identity it carries. -/
theorem WorkEvent.id_of_owner {event : WorkEvent} {id : CancellationId}
    (h : event.owner? = some id) : event.id? = some id := by
  cases event <;> simp_all [owner?, id?]

/-- The frames with a work id that a worker queues are for the job it holds,
which owes its terminal. -/
theorem WorkerMove.sent {pc pc' : WorkerPc} (h : WorkerMove env c pc pc' c') (hKind : pc.KindOk)
    (hReports : pc.Reports env c.history) {new : List WorkEvent}
    (hNew : c'.history = new ++ c.history) {owner : Option CancellationId} {frame : WorkFrame}
    (hSent : .enqueued owner frame ∈ new) :
    frame.workId? = none ∨ ∃ job, pc.job? = some job ∧ frame.workId? = some job.workId ∧
      job.kind ≠ .sourceOpen ∧ pc.stage.owes = true := by
  -- the frame is among the events this step has added
  have hEq : ∀ added : List WorkEvent, c'.history = added ++ c.history →
      .enqueued owner frame ∈ added := by
    intro added hAdded
    rw [hNew] at hAdded
    rwa [← List.append_cancel_right hAdded]
  have hNone : c'.history = c.history → False := fun hSame => by simpa using hEq [] hSame
  cases h with
  | exit | pop | leave => exact (hNone rfl).elim
  | quiet hJob hJob' hCore => exact (hNone (congrArg Core.history hCore)).elim
  | erase hCore hRest | finish hCore hRest | leaveSource hCore hRest =>
    exact (hNone (congrArg Core.history hCore)).elim
  | refuse now hJob hDue hCommit hResult hNext =>
    -- a refused commit queues nothing
    obtain ⟨hCommitted, -⟩ | ⟨-, hRefused⟩ := Client.commitTerminalFrame_cases hCommit
    · exact absurd hCommitted hResult
    · exact (hNone (congrArg Core.history hRefused.core)).elim
  | @accept job binding now =>
    -- `ACCEPTED` carries the identity of its operation
    have hOperation : job.kind = .operation := hKind
    have hMem := hEq [.enqueued job.cancellation _] rfl
    simp only [List.mem_singleton, WorkEvent.enqueued.injEq] at hMem
    obtain ⟨-, rfl⟩ := hMem
    exact .inr ⟨job, rfl, by simp, by simp [hOperation], rfl⟩
  | @startOperation job binding now =>
    have hOperation : job.kind = .operation := hKind
    refine .inr ⟨job, rfl, ?_, by simp [hOperation], rfl⟩
    -- so does `STARTED`, with a record of the start or without
    unfold Client.recordStarted at hEq
    split at hEq
    · have hMem := hEq [.started _ _ _ _, .enqueued job.cancellation _] rfl
      simp only [List.mem_cons, reduceCtorEq, WorkEvent.enqueued.injEq, List.not_mem_nil, or_false,
        false_or] at hMem
      obtain ⟨-, rfl⟩ := hMem
      simp
    · have hMem := hEq [.enqueued job.cancellation _] rfl
      simp only [List.mem_singleton, WorkEvent.enqueued.injEq] at hMem
      obtain ⟨-, rfl⟩ := hMem
      simp
  | startUnary hUnary | startSource =>
    -- starting and returning queue nothing
    unfold Client.recordStarted at hEq
    split at hEq
    · simpa using hEq [.started _ _ _ _] rfl
    · simpa using hEq [] rfl
  | returnUnary | returnOperation | returnSource =>
    unfold Client.recordReturned at hEq
    split at hEq
    · simpa using hEq [.returned _ _ _ _ _] rfl
    · simpa using hEq [] rfl
  | @commit _ _ job now due entry hJob hDue hNext hAdmits hEntry hLedger =>
    -- the terminal frame carries the identity of its job
    obtain ⟨hSource, hOwes⟩ := owes_of_due hKind hJob hDue
    have hMem := hEq [.enqueued job.cancellation due,
      .retained job.cancellation job.workId] rfl
    simp only [List.mem_cons, reduceCtorEq, WorkEvent.enqueued.injEq, List.not_mem_nil, or_false]
      at hMem
    obtain ⟨-, rfl⟩ := hMem
    exact .inr ⟨job, hJob, workId_dueTerminal hReports hJob hDue, hSource, hOwes⟩
  | @commitSource _ _ job decision _ hCommit hJob' hStage' =>
    -- the results of a source open carry none
    obtain ⟨-, rfl, -⟩ | ⟨source, hOwns, -, -, -, hCases⟩ := commitSourceOpen_cases hCommit
    · exact (hNone rfl).elim
    · obtain ⟨-, hRefused⟩ | ⟨-, -, rfl⟩ | ⟨-, -, digest, rfl⟩ := hCases
      · exact (hNone (congrArg Core.history hRefused.core)).elim
      · have hMem := hEq [.enqueued (some source.cancellation) _] rfl
        simp only [List.mem_singleton, WorkEvent.enqueued.injEq] at hMem
        obtain ⟨-, rfl⟩ := hMem
        exact .inl rfl
      · have hMem := hEq [.enqueued (some source.cancellation) _] rfl
        simp only [List.mem_singleton, WorkEvent.enqueued.injEq] at hMem
        obtain ⟨-, rfl⟩ := hMem
        exact .inl rfl

section Threads

variable {job : DispatchJob} {id : CancellationId} {stage : Stage}

/-- A job that owns its token has no retained terminal. -/
theorem Apart.replay_of_owns (h : Apart s) (hOwns : s.client.OwnsToken job) :
    s.client.tables.replay.lookup job.workId = none := by
  obtain ⟨token, hToken, -⟩ := hOwns
  exact h.disjoint _ (by simp [hToken])

/-- The step of a worker, for the jobs it does not hold. -/
theorem passesBy_worker (hReach : (machine env).Reachable s) (hOwned : Owned s) (hApart : Apart s)
    {i : Nat} {pc' : WorkerPc} (hMove : WorkerMove env s.client (s.workers i) pc' s'.client)
    (hId : job.cancellation = some id) (hOwes : stage.owes = true → s.Owes job)
    (hOther : ∀ held, (s.workers i).job? = some held → held.cancellation ≠ job.cancellation) :
    ∃ new, PassesBy s.client s'.client job id stage new := by
  have hKind := (shape_of_reachable hReach).kinds i
  obtain ⟨new, hNew, hIds⟩ := hMove.history
  have hSent := fun owner frame (hFrame : .enqueued owner frame ∈ new) =>
    hMove.sent hKind (reports_of_reachable hReach i) hNew hFrame
  refine ⟨new, hNew, ?_, hMove.subsides.failed, hMove.subsides.stopped, ?_, ?_, ?_⟩
  · intro event hEvent hOwner
    obtain ⟨held, hHeld, hEq⟩ := hIds event hEvent
    rw [WorkEvent.id_of_owner hOwner] at hEq
    exact hOther held hHeld (by rw [← hEq, hId])
  · rintro owner frame hFrame - rfl
    obtain ⟨held, hHeld, hEq⟩ := hIds _ hFrame
    exact hOther held hHeld (by rw [← hEq, hId]; rfl)
  · intro hStage owner frame hFrame hName
    obtain hNone | ⟨held, hHeld, hHeldName, hSource, hHeldOwes⟩ := hSent owner frame hFrame
    · rw [hNone] at hName
      cases hName
    · rw [hHeldName, Option.some.injEq] at hName
      obtain ⟨token, hToken, hOwn⟩ := hOwned job (hOwes hStage)
      obtain ⟨other, hOtherToken, hHeldOwn⟩ := hOwned held ⟨hSource, .inr ⟨i, hHeld, hHeldOwes⟩⟩
      rw [hName, hToken, Option.some.injEq] at hOtherToken
      exact hOther held hHeld (by rw [hHeldOwn, hOwn, hOtherToken])
  · intro entry hEntry
    refine .inr ⟨hMove.replay_kept hEntry, fun owner frame hFrame hName => ?_⟩
    obtain hNone | ⟨held, hHeld, hHeldName, hSource, hHeldOwes⟩ := hSent owner frame hFrame
    · rw [hNone] at hName
      cases hName
    · rw [hHeldName, Option.some.injEq] at hName
      have hFree := hApart.replay_of_owns (hOwned held ⟨hSource, .inr ⟨i, hHeld, hHeldOwes⟩⟩)
      rw [hName, hEntry] at hFree
      cases hFree

/-- The step of the Work reader. -/
theorem passesBy_reader (hReach : (machine env).Reachable s) (hOwned : Owned s) (hApart : Apart s)
    (hMove : ReaderMove env s.client s.workReader s'.workReader s'.client)
    (hId : job.cancellation = some id) (hHeld : s.Holds job)
    (hOwes : stage.owes = true → s.Owes job) :
    ∃ new, PassesBy s.client s'.client job id stage new := by
  have hJobs := jobs_of_reachable hReach
  have hKeyed := keyed_of_reachable hReach
  obtain ⟨new, hNew, hOwners, hSent, hReplay⟩ := hMove.adds hJobs.pending
  have hRest := hMove.subsides
  refine ⟨new, hNew, ?_, hRest.failed, hRest.stopped, ?_, ?_, ?_⟩
  · intro event hEvent hOwner
    obtain ⟨own, hOwn, hLess⟩ := hJobs.held job hHeld
    rw [hId, Option.some.injEq] at hOwn
    subst hOwn
    rcases hOwners event hEvent with hNone | hNext
    · rw [hNone] at hOwner
      cases hOwner
    · rw [hNext, Option.some.injEq] at hOwner
      exact Nat.ne_of_gt hLess hOwner
  · rintro owner frame hFrame hName rfl
    obtain hNone | ⟨hNone, -⟩ := hSent _ frame hFrame
    · rw [hNone] at hName
      cases hName
    · cases hNone
  · intro hStage owner frame hFrame hName
    have hOwns := hOwned job (hOwes hStage)
    obtain hNone | ⟨-, ⟨reason, hPending⟩ | ⟨immediate, hPending, -⟩⟩ := hSent owner frame hFrame
    · rw [hNone] at hName
      cases hName
    · obtain ⟨entry, hEntry, -⟩ := hKeyed.pending _ hPending job.workId hName
      rw [hApart.replay_of_owns hOwns] at hEntry
      cases hEntry
    · have hFiled : frame.workId? = some immediate.workId := hKeyed.pending _ hPending
      rw [hFiled, Option.some.injEq] at hName
      obtain ⟨token, hToken, -⟩ := hOwns
      rw [← hName, hApart.pending immediate frame hPending] at hToken
      cases hToken
  · intro entry hEntry
    rcases hReplay job.workId entry hEntry with hKept | hAcknowledged
    · refine .inr ⟨hKept, fun owner frame hFrame hName => ?_⟩
      obtain hNone | ⟨-, ⟨reason, hPending⟩ | ⟨immediate, hPending, hFree⟩⟩ :=
        hSent owner frame hFrame
      · rw [hNone] at hName
        cases hName
      · obtain ⟨other, hOther, hTerminal⟩ := hKeyed.pending _ hPending job.workId hName
        rw [hEntry, Option.some.injEq] at hOther
        rw [hOther, hTerminal]
      · have hFiled : frame.workId? = some immediate.workId := hKeyed.pending _ hPending
        rw [hFiled, Option.some.injEq] at hName
        rw [hName, hEntry] at hFree
        cases hFree
    · exact .inl hAcknowledged

/-- A call of the application. -/
theorem passesBy_call {new : List WorkEvent} (hNew : c'.history = new ++ c.history)
    (hFrames : ∀ event ∈ new, ∃ owner frame, event = .enqueued owner frame ∧ frame.workId? = none)
    (hReplay : c'.tables.replay = c.tables.replay) (hRest : c.Subsides c') :
    PassesBy c c' job id stage new where
  history := hNew
  foreign := by
    intro event hEvent hOwner
    obtain ⟨owner, frame, rfl, -⟩ := hFrames event hEvent
    cases hOwner
  failed := hRest.failed
  stopped := hRest.stopped
  others := by
    intro owner frame hFrame hName
    obtain ⟨owner', frame', hEq, hNone⟩ := hFrames _ hFrame
    cases hEq
    rw [hNone] at hName
    cases hName
  silent := by
    intro hStage owner frame hFrame hName
    obtain ⟨owner', frame', hEq, hNone⟩ := hFrames _ hFrame
    cases hEq
    rw [hNone] at hName
    cases hName
  kept := by
    intro entry hEntry
    refine .inr ⟨by rwa [hReplay], fun owner frame hFrame hName => ?_⟩
    obtain ⟨owner', frame', hEq, hNone⟩ := hFrames _ hFrame
    cases hEq
    rw [hNone] at hName
    cases hName

end Threads

-- ---------------------------------------------------------------------------
-- The invariant
-- ---------------------------------------------------------------------------

/-- The job was admitted, and what has been queued for it fits its stage. -/
def Courses (env : Env) (run : List (System × Action)) (c : Client) (job : DispatchJob)
    (stage : Stage) : Prop :=
  ∃ id, job.cancellation = some id ∧
    .admitted id job.kind job.workId job.fingerprint ∈ c.history ∧ Stands env run c job id stage

/-- Every unary and operation job that is queued or held is on its course. -/
structure OnCourse (env : Env) (run : List (System × Action)) (s : System) : Prop where
  queued : ∀ job ∈ s.client.queues.dispatch, job.kind ≠ .sourceOpen →
    Courses env run s.client job .fresh
  held : ∀ i job, (s.workers i).job? = some job → job.kind ≠ .sourceOpen →
    Courses env run s.client job (s.workers i).stage

/-- A step that passes every job of a worker by keeps its course. -/
theorem Courses.passes {job : DispatchJob} {stage : Stage} (h : Courses env run c job stage)
    (hPass : ∀ id, job.cancellation = some id → ∃ new, PassesBy c c' job id stage new) :
    Courses env (e :: run) c' job stage := by
  obtain ⟨id, hId, hAdmitted, hStands⟩ := h
  obtain ⟨new, hNew⟩ := hPass id hId
  refine ⟨id, hId, ?_, hNew.stands hStands⟩
  rw [hNew.history]
  exact List.mem_append_right _ hAdmitted

namespace OnCourse

theorem of_jobless (h : s.Jobless) : OnCourse env run s := by
  refine ⟨fun job hQueue => ?_, fun i job hJob => ?_⟩
  · rw [h.dispatch] at hQueue
    cases hQueue
  · rw [h.workers i] at hJob
    cases hJob

/-- A step that passes by every job that is queued or held. -/
theorem of_passes (h : OnCourse env run s) (hWorkers : s'.workers = s.workers)
    (hDispatch : s'.client.queues.dispatch = s.client.queues.dispatch ∨
      s'.client.queues.dispatch = [])
    (hPass : ∀ job id stage, job.kind ≠ .sourceOpen → job.cancellation = some id → s.Holds job →
      (stage.owes = true → s.Owes job) →
      ∃ new, PassesBy s.client s'.client job id stage new) : OnCourse env (e :: run) s' := by
  refine ⟨fun job hQueue hSource => ?_, fun i job hJob hSource => ?_⟩
  · rcases hDispatch with hEq | hEq <;> rw [hEq] at hQueue
    · exact (h.queued job hQueue hSource).passes fun id hId =>
        hPass job id .fresh hSource hId (.inl hQueue) fun _ => ⟨hSource, .inl hQueue⟩
    · cases hQueue
  · rw [hWorkers] at hJob ⊢
    exact (h.held i job hJob hSource).passes fun id hId =>
      hPass job id _ hSource hId (.inr ⟨i, hJob⟩) fun hOwes => ⟨hSource, .inr ⟨i, hJob, hOwes⟩⟩

/-- The step of a worker. -/
theorem workerStep (h : OnCourse env run s) (hRun : (machine env).Run run s) (hOwned : Owned s)
    (hApart : Apart s) {i : Nat} {input : WorkerInput} {pc' : WorkerPc}
    (hStep : Model.workerStep env s.client (s.workers i) input = some (pc', s'.client))
    (hWorkers : s'.workers = (s.setWorker i pc').workers) : OnCourse env (e :: run) s' := by
  have hReach := hRun.reachable
  have hMove := workerStep_cases hStep
  have hJobs := jobs_of_reachable hReach
  have hKind := (shape_of_reachable hReach).kinds i
  have hSelf : s'.workers i = pc' := by simp [hWorkers, System.setWorker]
  -- a job that stays queued is not the one the worker holds
  have hQueued : ∀ job ∈ s.client.queues.dispatch, job.kind ≠ .sourceOpen →
      Courses env (e :: run) s'.client job .fresh := fun job hQueue hSource =>
    (h.queued job hQueue hSource).passes fun id hId =>
      passesBy_worker hReach hOwned hApart hMove hId (fun _ => ⟨hSource, .inl hQueue⟩)
        fun held hHeld => hJobs.mixed i held job hHeld hQueue
  refine ⟨fun job hQueue hSource => hQueued job ?_ hSource, fun j job hJob hSource => ?_⟩
  · obtain ⟨popped, hEq, -, -⟩ | ⟨hEq, -⟩ := hMove.dispatch
    · rw [hEq]
      exact List.mem_cons_of_mem _ hQueue
    · rwa [hEq] at hQueue
  · by_cases hj : j = i
    · subst hj
      rw [hSelf] at hJob ⊢
      obtain ⟨popped, hEq, -, rfl⟩ | ⟨-, hSame | hNone⟩ := hMove.dispatch
      · cases hJob
        exact hQueued job (by rw [hEq]; exact List.mem_cons_self) hSource
      · rw [hSame] at hJob
        obtain ⟨id, hId, hAdmitted, hStands⟩ := h.held j job hJob hSource
        obtain ⟨new, hNew, -⟩ := hMove.history
        refine ⟨id, hId, by rw [hNew]; exact List.mem_append_right _ hAdmitted, ?_⟩
        exact stands_workerMove hMove hJob (hSame.trans hJob) hId hKind
          (kindOk_workerStep hKind hStep) hSource (reports_of_reachable hReach j)
          (decided_of_run hRun j) (fails_of_reachable hReach j) hStands
      · rw [hNone] at hJob
        cases hJob
    · have hSame : s'.workers j = s.workers j := by simp [hWorkers, System.setWorker, hj]
      rw [hSame] at hJob ⊢
      exact (h.held j job hJob hSource).passes fun id hId =>
        passesBy_worker hReach hOwned hApart hMove hId
          (fun hOwes => ⟨hSource, .inr ⟨j, hJob, hOwes⟩⟩)
          fun held hHeld => hJobs.workers i j held job (Ne.symm hj) hHeld hJob

/-- The step of the Work reader: a job it admits has nothing queued yet. -/
theorem readerStep (h : OnCourse env run s) (hReach : (machine env).Reachable s) (hOwned : Owned s)
    (hApart : Apart s) (hMove : ReaderMove env s.client s.workReader s'.workReader s'.client)
    (hWorkers : s'.workers = s.workers) : OnCourse env (e :: run) s' := by
  have hJobs := jobs_of_reachable hReach
  have hQueued : ∀ job ∈ s.client.queues.dispatch, job.kind ≠ .sourceOpen →
      Courses env (e :: run) s'.client job .fresh := fun job hQueue hSource =>
    (h.queued job hQueue hSource).passes fun id hId =>
      passesBy_reader hReach hOwned hApart hMove hId (.inl hQueue) fun _ => ⟨hSource, .inl hQueue⟩
  refine ⟨fun job hQueue hSource => ?_, fun i job hJob hSource => ?_⟩
  · obtain hEq | ⟨request, reservation, hRequest, hVerdict, hClient, -⟩ |
      ⟨request, now, index, endpoint, bytes, hRequest, hVerdict, hClient⟩ := hMove.dispatch
    · exact hQueued job (by rwa [hEq] at hQueue) hSource
    · have hFresh : Foreign s.client.nextCancellation s.client.history := by
        intro event hEvent hOwner
        exact Nat.lt_irrefl _ (hJobs.history event hEvent _ (WorkEvent.id_of_owner hOwner))
      have hBefore : s'.client.queues.dispatch = s.client.queues.dispatch ++
          [request.admittedAs s.client.nextCancellation reservation] := by
        rw [hClient]
        rfl
      rw [hBefore, List.mem_append, List.mem_singleton] at hQueue
      rcases hQueue with hQueue | rfl
      · exact hQueued job hQueue hSource
      · have hHistory : s'.client.history = .admitted s.client.nextCancellation request.kind
            request.workId request.fingerprint :: s.client.history := by
          rw [hClient]
          rfl
        refine ⟨s.client.nextCancellation, rfl, ?_, ?_, ?_, ?_⟩
        · rw [hHistory]
          exact List.mem_cons_self
        · have hStarted := hFresh.started.not.mpr
            (show ¬Started s.client.nextCancellation [] by simp [Started])
          rw [hHistory]
          simpa [Started, WorkEvent.starts] using hStarted
        · have hCommits : commitsOf s.client.nextCancellation (s.client.history ++ []) = 0 :=
            hFresh.commitsOf
          rw [hHistory]
          simpa [commitsOf, WorkEvent.retains] using hCommits
        · rw [hHistory, framesSince, eventsSince_admitted]
          rfl
    · have hBefore : s'.client.queues.dispatch = s.client.queues.dispatch ++
          [request.openedAs s.client.nextCancellation
            s.client.session.connectionEpochCounter] := by
        rw [hClient]
        rfl
      rw [hBefore, List.mem_append, List.mem_singleton] at hQueue
      rcases hQueue with hQueue | rfl
      · exact hQueued job hQueue hSource
      · exact absurd hRequest.kind hSource
  · rw [hWorkers] at hJob ⊢
    exact (h.held i job hJob hSource).passes fun id hId =>
      passesBy_reader hReach hOwned hApart hMove hId (.inr ⟨i, hJob⟩)
        fun hOwes => ⟨hSource, .inr ⟨i, hJob, hOwes⟩⟩

end OnCourse

/-- Every run that keeps its course is on course. -/
theorem onCourse_of_run (h : (machine env).Run run s)
    (hKeeps : ∀ e ∈ run, keepsCourse e.1 e.2) : OnCourse env run s := by
  refine h.invariant
    (I := fun run s => (∀ e ∈ run, keepsCourse e.1 e.2) → OnCourse env run s)
    (fun _ => .of_jobless ⟨rfl, fun _ => rfl⟩) ?_ hKeeps
  intro run s a s' hRun hBefore hStep hKeeps
  have hEarlier := fun e he => hKeeps e (List.mem_cons_of_mem _ he)
  have hCourse := hBefore hEarlier
  have hReach := hRun.reaches hEarlier
  have hOwned := owned_of_reaches (hReach.mono fun _ _ hCond => hCond.1)
  have hApart := apart_of_reaches hReach
  cases planeMove_of_step (shape_of_reachable hReach.reachable) hStep with
  | worker hAction hWorker hMove hWorkers hReader hHolds =>
    exact hCourse.workerStep hRun hOwned hApart hWorker hWorkers
  | reader hAction hMove hWorkers hWork =>
    exact hCourse.readerStep hReach.reachable hOwned hApart hMove hWorkers
  | publish hAction hClient hWorkers hReader =>
    refine hCourse.of_passes hWorkers (.inl (by rw [hClient]; exact tokens_publishSource.2)) ?_
    intro job id stage _ _ _ _
    obtain ⟨new, hNew, hFrames⟩ := adds_publishSource _ _
    rw [hClient]
    exact ⟨new, passesBy_call hNew hFrames (congrArg LedgerPart.replay ledger_publishSource)
      subsides_publishSource⟩
  | close hAction hClient hWorkers hReader =>
    refine hCourse.of_passes hWorkers (.inl (by rw [hClient]; exact tokens_closeSource.2)) ?_
    intro job id stage _ _ _ _
    obtain ⟨new, hNew, hFrames⟩ := adds_closeSource _ _
    rw [hClient]
    exact ⟨new, passesBy_call hNew hFrames (congrArg LedgerPart.replay ledger_closeSource)
      subsides_closeSource⟩
  | quiet hCore hSteady hWorkers hReader =>
    exact hCourse.of_passes hWorkers (.inl (congrArg Core.dispatch hCore))
      fun _ _ _ _ _ _ _ => ⟨[], .of_core (congrArg Core.history hCore)
        (congrArg (fun k : Core => k.tables.replay) hCore) hSteady.failed hSteady.stopped⟩
  | deactivate hCore hSteady hWorkers hReader hControl =>
    exact hCourse.of_passes hWorkers (.inl (congrArg Core.dispatch hCore))
      fun _ _ _ _ _ _ _ => ⟨[], .of_core (congrArg Core.history hCore)
        (congrArg (fun k : Core => k.tables.replay) hCore) hSteady.failed hSteady.stopped⟩
  | drop hPhase hCore hSteady hWorkers hReader =>
    exact hCourse.of_passes hWorkers (.inr (congrArg Core.dispatch hCore))
      fun _ _ _ _ _ _ _ => ⟨[], .of_core (congrArg Core.history hCore)
        (congrArg (fun k : Core => k.tables.replay) hCore) hSteady.failed hSteady.stopped⟩
  | release hPhase hNone hNone' hCore hReader => exact .of_jobless hNone'
  | outside hPhase hNone hNone' => exact .of_jobless hNone'

/-- The worker is past the terminal of its job and about to let go of it. -/
def WorkerPc.finishing : WorkerPc → Bool
  | .eraseToken _ _ | .leave _ | .finish _ _ => true
  | _ => false

/-- In a run in which requests for active identities find the client ready and
releases are of own tokens: until a job commits its terminal, only its own `ACCEPTED`
and `STARTED` are queued for its work id. The commit queues and retains one outcome
of the job itself, which a step of the run decided. After it the job queues nothing,
and until the terminal is acknowledged, only that terminal is queued again. A worker
that lets go of a job on a pair that is neither failed nor being stopped has
committed. -/
theorem own_terminal (h : (machine env).Run run s) (hKeeps : ∀ e ∈ run, keepsCourse e.1 e.2)
    {job : DispatchJob} (hHeld : s.Holds job) (hKind : job.kind ≠ .sourceOpen) :
    ∃ id, job.cancellation = some id ∧
      .admitted id job.kind job.workId job.fingerprint ∈ s.client.history ∧
      (s.Owes job → Unanswered s.client job id) ∧
      (∀ i, (s.workers i).job? = some job → (s.workers i).stage = .committed →
        Answered env run s.client job id) ∧
      (∀ i, (s.workers i).job? = some job → (s.workers i).finishing = true →
        s.client.flags.sessionFailed = false → s.client.flags.stopRequested = false →
        Answered env run s.client job id) := by
  have hCourse := onCourse_of_run h hKeeps
  have hJobs := jobs_of_reachable h.reachable
  obtain ⟨id, hId, hLess⟩ := hJobs.held job hHeld
  -- the job has one identity, whichever part of the invariant names it
  have hSame : ∀ {stage : Stage}, Courses env run s.client job stage →
      .admitted id job.kind job.workId job.fingerprint ∈ s.client.history ∧
        Stands env run s.client job id stage := by
    rintro stage ⟨own, hOwn, hAdmitted, hStands⟩
    rw [hId, Option.some.injEq] at hOwn
    subst hOwn
    exact ⟨hAdmitted, hStands⟩
  have hWorker : ∀ i, (s.workers i).job? = some job →
      .admitted id job.kind job.workId job.fingerprint ∈ s.client.history ∧
        Stands env run s.client job id (s.workers i).stage :=
    fun i hJob => hSame (hCourse.held i job hJob hKind)
  refine ⟨id, hId, ?_, ?_, ?_, ?_⟩
  · rcases hHeld with hQueue | ⟨i, hJob⟩
    · exact (hSame (hCourse.queued job hQueue hKind)).1
    · exact (hWorker i hJob).1
  · rintro ⟨-, hQueue | ⟨i, hJob, hOwes⟩⟩
    · exact unanswered_of_stands (hSame (hCourse.queued job hQueue hKind)).2 rfl
    · exact unanswered_of_stands (hWorker i hJob).2 hOwes
  · intro i hJob hStage
    have hStands := (hWorker i hJob).2
    rwa [hStage] at hStands
  · intro i hJob hFinishing hLive hRunning
    have hStands := (hWorker i hJob).2
    have hFails := fails_of_reachable h.reachable i
    have hNot : ¬(s.client.flags.sessionFailed = true ∨ s.client.flags.stopRequested = true) := by
      simp [hLive, hRunning]
    cases hPc : s.workers i with
    | eraseToken held committed | finish held committed =>
      rw [hPc] at hStands hFails
      cases committed with
      | true => exact hStands
      | false => exact absurd hFails hNot
    | leave held =>
      rw [hPc] at hStands
      exact hStands.resolve_right hNot
    | _ => simp [hPc, WorkerPc.finishing] at hFinishing

section Runs

open Deployment

/-- The worker takes an operation, runs it and commits its terminal. -/
def Deployment.runOperation (i : Nat) : List Action :=
  worker i 6 ++ .worker i (.operationOutcome (.value {})) :: worker i 2

/-- The run keeps the course. -/
def coursed (run : List (System × Action)) : Bool :=
  run.all fun e => decide (keepsCourse e.1 e.2)

/-- The check of a run, step by step. -/
theorem keepsCourse_of_coursed (h : coursed run = true) : ∀ e ∈ run, keepsCourse e.1 e.2 := by
  intro e he
  simpa using List.all_eq_true.mp h e he

/-- An operation has been answered, and its worker is about to finish it: `ACCEPTED`,
`STARTED` and its terminal have been queued. -/
theorem own_terminal_answered :
    ∃ run s job id accepted started terminal, (machine deployment).Run run s ∧
      (∀ e ∈ run, keepsCourse e.1 e.2) ∧ s.Holds job ∧ job.kind = .operation ∧
      job.cancellation = some id ∧
      framesSince id job.workId s.client.history =
        [(some id, operationFrame accepted job.workId .accepted),
          (some id, operationFrame started job.workId .started), (some id, terminal)] ∧
      Answered deployment run s.client job id := by
  obtain ⟨run, s, hRun, hCheck⟩ := (machine deployment).exists_run_of_record
    (bringUp ++ hostFrame 1 1 (operationRequestFrame "m") ++ runOperation 0)
    (fun run s => coursed run && ((s.workers 0).job?.any fun job => job.kind == .operation &&
        job.cancellation == some 0 && framesSince 0 job.workId s.client.history ==
          [(some 0, operationFrame 0 job.workId .accepted),
            (some 0, operationFrame 0 job.workId .started),
            (some 0, operationTerminal 0 job.workId {})]) &&
      (s.workers 0).stage == .committed) (by decide +kernel)
  simp only [Bool.and_eq_true, Option.any_eq_true, beq_iff_eq] at hCheck
  obtain ⟨⟨hCoursed, job, hJob, ⟨hOperation, hId⟩, hFrames⟩, hStage⟩ := hCheck
  have hKeeps := keepsCourse_of_coursed hCoursed
  obtain ⟨id, hId', -, -, hAnswered, -⟩ :=
    own_terminal hRun hKeeps (.inr ⟨0, hJob⟩) (by simp [hOperation])
  rw [hId, Option.some.injEq] at hId'
  subst hId'
  exact ⟨run, s, job, 0, 0, 0, _, hRun, hKeeps, .inr ⟨0, hJob⟩, hOperation, hId, hFrames,
    hAnswered 0 hJob hStage⟩

/-- A query is sent again between the commit of its terminal and the moment its
worker finishes: its terminal is on the Work queue twice. -/
theorem own_terminal_replayed :
    ∃ run s job, (machine deployment).Run run s ∧ (∀ e ∈ run, keepsCourse e.1 e.2) ∧
      (s.workers 0).job? = some job ∧ (s.workers 0).finishing = true ∧ job.kind = .unary ∧
      job.cancellation = some 0 ∧ s.client.flags.sessionFailed = false ∧
      s.client.flags.stopRequested = false ∧
      framesSince 0 job.workId s.client.history =
        [(some 0, answer "w"), (none, answer "w")] := by
  obtain ⟨run, s, hRun, hCheck⟩ := (machine deployment).exists_run_of_record
    (bringUp ++ hostFrame 1 1 (unaryFrame "w") ++ runQuery 0 ++ worker 0 1 ++
      hostFrame 1 2 (unaryFrame "w"))
    (fun run s => coursed run && ((s.workers 0).job?.any fun job => job.kind == .unary &&
      job.cancellation == some 0 && framesSince 0 job.workId s.client.history ==
        [(some 0, answer "w"), (none, answer "w")]) &&
      (s.workers 0).finishing && !s.client.flags.sessionFailed &&
      !s.client.flags.stopRequested) (by decide +kernel)
  simp only [Bool.and_eq_true, Option.any_eq_true, beq_iff_eq, Bool.not_eq_true'] at hCheck
  obtain ⟨⟨⟨⟨hCoursed, job, hJob, ⟨hKind, hId⟩, hFrames⟩, hFinishing⟩, hLive⟩, hRunning⟩ := hCheck
  exact ⟨run, s, job, hRun, keepsCourse_of_coursed hCoursed, hJob, hFinishing, hKind, hId, hLive,
    hRunning, hFrames⟩

end Runs

end AdapterRuntime.Model
