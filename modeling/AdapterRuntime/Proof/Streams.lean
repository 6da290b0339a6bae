import AdapterRuntime.Proof.Outbound
import AdapterRuntime.Proof.Epochs
import AdapterRuntime.Proof.PairLife

/-!
# AdapterRuntime — the Work stream of a pair

Successive pairs share the queues, the counters and the flags. `openedFences`
reads the pairs off a run; `sentOn` is what was queued for Work while the
supervisor waited on a pair, and `writtenOn` what was written on its Work stream.

* `newest_of_run` — the fence in use is that of the newest pair.
* `outboxes_of_run` — what is written on a pair was queued for it, in order.
-/

namespace AdapterRuntime.Model

open AdapterRuntime.Lib

variable {env : Env} {c c' : Client} {s s' : System} {steps : List (System × Action)}

-- ---------------------------------------------------------------------------
-- The pairs of a run
-- ---------------------------------------------------------------------------

/-- The fence the supervisor is about to prepare a pair with. -/
def System.openingFence? (s : System) : Action → Option SessionFence
  | .supervisor .tick =>
    match s.supervisor with
    | .prepare r => some { r.fence with connectionEpoch := s.client.session.connectionEpochCounter }
    | _ => none
  | _ => none

/-- The fences of the pairs of a run, newest first. -/
def openedFences : List (System × Action) → List SessionFence
  | [] => []
  | (s, a) :: steps =>
    match s.openingFence? a with
    | some fence => fence :: openedFences steps
    | none => openedFences steps

/-- A step opens a pair exactly when it prepares a fence, with the epoch of the counter. -/
theorem opensPair_of_openingFence (s : System) (a : Action) :
    s.opensPair a = (s.openingFence? a).isSome ∧
      ∀ fence, s.openingFence? a = some fence →
        fence.connectionEpoch = s.client.session.connectionEpochCounter := by
  cases a with
  | supervisor input =>
    cases input with
    | tick =>
      cases hPc : s.supervisor <;>
        simp [System.opensPair, System.openingFence?, SupervisorPc.opensPair, hPc]
    | registered => exact ⟨rfl, by simp [System.openingFence?]⟩
  | start | startThreads | startReturns | stop | stopper | publishSource | closeSource
  | worker | workReader | workWriter | controlReader | controlWriter =>
    exact ⟨rfl, by simp [System.openingFence?]⟩

/-- The pairs are those whose epochs are counted. -/
theorem openedFences_epochs (env : Env) :
    (openedFences steps).map (·.connectionEpoch) = (attempts env steps).map (·.epoch) := by
  induction steps with
  | nil => rfl
  | cons step steps ih =>
    obtain ⟨s, a⟩ := step
    obtain ⟨hOpens, hEpoch⟩ := opensPair_of_openingFence s a
    have hAcknowledge : ∀ pairs : List Attempt,
        (acknowledgeNewest pairs).map (·.epoch) = pairs.map (·.epoch) := by
      intro pairs
      cases pairs <;> rfl
    rw [openedFences, attempts, hOpens]
    cases hFence : s.openingFence? a with
    | none =>
      simp only [Option.isSome_none, Bool.false_eq_true, if_false]
      split
      · rw [hAcknowledge, ih]
      · exact ih
    | some fence =>
      simp only [Option.isSome_some, if_true, List.map_cons, ih, hEpoch fence hFence]

/-- Numbered pairs have the epochs up to their number. -/
theorem Numbered.epoch_le : ∀ {pairs : List Attempt}, Numbered pairs →
    ∀ pair ∈ pairs, pair.epoch ≤ pairs.length
  | [], _, _, hMem => by cases hMem
  | newest :: older, h, pair, hMem => by
    obtain rfl | hMem := List.mem_cons.mp hMem
    · rw [h.1, List.length_cons]
    · exact (Numbered.epoch_le h.2 pair hMem).trans (Nat.le_succ _)

/-- A pair of a run has an epoch of its own. -/
theorem Numbered.nodup : ∀ {pairs : List Attempt}, Numbered pairs → (pairs.map (·.epoch)).Nodup
  | [], _ => List.nodup_nil
  | newest :: older, h => by
    refine List.nodup_cons.mpr ⟨fun hMem => ?_, Numbered.nodup h.2⟩
    obtain ⟨pair, hPair, hEq⟩ := List.mem_map.mp hMem
    have hLe := h.2.epoch_le pair hPair
    have hNewest : pair.epoch = older.length + 1 := hEq.trans h.1
    omega

/-- No two pairs have the same epoch. -/
theorem epochs_nodup (h : (machine env).Run steps s) :
    ((openedFences steps).map (·.connectionEpoch)).Nodup := by
  rw [openedFences_epochs env]
  exact (numbered_of_run h).nodup

/-- The step that opens a pair prepares it. -/
theorem opening_of_step {a : Action} {fence : SessionFence} (hStep : s.step env a = some s')
    (h : s.openingFence? a = some fence) :
    ∃ r, s.supervisor = .prepare r ∧ s'.supervisor = .awaitAttach r fence ∧
      s'.client = s.client.prepareConnectionPair fence ∧ s'.workReader = .notStarted ∧
      s'.workWriter = s.workWriter ∧ s'.controlWriter = s.controlWriter ∧
      s'.controlReader = .opening fence := by
  cases a with
  | supervisor input =>
    cases input with
    | tick =>
      cases hPc : s.supervisor <;> simp only [System.openingFence?, hPc, reduceCtorEq] at h
      cases h
      simp only [System.step, System.supervisorAction, hPc, supervisorStep, Option.map_some,
        Option.some.injEq] at hStep
      subst hStep
      refine ⟨_, rfl, rfl, rfl, ?_⟩
      simp [System.spawn, hPc]
    | registered => cases h
  | start | startThreads | startReturns | stop | stopper | publishSource | closeSource
  | worker | workReader | workWriter | controlReader | controlWriter => cases h

/-- Only the step that opens it begins a pair. -/
theorem opening_of_prepare {a : Action} {r : Supervision} {fence : SessionFence}
    (hStep : s.step env a = some s') (hPc : s.supervisor = .prepare r)
    (hPc' : s'.supervisor = .awaitAttach r fence) : s.openingFence? a = some fence := by
  obtain ⟨rfl, -⟩ := prepare_of_step hStep hPc hPc'
  cases System.step_cases hStep with
  | worker | workReader | controlReader | workWriter | controlWriter | publishSource | closeSource
  | flags | joinWorkers | stopDeactivate | stopReset =>
    rw [show s.supervisor = _ from hPc'] at hPc
    cases hPc
  | startThreads | joinSupervisor => cases hPc'
  | @supervisor input _ _ hSupervisor =>
    cases input with
    | tick => simp only [System.openingFence?, hPc]
    | registered =>
      rw [hPc] at hSupervisor
      cases hSupervisor

/-- The fence in use is that of the newest pair. -/
theorem newest_of_run (h : (machine env).Run steps s) :
    ∀ fence, s.UsesFence fence → (openedFences steps).head? = some fence := by
  refine Machine.Run.invariant (M := machine env) (I := fun steps s => ∀ fence,
    s.UsesFence fence → (openedFences steps).head? = some fence) ?_ ?_ h
  · intro fence hUsed
    cases hUsed with
    | workReader hFence | controlReader hFence | workWriter hFence | controlWriter hFence
    | supervisor hFence => cases hFence
  · intro steps s a s' hRun ih hStep fence hUsed
    rw [openedFences]
    cases hOpening : s.openingFence? a with
    | some opened =>
      -- no older fence is in use when a pair is prepared
      obtain ⟨r, hPc, hPc', -⟩ := opening_of_step hStep hOpening
      obtain hBefore | ⟨r', hPrepare, hAwait⟩ := usesFence_of_step hStep hUsed
      · have hPhase : s.supervisor.phase = .outside := by rw [hPc]; rfl
        exact absurd hBefore ((shape_of_reachable hRun.reachable).threads.no_fence hPhase fence)
      · rw [hPc'] at hAwait
        cases hAwait
        rfl
    | none =>
      obtain hBefore | ⟨r, hPrepare, hAwait⟩ := usesFence_of_step hStep hUsed
      · exact ih fence hBefore
      · rw [opening_of_prepare hStep hPrepare hAwait] at hOpening
        cases hOpening

-- ---------------------------------------------------------------------------
-- What is queued and written
-- ---------------------------------------------------------------------------

/-- The frames a step puts on the Work queue, newest first. -/
def System.enqueues (env : Env) (s : System) (a : Action) : List WorkFrame :=
  match s.step env a with
  | some s' =>
    s'.client.wire.queued.take (s'.client.wire.queued.length - s.client.wire.queued.length)
  | none => []

/-- The epoch of the pair the supervisor has prepared and waits on. -/
def System.pairEpoch? (s : System) : Option Nat :=
  s.supervisor.pairFence?.map (·.connectionEpoch)

/-- The frames queued for Work while the supervisor waited on the pair of this epoch,
newest first. -/
def sentOn (env : Env) (epoch : Nat) : List (System × Action) → List WorkFrame
  | [] => []
  | (s, a) :: steps =>
    if s.pairEpoch? = some epoch then s.enqueues env a ++ sentOn env epoch steps
    else sentOn env epoch steps

/-- A frame written on the Work stream of this epoch. -/
def LifecycleEvent.workFrame? (epoch : Nat) : LifecycleEvent → Option (SessionHeader × WorkFrame)
  | .workWritten e header frame => if e = epoch then some (header, frame) else none
  | _ => none

/-- The frames written on the Work stream of this epoch, newest first. -/
def Client.writtenOn (c : Client) (epoch : Nat) : List (SessionHeader × WorkFrame) :=
  c.trace.filterMap (LifecycleEvent.workFrame? epoch)

/-- Frames with the headers of their places on a stream, newest first. -/
def stamped (env : Env) (fence : SessionFence) : List WorkFrame → List (SessionHeader × WorkFrame)
  | [] => []
  | frame :: older =>
    (stampHeader env fence fence.connectionEpoch (older.length + 1), frame) ::
      stamped env fence older

/-- What is written on a Work stream: nothing, or a `WorkAttach` and the first frames
queued for the pair, numbered from one. -/
def InOrder (env : Env) (fence : SessionFence) (written : List (SessionHeader × WorkFrame))
    (sent : List WorkFrame) : Prop :=
  written = [] ∨ ∃ revision digest frames,
    written = stamped env fence (frames ++ [.attach revision digest]) ∧ frames <:+ sent

/-- Frames that wait behind the written ones stay in order. -/
theorem InOrder.sent {fence : SessionFence} {written : List (SessionHeader × WorkFrame)}
    {sent : List WorkFrame} (h : InOrder env fence written sent) (new : List WorkFrame) :
    InOrder env fence written (new ++ sent) := by
  obtain h | ⟨revision, digest, frames, hWritten, hSuffix⟩ := h
  · exact .inl h
  · exact .inr ⟨revision, digest, frames, hWritten, hSuffix.trans (List.suffix_append _ _)⟩

/-- The Work reader has not opened its stream. -/
def WorkReaderPc.unopened : WorkReaderPc → Bool
  | .notStarted | .opening _ => true
  | _ => false

/-- Nothing was written on the stream, and all that was queued for the pair still is. -/
def Unsent (written : List (SessionHeader × WorkFrame)) (sent queue : List WorkFrame) : Prop :=
  written = [] ∧ sent = queue.reverse

/-- `frames` is what the stream carries after its `WorkAttach`. -/
def Carries (env : Env) (fence : SessionFence) (written : List (SessionHeader × WorkFrame))
    (frames : List WorkFrame) : Prop :=
  ∃ revision digest, written = stamped env fence (frames ++ [.attach revision digest])

/-- What the Work writer of a pair has done with the frames queued for it: `sent` is what
was queued and `written` what it wrote, both newest first, `queue` is what waits and
`sequence` the number of the last header. -/
def WorkWriterPc.Owes (env : Env) (fence : SessionFence)
    (written : List (SessionHeader × WorkFrame)) (sent queue : List WorkFrame) (sequence : Nat) :
    WorkWriterPc → Prop
  | .attach _ => Unsent written sent queue ∧ sequence = 0
  | .writingAttach _ header frame => Unsent written sent queue ∧ sequence = 1 ∧
    header = stampHeader env fence fence.connectionEpoch 1 ∧
    ∃ revision digest, frame = .attach revision digest
  | .markReady _ | .loop _ => ∃ frames, Carries env fence written frames ∧
    sequence = frames.length + 1 ∧ sent = queue.reverse ++ frames
  | .writing _ header frame => ∃ frames, Carries env fence written frames ∧
    sequence = frames.length + 2 ∧
    header = stampHeader env fence fence.connectionEpoch (frames.length + 2) ∧
    sent = queue.reverse ++ frame :: frames
  | _ => True

/-- The frames waiting on the Work queue, oldest first. -/
def Client.waitingWork (c : Client) : List WorkFrame := c.queues.work.map (·.request)

/-- The Work stream of the pair the supervisor has prepared. -/
structure Outbox (env : Env) (fence : SessionFence) (s : System) (sent : List WorkFrame) :
    Prop where
  opening : s.supervisor.phase = .opening → s.workReader = .notStarted
  unopened : s.workReader.unopened = true →
    Unsent (s.client.writtenOn fence.connectionEpoch) sent s.client.waitingWork ∧
      s.client.session.workOutSequence = 0
  writer : s.workWriter.Owes env fence (s.client.writtenOn fence.connectionEpoch) sent
    s.client.waitingWork s.client.session.workOutSequence
  order : InOrder env fence (s.client.writtenOn fence.connectionEpoch) sent

-- ---------------------------------------------------------------------------
-- Steps that do not write Work frames
-- ---------------------------------------------------------------------------

/-- What was written on a pair is read off the trace. -/
theorem Client.writtenOn_wire (c : Client) (epoch : Nat) :
    c.writtenOn epoch = c.wire.written.filterMap (LifecycleEvent.workFrame? epoch) := by
  unfold writtenOn wire
  rw [List.filterMap_filter]
  refine List.filterMap_congr fun event _ => ?_
  cases event <;> simp [LifecycleEvent.workFrame?, LifecycleEvent.written]

theorem Client.writtenOn_congr (h : c'.wire.written = c.wire.written) (epoch : Nat) :
    c'.writtenOn epoch = c.writtenOn epoch := by
  rw [writtenOn_wire, writtenOn_wire, h]

/-- The client queues `new`, oldest first, and writes no Work frame. -/
structure Client.Queues (c c' : Client) (new : List WorkFrame) : Prop where
  work : c'.queues.work.map (·.request) = c.queues.work.map (·.request) ++ new
  queued : c'.wire.queued = new.reverse ++ c.wire.queued
  live : new ≠ [] → c.sessionClosed = false
  sequence : c'.session.workOutSequence = c.session.workOutSequence
  written : ∀ epoch, c'.writtenOn epoch = c.writtenOn epoch

theorem Client.Queues.of_wire (h : c'.wire = c.wire) : c.Queues c' [] where
  work := by rw [show c'.queues.work = c.queues.work from congrArg Wire.work h, List.append_nil]
  queued := by rw [h]; rfl
  live := fun hNot => absurd rfl hNot
  sequence := congrArg (fun w : Wire => w.session.workOutSequence) h
  written := Client.writtenOn_congr (by rw [h])

theorem Client.Feed.queues (h : c.Feed env c') : ∃ new, c.Queues c' new := by
  cases h with
  | nothing hWire => exact ⟨[], .of_wire hWire⟩
  | work frame hAdmits hWire =>
    have hWork : c'.queues.work = c.queues.work ++ [⟨frame, c.workFrameBytes env frame⟩] :=
      congrArg Wire.work hWire
    simp only [Client.workAdmits, Bool.and_eq_true, Bool.not_eq_true'] at hAdmits
    refine ⟨[frame], by rw [hWork, List.map_append]; rfl, congrArg Wire.queued hWire,
      fun _ => hAdmits.1.1, congrArg (fun w : Wire => w.session.workOutSequence) hWire,
      Client.writtenOn_congr (by rw [hWire])⟩
  | control frame _ hWire =>
    have hWork : c'.queues.work = c.queues.work := congrArg Wire.work hWire
    have hQueued : c'.wire.queued = c.wire.queued := by rw [hWire]
    refine ⟨[], by rw [hWork, List.append_nil], by rw [hQueued]; rfl,
      fun hNot => absurd rfl hNot, congrArg (fun w : Wire => w.session.workOutSequence) hWire,
      Client.writtenOn_congr (by rw [hWire])⟩

theorem ControlWrite.queues {pc pc' : ControlWriterPc} (h : ControlWrite env c pc pc' c') :
    c.Queues c' [] := by
  cases h with
  | quiet _ _ hWire => exact .of_wire hWire
  | wrote =>
    exact ⟨by rw [List.append_nil]; rfl, rfl, fun hNot => absurd rfl hNot, rfl, fun _ => rfl⟩
  | dequeue _ _ hWire | heartbeat _ hWire =>
    have hWork : c'.queues.work = c.queues.work := congrArg Wire.work hWire
    have hQueued : c'.wire.queued = c.wire.queued := by rw [hWire]
    refine ⟨by rw [hWork, List.append_nil], by rw [hQueued]; rfl,
      fun hNot => absurd rfl hNot, congrArg (fun w : Wire => w.session.workOutSequence) hWire,
      Client.writtenOn_congr (by rw [hWire])⟩

/-- What a step inside a pair is for the Work stream of the pair. -/
inductive StreamMove (env : Env) (s s' : System) : Prop
  | queues (new : List WorkFrame) (hQueues : s.client.Queues s'.client new)
      (hWriter : s'.workWriter = s.workWriter ∨
        s.workReader.unopened = true ∧ ∃ held, s'.workWriter = .attach held)
      (hReader : s'.workReader.unopened = true →
        s.workReader.unopened = true ∨ s.supervisor.phase = .opening)
      (hOpening : s'.supervisor.phase = .opening →
        s.supervisor.phase = .opening ∧ s'.workReader = s.workReader)
  | writes (hWrite : WorkWrite env s.client s.workWriter s'.workWriter s'.client)
      (hReader : s'.workReader = s.workReader) (hSupervisor : s'.supervisor = s.supervisor)

/-- A Work reader that takes a step has been opened. -/
theorem workReaderStep_unopened {pc pc' : WorkReaderPc} {input : ReaderInput WorkResponse}
    (h : workReaderStep env c pc input = some (pc', c')) : pc'.unopened = false := by
  cases workReaderStep_branch h with
  | followUp hFollow => cases followUpStep_branch hFollow <;> rfl
  | _ => rfl

/-- A step inside a pair, by what it does to the Work stream. -/
theorem streamMove_of_step {a : Action} (hReach : (machine env).Reachable s)
    (hInside : s.supervisor.phase ≠ .outside) (hStep : s.step env a = some s') :
    StreamMove env s s' := by
  have hThreads := (shape_of_reachable hReach).threads
  cases System.step_cases hStep with
  | worker hWorker =>
    -- a worker only appends to the queues
    obtain ⟨new, hQueues⟩ := (feed_workerStep hWorker).queues
    exact .queues new hQueues (.inl rfl) .inl fun h => ⟨h, rfl⟩
  | @publishSource streamId items =>
    have hFeed : s.client.Feed env _ := .publishSource streamId items
    obtain ⟨new, hQueues⟩ := hFeed.queues
    exact .queues new hQueues (.inl rfl) .inl fun h => ⟨h, rfl⟩
  | @closeSource streamId error =>
    have hFeed : s.client.Feed env _ := .closeSource streamId error
    obtain ⟨new, hQueues⟩ := hFeed.queues
    exact .queues new hQueues (.inl rfl) .inl fun h => ⟨h, rfl⟩
  | flags _ _ _ _ _ _ _ _ _ hClient =>
    -- the entry points and `Stop` leave the queues alone
    refine .queues [] (.of_wire ?_) (.inl rfl) .inl fun h => ⟨h, rfl⟩
    obtain rfl | rfl | rfl := hClient <;> rfl
  | startThreads hStopped =>
    have hIdle := System.notStarted_of_fullyStopped hStopped
    exact absurd (by rw [hIdle]; rfl) hInside
  | joinSupervisor hDone =>
    obtain hPc | hPc := hDone <;> exact absurd (by rw [hPc]; rfl) hInside
  | joinWorkers => exact .queues [] (.of_wire rfl) (.inl rfl) .inl fun h => ⟨h, rfl⟩
  | stopReset hStopper =>
    have hIdle := hThreads.stopper (by rw [hStopper]; rfl)
    exact absurd (by rw [hIdle]; rfl) hInside
  | stopDeactivate _ hDeactivate hNext =>
    have hSame := wire_deactivateStep hDeactivate
    refine .queues [] (.of_wire ?_) (.inl rfl) .inl fun h => ⟨h, rfl⟩
    obtain ⟨_, -, -, rfl⟩ | ⟨-, -, rfl⟩ := hNext <;> exact hSame
  | @workReader input pc' c' writer hReader hSpawn =>
    obtain ⟨fence, hFence, -⟩ := workReaderStep_fence hReader
    -- a Work reader with a fence is past the opening of its pair
    have hPhase : s.supervisor.phase ≠ .opening := by
      intro hOpening
      rw [hThreads.workReader (by rw [hOpening]; rfl)] at hFence
      cases hFence
    have hQueues : ∃ new, s.client.Queues c' new := by
      obtain hFeed | ⟨fence, response, -, -, -, rfl⟩ := wire_workReaderStep hReader
      · exact hFeed.queues
      · exact ⟨[], by rw [List.append_nil], rfl, fun hNot => absurd rfl hNot, rfl, fun _ => rfl⟩
    obtain ⟨new, hQueues⟩ := hQueues
    have hOpened := workReaderStep_unopened hReader
    refine .queues new hQueues ?_ (fun h => ?_) fun h => absurd h hPhase
    · -- it spawns its writer at most once, when it has opened the stream
      obtain rfl | ⟨held, hPc, -, rfl⟩ := hSpawn
      · exact .inl rfl
      · exact .inr ⟨by rw [hPc]; rfl, held, rfl⟩
    · rw [show pc'.unopened = false from hOpened] at h
      cases h
  | @controlReader input pc' c' writer hReader =>
    have hQueues : ∃ new, s.client.Queues c' new := by
      obtain hFeed | ⟨fence, response, -, -, -, rfl⟩ := wire_controlReaderStep hReader
      · exact hFeed.queues
      · exact ⟨[], by rw [List.append_nil], rfl, fun hNot => absurd rfl hNot, rfl, fun _ => rfl⟩
    obtain ⟨new, hQueues⟩ := hQueues
    exact .queues new hQueues (.inl rfl) .inl fun h => ⟨h, rfl⟩
  | workWriter hWriter => exact .writes (workWrite_of_step hWriter) rfl rfl
  | controlWriter hWriter =>
    exact .queues [] (controlWrite_of_step hWriter).queues (.inl rfl) .inl fun h => ⟨h, rfl⟩
  | @supervisor input pc' c' hSupervisor =>
    obtain hSame | hReset := wire_supervisorStep hSupervisor
    · -- the supervisor keeps the queues or resets the session
      have hMove := supervisorStep_cases hSupervisor
      refine .queues [] (.of_wire hSame) (.inl ?_) ?_ ?_
      · -- and the writers: only the readers are spawned by it
        unfold System.spawn
        split <;> rfl
      · unfold System.spawn
        intro h
        split at h
        · rename_i hPc
          exact absurd (by rw [hPc]; rfl) hInside
        · rename_i hPc
          exact .inr (by rw [hPc]; rfl)
        · exact .inl h
      · intro hOpening
        -- only a prepared pair enters that phase
        have hOpening : pc'.phase = .opening := hOpening
        generalize hPc : s.supervisor = pc at hMove hInside
        cases hMove with
        | quiet _ _ _ hPhase =>
          rw [hPhase] at hOpening
          cases hOpening
        | prepare => exact absurd rfl hInside
        | install | attach | ended | joinControl | joinWork | replaceBegin | replaceWait | release
        | clear | advance | deactivate | endSession => cases hOpening
    · -- the session is reset outside a pair only
      exact absurd hReset.phase hInside

-- ---------------------------------------------------------------------------
-- One step of the outbox
-- ---------------------------------------------------------------------------

/-- The frames a step enqueues are those by which the queue has grown. -/
theorem enqueues_of_queues {a : Action} {new : List WorkFrame} (hStep : s.step env a = some s')
    (h : s'.client.wire.queued = new.reverse ++ s.client.wire.queued) :
    s.enqueues env a = new.reverse := by
  simp only [System.enqueues, hStep]
  rw [h, List.length_append, Nat.add_sub_cancel]
  exact List.take_left

theorem sentOn_cons (a : Action) (epoch : Nat) :
    sentOn env epoch ((s, a) :: steps) =
      (if s.pairEpoch? = some epoch then s.enqueues env a else []) ++ sentOn env epoch steps := by
  rw [sentOn]
  split <;> rfl

namespace WorkWrite

variable {pc pc' : WorkWriterPc}

/-- A Work writer that writes has a fence. -/
theorem fence (h : WorkWrite env c pc pc' c') : ∃ held, pc.fence? = some held := by
  cases h with
  | attach | attached | ready | dequeue | wrote => exact ⟨_, rfl⟩
  | ended hFence => exact ⟨_, hFence⟩

/-- What has been queued is not changed by writing it. -/
theorem queued (h : WorkWrite env c pc pc' c') : c'.wire.queued = c.wire.queued := by
  cases h with
  | attach | attached | wrote => rfl
  | ready hWire | ended _ _ hWire => rw [hWire]
  | dequeue _ _ hWire => rw [hWire]; rfl

/-- The writer of a pair writes on the stream of that pair. -/
theorem written {epoch : Nat} (h : WorkWrite env c pc pc' c')
    (hOther : ∀ held, pc.fence? = some held → held.connectionEpoch ≠ epoch) :
    c'.writtenOn epoch = c.writtenOn epoch := by
  cases h with
  | attach => rfl
  | ready hWire | ended _ _ hWire => exact Client.writtenOn_congr (by rw [hWire]) epoch
  | dequeue _ _ hWire => exact Client.writtenOn_congr (by rw [hWire]; rfl) epoch
  | attached | wrote =>
    have hNe := hOther _ rfl
    simp only [Client.writtenOn, Client.log, List.filterMap_cons, LifecycleEvent.workFrame?, hNe,
      if_false]

end WorkWrite

/-- What the pair writes on its own stream. -/
theorem writtenOn_log (fence : SessionFence) (header : SessionHeader) (frame : WorkFrame) :
    (c.log (.workWritten fence.connectionEpoch header frame)).writtenOn fence.connectionEpoch =
      (header, frame) :: c.writtenOn fence.connectionEpoch := by
  simp only [Client.writtenOn, Client.log, List.filterMap_cons, LifecycleEvent.workFrame?, if_true]

/-- The writer that queueing leaves alone. -/
theorem WorkWriterPc.Owes.queues {pc : WorkWriterPc} {fence : SessionFence}
    {written : List (SessionHeader × WorkFrame)} {sent queue : List WorkFrame} {sequence : Nat}
    (h : pc.Owes env fence written sent queue sequence) (new : List WorkFrame) :
    pc.Owes env fence written (new.reverse ++ sent) (queue ++ new) sequence := by
  have hUnsent : Unsent written sent queue →
      Unsent written (new.reverse ++ sent) (queue ++ new) := by
    rintro ⟨hWritten, rfl⟩
    exact ⟨hWritten, (List.reverse_append).symm⟩
  cases pc with
  | attach => exact ⟨hUnsent h.1, h.2⟩
  | writingAttach => exact ⟨hUnsent h.1, h.2⟩
  | markReady | loop =>
    obtain ⟨frames, hCarries, hSequence, rfl⟩ := h
    exact ⟨frames, hCarries, hSequence, by rw [List.reverse_append, List.append_assoc]⟩
  | writing =>
    obtain ⟨frames, hCarries, hSequence, hHeader, rfl⟩ := h
    exact ⟨frames, hCarries, hSequence, hHeader, by rw [List.reverse_append, List.append_assoc]⟩
  | notStarted | signal | exited => trivial

/-- A step of the writer. -/
theorem WorkWrite.owes {pc pc' : WorkWriterPc} {fence : SessionFence} {sent : List WorkFrame}
    (h : WorkWrite env c pc pc' c') (hFence : pc.fence? = some fence)
    (hOwes : pc.Owes env fence (c.writtenOn fence.connectionEpoch) sent c.waitingWork
      c.session.workOutSequence) :
    pc'.Owes env fence (c'.writtenOn fence.connectionEpoch) sent c'.waitingWork
      c'.session.workOutSequence := by
  cases h with
  | attach =>
    cases hFence
    obtain ⟨hUnsent, hSequence⟩ := hOwes
    refine ⟨hUnsent, ?_, ?_, _, _, rfl⟩
    · rw [show c.workStamped.session.workOutSequence = _ + 1 from rfl, hSequence]
    · rw [Client.nextWorkHeader, hSequence]
  | @attached _ header frame =>
    cases hFence
    obtain ⟨⟨hWritten, hSent⟩, hSequence, rfl, revision, digest, rfl⟩ := hOwes
    refine ⟨[], ⟨revision, digest, ?_⟩, hSequence, by rw [List.append_nil]; exact hSent⟩
    rw [writtenOn_log, hWritten]
    rfl
  | ready hWire =>
    have hSession : c'.session = c.session := congrArg Wire.session hWire
    have hWork : c'.queues.work = c.queues.work := congrArg Wire.work hWire
    obtain ⟨frames, hCarries, hSequence, hSent⟩ := hOwes
    refine ⟨frames, ?_, by rw [hSession]; exact hSequence, ?_⟩
    · rw [Client.writtenOn_congr (c := c) (by rw [hWire])]
      exact hCarries
    · rw [Client.waitingWork, hWork]
      exact hSent
  | @dequeue _ front rest _ _ hQueue hWire =>
    cases hFence
    have hSequence' : c'.session.workOutSequence = c.session.workOutSequence + 1 :=
      congrArg (fun w : Wire => w.session.workOutSequence) hWire
    have hWork : c'.queues.work = rest := congrArg Wire.work hWire
    obtain ⟨frames, hCarries, hSequence, hSent⟩ := hOwes
    refine ⟨frames, ?_, by rw [hSequence', hSequence], ?_, ?_⟩
    · rw [Client.writtenOn_congr (c := c) (by rw [hWire]; rfl)]
      exact hCarries
    · rw [Client.nextWorkHeader, hSequence]
    · rw [hSent, Client.waitingWork, Client.waitingWork, hQueue, hWork, List.map_cons,
        List.reverse_cons, List.append_assoc]
      rfl
  | @wrote _ header frame =>
    cases hFence
    obtain ⟨frames, ⟨revision, digest, hWritten⟩, hSequence, rfl, hSent⟩ := hOwes
    refine ⟨frame :: frames, ⟨revision, digest, ?_⟩, hSequence, hSent⟩
    rw [writtenOn_log, hWritten, List.cons_append, stamped, List.length_append]
    rfl
  | ended _ hOver =>
    obtain rfl | ⟨_, rfl⟩ := hOver <;> trivial

/-- What a writer that writes has written is in order. -/
theorem WorkWrite.inOrder {pc pc' : WorkWriterPc} {fence : SessionFence} {sent : List WorkFrame}
    (h : WorkWrite env c pc pc' c') (hFence : pc.fence? = some fence)
    (hOwes : pc'.Owes env fence (c'.writtenOn fence.connectionEpoch) sent c'.waitingWork
      c'.session.workOutSequence)
    (hOrder : InOrder env fence (c.writtenOn fence.connectionEpoch) sent) :
    InOrder env fence (c'.writtenOn fence.connectionEpoch) sent := by
  have hCarried : ∀ frames, Carries env fence (c'.writtenOn fence.connectionEpoch) frames →
      frames <:+ sent → InOrder env fence (c'.writtenOn fence.connectionEpoch) sent := by
    rintro frames ⟨revision, digest, hWritten⟩ hSuffix
    exact .inr ⟨revision, digest, frames, hWritten, hSuffix⟩
  cases h with
  | attach => exact hOrder
  | attached | ready | wrote =>
    obtain ⟨frames, hCarries, -, hSent⟩ := hOwes
    exact hCarried frames hCarries (hSent ▸ List.suffix_append _ _)
  | dequeue _ _ hWire =>
    rw [Client.writtenOn_congr (c := c) (by rw [hWire]; rfl)]
    exact hOrder
  | ended _ _ hWire =>
    rw [Client.writtenOn_congr (c := c) (by rw [hWire])]
    exact hOrder

namespace Outbox

variable {fence : SessionFence} {sent : List WorkFrame}

/-- A step that queues frames. -/
theorem queues {new : List WorkFrame} (h : Outbox env fence s sent)
    (hQueues : s.client.Queues s'.client new)
    (hWriter : s'.workWriter = s.workWriter ∨
      s.workReader.unopened = true ∧ ∃ held, s'.workWriter = .attach held)
    (hReader : s'.workReader.unopened = true →
      s.workReader.unopened = true ∨ s.supervisor.phase = .opening)
    (hOpening : s'.supervisor.phase = .opening →
      s.supervisor.phase = .opening ∧ s'.workReader = s.workReader) :
    Outbox env fence s' (new.reverse ++ sent) := by
  have hWork : s'.client.waitingWork = s.client.waitingWork ++ new := hQueues.work
  have hWritten := hQueues.written fence.connectionEpoch
  have hUnsent : s.workReader.unopened = true →
      Unsent (s'.client.writtenOn fence.connectionEpoch) (new.reverse ++ sent)
        s'.client.waitingWork ∧ s'.client.session.workOutSequence = 0 := by
    intro hUnopened
    obtain ⟨⟨hNone, rfl⟩, hSequence⟩ := h.unopened hUnopened
    refine ⟨⟨hWritten.trans hNone, ?_⟩, hQueues.sequence.trans hSequence⟩
    rw [hWork, List.reverse_append]
  constructor
  · intro hPhase
    obtain ⟨hBefore, hPc⟩ := hOpening hPhase
    exact hPc.trans (h.opening hBefore)
  · intro hUnopened
    obtain hBefore | hPhase := hReader hUnopened
    · exact hUnsent hBefore
    · exact hUnsent (by rw [h.opening hPhase]; rfl)
  · obtain hSame | ⟨hUnopened, held, hPc⟩ := hWriter
    · rw [hSame, hWritten, hWork, hQueues.sequence]
      exact h.writer.queues new
    · rw [hPc]
      exact hUnsent hUnopened
  · rw [hWritten]
    exact h.order.sent _

/-- A step of the Work writer. -/
theorem writes (h : Outbox env fence s sent)
    (hWrite : WorkWrite env s.client s.workWriter s'.workWriter s'.client)
    (hReader : s'.workReader = s.workReader) (hSupervisor : s'.supervisor = s.supervisor)
    (hFence : s.workWriter.fence? = some fence) (hOpened : s.workReader.unopened = false) :
    Outbox env fence s' sent := by
  have hOwes := hWrite.owes hFence h.writer
  constructor
  · intro hPhase
    rw [hSupervisor] at hPhase
    exact hReader.trans (h.opening hPhase)
  · intro hUnopened
    rw [hReader, hOpened] at hUnopened
    cases hUnopened
  · exact hOwes
  · exact hWrite.inOrder hFence hOwes h.order

/-- A prepared pair starts with an empty queue and an unwritten stream. -/
theorem prepared (hWritten : s'.client.writtenOn fence.connectionEpoch = [])
    (hQueue : s'.client.queues.work = []) (hSequence : s'.client.session.workOutSequence = 0)
    (hReader : s'.workReader = .notStarted) (hWriter : s'.workWriter.fence? = none) :
    Outbox env fence s' [] where
  opening := fun _ => hReader
  unopened := fun _ => ⟨⟨hWritten, by rw [Client.waitingWork, hQueue]; rfl⟩, hSequence⟩
  writer := by
    revert hWriter
    cases s'.workWriter <;> intro hWriter <;> trivial
  order := .inl hWritten

end Outbox

-- ---------------------------------------------------------------------------
-- The outboxes of a run
-- ---------------------------------------------------------------------------

/-- Every Work stream of a run is in order, and so is that of the pair at hand. -/
structure Outboxes (env : Env) (steps : List (System × Action)) (s : System) : Prop where
  order : ∀ fence ∈ openedFences steps,
    InOrder env fence (s.client.writtenOn fence.connectionEpoch)
      (sentOn env fence.connectionEpoch steps)
  unopened : ∀ epoch, epoch ∉ (openedFences steps).map (·.connectionEpoch) →
    s.client.writtenOn epoch = [] ∧ sentOn env epoch steps = []
  newest : s.supervisor.phase ≠ .outside → ∃ fence, (openedFences steps).head? = some fence ∧
    Outbox env fence s (sentOn env fence.connectionEpoch steps)

/-- Inside a pair the supervisor waits on it, or Work is closed. -/
theorem closed_of_retires (hReach : (machine env).Reachable s)
    (hInside : s.supervisor.phase ≠ .outside) :
    (∃ held, s.supervisor.pairFence? = some held) ∨ s.client.sessionClosed = true := by
  have hLives := lives_of_reachable hReach
  by_cases hRetires : s.supervisor.retires = true
  · refine .inr ?_
    obtain hFailed | hStop := hLives.retires hRetires
    · simp [Client.sessionClosed, hFailed]
    · simp [Client.sessionClosed, hStop]
  · refine .inl ?_
    revert hInside hRetires
    cases s.supervisor <;> simp [SupervisorPc.phase, SupervisorPc.retires, SupervisorPc.pairFence?]

/-- The epoch waited on is that of the newest pair. -/
theorem pairEpoch_of_run (h : (machine env).Run steps s) {epoch : Nat}
    (hEpoch : s.pairEpoch? = some epoch) :
    ∃ fence, (openedFences steps).head? = some fence ∧ fence.connectionEpoch = epoch := by
  unfold System.pairEpoch? at hEpoch
  obtain ⟨fence, hFence, hEq⟩ := Option.map_eq_some_iff.mp hEpoch
  exact ⟨fence, newest_of_run h fence (.supervisor hFence), hEq⟩

theorem mem_of_head {α : Type} {x : α} {xs : List α} (h : xs.head? = some x) : x ∈ xs :=
  List.mem_of_mem_head? (Option.mem_def.mpr h)

/-- What a step queues inside a pair is queued for the newest one. -/
theorem sentOn_queues {a : Action} {new : List WorkFrame} {fence : SessionFence}
    (hRun : (machine env).Run steps s) (hStep : s.step env a = some s')
    (hInside : s.supervisor.phase ≠ .outside) (hHead : (openedFences steps).head? = some fence)
    (hQueues : s.client.Queues s'.client new) :
    sentOn env fence.connectionEpoch ((s, a) :: steps) =
      new.reverse ++ sentOn env fence.connectionEpoch steps := by
  rw [sentOn_cons, enqueues_of_queues hStep hQueues.queued]
  obtain ⟨held, hHeld⟩ | hClosed := closed_of_retires hRun.reachable hInside
  · have hEq : held = fence := by
      have hNewest := newest_of_run hRun held (.supervisor hHeld)
      rw [hHead] at hNewest
      exact (Option.some.inj hNewest).symm
    have hEpoch : s.pairEpoch? = some fence.connectionEpoch := by
      rw [System.pairEpoch?, hHeld, hEq]
      rfl
    rw [if_pos hEpoch]
  · -- nothing enters the queue while the pair is retired
    have hNone : new = [] := by
      by_contra hNew
      rw [hQueues.live hNew] at hClosed
      cases hClosed
    subst hNone
    rw [List.reverse_nil, ite_self]

/-- A Work writer runs beside a reader that has been opened. -/
theorem writer_alone (hReach : (machine env).Reachable s) {fence : SessionFence}
    (hFence : s.workWriter.fence? = some fence) : s.workReader.unopened = false := by
  by_contra hUnopened
  have hAlone : s.workReader.alone = true := by
    revert hUnopened
    cases s.workReader <;> simp [WorkReaderPc.unopened, WorkReaderPc.alone]
  rw [(shape_of_reachable hReach).threads.workWriter hAlone] at hFence
  cases hFence

theorem WireReset.written {pc pc' : SupervisorPc} (h : WireReset env c pc pc' c') :
    c'.wire.written = c.wire.written := by
  cases h with
  | install | prepare | clear | endSession => rfl
  | advance =>
    unfold Client.advanceEpoch
    split <;> rfl

/-- Outside a pair nothing is written. -/
theorem written_outside {a : Action} (hReach : (machine env).Reachable s)
    (hOutside : s.supervisor.phase = .outside) (hStep : s.step env a = some s') (epoch : Nat) :
    s'.client.writtenOn epoch = s.client.writtenOn epoch := by
  have hNone := (shape_of_reachable hReach).threads.no_fence hOutside
  have hFed : ∀ {c' : Client}, s.client.Feed env c' → c'.writtenOn epoch = s.client.writtenOn epoch := by
    intro c' hFeed
    obtain ⟨new, hQueues⟩ := hFeed.queues
    exact hQueues.written epoch
  cases System.step_cases hStep with
  | worker hWorker => exact hFed (feed_workerStep hWorker)
  | publishSource => exact hFed (.publishSource _ _)
  | closeSource => exact hFed (.closeSource _ _)
  | flags _ _ _ _ _ _ _ _ _ hClient => obtain rfl | rfl | rfl := hClient <;> rfl
  | startThreads | joinSupervisor | joinWorkers | stopReset => rfl
  | stopDeactivate _ hDeactivate hNext =>
    have hSame := wire_deactivateStep hDeactivate
    refine Client.writtenOn_congr ?_ epoch
    obtain ⟨_, -, -, rfl⟩ | ⟨-, -, rfl⟩ := hNext <;> exact congrArg Wire.written hSame
  | workReader hReader =>
    obtain ⟨fence, hFence, -⟩ := workReaderStep_fence hReader
    exact absurd (.workReader hFence) (hNone fence)
  | controlReader hReader =>
    obtain ⟨fence, hFence, -⟩ := controlReaderStep_fence hReader
    exact absurd (.controlReader hFence) (hNone fence)
  | workWriter hWriter =>
    obtain ⟨fence, hFence, -⟩ := workWriterStep_fence hWriter
    exact absurd (.workWriter hFence) (hNone fence)
  | controlWriter hWriter =>
    obtain ⟨fence, hFence, -⟩ := controlWriterStep_fence hWriter
    exact absurd (.controlWriter hFence) (hNone fence)
  | supervisor hSupervisor =>
    refine Client.writtenOn_congr ?_ epoch
    obtain hSame | hReset := wire_supervisorStep hSupervisor
    · exact congrArg Wire.written hSame
    · exact hReset.written

/-- A step outside a pair that opens none. -/
theorem Outboxes.idle {a : Action} (h : Outboxes env steps s) (hReach : (machine env).Reachable s)
    (hOutside : s.supervisor.phase = .outside) (hOpening : s.openingFence? a = none)
    (hOutside' : s'.supervisor.phase = .outside) (hStep : s.step env a = some s') :
    Outboxes env ((s, a) :: steps) s' := by
  have hFences : openedFences ((s, a) :: steps) = openedFences steps := by
    rw [openedFences, hOpening]
  have hSent : ∀ epoch, sentOn env epoch ((s, a) :: steps) = sentOn env epoch steps := by
    intro epoch
    rw [sentOn_cons, System.pairEpoch?, pairFence_of_phase hOutside]
    rfl
  have hWritten := written_outside hReach hOutside hStep
  constructor
  · intro fence hMem
    rw [hFences] at hMem
    rw [hSent, hWritten]
    exact h.order fence hMem
  · intro epoch hNot
    rw [hFences] at hNot
    rw [hSent, hWritten]
    exact h.unopened epoch hNot
  · intro hInside
    exact absurd hOutside' hInside

/-- The step that opens a pair. -/
theorem Outboxes.opens {a : Action} {fence : SessionFence} (h : Outboxes env steps s)
    (hRun : (machine env).Run steps s) (hOpening : s.openingFence? a = some fence)
    (hStep : s.step env a = some s') : Outboxes env ((s, a) :: steps) s' := by
  obtain ⟨r, hPc, hPc', hClient, hReader, hWriter, -⟩ := opening_of_step hStep hOpening
  have hOutside : s.supervisor.phase = .outside := by rw [hPc]; rfl
  have hFences : openedFences ((s, a) :: steps) = fence :: openedFences steps := by
    rw [openedFences, hOpening]
  have hSent : ∀ epoch, sentOn env epoch ((s, a) :: steps) = sentOn env epoch steps := by
    intro epoch
    rw [sentOn_cons, System.pairEpoch?, pairFence_of_phase hOutside]
    rfl
  have hWritten := written_outside hRun.reachable hOutside hStep
  -- the epoch of the pair was not used before
  have hFresh : fence.connectionEpoch ∉ (openedFences steps).map (·.connectionEpoch) := by
    have hNodup := epochs_nodup (.step hRun hStep)
    rw [hFences, List.map_cons] at hNodup
    exact (List.nodup_cons.mp hNodup).1
  obtain ⟨hNothing, hNoneSent⟩ := h.unopened _ hFresh
  have hIdle : s'.workWriter.fence? = none := by
    rw [hWriter]
    have hNone := (shape_of_reachable hRun.reachable).threads.no_fence hOutside
    cases hHeld : s.workWriter.fence? with
    | none => rfl
    | some held => exact absurd (.workWriter hHeld) (hNone held)
  have hNew : Outbox env fence s' [] :=
    .prepared ((hWritten _).trans hNothing) (by rw [hClient]; rfl) (by rw [hClient]; rfl) hReader hIdle
  constructor
  · intro opened hMem
    rw [hFences] at hMem
    rw [hSent, hWritten]
    obtain rfl | hMem := List.mem_cons.mp hMem
    · exact .inl hNothing
    · exact h.order opened hMem
  · intro epoch hNot
    rw [hFences, List.map_cons, List.mem_cons, not_or] at hNot
    rw [hSent, hWritten]
    exact h.unopened epoch hNot.2
  · intro _
    refine ⟨fence, by rw [hFences]; rfl, ?_⟩
    rw [hSent, hNoneSent]
    exact hNew

/-- A pair is entered by opening it. -/
theorem opening_of_enters {a : Action} (hStep : s.step env a = some s')
    (hOutside : s.supervisor.phase = .outside) (hInside : s'.supervisor.phase ≠ .outside) :
    ∃ fence, s.openingFence? a = some fence := by
  cases System.step_cases hStep with
  | worker | workReader | controlReader | workWriter | controlWriter | publishSource | closeSource
  | flags | joinWorkers | stopDeactivate | stopReset => exact absurd hOutside hInside
  | startThreads | joinSupervisor => exact absurd rfl hInside
  | @supervisor input pc' c' hSupervisor =>
    have hMove := supervisorStep_cases hSupervisor
    have hInside : pc'.phase ≠ .outside := hInside
    generalize hPc : s.supervisor = pc at hMove hOutside
    cases hMove with
    | quiet _ _ _ hPhase => exact absurd hPhase hInside
    | @prepare r fence => exact ⟨fence, opening_of_prepare hStep hPc rfl⟩
    | attach => cases hOutside
    | ended hPc' => obtain rfl | rfl := hPc' <;> cases hOutside
    | joinControl | joinWork | replaceBegin | replaceWait | release => cases hOutside
    | install | clear | advance | deactivate | endSession => exact absurd rfl hInside

/-- A step inside a pair. -/
theorem Outboxes.inside {a : Action} (h : Outboxes env steps s) (hRun : (machine env).Run steps s)
    (hInside : s.supervisor.phase ≠ .outside) (hStep : s.step env a = some s') :
    Outboxes env ((s, a) :: steps) s' := by
  have hFences : openedFences ((s, a) :: steps) = openedFences steps := by
    rw [openedFences]
    -- no pair is opened by this step
    cases hOpening : s.openingFence? a with
    | none => rfl
    | some fence =>
      obtain ⟨r, hPc, -⟩ := opening_of_step hStep hOpening
      exact absurd (by rw [hPc]; rfl) hInside
  obtain ⟨fence, hHead, hOutbox⟩ := h.newest hInside
  have hMem := mem_of_head hHead
  have hNodup := epochs_nodup hRun
  -- what happens concerns the newest pair only
  have hKey : Outbox env fence s' (sentOn env fence.connectionEpoch ((s, a) :: steps)) ∧
      ∀ epoch ≠ fence.connectionEpoch, s'.client.writtenOn epoch = s.client.writtenOn epoch := by
    cases streamMove_of_step hRun.reachable hInside hStep with
    | queues new hQueues hWriter hReader hOpening =>
      -- something is queued, for the newest pair
      rw [sentOn_queues hRun hStep hInside hHead hQueues]
      exact ⟨hOutbox.queues hQueues hWriter hReader hOpening, fun epoch _ => hQueues.written epoch⟩
    | writes hWrite hReader hSupervisor =>
      -- the Work writer writes on the newest pair
      obtain ⟨held, hHeld⟩ := hWrite.fence
      have hEq : held = fence := by
        have hNewest := newest_of_run hRun held (.workWriter hHeld)
        rw [hHead] at hNewest
        exact (Option.some.inj hNewest).symm
      subst hEq
      have hQueued : s'.client.wire.queued = ([] : List WorkFrame).reverse ++ s.client.wire.queued :=
        hWrite.queued
      have hNothing : s.enqueues env a = [] := enqueues_of_queues hStep hQueued
      rw [sentOn_cons, hNothing, ite_self, List.nil_append]
      refine ⟨hOutbox.writes hWrite hReader hSupervisor hHeld (writer_alone hRun.reachable hHeld),
        fun epoch hOther => hWrite.written fun other hOtherHeld => ?_⟩
      rw [hHeld] at hOtherHeld
      cases hOtherHeld
      exact fun hEq => hOther hEq.symm
  obtain ⟨hOutbox', hOthers⟩ := hKey
  have hSame : ∀ opened ∈ openedFences steps, opened.connectionEpoch = fence.connectionEpoch →
      opened = fence :=
    fun opened hOpened hEq => List.inj_on_of_nodup_map hNodup hOpened hMem hEq
  constructor
  · -- every pair that was opened
    intro opened hOpened
    rw [hFences] at hOpened
    by_cases hEq : opened.connectionEpoch = fence.connectionEpoch
    · rw [hSame opened hOpened hEq]
      exact hOutbox'.order
    · rw [hOthers _ hEq, sentOn_cons]
      exact (h.order opened hOpened).sent _
  · -- every epoch without a pair
    intro epoch hNot
    rw [hFences] at hNot
    have hOther : epoch ≠ fence.connectionEpoch := by
      rintro rfl
      exact hNot (List.mem_map.mpr ⟨fence, hMem, rfl⟩)
    obtain ⟨hWritten, hSent⟩ := h.unopened epoch hNot
    refine ⟨(hOthers epoch hOther).trans hWritten, ?_⟩
    rw [sentOn_cons, hSent, if_neg, List.append_nil]
    intro hEpoch
    -- the epoch of a pair is no unopened one
    obtain ⟨waited, hWaited, hEq⟩ := pairEpoch_of_run hRun hEpoch
    rw [hHead] at hWaited
    cases hWaited
    exact hOther hEq.symm
  · intro _
    exact ⟨fence, by rw [hFences, hHead], hOutbox'⟩

/-- The Work streams of a run. -/
theorem outboxes_of_run (h : (machine env).Run steps s) : Outboxes env steps s := by
  refine Machine.Run.invariant (M := machine env) (I := Outboxes env) ?_ ?_ h
  · refine ⟨fun fence hMem => (by cases hMem), fun _ _ => ⟨rfl, rfl⟩, fun hInside => ?_⟩
    exact absurd rfl hInside
  · intro steps s a s' hRun ih hStep
    by_cases hOutside : s.supervisor.phase = .outside
    · cases hOpening : s.openingFence? a with
      | some fence => exact ih.opens hRun hOpening hStep
      | none =>
        refine ih.idle hRun.reachable hOutside hOpening ?_ hStep
        by_contra hInside
        obtain ⟨fence, hFence⟩ := opening_of_enters hStep hOutside hInside
        rw [hOpening] at hFence
        cases hFence
    · exact ih.inside hRun hOutside hStep

end AdapterRuntime.Model
