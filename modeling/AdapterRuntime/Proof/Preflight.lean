import AdapterRuntime.Lib.Wire
import AdapterRuntime.Proof.Outbound
import AdapterRuntime.Model.Deployment

/-!
# AdapterRuntime — the preflight and the writers

A queue admits a frame by its size under a worst-case header that
`WorkFrameBytesLocked` and `ControlFrameBytesLocked` build from the members. A
writer stamps it with the fence of its pair. The two headers agree but for the
sequence, and a frame only shrinks with its sequence.

* `measured_of_reachable` — every queued frame was measured under the header of
  the pair it is in.
* `preflight_agrees` — no queued frame is too large for its writer.
-/

namespace AdapterRuntime.Model

open AdapterRuntime.Lib
open AdapterRuntime.Lib.Wire

variable {env : Env} {c c' : Client} {s s' : System}

-- ---------------------------------------------------------------------------
-- Sizes
-- ---------------------------------------------------------------------------

/-- The sizes of the tags of a `SessionHeader`. -/
structure HeaderTags where
  instanceId : Nat := 1
  sessionId : Nat := 1
  processGeneration : Nat := 1
  sessionGeneration : Nat := 1
  runtimeEpoch : Nat := 1
  connectionEpoch : Nat := 1
  frameSequence : Nat := 1

/-- The size of a header. Its sequence is a 64-bit field. -/
def HeaderTags.bytes (tags : HeaderTags) (header : SessionHeader) : Nat :=
  textField tags.instanceId header.instanceId.length +
    textField tags.sessionId header.sessionId.length +
    integerField tags.processGeneration header.processGeneration +
    integerField tags.sessionGeneration header.sessionGeneration +
    integerField tags.runtimeEpoch header.runtimeEpoch +
    integerField tags.connectionEpoch header.connectionEpoch +
    integerField tags.frameSequence (header.frameSequence % 2 ^ 64)

/-- `ByteSizeLong` of a request is the standard wire size: the header is a message
field, and the rest does not depend on it. -/
def Protobuf.StandardSizes (p : Protobuf) : Prop :=
  ∃ (tags : HeaderTags) (workTag controlTag : Nat) (workBody : WorkFrame → Nat)
    (controlBody : ControlFrame → Nat),
    (∀ header frame, p.workRequestBytes header frame =
      messageField workTag (tags.bytes header) + workBody frame) ∧
    ∀ header frame, p.controlRequestBytes header frame =
      messageField controlTag (tags.bytes header) + controlBody frame

/-- A header is longest at the largest sequence. -/
theorem HeaderTags.bytes_le (tags : HeaderTags) (env : Env) (fence : SessionFence) (epoch sequence : Nat) :
    tags.bytes (stampHeader env fence epoch sequence) ≤
      tags.bytes (stampHeader env fence epoch sizeMax) := by
  have hSequence : sequence % 2 ^ 64 ≤ sizeMax % 2 ^ 64 := by
    unfold sizeMax
    omega
  exact Nat.add_le_add_left (integerField_mono _ hSequence) _

/-- The largest sequence makes the largest frame. -/
theorem Protobuf.StandardSizes.stamped_le (h : env.protobuf.StandardSizes) (fence : SessionFence)
    (epoch sequence : Nat) :
    (∀ frame, env.protobuf.workRequestBytes (stampHeader env fence epoch sequence) frame ≤
      env.protobuf.workRequestBytes (stampHeader env fence epoch sizeMax) frame) ∧
    ∀ frame, env.protobuf.controlRequestBytes (stampHeader env fence epoch sequence) frame ≤
      env.protobuf.controlRequestBytes (stampHeader env fence epoch sizeMax) frame := by
  obtain ⟨tags, workTag, controlTag, workBody, controlBody, hWork, hControl⟩ := h
  have hHeader := tags.bytes_le env fence epoch sequence
  constructor
  · intro frame
    rw [hWork, hWork]
    exact Nat.add_le_add_right (messageField_mono _ hHeader) _
  · intro frame
    rw [hControl, hControl]
    exact Nat.add_le_add_right (messageField_mono _ hHeader) _

-- ---------------------------------------------------------------------------
-- What is in the queues
-- ---------------------------------------------------------------------------

/-- Every frame of the queues was there before, or has just been admitted. -/
structure Client.Draws (env : Env) (c c' : Client) : Prop where
  work : ∀ queued ∈ c'.queues.work, queued ∈ c.queues.work ∨
    c.workAdmits env queued.request = true ∧
      queued.accountedBytes = c.workFrameBytes env queued.request
  control : ∀ queued ∈ c'.queues.control, queued ∈ c.queues.control ∨
    c.controlAdmits env queued.request = true ∧
      queued.accountedBytes = c.controlFrameBytes env queued.request

theorem Client.Draws.of_subset (hWork : c'.queues.work ⊆ c.queues.work)
    (hControl : c'.queues.control ⊆ c.queues.control) : c.Draws env c' :=
  ⟨fun _ hMem => .inl (hWork hMem), fun _ hMem => .inl (hControl hMem)⟩

theorem Client.Draws.of_wire (h : c'.wire = c.wire) : c.Draws env c' := by
  have hWork : c'.queues.work = c.queues.work := congrArg Wire.work h
  have hControl : c'.queues.control = c.queues.control := congrArg Wire.control h
  exact .of_subset (by rw [hWork]; exact List.Subset.refl _)
    (by rw [hControl]; exact List.Subset.refl _)

theorem Client.Feed.draws (h : c.Feed env c') : c.Draws env c' := by
  cases h with
  | nothing hWire => exact .of_wire hWire
  | work frame hAdmits hWire =>
    have hWork : c'.queues.work = c.queues.work ++ [⟨frame, c.workFrameBytes env frame⟩] :=
      congrArg Wire.work hWire
    have hControl : c'.queues.control = c.queues.control := congrArg Wire.control hWire
    refine ⟨fun queued hMem => ?_, fun queued hMem => .inl (hControl ▸ hMem)⟩
    rw [hWork, List.mem_append, List.mem_singleton] at hMem
    obtain hMem | rfl := hMem
    · exact .inl hMem
    · exact .inr ⟨hAdmits, rfl⟩
  | control frame hAdmits hWire =>
    have hControl : c'.queues.control =
        c.queues.control ++ [⟨frame, c.controlFrameBytes env frame⟩] :=
      congrArg Wire.control hWire
    have hWork : c'.queues.work = c.queues.work := congrArg Wire.work hWire
    refine ⟨fun queued hMem => .inl (hWork ▸ hMem), fun queued hMem => ?_⟩
    rw [hControl, List.mem_append, List.mem_singleton] at hMem
    obtain hMem | rfl := hMem
    · exact .inl hMem
    · exact .inr ⟨hAdmits, rfl⟩

theorem WorkWrite.draws {pc pc' : WorkWriterPc} (h : WorkWrite env c pc pc' c') :
    c.Draws env c' := by
  cases h with
  | attach | attached | wrote => exact .of_subset (List.Subset.refl _) (List.Subset.refl _)
  | ready hWire | ended _ _ hWire => exact .of_wire hWire
  | dequeue _ hQueue hWire =>
    have hWork : c'.queues.work = _ := congrArg Wire.work hWire
    have hControl : c'.queues.control = c.queues.control := congrArg Wire.control hWire
    refine .of_subset ?_ (by rw [hControl]; exact List.Subset.refl _)
    rw [hWork, hQueue]
    exact List.subset_cons_self _ _

theorem ControlWrite.draws {pc pc' : ControlWriterPc} (h : ControlWrite env c pc pc' c') :
    c.Draws env c' := by
  cases h with
  | wrote => exact .of_subset (List.Subset.refl _) (List.Subset.refl _)
  | quiet _ _ hWire => exact .of_wire hWire
  | dequeue _ hQueue hWire =>
    have hControl : c'.queues.control = _ := congrArg Wire.control hWire
    have hWork : c'.queues.work = c.queues.work := congrArg Wire.work hWire
    refine .of_subset (by rw [hWork]; exact List.Subset.refl _) ?_
    rw [hControl, hQueue]
    exact List.subset_cons_self _ _
  | heartbeat _ hWire =>
    have hControl : c'.queues.control = c.queues.control := congrArg Wire.control hWire
    have hWork : c'.queues.work = c.queues.work := congrArg Wire.work hWire
    exact .of_subset (by rw [hWork]; exact List.Subset.refl _)
      (by rw [hControl]; exact List.Subset.refl _)

/-- Inside a pair the queues change in no other way. -/
theorem draws_of_step {a : Action} (hThreads : Threads s) (hInside : s.supervisor.phase ≠ .outside)
    (hStep : s.step env a = some s') : s.client.Draws env s'.client := by
  cases System.step_cases hStep with
  | worker hWorker => exact (feed_workerStep hWorker).draws
  | @publishSource streamId items => exact (Client.Feed.publishSource streamId items).draws
  | @closeSource streamId error => exact (Client.Feed.closeSource streamId error).draws
  | flags _ _ _ _ _ _ _ _ _ hClient =>
    obtain rfl | rfl | rfl := hClient <;>
      exact .of_subset (List.Subset.refl _) (List.Subset.refl _)
  | startThreads | joinSupervisor | joinWorkers =>
    exact .of_subset (List.Subset.refl _) (List.Subset.refl _)
  | stopReset hStopper =>
    have hIdle := hThreads.stopper (by rw [hStopper]; rfl)
    exact absurd (by rw [hIdle]; rfl) hInside
  | stopDeactivate _ hDeactivate hNext =>
    have hSame := wire_deactivateStep hDeactivate
    obtain ⟨_, -, -, rfl⟩ | ⟨-, -, rfl⟩ := hNext
    · exact .of_wire hSame
    · exact .of_wire hSame
  | workReader hReader =>
    obtain hFeed | ⟨fence, response, -, -, -, rfl⟩ := wire_workReaderStep hReader
    · exact hFeed.draws
    · exact .of_subset (List.Subset.refl _) (List.Subset.refl _)
  | controlReader hReader =>
    obtain hFeed | ⟨fence, response, -, -, -, rfl⟩ := wire_controlReaderStep hReader
    · exact hFeed.draws
    · exact .of_subset (List.Subset.refl _) (List.Subset.refl _)
  | workWriter hWriter => exact (workWrite_of_step hWriter).draws
  | controlWriter hWriter => exact (controlWrite_of_step hWriter).draws
  | supervisor hSupervisor =>
    obtain hSame | hReset := wire_supervisorStep hSupervisor
    · exact .of_wire hSame
    · exact absurd hReset.phase hInside

/-- A pair begins when it is prepared, with empty queues. -/
theorem phase_of_step {a : Action} (hStep : s.step env a = some s')
    (hInside : s'.supervisor.phase ≠ .outside) :
    s.supervisor.phase ≠ .outside ∨ ∃ fence, s'.client = s.client.prepareConnectionPair fence := by
  cases System.step_cases hStep with
  | worker | workReader | controlReader | workWriter | controlWriter | publishSource | closeSource
  | flags | joinWorkers | stopDeactivate | stopReset => exact .inl hInside
  | startThreads | joinSupervisor => exact absurd rfl hInside
  | supervisor hSupervisor =>
    have hMove := supervisorStep_cases hSupervisor
    generalize s.supervisor = pc at hMove ⊢
    cases hMove with
    | quiet _ _ _ hPhase => exact absurd hPhase hInside
    | prepare => exact .inr ⟨_, rfl⟩
    | ended hPc => exact .inl (by obtain rfl | rfl := hPc <;> simp [SupervisorPc.phase])
    | attach | joinControl | joinWork | replaceBegin | replaceWait =>
      exact .inl (by simp [SupervisorPc.phase])
    | install | release | clear | advance | deactivate | endSession => exact absurd rfl hInside

/-- The header of the preflight does not depend on the counters. -/
theorem Client.memberHeader_of_identity (h : c'.session.identity = c.session.identity) :
    stampHeader env c'.memberFence c'.session.connectionEpochCounter sizeMax =
      stampHeader env c.memberFence c.session.connectionEpochCounter sizeMax := by
  have hId : c'.session.sessionId = c.session.sessionId := (congrArg Session.sessionId h :)
  have hGeneration : c'.session.sessionGeneration = c.session.sessionGeneration :=
    (congrArg Session.sessionGeneration h :)
  have hRuntime : c'.session.runtimeEpoch = c.session.runtimeEpoch :=
    (congrArg Session.runtimeEpoch h :)
  have hEpoch : c'.session.connectionEpochCounter = c.session.connectionEpochCounter :=
    (congrArg Session.connectionEpochCounter h :)
  simp only [stampHeader, memberFence, hId, hGeneration, hRuntime, hEpoch]

/-- Inside a pair every queued frame is charged the size it has under the header of
that pair, and is within the limit. -/
structure Measured (env : Env) (s : System) : Prop where
  work : s.supervisor.phase ≠ .outside → ∀ queued ∈ s.client.queues.work,
    queued.accountedBytes = s.client.workFrameBytes env queued.request ∧
      queued.accountedBytes ≤ s.client.session.maximumWorkFrameBytes
  control : s.supervisor.phase ≠ .outside → ∀ queued ∈ s.client.queues.control,
    queued.accountedBytes = s.client.controlFrameBytes env queued.request ∧
      queued.accountedBytes ≤ s.client.session.maximumControlFrameBytes

/-- A step keeps the queued frames measured. -/
theorem measured_step {a : Action} (hReach : (machine env).Reachable s) (h : Measured env s)
    (hStep : s.step env a = some s') : Measured env s' := by
  have hThreads := (shape_of_reachable hReach).threads
  -- inside a pair the header of the preflight stays, and the queues only draw admitted frames
  have hStays : s.supervisor.phase ≠ .outside →
      s'.client.session.identity = s.client.session.identity ∧ s.client.Draws env s'.client := by
    intro hInside
    refine ⟨?_, draws_of_step hThreads hInside hStep⟩
    obtain hSame | hReset | hStopper := identity_of_step hStep
    · exact hSame
    · exact absurd hReset.phase hInside
    · have hIdle := hThreads.stopper (by rw [hStopper]; rfl)
      exact absurd (by rw [hIdle]; rfl) hInside
  constructor
  · intro hInside' queued hMem
    obtain hInside | ⟨fence, hClient⟩ := phase_of_step hStep hInside'
    · obtain ⟨hSame, hDraws⟩ := hStays hInside
      have hLimit : s'.client.session.maximumWorkFrameBytes =
          s.client.session.maximumWorkFrameBytes :=
        (congrArg Session.maximumWorkFrameBytes hSame :)
      rw [Client.workFrameBytes, Client.memberHeader_of_identity hSame, hLimit]
      obtain hBefore | ⟨hAdmits, hBytes⟩ := hDraws.work queued hMem
      · exact h.work hInside queued hBefore
      · refine ⟨hBytes, ?_⟩
        simp only [Client.workAdmits, Bool.and_eq_true, decide_eq_true_eq] at hAdmits
        rw [hBytes]
        exact hAdmits.2
    · rw [hClient] at hMem
      cases hMem
  · intro hInside' queued hMem
    obtain hInside | ⟨fence, hClient⟩ := phase_of_step hStep hInside'
    · obtain ⟨hSame, hDraws⟩ := hStays hInside
      have hLimit : s'.client.session.maximumControlFrameBytes =
          s.client.session.maximumControlFrameBytes :=
        (congrArg Session.maximumControlFrameBytes hSame :)
      rw [Client.controlFrameBytes, Client.memberHeader_of_identity hSame, hLimit]
      obtain hBefore | ⟨hAdmits, hBytes⟩ := hDraws.control queued hMem
      · exact h.control hInside queued hBefore
      · refine ⟨hBytes, ?_⟩
        simp only [Client.controlAdmits, Bool.and_eq_true, decide_eq_true_eq] at hAdmits
        rw [hBytes]
        exact hAdmits.2
    · rw [hClient] at hMem
      cases hMem

/-- In every reachable state the queued frames are measured. -/
theorem measured_of_reachable (h : (machine env).Reachable s) : Measured env s := by
  refine h.invariant ?_ fun s a s' hReach hMeasured hStep => measured_step hReach hMeasured hStep
  exact ⟨fun hInside => absurd rfl hInside, fun hInside => absurd rfl hInside⟩

-- ---------------------------------------------------------------------------
-- The two headers
-- ---------------------------------------------------------------------------

/-- The header of the preflight is that of the pair, with the largest sequence. -/
theorem Fenced.memberHeader (h : Fenced s) {fence : SessionFence} (hUsed : s.UsesFence fence)
    (sequence : Nat) :
    stampHeader env s.client.memberFence s.client.session.connectionEpochCounter sequence =
      stampHeader env fence fence.connectionEpoch sequence := by
  obtain ⟨hHolds, hEpoch⟩ := h.used fence hUsed
  simp only [stampHeader, Client.memberFence, hHolds.sessionId, hHolds.sessionGeneration,
    hHolds.runtimeEpoch, hEpoch]

/-- The frames of the Work queue, under any sequence the writer may stamp. -/
theorem work_fits (hSizes : env.protobuf.StandardSizes) (h : (machine env).Reachable s)
    {fence : SessionFence} (hUsed : s.UsesFence fence) {queued : QueuedWorkFrame}
    (hMem : queued ∈ s.client.queues.work) (sequence : Nat) :
    env.protobuf.workRequestBytes (stampHeader env fence fence.connectionEpoch sequence)
        queued.request ≤ queued.accountedBytes ∧
      queued.accountedBytes ≤ fence.maximumWorkFrameBytes := by
  have hFenced := fenced_of_reachable h
  have hInside : s.supervisor.phase ≠ .outside := fun hPhase =>
    (shape_of_reachable h).threads.no_fence hPhase fence hUsed
  obtain ⟨hBytes, hLimit⟩ := (measured_of_reachable h).work hInside queued hMem
  constructor
  · rw [hBytes, Client.workFrameBytes, hFenced.memberHeader hUsed]
    exact (hSizes.stamped_le fence _ sequence).1 _
  · rw [← (hFenced.used fence hUsed).1.workLimit]
    exact hLimit

/-- The frames of the Control queue. -/
theorem control_fits (hSizes : env.protobuf.StandardSizes) (h : (machine env).Reachable s)
    {fence : SessionFence} (hUsed : s.UsesFence fence) {queued : QueuedControlFrame}
    (hMem : queued ∈ s.client.queues.control) (sequence : Nat) :
    env.protobuf.controlRequestBytes (stampHeader env fence fence.connectionEpoch sequence)
        queued.request ≤ queued.accountedBytes ∧
      queued.accountedBytes ≤ fence.maximumControlFrameBytes := by
  have hFenced := fenced_of_reachable h
  have hInside : s.supervisor.phase ≠ .outside := fun hPhase =>
    (shape_of_reachable h).threads.no_fence hPhase fence hUsed
  obtain ⟨hBytes, hLimit⟩ := (measured_of_reachable h).control hInside queued hMem
  constructor
  · rw [hBytes, Client.controlFrameBytes, hFenced.memberHeader hUsed]
    exact (hSizes.stamped_le fence _ sequence).2 _
  · rw [← (hFenced.used fence hUsed).1.controlLimit]
    exact hLimit

/-- A frame within the limit is not refused by the writer. -/
theorem withinLimit_of_le {limit bytes : Nat} (h : bytes ≤ limit) :
    withinLimit limit bytes = true := by
  simp [withinLimit, h]

/-- Whatever the Work writer has dequeued is within the limit of its fence. -/
theorem writing_fits (hSizes : env.protobuf.StandardSizes) (h : (machine env).Reachable s) :
    ∀ fence header frame, s.workWriter = .writing fence header frame →
      withinLimit fence.maximumWorkFrameBytes (env.protobuf.workRequestBytes header frame) =
        true := by
  refine Machine.Reachable.invariant (I := fun s => ∀ fence header frame,
    s.workWriter = .writing fence header frame → withinLimit fence.maximumWorkFrameBytes
      (env.protobuf.workRequestBytes header frame) = true) ?_ ?_ h
  · intro fence header frame hPc
    cases hPc
  · intro s a s' hReach hFits hStep fence header frame hPc
    cases System.step_cases hStep with
    | worker | controlReader | controlWriter | publishSource | closeSource | flags | startThreads
    | joinSupervisor | joinWorkers | stopDeactivate | stopReset => exact hFits _ _ _ hPc
    | workReader _ hSpawn =>
      obtain rfl | ⟨_, -, -, rfl⟩ := hSpawn
      · exact hFits _ _ _ hPc
      · cases hPc
    | supervisor =>
      refine hFits fence header frame (Eq.trans ?_ hPc)
      unfold System.spawn
      split <;> rfl
    | workWriter hWriter =>
      have hWrite := workWrite_of_step hWriter
      obtain rfl : _ = WorkWriterPc.writing fence header frame := hPc
      generalize hLoop : s.workWriter = pc at hWrite
      cases hWrite with
      | dequeue _ hQueue =>
        have hUsed : s.UsesFence fence := .workWriter (by rw [hLoop]; rfl)
        obtain ⟨hStamped, hLimit⟩ := work_fits hSizes hReach hUsed
          (by rw [hQueue]; exact List.mem_cons_self) (s.client.session.workOutSequence + 1)
        exact withinLimit_of_le (hStamped.trans hLimit)
      | ended _ hOver => simp at hOver

/-- Every admitted frame of a pair, under every sequence, is within its accounted size
and the negotiated limit; and a writer that has dequeued a frame fails only when the
transport does. -/
theorem preflight_agrees (hSizes : env.protobuf.StandardSizes) (h : (machine env).Reachable s) :
    (∀ fence, s.UsesFence fence → ∀ sequence,
      (∀ queued ∈ s.client.queues.work,
        env.protobuf.workRequestBytes (stampHeader env fence fence.connectionEpoch sequence)
            queued.request ≤ queued.accountedBytes ∧
          queued.accountedBytes ≤ fence.maximumWorkFrameBytes) ∧
      ∀ queued ∈ s.client.queues.control,
        env.protobuf.controlRequestBytes (stampHeader env fence fence.connectionEpoch sequence)
            queued.request ≤ queued.accountedBytes ∧
          queued.accountedBytes ≤ fence.maximumControlFrameBytes) ∧
    (∀ fence header frame, s.workWriter = .writing fence header frame → ∀ c,
      workWriterStep env c s.workWriter (.wrote true) =
        some (.loop fence, c.log (.workWritten fence.connectionEpoch header frame))) ∧
    ∀ s' fence held header frame, s.controlWriter = .loop fence →
      s.step env (.controlWriter .tick) = some s' →
      s'.controlWriter = .writing held header frame → ∀ c,
      controlWriterStep env c s'.controlWriter (.wrote true) =
        some (afterControlWrite held frame,
          c.log (.controlWritten held.connectionEpoch header frame)) := by
  refine ⟨fun fence hUsed sequence => ⟨fun queued hMem => work_fits hSizes h hUsed hMem sequence,
    fun queued hMem => control_fits hSizes h hUsed hMem sequence⟩, ?_, ?_⟩
  · intro fence header frame hPc c
    have hFits := writing_fits hSizes h fence header frame hPc
    rw [hPc]
    simp only [workWriterStep, hFits, Bool.and_true, if_true]
  · intro s' fence held header frame hLoop hStep hPc c
    have hFits : withinLimit held.maximumControlFrameBytes
        (env.protobuf.controlRequestBytes header frame) = true := by
      have hUsed : s.UsesFence fence := .controlWriter (by rw [hLoop]; rfl)
      simp only [System.step, hLoop, Option.map_eq_some_iff] at hStep
      obtain ⟨⟨pc, c₁⟩, hTick, rfl⟩ := hStep
      cases controlWriterStep_branch hTick with
      | ended => cases hPc
      | dequeue _ hQueue =>
        cases hPc
        obtain ⟨hStamped, hLimit⟩ := control_fits hSizes h hUsed
          (by rw [hQueue]; exact List.mem_cons_self) (s.client.session.controlOutSequence + 1)
        exact withinLimit_of_le (hStamped.trans hLimit)
    rw [hPc]
    simp only [controlWriterStep, hFits, Bool.and_true, if_true]

section Runs

open Deployment

/-- The deployment with requests of the standard wire size. -/
def measuredDeployment : Env :=
  { deployment with protobuf := { Deployment.wire with
      workRequestBytes := fun header frame =>
        messageField 1 (HeaderTags.bytes {} header) + (frameText frame).length
      controlRequestBytes := fun header _ => messageField 1 (HeaderTags.bytes {} header) + 64 } }

/-- The answer of a query waits in the queue of an attached pair. -/
theorem preflight_agrees_query :
    ∃ s fence queued, (machine measuredDeployment).Reachable s ∧ s.UsesFence fence ∧
      queued ∈ s.client.queues.work ∧
      measuredDeployment.protobuf.workRequestBytes
          (stampHeader measuredDeployment fence fence.connectionEpoch 1000) queued.request ≤
        queued.accountedBytes := by
  obtain ⟨s, hReach, hRun⟩ :=
    (machine measuredDeployment).exists_reaches_of_runWith (fun _ _ => True)
      (bringUp ++ hostFrame 1 1 (unaryFrame "a") ++ runQuery 0 ++ worker 0 1)
      (fun s => s.workWriter.fence?.isSome && !s.client.queues.work.isEmpty) (by decide +kernel)
  simp only [Bool.and_eq_true, Option.isSome_iff_exists, Bool.not_eq_true',
    List.isEmpty_eq_false_iff] at hRun
  obtain ⟨⟨fence, hFence⟩, hQueue⟩ := hRun
  obtain ⟨queued, hMem⟩ := List.exists_mem_of_ne_nil _ hQueue
  have hSizes : measuredDeployment.protobuf.StandardSizes :=
    ⟨{}, 1, 1, fun frame => (frameText frame).length, fun _ => 64, fun _ _ => rfl, fun _ _ => rfl⟩
  exact ⟨s, fence, queued, hReach, .workWriter hFence, hMem,
    (((preflight_agrees hSizes hReach).1 fence (.workWriter hFence) 1000).1 queued hMem).1⟩

end Runs

end AdapterRuntime.Model
