import Mathlib
import AdapterRuntime.Proof.Moves
import AdapterRuntime.Proof.Release

/-!
# AdapterRuntime — the shape of the running system

Which threads can be alive in which phase of a connection pair, and where jobs
and tokens can be. `Threads` is about program counters and fences, `Occupancy`
about workers, the dispatch queue and the token table; together they are the
`Shape` every reachable state has.

* `shape_of_reachable` — every reachable state has the shape.
* `Shape.jobs_none`, `Shape.tokens_none` — outside a pair nothing is held.
-/

namespace AdapterRuntime.Model

open AdapterRuntime.Lib

-- ---------------------------------------------------------------------------
-- Fences of the stream threads
-- ---------------------------------------------------------------------------

namespace WorkReaderPc

/-- The fence of a running Work reader. -/
def fence? : WorkReaderPc → Option SessionFence
  | .notStarted | .exited => none
  | .opening fence | .reading fence | .blocked fence | .validating fence _ | .handling fence _
  | .followUp fence _ | .signalSession fence _ _ | .terminal fence _ | .closing fence
  | .finished fence _ | .lastTerminal fence | .lastSignal fence _ => some fence

/-- The Work writer has not been spawned yet, or has been joined. -/
def alone : WorkReaderPc → Bool
  | .notStarted | .opening _ | .finished _ _ | .lastTerminal _ | .lastSignal _ _ | .exited => true
  | _ => false

end WorkReaderPc

namespace ControlReaderPc

/-- The fence a Control reader runs under. -/
def fence? : ControlReaderPc → Option SessionFence
  | .notStarted | .exited => none
  | .opening fence | .reading fence | .blocked fence | .validating fence _ | .handling fence _
  | .applying fence _ | .queueing fence _ _ | .remoteStop fence | .signal fence _
  | .terminal fence _ | .closing fence | .finished fence _ | .lastTerminal fence
  | .lastSignal fence _ => some fence

/-- The Control writer has not been spawned yet, or has been joined. -/
def alone : ControlReaderPc → Bool
  | .notStarted | .opening _ | .finished _ _ | .lastTerminal _ | .lastSignal _ _ | .exited => true
  | _ => false

end ControlReaderPc

/-- The fence a Work writer runs under. -/
def WorkWriterPc.fence? : WorkWriterPc → Option SessionFence
  | .notStarted | .exited => none
  | .attach fence | .writingAttach fence _ _ | .markReady fence | .loop fence
  | .writing fence _ _ | .signal fence _ => some fence

/-- The fence a Control writer runs under. -/
def ControlWriterPc.fence? : ControlWriterPc → Option SessionFence
  | .notStarted | .exited => none
  | .loop fence | .writing fence _ _ | .gate fence | .signal fence _ | .terminal fence _ =>
    some fence

section Fences

variable {env : Env} {c c' : Client}

/-- A Work reader keeps its fence while it runs. -/
theorem workReaderStep_fence {pc pc' : WorkReaderPc} {input : ReaderInput WorkResponse}
    (h : workReaderStep env c pc input = some (pc', c')) :
    ∃ fence, pc.fence? = some fence ∧ (pc'.fence? = some fence ∨ pc' = .exited) := by
  cases workReaderStep_branch h with
  | unopened | ended | lastTerminal | lastSignal => exact ⟨_, rfl, .inr rfl⟩
  | followUp hFollow => cases followUpStep_branch hFollow <;> exact ⟨_, rfl, .inl rfl⟩
  | _ => exact ⟨_, rfl, .inl rfl⟩

/-- A Work reader is alone after a step only if it was alone, or has just
joined its writer. -/
theorem workReaderStep_alone {pc pc' : WorkReaderPc} {input : ReaderInput WorkResponse}
    (h : workReaderStep env c pc input = some (pc', c')) (hAlone : pc'.alone = true) :
    pc.alone = true ∨ ∃ fence, pc = .closing fence := by
  cases workReaderStep_branch h with
  | opened | unopened | ended | rejected | lost | lastTerminal | lastSignal => exact .inl rfl
  | closed => exact .inr ⟨_, rfl⟩
  | followUp hFollow => cases followUpStep_branch hFollow <;> cases hAlone
  | _ => cases hAlone

/-- A Control reader keeps its fence until it exits. -/
theorem controlReaderStep_fence {pc pc' : ControlReaderPc} {input : ReaderInput ControlResponse}
    (h : controlReaderStep env c pc input = some (pc', c')) :
    ∃ fence, pc.fence? = some fence ∧ (pc'.fence? = some fence ∨ pc' = .exited) := by
  cases controlReaderStep_branch h with
  | unopened | ended | lastTerminal | lastSignal => exact ⟨_, rfl, .inr rfl⟩
  | _ => exact ⟨_, rfl, .inl rfl⟩

/-- A Control reader is alone only after it has joined its writer. -/
theorem controlReaderStep_alone {pc pc' : ControlReaderPc} {input : ReaderInput ControlResponse}
    (h : controlReaderStep env c pc input = some (pc', c')) (hAlone : pc'.alone = true) :
    pc.alone = true ∨ ∃ fence, pc = .closing fence := by
  cases controlReaderStep_branch h with
  | opened | unopened | ended | rejected | lost | lastTerminal | lastSignal => exact .inl rfl
  | closed => exact .inr ⟨_, rfl⟩
  | _ => cases hAlone

/-- A Work writer keeps its fence until it exits. -/
theorem workWriterStep_fence {pc pc' : WorkWriterPc} {input : WriterInput}
    (h : workWriterStep env c pc input = some (pc', c')) :
    ∃ fence, pc.fence? = some fence ∧ (pc'.fence? = some fence ∨ pc' = .exited) := by
  cases workWriterStep_branch h with
  | ended | signal => exact ⟨_, rfl, .inr rfl⟩
  | _ => exact ⟨_, rfl, .inl rfl⟩

/-- After a write the Control writer goes on under its fence. -/
theorem fence_afterControlWrite (fence : SessionFence) (frame : ControlFrame) :
    (afterControlWrite fence frame).fence? = some fence := by
  cases frame with
  | applyInstanceSpecResult result =>
    simp only [afterControlWrite]
    split
    · rfl
    · split <;> rfl
  | _ => rfl

/-- A Control writer keeps its fence until it exits. -/
theorem controlWriterStep_fence {pc pc' : ControlWriterPc} {input : WriterInput}
    (h : controlWriterStep env c pc input = some (pc', c')) :
    ∃ fence, pc.fence? = some fence ∧ (pc'.fence? = some fence ∨ pc' = .exited) := by
  cases controlWriterStep_branch h with
  | ended | signal | terminal => exact ⟨_, rfl, .inr rfl⟩
  | write => exact ⟨_, rfl, .inl (fence_afterControlWrite _ _)⟩
  | _ => exact ⟨_, rfl, .inl rfl⟩

end Fences

-- ---------------------------------------------------------------------------
-- Threads
-- ---------------------------------------------------------------------------

/-- The fence is that of the pair the client is in. -/
structure Current (c : Client) (fence : SessionFence) : Prop where
  sessionId : fence.sessionId = c.session.sessionId
  epoch : fence.connectionEpoch = c.session.connectionEpochCounter

/-- Both clients are in the same pair. -/
structure Client.SamePair (c c' : Client) : Prop where
  sessionId : c'.session.sessionId = c.session.sessionId
  epoch : c'.session.connectionEpochCounter = c.session.connectionEpochCounter
  frameLimit : c'.session.maximumWorkFrameBytes = c.session.maximumWorkFrameBytes

theorem Client.Steady.samePair {c c' : Client} (h : c.Steady c') : c.SamePair c' :=
  ⟨h.sessionId, h.epoch, h.frameLimit⟩

theorem Current.samePair {c c' : Client} {fence : SessionFence} (h : Current c fence)
    (hPair : c.SamePair c') : Current c' fence :=
  ⟨h.sessionId.trans hPair.sessionId.symm, h.epoch.trans hPair.epoch.symm⟩

/-- The session of this fence is the one installed. -/
structure Installed (c : Client) (fence : SessionFence) : Prop where
  valid : fence.Valid
  sessionId : c.session.sessionId = fence.sessionId
  frameLimit : c.session.maximumWorkFrameBytes = fence.maximumWorkFrameBytes

theorem Installed.samePair {c c' : Client} {fence : SessionFence} (h : Installed c fence)
    (hPair : c.SamePair c') : Installed c' fence :=
  ⟨h.valid, hPair.sessionId.trans h.sessionId, hPair.frameLimit.trans h.frameLimit⟩

/-- The program counters fit together, and every fence in use is current. -/
structure Threads (s : System) : Prop where
  workReader : s.supervisor.phase.work = false → s.workReader.fence? = none
  controlReader : s.supervisor.phase.control = false → s.controlReader.fence? = none
  workWriter : s.workReader.alone = true → s.workWriter.fence? = none
  controlWriter : s.controlReader.alone = true → s.controlWriter.fence? = none
  workReaderFence : ∀ fence, s.workReader.fence? = some fence → Current s.client fence
  controlReaderFence : ∀ fence, s.controlReader.fence? = some fence → Current s.client fence
  workWriterFence : ∀ fence, s.workWriter.fence? = some fence → Current s.client fence
  controlWriterFence : ∀ fence, s.controlWriter.fence? = some fence → Current s.client fence
  supervisorFence : ∀ fence, s.supervisor.pairFence? = some fence → Current s.client fence
  session : ∀ r, s.supervisor.supervision? = some r → Installed s.client r.fence
  registered : ∀ fence, s.supervisor.registered? = some fence → fence.Valid
  stopper : s.stopper.joined = true → s.supervisor = .notStarted

/-- A Work reader that is gone is alone. -/
theorem WorkReaderPc.alone_of_fence_none {pc : WorkReaderPc} (h : pc.fence? = none) :
    pc.alone = true := by
  cases pc <;> simp_all [fence?, alone]

/-- A Control reader that is gone is alone. -/
theorem ControlReaderPc.alone_of_fence_none {pc : ControlReaderPc} (h : pc.fence? = none) :
    pc.alone = true := by
  cases pc <;> simp_all [fence?, alone]

theorem System.workReaderDone_iff {s : System} :
    s.workReaderDone = true ↔ s.workReader.fence? = none := by
  unfold System.workReaderDone
  cases s.workReader <;> simp [WorkReaderPc.fence?]

theorem System.controlReaderDone_iff {s : System} :
    s.controlReaderDone = true ↔ s.controlReader.fence? = none := by
  unfold System.controlReaderDone
  cases s.controlReader <;> simp [ControlReaderPc.fence?]

theorem System.workWriterDone_iff {s : System} :
    s.workWriterDone = true ↔ s.workWriter.fence? = none := by
  unfold System.workWriterDone
  cases s.workWriter <;> simp [WorkWriterPc.fence?]

theorem System.controlWriterDone_iff {s : System} :
    s.controlWriterDone = true ↔ s.controlWriter.fence? = none := by
  unfold System.controlWriterDone
  cases s.controlWriter <;> simp [ControlWriterPc.fence?]

namespace Threads

variable {env : Env} {s : System} {c' : Client}

/-- A steady step of the client alone, with the workers and the callers of
`Start` and `Stop`. -/
theorem steady (h : Threads s) (hPair : s.client.SamePair c') (workers : Nat → WorkerPc)
    (threads : Nat) (starter : StartPc) (stopper : StopPc)
    (hStopper : stopper.joined = true → s.stopper.joined = true) :
    Threads { s with
      client := c', workers := workers, dispatchThreads := threads
      starter := starter, stopper := stopper } where
  workReader := h.workReader
  controlReader := h.controlReader
  workWriter := h.workWriter
  controlWriter := h.controlWriter
  workReaderFence fence hF := (h.workReaderFence fence hF).samePair hPair
  controlReaderFence fence hF := (h.controlReaderFence fence hF).samePair hPair
  workWriterFence fence hF := (h.workWriterFence fence hF).samePair hPair
  controlWriterFence fence hF := (h.controlWriterFence fence hF).samePair hPair
  supervisorFence fence hF := (h.supervisorFence fence hF).samePair hPair
  session r hR := (h.session r hR).samePair hPair
  registered := h.registered
  stopper hJoined := h.stopper (hStopper hJoined)

/-- A reader that moves on keeps its fence current. -/
theorem fence_of_step {α : Type} {fence? : α → Option SessionFence} {pc pc' : α}
    (hCurrent : ∀ fence, fence? pc = some fence → Current s.client fence)
    (hPair : s.client.SamePair c')
    (hFence : ∃ fence, fence? pc = some fence ∧ (fence? pc' = some fence ∨ fence? pc' = none)) :
    ∀ fence, fence? pc' = some fence → Current c' fence := by
  intro fence' hF
  obtain ⟨fence, hPc, hPc'⟩ := hFence
  rcases hPc' with hSame | hNone
  · rw [hSame] at hF
    cases hF
    exact (hCurrent _ hPc).samePair hPair
  · rw [hNone] at hF
    cases hF

/-- The threads after a step of the Work reader. -/
theorem workReaderStep (h : Threads s) {input : ReaderInput WorkResponse} {pc' : WorkReaderPc}
    {writer : WorkWriterPc} (hPair : s.client.SamePair c')
    (hStep : Model.workReaderStep env s.client s.workReader input = some (pc', c'))
    (hSpawn : writer = s.workWriter ∨
      ∃ fence, s.workReader = .opening fence ∧ pc' = .reading fence ∧ writer = .attach fence)
    (hJoin : ∀ fence, s.workReader = .closing fence → s.workWriterDone = true) :
    Threads { s with workReader := pc', client := c', workWriter := writer } := by
  obtain ⟨fence, hFence, hFence'⟩ := workReaderStep_fence hStep
  have hFence'' : pc'.fence? = some fence ∨ pc'.fence? = none :=
    hFence'.imp_right fun hExited => by rw [hExited]; rfl
  refine { h.steady hPair s.workers s.dispatchThreads s.starter s.stopper id with
    workReader := ?_, workWriter := ?_, workReaderFence := ?_, workWriterFence := ?_ }
  · intro hPhase
    rw [h.workReader hPhase] at hFence
    cases hFence
  · intro hAlone
    rcases hSpawn with rfl | ⟨_, _, rfl, _⟩
    · rcases workReaderStep_alone hStep hAlone with hWas | ⟨f, hClosing⟩
      · exact h.workWriter hWas
      · exact System.workWriterDone_iff.mp (hJoin f hClosing)
    · simp [WorkReaderPc.alone] at hAlone
  · exact fence_of_step h.workReaderFence hPair ⟨fence, hFence, hFence''⟩
  · rcases hSpawn with rfl | ⟨f, hOpening, _, rfl⟩
    · exact fun f hF => (h.workWriterFence f hF).samePair hPair
    · intro f' hF
      cases hF
      exact (h.workReaderFence f (by rw [hOpening]; rfl)).samePair hPair

/-- The threads after a step of the Control reader. -/
theorem controlReaderStep (h : Threads s) {input : ReaderInput ControlResponse}
    {pc' : ControlReaderPc} {writer : ControlWriterPc}
    (hStep : Model.controlReaderStep env s.client s.controlReader input = some (pc', c'))
    (hSpawn : writer = s.controlWriter ∨
      ∃ fence, s.controlReader = .opening fence ∧ pc' = .reading fence ∧ writer = .loop fence)
    (hJoin : ∀ fence, s.controlReader = .closing fence → s.controlWriterDone = true) :
    Threads { s with controlReader := pc', client := c', controlWriter := writer } := by
  have hPair := (steady_controlReaderStep hStep).samePair
  obtain ⟨fence, hFence, hFence'⟩ := controlReaderStep_fence hStep
  have hFence'' : pc'.fence? = some fence ∨ pc'.fence? = none :=
    hFence'.imp_right fun hExited => by rw [hExited]; rfl
  refine { h.steady hPair s.workers s.dispatchThreads s.starter s.stopper id with
    controlReader := ?_, controlWriter := ?_, controlReaderFence := ?_, controlWriterFence := ?_ }
  · intro hPhase
    rw [h.controlReader hPhase] at hFence
    cases hFence
  · intro hAlone
    rcases hSpawn with rfl | ⟨_, _, rfl, _⟩
    · rcases controlReaderStep_alone hStep hAlone with hWas | ⟨f, hClosing⟩
      · exact h.controlWriter hWas
      · exact System.controlWriterDone_iff.mp (hJoin f hClosing)
    · simp [ControlReaderPc.alone] at hAlone
  · exact fence_of_step h.controlReaderFence hPair ⟨fence, hFence, hFence''⟩
  · rcases hSpawn with rfl | ⟨f, hOpening, _, rfl⟩
    · exact fun f hF => (h.controlWriterFence f hF).samePair hPair
    · intro f' hF
      cases hF
      exact (h.controlReaderFence f (by rw [hOpening]; rfl)).samePair hPair

/-- The threads after a step of the Work writer. -/
theorem workWriterStep (h : Threads s) {input : WriterInput} {pc' : WorkWriterPc}
    (hStep : Model.workWriterStep env s.client s.workWriter input = some (pc', c')) :
    Threads { s with workWriter := pc', client := c' } := by
  have hPair := (steady_workWriterStep hStep).samePair
  obtain ⟨fence, hFence, hFence'⟩ := workWriterStep_fence hStep
  have hFence'' : pc'.fence? = some fence ∨ pc'.fence? = none :=
    hFence'.imp_right fun hExited => by rw [hExited]; rfl
  refine { h.steady hPair s.workers s.dispatchThreads s.starter s.stopper id with
    workWriter := ?_, workWriterFence := ?_ }
  · intro hAlone
    rw [h.workWriter hAlone] at hFence
    cases hFence
  · exact fence_of_step h.workWriterFence hPair ⟨fence, hFence, hFence''⟩

/-- The threads after a step of the Control writer. -/
theorem controlWriterStep (h : Threads s) {input : WriterInput} {pc' : ControlWriterPc}
    (hStep : Model.controlWriterStep env s.client s.controlWriter input = some (pc', c')) :
    Threads { s with controlWriter := pc', client := c' } := by
  have hPair := (steady_controlWriterStep hStep).samePair
  obtain ⟨fence, hFence, hFence'⟩ := controlWriterStep_fence hStep
  have hFence'' : pc'.fence? = some fence ∨ pc'.fence? = none :=
    hFence'.imp_right fun hExited => by rw [hExited]; rfl
  refine { h.steady hPair s.workers s.dispatchThreads s.starter s.stopper id with
    controlWriter := ?_, controlWriterFence := ?_ }
  · intro hAlone
    rw [h.controlWriter hAlone] at hFence
    cases hFence
  · exact fence_of_step h.controlWriterFence hPair ⟨fence, hFence, hFence''⟩

/-- With both streams joined, only the supervisor's own fields matter. -/
theorem of_joined {s' : System} (hWork : s'.workReader.fence? = none)
    (hControl : s'.controlReader.fence? = none) (hWorkWriter : s'.workWriter.fence? = none)
    (hControlWriter : s'.controlWriter.fence? = none)
    (hPair : ∀ fence, s'.supervisor.pairFence? = some fence → Current s'.client fence)
    (hSession : ∀ r, s'.supervisor.supervision? = some r → Installed s'.client r.fence)
    (hRegistered : ∀ fence, s'.supervisor.registered? = some fence → fence.Valid)
    (hStopper : s'.stopper.joined = true → s'.supervisor = .notStarted) : Threads s' where
  workReader _ := hWork
  controlReader _ := hControl
  workWriter _ := hWorkWriter
  controlWriter _ := hControlWriter
  workReaderFence := by simp [hWork]
  controlReaderFence := by simp [hControl]
  workWriterFence := by simp [hWorkWriter]
  controlWriterFence := by simp [hControlWriter]
  supervisorFence := hPair
  session := hSession
  registered := hRegistered
  stopper := hStopper

/-- A supervisor that takes a step has not been joined. -/
theorem stopper_of_supervisor (h : Threads s) (hPc : s.supervisor ≠ .notStarted) {pc' : SupervisorPc}
    (hJoined : s.stopper.joined = true) : pc' = .notStarted :=
  absurd (h.stopper hJoined) hPc

/-- A step of the supervisor between joining the streams and the next pair. -/
theorem supervisor_joined (h : Threads s) {pc' : SupervisorPc}
    (hStarted : s.supervisor ≠ .notStarted) (hWork : s.supervisor.phase.work = false)
    (hControl : s.supervisor.phase.control = false) (hSpawn : s.spawn pc' = s)
    (hPair : pc'.pairFence? = none)
    (hSession : ∀ r, pc'.supervision? = some r → Installed c' r.fence)
    (hRegistered : ∀ fence, pc'.registered? = some fence → fence.Valid) :
    Threads { s.spawn pc' with supervisor := pc', client := c' } := by
  have hWorkNone := h.workReader hWork
  have hControlNone := h.controlReader hControl
  rw [hSpawn]
  exact of_joined hWorkNone hControlNone
    (h.workWriter (WorkReaderPc.alone_of_fence_none hWorkNone))
    (h.controlWriter (ControlReaderPc.alone_of_fence_none hControlNone)) (by simp [hPair])
    hSession hRegistered (h.stopper_of_supervisor hStarted)

/-- Elsewhere the supervisor spawns nothing. -/
theorem spawn_of_phase {pc' : SupervisorPc} (hAttach : pc'.phase ≠ .opening)
    (hRunning : ∀ r fence, pc' ≠ .awaitFailure r fence) : s.spawn pc' = s := by
  unfold System.spawn
  split
  · simp [SupervisorPc.phase] at hAttach
  · exact absurd rfl (hRunning _ _)
  · rfl

/-- The threads after a step of the supervisor. -/
theorem supervisorStep (h : Threads s) {input : SupervisorInput} {pc' : SupervisorPc}
    (hStep : Model.supervisorStep env s.client s.controlReaderDone s.workReaderDone s.supervisor
      input = some (pc', c')) :
    Threads { s.spawn pc' with supervisor := pc', client := c' } := by
  have hMove := supervisorStep_cases hStep
  have hStarted : s.supervisor ≠ .notStarted := (supervisorStep_branch hStep).started.1
  generalize hPc : s.supervisor = pc at hMove
  have hSession := h.session
  -- a step that keeps the identity and the limit of the session keeps it installed
  have hKeep : ∀ r, pc.supervision? = some r →
      c'.session.sessionId = s.client.session.sessionId →
      c'.session.maximumWorkFrameBytes = s.client.session.maximumWorkFrameBytes →
      Installed c' r.fence := by
    intro r hR hId hLimit
    have hWas := hSession r (by rw [hPc]; exact hR)
    exact ⟨hWas.valid, hId.trans hWas.sessionId, hLimit.trans hWas.frameLimit⟩
  cases hMove with
  -- between pairs: the threads of the last pair have been joined
  | quiet hCore hRest hPhase hPhase' hSup hFence =>
    refine h.supervisor_joined hStarted (by rw [hPc, hPhase]; rfl) (by rw [hPc, hPhase]; rfl)
      (spawn_of_phase (by rw [hPhase']; decide) ?_) ?_ ?_ hFence
    · intro r fence hEq
      rw [hEq] at hPhase'
      simp [SupervisorPc.phase] at hPhase'
    · cases pc' <;> simp_all [SupervisorPc.phase, SupervisorPc.pairFence?]
    · intro r hR
      obtain ⟨r', hR', hFenceEq⟩ := hSup r hR
      rw [← hFenceEq]
      exact hKeep r' hR' hRest.sessionId hRest.frameLimit
  -- the fence installed is the one that was registered
  | install =>
    refine h.supervisor_joined hStarted (by rw [hPc]; rfl) (by rw [hPc]; rfl)
      (spawn_of_phase (by simp [SupervisorPc.phase]) (by simp)) rfl ?_ (by simp [SupervisorPc.registered?])
    intro r hR
    cases hR
    exact ⟨h.registered _ (by rw [hPc]; rfl), rfl, rfl⟩
  -- the Control reader is spawned; every other thread of a pair is gone
  | @prepare r fence hFence =>
    have hWorkNone := h.workReader (by rw [hPc]; rfl)
    have hControlNone := h.controlReader (by rw [hPc]; rfl)
    have hWorkWriter := h.workWriter (WorkReaderPc.alone_of_fence_none hWorkNone)
    have hControlWriter := h.controlWriter (ControlReaderPc.alone_of_fence_none hControlNone)
    have hInstalled := hSession r (by rw [hPc]; rfl)
    have hInstalled' : Installed (s.client.prepareConnectionPair fence) r.fence :=
      ⟨hInstalled.valid, hInstalled.sessionId, hInstalled.frameLimit⟩
    -- the pair is prepared under the fence of the session installed
    have hCurrent : Current (s.client.prepareConnectionPair fence) fence := by
      subst hFence
      exact ⟨hInstalled.sessionId.symm, rfl⟩
    simp only [System.spawn, hPc]
    constructor <;> simp_all [WorkReaderPc.fence?, ControlReaderPc.fence?, WorkReaderPc.alone,
      ControlReaderPc.alone, SupervisorPc.phase, PairPhase.work, PairPhase.control,
      SupervisorPc.pairFence?, SupervisorPc.supervision?, SupervisorPc.registered?]
    · cases hJoined : s.stopper.joined with
      | false => rfl
      | true =>
        have := h.stopper hJoined
        simp_all
  -- the gate is open: the Work reader is spawned beside the Control stream
  | @attach r fence hOpen hLive =>
    have hWorkNone := h.workReader (by rw [hPc]; rfl)
    have hWorkWriter := h.workWriter (WorkReaderPc.alone_of_fence_none hWorkNone)
    have hCurrent := h.supervisorFence fence (by rw [hPc]; rfl)
    simp only [System.spawn, hPc]
    refine { h with
      workReader := ?_, controlReader := ?_, workWriter := ?_, workReaderFence := ?_
      supervisorFence := ?_, session := ?_, registered := ?_, stopper := ?_ }
    · simp [SupervisorPc.phase, PairPhase.work]
    · simp [SupervisorPc.phase, PairPhase.control]
    · exact fun _ => hWorkWriter
    · intro f hF
      cases hF
      exact hCurrent
    · intro f hF
      cases hF
      exact hCurrent
    · intro r' hR
      exact hSession r' (by rw [hPc]; exact hR)
    · simp [SupervisorPc.registered?]
    · exact h.stopper_of_supervisor hStarted
  -- the pair is over; its readers are still there
  | @ended _ r fence hWas hOver =>
    have hControl : pc.phase.control = true := by rcases hWas with rfl | rfl <;> rfl
    rw [spawn_of_phase (by simp [SupervisorPc.phase]) (by simp)]
    refine { h with
      workReader := ?_, controlReader := ?_, supervisorFence := ?_, session := ?_
      registered := ?_, stopper := ?_ }
    · simp [SupervisorPc.phase, PairPhase.work]
    · simp [SupervisorPc.phase, PairPhase.control]
    · simp [SupervisorPc.pairFence?]
    · intro r' hR
      cases hR
      exact hSession r (by rw [hPc]; rcases hWas with rfl | rfl <;> rfl)
    · simp [SupervisorPc.registered?]
    · exact h.stopper_of_supervisor hStarted
  -- the Control reader has exited, and with it its writer
  | @joinControl r hDone =>
    rw [spawn_of_phase (by simp [SupervisorPc.phase]) (by simp)]
    refine { h with
      workReader := ?_, controlReader := ?_, supervisorFence := ?_, session := ?_
      registered := ?_, stopper := ?_ }
    · simp [SupervisorPc.phase, PairPhase.work]
    · exact fun _ => System.controlReaderDone_iff.mp hDone
    · simp [SupervisorPc.pairFence?]
    · intro r' hR
      cases hR
      exact hSession r (by rw [hPc]; rfl)
    · simp [SupervisorPc.registered?]
    · exact h.stopper_of_supervisor hStarted
  -- the Work reader has exited too
  | @joinWork r hDone =>
    have hControlNone := h.controlReader (by rw [hPc]; rfl)
    rw [spawn_of_phase (by simp [SupervisorPc.phase]) (by simp)]
    refine { h with
      workReader := ?_, controlReader := ?_, supervisorFence := ?_, session := ?_
      registered := ?_, stopper := ?_ }
    · exact fun _ => System.workReaderDone_iff.mp hDone
    · exact fun _ => hControlNone
    · simp [SupervisorPc.pairFence?]
    · intro r' hR
      cases hR
      exact hSession r (by rw [hPc]; rfl)
    · simp [SupervisorPc.registered?]
    · exact h.stopper_of_supervisor hStarted
  | replaceBegin | replaceWait | release | clear =>
    refine h.supervisor_joined hStarted (by rw [hPc]; rfl) (by rw [hPc]; rfl)
      (spawn_of_phase (by simp [SupervisorPc.phase]) (by simp)) rfl ?_ (by simp [SupervisorPc.registered?])
    intro r' hR
    exact hKeep r' hR rfl rfl
  | advance =>
    refine h.supervisor_joined hStarted (by rw [hPc]; rfl) (by rw [hPc]; rfl)
      (spawn_of_phase (by simp [SupervisorPc.phase]) (by simp)) rfl ?_ (by simp [SupervisorPc.registered?])
    intro r' hR
    refine hKeep r' hR ?_ ?_ <;>
    · unfold Client.advanceEpoch
      split <;> rfl
  | deactivate | endSession =>
    refine h.supervisor_joined hStarted (by rw [hPc]; rfl) (by rw [hPc]; rfl)
      (spawn_of_phase (by simp [SupervisorPc.phase]) (by simp)) rfl (by simp [SupervisorPc.supervision?])
      (by simp [SupervisorPc.registered?])

end Threads

-- ---------------------------------------------------------------------------
-- Workers
-- ---------------------------------------------------------------------------

/-- A worker counts one when it holds a job. -/
def WorkerPc.load (pc : WorkerPc) : Nat := if pc.job?.isSome then 1 else 0

/-- The client with another value of `active_dispatch_jobs_`. -/
def Client.withActive (c : Client) (n : Nat) : Client :=
  { c with queues := { c.queues with activeDispatchJobs := n } }

section Workers

variable {env : Env} {c c' : Client} {pc pc' : WorkerPc}

/-- A worker with a job carries one. -/
theorem WorkerPc.load_eq {job : DispatchJob} (h : pc.job? = some job) : pc.load = 1 := by
  simp [WorkerPc.load, h]

/-- A step of a worker keeps the lifecycle members, and counts its own job. -/
theorem WorkerMove.subsides (h : WorkerMove env c pc pc' c') :
    ((c.withActive (c.queues.activeDispatchJobs + pc'.load - pc.load)).withFlight
      c'.queues.inFlightWork).Subsides c' := by
  have hCalm : c.Subsides c' → pc'.load = pc.load →
      ((c.withActive (c.queues.activeDispatchJobs + pc'.load - pc.load)).withFlight
        c'.queues.inFlightWork).Subsides c' := by
    intro hRest hLoad
    rw [hLoad, Nat.add_sub_cancel]
    exact hRest.withFlight
  cases h with
  | exit => exact .refl _
  | pop hQueue =>
    constructor <;>
      simp [Client.withActive, Client.withFlight, Client.popped, WorkerPc.load, WorkerPc.job?]
  | quiet hJob hJob' hCore hRest hStage =>
    have hLoad : c.queues.activeDispatchJobs + pc'.load - pc.load =
        c.queues.activeDispatchJobs := by
      simp [WorkerPc.load, hJob, hJob']
    rw [hLoad]
    exact hRest
  | accept now | startOperation now | startUnary hKind | returnUnary _ hKind
  | returnOperation _ hKind | startSource | returnSource =>
    refine hCalm (.of_surround ?_) rfl
    simp only [Client.surround_recordStarted, Client.surround_recordReturned,
      Client.surround_queued]
  | commit now hJob hDue hNext hAdmits hEntry hLedger =>
    refine hCalm (.of_surround rfl) ?_
    rw [WorkerPc.load_eq hJob]
    rcases hNext with rfl | rfl <;> rfl
  | refuse now hJob hDue hCommit hResult hNext =>
    refine hCalm ?_ ?_
    · obtain ⟨hCommitted, -⟩ | ⟨-, hRefused⟩ := Client.commitTerminalFrame_cases hCommit
      · exact absurd hCommitted hResult
      · exact .of_surround hRefused.surround
    · rw [WorkerPc.load_eq hJob]
      rcases hNext with ⟨-, -, rfl⟩ | ⟨_, _, -, rfl⟩ <;> rfl
  | erase hCore hRest => exact hCalm hRest rfl
  | leave => exact .refl _
  | finish hCore hRest => exact hRest
  | @commitSource _ _ job decision _ hCommit hJob' hStage' =>
    refine hCalm (.of_surround ?_) (WorkerPc.load_eq hJob')
    obtain ⟨-, rfl, -⟩ | ⟨source, -, -, -, -, hCases⟩ := commitSourceOpen_cases hCommit
    · rfl
    · obtain ⟨-, hRefused⟩ | ⟨-, -, rfl⟩ | ⟨-, -, digest, rfl⟩ := hCases
      · exact hRefused.surround
      · rfl
      · rfl
  | leaveSource hCore hRest => exact hRest

/-- A step of a worker adds no token. -/
theorem WorkerMove.workTokens (h : WorkerMove env c pc pc' c') {workId : Text}
    (hNone : c.tables.workTokens.lookup workId = none) :
    c'.tables.workTokens.lookup workId = none := by
  have hErase : ∀ k : Text, (c.tables.workTokens.erase k).lookup workId = none := by
    intro k
    rw [Store.lookup_erase_ite]
    split
    · rfl
    · exact hNone
  have hTables : ∀ {c₁ : Client}, c'.core = c₁.core → c'.tables = c₁.tables :=
    fun hCore => congrArg Core.tables hCore
  have hRecord : ∀ job, (c.recordStarted job).tables = c.tables := by
    intro job
    unfold Client.recordStarted
    split <;> rfl
  have hReturn : ∀ result job, (c.recordReturned result job).tables = c.tables := by
    intro result job
    unfold Client.recordReturned
    split <;> rfl
  cases h with
  -- no step adds a token
  | exit => exact hNone
  | pop hQueue => exact hNone
  | quiet hJob hJob' hCore hRest hStage =>
    rw [hTables hCore]
    exact hNone
  | accept now => exact hNone
  | startOperation now =>
    unfold Client.recordStarted
    split <;> exact hNone
  | startUnary hKind | startSource =>
    rw [hRecord]
    exact hNone
  | returnUnary _ hKind | returnOperation _ hKind | returnSource =>
    rw [hReturn]
    exact hNone
  | commit now hJob hDue hNext hAdmits hEntry hLedger =>
    -- the commit of a job erases its token
    rw [Client.tables_committed, Client.retainTerminal_workTokens]
    split
    · exact hErase _
    · exact hNone
  | refuse now hJob hDue hCommit hResult hNext =>
    obtain ⟨hCommitted, -⟩ | ⟨-, hRefused⟩ := Client.commitTerminalFrame_cases hCommit
    · exact absurd hCommitted hResult
    · rw [hTables hRefused.core]
      exact hNone
  | erase hCore hRest | finish hCore hRest =>
    -- so does the worker that releases it
    rw [hTables hCore]
    change (c.tables.releaseWorkToken _).workTokens.lookup workId = none
    rw [Tables.releaseWorkToken_workTokens]
    exact hErase _
  | leave => exact hNone
  | commitSource hCommit hJob' hStage' =>
    -- a source open has none
    obtain ⟨-, rfl, -⟩ | ⟨source, -, -, -, -, hCases⟩ := commitSourceOpen_cases hCommit
    · exact hNone
    · obtain ⟨-, hRefused⟩ | ⟨-, -, rfl⟩ | ⟨-, -, digest, rfl⟩ := hCases
      · rw [hTables hRefused.core]
        exact hNone
      · exact hNone
      · exact hNone
  | leaveSource hCore hRest =>
    rw [hTables hCore]
    exact hNone

/-- A step of a worker takes at most the first job out of the dispatch queue,
and holds the job it held or the one it took. -/
theorem WorkerMove.dispatch (h : WorkerMove env c pc pc' c') :
    (∃ job, c.queues.dispatch = job :: c'.queues.dispatch ∧ pc.job? = none ∧
      pc' = .popped job) ∨
    (c'.queues.dispatch = c.queues.dispatch ∧ (pc'.job? = pc.job? ∨ pc'.job? = none)) := by
  have hDispatch : ∀ {c₁ : Client}, c'.core = c₁.core →
      c'.queues.dispatch = c₁.queues.dispatch :=
    fun hCore => congrArg Core.dispatch hCore
  cases h with
  | exit => exact .inr ⟨rfl, .inl rfl⟩
  | pop hQueue => exact .inl ⟨_, hQueue, rfl, rfl⟩
  | quiet hJob hJob' hCore hRest hStage => exact .inr ⟨hDispatch hCore, .inl (hJob'.trans hJob.symm)⟩
  | accept now => exact .inr ⟨rfl, .inl rfl⟩
  | startOperation now | startUnary hKind | startSource =>
    refine .inr ⟨?_, .inl rfl⟩
    unfold Client.recordStarted
    split <;> rfl
  | returnUnary _ hKind | returnOperation _ hKind | returnSource =>
    refine .inr ⟨?_, .inl rfl⟩
    unfold Client.recordReturned
    split <;> rfl
  | commit now hJob hDue hNext hAdmits hEntry hLedger =>
    refine .inr ⟨rfl, .inl ?_⟩
    rw [hJob]
    rcases hNext with rfl | rfl <;> rfl
  | refuse now hJob hDue hCommit hResult hNext =>
    obtain ⟨hCommitted, -⟩ | ⟨-, hRefused⟩ := Client.commitTerminalFrame_cases hCommit
    · exact absurd hCommitted hResult
    · refine .inr ⟨hDispatch hRefused.core, .inl ?_⟩
      rw [hJob]
      rcases hNext with ⟨-, -, rfl⟩ | ⟨_, _, -, rfl⟩ <;> rfl
  | erase hCore hRest =>
    have hSame := hDispatch hCore
    exact .inr ⟨hSame, .inl rfl⟩
  | finish hCore hRest =>
    have hSame := hDispatch hCore
    exact .inr ⟨hSame, .inr rfl⟩
  | leave => exact .inr ⟨rfl, .inr rfl⟩
  | commitSource hCommit hJob' hStage' =>
    refine .inr ⟨?_, .inl hJob'⟩
    obtain ⟨-, rfl, -⟩ | ⟨source, -, -, -, -, hCases⟩ := commitSourceOpen_cases hCommit
    · rfl
    · obtain ⟨-, hRefused⟩ | ⟨-, -, rfl⟩ | ⟨-, -, digest, rfl⟩ := hCases
      · exact hDispatch hRefused.core
      · rfl
      · rfl
  | leaveSource hCore hRest => exact .inr ⟨hDispatch hCore, .inr rfl⟩

end Workers

-- ---------------------------------------------------------------------------
-- Occupancy
-- ---------------------------------------------------------------------------

/-- Where jobs and tokens can be. -/
structure Occupancy (s : System) : Prop where
  active : s.client.queues.activeDispatchJobs =
    ∑ i ∈ Finset.range s.dispatchThreads, (s.workers i).load
  beyond : ∀ i, s.dispatchThreads ≤ i → s.workers i = .notStarted
  queue : s.supervisor.phase.queues = false → s.client.queues.dispatch = []
  holds : s.supervisor.phase.holds = false → ∀ i, (s.workers i).job? = none
  tokens : s.supervisor.phase.tokens = false → s.client.tables.workTokens = ∅

namespace Occupancy

variable {env : Env} {s s' : System}

/-- A step that leaves the Work plane and the threads of the pair alone. -/
theorem of_quiet (h : Occupancy s) (hWorkers : s'.workers = s.workers)
    (hThreads : s'.dispatchThreads = s.dispatchThreads)
    (hPhase : s'.supervisor.phase = s.supervisor.phase)
    (hActive : s'.client.queues.activeDispatchJobs = s.client.queues.activeDispatchJobs)
    (hDispatch : s'.client.queues.dispatch = s.client.queues.dispatch)
    (hTokens : s'.client.tables.workTokens = s.client.tables.workTokens) : Occupancy s' := by
  constructor
  · rw [hActive, hThreads, hWorkers]
    exact h.active
  · rw [hThreads, hWorkers]
    exact h.beyond
  · rw [hPhase, hDispatch]
    exact h.queue
  · rw [hPhase, hWorkers]
    exact h.holds
  · rw [hPhase, hTokens]
    exact h.tokens

/-- A quiet step in terms of the core. -/
theorem of_core (h : Occupancy s) (hWorkers : s'.workers = s.workers)
    (hThreads : s'.dispatchThreads = s.dispatchThreads)
    (hPhase : s'.supervisor.phase = s.supervisor.phase) (hSteady : s.client.Steady s'.client)
    (hCore : s'.client.core = s.client.core ∨ s'.client.core = s.client.core.deactivated) :
    Occupancy s' := by
  refine h.of_quiet hWorkers hThreads hPhase hSteady.active ?_ ?_
  · rcases hCore with hCore | hCore
    · exact congrArg Core.dispatch hCore
    · exact congrArg Core.dispatch hCore
  · rcases hCore with hCore | hCore
    · exact congrArg (fun k => k.tables.workTokens) hCore
    · exact congrArg (fun k => k.tables.workTokens) hCore

/-- What one worker moves of a sum over the workers. -/
theorem sum_setWorker (f : WorkerPc → Nat) {n i : Nat} (hi : i < n) (pc' : WorkerPc) :
    (∑ j ∈ Finset.range n, f ((s.setWorker i pc').workers j)) + f (s.workers i) =
      (∑ j ∈ Finset.range n, f (s.workers j)) + f pc' := by
  have hMem : i ∈ Finset.range n := Finset.mem_range.mpr hi
  rw [← Finset.add_sum_erase _ _ hMem, ← Finset.add_sum_erase _ (fun j => f (s.workers j)) hMem]
  have hRest : ∑ j ∈ (Finset.range n).erase i, f ((s.setWorker i pc').workers j) =
      ∑ j ∈ (Finset.range n).erase i, f (s.workers j) := by
    refine Finset.sum_congr rfl fun j hj => ?_
    simp [System.setWorker, Finset.ne_of_mem_erase hj]
  have hSelf : f ((s.setWorker i pc').workers i) = f pc' := by simp [System.setWorker]
  rw [hRest, hSelf]
  omega

/-- The jobs are counted after a step of a worker. -/
theorem workerStep (h : Occupancy s) {i : Nat} {input : WorkerInput} {pc' : WorkerPc}
    {c' : Client} (hStep : Model.workerStep env s.client (s.workers i) input = some (pc', c')) :
    Occupancy { s.setWorker i pc' with client := c' } := by
  have hMove := workerStep_cases hStep
  have hi : i < s.dispatchThreads := by
    by_contra hNot
    rw [h.beyond i (Nat.not_lt.mp hNot)] at hStep
    cases input <;> cases hStep
  have hLoad : (s.workers i).load ≤ s.client.queues.activeDispatchJobs := by
    rw [h.active]
    exact Finset.single_le_sum (f := fun j => (s.workers j).load) (fun _ _ => Nat.zero_le _)
      (Finset.mem_range.mpr hi)
  constructor
  · have hSum := sum_setWorker (s := s) WorkerPc.load hi pc'
    have hActive : c'.queues.activeDispatchJobs =
      s.client.queues.activeDispatchJobs + pc'.load - (s.workers i).load := hMove.subsides.active
    have hBefore := h.active
    change c'.queues.activeDispatchJobs =
      ∑ j ∈ Finset.range s.dispatchThreads, ((s.setWorker i pc').workers j).load
    omega
  · intro j hj
    have hNe : j ≠ i := by
      intro hEq
      change s.dispatchThreads ≤ j at hj
      omega
    simp [System.setWorker, hNe, h.beyond j hj]
  · intro hPhase
    obtain ⟨job, hQueue, -, -⟩ | ⟨hSame, -⟩ := hMove.dispatch
    · rw [h.queue hPhase] at hQueue
      cases hQueue
    · exact hSame.trans (h.queue hPhase)
  · intro hPhase j
    have hQueues : s.supervisor.phase.queues = false := by
      change s.supervisor.phase.holds = false at hPhase
      cases hP : s.supervisor.phase <;> simp_all [PairPhase.holds, PairPhase.queues]
    by_cases hEq : j = i
    · subst hEq
      simp only [System.setWorker, if_true]
      obtain ⟨job, hQueue, -, -⟩ | ⟨-, hJob⟩ := hMove.dispatch
      · rw [h.queue hQueues] at hQueue
        cases hQueue
      · rcases hJob with hJob | hJob
        · rw [hJob]
          exact h.holds hPhase j
        · exact hJob
    · simp only [System.setWorker, hEq, if_false]
      exact h.holds hPhase j
  · intro hPhase
    refine Store.eq_empty_of_lookup fun k => hMove.workTokens ?_
    rw [h.tokens hPhase]
    rfl

/-- Steps while jobs and tokens may be anywhere. -/
theorem of_running (h : Occupancy s) (hWorkers : s'.workers = s.workers)
    (hThreads : s'.dispatchThreads = s.dispatchThreads)
    (hPhase : s'.supervisor.phase.queues = true)
    (hActive : s'.client.queues.activeDispatchJobs = s.client.queues.activeDispatchJobs) :
    Occupancy s' := by
  have hHolds : s'.supervisor.phase.holds = true := by
    cases hP : s'.supervisor.phase <;> simp_all [PairPhase.holds, PairPhase.queues]
  have hTokens : s'.supervisor.phase.tokens = true := by
    cases hP : s'.supervisor.phase <;> simp_all [PairPhase.tokens, PairPhase.queues]
  constructor
  · rw [hActive, hThreads, hWorkers]
    exact h.active
  · rw [hThreads, hWorkers]
    exact h.beyond
  · simp [hPhase]
  · simp [hHolds]
  · simp [hTokens]

/-- Steps after which nothing is held. -/
theorem of_empty (h : Occupancy s) (hWorkers : s'.workers = s.workers)
    (hThreads : s'.dispatchThreads = s.dispatchThreads)
    (hActive : s'.client.queues.activeDispatchJobs = s.client.queues.activeDispatchJobs)
    (hDispatch : s'.client.queues.dispatch = []) (hJobs : ∀ i, (s.workers i).job? = none)
    (hTokens : s'.client.tables.workTokens = ∅) : Occupancy s' := by
  constructor
  · rw [hActive, hThreads, hWorkers]
    exact h.active
  · rw [hThreads, hWorkers]
    exact h.beyond
  · exact fun _ => hDispatch
  · rw [hWorkers]
    exact fun _ => hJobs
  · exact fun _ => hTokens

/-- When no job is counted, no worker holds one. -/
theorem job_none_of_active (h : Occupancy s) (hActive : s.client.queues.activeDispatchJobs = 0)
    (i : Nat) : (s.workers i).job? = none := by
  by_cases hi : i < s.dispatchThreads
  · have hSum := h.active
    rw [hActive, eq_comm, Finset.sum_eq_zero_iff] at hSum
    have hLoad := hSum i (Finset.mem_range.mpr hi)
    simpa [WorkerPc.load] using hLoad
  · rw [h.beyond i (Nat.not_lt.mp hi)]
    rfl

/-- The jobs are counted after a step of the supervisor. -/
theorem supervisorStep (h : Occupancy s) {input : SupervisorInput} {pc' : SupervisorPc}
    {c' : Client}
    (hStep : Model.supervisorStep env s.client s.controlReaderDone s.workReaderDone s.supervisor
      input = some (pc', c')) :
    Occupancy { s.spawn pc' with supervisor := pc', client := c' } := by
  have hMove := supervisorStep_cases hStep
  generalize hPc : s.supervisor = pc at hMove
  have hSpawn : (s.spawn pc').workers = s.workers ∧
      (s.spawn pc').dispatchThreads = s.dispatchThreads := by
    unfold System.spawn
    split <;> exact ⟨rfl, rfl⟩
  have hQueue := h.queue
  have hHolds := h.holds
  have hTokens := h.tokens
  rw [hPc] at hQueue hHolds hTokens
  cases hMove with
  | quiet hCore hRest hPhase hPhase' hSup hFence =>
    rw [hPhase] at hQueue hHolds hTokens
    refine h.of_empty hSpawn.1 hSpawn.2 hRest.active ?_ (hHolds rfl) ?_
    · exact (congrArg Core.dispatch hCore).trans (hQueue rfl)
    · exact (congrArg (fun k => k.tables.workTokens) hCore).trans (hTokens rfl)
  | install => exact h.of_empty hSpawn.1 hSpawn.2 rfl rfl (hHolds rfl) (hTokens rfl)
  | prepare hFence =>
    refine h.of_empty hSpawn.1 hSpawn.2 rfl rfl (hHolds rfl) ?_
    change s.client.tables.releaseAllWorkTokens.workTokens = ∅
    simp
  | attach hOpen hLive => exact h.of_running hSpawn.1 hSpawn.2 rfl rfl
  | ended hWas hOver => exact h.of_running hSpawn.1 hSpawn.2 rfl rfl
  | joinControl hDone => exact h.of_running hSpawn.1 hSpawn.2 rfl rfl
  | joinWork hDone => exact h.of_running hSpawn.1 hSpawn.2 rfl rfl
  | replaceBegin =>
    constructor
    · rw [hSpawn.1, hSpawn.2]
      exact h.active
    · rw [hSpawn.1, hSpawn.2]
      exact h.beyond
    · exact fun _ => rfl
    · simp [SupervisorPc.phase, PairPhase.holds]
    · simp [SupervisorPc.phase, PairPhase.tokens]
  | replaceWait hQuiet =>
    have hActive : s.client.queues.activeDispatchJobs = 0 := by
      simp only [Client.callbacksQuiet, Bool.and_eq_true, beq_iff_eq] at hQuiet
      exact hQuiet.2
    constructor
    · rw [hSpawn.1, hSpawn.2]
      exact h.active
    · rw [hSpawn.1, hSpawn.2]
      exact h.beyond
    · exact fun _ => hQueue rfl
    · rw [hSpawn.1]
      exact fun _ => h.job_none_of_active hActive
    · simp [SupervisorPc.phase, PairPhase.tokens]
  | release =>
    refine h.of_empty hSpawn.1 hSpawn.2 rfl (hQueue rfl) (hHolds rfl) ?_
    change s.client.tables.releaseAllWorkTokens.workTokens = ∅
    simp
  | clear =>
    refine h.of_empty hSpawn.1 hSpawn.2 rfl rfl (hHolds rfl) ?_
    change s.client.tables.releaseAllWorkTokens.workTokens = ∅
    simp
  | advance =>
    have hCore := Client.core_advanceEpoch s.client
    refine h.of_empty hSpawn.1 hSpawn.2 ?_ ?_ (hHolds rfl) ?_
    · unfold Client.advanceEpoch
      split <;> rfl
    · exact (congrArg Core.dispatch hCore).trans (hQueue rfl)
    · exact (congrArg (fun k => k.tables.workTokens) hCore).trans (hTokens rfl)
  | deactivate => exact h.of_empty hSpawn.1 hSpawn.2 rfl (hQueue rfl) (hHolds rfl) (hTokens rfl)
  | endSession =>
    refine h.of_empty hSpawn.1 hSpawn.2 rfl rfl (hHolds rfl) ?_
    change s.client.tables.releaseAllWorkTokens.workTokens = ∅
    simp

end Occupancy

-- ---------------------------------------------------------------------------
-- The shape of reachable states
-- ---------------------------------------------------------------------------

theorem ReaderMove.subsides {env : Env} {c c' : Client} {pc pc' : WorkReaderPc}
    (h : ReaderMove env c pc pc' c') : c.Subsides c' := by
  cases h with
  | quiet hCore hRest hPending => exact hRest
  | answer hCore hRest hRetained => exact hRest
  | immediate hJob hVerdict hCore hRest => exact hRest
  | retireSource hCore hRest => exact hRest
  | cancelRefused hFrame hIdentity hActive hEpoch hPhase hRefused =>
    exact .trans (.sourceCancelled _) (.of_surround hRefused.surround)
  | cancelOpening => exact .sourceCancelled _
  | cancelOpened => exact .trans (.sourceCancelled _) (.of_surround rfl)
  | report | replay | commit | accept | admitSource | rejectSource | grant | lateGrant
  | acknowledge | acknowledgeSource => exact .of_surround rfl

/-- What every reachable state looks like. -/
structure Shape (s : System) : Prop where
  threads : Threads s
  occupancy : Occupancy s
  kinds : ∀ i, (s.workers i).KindOk

variable {env : Env} {s s' : System}

theorem subsides_publishSource {c : Client} {streamId : Text} {items : List Text} :
    c.Subsides (publishSource env c streamId items).2 := by
  obtain ⟨-, source, -, hEq⟩ | ⟨-, hRefused⟩ :=
    publishSource_cases (Prod.mk.eta (p := publishSource env c streamId items)).symm
  · rw [hEq]
    exact .of_surround rfl
  · exact .of_surround hRefused.surround

theorem subsides_closeSource {c : Client} {streamId : Text} {error : Option AdapterError} :
    c.Subsides (closeSource env c streamId error).2 := by
  obtain ⟨-, source, digest, -, -, -, hEq⟩ | ⟨-, hRefused⟩ :=
    closeSource_cases (Prod.mk.eta (p := closeSource env c streamId error)).symm
  · rw [hEq]
    exact .of_surround rfl
  · exact .of_surround hRefused.surround

/-- The client starts in shape. -/
theorem Shape.init : Shape (machine env).init := by
  constructor
  · constructor <;> simp [machine, WorkReaderPc.fence?, ControlReaderPc.fence?,
      WorkWriterPc.fence?, ControlWriterPc.fence?, SupervisorPc.pairFence?,
      SupervisorPc.supervision?, SupervisorPc.registered?]
  · constructor <;> simp [machine, WorkerPc.job?]
  · intro i
    trivial

theorem tokens_publishSource {c : Client} {streamId : Text} {items : List Text} :
    (publishSource env c streamId items).2.tables.workTokens = c.tables.workTokens ∧
    (publishSource env c streamId items).2.queues.dispatch = c.queues.dispatch := by
  obtain ⟨-, source, -, hEq⟩ | ⟨-, hRefused⟩ :=
    publishSource_cases (Prod.mk.eta (p := publishSource env c streamId items)).symm
  · rw [hEq]
    exact ⟨rfl, rfl⟩
  · rcases hRefused with hEq | hEq <;> rw [hEq] <;> exact ⟨rfl, rfl⟩

theorem tokens_closeSource {c : Client} {streamId : Text} {error : Option AdapterError} :
    (closeSource env c streamId error).2.tables.workTokens = c.tables.workTokens ∧
    (closeSource env c streamId error).2.queues.dispatch = c.queues.dispatch := by
  obtain ⟨-, source, digest, -, -, -, hEq⟩ | ⟨-, hRefused⟩ :=
    closeSource_cases (Prod.mk.eta (p := closeSource env c streamId error)).symm
  · rw [hEq]
    exact ⟨rfl, rfl⟩
  · rcases hRefused with hEq | hEq <;> rw [hEq] <;> exact ⟨rfl, rfl⟩

/-- Every step keeps the threads in shape. -/
theorem Threads.step {a : Action} (h : Threads s) (hStep : s.step env a = some s') :
    Threads s' := by
  cases System.step_cases hStep with
  | @worker i input pc' c' hWorker =>
    have hRest := (workerStep_cases hWorker).subsides
    exact h.steady ⟨hRest.sessionId, hRest.epoch, hRest.frameLimit⟩ _ _ _ _ id
  | workReader hReader hSpawn hOpening hJoin =>
    exact h.workReaderStep (workReaderStep_cases hReader).subsides.steady.samePair hReader hSpawn hJoin
  | controlReader hReader hSpawn hOpening hJoin => exact h.controlReaderStep hReader hSpawn hJoin
  | workWriter hWriter => exact h.workWriterStep hWriter
  | controlWriter hWriter => exact h.controlWriterStep hWriter
  | supervisor hSupervisor => exact h.supervisorStep hSupervisor
  | publishSource =>
    exact h.steady subsides_publishSource.steady.samePair s.workers s.dispatchThreads s.starter
      s.stopper id
  | closeSource =>
    exact h.steady subsides_closeSource.steady.samePair s.workers s.dispatchThreads s.starter
      s.stopper id
  | flags hCore hRest hStopper hAlone =>
    exact h.steady hRest.steady.samePair s.workers s.dispatchThreads _ _ hStopper
  | startThreads hStopped hStopper hStarter =>
    have hPc : s.supervisor = .notStarted := by
      simp only [System.fullyStopped, Bool.and_eq_true] at hStopped
      cases hS : s.supervisor <;> simp_all
    have hWork := h.workReader (by rw [hPc]; rfl)
    have hControl := h.controlReader (by rw [hPc]; rfl)
    exact Threads.of_joined hWork hControl
      (h.workWriter (WorkReaderPc.alone_of_fence_none hWork))
      (h.controlWriter (ControlReaderPc.alone_of_fence_none hControl))
      (by simp [SupervisorPc.pairFence?]) (by simp [SupervisorPc.supervision?])
      (by simp [SupervisorPc.registered?]) (by simp [hStopper, StopPc.joined])
  | joinSupervisor hDone hStopper =>
    have hPhase : s.supervisor.phase = .outside := by rcases hDone with hPc | hPc <;> rw [hPc] <;> rfl
    have hWork := h.workReader (by rw [hPhase]; rfl)
    have hControl := h.controlReader (by rw [hPhase]; rfl)
    exact Threads.of_joined hWork hControl
      (h.workWriter (WorkReaderPc.alone_of_fence_none hWork))
      (h.controlWriter (ControlReaderPc.alone_of_fence_none hControl))
      (by simp [SupervisorPc.pairFence?]) (by simp [SupervisorPc.supervision?])
      (by simp [SupervisorPc.registered?]) (fun _ => rfl)
  | joinWorkers hStopper hDone =>
    exact h.steady ⟨rfl, rfl, rfl⟩ _ _ _ _ (by simp [hStopper, StopPc.joined])
  | stopDeactivate hStopper hDeactivate hNext =>
    have hPair := (steady_deactivateStep hDeactivate).samePair
    obtain ⟨pc, -, rfl, rfl⟩ | ⟨-, rfl, rfl⟩ := hNext
    · exact h.steady hPair s.workers s.dispatchThreads s.starter _
        (by simp [hStopper, StopPc.joined])
    · refine h.steady ?_ s.workers s.dispatchThreads s.starter .reset
        (by simp [hStopper, StopPc.joined])
      exact ⟨hPair.sessionId, hPair.epoch, hPair.frameLimit⟩
  | stopReset hStopper =>
    have hPc := h.stopper (by rw [hStopper]; rfl)
    have hWork := h.workReader (by rw [hPc]; rfl)
    have hControl := h.controlReader (by rw [hPc]; rfl)
    exact Threads.of_joined hWork hControl
      (h.workWriter (WorkReaderPc.alone_of_fence_none hWork))
      (h.controlWriter (ControlReaderPc.alone_of_fence_none hControl))
      (by simp [hPc, SupervisorPc.pairFence?]) (by simp [hPc, SupervisorPc.supervision?])
      (by simp [hPc, SupervisorPc.registered?]) (fun _ => hPc)

/-- Every step keeps jobs and tokens where they can be. -/
theorem Occupancy.step {a : Action} (h : Occupancy s) (hThreads : Threads s)
    (hStep : s.step env a = some s') : Occupancy s' := by
  cases System.step_cases hStep with
  | worker hWorker => exact h.workerStep hWorker
  | workReader hReader hSpawn hOpening hJoin =>
    obtain ⟨fence, hFence, -⟩ := workReaderStep_fence hReader
    -- a Work reader runs, so the queues are in use
    have hWork : s.supervisor.phase.work = true := by
      by_contra hNot
      rw [hThreads.workReader (by simpa using hNot)] at hFence
      cases hFence
    refine h.of_running rfl rfl ?_ (workReaderStep_cases hReader).subsides.active
    change s.supervisor.phase.queues = true
    cases hP : s.supervisor.phase <;> simp_all [PairPhase.work, PairPhase.queues]
  | controlReader hReader hSpawn hOpening hJoin =>
    -- a deactivation erases no token and no job
    exact h.of_core rfl rfl rfl (steady_controlReaderStep hReader)
      ((core_controlReaderStep hReader).imp_right And.right)
  | workWriter hWriter =>
    exact h.of_core rfl rfl rfl (steady_workWriterStep hWriter) (.inl (core_workWriterStep hWriter))
  | controlWriter hWriter =>
    exact h.of_core rfl rfl rfl (steady_controlWriterStep hWriter)
      (.inl (core_controlWriterStep hWriter))
  | supervisor hSupervisor => exact h.supervisorStep hSupervisor
  -- the application threads neither admit nor finish work
  | publishSource =>
    exact h.of_quiet rfl rfl rfl subsides_publishSource.active tokens_publishSource.2
      tokens_publishSource.1
  | closeSource =>
    exact h.of_quiet rfl rfl rfl subsides_closeSource.active tokens_closeSource.2
      tokens_closeSource.1
  | flags hCore hRest hStopper hAlone => exact h.of_core rfl rfl rfl hRest.steady (.inl hCore)
  | startThreads hStopped hStopper hStarter =>
    -- a fresh set of workers, none of which holds a job
    have hPc : s.supervisor = .notStarted := by
      simp only [System.fullyStopped, Bool.and_eq_true] at hStopped
      cases hS : s.supervisor <;> simp_all
    have hNone : s.dispatchThreads = 0 := by
      simp only [System.fullyStopped, Bool.and_eq_true, beq_iff_eq] at hStopped
      exact hStopped.1.2
    have hActive := h.active
    rw [hNone] at hActive
    constructor
    · change s.client.queues.activeDispatchJobs = _
      rw [hActive, Finset.sum_range_zero]
      refine (Finset.sum_eq_zero fun i hi => ?_).symm
      simp [Finset.mem_range.mp hi, WorkerPc.load, WorkerPc.job?]
    · intro i hi
      simp [Nat.not_lt.mpr hi]
    · exact fun _ => h.queue (by rw [hPc]; rfl)
    · intro _ i
      by_cases hi : i < env.config.dispatchWorkers <;> simp [hi, WorkerPc.job?]
    · exact fun _ => h.tokens (by rw [hPc]; rfl)
  | joinSupervisor hDone hStopper =>
    -- outside a pair the queue and the tokens are empty already
    have hPhase : s.supervisor.phase = .outside := by rcases hDone with hPc | hPc <;> rw [hPc] <;> rfl
    exact h.of_quiet rfl rfl (by rw [hPhase]; rfl) rfl rfl rfl
  | joinWorkers hStopper hDone =>
    have hPc := hThreads.stopper (by rw [hStopper]; rfl)
    have hActive := h.active
    constructor
    · -- the joined workers have exited and hold nothing
      change s.client.queues.activeDispatchJobs = _
      rw [hActive, Finset.sum_range_zero]
      refine Finset.sum_eq_zero fun i hi => ?_
      rw [hDone i (Finset.mem_range.mp hi)]
      rfl
    · exact fun _ _ => rfl
    · exact fun _ => h.queue (by rw [hPc]; rfl)
    · exact fun _ _ => rfl
    · exact fun _ => h.tokens (by rw [hPc]; rfl)
  | stopDeactivate hStopper hDeactivate hNext =>
    -- `Stop` deactivates what was left of the spec
    have hActive := (steady_deactivateStep hDeactivate).active
    have hCore := core_deactivateStep hDeactivate
    have hDispatch : _ = s.client.queues.dispatch :=
      hCore.elim (congrArg Core.dispatch) (congrArg Core.dispatch)
    have hTokens : _ = s.client.tables.workTokens :=
      hCore.elim (congrArg fun k : Core => k.tables.workTokens)
        (congrArg fun k : Core => k.tables.workTokens)
    obtain ⟨pc, -, rfl, rfl⟩ | ⟨-, rfl, rfl⟩ := hNext
    · exact h.of_quiet rfl rfl rfl hActive hDispatch hTokens
    · exact h.of_quiet rfl rfl rfl hActive hDispatch hTokens
  | stopReset hStopper =>
    -- the reset finds everything empty
    have hPc := hThreads.stopper (by rw [hStopper]; rfl)
    refine h.of_empty rfl rfl rfl rfl (h.holds (by rw [hPc]; rfl)) ?_
    change (s.client.endStop env).tables.workTokens = ∅
    simp [Client.endStop, Client.endSupervision, Client.resetSession, Client.releaseAllWorkTokens]

/-- A worker that handles a request handles it by its kind. -/
theorem kinds_step {a : Action} (h : ∀ i, (s.workers i).KindOk)
    (hStep : s.step env a = some s') : ∀ i, (s'.workers i).KindOk := by
  cases System.step_cases hStep with
  | @worker i input pc' c' hWorker =>
    intro j
    by_cases hEq : j = i
    · simp only [System.setWorker, hEq, if_true]
      exact kindOk_workerStep (h i) hWorker
    · simp only [System.setWorker, hEq, if_false]
      exact h j
  | @supervisor input pc' c' hSupervisor =>
    have hSpawn : (s.spawn pc').workers = s.workers := by
      unfold System.spawn
      split <;> rfl
    change ∀ i, ((s.spawn pc').workers i).KindOk
    rw [hSpawn]
    exact h
  | startThreads hStopped hStopper hStarter =>
    intro j
    by_cases hj : j < env.config.dispatchWorkers <;> simp [hj, WorkerPc.KindOk]
  | joinWorkers hStopper hDone => exact fun _ => trivial
  | workReader | controlReader | workWriter | controlWriter | publishSource | closeSource | flags
  | joinSupervisor | stopDeactivate | stopReset => exact h

/-- A step keeps the shape. -/
theorem Shape.step {a : Action} (h : Shape s) (hStep : s.step env a = some s') : Shape s' where
  threads := h.threads.step hStep
  occupancy := h.occupancy.step h.threads hStep
  kinds := kinds_step h.kinds hStep

/-- Every reachable state has the shape. -/
theorem shape_of_reachable (h : (machine env).Reachable s) : Shape s :=
  h.invariant .init fun _ _ _ _ hShape hStep => hShape.step hStep

end AdapterRuntime.Model
