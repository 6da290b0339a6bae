import AdapterRuntime.Proof.Streams

/-!
# AdapterRuntime — the frames of the Host

Both readers take a Host frame in two steps: the header is checked under
`mutex_`, and the frame is then handled. `Intake` is one such reader;
`acceptedOn` and `handledOn` are what it accepted and handled on the stream of an
epoch. The counter of accepted sequences is reset between pairs, when no reader
runs.

* `inboxes_of_run` — what a reader accepts carries the fence of its pair and
  increasing sequences, and it handles what it accepted, in order.
* `pair_isolation` — the streams of every pair of a run, in both directions.
-/

namespace AdapterRuntime.Model

open AdapterRuntime.Lib

variable {env : Env} {c c' : Client} {s s' : System} {steps : List (System × Action)} {β : Type}

-- ---------------------------------------------------------------------------
-- Intake
-- ---------------------------------------------------------------------------

/-- One of the two readers: what it accepts and handles in a step, the frame it has
accepted and not handled, and the last accepted sequence. -/
structure Intake (β : Type) where
  accepts : Env → System → Action → Option (SessionFence × SessionHeader × β)
  handles : System → Action → Option (SessionFence × β)
  holds : System → Option (SessionFence × β)
  sequence : System → Nat

/-- The frame a Work reader has accepted and not handled. -/
def WorkReaderPc.held? : WorkReaderPc → Option (SessionFence × HostWork)
  | .handling fence response => some (fence, response.frame)
  | _ => none

/-- The frame a Control reader has accepted and not handled. -/
def ControlReaderPc.held? : ControlReaderPc → Option (SessionFence × HostControl)
  | .handling fence frame => some (fence, frame)
  | _ => none

/-- What the Work reader takes in. -/
def workIntake : Intake HostWork where
  accepts env s a :=
    match a, s.workReader with
    | .workReader _, .validating fence response =>
      match validateHeader env response.header fence s.client.session.workInSequence with
      | .ok () => some (fence, response.header, response.frame)
      | .error _ => none
    | _, _ => none
  handles s a :=
    match a with
    | .workReader _ => s.workReader.held?
    | _ => none
  holds s := s.workReader.held?
  sequence s := s.client.session.workInSequence

/-- What the Control reader takes in. -/
def controlIntake : Intake HostControl where
  accepts env s a :=
    match a, s.controlReader with
    | .controlReader _, .validating fence response =>
      match validateHeader env response.header fence s.client.session.controlInSequence with
      | .ok () => some (fence, response.header, response.frame)
      | .error _ => none
    | _, _ => none
  handles s a :=
    match a with
    | .controlReader _ => s.controlReader.held?
    | _ => none
  holds s := s.controlReader.held?
  sequence s := s.client.session.controlInSequence

/-- The Host frames accepted on the stream of this epoch, with their headers, newest first. -/
def Intake.acceptedOn (I : Intake β) (env : Env) (epoch : Nat) :
    List (System × Action) → List (SessionHeader × β)
  | [] => []
  | (s, a) :: steps =>
    match I.accepts env s a with
    | some (fence, entry) =>
      if fence.connectionEpoch = epoch then entry :: I.acceptedOn env epoch steps
      else I.acceptedOn env epoch steps
    | none => I.acceptedOn env epoch steps

/-- The Host frames handled on the stream of this epoch, newest first. -/
def Intake.handledOn (I : Intake β) (epoch : Nat) : List (System × Action) → List β
  | [] => []
  | (s, a) :: steps =>
    match I.handles s a with
    | some (fence, frame) =>
      if fence.connectionEpoch = epoch then frame :: I.handledOn epoch steps
      else I.handledOn epoch steps
    | none => I.handledOn epoch steps

/-- The frame accepted and not handled on the stream of this epoch. -/
def Intake.pending (I : Intake β) (s : System) (epoch : Nat) : List β :=
  match I.holds s with
  | some (fence, frame) => if fence.connectionEpoch = epoch then [frame] else []
  | none => []

/-- What a step is for a reader. The counter changes at an accepted header, or while no
pair is open. -/
inductive Intake.Move (I : Intake β) (env : Env) (s : System) (a : Action) (s' : System) : Prop
  | accepts (fence : SessionFence) (header : SessionHeader) (frame : β)
      (hAccepts : I.accepts env s a = some (fence, header, frame)) (hHandles : I.handles s a = none)
      (hUses : s.UsesFence fence)
      (hValid : validateHeader env header fence (I.sequence s) = .ok ())
      (hHolds : I.holds s = none) (hHolds' : I.holds s' = some (fence, frame))
      (hSequence : I.sequence s' = header.frameSequence)
  | handles (fence : SessionFence) (frame : β) (hAccepts : I.accepts env s a = none)
      (hHandles : I.handles s a = some (fence, frame)) (hUses : s.UsesFence fence)
      (hHolds : I.holds s = some (fence, frame)) (hHolds' : I.holds s' = none)
      (hSequence : I.sequence s' = I.sequence s)
  | neither (hAccepts : I.accepts env s a = none) (hHandles : I.handles s a = none)
      (hHolds : I.holds s' = I.holds s)
      (hSequence : I.sequence s' = I.sequence s ∨ s.supervisor.phase = .outside)

/-- A frame is held for the pair in use, and every step is a move. -/
structure Intake.Lawful (I : Intake β) (env : Env) : Prop where
  uses : ∀ s fence frame, I.holds s = some (fence, frame) → s.UsesFence fence
  moves : ∀ s a s', (machine env).Reachable s → s.step env a = some s' → I.Move env s a s'

-- ---------------------------------------------------------------------------
-- The two readers
-- ---------------------------------------------------------------------------

/-- The last sequences accepted on Work and on Control. -/
def Client.inSequences (c : Client) : Nat × Nat :=
  (c.session.workInSequence, c.session.controlInSequence)

/-- The sequences of the readers do not depend on what is written. -/
theorem Client.inSequences_wire (h : c'.wire = c.wire) : c'.inSequences = c.inSequences :=
  congrArg (fun w : Wire => (w.session.workInSequence, w.session.controlInSequence)) h

theorem WorkWrite.inSequences {pc pc' : WorkWriterPc} (h : WorkWrite env c pc pc' c') :
    c'.inSequences = c.inSequences := by
  cases h with
  | attach | attached | wrote => rfl
  | ready hWire | ended _ _ hWire => exact Client.inSequences_wire hWire
  | dequeue _ _ hWire =>
    exact congrArg (fun w : Wire => (w.session.workInSequence, w.session.controlInSequence)) hWire

theorem ControlWrite.inSequences {pc pc' : ControlWriterPc} (h : ControlWrite env c pc pc' c') :
    c'.inSequences = c.inSequences := by
  cases h with
  | wrote => rfl
  | quiet _ _ hWire => exact Client.inSequences_wire hWire
  | dequeue _ _ hWire | heartbeat _ hWire =>
    exact congrArg (fun w : Wire => (w.session.workInSequence, w.session.controlInSequence)) hWire

/-- What the readers have accepted changes at an accepted header, or outside a pair. -/
theorem inSequences_of_step {a : Action} (hReach : (machine env).Reachable s)
    (hStep : s.step env a = some s') :
    s.supervisor.phase = .outside ∨
      ((∀ input, a ≠ .workReader input) →
        s'.client.session.workInSequence = s.client.session.workInSequence) ∧
      ((∀ input, a ≠ .controlReader input) →
        s'.client.session.controlInSequence = s.client.session.controlInSequence) := by
  have hBoth : ∀ {c' : Client}, c'.inSequences = s.client.inSequences →
      ((∀ input, a ≠ .workReader input) →
        c'.session.workInSequence = s.client.session.workInSequence) ∧
      ((∀ input, a ≠ .controlReader input) →
        c'.session.controlInSequence = s.client.session.controlInSequence) :=
    fun h => ⟨fun _ => congrArg Prod.fst h, fun _ => congrArg Prod.snd h⟩
  have hFed : ∀ {c' : Client}, s.client.Feed env c' → c'.inSequences = s.client.inSequences := by
    intro c' hFeed
    rw [Client.inSequences, hFeed.session]
    rfl
  have hThreads := (shape_of_reachable hReach).threads
  cases System.step_cases hStep with
  | worker hWorker => exact .inr (hBoth (hFed (feed_workerStep hWorker)))
  | publishSource => exact .inr (hBoth (hFed (.publishSource _ _)))
  | closeSource => exact .inr (hBoth (hFed (.closeSource _ _)))
  | flags _ _ _ _ _ _ _ _ _ hClient =>
    obtain rfl | rfl | rfl := hClient <;> exact .inr (hBoth rfl)
  | startThreads | joinSupervisor | joinWorkers => exact .inr (hBoth rfl)
  | stopReset hStopper =>
    refine .inl ?_
    rw [hThreads.stopper (by rw [hStopper]; rfl)]
    rfl
  | stopDeactivate _ hDeactivate hNext =>
    have hSame := Client.inSequences_wire (wire_deactivateStep hDeactivate)
    refine .inr (hBoth ?_)
    obtain ⟨_, -, -, rfl⟩ | ⟨-, -, rfl⟩ := hNext <;> exact hSame
  | @workReader input _ _ _ hReader =>
    refine .inr ⟨fun h => absurd rfl (h input), fun _ => ?_⟩
    obtain hFeed | ⟨_, _, -, -, -, rfl⟩ := wire_workReaderStep hReader
    · exact congrArg Prod.snd (hFed hFeed)
    · rfl
  | @controlReader input _ _ _ hReader =>
    refine .inr ⟨fun _ => ?_, fun h => absurd rfl (h input)⟩
    obtain hFeed | ⟨_, _, -, -, -, rfl⟩ := wire_controlReaderStep hReader
    · exact congrArg Prod.fst (hFed hFeed)
    · rfl
  | workWriter hWriter => exact .inr (hBoth (workWrite_of_step hWriter).inSequences)
  | controlWriter hWriter => exact .inr (hBoth (controlWrite_of_step hWriter).inSequences)
  | supervisor hSupervisor =>
    obtain hSame | hReset := wire_supervisorStep hSupervisor
    · exact .inr (hBoth (Client.inSequences_wire hSame))
    · exact .inl hReset.phase

/-- A reader that does not accept a header holds no frame after its step. -/
theorem workReaderStep_held {pc pc' : WorkReaderPc} {input : ReaderInput WorkResponse}
    (h : workReaderStep env c pc input = some (pc', c')) :
    pc'.held? = none ∨ ∃ fence response, pc = .validating fence response := by
  cases workReaderStep_branch h with
  | badHeader | goodHeader => exact .inr ⟨_, _, rfl⟩
  | followUp hFollow => cases followUpStep_branch hFollow <;> exact .inl rfl
  | _ => exact .inl rfl

/-- The same of the Control reader. -/
theorem controlReaderStep_held {pc pc' : ControlReaderPc} {input : ReaderInput ControlResponse}
    (h : controlReaderStep env c pc input = some (pc', c')) :
    pc'.held? = none ∨ ∃ fence response, pc = .validating fence response := by
  cases controlReaderStep_branch h with
  | badHeader | goodHeader => exact .inr ⟨_, _, rfl⟩
  | _ => exact .inl rfl

/-- A frame in the hands of the Work reader came under its fence. -/
theorem WorkReaderPc.fence_of_held {pc : WorkReaderPc} {fence : SessionFence} {frame : HostWork}
    (h : pc.held? = some (fence, frame)) : pc.fence? = some fence := by
  cases pc <;> cases h
  rfl

/-- A frame in the hands of the Control reader came under its fence. -/
theorem ControlReaderPc.fence_of_held {pc : ControlReaderPc} {fence : SessionFence}
    {frame : HostControl} (h : pc.held? = some (fence, frame)) : pc.fence? = some fence := by
  cases pc <;> cases h
  rfl

/-- The threads a pair is opened with hold no frame, and no other thread moves a reader. -/
theorem held_of_step {a : Action} (hReach : (machine env).Reachable s)
    (hStep : s.step env a = some s') :
    ((∀ input, a ≠ .workReader input) → s'.workReader.held? = s.workReader.held?) ∧
    ((∀ input, a ≠ .controlReader input) → s'.controlReader.held? = s.controlReader.held?) := by
  have hThreads := (shape_of_reachable hReach).threads
  cases System.step_cases hStep with
  | worker | publishSource | closeSource | flags | joinSupervisor | joinWorkers
  | workWriter | controlWriter | startThreads | stopDeactivate | stopReset =>
    exact ⟨fun _ => rfl, fun _ => rfl⟩
  | @workReader input => exact ⟨fun hNot => absurd rfl (hNot input), fun _ => rfl⟩
  | @controlReader input => exact ⟨fun _ => rfl, fun hNot => absurd rfl (hNot input)⟩
  | @supervisor input pc' c' hSupervisor =>
    have hWork : s.supervisor.phase.work = false → s.workReader.held? = none := by
      intro hPhase
      by_contra hHeld
      obtain ⟨⟨fence, frame⟩, hHeld⟩ := Option.ne_none_iff_exists'.mp hHeld
      have hFence := hThreads.workReader hPhase
      rw [WorkReaderPc.fence_of_held hHeld] at hFence
      cases hFence
    have hControl : s.supervisor.phase.control = false → s.controlReader.held? = none := by
      intro hPhase
      by_contra hHeld
      obtain ⟨⟨fence, frame⟩, hHeld⟩ := Option.ne_none_iff_exists'.mp hHeld
      have hFence := hThreads.controlReader hPhase
      rw [ControlReaderPc.fence_of_held hHeld] at hFence
      cases hFence
    show (_ → (s.spawn pc').workReader.held? = _) ∧ (_ → (s.spawn pc').controlReader.held? = _)
    unfold System.spawn
    split
    · rename_i hPc
      exact ⟨fun _ => (hWork (by rw [hPc]; rfl)).symm, fun _ => (hControl (by rw [hPc]; rfl)).symm⟩
    · rename_i hPc
      exact ⟨fun _ => (hWork (by rw [hPc]; rfl)).symm, fun _ => rfl⟩
    · exact ⟨fun _ => rfl, fun _ => rfl⟩

/-- The Work reader accepts a frame with the next sequence, or fails the session. -/
theorem workReaderStep_validating {fence : SessionFence} {response : WorkResponse}
    {input : ReaderInput WorkResponse} {pc' : WorkReaderPc}
    (h : workReaderStep env c (.validating fence response) input = some (pc', c')) :
    (validateHeader env response.header fence c.session.workInSequence = .ok () ∧
      pc' = .handling fence response ∧
      c' = { c with session := { c.session with
        workInSequence := response.header.frameSequence } }) ∨
    (∃ e, validateHeader env response.header fence c.session.workInSequence = .error e) ∧
      pc'.held? = none ∧ c' = c := by
  cases workReaderStep_branch h with
  | goodHeader hValid => exact .inl ⟨hValid, rfl, rfl⟩
  | badHeader hInvalid => exact .inr ⟨⟨_, hInvalid⟩, rfl, rfl⟩

/-- The Control reader accepts a frame with the next sequence, or fails the session. -/
theorem controlReaderStep_validating {fence : SessionFence} {response : ControlResponse}
    {input : ReaderInput ControlResponse} {pc' : ControlReaderPc}
    (h : controlReaderStep env c (.validating fence response) input = some (pc', c')) :
    (validateHeader env response.header fence c.session.controlInSequence = .ok () ∧
      pc' = .handling fence response.frame ∧
      c' = { c with session := { c.session with
        controlInSequence := response.header.frameSequence } }) ∨
    (∃ e, validateHeader env response.header fence c.session.controlInSequence = .error e) ∧
      pc'.held? = none ∧ c' = c := by
  cases controlReaderStep_branch h with
  | goodHeader hValid => exact .inl ⟨hValid, rfl, rfl⟩
  | badHeader hInvalid => exact .inr ⟨⟨_, hInvalid⟩, rfl, rfl⟩

/-- The Work intake is lawful. -/
theorem workIntake_lawful (env : Env) : workIntake.Lawful env where
  uses := fun s fence frame h => .workReader (WorkReaderPc.fence_of_held h)
  moves := by
    intro s a s' hReach hStep
    by_cases hReader : ∃ input, a = .workReader input
    · obtain ⟨input, rfl⟩ := hReader
      have hTakes := workReaderStep_of_step hStep
      by_cases hPc : ∃ fence response, s.workReader = .validating fence response
      · obtain ⟨fence, response, hPc⟩ := hPc
        rw [hPc] at hTakes
        obtain ⟨hValid, hPc', hClient⟩ | ⟨⟨e, hError⟩, hHeld, hClient⟩ :=
          workReaderStep_validating hTakes
        · exact .accepts fence response.header response.frame
            (by simp only [workIntake, hPc, hValid]) (by simp only [workIntake, hPc]; rfl)
            (.workReader (by rw [hPc]; rfl)) hValid (by simp only [workIntake, hPc]; rfl)
            (by simp only [workIntake, hPc']; rfl) (by simp only [workIntake, hClient])
        · exact .neither (by simp only [workIntake, hPc, hError])
            (by simp only [workIntake, hPc]; rfl)
            (by simp only [workIntake, hPc, hHeld]; rfl)
            (.inl (by simp only [workIntake, hClient]))
      · have hAccepts : workIntake.accepts env s (.workReader input) = none := by
          simp only [workIntake]
          split
          · exact absurd ⟨_, _, by assumption⟩ hPc
          · rfl
        have hHeld' : workIntake.holds s' = none := (workReaderStep_held hTakes).resolve_right hPc
        have hSequence : workIntake.sequence s' = workIntake.sequence s := by
          obtain hFeed | ⟨fence, response, hValidating, -⟩ := wire_workReaderStep hTakes
          · exact congrArg Session.workInSequence hFeed.session
          · exact absurd ⟨_, _, hValidating⟩ hPc
        cases hHeld : s.workReader.held? with
        | none => exact .neither hAccepts hHeld (hHeld'.trans hHeld.symm) (.inl hSequence)
        | some entry =>
          exact .handles entry.1 entry.2 hAccepts hHeld
            (.workReader (WorkReaderPc.fence_of_held hHeld)) hHeld hHeld' hSequence
    · have hNot : ∀ input, a ≠ .workReader input := fun input hEq => hReader ⟨input, hEq⟩
      refine .neither ?_ ?_ ((held_of_step hReach hStep).1 hNot)
        ((inSequences_of_step hReach hStep).symm.imp_left (·.1 hNot))
      · simp only [workIntake]
        cases a <;> first | rfl | exact absurd rfl (hNot _)
      · simp only [workIntake]

/-- The Control intake is lawful. -/
theorem controlIntake_lawful (env : Env) : controlIntake.Lawful env where
  uses := fun s fence frame h => .controlReader (ControlReaderPc.fence_of_held h)
  moves := by
    intro s a s' hReach hStep
    by_cases hReader : ∃ input, a = .controlReader input
    · obtain ⟨input, rfl⟩ := hReader
      have hTakes := controlReaderStep_of_step hStep
      by_cases hPc : ∃ fence response, s.controlReader = .validating fence response
      · obtain ⟨fence, response, hPc⟩ := hPc
        rw [hPc] at hTakes
        obtain ⟨hValid, hPc', hClient⟩ | ⟨⟨e, hError⟩, hHeld, hClient⟩ :=
          controlReaderStep_validating hTakes
        · exact .accepts fence response.header response.frame
            (by simp only [controlIntake, hPc, hValid]) (by simp only [controlIntake, hPc]; rfl)
            (.controlReader (by rw [hPc]; rfl)) hValid (by simp only [controlIntake, hPc]; rfl)
            (by simp only [controlIntake, hPc']; rfl) (by simp only [controlIntake, hClient])
        · exact .neither (by simp only [controlIntake, hPc, hError])
            (by simp only [controlIntake, hPc]; rfl)
            (by simp only [controlIntake, hPc, hHeld]; rfl)
            (.inl (by simp only [controlIntake, hClient]))
      · have hAccepts : controlIntake.accepts env s (.controlReader input) = none := by
          simp only [controlIntake]
          split
          · exact absurd ⟨_, _, by assumption⟩ hPc
          · rfl
        have hHeld' : controlIntake.holds s' = none :=
          (controlReaderStep_held hTakes).resolve_right hPc
        have hSequence : controlIntake.sequence s' = controlIntake.sequence s := by
          obtain hFeed | ⟨fence, response, hValidating, -⟩ := wire_controlReaderStep hTakes
          · exact congrArg Session.controlInSequence hFeed.session
          · exact absurd ⟨_, _, hValidating⟩ hPc
        cases hHeld : s.controlReader.held? with
        | none => exact .neither hAccepts hHeld (hHeld'.trans hHeld.symm) (.inl hSequence)
        | some entry =>
          exact .handles entry.1 entry.2 hAccepts hHeld
            (.controlReader (ControlReaderPc.fence_of_held hHeld)) hHeld hHeld' hSequence
    · have hNot : ∀ input, a ≠ .controlReader input := fun input hEq => hReader ⟨input, hEq⟩
      refine .neither ?_ ?_ ((held_of_step hReach hStep).2 hNot)
        ((inSequences_of_step hReach hStep).symm.imp_left (·.2 hNot))
      · simp only [controlIntake]
        cases a <;> first | rfl | exact absurd rfl (hNot _)
      · simp only [controlIntake]

-- ---------------------------------------------------------------------------
-- The inboxes of a run
-- ---------------------------------------------------------------------------

/-- The headers, newest first, carry the fence and increasing sequences. -/
def Admitted (env : Env) (fence : SessionFence) (headers : List SessionHeader) : Prop :=
  (∀ header ∈ headers,
    header = stampHeader env fence fence.connectionEpoch header.frameSequence) ∧
  headers.Pairwise fun newer older => older.frameSequence < newer.frameSequence

/-- `ValidateHeaderLocked` accepts the headers of the fence with a greater sequence. -/
theorem validateHeader_ok {header : SessionHeader} {fence : SessionFence} {previous : Nat}
    (h : validateHeader env header fence previous = .ok ()) :
    header = stampHeader env fence fence.connectionEpoch header.frameSequence ∧
      previous < header.frameSequence := by
  unfold validateHeader at h
  split at h
  · cases h
  · rename_i hFence
    split at h
    · cases h
    · rename_i hSequence
      simp only [Bool.or_eq_true, bne_iff_ne, ne_eq, not_or, not_not] at hFence
      obtain ⟨⟨⟨⟨⟨hInstance, hSession⟩, hProcess⟩, hGeneration⟩, hRuntime⟩, hEpoch⟩ := hFence
      refine ⟨?_, ?_⟩
      · cases header
        simp only [stampHeader, SessionHeader.mk.injEq, and_true]
        exact ⟨hInstance, hSession, hProcess, hGeneration, hRuntime, hEpoch⟩
      · simp only [Bool.or_eq_true, decide_eq_true_eq, not_or, not_le] at hSequence
        exact hSequence.2

/-- The stream of every pair of a run carried frames of that pair, in order. -/
structure Intake.Inboxes (I : Intake β) (env : Env) (steps : List (System × Action)) (s : System) :
    Prop where
  admitted : ∀ fence ∈ openedFences steps,
    Admitted env fence ((I.acceptedOn env fence.connectionEpoch steps).map Prod.fst)
  handled : ∀ epoch, (I.acceptedOn env epoch steps).map Prod.snd =
    I.pending s epoch ++ I.handledOn epoch steps
  unopened : ∀ epoch, epoch ∉ (openedFences steps).map (·.connectionEpoch) →
    I.acceptedOn env epoch steps = [] ∧ I.handledOn epoch steps = []
  bounded : s.supervisor.phase ≠ .outside → ∀ fence, (openedFences steps).head? = some fence →
    ∀ entry ∈ I.acceptedOn env fence.connectionEpoch steps, entry.1.frameSequence ≤ I.sequence s

namespace Intake

variable {I : Intake β} {a : Action}

/-- A step that accepts nothing. -/
theorem acceptedOn_none (h : I.accepts env s a = none) (epoch : Nat) :
    I.acceptedOn env epoch ((s, a) :: steps) = I.acceptedOn env epoch steps := by
  simp only [acceptedOn, h]

/-- A step that handles nothing. -/
theorem handledOn_none (h : I.handles s a = none) (epoch : Nat) :
    I.handledOn epoch ((s, a) :: steps) = I.handledOn epoch steps := by
  simp only [handledOn, h]

/-- A step that accepts an entry on the pair of its fence. -/
theorem acceptedOn_some {fence : SessionFence} {entry : SessionHeader × β}
    (h : I.accepts env s a = some (fence, entry)) (epoch : Nat) :
    I.acceptedOn env epoch ((s, a) :: steps) =
      if fence.connectionEpoch = epoch then entry :: I.acceptedOn env epoch steps
      else I.acceptedOn env epoch steps := by
  simp only [acceptedOn, h]

/-- A step that handles a frame on the pair of its fence. -/
theorem handledOn_some {fence : SessionFence} {frame : β} (h : I.handles s a = some (fence, frame))
    (epoch : Nat) :
    I.handledOn epoch ((s, a) :: steps) =
      if fence.connectionEpoch = epoch then frame :: I.handledOn epoch steps
      else I.handledOn epoch steps := by
  simp only [handledOn, h]

/-- A fence in use makes the phase one of a pair. -/
theorem inside_of_uses {fence : SessionFence} (hReach : (machine env).Reachable s)
    (h : s.UsesFence fence) : s.supervisor.phase ≠ .outside :=
  fun hOutside => (shape_of_reachable hReach).threads.no_fence hOutside fence h

/-- A step that neither accepts nor handles a frame. -/
theorem Inboxes.neither (h : I.Inboxes env steps s) (hRun : (machine env).Run steps s)
    (hStep : s.step env a = some s') (hAccepts : I.accepts env s a = none)
    (hHandles : I.handles s a = none) (hHolds : I.holds s' = I.holds s)
    (hSequence : I.sequence s' = I.sequence s ∨ s.supervisor.phase = .outside) :
    I.Inboxes env ((s, a) :: steps) s' := by
  -- the pair the step opens has an epoch of its own
  have hOpened : ∀ fence ∈ openedFences ((s, a) :: steps), fence ∈ openedFences steps ∨
      fence.connectionEpoch ∉ (openedFences steps).map (·.connectionEpoch) := by
    intro fence hMem
    have hNodup := epochs_nodup (.step hRun hStep)
    rw [openedFences] at hMem hNodup
    cases hOpening : s.openingFence? a with
    | none =>
      rw [hOpening] at hMem
      exact .inl hMem
    | some opened =>
      rw [hOpening] at hMem hNodup
      obtain rfl | hMem := List.mem_cons.mp hMem
      · exact .inr (List.nodup_cons.mp hNodup).1
      · exact .inl hMem
  constructor
  · -- what was accepted on a pair, under its fence and in order
    intro fence hMem
    rw [acceptedOn_none hAccepts]
    obtain hMem | hFresh := hOpened fence hMem
    · exact h.admitted fence hMem
    · rw [(h.unopened _ hFresh).1]
      exact ⟨fun _ hNone => (by cases hNone), .nil⟩
  · -- every accepted frame was handled, but for the one in hand
    intro epoch
    rw [acceptedOn_none hAccepts, handledOn_none hHandles, pending, hHolds]
    exact h.handled epoch
  · -- an epoch without a pair has accepted nothing
    intro epoch hNot
    rw [acceptedOn_none hAccepts, handledOn_none hHandles]
    refine h.unopened epoch fun hMem => hNot ?_
    rw [openedFences]
    split
    · exact List.mem_cons_of_mem _ hMem
    · exact hMem
  · intro hInside fence hHead entry hEntry
    rw [acceptedOn_none hAccepts] at hEntry
    rw [openedFences] at hHead
    cases hOpening : s.openingFence? a with
    -- a new pair has accepted nothing yet
    | some opened =>
      rw [hOpening] at hHead
      cases hHead
      have hNodup := epochs_nodup (.step hRun hStep)
      rw [openedFences, hOpening] at hNodup
      rw [(h.unopened _ (List.nodup_cons.mp hNodup).1).1] at hEntry
      cases hEntry
    | none =>
      rw [hOpening] at hHead
      have hBefore : s.supervisor.phase ≠ .outside := by
        intro hOutside
        obtain ⟨opened, hOpened⟩ := opening_of_enters hStep hOutside hInside
        rw [hOpening] at hOpened
        cases hOpened
      rw [hSequence.resolve_right hBefore]
      exact h.bounded hBefore fence hHead entry hEntry

/-- Inside a pair no other pair is opened. -/
theorem openedFences_inside (hStep : s.step env a = some s')
    (hInside : s.supervisor.phase ≠ .outside) :
    openedFences ((s, a) :: steps) = openedFences steps := by
  rw [openedFences]
  cases hOpening : s.openingFence? a with
  | none => rfl
  | some fence =>
    obtain ⟨r, hPc, -⟩ := opening_of_step hStep hOpening
    exact absurd (by rw [hPc]; rfl) hInside

/-- A step that accepts a header. -/
theorem Inboxes.accepts {fence : SessionFence} {header : SessionHeader} {frame : β}
    (h : I.Inboxes env steps s) (hRun : (machine env).Run steps s)
    (hStep : s.step env a = some s') (hAccepts : I.accepts env s a = some (fence, header, frame))
    (hHandles : I.handles s a = none) (hUses : s.UsesFence fence)
    (hValid : validateHeader env header fence (I.sequence s) = .ok ())
    (hHolds : I.holds s = none) (hHolds' : I.holds s' = some (fence, frame))
    (hSequence : I.sequence s' = header.frameSequence) :
    I.Inboxes env ((s, a) :: steps) s' := by
  have hInside := inside_of_uses hRun.reachable hUses
  have hFences : openedFences ((s, a) :: steps) = openedFences steps :=
    openedFences_inside hStep hInside
  have hHead := newest_of_run hRun fence hUses
  obtain ⟨hHeader, hGreater⟩ := validateHeader_ok hValid
  have hBounded := h.bounded hInside fence hHead
  have hSame : ∀ opened ∈ openedFences steps, opened.connectionEpoch = fence.connectionEpoch →
      opened = fence := fun opened hOpened hEq =>
    List.inj_on_of_nodup_map (epochs_nodup hRun) hOpened (mem_of_head hHead) hEq
  constructor
  · intro opened hOpened
    rw [hFences] at hOpened
    rw [acceptedOn_some hAccepts]
    split
    · rename_i hEpoch
      have hEq := hSame opened hOpened hEpoch.symm
      subst hEq
      obtain ⟨hAll, hOrder⟩ := h.admitted opened hOpened
      refine ⟨fun other hOther => ?_, List.pairwise_cons.mpr ⟨fun other hOther => ?_, hOrder⟩⟩
      · obtain rfl | hOther := List.mem_cons.mp hOther
        · exact hHeader
        · exact hAll other hOther
      · obtain ⟨entry, hEntry, rfl⟩ := List.mem_map.mp hOther
        exact (hBounded entry hEntry).trans_lt hGreater
    · exact h.admitted opened hOpened
  · intro epoch
    have hBefore := h.handled epoch
    simp only [pending, hHolds] at hBefore
    simp only [acceptedOn_some hAccepts, handledOn_none hHandles, pending, hHolds']
    split
    · rw [List.map_cons, hBefore]
      rfl
    · exact hBefore
  · intro epoch hNot
    rw [hFences] at hNot
    have hOther : fence.connectionEpoch ≠ epoch := by
      rintro rfl
      exact hNot (List.mem_map.mpr ⟨fence, mem_of_head hHead, rfl⟩)
    rw [acceptedOn_some hAccepts, handledOn_none hHandles, if_neg hOther]
    exact h.unopened epoch hNot
  · intro _ opened hOpened entry hEntry
    rw [hFences, hHead] at hOpened
    cases hOpened
    rw [acceptedOn_some hAccepts, if_pos rfl] at hEntry
    rw [hSequence]
    obtain rfl | hEntry := List.mem_cons.mp hEntry
    · exact le_rfl
    · exact ((hBounded entry hEntry).trans_lt hGreater).le

/-- A step that handles a frame. -/
theorem Inboxes.handles {fence : SessionFence} {frame : β}
    (h : I.Inboxes env steps s) (hRun : (machine env).Run steps s)
    (hStep : s.step env a = some s') (hAccepts : I.accepts env s a = none)
    (hHandles : I.handles s a = some (fence, frame)) (hUses : s.UsesFence fence)
    (hHolds : I.holds s = some (fence, frame)) (hHolds' : I.holds s' = none)
    (hSequence : I.sequence s' = I.sequence s) : I.Inboxes env ((s, a) :: steps) s' := by
  have hInside := inside_of_uses hRun.reachable hUses
  have hFences : openedFences ((s, a) :: steps) = openedFences steps :=
    openedFences_inside hStep hInside
  have hHead := newest_of_run hRun fence hUses
  constructor
  · intro opened hOpened
    rw [hFences] at hOpened
    rw [acceptedOn_none hAccepts]
    exact h.admitted opened hOpened
  · intro epoch
    have hBefore := h.handled epoch
    simp only [pending, hHolds] at hBefore
    simp only [acceptedOn_none hAccepts, handledOn_some hHandles, pending, hHolds', hBefore]
    split <;> rfl
  · intro epoch hNot
    rw [hFences] at hNot
    have hOther : fence.connectionEpoch ≠ epoch := by
      rintro rfl
      exact hNot (List.mem_map.mpr ⟨fence, mem_of_head hHead, rfl⟩)
    rw [acceptedOn_none hAccepts, handledOn_some hHandles, if_neg hOther]
    exact h.unopened epoch hNot
  · intro _ opened hOpened entry hEntry
    rw [hFences] at hOpened
    rw [acceptedOn_none hAccepts] at hEntry
    rw [hSequence]
    exact h.bounded hInside opened hOpened entry hEntry

/-- What a reader took in a run. -/
theorem inboxes_of_run (hLawful : I.Lawful env) (h : (machine env).Run steps s) :
    I.Inboxes env steps s := by
  refine Machine.Run.invariant (M := machine env) (I := I.Inboxes env) ?_ ?_ h
  · have hNone : I.pending (machine env).init = fun _ => [] := by
      have hHolds : I.holds (machine env).init = none := by
        by_contra hSome
        obtain ⟨⟨fence, frame⟩, hHeld⟩ := Option.ne_none_iff_exists'.mp hSome
        cases hLawful.uses _ fence frame hHeld with
        | workReader hFence | controlReader hFence | workWriter hFence | controlWriter hFence
        | supervisor hFence => cases hFence
      funext epoch
      simp only [pending, hHolds]
    refine ⟨fun fence hMem => (by cases hMem), fun epoch => ?_, fun _ _ => ⟨rfl, rfl⟩,
      fun hInside => absurd rfl hInside⟩
    rw [hNone]
    rfl
  · intro steps s a s' hRun ih hStep
    cases hLawful.moves s a s' hRun.reachable hStep with
    | accepts fence header frame hAccepts hHandles hUses hValid hHolds hHolds' hSequence =>
      exact ih.accepts hRun hStep hAccepts hHandles hUses hValid hHolds hHolds' hSequence
    | handles fence frame hAccepts hHandles hUses hHolds hHolds' hSequence =>
      exact ih.handles hRun hStep hAccepts hHandles hUses hHolds hHolds' hSequence
    | neither hAccepts hHandles hHolds hSequence =>
      exact ih.neither hRun hStep hAccepts hHandles hHolds hSequence

end Intake

-- ---------------------------------------------------------------------------
-- Isolation
-- ---------------------------------------------------------------------------

/-- The pairs of a run have distinct epochs. On the Work stream of a pair a `WorkAttach`
and then the frames queued while the supervisor waited on the pair are written, in
order, numbered from one under the fence of the pair. What a reader of the pair handles it has
accepted, in order, and the accepted headers carry the fence of the pair and increasing
sequences. On any other epoch nothing is written, accepted or handled. -/
theorem pair_isolation (h : (machine env).Run steps s) :
    ((openedFences steps).map (·.connectionEpoch)).Nodup ∧
    (∀ fence ∈ openedFences steps,
      InOrder env fence (s.client.writtenOn fence.connectionEpoch)
        (sentOn env fence.connectionEpoch steps) ∧
      Admitted env fence ((workIntake.acceptedOn env fence.connectionEpoch steps).map Prod.fst) ∧
      Admitted env fence
        ((controlIntake.acceptedOn env fence.connectionEpoch steps).map Prod.fst)) ∧
    (∀ epoch,
      workIntake.handledOn epoch steps <:+ (workIntake.acceptedOn env epoch steps).map Prod.snd ∧
      controlIntake.handledOn epoch steps <:+
        (controlIntake.acceptedOn env epoch steps).map Prod.snd) ∧
    ∀ epoch, epoch ∉ (openedFences steps).map (·.connectionEpoch) →
      s.client.writtenOn epoch = [] ∧ workIntake.acceptedOn env epoch steps = [] ∧
      controlIntake.acceptedOn env epoch steps = [] := by
  have hOut := outboxes_of_run h
  have hWork := Intake.inboxes_of_run (workIntake_lawful env) h
  have hControl := Intake.inboxes_of_run (controlIntake_lawful env) h
  refine ⟨epochs_nodup h, fun fence hMem => ⟨hOut.order fence hMem, hWork.admitted fence hMem,
    hControl.admitted fence hMem⟩, fun epoch => ⟨?_, ?_⟩, fun epoch hNot =>
    ⟨(hOut.unopened epoch hNot).1, (hWork.unopened epoch hNot).1,
      (hControl.unopened epoch hNot).1⟩⟩
  · rw [hWork.handled epoch]
    exact List.suffix_append _ _
  · rw [hControl.handled epoch]
    exact List.suffix_append _ _

section Runs

open Deployment

/-- A query is answered on the first pair, which fails; the second carries its
`WorkAttach` only. -/
theorem pair_isolation_replaced :
    ∃ steps s, (machine deployment).Run steps s ∧
      (openedFences steps).map (·.connectionEpoch) = [2, 1] ∧
      (s.client.writtenOn 1).map (·.1.frameSequence) = [2, 1] ∧
      (s.client.writtenOn 2).map (·.1.frameSequence) = [1] ∧
      (workIntake.handledOn 1 steps).length = 1 ∧
      ∀ fence ∈ openedFences steps,
        InOrder deployment fence (s.client.writtenOn fence.connectionEpoch)
          (sentOn deployment fence.connectionEpoch steps) := by
  obtain ⟨steps, s, hRun, hFound⟩ := Machine.exists_run_of_record (machine deployment)
    (bringUp ++ hostFrame 1 1 (unaryFrame "w1") ++ runQuery 0 ++ worker 0 2 ++
      [.workWriter .tick, .workWriter (.wrote true)] ++ failPair ++ replacePair 2)
    (fun steps s =>
      (openedFences steps).map (·.connectionEpoch) == [2, 1] &&
      (s.client.writtenOn 1).map (·.1.frameSequence) == [2, 1] &&
      (s.client.writtenOn 2).map (·.1.frameSequence) == [1] &&
      (workIntake.handledOn 1 steps).length == 1) (by decide +kernel)
  simp only [Bool.and_eq_true, beq_iff_eq] at hFound
  obtain ⟨⟨⟨hPairs, hFirst⟩, hSecond⟩, hHandled⟩ := hFound
  refine ⟨steps, s, hRun, hPairs, hFirst, hSecond, hHandled, fun fence hMem => ?_⟩
  exact ((pair_isolation hRun).2.1 fence hMem).1

end Runs

end AdapterRuntime.Model
