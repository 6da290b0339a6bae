import AdapterRuntime.Model.Deployment
import AdapterRuntime.Proof.Standing

/-!
# AdapterRuntime — the order of spec revisions

`spec_revision_` is reset to 0 in the middle of a transaction, and the order of
revisions is then carried by `desired_spec_` alone. `SpecMove` says what a step
can do to the three fields and to the log of commits; `Revisions` links them.

* `spec_revision_discipline` — the order of commits over any run, what can be
  committed after an interrupted transaction, and what a refusal leaves alone.
-/

namespace AdapterRuntime.Model

open AdapterRuntime.Lib

variable {env : Env} {c c' : Client} {s s' : System}

-- ---------------------------------------------------------------------------
-- Commits
-- ---------------------------------------------------------------------------

/-- The spec a commit is of. -/
def LifecycleEvent.commit? : LifecycleEvent → Option AdapterInstanceSpec
  | .specCommitted spec => some spec
  | _ => none

/-- The specs committed so far, newest first. -/
def Client.commits (c : Client) : List AdapterInstanceSpec := c.trace.filterMap (·.commit?)

/-- Incidental events can be dropped before a selection that ignores them. -/
theorem filterMap_trace {α : Type} {f : LifecycleEvent → Option α}
    (hf : ∀ e, e.incidental = true → f e = none) :
    c.trace.filterMap f = c.helm.events.filterMap f := by
  rw [Client.helm, List.filterMap_filter]
  refine List.filterMap_congr fun e _ => ?_
  cases hE : e.incidental with
  | true => simp [hf e hE]
  | false => simp

theorem commits_of_events (h : c'.helm.events = c.helm.events) : c'.commits = c.commits := by
  have hIgnored : ∀ e : LifecycleEvent, e.incidental = true → e.commit? = none := by
    intro e hE
    cases e <;> simp_all [LifecycleEvent.incidental, LifecycleEvent.commit?]
  rw [Client.commits, Client.commits, filterMap_trace hIgnored, filterMap_trace hIgnored, h]

theorem commits_of_helm (h : c'.helm = c.helm) : c'.commits = c.commits :=
  commits_of_events (congrArg Helm.events h)

@[simp] theorem commits_unlocked : c.unlocked.commits = c.commits := rfl

@[simp] theorem commits_callStop (binding : Nat) : (c.callStop env binding).commits = c.commits := by
  unfold Client.callStop
  split <;> rfl

@[simp] theorem commits_callClear : (c.callClear env).commits = c.commits := by
  unfold Client.callClear
  split <;> rfl

theorem commits_deactivateStep {reason : Text} {at_ : DeactivatePc} {next : Option DeactivatePc}
    (h : deactivateStep env reason c at_ = some (next, c')) : c'.commits = c.commits := by
  cases deactivateStep_move h with
  | begin | waited | stopped | finish => rfl
  | stop => simp
  | clear =>
    split
    · simp
    · rfl
  | notify => exact commits_of_helm (Client.helm_notifySourceClosed _ _)

-- ---------------------------------------------------------------------------
-- Steps
-- ---------------------------------------------------------------------------

/-- What a step can do to the spec fields and the log of commits. -/
inductive SpecMove (env : Env) (c c' : Client) : Prop
  | keep (hRevision : c'.spec.specRevision = c.spec.specRevision)
      (hActive : c'.spec.activeSpec = c.spec.activeSpec)
      (hDesired : c'.spec.desiredSpec = c.spec.desiredSpec) (hCommits : c'.commits = c.commits)
  | begin {spec : AdapterInstanceSpec}
      (hOrder : c.spec.specRevision < spec.revision ∧ c.spec.specRevision ≠ 0 ∨
        c.spec.specRevision = 0 ∧ env.protobuf.equalSpecs spec c.spec.desiredSpec = true)
      (hRevision : c'.spec.specRevision = c.spec.specRevision)
      (hActive : c'.spec.activeSpec = c.spec.activeSpec)
      (hDesired : c'.spec.desiredSpec = spec) (hCommits : c'.commits = c.commits)
  | vacate (hRevision : c'.spec.specRevision = 0)
      (hDesired : c'.spec.desiredSpec = c.spec.desiredSpec) (hCommits : c'.commits = c.commits)
  | commit {cand : Candidate} (hValid : cand.Valid env) (hVacant : c.spec.specRevision = 0)
      (hCandidate : c.spec.desiredSpec = cand.spec) (hActive : c'.spec.activeSpec = cand.spec)
      (hDesired : c'.spec.desiredSpec = c.spec.desiredSpec)
      (hCommits : c'.commits = cand.spec :: c.commits)

theorem SpecMove.of_helm (h : c'.helm = c.helm) : SpecMove env c c' := by
  have hSpec := spec_of_helm h
  exact .keep (by rw [hSpec]) (by rw [hSpec]) (by rw [hSpec]) (commits_of_helm h)

/-- A deactivation leaves nothing committed. -/
theorem SpecMove.of_deactivateStep {reason : Text} {at_ : DeactivatePc}
    {next : Option DeactivatePc} (h : deactivateStep env reason c at_ = some (next, c')) :
    SpecMove env c c' := by
  obtain ⟨-, -, -, hVacant, hDesired⟩ | ⟨-, -, hSpec⟩ := spec_deactivateStep h
  · exact .vacate hVacant.revision hDesired (commits_deactivateStep h)
  · exact .keep (by rw [hSpec]) (by rw [hSpec]) (by rw [hSpec]) (commits_deactivateStep h)

/-- A step of the transaction, on the spec fields. -/
theorem ApplyMove.specMove {session : Text} {at_ : ApplyPc} {next : ApplyNext}
    (h : ApplyMove env session c at_ next c') (hFits : at_.Fits env c.spec) :
    SpecMove env c c' := by
  cases h with
  | begin hBegin =>
    obtain ⟨hOrder, -, -, -, rfl⟩ := beginApply_inr hBegin
    exact .begin hOrder rfl rfl rfl rfl
  | deactivate hStep | deactivated hStep | readyDeactivate hStep | readyDeactivated hStep =>
    exact .of_deactivateStep hStep
  | @commit cand started c₁ hCommit =>
    obtain ⟨-, -, -, hSpec⟩ := commitSpec_some hCommit
    obtain ⟨hValid, hDesired, hVacant, -⟩ := hFits
    refine .commit hValid hVacant.revision hDesired ?_ ?_ ?_
    · show c₁.spec.activeSpec = _
      rw [hSpec]
    · show c₁.spec.desiredSpec = _
      rw [hSpec]
    · have hTrace : c₁.trace = c.trace := by
        unfold commitSpec at hCommit
        split at hCommit <;> cases hCommit
        rfl
      show (LifecycleEvent.specCommitted cand.spec :: c₁.trace).filterMap _ = _
      rw [hTrace]
      rfl
  | finish =>
    refine .keep ?_ ?_ ?_ ?_ <;> (unfold finishApply; split) <;> rfl
  | unwound =>
    split
    · exact .keep (by simp) (by simp) (by simp) (by simp)
    · exact .keep rfl rfl rfl rfl
  | applyFailed hBound =>
    refine .keep (by simp [Client.log]) (by simp [Client.log]) (by simp [Client.log]) ?_
    rw [commits_callClear]
    rfl
  | staleUnwound =>
    refine .keep (by simp) (by simp) (by simp) ?_
    show (c.callClear env).commits = _
    simp
  | unwindStop | staleStop => exact .keep (by simp) (by simp) (by simp) (by simp)
  | answer | waited | lock | current | stale | proceed | skipApply | applied | skipStart | started
  | startFailed | startedAll | failed | outdated | skipReady | readied | readyFailed | readiedAll
  | readyFailure => exact .keep rfl rfl rfl rfl

theorem ControlReaderMove.specMove {pc pc' : ControlReaderPc}
    (h : ControlReaderMove env c pc pc' c') (hSpec : c.spec.Stands env pc.transaction?) :
    SpecMove env c c' := by
  cases h with
  | calm hHelm => exact .of_helm hHelm
  | drain =>
    have hHelm := Client.helm_beginDrain c env
    have hEq : (c.beginDrain env).spec = c.spec := congrArg Helm.spec hHelm
    exact .keep (by rw [hEq]) (by rw [hEq]) (by rw [hEq]) (commits_of_events (by rw [hHelm]))
  | refuse | receive => exact .keep rfl rfl rfl rfl
  | apply hMove => exact hMove.specMove hSpec
  | conclude hMove => exact hMove.specMove hSpec
  | queue hQueue | overflow hQueue =>
    have hHelm := Client.helm_queueControlLocked hQueue
    have hEq : c'.spec = c.spec := congrArg Helm.spec hHelm
    exact .keep (by rw [hEq]) (by rw [hEq]) (by rw [hEq]) (commits_of_events (by rw [hHelm]))
  | signal => exact .of_helm (Client.helm_signalSessionFailure _ _)

theorem commits_controlWriterMove {pc pc' : ControlWriterPc}
    (h : ControlWriterMove env c pc pc' c') : c'.commits = c.commits := by
  cases h with
  | exit | write | lose => rfl
  | dequeue hHelm => exact commits_of_events (by rw [hHelm])
  | heartbeat _ hHelm => exact commits_of_helm hHelm
  | gate =>
    unfold Client.openAttachGate
    split <;> rfl
  | signal => exact commits_of_helm (Client.helm_signalSessionFailure _ _)
  | terminal => exact commits_of_helm (Client.helm_signalTerminalSessionFailure _ _)

theorem commits_workWriterMove {pc pc' : WorkWriterPc} (h : WorkWriterMove env c pc pc' c') :
    c'.commits = c.commits := by
  cases h with
  | calm hHelm => exact commits_of_helm hHelm
  | attach _ _ hHelm => exact commits_of_helm hHelm
  | attached | write => rfl
  | ready =>
    unfold Client.markReady
    split <;> rfl

-- ---------------------------------------------------------------------------
-- The session
-- ---------------------------------------------------------------------------

/-- A session is installed. -/
def System.inSession (s : System) : Bool := s.supervisor.supervision?.isSome

/-- The registration has not been answered yet. -/
def System.Fresh (s : System) : Prop :=
  s.client.flags.registrationAttempted = false ∨ s.supervisor.registering = true

/-- The session has been given up, and no other one can follow. -/
def System.Over (s : System) : Prop := s.inSession = false ∧ ¬s.Fresh

/-- A pair lives inside a session. -/
theorem System.inSession_of_pair (h : s.supervisor.phase ≠ .outside) : s.inSession = true := by
  cases hPc : s.supervisor <;> simp_all [SupervisorPc.phase, System.inSession,
    SupervisorPc.supervision?]

/-- Nothing is fresh inside a pair. -/
theorem Single.not_fresh (h : Single s) (hPhase : s.supervisor.phase ≠ .outside) : ¬s.Fresh := by
  rintro (hAttempted | hRegistering)
  · have hBegun : s.supervisor.begun = true := by
      by_contra hNot
      exact hPhase (SupervisorPc.phase_of_not_begun (by simpa using hNot))
    rw [h.begun hBegun] at hAttempted
    cases hAttempted
  · cases hPc : s.supervisor <;> simp_all [SupervisorPc.phase, SupervisorPc.registering]

/-- What a step of the supervisor does to the session. -/
theorem SupervisorTurn.session {pc pc' : SupervisorPc} (h : SupervisorTurn env c pc pc' c') :
    ((∃ fence, pc = .install fence ∧ c' = c.installSession env fence) ∨
      (pc'.supervision?.isSome = true → pc.supervision?.isSome = true)) ∧
    ((c'.flags.registrationAttempted = false ∨ pc'.registering = true) →
      c.flags.registrationAttempted = false ∨ pc.registering = true) := by
  have hKept : ∀ {pc₁ pc₂ : SupervisorPc} {c₁ : Client},
      c₁.flags.registrationAttempted = c.flags.registrationAttempted → pc₂.registering = false →
      (c₁.flags.registrationAttempted = false ∨ pc₂.registering = true) →
      c.flags.registrationAttempted = false ∨ pc₁.registering = true := by
    intro pc₁ pc₂ c₁ hAttempted hPc hFresh
    rw [hAttempted, hPc] at hFresh
    simpa using Or.inl hFresh
  cases h with
  | calm hHelm hRest hPc hDown hSettled hRegistering hAttempted hSession =>
    refine ⟨.inr ?_, ?_⟩
    · intro hSome
      obtain ⟨r, hr⟩ := Option.isSome_iff_exists.mp hSome
      obtain ⟨r', hr', -⟩ := hSession r hr
      rw [hr']
      rfl
    · rintro (hFresh | hFresh)
      · refine .inl ?_
        rw [← Bool.not_eq_true]
        intro hTrue
        rw [hAttempted hTrue] at hFresh
        cases hFresh
      · exact (hRegistering hFresh).symm.imp_left And.left
  | install => exact ⟨.inl ⟨_, rfl, rfl⟩, fun _ => .inr rfl⟩
  | replace | prepare => exact ⟨.inr fun _ => rfl, hKept rfl rfl⟩
  | clear => exact ⟨.inr fun _ => rfl, hKept rfl rfl⟩
  | advance =>
    refine ⟨.inr fun _ => rfl, hKept ?_ rfl⟩
    unfold Client.advanceEpoch
    split <;> rfl
  | deactivate hStep =>
    exact ⟨.inr (fun h => by cases h), hKept (steady_deactivateStep hStep).attempted rfl⟩
  | deactivated hStep hPc' =>
    have hAttempted := (steady_deactivateStep hStep).attempted
    obtain ⟨_, -, rfl⟩ | ⟨-, rfl⟩ := hPc' <;>
      exact ⟨.inr (fun h => by cases h), hKept hAttempted rfl⟩
  | report => exact ⟨.inr (fun h => by cases h), hKept rfl rfl⟩
  | endSession => exact ⟨.inr (fun h => by cases h), hKept rfl rfl⟩

/-- What a step does to the session. -/
theorem ControlMove.session (h : ControlMove env s s') :
    ((∃ fence, s.supervisor = .install fence ∧ s'.client = s.client.installSession env fence) ∨
      (s'.inSession = true → s.inSession = true)) ∧ (s'.Fresh → s.Fresh) := by
  have hSame : s'.supervisor = s.supervisor →
      s'.client.flags.registrationAttempted = s.client.flags.registrationAttempted →
      ((∃ fence, s.supervisor = .install fence ∧ s'.client = s.client.installSession env fence) ∨
        (s'.inSession = true → s.inSession = true)) ∧ (s'.Fresh → s.Fresh) := by
    intro hSupervisor hAttempted
    refine ⟨.inr ?_, ?_⟩
    · rw [System.inSession, System.inSession, hSupervisor]
      exact id
    · rw [System.Fresh, System.Fresh, hSupervisor, hAttempted]
      exact id
  have hNone : s'.supervisor.supervision? = none → s'.supervisor.registering = false →
      s'.client.flags.registrationAttempted = s.client.flags.registrationAttempted →
      ((∃ fence, s.supervisor = .install fence ∧ s'.client = s.client.installSession env fence) ∨
        (s'.inSession = true → s.inSession = true)) ∧ (s'.Fresh → s.Fresh) := by
    intro hSupervision hRegistering hAttempted
    refine ⟨.inr ?_, ?_⟩
    · rw [System.inSession, hSupervision]
      intro hSome
      cases hSome
    · rintro (hFresh | hFresh)
      · exact .inl (hAttempted ▸ hFresh)
      · rw [hRegistering] at hFresh
        cases hFresh
  cases h with
  | calm hHelm hRest _ _ _ hSupervisor => exact hSame hSupervisor hRest.attempted
  | controlReader _ _ _ _ hSupervisor _ hSteady => exact hSame hSupervisor hSteady.attempted
  | controlWriter _ _ _ _ hSupervisor _ hSteady => exact hSame hSupervisor hSteady.attempted
  | workWriter _ _ _ _ hSupervisor _ hSteady => exact hSame hSupervisor hSteady.attempted
  | supervisor hTurn => exact hTurn.session
  | startThreads hStopped hClient _ _ _ hSupervisor =>
    exact hNone (by rw [hSupervisor]; rfl) (by rw [hSupervisor]; rfl) (by rw [hClient]; rfl)
  | join hClient _ _ _ hSupervisor =>
    exact hNone (by rw [hSupervisor]; rfl) (by rw [hSupervisor]; rfl) (by rw [hClient])
  | stopDeactivate _ hStep _ _ _ _ hSupervisor =>
    exact hSame hSupervisor (steady_deactivateStep hStep).attempted
  | stopDeactivated _ hStep hClient _ _ _ _ hSupervisor =>
    exact hSame hSupervisor (by rw [hClient]; exact (steady_deactivateStep hStep).attempted)
  | stopReset _ hClient _ _ _ _ hSupervisor =>
    exact hSame hSupervisor (by rw [hClient]; rfl)

/-- What a step does to the spec fields, seen from the session. -/
inductive SessionMove (env : Env) (s s' : System) : Prop
  /-- A step of the Control reader. -/
  | inside (hSpec : SpecMove env s.client s'.client) (hPhase : s.supervisor.phase ≠ .outside)
      (hSupervisor : s'.supervisor = s.supervisor)
      (hMove : ControlReaderMove env s.client s.controlReader s'.controlReader s'.client)
  /-- Any other step: at most a deactivation, or the end of the session. -/
  | kept
      (hActive : (s'.client.spec.specRevision = s.client.spec.specRevision ∧
        s'.client.spec.activeSpec = s.client.spec.activeSpec) ∨ s'.client.spec.specRevision = 0)
      (hDesired : s'.inSession = true →
        s.inSession = true ∧ s'.client.spec.desiredSpec = s.client.spec.desiredSpec)
      (hCommits : s'.client.commits = s.client.commits)
  | install {fence : SessionFence} (hPc : s.supervisor = .install fence)
      (hClient : s'.client = s.client.installSession env fence)

/-- A step that leaves the spec alone. -/
theorem SessionMove.of_spec (hSpec : s'.client.spec = s.client.spec)
    (hCommits : s'.client.commits = s.client.commits)
    (hIn : s'.inSession = true → s.inSession = true) : SessionMove env s s' :=
  .kept (.inl ⟨by rw [hSpec], by rw [hSpec]⟩) (fun hS => ⟨hIn hS, by rw [hSpec]⟩) hCommits

/-- A deactivation, on the fields the order of commits depends on. -/
theorem active_deactivateStep {reason : Text} {at_ : DeactivatePc} {next : Option DeactivatePc}
    (h : deactivateStep env reason c at_ = some (next, c')) :
    ((c'.spec.specRevision = c.spec.specRevision ∧ c'.spec.activeSpec = c.spec.activeSpec) ∨
      c'.spec.specRevision = 0) ∧ c'.spec.desiredSpec = c.spec.desiredSpec := by
  obtain ⟨-, -, -, hVacant, hDesired⟩ | ⟨-, -, hSpec⟩ := spec_deactivateStep h
  · exact ⟨.inr hVacant.revision, hDesired⟩
  · exact ⟨.inl ⟨by rw [hSpec], by rw [hSpec]⟩, by rw [hSpec]⟩

theorem SupervisorTurn.sessionMove
    (hTurn : SupervisorTurn env s.client s.supervisor s'.supervisor s'.client) :
    SessionMove env s s' := by
  obtain ⟨⟨fence, hPc, hInstall⟩ | hSession, -⟩ := hTurn.session
  · exact .install hPc hInstall
  · generalize hPc : s.supervisor = pc at hTurn hSession
    generalize hPc' : s'.supervisor = pc' at hTurn hSession
    have hIn : s'.inSession = true → s.inSession = true := by
      rw [System.inSession, System.inSession, hPc, hPc']
      exact hSession
    -- the end of the session leaves no desired spec behind
    have hNone : s'.client.spec.specRevision = 0 → s'.client.commits = s.client.commits →
        pc'.supervision? = none → SessionMove env s s' := by
      intro hRevision hCommits hSupervision
      refine .kept (.inr hRevision) ?_ hCommits
      intro hS
      rw [System.inSession, hPc', hSupervision] at hS
      cases hS
    generalize hClient : s'.client = c' at hTurn hNone
    cases hTurn with
    | calm hHelm =>
      exact .of_spec (by rw [hClient, spec_of_helm hHelm])
        (by rw [hClient, commits_of_helm hHelm]) hIn
    | install => exact .install hPc hClient
    | replace | prepare | clear | report =>
      exact .of_spec (by rw [hClient]; rfl) (by rw [hClient]; rfl) hIn
    | advance =>
      have hSame : s.client.advanceEpoch.spec = s.client.spec ∧
          s.client.advanceEpoch.commits = s.client.commits := by
        unfold Client.advanceEpoch
        split <;> exact ⟨rfl, rfl⟩
      exact .of_spec (by rw [hClient, hSame.1]) (by rw [hClient, hSame.2]) hIn
    | deactivate hStep =>
      obtain ⟨hActive, hDesired⟩ := active_deactivateStep hStep
      exact .kept (by rw [hClient]; exact hActive) (fun hS => ⟨hIn hS, by rw [hClient]; exact hDesired⟩)
        (by rw [hClient]; exact commits_deactivateStep hStep)
    | deactivated hStep =>
      obtain ⟨hActive, hDesired⟩ := active_deactivateStep hStep
      exact .kept (by rw [hClient]; exact hActive) (fun hS => ⟨hIn hS, by rw [hClient]; exact hDesired⟩)
        (by rw [hClient, commits_unlocked]; exact commits_deactivateStep hStep)
    | endSession => exact hNone rfl rfl rfl

theorem ControlMove.sessionMove (hMove : ControlMove env s s') (hShape : Shape s)
    (hStanding : Standing env s) : SessionMove env s s' := by
  have hSame : s'.supervisor = s.supervisor → s'.inSession = true → s.inSession = true := by
    intro hSupervisor hIn
    rw [System.inSession, ← hSupervisor]
    exact hIn
  have hNone : s'.supervisor.supervision? = none → s'.inSession = true → s.inSession = true := by
    intro hSupervision hIn
    rw [System.inSession, hSupervision] at hIn
    cases hIn
  -- `Stop` runs alone, without a session
  have hAlone : s.stopper.joined = true → s'.supervisor = s.supervisor → s'.inSession = false := by
    intro hJoined hSupervisor
    rw [System.inSession, hSupervisor, hShape.threads.stopper hJoined]
    rfl
  cases hMove with
  | calm hHelm _ _ _ _ hSupervisor =>
    exact .of_spec (spec_of_helm hHelm) (commits_of_helm hHelm) (hSame hSupervisor)
  | controlReader hReader _ hPhase _ hSupervisor =>
    exact .inside (hReader.specMove hStanding.spec) (phase_of_control hPhase) hSupervisor hReader
  | controlWriter hWriter _ _ _ hSupervisor =>
    exact .of_spec (spec_controlWriterMove hWriter) (commits_controlWriterMove hWriter)
      (hSame hSupervisor)
  | workWriter hWriter _ _ _ hSupervisor =>
    exact .of_spec (spec_workWriterMove hWriter) (commits_workWriterMove hWriter)
      (hSame hSupervisor)
  | supervisor hTurn => exact hTurn.sessionMove
  | startThreads _ hClient _ _ _ hSupervisor =>
    exact .of_spec (by rw [hClient]; rfl) (by rw [hClient]; rfl) (hNone (by rw [hSupervisor]; rfl))
  | join hClient _ _ _ hSupervisor =>
    exact .of_spec (by rw [hClient]) (by rw [hClient]) (hNone (by rw [hSupervisor]; rfl))
  | stopDeactivate hStopper hStep _ _ _ _ hSupervisor =>
    have hOut := hAlone (by rw [hStopper]; rfl) hSupervisor
    exact .kept (active_deactivateStep hStep).1 (by simp [hOut]) (commits_deactivateStep hStep)
  | stopDeactivated hStopper hStep hClient _ _ _ _ hSupervisor =>
    have hOut := hAlone (by rw [hStopper]; rfl) hSupervisor
    refine .kept ?_ (by simp [hOut]) ?_
    · rw [hClient]
      exact (active_deactivateStep hStep).1
    · rw [hClient, commits_unlocked]
      exact commits_deactivateStep hStep
  | stopReset hStopper hClient _ _ _ _ hSupervisor =>
    have hOut := hAlone (by rw [hStopper]; rfl) hSupervisor
    exact .kept (.inr (by rw [hClient]; rfl)) (by simp [hOut]) (by rw [hClient]; rfl)

/-- No spec is committed before the registration has been answered. -/
theorem revision_of_fresh (h : (machine env).Reachable s) :
    s.Fresh → s.client.spec.specRevision = 0 := by
  refine Machine.Reachable.invariant (I := fun s => s.Fresh → s.client.spec.specRevision = 0)
    (fun _ => rfl) ?_ h
  intro s a s' hReach hOld hStep hFresh
  have hMove := controlMove_of_reachable hReach hStep
  have hWas := hMove.session.2 hFresh
  have hZero := hOld hWas
  cases hMove.sessionMove (shape_of_reachable hReach) (standing_of_reachable hReach) with
  | inside _ hPhase => exact absurd hWas ((single_of_reachable hReach).not_fresh hPhase)
  | kept hActive =>
    obtain ⟨hSame, -⟩ | hNone := hActive
    · rw [hSame]
      exact hZero
    · exact hNone
  | install _ hClient =>
    rw [hClient]
    exact hZero

-- ---------------------------------------------------------------------------
-- The order of commits
-- ---------------------------------------------------------------------------

/-- `MessageDifferencer::Equals` is an equivalence, and equal messages agree in
every field, the revision among them. -/
structure SpecEquality (env : Env) : Prop where
  refl : ∀ a, env.protobuf.equalSpecs a a = true
  symm : ∀ a b, env.protobuf.equalSpecs a b = true → env.protobuf.equalSpecs b a = true
  trans : ∀ a b d, env.protobuf.equalSpecs a b = true → env.protobuf.equalSpecs b d = true →
    env.protobuf.equalSpecs a d = true
  revision : ∀ a b, env.protobuf.equalSpecs a b = true → a.revision = b.revision

/-- The commits of a run, newest first. -/
structure RevisionDiscipline (env : Env) (commits : List AdapterInstanceSpec) : Prop where
  first : ∀ spec, commits.getLast? = some spec →
    env.protobuf.equalSpecs spec env.config.initialSpec = true
  ordered : commits.Pairwise fun newer older => older.revision ≤ newer.revision ∧
    (older.revision = newer.revision → env.protobuf.equalSpecs newer older = true)
  valid : ∀ spec ∈ commits, ∃ bindings, env.validateInstanceSpec spec = .ok bindings

/-- The spec may follow these commits. -/
def Succeeds (env : Env) (spec : AdapterInstanceSpec) : List AdapterInstanceSpec → Prop
  | [] => env.protobuf.equalSpecs spec env.config.initialSpec = true
  | newest :: _ => newest.revision < spec.revision ∨ env.protobuf.equalSpecs spec newest = true

/-- The desired spec carries the order while no spec is committed. -/
structure Revisions (env : Env) (s : System) : Prop where
  discipline : RevisionDiscipline env s.client.commits
  active : s.client.spec.specRevision ≠ 0 → s.client.commits.head? = some s.client.spec.activeSpec
  desired : s.inSession = true → Succeeds env s.client.spec.desiredSpec s.client.commits
  fresh : s.Fresh → s.client.commits = []

/-- A spec may be replaced by an equal one. -/
theorem Succeeds.equal {spec spec' : AdapterInstanceSpec} {commits : List AdapterInstanceSpec}
    (hLaws : SpecEquality env) (h : Succeeds env spec commits)
    (hEqual : env.protobuf.equalSpecs spec' spec = true) : Succeeds env spec' commits := by
  cases commits with
  | nil => exact hLaws.trans _ _ _ hEqual h
  | cons newest older =>
    obtain hLess | hSame := h
    · refine .inl ?_
      rw [hLaws.revision _ _ hEqual]
      exact hLess
    · exact .inr (hLaws.trans _ _ _ hEqual hSame)

/-- A valid spec that may follow the commits keeps their order. -/
theorem RevisionDiscipline.cons {spec : AdapterInstanceSpec} {commits : List AdapterInstanceSpec}
    (hLaws : SpecEquality env) (h : RevisionDiscipline env commits)
    (hNext : Succeeds env spec commits)
    (hValid : ∃ bindings, env.validateInstanceSpec spec = .ok bindings) :
    RevisionDiscipline env (spec :: commits) := by
  refine ⟨?_, ?_, ?_⟩
  · intro last hLast
    cases commits with
    | nil =>
      cases hLast
      exact hNext
    | cons newest older => exact h.first last (by simpa using hLast)
  · refine List.pairwise_cons.mpr ⟨?_, h.ordered⟩
    intro older hOlder
    cases commits with
    | nil => cases hOlder
    | cons newest rest =>
      -- every older commit is bounded by the newest one, or is the newest one
      have hBound : older.revision ≤ newest.revision ∧
          (older.revision = newest.revision → env.protobuf.equalSpecs newest older = true) := by
        obtain rfl | hRest := List.mem_cons.mp hOlder
        · exact ⟨le_refl _, fun _ => hLaws.refl _⟩
        · exact (List.pairwise_cons.mp h.ordered).1 older hRest
      obtain hLess | hSame := hNext
      · exact ⟨by omega, fun hEq => by omega⟩
      · have hRevision := hLaws.revision _ _ hSame
        exact ⟨by omega, fun hEq => hLaws.trans _ _ _ hSame (hBound.2 (by omega))⟩
  · intro spec' hMem
    obtain rfl | hOld := List.mem_cons.mp hMem
    · exact hValid
    · exact h.valid spec' hOld

/-- A step that leaves the commits and the desired spec alone. -/
theorem Revisions.kept (h : Revisions env s)
    (hActive : (s'.client.spec.specRevision = s.client.spec.specRevision ∧
      s'.client.spec.activeSpec = s.client.spec.activeSpec) ∨ s'.client.spec.specRevision = 0)
    (hDesired : s'.inSession = true →
      s.inSession = true ∧ s'.client.spec.desiredSpec = s.client.spec.desiredSpec)
    (hCommits : s'.client.commits = s.client.commits) (hFresh : s'.Fresh → s.Fresh) :
    Revisions env s' := by
  refine ⟨?_, ?_, ?_, ?_⟩
  · rw [hCommits]
    exact h.discipline
  · intro hRevision
    obtain ⟨hSame, hSpec⟩ | hZero := hActive
    · rw [hCommits, hSpec]
      exact h.active (hSame ▸ hRevision)
    · exact absurd hZero hRevision
  · intro hSession
    obtain ⟨hOld, hSame⟩ := hDesired hSession
    rw [hCommits, hSame]
    exact h.desired hOld
  · intro hNew
    rw [hCommits]
    exact h.fresh (hFresh hNew)

/-- A step on the spec fields inside a session. -/
theorem Revisions.moved (hLaws : SpecEquality env) (h : Revisions env s)
    (hStanding : Standing env s) (hMove : SpecMove env s.client s'.client)
    (hSession : s.inSession = true) (hFresh : ¬s'.Fresh) : Revisions env s' := by
  cases hMove with
  | keep hRevision hActive hDesired hCommits =>
    exact h.kept (.inl ⟨hRevision, hActive⟩) (fun _ => ⟨hSession, hDesired⟩) hCommits
      (fun hF => absurd hF hFresh)
  | vacate hRevision hDesired hCommits =>
    exact h.kept (.inr hRevision) (fun _ => ⟨hSession, hDesired⟩) hCommits
      (fun hF => absurd hF hFresh)
  | begin hOrder hRevision hActive hDesired hCommits =>
    refine ⟨by rw [hCommits]; exact h.discipline, ?_, fun _ => ?_, fun hF => absurd hF hFresh⟩
    · rw [hRevision, hCommits, hActive]
      exact h.active
    · rw [hDesired, hCommits]
      obtain ⟨hLess, hNonzero⟩ | ⟨-, hEqual⟩ := hOrder
      · -- the newest commit is the active spec
        have hHead := h.active hNonzero
        have hActiveRevision : s.client.spec.specRevision = s.client.spec.activeSpec.revision := by
          exact hStanding.revision_of_active hNonzero
        cases hList : s.client.commits with
        | nil => simp [hList] at hHead
        | cons newest older =>
          simp only [hList, List.head?_cons, Option.some.injEq] at hHead
          rw [hHead]
          exact .inl (by omega)
      · exact (h.desired hSession).equal hLaws hEqual
  | @commit cand hValid hVacant hCandidate hActive hDesired hCommits =>
    have hNext := h.desired hSession
    rw [hCandidate] at hNext
    refine ⟨?_, fun _ => ?_, fun _ => ?_, fun hF => absurd hF hFresh⟩
    · rw [hCommits]
      exact h.discipline.cons hLaws hNext ⟨_, hValid⟩
    · rw [hCommits, hActive]
      rfl
    · rw [hCommits, hDesired, hCandidate]
      exact .inr (hLaws.refl _)

/-- A step keeps the revisions ascending. -/
theorem Revisions.step (hLaws : SpecEquality env) (h : Revisions env s) (hSingle' : Single s')
    (hStanding : Standing env s) (hMove : SessionMove env s s') (hFresh : s'.Fresh → s.Fresh) :
    Revisions env s' := by
  cases hMove with
  | inside hSpec hPhase hSupervisor =>
    exact h.moved hLaws hStanding hSpec (System.inSession_of_pair hPhase)
      (hSingle'.not_fresh (by rw [hSupervisor]; exact hPhase))
  | kept hActive hDesired hCommits => exact h.kept hActive hDesired hCommits hFresh
  | install hPc hInstall =>
    -- nothing has been committed yet, and the initial spec is desired
    have hNone := h.fresh (.inr (by rw [hPc]; rfl))
    have hCommits : s'.client.commits = [] := by
      rw [← hNone, hInstall]
      rfl
    refine ⟨⟨?_, ?_, ?_⟩, ?_, fun _ => ?_, fun _ => hCommits⟩
    · simp [hCommits]
    · simp [hCommits]
    · simp [hCommits]
    · intro hRevision
      rw [hInstall] at hRevision
      have hHead := h.active hRevision
      rw [hNone] at hHead
      cases hHead
    · rw [hCommits, hInstall]
      exact hLaws.refl _

/-- In every reachable state the revisions ascend. -/
theorem revisions_of_reachable (hLaws : SpecEquality env) (h : (machine env).Reachable s) :
    Revisions env s := by
  refine Machine.Reachable.invariant ?_ ?_ h
  · refine ⟨⟨?_, ?_, ?_⟩, ?_, ?_, ?_⟩ <;>
      simp [machine, Client.commits, System.inSession, SupervisorPc.supervision?]
  · intro s a s' hReach hRevisions hStep
    have hMove := controlMove_of_reachable hReach hStep
    exact hRevisions.step hLaws (single_of_reachable (hReach.step hStep))
      (standing_of_reachable hReach)
      (hMove.sessionMove (shape_of_reachable hReach) (standing_of_reachable hReach)) hMove.session.2

-- ---------------------------------------------------------------------------
-- After an interrupted transaction
-- ---------------------------------------------------------------------------

/-- The transaction has deactivated the old spec and committed no new one. -/
def ApplyPc.void : ApplyPc → Bool
  | .deactivating _ .locked | .readyDeactivating _ _ .locked => false
  | .deactivating _ _ | .applying _ | .starting _ _ _ _ | .unwinding _ _ _ _ _ | .failing _ _ _
  | .committing _ _ | .staleUnwinding _ _ | .readyDeactivating _ _ _ | .readyFailing _ _ => true
  | _ => false

/-- A transaction in its void finds nothing committed. -/
theorem ApplyPc.Fits.vacant {at_ : ApplyPc} {spec : SpecState} (h : at_.Fits env spec)
    (hVoid : at_.void = true) : spec.Vacant := by
  cases at_ with
  | deactivating _ at_ | readyDeactivating _ _ at_ =>
    cases at_ with
    | locked => cases hVoid
    | waiting | stopping | clearing | notifying => exact h.2.2
  | applying | unwinding | failing | staleUnwinding | readyFailing => exact h.2.2
  | starting | committing => exact h.2.2.1
  | begin | waiting | lock | checkSession | checkStop | readying | finishing => cases hVoid

/-- A spec has been committed since, or only `desired` can be. -/
def Awaits (env : Env) (desired : AdapterInstanceSpec) (commits : List AdapterInstanceSpec)
    (s : System) : Prop :=
  commits.length < s.client.commits.length ∨
    (s.client.commits = commits ∧ (s.Over ∨ (s.inSession = true ∧ ¬s.Fresh ∧
      s.client.spec.specRevision = 0 ∧
      env.protobuf.equalSpecs s.client.spec.desiredSpec desired = true)))

/-- A session that is over stays over. -/
theorem System.Over.step (h : s.Over) (hMove : ControlMove env s s') : s'.Over := by
  obtain ⟨hSession, hFresh⟩ := hMove.session
  refine ⟨?_, fun hNew => h.2 (hFresh hNew)⟩
  obtain ⟨fence, hPc, -⟩ | hSession := hSession
  · exact absurd (.inr (by rw [hPc]; rfl)) h.2
  · rw [← Bool.not_eq_true]
    intro hIn
    rw [h.1] at hSession
    exact absurd (hSession hIn) (by simp)

/-- No commit is forgotten. -/
theorem SessionMove.commits_length (h : SessionMove env s s') :
    s.client.commits.length ≤ s'.client.commits.length := by
  cases h with
  | inside hSpec =>
    cases hSpec with
    | keep _ _ _ hCommits | begin _ _ _ _ hCommits | vacate _ _ hCommits => rw [hCommits]
    | commit _ _ _ _ _ hCommits => simp [hCommits]
  | kept _ _ hCommits => rw [hCommits]
  | install _ hClient =>
    rw [hClient]
    exact le_refl _

/-- A step leaves the wait as it is, or ends it with a spec equal to the desired one. -/
theorem Awaits.step (hLaws : SpecEquality env) {desired : AdapterInstanceSpec}
    {commits : List AdapterInstanceSpec} (h : Awaits env desired commits s)
    (hMove : SessionMove env s s') (hFresh : s'.Fresh → s.Fresh)
    (hOver : s.Over → s'.Over) :
    Awaits env desired commits s' ∧ ∀ spec, s.client.commits = commits →
      s'.client.commits = spec :: commits → env.protobuf.equalSpecs spec desired = true := by
  obtain hLonger | ⟨hCommits, hState⟩ := h
  · -- committed before this step
    refine ⟨.inl (lt_of_lt_of_le hLonger hMove.commits_length), fun spec hSame => ?_⟩
    rw [hSame] at hLonger
    exact absurd hLonger (lt_irrefl _)
  · -- as long as nothing is committed the second part says nothing
    have hQuiet : s'.client.commits = s.client.commits → ∀ spec, s.client.commits = commits →
        s'.client.commits = spec :: commits → env.protobuf.equalSpecs spec desired = true := by
      intro hSame spec _ hNew
      rw [hSame, hCommits] at hNew
      exact absurd hNew.symm (List.cons_ne_self _ _)
    cases hMove with
    | inside hSpec hPhase hSupervisor =>
      -- a transaction in the pair
      have hIn := System.inSession_of_pair hPhase
      have hIn' : s'.inSession = true := by
        rw [System.inSession, hSupervisor]
        exact hIn
      obtain hOver | ⟨-, hOld, hZero, hEqual⟩ := hState
      · rw [hOver.1] at hIn
        cases hIn
      have hNew : ¬s'.Fresh := fun hF => hOld (hFresh hF)
      cases hSpec with
      | keep hRevision hActive hDesired hSame =>
        refine ⟨.inr ⟨hSame.trans hCommits, .inr ⟨hIn', hNew, hRevision.trans hZero, ?_⟩⟩,
          hQuiet hSame⟩
        rw [hDesired]
        exact hEqual
      | vacate hRevision hDesired hSame =>
        refine ⟨.inr ⟨hSame.trans hCommits, .inr ⟨hIn', hNew, hRevision, ?_⟩⟩, hQuiet hSame⟩
        rw [hDesired]
        exact hEqual
      | begin hOrder hRevision hActive hDesired hSame =>
        refine ⟨.inr ⟨hSame.trans hCommits, .inr ⟨hIn', hNew, hRevision.trans hZero, ?_⟩⟩,
          hQuiet hSame⟩
        rw [hDesired]
        -- a later spec replaces the one awaited, and is equal to it
        obtain ⟨-, hNonzero⟩ | ⟨-, hSpec⟩ := hOrder
        · exact absurd hZero hNonzero
        · exact hLaws.trans _ _ _ hSpec hEqual
      | @commit cand hValid hVacant hCandidate hActive hDesired hCons =>
        refine ⟨.inl ?_, ?_⟩
        · -- the commit is the awaited one
          rw [hCons, ← hCommits]
          exact Nat.lt_succ_self _
        · intro spec _ hSame
          rw [hCons, hCommits, List.cons.injEq] at hSame
          rw [← hSame.1, ← hCandidate]
          exact hEqual
    | kept hActive hDesired hSame =>
      refine ⟨.inr ⟨hSame.trans hCommits, ?_⟩, hQuiet hSame⟩
      -- a step outside the pair keeps what is awaited
      obtain hO | ⟨hIn, hOld, hZero, hEqual⟩ := hState
      · exact .inl (hOver hO)
      · have hNew : ¬s'.Fresh := fun hF => hOld (hFresh hF)
        by_cases hIn' : s'.inSession = true
        · refine .inr ⟨hIn', hNew, ?_, ?_⟩
          · obtain ⟨hRevision, -⟩ | hRevision := hActive
            · exact hRevision.trans hZero
            · exact hRevision
          · rw [(hDesired hIn').2]
            exact hEqual
        · exact .inl ⟨by simpa using hIn', hNew⟩
    | install hPc hClient =>
      -- an installation forgets it
      have hF : s.Fresh := .inr (by rw [hPc]; rfl)
      obtain hO | ⟨-, hOld, -⟩ := hState
      · exact absurd hF hO.2
      · exact absurd hF hOld

/-- A transaction that has deactivated the old spec waits for the desired one. -/
theorem awaits_of_void (hLaws : SpecEquality env) (hReach : (machine env).Reachable s)
    {at_ : ApplyPc} (hAt : s.controlReader.transaction? = some at_) (hVoid : at_.void = true) :
    Awaits env s.client.spec.desiredSpec s.client.commits s := by
  have hSpec := (standing_of_reachable hReach).spec
  rw [hAt] at hSpec
  have hPhase : s.supervisor.phase ≠ .outside := by
    intro hOutside
    have hNone := (shape_of_reachable hReach).threads.no_transaction (by rw [hOutside]; rfl)
    rw [hNone] at hAt
    cases hAt
  exact .inr ⟨rfl, .inr ⟨System.inSession_of_pair hPhase,
    (single_of_reachable hReach).not_fresh hPhase, (ApplyPc.Fits.vacant hSpec hVoid).revision,
    hLaws.refl _⟩⟩

/-- A desired spec is awaited along every path that commits nothing. -/
theorem Awaits.of_path (hLaws : SpecEquality env) {desired : AdapterInstanceSpec}
    {commits : List AdapterInstanceSpec} (hReach : (machine env).Reachable s)
    (h : Awaits env desired commits s)
    (hPath : (machine env).Path (fun _ _ => True) s s') : Awaits env desired commits s' := by
  refine Machine.Path.preserves ?_ hReach h hPath
  intro s a s' hR hAwaits _ hStep
  have hMove := controlMove_of_reachable hR hStep
  exact (hAwaits.step hLaws (hMove.sessionMove (shape_of_reachable hR) (standing_of_reachable hR))
    hMove.session.2 (fun hO => hO.step hMove)).1

-- ---------------------------------------------------------------------------
-- Refusals
-- ---------------------------------------------------------------------------

/-- The codes of a spec that is refused before anything is done for it: invalid,
content-mismatched, stale or initial-mismatched. -/
def refusalCodes : List Text :=
  [text "invalid-instance-spec", text "spec-content-mismatch", text "stale-spec-revision",
    text "initial-spec-mismatch"]

/-- The Control reader is about to queue this refusal. -/
def ControlReaderPc.Refuses (pc : ControlReaderPc) (result : ApplyInstanceSpecResult) : Prop :=
  pc.result? = some result ∧ ∃ error, result.error = some error ∧ error.code ∈ refusalCodes

/-- A refusal changes nothing. -/
theorem ApplyMove.refuses {session : Text} {at_ : ApplyPc} {result : ApplyInstanceSpecResult}
    (h : ApplyMove env session c at_ (.inr result) c') {error : AdapterError}
    (hError : result.error = some error) (hCode : error.code ∈ refusalCodes) : c' = c := by
  cases h with
  | answer => rfl
  | finish => cases hError
  | stale | staleUnwound =>
    cases hError
    exact absurd hCode (by show text "stale-session" ∉ refusalCodes; decide)
  | failed =>
    cases hError
    exact absurd hCode (by show text "spec-apply-failed" ∉ refusalCodes; decide)
  | readyFailure =>
    cases hError
    exact absurd hCode (by show text "ready-callback-failed" ∉ refusalCodes; decide)

/-- A refused spec changes nothing. -/
theorem ControlReaderMove.refusal {pc pc' : ControlReaderPc} {result : ApplyInstanceSpecResult}
    (h : ControlReaderMove env c pc pc' c') (hRefuses : pc'.Refuses result) : c' = c := by
  obtain ⟨hResult, error, hError, hCode⟩ := hRefuses
  cases h with
  | calm _ _ _ _ _ hNone =>
    rw [hNone] at hResult
    cases hResult
  | refuse | receive => rfl
  | conclude hMove =>
    cases hResult
    exact hMove.refuses hError hCode
  | drain | apply | queue | overflow | signal => cases hResult

/-- A spec frame changes nothing before its transaction begins. -/
theorem controlReaderStep_spec {fence : SessionFence} {spec : AdapterInstanceSpec}
    {input : ReaderInput ControlResponse} {pc' : ControlReaderPc}
    (h : controlReaderStep env c (.handling fence (.instanceSpec spec)) input = some (pc', c')) :
    c' = c := by
  cases controlReaderStep_branch h <;> rfl

/-- **The discipline of spec revisions.** Over any run: the first commit is the
bootstrap spec, revisions never decrease and determine the content, and only
validated specs are committed; once a transaction has deactivated the old spec,
whatever becomes of it, the next commit equals the spec desired then; and a
refused spec changes no field of the client and runs no callback, neither when
its frame is taken up nor when the refusal is decided. -/
theorem spec_revision_discipline (hLaws : SpecEquality env) :
    (∀ s, (machine env).Reachable s → RevisionDiscipline env s.client.commits) ∧
    (∀ s s₁ s₂ a at_ spec, (machine env).Reachable s →
      s.controlReader.transaction? = some at_ → at_.void = true →
      (machine env).Path (fun _ _ => True) s s₁ → s₁.client.commits = s.client.commits →
      (machine env).step s₁ a = some s₂ → s₂.client.commits = spec :: s.client.commits →
      env.protobuf.equalSpecs spec s.client.spec.desiredSpec = true) ∧
    (∀ s input s', (machine env).Reachable s →
      (machine env).step s (.controlReader input) = some s' →
      ((∃ fence spec, s.controlReader = .handling fence (.instanceSpec spec)) ∨
        ∃ result, s'.controlReader.Refuses result) → s'.client = s.client) := by
  refine ⟨fun s hReach => (revisions_of_reachable hLaws hReach).discipline, ?_, ?_⟩
  · intro s s₁ s₂ a at_ spec hReach hAt hVoid hPath hSame hStep hNew
    have hReach₁ := hPath.reachable hReach
    have hMove := controlMove_of_reachable hReach₁ hStep
    have hAwaits := (awaits_of_void hLaws hReach hAt hVoid).of_path hLaws hReach hPath
    exact (hAwaits.step hLaws (hMove.sessionMove (shape_of_reachable hReach₁)
      (standing_of_reachable hReach₁)) hMove.session.2 (fun hO => hO.step hMove)).2 spec hSame hNew
  · intro s input s' hReach hStep hRefused
    have hReader := System.controlReaderAction_step (s := s) hStep
    obtain ⟨fence, spec, hPc⟩ | ⟨result, hRefuses⟩ := hRefused
    · rw [hPc] at hReader
      exact controlReaderStep_spec hReader
    · exact (controlReaderStep_cases hReader).refusal hRefuses

section Runs

open Deployment

/-- Equality of specs in the deployment is an equivalence that respects their identity. -/
theorem deployment_specEquality : SpecEquality deployment := by
  have hEq : ∀ a b : AdapterInstanceSpec, deployment.protobuf.equalSpecs a b = true ↔ a = b :=
    fun a b => beq_iff_eq
  refine ⟨fun a => (hEq a a).mpr rfl, fun a b h => (hEq b a).mpr ((hEq a b).mp h).symm, ?_, ?_⟩
  · intro a b d hab hbd
    exact (hEq a d).mpr (((hEq a b).mp hab).trans ((hEq b d).mp hbd))
  · intro a b h
    rw [(hEq a b).mp h]

/-- The bootstrap spec is applied, and then a second one replaces it. -/
theorem spec_revision_discipline_second :
    ∃ s, (machine deployment).Reachable s ∧ s.client.commits = [specOf 2, specOf 1] ∧
      RevisionDiscipline deployment s.client.commits := by
  obtain ⟨s, hReach, hRun⟩ := Machine.exists_reaches_of_runWith (machine deployment)
    (fun _ _ => True) (bringUp ++ receiveSpec 1 2 2 ++ transaction 1)
    (fun s => s.client.commits == [specOf 2, specOf 1]) (by decide +kernel)
  exact ⟨s, hReach, eq_of_beq hRun, (spec_revision_discipline deployment_specEquality).1 s hReach⟩

end Runs

end AdapterRuntime.Model
