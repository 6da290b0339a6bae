import AdapterRuntime.Proof.ControlPlane

/-!
# AdapterRuntime — the spec through a transaction

A client either has no spec (`Vacant`) or one that `ValidateInstanceSpec`
accepted, with its capabilities (`InForce`). `ApplyPc.Fits` says which of the
two holds at each point of the transaction, and how far the `start` and
`ready` callbacks have come; outside a transaction every `ready` callback of
the spec has returned (`Settled`).

* `standing_of_reachable` — this holds in every reachable state.
-/

namespace AdapterRuntime.Model

open AdapterRuntime.Lib

variable {env : Env} {c c' : Client} {s s' : System}

-- ---------------------------------------------------------------------------
-- Validated specs
-- ---------------------------------------------------------------------------

/-- What `ValidateInstanceSpec` has checked of an accepted spec. -/
theorem validateInstanceSpec_ok {spec : AdapterInstanceSpec} {bindings : List Nat}
    (h : env.validateInstanceSpec spec = .ok bindings) :
    spec.revision ≠ 0 ∧ isCanonicalSha256 spec.specDigest = true ∧
      env.grantsOk [] spec.capabilities = .ok bindings := by
  unfold Env.validateInstanceSpec at h
  simp only at h
  split at h
  · cases h
  · split at h
    · cases h
    · rename_i hIdentity
      simp only [Bool.or_eq_true, beq_iff_eq, Bool.not_eq_true', not_or,
        Bool.not_eq_false] at hIdentity
      split at h
      · cases h
      · split at h
        · cases h
        · split at h
          · cases h
          · split at h
            · cases h
            · split at h
              · cases h
              · exact ⟨hIdentity.1, hIdentity.2, h⟩

/-- What the grant loop has checked. -/
structure GrantsOk (env : Env) (grants : List EnabledCapability) (bindings : List Nat) : Prop where
  length : bindings.length = grants.length
  distinct : (grants.map (·.capabilityId)).Nodup
  bound : ∀ e ∈ grants.zip bindings, env.findBindingIndex e.1 = some e.2

/-- The grants of an accepted spec, with their bindings and distinct ids. -/
theorem grantsOk_ok {grants : List EnabledCapability} {seen : List Text} {bindings : List Nat}
    (h : env.grantsOk seen grants = .ok bindings) :
    GrantsOk env grants bindings ∧ ∀ g ∈ grants, g.capabilityId ∉ seen := by
  induction grants generalizing seen bindings with
  | nil =>
    cases h
    exact ⟨⟨rfl, by simp, by simp⟩, by simp⟩
  | cons grant rest ih =>
    rw [Env.grantsOk] at h
    split at h
    · cases h
    · rename_i hSeen
      simp only [Bool.or_eq_true, Bool.not_eq_true', not_or, Bool.not_eq_false,
        List.contains_iff_mem] at hSeen
      split at h
      · cases h
      · rename_i index hIndex
        split at h
        · cases h
        · split at h
          · cases h
          · split at h
            · cases h
            · split at h
              · cases h
              · split at h
                · cases h
                · rename_i indices hRest
                  cases h
                  obtain ⟨hOk, hFresh⟩ := ih hRest
                  refine ⟨⟨by simp [hOk.length], ?_, ?_⟩, ?_⟩
                  · rw [List.map_cons, List.nodup_cons]
                    refine ⟨?_, hOk.distinct⟩
                    intro hMem
                    obtain ⟨g, hg, hEq⟩ := List.mem_map.mp hMem
                    exact hFresh g hg (by simp [hEq])
                  · intro e he
                    rw [List.zip_cons_cons, List.mem_cons] at he
                    obtain rfl | he := he
                    · exact hIndex
                    · exact hOk.bound e he
                  · intro g hg
                    rw [List.mem_cons] at hg
                    obtain rfl | hg := hg
                    · exact hSeen.2
                    · exact fun hMem => hFresh g hg (List.mem_cons_of_mem _ hMem)

/-- The spec of a transaction passed `ValidateInstanceSpec` with these bindings. -/
def Candidate.Valid (env : Env) (cand : Candidate) : Prop :=
  env.validateInstanceSpec cand.spec = .ok cand.bindings

namespace Candidate.Valid

variable {cand : Candidate}

/-- The revision of a valid spec is not zero. -/
theorem revision (h : cand.Valid env) : cand.spec.revision ≠ 0 := (validateInstanceSpec_ok h).1

/-- Its digest is not empty. -/
theorem digest (h : cand.Valid env) : cand.spec.specDigest ≠ [] := by
  intro hEmpty
  have hSha := (validateInstanceSpec_ok h).2.1
  rw [hEmpty] at hSha
  exact absurd hSha (by decide)

/-- Its grants resolve. -/
theorem grants (h : cand.Valid env) : GrantsOk env cand.spec.capabilities cand.bindings :=
  (grantsOk_ok (validateInstanceSpec_ok h).2.2).1

/-- The bindings of the grants, read off the list the `start` loop runs over. -/
theorem zip_bindings (h : cand.Valid env) :
    (cand.spec.capabilities.zip cand.bindings).map (·.2) = cand.bindings :=
  List.map_snd_zip (le_of_eq h.grants.length)

end Candidate.Valid

-- ---------------------------------------------------------------------------
-- States of the spec
-- ---------------------------------------------------------------------------

namespace SpecState

/-- No spec is committed. -/
structure Vacant (spec : SpecState) : Prop where
  revision : spec.specRevision = 0
  digest : spec.specDigest = []
  activeSpec : spec.activeSpec = {}
  capabilities : spec.activeCapabilities = ∅
  ready : spec.readyReturned = []

/-- The committed spec is that of a candidate. -/
structure InForce (env : Env) (spec : SpecState) (cand : Candidate) : Prop where
  valid : cand.Valid env
  activeSpec : spec.activeSpec = cand.spec
  revision : spec.specRevision = cand.spec.revision
  digest : spec.specDigest = cand.spec.specDigest
  capabilities : spec.activeCapabilities =
    activeCapabilitiesOf cand.spec.capabilities cand.bindings

/-- The `ready` callbacks of these bindings, where they exist, have returned. -/
def Ready (env : Env) (spec : SpecState) (bindings : List Nat) : Prop :=
  ∀ b ∈ bindings, env.hasCallback CapabilityCallbacks.ready b = true → b ∈ spec.readyReturned

/-- No transaction has left its traces: no spec, or a complete one. -/
def Settled (env : Env) (spec : SpecState) : Prop :=
  spec.Vacant ∨ ∃ cand, spec.InForce env cand ∧ spec.Ready env cand.bindings

/-- Everything but the desired spec and the statuses is the same. -/
structure Alike (spec spec' : SpecState) : Prop where
  revision : spec'.specRevision = spec.specRevision
  digest : spec'.specDigest = spec.specDigest
  activeSpec : spec'.activeSpec = spec.activeSpec
  capabilities : spec'.activeCapabilities = spec.activeCapabilities
  ready : spec'.readyReturned = spec.readyReturned

variable {spec spec' : SpecState} {cand : Candidate}

theorem Vacant.alike (h : spec.Vacant) (hAlike : spec.Alike spec') : spec'.Vacant :=
  ⟨hAlike.revision.trans h.revision, hAlike.digest.trans h.digest,
    hAlike.activeSpec.trans h.activeSpec, hAlike.capabilities.trans h.capabilities,
    hAlike.ready.trans h.ready⟩

theorem InForce.alike (h : spec.InForce env cand) (hAlike : spec.Alike spec') :
    spec'.InForce env cand :=
  ⟨h.valid, hAlike.activeSpec.trans h.activeSpec, hAlike.revision.trans h.revision,
    hAlike.digest.trans h.digest, hAlike.capabilities.trans h.capabilities⟩

theorem Ready.alike {bindings : List Nat} (h : spec.Ready env bindings)
    (hAlike : spec.Alike spec') : spec'.Ready env bindings := by
  intro b hb hBound
  rw [hAlike.ready]
  exact h b hb hBound

theorem Settled.alike (h : spec.Settled env) (hAlike : spec.Alike spec') : spec'.Settled env := by
  obtain hVacant | ⟨cand, hForce, hReady⟩ := h
  · exact .inl (hVacant.alike hAlike)
  · exact .inr ⟨cand, hForce.alike hAlike, hReady.alike hAlike⟩

/-- A spec in force has a revision. -/
theorem InForce.revision_ne (h : spec.InForce env cand) : spec.specRevision ≠ 0 := by
  rw [h.revision]
  exact h.valid.revision

end SpecState

/-- What is known of the spec at a point of the transaction. -/
def ApplyPc.Fits (env : Env) (spec : SpecState) : ApplyPc → Prop
  | .begin cand => cand.Valid env ∧ spec.Settled env
  | .waiting cand | .lock cand | .checkSession cand | .checkStop cand
  | .deactivating cand .locked =>
    cand.Valid env ∧ spec.desiredSpec = cand.spec ∧ spec.Settled env
  | .deactivating cand _ | .applying cand | .unwinding cand _ _ _ _ | .failing cand _ _
  | .staleUnwinding cand _ =>
    cand.Valid env ∧ spec.desiredSpec = cand.spec ∧ spec.Vacant
  | .starting cand remaining started _ =>
    cand.Valid env ∧ spec.desiredSpec = cand.spec ∧ spec.Vacant ∧
      started ++ remaining.map (·.2) = cand.bindings
  | .committing cand started =>
    cand.Valid env ∧ spec.desiredSpec = cand.spec ∧ spec.Vacant ∧ started = cand.bindings
  | .readying cand remaining =>
    cand.Valid env ∧ spec.desiredSpec = cand.spec ∧ spec.InForce env cand ∧
      ∃ done, done ++ remaining = cand.bindings ∧ spec.Ready env done
  | .readyDeactivating cand _ .locked =>
    cand.Valid env ∧ spec.desiredSpec = cand.spec ∧ spec.InForce env cand
  | .readyDeactivating cand _ _ | .readyFailing cand _ =>
    cand.Valid env ∧ spec.desiredSpec = cand.spec ∧ spec.Vacant
  | .finishing cand =>
    cand.Valid env ∧ spec.desiredSpec = cand.spec ∧ spec.InForce env cand ∧
      spec.Ready env cand.bindings

/-- The spec fits the transaction in progress, or is settled. -/
def SpecState.Stands (env : Env) (spec : SpecState) : Option ApplyPc → Prop
  | some at_ => at_.Fits env spec
  | none => spec.Settled env

-- ---------------------------------------------------------------------------
-- Sections
-- ---------------------------------------------------------------------------

theorem spec_of_helm (h : c'.helm = c.helm) : c'.spec = c.spec := congrArg Helm.spec h

@[simp] theorem spec_unlocked : c.unlocked.spec = c.spec := rfl

@[simp] theorem spec_locked : c.locked.spec = c.spec := rfl

@[simp] theorem spec_callStop (binding : Nat) : (c.callStop env binding).spec = c.spec := by
  unfold Client.callStop
  split <;> rfl

@[simp] theorem spec_callClear : (c.callClear env).spec = c.spec := by
  unfold Client.callClear
  split <;> rfl

@[simp] theorem spec_notifySourceClosed (source : SourceState) (error : AdapterError) :
    (c.notifySourceClosed env source error).spec = c.spec := by
  unfold Client.notifySourceClosed
  split <;> rfl

/-- After the first section of a deactivation nothing is committed. -/
theorem vacant_deactivate : (deactivate env c).2.spec.Vacant := ⟨rfl, rfl, rfl, rfl, rfl⟩

/-- After a step of a deactivation no spec is committed, and the desired spec is
the same. -/
theorem spec_deactivateStep {reason : Text} {at_ : DeactivatePc} {next : Option DeactivatePc}
    (h : deactivateStep env reason c at_ = some (next, c')) :
    (at_ = .locked ∧ next ≠ none ∧ next ≠ some .locked ∧ c'.spec.Vacant ∧
      c'.spec.desiredSpec = c.spec.desiredSpec) ∨
    (at_ ≠ .locked ∧ next ≠ some .locked ∧ c'.spec = c.spec) := by
  obtain ⟨rfl, rfl, rfl⟩ | ⟨hAt, hNext, -, hRest⟩ := deactivateStep_cases h
  · exact .inl ⟨rfl, by simp, by simp, vacant_deactivate, rfl⟩
  · exact .inr ⟨hAt, hNext, hRest.spec⟩

/-- The last section of a transaction commits nothing new. -/
theorem alike_finishApply (c : Client) (session : Text) (statuses : List CapabilityStatus) :
    c.spec.Alike (finishApply c session statuses).spec ∧
      (finishApply c session statuses).spec.desiredSpec = c.spec.desiredSpec := by
  unfold finishApply
  split <;> exact ⟨⟨rfl, rfl, rfl, rfl, rfl⟩, rfl⟩

/-- When a transaction begins: its revision is newer, or it is the desired spec of a void. -/
theorem beginApply_inr {session : Text} {spec : AdapterInstanceSpec}
    (h : beginApply env c session spec = .inr c') :
    (c.spec.specRevision < spec.revision ∧ c.spec.specRevision ≠ 0 ∨
      c.spec.specRevision = 0 ∧ env.protobuf.equalSpecs spec c.spec.desiredSpec = true) ∧
      c.session.sessionId = session ∧ c.flags.stopRequested = false ∧
      c.flags.sessionFailed = false ∧
      c' = { c with
        spec := { c.spec with desiredSpec := spec }
        flags := { c.flags with
          state := .applyingSpec, acceptingWork := false } }.cancelAllWork := by
  unfold beginApply at h
  split at h
  · cases h
  · rename_i hLive
    simp only [not_or, not_not, Bool.not_eq_true] at hLive
    split at h
    · split at h <;> cases h
    · split at h
      · cases h
      · rename_i hOlder
        split at h
        · cases h
        · rename_i hDesired
          cases h
          refine ⟨?_, hLive.1, hLive.2.1, hLive.2.2, rfl⟩
          by_cases hZero : c.spec.specRevision = 0
          · refine .inr ⟨hZero, ?_⟩
            simpa [hZero] using hDesired
          · refine .inl ⟨?_, hZero⟩
            simp only [not_and, not_le] at hOlder
            exact hOlder hZero

/-- When a transaction commits: its session is current, and the spec is in force. -/
theorem commitSpec_some {session : Text} {spec : AdapterInstanceSpec} {bindings : List Nat}
    {statuses : List CapabilityStatus}
    (h : commitSpec c session spec bindings statuses = some c') :
    c.session.sessionId = session ∧ c.flags.stopRequested = false ∧
      c.flags.sessionFailed = false ∧
      c'.spec = { c.spec with
        activeCapabilities := activeCapabilitiesOf spec.capabilities bindings
        activeSpec := spec
        specRevision := spec.revision
        specDigest := spec.specDigest
        capabilityStatuses := configuringStatuses statuses
        readyReturned := [] } := by
  unfold commitSpec at h
  split at h
  · cases h
  · rename_i hLive
    simp only [not_or, not_not, Bool.not_eq_true] at hLive
    cases h
    exact ⟨hLive.1, hLive.2.1, hLive.2.2, rfl⟩

-- ---------------------------------------------------------------------------
-- The transaction
-- ---------------------------------------------------------------------------

/-- The point after an accepted start. -/
theorem fits_nextStart {cand : Candidate} {remaining : List (EnabledCapability × Nat)}
    {started : List Nat} {error : Text} {spec : SpecState} (hValid : cand.Valid env)
    (hDesired : spec.desiredSpec = cand.spec) (hVacant : spec.Vacant)
    (hBindings : started ++ remaining.map (·.2) = cand.bindings) :
    (nextStart cand remaining started error).Fits env spec := by
  cases remaining with
  | nil => exact ⟨hValid, hDesired, hVacant, by simpa using hBindings⟩
  | cons e rest => exact ⟨hValid, hDesired, hVacant, hBindings⟩

/-- A step of the transaction leads to a point the spec fits. -/
theorem ApplyMove.stands {session : Text} {at_ : ApplyPc} {next : ApplyNext}
    (h : ApplyMove env session c at_ next c') (hFits : at_.Fits env c.spec) :
    c'.spec.Stands env next.getLeft? := by
  cases h with
  | answer hResult => exact hFits.2
  -- the desired spec is set, the committed one is still in force
  | begin hBegin =>
    obtain ⟨-, -, -, -, rfl⟩ := beginApply_inr hBegin
    exact ⟨hFits.1, rfl, hFits.2.alike ⟨rfl, rfl, rfl, rfl, rfl⟩⟩
  | waited hQuiet => exact hFits
  | lock => exact hFits
  | current => exact hFits
  -- the transaction gives up before it has deactivated anything
  | stale hPc => obtain rfl | rfl := hPc <;> exact hFits.2.2
  | proceed => exact hFits
  -- the first section empties the committed spec, the others leave it
  | @deactivate cand at_ next c' hStep =>
    obtain ⟨rfl, -, hNext, hVacant, hDesired⟩ | ⟨hAt, hNext, hSpec⟩ := spec_deactivateStep hStep
    · cases next with
      | locked => exact absurd rfl hNext
      | waiting | stopping | clearing | notifying =>
        exact ⟨hFits.1, hDesired.trans hFits.2.1, hVacant⟩
    · rw [hSpec]
      cases next with
      | locked => exact absurd rfl hNext
      | waiting | stopping | clearing | notifying =>
        cases at_ with
        | locked => exact absurd rfl hAt
        | waiting | stopping | clearing | notifying => exact hFits
  | @deactivated cand at_ c' hStep =>
    obtain ⟨-, hNext, -⟩ | ⟨hAt, -, hSpec⟩ := spec_deactivateStep hStep
    · exact absurd rfl hNext
    · rw [hSpec]
      cases at_ with
      | locked => exact absurd rfl hAt
      | waiting | stopping | clearing | notifying => exact hFits
  | skipApply hBound =>
    exact fits_nextStart hFits.1 hFits.2.1 hFits.2.2 (by simp [hFits.1.zip_bindings])
  | applied hBound =>
    exact fits_nextStart hFits.1 hFits.2.1 hFits.2.2 (by simp [hFits.1.zip_bindings])
  | applyFailed hBound =>
    simp only [spec_callClear]
    exact hFits
  | skipStart hBound =>
    exact fits_nextStart hFits.1 hFits.2.1 hFits.2.2.1 (by simpa using hFits.2.2.2)
  | started hBound =>
    exact fits_nextStart hFits.1 hFits.2.1 hFits.2.2.1 (by simpa using hFits.2.2.2)
  | startFailed hBound => exact ⟨hFits.1, hFits.2.1, hFits.2.2.1⟩
  | startedAll => exact ⟨hFits.1, hFits.2.1, hFits.2.2.1, by simpa using hFits.2.2.2⟩
  | unwindStop =>
    simp only [spec_callStop]
    exact hFits
  | unwound =>
    split
    · simp only [spec_callClear]
      exact hFits
    · exact hFits
  | failed => exact .inl (hFits.2.2.alike ⟨rfl, rfl, rfl, rfl, rfl⟩)
  | @commit cand started c' hCommit =>
    obtain ⟨-, -, -, hSpec⟩ := commitSpec_some hCommit
    obtain ⟨hValid, hDesired, -, rfl⟩ := hFits
    show SpecState.Stands env c'.spec (some (.readying cand cand.bindings))
    refine ⟨hValid, ?_, ?_, [], rfl, by simp [SpecState.Ready]⟩
    · rw [hSpec]
      exact hDesired
    · constructor <;> simp [hSpec, hValid]
  | outdated => exact ⟨hFits.1, hFits.2.1, hFits.2.2.1⟩
  | staleStop =>
    simp only [spec_callStop]
    exact hFits
  | staleUnwound =>
    show SpecState.Settled env _
    simp only [spec_unlocked, spec_callClear]
    exact .inl hFits.2.2
  | @skipReady cand binding rest hBound =>
    obtain ⟨hValid, hDesired, hForce, done, hSplit, hReady⟩ := hFits
    refine ⟨hValid, hDesired, hForce, done ++ [binding], by simpa using hSplit, ?_⟩
    intro b hb hCallback
    rw [List.mem_append, List.mem_singleton] at hb
    obtain hb | rfl := hb
    · exact hReady b hb hCallback
    · rw [hBound] at hCallback
      cases hCallback
  | @readied cand binding rest hBound =>
    obtain ⟨hValid, hDesired, hForce, done, hSplit, hReady⟩ := hFits
    refine ⟨hValid, hDesired, ?_, done ++ [binding], by simpa using hSplit, ?_⟩
    · exact ⟨hForce.valid, hForce.activeSpec, hForce.revision, hForce.digest, hForce.capabilities⟩
    · intro b hb hCallback
      show b ∈ binding :: c.spec.readyReturned
      rw [List.mem_append, List.mem_singleton] at hb
      obtain hb | rfl := hb
      · exact List.mem_cons_of_mem _ (hReady b hb hCallback)
      · exact List.mem_cons_self
  | readyFailed hBound => exact ⟨hFits.1, hFits.2.1, hFits.2.2.1⟩
  | readiedAll =>
    obtain ⟨hValid, hDesired, hForce, done, hSplit, hReady⟩ := hFits
    rw [List.append_nil] at hSplit
    exact ⟨hValid, hDesired, hForce, hSplit ▸ hReady⟩
  | @readyDeactivate cand failed at_ next c' hStep =>
    obtain ⟨rfl, -, hNext, hVacant, hDesired⟩ | ⟨hAt, hNext, hSpec⟩ := spec_deactivateStep hStep
    · cases next with
      | locked => exact absurd rfl hNext
      | waiting | stopping | clearing | notifying =>
        exact ⟨hFits.1, hDesired.trans hFits.2.1, hVacant⟩
    · rw [hSpec]
      cases next with
      | locked => exact absurd rfl hNext
      | waiting | stopping | clearing | notifying =>
        cases at_ with
        | locked => exact absurd rfl hAt
        | waiting | stopping | clearing | notifying => exact hFits
  | @readyDeactivated cand failed at_ c' hStep =>
    obtain ⟨-, hNext, -⟩ | ⟨hAt, -, hSpec⟩ := spec_deactivateStep hStep
    · exact absurd rfl hNext
    · rw [hSpec]
      cases at_ with
      | locked => exact absurd rfl hAt
      | waiting | stopping | clearing | notifying => exact hFits
  | readyFailure => exact .inl (hFits.2.2.alike ⟨rfl, rfl, rfl, rfl, rfl⟩)
  | finish =>
    obtain ⟨-, -, hForce, hReady⟩ := hFits
    have hAlike := (alike_finishApply c session
            (grantedStatuses env ‹Candidate›.spec)).1
    exact .inr ⟨_, hForce.alike hAlike, hReady.alike hAlike⟩

-- ---------------------------------------------------------------------------
-- The system
-- ---------------------------------------------------------------------------

/-- The spec of a running system. -/
structure Standing (env : Env) (s : System) : Prop where
  spec : s.client.spec.Stands env s.controlReader.transaction?
  supervisor : ∀ at_, s.supervisor.deactivation? = some at_ → at_ ≠ .locked →
    s.client.spec.Vacant
  settled : s.supervisor.settled = true → s.client.spec.Vacant
  stopper : ∀ at_, s.stopper.deactivation? = some at_ → at_ ≠ .locked → s.client.spec.Vacant
  reset : s.stopper = .reset → s.client.spec.Vacant

/-- The Control reader is at rest outside the phases of a pair. -/
theorem Threads.no_transaction (h : Threads s) (hPhase : s.supervisor.phase.control = false) :
    s.controlReader.transaction? = none := by
  have hFence := h.controlReader hPhase
  cases hPc : s.controlReader <;> simp_all [ControlReaderPc.fence?, ControlReaderPc.transaction?]

/-- A supervisor inside a pair is not ending the session. -/
theorem SupervisorPc.pair_running {pc : SupervisorPc} (h : pc.phase ≠ .outside) :
    pc.deactivation? = none ∧ pc.settled = false ∧ pc ≠ .notStarted := by
  cases pc <;> simp_all [SupervisorPc.phase, SupervisorPc.deactivation?, SupervisorPc.settled]

/-- `Stop` waits for the supervisor while it runs. -/
theorem Threads.stopper_waits (h : Threads s) (hPc : s.supervisor ≠ .notStarted) :
    s.stopper.deactivation? = none ∧ s.stopper ≠ .reset := by
  have hJoined : s.stopper.joined = false := by
    rw [← Bool.not_eq_true]
    exact fun hJoined => hPc (h.stopper hJoined)
  cases hStopper : s.stopper <;> simp_all [StopPc.joined, StopPc.deactivation?]

/-- Inside a pair only the transaction of the Control reader matters. -/
theorem Standing.of_running (hThreads : Threads s) (hPhase : s.supervisor.phase ≠ .outside)
    (hSpec : s.client.spec.Stands env s.controlReader.transaction?) : Standing env s := by
  obtain ⟨hDown, hSettled, hStarted⟩ := SupervisorPc.pair_running hPhase
  obtain ⟨hStop, hReset⟩ := hThreads.stopper_waits hStarted
  exact ⟨hSpec, by simp [hDown], by simp [hSettled], by simp [hStop], fun h => absurd h hReset⟩

/-- Without a spec and without a pair there is nothing left to check. -/
theorem Standing.of_vacant (hThreads : Threads s) (hVacant : s.client.spec.Vacant)
    (hPc : s.supervisor = .notStarted) : Standing env s := by
  have hNone := hThreads.no_transaction (by rw [hPc]; rfl)
  refine ⟨?_, fun _ _ _ => hVacant, fun _ => hVacant, fun _ _ _ => hVacant, fun _ => hVacant⟩
  rw [hNone]
  exact .inl hVacant

/-- Outside a pair no transaction is in progress. -/
theorem Standing.settled_outside (h : Standing env s) (hThreads : Threads s)
    (hPhase : s.supervisor.phase = .outside) : s.client.spec.Settled env := by
  have hNone := hThreads.no_transaction (by rw [hPhase]; rfl)
  have hSpec := h.spec
  rw [hNone] at hSpec
  exact hSpec

/-- The supervisor changes the spec outside of pairs only. -/
theorem SupervisorTurn.outside {pc pc' : SupervisorPc} (h : SupervisorTurn env c pc pc' c')
    (hSpec : c'.spec ≠ c.spec) : pc.phase = .outside := by
  cases h with
  | calm hHelm => exact absurd (spec_of_helm hHelm) hSpec
  | replace => exact absurd rfl hSpec
  | install | prepare | clear | advance | deactivate | deactivated | report | endSession => rfl

/-- The spec after a step of the Control reader. -/
theorem ControlReaderMove.stands {pc pc' : ControlReaderPc}
    (h : ControlReaderMove env c pc pc' c') (hSpec : c.spec.Stands env pc.transaction?) :
    c'.spec.Stands env pc'.transaction? := by
  cases h with
  | calm hHelm _ hPc hPc' =>
    rw [hPc] at hSpec
    rw [hPc', spec_of_helm hHelm]
    exact hSpec
  | drain =>
    have hHelm := Client.helm_beginDrain c env
    have hEq : (c.beginDrain env).spec = c.spec := congrArg Helm.spec hHelm
    rw [hEq]
    exact hSpec
  | refuse hInvalid => exact hSpec
  | receive hValid => exact ⟨hValid, hSpec⟩
  | apply hMove => exact hMove.stands hSpec
  | conclude hMove => exact hMove.stands hSpec
  | queue hQueue | overflow hQueue =>
    have hEq : c'.spec = c.spec := congrArg Helm.spec (Client.helm_queueControlLocked hQueue)
    rw [hEq]
    exact hSpec
  | signal =>
    rw [spec_of_helm (Client.helm_signalSessionFailure _ _)]
    exact hSpec

theorem spec_controlWriterMove {pc pc' : ControlWriterPc} (h : ControlWriterMove env c pc pc' c') :
    c'.spec = c.spec := by
  cases h with
  | exit | write | lose => rfl
  | dequeue _ hRest | heartbeat _ _ hRest => exact hRest.spec
  | gate =>
    unfold Client.openAttachGate
    split <;> rfl
  | signal => exact spec_of_helm (Client.helm_signalSessionFailure _ _)
  | terminal => exact spec_of_helm (Client.helm_signalTerminalSessionFailure _ _)

theorem spec_workWriterMove {pc pc' : WorkWriterPc} (h : WorkWriterMove env c pc pc' c') :
    c'.spec = c.spec := by
  cases h with
  | calm hHelm => exact spec_of_helm hHelm
  | attach _ _ hHelm => exact spec_of_helm hHelm
  | attached | write => rfl
  | ready =>
    unfold Client.markReady
    split <;> rfl

theorem phase_of_control {pc : SupervisorPc} (h : pc.phase.control = true) :
    pc.phase ≠ .outside := by
  intro hOutside
  rw [hOutside] at h
  cases h

theorem phase_of_work {pc : SupervisorPc} (h : pc.phase.work = true) : pc.phase ≠ .outside := by
  intro hOutside
  rw [hOutside] at h
  cases h

/-- A step of the supervisor keeps the spec standing. -/
theorem Standing.supervisorTurn (h : Standing env s) (hThreads : Threads s)
    (hTurn : SupervisorTurn env s.client s.supervisor s'.supervisor s'.client)
    (hReader : s'.controlReader = s.controlReader ∨
      (s.supervisor.phase = .outside ∧ ∃ fence, s'.controlReader = .opening fence))
    (hStopper : s'.stopper = s.stopper) (hStarted : s.supervisor ≠ .notStarted) :
    Standing env s' := by
  -- `Stop` waits for the supervisor to be joined
  obtain ⟨hStop, hReset⟩ := hThreads.stopper_waits hStarted
  -- a new spec arises outside a pair only, where no transaction is in progress
  have hSpec : s'.client.spec.Stands env s'.controlReader.transaction? := by
    by_cases hSame : s'.client.spec = s.client.spec
    · rw [hSame]
      obtain hEq | ⟨hPhase, fence, hEq⟩ := hReader
      · rw [hEq]
        exact h.spec
      · rw [hEq]
        exact h.settled_outside hThreads hPhase
    · have hPhase := hTurn.outside hSame
      have hNone : s'.controlReader.transaction? = none := by
        obtain hEq | ⟨-, fence, hEq⟩ := hReader
        · rw [hEq]
          exact hThreads.no_transaction (by rw [hPhase]; rfl)
        · rw [hEq]
          rfl
      rw [hNone]
      have hSettled := h.settled_outside hThreads hPhase
      generalize s.supervisor = pc at hTurn
      generalize s'.supervisor = pc' at hTurn
      generalize hClient : s'.client = c' at hTurn hSame
      cases hTurn with
      | calm hHelm => exact absurd (spec_of_helm hHelm) hSame
      | install => exact hSettled.alike ⟨rfl, rfl, rfl, rfl, rfl⟩
      | replace | prepare | clear | report => exact absurd rfl hSame
      | advance =>
        unfold Client.advanceEpoch
        split <;> exact hSettled
      -- the call that clears leaves the spec vacant
      | deactivate hStep =>
        obtain ⟨-, -, -, hVacant, -⟩ | ⟨-, -, hEq⟩ := spec_deactivateStep hStep
        · exact .inl hVacant
        · exact absurd hEq hSame
      | deactivated hStep =>
        obtain ⟨-, hNext, -⟩ | ⟨-, -, hEq⟩ := spec_deactivateStep hStep
        · exact absurd rfl hNext
        · exact absurd hEq hSame
      | endSession => exact .inl ⟨rfl, rfl, rfl, rfl, rfl⟩
  refine ⟨hSpec, ?_, ?_, by simp [hStopper, hStop], fun hR => absurd (hStopper ▸ hR) hReset⟩
  · intro at_ hAt hLocked
    generalize hPc : s.supervisor = pc at hTurn
    generalize hPc' : s'.supervisor = pc' at hTurn hAt
    generalize hClient : s'.client = c' at hTurn
    -- a deactivation past its lock stands on a vacant spec
    cases hTurn with
    | calm _ _ _ hDown => exact absurd (hDown at_ hAt) hLocked
    | replace | install | prepare | clear | advance | report | endSession => cases hAt
    | deactivate hStep =>
      obtain ⟨-, -, -, hVacant, -⟩ | ⟨hOld, -, hEq⟩ := spec_deactivateStep hStep
      · exact hVacant
      · rw [hEq]
        exact h.supervisor _ (by rw [hPc]; rfl) hOld
    | deactivated _ hPc' => obtain ⟨_, -, rfl⟩ | ⟨-, rfl⟩ := hPc' <;> cases hAt
  · intro hSettled
    generalize hPc : s.supervisor = pc at hTurn
    generalize hPc' : s'.supervisor = pc' at hTurn hSettled
    generalize hClient : s'.client = c' at hTurn
    -- what was settled before stays settled
    cases hTurn with
    | calm hHelm _ _ _ hOld =>
      rw [spec_of_helm hHelm]
      exact h.settled (by rw [hPc]; exact hOld hSettled)
    | replace | install | prepare | clear | advance | deactivate | report | endSession =>
      cases hSettled
    | deactivated hStep =>
      obtain ⟨-, hNext, -⟩ | ⟨hOld, -, hEq⟩ := spec_deactivateStep hStep
      · exact absurd rfl hNext
      · show SpecState.Vacant _
        rw [spec_unlocked, hEq]
        exact h.supervisor _ (by rw [hPc]; rfl) hOld

/-- Every step keeps the spec standing. -/
theorem Standing.step (h : Standing env s) (hShape : Shape s) (hShape' : Shape s')
    (hMove : ControlMove env s s') : Standing env s' := by
  cases hMove with
  | calm hHelm hRest hReader hWriter hWork hSupervisor hStopper =>
    have hSpec := spec_of_helm hHelm
    -- nothing of the spec changes
    refine ⟨by rw [hSpec, hReader]; exact h.spec, ?_, ?_, ?_, ?_⟩
    · rw [hSpec, hSupervisor]
      exact h.supervisor
    · rw [hSpec, hSupervisor]
      exact h.settled
    · rw [hSpec]
      obtain hEq | ⟨-, hEq⟩ | ⟨-, hEq⟩ := hStopper <;> rw [hEq]
      · exact h.stopper
      · simp [StopPc.deactivation?]
      · simp [StopPc.deactivation?]
    · rw [hSpec]
      obtain hEq | ⟨-, hEq⟩ | ⟨-, hEq⟩ := hStopper <;> rw [hEq]
      · exact h.reset
      · simp
      · simp
  | controlReader hMove _ hPhase _ hSupervisor =>
    -- a transaction goes on under the Control reader
    refine .of_running hShape'.threads ?_ (hMove.stands h.spec)
    rw [hSupervisor]
    exact phase_of_control hPhase
  | controlWriter hMove hPhase hReader _ hSupervisor _ =>
    -- the writers read the spec only
    refine .of_running hShape'.threads ?_ ?_
    · rw [hSupervisor]
      exact phase_of_control hPhase
    · rw [hReader, spec_controlWriterMove hMove]
      exact h.spec
  | workWriter hMove hPhase hReader _ hSupervisor _ =>
    refine .of_running hShape'.threads ?_ ?_
    · rw [hSupervisor]
      exact phase_of_work hPhase
    · rw [hReader, spec_workWriterMove hMove]
      exact h.spec
  | supervisor hTurn hReader _ _ hStopper hStarted =>
    exact h.supervisorTurn hShape.threads hTurn hReader hStopper hStarted
  | startThreads hStopped hClient hReader _ _ hSupervisor hStopper =>
    -- no thread has been in a deactivation
    refine ⟨?_, by simp [hSupervisor, SupervisorPc.deactivation?],
      by simp [hSupervisor, SupervisorPc.settled], by simp [hStopper, StopPc.deactivation?],
      by simp [hStopper]⟩
    rw [hClient, hReader]
    exact h.spec
  | join hClient hReader _ _ hSupervisor _ hStopper =>
    -- a joined supervisor has settled
    refine ⟨by rw [hClient, hReader]; exact h.spec,
      by simp [hSupervisor, SupervisorPc.deactivation?],
      by simp [hSupervisor, SupervisorPc.settled], ?_, ?_⟩ <;>
      obtain hEq | hEq := hStopper <;> simp [hEq, StopPc.deactivation?]
  | stopDeactivate hStopper hStep hStopper' hReader _ _ hSupervisor =>
    -- `Stop` deactivates once the supervisor is joined
    have hPc : s.supervisor = .notStarted := hShape.threads.stopper (by rw [hStopper]; rfl)
    have hVacant : s'.client.spec.Vacant := by
      obtain ⟨-, -, -, hVacant, -⟩ | ⟨hAt, -, hEq⟩ := spec_deactivateStep hStep
      · exact hVacant
      · rw [hEq]
        exact h.stopper _ (by rw [hStopper]; rfl) hAt
    exact .of_vacant hShape'.threads hVacant (by rw [hSupervisor, hPc])
  | stopDeactivated hStopper hStep hClient hStopper' hReader _ _ hSupervisor =>
    have hPc : s.supervisor = .notStarted := hShape.threads.stopper (by rw [hStopper]; rfl)
    have hVacant : s'.client.spec.Vacant := by
      obtain ⟨-, hNext, -⟩ | ⟨hAt, -, hEq⟩ := spec_deactivateStep hStep
      · exact absurd rfl hNext
      · rw [hClient, spec_unlocked, hEq]
        exact h.stopper _ (by rw [hStopper]; rfl) hAt
    exact .of_vacant hShape'.threads hVacant (by rw [hSupervisor, hPc])
  | stopReset hStopper hClient hStopper' hReader _ _ hSupervisor =>
    have hPc : s.supervisor = .notStarted := hShape.threads.stopper (by rw [hStopper]; rfl)
    -- the reset leaves the spec vacant
    have hVacant : s'.client.spec.Vacant := by
      rw [hClient]
      exact ⟨rfl, rfl, rfl, rfl, rfl⟩
    exact .of_vacant hShape'.threads hVacant (by rw [hSupervisor, hPc])

/-- The client starts with nothing committed. -/
theorem Standing.init : Standing env (machine env).init := by
  refine ⟨.inl ⟨rfl, rfl, rfl, rfl, rfl⟩, ?_, ?_, ?_, ?_⟩ <;>
    simp [machine, SupervisorPc.deactivation?, SupervisorPc.settled, StopPc.deactivation?]

/-- Every step of the system, with what is known of a reachable state. -/
theorem controlMove_of_reachable {a : Action} (hReach : (machine env).Reachable s)
    (hStep : (machine env).step s a = some s') : ControlMove env s s' :=
  controlMove_of_step (shape_of_reachable hReach) hStep

/-- In every reachable state the spec fits the transaction in progress. -/
theorem standing_of_reachable (h : (machine env).Reachable s) : Standing env s := by
  refine Machine.Reachable.invariant Standing.init ?_ h
  intro s a s' hReach hStands hStep
  exact hStands.step (shape_of_reachable hReach) (shape_of_reachable (hReach.step hStep))
    (controlMove_of_reachable hReach hStep)

/-- There is no spec, or a validated one is committed. -/
theorem Standing.vacant_or_inForce (h : Standing env s) :
    s.client.spec.Vacant ∨ ∃ cand, s.client.spec.InForce env cand := by
  have hSpec := h.spec
  have hSettled : ∀ {spec : SpecState}, spec.Settled env →
      spec.Vacant ∨ ∃ cand, spec.InForce env cand := by
    rintro spec (hVacant | ⟨cand, hForce, -⟩)
    · exact .inl hVacant
    · exact .inr ⟨cand, hForce⟩
  cases hAt : s.controlReader.transaction? with
  | none =>
    rw [hAt] at hSpec
    exact hSettled hSpec
  | some at_ =>
    rw [hAt] at hSpec
    cases at_ with
    | begin => exact hSettled hSpec.2
    | waiting | lock | checkSession | checkStop => exact hSettled hSpec.2.2
    | deactivating _ at_ =>
      cases at_ with
      | locked => exact hSettled hSpec.2.2
      | waiting | stopping | clearing | notifying => exact .inl hSpec.2.2
    | applying | unwinding | failing | staleUnwinding | readyFailing => exact .inl hSpec.2.2
    | starting | committing => exact .inl hSpec.2.2.1
    | readyDeactivating _ _ at_ =>
      cases at_ with
      | locked => exact .inr ⟨_, hSpec.2.2⟩
      | waiting | stopping | clearing | notifying => exact .inl hSpec.2.2
    | readying | finishing => exact .inr ⟨_, hSpec.2.2.1⟩

/-- A committed spec is a validated one, with its own revision and digest. -/
theorem Standing.inForce (h : Standing env s) (hRevision : s.client.spec.specRevision ≠ 0) :
    ∃ cand, s.client.spec.InForce env cand :=
  h.vacant_or_inForce.resolve_left fun hVacant => hRevision hVacant.revision

/-- A committed revision is that of the active spec. -/
theorem Standing.revision_of_active (h : Standing env s)
    (hRevision : s.client.spec.specRevision ≠ 0) :
    s.client.spec.specRevision = s.client.spec.activeSpec.revision := by
  obtain ⟨cand, hForce⟩ := h.inForce hRevision
  rw [hForce.revision, hForce.activeSpec]

end AdapterRuntime.Model
