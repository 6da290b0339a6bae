import AdapterRuntime.Proof.ControlPlane
import AdapterRuntime.Proof.SourceMoves
import AdapterRuntime.Proof.ReadyGate

/-!
# AdapterRuntime — the limits a source is held to

What `ValidateConfig` and `Register` have checked long before a source is
opened, carried to the states in which chunks are published.

* `validated_of_reachable` — a started client has passed `ValidateConfig`.
* `frameBound_of_reachable` — the negotiated frame limit is below the word.
* `metered_of_reachable` — every source carries the positive chunk limits of
  the endpoint it was opened on.
-/

namespace AdapterRuntime.Model

open AdapterRuntime.Lib

variable {env : Env} {c c' : Client} {s s' : System} {a : Action}

-- ---------------------------------------------------------------------------
-- The configuration
-- ---------------------------------------------------------------------------

/-- The stream limits of the endpoint are positive. -/
structure CapabilityEndpointContract.Chunked (endpoint : CapabilityEndpointContract) : Prop where
  bytes : endpoint.limits.maximumStreamChunkBytes ≠ 0
  messages : endpoint.limits.maximumStreamChunkMessages ≠ 0
  streams : endpoint.limits.maximumStreams ≠ 0

/-- An endpoint of a stream has limits for its chunks. -/
theorem validateEndpointShape_chunked {endpoint : CapabilityEndpointContract}
    (h : env.validateEndpointShape endpoint = .ok ())
    (hMode : endpoint.interactionMode = .streamSource) : endpoint.Chunked := by
  unfold Env.validateEndpointShape at h
  simp only [hMode] at h
  split at h
  · cases h
  · split at h
    · cases h
    · split at h
      · cases h
      · split at h
        · cases h
        · split at h
          · cases h
          · split at h
            · cases h
            · split at h
              · cases h
              · split at h
                · cases h
                · rename_i hLimits
                  simp only [beq_self_eq_true, Bool.true_and, Bool.or_eq_true, beq_iff_eq,
                    not_or] at hLimits
                  exact ⟨hLimits.1.2, hLimits.2, hLimits.1.1⟩

/-- Every endpoint of an accepted contract has the right shape. -/
theorem endpointShapesOk_mem : ∀ {endpoints : List CapabilityEndpointContract} {seen : List Text},
    env.endpointShapesOk seen endpoints = .ok () → ∀ endpoint ∈ endpoints,
      env.validateEndpointShape endpoint = .ok () := by
  intro endpoints
  induction endpoints with
  | nil => simp
  | cons head rest ih =>
    intro seen h endpoint hMem
    rw [Env.endpointShapesOk] at h
    split at h
    · cases h
    · rename_i hShape
      split at h
      · cases h
      · obtain rfl | hRest := List.mem_cons.mp hMem
        · exact hShape
        · exact ih h endpoint hRest

/-- Every registered contract has endpoints of the right shape. -/
theorem bindingsOk_mem : ∀ {bindings : List CapabilityBinding} {seen : List Text},
    env.bindingsOk seen bindings = .ok () → ∀ binding ∈ bindings,
      env.endpointShapesOk [] binding.contract.endpoints = .ok () := by
  intro bindings
  induction bindings with
  | nil => simp
  | cons head rest ih =>
    intro seen h binding hMem
    rw [Env.bindingsOk] at h
    split at h
    · cases h
    · split at h
      · cases h
      · rename_i hShapes
        split at h
        · cases h
        · obtain rfl | hRest := List.mem_cons.mp hMem
          · exact hShapes
          · exact ih h binding hRest

/-- `ValidateConfig` has passed the bounds and every binding. -/
theorem validateConfig_passed (h : env.validateConfig = .ok ()) :
    env.boundsOk = true ∧ env.bindingsOk [] env.config.capabilities = .ok () := by
  unfold Env.validateConfig at h
  simp only at h
  split at h
  · cases h
  · split at h
    · cases h
    · split at h
      · cases h
      · split at h
        · cases h
        · split at h
          · cases h
          · split at h
            · cases h
            · rename_i hBounds
              split at h
              · cases h
              · rename_i hBindings
                exact ⟨by simpa using hBounds, hBindings⟩

/-- An accepted configuration has accepted bindings. -/
theorem validateConfig_bindings (h : env.validateConfig = .ok ()) :
    env.bindingsOk [] env.config.capabilities = .ok () :=
  (validateConfig_passed h).2

/-- A source endpoint of a validated configuration has positive stream limits. -/
theorem validateConfig_chunked (h : env.validateConfig = .ok ()) {index : Nat}
    {binding : CapabilityBinding} {endpointId : Text} {endpoint : CapabilityEndpointContract}
    (hBinding : env.binding? index = some binding)
    (hEndpoint : findEndpoint binding.contract endpointId = some endpoint)
    (hMode : endpoint.interactionMode = .streamSource) : endpoint.Chunked := by
  have hMem : binding ∈ env.config.capabilities := List.mem_of_getElem? hBinding
  have hShapes := bindingsOk_mem (validateConfig_bindings h) binding hMem
  have hShape := endpointShapesOk_mem hShapes endpoint (List.mem_of_find?_eq_some hEndpoint)
  exact validateEndpointShape_chunked hShape hMode

/-- A client whose supervisor has been started has passed `ValidateConfig`. -/
theorem validated_of_reachable (h : (machine env).Reachable s)
    (hStarted : s.supervisor ≠ .notStarted) : env.validateConfig = .ok () := by
  by_contra hNot
  have hIdle : s.starter ≠ .validated ∧ s.supervisor = .notStarted := by
    refine h.invariant (I := fun s => s.starter ≠ .validated ∧ s.supervisor = .notStarted) ?_ ?_
    · exact ⟨by simp [machine], rfl⟩
    · intro s a s' _ hPast hStep
      obtain ⟨hStarter, hSupervisor⟩ := hPast
      cases System.step_cases hStep with
      | supervisor hSupervisorStep =>
        rw [hSupervisor] at hSupervisorStep
        cases hSupervisorStep
      | startThreads _ _ hValidated => exact absurd hValidated hStarter
      | flags _ _ _ _ hNext =>
        refine ⟨?_, hSupervisor⟩
        obtain hSame | ⟨-, -, -, hConfig⟩ | ⟨hIdle, -⟩ := hNext
        · exact fun hEq => hStarter (hSame.symm.trans hEq)
        · exact absurd hConfig hNot
        · simp [hIdle]
      | joinSupervisor => exact ⟨hStarter, rfl⟩
      | worker | workReader | controlReader | workWriter | controlWriter | publishSource
      | closeSource | joinWorkers | stopDeactivate | stopReset => exact ⟨hStarter, hSupervisor⟩
  exact hStarted hIdle.2

-- ---------------------------------------------------------------------------
-- The frame limit
-- ---------------------------------------------------------------------------

/-- A step keeps the frame limit, installs the fence of a registration, or ends
the session. -/
theorem frameLimit_of_step (hStep : s.step env a = some s') :
    s'.client.session.maximumWorkFrameBytes = s.client.session.maximumWorkFrameBytes ∨
    (∃ fence, s.supervisor.registered? = some fence ∧
      s'.client.session.maximumWorkFrameBytes = fence.maximumWorkFrameBytes) ∨
    s'.client.session.maximumWorkFrameBytes = 0 := by
  cases System.step_cases hStep with
  | worker hWorker => exact .inl (workerStep_cases hWorker).subsides.frameLimit
  | workReader hReader => exact .inl (workReaderStep_cases hReader).subsides.frameLimit
  | controlReader hReader => exact .inl (steady_controlReaderStep hReader).frameLimit
  | workWriter hWriter => exact .inl (steady_workWriterStep hWriter).frameLimit
  | controlWriter hWriter => exact .inl (steady_controlWriterStep hWriter).frameLimit
  | supervisor hSupervisor =>
    have hTurn := supervisorTurn_of_step hSupervisor
    generalize s.supervisor = pc at hTurn
    cases hTurn with
    | calm _ hRest => exact .inl hRest.frameLimit
    | @install fence => exact .inr (.inl ⟨fence, rfl, rfl⟩)
    | advance =>
      refine .inl ?_
      unfold Client.advanceEpoch
      split <;> rfl
    | deactivate hDeactivate => exact .inl (steady_deactivateStep hDeactivate).frameLimit
    | deactivated hDeactivate => exact .inl (steady_deactivateStep hDeactivate).frameLimit
    | replace | prepare | clear | report => exact .inl rfl
    | endSession => exact .inr (.inr rfl)
  | publishSource => exact .inl subsides_publishSource.frameLimit
  | closeSource => exact .inl subsides_closeSource.frameLimit
  | flags _ hRest => exact .inl hRest.frameLimit
  | startThreads | joinSupervisor | joinWorkers => exact .inl rfl
  | stopReset => exact .inr (.inr rfl)
  | stopDeactivate _ hDeactivate hNext =>
    have hNow := (steady_deactivateStep hDeactivate).frameLimit
    obtain ⟨_, -, -, rfl⟩ | ⟨-, -, rfl⟩ := hNext <;> exact .inl hNow

/-- The negotiated frame limit is below the largest word. -/
theorem frameBound_of_reachable (h : (machine env).Reachable s) :
    s.client.session.maximumWorkFrameBytes < sizeMax := by
  refine h.invariant (I := fun s => s.client.session.maximumWorkFrameBytes < sizeMax) ?_ ?_
  · show 0 < sizeMax
    decide
  · intro s a s' hReach hBound hStep
    obtain hSame | ⟨fence, hFence, hLimit⟩ | hZero := frameLimit_of_step hStep
    · rw [hSame]
      exact hBound
    · rw [hLimit]
      exact ((shape_of_reachable hReach).threads.registered fence hFence).frameBound
    · rw [hZero]
      decide

-- ---------------------------------------------------------------------------
-- The endpoint of a source
-- ---------------------------------------------------------------------------

/-- The source was opened on an endpoint of the configuration, and carries its
positive chunk limits. -/
structure SourceState.Metered (env : Env) (source : SourceState)
    (endpoint : CapabilityEndpointContract) : Prop where
  found : ∃ binding, env.binding? source.bindingIndex = some binding ∧
    findEndpoint binding.contract source.request.context.endpointId = some endpoint
  chunked : endpoint.Chunked
  bytes : source.maximumChunkBytes = endpoint.limits.maximumStreamChunkBytes
  messages : source.maximumChunkMessages = endpoint.limits.maximumStreamChunkMessages

/-- The grant and the endpoint `ValidateWorkContextLocked` has found. -/
theorem validateWorkContext_active {now : Int} {context : WorkContext} {kind : DispatchKind}
    {index : Nat} {endpoint : CapabilityEndpointContract}
    (h : validateWorkContext env c now context kind = .ok (index, endpoint)) :
    endpoint.interactionMode = expectedMode kind ∧
    ∃ grant, findActiveEndpoint env c context.capabilityId context.endpointId =
        some (index, grant, endpoint) ∧
      context.contractVersion = grant.contractVersion ∧
      context.contractDigest = grant.contractDigest := by
  unfold validateWorkContext at h
  split at h
  · cases h
  · split at h
    · cases h
    · split at h
      · cases h
      · rename_i found grant endpoint' hFind
        split at h
        · cases h
        · rename_i hContract
          split at h
          · cases h
          · rename_i hMode
            repeat' split at h
            all_goals cases h
            simp only [Bool.or_eq_true, bne_iff_ne, ne_eq, not_or, not_not] at hContract
            exact ⟨by simpa using hMode, grant, hFind, hContract.1, hContract.2⟩

/-- The capability and the binding `FindActiveEndpointLocked` has gone through. -/
theorem findActiveEndpoint_some {capabilityId endpointId : Text} {index : Nat}
    {grant : EnabledCapability} {endpoint : CapabilityEndpointContract}
    (h : findActiveEndpoint env c capabilityId endpointId = some (index, grant, endpoint)) :
    c.spec.activeCapabilities.lookup capabilityId = some ⟨index, grant⟩ ∧
    grant.enabledEndpointIds.contains endpointId = true ∧
    ∃ binding, env.binding? index = some binding ∧
      findEndpoint binding.contract endpointId = some endpoint := by
  unfold findActiveEndpoint at h
  split at h
  · cases h
  · rename_i active hActive
    split at h
    · rename_i hEnabled
      split at h
      · cases h
      · rename_i binding hBinding
        simp only [Option.map_eq_some_iff, Prod.mk.injEq] at h
        obtain ⟨_, hEndpoint, rfl, rfl, rfl⟩ := h
        exact ⟨hActive, hEnabled, binding, hBinding, hEndpoint⟩
    · cases h

/-- A valid context names an endpoint of the right mode. -/
theorem validateWorkContext_endpoint {now : Int} {context : WorkContext} {kind : DispatchKind}
    {index : Nat} {endpoint : CapabilityEndpointContract}
    (h : validateWorkContext env c now context kind = .ok (index, endpoint)) :
    endpoint.interactionMode = expectedMode kind ∧
    ∃ binding, env.binding? index = some binding ∧
      findEndpoint binding.contract context.endpointId = some endpoint := by
  obtain ⟨hMode, grant, hFind, -⟩ := validateWorkContext_active h
  exact ⟨hMode, (findActiveEndpoint_some hFind).2.2⟩

/-- Every source carries the limits of the endpoint it was opened on. -/
theorem metered_of_reachable (h : (machine env).Reachable s) {streamId : Text}
    {source : SourceState}
    (hLook : s.client.tables.sourceStreams.lookup streamId = some source) :
    ∃ endpoint, source.Metered env endpoint := by
  refine h.invariant (I := fun s => ∀ streamId source,
    s.client.tables.sourceStreams.lookup streamId = some source →
      ∃ endpoint, source.Metered env endpoint) ?_ ?_ streamId source hLook
  · intro streamId source hLook
    cases hLook
  · intro s a s' hReach hMetered hStep streamId source' hLook
    have hMove := sourceMove_of_step (shape_of_reachable hReach) hStep
    obtain ⟨source, hWas, hTurn⟩ | ⟨_, _, endpoint, _, _, -, hWork, -, hVerdict, -, -, rfl⟩ :=
      hMove.back hLook
    · obtain ⟨endpoint, hFound, hChunked, hBytes, hMessages⟩ := hMetered streamId source hWas
      have hSame := hTurn.sameSource
      refine ⟨endpoint, ?_, hChunked, hSame.maximumChunkBytes.trans hBytes,
        hSame.maximumChunkMessages.trans hMessages⟩
      rw [hSame.bindingIndex, hSame.request]
      exact hFound
    · obtain ⟨-, -, -, hFresh⟩ := sourceOpenVerdict_fresh hVerdict (by simp) (by simp)
      obtain ⟨hMode, binding, hBinding, hEndpoint⟩ :=
        validateWorkContext_endpoint (freshSourceVerdict_accept hFresh).1
      have hStarted : s.supervisor ≠ .notStarted := by
        intro hEq
        rw [hEq] at hWork
        cases hWork
      have hConfig := validated_of_reachable hReach hStarted
      exact ⟨endpoint, ⟨binding, hBinding, hEndpoint⟩,
        validateConfig_chunked hConfig hBinding hEndpoint hMode, rfl, rfl⟩

end AdapterRuntime.Model
