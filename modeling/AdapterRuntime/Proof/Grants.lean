import AdapterRuntime.Lib.Wire
import AdapterRuntime.Proof.SourceLedger
import AdapterRuntime.Proof.Revisions

/-!
# AdapterRuntime — the contract behind a handler

A handler is found in four steps: `ValidateInstanceSpec` resolves each grant to a
binding by its `ContractKey`, the commit files the grant under its capability,
`ValidateWorkContextLocked` compares the request with the grant, and the handler
functions look the endpoint up again.

* `contractKey_inj` — equal keys of canonical identifiers are equal triples.
* `Granted` — the binding of a request, found by its triple.
* `attended_of_reachable` — a worker that takes a source up finds its own source.
* `grant_resolution` — every handler invocation is on the binding of its request.
-/

namespace AdapterRuntime.Model

open AdapterRuntime.Lib

variable {env : Env} {c c' : Client} {s s' : System}

-- ---------------------------------------------------------------------------
-- Contract keys
-- ---------------------------------------------------------------------------

/-- Strings are told apart by their bytes. -/
theorem text_injective : Function.Injective text := by
  intro s t h
  have hBytes : s.toUTF8 = t.toUTF8 := ByteArray.ext (Array.toList_inj.mp h)
  exact String.toByteArray_inj.mp hBytes

/-- Numbers are told apart by their digits. -/
theorem decimal_injective : Function.Injective decimal := by
  intro m n h
  have hDigits : Nat.toDigits 10 m = Nat.toDigits 10 n := by
    rw [← Nat.toList_repr, ← Nat.toList_repr]
    exact congrArg String.toList (text_injective h)
  rw [← @Nat.ofDigitChars_ten_toDigits m, hDigits, Nat.ofDigitChars_ten_toDigits]

/-- The bytes of a decimal are digits. -/
theorem newline_not_mem_decimal (n : Nat) : 10 ∉ decimal n := by
  intro h
  have hBytes : (toString n).toUTF8 = (Nat.toDigits 10 n).utf8Encode := by
    rw [Nat.toString_eq_ofList_toDigits]
    simp
  unfold decimal text at h
  rw [hBytes] at h
  simp only [List.utf8Encode, List.data_toByteArray, List.mem_flatMap] at h
  obtain ⟨c, hDigit, hByte⟩ := h
  have hDigit := Nat.isDigit_of_mem_toDigits (by omega) (by omega) hDigit
  simp only [Char.isDigit, Bool.and_eq_true, decide_eq_true_eq, ge_iff_le,
    UInt32.le_iff_toNat_le] at hDigit
  have hLow : 48 ≤ c.val.toNat := hDigit.1
  have hHigh : c.val.toNat ≤ 57 := hDigit.2
  have hSize : c.utf8Size = 1 := by
    have hSmall : c.val ≤ 0x7f := UInt32.le_iff_toNat_le.mpr (hHigh.trans (by decide))
    simp [Char.utf8Size, hSmall]
  rw [String.utf8EncodeChar_eq_singleton hSize, List.mem_singleton] at hByte
  have hEq := congrArg UInt8.toNat hByte
  rw [UInt32.toNat_toUInt8] at hEq
  have hTen : (10 : UInt8).toNat = 10 := rfl
  omega

/-- An identifier has no newline. -/
theorem newline_not_mem_identifier {id : Text} (h : isCanonicalIdentifier id = true) :
    10 ∉ id := by
  have hLoop : ∀ (id : Text) (separator : Bool), identifierLoop separator id = true → 10 ∉ id := by
    intro id
    induction id with
    | nil => simp
    | cons c rest ih =>
      intro separator h hMem
      rw [identifierLoop] at h
      obtain hEq | hMem := List.mem_cons.mp hMem
      · subst hEq
        simp [isLowerAlpha, isDigit, ascii] at h
      · split at h
        · exact ih _ h hMem
        · split at h
          · exact ih _ h hMem
          · cases h
  cases id with
  | nil => simp
  | cons front rest =>
    simp only [isCanonicalIdentifier, Bool.and_eq_true] at h
    exact hLoop _ _ h.2

/-- The triple can be read off the key. -/
theorem contractKey_inj {id id' : Text} {version version' : Nat} {digest digest' : Text}
    (hId : 10 ∉ id) (hId' : 10 ∉ id')
    (h : contractKey id version digest = contractKey id' version' digest') :
    id = id' ∧ version = version' ∧ digest = digest' := by
  have hNewline : text "\n" = [10] := by decide
  simp only [contractKey, hNewline, List.append_assoc, List.singleton_append] at h
  obtain ⟨rfl, hRest⟩ := Wire.separator_inj hId hId' h
  obtain ⟨hVersion, hDigest⟩ := Wire.separator_inj (newline_not_mem_decimal version)
    (newline_not_mem_decimal version') hRest
  exact ⟨rfl, decimal_injective hVersion, hDigest⟩

-- ---------------------------------------------------------------------------
-- Bindings
-- ---------------------------------------------------------------------------

/-- The identity of a contract: capability, version and digest. -/
abbrev Triple := Text × Nat × Text

/-- The identity of a registered contract. -/
def CapabilityContract.triple (c : CapabilityContract) : Triple :=
  (c.capabilityId, c.contractVersion, c.contractDigest)

/-- The identity of the contract a grant names. -/
def EnabledCapability.triple (c : EnabledCapability) : Triple :=
  (c.capabilityId, c.contractVersion, c.contractDigest)

/-- The identity of the contract a request names. -/
def WorkContext.triple (c : WorkContext) : Triple :=
  (c.capabilityId, c.contractVersion, c.contractDigest)

/-- The callback `DispatchLoop` invokes for a job of this kind. -/
def CapabilityCallbacks.handler : DispatchKind → CapabilityCallbacks → Bool
  | .unary, callbacks => callbacks.unary
  | .operation, callbacks => callbacks.operation
  | .sourceOpen, callbacks => callbacks.sourceOpen

/-- A capability id has no newline. -/
theorem newline_not_mem_capabilityId {id : Text} (h : isCanonicalCapabilityId id = true) :
    10 ∉ id := by
  simp only [isCanonicalCapabilityId, Bool.and_eq_true] at h
  exact newline_not_mem_identifier h.1.2

/-- What the binding loop of `ValidateConfig` has checked of the identities. -/
theorem bindingsOk_keys : ∀ {bindings : List CapabilityBinding} {seen : List Text},
    env.bindingsOk seen bindings = .ok () →
      (bindings.map (·.contract.key)).Nodup ∧
      ∀ binding ∈ bindings, isCanonicalCapabilityId binding.contract.capabilityId = true ∧
        binding.contract.key ∉ seen := by
  intro bindings
  induction bindings with
  | nil => simp
  | cons head rest ih =>
    intro seen h
    rw [Env.bindingsOk] at h
    split at h
    · cases h
    · rename_i hIdentity
      simp only [Bool.or_eq_true, Bool.not_eq_true', not_or, Bool.not_eq_false,
        List.contains_iff_mem] at hIdentity
      obtain ⟨⟨⟨⟨hCanonical, -⟩, -⟩, -⟩, hSeen⟩ := hIdentity
      split at h
      · cases h
      · split at h
        · cases h
        · obtain ⟨hNodup, hRest⟩ := ih h
          refine ⟨?_, fun binding hMem => ?_⟩
          · rw [List.map_cons, List.nodup_cons]
            refine ⟨fun hMem => ?_, hNodup⟩
            obtain ⟨binding, hBinding, hKey⟩ := List.mem_map.mp hMem
            exact (hRest binding hBinding).2 (by rw [hKey]; exact List.mem_cons_self)
          · obtain rfl | hMem := List.mem_cons.mp hMem
            · exact ⟨hCanonical, hSeen⟩
            · exact ⟨(hRest binding hMem).1, fun hOld =>
                (hRest binding hMem).2 (List.mem_cons_of_mem _ hOld)⟩

/-- A contract has one binding. -/
theorem binding_unique (hConfig : env.validateConfig = .ok ()) {i j : Nat}
    {binding other : CapabilityBinding} (hi : env.binding? i = some binding)
    (hj : env.binding? j = some other) (h : binding.contract.triple = other.contract.triple) :
    i = j := by
  have hNodup := (bindingsOk_keys (validateConfig_bindings hConfig)).1
  have hKey : binding.contract.key = other.contract.key := by
    simp only [CapabilityContract.triple, Prod.mk.injEq] at h
    simp only [CapabilityContract.key, h.1, h.2.1, h.2.2]
  have hi' : (env.config.capabilities.map (·.contract.key))[i]? = some binding.contract.key := by
    rw [List.getElem?_map, show env.config.capabilities[i]? = _ from hi]
    rfl
  have hj' : (env.config.capabilities.map (·.contract.key))[j]? = some binding.contract.key := by
    rw [List.getElem?_map, show env.config.capabilities[j]? = _ from hj, hKey]
    rfl
  have hLt : i < (env.config.capabilities.map (·.contract.key)).length :=
    (List.getElem?_eq_some_iff.mp hi').1
  exact (List.getElem?_inj hLt hNodup).mp (hi'.trans hj'.symm)

/-- `FindBindingIndex` finds a binding with the triple of a canonical grant. -/
theorem findBindingIndex_some (hConfig : env.validateConfig = .ok ()) {grant : EnabledCapability}
    {index : Nat} (hId : isCanonicalIdentifier grant.capabilityId = true)
    (h : env.findBindingIndex grant = some index) :
    ∃ binding, env.binding? index = some binding ∧ binding.contract.triple = grant.triple := by
  obtain ⟨hLt, hKey, -⟩ := List.findIdx?_eq_some_iff_getElem.mp h
  refine ⟨env.config.capabilities[index], List.getElem?_eq_getElem hLt, ?_⟩
  have hMem : env.config.capabilities[index] ∈ env.config.capabilities := List.getElem_mem hLt
  have hCanonical := ((bindingsOk_keys (validateConfig_bindings hConfig)).2 _ hMem).1
  obtain ⟨hCapability, hVersion, hDigest⟩ := contractKey_inj
    (newline_not_mem_capabilityId hCanonical) (newline_not_mem_identifier hId)
    (eq_of_beq hKey)
  simp only [CapabilityContract.triple, EnabledCapability.triple, hCapability, hVersion, hDigest]

-- ---------------------------------------------------------------------------
-- Grants
-- ---------------------------------------------------------------------------

/-- What the endpoint loop has checked: every granted endpoint is in the contract, and
the callback of its mode is bound. -/
theorem endpointsOk_mem {binding : CapabilityBinding} :
    ∀ {ids seen : List Text}, Env.endpointsOk binding seen ids = .ok () → ∀ id ∈ ids,
      ∃ endpoint, findEndpoint binding.contract id = some endpoint ∧
        ∀ kind, endpoint.interactionMode = expectedMode kind →
          binding.callbacks.handler kind = true := by
  intro ids
  induction ids with
  | nil => simp
  | cons head rest ih =>
    intro seen h id hMem
    rw [Env.endpointsOk] at h
    split at h
    · cases h
    · rename_i endpoint hEndpoint
      split at h
      · cases h
      · split at h
        · cases h
        · rename_i hUnary
          split at h
          · cases h
          · rename_i hOperation
            split at h
            · cases h
            · rename_i hSource
              obtain rfl | hMem := List.mem_cons.mp hMem
              · refine ⟨endpoint, hEndpoint, fun kind hMode => ?_⟩
                cases kind with
                | unary => simpa [hMode, expectedMode, CapabilityCallbacks.handler] using hUnary
                | operation => simpa [hMode, expectedMode, CapabilityCallbacks.handler] using hOperation
                | sourceOpen => simpa [hMode, expectedMode, CapabilityCallbacks.handler] using hSource
              · exact ih h id hMem

/-- What the grant loop has checked of one grant and the index it pushed. -/
structure GrantOk (env : Env) (grant : EnabledCapability) (index : Nat) : Prop where
  canonical : isCanonicalIdentifier grant.capabilityId = true
  resolved : env.findBindingIndex grant = some index
  endpoints : ∃ binding, env.binding? index = some binding ∧
    Env.endpointsOk binding [] grant.enabledEndpointIds = .ok ()

/-- Every grant of an accepted spec resolves to its binding. -/
theorem grantsOk_mem {grants : List EnabledCapability} {seen : List Text} {bindings : List Nat}
    (h : env.grantsOk seen grants = .ok bindings) :
    ∀ e ∈ grants.zip bindings, GrantOk env e.1 e.2 := by
  induction grants generalizing seen bindings with
  | nil => simp
  | cons grant rest ih =>
    rw [Env.grantsOk] at h
    split at h
    · cases h
    · rename_i hSeen
      simp only [Bool.or_eq_true, Bool.not_eq_true', not_or, Bool.not_eq_false] at hSeen
      split at h
      · cases h
      · rename_i index hIndex
        split at h
        · cases h
        · rename_i binding hBinding
          split at h
          · cases h
          · split at h
            · cases h
            · split at h
              · cases h
              · rename_i hEndpoints
                split at h
                · cases h
                · rename_i indices hRest
                  cases h
                  intro e hMem
                  rw [List.zip_cons_cons, List.mem_cons] at hMem
                  obtain rfl | hMem := hMem
                  · exact ⟨hSeen.1, hIndex, binding, hBinding, hEndpoints⟩
                  · exact ih hRest e hMem

/-- The binding a request is served by: the only one with its triple, with an endpoint
of the mode of its kind, a callback for it, and a committed grant that enables it. -/
structure Granted (env : Env) (commits : List AdapterInstanceSpec) (kind : DispatchKind)
    (context : WorkContext) (index : Nat) (binding : CapabilityBinding)
    (endpoint : CapabilityEndpointContract) : Prop where
  bound : env.binding? index = some binding
  contract : binding.contract.triple = context.triple
  unique : ∀ i other, env.binding? i = some other → other.contract.triple = context.triple →
    i = index
  found : findEndpoint binding.contract context.endpointId = some endpoint
  mode : endpoint.interactionMode = expectedMode kind
  callback : binding.callbacks.handler kind = true
  enabled : ∃ spec ∈ commits, spec.revision = context.specRevision ∧
    ∃ grant ∈ spec.capabilities, grant.triple = context.triple ∧
      context.endpointId ∈ grant.enabledEndpointIds

theorem Granted.mono {commits commits' : List AdapterInstanceSpec} {kind : DispatchKind}
    {context : WorkContext} {index : Nat} {binding : CapabilityBinding}
    {endpoint : CapabilityEndpointContract}
    (h : Granted env commits kind context index binding endpoint)
    (hGrow : ∀ spec ∈ commits, spec ∈ commits') :
    Granted env commits' kind context index binding endpoint := by
  obtain ⟨spec, hMem, hSpec⟩ := h.enabled
  exact { h with enabled := ⟨spec, hGrow spec hMem, hSpec⟩ }

/-- What `ValidateInstanceSpec` has checked of an entry of the active map. -/
theorem SpecState.InForce.grantOk {spec : SpecState} {cand : Candidate}
    (h : spec.InForce env cand) {id : Text} {capability : ActiveCapability}
    (hLook : spec.activeCapabilities.lookup id = some capability) :
    GrantOk env capability.grant capability.bindingIndex := by
  obtain ⟨hMem, -, hIndex⟩ := (h.lookup id capability).mp hLook
  have hGrants := grantsOk_mem (validateInstanceSpec_ok h.valid).2.2
  have hLength := h.valid.grants.length
  rw [h.activeSpec] at hMem
  rw [← List.map_fst_zip (le_of_eq hLength.symm)] at hMem
  obtain ⟨e, hEntry, hGrant⟩ := List.mem_map.mp hMem
  have hOk := hGrants e hEntry
  rw [hGrant] at hOk
  have hSame : e.2 = capability.bindingIndex :=
    Option.some.inj (hOk.resolved.symm.trans hIndex)
  rw [← hSame]
  exact hOk

/-- The committed spec is one of the commits. -/
theorem active_committed (h : (machine env).Reachable s)
    (hRevision : s.client.spec.specRevision ≠ 0) :
    s.client.spec.activeSpec ∈ s.client.commits := by
  refine h.invariant (I := fun s => s.client.spec.specRevision ≠ 0 →
    s.client.spec.activeSpec ∈ s.client.commits) (fun hNot => absurd rfl hNot) ?_ hRevision
  intro s a s' hReach ih hStep hRevision'
  have hMove := (controlMove_of_reachable hReach hStep).sessionMove (shape_of_reachable hReach)
    (standing_of_reachable hReach)
  cases hMove with
  | inside hSpec =>
    cases hSpec with
    | keep hRevision hActive _ hCommits | begin _ hRevision hActive _ hCommits =>
      rw [hActive, hCommits]
      exact ih (hRevision ▸ hRevision')
    | vacate hRevision => exact absurd hRevision hRevision'
    | commit _ _ _ hActive _ hCommits =>
      rw [hActive, hCommits]
      exact List.mem_cons_self
  | kept hActive _ hCommits =>
    obtain ⟨hRevision, hActive⟩ | hZero := hActive
    · rw [hActive, hCommits]
      exact ih (hRevision ▸ hRevision')
    · exact absurd hZero hRevision'
  | install _ hClient =>
    rw [hClient] at hRevision' ⊢
    exact ih hRevision'

/-- The log of commits grows. -/
theorem commits_grow {a : Action} (hReach : (machine env).Reachable s)
    (hStep : s.step env a = some s') : ∀ spec ∈ s.client.commits, spec ∈ s'.client.commits := by
  intro spec hMem
  have hMove := (controlMove_of_reachable hReach hStep).sessionMove (shape_of_reachable hReach)
    (standing_of_reachable hReach)
  cases hMove with
  | inside hSpec =>
    cases hSpec with
    | keep _ _ _ hCommits | begin _ _ _ _ hCommits | vacate _ _ hCommits =>
      rw [hCommits]
      exact hMem
    | commit _ _ _ _ _ hCommits =>
      rw [hCommits]
      exact List.mem_cons_of_mem _ hMem
  | kept _ _ hCommits =>
    rw [hCommits]
    exact hMem
  | install _ hClient =>
    rw [hClient]
    exact hMem

/-- A request that `ValidateWorkContextLocked` accepts is granted. -/
theorem granted_of_validate (hConfig : env.validateConfig = .ok ())
    (hReach : (machine env).Reachable s) {now : Int} {context : WorkContext} {kind : DispatchKind}
    {index : Nat} {endpoint : CapabilityEndpointContract}
    (h : validateWorkContext env s.client now context kind = .ok (index, endpoint)) :
    ∃ binding, Granted env s.client.commits kind context index binding endpoint := by
  obtain ⟨hMode, grant, hFind, hVersion, hDigest⟩ := validateWorkContext_active h
  obtain ⟨-, -, -, hRevision, -⟩ := validateWorkContext_ok h
  obtain ⟨hLook, hEnabled, binding, hBinding, hEndpoint⟩ := findActiveEndpoint_some hFind
  obtain hVacant | ⟨cand, hForce⟩ := (standing_of_reachable hReach).vacant_or_inForce
  · rw [hVacant.capabilities] at hLook
    cases hLook
  obtain ⟨hMem, hId, -⟩ := (hForce.lookup _ _).mp hLook
  have hOk := hForce.grantOk hLook
  obtain ⟨resolved, hResolved, hTriple⟩ :=
    findBindingIndex_some hConfig hOk.canonical hOk.resolved
  have hSame : resolved = binding := Option.some.inj (hResolved.symm.trans hBinding)
  subst hSame
  have hContext : grant.triple = context.triple := by
    simp only [EnabledCapability.triple, WorkContext.triple, hVersion, hDigest]
    rw [show grant.capabilityId = _ from hId]
  obtain ⟨checked, hChecked, hEndpoints⟩ := hOk.endpoints
  have hSame : checked = resolved := Option.some.inj (hChecked.symm.trans hBinding)
  subst hSame
  have hEnabled : context.endpointId ∈ grant.enabledEndpointIds := by simpa using hEnabled
  obtain ⟨granted, hGranted, hCallbacks⟩ := endpointsOk_mem hEndpoints _ hEnabled
  have hSame : granted = endpoint := Option.some.inj (hGranted.symm.trans hEndpoint)
  subst hSame
  have hNonzero := hForce.revision_ne
  refine ⟨checked, hBinding, hTriple.trans hContext, fun i other hOther hTriple' =>
    binding_unique hConfig hOther hBinding
      (hTriple'.trans (hTriple.trans hContext).symm), hEndpoint, hMode, hCallbacks kind hMode,
    s.client.spec.activeSpec, active_committed hReach hNonzero, ?_, grant, hMem, hContext,
    hEnabled⟩
  rw [hRevision, hForce.revision, hForce.activeSpec]

-- ---------------------------------------------------------------------------
-- Sources and the spec they were opened under
-- ---------------------------------------------------------------------------

/-- Sources are open under a committed spec only. -/
theorem sources_need_grants (h : (machine env).Reachable s)
    (hVacant : s.client.spec.activeCapabilities = ∅) : s.client.tables.sourceStreams = ∅ := by
  refine h.invariant (I := fun s => s.client.spec.activeCapabilities = ∅ →
    s.client.tables.sourceStreams = ∅) (fun _ => rfl) ?_ hVacant
  intro s a s' hReach ih hStep hVacant'
  apply Store.eq_empty_of_lookup
  intro streamId
  rw [Option.eq_none_iff_forall_ne_some]
  intro source' hLook
  obtain ⟨source, hWas, -⟩ | ⟨job, _, _, _, _, -, -, -, hVerdict, hClient, -⟩ :=
    (sourceMove_of_step (shape_of_reachable hReach) hStep).back hLook
  · obtain hSame | hEmpty | ⟨hNone, -⟩ := keepsGrants_of_step hReach hStep
    · rw [ih (hSame ▸ hVacant')] at hWas
      cases hWas
    · rw [hEmpty] at hLook
      cases hLook
    · rw [ih hNone] at hWas
      cases hWas
  · -- the open was accepted for an active endpoint
    obtain ⟨-, -, -, hFresh⟩ := sourceOpenVerdict_fresh hVerdict (by simp) (by simp)
    obtain ⟨hValid, -⟩ := freshSourceVerdict_accept hFresh
    obtain ⟨-, grant, hFind, -⟩ := validateWorkContext_active hValid
    obtain ⟨hGrant, -⟩ := findActiveEndpoint_some hFind
    rw [hClient] at hVacant'
    have hVacant : s.client.spec.activeCapabilities = ∅ := hVacant'
    rw [hVacant] at hGrant
    cases hGrant

/-- A deactivation has seen the workers idle. -/
def DeactivatePc.emptied : DeactivatePc → Bool
  | .stopping _ _ | .clearing _ | .notifying _ => true
  | _ => false

/-- A transaction has deactivated the old spec, has seen the workers idle, and has
not committed the new one. -/
def ApplyPc.emptied : ApplyPc → Bool
  | .deactivating _ at_ | .readyDeactivating _ _ at_ => at_.emptied
  | .applying _ | .starting _ _ _ _ | .unwinding _ _ _ _ _ | .failing _ _ _ | .committing _ _
  | .staleUnwinding _ _ | .readyFailing _ _ => true
  | _ => false

/-- A transaction past its deactivation finds nothing committed. -/
theorem ApplyPc.Fits.emptied {spec : SpecState} {at_ : ApplyPc} (h : at_.Fits env spec)
    (hEmptied : at_.emptied = true) : spec.Vacant := by
  cases at_ with
  | begin | waiting | lock | checkSession | checkStop | readying | finishing => cases hEmptied
  | deactivating _ at_ | readyDeactivating _ _ at_ =>
    cases at_ with
    | locked | waiting => cases hEmptied
    | stopping | clearing | notifying => exact h.2.2
  | applying | unwinding | failing | staleUnwinding | readyFailing => exact h.2.2
  | starting | committing => exact h.2.2.1

/-- A deactivation has emptied the tables, or its first section does. -/
theorem emptied_deactivateStep {reason : Text} {at_ : DeactivatePc} {next : Option DeactivatePc}
    (h : deactivateStep env reason c at_ = some (next, c'))
    (hNext : ∀ pc, next = some pc → pc.emptied = true) :
    at_.emptied = true ∨ c.callbacksQuiet = true := by
  cases deactivateStep_move h with
  | begin => exact absurd (hNext _ rfl) (by simp [DeactivatePc.emptied])
  | waited hQuiet => exact .inr hQuiet
  | stopped | stop | clear | notify | finish => exact .inl rfl

/-- A transaction gets to such a point by seeing the workers idle. -/
theorem ApplyMove.emptied {session : Text} {at_ next : ApplyPc}
    (h : ApplyMove env session c at_ (.inl next) c') (hNext : next.emptied = true) :
    at_.emptied = true ∨ c.callbacksQuiet = true := by
  generalize hEq : (Sum.inl next : ApplyNext) = result at h
  cases h with
  | deactivate hStep | readyDeactivate hStep =>
    cases hEq
    exact emptied_deactivateStep hStep fun pc hPc => Option.some.inj hPc ▸ hNext
  | deactivated hStep | readyDeactivated hStep =>
    exact emptied_deactivateStep hStep fun pc hPc => by cases hPc
  | skipApply | applied | applyFailed | skipStart | started | startFailed | startedAll | unwindStop
  | unwound | outdated | staleStop => exact .inl rfl
  | begin | waited | lock | current | proceed | commit | skipReady | readied | readyFailed
  | readiedAll =>
    cases hEq
    cases hNext
  | answer | stale | failed | staleUnwound | readyFailure | finish => cases hEq

/-- The job a worker has taken up, with the binding it has resolved it to; the
opening of a source is taken up before its binding is read. -/
def WorkerPc.attends? : WorkerPc → Option (DispatchJob × Option Nat)
  | .sourceInitial job => some (job, none)
  | .handle job binding | .queueAccepted job binding | .queueStarted job binding
  | .running job binding | .returnedUnary job binding _ | .returnedOperation job binding _
  | .sourceDispatch job binding | .sourceRunning job binding | .sourceReturned job binding _ =>
    some (job, some binding)
  | _ => none

/-- The job a worker attends to is the job it holds. -/
theorem WorkerPc.job_of_attends {pc : WorkerPc} {job : DispatchJob} {binding : Option Nat}
    (h : pc.attends? = some (job, binding)) : pc.job? = some job := by
  cases pc <;> cases h <;> rfl

/-- How a worker comes to attend to a job. -/
inductive Attends (env : Env) (c : Client) (pc : WorkerPc) (job : DispatchJob) :
    Option Nat → Prop
  | kept {binding : Option Nat} (hPc : pc.attends? = some (job, binding)) :
      Attends env c pc job binding
  | validated {now : Int} {binding : Nat} {endpoint : CapabilityEndpointContract}
      (hPc : pc = .validate job)
      (hValid : validateWorkContext env c now job.context job.kind = .ok (binding, endpoint)) :
      Attends env c pc job (some binding)
  | popped {source : SourceState} (hPc : pc = .popped job)
      (hLook : c.tables.sourceStreams.lookup job.workId = some source)
      (hOwn : job.cancellation = some source.cancellation) : Attends env c pc job none
  | found {source : SourceState} (hPc : pc = .sourceInitial job)
      (hLook : c.tables.sourceStreams.lookup job.workId = some source) :
      Attends env c pc job (some source.bindingIndex)

/-- Where a worker comes by the job and the binding it attends to. -/
theorem attends_of_step {pc pc' : WorkerPc} {input : WorkerInput} {job : DispatchJob}
    {binding : Option Nat} (h : workerStep env c pc input = some (pc', c'))
    (hAttends : pc'.attends? = some (job, binding)) : Attends env c pc job binding := by
  cases workerStep_branch h with
  -- the source a popped open finds is its own
  | enterSource _ hActive _ hOwn =>
    cases hAttends
    exact .popped rfl hActive hOwn
  -- the validated context names the binding
  | valid hValid =>
    cases hAttends
    exact .validated rfl hValid
  -- the source opened with this binding
  | findSource hActive =>
    cases hAttends
    exact .found rfl hActive
  -- the later points keep it
  | startUnary | toOperation | accepted | started | startSource | cancelSource | returnUnary
  | returnOperation | returnSource => exact .kept hAttends
  -- the remaining points attend to nothing
  | commit hCommits => cases hCommits <;> cases hAttends
  | @unheard _ _ _ after | @signalSession _ _ _ _ after => cases after <;> cases hAttends
  | _ => cases hAttends

/-- A transaction is at such a point after a step: it was there before, or the step has
seen the workers idle. -/
theorem emptied_of_step {a : Action} (hStep : s.step env a = some s') {at_ : ApplyPc}
    (hAt : s'.controlReader.transaction? = some at_) (hEmptied : at_.emptied = true) :
    (∃ at₀, s.controlReader.transaction? = some at₀ ∧ at₀.emptied = true) ∨
    (s'.workers = s.workers ∧ s.client.queues.activeDispatchJobs = 0) := by
  cases System.step_cases hStep with
  | worker | workReader | workWriter | controlWriter | publishSource | closeSource | flags
  | startThreads | joinSupervisor | joinWorkers | stopDeactivate | stopReset =>
    exact .inl ⟨at_, hAt, hEmptied⟩
  | controlReader hReader =>
    have hMove := controlReaderStep_cases hReader
    simp only at hAt
    generalize s.controlReader = pc at hMove ⊢
    cases hMove with
    | calm _ _ _ hPc' =>
      rw [hPc'] at hAt
      cases hAt
    | apply hApply =>
      cases hAt
      obtain hWas | hQuiet := hApply.emptied hEmptied
      · exact .inl ⟨_, rfl, hWas⟩
      · simp only [Client.callbacksQuiet, Bool.and_eq_true, beq_iff_eq] at hQuiet
        exact .inr ⟨rfl, hQuiet.2⟩
    | receive =>
      cases hAt
      cases hEmptied
    | drain | refuse | conclude | queue | overflow | signal => cases hAt
  | @supervisor input pc' c' =>
    have hAt : (s.spawn pc').controlReader.transaction? = some at_ := hAt
    obtain hSame | ⟨-, fence, hOpening⟩ := controlReader_spawn (s := s) pc'
    · rw [hSame] at hAt
      exact .inl ⟨at_, hAt, hEmptied⟩
    · rw [hOpening] at hAt
      cases hAt

/-- The same for a step of the system. -/
theorem attends_back {a : Action} {i : Nat} {job : DispatchJob} {binding : Option Nat}
    (hStep : s.step env a = some s') (h : (s'.workers i).attends? = some (job, binding)) :
    Attends env s.client (s.workers i) job binding := by
  cases System.step_cases hStep with
  | @worker j input pc' c' hWorker =>
    by_cases hEq : i = j
    · subst hEq
      exact attends_of_step hWorker (by simpa [System.setWorker] using h)
    · exact .kept (by simpa [System.setWorker, hEq] using h)
  | workReader | controlReader | workWriter | controlWriter | publishSource | closeSource | flags
  | joinSupervisor | stopDeactivate | stopReset => exact .kept h
  | @supervisor input pc' c' =>
    have h : ((s.spawn pc').workers i).attends? = some (job, binding) := h
    rw [workers_spawn] at h
    exact .kept h
  | startThreads =>
    have h : ((if i < _ then .idle else .notStarted) : WorkerPc).attends? = _ := h
    split at h <;> cases h
  | joinWorkers => cases h

/-- Nobody takes up the opening of a source in the middle of a transaction. -/
theorem unattended_of_emptied (h : (machine env).Reachable s) {at_ : ApplyPc}
    (hAt : s.controlReader.transaction? = some at_) (hEmptied : at_.emptied = true) (i : Nat)
    (job : DispatchJob) : (s.workers i).attends? ≠ some (job, none) := by
  refine h.invariant (I := fun s => ∀ at_, s.controlReader.transaction? = some at_ →
    at_.emptied = true → ∀ i job, (s.workers i).attends? ≠ some (job, none))
    (by intro _ hNone; cases hNone) ?_ at_ hAt hEmptied i job
  clear hAt hEmptied h at_ i job
  intro s a s' hReach ih hStep at_ hAt hEmptied i job hAttends
  obtain ⟨at₀, hAt₀, hEmptied₀⟩ | hQuiet := emptied_of_step hStep hAt hEmptied
  · cases attends_back hStep hAttends with
    | kept hPc => exact ih at₀ hAt₀ hEmptied₀ i job hPc
    | popped _ hLook =>
      -- there is no source to be found
      have hSpec := (standing_of_reachable hReach).spec
      rw [hAt₀] at hSpec
      rw [sources_need_grants hReach (hSpec.emptied hEmptied₀).capabilities] at hLook
      cases hLook
  · have hJob := (shape_of_reachable hReach).occupancy.job_none_of_active hQuiet.2 i
    rw [hQuiet.1] at hAttends
    rw [WorkerPc.job_of_attends hAttends] at hJob
    cases hJob

/-- A transaction commits only after it has emptied the tables. -/
theorem ApplyMove.committing {session : Text} {at_ : ApplyPc} {next : ApplyNext}
    (h : ApplyMove env session c at_ next c') (hFits : at_.Fits env c.spec)
    (hZero : c.spec.specRevision = 0) (hNew : c'.spec.specRevision ≠ 0) : at_.emptied = true := by
  cases h with
  | commit => rfl
  | begin hBegin =>
    obtain ⟨-, -, -, -, rfl⟩ := beginApply_inr hBegin
    exact absurd hZero hNew
  | deactivate hStep | deactivated hStep | readyDeactivate hStep | readyDeactivated hStep =>
    obtain ⟨-, -, -, hVacant, -⟩ | ⟨-, -, hSpec⟩ := spec_deactivateStep hStep
    · exact absurd hVacant.revision hNew
    · rw [hSpec] at hNew
      exact absurd hZero hNew
  | finish => exact absurd ((alike_finishApply _ _ _).1.revision.trans hZero) hNew
  | unwindStop | unwound | applyFailed | staleStop | staleUnwound => rfl
  | answer | waited | lock | current | stale | proceed | skipApply | applied | skipStart | started
  | startFailed | startedAll | failed | outdated | skipReady | readied | readyFailed | readiedAll
  | readyFailure => exact absurd hZero hNew

/-- The Control reader commits only inside a transaction that has emptied the tables. -/
theorem ControlReaderMove.committing {pc pc' : ControlReaderPc}
    (h : ControlReaderMove env c pc pc' c') (hSpec : c.spec.Stands env pc.transaction?)
    (hZero : c.spec.specRevision = 0) (hNew : c'.spec.specRevision ≠ 0) :
    ∃ at_, pc.transaction? = some at_ ∧ at_.emptied = true := by
  have hKept : c'.spec = c.spec → False := by
    intro hEq
    rw [hEq] at hNew
    exact hNew hZero
  cases h with
  | calm hHelm => exact (hKept (spec_of_helm hHelm)).elim
  | drain => exact (hKept (congrArg Helm.spec (Client.helm_beginDrain _ _))).elim
  | refuse | receive => exact absurd hZero hNew
  | apply hApply | conclude hApply => exact ⟨_, rfl, hApply.committing hSpec hZero hNew⟩
  | queue hQueue | overflow hQueue =>
    exact (hKept (congrArg Helm.spec (Client.helm_queueControlLocked hQueue))).elim
  | signal => exact (hKept (spec_of_helm (Client.helm_signalSessionFailure _ _))).elim

/-- The supervisor commits nothing. -/
theorem SupervisorTurn.keepsVacant {pc pc' : SupervisorPc} (h : SupervisorTurn env c pc pc' c')
    (hZero : c.spec.specRevision = 0) : c'.spec.specRevision = 0 := by
  cases h with
  | calm hHelm => rw [spec_of_helm hHelm, hZero]
  | replace | prepare | install | clear | report => exact hZero
  | endSession => rfl
  | advance =>
    unfold Client.advanceEpoch
    split <;> exact hZero
  | deactivate hStep | deactivated hStep =>
    obtain ⟨⟨hSame, -⟩ | hNone, -⟩ := active_deactivateStep hStep
    · exact hSame.trans hZero
    · exact hNone

/-- A spec is committed by a transaction that has seen the workers idle. -/
theorem committing_of_step {a : Action} (hReach : (machine env).Reachable s)
    (hStep : s.step env a = some s') (hZero : s.client.spec.specRevision = 0)
    (hNew : s'.client.spec.specRevision ≠ 0) :
    ∃ at_, s.controlReader.transaction? = some at_ ∧ at_.emptied = true := by
  have hKept : s'.client.spec = s.client.spec → False := by
    intro hEq
    rw [hEq] at hNew
    exact hNew hZero
  cases controlMove_of_reachable hReach hStep with
  | calm hHelm => exact (hKept (spec_of_helm hHelm)).elim
  | controlReader hMove =>
    exact hMove.committing (standing_of_reachable hReach).spec hZero hNew
  | controlWriter hMove => exact (hKept (spec_controlWriterMove hMove)).elim
  | workWriter hMove => exact (hKept (spec_workWriterMove hMove)).elim
  | supervisor hTurn => exact absurd (hTurn.keepsVacant hZero) hNew
  | startThreads _ hClient => exact (hKept (by rw [hClient]; rfl)).elim
  | join hClient => exact (hKept (by rw [hClient])).elim
  | stopDeactivate _ hDeactivate =>
    obtain ⟨⟨hSame, -⟩ | hNone, -⟩ := active_deactivateStep hDeactivate
    · exact absurd (hSame.trans hZero) hNew
    · exact absurd hNone hNew
  | stopDeactivated _ hDeactivate hClient =>
    rw [hClient] at hNew
    obtain ⟨⟨hSame, -⟩ | hNone, -⟩ := active_deactivateStep hDeactivate
    · exact absurd (hSame.trans hZero) hNew
    · exact absurd hNone hNew
  | stopReset _ hClient =>
    rw [hClient] at hNew
    exact absurd rfl hNew

-- ---------------------------------------------------------------------------
-- The source a worker takes up
-- ---------------------------------------------------------------------------

/-- Where a transaction deactivates nothing is committed any more. -/
theorem ApplyMove.vacates {session : Text} {at_ : ApplyPc} {next : ApplyNext}
    (h : ApplyMove env session c at_ next c') (hAt : at_.deactivates = true) :
    c'.spec.specRevision = 0 := by
  have hVacated : ∀ {reason : Text} {next : Option DeactivatePc} {c₁ : Client},
      deactivateStep env reason c .locked = some (next, c₁) → c₁.spec.specRevision = 0 := by
    intro reason next c₁ hDeactivate
    obtain ⟨-, -, -, hVacant, -⟩ | ⟨hNot, -⟩ := spec_deactivateStep hDeactivate
    · exact hVacant.revision
    · exact absurd rfl hNot
  cases at_ with
  | deactivating _ at_ =>
    cases at_ with
    | locked =>
      cases h with
      | deactivate hStep | deactivated hStep => exact hVacated hStep
      | stale hPc => obtain hPc | hPc := hPc <;> cases hPc
    | waiting | stopping | clearing | notifying => cases hAt
  | readyDeactivating _ _ at_ =>
    cases at_ with
    | locked =>
      cases h with
      | readyDeactivate hStep | readyDeactivated hStep => exact hVacated hStep
      | stale hPc => obtain hPc | hPc := hPc <;> cases hPc
    | waiting | stopping | clearing | notifying => cases hAt
  | _ => cases hAt

/-- A live deactivation leaves no spec behind. -/
theorem vacated_of_deactivates {input : ReaderInput ControlResponse}
    (hStep : s.step env (.controlReader input) = some s')
    (hPc : s.controlReader.deactivates = true) : s'.client.spec.specRevision = 0 := by
  have hMove := controlReaderStep_cases (controlReaderStep_of_step hStep)
  generalize s.controlReader = pc at hMove hPc
  generalize s'.controlReader = pc' at hMove
  generalize s'.client = c' at hMove ⊢
  cases hMove with
  | apply hApply | conclude hApply => exact hApply.vacates hPc
  | calm _ _ hNone =>
    cases pc with
    | applying => cases hNone
    | _ => cases hPc
  | drain | refuse | receive | queue | overflow | signal => cases hPc

/-- The Work streams of a pair run after its Control stream. -/
theorem work_of_step {a : Action} (hStep : s.step env a = some s')
    (hWork : s'.supervisor.phase.work = true) :
    s.supervisor.phase.work = true ∨ s.supervisor.phase = .opening := by
  cases System.step_cases hStep with
  | worker | workReader | controlReader | workWriter | controlWriter | publishSource
  | closeSource | flags | joinWorkers | stopDeactivate | stopReset => exact .inl hWork
  | startThreads | joinSupervisor => cases hWork
  | supervisor hSupervisor =>
    have hMove := supervisorStep_cases hSupervisor
    simp only at hWork
    generalize s.supervisor = pc at hMove ⊢
    cases hMove with
    | quiet _ _ _ hPhase =>
      rw [hPhase] at hWork
      cases hWork
    | attach => exact .inr rfl
    | ended hPc =>
      obtain rfl | rfl := hPc
      · exact .inr rfl
      · exact .inl rfl
    | joinControl => exact .inl rfl
    | joinWork | replaceBegin | replaceWait | install | prepare | release | clear | advance
    | deactivate | endSession => cases hWork

/-- The opening of a source has its source, or no other one can take its place while
it is being taken up: there is no spec, or the pair is over. -/
def System.Attended (s : System) (job : DispatchJob) : Prop :=
  (∃ source, s.client.tables.sourceStreams.lookup job.workId = some source ∧
    job.cancellation = some source.cancellation) ∨
  s.client.spec.specRevision = 0 ∨
  (s.client.tables.sourceStreams = ∅ ∧ s.supervisor.phase.work = false)

/-- A worker that is about to take up a source leaves it in the table. -/
theorem SourceExit.of_attends {a : Action} {streamId : Text} {source : SourceState} {i : Nat}
    {job : DispatchJob} (h : SourceExit env s a s' streamId source)
    (hReach : (machine env).Reachable s) (hStep : s.step env a = some s')
    (hPc : s.workers i = .popped job ∨ s.workers i = .sourceInitial job)
    (hLook : s.client.tables.sourceStreams.lookup streamId = some source)
    (hOwn : job.cancellation = some source.cancellation) : s'.Attended job := by
  have hJobs := jobs_of_reachable hReach
  have hJob : (s.workers i).job? = some job := by obtain hPc | hPc := hPc <;> rw [hPc] <;> rfl
  -- nobody else works on the job
  have hAlone : ∀ {j : Nat} {other : DispatchJob}, (s.workers j).job? = some other →
      other.cancellation = some source.cancellation → j = i := by
    intro j other hOther hSame
    by_contra hNe
    exact hJobs.workers j i other job hNe hOther hJob (hSame.trans hOwn.symm)
  have hOpened : source.phase = .opened → False := by
    intro hPhase
    obtain hOpening | ⟨j, hOther, hDone⟩ := (sources_of_reachable hReach).opening job streamId
      source (.inr ⟨i, hJob⟩) hLook hOwn
    · rw [hPhase] at hOpening
      cases hOpening
    · have hEq := hAlone hOther hOwn
      subst hEq
      obtain hPc | hPc := hPc <;> rw [hPc] at hDone <;> cases hDone
  cases h with
  | @refused j other _ _ _ hCommit hOwns =>
    have hEq := hAlone (by rw [hCommit]; rfl) hOwns.own
    subst hEq
    rw [hCommit] at hPc
    obtain hPc | hPc := hPc <;> cases hPc
  | closed _ hPhase | cancelled _ hPhase => exact (hOpened hPhase).elim
  | deactivated hAction hDeactivates =>
    subst hAction
    exact .inr (.inl (vacated_of_deactivates hStep hDeactivates))
  | retired hPhase hEmpty =>
    refine .inr (.inr ⟨hEmpty, ?_⟩)
    by_contra hWork
    obtain hWas | hWas := work_of_step hStep (by simpa using hWork)
    · obtain hPhase | hPhase := hPhase <;> rw [hPhase] at hWas <;> cases hWas
    · obtain hPhase | hPhase := hPhase <;> rw [hPhase] at hWas <;> cases hWas

/-- A worker that takes up the opening of a source is attended. -/
theorem attended_of_reachable (h : (machine env).Reachable s) {i : Nat} {job : DispatchJob}
    (hAttends : s.workers i = .sourceInitial job) : s.Attended job := by
  refine h.invariant (I := fun s => ∀ i job, s.workers i = .sourceInitial job → s.Attended job)
    (by intro _ _ hPc; cases hPc) ?_ i job hAttends
  clear hAttends h i job
  intro s a s' hReach ih hStep i job hPc'
  have hMove := sourceMove_of_step (shape_of_reachable hReach) hStep
  have hOwned : ∀ {source : SourceState}, s.workers i = .popped job ∨
      s.workers i = .sourceInitial job →
      s.client.tables.sourceStreams.lookup job.workId = some source →
      job.cancellation = some source.cancellation → s'.Attended job := by
    intro source hPc hLook hOwn
    obtain ⟨source', hLook', hTurn⟩ | hExit := hMove.forward hLook
    · exact .inl ⟨source', hLook', by rw [hTurn.sameSource.cancellation]; exact hOwn⟩
    · exact hExit.of_attends hReach hStep hPc hLook hOwn
  cases attends_back hStep (show (s'.workers i).attends? = some (job, none) by rw [hPc']; rfl) with
  | popped hPc hLook hOwn => exact hOwned (.inl hPc) hLook hOwn
  | kept hAttends =>
    have hPc : s.workers i = .sourceInitial job := by
      cases hPc : s.workers i <;> rw [hPc] at hAttends <;> cases hAttends
      rfl
    obtain ⟨source, hLook, hOwn⟩ | hZero | ⟨hEmpty, hWork⟩ := ih i job hPc
    · exact hOwned (.inr hPc) hLook hOwn
    · by_cases hZero' : s'.client.spec.specRevision = 0
      · exact .inr (.inl hZero')
      · obtain ⟨at_, hAt, hEmptied⟩ := committing_of_step hReach hStep hZero hZero'
        exact absurd hAttends (unattended_of_emptied hReach hAt hEmptied i job)
    · refine .inr (.inr ⟨?_, ?_⟩)
      · apply Store.eq_empty_of_lookup
        intro streamId
        rw [Option.eq_none_iff_forall_ne_some]
        intro source' hLook
        obtain ⟨source, hWas, -⟩ | ⟨_, _, _, _, _, -, hRuns, -⟩ := hMove.back hLook
        · rw [hEmpty] at hWas
          cases hWas
        · rw [hWork] at hRuns
          cases hRuns
      · by_contra hWork'
        obtain hWas | hWas := work_of_step hStep (by simpa using hWork')
        · rw [hWas] at hWork
          cases hWork
        · -- no worker holds a job before the Work stream is opened
          have hJob := (shape_of_reachable hReach).occupancy.holds (by rw [hWas]; rfl) i
          rw [hPc] at hJob
          cases hJob

-- ---------------------------------------------------------------------------
-- Resolution
-- ---------------------------------------------------------------------------

/-- Sources and the jobs of the workers are on the bindings of their requests. -/
structure Resolution (env : Env) (s : System) : Prop where
  sources : ∀ streamId source, s.client.tables.sourceStreams.lookup streamId = some source →
    ∃ binding endpoint, Granted env s.client.commits .sourceOpen source.request.context
      source.bindingIndex binding endpoint
  workers : ∀ i job index, (s.workers i).attends? = some (job, some index) →
    ∃ binding endpoint, Granted env s.client.commits job.kind job.context index binding endpoint

/-- A step keeps every grant resolved. -/
theorem Resolution.step {a : Action} (hConfig : env.validateConfig = .ok ())
    (h : Resolution env s) (hReach : (machine env).Reachable s)
    (hStep : s.step env a = some s') : Resolution env s' := by
  have hGrow := commits_grow hReach hStep
  constructor
  · intro streamId source' hLook'
    obtain ⟨source, hLook, hTurn⟩ | ⟨job, index, endpoint, bytes, now, -, -, -, hVerdict, -, -, rfl⟩ :=
      (sourceMove_of_step (shape_of_reachable hReach) hStep).back hLook'
    · obtain ⟨binding, endpoint, hGranted⟩ := h.sources streamId source hLook
      rw [hTurn.sameSource.request, hTurn.sameSource.bindingIndex]
      exact ⟨binding, endpoint, hGranted.mono hGrow⟩
    · obtain ⟨-, -, -, hFresh⟩ := sourceOpenVerdict_fresh hVerdict (by simp) (by simp)
      obtain ⟨hValid, -⟩ := freshSourceVerdict_accept hFresh
      obtain ⟨binding, hGranted⟩ := granted_of_validate hConfig hReach hValid
      exact ⟨binding, endpoint, hGranted.mono hGrow⟩
  · intro i job index hAttends
    cases attends_back hStep hAttends with
    | kept hPc =>
      obtain ⟨binding, endpoint, hGranted⟩ := h.workers i job index hPc
      exact ⟨binding, endpoint, hGranted.mono hGrow⟩
    | validated _ hValid =>
      obtain ⟨binding, hGranted⟩ := granted_of_validate hConfig hReach hValid
      exact ⟨binding, _, hGranted.mono hGrow⟩
    | @found source hPc hLook =>
      have hHeld : s.Holds job := .inr ⟨i, by rw [hPc]; rfl⟩
      -- the source that is found is the job's own
      obtain ⟨own, hOwn, hSame⟩ | hZero | ⟨hEmpty, -⟩ := attended_of_reachable hReach hPc
      · rw [hLook] at hOwn
        cases hOwn
        obtain ⟨hKind, -, hRequest⟩ := (sources_of_reachable hReach).linked job _ source hHeld hLook hSame
        obtain ⟨binding, endpoint, hGranted⟩ := h.sources _ source hLook
        have hContext : job.context = source.request.context := by
          rw [DispatchJob.context, hKind, hRequest]
        rw [hKind, hContext]
        exact ⟨binding, endpoint, hGranted.mono hGrow⟩
      · obtain hVacant | ⟨cand, hForce⟩ := (standing_of_reachable hReach).vacant_or_inForce
        · rw [sources_need_grants hReach hVacant.capabilities] at hLook
          cases hLook
        · exact absurd hZero hForce.revision_ne
      · rw [hEmpty] at hLook
        cases hLook

/-- In every reachable state the grants are resolved. -/
theorem resolution_of_reachable (hConfig : env.validateConfig = .ok ())
    (h : (machine env).Reachable s) : Resolution env s := by
  refine h.invariant (I := Resolution env) ?_ ?_
  · refine ⟨?_, ?_⟩
    · intro streamId source hLook
      cases hLook
    · intro i job index hAttends
      cases hAttends
  · intro s a s' hReach hResolution hStep
    exact hResolution.step hConfig hReach hStep

/-- What `ValidateInstanceSpec` has made of a spec: each grant has a binding of its own
with its triple, and the `active` map has an entry for each of them. -/
structure SpecResolution (env : Env) (spec : AdapterInstanceSpec) (bindings : List Nat) :
    Prop where
  length : bindings.length = spec.capabilities.length
  distinct : bindings.Nodup
  matched : ∀ e ∈ spec.capabilities.zip bindings,
    ∃ binding, env.binding? e.2 = some binding ∧ binding.contract.triple = e.1.triple
  kept : ∀ e ∈ spec.capabilities.zip bindings,
    (activeCapabilitiesOf spec.capabilities bindings).lookup e.1.capabilityId = some ⟨e.2, e.1⟩

/-- What an accepted spec grants is resolved. -/
theorem specResolution_of_valid (hConfig : env.validateConfig = .ok ())
    {spec : AdapterInstanceSpec} {bindings : List Nat}
    (h : env.validateInstanceSpec spec = .ok bindings) : SpecResolution env spec bindings := by
  have hOk := (validateInstanceSpec_ok h).2.2
  obtain ⟨⟨hLength, hDistinct, hBound⟩, -⟩ := grantsOk_ok hOk
  have hMatched : ∀ e ∈ spec.capabilities.zip bindings,
      ∃ binding, env.binding? e.2 = some binding ∧ binding.contract.triple = e.1.triple := by
    intro e hMem
    have hGrant := grantsOk_mem hOk e hMem
    exact findBindingIndex_some hConfig hGrant.canonical hGrant.resolved
  have hIds : ((spec.capabilities.zip bindings).map (·.1.capabilityId)).Nodup := by
    have hFirst : (spec.capabilities.zip bindings).map (·.1) = spec.capabilities :=
      List.map_fst_zip (le_of_eq hLength.symm)
    rw [← hFirst, List.map_map] at hDistinct
    exact hDistinct
  refine ⟨hLength, ?_, hMatched, ?_⟩
  · rw [← List.map_snd_zip (le_of_eq hLength)]
    refine List.Nodup.map_on ?_ (List.Nodup.of_map _ hIds)
    intro x hX y hY hEq
    -- grants with one binding have one triple, and so one capability
    obtain ⟨first, hFirst, hTriple⟩ := hMatched x hX
    obtain ⟨second, hSecond, hTriple'⟩ := hMatched y hY
    rw [hEq, hSecond, Option.some.injEq] at hFirst
    rw [← hFirst, hTriple'] at hTriple
    have hCapability : x.1.capabilityId = y.1.capabilityId := (congrArg Prod.fst hTriple).symm
    exact List.inj_on_of_nodup_map hIds hX hY hCapability
  · intro e hMem
    rw [activeCapabilitiesOf, lookup_activeCapabilities hIds (by simp)]
    exact .inr ⟨e, hMem, rfl, rfl⟩

/-- Every grant of the committed spec is in the active map, on a binding of its triple. -/
theorem grants_kept (hConfig : env.validateConfig = .ok ()) (h : (machine env).Reachable s)
    (hRevision : s.client.spec.specRevision ≠ 0) {grant : EnabledCapability}
    (hMem : grant ∈ s.client.spec.activeSpec.capabilities) :
    ∃ index binding,
      s.client.spec.activeCapabilities.lookup grant.capabilityId = some ⟨index, grant⟩ ∧
      env.binding? index = some binding ∧ binding.contract.triple = grant.triple := by
  obtain ⟨cand, hForce⟩ := (standing_of_reachable h).inForce hRevision
  have hResolved := specResolution_of_valid hConfig hForce.valid
  have hFirst : (cand.spec.capabilities.zip cand.bindings).map (·.1) = cand.spec.capabilities :=
    List.map_fst_zip (le_of_eq hResolved.length.symm)
  rw [hForce.activeSpec, ← hFirst] at hMem
  obtain ⟨e, hEntry, rfl⟩ := List.mem_map.mp hMem
  obtain ⟨binding, hBinding, hTriple⟩ := hResolved.matched e hEntry
  refine ⟨e.2, binding, ?_, hBinding, hTriple⟩
  rw [hForce.capabilities]
  exact hResolved.kept e hEntry

/-- **Grant resolution.** Under a configuration that `ValidateConfig` accepts, an accepted
spec resolves each of its grants to a binding of its own with the triple of the grant, and
a commit keeps all of them. In every reachable state a handler that has been invoked is
that of the one binding with the triple of its request, on an endpoint of its kind that a
committed grant enables, and its callback is bound. -/
theorem grant_resolution (hConfig : env.validateConfig = .ok ()) :
    (∀ spec bindings, env.validateInstanceSpec spec = .ok bindings →
      SpecResolution env spec bindings) ∧
    ∀ s, (machine env).Reachable s →
      (s.client.spec.specRevision ≠ 0 → ∀ grant ∈ s.client.spec.activeSpec.capabilities,
        ∃ index binding,
          s.client.spec.activeCapabilities.lookup grant.capabilityId = some ⟨index, grant⟩ ∧
          env.binding? index = some binding ∧ binding.contract.triple = grant.triple) ∧
      ∀ i job index, s.workers i = .running job index ∨ s.workers i = .sourceRunning job index →
        ∃ binding endpoint,
          Granted env s.client.commits job.kind job.context index binding endpoint ∧
          handlerEndpoint env index job = some endpoint := by
  refine ⟨fun spec bindings hValid => specResolution_of_valid hConfig hValid, fun s hReach =>
    ⟨fun hRevision grant hMem => grants_kept hConfig hReach hRevision hMem, ?_⟩⟩
  intro i job index hPc
  have hAttends : (s.workers i).attends? = some (job, some index) := by
    obtain hPc | hPc := hPc <;> rw [hPc] <;> rfl
  obtain ⟨binding, endpoint, hGranted⟩ :=
    (resolution_of_reachable hConfig hReach).workers i job index hAttends
  refine ⟨binding, endpoint, hGranted, ?_⟩
  rw [handlerEndpoint, hGranted.bound]
  exact hGranted.found

section Runs

open Deployment

/-- A worker runs a query and another one opens a source, both on the first binding. -/
def servesFirst : WorkerPc → WorkerPc → Bool
  | .running _ binding, .sourceRunning _ other => binding == 0 && other == 0
  | _, _ => false

/-- A query and the opening of a source run on the binding of their contract. -/
theorem grant_resolution_served :
    deployment.validateConfig = .ok () ∧
    ∃ s query feed, (machine deployment).Reachable s ∧ s.workers 0 = .running query 0 ∧
      s.workers 1 = .sourceRunning feed 0 ∧
      (∃ binding endpoint, Granted deployment s.client.commits query.kind query.context 0 binding
        endpoint) ∧
      ∃ binding endpoint, Granted deployment s.client.commits feed.kind feed.context 0 binding
        endpoint := by
  have hConfig : deployment.validateConfig = .ok () := by decide +kernel
  obtain ⟨s, hReach, hPcs⟩ := (machine deployment).exists_reaches_of_runWith (fun _ _ => True)
    (bringUp ++ hostFrame 1 1 (unaryFrame "query") ++ worker 0 4 ++
      hostFrame 1 2 (sourceOpenRequestFrame "feed") ++ worker 1 4)
    (fun s => servesFirst (s.workers 0) (s.workers 1)) (by decide +kernel)
  unfold servesFirst at hPcs
  split at hPcs
  · rename_i query binding feed other hQuery hFeed
    simp only [Bool.and_eq_true, beq_iff_eq] at hPcs
    obtain ⟨rfl, rfl⟩ := hPcs
    have hServed := ((grant_resolution hConfig).2 s hReach.reachable).2
    obtain ⟨_, _, hGranted, -⟩ := hServed 0 query 0 (.inl hQuery)
    obtain ⟨_, _, hGranted', -⟩ := hServed 1 feed 0 (.inr hFeed)
    exact ⟨hConfig, s, query, feed, hReach.reachable, hQuery, hFeed, ⟨_, _, hGranted⟩,
      ⟨_, _, hGranted'⟩⟩
  · cases hPcs

end Runs

end AdapterRuntime.Model
