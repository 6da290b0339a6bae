import AdapterRuntime.Model.Messages

/-!
# AdapterRuntime — configuration, contracts and specs

What the client is built from: the trusted bootstrap configuration with its
capability bindings, and the parts of the protobuf runtime the code calls but
does not contain. A callback is modelled by its presence; what it returns is
an input of the step that runs it.

* `Protobuf` — wire sizes, JSON parsing, `MessageDifferencer::Equals`,
  the terminal digest and the generated enum bounds, as parameters.
* `Env.validateInstanceSpec`, `Env.validateConfig` — the two validators, with
  the checks in source order.
-/

namespace AdapterRuntime.Model

/-- The protobuf runtime and the generated code, which are not part of this
repository. `workRequestBytes header frame` is `ByteSizeLong` of the frame
stamped with that header; `terminalDigest` is `TerminalDigest` of the terminal
submessage a frame carries. -/
structure Protobuf where
  payloadBytes : Payload → Nat
  unaryRequestBytes : UnaryRequest → Nat
  operationRequestBytes : OperationRequest → Nat
  sourceOpenRequestBytes : SourceOpenRequest → Nat
  workRequestBytes : SessionHeader → WorkFrame → Nat
  controlRequestBytes : SessionHeader → ControlFrame → Nat
  workResponseBytes : WorkResponse → Nat
  controlResponseBytes : ControlResponse → Nat
  parsesAsJson : Text → Bool
  equalSpecs : AdapterInstanceSpec → AdapterInstanceSpec → Bool
  equalScopes : ScopeReference → ScopeReference → Bool
  terminalDigest : WorkFrame → Option Text
  sideEffectClassReadOnly : Int
  sideEffectClassNonIdempotent : Int
  idempotencyModeNotSupported : Int
  idempotencyModeRequired : Int

/-- Which callbacks of a `CapabilityCallbacks` are set. -/
structure CapabilityCallbacks where
  start : Bool := false
  stop : Bool := false
  ready : Bool := false
  unary : Bool := false
  operation : Bool := false
  sourceOpen : Bool := false
  sourceClosed : Bool := false

/-- `CapabilityBinding`: a registered contract with its callbacks. -/
structure CapabilityBinding where
  contract : CapabilityContract
  callbacks : CapabilityCallbacks

/-- Which callbacks of a `ClientCallbacks` are set. -/
structure ClientCallbacks where
  applyInstanceSpec : Bool := false
  clearInstanceSpec : Bool := false
  stopRequested : Bool := false
  sessionLost : Bool := false

/-- `ClientConfig`. What is bound to a contract is a parameter: `BindCapability` binds
function objects, and what a client does depends on which of them are set. -/
structure ClientConfig (Binding : Type) where
  runtimeTarget : Text
  registration : RegisterRequest
  initialSpec : AdapterInstanceSpec
  capabilities : List Binding
  rpcTimeoutMs : Nat := 3000
  initialConnectTimeoutMs : Nat := 10000
  reconnectInitialDelayMs : Nat := 250
  reconnectMaxDelayMs : Nat := 5000
  maximumPairReconnectAttempts : Nat := 8
  maximumControlQueue : Nat := 128
  maximumWorkQueue : Nat := 4096
  maximumDispatchQueue : Nat := 1024
  maximumTerminalReplay : Nat := 1024
  maximumSourceStreams : Nat := 128
  maximumSourceTombstones : Nat := 1024
  maximumControlQueueBytes : Nat := 4 * 1024 * 1024
  maximumWorkQueueBytes : Nat := 16 * 1024 * 1024
  maximumDispatchQueueBytes : Nat := 16 * 1024 * 1024
  maximumTerminalReplayBytes : Nat := 16 * 1024 * 1024
  maximumSourceStateBytes : Nat := 16 * 1024 * 1024
  dispatchWorkers : Nat := 1

/-- Everything a client is constructed from. -/
structure Env where
  config : ClientConfig CapabilityBinding
  callbacks : ClientCallbacks
  protobuf : Protobuf

/-- `kClientVersion`. -/
def kClientVersion : Text := text "0.6.0"

/-- `kRuntimeLinkProtocolVersion`. -/
def kRuntimeLinkProtocolVersion : Nat := 2

/-- `ContractKey` of a registered contract. -/
def CapabilityContract.key (c : CapabilityContract) : Text :=
  contractKey c.capabilityId c.contractVersion c.contractDigest

/-- `ContractKey` of a grant. -/
def EnabledCapability.key (c : EnabledCapability) : Text :=
  contractKey c.capabilityId c.contractVersion c.contractDigest

/-- `ContractKey` of a reported status. -/
def CapabilityStatus.key (c : CapabilityStatus) : Text :=
  contractKey c.capabilityId c.contractVersion c.contractDigest

/-- `FindEndpoint`. -/
def findEndpoint (contract : CapabilityContract) (endpointId : Text) :
    Option CapabilityEndpointContract :=
  contract.endpoints.find? fun e => e.endpointId == endpointId

/-- The shape `IsValidSubject` and `IsCanonicalScope` both check. -/
def ScopeReference.isCanonical (scope : ScopeReference) : Bool :=
  isCanonicalIdentifier scope.kind && isCanonicalSha256 scope.key && !scope.attributes.isEmpty &&
    scope.attributes.all fun a => isCanonicalIdentifier a.1 && isCanonicalText a.2

/-- `ValidSchema`. -/
def validSchema (schema : SchemaReference) : Bool :=
  0 < schema.messageId && 0 < schema.schemaVersion && 0 < schema.schemaFingerprint &&
    isCanonicalText schema.typeName

namespace Env

variable (env : Env)

/-- `internal::IsValidPayload`. -/
def isValidPayload (payload : Payload) : Bool :=
  match payload.schema with
  | none => false
  | some schema =>
    schema.messageId != 0 && isCanonicalText schema.typeName && schema.schemaVersion != 0 &&
      schema.schemaFingerprint != 0 && payload.encoding.isValid &&
      (payload.encoding != .json || env.protobuf.parsesAsJson payload.value)

/-- `internal::IsTypedError`. -/
def isTypedError (error : AdapterError) : Bool :=
  error.errorClass.isTyped && isCanonicalIdentifier error.code && isCanonicalText error.message &&
    match error.details with
    | none => true
    | some details => env.isValidPayload details

/-- `HasPayload`. -/
def hasPayload (payload : Payload) : Bool := env.protobuf.payloadBytes payload != 0

/-- `OutputMatches`. -/
def outputMatches (endpoint : CapabilityEndpointContract) (output : Payload) : Bool :=
  env.isValidPayload output &&
    schemaMatches (endpoint.outputSchema.getD {}) output.schemaOrDefault

/-- `ValidateInput`. -/
def validateInput (endpoint : CapabilityEndpointContract) (input : Payload) : Bool :=
  schemaMatches (endpoint.inputSchema.getD {}) input.schemaOrDefault && env.isValidPayload input &&
    input.value.length ≤ endpoint.limits.maximumRequestBytes

/-- `FindBindingIndex`; `none` is `kNoBinding`. -/
def findBindingIndex (grant : EnabledCapability) : Option Nat :=
  env.config.capabilities.findIdx? fun b => b.contract.key == grant.key

/-- `config_.capabilities()[index]`. -/
def binding? (index : Nat) : Option CapabilityBinding := env.config.capabilities[index]?

/-- Whether the callback `f` selects is set on a binding. -/
def hasCallback (f : CapabilityCallbacks → Bool) (index : Nat) : Bool :=
  match env.binding? index with
  | some b => f b.callbacks
  | none => false

/-- `DisabledCapabilityStatuses`. -/
def disabledCapabilityStatuses : List CapabilityStatus :=
  env.config.capabilities.map fun b =>
    { capabilityId := b.contract.capabilityId
      contractVersion := b.contract.contractVersion
      contractDigest := b.contract.contractDigest
      state := .disabled
      detail := text "capability contract is not enabled by the current spec" }

-- ---------------------------------------------------------------------------
-- ValidateInstanceSpec
-- ---------------------------------------------------------------------------

/-- The secret loop: canonical references, uniquely named. -/
def secretsOk : List Text → List SecretReference → Bool
  | _, [] => true
  | seen, s :: rest =>
    isCanonicalIdentifier s.name && isCanonicalText s.reference && isCanonicalText s.version &&
      !seen.contains s.name && secretsOk (s.name :: seen) rest

/-- The endpoint loop of one grant. -/
def endpointsOk (binding : CapabilityBinding) : List Text → List Text → Except Text Unit
  | _, [] => .ok ()
  | seen, id :: rest =>
    match findEndpoint binding.contract id with
    | none => .error (text "instance spec grants an unknown or duplicate endpoint")
    | some endpoint =>
      if !isCanonicalIdentifier id || seen.contains id then
        .error (text "instance spec grants an unknown or duplicate endpoint")
      else if endpoint.interactionMode == .unary && !binding.callbacks.unary then
        .error (text "enabled unary endpoint has no bound handler")
      else if endpoint.interactionMode == .operation && !binding.callbacks.operation then
        .error (text "enabled operation endpoint has no bound handler")
      else if endpoint.interactionMode == .streamSource && !binding.callbacks.sourceOpen then
        .error (text "enabled source endpoint has no bound open handler")
      else endpointsOk binding (id :: seen) rest

/-- The grant loop, accumulating the binding indices in spec order. -/
def grantsOk : List Text → List EnabledCapability → Except Text (List Nat)
  | _, [] => .ok []
  | seen, grant :: rest =>
    if !isCanonicalIdentifier grant.capabilityId || seen.contains grant.capabilityId then
      .error (text "instance spec contains an empty or duplicate capability")
    else
      match env.findBindingIndex grant with
      | none =>
        .error (text "instance spec grants an unsupported contract: " ++ grant.capabilityId)
      | some index =>
        match env.binding? index with
        | none =>
          .error (text "instance spec grants an unsupported contract: " ++ grant.capabilityId)
        | some binding =>
          if grant.configuration.any fun c => !env.isValidPayload c then
            .error (text "enabled capability configuration is malformed")
          else if grant.enabledEndpointIds.isEmpty then
            .error (text "enabled capability grants no endpoints")
          else
            match endpointsOk binding [] grant.enabledEndpointIds with
            | .error e => .error e
            | .ok () =>
              match grantsOk (grant.capabilityId :: seen) rest with
              | .error e => .error e
              | .ok indices => .ok (index :: indices)

/-- `ValidateInstanceSpec`: the binding index of every grant, or the error. -/
def validateInstanceSpec (spec : AdapterInstanceSpec) : Except Text (List Nat) :=
  let registration := env.config.registration
  if spec.instanceId != registration.instanceId ||
      spec.processGeneration != registration.processGeneration then
    .error (text "instance spec identity or process generation mismatch")
  else if spec.revision == 0 || !isCanonicalSha256 spec.specDigest then
    .error (text "instance spec revision and digest are required")
  else
    match spec.scope with
    | none => .error (text "instance spec scope is missing or non-canonical")
    | some scope =>
      if !scope.isCanonical then
        .error (text "instance spec scope is missing or non-canonical")
      else if !(env.config.initialSpec.scope.any fun s => env.protobuf.equalScopes scope s) then
        .error (text "instance scope is immutable for the Adapter instance")
      else if !(spec.configuration.any fun c => env.isValidPayload c) then
        .error (text "instance configuration must be one valid typed payload")
      else if !secretsOk [] spec.secrets then
        .error (text "secret references must be canonical and uniquely named")
      else env.grantsOk [] spec.capabilities

-- ---------------------------------------------------------------------------
-- ValidateConfig
-- ---------------------------------------------------------------------------

/-- `ValidateEndpointShape`. -/
def validateEndpointShape (endpoint : CapabilityEndpointContract) : Except Text Unit :=
  let mode := endpoint.interactionMode
  let unary := mode == .unary
  let operation := mode == .operation
  let source := mode == .streamSource
  let limits := endpoint.limits
  let anyStreamLimit := limits.maximumStreams != 0 || limits.maximumStreamChunkBytes != 0 ||
    limits.maximumStreamChunkMessages != 0
  if !isCanonicalIdentifier endpoint.endpointId || (!unary && !operation && !source) then
    .error (text "capability endpoint identity or mode is invalid")
  else if endpoint.inputSchema.any (fun s => !validSchema s) ||
      endpoint.outputSchema.any (fun s => !validSchema s) ||
      endpoint.eventSchema.any (fun s => !validSchema s) then
    .error (text "capability endpoint schema identity is invalid")
  else if (unary || operation) && endpoint.inputSchema.isNone then
    .error (text "endpoint interaction requires input schema")
  else if (unary || operation || source) && endpoint.outputSchema.isNone then
    .error (text "endpoint interaction requires output schema")
  else if endpoint.sideEffectClass < env.protobuf.sideEffectClassReadOnly ||
      endpoint.sideEffectClass > env.protobuf.sideEffectClassNonIdempotent ||
      endpoint.idempotencyMode < env.protobuf.idempotencyModeNotSupported ||
      endpoint.idempotencyMode > env.protobuf.idempotencyModeRequired then
    .error (text "endpoint side-effect or idempotency mode is invalid")
  else if endpoint.defaultTimeoutMs == 0 || endpoint.maximumTimeoutMs == 0 ||
      endpoint.defaultTimeoutMs > endpoint.maximumTimeoutMs then
    .error (text "endpoint timeouts must be positive and ordered")
  else if limits.maximumRequestBytes == 0 || limits.maximumResponseBytes == 0 ||
      limits.maximumConcurrency == 0 then
    .error (text "endpoint request/response/concurrency limits must be positive")
  else if source && (limits.maximumStreams == 0 || limits.maximumStreamChunkBytes == 0 ||
      limits.maximumStreamChunkMessages == 0) then
    .error (text "source endpoint stream limits must be positive")
  else if !source && anyStreamLimit then
    .error (text "non-stream endpoint declares stream limits")
  else .ok ()

/-- The endpoint loop of one contract. -/
def endpointShapesOk : List Text → List CapabilityEndpointContract → Except Text Unit
  | _, [] => .ok ()
  | seen, endpoint :: rest =>
    match env.validateEndpointShape endpoint with
    | .error e => .error e
    | .ok () =>
      if seen.contains endpoint.endpointId then
        .error (text "capability contract contains an invalid or duplicate endpoint")
      else endpointShapesOk (endpoint.endpointId :: seen) rest

/-- The binding loop. -/
def bindingsOk : List Text → List CapabilityBinding → Except Text Unit
  | _, [] => .ok ()
  | seen, binding :: rest =>
    let contract := binding.contract
    if !isCanonicalCapabilityId contract.capabilityId || contract.contractVersion == 0 ||
        !isCanonicalSha256 contract.contractDigest || contract.endpoints.isEmpty ||
        seen.contains contract.key then
      .error (text "capability contracts must have unique identity and endpoints")
    else
      match env.endpointShapesOk [] contract.endpoints with
      | .error e => .error e
      | .ok () =>
        if !env.config.registration.supportedCapabilities.any (fun c => c.key == contract.key) then
          .error (text "application capability is not present in bootstrap registration")
        else bindingsOk (contract.key :: seen) rest

/-- The timeout, queue-bound and worker-count check of `ValidateConfig`. -/
def boundsOk : Bool :=
  let c := env.config
  c.rpcTimeoutMs != 0 && c.initialConnectTimeoutMs != 0 && c.reconnectInitialDelayMs != 0 &&
    c.reconnectInitialDelayMs ≤ c.reconnectMaxDelayMs && c.maximumPairReconnectAttempts != 0 &&
    c.maximumControlQueue != 0 && c.maximumWorkQueue != 0 && c.maximumDispatchQueue != 0 &&
    c.maximumTerminalReplay != 0 && c.maximumSourceStreams != 0 &&
    c.maximumSourceStreams ≤ c.maximumSourceTombstones && c.maximumControlQueueBytes != 0 &&
    c.maximumWorkQueueBytes != 0 && c.maximumDispatchQueueBytes != 0 &&
    c.maximumTerminalReplayBytes != 0 && c.maximumSourceStateBytes != 0 && c.dispatchWorkers != 0

/-- `ValidateConfig`. -/
def validateConfig : Except Text Unit :=
  let r := env.config.registration
  let initial := env.config.initialSpec
  match validateRuntimeTarget env.config.runtimeTarget with
  | .error e => .error e
  | .ok () =>
    if !isCanonicalInstanceId r.instanceId || r.processGeneration == 0 then
      .error (text "instance_id must be canonical and process_generation positive")
    else if !isCanonicalIdentifier r.definitionId || !isCanonicalSha256 r.definitionDigest ||
        !isCanonicalText r.softwareVersion || !isCanonicalSha256 r.buildDigest ||
        !isCanonicalSha256 r.manifestDigest || !isCanonicalText r.bootstrapToken ||
        r.sdkVersion != kClientVersion then
      .error (text "trusted definition/build/manifest/software/token/SDK identity is required")
    else if r.runtimeLinkProtocolVersion != kRuntimeLinkProtocolVersion then
      .error (text "Runtime SDK requires protocol version 2 exclusively")
    else if initial.instanceId != r.instanceId ||
        initial.processGeneration != r.processGeneration || initial.revision == 0 ||
        !isCanonicalSha256 initial.specDigest then
      .error (text "initial_spec must match registration identity and generation")
    else if !env.boundsOk then
      .error (text "timeouts, queue bounds, and worker counts must be positive")
    else
      match env.bindingsOk [] env.config.capabilities with
      | .error e => .error e
      | .ok () =>
        if env.config.capabilities.length != r.supportedCapabilities.length then
          .error (text "bootstrap capability contracts were dropped or added")
        else
          match env.validateInstanceSpec initial with
          | .error e => .error e
          | .ok _ => .ok ()

end Env

end AdapterRuntime.Model
