import AdapterRuntime.Model.Text

/-!
# AdapterRuntime — Runtime Link messages

The protobuf messages of `xgc.adapter.v1` and `xgc.v1`, cut down to the fields
the client reads or writes. A message field with presence is an `Option`; a
`oneof` is an inductive type whose last constructor is the unset case. Enum
values the client does not name are collected in `other`.
-/

namespace AdapterRuntime.Model

/-- The class of an `AdapterError`. -/
inductive ErrorClass
  | unspecified | permanent | transient | rejected | cancelled | deadline | uncertain
  | resourceExhausted | other (value : Int)
  deriving DecidableEq

/-- The phase of an operation. -/
inductive OperationPhase
  | accepted | started | succeeded | rejected | failed | expired | cancelled | uncertain
  | other (value : Int)
  deriving DecidableEq

/-- The encoding of a payload; the wire format is open. -/
inductive PayloadEncoding
  | protobuf | json | bytes | other (value : Int)
  deriving DecidableEq

/-- How an endpoint is used; the wire format is open. -/
inductive InteractionMode
  | unary | operation | streamSource | other (value : Int)
  deriving DecidableEq

/-- The state of a capability in a status report. -/
inductive CapabilityState
  | disabled | configuring | ready | failed
  deriving DecidableEq

/-- A schema, by name and digest. -/
structure SchemaReference where
  messageId : Nat := 0
  typeName : Text := []
  schemaVersion : Nat := 0
  schemaFingerprint : Nat := 0
  deriving DecidableEq

/-- A payload with the schema it claims to follow. -/
structure Payload where
  schema : Option SchemaReference := none
  encoding : PayloadEncoding := .other 0
  value : Text := []
  deriving DecidableEq

/-- An error as the Host reads it. -/
structure AdapterError where
  errorClass : ErrorClass := .unspecified
  code : Text := []
  message : Text := []
  retryAfterMs : Nat := 0
  details : Option Payload := none
  deriving DecidableEq

/-- The resource a request is about. -/
structure ScopeReference where
  kind : Text := []
  key : Text := []
  attributes : List (Text × Text) := []
  deriving DecidableEq

/-- The deadline of a request; zero or less is none. -/
structure Deadline where
  deadlineUnixNanos : Int := 0
  ttlMs : Nat := 0
  deriving DecidableEq

/-- What every request of the Host carries. -/
structure WorkContext where
  workId : Text := []
  capabilityId : Text := []
  endpointId : Text := []
  contractVersion : Nat := 0
  contractDigest : Text := []
  specRevision : Nat := 0
  deadline : Deadline := {}
  idempotencyKey : Text := []
  requestDigest : Text := []
  subject : Option ScopeReference := none
  deriving DecidableEq

/-- A query with one answer. -/
structure UnaryRequest where
  context : WorkContext := {}
  input : Payload := {}
  deriving DecidableEq

/-- An operation with lifecycle events. -/
structure OperationRequest where
  context : WorkContext := {}
  input : Payload := {}
  deriving DecidableEq

/-- What a source may send before it needs more. -/
structure Credit where
  messages : Nat := 0
  bytes : Nat := 0
  deriving DecidableEq

/-- A request to open a source. -/
structure SourceOpenRequest where
  context : WorkContext := {}
  initialCredit : Option Credit := none
  deriving DecidableEq

/-- The terminal of a query. -/
structure UnaryResponse where
  workId : Text := []
  output : Option Payload := none
  error : Option AdapterError := none
  deriving DecidableEq

/-- An event of an operation; the terminal phases end it. -/
structure OperationEvent where
  workId : Text := []
  phase : OperationPhase := .other 0
  occurredUnixNanos : Int := 0
  nativeCode : Int := 0
  output : Option Payload := none
  error : Option AdapterError := none
  deriving DecidableEq

/-- Whether the source is open, or why not. -/
structure SourceOpenResult where
  streamId : Text := []
  accepted : Bool := false
  initialPayload : Option Payload := none
  error : Option AdapterError := none
  deriving DecidableEq

/-- The items of one chunk of a source. -/
structure SourceData where
  streamId : Text := []
  sequence : Nat := 0
  items : List Text := []
  deriving DecidableEq

/-- The end of a source. -/
structure SourceClose where
  streamId : Text := []
  finalSequence : Nat := 0
  error : Option AdapterError := none
  deriving DecidableEq

/-- The header of every frame after registration. -/
structure SessionHeader where
  instanceId : Text := []
  sessionId : Text := []
  processGeneration : Nat := 0
  sessionGeneration : Nat := 0
  runtimeEpoch : Nat := 0
  connectionEpoch : Nat := 0
  frameSequence : Nat := 0
  deriving DecidableEq

/-- The body of a `WorkRequest`, the Adapter-to-Host Work frame. -/
inductive WorkFrame
  | attach (appliedSpecRevision : Nat) (appliedSpecDigest : Text)
  | unaryResponse (response : UnaryResponse)
  | operationEvent (event : OperationEvent)
  | sourceOpenResult (result : SourceOpenResult)
  | sourceData (data : SourceData)
  | sourceClose (close : SourceClose)
  | protocolError (rejectedFrameSequence : Nat) (error : AdapterError)
  deriving DecidableEq

/-- The `identity` oneof of cancellations and acknowledgements. -/
inductive WorkIdentity
  | workId (id : Text) | streamId (id : Text) | notSet
  deriving DecidableEq

/-- More credit for a source. -/
structure SourceCredit where
  streamId : Text := []
  acknowledgedSequence : Nat := 0
  grant : Option Credit := none
  deriving DecidableEq

/-- The Host withdraws a request. -/
structure WorkCancellation where
  identity : WorkIdentity := .notSet
  reason : Text := []
  deriving DecidableEq

/-- The Host has stored a terminal and names it by its digest. -/
structure TerminalAcknowledgement where
  identity : WorkIdentity := .notSet
  terminalDigest : Text := []
  deriving DecidableEq

/-- The body of a `WorkResponse`, the Host-to-Adapter Work frame. -/
inductive HostWork
  | unaryRequest (request : UnaryRequest)
  | operationRequest (request : OperationRequest)
  | sourceOpenRequest (request : SourceOpenRequest)
  | sourceCredit (credit : SourceCredit)
  | cancellation (cancellation : WorkCancellation)
  | terminalAcknowledgement (acknowledgement : TerminalAcknowledgement)
  | protocolError (error : AdapterError)
  | notSet
  deriving DecidableEq

/-- A frame of the Host on the Work stream. -/
structure WorkResponse where
  header : SessionHeader := {}
  frame : HostWork := .notSet
  deriving DecidableEq

/-- A secret the spec refers to. -/
structure SecretReference where
  name : Text := []
  reference : Text := []
  version : Text := []
  deriving DecidableEq

/-- A capability the spec grants to this instance. -/
structure EnabledCapability where
  capabilityId : Text := []
  contractVersion : Nat := 0
  contractDigest : Text := []
  configuration : Option Payload := none
  enabledEndpointIds : List Text := []
  deriving DecidableEq

/-- The spec of an adapter instance, by revision and digest. -/
structure AdapterInstanceSpec where
  instanceId : Text := []
  processGeneration : Nat := 0
  revision : Nat := 0
  specDigest : Text := []
  scope : Option ScopeReference := none
  configuration : Option Payload := none
  secrets : List SecretReference := []
  capabilities : List EnabledCapability := []
  deriving DecidableEq

/-- The status of one contract of the adapter. -/
structure CapabilityStatus where
  capabilityId : Text := []
  contractVersion : Nat := 0
  contractDigest : Text := []
  state : CapabilityState := .disabled
  detail : Text := []
  deriving DecidableEq

/-- The answer to an instance spec. -/
structure ApplyInstanceSpecResult where
  revision : Nat := 0
  specDigest : Text := []
  applied : Bool := false
  error : Option AdapterError := none
  capabilities : List CapabilityStatus := []
  deriving DecidableEq

/-- What a heartbeat reports. -/
structure Heartbeat where
  observedUnixNanos : Int := 0
  appliedSpecRevision : Nat := 0
  appliedSpecDigest : Text := []
  pingNonce : Nat := 0
  capabilities : List CapabilityStatus := []
  deriving DecidableEq

/-- The body of a `ControlRequest`, the Adapter-to-Host Control frame. -/
inductive ControlFrame
  | heartbeat (heartbeat : Heartbeat)
  | applyInstanceSpecResult (result : ApplyInstanceSpecResult)
  | drainStatus (drained : Bool) (inFlightWork : Nat)
  deriving DecidableEq

/-- The body of a `ControlResponse`, the Host-to-Adapter Control frame. -/
inductive HostControl
  | instanceSpec (spec : AdapterInstanceSpec)
  | ping (nonce : Nat)
  | drain
  | stop
  | protocolError (error : AdapterError)
  | notSet
  deriving DecidableEq

/-- A frame of the Host on the Control stream. -/
structure ControlResponse where
  header : SessionHeader := {}
  frame : HostControl := .notSet
  deriving DecidableEq

/-- The limits of one endpoint. -/
structure EndpointLimits where
  maximumRequestBytes : Nat := 0
  maximumResponseBytes : Nat := 0
  maximumConcurrency : Nat := 0
  maximumStreams : Nat := 0
  maximumStreamChunkBytes : Nat := 0
  maximumStreamChunkMessages : Nat := 0
  deriving DecidableEq

/-- One endpoint of a contract. -/
structure CapabilityEndpointContract where
  endpointId : Text := []
  interactionMode : InteractionMode := .other 0
  inputSchema : Option SchemaReference := none
  outputSchema : Option SchemaReference := none
  eventSchema : Option SchemaReference := none
  sideEffectClass : Int := 0
  idempotencyMode : Int := 0
  deadlineRequired : Bool := false
  defaultTimeoutMs : Nat := 0
  maximumTimeoutMs : Nat := 0
  limits : EndpointLimits := {}
  deriving DecidableEq

/-- A contract the adapter offers. -/
structure CapabilityContract where
  capabilityId : Text := []
  contractVersion : Nat := 0
  contractDigest : Text := []
  endpoints : List CapabilityEndpointContract := []
  deriving DecidableEq

/-- What the adapter registers with. -/
structure RegisterRequest where
  instanceId : Text := []
  processGeneration : Nat := 0
  definitionId : Text := []
  definitionDigest : Text := []
  softwareVersion : Text := []
  buildDigest : Text := []
  manifestDigest : Text := []
  bootstrapToken : Text := []
  sdkVersion : Text := []
  runtimeLinkProtocolVersion : Nat := 0
  supportedCapabilities : List CapabilityContract := []
  deriving DecidableEq

/-- What the Host answers to it. -/
structure RegisterResponse where
  accepted : Bool := false
  errorMessage : Text := []
  hostId : Text := []
  sessionId : Text := []
  processGeneration : Nat := 0
  sessionGeneration : Nat := 0
  runtimeEpoch : Nat := 0
  runtimeLinkProtocolVersion : Nat := 0
  heartbeatIntervalMs : Nat := 0
  maximumControlFrameBytes : Nat := 0
  maximumWorkFrameBytes : Nat := 0
  deriving DecidableEq

/-- `internal::MakeError`. -/
def makeError (errorClass : ErrorClass) (code message : Text) (retryAfterMs : Nat := 0) :
    AdapterError :=
  { errorClass, code, message, retryAfterMs }

/-- `internal::IsTerminal`. -/
def OperationPhase.isTerminal : OperationPhase → Bool
  | .succeeded | .rejected | .failed | .expired | .cancelled | .uncertain => true
  | _ => false

/-- The schema a payload declares; the default instance when it has none. -/
def Payload.schemaOrDefault (p : Payload) : SchemaReference := p.schema.getD {}

/-- `internal::SchemaMatches`. -/
def schemaMatches (expected actual : SchemaReference) : Bool :=
  expected.messageId == actual.messageId && expected.typeName == actual.typeName &&
    expected.schemaVersion == actual.schemaVersion &&
    expected.schemaFingerprint == actual.schemaFingerprint

/-- `internal::IsValidPayloadEncoding`. -/
def PayloadEncoding.isValid : PayloadEncoding → Bool
  | .protobuf | .json | .bytes => true
  | .other _ => false

/-- `internal::ErrorMatchesOperationPhase`. -/
def errorMatchesOperationPhase : OperationPhase → ErrorClass → Bool
  | .rejected, c => c == .rejected
  | .failed, c => c == .permanent || c == .transient || c == .resourceExhausted
  | .expired, c => c == .deadline
  | .cancelled, c => c == .cancelled
  | .uncertain, c => c == .uncertain
  | _, _ => false

/-- `ERROR_CLASS_PERMANENT <= class && class <= ERROR_CLASS_RESOURCE_EXHAUSTED`. -/
def ErrorClass.isTyped : ErrorClass → Bool
  | .unspecified | .other _ => false
  | _ => true

/-- `HasError`. -/
def hasError (e : AdapterError) : Bool :=
  e.errorClass != .unspecified || !e.code.isEmpty || !e.message.isEmpty ||
    e.retryAfterMs != 0 || e.details.isSome

/-- `int64_t` maximum. -/
def int64Max : Int := 2 ^ 63 - 1

/-- `internal::NormalizeDeadline`. -/
def normalizeDeadline (deadline : Deadline) (receivedUnixNanos : Int) : Deadline :=
  if deadline.ttlMs = 0 then deadline
  else
    let ttlNanos : Int := deadline.ttlMs * 1000000
    let relative :=
      if receivedUnixNanos > int64Max - ttlNanos then int64Max else receivedUnixNanos + ttlNanos
    { deadlineUnixNanos :=
        if deadline.deadlineUnixNanos ≤ 0 ∨ relative < deadline.deadlineUnixNanos then relative
        else deadline.deadlineUnixNanos
      ttlMs := 0 }

/-- Rewrites a context's deadline at receipt. -/
def WorkContext.normalized (context : WorkContext) (receivedUnixNanos : Int) : WorkContext :=
  { context with deadline := normalizeDeadline context.deadline receivedUnixNanos }

end AdapterRuntime.Model
