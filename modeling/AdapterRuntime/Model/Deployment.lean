import AdapterRuntime.Model.System

/-!
# AdapterRuntime — a small deployment

A concrete client for runs on fixed inputs: one capability with an endpoint of
each interaction mode, two dispatch workers and an application that applies
specs. The protobuf side is a plausible stand-in: sizes grow with the texts a
message carries, and digests have the canonical form.

* `deployment` — the environment.
* `bringUp` — from construction to a ready pair.
* `hostFrame`, `worker`, `transaction` — what the threads do between two
  points of a run.
-/

namespace AdapterRuntime.Model.Deployment

open AdapterRuntime.Lib

-- ---------------------------------------------------------------------------
-- Messages
-- ---------------------------------------------------------------------------

/-- `count` lowercase hexadecimal digits of `n`, least significant first. -/
def hexDigits : Nat → Nat → Text
  | 0, _ => []
  | count + 1, n =>
    (if n % 16 < 10 then UInt8.ofNat (48 + n % 16) else UInt8.ofNat (87 + n % 16)) ::
      hexDigits count (n / 16)

/-- A digest text of canonical form. -/
def digestOf (content : Text) : Text :=
  text "sha256:" ++ hexDigits 64 (content.foldl (fun sum byte => sum * 257 + byte.toNat + 1) 1)

/-- The texts an error adds to a message. -/
def errorText (error : Option AdapterError) : Text :=
  match error with
  | some error => error.code ++ error.message
  | none => []

/-- The text a payload adds to a message. -/
def payloadText (payload : Option Payload) : Text :=
  match payload with
  | some payload => text "p" ++ payload.value
  | none => []

/-- The variable part of a Work frame. -/
def frameText : WorkFrame → Text
  | .attach _ digest => digest
  | .unaryResponse r => r.workId ++ payloadText r.output ++ errorText r.error
  | .operationEvent e =>
    e.workId ++ text (if e.phase.isTerminal then "t" else "e") ++ payloadText e.output ++
      errorText e.error
  | .sourceOpenResult r => r.streamId ++ payloadText r.initialPayload ++ errorText r.error
  | .sourceData d => d.streamId ++ d.items.flatten
  | .sourceClose c => c.streamId ++ errorText c.error
  | .protocolError _ error => errorText (some error)

/-- Sizes and digests of the deployment. -/
def wire : Protobuf where
  payloadBytes payload := if payload.schema.isNone then payload.value.length
    else 32 + payload.value.length
  unaryRequestBytes request := 128 + request.input.value.length
  operationRequestBytes request := 128 + request.input.value.length
  sourceOpenRequestBytes _ := 128
  workRequestBytes header frame :=
    64 + header.instanceId.length + header.sessionId.length + (frameText frame).length
  controlRequestBytes header _ := 256 + header.instanceId.length + header.sessionId.length
  workResponseBytes _ := 256
  controlResponseBytes _ := 512
  parsesAsJson value := !value.isEmpty
  equalSpecs a b := a == b
  equalScopes a b := a == b
  terminalDigest frame := some (digestOf (frameText frame))
  sideEffectClassReadOnly := 1
  sideEffectClassNonIdempotent := 3
  idempotencyModeNotSupported := 1
  idempotencyModeRequired := 3

-- ---------------------------------------------------------------------------
-- Configuration
-- ---------------------------------------------------------------------------

/-- The one schema of the deployment. -/
def schema : SchemaReference where
  messageId := 7
  typeName := text "xgc.Value"
  schemaVersion := 1
  schemaFingerprint := 99

/-- A payload of that schema. -/
def payload : Payload where
  schema := some schema
  encoding := .protobuf
  value := text "v"

/-- The resource of its one robot. -/
def scope : ScopeReference where
  kind := text "cell"
  key := digestOf (text "cell")
  attributes := [(text "name", text "one")]

/-- An endpoint that takes and returns the schema. -/
def endpoint (id : String) (mode : InteractionMode) : CapabilityEndpointContract where
  endpointId := text id
  interactionMode := mode
  inputSchema := some schema
  outputSchema := some schema
  sideEffectClass := 2
  idempotencyMode := 2
  defaultTimeoutMs := 1000
  maximumTimeoutMs := 5000
  limits :=
    { maximumRequestBytes := 64
      maximumResponseBytes := 64
      maximumConcurrency := 4
      maximumStreams := if mode = .streamSource then 4 else 0
      maximumStreamChunkBytes := if mode = .streamSource then 64 else 0
      maximumStreamChunkMessages := if mode = .streamSource then 8 else 0 }

/-- A contract with one endpoint of each mode. -/
def contract : CapabilityContract where
  capabilityId := text "robot.motion"
  contractVersion := 1
  contractDigest := digestOf (text "contract")
  endpoints := [endpoint "query" .unary, endpoint "move" .operation, endpoint "feed" .streamSource]

/-- The registration of the deployment. -/
def registration : RegisterRequest where
  instanceId := text "ari-" ++ hexDigits 32 1
  processGeneration := 1
  definitionId := text "robot"
  definitionDigest := digestOf (text "definition")
  softwareVersion := text "1.0.0"
  buildDigest := digestOf (text "build")
  manifestDigest := digestOf (text "manifest")
  bootstrapToken := text "token"
  sdkVersion := kClientVersion
  runtimeLinkProtocolVersion := kRuntimeLinkProtocolVersion
  supportedCapabilities := [contract]

/-- The instance spec of a revision. -/
def specOf (revision : Nat) : AdapterInstanceSpec where
  instanceId := registration.instanceId
  processGeneration := 1
  revision := revision
  specDigest := digestOf (decimal revision)
  scope := some scope
  configuration := some payload
  capabilities :=
    [{ capabilityId := contract.capabilityId
       contractVersion := contract.contractVersion
       contractDigest := contract.contractDigest
       enabledEndpointIds := [text "query", text "move", text "feed"] }]

/-- A client with that contract, its three Work handlers and `apply_instance_spec`. -/
def deployment : Env where
  config :=
    { runtimeTarget := text "unix:/run/xgc.sock"
      registration := registration
      initialSpec := specOf 1
      capabilities :=
        [{ contract := contract
           callbacks := { unary := true, operation := true, sourceOpen := true } }]
      dispatchWorkers := 2 }
  callbacks := { applyInstanceSpec := true }
  protobuf := wire

-- ---------------------------------------------------------------------------
-- Frames of the Host
-- ---------------------------------------------------------------------------

/-- The header of the Host's frame with this sequence on the pair of `epoch`. -/
def hostHeader (epoch sequence : Nat) : SessionHeader where
  instanceId := registration.instanceId
  sessionId := text "session"
  processGeneration := 1
  sessionGeneration := 1
  runtimeEpoch := 1
  connectionEpoch := epoch
  frameSequence := sequence

/-- The context of a request under the given spec revision. -/
def context (workId endpointId : String) (revision : Nat) : WorkContext where
  workId := text workId
  capabilityId := contract.capabilityId
  endpointId := text endpointId
  contractVersion := contract.contractVersion
  contractDigest := contract.contractDigest
  specRevision := revision
  requestDigest := digestOf (text "request")
  subject := some scope

/-- A unary request for the endpoint of that mode. -/
def unaryFrame (workId : String) (revision : Nat := 1) : HostWork :=
  .unaryRequest { context := context workId "query" revision, input := payload }

/-- A request for its operation. -/
def operationRequestFrame (workId : String) (revision : Nat := 1) : HostWork :=
  .operationRequest { context := context workId "move" revision, input := payload }

/-- A request for its source, with credit. -/
def sourceOpenRequestFrame (workId : String) (revision : Nat := 1) : HostWork :=
  .sourceOpenRequest
    { context := context workId "feed" revision, initialCredit := some ⟨4, 64⟩ }

/-- The result of a query that succeeds, and the terminal it leads to. -/
def answered : UnaryResult := { succeeded := true, output := payload }

/-- The answer of the handler to a unary request. -/
def answer (workId : String) : WorkFrame := unaryTerminal (text workId) answered

/-- The exact acknowledgement of a Work terminal. -/
def acknowledgement (workId : String) (terminal : WorkFrame) : HostWork :=
  .terminalAcknowledgement
    { identity := .workId (text workId), terminalDigest := digestOf (frameText terminal) }

/-- Credit for a source, with the last sequence the Host has taken. -/
def creditFrame (streamId : String) (acknowledged messages bytes : Nat) : HostWork :=
  .sourceCredit
    { streamId := text streamId
      acknowledgedSequence := acknowledged
      grant := some ⟨messages, bytes⟩ }

/-- The steps of a reader that takes one frame up to the section it handles. -/
def receiveWork (epoch sequence : Nat) (frame : HostWork) : List Action :=
  [.workReader (.tick 0), .workReader (.received ⟨hostHeader epoch sequence, frame⟩),
    .workReader (.tick 0)]

/-- The whole turn of the Work reader for one frame: the section that handles
it, and one follow-up. -/
def hostFrame (epoch sequence : Nat) (frame : HostWork) : List Action :=
  receiveWork epoch sequence frame ++ [.workReader (.tick 0), .workReader (.tick 0)]

/-- The turn of the Control reader up to the first section of a transaction. -/
def receiveSpec (epoch sequence revision : Nat) : List Action :=
  [.controlReader (.tick 0),
    .controlReader (.received ⟨hostHeader epoch sequence, .instanceSpec (specOf revision)⟩),
    .controlReader (.tick 0), .controlReader (.tick 0)]

/-- `n` steps of a worker without input. -/
def worker (i n : Nat) : List Action := List.replicate n (.worker i (.tick 0))

/-- A worker takes a query and runs it up to its commit section. -/
def runQuery (i : Nat) : List Action :=
  worker i 4 ++ .worker i (.unaryOutcome (.value answered)) :: worker i 1

/-- The Host opens a source on the first pair, and the first worker accepts it. -/
def openFeed (sequence : Nat) (streamId : String) : List Action :=
  hostFrame 1 sequence (sourceOpenRequestFrame streamId) ++ worker 0 4 ++
    .worker 0 (.sourceOutcome (.value { accepted := true })) :: worker 0 3

-- ---------------------------------------------------------------------------
-- Bring-up
-- ---------------------------------------------------------------------------

/-- The Host accepts the registration. -/
def registered : RegisterResponse where
  accepted := true
  hostId := text "host"
  sessionId := text "session"
  processGeneration := 1
  sessionGeneration := 1
  runtimeEpoch := 1
  runtimeLinkProtocolVersion := kRuntimeLinkProtocolVersion
  heartbeatIntervalMs := 1000
  maximumControlFrameBytes := 4096
  maximumWorkFrameBytes := 4096

/-- `Start`, registration and the preparation of the first pair. -/
def register : List Action :=
  [.start, .startThreads, .supervisor .tick, .supervisor (.registered (some registered) []),
    .supervisor .tick, .supervisor .tick, .supervisor .tick]

/-- A transaction from its first section to the queued result. `stopped` is the
number of bindings and sources the deactivation goes through. -/
def transaction (stopped : Nat) : List Action :=
  List.replicate (10 + stopped) (.controlReader (.tick 0)) ++
    .controlReader (.callback (.returned true [])) :: List.replicate 6 (.controlReader (.tick 0))

/-- The Control writer writes one frame. -/
def writeControl : List Action := [.controlWriter .tick, .controlWriter (.wrote true)]

/-- The gate opens, and the Work stream opens and attaches. -/
def attachWork : List Action :=
  [.controlWriter .tick, .supervisor .tick, .workReader (.opened true), .workWriter .tick,
    .workWriter (.wrote true), .workWriter .tick]

/-- From construction to a ready first pair with spec revision 1. -/
def bringUp : List Action :=
  register ++ .controlReader (.opened true) :: receiveSpec 1 1 1 ++ transaction 0 ++
    writeControl ++ attachWork

-- ---------------------------------------------------------------------------
-- Pair replacement
-- ---------------------------------------------------------------------------

/-- A heartbeat cannot be written, and the pair fails. -/
def failPair : List Action :=
  [.controlWriter (.heartbeat 0), .controlWriter (.wrote false), .controlWriter .tick]

/-- The streams of a failed pair end and are joined. -/
def joinPair : List Action :=
  [.supervisor .tick,
    .controlReader (.tick 0), .controlReader .readFailed, .controlReader (.status .ok),
    .controlReader (.tick 0), .controlReader (.tick 0), .supervisor .tick,
    .workWriter .tick, .workReader (.tick 0), .workReader .readFailed,
    .workReader (.status .ok), .workReader (.tick 0), .workReader (.tick 0), .supervisor .tick]

/-- The failed pair of a committed spec is replaced by a ready pair of `epoch`. -/
def replacePair (epoch : Nat) : List Action :=
  joinPair ++ List.replicate 13 (.supervisor .tick) ++
    .controlReader (.opened true) :: receiveSpec epoch 1 1 ++
    [.controlReader (.tick 0), .controlReader (.tick 0)] ++ writeControl ++ attachWork

end AdapterRuntime.Model.Deployment
