import AdapterRuntime.Model.Spec

/-!
# AdapterRuntime — the sections of session supervision

The locked sections of `session.cpp`, `session_state.cpp`, `control.cpp` and
`work.cpp`: installing a session, preparing and retiring a connection pair,
the attach gate, and the reset functions. Their lists of fields overlap but
differ; each is written out as the source has it.
-/

namespace AdapterRuntime.Model

open AdapterRuntime.Lib

namespace Client

/-- `InstallSession`. -/
def installSession (env : Env) (c : Client) (fence : SessionFence) : Client :=
  { c with
    flags := { c.flags with
      sessionFailed := false
      acceptingWork := false
      drainRequested := false
      drainReported := false
      readyCallbacksComplete := false
      state := .registered }
    session :=
      { hostId := fence.hostId
        sessionId := fence.sessionId
        sessionGeneration := fence.sessionGeneration
        runtimeEpoch := fence.runtimeEpoch
        runtimeLinkProtocolVersion := fence.runtimeLinkProtocolVersion
        heartbeatIntervalMs := fence.heartbeatIntervalMs
        maximumControlFrameBytes := fence.maximumControlFrameBytes
        maximumWorkFrameBytes := fence.maximumWorkFrameBytes
        connectionEpochCounter := fence.connectionEpoch }
    spec := { c.spec with
      desiredSpec := env.config.initialSpec
      capabilityStatuses := env.disabledCapabilityStatuses }
    queues := { c.queues with
      control := [], work := [], dispatch := []
      controlBytes := 0, workBytes := 0, dispatchBytes := 0 }
    tables := { c.tables with sourceStreams := ∅, closedSources := ∅, sourceStateBytes := 0 } }

/-- Clears the three queues and their byte counters. -/
def clearQueues (c : Client) : Client :=
  { c with queues := { c.queues with
      control := [], work := [], dispatch := []
      controlBytes := 0, workBytes := 0, dispatchBytes := 0 } }

/-- Zeroes the four frame sequences. -/
def clearSequences (c : Client) : Client :=
  { c with session := { c.session with
      controlOutSequence := 0, workOutSequence := 0, controlInSequence := 0, workInSequence := 0 } }

/-- The release-all loop over `work_tokens_`. -/
def releaseAllWorkTokens (c : Client) : Client :=
  { c with tables := c.tables.releaseAllWorkTokens }

/-- `PrepareConnectionPairLocked`. -/
def prepareConnectionPair (c : Client) (fence : SessionFence) : Client :=
  let c := c.clearSequences.clearQueues.releaseAllWorkTokens
  { c with
    tables := { c.tables with closedSources := ∅, sourceStateBytes := 0 }
    flags := { c.flags with
      sessionFailed := false
      pairReady := false
      workAttachAllowed := false
      workAttachConnectionEpoch := 0
      acceptingWork := false
      drainRequested := false
      drainReported := false
      readyCallbacksComplete := c.spec.specRevision != 0
      state := if fence.connectionEpoch = 1 then .registered else .reconnecting } }

/-- The first section of `PreparePairReplacement`: the sources to notify, and
the client without them and without queued jobs. -/
def beginPairReplacement (c : Client) : List SourceState × Client :=
  let c := { c with flags := { c.flags with acceptingWork := false } }.cancelAllWork
  (inKeyOrder c.tables.sourceStreams,
   { c with
      tables := { c.tables with sourceStreams := ∅ }
      queues := { c.queues with dispatch := [], dispatchBytes := 0 } })

/-- The error `PreparePairReplacement` reports to the sources it drops. -/
def pairReplacedError (c : Client) : AdapterError :=
  makeError .cancelled (text "connection-pair-replaced")
    (if c.flags.stopRequested then text "Runtime Link stopped"
     else text "Runtime Link connection pair was replaced")

/-- `ClearConnectionStateLocked`. -/
def clearConnectionState (c : Client) : Client :=
  let c := c.clearQueues.releaseAllWorkTokens.clearSequences
  { c with flags := { c.flags with
      workAttachAllowed := false
      pairReady := false
      workAttachConnectionEpoch := 0
      sessionFailed := false
      acceptingWork := false
      drainRequested := false
      drainReported := false
      readyCallbacksComplete := c.spec.specRevision != 0 } }

/-- `ResetSessionLocked`. -/
def resetSession (env : Env) (c : Client) : Client :=
  let c := c.clearQueues.releaseAllWorkTokens
  { c with
    session := { c.session with
      hostId := []
      sessionId := []
      sessionGeneration := 0
      runtimeEpoch := 0
      runtimeLinkProtocolVersion := 0
      heartbeatIntervalMs := 0
      maximumControlFrameBytes := 0
      maximumWorkFrameBytes := 0
      connectionEpochCounter := 0 }
    spec := { capabilityStatuses := env.disabledCapabilityStatuses }
    tables := { c.tables with
      sourceStreams := ∅
      closedSources := ∅
      replay := ∅
      sourceStateBytes := 0
      terminalReplayBytes := 0 }
    flags := { c.flags with
      acceptingWork := false
      sessionFailed := false
      drainRequested := false
      drainReported := false
      readyCallbacksComplete := false
      workAttachAllowed := false
      pairReady := false
      workAttachConnectionEpoch := 0
      terminalSessionFailure := false
      terminalSessionError := [] } }

/-- The last section of `SupervisorLoop`. -/
def endSupervision (env : Env) (c : Client) : Client :=
  let c := c.resetSession env
  { c with flags := { c.flags with state := .stopped } }

/-- The last section of `Stop`. -/
def endStop (env : Env) (c : Client) : Client :=
  let c := c.endSupervision env
  let c :=
    { c with queues := { c.queues with dispatch := [] } }.releaseAllWorkTokens
  { c with tables := { c.tables with replay := ∅, terminalReplayBytes := 0 } }

/-- The second section of `Start`. -/
def beginStart (c : Client) : Client :=
  { c with
    flags := { c.flags with
      stopRequested := false
      sessionFailed := false
      terminalSessionFailure := false
      sessionLostReported := false
      state := .connecting
      lastError := []
      terminalSessionError := [] }
    tables := { c.tables with replay := ∅, terminalReplayBytes := 0 }
    queues := { c.queues with rejectedDispatches := 0, droppedOutboundFrames := 0 } }

/-- The locked section of `EnterSessionLost`; `none` when a stop was requested.
The flag says whether `session_lost` is to be reported. -/
def enterSessionLost (c : Client) (reason : Text) : Option (Bool × Client) :=
  if c.flags.stopRequested then none
  else
    some (!c.flags.sessionLostReported,
      { c with flags := { c.flags with
          terminalSessionFailure := true
          terminalSessionError := reason
          sessionFailed := true
          acceptingWork := false
          state := .sessionLost
          lastError := reason
          sessionLostReported := true } })

/-- The section of `SupervisorLoop` that moves to the next epoch. -/
def advanceEpoch (c : Client) : Client :=
  if c.session.connectionEpochCounter = sizeMax then
    { c with flags := { c.flags with
        terminalSessionFailure := true
        terminalSessionError := text "connection epoch is exhausted" } }
  else
    { c with
      session := { c.session with connectionEpochCounter := c.session.connectionEpochCounter + 1 }
      flags := { c.flags with state := .reconnecting } }

/-- The condition `SupervisorLoop` waits for before it looks at the gate. -/
def pairOver (c : Client) (fence : SessionFence) : Bool :=
  c.flags.stopRequested || c.flags.sessionFailed || c.flags.terminalSessionFailure ||
    c.session.sessionId != fence.sessionId

/-- The Work gate of a pair is open. -/
def attachAllowed (c : Client) (fence : SessionFence) : Bool :=
  c.flags.workAttachAllowed && c.flags.workAttachConnectionEpoch == fence.connectionEpoch

/-- The pair of this fence is still the live one. -/
def pairLive (c : Client) (fence : SessionFence) : Bool :=
  c.session.sessionId == fence.sessionId && !c.flags.sessionFailed && !c.flags.stopRequested

/-- The section of `ControlWriterLoop` that opens the gate after an applied
result has been written. -/
def openAttachGate (c : Client) (fence : SessionFence) : Client :=
  if c.pairLive fence && c.spec.specRevision != 0 && !c.spec.specDigest.isEmpty then
    { c with flags := { c.flags with
        workAttachAllowed := true, workAttachConnectionEpoch := fence.connectionEpoch } }
  else c

/-- The first section of `WorkWriterLoop`: the stamped `WorkAttach`, if the gate
is open. -/
def buildAttach (env : Env) (c : Client) (fence : SessionFence) :
    Option (SessionHeader × WorkFrame) × Client :=
  if c.attachAllowed fence && c.pairLive fence then
    let sequence := c.session.workOutSequence + 1
    (some (stampHeader env fence fence.connectionEpoch sequence,
        .attach c.spec.specRevision c.spec.specDigest),
      { c with session := { c.session with workOutSequence := sequence } })
  else (none, c)

/-- The section of `WorkWriterLoop` after the attach has been written. -/
def markReady (c : Client) (fence : SessionFence) : Client :=
  if c.pairLive fence && c.attachAllowed fence then
    { c with flags := { c.flags with
        acceptingWork := true
        state := .ready
        readyCallbacksComplete := true
        pairReady := true } }
  else c

/-- The dequeue section of `WorkWriterLoop`. -/
def dequeueWork (env : Env) (c : Client) (fence : SessionFence) :
    Option (SessionHeader × WorkFrame × Client) :=
  match c.queues.work with
  | [] => none
  | front :: rest =>
    let sequence := c.session.workOutSequence + 1
    some (stampHeader env fence fence.connectionEpoch sequence, front.request,
      { c with
        queues := { c.queues with
          work := rest, workBytes := c.queues.workBytes - front.accountedBytes }
        session := { c.session with workOutSequence := sequence } })

/-- The stamping part of the dequeue section of `ControlWriterLoop`. -/
def stampControl (env : Env) (c : Client) (fence : SessionFence) : SessionHeader × Client :=
  let sequence := c.session.controlOutSequence + 1
  (stampHeader env fence fence.connectionEpoch sequence,
    { c with session := { c.session with controlOutSequence := sequence } })

/-- The dequeue section of `ControlWriterLoop`. -/
def dequeueControl (c : Client) : Option (ControlFrame × Client) :=
  match c.queues.control with
  | [] => none
  | front :: rest =>
    some (front.request,
      { c with queues := { c.queues with
          control := rest, controlBytes := c.queues.controlBytes - front.accountedBytes } })

end Client

/-- `IsTerminalSessionStatus`, on the gRPC codes it tells apart. -/
inductive StreamStatus
  | ok | terminal | failed
  deriving DecidableEq

/-- `NextBackoff`: the doubling is 32-bit. -/
def nextBackoff (env : Env) (current : Nat) : Nat :=
  if env.config.reconnectMaxDelayMs ≤ current then env.config.reconnectMaxDelayMs
  else min env.config.reconnectMaxDelayMs (current * 2 % 2 ^ 32)

/-- The checks of `Register` on an accepted transport: the fence of the session,
or the error. -/
def checkRegisterResponse (env : Env) (r : RegisterResponse) : Except Text SessionFence :=
  let digestMetadataBytes := kCanonicalSha256TextBytes * 2
  if !r.accepted then
    .error (if r.errorMessage.isEmpty then text "Register was rejected" else r.errorMessage)
  else if r.hostId.isEmpty || r.sessionId.isEmpty ||
      r.processGeneration != env.config.registration.processGeneration ||
      r.sessionGeneration == 0 || r.runtimeEpoch == 0 then
    .error (text "Register omitted or mismatched session fencing")
  else if r.runtimeLinkProtocolVersion != kRuntimeLinkProtocolVersion then
    .error (text "Host did not select Runtime Link protocol version 2")
  else if r.maximumControlFrameBytes == 0 || r.maximumWorkFrameBytes == 0 then
    .error (text "Host omitted mandatory Control/Work frame limits")
  else if sizeMax - digestMetadataBytes < r.maximumWorkFrameBytes ||
      (sizeMax - digestMetadataBytes) / 2 < r.maximumWorkFrameBytes then
    .error (text "negotiated Work frame limit cannot be represented")
  else if env.config.maximumControlQueueBytes < r.maximumControlFrameBytes ||
      env.config.maximumWorkQueueBytes < r.maximumWorkFrameBytes ||
      env.config.maximumDispatchQueueBytes < r.maximumWorkFrameBytes ||
      env.config.maximumTerminalReplayBytes < r.maximumWorkFrameBytes + digestMetadataBytes ||
      env.config.maximumSourceStateBytes <
        r.maximumWorkFrameBytes * 2 + digestMetadataBytes then
    .error (text "configured byte budgets cannot hold one negotiated frame")
  else
    .ok
      { hostId := r.hostId
        sessionId := r.sessionId
        sessionGeneration := r.sessionGeneration
        runtimeEpoch := r.runtimeEpoch
        runtimeLinkProtocolVersion := r.runtimeLinkProtocolVersion
        heartbeatIntervalMs :=
          if r.heartbeatIntervalMs = 0 then 1000 else max 100 r.heartbeatIntervalMs
        maximumControlFrameBytes := r.maximumControlFrameBytes
        maximumWorkFrameBytes := r.maximumWorkFrameBytes
        connectionEpoch := 1 }

end AdapterRuntime.Model
