import AdapterRuntime.Model.Client

/-!
# AdapterRuntime — bounded queues, fencing and the terminal ledger

The functions of `queue.cpp`, each one locked section (or a part of one), and
the lock-held helpers other files share: cancellation of all active work and
the session-failure signals. A function of the source that returns a value and
mutates the client returns the pair.
-/

namespace AdapterRuntime.Model

open AdapterRuntime.Lib

-- ---------------------------------------------------------------------------
-- Fencing
-- ---------------------------------------------------------------------------

/-- `StampHeaderLocked`. -/
def stampHeader (env : Env) (fence : SessionFence) (connectionEpoch sequence : Nat) :
    SessionHeader where
  instanceId := env.config.registration.instanceId
  sessionId := fence.sessionId
  processGeneration := env.config.registration.processGeneration
  sessionGeneration := fence.sessionGeneration
  runtimeEpoch := fence.runtimeEpoch
  connectionEpoch := connectionEpoch
  frameSequence := sequence

/-- The check of `ValidateHeaderLocked` against the previous sequence. -/
def validateHeader (env : Env) (header : SessionHeader) (fence : SessionFence)
    (previousSequence : Nat) : Except Text Unit :=
  if header.instanceId != env.config.registration.instanceId ||
      header.sessionId != fence.sessionId ||
      header.processGeneration != env.config.registration.processGeneration ||
      header.sessionGeneration != fence.sessionGeneration ||
      header.runtimeEpoch != fence.runtimeEpoch ||
      header.connectionEpoch != fence.connectionEpoch then
    .error (text "identity/generation/epoch mismatch")
  else if header.frameSequence == 0 || header.frameSequence ≤ previousSequence then
    .error (text "frame_sequence is zero or non-monotonic")
  else .ok ()

namespace Client

/-- The fence rebuilt from the members, as the byte preflights do. -/
def memberFence (c : Client) : SessionFence where
  sessionId := c.session.sessionId
  sessionGeneration := c.session.sessionGeneration
  runtimeEpoch := c.session.runtimeEpoch

/-- `ValidateWorkHeader`: the error, or the client with the sequence advanced. -/
def validateWorkHeader (env : Env) (c : Client) (header : SessionHeader) (fence : SessionFence) :
    Except Text Client :=
  match validateHeader env header fence c.session.workInSequence with
  | .error e => .error e
  | .ok () => .ok { c with session := { c.session with workInSequence := header.frameSequence } }

/-- `ValidateControlHeader`. -/
def validateControlHeader (env : Env) (c : Client) (header : SessionHeader)
    (fence : SessionFence) : Except Text Client :=
  match validateHeader env header fence c.session.controlInSequence with
  | .error e => .error e
  | .ok () =>
    .ok { c with session := { c.session with controlInSequence := header.frameSequence } }

-- ---------------------------------------------------------------------------
-- Outbound queues
-- ---------------------------------------------------------------------------

/-- `WorkFrameBytesLocked`: the size with a worst-case header. -/
def workFrameBytes (env : Env) (c : Client) (frame : WorkFrame) : Nat :=
  env.protobuf.workRequestBytes
    (stampHeader env c.memberFence c.session.connectionEpochCounter sizeMax) frame

/-- `ControlFrameBytesLocked`. -/
def controlFrameBytes (env : Env) (c : Client) (frame : ControlFrame) : Nat :=
  env.protobuf.controlRequestBytes
    (stampHeader env c.memberFence c.session.connectionEpochCounter sizeMax) frame

/-- `session_id_.empty() || session_failed_ || stop_requested_`. -/
def sessionClosed (c : Client) : Bool :=
  c.session.sessionId.isEmpty || c.flags.sessionFailed || c.flags.stopRequested

/-- The entry or byte bound of the Work queue refuses a frame of this size. -/
def workQueueFull (env : Env) (c : Client) (frameBytes : Nat) : Bool :=
  env.config.maximumWorkQueue ≤ c.queues.work.length ||
    !fitsByteBudget c.queues.workBytes frameBytes env.config.maximumWorkQueueBytes

/-- The entry or byte bound of the Control queue refuses a frame of this size. -/
def controlQueueFull (env : Env) (c : Client) (frameBytes : Nat) : Bool :=
  env.config.maximumControlQueue ≤ c.queues.control.length ||
    !fitsByteBudget c.queues.controlBytes frameBytes env.config.maximumControlQueueBytes

/-- `++dropped_outbound_frames_`. -/
def countDropped (c : Client) : Client :=
  { c with
    queues := { c.queues with droppedOutboundFrames := c.queues.droppedOutboundFrames + 1 } }

/-- `++rejected_dispatches_`. -/
def countRejected (c : Client) : Client :=
  { c with queues := { c.queues with rejectedDispatches := c.queues.rejectedDispatches + 1 } }

/-- Appends a frame to the Work queue and charges its bytes. -/
def pushWork (c : Client) (owner : Option CancellationId) (frame : WorkFrame)
    (frameBytes : Nat) : Client :=
  { c with
    queues := { c.queues with
      work := c.queues.work ++ [⟨frame, frameBytes⟩]
      workBytes := c.queues.workBytes + frameBytes }
    history := .enqueued owner frame :: c.history }

/-- `QueueWorkLocked`. `owner` only labels the ghost event. -/
def queueWorkLocked (env : Env) (c : Client) (owner : Option CancellationId)
    (frame : WorkFrame) : Bool × Client :=
  let frameBytes := c.workFrameBytes env frame
  if c.sessionClosed || c.workQueueFull env frameBytes ||
      c.session.maximumWorkFrameBytes < frameBytes then
    (false, if c.workQueueFull env frameBytes then c.countDropped else c)
  else (true, c.pushWork owner frame frameBytes)

/-- `QueueControlLocked`. -/
def queueControlLocked (env : Env) (c : Client) (frame : ControlFrame) : Bool × Client :=
  let frameBytes := c.controlFrameBytes env frame
  if c.sessionClosed || c.controlQueueFull env frameBytes ||
      c.session.maximumControlFrameBytes < frameBytes then
    (false, if c.controlQueueFull env frameBytes then c.countDropped else c)
  else
    (true,
      { c with queues := { c.queues with
          control := c.queues.control ++ [⟨frame, frameBytes⟩]
          controlBytes := c.queues.controlBytes + frameBytes } })

/-- `WorkFrameFitsLocked`. -/
def workFrameFits (env : Env) (c : Client) (frame : WorkFrame) : Bool :=
  c.session.maximumWorkFrameBytes != 0 &&
    c.workFrameBytes env frame ≤ c.session.maximumWorkFrameBytes

end Client

-- ---------------------------------------------------------------------------
-- Terminal ledger
-- ---------------------------------------------------------------------------

namespace Tables

/-- The reservation a commit of `job` converts: that of the token of its work
id, when the token is the job's own and carries one. -/
def convertedReservation (t : Tables) (job : DispatchJob) : Option Nat :=
  match t.workTokens.lookup job.workId with
  | some token =>
    if job.cancellation = some token.cancellation ∧ token.terminalReservationBytes ≠ 0 then
      some token.terminalReservationBytes
    else none
  | none => none

/-- `ReleaseWorkTokenLocked`. -/
def releaseWorkToken (t : Tables) (workId : Text) : Tables :=
  match t.workTokens.lookup workId with
  | none => t
  | some token =>
    { t with
      terminalReplayBytes :=
        if token.terminalReservationBytes ≤ t.terminalReplayBytes then
          t.terminalReplayBytes - token.terminalReservationBytes
        else 0
      workTokens := t.workTokens.erase workId }

/-- `while (!work_tokens_.empty()) ReleaseWorkTokenLocked(work_tokens_.begin()->first)`. -/
def releaseAllWorkTokens (t : Tables) : Tables :=
  t.workTokens.keys.foldl releaseWorkToken t

/-- `RememberReplayLocked`. -/
def rememberReplay (t : Tables) (workId : Text) (entry : ReplayEntry) : Tables :=
  let before :=
    match t.replay.lookup workId with
    | some previous => t.terminalReplayBytes - previous.accountedBytes
    | none => t.terminalReplayBytes
  { t with
    terminalReplayBytes := before + entry.accountedBytes
    replay := t.replay.insert workId entry }

/-- The number of identities that hold a terminal or a reservation. -/
def retainedIdentities (t : Tables) : Nat :=
  Store.size t.replay + Store.size t.workTokens

end Tables

/-- The size a reservation or an entry accounts for: `std::size_t` addition. -/
def sizeAdd (a b : Nat) : Nat := (a + b) % (sizeMax + 1)

/-- `ReserveTerminalReplayLocked`: the reservation, when one can be made. -/
def reserveTerminalReplay (env : Env) (c : Client) (job : DispatchJob) : Option Nat :=
  if job.workId.isEmpty ∨ env.config.maximumTerminalReplay ≤ c.tables.retainedIdentities then none
  else
    let metadataBytes := sizeAdd job.fingerprint.length kCanonicalSha256TextBytes
    if c.session.maximumWorkFrameBytes > sizeMax - metadataBytes then none
    else
      let reservation := c.session.maximumWorkFrameBytes + metadataBytes
      if fitsByteBudget c.tables.terminalReplayBytes reservation
          env.config.maximumTerminalReplayBytes then some reservation
      else none

/-- The frame carries the terminal of a job of this kind. -/
def carriesTerminalOf : DispatchKind → WorkFrame → Bool
  | .unary, .unaryResponse _ => true
  | .operation, .operationEvent _ => true
  | _, _ => false

/-- The entry a commit would retain: `none` when the frame carries no terminal
of the job's kind or cannot be digested. -/
def replayEntryOf (env : Env) (job : DispatchJob) (frame : WorkFrame) (frameBytes : Nat) :
    Option ReplayEntry :=
  if carriesTerminalOf job.kind frame then
    match env.protobuf.terminalDigest frame with
    | some digest =>
      some
        { kind := job.kind
          fingerprint := job.fingerprint
          terminal := frame
          terminalDigest := digest
          accountedBytes := sizeAdd (sizeAdd frameBytes job.fingerprint.length) digest.length }
    | none => none
  else none

namespace Client

/-- The ledger checks of `CommitTerminalFrame` for an entry that is ready to be
retained: no previous terminal, a covered reservation, room in both budgets. -/
def ledgerAdmits (env : Env) (c : Client) (job : DispatchJob) (entry : ReplayEntry) : Bool :=
  let t := c.tables
  let reservation := (t.convertedReservation job).getD 0
  (t.replay.lookup job.workId).isNone && reservation ≤ t.terminalReplayBytes &&
    ((t.convertedReservation job).isSome ||
      t.retainedIdentities < env.config.maximumTerminalReplay) &&
    fitsByteBudget (t.terminalReplayBytes - reservation) entry.accountedBytes
      env.config.maximumTerminalReplayBytes

/-- The tables after a commit: the reservation is given back, the token erased
when it was converted, and the entry remembered. -/
def retainTerminal (c : Client) (job : DispatchJob) (entry : ReplayEntry) : Tables :=
  let t := c.tables
  match t.convertedReservation job with
  | some reservation =>
    { t with
      terminalReplayBytes := t.terminalReplayBytes - reservation
      workTokens := t.workTokens.erase job.workId }.rememberReplay job.workId entry
  | none => t.rememberReplay job.workId entry

/-- `CommitTerminalFrame`. -/
def commitTerminalFrame (env : Env) (c : Client) (job : DispatchJob) (frame : WorkFrame) :
    TerminalCommitResult × Client :=
  let frameBytes := c.workFrameBytes env frame
  if c.session.maximumWorkFrameBytes < frameBytes then (.tooLarge, c)
  else if c.sessionClosed || c.workQueueFull env frameBytes then
    (.unavailable, if c.workQueueFull env frameBytes then c.countDropped else c)
  else
    match replayEntryOf env job frame frameBytes with
    | none => (.unavailable, c)
    | some entry =>
      if c.ledgerAdmits env job entry then
        (.committed,
          { c with
            tables := c.retainTerminal job entry
            history := .retained job.cancellation job.workId :: c.history }.pushWork
              job.cancellation frame frameBytes)
      else (.unavailable, c)

-- ---------------------------------------------------------------------------
-- Cancellation and failure signals
-- ---------------------------------------------------------------------------

/-- `CancelAllWorkLocked`. -/
def cancelAllWork (c : Client) : Client :=
  { c with
    requested := fun id =>
      c.requested id || c.tables.workTokens.entries.any (fun e => e.2.cancellation == id) ||
        c.tables.sourceStreams.entries.any fun e => e.2.cancellation == id }

/-- `requested.store(true)`. -/
def request (c : Client) (id : CancellationId) : Client :=
  { c with requested := fun i => i == id || c.requested i }

/-- The locked section of `SignalSessionFailure`. -/
def signalSessionFailure (c : Client) (expectedSession reason : Text) : Client :=
  if c.session.sessionId ≠ expectedSession ∨ c.flags.stopRequested ∨ c.flags.sessionFailed then c
  else
    { c with flags := { c.flags with
        sessionFailed := true
        acceptingWork := false
        state := .reconnecting
        lastError := reason } }.cancelAllWork

/-- The locked section of `SignalTerminalSessionFailure`. -/
def signalTerminalSessionFailure (c : Client) (expectedSession reason : Text) : Client :=
  if c.session.sessionId ≠ expectedSession ∨ c.flags.stopRequested then c
  else
    { c with flags := { c.flags with
        terminalSessionFailure := true
        terminalSessionError := reason
        sessionFailed := true
        acceptingWork := false
        lastError := reason } }.cancelAllWork

end Client

-- ---------------------------------------------------------------------------
-- Capability lookup
-- ---------------------------------------------------------------------------

/-- `FindActiveEndpointLocked`: the binding index, the grant and the endpoint. -/
def findActiveEndpoint (env : Env) (c : Client) (capabilityId endpointId : Text) :
    Option (Nat × EnabledCapability × CapabilityEndpointContract) :=
  match c.spec.activeCapabilities.lookup capabilityId with
  | none => none
  | some active =>
    if active.grant.enabledEndpointIds.contains endpointId then
      match env.binding? active.bindingIndex with
      | none => none
      | some binding =>
        (findEndpoint binding.contract endpointId).map fun endpoint =>
          (active.bindingIndex, active.grant, endpoint)
    else none

/-- `CountSourceStreamsLocked`. -/
def countSourceStreams (c : Client) (capabilityId endpointId : Text) : Nat :=
  (c.tables.sourceStreams.entries.filter fun e =>
    e.2.request.context.capabilityId == capabilityId &&
      e.2.request.context.endpointId == endpointId).length

end AdapterRuntime.Model
