import AdapterRuntime.Lib.Store
import AdapterRuntime.Model.Config

/-!
# AdapterRuntime — the members of `Client::Impl`

`Client` holds the members that `mutex_` protects, grouped by concern. Two
things are added to what the source has:

* `requested` and `nextCancellation` are the heap of `CancellationState`
  objects: a `shared_ptr<CancellationState>` is a number, allocated in
  increasing order, and `requested` is its atomic flag;
* `history` and `trace` are ghost logs of the Work plane and of the Control
  plane with the application callbacks, newest event first. No function reads
  them.

Machine words are natural numbers. Where a size computation of the source can
wrap, the wrap is written out; sequence counters are unbounded.
-/

namespace AdapterRuntime.Model

open AdapterRuntime.Lib

/-- `ClientState`. -/
inductive ClientState
  | stopped | connecting | registered | applyingSpec | ready | draining | reconnecting
  | sessionLost | stopping
  deriving DecidableEq

/-- `SourceWriteResult`. -/
inductive SourceWriteResult
  | accepted | notReady | unknownStream | noCredit | queueFull | tooLarge
  deriving DecidableEq

/-- The kind of a dispatch job: which handler it is for. -/
inductive DispatchKind
  | unary | operation | sourceOpen
  deriving DecidableEq

/-- `TerminalCommitResult`. -/
inductive TerminalCommitResult
  | committed | tooLarge | unavailable
  deriving DecidableEq

/-- The identity of a `CancellationState` object. -/
abbrev CancellationId := Nat

/-- `DispatchJob`: a request of the Host on its way to a handler. -/
structure DispatchJob where
  kind : DispatchKind := .unary
  workId : Text := []
  fingerprint : Text := []
  unary : UnaryRequest := {}
  operation : OperationRequest := {}
  sourceOpen : SourceOpenRequest := {}
  inboundFrameSequence : Nat := 0
  connectionEpoch : Nat := 0
  accountedBytes : Nat := 0
  terminalReservationBytes : Nat := 0
  cancellation : Option CancellationId := none
  deriving DecidableEq

/-- `WorkTokenState`: what is known of an admitted request until its terminal is committed. -/
structure WorkTokenState where
  cancellation : CancellationId
  terminalReservationBytes : Nat := 0
  deriving DecidableEq

/-- `terminal` is the `unary` or `operation` message of the entry, as the frame
that carries it. -/
structure ReplayEntry where
  kind : DispatchKind
  fingerprint : Text
  terminal : WorkFrame
  terminalDigest : Text
  accountedBytes : Nat
  deriving DecidableEq

/-- A source is being opened, or the Host has been told that it is open. -/
inductive SourcePhase
  | opening | opened
  deriving DecidableEq

/-- `SourceState`: a live source with its credit and its share of the byte budget. -/
structure SourceState where
  request : SourceOpenRequest := {}
  bindingIndex : Nat := 0
  cancellation : CancellationId
  phase : SourcePhase := .opening
  connectionEpoch : Nat := 0
  messageCredit : Nat := 0
  byteCredit : Nat := 0
  sequence : Nat := 0
  acknowledgedSequence : Nat := 0
  maximumChunkBytes : Nat := 0
  maximumChunkMessages : Nat := 0
  accountedBytes : Nat := 0
  deriving DecidableEq

/-- `ClosedSourceState`: what is left of a source until the Host acknowledges its end. -/
structure ClosedSourceState where
  connectionEpoch : Nat
  finalSequence : Nat
  acknowledgedSequence : Nat
  fingerprint : Text
  terminalDigest : Text
  terminalFrame : WorkFrame
  accountedBytes : Nat
  deriving DecidableEq

/-- `QueuedWorkFrame`. -/
structure QueuedWorkFrame where
  request : WorkFrame
  accountedBytes : Nat
  deriving DecidableEq

/-- `QueuedControlFrame`. -/
structure QueuedControlFrame where
  request : ControlFrame
  accountedBytes : Nat
  deriving DecidableEq

/-- `ActiveCapability`: a grant of the committed spec and the binding it resolves to. -/
structure ActiveCapability where
  bindingIndex : Nat
  grant : EnabledCapability
  deriving DecidableEq

/-- `SessionFence`. -/
structure SessionFence where
  hostId : Text := []
  sessionId : Text := []
  sessionGeneration : Nat := 0
  runtimeEpoch : Nat := 0
  runtimeLinkProtocolVersion : Nat := 0
  heartbeatIntervalMs : Nat := 1000
  maximumControlFrameBytes : Nat := 0
  maximumWorkFrameBytes : Nat := 0
  connectionEpoch : Nat := 0
  deriving DecidableEq

/-- The lifecycle flags and error texts. -/
structure Flags where
  state : ClientState := .stopped
  stopRequested : Bool := false
  sessionFailed : Bool := false
  acceptingWork : Bool := false
  drainRequested : Bool := false
  drainReported : Bool := false
  readyCallbacksComplete : Bool := false
  workAttachAllowed : Bool := false
  workAttachConnectionEpoch : Nat := 0
  pairReady : Bool := false
  terminalSessionFailure : Bool := false
  sessionLostReported : Bool := false
  registrationAttempted : Bool := false
  lastError : Text := []
  terminalSessionError : Text := []

/-- Identity, limits and counters of the registered session and its pair. -/
structure Session where
  hostId : Text := []
  sessionId : Text := []
  sessionGeneration : Nat := 0
  runtimeEpoch : Nat := 0
  runtimeLinkProtocolVersion : Nat := 0
  heartbeatIntervalMs : Nat := 0
  maximumControlFrameBytes : Nat := 0
  maximumWorkFrameBytes : Nat := 0
  connectionEpochCounter : Nat := 0
  controlOutSequence : Nat := 0
  workOutSequence : Nat := 0
  controlInSequence : Nat := 0
  workInSequence : Nat := 0

/-- The committed and the desired instance spec. `activeCapabilities` is the
`std::map` keyed by capability id, as its entries in insertion order;
`readyReturned` is ghost: the bindings whose `ready` callback of the committed
spec has returned. -/
structure SpecState where
  activeSpec : AdapterInstanceSpec := {}
  desiredSpec : AdapterInstanceSpec := {}
  specRevision : Nat := 0
  specDigest : Text := []
  activeCapabilities : Store Text ActiveCapability := ∅
  capabilityStatuses : List CapabilityStatus := []
  readyReturned : List Nat := []

/-- The four identity tables and their two byte ledgers. -/
structure Tables where
  workTokens : Store Text WorkTokenState := ∅
  replay : Store Text ReplayEntry := ∅
  terminalReplayBytes : Nat := 0
  sourceStreams : Store Text SourceState := ∅
  closedSources : Store Text ClosedSourceState := ∅
  sourceStateBytes : Nat := 0

/-- The bounded queues with their byte counters, and the dispatch counters. -/
structure Queues where
  control : List QueuedControlFrame := []
  controlBytes : Nat := 0
  work : List QueuedWorkFrame := []
  workBytes : Nat := 0
  dispatch : List DispatchJob := []
  dispatchBytes : Nat := 0
  inFlightWork : Nat := 0
  activeDispatchJobs : Nat := 0
  rejectedDispatches : Nat := 0
  droppedOutboundFrames : Nat := 0

/-- `UnaryResult`. -/
structure UnaryResult where
  succeeded : Bool := false
  output : Payload := {}
  error : AdapterError := {}

/-- `OperationResult`. -/
structure OperationResult where
  phase : OperationPhase := .succeeded
  hasOutput : Bool := false
  output : Payload := {}
  error : AdapterError := {}
  nativeCode : Int := 0

/-- `SourceOpenDecision`. -/
structure SourceOpenDecision where
  accepted : Bool := false
  hasInitialPayload : Bool := false
  initialPayload : Payload := {}
  error : AdapterError := {}

/-- What a handler returned, or what an exception of it was turned into. -/
inductive HandlerResult
  | unary (result : UnaryResult)
  | operation (result : OperationResult)
  | sourceOpen (decision : SourceOpenDecision)

/-- Ghost events of the Work plane. `id` is the `CancellationState` of the job
or source instance the event belongs to. -/
inductive WorkEvent
  /-- A unary or operation job entered the dispatch queue. -/
  | admitted (id : CancellationId) (kind : DispatchKind) (workId digest : Text)
  /-- A source instance entered `source_streams_`. -/
  | sourceAdmitted (id : CancellationId) (streamId : Text)
  /-- A handler was invoked. -/
  | started (id : CancellationId) (kind : DispatchKind) (workId digest : Text)
  /-- A handler returned or threw. -/
  | returned (id : CancellationId) (kind : DispatchKind) (workId digest : Text)
      (result : HandlerResult)
  /-- A frame entered the Work queue. -/
  | enqueued (owner : Option CancellationId) (frame : WorkFrame)
  /-- A terminal was retained in `replay_`. -/
  | retained (owner : Option CancellationId) (workId : Text)
  /-- An exact acknowledgement released the retained Work terminal. -/
  | acknowledged (workId : Text)
  /-- The Host's grant was added to a source's credit. -/
  | granted (id : CancellationId) (messages bytes : Nat)
  /-- A Host cancellation named an active source of the current epoch. -/
  | sourceCancelled (id : CancellationId)

/-- Ghost events of the Control plane and the application lifecycle. The two `Skipped`
events record that a transaction passed a callback the application did not bind. -/
inductive LifecycleEvent
  | registerSent
  | controlOpened (epoch : Nat)
  | workOpened (epoch : Nat)
  | controlWritten (epoch : Nat) (header : SessionHeader) (frame : ControlFrame)
  | workWritten (epoch : Nat) (header : SessionHeader) (frame : WorkFrame)
  | applyCalled (spec : AdapterInstanceSpec) (ok : Bool)
  | applySkipped (spec : AdapterInstanceSpec)
  | startCalled (binding : Nat) (ok : Bool)
  | startSkipped (binding : Nat)
  | readyCalled (binding : Nat) (ok : Bool)
  | stopCalled (binding : Nat)
  | clearCalled
  | specCommitted (spec : AdapterInstanceSpec)
  | sourceClosedCalled (source : CancellationId) (error : AdapterError)
  | stopRequestedCalled
  | sessionLostCalled

/-- The members protected by `mutex_`, the state of `transition_mutex_` and the
ghost logs. -/
structure Client where
  flags : Flags := {}
  session : Session := {}
  spec : SpecState := {}
  tables : Tables := {}
  queues : Queues := {}
  requested : CancellationId → Bool := fun _ => false
  nextCancellation : CancellationId := 0
  history : List WorkEvent := []
  transitionLocked : Bool := false
  trace : List LifecycleEvent := []

end AdapterRuntime.Model
