import AdapterRuntime.Lib.Machine
import AdapterRuntime.Model.Control

/-!
# AdapterRuntime — supervision and the whole system

`SupervisorLoop`, `Start` and `Stop`, and the machine in which all threads of
a client run. An action names the thread that moves and the input of its step;
the system adds what crosses threads: spawning, joining and the application's
calls.
-/

namespace AdapterRuntime.Model

open AdapterRuntime.Lib

-- ---------------------------------------------------------------------------
-- Supervisor
-- ---------------------------------------------------------------------------

/-- The locals of `SupervisorLoop` that live across pairs. -/
structure Supervision where
  fence : SessionFence
  reconnectDelay : Nat
  reconnectsUsed : Nat

/-- Where the supervisor continues after a deactivation. -/
inductive AfterDeactivation
  | sessionLost (reason : Text)
  | stopped

/-- The program counter of `SupervisorLoop`. -/
inductive SupervisorPc
  | notStarted
  | register
  | registerCall
  | registerFailed (reason : Text)
  | install (fence : SessionFence)
  | loop (r : Supervision)
  | prepare (r : Supervision)
  | awaitAttach (r : Supervision) (fence : SessionFence)
  | awaitFailure (r : Supervision) (fence : SessionFence)
  | joinControl (r : Supervision)
  | joinWork (r : Supervision)
  | replaceBegin (r : Supervision)
  | replaceWait (r : Supervision) (sources : List SourceState)
  | replaceRelease (r : Supervision) (sources : List SourceState)
  | replaceError (r : Supervision) (sources : List SourceState)
  | replaceNotify (r : Supervision) (sources : List SourceState) (error : AdapterError)
  | clear (r : Supervision)
  | checkStop (r : Supervision) (pairWasReady : Bool)
  | checkTerminal (r : Supervision) (pairWasReady : Bool)
  | lostTerminal
  | lostBudget
  | advance (r : Supervision)
  | checkEpoch (r : Supervision)
  | backOff (r : Supervision)
  | deactivating (reason : Text) (at_ : DeactivatePc) (after : AfterDeactivation)
  | enterLost (reason : Text)
  | reportLost
  | endSession
  | finished

/-- What the supervisor's step gets from outside: the answer to `Register`. -/
inductive SupervisorInput
  | tick
  | registered (response : Option RegisterResponse) (transportError : Text)

/-- `EnterSessionLost` and the last deactivation first take `transition_mutex_`. -/
def lockTransition (c : Client) (reason : Text) (after : AfterDeactivation) :
    Option (SupervisorPc × Client) :=
  if c.transitionLocked then none
  else some (.deactivating reason .locked after, { c with transitionLocked := true })

/-- The decision on the retry budget after a pair has ended. -/
def afterPair (env : Env) (r : Supervision) (pairWasReady : Bool) : SupervisorPc :=
  let r := if pairWasReady then
      { r with reconnectsUsed := 0, reconnectDelay := env.config.reconnectInitialDelayMs }
    else r
  if env.config.maximumPairReconnectAttempts ≤ r.reconnectsUsed then .lostBudget
  else .advance { r with reconnectsUsed := r.reconnectsUsed + 1 }

/-- One step of the supervisor. Spawning and joining are performed by the
system; `threadsJoined` is the condition of the two joins. -/
def supervisorStep (env : Env) (c : Client) (controlDone workDone : Bool) :
    SupervisorPc → SupervisorInput → Option (SupervisorPc × Client)
  | .register, .tick =>
    if c.flags.registrationAttempted then
      some (.registerFailed (text "Register is single-use for this process generation"), c)
    else if c.flags.stopRequested then
      some (.registerFailed (text "Register was cancelled before dispatch"), c)
    else
      some (.registerCall,
        { c with flags := { c.flags with registrationAttempted := true } }.log .registerSent)
  | .registerCall, .registered none transportError =>
    some (.registerFailed
      (if transportError.isEmpty then text "Register transport failed" else transportError), c)
  | .registerCall, .registered (some response) _ =>
    match checkRegisterResponse env response with
    | .error e => some (.registerFailed e, c)
    | .ok fence => some (.install fence, c)
  | .registerFailed reason, .tick =>
    if c.flags.stopRequested then some (.finished, c)
    else
      lockTransition c (text "registration failed: " ++ reason)
        (.sessionLost (text "registration failed: " ++ reason))
  | .install fence, .tick =>
    some (.loop ⟨fence, env.config.reconnectInitialDelayMs, 0⟩, c.installSession env fence)
  | .loop r, .tick =>
    if c.flags.stopRequested then
      lockTransition c (text "Runtime Link supervisor stopped") .stopped
    else some (.prepare r, c)
  | .prepare r, .tick =>
    let fence := { r.fence with connectionEpoch := c.session.connectionEpochCounter }
    some (.awaitAttach r fence, c.prepareConnectionPair fence)
  | .awaitAttach r fence, .tick =>
    if c.pairOver fence then some (.joinControl r, c)
    else if c.attachAllowed fence then some (.awaitFailure r fence, c)
    else none
  | .awaitFailure r fence, .tick => if c.pairOver fence then some (.joinControl r, c) else none
  | .joinControl r, .tick => if controlDone then some (.joinWork r, c) else none
  | .joinWork r, .tick => if workDone then some (.replaceBegin r, c) else none
  | .replaceBegin r, .tick =>
    let (sources, c') := c.beginPairReplacement
    some (.replaceWait r sources, c')
  | .replaceWait r sources, .tick =>
    if c.callbacksQuiet then some (.replaceRelease r sources, c) else none
  | .replaceRelease r sources, .tick => some (.replaceError r sources, c.releaseAllWorkTokens)
  | .replaceError r sources, .tick => some (.replaceNotify r sources c.pairReplacedError, c)
  | .replaceNotify r [] _, .tick => some (.clear r, c)
  | .replaceNotify r (source :: rest) error, .tick =>
    some (.replaceNotify r rest error, c.notifySourceClosed env source error)
  | .clear r, .tick => some (.checkStop r c.flags.pairReady, c.clearConnectionState)
  | .checkStop r wasReady, .tick =>
    if c.flags.stopRequested then
      lockTransition c (text "Runtime Link supervisor stopped") .stopped
    else some (.checkTerminal r wasReady, c)
  | .checkTerminal r wasReady, .tick =>
    if c.flags.terminalSessionFailure then some (.lostTerminal, c)
    else some (afterPair env r wasReady, c)
  | .lostTerminal, .tick =>
    lockTransition c c.flags.terminalSessionError (.sessionLost c.flags.terminalSessionError)
  | .lostBudget, .tick =>
    let reason := text "paired Runtime Link reconnect budget exhausted" ++
      (if c.flags.lastError.isEmpty then [] else text ": " ++ c.flags.lastError)
    lockTransition c reason (.sessionLost reason)
  | .advance r, .tick => some (.checkEpoch r, c.advanceEpoch)
  | .checkEpoch r, .tick =>
    if c.flags.terminalSessionFailure then
      lockTransition c (text "connection epoch is exhausted")
        (.sessionLost (text "connection epoch is exhausted"))
    else some (.backOff r, c)
  | .backOff r, .tick =>
    some (.loop { r with reconnectDelay := nextBackoff env r.reconnectDelay }, c)
  | .deactivating reason at_ after, .tick =>
    match deactivateStep env reason c at_ with
    | none => none
    | some (some next, c') => some (.deactivating reason next after, c')
    | some (none, c') =>
      some (match after with
        | .sessionLost reason => .enterLost reason
        | .stopped => .endSession, { c' with transitionLocked := false })
  | .enterLost reason, .tick =>
    match c.enterSessionLost reason with
    | none => some (.finished, c)
    | some (notify, c') => some (if notify then .reportLost else .finished, c')
  | .reportLost, .tick =>
    some (.finished, if env.callbacks.sessionLost then c.log .sessionLostCalled else c)
  | .endSession, .tick => some (.finished, c.endSupervision env)
  | _, _ => none

-- ---------------------------------------------------------------------------
-- Start and Stop
-- ---------------------------------------------------------------------------

/-- The program counter of the thread that called `Start`. -/
inductive StartPc
  | idle | validated | waiting
  deriving DecidableEq

/-- The program counter of the thread that called `Stop`. -/
inductive StopPc
  | idle
  | joinSupervisor
  | joinWorkers
  | lock
  | deactivating (at_ : DeactivatePc)
  | reset

-- ---------------------------------------------------------------------------
-- The system
-- ---------------------------------------------------------------------------

/-- A client with all its threads. `dispatchThreads` is the number of worker
threads created; worker `i` exists when `i < dispatchThreads`. -/
structure System where
  client : Client := {}
  workers : Nat → WorkerPc := fun _ => .notStarted
  dispatchThreads : Nat := 0
  workReader : WorkReaderPc := .notStarted
  workWriter : WorkWriterPc := .notStarted
  controlReader : ControlReaderPc := .notStarted
  controlWriter : ControlWriterPc := .notStarted
  supervisor : SupervisorPc := .notStarted
  starter : StartPc := .idle
  stopper : StopPc := .idle

/-- What can happen next. -/
inductive Action
  | start
  | startThreads
  | startReturns (timeout : Bool)
  | stop
  | stopper
  | publishSource (streamId : Text) (items : List Text)
  | closeSource (streamId : Text) (error : Option AdapterError)
  | worker (i : Nat) (input : WorkerInput)
  | workReader (input : ReaderInput WorkResponse)
  | workWriter (input : WriterInput)
  | controlReader (input : ReaderInput ControlResponse)
  | controlWriter (input : WriterInput)
  | supervisor (input : SupervisorInput)

namespace System

/-- Moves one worker to another point. -/
def setWorker (s : System) (i : Nat) (pc : WorkerPc) : System :=
  { s with workers := fun j => if j = i then pc else s.workers j }

/-- The Work writer, if it was ever started, has returned. -/
def workWriterDone (s : System) : Bool :=
  match s.workWriter with
  | .notStarted | .exited => true
  | _ => false

/-- The Control writer, if it was ever started, has returned. -/
def controlWriterDone (s : System) : Bool :=
  match s.controlWriter with
  | .notStarted | .exited => true
  | _ => false

/-- The Work reader, if it was ever started, has returned. -/
def workReaderDone (s : System) : Bool :=
  match s.workReader with
  | .notStarted | .exited => true
  | _ => false

/-- The Control reader, if it was ever started, has returned. -/
def controlReaderDone (s : System) : Bool :=
  match s.controlReader with
  | .notStarted | .exited => true
  | _ => false

/-- The client is stopped and none of its threads is joinable. -/
def fullyStopped (s : System) : Bool :=
  s.client.flags.state == .stopped && s.dispatchThreads == 0 &&
    match s.supervisor with
    | .notStarted => true
    | _ => false

/-- The first locked section of `Stop`. -/
def beginStop (s : System) : System :=
  if s.fullyStopped then s
  else { s with client := s.client.requestStop, stopper := .joinSupervisor }

/-- The predicate `Start` waits for, without the failure cases. -/
def startReady (s : System) : Bool :=
  s.client.flags.state == .ready && s.client.flags.readyCallbacksComplete &&
    s.client.flags.pairReady

/-- `Start` up to the end of `ValidateConfig`. -/
def startStep (env : Env) (s : System) : Option System :=
  match s.starter with
  | .idle =>
    if s.client.flags.registrationAttempted then none
    else
      match env.validateConfig with
      | .error _ => none
      | .ok () => some { s with starter := .validated }
  | _ => none

/-- The second section of `Start` and the creation of the threads. -/
def startThreadsStep (env : Env) (s : System) : Option System :=
  match s.starter, s.stopper with
  | .validated, .idle =>
    if !s.fullyStopped then some { s with starter := .idle }
    else
      some { s with
        client := s.client.beginStart
        workers := fun i => if i < env.config.dispatchWorkers then .idle else .notStarted
        dispatchThreads := env.config.dispatchWorkers
        supervisor := .register
        starter := .waiting }
  | _, _ => none

/-- `Start` wakes up: it returns, or it stops the client. -/
def startReturnsStep (s : System) (timeout : Bool) : Option System :=
  match s.starter, s.stopper with
  | .waiting, .idle =>
    if s.startReady then some { s with starter := .idle }
    else if timeout || s.client.flags.stopRequested || s.client.flags.state == .stopped ||
        s.client.flags.state == .sessionLost then
      some { s with starter := .idle }.beginStop
    else none
  | _, _ => none

/-- One step of `Stop` after its first section. -/
def stopperStep (env : Env) (s : System) : Option System :=
  match s.stopper with
  | .idle => none
  | .joinSupervisor =>
    match s.supervisor with
    | .notStarted | .finished => some { s with supervisor := .notStarted, stopper := .joinWorkers }
    | _ => none
  | .joinWorkers =>
    if (List.range s.dispatchThreads).all fun i =>
        match s.workers i with
        | .exited => true
        | _ => false then
      some { s with workers := fun _ => .notStarted, dispatchThreads := 0, stopper := .lock }
    else none
  | .lock =>
    if s.client.transitionLocked then none
    else
      some { s with
        client := { s.client with transitionLocked := true }, stopper := .deactivating .locked }
  | .deactivating at_ =>
    match deactivateStep env (text "client stopped") s.client at_ with
    | none => none
    | some (some next, c') => some { s with client := c', stopper := .deactivating next }
    | some (none, c') =>
      some { s with client := { c' with transitionLocked := false }, stopper := .reset }
  | .reset => some { s with client := s.client.endStop env, stopper := .idle }

/-- A step of worker `i`. -/
def workerAction (env : Env) (s : System) (i : Nat) (input : WorkerInput) : Option System :=
  (workerStep env s.client (s.workers i) input).map fun (pc, c') =>
    { s.setWorker i pc with client := c' }

/-- A step of the Work reader. It spawns the writer when the stream is open and
joins it before it reads the status. -/
def workReaderAction (env : Env) (s : System) (input : ReaderInput WorkResponse) :
    Option System :=
  match s.workReader, input with
  | .closing _, _ =>
    if s.workWriterDone then
      (workReaderStep env s.client s.workReader input).map fun (pc, c') =>
        { s with workReader := pc, client := c' }
    else none
  | .opening fence, .opened true =>
    (workReaderStep env s.client s.workReader input).map fun (pc, c') =>
      { s with workReader := pc, client := c', workWriter := .attach fence }
  | _, _ =>
    (workReaderStep env s.client s.workReader input).map fun (pc, c') =>
      { s with workReader := pc, client := c' }

/-- A step of the Control reader. -/
def controlReaderAction (env : Env) (s : System) (input : ReaderInput ControlResponse) :
    Option System :=
  match s.controlReader, input with
  | .closing _, _ =>
    if s.controlWriterDone then
      (controlReaderStep env s.client s.controlReader input).map fun (pc, c') =>
        { s with controlReader := pc, client := c' }
    else none
  | .opening fence, .opened true =>
    (controlReaderStep env s.client s.controlReader input).map fun (pc, c') =>
      { s with controlReader := pc, client := c', controlWriter := .loop fence }
  | _, _ =>
    (controlReaderStep env s.client s.controlReader input).map fun (pc, c') =>
      { s with controlReader := pc, client := c' }

/-- The threads a supervisor step creates: the Control stream when a pair has
been prepared, the Work stream when its gate has opened. -/
def spawn (s : System) (pc : SupervisorPc) : System :=
  match s.supervisor, pc with
  | .prepare _, .awaitAttach _ fence =>
    { s with controlReader := .opening fence, workReader := .notStarted }
  | .awaitAttach _ _, .awaitFailure _ fence => { s with workReader := .opening fence }
  | _, _ => s

/-- A step of the supervisor. -/
def supervisorAction (env : Env) (s : System) (input : SupervisorInput) : Option System :=
  (supervisorStep env s.client s.controlReaderDone s.workReaderDone s.supervisor input).map
    fun (pc, c') => { s.spawn pc with supervisor := pc, client := c' }

/-- One step of the system. -/
def step (env : Env) (s : System) : Action → Option System
  | .start => startStep env s
  | .startThreads => startThreadsStep env s
  | .startReturns timeout => startReturnsStep s timeout
  | .stop =>
    match s.stopper with
    | .idle => some s.beginStop
    | _ => none
  | .stopper => stopperStep env s
  | .publishSource streamId items =>
    some { s with client := (publishSource env s.client streamId items).2 }
  | .closeSource streamId error =>
    some { s with client := (closeSource env s.client streamId error).2 }
  | .worker i input => workerAction env s i input
  | .workReader input => workReaderAction env s input
  | .workWriter input =>
    (workWriterStep env s.client s.workWriter input).map fun (pc, c') =>
      { s with workWriter := pc, client := c' }
  | .controlReader input => controlReaderAction env s input
  | .controlWriter input =>
    (controlWriterStep env s.client s.controlWriter input).map fun (pc, c') =>
      { s with controlWriter := pc, client := c' }
  | .supervisor input => supervisorAction env s input

end System

/-- The client as a machine: it starts out constructed and not started. -/
def machine (env : Env) : Machine System Action where
  init := {}
  step := System.step env

end AdapterRuntime.Model
