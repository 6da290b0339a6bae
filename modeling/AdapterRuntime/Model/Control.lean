import AdapterRuntime.Model.Threads

/-!
# AdapterRuntime — the Control reader and the spec transaction

`ControlStreamLoop` with `ApplyInstanceSpec` inlined as a sub-program: the
transaction runs on the Control reader and takes its sections, waits and
callbacks one by one. `DeactivatePc` is the sub-program
`DeactivateApplicationUnlocked`, which the supervisor and `Stop` run too.
-/

namespace AdapterRuntime.Model

open AdapterRuntime.Lib

-- ---------------------------------------------------------------------------
-- Deactivation
-- ---------------------------------------------------------------------------

/-- The program counter inside `DeactivateApplicationUnlocked`. -/
inductive DeactivatePc
  | locked
  | waiting (plan : DeactivationPlan)
  | stopping (remaining : List Nat) (plan : DeactivationPlan)
  | clearing (plan : DeactivationPlan)
  | notifying (remaining : List SourceState)

/-- One step of a deactivation; `none` in the first component is its end. -/
def deactivateStep (env : Env) (reason : Text) (c : Client) :
    DeactivatePc → Option (Option DeactivatePc × Client)
  | .locked =>
    let (plan, c') := deactivate env c
    some (some (.waiting plan), c')
  | .waiting plan =>
    if c.callbacksQuiet then some (some (.stopping plan.bindings.reverse plan), c) else none
  | .stopping [] plan => some (some (.clearing plan), c)
  | .stopping (binding :: rest) plan => some (some (.stopping rest plan), c.callStop env binding)
  | .clearing plan =>
    some (some (.notifying plan.streams), if plan.hadSpec then c.callClear env else c)
  | .notifying [] => some (none, c)
  | .notifying (source :: rest) =>
    some (some (.notifying rest), c.notifySourceClosed env source (deactivationError reason))

-- ---------------------------------------------------------------------------
-- ApplyInstanceSpec
-- ---------------------------------------------------------------------------

/-- What a transaction works on: the spec and the binding index of each of its
grants, in spec order. -/
structure Candidate where
  spec : AdapterInstanceSpec
  bindings : List Nat

/-- The program counter inside `ApplyInstanceSpec`, after `ValidateInstanceSpec`. -/
inductive ApplyPc
  | begin (cand : Candidate)
  | waiting (cand : Candidate)
  | lock (cand : Candidate)
  | checkSession (cand : Candidate)
  | checkStop (cand : Candidate)
  | deactivating (cand : Candidate) (at_ : DeactivatePc)
  | applying (cand : Candidate)
  | starting (cand : Candidate) (remaining : List (EnabledCapability × Nat)) (started : List Nat)
      (error : Text)
  | unwinding (cand : Candidate) (remaining : List Nat) (clear : Bool) (failedKey error : Text)
  | failing (cand : Candidate) (failedKey error : Text)
  | committing (cand : Candidate) (started : List Nat)
  | staleUnwinding (cand : Candidate) (remaining : List Nat)
  | readying (cand : Candidate) (remaining : List Nat)
  | readyDeactivating (cand : Candidate) (failed : Nat) (at_ : DeactivatePc)
  | readyFailing (cand : Candidate) (failed : Nat)
  | finishing (cand : Candidate)

/-- The `transition_mutex_` is held at this point of the transaction. -/
def ApplyPc.holdsTransition : ApplyPc → Bool
  | .begin _ | .waiting _ | .lock _ => false
  | _ => true

/-- What follows a step of the transaction: another step, or the result it returns. -/
abbrev ApplyNext := ApplyPc ⊕ ApplyInstanceSpecResult

/-- The transaction returns, releasing `transition_mutex_`. -/
def applyReturn (c : Client) (result : ApplyInstanceSpecResult) : Option (ApplyNext × Client) :=
  some (.inr result, { c with transitionLocked := false })

/-- The error text a failed callback leaves behind. -/
def callbackError (prefix_ fallback : Text) : CallbackOutcome → Text
  | .returned _ error => if isCanonicalText error then error else fallback
  | .threw what =>
    if isCanonicalText (prefix_ ++ text " threw: " ++ what) then
      prefix_ ++ text " threw: " ++ what
    else fallback
  | .threwUnknown => prefix_ ++ text " threw an unknown exception"

/-- The callback returned `true`. -/
def CallbackOutcome.succeeded : CallbackOutcome → Bool
  | .returned ok _ => ok
  | _ => false

/-- The content of the error out-parameter after a callback that succeeded. -/
def CallbackOutcome.leftError (before : Text) : CallbackOutcome → Text
  | .returned _ error => error
  | _ => before

/-- The statuses reported for a failed apply: the contract that failed to start
is `FAILED`. -/
def failureStatuses (env : Env) (failedKey error : Text) : List CapabilityStatus :=
  markStatuses (fun key => !failedKey.isEmpty && key == failedKey) .failed error
    env.disabledCapabilityStatuses

/-- The statuses reported for a failed `ready` callback. -/
def readyFailureStatuses (env : Env) (failed : Nat) : List CapabilityStatus :=
  markStatuses
    (fun key => (env.binding? failed).any fun binding => binding.contract.key == key) .failed
    (text "capability ready callback failed") env.disabledCapabilityStatuses

/-- The next point after all `start` callbacks succeeded so far. -/
def nextStart (cand : Candidate) (remaining : List (EnabledCapability × Nat))
    (started : List Nat) (error : Text) : ApplyPc :=
  match remaining with
  | [] => .committing cand started
  | _ => .starting cand remaining started error

/-- The steps of `ApplyInstanceSpec` that need no callback outcome. -/
def applyTick (env : Env) (session : Text) (c : Client) :
    ApplyPc → Option (ApplyNext × Client)
  | .begin cand =>
    match beginApply env c session cand.spec with
    | .inl result => some (.inr result, c)
    | .inr c' => some (.inl (.waiting cand), c')
  | .waiting cand => if c.callbacksQuiet then some (.inl (.lock cand), c) else none
  | .lock cand =>
    if c.transitionLocked then none
    else some (.inl (.checkSession cand), { c with transitionLocked := true })
  | .checkSession cand =>
    if c.currentSessionIs session then some (.inl (.checkStop cand), c)
    else applyReturn c (specStale cand.spec "session changed while applying instance spec")
  | .checkStop cand =>
    if c.flags.stopRequested then
      applyReturn c (specStale cand.spec "session changed while applying instance spec")
    else some (.inl (.deactivating cand .locked), c)
  | .deactivating cand at_ =>
    match deactivateStep env (text "instance spec replaced") c at_ with
    | none => none
    | some (some next, c') => some (.inl (.deactivating cand next), c')
    | some (none, c') => some (.inl (.applying cand), c')
  | .applying cand =>
    -- the callback is optional; with it the step needs its outcome
    if env.callbacks.applyInstanceSpec then none
    else
      some (.inl (nextStart cand (cand.spec.capabilities.zip cand.bindings) [] []),
        c.log (.applySkipped cand.spec))
  | .starting cand ((_, binding) :: rest) started error =>
    if env.hasCallback CapabilityCallbacks.start binding then none
    else
      some (.inl (nextStart cand rest (started ++ [binding]) error), c.log (.startSkipped binding))
  | .starting cand [] started _ => some (.inl (.committing cand started), c)
  | .unwinding cand (binding :: rest) clear failedKey error =>
    some (.inl (.unwinding cand rest clear failedKey error), c.callStop env binding)
  | .unwinding cand [] clear failedKey error =>
    some (.inl (.failing cand failedKey error), if clear then c.callClear env else c)
  | .failing cand failedKey error =>
    let statuses := failureStatuses env failedKey error
    applyReturn (recordApplyFailure c statuses)
      (specRefused cand.spec .permanent "spec-apply-failed"
        (if error.isEmpty then text "instance spec apply failed" else error) statuses)
  | .committing cand started =>
    match commitSpec c session cand.spec cand.bindings (grantedStatuses env cand.spec) with
    | none => some (.inl (.staleUnwinding cand started.reverse), c)
    | some c' => some (.inl (.readying cand started), c'.log (.specCommitted cand.spec))
  | .staleUnwinding cand (binding :: rest) =>
    some (.inl (.staleUnwinding cand rest), c.callStop env binding)
  | .staleUnwinding cand [] =>
    applyReturn (c.callClear env)
      (specStale cand.spec "session changed before instance spec commit")
  | .readying cand (binding :: rest) =>
    if env.hasCallback CapabilityCallbacks.ready binding then none
    else some (.inl (.readying cand rest), c)
  | .readying cand [] => some (.inl (.finishing cand), c)
  | .readyDeactivating cand failed at_ =>
    match deactivateStep env (text "capability ready callback failed") c at_ with
    | none => none
    | some (some next, c') => some (.inl (.readyDeactivating cand failed next), c')
    | some (none, c') => some (.inl (.readyFailing cand failed), c')
  | .readyFailing cand failed =>
    let statuses := readyFailureStatuses env failed
    applyReturn (recordReadyFailure c statuses)
      (specRefused cand.spec .permanent "ready-callback-failed"
        (text "capability ready callback failed after instance spec commit") statuses)
  | .finishing cand =>
    let statuses := grantedStatuses env cand.spec
    applyReturn (finishApply c session statuses) (specApplied cand.spec statuses)

/-- The steps of `ApplyInstanceSpec` at which a callback returns. -/
def applyCallback (env : Env) (c : Client) (outcome : CallbackOutcome) :
    ApplyPc → Option (ApplyNext × Client)
  | .applying cand =>
    if !env.callbacks.applyInstanceSpec then none
    else
      let c' := c.log (.applyCalled cand.spec outcome.succeeded)
      if outcome.succeeded then
        some (.inl (nextStart cand (cand.spec.capabilities.zip cand.bindings) []
          (outcome.leftError [])), c')
      else
        -- the failed apply is cleared at once; nothing has been started
        some (.inl (.unwinding cand [] false []
          (callbackError (text "apply_instance_spec")
            (text "application rejected the instance spec") outcome)), c'.callClear env)
  | .starting cand ((grant, binding) :: rest) started error =>
    if !env.hasCallback CapabilityCallbacks.start binding then none
    else
      let c' := c.log (.startCalled binding outcome.succeeded)
      if outcome.succeeded then
        some (.inl (nextStart cand rest (started ++ [binding]) (outcome.leftError error)), c')
      else
        some (.inl (.unwinding cand started.reverse true grant.key
          (callbackError (text "capability start")
            (text "capability start rejected " ++ grant.capabilityId) outcome)), c')
  | .readying cand (binding :: rest) =>
    if !env.hasCallback CapabilityCallbacks.ready binding then none
    else
      -- `ready` returns nothing: it fails only by throwing
      match outcome with
      | .returned _ _ =>
        let c' := c.log (.readyCalled binding true)
        some (.inl (.readying cand rest),
          { c' with spec := { c'.spec with readyReturned := binding :: c'.spec.readyReturned } })
      | _ =>
        some (.inl (.readyDeactivating cand binding .locked), c.log (.readyCalled binding false))
  | _ => none

-- ---------------------------------------------------------------------------
-- Control reader
-- ---------------------------------------------------------------------------

/-- The program counter of `ControlStreamLoop`. -/
inductive ControlReaderPc
  | notStarted
  | opening (fence : SessionFence)
  | reading (fence : SessionFence)
  | blocked (fence : SessionFence)
  | validating (fence : SessionFence) (response : ControlResponse)
  | handling (fence : SessionFence) (frame : HostControl)
  | applying (fence : SessionFence) (at_ : ApplyPc)
  | queueing (fence : SessionFence) (frame : ControlFrame) (reason : Text)
  | remoteStop (fence : SessionFence)
  | signal (fence : SessionFence) (reason : Text)
  | terminal (fence : SessionFence) (reason : Text)
  | closing (fence : SessionFence)
  | finished (fence : SessionFence) (status : StreamStatus)
  | lastTerminal (fence : SessionFence)
  | lastSignal (fence : SessionFence) (status : StreamStatus)
  | exited

/-- Queues the result of an `ApplyInstanceSpec`. -/
def queueSpecResult (fence : SessionFence) (result : ApplyInstanceSpecResult) :
    ControlReaderPc :=
  .queueing fence (.applyInstanceSpecResult result) (text "Control queue rejected spec result")

/-- The continuation of the reader after a step of the transaction. -/
def afterApply (fence : SessionFence) (r : ApplyNext × Client) : ControlReaderPc × Client :=
  match r with
  | (.inl next, c') => (.applying fence next, c')
  | (.inr result, c') => (queueSpecResult fence result, c')

/-- `HandleControlResponse`, up to the end of its first section. -/
def handleControlResponse (env : Env) (c : Client) (now : Int) (fence : SessionFence) :
    HostControl → ControlReaderPc × Client
  | .instanceSpec spec =>
    match env.validateInstanceSpec spec with
    | .error e =>
      (queueSpecResult fence
        (specRefused spec .rejected "invalid-instance-spec" e env.disabledCapabilityStatuses), c)
    | .ok bindings => (.applying fence (.begin ⟨spec, bindings⟩), c)
  | .ping nonce =>
    (.queueing fence (.heartbeat (buildHeartbeat c now nonce))
      (text "Control queue rejected ping response"), c)
  | .drain => (.reading fence, c.beginDrain env)
  | .stop =>
    (.remoteStop fence, if env.callbacks.stopRequested then c.log .stopRequestedCalled else c)
  | .protocolError error =>
    (.terminal fence (text "Host reported Control protocol error: " ++ error.message), c)
  | .notSet => (.signal fence (text "Host sent an empty Control frame"), c)

/-- One step of the Control reader. -/
def controlReaderStep (env : Env) (c : Client) :
    ControlReaderPc → ReaderInput ControlResponse → Option (ControlReaderPc × Client)
  | .opening fence, .opened ok =>
    if ok then some (.reading fence, c.log (.controlOpened fence.connectionEpoch))
    else
      some (.exited,
        c.signalSessionFailure fence.sessionId (text "Control stream could not be opened"))
  | .reading fence, .tick _ =>
    if c.flags.stopRequested then some (.closing fence, c) else some (.blocked fence, c)
  | .blocked fence, .received response =>
    if fence.maximumControlFrameBytes < env.protobuf.controlResponseBytes response then
      some (.terminal fence (text "Host Control frame exceeds the negotiated limit"), c)
    else some (.validating fence response, c)
  | .blocked fence, .readFailed => some (.closing fence, c)
  | .validating fence response, .tick _ =>
    match c.validateControlHeader env response.header fence with
    | .error e => some (.terminal fence (text "invalid Control fence: " ++ e), c)
    | .ok c' => some (.handling fence response.frame, c')
  | .handling fence frame, .tick now => some (handleControlResponse env c now fence frame)
  | .applying fence at_, .tick _ =>
    (applyTick env fence.sessionId c at_).map (afterApply fence)
  | .applying fence at_, .callback outcome =>
    (applyCallback env c outcome at_).map (afterApply fence)
  | .queueing fence frame reason, .tick _ =>
    match c.queueControlLocked env frame with
    | (true, c') => some (.reading fence, c')
    | (false, c') => some (.signal fence reason, c')
  | .remoteStop fence, .tick _ => some (.closing fence, c.requestStop)
  | .signal fence reason, .tick _ =>
    some (.closing fence, c.signalSessionFailure fence.sessionId reason)
  | .terminal fence reason, .tick _ =>
    some (.closing fence, c.signalTerminalSessionFailure fence.sessionId reason)
  | .closing fence, .status status => some (.finished fence status, c)
  | .finished fence status, .tick _ =>
    if c.flags.stopRequested then some (.exited, c)
    else if status = .terminal then some (.lastTerminal fence, c)
    else some (.lastSignal fence status, c)
  | .lastTerminal fence, .tick _ =>
    some (.exited,
      c.signalTerminalSessionFailure fence.sessionId (text "Control attachment was rejected"))
  | .lastSignal fence status, .tick _ =>
    some (.exited,
      c.signalSessionFailure fence.sessionId
        (if status = .ok then text "Control stream closed" else text "Control stream failed"))
  | _, _ => none

end AdapterRuntime.Model
