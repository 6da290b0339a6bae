import AdapterRuntime.Proof.Single

/-!
# AdapterRuntime — the steps of the Control plane

What a step of the Control threads and of the Work writer can be, over the
branches of the spec transaction they run. Steps that leave the spec, the
callbacks and the spec results alone are one case each.

* `controlReaderStep_cases`, `controlWriterStep_cases`, `workWriterStep_cases`.
-/

namespace AdapterRuntime.Model

open AdapterRuntime.Lib

variable {env : Env} {c c' : Client}

-- ---------------------------------------------------------------------------
-- Control reader
-- ---------------------------------------------------------------------------

/-- The point of the transaction the Control reader is at. -/
def ControlReaderPc.transaction? : ControlReaderPc → Option ApplyPc
  | .applying _ at_ => some at_
  | _ => none

/-- The spec result the Control reader is about to queue. -/
def ControlReaderPc.result? : ControlReaderPc → Option ApplyInstanceSpecResult
  | .queueing _ frame _ => frame.specResult?
  | _ => none

/-- What a step of the Control reader can be. -/
inductive ControlReaderMove (env : Env) (c : Client) :
    ControlReaderPc → ControlReaderPc → Client → Prop
  | calm {pc pc' : ControlReaderPc} {c' : Client} (hHelm : c'.helm = c.helm)
      (hRest : c.Subsides c') (hPc : pc.transaction? = none) (hPc' : pc'.transaction? = none)
      (hResult : pc.result? = none) (hResult' : pc'.result? = none) :
      ControlReaderMove env c pc pc' c'
  | drain {fence : SessionFence} :
      ControlReaderMove env c (.handling fence .drain) (.reading fence) (c.beginDrain env)
  | refuse {fence : SessionFence} {spec : AdapterInstanceSpec} {error : Text}
      (hInvalid : env.validateInstanceSpec spec = .error error) :
      ControlReaderMove env c (.handling fence (.instanceSpec spec))
        (queueSpecResult fence (specRefused spec .rejected "invalid-instance-spec" error
          env.disabledCapabilityStatuses)) c
  | receive {fence : SessionFence} {spec : AdapterInstanceSpec} {bindings : List Nat}
      (hValid : env.validateInstanceSpec spec = .ok bindings) :
      ControlReaderMove env c (.handling fence (.instanceSpec spec))
        (.applying fence (.begin ⟨spec, bindings⟩)) c
  | apply {fence : SessionFence} {at_ next : ApplyPc} {c' : Client}
      (hMove : ApplyMove env fence.sessionId c at_ (.inl next) c') :
      ControlReaderMove env c (.applying fence at_) (.applying fence next) c'
  | conclude {fence : SessionFence} {at_ : ApplyPc} {result : ApplyInstanceSpecResult}
      {c' : Client} (hMove : ApplyMove env fence.sessionId c at_ (.inr result) c') :
      ControlReaderMove env c (.applying fence at_) (queueSpecResult fence result) c'
  | queue {fence : SessionFence} {result : ApplyInstanceSpecResult} {reason : Text} {c' : Client}
      (hQueue : c.queueControlLocked env (.applyInstanceSpecResult result) = (true, c')) :
      ControlReaderMove env c (.queueing fence (.applyInstanceSpecResult result) reason)
        (.reading fence) c'
  | overflow {fence : SessionFence} {result : ApplyInstanceSpecResult} {reason : Text}
      {c' : Client}
      (hQueue : c.queueControlLocked env (.applyInstanceSpecResult result) = (false, c')) :
      ControlReaderMove env c (.queueing fence (.applyInstanceSpecResult result) reason)
        (.signal fence reason) c'
  | signal {fence : SessionFence} {reason : Text} :
      ControlReaderMove env c (.signal fence reason) (.closing fence)
        (c.signalSessionFailure fence.sessionId reason)

/-- A section that queues a Control frame, read as a move. -/
theorem controlReaderMove_queueing {fence : SessionFence} {frame : ControlFrame} {reason : Text}
    {ok : Bool} (h : c.queueControlLocked env frame = (ok, c')) :
    ControlReaderMove env c (.queueing fence frame reason)
      (if ok then .reading fence else .signal fence reason) c' := by
  cases hFrame : frame.specResult? with
  | some result =>
    cases frame <;> simp only [ControlFrame.specResult?, Option.some.injEq, reduceCtorEq] at hFrame
    subst hFrame
    cases ok with
    | true => exact .queue h
    | false => exact .overflow h
  | none =>
    have hHelm := Client.helm_queueControlLocked h
    have hRest : c.Subsides c' := by
      have hQueue : c.Subsides (c.queueControlLocked env frame).2 := .queueControlLocked frame
      rw [h] at hQueue
      exact hQueue
    refine .calm (hHelm.trans (by simp [hFrame])) hRest rfl ?_ hFrame ?_ <;> cases ok <;> rfl

/-- Everything a step of the Control reader can be. -/
theorem controlReaderStep_cases {pc pc' : ControlReaderPc} {input : ReaderInput ControlResponse}
    (h : controlReaderStep env c pc input = some (pc', c')) :
    ControlReaderMove env c pc pc' c' := by
  cases controlReaderStep_branch h with
  | opened => exact .calm rfl (.log _) rfl rfl rfl rfl
  | stopping | awaitFrame | oversize | received | readFailed | badHeader | ping | hostError
  | emptyFrame | closed | ended | rejected | lost => exact .calm rfl (.refl _) rfl rfl rfl rfl
  | goodHeader =>
    exact .calm rfl (by constructor <;> simp [Client.controlReceived]) rfl rfl rfl rfl
  | badSpec hInvalid => exact .refuse hInvalid
  | goodSpec hValid => exact .receive hValid
  | drain => exact .drain
  | stop =>
    split
    · exact .calm rfl (.log _) rfl rfl rfl rfl
    · exact .calm rfl (.refl _) rfl rfl rfl rfl
  | apply hMove => exact .apply hMove
  | conclude hMove => exact .conclude hMove
  | queued hQueue | overflow hQueue => exact controlReaderMove_queueing hQueue
  | remoteStop => exact .calm (by simp) .requestStop rfl rfl rfl rfl
  | signal => exact .signal
  | unopened | lastSignal => exact .calm (by simp) (.signalSessionFailure _ _) rfl rfl rfl rfl
  | terminal | lastTerminal =>
    exact .calm (by simp) (.signalTerminalSessionFailure _ _) rfl rfl rfl rfl

-- ---------------------------------------------------------------------------
-- Writers
-- ---------------------------------------------------------------------------

/-- The spec result the Control writer is writing. -/
def ControlWriterPc.result? : ControlWriterPc → Option ApplyInstanceSpecResult
  | .writing _ _ frame => frame.specResult?
  | _ => none

/-- What a step of the Control writer can be. -/
inductive ControlWriterMove (env : Env) (c : Client) :
    ControlWriterPc → ControlWriterPc → Client → Prop
  | exit {fence : SessionFence} (hOver : c.pairLive fence = false) :
      ControlWriterMove env c (.loop fence) .exited c
  | dequeue {fence : SessionFence} {header : SessionHeader} {frame : ControlFrame} {c' : Client}
      (hHelm : c.helm =
        { c'.helm with results := frame.specResult?.toList ++ c'.helm.results })
      (hRest : c.Subsides c') :
      ControlWriterMove env c (.loop fence) (.writing fence header frame) c'
  | heartbeat {fence : SessionFence} {header : SessionHeader} {c' : Client} (now : Int)
      (hHelm : c'.helm = c.helm) (hRest : c.Subsides c') :
      ControlWriterMove env c (.loop fence)
        (.writing fence header (.heartbeat (buildHeartbeat c now 0))) c'
  | write {fence : SessionFence} {header : SessionHeader} {frame : ControlFrame} :
      ControlWriterMove env c (.writing fence header frame) (afterControlWrite fence frame)
        (c.log (.controlWritten fence.connectionEpoch header frame))
  | lose {fence : SessionFence} {header : SessionHeader} {frame : ControlFrame} {reason : Text} :
      ControlWriterMove env c (.writing fence header frame) (.signal fence reason) c
  | gate {fence : SessionFence} :
      ControlWriterMove env c (.gate fence) (.loop fence) (c.openAttachGate fence)
  | signal {fence : SessionFence} {reason : Text} :
      ControlWriterMove env c (.signal fence reason) .exited
        (c.signalSessionFailure fence.sessionId reason)
  | terminal {fence : SessionFence} {reason : Text} :
      ControlWriterMove env c (.terminal fence reason) .exited
        (c.signalTerminalSessionFailure fence.sessionId reason)

/-- Everything a step of the Control writer can be. -/
theorem controlWriterStep_cases {pc pc' : ControlWriterPc} {input : WriterInput}
    (h : controlWriterStep env c pc input = some (pc', c')) :
    ControlWriterMove env c pc pc' c' := by
  cases controlWriterStep_branch h with
  | ended hOver => exact .exit hOver
  | @dequeue _ front rest _ hQueue =>
    refine .dequeue ?_ (by constructor <;> simp [Client.controlTaken, Client.controlStamped])
    cases hResult : front.request.specResult? <;>
      simp [Client.helm, Client.controlTaken, Client.controlStamped, hQueue, hResult]
  | heartbeat => exact .heartbeat _ rfl (by constructor <;> simp [Client.controlStamped])
  | write => exact .write
  | lose => exact .lose
  | gate => exact .gate
  | signal => exact .signal
  | terminal => exact .terminal

/-- What a step of the Work writer can be. -/
inductive WorkWriterMove (env : Env) (c : Client) : WorkWriterPc → WorkWriterPc → Client → Prop
  | calm {pc pc' : WorkWriterPc} {c' : Client} (hHelm : c'.helm = c.helm)
      (hRest : c.Subsides c')
      (hPc' : ∀ fence header frame, pc' ≠ .writingAttach fence header frame)
      (hReady : ∀ fence, pc' ≠ .markReady fence) : WorkWriterMove env c pc pc' c'
  | attach {fence : SessionFence} {header : SessionHeader} {c' : Client}
      (hOpen : c.attachAllowed fence = true) (hLive : c.pairLive fence = true)
      (hHelm : c'.helm = c.helm) (hRest : c.Subsides c') :
      WorkWriterMove env c (.attach fence)
        (.writingAttach fence header (.attach c.spec.specRevision c.spec.specDigest)) c'
  | attached {fence : SessionFence} {header : SessionHeader} {frame : WorkFrame} :
      WorkWriterMove env c (.writingAttach fence header frame) (.markReady fence)
        (c.log (.workWritten fence.connectionEpoch header frame))
  | ready {fence : SessionFence} :
      WorkWriterMove env c (.markReady fence) (.loop fence) (c.markReady fence)
  | write {fence : SessionFence} {header : SessionHeader} {frame : WorkFrame} :
      WorkWriterMove env c (.writing fence header frame) (.loop fence)
        (c.log (.workWritten fence.connectionEpoch header frame))

/-- Everything a step of the Work writer can be. -/
theorem workWriterStep_cases {pc pc' : WorkWriterPc} {input : WriterInput}
    (h : workWriterStep env c pc input = some (pc', c')) : WorkWriterMove env c pc pc' c' := by
  cases workWriterStep_branch h with
  | attach hAllowed hLive =>
    exact .attach hAllowed hLive rfl (by constructor <;> simp [Client.workStamped])
  | attached => exact .attached
  | ready => exact .ready
  | dequeue =>
    exact .calm rfl (by constructor <;> simp [Client.workTaken, Client.workStamped]) (by simp)
      (by simp)
  | write => exact .write
  | unattached | loseAttach | ended | lose => exact .calm rfl (.refl _) (by simp) (by simp)
  | signal => exact .calm (by simp) (.signalSessionFailure _ _) (by simp) (by simp)

end AdapterRuntime.Model
