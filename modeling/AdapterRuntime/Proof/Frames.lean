import AdapterRuntime.Model.System

/-!
# AdapterRuntime — what the sections leave alone

Most sections touch flags, queues or counters and leave the Work plane as it
is. `Client.core` collects the components the Work-plane invariants speak of;
one lemma per section says that its core is unchanged, so that the invariants
only have to look at the few sections that are not listed here.
-/

namespace AdapterRuntime.Model

open AdapterRuntime.Lib

/-- The part of a client the Work-plane invariants depend on. -/
structure Core where
  tables : Tables
  dispatch : List DispatchJob
  dispatchBytes : Nat
  nextCancellation : CancellationId
  history : List WorkEvent
  maximumWorkFrameBytes : Nat

/-- The part of a client the Work-plane invariants depend on. -/
def Client.core (c : Client) : Core where
  tables := c.tables
  dispatch := c.queues.dispatch
  dispatchBytes := c.queues.dispatchBytes
  nextCancellation := c.nextCancellation
  history := c.history
  maximumWorkFrameBytes := c.session.maximumWorkFrameBytes

namespace Client

variable (env : Env) (c : Client)

-- ---------------------------------------------------------------------------
-- Flags, counters and logs
-- ---------------------------------------------------------------------------

@[simp] theorem core_countDropped : c.countDropped.core = c.core := rfl

@[simp] theorem core_countRejected : c.countRejected.core = c.core := rfl

@[simp] theorem core_cancelAllWork : c.cancelAllWork.core = c.core := rfl

@[simp] theorem core_request (id : CancellationId) : (c.request id).core = c.core := rfl

@[simp] theorem core_log (event : LifecycleEvent) : (c.log event).core = c.core := rfl

@[simp] theorem core_enterHandler : c.enterHandler.core = c.core := rfl

@[simp] theorem core_leaveHandler : c.leaveHandler.core = c.core := rfl

@[simp] theorem core_leaveJob : c.leaveJob.core = c.core := rfl

@[simp] theorem core_requestStop : c.requestStop.core = c.core := rfl

@[simp] theorem core_callStop (binding : Nat) : (c.callStop env binding).core = c.core := by
  unfold callStop
  split <;> rfl

@[simp] theorem core_callClear : (c.callClear env).core = c.core := by
  unfold callClear
  split <;> rfl

@[simp] theorem core_notifySourceClosed (source : SourceState) (error : AdapterError) :
    (c.notifySourceClosed env source error).core = c.core := by
  unfold notifySourceClosed
  split <;> rfl

@[simp] theorem core_signalSessionFailure (session reason : Text) :
    (c.signalSessionFailure session reason).core = c.core := by
  unfold signalSessionFailure
  split <;> rfl

@[simp] theorem core_signalTerminalSessionFailure (session reason : Text) :
    (c.signalTerminalSessionFailure session reason).core = c.core := by
  unfold signalTerminalSessionFailure
  split <;> rfl

-- ---------------------------------------------------------------------------
-- Control plane
-- ---------------------------------------------------------------------------

@[simp] theorem core_queueControlLocked (frame : ControlFrame) :
    (c.queueControlLocked env frame).2.core = c.core := by
  unfold queueControlLocked
  simp only
  split
  · split <;> rfl
  · rfl

@[simp] theorem core_maybeQueueDrainStatus : (c.maybeQueueDrainStatus env).core = c.core := by
  have hQueue := core_queueControlLocked env c (.drainStatus true 0)
  unfold maybeQueueDrainStatus
  split
  · rfl
  · split
    · rename_i c' hEq
      rw [hEq] at hQueue
      exact hQueue
    · rename_i c' hEq
      rw [hEq] at hQueue
      exact hQueue

@[simp] theorem core_beginDrain : (c.beginDrain env).core = c.core := by
  unfold beginDrain
  rw [core_maybeQueueDrainStatus]
  rfl

@[simp] theorem core_openAttachGate (fence : SessionFence) :
    (c.openAttachGate fence).core = c.core := by
  unfold openAttachGate
  split <;> rfl

@[simp] theorem core_markReady (fence : SessionFence) : (c.markReady fence).core = c.core := by
  unfold markReady
  split <;> rfl

@[simp] theorem core_advanceEpoch : c.advanceEpoch.core = c.core := by
  unfold advanceEpoch
  split <;> rfl

@[simp] theorem core_finishApply (session : Text) (statuses : List CapabilityStatus) :
    (finishApply c session statuses).core = c.core := by
  unfold finishApply
  split <;> rfl

@[simp] theorem core_recordApplyFailure (statuses : List CapabilityStatus) :
    (recordApplyFailure c statuses).core = c.core := rfl

@[simp] theorem core_recordReadyFailure (statuses : List CapabilityStatus) :
    (recordReadyFailure c statuses).core = c.core := rfl

variable {env c}

theorem core_of_enterSessionLost {reason : Text} {notify : Bool} {c' : Client}
    (h : c.enterSessionLost reason = some (notify, c')) : c'.core = c.core := by
  unfold enterSessionLost at h
  split at h
  · simp at h
  · simp only [Option.some.injEq, Prod.mk.injEq] at h
    obtain ⟨-, rfl⟩ := h
    rfl

theorem core_of_beginApply {session : Text} {spec : AdapterInstanceSpec} {c' : Client}
    (h : beginApply env c session spec = .inr c') : c'.core = c.core := by
  unfold beginApply at h
  split at h
  · simp at h
  · split at h
    · split at h <;> simp at h
    · split at h
      · simp at h
      · split at h
        · simp at h
        · simp only [Sum.inr.injEq] at h
          subst h
          rfl

theorem core_of_commitSpec {session : Text} {spec : AdapterInstanceSpec} {bindings : List Nat}
    {statuses : List CapabilityStatus} {c' : Client}
    (h : commitSpec c session spec bindings statuses = some c') : c'.core = c.core := by
  unfold commitSpec at h
  split at h
  · simp at h
  · simp only [Option.some.injEq] at h
    subst h
    rfl

end Client

end AdapterRuntime.Model
