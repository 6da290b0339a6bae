import AdapterRuntime.Proof.ReadyFailure
import AdapterRuntime.Proof.Streams

/-!
# AdapterRuntime — the spec a `WorkAttach` names

The Control writer opens the Work gate of a pair after it has written an applied result.
The Work writer reads the revision and the digest again when it builds its `WorkAttach`,
and by then the Control reader can have withdrawn the spec, or committed another one whose
result is still to be written. `System.announcing` says that the result of the spec in
force is not out yet.

* `heralds_of_reachable` — the spec in force on a pair was announced there, is being
  announced, or nothing on the pair can open the gate.
* `attach_follows_apply` — in runs whose attaches find the spec settled, every Work stream
  starts with the attach of a spec announced on the Control stream of its epoch.
-/

namespace AdapterRuntime.Model

open AdapterRuntime.Lib

variable {env : Env} {c c' : Client} {s s' : System} {a : Action}

-- ---------------------------------------------------------------------------
-- Announcements
-- ---------------------------------------------------------------------------

/-- An applied result of this revision and digest was written on the Control stream of
the epoch. -/
def Announced (trace : List LifecycleEvent) (epoch revision : Nat) (digest : Text) : Prop :=
  ∃ header result, .controlWritten epoch header (.applyInstanceSpecResult result) ∈ trace ∧
    result.applied = true ∧ result.revision = revision ∧ result.specDigest = digest

/-- The first frame of every Work stream is the attach of a spec that was announced
before, on the Control stream of the same epoch. -/
def AttachesFollow (trace : List LifecycleEvent) : Prop :=
  ∀ later earlier epoch header frame, trace = later ++ .workWritten epoch header frame :: earlier →
    (∀ header' frame', .workWritten epoch header' frame' ∉ earlier) →
    ∃ revision digest, frame = .attach revision digest ∧ revision ≠ 0 ∧ digest ≠ [] ∧
      Announced earlier epoch revision digest

/-- The result announces the spec in force. -/
def ApplyInstanceSpecResult.announces (spec : SpecState) (result : ApplyInstanceSpecResult) :
    Bool :=
  result.applied && result.revision == spec.specRevision && result.specDigest == spec.specDigest

/-- The transaction has committed its spec. -/
def ApplyPc.committed : ApplyPc → Bool
  | .readying _ _ | .readyDeactivating _ _ _ | .readyFailing _ _ | .finishing _ => true
  | _ => false

namespace ControlReaderPc

/-- The Control reader has not handed on the result of the spec in force, or is about to
fail the pair. -/
def announcing (spec : SpecState) : ControlReaderPc → Bool
  | .applying _ at_ => at_.committed
  | .queueing _ frame _ => frame.specResult?.any (·.announces spec)
  | .signal _ _ => true
  | _ => false

/-- The Control reader is about to queue an applied result. -/
def brings (pc : ControlReaderPc) : Bool := pc.result?.any (·.applied)

end ControlReaderPc

namespace ControlWriterPc

/-- The Control writer has not written the result of the spec in force, or is about to
fail the pair. -/
def announcing (spec : SpecState) : ControlWriterPc → Bool
  | .writing _ _ frame => frame.specResult?.any (·.announces spec)
  | .signal _ _ => true
  | _ => false

/-- The Control writer has an applied result, or is about to open the gate after one. -/
def brings : ControlWriterPc → Bool
  | .writing _ _ frame => frame.specResult?.any (·.applied)
  | .gate _ => true
  | _ => false

end ControlWriterPc

/-- The result of the spec in force is not out yet. -/
def announcing (c : Client) (reader : ControlReaderPc) (writer : ControlWriterPc) : Bool :=
  reader.announcing c.spec || c.helm.results.any (·.announces c.spec) ||
    writer.announcing c.spec

/-- Nothing on this pair can open the Work gate. -/
def unattached (c : Client) (reader : ControlReaderPc) (writer : ControlWriterPc) : Bool :=
  !c.flags.workAttachAllowed && !reader.brings && !c.helm.results.any (·.applied) &&
    !writer.brings

/-- The Work writer is about to build its attach. -/
def System.buildsAttach (s : System) : Action → Bool
  | .workWriter .tick =>
    match s.workWriter with
    | .attach fence => s.client.attachAllowed fence && s.client.pairLive fence
    | _ => false
  | _ => false

/-- The Work writer builds its attach with a spec in force whose result is out. -/
def System.attachesSettled (s : System) (a : Action) : Bool :=
  !s.buildsAttach a || (s.client.spec.specRevision != 0 &&
    !announcing s.client s.controlReader s.controlWriter)

/-- The pair has failed, or the client is to stop. -/
def Client.pairFailed (c : Client) : Prop :=
  c.flags.sessionFailed = true ∨ c.flags.stopRequested = true

/-- Where a spec in force stands on a pair. -/
def Heralded (c : Client) (reader : ControlReaderPc) (writer : ControlWriterPc) : Prop :=
  c.spec.specRevision ≠ 0 →
    Announced c.helm.events c.session.connectionEpochCounter c.spec.specRevision
      c.spec.specDigest ∨
    announcing c reader writer = true ∨ c.pairFailed ∨ unattached c reader writer = true

/-- Where the spec in force stands on the pair the supervisor waits on. -/
def Heralds (s : System) : Prop :=
  s.supervisor.waits = true → Heralded s.client s.controlReader s.controlWriter

-- ---------------------------------------------------------------------------
-- Carrying
-- ---------------------------------------------------------------------------

theorem Announced.mono {older newer : List LifecycleEvent} {epoch revision : Nat} {digest : Text}
    (h : Announced older epoch revision digest) (hMono : ∀ e ∈ older, e ∈ newer) :
    Announced newer epoch revision digest := by
  obtain ⟨header, result, hMem, hResult⟩ := h
  exact ⟨header, result, hMono _ hMem, hResult⟩

/-- What of a client an announcement depends on is kept by a step. -/
structure Client.Carries (c c' : Client) : Prop where
  revision : c'.spec.specRevision = c.spec.specRevision
  digest : c'.spec.specDigest = c.spec.specDigest
  events : ∀ e ∈ c.helm.events, e ∈ c'.helm.events
  epoch : c'.session.connectionEpochCounter = c.session.connectionEpochCounter
  failed : c.pairFailed → c'.pairFailed

namespace Client.Carries

/-- The same result announces the spec before and after. -/
theorem announces (h : c.Carries c') :
    ApplyInstanceSpecResult.announces c'.spec = ApplyInstanceSpecResult.announces c.spec := by
  funext result
  rw [ApplyInstanceSpecResult.announces, ApplyInstanceSpecResult.announces, h.revision, h.digest]

/-- The reader announces the same spec. -/
theorem reader (h : c.Carries c') (pc : ControlReaderPc) :
    pc.announcing c'.spec = pc.announcing c.spec := by
  unfold ControlReaderPc.announcing
  rw [h.announces]

/-- The writer announces the same spec. -/
theorem writer (h : c.Carries c') (pc : ControlWriterPc) :
    pc.announcing c'.spec = pc.announcing c.spec := by
  unfold ControlWriterPc.announcing
  rw [h.announces]

theorem of_subsides (hRest : c.Subsides c') (hEvents : ∀ e ∈ c.helm.events, e ∈ c'.helm.events) :
    c.Carries c' where
  revision := by rw [hRest.spec]
  digest := by rw [hRest.spec]
  events := hEvents
  epoch := hRest.epoch
  failed := Or.imp hRest.failed hRest.stopped

end Client.Carries

/-- A step that hands the announcement on, and brings nothing to a pair that had nothing. -/
theorem Heralded.carry {reader reader' : ControlReaderPc} {writer writer' : ControlWriterPc}
    (h : Heralded c reader writer) (hCarries : c.Carries c')
    (hAnnouncing : announcing c reader writer = true →
      Announced c'.helm.events c'.session.connectionEpochCounter c'.spec.specRevision
        c'.spec.specDigest ∨ announcing c' reader' writer' = true ∨ c'.pairFailed)
    (hUnattached : unattached c reader writer = true → unattached c' reader' writer' = true) :
    Heralded c' reader' writer' := by
  intro hRevision
  rw [hCarries.revision] at hRevision
  obtain hOut | hSoon | hFailed | hNothing := h hRevision
  · refine .inl ?_
    rw [hCarries.revision, hCarries.digest, hCarries.epoch]
    exact hOut.mono hCarries.events
  · obtain hOut | hSoon | hFailed := hAnnouncing hSoon
    · exact .inl hOut
    · exact .inr (.inl hSoon)
    · exact .inr (.inr (.inl hFailed))
  · exact .inr (.inr (.inl (hCarries.failed hFailed)))
  · exact .inr (.inr (.inr (hUnattached hNothing)))

theorem Heralded.of_failed {reader : ControlReaderPc} {writer : ControlWriterPc}
    (h : c.pairFailed) : Heralded c reader writer := fun _ => .inr (.inr (.inl h))

theorem Heralded.of_vacant {reader : ControlReaderPc} {writer : ControlWriterPc}
    (h : c.spec.specRevision = 0) : Heralded c reader writer := fun hRevision => absurd h hRevision

theorem Heralded.of_reader {reader : ControlReaderPc} {writer : ControlWriterPc}
    (h : reader.announcing c.spec = true) : Heralded c reader writer := by
  intro _
  refine .inr (.inl ?_)
  rw [announcing, h]
  rfl

theorem Heralded.of_writer {reader : ControlReaderPc} {writer : ControlWriterPc}
    (h : writer.announcing c.spec = true) : Heralded c reader writer := by
  intro _
  refine .inr (.inl ?_)
  rw [announcing, h, Bool.or_true]

/-- What a step of the pair hands on unless it announces a spec. -/
structure Client.Hands (c c' : Client) : Prop extends c.Carries c' where
  results : c'.helm.results = c.helm.results
  gate : c'.flags.workAttachAllowed = c.flags.workAttachAllowed

theorem Client.Hands.of_subsides (hRest : c.Subsides c') (hHelm : c'.helm = c.helm) :
    c.Hands c' where
  toCarries := .of_subsides hRest (by simp [hHelm])
  results := by rw [hHelm]
  gate := hRest.gate

theorem Client.Hands.rfl {c : Client} : c.Hands c := .of_subsides (.refl _) (Eq.refl _)

/-- Logging an event hands the result on. -/
theorem Client.Hands.log (c : Client) (event : LifecycleEvent) : c.Hands (c.log event) where
  toCarries := .of_subsides (.log _) (by
    intro e hMem
    simp only [Client.helm, Client.log, List.mem_filter] at hMem ⊢
    exact ⟨List.mem_cons_of_mem _ hMem.1, hMem.2⟩)
  results := Eq.refl _
  gate := Eq.refl _

/-- A step of neither Control thread. -/
theorem Heralded.same {reader : ControlReaderPc} {writer : ControlWriterPc}
    (h : Heralded c reader writer) (hHands : c.Hands c') : Heralded c' reader writer := by
  refine h.carry hHands.toCarries (fun hSoon => .inr (.inl ?_)) fun hNothing => ?_
  · rw [announcing, hHands.reader, hHands.writer, hHands.results, hHands.announces]
    exact hSoon
  · rw [unattached, hHands.gate, hHands.results]
    exact hNothing

-- ---------------------------------------------------------------------------
-- The Control reader
-- ---------------------------------------------------------------------------

/-- A failure signalled for the session of the pair fails it. -/
theorem signalSession_heard {session reason : Text} (h : c.session.sessionId = session) :
    (c.signalSessionFailure session reason).pairFailed := by
  unfold Client.signalSessionFailure
  split
  · rename_i hIgnored
    exact (hIgnored.resolve_left (not_not_intro h)).symm
  · exact .inl rfl

/-- The answer to a spec that is in force announces it. -/
theorem beginApply_announces {session : Text} {spec : AdapterInstanceSpec}
    {result : ApplyInstanceSpecResult} (h : beginApply env c session spec = .inl result)
    (hApplied : result.applied = true) : result.announces c.spec = true := by
  unfold beginApply at h
  split at h
  · cases h
    cases hApplied
  · split at h
    · rename_i hSame
      split at h <;> cases h
      · cases hApplied
      · simp [ApplyInstanceSpecResult.announces, specApplied, specResult, hSame]
    · split at h
      · cases h
        cases hApplied
      · split at h <;> cases h
        cases hApplied

/-- Before the commit a step of the transaction leaves the spec in force alone, or there is
none. -/
theorem ApplyMove.hands {session : Text} {at_ next : ApplyPc}
    (h : ApplyMove env session c at_ (.inl next) c') (hFits : next.Fits env c'.spec) :
    next.committed = true ∨ c'.spec.specRevision = 0 ∨ (at_.committed = false ∧ c.Hands c') := by
  generalize hNext : (Sum.inl next : ApplyNext) = next' at h
  cases h with
  | begin hBegin =>
    obtain ⟨-, -, -, -, rfl⟩ := beginApply_inr hBegin
    exact .inr (.inr ⟨Eq.refl _, ⟨⟨Eq.refl _, Eq.refl _, fun _ => id, Eq.refl _, id⟩, Eq.refl _,
      Eq.refl _⟩⟩)
  | waited | current | proceed => exact .inr (.inr ⟨Eq.refl _, .rfl⟩)
  | lock =>
    exact .inr (.inr ⟨Eq.refl _, ⟨⟨Eq.refl _, Eq.refl _, fun _ => id, Eq.refl _, id⟩, Eq.refl _,
      Eq.refl _⟩⟩)
  | deactivate hStep =>
    cases hNext
    obtain ⟨-, -, -, hVacant, -⟩ | ⟨-, hNext, -⟩ := spec_deactivateStep hStep
    · exact .inr (.inl hVacant.revision)
    · refine .inr (.inl ?_)
      rename_i next
      cases next with
      | locked => exact absurd (Eq.refl _) hNext
      | waiting | stopping | clearing | notifying => exact hFits.2.2.revision
  | deactivated | applyFailed | startFailed | unwindStop | unwound | outdated | staleStop =>
    cases hNext
    exact .inr (.inl hFits.2.2.revision)
  | skipApply | applied | skipStart | started =>
    cases hNext
    refine .inr (.inl ?_)
    unfold nextStart at hFits
    split at hFits <;> exact hFits.2.2.1.revision
  | startedAll =>
    cases hNext
    exact .inr (.inl hFits.2.2.1.revision)
  | commit | skipReady | readied | readyFailed | readiedAll | readyDeactivate | readyDeactivated =>
    cases hNext
    exact .inl (Eq.refl _)
  | answer | stale | failed | staleUnwound | readyFailure | finish => cases hNext

/-- The result a transaction ends with announces the spec in force, or opens no gate. -/
theorem ApplyMove.concluded {session : Text} {at_ : ApplyPc} {result : ApplyInstanceSpecResult}
    (h : ApplyMove env session c at_ (.inr result) c') (hFits : at_.Fits env c.spec) :
    (result.applied = true ∧ result.announces c'.spec = true) ∨
      (result.applied = false ∧ (c'.spec.specRevision = 0 ∨ (at_.committed = false ∧ c.Hands c')))
      := by
  generalize hNext : (Sum.inr result : ApplyNext) = next at h
  have hUnlocked : c.Hands c.unlocked :=
    ⟨⟨rfl, rfl, fun _ => id, rfl, id⟩, rfl, rfl⟩
  cases h with
  | answer hResult =>
    cases hNext
    cases hApplied : result.applied with
    | true => exact .inl ⟨rfl, beginApply_announces hResult hApplied⟩
    | false => exact .inr ⟨rfl, .inr ⟨rfl, .rfl⟩⟩
  | stale hPc =>
    cases hNext
    refine .inr ⟨rfl, .inr ⟨?_, hUnlocked⟩⟩
    obtain rfl | rfl := hPc <;> rfl
  | failed | readyFailure =>
    cases hNext
    exact .inr ⟨rfl, .inl hFits.2.2.revision⟩
  | staleUnwound =>
    cases hNext
    refine .inr ⟨rfl, .inl ?_⟩
    rw [spec_unlocked, spec_callClear]
    exact hFits.2.2.revision
  | @finish cand =>
    cases hNext
    have hAlike := (alike_finishApply c session (grantedStatuses env cand.spec)).1
    obtain ⟨-, -, hForce, -⟩ := hFits
    refine .inl ⟨rfl, ?_⟩
    simp [ApplyInstanceSpecResult.announces, specApplied, specResult, hAlike.revision,
      hAlike.digest, hForce.revision, hForce.digest]
  | begin | waited | lock | current | proceed | deactivate | deactivated | skipApply | applied
  | applyFailed | skipStart | started | startFailed | startedAll | unwindStop | unwound | commit
  | outdated | staleStop | skipReady | readied | readyFailed | readiedAll | readyDeactivate
  | readyDeactivated => cases hNext

/-- The Control reader moves on with nothing to announce. -/
theorem Heralded.reads {reader reader' : ControlReaderPc} {writer : ControlWriterPc}
    (h : Heralded c reader writer) (hHands : c.Hands c')
    (hAnnouncing : reader.announcing c.spec = false) (hBrings : reader'.brings = false) :
    Heralded c' reader' writer := by
  refine h.carry hHands.toCarries (fun hSoon => .inr (.inl ?_)) fun hNothing => ?_
  · rw [announcing, hAnnouncing, Bool.false_or] at hSoon
    rw [announcing, hHands.writer, hHands.results, hHands.announces, Bool.or_assoc, hSoon,
      Bool.or_true]
  · rw [unattached, hHands.gate, hHands.results, hBrings]
    simp only [unattached, Bool.and_eq_true] at hNothing
    simp [hNothing]

/-- A step of the Control reader. -/
theorem Heralded.controlReader {pc pc' : ControlReaderPc} {writer : ControlWriterPc}
    {input : ReaderInput ControlResponse} (h : Heralded c pc writer)
    (hSession : ∀ fence, pc.fence? = some fence → c.session.sessionId = fence.sessionId)
    (hSpec : c.spec.Stands env pc.transaction?) (hSpec' : c'.spec.Stands env pc'.transaction?)
    (hStep : controlReaderStep env c pc input = some (pc', c')) : Heralded c' pc' writer := by
  by_cases hSignal : ∃ fence reason, pc = .signal fence reason
  · -- the failure is signalled for the session of the pair
    obtain ⟨fence, reason, rfl⟩ := hSignal
    cases input with
    | tick now =>
      cases hStep
      exact .of_failed (signalSession_heard (hSession fence rfl))
    | opened | received | readFailed | status | callback => cases hStep
  · have hMove := controlReaderStep_cases hStep
    cases hMove with
    | calm hHelm hRest hNone hNone' hResult hResult' =>
      refine h.reads (.of_subsides hRest hHelm) ?_ (by rw [ControlReaderPc.brings, hResult']; rfl)
      cases pc with
      | applying => cases hNone
      | queueing =>
        have hResult : ControlFrame.specResult? _ = none := hResult
        simp [ControlReaderPc.announcing, hResult]
      | signal => exact absurd ⟨_, _, rfl⟩ hSignal
      | _ => rfl
    | drain =>
      have hRest : c.Subsides (c.beginDrain env) := .beginDrain
      have hHelm := Client.helm_beginDrain c env
      exact h.reads ⟨.of_subsides hRest (by simp [hHelm]), by rw [hHelm], hRest.gate⟩ rfl rfl
    | refuse | receive => exact h.reads .rfl rfl rfl
    | apply hApply =>
      obtain hCommitted | hVacant | ⟨hBefore, hHands⟩ := hApply.hands hSpec'
      · -- the transaction has committed: it will announce what it committed
        exact .of_reader hCommitted
      · exact .of_vacant hVacant
      · exact h.reads hHands hBefore rfl
    | conclude hApply =>
      -- the transaction ends with a result that announces, or with nothing committed
      obtain ⟨-, hAnnounces⟩ | ⟨hRefused, hVacant | ⟨hBefore, hHands⟩⟩ := hApply.concluded hSpec
      · exact .of_reader hAnnounces
      · exact .of_vacant hVacant
      · exact h.reads hHands hBefore hRefused
    | @queue fence result reason _ hQueue =>
      have hRest : c.Subsides (c.queueControlLocked env (.applyInstanceSpecResult result)).2 :=
        .queueControlLocked _
      rw [hQueue] at hRest
      have hHelm := Client.helm_queueControlLocked hQueue
      have hResults : c'.helm.results = c.helm.results ++ [result] := by rw [hHelm]; rfl
      have hCarries : c.Carries c' := .of_subsides hRest (by simp [hHelm])
      -- the result moves from the reader to the queue
      refine h.carry hCarries (fun hSoon => .inr (.inl ?_)) fun hNothing => ?_
      · rw [announcing, hCarries.writer, hResults, hCarries.announces, List.any_append]
        simp only [announcing, ControlReaderPc.announcing, ControlFrame.specResult?,
          Option.any_some, Bool.or_eq_true] at hSoon
        obtain (hSoon | hSoon) | hSoon := hSoon <;> simp [hSoon]
      · simp only [unattached, ControlReaderPc.brings, ControlReaderPc.result?,
          ControlFrame.specResult?, Option.any_some, Bool.and_eq_true, Bool.not_eq_true']
          at hNothing
        obtain ⟨⟨⟨hGate, hReader⟩, hQueued⟩, hWriter⟩ := hNothing
        rw [unattached, hResults, hRest.gate, List.any_append]
        simp [hGate, hReader, hQueued, hWriter, ControlReaderPc.brings, ControlReaderPc.result?]
    | overflow => exact .of_reader rfl
    | signal => exact absurd ⟨_, _, rfl⟩ hSignal

-- ---------------------------------------------------------------------------
-- The Control writer
-- ---------------------------------------------------------------------------

/-- The Control writer moves on with nothing to announce. -/
theorem Heralded.writes {reader : ControlReaderPc} {writer writer' : ControlWriterPc}
    (h : Heralded c reader writer) (hHands : c.Hands c')
    (hAnnouncing : writer.announcing c.spec = false) (hBrings : writer'.brings = false) :
    Heralded c' reader writer' := by
  refine h.carry hHands.toCarries (fun hSoon => .inr (.inl ?_)) fun hNothing => ?_
  · rw [announcing, hAnnouncing, Bool.or_false] at hSoon
    rw [announcing, hHands.reader, hHands.results, hHands.announces, hSoon, Bool.true_or]
  · rw [unattached, hHands.gate, hHands.results, hBrings]
    simp only [unattached, Bool.and_eq_true] at hNothing
    simp [hNothing]

/-- A pair that is no longer live has failed. -/
theorem pairFailed_of_pairLive {fence : SessionFence} (h : c.pairLive fence = false)
    (hSession : c.session.sessionId = fence.sessionId) : c.pairFailed := by
  simp only [Client.pairLive, hSession, BEq.rfl, Bool.true_and, Bool.and_eq_false_iff,
    Bool.not_eq_false'] at h
  exact h

/-- Opening the gate touches the gate alone. -/
theorem openAttachGate_carries (c : Client) (fence : SessionFence) :
    c.Carries (c.openAttachGate fence) ∧
      (c.openAttachGate fence).helm.results = c.helm.results := by
  unfold Client.openAttachGate
  split
  · exact ⟨⟨rfl, rfl, fun _ => id, rfl, id⟩, rfl⟩
  · exact ⟨⟨rfl, rfl, fun _ => id, rfl, id⟩, rfl⟩

/-- Only an applied result leads to the gate. -/
theorem brings_afterControlWrite {fence : SessionFence} {frame : ControlFrame}
    (h : (afterControlWrite fence frame).brings = true) :
    frame.specResult?.any (·.applied) = true := by
  unfold afterControlWrite at h
  split at h
  · split at h
    · assumption
    · simp only at h
      split at h <;> cases h
  · cases h

theorem option_any_toList {α : Type} (p : α → Bool) (o : Option α) : o.toList.any p = o.any p := by
  cases o <;> simp

/-- A step of the Control writer. -/
theorem Heralded.controlWriter {pc pc' : ControlWriterPc} {reader : ControlReaderPc}
    (h : Heralded c reader pc)
    (hFence : ∀ fence, pc.fence? = some fence → Current c fence)
    (hMove : ControlWriterMove env c pc pc' c') : Heralded c' reader pc' := by
  have hSession : ∀ fence, pc.fence? = some fence → c.session.sessionId = fence.sessionId :=
    fun fence hSome => (hFence fence hSome).sessionId.symm
  cases hMove with
  | exit hOver => exact .of_failed (pairFailed_of_pairLive hOver (hSession _ rfl))
  -- the writer takes a frame from its queue
  | dequeue hHelm hRest =>
    rename_i frame
    have hEvents : c'.helm.events = c.helm.events := by rw [hHelm]
    have hResults : c.helm.results = frame.specResult?.toList ++ c'.helm.results := by rw [hHelm]
    have hCarries : c.Carries c' := .of_subsides hRest (by simp [hEvents])
    -- the result moves from the queue to the writer
    refine h.carry hCarries (fun hSoon => .inr (.inl ?_)) fun hNothing => ?_
    · rw [announcing, hResults, List.any_append, option_any_toList] at hSoon
      rw [announcing, hCarries.reader, hCarries.announces, hCarries.writer]
      simp only [ControlWriterPc.announcing, Bool.or_eq_true, Bool.false_eq_true, or_false]
        at hSoon ⊢
      tauto
    · rw [unattached, hResults, List.any_append, option_any_toList] at hNothing
      rw [unattached, hRest.gate]
      simp only [ControlWriterPc.brings, Bool.and_eq_true, Bool.not_eq_true',
        Bool.or_eq_false_iff] at hNothing ⊢
      tauto
  | heartbeat now hHelm hRest => exact h.writes (.of_subsides hRest hHelm) rfl rfl
  | @write fence header frame =>
    have hCarries : c.Carries (c.log (.controlWritten fence.connectionEpoch header frame)) :=
      (Client.Hands.log _ _).toCarries
    refine h.carry hCarries (fun hSoon => ?_) fun hNothing => ?_
    · by_cases hAnnounces : frame.specResult?.any (·.announces c.spec) = true
      · -- the announcement is on the wire
        cases frame with
        | applyInstanceSpecResult result =>
          simp only [ControlFrame.specResult?, Option.any_some,
            ApplyInstanceSpecResult.announces, Bool.and_eq_true, beq_iff_eq] at hAnnounces
          refine .inl ⟨header, result, ?_, hAnnounces.1.1, hAnnounces.1.2, hAnnounces.2⟩
          have hMem : LifecycleEvent.controlWritten fence.connectionEpoch header
              (.applyInstanceSpecResult result) ∈ (c.log (.controlWritten fence.connectionEpoch
                header (.applyInstanceSpecResult result))).helm.events :=
            List.mem_filter.mpr ⟨List.mem_cons_self, rfl⟩
          rw [hCarries.epoch, ← (hFence fence rfl).epoch]
          exact hMem
        | heartbeat | drainStatus => cases hAnnounces
      · refine .inr (.inl ?_)
        simp only [announcing, ControlWriterPc.announcing, hAnnounces, Bool.or_false] at hSoon
        rw [announcing, hCarries.reader, hCarries.announces]
        simp only [Bool.or_eq_true] at hSoon ⊢
        exact .inl hSoon
    · simp only [unattached, Bool.and_eq_true, Bool.not_eq_true'] at hNothing ⊢
      refine ⟨hNothing.1, ?_⟩
      by_contra hBrings
      have hApplied := brings_afterControlWrite (by simpa using hBrings)
      have hNot : frame.specResult?.any (·.applied) = false := hNothing.2
      rw [hApplied] at hNot
      cases hNot
  | lose => exact .of_writer rfl
  | gate =>
    rename_i fence
    obtain ⟨hCarries, hResults⟩ := openAttachGate_carries c fence
    refine h.carry hCarries (fun hSoon => .inr (.inl ?_)) fun hNothing => ?_
    · rw [announcing, hCarries.reader, hResults, hCarries.announces]
      exact hSoon
    · simp [unattached, ControlWriterPc.brings] at hNothing
  | signal => exact .of_failed (signalSession_heard (hSession _ rfl))
  | terminal =>
    refine .of_failed ?_
    unfold Client.signalTerminalSessionFailure
    split
    · rename_i hIgnored
      exact .inr (hIgnored.resolve_left (not_not_intro (hSession _ rfl)))
    · exact .inl rfl

-- ---------------------------------------------------------------------------
-- The system
-- ---------------------------------------------------------------------------

/-- A supervisor that waits on a pair has a Control stream. -/
theorem SupervisorPc.inside_of_waits {pc : SupervisorPc} (h : pc.waits = true) :
    pc.phase.control = true ∧ pc.phase ≠ .outside := by
  cases pc <;> first | exact ⟨rfl, by simp [SupervisorPc.phase]⟩ | cases h

/-- A new pair starts with a closed gate and nothing to announce. -/
theorem unattached_prepare {fence : SessionFence} {reader : ControlReaderPc}
    {writer : ControlWriterPc} (hReader : reader.brings = false) (hWriter : writer.fence? = none) :
    unattached (c.prepareConnectionPair fence) reader writer = true := by
  have hWriter : writer.brings = false := by
    cases writer <;> first | rfl | cases hWriter
  rw [unattached, hReader, hWriter]
  rfl

/-- A new Control writer has nothing to announce, as the one before it. -/
theorem Heralded.spawned {reader : ControlReaderPc} {writer : ControlWriterPc}
    {fence : SessionFence} (h : Heralded c reader writer) (hWriter : writer.fence? = none) :
    Heralded c reader (.loop fence) := by
  have hQuiet : writer.announcing c.spec = false := by
    cases writer <;> first | rfl | cases hWriter
  exact h.writes .rfl hQuiet rfl

/-- A step of the Work writer. -/
theorem Heralded.workWriter {pc pc' : WorkWriterPc} {reader : ControlReaderPc}
    {writer : ControlWriterPc} (h : Heralded c reader writer)
    (hMove : WorkWriterMove env c pc pc' c') : Heralded c' reader writer := by
  cases hMove with
  | calm hHelm hRest => exact h.same (.of_subsides hRest hHelm)
  | attach _ _ hHelm hRest => exact h.same (.of_subsides hRest hHelm)
  | attached | write => exact h.same (.log _ _)
  | ready =>
    unfold Client.markReady
    split
    · exact h.same ⟨⟨rfl, rfl, fun _ => id, rfl, id⟩, rfl, rfl⟩
    · exact h

/-- Every step keeps track of the announcement. -/
theorem Heralds.step (hReach : (machine env).Reachable s) (h : Heralds s)
    (hStep : (machine env).step s a = some s') : Heralds s' := by
  have hThreads := (shape_of_reachable hReach).threads
  have hStanding := standing_of_reachable hReach
  have hStanding' := standing_of_reachable (hReach.step hStep)
  intro hWaits'
  -- `Stop` has joined the supervisor before it deactivates
  have hJoined : s.stopper.joined = true → s.supervisor.waits = true → False := by
    intro hStopper hWaits
    rw [hThreads.stopper hStopper] at hWaits
    cases hWaits
  have hStep : s.step env a = some s' := hStep
  cases System.step_cases hStep with
  | worker hWorker =>
    -- workers and the Work reader announce nothing
    have hRest := (workerStep_cases hWorker).subsides
    have hHelm := helm_workerStep hWorker
    refine (h hWaits').same ⟨⟨?_, ?_, ?_, hRest.epoch, Or.imp hRest.failed hRest.stopped⟩, ?_,
      hRest.gate⟩
    · rw [spec_of_helm hHelm]
    · rw [spec_of_helm hHelm]
    · simp [hHelm]
    · rw [hHelm]
  | workReader hReader =>
    exact (h hWaits').same (.of_subsides (workReaderStep_cases hReader).subsides
      (helm_workReaderStep hReader))
  | publishSource =>
    exact (h hWaits').same (.of_subsides subsides_publishSource
      (Client.helm_of_surround surround_publishSource))
  | closeSource =>
    exact (h hWaits').same (.of_subsides subsides_closeSource
      (Client.helm_of_surround surround_closeSource))
  | flags _ hRest _ _ _ _ hHelm => exact (h hWaits').same (.of_subsides hRest hHelm)
  | controlReader hReader hSpawn =>
    -- the Control reader queues the announcement, and spawns the writer
    have hNext := (h hWaits').controlReader
      (fun fence hFence => (hThreads.controlReaderFence fence hFence).sessionId.symm)
      hStanding.spec hStanding'.spec hReader
    obtain hSame | ⟨fence, hOpening, -, hLoop⟩ := hSpawn
    · rw [hSame]
      exact hNext
    · rw [hLoop]
      exact hNext.spawned (hThreads.controlWriter (by rw [hOpening]; rfl))
  | controlWriter hWriter =>
    exact (h hWaits').controlWriter hThreads.controlWriterFence (controlWriterStep_cases hWriter)
  | workWriter hWriter => exact (h hWaits').workWriter (workWriterStep_cases hWriter)
  | @supervisor input pc' c' hSupervisor =>
    have hMove := supervisorStep_cases hSupervisor
    have hWaits' : pc'.waits = true := hWaits'
    generalize hPc : s.supervisor = pc at hMove
    cases hMove with
    -- the supervisor waits inside a pair only
    | quiet _ _ _ hPhase => exact absurd hPhase (SupervisorPc.inside_of_waits hWaits').2
    | @prepare r fence =>
      -- a new pair has nothing attached yet
      obtain ⟨-, hWriter, -⟩ := hThreads.paired (by rw [hPc]; rfl)
      have hReader : (s.spawn (.awaitAttach r fence)).controlReader = .opening fence := by
        simp [System.spawn, hPc]
      have hSpawned := (spawn_writers (s := s) (.awaitAttach r fence)).1
      refine fun _ => .inr (.inr (.inr (unattached_prepare ?_ ?_)))
      · exact congrArg ControlReaderPc.brings hReader
      · exact (congrArg ControlWriterPc.fence? hSpawned).trans hWriter
    | @attach r fence =>
      -- the Work reader is spawned beside the Control plane
      have hReader : (s.spawn (.awaitFailure r fence)).controlReader = s.controlReader := by
        simp [System.spawn, hPc]
      have hSpawned := (spawn_writers (s := s) (.awaitFailure r fence)).1
      have hBefore := h (by rw [hPc]; rfl)
      rw [← hReader, ← hSpawned] at hBefore
      exact hBefore
    | install | ended | joinControl | joinWork | replaceBegin | replaceWait | release | clear
    | advance | deactivate | endSession => cases hWaits'
  -- a supervisor that starts or is joined does not wait
  | startThreads | joinSupervisor => cases hWaits'
  | joinWorkers => exact h hWaits'
  | stopDeactivate hStopper => exact (hJoined (by rw [hStopper]; rfl) hWaits').elim
  | stopReset hStopper => exact (hJoined (by rw [hStopper]; rfl) hWaits').elim

/-- On every pair the spec in force was announced, is being announced, or the gate is
closed. -/
theorem heralds_of_reachable (h : (machine env).Reachable s) : Heralds s := by
  refine h.invariant ?_ fun s a s' hReach hHeralds hStep => hHeralds.step hReach hStep
  intro hWaits
  cases hWaits

-- ---------------------------------------------------------------------------
-- What is written
-- ---------------------------------------------------------------------------

theorem Client.Feed.written (h : c.Feed env c') : c'.wire.written = c.wire.written := by
  cases h with
  | nothing hWire | work _ _ hWire | control _ _ hWire => rw [hWire]

/-- What a step writes. -/
theorem written_of_step (hStep : s.step env a = some s') :
    s'.client.wire.written = s.client.wire.written ∨
    (∃ fence header frame, (s.workWriter = .writingAttach fence header frame ∨
        s.workWriter = .writing fence header frame) ∧
      s'.client.wire.written =
        .workWritten fence.connectionEpoch header frame :: s.client.wire.written) ∨
    ∃ fence header frame, s.controlWriter = .writing fence header frame ∧
      s'.client.wire.written =
        .controlWritten fence.connectionEpoch header frame :: s.client.wire.written := by
  cases System.step_cases hStep with
  | worker hWorker => exact .inl (feed_workerStep hWorker).written
  | workReader hReader =>
    obtain hFeed | ⟨_, _, -, -, -, hClient⟩ := wire_workReaderStep hReader
    · exact .inl hFeed.written
    · subst hClient
      exact .inl rfl
  | controlReader hReader =>
    obtain hFeed | ⟨_, _, -, -, -, hClient⟩ := wire_controlReaderStep hReader
    · exact .inl hFeed.written
    · subst hClient
      exact .inl rfl
  | workWriter hWriter =>
    have hWrite := workWrite_of_step hWriter
    generalize hPc : s.workWriter = pc at hWrite
    cases hWrite with
    | attach => exact .inl rfl
    | attached => exact .inr (.inl ⟨_, _, _, .inl rfl, rfl⟩)
    | wrote => exact .inr (.inl ⟨_, _, _, .inr rfl, rfl⟩)
    | ready hWire | ended _ _ hWire => exact .inl (congrArg Wire.written hWire)
    | dequeue _ _ hWire => exact .inl ((congrArg Wire.written hWire).trans rfl)
  | controlWriter hWriter =>
    have hWrite := controlWrite_of_step hWriter
    generalize hPc : s.controlWriter = pc at hWrite
    cases hWrite with
    | wrote => exact .inr (.inr ⟨_, _, _, rfl, rfl⟩)
    | dequeue _ _ hWire | heartbeat _ hWire | quiet _ _ hWire =>
      exact .inl ((congrArg Wire.written hWire).trans rfl)
  | supervisor hSupervisor =>
    obtain hWire | hReset := wire_supervisorStep hSupervisor
    · exact .inl (congrArg Wire.written hWire)
    · exact .inl hReset.written
  | publishSource => exact .inl (Client.Feed.publishSource _ _).written
  | closeSource => exact .inl (Client.Feed.closeSource _ _).written
  | flags _ _ _ _ _ _ _ _ _ hClient =>
    obtain rfl | rfl | rfl := hClient <;> exact .inl rfl
  | startThreads | joinSupervisor | joinWorkers | stopReset => exact .inl rfl
  | stopDeactivate _ hDeactivate hNext =>
    have hWire := congrArg Wire.written (wire_deactivateStep hDeactivate)
    obtain ⟨_, -, -, rfl⟩ | ⟨-, -, rfl⟩ := hNext <;> exact .inl hWire

/-- An announcement is among the events that were written. -/
theorem announced_written {epoch revision : Nat} {digest : Text}
    (h : Announced c.helm.events epoch revision digest) :
    Announced c.wire.written epoch revision digest := by
  obtain ⟨header, result, hMem, hResult⟩ := h
  exact ⟨header, result, List.mem_filter.mpr ⟨(List.mem_filter.mp hMem).1, rfl⟩, hResult⟩

/-- What the Work writer has done on the stream of its pair. -/
def WorkWriterPc.Attaches (written : List LifecycleEvent) : WorkWriterPc → Prop
  | .writingAttach fence _ frame => ∃ revision digest, frame = .attach revision digest ∧
    revision ≠ 0 ∧ digest ≠ [] ∧ Announced written fence.connectionEpoch revision digest
  | .markReady fence | .loop fence | .writing fence _ _ =>
    ∃ header frame, .workWritten fence.connectionEpoch header frame ∈ written
  | _ => True

theorem WorkWriterPc.Attaches.mono {older newer : List LifecycleEvent} {pc : WorkWriterPc}
    (h : pc.Attaches older) (hMono : ∀ e ∈ older, e ∈ newer) : pc.Attaches newer := by
  cases pc with
  | writingAttach =>
    obtain ⟨revision, digest, hFrame, hRevision, hDigest, hOut⟩ := h
    exact ⟨revision, digest, hFrame, hRevision, hDigest, hOut.mono hMono⟩
  | markReady | loop | writing =>
    obtain ⟨header, frame, hMem⟩ := h
    exact ⟨header, frame, hMono _ hMem⟩
  | notStarted | attach | signal | exited => trivial

/-- The attaches of a run follow the announcements, and the next one will. -/
structure Attachments (s : System) : Prop where
  writer : s.workWriter.Attaches s.client.wire.written
  follow : AttachesFollow s.client.wire.written

/-- An attach that is built with the spec settled names an announced spec. -/
theorem attaches_of_build (hReach : (machine env).Reachable s)
    (hSettled : s.attachesSettled a = true) (hBuilds : s.buildsAttach a = true)
    {fence : SessionFence} (hPc : s.workWriter = .attach fence) :
    s.client.spec.specRevision ≠ 0 ∧ s.client.spec.specDigest ≠ [] ∧
      Announced s.client.wire.written fence.connectionEpoch s.client.spec.specRevision
        s.client.spec.specDigest := by
  have hThreads := (shape_of_reachable hReach).threads
  have hHas : s.workWriter.fence? = some fence := by rw [hPc]; rfl
  have hFence := hThreads.workWriterFence fence hHas
  have hPhase := hThreads.phase_of_workWriter hHas
  rw [System.attachesSettled, hBuilds] at hSettled
  simp only [Bool.not_true, Bool.false_or, Bool.and_eq_true, bne_iff_ne, ne_eq,
    Bool.not_eq_true'] at hSettled
  obtain ⟨hRevision, hQuiet⟩ := hSettled
  have hGate : s.client.attachAllowed fence = true ∧ s.client.pairLive fence = true := by
    cases a with
    | workWriter input =>
      cases input with
      | tick => simpa [System.buildsAttach, hPc] using hBuilds
      | heartbeat | wrote => cases hBuilds
    | _ => cases hBuilds
  have hLive : ¬s.client.pairFailed := by
    have hPair := hGate.2
    simp only [Client.pairLive, Bool.and_eq_true, Bool.not_eq_true'] at hPair
    simp [Client.pairFailed, hPair]
  have hOpen : s.client.flags.workAttachAllowed = true := by
    have hOpen := hGate.1
    simp only [Client.attachAllowed, Bool.and_eq_true] at hOpen
    exact hOpen.1
  -- the pair is live, so the supervisor waits on it
  have hWaits : s.supervisor.waits = true := by
    obtain ⟨hWaits | hRetires, -⟩ := SupervisorPc.paired (.inr hPhase)
    · exact hWaits
    · exact absurd ((lives_of_reachable hReach).retires hRetires) hLive
  refine ⟨hRevision, ?_, ?_⟩
  · obtain ⟨cand, hForce⟩ := (standing_of_reachable hReach).inForce hRevision
    rw [hForce.digest]
    exact hForce.valid.digest
  · obtain hOut | hSoon | hFailed | hNothing := heralds_of_reachable hReach hWaits hRevision
    · rw [hFence.epoch]
      exact announced_written hOut
    · rw [hQuiet] at hSoon
      cases hSoon
    · exact absurd hFailed hLive
    · simp [unattached, hOpen] at hNothing

-- ---------------------------------------------------------------------------
-- Runs
-- ---------------------------------------------------------------------------

/-- A frame of another stream, or no frame, leaves the attaches in order. -/
theorem AttachesFollow.cons {written : List LifecycleEvent} {event : LifecycleEvent}
    (h : AttachesFollow written)
    (hEvent : ∀ epoch header frame, event = .workWritten epoch header frame →
      (∀ header' frame', .workWritten epoch header' frame' ∉ written) →
      ∃ revision digest, frame = .attach revision digest ∧ revision ≠ 0 ∧ digest ≠ [] ∧
        Announced written epoch revision digest) : AttachesFollow (event :: written) := by
  intro later earlier epoch header frame hSplit hFirst
  cases later with
  | nil =>
    obtain ⟨rfl, rfl⟩ := List.cons.inj hSplit
    exact hEvent epoch header frame rfl hFirst
  | cons newest later =>
    obtain ⟨-, hRest⟩ := List.cons.inj hSplit
    exact h later earlier epoch header frame hRest hFirst

/-- What holds of the written events holds of the whole log. -/
theorem attachesFollow_trace (h : AttachesFollow c.wire.written) : AttachesFollow c.trace := by
  intro later earlier epoch header frame hSplit hFirst
  have hWritten : c.wire.written = later.filter LifecycleEvent.written ++
      .workWritten epoch header frame :: earlier.filter LifecycleEvent.written := by
    show c.trace.filter _ = _
    rw [hSplit, List.filter_append, List.filter_cons_of_pos rfl]
  obtain ⟨revision, digest, hFrame, hRevision, hDigest, hOut⟩ :=
    h _ _ epoch header frame hWritten
      fun header' frame' hMem => hFirst header' frame' (List.mem_filter.mp hMem).1
  exact ⟨revision, digest, hFrame, hRevision, hDigest,
    hOut.mono fun e hMem => (List.mem_filter.mp hMem).1⟩

/-- The Work writer keeps its part when another thread moves. -/
theorem Attachments.writer_step (hReach : (machine env).Reachable s) (h : Attachments s)
    (hSettled : s.attachesSettled a = true) (hStep : s.step env a = some s')
    (hMono : ∀ e ∈ s.client.wire.written, e ∈ s'.client.wire.written) :
    s'.workWriter.Attaches s'.client.wire.written := by
  have hSame : s'.workWriter = s.workWriter → s'.workWriter.Attaches s'.client.wire.written := by
    intro hEq
    rw [hEq]
    exact h.writer.mono hMono
  by_cases hMoves : s'.workWriter = s.workWriter
  · exact hSame hMoves
  · by_cases hSpawned : ∃ fence, s'.workWriter = .attach fence
    · obtain ⟨fence, hPc⟩ := hSpawned
      rw [hPc]
      trivial
    · obtain ⟨input, rfl, hWriter⟩ := System.workWriter_of_ne hStep hMoves
        fun fence hPc => hSpawned ⟨fence, hPc⟩
      have hWrite := workWrite_of_step hWriter
      have hBefore := h.writer
      generalize hPc : s.workWriter = pc at hWrite hBefore hWriter
      generalize hPc' : s'.workWriter = pc' at hWrite hWriter ⊢
      generalize hClient : s'.client = c' at hWrite hMono hWriter ⊢
      cases hWrite with
      | @attach fence =>
        -- only a tick builds the attach
        have hBuilds : s.buildsAttach (.workWriter input) = true := by
          cases workWriterStep_branch hWriter with
          | attach hAllowed hLive => simp [System.buildsAttach, hPc, hAllowed, hLive]
        obtain ⟨hRevision, hDigest, hOut⟩ := attaches_of_build hReach hSettled hBuilds hPc
        exact ⟨_, _, rfl, hRevision, hDigest, hOut.mono hMono⟩
      | @attached fence header frame | @wrote fence header frame =>
        exact ⟨header, frame, List.mem_filter.mpr ⟨List.mem_cons_self, rfl⟩⟩
      | ready | dequeue =>
        obtain ⟨header, frame, hMem⟩ := hBefore
        exact ⟨header, frame, hMono _ hMem⟩
      | ended _ hOver =>
        obtain rfl | ⟨reason, rfl⟩ := hOver <;> trivial

/-- One step of a run whose attaches are settled keeps the invariant. -/
theorem Attachments.step (hReach : (machine env).Reachable s) (h : Attachments s)
    (hSettled : s.attachesSettled a = true) (hStep : s.step env a = some s') :
    Attachments s' := by
  obtain hSame | ⟨fence, header, frame, hPc, hNew⟩ | ⟨fence, header, frame, -, hNew⟩ :=
    written_of_step hStep
  · refine ⟨h.writer_step hReach hSettled hStep (by simp [hSame]), ?_⟩
    rw [hSame]
    exact h.follow
  · refine ⟨h.writer_step hReach hSettled hStep (by simp +contextual [hNew]), ?_⟩
    rw [hNew]
    refine h.follow.cons ?_
    intro epoch header' frame' hEvent hFirst
    cases hEvent
    have hWriter := h.writer
    obtain hPc | hPc := hPc <;> rw [hPc] at hWriter
    · exact hWriter
    · -- the stream has its first frame already
      obtain ⟨_, _, hMem⟩ := hWriter
      exact absurd hMem (hFirst _ _)
  · refine ⟨h.writer_step hReach hSettled hStep (by simp +contextual [hNew]), ?_⟩
    rw [hNew]
    exact h.follow.cons fun _ _ _ hEvent => by cases hEvent

/-- In runs whose attaches find a spec in force with its result out, every Work stream
starts with the attach of a spec that was announced on the Control stream of its epoch. -/
theorem attach_follows_apply
    (h : (machine env).Reaches (fun s a => s.attachesSettled a = true) s) :
    AttachesFollow s.client.trace := by
  refine attachesFollow_trace (Machine.Reaches.invariant (I := Attachments) ?_ ?_ h).follow
  · refine ⟨trivial, ?_⟩
    intro later earlier epoch header frame hSplit
    cases later <;> cases hSplit
  · intro s a s' hPast hAttachments hSettled hStep
    exact hAttachments.step hPast.reachable hSettled hStep

section Runs

open Deployment

/-- The newest event is the attach of this revision, the first frame on its stream. -/
def attachesFirst (p : Nat → Bool) : List LifecycleEvent → Bool
  | .workWritten epoch _ (.attach revision _) :: earlier =>
    p revision && earlier.all fun event => (event.workFrame? epoch).isNone
  | _ => false

/-- A trace that ends in an attach, with nothing written on that pair before it. -/
theorem attachesFirst_inv {p : Nat → Bool} {trace : List LifecycleEvent}
    (h : attachesFirst p trace = true) :
    ∃ epoch header revision digest earlier, p revision = true ∧
      trace = [] ++ .workWritten epoch header (.attach revision digest) :: earlier ∧
      ∀ header' frame', .workWritten epoch header' frame' ∉ earlier := by
  unfold attachesFirst at h
  split at h
  · rename_i epoch header revision digest earlier
    simp only [Bool.and_eq_true, List.all_eq_true] at h
    refine ⟨epoch, header, revision, digest, earlier, h.1, rfl, fun header' frame' hMem => ?_⟩
    have hNone := h.2 _ hMem
    simp [LifecycleEvent.workFrame?] at hNone
  · cases h

/-- The first pair of a session attaches with the spec it has announced. -/
theorem attach_follows_apply_first :
    ∃ s epoch header revision digest earlier,
      (machine deployment).Reaches (fun s a => s.attachesSettled a = true) s ∧
      s.client.trace = .workWritten epoch header (.attach revision digest) :: earlier ∧
      Announced earlier epoch revision digest := by
  obtain ⟨s, hReach, hRun⟩ := (machine deployment).exists_reaches_of_runWith
    (fun s a => s.attachesSettled a = true) bringUp.dropLast
    (fun s => attachesFirst (fun _ => true) s.client.trace) (by decide +kernel)
  obtain ⟨epoch, header, revision, digest, earlier, -, hSplit, hFirst⟩ := attachesFirst_inv hRun
  obtain ⟨_, _, hFrame, -, -, hOut⟩ :=
    attach_follows_apply hReach [] earlier epoch header _ hSplit hFirst
  cases hFrame
  exact ⟨s, epoch, header, revision, digest, earlier, hReach, hSplit, hOut⟩

/-- The Host sends a second spec after the gate is open. The first one is withdrawn before
the Work writer builds its attach, which then names revision 0. -/
theorem attach_blank :
    ∃ s, (machine deployment).Reachable s ∧ ¬AttachesFollow s.client.trace := by
  obtain ⟨s, hReach, hRun⟩ := (machine deployment).exists_reaches_of_runWith (fun _ _ => True)
    (register ++ .controlReader (.opened true) :: receiveSpec 1 1 1 ++ transaction 0 ++
      writeControl ++
      [.controlWriter .tick, .supervisor .tick, .workReader (.opened true)] ++
      receiveSpec 1 2 2 ++ List.replicate 6 (.controlReader (.tick 0)) ++
      [.workWriter .tick, .workWriter (.wrote true)])
    (fun s => attachesFirst (· == 0) s.client.trace) (by decide +kernel)
  obtain ⟨epoch, header, revision, digest, earlier, hBlank, hSplit, hFirst⟩ :=
    attachesFirst_inv hRun
  refine ⟨s, hReach, fun hFollow => ?_⟩
  obtain ⟨_, _, hFrame, hRevision, -⟩ := hFollow [] earlier epoch header _ hSplit hFirst
  cases hFrame
  exact hRevision (by simpa using hBlank)

end Runs

end AdapterRuntime.Model
