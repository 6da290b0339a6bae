import Mathlib
import AdapterRuntime.Lib.Brackets
import AdapterRuntime.Proof.Grants

/-!
# AdapterRuntime — the duties lifecycle callbacks leave

The callbacks come in brackets: `start` and `stop` of a capability, and
`apply_instance_spec` and `clear_instance_spec` of a spec. Where the opening callback
is not bound, the point at which the transaction passes it opens the bracket. The
unwinding is written out several times in the source; what all of it works off is one
`Duty`, the capabilities to stop, in this order, and whether the spec is to be cleared.
`Kept` ties the duty at a point of the program to the callbacks that were made.

* `Kept.stop`, `Kept.clear`, `Kept.deactivateStep` — steps that work off the duty.
* `Kept.apply`, `Kept.start`, `Kept.commit` — callbacks that add to it.
* `SpecState.InForce.order` — a committed spec is stopped in reverse start order when
  it lists its capabilities by id.
-/

namespace AdapterRuntime.Model

open AdapterRuntime.Lib

variable {env : Env} {c c' : Client} {s s' : System}

-- ---------------------------------------------------------------------------
-- The callback trace
-- ---------------------------------------------------------------------------

/-- The callbacks whose order is at stake, the points at which unbound ones are passed,
and the commits between them. -/
def LifecycleEvent.isCall : LifecycleEvent → Bool
  | .applyCalled _ _ | .applySkipped _ | .startCalled _ _ | .startSkipped _ | .readyCalled _ _
  | .stopCalled _ | .clearCalled | .specCommitted _ | .sessionLostCalled => true
  | _ => false

/-- The callback trace of a client, newest first. -/
def Client.calls (c : Client) : List LifecycleEvent := c.trace.filter LifecycleEvent.isCall

namespace LifecycleEvent

/-- The capability counts as started: its `start` succeeded, or it has none. -/
def startOf (b : Nat) : LifecycleEvent → Bool
  | .startCalled k ok => k == b && ok
  | .startSkipped k => k == b
  | _ => false

/-- `stop` of the capability is called. -/
def stopOf (b : Nat) : LifecycleEvent → Bool
  | .stopCalled k => k == b
  | _ => false

/-- `ready` of the capability is called. -/
def readyOf (b : Nat) : LifecycleEvent → Bool
  | .readyCalled k _ => k == b
  | _ => false

/-- The transaction has got past the deactivation of the previous spec. -/
def isApply : LifecycleEvent → Bool
  | .applyCalled _ _ | .applySkipped _ => true
  | _ => false

/-- `clear_instance_spec` is called. -/
def isClear : LifecycleEvent → Bool
  | .clearCalled => true
  | _ => false

/-- A spec that grants the capability was committed. -/
def commitOf (env : Env) (b : Nat) : LifecycleEvent → Bool
  | .specCommitted spec =>
    match env.validateInstanceSpec spec with
    | .ok bindings => bindings.contains b
    | .error _ => false
  | _ => false

end LifecycleEvent

open LifecycleEvent

/-- The capability was started and has not been stopped since. -/
def started (b : Nat) : List LifecycleEvent → Bool := isOpen (startOf b) (stopOf b)

/-- The `ready` callback was called since the capability was last started. -/
def readied (b : Nat) : List LifecycleEvent → Bool := isOpen (readyOf b) (startOf b)

/-- A spec was applied and has not been cleared since. -/
def applied : List LifecycleEvent → Bool := isOpen isApply isClear

/-- The capability was started or committed, and has not been stopped since. -/
def held (env : Env) (b : Nat) : List LifecycleEvent → Bool :=
  isOpen (fun e => startOf b e || commitOf env b e) (stopOf b)

/-- A spec was applied or committed, and has not been cleared since. -/
def specHeld : List LifecycleEvent → Bool :=
  isOpen (fun e => isApply e || e.commit?.isSome) isClear

/-- The starts of the last transaction, with their results. -/
def transactionStarts : List LifecycleEvent → List (Nat × Bool)
  | [] => []
  | .applyCalled _ _ :: _ | .applySkipped _ :: _ => []
  | .startCalled b ok :: past => (b, ok) :: transactionStarts past
  | .startSkipped b :: past => (b, true) :: transactionStarts past
  | _ :: past => transactionStarts past

/-- The capability has both lifecycle callbacks. -/
def Env.bindsLife (env : Env) (b : Nat) : Bool :=
  env.hasCallback CapabilityCallbacks.start b && env.hasCallback CapabilityCallbacks.stop b

/-- Every capability with a `stop` callback has been stopped, and the spec cleared. -/
structure Quiet (env : Env) (calls : List LifecycleEvent) : Prop where
  stopped : ∀ b, env.hasCallback CapabilityCallbacks.stop b = true → held env b calls = false
  cleared : env.callbacks.clearInstanceSpec = true → specHeld calls = false

/-- The last committed spec grants `b`; every start of its transaction succeeded, and
every capability it grants was started in it and is started. -/
def StartedAll (env : Env) (b : Nat) (past : List LifecycleEvent) : Prop :=
  ∃ spec bindings, past.findSome? (·.commit?) = some spec ∧
    env.validateInstanceSpec spec = .ok bindings ∧ b ∈ bindings ∧
    (∀ k ∈ bindings, started k past = true) ∧ (∀ r ∈ transactionStarts past, r.2 = true) ∧
    ∀ k ∈ bindings, (k, true) ∈ transactionStarts past

/-- The capability has not been started in this transaction, and if it can be stopped it
is not started. -/
def Startable (env : Env) (b : Nat) (past : List LifecycleEvent) : Prop :=
  (env.hasCallback CapabilityCallbacks.stop b = true → started b past = false) ∧
    ∀ ok, (b, ok) ∉ transactionStarts past

/-- The application bound the callback that is called; one that is passed it did not
bind. -/
def LifecycleEvent.Bound (env : Env) : LifecycleEvent → Prop
  | .applyCalled _ _ => env.callbacks.applyInstanceSpec = true
  | .applySkipped _ => env.callbacks.applyInstanceSpec = false
  | .startCalled b _ => env.hasCallback CapabilityCallbacks.start b = true
  | .startSkipped b => env.hasCallback CapabilityCallbacks.start b = false
  | .readyCalled b _ => env.hasCallback CapabilityCallbacks.ready b = true
  | .stopCalled b => env.hasCallback CapabilityCallbacks.stop b = true
  | .clearCalled => env.callbacks.clearInstanceSpec = true
  | .sessionLostCalled => env.callbacks.sessionLost = true
  | _ => True

/-- The callback may be made after those of `past`. -/
def LifecycleEvent.Allowed (env : Env) (past : List LifecycleEvent) : LifecycleEvent → Prop
  | .applyCalled _ _ | .applySkipped _ =>
    env.callbacks.clearInstanceSpec = true → applied past = false
  | .startCalled b _ | .startSkipped b => Startable env b past
  | .readyCalled b _ => readied b past = false ∧ StartedAll env b past
  | .stopCalled b => started b past = true
  | .clearCalled =>
    applied past = true ∧
      ∀ b, env.hasCallback CapabilityCallbacks.stop b = true → held env b past = false
  | .sessionLostCalled => Quiet env past
  | _ => True

/-- Every callback was bound, and allowed when it was made. -/
def Lawful (env : Env) : List LifecycleEvent → Prop
  | [] => True
  | event :: past => (event.Bound env ∧ event.Allowed env past) ∧ Lawful env past

/-- The started capabilities with both lifecycle callbacks, the last started first. -/
def openStarts (env : Env) : List LifecycleEvent → List Nat
  | [] => []
  | .startCalled b true :: past =>
    if env.bindsLife b then b :: openStarts env past else openStarts env past
  | .stopCalled b :: past => (openStarts env past).erase b
  | _ :: past => openStarts env past

/-- Every stop was that of the capability started last. -/
def Unwinds (env : Env) : List LifecycleEvent → Prop
  | [] => True
  | event :: past =>
    (∀ b, event = .stopCalled b → env.bindsLife b = true →
      (openStarts env past).head? = some b) ∧ Unwinds env past

/-- The event is no stop out of order. -/
def LifecycleEvent.inOrder (env : Env) (past : List LifecycleEvent) : LifecycleEvent → Bool
  | .stopCalled b => !env.bindsLife b || (openStarts env past).head? == some b
  | _ => true

instance decidableUnwinds (env : Env) : (calls : List LifecycleEvent) → Decidable (Unwinds env calls)
  | [] => .isTrue trivial
  | event :: past =>
    have := decidableUnwinds env past
    decidable_of_iff (event.inOrder env past = true ∧ Unwinds env past) (by
      refine and_congr_left fun _ => ?_
      cases event <;> simp [LifecycleEvent.inOrder, or_iff_not_imp_left])

/-- The spec lists its capabilities that have both lifecycle callbacks in the order of
their ids. -/
def Ascending (env : Env) (spec : AdapterInstanceSpec) : Prop :=
  ∀ bindings, env.validateInstanceSpec spec = .ok bindings →
    ((spec.capabilities.zip bindings).filter fun e => env.bindsLife e.2).Pairwise
      fun e e' => textLe e.1.capabilityId e'.1.capabilityId = true

/-- Every spec that was committed is `Ascending`. -/
def AscendingCommits (env : Env) (calls : List LifecycleEvent) : Prop :=
  ∀ spec, .specCommitted spec ∈ calls → Ascending env spec

-- ---------------------------------------------------------------------------
-- Sections and the trace
-- ---------------------------------------------------------------------------

theorem calls_of_events (h : c'.helm.events = c.helm.events) : c'.calls = c.calls := by
  have hFilter : ∀ k : Client, k.calls = k.helm.events.filter isCall := by
    intro k
    simp only [Client.calls, Client.helm, List.filter_filter]
    refine List.filter_congr fun e _ => ?_
    cases e <;> rfl
  rw [hFilter, hFilter, h]

theorem calls_of_helm (h : c'.helm = c.helm) : c'.calls = c.calls :=
  calls_of_events (congrArg Helm.events h)

theorem calls_log {event : LifecycleEvent} (h : event.isCall = true) :
    (c.log event).calls = event :: c.calls :=
  List.filter_cons_of_pos h

theorem calls_log_other {event : LifecycleEvent} (h : event.isCall = false) :
    (c.log event).calls = c.calls :=
  List.filter_cons_of_neg (by simp [h])

@[simp] theorem calls_notifySourceClosed (source : SourceState) (error : AdapterError) :
    (c.notifySourceClosed env source error).calls = c.calls :=
  calls_of_helm (by simp)

-- ---------------------------------------------------------------------------
-- Duties
-- ---------------------------------------------------------------------------

/-- What is still to be undone: the capabilities to stop, in this order, and whether the
spec is to be cleared. -/
structure Duty where
  stops : List Nat
  clear : Bool

/-- The callbacks so far leave this duty. -/
structure Kept (env : Env) (duty : Duty) (calls : List LifecycleEvent) : Prop where
  lawful : Lawful env calls
  nodup : duty.stops.Nodup
  held : ∀ b, env.hasCallback CapabilityCallbacks.stop b = true → held env b calls = true →
    b ∈ duty.stops
  started : ∀ b ∈ duty.stops, started b calls = true
  specHeld : env.callbacks.clearInstanceSpec = true → specHeld calls = true → duty.clear = true
  applied : duty.clear = true → applied calls = true
  unwinds : AscendingCommits env calls → Unwinds env calls
  order : AscendingCommits env calls → duty.stops.filter env.bindsLife = openStarts env calls

/-- Nothing is to be undone. -/
def Duty.none : Duty := ⟨[], false⟩

/-- A capability that was started is held. -/
theorem held_of_started {b : Nat} {calls : List LifecycleEvent} (h : started b calls = true) :
    held env b calls = true :=
  isOpen_mono (fun e hOpens => by simp [hOpens]) h

/-- A spec that was applied is held. -/
theorem specHeld_of_applied {calls : List LifecycleEvent} (h : applied calls = true) :
    specHeld calls = true :=
  isOpen_mono (fun e hOpens => by simp [hOpens]) h

/-- The commits so far were ascending too. -/
theorem AscendingCommits.past {event : LifecycleEvent} {past : List LifecycleEvent}
    (h : AscendingCommits env (event :: past)) : AscendingCommits env past :=
  fun spec hMem => h spec (List.mem_cons_of_mem _ hMem)

namespace Kept

variable {duty : Duty} {calls : List LifecycleEvent}

/-- With no duty left everything is quiet. -/
theorem quiet (h : Kept env .none calls) : Quiet env calls where
  stopped b hBound := by
    by_contra hHeld
    exact absurd (h.held b hBound (by simpa using hHeld)) (by simp [Duty.none])
  cleared hBound := by
    by_contra hHeld
    exact absurd (h.specHeld hBound (by simpa using hHeld)) (by simp [Duty.none])

/-- A capability that is not to be stopped and has not been started in this transaction
may be started. -/
theorem startable (h : Kept env duty calls) {b : Nat} (hNot : b ∉ duty.stops)
    (hFresh : ∀ ok, (b, ok) ∉ transactionStarts calls) : Startable env b calls := by
  refine ⟨fun hBound => ?_, hFresh⟩
  by_contra hStarted
  exact hNot (h.held b hBound (held_of_started (by simpa using hStarted)))

/-- `SafeStopCapability` for the next capability to stop. -/
theorem stop {b : Nat} {rest : List Nat} {clear : Bool} (h : Kept env ⟨b :: rest, clear⟩ c.calls) :
    Kept env ⟨rest, clear⟩ (c.callStop env b).calls := by
  obtain ⟨hFresh, hNodup⟩ := List.nodup_cons.mp h.nodup
  cases hBound : env.hasCallback CapabilityCallbacks.stop b with
  | false =>
    rw [Client.callStop, if_neg (by simp [hBound])]
    refine ⟨h.lawful, hNodup, fun k hk hHeld => ?_, fun k hk =>
      h.started k (List.mem_cons_of_mem _ hk), h.specHeld, h.applied, h.unwinds, fun hCommits => ?_⟩
    · obtain rfl | hMem := List.mem_cons.mp (h.held k hk hHeld)
      · rw [hBound] at hk
        cases hk
      · exact hMem
    · rw [← h.order hCommits]
      simp [Env.bindsLife, hBound]
  | true =>
    rw [Client.callStop, if_pos hBound, calls_log rfl]
    refine ⟨⟨⟨hBound, h.started b List.mem_cons_self⟩, h.lawful⟩, hNodup,
      fun k hk hHeld => ?_, fun k hk => ?_, fun hClear hHeld => h.specHeld hClear ?_,
      fun hClear => ?_, fun hCommits => ?_, fun hCommits => ?_⟩
    · by_cases hEq : b = k
      · subst hEq
        rw [Model.held, isOpen_cons_close rfl (by simp [stopOf])] at hHeld
        cases hHeld
      · rw [Model.held, isOpen_cons_other rfl (by simp [stopOf, hEq])] at hHeld
        obtain rfl | hMem := List.mem_cons.mp (h.held k hk hHeld)
        · exact absurd rfl hEq
        · exact hMem
    · have hEq : b ≠ k := fun hEq => hFresh (hEq ▸ hk)
      rw [Model.started, isOpen_cons_other rfl (by simp [stopOf, hEq])]
      exact h.started k (List.mem_cons_of_mem _ hk)
    · rwa [Model.specHeld, isOpen_cons_other rfl rfl] at hHeld
    · rw [Model.applied, isOpen_cons_other rfl rfl]
      exact h.applied hClear
    · have hPast := hCommits.past
      refine ⟨fun k hk hLife => ?_, h.unwinds hPast⟩
      cases hk
      rw [← h.order hPast, List.filter_cons_of_pos hLife, List.head?_cons]
    · rw [openStarts, ← h.order hCommits.past]
      cases hLife : env.bindsLife b with
      | true => rw [List.filter_cons_of_pos hLife, List.erase_cons_head]
      | false =>
        have hNot : b ∉ (b :: rest).filter env.bindsLife := by simp [hLife]
        rw [List.erase_of_not_mem hNot, List.filter_cons_of_neg (by simp [hLife])]

/-- `SafeClearInstanceSpec`, once all capabilities are stopped. -/
theorem clear {clear : Bool} (h : Kept env ⟨[], true⟩ c.calls)
    (hClear : clear = false) : Kept env ⟨[], clear⟩ (c.callClear env).calls := by
  subst hClear
  have hStopped : ∀ b, env.hasCallback CapabilityCallbacks.stop b = true →
      Model.held env b c.calls = false := by
    intro b hBound
    by_contra hHeld
    exact absurd (h.held b hBound (by simpa using hHeld)) (by simp)
  cases hBound : env.callbacks.clearInstanceSpec with
  | false =>
    rw [Client.callClear, if_neg (by simp [hBound])]
    exact ⟨h.lawful, h.nodup, h.held, by simp, by simp [hBound], by simp, h.unwinds, h.order⟩
  | true =>
    rw [Client.callClear, if_pos hBound, calls_log rfl]
    refine ⟨⟨⟨hBound, h.applied rfl, hStopped⟩, h.lawful⟩, h.nodup, ?_, by simp, ?_,
      by simp, fun hCommits => ⟨by simp, h.unwinds hCommits.past⟩,
      fun hCommits => h.order hCommits.past⟩
    · intro b hStop hHeld
      rw [Model.held, isOpen_cons_other rfl rfl] at hHeld
      exact h.held b hStop hHeld
    · intro _ hHeld
      rw [Model.specHeld, isOpen_cons_close rfl rfl] at hHeld
      cases hHeld

end Kept

-- ---------------------------------------------------------------------------
-- The duty at a point of the program
-- ---------------------------------------------------------------------------

theorem textLe_iff (a b : Text) : textLe a b = true ↔ a ≤ b := by
  induction a generalizing b with
  | nil => simp [textLe]
  | cons x xs ih =>
    cases b with
    | nil => simp [textLe]
    | cons y ys => simp [textLe, ih, List.cons_le_cons_iff]

/-- The order of the keys of two entries. -/
def keyLe {α : Type} (e e' : Sigma fun _ : Text => α) : Prop := textLe e.1 e'.1 = true

instance {α : Type} : DecidableRel (keyLe (α := α)) :=
  fun e e' => inferInstanceAs (Decidable (textLe e.1 e'.1 = true))

instance {α : Type} : Std.Total (keyLe (α := α)) where
  total e e' := by
    simp only [keyLe, textLe_iff]
    exact List.le_total e.1 e'.1

instance {α : Type} : IsTrans _ (keyLe (α := α)) where
  trans e e' e'' := by
    simp only [keyLe, textLe_iff]
    exact List.le_trans

/-- The `std::map` order sorts the entries by their keys. -/
theorem inKeyOrder_eq {α : Type} (store : Store Text α) :
    inKeyOrder store = (store.entries.insertionSort keyLe).map (·.2) := by
  unfold inKeyOrder
  congr 1
  induction store.entries with
  | nil => rfl
  | cons e rest ih =>
    rw [List.foldr_cons, ih, List.insertionSort_cons_eq_take_drop]
    simp [keyLe]

/-- A committed spec leaves its capabilities to be stopped, the last id first, and is to
be cleared. -/
def SpecState.duty (spec : SpecState) : Duty where
  stops := ((inKeyOrder spec.activeCapabilities).map (·.bindingIndex)).reverse
  clear := spec.specRevision != 0

/-- What a deactivation still has to undo. -/
def DeactivatePc.duty (spec : SpecState) : DeactivatePc → Duty
  | .locked => spec.duty
  | .waiting plan => ⟨plan.bindings.reverse, plan.hadSpec⟩
  | .stopping remaining plan => ⟨remaining, plan.hadSpec⟩
  | .clearing plan => ⟨[], plan.hadSpec⟩
  | .notifying _ => .none

/-- What a transaction has to undo where it stands. -/
def ApplyPc.duty (spec : SpecState) : ApplyPc → Duty
  | .begin _ | .waiting _ | .lock _ | .checkSession _ | .checkStop _ | .readying _ _
  | .finishing _ => spec.duty
  | .deactivating _ at_ | .readyDeactivating _ _ at_ => at_.duty spec
  | .applying _ | .failing _ _ _ | .readyFailing _ _ => .none
  | .starting _ _ started _ | .committing _ started => ⟨started.reverse, true⟩
  | .unwinding _ remaining clear _ _ => ⟨remaining, clear⟩
  | .staleUnwinding _ remaining => ⟨remaining, true⟩

/-- Specs with the same bindings leave the same duty. -/
theorem SpecState.Alike.duty {spec spec' : SpecState} (h : spec.Alike spec') :
    spec'.duty = spec.duty := by
  rw [SpecState.duty, SpecState.duty, h.capabilities, h.revision]

/-- Without a committed spec there is no duty. -/
theorem SpecState.Vacant.duty {spec : SpecState} (h : spec.Vacant) : spec.duty = .none := by
  rw [SpecState.duty, h.capabilities, h.revision]
  rfl

/-- The entry of the active map for a grant of the candidate. -/
def grantEntry (e : EnabledCapability × Nat) : Sigma fun _ : Text => ActiveCapability :=
  ⟨e.1.capabilityId, ⟨e.2, e.1⟩⟩

/-- The active map of a spec in force holds the grants of its candidate. -/
theorem SpecState.InForce.entries {spec : SpecState} {cand : Candidate}
    (h : spec.InForce env cand) :
    spec.activeCapabilities.entries.Perm
      ((cand.spec.capabilities.zip cand.bindings).map grantEntry) := by
  have hGrants := h.valid.grants
  have hFirst : (cand.spec.capabilities.zip cand.bindings).map (·.1) = cand.spec.capabilities :=
    List.map_fst_zip (le_of_eq hGrants.length.symm)
  have hDistinct : ((cand.spec.capabilities.zip cand.bindings).map (·.1.capabilityId)).Nodup := by
    have hIds := hGrants.distinct
    rw [← hFirst, List.map_map] at hIds
    exact hIds
  have hKeys : (((cand.spec.capabilities.zip cand.bindings).map grantEntry).map
      Sigma.fst).Nodup := by
    rw [List.map_map]
    exact hDistinct
  rw [List.perm_ext_iff_of_nodup (List.NodupKeys.nodup spec.activeCapabilities.nodupKeys)
    (List.Nodup.of_map _ hKeys)]
  rintro ⟨id, capability⟩
  have hLook : spec.activeCapabilities.lookup id = some capability ↔
      ∃ e ∈ cand.spec.capabilities.zip cand.bindings, e.1.capabilityId = id ∧
        capability = ⟨e.2, e.1⟩ := by
    rw [h.capabilities, activeCapabilitiesOf, lookup_activeCapabilities hDistinct (by simp)]
    simp
  rw [← AList.mem_lookup_iff, Option.mem_def, hLook, List.mem_map]
  constructor
  · rintro ⟨e, he, rfl, rfl⟩
    exact ⟨e, he, rfl⟩
  · rintro ⟨e, he, hEq⟩
    cases hEq
    exact ⟨e, he, rfl, rfl⟩

/-- The map of a spec in force, in the order in which it is walked. -/
theorem SpecState.InForce.perm_stops {spec : SpecState} {cand : Candidate}
    (h : spec.InForce env cand) : spec.duty.stops.Perm cand.bindings := by
  have hSorted := (List.perm_insertionSort keyLe spec.activeCapabilities.entries).trans h.entries
  have hMap := hSorted.map fun e => e.2.bindingIndex
  rw [List.map_map] at hMap
  have hZip : (cand.spec.capabilities.zip cand.bindings).map (·.2) = cand.bindings :=
    h.valid.zip_bindings
  refine (List.reverse_perm _).trans ?_
  rw [inKeyOrder_eq, List.map_map]
  exact hMap.trans (.of_eq hZip)

/-- Grants listed in the order of their ids are walked in the order of the spec. -/
theorem SpecState.InForce.order {spec : SpecState} {cand : Candidate}
    (h : spec.InForce env cand) (hAscending : Ascending env cand.spec) :
    spec.duty.stops.filter env.bindsLife = (cand.bindings.filter env.bindsLife).reverse := by
  let bound : (Sigma fun _ : Text => ActiveCapability) → Bool :=
    fun e => env.bindsLife e.2.bindingIndex
  have hZip : (cand.spec.capabilities.zip cand.bindings).map (·.2) = cand.bindings :=
    h.valid.zip_bindings
  have hPerm := ((List.perm_insertionSort keyLe spec.activeCapabilities.entries).trans
    h.entries).filter bound
  have hLeft : ((spec.activeCapabilities.entries.insertionSort keyLe).filter bound).Pairwise
      keyLe :=
    (List.pairwise_insertionSort keyLe _).filter _
  have hRight : (((cand.spec.capabilities.zip cand.bindings).map grantEntry).filter
      bound).Pairwise keyLe := by
    rw [List.filter_map, List.pairwise_map]
    exact hAscending _ h.valid
  have hEq : (spec.activeCapabilities.entries.insertionSort keyLe).filter bound =
      ((cand.spec.capabilities.zip cand.bindings).map grantEntry).filter bound := by
    refine hPerm.eq_of_pairwise ?_ hLeft hRight
    rintro ⟨id, capability⟩ ⟨id', capability'⟩ hMem hMem' hLe hGe
    -- entries of one id are one entry
    obtain rfl : id = id' :=
      List.le_antisymm ((textLe_iff _ _).mp hLe) ((textLe_iff _ _).mp hGe)
    have hLook := AList.mem_lookup_iff.mpr
      ((List.mem_insertionSort _).mp (List.mem_filter.mp hMem).1)
    have hLook' := AList.mem_lookup_iff.mpr
      (h.entries.mem_iff.mpr (List.mem_filter.mp hMem').1)
    rw [Option.mem_unique hLook hLook']
  have hBindings : cand.bindings.filter env.bindsLife =
      (((cand.spec.capabilities.zip cand.bindings).map grantEntry).filter bound).map
        (·.2.bindingIndex) := by
    conv_lhs => rw [← hZip]
    rw [List.filter_map, List.filter_map, List.map_map]
    rfl
  rw [SpecState.duty, List.filter_reverse, inKeyOrder_eq, List.map_map, List.filter_map, hBindings,
    ← hEq]
  rfl

/-- A step of a deactivation. -/
theorem Kept.deactivateStep {reason : Text} {at_ : DeactivatePc} {next : Option DeactivatePc}
    (h : Kept env (at_.duty c.spec) c.calls)
    (hStep : deactivateStep env reason c at_ = some (next, c')) :
    Kept env ((next.map (DeactivatePc.duty c'.spec)).getD .none) c'.calls := by
  cases deactivateStep_move hStep with
  | begin | waited | stopped | finish => exact h
  | stop => exact h.stop
  | @clear plan =>
    have hKept : Kept env ⟨[], plan.hadSpec⟩ c.calls := h
    cases hHad : plan.hadSpec with
    | true =>
      rw [hHad] at hKept
      exact hKept.clear rfl
    | false =>
      rw [hHad] at hKept
      exact hKept
  | notify =>
    rw [calls_notifySourceClosed]
    exact h

-- ---------------------------------------------------------------------------
-- Callbacks that add to the duty
-- ---------------------------------------------------------------------------

/-- A callback that is neither a successful start nor a stop. -/
theorem openStarts_cons_other {event : LifecycleEvent} {past : List LifecycleEvent}
    (hStart : ∀ b, event ≠ .startCalled b true) (hStop : ∀ b, event ≠ .stopCalled b) :
    openStarts env (event :: past) = openStarts env past := by
  cases event with
  | startCalled b ok =>
    cases ok with
    | true => exact absurd rfl (hStart b)
    | false => rfl
  | stopCalled b => exact absurd rfl (hStop b)
  | _ => rfl

namespace Kept

variable {duty : Duty} {calls : List LifecycleEvent} {stops : List Nat} {clear : Bool}

/-- The transaction gets past the deactivation. Whatever `apply_instance_spec` returns,
and also where it is not bound, the spec is to be cleared. -/
theorem apply (h : Kept env .none calls) {event : LifecycleEvent} (hApply : event.isApply = true)
    (hBound : event.Bound env) : Kept env ⟨[], true⟩ (event :: calls) := by
  have hCleared : env.callbacks.clearInstanceSpec = true → Model.applied calls = false := by
    intro hClear
    by_contra hApplied
    have hHeld := specHeld_of_applied (by simpa using hApplied)
    exact absurd (h.specHeld hClear hHeld) (by simp [Duty.none])
  have hAllowed : event.Allowed env calls := by
    cases event with
    | applyCalled | applySkipped => exact hCleared
    | _ => cases hApply
  have hOther : ∀ b, startOf b event = false ∧ commitOf env b event = false ∧
      stopOf b event = false := by
    intro b
    cases event with
    | applyCalled | applySkipped => exact ⟨rfl, rfl, rfl⟩
    | _ => cases hApply
  have hStop : ∀ b, event ≠ .stopCalled b := by
    rintro b rfl
    cases hApply
  refine ⟨⟨⟨hBound, hAllowed⟩, h.lawful⟩, h.nodup, ?_, by simp, fun _ _ => rfl,
    fun _ => isOpen_cons_open hApply,
    fun hCommits => ⟨fun b hEq => absurd hEq (hStop b), h.unwinds hCommits.past⟩, fun hCommits => ?_⟩
  · intro b hBound hHeld
    obtain ⟨hStart, hCommit, hStop⟩ := hOther b
    rw [Model.held, isOpen_cons_other (by simp [hStart, hCommit]) hStop] at hHeld
    exact h.held b hBound hHeld
  · rw [openStarts_cons_other (fun b hEq => ?_) hStop]
    · exact h.order hCommits.past
    · rw [hEq] at hApply
      cases hApply

/-- A capability is started, or passed for want of a `start` callback. -/
theorem start {b : Nat} (h : Kept env ⟨stops, clear⟩ calls) (hNot : b ∉ stops)
    {event : LifecycleEvent} (hEvent : event = .startCalled b true ∨ event = .startSkipped b)
    (hBound : event.Bound env) (hFresh : ∀ ok, (b, ok) ∉ transactionStarts calls) :
    Kept env ⟨b :: stops, clear⟩ (event :: calls) := by
  have hStartable := h.startable hNot hFresh
  have hAllowed : event.Allowed env calls := by
    obtain rfl | rfl := hEvent <;> exact hStartable
  have hOpens : ∀ k, startOf k event = (b == k) := by
    intro k
    obtain rfl | rfl := hEvent <;> simp [startOf]
  have hCommit : ∀ k, commitOf env k event = false := by
    intro k
    obtain rfl | rfl := hEvent <;> rfl
  have hStop : ∀ k, stopOf k event = false := by
    intro k
    obtain rfl | rfl := hEvent <;> rfl
  have hSpec : isApply event = false ∧ event.commit? = none ∧ isClear event = false := by
    obtain rfl | rfl := hEvent <;> exact ⟨rfl, rfl, rfl⟩
  refine ⟨⟨⟨hBound, hAllowed⟩, h.lawful⟩, List.nodup_cons.mpr ⟨hNot, h.nodup⟩,
    fun k hBound hHeld => ?_, fun k hk => ?_, fun hClear hHeld => h.specHeld hClear ?_,
    fun hClear => ?_, fun hCommits => ⟨?_, h.unwinds hCommits.past⟩, fun hCommits => ?_⟩
  · by_cases hEq : b = k
    · subst hEq
      simp
    · rw [Model.held, isOpen_cons_other (by simp [hOpens, hCommit, hEq]) (hStop k)] at hHeld
      exact List.mem_cons_of_mem _ (h.held k hBound hHeld)
  · by_cases hEq : b = k
    · subst hEq
      exact isOpen_cons_open (by simp [hOpens])
    · rw [Model.started, isOpen_cons_other (by simp [hOpens, hEq]) (hStop k)]
      exact h.started k ((List.mem_cons.mp hk).resolve_left fun hSame => hEq hSame.symm)
  · rwa [Model.specHeld, isOpen_cons_other (by simp [hSpec.1, hSpec.2.1]) hSpec.2.2] at hHeld
  · rw [Model.applied, isOpen_cons_other hSpec.1 hSpec.2.2]
    exact h.applied hClear
  · obtain rfl | rfl := hEvent <;> simp
  · have hOrder := h.order hCommits.past
    obtain rfl | rfl := hEvent
    · rw [openStarts, ← hOrder, List.filter_cons]
    · have hUnbound : env.hasCallback CapabilityCallbacks.start b = false := hBound
      rw [openStarts_cons_other (by simp) (by simp), ← hOrder]
      simp [Env.bindsLife, hUnbound]

/-- A callback that neither opens nor closes a bracket. -/
theorem pass (h : Kept env duty calls) {event : LifecycleEvent} (hBound : event.Bound env)
    (hAllowed : event.Allowed env calls) (hStart : ∀ b, startOf b event = false)
    (hStop : ∀ b, stopOf b event = false) (hCommit : event.commit? = none)
    (hApply : event.isApply = false) (hClear : event.isClear = false) :
    Kept env duty (event :: calls) := by
  have hCommits : ∀ b, commitOf env b event = false := by
    intro b
    cases event <;> first | rfl | cases hCommit
  refine ⟨⟨⟨hBound, hAllowed⟩, h.lawful⟩, h.nodup, fun b hBound hHeld => ?_, fun b hb => ?_,
    fun hBound hHeld => ?_, fun hDue => ?_, fun hAscending => ?_, fun hAscending => ?_⟩
  · rw [Model.held, isOpen_cons_other (by simp [hStart, hCommits]) (hStop b)] at hHeld
    exact h.held b hBound hHeld
  · rw [Model.started, isOpen_cons_other (hStart b) (hStop b)]
    exact h.started b hb
  · rw [Model.specHeld, isOpen_cons_other (by simp [hApply, hCommit]) hClear] at hHeld
    exact h.specHeld hBound hHeld
  · rw [Model.applied, isOpen_cons_other hApply hClear]
    exact h.applied hDue
  · refine ⟨fun b hEq => ?_, h.unwinds hAscending.past⟩
    rw [hEq] at hStop
    simp [stopOf] at hStop
  · rw [h.order hAscending.past, openStarts_cons_other]
    · rintro b rfl
      simp [startOf] at hStart
    · rintro b rfl
      simp [stopOf] at hStop

/-- The spec of the candidate is committed. -/
theorem commit {cand : Candidate} {spec : SpecState}
    (h : Kept env ⟨cand.bindings.reverse, true⟩ calls) (hForce : spec.InForce env cand) :
    Kept env spec.duty (.specCommitted cand.spec :: calls) := by
  have hPerm := hForce.perm_stops
  have hNodup : spec.duty.stops.Nodup := hPerm.nodup_iff.mpr (List.nodup_reverse.mp h.nodup)
  refine ⟨⟨⟨trivial, trivial⟩, h.lawful⟩, hNodup, fun b hBound hHeld => ?_, fun b hb => ?_,
    fun _ _ => by simp [SpecState.duty, hForce.revision_ne], fun _ => ?_,
    fun hAscending => ⟨by simp, h.unwinds hAscending.past⟩, fun hAscending => ?_⟩
  · rw [hPerm.mem_iff]
    cases hCommit : commitOf env b (.specCommitted cand.spec) with
    | true =>
      have hValid : env.validateInstanceSpec cand.spec = .ok cand.bindings := hForce.valid
      simp only [commitOf, hValid] at hCommit
      exact List.contains_iff_mem.mp hCommit
    | false =>
      rw [Model.held, isOpen_cons_other (by simp [startOf, hCommit]) rfl] at hHeld
      exact List.mem_reverse.mp (h.held b hBound hHeld)
  · rw [Model.started, isOpen_cons_other rfl rfl]
    exact h.started b (List.mem_reverse.mpr (hPerm.mem_iff.mp hb))
  · rw [Model.applied, isOpen_cons_other rfl rfl]
    exact h.applied rfl
  · rw [hForce.order (hAscending _ List.mem_cons_self), ← List.filter_reverse,
      h.order hAscending.past]
    rfl

end Kept

end AdapterRuntime.Model
