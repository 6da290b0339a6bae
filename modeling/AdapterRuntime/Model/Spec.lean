import AdapterRuntime.Model.Dispatch

/-!
# AdapterRuntime — the sections of the spec transaction

The locked sections of `ApplyInstanceSpec` and `DeactivateApplicationUnlocked`
and the values they compute between callbacks. The order in which a thread
takes them, and the callbacks in between, is in `System.lean`.
-/

namespace AdapterRuntime.Model

open AdapterRuntime.Lib

/-- Byte-wise lexicographic order, the key order of `std::map<std::string, _>`. -/
def textLe : Text → Text → Bool
  | [], _ => true
  | _ :: _, [] => false
  | a :: as, b :: bs => a < b || (a == b && textLe as bs)

/-- The entries of a `std::map` in iteration order. -/
def inKeyOrder {α : Type} (s : Store Text α) : List α :=
  (s.entries.foldr (fun e sorted =>
    sorted.takeWhile (fun x => !textLe e.1 x.1) ++
      e :: sorted.dropWhile (fun x => !textLe e.1 x.1)) []).map (·.2)

/-- The result skeleton every exit of `ApplyInstanceSpec` starts from. -/
def specResult (spec : AdapterInstanceSpec) : ApplyInstanceSpecResult :=
  { revision := spec.revision, specDigest := spec.specDigest }

/-- A refused application. -/
def specRefused (spec : AdapterInstanceSpec) (errorClass : ErrorClass) (code : String)
    (message : Text) (capabilities : List CapabilityStatus) : ApplyInstanceSpecResult :=
  { specResult spec with error := some (makeError errorClass (text code) message), capabilities }

/-- A refusal because the session of the spec is over. -/
def specStale (spec : AdapterInstanceSpec) (message : String) : ApplyInstanceSpecResult :=
  specRefused spec .cancelled "stale-session" (text message) []

/-- An applied result. -/
def specApplied (spec : AdapterInstanceSpec) (capabilities : List CapabilityStatus) :
    ApplyInstanceSpecResult :=
  { specResult spec with applied := true, capabilities }

/-- `IsTerminalSpecFailure`. -/
def isTerminalSpecFailure (code : Text) : Bool :=
  code == text "invalid-instance-spec" || code == text "spec-content-mismatch" ||
    code == text "initial-spec-mismatch" || code == text "ready-callback-failed"

/-- The first locked section of `ApplyInstanceSpec`: a final result, or the
client with the transition begun. -/
def beginApply (env : Env) (c : Client) (expectedSession : Text) (spec : AdapterInstanceSpec) :
    ApplyInstanceSpecResult ⊕ Client :=
  if c.session.sessionId ≠ expectedSession ∨ c.flags.stopRequested ∨ c.flags.sessionFailed then
    .inl (specStale spec "instance spec belongs to a stale or stopping session")
  else if spec.revision = c.spec.specRevision ∧ spec.specDigest = c.spec.specDigest then
    if !env.protobuf.equalSpecs spec c.spec.activeSpec then
      .inl (specRefused spec .rejected "spec-content-mismatch"
        (text "Host changed instance spec content without changing its identity") [])
    else .inl (specApplied spec c.spec.capabilityStatuses)
  else if c.spec.specRevision ≠ 0 ∧ spec.revision ≤ c.spec.specRevision then
    .inl (specRefused spec .rejected "stale-spec-revision"
      (text "instance spec revision did not advance") [])
  else if c.spec.specRevision = 0 ∧ !env.protobuf.equalSpecs spec c.spec.desiredSpec then
    .inl (specRefused spec .rejected "initial-spec-mismatch"
      (text "Host spec does not match the exact desired spec for this registered session") [])
  else
    .inr
      { c with
        spec := { c.spec with desiredSpec := spec }
        flags := { c.flags with state := .applyingSpec, acceptingWork := false } }.cancelAllWork

/-- `CurrentSessionIs`. -/
def Client.currentSessionIs (c : Client) (sessionId : Text) : Bool :=
  c.session.sessionId == sessionId && !c.flags.sessionFailed

/-- What `DeactivateApplicationUnlocked` carries out of its locked section. -/
structure DeactivationPlan where
  bindings : List Nat
  streams : List SourceState
  hadSpec : Bool

/-- The locked section of `DeactivateApplicationUnlocked`. -/
def deactivate (env : Env) (c : Client) : DeactivationPlan × Client :=
  let c := { c with flags := { c.flags with acceptingWork := false } }.cancelAllWork
  ({ bindings := (inKeyOrder c.spec.activeCapabilities).map (·.bindingIndex)
     streams := inKeyOrder c.tables.sourceStreams
     hadSpec := c.spec.specRevision != 0 },
   { c with
      tables := { c.tables with sourceStreams := ∅, closedSources := ∅, sourceStateBytes := 0 }
      spec := { c.spec with
        activeCapabilities := ∅
        activeSpec := {}
        specRevision := 0
        specDigest := []
        capabilityStatuses := env.disabledCapabilityStatuses
        readyReturned := [] } })

/-- The error `DeactivateApplicationUnlocked` reports to open sources. -/
def deactivationError (reason : Text) : AdapterError :=
  makeError .cancelled (text "source-stream-closed")
    (if isCanonicalText reason then reason else text "source stream closed")

/-- Marks the statuses whose contract key satisfies `p`. -/
def markStatuses (p : Text → Bool) (state : CapabilityState) (detail : Text)
    (statuses : List CapabilityStatus) : List CapabilityStatus :=
  statuses.map fun s => if p s.key then { s with state, detail } else s

/-- The statuses of a committed spec: `READY` for every granted contract. -/
def grantedStatuses (env : Env) (spec : AdapterInstanceSpec) : List CapabilityStatus :=
  markStatuses (fun key => spec.capabilities.any fun grant => grant.key == key) .ready
    (text "capability grant is active") env.disabledCapabilityStatuses

/-- The statuses while `ready` callbacks are pending. -/
def configuringStatuses (statuses : List CapabilityStatus) : List CapabilityStatus :=
  statuses.map fun s =>
    if s.state = .ready then
      { s with state := .configuring, detail := text "capability ready callback is pending" }
    else s

/-- The `active` map built from the grants in spec order; `emplace` keeps the
first entry of a key. -/
def activeCapabilitiesOf (grants : List EnabledCapability) (bindings : List Nat) :
    Store Text ActiveCapability :=
  (grants.zip bindings).foldl (fun active entry =>
    if (active.lookup entry.1.capabilityId).isSome then active
    else active.insert entry.1.capabilityId ⟨entry.2, entry.1⟩) ∅

/-- The commit section of `ApplyInstanceSpec`; `none` is `stale_before_commit`. -/
def commitSpec (c : Client) (expectedSession : Text) (spec : AdapterInstanceSpec)
    (bindings : List Nat) (statuses : List CapabilityStatus) : Option Client :=
  if c.session.sessionId ≠ expectedSession ∨ c.flags.stopRequested ∨ c.flags.sessionFailed then none
  else
    some
      { c with
        spec := { c.spec with
          activeCapabilities := activeCapabilitiesOf spec.capabilities bindings
          activeSpec := spec
          specRevision := spec.revision
          specDigest := spec.specDigest
          capabilityStatuses := configuringStatuses statuses
          readyReturned := [] }
        flags := { c.flags with
          acceptingWork := false
          state := .applyingSpec
          readyCallbacksComplete := false } }

/-- The section that records a failed apply or start. -/
def recordApplyFailure (c : Client) (statuses : List CapabilityStatus) : Client :=
  { c with
    spec := { c.spec with capabilityStatuses := statuses }
    flags := { c.flags with state := .registered } }

/-- The section that records a failed `ready` callback. -/
def recordReadyFailure (c : Client) (statuses : List CapabilityStatus) : Client :=
  { c with
    spec := { c.spec with capabilityStatuses := statuses }
    flags := { c.flags with
      state := .registered, acceptingWork := false, readyCallbacksComplete := false } }

/-- The last locked section of `ApplyInstanceSpec`. -/
def finishApply (c : Client) (expectedSession : Text) (statuses : List CapabilityStatus) :
    Client :=
  if c.session.sessionId = expectedSession ∧ ¬c.flags.sessionFailed ∧ ¬c.flags.stopRequested then
    { c with
      spec := { c.spec with capabilityStatuses := statuses }
      flags := { c.flags with
        acceptingWork := true, state := .ready, readyCallbacksComplete := true } }
  else c

/-- `BuildHeartbeatLocked`. -/
def buildHeartbeat (c : Client) (now : Int) (pingNonce : Nat) : Heartbeat where
  observedUnixNanos := now
  appliedSpecRevision := c.spec.specRevision
  appliedSpecDigest := c.spec.specDigest
  pingNonce := pingNonce
  capabilities := c.spec.capabilityStatuses

end AdapterRuntime.Model
