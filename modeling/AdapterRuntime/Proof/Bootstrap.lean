import AdapterRuntime.Model.Bootstrap
import AdapterRuntime.Model.Deployment

/-!
# AdapterRuntime — from the bootstrap file to the bindings

The Supervisor hands the contracts over in a file, and the application attaches its callbacks to
them. `read` may be interrupted and may return the file in any pieces; a file that changes under
the reader is noticed by its size. After that the contracts are what the file says: a handler
cannot introduce or widen one, and is not replaced once it is bound.

* `bootstrap_exact`  — a file that does not change is read as it is, whatever `read` returns.
* `bootstrap_ok`      — what a configuration that was read rests on.
* `handlers_trusted` — what any sequence of `BindCapability` calls leaves of the contracts.
-/

namespace AdapterRuntime.Model

variable {F : Type} {parse : Text → Option AdapterProcessBootstrap} {euid : Nat} {path : Text}
  {file : BootstrapFile} {config : ClientConfig (HandlerBinding F)}

-- ---------------------------------------------------------------------------
-- Reading
-- ---------------------------------------------------------------------------

/-- The results of reading a file that does not change: its contents in pieces, with
interruptions anywhere, and then its end. -/
inductive Delivers : Text → List ReadResult → Prop
  | ends : Delivers [] [.bytes []]
  | interrupted {content : Text} {results : List ReadResult} (hRest : Delivers content results) :
      Delivers content (.interrupted :: results)
  | piece {data content : Text} {results : List ReadResult} (hData : data ≠ [])
      (hRest : Delivers content results) : Delivers (data ++ content) (.bytes data :: results)

/-- The buffer is full when the contents have been delivered, and not before. -/
theorem readLoop_of_delivers {content : Text} {results : List ReadResult}
    (h : Delivers content results) (bytes : Text) :
    ∃ rest, readLoop (bytes.length + content.length) bytes results =
      some (.ok (bytes ++ content, rest)) ∧ Delivers [] rest := by
  induction h generalizing bytes with
  | ends => exact ⟨[.bytes []], by simp [readLoop], .ends⟩
  | @interrupted content results hRest ih =>
    by_cases hEmpty : content = []
    · subst hEmpty
      exact ⟨.interrupted :: results, by simp [readLoop], hRest.interrupted⟩
    · obtain ⟨rest, hLoop, hEnd⟩ := ih bytes
      have hLength := List.length_pos_iff.mpr hEmpty
      refine ⟨rest, ?_, hEnd⟩
      rw [readLoop, if_neg (by omega)]
      exact hLoop
  | @piece data content results hData hRest ih =>
    obtain ⟨rest, hLoop, hEnd⟩ := ih (bytes ++ data)
    have hLength := List.length_pos_iff.mpr hData
    refine ⟨rest, ?_, hEnd⟩
    have hTake : data.take (bytes.length + (data ++ content).length - bytes.length) = data := by
      refine List.take_of_length_le ?_
      rw [List.length_append]
      omega
    have hSize : bytes.length + (data ++ content).length =
        (bytes ++ data).length + content.length := by
      simp only [List.length_append]
      omega
    obtain ⟨first, tail, rfl⟩ := List.exists_cons_of_ne_nil hData
    unfold readLoop
    rw [if_neg (by rw [List.length_append]; omega)]
    show readLoop _ (bytes ++ (first :: tail).take _) results = _
    rw [hTake, hSize, hLoop, List.append_assoc]

/-- Nothing is left when the content has been delivered. -/
theorem readExtra_of_delivers {content : Text} {results : List ReadResult}
    (h : Delivers content results) (hEmpty : content = []) :
    readExtra results = some (.ok ()) := by
  induction h with
  | ends => rfl
  | interrupted _ ih => exact ih hEmpty
  | piece hData => exact absurd (List.append_eq_nil_iff.mp hEmpty).1 hData

/-- The loop ends with a full buffer only. -/
theorem length_readLoop {size : Nat} {bytes bytes' : Text} {results rest : List ReadResult}
    (hFits : bytes.length ≤ size)
    (h : readLoop size bytes results = some (.ok (bytes', rest))) : bytes'.length = size := by
  induction results generalizing bytes with
  | nil =>
    simp only [readLoop] at h
    split at h <;> cases h
    omega
  | cons result results ih =>
    simp only [readLoop] at h
    split at h
    · cases h
      omega
    · split at h
      · exact ih hFits h
      · cases h
      · cases h
      · refine ih ?_ h
        rw [List.length_append, List.length_take]
        omega

/-- A file that does not change is read as it is: how often `read` is interrupted and in which
pieces it returns the contents makes no difference. -/
theorem bootstrap_exact {content : Text} (hPath : path.head? = some (ascii '/'))
    (hOpened : file.opened = true) (hStatus : checkStatus euid file.status = .ok content.length)
    (hReads : Delivers content file.reads) :
    fromBootstrapFile (F := F) parse euid path file = some (configOfBytes parse content) := by
  obtain ⟨rest, hLoop, hEnd⟩ := readLoop_of_delivers hReads []
  rw [List.length_nil, Nat.zero_add, List.nil_append] at hLoop
  simp only [fromBootstrapFile, hPath, hOpened, hStatus, hLoop, readExtra_of_delivers hEnd rfl,
    bne_self_eq_false, Bool.false_eq_true, if_false, Bool.not_true]

/-- What a configuration that was read rests on: a private regular file, read to its end, whose
message has the version, the target and both parts, and leaves the version of the SDK open. -/
structure Bootstrapped (parse : Text → Option AdapterProcessBootstrap) (euid : Nat)
    (file : BootstrapFile) (config : ClientConfig (HandlerBinding F)) : Prop where
  status : ∃ status, file.status = some status ∧ status.isRegular = true ∧ status.uid = euid ∧
    status.mode % 512 = 384 ∧ 0 < status.size ∧ status.size ≤ kMaximumBootstrapBytes ∧
    ∃ bytes bootstrap registration, (bytes.length : Int) = status.size ∧
      parse bytes = some bootstrap ∧
      bootstrap.formatVersion = kAdapterBootstrapFormatVersion ∧
      bootstrap.registration = some registration ∧
      bootstrap.initialSpec = some config.initialSpec ∧
      bootstrap.runtimeTarget = config.runtimeTarget ∧ registration.sdkVersion = [] ∧
      config.registration = { registration with sdkVersion := kClientVersion }
  target : validateRuntimeTarget config.runtimeTarget = .ok ()
  unbound : config.capabilities = config.registration.supportedCapabilities.map fun contract =>
    { contract := contract, callbacks := {} }

/-- The status of a file that `ReadBootstrapFile` goes on to read. -/
theorem checkStatus_ok {status : Option FileStatus} {size : Nat}
    (h : checkStatus euid status = .ok size) :
    ∃ found, status = some found ∧ found.isRegular = true ∧ found.uid = euid ∧
      found.mode % 512 = 384 ∧ 0 < found.size ∧ found.size ≤ kMaximumBootstrapBytes ∧
      (size : Int) = found.size := by
  unfold checkStatus at h
  split at h
  · cases h
  · rename_i found
    split at h
    · cases h
    · rename_i hRegular
      split at h
      · cases h
      · rename_i hOwned
        split at h
        · cases h
        · rename_i hSize
          cases h
          simp only [Bool.or_eq_true, bne_iff_ne, ne_eq, not_or, not_not] at hOwned
          simp only [Bool.or_eq_true, decide_eq_true_eq, not_or, not_le, not_lt] at hSize
          refine ⟨found, rfl, by simpa using hRegular, hOwned.1, hOwned.2, hSize.1, ?_, ?_⟩ <;>
            omega

/-- What the bytes of an accepted bootstrap parse to. -/
theorem configOfBytes_ok {bytes : Text} (h : configOfBytes parse bytes = .ok config) :
    ∃ bootstrap registration, parse bytes = some bootstrap ∧
      bootstrap.formatVersion = kAdapterBootstrapFormatVersion ∧
      bootstrap.registration = some registration ∧
      bootstrap.initialSpec = some config.initialSpec ∧
      bootstrap.runtimeTarget = config.runtimeTarget ∧ registration.sdkVersion = [] ∧
      validateRuntimeTarget config.runtimeTarget = .ok () ∧
      config.capabilities = config.registration.supportedCapabilities.map (fun contract =>
        { contract := contract, callbacks := {} }) ∧
      config.registration = { registration with sdkVersion := kClientVersion } := by
  unfold configOfBytes at h
  split at h
  · cases h
  · rename_i bootstrap hParse
    split at h
    · rename_i registration initialSpec hRegistration hSpec
      split at h
      · cases h
      · rename_i hFormat
        split at h
        · cases h
        · rename_i hValid
          split at h
          · cases h
          · rename_i hSdk
            cases h
            simp only [Bool.or_eq_true, bne_iff_ne, ne_eq, not_or, not_not] at hFormat
            exact ⟨bootstrap, registration, hParse, hFormat.1, hRegistration, hSpec, rfl,
              by simpa using hSdk, hValid, rfl, rfl⟩
    · cases h

/-- A configuration is returned for nothing less. -/
theorem bootstrap_ok
    (h : fromBootstrapFile parse euid path file = some (.ok config)) :
    path.head? = some (ascii '/') ∧ file.opened = true ∧ Bootstrapped parse euid file config := by
  unfold fromBootstrapFile at h
  split at h
  · cases h
  · rename_i hPath
    split at h
    · cases h
    · rename_i hOpened
      split at h
      · cases h
      · rename_i size hStatus
        split at h
        · cases h
        · cases h
        · rename_i bytes rest hLoop
          split at h
          · cases h
          · cases h
          · have hLength := length_readLoop (Nat.zero_le size) hLoop
            obtain ⟨found, hFound, hRegular, hOwner, hMode, hPos, hMax, hSize⟩ :=
              checkStatus_ok hStatus
            refine ⟨by simpa using hPath, by simpa using hOpened, ?_⟩
            simp only [Option.some.injEq] at h
            obtain ⟨bootstrap, registration, hParse, hVersion, hRegistration, hSpec, hTarget,
              hSdk, hValid, hUnbound, hConfig⟩ := configOfBytes_ok h
            exact ⟨⟨found, hFound, hRegular, hOwner, hMode, hPos, hMax, bytes, bootstrap,
              registration, by rw [hLength, hSize], hParse, hVersion, hRegistration, hSpec,
              hTarget, hSdk, hConfig⟩, hValid, hUnbound⟩

namespace Deployment

/-- The bootstrap message of the deployment. -/
def bootstrap : AdapterProcessBootstrap where
  formatVersion := kAdapterBootstrapFormatVersion
  runtimeTarget := text "unix:/run/xgc.sock"
  registration := some { registration with sdkVersion := [] }
  initialSpec := some (specOf 1)

/-- A parser that knows the encoding of that message. -/
def parseBootstrap (bytes : Text) : Option AdapterProcessBootstrap :=
  if bytes = text "bootstrap" then some bootstrap else none

/-- The file comes in two pieces, and `read` is interrupted before each of them and at the end. -/
def bootstrapFile : BootstrapFile where
  opened := true
  status := some { isRegular := true, uid := 1000, mode := 33152, size := 9 }
  reads := [.interrupted, .bytes (text "boot"), .interrupted, .bytes (text "strap"), .interrupted,
    .bytes []]

/-- What is read from it. Function objects are numbered. -/
def bootstrapConfig : ClientConfig (HandlerBinding Nat) where
  runtimeTarget := text "unix:/run/xgc.sock"
  registration := registration
  initialSpec := specOf 1
  capabilities := [{ contract := contract, callbacks := {} }]

/-- Where the file of the example lies. -/
def bootstrapPath : Text := text "/run/adapter.bootstrap"

/-- The application binds its handlers to the contract. -/
def motionCall : Binding Nat where
  capabilityId := contract.capabilityId
  contractVersion := contract.contractVersion
  contractDigest := contract.contractDigest
  callbacks := { unary := some 1, operation := some 2, sourceOpen := some 3 }

/-- A later call with the same key and other handlers. -/
def secondCall : Binding Nat :=
  { motionCall with callbacks := { unary := some 4, operation := some 5, sourceOpen := some 6 } }

/-- Its contents arrive in two pieces, and the read is interrupted once. -/
theorem delivers_bootstrap : Delivers (text "bootstrap") bootstrapFile.reads := by
  have hSplit : text "bootstrap" = text "boot" ++ (text "strap" ++ []) := by decide
  rw [hSplit]
  exact .interrupted (.piece (by decide) (.interrupted (.piece (by decide) (.interrupted .ends))))

end Deployment

section Runs

open Deployment

/-- Two pieces and three interruptions make no difference. -/
theorem bootstrap_exact_pieces :
    fromBootstrapFile (F := Nat) parseBootstrap 1000 bootstrapPath bootstrapFile =
      some (configOfBytes parseBootstrap (text "bootstrap")) :=
  bootstrap_exact rfl rfl rfl delivers_bootstrap

end Runs

-- ---------------------------------------------------------------------------
-- Binding
-- ---------------------------------------------------------------------------

/-- The contract key a call of `BindCapability` names. -/
def Binding.key (call : Binding F) : Text :=
  contractKey call.capabilityId call.contractVersion call.contractDigest

/-- `BindCapability` sets the callbacks of the first contract with the key, if it has none. -/
theorem bindLoop_ok {key : Text} {callbacks : CapabilityHandlers F}
    {bindings bindings' : List (HandlerBinding F)}
    (h : bindLoop key callbacks bindings = .ok bindings') :
    ∃ before binding after, bindings = before ++ binding :: after ∧ binding.contract.key = key ∧
      binding.callbacks.alreadyBound = false ∧
      bindings' = before ++ { binding with callbacks := callbacks } :: after := by
  induction bindings generalizing bindings' with
  | nil => cases h
  | cons first rest ih =>
    simp only [bindLoop] at h
    split at h
    · split at h
      · cases h
      · rename_i rest' hRest
        cases h
        obtain ⟨before, binding, after, rfl, hKey, hFree, rfl⟩ := ih hRest
        exact ⟨first :: before, binding, after, rfl, hKey, hFree, rfl⟩
    · rename_i hKey
      split at h
      · cases h
      · rename_i hFree
        cases h
        exact ⟨[], first, rest, rfl, by simpa using hKey, by simpa using hFree, rfl⟩

/-- What the calls made so far have left: the contracts are those of the file, and what is bound to
one came from a call that named it. -/
structure Entrusted (contracts : List CapabilityContract) (calls : List (Binding F))
    (bindings : List (HandlerBinding F)) : Prop where
  contracts : bindings.map HandlerBinding.contract = contracts
  source : ∀ binding ∈ bindings, binding.callbacks = {} ∨
    ∃ call ∈ calls, call.key = binding.contract.key ∧ binding.callbacks = call.callbacks

/-- A call touches the bindings alone, and no binding that is bound. -/
theorem bindCapability_cases (config : ClientConfig (HandlerBinding F)) (call : Binding F) :
    ∃ bindings, (config.bindCapability call).2 = { config with capabilities := bindings } ∧
      (bindings = config.capabilities ∨
        ∃ before binding after, config.capabilities = before ++ binding :: after ∧
          binding.contract.key = call.key ∧ binding.callbacks.alreadyBound = false ∧
          bindings = before ++ { binding with callbacks := call.callbacks } :: after) := by
  unfold ClientConfig.bindCapability
  split
  · exact ⟨config.capabilities, rfl, .inl rfl⟩
  · rename_i bindings hLoop
    exact ⟨bindings, rfl, .inr (bindLoop_ok hLoop)⟩

/-- One call keeps the handlers entrusted. -/
theorem Entrusted.bind {contracts : List CapabilityContract} {calls : List (Binding F)}
    (h : Entrusted contracts calls config.capabilities) (call : Binding F) :
    Entrusted contracts (calls ++ [call]) (config.bindCapability call).2.capabilities := by
  -- an earlier call is still one of the calls
  have hOld : ∀ binding ∈ config.capabilities, binding.callbacks = {} ∨
      ∃ made ∈ calls ++ [call], made.key = binding.contract.key ∧
        binding.callbacks = made.callbacks := by
    intro binding hBinding
    obtain hEmpty | ⟨made, hMade, hRest⟩ := h.source binding hBinding
    · exact .inl hEmpty
    · exact .inr ⟨made, List.mem_append_left _ hMade, hRest⟩
  obtain ⟨bindings, hConfig, hBindings⟩ := bindCapability_cases config call
  rw [hConfig]
  obtain rfl | ⟨before, binding, after, hSplit, hKey, -, rfl⟩ := hBindings
  · exact ⟨h.contracts, hOld⟩
  · constructor
    · rw [← h.contracts, hSplit]
      simp
    · intro other hOther
      obtain hBefore | hHere | hAfter : other ∈ before ∨
          other = { binding with callbacks := call.callbacks } ∨ other ∈ after := by
        simpa using hOther
      · exact hOld other (by rw [hSplit]; simp [hBefore])
      · subst hHere
        exact .inr ⟨call, by simp, hKey.symm, rfl⟩
      · exact hOld other (by rw [hSplit]; simp [hAfter])

/-- A binding that is bound is left as it is. -/
theorem bindCapability_bound {i : Nat} {binding : HandlerBinding F} (call : Binding F)
    (h : config.capabilities[i]? = some binding) (hBound : binding.callbacks.alreadyBound = true) :
    (config.bindCapability call).2.capabilities[i]? = some binding := by
  obtain ⟨bindings, hConfig, hBindings⟩ := bindCapability_cases config call
  rw [hConfig]
  obtain rfl | ⟨before, other, after, hSplit, -, hFree, rfl⟩ := hBindings
  · exact h
  · rw [hSplit] at h
    show (before ++ { other with callbacks := call.callbacks } :: after)[i]? = some binding
    by_cases hBefore : i < before.length
    · rw [List.getElem?_append_left hBefore] at h ⊢
      exact h
    · rw [List.getElem?_append_right (by omega)] at h ⊢
      cases hAt : i - before.length with
      | zero =>
        rw [hAt] at h
        cases h
        rw [hFree] at hBound
        cases hBound
      | succ k =>
        rw [hAt] at h
        exact h

theorem bindAll_append (calls later : List (Binding F)) :
    config.bindAll (calls ++ later) = (config.bindAll calls).bindAll later := by
  simp [ClientConfig.bindAll]

/-- Calls leave the rest of the configuration alone. -/
theorem bindAll_frame (calls : List (Binding F)) :
    config.bindAll calls = { config with capabilities := (config.bindAll calls).capabilities } := by
  induction calls using List.reverseRecOn with
  | nil => rfl
  | append_singleton calls call ih =>
    obtain ⟨bindings, hConfig, -⟩ := bindCapability_cases (config.bindAll calls) call
    rw [bindAll_append]
    show ((config.bindAll calls).bindCapability call).2 =
      { config with capabilities := ((config.bindAll calls).bindCapability call).2.capabilities }
    rw [hConfig, ih]

/-- Any list of calls keeps the handlers entrusted. -/
theorem entrusted_bindAll {contracts : List CapabilityContract} (calls : List (Binding F))
    (h : Entrusted contracts [] config.capabilities) :
    Entrusted contracts calls (config.bindAll calls).capabilities := by
  induction calls using List.reverseRecOn with
  | nil => exact h
  | append_singleton calls call ih =>
    rw [bindAll_append]
    exact ih.bind call

/-- A bound contract keeps its handlers, whatever is called later. -/
theorem bindAll_bound {i : Nat} {binding : HandlerBinding F} (later : List (Binding F))
    (h : config.capabilities[i]? = some binding) (hBound : binding.callbacks.alreadyBound = true) :
    (config.bindAll later).capabilities[i]? = some binding := by
  induction later using List.reverseRecOn with
  | nil => exact h
  | append_singleton later call ih =>
    rw [bindAll_append]
    exact bindCapability_bound call ih hBound

/-- A handler cannot introduce or widen a contract: after any calls of `BindCapability` the
contracts are those of the file, in its order, the function objects bound to one are those of a call
that named it, and no later call replaces them. -/
theorem handlers_trusted (h : fromBootstrapFile parse euid path file = some (.ok config))
    (calls : List (Binding F)) :
    config.bindAll calls = { config with capabilities := (config.bindAll calls).capabilities } ∧
    (config.bindAll calls).capabilities.map HandlerBinding.contract =
      config.registration.supportedCapabilities ∧
    (∀ binding ∈ (config.bindAll calls).capabilities, binding.callbacks = {} ∨
      ∃ call ∈ calls, call.key = binding.contract.key ∧ binding.callbacks = call.callbacks) ∧
    ∀ (later : List (Binding F)) (i : Nat) (binding : HandlerBinding F),
      (config.bindAll calls).capabilities[i]? = some binding →
      binding.callbacks.alreadyBound = true →
      (config.bindAll (calls ++ later)).capabilities[i]? = some binding := by
  have hUnbound := (bootstrap_ok h).2.2.unbound
  have hFirst : Entrusted config.registration.supportedCapabilities [] config.capabilities := by
    rw [hUnbound]
    constructor
    · rw [List.map_map]
      exact List.map_id _
    · intro binding hBinding
      obtain ⟨contract, -, rfl⟩ := List.mem_map.mp hBinding
      exact .inl rfl
  have hEntrusted := entrusted_bindAll calls hFirst
  refine ⟨bindAll_frame calls, hEntrusted.contracts, hEntrusted.source, ?_⟩
  intro later i binding hAt hBound
  rw [bindAll_append]
  exact bindAll_bound later hAt hBound

section Runs

open Deployment

/-- The handlers of the deployment are bound to its contract, and a second call with the same key
does not replace them. Up to its workers this is the configuration of the deployment. -/
theorem handlers_trusted_bound :
    fromBootstrapFile parseBootstrap 1000 bootstrapPath bootstrapFile =
        some (.ok bootstrapConfig) ∧
      (bootstrapConfig.bindAll ([motionCall] ++ [secondCall])).capabilities[0]? =
        some { contract := contract, callbacks := motionCall.callbacks } ∧
      deployment.config =
        { (bootstrapConfig.bindAll [motionCall]).presence with dispatchWorkers := 2 } := by
  have hFile : fromBootstrapFile parseBootstrap 1000 bootstrapPath bootstrapFile =
      some (.ok bootstrapConfig) := rfl
  obtain ⟨-, -, -, hKept⟩ := handlers_trusted hFile [motionCall]
  exact ⟨hFile, hKept [secondCall] 0 _ rfl rfl, rfl⟩

end Runs

end AdapterRuntime.Model
