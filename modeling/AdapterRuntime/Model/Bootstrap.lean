import AdapterRuntime.Model.Config

/-!
# AdapterRuntime — bootstrap

`ClientConfig::FromBootstrapFile` and `ClientConfig::BindCapability` of `client.cpp`. The file
system is what its calls return: whether `open` succeeds, what `fstat` says, and the results of
the successive `read` calls. `ParseFromArray` is a parameter. A call that has not returned when
the results of `read` run out is `none`. The function objects that `BindCapability` moves are
values of a type `F`.
-/

namespace AdapterRuntime.Model

variable {F : Type}

/-- `CapabilityCallbacks` with its function objects. An empty one is `none`. -/
structure CapabilityHandlers (F : Type) where
  start : Option F := none
  stop : Option F := none
  ready : Option F := none
  unary : Option F := none
  operation : Option F := none
  sourceOpen : Option F := none
  sourceClosed : Option F := none

/-- `CapabilityBinding` with its function objects. -/
structure HandlerBinding (F : Type) where
  contract : CapabilityContract
  callbacks : CapabilityHandlers F

/-- Which callbacks are set. -/
def CapabilityHandlers.presence (handlers : CapabilityHandlers F) : CapabilityCallbacks where
  start := handlers.start.isSome
  stop := handlers.stop.isSome
  ready := handlers.ready.isSome
  unary := handlers.unary.isSome
  operation := handlers.operation.isSome
  sourceOpen := handlers.sourceOpen.isSome
  sourceClosed := handlers.sourceClosed.isSome

/-- The configuration as the client depends on it. -/
def ClientConfig.presence (config : ClientConfig (HandlerBinding F)) :
    ClientConfig CapabilityBinding :=
  { config with
    capabilities := config.capabilities.map fun binding =>
      { contract := binding.contract, callbacks := binding.callbacks.presence } }

/-- `kMaximumBootstrapBytes`. -/
def kMaximumBootstrapBytes : Nat := 4 * 1024 * 1024

/-- `kAdapterBootstrapFormatVersion`. -/
def kAdapterBootstrapFormatVersion : Nat := 2

/-- `AdapterProcessBootstrap`. -/
structure AdapterProcessBootstrap where
  formatVersion : Nat := 0
  runtimeTarget : Text := []
  registration : Option RegisterRequest := none
  initialSpec : Option AdapterInstanceSpec := none

/-- The exception types that `FromBootstrapFile` throws. -/
inductive Exception
  | invalidArgument (what : Text)
  | runtimeError (what : Text)

/-- What a `read` returns. No bytes are the end of the file. -/
inductive ReadResult
  | interrupted
  | failed
  | bytes (data : Text)

/-- The fields of `struct stat` that are read. -/
structure FileStatus where
  isRegular : Bool
  uid : Nat
  mode : Nat
  size : Int

/-- What the system calls on the path return. -/
structure BootstrapFile where
  opened : Bool
  status : Option FileStatus
  reads : List ReadResult

/-- The loop that fills `bytes`. A `read` hands over at most what it is asked for. -/
def readLoop (size : Nat) (bytes : Text) :
    List ReadResult → Option (Except Exception (Text × List ReadResult))
  | [] => if size ≤ bytes.length then some (.ok (bytes, [])) else none
  | result :: rest =>
    if size ≤ bytes.length then some (.ok (bytes, result :: rest))
    else
      match result with
      | .interrupted => readLoop size bytes rest
      | .failed | .bytes [] =>
        some (.error (.runtimeError (text "adapter bootstrap changed or ended during read")))
      | .bytes data => readLoop size (bytes ++ data.take (size - bytes.length)) rest

/-- The loop that reads one byte more, which must be the end of the file. -/
def readExtra : List ReadResult → Option (Except Exception Unit)
  | [] => none
  | .interrupted :: rest => readExtra rest
  | .bytes [] :: _ => some (.ok ())
  | _ :: _ => some (.error (.runtimeError (text "adapter bootstrap changed or grew during read")))

/-- `FromBootstrapFile` from `ParseFromArray` on. -/
def configOfBytes (parse : Text → Option AdapterProcessBootstrap) (bytes : Text) :
    Except Exception (ClientConfig (HandlerBinding F)) :=
  match parse bytes with
  | none => .error (.runtimeError (text "failed to parse binary AdapterProcessBootstrap"))
  | some bootstrap =>
    match bootstrap.registration, bootstrap.initialSpec with
    | some registration, some initialSpec =>
      if bootstrap.formatVersion != kAdapterBootstrapFormatVersion ||
          bootstrap.runtimeTarget.isEmpty then
        .error (.invalidArgument
          (text "AdapterProcessBootstrap format, target, registration, or spec is invalid"))
      else
        match validateRuntimeTarget bootstrap.runtimeTarget with
        | .error e => .error (.invalidArgument e)
        | .ok () =>
          if !registration.sdkVersion.isEmpty then
            .error (.invalidArgument
              (text "bootstrap must not pre-assert the Runtime SDK version"))
          else
            .ok
              { runtimeTarget := bootstrap.runtimeTarget
                registration := { registration with sdkVersion := kClientVersion }
                initialSpec := initialSpec
                capabilities := registration.supportedCapabilities.map fun contract =>
                  { contract := contract, callbacks := {} } }
    | _, _ =>
      .error (.invalidArgument
        (text "AdapterProcessBootstrap format, target, registration, or spec is invalid"))

/-- The checks of `FromBootstrapFile` on what `fstat` returns: the size of the buffer. -/
def checkStatus (euid : Nat) : Option FileStatus → Except Exception Nat
  | none => .error (.runtimeError (text "adapter bootstrap must be a regular file"))
  | some status =>
    if !status.isRegular then
      .error (.runtimeError (text "adapter bootstrap must be a regular file"))
    else if status.uid != euid || status.mode % 512 != 384 then
      .error (.runtimeError
        (text "adapter bootstrap must be owned by the process user and mode 0600"))
    else if status.size ≤ 0 || status.size.toNat > kMaximumBootstrapBytes then
      .error (.runtimeError
        (text "adapter bootstrap size must be between 1 byte and 4 MiB"))
    else .ok status.size.toNat

/-- `FromBootstrapFile`. -/
def fromBootstrapFile (parse : Text → Option AdapterProcessBootstrap) (euid : Nat) (path : Text)
    (file : BootstrapFile) : Option (Except Exception (ClientConfig (HandlerBinding F))) :=
  if path.head? != some (ascii '/') then
    some (.error (.invalidArgument (text "adapter bootstrap path must be absolute")))
  else if !file.opened then
    some (.error (.runtimeError (text "adapter bootstrap could not be opened securely")))
  else
    match checkStatus euid file.status with
    | .error e => some (.error e)
    | .ok size =>
      match readLoop size [] file.reads with
      | none => none
      | some (.error e) => some (.error e)
      | some (.ok (bytes, rest)) =>
        match readExtra rest with
        | none => none
        | some (.error e) => some (.error e)
        | some (.ok ()) => some (configOfBytes parse bytes)

/-- Some callback is set. -/
def CapabilityHandlers.alreadyBound (callbacks : CapabilityHandlers F) : Bool :=
  callbacks.start.isSome || callbacks.stop.isSome || callbacks.ready.isSome ||
    callbacks.unary.isSome || callbacks.operation.isSome || callbacks.sourceOpen.isSome ||
    callbacks.sourceClosed.isSome

/-- The loop of `BindCapability`. -/
def bindLoop (key : Text) (callbacks : CapabilityHandlers F) :
    List (HandlerBinding F) → Except Text (List (HandlerBinding F))
  | [] => .error (text "capability handlers are not a trusted bootstrap contract")
  | binding :: rest =>
    if binding.contract.key != key then
      match bindLoop key callbacks rest with
      | .error e => .error e
      | .ok rest' => .ok (binding :: rest')
    else if binding.callbacks.alreadyBound then
      .error (text "capability handlers are already bound")
    else .ok ({ binding with callbacks := callbacks } :: rest)

/-- The arguments of a `BindCapability`. -/
structure Binding (F : Type) where
  capabilityId : Text
  contractVersion : Nat
  contractDigest : Text
  callbacks : CapabilityHandlers F

/-- `BindCapability`: what it returns, and the configuration after it. -/
def ClientConfig.bindCapability (config : ClientConfig (HandlerBinding F)) (call : Binding F) :
    Except Text Unit × ClientConfig (HandlerBinding F) :=
  match bindLoop (contractKey call.capabilityId call.contractVersion call.contractDigest)
      call.callbacks config.capabilities with
  | .error e => (.error e, config)
  | .ok capabilities => (.ok (), { config with capabilities := capabilities })

/-- The application binds its callbacks one call after the other. -/
def ClientConfig.bindAll (config : ClientConfig (HandlerBinding F)) (calls : List (Binding F)) :
    ClientConfig (HandlerBinding F) :=
  calls.foldl (fun config call => (config.bindCapability call).2) config

end AdapterRuntime.Model
