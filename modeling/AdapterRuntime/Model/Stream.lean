import AdapterRuntime.Model.Queue

/-!
# AdapterRuntime — source streams, acknowledgement, cancellation and drain

The functions of `stream.cpp`. Each handler of a Host frame is its first
locked section; what the Work reader does after releasing the lock is the
returned `FollowUp`, taken in later sections.
-/

namespace AdapterRuntime.Model

open AdapterRuntime.Lib

/-- What the Work reader still has to do for a frame once the locked section
that examined it has ended. -/
inductive FollowUp
  | done
  /-- `QueueWorkProtocolError`. -/
  | protocolError (rejectedSequence : Nat) (message : Text)
  /-- `SignalCurrentSessionFailure`. -/
  | signalFailure (reason : Text)
  /-- `QueueWork` of a retained terminal, and the reason when it is refused. -/
  | queueReplay (frame : WorkFrame) (reason : Text)
  /-- `CommitTerminalFrame` of an immediate rejection. -/
  | commitImmediate (job : DispatchJob) (frame : WorkFrame)
  /-- `NotifySourceClosed`. -/
  | notifySourceClosed (source : SourceState) (error : AdapterError)
  deriving DecidableEq

/-- `AddOverflows`. -/
def addOverflows (left right : Nat) : Bool := sizeMax - left < right

/-- `internal::SaturatingAdd`. -/
def saturatingAdd (left right : Nat) : Nat :=
  if sizeMax - left < right then sizeMax else left + right

/-- The bytes of a chunk, as `PublishSource` adds them up. -/
def chunkBytes (items : List Text) : Nat :=
  items.foldl (fun bytes item => saturatingAdd bytes item.length) 0

/-- A `WorkProtocolError` frame. -/
def protocolErrorFrame (rejectedSequence : Nat) (message : Text) : WorkFrame :=
  .protocolError rejectedSequence
    (makeError .rejected (text "invalid-work-frame") message)

/-- `SourceOpenRejected`. -/
def sourceOpenRejected (streamId : Text) (error : AdapterError) : WorkFrame :=
  .sourceOpenResult { streamId, accepted := false, error := some error }

namespace Client

/-- Replaces the entry of an active source. -/
def setSource (c : Client) (streamId : Text) (source : SourceState) : Client :=
  { c with tables := { c.tables with
      sourceStreams := c.tables.sourceStreams.insert streamId source } }

/-- `source_streams_.erase(stream)`. -/
def eraseSource (c : Client) (streamId : Text) : Client :=
  { c with tables := { c.tables with
      sourceStreams := c.tables.sourceStreams.erase streamId } }

/-- `RememberClosedSourceLocked`. -/
def rememberClosedSource (c : Client) (streamId : Text) (source : SourceState)
    (terminalFrame : WorkFrame) (terminalDigest : Text) : Client :=
  { c with tables := { c.tables with
      closedSources := c.tables.closedSources.insert streamId
        { connectionEpoch := source.connectionEpoch
          finalSequence := source.sequence
          acknowledgedSequence := source.acknowledgedSequence
          fingerprint := source.request.context.requestDigest
          terminalDigest
          terminalFrame
          accountedBytes := source.accountedBytes } } }

end Client

/-- The frame is a source terminal that names this stream. -/
def isSourceTerminalOf (streamId : Text) : WorkFrame → Bool
  | .sourceOpenResult result => result.streamId == streamId
  | .sourceClose close => close.streamId == streamId
  | _ => false

/-- `CommitSourceTerminalLocked`. -/
def commitSourceTerminal (env : Env) (c : Client) (streamId : Text) (source : SourceState)
    (terminalFrame : WorkFrame) : Bool × Client :=
  if streamId.isEmpty || !isSourceTerminalOf streamId terminalFrame then (false, c)
  else
    match env.protobuf.terminalDigest terminalFrame with
    | none => (false, c)
    | some digest =>
      if !c.workFrameFits env terminalFrame then (false, c)
      else
        match c.queueWorkLocked env (some source.cancellation) terminalFrame with
        | (false, c') => (false, c')
        | (true, c') => (true, c'.rememberClosedSource streamId source terminalFrame digest)

/-- `PublishSource`. -/
def publishSource (env : Env) (c : Client) (streamId : Text) (items : List Text) :
    SourceWriteResult × Client :=
  if c.flags.state ≠ .ready ∨ ¬c.flags.acceptingWork ∨ c.flags.sessionFailed then (.notReady, c)
  else
    match c.tables.sourceStreams.lookup streamId with
    | none => (.unknownStream, c)
    | some stream =>
      let bytes := chunkBytes items
      let messages := items.length
      if stream.connectionEpoch ≠ c.session.connectionEpochCounter then (.unknownStream, c)
      else if stream.phase ≠ .opened then (.notReady, c)
      else if items = [] ∨ bytes = 0 then (.tooLarge, c)
      else if (0 < stream.maximumChunkMessages ∧ stream.maximumChunkMessages < messages) ∨
          (0 < stream.maximumChunkBytes ∧ stream.maximumChunkBytes < bytes) then (.tooLarge, c)
      else if stream.messageCredit < messages ∨ stream.byteCredit < bytes then (.noCredit, c)
      else if env.config.maximumWorkQueue ≤ c.queues.work.length then
        (.queueFull, c.countDropped)
      else
        let frame := WorkFrame.sourceData { streamId, sequence := stream.sequence + 1, items }
        if !c.workFrameFits env frame then (.tooLarge, c)
        else
          match c.queueWorkLocked env (some stream.cancellation) frame with
          | (false, c') => (.queueFull, c')
          | (true, c') =>
            (.accepted, c'.setSource streamId
              { stream with
                messageCredit := stream.messageCredit - messages
                byteCredit := stream.byteCredit - bytes
                sequence := stream.sequence + 1 })

/-- `CloseSource`. -/
def closeSource (env : Env) (c : Client) (streamId : Text) (error : Option AdapterError) :
    Bool × Client :=
  let full := decide (env.config.maximumWorkQueue ≤ c.queues.work.length)
  let refused := (false, if full then c.countDropped else c)
  match c.tables.sourceStreams.lookup streamId with
  | none => refused
  | some stream =>
    if stream.phase ≠ .opened ∨ stream.connectionEpoch ≠ c.session.connectionEpochCounter ∨
        c.flags.sessionFailed ∨ c.flags.stopRequested ∨
        (error.any fun e => !env.isTypedError e) ∨ full then refused
    else
      match commitSourceTerminal env c streamId stream
          (.sourceClose { streamId, finalSequence := stream.sequence, error }) with
      | (false, c') => (false, c')
      | (true, c') => (true, c'.eraseSource streamId)

/-- `GrantSourceCredit`. -/
def grantSourceCredit (c : Client) (credit : SourceCredit) (frameSequence : Nat) :
    FollowUp × Client :=
  let refuse (message : String) : FollowUp × Client :=
    (.protocolError frameSequence (text message), c)
  match credit.grant with
  | none => refuse "SourceCredit grant must include positive message and byte credit"
  | some grant =>
    if credit.streamId = [] ∨ grant.messages = 0 ∨ grant.bytes = 0 then
      refuse "SourceCredit grant must include positive message and byte credit"
    else
      match c.tables.sourceStreams.lookup credit.streamId with
      | none =>
        match c.tables.closedSources.lookup credit.streamId with
        | none => refuse "SourceCredit references an unknown source stream"
        | some closed =>
          if closed.connectionEpoch ≠ c.session.connectionEpochCounter then
            refuse "SourceCredit references an unknown source stream"
          else if credit.acknowledgedSequence < closed.acknowledgedSequence ∨
              closed.finalSequence < credit.acknowledgedSequence then
            refuse "late SourceCredit conflicts with the closed source"
          else
            (.done, { c with tables := { c.tables with
              closedSources := c.tables.closedSources.insert credit.streamId
                { closed with acknowledgedSequence := credit.acknowledgedSequence } } })
      | some stream =>
        if stream.phase ≠ .opened ∨
            stream.connectionEpoch ≠ c.session.connectionEpochCounter then
          refuse "SourceCredit references an unopened source stream"
        else if credit.acknowledgedSequence < stream.acknowledgedSequence ∨
            stream.sequence < credit.acknowledgedSequence then
          refuse "SourceCredit acknowledged_sequence is invalid"
        else if addOverflows stream.messageCredit grant.messages ∨
            addOverflows stream.byteCredit grant.bytes then
          refuse "SourceCredit would overflow the available credit"
        else
          (.done,
            { c with
              history := .granted stream.cancellation grant.messages grant.bytes ::
                c.history }.setSource credit.streamId
              { stream with
                acknowledgedSequence := credit.acknowledgedSequence
                messageCredit := sizeAdd stream.messageCredit grant.messages
                byteCredit := sizeAdd stream.byteCredit grant.bytes })

/-- `HandleTerminalAcknowledgement`. -/
def handleTerminalAcknowledgement (c : Client) (acknowledgement : TerminalAcknowledgement)
    (frameSequence : Nat) : FollowUp × Client :=
  let t := c.tables
  let digest := acknowledgement.terminalDigest
  let refuse (message : String) : FollowUp × Client :=
    (.protocolError frameSequence (text message), c)
  if !isCanonicalSha256 digest then
    refuse "TerminalAcknowledgement terminal_digest is non-canonical"
  else
    match acknowledgement.identity with
    | .workId workId =>
      if workId = [] then refuse "TerminalAcknowledgement work_id must not be empty"
      else if (t.workTokens.lookup workId).isSome ∨ (t.sourceStreams.lookup workId).isSome then
        refuse "TerminalAcknowledgement references an active identity"
      else if (t.closedSources.lookup workId).isSome then
        refuse "TerminalAcknowledgement used work_id for a source terminal"
      else
        match t.replay.lookup workId with
        -- a released terminal: the duplicate is absorbed
        | none => (.done, c)
        | some entry =>
          if entry.terminalDigest ≠ digest then
            refuse "TerminalAcknowledgement digest conflicts with retained Work"
          else
            (.done,
              { c with
                tables := { t with
                  terminalReplayBytes := t.terminalReplayBytes - entry.accountedBytes
                  replay := t.replay.erase workId }
                history := .acknowledged workId :: c.history })
    | .streamId streamId =>
      if streamId = [] then refuse "TerminalAcknowledgement stream_id must not be empty"
      else if (t.sourceStreams.lookup streamId).isSome ∨ (t.workTokens.lookup streamId).isSome then
        refuse "TerminalAcknowledgement references an active identity"
      else if (t.replay.lookup streamId).isSome then
        refuse "TerminalAcknowledgement used stream_id for a Work terminal"
      else
        match t.closedSources.lookup streamId with
        | none => (.done, c)
        | some closed =>
          if closed.terminalDigest = [] ∨ closed.terminalDigest ≠ digest then
            refuse "TerminalAcknowledgement digest conflicts with retained source"
          else
            (.done,
              { c with tables := { t with
                  sourceStateBytes :=
                    if closed.accountedBytes ≤ t.sourceStateBytes then
                      t.sourceStateBytes - closed.accountedBytes
                    else 0
                  closedSources := t.closedSources.erase streamId } })
    | .notSet => refuse "TerminalAcknowledgement must identify exactly one terminal"

/-- The typed error a Host cancellation gives to the source it closes. -/
def cancellationError (cancellation : WorkCancellation) : AdapterError :=
  makeError .cancelled (text "peer-cancelled")
    (if isCanonicalText cancellation.reason then cancellation.reason
     else text "Host cancelled Work")

/-- `HandleCancellation`. -/
def handleCancellation (env : Env) (c : Client) (cancellation : WorkCancellation)
    (frameSequence : Nat) : FollowUp × Client :=
  let error := cancellationError cancellation
  let failPair : FollowUp :=
    .signalFailure (text "bounded Work queue could not acknowledge source cancellation")
  let refuse (message : String) : FollowUp × Client :=
    (.protocolError frameSequence (text message), c)
  match cancellation.identity with
  | .notSet => refuse "WorkCancellation must identify exactly one work_id or stream_id"
  | .workId workId =>
    if workId = [] then refuse "WorkCancellation work_id must not be empty"
    else
      match c.tables.workTokens.lookup workId with
      | none => (.done, c)
      | some token => (.done, c.request token.cancellation)
  | .streamId streamId =>
    if streamId = [] then refuse "WorkCancellation stream_id must not be empty"
    else
      match c.tables.sourceStreams.lookup streamId with
      | none =>
        match c.tables.closedSources.lookup streamId with
        | none => refuse "WorkCancellation references an unknown source stream"
        | some closed =>
          if closed.connectionEpoch ≠ c.session.connectionEpochCounter then
            refuse "WorkCancellation references an unknown source stream"
          else (.done, c)
      | some stream =>
        if stream.connectionEpoch ≠ c.session.connectionEpochCounter then
          refuse "WorkCancellation references a stale source stream"
        else
          let c := c.request stream.cancellation
          let c := { c with history := .sourceCancelled stream.cancellation :: c.history }
          if stream.phase ≠ .opened then (.done, c)
          else if env.config.maximumWorkQueue ≤ c.queues.work.length then
            (failPair, c.countDropped)
          else
            match commitSourceTerminal env c streamId stream
                (.sourceClose
                  { streamId, finalSequence := stream.sequence, error := some error }) with
            | (false, c') => (failPair, c')
            | (true, c') => (.notifySourceClosed stream error, c'.eraseSource streamId)

namespace Client

/-- `MaybeQueueDrainStatusLocked`. -/
def maybeQueueDrainStatus (env : Env) (c : Client) : Client :=
  if ¬c.flags.drainRequested ∨ c.flags.drainReported ∨ c.queues.inFlightWork ≠ 0 ∨
      c.queues.activeDispatchJobs ≠ 0 ∨ c.queues.dispatch ≠ [] ∨
      env.config.maximumControlQueue ≤ c.queues.control.length then c
  else
    match c.queueControlLocked env (.drainStatus true 0) with
    | (true, c') => { c' with flags := { c'.flags with drainReported := true } }
    | (false, c') =>
      { c' with flags := { c'.flags with
          sessionFailed := true
          acceptingWork := false
          state := .reconnecting
          lastError := text "Control byte budget could not report drain completion" }
        }.cancelAllWork

/-- `BeginDrain`. -/
def beginDrain (env : Env) (c : Client) : Client :=
  { c with flags := { c.flags with
      state :=
        match c.flags.state with
        | .ready | .applyingSpec => .draining
        | other => other
      acceptingWork := false
      drainRequested := true } }.maybeQueueDrainStatus env

/-- The locked section of `RequestRemoteStop`, and of `Stop`. -/
def requestStop (c : Client) : Client :=
  { c with flags := { c.flags with
      stopRequested := true
      acceptingWork := false
      state := .stopping } }.cancelAllWork

end Client

end AdapterRuntime.Model
