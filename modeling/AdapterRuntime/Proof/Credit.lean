import AdapterRuntime.Proof.Limits

/-!
# AdapterRuntime — source credit and sequence numbers

The history of a source instance is read as a book: the frames queued for it,
newest first, and the credit granted to it. In every reachable state the book of
an open source balances, its chunks are numbered from one without a gap, and a
`SourceClose` is the last frame of its source. What is booked is what the calls
did: an accepted chunk is charged and queued, and an accepted grant is added.

* `books_of_reachable` — the invariant.
* `AcceptsChunk`, `AcceptsGrant`, `AcceptsClose` — what an accepted call does.
* `SourceMove.booked` — a frame is booked when it is put on the Work queue.
* `source_conserved` — the law in the terms of the wire.
-/

namespace AdapterRuntime.Model

open AdapterRuntime.Lib

variable {env : Env} {c c' : Client} {s s' : System} {a : Action} {id : CancellationId}

-- ---------------------------------------------------------------------------
-- The book of a source
-- ---------------------------------------------------------------------------

/-- The frame the event queues for the source instance `id`. -/
def WorkEvent.frameOf? (id : CancellationId) (event : WorkEvent) : Option WorkFrame :=
  match event with
  | .enqueued _ frame => if event.source? = some id then some frame else none
  | _ => none

/-- The messages and bytes the event grants to the source instance `id`. -/
def WorkEvent.grantOf? (id : CancellationId) : WorkEvent → Option (Nat × Nat)
  | .granted owner messages bytes => if owner = id then some (messages, bytes) else none
  | _ => none

/-- The source frames queued for the instance `id`, newest first. -/
def Client.sourceFrames (c : Client) (id : CancellationId) : List WorkFrame :=
  c.history.filterMap (·.frameOf? id)

/-- The credit granted to the instance `id`, newest first. -/
def Client.sourceGrants (c : Client) (id : CancellationId) : List (Nat × Nat) :=
  c.history.filterMap (·.grantOf? id)

/-- The bytes of the items of a chunk. -/
def SourceData.bytes (chunk : SourceData) : Nat := (chunk.items.map List.length).sum

/-- `n` chunks are numbered from one, newest first. -/
def numbered (chunks : List SourceData) (n : Nat) : Prop :=
  chunks.map (·.sequence) = (List.range' 1 n).reverse

/-- What can have been queued for a source instance, newest first. -/
inductive SourceFrames : List WorkFrame → Prop
  | none : SourceFrames []
  | refused {result : SourceOpenResult} (hAccepted : result.accepted = false) :
      SourceFrames [.sourceOpenResult result]
  | opened {result : SourceOpenResult} {chunks : List SourceData}
      (hAccepted : result.accepted = true) (hNumbered : numbered chunks chunks.length) :
      SourceFrames (chunks.map .sourceData ++ [.sourceOpenResult result])
  | closed {result : SourceOpenResult} {chunks : List SourceData} {close : SourceClose}
      (hAccepted : result.accepted = true) (hNumbered : numbered chunks chunks.length)
      (hFinal : close.finalSequence = chunks.length) :
      SourceFrames (.sourceClose close :: (chunks.map .sourceData ++ [.sourceOpenResult result]))

/-- The book of an open source whose chunks so far are `chunks`. -/
structure SourceBook (c : Client) (source : SourceState) (chunks : List SourceData) : Prop where
  frames : ∃ result, result.accepted = true ∧
    c.sourceFrames source.cancellation = chunks.map .sourceData ++ [.sourceOpenResult result]
  sequences : numbered chunks source.sequence
  messages : source.messageCredit + (chunks.map (·.items.length)).sum =
    (source.request.initialCredit.getD {}).messages +
      ((c.sourceGrants source.cancellation).map Prod.fst).sum
  bytes : source.byteCredit + (chunks.map (·.bytes)).sum =
    (source.request.initialCredit.getD {}).bytes +
      ((c.sourceGrants source.cancellation).map Prod.snd).sum
  limits : ∀ chunk ∈ chunks,
    (source.maximumChunkMessages = 0 ∨ chunk.items.length ≤ source.maximumChunkMessages) ∧
    (source.maximumChunkBytes = 0 ∨ chunk.bytes ≤ source.maximumChunkBytes)
  acknowledged : source.acknowledgedSequence ≤ source.sequence

/-- What the history says of a source in the table. -/
def Booked (c : Client) (source : SourceState) : Prop :=
  match source.phase with
  | .opening => c.sourceFrames source.cancellation = [] ∧ c.sourceGrants source.cancellation = []
  | .opened => ∃ chunks, SourceBook c source chunks

/-- The books of all sources. -/
structure Books (c : Client) : Prop where
  frames : ∀ id, SourceFrames (c.sourceFrames id)
  booked : ∀ streamId source, c.tables.sourceStreams.lookup streamId = some source →
    Booked c source

-- ---------------------------------------------------------------------------
-- Reading the history
-- ---------------------------------------------------------------------------

/-- An event of another source is no frame of this one. -/
theorem WorkEvent.frameOf_none {event : WorkEvent} (h : event.source? ≠ some id) :
    event.frameOf? id = none := by
  cases event <;> simp_all [frameOf?]

/-- An event of another source is no grant to this one. -/
theorem WorkEvent.grantOf_none {event : WorkEvent} (h : event.source? ≠ some id) :
    event.grantOf? id = none := by
  cases event <;> simp_all [grantOf?, source?]

/-- The two clients agree on what has been queued for and granted to `id`. -/
def SameBook (c c' : Client) (id : CancellationId) : Prop :=
  c'.sourceFrames id = c.sourceFrames id ∧ c'.sourceGrants id = c.sourceGrants id

/-- Events that are not about `id` leave its book alone. -/
theorem sameBook_of_history (new : List WorkEvent) (hHistory : c'.history = new ++ c.history)
    (hNew : ∀ event ∈ new, event.source? ≠ some id) : SameBook c c' id := by
  have hFrames : new.filterMap (·.frameOf? id) = [] :=
    List.filterMap_eq_nil_iff.mpr fun event hMem => WorkEvent.frameOf_none (hNew event hMem)
  have hGrants : new.filterMap (·.grantOf? id) = [] :=
    List.filterMap_eq_nil_iff.mpr fun event hMem => WorkEvent.grantOf_none (hNew event hMem)
  constructor
  · simp [Client.sourceFrames, hHistory, hFrames]
  · simp [Client.sourceGrants, hHistory, hGrants]

theorem SourceBook.of_same {source : SourceState} {chunks : List SourceData}
    (h : SourceBook c source chunks) (hSame : SameBook c c' source.cancellation) :
    SourceBook c' source chunks := by
  obtain ⟨hFrames, hGrants⟩ := hSame
  exact
    { frames := by rw [hFrames]; exact h.frames
      sequences := h.sequences
      messages := by rw [hGrants]; exact h.messages
      bytes := by rw [hGrants]; exact h.bytes
      limits := h.limits
      acknowledged := h.acknowledged }

theorem Booked.of_same {source : SourceState} (h : Booked c source)
    (hSame : SameBook c c' source.cancellation) : Booked c' source := by
  unfold Booked at h ⊢
  cases hPhase : source.phase with
  | opening =>
    simp only [hPhase] at h ⊢
    rw [hSame.1, hSame.2]
    exact h
  | opened =>
    simp only [hPhase] at h ⊢
    obtain ⟨chunks, hBook⟩ := h
    exact ⟨chunks, hBook.of_same hSame⟩

/-- A source that is being opened has sent nothing and was granted nothing. -/
theorem Booked.opening {source : SourceState} (h : Booked c source)
    (hPhase : source.phase = .opening) :
    c.sourceFrames source.cancellation = [] ∧ c.sourceGrants source.cancellation = [] := by
  simpa only [Booked, hPhase] using h

/-- A source with a book is booked. -/
theorem Booked.of_opened {source : SourceState} {chunks : List SourceData}
    (h : SourceBook c source chunks) (hPhase : source.phase = .opened) : Booked c source := by
  simpa only [Booked, hPhase] using ⟨chunks, h⟩

/-- An open source has a book. -/
theorem Booked.opened {source : SourceState} (h : Booked c source)
    (hPhase : source.phase = .opened) : ∃ chunks, SourceBook c source chunks := by
  simpa only [Booked, hPhase] using h

/-- A step that is about no source keeps the books. -/
theorem Books.quiet (h : Books c) (hSame : ∀ id, SameBook c c' id)
    (hTable : ∀ streamId source, c'.tables.sourceStreams.lookup streamId = some source →
      c.tables.sourceStreams.lookup streamId = some source ∨ Booked c' source) : Books c' := by
  refine ⟨fun id => ?_, fun streamId source hLook => ?_⟩
  · rw [(hSame id).1]
    exact h.frames id
  · obtain hWas | hBooked := hTable streamId source hLook
    · exact (h.booked streamId source hWas).of_same (hSame _)
    · exact hBooked

/-- A step that is about the source instance `id` keeps the other books. -/
theorem Books.moved (h : Books c) (id : CancellationId)
    (hSame : ∀ other, other ≠ id → SameBook c c' other)
    (hFrames : SourceFrames (c'.sourceFrames id))
    (hTable : ∀ streamId source, c'.tables.sourceStreams.lookup streamId = some source →
      (c.tables.sourceStreams.lookup streamId = some source ∧ source.cancellation ≠ id) ∨
        Booked c' source) : Books c' := by
  refine ⟨fun other => ?_, fun streamId source hLook => ?_⟩
  · by_cases hOther : other = id
    · rw [hOther]
      exact hFrames
    · rw [(hSame other hOther).1]
      exact h.frames other
  · obtain ⟨hWas, hOther⟩ | hBooked := hTable streamId source hLook
    · exact (h.booked streamId source hWas).of_same (hSame _ hOther)
    · exact hBooked

-- ---------------------------------------------------------------------------
-- Entries of a book
-- ---------------------------------------------------------------------------

/-- Chunks numbered up to `n` are `n` chunks. -/
theorem numbered_length {chunks : List SourceData} {n : Nat} (h : numbered chunks n) :
    chunks.length = n := by
  have hLength := congrArg List.length h
  simpa using hLength

/-- The next chunk carries the next number. -/
theorem numbered_cons {chunks : List SourceData} {n : Nat} {chunk : SourceData}
    (h : numbered chunks n) (hNext : chunk.sequence = n + 1) : numbered (chunk :: chunks) (n + 1) := by
  unfold numbered at h ⊢
  rw [List.map_cons, h, hNext, List.range'_concat, List.reverse_append]
  simp [Nat.add_comm]

/-- Below the word size `SaturatingAdd` adds. -/
theorem chunkBytes_from (items : List Text) : ∀ start : Nat,
    start + (items.map List.length).sum ≤ sizeMax →
    items.foldl (fun bytes item => saturatingAdd bytes item.length) start =
      start + (items.map List.length).sum := by
  induction items with
  | nil => simp
  | cons item rest ih =>
    intro start hBound
    simp only [List.map_cons, List.sum_cons] at hBound ⊢
    have hAdd : saturatingAdd start item.length = start + item.length := by
      unfold saturatingAdd
      rw [if_neg (by omega)]
    rw [List.foldl_cons, hAdd, ih (start + item.length) (by omega)]
    omega

/-- Within the word, the saturating sum of `PublishSource` is the exact one. -/
theorem chunkBytes_eq {items : List Text} (h : (items.map List.length).sum ≤ sizeMax) :
    chunkBytes items = (items.map List.length).sum := by
  have hSum := chunkBytes_from items 0 (by omega)
  rw [Nat.zero_add] at hSum
  exact hSum

/-- A grant that fits adds up exactly. -/
theorem sizeAdd_eq {x y : Nat} (h : x + y ≤ sizeMax) : sizeAdd x y = x + y :=
  Nat.mod_eq_of_lt (Nat.lt_succ_of_le h)

/-- A source that has just been accepted has an empty book. -/
theorem SourceBook.open_ {source : SourceState} {job : DispatchJob} {result : SourceOpenResult}
    (hRequest : source.request = job.sourceOpen) (hSequence : source.sequence = 0)
    (hAcknowledged : source.acknowledgedSequence = 0) (hAccepted : result.accepted = true)
    (hFrames : c'.sourceFrames source.cancellation = [.sourceOpenResult result])
    (hGrants : c'.sourceGrants source.cancellation = []) :
    SourceBook c' (source.openedWith job) [] := by
  have hSame : (source.openedWith job).cancellation = source.cancellation := rfl
  refine ⟨⟨result, hAccepted, by rw [hSame]; exact hFrames⟩, ?_, ?_, ?_, by simp, ?_⟩
  · show numbered [] source.sequence
    rw [hSequence]
    rfl
  · rw [hSame, hGrants]
    show (job.sourceOpen.initialCredit.getD {}).messages + 0 =
      (source.request.initialCredit.getD {}).messages + 0
    rw [hRequest]
  · rw [hSame, hGrants]
    show (job.sourceOpen.initialCredit.getD {}).bytes + 0 =
      (source.request.initialCredit.getD {}).bytes + 0
    rw [hRequest]
  · show source.acknowledgedSequence ≤ source.sequence
    rw [hAcknowledged]
    exact Nat.zero_le _

/-- A chunk that is accepted is entered with the next number, and paid for. -/
theorem SourceBook.publish {source : SourceState} {chunks : List SourceData} {streamId : Text}
    {items : List Text} (h : SourceBook c source chunks)
    (hPublishes : Publishes env c streamId items source)
    (hExact : chunkBytes items = (items.map List.length).sum)
    (hFrames : c'.sourceFrames source.cancellation =
      .sourceData { streamId, sequence := source.sequence + 1, items } ::
        c.sourceFrames source.cancellation)
    (hGrants : c'.sourceGrants source.cancellation = c.sourceGrants source.cancellation) :
    SourceBook c' (source.published items)
      ({ streamId, sequence := source.sequence + 1, items } :: chunks) := by
  have hSame : (source.published items).cancellation = source.cancellation := rfl
  have hBytes : SourceData.bytes { streamId, sequence := source.sequence + 1, items } =
      chunkBytes items := hExact.symm
  have hMessageCredit := hPublishes.messageCredit
  have hByteCredit := hPublishes.byteCredit
  have hMessages := h.messages
  have hByteSum := h.bytes
  obtain ⟨result, hAccepted, hOld⟩ := h.frames
  refine ⟨⟨result, hAccepted, ?_⟩, numbered_cons h.sequences rfl, ?_, ?_, ?_, ?_⟩
  · rw [hSame, hFrames, hOld]
    rfl
  · rw [hSame, hGrants]
    show source.messageCredit - items.length + _ = (source.request.initialCredit.getD {}).messages + _
    simp only [List.map_cons, List.sum_cons]
    omega
  · rw [hSame, hGrants]
    show source.byteCredit - chunkBytes items + _ = (source.request.initialCredit.getD {}).bytes + _
    simp only [List.map_cons, List.sum_cons, hBytes]
    omega
  · intro chunk hMem
    obtain rfl | hRest := List.mem_cons.mp hMem
    · refine ⟨hPublishes.messageLimit, ?_⟩
      rw [hBytes]
      exact hPublishes.byteLimit
    · exact h.limits chunk hRest
  · exact Nat.le_succ_of_le h.acknowledged

/-- A grant is entered with its exact amounts. -/
theorem SourceBook.grant {source : SourceState} {chunks : List SourceData}
    {acknowledged messages bytes : Nat} (h : SourceBook c source chunks)
    (hUpper : acknowledged ≤ source.sequence) (hMessages : source.messageCredit + messages ≤ sizeMax)
    (hBytes : source.byteCredit + bytes ≤ sizeMax)
    (hFrames : c'.sourceFrames source.cancellation = c.sourceFrames source.cancellation)
    (hGrants : c'.sourceGrants source.cancellation =
      (messages, bytes) :: c.sourceGrants source.cancellation) :
    SourceBook c' (source.granted acknowledged messages bytes) chunks := by
  have hSame : (source.granted acknowledged messages bytes).cancellation = source.cancellation := rfl
  have hMessageSum := h.messages
  have hByteSum := h.bytes
  refine ⟨?_, h.sequences, ?_, ?_, h.limits, hUpper⟩
  · rw [hSame, hFrames]
    exact h.frames
  · rw [hSame, hGrants]
    show sizeAdd source.messageCredit messages + _ = (source.request.initialCredit.getD {}).messages + _
    rw [sizeAdd_eq hMessages]
    simp only [List.map_cons, List.sum_cons]
    omega
  · rw [hSame, hGrants]
    show sizeAdd source.byteCredit bytes + _ = (source.request.initialCredit.getD {}).bytes + _
    rw [sizeAdd_eq hBytes]
    simp only [List.map_cons, List.sum_cons]
    omega

-- ---------------------------------------------------------------------------
-- The invariant
-- ---------------------------------------------------------------------------

/-- The source of an event is the identity it carries. -/
theorem WorkEvent.id_of_source {event : WorkEvent} (h : event.source? = some id) :
    event.id? = some id := by
  cases event with
  | enqueued owner frame => cases frame <;> first | exact h | cases h
  | sourceAdmitted | granted | sourceCancelled => exact h
  | admitted | started | returned | retained | acknowledged => cases h

/-- Nothing has been queued for, or granted to, an instance of the future. -/
theorem Jobs.fresh (h : Jobs s) :
    s.client.sourceFrames s.client.nextCancellation = [] ∧
      s.client.sourceGrants s.client.nextCancellation = [] := by
  have hNot : ∀ event ∈ s.client.history, event.source? ≠ some s.client.nextCancellation := by
    intro event hMem hSource
    exact absurd (h.history event hMem _ (WorkEvent.id_of_source hSource)) (Nat.lt_irrefl _)
  constructor
  · exact List.filterMap_eq_nil_iff.mpr fun event hMem => WorkEvent.frameOf_none (hNot event hMem)
  · exact List.filterMap_eq_nil_iff.mpr fun event hMem => WorkEvent.grantOf_none (hNot event hMem)

/-- A frame that is queued for `id` is entered into its book alone. -/
theorem book_of_enqueued (c c' : Client) (id : CancellationId) {frame : WorkFrame}
    (hHistory : c'.history = .enqueued (some id) frame :: c.history)
    (hFrame : (WorkEvent.enqueued (some id) frame).source? = some id) :
    c'.sourceFrames id = frame :: c.sourceFrames id ∧ c'.sourceGrants id = c.sourceGrants id ∧
      ∀ other, other ≠ id → SameBook c c' other := by
  have hEntry : (WorkEvent.enqueued (some id) frame).frameOf? id = some frame := by
    simp only [WorkEvent.frameOf?, hFrame, if_true]
  refine ⟨?_, ?_, fun other hOther => ?_⟩
  · rw [Client.sourceFrames, hHistory, List.filterMap_cons_some hEntry]
    rfl
  · rw [Client.sourceGrants, hHistory, List.filterMap_cons_none rfl]
    rfl
  · refine sameBook_of_history [.enqueued (some id) frame] hHistory ?_
    intro event hMem hSource
    rw [List.mem_singleton.mp hMem, hFrame] at hSource
    exact hOther (Option.some.inj hSource).symm

section Moved

variable {key : Text} {source : SourceState}
  (hDistinct : ∀ k x, c.tables.sourceStreams.lookup k = some x →
    x.cancellation = source.cancellation → k = key)

include hDistinct

/-- The moved source is replaced in place. -/
theorem Books.replaced (h : Books c) {new : SourceState}
    (hSame : ∀ other, other ≠ source.cancellation → SameBook c c' other)
    (hFrames : SourceFrames (c'.sourceFrames source.cancellation))
    (hTable : c'.tables.sourceStreams = c.tables.sourceStreams.insert key new)
    (hBooked : Booked c' new) : Books c' := by
  refine h.moved source.cancellation hSame hFrames fun k x hLook => ?_
  rw [hTable, Store.lookup_insert_ite] at hLook
  split at hLook
  · cases hLook
    exact .inr hBooked
  · rename_i hKey
    exact .inl ⟨hLook, fun hEq => hKey (hDistinct k x hLook hEq)⟩

/-- The moved source leaves with a last frame. -/
theorem Books.erased (h : Books c) (frame : WorkFrame)
    (hHistory : c'.history = .enqueued (some source.cancellation) frame :: c.history)
    (hFrame : (WorkEvent.enqueued (some source.cancellation) frame).source? =
      some source.cancellation)
    (hFrames : SourceFrames (frame :: c.sourceFrames source.cancellation))
    (hTable : c'.tables.sourceStreams = c.tables.sourceStreams.erase key) : Books c' := by
  obtain ⟨hNow, -, hSame⟩ := book_of_enqueued _ _ _ hHistory hFrame
  refine h.moved source.cancellation hSame (by rw [hNow]; exact hFrames) fun k x hLook => ?_
  rw [hTable, Store.lookup_erase_ite] at hLook
  split at hLook
  · cases hLook
  · rename_i hKey
    exact .inl ⟨hLook, fun hEq => hKey (hDistinct k x hLook hEq)⟩

/-- A close ends the book of the source with its last number. -/
theorem Books.closed (h : Books c) {error : Option AdapterError} {digest : Text}
    (hActive : c.tables.sourceStreams.lookup key = some source)
    (hPhase : source.phase = .opened) : Books (c.closed env key source error digest) := by
  obtain ⟨chunks, hBook⟩ := (h.booked key source hActive).opened hPhase
  obtain ⟨result, hAccepted, hFrames⟩ := hBook.frames
  have hLength := numbered_length hBook.sequences
  refine h.erased hDistinct _ rfl rfl ?_ rfl
  rw [hFrames]
  refine .closed hAccepted ?_ hLength.symm
  rw [hLength]
  exact hBook.sequences

end Moved

/-- A request to cancel a source is no entry of its book. -/
theorem Books.sourceCancelled (h : Books c) (source : SourceState) :
    Books (c.sourceCancelled source) := by
  refine h.quiet (fun id => ⟨?_, ?_⟩) fun streamId source hLook => .inl hLook
  · rw [Client.sourceFrames]
    exact List.filterMap_cons_none rfl
  · rw [Client.sourceGrants]
    exact List.filterMap_cons_none rfl

/-- The frame of an accepted chunk is within the negotiated limit, so the sum of its
items is within the word. -/
theorem Publishes.exact {streamId : Text} {items : List Text} {source : SourceState}
    (h : Publishes env s.client streamId items source) (hReach : (machine env).Reachable s)
    (hWire : ∀ header chunk,
      chunk.bytes ≤ env.protobuf.workRequestBytes header (.sourceData chunk)) :
    chunkBytes items = (items.map List.length).sum := by
  have hSize : SourceData.bytes { streamId, sequence := source.sequence + 1, items } ≤
      s.client.workFrameBytes env
        (.sourceData { streamId, sequence := source.sequence + 1, items }) := hWire _ _
  refine chunkBytes_eq (Nat.le_trans hSize ?_)
  have hAdmits := h.admits
  simp only [Client.workAdmits, Bool.and_eq_true, decide_eq_true_eq] at hAdmits
  exact Nat.le_trans hAdmits.2 (Nat.le_of_lt (frameBound_of_reachable hReach))

/-- Every step keeps the books. -/
theorem Books.step (h : Books s.client) (hReach : (machine env).Reachable s)
    (hWire : ∀ header chunk,
      chunk.bytes ≤ env.protobuf.workRequestBytes header (.sourceData chunk))
    (hStep : (machine env).step s a = some s') : Books s'.client := by
  have hJobs := jobs_of_reachable hReach
  have hSources := sources_of_reachable hReach
  have hDistinct : ∀ {key : Text} {source : SourceState},
      s.client.tables.sourceStreams.lookup key = some source →
      ∀ k x, s.client.tables.sourceStreams.lookup k = some x →
        x.cancellation = source.cancellation → k = key :=
    fun hActive k x hLook hEq => hSources.distinct k _ x _ hLook hActive hEq
  cases sourceMove_of_step (shape_of_reachable hReach) hStep with
  | keep hTable _ hHistory hNew =>
    refine h.quiet (fun id => sameBook_of_history _ hHistory fun event hMem => ?_)
      -- events of other kinds are in no book
      fun streamId source hLook => .inl (by rwa [hTable] at hLook)
    rw [hNew event hMem]
    exact fun hNone => by cases hNone
  | @enter _ job index bytes endpoint now _ _ _ _ hClient =>
    have hSame : ∀ id, SameBook s.client s'.client id := by
      intro id
      rw [hClient]
      exact ⟨List.filterMap_cons_none rfl, List.filterMap_cons_none rfl⟩
    -- a new source starts with empty books, for its identity is fresh
    refine h.quiet hSame fun streamId source hLook => ?_
    rw [hClient] at hLook
    simp only [Client.admitSource, Store.lookup_insert_ite] at hLook
    split at hLook
    · cases hLook
      refine .inr ?_
      show s'.client.sourceFrames s.client.nextCancellation = [] ∧
        s'.client.sourceGrants s.client.nextCancellation = []
      rw [(hSame _).1, (hSame _).2]
      exact hJobs.fresh
    · exact .inl hLook
  | @reject _ job bytes error digest _ _ hClient =>
    obtain ⟨hNow, -, hSame⟩ := book_of_enqueued s.client s'.client
      s.client.nextCancellation (by rw [hClient]; rfl) rfl
    -- the rejected open never had credit; only its frame is booked
    refine h.moved s.client.nextCancellation hSame ?_ fun streamId source hLook => ?_
    · rw [hNow, hJobs.fresh.1]
      exact .refused rfl
    · rw [hClient] at hLook
      exact .inl ⟨hLook, Nat.ne_of_lt (hJobs.sources streamId source hLook).1⟩
  | @open_ i job decision source hPc hOwns hAccepted hClient =>
    have hOpening := hSources.opening_of_commit hJobs hPc hOwns
    obtain ⟨hNone, hNoGrant⟩ := (h.booked _ _ hOwns.active).opening hOpening
    obtain ⟨hSequence, hAcknowledged⟩ := hSources.fresh _ _ hOwns.active hOpening
    have hHeld : s.Holds job := .inr ⟨i, by rw [hPc]; rfl⟩
    have hRequest := (hSources.linked job job.workId source hHeld hOwns.active hOwns.own).2.2
    obtain ⟨hNow, hGrants, hSame⟩ := book_of_enqueued s.client s'.client
      source.cancellation (by rw [hClient]; rfl) rfl
    rw [hNone] at hNow
    rw [hNoGrant] at hGrants
    -- the source had neither frames nor grants before its result
    refine h.replaced (hDistinct hOwns.active) hSame ?_ (by rw [hClient]; rfl)
      (.of_opened (.open_ hRequest hSequence hAcknowledged hAccepted hNow hGrants) rfl)
    rw [hNow]
    exact @SourceFrames.opened _ [] hAccepted rfl
  | @refuse i job decision source digest _ hPc hOwns hRefused hClient =>
    have hOpening := hSources.opening_of_commit hJobs hPc hOwns
    obtain ⟨hNone, -⟩ := (h.booked _ _ hOwns.active).opening hOpening
    -- the result that refuses the open is the only frame of the source
    refine h.erased (hDistinct hOwns.active)
      (sourceOpenFrame job.workId decision) (by rw [hClient]; rfl) rfl ?_
      (by rw [hClient]; rfl)
    rw [hNone]
    exact .refused hRefused
  | @publish streamId items source _ hPublishes hClient =>
    obtain ⟨chunks, hBook⟩ := (h.booked _ _ hPublishes.active).opened hPublishes.opened
    obtain ⟨hNow, hGrants, hSame⟩ := book_of_enqueued s.client s'.client
      source.cancellation (by rw [hClient]; rfl) rfl
    have hBook' := hBook.publish hPublishes (hPublishes.exact hReach hWire) hNow hGrants
    -- the chunk continues the numbering of the chunks before it
    refine h.replaced (hDistinct hPublishes.active) hSame ?_ (by rw [hClient]; rfl)
      (.of_opened hBook' hPublishes.opened)
    obtain ⟨result, hAccepted, hFrames⟩ := hBook'.frames
    have hFrames : s'.client.sourceFrames source.cancellation = _ := hFrames
    rw [hFrames]
    refine .opened hAccepted ?_
    rw [numbered_length hBook'.sequences]
    exact hBook'.sequences
  | close _ hActive hPhase hClient =>
    -- the close carries the last number
    rw [hClient]
    exact h.closed (hDistinct hActive) hActive hPhase
  | @cancelOpened _ _ _ _ source _ hActive hPhase hClient =>
    rw [hClient]
    exact Books.closed (c := s.client.sourceCancelled source) (hDistinct hActive)
      (h.sourceCancelled source) hActive hPhase
  | @cancel _ _ source _ _ hCore =>
    have hHistory : s'.client.history = [.sourceCancelled source.cancellation] ++ s.client.history :=
      congrArg Core.history hCore
    have hTable : s'.client.tables.sourceStreams = s.client.tables.sourceStreams :=
      congrArg (fun k : Core => k.tables.sourceStreams) hCore
    -- the cancellation of an opening source is an event of no book
    refine (h.sourceCancelled source).quiet (fun id => ⟨?_, ?_⟩) fun _ _ hLook => .inl ?_
    · rw [Client.sourceFrames, hHistory]
      rfl
    · rw [Client.sourceGrants, hHistory]
      rfl
    · rwa [hTable] at hLook
  | @grant _ streamId source acknowledged messages bytes _ hActive hPhase _ hUpper hMessages hBytes
      hClient =>
    obtain ⟨chunks, hBook⟩ := (h.booked _ _ hActive).opened hPhase
    have hFrames : s'.client.sourceFrames source.cancellation =
        s.client.sourceFrames source.cancellation := by
      rw [hClient]
      exact List.filterMap_cons_none rfl
    have hGrants : s'.client.sourceGrants source.cancellation =
        (messages, bytes) :: s.client.sourceGrants source.cancellation := by
      rw [hClient]
      exact List.filterMap_cons_some (if_pos rfl)
    -- a grant is booked for its own source only
    refine h.replaced (hDistinct hActive) ?_ ?_ (by rw [hClient]; rfl)
      (.of_opened (hBook.grant hUpper hMessages hBytes hFrames hGrants) hPhase)
    · intro other hOther
      refine sameBook_of_history [.granted source.cancellation messages bytes]
        (by rw [hClient]; rfl) fun event hMem hSource => ?_
      rw [List.mem_singleton.mp hMem] at hSource
      exact hOther (Option.some.inj hSource).symm
    · rw [hFrames]
      exact h.frames _
  | lateGrant _ _ hClient =>
    -- a grant after the close changes the tombstone
    rw [hClient]
    exact h.quiet (fun _ => ⟨rfl, rfl⟩) fun _ _ hLook => .inl hLook
  | acknowledge _ _ _ _ _ _ hClient =>
    rw [hClient]
    exact h.quiet (fun _ => ⟨rfl, rfl⟩) fun _ _ hLook => .inl hLook
  | deactivate _ _ hCore =>
    have hHistory : s'.client.history = s.client.history := congrArg Core.history hCore
    have hTable : s'.client.tables.sourceStreams = ∅ :=
      congrArg (fun k : Core => k.tables.sourceStreams) hCore
    -- no source is left
    refine h.quiet (fun id => sameBook_of_history [] hHistory (by simp)) fun _ _ hLook => ?_
    rw [hTable] at hLook
    cases hLook
  | retire _ hTable _ hHistory =>
    refine h.quiet (fun id => sameBook_of_history [] hHistory (by simp)) fun _ _ hLook => ?_
    obtain hSame | hEmpty := hTable
    · exact .inl (by rwa [hSame] at hLook)
    · rw [hEmpty] at hLook
      cases hLook

/-- In every reachable state the books of the sources are in order. -/
theorem books_of_reachable (hWire : ∀ header chunk,
      chunk.bytes ≤ env.protobuf.workRequestBytes header (.sourceData chunk))
    (h : (machine env).Reachable s) : Books s.client := by
  refine h.invariant (I := fun s => Books s.client) ?_ ?_
  · exact ⟨fun id => .none, fun _ _ hLook => by cases hLook⟩
  · exact fun s a s' hReach hBooks hStep => hBooks.step hReach hWire hStep

-- ---------------------------------------------------------------------------
-- What is booked
-- ---------------------------------------------------------------------------

/-- A chunk that `PublishSource` accepts: it carries the next number, its source is
charged for all of it, and it is put at the end of the Work queue and booked. -/
structure AcceptsChunk (c c' : Client) (streamId : Text) (items : List Text)
    (source source' : SourceState) : Prop where
  before : c.tables.sourceStreams.lookup streamId = some source
  opened : source.phase = .opened
  sequence : source'.sequence = source.sequence + 1
  messages : source'.messageCredit + items.length = source.messageCredit
  bytes : source'.byteCredit + (items.map List.length).sum = source.byteCredit
  after : c'.tables = { c.tables with
    sourceStreams := c.tables.sourceStreams.insert streamId
      { source with
        sequence := source'.sequence
        messageCredit := source'.messageCredit
        byteCredit := source'.byteCredit } }
  queued : ∃ bytes, c'.queues.work = c.queues.work ++
    [⟨.sourceData { streamId, sequence := source'.sequence, items }, bytes⟩]
  booked : c'.history = .enqueued (some source.cancellation)
    (.sourceData { streamId, sequence := source'.sequence, items }) :: c.history

/-- What `GrantSourceCredit` asks of a grant for an active source. -/
structure Grantable (c : Client) (credit : SourceCredit) (source : SourceState)
    (grant : Credit) : Prop where
  given : credit.grant = some grant
  named : credit.streamId ≠ []
  messages : 0 < grant.messages
  bytes : 0 < grant.bytes
  opened : source.phase = .opened
  epoch : source.connectionEpoch = c.session.connectionEpochCounter
  lower : source.acknowledgedSequence ≤ credit.acknowledgedSequence
  upper : credit.acknowledgedSequence ≤ source.sequence
  messagesFit : source.messageCredit + grant.messages ≤ sizeMax
  bytesFit : source.byteCredit + grant.bytes ≤ sizeMax

/-- A grant that is accepted is added to the credit of its source and booked, and the
Work queue stays. -/
structure AcceptsGrant (c c' : Client) (credit : SourceCredit) (source : SourceState)
    (grant : Credit) : Prop where
  after : c'.tables = { c.tables with
    sourceStreams := c.tables.sourceStreams.insert credit.streamId
      { source with
        acknowledgedSequence := credit.acknowledgedSequence
        messageCredit := source.messageCredit + grant.messages
        byteCredit := source.byteCredit + grant.bytes } }
  queue : c'.queues = c.queues
  booked : c'.history = .granted source.cancellation grant.messages grant.bytes :: c.history

/-- A close that `CloseSource` accepts: the `SourceClose` with the last number is put at
the end of the Work queue and booked, and the source leaves the table. -/
structure AcceptsClose (c c' : Client) (streamId : Text) (error : Option AdapterError)
    (source : SourceState) : Prop where
  before : c.tables.sourceStreams.lookup streamId = some source
  opened : source.phase = .opened
  after : c'.tables.sourceStreams = c.tables.sourceStreams.erase streamId
  queued : ∃ bytes, c'.queues.work = c.queues.work ++
    [⟨.sourceClose { streamId, finalSequence := source.sequence, error }, bytes⟩]
  booked : c'.history = .enqueued (some source.cancellation)
    (.sourceClose { streamId, finalSequence := source.sequence, error }) :: c.history

/-- A publication that passes the checks is accepted in full. -/
theorem acceptsChunk_of_publishes {streamId : Text} {items : List Text} {source : SourceState}
    (h : Publishes env c streamId items source)
    (hExact : chunkBytes items = (items.map List.length).sum) :
    AcceptsChunk c ((c.queued env (some source.cancellation)
      (.sourceData { streamId, sequence := source.sequence + 1, items })).setSource streamId
        (source.published items)) streamId items source (source.published items) where
  before := h.active
  opened := h.opened
  sequence := rfl
  messages := Nat.sub_add_cancel h.messageCredit
  bytes := by
    rw [← hExact]
    exact Nat.sub_add_cancel h.byteCredit
  after := rfl
  queued := ⟨_, rfl⟩
  booked := rfl

/-- A grant that meets the conditions is accepted, with its exact amounts. -/
theorem Grantable.accepted {credit : SourceCredit} {sequence : Nat} {source : SourceState}
    {grant : Credit} (h : Grantable c credit source grant)
    (hActive : c.tables.sourceStreams.lookup credit.streamId = some source) :
    ∃ c', grantSourceCredit c credit sequence = (.done, c') ∧
      AcceptsGrant c c' credit source grant := by
  have hPositive : ¬(credit.streamId = [] ∨ grant.messages = 0 ∨ grant.bytes = 0) := by
    have hMessages := h.messages
    have hBytes := h.bytes
    rintro (hNil | hZero | hZero)
    · exact h.named hNil
    · omega
    · omega
  have hOpen : ¬(source.phase ≠ .opened ∨
      source.connectionEpoch ≠ c.session.connectionEpochCounter) := by
    simp [h.opened, h.epoch]
  have hRange : ¬(credit.acknowledgedSequence < source.acknowledgedSequence ∨
      source.sequence < credit.acknowledgedSequence) := by
    have hLower := h.lower
    have hUpper := h.upper
    omega
  have hFits : ¬(addOverflows source.messageCredit grant.messages = true ∨
      addOverflows source.byteCredit grant.bytes = true) := by
    have hMessages := h.messagesFit
    have hBytes := h.bytesFit
    simp only [addOverflows, decide_eq_true_eq]
    omega
  refine ⟨{ c with history := .granted source.cancellation grant.messages grant.bytes ::
    c.history }.setSource credit.streamId
      (source.granted credit.acknowledgedSequence grant.messages grant.bytes), ?_, ?_, rfl, rfl⟩
  · simp only [grantSourceCredit, h.given, if_neg hPositive, hActive, if_neg hOpen, if_neg hRange,
      if_neg hFits]
    rfl
  · simp only [Client.setSource, SourceState.granted, sizeAdd_eq h.messagesFit,
      sizeAdd_eq h.bytesFit]

/-- Any other grant for an active source is a protocol error that changes nothing. -/
theorem grantSourceCredit_refused {credit : SourceCredit} {sequence : Nat} {source : SourceState}
    (hActive : c.tables.sourceStreams.lookup credit.streamId = some source)
    (hNot : ∀ grant, ¬Grantable c credit source grant) :
    ∃ message, grantSourceCredit c credit sequence = (.protocolError sequence message, c) := by
  unfold grantSourceCredit
  cases hGrant : credit.grant with
  | none => exact ⟨_, rfl⟩
  | some grant =>
    simp only [hActive]
    split
    · exact ⟨_, rfl⟩
    · rename_i hPositive
      split
      · exact ⟨_, rfl⟩
      · rename_i hOpen
        split
        · exact ⟨_, rfl⟩
        · rename_i hRange
          split
          · exact ⟨_, rfl⟩
          · rename_i hFits
            -- every check has been passed
            simp only [not_or, ne_eq, not_not] at hPositive hOpen hRange
            simp only [addOverflows, decide_eq_true_eq] at hFits
            exact (hNot grant ⟨hGrant, hPositive.1, by omega, by omega, hOpen.1, hOpen.2, by omega,
              by omega, by omega, by omega⟩).elim

/-- A frame is booked for the source and put at the end of the Work queue. -/
def Client.Enters (c c' : Client) (id : CancellationId) : Prop :=
  ∃ frame bytes, c'.sourceFrames id = frame :: c.sourceFrames id ∧
    c'.queues.work = c.queues.work ++ [⟨frame, bytes⟩]

/-- A frame is queued for one source, and booked for it alone. -/
theorem enters_of_enqueued (c c' : Client) (owner : CancellationId) {frame : WorkFrame} {bytes : Nat}
    (hHistory : c'.history = .enqueued (some owner) frame :: c.history)
    (hFrame : (WorkEvent.enqueued (some owner) frame).source? = some owner)
    (hWork : c'.queues.work = c.queues.work ++ [⟨frame, bytes⟩]) :
    c'.sourceFrames id = c.sourceFrames id ∨ c.Enters c' id := by
  obtain ⟨hNow, -, hSame⟩ := book_of_enqueued c c' owner hHistory hFrame
  by_cases hOwner : id = owner
  · subst hOwner
    exact .inr ⟨frame, bytes, hNow, hWork⟩
  · exact .inl (hSame id hOwner).1

/-- A frame is booked in the step that puts it at the end of the Work queue. -/
theorem SourceMove.booked (h : SourceMove env s a s') (id : CancellationId) :
    s'.client.sourceFrames id = s.client.sourceFrames id ∨ s.client.Enters s'.client id := by
  cases h with
  | keep _ _ hHistory hNew =>
    refine .inl (sameBook_of_history _ hHistory fun event hMem => ?_).1
    rw [hNew event hMem]
    exact fun hNone => by cases hNone
  | enter _ _ _ _ hClient =>
    rw [hClient]
    exact .inl (List.filterMap_cons_none rfl)
  | reject _ _ hClient | open_ _ _ _ hClient | refuse _ _ _ hClient | publish _ _ hClient
  | close _ _ _ hClient =>
    exact enters_of_enqueued _ _ _ (by rw [hClient]; rfl) rfl (by rw [hClient]; rfl)
  | @cancelOpened _ _ _ _ source _ _ _ hClient =>
    have hBefore : (s.client.sourceCancelled source).sourceFrames id = s.client.sourceFrames id :=
      List.filterMap_cons_none rfl
    have hEnters : s'.client.sourceFrames id = (s.client.sourceCancelled source).sourceFrames id ∨
        (s.client.sourceCancelled source).Enters s'.client id :=
      enters_of_enqueued _ _ source.cancellation (by rw [hClient]; rfl) rfl (by rw [hClient]; rfl)
    rwa [Client.Enters, hBefore] at hEnters
  | @cancel _ _ source _ _ hCore =>
    have hHistory : s'.client.history = .sourceCancelled source.cancellation :: s.client.history :=
      congrArg Core.history hCore
    rw [Client.sourceFrames, hHistory]
    exact .inl (List.filterMap_cons_none rfl)
  | grant _ _ _ _ _ _ _ hClient =>
    rw [hClient]
    exact .inl (List.filterMap_cons_none rfl)
  | lateGrant _ _ hClient | acknowledge _ _ _ _ _ _ hClient =>
    rw [hClient]
    exact .inl rfl
  | deactivate _ _ hCore =>
    have hHistory : s'.client.history = s.client.history := congrArg Core.history hCore
    rw [Client.sourceFrames, hHistory]
    exact .inl rfl
  | retire _ _ _ hHistory =>
    rw [Client.sourceFrames, hHistory]
    exact .inl rfl

-- ---------------------------------------------------------------------------
-- The law
-- ---------------------------------------------------------------------------

/-- The acknowledged sequence of a source that stays does not decrease. -/
theorem SourceTurn.acknowledged {streamId : Text} {source source' : SourceState}
    (h : SourceTurn s s' streamId source source') :
    source.acknowledgedSequence ≤ source'.acknowledgedSequence := by
  cases h with
  | same | opened | published => exact Nat.le_refl _
  | granted _ hLower => exact hLower

/-- **Credit and sequence of a source are conserved.** On a wire whose chunks are
no shorter than their items, in every reachable state:

* the book of an open source balances and its chunks are within the limits of its
  endpoint; the frames of every instance are its accepted open, chunks numbered from
  one and at most a close with the last number; and what is booked is what is put on
  the Work queue, in this order;
* an accepted chunk is charged in full, numbered next and queued, an accepted grant is
  added exactly, and an accepted close is queued with the last number; a grant for an
  active source is accepted when it is positive, within the sequence and the word;
* acknowledged sequences never decrease, and a chunk, a grant or a close that is not
  accepted changes no credit, no sequence and not the Work queue. -/
theorem source_conserved
    (hWire : ∀ header chunk,
      SourceData.bytes chunk ≤ env.protobuf.workRequestBytes header (.sourceData chunk))
    (h : (machine env).Reachable s) :
    (∀ streamId source, s.client.tables.sourceStreams.lookup streamId = some source →
      source.phase = .opened → ∃ chunks binding endpoint, SourceBook s.client source chunks ∧
        env.binding? source.bindingIndex = some binding ∧
        findEndpoint binding.contract source.request.context.endpointId = some endpoint ∧
        ∀ chunk ∈ chunks, chunk.items.length ≤ endpoint.limits.maximumStreamChunkMessages ∧
          chunk.bytes ≤ endpoint.limits.maximumStreamChunkBytes) ∧
    (∀ id, SourceFrames (s.client.sourceFrames id)) ∧
    (∀ a s' id, (machine env).step s a = some s' →
      s'.client.sourceFrames id = s.client.sourceFrames id ∨
        ∃ frame bytes, s'.client.sourceFrames id = frame :: s.client.sourceFrames id ∧
          s'.client.queues.work = s.client.queues.work ++ [⟨frame, bytes⟩]) ∧
    (∀ streamId items c', publishSource env s.client streamId items = (.accepted, c') →
      ∃ source source', AcceptsChunk s.client c' streamId items source source') ∧
    (∀ credit sequence source,
      s.client.tables.sourceStreams.lookup credit.streamId = some source →
      (∀ grant, Grantable s.client credit source grant →
        ∃ c', grantSourceCredit s.client credit sequence = (.done, c') ∧
          AcceptsGrant s.client c' credit source grant) ∧
      ((∀ grant, ¬Grantable s.client credit source grant) →
        ∃ message, grantSourceCredit s.client credit sequence =
          (.protocolError sequence message, s.client))) ∧
    (∀ streamId error c', closeSource env s.client streamId error = (true, c') →
      ∃ source, AcceptsClose s.client c' streamId error source) ∧
    (∀ a s' streamId source source', (machine env).step s a = some s' →
      s.client.tables.sourceStreams.lookup streamId = some source →
      s'.client.tables.sourceStreams.lookup streamId = some source' →
      source'.cancellation = source.cancellation →
      source.acknowledgedSequence ≤ source'.acknowledgedSequence) ∧
    (∀ streamId items result c', publishSource env s.client streamId items = (result, c') →
      result ≠ .accepted →
      c'.tables = s.client.tables ∧ c'.queues.work = s.client.queues.work) ∧
    (∀ streamId error c', closeSource env s.client streamId error = (false, c') →
      c'.tables = s.client.tables ∧ c'.queues.work = s.client.queues.work) := by
  have hBooks := books_of_reachable hWire h
  refine ⟨fun streamId source hLook hPhase => ?_, hBooks.frames, fun a s' id hStep =>
    (sourceMove_of_step (shape_of_reachable h) hStep).booked id, ?_, ?_, ?_, ?_, ?_, ?_⟩
  · -- the books of an open source, under the limits of its endpoint
    obtain ⟨chunks, hBook⟩ := (hBooks.booked streamId source hLook).opened hPhase
    obtain ⟨endpoint, ⟨binding, hBinding, hEndpoint⟩, hChunked, hBytes, hMessages⟩ :=
      metered_of_reachable h hLook
    refine ⟨chunks, binding, endpoint, hBook, hBinding, hEndpoint, fun chunk hMem => ?_⟩
    obtain ⟨hMessageLimit, hByteLimit⟩ := hBook.limits chunk hMem
    rw [hMessages] at hMessageLimit
    rw [hBytes] at hByteLimit
    exact ⟨hMessageLimit.resolve_left hChunked.messages, hByteLimit.resolve_left hChunked.bytes⟩
  · -- an accepted chunk is charged and queued by the section itself
    intro streamId items c' hPublish
    obtain ⟨-, source, hPublishes, rfl⟩ | ⟨hNot, -⟩ := publishSource_cases hPublish
    · exact ⟨source, _, acceptsChunk_of_publishes hPublishes (hPublishes.exact h hWire)⟩
    · exact absurd rfl hNot
  · exact fun credit sequence source hActive =>
      ⟨fun grant hGrantable => hGrantable.accepted hActive, grantSourceCredit_refused hActive⟩
  · -- an accepted close is queued last
    intro streamId error c' hClose
    obtain ⟨-, source, digest, hActive, hPhase, -, rfl⟩ | ⟨hNot, -⟩ := closeSource_cases hClose
    · exact ⟨source, hActive, hPhase, rfl, ⟨_, rfl⟩, rfl⟩
    · cases hNot
  · -- an acknowledged sequence never recedes
    intro a s' streamId source source' hStep hLook hLook' hSame
    have hMove := sourceMove_of_step (shape_of_reachable h) hStep
    obtain ⟨source₀, hWas, hTurn⟩ | ⟨_, _, _, _, _, -, -, hUnused, -, -, hKey, -⟩ := hMove.back hLook'
    · rw [hLook, Option.some.injEq] at hWas
      rw [hWas]
      exact hTurn.acknowledged
    · rw [hKey, hUnused.2.1] at hLook
      cases hLook
  · -- what is refused changes neither the tables nor the Work queue
    intro streamId items result c' hPublish hResult
    obtain ⟨hAccepted, -⟩ | ⟨-, rfl | rfl⟩ := publishSource_cases hPublish
    · exact absurd hAccepted hResult
    · exact ⟨rfl, rfl⟩
    · exact ⟨rfl, rfl⟩
  · intro streamId error c' hClose
    obtain ⟨hTrue, -⟩ | ⟨-, rfl | rfl⟩ := closeSource_cases hClose
    · cases hTrue
    · exact ⟨rfl, rfl⟩
    · exact ⟨rfl, rfl⟩

section Runs

open Deployment

/-- A source publishes two chunks, is granted credit for the first and publishes a
third. -/
theorem source_conserved_feed :
    ∃ s source chunks, (machine deployment).Reachable s ∧
      s.client.tables.sourceStreams.lookup (text "a") = some source ∧ source.sequence = 3 ∧
      source.acknowledgedSequence = 1 ∧ SourceBook s.client source chunks := by
  obtain ⟨s, hReach, hRun⟩ := (machine deployment).exists_reaches_of_runWith (fun _ _ => True)
    (bringUp ++ openFeed 1 "a" ++
      .publishSource (text "a") [text "x", text "yz"] :: .publishSource (text "a") [text "v"] ::
      hostFrame 1 2 (creditFrame "a" 1 2 3) ++
      [.publishSource (text "a") [text "w", text "w", text "w"]])
    (fun s => (s.client.tables.sourceStreams.lookup (text "a")).any fun source =>
      source.phase == .opened && source.sequence == 3 && source.acknowledgedSequence == 1)
    (by decide +kernel)
  simp only [Option.any_eq_true, Bool.and_eq_true, beq_iff_eq] at hRun
  obtain ⟨source, hLook, ⟨hPhase, hSequence⟩, hAcknowledged⟩ := hRun
  have hWire : ∀ header chunk,
      SourceData.bytes chunk ≤ deployment.protobuf.workRequestBytes header (.sourceData chunk) := by
    intro header chunk
    show (chunk.items.map List.length).sum ≤ 64 + header.instanceId.length +
      header.sessionId.length + (chunk.streamId ++ chunk.items.flatten).length
    rw [List.length_append, List.length_flatten]
    omega
  obtain ⟨chunks, -, -, hBook, -⟩ :=
    (source_conserved hWire hReach).1 (text "a") source hLook hPhase
  exact ⟨s, source, chunks, hReach, hLook, hSequence, hAcknowledged, hBook⟩

end Runs

end AdapterRuntime.Model
