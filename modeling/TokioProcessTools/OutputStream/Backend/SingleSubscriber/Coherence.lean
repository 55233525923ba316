import TokioProcessTools.OutputStream.Backend.SingleSubscriber.Registration

/-!
# The reader, the log and the channels

The reader is always somewhere in the processing of one piece of the source.
Behind its position lies the rest of the buffer. A chunk in hand is the piece in
front of that. An event on its way is the last one that was recorded. After the
terminal event nothing is read or recorded any more.

`Coherent` collects this with the registration, for both delivery guarantees.
-/

set_option autoImplicit false

namespace TokioProcessTools.OutputStream.Backend.SingleSubscriber

open Foundation

/-! ## The reader -/

/-- The buffer is what was read behind the reader's position. -/
structure Buffered (source : List UInt8) (reader : Reader) : Prop where
  buffer : source.drop reader.position = reader.buffer
  inside : reader.position ≤ source.length

/-- A chunk that was split off is the piece of the source in front of the position. -/
structure InHand (source : List UInt8) (position : Nat) (chunk : Chunk) : Prop where
  nonempty : chunk.bytes ≠ []
  stretch : (source.drop chunk.offset).take chunk.bytes.length = chunk.bytes
  behind : chunk.endOffset = position

/-- An event on its way is the last one recorded. It is the chunk in hand or the terminal event,
and only a chunk may have gone unrecorded for later subscribers. -/
structure Carries (options : StreamConfig) (shared : ReplayState) (log : List StreamEvent)
    (source : List UInt8) (position : Nat) (buffer : List UInt8) (attempt : Attempt) : Prop where
  last : ∃ front, log = front ++ [attempt.event]
  unrecorded : attempt.recorded = false → attempt.event.isChunk = true ∧
    (options.replayRetention = none ∨ shared.replaySealed = true)
  kind : (∃ chunk, attempt.event = .chunk chunk ∧ InHand source position chunk ∧
      shared.terminalEvent = none) ∨
    (attempt.event.isTerminal = true ∧ shared.terminalEvent = some attempt.event ∧ buffer = [])

namespace Carries

variable {options : StreamConfig} {shared : ReplayState} {log : List StreamEvent}
  {source : List UInt8} {position : Nat} {buffer : List UInt8} {attempt : Attempt}

/-- A chunk is on its way only before the terminal event. -/
theorem running (carries : Carries options shared log source position buffer attempt)
    (isChunk : attempt.event.isChunk = true) : shared.terminalEvent = none := by
  rcases carries.kind with ⟨_, _, _, running⟩ | ⟨terminal, _⟩
  · exact running
  · rw [StreamEvent.isTerminal_of_isChunk isChunk] at terminal
    cases terminal

theorem isChunk (carries : Carries options shared log source position buffer attempt)
    (running : ¬ attempt.event.isTerminal = true) : attempt.event.isChunk = true := by
  rcases carries.kind with ⟨_, event, _⟩ | ⟨terminal, _⟩
  · rw [event]
    rfl
  · exact absurd terminal running

/-- The second attempt carries the same event. -/
theorem retry (carries : Carries options shared log source position buffer attempt) :
    Carries options shared log source position buffer { attempt with retried := true } :=
  ⟨carries.last, carries.unrecorded, carries.kind⟩

end Carries

section Places

variable (options : StreamConfig) (shared : ReplayState) (log : List StreamEvent)
  (source : List UInt8) (reader : Reader)

/-- What holds in the sending loops. -/
def PurposeCoherent : Purpose → Prop
  | .gap => options.deliveryGuarantee = .lossyWithoutBackpressure ∧ shared.terminalEvent = none ∧
      reader.buffer ≠ []
  | .chunk attempt => options.deliveryGuarantee = .lossyWithoutBackpressure ∧
      attempt.event.isChunk = true ∧
      Carries options shared log source reader.position reader.buffer attempt
  | .flush attempt => options.deliveryGuarantee = .lossyWithoutBackpressure ∧
      attempt.event.isTerminal = true ∧
      Carries options shared log source reader.position reader.buffer attempt
  | .deliver attempt => (options.deliveryGuarantee = .reliableWithBackpressure ∨
        attempt.event.isTerminal = true) ∧
      Carries options shared log source reader.position reader.buffer attempt

/-- What holds at each place. -/
def PlaceCoherent : Place → Prop
  | .reading => shared.terminalEvent = none ∧ reader.buffer = []
  | .refreshRead .data | .yielding => shared.terminalEvent = none
  | .refreshRead .eof | .refreshRead (.failed _) =>
      shared.terminalEvent = none ∧ reader.buffer = []
  | .record event => shared.terminalEvent = none ∧
      ((∃ chunk, event = .chunk chunk ∧ InHand source reader.position chunk) ∨
        (event.isTerminal = true ∧ reader.buffer = []))
  | .sending purpose | .clearing purpose _ | .refreshing purpose =>
      PurposeCoherent options shared log source reader purpose
  | .finished => shared.terminalEvent.isSome = true
  | .aborted => False

/-- The reader is in order. -/
structure ReaderCoherent : Prop where
  buffered : Buffered source reader
  place : PlaceCoherent options shared log source reader reader.place

end Places

section Reader

variable {options : StreamConfig} {shared : ReplayState} {log : List StreamEvent}
  {source : List UInt8} {reader : Reader} {attempt : Attempt}

theorem splitChunk_coherent (sized : 0 < options.readChunkSize.bytes)
    (buffered : Buffered source reader) (running : shared.terminalEvent = none)
    (some : reader.buffer ≠ []) :
    ReaderCoherent options shared log source (reader.splitChunk options) := by
  obtain ⟨buffer, inside⟩ := buffered
  have length : reader.buffer.length = source.length - reader.position := by
    rw [← buffer, List.length_drop]
  refine ⟨⟨?_, ?_⟩, running, .inl ⟨_, rfl, ?_, ?_, rfl⟩⟩
  · simp only [Reader.splitChunk]
    rw [← List.drop_drop, buffer, List.drop_eq_drop_iff, List.length_take]
    omega
  · simp only [Reader.splitChunk, List.length_take]
    omega
  · intro empty
    rw [List.take_eq_nil_iff] at empty
    rcases empty with zero | none
    · omega
    · exact some none
  · rw [buffer, List.take_eq_take_iff, List.length_take]
    omega

/-- The head of the loop over the buffer. -/
theorem nextChunk_coherent (sized : 0 < options.readChunkSize.bytes)
    (buffered : Buffered source reader) (running : shared.terminalEvent = none) :
    ReaderCoherent options shared log source (reader.nextChunk options) := by
  have same : Buffered source reader.observe := ⟨buffered.buffer, buffered.inside⟩
  unfold Reader.nextChunk
  split
  · rename_i empty
    exact ⟨⟨buffered.buffer, buffered.inside⟩, running, empty⟩
  · rename_i byte rest full
    have some : reader.buffer ≠ [] := by simp [full]
    split
    · exact splitChunk_coherent sized buffered running some
    · rename_i lossy
      dsimp only
      split
      · split
        · exact splitChunk_coherent sized ⟨same.buffer, same.inside⟩ running some
        · exact ⟨⟨buffered.buffer, buffered.inside⟩, lossy, running, some⟩
      · exact splitChunk_coherent sized same running some

/-- Behind the delivery of an event. -/
theorem afterEvent_coherent (sized : 0 < options.readChunkSize.bytes)
    (buffered : Buffered source reader)
    (carries : Carries options shared log source reader.position reader.buffer attempt) :
    ReaderCoherent options shared log source (reader.afterEvent options attempt.event) := by
  unfold Reader.afterEvent
  rcases carries.kind with ⟨chunk, event, _, running⟩ | ⟨terminal, stored, _⟩
  · rw [if_neg (by simp [event])]
    exact nextChunk_coherent sized buffered running
  · rw [if_pos terminal]
    refine ⟨⟨buffered.buffer, buffered.inside⟩, ?_⟩
    simp [Reader.finish, PlaceCoherent, stored]

theorem startDeliver_coherent (sized : 0 < options.readChunkSize.bytes)
    (buffered : Buffered source reader)
    (carries : Carries options shared log source reader.position reader.buffer attempt)
    (right : options.deliveryGuarantee = .reliableWithBackpressure ∨
      attempt.event.isTerminal = true) :
    ReaderCoherent options shared log source (reader.startDeliver options attempt) := by
  unfold Reader.startDeliver
  split
  · exact afterEvent_coherent sized buffered carries
  · exact ⟨⟨buffered.buffer, buffered.inside⟩, right, carries⟩

theorem startTrySend_coherent (sized : 0 < options.readChunkSize.bytes)
    (buffered : Buffered source reader)
    (carries : Carries options shared log source reader.position reader.buffer attempt)
    (lossy : options.deliveryGuarantee = .lossyWithoutBackpressure)
    (isChunk : attempt.event.isChunk = true) :
    ReaderCoherent options shared log source (reader.startTrySend options attempt) := by
  unfold Reader.startTrySend
  split
  · have running : shared.terminalEvent = none := carries.running isChunk
    exact nextChunk_coherent sized ⟨buffered.buffer, buffered.inside⟩ running
  · exact ⟨⟨buffered.buffer, buffered.inside⟩, lossy, isChunk, carries⟩

theorem startFlush_coherent (sized : 0 < options.readChunkSize.bytes)
    (buffered : Buffered source reader)
    (carries : Carries options shared log source reader.position reader.buffer attempt)
    (lossy : options.deliveryGuarantee = .lossyWithoutBackpressure)
    (terminal : attempt.event.isTerminal = true) :
    ReaderCoherent options shared log source (reader.startFlush options attempt) := by
  unfold Reader.startFlush
  split
  · split
    · exact startDeliver_coherent sized ⟨buffered.buffer, buffered.inside⟩ carries (.inr terminal)
    · exact ⟨⟨buffered.buffer, buffered.inside⟩, lossy, terminal, carries⟩
  · exact startDeliver_coherent sized buffered carries (.inr terminal)

theorem afterRecord_coherent (sized : 0 < options.readChunkSize.bytes)
    (buffered : Buffered source reader)
    (carries : Carries options shared log source reader.position reader.buffer attempt) :
    ReaderCoherent options shared log source (reader.afterRecord options attempt) := by
  unfold Reader.afterRecord
  split
  · rename_i reliable
    exact startDeliver_coherent sized buffered carries (.inl reliable)
  · rename_i lossy
    split
    · rename_i terminal
      exact startFlush_coherent sized ⟨buffered.buffer, buffered.inside⟩ carries lossy terminal
    · rename_i running
      exact startTrySend_coherent sized buffered carries lossy (carries.isChunk running)

theorem afterSent_coherent (sized : 0 < options.readChunkSize.bytes)
    (buffered : Buffered source reader) {purpose : Purpose}
    (coherent : PurposeCoherent options shared log source reader purpose) :
    ReaderCoherent options shared log source (reader.afterSent options purpose) := by
  have relagged : ∀ lag, Buffered source { reader with lag } :=
    fun _ => ⟨buffered.buffer, buffered.inside⟩
  cases purpose with
  | gap =>
      obtain ⟨_, running, some⟩ := coherent
      exact splitChunk_coherent sized (relagged _) running some
  | chunk attempt =>
      obtain ⟨_, isChunk, carries⟩ := coherent
      exact nextChunk_coherent sized (relagged _) (carries.running isChunk)
  | flush attempt =>
      obtain ⟨_, terminal, carries⟩ := coherent
      exact startDeliver_coherent sized (relagged _) carries (.inr terminal)
  | deliver attempt =>
      obtain ⟨_, carries⟩ := coherent
      exact afterEvent_coherent sized buffered carries

theorem afterFull_coherent (buffered : Buffered source reader) {purpose : Purpose}
    (coherent : PurposeCoherent options shared log source reader purpose) {next : Reader}
    (full : reader.afterFull options purpose = some next) :
    ReaderCoherent options shared log source next := by
  obtain ⟨buffer, inside⟩ := buffered
  cases purpose with
  | gap =>
      obtain ⟨_, running, _⟩ := coherent
      cases full
      have length : reader.buffer.length = source.length - reader.position := by
        rw [← buffer, List.length_drop]
      have whole : reader.position + reader.buffer.length = source.length := by omega
      refine ⟨⟨?_, ?_⟩, running⟩
      · simp only [whole, List.drop_length]
      · exact Nat.le_of_eq whole
  | chunk attempt =>
      obtain ⟨_, isChunk, carries⟩ := coherent
      cases full
      exact ⟨⟨buffer, inside⟩, carries.running isChunk⟩
  | flush attempt => cases full
  | deliver attempt => cases full

theorem afterRefresh_coherent (sized : 0 < options.readChunkSize.bytes)
    (buffered : Buffered source reader) {purpose : Purpose}
    (coherent : PurposeCoherent options shared log source reader purpose) :
    ReaderCoherent options shared log source (reader.afterRefresh options purpose) := by
  have observed : Buffered source reader.observe := ⟨buffered.buffer, buffered.inside⟩
  cases purpose with
  | gap =>
      obtain ⟨_, running, some⟩ := coherent
      exact splitChunk_coherent sized observed running some
  | chunk attempt =>
      obtain ⟨lossy, isChunk, carries⟩ := coherent
      simp only [Reader.afterRefresh]
      split
      · exact nextChunk_coherent sized observed (carries.running isChunk)
      · exact startTrySend_coherent sized buffered carries.retry lossy isChunk
  | flush attempt =>
      obtain ⟨_, terminal, carries⟩ := coherent
      exact startDeliver_coherent sized observed carries (.inr terminal)
  | deliver attempt =>
      obtain ⟨right, carries⟩ := coherent
      simp only [Reader.afterRefresh]
      split
      · exact afterEvent_coherent sized buffered carries
      · exact startDeliver_coherent sized buffered carries.retry right

theorem afterRead_coherent (sized : 0 < options.readChunkSize.bytes) {streamName : String}
    (buffered : Buffered source reader) (running : shared.terminalEvent = none)
    {result : ReadResult} (empty : result ≠ .data → reader.buffer = []) :
    ReaderCoherent options shared log source (reader.afterRead streamName options result) := by
  obtain ⟨buffer, inside⟩ := buffered
  cases result with
  | data => exact nextChunk_coherent sized ⟨buffer, inside⟩ running
  | eof => exact ⟨⟨buffer, inside⟩, running, .inr ⟨rfl, empty nofun⟩⟩
  | failed error => exact ⟨⟨buffer, inside⟩, running, .inr ⟨rfl, empty nofun⟩⟩

/-- The reader only depends on the terminal event, and on whether replay is sealed. -/
theorem Carries.transfer {next : ReplayState} {position : Nat} {buffer : List UInt8}
    (carries : Carries options shared log source position buffer attempt)
    (terminal : next.terminalEvent = shared.terminalEvent)
    (isSealed : shared.replaySealed = true → next.replaySealed = true) :
    Carries options next log source position buffer attempt where
  last := carries.last
  unrecorded := by
    intro unrecorded
    obtain ⟨isChunk, off⟩ := carries.unrecorded unrecorded
    exact ⟨isChunk, off.imp_right isSealed⟩
  kind := by
    rw [terminal]
    exact carries.kind

theorem PurposeCoherent.transfer {next : ReplayState} {purpose : Purpose}
    (coherent : PurposeCoherent options shared log source reader purpose)
    (terminal : next.terminalEvent = shared.terminalEvent)
    (isSealed : shared.replaySealed = true → next.replaySealed = true) :
    PurposeCoherent options next log source reader purpose := by
  cases purpose with
  | gap =>
      obtain ⟨lossy, running, some⟩ := coherent
      exact ⟨lossy, terminal.trans running, some⟩
  | chunk attempt => exact ⟨coherent.1, coherent.2.1, coherent.2.2.transfer terminal isSealed⟩
  | flush attempt => exact ⟨coherent.1, coherent.2.1, coherent.2.2.transfer terminal isSealed⟩
  | deliver attempt => exact ⟨coherent.1, coherent.2.transfer terminal isSealed⟩

theorem ReaderCoherent.transfer {next : ReplayState}
    (coherent : ReaderCoherent options shared log source reader)
    (terminal : next.terminalEvent = shared.terminalEvent)
    (isSealed : shared.replaySealed = true → next.replaySealed = true) :
    ReaderCoherent options next log source reader := by
  refine ⟨coherent.buffered, ?_⟩
  have place := coherent.place
  cases here : reader.place with
  | reading =>
      rw [here] at place
      exact ⟨terminal.trans place.1, place.2⟩
  | refreshRead result =>
      rw [here] at place
      cases result with
      | data => exact terminal.trans place
      | eof => exact ⟨terminal.trans place.1, place.2⟩
      | failed error => exact ⟨terminal.trans place.1, place.2⟩
  | record event =>
      rw [here] at place
      exact ⟨terminal.trans place.1, place.2⟩
  | sending purpose =>
      rw [here] at place
      exact PurposeCoherent.transfer place terminal isSealed
  | clearing purpose active =>
      rw [here] at place
      exact PurposeCoherent.transfer place terminal isSealed
  | refreshing purpose =>
      rw [here] at place
      exact PurposeCoherent.transfer place terminal isSealed
  | yielding =>
      rw [here] at place
      exact terminal.trans place
  | finished =>
      rw [here] at place
      exact (congrArg Option.isSome terminal).trans place
  | aborted =>
      rw [here] at place
      exact place

end Reader

/-! ## The log and the channels -/

/-- The replay window and the stored terminal event are the end of the log. -/
structure Logged (options : StreamConfig) (shared : ReplayState) (log : List StreamEvent) :
    Prop where
  suffix : shared.events ++ shared.terminalEvent.toList <:+ log
  unretained : options.replayRetention = none ∨ shared.replaySealed = true → shared.events = []
  running : shared.terminalEvent = none → ∀ event ∈ log, event.isChunk = true
  terminal : ∀ terminal, shared.terminalEvent = some terminal → terminal.isTerminal = true ∧
    ∃ front, log = front ++ [terminal] ∧ ∀ event ∈ front, event.isChunk = true

/-- A channel holds what was sent and not yet taken. -/
structure Channeled (options : StreamConfig) (subscription : SingleSubscription) : Prop where
  capacity : subscription.channel.capacity = options.maxBufferedChunks
  whole : subscription.channel.receiverOpen = true →
    subscription.live ++ subscription.channel.queue = subscription.sent
  part : subscription.live <+: subscription.sent

/-- The invariant of the runs that keep the stream. -/
structure Coherent (options : StreamConfig) (state : StreamState) : Prop where
  sound : Sound state
  reader : ReaderCoherent options state.shared state.log state.source state.reader
  logged : Logged options state.shared state.log
  channels : EachAt state.subscriptions fun _ subscription => Channeled options subscription

section Steps

variable {streamName : String} {options : StreamConfig} {state next : StreamState}
  {subscription changed : SingleSubscription}

theorem Logged.record {shared next : ReplayState} {log : List StreamEvent} {event : StreamEvent}
    {recorded : Bool} (logged : Logged options shared log)
    (absent : shared.terminalEvent = none)
    (kind : event.isChunk = true ∨ event.isTerminal = true)
    (effect : shared.Recorded options.replayRetention event next recorded) :
    Logged options next (log ++ [event]) := by
  have kept : shared.events <:+ log := by
    have suffix := logged.suffix
    rw [absent, Option.toList_none, List.append_nil] at suffix
    exact suffix
  have grown : shared.events ++ [event] <:+ log ++ [event] := by
    obtain ⟨front, whole⟩ := kept
    exact ⟨front, by rw [← List.append_assoc, whole]⟩
  have unretained : options.replayRetention = none ∨ next.replaySealed = true →
      shared.eventsAfter options.replayRetention event = [] := by
    intro off
    rw [effect.replaySealed] at off
    rcases off with none | isSealed
    · rw [none]
      exact logged.unretained (.inl none)
    · rw [ReplayState.eventsAfter_of_sealed _ _ isSealed]
      exact logged.unretained (.inr isSealed)
  refine ⟨?_, ?_, ?_, ?_⟩
  · rw [effect.events, effect.terminalEvent]
    rcases kind with isChunk | terminal
    · rw [if_neg (by simp [StreamEvent.isTerminal_of_isChunk isChunk]), absent,
        Option.toList_none, List.append_nil]
      unfold ReplayState.eventsAfter
      split
      · split
        · exact (ReplayRetention.window_suffix _ _ _).trans grown
        · rename_i retention off
          have isSealed : shared.replaySealed = true := by simpa [isChunk] using off
          rw [logged.unretained (.inr isSealed)]
          exact List.nil_suffix
      · rename_i none
        rw [logged.unretained (.inl none)]
        exact List.nil_suffix
    · have notChunk : event.isChunk = false := by
        by_contra isChunk
        rw [StreamEvent.isTerminal_of_isChunk (by simpa using isChunk)] at terminal
        cases terminal
      rw [if_pos terminal, ReplayState.eventsAfter_of_not_chunk _ _ notChunk]
      exact grown
  · rw [effect.events]
    exact unretained
  · intro running other member
    rw [effect.terminalEvent] at running
    split at running
    · cases running
    · rename_i notTerminal
      rcases List.mem_append.mp member with earlier | last
      · exact logged.running absent other earlier
      · rw [List.mem_singleton.mp last]
        exact kind.resolve_right notTerminal
  · intro stored present
    rw [effect.terminalEvent] at present
    split at present
    · rename_i terminal
      cases present
      exact ⟨terminal, log, rfl, logged.running absent⟩
    · rw [absent] at present
      cases present

theorem Logged.empty {shared : ReplayState} {log : List StreamEvent}
    (logged : Logged options shared log) :
    Logged options ({ shared with replaySealed := true }.withEvents []) log where
  suffix := (List.suffix_append _ _).trans logged.suffix
  unretained := fun _ => rfl
  running := logged.running
  terminal := logged.terminal

theorem Channeled.consume (channeled : Channeled options subscription)
    (consumes : Consumes subscription changed) : Channeled options changed := by
  obtain ⟨capacity, whole, part⟩ := channeled
  cases consumes with
  | replay _ _ => exact ⟨capacity, whole, part⟩
  | terminal _ _ _ => exact ⟨capacity, nofun, part⟩
  | @live event channel _ _ _ isOpen received =>
      obtain ⟨rest, queue, rfl⟩ := BoundedChannel.of_recv received
      have taken : (subscription.live ++ [event]) ++ rest = subscription.sent := by
        rw [List.append_assoc, List.singleton_append, ← queue]
        exact whole isOpen
      exact ⟨capacity, fun _ => taken, ⟨rest, taken⟩⟩
  | none _ => exact ⟨capacity, whole, part⟩
  | close _ => exact ⟨capacity, nofun, part⟩

theorem Channeled.send (channeled : Channeled options subscription) {event : StreamEvent}
    {channel : BoundedChannel StreamEvent}
    (sent : subscription.channel.trySend event = .sent channel) :
    Channeled options
      { subscription with channel, sent := subscription.sent ++ [event] } := by
  obtain ⟨isOpen, _, rfl⟩ := BoundedChannel.of_sent sent
  refine ⟨channeled.capacity, ?_, channeled.part.trans (List.prefix_append _ _)⟩
  intro _
  rw [← channeled.whole isOpen, List.append_assoc]

theorem Coherent.think (coherent : Coherent options state) (sound : Sound next)
    (shared : next.shared = state.shared) (log : next.log = state.log)
    (subscriptions : next.subscriptions = state.subscriptions)
    (reader : ReaderCoherent options state.shared state.log next.source next.reader) :
    Coherent options next := by
  refine ⟨sound, ?_, ?_, ?_⟩
  · rw [shared, log]
    exact reader
  · rw [shared, log]
    exact coherent.logged
  · rw [subscriptions]
    exact coherent.channels

/-- Behind `read_buf`. -/
theorem Coherent.gotResult (coherent : Coherent options state) {before : StreamState}
    {result : ReadResult} (sound : Sound (before.gotResult streamName options result))
    (shared : before.shared = state.shared) (log : before.log = state.log)
    (subscriptions : before.subscriptions = state.subscriptions)
    (sized : 0 < options.readChunkSize.bytes)
    (buffered : Buffered before.source before.reader)
    (running : state.shared.terminalEvent = none)
    (empty : result ≠ .data → before.reader.buffer = []) :
    Coherent options (before.gotResult streamName options result) := by
  cases cached : before.reader.cachedActive with
  | none =>
      have waits : before.gotResult streamName options result =
          { before with reader := { before.reader with place := .refreshRead result } } := by
        simp only [StreamState.gotResult, cached]
      rw [waits] at sound ⊢
      refine coherent.think sound shared log subscriptions
        ⟨⟨buffered.buffer, buffered.inside⟩, ?_⟩
      cases result with
      | data => exact running
      | eof => exact ⟨running, empty nofun⟩
      | failed error => exact ⟨running, empty nofun⟩
  | some active =>
      have goes : before.gotResult streamName options result =
          { before with reader := before.reader.afterRead streamName options result } := by
        simp only [StreamState.gotResult, cached]
      rw [goes] at sound ⊢
      exact coherent.think sound shared log subscriptions
        (afterRead_coherent sized buffered running empty)

/-- A registration concerns neither the reader's task nor the log. -/
theorem Coherent.reregister (coherent : Coherent options state) (sound : Sound next)
    (events : next.shared.events = state.shared.events)
    (terminal : next.shared.terminalEvent = state.shared.terminalEvent)
    (isSealed : next.shared.replaySealed = state.shared.replaySealed)
    (log : next.log = state.log) (source : next.source = state.source)
    (reader : ReaderCoherent options state.shared state.log state.source next.reader)
    (channels : EachAt next.subscriptions fun _ subscription => Channeled options subscription) :
    Coherent options next := by
  refine ⟨sound, ?_, ?_, channels⟩
  · rw [log, source]
    refine reader.transfer terminal ?_
    intro before
    rw [isSealed]
    exact before
  · obtain ⟨suffix, unretained, running, stored⟩ := coherent.logged
    refine ⟨?_, ?_, ?_, ?_⟩
    · rw [events, terminal, log]
      exact suffix
    · rw [isSealed, events]
      exact unretained
    · rw [terminal, log]
      exact running
    · rw [terminal, log]
      exact stored

/-- **Every move keeps the invariant.** -/
theorem Coherent.move (coherent : Coherent options state)
    (nonZero : ∀ retention ∈ options.replayRetention, retention.NonZero)
    (sized : 0 < options.readChunkSize.bytes) (sound : Sound next)
    (move : Move streamName options state next) : Coherent options next := by
  have buffered := coherent.reader.buffered
  have place := coherent.reader.place
  cases move with
  | @read bytes here nonempty =>
      rw [here] at place
      have grown : Buffered (state.source ++ bytes)
          { state.reader with buffer := state.reader.buffer ++ bytes } := by
        refine ⟨?_, ?_⟩
        · rw [List.drop_append_of_le_length buffered.inside, buffered.buffer]
        · rw [List.length_append]
          exact Nat.le_add_right_of_le buffered.inside
      exact coherent.gotResult sound rfl rfl rfl sized grown place.1 fun other => absurd rfl other
  | @ended result here terminal =>
      rw [here] at place
      obtain ⟨running, empty⟩ := place
      exact coherent.gotResult sound rfl rfl rfl sized buffered running fun _ => empty
  | changed here inactive =>
      rw [here] at place
      refine coherent.think sound rfl rfl rfl ?_
      obtain ⟨lag, same⟩ := observedIfLossy_eq options state.refreshed
      rw [same]
      exact ⟨⟨buffered.buffer, buffered.inside⟩, by
        rw [show state.refreshed.place = .reading from here]
        exact place⟩
  | @refreshRead result here =>
      rw [here] at place
      have idle : state.shared.terminalEvent = none ∧
          (result ≠ .data → state.reader.buffer = []) := by
        cases result with
        | data => exact ⟨place, fun other => absurd rfl other⟩
        | eof => exact ⟨place.1, fun _ => place.2⟩
        | failed error => exact ⟨place.1, fun _ => place.2⟩
      refine coherent.think sound rfl rfl rfl ?_
      obtain ⟨lag, same⟩ := observedIfLossy_eq options state.refreshed
      have observed : Buffered state.source { state.refreshed with lag } :=
        ⟨buffered.buffer, buffered.inside⟩
      rw [same]
      exact afterRead_coherent sized observed idle.1 idle.2
  | @record event shared recorded here pushed =>
      rw [here] at place
      obtain ⟨absent, kind⟩ := place
      obtain ⟨_, _, outcome, effect⟩ :=
        ReplayState.pushReplayEvent_recorded coherent.sound.counted nonZero event
      cases outcome.symm.trans pushed
      have kinds : event.isChunk = true ∨ event.isTerminal = true := by
        rcases kind with ⟨chunk, rfl, _⟩ | ⟨terminal, _⟩
        · exact .inl rfl
        · exact .inr terminal
      refine ⟨sound, ?_, coherent.logged.record absent kinds effect, coherent.channels⟩
      have refreshed : Buffered state.source state.refreshed :=
        ⟨buffered.buffer, buffered.inside⟩
      refine afterRecord_coherent sized refreshed ⟨⟨_, rfl⟩, ?_, ?_⟩
      · intro unrecorded
        rw [effect.received, Bool.or_eq_false_iff] at unrecorded
        obtain ⟨notTerminal, unretained⟩ := unrecorded
        have isChunk : event.isChunk = true := kinds.resolve_right (by simp [notTerminal])
        refine ⟨isChunk, ?_⟩
        rw [effect.replaySealed]
        simpa [isChunk, Classical.or_iff_not_imp_left, Option.isSome_iff_ne_none] using unretained
      · rcases kind with ⟨chunk, rfl, inHand⟩ | ⟨terminal, empty⟩
        · refine .inl ⟨chunk, rfl, inHand, ?_⟩
          rw [effect.terminalEvent, if_neg (by simp)]
          exact absent
        · refine .inr ⟨terminal, ?_, empty⟩
          rw [effect.terminalEvent, if_pos terminal]
  | @sent purpose active subscription channel here cached found sent =>
      rw [here] at place
      refine ⟨sound, afterSent_coherent sized buffered place, coherent.logged, ?_⟩
      refine EachAt.set ((coherent.channels _ _ found).send sent) ?_
      intro position other there _
      exact coherent.channels position other there
  | full here _ _ _ after =>
      rw [here] at place
      exact coherent.think sound rfl rfl rfl (afterFull_coherent buffered place after)
  | failed here cached found closed =>
      rw [here] at place
      exact coherent.think sound rfl rfl rfl ⟨⟨buffered.buffer, buffered.inside⟩, place⟩
  | @cleared purpose active here =>
      rw [here] at place
      have waits : ReaderCoherent options state.shared state.log state.source
          { state.reader with place := .refreshing purpose } :=
        ⟨⟨buffered.buffer, buffered.inside⟩, place⟩
      refine coherent.reregister sound ?_ ?_ ?_ ?_ ?_ waits ?_
      · exact clearActiveIfCurrent_events state active.id
      · exact clearActiveIfCurrent_terminalEvent state active.id
      · exact clearActiveIfCurrent_replaySealed state active.id
      · exact clearActiveIfCurrent_log state active.id
      · exact clearActiveIfCurrent_source state active.id
      · rw [clearActiveIfCurrent_subscriptions]
        exact coherent.channels
  | refreshed here =>
      rw [here] at place
      have refreshed : Buffered state.source state.refreshed :=
        ⟨buffered.buffer, buffered.inside⟩
      exact coherent.think sound rfl rfl rfl (afterRefresh_coherent sized refreshed place)
  | yielded here =>
      rw [here] at place
      exact coherent.think sound rfl rfl rfl (nextChunk_coherent sized buffered place)
  | attached subscribed =>
      rw [trySubscribe_eq] at subscribed
      split at subscribed
      · cases subscribed
      · cases subscribed
        refine coherent.reregister sound rfl rfl rfl rfl rfl coherent.reader ?_
        exact coherent.channels.concat ⟨rfl, fun _ => rfl, List.prefix_refl _⟩
  | refused _ => exact coherent
  | consumed found consumes =>
      refine coherent.reregister sound rfl rfl rfl rfl rfl coherent.reader ?_
      refine EachAt.set ((coherent.channels _ _ found).consume consumes) ?_
      intro position other there _
      exact coherent.channels position other there
  | @unregistered handle subscription found dropping =>
      refine coherent.reregister sound ?_ ?_ ?_ ?_ ?_ ?_ ?_
      · exact clearActiveIfCurrent_events state subscription.id
      · exact clearActiveIfCurrent_terminalEvent state subscription.id
      · exact clearActiveIfCurrent_replaySealed state subscription.id
      · exact clearActiveIfCurrent_log state subscription.id
      · exact clearActiveIfCurrent_source state subscription.id
      · exact (clearActiveIfCurrent_reader state subscription.id).symm ▸ coherent.reader
      · have channeled := coherent.channels handle subscription found
        refine EachAt.set ⟨channeled.capacity, channeled.whole, channeled.part⟩ ?_
        intro position other there _
        rw [clearActiveIfCurrent_subscriptions] at there
        exact coherent.channels position other there
  | replaySealed emptied =>
      rw [ReplayState.sealReplay_eq coherent.sound.counted options] at emptied
      cases emptied
      exact ⟨sound, coherent.reader.transfer rfl fun _ => rfl, coherent.logged.empty,
        coherent.channels⟩

end Steps

section Runs

variable {streamName : String} {options : ValidConfig} {state next : StreamState}
  {action : Action}

theorem coherent_init (options : StreamConfig) : Coherent options {} where
  sound := ⟨ReplayState.counted_new, registered_init⟩
  reader := ⟨⟨rfl, Nat.le_refl _⟩, rfl, rfl⟩
  logged := ⟨List.suffix_refl _, fun _ => rfl, fun _ => nofun, nofun⟩
  channels := EachAt.nil

theorem Coherent.step (coherent : Coherent options.toStreamConfig state)
    (kept : StreamKept state action)
    (stepped : step streamName options.toStreamConfig state action = some next) :
    Coherent options.toStreamConfig next := by
  have move := step_move coherent.sound.registered.kept kept stepped
  exact coherent.move options.retention_nonZero options.readChunkSize_pos
    (coherent.sound.step kept stepped) move

theorem reachable_coherent
    (reachable : (streamMachine streamName options).ReachableBy StreamKept state) :
    Coherent options.toStreamConfig state := by
  apply reachable.invariant (coherent_init _)
  intro state next action coherent kept stepped
  exact coherent.step kept stepped

/-- A subscriber that attaches. -/
theorem attaches_of_subscribe
    (reachable : (streamMachine streamName options).ReachableBy StreamKept state)
    (inactive : state.shared.activeId = none)
    (subscribed : SingleSubscriber.step streamName options.toStreamConfig state .subscribe =
      some next) :
    next = state.attached options.toStreamConfig := by
  simp only [SingleSubscriber.step, (reachable_coherent reachable).sound.registered.kept,
    Bool.false_eq_true, if_false, trySubscribe_eq, inactive, Option.isSome_none,
    Option.some.injEq] at subscribed
  exact subscribed.symm

end Runs

end TokioProcessTools.OutputStream.Backend.SingleSubscriber
