import TokioProcessTools.OutputStream.Backend.SingleSubscriber.Coherence

/-!
# The replay history and the pace of the subscriber

Replay is for later subscribers, so what it retains should not depend on how fast
the active subscriber is. The reader records every chunk before it sends it,
whatever becomes of the send. There is one exception. While a gap is pending and
the channel has no room for it, the lossy reader clears its buffer, and those
bytes are never recorded.

`history_whole` says that this is the only exception: in a run in which no pending
gap finds the channel full, the retained chunks are the end of all that was read.
`history_hole` is a run with a hole.
-/

set_option autoImplicit false

namespace TokioProcessTools.OutputStream.Backend.SingleSubscriber

open Foundation

/-! ## Bytes -/

/-- The bytes an event carries. -/
def eventBytes : StreamEvent → List UInt8
  | .chunk chunk => chunk.bytes
  | .gap | .eof | .readError _ => []

/-- The bytes of a list of events. -/
def allBytes (events : List StreamEvent) : List UInt8 := events.flatMap eventBytes

section Bytes

variable {event : StreamEvent}

theorem eventBytes_of_not_chunk (other : event.isChunk = false) : eventBytes event = [] := by
  cases event with
  | chunk chunk => cases other
  | gap => rfl
  | eof => rfl
  | readError error => rfl

theorem allBytes_append (front back : List StreamEvent) :
    allBytes (front ++ back) = allBytes front ++ allBytes back := List.flatMap_append

/-- Only chunks carry bytes. -/
theorem allBytes_filter (events : List StreamEvent) :
    allBytes (events.filter StreamEvent.isChunk) = allBytes events := by
  induction events with
  | nil => rfl
  | cons event rest ih =>
      rw [allBytes, allBytes, List.flatMap_cons, List.filter_cons]
      split
      · rw [List.flatMap_cons]
        exact congrArg _ ih
      · rename_i other
        rw [eventBytes_of_not_chunk (by simpa using other)]
        exact ih

theorem length_allBytes (events : List StreamEvent) :
    (allBytes events).length = ReplayRetention.totalSize StreamEvent.size events := by
  induction events with
  | nil => rfl
  | cons event rest ih =>
      have size : (eventBytes event).length = event.size := by cases event <;> rfl
      rw [allBytes, List.flatMap_cons, List.length_append, size,
        ReplayRetention.totalSize_cons, ← ih]
      rfl

theorem allBytes_suffix {back events : List StreamEvent} (suffix : back <:+ events) :
    allBytes back <:+ allBytes events := by
  obtain ⟨front, rfl⟩ := suffix
  rw [allBytes_append]
  exact List.suffix_append _ _

end Bytes

/-! ## What the reader has not recorded yet -/

/-- The bytes that were read and not yet recorded. -/
def Reader.unrecorded (reader : Reader) : List UInt8 :=
  match reader.place with
  | .record event => eventBytes event ++ reader.buffer
  | _ => reader.buffer

namespace Reader

variable {reader : Reader} {options : StreamConfig} {attempt : Attempt}

theorem splitChunk_unrecorded : (reader.splitChunk options).unrecorded = reader.buffer :=
  List.take_append_drop _ _

theorem nextChunk_unrecorded : (reader.nextChunk options).unrecorded = reader.buffer := by
  unfold nextChunk
  split
  · rfl
  · split
    · exact splitChunk_unrecorded
    · dsimp only
      split
      · split
        · exact splitChunk_unrecorded
        · rfl
      · exact splitChunk_unrecorded

theorem afterEvent_unrecorded (event : StreamEvent) :
    (reader.afterEvent options event).unrecorded = reader.buffer := by
  unfold afterEvent
  split
  · rfl
  · exact nextChunk_unrecorded

theorem startDeliver_unrecorded :
    (reader.startDeliver options attempt).unrecorded = reader.buffer := by
  unfold startDeliver
  split
  · exact afterEvent_unrecorded _
  · rfl

theorem startTrySend_unrecorded :
    (reader.startTrySend options attempt).unrecorded = reader.buffer := by
  unfold startTrySend
  split
  · exact nextChunk_unrecorded
  · rfl

theorem startFlush_unrecorded :
    (reader.startFlush options attempt).unrecorded = reader.buffer := by
  unfold startFlush
  split
  · split
    · exact startDeliver_unrecorded
    · rfl
  · exact startDeliver_unrecorded

theorem afterRecord_unrecorded :
    (reader.afterRecord options attempt).unrecorded = reader.buffer := by
  unfold afterRecord
  split
  · exact startDeliver_unrecorded
  · split
    · exact startFlush_unrecorded
    · exact startTrySend_unrecorded

theorem afterSent_unrecorded (purpose : Purpose) :
    (reader.afterSent options purpose).unrecorded = reader.buffer := by
  cases purpose with
  | gap => exact splitChunk_unrecorded
  | chunk attempt => exact nextChunk_unrecorded
  | flush attempt => exact startDeliver_unrecorded
  | deliver attempt => exact afterEvent_unrecorded _

/-- Only the send of a pending gap gives up the buffer. -/
theorem afterFull_unrecorded {purpose : Purpose} (other : purpose ≠ .gap) {next : Reader}
    (full : reader.afterFull options purpose = some next) : next.unrecorded = reader.buffer := by
  cases purpose with
  | gap => exact absurd rfl other
  | chunk attempt =>
      cases full
      rfl
  | flush attempt => cases full
  | deliver attempt => cases full

theorem afterRefresh_unrecorded (purpose : Purpose) :
    (reader.afterRefresh options purpose).unrecorded = reader.buffer := by
  cases purpose with
  | gap => exact splitChunk_unrecorded
  | chunk attempt =>
      simp only [afterRefresh]
      split
      · exact nextChunk_unrecorded
      · exact startTrySend_unrecorded
  | flush attempt => exact startDeliver_unrecorded
  | deliver attempt =>
      simp only [afterRefresh]
      split
      · exact afterEvent_unrecorded _
      · exact startDeliver_unrecorded

theorem afterRead_unrecorded (streamName : String) (result : ReadResult) :
    (reader.afterRead streamName options result).unrecorded = reader.buffer := by
  cases result with
  | data => exact nextChunk_unrecorded
  | eof => rfl
  | failed error => rfl

end Reader

/-! ## The invariant -/

/-- A gap is pending and the channel of the reader's subscriber has no room for it. -/
def StreamState.GapRefused (state : StreamState) : Prop :=
  state.reader.place = .sending .gap ∧
    ((state.reader.cachedActive.bind fun active => state.subscriptions[active.sender]?).map
      fun subscription => subscription.channel.trySend .gap) = some .full

instance (state : StreamState) : Decidable state.GapRefused :=
  inferInstanceAs (Decidable (_ ∧ _))

/-- The stream is not dropped, and the reader does not send a gap into a full channel. -/
def GapAccepted (state : StreamState) (action : Action) : Prop :=
  StreamKept state action ∧ (action = .reader → ¬ state.GapRefused)

instance (state : StreamState) : DecidablePred (GapAccepted state) :=
  fun _ => inferInstanceAs (Decidable (_ ∧ (_ → _)))

/-- All that was read is recorded or still before the reader, and the replay window is the window
over the recorded chunks. -/
structure Historical (options : StreamConfig) (state : StreamState) : Prop where
  whole : allBytes state.log ++ state.reader.unrecorded = state.source
  window : ∀ retention, options.replayRetention = some retention →
    state.shared.replaySealed = false →
      state.shared.events =
        retention.window StreamEvent.size (state.log.filter StreamEvent.isChunk)

section Steps

variable {streamName : String} {options : StreamConfig} {state next : StreamState}
  {action : Action}

/-- A step that leaves the replay window and the log alone. -/
theorem Historical.frame (historical : Historical options state) {more : List UInt8}
    (source : next.source = state.source ++ more) (log : next.log = state.log)
    (events : next.shared.events = state.shared.events)
    (isSealed : next.shared.replaySealed = state.shared.replaySealed)
    (unrecorded : next.reader.unrecorded = state.reader.unrecorded ++ more) :
    Historical options next := by
  refine ⟨?_, ?_⟩
  · rw [source, log, unrecorded, ← historical.whole, List.append_assoc]
  · rw [log, events, isSealed]
    exact historical.window

/-- The reader moves on with its buffer. -/
theorem Historical.think (historical : Historical options state)
    (source : next.source = state.source) (log : next.log = state.log)
    (events : next.shared.events = state.shared.events)
    (isSealed : next.shared.replaySealed = state.shared.replaySealed)
    (place : ∀ event, state.reader.place ≠ .record event)
    (unrecorded : next.reader.unrecorded = state.reader.buffer) : Historical options next := by
  have buffer : state.reader.unrecorded = state.reader.buffer := by
    unfold Reader.unrecorded
    split
    · rename_i event here
      exact absurd here (place event)
    · rfl
  refine historical.frame (source.trans (List.append_nil _).symm) log events isSealed ?_
  rw [unrecorded, buffer, List.append_nil]

/-- An event is recorded. -/
theorem Historical.record (historical : Historical options state) {event : StreamEvent}
    {recorded : Bool} (here : state.reader.place = .record event)
    (effect : state.shared.Recorded options.replayRetention event next.shared recorded)
    (source : next.source = state.source) (log : next.log = state.log ++ [event])
    (unrecorded : next.reader.unrecorded = state.reader.buffer) : Historical options next := by
  have before : state.reader.unrecorded = eventBytes event ++ state.reader.buffer := by
    simp only [Reader.unrecorded, here]
  refine ⟨?_, ?_⟩
  · have bytes : allBytes [event] = eventBytes event := List.flatMap_singleton _ _
    rw [source, log, unrecorded, allBytes_append, bytes, List.append_assoc, ← before]
    exact historical.whole
  · intro retention kept unsealed
    rw [effect.replaySealed] at unsealed
    have held := historical.window retention kept unsealed
    rw [effect.events, log, List.filter_append, kept]
    cases isChunk : event.isChunk with
    | false =>
        rw [ReplayState.eventsAfter_of_not_chunk _ _ isChunk, held]
        simp [isChunk]
    | true =>
        obtain ⟨chunk, rfl⟩ := StreamEvent.exists_chunk isChunk
        rw [ReplayState.eventsAfter_chunk retention unsealed, held,
          ReplayRetention.window_snoc StreamEvent.size]
        rfl

/-- **A move keeps the invariant, unless it is the reader's send of a gap that is refused.** -/
theorem Historical.move (historical : Historical options state) (coherent : Coherent options state)
    (nonZero : ∀ retention ∈ options.replayRetention, retention.NonZero)
    (accepted : state.GapRefused → next.reader = state.reader)
    (move : Move streamName options state next) : Historical options next := by
  cases move with
  | @read bytes here _ =>
      have buffer : state.reader.unrecorded = state.reader.buffer := by
        simp only [Reader.unrecorded, here]
      unfold StreamState.gotResult
      split
      · refine historical.frame rfl rfl rfl rfl ?_
        rw [buffer]
        rfl
      · refine historical.frame rfl rfl rfl rfl ?_
        rw [buffer]
        exact Reader.afterRead_unrecorded streamName .data
  | @ended result here _ =>
      have place : ∀ event, state.reader.place ≠ .record event := by simp [here]
      unfold StreamState.gotResult
      split
      · exact historical.think rfl rfl rfl rfl place rfl
      · exact historical.think rfl rfl rfl rfl place
          (Reader.afterRead_unrecorded streamName result)
  | changed here _ =>
      obtain ⟨lag, same⟩ := observedIfLossy_eq options state.refreshed
      refine historical.think rfl rfl rfl rfl (by simp [here]) ?_
      rw [same]
      simp only [Reader.unrecorded, StreamState.refreshed, here]
  | @refreshRead result here =>
      obtain ⟨lag, same⟩ := observedIfLossy_eq options state.refreshed
      refine historical.think rfl rfl rfl rfl (by simp [here]) ?_
      rw [same]
      exact Reader.afterRead_unrecorded streamName result
  | @record event shared recorded here pushed =>
      obtain ⟨_, _, outcome, effect⟩ :=
        ReplayState.pushReplayEvent_recorded coherent.sound.counted nonZero event
      cases outcome.symm.trans pushed
      exact historical.record here effect rfl rfl Reader.afterRecord_unrecorded
  | @sent purpose active subscription channel here cached found sent =>
      exact historical.think rfl rfl rfl rfl (by simp [here]) (Reader.afterSent_unrecorded purpose)
  | @full purpose active subscription reader here cached found full after =>
      refine historical.think rfl rfl rfl rfl (by simp [here]) ?_
      apply Reader.afterFull_unrecorded ?_ after
      rintro rfl
      have refused : state.GapRefused := by
        refine ⟨here, ?_⟩
        rw [cached, Option.bind_some, found, Option.map_some]
        exact congrArg some full
      have same : reader = state.reader := accepted refused
      cases after
      have place := congrArg Reader.place same
      rw [here] at place
      cases place
  | failed here _ _ _ => exact historical.think rfl rfl rfl rfl (by simp [here]) rfl
  | @cleared purpose active here =>
      refine historical.think ?_ ?_ ?_ ?_ (by simp [here]) rfl
      · exact clearActiveIfCurrent_source state active.id
      · exact clearActiveIfCurrent_log state active.id
      · exact clearActiveIfCurrent_events state active.id
      · exact clearActiveIfCurrent_replaySealed state active.id
  | @refreshed purpose here =>
      exact historical.think rfl rfl rfl rfl (by simp [here])
        (Reader.afterRefresh_unrecorded purpose)
  | yielded here =>
      exact historical.think rfl rfl rfl rfl (by simp [here]) Reader.nextChunk_unrecorded
  | attached subscribed =>
      rw [trySubscribe_eq] at subscribed
      split at subscribed
      · cases subscribed
      · cases subscribed
        exact historical.frame (List.append_nil _).symm rfl rfl rfl (List.append_nil _).symm
  | refused _ => exact historical
  | consumed _ _ =>
      exact historical.frame (List.append_nil _).symm rfl rfl rfl (List.append_nil _).symm
  | @unregistered handle subscription found dropping =>
      refine historical.frame ((clearActiveIfCurrent_source state subscription.id).trans
        (List.append_nil _).symm) ?_ ?_ ?_ ?_
      · exact clearActiveIfCurrent_log state subscription.id
      · exact clearActiveIfCurrent_events state subscription.id
      · exact clearActiveIfCurrent_replaySealed state subscription.id
      · rw [List.append_nil]
        exact congrArg Reader.unrecorded (clearActiveIfCurrent_reader state subscription.id)
  | replaySealed emptied =>
      rw [ReplayState.sealReplay_eq coherent.sound.counted options] at emptied
      cases emptied
      exact ⟨historical.whole, nofun⟩

theorem nextEventStep_reader {handle : Handle} {subscription : SingleSubscription}
    (stepped : state.nextEventStep handle subscription = some next) :
    next.reader = state.reader := by
  unfold StreamState.nextEventStep at stepped
  split at stepped
  · cases stepped
    rfl
  · cases stepped
    rfl
  · split at stepped
    · split at stepped
      · cases stepped
        rfl
      · split at stepped
        · cases stepped
          rfl
        · cases stepped
    · cases stepped
      rfl

/-- Only the reader moves the reader while it sends. -/
theorem reader_of_sending {purpose : Purpose} (here : state.reader.place = .sending purpose)
    (dropped : state.streamDropped = false) (other : action ≠ .reader)
    (stepped : step streamName options state action = some next) : next.reader = state.reader := by
  cases action with
  | reader => exact absurd rfl other
  | read bytes => simp [step, here] at stepped
  | readEof => simp [step, here] at stepped
  | readError source => simp [step, here] at stepped
  | changed => simp [step, here] at stepped
  | abortReader => simp [step, dropped] at stepped
  | subscribe =>
      simp only [step, dropped, Bool.false_eq_true, if_false, trySubscribe_eq] at stepped
      split at stepped
      · rename_i subscribed
        split at subscribed
        · cases subscribed
        · cases subscribed
          cases stepped
          rfl
      · cases stepped
        rfl
  | nextEvent handle =>
      simp only [step, Option.bind_eq_bind, Option.bind_eq_some_iff,
        Option.ite_none_right_eq_some] at stepped
      obtain ⟨subscription, _, _, stepped⟩ := stepped
      exact nextEventStep_reader stepped
  | closeReceiver handle =>
      simp only [step, Option.bind_eq_bind, Option.bind_eq_some_iff,
        Option.ite_none_right_eq_some, Option.some.injEq] at stepped
      obtain ⟨subscription, _, _, rfl⟩ := stepped
      rfl
  | clearRegistration handle =>
      simp only [step, Option.bind_eq_bind, Option.bind_eq_some_iff,
        Option.ite_none_right_eq_some, Option.some.injEq] at stepped
      obtain ⟨subscription, _, _, rfl⟩ := stepped
      exact clearActiveIfCurrent_reader state subscription.id
  | sealReplay =>
      simp only [step, Option.ite_none_right_eq_some] at stepped
      obtain ⟨_, stepped⟩ := stepped
      split at stepped
      · cases stepped
      · cases stepped
        rfl
  | dropStream =>
      simp only [step, dropped, Bool.false_eq_true, if_false, Option.some.injEq] at stepped
      cases stepped
      rfl

end Steps

/-! ## Runs -/

/-- The reader has processed all that it read: its buffer is empty, and no chunk waits to be
recorded. -/
def Reader.Processed (reader : Reader) : Prop :=
  reader.buffer = [] ∧ ∀ chunk, reader.place ≠ .record (.chunk chunk)

/-- What replay retains is the end of all that was read. -/
structure HistoryWhole (retention : ReplayRetention) (state : StreamState) : Prop where
  suffix : allBytes state.shared.events <:+ state.source
  all : retention = .all → allBytes state.shared.events = state.source
  lastBytes : ∀ bytes, retention = .lastBytes bytes →
    min bytes.bytes state.source.length ≤ (allBytes state.shared.events).length

section Runs

variable {streamName : String} {options : ValidConfig} {state : StreamState}
  {retention : ReplayRetention}

theorem Reader.Processed.unrecorded {reader : Reader} (processed : reader.Processed) :
    reader.unrecorded = [] := by
  obtain ⟨empty, place⟩ := processed
  unfold Reader.unrecorded
  split
  · rename_i event here
    have other : event.isChunk = false := by
      by_contra isChunk
      obtain ⟨chunk, rfl⟩ := StreamEvent.exists_chunk (by simpa using isChunk)
      exact place chunk here
    rw [eventBytes_of_not_chunk other, empty]
    rfl
  · exact empty

/-- The window over all recorded chunks. -/
theorem Historical.historyWhole {config : StreamConfig} (historical : Historical config state)
    (kept : config.replayRetention = some retention)
    (unsealed : state.shared.replaySealed = false) (processed : state.reader.Processed) :
    HistoryWhole retention state := by
  have source : allBytes (state.log.filter StreamEvent.isChunk) = state.source := by
    rw [allBytes_filter, ← historical.whole, processed.unrecorded, List.append_nil]
  have events := historical.window retention kept unsealed
  refine ⟨?_, ?_, ?_⟩
  · rw [events, ← source]
    exact allBytes_suffix (ReplayRetention.window_suffix _ _ _)
  · rintro rfl
    rw [events, ← source]
    rfl
  · rintro bytes rfl
    rw [events, length_allBytes, ← source, length_allBytes]
    exact ReplayRetention.min_le_totalSize_window StreamEvent.size bytes _

theorem reachable_historical
    (reachable : (streamMachine streamName options).ReachableBy GapAccepted state) :
    Coherent options.toStreamConfig state ∧ Historical options.toStreamConfig state := by
  induction reachable with
  | init =>
      refine ⟨coherent_init _, rfl, ?_⟩
      intro retention _ _
      exact (ReplayRetention.window_nil StreamEvent.size retention).symm
  | @step state next action _ allowed stepped ih =>
      obtain ⟨coherent, historical⟩ := ih
      obtain ⟨kept, accepted⟩ := allowed
      have dropped := coherent.sound.registered.kept
      have move := step_move dropped kept stepped
      refine ⟨coherent.step kept stepped,
        historical.move coherent options.retention_nonZero ?_ move⟩
      intro refused
      by_cases own : action = .reader
      · exact absurd refused (accepted own)
      · exact reader_of_sending refused.1 dropped own stepped

/-- **Replay is whole as long as no pending gap finds the channel full.** -/
theorem history_whole (kept : options.replayRetention = some retention)
    (reachable : (streamMachine streamName options).ReachableBy GapAccepted state)
    (unsealed : state.shared.replaySealed = false) (processed : state.reader.Processed) :
    HistoryWhole retention state :=
  (reachable_historical reachable).2.historyWhole kept unsealed processed

/-- A lossy stream that keeps all output, with room for one event. -/
def historyConfig : ValidConfig where
  readChunkSize := ⟨1⟩
  maxBufferedChunks := 1
  deliveryGuarantee := .lossyWithoutBackpressure
  replayRetention := some .all
  readChunkSize_pos := Nat.one_pos
  maxBufferedChunks_pos := Nat.one_pos
  retention_nonZero := nonZero_all

/-- The subscriber is too slow for the second chunk, but there is room for the gap. -/
theorem history_whole_gap_sent :
    ∃ state, (streamMachine "stdout" historyConfig).ReachableBy GapAccepted state ∧
      (state.subscriptions[0]?.map SingleSubscription.sent) = some [.chunk ⟨[1], 0⟩, .gap] ∧
      state.source = [1, 2, 3] ∧ HistoryWhole .all state := by
  obtain ⟨state, reachable, sent, source, unsealed, buffer, place⟩ :=
    (streamMachine "stdout" historyConfig).exists_reachableBy GapAccepted
      [.subscribe, .changed, .read [1], .reader, .reader, .read [2, 3], .reader, .reader, .reader,
        .nextEvent 0, .reader, .reader, .reader, .reader]
      (fun state =>
        (state.subscriptions[0]?.map SingleSubscription.sent) = some [.chunk ⟨[1], 0⟩, .gap] ∧
        state.source = [1, 2, 3] ∧ state.shared.replaySealed = false ∧
        state.reader.buffer = [] ∧ state.reader.place = .reading)
      (by decide +kernel)
  have processed : state.reader.Processed := ⟨buffer, by simp [place]⟩
  exact ⟨state, reachable, sent, source, history_whole rfl reachable unsealed processed⟩

/-- A stalled subscriber: the second chunk and then the gap find the channel full, and the third
chunk is cleared from the buffer. Replay holds two of the three bytes. -/
theorem history_hole :
    ∃ state, (streamMachine "stdout" historyConfig).ReachableBy StreamKept state ∧
      state.shared.replaySealed = false ∧ state.reader.Processed ∧
      state.source = [1, 2, 3] ∧ allBytes state.shared.events = [1, 2] ∧
      ¬ allBytes state.shared.events <:+ state.source ∧ ¬ HistoryWhole .all state := by
  obtain ⟨state, reachable, source, retained, unsealed, buffer, place⟩ :=
    (streamMachine "stdout" historyConfig).exists_reachableBy StreamKept
      [.subscribe, .changed, .read [1], .reader, .reader, .read [2, 3], .reader, .reader, .reader,
        .reader, .reader]
      (fun state => state.source = [1, 2, 3] ∧ allBytes state.shared.events = [1, 2] ∧
        state.shared.replaySealed = false ∧ state.reader.buffer = [] ∧
        state.reader.place = .reading)
      (by decide +kernel)
  have hole : ¬ allBytes state.shared.events <:+ state.source := by
    rw [source, retained]
    decide
  exact ⟨state, reachable, unsealed, ⟨buffer, by simp [place]⟩, source, retained, hole,
    fun whole => hole whole.suffix⟩

end Runs

end TokioProcessTools.OutputStream.Backend.SingleSubscriber
