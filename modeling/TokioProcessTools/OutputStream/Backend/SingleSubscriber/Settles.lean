import TokioProcessTools.Foundation.Settling
import TokioProcessTools.OutputStream.Backend.SingleSubscriber.Lines

/-!
# Delivery to the single subscriber comes to an end

Between two reads the reader records what it has read and sends it to the
subscriber it has a copy of. Under reliable delivery, and for the terminal event
under lossy delivery, a send waits while the channel is full. A send into a closed
channel clears the registration, refreshes the copy and may be made once more.

None of this goes on forever, and nobody waits in vain, as long as the stream is
not dropped. Every run of the parties' own steps is bounded. When none of them can
move, the reader is back at its read or finished, every drop is complete, and every
subscription in use has received all that it is told since it attached
(`single_settles`).
-/

set_option autoImplicit false

namespace TokioProcessTools.OutputStream.Backend.SingleSubscriber

open Foundation

/-! ## Work -/

/-- What a subscription still has to do: yield what is there for it, and clear its registration once
it is being dropped. -/
def SingleSubscription.work (subscription : SingleSubscription) : Nat :=
  subscription.replay.length + subscription.terminalEvent.toList.length +
    subscription.channel.queue.length + if subscription.status = .dropping then 2 else 0

/-- What is left to do behind a send, with a number of bytes in the buffer. Each of them may be a
chunk of its own. A send that was not retried may be made once more, and the terminal event follows
the gap in front of it. -/
def Purpose.rest (bytes : Nat) : Purpose → Nat
  | .gap => bytes * 26 - 6
  | .chunk attempt | .deliver attempt => bytes * 26 + if attempt.retried then 0 else 6
  | .flush _ => bytes * 26 + 12

/-- What the reader still has to do before its next read. -/
def Reader.work (reader : Reader) : Nat :=
  match reader.place with
  | .reading | .finished | .aborted => 0
  | .yielding => reader.buffer.length * 26 + 2
  | .refreshing purpose => purpose.rest reader.buffer.length + 2
  | .clearing purpose _ => purpose.rest reader.buffer.length + 4
  | .sending purpose => purpose.rest reader.buffer.length + 6
  | .record _ => reader.buffer.length * 26 + 20
  | .refreshRead _ => reader.buffer.length * 26 + 22

/-- The reader has not seen the last change of the active subscriber. -/
def StreamState.unseen (state : StreamState) : Nat :=
  if state.activeVersion = state.reader.seenVersion then 0 else 1

/-- The work of all parties. -/
def StreamState.work (state : StreamState) : Nat :=
  state.reader.work + state.unseen +
    ReplayRetention.totalSize SingleSubscription.work state.subscriptions

/-- The actions of the parties themselves: the reader's between two reads, a call of `next_event`
with an event for it, and the end of a drop. -/
def Own (state : StreamState) : Action → Prop
  | .reader | .changed | .clearRegistration _ => True
  | .nextEvent handle => ∃ subscription ∈ state.subscriptions[handle]?,
      subscription.replay ≠ [] ∨ subscription.terminalEvent ≠ none ∨
        (subscription.channel.receiverOpen = true ∧ subscription.channel.queue ≠ [])
  | .read _ | .readEof | .readError _ | .subscribe | .closeReceiver _ | .sealReplay | .dropStream
  | .abortReader => False

instance (state : StreamState) : DecidablePred (Own state)
  | .reader | .changed | .clearRegistration _ => .isTrue trivial
  | .nextEvent handle =>
      inferInstanceAs (Decidable (∃ subscription ∈ state.subscriptions[handle]?, _))
  | .read _ | .readEof | .readError _ | .subscribe | .closeReceiver _ | .sealReplay | .dropStream
  | .abortReader => .isFalse id

/-! ## Where the reader goes -/

/-- The reader goes on with a bounded amount of work and as much seen of the active subscriber as
before, and sends only when it has a copy. -/
structure Reader.Goes (reader next : Reader) (bound : Nat) : Prop where
  work : next.work ≤ bound
  seenVersion : next.seenVersion = reader.seenVersion
  aimed : ∀ purpose, next.place = .sending purpose → next.cachedActive ≠ none

namespace Reader

variable {reader next : Reader} {options : StreamConfig}

theorem Goes.mono {bound larger : Nat} (goes : reader.Goes next bound) (le : bound ≤ larger) :
    reader.Goes next larger :=
  ⟨Nat.le_trans goes.work le, goes.seenVersion, goes.aimed⟩

variable (sized : 0 < options.readChunkSize.bytes)
include sized

theorem splitChunk_goes (nonempty : reader.buffer ≠ []) :
    reader.Goes (reader.splitChunk options) (reader.buffer.length * 26 - 6) := by
  have positive := List.length_pos_iff.mpr nonempty
  refine ⟨?_, rfl, fun _ here => by cases here⟩
  simp only [splitChunk, work, List.length_drop]
  omega

theorem nextChunk_goes : reader.Goes (reader.nextChunk options) (reader.buffer.length * 26) := by
  unfold nextChunk
  split
  · exact ⟨Nat.zero_le _, rfl, fun _ here => by cases here⟩
  · rename_i byte rest full
    have nonempty : reader.buffer ≠ [] := by simp [full]
    have positive := List.length_pos_iff.mpr nonempty
    have splits : ∀ lag, reader.Goes ({ reader with lag }.splitChunk options)
        (reader.buffer.length * 26) := by
      intro lag
      obtain ⟨work, seenVersion, aimed⟩ := @splitChunk_goes { reader with lag } _ sized nonempty
      exact ⟨Nat.le_trans work (Nat.sub_le _ _), seenVersion, aimed⟩
    split
    · exact splits reader.lag
    · dsimp only
      split
      · split
        · exact splits _
        · rename_i active cached
          refine ⟨?_, rfl, fun _ _ => by simp [cached]⟩
          simp only [observe, work, Purpose.rest]
          omega
      · exact splits _

theorem afterEvent_goes (event : StreamEvent) :
    reader.Goes (reader.afterEvent options event) (reader.buffer.length * 26) := by
  unfold afterEvent
  split
  · exact ⟨Nat.zero_le _, rfl, fun _ here => by cases here⟩
  · exact nextChunk_goes sized

theorem startDeliver_goes (attempt : Attempt) :
    reader.Goes (reader.startDeliver options attempt)
      ((Purpose.deliver attempt).rest reader.buffer.length + 6) := by
  unfold startDeliver
  split
  · refine (afterEvent_goes sized _).mono ?_
    simp only [Purpose.rest]
    omega
  · rename_i active cached
    exact ⟨Nat.le_refl _, rfl, fun _ _ => by simp [cached]⟩

theorem startTrySend_goes (attempt : Attempt) :
    reader.Goes (reader.startTrySend options attempt)
      ((Purpose.chunk attempt).rest reader.buffer.length + 6) := by
  unfold startTrySend
  split
  · obtain ⟨work, seenVersion, aimed⟩ := @nextChunk_goes reader.observe _ sized
    refine ⟨Nat.le_trans work ?_, seenVersion, aimed⟩
    simp only [Purpose.rest, observe]
    omega
  · rename_i active cached
    exact ⟨Nat.le_refl _, rfl, fun _ _ => by simp [cached]⟩

/-- An event is delivered with whatever lag. -/
theorem startDeliver_lag_goes (lag : BestEffortLag) (attempt : Attempt) :
    reader.Goes ({ reader with lag }.startDeliver options attempt)
      (reader.buffer.length * 26 + 12) := by
  obtain ⟨work, seenVersion, aimed⟩ := @startDeliver_goes { reader with lag } _ sized attempt
  refine ⟨Nat.le_trans work ?_, seenVersion, aimed⟩
  simp only [Purpose.rest]
  split <;> omega

theorem startFlush_goes (attempt : Attempt) :
    reader.Goes (reader.startFlush options attempt) (reader.buffer.length * 26 + 18) := by
  unfold startFlush
  split
  · split
    · exact (startDeliver_lag_goes sized _ attempt).mono (by omega)
    · rename_i active cached
      exact ⟨Nat.le_refl _, rfl, fun _ _ => by simp [cached]⟩
  · exact (startDeliver_lag_goes sized reader.lag attempt).mono (by omega)

theorem afterRecord_goes (attempt : Attempt) :
    reader.Goes (reader.afterRecord options attempt) (reader.buffer.length * 26 + 18) := by
  unfold afterRecord
  split
  · exact (startDeliver_lag_goes sized reader.lag attempt).mono (by omega)
  · split
    · obtain ⟨work, seenVersion, aimed⟩ := @startFlush_goes reader.observe _ sized attempt
      exact ⟨work, seenVersion, aimed⟩
    · refine (startTrySend_goes sized attempt).mono ?_
      simp only [Purpose.rest]
      split <;> omega

theorem afterSent_goes {purpose : Purpose} (nonempty : purpose = .gap → reader.buffer ≠ []) :
    reader.Goes (reader.afterSent options purpose) (purpose.rest reader.buffer.length) := by
  cases purpose with
  | gap =>
      obtain ⟨work, seenVersion, aimed⟩ :=
        @splitChunk_goes { reader with lag := { reader.lag.logIfLagged with gapPending := false } } _
          sized (nonempty rfl)
      exact ⟨work, seenVersion, aimed⟩
  | chunk attempt =>
      obtain ⟨work, seenVersion, aimed⟩ :=
        @nextChunk_goes { reader with lag := reader.lag.logIfLagged } _ sized
      exact ⟨Nat.le_trans work (Nat.le_add_right _ _), seenVersion, aimed⟩
  | flush attempt => exact startDeliver_lag_goes sized _ attempt
  | deliver attempt => exact (afterEvent_goes sized _).mono (Nat.le_add_right _ _)

theorem afterRefresh_goes {purpose : Purpose} (nonempty : purpose = .gap → reader.buffer ≠ []) :
    reader.Goes (reader.afterRefresh options purpose) (purpose.rest reader.buffer.length) := by
  cases purpose with
  | gap =>
      obtain ⟨work, seenVersion, aimed⟩ :=
        @splitChunk_goes reader.observe _ sized (nonempty rfl)
      exact ⟨work, seenVersion, aimed⟩
  | chunk attempt =>
      simp only [afterRefresh]
      split
      · obtain ⟨work, seenVersion, aimed⟩ := @nextChunk_goes reader.observe _ sized
        exact ⟨Nat.le_trans work (Nat.le_add_right _ _), seenVersion, aimed⟩
      · rename_i again
        refine (startTrySend_goes sized _).mono ?_
        rw [not_or] at again
        simp [Purpose.rest, again.2]
  | flush attempt => exact startDeliver_lag_goes sized _ attempt
  | deliver attempt =>
      simp only [afterRefresh]
      split
      · exact (afterEvent_goes sized _).mono (Nat.le_add_right _ _)
      · rename_i again
        refine (startDeliver_goes sized _).mono ?_
        rw [not_or] at again
        simp [Purpose.rest, again.2]

theorem afterRead_goes (streamName : String) (result : ReadResult) :
    reader.Goes (reader.afterRead streamName options result) (reader.buffer.length * 26 + 20) := by
  cases result with
  | data => exact (nextChunk_goes sized).mono (Nat.le_add_right _ _)
  | eof => exact ⟨Nat.le_refl _, rfl, fun _ here => by cases here⟩
  | failed source => exact ⟨Nat.le_refl _, rfl, fun _ here => by cases here⟩

omit sized in
theorem afterFull_goes {purpose : Purpose} (nonempty : purpose = .gap → reader.buffer ≠ [])
    (full : reader.afterFull options purpose = some next) :
    reader.Goes next (purpose.rest reader.buffer.length + 4) := by
  cases purpose with
  | gap =>
      have positive := List.length_pos_iff.mpr (nonempty rfl)
      cases full
      refine ⟨?_, rfl, fun _ here => by cases here⟩
      simp only [work, Purpose.rest, List.length_nil]
      omega
  | chunk attempt =>
      cases full
      refine ⟨?_, rfl, fun _ here => by cases here⟩
      simp only [work, Purpose.rest]
      omega
  | flush attempt => cases full
  | deliver attempt => cases full

end Reader

/-! ## What the reader has seen -/

/-- The reader sends only when it has a copy of the active subscriber. The copy is the active
subscriber unless a change was not seen, or the reader is finished. -/
structure Attentive (state : StreamState) : Prop where
  aimed : ∀ purpose, state.reader.place = .sending purpose → state.reader.cachedActive ≠ none
  behind : state.reader.seenVersion ≤ state.activeVersion
  current : state.reader.seenVersion = state.activeVersion →
    state.reader.cachedActive = state.activeTx ∨ state.reader.place = .finished

section Attentive

variable {streamName : String} {options : StreamConfig} {state next : StreamState}

/-- The reader moves on, with its old copy or a fresh one. -/
theorem Attentive.think (attentive : Attentive state) {before : Reader} {bound : Nat}
    (source : before = state.refreshed ∨
      (before.cachedActive = state.reader.cachedActive ∧
        before.seenVersion = state.reader.seenVersion ∧ state.reader.place ≠ .finished))
    (activeTx : next.activeTx = state.activeTx)
    (activeVersion : next.activeVersion = state.activeVersion)
    (goes : before.Goes next.reader bound) (settles : before.Settles next.reader) :
    Attentive next := by
  have seen : before.seenVersion ≤ state.activeVersion ∧
      (before.seenVersion = state.activeVersion → before.cachedActive = state.activeTx) := by
    rcases source with rfl | ⟨cached, seen, busy⟩
    · exact ⟨Nat.le_refl _, fun _ => rfl⟩
    · rw [cached, seen]
      exact ⟨attentive.behind, fun current => (attentive.current current).resolve_right busy⟩
  refine ⟨goes.aimed, ?_, ?_⟩
  · rw [goes.seenVersion, activeVersion]
    exact seen.1
  · intro current
    rw [goes.seenVersion, activeVersion] at current
    rcases settles.1 with same | ⟨_, finished⟩
    · rw [same, activeTx]
      exact .inl (seen.2 current)
    · exact .inr finished

/-- Another party moves, and may change the active subscriber. -/
theorem Attentive.others (attentive : Attentive state)
    (aimed : ∀ purpose, next.reader.place = .sending purpose → state.reader.place = .sending purpose)
    (finished : state.reader.place = .finished → next.reader.place = .finished)
    (cached : next.reader.cachedActive = state.reader.cachedActive)
    (seenVersion : next.reader.seenVersion = state.reader.seenVersion)
    (active : next.activeVersion = state.activeVersion + 1 ∨
      (next.activeVersion = state.activeVersion ∧ next.activeTx = state.activeTx)) :
    Attentive next := by
  have behind := attentive.behind
  refine ⟨?_, ?_, ?_⟩
  · intro purpose here
    rw [cached]
    exact attentive.aimed purpose (aimed purpose here)
  · rw [seenVersion]
    rcases active with changed | ⟨same, _⟩ <;> omega
  · intro current
    rw [seenVersion] at current
    rcases active with changed | ⟨same, sameTx⟩
    · omega
    · rw [cached, sameTx]
      exact (attentive.current (current.trans same)).imp_right finished

theorem clearActiveIfCurrent_active (state : StreamState) (id : SubscriberId) :
    (state.clearActiveIfCurrent id).activeVersion = state.activeVersion + 1 ∨
      ((state.clearActiveIfCurrent id).activeVersion = state.activeVersion ∧
        (state.clearActiveIfCurrent id).activeTx = state.activeTx) := by
  unfold StreamState.clearActiveIfCurrent
  split
  · exact .inl rfl
  · exact .inr ⟨rfl, rfl⟩

theorem Attentive.gotResult (attentive : Attentive state) {before : StreamState}
    (sized : 0 < options.readChunkSize.bytes) (here : state.reader.place = .reading)
    (cached : before.reader.cachedActive = state.reader.cachedActive)
    (seenVersion : before.reader.seenVersion = state.reader.seenVersion)
    (activeTx : before.activeTx = state.activeTx)
    (activeVersion : before.activeVersion = state.activeVersion) (result : ReadResult) :
    Attentive (before.gotResult streamName options result) := by
  unfold StreamState.gotResult
  split
  · refine attentive.others (fun _ other => by cases other) ?_ cached seenVersion
      (.inr ⟨activeVersion, activeTx⟩)
    intro finished
    cases here.symm.trans finished
  · exact attentive.think (.inr ⟨cached, seenVersion, by simp [here]⟩) activeTx activeVersion
      (Reader.afterRead_goes sized streamName result)
      (Reader.afterRead_settles _ options streamName result)

/-- The reader at its read observes a fresh copy. -/
theorem observedIfLossy_goes (state : StreamState) (options : StreamConfig)
    (here : state.reader.place = .reading) :
    state.refreshed.Goes (StreamState.observedIfLossy options state.refreshed) 0 ∧
      state.refreshed.Settles (StreamState.observedIfLossy options state.refreshed) := by
  obtain ⟨lag, same⟩ := observedIfLossy_eq options state.refreshed
  have place : state.refreshed.place = .reading := here
  rw [same]
  refine ⟨⟨?_, rfl, ?_⟩, .inl rfl, ?_⟩
  · simp [Reader.work, place]
  · intro purpose sending
    cases place.symm.trans sending
  · simp [place, Place.Failed]

/-- A gap is sent only while there is a chunk behind it. -/
theorem Coherent.buffer_ne_nil (coherent : Coherent options state) {purpose : Purpose}
    (here : state.reader.place = .sending purpose ∨ state.reader.place = .refreshing purpose)
    (gap : purpose = .gap) : state.reader.buffer ≠ [] := by
  have place := coherent.reader.place
  subst gap
  rcases here with here | here
  all_goals
    rw [here] at place
    exact place.2.2

/-- **Every move keeps the reader attentive.** -/
theorem Attentive.move (attentive : Attentive state) (coherent : Coherent options state)
    (sized : 0 < options.readChunkSize.bytes) (move : Move streamName options state next) :
    Attentive next := by
  cases move with
  | read here _ =>
      apply attentive.gotResult sized here
      all_goals rfl
  | ended here _ => exact attentive.gotResult sized here rfl rfl rfl rfl _
  | changed here _ =>
      obtain ⟨goes, settles⟩ := observedIfLossy_goes state options here
      exact attentive.think (.inl rfl) rfl rfl goes settles
  | @refreshRead result here =>
      obtain ⟨lag, same⟩ := observedIfLossy_eq options state.refreshed
      have goes := @Reader.afterRead_goes { state.refreshed with lag } _ sized streamName result
      have settles :=
        Reader.afterRead_settles { state.refreshed with lag } options streamName result
      rw [same]
      exact attentive.think (.inl rfl) rfl rfl
        ⟨goes.work, goes.seenVersion, goes.aimed⟩ settles
  | record here _ =>
      exact attentive.think (.inl rfl) rfl rfl (Reader.afterRecord_goes sized _)
        (Reader.afterRecord_settles _ options _)
  | sent here _ _ _ =>
      exact attentive.think (.inr ⟨rfl, rfl, by simp [here]⟩) rfl rfl
        (Reader.afterSent_goes sized (coherent.buffer_ne_nil (.inl here)))
        (Reader.afterSent_settles _ options _)
  | full here _ _ _ after =>
      exact attentive.think (.inr ⟨rfl, rfl, by simp [here]⟩) rfl rfl
        (Reader.afterFull_goes (coherent.buffer_ne_nil (.inl here)) after)
        (Reader.afterFull_settles _ options after)
  | failed here _ _ _ =>
      refine attentive.others (fun _ other => by cases other) ?_ rfl rfl (.inr ⟨rfl, rfl⟩)
      intro finished
      cases here.symm.trans finished
  | cleared here =>
      refine attentive.others (fun _ other => by cases other) ?_ rfl rfl
        (clearActiveIfCurrent_active state _)
      intro finished
      cases here.symm.trans finished
  | refreshed here =>
      exact attentive.think (.inl rfl) rfl rfl
        (Reader.afterRefresh_goes sized (coherent.buffer_ne_nil (.inr here)))
        (Reader.afterRefresh_settles _ options _)
  | yielded here =>
      exact attentive.think (.inr ⟨rfl, rfl, by simp [here]⟩) rfl rfl (Reader.nextChunk_goes sized)
        (Reader.nextChunk_settles _ options)
  | attached subscribed =>
      rw [trySubscribe_eq] at subscribed
      split at subscribed
      · cases subscribed
      · cases subscribed
        exact attentive.others (fun _ same => same) id rfl rfl (.inl rfl)
  | refused _ => exact attentive
  | consumed _ _ => exact attentive.others (fun _ same => same) id rfl rfl (.inr ⟨rfl, rfl⟩)
  | unregistered _ _ =>
      refine attentive.others (fun _ same => ?_) (fun same => ?_) ?_ ?_
        (clearActiveIfCurrent_active state _)
      all_goals simp_all [StreamState.withSubscription]
  | replaySealed _ => exact attentive.others (fun _ same => same) id rfl rfl (.inr ⟨rfl, rfl⟩)

end Attentive

/-! ## Every step uses up work -/

section Work

variable {streamName : String} {options : StreamConfig} {state next : StreamState}
  {action : Action}

theorem Own.kept (own : Own state action) : StreamKept state action := by
  rintro rfl
  exact own

theorem StreamState.unseen_le (state : StreamState) : state.unseen ≤ 1 := by
  unfold unseen
  split
  · exact Nat.zero_le 1
  · exact Nat.le_refl 1

/-- The reader moves on, and the subscriptions stay as they are. -/
theorem work_reader {bound : Nat} (subscriptions : next.subscriptions = state.subscriptions)
    (bounded : next.reader.work ≤ bound) (less : bound + 2 ≤ state.reader.work) :
    next.work < state.work := by
  have unseen := next.unseen_le
  rw [StreamState.work, StreamState.work, subscriptions]
  omega

/-- One subscription changes, and the reader may move on. -/
theorem work_set {handle : Handle} {subscription changed : SingleSubscription}
    (found : state.subscriptions[handle]? = some subscription)
    (subscriptions : next.subscriptions = state.subscriptions.set handle changed)
    (less : next.reader.work + changed.work + 2 ≤ state.reader.work + subscription.work) :
    next.work < state.work := by
  have unseen := next.unseen_le
  have total := ReplayRetention.totalSize_set SingleSubscription.work found changed
  rw [StreamState.work, StreamState.work, subscriptions]
  omega

/-- A subscription has one thing less to do. -/
theorem work_subscription {handle : Handle} {subscription changed : SingleSubscription}
    (found : state.subscriptions[handle]? = some subscription)
    (less : changed.work < subscription.work) :
    (state.withSubscription handle changed).work < state.work := by
  have total := ReplayRetention.totalSize_set SingleSubscription.work found changed
  have unseen : (state.withSubscription handle changed).unseen = state.unseen := rfl
  have reader : (state.withSubscription handle changed).reader = state.reader := rfl
  have subscriptions : (state.withSubscription handle changed).subscriptions =
      state.subscriptions.set handle changed := rfl
  rw [StreamState.work, StreamState.work, unseen, reader, subscriptions]
  omega

/-- A subscription that yields has one event less. -/
theorem consumes_work {handle : Handle} {subscription : SingleSubscription}
    (own : Own state (.nextEvent handle))
    (found : state.subscriptions[handle]? = some subscription)
    (stepped : state.nextEventStep handle subscription = some next) : next.work < state.work := by
  obtain ⟨_, there, ahead⟩ := own
  cases found.symm.trans there
  unfold StreamState.nextEventStep at stepped
  split at stepped
  · rename_i unread
    cases stepped
    refine work_subscription found ?_
    simp only [SingleSubscription.work, unread, List.length_cons]
    omega
  · rename_i stored
    cases stepped
    refine work_subscription found ?_
    simp only [SingleSubscription.work, stored, BoundedChannel.dropReceiver, Option.toList_none,
      Option.toList_some, List.length_nil, List.length_singleton]
    omega
  · rename_i read absent
    rw [read, absent] at ahead
    have queued : subscription.channel.receiverOpen = true ∧ subscription.channel.queue ≠ [] := by
      simpa using ahead
    split at stepped
    · split at stepped
      · rename_i taken
        obtain ⟨rest, queue, rfl⟩ := BoundedChannel.of_recv taken
        cases stepped
        refine work_subscription found ?_
        simp only [SingleSubscription.work, queue, List.length_cons]
        omega
      · rename_i nothing
        unfold BoundedChannel.recv at nothing
        split at nothing
        · rename_i empty
          exact absurd empty queued.2
        · cases nothing
    · rename_i gone
      exact absurd queued.1 gone

/-- A send of the reader adds one event to a channel at most. -/
theorem sendStep_work (sized : 0 < options.readChunkSize.bytes) (coherent : Coherent options state)
    {purpose : Purpose} (here : state.reader.place = .sending purpose)
    (stepped : state.sendStep options purpose = some next) : next.work < state.work := by
  have before : state.reader.work = purpose.rest state.reader.buffer.length + 6 := by
    simp only [Reader.work, here]
  have nonempty := coherent.buffer_ne_nil (.inl here)
  simp only [StreamState.sendStep, Option.bind_eq_bind, Option.bind_eq_some_iff] at stepped
  obtain ⟨active, _, subscription, found, stepped⟩ := stepped
  split at stepped
  · rename_i channel sent
    obtain ⟨_, _, rfl⟩ := BoundedChannel.of_sent sent
    cases stepped
    have goes := (@Reader.afterSent_goes state.reader _ sized _ nonempty).work
    refine work_set found rfl ?_
    simp only [before, SingleSubscription.work, List.length_append, List.length_singleton]
    omega
  · obtain ⟨reader, after, same⟩ := Option.bind_eq_some_iff.mp stepped
    cases same
    exact work_reader rfl (Reader.afterFull_goes nonempty after).work (Nat.le_of_eq before.symm)
  · cases stepped
    refine work_reader rfl (Nat.le_refl _) ?_
    rw [before]
    exact Nat.le_refl _

theorem readerStep_work (sized : 0 < options.readChunkSize.bytes)
    (coherent : Coherent options state)
    (stepped : state.readerStep streamName options = some next) : next.work < state.work := by
  unfold StreamState.readerStep at stepped
  split at stepped
  · rename_i result here
    cases stepped
    obtain ⟨lag, same⟩ := observedIfLossy_eq options state.refreshed
    have goes : ((StreamState.observedIfLossy options state.refreshed).afterRead streamName options
        result).work ≤ state.reader.buffer.length * 26 + 20 := by
      rw [same]
      exact (Reader.afterRead_goes sized streamName result).work
    refine work_reader rfl goes ?_
    simp only [Reader.work, here]
    exact Nat.le_refl _
  · rename_i event here
    split at stepped
    · cases stepped
    · cases stepped
      refine work_reader rfl (Reader.afterRecord_goes sized _).work ?_
      simp only [Reader.work, here]
      exact Nat.le_refl _
  · rename_i purpose here
    exact sendStep_work sized coherent here stepped
  · rename_i purpose active here
    cases stepped
    refine work_reader (clearActiveIfCurrent_subscriptions _ _) (Nat.le_refl _) ?_
    simp only [Reader.work, here]
    exact Nat.le_refl _
  · rename_i purpose here
    cases stepped
    have goes := @Reader.afterRefresh_goes state.refreshed _ sized _
      (coherent.buffer_ne_nil (.inr here))
    refine work_reader rfl goes.work ?_
    simp only [Reader.work, here]
    exact Nat.le_refl _
  · rename_i here
    cases stepped
    refine work_reader rfl (Reader.nextChunk_goes sized).work ?_
    simp only [Reader.work, here]
    exact Nat.le_refl _
  all_goals cases stepped

/-- **Every step of the parties themselves uses up work.** -/
theorem work_lt (sized : 0 < options.readChunkSize.bytes) (coherent : Coherent options state)
    (own : Own state action)
    (stepped : step streamName options state action = some next) : next.work < state.work := by
  cases action with
  | changed =>
      simp only [step, Option.ite_none_right_eq_some, Option.some.injEq] at stepped
      obtain ⟨⟨here, _, missed⟩, rfl⟩ := stepped
      obtain ⟨goes, _⟩ := observedIfLossy_goes state options here
      have seen : (StreamState.observedIfLossy options state.refreshed).seenVersion =
          state.activeVersion := goes.seenVersion
      have nothing := Nat.le_zero.mp goes.work
      simp only [StreamState.work, StreamState.unseen, seen, nothing, if_true, if_neg missed]
      omega
  | nextEvent handle =>
      simp only [step, Option.bind_eq_bind, Option.bind_eq_some_iff,
        Option.ite_none_right_eq_some] at stepped
      obtain ⟨subscription, found, _, stepped⟩ := stepped
      exact consumes_work own found stepped
  | clearRegistration handle =>
      simp only [step, Option.bind_eq_bind, Option.bind_eq_some_iff,
        Option.ite_none_right_eq_some, Option.some.injEq] at stepped
      obtain ⟨subscription, found, dropping, rfl⟩ := stepped
      refine work_set found (congrArg (List.set · handle _) ?_) ?_
      · exact clearActiveIfCurrent_subscriptions state subscription.id
      · simp only [StreamState.withSubscription, clearActiveIfCurrent_reader,
          SingleSubscription.work, dropping, if_true, reduceCtorEq, if_false]
        omega
  | reader => exact readerStep_work sized coherent stepped
  | read bytes | readEof | readError source | subscribe | closeReceiver handle | sealReplay
  | dropStream | abortReader => exact own.elim

end Work

/-! ## Where a subscription attached -/

/-- The subscription attached in the state `before` of a run to the state, and the stream is not
dropped on that run. -/
structure AttachedAt (streamName : String) (options : ValidConfig) (before after : StreamState)
    (handle : Handle) (state : StreamState) : Prop where
  passes : (streamMachine streamName options).Passes StreamKept before .subscribe after state
  inactive : before.shared.activeId = none
  last : before.subscriptions.length = handle

section Attached

variable {streamName : String} {options : ValidConfig} {state : StreamState}

/-- Only an attach adds a subscription. -/
theorem Move.subscriptions_length {options : StreamConfig} {next : StreamState}
    (move : Move streamName options state next) :
    next.subscriptions.length = state.subscriptions.length ∨
      state.shared.activeId = none ∧ next = state.attached options := by
  cases move with
  | read _ _ =>
      obtain ⟨reader, same⟩ := gotResult_eq _ streamName options _
      rw [same]
      exact .inl rfl
  | ended _ _ =>
      obtain ⟨reader, same⟩ := gotResult_eq _ streamName options _
      rw [same]
      exact .inl rfl
  | sent _ _ _ _ | consumed _ _ => exact .inl List.length_set
  | cleared _ => exact .inl (congrArg List.length (clearActiveIfCurrent_subscriptions _ _))
  | attached subscribed =>
      rw [trySubscribe_eq] at subscribed
      split at subscribed
      · cases subscribed
      · rename_i inactive
        cases subscribed
        exact .inr ⟨by simpa using inactive, rfl⟩
  | unregistered _ _ =>
      refine .inl ?_
      rw [StreamState.withSubscription, List.length_set, clearActiveIfCurrent_subscriptions]
  | _ => exact .inl rfl

/-- Every subscription has attached somewhere. -/
theorem exists_attachedAt {handle : Nat}
    (reachable : (streamMachine streamName options).ReachableBy StreamKept state)
    (inside : handle < state.subscriptions.length) :
    ∃ before after, AttachedAt streamName options before after handle state := by
  induction reachable with
  | init => cases inside
  | @step state next action reachable kept stepped ih =>
      have registered := (reachable_coherent reachable).sound.registered
      by_cases earlier : handle < state.subscriptions.length
      · obtain ⟨before, after, attached⟩ := ih earlier
        exact ⟨before, after, attached.passes.step kept stepped, attached.inactive, attached.last⟩
      · rcases (step_move registered.kept kept stepped).subscriptions_length with
          same | ⟨inactive, rfl⟩
        · omega
        · have subscribes : step streamName options.toStreamConfig state .subscribe =
              some (state.attached options.toStreamConfig) := by
            simp [step, registered.kept, trySubscribe_eq, inactive]
          have length : (state.attached options.toStreamConfig).subscriptions.length =
              state.subscriptions.length + 1 := List.length_append
          have kept : StreamKept state .subscribe := fun other => by cases other
          exact ⟨state, _, .start reachable kept subscribes, inactive, by omega⟩

theorem reachable_attentive
    (reachable : (streamMachine streamName options).ReachableBy StreamKept state) :
    Attentive state := by
  refine reachable.invariant_using (fun reachable => reachable_coherent reachable) ?_ ?_
  · exact ⟨(fun _ here => by cases here), Nat.le_refl _, fun _ => .inl rfl⟩
  · intro state next action coherent attentive kept stepped
    exact attentive.move coherent options.readChunkSize_pos
      (step_move coherent.sound.registered.kept kept stepped)

end Attached

/-! ## A settled state -/

section Settled

variable {streamName : String} {options : ValidConfig} {state : StreamState} {handle : Handle}
  {subscription : SingleSubscription}

/-- A subscription in use with an event for it can yield. -/
theorem exists_nextEvent (found : state.subscriptions[handle]? = some subscription)
    (inUse : subscription.status = .inUse)
    (ahead : subscription.replay ≠ [] ∨ subscription.terminalEvent ≠ none ∨
      (subscription.channel.receiverOpen = true ∧ subscription.channel.queue ≠ [])) :
    ∃ next, step streamName options.toStreamConfig state (.nextEvent handle) = some next := by
  simp only [step, found, Option.bind_eq_bind, Option.bind_some, inUse, if_true,
    StreamState.nextEventStep]
  cases unread : subscription.replay with
  | cons event replay => exact ⟨_, rfl⟩
  | nil =>
      cases stored : subscription.terminalEvent with
      | some event => exact ⟨_, rfl⟩
      | none =>
          simp only [unread, stored, ne_eq, not_true_eq_false, false_or] at ahead
          obtain ⟨message, rest, queue⟩ := List.exists_cons_of_ne_nil ahead.2
          simp only [ahead.1, if_true, BoundedChannel.recv, queue]
          exact ⟨_, rfl⟩

/-- In a settled state nothing is there for a subscription in use. -/
theorem Settled.nothing_left (settled : (streamMachine streamName options).Settled Own state)
    (found : state.subscriptions[handle]? = some subscription)
    (inUse : subscription.status = .inUse) :
    subscription.replay = [] ∧ subscription.terminalEvent = none ∧
      (subscription.channel.receiverOpen = true → subscription.channel.queue = []) := by
  have quiet : ¬ (subscription.replay ≠ [] ∨ subscription.terminalEvent ≠ none ∨
      (subscription.channel.receiverOpen = true ∧ subscription.channel.queue ≠ [])) := by
    intro ahead
    obtain ⟨next, taken⟩ := @exists_nextEvent streamName options _ _ _ found inUse ahead
    cases (settled (.nextEvent handle) ⟨subscription, found, ahead⟩).symm.trans taken
  simpa only [not_or, ne_eq, not_not, not_and] using quiet

/-- A send that can go nowhere waits for room at a subscription in use that has something to yield. -/
theorem sendStep_waits (coherent : Coherent options.toStreamConfig state) {purpose : Purpose}
    {active : ActiveSubscriber} (cached : state.reader.cachedActive = some active)
    (stuck : state.sendStep options.toStreamConfig purpose = none) :
    ∃ subscription, state.subscriptions[active.sender]? = some subscription ∧
      subscription.status = .inUse ∧ subscription.channel.receiverOpen = true ∧
        subscription.channel.queue ≠ [] := by
  have registered := coherent.sound.registered
  obtain ⟨subscription, found⟩ : ∃ subscription, state.subscriptions[active.sender]? =
    some subscription := ⟨_, List.getElem?_eq_getElem (registered.cached active cached).2⟩
  simp only [StreamState.sendStep, cached, found, Option.bind_eq_bind, Option.bind_some] at stuck
  rcases subscription.channel.trySend_cases purpose.event with
    ⟨_, outcome⟩ | ⟨_, _, outcome⟩ | ⟨isOpen, full, outcome⟩
  · rw [outcome] at stuck
    cases stuck
  · rw [outcome] at stuck
    cases stuck
  · refine ⟨subscription, found, (registered.isOpen _ _ found isOpen).1, isOpen, ?_⟩
    intro empty
    rw [(coherent.channels _ _ found).capacity, empty] at full
    exact absurd options.maxBufferedChunks_pos (Nat.not_lt_of_le full)

/-- **In a settled state the reader waits for the source or is finished.** A reader that waits for
room would leave its subscriber something to do. -/
theorem Settled.reader (settled : (streamMachine streamName options).Settled Own state)
    (reachable : (streamMachine streamName options).ReachableBy StreamKept state) :
    state.reader.place = .reading ∨ state.reader.place = .finished := by
  have coherent := reachable_coherent reachable
  have stuck : state.readerStep streamName options.toStreamConfig = none := settled .reader trivial
  have placed := coherent.reader.place
  unfold StreamState.readerStep at stuck
  cases here : state.reader.place with
  | reading => exact .inl rfl
  | finished => exact .inr rfl
  | aborted =>
      rw [here] at placed
      exact placed.elim
  | refreshRead result | clearing purpose active | refreshing purpose | yielding =>
      rw [here] at stuck
      cases stuck
  | record event =>
      obtain ⟨shared, recorded, pushed, _⟩ := ReplayState.pushReplayEvent_recorded
        coherent.sound.counted options.retention_nonZero event
      simp only [here, pushed] at stuck
      cases stuck
  | sending purpose =>
      rw [here] at stuck
      obtain ⟨active, cached⟩ := Option.ne_none_iff_exists'.mp
        ((reachable_attentive reachable).aimed purpose here)
      obtain ⟨subscription, found, inUse, isOpen, queued⟩ := sendStep_waits coherent cached stuck
      exact absurd ((Settled.nothing_left settled found inUse).2.2 isOpen) queued

end Settled

/-! ## Runs -/

/-- A subscription in use that attached in the state `before` was told everything since. It has
received what it was given and what it took from its channel. Under reliable delivery this is the log
from where these events stand in it, with the event in the reader's hands for it. Under lossy delivery
its live events account for the source from where the reader stood, less the bytes it had in hand for
the subscription, up to the end, or up to a gap that is still to be announced. A stream that has ended
has told it so. -/
structure ReceivedAll (options : StreamConfig) (before after state : StreamState) (handle : Handle)
    (subscription : SingleSubscription) : Prop where
  books : subscription.received = before.initial options ++ subscription.live
  reliable : options.deliveryGuarantee = .reliableWithBackpressure →
    ∃ first ≤ before.log.length,
      before.log.drop first = before.initial options ++ after.inFlight handle ∧
        subscription.received = state.log.drop first
  lossy : options.deliveryGuarantee = .lossyWithoutBackpressure →
    subscription.channel.receiverOpen = true →
      ∃ start last, start + before.reader.due after.activeTx handle = before.reader.position ∧
        Tiles (Covers state.source) start subscription.live last ∧
          Balances (state.reader.Owes handle) last 0 state.source.length
  ended : state.reader.place = .finished → ∃ event ∈ subscription.received, event.isTerminal = true

/-- What the parties arrive at on their own: the reader waits for the source with an active
subscriber seen, or is finished; every drop is complete; and every subscription in use, which has
attached somewhere, was told everything since, wherever that was. -/
structure Idle (streamName : String) (options : ValidConfig) (state : StreamState) : Prop where
  reader : state.reader.place = .reading ∨ state.reader.place = .finished
  seen : state.reader.place = .reading → state.reader.cachedActive = none → state.activeTx = none
  complete : ∀ subscription ∈ state.subscriptions, subscription.status ≠ .dropping
  told : ∀ (handle : Handle) subscription, state.subscriptions[handle]? = some subscription →
    subscription.status = .inUse →
      (∃ before after, AttachedAt streamName options before after handle state) ∧
        ∀ before after, AttachedAt streamName options before after handle state →
          ReceivedAll options.toStreamConfig before after state handle subscription

section Runs

variable {streamName : String} {options : ValidConfig} {state middle : StreamState}
  {actions : List Action} {handle : Handle} {subscription : SingleSubscription}

/-- A subscription that has nothing left to yield has received everything. -/
theorem Settled.taken (settled : (streamMachine streamName options).Settled Own state)
    (coherent : Coherent options.toStreamConfig state)
    (found : state.subscriptions[handle]? = some subscription)
    (inUse : subscription.status = .inUse) (isOpen : subscription.channel.receiverOpen = true) :
    subscription.live = subscription.sent := by
  have whole := (coherent.channels handle subscription found).whole isOpen
  rwa [(Settled.nothing_left settled found inUse).2.2 isOpen, List.append_nil] at whole

/-- A stream that has ended has told a subscription in use so. -/
theorem Settled.ended (settled : (streamMachine streamName options).Settled Own state)
    (reachable : (streamMachine streamName options).ReachableBy StreamKept state)
    (found : state.subscriptions[handle]? = some subscription)
    (inUse : subscription.status = .inUse) (here : state.reader.place = .finished) :
    ∃ event ∈ subscription.received, event.isTerminal = true := by
  obtain ⟨_, absent, empty⟩ := Settled.nothing_left settled found inUse
  have placed := (reachable_coherent reachable).reader.place
  rw [here] at placed
  obtain ⟨awaits, _⟩ := (reachable_sparing handle reachable).awaits subscription found inUse
  rcases awaits.ahead with ⟨event, member, terminal⟩ | ⟨_, ⟨_, running⟩ | ends⟩
  · rw [absent, Option.toList_none, List.append_nil] at member
    cases isOpen : subscription.channel.receiverOpen with
    | false => exact awaits.closed isOpen
    | true =>
        rw [empty isOpen, List.append_nil] at member
        exact ⟨event, member, terminal⟩
  · have ended : state.shared.terminalEvent.isSome = true := placed
    rw [running] at ended
    cases ended
  · exact (ends.not_at here fun _ other => by cases other).elim

/-- Under reliable delivery it has received the log from its place on. -/
theorem Settled.logged (settled : (streamMachine streamName options).Settled Own state)
    (coherent : Coherent options.toStreamConfig state)
    (reader : state.reader.place = .reading ∨ state.reader.place = .finished)
    (found : state.subscriptions[handle]? = some subscription)
    (inUse : subscription.status = .inUse) {initial : List StreamEvent} {first : Nat}
    (handed : Handed initial first handle state subscription) :
    subscription.received = state.log.drop first := by
  obtain ⟨read, absent, _⟩ := Settled.nothing_left settled found inUse
  cases isOpen : subscription.channel.receiverOpen with
  | false => exact (handed.done inUse isOpen).2.2.2
  | true =>
      have idle : state.reader.place.Idle := by
        rcases reader with here | here
        all_goals
          rw [here]
          trivial
      have whole := handed.whole isOpen
      have books := handed.books
      rw [inFlight_of_idle idle, List.append_nil,
        ← Settled.taken settled coherent found inUse isOpen] at whole
      rw [read, absent, Option.toList_none, List.append_nil, List.append_nil] at books
      exact books.trans whole

/-- Under lossy delivery its live events account for the source. -/
theorem Settled.accounted (settled : (streamMachine streamName options).Settled Own state)
    (reachable : (streamMachine streamName options).ReachableBy StreamKept state)
    (reader : state.reader.place = .reading ∨ state.reader.place = .finished)
    (found : state.subscriptions[handle]? = some subscription)
    (inUse : subscription.status = .inUse) (isOpen : subscription.channel.receiverOpen = true)
    {initial : List StreamEvent} {start : Nat} (booked : Booked initial subscription)
    (received : subscription.received = initial ++ subscription.live)
    (announced : Announced start handle state subscription) :
    ∃ last, Tiles (Covers state.source) start subscription.live last ∧
      Balances (state.reader.Owes handle) last 0 state.source.length := by
  have coherent := reachable_coherent reachable
  have buffered := coherent.reader.buffered
  have taken := Settled.taken settled coherent found inUse isOpen
  obtain ⟨last, tiles, _, balanced, all⟩ := announced.tiles
  have balanced := balanced isOpen
  refine ⟨last, taken ▸ tiles, ?_⟩
  rcases reader with here | here
  · have placed := coherent.reader.place
    rw [here] at placed
    rw [Reader.Balanced, Reader.due, here, buffered.ends placed.2] at balanced
    exact balanced
  · -- The terminal event is a live one: a stored one would have closed the receiver.
    obtain ⟨event, member, terminal⟩ := Settled.ended settled reachable found inUse here
    have live : event ∈ subscription.live := by
      rw [received] at member
      rcases List.mem_append.mp member with given | live
      · have pending := booked.stored event given terminal isOpen
        rw [(Settled.nothing_left settled found inUse).2.1] at pending
        cases pending
      · exact live
    have whole := all ⟨event, taken ▸ live, terminal⟩
    refine .clear (fun owes => ?_) whole
    have below := balanced.1 owes
    have inside := buffered.inside
    omega

/-- **In a settled state a subscription in use has received all since it attached.** -/
theorem Settled.receivedAll (settled : (streamMachine streamName options).Settled Own state)
    (reachable : (streamMachine streamName options).ReachableBy StreamKept state)
    (reader : state.reader.place = .reading ∨ state.reader.place = .finished)
    (found : state.subscriptions[handle]? = some subscription)
    (inUse : subscription.status = .inUse) {before after : StreamState}
    (attached : AttachedAt streamName options before after handle state) :
    ReceivedAll options.toStreamConfig before after state handle subscription := by
  obtain ⟨⟨earlier, _, subscribed, actions, ran⟩, inactive, rfl⟩ := attached
  obtain ⟨read, absent, _⟩ := Settled.nothing_left settled found inUse
  obtain ⟨_, here, booked⟩ := exists_booked earlier inactive subscribed ran
  cases found.symm.trans here
  have received := booked.books
  rw [read, absent, Option.toList_none, List.append_nil, List.append_nil] at received
  refine ⟨received, ?_, ?_, Settled.ended settled reachable found inUse⟩
  · intro reliable
    obtain ⟨first, begins, given, always⟩ :=
      exists_continues reliable earlier inactive subscribed
    obtain ⟨coherent, _, _, there, handed⟩ := always actions state ran
    cases found.symm.trans there
    exact ⟨first, begins.bound, given,
      Settled.logged settled coherent reader found inUse handed⟩
  · intro lossy isOpen
    obtain ⟨start, _, stands, always⟩ :=
      exists_lossyContinues lossy earlier inactive subscribed
    obtain ⟨_, _, _, there, announced⟩ := always actions state ran
    cases found.symm.trans there
    obtain ⟨last, tiles, balances⟩ :=
      Settled.accounted settled reachable reader found inUse isOpen booked received announced
    exact ⟨start, last, stands, tiles, balances⟩

theorem settled_idle
    (reachable : (streamMachine streamName options).ReachableBy StreamKept state)
    (settled : (streamMachine streamName options).Settled Own state) :
    Idle streamName options state := by
  have reader := Settled.reader settled reachable
  refine ⟨reader, ?_, ?_, fun handle subscription found inUse =>
    ⟨exists_attachedAt reachable (List.getElem?_eq_some_iff.mp found).1, fun before after =>
      Settled.receivedAll settled reachable reader found inUse⟩⟩
  · intro here inactive
    have stuck : step streamName options.toStreamConfig state .changed = none :=
      settled .changed trivial
    have current : state.activeVersion = state.reader.seenVersion := by
      by_contra missed
      simp [step, here, inactive, missed] at stuck
    rcases (reachable_attentive reachable).current current.symm with same | finished
    · exact same.symm.trans inactive
    · cases here.symm.trans finished
  · intro subscription member dropping
    obtain ⟨handle, found⟩ := List.mem_iff_getElem?.mp member
    have stuck : step streamName options.toStreamConfig state (.clearRegistration handle) = none :=
      settled (.clearRegistration handle) trivial
    simp [step, found, dropping] at stuck

theorem reachable_own {next : StreamState} {action : Action}
    (reachable : (streamMachine streamName options).ReachableBy StreamKept state)
    (own : Own state action)
    (stepped : (streamMachine streamName options).step state action = some next) :
    (streamMachine streamName options).ReachableBy StreamKept next :=
  reachable.step own.kept stepped

theorem reachable_work_lt {next : StreamState} {action : Action}
    (reachable : (streamMachine streamName options).ReachableBy StreamKept state)
    (own : Own state action)
    (stepped : (streamMachine streamName options).step state action = some next) :
    next.work < state.work :=
  work_lt options.readChunkSize_pos (reachable_coherent reachable) own stepped

/-- **Delivery to the single subscriber comes to an end, and everyone was told.** In any state that is
reached while the stream is not dropped, the parties go on by themselves, in any order: the reader
between two reads, the subscriptions with what is there for them, and those that are being dropped.
Such a run is never longer than the work there was at its start. A run that cannot go on is not stuck:
the reader is at its read, with an active subscriber seen, or finished, and every subscription in use
has received all that it is told since the state in which it attached. Whatever was done so far, the
run can be continued to this point. -/
theorem single_settles
    (reachable : (streamMachine streamName options).ReachableBy StreamKept state)
    (ran : (streamMachine streamName options).execBy Own state actions = some middle) :
    actions.length + middle.work ≤ state.work ∧
      ((streamMachine streamName options).Settled Own middle →
        Idle streamName options middle) ∧
      ∃ more final, (streamMachine streamName options).execBy Own middle more = some final ∧
        Idle streamName options final := by
  have later : (streamMachine streamName options).ReachableBy StreamKept middle :=
    Machine.execBy_preserves reachable_own reachable ran
  refine ⟨Machine.length_add_work_le reachable_own reachable_work_lt reachable ran,
    settled_idle later, ?_⟩
  obtain ⟨more, final, executed, known, settled⟩ :=
    Machine.exists_settled reachable_own reachable_work_lt later
  exact ⟨more, final, executed, settled_idle known settled⟩

/-- A subscriber is dropped while the reader waits for room at it, and another one attaches. The send
fails, and the reader sends the event to the new subscriber. -/
theorem single_settles_replaced :
    ∃ state middle, (streamMachine "stdout" plainConfig).ReachableBy StreamKept state ∧
      state.subscriptions.length = 2 ∧
      (streamMachine "stdout" plainConfig).execBy Own state [.reader, .reader, .reader, .reader] =
        some middle ∧
      4 + middle.work ≤ state.work ∧
      ∃ more final, (streamMachine "stdout" plainConfig).execBy Own middle more = some final ∧
        Idle "stdout" plainConfig final := by
  obtain ⟨state, reachable, two, goesOn⟩ :=
    (streamMachine "stdout" plainConfig).exists_reachableBy StreamKept
      [.subscribe, .changed, .read [7], .reader, .reader, .read [8], .reader, .closeReceiver 0,
        .clearRegistration 0, .subscribe]
      (fun state => state.subscriptions.length = 2 ∧
        ((streamMachine "stdout" plainConfig).execBy Own state
          [.reader, .reader, .reader, .reader]).isSome = true)
      (by decide +kernel)
  obtain ⟨middle, ran⟩ := Option.isSome_iff_exists.mp goesOn
  obtain ⟨bounded, _, continued⟩ := single_settles reachable ran
  exact ⟨state, middle, reachable, two, ran, bounded, continued⟩

end Runs

end TokioProcessTools.OutputStream.Backend.SingleSubscriber
