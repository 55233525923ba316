import TokioProcessTools.Foundation.Indexed
import TokioProcessTools.OutputStream.Backend.SingleSubscriber.Moves

/-!
# The registration of the active subscriber

The active subscriber is registered under its id in the locked state, and with
its sender in the watch channel. Ids are never given out twice. Three parties
clear a registration by id: the subscription when it is dropped, the reader after
a send into a closed channel, and nobody else. Both know that the channel of that
id is closed. So a subscriber whose receiver is open stays registered, whatever
the reader does with an old copy.
-/

set_option autoImplicit false

namespace TokioProcessTools.OutputStream.Backend.SingleSubscriber

open Foundation

/-! ## What the reader does between two accesses -/

/-- The reader found a channel closed and is still busy with it. -/
def Place.Failed : Place → Prop
  | .clearing _ _ | .refreshing _ => True
  | .reading | .refreshRead _ | .record _ | .sending _ | .yielding | .finished | .aborted => False

/-- The reader keeps its copy of the active subscriber, or ends and drops it, and goes to a place
that has nothing to do with a failed send. -/
def Reader.Settles (reader next : Reader) : Prop :=
  (next.cachedActive = reader.cachedActive ∨
    (next.cachedActive = none ∧ next.place = .finished)) ∧ ¬ next.place.Failed

namespace Reader

variable (reader : Reader) (options : StreamConfig)

theorem splitChunk_settles : reader.Settles (reader.splitChunk options) :=
  ⟨.inl rfl, not_false⟩

theorem nextChunk_settles : reader.Settles (reader.nextChunk options) := by
  unfold nextChunk
  split
  · exact ⟨.inl rfl, not_false⟩
  · split
    · exact splitChunk_settles reader options
    · dsimp only
      split
      · split
        · exact ⟨.inl rfl, not_false⟩
        · exact ⟨.inl rfl, not_false⟩
      · exact ⟨.inl rfl, not_false⟩

theorem afterEvent_settles (event : StreamEvent) :
    reader.Settles (reader.afterEvent options event) := by
  unfold afterEvent
  split
  · exact ⟨.inr ⟨rfl, rfl⟩, not_false⟩
  · exact nextChunk_settles reader options

theorem startDeliver_settles (attempt : Attempt) :
    reader.Settles (reader.startDeliver options attempt) := by
  unfold startDeliver
  split
  · exact afterEvent_settles reader options attempt.event
  · exact ⟨.inl rfl, not_false⟩

theorem startTrySend_settles (attempt : Attempt) :
    reader.Settles (reader.startTrySend options attempt) := by
  unfold startTrySend
  split
  · exact nextChunk_settles reader.observe options
  · exact ⟨.inl rfl, not_false⟩

theorem startFlush_settles (attempt : Attempt) :
    reader.Settles (reader.startFlush options attempt) := by
  unfold startFlush
  split
  · split
    · exact startDeliver_settles { reader with lag := reader.lag.observeActive none } options attempt
    · exact ⟨.inl rfl, not_false⟩
  · exact startDeliver_settles reader options attempt

theorem afterRecord_settles (attempt : Attempt) :
    reader.Settles (reader.afterRecord options attempt) := by
  unfold afterRecord
  split
  · exact startDeliver_settles reader options attempt
  · split
    · exact startFlush_settles reader.observe options attempt
    · exact startTrySend_settles reader options attempt

theorem afterSent_settles (purpose : Purpose) :
    reader.Settles (reader.afterSent options purpose) := by
  cases purpose with
  | gap => exact splitChunk_settles _ options
  | chunk attempt =>
      exact nextChunk_settles { reader with lag := reader.lag.logIfLagged } options
  | flush attempt => exact startDeliver_settles { reader with lag := _ } options attempt
  | deliver attempt => exact afterEvent_settles reader options attempt.event

theorem afterFull_settles {purpose : Purpose} {next : Reader}
    (full : reader.afterFull options purpose = some next) : reader.Settles next := by
  cases purpose with
  | gap =>
      cases full
      exact ⟨.inl rfl, not_false⟩
  | chunk attempt =>
      cases full
      exact ⟨.inl rfl, not_false⟩
  | flush attempt => cases full
  | deliver attempt => cases full

theorem afterRefresh_settles (purpose : Purpose) :
    reader.Settles (reader.afterRefresh options purpose) := by
  cases purpose with
  | gap => exact splitChunk_settles reader.observe options
  | chunk attempt =>
      simp only [afterRefresh]
      split
      · exact nextChunk_settles reader.observe options
      · exact startTrySend_settles reader options _
  | flush attempt => exact startDeliver_settles reader.observe options attempt
  | deliver attempt =>
      simp only [afterRefresh]
      split
      · exact afterEvent_settles reader options attempt.event
      · exact startDeliver_settles reader options _

theorem afterRead_settles (streamName : String) (result : ReadResult) :
    reader.Settles (reader.afterRead streamName options result) := by
  cases result with
  | data => exact nextChunk_settles reader options
  | eof => exact ⟨.inl rfl, not_false⟩
  | failed source => exact ⟨.inl rfl, not_false⟩

end Reader

/-! ## The invariant -/

/-- The receiver of a subscription is gone. -/
def StreamState.Closed (state : StreamState) (handle : Handle) : Prop :=
  ∀ subscription, state.subscriptions[handle]? = some subscription →
    subscription.channel.receiverOpen = false

/-- What the reader knows of a send that failed. -/
def FailedKnown (state : StreamState) : Place → Prop
  | .clearing _ active => state.reader.cachedActive = some active ∧ state.Closed active.sender
  | .refreshing _ => ∃ active, state.reader.cachedActive = some active ∧
      state.Closed active.sender ∧ state.shared.activeId ≠ some active.id
  | .reading | .refreshRead _ | .record _ | .sending _ | .yielding | .finished | .aborted => True

theorem FailedKnown.of_settled {state : StreamState} {place : Place} (settled : ¬ place.Failed) :
    FailedKnown state place := by
  cases place with
  | clearing purpose active => exact absurd trivial settled
  | refreshing purpose => exact absurd trivial settled
  | _ => trivial

/-- The invariant of the registration. -/
structure Registered (state : StreamState) : Prop where
  kept : state.streamDropped = false
  ids : state.shared.nextSubscriberId = state.subscriptions.length
  active : state.activeTx = state.shared.activeId.map fun id => ⟨id, id⟩
  inside : ∀ id, state.shared.activeId = some id → id < state.subscriptions.length
  own : EachAt state.subscriptions fun handle subscription => subscription.id = handle
  isOpen : EachAt state.subscriptions fun handle subscription =>
    subscription.channel.receiverOpen = true →
      subscription.status = .inUse ∧ state.shared.activeId = some handle
  cached : ∀ active, state.reader.cachedActive = some active →
    active.id = active.sender ∧ active.sender < state.subscriptions.length
  failed : FailedKnown state state.reader.place

section Steps

variable {streamName : String} {options : StreamConfig} {state next : StreamState}
  {handle : Handle} {subscription changed : SingleSubscription}

/-- An active subscriber is one of the subscriptions. -/
theorem Registered.activeTx_valid (registered : Registered state) {active : ActiveSubscriber}
    (found : state.activeTx = some active) :
    active.id = active.sender ∧ active.sender < state.subscriptions.length ∧
      state.shared.activeId = some active.id := by
  rw [registered.active, Option.map_eq_some_iff] at found
  obtain ⟨id, present, rfl⟩ := found
  exact ⟨rfl, registered.inside id present, present⟩

/-- An open subscription is the active one. -/
theorem Registered.activeTx_of_open (registered : Registered state)
    (found : state.subscriptions[handle]? = some subscription)
    (isOpen : subscription.channel.receiverOpen = true) :
    state.activeTx = some ⟨handle, handle⟩ := by
  rw [registered.active, (registered.isOpen handle subscription found isOpen).2]
  rfl

/-- Only one subscription is open. -/
theorem Registered.eq_of_open (registered : Registered state)
    (found : state.subscriptions[handle]? = some subscription)
    (isOpen : subscription.channel.receiverOpen = true) {other : Handle} {entry : SingleSubscription}
    (there : state.subscriptions[other]? = some entry)
    (otherOpen : entry.channel.receiverOpen = true) : handle = other := by
  have active := (registered.isOpen other entry there otherOpen).2
  rw [(registered.isOpen handle subscription found isOpen).2, Option.some.injEq] at active
  exact active

/-- A subscription that is being dropped is not open. -/
theorem Registered.closed_of_dropping (registered : Registered state)
    (found : state.subscriptions[handle]? = some subscription)
    (dropping : subscription.status = .dropping) : subscription.channel.receiverOpen ≠ true := by
  intro isOpen
  have inUse := (registered.isOpen handle subscription found isOpen).1
  rw [dropping] at inUse
  cases inUse

/-- A step that leaves the registration alone. -/
theorem Registered.frame (registered : Registered state)
    (subscriptions : next.subscriptions = state.subscriptions)
    (activeId : next.shared.activeId = state.shared.activeId)
    (nextId : next.shared.nextSubscriberId = state.shared.nextSubscriberId)
    (activeTx : next.activeTx = state.activeTx) (kept : next.streamDropped = state.streamDropped)
    (cached : next.reader.cachedActive = state.reader.cachedActive ∨
      next.reader.cachedActive = state.activeTx ∨ next.reader.cachedActive = none)
    (failed : FailedKnown next next.reader.place) : Registered next where
  kept := kept.trans registered.kept
  ids := by
    rw [nextId, subscriptions]
    exact registered.ids
  active := by
    rw [activeTx, activeId]
    exact registered.active
  inside := by
    rw [activeId, subscriptions]
    exact registered.inside
  own := by
    rw [subscriptions]
    exact registered.own
  isOpen := by
    rw [subscriptions, activeId]
    exact registered.isOpen
  cached := by
    intro active found
    rw [subscriptions]
    rcases cached with same | refreshed | none
    · exact registered.cached active (same ▸ found)
    · obtain ⟨equal, inside, _⟩ := registered.activeTx_valid (refreshed ▸ found)
      exact ⟨equal, inside⟩
    · rw [none] at found
      cases found
  failed := failed

/-- A closed subscription stays closed when one is changed that does not open. -/
theorem StreamState.Closed.change {other : Handle} (closed : state.Closed other)
    (found : state.subscriptions[handle]? = some subscription)
    (isOpen : changed.channel.receiverOpen = true → subscription.channel.receiverOpen = true) :
    (state.withSubscription handle changed).Closed other := by
  intro entry there
  rcases getElem?_set_cases there with ⟨rfl, rfl⟩ | ⟨_, there⟩
  · by_contra notClosed
    have was := closed subscription found
    rw [isOpen (by simpa using notClosed)] at was
    cases was
  · exact closed entry there

theorem FailedKnown.change {place : Place} (known : FailedKnown state place)
    (found : state.subscriptions[handle]? = some subscription)
    (isOpen : changed.channel.receiverOpen = true → subscription.channel.receiverOpen = true) :
    FailedKnown (state.withSubscription handle changed) place := by
  cases place with
  | clearing purpose active => exact ⟨known.1, known.2.change found isOpen⟩
  | refreshing purpose =>
      obtain ⟨active, cached, closed, inactive⟩ := known
      exact ⟨active, cached, closed.change found isOpen, inactive⟩
  | _ => trivial

/-- A subscription is changed; it may close, but not open. -/
theorem Registered.change (registered : Registered state)
    (found : state.subscriptions[handle]? = some subscription)
    (id : changed.id = subscription.id)
    (isOpen : changed.channel.receiverOpen = true →
      subscription.channel.receiverOpen = true ∧ changed.status = subscription.status) :
    Registered (state.withSubscription handle changed) := by
  have length : (state.withSubscription handle changed).subscriptions.length =
      state.subscriptions.length := List.length_set
  refine ⟨registered.kept, ?_, registered.active, ?_, ?_, ?_, ?_, ?_⟩
  · rw [length]
    exact registered.ids
  · rw [length]
    exact registered.inside
  · refine EachAt.set (id.trans (registered.own handle subscription found)) ?_
    intro position other there _
    exact registered.own position other there
  · refine EachAt.set ?_ ?_
    · intro stillOpen
      obtain ⟨wasOpen, status⟩ := isOpen stillOpen
      obtain ⟨inUse, active⟩ := registered.isOpen handle subscription found wasOpen
      exact ⟨status.trans inUse, active⟩
    · intro position other there _
      exact registered.isOpen position other there
  · rw [length]
    exact registered.cached
  · exact registered.failed.change found fun stillOpen => (isOpen stillOpen).1

/-- Clearing the registration of a closed subscription. -/
theorem Registered.clear (registered : Registered state) {id : SubscriberId}
    (closed : state.Closed id) : Registered (state.clearActiveIfCurrent id) := by
  unfold StreamState.clearActiveIfCurrent
  split
  · rename_i current
    refine ⟨registered.kept, registered.ids, rfl, nofun, registered.own, ?_, registered.cached, ?_⟩
    · intro handle subscription found isOpen
      obtain ⟨_, active⟩ := registered.isOpen handle subscription found isOpen
      rw [current, Option.some.injEq] at active
      subst active
      rw [closed subscription found] at isOpen
      cases isOpen
    · have failed := registered.failed
      unfold FailedKnown at failed ⊢
      split
      · rename_i here
        rw [show state.reader.place = _ from here] at failed
        exact failed
      · rename_i here
        rw [show state.reader.place = _ from here] at failed
        obtain ⟨active, cached, gone, _⟩ := failed
        exact ⟨active, cached, gone, nofun⟩
      all_goals trivial
  · exact registered

section Frames

variable (state : StreamState) (id : SubscriberId)

@[simp] theorem clearActiveIfCurrent_reader :
    (state.clearActiveIfCurrent id).reader = state.reader := by
  unfold StreamState.clearActiveIfCurrent
  split <;> rfl

@[simp] theorem clearActiveIfCurrent_subscriptions :
    (state.clearActiveIfCurrent id).subscriptions = state.subscriptions := by
  unfold StreamState.clearActiveIfCurrent
  split <;> rfl

@[simp] theorem clearActiveIfCurrent_streamDropped :
    (state.clearActiveIfCurrent id).streamDropped = state.streamDropped := by
  unfold StreamState.clearActiveIfCurrent
  split <;> rfl

@[simp] theorem clearActiveIfCurrent_log : (state.clearActiveIfCurrent id).log = state.log := by
  unfold StreamState.clearActiveIfCurrent
  split <;> rfl

@[simp] theorem clearActiveIfCurrent_source :
    (state.clearActiveIfCurrent id).source = state.source := by
  unfold StreamState.clearActiveIfCurrent
  split <;> rfl

@[simp] theorem clearActiveIfCurrent_events :
    (state.clearActiveIfCurrent id).shared.events = state.shared.events := by
  unfold StreamState.clearActiveIfCurrent
  split <;> rfl

@[simp] theorem clearActiveIfCurrent_terminalEvent :
    (state.clearActiveIfCurrent id).shared.terminalEvent = state.shared.terminalEvent := by
  unfold StreamState.clearActiveIfCurrent
  split <;> rfl

@[simp] theorem clearActiveIfCurrent_replaySealed :
    (state.clearActiveIfCurrent id).shared.replaySealed = state.shared.replaySealed := by
  unfold StreamState.clearActiveIfCurrent
  split <;> rfl

end Frames

theorem found_of_clear (found : state.subscriptions[handle]? = some subscription)
    (id : SubscriberId) :
    (state.clearActiveIfCurrent id).subscriptions[handle]? = some subscription := by
  rw [clearActiveIfCurrent_subscriptions]
  exact found

theorem clearActiveIfCurrent_cleared (state : StreamState) (id : SubscriberId) :
    (state.clearActiveIfCurrent id).shared.activeId ≠ some id := by
  unfold StreamState.clearActiveIfCurrent
  split
  · exact nofun
  · rename_i other
    exact other

/-- The subscription `try_subscribe` creates. -/
def StreamState.newSubscription (state : StreamState) (options : StreamConfig) :
    SingleSubscription where
  id := state.shared.nextSubscriberId
  replay := state.shared.replaySnapshot options
  terminalEvent := state.shared.terminalEvent
  channel := { capacity := options.maxBufferedChunks }

/-- The state behind a `try_subscribe` that succeeds. -/
def StreamState.attached (state : StreamState) (options : StreamConfig) : StreamState :=
  { state with
    shared := { state.shared with
      nextSubscriberId := state.shared.nextSubscriberId + 1
      activeId := some state.shared.nextSubscriberId }
    activeTx := some ⟨state.shared.nextSubscriberId, state.subscriptions.length⟩
    activeVersion := state.activeVersion + 1
    subscriptions := state.subscriptions ++ [state.newSubscription options] }

/-- `try_subscribe` succeeds exactly when no subscriber is registered. -/
theorem trySubscribe_eq (state : StreamState) (streamName : String) (options : StreamConfig) :
    state.trySubscribe streamName options =
      if state.shared.activeId.isSome then .error (.activeConsumer streamName)
      else .ok (state.attached options) := rfl

/-- What a successful `try_subscribe` does to the subscriptions there are: none of them is open. -/
theorem Registered.others_of_attached (registered : Registered state)
    (subscribed : state.trySubscribe streamName options = .ok next)
    (found : state.subscriptions[handle]? = some subscription) :
    next = state.attached options ∧ next.subscriptions[handle]? = some subscription ∧
      subscription.channel.receiverOpen ≠ true := by
  rw [trySubscribe_eq] at subscribed
  split at subscribed
  · cases subscribed
  · rename_i inactive
    cases subscribed
    have inside := (List.getElem?_eq_some_iff.mp found).1
    refine ⟨rfl, (List.getElem?_append_left inside).trans found, ?_⟩
    intro isOpen
    rw [(registered.isOpen _ _ found isOpen).2] at inactive
    exact inactive rfl

theorem StreamState.Closed.attached {other : Handle} (closed : state.Closed other)
    (inside : other < state.subscriptions.length) (options : StreamConfig) :
    (state.attached options).Closed other := by
  intro entry there
  refine closed entry ?_
  rw [← List.getElem?_append_left inside]
  exact there

theorem Registered.attached (registered : Registered state)
    (inactive : state.shared.activeId = none) (options : StreamConfig) :
    Registered (state.attached options) := by
  have id : state.shared.nextSubscriberId = state.subscriptions.length := registered.ids
  have length : (state.attached options).subscriptions.length = state.subscriptions.length + 1 := by
    simp [StreamState.attached]
  refine ⟨registered.kept, ?_, ?_, ?_, registered.own.concat id, ?_, ?_, ?_⟩
  · rw [length, ← id]
    rfl
  · simp [StreamState.attached, id]
  · intro active current
    have same : state.shared.nextSubscriberId = active := Option.some.inj current
    rw [length, ← same, id]
    exact Nat.lt_succ_self _
  · refine EachAt.concat ?_ ?_
    · intro _
      exact ⟨rfl, congrArg some id⟩
    · intro handle subscription found isOpen
      obtain ⟨_, active⟩ := registered.isOpen handle subscription found isOpen
      rw [inactive] at active
      cases active
  · intro active cached
    obtain ⟨equal, inside⟩ := registered.cached active cached
    rw [length]
    exact ⟨equal, Nat.lt_succ_of_lt inside⟩
  · have failed := registered.failed
    have place : (state.attached options).reader.place = state.reader.place := rfl
    rw [place]
    cases here : state.reader.place with
    | clearing purpose active =>
        rw [here] at failed
        obtain ⟨cached, closed⟩ := failed
        exact ⟨cached, closed.attached (registered.cached active cached).2 options⟩
    | refreshing purpose =>
        rw [here] at failed
        obtain ⟨active, cached, closed, _⟩ := failed
        obtain ⟨equal, inside⟩ := registered.cached active cached
        refine ⟨active, cached, closed.attached inside options, ?_⟩
        intro current
        have same : state.shared.nextSubscriberId = active.id := Option.some.inj current
        rw [id, equal] at same
        exact Nat.ne_of_gt inside same
    | _ => trivial

/-- The reader moves on, with its old copy of the active subscriber or with a fresh one. -/
theorem Registered.think (registered : Registered state) {before : Reader}
    (source : before.cachedActive = state.reader.cachedActive ∨
      before.cachedActive = state.activeTx)
    (subscriptions : next.subscriptions = state.subscriptions)
    (activeId : next.shared.activeId = state.shared.activeId)
    (nextId : next.shared.nextSubscriberId = state.shared.nextSubscriberId)
    (activeTx : next.activeTx = state.activeTx) (kept : next.streamDropped = state.streamDropped)
    (settles : before.Settles next.reader) : Registered next := by
  refine registered.frame subscriptions activeId nextId activeTx kept ?_ (.of_settled settles.2)
  rcases settles.1 with same | ⟨none, _⟩
  · rw [same]
    rcases source with old | fresh
    · exact .inl old
    · exact .inr (.inl fresh)
  · exact .inr (.inr none)

theorem observedIfLossy_eq (options : StreamConfig) (reader : Reader) :
    ∃ lag, StreamState.observedIfLossy options reader = { reader with lag } := by
  unfold StreamState.observedIfLossy
  split
  · exact ⟨reader.lag, rfl⟩
  · exact ⟨_, rfl⟩

theorem observedIfLossy_cachedActive (options : StreamConfig) (reader : Reader) :
    (StreamState.observedIfLossy options reader).cachedActive = reader.cachedActive := by
  unfold StreamState.observedIfLossy
  split
  · rfl
  · rfl

theorem observedIfLossy_place (options : StreamConfig) (reader : Reader) :
    (StreamState.observedIfLossy options reader).place = reader.place := by
  unfold StreamState.observedIfLossy
  split
  · rfl
  · rfl

/-- The answer of `read_buf` concerns the reader only. -/
theorem gotResult_eq (state : StreamState) (streamName : String) (options : StreamConfig)
    (result : ReadResult) :
    ∃ reader, state.gotResult streamName options result = { state with reader } := by
  unfold StreamState.gotResult
  split
  · exact ⟨_, rfl⟩
  · exact ⟨_, rfl⟩

theorem Registered.gotResult (registered : Registered state) (result : ReadResult) :
    Registered (state.gotResult streamName options result) := by
  unfold StreamState.gotResult
  split
  · exact registered.frame rfl rfl rfl rfl rfl (.inl rfl) (.of_settled not_false)
  · exact registered.think (.inl rfl) rfl rfl rfl rfl rfl
      (Reader.afterRead_settles _ options streamName result)

theorem Consumes.id_eq (consumes : Consumes subscription changed) :
    changed.id = subscription.id := by
  cases consumes <;> rfl

/-- A subscription never opens its receiver again. -/
theorem Consumes.isOpen (consumes : Consumes subscription changed)
    (isOpen : changed.channel.receiverOpen = true) :
    subscription.channel.receiverOpen = true ∧ changed.status = subscription.status := by
  cases consumes with
  | replay _ _ => exact ⟨isOpen, rfl⟩
  | terminal _ _ _ => cases isOpen
  | live _ _ _ wasOpen _ => exact ⟨wasOpen, rfl⟩
  | none _ => exact ⟨isOpen, rfl⟩
  | close _ => cases isOpen

/-- **Every move keeps the registration right.** -/
theorem Registered.move (registered : Registered state) (counted : state.shared.Counted)
    (nonZero : ∀ retention ∈ options.replayRetention, retention.NonZero)
    (move : Move streamName options state next) : Registered next := by
  cases move with
  | @read bytes here _ =>
      have grown : Registered { state with
          reader := { state.reader with buffer := state.reader.buffer ++ bytes }
          source := state.source ++ bytes } :=
        registered.frame rfl rfl rfl rfl rfl (.inl rfl) (by rw [here]; trivial)
      exact grown.gotResult .data
  | ended here _ => exact registered.gotResult _
  | changed here _ =>
      refine registered.frame rfl rfl rfl rfl rfl (.inr (.inl ?_)) ?_
      · exact observedIfLossy_cachedActive options state.refreshed
      · rw [observedIfLossy_place, show state.refreshed.place = .reading from here]
        trivial
  | refreshRead here =>
      refine registered.think (.inr ?_) rfl rfl rfl rfl rfl
        (Reader.afterRead_settles _ options streamName _)
      exact observedIfLossy_cachedActive options state.refreshed
  | record here pushed =>
      obtain ⟨_, _, same, effect⟩ := ReplayState.pushReplayEvent_recorded counted nonZero _
      cases same.symm.trans pushed
      exact registered.think (.inr rfl) rfl effect.activeId effect.nextSubscriberId rfl rfl
        (Reader.afterRecord_settles _ options _)
  | @sent purpose active subscription channel here cached found sent =>
      obtain ⟨isOpen, _, _⟩ := BoundedChannel.of_sent sent
      have changed : Registered (state.withSubscription active.sender
          { subscription with channel, sent := subscription.sent ++ [purpose.event] }) :=
        registered.change found rfl fun _ => ⟨isOpen, rfl⟩
      exact changed.think (.inl rfl) rfl rfl rfl rfl rfl (Reader.afterSent_settles _ options purpose)
  | full here cached found _ after =>
      exact registered.think (.inl rfl) rfl rfl rfl rfl rfl
        (Reader.afterFull_settles _ options after)
  | failed here cached found closed =>
      refine registered.frame rfl rfl rfl rfl rfl (.inl rfl) ⟨cached, ?_⟩
      intro subscription there
      rw [found, Option.some.injEq] at there
      exact there ▸ BoundedChannel.of_closed closed
  | @cleared purpose active here =>
      have failed := registered.failed
      rw [here] at failed
      obtain ⟨cached, closed⟩ := failed
      have equal := (registered.cached active cached).1
      rw [← equal] at closed
      have cleared := registered.clear closed
      refine cleared.frame rfl rfl rfl rfl rfl (.inl ?_) ⟨active, cached, ?_, ?_⟩
      · rw [clearActiveIfCurrent_reader]
      · intro subscription there
        rw [← equal] at there
        exact closed subscription (by rw [← there, clearActiveIfCurrent_subscriptions])
      · exact clearActiveIfCurrent_cleared state active.id
  | refreshed here =>
      exact registered.think (.inr rfl) rfl rfl rfl rfl rfl
        (Reader.afterRefresh_settles _ options _)
  | yielded here =>
      exact registered.think (.inl rfl) rfl rfl rfl rfl rfl
        (Reader.nextChunk_settles _ options)
  | attached subscribed =>
      rw [trySubscribe_eq] at subscribed
      split at subscribed
      · cases subscribed
      · rename_i inactive
        cases subscribed
        exact registered.attached (by simpa using inactive) options
  | refused _ => exact registered
  | consumed found consumes => exact registered.change found consumes.id_eq consumes.isOpen
  | @unregistered handle subscription found dropping =>
      have gone : subscription.channel.receiverOpen = false := by
        by_contra isOpen
        obtain ⟨inUse, _⟩ := registered.isOpen handle subscription found (by simpa using isOpen)
        rw [dropping] at inUse
        cases inUse
      have closed : state.Closed subscription.id := by
        intro other there
        rw [registered.own handle subscription found, found, Option.some.injEq] at there
        exact there ▸ gone
      have still : (state.clearActiveIfCurrent subscription.id).subscriptions[handle]? =
          some subscription := by
        rw [clearActiveIfCurrent_subscriptions]
        exact found
      refine (registered.clear closed).change still rfl ?_
      intro isOpen
      rw [gone] at isOpen
      cases isOpen
  | replaySealed emptied =>
      rw [ReplayState.sealReplay_eq counted options] at emptied
      cases emptied
      exact registered.frame rfl rfl rfl rfl rfl (.inl rfl) registered.failed

/-- Every move keeps the counters of the replay window right. -/
theorem Move.counted (move : Move streamName options state next) (counted : state.shared.Counted)
    (nonZero : ∀ retention ∈ options.replayRetention, retention.NonZero) :
    next.shared.Counted := by
  have same : ∀ {shared : ReplayState}, shared.events = state.shared.events →
      shared.chunkCount = state.shared.chunkCount → shared.byteCount = state.shared.byteCount →
        shared.Counted := by
    intro shared events chunkCount byteCount
    obtain ⟨chunks, chunkCount', byteCount'⟩ := counted
    refine ⟨?_, ?_, ?_⟩
    · rw [events]
      exact chunks
    · rw [chunkCount, events]
      exact chunkCount'
    · rw [byteCount, events]
      exact byteCount'
  have cleared : ∀ id, (state.clearActiveIfCurrent id).shared.Counted := by
    intro id
    unfold StreamState.clearActiveIfCurrent
    split
    · exact same rfl rfl rfl
    · exact counted
  cases move with
  | read _ _ =>
      obtain ⟨reader, same⟩ := gotResult_eq _ streamName options _
      rw [same]
      exact counted
  | ended _ _ =>
      obtain ⟨reader, same⟩ := gotResult_eq _ streamName options _
      rw [same]
      exact counted
  | record here pushed =>
      obtain ⟨_, _, outcome, effect⟩ := ReplayState.pushReplayEvent_recorded counted nonZero _
      cases outcome.symm.trans pushed
      exact effect.counted
  | cleared here => exact cleared _
  | attached subscribed =>
      rw [trySubscribe_eq] at subscribed
      split at subscribed
      · cases subscribed
      · cases subscribed
        exact same rfl rfl rfl
  | unregistered _ _ => exact cleared _
  | replaySealed emptied =>
      rw [ReplayState.sealReplay_eq counted options] at emptied
      cases emptied
      exact ReplayState.counted_withEvents _ nofun
  | _ => exact counted

end Steps

/-! ## Runs -/

section Runs

variable {streamName : String} {options : ValidConfig} {state next : StreamState}
  {action : Action}

theorem registered_init : Registered {} where
  kept := rfl
  ids := rfl
  active := rfl
  inside := nofun
  own := EachAt.nil
  isOpen := EachAt.nil
  cached := nofun
  failed := trivial

/-- The invariant of the runs that keep the stream. -/
structure Sound (state : StreamState) : Prop where
  counted : state.shared.Counted
  registered : Registered state

theorem Sound.step (sound : Sound state) (kept : StreamKept state action)
    (stepped : step streamName options.toStreamConfig state action = some next) : Sound next := by
  have move := step_move sound.registered.kept kept stepped
  exact ⟨move.counted sound.counted options.retention_nonZero,
    sound.registered.move sound.counted options.retention_nonZero move⟩

theorem reachable_sound
    (reachable : (streamMachine streamName options).ReachableBy StreamKept state) :
    Sound state := by
  apply reachable.invariant ⟨ReplayState.counted_new, registered_init⟩
  intro state next action sound kept stepped
  exact sound.step kept stepped

/-- There is at most one live subscriber, and it is registered. -/
structure SoleSubscriber (streamName : String) (options : StreamConfig) (state : StreamState) :
    Prop where
  agree : state.shared.activeId = state.activeTx.map ActiveSubscriber.id
  sender : ∀ active, state.activeTx = some active → ∃ subscription,
    state.subscriptions[active.sender]? = some subscription ∧ subscription.id = active.id
  single : ∀ (first second : Handle) one other, state.subscriptions[first]? = some one →
    state.subscriptions[second]? = some other → one.channel.receiverOpen = true →
      other.channel.receiverOpen = true → first = second
  remains : ∀ (handle : Handle) subscription, state.subscriptions[handle]? = some subscription →
    subscription.channel.receiverOpen = true → state.shared.activeId = some subscription.id
  succeeds : (∃ next, state.trySubscribe streamName options = .ok next) ↔
    state.shared.activeId = none
  refused : state.shared.activeId ≠ none →
    state.trySubscribe streamName options = .error (.activeConsumer streamName) ∧
      step streamName options state .subscribe = some state
  /-- A step that ends a registration ends that of a closed receiver. -/
  evicts : ∀ action next id, StreamKept state action →
    step streamName options state action = some next → state.shared.activeId = some id →
      next.shared.activeId ≠ some id → next.Closed id

/-- **At most one live subscriber, and never a wrong eviction.** -/
theorem sole_subscriber
    (reachable : (streamMachine streamName options).ReachableBy StreamKept state) :
    SoleSubscriber streamName options.toStreamConfig state := by
  have sound := reachable_sound reachable
  have registered := sound.registered
  constructor
  case agree =>
    rw [registered.active, Option.map_map]
    exact Option.map_id'.symm
  case sender =>
    intro active found
    obtain ⟨equal, inside, _⟩ := registered.activeTx_valid found
    refine ⟨_, List.getElem?_eq_getElem inside, ?_⟩
    rw [equal]
    exact registered.own _ _ (List.getElem?_eq_getElem inside)
  case single =>
    intro first second one other at_first at_second firstOpen secondOpen
    have active := (registered.isOpen first one at_first firstOpen).2
    rw [(registered.isOpen second other at_second secondOpen).2, Option.some.injEq] at active
    exact active.symm
  case remains =>
    intro handle subscription found isOpen
    rw [registered.own handle subscription found]
    exact (registered.isOpen handle subscription found isOpen).2
  case succeeds =>
    rw [trySubscribe_eq]
    constructor
    · rintro ⟨next, subscribed⟩
      split at subscribed
      · cases subscribed
      · rename_i inactive
        simpa using inactive
    · intro inactive
      rw [if_neg (by simp [inactive])]
      exact ⟨_, rfl⟩
  case refused =>
    intro active
    have refuses : state.trySubscribe streamName options.toStreamConfig =
        .error (.activeConsumer streamName) := by
      rw [trySubscribe_eq]
      exact if_pos (Option.isSome_iff_ne_none.mpr active)
    refine ⟨refuses, ?_⟩
    simp only [SingleSubscriber.step, registered.kept, Bool.false_eq_true, if_false, refuses]
  case evicts =>
    intro action next id kept stepped _ gone subscription found
    by_contra isOpen
    have later := (sound.step kept stepped).registered
    exact gone (later.isOpen id subscription found (by simpa using isOpen)).2

/-- A stream without replay, with room for one event. -/
def plainConfig : ValidConfig where
  readChunkSize := ⟨1⟩
  maxBufferedChunks := 1
  deliveryGuarantee := .reliableWithBackpressure
  replayRetention := none
  readChunkSize_pos := Nat.one_pos
  maxBufferedChunks_pos := Nat.one_pos
  retention_nonZero := nonZero_none

/-- A send to a dropped subscriber fails after the next one has attached. The reader clears the old
id, and the new subscriber stays. -/
theorem sole_subscriber_late_failure :
    ∃ state, (streamMachine "stdout" plainConfig).ReachableBy StreamKept state ∧
      state.shared.activeId = some 1 ∧
      state.reader.cachedActive = some ⟨0, 0⟩ ∧ state.reader.place =
        .refreshing (.deliver { event := .chunk ⟨[7], 0⟩, recorded := false }) ∧
      SoleSubscriber "stdout" plainConfig.toStreamConfig state := by
  obtain ⟨state, reachable, active, cached, place⟩ :=
    (streamMachine "stdout" plainConfig).exists_reachableBy StreamKept
      [.subscribe, .changed, .read [7], .reader, .closeReceiver 0, .clearRegistration 0, .subscribe,
        .reader, .reader]
      (fun state => state.shared.activeId = some 1 ∧
        state.reader.cachedActive = some ⟨0, 0⟩ ∧ state.reader.place =
          .refreshing (.deliver { event := .chunk ⟨[7], 0⟩, recorded := false }))
      (by decide +kernel)
  exact ⟨state, reachable, active, cached, place, sole_subscriber reachable⟩

end Runs

end TokioProcessTools.OutputStream.Backend.SingleSubscriber
