import TokioProcessTools.OutputStream.Backend.SingleSubscriber.Stream

/-!
# What a step of the single-subscriber stream can do

`step_move` says once what a step that keeps the stream does to the state. Every
invariant of the machine is proved by cases over the moves.
-/

set_option autoImplicit false

namespace TokioProcessTools.OutputStream.Backend.SingleSubscriber

open Foundation

/-- What a subscription does with itself. -/
inductive Consumes (subscription : SingleSubscription) : SingleSubscription → Prop where
  | replay {event : StreamEvent} {replay : List StreamEvent} :
      subscription.status = .inUse → subscription.replay = event :: replay →
      Consumes subscription
        { subscription with replay, received := subscription.received ++ [event] }
  /-- The stored terminal event, which also drops the receiver. -/
  | terminal {event : StreamEvent} : subscription.status = .inUse → subscription.replay = [] →
      subscription.terminalEvent = some event →
      Consumes subscription
        { subscription with
          terminalEvent := none
          channel := subscription.channel.dropReceiver
          received := subscription.received ++ [event] }
  | live {event : StreamEvent} {channel : BoundedChannel StreamEvent} :
      subscription.status = .inUse → subscription.replay = [] →
      subscription.terminalEvent = none → subscription.channel.receiverOpen = true →
      subscription.channel.recv = some (event, channel) →
      Consumes subscription
        { subscription with
          channel
          received := subscription.received ++ [event]
          live := subscription.live ++ [event] }
  | none : subscription.status = .inUse → Consumes subscription { subscription with ended := true }
  | close : subscription.status = .inUse →
      Consumes subscription
        { subscription with
          status := .dropping
          channel := subscription.channel.dropReceiver }

/-- What a step can do. -/
inductive Move (streamName : String) (options : StreamConfig) (state : StreamState) :
    StreamState → Prop where
  | read {bytes : List UInt8} : state.reader.place = .reading → bytes ≠ [] →
      Move streamName options state
        ({ state with
          reader := { state.reader with buffer := state.reader.buffer ++ bytes }
          source := state.source ++ bytes }.gotResult streamName options .data)
  | ended {result : ReadResult} : state.reader.place = .reading → result ≠ .data →
      Move streamName options state (state.gotResult streamName options result)
  | changed : state.reader.place = .reading → state.reader.cachedActive = none →
      Move streamName options state
        { state with reader := StreamState.observedIfLossy options state.refreshed }
  | refreshRead {result : ReadResult} : state.reader.place = .refreshRead result →
      Move streamName options state
        { state with
          reader := (StreamState.observedIfLossy options state.refreshed).afterRead streamName
            options result }
  | record {event : StreamEvent} {shared : ReplayState} {recorded : Bool} :
      state.reader.place = .record event →
      state.shared.pushReplayEvent event options.replayRetention = .ok (shared, recorded) →
      Move streamName options state
        { state with
          shared
          log := state.log ++ [event]
          reader := state.refreshed.afterRecord options { event, recorded } }
  | sent {purpose : Purpose} {active : ActiveSubscriber} {subscription : SingleSubscription}
      {channel : BoundedChannel StreamEvent} : state.reader.place = .sending purpose →
      state.reader.cachedActive = some active →
      state.subscriptions[active.sender]? = some subscription →
      subscription.channel.trySend purpose.event = .sent channel →
      Move streamName options state
        { state with
          subscriptions := state.subscriptions.set active.sender
            { subscription with channel, sent := subscription.sent ++ [purpose.event] }
          reader := state.reader.afterSent options purpose }
  | full {purpose : Purpose} {active : ActiveSubscriber} {subscription : SingleSubscription}
      {reader : Reader} : state.reader.place = .sending purpose →
      state.reader.cachedActive = some active →
      state.subscriptions[active.sender]? = some subscription →
      subscription.channel.trySend purpose.event = .full →
      state.reader.afterFull options purpose = some reader →
      Move streamName options state { state with reader }
  | failed {purpose : Purpose} {active : ActiveSubscriber} {subscription : SingleSubscription} :
      state.reader.place = .sending purpose → state.reader.cachedActive = some active →
      state.subscriptions[active.sender]? = some subscription →
      subscription.channel.trySend purpose.event = .closed →
      Move streamName options state
        { state with reader := { state.reader with place := .clearing purpose active } }
  | cleared {purpose : Purpose} {active : ActiveSubscriber} :
      state.reader.place = .clearing purpose active →
      Move streamName options state
        { state.clearActiveIfCurrent active.id with
          reader := { state.reader with place := .refreshing purpose } }
  | refreshed {purpose : Purpose} : state.reader.place = .refreshing purpose →
      Move streamName options state
        { state with reader := state.refreshed.afterRefresh options purpose }
  | yielded : state.reader.place = .yielding →
      Move streamName options state { state with reader := state.reader.nextChunk options }
  | attached {next : StreamState} : state.trySubscribe streamName options = .ok next →
      Move streamName options state next
  | refused {error : StreamConsumerError} :
      state.trySubscribe streamName options = .error error → Move streamName options state state
  | consumed {handle : Handle} {subscription changed : SingleSubscription} :
      state.subscriptions[handle]? = some subscription → Consumes subscription changed →
      Move streamName options state (state.withSubscription handle changed)
  | unregistered {handle : Handle} {subscription : SingleSubscription} :
      state.subscriptions[handle]? = some subscription → subscription.status = .dropping →
      Move streamName options state
        ((state.clearActiveIfCurrent subscription.id).withSubscription handle
          { subscription with status := .dropped })
  | replaySealed {shared : ReplayState} : state.shared.sealReplay options = .ok shared →
      Move streamName options state { state with shared }

section Moves

variable {streamName : String} {options : StreamConfig} {state next : StreamState}
  {action : Action}

theorem sendStep_move {purpose : Purpose} (here : state.reader.place = .sending purpose)
    (stepped : state.sendStep options purpose = some next) :
    Move streamName options state next := by
  simp only [StreamState.sendStep, Option.bind_eq_bind, Option.bind_eq_some_iff] at stepped
  obtain ⟨active, cached, subscription, found, stepped⟩ := stepped
  split at stepped
  · rename_i channel sent
    cases stepped
    exact .sent here cached found sent
  · rename_i full
    obtain ⟨reader, after, same⟩ := Option.bind_eq_some_iff.mp stepped
    cases same
    exact .full here cached found full after
  · rename_i closed
    cases stepped
    exact .failed here cached found closed

theorem readerStep_move (stepped : state.readerStep streamName options = some next) :
    Move streamName options state next := by
  unfold StreamState.readerStep at stepped
  split at stepped
  · rename_i result here
    cases stepped
    exact .refreshRead here
  · rename_i event here
    split at stepped
    · cases stepped
    · rename_i shared recorded pushed
      cases stepped
      exact .record here pushed
  · rename_i purpose here
    exact sendStep_move here stepped
  · rename_i purpose active here
    cases stepped
    exact .cleared here
  · rename_i purpose here
    cases stepped
    exact .refreshed here
  · rename_i here
    cases stepped
    exact .yielded here
  all_goals cases stepped

theorem nextEventStep_move {handle : Handle} {subscription : SingleSubscription}
    (found : state.subscriptions[handle]? = some subscription)
    (inUse : subscription.status = .inUse)
    (stepped : state.nextEventStep handle subscription = some next) :
    Move streamName options state next := by
  unfold StreamState.nextEventStep at stepped
  split at stepped
  · rename_i unread
    cases stepped
    exact .consumed found (.replay inUse unread)
  · rename_i read stored
    cases stepped
    exact .consumed found (.terminal inUse read stored)
  · rename_i read stored
    split at stepped
    · rename_i isOpen
      split at stepped
      · rename_i taken
        cases stepped
        exact .consumed found (.live inUse read stored isOpen taken)
      · split at stepped
        · cases stepped
          exact .consumed found (.none inUse)
        · cases stepped
    · cases stepped
      exact .consumed found (.none inUse)

/-- **Every step that keeps the stream is a move.** -/
theorem step_move (dropped : state.streamDropped = false) (kept : StreamKept state action)
    (stepped : step streamName options state action = some next) :
    Move streamName options state next := by
  cases action with
  | read bytes =>
      simp only [step, Option.ite_none_right_eq_some, Option.some.injEq] at stepped
      obtain ⟨⟨here, nonempty⟩, rfl⟩ := stepped
      exact .read here nonempty
  | readEof =>
      simp only [step, Option.ite_none_right_eq_some, Option.some.injEq] at stepped
      obtain ⟨here, rfl⟩ := stepped
      exact .ended here nofun
  | readError source =>
      simp only [step, Option.ite_none_right_eq_some, Option.some.injEq] at stepped
      obtain ⟨here, rfl⟩ := stepped
      exact .ended here nofun
  | changed =>
      simp only [step, Option.ite_none_right_eq_some, Option.some.injEq] at stepped
      obtain ⟨⟨here, inactive, _⟩, rfl⟩ := stepped
      exact .changed here inactive
  | reader => exact readerStep_move stepped
  | subscribe =>
      simp only [step, dropped, Bool.false_eq_true, if_false] at stepped
      split at stepped
      · rename_i attached
        cases stepped
        exact .attached attached
      · rename_i refused
        cases stepped
        exact .refused refused
  | nextEvent handle =>
      simp only [step, Option.bind_eq_bind, Option.bind_eq_some_iff,
        Option.ite_none_right_eq_some] at stepped
      obtain ⟨subscription, found, inUse, stepped⟩ := stepped
      exact nextEventStep_move found inUse stepped
  | closeReceiver handle =>
      simp only [step, Option.bind_eq_bind, Option.bind_eq_some_iff,
        Option.ite_none_right_eq_some, Option.some.injEq] at stepped
      obtain ⟨subscription, found, inUse, rfl⟩ := stepped
      exact .consumed found (.close inUse)
  | clearRegistration handle =>
      simp only [step, Option.bind_eq_bind, Option.bind_eq_some_iff,
        Option.ite_none_right_eq_some, Option.some.injEq] at stepped
      obtain ⟨subscription, found, dropping, rfl⟩ := stepped
      exact .unregistered found dropping
  | sealReplay =>
      simp only [step, Option.ite_none_right_eq_some] at stepped
      obtain ⟨_, stepped⟩ := stepped
      split at stepped
      · cases stepped
      · rename_i emptied
        cases stepped
        exact .replaySealed emptied
  | dropStream => exact absurd rfl kept
  | abortReader =>
      simp only [step, dropped, Bool.false_eq_true, if_false] at stepped
      cases stepped

end Moves

end TokioProcessTools.OutputStream.Backend.SingleSubscriber
