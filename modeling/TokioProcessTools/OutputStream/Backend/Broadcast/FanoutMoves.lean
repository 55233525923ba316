import TokioProcessTools.OutputStream.Backend.Broadcast.Fanout

/-!
# What a step of the fanout path can do

`fanoutStep_move` says once what each action does, with the place of the reader
and the subscription it concerns. The invariants of the machine are proved by
cases over the moves.
-/

set_option autoImplicit false

namespace TokioProcessTools.OutputStream.Backend.Broadcast

/-- What an action does. -/
inductive FanoutMove (streamName : String) (options : StreamConfig) (state : FanoutState) :
    FanoutAction → FanoutState → Prop where
  | read {bytes : List UInt8} (here : state.reader = .reading) :
      FanoutMove streamName options state (.read bytes)
        (state.continueWith options.readChunkSize.bytes bytes)
  | readEof (here : state.reader = .reading) :
      FanoutMove streamName options state .readEof { state with reader := .appending .eof [] }
  | readError {source : IoError} (here : state.reader = .reading) :
      FanoutMove streamName options state (.readError source)
        { state with reader := .appending (.readError ⟨streamName, source⟩) [] }
  | appended {event : StreamEvent} {buffer : List UInt8} {order : List (SubscriberId × Handle)}
      {next : FanoutState} (here : state.reader = .appending event buffer)
      (isOpen : state.shared.closed = false)
      (appended : state.appendStep options event buffer order = some next) :
      FanoutMove streamName options state (.append order) next
  /-- The stream is gone, and the event is not appended. -/
  | passedOver {event : StreamEvent} {buffer : List UInt8} {order : List (SubscriberId × Handle)}
      (here : state.reader = .appending event buffer) (closed : state.shared.closed = true) :
      FanoutMove streamName options state (.append order)
        (state.afterAppend options.readChunkSize.bytes event buffer)
  | delivered {event : IndexedEvent} {id : SubscriberId} {handle : Handle}
      {targets : List (SubscriberId × Handle)} {stale : List SubscriberId} {buffer : List UInt8}
      {subscription : SharedSubscription} {receiver : LiveReceiver}
      (here : state.reader = .sending event ((id, handle) :: targets) stale buffer)
      (found : state.subscriptions[handle]? = some subscription)
      (sent : subscription.liveReceiver.deliver options.deliveryGuarantee event =
        .delivered receiver) :
      FanoutMove streamName options state .deliver
        { state with
          subscriptions := state.subscriptions.set handle
            { subscription with liveReceiver := receiver }
          reader := .sending event targets stale buffer }
  | missed {event : IndexedEvent} {id : SubscriberId} {handle : Handle}
      {targets : List (SubscriberId × Handle)} {stale : List SubscriberId} {buffer : List UInt8}
      {subscription : SharedSubscription}
      (here : state.reader = .sending event ((id, handle) :: targets) stale buffer)
      (found : state.subscriptions[handle]? = some subscription)
      (refused : subscription.liveReceiver.deliver options.deliveryGuarantee event = .stale) :
      FanoutMove streamName options state .deliver
        { state with reader := .sending event targets (stale ++ [id]) buffer }
  /-- Every send was made, and some subscribers are stale. -/
  | sentStale {event : IndexedEvent} {stale : List SubscriberId} {buffer : List UInt8}
      (here : state.reader = .sending event [] stale buffer)
      (running : event.event.isTerminal = false) :
      FanoutMove streamName options state .deliver { state with reader := .pruning stale buffer }
  | sentAll {event : IndexedEvent} {stale : List SubscriberId} {buffer : List UInt8}
      (here : state.reader = .sending event [] stale buffer) :
      FanoutMove streamName options state .deliver
        (state.afterAppend options.readChunkSize.bytes event.event buffer)
  | pruned {stale : List SubscriberId} {buffer : List UInt8}
      (here : state.reader = .pruning stale buffer) :
      FanoutMove streamName options state .prune
        ({ state with shared := stale.foldl BroadcastState.removeSubscriber state.shared }.continueWith
          options.readChunkSize.bytes buffer)
  | subscribed (kept : state.streamDropped = false) :
      FanoutMove streamName options state .subscribe (state.subscribeStep options)
  | replayed {handle : Handle} {subscription : SharedSubscription} {event : IndexedEvent}
      {replay : List IndexedEvent} (found : state.subscriptions[handle]? = some subscription)
      (inUse : subscription.status = .inUse) (unread : subscription.replay = event :: replay) :
      FanoutMove streamName options state (.recv handle)
        (state.yieldStep handle { subscription with replay } event)
  /-- An event from before the live start. -/
  | skipped {handle : Handle} {subscription : SharedSubscription} {event : IndexedEvent}
      {liveReceiver : LiveReceiver} (found : state.subscriptions[handle]? = some subscription)
      (inUse : subscription.status = .inUse) (read : subscription.replay = [])
      (took : subscription.liveReceiver.take = some (event, liveReceiver))
      (early : event.seq < subscription.liveStartSeq) :
      FanoutMove streamName options state (.recv handle)
        { state with
          subscriptions := state.subscriptions.set handle { subscription with liveReceiver } }
  | taken {handle : Handle} {subscription : SharedSubscription} {event : IndexedEvent}
      {liveReceiver : LiveReceiver} (found : state.subscriptions[handle]? = some subscription)
      (inUse : subscription.status = .inUse) (read : subscription.replay = [])
      (took : subscription.liveReceiver.take = some (event, liveReceiver)) :
      FanoutMove streamName options state (.recv handle)
        (state.yieldStep handle { subscription with liveReceiver } event)
  | ended {handle : Handle} {subscription : SharedSubscription}
      (found : state.subscriptions[handle]? = some subscription)
      (inUse : subscription.status = .inUse) (read : subscription.replay = [])
      (nothing : subscription.liveReceiver.take = none)
      (ends : subscription.liveReceiver.endsWith (state.sendersGone handle) = true) :
      FanoutMove streamName options state (.recv handle)
        { state with
          subscriptions := state.subscriptions.set handle { subscription with ended := true } }
  | left {handle : Handle} {subscription : SharedSubscription}
      (found : state.subscriptions[handle]? = some subscription) :
      FanoutMove streamName options state (.leaveRegistry handle)
        (state.leaveRegistryStep handle subscription)
  | receiverDropped {handle : Handle} {subscription : SharedSubscription}
      (found : state.subscriptions[handle]? = some subscription) :
      FanoutMove streamName options state (.dropReceiver handle)
        { state with
          subscriptions := state.subscriptions.set handle { subscription with
            status := .dropped
            liveReceiver := subscription.liveReceiver.drop } }
  | replaySealed :
      FanoutMove streamName options state .sealReplay
        { state with shared := state.shared.sealReplay }
  | streamDropped (kept : state.streamDropped = false) :
      FanoutMove streamName options state .dropStream state.closeForDrop
  | aborted (dropped : state.streamDropped = true) :
      FanoutMove streamName options state .abortReader { state with reader := .aborted }

section Moves

variable {streamName : String} {options : StreamConfig} {state next : FanoutState}
  {action : FanoutAction}

theorem appendStep_move {event : StreamEvent} {buffer : List UInt8}
    {order : List (SubscriberId × Handle)} (here : state.reader = .appending event buffer)
    (stepped : state.appendStep options event buffer order = some next) :
    FanoutMove streamName options state (.append order) next := by
  cases closed : state.shared.closed with
  | false => exact .appended here closed stepped
  | true =>
      simp only [FanoutState.appendStep, closed, if_true, Option.some.injEq] at stepped
      subst stepped
      exact .passedOver here closed

theorem deliverStep_move (stepped : state.deliverStep options = some next) :
    FanoutMove streamName options state .deliver next := by
  unfold FanoutState.deliverStep at stepped
  split at stepped
  · rename_i event stale buffer here
    split at stepped
    · rename_i outdated
      cases stepped
      exact .sentStale here outdated.1
    · cases stepped
      exact .sentAll here
  · rename_i event id handle targets stale buffer here
    obtain ⟨subscription, found, stepped⟩ := Option.bind_eq_some_iff.mp stepped
    split at stepped
    · rename_i receiver sent
      cases stepped
      exact .delivered here found sent
    · rename_i refused
      cases stepped
      exact .missed here found refused
    · cases stepped
  · cases stepped

theorem recvStep_move {handle : Handle} {subscription : SharedSubscription}
    (found : state.subscriptions[handle]? = some subscription)
    (inUse : subscription.status = .inUse)
    (stepped : state.recvStep handle subscription = some next) :
    FanoutMove streamName options state (.recv handle) next := by
  unfold FanoutState.recvStep at stepped
  split at stepped
  · rename_i event replay unread
    cases stepped
    exact .replayed found inUse unread
  · rename_i read
    split at stepped
    · rename_i event liveReceiver took
      dsimp only at stepped
      split at stepped
      · rename_i early
        cases stepped
        exact .skipped found inUse read took early
      · cases stepped
        exact .taken found inUse read took
    · rename_i nothing
      split at stepped
      · rename_i ends
        cases stepped
        exact .ended found inUse read nothing ends
      · cases stepped

theorem abortReader_move (stepped : fanoutStep streamName options state .abortReader = some next) :
    FanoutMove streamName options state .abortReader next := by
  simp only [fanoutStep] at stepped
  split at stepped
  · rename_i dropped
    split at stepped
    · cases stepped
      exact .aborted dropped
    · split at stepped
      · cases stepped
        exact .aborted dropped
      · cases stepped
    all_goals cases stepped
  · cases stepped

/-- **Every step is a move.** -/
theorem fanoutStep_move (stepped : fanoutStep streamName options state action = some next) :
    FanoutMove streamName options state action next := by
  cases action with
  | read bytes =>
      simp only [fanoutStep, Option.ite_none_right_eq_some, Option.some.injEq] at stepped
      obtain ⟨⟨here, _⟩, rfl⟩ := stepped
      exact .read here
  | readEof =>
      simp only [fanoutStep, Option.ite_none_right_eq_some, Option.some.injEq] at stepped
      obtain ⟨here, rfl⟩ := stepped
      exact .readEof here
  | readError source =>
      simp only [fanoutStep, Option.ite_none_right_eq_some, Option.some.injEq] at stepped
      obtain ⟨here, rfl⟩ := stepped
      exact .readError here
  | append order =>
      simp only [fanoutStep] at stepped
      split at stepped
      · rename_i event buffer here
        exact appendStep_move here stepped
      · cases stepped
  | deliver => exact deliverStep_move stepped
  | prune =>
      simp only [fanoutStep, FanoutState.pruneStep] at stepped
      split at stepped
      · rename_i stale buffer here
        cases stepped
        exact .pruned here
      · cases stepped
  | subscribe =>
      simp only [fanoutStep, Option.ite_none_left_eq_some, Option.some.injEq] at stepped
      obtain ⟨kept, rfl⟩ := stepped
      exact .subscribed (by simpa using kept)
  | recv handle =>
      simp only [fanoutStep, Option.bind_eq_bind, Option.bind_eq_some_iff,
        Option.ite_none_right_eq_some] at stepped
      obtain ⟨subscription, found, inUse, stepped⟩ := stepped
      exact recvStep_move found inUse stepped
  | leaveRegistry handle =>
      simp only [fanoutStep, Option.bind_eq_bind, Option.bind_eq_some_iff,
        Option.ite_none_right_eq_some, Option.some.injEq] at stepped
      obtain ⟨subscription, found, _, rfl⟩ := stepped
      exact .left found
  | dropReceiver handle =>
      simp only [fanoutStep, Option.bind_eq_bind, Option.bind_eq_some_iff,
        Option.ite_none_right_eq_some, Option.some.injEq] at stepped
      obtain ⟨subscription, found, _, rfl⟩ := stepped
      exact .receiverDropped found
  | sealReplay =>
      simp only [fanoutStep, Option.ite_none_right_eq_some, Option.some.injEq] at stepped
      obtain ⟨_, rfl⟩ := stepped
      exact .replaySealed
  | dropStream =>
      simp only [fanoutStep, Option.ite_none_left_eq_some, Option.some.injEq] at stepped
      obtain ⟨kept, rfl⟩ := stepped
      exact .streamDropped (by simpa using kept)
  | abortReader => exact abortReader_move stepped

end Moves

end TokioProcessTools.OutputStream.Backend.Broadcast
