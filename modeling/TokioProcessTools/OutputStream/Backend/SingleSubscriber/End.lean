import TokioProcessTools.OutputStream.Backend.SingleSubscriber.Registration

/-!
# How a subscription of the single-subscriber stream ends

Dropping the stream clears the registration of the active subscriber and aborts
the reader. The sender in the watch channel is gone then, and the reader's copy
goes with its next refresh. A subscription that waits for its terminal event is
answered `None` once both are gone.

A run spares a subscription in use when the stream is dropped only once a
terminal event was recorded, and the reader is aborted only once that event has
reached the subscription. In such a run it ends only behind the terminal event
(`endsAfterTerminal`). Until the event is recorded the subscription is the active
one. From there on the reader keeps its sender until the event is in the channel.
-/

set_option autoImplicit false

namespace TokioProcessTools.OutputStream.Backend.SingleSubscriber

open Foundation

/-! ## Statement -/

/-- A terminal event has reached the subscription. -/
def SingleSubscription.HasTerminal (subscription : SingleSubscription) : Prop :=
  ∃ event ∈ subscription.received ++ subscription.terminalEvent.toList ++ subscription.channel.queue,
    event.isTerminal = true

/-- While the subscription is in use, the stream is dropped only behind the terminal event, and the
reader is aborted only once the event has reached the subscription. -/
def Spares (handle : Handle) (state : StreamState) (action : Action) : Prop :=
  ∀ subscription, state.subscriptions[handle]? = some subscription →
    subscription.status = .inUse →
      (action = .dropStream → state.shared.terminalEvent.isSome = true) ∧
        (action = .abortReader → subscription.HasTerminal)

instance (subscription : SingleSubscription) : Decidable subscription.HasTerminal :=
  inferInstanceAs (Decidable (∃ event ∈ _, _))

instance (handle : Handle) (state : StreamState) : DecidablePred (Spares handle state) :=
  fun action => inferInstanceAs (Decidable (∀ subscription ∈ state.subscriptions[handle]?,
    subscription.status = .inUse →
      (action = .dropStream → state.shared.terminalEvent.isSome = true) ∧
        (action = .abortReader → subscription.HasTerminal)))

/-- The subscription has answered `None` only behind a terminal event. -/
def EndsAfterTerminal (handle : Handle) (state : StreamState) : Prop :=
  ∀ subscription, state.subscriptions[handle]? = some subscription → subscription.ended = true →
    ∃ event ∈ subscription.received, event.isTerminal = true

/-! ## The reader behind the terminal event -/

/-- The reader is about to send the terminal event to the handle. -/
structure Reader.Ends (reader : Reader) (handle : Handle) : Prop where
  place : ∃ attempt, attempt.event.isTerminal = true ∧
    (reader.place = .sending (.flush attempt) ∨ reader.place = .sending (.deliver attempt))
  cached : reader.cachedActive.map ActiveSubscriber.sender = some handle

section Reader

variable {reader : Reader} {handle : Handle} {attempt : Attempt} {place : Place}

theorem Reader.Ends.not_at (ends : reader.Ends handle) (here : reader.place = place)
    (other : ∀ purpose, place ≠ .sending purpose) : False := by
  obtain ⟨attempt, _, flush | deliver⟩ := ends.place
  · exact other _ (here.symm.trans flush)
  · exact other _ (here.symm.trans deliver)

theorem startDeliver_ends (options : StreamConfig) (terminal : attempt.event.isTerminal = true)
    (cached : reader.cachedActive.map ActiveSubscriber.sender = some handle) :
    (reader.startDeliver options attempt).Ends handle := by
  unfold Reader.startDeliver
  split
  · rename_i absent
    rw [absent] at cached
    cases cached
  · exact ⟨⟨attempt, terminal, .inr rfl⟩, cached⟩

theorem startFlush_ends (options : StreamConfig) (terminal : attempt.event.isTerminal = true)
    (cached : reader.cachedActive.map ActiveSubscriber.sender = some handle) :
    (reader.startFlush options attempt).Ends handle := by
  unfold Reader.startFlush
  split
  · split
    · rename_i absent
      rw [absent] at cached
      cases cached
    · exact ⟨⟨attempt, terminal, .inl rfl⟩, cached⟩
  · exact startDeliver_ends options terminal cached

theorem afterRecord_ends (options : StreamConfig) (terminal : attempt.event.isTerminal = true)
    (cached : reader.cachedActive.map ActiveSubscriber.sender = some handle) :
    (reader.afterRecord options attempt).Ends handle := by
  unfold Reader.afterRecord
  split
  · exact startDeliver_ends options terminal cached
  · rw [if_pos terminal]
    apply startFlush_ends options terminal
    exact cached

end Reader

/-! ## The invariant -/

/-- The subscription has its terminal event, or is open and will be sent it: the event is not yet
recorded, or the reader is about to send it. -/
structure Awaits (state : StreamState) (handle : Handle) (subscription : SingleSubscription) :
    Prop where
  closed : subscription.channel.receiverOpen = false →
    ∃ event ∈ subscription.received, event.isTerminal = true
  ahead : subscription.HasTerminal ∨ subscription.channel.receiverOpen = true ∧
    (state.streamDropped = false ∧ state.shared.terminalEvent = none ∨ state.reader.Ends handle)

/-- The invariant of the runs that spare the subscription. -/
structure Sparing (handle : Handle) (state : StreamState) : Prop where
  sound : state.streamDropped = false → Sound state
  stored : state.streamDropped = false → ∀ event, state.shared.terminalEvent = some event →
    event.isTerminal = true
  awaits : ∀ subscription, state.subscriptions[handle]? = some subscription →
    subscription.status = .inUse → Awaits state handle subscription ∧
      ∀ event ∈ subscription.terminalEvent, event.isTerminal = true
  ends : EndsAfterTerminal handle state

section Steps

variable {streamName : String} {options : StreamConfig} {state next : StreamState}
  {action : Action} {handle : Handle} {subscription changed : SingleSubscription}

theorem SingleSubscription.HasTerminal.of_received
    (received : ∃ event ∈ subscription.received, event.isTerminal = true) :
    subscription.HasTerminal := by
  obtain ⟨event, member, terminal⟩ := received
  exact ⟨event, by simp [member], terminal⟩

/-- The subscription sees a step that keeps the terminal event, and keeps the reader's intention
as far as the subscription is open. -/
theorem Awaits.frame (awaits : Awaits state handle subscription)
    (dropped : next.streamDropped = state.streamDropped)
    (terminal : state.streamDropped = false →
      next.shared.terminalEvent = state.shared.terminalEvent)
    (ends : subscription.channel.receiverOpen = true → state.reader.Ends handle →
      next.reader.Ends handle) : Awaits next handle subscription where
  closed := awaits.closed
  ahead := by
    rcases awaits.ahead with has | ⟨isOpen, ⟨kept, running⟩ | ending⟩
    · exact .inl has
    · exact .inr ⟨isOpen, .inl ⟨dropped.trans kept, (terminal kept).trans running⟩⟩
    · exact .inr ⟨isOpen, .inr (ends isOpen ending)⟩

/-- A step that changes no subscription. -/
theorem Sparing.keep (sparing : Sparing handle state)
    (sound : state.streamDropped = false → Sound next)
    (subscriptions : next.subscriptions = state.subscriptions)
    (dropped : next.streamDropped = state.streamDropped)
    (terminal : state.streamDropped = false →
      next.shared.terminalEvent = state.shared.terminalEvent)
    (ends : ∀ subscription, state.subscriptions[handle]? = some subscription →
      subscription.channel.receiverOpen = true → state.reader.Ends handle →
        next.reader.Ends handle) : Sparing handle next where
  sound := fun kept => sound (dropped ▸ kept)
  stored := by
    intro kept
    have kept : state.streamDropped = false := dropped ▸ kept
    rw [terminal kept]
    exact sparing.stored kept
  awaits := by
    rw [subscriptions]
    intro subscription found inUse
    obtain ⟨awaits, snapshot⟩ := sparing.awaits subscription found inUse
    exact ⟨awaits.frame dropped terminal (ends subscription found), snapshot⟩
  ends := by
    unfold EndsAfterTerminal
    rw [subscriptions]
    exact sparing.ends

/-- The reader is elsewhere, so it has nothing to send yet. -/
theorem Sparing.think (sparing : Sparing handle state)
    (sound : state.streamDropped = false → Sound next)
    (subscriptions : next.subscriptions = state.subscriptions)
    (dropped : next.streamDropped = state.streamDropped)
    (terminal : state.streamDropped = false →
      next.shared.terminalEvent = state.shared.terminalEvent) {place : Place}
    (here : state.reader.place = place) (other : ∀ purpose, place ≠ .sending purpose) :
    Sparing handle next :=
  sparing.keep sound subscriptions dropped terminal fun _ _ _ ending => (ending.not_at here other).elim

/-! ## Receiving -/

/-- What `next_event` does to the subscription. -/
inductive Takes (state : StreamState) (handle : Handle) (subscription : SingleSubscription) :
    SingleSubscription → Prop where
  | replayed {event : StreamEvent} {replay : List StreamEvent} :
      Takes state handle subscription
        { subscription with replay, received := subscription.received ++ [event] }
  | stored {event : StreamEvent} (present : subscription.terminalEvent = some event) :
      Takes state handle subscription
        { subscription with
          terminalEvent := none
          channel := subscription.channel.dropReceiver
          received := subscription.received ++ [event] }
  | live {event : StreamEvent} {channel : BoundedChannel StreamEvent}
      (taken : subscription.channel.recv = some (event, channel)) :
      Takes state handle subscription
        { subscription with
          channel
          received := subscription.received ++ [event]
          live := subscription.live ++ [event] }
  | ended (absent : subscription.terminalEvent = none)
      (nothing : subscription.channel.receiverOpen = true →
        subscription.channel.queue = [] ∧ state.sendersGone handle = true) :
      Takes state handle subscription { subscription with ended := true }

theorem nextEventStep_takes (stepped : state.nextEventStep handle subscription = some next) :
    ∃ changed, next = state.withSubscription handle changed ∧
      Takes state handle subscription changed := by
  unfold StreamState.nextEventStep at stepped
  split at stepped
  · cases stepped
    exact ⟨_, rfl, .replayed⟩
  · rename_i read present
    cases stepped
    exact ⟨_, rfl, .stored present⟩
  · rename_i read absent
    split at stepped
    · split at stepped
      · rename_i taken
        cases stepped
        exact ⟨_, rfl, .live taken⟩
      · rename_i nothing
        split at stepped
        · rename_i gone
          cases stepped
          refine ⟨_, rfl, .ended absent fun _ => ⟨?_, gone⟩⟩
          cases queue : subscription.channel.queue with
          | nil => rfl
          | cons first rest => simp [BoundedChannel.recv, queue] at nothing
        · cases stepped
    · rename_i shut
      cases stepped
      exact ⟨_, rfl, .ended absent fun isOpen => absurd isOpen shut⟩

/-- What a subscription was sent stays ahead of it until it is yielded. -/
theorem Takes.awaits (takes : Takes state handle subscription changed)
    (awaits : Awaits state handle subscription)
    (snapshot : ∀ event ∈ subscription.terminalEvent, event.isTerminal = true) :
    Awaits state handle changed := by
  have later : ∀ event, (∃ earlier ∈ subscription.received, earlier.isTerminal = true) →
      ∃ earlier ∈ subscription.received ++ [event], earlier.isTerminal = true := by
    rintro event ⟨earlier, member, terminal⟩
    exact ⟨earlier, List.mem_append_left _ member, terminal⟩
  cases takes with
  | @replayed event replay =>
      refine ⟨fun shut => later event (awaits.closed shut), awaits.ahead.imp_left ?_⟩
      rintro ⟨earlier, member, terminal⟩
      refine ⟨earlier, ?_, terminal⟩
      simp only [List.mem_append] at member ⊢
      tauto
  | @stored event present =>
      have yielded : ∃ earlier ∈ subscription.received ++ [event], earlier.isTerminal = true :=
        ⟨event, by simp, snapshot event present⟩
      exact ⟨fun _ => yielded, .inl (.of_received yielded)⟩
  | @live event channel taken =>
      obtain ⟨rest, queue, rfl⟩ := BoundedChannel.of_recv taken
      refine ⟨fun shut => later event (awaits.closed shut), awaits.ahead.imp_left ?_⟩
      rintro ⟨earlier, member, terminal⟩
      refine ⟨earlier, ?_, terminal⟩
      simp only [queue, List.mem_append, List.mem_cons, List.not_mem_nil, or_false] at member ⊢
      tauto
  | ended absent nothing => exact ⟨awaits.closed, awaits.ahead⟩

/-- **`None` is answered only behind a terminal event.** An open subscription of a running stream is
the active one, and one that is about to be sent the terminal event has a sender in the reader. -/
theorem Sparing.yielded_of_none (sparing : Sparing handle state)
    (found : state.subscriptions[handle]? = some subscription)
    (inUse : subscription.status = .inUse) (absent : subscription.terminalEvent = none)
    (nothing : subscription.channel.receiverOpen = true →
      subscription.channel.queue = [] ∧ state.sendersGone handle = true) :
    ∃ event ∈ subscription.received, event.isTerminal = true := by
  obtain ⟨awaits, _⟩ := sparing.awaits subscription found inUse
  cases isOpen : subscription.channel.receiverOpen with
  | false => exact awaits.closed isOpen
  | true =>
      obtain ⟨queue, gone⟩ := nothing isOpen
      simp only [StreamState.sendersGone, Bool.and_eq_true, decide_eq_true_eq] at gone
      rcases awaits.ahead with ⟨event, member, terminal⟩ | ⟨_, ⟨kept, _⟩ | ending⟩
      · rw [absent, queue, Option.toList_none, List.append_nil, List.append_nil] at member
        exact ⟨event, member, terminal⟩
      · have active := (sparing.sound kept).registered.activeTx_of_open found isOpen
        rw [active] at gone
        exact absurd rfl gone.1
      · exact absurd ending.cached gone.2

/-- One subscription is changed, and the rest of the state as far as it matters is not. -/
theorem Sparing.change (sparing : Sparing handle state) {other : Handle}
    (sound : state.streamDropped = false → Sound next)
    (set : next.subscriptions = state.subscriptions.set other changed)
    (dropped : next.streamDropped = state.streamDropped)
    (terminal : state.streamDropped = false →
      next.shared.terminalEvent = state.shared.terminalEvent)
    (reader : next.reader = state.reader)
    (here : handle = other → (changed.status = .inUse → Awaits state handle changed ∧
        ∀ event ∈ changed.terminalEvent, event.isTerminal = true) ∧
      (changed.ended = true → ∃ event ∈ changed.received, event.isTerminal = true)) :
    Sparing handle next where
  sound := fun kept => sound (dropped ▸ kept)
  stored := by
    intro kept
    have kept : state.streamDropped = false := dropped ▸ kept
    rw [terminal kept]
    exact sparing.stored kept
  awaits := by
    rw [set]
    intro entry found inUse
    have same : ∀ {subscription}, Awaits state handle subscription → Awaits next handle subscription :=
      fun awaits => awaits.frame dropped terminal fun _ ending => reader ▸ ending
    rcases getElem?_set_cases found with ⟨equal, rfl⟩ | ⟨_, old⟩
    · obtain ⟨awaits, snapshot⟩ := (here equal).1 inUse
      exact ⟨same awaits, snapshot⟩
    · obtain ⟨awaits, snapshot⟩ := sparing.awaits entry old inUse
      exact ⟨same awaits, snapshot⟩
  ends := by
    unfold EndsAfterTerminal
    rw [set]
    intro entry found ended
    rcases getElem?_set_cases found with ⟨equal, rfl⟩ | ⟨_, old⟩
    · exact (here equal).2 ended
    · exact sparing.ends entry old ended

theorem Sparing.nextEvent (sparing : Sparing handle state) {other : Handle}
    (sound : state.streamDropped = false → Sound next)
    (found : state.subscriptions[other]? = some subscription)
    (inUse : subscription.status = .inUse)
    (stepped : state.nextEventStep other subscription = some next) : Sparing handle next := by
  obtain ⟨changed, rfl, takes⟩ := nextEventStep_takes stepped
  refine sparing.change sound rfl rfl (fun _ => rfl) rfl ?_
  rintro rfl
  obtain ⟨awaits, snapshot⟩ := sparing.awaits subscription found inUse
  have before := sparing.ends subscription found
  refine ⟨fun _ => ⟨takes.awaits awaits snapshot, ?_⟩, fun ended => ?_⟩
  · cases takes with
    | stored present => exact fun _ impossible => by cases impossible
    | _ => exact snapshot
  · cases takes with
    | ended absent nothing =>
        exact @Sparing.yielded_of_none _ _ subscription sparing found inUse absent nothing
    | _ =>
        obtain ⟨event, member, terminal⟩ := before ended
        exact ⟨event, List.mem_append_left _ member, terminal⟩

/-! ## Sending -/

/-- The reader sends the event of its loop to the subscription it has. -/
theorem Sparing.sent (sparing : Sparing handle state) {purpose : Purpose} {active : ActiveSubscriber}
    {channel : BoundedChannel StreamEvent} (here : state.reader.place = .sending purpose)
    (cached : state.reader.cachedActive = some active)
    (found : state.subscriptions[active.sender]? = some subscription)
    (success : subscription.channel.trySend purpose.event = .sent channel)
    (next_eq : next = { state with
      subscriptions := state.subscriptions.set active.sender
        { subscription with channel, sent := subscription.sent ++ [purpose.event] }
      reader := state.reader.afterSent options purpose })
    (sound : state.streamDropped = false → Sound next) : Sparing handle next := by
  obtain ⟨isOpen, _, rfl⟩ := BoundedChannel.of_sent success
  subst next_eq
  refine ⟨sound, sparing.stored, ?_, ?_⟩
  · intro changed there inUse
    rcases getElem?_set_cases there with ⟨rfl, rfl⟩ | ⟨different, old⟩
    · obtain ⟨awaits, snapshot⟩ := sparing.awaits subscription found inUse
      refine ⟨⟨awaits.closed, ?_⟩, snapshot⟩
      rcases awaits.ahead with ⟨event, member, terminal⟩ | ⟨_, running | ending⟩
      · refine .inl ⟨event, ?_, terminal⟩
        rw [← List.append_assoc]
        exact List.mem_append_left _ member
      · exact .inr ⟨isOpen, .inl running⟩
      · obtain ⟨attempt, terminal, flush | deliver⟩ := ending.place
        · cases here.symm.trans flush
          refine .inr ⟨isOpen, .inr (startDeliver_ends options terminal ?_)⟩
          exact ending.cached
        · cases here.symm.trans deliver
          exact .inl ⟨attempt.event, by simp [Purpose.event], terminal⟩
    · obtain ⟨awaits, snapshot⟩ := sparing.awaits changed old inUse
      refine ⟨awaits.frame rfl (fun _ => rfl) fun _ ending => ?_, snapshot⟩
      have same := ending.cached
      rw [cached, Option.map_some, Option.some.injEq] at same
      exact absurd same.symm different
  · intro changed there ended
    rcases getElem?_set_cases there with ⟨rfl, rfl⟩ | ⟨_, old⟩
    · exact sparing.ends subscription found ended
    · exact sparing.ends changed old ended

theorem Sparing.sendStep (sparing : Sparing handle state) {purpose : Purpose}
    (here : state.reader.place = .sending purpose)
    (stepped : state.sendStep options purpose = some next)
    (sound : state.streamDropped = false → Sound next) : Sparing handle next := by
  simp only [StreamState.sendStep, Option.bind_eq_bind, Option.bind_eq_some_iff] at stepped
  obtain ⟨active, cached, subscription, found, stepped⟩ := stepped
  split at stepped
  · rename_i channel success
    cases stepped
    exact sparing.sent here cached found success rfl sound
  · obtain ⟨reader, after, same⟩ := Option.bind_eq_some_iff.mp stepped
    cases same
    refine sparing.keep sound rfl rfl (fun _ => rfl) fun _ _ _ ending => ?_
    -- The terminal event and the gap in front of it wait for room.
    obtain ⟨attempt, _, flush | deliver⟩ := ending.place
    · cases here.symm.trans flush
      cases after
    · cases here.symm.trans deliver
      cases after
  · rename_i refused
    cases stepped
    refine sparing.keep sound rfl rfl (fun _ => rfl) fun entry present isOpen ending => ?_
    have same := ending.cached
    rw [cached, Option.map_some, Option.some.injEq] at same
    subst same
    cases found.symm.trans present
    rw [BoundedChannel.of_closed refused] at isOpen
    cases isOpen

/-! ## Recording -/

/-- The reader records an event. Behind a terminal one it has the sender of the subscription that
waits for it. -/
theorem Sparing.record (sparing : Sparing handle state)
    (nonZero : ∀ retention ∈ options.replayRetention, retention.NonZero) {event : StreamEvent}
    {shared : ReplayState} {recorded : Bool} (here : state.reader.place = .record event)
    (pushed : state.shared.pushReplayEvent event options.replayRetention = .ok (shared, recorded))
    (next_eq : next = { state with
      shared
      log := state.log ++ [event]
      reader := state.refreshed.afterRecord options { event, recorded } })
    (sound : state.streamDropped = false → Sound next) : Sparing handle next := by
  have terminalEvent : state.streamDropped = false →
      shared.terminalEvent = if event.isTerminal then some event else state.shared.terminalEvent := by
    intro kept
    obtain ⟨_, _, outcome, effect⟩ :=
      ReplayState.pushReplayEvent_recorded (sparing.sound kept).counted nonZero event
    cases outcome.symm.trans pushed
    exact effect.terminalEvent
  subst next_eq
  refine ⟨sound, ?_, ?_, sparing.ends⟩
  · intro kept stored present
    have present : shared.terminalEvent = some stored := present
    rw [terminalEvent kept] at present
    split at present
    · rename_i terminal
      cases present
      exact terminal
    · exact sparing.stored kept stored present
  · intro subscription found inUse
    obtain ⟨awaits, snapshot⟩ := sparing.awaits subscription found inUse
    refine ⟨⟨awaits.closed, ?_⟩, snapshot⟩
    rcases awaits.ahead with has | ⟨isOpen, ⟨kept, running⟩ | ending⟩
    · exact .inl has
    · refine .inr ⟨isOpen, ?_⟩
      by_cases terminal : event.isTerminal = true
      · right
        apply afterRecord_ends options terminal
        have active := (sparing.sound kept).registered.activeTx_of_open found isOpen
        simp only [StreamState.refreshed, active, Option.map_some]
      · left
        refine ⟨kept, ?_⟩
        have same := terminalEvent kept
        rw [if_neg terminal] at same
        exact same.trans running
    · exact (ending.not_at here (fun purpose impossible => by cases impossible)).elim

/-! ## Subscribing and dropping the stream -/

/-- A new subscription is given the terminal event, or waits for it. -/
theorem Sparing.attached (sparing : Sparing handle state) (kept : state.streamDropped = false)
    (sound : state.streamDropped = false → Sound (state.attached options)) :
    Sparing handle (state.attached options) := by
  refine ⟨sound, sparing.stored, ?_, ?_⟩
  · intro subscription found inUse
    rcases getElem?_concat_cases found with old | ⟨_, rfl⟩
    · obtain ⟨awaits, snapshot⟩ := sparing.awaits subscription old inUse
      exact ⟨awaits.frame rfl (fun _ => rfl) fun _ ending => ending, snapshot⟩
    · refine ⟨⟨fun shut => (by cases shut), ?_⟩, sparing.stored kept⟩
      cases present : state.shared.terminalEvent with
      | none => exact .inr ⟨rfl, .inl ⟨kept, present⟩⟩
      | some event =>
          refine .inl ⟨event, ?_, sparing.stored kept event present⟩
          simp [StreamState.newSubscription, present]
  · intro subscription found ended
    rcases getElem?_concat_cases found with old | ⟨_, rfl⟩
    · exact sparing.ends subscription old ended
    · cases ended

/-- **The drop**: behind the terminal event the reader has the sender it needs. -/
theorem Sparing.dropStream (sparing : Sparing handle state)
    (spares : Spares handle state .dropStream) :
    Sparing handle { state.clearActive with streamDropped := true } := by
  refine ⟨fun kept => (by cases kept), fun kept => (by cases kept), ?_, sparing.ends⟩
  intro subscription found inUse
  obtain ⟨awaits, snapshot⟩ := sparing.awaits subscription found inUse
  refine ⟨⟨awaits.closed, ?_⟩, snapshot⟩
  rcases awaits.ahead with has | ⟨isOpen, ⟨_, running⟩ | ending⟩
  · exact .inl has
  · have recorded := (spares subscription found inUse).1 rfl
    rw [running] at recorded
    cases recorded
  · exact .inr ⟨isOpen, .inr ending⟩

/-- The reader is aborted behind the terminal event. -/
theorem Sparing.abortReader (sparing : Sparing handle state)
    (spares : Spares handle state .abortReader) (dropped : state.streamDropped = true)
    (reader : Reader) : Sparing handle { state with reader } := by
  have absurdly : state.streamDropped ≠ false := by simp [dropped]
  refine ⟨fun kept => absurd kept absurdly, fun kept => absurd kept absurdly, ?_, sparing.ends⟩
  intro subscription found inUse
  obtain ⟨awaits, snapshot⟩ := sparing.awaits subscription found inUse
  exact ⟨⟨awaits.closed, .inl ((spares subscription found inUse).2 rfl)⟩, snapshot⟩

/-! ## Runs -/

theorem Sparing.readerStep (sparing : Sparing handle state)
    (nonZero : ∀ retention ∈ options.replayRetention, retention.NonZero)
    (stepped : state.readerStep streamName options = some next)
    (sound : state.streamDropped = false → Sound next) : Sparing handle next := by
  unfold StreamState.readerStep at stepped
  split at stepped
  · rename_i result here
    cases stepped
    exact sparing.think sound rfl rfl (fun _ => rfl) here (by simp)
  · rename_i event here
    split at stepped
    · cases stepped
    · rename_i shared recorded pushed
      cases stepped
      exact sparing.record nonZero here pushed rfl sound
  · rename_i purpose here
    exact sparing.sendStep here stepped sound
  · rename_i purpose active here
    cases stepped
    exact sparing.think sound (by simp) (by simp) (fun _ => by simp) here (by simp)
  · rename_i purpose here
    cases stepped
    exact sparing.think sound rfl rfl (fun _ => rfl) here (by simp)
  · rename_i here
    cases stepped
    exact sparing.think sound rfl rfl (fun _ => rfl) here (by simp)
  all_goals cases stepped

/-- What follows the answer of `read_buf`. -/
theorem Sparing.gotResult (sparing : Sparing handle state) {before : StreamState}
    (here : state.reader.place = .reading) (subscriptions : before.subscriptions = state.subscriptions)
    (dropped : before.streamDropped = state.streamDropped) (shared : before.shared = state.shared)
    (result : ReadResult)
    (sound : state.streamDropped = false → Sound (before.gotResult streamName options result)) :
    Sparing handle (before.gotResult streamName options result) := by
  obtain ⟨reader, same⟩ := gotResult_eq before streamName options result
  rw [same] at sound ⊢
  exact sparing.think sound subscriptions dropped (fun _ => by rw [shared]) here (by simp)

/-- **Every step of a run that spares the subscription keeps the invariant.** -/
theorem Sparing.step (sparing : Sparing handle state) (spares : Spares handle state action)
    (nonZero : ∀ retention ∈ options.replayRetention, retention.NonZero)
    (stepped : step streamName options state action = some next)
    (sound : StreamKept state action → state.streamDropped = false → Sound next) :
    Sparing handle next := by
  cases action with
  | read bytes =>
      simp only [SingleSubscriber.step, Option.ite_none_right_eq_some, Option.some.injEq] at stepped
      obtain ⟨⟨here, _⟩, rfl⟩ := stepped
      refine sparing.gotResult here ?_ ?_ ?_ .data (sound (by simp [StreamKept]))
      all_goals rfl
  | readEof =>
      simp only [SingleSubscriber.step, Option.ite_none_right_eq_some, Option.some.injEq] at stepped
      obtain ⟨here, rfl⟩ := stepped
      exact sparing.gotResult here rfl rfl rfl .eof (sound (by simp [StreamKept]))
  | readError source =>
      simp only [SingleSubscriber.step, Option.ite_none_right_eq_some, Option.some.injEq] at stepped
      obtain ⟨here, rfl⟩ := stepped
      exact sparing.gotResult here rfl rfl rfl (.failed source) (sound (by simp [StreamKept]))
  | changed =>
      simp only [SingleSubscriber.step, Option.ite_none_right_eq_some, Option.some.injEq] at stepped
      obtain ⟨⟨here, _⟩, rfl⟩ := stepped
      exact sparing.think (sound (by simp [StreamKept])) rfl rfl (fun _ => rfl) here (by simp)
  | reader => exact sparing.readerStep nonZero stepped (sound (by simp [StreamKept]))
  | subscribe =>
      have sound := sound (by simp [StreamKept])
      simp only [SingleSubscriber.step, trySubscribe_eq] at stepped
      split at stepped
      · cases stepped
      · rename_i kept
        have kept : state.streamDropped = false := by simpa using kept
        by_cases active : state.shared.activeId.isSome = true
        · rw [if_pos active] at stepped
          cases stepped
          exact sparing
        · rw [if_neg active] at stepped
          cases stepped
          exact sparing.attached kept sound
  | nextEvent other =>
      have sound := sound (by simp [StreamKept])
      simp only [SingleSubscriber.step, Option.bind_eq_bind, Option.bind_eq_some_iff,
        Option.ite_none_right_eq_some] at stepped
      obtain ⟨subscription, found, inUse, stepped⟩ := stepped
      exact sparing.nextEvent sound found inUse stepped
  | closeReceiver other =>
      have sound := sound (by simp [StreamKept])
      simp only [SingleSubscriber.step, Option.bind_eq_bind, Option.bind_eq_some_iff,
        Option.ite_none_right_eq_some, Option.some.injEq] at stepped
      obtain ⟨subscription, found, _, rfl⟩ := stepped
      refine sparing.change sound rfl rfl (fun _ => rfl) rfl ?_
      rintro rfl
      exact ⟨fun inUse => (by cases inUse), sparing.ends subscription found⟩
  | clearRegistration other =>
      have sound := sound (by simp [StreamKept])
      simp only [SingleSubscriber.step, Option.bind_eq_bind, Option.bind_eq_some_iff,
        Option.ite_none_right_eq_some, Option.some.injEq] at stepped
      obtain ⟨subscription, found, _, rfl⟩ := stepped
      refine @Sparing.change _ _ _ { subscription with status := .dropped } sparing other sound
        (by simp [StreamState.withSubscription]) (by simp [StreamState.withSubscription])
        (fun _ => by simp [StreamState.withSubscription]) (by simp [StreamState.withSubscription]) ?_
      rintro rfl
      exact ⟨fun inUse => (by cases inUse), sparing.ends subscription found⟩
  | sealReplay =>
      have sound := sound (by simp [StreamKept])
      simp only [SingleSubscriber.step, Option.ite_none_right_eq_some] at stepped
      obtain ⟨⟨_, kept⟩, stepped⟩ := stepped
      rw [ReplayState.sealReplay_eq (sparing.sound kept).counted options] at stepped
      cases stepped
      exact sparing.keep sound rfl rfl (fun _ => rfl) fun _ _ _ ending => ending
  | dropStream =>
      simp only [SingleSubscriber.step] at stepped
      split at stepped
      · cases stepped
      · cases stepped
        exact sparing.dropStream spares
  | abortReader =>
      simp only [SingleSubscriber.step] at stepped
      split at stepped
      · rename_i dropped
        split at stepped
        all_goals cases stepped
        all_goals exact sparing.abortReader spares dropped _
      · cases stepped

end Steps

theorem sparing_init (handle : Handle) : Sparing handle {} where
  sound := fun _ => ⟨ReplayState.counted_new, registered_init⟩
  stored := fun _ _ present => by cases present
  awaits := fun _ found => by cases found
  ends := fun _ found => by cases found

/-- In every run that spares the subscription it ends only behind a terminal event. -/
theorem endsAfterTerminal {streamName : String} {options : ValidConfig} {handle : Handle}
    {state : StreamState}
    (reachable : (streamMachine streamName options).ReachableBy (Spares handle) state) :
    EndsAfterTerminal handle state := by
  have sparing : Sparing handle state := by
    apply reachable.invariant (sparing_init handle)
    intro state next action sparing spares stepped
    refine sparing.step spares options.retention_nonZero stepped fun action_kept kept => ?_
    exact (sparing.sound kept).step action_kept stepped
  exact sparing.ends

end TokioProcessTools.OutputStream.Backend.SingleSubscriber
