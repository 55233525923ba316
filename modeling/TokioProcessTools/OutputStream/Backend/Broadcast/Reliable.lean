import TokioProcessTools.OutputStream.Backend.Broadcast.FanoutHistory
import TokioProcessTools.OutputStream.Backend.Broadcast.FanoutInvariant

/-!
# Reliable delivery is exact

A reliable subscriber has a bounded channel, and the reader waits for room in it.
So nothing is lost between a send and the receiver: what was taken from the
channel, followed by its content, is what was delivered.

Together with the invariant of the fanout path this accounts for all events. What
a subscription has yielded, what is left of its snapshot, its channel and the
send still pending for it are its snapshot followed by the events appended since.
-/

set_option autoImplicit false

namespace TokioProcessTools.OutputStream.Backend.Broadcast

open Foundation

/-! ## The live model -/

/-- An open channel that holds what was delivered and not yet taken. -/
structure ReliableHolds (start : Nat) (delivered taken : List IndexedEvent)
    (channel : BoundedChannel IndexedEvent) : Prop where
  isOpen : channel.receiverOpen = true
  whole : taken ++ channel.queue = delivered
  live : ∀ event ∈ delivered, start ≤ event.seq

section Model

variable {start : Nat} {delivered taken : List IndexedEvent}
  {channel next : BoundedChannel IndexedEvent} {event : IndexedEvent}

theorem ReliableHolds.sent (holds : ReliableHolds start delivered taken channel)
    (seq : event.seq = start + delivered.length) (sent : channel.trySend event = .sent next) :
    ReliableHolds start (delivered ++ [event]) taken next := by
  obtain ⟨isOpen, _, rfl⟩ := BoundedChannel.of_sent sent
  refine ⟨isOpen, ?_, ?_⟩
  · rw [← List.append_assoc, holds.whole]
  · intro other member
    rcases List.mem_append.mp member with earlier | last
    · exact holds.live other earlier
    · rw [List.mem_singleton.mp last, seq]
      exact Nat.le_add_right _ _

theorem ReliableHolds.not_closed (holds : ReliableHolds start delivered taken channel)
    (event : IndexedEvent) : channel.trySend event ≠ .closed := by
  intro refused
  have gone := BoundedChannel.of_closed refused
  rw [holds.isOpen] at gone
  cases gone

theorem ReliableHolds.recv (holds : ReliableHolds start delivered taken channel)
    (received : channel.recv = some (event, next)) :
    event ∈ delivered ∧ ReliableHolds start delivered (taken ++ [event]) next := by
  obtain ⟨rest, queue, rfl⟩ := BoundedChannel.of_recv received
  have whole := holds.whole
  rw [queue] at whole
  refine ⟨?_, holds.isOpen, ?_, holds.live⟩
  · rw [← whole]
    simp
  · rw [List.append_assoc]
    exact whole

end Model

/-- The reliable receivers. -/
def reliableModel {options : StreamConfig}
    (reliable : options.deliveryGuarantee = .reliableWithBackpressure) : LiveModel options where
  Holds := fun start delivered taken receiver =>
    ∃ channel, receiver = .reliable channel ∧ ReliableHolds start delivered taken channel
  fresh := by
    intro start
    refine ⟨{ capacity := options.maxBufferedChunks }, ?_, rfl, rfl, ?_⟩
    · simp [LiveReceiver.new, reliable]
    · intro event member
      cases member
  deliver := by
    rintro start delivered taken receiver next event ⟨channel, rfl, holds⟩ seq _ _ sent
    rw [reliable] at sent
    simp only [LiveReceiver.deliver] at sent
    split at sent
    · rename_i grown success
      cases sent
      exact ⟨grown, rfl, holds.sent seq success⟩
    · cases sent
    · cases sent
  accepts := by
    rintro start delivered taken receiver event ⟨channel, rfl, holds⟩ _ failed
    rw [reliable] at failed
    simp only [LiveReceiver.deliver] at failed
    split at failed
    · cases failed
    · cases failed
    · rename_i refused
      exact holds.not_closed event refused
  take := by
    rintro start delivered taken receiver next event ⟨channel, rfl, holds⟩ took
    simp only [LiveReceiver.take, Option.map_eq_some_iff, Prod.mk.injEq] at took
    obtain ⟨⟨message, shorter⟩, received, rfl, rfl⟩ := took
    obtain ⟨member, after⟩ := holds.recv received
    exact ⟨holds.live _ member, fun _ => member, shorter, rfl, after⟩

/-! ## Exact delivery -/

/-- All events of a subscription are the snapshot and the events appended since. They are numbered
without a hole, none is a gap, the terminal event is the last, and after it `recv` answers
`None`. -/
structure ExactDelivery (streamName : String) (options : StreamConfig) (state : FanoutState)
    (handle : Handle) (subscription : SharedSubscription)
    (snapshot appended : List IndexedEvent) : Prop where
  whole : state.outlook handle subscription = snapshot ++ appended
  consecutive : ∃ first, (snapshot ++ appended).map IndexedEvent.seq =
    List.range' first (snapshot ++ appended).length
  noGap : ∀ event ∈ snapshot ++ appended, event.event ≠ .gap
  terminalLast : ∀ front event back, snapshot ++ appended = front ++ event :: back →
    event.event.isTerminal = true → back = []
  ends : (∃ event ∈ subscription.yielded, event.event.isTerminal = true) →
    fanoutStep streamName options state (.recv handle) =
      some { state with
        subscriptions := state.subscriptions.set handle { subscription with ended := true } }

/-- The reader waits for room at a subscription. -/
def WaitsFor (streamName : String) (options : StreamConfig) (state : FanoutState)
    (handle : Handle) : Prop :=
  (∃ event id targets stale buffer,
    state.reader = .sending event ((id, handle) :: targets) stale buffer) ∧
      fanoutStep streamName options state .deliver = none

section Exact

variable {streamName : String} {options : StreamConfig} {state : FanoutState} {handle : Handle}
  {subscription : SharedSubscription}

/-- A subscription in use accounts for the events since its live start. -/
theorem FanoutInvariant.whole
    {reliable : options.deliveryGuarantee = .reliableWithBackpressure}
    (invariant : FanoutInvariant (reliableModel reliable) state)
    (found : state.subscriptions[handle]? = some subscription)
    (inUse : subscription.status = .inUse) :
    state.outlook handle subscription =
      subscription.snapshot ++ state.log.drop subscription.liveStartSeq := by
  have subscribed := invariant.subscriptions handle subscription found
  obtain ⟨taken, _, split, attached | late⟩ := subscribed.inUse inUse
  · obtain ⟨delivered, whole, channel, receiver, holds⟩ := attached.delivered
    rw [FanoutState.outlook, split, receiver, ← whole, ← holds.whole]
    simp only [LiveReceiver.queued, List.append_assoc]
  · rw [FanoutState.outlook, split, late.receiver, late.taken, late.pending, late.start, List.drop_length]
    simp only [LiveReceiver.queued, List.append_nil]

/-- A subscription whose terminal event is out has nothing left. -/
theorem FanoutInvariant.nothing_left
    {reliable : options.deliveryGuarantee = .reliableWithBackpressure}
    (invariant : FanoutInvariant (reliableModel reliable) state)
    (found : state.subscriptions[handle]? = some subscription)
    (inUse : subscription.status = .inUse) {event : IndexedEvent}
    (yielded : event ∈ subscription.yielded) (terminal : event.event.isTerminal = true) :
    event ∈ state.log ∧ subscription.replay = [] ∧ subscription.liveReceiver.queued = [] ∧
      state.pendingFor handle = [] := by
  have whole := invariant.whole found inUse
  obtain ⟨first, stretch⟩ := (invariant.subscriptions handle subscription found).exists_stretch
  obtain ⟨front, back, split⟩ := List.append_of_mem yielded
  rw [stretch, FanoutState.outlook, split] at whole
  have log : state.log = (state.log.take first ++ front) ++ event ::
      (back ++ (subscription.replay ++ (subscription.liveReceiver.queued ++
        state.pendingFor handle))) := by
    nth_rewrite 1 [← List.take_append_drop first state.log]
    rw [← whole]
    simp only [List.append_assoc, List.cons_append]
  have rest := invariant.coherent.terminal_last log terminal
  simp only [List.append_eq_nil_iff] at rest
  refine ⟨?_, rest.2.1, rest.2.2.1, rest.2.2.2⟩
  rw [log]
  simp

/-- No sender is left for a subscription when the registry is empty and nothing is pending. -/
theorem sendersGone_of_empty (empty : state.shared.subscribers = [])
    (idle : state.pendingFor handle = []) : state.sendersGone handle = true := by
  have absent : handle ∉ state.pendingHandles := by
    intro member
    unfold FanoutState.pendingHandles at member
    unfold FanoutState.pendingFor at idle
    split at member
    · rename_i here
      rw [here] at idle
      simp only [if_pos member] at idle
      cases idle
    · cases member
  simp [FanoutState.sendersGone, empty, absent]

theorem FanoutInvariant.exact
    {reliable : options.deliveryGuarantee = .reliableWithBackpressure}
    (invariant : FanoutInvariant (reliableModel reliable) state)
    (found : state.subscriptions[handle]? = some subscription)
    (inUse : subscription.status = .inUse) :
    ExactDelivery streamName options state handle subscription subscription.snapshot
      (state.log.drop subscription.liveStartSeq) := by
  have subscribed := invariant.subscriptions handle subscription found
  obtain ⟨first, stretch⟩ := subscribed.exists_stretch
  refine ⟨invariant.whole found inUse, ⟨first, ?_⟩, ?_, ?_, ?_⟩
  · rw [stretch]
    exact invariant.coherent.log_seqs first
  · rw [stretch]
    intro event member
    exact invariant.coherent.log_noGap (List.mem_of_mem_drop member)
  · rw [stretch]
    intro front event back split terminal
    have log : state.log = (state.log.take first ++ front) ++ event :: back := by
      rw [List.append_assoc, ← split, List.take_append_drop]
    exact invariant.coherent.terminal_last log terminal
  · rintro ⟨event, yielded, terminal⟩
    obtain ⟨logged, read, empty, idle⟩ := invariant.nothing_left found inUse yielded terminal
    obtain ⟨stored, present⟩ :=
      Option.isSome_iff_exists.mp (invariant.coherent.terminal_of_mem logged terminal)
    obtain ⟨_, unregistered, _⟩ := invariant.coherent.terminal stored present
    obtain ⟨taken, _, _, attached | late⟩ := subscribed.inUse inUse
    · obtain ⟨_, _, channel, receiver, _⟩ := attached.delivered
      rw [receiver] at empty
      apply recv_none found inUse read
      · rw [receiver]
        simp only [LiveReceiver.queued] at empty
        simp [LiveReceiver.take, BoundedChannel.recv, empty]
      · rw [receiver]
        exact sendersGone_of_empty unregistered idle
    · apply recv_none found inUse read
      · rw [late.receiver]
        rfl
      · rw [late.receiver]
        rfl

/-- The reader waits only for a subscription that is not dropped and whose channel is full. -/
theorem WaitsFor.full
    (released : EachAt state.subscriptions fun _ subscription => subscription.Released)
    (waits : WaitsFor streamName options state handle)
    (found : state.subscriptions[handle]? = some subscription) :
    subscription.status ≠ .dropped ∧ ∃ channel,
      subscription.liveReceiver = .reliable channel ∧ channel.capacity ≤ channel.queue.length := by
  obtain ⟨⟨event, id, targets, stale, buffer, here⟩, stuck⟩ := waits
  simp only [fanoutStep, FanoutState.deliverStep, here, found, Option.bind_eq_bind,
    Option.bind_some] at stuck
  split at stuck
  · cases stuck
  · cases stuck
  · rename_i waiting
    obtain ⟨channel, receiver, full⟩ := LiveReceiver.full_of_waits waiting
    obtain ⟨isOpen, length⟩ := BoundedChannel.of_full full
    refine ⟨?_, channel, receiver, length⟩
    intro dropped
    have gone := released handle subscription found dropped
    rw [receiver] at gone
    rw [show channel.receiverOpen = false from gone] at isOpen
    cases isOpen

end Exact

/-! ## Runs -/

section Runs

variable {streamName : String} {options : ValidConfig} {before after state : FanoutState}
  {actions : List FanoutAction}

/-- **Reliable delivery is exact.** A subscription is created somewhere in a run, and the run goes on
without the stream being dropped. While the subscription is in use, its snapshot and the events
appended since are all accounted for. The reader never waits for it once it is dropped. Behind the
terminal event, the snapshot ends with that event and nothing is appended. -/
theorem reliable_delivery_exact
    (reliable : options.deliveryGuarantee = .reliableWithBackpressure)
    (reachable : (fanoutMachine streamName options).ReachableBy StreamKept before)
    (subscribed : fanoutStep streamName options.toStreamConfig before .subscribe = some after)
    (ran : (fanoutMachine streamName options).execBy StreamKept after actions = some state) :
    ∃ appended subscription, state.log = before.log ++ appended ∧
      state.subscriptions[before.subscriptions.length]? = some subscription ∧
      (subscription.status = .inUse →
        ExactDelivery streamName options.toStreamConfig state before.subscriptions.length
          subscription (before.shared.replaySnapshot options.toStreamConfig).1 appended) ∧
      (WaitsFor streamName options.toStreamConfig state before.subscriptions.length →
        subscription.status ≠ .dropped ∧ ∃ channel,
          subscription.liveReceiver = .reliable channel ∧
            channel.capacity ≤ channel.queue.length) ∧
      ∀ terminal, before.shared.terminal = some terminal → appended = [] ∧
        ∃ retained, (before.shared.replaySnapshot options.toStreamConfig).1 =
          retained ++ [terminal] := by
  have kept : StreamKept before .subscribe := nofun
  have final : (fanoutMachine streamName options).ReachableBy StreamKept state :=
    (reachable.step kept subscribed).execBy ran
  have earlier : FanoutInvariant (reliableModel reliable) before :=
    reachable_fanoutInvariant reachable
  have later : FanoutInvariant (reliableModel reliable) state := reachable_fanoutInvariant final
  obtain ⟨appended, subscription, log, found, snapshot, start⟩ :=
    descends_of_subscribe subscribed ran
  have since : state.log.drop subscription.liveStartSeq = appended := by
    rw [start, earlier.coherent.nextSeq, log, List.drop_left]
  refine ⟨appended, subscription, log, found, ?_, ?_, ?_⟩
  · intro inUse
    rw [← snapshot, ← since]
    exact later.exact found inUse
  · intro waits
    exact waits.full (reachable_released final) found
  · intro terminal present
    refine ⟨earlier.coherent.appended_nil later.coherent log present, ?_⟩
    unfold BroadcastState.replaySnapshot
    rw [present]
    exact ⟨_, rfl⟩

/-- A reliable stream with room for one event and the last chunk retained. -/
def reliableConfig : ValidConfig where
  readChunkSize := ⟨2⟩
  maxBufferedChunks := 1
  deliveryGuarantee := .reliableWithBackpressure
  replayRetention := some (.lastChunks 1)
  readChunkSize_pos := Nat.two_pos
  maxBufferedChunks_pos := Nat.one_pos
  retention_nonZero := by simp [ReplayRetention.NonZero]

/-- A subscription with one chunk in its snapshot and two appended since. The snapshot was yielded,
the first chunk waits in the channel and the second is pending. -/
theorem reliable_delivery_exact_pending :
    ∃ before after state appended subscription,
      fanoutStep "stdout" reliableConfig.toStreamConfig before .subscribe = some after ∧
      state.log = before.log ++ appended ∧ state.subscriptions[0]? = some subscription ∧
      subscription.yielded.length = 1 ∧ (state.pendingFor 0).length = 1 ∧
      ExactDelivery "stdout" reliableConfig.toStreamConfig state 0 subscription
        (before.shared.replaySnapshot reliableConfig.toStreamConfig).1 appended := by
  obtain ⟨before, after, state, reachable, subscribed, ran, first, ended, pending⟩ :=
    (fanoutMachine "stdout" reliableConfig).exists_run StreamKept
      [.read [1, 2], .append [], .deliver] .subscribe
      [.read [3, 4, 5], .append [(0, 0)], .deliver, .deliver, .recv 0, .append [(0, 0)]]
      (fun before state => before.subscriptions.length = 0 ∧
        (state.subscriptions[0]?.map fun subscription =>
          (subscription.status, subscription.yielded.length)) = some (.inUse, 1) ∧
        (state.pendingFor 0).length = 1)
      (by decide +kernel)
  obtain ⟨appended, subscription, log, found, delivery, _⟩ :=
    reliable_delivery_exact rfl reachable subscribed ran
  rw [first] at found delivery
  rw [found, Option.map_some, Option.some.injEq, Prod.mk.injEq] at ended
  exact ⟨before, after, state, appended, subscription, subscribed, log, found, ended.2, pending,
    delivery ended.1⟩

end Runs

end TokioProcessTools.OutputStream.Backend.Broadcast
