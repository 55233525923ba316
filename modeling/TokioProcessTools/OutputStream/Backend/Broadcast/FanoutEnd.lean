import TokioProcessTools.OutputStream.Backend.Broadcast.FanoutHistory
import TokioProcessTools.OutputStream.Backend.Broadcast.LiveReceivers

/-!
# How a subscription of the fanout path ends

Dropping the stream closes the queues of the registered subscribers and empties
the registry, and the reader may be aborted in the middle of its sends. A
subscription that waits for its terminal event then is answered `None` without
one.

A run spares a subscription in use when the stream is dropped only once a
terminal event was appended, and the reader is aborted only once that event has
reached the subscription. In such a run it ends only behind the terminal event
(`endsAfterTerminal`).

Before the drop the invariant of the fanout path holds. It says that a
subscription in use is registered, or has its terminal event, or is about to be
sent it. Behind the drop nothing is appended any more, and what is left of the
last two cases is followed step by step.
-/

set_option autoImplicit false

namespace TokioProcessTools.OutputStream.Backend.Broadcast

open Foundation

/-! ## Statement -/

/-- A terminal event has reached the subscription. -/
def SharedSubscription.HasTerminal (subscription : SharedSubscription) : Prop :=
  ∃ event ∈ subscription.yielded ++ subscription.replay ++ subscription.liveReceiver.queued,
    event.event.isTerminal = true

/-- While the subscription is in use, the stream is dropped only behind the terminal event, and the
reader is aborted only once the event has reached the subscription. -/
def Spares (handle : Handle) (state : FanoutState) (action : FanoutAction) : Prop :=
  ∀ subscription, state.subscriptions[handle]? = some subscription →
    subscription.status = .inUse →
      (action = .dropStream → state.shared.terminal.isSome = true) ∧
        (action = .abortReader → subscription.HasTerminal)

instance (subscription : SharedSubscription) : Decidable subscription.HasTerminal :=
  inferInstanceAs (Decidable (∃ event ∈ _, _))

instance (handle : Handle) (state : FanoutState) : DecidablePred (Spares handle state) :=
  fun action => inferInstanceAs (Decidable (∀ subscription ∈ state.subscriptions[handle]?,
    subscription.status = .inUse →
      (action = .dropStream → state.shared.terminal.isSome = true) ∧
        (action = .abortReader → subscription.HasTerminal)))

/-- The subscription has answered `None` only behind a terminal event. -/
def EndsAfterTerminal (handle : Handle) (state : FanoutState) : Prop :=
  ∀ subscription, state.subscriptions[handle]? = some subscription → subscription.ended = true →
    ∃ event ∈ subscription.yielded, event.event.isTerminal = true

/-! ## Standing -/

section Standing

variable {options : StreamConfig} {state : FanoutState} {handle : Handle}
  {subscription : SharedSubscription}

/-- The subscription has its terminal event, or takes it and is about to be sent it. Nothing else
will be sent to it. -/
structure Settled (guarantee : DeliveryGuarantee) (pending : List IndexedEvent)
    (subscription : SharedSubscription) : Prop where
  live : ∀ event ∈ subscription.liveReceiver.queued, subscription.liveStartSeq ≤ event.seq
  last : ∀ event ∈ pending, event.event.isTerminal = true ∧ subscription.liveStartSeq ≤ event.seq
  settled : subscription.HasTerminal ∨
    subscription.liveReceiver.Open guarantee ∧ pending ≠ []

/-- A subscription in use waits for events of a running stream, or is settled. -/
inductive Standing (guarantee : DeliveryGuarantee) (state : FanoutState) (handle : Handle)
    (subscription : SharedSubscription) : Prop where
  | registered (listed : handle ∈ state.registered)
      (isOpen : subscription.liveReceiver.Open guarantee)
  | settled (settled : Settled guarantee (state.pendingFor handle) subscription)

/-- No sender is gone for a handle with a pending event. -/
theorem not_sendersGone_of_pending (pending : state.pendingFor handle ≠ []) :
    state.sendersGone handle = false := by
  have member : handle ∈ state.pendingHandles := by
    unfold FanoutState.pendingFor at pending
    unfold FanoutState.pendingHandles
    split at pending
    · split at pending
      · rename_i here member
        rw [here]
        exact member
      · exact absurd rfl pending
    all_goals exact absurd rfl pending
  simp [FanoutState.sendersGone, member]

/-- **`None` is answered only behind a terminal event.** -/
theorem Standing.yielded_of_none {guarantee : DeliveryGuarantee}
    (standing : Standing guarantee state handle subscription) (read : subscription.replay = [])
    (nothing : subscription.liveReceiver.take = none)
    (ends : subscription.liveReceiver.endsWith (state.sendersGone handle) = true) :
    ∃ event ∈ subscription.yielded, event.event.isTerminal = true := by
  cases standing with
  | registered listed isOpen =>
      have present : state.sendersGone handle = false := by
        simp [FanoutState.sendersGone, FanoutState.registered] at listed ⊢
        grind
      rw [present, isOpen.not_endsWith] at ends
      cases ends
  | settled settled =>
      rcases settled.settled with ⟨event, member, terminal⟩ | ⟨isOpen, pending⟩
      · rw [read, LiveReceiver.queued_of_take_none nothing, List.append_nil, List.append_nil] at member
        exact ⟨event, member, terminal⟩
      · rw [not_sendersGone_of_pending pending, isOpen.not_endsWith] at ends
        cases ends

/-- A subscription without a live receiver was given the terminal event with its snapshot. -/
def SharedSubscription.LateSnapshot (subscription : SharedSubscription) : Prop :=
  subscription.liveReceiver = .closed → ∃ event ∈ subscription.snapshot, event.event.isTerminal = true

/-- Behind the terminal event only that event is still to be sent. -/
theorem Coherent.pending_isTerminal (coherent : Coherent options state)
    (present : state.shared.terminal.isSome = true) :
    ∀ event ∈ state.pendingFor handle, event.event.isTerminal = true := by
  intro event member
  have reader := coherent.reader
  unfold FanoutState.pendingFor at member
  split at member
  · rename_i sending targets stale buffer here
    rw [here] at reader
    split at member
    · rw [List.mem_singleton.mp member, reader.2.2.2.2]
      exact present
    · cases member
  all_goals cases member

theorem Attached.standing {taken : List IndexedEvent}
    (coherent : Coherent options state)
    (attached : Attached (endModel options) state handle subscription taken)
    (split : subscription.yielded ++ subscription.replay = subscription.snapshot ++ taken) :
    Standing options.deliveryGuarantee state handle subscription := by
  obtain ⟨delivered, whole, holds⟩ := attached.delivered
  have holds : EndHolds options.deliveryGuarantee subscription.liveStartSeq delivered taken
    subscription.liveReceiver := holds
  cases present : state.shared.terminal with
  | none =>
      refine .registered (attached.registered present) (holds.opened fun event member => ?_)
      have logged : event ∈ state.log.drop subscription.liveStartSeq := by
        rw [← whole]
        exact List.mem_append_left _ member
      exact coherent.running present event (List.mem_of_mem_drop logged)
  | some terminal =>
      obtain ⟨isTerminal, _, front, log, chunks⟩ := coherent.terminal terminal present
      have ended : state.shared.terminal.isSome = true := by rw [present, Option.isSome_some]
      have last : ∀ event ∈ state.pendingFor handle,
          event.event.isTerminal = true ∧ subscription.liveStartSeq ≤ event.seq := by
        intro event member
        have behind : event ∈ state.log.drop subscription.liveStartSeq := by
          rw [← whole]
          exact List.mem_append_right _ member
        exact ⟨coherent.pending_isTerminal ended event member, (coherent.mem_drop_iff.mp behind).2⟩
      refine .settled ⟨holds.live, last, ?_⟩
      have behind : terminal ∈ state.log.drop subscription.liveStartSeq := by
        have logged : terminal ∈ state.log.take subscription.liveStartSeq ++
            state.log.drop subscription.liveStartSeq := by
          rw [List.take_append_drop, log]
          exact List.mem_append_right _ (List.mem_singleton_self _)
        rcases List.mem_append.mp logged with early | behind
        · have isChunk := attached.early terminal early
          rw [StreamEvent.isTerminal_of_isChunk isChunk] at isTerminal
          cases isTerminal
        · exact behind
      rw [← whole] at behind
      rcases List.mem_append.mp behind with sent | pending
      · left
        refine ⟨terminal, ?_, isTerminal⟩
        rcases List.mem_append.mp (holds.kept terminal sent isTerminal) with took | queued
        · have member : terminal ∈ subscription.yielded ++ subscription.replay := by
            rw [split]
            exact List.mem_append_right _ took
          exact List.mem_append_left _ member
        · exact List.mem_append_right _ queued
      · refine .inr ⟨holds.opened fun event member => ?_, List.ne_nil_of_mem pending⟩
        -- Nothing but the terminal event is pending, and only chunks come before it in the log.
        have last : state.pendingFor handle = [terminal] := by
          unfold FanoutState.pendingFor at pending ⊢
          split at pending
          · split at pending
            · rename_i listed
              rw [List.mem_singleton.mp pending]
              simp only [if_pos listed]
            · cases pending
          all_goals cases pending
        have same : state.log.take subscription.liveStartSeq ++ delivered ++ [terminal] =
            front ++ [terminal] := by
          rw [List.append_assoc, ← last, whole, List.take_append_drop, last, log]
        have earlier := List.append_cancel_right same
        exact chunks event (earlier ▸ List.mem_append_right _ member)

/-- **Where a subscription in use stands while the stream is kept.** -/
theorem FanoutInvariant.standing (invariant : FanoutInvariant (endModel options) state)
    (found : state.subscriptions[handle]? = some subscription)
    (inUse : subscription.status = .inUse) (lateSnapshot : subscription.LateSnapshot) :
    Standing options.deliveryGuarantee state handle subscription := by
  obtain ⟨taken, _, split, attached | late⟩ :=
    (invariant.subscriptions handle subscription found).inUse inUse
  · exact attached.standing invariant.coherent split
  · obtain ⟨event, member, terminal⟩ := lateSnapshot late.receiver
    refine .settled ⟨?_, ?_, .inl ⟨event, ?_, terminal⟩⟩
    · rw [late.receiver]
      exact fun _ impossible => absurd impossible List.not_mem_nil
    · rw [late.pending]
      exact fun _ impossible => absurd impossible List.not_mem_nil
    · rw [split]
      exact List.mem_append_left _ (List.mem_append_left _ member)

end Standing

/-! ## What a step does to one subscription -/

/-- The subscription behind an event it has yielded. -/
def SharedSubscription.yield (subscription : SharedSubscription) (event : IndexedEvent) :
    SharedSubscription :=
  if event.event.isTerminal then
    { subscription with yielded := subscription.yielded ++ [event], id := none, done := true }
  else { subscription with yielded := subscription.yielded ++ [event] }

section Yield

variable (subscription : SharedSubscription) (event : IndexedEvent)

@[simp] theorem yield_yielded :
    (subscription.yield event).yielded = subscription.yielded ++ [event] := by
  unfold SharedSubscription.yield
  split <;> rfl

@[simp] theorem yield_replay : (subscription.yield event).replay = subscription.replay := by
  unfold SharedSubscription.yield
  split <;> rfl

@[simp] theorem yield_liveReceiver :
    (subscription.yield event).liveReceiver = subscription.liveReceiver := by
  unfold SharedSubscription.yield
  split <;> rfl

@[simp] theorem yield_liveStartSeq :
    (subscription.yield event).liveStartSeq = subscription.liveStartSeq := by
  unfold SharedSubscription.yield
  split <;> rfl

@[simp] theorem yield_snapshot : (subscription.yield event).snapshot = subscription.snapshot := by
  unfold SharedSubscription.yield
  split <;> rfl

@[simp] theorem yield_ended : (subscription.yield event).ended = subscription.ended := by
  unfold SharedSubscription.yield
  split <;> rfl

end Yield

/-- What `recv` does to the subscription. -/
inductive Received (state : FanoutState) (handle : Handle) (subscription : SharedSubscription) :
    SharedSubscription → Prop where
  | replayed {event : IndexedEvent} {rest : List IndexedEvent}
      (read : subscription.replay = event :: rest) :
      Received state handle subscription ({ subscription with replay := rest }.yield event)
  | skipped {event : IndexedEvent} {receiver : LiveReceiver} (read : subscription.replay = [])
      (took : subscription.liveReceiver.take = some (event, receiver))
      (early : event.seq < subscription.liveStartSeq) :
      Received state handle subscription { subscription with liveReceiver := receiver }
  | taken {event : IndexedEvent} {receiver : LiveReceiver} (read : subscription.replay = [])
      (took : subscription.liveReceiver.take = some (event, receiver)) :
      Received state handle subscription ({ subscription with liveReceiver := receiver }.yield event)
  | ended (read : subscription.replay = []) (nothing : subscription.liveReceiver.take = none)
      (ends : subscription.liveReceiver.endsWith (state.sendersGone handle) = true) :
      Received state handle subscription { subscription with ended := true }

/-- What a step does to the subscription of a handle. -/
inductive SubStep (options : StreamConfig) (state next : FanoutState) (action : FanoutAction)
    (handle : Handle) (changed : SharedSubscription) : Prop where
  /-- Nothing; a send to it has found it stale. -/
  | same (found : state.subscriptions[handle]? = some changed)
      (missed : action = .deliver → ∀ id event targets stale buffer,
        state.reader = .sending event ((id, handle) :: targets) stale buffer →
          changed.liveReceiver.deliver options.deliveryGuarantee event = .stale)
  | delivered {subscription : SharedSubscription} {receiver : LiveReceiver} {id : SubscriberId}
      {event : IndexedEvent} {targets : List (SubscriberId × Handle)} {stale : List SubscriberId}
      {buffer : List UInt8} (found : state.subscriptions[handle]? = some subscription)
      (here : state.reader = .sending event ((id, handle) :: targets) stale buffer)
      (sent : subscription.liveReceiver.deliver options.deliveryGuarantee event =
        .delivered receiver)
      (becomes : changed = { subscription with liveReceiver := receiver })
  | received {subscription : SharedSubscription} (receives : action = .recv handle)
      (found : state.subscriptions[handle]? = some subscription)
      (inUse : subscription.status = .inUse)
      (received : Received state handle subscription changed)
  /-- It is dropped. -/
  | left {subscription : SharedSubscription}
      (found : state.subscriptions[handle]? = some subscription) (gone : changed.status ≠ .inUse)
      (yielded : changed.yielded = subscription.yielded)
      (ended : changed.ended = subscription.ended)
      (snapshot : changed.snapshot = subscription.snapshot)
      (receiver : changed.liveReceiver = subscription.liveReceiver ∨
        changed.liveReceiver = subscription.liveReceiver.drop)
  | subscribed (kept : state.streamDropped = false) (new : changed.ended = false)
      (snapshot : changed.snapshot = (state.shared.replaySnapshot options).1)
      (late : changed.liveReceiver = .closed →
        state.shared.closed = true ∨ state.shared.terminal.isSome = true)
  | dropStream (drops : action = .dropStream)

section Steps

variable {streamName : String} {options : StreamConfig} {state next : FanoutState}
  {action : FanoutAction} {handle : Handle} {changed : SharedSubscription}

theorem yieldStep_subscriptions (subscription : SharedSubscription) (event : IndexedEvent) :
    (state.yieldStep handle subscription event).subscriptions =
      state.subscriptions.set handle (subscription.yield event) := by
  unfold FanoutState.yieldStep SharedSubscription.yield
  split <;> rfl

/-- A step that changes no subscription. -/
theorem SubStep.of_same (same : next.subscriptions = state.subscriptions)
    (quiet : action ≠ .deliver) (found : next.subscriptions[handle]? = some changed) :
    SubStep options state next action handle changed :=
  .same (same ▸ found) fun delivers => absurd delivers quiet

/-- A step that changes the subscription of another handle, or this one. -/
theorem SubStep.of_set {other : Handle} {subscription : SharedSubscription}
    (set : next.subscriptions = state.subscriptions.set other subscription)
    (quiet : action ≠ .deliver)
    (here : handle = other → changed = subscription → SubStep options state next action handle changed)
    (found : next.subscriptions[handle]? = some changed) :
    SubStep options state next action handle changed := by
  rw [set] at found
  rcases getElem?_set_cases found with ⟨same, becomes⟩ | ⟨_, old⟩
  · exact here same becomes
  · exact .same old fun delivers => absurd delivers quiet

theorem appendStep_subscriptions {event : StreamEvent} {buffer : List UInt8}
    {order : List (SubscriberId × Handle)}
    (stepped : state.appendStep options event buffer order = some next) :
    next.subscriptions = state.subscriptions := by
  unfold FanoutState.appendStep at stepped
  split at stepped
  · cases stepped
    exact (afterAppend_frame _ _ _ _).2
  · split at stepped
    · split at stepped
      · cases stepped
      · cases stepped
        rfl
    · cases stepped

/-- A receive of a subscription. -/
theorem SubStep.of_received {other : Handle} {subscription received : SharedSubscription}
    (present : state.subscriptions[other]? = some subscription)
    (inUse : subscription.status = .inUse) (how : Received state other subscription received)
    (set : next.subscriptions = state.subscriptions.set other received)
    (found : next.subscriptions[handle]? = some changed) :
    SubStep options state next (.recv other) handle changed := by
  refine .of_set set (by simp) ?_ found
  rintro rfl rfl
  exact .received rfl present inUse how

/-- **What a step does to the subscription of a handle.** -/
theorem fanoutStep_subStep (stepped : fanoutStep streamName options state action = some next)
    (found : next.subscriptions[handle]? = some changed) :
    SubStep options state next action handle changed := by
  cases fanoutStep_move stepped with
  | read here => exact .of_same (continueWith_frame _ _ _).2 (by simp) found
  | readEof here => exact .of_same rfl (by simp) found
  | readError here => exact .of_same rfl (by simp) found
  | appended here isOpen appended =>
      exact .of_same (appendStep_subscriptions appended) (by simp) found
  | passedOver here closed => exact .of_same (afterAppend_frame _ _ _ _).2 (by simp) found
  | delivered here present sent =>
      rcases getElem?_set_cases found with ⟨rfl, becomes⟩ | ⟨different, old⟩
      · exact .delivered present here sent becomes
      · refine .same old fun _ id event targets stale buffer same => ?_
        cases here.symm.trans same
        exact absurd rfl different
  | missed here present refused =>
      refine .same found fun _ id event targets stale buffer same => ?_
      cases here.symm.trans same
      cases present.symm.trans found
      exact refused
  | sentStale here running =>
      refine .same found fun _ id event targets stale buffer impossible => ?_
      cases here.symm.trans impossible
  | sentAll here =>
      refine .same ((afterAppend_frame _ _ _ _).2 ▸ found) fun _ id event targets stale buffer
        impossible => ?_
      cases here.symm.trans impossible
  | pruned here => exact .of_same (continueWith_frame _ _ _).2 (by simp) found
  | subscribed kept =>
      rw [subscribeStep_eq] at found
      split at found
      · rename_i late
        rcases getElem?_concat_cases found with old | ⟨_, rfl⟩
        · exact .same old (by simp)
        · exact .subscribed kept rfl rfl fun _ => late
      · rcases getElem?_concat_cases found with old | ⟨_, rfl⟩
        · exact .same old (by simp)
        · refine .subscribed kept rfl rfl fun closed => ?_
          have isOpen := LiveReceiver.open_new options
          rw [show LiveReceiver.new options = .closed from closed] at isOpen
          exact isOpen.elim
  | replayed present inUse unread =>
      exact .of_received present inUse (.replayed unread) (yieldStep_subscriptions _ _) found
  | skipped present inUse read took early =>
      exact .of_received present inUse (.skipped read took early) rfl found
  | taken present inUse read took =>
      exact .of_received present inUse (.taken read took) (yieldStep_subscriptions _ _) found
  | ended present inUse read nothing ends =>
      exact .of_received present inUse (.ended read nothing ends) rfl found
  | left present =>
      unfold FanoutState.leaveRegistryStep at found ⊢
      split
      · rename_i done
        rw [if_pos done] at found
        refine .of_set rfl (by simp) ?_ found
        rintro rfl rfl
        exact .left present (by simp) rfl rfl rfl (.inl rfl)
      · rename_i undone
        rw [if_neg undone] at found
        refine .of_set rfl (by simp) ?_ found
        rintro rfl rfl
        exact .left present (by simp) rfl rfl rfl (.inl rfl)
  | receiverDropped present =>
      refine .of_set rfl (by simp) ?_ found
      rintro rfl rfl
      exact .left present (by simp) rfl rfl rfl (.inr rfl)
  | replaySealed => exact .of_same rfl (by simp) found
  | streamDropped kept => exact .dropStream rfl
  | aborted dropped => exact .of_same rfl (by simp) found

/-! ## While the stream is kept -/

/-- A receive leaves the snapshot, and takes no receiver away. -/
theorem Received.lateSnapshot {subscription : SharedSubscription}
    (received : Received state handle subscription changed) (late : subscription.LateSnapshot) :
    changed.LateSnapshot := by
  unfold SharedSubscription.LateSnapshot at late ⊢
  cases received with
  | replayed read => simpa using late
  | skipped read took early => exact fun closed => absurd closed (LiveReceiver.not_closed_of_take took)
  | taken read took =>
      rw [yield_liveReceiver, yield_snapshot]
      exact fun closed => absurd closed (LiveReceiver.not_closed_of_take took)
  | ended read nothing ends => exact late

/-- A receive answers `None` only behind a terminal event. -/
theorem Received.ends {guarantee : DeliveryGuarantee} {subscription : SharedSubscription}
    (received : Received state handle subscription changed)
    (standing : Standing guarantee state handle subscription)
    (before : subscription.ended = true →
      ∃ event ∈ subscription.yielded, event.event.isTerminal = true)
    (ended : changed.ended = true) : ∃ event ∈ changed.yielded, event.event.isTerminal = true := by
  cases received with
  | replayed read =>
      rw [yield_ended] at ended
      obtain ⟨event, member, terminal⟩ := before ended
      exact ⟨event, by simp [member], terminal⟩
  | skipped read took early => exact before ended
  | taken read took =>
      rw [yield_ended] at ended
      obtain ⟨event, member, terminal⟩ := before ended
      exact ⟨event, by simp [member], terminal⟩
  | ended read nothing ends => exact standing.yielded_of_none read nothing ends

/-- A subscription that is created behind the end is given the terminal event. -/
theorem Coherent.lateSnapshot (coherent : Coherent options state)
    (snapshot : changed.snapshot = (state.shared.replaySnapshot options).1)
    (late : changed.liveReceiver = .closed →
      state.shared.closed = true ∨ state.shared.terminal.isSome = true) :
    changed.LateSnapshot := by
  intro closed
  have present : state.shared.terminal.isSome = true := by
    rcases late closed with isClosed | present
    · rw [coherent.kept.1] at isClosed
      cases isClosed
    · exact present
  obtain ⟨terminal, stored⟩ := Option.isSome_iff_exists.mp present
  refine ⟨terminal, ?_, (coherent.terminal terminal stored).1⟩
  rw [snapshot]
  simp [BroadcastState.replaySnapshot, stored]

/-- The invariant while the stream is kept. -/
structure KeptEnd (options : StreamConfig) (handle : Handle) (state : FanoutState) : Prop where
  invariant : FanoutInvariant (endModel options) state
  late : ∀ subscription, state.subscriptions[handle]? = some subscription → subscription.LateSnapshot
  ends : EndsAfterTerminal handle state

theorem KeptEnd.late_step (kept : KeptEnd options handle state) (action_kept : StreamKept state action)
    (stepped : fanoutStep streamName options state action = some next)
    (found : next.subscriptions[handle]? = some changed) : changed.LateSnapshot := by
  cases fanoutStep_subStep stepped found with
  | same old _ => exact kept.late changed old
  | @delivered subscription receiver _ _ _ _ _ old here sent becomes =>
      intro closed
      subst becomes
      have closed : receiver = .closed := closed
      subst closed
      exact kept.late subscription old (LiveReceiver.closed_of_delivered sent)
  | received _ old inUse received => exact received.lateSnapshot (kept.late _ old)
  | left old _ _ _ snapshot receiver =>
      intro closed
      rw [snapshot]
      rcases receiver with same | dropped
      · exact kept.late _ old (same ▸ closed)
      · exact kept.late _ old (LiveReceiver.closed_of_drop (dropped ▸ closed))
  | subscribed _ _ snapshot late => exact kept.invariant.coherent.lateSnapshot snapshot late
  | dropStream drops => exact absurd drops action_kept

/-- **A step answers `None` only behind a terminal event**, where the subscription stands well. -/
theorem endsAfterTerminal_step {guarantee : DeliveryGuarantee}
    (standing : ∀ subscription, state.subscriptions[handle]? = some subscription →
      subscription.status = .inUse → Standing guarantee state handle subscription)
    (ends : EndsAfterTerminal handle state) (running : action ≠ .dropStream)
    (stepped : fanoutStep streamName options state action = some next) :
    EndsAfterTerminal handle next := by
  intro changed found ended
  cases fanoutStep_subStep stepped found with
  | same old _ => exact ends changed old ended
  | @delivered subscription _ _ _ _ _ _ old here sent becomes =>
      subst becomes
      exact ends subscription old ended
  | received _ old inUse received => exact received.ends (standing _ old inUse) (ends _ old) ended
  | left old _ yielded same _ _ =>
      rw [yielded]
      exact ends _ old (same ▸ ended)
  | subscribed _ new _ _ =>
      rw [new] at ended
      cases ended
  | dropStream drops => exact absurd drops running

/-! ## Behind the drop of the stream -/

/-- The stream is gone and nothing is appended any more. -/
def FanoutState.Shut (state : FanoutState) : Prop :=
  state.streamDropped = true ∧ state.shared.closed = true

/-- The invariant behind the drop: nothing is appended any more, and while the subscription is in
use it is settled and only the terminal event may still be sent to it. -/
structure DroppedEnd (guarantee : DeliveryGuarantee) (handle : Handle) (state : FanoutState) :
    Prop where
  shut : state.Shut
  settled : ∀ subscription, state.subscriptions[handle]? = some subscription →
    subscription.status = .inUse → Settled guarantee (state.pendingFor handle) subscription
  ends : EndsAfterTerminal handle state

/-- The drop closes queues of registered subscribers, and changes nothing else of a subscription. -/
theorem closeForDrop_found (found : state.closeForDrop.subscriptions[handle]? = some changed) :
    ∃ subscription, state.subscriptions[handle]? = some subscription ∧
      (changed = subscription ∨ handle ∈ state.registered ∧
        ∃ receiver, changed = { subscription with liveReceiver := receiver }) := by
  simp only [FanoutState.closeForDrop, List.getElem?_mapIdx, Option.map_eq_some_iff] at found
  obtain ⟨subscription, present, becomes⟩ := found
  refine ⟨subscription, present, ?_⟩
  split at becomes
  · rename_i queue _
    split at becomes
    · rename_i listed
      exact .inr ⟨listed, .bestEffort queue.close, becomes.symm⟩
    · exact .inl becomes.symm
  · exact .inl becomes.symm
  · exact .inl becomes.symm

/-- **The drop**: behind the terminal event the registry is empty, so no queue is closed. -/
theorem KeptEnd.dropStream (kept : KeptEnd options handle state)
    (spares : Spares handle state .dropStream) :
    DroppedEnd options.deliveryGuarantee handle state.closeForDrop where
  shut := ⟨rfl, rfl⟩
  settled := by
    intro changed found inUse
    have coherent := kept.invariant.coherent
    obtain ⟨subscription, present, how⟩ := closeForDrop_found found
    have used : subscription.status = .inUse := by
      rcases how with rfl | ⟨_, receiver, rfl⟩ <;> exact inUse
    have ended := (spares subscription present used).1 rfl
    obtain ⟨terminal, stored⟩ := Option.isSome_iff_exists.mp ended
    have empty : state.registered = [] := by
      rw [FanoutState.registered, (coherent.terminal terminal stored).2.1, List.map_nil]
    have same : changed = subscription := by
      rcases how with same | ⟨listed, _⟩
      · exact same
      · rw [empty] at listed
        cases listed
    subst same
    cases kept.invariant.standing present inUse (kept.late changed present) with
    | registered listed _ =>
        rw [empty] at listed
        cases listed
    | settled settled => exact settled
  ends := by
    intro changed found ended
    obtain ⟨subscription, present, rfl | ⟨_, receiver, rfl⟩⟩ := closeForDrop_found found
    · exact kept.ends changed present ended
    · exact kept.ends subscription present ended

theorem pendingFor_of_reader (same : next.reader = state.reader) :
    next.pendingFor handle = state.pendingFor handle := by
  unfold FanoutState.pendingFor
  rw [same]

theorem continueWith_pendingFor (state : FanoutState) (chunkSize : Nat) (buffer : List UInt8) :
    (state.continueWith chunkSize buffer).pendingFor handle = [] := by
  cases buffer <;> rfl

theorem afterAppend_pendingFor (state : FanoutState) (chunkSize : Nat) (event : StreamEvent)
    (buffer : List UInt8) :
    (state.afterAppend chunkSize event buffer).pendingFor handle = [] := by
  unfold FanoutState.afterAppend
  split
  · rfl
  · exact continueWith_pendingFor state chunkSize buffer

theorem yieldStep_reader (subscription : SharedSubscription) (event : IndexedEvent) :
    (state.yieldStep handle subscription event).reader = state.reader := by
  unfold FanoutState.yieldStep
  dsimp only
  split <;> rfl

/-- One send changes what is pending for its target only. -/
theorem pendingFor_sent {event : IndexedEvent} {id : SubscriberId} {other : Handle}
    {targets : List (SubscriberId × Handle)} {stale later : List SubscriberId}
    {buffer : List UInt8} (here : state.reader = .sending event ((id, other) :: targets) stale buffer)
    (there : next.reader = .sending event targets later buffer) :
    next.pendingFor handle = state.pendingFor handle ∨
      ∃ id event targets stale buffer,
        state.reader = .sending event ((id, handle) :: targets) stale buffer ∧
          ∀ other ∈ next.pendingFor handle, other = event := by
  by_cases same : handle = other
  · subst same
    refine .inr ⟨id, event, targets, stale, buffer, here, fun other member => ?_⟩
    simp only [FanoutState.pendingFor, there] at member
    split at member
    · exact List.mem_singleton.mp member
    · cases member
  · left
    simp only [FanoutState.pendingFor, here, there, List.map_cons, List.mem_cons, same, false_or]

/-- **What is still to be sent to the handle** once nothing is appended any more: what was before,
unless a send comes to it. -/
theorem pendingFor_step (shut : state.Shut)
    (stepped : fanoutStep streamName options state action = some next)
    (running : action ≠ .abortReader) :
    next.pendingFor handle = state.pendingFor handle ∨
      action = .deliver ∧ ∃ id event targets stale buffer,
        state.reader = .sending event ((id, handle) :: targets) stale buffer ∧
          ∀ other ∈ next.pendingFor handle, other = event := by
  have idle : state.pendingFor handle = [] → next.pendingFor handle = [] →
      next.pendingFor handle = state.pendingFor handle := by
    intro before after
    rw [before, after]
  have quiet : state.reader.Quiet → state.pendingFor handle = [] := fun quiet => quiet.pendingFor _
  cases fanoutStep_move stepped with
  | read here => exact .inl (idle (quiet (here ▸ trivial)) (continueWith_pendingFor _ _ _))
  | readEof here => exact .inl (idle (quiet (here ▸ trivial)) rfl)
  | readError here => exact .inl (idle (quiet (here ▸ trivial)) rfl)
  | appended here isOpen appended =>
      rw [shut.2] at isOpen
      cases isOpen
  | passedOver here closed =>
      exact .inl (idle (quiet (here ▸ trivial)) (afterAppend_pendingFor _ _ _ _))
  | delivered here found sent => exact (pendingFor_sent here rfl).imp_right fun sends => ⟨rfl, sends⟩
  | missed here found refused =>
      exact (pendingFor_sent here rfl).imp_right fun sends => ⟨rfl, sends⟩
  | sentStale here _ => exact .inl (idle (FanoutState.pendingFor_sentAll here _) rfl)
  | sentAll here =>
      exact .inl (idle (FanoutState.pendingFor_sentAll here _) (afterAppend_pendingFor _ _ _ _))
  | pruned here =>
      left
      rw [continueWith_pendingFor, FanoutState.pendingFor, here]
  | subscribed _ =>
      left
      apply pendingFor_of_reader
      rw [subscribeStep_eq]
      split <;> rfl
  | replayed found inUse unread => exact .inl (pendingFor_of_reader (yieldStep_reader _ _))
  | skipped found inUse read took early => exact .inl rfl
  | taken found inUse read took => exact .inl (pendingFor_of_reader (yieldStep_reader _ _))
  | ended found inUse read nothing ends => exact .inl rfl
  | left found =>
      left
      apply pendingFor_of_reader
      unfold FanoutState.leaveRegistryStep
      dsimp only
      split <;> rfl
  | receiverDropped found => exact .inl rfl
  | replaySealed => exact .inl rfl
  | streamDropped kept => exact .inl rfl
  | aborted dropped => exact absurd rfl running

theorem FanoutState.Shut.continueWith (shut : state.Shut) (chunkSize : Nat) (buffer : List UInt8) :
    (state.continueWith chunkSize buffer).Shut := by
  cases buffer <;> exact shut

theorem FanoutState.Shut.afterAppend (shut : state.Shut) (chunkSize : Nat) (event : StreamEvent)
    (buffer : List UInt8) : (state.afterAppend chunkSize event buffer).Shut := by
  unfold FanoutState.afterAppend
  split
  · exact shut
  · exact shut.continueWith chunkSize buffer

theorem leave_closed (shared : BroadcastState Handle) (id : Option SubscriberId) :
    (FanoutState.leave shared id).closed = shared.closed := by
  cases id <;> rfl

theorem FanoutState.Shut.yieldStep (shut : state.Shut) (subscription : SharedSubscription)
    (event : IndexedEvent) : (state.yieldStep handle subscription event).Shut := by
  unfold FanoutState.yieldStep
  dsimp only
  split
  · exact ⟨shut.1, (leave_closed _ _).trans shut.2⟩
  · exact shut

/-- Nothing opens the stream again. -/
theorem FanoutState.Shut.step (shut : state.Shut)
    (stepped : fanoutStep streamName options state action = some next) : next.Shut := by
  have notKept : state.streamDropped ≠ false := by simp [shut.1]
  cases fanoutStep_move stepped with
  | read here => exact shut.continueWith _ _
  | appended here isOpen appended =>
      rw [shut.2] at isOpen
      cases isOpen
  | passedOver here closed => exact shut.afterAppend _ _ _
  | sentAll here => exact shut.afterAppend _ _ _
  | pruned here =>
      apply FanoutState.Shut.continueWith
      rw [foldl_removeSubscriber]
      exact shut
  | subscribed kept => exact absurd kept notKept
  | replayed found inUse unread => exact shut.yieldStep _ _
  | taken found inUse read took => exact shut.yieldStep _ _
  | left found =>
      unfold FanoutState.leaveRegistryStep
      dsimp only
      split
      · exact shut
      · exact ⟨shut.1, (leave_closed _ _).trans shut.2⟩
  | streamDropped kept => exact absurd kept notKept
  | _ => exact shut

theorem abortReader_pendingFor
    (stepped : fanoutStep streamName options state .abortReader = some next) :
    next.pendingFor handle = [] := by
  cases fanoutStep_move stepped with
  | aborted dropped => rfl

/-- A receive keeps the terminal event: what is queued is live, so nothing is skipped. -/
theorem Received.settled {guarantee : DeliveryGuarantee} {pending : List IndexedEvent}
    {subscription : SharedSubscription} (received : Received state handle subscription changed)
    (settled : Settled guarantee pending subscription) : Settled guarantee pending changed := by
  cases received with
  | @replayed event rest read =>
      refine ⟨?_, ?_, ?_⟩
      · simpa using settled.live
      · simpa using settled.last
      · refine settled.settled.imp ?_ ?_
        · intro has
          simpa [SharedSubscription.HasTerminal, read] using has
        · simp
  | @skipped event receiver read took early =>
      have queue := LiveReceiver.queued_of_take took
      have live := settled.live event (by simp [queue])
      exact absurd early (Nat.not_lt.mpr live)
  | @taken event receiver read took =>
      have queue := LiveReceiver.queued_of_take took
      refine ⟨?_, ?_, ?_⟩
      · intro other member
        simp only [yield_liveReceiver] at member
        simpa using settled.live other (by simp [queue, member])
      · simpa using settled.last
      · refine settled.settled.imp ?_ ?_
        · intro has
          simpa [SharedSubscription.HasTerminal, read, queue] using has
        · rintro ⟨isOpen, some⟩
          simpa using ⟨isOpen.take took, some⟩
  | ended read nothing ends => exact ⟨settled.live, settled.last, settled.settled⟩

/-- The send comes to the handle. -/
theorem mem_pendingFor {id : SubscriberId} {event : IndexedEvent}
    {targets : List (SubscriberId × Handle)} {stale : List SubscriberId} {buffer : List UInt8}
    (here : state.reader = .sending event ((id, handle) :: targets) stale buffer) :
    event ∈ state.pendingFor handle := by
  simp [FanoutState.pendingFor, here]

/-- A step adds nothing to what is pending. -/
theorem pendingFor_subset (shut : state.Shut)
    (stepped : fanoutStep streamName options state action = some next) :
    ∀ event ∈ next.pendingFor handle, event ∈ state.pendingFor handle := by
  intro event member
  by_cases aborts : action = .abortReader
  · subst aborts
    rw [abortReader_pendingFor stepped] at member
    cases member
  · rcases pendingFor_step shut stepped aborts with
      same | ⟨_, id, sent, targets, stale, buffer, here, only⟩
    · exact same ▸ member
    · rw [only event member]
      exact mem_pendingFor here

/-- A subscription with its terminal event, when only some of the pending sends are left. -/
theorem Settled.of_hasTerminal {guarantee : DeliveryGuarantee} {pending fewer : List IndexedEvent}
    {subscription : SharedSubscription} (settled : Settled guarantee pending subscription)
    (has : subscription.HasTerminal) (subset : ∀ event ∈ fewer, event ∈ pending) :
    Settled guarantee fewer subscription :=
  ⟨settled.live, fun event member => settled.last event (subset event member), .inl has⟩

/-- The terminal event reaches a settled subscription. -/
theorem Settled.delivered {guarantee : DeliveryGuarantee} {pending fewer : List IndexedEvent}
    {subscription : SharedSubscription} {event : IndexedEvent} {receiver : LiveReceiver}
    (settled : Settled guarantee pending subscription) (member : event ∈ pending)
    (sent : subscription.liveReceiver.deliver guarantee event = .delivered receiver)
    (subset : ∀ event ∈ fewer, event ∈ pending) :
    Settled guarantee fewer { subscription with liveReceiver := receiver } := by
  obtain ⟨terminal, live⟩ := settled.last event member
  rcases LiveReceiver.deliver_terminal terminal sent with queued | ⟨shut, rfl⟩
  · refine ⟨fun other queue => ?_, fun other rest => settled.last other (subset other rest), .inl ?_⟩
    · rcases List.mem_append.mp (queued ▸ queue) with earlier | last
      · exact settled.live other earlier
      · rw [List.mem_singleton.mp last]
        exact live
    · exact ⟨event, by simp [queued], terminal⟩
  · rcases settled.settled with has | ⟨isOpen, _⟩
    · exact settled.of_hasTerminal has subset
    · exact absurd isOpen shut

/-- A step behind the drop leaves the subscription settled. -/
theorem DroppedEnd.settled_step (dropped : DroppedEnd options.deliveryGuarantee handle state)
    (spares : Spares handle state action)
    (stepped : fanoutStep streamName options state action = some next)
    (found : next.subscriptions[handle]? = some changed) (inUse : changed.status = .inUse) :
    Settled options.deliveryGuarantee (next.pendingFor handle) changed := by
  cases fanoutStep_subStep stepped found with
  | same old missed =>
      have settled := dropped.settled changed old inUse
      by_cases aborts : action = .abortReader
      · subst aborts
        rw [abortReader_pendingFor stepped]
        exact settled.of_hasTerminal ((spares changed old inUse).2 rfl) (by simp)
      · rcases pendingFor_step dropped.shut stepped aborts with
          same | ⟨delivers, id, event, targets, stale, buffer, here, _⟩
        · rw [same]
          exact settled
        · -- The send was refused, so the receiver is closed and the event is there already.
          have refused := missed delivers id event targets stale buffer here
          rcases settled.settled with has | ⟨isOpen, _⟩
          · exact settled.of_hasTerminal has (pendingFor_subset dropped.shut stepped)
          · exact absurd refused (isOpen.not_stale event)
  | @delivered subscription receiver id event targets stale buffer old here sent becomes =>
      subst becomes
      exact (dropped.settled subscription old inUse).delivered (mem_pendingFor here) sent
        (pendingFor_subset dropped.shut stepped)
  | received receives old used received =>
      subst receives
      rcases pendingFor_step dropped.shut stepped (by simp) with same | ⟨delivers, _⟩
      · rw [same]
        exact received.settled (dropped.settled _ old used)
      · cases delivers
  | left old gone => exact absurd inUse gone
  | subscribed kept =>
      rw [dropped.shut.1] at kept
      cases kept
  | dropStream drops =>
      subst drops
      simp only [fanoutStep, dropped.shut.1, if_true] at stepped
      cases stepped

/-! ## Runs -/

theorem DroppedEnd.step (dropped : DroppedEnd options.deliveryGuarantee handle state)
    (spares : Spares handle state action)
    (stepped : fanoutStep streamName options state action = some next) :
    DroppedEnd options.deliveryGuarantee handle next where
  shut := dropped.shut.step stepped
  settled := fun _ found inUse => dropped.settled_step spares stepped found inUse
  ends := by
    have running : action ≠ .dropStream := by
      rintro rfl
      simp only [fanoutStep, dropped.shut.1, if_true] at stepped
      cases stepped
    exact endsAfterTerminal_step (fun _ found inUse => .settled (dropped.settled _ found inUse))
      dropped.ends running stepped

end Steps

section Runs

variable {streamName : String} {options : ValidConfig} {handle : Handle} {state next : FanoutState}
  {action : FanoutAction}

theorem keptEnd_init : KeptEnd options.toStreamConfig handle {} where
  invariant := fanoutInvariant_init
  late := fun _ found => by cases found
  ends := fun _ found => by cases found

theorem KeptEnd.step (kept : KeptEnd options.toStreamConfig handle state)
    (action_kept : StreamKept state action)
    (stepped : fanoutStep streamName options.toStreamConfig state action = some next) :
    KeptEnd options.toStreamConfig handle next where
  invariant := fanoutStep_invariant kept.invariant action_kept stepped
  late := fun _ found => kept.late_step action_kept stepped found
  ends := endsAfterTerminal_step
    (fun _ found inUse => kept.invariant.standing found inUse (kept.late _ found))
    kept.ends action_kept stepped

/-- In every run that spares the subscription it ends only behind a terminal event. -/
theorem endsAfterTerminal
    (reachable : (fanoutMachine streamName options).ReachableBy (Spares handle) state) :
    EndsAfterTerminal handle state := by
  have invariant : KeptEnd options.toStreamConfig handle state ∨
      DroppedEnd options.deliveryGuarantee handle state := by
    apply reachable.invariant (.inl keptEnd_init)
    intro state next action invariant spares stepped
    rcases invariant with kept | dropped
    · by_cases drops : action = .dropStream
      · subst drops
        have stepped : fanoutStep streamName options.toStreamConfig state .dropStream = some next :=
          stepped
        simp only [fanoutStep, kept.invariant.coherent.kept.2, Bool.false_eq_true, if_false,
          Option.some.injEq] at stepped
        subst stepped
        exact .inr (kept.dropStream spares)
      · exact .inl (kept.step drops stepped)
    · exact .inr (dropped.step spares stepped)
  rcases invariant with kept | dropped
  · exact kept.ends
  · exact dropped.ends

end Runs

end TokioProcessTools.OutputStream.Backend.Broadcast
