import TokioProcessTools.Foundation.Indexed
import TokioProcessTools.OutputStream.Backend.Broadcast.FanoutMoves

/-!
# What a step does to the log and to the subscriptions

The log only grows. A subscription keeps its handle, its snapshot and the number
of its first live event, and once it is dropped its receiver stays gone. A run
after a `try_subscribe` can therefore be compared with the state in which the
subscription was created.
-/

set_option autoImplicit false

namespace TokioProcessTools.OutputStream.Backend.Broadcast

open Foundation

/-- A channel whose receiver is gone refuses every send. -/
def LiveReceiver.Gone : LiveReceiver → Prop
  | .reliable channel => channel.receiverOpen = false
  | .bestEffort _ | .closed => True

theorem LiveReceiver.gone_drop (receiver : LiveReceiver) : receiver.drop.Gone := by
  cases receiver with
  | reliable channel => rfl
  | bestEffort queue => trivial
  | closed => trivial

theorem LiveReceiver.Gone.deliver {receiver next : LiveReceiver} {guarantee : DeliveryGuarantee}
    {event : IndexedEvent} (gone : receiver.Gone)
    (sent : receiver.deliver guarantee event = .delivered next) : next.Gone := by
  cases receiver with
  | reliable channel =>
      cases guarantee with
      | reliableWithBackpressure =>
          have refused : channel.receiverOpen = false := gone
          simp [LiveReceiver.deliver, BoundedChannel.trySend, refused] at sent
      | lossyWithoutBackpressure =>
          cases sent
          exact gone
  | bestEffort queue =>
      cases guarantee with
      | reliableWithBackpressure =>
          cases sent
          trivial
      | lossyWithoutBackpressure =>
          simp only [LiveReceiver.deliver] at sent
          split at sent
          · cases sent
            trivial
          · cases sent
  | closed =>
      cases guarantee <;> cases sent <;> trivial

/-- Only a send into a full channel waits. -/
theorem LiveReceiver.full_of_waits {receiver : LiveReceiver} {guarantee : DeliveryGuarantee}
    {event : IndexedEvent} (waits : receiver.deliver guarantee event = .waits) :
    ∃ channel, receiver = .reliable channel ∧ channel.trySend event = .full := by
  unfold LiveReceiver.deliver at waits
  split at waits
  · rename_i channel
    split at waits
    · cases waits
    · rename_i full
      exact ⟨channel, rfl, full⟩
    · cases waits
  · split at waits
    · cases waits
    · cases waits
  · cases waits

/-- The receiver of a dropped subscription is gone. -/
def SharedSubscription.Released (subscription : SharedSubscription) : Prop :=
  subscription.status = .dropped → subscription.liveReceiver.Gone

/-- A property of receivers that no operation on them destroys. -/
structure Stable (guarantee : DeliveryGuarantee) (property : LiveReceiver → Prop) : Prop where
  deliver : ∀ {receiver next event}, property receiver →
    receiver.deliver guarantee event = .delivered next → property next
  take : ∀ {receiver next event}, property receiver → receiver.take = some (event, next) →
    property next
  drop : ∀ {receiver}, property receiver → property receiver.drop

/-- What a step keeps of a subscription. -/
structure Evolves (guarantee : DeliveryGuarantee) (earlier later : SharedSubscription) : Prop where
  snapshot : later.snapshot = earlier.snapshot
  start : later.liveStartSeq = earlier.liveStartSeq
  released : earlier.Released → later.Released
  receiver : ∀ {property}, Stable guarantee property → property earlier.liveReceiver →
    property later.liveReceiver

theorem Evolves.refl (guarantee : DeliveryGuarantee) (subscription : SharedSubscription) :
    Evolves guarantee subscription subscription :=
  ⟨rfl, rfl, fun released => released, fun _ holds => holds⟩

theorem Evolves.trans {guarantee : DeliveryGuarantee} {first second third : SharedSubscription}
    (before : Evolves guarantee first second) (after : Evolves guarantee second third) :
    Evolves guarantee first third :=
  ⟨after.snapshot.trans before.snapshot, after.start.trans before.start,
    fun released => after.released (before.released released),
    fun stable holds => after.receiver stable (before.receiver stable holds)⟩

/-- A subscription in use stays so. -/
theorem Evolves.inUse {guarantee : DeliveryGuarantee} {earlier later : SharedSubscription}
    (inUse : later.status = .inUse) (snapshot : later.snapshot = earlier.snapshot)
    (start : later.liveStartSeq = earlier.liveStartSeq)
    (receiver : later.liveReceiver = earlier.liveReceiver ∨
      ∃ event, earlier.liveReceiver.take = some (event, later.liveReceiver)) :
    Evolves guarantee earlier later := by
  refine ⟨snapshot, start, ?_, ?_⟩
  · intro _ dropped
    rw [inUse] at dropped
    cases dropped
  · intro property stable holds
    rcases receiver with same | ⟨event, took⟩
    · rw [same]
      exact holds
    · exact stable.take holds took

/-- What a step can do to the list of subscriptions. -/
def Progress (options : StreamConfig) (earlier later : List SharedSubscription) : Prop :=
  later = earlier ∨
  (∃ new, later = earlier ++ [new] ∧ new.status = .inUse ∧
    (new.liveReceiver = .new options ∨ new.liveReceiver = .closed)) ∨
  ∃ handle subscription changed, earlier[handle]? = some subscription ∧
    later = earlier.set handle changed ∧ Evolves options.deliveryGuarantee subscription changed

variable {streamName : String} {options : StreamConfig} {state next : FanoutState}
  {action : FanoutAction} {handle : Handle} {subscription : SharedSubscription}

theorem continueWith_frame (state : FanoutState) (chunkSize : Nat) (buffer : List UInt8) :
    (state.continueWith chunkSize buffer).log = state.log ∧
      (state.continueWith chunkSize buffer).subscriptions = state.subscriptions := by
  cases buffer with
  | nil => exact ⟨rfl, rfl⟩
  | cons byte rest => exact ⟨rfl, rfl⟩

theorem afterAppend_frame (state : FanoutState) (chunkSize : Nat) (event : StreamEvent)
    (buffer : List UInt8) :
    (state.afterAppend chunkSize event buffer).log = state.log ∧
      (state.afterAppend chunkSize event buffer).subscriptions = state.subscriptions := by
  unfold FanoutState.afterAppend
  split
  · exact ⟨rfl, rfl⟩
  · exact continueWith_frame state chunkSize buffer

/-- The steps that leave the log and the subscriptions as they are, and those that change one. -/
def Recorded (options : StreamConfig) (state next : FanoutState) : Prop :=
  (∃ appended, next.log = state.log ++ appended) ∧
    Progress options state.subscriptions next.subscriptions

theorem Recorded.same (log : next.log = state.log)
    (subscriptions : next.subscriptions = state.subscriptions) : Recorded options state next :=
  ⟨⟨[], by rw [log, List.append_nil]⟩, .inl subscriptions⟩

theorem Recorded.change {changed : SharedSubscription}
    (found : state.subscriptions[handle]? = some subscription) (log : next.log = state.log)
    (subscriptions : next.subscriptions = state.subscriptions.set handle changed)
    (evolves : Evolves options.deliveryGuarantee subscription changed) : Recorded options state next :=
  ⟨⟨[], by rw [log, List.append_nil]⟩,
    .inr (.inr ⟨handle, subscription, changed, found, subscriptions, evolves⟩)⟩

theorem recorded_append {event : StreamEvent} {buffer : List UInt8}
    {order : List (SubscriberId × Handle)}
    (stepped : state.appendStep options event buffer order = some next) : Recorded options state next := by
  unfold FanoutState.appendStep at stepped
  split at stepped
  · cases stepped
    obtain ⟨log, subscriptions⟩ := afterAppend_frame state options.readChunkSize.bytes event buffer
    exact .same log subscriptions
  · split at stepped
    · split at stepped
      · cases stepped
      · cases stepped
        exact ⟨⟨_, rfl⟩, .inl rfl⟩
    · cases stepped

theorem recorded_yield {changed : SharedSubscription}
    (found : state.subscriptions[handle]? = some subscription)
    (inUse : changed.status = .inUse) (snapshot : changed.snapshot = subscription.snapshot)
    (start : changed.liveStartSeq = subscription.liveStartSeq)
    (receiver : changed.liveReceiver = subscription.liveReceiver ∨
      ∃ event, subscription.liveReceiver.take = some (event, changed.liveReceiver))
    (event : IndexedEvent) : Recorded options state (state.yieldStep handle changed event) := by
  unfold FanoutState.yieldStep
  split
  · exact .change found rfl rfl (.inUse inUse snapshot start receiver)
  · exact .change found rfl rfl (.inUse inUse snapshot start receiver)

theorem recorded_leaveRegistry (found : state.subscriptions[handle]? = some subscription) :
    Recorded options state (state.leaveRegistryStep handle subscription) := by
  have gone : Status.dropping ≠ .dropped := nofun
  unfold FanoutState.leaveRegistryStep
  split
  · exact .change found rfl rfl ⟨rfl, rfl, fun _ dropped => absurd dropped gone,
      fun _ holds => holds⟩
  · exact .change found rfl rfl ⟨rfl, rfl, fun _ dropped => absurd dropped gone,
      fun _ holds => holds⟩

theorem recorded_subscribe (state : FanoutState) (options : StreamConfig) :
    Recorded options state (state.subscribeStep options) := by
  unfold FanoutState.subscribeStep
  dsimp only
  split
  · exact ⟨⟨[], (List.append_nil _).symm⟩, .inr (.inl ⟨_, rfl, rfl, .inr rfl⟩)⟩
  · exact ⟨⟨[], (List.append_nil _).symm⟩, .inr (.inl ⟨_, rfl, rfl, .inl rfl⟩)⟩

/-- **What a step that keeps the stream does to the log and to the subscriptions.** -/
theorem fanoutStep_recorded (kept : StreamKept state action)
    (stepped : fanoutStep streamName options state action = some next) : Recorded options state next := by
  cases fanoutStep_move stepped with
  | @read bytes here =>
      obtain ⟨log, subscriptions⟩ := continueWith_frame state options.readChunkSize.bytes bytes
      exact .same log subscriptions
  | readEof here => exact .same rfl rfl
  | readError here => exact .same rfl rfl
  | appended here isOpen appended => exact recorded_append appended
  | @passedOver event buffer _ here closed =>
      obtain ⟨log, subscriptions⟩ := afterAppend_frame state options.readChunkSize.bytes event buffer
      exact .same log subscriptions
  | delivered here found sent =>
      refine .change found rfl rfl ⟨rfl, rfl, ?_, ?_⟩
      · intro released dropped
        exact (released dropped).deliver sent
      · intro property stable holds
        exact stable.deliver holds sent
  | missed here found refused => exact .same rfl rfl
  | sentStale here running => exact .same rfl rfl
  | @sentAll event stale buffer here =>
      obtain ⟨log, subscriptions⟩ :=
        afterAppend_frame state options.readChunkSize.bytes event.event buffer
      exact .same log subscriptions
  | @pruned stale buffer here =>
      obtain ⟨log, subscriptions⟩ := continueWith_frame
        { state with shared := stale.foldl BroadcastState.removeSubscriber state.shared }
        options.readChunkSize.bytes buffer
      exact .same log subscriptions
  | subscribed _ => exact recorded_subscribe state options
  | @replayed handle subscription event replay found inUse unread =>
      exact @recorded_yield _ _ _ _ { subscription with replay } found inUse rfl rfl (.inl rfl)
        event
  | @skipped handle subscription event liveReceiver found inUse read took early =>
      exact .change found rfl rfl (.inUse inUse rfl rfl (.inr ⟨event, took⟩))
  | @taken handle subscription event liveReceiver found inUse read took =>
      exact @recorded_yield _ _ _ _ { subscription with liveReceiver } found inUse rfl rfl
        (.inr ⟨event, took⟩) event
  | ended found inUse read nothing ends =>
      exact .change found rfl rfl (.inUse inUse rfl rfl (.inl rfl))
  | left found => exact recorded_leaveRegistry found
  | receiverDropped found =>
      refine .change found rfl rfl ⟨rfl, rfl, ?_, ?_⟩
      · intro _ _
        exact LiveReceiver.gone_drop _
      · intro property stable holds
        exact stable.drop holds
  | replaySealed => exact .same rfl rfl
  | streamDropped _ => exact absurd rfl kept
  | aborted _ => exact .same rfl rfl

/-! ## Runs -/

/-- A state in which a given subscription still exists, behind a given log. -/
def Descends (guarantee : DeliveryGuarantee) (log : List IndexedEvent) (handle : Handle)
    (origin : SharedSubscription) (state : FanoutState) : Prop :=
  (∃ appended, state.log = log ++ appended) ∧
    ∃ subscription, state.subscriptions[handle]? = some subscription ∧
      Evolves guarantee origin subscription

theorem Progress.find {earlier later : List SharedSubscription} (progress : Progress options earlier later)
    (found : earlier[handle]? = some subscription) :
    ∃ changed, later[handle]? = some changed ∧
      Evolves options.deliveryGuarantee subscription changed := by
  obtain ⟨inside, _⟩ := List.getElem?_eq_some_iff.mp found
  rcases progress with rfl | ⟨new, rfl, _, _⟩ | ⟨other, old, changed, at_other, rfl, evolves⟩
  · exact ⟨subscription, found, .refl _ _⟩
  · refine ⟨subscription, ?_, .refl _ _⟩
    rw [List.getElem?_append_left inside]
    exact found
  · by_cases same : other = handle
    · subst same
      rw [found, Option.some.injEq] at at_other
      subst at_other
      exact ⟨changed, List.getElem?_set_self inside, evolves⟩
    · refine ⟨subscription, ?_, .refl _ _⟩
      rw [List.getElem?_set_ne same]
      exact found

theorem Recorded.descends {log : List IndexedEvent} {origin : SharedSubscription}
    (recorded : Recorded options state next)
    (descends : Descends options.deliveryGuarantee log handle origin state) :
    Descends options.deliveryGuarantee log handle origin next := by
  obtain ⟨⟨more, grown⟩, progress⟩ := recorded
  obtain ⟨⟨appended, whole⟩, subscription, found, evolves⟩ := descends
  obtain ⟨changed, still, further⟩ := progress.find found
  refine ⟨⟨appended ++ more, ?_⟩, changed, still, evolves.trans further⟩
  rw [grown, whole, List.append_assoc]

/-- Every dropped subscription is released. -/
theorem Progress.released {earlier later : List SharedSubscription}
    (progress : Progress options earlier later)
    (released : EachAt earlier fun _ subscription => subscription.Released) :
    EachAt later fun _ subscription => subscription.Released := by
  rcases progress with rfl | ⟨new, rfl, inUse, _⟩ | ⟨handle, old, changed, found, rfl, evolves⟩
  · exact released
  · refine released.concat ?_
    intro dropped
    rw [inUse] at dropped
    cases dropped
  · refine EachAt.set (evolves.released (released handle old found)) ?_
    intro position subscription here _
    exact released position subscription here

theorem reachable_released {options : ValidConfig}
    (reachable : (fanoutMachine streamName options).ReachableBy StreamKept state) :
    EachAt state.subscriptions fun _ subscription => subscription.Released := by
  induction reachable with
  | init => exact EachAt.nil
  | step _ kept stepped released =>
      exact (fanoutStep_recorded kept stepped).2.released released

/-- A stable property of the new receivers holds of all receivers. -/
theorem reachable_stable {options : ValidConfig} {property : LiveReceiver → Prop}
    (stable : Stable options.deliveryGuarantee property)
    (initially : property (.new options.toStreamConfig)) (closed : property .closed)
    (reachable : (fanoutMachine streamName options).ReachableBy StreamKept state) :
    EachAt state.subscriptions fun _ subscription => property subscription.liveReceiver := by
  induction reachable with
  | init => exact EachAt.nil
  | step _ kept stepped ih =>
      obtain ⟨_, unchanged | ⟨new, added, _, fresh⟩ | ⟨handle, old, changed, found, set, evolves⟩⟩ :=
        fanoutStep_recorded kept stepped
      · rw [unchanged]
        exact ih
      · rw [added]
        refine ih.concat ?_
        rcases fresh with fresh | fresh
        · rw [fresh]
          exact initially
        · rw [fresh]
          exact closed
      · rw [set]
        refine EachAt.set (evolves.receiver stable (ih handle old found)) ?_
        intro position subscription here _
        exact ih position subscription here

/-- **A run after `try_subscribe` keeps the subscription it created.** -/
theorem descends_of_subscribe {options : ValidConfig} {before after : FanoutState}
    {actions : List FanoutAction}
    (subscribed : fanoutStep streamName options.toStreamConfig before .subscribe = some after)
    (ran : (fanoutMachine streamName options).execBy StreamKept after actions = some state) :
    ∃ appended subscription, state.log = before.log ++ appended ∧
      state.subscriptions[before.subscriptions.length]? = some subscription ∧
      subscription.snapshot = (before.shared.replaySnapshot options.toStreamConfig).1 ∧
      subscription.liveStartSeq = before.shared.nextSeq := by
  have created : ∃ origin, Descends options.deliveryGuarantee before.log
      before.subscriptions.length origin after ∧
      origin.snapshot = (before.shared.replaySnapshot options.toStreamConfig).1 ∧
      origin.liveStartSeq = before.shared.nextSeq := by
    simp only [fanoutStep, Option.ite_none_left_eq_some, Option.some.injEq] at subscribed
    obtain ⟨_, rfl⟩ := subscribed
    unfold FanoutState.subscribeStep
    dsimp only
    split
    · exact ⟨_, ⟨⟨[], (List.append_nil _).symm⟩, _, List.getElem?_concat_length, .refl _ _⟩, rfl, rfl⟩
    · exact ⟨_, ⟨⟨[], (List.append_nil _).symm⟩, _, List.getElem?_concat_length, .refl _ _⟩, rfl, rfl⟩
  obtain ⟨origin, descends, snapshot, start⟩ := created
  have final : Descends options.deliveryGuarantee before.log before.subscriptions.length origin
      state := by
    refine Machine.execBy_preserves ?_ descends ran
    intro state next action descends kept stepped
    exact (fanoutStep_recorded kept stepped).descends descends
  obtain ⟨⟨appended, whole⟩, subscription, found, evolves⟩ := final
  exact ⟨appended, subscription, whole, found, evolves.snapshot.trans snapshot,
    evolves.start.trans start⟩

end TokioProcessTools.OutputStream.Backend.Broadcast
