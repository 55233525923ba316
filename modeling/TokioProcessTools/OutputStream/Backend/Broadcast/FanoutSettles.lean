import TokioProcessTools.Foundation.Settling
import TokioProcessTools.OutputStream.Backend.Broadcast.FanoutLines

/-!
# Delivery on the fanout path comes to an end

Between two reads the reader appends what it has read, sends it to every
subscriber and prunes the stale ones. Under reliable delivery a send waits while
the channel is full, and only its subscriber can make room. So the reader and the
subscribers depend on each other.

They never wait for each other in a circle, and none of them works forever. Every
run of their own steps is bounded, and when none of them can move, the reader is
back at its read or finished, and every subscription in use has yielded all that
it is told (`fanout_settles`). This is said of a stream that is not dropped. Behind
its drop the reader is aborted wherever it waits, and what it has in its hands is
lost.
-/

set_option autoImplicit false

namespace TokioProcessTools.OutputStream.Backend.Broadcast

open Foundation SingleSubscriber

/-! ## Work -/

/-- What a subscription still has to do: yield what is there for it, and be gone once it leaves. -/
def SharedSubscription.work (subscription : SharedSubscription) : Nat :=
  subscription.replay.length + subscription.liveReceiver.queued.length +
    if subscription.status = .dropping then 1 else 0

/-- What the reader still has to do, with a number of subscriptions. Each byte of the buffer may be a
chunk of its own; each send may add an event to a queue. -/
def Reader.work (count : Nat) : Reader → Nat
  | .reading | .finished | .aborted => 0
  | .appending _ buffer => (buffer.length + 1) * (2 * count + 4)
  | .sending _ targets _ buffer => buffer.length * (2 * count + 4) + 2 * targets.length + 2
  | .pruning _ buffer => buffer.length * (2 * count + 4) + 1

/-- The work of all parties. -/
def FanoutState.work (state : FanoutState) : Nat :=
  state.reader.work state.subscriptions.length +
    ReplayRetention.totalSize SharedSubscription.work state.subscriptions

/-- The actions of the parties themselves: the reader's between two reads, a call of `recv` with an
event for it, and the end of a drop. -/
def Own (state : FanoutState) : FanoutAction → Prop
  | .append _ | .deliver | .prune | .dropReceiver _ => True
  | .recv handle => ∃ subscription ∈ state.subscriptions[handle]?,
      subscription.replay ≠ [] ∨ subscription.liveReceiver.queued ≠ []
  | .read _ | .readEof | .readError _ | .subscribe | .leaveRegistry _ | .sealReplay | .dropStream
  | .abortReader => False

instance (state : FanoutState) : DecidablePred (Own state)
  | .append _ | .deliver | .prune | .dropReceiver _ => .isTrue trivial
  | .recv handle => inferInstanceAs (Decidable (∃ subscription ∈ state.subscriptions[handle]?, _))
  | .read _ | .readEof | .readError _ | .subscribe | .leaveRegistry _ | .sealReplay | .dropStream
  | .abortReader => .isFalse id

section Work

variable {streamName : String} {options : StreamConfig} {state next : FanoutState}
  {action : FanoutAction}

theorem Own.kept (own : Own state action) : StreamKept state action := by
  rintro rfl
  exact own

/-- The reader goes on with its buffer. -/
theorem continueWith_work (sized : 0 < options.readChunkSize.bytes) (state : FanoutState)
    (buffer : List UInt8) (count : Nat) :
    (state.continueWith options.readChunkSize.bytes buffer).reader.work count ≤
      buffer.length * (2 * count + 4) := by
  cases buffer with
  | nil => exact Nat.zero_le _
  | cons byte rest =>
      have shorter : ((byte :: rest).drop options.readChunkSize.bytes).length + 1 ≤
          (byte :: rest).length := by
        rw [List.length_drop, List.length_cons]
        omega
      exact Nat.mul_le_mul_right _ shorter

theorem afterAppend_work (sized : 0 < options.readChunkSize.bytes) (state : FanoutState)
    (event : StreamEvent) (buffer : List UInt8) (count : Nat) :
    (state.afterAppend options.readChunkSize.bytes event buffer).reader.work count ≤
      buffer.length * (2 * count + 4) := by
  unfold FanoutState.afterAppend
  split
  · exact Nat.zero_le _
  · exact continueWith_work sized state buffer count

/-- A send adds at most one event. -/
theorem LiveReceiver.queued_of_delivered {guarantee : DeliveryGuarantee} {event : IndexedEvent}
    {receiver changed : LiveReceiver} (sent : receiver.deliver guarantee event = .delivered changed) :
    changed.queued.length ≤ receiver.queued.length + 1 := by
  unfold LiveReceiver.deliver at sent
  split at sent
  · rename_i channel
    split at sent
    · rename_i accepted
      cases sent
      obtain ⟨_, _, rfl⟩ := BoundedChannel.of_sent accepted
      simp [LiveReceiver.queued]
    · cases sent
    · cases sent
  · rename_i queue
    rcases queue.push_cases event with ⟨_, outcome⟩ | ⟨_, _, outcome⟩ | ⟨_, _, _, outcome⟩ |
      ⟨_, _, full, large, outcome⟩ | ⟨_, _, _, _, outcome⟩
    · rw [outcome] at sent
      cases sent
    all_goals
      rw [outcome] at sent
      cases sent
      simp only [LiveReceiver.queued, List.length_append, List.length_cons, List.length_nil]
      omega
  · cases sent
    exact Nat.le_succ _

/-- There are no more entries than subscriptions. -/
theorem Entries.length_le {entries : List (SubscriberId × Handle)} {count : Nat}
    (valid : Entries entries count) : entries.length ≤ count := by
  have inside : entries.map Prod.snd ⊆ List.range count := by
    intro handle member
    obtain ⟨entry, present, rfl⟩ := List.mem_map.mp member
    exact List.mem_range.mpr (valid.inside entry present)
  have shorter := valid.nodup.length_le_of_subset inside
  rwa [List.length_map, List.length_range] at shorter

/-- One subscription changes, and with it its work. -/
theorem work_set {handle : Handle} {subscription changed : SharedSubscription} {reader : Reader}
    (found : state.subscriptions[handle]? = some subscription)
    (reads : next.reader = reader)
    (subscriptions : next.subscriptions = state.subscriptions.set handle changed)
    (less : reader.work state.subscriptions.length + changed.work <
      state.reader.work state.subscriptions.length + subscription.work) :
    next.work < state.work := by
  have total := ReplayRetention.totalSize_set SharedSubscription.work found changed
  rw [FanoutState.work, FanoutState.work, reads, subscriptions, List.length_set]
  omega

/-- Only the reader changes. -/
theorem work_reader (subscriptions : next.subscriptions = state.subscriptions)
    (less : next.reader.work state.subscriptions.length <
      state.reader.work state.subscriptions.length) : next.work < state.work := by
  rw [FanoutState.work, FanoutState.work, subscriptions]
  omega

/-- A subscription yields. -/
theorem work_yield {handle : Handle} {subscription changed : SharedSubscription}
    (found : state.subscriptions[handle]? = some subscription) (event : IndexedEvent)
    (less : changed.work < subscription.work) :
    (state.yieldStep handle changed event).work < state.work := by
  unfold FanoutState.yieldStep
  split
  · exact work_set found rfl rfl (Nat.add_lt_add_left less _)
  · exact work_set found rfl rfl (Nat.add_lt_add_left less _)

/-- **Every step of the parties themselves uses up work.** -/
theorem work_lt (sized : 0 < options.readChunkSize.bytes)
    (nonZero : ∀ retention ∈ options.replayRetention, retention.NonZero)
    (coherent : Coherent options state) (own : Own state action)
    (stepped : fanoutStep streamName options state action = some next) : next.work < state.work := by
  cases fanoutStep_move stepped with
  | read _ | readEof _ | readError _ | subscribed _ | left _ | replaySealed | streamDropped _
  | aborted _ => exact own.elim
  | @appended event buffer order _ here _ appended =>
      have effect := appendStep_appended coherent nonZero appended
      have few := (coherent.registry.perm effect.perm).length_le
      refine work_reader effect.subscriptions ?_
      rw [effect.reader, here, Reader.work, Reader.work,
        Nat.add_one_mul buffer.length (2 * state.subscriptions.length + 4)]
      omega
  | passedOver _ closed =>
      rw [coherent.kept.1] at closed
      cases closed
  | @delivered event id handle targets stale buffer subscription receiver here found sent =>
      have more := LiveReceiver.queued_of_delivered sent
      refine work_set found rfl rfl ?_
      simp only [here, Reader.work, SharedSubscription.work, List.length_cons]
      omega
  | missed here _ _ =>
      refine work_reader rfl ?_
      rw [here, Reader.work, Reader.work, List.length_cons]
      omega
  | sentStale here _ =>
      refine work_reader rfl ?_
      rw [here, Reader.work, Reader.work]
      omega
  | @sentAll event stale buffer here =>
      refine work_reader (afterAppend_frame _ _ _ _).2 ?_
      have rest := afterAppend_work sized state event.event buffer state.subscriptions.length
      rw [here, Reader.work]
      omega
  | @pruned stale buffer here =>
      refine work_reader (continueWith_frame _ _ _).2 ?_
      refine Nat.lt_of_le_of_lt (continueWith_work sized _ buffer _) ?_
      rw [here, Reader.work]
      omega
  | replayed found _ unread =>
      refine work_yield found _ ?_
      simp only [SharedSubscription.work, unread, List.length_cons]
      omega
  | skipped found _ _ took _ =>
      refine work_set found rfl rfl (Nat.add_lt_add_left ?_ _)
      simp only [SharedSubscription.work, LiveReceiver.queued_of_take took, List.length_cons]
      omega
  | taken found _ _ took =>
      refine work_yield found _ ?_
      simp only [SharedSubscription.work, LiveReceiver.queued_of_take took, List.length_cons]
      omega
  | ended found _ read nothing _ =>
      obtain ⟨subscription, there, some⟩ := own
      cases found.symm.trans there
      rw [LiveReceiver.queued_of_take_none nothing] at some
      rcases some with some | some
      · exact absurd read some
      · exact absurd rfl some
  | @receiverDropped handle subscription found =>
      simp only [fanoutStep, found, Option.bind_eq_bind, Option.bind_some,
        Option.ite_none_right_eq_some] at stepped
      have fewer : subscription.liveReceiver.drop.queued.length ≤
          subscription.liveReceiver.queued.length := by
        cases subscription.liveReceiver with
        | reliable channel => exact Nat.zero_le _
        | bestEffort queue | closed => exact Nat.le_refl _
      refine work_set found rfl rfl (Nat.add_lt_add_left ?_ _)
      rw [SharedSubscription.work, SharedSubscription.work, stepped.1, if_pos rfl,
        if_neg (fun same => by cases same)]
      exact Nat.add_lt_add_of_le_of_lt (Nat.add_le_add_left fewer _) Nat.one_pos

end Work

/-! ## A settled state -/

section Settled

variable {streamName : String} {options : ValidConfig} {state : FanoutState} {handle : Handle}
  {subscription : SharedSubscription}

/-- A channel has room for something. -/
def LiveReceiver.Roomy : LiveReceiver → Prop
  | .reliable channel => 0 < channel.capacity
  | .bestEffort _ | .closed => True

theorem stable_roomy (guarantee : DeliveryGuarantee) : Stable guarantee LiveReceiver.Roomy where
  deliver := by
    intro receiver next event roomy sent
    unfold LiveReceiver.deliver at sent
    split at sent
    · split at sent
      · rename_i accepted
        cases sent
        obtain ⟨_, _, rfl⟩ := BoundedChannel.of_sent accepted
        exact roomy
      · cases sent
      · cases sent
    · split at sent
      · cases sent
        trivial
      · cases sent
    · cases sent
      exact roomy
  take := by
    intro receiver next event roomy took
    rcases LiveReceiver.take_cases took with ⟨channel, rest, rfl, _, rfl⟩ | ⟨queue, rest, rfl, _, rfl⟩
    · exact roomy
    · trivial
  drop := by
    intro receiver roomy
    cases receiver with
    | reliable channel => exact roomy
    | bestEffort queue | closed => trivial

theorem reachable_roomy
    (reachable : (fanoutMachine streamName options).ReachableBy StreamKept state) :
    EachAt state.subscriptions fun _ subscription => subscription.liveReceiver.Roomy := by
  refine reachable_stable (stable_roomy _) ?_ trivial reachable
  unfold LiveReceiver.new
  split
  · exact options.maxBufferedChunks_pos
  · trivial

/-- A subscription in use with an event for it can yield. -/
theorem exists_recv (found : state.subscriptions[handle]? = some subscription)
    (inUse : subscription.status = .inUse)
    (ahead : subscription.replay ≠ [] ∨ subscription.liveReceiver.queued ≠ []) :
    ∃ next, fanoutStep streamName options.toStreamConfig state (.recv handle) = some next := by
  simp only [fanoutStep, found, Option.bind_eq_bind, Option.bind_some, inUse, if_true,
    FanoutState.recvStep]
  cases unread : subscription.replay with
  | cons event replay => exact ⟨_, rfl⟩
  | nil =>
      cases took : subscription.liveReceiver.take with
      | none =>
          rw [unread, LiveReceiver.queued_of_take_none took] at ahead
          simp at ahead
      | some taken =>
          dsimp only
          split
          · exact ⟨_, rfl⟩
          · exact ⟨_, rfl⟩

/-- In a settled state nothing is there for a subscription in use. -/
theorem Settled.nothing_left (settled : (fanoutMachine streamName options).Settled Own state)
    (found : state.subscriptions[handle]? = some subscription)
    (inUse : subscription.status = .inUse) :
    subscription.replay = [] ∧ subscription.liveReceiver.queued = [] := by
  by_contra left
  rw [not_and_or] at left
  obtain ⟨next, taken⟩ := @exists_recv streamName options _ _ _ found inUse left
  cases (settled (.recv handle) ⟨subscription, found, left⟩).symm.trans taken

/-- **In a settled state the reader waits for the source or is finished.** A reader that waits for
room at a subscription would leave that subscription something to do. -/
theorem Settled.reader (settled : (fanoutMachine streamName options).Settled Own state)
    (reachable : (fanoutMachine streamName options).ReachableBy StreamKept state) :
    state.reader = .reading ∨ state.reader = .finished := by
  have coherent := coherent_of_reachable reachable
  have placed := coherent.reader
  cases here : state.reader with
  | reading => exact .inl rfl
  | finished => exact .inr rfl
  | aborted =>
      rw [here] at placed
      exact placed.elim
  | appending event buffer =>
      obtain ⟨next, appended⟩ :=
        exists_appendStep coherent options.retention_nonZero event buffer
      have stuck := settled (.append state.shared.subscribers) trivial
      simp only [fanoutMachine, fanoutStep, here] at stuck
      cases stuck.symm.trans appended
  | pruning stale buffer =>
      have stuck := settled .prune trivial
      simp [fanoutMachine, fanoutStep, FanoutState.pruneStep, here] at stuck
  | sending event targets stale buffer =>
      have stuck := settled .deliver trivial
      rw [here] at placed
      cases targets with
      | nil =>
          simp only [fanoutMachine, fanoutStep, FanoutState.deliverStep, here] at stuck
          split at stuck <;> cases stuck
      | cons target targets =>
          obtain ⟨id, handle⟩ := target
          have inside := placed.2.1.inside (id, handle) List.mem_cons_self
          obtain ⟨subscription, found⟩ : ∃ subscription, state.subscriptions[handle]? =
            some subscription := ⟨_, List.getElem?_eq_getElem inside⟩
          have waits : WaitsFor streamName options.toStreamConfig state handle :=
            ⟨⟨event, id, targets, stale, buffer, here⟩, stuck⟩
          obtain ⟨present, channel, receiver, full⟩ := waits.full (reachable_released reachable) found
          have roomy : subscription.liveReceiver.Roomy := reachable_roomy reachable handle _ found
          rw [receiver] at roomy
          cases status : subscription.status with
          | dropped => exact absurd status present
          | dropping =>
              have leaves := settled (.dropReceiver handle) trivial
              simp [fanoutMachine, fanoutStep, found, status] at leaves
          | inUse =>
              have empty := (Settled.nothing_left settled found status).2
              rw [receiver] at empty
              have length := congrArg List.length empty
              exact absurd (Nat.lt_of_lt_of_le roomy full) (Nat.not_lt_of_le (Nat.le_of_eq length))

end Settled

/-! ## Runs -/

/-- A subscription in use has yielded an account of its snapshot and of all that was appended since:
under reliable delivery these events themselves. -/
structure ToldAll (guarantee : DeliveryGuarantee) (state : FanoutState)
    (subscription : SharedSubscription) : Prop where
  account : ∃ first ≤ state.log.length,
    subscription.snapshot ++ state.log.drop subscription.liveStartSeq = state.log.drop first ∧
      Tiles (Reports state.events) first (subscription.yielded.map IndexedEvent.event)
        state.log.length
  exact : guarantee = .reliableWithBackpressure →
    subscription.yielded = subscription.snapshot ++ state.log.drop subscription.liveStartSeq

/-- What the parties arrive at on their own: the reader waits for the source or is finished, nothing
that it read is left in its hands, and every subscription in use was told everything. -/
structure Idle (guarantee : DeliveryGuarantee) (state : FanoutState) : Prop where
  reader : state.reader = .reading ∨ state.reader = .finished
  told : ∀ (handle : Handle) subscription, state.subscriptions[handle]? = some subscription →
    subscription.status = .inUse → ToldAll guarantee state subscription

section Runs

variable {streamName : String} {options : ValidConfig} {state middle : FanoutState}
  {actions : List FanoutAction}

theorem settled_idle
    (reachable : (fanoutMachine streamName options).ReachableBy StreamKept state)
    (settled : (fanoutMachine streamName options).Settled Own state) :
    Idle options.deliveryGuarantee state := by
  have reader := Settled.reader settled reachable
  refine ⟨reader, ?_⟩
  intro handle subscription found inUse
  obtain ⟨first, bound, start, tiles, _⟩ := reachable_told reachable found inUse
  obtain ⟨read, empty⟩ := Settled.nothing_left settled found inUse
  have idle : state.pendingFor handle = [] := by
    rcases reader with here | here <;> simp [FanoutState.pendingFor, here]
  have all : state.outlook handle subscription = subscription.yielded := by
    rw [FanoutState.outlook_eq, read, empty, idle, List.append_nil]
    exact List.append_nil _
  rw [all] at tiles
  refine ⟨⟨first, bound, start, tiles⟩, fun reliable => ?_⟩
  have invariant : FanoutInvariant (reliableModel reliable) state :=
    reachable_fanoutInvariant reachable
  rw [← all]
  exact invariant.whole found inUse

theorem reachable_own {next : FanoutState} {action : FanoutAction}
    (reachable : (fanoutMachine streamName options).ReachableBy StreamKept state)
    (own : Own state action)
    (stepped : (fanoutMachine streamName options).step state action = some next) :
    (fanoutMachine streamName options).ReachableBy StreamKept next :=
  reachable.step own.kept stepped

theorem reachable_work_lt {next : FanoutState} {action : FanoutAction}
    (reachable : (fanoutMachine streamName options).ReachableBy StreamKept state)
    (own : Own state action)
    (stepped : (fanoutMachine streamName options).step state action = some next) :
    next.work < state.work :=
  work_lt options.readChunkSize_pos options.retention_nonZero (coherent_of_reachable reachable) own
    stepped

/-- **Delivery comes to an end, and everyone was told**, as long as the stream is not dropped. In any
state reached so the parties go on by themselves: the reader between two reads, the subscriptions with
what is there for them, in any order. Such a run is never longer than the work there was at its start.
A run that cannot go on is not stuck: the reader is at its read or finished, and every subscription in
use has yielded all that it is told. Whatever was done so far, the run can be continued to this
point. -/
theorem fanout_settles
    (reachable : (fanoutMachine streamName options).ReachableBy StreamKept state)
    (ran : (fanoutMachine streamName options).execBy Own state actions = some middle) :
    actions.length + middle.work ≤ state.work ∧
      ((fanoutMachine streamName options).Settled Own middle →
        Idle options.deliveryGuarantee middle) ∧
      ∃ more final, (fanoutMachine streamName options).execBy Own middle more = some final ∧
        Idle options.deliveryGuarantee final := by
  have later : (fanoutMachine streamName options).ReachableBy StreamKept middle :=
    Machine.execBy_preserves reachable_own reachable ran
  refine ⟨Machine.length_add_work_le reachable_own reachable_work_lt reachable ran,
    settled_idle later, ?_⟩
  obtain ⟨more, final, executed, known, settled⟩ :=
    Machine.exists_settled reachable_own reachable_work_lt later
  exact ⟨more, final, executed, settled_idle known settled⟩

/-- The reader waits for room at a subscription with two events to read. Once these are yielded, the
reader goes on. -/
theorem fanout_settles_waiting :
    ∃ state middle, (fanoutMachine "stdout" reliableConfig).ReachableBy StreamKept state ∧
      fanoutStep "stdout" reliableConfig.toStreamConfig state .deliver = none ∧
      (fanoutMachine "stdout" reliableConfig).execBy Own state [.recv 0, .recv 0, .deliver] =
        some middle ∧
      3 + middle.work ≤ state.work ∧
      ∃ more final, (fanoutMachine "stdout" reliableConfig).execBy Own middle more = some final ∧
        Idle reliableConfig.deliveryGuarantee final := by
  obtain ⟨state, reachable, waits, goesOn⟩ :=
    (fanoutMachine "stdout" reliableConfig).exists_reachableBy StreamKept
      [.read [1, 2], .append [], .deliver, .subscribe, .read [3, 4, 5], .append [(0, 0)], .deliver,
        .deliver, .append [(0, 0)]]
      (fun state => fanoutStep "stdout" reliableConfig.toStreamConfig state .deliver = none ∧
        ((fanoutMachine "stdout" reliableConfig).execBy Own state
          [.recv 0, .recv 0, .deliver]).isSome = true)
      (by decide +kernel)
  obtain ⟨middle, ran⟩ := Option.isSome_iff_exists.mp goesOn
  obtain ⟨bounded, _, continued⟩ := fanout_settles reachable ran
  exact ⟨state, middle, reachable, waits, ran, bounded, continued⟩

end Runs

end TokioProcessTools.OutputStream.Backend.Broadcast
