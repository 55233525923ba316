import TokioProcessTools.OutputStream.Backend.Broadcast.FanoutEnd
import TokioProcessTools.OutputStream.Backend.Broadcast.FastEnd
import TokioProcessTools.OutputStream.Backend.Broadcast.Reliable
import TokioProcessTools.OutputStream.Backend.SingleSubscriber.End
import TokioProcessTools.OutputStream.Visitor

/-!
# How a subscription ends

The contract of `Subscription::next_event` allows `None` only behind a terminal
event of the same subscription. The consumer loop relies on it: it takes `None`
for the end of the stream, so that a line in progress counts as complete.

Each backend keeps the contract as long as dropping the stream spares the
subscription (`none_only_after_terminal`). In such a run the consumer loop never
reads the `None`, because it has ended at the terminal event. A drop that does not
spare the subscription answers `None` behind an unfinished line
(`none_without_terminal`).
-/

set_option autoImplicit false

namespace TokioProcessTools.OutputStream.Backend

open Foundation

/-! ## The consumer loop -/

/-- The loop does not read past a terminal event. -/
theorem consumeSync_of_terminal {V Output : Type} (visitor : StreamVisitor V Output) (start : V)
    {events : List StreamEvent} (ended : ∃ event ∈ events, event.isTerminal = true)
    (later : List Wake) :
    consumeSync visitor start (nextEvents events ++ later) =
      consumeSync visitor start (nextEvents events) := by
  induction events generalizing start with
  | nil =>
      obtain ⟨event, member, _⟩ := ended
      cases member
  | cons event events inductive_hypothesis =>
      have rest : event.isTerminal = false → ∃ later ∈ events, later.isTerminal = true := by
        intro running
        obtain ⟨other, member, terminal⟩ := ended
        rcases List.mem_cons.mp member with rfl | member
        · rw [running] at terminal
          cases terminal
        · exact ⟨other, member, terminal⟩
      cases event with
      | chunk chunk =>
          simp only [nextEvents, List.map_cons, List.cons_append, consumeSync]
          congr 1
          funext reply
          obtain ⟨state, next⟩ := reply
          cases next with
          | stop => rfl
          | goOn => exact inductive_hypothesis state (rest rfl)
      | gap => exact inductive_hypothesis (visitor.onGap start) (rest rfl)
      | eof => rfl
      | readError error => rfl

/-- A subscription that has answered `None` has yielded a terminal event before, and no consumer
gets to see the answer. -/
structure EndsInOrder (yielded : List StreamEvent) : Prop where
  terminal : ∃ event ∈ yielded, event.isTerminal = true
  unread : ∀ {V Output : Type} (visitor : StreamVisitor V Output) (start : V),
    consumeSync visitor start (nextEvents yielded ++ [.nextEvent none]) =
      consumeSync visitor start (nextEvents yielded)

theorem EndsInOrder.of_terminal {yielded : List StreamEvent}
    (terminal : ∃ event ∈ yielded, event.isTerminal = true) : EndsInOrder yielded where
  terminal := terminal
  unread := fun visitor start => consumeSync_of_terminal visitor start terminal _

theorem not_endsInOrder_chunk (chunk : Chunk) : ¬ EndsInOrder [.chunk chunk] := by
  intro ends
  obtain ⟨event, member, terminal⟩ := ends.terminal
  rw [List.mem_singleton.mp member] at terminal
  cases terminal

/-! ## The backends -/

/-- **`next_event` answers `None` only behind a terminal event**, in every run of each backend that
spares the subscription. -/
theorem none_only_after_terminal (streamName : String) (options : ValidConfig) (handle : Nat) :
    (∀ capacity state subscription,
      (Broadcast.Fast.fastMachine streamName options capacity).ReachableBy
        (Broadcast.Fast.Spares handle) state →
      state.subscriptions[handle]? = some subscription → subscription.ended = true →
        EndsInOrder subscription.yielded) ∧
    (∀ state subscription,
      (Broadcast.fanoutMachine streamName options).ReachableBy (Broadcast.Spares handle) state →
      state.subscriptions[handle]? = some subscription → subscription.ended = true →
        EndsInOrder (subscription.yielded.map Broadcast.IndexedEvent.event)) ∧
    (∀ state subscription,
      (SingleSubscriber.streamMachine streamName options).ReachableBy
        (SingleSubscriber.Spares handle) state →
      state.subscriptions[handle]? = some subscription → subscription.ended = true →
        EndsInOrder subscription.received) := by
  refine ⟨?fast, ?fanout, ?single⟩
  case fast =>
    intro capacity state subscription reachable found ended
    exact .of_terminal (Broadcast.Fast.endsAfterTerminal reachable subscription found ended)
  case fanout =>
    intro state subscription reachable found ended
    obtain ⟨event, member, terminal⟩ :=
      Broadcast.endsAfterTerminal reachable subscription found ended
    exact .of_terminal ⟨event.event, List.mem_map_of_mem member, terminal⟩
  case single =>
    intro state subscription reachable found ended
    exact .of_terminal (SingleSubscriber.endsAfterTerminal reachable subscription found ended)

/-- In each backend the stream is dropped right behind the end of the source, before the
subscription has received it. The subscription yields the terminal event and then answers `None`. -/
theorem none_only_after_terminal_late_drop :
    (∃ state subscription,
      (Broadcast.Fast.fastMachine "stdout" Broadcast.Fast.smallConfig 2).ReachableBy
        (Broadcast.Fast.Spares 0) state ∧
      state.subscriptions[0]? = some subscription ∧ subscription.ended = true ∧
        EndsInOrder subscription.yielded) ∧
    (∃ state subscription,
      (Broadcast.fanoutMachine "stdout" Broadcast.reliableConfig).ReachableBy
        (Broadcast.Spares 0) state ∧
      state.subscriptions[0]? = some subscription ∧ subscription.ended = true ∧
        EndsInOrder (subscription.yielded.map Broadcast.IndexedEvent.event)) ∧
    ∃ state subscription,
      (SingleSubscriber.streamMachine "stdout" SingleSubscriber.plainConfig).ReachableBy
        (SingleSubscriber.Spares 0) state ∧
      state.subscriptions[0]? = some subscription ∧ subscription.ended = true ∧
        EndsInOrder subscription.received := by
  refine ⟨?fast, ?fanout, ?single⟩
  case fast =>
    obtain ⟨state, reachable, holds⟩ :=
      (Broadcast.Fast.fastMachine "stdout" Broadcast.Fast.smallConfig 2).exists_reachableBy
        (Broadcast.Fast.Spares 0)
        [.subscribeLock, .subscribeReceiver, .subscribeFinish, .readEof, .reader, .reader,
          .dropStream, .reader, .nextEvent 0, .nextEvent 0]
        (fun state => (state.subscriptions[0]?.any fun entry => entry.ended) = true)
        (by decide +kernel)
    obtain ⟨subscription, found, ended⟩ := (Option.any_eq_true _ _).mp holds
    exact ⟨state, subscription, reachable, found, ended,
      (none_only_after_terminal _ _ 0).1 _ state subscription reachable found ended⟩
  case fanout =>
    obtain ⟨state, reachable, holds⟩ :=
      (Broadcast.fanoutMachine "stdout" Broadcast.reliableConfig).exists_reachableBy
        (Broadcast.Spares 0)
        [.subscribe, .readEof, .append [(0, 0)], .dropStream, .deliver, .deliver, .recv 0, .recv 0]
        (fun state => (state.subscriptions[0]?.any fun entry => entry.ended) = true)
        (by decide +kernel)
    obtain ⟨subscription, found, ended⟩ := (Option.any_eq_true _ _).mp holds
    exact ⟨state, subscription, reachable, found, ended,
      (none_only_after_terminal _ _ 0).2.1 state subscription reachable found ended⟩
  case single =>
    obtain ⟨state, reachable, holds⟩ :=
      (SingleSubscriber.streamMachine "stdout" SingleSubscriber.plainConfig).exists_reachableBy
        (SingleSubscriber.Spares 0)
        [.subscribe, .changed, .readEof, .reader, .dropStream, .reader, .nextEvent 0, .nextEvent 0]
        (fun state => (state.subscriptions[0]?.any fun entry => entry.ended) = true)
        (by decide +kernel)
    obtain ⟨subscription, found, ended⟩ := (Option.any_eq_true _ _).mp holds
    exact ⟨state, subscription, reachable, found, ended,
      (none_only_after_terminal _ _ 0).2.2 state subscription reachable found ended⟩

/-- In each backend the source stays open behind a chunk without a line break, and the stream is
dropped. The subscription yields the chunk and answers `None`. -/
theorem none_without_terminal :
    (∃ state subscription,
      (Broadcast.Fast.fastMachine "stdout" Broadcast.Fast.smallConfig 2).Reachable state ∧
      state.subscriptions[0]? = some subscription ∧ subscription.ended = true ∧
        subscription.yielded = [.chunk ⟨[97, 98], 0⟩] ∧ ¬ EndsInOrder subscription.yielded) ∧
    (∃ state subscription,
      (Broadcast.fanoutMachine "stdout" Broadcast.reliableConfig).Reachable state ∧
      state.subscriptions[0]? = some subscription ∧ subscription.ended = true ∧
        subscription.yielded = [⟨0, .chunk ⟨[97, 98], 0⟩⟩] ∧
        ¬ EndsInOrder (subscription.yielded.map Broadcast.IndexedEvent.event)) ∧
    ∃ state subscription,
      (SingleSubscriber.streamMachine "stdout" SingleSubscriber.plainConfig).Reachable state ∧
      state.subscriptions[0]? = some subscription ∧ subscription.ended = true ∧
        subscription.received = [.chunk ⟨[97], 0⟩] ∧ ¬ EndsInOrder subscription.received := by
  refine ⟨?fast, ?fanout, ?single⟩
  case fast =>
    obtain ⟨state, reachable, holds⟩ :=
      (Broadcast.Fast.fastMachine "stdout" Broadcast.Fast.smallConfig 2).exists_reachableBy
        (fun _ _ => True)
        [.subscribeLock, .subscribeReceiver, .subscribeFinish, .read [97, 98], .reader, .reader,
          .dropStream, .abortReader, .nextEvent 0, .nextEvent 0]
        (fun state => (state.subscriptions[0]?.any fun entry =>
          entry.ended = true ∧ entry.yielded = [.chunk ⟨[97, 98], 0⟩]) = true)
        (by decide +kernel)
    obtain ⟨subscription, found, ends⟩ := (Option.any_eq_true _ _).mp holds
    obtain ⟨ended, yielded⟩ := of_decide_eq_true ends
    refine ⟨state, subscription, reachable, found, ended, yielded, ?_⟩
    rw [yielded]
    exact not_endsInOrder_chunk _
  case fanout =>
    obtain ⟨state, reachable, holds⟩ :=
      (Broadcast.fanoutMachine "stdout" Broadcast.reliableConfig).exists_reachableBy
        (fun _ _ => True)
        [.subscribe, .read [97, 98], .append [(0, 0)], .deliver, .deliver, .dropStream,
          .abortReader, .recv 0, .recv 0]
        (fun state => (state.subscriptions[0]?.any fun entry =>
          entry.ended = true ∧ entry.yielded = [⟨0, .chunk ⟨[97, 98], 0⟩⟩]) = true)
        (by decide +kernel)
    obtain ⟨subscription, found, ends⟩ := (Option.any_eq_true _ _).mp holds
    obtain ⟨ended, yielded⟩ := of_decide_eq_true ends
    refine ⟨state, subscription, reachable, found, ended, yielded, ?_⟩
    rw [yielded]
    exact not_endsInOrder_chunk _
  case single =>
    obtain ⟨state, reachable, holds⟩ :=
      (SingleSubscriber.streamMachine "stdout" SingleSubscriber.plainConfig).exists_reachableBy
        (fun _ _ => True)
        [.subscribe, .changed, .read [97], .reader, .reader, .dropStream, .abortReader,
          .nextEvent 0, .nextEvent 0]
        (fun state => (state.subscriptions[0]?.any fun entry =>
          entry.ended = true ∧ entry.received = [.chunk ⟨[97], 0⟩]) = true)
        (by decide +kernel)
    obtain ⟨subscription, found, ends⟩ := (Option.any_eq_true _ _).mp holds
    obtain ⟨ended, yielded⟩ := of_decide_eq_true ends
    refine ⟨state, subscription, reachable, found, ended, yielded, ?_⟩
    rw [yielded]
    exact not_endsInOrder_chunk _

end TokioProcessTools.OutputStream.Backend
