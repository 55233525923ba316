import TokioProcessTools.OutputStream.Backend.Broadcast.State

/-!
# The best-effort live queue

A lossy subscriber has a queue of bounded length. A push into a full queue
throws away everything in it and puts one gap in its place, followed by the new
event if the capacity leaves room for it. The terminal event is always appended,
also beyond the capacity, and closes the queue.
-/

set_option autoImplicit false

namespace TokioProcessTools.OutputStream.Backend.Broadcast

/-- `BestEffortLiveQueue`, with the state behind its lock. -/
structure BestEffortLiveQueue where
  capacity : Nat
  events : List IndexedEvent := []
  closed : Bool := false
  deriving DecidableEq, Repr

namespace BestEffortLiveQueue

/-- `BestEffortLiveQueue::push`, and whether the queue was still open. -/
def push (queue : BestEffortLiveQueue) (event : IndexedEvent) : BestEffortLiveQueue × Bool :=
  if queue.closed then (queue, false)
  else
    match event.event with
    | .chunk _ | .gap =>
        if queue.capacity ≤ queue.events.length then
          let marker : IndexedEvent := ⟨event.seq, .gap⟩
          if 1 < queue.capacity then ({ queue with events := [marker, event] }, true)
          else ({ queue with events := [marker] }, true)
        else ({ queue with events := queue.events ++ [event] }, true)
    | .eof | .readError _ =>
        ({ queue with events := queue.events ++ [event], closed := true }, true)

theorem push_running (queue : BestEffortLiveQueue) (event : IndexedEvent)
    (isOpen : ¬ queue.closed = true) (running : event.event.isTerminal = false) :
    queue.push event =
      if queue.capacity ≤ queue.events.length then
        if 1 < queue.capacity then ({ queue with events := [⟨event.seq, .gap⟩, event] }, true)
        else ({ queue with events := [⟨event.seq, .gap⟩] }, true)
      else ({ queue with events := queue.events ++ [event] }, true) := by
  unfold push
  rw [if_neg isOpen]
  cases kind : event.event with
  | chunk chunk => rfl
  | gap => rfl
  | eof => simp [kind, StreamEvent.isTerminal] at running
  | readError error => simp [kind, StreamEvent.isTerminal] at running

theorem push_terminal (queue : BestEffortLiveQueue) (event : IndexedEvent)
    (isOpen : ¬ queue.closed = true) (terminal : event.event.isTerminal = true) :
    queue.push event =
      ({ queue with events := queue.events ++ [event], closed := true }, true) := by
  unfold push
  rw [if_neg isOpen]
  cases kind : event.event with
  | chunk chunk => simp [kind] at terminal
  | gap => simp [kind] at terminal
  | eof => rfl
  | readError error => rfl

/-- What a push can do: nothing, close with the terminal event, append, or overflow. -/
theorem push_cases (queue : BestEffortLiveQueue) (event : IndexedEvent) :
    (queue.closed = true ∧ queue.push event = (queue, false)) ∨
    (queue.closed = false ∧ event.event.isTerminal = true ∧ queue.push event =
      ({ queue with events := queue.events ++ [event], closed := true }, true)) ∨
    (queue.closed = false ∧ event.event.isTerminal = false ∧
      queue.events.length < queue.capacity ∧
      queue.push event = ({ queue with events := queue.events ++ [event] }, true)) ∨
    (queue.closed = false ∧ event.event.isTerminal = false ∧
      queue.capacity ≤ queue.events.length ∧ 1 < queue.capacity ∧
      queue.push event = ({ queue with events := [⟨event.seq, .gap⟩, event] }, true)) ∨
    (queue.closed = false ∧ event.event.isTerminal = false ∧
      queue.capacity ≤ queue.events.length ∧ queue.capacity ≤ 1 ∧
      queue.push event = ({ queue with events := [⟨event.seq, .gap⟩] }, true)) := by
  by_cases isClosed : queue.closed = true
  · exact .inl ⟨isClosed, if_pos isClosed⟩
  · have isOpen : queue.closed = false := by simpa using isClosed
    by_cases terminal : event.event.isTerminal = true
    · exact .inr (.inl ⟨isOpen, terminal, queue.push_terminal event isClosed terminal⟩)
    · have running : event.event.isTerminal = false := by simpa using terminal
      have outcome := queue.push_running event isClosed running
      by_cases full : queue.capacity ≤ queue.events.length
      · rw [if_pos full] at outcome
        by_cases large : 1 < queue.capacity
        · rw [if_pos large] at outcome
          exact .inr (.inr (.inr (.inl ⟨isOpen, running, full, large, outcome⟩)))
        · rw [if_neg large] at outcome
          exact .inr (.inr (.inr (.inr ⟨isOpen, running, full, Nat.not_lt.mp large, outcome⟩)))
      · rw [if_neg full] at outcome
        exact .inr (.inr (.inl ⟨isOpen, running, Nat.not_le.mp full, outcome⟩))

/-- What `BestEffortLiveQueue::recv` finds under the lock. -/
inductive Recv where
  | event (event : IndexedEvent) (queue : BestEffortLiveQueue)
  | closed
  | waits
  deriving DecidableEq, Repr

/-- `BestEffortLiveQueue::recv`: the check under the lock. -/
def recv (queue : BestEffortLiveQueue) : Recv :=
  match queue.events with
  | event :: rest => .event event { queue with events := rest }
  | [] => if queue.closed then .closed else .waits

/-- `BestEffortLiveQueue::close`. -/
def close (queue : BestEffortLiveQueue) : BestEffortLiveQueue := { queue with closed := true }

end BestEffortLiveQueue

end TokioProcessTools.OutputStream.Backend.Broadcast
