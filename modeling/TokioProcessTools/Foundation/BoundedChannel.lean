import Mathlib.Data.List.Basic

/-!
# A bounded channel with one receiver

A send is refused once the receiver is gone, also when the channel is full. It
finds no room while the channel holds as many messages as its capacity; a sender
that waits tries again later. Dropping the receiver drops the messages it has not
taken.
-/

set_option autoImplicit false

namespace TokioProcessTools.Foundation

universe u

/-- The messages sent and not yet taken, and whether the receiver still exists. -/
structure BoundedChannel (ε : Type u) where
  capacity : Nat
  queue : List ε := []
  receiverOpen : Bool := true
  deriving DecidableEq, Repr

namespace BoundedChannel

variable {ε : Type u}

/-- The outcome of a send. -/
inductive TrySend (ε : Type u) where
  | sent (channel : BoundedChannel ε)
  | full
  | closed
  deriving DecidableEq, Repr

/-- Send a message if the receiver exists and there is room. -/
def trySend (channel : BoundedChannel ε) (message : ε) : TrySend ε :=
  if channel.receiverOpen = false then .closed
  else if channel.queue.length < channel.capacity then
    .sent { channel with queue := channel.queue ++ [message] }
  else .full

/-- Take the oldest message. -/
def recv (channel : BoundedChannel ε) : Option (ε × BoundedChannel ε) :=
  match channel.queue with
  | [] => none
  | message :: rest => some (message, { channel with queue := rest })

/-- Drop the receiver. -/
def dropReceiver (channel : BoundedChannel ε) : BoundedChannel ε :=
  { channel with queue := [], receiverOpen := false }

/-- What a send can do. -/
theorem trySend_cases (channel : BoundedChannel ε) (message : ε) :
    (channel.receiverOpen = false ∧ channel.trySend message = .closed) ∨
    (channel.receiverOpen = true ∧ channel.queue.length < channel.capacity ∧
      channel.trySend message = .sent { channel with queue := channel.queue ++ [message] }) ∨
    (channel.receiverOpen = true ∧ channel.capacity ≤ channel.queue.length ∧
      channel.trySend message = .full) := by
  unfold trySend
  by_cases gone : channel.receiverOpen = false
  · exact .inl ⟨gone, if_pos gone⟩
  · have present : channel.receiverOpen = true := by simpa using gone
    rw [if_neg gone]
    by_cases room : channel.queue.length < channel.capacity
    · exact .inr (.inl ⟨present, room, if_pos room⟩)
    · exact .inr (.inr ⟨present, by omega, if_neg room⟩)

theorem of_sent {channel next : BoundedChannel ε} {message : ε}
    (sent : channel.trySend message = .sent next) : channel.receiverOpen = true ∧
      channel.queue.length < channel.capacity ∧
      next = { channel with queue := channel.queue ++ [message] } := by
  rcases channel.trySend_cases message with ⟨_, outcome⟩ | ⟨isOpen, room, outcome⟩ | ⟨_, _, outcome⟩
  · cases outcome.symm.trans sent
  · cases outcome.symm.trans sent
    exact ⟨isOpen, room, rfl⟩
  · cases outcome.symm.trans sent

theorem of_full {channel : BoundedChannel ε} {message : ε}
    (full : channel.trySend message = .full) :
    channel.receiverOpen = true ∧ channel.capacity ≤ channel.queue.length := by
  rcases channel.trySend_cases message with ⟨_, outcome⟩ | ⟨_, _, outcome⟩ | ⟨isOpen, length, _⟩
  · cases outcome.symm.trans full
  · cases outcome.symm.trans full
  · exact ⟨isOpen, length⟩

theorem of_closed {channel : BoundedChannel ε} {message : ε}
    (closed : channel.trySend message = .closed) : channel.receiverOpen = false := by
  rcases channel.trySend_cases message with ⟨gone, _⟩ | ⟨_, _, outcome⟩ | ⟨_, _, outcome⟩
  · exact gone
  · cases outcome.symm.trans closed
  · cases outcome.symm.trans closed

theorem of_recv {channel next : BoundedChannel ε} {message : ε}
    (received : channel.recv = some (message, next)) :
    ∃ rest, channel.queue = message :: rest ∧ next = { channel with queue := rest } := by
  unfold recv at received
  split at received
  · cases received
  · rename_i first rest queue
    cases received
    exact ⟨rest, queue, rfl⟩

end BoundedChannel

end TokioProcessTools.Foundation
