import Mathlib.Data.List.Basic

/-!
# A bounded broadcast channel

Every message goes to every receiver that subscribed before it was sent. The
channel remembers the last `capacity` messages. A receiver is a position in the
sequence of all messages; one that has fallen behind the remembered messages is
told so once and continues with the oldest remembered one.

The model keeps all messages. Only their positions and the capacity decide what
a receiver is answered, and a receiver starts behind the last message, so it
never sees a message sent before it subscribed.
-/

set_option autoImplicit false

namespace TokioProcessTools.Foundation

namespace BroadcastRing

universe u

variable {ε : Type u}

/-- What a receiver is answered. -/
inductive Answer (ε : Type u) where
  | message (message : ε)
  | lagged (skipped : Nat)
  deriving DecidableEq, Repr

/-- Where a receiver starts that subscribes now. -/
def subscribe (sent : List ε) : Nat := sent.length

/-- The answer to a receiver at a position and its next position; none while it waits for a
message. -/
def recv (capacity : Nat) (sent : List ε) (position : Nat) : Option (Answer ε × Nat) :=
  if position + capacity < sent.length then
    some (.lagged (sent.length - capacity - position), sent.length - capacity)
  else (sent[position]?).map fun message => (.message message, position + 1)

variable {capacity : Nat} {sent : List ε} {position next : Nat}

/-- A message is the one at the position. -/
theorem recv_message {message : ε}
    (answered : recv capacity sent position = some (.message message, next)) :
    sent[position]? = some message ∧ next = position + 1 := by
  unfold recv at answered
  split at answered
  · cases answered
  · obtain ⟨found, stored, same⟩ := Option.map_eq_some_iff.mp answered
    cases same
    exact ⟨stored, rfl⟩

/-- A lagging receiver continues with the oldest remembered message. -/
theorem recv_lagged {skipped : Nat}
    (answered : recv capacity sent position = some (.lagged skipped, next)) :
    position < next ∧ next + capacity = sent.length := by
  unfold recv at answered
  split at answered
  · cases answered
    omega
  · obtain ⟨found, _, same⟩ := Option.map_eq_some_iff.mp answered
    cases same

/-- A receiver with messages ahead of it does not wait. -/
theorem exists_recv (capacity : Nat) (ahead : position < sent.length) :
    ∃ answer next, recv capacity sent position = some (answer, next) := by
  unfold recv
  split
  · exact ⟨_, _, rfl⟩
  · rw [List.getElem?_eq_getElem ahead]
    exact ⟨_, _, rfl⟩

/-- A receiver behind the last message waits. -/
theorem recv_eq_none (capacity : Nat) (behind : sent.length ≤ position) :
    recv capacity sent position = none := by
  unfold recv
  rw [if_neg (by omega), List.getElem?_eq_none behind]
  rfl

end BroadcastRing

end TokioProcessTools.Foundation
