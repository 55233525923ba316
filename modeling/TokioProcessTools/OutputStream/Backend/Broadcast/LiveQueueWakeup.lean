import TokioProcessTools.Foundation.Machine
import TokioProcessTools.OutputStream.Backend.Broadcast.LiveQueue

/-!
# Waking the receiver of a best-effort live queue

A push stores its event under the lock, releases the lock and only then calls
`notify_waiters`, which leaves no permit behind: it wakes the `Notified` futures
enabled before it and no others. The receiver therefore enables its `Notified`
first, looks into the queue second and waits third.

The machine interleaves one receiver with any number of pushes and closes. Each
of them is two steps, the update under the lock and the notification. A receiver
that waits, or whose call was not polled yet, may be dropped and call again.

`wakeup_not_lost` says that a receiver waits unwoken beside something to receive
only while a notification is still to come, and that an event leaves the queue
only through a call that returns it or a push that overflows.
-/

set_option autoImplicit false

namespace TokioProcessTools.OutputStream.Backend.Broadcast

open Foundation

/-- Where the receiver is in `recv`. A `Notified` that exists carries whether it was woken. -/
inductive RecvPlace where
  /-- No call is in progress. -/
  | idle
  /-- At the head of the loop, without a `Notified`. -/
  | looping
  /-- The `Notified` is enabled, the queue not yet looked at. -/
  | enabled (woken : Bool)
  /-- The queue was empty and open, and the lock is released again. -/
  | unlocked (woken : Bool)
  /-- At `notified.await`. -/
  | parked (woken : Bool)
  deriving DecidableEq, Repr

/-- `notify_waiters`, as the receiver observes it. -/
def RecvPlace.notified : RecvPlace → RecvPlace
  | .idle => .idle
  | .looping => .looping
  | .enabled _ => .enabled true
  | .unlocked _ => .unlocked true
  | .parked _ => .parked true

/-- The queue, the receiver, the updates that have not notified yet, and what the completed calls
of `recv` have returned. -/
structure WakeupState where
  queue : BestEffortLiveQueue
  receiver : RecvPlace := .idle
  unnotified : Nat := 0
  returned : List (Option IndexedEvent) := []
  deriving DecidableEq, Repr

/-- A step of one party. -/
inductive WakeupAction where
  /-- `push`, up to the release of the lock. -/
  | push (event : IndexedEvent)
  /-- `close`, up to the release of the lock. -/
  | close
  /-- The `notify_waiters` of one push or close. -/
  | notify
  | call
  | enable
  /-- The check under the lock. -/
  | check
  | park
  /-- The wait ends and the loop starts again. -/
  | wake
  /-- The future of `recv` is dropped. -/
  | dropRecv
  deriving DecidableEq, Repr

/-- The check of `recv` under the lock, with a `Notified` that is or is not woken. -/
def WakeupState.checkStep (state : WakeupState) (woken : Bool) : WakeupState :=
  match state.queue.recv with
  | .event event queue =>
      { state with queue, receiver := .idle, returned := state.returned ++ [some event] }
  | .closed => { state with receiver := .idle, returned := state.returned ++ [none] }
  | .waits => { state with receiver := .unlocked woken }

/-- The step function. A push into a closed queue notifies nobody. -/
def wakeupStep (state : WakeupState) : WakeupAction → Option WakeupState
  | .push event =>
      match state.queue.push event with
      | (queue, true) => some { state with queue, unnotified := state.unnotified + 1 }
      | (_, false) => some state
  | .close =>
      some { state with queue := state.queue.close, unnotified := state.unnotified + 1 }
  | .notify =>
      match state.unnotified with
      | 0 => none
      | unnotified + 1 => some { state with unnotified, receiver := state.receiver.notified }
  | .call =>
      match state.receiver with
      | .idle => some { state with receiver := .looping }
      | .looping | .enabled _ | .unlocked _ | .parked _ => none
  | .enable =>
      match state.receiver with
      | .looping => some { state with receiver := .enabled false }
      | .idle | .enabled _ | .unlocked _ | .parked _ => none
  | .check =>
      match state.receiver with
      | .enabled woken => some (state.checkStep woken)
      | .idle | .looping | .unlocked _ | .parked _ => none
  | .park =>
      match state.receiver with
      | .unlocked woken => some { state with receiver := .parked woken }
      | .idle | .looping | .enabled _ | .parked _ => none
  | .wake =>
      match state.receiver with
      | .parked true => some { state with receiver := .looping }
      | .idle | .looping | .enabled _ | .unlocked _ | .parked false => none
  | .dropRecv =>
      match state.receiver with
      | .looping | .parked _ => some { state with receiver := .idle }
      | .idle | .enabled _ | .unlocked _ => none

/-- The machine of one queue and its receiver. -/
def wakeupMachine (capacity : Nat) : Machine WakeupState WakeupAction where
  init := { queue := { capacity } }
  step := wakeupStep

/-- Something for a receiver: an event, or the end of the queue. -/
def BestEffortLiveQueue.HasNews (queue : BestEffortLiveQueue) : Prop :=
  queue.events ≠ [] ∨ queue.closed = true

/-- The receiver has found the queue empty and open, and was not woken since it enabled its
`Notified`. -/
def RecvPlace.unwoken : RecvPlace → Bool
  | .unlocked woken | .parked woken => !woken
  | .idle | .looping | .enabled _ => false

/-! ## Wake-ups -/

theorem BestEffortLiveQueue.not_hasNews_of_waits {queue : BestEffortLiveQueue}
    (waits : queue.recv = .waits) : ¬ queue.HasNews := by
  unfold recv at waits
  split at waits
  · cases waits
  · rename_i empty
    split at waits
    · cases waits
    · rename_i isOpen
      rintro (occupied | isClosed)
      · exact occupied empty
      · exact isOpen isClosed

theorem RecvPlace.unwoken_notified (place : RecvPlace) : place.notified.unwoken = false := by
  cases place <;> rfl

/-- An unwoken receiver has nothing to receive, or a notification is still to come. -/
def WakeupDue (state : WakeupState) : Prop :=
  state.receiver.unwoken = true → state.queue.HasNews → 0 < state.unnotified

/-- A receiver that is not waiting unwoken owes nothing. -/
theorem wakeupDue_of_not_unwoken {state : WakeupState}
    (elsewhere : state.receiver.unwoken = false) : WakeupDue state := by
  intro unwoken
  rw [elsewhere] at unwoken
  cases unwoken

theorem WakeupState.checkStep_due (state : WakeupState) (woken : Bool) :
    WakeupDue (state.checkStep woken) := by
  cases outcome : state.queue.recv with
  | event event queue =>
      simp only [checkStep, outcome]
      exact wakeupDue_of_not_unwoken rfl
  | closed =>
      simp only [checkStep, outcome]
      exact wakeupDue_of_not_unwoken rfl
  | waits =>
      simp only [checkStep, outcome]
      intro _ news
      exact absurd news (BestEffortLiveQueue.not_hasNews_of_waits outcome)

theorem WakeupDue.step {state next : WakeupState} {action : WakeupAction}
    (due : WakeupDue state) (taken : wakeupStep state action = some next) : WakeupDue next := by
  cases action with
  | push event =>
      simp only [wakeupStep] at taken
      split at taken
      · cases taken
        exact fun _ _ => Nat.succ_pos _
      · cases taken
        exact due
  | close =>
      cases taken
      exact fun _ _ => Nat.succ_pos _
  | notify =>
      simp only [wakeupStep] at taken
      split at taken
      · cases taken
      · cases taken
        exact wakeupDue_of_not_unwoken (RecvPlace.unwoken_notified _)
  | call =>
      simp only [wakeupStep] at taken
      split at taken <;> cases taken
      exact wakeupDue_of_not_unwoken rfl
  | enable =>
      simp only [wakeupStep] at taken
      split at taken <;> cases taken
      exact wakeupDue_of_not_unwoken rfl
  | check =>
      simp only [wakeupStep] at taken
      split at taken <;> cases taken
      exact state.checkStep_due _
  | park =>
      simp only [wakeupStep] at taken
      split at taken <;> cases taken
      rename_i woken place
      intro unwoken news
      exact due (by rw [place]; exact unwoken) news
  | wake =>
      simp only [wakeupStep] at taken
      split at taken <;> cases taken
      exact wakeupDue_of_not_unwoken rfl
  | dropRecv =>
      simp only [wakeupStep] at taken
      split at taken <;> cases taken <;> exact wakeupDue_of_not_unwoken rfl

/-! ## What leaves the queue -/

/-- How a step may change the events in the queue. -/
inductive EventsChange (state next : WakeupState) : WakeupAction → Prop where
  | kept {action : WakeupAction} (same : next.queue.events = state.queue.events) :
      EventsChange state next action
  | pushed (event : IndexedEvent) : EventsChange state next (.push event)
  | returned (event : IndexedEvent) (front : state.queue.events = event :: next.queue.events)
      (result : next.returned = state.returned ++ [some event]) : EventsChange state next .check

theorem WakeupState.checkStep_change (state : WakeupState) (woken : Bool) :
    EventsChange state (state.checkStep woken) .check := by
  unfold checkStep BestEffortLiveQueue.recv
  split
  · rename_i outcome
    split at outcome
    · rename_i front
      cases outcome
      exact .returned _ front rfl
    · split at outcome <;> cases outcome
  · exact .kept rfl
  · exact .kept rfl

theorem wakeupStep_change {state next : WakeupState} {action : WakeupAction}
    (taken : wakeupStep state action = some next) : EventsChange state next action := by
  cases action with
  | push event => exact .pushed event
  | close =>
      cases taken
      exact .kept rfl
  | notify =>
      simp only [wakeupStep] at taken
      split at taken <;> cases taken
      exact .kept rfl
  | check =>
      simp only [wakeupStep] at taken
      split at taken <;> cases taken
      exact state.checkStep_change _
  | call | enable | park | wake | dropRecv =>
      simp only [wakeupStep] at taken
      split at taken <;> cases taken <;> exact .kept rfl

/-- **No wake-up is lost and `recv` is cancel-safe.** In no reachable state is the receiver parked
on a `Notified` that was not woken while every push and close has notified and the queue has an
event or is closed. Dropping the future of `recv` leaves the queue as it is, and in every step an
event leaves the queue only by being returned to the caller or through a push. -/
theorem wakeup_not_lost (capacity : Nat) {state : WakeupState}
    (reachable : (wakeupMachine capacity).Reachable state) :
    ¬ (state.receiver = .parked false ∧ state.unnotified = 0 ∧ state.queue.HasNews) ∧
    (∀ next, wakeupStep state .dropRecv = some next → next.queue = state.queue) ∧
    ∀ action next, wakeupStep state action = some next → EventsChange state next action := by
  refine ⟨?_, ?_, fun _ _ taken => wakeupStep_change taken⟩
  · have due : WakeupDue state :=
      reachable.invariant (wakeupDue_of_not_unwoken rfl) fun due _ taken => due.step taken
    rintro ⟨parked, settled, news⟩
    have owed := due (by rw [parked]; rfl) news
    exact absurd settled (Nat.ne_of_gt owed)
  · intro next taken
    simp only [wakeupStep] at taken
    split at taken <;> cases taken <;> rfl

/-- A push whose notification comes between the check and the park: the receiver is woken, gives
the wait up, and its next call returns the event. -/
theorem wakeup_not_lost_cancelled :
    ∃ state, (wakeupMachine 2).Reachable state ∧
      ¬ (state.receiver = .parked false ∧ state.unnotified = 0 ∧ state.queue.HasNews) ∧
      state.receiver = .idle ∧ state.returned = [some ⟨0, .gap⟩] := by
  obtain ⟨state, reachable, ended⟩ := (wakeupMachine 2).exists_reachableBy (fun _ _ => True)
    [.call, .enable, .check, .push ⟨0, .gap⟩, .notify, .park, .dropRecv, .call, .enable, .check]
    (fun state => state.receiver = .idle ∧ state.returned = [some ⟨0, .gap⟩]) (by decide)
  exact ⟨state, reachable, (wakeup_not_lost 2 reachable).1, ended⟩

end TokioProcessTools.OutputStream.Backend.Broadcast
