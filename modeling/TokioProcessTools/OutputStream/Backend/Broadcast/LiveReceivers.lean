import TokioProcessTools.OutputStream.Backend.Broadcast.FanoutInvariant

/-!
# The live receivers and the terminal event

A receiver of the right kind is open until the terminal event is delivered to it:
it does not look stale, and does not end. It keeps the terminal event until the
event is taken. `endModel` is this, for the channel and for the queue alike, as
the parameter of the invariant of the fanout path.
-/

set_option autoImplicit false

namespace TokioProcessTools.OutputStream.Backend.Broadcast

open Foundation

/-! ## The receivers -/

/-- The receiver is of the right kind and takes what is sent. -/
def LiveReceiver.Open (guarantee : DeliveryGuarantee) : LiveReceiver → Prop
  | .reliable channel => guarantee = .reliableWithBackpressure ∧ channel.receiverOpen = true
  | .bestEffort queue => guarantee = .lossyWithoutBackpressure ∧ queue.closed = false
  | .closed => False

section Receivers

variable {guarantee : DeliveryGuarantee} {receiver next : LiveReceiver} {event : IndexedEvent}

/-- What a delivery to an open receiver does: a terminal event is queued, any other one leaves the
receiver open, and what is queued was there before, is the event or marks a gap at its place. -/
structure LiveReceiver.Taken (guarantee : DeliveryGuarantee) (receiver : LiveReceiver)
    (event : IndexedEvent) (next : LiveReceiver) : Prop where
  terminal : event.event.isTerminal = true → event ∈ next.queued
  running : event.event.isTerminal = false → next.Open guarantee
  queued : ∀ other ∈ next.queued, other ∈ receiver.queued ∨ other = event ∨ other = ⟨event.seq, .gap⟩

theorem LiveReceiver.Open.delivered (isOpen : receiver.Open guarantee)
    (sent : receiver.deliver guarantee event = .delivered next) :
    receiver.Taken guarantee event next := by
  have appended : ∀ queued : List IndexedEvent, ∀ other ∈ queued ++ [event],
      other ∈ queued ∨ other = event ∨ other = ⟨event.seq, .gap⟩ := by
    intro queued other member
    rcases List.mem_append.mp member with earlier | last
    · exact .inl earlier
    · exact .inr (.inl (List.mem_singleton.mp last))
  cases receiver with
  | closed => exact isOpen.elim
  | reliable channel =>
      obtain ⟨rfl, _⟩ := isOpen
      simp only [LiveReceiver.deliver] at sent
      split at sent
      · rename_i grown success
        cases sent
        obtain ⟨still, _, rfl⟩ := BoundedChannel.of_sent success
        exact ⟨fun _ => List.mem_append_right _ (List.mem_singleton_self _), fun _ => ⟨rfl, still⟩,
          appended channel.queue⟩
      · cases sent
      · cases sent
  | bestEffort queue =>
      obtain ⟨rfl, still⟩ := isOpen
      simp only [LiveReceiver.deliver] at sent
      split at sent
      · rename_i grown pushed
        cases sent
        rcases queue.push_cases event with
          ⟨isClosed, _⟩ | ⟨_, terminal, outcome⟩ | ⟨_, running, _, outcome⟩ |
          ⟨_, running, _, _, outcome⟩ | ⟨_, running, _, _, outcome⟩
        · rw [still] at isClosed
          cases isClosed
        · cases outcome.symm.trans pushed
          refine ⟨fun _ => List.mem_append_right _ (List.mem_singleton_self _), fun running => ?_,
            appended queue.events⟩
          rw [terminal] at running
          cases running
        · cases outcome.symm.trans pushed
          exact ⟨fun _ => List.mem_append_right _ (List.mem_singleton_self _),
            fun _ => ⟨rfl, still⟩, appended queue.events⟩
        · cases outcome.symm.trans pushed
          refine ⟨fun terminal => ?_, fun _ => ⟨rfl, still⟩, ?_⟩
          · rw [running] at terminal
            cases terminal
          · intro other member
            rcases List.mem_cons.mp member with gap | last
            · exact .inr (.inr gap)
            · exact .inr (.inl (List.mem_singleton.mp last))
        · cases outcome.symm.trans pushed
          refine ⟨fun terminal => ?_, fun _ => ⟨rfl, still⟩, ?_⟩
          · rw [running] at terminal
            cases terminal
          · intro other member
            exact .inr (.inr (List.mem_singleton.mp member))
      · cases sent

/-- A terminal event is queued behind everything else, or passed over. -/
theorem LiveReceiver.deliver_terminal (terminal : event.event.isTerminal = true)
    (sent : receiver.deliver guarantee event = .delivered next) :
    next.queued = receiver.queued ++ [event] ∨ ¬ receiver.Open guarantee ∧ next = receiver := by
  unfold LiveReceiver.deliver at sent
  split at sent
  · split at sent
    · rename_i grown success
      cases sent
      obtain ⟨_, _, rfl⟩ := BoundedChannel.of_sent success
      exact .inl rfl
    · cases sent
    · cases sent
  · rename_i queue
    split at sent
    · rename_i grown pushed
      cases sent
      left
      rcases queue.push_cases event with
        ⟨_, outcome⟩ | ⟨_, _, outcome⟩ | ⟨_, running, _⟩ | ⟨_, running, _⟩ | ⟨_, running, _⟩
      · cases outcome.symm.trans pushed
      · cases outcome.symm.trans pushed
        rfl
      all_goals
        rw [terminal] at running
        cases running
    · cases sent
  · rename_i wrongReliable wrongBestEffort
    cases sent
    refine .inr ⟨fun isOpen => ?_, rfl⟩
    cases receiver with
    | closed => exact isOpen
    | reliable channel => exact wrongReliable channel isOpen.1 rfl
    | bestEffort queue => exact wrongBestEffort queue isOpen.1 rfl

/-- An open receiver does not look stale. -/
theorem LiveReceiver.Open.not_stale (isOpen : receiver.Open guarantee) (event : IndexedEvent) :
    receiver.deliver guarantee event ≠ .stale := by
  intro stale
  cases receiver with
  | closed => exact isOpen.elim
  | reliable channel =>
      obtain ⟨rfl, still⟩ := isOpen
      simp only [LiveReceiver.deliver] at stale
      split at stale
      · cases stale
      · cases stale
      · rename_i refused
        rw [BoundedChannel.of_closed refused] at still
        cases still
  | bestEffort queue =>
      obtain ⟨rfl, still⟩ := isOpen
      simp only [LiveReceiver.deliver] at stale
      split at stale
      · cases stale
      · rename_i refused
        rcases queue.push_cases event with
          ⟨isClosed, _⟩ | ⟨_, _, outcome⟩ | ⟨_, _, _, outcome⟩ | ⟨_, _, _, _, outcome⟩ |
          ⟨_, _, _, _, outcome⟩
        · rw [still] at isClosed
          cases isClosed
        all_goals cases outcome.symm.trans refused

/-- What is taken is the head of the channel or of the queue. -/
theorem LiveReceiver.take_cases (took : receiver.take = some (event, next)) :
    (∃ channel rest, receiver = .reliable channel ∧ channel.queue = event :: rest ∧
      next = .reliable { channel with queue := rest }) ∨
    ∃ queue rest, receiver = .bestEffort queue ∧ queue.events = event :: rest ∧
      next = .bestEffort { queue with events := rest } := by
  cases receiver with
  | closed => cases took
  | reliable channel =>
      simp only [LiveReceiver.take, Option.map_eq_some_iff, Prod.mk.injEq] at took
      obtain ⟨⟨message, shorter⟩, received, rfl, rfl⟩ := took
      obtain ⟨rest, queue, rfl⟩ := BoundedChannel.of_recv received
      exact .inl ⟨channel, rest, rfl, queue, rfl⟩
  | bestEffort queue =>
      simp only [LiveReceiver.take, BestEffortLiveQueue.recv] at took
      cases events : queue.events with
      | nil =>
          rw [events] at took
          cases closed : queue.closed <;> simp [closed] at took
      | cons first rest =>
          rw [events] at took
          cases took
          exact .inr ⟨queue, rest, rfl, events, rfl⟩

theorem LiveReceiver.queued_of_take (took : receiver.take = some (event, next)) :
    receiver.queued = event :: next.queued := by
  rcases LiveReceiver.take_cases took with
    ⟨channel, rest, rfl, queue, rfl⟩ | ⟨queue, rest, rfl, events, rfl⟩
  · exact queue
  · exact events

theorem LiveReceiver.queued_of_take_none (nothing : receiver.take = none) : receiver.queued = [] := by
  cases receiver with
  | closed => rfl
  | reliable channel =>
      simp only [LiveReceiver.take, Option.map_eq_none_iff] at nothing
      cases queue : channel.queue with
      | nil => exact queue
      | cons first rest => simp [BoundedChannel.recv, queue] at nothing
  | bestEffort queue =>
      simp only [LiveReceiver.take, BestEffortLiveQueue.recv] at nothing
      cases events : queue.events with
      | nil => exact events
      | cons first rest => simp [events] at nothing

theorem LiveReceiver.Open.take (isOpen : receiver.Open guarantee)
    (took : receiver.take = some (event, next)) : next.Open guarantee := by
  rcases LiveReceiver.take_cases took with
    ⟨channel, rest, rfl, _, rfl⟩ | ⟨queue, rest, rfl, _, rfl⟩
  · exact isOpen
  · exact isOpen

/-- An open receiver ends with its senders only. -/
theorem LiveReceiver.Open.not_endsWith (isOpen : receiver.Open guarantee) :
    receiver.endsWith false = false := by
  cases receiver with
  | reliable channel => rfl
  | bestEffort queue => exact isOpen.2
  | closed => exact isOpen.elim

theorem LiveReceiver.closed_of_delivered
    (sent : receiver.deliver guarantee event = .delivered .closed) : receiver = .closed := by
  unfold LiveReceiver.deliver at sent
  split at sent
  · split at sent <;> cases sent
  · split at sent <;> cases sent
  · cases sent
    rfl

theorem LiveReceiver.not_closed_of_take (took : receiver.take = some (event, next)) :
    next ≠ .closed := by
  rcases LiveReceiver.take_cases took with
    ⟨channel, rest, _, _, rfl⟩ | ⟨queue, rest, _, _, rfl⟩
  · exact fun closed => by cases closed
  · exact fun closed => by cases closed

theorem LiveReceiver.closed_of_drop (closed : receiver.drop = .closed) : receiver = .closed := by
  cases receiver <;> cases closed
  rfl

end Receivers

/-! ## The live model -/

/-- A receiver that is open until the terminal event is delivered, and keeps that event until it is
taken. -/
structure EndHolds (guarantee : DeliveryGuarantee) (start : Nat)
    (delivered taken : List IndexedEvent) (receiver : LiveReceiver) : Prop where
  opened : (∀ event ∈ delivered, event.event.isChunk = true) → receiver.Open guarantee
  kept : ∀ event ∈ delivered, event.event.isTerminal = true → event ∈ taken ++ receiver.queued
  live : ∀ event ∈ receiver.queued, start ≤ event.seq
  logged : ∀ event ∈ receiver.queued, event.event.isTerminal = true → event ∈ delivered

theorem LiveReceiver.open_new (options : StreamConfig) :
    (LiveReceiver.new options).Open options.deliveryGuarantee := by
  unfold LiveReceiver.new
  cases guarantee : options.deliveryGuarantee <;> exact ⟨rfl, rfl⟩

theorem LiveReceiver.queued_new (options : StreamConfig) : (LiveReceiver.new options).queued = [] := by
  unfold LiveReceiver.new
  cases options.deliveryGuarantee <;> rfl

/-- The receivers of both guarantees, as far as the terminal event is concerned. -/
def endModel (options : StreamConfig) : LiveModel options where
  Holds := EndHolds options.deliveryGuarantee
  fresh start := {
    opened := fun _ => LiveReceiver.open_new options
    kept := fun _ member => absurd member List.not_mem_nil
    live := by
      rw [LiveReceiver.queued_new]
      exact fun _ member => absurd member List.not_mem_nil
    logged := by
      rw [LiveReceiver.queued_new]
      exact fun _ member => absurd member List.not_mem_nil }
  deliver := by
    intro start delivered taken receiver next event holds seq chunks kind sent
    have effect := (holds.opened chunks).delivered sent
    refine ⟨?_, ?_, ?_, ?_⟩
    · intro all
      exact effect.running (StreamEvent.isTerminal_of_isChunk (all event (by simp)))
    · intro other member terminal
      rcases List.mem_append.mp member with earlier | last
      · rw [StreamEvent.isTerminal_of_isChunk (chunks other earlier)] at terminal
        cases terminal
      · rw [List.mem_singleton.mp last] at terminal ⊢
        exact List.mem_append_right _ (effect.terminal terminal)
    · intro other member
      rcases effect.queued other member with earlier | rfl | rfl
      · exact holds.live other earlier
      · rw [seq]
        exact Nat.le_add_right _ _
      · rw [seq]
        exact Nat.le_add_right _ _
    · intro other member terminal
      rcases effect.queued other member with earlier | rfl | rfl
      · exact List.mem_append_left _ (holds.logged other earlier terminal)
      · exact List.mem_append_right _ (List.mem_singleton_self _)
      · cases terminal
  accepts := by
    intro start delivered taken receiver event holds chunks
    exact (holds.opened chunks).not_stale event
  take := by
    intro start delivered taken receiver next event holds took
    have queue := LiveReceiver.queued_of_take took
    have here : event ∈ receiver.queued := by simp [queue]
    have later : ∀ other ∈ next.queued, other ∈ receiver.queued := by
      intro other member
      rw [queue]
      exact List.mem_cons_of_mem _ member
    refine ⟨holds.live event here, holds.logged event here, ?_, ?_, ?_, ?_⟩
    · exact fun all => (holds.opened all).take took
    · intro other member terminal
      rw [List.append_assoc, List.singleton_append, ← queue]
      exact holds.kept other member terminal
    · exact fun other member => holds.live other (later other member)
    · exact fun other member => holds.logged other (later other member)

end TokioProcessTools.OutputStream.Backend.Broadcast
