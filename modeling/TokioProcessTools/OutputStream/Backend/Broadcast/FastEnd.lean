import TokioProcessTools.Foundation.Indexed
import TokioProcessTools.OutputStream.Backend.Broadcast.FastTerminal

/-!
# How a subscription of the fast path ends

`next_event` answers `None` when every sender of the channel is gone and nothing
is left to receive. The senders are gone behind a drop of the stream, once the
reader has finished or was aborted. A reader that has finished has sent the
terminal event before; one that is aborted has not, so a subscription that has no
terminal event by then never yields one.

A run spares a subscription when the reader is not aborted before the
subscription has its terminal event. In such a run it ends only behind the
terminal event (`endsAfterTerminal`), whatever the other parties do.
-/

set_option autoImplicit false

namespace TokioProcessTools.OutputStream.Backend.Broadcast.Fast

open Foundation

/-! ## Statement -/

/-- The subscription has yielded a terminal event, or is about to emit the stored one. -/
def FastSubscription.HasTerminal (subscription : FastSubscription) : Prop :=
  ∃ event ∈ subscription.yielded ++ subscription.emitTerminalEvent.toList, event.isTerminal = true

/-- The reader is not aborted while the subscription has no terminal event. -/
def Spares (handle : Nat) (state : FastState) (action : FastAction) : Prop :=
  action = .abortReader → ∀ subscription, state.subscriptions[handle]? = some subscription →
    subscription.HasTerminal

instance (subscription : FastSubscription) : Decidable subscription.HasTerminal :=
  inferInstanceAs (Decidable (∃ event ∈ _, _))

instance (handle : Nat) (state : FastState) : DecidablePred (Spares handle state) := fun action =>
  inferInstanceAs (Decidable (action = .abortReader → ∀ subscription ∈ state.subscriptions[handle]?,
    subscription.HasTerminal))

/-- The subscription has answered `None` only behind a terminal event. -/
def EndsAfterTerminal (handle : Nat) (state : FastState) : Prop :=
  ∀ subscription, state.subscriptions[handle]? = some subscription → subscription.ended = true →
    ∃ event ∈ subscription.yielded, event.isTerminal = true

/-! ## The invariant -/

/-- The stored event that a new subscription is given is a terminal one. -/
def FastClosureState.Stored (stored : FastClosureState) : Prop :=
  ∃ event, stored.terminalEvent = some event ∧ event.isTerminal = true

/-- What is stored and sent at each place of the reader. -/
def SentAt (stored : FastClosureState) (sent : List StreamEvent) : Reader → Prop
  | .reading | .sending _ | .storeEof | .storeError _ | .aborted => Open sent
  | .sendEof | .releaseError _ | .sendError _ => stored.Stored ∧ Open sent
  | .releaseEof | .finished => stored.Stored ∧ Closed sent

/-- The subscription has its terminal event, or the one that was sent is ahead of it. -/
structure Awaits (sent : List StreamEvent) (subscription : FastSubscription) : Prop where
  within : subscription.receiver ≤ sent.length
  ahead : subscription.HasTerminal ∨ (Closed sent → subscription.receiver < sent.length)

/-- The invariant of the runs that spare the subscription. -/
structure Sparing (handle : Nat) (state : FastState) : Prop where
  reader : SentAt state.closureState state.sent state.reader
  receiver : ∀ receiver, state.lock = .subscriber (some receiver) → receiver ≤ state.sent.length ∧
    (Closed state.sent → receiver < state.sent.length ∨ state.closureState.Stored)
  dropped : state.streamDropped = true → ∀ receiver, state.lock ≠ .subscriber receiver
  awaits : ∀ subscription, state.subscriptions[handle]? = some subscription →
    Awaits state.sent subscription
  aborted : state.reader = .aborted → state.streamDropped = true ∧
    ∀ subscription, state.subscriptions[handle]? = some subscription → subscription.HasTerminal
  ends : EndsAfterTerminal handle state

theorem FastClosureState.stored_closed (stored : FastClosureState) :
    { stored with closed := true }.Stored := by
  obtain ⟨closed, error⟩ := stored
  cases error with
  | none => exact ⟨.eof, rfl, rfl⟩
  | some error => exact ⟨.readError error, rfl, rfl⟩

theorem FastClosureState.stored_error (stored : FastClosureState) (error : StreamReadError) :
    { stored with readError := some error }.Stored :=
  ⟨.readError error, rfl, rfl⟩

section Reader

variable {closure : FastClosureState} {sent : List StreamEvent} {reader : Reader}

/-- Once the terminal event is sent, it is stored. -/
theorem SentAt.stored_of_closed (placed : SentAt closure sent reader) (closed : Closed sent) :
    closure.Stored := by
  cases reader with
  | sendEof => exact placed.1
  | releaseError error => exact placed.1
  | sendError error => exact placed.1
  | releaseEof => exact placed.1
  | finished => exact placed.1
  | _ => exact absurd closed (Open.not_closed placed)

end Reader

/-- A send leaves what was sent ahead. -/
theorem Awaits.send {sent : List StreamEvent} {subscription : FastSubscription}
    (awaits : Awaits sent subscription) (event : StreamEvent) :
    Awaits (sent ++ [event]) subscription := by
  have longer : subscription.receiver < (sent ++ [event]).length := by
    rw [List.length_append, List.length_singleton]
    exact Nat.lt_succ_of_le awaits.within
  exact ⟨Nat.le_of_lt longer, .inr fun _ => longer⟩

theorem FastSubscription.hasTerminal_of_yielded {subscription : FastSubscription}
    (yielded : ∃ event ∈ subscription.yielded, event.isTerminal = true) :
    subscription.HasTerminal := by
  obtain ⟨event, member, terminal⟩ := yielded
  exact ⟨event, List.mem_append_left _ member, terminal⟩

/-- Without a stored event the terminal event was yielded. -/
theorem FastSubscription.HasTerminal.yielded {subscription : FastSubscription}
    (terminal : subscription.HasTerminal) (absent : subscription.emitTerminalEvent = none) :
    ∃ event ∈ subscription.yielded, event.isTerminal = true := by
  rwa [HasTerminal, absent, Option.toList_none, List.append_nil] at terminal

/-- When every sender is gone, the terminal event was sent, or the reader was aborted. -/
theorem Sparing.sendersGone {handle : Nat} {state : FastState} (sparing : Sparing handle state)
    (gone : state.sendersGone = true) : Closed state.sent ∨ state.reader = .aborted := by
  simp only [FastState.sendersGone, Bool.and_eq_true, Bool.or_eq_true, decide_eq_true_eq] at gone
  rcases gone.2 with finished | aborted
  · have placed := sparing.reader
    rw [finished] at placed
    exact .inl placed.2
  · exact .inr aborted

/-- **`None` is answered only behind a terminal event.** -/
theorem Sparing.yielded_of_none {handle capacity : Nat} {state : FastState}
    {subscription : FastSubscription} (sparing : Sparing handle state)
    (found : state.subscriptions[handle]? = some subscription)
    (absent : subscription.emitTerminalEvent = none)
    (nothing : BroadcastRing.recv capacity state.sent subscription.receiver = none)
    (gone : state.sendersGone = true) :
    ∃ event ∈ subscription.yielded, event.isTerminal = true := by
  rcases sparing.sendersGone gone with closed | aborted
  · rcases (sparing.awaits subscription found).ahead with terminal | ahead
    · exact terminal.yielded absent
    · obtain ⟨answer, receiver, answered⟩ := BroadcastRing.exists_recv capacity (ahead closed)
      cases nothing.symm.trans answered
  · exact ((sparing.aborted aborted).2 subscription found).yielded absent

/-- Yielding an event keeps the terminal ones. -/
theorem FastSubscription.HasTerminal.yield {subscription : FastSubscription} (event : StreamEvent)
    (receiver : Nat) (absent : subscription.emitTerminalEvent = none)
    (terminal : subscription.HasTerminal) :
    { subscription with receiver, yielded := subscription.yielded ++ [event] }.HasTerminal := by
  obtain ⟨earlier, member, isTerminal⟩ := terminal.yielded absent
  exact hasTerminal_of_yielded ⟨earlier, List.mem_append_left _ member, isTerminal⟩

/-- A receive leaves the terminal event ahead, or yields it. -/
theorem Awaits.recv {capacity : Nat} {state : FastState} {subscription next : FastSubscription}
    (positive : 0 < capacity) (awaits : Awaits state.sent subscription)
    (received : recvStep capacity state subscription = some next) :
    Awaits state.sent next ∧ (subscription.HasTerminal → next.HasTerminal) := by
  rcases recvStep_cases received with ⟨event, stored, rfl⟩ | ⟨absent, answered⟩
  · have same : (subscription.yielded ++ [event]) ++ (none : Option StreamEvent).toList =
        subscription.yielded ++ subscription.emitTerminalEvent.toList := by
      rw [stored, Option.toList_none, List.append_nil, Option.toList_some]
    have kept : subscription.HasTerminal → { subscription with
        emitTerminalEvent := none, yielded := subscription.yielded ++ [event] }.HasTerminal := by
      intro terminal
      unfold FastSubscription.HasTerminal at terminal ⊢
      rw [same]
      exact terminal
    exact ⟨⟨awaits.within, awaits.ahead.imp_left kept⟩, kept⟩
  · rcases answered with ⟨event, receiver, answered, rfl⟩ | ⟨_, receiver, answered, rfl⟩ |
      ⟨_, _, rfl⟩
    · obtain ⟨message, rfl⟩ := BroadcastRing.recv_message answered
      obtain ⟨inside, _⟩ := List.getElem?_eq_some_iff.mp message
      refine ⟨⟨inside, ?_⟩, .yield event _ absent⟩
      by_cases terminal : event.isTerminal = true
      · exact .inl (FastSubscription.hasTerminal_of_yielded ⟨event, by simp, terminal⟩)
      · refine .inr fun closed => Nat.lt_of_le_of_ne inside fun last => ?_
        exact terminal ((closed.isTerminal_iff message).mpr last)
    · obtain ⟨_, remembered⟩ := BroadcastRing.recv_lagged answered
      have inside : receiver < state.sent.length := by omega
      exact ⟨⟨Nat.le_of_lt inside, .inr fun _ => inside⟩, .yield .gap _ absent⟩
    · exact ⟨⟨awaits.within, awaits.ahead⟩, id⟩

/-! ## Steps -/

section Steps

variable {handle : Nat} {state next : FastState}

/-- A step of the reader that sends nothing. -/
theorem Sparing.think (sparing : Sparing handle state)
    (placed : SentAt next.closureState next.sent next.reader)
    (stored : state.closureState.Stored → next.closureState.Stored) (sent : next.sent = state.sent)
    (lock : ∀ receiver, next.lock = .subscriber receiver → state.lock = .subscriber receiver)
    (dropped : next.streamDropped = state.streamDropped)
    (subscriptions : next.subscriptions = state.subscriptions)
    (aborted : next.reader = .aborted → state.reader = .aborted) : Sparing handle next where
  reader := placed
  receiver := by
    intro receiver held
    obtain ⟨within, ahead⟩ := sparing.receiver receiver (lock _ held)
    rw [sent]
    exact ⟨within, fun closed => (ahead closed).imp_right stored⟩
  dropped := by
    intro gone receiver held
    exact sparing.dropped (dropped ▸ gone) receiver (lock _ held)
  awaits := by
    rw [subscriptions, sent]
    exact sparing.awaits
  aborted := by
    rw [subscriptions, dropped]
    exact fun here => sparing.aborted (aborted here)
  ends := by
    unfold EndsAfterTerminal
    rw [subscriptions]
    exact sparing.ends

/-- A send. -/
theorem Sparing.send (sparing : Sparing handle state)
    (placed : SentAt next.closureState next.sent next.reader) {event : StreamEvent}
    (sent : next.sent = state.sent ++ [event]) (lock : next.lock = state.lock)
    (dropped : next.streamDropped = state.streamDropped)
    (subscriptions : next.subscriptions = state.subscriptions)
    (running : next.reader ≠ .aborted) : Sparing handle next where
  reader := placed
  receiver := by
    intro receiver held
    have within := (sparing.receiver receiver (lock ▸ held)).1
    rw [sent, List.length_append, List.length_singleton]
    exact ⟨by omega, fun _ => .inl (by omega)⟩
  dropped := by
    rw [dropped, lock]
    exact sparing.dropped
  awaits := by
    rw [subscriptions, sent]
    exact fun subscription found => (sparing.awaits subscription found).send event
  aborted here := absurd here running
  ends := by
    unfold EndsAfterTerminal
    rw [subscriptions]
    exact sparing.ends

/-- A finished call of `try_subscribe`. -/
theorem Sparing.subscribe (sparing : Sparing handle state) {receiver : Nat}
    (held : state.lock = .subscriber (some receiver)) :
    Sparing handle { state with
      lock := .free
      subscriptions := state.subscriptions ++
        [⟨receiver, state.closureState.terminalEvent, [], false⟩] } := by
  have kept : state.streamDropped = false := by
    cases gone : state.streamDropped with
    | false => rfl
    | true => exact absurd held (sparing.dropped gone _)
  obtain ⟨within, ahead⟩ := sparing.receiver receiver held
  refine ⟨sparing.reader, fun _ free => (by cases free), fun _ _ free => (by cases free), ?_, ?_, ?_⟩
  · intro subscription found
    rcases getElem?_concat_cases found with old | ⟨_, rfl⟩
    · exact sparing.awaits subscription old
    · refine ⟨within, ?_⟩
      by_cases stored : state.closureState.Stored
      · obtain ⟨event, given, terminal⟩ := stored
        exact .inl ⟨event, by simp [given], terminal⟩
      · exact .inr fun closed => (ahead closed).resolve_right stored
  · intro here
    have gone := (sparing.aborted here).1
    rw [kept] at gone
    cases gone
  · intro subscription found ended
    rcases getElem?_concat_cases found with old | ⟨_, rfl⟩
    · exact sparing.ends subscription old ended
    · cases ended

/-- A call of `next_event` on any subscription. -/
theorem Sparing.nextEvent {capacity other : Nat} (positive : 0 < capacity)
    (sparing : Sparing handle state) {subscription received : FastSubscription}
    (found : state.subscriptions[other]? = some subscription)
    (taken : recvStep capacity state subscription = some received) :
    Sparing handle { state with subscriptions := state.subscriptions.set other received } := by
  refine ⟨sparing.reader, sparing.receiver, sparing.dropped, ?_, ?_, ?_⟩
  · intro changed here
    rcases getElem?_set_cases here with ⟨rfl, rfl⟩ | ⟨_, old⟩
    · exact ((sparing.awaits subscription found).recv positive taken).1
    · exact sparing.awaits changed old
  · intro aborted
    obtain ⟨gone, terminals⟩ := sparing.aborted aborted
    refine ⟨gone, fun changed here => ?_⟩
    rcases getElem?_set_cases here with ⟨rfl, rfl⟩ | ⟨_, old⟩
    · exact ((sparing.awaits subscription found).recv positive taken).2 (terminals subscription found)
    · exact terminals changed old
  · intro changed here ended
    rcases getElem?_set_cases here with ⟨rfl, rfl⟩ | ⟨_, old⟩
    · rcases recvStep_cases taken with ⟨event, _, rfl⟩ | ⟨absent, answered⟩
      · obtain ⟨earlier, member, terminal⟩ := sparing.ends subscription found ended
        exact ⟨earlier, List.mem_append_left _ member, terminal⟩
      · rcases answered with ⟨event, receiver, _, rfl⟩ | ⟨_, receiver, _, rfl⟩ | ⟨nothing, gone, rfl⟩
        · obtain ⟨earlier, member, terminal⟩ := sparing.ends subscription found ended
          exact ⟨earlier, List.mem_append_left _ member, terminal⟩
        · obtain ⟨earlier, member, terminal⟩ := sparing.ends subscription found ended
          exact ⟨earlier, List.mem_append_left _ member, terminal⟩
        · exact @Sparing.yielded_of_none _ _ _ subscription sparing found absent nothing gone
    · exact sparing.ends changed old ended

/-- **Every step of a run that spares the subscription keeps the invariant.** -/
theorem Sparing.step {streamName : String} {chunkSize capacity : Nat} {action : FastAction}
    (positive : 0 < capacity) (sparing : Sparing handle state) (spares : Spares handle state action)
    (stepped : fastStep streamName chunkSize capacity state action = some next) :
    Sparing handle next := by
  have placed := sparing.reader
  cases fastStep_move stepped with
  | read here =>
      rw [here] at placed
      exact sparing.think placed id rfl (fun _ held => held) rfl rfl fun impossible => by cases impossible
  | readEof here =>
      rw [here] at placed
      exact sparing.think placed id rfl (fun _ held => held) rfl rfl fun impossible => by cases impossible
  | readError here =>
      rw [here] at placed
      exact sparing.think placed id rfl (fun _ held => held) rfl rfl fun impossible => by cases impossible
  | sentAll here =>
      rw [here] at placed
      exact sparing.think placed id rfl (fun _ held => held) rfl rfl fun impossible => by cases impossible
  | sendChunk here =>
      rw [here] at placed
      exact sparing.send (Open.snoc placed rfl) rfl rfl rfl rfl fun impossible => by cases impossible
  | storeEof here _ =>
      rw [here] at placed
      exact sparing.think ⟨state.closureState.stored_closed, placed⟩
        (fun _ => state.closureState.stored_closed) rfl (fun _ held => by cases held) rfl rfl
        fun impossible => by cases impossible
  | sendEof here =>
      rw [here] at placed
      exact sparing.send ⟨placed.1, placed.2.closed_snoc rfl⟩ rfl rfl rfl rfl
        fun impossible => by cases impossible
  | releaseEof here =>
      rw [here] at placed
      exact sparing.think placed id rfl (fun _ held => by cases held) rfl rfl
        fun impossible => by cases impossible
  | @storeError error here _ =>
      rw [here] at placed
      exact sparing.think ⟨state.closureState.stored_error error, placed⟩
        (fun _ => state.closureState.stored_error error) rfl (fun _ held => by cases held) rfl rfl
        fun impossible => by cases impossible
  | releaseError here =>
      rw [here] at placed
      exact sparing.think placed id rfl (fun _ held => by cases held) rfl rfl
        fun impossible => by cases impossible
  | sendError here =>
      rw [here] at placed
      exact sparing.send ⟨placed.1, placed.2.closed_snoc rfl⟩ rfl rfl rfl rfl
        fun impossible => by cases impossible
  | subscribeLock _ kept =>
      refine ⟨placed, fun _ held => (by cases held), fun gone => ?_, sparing.awaits, sparing.aborted,
        sparing.ends⟩
      rw [kept] at gone
      cases gone
  | subscribeReceiver held =>
      refine ⟨placed, ?_, fun gone => absurd held (sparing.dropped gone none), sparing.awaits,
        sparing.aborted, sparing.ends⟩
      intro receiver same
      cases same
      exact ⟨Nat.le_refl _, fun closed => .inr (placed.stored_of_closed closed)⟩
  | subscribeFinish held => exact sparing.subscribe held
  | nextEvent found taken => exact sparing.nextEvent positive found taken
  | dropStream unheld =>
      exact ⟨placed, sparing.receiver, fun _ => unheld, sparing.awaits,
        fun here => ⟨rfl, (sparing.aborted here).2⟩, sparing.ends⟩
  | abortReader dropped here =>
      rw [here] at placed
      exact ⟨placed, sparing.receiver, sparing.dropped, sparing.awaits,
        fun _ => ⟨dropped, spares rfl⟩, sparing.ends⟩

theorem sparing_init (handle : Nat) : Sparing handle {} where
  reader := fun _ member => absurd member List.not_mem_nil
  receiver := fun _ held => by cases held
  dropped := fun gone => by cases gone
  awaits := fun _ found => by cases found
  aborted := fun here => by cases here
  ends := fun _ found => by cases found

end Steps

/-- In every run that spares the subscription it ends only behind a terminal event. -/
theorem endsAfterTerminal {streamName : String} {options : ValidConfig} {capacity handle : Nat}
    {state : FastState}
    (reachable : (fastMachine streamName options capacity).ReachableBy (Spares handle) state) :
    EndsAfterTerminal handle state := by
  have positive : 0 < max options.maxBufferedChunks capacity :=
    Nat.lt_of_lt_of_le options.maxBufferedChunks_pos (Nat.le_max_left _ _)
  have sparing : Sparing handle state := by
    apply reachable.invariant (sparing_init handle)
    intro state next action sparing spares stepped
    exact sparing.step positive spares stepped
  exact sparing.ends

end TokioProcessTools.OutputStream.Backend.Broadcast.Fast
