import TokioProcessTools.OutputStream.Backend.Broadcast.Fast

/-!
# The terminal event on the fast path

Every subscription should yield the terminal event exactly once and nothing
behind it (`TerminalOnce`). This holds in every run in which no call of
`try_subscribe` creates its receiver between the release of the lock by the reader,
which has just stored a read error, and the send of that error
(`terminalOnce_of_notBetween`). A receiver created there lands behind the stored
error and before the sent one, and its subscription yields both
(`terminal_twice_between`).

The invariant follows the sequence of sent messages. While no terminal event was
sent, every subscription is live and has yielded none. Afterwards a subscription
has the terminal event ahead of it, or is about to emit the stored one, or has
yielded it and has nothing left to receive.
-/

set_option autoImplicit false

namespace TokioProcessTools.OutputStream.Backend.Broadcast.Fast

open Foundation

/-! ## Statement -/

/-- Nothing follows a terminal event. -/
def TerminalLast (events : List StreamEvent) : Prop :=
  ∀ before event after, events = before ++ event :: after → event.isTerminal = true → after = []

/-- **The terminal event reaches every subscription exactly once.** No subscription has yielded two
terminal events or anything behind one, and once the terminal event was sent, calling `next_event`
often enough yields it without waiting. -/
structure TerminalOnce (machine : Machine FastState FastAction) (state : FastState) : Prop where
  once : ∀ subscription ∈ state.subscriptions,
    (subscription.yielded.filter StreamEvent.isTerminal).length ≤ 1
  last : ∀ subscription ∈ state.subscriptions, TerminalLast subscription.yielded
  delivered : (∃ event ∈ state.sent, event.isTerminal = true) →
    ∀ handle < state.subscriptions.length,
      ∃ calls final subscription, calls ≤ state.sent.length + 1 ∧
        machine.exec state (List.replicate calls (.nextEvent handle)) = some final ∧
        final.subscriptions[handle]? = some subscription ∧
        ∃ event ∈ subscription.yielded, event.isTerminal = true

/-- The read error is stored and the lock released, but the error is not sent yet. -/
def Reader.betweenReleaseAndSend : Reader → Bool
  | .sendError _ => true
  | .reading | .sending _ | .storeEof | .sendEof | .releaseEof | .storeError _ | .releaseError _
  | .finished | .aborted => false

/-- No call of `try_subscribe` creates its receiver between the release of the stored read error and
its send. -/
def NotBetween (state : FastState) (action : FastAction) : Prop :=
  action = .subscribeReceiver → state.reader.betweenReleaseAndSend = false

instance (state : FastState) : DecidablePred (NotBetween state) :=
  fun _ => inferInstanceAs (Decidable (_ → _))

/-! ## The messages and one subscription -/

/-- No terminal event was sent. -/
def Open (sent : List StreamEvent) : Prop := ∀ event ∈ sent, event.isTerminal = false

/-- The last message is the only terminal event. -/
def Closed (sent : List StreamEvent) : Prop :=
  ∃ front event, sent = front ++ [event] ∧ Open front ∧ event.isTerminal = true

theorem Open.not_closed {sent : List StreamEvent} (running : Open sent) : ¬ Closed sent := by
  rintro ⟨front, event, rfl, _, terminal⟩
  have nonTerminal := running event (by simp)
  rw [terminal] at nonTerminal
  cases nonTerminal

theorem Open.snoc {sent : List StreamEvent} (running : Open sent) {event : StreamEvent}
    (nonTerminal : event.isTerminal = false) : Open (sent ++ [event]) := by
  intro other member
  rcases List.mem_append.mp member with old | new
  · exact running other old
  · rw [List.mem_singleton.mp new]
    exact nonTerminal

theorem Open.closed_snoc {sent : List StreamEvent} (running : Open sent) {event : StreamEvent}
    (terminal : event.isTerminal = true) : Closed (sent ++ [event]) :=
  ⟨sent, event, rfl, running, terminal⟩

/-- In a closed sequence exactly the last message is terminal. -/
theorem Closed.isTerminal_iff {sent : List StreamEvent} (closed : Closed sent) {position : Nat}
    {event : StreamEvent} (stored : sent[position]? = some event) :
    event.isTerminal = true ↔ position + 1 = sent.length := by
  obtain ⟨front, last, rfl, running, terminal⟩ := closed
  rw [List.length_append, List.length_singleton]
  obtain ⟨inside, _⟩ := List.getElem?_eq_some_iff.mp stored
  rw [List.length_append, List.length_singleton] at inside
  by_cases early : position < front.length
  · rw [List.getElem?_append_left early] at stored
    rw [running event (List.mem_of_getElem? stored)]
    simp
    omega
  · have here : position = front.length := by omega
    rw [here, List.getElem?_concat_length] at stored
    obtain rfl := Option.some.inj stored
    simp [terminal, here]

/-- A subscription relative to the messages sent so far. -/
inductive Placed (sent : List StreamEvent) (subscription : FastSubscription) : Prop where
  | live (stored : subscription.emitTerminalEvent = none) (running : Open subscription.yielded)
      (within : subscription.receiver ≤ sent.length)
      (ahead : Closed sent → subscription.receiver < sent.length)
  | late {event : StreamEvent} (stored : subscription.emitTerminalEvent = some event)
      (terminal : event.isTerminal = true) (yielded : subscription.yielded = [])
      (behind : subscription.receiver = sent.length) (closed : Closed sent)
  | done (stored : subscription.emitTerminalEvent = none) (yielded : Closed subscription.yielded)
      (behind : subscription.receiver = sent.length) (closed : Closed sent)

/-- A send leaves every subscription placed. -/
theorem Placed.send {sent : List StreamEvent} {subscription : FastSubscription}
    (placed : Placed sent subscription) (running : Open sent) (event : StreamEvent) :
    Placed (sent ++ [event]) subscription := by
  cases placed with
  | live stored quiet within _ =>
      refine .live stored quiet ?_ fun _ => ?_ <;>
        · rw [List.length_append, List.length_singleton]
          omega
  | late _ _ _ _ closed => exact absurd closed running.not_closed
  | done _ _ _ closed => exact absurd closed running.not_closed

/-- What a receive does. -/
theorem recvStep_cases {capacity : Nat} {state : FastState} {subscription next : FastSubscription}
    (received : recvStep capacity state subscription = some next) :
    (∃ event, subscription.emitTerminalEvent = some event ∧
      next = { subscription with
        emitTerminalEvent := none, yielded := subscription.yielded ++ [event] }) ∨
    (subscription.emitTerminalEvent = none ∧
      ((∃ event receiver,
        BroadcastRing.recv capacity state.sent subscription.receiver =
          some (.message event, receiver) ∧
        next = { subscription with receiver, yielded := subscription.yielded ++ [event] }) ∨
      (∃ skipped receiver,
        BroadcastRing.recv capacity state.sent subscription.receiver =
          some (.lagged skipped, receiver) ∧
        next = { subscription with receiver, yielded := subscription.yielded ++ [.gap] }) ∨
      (BroadcastRing.recv capacity state.sent subscription.receiver = none ∧
        state.sendersGone = true ∧ next = { subscription with ended := true }))) := by
  unfold recvStep at received
  split at received
  · rename_i event stored
    exact .inl ⟨event, stored, (Option.some.inj received).symm⟩
  · rename_i stored
    refine .inr ⟨stored, ?_⟩
    split at received
    · rename_i event receiver answered
      exact .inl ⟨event, receiver, answered, (Option.some.inj received).symm⟩
    · rename_i skipped receiver answered
      exact .inr (.inl ⟨skipped, receiver, answered, (Option.some.inj received).symm⟩)
    · rename_i answered
      split at received
      · rename_i gone
        exact .inr (.inr ⟨answered, gone, (Option.some.inj received).symm⟩)
      · cases received

/-- **A receive leaves the subscription placed.** -/
theorem Placed.recv {capacity : Nat} {state : FastState} {subscription next : FastSubscription}
    (positive : 0 < capacity) (shape : Open state.sent ∨ Closed state.sent)
    (placed : Placed state.sent subscription)
    (received : recvStep capacity state subscription = some next) : Placed state.sent next := by
  cases placed with
  | late stored terminal yielded behind closed =>
      rcases recvStep_cases received with ⟨event, emitted, rfl⟩ | ⟨absent, _⟩
      · obtain rfl := Option.some.inj (stored.symm.trans emitted)
        refine .done rfl ?_ behind closed
        rw [yielded]
        exact Open.closed_snoc (fun _ member => absurd member List.not_mem_nil) terminal
      · rw [stored] at absent
        cases absent
  | done stored yielded behind closed =>
      have waits := BroadcastRing.recv_eq_none capacity (Nat.le_of_eq behind.symm)
      rcases recvStep_cases received with ⟨event, emitted, _⟩ | ⟨_, answered⟩
      · rw [stored] at emitted
        cases emitted
      · rcases answered with ⟨_, _, answered, _⟩ | ⟨_, _, answered, _⟩ | ⟨_, _, rfl⟩
        · cases waits.symm.trans answered
        · cases waits.symm.trans answered
        · exact .done stored yielded behind closed
  | live stored running within ahead =>
      rcases recvStep_cases received with ⟨event, emitted, _⟩ | ⟨_, answered⟩
      · rw [stored] at emitted
        cases emitted
      · rcases answered with ⟨event, receiver, answered, rfl⟩ | ⟨_, receiver, answered, rfl⟩ |
          ⟨_, _, rfl⟩
        · obtain ⟨message, rfl⟩ := BroadcastRing.recv_message answered
          obtain ⟨inside, _⟩ := List.getElem?_eq_some_iff.mp message
          rcases shape with opened | closed
          · refine .live stored (running.snoc (opened event (List.mem_of_getElem? message))) inside
              fun closed => absurd closed opened.not_closed
          · by_cases terminal : event.isTerminal = true
            · exact .done stored (running.closed_snoc terminal)
                ((closed.isTerminal_iff message).mp terminal) closed
            · have notLast := mt (closed.isTerminal_iff message).mpr terminal
              refine .live stored (running.snoc (by simpa using terminal)) inside fun _ => ?_
              exact Nat.lt_of_le_of_ne inside notLast
        · obtain ⟨_, remembered⟩ := BroadcastRing.recv_lagged answered
          have inside : receiver < state.sent.length := by omega
          exact .live stored (running.snoc rfl) (Nat.le_of_lt inside) fun _ => inside
        · exact .live stored running within ahead

/-- Once the terminal event was sent, a subscription that has not yielded it does not wait, and
each call brings it closer. -/
theorem Placed.progress {capacity : Nat} {state : FastState} {subscription : FastSubscription}
    (closed : Closed state.sent) (placed : Placed state.sent subscription) :
    (∃ event ∈ subscription.yielded, event.isTerminal = true) ∨
      ∃ next, recvStep capacity state subscription = some next ∧
        ((∃ event ∈ next.yielded, event.isTerminal = true) ∨
          (subscription.receiver < next.receiver ∧ subscription.receiver < state.sent.length)) := by
  cases placed with
  | done _ yielded _ _ =>
      obtain ⟨front, event, whole, _, terminal⟩ := yielded
      exact .inl ⟨event, by simp [whole], terminal⟩
  | @late event stored terminal _ _ _ =>
      refine .inr ⟨_, by simp only [recvStep, stored]; rfl, .inl ⟨event, by simp, terminal⟩⟩
  | live stored _ _ ahead =>
      obtain ⟨answer, receiver, answered⟩ :=
        BroadcastRing.exists_recv capacity (ahead closed)
      cases answer with
      | message event =>
          refine .inr ⟨{ subscription with receiver, yielded := subscription.yielded ++ [event] },
            by simp only [recvStep, stored, answered], .inr ⟨?_, ahead closed⟩⟩
          rw [(BroadcastRing.recv_message answered).2]
          exact Nat.lt_succ_self _
      | lagged skipped =>
          exact .inr ⟨{ subscription with receiver, yielded := subscription.yielded ++ [.gap] },
            by simp only [recvStep, stored, answered],
            .inr ⟨(BroadcastRing.recv_lagged answered).1, ahead closed⟩⟩

/-! ## The invariant -/

/-- What holds at each place of the reader: who has the lock, what is stored and what was sent. -/
def ReaderPlaced (lock : Lock) (stored : FastClosureState) (sent : List StreamEvent) :
    Reader → Prop
  | .reading | .sending _ | .storeEof | .storeError _ | .aborted =>
      lock ≠ .reader ∧ stored = {} ∧ Open sent
  | .sendEof => lock = .reader ∧ stored.terminalEvent = some .eof ∧ Open sent
  | .releaseEof => lock = .reader ∧ stored.terminalEvent = some .eof ∧ Closed sent
  | .releaseError error =>
      lock = .reader ∧ stored.terminalEvent = some (.readError error) ∧ Open sent
  | .sendError error => (lock = .free ∨ lock = .subscriber none) ∧
      stored.terminalEvent = some (.readError error) ∧ Open sent
  | .finished =>
      lock ≠ .reader ∧ (∃ event, stored.terminalEvent = some event ∧ event.isTerminal = true) ∧
        Closed sent

/-- The invariant of the guarded runs. -/
structure Invariant (state : FastState) : Prop where
  reader : ReaderPlaced state.lock state.closureState state.sent state.reader
  receiver : ∀ receiver, state.lock = .subscriber (some receiver) →
    receiver ≤ state.sent.length ∧ (Closed state.sent → receiver = state.sent.length)
  subscriptions : ∀ subscription ∈ state.subscriptions, Placed state.sent subscription

section ReaderPlaced

variable {lock lock' : Lock} {stored : FastClosureState} {sent : List StreamEvent}
  {reader : Reader}

theorem ReaderPlaced.shape (placed : ReaderPlaced lock stored sent reader) :
    Open sent ∨ Closed sent := by
  cases reader with
  | releaseEof => exact .inr placed.2.2
  | finished => exact .inr placed.2.2
  | _ => exact .inl placed.2.2

/-- The lock may pass between nobody and a subscriber, which creates no receiver in the window. -/
theorem ReaderPlaced.relock (placed : ReaderPlaced lock stored sent reader)
    (before : lock ≠ .reader) (after : lock' ≠ .reader)
    (between : reader.betweenReleaseAndSend = true → lock' = .free ∨ lock' = .subscriber none) :
    ReaderPlaced lock' stored sent reader := by
  cases reader with
  | sendEof => exact absurd placed.1 before
  | releaseEof => exact absurd placed.1 before
  | releaseError error => exact absurd placed.1 before
  | sendError error => exact ⟨between rfl, placed.2⟩
  | _ => exact ⟨after, placed.2⟩

/-- A subscriber that has created its receiver finds the stored event exactly when it was sent. -/
theorem ReaderPlaced.stored_of_subscriber {receiver : Nat}
    (placed : ReaderPlaced (.subscriber (some receiver)) stored sent reader) :
    (stored.terminalEvent = none ∧ Open sent) ∨
      (∃ event, stored.terminalEvent = some event ∧ event.isTerminal = true) ∧ Closed sent := by
  cases reader with
  | sendEof => cases placed.1
  | releaseEof => cases placed.1
  | releaseError error => cases placed.1
  | sendError error => rcases placed.1 with other | other <;> cases other
  | finished => exact .inr placed.2
  | _ =>
      obtain ⟨_, rfl, running⟩ := placed
      exact .inl ⟨rfl, running⟩

end ReaderPlaced

/-- A step that leaves the messages, the subscriptions and the receiver being created as they are. -/
theorem Invariant.frame {state next : FastState} (invariant : Invariant state)
    (reader : ReaderPlaced next.lock next.closureState next.sent next.reader)
    (sent : next.sent = state.sent)
    (subscriptions : next.subscriptions = state.subscriptions)
    (lock : ∀ receiver, next.lock = .subscriber (some receiver) → next.lock = state.lock) :
    Invariant next where
  reader := reader
  receiver := by
    intro receiver held
    rw [sent]
    exact invariant.receiver receiver (lock receiver held ▸ held)
  subscriptions := by
    rw [sent, subscriptions]
    exact invariant.subscriptions

/-- A send while no terminal event was sent and, for a terminal event, no receiver is being
created. -/
theorem Invariant.send {state next : FastState} (invariant : Invariant state)
    (running : Open state.sent)
    (reader : ReaderPlaced next.lock next.closureState next.sent next.reader) {event : StreamEvent}
    (sent : next.sent = state.sent ++ [event])
    (subscriptions : next.subscriptions = state.subscriptions) (lock : next.lock = state.lock)
    (alone : event.isTerminal = true → ∀ receiver, state.lock ≠ .subscriber (some receiver)) :
    Invariant next where
  reader := reader
  receiver := by
    intro receiver held
    rw [lock] at held
    rw [sent, List.length_append, List.length_singleton]
    have within := (invariant.receiver receiver held).1
    refine ⟨by omega, fun closed => ?_⟩
    by_cases terminal : event.isTerminal = true
    · exact absurd held (alone terminal receiver)
    · exact absurd closed (running.snoc (by simpa using terminal)).not_closed
  subscriptions := by
    intro subscription member
    rw [sent]
    rw [subscriptions] at member
    exact (invariant.subscriptions subscription member).send running event

/-- A finished call of `try_subscribe` has a subscription that is placed. -/
theorem Invariant.placed_new {state : FastState} (invariant : Invariant state) {receiver : Nat}
    (held : state.lock = .subscriber (some receiver)) :
    Placed state.sent ⟨receiver, state.closureState.terminalEvent, [], false⟩ := by
  have placed := invariant.reader
  rw [held] at placed
  obtain ⟨within, behind⟩ := invariant.receiver receiver held
  rcases placed.stored_of_subscriber with ⟨absent, running⟩ | ⟨⟨event, stored, terminal⟩, closed⟩
  · rw [absent]
    exact .live rfl (fun _ member => absurd member List.not_mem_nil) within
      fun closed => absurd closed running.not_closed
  · rw [stored]
    exact .late rfl terminal rfl (behind closed) closed

/-- **Every guarded step keeps the invariant.** -/
theorem step_invariant {streamName : String} {chunkSize capacity : Nat} (positive : 0 < capacity)
    {state next : FastState} {action : FastAction} (invariant : Invariant state)
    (allowed : NotBetween state action)
    (stepped : fastStep streamName chunkSize capacity state action = some next) :
    Invariant next := by
  have placed := invariant.reader
  cases fastStep_move stepped with
  | read here =>
      rw [here] at placed
      exact invariant.frame placed rfl rfl fun _ _ => rfl
  | readEof here =>
      rw [here] at placed
      exact invariant.frame placed rfl rfl fun _ _ => rfl
  | readError here =>
      rw [here] at placed
      exact invariant.frame placed rfl rfl fun _ _ => rfl
  | sentAll here =>
      rw [here] at placed
      exact invariant.frame placed rfl rfl fun _ _ => rfl
  | sendChunk here =>
      rw [here] at placed
      obtain ⟨unlocked, absent, running⟩ := placed
      exact invariant.send running ⟨unlocked, absent, running.snoc rfl⟩ rfl rfl rfl nofun
  | storeEof here _ =>
      rw [here] at placed
      obtain ⟨_, empty, running⟩ := placed
      exact invariant.frame ⟨rfl, by simp [empty, FastClosureState.terminalEvent], running⟩ rfl rfl
        nofun
  | sendEof here =>
      rw [here] at placed
      obtain ⟨locked, stored, running⟩ := placed
      refine invariant.send running ⟨locked, stored, running.closed_snoc rfl⟩ rfl rfl rfl ?_
      intro _ receiver
      rw [locked]
      exact nofun
  | releaseEof here =>
      rw [here] at placed
      obtain ⟨_, stored, closed⟩ := placed
      exact invariant.frame ⟨nofun, ⟨.eof, stored, rfl⟩, closed⟩ rfl rfl nofun
  | storeError here _ =>
      rw [here] at placed
      obtain ⟨_, empty, running⟩ := placed
      exact invariant.frame ⟨rfl, by simp [empty, FastClosureState.terminalEvent], running⟩ rfl rfl
        nofun
  | releaseError here =>
      rw [here] at placed
      obtain ⟨_, stored, running⟩ := placed
      exact invariant.frame ⟨.inl rfl, stored, running⟩ rfl rfl nofun
  | @sendError error here =>
      rw [here] at placed
      obtain ⟨unlocked, stored, running⟩ := placed
      refine invariant.send running ⟨?_, ⟨.readError error, stored, rfl⟩, running.closed_snoc rfl⟩
        rfl rfl rfl ?_
      · rcases unlocked with free | held
        · rw [free]
          exact nofun
        · rw [held]
          exact nofun
      · intro _ receiver
        rcases unlocked with free | held
        · rw [free]
          exact nofun
        · rw [held]
          exact nofun
  | subscribeLock unlocked _ =>
      refine invariant.frame (placed.relock ?_ nofun fun _ => .inr rfl) rfl rfl nofun
      rw [unlocked]
      exact nofun
  | subscribeReceiver held =>
      refine ⟨placed.relock ?_ nofun ?_, ?_, invariant.subscriptions⟩
      · rw [held]
        exact nofun
      · intro between
        rw [allowed rfl] at between
        cases between
      · intro receiver same
        cases same
        exact ⟨Nat.le_refl _, fun _ => rfl⟩
  | subscribeFinish held =>
      refine ⟨placed.relock ?_ nofun fun _ => .inl rfl, nofun, ?_⟩
      · rw [held]
        exact nofun
      · intro subscription member
        rcases List.mem_append.mp member with old | new
        · exact invariant.subscriptions subscription old
        · rw [List.mem_singleton.mp new]
          exact invariant.placed_new held
  | @nextEvent handle subscription received found taken =>
      refine ⟨placed, invariant.receiver, ?_⟩
      intro other member
      rcases List.mem_or_eq_of_mem_set member with old | rfl
      · exact invariant.subscriptions other old
      · exact (invariant.subscriptions subscription (List.mem_of_getElem? found)).recv positive
          placed.shape taken
  | dropStream _ => exact invariant.frame placed rfl rfl fun _ _ => rfl
  | abortReader _ here =>
      rw [here] at placed
      exact invariant.frame placed rfl rfl fun _ _ => rfl

/-! ## The result -/

/-- The invariant of the initial state. -/
theorem invariant_init : Invariant {} where
  reader := ⟨nofun, rfl, fun _ member => absurd member List.not_mem_nil⟩
  receiver := nofun
  subscriptions := fun _ member => absurd member List.not_mem_nil

theorem Open.filter_isTerminal {events : List StreamEvent} (running : Open events) :
    events.filter StreamEvent.isTerminal = [] := by
  rw [List.filter_eq_nil_iff]
  intro event member
  rw [running event member]
  exact Bool.false_ne_true

theorem Open.terminalLast {events : List StreamEvent} (running : Open events) :
    TerminalLast events := by
  intro before event after whole terminal
  have nonTerminal := running event (by simp [whole])
  rw [terminal] at nonTerminal
  cases nonTerminal

theorem Closed.terminalLast {events : List StreamEvent} (closed : Closed events) :
    TerminalLast events := by
  intro before event after whole terminal
  have stored : events[before.length]? = some event := by simp [whole]
  have last := (closed.isTerminal_iff stored).mp terminal
  rw [whole, List.length_append, List.length_cons] at last
  exact List.length_eq_zero_iff.mp (by omega)

theorem Placed.yielded {sent : List StreamEvent} {subscription : FastSubscription}
    (placed : Placed sent subscription) :
    Open subscription.yielded ∨ Closed subscription.yielded := by
  cases placed with
  | live _ running _ _ => exact .inl running
  | late _ _ empty _ _ =>
      rw [empty]
      exact .inl fun _ member => absurd member List.not_mem_nil
  | done _ closed _ _ => exact .inr closed

/-- Calling `next_event` again and again yields the terminal event. -/
theorem exists_calls {streamName : String} {options : ValidConfig} {capacity handle : Nat}
    {state : FastState} {subscription : FastSubscription} (closed : Closed state.sent)
    (found : state.subscriptions[handle]? = some subscription)
    (placed : Placed state.sent subscription) :
    ∃ calls final subscription', calls ≤ state.sent.length - subscription.receiver + 1 ∧
      (fastMachine streamName options capacity).exec state
        (List.replicate calls (.nextEvent handle)) = some final ∧
      final.subscriptions[handle]? = some subscription' ∧
      ∃ event ∈ subscription'.yielded, event.isTerminal = true := by
  have positive : 0 < max options.maxBufferedChunks capacity :=
    Nat.lt_of_lt_of_le options.maxBufferedChunks_pos (Nat.le_max_left _ _)
  induction backlog : state.sent.length - subscription.receiver using Nat.strongRecOn
    generalizing state subscription with
  | _ backlog ih =>
      rcases placed.progress closed with already | ⟨next, received, outcome⟩
      · exact ⟨0, state, subscription, Nat.zero_le _, rfl, found, already⟩
      · have stepped : (fastMachine streamName options capacity).step state (.nextEvent handle) =
            some { state with subscriptions := state.subscriptions.set handle next } := by
          simp only [fastMachine, fastStep, found, Option.bind_eq_bind, Option.bind_some]
          rw [received]
          rfl
        have stored : (state.subscriptions.set handle next)[handle]? = some next :=
          List.getElem?_set_self (List.getElem?_eq_some_iff.mp found).1
        rcases outcome with terminal | ⟨advanced, ahead⟩
        · refine ⟨1, { state with subscriptions := state.subscriptions.set handle next }, next,
            by omega, ?_, stored, terminal⟩
          rw [List.replicate_one, Machine.exec, stepped]
          rfl
        · obtain ⟨calls, final, reached, few, executed, result⟩ := @ih
            (state.sent.length - next.receiver) (by omega)
            { state with subscriptions := state.subscriptions.set handle next } next closed stored
            (placed.recv positive (.inr closed) received) rfl
          refine ⟨calls + 1, final, reached, by omega, ?_, result⟩
          rw [List.replicate_succ, Machine.exec, stepped]
          exact executed

/-- The invariant gives the property. -/
theorem Invariant.terminalOnce {streamName : String} {options : ValidConfig} {capacity : Nat}
    {state : FastState} (invariant : Invariant state) :
    TerminalOnce (fastMachine streamName options capacity) state where
  once := by
    intro subscription member
    rcases (invariant.subscriptions subscription member).yielded with running | closed
    · rw [running.filter_isTerminal]
      exact Nat.zero_le _
    · obtain ⟨front, event, whole, running, _⟩ := closed
      rw [whole, List.filter_append, running.filter_isTerminal, List.nil_append]
      exact List.length_filter_le _ _
  last := by
    intro subscription member
    rcases (invariant.subscriptions subscription member).yielded with running | closed
    · exact running.terminalLast
    · exact closed.terminalLast
  delivered := by
    rintro ⟨event, member, terminal⟩ handle inside
    have closed : Closed state.sent := by
      rcases invariant.reader.shape with running | closed
      · rw [running event member] at terminal
        cases terminal
      · exact closed
    have found := List.getElem?_eq_getElem inside
    obtain ⟨calls, final, subscription, few, rest⟩ := exists_calls closed found
      (invariant.subscriptions _ (List.mem_of_getElem? found))
    exact ⟨calls, final, subscription, by omega, rest⟩

/-- **The terminal event reaches every subscription exactly once** in every run in which no call of
`try_subscribe` creates its receiver between the release of a stored read error and its send. -/
theorem terminalOnce_of_notBetween (streamName : String) (options : ValidConfig) (capacity : Nat)
    {state : FastState}
    (reachable : (fastMachine streamName options capacity).ReachableBy NotBetween state) :
    TerminalOnce (fastMachine streamName options capacity) state := by
  have positive : 0 < max options.maxBufferedChunks capacity :=
    Nat.lt_of_lt_of_le options.maxBufferedChunks_pos (Nat.le_max_left _ _)
  apply Invariant.terminalOnce
  apply reachable.invariant invariant_init
  intro state next action invariant allowed stepped
  exact step_invariant positive invariant allowed stepped

/-- A stream with chunks of at most four bytes and room for two of them. -/
def smallConfig : ValidConfig where
  readChunkSize := ⟨4⟩
  maxBufferedChunks := 2
  readChunkSize_pos := Nat.succ_pos _
  maxBufferedChunks_pos := Nat.two_pos
  retention_nonZero := nonZero_none

/-- A subscription from before the read error and one from after it, both of which have yielded it. The
call that makes the latter takes the lock between the release and the send. -/
theorem terminalOnce_two_subscriptions :
    ∃ state, (fastMachine "stdout" smallConfig 2).ReachableBy NotBetween state ∧
      state.subscriptions.map FastSubscription.yielded =
        [[.chunk ⟨[7], 0⟩, .readError ⟨"stdout", ⟨5, "broken pipe"⟩⟩],
          [.readError ⟨"stdout", ⟨5, "broken pipe"⟩⟩]] ∧
      TerminalOnce (fastMachine "stdout" smallConfig 2) state := by
  obtain ⟨state, reachable, yielded⟩ := (fastMachine "stdout" smallConfig 2).exists_reachableBy
    NotBetween
    [.subscribeLock, .subscribeReceiver, .subscribeFinish, .read [7], .reader, .reader,
      .readError ⟨5, "broken pipe"⟩, .reader, .reader, .subscribeLock, .reader, .subscribeReceiver,
      .subscribeFinish, .nextEvent 0, .nextEvent 0, .nextEvent 1]
    (fun state => state.subscriptions.map FastSubscription.yielded =
      [[.chunk ⟨[7], 0⟩, .readError ⟨"stdout", ⟨5, "broken pipe"⟩⟩],
        [.readError ⟨"stdout", ⟨5, "broken pipe"⟩⟩]])
    (by decide)
  exact ⟨state, reachable, yielded, terminalOnce_of_notBetween "stdout" smallConfig 2 reachable⟩

/-- **A subscription taken between the release and the send yields the read error twice.** -/
theorem terminal_twice_between :
    ∃ state, (fastMachine "stdout" smallConfig 2).Reachable state ∧
      state.subscriptions.map FastSubscription.yielded =
        [[.readError ⟨"stdout", ⟨5, "broken pipe"⟩⟩,
          .readError ⟨"stdout", ⟨5, "broken pipe"⟩⟩]] ∧
      ¬ TerminalOnce (fastMachine "stdout" smallConfig 2) state := by
  obtain ⟨state, reachable, yielded⟩ := (fastMachine "stdout" smallConfig 2).exists_reachableBy
    (fun _ _ => True)
    [.readError ⟨5, "broken pipe"⟩, .reader, .reader, .subscribeLock, .subscribeReceiver,
      .subscribeFinish, .reader, .nextEvent 0, .nextEvent 0]
    (fun state => state.subscriptions.map FastSubscription.yielded =
      [[.readError ⟨"stdout", ⟨5, "broken pipe"⟩⟩, .readError ⟨"stdout", ⟨5, "broken pipe"⟩⟩]])
    (by decide)
  refine ⟨state, reachable, yielded, ?_⟩
  intro property
  obtain ⟨subscription, member, twice⟩ := List.mem_map.mp (yielded ▸ List.mem_cons_self)
  have once := property.once subscription member
  rw [twice] at once
  exact absurd once (by decide)

end TokioProcessTools.OutputStream.Backend.Broadcast.Fast
