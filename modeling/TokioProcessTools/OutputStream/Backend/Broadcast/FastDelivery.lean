import TokioProcessTools.OutputStream.Backend.Account
import TokioProcessTools.OutputStream.Backend.Broadcast.FastTerminal

/-!
# Losses on the fast path are announced

A subscription on the fast path is a position in the sequence of the events that
were sent. When it has fallen behind what the channel remembers, it is told so
once and continues with the oldest remembered event; `recv` then yields a gap.

So what a subscription has yielded accounts for the events sent since it was
created, one after the other: an event for itself, a gap for the chunks that were
lost to it (`fast_losses_announced`). The end of the stream is never lost, since
it is the last event and the channel has room for one. A subscription created
when the stream had ended yields the stored terminal event before that.
-/

set_option autoImplicit false

namespace TokioProcessTools.OutputStream.Backend.Broadcast.Fast

open Foundation

/-! ## What is sent -/

/-- Chunks only. -/
def Chunks (sent : List StreamEvent) : Prop := ∀ event ∈ sent, event.isChunk = true

/-- Chunks and then the terminal event. -/
def Ended (sent : List StreamEvent) : Prop :=
  ∃ front event, sent = front ++ [event] ∧ Chunks front ∧ event.isTerminal = true

/-- What was sent when the reader is at a place. -/
def SentBy (sent : List StreamEvent) : Reader → Prop
  | .reading | .sending _ | .storeEof | .sendEof | .storeError _ | .releaseError _ | .sendError _
  | .aborted => Chunks sent
  | .releaseEof | .finished => Ended sent

theorem Chunks.snoc {sent : List StreamEvent} (chunks : Chunks sent) {event : StreamEvent}
    (isChunk : event.isChunk = true) : Chunks (sent ++ [event]) := by
  intro other member
  rcases List.mem_append.mp member with earlier | last
  · exact chunks other earlier
  · rw [List.mem_singleton.mp last]
    exact isChunk

/-- What is followed by something is a chunk. -/
theorem SentBy.chunk_of_lt {sent : List StreamEvent} {reader : Reader} (shape : SentBy sent reader)
    {position : Nat} (followed : position + 1 < sent.length) :
    ∃ chunk, sent[position]? = some (.chunk chunk) := by
  have chunkOf : ∀ front : List StreamEvent, Chunks front → position < front.length →
      ∃ chunk, front[position]? = some (.chunk chunk) := by
    intro front chunks inside
    obtain ⟨chunk, same⟩ := StreamEvent.exists_chunk (chunks _ (List.getElem_mem inside))
    exact ⟨chunk, by rw [List.getElem?_eq_getElem inside, same]⟩
  have ended : Ended sent → ∃ chunk, sent[position]? = some (.chunk chunk) := by
    rintro ⟨front, event, rfl, chunks, _⟩
    rw [List.length_append, List.length_singleton, Nat.add_lt_add_iff_right] at followed
    obtain ⟨chunk, stored⟩ := chunkOf front chunks followed
    exact ⟨chunk, by rw [List.getElem?_append_left followed, stored]⟩
  have inside : position < sent.length := Nat.lt_of_succ_lt followed
  cases reader with
  | releaseEof | finished => exact ended shape
  | reading | sending buffer | storeEof | sendEof | storeError error | releaseError error
  | sendError error | aborted => exact chunkOf sent shape inside

/-- A gap is never sent. -/
theorem SentBy.not_gap {sent : List StreamEvent} {reader : Reader} (shape : SentBy sent reader) :
    .gap ∉ sent := by
  have chunks : ∀ front : List StreamEvent, Chunks front → .gap ∉ front := by
    intro front chunks member
    cases chunks _ member
  have ended : Ended sent → .gap ∉ sent := by
    rintro ⟨front, event, rfl, before, terminal⟩ member
    rcases List.mem_append.mp member with earlier | last
    · exact chunks front before earlier
    · rw [← List.mem_singleton.mp last] at terminal
      cases terminal
  cases reader with
  | releaseEof | finished => exact ended shape
  | reading | sending buffer | storeEof | sendEof | storeError error | releaseError error
  | sendError error | aborted => exact chunks sent shape

/-- What is sent keeps its shape. -/
theorem SentBy.step {streamName : String} {chunkSize capacity : Nat} {state next : FastState}
    {action : FastAction} (shape : SentBy state.sent state.reader)
    (move : FastMove streamName chunkSize capacity state action next) :
    SentBy next.sent next.reader := by
  cases move with
  | read here | readEof here | readError here | sentAll here | storeEof here _ | releaseEof here
  | storeError here _ | releaseError here | abortReader _ here =>
      rw [here] at shape
      exact shape
  | sendChunk here =>
      rw [here] at shape
      exact Chunks.snoc shape rfl
  | sendEof here =>
      rw [here] at shape
      exact ⟨state.sent, .eof, rfl, shape, rfl⟩
  | @sendError error here =>
      rw [here] at shape
      exact ⟨state.sent, .readError error, rfl, shape, rfl⟩
  | subscribeLock _ _ | subscribeReceiver _ | subscribeFinish _ | nextEvent _ _ | dropStream _ =>
      exact shape

/-- The reader is between taking the lock and releasing it. -/
def Reader.holdsLock : Reader → Bool
  | .sendEof | .releaseEof | .releaseError _ => true
  | .reading | .sending _ | .storeEof | .storeError _ | .sendError _ | .finished | .aborted => false

/-- The lock is the reader's while it is between. -/
theorem holdsLock_step {streamName : String} {chunkSize capacity : Nat} {state next : FastState}
    {action : FastAction} (holds : state.reader.holdsLock = true → state.lock = .reader)
    (move : FastMove streamName chunkSize capacity state action next) :
    next.reader.holdsLock = true → next.lock = .reader := by
  intro inside
  cases move with
  | read _ | readEof _ | readError _ | sentAll _ | sendChunk _ | releaseEof _ | releaseError _
  | sendError _ | abortReader _ _ => cases inside
  | storeEof _ _ | storeError _ _ => rfl
  | sendEof here => exact holds (by rw [here]; rfl)
  | subscribeLock unlocked _ => cases unlocked.symm.trans (holds inside)
  | subscribeReceiver held => cases held.symm.trans (holds inside)
  | subscribeFinish held => cases held.symm.trans (holds inside)
  | nextEvent _ _ | dropStream _ => exact holds inside

/-! ## One subscription -/

/-- The stored event is a terminal one. -/
theorem FastClosureState.terminalEvent_isTerminal {closure : FastClosureState} {event : StreamEvent}
    (stored : closure.terminalEvent = some event) : event.isTerminal = true := by
  obtain ⟨closed, error⟩ := closure
  cases error with
  | some error =>
      cases stored
      rfl
  | none =>
      cases closed with
      | true =>
          cases stored
          rfl
      | false => cases stored

/-- What a subscription has yielded since it was created at the given position: the terminal event
that was stored by then, if there was one, and an account of what was sent since. -/
structure Delivered (sent : List StreamEvent) (start : Nat) (stored : Option StreamEvent)
    (subscription : FastSubscription) : Prop where
  account : ∃ items,
    subscription.yielded ++ subscription.emitTerminalEvent.toList = stored.toList ++ items ∧
    (subscription.emitTerminalEvent ≠ none → items = []) ∧
    Tiles (Reports sent) start items subscription.receiver
  within : subscription.receiver ≤ sent.length

section Delivered

variable {sent : List StreamEvent} {start : Nat} {stored : Option StreamEvent}
  {subscription received : FastSubscription}

theorem Delivered.send (delivered : Delivered sent start stored subscription) (more : StreamEvent) :
    Delivered (sent ++ [more]) start stored subscription := by
  obtain ⟨items, yielded, first, tiles⟩ := delivered.account
  refine ⟨⟨items, yielded, first, ?_⟩, ?_⟩
  · exact tiles.mono fun _ _ _ _ reports => reports.append [more]
  · rw [List.length_append]
    exact Nat.le_add_right_of_le delivered.within

/-- A subscription that was just created. -/
theorem Delivered.new (stored : Option StreamEvent) (within : start ≤ sent.length) :
    Delivered sent start stored ⟨start, stored, [], false⟩ :=
  ⟨⟨[], (List.append_nil _).symm, fun _ => rfl, .nil⟩, within⟩

/-- An item behind what was yielded. -/
theorem Delivered.yield {event : StreamEvent} {next : Nat}
    (delivered : Delivered sent start stored subscription)
    (absent : subscription.emitTerminalEvent = none)
    (reports : Reports sent event subscription.receiver next) (within : next ≤ sent.length) :
    Delivered sent start stored { subscription with
      receiver := next, yielded := subscription.yielded ++ [event] } := by
  obtain ⟨items, yielded, _, tiles⟩ := delivered.account
  refine ⟨⟨items ++ [event], ?_, fun some => absurd absent some, tiles.concat reports⟩, within⟩
  rw [absent, Option.toList_none, List.append_nil] at yielded ⊢
  rw [yielded, List.append_assoc]

/-- **A receive keeps the account.** -/
theorem Delivered.recv {capacity : Nat} {state : FastState} (positive : 0 < capacity)
    (shape : SentBy state.sent state.reader)
    (delivered : Delivered state.sent start stored subscription)
    (taken : recvStep capacity state subscription = some received) :
    Delivered state.sent start stored received := by
  rcases recvStep_cases taken with ⟨event, emits, rfl⟩ | ⟨absent, answered⟩
  · obtain ⟨items, yielded, first, tiles⟩ := delivered.account
    obtain rfl : items = [] := first (by simp [emits])
    refine ⟨⟨[], ?_, fun _ => rfl, tiles⟩, delivered.within⟩
    rw [emits] at yielded
    simpa using yielded
  · rcases answered with ⟨event, receiver, answered, rfl⟩ | ⟨_, receiver, answered, rfl⟩ |
      ⟨_, _, rfl⟩
    · obtain ⟨message, rfl⟩ := BroadcastRing.recv_message answered
      obtain ⟨inside, _⟩ := List.getElem?_eq_some_iff.mp message
      have notGap : event ≠ .gap := by
        rintro rfl
        exact shape.not_gap (List.mem_of_getElem? message)
      exact delivered.yield absent (.event notGap message) inside
    · obtain ⟨ahead, remembered⟩ := BroadcastRing.recv_lagged answered
      refine delivered.yield absent (.gap ahead fun position _ below => ?_) (by omega)
      exact shape.chunk_of_lt (by omega)
    · exact ⟨delivered.account, delivered.within⟩

end Delivered

/-! ## Runs -/

/-- The call of `try_subscribe` that has created a receiver is not finished, or its subscription has
an account. -/
structure Serves (start : Nat) (stored : Option StreamEvent) (handle : Nat) (state : FastState) :
    Prop where
  shape : SentBy state.sent state.reader
  holds : state.reader.holdsLock = true → state.lock = .reader
  serves : (state.lock = .subscriber (some start) ∧ state.subscriptions.length = handle ∧
      start ≤ state.sent.length ∧ state.closureState.terminalEvent = stored) ∨
    ∃ subscription, state.subscriptions[handle]? = some subscription ∧
      Delivered state.sent start stored subscription

section Runs

variable {streamName : String} {chunkSize capacity start handle : Nat} {state next : FastState}
  {stored : Option StreamEvent} {action : FastAction}

/-- A step that leaves the subscriptions alone, and the lock and what it guards to a call that has
it. -/
theorem Serves.frame (serves : Serves start stored handle state)
    (shape : SentBy next.sent next.reader)
    (holds : next.reader.holdsLock = true → next.lock = .reader)
    (sent : next.sent = state.sent ∨ ∃ event, next.sent = state.sent ++ [event])
    (lock : state.lock = .subscriber (some start) →
      next.lock = state.lock ∧ next.closureState = state.closureState)
    (subscriptions : next.subscriptions = state.subscriptions) :
    Serves start stored handle next := by
  refine ⟨shape, holds, ?_⟩
  rcases serves.serves with ⟨held, length, within, terminal⟩ | ⟨subscription, found, delivered⟩
  · obtain ⟨same, guarded⟩ := lock held
    refine .inl ⟨same.trans held, by rw [subscriptions, length], ?_, by rw [guarded, terminal]⟩
    rcases sent with same | ⟨event, more⟩
    · rwa [same]
    · rw [more, List.length_append]
      exact Nat.le_add_right_of_le within
  · refine .inr ⟨subscription, by rw [subscriptions, found], ?_⟩
    rcases sent with same | ⟨event, more⟩
    · rwa [same]
    · rw [more]
      exact delivered.send event

theorem Serves.step (positive : 0 < capacity) (serves : Serves start stored handle state)
    (stepped : fastStep streamName chunkSize capacity state action = some next) :
    Serves start stored handle next := by
  have move := fastStep_move stepped
  have shape := serves.shape.step move
  have holds := holdsLock_step serves.holds move
  cases move with
  | read _ | readEof _ | readError _ | sentAll _ | abortReader _ _ | dropStream _ =>
      exact serves.frame shape holds (.inl rfl) (fun _ => ⟨rfl, rfl⟩) rfl
  | sendChunk _ | sendEof _ | sendError _ =>
      exact serves.frame shape holds (.inr ⟨_, rfl⟩) (fun _ => ⟨rfl, rfl⟩) rfl
  | storeEof _ unlocked | storeError _ unlocked | subscribeLock unlocked _ =>
      exact serves.frame shape holds (.inl rfl) (fun held => by cases unlocked.symm.trans held) rfl
  | releaseEof here | releaseError here =>
      have reader : state.lock = .reader := serves.holds (by rw [here]; rfl)
      exact serves.frame shape holds (.inl rfl) (fun held => by cases reader.symm.trans held) rfl
  | subscribeReceiver held =>
      exact serves.frame shape holds (.inl rfl) (fun other => by cases held.symm.trans other) rfl
  | @subscribeFinish receiver held =>
      refine ⟨shape, holds, .inr ?_⟩
      rcases serves.serves with ⟨mine, length, within, terminal⟩ | ⟨subscription, found, delivered⟩
      · cases held.symm.trans mine
        rw [← length, terminal]
        exact ⟨_, List.getElem?_concat_length, .new stored within⟩
      · obtain ⟨inside, _⟩ := List.getElem?_eq_some_iff.mp found
        exact ⟨subscription, by rw [List.getElem?_append_left inside, found], delivered⟩
  | @nextEvent other subscription received found taken =>
      refine ⟨shape, holds, ?_⟩
      rcases serves.serves with ⟨mine, length, within, terminal⟩ | ⟨mine, here, delivered⟩
      · exact .inl ⟨mine, by rw [List.length_set, length], within, terminal⟩
      · right
        by_cases same : other = handle
        · subst same
          cases found.symm.trans here
          exact ⟨received, List.getElem?_set_self (List.getElem?_eq_some_iff.mp here).1,
            delivered.recv positive serves.shape taken⟩
        · exact ⟨mine, by rw [List.getElem?_set_ne same, here], delivered⟩

/-- The shape of what was sent, and the reader's lock, in every reachable state. -/
theorem reachable_shape {options : ValidConfig}
    (reachable : (fastMachine streamName options capacity).Reachable state) :
    SentBy state.sent state.reader ∧ (state.reader.holdsLock = true → state.lock = .reader) := by
  apply reachable.invariant
  · exact ⟨fun _ member => absurd member List.not_mem_nil, fun holds => by cases holds⟩
  · rintro state next action ⟨shape, holds⟩ - stepped
    have move := fastStep_move stepped
    exact ⟨shape.step move, holdsLock_step holds move⟩

/-- What a subscription serves behind a run. -/
theorem exec_serves {options : ValidConfig} {before after : FastState} {actions : List FastAction}
    (reachable : (fastMachine streamName options capacity).Reachable before)
    (subscribed : (fastMachine streamName options capacity).step before .subscribeReceiver =
      some after)
    (ran : (fastMachine streamName options capacity).exec after actions = some state) :
    Serves before.sent.length before.closureState.terminalEvent before.subscriptions.length
      state := by
  have positive : 0 < max options.maxBufferedChunks capacity :=
    Nat.lt_of_lt_of_le options.maxBufferedChunks_pos (Nat.le_max_left _ _)
  obtain ⟨shape, holds⟩ := reachable_shape (reachable.step trivial subscribed)
  have begun : Serves before.sent.length before.closureState.terminalEvent
      before.subscriptions.length after := by
    simp only [fastMachine, fastStep, Option.ite_none_right_eq_some, Option.some.injEq] at subscribed
    obtain ⟨_, rfl⟩ := subscribed
    exact ⟨shape, holds, .inl ⟨rfl, rfl, Nat.le_refl _, rfl⟩⟩
  exact Machine.exec_preserves (fun serves taken => serves.step positive taken) begun ran

/-- A subscription that has answered `None` was told everything, and nothing more is sent. -/
def AllTold (state : FastState) : Prop :=
  ∀ subscription ∈ state.subscriptions, subscription.ended = true →
    (state.reader = .finished ∨ state.reader = .aborted) ∧
      state.sent.length ≤ subscription.receiver

/-- What `recv` answers keeps it so. -/
theorem AllTold.recv {subscription received : FastSubscription}
    (told : subscription.ended = true → (state.reader = .finished ∨ state.reader = .aborted) ∧
      state.sent.length ≤ subscription.receiver)
    (taken : recvStep capacity state subscription = some received) (ended : received.ended = true) :
    (state.reader = .finished ∨ state.reader = .aborted) ∧
      state.sent.length ≤ received.receiver := by
  rcases recvStep_cases taken with ⟨event, stored, rfl⟩ | ⟨absent, answered⟩
  · exact told ended
  · rcases answered with ⟨event, receiver, answered, rfl⟩ | ⟨_, receiver, answered, rfl⟩ |
      ⟨waits, gone, rfl⟩
    · obtain ⟨message, rfl⟩ := BroadcastRing.recv_message answered
      obtain ⟨inside, _⟩ := List.getElem?_eq_some_iff.mp message
      exact absurd inside (Nat.not_lt_of_le (told ended).2)
    · obtain ⟨ahead, remembered⟩ := BroadcastRing.recv_lagged answered
      have behind := (told ended).2
      omega
    · constructor
      · simp only [FastState.sendersGone, Bool.and_eq_true, Bool.or_eq_true,
          decide_eq_true_eq] at gone
        exact gone.2
      · by_contra ahead
        obtain ⟨answer, next, answered⟩ := BroadcastRing.exists_recv capacity (Nat.lt_of_not_le ahead)
        cases waits.symm.trans answered

theorem AllTold.step (told : AllTold state)
    (move : FastMove streamName chunkSize capacity state action next) : AllTold next := by
  intro subscription member ended
  cases move with
  | read here | readEof here | readError here | sentAll here | sendChunk here | storeEof here _
  | sendEof here | releaseEof here | storeError here _ | releaseError here | sendError here
  | abortReader _ here =>
      rcases (told subscription member ended).1 with finished | aborted
      · cases here.symm.trans finished
      · cases here.symm.trans aborted
  | subscribeLock _ _ | subscribeReceiver _ | dropStream _ => exact told subscription member ended
  | subscribeFinish _ =>
      rcases List.mem_append.mp member with earlier | new
      · exact told subscription earlier ended
      · rw [List.mem_singleton.mp new] at ended
        cases ended
  | nextEvent found taken =>
      rcases List.mem_or_eq_of_mem_set member with other | rfl
      · exact told subscription other ended
      · exact AllTold.recv (told _ (List.mem_of_getElem? found)) taken ended

theorem reachable_allTold {options : ValidConfig}
    (reachable : (fastMachine streamName options capacity).Reachable state) : AllTold state := by
  apply reachable.invariant
  · exact fun _ member => absurd member List.not_mem_nil
  · exact fun told _ stepped => told.step (fastStep_move stepped)

/-- What a subscription has yielded behind a run. -/
theorem exec_delivered {options : ValidConfig} {before after : FastState}
    {actions : List FastAction} {subscription : FastSubscription}
    (reachable : (fastMachine streamName options capacity).Reachable before)
    (subscribed : (fastMachine streamName options capacity).step before .subscribeReceiver =
      some after)
    (ran : (fastMachine streamName options capacity).exec after actions = some state)
    (found : state.subscriptions[before.subscriptions.length]? = some subscription) :
    Delivered state.sent before.sent.length before.closureState.terminalEvent subscription := by
  rcases (exec_serves reachable subscribed ran).serves with
    ⟨_, length, _⟩ | ⟨mine, here, delivered⟩
  · rw [← length, List.getElem?_length] at found
    cases found
  · cases found.symm.trans here
    exact delivered

/-- **Every loss on the fast path is announced.** A call of `try_subscribe` creates its receiver
somewhere in a run, and the run goes on, in any interleaving with the reader, with other subscriptions
and with the drop of the stream. What the subscription yields is the terminal event stored by then, if
there was one, and behind it an account of the events sent since, without a hole: each event for
itself, in order and once, and each gap for one or more chunks. So a terminal event is never lost.
When the subscription has answered `None`, the account covers everything that was ever sent since. -/
theorem fast_losses_announced {options : ValidConfig} {before after : FastState}
    {actions : List FastAction} {subscription : FastSubscription}
    (reachable : (fastMachine streamName options capacity).Reachable before)
    (subscribed : (fastMachine streamName options capacity).step before .subscribeReceiver =
      some after)
    (ran : (fastMachine streamName options capacity).exec after actions = some state)
    (found : state.subscriptions[before.subscriptions.length]? = some subscription) :
    Delivered state.sent before.sent.length before.closureState.terminalEvent subscription ∧
      (subscription.ended = true → subscription.receiver = state.sent.length) := by
  have delivered := exec_delivered reachable subscribed ran found
  have told := reachable_allTold (Machine.reachable_exec (reachable.step trivial subscribed) ran)
  refine ⟨delivered, fun ended => Nat.le_antisymm delivered.within ?_⟩
  exact (told subscription (List.mem_of_getElem? found) ended).2

/-- Three chunks and the end for a channel with room for two events: two chunks are lost and
announced. -/
theorem fast_losses_announced_overflow :
    ∃ (before after state : FastState) (subscription : FastSubscription),
      (fastMachine "stdout" smallConfig 2).Reachable before ∧
      (fastMachine "stdout" smallConfig 2).step before .subscribeReceiver = some after ∧
      state.subscriptions[before.subscriptions.length]? = some subscription ∧
      subscription.yielded = [.gap, .chunk ⟨[13], 12⟩, .eof] ∧
      Delivered state.sent before.sent.length before.closureState.terminalEvent subscription ∧
        (subscription.ended = true → subscription.receiver = state.sent.length) := by
  obtain ⟨before, after, state, reachable, subscribed, ran, found⟩ :=
    (fastMachine "stdout" smallConfig 2).exists_run (fun _ _ => True)
      [.read [1, 2, 3, 4], .reader, .reader, .subscribeLock] .subscribeReceiver
      [.subscribeFinish, .read [5, 6, 7, 8, 9, 10, 11, 12], .reader, .reader, .reader,
        .read [13], .reader, .reader, .readEof, .reader, .reader, .reader, .nextEvent 0, .nextEvent 0,
        .nextEvent 0, .dropStream, .nextEvent 0]
      (fun before state => (state.subscriptions[before.subscriptions.length]?).map
        (fun subscription => (subscription.yielded, subscription.ended)) =
          some ([.gap, .chunk ⟨[13], 12⟩, .eof], true))
      (by decide)
  obtain ⟨subscription, found, yielded⟩ := Option.map_eq_some_iff.mp found
  rw [Machine.execBy_true] at ran
  exact ⟨before, after, state, subscription, reachable, subscribed, found,
    congrArg Prod.fst yielded, fast_losses_announced reachable subscribed ran found⟩

end Runs

end TokioProcessTools.OutputStream.Backend.Broadcast.Fast
