import TokioProcessTools.Foundation.Settling
import TokioProcessTools.OutputStream.Backend.Broadcast.FastDelivery

/-!
# Delivery on the fast path comes to an end

The reader never waits for a subscription. It waits for the lock `closure_state`,
which it needs to store how the stream ended, and a call of `try_subscribe` holds
that lock over two steps of its own.

The parties do not block each other. Every run of their own steps is bounded. When
none of them can move, the lock is free, the reader is at its read or done, and every
subscription has yielded an account of all that was sent since its receiver was
created (`fast_settles`).
-/

set_option autoImplicit false

namespace TokioProcessTools.OutputStream.Backend.Broadcast.Fast

open Foundation

/-! ## Work -/

/-- What a subscription still has to yield of the events that were sent. -/
def FastSubscription.work (sent : Nat) (subscription : FastSubscription) : Nat :=
  (sent - subscription.receiver) + subscription.emitTerminalEvent.toList.length

/-- A call of `try_subscribe` that holds the lock. -/
def Lock.work (sent : Nat) : Lock → Nat
  | .free | .reader => 0
  | .subscriber none => 3
  | .subscriber (some receiver) => sent - receiver + 2

/-- Whether a subscription is about to be created. -/
def Lock.count : Lock → Nat
  | .free | .reader => 0
  | .subscriber _ => 1

/-- What the reader still has to do, with a number of subscriptions. Each byte of the buffer may be a
chunk of its own, and each event is one more for every subscription. -/
def Reader.work (count : Nat) : Reader → Nat
  | .reading | .finished | .aborted => 0
  | .sending buffer => buffer.length * (count + 2) + 1
  | .storeEof | .storeError _ => 3 * (count + 2)
  | .sendEof | .releaseError _ => 2 * (count + 2)
  | .releaseEof | .sendError _ => count + 2

/-- The subscriptions, and the one that is about to be created. -/
def FastState.count (state : FastState) : Nat := state.subscriptions.length + state.lock.count

/-- The work of all parties. -/
def FastState.work (state : FastState) : Nat :=
  state.reader.work state.count + state.lock.work state.sent.length +
    ReplayRetention.totalSize (FastSubscription.work state.sent.length) state.subscriptions

/-- The actions of the parties themselves: the reader's between two reads, the rest of a call of
`try_subscribe`, and a call of `recv` with an event for it. -/
def Own (state : FastState) : FastAction → Prop
  | .reader | .subscribeReceiver | .subscribeFinish => True
  | .nextEvent handle => ∃ subscription ∈ state.subscriptions[handle]?,
      subscription.emitTerminalEvent ≠ none ∨ subscription.receiver < state.sent.length
  | .read _ | .readEof | .readError _ | .subscribeLock | .dropStream | .abortReader => False

instance (state : FastState) : DecidablePred (Own state)
  | .reader | .subscribeReceiver | .subscribeFinish => .isTrue trivial
  | .nextEvent handle =>
      inferInstanceAs (Decidable (∃ subscription ∈ state.subscriptions[handle]?, _))
  | .read _ | .readEof | .readError _ | .subscribeLock | .dropStream | .abortReader => .isFalse id

section Work

variable {streamName : String} {chunkSize capacity : Nat} {state next : FastState}
  {action : FastAction}

/-- One more event is one more for every subscription. -/
theorem totalSize_send (sent : Nat) (subscriptions : List FastSubscription) :
    ReplayRetention.totalSize (FastSubscription.work (sent + 1)) subscriptions ≤
      ReplayRetention.totalSize (FastSubscription.work sent) subscriptions +
        subscriptions.length := by
  induction subscriptions with
  | nil => exact Nat.le_refl _
  | cons subscription rest ih =>
      have here : subscription.work (sent + 1) ≤ subscription.work sent + 1 := by
        unfold FastSubscription.work
        omega
      rw [ReplayRetention.totalSize_cons, ReplayRetention.totalSize_cons, List.length_cons]
      omega

theorem Lock.work_send (sent : Nat) (lock : Lock) : lock.work (sent + 1) ≤ lock.work sent + lock.count := by
  cases lock with
  | free | reader => exact Nat.le_refl _
  | subscriber receiver =>
      cases receiver with
      | none => exact Nat.le_succ _
      | some receiver =>
          simp only [Lock.work, Lock.count]
          omega

/-- The reader sends an event. -/
theorem work_send {event : StreamEvent} {reader : Reader}
    (less : reader.work state.count + state.count < state.reader.work state.count)
    (sends : next.sent = state.sent ++ [event]) (reads : next.reader = reader)
    (lock : next.lock = state.lock) (subscriptions : next.subscriptions = state.subscriptions) :
    next.work < state.work := by
  have own := Lock.work_send state.sent.length state.lock
  have others := totalSize_send state.sent.length state.subscriptions
  have same : next.count = state.count := by
    rw [FastState.count, lock, subscriptions]
    rfl
  rw [FastState.work, FastState.work, same, sends, reads, lock, subscriptions, List.length_append,
    List.length_singleton]
  rw [FastState.count] at less ⊢
  omega

/-- Only the reader goes on, and the lock is not a subscriber's. -/
theorem work_reader (less : next.reader.work state.count < state.reader.work state.count)
    (sent : next.sent = state.sent) (before : state.lock.count = 0) (after : next.lock.count = 0)
    (subscriptions : next.subscriptions = state.subscriptions) : next.work < state.work := by
  have idle : ∀ {lock : Lock}, lock.count = 0 → lock.work state.sent.length = 0 := by
    intro lock none
    cases lock with
    | free | reader => rfl
    | subscriber receiver => cases none
  have same : next.count = state.count := by
    rw [FastState.count, FastState.count, after, before, subscriptions]
  rw [FastState.work, FastState.work, same, sent, idle before, idle after, subscriptions]
  omega

theorem recv_work {subscription received : FastSubscription}
    (ahead : subscription.emitTerminalEvent ≠ none ∨ subscription.receiver < state.sent.length)
    (taken : recvStep capacity state subscription = some received) :
    received.work state.sent.length < subscription.work state.sent.length := by
  rcases recvStep_cases taken with ⟨event, emits, rfl⟩ | ⟨absent, answered⟩
  · simp [FastSubscription.work, emits]
  · have inside : subscription.receiver < state.sent.length :=
      ahead.resolve_left fun some => some absent
    rcases answered with ⟨event, receiver, answered, rfl⟩ | ⟨_, receiver, answered, rfl⟩ |
      ⟨waits, _, rfl⟩
    · obtain ⟨_, rfl⟩ := BroadcastRing.recv_message answered
      simp only [FastSubscription.work]
      omega
    · obtain ⟨further, remembered⟩ := BroadcastRing.recv_lagged answered
      simp only [FastSubscription.work]
      omega
    · obtain ⟨answer, next, answered⟩ := BroadcastRing.exists_recv capacity inside
      cases waits.symm.trans answered

/-- **Every step of the parties themselves uses up work.** -/
theorem work_lt (sized : 0 < chunkSize) (own : Own state action)
    (holds : state.reader.holdsLock = true → state.lock = .reader)
    (move : FastMove streamName chunkSize capacity state action next) : next.work < state.work := by
  cases move with
  | read _ | readEof _ | readError _ | subscribeLock _ _ | dropStream _ | abortReader _ _ =>
      exact own.elim
  | sentAll here =>
      simp only [FastState.work, FastState.count, here, Reader.work]
      omega
  | @sendChunk byte rest here =>
      have shorter : ((byte :: rest).drop chunkSize).length + 1 ≤ (byte :: rest).length := by
        rw [List.length_drop, List.length_cons]
        omega
      have less := Nat.mul_le_mul_right (state.count + 2) shorter
      rw [Nat.add_one_mul _ (state.count + 2)] at less
      refine work_send ?_ rfl rfl rfl rfl
      rw [here, Reader.work, Reader.work]
      omega
  | sendEof here =>
      refine work_send ?_ rfl rfl rfl rfl
      rw [here, Reader.work, Reader.work]
      omega
  | sendError here =>
      refine work_send ?_ rfl rfl rfl rfl
      rw [here, Reader.work, Reader.work]
      omega
  | storeEof here unlocked | storeError here unlocked =>
      refine work_reader ?_ rfl (by rw [unlocked]; rfl) rfl rfl
      rw [here, Reader.work, Reader.work]
      omega
  | releaseEof here | releaseError here =>
      have reader : state.lock = .reader := holds (by rw [here]; rfl)
      refine work_reader ?_ rfl (by rw [reader]; rfl) rfl rfl
      rw [here, Reader.work, Reader.work]
      omega
  | subscribeReceiver held =>
      simp only [FastState.work, FastState.count, held, Lock.work, Lock.count,
        BroadcastRing.subscribe, Nat.sub_self]
      omega
  | @subscribeFinish receiver held =>
      have one : state.closureState.terminalEvent.toList.length ≤ 1 := by
        cases state.closureState.terminalEvent <;> simp
      simp only [FastState.work, FastState.count, held, Lock.work, Lock.count,
        ReplayRetention.totalSize_append, ReplayRetention.totalSize_cons,
        ReplayRetention.totalSize_nil, List.length_append, List.length_singleton, Nat.add_zero,
        FastSubscription.work]
      omega
  | @nextEvent handle subscription received found taken =>
      obtain ⟨same, there, ahead⟩ := own
      cases found.symm.trans there
      have less := recv_work ahead taken
      have total := ReplayRetention.totalSize_set (FastSubscription.work state.sent.length) found
        received
      simp only [FastState.work, FastState.count, List.length_set]
      omega

end Work

/-! ## Where a subscription was created -/

/-- The call of `try_subscribe` that makes the subscription has created its receiver in the state
`before` of a run to the state. -/
structure CreatedAt (streamName : String) (options : ValidConfig) (capacity : Nat)
    (before after : FastState) (handle : Nat) (state : FastState) : Prop where
  passes : (fastMachine streamName options capacity).Passes (fun _ _ => True) before
    .subscribeReceiver after state
  last : before.subscriptions.length = handle

/-- Every subscription was created somewhere, and so was the receiver of the call that has the lock. -/
structure AllCreated (streamName : String) (options : ValidConfig) (capacity : Nat)
    (state : FastState) : Prop where
  subscriptions : ∀ handle < state.subscriptions.length, ∃ before after,
    CreatedAt streamName options capacity before after handle state
  creating : ∀ receiver, state.lock = .subscriber (some receiver) → ∃ before after,
    CreatedAt streamName options capacity before after state.subscriptions.length state

section Created

variable {streamName : String} {options : ValidConfig} {capacity chunkSize : Nat}
  {state next : FastState} {action : FastAction}

theorem CreatedAt.step {before after : FastState} {handle : Nat}
    (created : CreatedAt streamName options capacity before after handle state)
    (stepped : (fastMachine streamName options capacity).step state action = some next) :
    CreatedAt streamName options capacity before after handle next :=
  ⟨created.passes.step trivial stepped, created.last⟩

/-- A step that creates nothing. -/
theorem AllCreated.frame (all : AllCreated streamName options capacity state)
    (stepped : (fastMachine streamName options capacity).step state action = some next)
    (subscriptions : next.subscriptions.length = state.subscriptions.length)
    (lock : ∀ receiver, next.lock = .subscriber (some receiver) → next.lock = state.lock) :
    AllCreated streamName options capacity next := by
  refine ⟨?_, ?_⟩
  · intro handle inside
    obtain ⟨before, after, created⟩ := all.subscriptions handle (subscriptions ▸ inside)
    exact ⟨before, after, created.step stepped⟩
  · intro receiver held
    obtain ⟨before, after, created⟩ := all.creating receiver ((lock receiver held).symm.trans held)
    rw [subscriptions]
    exact ⟨before, after, created.step stepped⟩

theorem AllCreated.step (reachable : (fastMachine streamName options capacity).Reachable state)
    (all : AllCreated streamName options capacity state)
    (stepped : (fastMachine streamName options capacity).step state action = some next) :
    AllCreated streamName options capacity next := by
  cases fastStep_move stepped with
  | read _ | readEof _ | readError _ | sentAll _ | sendChunk _ | sendEof _ | sendError _
  | dropStream _ | abortReader _ _ => exact all.frame stepped rfl fun _ _ => rfl
  | storeEof _ _ | releaseEof _ | storeError _ _ | releaseError _ | subscribeLock _ _ =>
      exact all.frame stepped rfl fun _ held => by cases held
  | nextEvent _ _ => exact all.frame stepped List.length_set fun _ _ => rfl
  | subscribeReceiver held =>
      refine ⟨?_, fun _ _ => ⟨state, _, .start reachable trivial stepped, rfl⟩⟩
      intro handle inside
      obtain ⟨before, after, created⟩ := all.subscriptions handle inside
      exact ⟨before, after, created.step stepped⟩
  | @subscribeFinish receiver held =>
      refine ⟨?_, fun _ other => by cases other⟩
      intro handle inside
      rw [List.length_append, List.length_singleton] at inside
      rcases Nat.lt_succ_iff_lt_or_eq.mp inside with earlier | rfl
      · obtain ⟨before, after, created⟩ := all.subscriptions handle earlier
        exact ⟨before, after, created.step stepped⟩
      · obtain ⟨before, after, created⟩ := all.creating receiver held
        exact ⟨before, after, created.step stepped⟩

theorem reachable_created (reachable : (fastMachine streamName options capacity).Reachable state) :
    AllCreated streamName options capacity state := by
  refine reachable.invariant_using (fun reachable => reachable) ?_ ?_
  · exact ⟨(fun _ inside => by cases inside), fun _ held => by cases held⟩
  · exact fun reachable all _ stepped => all.step reachable stepped

/-- The lock is the reader's only while it is between taking and releasing it. -/
theorem lock_step (exact : state.reader.holdsLock = true ↔ state.lock = .reader)
    (move : FastMove streamName chunkSize capacity state action next) :
    next.reader.holdsLock = true ↔ next.lock = .reader := by
  refine ⟨holdsLock_step exact.mp move, ?_⟩
  cases move with
  | read here | readEof here | readError here | sentAll here | sendChunk here | sendError here
  | abortReader _ here =>
      intro held
      have inside := exact.mpr held
      rw [here] at inside
      cases inside
  | storeEof _ _ | storeError _ _ | sendEof _ => exact fun _ => rfl
  | releaseEof _ | releaseError _ | subscribeLock _ _ | subscribeReceiver _ | subscribeFinish _ =>
      intro held
      cases held
  | nextEvent _ _ | dropStream _ => exact exact.mpr

theorem reachable_lock (reachable : (fastMachine streamName options capacity).Reachable state) :
    state.reader.holdsLock = true ↔ state.lock = .reader := by
  apply reachable.invariant
  · exact ⟨(fun inside => by cases inside), fun held => by cases held⟩
  · exact fun exact _ stepped => lock_step exact (fastStep_move stepped)

end Created

/-! ## Runs -/

/-- What the parties arrive at on their own. A subscription, whose receiver was created somewhere, has
yielded the terminal event that was stored there, if there was one, and an account of all that was
sent since, wherever that was. -/
structure Idle (streamName : String) (options : ValidConfig) (capacity : Nat) (state : FastState) :
    Prop where
  lock : state.lock = .free
  reader : state.reader = .reading ∨ state.reader = .finished ∨ state.reader = .aborted
  told : ∀ (handle : Nat) subscription, state.subscriptions[handle]? = some subscription →
    (∃ before after, CreatedAt streamName options capacity before after handle state) ∧
      ∀ before after, CreatedAt streamName options capacity before after handle state →
        ∃ items, subscription.yielded = before.closureState.terminalEvent.toList ++ items ∧
          Tiles (Reports state.sent) before.sent.length items state.sent.length

section Runs

variable {streamName : String} {options : ValidConfig} {capacity : Nat}
  {state middle : FastState} {actions : List FastAction}

/-- In a settled state no call of `try_subscribe` holds the lock. -/
theorem Settled.lock (settled : (fastMachine streamName options capacity).Settled Own state)
    (exact : state.reader.holdsLock = true ↔ state.lock = .reader) : state.lock = .free := by
  cases held : state.lock with
  | free => rfl
  | subscriber receiver =>
      cases receiver with
      | none =>
          have stuck := settled .subscribeReceiver trivial
          simp [fastMachine, fastStep, held] at stuck
      | some receiver =>
          have stuck := settled .subscribeFinish trivial
          simp [fastMachine, fastStep, held] at stuck
  | reader =>
      have inside := exact.mpr held
      have stuck := settled .reader trivial
      cases here : state.reader with
      | sendEof | releaseEof | releaseError error =>
          simp [fastMachine, fastStep, readerStep, here] at stuck
      | reading | sending buffer | storeEof | storeError error | sendError error | finished
      | aborted =>
          rw [here] at inside
          cases inside

theorem Settled.reader (settled : (fastMachine streamName options capacity).Settled Own state)
    (unlocked : state.lock = .free) :
    state.reader = .reading ∨ state.reader = .finished ∨ state.reader = .aborted := by
  have stuck := settled .reader trivial
  cases here : state.reader with
  | reading => exact .inl rfl
  | finished => exact .inr (.inl rfl)
  | aborted => exact .inr (.inr rfl)
  | sending buffer =>
      cases buffer <;> simp [fastMachine, fastStep, readerStep, here] at stuck
  | storeEof | storeError error | sendEof | releaseEof | releaseError error | sendError error =>
      simp [fastMachine, fastStep, readerStep, here, unlocked] at stuck

/-- A subscription with an event for it can yield. -/
theorem exists_recvStep {limit : Nat} {subscription : FastSubscription}
    (ahead : subscription.emitTerminalEvent ≠ none ∨ subscription.receiver < state.sent.length) :
    ∃ received, recvStep limit state subscription = some received := by
  unfold recvStep
  cases emits : subscription.emitTerminalEvent with
  | some event => exact ⟨_, rfl⟩
  | none =>
      have inside := ahead.resolve_left fun some => some emits
      obtain ⟨answer, next, answered⟩ := BroadcastRing.exists_recv limit inside
      dsimp only
      rw [answered]
      cases answer with
      | message event | lagged skipped => exact ⟨_, rfl⟩

/-- In a settled state a subscription has nothing left to yield. -/
theorem Settled.nothing_left (settled : (fastMachine streamName options capacity).Settled Own state)
    {handle : Nat} {subscription : FastSubscription}
    (found : state.subscriptions[handle]? = some subscription) :
    subscription.emitTerminalEvent = none ∧ state.sent.length ≤ subscription.receiver := by
  have quiet : ¬ (subscription.emitTerminalEvent ≠ none ∨
      subscription.receiver < state.sent.length) := by
    intro ahead
    obtain ⟨received, taken⟩ :=
      @exists_recvStep state (max options.maxBufferedChunks capacity) _ ahead
    have stuck := settled (.nextEvent handle) ⟨subscription, found, ahead⟩
    simp only [fastMachine, fastStep, found, Option.bind_eq_bind, Option.bind_some, taken] at stuck
    cases stuck
  rw [not_or, not_not] at quiet
  exact ⟨quiet.1, Nat.not_lt.mp quiet.2⟩

theorem settled_idle (reachable : (fastMachine streamName options capacity).Reachable state)
    (settled : (fastMachine streamName options capacity).Settled Own state) :
    Idle streamName options capacity state := by
  have unlocked := Settled.lock settled (reachable_lock reachable)
  refine ⟨unlocked, Settled.reader settled unlocked, ?_⟩
  intro handle subscription found
  refine ⟨(reachable_created reachable).subscriptions handle
    (List.getElem?_eq_some_iff.mp found).1, ?_⟩
  rintro before after ⟨⟨earlier, _, subscribed, actions, ran⟩, rfl⟩
  rw [Machine.execBy_true] at ran
  have delivered := exec_delivered earlier subscribed ran found
  obtain ⟨emitted, behind⟩ := Settled.nothing_left settled found
  obtain ⟨items, account, _, tiles⟩ := delivered.account
  rw [emitted, Option.toList_none, List.append_nil] at account
  have all : subscription.receiver = state.sent.length := Nat.le_antisymm delivered.within behind
  exact ⟨items, account, all ▸ tiles⟩

theorem reachable_work_lt {next : FastState} {action : FastAction}
    (reachable : (fastMachine streamName options capacity).Reachable state)
    (own : Own state action)
    (stepped : (fastMachine streamName options capacity).step state action = some next) :
    next.work < state.work :=
  work_lt options.readChunkSize_pos own (reachable_lock reachable).mp
    (fastStep_move stepped)

/-- **The parties of the fast path come to rest, and everyone was told.** In any reachable state they
go on by themselves, in any order: the reader between two reads, the calls of `try_subscribe` that
hold the lock, and the subscriptions with what is there for them. Such a run is never longer than the
work there was at its start. A run that cannot go on is not stuck: the lock is free, the reader is at
its read or done, and every subscription has yielded an account of all that was sent since its receiver
was created. Whatever was done so far, the run can be continued to this point. -/
theorem fast_settles (reachable : (fastMachine streamName options capacity).Reachable state)
    (ran : (fastMachine streamName options capacity).execBy Own state actions = some middle) :
    actions.length + middle.work ≤ state.work ∧
      ((fastMachine streamName options capacity).Settled Own middle →
        Idle streamName options capacity middle) ∧
      ∃ more final, (fastMachine streamName options capacity).execBy Own middle more = some final ∧
        Idle streamName options capacity final := by
  have kept : ∀ {state next : FastState} {action : FastAction},
      (fastMachine streamName options capacity).Reachable state → Own state action →
        (fastMachine streamName options capacity).step state action = some next →
          (fastMachine streamName options capacity).Reachable next :=
    fun reachable _ stepped => reachable.step trivial stepped
  have later : (fastMachine streamName options capacity).Reachable middle :=
    Machine.execBy_preserves kept reachable ran
  refine ⟨Machine.length_add_work_le kept reachable_work_lt reachable ran, settled_idle later, ?_⟩
  obtain ⟨more, final, executed, known, settled⟩ :=
    Machine.exists_settled kept reachable_work_lt later
  exact ⟨more, final, executed, settled_idle known settled⟩

/-- The reader waits for the lock that a call of `try_subscribe` holds. -/
theorem fast_settles_locked :
    ∃ state middle, (fastMachine "stdout" smallConfig 2).Reachable state ∧
      (fastMachine "stdout" smallConfig 2).step state .reader = none ∧
      (fastMachine "stdout" smallConfig 2).execBy Own state
        [.subscribeReceiver, .subscribeFinish, .reader] = some middle ∧
      3 + middle.work ≤ state.work ∧
      ∃ more final, (fastMachine "stdout" smallConfig 2).execBy Own middle more = some final ∧
        Idle "stdout" smallConfig 2 final := by
  obtain ⟨state, reachable, waits, goesOn⟩ :=
    (fastMachine "stdout" smallConfig 2).exists_reachableBy (fun _ _ => True)
      [.read [7], .reader, .reader, .subscribeLock, .readEof]
      (fun state => (fastMachine "stdout" smallConfig 2).step state .reader = none ∧
        ((fastMachine "stdout" smallConfig 2).execBy Own state
          [.subscribeReceiver, .subscribeFinish, .reader]).isSome = true)
      (by decide +kernel)
  obtain ⟨middle, ran⟩ := Option.isSome_iff_exists.mp goesOn
  obtain ⟨bounded, _, continued⟩ := fast_settles reachable ran
  exact ⟨state, middle, reachable, waits, ran, bounded, continued⟩

end Runs

end TokioProcessTools.OutputStream.Backend.Broadcast.Fast
