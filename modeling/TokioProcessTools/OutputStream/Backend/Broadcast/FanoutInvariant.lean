import TokioProcessTools.Foundation.Indexed
import TokioProcessTools.OutputStream.Backend.Broadcast.FanoutMoves

/-!
# The invariant of the fanout path

Both delivery guarantees share one argument. It follows the log of all appended
events. What was appended since a subscription was created has been delivered to
its receiver, except possibly the last event, whose send is still pending. How
the delivered events relate to what the receiver holds and what was taken from it
differs between the guarantees; here it is a parameter, a `LiveModel`.

`Coherent` describes the shared state and the reader, `Subscribed` one
subscription. `reachable_fanoutInvariant` proves both in every run that keeps
the stream.
-/

set_option autoImplicit false

namespace TokioProcessTools.OutputStream.Backend.Broadcast

open Foundation

/-! ## The parameter -/

/-- What is known of a live receiver: a relation between the number of its first live event, the
events delivered to it, the events taken from it, and its content. -/
structure LiveModel (options : StreamConfig) where
  Holds : (start : Nat) → (delivered taken : List IndexedEvent) → LiveReceiver → Prop
  fresh : ∀ start, Holds start [] [] (.new options)
  /-- A delivered event comes next. -/
  deliver : ∀ {start delivered taken receiver next} {event : IndexedEvent},
    Holds start delivered taken receiver → event.seq = start + delivered.length →
    (∀ earlier ∈ delivered, earlier.event.isChunk = true) →
    (event.event.isChunk = true ∨ event.event.isTerminal = true) →
    receiver.deliver options.deliveryGuarantee event = .delivered next →
      Holds start (delivered ++ [event]) taken next
  /-- Before the terminal event a receiver in use does not look stale. -/
  accepts : ∀ {start delivered taken receiver} (event : IndexedEvent),
    Holds start delivered taken receiver →
    (∀ earlier ∈ delivered, earlier.event.isChunk = true) →
      receiver.deliver options.deliveryGuarantee event ≠ .stale
  /-- A taken event is a live one, and a terminal one was delivered. -/
  take : ∀ {start delivered taken receiver next} {event : IndexedEvent},
    Holds start delivered taken receiver → receiver.take = some (event, next) →
      start ≤ event.seq ∧ (event.event.isTerminal = true → event ∈ delivered) ∧
        Holds start delivered (taken ++ [event]) next

/-! ## The invariant -/

namespace FanoutState

/-- The handles of the registered subscribers. -/
def registered (state : FanoutState) : List Handle := state.shared.subscribers.map Prod.snd

/-- The event that is still to be sent to a subscription. -/
def pendingFor (state : FanoutState) (handle : Handle) : List IndexedEvent :=
  match state.reader with
  | .sending event targets _ _ => if handle ∈ targets.map Prod.snd then [event] else []
  | .reading | .appending _ _ | .pruning _ _ | .finished | .aborted => []

/-- The ids the reader is about to remove. -/
def staleIds (state : FanoutState) : List SubscriberId :=
  match state.reader with
  | .sending _ _ stale _ | .pruning stale _ => stale
  | .reading | .appending _ _ | .finished | .aborted => []

end FanoutState

/-- Entries of the registry: before the stream ends, ids are given out in the order of the
handles, and no handle occurs twice. -/
structure Entries (entries : List (SubscriberId × Handle)) (count : Nat) : Prop where
  same : ∀ entry ∈ entries, entry.1 = entry.2
  inside : ∀ entry ∈ entries, entry.2 < count
  nodup : (entries.map Prod.snd).Nodup

/-- What holds at each place of the reader. -/
def ReaderCoherent (terminal : Option IndexedEvent) (log : List IndexedEvent) (count : Nat) :
    Reader → Prop
  | .reading => terminal = none
  | .pruning stale _ => terminal = none ∧ ∀ id ∈ stale, id < count
  | .appending event _ => terminal = none ∧ (event.isChunk = true ∨ event.isTerminal = true)
  | .sending event targets stale _ =>
      (∃ front, log = front ++ [event] ∧ ∀ earlier ∈ front, earlier.event.isChunk = true) ∧
        Entries targets count ∧ (∀ id ∈ stale, id < count) ∧
        (event.event.isChunk = true ∨ event.event.isTerminal = true) ∧
        event.event.isTerminal = terminal.isSome
  | .finished => terminal.isSome = true
  | .aborted => False

/-- The shared state and the reader fit the log. -/
structure Coherent (options : StreamConfig) (state : FanoutState) : Prop where
  counted : state.shared.Counted
  unretained : options.replayRetention = none ∨ state.shared.replaySealed = true →
    state.shared.replay = []
  kept : state.shared.closed = false ∧ state.streamDropped = false
  nextSeq : state.shared.nextSeq = state.log.length
  seqs : ∀ position (event : IndexedEvent), state.log[position]? = some event →
    event.seq = position
  suffix : state.shared.replay ++ state.shared.terminal.toList <:+ state.log
  running : state.shared.terminal = none → ∀ event ∈ state.log, event.event.isChunk = true
  terminal : ∀ terminal, state.shared.terminal = some terminal →
    terminal.event.isTerminal = true ∧ state.shared.subscribers = [] ∧
      ∃ front, state.log = front ++ [terminal] ∧ ∀ event ∈ front, event.event.isChunk = true
  ids : state.shared.terminal = none →
    state.shared.nextSubscriberId = state.subscriptions.length
  registry : Entries state.shared.subscribers state.subscriptions.length
  reader : ReaderCoherent state.shared.terminal state.log state.subscriptions.length state.reader

section Subscriptions

variable {options : StreamConfig} (model : LiveModel options)

/-- A subscription attached to the live events: what was appended since is delivered or pending. -/
structure Attached (state : FanoutState) (handle : Handle) (subscription : SharedSubscription)
    (taken : List IndexedEvent) : Prop where
  delivered : ∃ delivered, delivered ++ state.pendingFor handle =
      state.log.drop subscription.liveStartSeq ∧
    model.Holds subscription.liveStartSeq delivered taken subscription.liveReceiver
  registered : state.shared.terminal = none → handle ∈ state.registered
  early : ∀ event ∈ state.log.take subscription.liveStartSeq, event.event.isChunk = true

/-- A subscription created behind the terminal event has no live events. -/
structure Late (state : FanoutState) (handle : Handle) (subscription : SharedSubscription)
    (taken : List IndexedEvent) : Prop where
  receiver : subscription.liveReceiver = .closed
  taken : taken = []
  terminal : state.shared.terminal.isSome = true
  start : subscription.liveStartSeq = state.log.length
  pending : state.pendingFor handle = []

/-- What a subscription in use has yielded: the snapshot, then the events taken from the live
receiver. -/
structure Yielding (state : FanoutState) (handle : Handle) (subscription : SharedSubscription)
    (taken : List IndexedEvent) : Prop where
  order : subscription.replay ≠ [] → taken = []
  split : subscription.yielded ++ subscription.replay = subscription.snapshot ++ taken
  live : Attached model state handle subscription taken ∨ Late state handle subscription taken

/-- The invariant of one subscription. -/
structure Subscribed (state : FanoutState) (handle : Handle) (subscription : SharedSubscription) :
    Prop where
  id : subscription.id = none ∨ subscription.id = some handle
  start : subscription.liveStartSeq ≤ state.log.length
  snapshot : ∃ first ≤ subscription.liveStartSeq,
    subscription.snapshot = (state.log.take subscription.liveStartSeq).drop first
  kept : subscription.status = .inUse → handle ∉ state.staleIds
  inUse : subscription.status = .inUse → ∃ taken, Yielding model state handle subscription taken

/-- The invariant of the runs that keep the stream. -/
structure FanoutInvariant (state : FanoutState) : Prop where
  coherent : Coherent options state
  subscriptions : EachAt state.subscriptions (Subscribed model state)

end Subscriptions

/-! ## Frames -/

section Frames

variable {options : StreamConfig} {model : LiveModel options} {state next : FanoutState}

/-- A step that changes the reader only, up to the content of the subscriptions. -/
theorem Coherent.frame (coherent : Coherent options state) (shared : next.shared = state.shared)
    (log : next.log = state.log) (dropped : next.streamDropped = state.streamDropped)
    (count : next.subscriptions.length = state.subscriptions.length)
    (reader : ReaderCoherent state.shared.terminal state.log state.subscriptions.length
      next.reader) : Coherent options next where
  counted := shared ▸ coherent.counted
  unretained := by
    rw [shared]
    exact coherent.unretained
  kept := by
    rw [shared, dropped]
    exact coherent.kept
  nextSeq := by
    rw [shared, log]
    exact coherent.nextSeq
  seqs := log ▸ coherent.seqs
  suffix := by
    rw [shared, log]
    exact coherent.suffix
  running := by
    rw [shared, log]
    exact coherent.running
  terminal := by
    rw [shared, log]
    exact coherent.terminal
  ids := by
    rw [shared, count]
    exact coherent.ids
  registry := by
    rw [shared, count]
    exact coherent.registry
  reader := by
    rw [shared, log, count]
    exact reader

/-- A subscription does not see a step that keeps the log, the terminal event, its registration
and what is pending for it. -/
theorem Subscribed.frame {handle : Handle} {subscription : SharedSubscription}
    (subscribed : Subscribed model state handle subscription) (log : next.log = state.log)
    (terminal : next.shared.terminal = state.shared.terminal)
    (registered : subscription.status = .inUse → handle ∈ state.registered →
      handle ∈ next.registered)
    (pending : next.pendingFor handle = state.pendingFor handle)
    (stale : handle ∈ next.staleIds → handle ∈ state.staleIds) :
    Subscribed model next handle subscription where
  id := subscribed.id
  start := log ▸ subscribed.start
  snapshot := log ▸ subscribed.snapshot
  kept := fun inUse member => subscribed.kept inUse (stale member)
  inUse := by
    intro inUse
    obtain ⟨taken, order, split, attached | late⟩ := subscribed.inUse inUse
    · refine ⟨taken, order, split, .inl ⟨?_, ?_, log ▸ attached.early⟩⟩
      · rw [log, pending]
        exact attached.delivered
      · intro absent
        exact registered inUse (attached.registered (terminal ▸ absent))
    · refine ⟨taken, order, split, .inr ⟨late.receiver, late.taken, ?_, ?_, ?_⟩⟩
      · rw [terminal]
        exact late.terminal
      · rw [log]
        exact late.start
      · rw [pending]
        exact late.pending

/-- The reader is between two appends: no send is pending and nothing is stale. -/
def Reader.Quiet : Reader → Prop
  | .reading | .appending _ _ | .finished | .aborted => True
  | .sending _ _ _ _ | .pruning _ _ => False

theorem Reader.Quiet.pendingFor (quiet : state.reader.Quiet) (handle : Handle) :
    state.pendingFor handle = [] := by
  unfold FanoutState.pendingFor
  cases here : state.reader with
  | sending event targets stale buffer =>
      rw [here] at quiet
      cases quiet
  | _ => rfl

theorem Reader.Quiet.staleIds (quiet : state.reader.Quiet) : state.staleIds = [] := by
  unfold FanoutState.staleIds
  cases here : state.reader with
  | sending event targets stale buffer =>
      rw [here] at quiet
      cases quiet
  | pruning stale buffer =>
      rw [here] at quiet
      cases quiet
  | _ => rfl

/-- The reader moves on while nothing is pending. -/
theorem FanoutInvariant.move (invariant : FanoutInvariant model state)
    (shared : next.shared = state.shared) (log : next.log = state.log)
    (dropped : next.streamDropped = state.streamDropped)
    (subscriptions : next.subscriptions = state.subscriptions)
    (idle : ∀ handle, state.pendingFor handle = []) (quiet : next.reader.Quiet)
    (reader : ReaderCoherent state.shared.terminal state.log state.subscriptions.length
      next.reader) : FanoutInvariant model next where
  coherent := invariant.coherent.frame shared log dropped (by rw [subscriptions]) reader
  subscriptions := by
    rw [subscriptions]
    intro handle subscription found
    refine (invariant.subscriptions handle subscription found).frame log (by rw [shared]) ?_ ?_ ?_
    · intro _ member
      rw [FanoutState.registered, shared]
      exact member
    · rw [quiet.pendingFor, idle]
    · rw [quiet.staleIds]
      exact nofun

/-- The loop over the buffer touches the reader and the offset only. -/
theorem continueWith_eq (state : FanoutState) (chunkSize : Nat) (buffer : List UInt8) :
    ∃ offset reader, state.continueWith chunkSize buffer = { state with offset, reader } ∧
      (reader = .reading ∨ ∃ chunk rest, reader = .appending (.chunk chunk) rest) := by
  cases buffer with
  | nil => exact ⟨state.offset, .reading, rfl, .inl rfl⟩
  | cons byte rest => exact ⟨_, _, rfl, .inr ⟨_, _, rfl⟩⟩

/-- The reader goes on with its buffer. -/
theorem FanoutInvariant.continueWith (invariant : FanoutInvariant model state)
    (idle : ∀ handle, state.pendingFor handle = []) (absent : state.shared.terminal = none)
    (chunkSize : Nat) (buffer : List UInt8) :
    FanoutInvariant model (state.continueWith chunkSize buffer) := by
  obtain ⟨offset, reader, moved, rfl | ⟨chunk, rest, rfl⟩⟩ :=
    continueWith_eq state chunkSize buffer
  · rw [moved]
    exact invariant.move rfl rfl rfl rfl idle trivial absent
  · rw [moved]
    exact invariant.move rfl rfl rfl rfl idle trivial ⟨absent, .inl rfl⟩

end Frames

/-! ## Appending -/

section Appending

variable {options : StreamConfig} {model : LiveModel options} {state next : FanoutState}

theorem Entries.nil (count : Nat) : Entries [] count :=
  ⟨fun _ member => absurd member List.not_mem_nil, fun _ member => absurd member List.not_mem_nil,
    List.nodup_nil⟩

theorem Entries.perm {entries order : List (SubscriberId × Handle)} {count : Nat}
    (valid : Entries entries count) (perm : order.Perm entries) : Entries order count where
  same := fun entry member => valid.same entry (perm.mem_iff.mp member)
  inside := fun entry member => valid.inside entry (perm.mem_iff.mp member)
  nodup := (perm.map Prod.snd).nodup_iff.mpr valid.nodup

/-- What an append does. -/
structure Appended (options : StreamConfig) (state : FanoutState) (event : StreamEvent)
    (buffer : List UInt8) (order : List (SubscriberId × Handle)) (next : FanoutState) : Prop where
  perm : order.Perm state.shared.subscribers
  counted : next.shared.Counted
  replay : next.shared.replay = state.shared.replayAfter options event
  nextSeq : next.shared.nextSeq = state.shared.nextSeq + 1
  terminal : next.shared.terminal =
    if event.isTerminal then some ⟨state.shared.nextSeq, event⟩ else state.shared.terminal
  subscribers : next.shared.subscribers =
    if event.isTerminal then [] else state.shared.subscribers
  nextSubscriberId : next.shared.nextSubscriberId = state.shared.nextSubscriberId
  replaySealed : next.shared.replaySealed = state.shared.replaySealed
  closed : next.shared.closed = state.shared.closed
  log : next.log = state.log ++ [⟨state.shared.nextSeq, event⟩]
  reader : next.reader = .sending ⟨state.shared.nextSeq, event⟩ order [] buffer
  subscriptions : next.subscriptions = state.subscriptions
  streamDropped : next.streamDropped = state.streamDropped

theorem appendStep_appended (coherent : Coherent options state)
    (nonZero : ∀ retention ∈ options.replayRetention, retention.NonZero) {event : StreamEvent}
    {buffer : List UInt8} {order : List (SubscriberId × Handle)}
    (stepped : state.appendStep options event buffer order = some next) :
    Appended options state event buffer order next := by
  obtain ⟨shared, pushed, effect⟩ :=
    BroadcastState.pushEvent_pushed coherent.counted nonZero event
  unfold FanoutState.appendStep at stepped
  rw [if_neg (by simp [coherent.kept.1]), Option.ite_none_right_eq_some] at stepped
  obtain ⟨perm, stepped⟩ := stepped
  simp only [pushed, Option.some.injEq] at stepped
  subst stepped
  obtain ⟨chunks, chunkCount, byteCount⟩ := effect.counted
  by_cases terminal : event.isTerminal = true
  · simp only [terminal, if_true]
    exact ⟨perm, ⟨chunks, chunkCount, byteCount⟩, effect.replay, effect.nextSeq, effect.terminal,
      by rw [if_pos terminal], effect.nextSubscriberId, effect.replaySealed, effect.closed, rfl, rfl,
      rfl, rfl⟩
  · simp only [terminal, Bool.false_eq_true, if_false]
    exact ⟨perm, ⟨chunks, chunkCount, byteCount⟩, effect.replay, effect.nextSeq, effect.terminal,
      by rw [if_neg terminal, effect.subscribers], effect.nextSubscriberId, effect.replaySealed,
      effect.closed, rfl, rfl, rfl, rfl⟩

/-- The window behind an append is a suffix of the log behind it. -/
theorem Appended.suffix (coherent : Coherent options state) (absent : state.shared.terminal = none)
    {event : StreamEvent} (kind : event.isChunk = true ∨ event.isTerminal = true)
    {buffer : List UInt8} {order : List (SubscriberId × Handle)}
    (appended : Appended options state event buffer order next) :
    next.shared.replay ++ next.shared.terminal.toList <:+ next.log := by
  have before := coherent.suffix
  rw [absent, Option.toList_none, List.append_nil] at before
  rw [appended.replay, appended.terminal, appended.log]
  rcases kind with isChunk | terminal
  · obtain ⟨chunk, rfl⟩ := StreamEvent.exists_chunk isChunk
    rw [if_neg (by simp), absent, Option.toList_none, List.append_nil]
    cases kept : options.replayRetention with
    | none =>
        have empty := coherent.unretained (.inl kept)
        simp only [BroadcastState.replayAfter, kept, empty]
        exact List.nil_suffix
    | some retention =>
        by_cases isSealed : state.shared.replaySealed = true
        · rw [BroadcastState.replayAfter_of_sealed options _ isSealed,
            coherent.unretained (.inr isSealed)]
          exact List.nil_suffix
        · rw [BroadcastState.replayAfter_chunk kept (by simpa using isSealed)]
          exact (ReplayRetention.window_suffix _ _ _).trans (List.suffix_append_self_iff.mpr before)
  · have notChunk : event.isChunk = false := by
      cases event <;> first | rfl | cases terminal
    rw [BroadcastState.replayAfter_of_not_chunk _ _ notChunk, if_pos terminal]
    exact List.suffix_append_self_iff.mpr before

theorem Appended.coherent (coherent : Coherent options state)
    (absent : state.shared.terminal = none) {event : StreamEvent}
    (kind : event.isChunk = true ∨ event.isTerminal = true) {buffer : List UInt8}
    {order : List (SubscriberId × Handle)}
    (appended : Appended options state event buffer order next) : Coherent options next := by
  have chunks := coherent.running absent
  refine ⟨appended.counted, ?_, ?_, ?_, ?_, appended.suffix coherent absent kind, ?_, ?_, ?_, ?_, ?_⟩
  · intro unretained
    rw [appended.replaySealed] at unretained
    have empty := coherent.unretained unretained
    rw [appended.replay]
    rcases unretained with none | isSealed
    · simp only [BroadcastState.replayAfter, none, empty]
    · rw [BroadcastState.replayAfter_of_sealed _ _ isSealed, empty]
  · rw [appended.closed, appended.streamDropped]
    exact coherent.kept
  · rw [appended.nextSeq, appended.log, coherent.nextSeq, List.length_append, List.length_singleton]
  · rw [appended.log]
    exact EachAt.concat coherent.nextSeq coherent.seqs
  · intro still
    rw [appended.terminal] at still
    rw [appended.log]
    intro other member
    rcases List.mem_append.mp member with old | new
    · exact chunks other old
    · rw [List.mem_singleton.mp new]
      rcases kind with isChunk | terminal
      · exact isChunk
      · rw [if_pos terminal] at still
        cases still
  · intro terminal present
    rw [appended.terminal] at present
    split at present
    · rename_i ends
      obtain rfl := Option.some.inj present
      refine ⟨ends, ?_, state.log, appended.log, chunks⟩
      rw [appended.subscribers, if_pos ends]
    · rw [absent] at present
      cases present
  · intro _
    rw [appended.nextSubscriberId, appended.subscriptions]
    exact coherent.ids absent
  · rw [appended.subscribers, appended.subscriptions]
    split
    · exact Entries.nil _
    · exact coherent.registry
  · rw [appended.reader, appended.log, appended.subscriptions, appended.terminal]
    refine ⟨⟨state.log, rfl, chunks⟩, coherent.registry.perm appended.perm, ?_, kind, ?_⟩
    · intro id stale
      cases stale
    · by_cases terminal : event.isTerminal = true
      · rw [if_pos terminal]
        exact terminal
      · rw [if_neg terminal, absent]
        simpa using terminal

/-- After an append the event is pending for every subscription in use. -/
theorem Appended.subscribed (absent : state.shared.terminal = none)
    (idle : ∀ handle, state.pendingFor handle = []) {event : StreamEvent} {buffer : List UInt8}
    {order : List (SubscriberId × Handle)}
    (appended : Appended options state event buffer order next) {handle : Handle}
    {subscription : SharedSubscription} (subscribed : Subscribed model state handle subscription) :
    Subscribed model next handle subscription where
  id := subscribed.id
  start := by
    rw [appended.log, List.length_append]
    exact Nat.le_add_right_of_le subscribed.start
  snapshot := by
    rw [appended.log, List.take_append_of_le_length subscribed.start]
    exact subscribed.snapshot
  kept := by
    rw [FanoutState.staleIds, appended.reader]
    exact fun _ => List.not_mem_nil
  inUse := by
    intro inUse
    obtain ⟨taken, order', split, attached | late⟩ := subscribed.inUse inUse
    · refine ⟨taken, order', split, .inl ⟨?_, ?_, ?_⟩⟩
      · have member : handle ∈ order.map Prod.snd :=
          (appended.perm.map Prod.snd).mem_iff.mpr (attached.registered absent)
        obtain ⟨delivered, whole, holds⟩ := attached.delivered
        refine ⟨delivered, ?_, holds⟩
        rw [idle, List.append_nil] at whole
        rw [FanoutState.pendingFor, appended.reader, appended.log,
          List.drop_append_of_le_length subscribed.start, ← whole]
        simp only [member, if_true]
      · intro still
        have registered := attached.registered absent
        rw [appended.terminal] at still
        split at still
        · cases still
        · rename_i running
          rw [FanoutState.registered, appended.subscribers, if_neg running]
          exact registered
      · rw [appended.log, List.take_append_of_le_length subscribed.start]
        exact attached.early
    · have present := late.terminal
      rw [absent] at present
      cases present

theorem FanoutInvariant.append (invariant : FanoutInvariant model state)
    (nonZero : ∀ retention ∈ options.replayRetention, retention.NonZero) {event : StreamEvent}
    {buffer : List UInt8} (here : state.reader = .appending event buffer)
    {order : List (SubscriberId × Handle)}
    (stepped : state.appendStep options event buffer order = some next) :
    FanoutInvariant model next := by
  have reader := invariant.coherent.reader
  rw [here] at reader
  obtain ⟨absent, kind⟩ := reader
  have quiet : state.reader.Quiet := here ▸ trivial
  have appended := appendStep_appended invariant.coherent nonZero stepped
  refine ⟨appended.coherent invariant.coherent absent kind, ?_⟩
  rw [appended.subscriptions]
  intro handle subscription found
  exact appended.subscribed absent quiet.pendingFor
    (invariant.subscriptions handle subscription found)

/-- An append never gets stuck: it visits the registry in some order and does not panic. -/
theorem exists_appendStep (coherent : Coherent options state)
    (nonZero : ∀ retention ∈ options.replayRetention, retention.NonZero) (event : StreamEvent)
    (buffer : List UInt8) :
    ∃ next, state.appendStep options event buffer state.shared.subscribers = some next := by
  obtain ⟨shared, pushed, _⟩ := BroadcastState.pushEvent_pushed coherent.counted nonZero event
  unfold FanoutState.appendStep
  rw [if_neg (by simp [coherent.kept.1]), if_pos (List.Perm.refl _)]
  simp only [pushed]
  exact ⟨_, rfl⟩

end Appending

/-! ## Sending and pruning -/

section Sending

variable {options : StreamConfig} {model : LiveModel options} {state next : FanoutState}
  {event : IndexedEvent} {id : SubscriberId} {handle : Handle}
  {targets : List (SubscriberId × Handle)} {stale : List SubscriberId} {buffer : List UInt8}

theorem Entries.tail {entry : SubscriberId × Handle} {entries : List (SubscriberId × Handle)}
    {count : Nat} (valid : Entries (entry :: entries) count) : Entries entries count where
  same := fun other member => valid.same other (List.mem_cons_of_mem _ member)
  inside := fun other member => valid.inside other (List.mem_cons_of_mem _ member)
  nodup := (List.nodup_cons.mp valid.nodup).2

/-- The event being sent, for a subscription whose live events end with it. -/
theorem Coherent.sending (coherent : Coherent options state)
    (here : state.reader = .sending event targets stale buffer) {start : Nat}
    {delivered : List IndexedEvent} (whole : delivered ++ [event] = state.log.drop start) :
    event.seq = start + delivered.length ∧
      ∀ earlier ∈ delivered, earlier.event.isChunk = true := by
  have reader := coherent.reader
  rw [here] at reader
  obtain ⟨⟨front, log, chunks⟩, _⟩ := reader
  refine ⟨?_, ?_⟩
  · apply coherent.seqs
    rw [← List.getElem?_drop, ← whole, List.getElem?_concat_length]
  · have sizes := congrArg List.length whole
    rw [List.length_append, List.length_drop, log, List.length_append, List.length_singleton]
      at sizes
    rw [log, List.drop_append_of_le_length (by omega)] at whole
    intro earlier member
    rw [(List.append_inj_left' whole rfl)] at member
    exact chunks earlier (List.mem_of_mem_drop member)

/-- The subscription a send goes to. -/
theorem Subscribed.delivered {subscription : SharedSubscription} {receiver : LiveReceiver}
    (coherent : Coherent options state)
    (here : state.reader = .sending event ((id, handle) :: targets) stale buffer)
    (subscribed : Subscribed model state handle subscription)
    (sent : subscription.liveReceiver.deliver options.deliveryGuarantee event = .delivered receiver)
    (log : next.log = state.log) (shared : next.shared = state.shared)
    (reader : next.reader = .sending event targets stale buffer) :
    Subscribed model next handle { subscription with liveReceiver := receiver } where
  id := subscribed.id
  start := log ▸ subscribed.start
  snapshot := log ▸ subscribed.snapshot
  kept := by
    have kept := subscribed.kept
    rw [FanoutState.staleIds, here] at kept
    rw [FanoutState.staleIds, reader]
    exact kept
  inUse := by
    intro inUse
    have kinds := coherent.reader
    rw [here] at kinds
    obtain ⟨_, valid, _, kind, _⟩ := kinds
    obtain ⟨taken, order, split, attached | late⟩ := subscribed.inUse inUse
    · obtain ⟨delivered, whole, holds⟩ := attached.delivered
      have pending : state.pendingFor handle = [event] := by
        simp [FanoutState.pendingFor, here]
      have done : next.pendingFor handle = [] := by
        have fresh := (List.nodup_cons.mp valid.nodup).1
        simp only [FanoutState.pendingFor, reader]
        exact if_neg fresh
      rw [pending] at whole
      obtain ⟨seq, chunks⟩ := coherent.sending here whole
      refine ⟨taken, order, split, .inl ⟨⟨delivered ++ [event], ?_, ?_⟩, ?_, ?_⟩⟩
      · rw [done, log, List.append_nil]
        exact whole
      · exact model.deliver holds seq chunks kind sent
      · rw [FanoutState.registered, shared]
        exact attached.registered
      · rw [log]
        exact attached.early
    · have pending := late.pending
      simp [FanoutState.pendingFor, here] at pending

/-- What is pending for the other subscriptions. -/
theorem pendingFor_of_ne (here : state.reader = .sending event ((id, handle) :: targets) stale buffer)
    {stale' : List SubscriberId} (reader : next.reader = .sending event targets stale' buffer)
    {other : Handle} (different : other ≠ handle) :
    next.pendingFor other = state.pendingFor other := by
  simp only [FanoutState.pendingFor, here, reader, List.map_cons, List.mem_cons, different,
    false_or]

theorem FanoutInvariant.send (invariant : FanoutInvariant model state)
    {subscription : SharedSubscription} {receiver : LiveReceiver}
    (here : state.reader = .sending event ((id, handle) :: targets) stale buffer)
    (found : state.subscriptions[handle]? = some subscription)
    (sent : subscription.liveReceiver.deliver options.deliveryGuarantee event =
      .delivered receiver) :
    FanoutInvariant model { state with
      subscriptions := state.subscriptions.set handle { subscription with liveReceiver := receiver }
      reader := .sending event targets stale buffer } := by
  have reader := invariant.coherent.reader
  rw [here] at reader
  obtain ⟨last, valid, old, kind, isSome⟩ := reader
  refine ⟨invariant.coherent.frame rfl rfl rfl List.length_set
    ⟨last, valid.tail, old, kind, isSome⟩, ?_⟩
  apply EachAt.set
  · exact (invariant.subscriptions handle subscription found).delivered invariant.coherent here
      sent rfl rfl rfl
  · intro other subscription found different
    refine (invariant.subscriptions other subscription found).frame rfl rfl (fun _ member => member)
      (pendingFor_of_ne here rfl different) ?_
    simp only [FanoutState.staleIds, here]
    exact fun member => member

/-- A send that fails was to a subscription no longer in use. -/
theorem FanoutInvariant.sendStale (invariant : FanoutInvariant model state)
    {subscription : SharedSubscription}
    (here : state.reader = .sending event ((id, handle) :: targets) stale buffer)
    (found : state.subscriptions[handle]? = some subscription)
    (failed : subscription.liveReceiver.deliver options.deliveryGuarantee event = .stale) :
    FanoutInvariant model { state with
      reader := .sending event targets (stale ++ [id]) buffer } := by
  have reader := invariant.coherent.reader
  rw [here] at reader
  obtain ⟨last, valid, old, kind, isSome⟩ := reader
  have same : id = handle := valid.same (id, handle) (by simp)
  have inside : handle < state.subscriptions.length := valid.inside (id, handle) (by simp)
  have gone : subscription.status ≠ .inUse := by
    intro inUse
    obtain ⟨taken, order, split, attached | late⟩ :=
      (invariant.subscriptions handle subscription found).inUse inUse
    · obtain ⟨delivered, whole, holds⟩ := attached.delivered
      have pending : state.pendingFor handle = [event] := by
        simp [FanoutState.pendingFor, here]
      rw [pending] at whole
      exact model.accepts event holds (invariant.coherent.sending here whole).2 failed
    · rw [late.receiver] at failed
      cases guarantee : options.deliveryGuarantee <;>
        simp [LiveReceiver.deliver, guarantee] at failed
  have grown : ∀ stale' ∈ stale ++ [id], stale' < state.subscriptions.length := by
    intro stale' member
    rcases List.mem_append.mp member with earlier | new
    · exact old stale' earlier
    · rw [List.mem_singleton.mp new, same]
      exact inside
  refine ⟨invariant.coherent.frame rfl rfl rfl rfl ⟨last, valid.tail, grown, kind, isSome⟩, ?_⟩
  intro other entry found'
  by_cases different : other = handle
  · subst different
    obtain rfl := Option.some.inj (found.symm.trans found')
    have subscribed := invariant.subscriptions other subscription found
    exact ⟨subscribed.id, subscribed.start, subscribed.snapshot,
      fun inUse => absurd inUse gone, fun inUse => absurd inUse gone⟩
  · refine (invariant.subscriptions other entry found').frame rfl rfl (fun _ member => member)
      (pendingFor_of_ne here rfl different) ?_
    simp only [FanoutState.staleIds, here, List.mem_append, List.mem_singleton, same, different,
      or_false]
    exact fun member => member

/-- Removing several subscribers keeps the entries with other ids. -/
theorem foldl_removeSubscriber (ids : List SubscriberId) (shared : BroadcastState Handle) :
    ids.foldl BroadcastState.removeSubscriber shared =
      { shared with subscribers := shared.subscribers.filter fun entry => entry.1 ∉ ids } := by
  induction ids generalizing shared with
  | nil => simp
  | cons id rest ih =>
      rw [List.foldl_cons, ih]
      simp only [BroadcastState.removeSubscriber, List.filter_filter, List.mem_cons, not_or]
      congr 2
      funext entry
      simp [Bool.and_comm]

/-- Fewer registered subscribers. -/
theorem Coherent.filter (coherent : Coherent options state) (keep : SubscriberId × Handle → Bool) :
    Coherent options { state with shared := { state.shared with
      subscribers := state.shared.subscribers.filter keep } } where
  counted := ⟨coherent.counted.chunks, coherent.counted.chunkCount, coherent.counted.byteCount⟩
  unretained := coherent.unretained
  kept := coherent.kept
  nextSeq := coherent.nextSeq
  seqs := coherent.seqs
  suffix := coherent.suffix
  running := coherent.running
  terminal := by
    intro terminal present
    obtain ⟨isTerminal, empty, rest⟩ := coherent.terminal terminal present
    exact ⟨isTerminal, by simp [empty], rest⟩
  ids := coherent.ids
  registry := by
    have registry := coherent.registry
    refine ⟨fun entry member => registry.same entry (List.mem_of_mem_filter member),
      fun entry member => registry.inside entry (List.mem_of_mem_filter member), ?_⟩
    exact registry.nodup.sublist (List.filter_sublist.map _)
  reader := coherent.reader

/-- A subscriber stays registered when its own id is kept. -/
theorem registered_filter (coherent : Coherent options state)
    {keep : SubscriberId × Handle → Bool} {handle : Handle}
    (kept : keep (handle, handle) = true) (member : handle ∈ state.registered) :
    handle ∈ (state.shared.subscribers.filter keep).map Prod.snd := by
  obtain ⟨entry, inside, rfl⟩ := List.mem_map.mp member
  have same := coherent.registry.same entry inside
  refine List.mem_map.mpr ⟨entry, List.mem_filter.mpr ⟨inside, ?_⟩, rfl⟩
  rw [show entry = (entry.2, entry.2) from Prod.ext same rfl]
  exact kept

theorem FanoutInvariant.prune (invariant : FanoutInvariant model state)
    (here : state.reader = .pruning stale buffer) (chunkSize : Nat) :
    FanoutInvariant model ({ state with
      shared := stale.foldl BroadcastState.removeSubscriber state.shared }.continueWith chunkSize
        buffer) := by
  have reader := invariant.coherent.reader
  rw [here] at reader
  obtain ⟨absent, _⟩ := reader
  have idle : ∀ handle, state.pendingFor handle = [] := by
    intro handle
    simp [FanoutState.pendingFor, here]
  rw [foldl_removeSubscriber]
  apply FanoutInvariant.continueWith
  · refine ⟨invariant.coherent.filter _, ?_⟩
    intro handle subscription found
    have subscribed := invariant.subscriptions handle subscription found
    refine subscribed.frame rfl rfl ?_ rfl (fun member => member)
    intro inUse member
    refine registered_filter invariant.coherent ?_ member
    have kept := subscribed.kept inUse
    rw [FanoutState.staleIds, here] at kept
    simpa using kept
  · exact idle
  · exact absent

theorem FanoutState.pendingFor_sentAll {event : IndexedEvent} {stale : List SubscriberId}
    {buffer : List UInt8} (here : state.reader = .sending event [] stale buffer) (handle : Handle) :
    state.pendingFor handle = [] := by
  simp [FanoutState.pendingFor, here]

/-- The loop over the subscribers ends, and some of them are stale. -/
theorem FanoutInvariant.sentStale (invariant : FanoutInvariant model state)
    (here : state.reader = .sending event [] stale buffer)
    (running : event.event.isTerminal = false) :
    FanoutInvariant model { state with reader := .pruning stale buffer } := by
  have reader := invariant.coherent.reader
  rw [here] at reader
  obtain ⟨_, _, old, _, isSome⟩ := reader
  rw [running] at isSome
  refine ⟨invariant.coherent.frame rfl rfl rfl rfl ?_, ?_⟩
  · exact ⟨Option.isNone_iff_eq_none.mp (Option.isSome_eq_false_iff.mp isSome.symm), old⟩
  · intro handle subscription found
    refine (invariant.subscriptions handle subscription found).frame rfl rfl
      (fun _ member => member) (FanoutState.pendingFor_sentAll here handle).symm ?_
    simp only [FanoutState.staleIds, here]
    exact fun member => member

/-- The loop over the subscribers ends, and the reader goes on. -/
theorem FanoutInvariant.sentAll (invariant : FanoutInvariant model state)
    (here : state.reader = .sending event [] stale buffer) (chunkSize : Nat) :
    FanoutInvariant model (state.afterAppend chunkSize event.event buffer) := by
  have reader := invariant.coherent.reader
  rw [here] at reader
  obtain ⟨_, _, _, _, isSome⟩ := reader
  unfold FanoutState.afterAppend
  split
  · rename_i terminal
    rw [terminal] at isSome
    exact invariant.move rfl rfl rfl rfl (FanoutState.pendingFor_sentAll here) trivial isSome.symm
  · rename_i running
    rw [Bool.not_eq_true] at running
    rw [running] at isSome
    exact invariant.continueWith (FanoutState.pendingFor_sentAll here)
      (Option.isNone_iff_eq_none.mp (Option.isSome_eq_false_iff.mp isSome.symm)) _ _

end Sending

/-! ## Subscribing, receiving and dropping -/

section Receiving

variable {options : StreamConfig} {model : LiveModel options} {state next : FanoutState}
  {handle : Handle} {subscription : SharedSubscription}

/-- A subscription created now has no live events and nothing pending. -/
theorem Coherent.pendingFor_new (coherent : Coherent options state) :
    state.pendingFor state.subscriptions.length = [] := by
  have reader := coherent.reader
  unfold FanoutState.pendingFor
  split
  · rename_i event targets stale buffer here
    rw [here] at reader
    refine if_neg fun member => ?_
    obtain ⟨entry, inside, same⟩ := List.mem_map.mp member
    exact absurd same (Nat.ne_of_lt (reader.2.1.inside entry inside))
  all_goals rfl

/-- The snapshot is a suffix of the log. -/
theorem Coherent.snapshot (coherent : Coherent options state) :
    ∃ first ≤ state.log.length,
      (state.shared.replaySnapshot options).1 = state.log.drop first := by
  have retained : (state.shared.replaySnapshot options).1 <:+
      state.shared.replay ++ state.shared.terminal.toList := by
    unfold BroadcastState.replaySnapshot
    split
    · exact List.suffix_refl _
    · exact List.suffix_append _ _
  obtain ⟨front, whole⟩ := retained.trans coherent.suffix
  refine ⟨front.length, ?_, ?_⟩
  · rw [← whole, List.length_append]
    omega
  · rw [← whole, List.drop_left]

theorem Coherent.staleIds_new (coherent : Coherent options state) :
    state.subscriptions.length ∉ state.staleIds := by
  have reader := coherent.reader
  intro member
  unfold FanoutState.staleIds at member
  cases here : state.reader with
  | sending event targets stale buffer =>
      rw [here] at reader member
      exact Nat.lt_irrefl _ (reader.2.2.1 _ member)
  | pruning stale buffer =>
      rw [here] at reader member
      exact Nat.lt_irrefl _ (reader.2 _ member)
  | reading => simp [here] at member
  | appending event buffer => simp [here] at member
  | finished => simp [here] at member
  | aborted => simp [here] at member

/-- A new subscription before the terminal event. -/
theorem Coherent.subscribed_new (model : LiveModel options) (coherent : Coherent options state)
    {subscription : SharedSubscription}
    (fresh : subscription.replay = (state.shared.replaySnapshot options).1 ∧
      subscription.snapshot = subscription.replay ∧ subscription.yielded = [] ∧
      subscription.liveStartSeq = state.log.length)
    (id : subscription.id = none ∨ subscription.id = some state.subscriptions.length)
    (log : next.log = state.log) (reader : next.reader = state.reader)
    (live : (subscription.liveReceiver = .new options ∧ state.shared.terminal = none ∧
        state.subscriptions.length ∈ next.registered) ∨
      (subscription.liveReceiver = .closed ∧ next.shared.terminal.isSome = true)) :
    Subscribed model next state.subscriptions.length subscription := by
  obtain ⟨replay, snapshot, yielded, start⟩ := fresh
  have nothing : state.log.drop subscription.liveStartSeq = [] := by
    rw [start, List.drop_length]
  refine ⟨id, by rw [start, log], ?_, ?_, ?_⟩
  · obtain ⟨first, inside, suffix⟩ := coherent.snapshot
    refine ⟨first, by rw [start]; exact inside, ?_⟩
    rw [snapshot, replay, suffix, start, log, List.take_length]
  · intro _
    rw [FanoutState.staleIds, reader]
    exact coherent.staleIds_new
  · intro _
    refine ⟨[], fun _ => rfl, by rw [yielded, snapshot, List.nil_append, List.append_nil], ?_⟩
    rcases live with ⟨receiver, absent, member⟩ | ⟨receiver, terminal⟩
    · refine .inl ⟨⟨[], ?_, ?_⟩, fun _ => member, ?_⟩
      · rw [log, nothing, FanoutState.pendingFor, reader]
        exact coherent.pendingFor_new
      · rw [receiver]
        exact model.fresh _
      · rw [log]
        intro event early
        exact coherent.running absent event (List.mem_of_mem_take early)
    · refine .inr ⟨receiver, rfl, terminal, by rw [start, log], ?_⟩
      rw [FanoutState.pendingFor, reader]
      exact coherent.pendingFor_new

/-- What `try_subscribe` adds. -/
theorem subscribeStep_eq (state : FanoutState) (options : StreamConfig) :
    state.subscribeStep options =
      if state.shared.closed = true ∨ state.shared.terminal.isSome = true then
        { state with
          subscriptions := state.subscriptions ++
            [{ id := none
               replay := (state.shared.replaySnapshot options).1
               liveStartSeq := state.shared.nextSeq
               liveReceiver := .closed
               snapshot := (state.shared.replaySnapshot options).1 }] }
      else
        { state with
          shared := (state.shared.addSubscriber state.subscriptions.length).1
          subscriptions := state.subscriptions ++
            [{ id := some state.shared.nextSubscriberId
               replay := (state.shared.replaySnapshot options).1
               liveStartSeq := state.shared.nextSeq
               liveReceiver := .new options
               snapshot := (state.shared.replaySnapshot options).1 }] } := rfl

theorem Entries.mono {entries : List (SubscriberId × Handle)} {count more : Nat}
    (valid : Entries entries count) (grown : count ≤ more) : Entries entries more :=
  ⟨valid.same, fun entry member => Nat.lt_of_lt_of_le (valid.inside entry member) grown,
    valid.nodup⟩

theorem Entries.concat {entries : List (SubscriberId × Handle)} {count : Nat}
    (valid : Entries entries count) : Entries (entries ++ [(count, count)]) (count + 1) where
  same := by
    intro entry member
    rcases List.mem_append.mp member with old | new
    · exact valid.same entry old
    · rw [List.mem_singleton.mp new]
  inside := by
    intro entry member
    rcases List.mem_append.mp member with old | new
    · exact Nat.lt_succ_of_lt (valid.inside entry old)
    · rw [List.mem_singleton.mp new]
      exact Nat.lt_succ_self count
  nodup := by
    rw [List.map_append, List.map_singleton, List.nodup_append]
    refine ⟨valid.nodup, List.pairwise_singleton _ _, ?_⟩
    intro handle member last isLast
    obtain ⟨entry, inside, rfl⟩ := List.mem_map.mp member
    rw [List.mem_singleton.mp isLast]
    exact Nat.ne_of_lt (valid.inside entry inside)

theorem ReaderCoherent.mono {terminal : Option IndexedEvent} {log : List IndexedEvent}
    {count more : Nat} {reader : Reader} (coherent : ReaderCoherent terminal log count reader)
    (grown : count ≤ more) : ReaderCoherent terminal log more reader := by
  cases reader with
  | sending event targets stale buffer =>
      obtain ⟨last, valid, old, rest⟩ := coherent
      exact ⟨last, valid.mono grown, fun id member => Nat.lt_of_lt_of_le (old id member) grown, rest⟩
  | pruning stale buffer =>
      exact ⟨coherent.1, fun id member => Nat.lt_of_lt_of_le (coherent.2 id member) grown⟩
  | _ => exact coherent

theorem FanoutInvariant.subscribe (invariant : FanoutInvariant model state) :
    FanoutInvariant model (state.subscribeStep options) := by
  have coherent := invariant.coherent
  have count : ∀ subscription, (state.subscriptions ++ [subscription]).length =
      state.subscriptions.length + 1 := fun _ => List.length_append
  have more : ∀ subscription, state.subscriptions.length ≤
      (state.subscriptions ++ [subscription]).length := by
    intro subscription
    rw [count]
    exact Nat.le_succ _
  rw [subscribeStep_eq]
  by_cases late : state.shared.terminal.isSome = true
  · rw [if_pos (.inr late)]
    refine ⟨{ coherent with
      ids := fun absent => by
        rw [show state.shared.terminal = none from absent] at late
        cases late
      registry := coherent.registry.mono (more _)
      reader := coherent.reader.mono (more _) }, ?_⟩
    apply EachAt.concat
    · exact coherent.subscribed_new model ⟨rfl, rfl, rfl, coherent.nextSeq⟩ (.inl rfl) rfl rfl
        (.inr ⟨rfl, late⟩)
    · intro handle subscription found
      exact (invariant.subscriptions handle subscription found).frame rfl rfl
        (fun _ member => member) rfl (fun member => member)
  · have absent : state.shared.terminal = none := by simpa using late
    have id := coherent.ids absent
    rw [if_neg (by simp [coherent.kept.1, absent])]
    refine ⟨?_, ?_⟩
    · refine { coherent with
        counted := ⟨coherent.counted.chunks, coherent.counted.chunkCount,
          coherent.counted.byteCount⟩
        terminal := fun terminal present => ?_
        ids := fun _ => ?_
        registry := ?_
        reader := coherent.reader.mono (more _) }
      · cases absent.symm.trans present
      · rw [count, ← id]
        rfl
      · rw [count]
        simp only [BroadcastState.addSubscriber, id]
        exact coherent.registry.concat
    · apply EachAt.concat
      · refine coherent.subscribed_new model ⟨rfl, rfl, rfl, coherent.nextSeq⟩ (.inr ?_) rfl rfl
          (.inl ⟨rfl, absent, ?_⟩)
        · rw [id]
        · simp [FanoutState.registered, BroadcastState.addSubscriber]
      · intro handle subscription found
        refine (invariant.subscriptions handle subscription found).frame rfl rfl ?_ rfl
          (fun member => member)
        intro _ member
        simp only [FanoutState.registered, BroadcastState.addSubscriber, List.map_append]
        exact List.mem_append_left _ member

/-- Removing a subscriber is no concern of the others. -/
theorem Coherent.removeSubscriber (coherent : Coherent options state) (id : SubscriberId) :
    Coherent options { state with shared := state.shared.removeSubscriber id } :=
  coherent.filter _

theorem registered_removeSubscriber (coherent : Coherent options state) {id : SubscriberId}
    (different : handle ≠ id) (member : handle ∈ state.registered) :
    handle ∈ (state.shared.removeSubscriber id).subscribers.map Prod.snd :=
  registered_filter coherent (by simpa using different) member

/-- Changing one subscription, which may leave the registry. -/
theorem FanoutInvariant.change (invariant : FanoutInvariant model state)
    {changed : SharedSubscription} {id : Option SubscriberId} (own : id = none ∨ id = some handle)
    (subscribed : Subscribed model state handle changed)
    (leaves : changed.status = .inUse → handle ∈ state.registered → id = none) :
    FanoutInvariant model { state with
      shared := FanoutState.leave state.shared id
      subscriptions := state.subscriptions.set handle changed } := by
  rcases own with rfl | rfl
  · refine ⟨invariant.coherent.frame rfl rfl rfl List.length_set invariant.coherent.reader, ?_⟩
    apply EachAt.set
    · exact subscribed.frame rfl rfl (fun _ member => member) rfl (fun member => member)
    · intro other subscription found _
      exact (invariant.subscriptions other subscription found).frame rfl rfl
        (fun _ member => member) rfl (fun member => member)
  · have coherent := invariant.coherent.removeSubscriber handle
    refine ⟨coherent.frame rfl rfl rfl List.length_set coherent.reader, ?_⟩
    apply EachAt.set
    · refine subscribed.frame rfl rfl ?_ rfl (fun member => member)
      intro inUse member
      cases leaves inUse member
    · intro other subscription found different
      refine (invariant.subscriptions other subscription found).frame rfl rfl ?_ rfl
        (fun member => member)
      intro _ member
      exact registered_removeSubscriber invariant.coherent different member

/-- A terminal event in the log is the stored one. -/
theorem Coherent.terminal_of_mem (coherent : Coherent options state) {event : IndexedEvent}
    (member : event ∈ state.log) (terminal : event.event.isTerminal = true) :
    state.shared.terminal.isSome = true := by
  cases present : state.shared.terminal with
  | some _ => rfl
  | none =>
      have isChunk := coherent.running present event member
      obtain ⟨chunk, same⟩ := StreamEvent.exists_chunk isChunk
      rw [same] at terminal
      cases terminal

/-- A change of a subscription that only concerns what it has yielded and what is unread. -/
theorem Subscribed.update (subscribed : Subscribed model state handle subscription)
    {changed : SharedSubscription} (id : changed.id = none ∨ changed.id = subscription.id)
    (start : changed.liveStartSeq = subscription.liveStartSeq)
    (snapshot : changed.snapshot = subscription.snapshot)
    (inUse : changed.status = .inUse → subscription.status = .inUse ∧
      ∃ taken, Yielding model state handle changed taken) :
    Subscribed model state handle changed where
  id := by
    rcases id with none | same
    · exact .inl none
    · rw [same]
      exact subscribed.id
  start := start ▸ subscribed.start
  snapshot := by
    rw [start, snapshot]
    exact subscribed.snapshot
  kept := fun still => subscribed.kept (inUse still).1
  inUse := fun still => (inUse still).2

/-- Yielding the terminal event also detaches the subscription. The registry is empty by then. -/
theorem FanoutInvariant.yield (invariant : FanoutInvariant model state) {event : IndexedEvent}
    (subscribed : Subscribed model state handle
      { subscription with yielded := subscription.yielded ++ [event] })
    (logged : event.event.isTerminal = true → event ∈ state.log) :
    FanoutInvariant model (state.yieldStep handle subscription event) := by
  unfold FanoutState.yieldStep
  split
  · rename_i terminal
    obtain ⟨stored, present⟩ := Option.isSome_iff_exists.mp
      (invariant.coherent.terminal_of_mem (logged terminal) terminal)
    obtain ⟨_, empty, _⟩ := invariant.coherent.terminal stored present
    refine invariant.change subscribed.id ?_ ?_
    · refine subscribed.update (.inl rfl) rfl rfl fun inUse => ⟨inUse, ?_⟩
      obtain ⟨taken, order, split, attached | late⟩ := subscribed.inUse inUse
      · exact ⟨taken, order, split, .inl ⟨attached.delivered, attached.registered, attached.early⟩⟩
      · exact ⟨taken, order, split,
          .inr ⟨late.receiver, late.taken, late.terminal, late.start, late.pending⟩⟩
    · intro _ member
      rw [FanoutState.registered, empty] at member
      cases member
  · exact invariant.change (.inl rfl) subscribed fun _ _ => rfl

/-- Reading the snapshot. -/
theorem FanoutInvariant.recvReplay (invariant : FanoutInvariant model state)
    (found : state.subscriptions[handle]? = some subscription)
    (inUse : subscription.status = .inUse) {event : IndexedEvent} {replay : List IndexedEvent}
    (unread : subscription.replay = event :: replay) :
    FanoutInvariant model (state.yieldStep handle { subscription with replay } event) := by
  have subscribed := invariant.subscriptions handle subscription found
  obtain ⟨taken, order, split, live⟩ := subscribed.inUse inUse
  have none_taken : taken = [] := order (by simp [unread])
  rw [unread, none_taken, List.append_nil] at split
  apply invariant.yield
  · refine subscribed.update (.inr rfl) rfl rfl fun _ => ⟨inUse, taken, fun _ => none_taken, ?_, ?_⟩
    · rw [none_taken, List.append_nil, ← split, List.append_assoc]
      rfl
    · rcases live with attached | late
      · exact .inl ⟨attached.delivered, attached.registered, attached.early⟩
      · exact .inr ⟨late.receiver, late.taken, late.terminal, late.start, late.pending⟩
  · intro _
    obtain ⟨first, _, snapshot⟩ := subscribed.snapshot
    have member : event ∈ subscription.snapshot := by
      rw [← split]
      simp
    rw [snapshot] at member
    exact List.mem_of_mem_take (List.mem_of_mem_drop member)

/-- Taking a live event. It is never from before the live start. -/
theorem FanoutInvariant.recvLive (invariant : FanoutInvariant model state)
    (found : state.subscriptions[handle]? = some subscription)
    (inUse : subscription.status = .inUse) (read : subscription.replay = [])
    {event : IndexedEvent} {liveReceiver : LiveReceiver}
    (took : subscription.liveReceiver.take = some (event, liveReceiver)) :
    subscription.liveStartSeq ≤ event.seq ∧
      FanoutInvariant model
        (state.yieldStep handle { subscription with liveReceiver } event) := by
  have subscribed := invariant.subscriptions handle subscription found
  obtain ⟨taken, order, split, attached | late⟩ := subscribed.inUse inUse
  · obtain ⟨delivered, whole, holds⟩ := attached.delivered
    obtain ⟨live, logged, holds'⟩ := model.take holds took
    refine ⟨live, ?_⟩
    apply invariant.yield
    · refine subscribed.update (.inr rfl) rfl rfl fun _ =>
        ⟨inUse, taken ++ [event], fun some => absurd read some, ?_,
          .inl ⟨⟨delivered, whole, holds'⟩, attached.registered, attached.early⟩⟩
      rw [read, List.append_nil] at split
      rw [read, List.append_nil, split, List.append_assoc]
    · intro terminal
      have member : event ∈ state.log.drop subscription.liveStartSeq := by
        rw [← whole]
        exact List.mem_append_left _ (logged terminal)
      exact List.mem_of_mem_drop member
  · rw [late.receiver] at took
    cases took

/-- The answer `None` changes nothing else. -/
theorem FanoutInvariant.recvNone (invariant : FanoutInvariant model state)
    (found : state.subscriptions[handle]? = some subscription)
    (inUse : subscription.status = .inUse) :
    FanoutInvariant model { state with
      subscriptions := state.subscriptions.set handle { subscription with ended := true } } := by
  have subscribed := invariant.subscriptions handle subscription found
  refine invariant.change (.inl rfl) (subscribed.update (.inr rfl) rfl rfl
    fun _ => ⟨inUse, ?_⟩) fun _ _ => rfl
  obtain ⟨taken, order, split, attached | late⟩ := subscribed.inUse inUse
  · exact ⟨taken, order, split, .inl ⟨attached.delivered, attached.registered, attached.early⟩⟩
  · exact ⟨taken, order, split,
      .inr ⟨late.receiver, late.taken, late.terminal, late.start, late.pending⟩⟩

/-- A subscription that is being dropped. -/
theorem FanoutInvariant.retire (invariant : FanoutInvariant model state)
    (found : state.subscriptions[handle]? = some subscription) {changed : SharedSubscription}
    (id : changed.id = none ∨ changed.id = subscription.id)
    (start : changed.liveStartSeq = subscription.liveStartSeq)
    (snapshot : changed.snapshot = subscription.snapshot) (gone : changed.status ≠ .inUse)
    {left : Option SubscriberId} (own : left = none ∨ left = subscription.id) :
    FanoutInvariant model { state with
      shared := FanoutState.leave state.shared left
      subscriptions := state.subscriptions.set handle changed } := by
  have subscribed := invariant.subscriptions handle subscription found
  refine invariant.change ?_ (subscribed.update id start snapshot
    fun inUse => absurd inUse gone) fun inUse => absurd inUse gone
  rcases own with rfl | rfl
  · exact .inl rfl
  · exact subscribed.id

theorem FanoutInvariant.sealReplay (invariant : FanoutInvariant model state) :
    FanoutInvariant model { state with shared := state.shared.sealReplay } := by
  have coherent := invariant.coherent
  refine ⟨{ coherent with
    counted := state.shared.counted_sealReplay
    unretained := fun _ => rfl
    suffix := (List.suffix_append _ _).trans coherent.suffix
    registry := coherent.registry }, ?_⟩
  intro handle subscription found
  exact (invariant.subscriptions handle subscription found).frame rfl rfl
    (fun _ member => member) rfl (fun member => member)

end Receiving

/-! ## The log -/

section Log

variable {options : StreamConfig} {state : FanoutState}

/-- The log is numbered from zero, and so is every stretch of it. -/
theorem Coherent.stretch_seqs (coherent : Coherent options state) (first last : Nat) :
    ((state.log.take last).drop first).map IndexedEvent.seq =
      List.range' first ((state.log.take last).drop first).length := by
  apply List.ext_getElem?
  intro position
  rw [List.getElem?_map]
  cases here : ((state.log.take last).drop first)[position]? with
  | none =>
      rw [Option.map_none, eq_comm, List.getElem?_eq_none_iff, List.length_range']
      exact List.getElem?_eq_none_iff.mp here
  | some event =>
      obtain ⟨inside, _⟩ := List.getElem?_eq_some_iff.mp here
      rw [List.getElem?_drop, List.getElem?_take, Option.ite_none_right_eq_some] at here
      rw [Option.map_some, coherent.seqs _ _ here.2, List.getElem?_range' inside]
      simp

theorem Coherent.log_seqs (coherent : Coherent options state) (first : Nat) :
    (state.log.drop first).map IndexedEvent.seq =
      List.range' first (state.log.drop first).length := by
  have seqs := coherent.stretch_seqs first state.log.length
  rw [List.take_length] at seqs
  exact seqs

/-- An event behind a position of the log has a number from there on. -/
theorem Coherent.mem_drop_iff (coherent : Coherent options state) {event : IndexedEvent}
    {first : Nat} : event ∈ state.log.drop first ↔ event ∈ state.log ∧ first ≤ event.seq := by
  constructor
  · intro member
    obtain ⟨position, found⟩ := List.mem_iff_getElem?.mp member
    rw [List.getElem?_drop] at found
    rw [coherent.seqs _ event found]
    exact ⟨List.mem_of_mem_drop member, Nat.le_add_right _ _⟩
  · rintro ⟨member, above⟩
    obtain ⟨position, found⟩ := List.mem_iff_getElem?.mp member
    rw [coherent.seqs _ event found] at above
    apply List.mem_iff_getElem?.mpr
    refine ⟨position - first, ?_⟩
    rw [List.getElem?_drop, Nat.add_sub_cancel' above]
    exact found

/-- A logged event stands at its number. -/
theorem Coherent.getElem?_seq (coherent : Coherent options state) {event : IndexedEvent}
    (member : event ∈ state.log) : state.log[event.seq]? = some event := by
  obtain ⟨position, found⟩ := List.mem_iff_getElem?.mp member
  rw [coherent.seqs position event found]
  exact found

/-- Every logged event is a chunk, or it is the last one and terminal. -/
theorem Coherent.log_kinds (coherent : Coherent options state) :
    (∀ event ∈ state.log, event.event.isChunk = true) ∨
      ∃ front terminal, state.log = front ++ [terminal] ∧ terminal.event.isTerminal = true ∧
        ∀ event ∈ front, event.event.isChunk = true := by
  cases present : state.shared.terminal with
  | none => exact .inl (coherent.running present)
  | some terminal =>
      obtain ⟨isTerminal, _, front, whole, chunks⟩ := coherent.terminal terminal present
      exact .inr ⟨front, terminal, whole, isTerminal, chunks⟩

/-- No gap is ever appended. -/
theorem Coherent.log_noGap (coherent : Coherent options state) {event : IndexedEvent}
    (member : event ∈ state.log) : event.event ≠ .gap := by
  intro gap
  rcases coherent.log_kinds with chunks | ⟨front, terminal, whole, isTerminal, chunks⟩
  · have isChunk := chunks event member
    rw [gap] at isChunk
    cases isChunk
  · rw [whole] at member
    rcases List.mem_append.mp member with earlier | last
    · have isChunk := chunks event earlier
      rw [gap] at isChunk
      cases isChunk
    · rw [← List.mem_singleton.mp last, gap] at isTerminal
      cases isTerminal

/-- Nothing is appended behind a terminal event. -/
theorem Coherent.terminal_last (coherent : Coherent options state) {front back : List IndexedEvent}
    {event : IndexedEvent} (whole : state.log = front ++ event :: back)
    (terminal : event.event.isTerminal = true) : back = [] := by
  have notChunk : ¬ event.event.isChunk = true := by
    intro isChunk
    rw [StreamEvent.isTerminal_of_isChunk isChunk] at terminal
    cases terminal
  rcases coherent.log_kinds with chunks | ⟨before, last, split, _, chunks⟩
  · exact absurd (chunks event (by simp [whole])) notChunk
  · rw [whole] at split
    rcases List.eq_nil_or_concat back with empty | ⟨rest, final, rfl⟩
    · exact empty
    · rw [List.concat_eq_append, ← List.cons_append, ← List.append_assoc] at split
      have same := List.append_inj_left' split rfl
      exact absurd (chunks event (by simp [← same])) notChunk

/-- Nothing is appended behind a terminal event that was there before. -/
theorem Coherent.appended_nil {before : FanoutState} {appended : List IndexedEvent}
    {terminal : IndexedEvent} (earlier : Coherent options before)
    (later : Coherent options state) (log : state.log = before.log ++ appended)
    (present : before.shared.terminal = some terminal) : appended = [] := by
  obtain ⟨isTerminal, _, front, whole, _⟩ := earlier.terminal terminal present
  have split : state.log = front ++ terminal :: appended := by
    rw [log, whole, List.append_assoc, List.singleton_append]
  exact later.terminal_last split isTerminal

end Log

/-! ## What a subscription still has before it -/

section Outlook

variable {streamName : String} {options : StreamConfig} {state : FanoutState} {handle : Handle}
  {subscription : SharedSubscription}

/-- The events that wait at a receiver. -/
def LiveReceiver.queued : LiveReceiver → List IndexedEvent
  | .reliable channel => channel.queue
  | .bestEffort queue => queue.events
  | .closed => []

/-- All events of a subscription, from the first it has yielded to the one whose send is pending. -/
def FanoutState.outlook (state : FanoutState) (handle : Handle) (subscription : SharedSubscription) :
    List IndexedEvent :=
  subscription.yielded ++ subscription.replay ++ subscription.liveReceiver.queued ++
    state.pendingFor handle

/-- The snapshot and the events since are one stretch of the log. -/
theorem Subscribed.stretch_eq {model : LiveModel options}
    (subscribed : Subscribed model state handle subscription) {first : Nat}
    (inside : first ≤ subscription.liveStartSeq)
    (snapshot : subscription.snapshot = (state.log.take subscription.liveStartSeq).drop first) :
    subscription.snapshot ++ state.log.drop subscription.liveStartSeq = state.log.drop first := by
  have fits : first ≤ (state.log.take subscription.liveStartSeq).length := by
    rw [List.length_take, Nat.min_eq_left subscribed.start]
    exact inside
  rw [snapshot, ← List.drop_append_of_le_length fits, List.take_append_drop]

theorem Subscribed.exists_stretch {model : LiveModel options}
    (subscribed : Subscribed model state handle subscription) :
    ∃ first, subscription.snapshot ++ state.log.drop subscription.liveStartSeq =
      state.log.drop first := by
  obtain ⟨first, inside, snapshot⟩ := subscribed.snapshot
  exact ⟨first, subscribed.stretch_eq inside snapshot⟩

/-- `recv` answers `None`. -/
theorem recv_none (found : state.subscriptions[handle]? = some subscription)
    (inUse : subscription.status = .inUse) (read : subscription.replay = [])
    (nothing : subscription.liveReceiver.take = none)
    (ended : subscription.liveReceiver.endsWith (state.sendersGone handle) = true) :
    fanoutStep streamName options state (.recv handle) =
      some { state with
        subscriptions := state.subscriptions.set handle { subscription with ended := true } } := by
  simp only [fanoutStep, found, Option.bind_eq_bind, Option.bind_some, inUse, if_true,
    FanoutState.recvStep, read, nothing, ended]

end Outlook

/-! ## Runs -/

section Runs

variable {streamName : String} {options : ValidConfig} {model : LiveModel options.toStreamConfig}
  {state next : FanoutState} {action : FanoutAction}

theorem fanoutInvariant_init : FanoutInvariant model {} where
  coherent := {
    counted := BroadcastState.counted_new
    unretained := fun _ => rfl
    kept := ⟨rfl, rfl⟩
    nextSeq := rfl
    seqs := nofun
    suffix := List.suffix_refl _
    running := fun _ _ member => absurd member List.not_mem_nil
    terminal := nofun
    ids := fun _ => rfl
    registry := Entries.nil 0
    reader := rfl }
  subscriptions := EachAt.nil

/-- **A step that does not drop the stream keeps the invariant.** -/
theorem fanoutStep_invariant (invariant : FanoutInvariant model state)
    (kept : StreamKept state action)
    (stepped : fanoutStep streamName options.toStreamConfig state action = some next) :
    FanoutInvariant model next := by
  have reader := invariant.coherent.reader
  have isOpen := invariant.coherent.kept.1
  cases fanoutStep_move stepped with
  | read here =>
      rw [here] at reader
      have quiet : state.reader.Quiet := here ▸ trivial
      exact invariant.continueWith quiet.pendingFor reader _ _
  | readEof here =>
      rw [here] at reader
      have quiet : state.reader.Quiet := here ▸ trivial
      exact invariant.move rfl rfl rfl rfl quiet.pendingFor trivial ⟨reader, .inr rfl⟩
  | readError here =>
      rw [here] at reader
      have quiet : state.reader.Quiet := here ▸ trivial
      exact invariant.move rfl rfl rfl rfl quiet.pendingFor trivial ⟨reader, .inr rfl⟩
  | appended here _ appended => exact invariant.append options.retention_nonZero here appended
  | passedOver here closed =>
      rw [isOpen] at closed
      cases closed
  | delivered here found sent => exact invariant.send here found sent
  | missed here found refused => exact invariant.sendStale here found refused
  | sentStale here running => exact invariant.sentStale here running
  | sentAll here => exact invariant.sentAll here _
  | pruned here => exact invariant.prune here _
  | subscribed _ => exact invariant.subscribe
  | replayed found inUse unread => exact invariant.recvReplay found inUse unread
  | skipped found inUse read took early =>
      obtain ⟨live, _⟩ := invariant.recvLive found inUse read took
      exact absurd early (Nat.not_lt.mpr live)
  | taken found inUse read took => exact (invariant.recvLive found inUse read took).2
  | ended found inUse read nothing ends => exact invariant.recvNone found inUse
  | @left handle subscription found =>
      unfold FanoutState.leaveRegistryStep
      split
      · have gone : Status.dropping ≠ .inUse := nofun
        exact @FanoutInvariant.retire _ _ _ _ _ invariant found
          { subscription with status := .dropping } (.inr rfl) rfl rfl gone none (.inl rfl)
      · have gone : Status.dropping ≠ .inUse := nofun
        exact @FanoutInvariant.retire _ _ _ _ _ invariant found
          { subscription with status := .dropping, id := none } (.inl rfl) rfl rfl gone _ (.inr rfl)
  | @receiverDropped handle subscription found =>
      have gone : Status.dropped ≠ .inUse := nofun
      exact @FanoutInvariant.retire _ _ _ _ _ invariant found
        { subscription with status := .dropped, liveReceiver := subscription.liveReceiver.drop }
        (.inr rfl) rfl rfl gone none (.inl rfl)
  | replaySealed => exact invariant.sealReplay
  | streamDropped _ => exact absurd rfl kept
  | aborted dropped =>
      rw [invariant.coherent.kept.2] at dropped
      cases dropped

/-- **The invariant holds in every run that keeps the stream.** -/
theorem reachable_fanoutInvariant
    (reachable : (fanoutMachine streamName options).ReachableBy StreamKept state) :
    FanoutInvariant model state := by
  apply reachable.invariant fanoutInvariant_init
  intro state next action invariant kept stepped
  exact fanoutStep_invariant invariant kept stepped

end Runs

end TokioProcessTools.OutputStream.Backend.Broadcast
