import TokioProcessTools.OutputStream.Backend.Broadcast.Lossy

/-!
# What a lossy subscriber observes

All that a subscription in use has yielded or still has before it tiles a stretch
of the log up to its end. Everything else is read off this tiling. Chunks come in
order because an event accounts for its own number. Two chunks that are not
adjacent have something between them. What a gap accounts for occurs nowhere
else. The terminal event has the last number, and no gap accounts for it.
-/

set_option autoImplicit false

namespace TokioProcessTools.OutputStream.Backend.Broadcast

open Foundation

/-! ## Tilings of the log -/

section Tilings

variable {options : StreamConfig} {state : FanoutState} {losable items front back : List IndexedEvent}
  {item : IndexedEvent} {first : Nat}

/-- Events that are numbered one after the other account for themselves. -/
theorem tiles_of_seqs {history : List IndexedEvent}
    (genuine : ∀ event ∈ items, event ∈ history ∧ event.event ≠ .gap)
    (seqs : items.map IndexedEvent.seq = List.range' first items.length) :
    Tiles (Accounts history losable) first items (first + items.length) := by
  induction items generalizing first with
  | nil => exact .nil
  | cons event rest ih =>
      rw [List.map_cons, List.length_cons, List.range'_succ, List.cons.injEq] at seqs
      obtain ⟨member, notGap⟩ := genuine event List.mem_cons_self
      have tail := ih (fun other inside => genuine other (List.mem_cons_of_mem _ inside)) seqs.2
      have here : Accounts history losable event first (first + 1) :=
        seqs.1 ▸ .delivers member notGap
      have sum : first + (rest.length + 1) = first + 1 + rest.length := by omega
      rw [List.length_cons, sum]
      exact .cons here tail

/-- A stretch of the log accounts for itself. -/
theorem Coherent.tiles_stretch (coherent : Coherent options state) {last : Nat}
    (order : first ≤ last) (inside : last ≤ state.log.length) :
    Tiles (Accounts state.log losable) first ((state.log.take last).drop first) last := by
  have sum : first + ((state.log.take last).drop first).length = last := by
    rw [List.length_drop, List.length_take]
    omega
  nth_rewrite 2 [← sum]
  apply tiles_of_seqs
  · intro event member
    have logged := List.mem_of_mem_take (List.mem_of_mem_drop member)
    exact ⟨logged, coherent.log_noGap logged⟩
  · exact coherent.stretch_seqs first last

/-- The terminal event has the last number. -/
theorem Coherent.terminal_seq (coherent : Coherent options state) (member : item ∈ state.log)
    (terminal : item.event.isTerminal = true) : item.seq + 1 = state.log.length := by
  obtain ⟨inside, same⟩ := List.getElem?_eq_some_iff.mp (coherent.getElem?_seq member)
  have split : state.log = state.log.take item.seq ++ item :: state.log.drop (item.seq + 1) := by
    nth_rewrite 1 [← List.take_append_drop item.seq state.log]
    rw [List.drop_eq_getElem_cons inside, same]
  have rest := coherent.terminal_last split terminal
  rw [List.drop_eq_nil_iff] at rest
  omega

/-- Nothing stands behind a terminal event. -/
theorem Coherent.tiles_terminal_last (coherent : Coherent options state)
    (tiles : Tiles (Accounts state.log losable) first (front ++ item :: back) state.log.length)
    (terminal : item.event.isTerminal = true) : back = [] := by
  obtain ⟨from_, to_, _, here, after⟩ := tiles.exists_cut_at
  obtain ⟨member, rfl, rfl⟩ := here.of_not_gap (StreamEvent.ne_gap_of_isTerminal terminal)
  by_contra some
  have below := after.lt Accounts.lt some
  rw [coherent.terminal_seq member terminal] at below
  exact Nat.lt_irrefl _ below

/-- A tiling that starts before the terminal event ends with it. -/
theorem Coherent.tiles_ends (coherent : Coherent options state)
    (losing : ∀ event ∈ losable, event ∈ state.log)
    (tiles : Tiles (Accounts state.log losable) first items state.log.length)
    (member : item ∈ state.log) (above : first ≤ item.seq)
    (terminal : item.event.isTerminal = true) : ∃ front, items = front ++ [item] := by
  have last := coherent.terminal_seq member terminal
  rcases List.eq_nil_or_concat items with rfl | ⟨front, final, rfl⟩
  · have nothing := tiles.eq_of_nil
    omega
  · rw [List.concat_eq_append] at tiles ⊢
    obtain ⟨from_, to_, _, here, after⟩ := tiles.exists_cut_at
    rw [after.eq_of_nil] at here
    have equal : ∀ other ∈ state.log, other.seq = item.seq → other = item := by
      intro other logged same
      have found := coherent.getElem?_seq logged
      rw [same, coherent.getElem?_seq member, Option.some.injEq] at found
      exact found.symm
    by_cases gap : final.event = .gap
    · -- The last number would be a chunk's.
      obtain ⟨nonempty, lost⟩ := here.of_gap gap
      obtain ⟨other, inside, same, isChunk⟩ := lost item.seq (by omega) (by omega)
      rw [equal other (losing other inside) same] at isChunk
      rw [StreamEvent.isTerminal_of_isChunk isChunk] at terminal
      cases terminal
    · obtain ⟨logged, rfl, sum⟩ := here.of_not_gap gap
      rw [equal final logged (by omega)]
      exact ⟨front, rfl⟩

/-- What a gap accounts for occurs nowhere in the tiling. -/
theorem tiles_lost {history : List IndexedEvent} {last : Nat}
    (tiles : Tiles (Accounts history losable) first items last)
    (member : item ∈ items) (gap : item.event = .gap) :
    ∃ lost ∈ losable, lost.event.isChunk = true ∧ lost ∉ items := by
  obtain ⟨front, back, rfl⟩ := List.append_of_mem member
  obtain ⟨from_, to_, before, here, after⟩ := tiles.exists_cut_at
  obtain ⟨nonempty, lost⟩ := here.of_gap gap
  obtain ⟨chunk, inside, same, isChunk⟩ := lost from_ (Nat.le_refl _) nonempty
  have notGap := StreamEvent.ne_gap_of_isChunk isChunk
  refine ⟨chunk, inside, isChunk, ?_⟩
  intro occurs
  rcases List.mem_append.mp occurs with earlier | later
  · obtain ⟨_, _, accounts, _, below⟩ := before.exists_of_mem Accounts.le earlier
    obtain ⟨_, rfl, rfl⟩ := accounts.of_not_gap notGap
    omega
  · rcases List.mem_cons.mp later with rfl | later
    · exact notGap gap
    · obtain ⟨_, _, accounts, above, _⟩ := after.exists_of_mem Accounts.le later
      obtain ⟨_, rfl, rfl⟩ := accounts.of_not_gap notGap
      omega

/-- Chunks come in the order of their numbers. -/
theorem tiles_increasing {history : List IndexedEvent} {last : Nat}
    (tiles : Tiles (Accounts history losable) first items last) :
    (items.filter fun event => event.event.isChunk).Pairwise fun earlier later =>
      earlier.seq < later.seq := by
  have pairwise : items.Pairwise fun earlier later => earlier.event.isChunk = true →
      later.event.isChunk = true → earlier.seq < later.seq := by
    refine tiles.pairwise Accounts.le ?_
    intro earlier later first middle from_ last here behind there isChunk isChunk'
    obtain ⟨_, rfl, rfl⟩ := here.of_not_gap (StreamEvent.ne_gap_of_isChunk isChunk)
    obtain ⟨_, rfl, rfl⟩ := there.of_not_gap (StreamEvent.ne_gap_of_isChunk isChunk')
    exact behind
  refine (pairwise.filter _).imp_of_mem ?_
  intro earlier later here there related
  exact related (List.mem_filter.mp here).2 (List.mem_filter.mp there).2

/-- Between two events that are not adjacent stands a gap. -/
theorem Coherent.tiles_announced (coherent : Coherent options state)
    {earlier later : IndexedEvent} {between : List IndexedEvent}
    (tiles : Tiles (Accounts state.log losable) first
      (front ++ earlier :: (between ++ later :: back)) state.log.length)
    (isChunk : earlier.event.isChunk = true) (notGap : later.event ≠ .gap)
    (noChunk : ∀ event ∈ between, event.event.isChunk = false)
    (apart : later.seq ≠ earlier.seq + 1) : ∃ gap ∈ between, gap.event = .gap := by
  obtain ⟨_, _, _, here, after⟩ := tiles.exists_cut_at
  obtain ⟨_, rfl, rfl⟩ := here.of_not_gap (StreamEvent.ne_gap_of_isChunk isChunk)
  obtain ⟨_, _, middle, there, _⟩ := after.exists_cut_at
  obtain ⟨_, rfl, rfl⟩ := there.of_not_gap notGap
  cases between with
  | nil => exact absurd middle.eq_of_nil.symm apart
  | cons event rest =>
      refine ⟨event, List.mem_cons_self, StreamEvent.eq_gap (noChunk _ List.mem_cons_self) ?_⟩
      by_contra terminal
      have whole : front ++ earlier :: (event :: rest ++ later :: back) =
          (front ++ [earlier]) ++ event :: (rest ++ later :: back) := by simp
      rw [whole] at tiles
      have nothing := coherent.tiles_terminal_last tiles (by simpa using terminal)
      simp at nothing

/-- Before the first event stands a gap, if the tiling starts earlier. -/
theorem Coherent.tiles_announced_first (coherent : Coherent options state)
    {later : IndexedEvent}
    (tiles : Tiles (Accounts state.log losable) first (front ++ later :: back) state.log.length)
    (notGap : later.event ≠ .gap) (noChunk : ∀ event ∈ front, event.event.isChunk = false)
    (apart : first < later.seq) : ∃ gap ∈ front, gap.event = .gap := by
  obtain ⟨_, _, before, here, _⟩ := tiles.exists_cut_at
  obtain ⟨_, rfl, rfl⟩ := here.of_not_gap notGap
  cases front with
  | nil => exact absurd before.eq_of_nil (Nat.ne_of_lt apart)
  | cons event rest =>
      refine ⟨event, List.mem_cons_self, StreamEvent.eq_gap (noChunk _ List.mem_cons_self) ?_⟩
      by_contra terminal
      rw [← List.nil_append (event :: rest ++ later :: back)] at tiles
      have nothing := coherent.tiles_terminal_last tiles (by simpa using terminal)
      simp at nothing

end Tilings

/-! ## The queues -/

/-- A queue holds at most its capacity, and one more once it is closed. In a run that keeps the
stream only a push of the terminal event closes it. -/
def Bounded (capacity : Nat) : LiveReceiver → Prop
  | .bestEffort queue => queue.capacity = capacity ∧
      (queue.closed = false → queue.events.length ≤ capacity) ∧
      queue.events.length ≤ capacity + 1
  | .reliable _ | .closed => True

theorem bounded_push {capacity : Nat} (positive : 0 < capacity) {queue : BestEffortLiveQueue}
    (bounded : Bounded capacity (.bestEffort queue)) (event : IndexedEvent) :
    Bounded capacity (.bestEffort (queue.push event).1) := by
  obtain ⟨sized, isOpen, most⟩ := bounded
  rcases queue.push_cases event with
    ⟨_, outcome⟩ | ⟨running, _, outcome⟩ | ⟨_, _, room, outcome⟩ | ⟨_, _, _, large, outcome⟩ |
    ⟨_, _, _, _, outcome⟩
  · rw [outcome]
    exact ⟨sized, isOpen, most⟩
  · have length := isOpen running
    rw [outcome]
    refine ⟨sized, nofun, ?_⟩
    rw [List.length_append, List.length_singleton]
    omega
  · rw [sized] at room
    rw [outcome]
    refine ⟨sized, fun _ => ?_, ?_⟩
    · rw [List.length_append, List.length_singleton]
      omega
    · rw [List.length_append, List.length_singleton]
      omega
  · rw [sized] at large
    rw [outcome]
    exact ⟨sized, fun _ => large, Nat.le_succ_of_le large⟩
  · rw [outcome]
    exact ⟨sized, fun _ => positive, Nat.le_succ_of_le positive⟩

/-- The bound is kept by every operation. -/
theorem stable_bounded {capacity : Nat} (positive : 0 < capacity)
    (guarantee : DeliveryGuarantee) : Stable guarantee (Bounded capacity) where
  deliver := by
    intro receiver next event bounded sent
    unfold LiveReceiver.deliver at sent
    split at sent
    · split at sent
      · cases sent
        trivial
      · cases sent
      · cases sent
    · rename_i queue
      have pushed := bounded_push positive bounded event
      split at sent
      · rename_i grown outcome
        cases sent
        rw [outcome] at pushed
        exact pushed
      · cases sent
    · cases sent
      exact bounded
  take := by
    intro receiver next event bounded took
    unfold LiveReceiver.take at took
    split at took
    · obtain ⟨_, _, same⟩ := Option.map_eq_some_iff.mp took
      cases same
      trivial
    · rename_i queue
      split at took
      · rename_i received
        cases took
        obtain ⟨sized, isOpen, most⟩ := bounded
        unfold BestEffortLiveQueue.recv at received
        split at received
        · rename_i first rest events
          cases received
          rw [events, List.length_cons] at isOpen most
          exact ⟨sized, fun running => Nat.le_of_succ_le (isOpen running),
            Nat.le_of_succ_le most⟩
        · split at received
          · cases received
          · cases received
      · cases took
      · cases took
    · cases took
  drop := by
    intro receiver bounded
    cases receiver with
    | reliable channel => trivial
    | bestEffort queue => exact bounded
    | closed => trivial

/-! ## Announced delivery -/

/-- A subscription in use observes every loss. -/
structure AnnouncedDelivery (streamName : String) (options : StreamConfig) (state : FanoutState)
    (handle : Handle) (subscription : SharedSubscription)
    (snapshot appended : List IndexedEvent) : Prop where
  genuine : ∀ event ∈ subscription.yielded, event.event ≠ .gap → event ∈ snapshot ++ appended
  increasing : (subscription.yielded.filter fun event => event.event.isChunk).Pairwise
    fun earlier later => earlier.seq < later.seq
  /-- What was lost behind a received chunk is announced before the next chunk or the terminal
  event. -/
  announced : ∀ front earlier between later back,
    subscription.yielded = front ++ earlier :: (between ++ later :: back) →
    earlier.event.isChunk = true → later.event.isChunk = true ∨ later.event.isTerminal = true →
    (∀ event ∈ between, event.event.isChunk = false) → later.seq ≠ earlier.seq + 1 →
      ∃ gap ∈ between, gap.event = .gap
  /-- What was lost before any chunk was received is announced too. -/
  announcedFirst : ∀ front later back lost, subscription.yielded = front ++ later :: back →
    later.event.isChunk = true ∨ later.event.isTerminal = true →
    (∀ event ∈ front, event.event.isChunk = false) → lost ∈ appended → lost.seq < later.seq →
      ∃ gap ∈ front, gap.event = .gap
  onlyIfLost : ∀ gap ∈ subscription.yielded, gap.event = .gap →
    ∃ lost ∈ appended, lost.event.isChunk = true ∧ lost ∉ state.outlook handle subscription
  terminalKept : ∀ terminal ∈ snapshot ++ appended, terminal.event.isTerminal = true →
    ∃ front, state.outlook handle subscription = front ++ [terminal] ∧
      ∀ event ∈ front, event.event.isTerminal = false
  ends : (∃ event ∈ subscription.yielded, event.event.isTerminal = true) →
    fanoutStep streamName options state (.recv handle) =
      some { state with
        subscriptions := state.subscriptions.set handle { subscription with ended := true } }
  recent : 2 ≤ options.maxBufferedChunks → ∀ chunk, lastChunk? appended = some chunk →
    chunk ∈ subscription.yielded ∨ chunk ∈ subscription.liveReceiver.queued ∨
      chunk ∈ state.pendingFor handle

section Delivery

variable {streamName : String} {options : StreamConfig} {state : FanoutState} {handle : Handle}
  {subscription : SharedSubscription} {positive : 0 < options.maxBufferedChunks}
  {lossy : options.deliveryGuarantee = .lossyWithoutBackpressure}

/-- What is pending is the end of the log. -/
theorem drop_of_append {log delivered pending : List IndexedEvent} {start : Nat}
    (whole : delivered ++ pending = log.drop start) :
    pending = log.drop (start + delivered.length) := by
  rw [← List.drop_drop, ← whole, List.drop_left]

/-- **A subscription in use tiles a stretch of the log up to its end.** Its gaps account for chunks
from behind the live start. -/
theorem FanoutInvariant.tiles (invariant : FanoutInvariant (lossyModel positive lossy) state)
    (found : state.subscriptions[handle]? = some subscription)
    (inUse : subscription.status = .inUse) :
    ∃ first ≤ subscription.liveStartSeq,
      subscription.snapshot = (state.log.take subscription.liveStartSeq).drop first ∧
      Tiles (Accounts state.log (state.log.drop subscription.liveStartSeq)) first
        (state.outlook handle subscription) state.log.length := by
  have coherent := invariant.coherent
  have subscribed := invariant.subscriptions handle subscription found
  obtain ⟨first, order, snapshot⟩ := subscribed.snapshot
  refine ⟨first, order, snapshot, ?_⟩
  have replayed : Tiles (Accounts state.log (state.log.drop subscription.liveStartSeq)) first
      subscription.snapshot subscription.liveStartSeq := by
    rw [snapshot]
    exact coherent.tiles_stretch order subscribed.start
  obtain ⟨taken, _, split, attached | late⟩ := subscribed.inUse inUse
  · obtain ⟨delivered, whole, queue, receiver, holds⟩ := attached.delivered
    have sizes := congrArg List.length whole
    rw [List.length_append, List.length_drop] at sizes
    have inside : ∀ event ∈ delivered, event ∈ state.log.drop subscription.liveStartSeq := by
      intro event member
      rw [← whole]
      exact List.mem_append_left _ member
    have live := holds.tiles.mono fun _ _ _ _ accounts =>
      accounts.mono (fun event member => List.mem_of_mem_drop (inside event member)) inside
    have pending : Tiles (Accounts state.log (state.log.drop subscription.liveStartSeq))
        (subscription.liveStartSeq + delivered.length) (state.pendingFor handle)
        state.log.length := by
      rw [drop_of_append whole]
      have tiles := @Coherent.tiles_stretch _ _ (state.log.drop subscription.liveStartSeq)
        (subscription.liveStartSeq + delivered.length) coherent _
        (by have start := subscribed.start; omega) (Nat.le_refl _)
      rw [List.take_length] at tiles
      exact tiles
    have tiles := (replayed.append live).append pending
    rw [FanoutState.outlook, split, receiver]
    simpa only [LiveReceiver.queued, List.append_assoc] using tiles
  · rw [late.start] at replayed ⊢
    rw [FanoutState.outlook, split, late.receiver, late.taken, late.pending]
    simpa only [LiveReceiver.queued, List.append_nil] using replayed

/-- What was yielded comes first. -/
theorem FanoutState.outlook_eq (state : FanoutState) (handle : Handle)
    (subscription : SharedSubscription) :
    state.outlook handle subscription = subscription.yielded ++
      (subscription.replay ++ (subscription.liveReceiver.queued ++ state.pendingFor handle)) := by
  simp only [FanoutState.outlook, List.append_assoc]

/-- After the terminal event was yielded, `recv` answers `None`. -/
theorem FanoutInvariant.lossy_ends (invariant : FanoutInvariant (lossyModel positive lossy) state)
    (found : state.subscriptions[handle]? = some subscription)
    (inUse : subscription.status = .inUse) {event : IndexedEvent}
    (yielded : event ∈ subscription.yielded) (terminal : event.event.isTerminal = true) :
    fanoutStep streamName options state (.recv handle) =
      some { state with
        subscriptions := state.subscriptions.set handle { subscription with ended := true } } := by
  have coherent := invariant.coherent
  obtain ⟨first, _, _, tiles⟩ := invariant.tiles found inUse
  have notGap := StreamEvent.ne_gap_of_isTerminal terminal
  obtain ⟨front, back, split⟩ := List.append_of_mem yielded
  rw [FanoutState.outlook_eq, split, List.append_assoc, List.cons_append] at tiles
  have rest := coherent.tiles_terminal_last tiles terminal
  simp only [List.append_eq_nil_iff] at rest
  obtain ⟨_, read, empty, idle⟩ := rest
  obtain ⟨_, _, _, here, _⟩ := tiles.exists_cut_at
  have logged := (here.of_not_gap notGap).1
  obtain ⟨taken, _, _, attached | late⟩ :=
    (invariant.subscriptions handle subscription found).inUse inUse
  · obtain ⟨delivered, whole, queue, receiver, holds⟩ := attached.delivered
    rw [idle, List.append_nil] at whole
    rw [receiver] at empty
    have closed : queue.closed = true := by
      refine holds.closed.mpr ⟨event, ?_, terminal⟩
      rw [← List.take_append_drop subscription.liveStartSeq state.log] at logged
      rcases List.mem_append.mp logged with early | live
      · have running := StreamEvent.isTerminal_of_isChunk (attached.early event early)
        rw [terminal] at running
        cases running
      · rw [whole]
        exact live
    apply recv_none found inUse read
    · simp only [LiveReceiver.queued] at empty
      rw [receiver]
      simp [LiveReceiver.take, BestEffortLiveQueue.recv, empty, closed]
    · rw [receiver]
      exact closed
  · apply recv_none found inUse read
    · rw [late.receiver]
      rfl
    · rw [late.receiver]
      rfl

/-- With room for a gap and a chunk, the most recent chunk is not lost. -/
theorem FanoutInvariant.recent (invariant : FanoutInvariant (lossyModel positive lossy) state)
    (found : state.subscriptions[handle]? = some subscription)
    (inUse : subscription.status = .inUse) (large : 2 ≤ options.maxBufferedChunks)
    {chunk : IndexedEvent}
    (last : lastChunk? (state.log.drop subscription.liveStartSeq) = some chunk) :
    chunk ∈ subscription.yielded ∨ chunk ∈ subscription.liveReceiver.queued ∨
      chunk ∈ state.pendingFor handle := by
  obtain ⟨taken, order, split, attached | late⟩ :=
    (invariant.subscriptions handle subscription found).inUse inUse
  · obtain ⟨delivered, whole, queue, receiver, holds⟩ := attached.delivered
    have taken_yielded : chunk ∈ taken → chunk ∈ subscription.yielded := by
      intro member
      have read : subscription.replay = [] := by
        by_contra unread
        rw [order unread] at member
        cases member
      rw [read, List.append_nil] at split
      rw [split]
      exact List.mem_append_right _ member
    rw [← whole, lastChunk?_append, Option.or_eq_some_iff] at last
    rcases last with pending | ⟨_, earlier⟩
    · exact .inr (.inr (mem_of_lastChunk? pending))
    · rcases List.mem_append.mp (holds.recent large chunk earlier) with member | member
      · exact .inl (taken_yielded member)
      · rw [receiver]
        exact .inr (.inl member)
  · rw [late.start, List.drop_length] at last
    cases last

theorem FanoutInvariant.announced (invariant : FanoutInvariant (lossyModel positive lossy) state)
    (found : state.subscriptions[handle]? = some subscription)
    (inUse : subscription.status = .inUse) :
    AnnouncedDelivery streamName options state handle subscription subscription.snapshot
      (state.log.drop subscription.liveStartSeq) := by
  have coherent := invariant.coherent
  have subscribed := invariant.subscriptions handle subscription found
  obtain ⟨first, order, snapshot, tiles⟩ := invariant.tiles found inUse
  have stretch : subscription.snapshot ++ state.log.drop subscription.liveStartSeq =
      state.log.drop first := subscribed.stretch_eq order snapshot
  have notGap : ∀ {event : IndexedEvent},
      event.event.isChunk = true ∨ event.event.isTerminal = true → event.event ≠ .gap := by
    rintro event (isChunk | terminal)
    · exact StreamEvent.ne_gap_of_isChunk isChunk
    · exact StreamEvent.ne_gap_of_isTerminal terminal
  have yielded_tiles := tiles
  rw [FanoutState.outlook_eq] at yielded_tiles
  constructor
  case genuine =>
    intro event member genuine
    obtain ⟨_, _, accounts, above, _⟩ :=
      yielded_tiles.exists_of_mem Accounts.le (List.mem_append_left _ member)
    obtain ⟨logged, rfl, _⟩ := accounts.of_not_gap genuine
    rw [stretch]
    exact coherent.mem_drop_iff.mpr ⟨logged, above⟩
  case increasing =>
    obtain ⟨_, front, _⟩ := yielded_tiles.exists_cut
    exact tiles_increasing front
  case announced =>
    intro front earlier between later back split isChunk kind noChunk apart
    rw [split, List.append_assoc, List.cons_append, List.append_assoc, List.cons_append]
      at yielded_tiles
    exact coherent.tiles_announced yielded_tiles isChunk (notGap kind) noChunk apart
  case announcedFirst =>
    intro front later back lost split kind noChunk member earlier
    rw [split, List.append_assoc, List.cons_append] at yielded_tiles
    refine coherent.tiles_announced_first yielded_tiles (notGap kind) noChunk ?_
    exact Nat.lt_of_le_of_lt (Nat.le_trans order (coherent.mem_drop_iff.mp member).2) earlier
  case onlyIfLost =>
    intro gap member isGap
    refine tiles_lost tiles ?_ isGap
    rw [FanoutState.outlook_eq]
    exact List.mem_append_left _ member
  case terminalKept =>
    intro terminal member isTerminal
    rw [stretch] at member
    obtain ⟨logged, above⟩ := coherent.mem_drop_iff.mp member
    obtain ⟨front, whole⟩ := coherent.tiles_ends (fun _ => List.mem_of_mem_drop) tiles logged above
      isTerminal
    refine ⟨front, whole, ?_⟩
    intro event earlier
    by_contra twice
    obtain ⟨before, after, split⟩ := List.append_of_mem earlier
    rw [whole, split, List.append_assoc, List.cons_append] at tiles
    have nothing := coherent.tiles_terminal_last tiles (by simpa using twice)
    simp at nothing
  case ends =>
    rintro ⟨event, yielded, terminal⟩
    exact invariant.lossy_ends found inUse yielded terminal
  case recent =>
    intro large chunk last
    exact invariant.recent found inUse large last

end Delivery

/-! ## Runs -/

section Runs

variable {streamName : String} {options : ValidConfig} {before after state : FanoutState}
  {actions : List FanoutAction}

/-- **Every loss of a lossy subscriber is announced.** A subscription is created somewhere in a
run, and the run goes on without the stream being dropped. Its queue stays within its bounds, also
after the subscription was dropped, and while it is in use it observes every loss. -/
theorem lossy_losses_announced
    (lossy : options.deliveryGuarantee = .lossyWithoutBackpressure)
    (reachable : (fanoutMachine streamName options).ReachableBy StreamKept before)
    (subscribed : fanoutStep streamName options.toStreamConfig before .subscribe = some after)
    (ran : (fanoutMachine streamName options).execBy StreamKept after actions = some state) :
    ∃ appended subscription, state.log = before.log ++ appended ∧
      state.subscriptions[before.subscriptions.length]? = some subscription ∧
      (∀ queue, subscription.liveReceiver = .bestEffort queue →
        (queue.closed = false → queue.events.length ≤ options.maxBufferedChunks) ∧
          queue.events.length ≤ options.maxBufferedChunks + 1) ∧
      (subscription.status = .inUse →
        AnnouncedDelivery streamName options.toStreamConfig state before.subscriptions.length
          subscription (before.shared.replaySnapshot options.toStreamConfig).1 appended) := by
  have kept : StreamKept before .subscribe := nofun
  have positive := options.maxBufferedChunks_pos
  have final : (fanoutMachine streamName options).ReachableBy StreamKept state :=
    (reachable.step kept subscribed).execBy ran
  have earlier : FanoutInvariant (lossyModel positive lossy) before :=
    reachable_fanoutInvariant reachable
  have later : FanoutInvariant (lossyModel positive lossy) state :=
    reachable_fanoutInvariant final
  obtain ⟨appended, subscription, log, found, snapshot, start⟩ :=
    descends_of_subscribe subscribed ran
  refine ⟨appended, subscription, log, found, ?_, ?_⟩
  · intro queue receiver
    have initially : Bounded options.maxBufferedChunks (.new options.toStreamConfig) := by
      simp [LiveReceiver.new, lossy, Bounded]
    have bounded : Bounded options.maxBufferedChunks subscription.liveReceiver :=
      reachable_stable (stable_bounded positive _) initially trivial final _ _ found
    rw [receiver] at bounded
    exact bounded.2
  · intro inUse
    have since : state.log.drop subscription.liveStartSeq = appended := by
      rw [start, earlier.coherent.nextSeq, log, List.drop_left]
    rw [← snapshot, ← since]
    exact later.announced found inUse

/-- A lossy stream with room for two events, where everything is retained. -/
def lossyConfig : ValidConfig where
  readChunkSize := ⟨1⟩
  maxBufferedChunks := 2
  deliveryGuarantee := .lossyWithoutBackpressure
  replayRetention := some .all
  readChunkSize_pos := Nat.one_pos
  maxBufferedChunks_pos := Nat.two_pos
  retention_nonZero := nonZero_all

/-- A subscription that has yielded one chunk from the snapshot, then a gap and the last of three
live chunks. -/
theorem lossy_losses_announced_overflow :
    ∃ before after state appended subscription,
      fanoutStep "stdout" lossyConfig.toStreamConfig before .subscribe = some after ∧
      state.log = before.log ++ appended ∧ state.subscriptions[0]? = some subscription ∧
      subscription.yielded.map (fun event => (event.seq, event.event.isChunk)) =
        [(0, true), (3, false), (3, true)] ∧
      AnnouncedDelivery "stdout" lossyConfig.toStreamConfig state 0 subscription
        (before.shared.replaySnapshot lossyConfig.toStreamConfig).1 appended := by
  obtain ⟨before, after, state, reachable, subscribed, ran, first, ended⟩ :=
    (fanoutMachine "stdout" lossyConfig).exists_run StreamKept
      [.read [1], .append [], .deliver] .subscribe
      [.read [2, 3, 4], .append [(0, 0)], .deliver, .deliver, .append [(0, 0)], .deliver, .deliver,
        .append [(0, 0)], .deliver, .recv 0, .recv 0, .recv 0]
      (fun before state => before.subscriptions.length = 0 ∧
        (state.subscriptions[0]?.map fun subscription => (subscription.status,
          subscription.yielded.map fun event => (event.seq, event.event.isChunk))) =
            some (.inUse, [(0, true), (3, false), (3, true)]))
      (by decide +kernel)
  obtain ⟨appended, subscription, log, found, _, delivery⟩ :=
    lossy_losses_announced rfl reachable subscribed ran
  rw [first] at found delivery
  rw [found, Option.map_some, Option.some.injEq, Prod.mk.injEq] at ended
  exact ⟨before, after, state, appended, subscription, subscribed, log, found, ended.2,
    delivery ended.1⟩

end Runs

end TokioProcessTools.OutputStream.Backend.Broadcast
