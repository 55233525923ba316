import TokioProcessTools.Foundation.Tiling
import TokioProcessTools.OutputStream.Backend.Broadcast.FanoutHistory
import TokioProcessTools.OutputStream.Backend.Broadcast.FanoutInvariant

/-!
# Lossy delivery announces every loss

A lossy subscriber has a best-effort queue, which an overflow clears. What was
taken from the queue, followed by its content, tiles the numbers of the delivered
events: an event accounts for its own number, and a gap for a stretch of chunks
that are lost. An overflow cuts the tiling where the queue begins and puts a gap
in place of the rest.

The snapshot tiles the numbers before the live start, so a subscription that is
in use tiles a stretch of the log up to its end.
-/

set_option autoImplicit false

namespace TokioProcessTools.OutputStream.Backend.Broadcast

open Foundation

/-! ## What an event accounts for -/

/-- An event of the history accounts for its number; a gap accounts for chunks that may be lost. -/
inductive Accounts (history losable : List IndexedEvent) (item : IndexedEvent) :
    Nat → Nat → Prop where
  | delivers : item ∈ history → item.event ≠ .gap →
      Accounts history losable item item.seq (item.seq + 1)
  | announces {first last : Nat} : item.event = .gap → first < last →
      (∀ position, first ≤ position → position < last →
        ∃ lost ∈ losable, lost.seq = position ∧ lost.event.isChunk = true) →
      Accounts history losable item first last

section Accounts

variable {history losable longer more : List IndexedEvent} {item : IndexedEvent}
  {first last : Nat}

theorem Accounts.lt (accounts : Accounts history losable item first last) : first < last := by
  cases accounts with
  | delivers _ _ => exact Nat.lt_succ_self _
  | announces _ nonempty _ => exact nonempty

theorem Accounts.le (accounts : Accounts history losable item first last) : first ≤ last :=
  Nat.le_of_lt accounts.lt

theorem Accounts.mono (accounts : Accounts history losable item first last)
    (included : ∀ event ∈ history, event ∈ longer) (losing : ∀ event ∈ losable, event ∈ more) :
    Accounts longer more item first last := by
  cases accounts with
  | delivers member notGap => exact .delivers (included _ member) notGap
  | announces gap nonempty lost =>
      refine .announces gap nonempty ?_
      intro position above below
      obtain ⟨event, member, found⟩ := lost position above below
      exact ⟨event, losing _ member, found⟩

/-- What is not a gap accounts for itself only. -/
theorem Accounts.of_not_gap (accounts : Accounts history losable item first last)
    (notGap : item.event ≠ .gap) : item ∈ history ∧ item.seq = first ∧ last = first + 1 := by
  cases accounts with
  | delivers member _ => exact ⟨member, rfl, rfl⟩
  | announces gap _ _ => exact absurd gap notGap

/-- A gap accounts for lost chunks. -/
theorem Accounts.of_gap (accounts : Accounts history losable item first last)
    (gap : item.event = .gap) : first < last ∧ ∀ position, first ≤ position → position < last →
      ∃ lost ∈ losable, lost.seq = position ∧ lost.event.isChunk = true := by
  cases accounts with
  | delivers _ notGap => exact absurd gap notGap
  | announces _ nonempty lost => exact ⟨nonempty, lost⟩

end Accounts

/-- The most recent chunk of a history. -/
def lastChunk? (history : List IndexedEvent) : Option IndexedEvent :=
  (history.filter fun event => event.event.isChunk).getLast?

theorem lastChunk?_append (front back : List IndexedEvent) :
    lastChunk? (front ++ back) = (lastChunk? back).or (lastChunk? front) := by
  unfold lastChunk?
  rw [List.filter_append, List.getLast?_append]

theorem lastChunk?_concat (history : List IndexedEvent) (event : IndexedEvent) :
    lastChunk? (history ++ [event]) =
      if event.event.isChunk = true then some event else lastChunk? history := by
  rw [lastChunk?_append, lastChunk?, List.filter_singleton]
  cases event.event.isChunk with
  | true => rfl
  | false => rfl

theorem mem_of_lastChunk? {history : List IndexedEvent} {event : IndexedEvent}
    (last : lastChunk? history = some event) : event ∈ history :=
  List.mem_of_mem_filter (List.mem_of_getLast? last)

/-! ## The live model -/

/-- The queue of a subscription in use, and what was taken from it. -/
structure LossyHolds (capacity start : Nat) (delivered taken : List IndexedEvent)
    (queue : BestEffortLiveQueue) : Prop where
  sized : queue.capacity = capacity
  tiles : Tiles (Accounts delivered delivered) start (taken ++ queue.events)
    (start + delivered.length)
  live : ∀ event ∈ queue.events, start ≤ event.seq
  numbered : ∀ position, start ≤ position → position < start + delivered.length →
    ∃ event ∈ delivered, event.seq = position
  closed : queue.closed = true ↔ ∃ event ∈ delivered, event.event.isTerminal = true
  recent : 2 ≤ capacity → ∀ event, lastChunk? delivered = some event →
    event ∈ taken ++ queue.events

section Model

variable {capacity start : Nat} {delivered taken : List IndexedEvent}
  {queue next : BestEffortLiveQueue} {event : IndexedEvent}

theorem LossyHolds.fresh (capacity start : Nat) :
    LossyHolds capacity start [] [] { capacity } where
  sized := rfl
  tiles := .nil
  live := fun _ member => absurd member List.not_mem_nil
  numbered := by
    intro position above below
    exact absurd below (Nat.not_lt.mpr above)
  closed := by simp
  recent := by
    intro _ event last
    cases last

/-- Before the terminal event the queue is open. -/
theorem LossyHolds.isOpen (holds : LossyHolds capacity start delivered taken queue)
    (chunks : ∀ earlier ∈ delivered, earlier.event.isChunk = true) : queue.closed = false := by
  by_contra isClosed
  obtain ⟨event, member, terminal⟩ := holds.closed.mp (by simpa using isClosed)
  rw [StreamEvent.isTerminal_of_isChunk (chunks event member)] at terminal
  cases terminal

/-- The next delivered event has the next number. -/
theorem LossyHolds.numbered_concat (holds : LossyHolds capacity start delivered taken queue)
    (seq : event.seq = start + delivered.length) {position : Nat} (above : start ≤ position)
    (below : position < start + (delivered ++ [event]).length) :
    ∃ other ∈ delivered ++ [event], other.seq = position := by
  rw [List.length_append, List.length_singleton] at below
  by_cases earlier : position < start + delivered.length
  · obtain ⟨other, member, same⟩ := holds.numbered position above earlier
    exact ⟨other, List.mem_append_left _ member, same⟩
  · refine ⟨event, List.mem_append_right _ List.mem_cons_self, ?_⟩
    omega

/-- The same tiling, of a longer history. -/
theorem tiles_extend {first last : Nat} {items : List IndexedEvent}
    (tiles : Tiles (Accounts delivered delivered) first items last) (event : IndexedEvent) :
    Tiles (Accounts (delivered ++ [event]) (delivered ++ [event])) first items last := by
  refine tiles.mono ?_
  intro item _ first last accounts
  exact accounts.mono (fun _ member => List.mem_append_left _ member)
    fun _ member => List.mem_append_left _ member

/-- Behind what was taken, an overflow announces the rest as lost. -/
theorem LossyHolds.exists_lost (holds : LossyHolds capacity start delivered taken queue)
    (full : queue.events ≠ []) :
    ∃ middle, start ≤ middle ∧ middle < start + delivered.length ∧
      Tiles (Accounts delivered delivered) start taken middle := by
  obtain ⟨middle, before, after⟩ := holds.tiles.exists_cut
  exact ⟨middle, before.le Accounts.le, after.lt Accounts.lt full, before⟩

/-- A push that finds room, or brings the terminal event. -/
theorem LossyHolds.concat (holds : LossyHolds capacity start delivered taken queue)
    (seq : event.seq = start + delivered.length) (notGap : event.event ≠ .gap)
    (sized : next.capacity = capacity) (events : next.events = queue.events ++ [event])
    (closed : next.closed = true ↔
      ∃ other ∈ delivered ++ [event], other.event.isTerminal = true) :
    LossyHolds capacity start (delivered ++ [event]) taken next where
  sized := sized
  tiles := by
    rw [events, ← List.append_assoc, List.length_append, List.length_singleton, ← Nat.add_assoc,
      ← seq]
    refine (tiles_extend ?_ event).concat (.delivers (by simp) notGap)
    rw [seq]
    exact holds.tiles
  live := by
    intro other member
    rw [events] at member
    rcases List.mem_append.mp member with earlier | last
    · exact holds.live other earlier
    · rw [List.mem_singleton.mp last, seq]
      exact Nat.le_add_right _ _
  numbered := fun _ => holds.numbered_concat seq
  closed := closed
  recent := by
    intro large other last
    rw [events, ← List.append_assoc]
    rw [lastChunk?_concat] at last
    by_cases isChunk : event.event.isChunk = true
    · rw [if_pos isChunk, Option.some.injEq] at last
      exact List.mem_append_right _ (last ▸ List.mem_cons_self)
    · rw [if_neg isChunk] at last
      exact List.mem_append_left _ (holds.recent large other last)

/-- An overflow that leaves room for the new chunk. -/
theorem LossyHolds.overflow (holds : LossyHolds capacity start delivered taken queue)
    (seq : event.seq = start + delivered.length)
    (chunks : ∀ earlier ∈ delivered, earlier.event.isChunk = true)
    (isChunk : event.event.isChunk = true) (full : queue.events ≠ []) :
    LossyHolds capacity start (delivered ++ [event]) taken
      { queue with events := [⟨event.seq, .gap⟩, event] } where
  sized := holds.sized
  tiles := by
    obtain ⟨middle, above, below, before⟩ := holds.exists_lost full
    have notGap := StreamEvent.ne_gap_of_isChunk isChunk
    rw [List.length_append, List.length_singleton, ← Nat.add_assoc, ← seq]
    refine (tiles_extend before event).append (.cons (.announces rfl (seq ▸ below) ?_)
      (.singleton (.delivers (by simp) notGap)))
    intro position from_ to_
    obtain ⟨lost, member, same⟩ := holds.numbered position (by omega) (by omega)
    exact ⟨lost, List.mem_append_left _ member, same, chunks lost member⟩
  live := by
    intro other member
    have same : other.seq = event.seq := by
      rcases List.mem_cons.mp member with rfl | last
      · rfl
      · rw [List.mem_singleton.mp last]
    rw [same, seq]
    exact Nat.le_add_right _ _
  numbered := fun _ => holds.numbered_concat seq
  closed := by
    rw [holds.closed]
    simp [StreamEvent.isTerminal_of_isChunk isChunk, or_and_right, exists_or]
  recent := by
    intro _ other last
    rw [lastChunk?_concat, if_pos isChunk, Option.some.injEq] at last
    subst last
    simp

/-- An overflow of a queue of capacity one. -/
theorem LossyHolds.overflow_one (holds : LossyHolds capacity start delivered taken queue)
    (seq : event.seq = start + delivered.length)
    (chunks : ∀ earlier ∈ delivered, earlier.event.isChunk = true)
    (isChunk : event.event.isChunk = true) (full : queue.events ≠ []) (one : capacity ≤ 1) :
    LossyHolds capacity start (delivered ++ [event]) taken
      { queue with events := [⟨event.seq, .gap⟩] } where
  sized := holds.sized
  tiles := by
    obtain ⟨middle, above, below, before⟩ := holds.exists_lost full
    refine (tiles_extend before event).append (.singleton (.announces rfl ?_ ?_))
    · rw [List.length_append]
      omega
    · intro position from_ to_
      obtain ⟨lost, member, same⟩ := holds.numbered_concat seq (by omega) to_
      refine ⟨lost, member, same, ?_⟩
      rcases List.mem_append.mp member with earlier | last
      · exact chunks lost earlier
      · rw [List.mem_singleton.mp last]
        exact isChunk
  live := by
    intro other member
    rw [List.mem_singleton.mp member]
    exact seq ▸ Nat.le_add_right _ _
  numbered := fun _ => holds.numbered_concat seq
  closed := by
    rw [holds.closed]
    simp [StreamEvent.isTerminal_of_isChunk isChunk, or_and_right, exists_or]
  recent := by
    intro large
    exact absurd large (by omega)

theorem LossyHolds.push (positive : 0 < capacity)
    (holds : LossyHolds capacity start delivered taken queue)
    (seq : event.seq = start + delivered.length)
    (chunks : ∀ earlier ∈ delivered, earlier.event.isChunk = true)
    (kind : event.event.isChunk = true ∨ event.event.isTerminal = true)
    (pushed : queue.push event = (next, true)) :
    LossyHolds capacity start (delivered ++ [event]) taken next := by
  have isOpen := holds.isOpen chunks
  have sized := holds.sized
  have chunk_of : event.event.isTerminal = false → event.event.isChunk = true := by
    intro running
    rcases kind with isChunk | terminal
    · exact isChunk
    · rw [running] at terminal
      cases terminal
  have nonempty : queue.capacity ≤ queue.events.length → queue.events ≠ [] := by
    intro full empty
    rw [empty, List.length_nil] at full
    omega
  rcases queue.push_cases event with
    ⟨isClosed, _⟩ | ⟨_, terminal, outcome⟩ | ⟨_, running, room, outcome⟩ |
    ⟨_, running, full, _, outcome⟩ | ⟨_, running, full, one, outcome⟩
  · rw [isOpen] at isClosed
    cases isClosed
  · cases outcome.symm.trans pushed
    refine holds.concat seq (StreamEvent.ne_gap_of_isTerminal terminal) sized rfl ?_
    simp [terminal]
  · cases outcome.symm.trans pushed
    refine holds.concat seq (StreamEvent.ne_gap_of_isChunk (chunk_of running)) sized rfl ?_
    rw [holds.closed]
    simp [running, or_and_right, exists_or]
  · cases outcome.symm.trans pushed
    exact holds.overflow seq chunks (chunk_of running) (nonempty full)
  · cases outcome.symm.trans pushed
    exact holds.overflow_one seq chunks (chunk_of running) (nonempty full) (by omega)

theorem LossyHolds.recv (holds : LossyHolds capacity start delivered taken queue)
    (received : queue.recv = .event event next) :
    start ≤ event.seq ∧ (event.event.isTerminal = true → event ∈ delivered) ∧
      LossyHolds capacity start delivered (taken ++ [event]) next := by
  unfold BestEffortLiveQueue.recv at received
  split at received
  · rename_i first rest events
    cases received
    have whole : taken ++ [event] ++ rest = taken ++ queue.events := by
      rw [events, List.append_assoc, List.singleton_append]
    refine ⟨holds.live event (by simp [events]), ?_, holds.sized, ?_, ?_, holds.numbered,
      holds.closed, ?_⟩
    · intro terminal
      have member : event ∈ taken ++ queue.events := by simp [events]
      obtain ⟨_, _, accounts, _⟩ := holds.tiles.exists_of_mem Accounts.le member
      exact (accounts.of_not_gap (StreamEvent.ne_gap_of_isTerminal terminal)).1
    · rw [whole]
      exact holds.tiles
    · intro other member
      exact holds.live other (by simp [events, member])
    · rw [whole]
      exact holds.recent
  · split at received
    · cases received
    · cases received

end Model

/-- The lossy receivers. -/
def lossyModel {options : StreamConfig} (positive : 0 < options.maxBufferedChunks)
    (lossy : options.deliveryGuarantee = .lossyWithoutBackpressure) : LiveModel options where
  Holds := fun start delivered taken receiver => ∃ queue, receiver = .bestEffort queue ∧
    LossyHolds options.maxBufferedChunks start delivered taken queue
  fresh := by
    intro start
    refine ⟨{ capacity := options.maxBufferedChunks }, ?_, .fresh _ _⟩
    simp [LiveReceiver.new, lossy]
  deliver := by
    rintro start delivered taken receiver next event ⟨queue, rfl, holds⟩ seq chunks kind sent
    rw [lossy] at sent
    simp only [LiveReceiver.deliver] at sent
    split at sent
    · rename_i grown pushed
      cases sent
      exact ⟨grown, rfl, holds.push positive seq chunks kind pushed⟩
    · cases sent
  accepts := by
    rintro start delivered taken receiver event ⟨queue, rfl, holds⟩ chunks failed
    rw [lossy] at failed
    simp only [LiveReceiver.deliver] at failed
    split at failed
    · cases failed
    · rename_i refused
      have isOpen := holds.isOpen chunks
      rcases queue.push_cases event with
        ⟨isClosed, _⟩ | ⟨_, _, outcome⟩ | ⟨_, _, _, outcome⟩ | ⟨_, _, _, _, outcome⟩ |
        ⟨_, _, _, _, outcome⟩
      · rw [isOpen] at isClosed
        cases isClosed
      all_goals cases outcome.symm.trans refused
  take := by
    rintro start delivered taken receiver next event ⟨queue, rfl, holds⟩ took
    simp only [LiveReceiver.take] at took
    split at took
    · rename_i received
      cases took
      obtain ⟨live, logged, after⟩ := holds.recv received
      exact ⟨live, logged, _, rfl, after⟩
    · cases took
    · cases took

end TokioProcessTools.OutputStream.Backend.Broadcast
