import TokioProcessTools.OutputStream.Backend.Broadcast.FanoutEnd
import TokioProcessTools.OutputStream.Backend.Broadcast.LiveReceivers
import TokioProcessTools.OutputStream.Backend.Broadcast.LossyDelivery
import TokioProcessTools.OutputStream.Backend.Broadcast.Reliable
import TokioProcessTools.OutputStream.Line.StreamLines

/-!
# The lines of a subscription on the fanout path

What the source gives is what the reader appends, cut into chunks. A subscription
is told of its snapshot and of what is appended since, with or without losses. So
it relays the snapshot continued by what was read from the source since
(`fanout_relays`). A line collector reads lines of that text in their order; all of
them under reliable delivery, and under lossy delivery when no gap was yielded
(`fanout_lines`). What a line waiter answers is true of the same text
(`fanout_waits`). All this holds as long as the stream is not dropped: its drop ends
a subscription at once, and behind the middle of a line.
-/

set_option autoImplicit false

namespace TokioProcessTools.OutputStream.Backend.Broadcast

open Foundation Line SingleSubscriber

/-! ## Bytes -/

/-- The bytes an action brings from the source. -/
def FanoutAction.bytes : FanoutAction → List UInt8
  | .read bytes => bytes
  | .readEof | .readError _ | .append _ | .deliver | .prune | .subscribe | .recv _
  | .leaveRegistry _ | .dropReceiver _ | .sealReplay | .dropStream | .abortReader => []

/-- The bytes the reader is going to append. -/
def Reader.buffered : Reader → List UInt8
  | .appending event buffer => if event.isTerminal then [] else eventBytes event ++ buffer
  | .sending event _ _ buffer => if event.event.isTerminal then [] else buffer
  | .pruning _ buffer => buffer
  | .reading | .finished | .aborted => []

/-- The events of the log. -/
def FanoutState.events (state : FanoutState) : List StreamEvent := state.log.map IndexedEvent.event

section Bytes

variable {streamName : String} {options : StreamConfig} {state next : FanoutState}
  {action : FanoutAction}

theorem continueWith_buffered (state : FanoutState) (chunkSize : Nat) (buffer : List UInt8) :
    (state.continueWith chunkSize buffer).reader.buffered = buffer := by
  cases buffer with
  | nil => rfl
  | cons byte rest => exact List.take_append_drop chunkSize (byte :: rest)

theorem afterAppend_buffered (state : FanoutState) (chunkSize : Nat) (event : StreamEvent)
    (buffer : List UInt8) :
    (state.afterAppend chunkSize event buffer).reader.buffered =
      if event.isTerminal then [] else buffer := by
  unfold FanoutState.afterAppend
  split
  · rfl
  · exact continueWith_buffered state chunkSize buffer

/-- The bytes that were appended and those that are going to be. -/
def FanoutState.taken (state : FanoutState) : List UInt8 :=
  allBytes state.events ++ state.reader.buffered

/-- A step that leaves the log and the reader's buffer alone. -/
theorem taken_frame (log : next.log = state.log)
    (buffered : next.reader.buffered = state.reader.buffered) : next.taken = state.taken := by
  rw [FanoutState.taken, FanoutState.taken, FanoutState.events, log, buffered]
  rfl

theorem yieldStep_taken (handle : Handle) (subscription : SharedSubscription)
    (event : IndexedEvent) : (state.yieldStep handle subscription event).taken = state.taken := by
  unfold FanoutState.yieldStep
  split <;> rfl

/-- **The reader appends what it reads**, while the stream is kept. -/
theorem FanoutMove.bytes (coherent : Coherent options state)
    (nonZero : ∀ retention ∈ options.replayRetention, retention.NonZero)
    (kept : StreamKept state action) (move : FanoutMove streamName options state action next) :
    next.taken = state.taken ++ action.bytes := by
  have still : next.taken = state.taken → next.taken = state.taken ++ [] := fun same =>
    same.trans (List.append_nil _).symm
  cases move with
  | @read bytes here =>
      rw [FanoutState.taken, FanoutState.taken, continueWith_buffered, here, FanoutState.events,
        (continueWith_frame state _ bytes).1]
      exact congrArg (· ++ bytes) (List.append_nil (allBytes state.events)).symm
  | readEof here | readError here =>
      exact still (taken_frame rfl (by rw [here]; rfl))
  | @appended event buffer order _ here _ stepped =>
      have effect := appendStep_appended coherent nonZero stepped
      refine still ?_
      rw [FanoutState.taken, FanoutState.taken, FanoutState.events, effect.log, effect.reader, here,
        List.map_append, List.map_singleton, allBytes_concat, List.append_assoc]
      refine congrArg (allBytes state.events ++ ·) ?_
      simp only [Reader.buffered]
      cases terminal : event.isTerminal with
      | false => rfl
      | true =>
          cases event with
          | chunk chunk => cases terminal
          | gap => cases terminal
          | eof => rfl
          | readError error => rfl
  | passedOver _ closed =>
      rw [coherent.kept.1] at closed
      cases closed
  | delivered here _ _ | missed here _ _ => exact still (taken_frame rfl (by rw [here]; rfl))
  | sentStale here running =>
      refine still (taken_frame rfl ?_)
      rw [here]
      simp [Reader.buffered, running]
  | @sentAll event stale buffer here =>
      refine still (taken_frame (afterAppend_frame _ _ _ _).1 ?_)
      rw [afterAppend_buffered, here]
      rfl
  | pruned here =>
      refine still (taken_frame (continueWith_frame _ _ _).1 ?_)
      rw [continueWith_buffered, here]
      rfl
  | subscribed _ =>
      refine still ?_
      unfold FanoutState.subscribeStep
      dsimp only
      split <;> rfl
  | replayed _ _ _ | taken _ _ _ _ =>
      exact still (yieldStep_taken _ _ _)
  | skipped _ _ _ _ _ | ended _ _ _ _ _ | receiverDropped _ | replaySealed =>
      exact still rfl
  | left _ =>
      refine still ?_
      unfold FanoutState.leaveRegistryStep
      split <;> rfl
  | streamDropped _ => exact absurd rfl kept
  | aborted dropped =>
      rw [coherent.kept.2] at dropped
      cases dropped

end Bytes

/-! ## What a subscription was told -/

section Told

variable {options : StreamConfig} {state : FanoutState} {handle : Handle}
  {subscription : SharedSubscription} {losable : List IndexedEvent}

/-- The accounts of a log are reports of its events. -/
theorem Coherent.reports (coherent : Coherent options state)
    (losing : ∀ event ∈ losable, event ∈ state.log) {item : IndexedEvent} {first last : Nat}
    (accounts : Accounts state.log losable item first last) :
    Reports state.events item.event first last := by
  have placed : ∀ {event : IndexedEvent}, event ∈ state.log →
      state.events[event.seq]? = some event.event := by
    intro event member
    rw [FanoutState.events, List.getElem?_map, coherent.getElem?_seq member]
    rfl
  cases accounts with
  | delivers member notGap => exact .event notGap (placed member)
  | announces gap nonempty lost =>
      rw [gap]
      refine .gap nonempty fun position above below => ?_
      obtain ⟨event, member, rfl, isChunk⟩ := lost position above below
      obtain ⟨chunk, same⟩ := StreamEvent.exists_chunk isChunk
      exact ⟨chunk, by rw [placed (losing event member), same]⟩

/-- Where the account of a subscription begins, and what it is, whatever the guarantee. -/
structure Told (state : FanoutState) (handle : Handle) (subscription : SharedSubscription)
    (guarantee : DeliveryGuarantee) (first : Nat) : Prop where
  bound : first ≤ state.log.length
  start : subscription.snapshot ++ state.log.drop subscription.liveStartSeq = state.log.drop first
  tiles : Tiles (Reports state.events) first
    ((state.outlook handle subscription).map IndexedEvent.event) state.log.length
  exact : guarantee = .reliableWithBackpressure →
    ∀ event ∈ state.outlook handle subscription, event.event ≠ .gap

theorem told_of_lossy {positive : 0 < options.maxBufferedChunks}
    {lossy : options.deliveryGuarantee = .lossyWithoutBackpressure}
    (invariant : FanoutInvariant (lossyModel positive lossy) state)
    (found : state.subscriptions[handle]? = some subscription)
    (inUse : subscription.status = .inUse) :
    ∃ first, Told state handle subscription options.deliveryGuarantee first := by
  have subscribed := invariant.subscriptions handle subscription found
  obtain ⟨first, order, snapshot, tiles⟩ := invariant.tiles found inUse
  refine ⟨first, Nat.le_trans order subscribed.start, subscribed.stretch_eq order snapshot, ?_, ?_⟩
  · exact tiles.map _ (invariant.coherent.reports fun _ => List.mem_of_mem_drop)
  · intro reliable
    rw [lossy] at reliable
    cases reliable

theorem told_of_reliable {reliable : options.deliveryGuarantee = .reliableWithBackpressure}
    (invariant : FanoutInvariant (reliableModel reliable) state)
    (found : state.subscriptions[handle]? = some subscription)
    (inUse : subscription.status = .inUse) :
    ∃ first, Told state handle subscription options.deliveryGuarantee first := by
  have coherent := invariant.coherent
  have subscribed := invariant.subscriptions handle subscription found
  obtain ⟨first, order, snapshot⟩ := subscribed.snapshot
  have bound := Nat.le_trans order subscribed.start
  have start := subscribed.stretch_eq order snapshot
  have whole := (invariant.whole found inUse).trans start
  refine ⟨first, bound, start, ?_, fun _ event member => ?_⟩
  · have tiles := @Coherent.tiles_stretch _ _ [] first coherent _ bound (Nat.le_refl _)
    rw [List.take_length, ← whole] at tiles
    exact tiles.map _ (coherent.reports fun _ member => absurd member List.not_mem_nil)
  · rw [whole] at member
    exact coherent.log_noGap (List.mem_of_mem_drop member)

end Told

/-! ## Lines -/

section Lines

variable {streamName : String} {options : ValidConfig} {before after state : FanoutState}
  {actions : List FanoutAction} {subscription : SharedSubscription} {handle : Handle}

/-- A coherent state in which the end of the stream was appended has nothing left to append. -/
theorem Coherent.buffered_of_terminal {config : StreamConfig} (coherent : Coherent config state)
    (present : state.shared.terminal.isSome = true) : state.reader.buffered = [] := by
  have placed := coherent.reader
  cases here : state.reader with
  | reading | appending event buffer | pruning stale buffer =>
      rw [here] at placed
      simp only [ReaderCoherent] at placed
      simp [placed] at present
  | sending event targets stale buffer =>
      rw [here] at placed
      obtain ⟨_, _, _, _, same⟩ := placed
      simp [Reader.buffered, same, present]
  | finished | aborted => rfl

theorem coherent_of_reachable
    (reachable : (fanoutMachine streamName options).ReachableBy StreamKept state) :
    Coherent options.toStreamConfig state :=
  (show FanoutInvariant (endModel options.toStreamConfig) state from
    reachable_fanoutInvariant reachable).coherent

/-- The end of the stream is appended last. -/
theorem Coherent.last_of_eof {config : StreamConfig} (coherent : Coherent config state)
    {position : Nat} (eof : state.events[position]? = some .eof) :
    position + 1 = state.log.length ∧ state.reader.buffered = [] := by
  rw [FanoutState.events, List.getElem?_map, Option.map_eq_some_iff] at eof
  obtain ⟨indexed, stored, same⟩ := eof
  have terminal : indexed.event.isTerminal = true := by rw [same]; rfl
  have member := List.mem_of_getElem? stored
  refine ⟨?_, coherent.buffered_of_terminal (coherent.terminal_of_mem member terminal)⟩
  rw [← coherent.seqs position indexed stored]
  exact coherent.terminal_seq member terminal

theorem reachable_told
    (reachable : (fanoutMachine streamName options).ReachableBy StreamKept state)
    (found : state.subscriptions[handle]? = some subscription)
    (inUse : subscription.status = .inUse) :
    ∃ first, Told state handle subscription options.deliveryGuarantee first := by
  cases guarantee : options.deliveryGuarantee with
  | lossyWithoutBackpressure =>
      have invariant : FanoutInvariant (lossyModel options.maxBufferedChunks_pos guarantee) state :=
        reachable_fanoutInvariant reachable
      exact guarantee ▸ told_of_lossy invariant found inUse
  | reliableWithBackpressure =>
      have invariant : FanoutInvariant (reliableModel guarantee) state :=
        reachable_fanoutInvariant reachable
      exact guarantee ▸ told_of_reliable invariant found inUse

/-- The bytes of a run: what was appended in it and what the reader is going to append are what the
reader had in its hands before and what was read since. -/
theorem appended_bytes {action : FanoutAction} {appended : List IndexedEvent}
    (reachable : (fanoutMachine streamName options).ReachableBy StreamKept before)
    (kept : StreamKept before action)
    (stepped : (fanoutMachine streamName options).step before action = some after)
    (ran : (fanoutMachine streamName options).execBy StreamKept after actions = some state)
    (log : state.log = before.log ++ appended) :
    allBytes (appended.map IndexedEvent.event) ++ state.reader.buffered =
      before.reader.buffered ++ (action :: actions).flatMap FanoutAction.bytes := by
  have whole : (fanoutMachine streamName options).execBy StreamKept before (action :: actions) =
      some state := by
    rw [Machine.execBy, if_pos kept, stepped]
    exact ran
  have bytes := reachable.accumulates FanoutState.taken FanoutAction.bytes ?_ whole
  · rw [FanoutState.taken, FanoutState.taken, FanoutState.events, log, List.map_append,
      allBytes_append, List.append_assoc, List.append_assoc] at bytes
    exact List.append_cancel_left bytes
  · intro state next action reachable kept stepped
    exact (fanoutStep_move stepped).bytes (coherent_of_reachable reachable) options.retention_nonZero
      kept

/-- **A subscription relays its snapshot and what was read since**: the bytes of the snapshot, those
the reader had in its hands then and all that was read since. Under reliable delivery there is no
gap. -/
theorem fanout_relays
    (reachable : (fanoutMachine streamName options).ReachableBy StreamKept before)
    (subscribed : fanoutStep streamName options.toStreamConfig before .subscribe = some after)
    (ran : (fanoutMachine streamName options).execBy StreamKept after actions = some state)
    (found : state.subscriptions[before.subscriptions.length]? = some subscription)
    (inUse : subscription.status = .inUse) :
    Relays (subscription.yielded.map IndexedEvent.event) subscription.ended
        (allBytes ((before.shared.replaySnapshot options.toStreamConfig).1.map IndexedEvent.event) ++
          before.reader.buffered ++ actions.flatMap FanoutAction.bytes) ∧
      (options.deliveryGuarantee = .reliableWithBackpressure ∨
        (∀ event ∈ subscription.yielded, event.event ≠ .gap) →
          .gap ∉ subscription.yielded.map IndexedEvent.event) := by
  have kept : StreamKept before .subscribe := fun other => by cases other
  have final : (fanoutMachine streamName options).ReachableBy StreamKept state :=
    (reachable.step kept subscribed).execBy ran
  have coherent : Coherent options.toStreamConfig state := coherent_of_reachable final
  obtain ⟨first, bound, start, tiles, exact⟩ := reachable_told final found inUse
  obtain ⟨appended, same, log, here, snapshot, liveStart⟩ := descends_of_subscribe subscribed ran
  cases found.symm.trans here
  constructor
  · intro front rest yielded running
    have since : state.log.drop subscription.liveStartSeq = appended := by
      rw [liveStart, (coherent_of_reachable reachable).nextSeq, log, List.drop_left]
    have text : allBytes ((before.shared.replaySnapshot options.toStreamConfig).1.map
        IndexedEvent.event) ++ before.reader.buffered ++ actions.flatMap FanoutAction.bytes =
          allBytes (stretch state.events first state.events.length) ++ state.reader.buffered := by
      have bytes := appended_bytes reachable kept subscribed ran log
      rw [stretch_length, FanoutState.events, ← List.map_drop, ← start, since, snapshot,
        List.map_append, allBytes_append, List.append_assoc, List.append_assoc, bytes]
      rfl
    rw [FanoutState.outlook_eq, List.map_append, yielded, List.append_assoc] at tiles
    obtain ⟨middle, told, behind⟩ := tiles.exists_cut
    refine ⟨allBytes (stretch state.events first middle),
      allBytes (stretch state.events middle state.events.length) ++ state.reader.buffered, ?_,
      conveys_of_reports told running, ?_, ?_⟩
    · have length : state.events.length = state.log.length := List.length_map _
      rw [text, stretch_split (told.le Reports.le) (length ▸ behind.le Reports.le), allBytes_append,
        List.append_assoc]
    · rintro later rfl
      obtain _ | ⟨reports, _⟩ := behind
      have eof : state.events[middle]? = some .eof := by
        cases reports with
        | event _ stored => exact stored
      obtain ⟨end_, nothing⟩ := coherent.last_of_eof eof
      have length : state.events.length = middle + 1 := (List.length_map _).trans end_.symm
      rw [nothing, length, stretch_succ eof]
      rfl
    · -- `None` has a terminal event before it.
      rintro rfl ended
      have keptEnd : KeptEnd options.toStreamConfig before.subscriptions.length state :=
        final.invariant keptEnd_init KeptEnd.step
      obtain ⟨event, member, terminal⟩ := keptEnd.ends subscription found ended
      rw [List.append_nil] at yielded
      rw [running _ (yielded ▸ List.mem_map_of_mem member)] at terminal
      cases terminal
  · intro complete gap
    obtain ⟨event, member, isGap⟩ := List.mem_map.mp gap
    rcases complete with reliable | complete
    · refine exact reliable event ?_ isGap
      rw [FanoutState.outlook_eq]
      exact List.mem_append_left _ member
    · exact complete event member isGap

/-- **The lines of a subscription are lines of its snapshot and of what was read since.** A
subscription is created somewhere in a run, and the run goes on without the stream being dropped. A
line collector that reads the subscription returns. Its lines are among those of the snapshot's bytes
followed by those the reader had in its hands then and by all that was read since, in their order.
Under reliable delivery, and under lossy delivery when no gap was yielded, they are exactly these
lines. -/
theorem fanout_lines (alloc : Allocator) {parsing : LineParsingOptions} {lines : List String}
    (reachable : (fanoutMachine streamName options).ReachableBy StreamKept before)
    (subscribed : fanoutStep streamName options.toStreamConfig before .subscribe = some after)
    (ran : (fanoutMachine streamName options).execBy StreamKept after actions = some state)
    (found : state.subscriptions[before.subscriptions.length]? = some subscription)
    (inUse : subscription.status = .inUse)
    (returned : answeredLines alloc parsing
      (answersOf (subscription.yielded.map IndexedEvent.event) subscription.ended) =
        .ok (some (.ok lines))) :
    let text := textLines parsing
      (allBytes ((before.shared.replaySnapshot options.toStreamConfig).1.map IndexedEvent.event) ++
        before.reader.buffered ++ actions.flatMap FanoutAction.bytes)
    lines.Sublist text ∧
      (options.deliveryGuarantee = .reliableWithBackpressure ∨
        (∀ event ∈ subscription.yielded, event.event ≠ .gap) → lines = text) := by
  obtain ⟨relays, complete⟩ := fanout_relays reachable subscribed ran found inUse
  obtain ⟨sublist, all⟩ := relays.answeredLines alloc returned
  exact ⟨sublist, fun lossless => all (complete lossless)⟩

/-- A snapshot with the start of a line, the end of that line live, and then more than fits. -/
theorem fanout_lines_overflow :
    ∃ (before after state : FanoutState) (subscription : SharedSubscription),
      fanoutStep "stdout" lossyConfig.toStreamConfig before .subscribe = some after ∧
      state.subscriptions[before.subscriptions.length]? = some subscription ∧
      answeredLines exactAllocator ⟨⟨16⟩, .dropAdditionalData, none⟩
          (answersOf (subscription.yielded.map IndexedEvent.event) subscription.ended) =
        .ok (some (.ok ["a"])) ∧
      ["a"].Sublist (textLines ⟨⟨16⟩, .dropAdditionalData, none⟩ [97, 10, 98, 98, 10, 99]) := by
  obtain ⟨before, after, state, reachable, subscribed, ran, buffered, snapshot, yielded⟩ :=
    (fanoutMachine "stdout" lossyConfig).exists_run StreamKept
      [.read [97], .append [], .deliver] .subscribe
      [.read [10], .append [(0, 0)], .deliver, .deliver, .recv 0, .recv 0, .read [98, 98, 10, 99],
        .append [(0, 0)], .deliver, .deliver, .append [(0, 0)], .deliver, .deliver,
        .append [(0, 0)], .deliver, .deliver, .append [(0, 0)], .deliver, .deliver, .recv 0, .recv 0,
        .readEof, .append [(0, 0)], .deliver, .deliver, .recv 0]
      (fun before state => before.reader = .reading ∧
        (before.shared.replaySnapshot lossyConfig.toStreamConfig).1 = [⟨0, .chunk ⟨[97], 0⟩⟩] ∧
        (state.subscriptions[before.subscriptions.length]?).map (fun subscription =>
          (subscription.status,
            answersOf (subscription.yielded.map IndexedEvent.event) subscription.ended)) =
              some (.inUse, [some (.chunk ⟨[97], 0⟩), some (.chunk ⟨[10], 1⟩), some .gap,
                some (.chunk ⟨[99], 5⟩), some .eof]))
      (by decide +kernel)
  obtain ⟨subscription, found, yielded⟩ := Option.map_eq_some_iff.mp yielded
  obtain ⟨inUse, yielded⟩ := Prod.mk.inj yielded
  have returned : answeredLines exactAllocator ⟨⟨16⟩, .dropAdditionalData, none⟩
      (answersOf (subscription.yielded.map IndexedEvent.event) subscription.ended) =
        .ok (some (.ok ["a"])) := by
    rw [yielded]
    decide +kernel
  have lines := (fanout_lines exactAllocator reachable subscribed ran found inUse returned).1
  rw [buffered, snapshot] at lines
  exact ⟨before, after, state, subscription, subscribed, found, returned, lines⟩

/-- **Every answer of `wait_for_line` is justified by what the source gave.** A subscription is created
for the call somewhere in a run, and the run goes on without the stream being dropped. Its text is
that of the snapshot, of what the reader had in its hands then and of all that was read since. If the
waiter reports a match, the predicate accepts a line of the text. If it reports the end of the stream,
it accepts none; if it times out, fails or still waits, it accepts no line completed in what was
yielded. The last two hold under reliable delivery, and under lossy delivery when no gap was
yielded. -/
theorem fanout_waits (alloc : Allocator) {parsing : LineParsingOptions}
    (limited : 0 < parsing.maxLineLength.bytes) (predicate : String → Bool) (elapsed : Bool)
    (reachable : (fanoutMachine streamName options).ReachableBy StreamKept before)
    (subscribed : fanoutStep streamName options.toStreamConfig before .subscribe = some after)
    (ran : (fanoutMachine streamName options).execBy StreamKept after actions = some state)
    (found : state.subscriptions[before.subscriptions.length]? = some subscription)
    (inUse : subscription.status = .inUse) :
    let answers := answersOf (subscription.yielded.map IndexedEvent.event) subscription.ended
    let text :=
      allBytes ((before.shared.replaySnapshot options.toStreamConfig).1.map IndexedEvent.event) ++
        before.reader.buffered ++ actions.flatMap FanoutAction.bytes
    ∃ answer, waitForLine alloc parsing predicate answers elapsed = .ok answer ∧
      Justified parsing predicate text
        (options.deliveryGuarantee = .reliableWithBackpressure ∨
          (∀ event ∈ subscription.yielded, event.event ≠ .gap)) answers answer := by
  obtain ⟨relays, complete⟩ := fanout_relays reachable subscribed ran found inUse
  exact relays.waitForLine alloc limited predicate elapsed complete

/-- The start of the line is in the snapshot and its end is live. -/
theorem fanout_waits_ready :
    ∃ (before after state : FanoutState) (subscription : SharedSubscription),
      fanoutStep "stdout" lossyConfig.toStreamConfig before .subscribe = some after ∧
      state.subscriptions[before.subscriptions.length]? = some subscription ∧
      waitForLine exactAllocator ⟨⟨16⟩, .dropAdditionalData, none⟩ (· = "ab")
          (answersOf (subscription.yielded.map IndexedEvent.event) subscription.ended) false =
        .ok (some (.ok .matched)) ∧
      ∃ line ∈ textLines ⟨⟨16⟩, .dropAdditionalData, none⟩ [97, 98, 10], decide (line = "ab") = true := by
  obtain ⟨before, after, state, reachable, subscribed, ran, buffered, snapshot, yielded⟩ :=
    (fanoutMachine "stdout" lossyConfig).exists_run StreamKept
      [.read [97], .append [], .deliver] .subscribe
      [.read [98, 10], .append [(0, 0)], .deliver, .deliver, .recv 0, .recv 0, .append [(0, 0)],
        .deliver, .deliver, .recv 0]
      (fun before state => before.reader = .reading ∧
        (before.shared.replaySnapshot lossyConfig.toStreamConfig).1 = [⟨0, .chunk ⟨[97], 0⟩⟩] ∧
        (state.subscriptions[before.subscriptions.length]?).map (fun subscription =>
          (subscription.status, subscription.yielded.map IndexedEvent.event, subscription.ended)) =
            some (.inUse, [.chunk ⟨[97], 0⟩, .chunk ⟨[98], 1⟩, .chunk ⟨[10], 2⟩], false))
      (by decide +kernel)
  obtain ⟨subscription, found, same⟩ := Option.map_eq_some_iff.mp yielded
  obtain ⟨inUse, same⟩ := Prod.mk.inj same
  obtain ⟨yielded, ended⟩ := Prod.mk.inj same
  have matched : waitForLine exactAllocator ⟨⟨16⟩, .dropAdditionalData, none⟩ (· = "ab")
      (answersOf (subscription.yielded.map IndexedEvent.event) subscription.ended) false =
        .ok (some (.ok .matched)) := by
    rw [yielded, ended]
    decide +kernel
  obtain ⟨answer, answered, justified⟩ := fanout_waits exactAllocator
    (show 0 < (⟨⟨16⟩, .dropAdditionalData, none⟩ : LineParsingOptions).maxLineLength.bytes by decide)
    (· = "ab") false reachable subscribed ran found inUse
  cases matched.symm.trans answered
  rw [buffered, snapshot] at justified
  exact ⟨before, after, state, subscription, subscribed, found, matched, justified⟩

end Lines

end TokioProcessTools.OutputStream.Backend.Broadcast
