import TokioProcessTools.OutputStream.Backend.Broadcast.FastDelivery
import TokioProcessTools.OutputStream.Line.StreamLines

/-!
# The lines of a subscription on the fast path

What the source gives is what the reader sends, cut into chunks. With its account
of what was sent, a subscription relays what was read from the source since it was
created (`fast_relays`), also when the stream is dropped. This decides the lines a
collector reads from it: they are lines of that text, in their order, and all of
them when no gap was yielded (`fast_lines`). What a line waiter answers is true of
the same text (`fast_waits`).
-/

set_option autoImplicit false

namespace TokioProcessTools.OutputStream.Backend.Broadcast.Fast

open Foundation Line SingleSubscriber

/-! ## Bytes -/

/-- The bytes an action brings from the source. -/
def FastAction.bytes : FastAction → List UInt8
  | .read bytes => bytes
  | .readEof | .readError _ | .reader | .subscribeLock | .subscribeReceiver | .subscribeFinish
  | .nextEvent _ | .dropStream | .abortReader => []

/-- The bytes the reader has not sent yet. -/
def Reader.buffered : Reader → List UInt8
  | .sending buffer => buffer
  | .reading | .storeEof | .sendEof | .releaseEof | .storeError _ | .releaseError _ | .sendError _
  | .finished | .aborted => []

section Bytes

variable {streamName : String} {chunkSize capacity : Nat} {state next : FastState}
  {action : FastAction}

/-- **The reader sends what it reads.** -/
theorem FastMove.bytes (move : FastMove streamName chunkSize capacity state action next) :
    allBytes next.sent ++ next.reader.buffered =
      allBytes state.sent ++ state.reader.buffered ++ action.bytes := by
  cases move with
  | read here | readEof here | readError here | sentAll here | storeEof here _ | releaseEof here
  | storeError here _ | releaseError here | abortReader _ here =>
      simp [here, Reader.buffered, FastAction.bytes]
  | @sendChunk byte rest here =>
      simp only [here, Reader.buffered, FastAction.bytes, allBytes_append, List.append_nil,
        List.append_assoc]
      rw [allBytes_cons_chunk, List.append_assoc]
      exact congrArg (allBytes state.sent ++ ·) (List.take_append_drop chunkSize (byte :: rest))
  | sendEof here | sendError here =>
      simp only [here, Reader.buffered, FastAction.bytes, allBytes_append, List.append_nil]
      exact List.append_nil _
  | subscribeLock _ _ | subscribeReceiver _ | subscribeFinish _ | nextEvent _ _ | dropStream _ =>
      exact (List.append_nil _).symm

theorem FastMove.sent_grows (move : FastMove streamName chunkSize capacity state action next) :
    state.sent <+: next.sent := by
  cases move with
  | sendChunk _ | sendEof _ | sendError _ => exact List.prefix_append _ _
  | read _ | readEof _ | readError _ | sentAll _ | storeEof _ _ | releaseEof _ | storeError _ _
  | releaseError _ | abortReader _ _ | subscribeLock _ _ | subscribeReceiver _ | subscribeFinish _
  | nextEvent _ _ | dropStream _ => exact List.prefix_refl _

/-- The bytes of a run: what was sent in it and what the reader has not sent yet are what the reader
had in its hands before and what was read since. -/
theorem exec_bytes {options : ValidConfig} {actions : List FastAction} {before after : FastState}
    (reachable : (fastMachine streamName options capacity).Reachable before)
    (stepped : (fastMachine streamName options capacity).step before action = some after)
    (ran : (fastMachine streamName options capacity).exec after actions = some state) :
    before.sent <+: state.sent ∧
      allBytes (state.sent.drop before.sent.length) ++ state.reader.buffered =
        before.reader.buffered ++ (action :: actions).flatMap FastAction.bytes := by
  have whole : (fastMachine streamName options capacity).execBy (fun _ _ => True) before
      (action :: actions) = some state := by
    rw [Machine.execBy_true, Machine.exec, stepped]
    exact ran
  have bytes := reachable.accumulates
    (fun state => allBytes state.sent ++ state.reader.buffered) FastAction.bytes
    (fun _ _ stepped => (fastStep_move stepped).bytes) whole
  have grows := @Machine.execBy_preserves _ _ _ _ _
    (fun later => before.sent <+: later.sent)
    (fun earlier _ stepped => earlier.trans (fastStep_move stepped).sent_grows) _ _
    (List.prefix_refl before.sent) _ whole
  refine ⟨grows, ?_⟩
  obtain ⟨sent, grown⟩ := grows
  rw [← grown, allBytes_append, List.append_assoc, List.append_assoc] at bytes
  rw [← grown, List.drop_left]
  exact List.append_cancel_left bytes

/-- The reader has stored the terminal event. -/
def Reader.past : Reader → Bool
  | .sendEof | .releaseEof | .releaseError _ | .sendError _ | .finished => true
  | .reading | .sending _ | .storeEof | .storeError _ | .aborted => false

theorem Reader.buffered_of_past {reader : Reader} (past : reader.past = true) :
    reader.buffered = [] := by
  cases reader with
  | sending buffer => cases past
  | _ => rfl

/-- Behind that it sends no more bytes. -/
theorem FastMove.past (move : FastMove streamName chunkSize capacity state action next)
    (past : state.reader.past = true) :
    next.reader.past = true ∧ allBytes next.sent = allBytes state.sent := by
  cases move with
  | read here | readEof here | readError here | sentAll here | sendChunk here | storeEof here _
  | storeError here _ | abortReader _ here =>
      rw [here] at past
      cases past
  | sendEof here | sendError here =>
      refine ⟨rfl, ?_⟩
      rw [allBytes_concat]
      exact List.append_nil _
  | releaseEof here | releaseError here => exact ⟨rfl, rfl⟩
  | subscribeLock _ _ | subscribeReceiver _ | subscribeFinish _ | nextEvent _ _ | dropStream _ =>
      exact ⟨past, rfl⟩

/-- A terminal event is stored only by then. -/
theorem reachable_past {options : ValidConfig}
    (reachable : (fastMachine streamName options capacity).Reachable state) :
    state.closureState.terminalEvent ≠ none → state.reader.past = true := by
  apply reachable.invariant
  · exact fun stored => absurd rfl stored
  · intro state next action stays _ stepped stored
    cases fastStep_move stepped with
    | read here | readEof here | readError here | sentAll here | sendChunk here
    | abortReader _ here =>
        have past := stays stored
        rw [here] at past
        cases past
    | storeEof _ _ | storeError _ _ | sendEof _ | sendError _ | releaseEof _ | releaseError _ => rfl
    | subscribeLock _ _ | subscribeReceiver _ | subscribeFinish _ | nextEvent _ _ | dropStream _ =>
        exact stays stored

end Bytes

/-! ## Lines -/

section Lines

variable {sent : List StreamEvent} {reader : Reader}

/-- The end of the stream is sent last, and leaves nothing in the reader's hands. -/
theorem SentBy.last_of_eof (shape : SentBy sent reader) {position : Nat}
    (eof : sent[position]? = some .eof) : position + 1 = sent.length ∧ reader.buffered = [] := by
  obtain ⟨inside, _⟩ := List.getElem?_eq_some_iff.mp eof
  refine ⟨?_, ?_⟩
  · by_contra earlier
    obtain ⟨chunk, stored⟩ := shape.chunk_of_lt (show position + 1 < sent.length by omega)
    cases eof.symm.trans stored
  · cases reader with
    | sending buffer => cases shape _ (List.mem_of_getElem? eof)
    | reading | storeEof | sendEof | releaseEof | storeError _ | releaseError _ | sendError _
    | finished | aborted => rfl

/-- A subscription that was created before the end has yielded an account of what was sent. -/
theorem Delivered.tiles {start : Nat} {subscription : FastSubscription}
    (delivered : Delivered sent start none subscription) :
    Tiles (Reports sent) start subscription.yielded subscription.receiver := by
  obtain ⟨items, account, first, tiles⟩ := delivered.account
  have emitted : subscription.emitTerminalEvent = none := by
    by_contra emits
    rw [first emits] at account
    obtain ⟨_, nothing⟩ := List.append_eq_nil_iff.mp account
    exact emits (Option.toList_eq_nil_iff.mp nothing)
  rw [emitted, Option.toList_none, List.append_nil, List.nil_append] at account
  exact account ▸ tiles

/-- One created behind the end yields the stored event first. -/
theorem Delivered.front_eq_nil {start : Nat} {event : StreamEvent} {subscription : FastSubscription}
    {front rest : List StreamEvent} (delivered : Delivered sent start (some event) subscription)
    (terminal : event.isTerminal = true) (yielded : subscription.yielded = front ++ rest)
    (running : ∀ event ∈ front, event.isTerminal = false) : front = [] := by
  obtain ⟨items, account, _, _⟩ := delivered.account
  cases front with
  | nil => rfl
  | cons first front =>
      rw [yielded] at account
      obtain ⟨rfl, _⟩ := List.cons.inj account
      rw [running _ List.mem_cons_self] at terminal
      cases terminal

end Lines

section Runs

variable {streamName : String} {options : ValidConfig} {capacity : Nat}
  {before after state : FastState} {actions : List FastAction} {subscription : FastSubscription}

/-- Behind the end nothing is read. -/
theorem text_of_stored
    (reachable : (fastMachine streamName options capacity).Reachable before)
    (subscribed : (fastMachine streamName options capacity).step before .subscribeReceiver =
      some after)
    (ran : (fastMachine streamName options capacity).exec after actions = some state)
    (stored : before.closureState.terminalEvent ≠ none) :
    before.reader.buffered ++ actions.flatMap FastAction.bytes = [] := by
  have here := reachable_past reachable stored
  have first : FastMove streamName options.readChunkSize.bytes (max options.maxBufferedChunks capacity)
      before .subscribeReceiver after := fastStep_move subscribed
  have begun := first.past here
  obtain ⟨past, same⟩ := @Machine.exec_preserves _ _ (fastMachine streamName options capacity)
    (fun later => later.reader.past = true ∧ allBytes later.sent = allBytes before.sent)
    (fun held stepped => by
      obtain ⟨past, same⟩ := (fastStep_move stepped).past held.1
      exact ⟨past, same.trans held.2⟩) _ _ begun _ ran
  obtain ⟨⟨sent, grown⟩, bytes⟩ := exec_bytes reachable subscribed ran
  have nothing : allBytes sent = [] := by
    rw [← grown, allBytes_append] at same
    exact List.append_right_eq_self.mp same
  rw [← grown, List.drop_left, nothing, Reader.buffered_of_past past] at bytes
  exact bytes.symm

/-- **A subscription relays what was read since**, together with what the reader had in its hands when
its receiver was created. -/
theorem fast_relays
    (reachable : (fastMachine streamName options capacity).Reachable before)
    (subscribed : (fastMachine streamName options capacity).step before .subscribeReceiver =
      some after)
    (ran : (fastMachine streamName options capacity).exec after actions = some state)
    (found : state.subscriptions[before.subscriptions.length]? = some subscription) :
    Relays subscription.yielded subscription.ended
      (before.reader.buffered ++ actions.flatMap FastAction.bytes) := by
  have delivered := exec_delivered reachable subscribed ran found
  have final := Machine.reachable_exec (reachable.step trivial subscribed) ran
  intro front rest yielded running
  cases stored : before.closureState.terminalEvent with
  | some event =>
      rw [stored] at delivered
      have terminal := FastClosureState.terminalEvent_isTerminal stored
      rw [delivered.front_eq_nil terminal yielded running,
        text_of_stored reachable subscribed ran (by simp [stored])]
      exact ⟨[], [], rfl, .nil, fun _ _ => rfl, fun _ _ => rfl⟩
  | none =>
      rw [stored] at delivered
      have tiles := delivered.tiles
      have within := delivered.within
      rw [yielded] at tiles
      obtain ⟨middle, told, behind⟩ := tiles.exists_cut
      have text := (exec_bytes reachable subscribed ran).2
      rw [← stretch_length, stretch_split (told.le Reports.le)
        (Nat.le_trans (behind.le Reports.le) within), allBytes_append, List.append_assoc] at text
      refine ⟨_, _, text.symm, conveys_of_reports told running, ?_, ?_⟩
      · rintro later rfl
        obtain _ | ⟨reports, _⟩ := behind
        have eof : state.sent[middle]? = some .eof := by
          cases reports with
          | event _ there => exact there
        obtain ⟨end_, nothing⟩ := (reachable_shape final).1.last_of_eof eof
        rw [nothing, ← end_, stretch_succ eof]
        rfl
      · rintro rfl ended
        obtain ⟨stopped, all⟩ := reachable_allTold final subscription (List.mem_of_getElem? found) ended
        have nothing : state.reader.buffered = [] := by
          rcases stopped with place | place <;> rw [place] <;> rfl
        rw [nothing, behind.eq_of_nil, Nat.le_antisymm within all, stretch_self]
        rfl

/-- **The lines of a subscription are lines of what was read since.** A call of `try_subscribe`
creates its receiver somewhere in a run, and a line collector that reads the subscription returns, at
the end of the stream or at the `None` behind its drop. Its lines are among those of the bytes that
were read from the source since, together with those the reader had in its hands then, in their order.
When no gap was yielded, they are exactly these lines. -/
theorem fast_lines (alloc : Allocator) {parsing : LineParsingOptions} {lines : List String}
    (reachable : (fastMachine streamName options capacity).Reachable before)
    (subscribed : (fastMachine streamName options capacity).step before .subscribeReceiver =
      some after)
    (ran : (fastMachine streamName options capacity).exec after actions = some state)
    (found : state.subscriptions[before.subscriptions.length]? = some subscription)
    (returned : answeredLines alloc parsing (answersOf subscription.yielded subscription.ended) =
      .ok (some (.ok lines))) :
    let text := textLines parsing (before.reader.buffered ++ actions.flatMap FastAction.bytes)
    lines.Sublist text ∧ (.gap ∉ subscription.yielded → lines = text) :=
  (fast_relays reachable subscribed ran found).answeredLines alloc returned

/-- Room for long lines. -/
def wideLines : LineParsingOptions := ⟨⟨16⟩, .dropAdditionalData, none⟩

/-- The second of four chunks is lost, and with it the line it ends and the one behind it. The stream
is dropped behind the last, and the line in progress is flushed at the `None`. -/
theorem fast_lines_overflow :
    ∃ (before after state : FastState) (subscription : FastSubscription),
      (fastMachine "stdout" smallConfig 2).step before .subscribeReceiver = some after ∧
      state.subscriptions[before.subscriptions.length]? = some subscription ∧
      answeredLines exactAllocator wideLines (answersOf subscription.yielded subscription.ended) =
        .ok (some (.ok ["a", "d"])) ∧
      ["a", "d"].Sublist (textLines wideLines [97, 10, 98, 98, 98, 10, 99, 10, 100]) := by
  obtain ⟨before, after, state, reachable, subscribed, ran, buffered, yielded⟩ :=
    (fastMachine "stdout" smallConfig 2).exists_run (fun _ _ => True)
      [.subscribeLock] .subscribeReceiver
      [.subscribeFinish, .read [97, 10, 98, 98], .reader, .reader, .nextEvent 0, .read [98, 10],
        .reader, .reader, .read [99], .reader, .reader, .read [10, 100], .reader, .reader, .dropStream,
        .abortReader, .nextEvent 0, .nextEvent 0, .nextEvent 0, .nextEvent 0]
      (fun before state => before.reader = .reading ∧
        (state.subscriptions[before.subscriptions.length]?).map (fun subscription =>
          answersOf subscription.yielded subscription.ended) =
            some [some (.chunk ⟨[97, 10, 98, 98], 0⟩), some .gap, some (.chunk ⟨[99], 6⟩),
              some (.chunk ⟨[10, 100], 7⟩), none])
      (by decide)
  obtain ⟨subscription, found, yielded⟩ := Option.map_eq_some_iff.mp yielded
  have returned : answeredLines exactAllocator wideLines
      (answersOf subscription.yielded subscription.ended) = .ok (some (.ok ["a", "d"])) := by
    rw [yielded]
    decide +kernel
  rw [Machine.execBy_true] at ran
  have lines := (fast_lines exactAllocator reachable subscribed ran found returned).1
  rw [buffered] at lines
  exact ⟨before, after, state, subscription, subscribed, found, returned, lines⟩

/-- **Every answer of `wait_for_line` is justified by what the source gave.** A subscription is created
for the call somewhere in a run, and the run goes on, also behind the drop of the stream. Its text is
what the reader had in its hands then and all that was read since. If the waiter reports a match, the
predicate accepts a line of the text. If it reports the end of the stream and no gap was yielded, it
accepts none; if it times out, fails or still waits, it accepts no line completed in what was
yielded. -/
theorem fast_waits (alloc : Allocator) {parsing : LineParsingOptions}
    (limited : 0 < parsing.maxLineLength.bytes) (predicate : String → Bool) (elapsed : Bool)
    (reachable : (fastMachine streamName options capacity).Reachable before)
    (subscribed : (fastMachine streamName options capacity).step before .subscribeReceiver =
      some after)
    (ran : (fastMachine streamName options capacity).exec after actions = some state)
    (found : state.subscriptions[before.subscriptions.length]? = some subscription) :
    let answers := answersOf subscription.yielded subscription.ended
    ∃ answer, waitForLine alloc parsing predicate answers elapsed = .ok answer ∧
      Justified parsing predicate (before.reader.buffered ++ actions.flatMap FastAction.bytes)
        (.gap ∉ subscription.yielded) answers answer :=
  (fast_relays reachable subscribed ran found).waitForLine alloc limited predicate elapsed id

/-- The stream is dropped in the middle of the line that was waited for. The answer is `None`, and the
part of the line that was read does not match. -/
theorem fast_waits_dropped :
    ∃ (before after state : FastState) (subscription : FastSubscription),
      (fastMachine "stdout" smallConfig 2).step before .subscribeReceiver = some after ∧
      state.subscriptions[before.subscriptions.length]? = some subscription ∧
      waitForLine exactAllocator wideLines (· = "ab")
          (answersOf subscription.yielded subscription.ended) false =
        .ok (some (.ok .streamClosed)) ∧
      ∀ line ∈ textLines wideLines [97], decide (line = "ab") = false := by
  obtain ⟨before, after, state, reachable, subscribed, ran, buffered, yielded⟩ :=
    (fastMachine "stdout" smallConfig 2).exists_run (fun _ _ => True)
      [.subscribeLock] .subscribeReceiver
      [.subscribeFinish, .read [97], .reader, .reader, .nextEvent 0, .dropStream, .abortReader,
        .nextEvent 0]
      (fun before state => before.reader = .reading ∧
        (state.subscriptions[before.subscriptions.length]?).map (fun subscription =>
          (subscription.yielded, subscription.ended)) = some ([.chunk ⟨[97], 0⟩], true))
      (by decide)
  obtain ⟨subscription, found, same⟩ := Option.map_eq_some_iff.mp yielded
  obtain ⟨yielded, ended⟩ := Prod.mk.inj same
  have closed : waitForLine exactAllocator wideLines (· = "ab")
      (answersOf subscription.yielded subscription.ended) false =
        .ok (some (.ok .streamClosed)) := by
    rw [yielded, ended]
    decide +kernel
  rw [Machine.execBy_true] at ran
  obtain ⟨answer, answered, justified⟩ := fast_waits exactAllocator
    (show 0 < wideLines.maxLineLength.bytes by decide) (· = "ab") false reachable subscribed ran found
  cases closed.symm.trans answered
  rw [buffered, yielded] at justified
  exact ⟨before, after, state, subscription, subscribed, found, closed, justified (by decide)⟩

end Runs

end TokioProcessTools.OutputStream.Backend.Broadcast.Fast
