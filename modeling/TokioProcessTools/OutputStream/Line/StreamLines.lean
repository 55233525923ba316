import TokioProcessTools.Foundation.Tiling
import TokioProcessTools.OutputStream.Backend.Account
import TokioProcessTools.OutputStream.Backend.SingleSubscriber.Gaps
import TokioProcessTools.OutputStream.Backend.SingleSubscriber.History
import TokioProcessTools.OutputStream.Line.DroppedChunks
import TokioProcessTools.OutputStream.Line.WaitForLine

/-!
# The lines of what a backend delivers

A line collector and a line waiter are driven over the events a subscription
yields. Both see the lines of the events before the first terminal one, and the
flushed line only if that is `Eof`.

Events convey a text when each chunk has its next bytes and each gap stands for
bytes of it that are missing (`Conveys`). The lines over them are then lines of the
text, in their order, and all of them without a gap. A subscription relays a text
when what it has yielded conveys the beginning of it, and the whole of it once it
has closed (`Relays`). That decides what a collector returns
(`Relays.answeredLines`) and what the answer of a waiter means
(`Relays.waitForLine`). The backends differ only in which text they relay.
-/

set_option autoImplicit false

namespace TokioProcessTools.OutputStream.Line

open Foundation Backend Backend.SingleSubscriber

/-- The lines of chunks and gaps, with the last one flushed. -/
def eventLines (options : LineParsingOptions) (events : List StreamEvent) : List String :=
  ((Transducer.run (LineState.observeEvent options) .fresh events).2 ++
    (Transducer.run (LineState.observeEvent options) .fresh events).1.flush).map decodeLineLossy

/-- The lines of a text without gaps, as the reference splitter has them. -/
def textLines (options : LineParsingOptions) (bytes : List UInt8) : List String :=
  (reference options bytes []).map decodeLineLossy

/-- The lines of a text that is not at its end yet: those that no further byte can change. -/
def completedLines (options : LineParsingOptions) (bytes : List UInt8) : List String :=
  (LineState.fresh.run options bytes).2.map decodeLineLossy

variable {options : LineParsingOptions}

/-! ## Where the answers end -/

/-- The chunks and gaps before the end of the stream. -/
def beforeEnd : List (Option StreamEvent) → List StreamEvent
  | some (.chunk chunk) :: rest => .chunk chunk :: beforeEnd rest
  | some .gap :: rest => .gap :: beforeEnd rest
  | some .eof :: _ | some (.readError _) :: _ | none :: _ | [] => []

/-- What stands behind the chunks and gaps, and the end the consumer makes of it. -/
inductive EndsWith : List (Option StreamEvent) → Option StreamEnd → Prop where
  | nil : EndsWith [] none
  | eof (behind : List (Option StreamEvent)) : EndsWith (some .eof :: behind) (some .closed)
  | none (behind : List (Option StreamEvent)) : EndsWith (none :: behind) (some .closed)
  | readError (error : StreamReadError) (behind : List (Option StreamEvent)) :
      EndsWith (some (.readError error) :: behind) (some (.failed error))

theorem exists_end (answers : List (Option StreamEvent)) :
    ∃ rest, answers = (beforeEnd answers).map some ++ rest ∧ EndsWith rest (streamEnd answers) := by
  fun_induction beforeEnd answers with
  | case1 chunk answers ih | case2 answers ih =>
      obtain ⟨rest, cut, ends⟩ := ih
      exact ⟨rest, congrArg (_ :: ·) cut, ends⟩
  | case3 behind => exact ⟨_, rfl, .eof behind⟩
  | case4 error behind => exact ⟨_, rfl, .readError error behind⟩
  | case5 behind => exact ⟨_, rfl, .none behind⟩
  | case6 => exact ⟨_, rfl, .nil⟩

theorem beforeEnd_running {answers : List (Option StreamEvent)} :
    ∀ event ∈ beforeEnd answers, event.isTerminal = false := by
  fun_induction beforeEnd answers with
  | case1 chunk rest ih | case2 rest ih => exact List.forall_mem_cons.mpr ⟨rfl, ih⟩
  | case3 | case4 | case5 | case6 => exact fun _ member => absurd member List.not_mem_nil

/-- The machine reads what stands before the end. -/
theorem run_beforeEnd (answers : List (Option StreamEvent)) (state : LineState) :
    Transducer.run (LineState.observe options) state (inputsBeforeEnd answers) =
      Transducer.run (LineState.observeEvent options) state (beforeEnd answers) := by
  fun_induction beforeEnd answers generalizing state with
  | case1 chunk rest ih | case2 rest ih =>
      rw [inputsBeforeEnd, Transducer.run_cons, Transducer.run_cons, ih]
      rfl
  | case3 | case4 | case5 | case6 => rfl

/-- The lines a consumer sees: those before the end, and the flushed one if the stream closed. -/
def consumedLines (options : LineParsingOptions) (answers : List (Option StreamEvent)) :
    List String :=
  let read := Transducer.run (LineState.observeEvent options) .fresh (beforeEnd answers)
  countedLines (read.2.map decodeLineLossy) (read.1.flush.map decodeLineLossy) (streamEnd answers)

/-- A visitor sees these lines until it stops. -/
theorem consumeSync_lines (alloc : Allocator) {S Output : Type} {visitor : LineVisitor S Output}
    (quietEof : visitor.onEof = id) (quietGap : visitor.onGap = id) (options : LineParsingOptions)
    (sink : S) (answers : List (Option StreamEvent)) :
    consumeSync (parseLines alloc visitor) ⟨.new, options, sink⟩ (answers.map .nextEvent) =
      .ok (visitedResult
        (visitor.intoOutput (visitor.visitText sink (consumedLines options answers)).1)
        (visitor.visitText sink (consumedLines options answers)).2 (streamEnd answers)) := by
  have fresh : LineParser.new.state.WithinLimit options := LineState.withinLimit_nil options _
  obtain ⟨adapter, looped, inner⟩ :=
    consumeLoop_parseLines alloc quietEof quietGap sink answers fresh
  rw [show LineParser.new.state = LineState.fresh from rfl, run_beforeEnd] at looped inner
  rw [consumeSync_eq, looped, show consumedLines options answers = countedLines _ _ _ from rfl,
    ← inner]
  exact congrArg Except.ok (loopEnd_result (parseLines alloc visitor) adapter _ _)

/-! ## Chunks without a gap -/

@[simp] theorem allBytes_cons_chunk (chunk : Chunk) (events : List StreamEvent) :
    allBytes (.chunk chunk :: events) = chunk.bytes ++ allBytes events := rfl

theorem allBytes_concat (events : List StreamEvent) (event : StreamEvent) :
    allBytes (events ++ [event]) = allBytes events ++ eventBytes event := by
  rw [allBytes_append, allBytes, allBytes, List.flatMap_singleton]

/-- The lines of a text are those of the byte machine. -/
theorem textLines_eq (limited : 0 < options.maxLineLength.bytes) (bytes : List UInt8) :
    textLines options bytes = ((LineState.fresh.run options bytes).2 ++
      (LineState.fresh.run options bytes).1.flush).map decodeLineLossy := by
  unfold textLines reference
  rw [(run_segment limited _).2]

theorem textLines_nil (limited : 0 < options.maxLineLength.bytes) : textLines options [] = [] :=
  textLines_eq limited []

/-- **A completed line stays a line**, whatever follows. -/
theorem completedLines_begin (limited : 0 < options.maxLineLength.bytes) (bytes more : List UInt8) :
    completedLines options bytes <+: textLines options (bytes ++ more) := by
  rw [textLines_eq limited, LineState.run_append, completedLines, List.append_assoc, List.map_append]
  exact List.prefix_append _ _

/-! ## Conveying a text -/

/-- The events are chunks of a text and gaps in it. -/
inductive Conveys : List StreamEvent → List UInt8 → Prop where
  | nil : Conveys [] []
  | chunk (chunk : Chunk) {events : List StreamEvent} {bytes : List UInt8} :
      Conveys events bytes → Conveys (.chunk chunk :: events) (chunk.bytes ++ bytes)
  | gap (lost : List UInt8) {events : List StreamEvent} {bytes : List UInt8} :
      Conveys events bytes → Conveys (.gap :: events) (lost ++ bytes)

namespace Conveys

variable {events : List StreamEvent} {bytes : List UInt8}

/-- Without a gap the text is the bytes of the chunks. -/
theorem bytes_eq (conveys : Conveys events bytes) (complete : .gap ∉ events) :
    allBytes events = bytes := by
  induction conveys with
  | nil => rfl
  | chunk chunk _ ih =>
      rw [allBytes_cons_chunk, ih fun gap => complete (List.mem_cons_of_mem _ gap)]
  | gap lost _ _ => exact absurd List.mem_cons_self complete

/-- The bytes of the chunks are a part of the text. -/
theorem bytes_sublist (conveys : Conveys events bytes) : (allBytes events).Sublist bytes := by
  induction conveys with
  | nil => exact List.Sublist.refl _
  | chunk chunk _ ih => exact (List.Sublist.refl _).append ih
  | gap lost _ ih => exact ih.trans (List.sublist_append_right _ _)

/-- Without a gap the machine reads the text. -/
theorem run_eq (conveys : Conveys events bytes) (complete : .gap ∉ events) (state : LineState) :
    Transducer.run (LineState.observeEvent options) state events = state.run options bytes := by
  induction conveys generalizing state with
  | nil => rfl
  | chunk chunk _ ih =>
      rw [Transducer.run_cons, ih fun gap => complete (List.mem_cons_of_mem _ gap)]
      exact (LineState.run_append state chunk.bytes _).symm
  | gap lost _ _ => exact absurd List.mem_cons_self complete

/-- **The two runs.** The run over the events starts in the state of the run over the text, or
discards. It emits a sublist, and at the end it is again in the state of the other run, or
discards. -/
theorem run_sublist (conveys : Conveys events bytes) (full reduced : LineState)
    (behind : reduced = LineState.afterGap ∨ reduced = full) :
    (Transducer.run (LineState.observeEvent options) reduced events).2.Sublist
        (full.run options bytes).2 ∧
      ((Transducer.run (LineState.observeEvent options) reduced events).1 = LineState.afterGap ∨
        (Transducer.run (LineState.observeEvent options) reduced events).1 =
          (full.run options bytes).1) := by
  induction conveys generalizing full reduced with
  | nil => exact ⟨List.nil_sublist _, behind⟩
  | chunk chunk _ ih =>
      rw [Transducer.run_cons, LineState.run_append]
      rcases behind with rfl | rfl
      · obtain ⟨sublist, meets⟩ := @run_afterGap_sublist options full chunk.bytes
        obtain ⟨later, ends⟩ := ih _ _ meets
        exact ⟨sublist.append later, ends⟩
      · obtain ⟨later, ends⟩ := ih _ _ (.inr rfl)
        exact ⟨(List.Sublist.refl _).append later, ends⟩
  | gap lost _ ih =>
      rw [Transducer.run_cons, LineState.run_append]
      obtain ⟨later, ends⟩ := ih (full.run options lost).1 _ (.inl rfl)
      exact ⟨later.trans (List.sublist_append_right _ _), ends⟩

/-- **The lines over the events are lines of the text.** -/
theorem eventLines_sublist (conveys : Conveys events bytes)
    (limited : 0 < options.maxLineLength.bytes) :
    (eventLines options events).Sublist (textLines options bytes) := by
  obtain ⟨sublist, ends⟩ := @run_sublist options _ _ conveys .fresh .fresh (.inr rfl)
  rw [textLines_eq limited]
  refine List.Sublist.map _ (sublist.append ?_)
  rcases ends with discards | meets
  · rw [discards]
    exact List.nil_sublist _
  · rw [meets]

/-- **Without a gap they are all of them.** -/
theorem eventLines_eq (conveys : Conveys events bytes) (complete : .gap ∉ events)
    (limited : 0 < options.maxLineLength.bytes) :
    eventLines options events = textLines options bytes := by
  rw [textLines_eq limited, eventLines, conveys.run_eq complete]

end Conveys

/-! ## Where texts come from -/

/-- A chunk has the bytes it accounts for. -/
theorem stretch_of_covers {source : List UInt8} {chunk : Chunk} {first last : Nat}
    (covers : Covers source (.chunk chunk) first last) :
    stretch source first last = chunk.bytes := by
  obtain ⟨_, same, rfl, rfl⟩ := covers
  rw [stretch, Chunk.endOffset, Nat.add_sub_cancel_left, same]

/-- Chunks convey their bytes. -/
theorem conveys_of_chunks {events : List StreamEvent}
    (chunks : ∀ event ∈ events, event.isChunk = true) : Conveys events (allBytes events) := by
  induction events with
  | nil => exact .nil
  | cons event events ih =>
      obtain ⟨here, later⟩ := List.forall_mem_cons.mp chunks
      obtain ⟨chunk, rfl⟩ := StreamEvent.exists_chunk here
      exact .chunk chunk (ih later)

/-- Events that account for a stretch of the source convey it. -/
theorem conveys_of_covers {source : List UInt8} {first last : Nat} {events : List StreamEvent}
    (tiles : Tiles (Covers source) first events last)
    (running : ∀ event ∈ events, event.isTerminal = false) :
    Conveys events (stretch source first last) := by
  induction tiles with
  | nil =>
      rw [stretch_self]
      exact .nil
  | @cons first middle last event events covers rest ih =>
      obtain ⟨here, later⟩ := List.forall_mem_cons.mp running
      rw [stretch_split covers.le (rest.le Covers.le)]
      cases event with
      | chunk chunk =>
          rw [stretch_of_covers covers]
          exact .chunk chunk (ih later)
      | gap => exact .gap _ (ih later)
      | eof => cases here
      | readError error => cases here

/-- What was told of a history conveys its bytes. -/
theorem conveys_of_reports {history : List StreamEvent} {first last : Nat}
    {items : List StreamEvent} (tiles : Tiles (Reports history) first items last)
    (running : ∀ item ∈ items, item.isTerminal = false) :
    Conveys items (allBytes (stretch history first last)) := by
  induction tiles with
  | nil =>
      rw [stretch_self]
      exact .nil
  | @cons first middle last item items reports rest ih =>
      obtain ⟨here, later⟩ := List.forall_mem_cons.mp running
      rw [stretch_split reports.le (rest.le Reports.le), allBytes_append]
      cases reports with
      | event notGap stored =>
          rw [stretch_succ stored]
          cases item with
          | chunk chunk =>
              rw [allBytes_cons_chunk, List.append_assoc]
              exact .chunk chunk (ih later)
          | gap => exact absurd rfl notGap
          | eof => cases here
          | readError error => cases here
      | gap _ _ => exact .gap _ (ih later)

/-! ## Relaying a text -/

/-- The answers of `next_event`: the events it has yielded, and then perhaps `None`. -/
def answersOf (events : List StreamEvent) (ended : Bool) : List (Option StreamEvent) :=
  events.map some ++ if ended then [none] else []

/-- The lines a `CollectLines` visitor gathers that keeps every line, as `collectedLines` has them, but
over the answers of `next_event`, among which may be a `None`. -/
def answeredLines (alloc : Allocator) (options : LineParsingOptions)
    (answers : List (Option StreamEvent)) :
    Checked (Option (Except StreamReadError (List String))) := do
  let adapter ← ParseLines.new options []
  consumeSync (parseLines alloc (collectLines keepText)) adapter (answers.map .nextEvent)

/-- What was yielded before a terminal event conveys the beginning of the text, and all of it if the
stream has closed there. -/
def Relays (events : List StreamEvent) (ended : Bool) (text : List UInt8) : Prop :=
  ∀ front rest, events = front ++ rest → (∀ event ∈ front, event.isTerminal = false) →
    ∃ told more, text = told ++ more ∧ Conveys front told ∧
      (∀ behind, rest = .eof :: behind → more = []) ∧ (rest = [] → ended = true → more = [])

theorem cut_answersOf {events front : List StreamEvent} {ended : Bool}
    {rest : List (Option StreamEvent)} (cut : answersOf events ended = front.map some ++ rest) :
    ∃ behind, events = front ++ behind ∧ rest = answersOf behind ended := by
  induction front generalizing events with
  | nil => exact ⟨events, rfl, cut.symm⟩
  | cons event front ih =>
      cases events with
      | nil => cases ended <;> cases cut
      | cons first events =>
          obtain ⟨same, later⟩ := List.cons.inj cut
          cases same
          obtain ⟨behind, rfl, rest⟩ := ih later
          exact ⟨behind, rfl, rest⟩

section Relays

variable {events : List StreamEvent} {ended : Bool} {answers : List (Option StreamEvent)}
  {text : List UInt8} (alloc : Allocator)

/-- What a consumer has read conveys the beginning of the text, and all of it when the stream has
closed. -/
theorem Relays.exists_told (relays : Relays events ended text) :
    ∃ told more, text = told ++ more ∧ Conveys (beforeEnd (answersOf events ended)) told ∧
      (streamEnd (answersOf events ended) = some .closed → more = []) := by
  obtain ⟨rest, cut, ends⟩ := exists_end (answersOf events ended)
  obtain ⟨behind, split, rfl⟩ := cut_answersOf cut
  obtain ⟨told, more, text, conveys, atEof, atNone⟩ := relays _ behind split beforeEnd_running
  refine ⟨told, more, text, conveys, fun closed => ?_⟩
  rw [closed] at ends
  cases behind with
  | nil =>
      cases ended with
      | true => exact atNone rfl rfl
      | false => cases ends
  | cons event behind =>
      cases event with
      | eof => exact atEof behind rfl
      | chunk chunk => cases ends
      | gap => cases ends
      | readError error => cases ends

theorem mem_of_beforeEnd {event : StreamEvent} (member : event ∈ beforeEnd (answersOf events ended)) :
    event ∈ events := by
  obtain ⟨rest, cut, _⟩ := exists_end (answersOf events ended)
  obtain ⟨behind, split, _⟩ := cut_answersOf cut
  rw [split]
  exact List.mem_append_left _ member

theorem consumedLines_of_closed (closed : streamEnd answers = some .closed) :
    consumedLines options answers = eventLines options (beforeEnd answers) := by
  rw [consumedLines, closed, countedLines, ← List.map_append]
  rfl

theorem consumedLines_of_not_closed (open_ : streamEnd answers ≠ some .closed) :
    consumedLines options answers =
      (Transducer.run (LineState.observeEvent options) .fresh (beforeEnd answers)).2.map
        decodeLineLossy := by
  rw [consumedLines]
  cases ending : streamEnd answers with
  | none => rfl
  | some ended =>
      cases ended with
      | closed => exact absurd ending open_
      | failed error => rfl

/-- **A consumer sees lines of the text.** -/
theorem Relays.consumedLines_sublist (relays : Relays events ended text)
    (limited : 0 < options.maxLineLength.bytes) :
    (consumedLines options (answersOf events ended)).Sublist (textLines options text) := by
  obtain ⟨told, more, rfl, conveys, whole⟩ := relays.exists_told
  by_cases closed : streamEnd (answersOf events ended) = some .closed
  · rw [consumedLines_of_closed closed, whole closed, List.append_nil]
    exact conveys.eventLines_sublist limited
  · rw [consumedLines_of_not_closed closed]
    have sublist := (@Conveys.run_sublist options _ _ conveys .fresh .fresh (.inr rfl)).1
    exact (sublist.map _).trans (completedLines_begin limited told more).sublist

/-- Without a gap, the lines of a stream that has closed are all of them. -/
theorem Relays.consumedLines_eq (relays : Relays events ended text)
    (limited : 0 < options.maxLineLength.bytes) (complete : .gap ∉ events)
    (closed : streamEnd (answersOf events ended) = some .closed) :
    consumedLines options (answersOf events ended) = textLines options text := by
  obtain ⟨told, more, rfl, conveys, whole⟩ := relays.exists_told
  rw [consumedLines_of_closed closed, whole closed, List.append_nil]
  exact conveys.eventLines_eq (fun gap => complete (mem_of_beforeEnd gap)) limited

/-- Without a gap, the lines of a stream that has not closed are those completed in what was
yielded. -/
theorem Relays.consumedLines_completed (relays : Relays events ended text)
    (complete : .gap ∉ events) (open_ : streamEnd (answersOf events ended) ≠ some .closed) :
    consumedLines options (answersOf events ended) =
      completedLines options (allBytes (beforeEnd (answersOf events ended))) := by
  obtain ⟨told, more, rfl, conveys, _⟩ := relays.exists_told
  have missing : .gap ∉ beforeEnd (answersOf events ended) := fun gap => complete (mem_of_beforeEnd gap)
  rw [consumedLines_of_not_closed open_, conveys.run_eq missing, completedLines,
    conveys.bytes_eq missing]

/-- Lines are returned only by a collector with a limit. -/
theorem limited_of_returned {lines : List String}
    (returned : answeredLines alloc options answers = .ok (some (.ok lines))) :
    0 < options.maxLineLength.bytes := by
  by_contra unlimited
  unfold answeredLines ParseLines.new assertMaxLineLengthNonZero at returned
  rw [if_neg unlimited] at returned
  cases returned

/-- A visitor that never stops has an output only when the stream has closed. -/
theorem visitedResult_goOn {Output : Type} {output result : Output} {ending : Option StreamEnd}
    (visited : visitedResult output .goOn ending = some (.ok result)) :
    ending = some .closed ∧ result = output := by
  cases ending with
  | none => cases visited
  | some ended =>
      cases ended with
      | closed =>
          cases visited
          exact ⟨rfl, rfl⟩
      | failed error => cases visited

/-- **A collector that returns has lines of the text**, and all of them when no gap was yielded. -/
theorem Relays.answeredLines (relays : Relays events ended text) {lines : List String}
    (returned : Line.answeredLines alloc options (answersOf events ended) = .ok (some (.ok lines))) :
    lines.Sublist (textLines options text) ∧
      (.gap ∉ events → lines = textLines options text) := by
  have limited := limited_of_returned alloc returned
  rw [Line.answeredLines, ParseLines.new_eq limited, checked_ok_bind,
    consumeSync_lines alloc (show (collectLines keepText).onEof = id from rfl) rfl,
    visitText_keepText, Except.ok.injEq] at returned
  obtain ⟨closed, rfl⟩ := visitedResult_goOn returned
  exact ⟨relays.consumedLines_sublist limited, fun complete =>
    relays.consumedLines_eq limited complete closed⟩

/-- What an answer of `wait_for_line` says about a text. A match is a line of the text. At the end of
the stream no line of it was accepted, if nothing is missing; before the end, at a timeout or at a
read error, no line that was completed by then. -/
def Justified (options : LineParsingOptions) (predicate : String → Bool) (text : List UInt8)
    (lossless : Prop) (answers : List (Option StreamEvent)) :
    Option (Except StreamReadError WaitForLineResult) → Prop
  | some (.ok .matched) => ∃ line ∈ textLines options text, predicate line = true
  | some (.ok .streamClosed) => lossless →
      ∀ line ∈ textLines options text, predicate line = false
  | some (.ok .timeout) | some (.error _) | none => lossless →
      ∀ line ∈ completedLines options (allBytes (beforeEnd answers)), predicate line = false

/-- **Every answer of a waiter is justified by the text**, and it does not panic. -/
theorem Relays.waitForLine (relays : Relays events ended text)
    (limited : 0 < options.maxLineLength.bytes) (predicate : String → Bool) (elapsed : Bool)
    {lossless : Prop} (complete : lossless → .gap ∉ events) :
    ∃ answer, Line.waitForLine alloc options predicate (answersOf events ended) elapsed = .ok answer ∧
      Justified options predicate text lossless (answersOf events ended) answer := by
  have consumed := consumeSync_lines alloc
    (show (WaitForLine.visitor predicate).onEof = id from rfl) rfl options {} (answersOf events ended)
  have output : (WaitForLine.visitor predicate).intoOutput
      (({} : WaitForLine).after predicate (consumedLines options (answersOf events ended))) =
        (consumedLines options (answersOf events ended)).any predicate := Bool.false_or _
  rw [visitText_waitForLine, output] at consumed
  refine ⟨_, by rw [Line.waitForLine, ParseLines.new_eq limited, checked_ok_bind, consumed]; rfl, ?_⟩
  cases found : (consumedLines options (answersOf events ended)).any predicate with
  | true =>
      obtain ⟨line, member, accepted⟩ := List.any_eq_true.mp found
      exact ⟨line, (relays.consumedLines_sublist limited).subset member, accepted⟩
  | false =>
      have rejected : ∀ line ∈ consumedLines options (answersOf events ended), predicate line = false := by
        simpa using List.any_eq_false.mp found
      have before (open_ : streamEnd (answersOf events ended) ≠ some .closed) : lossless →
          ∀ line ∈ completedLines options (allBytes (beforeEnd (answersOf events ended))),
            predicate line = false := by
        intro whole
        rw [← relays.consumedLines_completed (complete whole) open_]
        exact rejected
      cases ending : streamEnd (answersOf events ended) with
      | none =>
          have none := before fun closed => by cases ending.symm.trans closed
          cases elapsed <;> exact none
      | some ended =>
          cases ended with
          | failed error => exact before fun closed => by cases ending.symm.trans closed
          | closed =>
              intro whole
              rw [← relays.consumedLines_eq limited (complete whole) ending]
              exact rejected

end Relays

end TokioProcessTools.OutputStream.Line
