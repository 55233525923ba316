import TokioProcessTools.OutputStream.Line.Adapter
import TokioProcessTools.OutputStream.Line.ReferenceSplitter

/-!
# A line visitor over a whole stream

Three layers share the decision to stop. The driver loop leaves at the end of
the stream, at a read error or when a chunk stops it. The adapter stops inside a
chunk, but ignores what the visitor says about the line flushed at the end of
the stream. The visitor says for every line whether it wants to go on.

The lines that count are those of the parser before the end, and the flushed one
if the stream closed. The visitor sees them in order until it stops, and the
loop ends where it stopped or where the stream did (`consumeLoop_parseLines`).
A visitor that stops at the flushed line ends the loop no earlier than the
stream, so what the adapter ignores makes no difference.
-/

set_option autoImplicit false

namespace TokioProcessTools.OutputStream.Line

open Foundation

/-! ## The end of a stream -/

/-- The chunks and gaps before the stream ends. -/
def inputsBeforeEnd : List (Option StreamEvent) → List Input
  | some (.chunk chunk) :: rest => .chunk chunk.bytes :: inputsBeforeEnd rest
  | some .gap :: rest => .gap :: inputsBeforeEnd rest
  | some .eof :: _ | some (.readError _) :: _ | none :: _ | [] => []

/-- How a stream ends for its consumer. -/
inductive StreamEnd where
  /-- With `Eof`, or with `None`. -/
  | closed
  | failed (error : StreamReadError)
  deriving DecidableEq, Repr

/-- The first end among the answers of `next_event`, if there is one. -/
def streamEnd : List (Option StreamEvent) → Option StreamEnd
  | some (.chunk _) :: rest | some .gap :: rest => streamEnd rest
  | some .eof :: _ | none :: _ => some .closed
  | some (.readError error) :: _ => some (.failed error)
  | [] => none

/-- The lines that count: the one flushed at the end only if the stream closed. -/
def countedLines (before flushed : List String) : Option StreamEnd → List String
  | some .closed => before ++ flushed
  | some (.failed _) | none => before

theorem countedLines_append (first before flushed : List String) (ending : Option StreamEnd) :
    countedLines (first ++ before) flushed ending = first ++ countedLines before flushed ending := by
  cases ending with
  | none => rfl
  | some ending =>
      cases ending with
      | closed => exact List.append_assoc _ _ _
      | failed error => rfl

/-- How the loop of the driver ends: at a match, or with the stream. -/
def loopEnd (matched : Bool) (ending : Option StreamEnd) : LoopEnd :=
  if matched then .left
  else
    match ending with
    | some .closed => .left
    | some (.failed error) => .failed error
    | none => .waiting

@[simp] theorem loopEnd_closed (matched : Bool) : loopEnd matched (some .closed) = .left := by
  cases matched <;> rfl

/-- The result of the task, given the output of the visitor and its last answer. -/
def visitedResult {Output : Type} (output : Output) :
    Next → Option StreamEnd → Option (Except StreamReadError Output)
  | .stop, _ | .goOn, some .closed => some (.ok output)
  | .goOn, some (.failed error) => some (.error error)
  | .goOn, none => none

theorem loopEnd_result {V Output : Type} (visitor : StreamVisitor V Output) (state : V)
    (next : Next) (ending : Option StreamEnd) :
    (loopEnd (decide (next = .stop)) ending).result visitor state =
      visitedResult (visitor.intoOutput state) next ending := by
  cases next with
  | stop => rfl
  | goOn =>
      cases ending with
      | none => rfl
      | some ending => cases ending <;> rfl

/-! ## The visitor over lines -/

section Visiting

variable {S Output : Type} (alloc : Allocator) {options : LineParsingOptions}
  (visitor : LineVisitor S Output)

/-- Hand decoded lines to the visitor until it stops. -/
def LineVisitor.visitText (sink : S) : List String → S × Next
  | [] => (sink, .goOn)
  | line :: rest =>
      match visitor.onLine sink line with
      | (sink, .stop) => (sink, .stop)
      | (sink, .goOn) => LineVisitor.visitText sink rest

theorem visitLines_onLineBytes (sink : S) (lines : List LineBytes) :
    LineParser.visitLines visitor.onLineBytes sink lines =
      visitor.visitText sink (lines.map decodeLineLossy) := by
  induction lines generalizing sink with
  | nil => rfl
  | cons line rest ih =>
      rw [LineParser.visitLines, List.map_cons, LineVisitor.visitText, LineVisitor.onLineBytes]
      cases visitor.onLine sink (decodeLineLossy line) with
      | mk later next =>
          cases next with
          | stop => rfl
          | goOn => exact ih later

/-- A visitor that stops does not see the lines behind. -/
theorem visitText_append_of_stop {sink : S} {lines : List String}
    (stopped : (visitor.visitText sink lines).2 = .stop) (more : List String) :
    visitor.visitText sink (lines ++ more) = visitor.visitText sink lines := by
  induction lines generalizing sink with
  | nil => cases stopped
  | cons line rest ih =>
      rw [LineVisitor.visitText] at stopped
      rw [List.cons_append, LineVisitor.visitText, LineVisitor.visitText]
      split at stopped
      · rfl
      · exact ih stopped

/-- A visitor that goes on sees them with the sink it has by then. -/
theorem visitText_append_of_goOn {sink : S} {lines : List String}
    (goesOn : (visitor.visitText sink lines).2 = .goOn) (more : List String) :
    visitor.visitText sink (lines ++ more) =
      visitor.visitText (visitor.visitText sink lines).1 more := by
  induction lines generalizing sink with
  | nil => rfl
  | cons line rest ih =>
      rw [LineVisitor.visitText] at goesOn
      rw [List.cons_append, LineVisitor.visitText, LineVisitor.visitText]
      split at goesOn
      · cases goesOn
      · exact ih goesOn

/-! ## The adapter over events -/

/-- A chunk shows its lines to the visitor until it stops. -/
theorem onChunk_visitText {parser : LineParser} (sink : S) (chunk : Chunk)
    (within : parser.state.WithinLimit options) :
    let visited := visitor.visitText sink ((parser.state.run options chunk.bytes).2.map decodeLineLossy)
    ∃ next, (parseLines alloc visitor).onChunk ⟨parser, options, sink⟩ chunk =
        .ok (⟨next, options, visited.1⟩, visited.2) ∧
      (visited.2 = .goOn → next.state = (parser.state.run options chunk.bytes).1) := by
  obtain ⟨next, looped, _, ends⟩ :=
    LineParser.forEachLine_eq alloc visitor.onLineBytes chunk.bytes sink within
  rw [visitLines_onLineBytes] at looped ends
  refine ⟨next, ?_, ends⟩
  simp only [parseLines, looped, checked_ok_bind]

section Hooks

variable {visitor} (quietEof : visitor.onEof = id)

include quietEof

/-- The end of the stream shows the flushed line to the visitor, whatever it says to it. -/
theorem onEof_visitText (options : LineParsingOptions) (parser : LineParser) (sink : S) :
    ∃ adapter, (parseLines alloc visitor).onEof ⟨parser, options, sink⟩ = .ok adapter ∧
      adapter.inner = (visitor.visitText sink (parser.state.flush.map decodeLineLossy)).1 := by
  rw [← LineParser.finish_eq_flush]
  cases finished : parser.finish with
  | mk parser line =>
      cases line with
      | none =>
          refine ⟨_, by simp only [parseLines, finished]; rfl, ?_⟩
          simp [quietEof, LineVisitor.visitText]
      | some line =>
          refine ⟨_, by simp only [parseLines, finished]; rfl, ?_⟩
          simp only [quietEof, id_eq, LineVisitor.onLineBytes, Option.toList_some, List.map_cons,
            List.map_nil, LineVisitor.visitText]
          cases visited : visitor.onLine sink (decodeLineLossy line) with
          | mk later next => cases next <;> rfl

/-- **The driver loop over the answers of `next_event`.** The lines before the end and the flushed
one are those of the byte machine. -/
theorem consumeLoop_parseLines (quietGap : visitor.onGap = id) {parser : LineParser} (sink : S)
    (answers : List (Option StreamEvent)) (within : parser.state.WithinLimit options) :
    let read := Transducer.run (LineState.observe options) parser.state (inputsBeforeEnd answers)
    let before := read.2.map decodeLineLossy
    let counted := countedLines before (read.1.flush.map decodeLineLossy) (streamEnd answers)
    ∃ adapter, consumeLoop (parseLines alloc visitor) ⟨parser, options, sink⟩
          (answers.map .nextEvent) =
        .ok (adapter, loopEnd (decide ((visitor.visitText sink counted).2 = .stop))
          (streamEnd answers)) ∧
      adapter.inner = (visitor.visitText sink counted).1 := by
  fun_induction streamEnd answers generalizing parser sink with
  | case1 chunk rest ih =>
      obtain ⟨next, visited, ends⟩ := onChunk_visitText alloc visitor sink chunk within
      simp only [inputsBeforeEnd, Transducer.run_cons, List.map_cons, consumeLoop, visited,
        checked_ok_bind, LineState.observe, List.map_append, countedLines_append]
      cases found : (visitor.visitText sink
          ((parser.state.run options chunk.bytes).2.map decodeLineLossy)).2 with
      | stop =>
          rw [visitText_append_of_stop visitor found, found]
          exact ⟨⟨next, options, _⟩, rfl, rfl⟩
      | goOn =>
          obtain ⟨adapter, looped, inner⟩ := @ih next _ (ends found ▸ within.run chunk.bytes)
          rw [ends found] at looped inner
          rw [visitText_append_of_goOn visitor found]
          exact ⟨adapter, looped, inner⟩
  | case2 rest ih =>
      have forgets : (parseLines alloc visitor).onGap ⟨parser, options, sink⟩ =
          ⟨parser.onGap, options, sink⟩ := by
        simp only [parseLines, quietGap, id_eq]
      rw [List.map_cons, consumeLoop, forgets]
      exact @ih parser.onGap sink (LineState.withinLimit_nil options _)
  | case3 rest =>
      obtain ⟨adapter, ended, inner⟩ := onEof_visitText alloc quietEof options parser sink
      refine ⟨adapter, ?_, inner⟩
      simp only [List.map_cons, consumeLoop, ended, checked_ok_bind, loopEnd_closed]
  | case4 rest =>
      obtain ⟨adapter, ended, inner⟩ := onEof_visitText alloc quietEof options parser sink
      refine ⟨adapter, ?_, inner⟩
      simp only [List.map_cons, consumeLoop, ended, checked_ok_bind, loopEnd_closed]
  | case5 error rest => exact ⟨⟨parser, options, sink⟩, rfl, rfl⟩
  | case6 => exact ⟨⟨parser, options, sink⟩, rfl, rfl⟩

/-- **A new adapter, told by the lines of a parser**: those it emits over the chunks and gaps
before the end, and the one it has left to flush. The visitor sees the lines that count until it
stops. -/
theorem consume_parseLines (quietGap : visitor.onGap = id) (options : LineParsingOptions) (sink : S)
    (answers : List (Option StreamEvent)) :
    ∃ parser lines, LineParser.new.feed alloc options (inputsBeforeEnd answers) =
        .ok (parser, lines) ∧
      let counted := countedLines (lines.map decodeLineLossy)
        (parser.finish.2.toList.map decodeLineLossy) (streamEnd answers)
      let visited := visitor.visitText sink counted
      consumeSync (parseLines alloc visitor) ⟨.new, options, sink⟩ (answers.map .nextEvent) =
          .ok (visitedResult (visitor.intoOutput visited.1) visited.2 (streamEnd answers)) ∧
        ∃ adapter ending, consumeLoop (parseLines alloc visitor) ⟨.new, options, sink⟩
            (answers.map .nextEvent) = .ok (adapter, ending) ∧
          adapter.inner = visited.1 := by
  have fresh : LineParser.new.state.WithinLimit options := LineState.withinLimit_nil options _
  obtain ⟨parser, fed, final⟩ := LineParser.feed_eq alloc (inputsBeforeEnd answers) fresh
  obtain ⟨adapter, looped, inner⟩ :=
    consumeLoop_parseLines alloc quietEof quietGap sink answers fresh
  refine ⟨parser, _, fed, ?_⟩
  rw [LineParser.finish_eq_flush, final]
  refine ⟨?_, adapter, _, looped, inner⟩
  rw [consumeSync_eq, looped, ← inner]
  exact congrArg Except.ok (loopEnd_result _ adapter _ _)

end Hooks

end Visiting

/-! ## A visitor that keeps every line -/

theorem visitText_keepText (kept lines : List String) :
    (collectLines keepText).visitText kept lines = (kept ++ lines, .goOn) := by
  induction lines generalizing kept with
  | nil => simp [LineVisitor.visitText]
  | cons line rest ih => exact (ih (kept ++ [line])).trans (by simp)

section Running

variable {options : LineParsingOptions} {events : List StreamEvent}
  (running : ∀ event ∈ events, event.isTerminal = false)

include running

theorem streamEnd_running : streamEnd ((events ++ [StreamEvent.eof]).map some) = some .closed := by
  induction events with
  | nil => rfl
  | cons event rest ih =>
      obtain ⟨here, later⟩ := List.forall_mem_cons.mp running
      cases event with
      | chunk chunk => exact ih later
      | gap => exact ih later
      | eof => cases here
      | readError error => cases here

/-- The machine over events that do not end the stream. -/
theorem run_observe_running (state : LineState) :
    Transducer.run (LineState.observe options) state
        (inputsBeforeEnd ((events ++ [StreamEvent.eof]).map some)) =
      Transducer.run (LineState.observeEvent options) state events := by
  induction events generalizing state with
  | nil => rfl
  | cons event rest ih =>
      obtain ⟨here, later⟩ := List.forall_mem_cons.mp running
      cases event with
      | chunk chunk =>
          rw [List.cons_append, List.map_cons, inputsBeforeEnd, Transducer.run_cons,
            Transducer.run_cons, ih later]
          rfl
      | gap =>
          rw [List.cons_append, List.map_cons, inputsBeforeEnd, Transducer.run_cons,
            Transducer.run_cons, ih later]
          rfl
      | eof => cases here
      | readError error => cases here

/-- **The lines of a run of events that ends with the stream** are those of the machine. -/
theorem collectedLines_eq (alloc : Allocator) (limited : 0 < options.maxLineLength.bytes) :
    collectedLines alloc options (events ++ [.eof]) =
      .ok (some (.ok
        (((Transducer.run (LineState.observeEvent options) .fresh events).2 ++
          (Transducer.run (LineState.observeEvent options) .fresh events).1.flush).map
            decodeLineLossy))) := by
  have fresh : LineParser.new.state.WithinLimit options := LineState.withinLimit_nil options _
  have answers : nextEvents (events ++ [.eof]) =
      ((events ++ [StreamEvent.eof]).map some).map Wake.nextEvent := (List.map_map ..).symm
  obtain ⟨adapter, looped, inner⟩ := consumeLoop_parseLines alloc
    (show (collectLines keepText).onEof = id from rfl) rfl [] _ fresh
  rw [streamEnd_running running, loopEnd_closed] at looped
  rw [visitText_keepText, streamEnd_running running, countedLines, run_observe_running running,
    ← List.map_append] at inner
  rw [collectedLines, ParseLines.new_eq limited, checked_ok_bind, answers, consumeSync_eq, looped]
  exact congrArg (fun lines => Except.ok (some (Except.ok lines))) inner

end Running

end TokioProcessTools.OutputStream.Line
