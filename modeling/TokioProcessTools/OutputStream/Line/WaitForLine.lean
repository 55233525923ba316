import TokioProcessTools.OutputStream.Line.Visiting

/-!
# Waiting for a line

`wait_for_line` drives a visitor that applies a predicate to every line, stops
at the first one it accepts and remembers whether it has matched.

`waitForLine_decides` says what comes out. The lines that count are those of the
parser before the end, and the flushed one if the stream closed. A match among
them wins; without one, the end decides.
-/

set_option autoImplicit false

namespace TokioProcessTools.OutputStream.Line

open Foundation

/-- `WaitForLine`, with the lines the predicate was applied to. -/
structure WaitForLine where
  matched : Bool := false
  asked : List String := []
  deriving DecidableEq, Repr

/-- `impl LineVisitor for WaitForLine`. -/
def WaitForLine.visitor (predicate : String → Bool) : LineVisitor WaitForLine Bool where
  onLine := fun sink line =>
    let asked := sink.asked ++ [line]
    if predicate line then ({ matched := true, asked }, .stop) else ({ sink with asked }, .goOn)
  intoOutput := WaitForLine.matched

/-- `WaitForLineResult`. -/
inductive WaitForLineResult where
  | matched
  | streamClosed
  | timeout
  deriving DecidableEq, Repr

/-- The `match` at the end of `wait_for_line`, on what the consumer answers before the timeout. -/
def waitForLineResult (elapsed : Bool) :
    Option (Except StreamReadError Bool) → Option (Except StreamReadError WaitForLineResult)
  | some (.ok true) => some (.ok .matched)
  | some (.ok false) => some (.ok .streamClosed)
  | some (.error error) => some (.error error)
  | none => if elapsed then some (.ok .timeout) else none

section Waiting

variable (alloc : Allocator) (options : LineParsingOptions) (predicate : String → Bool)

/-- `wait_for_line`: the answers of `next_event`, and whether the timeout elapses while the consumer
waits for the next one. The termination signal is never sent. -/
def waitForLine (answers : List (Option StreamEvent)) (elapsed : Bool) :
    Checked (Option (Except StreamReadError WaitForLineResult)) := do
  let adapter ← ParseLines.new options ({} : WaitForLine)
  let consumed ← consumeSync (parseLines alloc (WaitForLine.visitor predicate)) adapter
    (answers.map .nextEvent)
  .ok (waitForLineResult elapsed consumed)

/-- The lines `wait_for_line` applies its predicate to. -/
def askedLines (answers : List (Option StreamEvent)) : Checked (List String) := do
  let adapter ← ParseLines.new options ({} : WaitForLine)
  let (adapter, _) ← consumeLoop (parseLines alloc (WaitForLine.visitor predicate)) adapter
    (answers.map .nextEvent)
  .ok adapter.inner.asked

end Waiting

/-! ## Statement -/

/-- The result without a match. Before the end there is none. -/
def unmatchedResult : Option StreamEnd → Option (Except StreamReadError WaitForLineResult)
  | some .closed => some (.ok .streamClosed)
  | some (.failed error) => some (.error error)
  | none => none

/-- The lines up to and including the first one the predicate accepts. -/
def upToFirst (predicate : String → Bool) : List String → List String
  | [] => []
  | line :: rest => if predicate line then [line] else line :: upToFirst predicate rest

/-! ## The visitor over lines -/

section Deciding

variable {predicate : String → Bool}

theorem upToFirst_append_of_any {lines : List String} (found : lines.any predicate = true)
    (more : List String) : upToFirst predicate (lines ++ more) = upToFirst predicate lines := by
  induction lines with
  | nil => cases found
  | cons line rest ih =>
      rw [List.any_cons] at found
      cases accepted : predicate line with
      | true => simp [upToFirst, accepted]
      | false =>
          rw [accepted, Bool.false_or] at found
          simp [upToFirst, accepted, ih found]

theorem upToFirst_append_of_not_any {lines : List String} (missing : lines.any predicate = false)
    (more : List String) :
    upToFirst predicate (lines ++ more) = lines ++ upToFirst predicate more := by
  induction lines with
  | nil => rfl
  | cons line rest ih =>
      rw [List.any_cons, Bool.or_eq_false_iff] at missing
      simp [upToFirst, missing.1, ih missing.2]

theorem upToFirst_of_not_any {lines : List String} (missing : lines.any predicate = false) :
    upToFirst predicate lines = lines := by
  have whole := upToFirst_append_of_not_any missing []
  simpa [upToFirst] using whole

/-- The sink behind some lines. -/
def WaitForLine.after (predicate : String → Bool) (sink : WaitForLine) (lines : List String) :
    WaitForLine :=
  ⟨sink.matched || lines.any predicate, sink.asked ++ upToFirst predicate lines⟩

theorem WaitForLine.after_nil (sink : WaitForLine) : sink.after predicate [] = sink := by
  simp [after, upToFirst]

/-- Lines without a match are asked about one after another. -/
theorem WaitForLine.after_append (sink : WaitForLine) {lines : List String}
    (missing : lines.any predicate = false) (more : List String) :
    sink.after predicate (lines ++ more) = (sink.after predicate lines).after predicate more := by
  simp [after, upToFirst_append_of_not_any missing, upToFirst_of_not_any missing, missing]

/-- Behind a match no line is asked about. -/
theorem WaitForLine.after_append_of_any (sink : WaitForLine) {lines : List String}
    (found : lines.any predicate = true) (more : List String) :
    sink.after predicate (lines ++ more) = sink.after predicate lines := by
  simp [after, upToFirst_append_of_any found, found]

theorem onLine_waitForLine (sink : WaitForLine) (line : String) :
    (WaitForLine.visitor predicate).onLine sink line =
      (sink.after predicate [line], if predicate line then .stop else .goOn) := by
  cases accepted : predicate line <;>
    simp [WaitForLine.visitor, WaitForLine.after, upToFirst, accepted]

/-- **The visitor stops exactly at the first line the predicate accepts.** -/
theorem visitText_waitForLine (sink : WaitForLine) (lines : List String) :
    (WaitForLine.visitor predicate).visitText sink lines =
      (sink.after predicate lines, if lines.any predicate then .stop else .goOn) := by
  induction lines generalizing sink with
  | nil => simp [LineVisitor.visitText, WaitForLine.after_nil]
  | cons line rest ih =>
      rw [LineVisitor.visitText, onLine_waitForLine]
      cases accepted : predicate line with
      | true =>
          have found : [line].any predicate = true := by simp [accepted]
          have same := sink.after_append_of_any found rest
          simp only [if_true, List.any_cons, accepted, Bool.true_or]
          exact congrArg (fun sink => (sink, Next.stop)) same.symm
      | false =>
          have missing : [line].any predicate = false := by simp [accepted]
          have split := sink.after_append missing rest
          simp only [Bool.false_eq_true, if_false, List.any_cons, accepted, Bool.false_or]
          rw [ih, ← split, List.singleton_append]

end Deciding

/-- What `wait_for_line` makes of the result of the task, given whether a line has matched. -/
theorem waitForLineResult_visited (found : Bool) (ending : Option StreamEnd) :
    waitForLineResult false (visitedResult found (if found then .stop else .goOn) ending) =
      if found then some (.ok .matched) else unmatchedResult ending := by
  cases found with
  | true => rfl
  | false =>
      cases ending with
      | none => rfl
      | some ending => cases ending <;> rfl

/-- **`wait_for_line` decides exactly by the parsed lines.** The parser, fed with the chunks and
gaps before the end, emits the lines `before` and flushes at most one more. Without a timeout the
result is `Matched` if the predicate accepts a line that counts, and what the end of the stream
says otherwise. The predicate is applied to these lines in order, up to and including the first it
accepts. -/
theorem waitForLine_decides (alloc : Allocator) {options : LineParsingOptions}
    (limited : 0 < options.maxLineLength.bytes) (predicate : String → Bool)
    (answers : List (Option StreamEvent)) :
    ∃ parser lines, LineParser.new.feed alloc options (inputsBeforeEnd answers) =
        .ok (parser, lines) ∧
      let before := lines.map decodeLineLossy
      let flushed := parser.finish.2.toList.map decodeLineLossy
      let counted := countedLines before flushed (streamEnd answers)
      waitForLine alloc options predicate answers false =
          .ok (if counted.any predicate then some (.ok .matched)
            else unmatchedResult (streamEnd answers)) ∧
        askedLines alloc options predicate answers = .ok (upToFirst predicate counted) := by
  obtain ⟨parser, lines, fed, consumed, adapter, ending, looped, inner⟩ := consume_parseLines alloc
    (show (WaitForLine.visitor predicate).onEof = id from rfl) rfl options {} answers
  rw [visitText_waitForLine] at consumed inner
  refine ⟨parser, lines, fed, ?_, ?_⟩
  · rw [waitForLine, ParseLines.new_eq limited, checked_ok_bind, consumed, checked_ok_bind]
    exact congrArg Except.ok (waitForLineResult_visited _ _)
  · rw [askedLines, ParseLines.new_eq limited, checked_ok_bind, looped, checked_ok_bind]
    exact congrArg (fun sink => Except.ok (WaitForLine.asked sink)) inner

/-- A match inside a chunk wins over the read error behind it, and the third line is not looked
at. -/
theorem waitForLine_decides_before_error :
    let answers := [some (.chunk ⟨[97, 10, 98, 10, 99, 10, 100], 0⟩),
      some (.readError ⟨"stdout", ⟨11, "broken pipe"⟩⟩)]
    0 < ({} : LineParsingOptions).maxLineLength.bytes ∧
    ∃ parser lines, LineParser.new.feed exactAllocator {} (inputsBeforeEnd answers) =
        .ok (parser, lines) ∧
      let before := lines.map decodeLineLossy
      let flushed := parser.finish.2.toList.map decodeLineLossy
      let counted := countedLines before flushed (streamEnd answers)
      waitForLine exactAllocator {} (· = "b") answers false =
          .ok (if counted.any (· = "b") then some (.ok .matched)
            else unmatchedResult (streamEnd answers)) ∧
        askedLines exactAllocator {} (· = "b") answers = .ok (upToFirst (· = "b") counted) :=
  ⟨by decide, waitForLine_decides exactAllocator (by decide) (· = "b") _⟩

end TokioProcessTools.OutputStream.Line
