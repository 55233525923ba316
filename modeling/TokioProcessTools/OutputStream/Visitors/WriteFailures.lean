import TokioProcessTools.OutputStream.Visitors.Write

/-!
# Failures of the line writer

A failed write is shown to the error handler once, and the handler decides
whether the consumer goes on. Its decision is made inside the write of a line or
of a delimiter and has to end the loop over the lines of a chunk and the loop of
the driver; the line flushed at the end of the stream takes another way, where
nothing looks at what the visitor answers.

An oracle answers every write, and another one every call of the handler. Both
know what came before, so that every behaviour of a writer and a handler is that
of some oracles. The writes of a run are grouped by the line they belong to, and
`WritesHandled` says what the groups have to do with the parsed lines, the
oracles and the result. Every run meets it (`writtenLines_handled`).
-/

set_option autoImplicit false

namespace TokioProcessTools.OutputStream.Visitors

open Line Foundation

/-! ## Writes that are kept -/

/-- A write: what it is for, its bytes and how it ended. -/
structure Attempt where
  operation : SinkWriteOperation
  bytes : List UInt8
  outcome : Except IoError Unit

/-- The error a failed write is shown as. -/
def Attempt.error? (streamName : String) (attempt : Attempt) : Option SinkWriteError :=
  match attempt.outcome with
  | .ok () => none
  | .error source => some ⟨streamName, attempt.operation, attempt.bytes.length, source⟩

/-- The writes for one line: the line, and the delimiter if it was tried. -/
structure LineWrite where
  line : List UInt8
  outcome : Except IoError Unit
  delimiter : Option (Except IoError Unit)

/-- The writes in order. -/
def LineWrite.attempts (write : LineWrite) : List Attempt :=
  ⟨.line, write.line, write.outcome⟩ ::
    write.delimiter.toList.map fun outcome => ⟨.lineDelimiter, [newline], outcome⟩

section Oracles

variable (oracle : List (List UInt8) → List UInt8 → Except IoError Unit)
  (answer : List SinkWriteError → SinkWriteError → SinkWriteErrorAction)

/-- A writer that keeps the writes attempted on it, each answered by the oracle. -/
def oracleWrite : AsyncWrite (List (List UInt8)) where
  writeAll := fun writes bytes => (writes ++ [bytes], oracle writes bytes)

/-- A handler that keeps the errors it is called with. -/
def oracleHandler : SinkWriteErrorHandler (List SinkWriteError) where
  handle := fun handled error => (handled ++ [error], answer handled error)

/-- The handler has answered every call with `Continue`. -/
def Continued (handled : List SinkWriteError) : Prop :=
  ∀ before error, before ++ [error] <+: handled → answer before error = .goOn

/-- The last write is the one that failed with an error. -/
def EndsIn (streamName : String) (attempts : List Attempt) (error : SinkWriteError) : Prop :=
  ∃ earlier attempt, attempts = earlier ++ [attempt] ∧ attempt.error? streamName = some error

/-- The result of a consumer that nothing stopped. -/
def unstoppedResult (writes : List (List UInt8)) :
    Option StreamEnd →
      Option (Except StreamReadError (Except SinkWriteError (List (List UInt8))))
  | some .closed => some (.ok (.ok writes))
  | some (.failed error) => some (.error error)
  | none => none

/-- **The writes of a run**, given the lines that count, the end of the stream and what came
out. -/
structure WritesHandled (streamName : String) (mapper : String → List UInt8) (mode : LineWriteMode)
    (counted : List String) (ending : Option StreamEnd) (trace : List LineWrite)
    (sink : WriteLines (List (List UInt8)) (List SinkWriteError))
    (result : Option (Except StreamReadError (Except SinkWriteError (List (List UInt8))))) :
    Prop where
  /-- One group of writes a line, in order. -/
  inOrder : trace.map LineWrite.line <+: counted.map mapper
  /-- A line is followed by a delimiter if the mode asks for one and the line was written. -/
  delimited : ∀ write ∈ trace,
    write.delimiter.isSome = true ↔ mode = .appendLf ∧ write.outcome = .ok ()
  written : sink.writer = (trace.flatMap LineWrite.attempts).map Attempt.bytes
  answered : ∀ before attempt, before ++ [attempt] <+: trace.flatMap LineWrite.attempts →
    attempt.outcome = oracle (before.map Attempt.bytes) attempt.bytes
  /-- The handler is called once for each failed write. -/
  shown : sink.errorHandler =
    (trace.flatMap LineWrite.attempts).filterMap (Attempt.error? streamName)
  /-- Nothing is written behind a write whose error the handler answers with `Stop`. -/
  stopped : ∀ before error, before ++ [error] <+: sink.errorHandler →
    answer before error = .stop →
      before ++ [error] = sink.errorHandler ∧
        EndsIn streamName (trace.flatMap LineWrite.attempts) error ∧
        result = some (.ok (.error error))
  unstopped : Continued answer sink.errorHandler →
    trace.map LineWrite.line = counted.map mapper ∧
      result = unstoppedResult sink.writer ending

/-! ## One write -/

/-- What holds of the writes so far, of the calls of the handler and of the error the visitor has
kept. -/
structure Recorded (streamName : String) (attempts : List Attempt) (writes : List (List UInt8))
    (handled : List SinkWriteError) (error : Option SinkWriteError) : Prop where
  written : writes = attempts.map Attempt.bytes
  answered : ∀ before attempt, before ++ [attempt] <+: attempts →
    attempt.outcome = oracle (before.map Attempt.bytes) attempt.bytes
  shown : handled = attempts.filterMap (Attempt.error? streamName)
  continued : error = none → Continued answer handled
  stopped : ∀ kept, error = some kept →
    ∃ before, handled = before ++ [kept] ∧ Continued answer before ∧ answer before kept = .stop ∧
      EndsIn streamName attempts kept

end Oracles

section Recording

variable {oracle : List (List UInt8) → List UInt8 → Except IoError Unit}
  {answer : List SinkWriteError → SinkWriteError → SinkWriteErrorAction}
  {streamName : String}

/-- An entry of a longer list, with what is before it: the new one, or one of the list. -/
theorem concat_prefix_concat_cases {α : Type} {before list : List α} {entry last : α}
    (beginning : before ++ [entry] <+: list ++ [last]) :
    (before = list ∧ entry = last) ∨ before ++ [entry] <+: list := by
  rcases List.prefix_concat_iff.mp beginning with whole | earlier
  · obtain ⟨same, alone⟩ := List.append_inj' whole rfl
    exact .inl ⟨same, List.singleton_inj.mp alone⟩
  · exact .inr earlier

theorem Continued.append_singleton {handled : List SinkWriteError} {error : SinkWriteError}
    (continued : Continued answer handled) (goesOn : answer handled error = .goOn) :
    Continued answer (handled ++ [error]) := by
  intro before last beginning
  rcases concat_prefix_concat_cases beginning with ⟨rfl, rfl⟩ | earlier
  · exact goesOn
  · exact continued before last earlier

/-- A further write is answered by the oracle, which knows the ones before. -/
theorem answered_append_singleton {attempts : List Attempt} {attempt : Attempt}
    (answered : ∀ before attempt, before ++ [attempt] <+: attempts →
      attempt.outcome = oracle (before.map Attempt.bytes) attempt.bytes)
    (last : attempt.outcome = oracle (attempts.map Attempt.bytes) attempt.bytes) :
    ∀ before next, before ++ [next] <+: attempts ++ [attempt] →
      next.outcome = oracle (before.map Attempt.bytes) next.bytes := by
  intro before next beginning
  rcases concat_prefix_concat_cases beginning with ⟨rfl, rfl⟩ | earlier
  · exact last
  · exact answered before next earlier

/-- What `handle_write_result` can reply to the outcome of a write, with the error that is then
kept. -/
inductive Handled (outcome : Except IoError Unit) :
    Except SinkWriteError Bool → Option SinkWriteError → Prop
  | written (succeeded : outcome = .ok ()) : Handled outcome (.ok true) none
  | accepted (failed : outcome ≠ .ok ()) : Handled outcome (.ok false) none
  | stopped (failed : outcome ≠ .ok ()) (error : SinkWriteError) :
      Handled outcome (.error error) (some error)

/-- **One write and the handling of its result.** -/
theorem Recorded.attempt {attempts : List Attempt} {writes : List (List UInt8)}
    {handled : List SinkWriteError}
    (recorded : Recorded oracle answer streamName attempts writes handled none)
    (operation : SinkWriteOperation) (bytes : List UInt8) :
    let last : Attempt := ⟨operation, bytes, oracle writes bytes⟩
    ∃ handled' reply error,
      handleWriteResult (oracleHandler answer) streamName handled operation bytes.length
        (oracle writes bytes) = (handled', reply) ∧
      Handled (oracle writes bytes) reply error ∧
      Recorded oracle answer streamName (attempts ++ [last]) (writes ++ [bytes]) handled' error := by
  intro last
  have written : writes ++ [bytes] = (attempts ++ [last]).map Attempt.bytes := by
    simp [recorded.written, last]
  have answered := answered_append_singleton recorded.answered
    (show last.outcome = oracle (attempts.map Attempt.bytes) last.bytes by
      rw [← recorded.written])
  have continued := recorded.continued rfl
  cases outcome : oracle writes bytes with
  | ok =>
      have quiet : last.error? streamName = none := by simp only [Attempt.error?, last, outcome]
      have shown : handled = (attempts ++ [last]).filterMap (Attempt.error? streamName) := by
        simp [recorded.shown, quiet]
      exact ⟨handled, _, none, rfl, .written rfl, written, answered, shown, fun _ => continued,
        nofun⟩
  | error source =>
      have refused : Except.error source ≠ Except.ok () := nofun
      let error : SinkWriteError := ⟨streamName, operation, bytes.length, source⟩
      have failed : last.error? streamName = some error := by
        simp only [Attempt.error?, last, outcome, error]
      have shown : handled ++ [error] =
          (attempts ++ [last]).filterMap (Attempt.error? streamName) := by
        simp [recorded.shown, failed]
      cases decided : answer handled error with
      | goOn =>
          refine ⟨handled ++ [error], .ok false, none, ?_, .accepted refused, written, answered, shown,
            fun _ => continued.append_singleton decided, nofun⟩
          simp only [handleWriteResult, oracleHandler]
          rw [decided]
      | stop =>
          refine ⟨handled ++ [error], .error error, some error, ?_, .stopped refused error,
            written, answered, shown, nofun, ?_⟩
          · simp only [handleWriteResult, oracleHandler]
            rw [decided]
          · rintro _ ⟨⟩
            exact ⟨handled, rfl, continued, decided, attempts, last, rfl, failed⟩

/-! ## One line -/

/-- **The writes for one line.** -/
theorem Recorded.writeLine {attempts : List Attempt} {writes : List (List UInt8)}
    {handled : List SinkWriteError}
    (recorded : Recorded oracle answer streamName attempts writes handled none)
    (line : List UInt8) (mode : LineWriteMode) :
    ∃ (group : LineWrite) (writes' : List (List UInt8)) (handled' : List SinkWriteError)
      (error : Option SinkWriteError),
      Visitors.writeLine (oracleWrite oracle) (oracleHandler answer) streamName writes handled line
        mode = (writes', handled', error.elim (.ok ()) .error) ∧
      group.line = line ∧
      (group.delimiter.isSome = true ↔ mode = .appendLf ∧ group.outcome = .ok ()) ∧
      Recorded oracle answer streamName (attempts ++ group.attempts) writes' handled' error := by
  obtain ⟨handled₁, reply, error, handling, kind, recorded₁⟩ := recorded.attempt .line line
  simp only [Visitors.writeLine, oracleWrite, handling]
  cases kind with
  | stopped failed error =>
      exact ⟨⟨line, oracle writes line, none⟩, _, _, some error, rfl, rfl, by simp [failed],
        recorded₁⟩
  | accepted failed =>
      exact ⟨⟨line, oracle writes line, none⟩, _, _, none, rfl, rfl, by simp [failed], recorded₁⟩
  | written succeeded =>
      cases mode with
      | asIs =>
          exact ⟨⟨line, oracle writes line, none⟩, _, _, none, rfl, rfl, by simp, recorded₁⟩
      | appendLf =>
          obtain ⟨handled₂, reply₂, error₂, handling₂, kind₂, recorded₂⟩ :=
            recorded₁.attempt .lineDelimiter [newline]
          rw [List.append_assoc] at recorded₂
          refine ⟨⟨line, oracle writes line, some (oracle (writes ++ [line]) [newline])⟩, _, handled₂,
            error₂, ?_, rfl, by simp [succeeded], recorded₂⟩
          simp only [Bool.not_true, ne_eq, not_true, decide_false, Bool.or_self, Bool.false_eq_true,
            if_false]
          rw [show (1 : Nat) = [newline].length from rfl, handling₂]
          cases kind₂ <;> rfl

/-! ## The lines of a run -/

/-- **The visitor over lines.** It stops exactly if it has kept an error; without one it has seen
every line. -/
theorem Recorded.visitText {attempts : List Attempt} {writes : List (List UInt8)}
    {handled : List SinkWriteError}
    (recorded : Recorded oracle answer streamName attempts writes handled none)
    (mapper : String → List UInt8) (mode : LineWriteMode) (lines : List String) :
    ∃ (trace : List LineWrite) (writes' : List (List UInt8)) (handled' : List SinkWriteError)
      (error : Option SinkWriteError),
      (writeLines (oracleWrite oracle) (oracleHandler answer)).visitText
          ⟨streamName, writes, handled, mapper, mode, none⟩ lines =
        (⟨streamName, writes', handled', mapper, mode, error⟩, error.elim .goOn fun _ => .stop) ∧
      trace.map LineWrite.line <+: lines.map mapper ∧
      (error = none → trace.map LineWrite.line = lines.map mapper) ∧
      (∀ write ∈ trace, write.delimiter.isSome = true ↔ mode = .appendLf ∧ write.outcome = .ok ()) ∧
      Recorded oracle answer streamName (attempts ++ trace.flatMap LineWrite.attempts) writes'
        handled' error := by
  induction lines generalizing attempts writes handled with
  | nil =>
      refine ⟨[], writes, handled, none, rfl, List.nil_prefix, fun _ => rfl, by simp, ?_⟩
      rwa [List.flatMap_nil, List.append_nil]
  | cons line rest ih =>
      obtain ⟨group, writes₁, handled₁, error, wrote, here, delimiter, recorded₁⟩ :=
        recorded.writeLine (mapper line) mode
      rw [LineVisitor.visitText]
      cases error with
      | some error =>
          refine ⟨[group], writes₁, handled₁, some error, ?_, ?_, ?_, ?_, ?_⟩
          · simp only [writeLines, wrote, Option.elim]
          · rw [List.map_singleton, List.map_cons, here]
            exact List.prefix_append [mapper line] _
          · intro unstopped
            cases unstopped
          · simpa using delimiter
          · rwa [List.flatMap_singleton]
      | none =>
          obtain ⟨trace, writes₂, handled₂, error, visited, beginning, whole, delimiters, recorded₂⟩ :=
            ih recorded₁
          refine ⟨group :: trace, writes₂, handled₂, error, ?_, ?_, ?_, ?_, ?_⟩
          · simp only [writeLines, wrote, Option.elim]
            exact visited
          · rw [List.map_cons, List.map_cons, here]
            exact (List.prefix_cons_inj _).mpr beginning
          · intro unstopped
            rw [List.map_cons, List.map_cons, here, whole unstopped]
          · exact List.forall_mem_cons.mpr ⟨delimiter, delimiters⟩
          · rwa [List.flatMap_cons, ← List.append_assoc]

/-- The writes of a run, with the result its last answer gives. An error that is kept is the one
the handler stopped at, and no other call was answered so. -/
theorem Recorded.writesHandled {trace : List LineWrite} {writes : List (List UInt8)}
    {handled : List SinkWriteError} {error : Option SinkWriteError}
    {mapper : String → List UInt8} {mode : LineWriteMode} {counted : List String}
    {ending : Option StreamEnd}
    (recorded : Recorded oracle answer streamName (trace.flatMap LineWrite.attempts) writes handled
      error)
    (beginning : trace.map LineWrite.line <+: counted.map mapper)
    (whole : error = none → trace.map LineWrite.line = counted.map mapper)
    (delimited : ∀ write ∈ trace,
      write.delimiter.isSome = true ↔ mode = .appendLf ∧ write.outcome = .ok ()) :
    let sink : WriteLines (List (List UInt8)) (List SinkWriteError) :=
      ⟨streamName, writes, handled, mapper, mode, error⟩
    WritesHandled oracle answer streamName mapper mode counted ending trace sink
      (visitedResult ((writeLines (oracleWrite oracle) (oracleHandler answer)).intoOutput sink)
        (error.elim .goOn fun _ => .stop) ending) := by
  refine ⟨beginning, delimited, recorded.written, recorded.answered, recorded.shown, ?_, ?_⟩
  · intro before refused among stops
    cases error with
    | none =>
        have goesOn := recorded.continued rfl before refused among
        rw [goesOn] at stops
        cases stops
    | some error =>
        obtain ⟨earlier, whole, continued, stop, last⟩ := recorded.stopped error rfl
        simp only [whole] at among ⊢
        rcases concat_prefix_concat_cases among with ⟨rfl, rfl⟩ | inside
        · exact ⟨rfl, last, rfl⟩
        · have goesOn := continued before refused inside
          rw [goesOn] at stops
          cases stops
  · intro continued
    cases error with
    | none =>
        refine ⟨whole rfl, ?_⟩
        cases ending with
        | none => rfl
        | some ending => cases ending <;> rfl
    | some error =>
        obtain ⟨earlier, whole, -, stop, -⟩ := recorded.stopped error rfl
        have goesOn := continued earlier error (whole ▸ List.prefix_rfl)
        rw [goesOn] at stop
        cases stop

end Recording

section Result

variable (oracle : List (List UInt8) → List UInt8 → Except IoError Unit)
  (answer : List SinkWriteError → SinkWriteError → SinkWriteErrorAction)
  (streamName : String) (mapper : String → List UInt8) (mode : LineWriteMode)

/-- **Failures of the writer are handled once, and the consumer stops where the handler says.** The
parser, fed with the chunks and gaps before the end, emits the lines `before` and flushes at most
one more; the flushed one counts only if the stream closed. -/
theorem writtenLines_handled (alloc : Allocator) {options : LineParsingOptions}
    (limited : 0 < options.maxLineLength.bytes) (answers : List (Option StreamEvent)) :
    ∃ parser lines, LineParser.new.feed alloc options (inputsBeforeEnd answers) =
        .ok (parser, lines) ∧
      let before := lines.map decodeLineLossy
      let flushed := parser.finish.2.toList.map decodeLineLossy
      let counted := countedLines before flushed (streamEnd answers)
      let visitor := WriteLines.new streamName [] [] mapper mode
      ∃ trace sink result,
        writtenLines (oracleWrite oracle) (oracleHandler answer) alloc options visitor answers =
          .ok result ∧
        writtenSink (oracleWrite oracle) (oracleHandler answer) alloc options visitor answers =
          .ok sink ∧
        WritesHandled oracle answer streamName mapper mode counted (streamEnd answers) trace sink
          result := by
  obtain ⟨parser, lines, fed, consumed, left⟩ := written_eq (oracleWrite oracle)
    (oracleHandler answer) alloc limited (WriteLines.new streamName [] [] mapper mode) answers
  have nothing : Recorded oracle answer streamName [] [] [] none :=
    ⟨rfl, by simp, rfl, fun _ => by simp [Continued], nofun⟩
  obtain ⟨trace, writes, handled, error, visited, beginning, whole, delimiters, recorded⟩ :=
    nothing.visitText mapper mode (countedLines (lines.map decodeLineLossy)
      (parser.finish.2.toList.map decodeLineLossy) (streamEnd answers))
  rw [List.nil_append] at recorded
  rw [WriteLines.new, visited] at consumed left
  refine ⟨parser, lines, fed, trace, _, _, consumed, left, ?_⟩
  exact recorded.writesHandled beginning whole delimiters

end Result

/-- The first line fails and the handler goes on; the delimiter of the second one fails and the
handler stops, so that the third line is not written. -/
theorem writtenLines_handled_delimiter :
    let oracle : List (List UInt8) → List UInt8 → Except IoError Unit := fun writes _ =>
      if writes.length = 1 then .ok () else .error ⟨32, "broken pipe"⟩
    let answer : List SinkWriteError → SinkWriteError → SinkWriteErrorAction := fun handled _ =>
      if handled = [] then .goOn else .stop
    let answers := [some (.chunk ⟨[97, 10, 98, 10, 99], 0⟩), some .eof]
    0 < ({} : LineParsingOptions).maxLineLength.bytes ∧
    ∃ parser lines, LineParser.new.feed exactAllocator {} (inputsBeforeEnd answers) =
        .ok (parser, lines) ∧
      let before := lines.map decodeLineLossy
      let flushed := parser.finish.2.toList.map decodeLineLossy
      let counted := countedLines before flushed (streamEnd answers)
      let visitor := WriteLines.new "stdout" [] [] identityLine .appendLf
      ∃ trace sink result,
        writtenLines (oracleWrite oracle) (oracleHandler answer) exactAllocator {} visitor answers =
          .ok result ∧
        writtenSink (oracleWrite oracle) (oracleHandler answer) exactAllocator {} visitor answers =
          .ok sink ∧
        WritesHandled oracle answer "stdout" identityLine .appendLf counted (streamEnd answers) trace
          sink result :=
  ⟨by decide, writtenLines_handled _ _ "stdout" identityLine .appendLf exactAllocator (by decide) _⟩

end TokioProcessTools.OutputStream.Visitors
