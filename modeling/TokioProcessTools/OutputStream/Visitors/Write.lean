import TokioProcessTools.Foundation.Utf8Text
import TokioProcessTools.OutputStream.Line.Visiting

/-!
# Writing lines into a writer

`WriteLines` maps every parsed line to bytes and writes them, followed by a
newline if its mode asks for one. A write that fails is shown to the error
handler, which says whether to go on. The visitor turns into its writer, or into
the error the handler stopped at.

The writer and the handler are values of arbitrary types with the one operation
that the visitor uses of each.
-/

set_option autoImplicit false

namespace TokioProcessTools.OutputStream.Visitors

open Line Foundation

/-- `LineWriteMode`. -/
inductive LineWriteMode where
  | asIs
  | appendLf
  deriving DecidableEq, Repr

/-- `SinkWriteErrorAction`. -/
inductive SinkWriteErrorAction where
  | stop
  | goOn
  deriving DecidableEq, Repr

/-- `SinkWriteOperation`. -/
inductive SinkWriteOperation where
  | chunk
  | line
  | lineDelimiter
  deriving DecidableEq, Repr

/-- `SinkWriteError`. -/
structure SinkWriteError where
  streamName : String
  operation : SinkWriteOperation
  attemptedLen : Nat
  source : IoError
  deriving DecidableEq, Repr

/-- `AsyncWriteExt`, as far as the visitor uses it. -/
structure AsyncWrite (W : Type) where
  writeAll : W → List UInt8 → W × Except IoError Unit

/-- `SinkWriteErrorHandler`. -/
structure SinkWriteErrorHandler (H : Type) where
  handle : H → SinkWriteError → H × SinkWriteErrorAction

/-- `WriteCollectionOptions`. -/
structure WriteCollectionOptions (H : Type) where
  errorHandler : H

/-- The handler of `WriteCollectionOptions::fail_fast`, a closure without state. -/
def failFast : SinkWriteErrorHandler Unit where
  handle := fun handler _ => (handler, .stop)

section Writing

variable {W H : Type} (write : AsyncWrite W) (handler : SinkWriteErrorHandler H)

/-- `handle_write_result`: whether the write succeeded, or the error to stop with. -/
def handleWriteResult (streamName : String) (errorHandler : H) (operation : SinkWriteOperation)
    (attemptedLen : Nat) : Except IoError Unit → H × Except SinkWriteError Bool
  | .ok () => (errorHandler, .ok true)
  | .error source =>
      let error : SinkWriteError := ⟨streamName, operation, attemptedLen, source⟩
      match handler.handle errorHandler error with
      | (errorHandler, .stop) => (errorHandler, .error error)
      | (errorHandler, .goOn) => (errorHandler, .ok false)

/-- `write_line`. -/
def writeLine (streamName : String) (writer : W) (errorHandler : H) (line : List UInt8)
    (mode : LineWriteMode) : W × H × Except SinkWriteError Unit :=
  let (writer, lineWrite) := write.writeAll writer line
  match handleWriteResult handler streamName errorHandler .line line.length lineWrite with
  | (errorHandler, .error error) => (writer, errorHandler, .error error)
  | (errorHandler, .ok lineWritten) =>
      if !lineWritten || mode ≠ .appendLf then (writer, errorHandler, .ok ())
      else
        let (writer, delimiterWrite) := write.writeAll writer [newline]
        match handleWriteResult handler streamName errorHandler .lineDelimiter 1 delimiterWrite with
        | (errorHandler, .error error) => (writer, errorHandler, .error error)
        | (errorHandler, .ok _) => (writer, errorHandler, .ok ())

/-- `WriteLines`. The mapper answers with the bytes of its output. -/
structure WriteLines (W H : Type) where
  streamName : String
  writer : W
  errorHandler : H
  mapper : String → List UInt8
  mode : LineWriteMode
  error : Option SinkWriteError

/-- `WriteLines::new`. -/
def WriteLines.new (streamName : String) (writer : W) (errorHandler : H)
    (mapper : String → List UInt8) (mode : LineWriteMode) : WriteLines W H :=
  ⟨streamName, writer, errorHandler, mapper, mode, none⟩

/-- `identity_line`, with the bytes of the string it returns. -/
def identityLine (line : String) : List UInt8 := Utf8Lossy.encode line.toList

/-- `WriteLines::passthrough`. -/
def WriteLines.passthrough (streamName : String) (writer : W) (options : WriteCollectionOptions H)
    (mode : LineWriteMode) : WriteLines W H :=
  .new streamName writer options.errorHandler identityLine mode

/-- `impl AsyncLineVisitor for WriteLines`. -/
def writeLines : AsyncLineVisitor (WriteLines W H) (Except SinkWriteError W) where
  onLine := fun sink line =>
    match writeLine write handler sink.streamName sink.writer sink.errorHandler (sink.mapper line)
        sink.mode with
    | (writer, errorHandler, .ok ()) => ({ sink with writer, errorHandler }, .goOn)
    | (writer, errorHandler, .error error) =>
        ({ sink with writer, errorHandler, error := some error }, .stop)
  intoOutput := fun sink =>
    match sink.error with
    | some error => .error error
    | none => .ok sink.writer

/-- The consumer of a subscription that writes its lines: `consume_async` over `ParseLines` with
`WriteLines`. The termination signal is never sent. -/
def writtenLines (alloc : Allocator) (options : LineParsingOptions) (sink : WriteLines W H)
    (answers : List (Option StreamEvent)) :
    Checked (Option (Except StreamReadError (Except SinkWriteError W))) := do
  let adapter ← ParseLines.new options sink
  consumeAsync (parseLinesAsync alloc (writeLines write handler)) adapter (answers.map .nextEvent)

/-- The visitor as the loop of the consumer leaves it, also if the consumer still waits or a read
error has ended it. -/
def writtenSink (alloc : Allocator) (options : LineParsingOptions) (sink : WriteLines W H)
    (answers : List (Option StreamEvent)) : Checked (WriteLines W H) := do
  let adapter ← ParseLines.new options sink
  let (adapter, _) ← consumeLoop (parseLinesAsync alloc (writeLines write handler)) adapter
    (answers.map .nextEvent)
  .ok adapter.inner

/-- The consumer writes the lines that count until the visitor stops. -/
theorem written_eq (alloc : Allocator) {options : LineParsingOptions}
    (limited : 0 < options.maxLineLength.bytes) (sink : WriteLines W H)
    (answers : List (Option StreamEvent)) :
    ∃ parser lines, LineParser.new.feed alloc options (inputsBeforeEnd answers) =
        .ok (parser, lines) ∧
      let counted := countedLines (lines.map decodeLineLossy)
        (parser.finish.2.toList.map decodeLineLossy) (streamEnd answers)
      let visited := (writeLines write handler).visitText sink counted
      writtenLines write handler alloc options sink answers =
          .ok (visitedResult ((writeLines write handler).intoOutput visited.1) visited.2
            (streamEnd answers)) ∧
        writtenSink write handler alloc options sink answers = .ok visited.1 := by
  obtain ⟨parser, lines, fed, consumed, adapter, ending, looped, inner⟩ := consume_parseLines alloc
    (show (writeLines write handler).onEof = id from rfl) rfl options sink answers
  refine ⟨parser, lines, fed, ?_, ?_⟩
  · rw [writtenLines, ParseLines.new_eq limited]
    exact consumed
  · rw [writtenSink, ParseLines.new_eq limited, checked_ok_bind, parseLinesAsync, looped]
    exact congrArg Except.ok inner

end Writing

end TokioProcessTools.OutputStream.Visitors
