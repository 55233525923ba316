import TokioProcessTools.OutputStream.Line.Driving
import TokioProcessTools.OutputStream.Visitor

/-!
# The line adapter

`ParseLines` is the visitor that owns a parser and hands every decoded line to
an inner line visitor. `ParseLines.new` checks the options once; what it builds
never panics afterwards.
-/

set_option autoImplicit false

namespace TokioProcessTools.OutputStream.Line

open Foundation

/-- `LineVisitor`: the action for each line, with the optional hooks. -/
structure LineVisitor (S Output : Type) where
  onLine : S → String → S × Next
  onGap : S → S := id
  onEof : S → S := id
  intoOutput : S → Output

/-- `ParseLines`: a parser, its options and the inner sink. -/
structure ParseLines (S : Type) where
  parser : LineParser
  options : LineParsingOptions
  inner : S

/-- `ParseLines::new`. -/
def ParseLines.new {S : Type} (options : LineParsingOptions) (inner : S) :
    Checked (ParseLines S) := do
  assertMaxLineLengthNonZero options
  .ok ⟨.new, options, inner⟩

/-- Options with a limit are accepted. -/
theorem ParseLines.new_eq {S : Type} {options : LineParsingOptions}
    (limited : 0 < options.maxLineLength.bytes) (inner : S) :
    ParseLines.new options inner = .ok ⟨.new, options, inner⟩ := by
  simp only [ParseLines.new, assertMaxLineLengthNonZero, if_pos limited, checked_ok_bind]

section Visiting

variable {S Output : Type} (alloc : Allocator) (visitor : LineVisitor S Output)

/-- The loop hands the decoded line to the inner visitor. -/
def LineVisitor.onLineBytes (sink : S) (line : LineBytes) : S × Next :=
  visitor.onLine sink (decodeLineLossy line)

/-- `impl StreamVisitor for ParseLines`. -/
def parseLines : StreamVisitor (ParseLines S) Output where
  onChunk := fun adapter chunk => do
    let (parser, inner, next) ←
      adapter.parser.forEachLine alloc adapter.options visitor.onLineBytes chunk.bytes adapter.inner
    .ok ({ adapter with parser, inner }, next)
  onGap := fun adapter =>
    { adapter with parser := adapter.parser.onGap, inner := visitor.onGap adapter.inner }
  onEof := fun adapter =>
    match adapter.parser.finish with
    | (parser, some line) =>
        let (inner, _) := visitor.onLineBytes adapter.inner line
        .ok { adapter with parser, inner := visitor.onEof inner }
    | (parser, none) => .ok { adapter with parser, inner := visitor.onEof adapter.inner }
  intoOutput := fun adapter => visitor.intoOutput adapter.inner

/-- `AsyncLineVisitor`: the hooks of a `LineVisitor`, awaited. -/
abbrev AsyncLineVisitor := LineVisitor

/-- `impl AsyncStreamVisitor for ParseLines`: the same loop, with the inner visitor awaited. -/
def parseLinesAsync (visitor : AsyncLineVisitor S Output) :
    AsyncStreamVisitor (ParseLines S) Output :=
  parseLines alloc visitor

end Visiting

/-- `CollectLines`: the sink `T` and a closure that takes each line and the sink. -/
def collectLines {T : Type} (collect : T → String → T × Next) : LineVisitor T T where
  onLine := collect
  intoOutput := id

/-- The closure that keeps every line. -/
def keepText (lines : List String) (line : String) : List String × Next :=
  (lines ++ [line], .goOn)

/-- The lines `ParseLines` produces over the events of a subscription: those a `CollectLines`
visitor gathers that keeps every line. -/
def collectedLines (alloc : Allocator) (options : LineParsingOptions) (events : List StreamEvent) :
    Checked (Option (Except StreamReadError (List String))) := do
  let adapter ← ParseLines.new options []
  consumeSync (parseLines alloc (collectLines keepText)) adapter (nextEvents events)

/-- The machine over an event: a chunk is read byte by byte, a gap discards the line in
progress. -/
def LineState.observeEvent (options : LineParsingOptions) (state : LineState) :
    StreamEvent → LineState × List LineBytes
  | .chunk chunk => state.run options chunk.bytes
  | .gap => (LineState.afterGap, [])
  | .eof | .readError _ => (state, [])

end TokioProcessTools.OutputStream.Line
