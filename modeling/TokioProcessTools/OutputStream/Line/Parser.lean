import TokioProcessTools.Foundation.Utf8Lossy
import TokioProcessTools.OutputStream.Line.Options
import Mathlib.Data.List.Basic

/-!
# The line parser

`LineParser` turns arbitrary byte chunks into lines. A caller holds a cursor
into a chunk and calls `nextLine` until it yields nothing; the cursor is then at
the end of the chunk and the unfinished line is buffered. A gap in the input
discards the unfinished line (`onGap`), and the end of the input flushes it
(`finish`).

A buffer is a `BytesMut`: its bytes and the capacity of its allocation. How an
allocation grows belongs to the allocator, which is a parameter here. The
compaction at the start of every call looks at capacities only.

A line is the bytes handed to `decode_line_lossy`; `decodeLineLossy` is the
text the caller sees.
-/

set_option autoImplicit false

namespace TokioProcessTools.OutputStream.Line

open Foundation

/-- The byte that ends a line. -/
def newline : UInt8 := 10

/-- How an allocation grows: the capacity after room for `needed` bytes was reserved in a
buffer of the given capacity. -/
structure Allocator where
  reserve : (capacity needed : Nat) → Nat
  fits : ∀ capacity needed, needed ≤ reserve capacity needed

/-- The allocator that grows to what is needed. -/
def exactAllocator : Allocator := ⟨fun _ needed => needed, fun _ needed => Nat.le_refl needed⟩

/-- A growable byte buffer with its capacity. -/
structure BytesMut where
  bytes : List UInt8
  capacity : Nat
  fits : bytes.length ≤ capacity

namespace BytesMut

/-- `BytesMut::new`. -/
def new : BytesMut := ⟨[], 0, Nat.le_refl 0⟩

/-- `BytesMut::clear`: the length becomes zero, the capacity stays. -/
def clear (buffer : BytesMut) : BytesMut := ⟨[], buffer.capacity, Nat.zero_le _⟩

/-- `BytesMut::extend_from_slice`. -/
def extendFromSlice (alloc : Allocator) (buffer : BytesMut) (slice : List UInt8) : BytesMut :=
  ⟨buffer.bytes ++ slice,
    alloc.reserve buffer.capacity (buffer.bytes ++ slice).length,
    alloc.fits _ _⟩

@[simp] theorem new_bytes : new.bytes = [] := rfl

@[simp] theorem extendFromSlice_bytes (alloc : Allocator) (buffer : BytesMut)
    (slice : List UInt8) :
    (buffer.extendFromSlice alloc slice).bytes = buffer.bytes ++ slice := rfl

end BytesMut

/-- `memchr`: the position of the first occurrence of a byte. -/
def memchr (byte : UInt8) (slice : List UInt8) : Option Nat := slice.idxOf? byte

/-- `LineParserMode`. -/
inductive LineParserMode where
  | readingLine
  | discardUntilNewline
  | pendingLimitDelimiter
  deriving DecidableEq, Repr

/-- The bytes of one emitted line, before decoding. -/
abbrev LineBytes := List UInt8

/-- `decode_line_lossy`. -/
def decodeLineLossy (line : LineBytes) : String := fromUtf8Lossy line

/-- `LineParser`: the line in progress, the line emitted last, and the mode. -/
structure LineParser where
  lineBuffer : BytesMut
  emitted : BytesMut
  mode : LineParserMode

namespace LineParser

/-- `LineParser::new`. -/
def new : LineParser := ⟨.new, .new, .readingLine⟩

/-- `LineParser::on_gap`. -/
def onGap (parser : LineParser) : LineParser :=
  { parser with lineBuffer := parser.lineBuffer.clear, mode := .discardUntilNewline }

/-- `compact_if_needed`: a buffer over the threshold is replaced by an empty one, the line in
progress only when it holds no bytes. -/
def compactIfNeeded (parser : LineParser) : Option NumBytes → LineParser
  | none => parser
  | some threshold =>
      let parser :=
        if parser.lineBuffer.bytes.isEmpty && threshold.bytes < parser.lineBuffer.capacity then
          { parser with lineBuffer := .new }
        else parser
      if threshold.bytes < parser.emitted.capacity then { parser with emitted := .new } else parser

/-- `emit_buffered_line`: the buffers are swapped and the new line buffer is cleared. -/
def emitBufferedLine (parser : LineParser) : LineParser × LineBytes :=
  ({ parser with lineBuffer := parser.emitted.clear, emitted := parser.lineBuffer },
    parser.lineBuffer.bytes)

/-- How one pass through the loop of `next_line` ends: the loop goes on, or the call returns. -/
inductive Pass where
  | again (parser : LineParser) (chunk : List UInt8)
  | done (parser : LineParser) (chunk : List UInt8) (line : Option LineBytes)

variable (alloc : Allocator) (options : LineParsingOptions)

/-- Whether the line in progress has reached the configured limit. -/
def AtLimit (parser : LineParser) : Prop :=
  options.maxLineLength.bytes ≠ 0 ∧
    parser.lineBuffer.bytes.length = options.maxLineLength.bytes

instance (parser : LineParser) : Decidable (parser.AtLimit options) :=
  inferInstanceAs (Decidable (_ ∧ _))

/-- The mode in which a buffer that was already full is emitted. -/
def overflowMode : LineParserMode :=
  match options.overflowBehavior with
  | .dropAdditionalData => .discardUntilNewline
  | .emitAdditionalAsNewLines => .pendingLimitDelimiter

/-- Return a line from the buffer, leaving the parser in the given mode. -/
def emitIn (parser : LineParser) (mode : LineParserMode) (chunk : List UInt8) : Pass :=
  let (parser, line) := { parser with mode }.emitBufferedLine
  .done parser chunk (some line)

theorem emitIn_eq (parser : LineParser) (mode : LineParserMode) (chunk : List UInt8) :
    parser.emitIn mode chunk =
      .done ⟨parser.emitted.clear, parser.lineBuffer, mode⟩ chunk
        (some parser.lineBuffer.bytes) := rfl

/-- `remaining_line_length`: how far the chunk may be scanned. -/
def remainingLineLength (parser : LineParser) (chunk : List UInt8) : Checked Nat :=
  if options.maxLineLength.bytes = 0 then .ok chunk.length
  else checkedSub options.maxLineLength.bytes parser.lineBuffer.bytes.length

/-- The end of the loop body of `next_line`: scan the first `scanLen` bytes for a newline. -/
def scanUpTo (parser : LineParser) (chunk : List UInt8) (scanLen : Nat) : Pass :=
  let scan := chunk.take scanLen
  match memchr newline scan with
  | some pos =>
      -- The fast path borrows the line from the chunk and leaves the buffers alone.
      if parser.lineBuffer.bytes.isEmpty then
        .done parser (chunk.drop (pos + 1)) (some (scan.take pos))
      else
        let parser := { parser with
          lineBuffer := parser.lineBuffer.extendFromSlice alloc (scan.take pos) }
        parser.emitIn parser.mode (chunk.drop (pos + 1))
  | none =>
      let parser := { parser with lineBuffer := parser.lineBuffer.extendFromSlice alloc scan }
      if parser.AtLimit options ∧ options.overflowBehavior = .emitAdditionalAsNewLines then
        parser.emitIn .pendingLimitDelimiter (chunk.drop scanLen)
      else .again parser (chunk.drop scanLen)

/-- The loop body of `next_line` after the mode has been handled: a buffer that is already full
is emitted without reading the chunk; otherwise the chunk is scanned up to the limit. -/
def scanLine (parser : LineParser) (chunk : List UInt8) : Checked Pass :=
  if parser.AtLimit options then .ok (parser.emitIn (overflowMode options) chunk)
  else do
    let remaining ← parser.remainingLineLength options chunk
    return parser.scanUpTo alloc options chunk (min remaining chunk.length)

/-- One pass through the body of `while !chunk.is_empty()` in `next_line`. -/
def pass (parser : LineParser) (chunk : List UInt8) : Checked Pass :=
  match parser.mode with
  | .discardUntilNewline =>
      match memchr newline chunk with
      | some pos => .ok (.again { parser with mode := .readingLine } (chunk.drop (pos + 1)))
      | none => .ok (.done parser [] none)
  | .pendingLimitDelimiter =>
      if chunk.head? = some newline then
        .ok (.again { parser with mode := .readingLine } (chunk.drop 1))
      else scanLine alloc options { parser with mode := .readingLine } chunk
  | .readingLine => scanLine alloc options parser chunk

variable {alloc options}

theorem scanUpTo_again {parser next : LineParser} {chunk rest : List UInt8} {scanLen : Nat}
    (again : parser.scanUpTo alloc options chunk scanLen = .again next rest) :
    rest = chunk.drop scanLen := by
  cases found : memchr newline (chunk.take scanLen) with
  | some pos =>
      simp only [scanUpTo, found, emitIn_eq] at again
      split at again <;> cases again
  | none =>
      simp only [scanUpTo, found, emitIn_eq] at again
      split at again
      · cases again
      · cases again
        rfl

/-- Outside the limit at least one byte is scanned. -/
theorem scanLine_cases {parser : LineParser} {chunk : List UInt8} {result : Pass}
    (taken : parser.scanLine alloc options chunk = .ok result) (nonempty : chunk ≠ []) :
    (parser.AtLimit options ∧ result = parser.emitIn (overflowMode options) chunk) ∨
      (¬ parser.AtLimit options ∧ ∃ scanLen, 0 < scanLen ∧ scanLen ≤ chunk.length ∧
        result = parser.scanUpTo alloc options chunk scanLen) := by
  have positive : 0 < chunk.length := List.length_pos_iff.mpr nonempty
  unfold scanLine at taken
  split at taken
  · exact .inl ⟨‹_›, by simpa using taken.symm⟩
  · rename_i below
    refine .inr ⟨below, ?_⟩
    unfold remainingLineLength at taken
    split at taken
    · exact ⟨chunk.length, positive, Nat.le_refl _, by simpa using taken.symm⟩
    · rename_i limited
      by_cases fits : parser.lineBuffer.bytes.length ≤ options.maxLineLength.bytes
      · have room : parser.lineBuffer.bytes.length ≠ options.maxLineLength.bytes :=
          fun full => below ⟨limited, full⟩
        refine ⟨min (options.maxLineLength.bytes - parser.lineBuffer.bytes.length) chunk.length,
          by omega, by omega, ?_⟩
        simpa [fits] using taken.symm
      · simp [checkedSub, fits, Bind.bind, Except.bind] at taken

/-- **Every pass that goes on has consumed at least one byte.** -/
theorem pass_again_length {parser next : LineParser} {chunk rest : List UInt8}
    (again : parser.pass alloc options chunk = .ok (.again next rest)) (nonempty : chunk ≠ []) :
    rest.length < chunk.length := by
  have positive : 0 < chunk.length := List.length_pos_iff.mpr nonempty
  have scanned : ∀ start : LineParser,
      start.scanLine alloc options chunk = .ok (.again next rest) → rest.length < chunk.length := by
    intro start taken
    rcases scanLine_cases taken nonempty with ⟨_, same⟩ | ⟨_, scanLen, room, _, same⟩
    · cases same
    · rw [scanUpTo_again same.symm, List.length_drop]
      omega
  unfold pass at again
  split at again
  · split at again
    · cases again
      rw [List.length_drop]
      omega
    · cases again
  · split at again
    · cases again
      rw [List.length_drop]
      omega
    · exact scanned _ again
  · exact scanned _ again

variable (alloc options)

/-- What a call of `next_line` leaves behind: the parser, the cursor, and the line it yields. -/
structure Yield where
  parser : LineParser
  chunk : List UInt8
  line : Option LineBytes

/-- The loop `while !chunk.is_empty()` of `next_line`. -/
def nextLineLoop (parser : LineParser) (chunk : List UInt8) : Checked Yield :=
  if _empty : chunk = [] then .ok ⟨parser, [], none⟩
  else
    match _taken : parser.pass alloc options chunk with
    | .error reason => .error reason
    | .ok (.done parser chunk line) => .ok ⟨parser, chunk, line⟩
    | .ok (.again next rest) => nextLineLoop next rest
termination_by chunk.length
decreasing_by exact pass_again_length _taken _empty

/-- `LineParser::next_line`. -/
def nextLine (parser : LineParser) (chunk : List UInt8) : Checked Yield :=
  (parser.compactIfNeeded options.bufferCompactionThreshold).nextLineLoop alloc options chunk

/-- `LineParser::finish`. -/
def finish (parser : LineParser) : LineParser × Option LineBytes :=
  if parser.mode = .discardUntilNewline ∨ parser.lineBuffer.bytes = [] then (parser, none)
  else
    let (parser, line) := parser.emitBufferedLine
    (parser, some line)

variable {alloc options}

@[simp] theorem compactIfNeeded_lineBuffer_bytes (parser : LineParser)
    (threshold : Option NumBytes) :
    (parser.compactIfNeeded threshold).lineBuffer.bytes = parser.lineBuffer.bytes := by
  cases threshold with
  | none => rfl
  | some threshold =>
      have emptied : ∀ start : LineParser,
          (if threshold.bytes < start.emitted.capacity then { start with emitted := .new }
            else start).lineBuffer = start.lineBuffer := by
        intro start
        split <;> rfl
      simp only [compactIfNeeded, emptied]
      split
      · rename_i exceeds
        simp only [Bool.and_eq_true, List.isEmpty_iff] at exceeds
        rw [exceeds.1]
        rfl
      · rfl

@[simp] theorem compactIfNeeded_mode (parser : LineParser) (threshold : Option NumBytes) :
    (parser.compactIfNeeded threshold).mode = parser.mode := by
  cases threshold with
  | none => rfl
  | some threshold =>
      simp only [compactIfNeeded]
      split <;> split <;> rfl

end LineParser

end TokioProcessTools.OutputStream.Line
