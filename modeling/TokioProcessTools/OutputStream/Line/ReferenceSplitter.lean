import TokioProcessTools.Foundation.Fragments
import TokioProcessTools.OutputStream.Line.Driving
import Mathlib.Data.List.TakeWhile

/-!
# The parser equals a reference splitter

The reference knows the bytes between two gaps as one segment. A segment behind
a gap starts after its first newline. Its newline-terminated pieces become
lines, and what is left over is flushed at the end of the input or lost to the
next gap. How long pieces are cut depends on the overflow behaviour.

The parser emits exactly the lines of the reference, whatever the chunks, the
compaction threshold and the allocator (`parse_eq_reference`). So two inputs
with the same segments give the same lines.
-/

set_option autoImplicit false

namespace TokioProcessTools.OutputStream.Line

open Foundation

/-- What a parser is fed with. -/
inductive Input where
  | chunk (bytes : List UInt8)
  | gap
  deriving DecidableEq, Repr

/-! ## Feeding the parser -/

section Feeding

variable (alloc : Allocator) (options : LineParsingOptions)

/-- A visitor that keeps every line. -/
def keepLine (lines : List LineBytes) (line : LineBytes) : List LineBytes × Next :=
  (lines ++ [line], .goOn)

/-- Feed a parser: a chunk is driven until no line comes, a gap is announced by `on_gap`. -/
def LineParser.feed : LineParser → List Input → Checked (LineParser × List LineBytes)
  | parser, [] => .ok (parser, [])
  | parser, .gap :: rest => parser.onGap.feed rest
  | parser, .chunk bytes :: rest => do
      let (parser, lines, _) ← parser.forEachLine alloc options keepLine bytes []
      let (parser, later) ← parser.feed rest
      return (parser, lines ++ later)

/-- The lines a fresh parser emits, with the one flushed by `finish` at the end. -/
def parse (inputs : List Input) : Checked (List LineBytes) := do
  let (parser, lines) ← LineParser.new.feed alloc options inputs
  return lines ++ parser.finish.2.toList

end Feeding

/-! ## The reference -/

/-- The bytes before the first gap, and the bytes behind each gap. -/
def segments : List Input → List UInt8 × List (List UInt8)
  | [] => ([], [])
  | .chunk bytes :: rest => (bytes ++ (segments rest).1, (segments rest).2)
  | .gap :: rest => ([], (segments rest).1 :: (segments rest).2)

/-- A segment behind a gap is cut through its first newline; one without a newline is lost. -/
def cutThroughNewline (segment : List UInt8) : List UInt8 :=
  (segment.dropWhile (· ≠ newline)).drop 1

/-- The pieces of a segment that a newline ends. -/
def terminatedPieces (segment : List UInt8) : List (List UInt8) :=
  (segment.splitOn newline).dropLast

/-- What follows the last newline of a segment. -/
def unterminatedTail (segment : List UInt8) : List UInt8 :=
  (segment.splitOn newline).getLast (List.splitOn_ne_nil _ _)

section Reference

variable (options : LineParsingOptions)

/-- The lines of a piece that a newline ends. -/
def pieceLines (piece : List UInt8) : List LineBytes :=
  match options.overflowBehavior with
  | .dropAdditionalData => [piece.take options.maxLineLength.bytes]
  | .emitAdditionalAsNewLines =>
      if piece.length ≤ options.maxLineLength.bytes then [piece]
      else fragments options.maxLineLength.bytes piece

/-- The lines of a tail that a gap cuts off: what was emitted before the gap came. A truncated
line is emitted by the byte behind the limit, a full fragment by its own last byte. -/
def tailLinesAtGap (tail : List UInt8) : List LineBytes :=
  match options.overflowBehavior with
  | .dropAdditionalData =>
      if options.maxLineLength.bytes < tail.length then [tail.take options.maxLineLength.bytes]
      else []
  | .emitAdditionalAsNewLines =>
      (fragments options.maxLineLength.bytes tail).filter
        (·.length = options.maxLineLength.bytes)

/-- The lines of the tail at the end of the input. -/
def tailLinesAtEnd (tail : List UInt8) : List LineBytes :=
  match options.overflowBehavior with
  | .dropAdditionalData =>
      if tail = [] then [] else [tail.take options.maxLineLength.bytes]
  | .emitAdditionalAsNewLines => fragments options.maxLineLength.bytes tail

/-- The lines of a segment, given what happens to its tail. -/
def segmentLines (tailLines : List UInt8 → List LineBytes) (segment : List UInt8) :
    List LineBytes :=
  (terminatedPieces segment).flatMap (pieceLines options) ++ tailLines (unterminatedTail segment)

/-- The reference splitter: the lines of the first segment, followed by those of the later ones,
each of which is cut through its first newline. -/
def reference : List UInt8 → List (List UInt8) → List LineBytes
  | segment, [] => segmentLines options (tailLinesAtEnd options) segment
  | segment, next :: rest =>
      segmentLines options (tailLinesAtGap options) segment ++
        reference (cutThroughNewline next) rest

end Reference

/-! ## The parser and the machine over an input -/

section Inputs

variable (alloc : Allocator) {options : LineParsingOptions}

variable (options) in
/-- The machine reads a chunk byte by byte; a gap discards the line in progress. -/
def LineState.observe (state : LineState) : Input → LineState × List LineBytes
  | .chunk bytes => state.run options bytes
  | .gap => (LineState.afterGap, [])

theorem visitLines_keepLine (kept lines : List LineBytes) :
    LineParser.visitLines keepLine kept lines = (kept ++ lines, .goOn) := by
  induction lines generalizing kept with
  | nil => simp [LineParser.visitLines]
  | cons line rest ih => simp [LineParser.visitLines, keepLine, ih]

/-- **Feeding the parser runs the machine.** -/
theorem LineParser.feed_eq {parser : LineParser} (inputs : List Input)
    (within : parser.state.WithinLimit options) :
    ∃ next, parser.feed alloc options inputs =
        .ok (next, (Transducer.run (LineState.observe options) parser.state inputs).2) ∧
      next.state = (Transducer.run (LineState.observe options) parser.state inputs).1 := by
  induction inputs generalizing parser with
  | nil => exact ⟨parser, rfl, rfl⟩
  | cons input rest ih =>
      cases input with
      | gap => exact @ih parser.onGap (LineState.withinLimit_nil options _)
      | chunk bytes =>
          obtain ⟨driven, looped, within', ends⟩ :=
            forEachLine_eq alloc keepLine bytes [] within
          rw [visitLines_keepLine, List.nil_append] at looped ends
          obtain ⟨next, fed, final⟩ := ih within'
          rw [ends rfl] at fed final
          refine ⟨next, ?_, final⟩
          simp only [LineParser.feed, looped, checked_ok_bind, fed]
          rfl

end Inputs

/-! ## The machine over the segments -/

section Segments

variable {options : LineParsingOptions}

variable (options) in
/-- The machine over a first segment and the segments behind gaps. -/
def LineState.runSegments (state : LineState) (segment : List UInt8) :
    List (List UInt8) → LineState × List LineBytes
  | [] => state.run options segment
  | next :: rest =>
      let later := LineState.afterGap.runSegments next rest
      (later.1, (state.run options segment).2 ++ later.2)

/-- The machine depends on the segments only. -/
theorem run_observe_eq_runSegments (state : LineState) (inputs : List Input) :
    Transducer.run (LineState.observe options) state inputs =
      state.runSegments options (segments inputs).1 (segments inputs).2 := by
  induction inputs generalizing state with
  | nil => rfl
  | cons input rest ih =>
      rw [Transducer.run_cons, ih]
      cases input with
      | gap => rfl
      | chunk bytes =>
          simp only [segments, LineState.observe]
          cases (segments rest).2 with
          | nil => simp only [LineState.runSegments, LineState.run_append]
          | cons next later =>
              simp only [LineState.runSegments, LineState.run_append, List.append_assoc]

theorem cutThroughNewline_of_not_mem {segment : List UInt8} (plain : newline ∉ segment) :
    cutThroughNewline segment = [] := by
  have dropped : segment.dropWhile (· ≠ newline) = [] := by
    rw [List.dropWhile_eq_nil_iff]
    intro byte member
    simpa using fun same : byte = newline => plain (same ▸ member)
  rw [cutThroughNewline, dropped, List.drop_nil]

theorem cutThroughNewline_append {before : List UInt8} (plain : newline ∉ before)
    (behind : List UInt8) : cutThroughNewline (before ++ newline :: behind) = behind := by
  have dropped : (before ++ newline :: behind).dropWhile (· ≠ newline) = newline :: behind := by
    rw [List.dropWhile_append_of_pos]
    · simp
    · intro byte member
      simpa using fun same : byte = newline => plain (same ▸ member)
  rw [cutThroughNewline, dropped, List.drop_one, List.tail_cons]

theorem splitOn_plain {segment : List UInt8} (plain : newline ∉ segment) :
    terminatedPieces segment = [] ∧ unterminatedTail segment = segment := by
  simp only [terminatedPieces, unterminatedTail, List.splitOn_eq_singleton plain]
  exact ⟨rfl, rfl⟩

theorem splitOn_newline {piece : List UInt8} (plain : newline ∉ piece) (rest : List UInt8) :
    terminatedPieces (piece ++ newline :: rest) = piece :: terminatedPieces rest ∧
      unterminatedTail (piece ++ newline :: rest) = unterminatedTail rest := by
  simp only [terminatedPieces, unterminatedTail, List.splitOn_append_cons_self_of_not_mem plain]
  exact ⟨List.dropLast_cons_of_ne_nil (List.splitOn_ne_nil _ _),
    List.getLast_cons (List.splitOn_ne_nil _ _)⟩

/-- Behind a full fragment the machine reads on as a fresh one. -/
theorem run_pending_block {bytes : List UInt8} (plain : newline ∉ bytes) (some : bytes ≠ [])
    (rest : List UInt8) :
    LineState.run options ⟨.pendingLimitDelimiter, []⟩ (bytes ++ rest) =
      LineState.fresh.run options (bytes ++ rest) := by
  obtain ⟨byte, more, rfl⟩ := List.exists_cons_of_ne_nil some
  exact LineState.run_pending (fun same => plain (by simp [same])) _

variable (limited : 0 < options.maxLineLength.bytes)
include limited

/-- Under `DropAdditionalData` the byte behind the limit emits the full line, and everything up to
the newline is discarded. -/
theorem run_overflow (drops : options.overflowBehavior = .dropAdditionalData)
    {bytes : List UInt8} (plain : newline ∉ bytes)
    (long : options.maxLineLength.bytes < bytes.length) (rest : List UInt8) :
    LineState.fresh.run options (bytes ++ rest) =
      LineParser.yielding (bytes.take options.maxLineLength.bytes)
        (LineState.afterGap.run options (bytes.drop options.maxLineLength.bytes ++ rest)) := by
  have never : options.overflowBehavior = .emitAdditionalAsNewLines → False := by simp [drops]
  have size : (bytes.take options.maxLineLength.bytes).length = options.maxLineLength.bytes := by
    rw [List.length_take]
    omega
  have plainTake : newline ∉ bytes.take options.maxLineLength.bytes :=
    fun member => plain (List.mem_of_mem_take member)
  have fits : 0 + (bytes.take options.maxLineLength.bytes).length ≤
      options.maxLineLength.bytes := by
    rw [List.length_take]
    omega
  have whole : bytes ++ rest = bytes.take options.maxLineLength.bytes ++
      (bytes.drop options.maxLineLength.bytes ++ rest) := by
    rw [← List.append_assoc, List.take_append_drop]
  obtain ⟨byte, more, split⟩ := List.exists_cons_of_ne_nil
    (List.ne_nil_of_length_pos (by rw [List.length_drop]; omega) :
      bytes.drop options.maxLineLength.bytes ≠ [])
  rw [whole, LineState.run_append, LineState.fresh,
    LineState.run_block [] plainTake (fun _ => fits) (fun _ emits => (never emits).elim),
    List.nil_append, split, List.cons_append, LineState.run_full byte _ ⟨by omega, size⟩]
  rfl

/-- A piece under `DropAdditionalData` becomes its first bytes up to the limit. -/
theorem run_piece_drop (drops : options.overflowBehavior = .dropAdditionalData)
    {piece : List UInt8} (plain : newline ∉ piece) (rest : List UInt8) :
    LineState.fresh.run options (piece ++ newline :: rest) =
      ((LineState.fresh.run options rest).1,
        piece.take options.maxLineLength.bytes :: (LineState.fresh.run options rest).2) := by
  have never : options.overflowBehavior = .emitAdditionalAsNewLines → False := by simp [drops]
  rcases Nat.lt_trichotomy piece.length options.maxLineLength.bytes with short | full | long
  · rw [LineState.run_append, LineState.fresh,
      LineState.run_block [] plain (fun _ => by simp; omega) (fun _ emits => (never emits).elim),
      LineState.run_newline (fun _ => by simp; omega), List.nil_append,
      List.take_of_length_le (by omega)]
    rfl
  · have filled : LineState.run options ⟨.readingLine, piece⟩ (newline :: rest) =
        ((LineState.fresh.run options rest).1,
          piece :: (LineState.fresh.run options rest).2) := by
      rw [LineState.run_full newline rest ⟨by omega, full⟩]
      exact congrArg (fun later : LineState × List LineBytes => (later.1, piece :: later.2))
        (LineState.run_afterGap_newline (by simp : newline ∉ ([] : List UInt8)))
    rw [LineState.run_append, LineState.fresh,
      LineState.run_block [] plain (fun _ => by simp; omega) (fun _ emits => (never emits).elim),
      List.nil_append, filled, List.take_of_length_le (by omega)]
    rfl
  · obtain ⟨byte, more, split⟩ := List.exists_cons_of_ne_nil
      (List.ne_nil_of_length_pos (by rw [List.length_drop]; omega) :
        piece.drop options.maxLineLength.bytes ≠ [])
    have plainDrop : newline ∉ byte :: more :=
      fun member => plain (List.mem_of_mem_drop (split ▸ member))
    have cut := run_overflow limited drops plain long (newline :: rest)
    rw [cut, split, LineState.run_afterGap_newline plainDrop]
    rfl

/-- Under `EmitAdditionalAsNewLines` a block of the length of the limit is emitted by its own last
byte, and a newline directly behind it is swallowed. -/
theorem run_fragment (emits : options.overflowBehavior = .emitAdditionalAsNewLines)
    {bytes : List UInt8} (plain : newline ∉ bytes)
    (long : options.maxLineLength.bytes ≤ bytes.length) (rest : List UInt8) :
    LineState.fresh.run options (bytes ++ rest) =
      LineParser.yielding (bytes.take options.maxLineLength.bytes)
        (LineState.run options ⟨.pendingLimitDelimiter, []⟩
          (bytes.drop options.maxLineLength.bytes ++ rest)) := by
  have size : (bytes.take options.maxLineLength.bytes).length = options.maxLineLength.bytes := by
    rw [List.length_take]
    omega
  have plainTake : newline ∉ bytes.take options.maxLineLength.bytes :=
    fun member => plain (List.mem_of_mem_take member)
  have whole : bytes ++ rest = bytes.take options.maxLineLength.bytes ++
      (bytes.drop options.maxLineLength.bytes ++ rest) := by
    rw [← List.append_assoc, List.take_append_drop]
  rw [whole, LineState.run_append, LineState.fresh,
    LineState.run_block_full plainTake (List.ne_nil_of_length_pos (by omega)) (by omega) emits
      (by simpa using size)]
  rfl

/-- A piece under `EmitAdditionalAsNewLines` becomes its fragments, an empty one an empty line. -/
theorem run_piece_emit (emits : options.overflowBehavior = .emitAdditionalAsNewLines)
    {piece : List UInt8} (plain : newline ∉ piece) (rest : List UInt8) :
    LineState.fresh.run options (piece ++ newline :: rest) =
      ((LineState.fresh.run options rest).1,
        (if piece = [] then [[]] else fragments options.maxLineLength.bytes piece) ++
          (LineState.fresh.run options rest).2) := by
  induction size : piece.length using Nat.strongRecOn generalizing piece with
  | _ size ih =>
      rcases Nat.lt_or_ge piece.length options.maxLineLength.bytes with short | long
      · have single : (if piece = [] then [[]]
            else fragments options.maxLineLength.bytes piece) = [piece] := by
          split
          · simp [*]
          · exact fragments_of_length_le limited ‹_› (by omega)
        rw [LineState.run_append, LineState.fresh,
          LineState.run_block [] plain (fun _ => by simp; omega) (fun _ _ => by simp; omega),
          LineState.run_newline (fun _ => by simp; omega), List.nil_append, single]
        rfl
      · have some : piece ≠ [] := List.ne_nil_of_length_pos (by omega)
        rw [run_fragment limited emits plain long, if_neg some, fragments_eq_cons limited some]
        by_cases last : piece.drop options.maxLineLength.bytes = []
        · rw [last, List.nil_append, LineState.run_pending_newline, fragments_nil]
          rfl
        · have plainDrop : newline ∉ piece.drop options.maxLineLength.bytes :=
            fun member => plain (List.mem_of_mem_drop member)
          rw [run_pending_block plainDrop last,
            ih (piece.drop options.maxLineLength.bytes).length
              (by rw [List.length_drop]; omega) plainDrop rfl, if_neg last]
          rfl

/-- **A piece that a newline ends.** -/
theorem run_piece {piece : List UInt8} (plain : newline ∉ piece) (rest : List UInt8) :
    LineState.fresh.run options (piece ++ newline :: rest) =
      ((LineState.fresh.run options rest).1,
        pieceLines options piece ++ (LineState.fresh.run options rest).2) := by
  unfold pieceLines
  cases behavior : options.overflowBehavior with
  | dropAdditionalData => exact run_piece_drop limited behavior plain rest
  | emitAdditionalAsNewLines =>
      rw [run_piece_emit limited behavior plain rest]
      by_cases empty : piece = []
      · simp [empty]
      · by_cases short : piece.length ≤ options.maxLineLength.bytes
        · simp only [if_neg empty, if_pos short, fragments_of_length_le limited empty short]
        · simp only [if_neg empty, if_neg short]

/-- A tail without newline under `DropAdditionalData`. -/
theorem run_tail_drop (drops : options.overflowBehavior = .dropAdditionalData)
    {tail : List UInt8} (plain : newline ∉ tail) :
    ((LineState.fresh.run options tail).2 =
        if options.maxLineLength.bytes < tail.length then [tail.take options.maxLineLength.bytes]
        else []) ∧
      (LineState.fresh.run options tail).2 ++ (LineState.fresh.run options tail).1.flush =
        if tail = [] then [] else [tail.take options.maxLineLength.bytes] := by
  have never : options.overflowBehavior = .emitAdditionalAsNewLines → False := by simp [drops]
  rcases Nat.lt_or_ge options.maxLineLength.bytes tail.length with long | fits
  · obtain ⟨byte, more, split⟩ := List.exists_cons_of_ne_nil
      (List.ne_nil_of_length_pos (by rw [List.length_drop]; omega) :
        tail.drop options.maxLineLength.bytes ≠ [])
    have plainDrop : newline ∉ byte :: more :=
      fun member => plain (List.mem_of_mem_drop (split ▸ member))
    have ran : LineState.fresh.run options tail =
        (LineState.afterGap, [tail.take options.maxLineLength.bytes]) := by
      have cut := run_overflow limited drops plain long []
      rw [List.append_nil, List.append_nil] at cut
      rw [cut, split, LineState.run_afterGap_block plainDrop]
      rfl
    have some : tail ≠ [] := List.ne_nil_of_length_pos (by omega)
    rw [ran, if_pos long, if_neg some]
    exact ⟨rfl, rfl⟩
  · rw [LineState.fresh, LineState.run_block [] plain (fun _ => by simpa using fits)
      (fun _ emits => (never emits).elim), if_neg (by omega), List.take_of_length_le fits]
    exact ⟨rfl, by simp [LineState.flush]⟩

/-- A tail without newline under `EmitAdditionalAsNewLines`. -/
theorem run_tail_emit (emits : options.overflowBehavior = .emitAdditionalAsNewLines)
    {tail : List UInt8} (plain : newline ∉ tail) :
    (LineState.fresh.run options tail).2 =
        (fragments options.maxLineLength.bytes tail).filter
          (·.length = options.maxLineLength.bytes) ∧
      (LineState.fresh.run options tail).2 ++ (LineState.fresh.run options tail).1.flush =
        fragments options.maxLineLength.bytes tail := by
  induction size : tail.length using Nat.strongRecOn generalizing tail with
  | _ size ih =>
      rcases Nat.lt_or_ge tail.length options.maxLineLength.bytes with short | long
      · rw [LineState.fresh, LineState.run_block [] plain (fun _ => by simp; omega)
          (fun _ _ => by simpa using short)]
        by_cases empty : tail = []
        · simp [empty, LineState.flush]
        · rw [fragments_of_length_le limited empty (by omega)]
          simp [LineState.flush, empty, Nat.ne_of_lt short]
      · have some : tail ≠ [] := List.ne_nil_of_length_pos (by omega)
        have size' : (tail.take options.maxLineLength.bytes).length =
            options.maxLineLength.bytes := by
          rw [List.length_take]
          omega
        have cut := run_fragment limited emits plain long []
        rw [List.append_nil, List.append_nil] at cut
        rw [cut, fragments_eq_cons limited some, LineParser.yielding,
          List.filter_cons_of_pos (by simpa using size'), List.cons_append]
        by_cases last : tail.drop options.maxLineLength.bytes = []
        · rw [last, LineState.run_nil, fragments_nil]
          exact ⟨rfl, rfl⟩
        · have plainDrop : newline ∉ tail.drop options.maxLineLength.bytes :=
            fun member => plain (List.mem_of_mem_drop member)
          obtain ⟨emitted, flushed⟩ := ih (tail.drop options.maxLineLength.bytes).length
            (by rw [List.length_drop]; omega) plainDrop rfl
          have again := @run_pending_block options _ plainDrop last []
          rw [List.append_nil] at again
          rw [again]
          exact ⟨congrArg _ emitted, congrArg _ flushed⟩

/-- **A tail without newline**: what is emitted while it is read, and what the end of the input
adds. -/
theorem run_tail {tail : List UInt8} (plain : newline ∉ tail) :
    (LineState.fresh.run options tail).2 = tailLinesAtGap options tail ∧
      (LineState.fresh.run options tail).2 ++ (LineState.fresh.run options tail).1.flush =
        tailLinesAtEnd options tail := by
  unfold tailLinesAtGap tailLinesAtEnd
  cases behavior : options.overflowBehavior with
  | dropAdditionalData => exact run_tail_drop limited behavior plain
  | emitAdditionalAsNewLines => exact run_tail_emit limited behavior plain

/-- **A segment read from a line start.** -/
theorem run_segment (segment : List UInt8) :
    (LineState.fresh.run options segment).2 =
        segmentLines options (tailLinesAtGap options) segment ∧
      (LineState.fresh.run options segment).2 ++ (LineState.fresh.run options segment).1.flush =
        segmentLines options (tailLinesAtEnd options) segment := by
  induction size : segment.length using Nat.strongRecOn generalizing segment with
  | _ size ih =>
      unfold segmentLines
      by_cases terminated : newline ∈ segment
      · obtain ⟨piece, rest, rfl, plain⟩ := List.eq_append_cons_of_mem terminated
        obtain ⟨atGap, atEnd⟩ := ih rest.length (by rw [← size]; simp; omega) rest rfl
        obtain ⟨pieces, tail⟩ := splitOn_newline plain rest
        rw [run_piece limited plain rest, pieces, tail, List.flatMap_cons, List.append_assoc,
          List.append_assoc, List.append_assoc]
        exact ⟨congrArg _ atGap, congrArg _ atEnd⟩
      · obtain ⟨pieces, tail⟩ := splitOn_plain terminated
        rw [pieces, tail, List.flatMap_nil, List.nil_append, List.nil_append]
        exact run_tail limited terminated

omit limited in
/-- Behind a gap, a segment is read as its part behind the first newline. A segment without one
leaves the machine discarding, which flushes nothing. -/
theorem run_afterGap (segment : List UInt8) :
    (LineState.afterGap.run options segment).2 =
        (LineState.fresh.run options (cutThroughNewline segment)).2 ∧
      (LineState.afterGap.run options segment).1.flush =
        (LineState.fresh.run options (cutThroughNewline segment)).1.flush := by
  by_cases terminated : newline ∈ segment
  · obtain ⟨before, behind, rfl, plain⟩ := List.eq_append_cons_of_mem terminated
    rw [LineState.run_afterGap_newline plain, cutThroughNewline_append plain]
    exact ⟨rfl, rfl⟩
  · rw [LineState.run_afterGap_block terminated, cutThroughNewline_of_not_mem terminated]
    exact ⟨rfl, rfl⟩

/-- The machine over all segments, with the flush at the end, is the reference. The first segment
may be read from any state in which it is read like some segment from a line start. -/
theorem runSegments_eq_reference (state : LineState) (segment first : List UInt8)
    (rest : List (List UInt8))
    (emitted : (state.run options segment).2 = (LineState.fresh.run options first).2)
    (flushed : (state.run options segment).1.flush =
      (LineState.fresh.run options first).1.flush) :
    (state.runSegments options segment rest).2 ++
        (state.runSegments options segment rest).1.flush =
      reference options first rest := by
  induction rest generalizing state segment first with
  | nil =>
      rw [LineState.runSegments, reference, emitted, flushed]
      exact (run_segment limited first).2
  | cons next rest ih =>
      obtain ⟨emitted', flushed'⟩ := @run_afterGap options next
      rw [reference, ← (run_segment limited first).1,
        ← ih LineState.afterGap next (cutThroughNewline next) emitted' flushed', ← emitted,
        ← List.append_assoc]
      rfl

end Segments

/-! ## The result -/

/-- The parser emits and flushes what the machine does over the segments. -/
theorem parse_eq_runSegments (alloc : Allocator) (options : LineParsingOptions)
    (inputs : List Input) :
    parse alloc options inputs =
      .ok ((LineState.fresh.runSegments options (segments inputs).1 (segments inputs).2).2 ++
        (LineState.fresh.runSegments options (segments inputs).1 (segments inputs).2).1.flush) := by
  have within : LineParser.new.state.WithinLimit options := LineState.withinLimit_nil options _
  obtain ⟨parser, fed, final⟩ := LineParser.feed_eq alloc inputs within
  rw [run_observe_eq_runSegments] at fed final
  simp only [parse, fed, checked_ok_bind, LineParser.finish_eq_flush, final]
  rfl

/-- **Line parsing equals the reference splitter.** The lines of every input are those of the
reference over its segments. Neither the chunk boundaries nor the compaction threshold nor the
allocator occur on the right, and no subtraction of the parser panics. -/
theorem parse_eq_reference (alloc : Allocator) {options : LineParsingOptions}
    (limited : 0 < options.maxLineLength.bytes) (inputs : List Input) :
    parse alloc options inputs =
      .ok (reference options (segments inputs).1 (segments inputs).2) := by
  have whole := runSegments_eq_reference limited LineState.fresh (segments inputs).1
    (segments inputs).1 (segments inputs).2 rfl rfl
  rw [parse_eq_runSegments, whole]

/-- A line of exactly twice the limit is cut into two lines and its newline swallowed, the bytes
before a gap and up to the newline behind it are lost, and the last line is flushed. -/
theorem parse_two_segments :
    parse exactAllocator ⟨⟨2⟩, .emitAdditionalAsNewLines, some ⟨1⟩⟩
        [.chunk [97, 98, 99], .chunk [100, 10, 101], .gap, .chunk [102, 10, 103], .chunk [104, 105]] =
      .ok [[97, 98], [99, 100], [103, 104], [105]] := by
  have four : fragments 2 ([97, 98, 99, 100] : List UInt8) = [[97, 98], [99, 100]] := by
    rw [fragments_eq_cons (by decide) (by decide), fragments_of_length_le] <;> decide
  have three : fragments 2 ([103, 104, 105] : List UInt8) = [[103, 104], [105]] := by
    rw [fragments_eq_cons (by decide) (by decide), fragments_of_length_le] <;> decide
  have one : fragments 2 ([101] : List UInt8) = [[101]] := by
    rw [fragments_of_length_le] <;> decide
  obtain ⟨pieces, tail⟩ :=
    @splitOn_newline [97, 98, 99, 100] (by decide) ([101] : List UInt8)
  obtain ⟨pieces', tail'⟩ := @splitOn_plain [101] (by decide)
  obtain ⟨pieces'', tail''⟩ := @splitOn_plain [103, 104, 105] (by decide)
  have cut : cutThroughNewline [102, 10, 103, 104, 105] = [103, 104, 105] := by decide
  rw [parse_eq_reference exactAllocator (by decide)]
  simp only [newline, List.cons_append, List.nil_append] at pieces tail
  simp [segments, reference, segmentLines, pieces, pieces', pieces'', tail, tail', tail'', cut,
    pieceLines, tailLinesAtGap, tailLinesAtEnd, four, three, one]

end TokioProcessTools.OutputStream.Line
