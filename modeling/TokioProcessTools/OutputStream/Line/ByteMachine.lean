import TokioProcessTools.Foundation.Transducer
import TokioProcessTools.OutputStream.Line.Parser

/-!
# The line parser as a machine that reads one byte at a time

What the parser does to a line does not depend on how its bytes arrive. The
abstract machine here has the mode and the line in progress as its state and
reads single bytes; it knows no chunks, no cursor, no buffers and no
compaction. `nextLine` refines it: a call consumes part of the chunk, and the
run of the machine over what the call was given is the line it yields followed
by the run over what it left (`nextLine_refines`).

A full buffer is emitted by the call that finds it full, before that call looks
at the next byte. The machine emits it together with that byte. Both agree on
every chunk that is not empty, and a call on an empty chunk does nothing.
-/

set_option autoImplicit false

namespace TokioProcessTools.OutputStream.Line

open Foundation

/-- The mode and the line in progress. -/
structure LineState where
  mode : LineParserMode
  line : List UInt8
  deriving DecidableEq, Repr

namespace LineState

/-- The state of a fresh parser. -/
def fresh : LineState := ⟨.readingLine, []⟩

/-- The state after a gap. -/
def afterGap : LineState := ⟨.discardUntilNewline, []⟩

variable (options : LineParsingOptions)

/-- Add a byte that does not end the line. Under `EmitAdditionalAsNewLines` a line that becomes
full is emitted at once, and a delimiter directly after it is swallowed. -/
def push (line : List UInt8) (byte : UInt8) : LineState × List LineBytes :=
  if options.maxLineLength.bytes ≠ 0 ∧ line.length + 1 = options.maxLineLength.bytes ∧
      options.overflowBehavior = .emitAdditionalAsNewLines then
    (⟨.pendingLimitDelimiter, []⟩, [line ++ [byte]])
  else (⟨.readingLine, line ++ [byte]⟩, [])

/-- Read one byte. -/
def read (state : LineState) (byte : UInt8) : LineState × List LineBytes :=
  match state.mode with
  | .discardUntilNewline => (if byte = newline then fresh else state, [])
  | .pendingLimitDelimiter =>
      if byte = newline then (fresh, []) else push options state.line byte
  | .readingLine =>
      if options.maxLineLength.bytes ≠ 0 ∧ state.line.length = options.maxLineLength.bytes then
        -- Only `DropAdditionalData` keeps a full line in the buffer.
        (if byte = newline then fresh else afterGap, [state.line])
      else if byte = newline then (fresh, [state.line])
      else push options state.line byte

/-- Flush the unterminated line at the end of the input. -/
def flush (state : LineState) : List LineBytes :=
  if state.mode = .discardUntilNewline ∨ state.line = [] then [] else [state.line]

/-- The states the parser reaches under fixed options: the line in progress fits the limit, it is
not yet full under `EmitAdditionalAsNewLines`, and only a line that is being read has bytes. -/
structure WithinLimit (state : LineState) : Prop where
  fits : options.maxLineLength.bytes ≠ 0 → state.line.length ≤ options.maxLineLength.bytes
  room : options.maxLineLength.bytes ≠ 0 →
    options.overflowBehavior = .emitAdditionalAsNewLines →
      state.line.length < options.maxLineLength.bytes
  idle : state.mode ≠ .readingLine → state.line = []

theorem withinLimit_nil (mode : LineParserMode) : WithinLimit options ⟨mode, []⟩ where
  fits := fun _ => Nat.zero_le _
  room := fun limited _ => Nat.pos_of_ne_zero limited
  idle := fun _ => rfl

variable {options}

/-- A byte without delimiter keeps the state within the limit. -/
theorem WithinLimit.push {line : List UInt8} (byte : UInt8)
    (below : options.maxLineLength.bytes ≠ 0 → line.length < options.maxLineLength.bytes) :
    WithinLimit options (LineState.push options line byte).1 := by
  unfold LineState.push
  split
  · exact withinLimit_nil options _
  · rename_i notFull
    refine ⟨fun limited => ?_, fun limited emits => ?_, fun notReading => absurd rfl notReading⟩
    · have := below limited
      simp only [List.length_append, List.length_singleton]
      omega
    · have bound := below limited
      have notMax : line.length + 1 ≠ options.maxLineLength.bytes :=
        fun full => notFull ⟨limited, full, emits⟩
      simp only [List.length_append, List.length_singleton]
      omega

/-- Reading a byte keeps the state within the limit. -/
theorem WithinLimit.read {state : LineState} (within : WithinLimit options state) (byte : UInt8) :
    WithinLimit options (state.read options byte).1 := by
  unfold LineState.read
  split
  · split
    · exact withinLimit_nil options _
    · exact within
  · rename_i pending
    have empty : state.line = [] := within.idle (by simp [pending])
    split
    · exact withinLimit_nil options _
    · exact WithinLimit.push byte fun limited => by
        rw [empty]
        exact Nat.pos_of_ne_zero limited
  · split
    · split <;> exact withinLimit_nil options _
    · rename_i notFull
      split
      · exact withinLimit_nil options _
      · exact WithinLimit.push byte fun limited =>
          Nat.lt_of_le_of_ne (within.fits limited) fun full => notFull ⟨limited, full⟩

/-! ## Runs over a block without a delimiter -/

variable (options) in
/-- The run of the machine over a list of bytes. -/
def run (state : LineState) (bytes : List UInt8) : LineState × List LineBytes :=
  Transducer.run (LineState.read options) state bytes

@[simp] theorem run_nil (state : LineState) : state.run options [] = (state, []) := rfl

theorem run_cons (state : LineState) (byte : UInt8) (rest : List UInt8) :
    state.run options (byte :: rest) =
      (((state.read options byte).1.run options rest).1,
        (state.read options byte).2 ++ ((state.read options byte).1.run options rest).2) := rfl

theorem run_append (state : LineState) (first second : List UInt8) :
    state.run options (first ++ second) =
      (((state.run options first).1.run options second).1,
        (state.run options first).2 ++ ((state.run options first).1.run options second).2) :=
  Transducer.run_append state first second

theorem WithinLimit.run {state : LineState} (within : WithinLimit options state)
    (bytes : List UInt8) : WithinLimit options (state.run options bytes).1 := by
  induction bytes generalizing state with
  | nil => exact within
  | cons byte rest ih => exact ih (within.read byte)

/-- Bytes that fit the line are appended to it. -/
theorem run_block (line : List UInt8) {block : List UInt8} (plain : newline ∉ block)
    (fits : options.maxLineLength.bytes ≠ 0 →
      line.length + block.length ≤ options.maxLineLength.bytes)
    (room : options.maxLineLength.bytes ≠ 0 →
      options.overflowBehavior = .emitAdditionalAsNewLines →
        line.length + block.length < options.maxLineLength.bytes) :
    run options ⟨.readingLine, line⟩ block = (⟨.readingLine, line ++ block⟩, []) := by
  induction block generalizing line with
  | nil => simp
  | cons byte rest ih =>
      simp only [List.mem_cons, not_or] at plain
      simp only [List.length_cons] at fits room
      have notFull : ¬ (options.maxLineLength.bytes ≠ 0 ∧
          line.length = options.maxLineLength.bytes) := by
        rintro ⟨limited, full⟩
        have := fits limited
        omega
      have notEmitted : ¬ (options.maxLineLength.bytes ≠ 0 ∧
          line.length + 1 = options.maxLineLength.bytes ∧
            options.overflowBehavior = .emitAdditionalAsNewLines) := by
        rintro ⟨limited, full, emits⟩
        have := room limited emits
        omega
      have one : LineState.read options ⟨.readingLine, line⟩ byte =
          (⟨.readingLine, line ++ [byte]⟩, []) := by
        simp only [LineState.read, if_neg notFull, if_neg (Ne.symm plain.1), LineState.push,
          if_neg notEmitted]
      have later := ih (line ++ [byte]) plain.2
        (fun limited => by have := fits limited; simp; omega)
        (fun limited emits => by have := room limited emits; simp; omega)
      rw [run_cons, one]
      simp only [later, List.nil_append, List.append_assoc, List.cons_append]

/-- Under `EmitAdditionalAsNewLines` the byte that fills the line emits it. -/
theorem run_block_full {line block : List UInt8} (plain : newline ∉ block) (some : block ≠ [])
    (limited : options.maxLineLength.bytes ≠ 0)
    (emits : options.overflowBehavior = .emitAdditionalAsNewLines)
    (full : line.length + block.length = options.maxLineLength.bytes) :
    run options ⟨.readingLine, line⟩ block =
      (⟨.pendingLimitDelimiter, []⟩, [line ++ block]) := by
  obtain ⟨init, last, rfl⟩ : ∃ init last, block = init ++ [last] :=
    ⟨block.dropLast, block.getLast some, (List.dropLast_append_getLast some).symm⟩
  simp only [List.mem_append, List.mem_singleton, not_or] at plain
  simp only [List.length_append, List.length_singleton] at full
  have early : run options ⟨.readingLine, line⟩ init = (⟨.readingLine, line ++ init⟩, []) :=
    run_block line plain.1 (fun _ => by omega) (fun _ _ => by omega)
  have notFull : ¬ (options.maxLineLength.bytes ≠ 0 ∧
      (line ++ init).length = options.maxLineLength.bytes) := by
    rintro ⟨_, same⟩
    simp only [List.length_append] at same
    omega
  have emitted : options.maxLineLength.bytes ≠ 0 ∧
      (line ++ init).length + 1 = options.maxLineLength.bytes ∧
        options.overflowBehavior = .emitAdditionalAsNewLines :=
    ⟨limited, by simp only [List.length_append]; omega, emits⟩
  rw [run_append, early, run_cons]
  simp only [LineState.read, if_neg notFull, if_neg (Ne.symm plain.2), LineState.push,
    if_pos emitted, run_nil, List.nil_append, List.append_nil, List.append_assoc]

/-- The delimiter ends a line that is being read and is not full. -/
theorem run_newline {line rest : List UInt8}
    (below : options.maxLineLength.bytes ≠ 0 → line.length ≠ options.maxLineLength.bytes) :
    run options ⟨.readingLine, line⟩ (newline :: rest) =
      ((run options fresh rest).1, line :: (run options fresh rest).2) := by
  have notFull : ¬ (options.maxLineLength.bytes ≠ 0 ∧
      line.length = options.maxLineLength.bytes) := fun full => below full.1 full.2
  simp only [run_cons, LineState.read, if_neg notFull, if_true, List.cons_append,
    List.nil_append]

/-- A full line is emitted with the byte behind it, and what follows is read as after a gap. -/
theorem run_full {line : List UInt8} (byte : UInt8) (rest : List UInt8)
    (full : options.maxLineLength.bytes ≠ 0 ∧ line.length = options.maxLineLength.bytes) :
    run options ⟨.readingLine, line⟩ (byte :: rest) =
      ((run options afterGap (byte :: rest)).1, line :: (run options afterGap (byte :: rest)).2) := by
  have first : LineState.read options ⟨.readingLine, line⟩ byte =
      (if byte = newline then fresh else afterGap, [line]) := if_pos full
  rw [run_cons, run_cons, first]
  rfl

/-- Behind an emitted full line, a byte other than the delimiter starts a fresh line. -/
theorem run_pending {byte : UInt8} (plain : byte ≠ newline) (rest : List UInt8) :
    run options ⟨.pendingLimitDelimiter, []⟩ (byte :: rest) = run options fresh (byte :: rest) := by
  have notFull : ¬ (options.maxLineLength.bytes ≠ 0 ∧
      ([] : List UInt8).length = options.maxLineLength.bytes) := fun full => full.1 full.2.symm
  have same : LineState.read options ⟨.pendingLimitDelimiter, []⟩ byte =
      LineState.read options fresh byte := by
    simp only [LineState.read, fresh, if_neg plain, if_neg notFull]
  rw [run_cons, run_cons, same]

/-- Behind an emitted full line, one delimiter is swallowed. -/
theorem run_pending_newline (rest : List UInt8) :
    run options ⟨.pendingLimitDelimiter, []⟩ (newline :: rest) = run options fresh rest := by
  rw [run_cons]
  simp only [LineState.read, if_true, List.nil_append]

/-- Nothing is emitted until the delimiter while discarding. -/
theorem run_afterGap_block {block : List UInt8} (plain : newline ∉ block) :
    run options afterGap block = (afterGap, []) := by
  induction block with
  | nil => rfl
  | cons byte rest ih =>
      simp only [List.mem_cons, not_or] at plain
      rw [run_cons]
      simp only [LineState.read, afterGap, if_neg (Ne.symm plain.1), List.nil_append]
      exact ih plain.2

/-- Discarding ends behind the first delimiter. -/
theorem run_afterGap_newline {block rest : List UInt8} (plain : newline ∉ block) :
    run options afterGap (block ++ newline :: rest) = run options fresh rest := by
  rw [run_append, run_afterGap_block plain, run_cons]
  simp only [LineState.read, afterGap, if_true, List.nil_append]

end LineState

/-! ## The parser refines the machine -/

namespace LineParser

/-- What the parser remembers of its input. -/
def state (parser : LineParser) : LineState := ⟨parser.mode, parser.lineBuffer.bytes⟩

variable (alloc : Allocator) {options : LineParsingOptions}

/-- The run of the machine that is left after a line was yielded. -/
def yielding (line : LineBytes) (later : LineState × List LineBytes) :
    LineState × List LineBytes := (later.1, line :: later.2)

variable (options) in
/-- A call that was to perform the run `whole` of the machine, and left the parser in `parser`
with the cursor at `rest` after yielding a line or nothing, did its part of it. -/
def Refines (whole : LineState × List LineBytes) (parser : LineParser) (rest : List UInt8) :
    Option LineBytes → Prop
  | none => rest = [] ∧ whole = (parser.state, [])
  | some line => whole = yielding line (parser.state.run options rest)

variable (options) in
/-- A pass through the loop did its part of the run `whole`. -/
def Pass.Refines (whole : LineState × List LineBytes) : Pass → Prop
  | .again parser rest =>
      parser.state.WithinLimit options ∧ whole = parser.state.run options rest
  | .done parser rest line =>
      parser.state.WithinLimit options ∧ LineParser.Refines options whole parser rest line

theorem memchr_eq_some {byte : UInt8} {slice : List UInt8} {pos : Nat}
    (found : memchr byte slice = some pos) :
    byte ∉ slice.take pos ∧ slice = slice.take pos ++ byte :: slice.drop (pos + 1) := by
  unfold memchr at found
  obtain ⟨inside, here, before⟩ := List.idxOf?_eq_some_iff.mp found
  refine ⟨fun member => ?_, ?_⟩
  · obtain ⟨index, bound, same⟩ := List.mem_iff_getElem.mp member
    rw [List.length_take] at bound
    rw [List.getElem_take] at same
    exact before index (by omega) same
  · rw [← here, List.getElem_cons_drop, List.take_append_drop]

theorem memchr_eq_none {byte : UInt8} {slice : List UInt8} (missing : memchr byte slice = none) :
    byte ∉ slice := by
  simpa [memchr] using missing

theorem state_extend (parser : LineParser) (slice : List UInt8) :
    state { parser with lineBuffer := parser.lineBuffer.extendFromSlice alloc slice } =
      ⟨parser.mode, parser.lineBuffer.bytes ++ slice⟩ := rfl

/-- A full buffer is emitted before the next byte is looked at; the machine emits it together
with that byte. -/
theorem emitIn_overflow_refines {parser : LineParser} {chunk : List UInt8}
    (within : parser.state.WithinLimit options) (reading : parser.mode = .readingLine)
    (full : parser.AtLimit options) (nonempty : chunk ≠ []) :
    (parser.emitIn (overflowMode options) chunk).Refines options (parser.state.run options chunk) := by
  have drops : options.overflowBehavior = .dropAdditionalData := by
    cases behavior : options.overflowBehavior with
    | dropAdditionalData => rfl
    | emitAdditionalAsNewLines =>
        exact absurd full.2 (Nat.ne_of_lt (within.room full.1 behavior))
  obtain ⟨byte, rest, rfl⟩ := List.exists_cons_of_ne_nil nonempty
  have here : parser.state = ⟨.readingLine, parser.lineBuffer.bytes⟩ := by rw [state, reading]
  have discarding : overflowMode options = .discardUntilNewline := by rw [overflowMode, drops]
  rw [emitIn_eq, discarding]
  refine ⟨LineState.withinLimit_nil options _, ?_⟩
  rw [LineParser.Refines, here]
  exact LineState.run_full byte rest full

/-- A newline found in the scanned part of a chunk, with what is behind it in the chunk. -/
theorem memchr_take_eq_some {chunk : List UInt8} {scanLen pos : Nat} (inside : scanLen ≤ chunk.length)
    (found : memchr newline (chunk.take scanLen) = some pos) :
    newline ∉ (chunk.take scanLen).take pos ∧ pos < scanLen ∧
      chunk = (chunk.take scanLen).take pos ++ newline :: chunk.drop (pos + 1) := by
  obtain ⟨plain, split⟩ := memchr_eq_some found
  have scanned : (chunk.take scanLen).length = scanLen := by
    rw [List.length_take]
    omega
  have before : pos < scanLen := by
    have := congrArg List.length split
    simp only [List.length_append, List.length_cons, scanned] at this
    rw [List.length_take, List.length_drop] at this
    omega
  have rest : chunk.drop (pos + 1) =
      (chunk.take scanLen).drop (pos + 1) ++ chunk.drop scanLen := by
    nth_rewrite 1 [← List.take_append_drop scanLen chunk]
    rw [List.drop_append_of_le_length (by omega)]
  refine ⟨plain, before, ?_⟩
  rw [rest, ← List.cons_append, ← List.append_assoc, ← split, List.take_append_drop]

section Scanning

variable {parser : LineParser} {chunk : List UInt8} {scanLen : Nat}
  (reading : parser.mode = .readingLine) (inside : scanLen ≤ chunk.length)
  (fits : options.maxLineLength.bytes ≠ 0 →
    parser.lineBuffer.bytes.length + scanLen ≤ options.maxLineLength.bytes)

include reading inside fits

/-- A newline within the limit ends the line. -/
theorem scanUpTo_newline_refines (within : parser.state.WithinLimit options) {pos : Nat}
    (found : memchr newline (chunk.take scanLen) = some pos) :
    (parser.scanUpTo alloc options chunk scanLen).Refines options (parser.state.run options chunk) := by
  have here : parser.state = ⟨.readingLine, parser.lineBuffer.bytes⟩ := by rw [state, reading]
  obtain ⟨plain, before, cut⟩ := memchr_take_eq_some inside found
  have ended : parser.state.run options chunk =
      yielding (parser.lineBuffer.bytes ++ (chunk.take scanLen).take pos)
        (LineState.fresh.run options (chunk.drop (pos + 1))) := by
    have short : ((chunk.take scanLen).take pos).length = pos := by
      rw [List.length_take, List.length_take]
      omega
    nth_rewrite 1 [cut]
    rw [here, LineState.run_append,
      LineState.run_block _ plain (fun limited => by have := fits limited; omega)
        (fun limited _ => by have := fits limited; omega),
      LineState.run_newline (fun limited => by
        have := fits limited
        simp only [List.length_append, short]
        omega)]
    rfl
  by_cases empty : parser.lineBuffer.bytes = []
  · have taken : parser.scanUpTo alloc options chunk scanLen =
        .done parser (chunk.drop (pos + 1)) (some ((chunk.take scanLen).take pos)) := by
      simp only [scanUpTo, found, empty, List.isEmpty_nil, if_true]
    rw [taken]
    refine ⟨within, ?_⟩
    rw [empty, List.nil_append] at ended
    have same : parser.state = LineState.fresh := by rw [here, empty]; rfl
    rw [LineParser.Refines, ended, same]
  · have taken : parser.scanUpTo alloc options chunk scanLen =
        .done ⟨parser.emitted.clear,
            parser.lineBuffer.extendFromSlice alloc ((chunk.take scanLen).take pos),
            parser.mode⟩
          (chunk.drop (pos + 1))
          (some (parser.lineBuffer.bytes ++ (chunk.take scanLen).take pos)) := by
      simp only [scanUpTo, found, List.isEmpty_iff, empty, if_false, emitIn_eq,
        BytesMut.extendFromSlice_bytes]
    have same : state ⟨parser.emitted.clear,
        parser.lineBuffer.extendFromSlice alloc ((chunk.take scanLen).take pos),
        parser.mode⟩ = LineState.fresh := by
      rw [state, reading]
      rfl
    rw [taken]
    refine ⟨?_, ?_⟩
    · rw [same]
      exact LineState.withinLimit_nil options _
    · rw [LineParser.Refines, same, ended]

/-- Without a newline the scanned bytes are buffered, and emitted if they fill the line. -/
theorem scanUpTo_plain_refines (positive : 0 < scanLen)
    (found : memchr newline (chunk.take scanLen) = none) :
    (parser.scanUpTo alloc options chunk scanLen).Refines options (parser.state.run options chunk) := by
  have here : parser.state = ⟨.readingLine, parser.lineBuffer.bytes⟩ := by rw [state, reading]
  have scanned : (chunk.take scanLen).length = scanLen := by
    rw [List.length_take]
    omega
  have plain := memchr_eq_none found
  have cut : parser.state.run options chunk =
      parser.state.run options (chunk.take scanLen ++ chunk.drop scanLen) := by
    rw [List.take_append_drop]
  rw [LineState.run_append, here] at cut
  -- Whether the scanned bytes fill the line decides between emitting it and reading on.
  by_cases fills : (options.maxLineLength.bytes ≠ 0 ∧
      (parser.lineBuffer.bytes ++ chunk.take scanLen).length =
        options.maxLineLength.bytes) ∧
        options.overflowBehavior = .emitAdditionalAsNewLines
  · have taken : parser.scanUpTo alloc options chunk scanLen =
        .done ⟨parser.emitted.clear,
            parser.lineBuffer.extendFromSlice alloc (chunk.take scanLen),
            .pendingLimitDelimiter⟩
          (chunk.drop scanLen) (some (parser.lineBuffer.bytes ++ chunk.take scanLen)) := by
      simp only [scanUpTo, found]
      exact if_pos fills
    obtain ⟨⟨limited, full⟩, emits⟩ := fills
    have some : chunk.take scanLen ≠ [] := List.ne_nil_of_length_pos (by omega)
    rw [List.length_append] at full
    rw [LineState.run_block_full plain some limited emits full] at cut
    rw [taken]
    refine ⟨LineState.withinLimit_nil options _, ?_⟩
    rw [LineParser.Refines, here, cut]
    rfl
  · have taken : parser.scanUpTo alloc options chunk scanLen =
        .again { parser with
          lineBuffer := parser.lineBuffer.extendFromSlice alloc (chunk.take scanLen) }
          (chunk.drop scanLen) := by
      simp only [scanUpTo, found]
      exact if_neg fills
    have room : options.maxLineLength.bytes ≠ 0 →
        options.overflowBehavior = .emitAdditionalAsNewLines →
          parser.lineBuffer.bytes.length + (chunk.take scanLen).length <
            options.maxLineLength.bytes := by
      intro limited emits
      have notFull : (parser.lineBuffer.bytes ++ chunk.take scanLen).length ≠
          options.maxLineLength.bytes := fun full => fills ⟨⟨limited, full⟩, emits⟩
      have := fits limited
      rw [List.length_append] at notFull
      omega
    rw [LineState.run_block _ plain (fun limited => by have := fits limited; omega) room]
      at cut
    rw [taken]
    refine ⟨?_, ?_⟩
    · rw [state_extend]
      refine ⟨fun limited => ?_, fun limited emits => ?_, fun other => absurd reading other⟩
      · have := fits limited
        rw [List.length_append]
        omega
      · have := room limited emits
        rw [List.length_append]
        omega
    · rw [here, cut, state_extend, reading]
      rfl

/-- Scanning up to the limit refines the machine. -/
theorem scanUpTo_refines (within : parser.state.WithinLimit options) (positive : 0 < scanLen) :
    (parser.scanUpTo alloc options chunk scanLen).Refines options (parser.state.run options chunk) := by
  cases found : memchr newline (chunk.take scanLen) with
  | some pos => exact scanUpTo_newline_refines alloc reading inside fits within found
  | none => exact scanUpTo_plain_refines alloc reading inside fits positive found

end Scanning

/-- Scanning a line refines the machine and does not panic. -/
theorem scanLine_refines {parser : LineParser} {chunk : List UInt8}
    (within : parser.state.WithinLimit options) (reading : parser.mode = .readingLine)
    (nonempty : chunk ≠ []) :
    ∃ result, parser.scanLine alloc options chunk = .ok result ∧
      result.Refines options (parser.state.run options chunk) := by
  have positive : 0 < chunk.length := List.length_pos_iff.mpr nonempty
  by_cases full : parser.AtLimit options
  · exact ⟨_, if_pos full, emitIn_overflow_refines within reading full nonempty⟩
  · by_cases unlimited : options.maxLineLength.bytes = 0
    · refine ⟨parser.scanUpTo alloc options chunk chunk.length, ?_, ?_⟩
      · simp only [scanLine, if_neg full, remainingLineLength, if_pos unlimited, checked_ok_bind,
          Nat.min_self]
        rfl
      · exact scanUpTo_refines alloc reading (Nat.le_refl _)
          (fun limited => absurd unlimited limited) within positive
    · have fits : parser.lineBuffer.bytes.length ≤ options.maxLineLength.bytes :=
        within.fits unlimited
      have room : parser.lineBuffer.bytes.length ≠ options.maxLineLength.bytes :=
        fun same => full ⟨unlimited, same⟩
      refine ⟨parser.scanUpTo alloc options chunk
        (min (options.maxLineLength.bytes - parser.lineBuffer.bytes.length) chunk.length), ?_, ?_⟩
      · simp only [scanLine, if_neg full, remainingLineLength, if_neg unlimited,
          checkedSub_of_le fits, checked_ok_bind]
        rfl
      · exact scanUpTo_refines alloc reading (by omega) (fun _ => by omega) within (by omega)

/-- A pass while discarding skips to the byte behind the delimiter, or to the end. -/
theorem pass_refines_discarding {parser : LineParser} {chunk : List UInt8}
    (within : parser.state.WithinLimit options) (mode : parser.mode = .discardUntilNewline) :
    ∃ result, parser.pass alloc options chunk = .ok result ∧
      result.Refines options (parser.state.run options chunk) := by
  have empty : parser.lineBuffer.bytes = [] := within.idle (by simp [state, mode])
  have here : parser.state = LineState.afterGap := by rw [state, mode, empty]; rfl
  cases found : memchr newline chunk with
  | some pos =>
      obtain ⟨plain, cut⟩ := memchr_eq_some found
      have there : state { parser with mode := .readingLine } = LineState.fresh := by
        rw [state, empty]
        rfl
      refine ⟨.again { parser with mode := .readingLine } (chunk.drop (pos + 1)),
        by simp only [pass, mode, found], ?_, ?_⟩
      · rw [there]
        exact LineState.withinLimit_nil options _
      · nth_rewrite 1 [cut]
        rw [here, there, LineState.run_afterGap_newline plain]
  | none =>
      refine ⟨.done parser [] none, by simp only [pass, mode, found], within, rfl, ?_⟩
      rw [here, LineState.run_afterGap_block (memchr_eq_none found)]

/-- A pass behind an emitted full line swallows one delimiter. -/
theorem pass_refines_pending {parser : LineParser} {chunk : List UInt8}
    (within : parser.state.WithinLimit options) (mode : parser.mode = .pendingLimitDelimiter)
    (nonempty : chunk ≠ []) :
    ∃ result, parser.pass alloc options chunk = .ok result ∧
      result.Refines options (parser.state.run options chunk) := by
  have empty : parser.lineBuffer.bytes = [] := within.idle (by simp [state, mode])
  have here : parser.state = ⟨.pendingLimitDelimiter, []⟩ := by rw [state, mode, empty]
  have there : state { parser with mode := .readingLine } = LineState.fresh := by
    rw [state, empty]
    rfl
  have within' : (state { parser with mode := .readingLine }).WithinLimit options := by
    rw [there]
    exact LineState.withinLimit_nil options _
  obtain ⟨byte, rest, rfl⟩ := List.exists_cons_of_ne_nil nonempty
  by_cases delimiter : byte = newline
  · refine ⟨.again { parser with mode := .readingLine } rest, ?_, within', ?_⟩
    · simp only [pass, mode, List.head?_cons, delimiter, if_true, List.drop_succ_cons,
        List.drop_zero]
    · rw [there, here, delimiter, LineState.run_pending_newline]
  · obtain ⟨result, taken, refined⟩ := scanLine_refines alloc within' rfl nonempty
    refine ⟨result, ?_, ?_⟩
    · simp only [pass, mode, List.head?_cons, Option.some.injEq, if_neg delimiter]
      exact taken
    · rw [here, LineState.run_pending delimiter, ← there]
      exact refined

/-- **A pass of the loop refines the machine and does not panic.** -/
theorem pass_refines {parser : LineParser} {chunk : List UInt8}
    (within : parser.state.WithinLimit options) (nonempty : chunk ≠ []) :
    ∃ result, parser.pass alloc options chunk = .ok result ∧
      result.Refines options (parser.state.run options chunk) := by
  cases mode : parser.mode with
  | discardUntilNewline => exact pass_refines_discarding alloc within mode
  | pendingLimitDelimiter => exact pass_refines_pending alloc within mode nonempty
  | readingLine =>
      obtain ⟨result, taken, refined⟩ := scanLine_refines alloc within mode nonempty
      exact ⟨result, by simp only [pass, mode]; exact taken, refined⟩

theorem nextLineLoop_refines {parser : LineParser} {chunk : List UInt8}
    (within : parser.state.WithinLimit options) :
    ∃ yield, parser.nextLineLoop alloc options chunk = .ok yield ∧
      yield.parser.state.WithinLimit options ∧
        Refines options (parser.state.run options chunk) yield.parser yield.chunk yield.line := by
  induction size : chunk.length using Nat.strongRecOn generalizing parser chunk with
  | _ size ih =>
      rw [nextLineLoop]
      split
      · rename_i empty
        exact ⟨⟨parser, [], none⟩, rfl, within, rfl, by rw [empty, LineState.run_nil]⟩
      · rename_i nonempty
        obtain ⟨result, passed, refined⟩ := pass_refines alloc within nonempty
        split
        · rename_i failed
          cases passed.symm.trans failed
        · rename_i next rest line taken
          obtain rfl := Except.ok.inj (passed.symm.trans taken)
          exact ⟨⟨next, rest, line⟩, rfl, refined⟩
        · rename_i next rest taken
          obtain rfl := Except.ok.inj (passed.symm.trans taken)
          rw [refined.2]
          exact ih rest.length (size ▸ pass_again_length taken nonempty) refined.1 rfl

/-- **A call of `next_line` refines the machine and does not panic.** -/
theorem nextLine_refines {parser : LineParser} {chunk : List UInt8}
    (within : parser.state.WithinLimit options) :
    ∃ yield, parser.nextLine alloc options chunk = .ok yield ∧
      yield.parser.state.WithinLimit options ∧
        Refines options (parser.state.run options chunk) yield.parser yield.chunk yield.line := by
  have same : (parser.compactIfNeeded options.bufferCompactionThreshold).state = parser.state := by
    rw [state, compactIfNeeded_mode, compactIfNeeded_lineBuffer_bytes, state]
  rw [nextLine, ← same]
  exact nextLineLoop_refines alloc (same.symm ▸ within)

/-- Flushing at the end of the input. -/
theorem finish_eq_flush (parser : LineParser) :
    parser.finish.2.toList = parser.state.flush := by
  unfold finish LineState.flush state
  split <;> rfl

end LineParser

end TokioProcessTools.OutputStream.Line
