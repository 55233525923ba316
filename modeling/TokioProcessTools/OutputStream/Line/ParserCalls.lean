import TokioProcessTools.OutputStream.Line.Driving
import Mathlib.Data.List.Forall2

/-!
# Sequences of calls on a parser

`LineParser` is public, and `next_line` takes its options anew on every call. A
caller may drive a chunk to its end or abandon it, announce gaps and flush at
any time.

Under fixed options every sequence of calls succeeds and leaves both buffers
within the limit (`calls_within_limit`), and driving any chunk from there ends:
the loop inside `next_line` makes at most one pass a byte, and the caller's loop
is over with an empty cursor after at most one line more than the chunk has
bytes (`driving_ends`).

The limit may shrink below what is already buffered when the options change. The
parser compares the length of the buffer with the limit by equality and then
subtracts it from the limit, so such a call panics. A sequence of calls is safe
exactly if none of its calls meets a buffer that is longer than its own limit
(`calls_safe_iff`). A caller need not look at the buffer for this: it is enough that
limits shrink only behind a gap or a flush (`calls_safe_of_neverShrinks`).
-/

set_option autoImplicit false

namespace TokioProcessTools.OutputStream.Line

open Foundation

/-- The bytes are within the maximal length of a line, if there is one. -/
def LineParsingOptions.Fits (options : LineParsingOptions) (bytes : List UInt8) : Prop :=
  options.maxLineLength.bytes ≠ 0 → bytes.length ≤ options.maxLineLength.bytes

theorem LineParsingOptions.fits_nil (options : LineParsingOptions) : options.Fits [] :=
  fun _ => Nat.zero_le _

/-- The limit is not smaller than that of the earlier options. -/
def LineParsingOptions.NotBelow (options earlier : LineParsingOptions) : Prop :=
  options.maxLineLength.bytes ≠ 0 → earlier.maxLineLength.bytes ≠ 0 ∧
    earlier.maxLineLength.bytes ≤ options.maxLineLength.bytes

theorem LineParsingOptions.Fits.mono {options earlier : LineParsingOptions} {bytes : List UInt8}
    (fits : earlier.Fits bytes) (notBelow : options.NotBelow earlier) : options.Fits bytes := by
  intro limited
  obtain ⟨before, le⟩ := notBelow limited
  exact Nat.le_trans (fits before) le

/-- A call on a parser. -/
inductive ParserCall where
  | nextLine (chunk : List UInt8) (options : LineParsingOptions)
  | onGap
  | finish
  deriving DecidableEq, Repr

namespace ParserCall

/-- The call carries no options other than the given ones. -/
def Uses (options : LineParsingOptions) : ParserCall → Prop
  | .nextLine _ own => own = options
  | .onGap | .finish => True

/-- A line the call yields is within the limit of the call. -/
def Allows : ParserCall → Option LineBytes → Prop
  | .nextLine _ options, reply => ∀ line ∈ reply, options.Fits line
  | .onGap, _ | .finish, _ => True

/-- A call that reads bytes finds a line in progress that is within its own limit. -/
def FindsRoom : ParserCall → LineParser → Prop
  | .nextLine chunk options, parser => chunk ≠ [] → options.Fits parser.lineBuffer.bytes
  | .onGap, _ | .finish, _ => True

/-- No call that reads bytes has a smaller limit than the one before it, unless a gap or a flush stands
between them. The option is what the last such call was given. -/
def NeverShrinks : Option LineParsingOptions → List ParserCall → Prop
  | _, [] => True
  | _, .onGap :: rest | _, .finish :: rest => NeverShrinks none rest
  | last, .nextLine [] _ :: rest => NeverShrinks last rest
  | last, .nextLine (_ :: _) options :: rest =>
      (∀ earlier ∈ last, options.NotBelow earlier) ∧ NeverShrinks (some options) rest

end ParserCall

namespace LineParser

section Calls

variable (alloc : Allocator)

/-- One call: the parser behind it, and the line it yields. -/
def call (parser : LineParser) : ParserCall → Checked (LineParser × Option LineBytes)
  | .nextLine chunk options => do
      let yield ← parser.nextLine alloc options chunk
      .ok (yield.parser, yield.line)
  | .onGap => .ok (parser.onGap, none)
  | .finish => .ok parser.finish

/-- A sequence of calls: the parser behind the last one, and what each of them yields. -/
def runCalls : LineParser → List ParserCall → Checked (LineParser × List (Option LineBytes))
  | parser, [] => .ok (parser, [])
  | parser, next :: rest => do
      let (parser, line) ← parser.call alloc next
      let (parser, lines) ← parser.runCalls rest
      .ok (parser, line :: lines)

variable {alloc}

theorem runCalls_cons {parser final : LineParser} {next : ParserCall} {rest : List ParserCall}
    {lines : List (Option LineBytes)} :
    parser.runCalls alloc (next :: rest) = .ok (final, lines) ↔
      ∃ later line others, parser.call alloc next = .ok (later, line) ∧
        later.runCalls alloc rest = .ok (final, others) ∧ lines = line :: others := by
  rw [runCalls]
  cases called : parser.call alloc next with
  | error reason => simp [Bind.bind, Except.bind]
  | ok reply =>
      obtain ⟨later, line⟩ := reply
      simp only [checked_ok_bind]
      cases ran : later.runCalls alloc rest with
      | error reason => simp [Bind.bind, Except.bind, ran]
      | ok result =>
          obtain ⟨behind, others⟩ := result
          simp only [checked_ok_bind, Except.ok.injEq, Prod.mk.injEq]
          constructor
          · rintro ⟨rfl, rfl⟩
            exact ⟨later, line, others, ⟨rfl, rfl⟩, ran, rfl⟩
          · rintro ⟨_, _, _, ⟨rfl, rfl⟩, again, rfl⟩
            cases ran.symm.trans again
            exact ⟨rfl, rfl⟩

end Calls

/-! ## What a call does to the buffers -/

/-- The line in progress is within the limit, and only a line that is being read has bytes. -/
structure FitsLimit (options : LineParsingOptions) (parser : LineParser) : Prop where
  fits : options.Fits parser.lineBuffer.bytes
  idle : parser.mode ≠ .readingLine → parser.lineBuffer.bytes = []

/-- A call keeps the line in progress within the limit. The line it yields is within the limit, and
the slot for emitted lines holds what it held before or something within the limit. -/
structure Keeps (options : LineParsingOptions) (before : BytesMut) (after : LineParser)
    (line : Option LineBytes) : Prop where
  parser : after.FitsLimit options
  line : ∀ bytes ∈ line, options.Fits bytes
  emitted : after.emitted.bytes = before.bytes ∨ options.Fits after.emitted.bytes

/-- A pass through the loop of `next_line` keeps the buffers within the limit. -/
def Pass.Keeps (options : LineParsingOptions) (before : BytesMut) : Pass → Prop
  | .again after _ => LineParser.Keeps options before after none
  | .done after _ line => LineParser.Keeps options before after line

section Passes

variable (alloc : Allocator) {options : LineParsingOptions}

/-- A parser with an empty line buffer is within every limit. -/
theorem fitsLimit_of_nil {parser : LineParser} (empty : parser.lineBuffer.bytes = []) :
    parser.FitsLimit options :=
  ⟨empty ▸ options.fits_nil, fun _ => empty⟩

/-- Emitting a buffer that is within the limit. -/
theorem emitIn_keeps (before : BytesMut) {parser : LineParser} (mode : LineParserMode)
    (chunk : List UInt8) (fits : options.Fits parser.lineBuffer.bytes) :
    (parser.emitIn mode chunk).Keeps options before := by
  rw [emitIn_eq]
  refine ⟨fitsLimit_of_nil rfl, ?_, .inr fits⟩
  intro bytes yielded
  cases yielded
  exact fits

/-- Scanning within the limit. -/
theorem scanUpTo_keeps {parser : LineParser} {chunk : List UInt8} {scanLen : Nat}
    (fitting : parser.FitsLimit options) (reading : parser.mode = .readingLine)
    (room : options.maxLineLength.bytes ≠ 0 →
      parser.lineBuffer.bytes.length + scanLen ≤ options.maxLineLength.bytes) :
    (parser.scanUpTo alloc options chunk scanLen).Keeps options parser.emitted := by
  have scanned : (chunk.take scanLen).length ≤ scanLen := List.length_take_le _ _
  have extended : ∀ slice : List UInt8, slice.length ≤ scanLen →
      options.Fits (parser.lineBuffer.bytes ++ slice) := by
    intro slice short limited
    have := room limited
    rw [List.length_append]
    omega
  cases found : memchr newline (chunk.take scanLen) with
  | some pos =>
      have cut : ((chunk.take scanLen).take pos).length ≤ scanLen :=
        Nat.le_trans (List.length_take_le' _ _) scanned
      simp only [scanUpTo, found]
      split
      · refine ⟨fitting, ?_, .inl rfl⟩
        intro bytes yielded limited
        cases yielded
        have := room limited
        omega
      · exact emitIn_keeps _ _ _ (extended _ cut)
  | none =>
      simp only [scanUpTo, found]
      split
      · exact emitIn_keeps _ _ _ (extended _ scanned)
      · exact ⟨⟨extended _ scanned, fun other => absurd reading other⟩, by simp, .inl rfl⟩

/-- A line in progress that is within the limit is scanned without a panic. -/
theorem scanLine_keeps {parser : LineParser} (chunk : List UInt8)
    (fitting : parser.FitsLimit options) (reading : parser.mode = .readingLine) :
    ∃ result, parser.scanLine alloc options chunk = .ok result ∧ result.Keeps options parser.emitted := by
  by_cases full : parser.AtLimit options
  · exact ⟨_, if_pos full, emitIn_keeps _ _ _ fitting.fits⟩
  · by_cases unlimited : options.maxLineLength.bytes = 0
    · refine ⟨parser.scanUpTo alloc options chunk (min chunk.length chunk.length), ?_,
        scanUpTo_keeps alloc fitting reading fun limited => absurd unlimited limited⟩
      simp only [scanLine, if_neg full, remainingLineLength, if_pos unlimited, checked_ok_bind]
      rfl
    · have fits := fitting.fits unlimited
      refine ⟨parser.scanUpTo alloc options chunk
        (min (options.maxLineLength.bytes - parser.lineBuffer.bytes.length) chunk.length), ?_,
        scanUpTo_keeps alloc fitting reading fun _ => by omega⟩
      simp only [scanLine, if_neg full, remainingLineLength, if_neg unlimited,
        checkedSub_of_le fits, checked_ok_bind]
      rfl

/-- **A pass keeps the buffers within the limit and does not panic.** -/
theorem pass_keeps {parser : LineParser} (chunk : List UInt8) (fitting : parser.FitsLimit options) :
    ∃ result, parser.pass alloc options chunk = .ok result ∧ result.Keeps options parser.emitted := by
  unfold pass
  split
  · rename_i discarding
    have empty := fitting.idle (by simp [discarding])
    split
    · exact ⟨_, rfl, fitsLimit_of_nil empty, by simp, .inl rfl⟩
    · exact ⟨_, rfl, fitting, by simp, .inl rfl⟩
  · rename_i pending
    have empty := fitting.idle (by simp [pending])
    split
    · exact ⟨_, rfl, fitsLimit_of_nil empty, by simp, .inl rfl⟩
    · have fresh : FitsLimit options { parser with mode := .readingLine } := fitsLimit_of_nil empty
      exact scanLine_keeps alloc chunk fresh rfl
  · rename_i reading
    exact scanLine_keeps alloc chunk fitting reading

theorem Keeps.trans {before : BytesMut} {middle after : LineParser} {line : Option LineBytes}
    (first : Keeps options before middle none) (second : Keeps options middle.emitted after line) :
    Keeps options before after line := by
  refine ⟨second.parser, second.line, ?_⟩
  rcases second.emitted with same | fits
  · rcases first.emitted with kept | fits
    · exact .inl (same.trans kept)
    · exact .inr (same ▸ fits)
  · exact .inr fits

theorem nextLineLoop_keeps {parser : LineParser} (chunk : List UInt8)
    (fitting : parser.FitsLimit options) :
    ∃ yield, parser.nextLineLoop alloc options chunk = .ok yield ∧
      Keeps options parser.emitted yield.parser yield.line := by
  fun_induction nextLineLoop alloc options parser chunk with
  | case1 parser => exact ⟨_, rfl, fitting, by simp, .inl rfl⟩
  | case2 parser chunk nonempty reason failed =>
      obtain ⟨result, passed, _⟩ := pass_keeps alloc chunk fitting
      cases passed.symm.trans failed
  | case3 parser chunk nonempty next rest line taken =>
      obtain ⟨result, passed, kept⟩ := pass_keeps alloc chunk fitting
      obtain rfl := Except.ok.inj (passed.symm.trans taken)
      exact ⟨_, rfl, kept⟩
  | case4 parser chunk nonempty next rest taken ih =>
      obtain ⟨result, passed, kept⟩ := pass_keeps alloc chunk fitting
      obtain rfl := Except.ok.inj (passed.symm.trans taken)
      obtain ⟨yield, looped, behind⟩ := ih kept.parser
      exact ⟨yield, looped, kept.trans behind⟩

/-- Compaction leaves the emitted line alone or drops it. -/
theorem compactIfNeeded_emitted_bytes (parser : LineParser) (threshold : Option NumBytes) :
    (parser.compactIfNeeded threshold).emitted.bytes = parser.emitted.bytes ∨
      (parser.compactIfNeeded threshold).emitted.bytes = [] := by
  cases threshold with
  | none => exact .inl rfl
  | some threshold =>
      simp only [compactIfNeeded]
      split <;> split <;> simp

/-- **A call of `next_line` that finds a line in progress within its limit** keeps the buffers
within the limit and does not panic. -/
theorem nextLine_keeps {parser : LineParser} (chunk : List UInt8)
    (fitting : parser.FitsLimit options) :
    ∃ yield, parser.nextLine alloc options chunk = .ok yield ∧
      Keeps options parser.emitted yield.parser yield.line := by
  have compacted : Keeps options parser.emitted
      (parser.compactIfNeeded options.bufferCompactionThreshold) none := by
    refine ⟨⟨?_, ?_⟩, by simp, ?_⟩
    · rw [compactIfNeeded_lineBuffer_bytes]
      exact fitting.fits
    · rw [compactIfNeeded_lineBuffer_bytes, compactIfNeeded_mode]
      exact fitting.idle
    · rcases parser.compactIfNeeded_emitted_bytes options.bufferCompactionThreshold with same | empty
      · exact .inl same
      · exact .inr (empty ▸ options.fits_nil)
  obtain ⟨yield, looped, kept⟩ := nextLineLoop_keeps alloc chunk compacted.parser
  exact ⟨yield, looped, compacted.trans kept⟩

end Passes

/-! ## Options that change between the calls -/

section Changing

variable (alloc : Allocator)

/-- Only a line that is being read has bytes. -/
def Idle (parser : LineParser) : Prop :=
  parser.mode ≠ .readingLine → parser.lineBuffer.bytes = []

variable {parser : LineParser} {options : LineParsingOptions} {chunk : List UInt8}

/-- **A line in progress that is longer than the limit of the call panics.** The buffer is not
equal to the limit, and the subtraction underflows. -/
theorem nextLine_panics (nonempty : chunk ≠ []) (idle : parser.Idle)
    (limited : options.maxLineLength.bytes ≠ 0)
    (exceeds : options.maxLineLength.bytes < parser.lineBuffer.bytes.length) :
    parser.nextLine alloc options chunk = .error .subtractOverflow := by
  have reading : parser.mode = .readingLine := by
    by_contra other
    rw [idle other] at exceeds
    exact Nat.not_lt_zero _ exceeds
  have below : ¬ AtLimit options (parser.compactIfNeeded options.bufferCompactionThreshold) := by
    rintro ⟨_, full⟩
    rw [compactIfNeeded_lineBuffer_bytes] at full
    omega
  have failed : (parser.compactIfNeeded options.bufferCompactionThreshold).pass alloc options chunk =
      .error .subtractOverflow := by
    simp only [pass, compactIfNeeded_mode, reading, scanLine, if_neg below, remainingLineLength,
      if_neg limited, compactIfNeeded_lineBuffer_bytes, checkedSub, if_neg (Nat.not_le_of_lt exceeds)]
    rfl
  rw [nextLine, nextLineLoop, dif_neg nonempty]
  split
  · rename_i reason taken
    exact congrArg Except.error (Except.error.inj (taken.symm.trans failed))
  · rename_i taken
    cases taken.symm.trans failed
  · rename_i taken
    cases taken.symm.trans failed

/-- A call on an empty chunk only compacts. -/
theorem nextLine_nil (parser : LineParser) (options : LineParsingOptions) :
    parser.nextLine alloc options [] =
      .ok ⟨parser.compactIfNeeded options.bufferCompactionThreshold, [], none⟩ := by
  rw [nextLine, nextLineLoop, dif_pos rfl]

/-- Flushing empties the line buffer. -/
theorem finish_idle (idle : parser.Idle) : parser.finish.1.Idle := by
  unfold finish
  split
  · exact idle
  · exact fun _ => rfl

variable {next : ParserCall}

/-- A call that finds room returns what it may return. -/
theorem call_of_findsRoom (idle : parser.Idle) (room : next.FindsRoom parser) :
    ∃ later line, parser.call alloc next = .ok (later, line) ∧ later.Idle ∧ next.Allows line := by
  cases next with
  | nextLine chunk options =>
      by_cases empty : chunk = []
      · subst empty
        refine ⟨_, none, by rw [call, nextLine_nil, checked_ok_bind], ?_, by simp [ParserCall.Allows]⟩
        rw [Idle, compactIfNeeded_mode, compactIfNeeded_lineBuffer_bytes]
        exact idle
      · obtain ⟨yield, called, kept⟩ := nextLine_keeps alloc chunk ⟨room empty, idle⟩
        exact ⟨yield.parser, yield.line, by rw [call, called, checked_ok_bind], kept.parser.idle,
          kept.line⟩
  | onGap => exact ⟨_, _, rfl, fun _ => rfl, trivial⟩
  | finish => exact ⟨parser.finish.1, parser.finish.2, rfl, finish_idle idle, trivial⟩

variable {alloc}

/-- A call that returns has found room. -/
theorem findsRoom_of_call {reply : LineParser × Option LineBytes} (idle : parser.Idle)
    (called : parser.call alloc next = .ok reply) : next.FindsRoom parser := by
  cases next with
  | nextLine chunk options =>
      intro nonempty limited
      by_contra exceeds
      have failed := nextLine_panics alloc nonempty idle limited (Nat.lt_of_not_le exceeds)
      rw [call, failed] at called
      cases called
  | onGap => exact trivial
  | finish => exact trivial

/-- A run is safe exactly if each of its calls finds room. -/
theorem runCalls_safe_iff (idle : parser.Idle) (calls : List ParserCall) :
    (∃ final lines, parser.runCalls alloc calls = .ok (final, lines) ∧
        List.Forall₂ ParserCall.Allows calls lines) ↔
      ∀ earlier next later, calls = earlier ++ next :: later → ∀ before lines,
        parser.runCalls alloc earlier = .ok (before, lines) → next.FindsRoom before := by
  induction calls generalizing parser with
  | nil =>
      refine ⟨fun _ earlier next later split => by simp at split, fun _ => ?_⟩
      exact ⟨parser, [], rfl, .nil⟩
  | cons first rest ih =>
      constructor
      · rintro ⟨final, lines, ran, allowed⟩ earlier next later split before found reached
        obtain ⟨behind, line, others, called, remaining, rfl⟩ := runCalls_cons.mp ran
        have room := findsRoom_of_call idle called
        cases earlier with
        | nil =>
            cases reached
            cases split
            exact room
        | cons _ earlier =>
            cases split
            obtain ⟨behind', _, found', again, reached', _⟩ := runCalls_cons.mp reached
            cases called.symm.trans again
            obtain ⟨_, _, returned, idle', _⟩ := call_of_findsRoom alloc idle room
            cases called.symm.trans returned
            rw [List.forall₂_cons] at allowed
            exact (ih idle').mp ⟨final, others, remaining, allowed.2⟩ earlier next later rfl before
              found' reached'
      · intro rooms
        obtain ⟨behind, line, called, idle', allowed⟩ :=
          call_of_findsRoom alloc idle (rooms [] first rest rfl parser [] rfl)
        obtain ⟨final, others, remaining, allowed'⟩ := (ih idle').mpr fun earlier next later split
            before found reached => rooms (first :: earlier) next later (by rw [split]; rfl) before
          (line :: found) (runCalls_cons.mpr ⟨behind, line, found, called, reached, rfl⟩)
        exact ⟨final, line :: others,
          runCalls_cons.mpr ⟨behind, line, others, called, remaining, rfl⟩, .cons allowed allowed'⟩

variable (alloc)

/-- The line in progress is within the limit of the last options, and empty if there are none. -/
def FitsLast (parser : LineParser) : Option LineParsingOptions → Prop
  | some options => options.Fits parser.lineBuffer.bytes
  | none => parser.lineBuffer.bytes = []

/-- Flushing leaves no line in progress. -/
theorem finish_lineBuffer (idle : parser.Idle) : parser.finish.1.lineBuffer.bytes = [] := by
  unfold finish
  split
  · rename_i nothing
    by_cases reading : parser.mode = .readingLine
    · simpa [reading] using nothing
    · exact idle reading
  · rfl

/-- One call whose limit does not shrink: it finds room, and behind it the line in progress is within the
limit that holds then. -/
theorem call_of_neverShrinks {last : Option LineParsingOptions} {rest : List ParserCall}
    (idle : parser.Idle) (fits : parser.FitsLast last)
    (grows : ParserCall.NeverShrinks last (next :: rest)) :
    ∃ later line last, parser.call alloc next = .ok (later, line) ∧ next.Allows line ∧
      later.Idle ∧ later.FitsLast last ∧ ParserCall.NeverShrinks last rest := by
  match next, grows with
  | .onGap, grows => exact ⟨_, _, none, rfl, trivial, fun _ => rfl, rfl, grows⟩
  | .finish, grows =>
      exact ⟨parser.finish.1, parser.finish.2, none, rfl, trivial, finish_idle idle,
        finish_lineBuffer idle, grows⟩
  | .nextLine [] options, grows =>
      refine ⟨_, none, last, by rw [call, nextLine_nil, checked_ok_bind],
        by simp [ParserCall.Allows], ?_, ?_, grows⟩
      · rw [Idle, compactIfNeeded_mode, compactIfNeeded_lineBuffer_bytes]
        exact idle
      · cases last <;> simpa only [FitsLast, compactIfNeeded_lineBuffer_bytes] using fits
  | .nextLine (byte :: bytes) options, ⟨notBelow, grows⟩ =>
      have room : options.Fits parser.lineBuffer.bytes := by
        cases last with
        | none => exact (show parser.lineBuffer.bytes = [] from fits) ▸ options.fits_nil
        | some earlier =>
            exact LineParsingOptions.Fits.mono fits (notBelow earlier (Option.mem_some_self _))
      obtain ⟨yield, called, kept⟩ := nextLine_keeps alloc (byte :: bytes) ⟨room, idle⟩
      exact ⟨yield.parser, yield.line, some options, by rw [call, called, checked_ok_bind],
        kept.line, kept.parser.idle, kept.parser.fits, grows⟩

/-- **Limits that never shrink while a line is in progress are safe.** -/
theorem runCalls_of_neverShrinks {last : Option LineParsingOptions} {calls : List ParserCall}
    (idle : parser.Idle) (fits : parser.FitsLast last) (grows : ParserCall.NeverShrinks last calls) :
    ∃ final lines, parser.runCalls alloc calls = .ok (final, lines) ∧
      List.Forall₂ ParserCall.Allows calls lines := by
  induction calls generalizing parser last with
  | nil => exact ⟨parser, [], rfl, .nil⟩
  | cons next rest ih =>
      obtain ⟨later, line, last, called, allowed, idle, fits, grows⟩ :=
        call_of_neverShrinks alloc idle fits grows
      obtain ⟨final, lines, ran, others⟩ := ih idle fits grows
      exact ⟨final, line :: lines, runCalls_cons.mpr ⟨later, line, lines, called, ran, rfl⟩,
        .cons allowed others⟩

end Changing

/-! ## Fixed options -/

section Fixed

variable (alloc : Allocator) {options : LineParsingOptions} {parser : LineParser}

/-- Both buffers are within the limit. -/
structure Bounded (options : LineParsingOptions) (parser : LineParser) : Prop where
  within : parser.state.WithinLimit options
  emitted : options.Fits parser.emitted.bytes

theorem bounded_new (options : LineParsingOptions) : LineParser.new.Bounded options :=
  ⟨LineState.withinLimit_nil options _, options.fits_nil⟩

/-- A call under the options keeps both buffers within the limit. -/
theorem Bounded.call (bounded : parser.Bounded options) {next : ParserCall}
    (uses : next.Uses options) :
    ∃ later line, parser.call alloc next = .ok (later, line) ∧ later.Bounded options := by
  cases next with
  | nextLine chunk own =>
      obtain rfl : own = options := uses
      obtain ⟨yield, called, within, _⟩ := @nextLine_refines alloc own parser chunk bounded.within
      obtain ⟨same, called', kept⟩ :=
        nextLine_keeps alloc chunk ⟨bounded.within.fits, bounded.within.idle⟩
      cases called.symm.trans called'
      refine ⟨yield.parser, yield.line, by rw [LineParser.call, called, checked_ok_bind], within, ?_⟩
      rcases kept.emitted with same | fits
      · exact same ▸ bounded.emitted
      · exact fits
  | onGap => exact ⟨_, _, rfl, LineState.withinLimit_nil options _, bounded.emitted⟩
  | finish =>
      refine ⟨parser.finish.1, parser.finish.2, rfl, ?_⟩
      unfold finish
      split
      · exact bounded
      · exact ⟨LineState.withinLimit_nil options _, bounded.within.fits⟩

theorem Bounded.runCalls (bounded : parser.Bounded options) {calls : List ParserCall}
    (uses : ∀ next ∈ calls, next.Uses options) :
    ∃ final lines, parser.runCalls alloc calls = .ok (final, lines) ∧ final.Bounded options := by
  induction calls generalizing parser with
  | nil => exact ⟨parser, [], rfl, bounded⟩
  | cons next rest ih =>
      rw [List.forall_mem_cons] at uses
      obtain ⟨later, line, called, bounded'⟩ := bounded.call alloc uses.1
      obtain ⟨final, lines, ran, bounded''⟩ := ih bounded' uses.2
      exact ⟨final, line :: lines, runCalls_cons.mpr ⟨later, line, lines, called, ran, rfl⟩,
        bounded''⟩

/-! ## The two loops, pass by pass -/

variable (options) in
/-- The loop of `next_line` returns after the given number of passes. -/
inductive LoopReturns : Nat → LineParser → List UInt8 → Yield → Prop where
  | exhausted (parser : LineParser) : LoopReturns 0 parser [] ⟨parser, [], none⟩
  | returned {parser next : LineParser} {chunk rest : List UInt8} {line : Option LineBytes} :
      chunk ≠ [] → parser.pass alloc options chunk = .ok (.done next rest line) →
        LoopReturns 1 parser chunk ⟨next, rest, line⟩
  | again {passes : Nat} {parser next : LineParser} {chunk rest : List UInt8} {yield : Yield} :
      chunk ≠ [] → parser.pass alloc options chunk = .ok (.again next rest) →
        LoopReturns passes next rest yield → LoopReturns (passes + 1) parser chunk yield

variable (options) in
/-- The caller's loop over a chunk yields the given lines and ends with the given cursor. -/
inductive Drives : LineParser → List UInt8 → List LineBytes → LineParser → List UInt8 → Prop where
  | ended {parser next : LineParser} {chunk rest : List UInt8} :
      parser.nextLine alloc options chunk = .ok ⟨next, rest, none⟩ → Drives parser chunk [] next rest
  | yielded {parser next final : LineParser} {chunk rest cursor : List UInt8} {line : LineBytes}
      {lines : List LineBytes} :
      parser.nextLine alloc options chunk = .ok ⟨next, rest, some line⟩ →
        Drives next rest lines final cursor → Drives parser chunk (line :: lines) final cursor

/-- A call that returns makes at most one pass a byte. -/
theorem nextLineLoop_returns {chunk : List UInt8} {yield : Yield}
    (looped : parser.nextLineLoop alloc options chunk = .ok yield) :
    ∃ passes ≤ chunk.length, LoopReturns alloc options passes parser chunk yield := by
  fun_induction nextLineLoop alloc options parser chunk with
  | case1 parser =>
      cases looped
      exact ⟨0, Nat.le_refl _, .exhausted parser⟩
  | case2 parser chunk nonempty reason failed => cases looped
  | case3 parser chunk nonempty next rest line taken =>
      cases looped
      exact ⟨1, List.length_pos_iff.mpr nonempty, .returned nonempty taken⟩
  | case4 parser chunk nonempty next rest taken ih =>
      obtain ⟨passes, bound, returned⟩ := ih looped
      have shorter := pass_again_length taken nonempty
      exact ⟨passes + 1, by omega, .again nonempty taken returned⟩

/-- **Driving a chunk ends** with an empty cursor. Each line leaves less to do. -/
theorem Bounded.drives (bounded : parser.Bounded options) (chunk : List UInt8) :
    ∃ lines final, Drives alloc options parser chunk lines final [] ∧
      lines.length ≤ parser.pendingWork chunk := by
  induction work : parser.pendingWork chunk using Nat.strongRecOn generalizing parser chunk with
  | _ work ih =>
      obtain ⟨⟨next, rest, line⟩, called, _, refined⟩ :=
        @nextLine_refines alloc options parser chunk bounded.within
      obtain ⟨_, _, returned, bounded'⟩ :=
        bounded.call alloc (show (ParserCall.nextLine chunk options).Uses options from rfl)
      rw [LineParser.call, called, checked_ok_bind] at returned
      cases returned
      cases line with
      | none =>
          obtain ⟨rfl, _⟩ := refined
          exact ⟨[], next, .ended called, Nat.zero_le _⟩
      | some line =>
          have fewer := nextLine_shrinks called
          obtain ⟨lines, final, driven, bound⟩ := ih (next.pendingWork rest) (work ▸ fewer) bounded'
            rest rfl
          refine ⟨line :: lines, final, .yielded called driven, ?_⟩
          rw [List.length_cons]
          omega

theorem pendingWork_le (parser : LineParser) (chunk : List UInt8) :
    parser.pendingWork chunk ≤ chunk.length + 1 := by
  unfold pendingWork
  split <;> omega

end Fixed

end LineParser

/-! ## The results -/

section Results

variable (alloc : Allocator) {options : LineParsingOptions}

/-- **The buffers stay within the limit.** After any calls under options with a limit, the line in
progress and the line emitted last are within it, the former strictly under
`EmitAdditionalAsNewLines`; a parser that discards or waits for the delimiter behind a full line has
no line in progress, and compaction never removes a byte of it. -/
theorem calls_within_limit (limited : options.maxLineLength.bytes ≠ 0) {calls : List ParserCall}
    (uses : ∀ next ∈ calls, next.Uses options) :
    ∃ parser lines, LineParser.new.runCalls alloc calls = .ok (parser, lines) ∧
      parser.lineBuffer.bytes.length ≤ options.maxLineLength.bytes ∧
      (options.overflowBehavior = .emitAdditionalAsNewLines →
        parser.lineBuffer.bytes.length < options.maxLineLength.bytes) ∧
      parser.emitted.bytes.length ≤ options.maxLineLength.bytes ∧
      (parser.mode = .discardUntilNewline ∨ parser.mode = .pendingLimitDelimiter →
        parser.lineBuffer.bytes = []) ∧
      ∀ threshold, (parser.compactIfNeeded threshold).lineBuffer.bytes = parser.lineBuffer.bytes := by
  obtain ⟨parser, lines, ran, bounded⟩ := (LineParser.bounded_new options).runCalls alloc uses
  refine ⟨parser, lines, ran, bounded.within.fits limited, bounded.within.room limited,
    bounded.emitted limited, ?_, parser.compactIfNeeded_lineBuffer_bytes⟩
  intro mode
  have busy : parser.state.mode ≠ .readingLine := by
    rcases mode with discards | waits
    · simp [LineParser.state, discards]
    · simp [LineParser.state, waits]
  exact bounded.within.idle busy

/-- A full line behind an abandoned chunk and a gap. -/
theorem calls_within_limit_abandoned :
    ∃ parser lines, LineParser.new.runCalls exactAllocator
        [.nextLine [97, 98, 99] ⟨⟨2⟩, .emitAdditionalAsNewLines, some ⟨1⟩⟩, .onGap, .finish] =
          .ok (parser, lines) ∧ parser.emitted.bytes.length ≤ 2 := by
  obtain ⟨parser, lines, ran, _, _, emitted, _⟩ := calls_within_limit exactAllocator
    (show (⟨⟨2⟩, .emitAdditionalAsNewLines, some ⟨1⟩⟩ : LineParsingOptions).maxLineLength.bytes ≠ 0
      from by decide)
    (show ∀ next ∈ [ParserCall.nextLine [97, 98, 99] ⟨⟨2⟩, .emitAdditionalAsNewLines, some ⟨1⟩⟩,
      .onGap, .finish], next.Uses ⟨⟨2⟩, .emitAdditionalAsNewLines, some ⟨1⟩⟩
      from by simp [ParserCall.Uses])
  exact ⟨parser, lines, ran, emitted⟩

/-- **Driving a chunk always ends.** After any calls under the options, with or without a limit, a
call of `next_line` returns after at most one pass for each byte of its chunk, and the caller's loop
ends with an empty cursor after at most one line more than the chunk has bytes. -/
theorem driving_ends {calls : List ParserCall} (uses : ∀ next ∈ calls, next.Uses options)
    (chunk : List UInt8) :
    ∃ parser lines, LineParser.new.runCalls alloc calls = .ok (parser, lines) ∧
      (∃ passes ≤ chunk.length, ∃ yield, LineParser.LoopReturns alloc options passes
        (parser.compactIfNeeded options.bufferCompactionThreshold) chunk yield ∧
          parser.nextLine alloc options chunk = .ok yield) ∧
      ∃ emitted final, LineParser.Drives alloc options parser chunk emitted final [] ∧
        emitted.length ≤ chunk.length + 1 := by
  obtain ⟨parser, lines, ran, bounded⟩ := (LineParser.bounded_new options).runCalls alloc uses
  obtain ⟨yield, called, _⟩ := @LineParser.nextLine_refines alloc options parser chunk bounded.within
  obtain ⟨passes, bound, returned⟩ := LineParser.nextLineLoop_returns alloc called
  obtain ⟨emitted, final, driven, fewer⟩ := bounded.drives alloc chunk
  exact ⟨parser, lines, ran, ⟨passes, bound, yield, returned, called⟩, emitted, final, driven,
    Nat.le_trans fewer (parser.pendingWork_le chunk)⟩

/-- A full buffer is emitted before the single byte of the next chunk is read. -/
theorem driving_ends_full :
    ∃ parser lines, LineParser.new.runCalls exactAllocator
        [.nextLine [97, 98] ⟨⟨2⟩, .dropAdditionalData, none⟩] = .ok (parser, lines) ∧
      ∃ emitted final, LineParser.Drives exactAllocator ⟨⟨2⟩, .dropAdditionalData, none⟩ parser [10]
        emitted final [] ∧ emitted.length ≤ 2 := by
  obtain ⟨parser, lines, ran, _, driven⟩ := driving_ends exactAllocator
    (show ∀ next ∈ [ParserCall.nextLine [97, 98] ⟨⟨2⟩, .dropAdditionalData, none⟩],
      next.Uses ⟨⟨2⟩, .dropAdditionalData, none⟩ from by simp [ParserCall.Uses]) [10]
  exact ⟨parser, lines, ran, driven⟩

/-- **Changing options are safe exactly as long as the limit does not shrink below the line in
progress.** No call of a sequence panics and every line is within the limit of the call that yields
it, if and only if no call with a limit that reads bytes finds a line in progress longer than that
limit. -/
theorem calls_safe_iff (calls : List ParserCall) :
    (∃ final lines, LineParser.new.runCalls alloc calls = .ok (final, lines) ∧
        List.Forall₂ ParserCall.Allows calls lines) ↔
      ∀ earlier next later, calls = earlier ++ next :: later → ∀ before lines,
        LineParser.new.runCalls alloc earlier = .ok (before, lines) → next.FindsRoom before :=
  LineParser.runCalls_safe_iff (fun _ => rfl) calls

/-- **Limits that shrink only behind a gap or a flush are safe.** This is a condition on the calls
alone: whatever the chunks are, no call panics and every line is within the limit of the call that
yields it. -/
theorem calls_safe_of_neverShrinks {calls : List ParserCall}
    (grows : ParserCall.NeverShrinks none calls) :
    ∃ final lines, LineParser.new.runCalls alloc calls = .ok (final, lines) ∧
      List.Forall₂ ParserCall.Allows calls lines :=
  LineParser.runCalls_of_neverShrinks alloc (fun _ => rfl)
    (show LineParser.new.FitsLast none from rfl) grows

/-- Five bytes are buffered under a limit of ten, and the next call has a limit of three. -/
theorem calls_panic :
    LineParser.new.runCalls exactAllocator
        [.nextLine [104, 101, 108, 108, 111] { maxLineLength := ⟨10⟩ },
          .nextLine [33] { maxLineLength := ⟨3⟩ }] = .error .subtractOverflow := by
  obtain ⟨⟨parser, rest, line⟩, called, _, refined⟩ := @LineParser.nextLine_refines exactAllocator
    { maxLineLength := ⟨10⟩ } .new [104, 101, 108, 108, 111] (LineState.withinLimit_nil _ _)
  have buffered : LineState.run { maxLineLength := ⟨10⟩ } LineParser.new.state
      [104, 101, 108, 108, 111] = (⟨.readingLine, [104, 101, 108, 108, 111]⟩, []) := by decide
  rw [buffered] at refined
  cases line with
  | some line => cases congrArg Prod.snd refined
  | none =>
      obtain ⟨rfl, state⟩ := refined
      have reading : parser.mode = .readingLine := congrArg (·.1.mode) state.symm
      have bytes : parser.lineBuffer.bytes = [104, 101, 108, 108, 111] :=
        congrArg (·.1.line) state.symm
      have failed : parser.nextLine exactAllocator { maxLineLength := ⟨3⟩ } [33] =
          .error .subtractOverflow :=
        LineParser.nextLine_panics exactAllocator (List.cons_ne_nil _ _)
          (fun other => absurd reading other) (by decide) (by rw [bytes]; decide)
      simp only [LineParser.runCalls, LineParser.call, called, checked_ok_bind, failed]
      rfl

end Results

end TokioProcessTools.OutputStream.Line
