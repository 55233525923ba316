import TokioProcessTools.Foundation.Utf8Length
import TokioProcessTools.OutputStream.Line.ReferenceSplitter

/-!
# Decoded lines

The parser cuts lines by bytes and decodes each one on its own. A cut forced by
the limit may fall inside a character; then both lines decode to replacement
characters, and the text of the input is not kept.

Without overflow data being dropped, the emitted strings keep the text of the
input exactly when every forced cut is at a character boundary
(`emittedLines_keep_text_iff`). A decoded line has at most the limit in bytes
exactly when its ill-formed sequences do not gain more than the line has room
for (`emittedLines_within_limit_iff`).
-/

set_option autoImplicit false

namespace TokioProcessTools.OutputStream.Line

open Foundation Utf8Lossy

/-- The strings `next_line` returns over an input, and the one of `finish`. -/
def emittedLines (alloc : Allocator) (options : LineParsingOptions) (inputs : List Input) :
    Checked (List String) := do
  let lines ← parse alloc options inputs
  return lines.map decodeLineLossy

section Reference

variable (alloc : Allocator) {options : LineParsingOptions}
  (limited : 0 < options.maxLineLength.bytes)

include limited in
theorem emittedLines_eq (inputs : List Input) :
    emittedLines alloc options inputs =
      .ok ((reference options (segments inputs).1 (segments inputs).2).map decodeLineLossy) := by
  have whole := runSegments_eq_reference limited LineState.fresh (segments inputs).1
    (segments inputs).1 (segments inputs).2 rfl rfl
  rw [emittedLines, parse_eq_runSegments, whole]
  rfl

theorem join_map_decodeLineLossy (lines : List LineBytes) :
    String.join (lines.map decodeLineLossy) = String.ofList (lines.flatMap decode) := by
  induction lines with
  | nil => rfl
  | cons line rest ih =>
      rw [List.map_cons, String.join_cons, ih, List.flatMap_cons, String.ofList_append]
      rfl

/-- A chunked input without gaps is one segment. -/
theorem segments_chunks (chunks : List (List UInt8)) :
    segments (chunks.map Input.chunk) = (chunks.flatten, []) := by
  induction chunks with
  | nil => rfl
  | cons bytes rest ih => rw [List.map_cons, segments, ih, List.flatten_cons]

end Reference

/-! ## Keeping the text -/

theorem filter_ne_eq_flatten_splitOn (separator : Char) (text : List Char) :
    text.filter (· ≠ separator) = (text.splitOn separator).flatten := by
  induction text with
  | nil => rfl
  | cons char rest ih =>
      rw [List.splitOn_cons_eq_if_modifyHead]
      by_cases same : char = separator
      · rw [if_pos (beq_iff_eq.mpr same), List.flatten_cons, List.nil_append, ← ih]
        simp [same]
      · rw [if_neg (by simpa using same)]
        cases lines : rest.splitOn separator with
        | nil => exact absurd lines (List.splitOn_ne_nil separator rest)
        | cons line others =>
            rw [lines, List.flatten_cons] at ih
            rw [List.filter_cons_of_pos (by simpa using same), ih]
            rfl

section KeepText

variable (alloc : Allocator) {options : LineParsingOptions}
  (limited : 0 < options.maxLineLength.bytes)
  (emits : options.overflowBehavior = .emitAdditionalAsNewLines)

include limited emits

theorem flatMap_decode_pieceLines (piece : List UInt8) :
    (pieceLines options piece).flatMap decode =
      (fragments options.maxLineLength.bytes piece).flatMap decode := by
  rw [pieceLines, emits]
  by_cases short : piece.length ≤ options.maxLineLength.bytes
  · simp only [if_pos short]
    by_cases empty : piece = []
    · rw [empty, fragments_nil]
      rfl
    · rw [fragments_of_length_le limited empty short]
  · simp only [if_neg short]

/-- The characters of the lines of a segment are those of the fragments of its pieces. -/
theorem flatMap_decode_segmentLines (segment : List UInt8) :
    (segmentLines options (tailLinesAtEnd options) segment).flatMap decode =
      (segment.splitOn newline).flatMap fun piece =>
        (fragments options.maxLineLength.bytes piece).flatMap decode := by
  have tail : tailLinesAtEnd options (unterminatedTail segment) =
      fragments options.maxLineLength.bytes (unterminatedTail segment) := by
    rw [tailLinesAtEnd, emits]
  have pieces : segment.splitOn newline = terminatedPieces segment ++ [unterminatedTail segment] :=
    (List.dropLast_append_getLast _).symm
  have terminated : ∀ piece ∈ terminatedPieces segment,
      (pieceLines options piece).flatMap decode =
        (fragments options.maxLineLength.bytes piece).flatMap decode :=
    fun piece _ => flatMap_decode_pieceLines limited emits piece
  rw [segmentLines, pieces, List.flatMap_append, List.flatMap_append, tail, List.flatMap_assoc,
    List.flatMap_congr terminated, List.flatMap_singleton]

/-- **Emitting overflow as new lines keeps the text exactly when no forced cut is inside a
character.** The text of the input is that of the emitted strings if and only if, in every line of
it, each multiple of the limit below the length of the line is a character boundary. -/
theorem emittedLines_keep_text_iff (text : String) {chunks : List (List UInt8)}
    (cut : chunks.flatten = encode text.toList) :
    (∃ lines, emittedLines alloc options (chunks.map Input.chunk) = .ok lines ∧
        String.join lines = String.ofList (text.toList.filter (· ≠ '\n'))) ↔
      ∀ line ∈ text.toList.splitOn '\n', ∀ count,
        count * options.maxLineLength.bytes < (encode line).length →
          IsBoundary line (count * options.maxLineLength.bytes) := by
  have emitted := emittedLines_eq alloc limited (chunks.map Input.chunk)
  rw [segments_chunks, cut, reference] at emitted
  have joined := join_map_decodeLineLossy
    (segmentLines options (tailLinesAtEnd options) (encode text.toList))
  have alone : String.utf8EncodeChar '\n' = [newline] := by decide
  rw [flatMap_decode_segmentLines limited emits, splitOn_encode (by decide) alone,
    List.flatMap_map] at joined
  have kept := flatMap_eq_flatten_iff (length_le_of_fragments limited) (text.toList.splitOn '\n')
  simp only [fragments_keep_iff limited] at kept
  rw [filter_ne_eq_flatten_splitOn, emitted, ← kept]
  constructor
  · rintro ⟨lines, same, equal⟩
    obtain rfl := Except.ok.inj same
    rw [joined] at equal
    exact String.ofList_injective equal
  · intro equal
    exact ⟨_, rfl, joined.trans (congrArg String.ofList equal)⟩

end KeepText

/-- A character of two bytes that a limit of two bytes does not cut. -/
theorem emittedLines_keep_text_uncut :
    ∃ lines, emittedLines exactAllocator ⟨⟨2⟩, .emitAdditionalAsNewLines, none⟩
        ([[0xC3], [0xA9, 10]].map Input.chunk) = .ok lines ∧
      String.join lines = String.ofList ("é\n".toList.filter (· ≠ '\n')) := by
  refine (emittedLines_keep_text_iff exactAllocator (by decide) rfl "é\n" (by decide)).mpr ?_
  have lines : "é\n".toList.splitOn '\n' = [['é'], []] := by decide
  rw [lines]
  intro line member count inside
  have short : (encode line).length ≤ 2 := by
    rcases List.mem_pair.mp member with rfl | rfl <;> decide
  change count * 2 < _ at inside
  obtain rfl : count = 0 := by omega
  exact ⟨[], line, rfl, (Nat.zero_mul 2).symm⟩

/-- **A limit of one byte cuts a character of two bytes**: two replacement characters are emitted
in its place. -/
theorem emittedLines_lose_text :
    [[0xC3, 0xA9]].flatten = encode "é".toList ∧
      emittedLines exactAllocator ⟨⟨1⟩, .emitAdditionalAsNewLines, none⟩
        ([[0xC3, 0xA9]].map Input.chunk) = .ok ["\uFFFD", "\uFFFD"] ∧
      String.join ["\uFFFD", "\uFFFD"] ≠ String.ofList ("é".toList.filter (· ≠ '\n')) := by
  refine ⟨by decide, ?_, by decide⟩
  rw [emittedLines, parse_eq_runSegments]
  decide

/-! ## The length of decoded lines -/

/-- **A decoded line stays within the limit exactly when it has room for its ill-formed
sequences.** The lines are those of the reference over the segments of the input; each maximal
ill-formed sequence of a line is decoded to three bytes. -/
theorem emittedLines_within_limit_iff (alloc : Allocator) {options : LineParsingOptions}
    (limited : 0 < options.maxLineLength.bytes) (inputs : List Input) :
    (∃ lines, emittedLines alloc options inputs = .ok lines ∧
        ∀ line ∈ lines, line.utf8ByteSize ≤ options.maxLineLength.bytes) ↔
      ∀ line ∈ reference options (segments inputs).1 (segments inputs).2,
        line.length + growth (illFormed line) ≤ options.maxLineLength.bytes := by
  rw [emittedLines_eq alloc limited]
  constructor
  · rintro ⟨lines, same, within⟩ line member
    obtain rfl := Except.ok.inj same
    rw [← utf8ByteSize_fromUtf8Lossy]
    exact within _ (List.mem_map_of_mem member)
  · intro room
    refine ⟨_, rfl, ?_⟩
    intro line member
    obtain ⟨bytes, among, rfl⟩ := List.mem_map.mp member
    rw [decodeLineLossy, utf8ByteSize_fromUtf8Lossy]
    exact room bytes among

/-- A truncated line in which one ill-formed byte has room to grow. -/
theorem emittedLines_within_limit_ill_formed :
    ∃ lines, emittedLines exactAllocator ⟨⟨4⟩, .dropAdditionalData, none⟩
        [.chunk [0x61, 0xFF], .chunk [10, 0x62, 0x63, 0x64, 0x65, 0x66]] = .ok lines ∧
      ∀ line ∈ lines, line.utf8ByteSize ≤ 4 := by
  refine (emittedLines_within_limit_iff exactAllocator (by decide) _).mpr ?_
  decide

/-- **An ill-formed byte fills a limit of one byte with three.** -/
theorem emittedLines_exceed_limit :
    emittedLines exactAllocator ⟨⟨1⟩, .dropAdditionalData, none⟩ [.chunk [0xFF]] =
        .ok ["\uFFFD"] ∧
      1 < "\uFFFD".utf8ByteSize := by
  refine ⟨?_, by decide⟩
  rw [emittedLines, parse_eq_runSegments]
  decide

end TokioProcessTools.OutputStream.Line
