import TokioProcessTools.OutputStream.Line.DecodedLines
import TokioProcessTools.OutputStream.Visitors.Write

/-!
# Writing parsed lines gives the stream back

Parsing takes the newlines out of a text, and `AppendLf` puts one behind every
line. Nothing else changes as long as no line is longer than the limit: a line
of exactly the limit is emitted before its newline is seen, which is then
skipped, and an empty line is a line. So the writer receives the text, with a
newline at its end (`writtenLines_roundTrip`).

A text that does not end with a newline gets one, since its last line is flushed
and written like the others.
-/

set_option autoImplicit false

namespace TokioProcessTools.OutputStream.Visitors

open Line Foundation Utf8Lossy

/-! ## The lines of a text -/

section Lines

/-- A segment is its terminated pieces with their newlines, and its tail. -/
theorem flatMap_terminatedPieces (segment : List UInt8) :
    (terminatedPieces segment).flatMap (· ++ [newline]) ++ unterminatedTail segment = segment := by
  induction size : segment.length using Nat.strongRecOn generalizing segment with
  | _ size ih =>
      by_cases terminated : newline ∈ segment
      · obtain ⟨piece, rest, rfl, plain⟩ := List.eq_append_cons_of_mem terminated
        obtain ⟨pieces, tail⟩ := splitOn_newline plain rest
        have later := ih rest.length (by rw [← size]; simp; omega) rest rfl
        rw [pieces, tail, List.flatMap_cons, List.append_assoc, later, List.append_assoc]
        rfl
      · obtain ⟨pieces, tail⟩ := splitOn_plain terminated
        rw [pieces, tail]
        rfl

/-- Nothing follows the last newline of a segment that ends with one. -/
theorem unterminatedTail_eq_nil_iff (segment : List UInt8) :
    unterminatedTail segment = [] ↔ segment = [] ∨ segment.getLast? = some newline := by
  induction size : segment.length using Nat.strongRecOn generalizing segment with
  | _ size ih =>
      by_cases terminated : newline ∈ segment
      · obtain ⟨piece, rest, rfl, plain⟩ := List.eq_append_cons_of_mem terminated
        have later := ih rest.length (by rw [← size]; simp; omega) rest rfl
        rw [(splitOn_newline plain rest).2, later, List.getLast?_append, List.getLast?_cons]
        cases last : rest.getLast? with
        | none => simp [List.getLast?_eq_none_iff.mp last]
        | some byte =>
            have more : rest ≠ [] := by
              rintro rfl
              cases last
            simp [more]
      · rw [(splitOn_plain terminated).2]
        constructor
        · exact .inl
        · rintro (empty | ends)
          · exact empty
          · exact absurd (List.mem_of_getLast? ends) terminated

variable {options : LineParsingOptions}

/-- A piece within the limit is one line, whatever happens to longer ones. -/
theorem pieceLines_of_fits {piece : List UInt8}
    (fits : piece.length ≤ options.maxLineLength.bytes) : pieceLines options piece = [piece] := by
  rw [pieceLines]
  cases options.overflowBehavior with
  | dropAdditionalData => rw [List.take_of_length_le fits]
  | emitAdditionalAsNewLines => exact if_pos fits

theorem tailLinesAtEnd_of_fits (limited : 0 < options.maxLineLength.bytes) {tail : List UInt8}
    (fits : tail.length ≤ options.maxLineLength.bytes) :
    tailLinesAtEnd options tail = if tail = [] then [] else [tail] := by
  rw [tailLinesAtEnd]
  cases options.overflowBehavior with
  | dropAdditionalData => rw [List.take_of_length_le fits]
  | emitAdditionalAsNewLines =>
      by_cases empty : tail = []
      · rw [empty]
        exact fragments_nil _
      · exact (fragments_of_length_le limited empty fits).trans (if_neg empty).symm

/-- Without a piece longer than the limit, the lines of a segment are its pieces, the last one only
if it is not empty. -/
theorem segmentLines_of_fits (limited : 0 < options.maxLineLength.bytes) {segment : List UInt8}
    (fits : ∀ piece ∈ segment.splitOn newline, piece.length ≤ options.maxLineLength.bytes) :
    segmentLines options (tailLinesAtEnd options) segment =
      terminatedPieces segment ++
        if unterminatedTail segment = [] then [] else [unterminatedTail segment] := by
  have terminated : ∀ piece ∈ terminatedPieces segment, pieceLines options piece = [piece] :=
    fun piece member => pieceLines_of_fits (fits piece (List.mem_of_mem_dropLast member))
  have tail : (unterminatedTail segment).length ≤ options.maxLineLength.bytes :=
    fits _ (List.getLast_mem _)
  rw [segmentLines, List.flatMap_congr terminated, List.flatMap_singleton',
    tailLinesAtEnd_of_fits limited tail]

/-- A line is then one of the pieces. -/
theorem mem_splitOn_of_mem_segmentLines (limited : 0 < options.maxLineLength.bytes)
    {segment line : List UInt8}
    (fits : ∀ piece ∈ segment.splitOn newline, piece.length ≤ options.maxLineLength.bytes)
    (member : line ∈ segmentLines options (tailLinesAtEnd options) segment) :
    line ∈ segment.splitOn newline := by
  rw [segmentLines_of_fits limited fits, List.mem_append] at member
  rcases member with terminated | tail
  · exact List.mem_of_mem_dropLast terminated
  · split at tail
    · cases tail
    · rw [List.mem_singleton.mp tail]
      exact List.getLast_mem _

/-- **A newline behind every line gives the segment back**, with a newline at its end. -/
theorem flatMap_segmentLines (limited : 0 < options.maxLineLength.bytes) {segment : List UInt8}
    (fits : ∀ piece ∈ segment.splitOn newline, piece.length ≤ options.maxLineLength.bytes) :
    (segmentLines options (tailLinesAtEnd options) segment).flatMap (· ++ [newline]) =
      segment ++ if segment = [] ∨ segment.getLast? = some newline then [] else [newline] := by
  have whole := flatMap_terminatedPieces segment
  have ended := unterminatedTail_eq_nil_iff segment
  rw [segmentLines_of_fits limited fits, List.flatMap_append]
  by_cases empty : unterminatedTail segment = []
  · rw [empty] at whole
    rw [if_pos empty, if_pos (ended.mp empty), List.flatMap_nil, whole, List.append_nil]
  · rw [if_neg empty, if_neg (mt ended.mpr empty), List.flatMap_singleton, ← List.append_assoc,
      whole]

end Lines

/-! ## A writer that never fails -/

section Accepting

variable {W H : Type} {write : AsyncWrite W} (handler : SinkWriteErrorHandler H)
  {received : W → List UInt8}
  (accepts : ∀ writer bytes, (write.writeAll writer bytes).2 = .ok () ∧
    received (write.writeAll writer bytes).1 = received writer ++ bytes)

include accepts

/-- A line is written with its newline, and the handler is not called. -/
theorem writeLine_accepted (streamName : String) (writer : W) (errorHandler : H)
    (line : List UInt8) :
    ∃ later, writeLine write handler streamName writer errorHandler line .appendLf =
        (later, errorHandler, .ok ()) ∧
      received later = received writer ++ (line ++ [newline]) := by
  obtain ⟨lineWritten, lineReceived⟩ := accepts writer line
  obtain ⟨newlineWritten, newlineReceived⟩ := accepts (write.writeAll writer line).1 [newline]
  refine ⟨(write.writeAll (write.writeAll writer line).1 [newline]).1, ?_, ?_⟩
  · simp [writeLine, lineWritten, newlineWritten, handleWriteResult]
  · rw [newlineReceived, lineReceived, List.append_assoc]

/-- Every line is written, and the visitor goes on. -/
theorem visitText_accepted {sink : WriteLines W H} (appends : sink.mode = .appendLf)
    (lines : List String) :
    ∃ later, (writeLines write handler).visitText sink lines =
        ({ sink with writer := later }, .goOn) ∧
      received later =
        received sink.writer ++ lines.flatMap fun line => sink.mapper line ++ [newline] := by
  induction lines generalizing sink with
  | nil => exact ⟨sink.writer, rfl, (List.append_nil _).symm⟩
  | cons line rest ih =>
      obtain ⟨next, wrote, grown⟩ := writeLine_accepted handler accepts sink.streamName sink.writer
        sink.errorHandler (sink.mapper line)
      obtain ⟨later, visited, whole⟩ := @ih { sink with writer := next } appends
      refine ⟨later, ?_, ?_⟩
      · have here : (writeLines write handler).onLine sink line =
            ({ sink with writer := next }, .goOn) := by
          simp only [writeLines, appends, wrote]
        rw [LineVisitor.visitText, here]
        exact visited
      · rw [whole, grown, List.flatMap_cons, List.append_assoc]

end Accepting

/-! ## The round trip -/

/-- The answers of a subscription that yields chunks and then an end. -/
def chunksThen (chunks : List Chunk) (ending : Option StreamEvent) : List (Option StreamEvent) :=
  chunks.map (fun chunk => some (.chunk chunk)) ++ [ending]

theorem inputsBeforeEnd_chunksThen (chunks : List Chunk) {ending : Option StreamEvent}
    (closes : ending = some .eof ∨ ending = none) :
    inputsBeforeEnd (chunksThen chunks ending) = (chunks.map Chunk.bytes).map Input.chunk := by
  induction chunks with
  | nil => rcases closes with rfl | rfl <;> rfl
  | cons chunk rest ih => exact congrArg (Input.chunk chunk.bytes :: ·) ih

theorem streamEnd_chunksThen (chunks : List Chunk) {ending : Option StreamEvent}
    (closes : ending = some .eof ∨ ending = none) :
    streamEnd (chunksThen chunks ending) = some .closed := by
  induction chunks with
  | nil => rcases closes with rfl | rfl <;> rfl
  | cons chunk rest ih => exact ih

/-- A line of encoded text is decoded and written as it was read. -/
theorem identityLine_decodeLineLossy (line : List Char) :
    identityLine (decodeLineLossy (encode line)) = encode line := by
  have same : decodeFrom none (encode line) = line := decode_encode line
  rw [identityLine, decodeLineLossy, fromUtf8Lossy, same, String.toList_ofList]

/-- **The bytes written for the lines of a text** are those of the text, with a newline at the
end. -/
theorem flatMap_identityLine {options : LineParsingOptions}
    (limited : 0 < options.maxLineLength.bytes) {text : List Char}
    (fits : ∀ line ∈ text.splitOn '\n', (encode line).length ≤ options.maxLineLength.bytes) :
    ((segmentLines options (tailLinesAtEnd options) (encode text)).map decodeLineLossy).flatMap
        (fun line => identityLine line ++ [newline]) =
      encode text ++ if text = [] ∨ text.getLast? = some '\n' then [] else [newline] := by
  have pieces : (encode text).splitOn newline = (text.splitOn '\n').map encode :=
    splitOn_encode (by decide) (by decide) text
  have short : ∀ piece ∈ (encode text).splitOn newline,
      piece.length ≤ options.maxLineLength.bytes := by
    rw [pieces]
    exact List.forall_mem_map.mpr fits
  have kept : ∀ line ∈ segmentLines options (tailLinesAtEnd options) (encode text),
      identityLine (decodeLineLossy line) ++ [newline] = line ++ [newline] := by
    intro line member
    have piece := mem_splitOn_of_mem_segmentLines limited short member
    rw [pieces] at piece
    obtain ⟨chars, -, rfl⟩ := List.mem_map.mp piece
    rw [identityLine_decodeLineLossy]
  have ended : (encode text).getLast? = some newline ↔ text.getLast? = some '\n' :=
    getLast?_encode (by decide) (by decide) text
  rw [List.flatMap_map, List.flatMap_congr kept, flatMap_segmentLines limited short]
  simp only [encode_eq_nil_iff, ended]

/-- **Writing parsed lines with `AppendLf` reproduces the stream.** -/
theorem writtenLines_roundTrip {W H : Type} {write : AsyncWrite W}
    (handler : SinkWriteErrorHandler H) {received : W → List UInt8}
    (accepts : ∀ writer bytes, (write.writeAll writer bytes).2 = .ok () ∧
      received (write.writeAll writer bytes).1 = received writer ++ bytes)
    (alloc : Allocator) {options : LineParsingOptions}
    (limited : 0 < options.maxLineLength.bytes) (text : String)
    (fits : ∀ line ∈ text.toList.splitOn '\n',
      (encode line).length ≤ options.maxLineLength.bytes)
    {chunks : List Chunk} (cut : (chunks.map Chunk.bytes).flatten = encode text.toList)
    {ending : Option StreamEvent} (closes : ending = some .eof ∨ ending = none)
    (streamName : String) (writer : W) (errorHandler : H) :
    ∃ final, writtenLines write handler alloc options
          (.passthrough streamName writer ⟨errorHandler⟩ .appendLf) (chunksThen chunks ending) =
        .ok (some (.ok (.ok final))) ∧
      received final = received writer ++ (encode text.toList ++
        if text.toList = [] ∨ text.toList.getLast? = some '\n' then [] else [newline]) := by
  obtain ⟨parser, lines, fed, consumed, -⟩ := written_eq write handler alloc limited
    (.passthrough streamName writer ⟨errorHandler⟩ .appendLf) (chunksThen chunks ending)
  have parsed := parse_eq_reference alloc limited ((chunks.map Chunk.bytes).map Input.chunk)
  rw [inputsBeforeEnd_chunksThen chunks closes] at fed
  rw [parse, fed, segments_chunks, cut, reference] at parsed
  have whole : lines ++ parser.finish.2.toList =
      segmentLines options (tailLinesAtEnd options) (encode text.toList) := Except.ok.inj parsed
  rw [streamEnd_chunksThen chunks closes, countedLines, ← List.map_append, whole] at consumed
  obtain ⟨final, visited, grown⟩ := visitText_accepted handler accepts
    (show (WriteLines.passthrough streamName writer ⟨errorHandler⟩ .appendLf).mode = .appendLf
      from rfl)
    ((segmentLines options (tailLinesAtEnd options) (encode text.toList)).map decodeLineLossy)
  rw [visited] at consumed
  exact ⟨final, consumed, grown.trans (congrArg _ (flatMap_identityLine limited fits))⟩

/-- A `Vec<u8>` as a writer. -/
def vecWrite : AsyncWrite (List UInt8) where
  writeAll := fun received bytes => (received ++ bytes, .ok ())

/-- A line of exactly the limit, cut inside its last character, and an empty line. -/
theorem writtenLines_roundTrip_full_line :
    ∃ final, writtenLines vecWrite failFast exactAllocator ⟨⟨4⟩, .emitAdditionalAsNewLines, none⟩
          (.passthrough "stdout" [] ⟨()⟩ .appendLf)
          (chunksThen [⟨[97], 0⟩, ⟨[98, 10, 10, 99, 100, 0xC3], 1⟩, ⟨[0xA9], 7⟩] none) =
        .ok (some (.ok (.ok final))) ∧
      final = encode "ab\n\ncdé\n".toList := by
  have fits : ∀ line ∈ "ab\n\ncdé".toList.splitOn '\n', (encode line).length ≤ 4 := by decide
  obtain ⟨final, wrote, received⟩ := @writtenLines_roundTrip _ _ vecWrite failFast id
    (fun _ _ => ⟨rfl, rfl⟩) exactAllocator ⟨⟨4⟩, .emitAdditionalAsNewLines, none⟩ (by decide)
    "ab\n\ncdé" fits [⟨[97], 0⟩, ⟨[98, 10, 10, 99, 100, 0xC3], 1⟩, ⟨[0xA9], 7⟩] (by decide) none
    (.inr rfl) "stdout" [] ()
  exact ⟨final, wrote, received.trans (by decide)⟩

end TokioProcessTools.OutputStream.Visitors
