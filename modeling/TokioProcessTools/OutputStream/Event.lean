import Mathlib.Data.List.Basic

/-!
# Events of an output stream

A backend reads bytes from a child process and delivers them as chunks. A gap
marks skipped chunks, and one terminal event, the end of the stream or a read
error, ends the sequence.

A chunk of the program is a view into the reader's buffer. The model keeps the
position of its first byte in the source beside the bytes, so that two chunks
with equal bytes at different places of the stream are different chunks. No
function of the model reads the position.
-/

set_option autoImplicit false

namespace TokioProcessTools.OutputStream

/-- Bytes read from the source (`Chunk`), with the position of the first one. -/
structure Chunk where
  bytes : List UInt8
  offset : Nat
  deriving DecidableEq, Repr

/-- The position behind the last byte. -/
def Chunk.endOffset (chunk : Chunk) : Nat := chunk.offset + chunk.bytes.length

/-- An I/O error of the source. -/
structure IoError where
  kind : Nat
  message : String
  deriving DecidableEq, Repr

/-- `StreamReadError`: the name of the stream that failed and the underlying error. -/
structure StreamReadError where
  streamName : String
  source : IoError
  deriving DecidableEq, Repr

/-- `StreamEvent`. -/
inductive StreamEvent where
  | chunk (chunk : Chunk)
  | gap
  | eof
  | readError (error : StreamReadError)
  deriving DecidableEq, Repr

namespace StreamEvent

/-- `matches!(event, StreamEvent::Eof | StreamEvent::ReadError(_))`. -/
def isTerminal : StreamEvent → Bool
  | .chunk _ | .gap => false
  | .eof | .readError _ => true

/-- The chunk an event carries. -/
def chunk? : StreamEvent → Option Chunk
  | .chunk bytes => some bytes
  | .gap | .eof | .readError _ => none

/-- The number of bytes an event carries. -/
def size : StreamEvent → Nat
  | .chunk bytes => bytes.bytes.length
  | .gap | .eof | .readError _ => 0

/-- Whether the event is a chunk. -/
def isChunk : StreamEvent → Bool
  | .chunk _ => true
  | .gap | .eof | .readError _ => false

theorem exists_chunk {event : StreamEvent} (isChunk : event.isChunk = true) :
    ∃ chunk, event = .chunk chunk := by
  cases event with
  | chunk chunk => exact ⟨chunk, rfl⟩
  | gap => cases isChunk
  | eof => cases isChunk
  | readError error => cases isChunk

theorem isTerminal_of_isChunk {event : StreamEvent} (isChunk : event.isChunk = true) :
    event.isTerminal = false := by
  obtain ⟨chunk, rfl⟩ := exists_chunk isChunk
  rfl

theorem eq_gap {event : StreamEvent} (notChunk : event.isChunk = false)
    (running : event.isTerminal = false) : event = .gap := by
  cases event with
  | chunk chunk => cases notChunk
  | gap => rfl
  | eof => cases running
  | readError error => cases running

theorem ne_gap_of_isTerminal {event : StreamEvent} (terminal : event.isTerminal = true) :
    event ≠ .gap := by
  intro gap
  rw [gap] at terminal
  cases terminal

theorem ne_gap_of_isChunk {event : StreamEvent} (isChunk : event.isChunk = true) :
    event ≠ .gap := by
  intro gap
  rw [gap] at isChunk
  cases isChunk

theorem size_of_isTerminal {event : StreamEvent} (terminal : event.isTerminal = true) :
    event.size = 0 := by
  cases event with
  | chunk chunk => cases terminal
  | gap => rfl
  | eof => rfl
  | readError error => rfl

@[simp] theorem isTerminal_chunk (chunk : Chunk) : (StreamEvent.chunk chunk).isTerminal = false :=
  rfl

@[simp] theorem isTerminal_gap : StreamEvent.gap.isTerminal = false := rfl

end StreamEvent

/-- `Next`: whether a visitor wants to go on. -/
inductive Next where
  | goOn
  | stop
  deriving DecidableEq, Repr

end TokioProcessTools.OutputStream
