import TokioProcessTools.OutputStream.Config

/-!
# Collecting output in memory

`CollectedBytes` gathers raw chunks and `CollectedLines` parsed lines. Either
keeps everything, or it is bounded: by a number of bytes, and for lines also by
a number of lines. What a bounded collection does beyond its limit is the
overflow behaviour: it keeps what came first, or it evicts the oldest output.

The options are given anew with every push. Slices, drains, subtractions and
sums are checked operations here, as they are in the program.
-/

set_option autoImplicit false

namespace TokioProcessTools.OutputStream.Visitors

open Foundation

/-- `CollectionOverflowBehavior`. -/
inductive CollectionOverflowBehavior where
  | dropAdditionalData
  | dropOldestData
  deriving DecidableEq, Repr

/-- `RawCollectionOptions`. -/
inductive RawCollectionOptions where
  | bounded (maxBytes : NumBytes) (overflowBehavior : CollectionOverflowBehavior)
  | trustedUnbounded
  deriving DecidableEq, Repr

/-- `LineCollectionOptions`. -/
inductive LineCollectionOptions where
  | bounded (maxBytes : NumBytes) (maxLines : Nat) (overflowBehavior : CollectionOverflowBehavior)
  | trustedUnbounded
  deriving DecidableEq, Repr

/-! ## Bytes -/

/-- `CollectedBytes`; the defaults are those of `CollectedBytes::new`. -/
structure CollectedBytes where
  bytes : List UInt8 := []
  truncated : Bool := false
  deriving DecidableEq, Repr

namespace CollectedBytes

/-- `Vec::drain(0..count)`, the drained bytes dropped. -/
def drainFront (bytes : List UInt8) (count : Nat) : Checked (List UInt8) :=
  if count ≤ bytes.length then .ok (bytes.drop count)
  else .error (.panicked "range end index out of range for slice")

@[simp] theorem drainFront_of_le {bytes : List UInt8} {count : Nat}
    (inside : count ≤ bytes.length) : drainFront bytes count = .ok (bytes.drop count) :=
  if_pos inside

/-- `push_chunk`. The lengths of two byte buffers are at most `isize::MAX` each, so their sum is
not checked. -/
def pushChunk (collected : CollectedBytes) (chunk : List UInt8) :
    RawCollectionOptions → Checked CollectedBytes
  | .trustedUnbounded => .ok { collected with bytes := collected.bytes ++ chunk }
  | .bounded maxBytes .dropAdditionalData => do
      -- `saturating_sub`
      let remaining := maxBytes.bytes - collected.bytes.length
      let kept ← sliceTo chunk (min remaining chunk.length)
      .ok ⟨collected.bytes ++ kept, collected.truncated || decide (remaining < chunk.length)⟩
  | .bounded maxBytes .dropOldestData =>
      if maxBytes.bytes < chunk.length then do
        let kept ← sliceFrom chunk (chunk.length - maxBytes.bytes)
        .ok ⟨kept, true⟩
      else do
        let required := collected.bytes.length + chunk.length
        if maxBytes.bytes < required then
          let excess ← checkedSub required maxBytes.bytes
          let kept ← drainFront collected.bytes excess
          .ok ⟨kept ++ chunk, true⟩
        else .ok { collected with bytes := collected.bytes ++ chunk }

/-- A sequence of pushes, each with its own options. -/
def pushChunks (collected : CollectedBytes) (pushes : List (List UInt8 × RawCollectionOptions)) :
    Checked CollectedBytes :=
  pushes.foldlM (fun collected push => collected.pushChunk push.1 push.2) collected

end CollectedBytes

/-! ## Lines -/

/-- `CollectedLines`; the defaults are those of `CollectedLines::new`. -/
structure CollectedLines where
  lines : List String := []
  truncated : Bool := false
  retainedBytes : Nat := 0
  deriving DecidableEq, Repr

namespace CollectedLines

/-- `push_back`. -/
def pushBack (collected : CollectedLines) (line : String) : Checked CollectedLines := do
  let retainedBytes ← checkedAdd collected.retainedBytes line.utf8ByteSize
  .ok { collected with lines := collected.lines ++ [line], retainedBytes }

/-- `pop_front`. -/
def popFront (collected : CollectedLines) : Checked (CollectedLines × Option String) :=
  match collected.lines with
  | [] => .ok (collected, none)
  | line :: rest => do
      let retainedBytes ← checkedSub collected.retainedBytes line.utf8ByteSize
      .ok ({ collected with lines := rest, retainedBytes }, some line)

theorem popFront_length {collected rest : CollectedLines} {line : String}
    (popped : collected.popFront = .ok (rest, some line)) :
    rest.lines.length < collected.lines.length := by
  unfold popFront at popped
  split at popped
  · cases popped
  · rename_i line rest here
    unfold checkedSub at popped
    split at popped
    · cases popped
      rw [here]
      exact Nat.lt_succ_self _
    · cases popped

section Pushing

variable (maxBytes : NumBytes) (maxLines lineLen : Nat)

/-- The condition of the eviction loop; the subtraction saturates. -/
def MustEvict (collected : CollectedLines) : Prop :=
  maxLines ≤ collected.lines.length ∨ maxBytes.bytes - collected.retainedBytes < lineLen

instance (collected : CollectedLines) : Decidable (collected.MustEvict maxBytes maxLines lineLen) :=
  inferInstanceAs (Decidable (_ ∨ _))

/-- The eviction loop of `push_line`. -/
def evict (collected : CollectedLines) : Checked CollectedLines :=
  if collected.MustEvict maxBytes maxLines lineLen then
    match _popped : collected.popFront with
    | .error reason => .error reason
    | .ok (_, none) => .error (.expectFailed "line buffer to contain an evictable line")
    | .ok (rest, some _) => evict { rest with truncated := true }
  else .ok collected
termination_by collected.lines.length
decreasing_by exact popFront_length _popped

end Pushing

/-- `push_line`. -/
def pushLine (collected : CollectedLines) (line : String) :
    LineCollectionOptions → Checked CollectedLines
  | .trustedUnbounded => collected.pushBack line
  | .bounded maxBytes maxLines .dropAdditionalData =>
      if maxLines ≤ collected.lines.length ∨ maxBytes.bytes < line.utf8ByteSize ∨
          maxBytes.bytes - collected.retainedBytes < line.utf8ByteSize then
        .ok { collected with truncated := true }
      else collected.pushBack line
  | .bounded maxBytes maxLines .dropOldestData =>
      if maxLines = 0 then .ok { collected with truncated := true }
      else if maxBytes.bytes < line.utf8ByteSize then .ok { collected with truncated := true }
      else do
        let collected ← collected.evict maxBytes maxLines line.utf8ByteSize
        collected.pushBack line

/-- A sequence of pushes, each with its own options. -/
def pushLines (collected : CollectedLines) (pushes : List (String × LineCollectionOptions)) :
    Checked CollectedLines :=
  pushes.foldlM (fun collected push => collected.pushLine push.1 push.2) collected

end CollectedLines

end TokioProcessTools.OutputStream.Visitors
