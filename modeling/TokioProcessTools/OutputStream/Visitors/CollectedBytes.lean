import TokioProcessTools.OutputStream.Visitors.Collect
import Mathlib.Data.List.TakeDrop

/-!
# Bounded byte collections do not depend on the chunks

Under fixed options a collection holds the first or the last bytes of everything
that was pushed, and the flag tells whether something is missing. How the bytes
were cut into chunks makes no difference. Under options that change between the
pushes every slice and every drain still stays inside its buffer
(`collectedBytes_exact`).
-/

set_option autoImplicit false

namespace TokioProcessTools.OutputStream.Visitors

open Foundation

/-- Which bytes of a stream a collection with the given limit keeps. -/
def CollectionOverflowBehavior.kept (maxBytes : Nat) (all : List UInt8) :
    CollectionOverflowBehavior → List UInt8
  | .dropAdditionalData => all.take (min maxBytes all.length)
  | .dropOldestData => all.drop (all.length - min maxBytes all.length)

namespace CollectedBytes

/-- **No push leaves its buffers**, whatever was collected before. -/
theorem exists_pushChunk (collected : CollectedBytes) (chunk : List UInt8)
    (options : RawCollectionOptions) :
    ∃ next, collected.pushChunk chunk options = .ok next := by
  cases options with
  | trustedUnbounded => exact ⟨_, rfl⟩
  | bounded maxBytes behavior =>
      cases behavior with
      | dropAdditionalData =>
          rw [pushChunk, sliceTo_of_le (Nat.min_le_right _ _)]
          exact ⟨_, rfl⟩
      | dropOldestData =>
          rw [pushChunk]
          split
          · rw [sliceFrom_of_le (Nat.sub_le _ _)]
            exact ⟨_, rfl⟩
          · rename_i fits
            dsimp only
            split
            · rename_i exceeds
              rw [checkedSub_of_le (Nat.le_of_lt exceeds), checked_ok_bind,
                drainFront_of_le (by omega)]
              exact ⟨_, rfl⟩
            · exact ⟨_, rfl⟩

/-- What is collected of a stream that was pushed under fixed options. -/
def ofStream (maxBytes : NumBytes) (behavior : CollectionOverflowBehavior) (all : List UInt8) :
    CollectedBytes :=
  ⟨behavior.kept maxBytes.bytes all, decide (maxBytes.bytes < all.length)⟩

/-- A further chunk continues the stream. -/
theorem pushChunk_ofStream (maxBytes : NumBytes) (behavior : CollectionOverflowBehavior)
    (all chunk : List UInt8) :
    (ofStream maxBytes behavior all).pushChunk chunk (.bounded maxBytes behavior) =
      .ok (ofStream maxBytes behavior (all ++ chunk)) := by
  cases behavior with
  | dropAdditionalData =>
      have size : (all.take (min maxBytes.bytes all.length)).length =
          min maxBytes.bytes all.length := by
        rw [List.length_take]
        omega
      have kept : all.take (min maxBytes.bytes all.length) ++
          chunk.take (min (maxBytes.bytes - min maxBytes.bytes all.length) chunk.length) =
            (all ++ chunk).take (min maxBytes.bytes (all ++ chunk).length) := by
        rw [List.take_append, List.length_append]
        congr 1
        · rw [List.take_eq_take_iff]
          omega
        · rw [List.take_eq_take_iff]
          omega
      simp only [ofStream, CollectionOverflowBehavior.kept, pushChunk, size,
        sliceTo_of_le (Nat.min_le_right _ _), checked_ok_bind, kept]
      congr 2
      rw [List.length_append, ← Bool.decide_or, decide_eq_decide]
      omega
  | dropOldestData =>
      have size : (all.drop (all.length - min maxBytes.bytes all.length)).length =
          min maxBytes.bytes all.length := by
        rw [List.length_drop]
        omega
      simp only [ofStream, CollectionOverflowBehavior.kept, pushChunk, size]
      rw [List.length_append]
      split
      · -- The chunk alone exceeds the limit: only its own end is kept.
        have nothing : all.drop (all.length + chunk.length -
            min maxBytes.bytes (all.length + chunk.length)) = [] :=
          List.drop_eq_nil_of_le (by omega)
        rw [sliceFrom_of_le (Nat.sub_le _ _), checked_ok_bind, List.drop_append, nothing,
          List.nil_append, decide_eq_true (by omega)]
        congr 3
        omega
      · split
        · rename_i exceeds
          rw [checkedSub_of_le (Nat.le_of_lt exceeds), checked_ok_bind,
            drainFront_of_le (by rw [size]; omega), checked_ok_bind, List.drop_drop,
            List.drop_append_of_le_length (by omega), decide_eq_true (by omega)]
          congr 4
          omega
        · rw [List.drop_append_of_le_length (by omega)]
          congr 2
          · congr 2
            omega
          · rw [decide_eq_decide]
            omega

theorem pushChunks_ofStream (maxBytes : NumBytes) (behavior : CollectionOverflowBehavior)
    (all : List UInt8) (chunks : List (List UInt8)) :
    (ofStream maxBytes behavior all).pushChunks
        (chunks.map fun chunk => (chunk, .bounded maxBytes behavior)) =
      .ok (ofStream maxBytes behavior (all ++ chunks.flatten)) := by
  induction chunks generalizing all with
  | nil => simp [pushChunks, pure, Except.pure]
  | cons chunk rest ih =>
      rw [pushChunks, List.map_cons, List.foldlM_cons, pushChunk_ofStream, checked_ok_bind,
        List.flatten_cons, ← List.append_assoc]
      exact ih (all ++ chunk)

theorem exists_pushChunks (collected : CollectedBytes)
    (pushes : List (List UInt8 × RawCollectionOptions)) :
    ∃ final, collected.pushChunks pushes = .ok final := by
  induction pushes generalizing collected with
  | nil => exact ⟨collected, rfl⟩
  | cons push rest ih =>
      obtain ⟨next, pushed⟩ := collected.exists_pushChunk push.1 push.2
      obtain ⟨final, ran⟩ := ih next
      refine ⟨final, ?_⟩
      rw [pushChunks, List.foldlM_cons, pushed, checked_ok_bind]
      exact ran

end CollectedBytes

/-- **Bounded byte collection takes or drops from the whole stream.** Under fixed options with a
limit, the first or the last bytes of all chunks together are kept, as many as the limit allows, and
the flag is set exactly if there were more; so two ways to cut the same bytes give the same result.
Under any options on each push, no slice and no drain leaves its buffer. -/
theorem collectedBytes_exact :
    (∀ (maxBytes : NumBytes) (behavior : CollectionOverflowBehavior) (chunks : List (List UInt8)),
      CollectedBytes.pushChunks {} (chunks.map fun chunk => (chunk, .bounded maxBytes behavior)) =
        .ok ⟨behavior.kept maxBytes.bytes chunks.flatten,
          decide (maxBytes.bytes < chunks.flatten.length)⟩) ∧
    (∀ (maxBytes : NumBytes) (behavior : CollectionOverflowBehavior)
      (chunks others : List (List UInt8)), chunks.flatten = others.flatten →
        CollectedBytes.pushChunks {} (chunks.map fun chunk => (chunk, .bounded maxBytes behavior)) =
          CollectedBytes.pushChunks {}
            (others.map fun chunk => (chunk, .bounded maxBytes behavior))) ∧
    ∀ pushes : List (List UInt8 × RawCollectionOptions),
      ∃ collected, CollectedBytes.pushChunks {} pushes = .ok collected := by
  have exact : ∀ (maxBytes : NumBytes) (behavior : CollectionOverflowBehavior)
      (chunks : List (List UInt8)),
      CollectedBytes.pushChunks {} (chunks.map fun chunk => (chunk, .bounded maxBytes behavior)) =
        .ok (CollectedBytes.ofStream maxBytes behavior chunks.flatten) := by
    intro maxBytes behavior chunks
    have started : ({} : CollectedBytes) = CollectedBytes.ofStream maxBytes behavior [] := by
      cases behavior <;> simp [CollectedBytes.ofStream, CollectionOverflowBehavior.kept]
    rw [started, CollectedBytes.pushChunks_ofStream, List.nil_append]
  refine ⟨exact, ?_, CollectedBytes.exists_pushChunks {}⟩
  intro maxBytes behavior chunks others same
  rw [exact, exact, same]

/-- The last three of five bytes, in two and in three chunks. -/
theorem collectedBytes_exact_rechunked :
    ([[1, 2], [3, 4, 5]] : List (List UInt8)).flatten = [[1], [2, 3, 4], [5]].flatten ∧
    CollectedBytes.pushChunks {}
        ([[1, 2], [3, 4, 5]].map fun chunk => (chunk, .bounded ⟨3⟩ .dropOldestData)) =
      CollectedBytes.pushChunks {}
        ([[1], [2, 3, 4], [5]].map fun chunk => (chunk, .bounded ⟨3⟩ .dropOldestData)) :=
  ⟨by decide, collectedBytes_exact.2.1 ⟨3⟩ .dropOldestData _ _ (by decide)⟩

end TokioProcessTools.OutputStream.Visitors
