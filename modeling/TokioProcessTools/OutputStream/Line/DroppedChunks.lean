import TokioProcessTools.OutputStream.Line.Visiting

/-!
# Dropped chunks never fabricate a line

A lossy backend delivers a gap where it dropped chunks. The lines parsed from
what is left are lines of the whole stream, in their order
(`collectedLines_sublist`).

The argument compares two runs of the byte machine. After a gap the run over the
reduced events discards, while the run over all chunks is in an arbitrary state.
The next newline takes every state to a line start, so the two runs meet there;
until then the discarding run emits nothing.
-/

set_option autoImplicit false

namespace TokioProcessTools.OutputStream.Line

open Foundation

/-- The events that are left of a list of chunks when contiguous runs of them are dropped and one
or more gaps stand in place of each run. -/
inductive DropsRuns : List Chunk → List StreamEvent → Prop where
  | nil : DropsRuns [] []
  | keep (chunk : Chunk) {chunks : List Chunk} {events : List StreamEvent} :
      DropsRuns chunks events → DropsRuns (chunk :: chunks) (.chunk chunk :: events)
  | drop (lost : List Chunk) (moreGaps : Nat) {chunks : List Chunk} {events : List StreamEvent} :
      DropsRuns chunks events →
        DropsRuns (lost ++ chunks) (List.replicate (moreGaps + 1) .gap ++ events)

theorem DropsRuns.running {chunks : List Chunk} {events : List StreamEvent}
    (dropped : DropsRuns chunks events) : ∀ event ∈ events, event.isTerminal = false := by
  induction dropped with
  | nil => exact fun _ member => absurd member List.not_mem_nil
  | keep chunk _ ih =>
      intro event member
      rcases List.mem_cons.mp member with rfl | later
      · rfl
      · exact ih event later
  | drop lost moreGaps _ ih =>
      intro event member
      rcases List.mem_append.mp member with isGap | later
      · rw [List.eq_of_mem_replicate isGap]
        rfl
      · exact ih event later

section TwoRuns

variable {options : LineParsingOptions}

/-- A newline takes every state to a line start. -/
theorem read_newline (state : LineState) :
    (state.read options newline).1 = LineState.fresh := by
  unfold LineState.read
  split
  · rw [if_pos rfl]
  · rw [if_pos rfl]
  · split
    · rw [if_pos rfl]
    · rw [if_pos rfl]

/-- A discarding run emits a sublist of any other run over the same bytes, and meets it unless it
still discards. -/
theorem run_afterGap_sublist (state : LineState) (bytes : List UInt8) :
    (LineState.afterGap.run options bytes).2.Sublist (state.run options bytes).2 ∧
      ((LineState.afterGap.run options bytes).1 = LineState.afterGap ∨
        (LineState.afterGap.run options bytes).1 = (state.run options bytes).1) := by
  refine Transducer.run_sublist_of_lagging (· = newline) ?_ ?_ ?_ bytes state
  · intro byte
    rfl
  · intro byte other
    exact if_neg other
  · rintro byte rfl state
    rw [read_newline, read_newline]

/-- Gaps leave the machine discarding. -/
theorem run_gaps (state : LineState) (moreGaps : Nat) :
    Transducer.run (LineState.observeEvent options) state (List.replicate (moreGaps + 1) .gap) =
      (LineState.afterGap, []) := by
  induction moreGaps generalizing state with
  | zero => rfl
  | succ moreGaps ih =>
      rw [List.replicate_succ, Transducer.run_cons, ih]
      rfl

/-- **The two runs.** The run over the reduced events starts in the state of the run over all
chunks, or discards. With the line in progress flushed at the end, it emits a sublist. -/
theorem run_sublist_of_dropsRuns {chunks : List Chunk} {events : List StreamEvent}
    (dropped : DropsRuns chunks events) (full reduced : LineState)
    (behind : reduced = LineState.afterGap ∨ reduced = full) :
    ((Transducer.run (LineState.observeEvent options) reduced events).2 ++
      (Transducer.run (LineState.observeEvent options) reduced events).1.flush).Sublist
    ((Transducer.run (LineState.observeEvent options) full (chunks.map .chunk)).2 ++
      (Transducer.run (LineState.observeEvent options) full (chunks.map .chunk)).1.flush) := by
  induction dropped generalizing full reduced with
  | nil =>
      rcases behind with rfl | rfl
      · exact List.nil_sublist _
      · exact List.Sublist.refl _
  | keep chunk _ ih =>
      rw [List.map_cons, Transducer.run_cons, Transducer.run_cons, List.append_assoc,
        List.append_assoc]
      rcases behind with rfl | rfl
      · obtain ⟨sublist, meets⟩ := @run_afterGap_sublist options full chunk.bytes
        exact sublist.append (ih _ _ meets)
      · exact (List.Sublist.refl _).append (ih _ _ (.inr rfl))
  | drop lost moreGaps _ ih =>
      rw [List.map_append, Transducer.run_append, Transducer.run_append, run_gaps,
        List.nil_append, List.append_assoc]
      exact (ih _ _ (.inl rfl)).trans (List.sublist_append_right _ _)

end TwoRuns

/-- **Dropping chunks never fabricates a line.** The lines over the reduced events are a
subsequence, in order, of the lines over all chunks. -/
theorem collectedLines_sublist (alloc : Allocator) {options : LineParsingOptions}
    (limited : 0 < options.maxLineLength.bytes) {chunks : List Chunk} {events : List StreamEvent}
    (dropped : DropsRuns chunks events) :
    ∃ reduced full,
      collectedLines alloc options (events ++ [.eof]) = .ok (some (.ok reduced)) ∧
      collectedLines alloc options (chunks.map .chunk ++ [.eof]) = .ok (some (.ok full)) ∧
        reduced.Sublist full := by
  have running : ∀ event ∈ chunks.map StreamEvent.chunk, event.isTerminal = false := by
    intro event member
    obtain ⟨chunk, _, rfl⟩ := List.mem_map.mp member
    rfl
  exact ⟨_, _, collectedLines_eq dropped.running alloc limited,
    collectedLines_eq running alloc limited,
    (run_sublist_of_dropsRuns dropped _ _ (.inr rfl)).map _⟩

/-- The second of three chunks is dropped in the middle of a line. -/
theorem collectedLines_sublist_middle :
    ∃ reduced full,
      collectedLines exactAllocator ⟨⟨4⟩, .emitAdditionalAsNewLines, none⟩
          [.chunk ⟨[97, 10, 98], 0⟩, .gap, .chunk ⟨[100, 10, 101], 5⟩, .eof] =
        .ok (some (.ok reduced)) ∧
      collectedLines exactAllocator ⟨⟨4⟩, .emitAdditionalAsNewLines, none⟩
          [.chunk ⟨[97, 10, 98], 0⟩, .chunk ⟨[99, 10], 3⟩, .chunk ⟨[100, 10, 101], 5⟩, .eof] =
        .ok (some (.ok full)) ∧
      reduced.Sublist full :=
  collectedLines_sublist exactAllocator (by decide)
    (.keep _ (.drop [⟨[99, 10], 3⟩] 0 (.keep _ .nil)))

end TokioProcessTools.OutputStream.Line
