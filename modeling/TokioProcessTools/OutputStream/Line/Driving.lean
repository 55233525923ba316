import TokioProcessTools.OutputStream.Event
import TokioProcessTools.OutputStream.Line.ByteMachine

/-!
# Driving the parser over a chunk

A caller calls `next_line` until it yields nothing and hands every line to a
visitor, which may stop early. The loop ends: a call that yields a line has
consumed a byte or emptied a full buffer (`nextLine_shrinks`).

The lines of a chunk are those the byte machine emits over it, whatever buffers
and calls were involved (`forEachLine_eq`).
-/

set_option autoImplicit false

namespace TokioProcessTools.OutputStream.Line

open Foundation

namespace LineParser

variable {alloc : Allocator} {options : LineParsingOptions}

/-- The bytes left to read, and one more when a line is in progress. -/
def pendingWork (parser : LineParser) (chunk : List UInt8) : Nat :=
  chunk.length + if parser.lineBuffer.bytes = [] then 0 else 1

/-- A line was yielded and the line buffer is empty; a byte was read, or the buffer was not empty
before. -/
theorem scanUpTo_done {parser next : LineParser} {chunk rest : List UInt8} {scanLen : Nat}
    {line : Option LineBytes} (positive : 0 < scanLen) (inside : scanLen ≤ chunk.length)
    (done : parser.scanUpTo alloc options chunk scanLen = .done next rest line) :
    next.lineBuffer.bytes = [] ∧ rest.length < chunk.length := by
  cases found : memchr newline (chunk.take scanLen) with
  | some pos =>
      simp only [scanUpTo, found, emitIn_eq] at done
      split at done <;> cases done
      · rename_i empty
        exact ⟨by simpa using empty, by rw [List.length_drop]; omega⟩
      · exact ⟨rfl, by rw [List.length_drop]; omega⟩
  | none =>
      simp only [scanUpTo, found, emitIn_eq] at done
      split at done <;> cases done
      exact ⟨rfl, by rw [List.length_drop]; omega⟩

theorem scanLine_done {parser next : LineParser} {chunk rest : List UInt8}
    {line : Option LineBytes} (nonempty : chunk ≠ [])
    (done : parser.scanLine alloc options chunk = .ok (.done next rest line)) :
    next.lineBuffer.bytes = [] ∧ rest.length < parser.pendingWork chunk := by
  rcases scanLine_cases done nonempty with ⟨full, same⟩ | ⟨_, scanLen, positive, inside, same⟩
  · rw [emitIn_eq] at same
    cases same
    have occupied : parser.lineBuffer.bytes ≠ [] :=
      List.ne_nil_of_length_pos (full.2 ▸ Nat.pos_of_ne_zero full.1)
    exact ⟨rfl, by rw [pendingWork, if_neg occupied]; exact Nat.lt_succ_self _⟩
  · obtain ⟨empty, shorter⟩ := scanUpTo_done positive inside same.symm
    exact ⟨empty, Nat.lt_of_lt_of_le shorter (Nat.le_add_right _ _)⟩

theorem pass_done {parser next : LineParser} {chunk rest : List UInt8} {line : LineBytes}
    (nonempty : chunk ≠ [])
    (done : parser.pass alloc options chunk = .ok (.done next rest (some line))) :
    next.lineBuffer.bytes = [] ∧ rest.length < parser.pendingWork chunk := by
  unfold pass at done
  split at done
  · split at done <;> cases done
  · split at done
    · cases done
    · have scanned := scanLine_done nonempty done
      exact scanned
  · exact scanLine_done nonempty done

/-- **A call that yields a line leaves less to do.** -/
theorem nextLine_shrinks {parser next : LineParser} {chunk rest : List UInt8} {line : LineBytes}
    (called : parser.nextLine alloc options chunk = .ok ⟨next, rest, some line⟩) :
    next.pendingWork rest < parser.pendingWork chunk := by
  have loop : ∀ (start : LineParser) (chunk : List UInt8),
      start.nextLineLoop alloc options chunk = .ok ⟨next, rest, some line⟩ →
        next.lineBuffer.bytes = [] ∧ rest.length < start.pendingWork chunk := by
    intro start chunk
    induction size : chunk.length using Nat.strongRecOn generalizing start chunk with
    | _ size ih =>
        intro called
        rw [nextLineLoop] at called
        split at called
        · cases called
        · rename_i nonempty
          split at called
          · cases called
          · rename_i taken
            cases called
            exact pass_done nonempty taken
          · rename_i again behind taken
            have shorter := pass_again_length taken nonempty
            obtain ⟨empty, fewer⟩ := ih behind.length (size ▸ shorter) again behind rfl called
            refine ⟨empty, Nat.lt_of_lt_of_le fewer ?_⟩
            unfold pendingWork
            split <;> split <;> omega
  obtain ⟨empty, fewer⟩ := loop _ _ called
  rw [pendingWork, if_pos empty, Nat.add_zero]
  refine Nat.lt_of_lt_of_eq fewer ?_
  rw [pendingWork, compactIfNeeded_lineBuffer_bytes, pendingWork]

variable (alloc options)

/-- The loop `while let Some(line) = parser.next_line(&mut bytes, options)` around a visitor that
may stop it. -/
def forEachLine {S : Type} (visit : S → LineBytes → S × Next) (parser : LineParser)
    (chunk : List UInt8) (sink : S) : Checked (LineParser × S × Next) :=
  match _called : parser.nextLine alloc options chunk with
  | .error reason => .error reason
  | .ok ⟨next, _, none⟩ => .ok (next, sink, .goOn)
  | .ok ⟨next, rest, some line⟩ =>
      match visit sink line with
      | (sink, .stop) => .ok (next, sink, .stop)
      | (sink, .goOn) => forEachLine visit next rest sink
termination_by parser.pendingWork chunk
decreasing_by exact nextLine_shrinks _called

/-- Hand lines to a visitor until it stops. -/
def visitLines {S : Type} (visit : S → LineBytes → S × Next) (sink : S) : List LineBytes → S × Next
  | [] => (sink, .goOn)
  | line :: rest =>
      match visit sink line with
      | (sink, .stop) => (sink, .stop)
      | (sink, .goOn) => visitLines visit sink rest

variable {options}

/-- **The lines of a chunk are those of the byte machine.** The visitor sees them in order until
it stops; if it never does, the parser is left where the machine ends. -/
theorem forEachLine_eq {S : Type} (visit : S → LineBytes → S × Next) {parser : LineParser}
    (chunk : List UInt8) (sink : S) (within : parser.state.WithinLimit options) :
    ∃ next, parser.forEachLine alloc options visit chunk sink =
        .ok (next, visitLines visit sink (parser.state.run options chunk).2) ∧
      next.state.WithinLimit options ∧
      ((visitLines visit sink (parser.state.run options chunk).2).2 = .goOn →
        next.state = (parser.state.run options chunk).1) := by
  induction work : parser.pendingWork chunk using Nat.strongRecOn
    generalizing parser chunk sink with
  | _ work ih =>
      obtain ⟨⟨next, rest, line⟩, called, within', refined⟩ := nextLine_refines alloc within
      rw [forEachLine]
      split
      · rename_i failed
        cases called.symm.trans failed
      · rename_i ended
        obtain ⟨rfl, rfl, rfl⟩ := Yield.mk.inj (Except.ok.inj (called.symm.trans ended))
        rw [refined.2]
        exact ⟨next, rfl, within', fun _ => rfl⟩
      · rename_i yielded
        obtain ⟨rfl, rfl, rfl⟩ := Yield.mk.inj (Except.ok.inj (called.symm.trans yielded))
        rw [refined, yielding]
        split
        · rename_i sink stopped
          exact ⟨next, by simp only [visitLines, stopped], within', by simp [visitLines, stopped]⟩
        · rename_i sink more
          obtain ⟨final, looped, within'', ends⟩ :=
            ih (next.pendingWork rest) (work ▸ nextLine_shrinks called) rest sink within' rfl
          refine ⟨final, ?_, within'', ?_⟩
          · simp only [visitLines, more]
            exact looped
          · simpa only [visitLines, more] using ends

end LineParser

end TokioProcessTools.OutputStream.Line
