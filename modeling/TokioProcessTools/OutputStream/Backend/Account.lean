import TokioProcessTools.Foundation.Tiling
import TokioProcessTools.OutputStream.Event

/-!
# What a subscription was told

A backend has a history of events, and a subscription yields items. An item
accounts for a stretch of the history: an event for itself, a gap for one or more
chunks that were lost. Items that tile a stretch leave no event of it out without
a word.
-/

set_option autoImplicit false

namespace TokioProcessTools.OutputStream.Backend

open Foundation

/-! ## Stretches -/

section Stretch

variable {α : Type}

/-- What stands between two positions. -/
def stretch (history : List α) (first last : Nat) : List α :=
  (history.drop first).take (last - first)

@[simp] theorem stretch_self (history : List α) (position : Nat) :
    stretch history position position = [] := by
  rw [stretch, Nat.sub_self, List.take_zero]

theorem stretch_length (history : List α) (first : Nat) :
    stretch history first history.length = history.drop first := by
  rw [stretch, ← List.length_drop, List.take_length]

theorem stretch_split {history : List α} {first middle last : Nat} (before : first ≤ middle)
    (behind : middle ≤ last) :
    stretch history first last = stretch history first middle ++ stretch history middle last := by
  have length : last - first = (middle - first) + (last - middle) := by omega
  have start : first + (middle - first) = middle := by omega
  rw [stretch, length, List.take_add, List.drop_drop, start]
  rfl

theorem stretch_succ {history : List α} {position : Nat} {item : α}
    (found : history[position]? = some item) :
    stretch history position (position + 1) = [item] := by
  obtain ⟨inside, rfl⟩ := List.getElem?_eq_some_iff.mp found
  rw [stretch, Nat.add_sub_cancel_left, List.drop_eq_getElem_cons inside, List.take_succ_cons,
    List.take_zero]

end Stretch

/-! ## Reports -/

/-- What an item that was yielded accounts for in a history: an event for itself, a gap for one or
more chunks. -/
inductive Reports (history : List StreamEvent) : StreamEvent → Nat → Nat → Prop where
  | event {event : StreamEvent} {position : Nat} : event ≠ .gap →
      history[position]? = some event → Reports history event position (position + 1)
  | gap {first last : Nat} : first < last →
      (∀ position, first ≤ position → position < last →
        ∃ chunk, history[position]? = some (.chunk chunk)) → Reports history .gap first last

section Reports

variable {history : List StreamEvent} {event : StreamEvent} {first last : Nat}

theorem Reports.lt (reports : Reports history event first last) : first < last := by
  cases reports with
  | event _ _ => exact Nat.lt_succ_self _
  | gap nonempty _ => exact nonempty

theorem Reports.le (reports : Reports history event first last) : first ≤ last :=
  Nat.le_of_lt reports.lt

/-- What has happened stays where it is. -/
theorem Reports.append (reports : Reports history event first last) (more : List StreamEvent) :
    Reports (history ++ more) event first last := by
  have kept : ∀ (position : Nat) found, history[position]? = some found →
      (history ++ more)[position]? = some found := by
    intro position found stored
    obtain ⟨inside, _⟩ := List.getElem?_eq_some_iff.mp stored
    rw [List.getElem?_append_left inside]
    exact stored
  cases reports with
  | event other stored => exact .event other (kept _ _ stored)
  | gap nonempty chunks =>
      refine .gap nonempty fun position above below => ?_
      obtain ⟨chunk, stored⟩ := chunks position above below
      exact ⟨chunk, kept position _ stored⟩

end Reports

end TokioProcessTools.OutputStream.Backend
