import Mathlib.Data.List.Basic

/-!
# Cutting a list into fragments of one length

`fragments size` cuts a list into consecutive fragments of length `size`; only
the last one may be shorter, and none is empty. A list that is not empty is its
first fragment followed by the fragments of the rest (`fragments_eq_cons`),
which is the form an induction over the fragments uses.
-/

set_option autoImplicit false

namespace TokioProcessTools.Foundation

universe u

variable {α : Type u}

/-- Consecutive fragments of one length, without an empty one at the end. -/
def fragments (size : Nat) (list : List α) : List (List α) :=
  if _stop : list = [] ∨ size = 0 then []
  else list.take size :: fragments size (list.drop size)
termination_by list.length
decreasing_by
  rw [not_or, ← List.length_eq_zero_iff] at _stop
  rw [List.length_drop]
  omega

@[simp] theorem fragments_nil (size : Nat) : fragments size ([] : List α) = [] := by
  rw [fragments, dif_pos (.inl rfl)]

/-- **The first fragment and the fragments of the rest.** -/
theorem fragments_eq_cons {size : Nat} {list : List α} (positive : 0 < size) (some : list ≠ []) :
    fragments size list = list.take size :: fragments size (list.drop size) := by
  rw [fragments, dif_neg (not_or.mpr ⟨some, Nat.ne_of_gt positive⟩)]

/-- A list no longer than one fragment is that fragment. -/
theorem fragments_of_length_le {size : Nat} {list : List α} (positive : 0 < size)
    (some : list ≠ []) (short : list.length ≤ size) : fragments size list = [list] := by
  rw [fragments_eq_cons positive some, List.take_of_length_le short, List.drop_of_length_le short,
    fragments_nil]

/-- A list is cut into fragments on both sides of a position where a fragment ends. -/
theorem fragments_take_drop {size : Nat} (positive : 0 < size) (count : Nat) (list : List α) :
    fragments size list =
      fragments size (list.take (count * size)) ++ fragments size (list.drop (count * size)) := by
  induction count generalizing list with
  | zero => rw [Nat.zero_mul, List.take_zero, List.drop_zero, fragments_nil, List.nil_append]
  | succ count ih =>
      by_cases stop : list = []
      · rw [stop, List.take_nil, List.drop_nil, fragments_nil, List.nil_append]
      have taken : list.take ((count + 1) * size) ≠ [] := by
        rw [← List.length_pos_iff, List.length_take]
        exact Nat.lt_min.mpr ⟨Nat.mul_pos (Nat.succ_pos count) positive, List.length_pos_iff.mpr stop⟩
      have first : (list.take ((count + 1) * size)).take size = list.take size := by
        rw [List.take_take, Nat.min_eq_left (Nat.le_mul_of_pos_left size (Nat.succ_pos count))]
      have behind : (list.take ((count + 1) * size)).drop size =
          (list.drop size).take (count * size) := by
        rw [List.drop_take, Nat.succ_mul, Nat.add_sub_cancel]
      have rest : list.drop ((count + 1) * size) = (list.drop size).drop (count * size) := by
        rw [List.drop_drop, Nat.succ_mul, Nat.add_comm]
      rw [fragments_eq_cons positive stop, fragments_eq_cons positive taken, first, behind, rest,
        List.cons_append, ← ih]

/-- **Replacing parts by longer ones changes the whole** unless every part is kept. -/
theorem flatMap_eq_flatten_iff {replace : List α → List α}
    (longer : ∀ part, part.length ≤ (replace part).length) (parts : List (List α)) :
    parts.flatMap replace = parts.flatten ↔ ∀ part ∈ parts, replace part = part := by
  have grows : ∀ rest : List (List α), rest.flatten.length ≤ (rest.flatMap replace).length := by
    intro rest
    induction rest with
    | nil => exact Nat.le_refl 0
    | cons part more ih =>
        rw [List.flatten_cons, List.flatMap_cons, List.length_append, List.length_append]
        exact Nat.add_le_add (longer part) ih
  induction parts with
  | nil => simp
  | cons part rest ih =>
      rw [List.flatMap_cons, List.flatten_cons, List.forall_mem_cons]
      constructor
      · intro same
        have lengths := congrArg List.length same
        rw [List.length_append, List.length_append] at lengths
        have one := longer part
        have others := grows rest
        obtain ⟨kept, later⟩ := List.append_inj same (by omega)
        exact ⟨kept, ih.mp later⟩
      · rintro ⟨kept, later⟩
        rw [kept, ih.mpr later]

theorem flatten_fragments {size : Nat} (positive : 0 < size) (list : List α) :
    (fragments size list).flatten = list := by
  fun_induction fragments size list with
  | case1 list stop =>
      rcases stop with rfl | zero
      · rfl
      · exact absurd zero (Nat.ne_of_gt positive)
  | case2 list stop ih => rw [List.flatten_cons, ih, List.take_append_drop]

end TokioProcessTools.Foundation
