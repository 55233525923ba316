import Mathlib.Data.List.Basic

/-!
# Properties of the entries of a list

A machine with many parties keeps them in a list and changes one of them, or adds
one, in a step. A property of every entry at its position then has to be shown
for the changed or the new entry, and again for the others in the new state.
-/

set_option autoImplicit false

namespace TokioProcessTools.Foundation

universe u

variable {α : Type u} {list : List α} {property : Nat → α → Prop}

/-- Every entry has the property at its position. -/
def EachAt (list : List α) (property : Nat → α → Prop) : Prop :=
  ∀ position entry, list[position]? = some entry → property position entry

theorem EachAt.nil : EachAt [] property := by
  intro position entry found
  cases found

/-- An entry of a list with one entry changed. -/
theorem getElem?_set_cases {position changed : Nat} {entry other : α}
    (found : (list.set changed entry)[position]? = some other) :
    (position = changed ∧ other = entry) ∨ (position ≠ changed ∧ list[position]? = some other) := by
  by_cases same : changed = position
  · subst same
    rw [List.getElem?_set_self', Option.map_eq_map, Option.map_eq_some_iff] at found
    obtain ⟨_, _, rfl⟩ := found
    exact .inl ⟨rfl, rfl⟩
  · rw [List.getElem?_set_ne same] at found
    exact .inr ⟨Ne.symm same, found⟩

/-- One entry is changed. -/
theorem EachAt.set {changed : Nat} {entry : α} (here : property changed entry)
    (others : EachAt list fun position other => position ≠ changed → property position other) :
    EachAt (list.set changed entry) property := by
  intro position other found
  rcases getElem?_set_cases found with ⟨rfl, rfl⟩ | ⟨different, found⟩
  · exact here
  · exact others position other found different

/-- One entry is followed while one is changed, which may be itself. -/
theorem exists_getElem?_set {followed : α → Prop} {position changed : Nat} {entry current later : α}
    (found : list[position]? = some entry) (there : list[changed]? = some current)
    (same : position = changed → entry = current → followed later)
    (others : position ≠ changed → followed entry) :
    ∃ next, (list.set changed later)[position]? = some next ∧ followed next := by
  by_cases equal : position = changed
  · subst equal
    refine ⟨later, List.getElem?_set_self (List.getElem?_eq_some_iff.mp found).1, ?_⟩
    exact same rfl (Option.some.inj (found.symm.trans there))
  · exact ⟨entry, (List.getElem?_set_ne (Ne.symm equal)).trans found, others equal⟩

/-- An entry of a list with one entry added at the end. -/
theorem getElem?_concat_cases {position : Nat} {entry other : α}
    (found : (list ++ [entry])[position]? = some other) :
    list[position]? = some other ∨ (position = list.length ∧ other = entry) := by
  rw [List.getElem?_append] at found
  split at found
  · exact .inl found
  · rename_i outside
    obtain ⟨inside, same⟩ := List.getElem?_eq_some_iff.mp found
    have last : position = list.length := by
      rw [List.length_singleton] at inside
      omega
    subst last
    simp only [Nat.sub_self, List.getElem_cons_zero] at same
    exact .inr ⟨rfl, same.symm⟩

/-- An entry is added at the end. -/
theorem EachAt.concat {entry : α} (here : property list.length entry)
    (others : EachAt list property) : EachAt (list ++ [entry]) property := by
  intro position other found
  rcases getElem?_concat_cases found with found | ⟨rfl, rfl⟩
  · exact others position other found
  · exact here

end TokioProcessTools.Foundation
