import Mathlib.Data.List.Infix

/-!
# The shortest suffix with a property

A window over the end of a list keeps the shortest suffix with a property, such
as a minimal weight, or the whole list when no suffix has it. For a property
that a longer suffix keeps, the window is computed from the front: an element is
dropped while the rest still has the property (`shortestSuffix_cons_of_pos`,
`shortestSuffix_cons_of_neg`). If the property also survives an append at the
end, the window can be maintained incrementally: it is enough to trim the old
window with the new element (`shortestSuffix_snoc`).
-/

set_option autoImplicit false

namespace TokioProcessTools.Foundation

universe u v

variable {α : Type u} {β : Type v}

/-- The shortest suffix with the property, or the whole list. -/
def shortestSuffix (property : List α → Prop) [DecidablePred property] (list : List α) : List α :=
  (list.tails.reverse.find? property).getD list

section Properties

variable {property : List α → Prop} [DecidablePred property]

@[simp] theorem shortestSuffix_nil : shortestSuffix property [] = [] := by
  by_cases holds : property [] <;> simp [shortestSuffix, holds]

theorem shortestSuffix_suffix (list : List α) : shortestSuffix property list <:+ list := by
  unfold shortestSuffix
  cases found : list.tails.reverse.find? property with
  | none => exact List.suffix_refl list
  | some suffix =>
      have member := List.mem_of_find?_eq_some found
      rw [List.mem_reverse, List.mem_tails] at member
      exact member

/-- The window has the property, or it is the whole list. -/
theorem shortestSuffix_holds_or_whole (list : List α) :
    property (shortestSuffix property list) ∨ shortestSuffix property list = list := by
  unfold shortestSuffix
  cases found : list.tails.reverse.find? property with
  | none => exact .inr rfl
  | some suffix => exact .inl (by simpa using List.find?_some found)

/-- The search through the suffixes of a list starts with the suffixes of its tail. -/
theorem shortestSuffix_cons (first : α) (rest : List α) :
    shortestSuffix property (first :: rest) =
      (rest.tails.reverse.find? property).getD (first :: rest) := by
  rw [shortestSuffix, List.tails_cons, List.reverse_cons, List.find?_append]
  cases rest.tails.reverse.find? property with
  | some suffix => rfl
  | none => by_cases holds : property (first :: rest) <;> simp [holds]

variable (longer : ∀ first rest, property rest → property (first :: rest))
include longer

omit [DecidablePred property] in
theorem property_of_suffix {list suffix : List α} (isSuffix : suffix <:+ list)
    (holds : property suffix) : property list := by
  obtain ⟨front, rfl⟩ := isSuffix
  induction front with
  | nil => exact holds
  | cons first front ih => exact longer first _ ih

omit longer in
/-- An element is dropped while the rest has the property. -/
theorem shortestSuffix_cons_of_pos (first : α) {rest : List α} (holds : property rest) :
    shortestSuffix property (first :: rest) = shortestSuffix property rest := by
  rw [shortestSuffix_cons, shortestSuffix]
  cases found : rest.tails.reverse.find? property with
  | some suffix => rfl
  | none =>
      have never := List.find?_eq_none.mp found rest (by simp)
      exact absurd holds (by simpa using never)

/-- Nothing more is dropped once the rest does not have the property. -/
theorem shortestSuffix_cons_of_neg (first : α) {rest : List α} (fails : ¬ property rest) :
    shortestSuffix property (first :: rest) = first :: rest := by
  rw [shortestSuffix_cons]
  cases found : rest.tails.reverse.find? property with
  | none => rfl
  | some suffix =>
      have member := List.mem_of_find?_eq_some found
      have holds := List.find?_some found
      rw [List.mem_reverse, List.mem_tails] at member
      exact absurd (property_of_suffix longer member (by simpa using holds)) fails

/-- A window for a property the empty list lacks is empty only over the empty list. -/
theorem shortestSuffix_ne_nil (fails : ¬ property []) {list : List α} (some : list ≠ []) :
    shortestSuffix property list ≠ [] := by
  induction list with
  | nil => exact absurd rfl some
  | cons first rest ih =>
      by_cases holds : property rest
      · rw [shortestSuffix_cons_of_pos first holds]
        exact ih fun empty => fails (empty ▸ holds)
      · rw [shortestSuffix_cons_of_neg longer first holds]
        exact List.cons_ne_nil _ _

/-- **Incremental trimming.** -/
theorem shortestSuffix_snoc (appended : ∀ suffix last, property suffix → property (suffix ++ [last]))
    (list : List α) (last : α) :
    shortestSuffix property (shortestSuffix property list ++ [last]) =
      shortestSuffix property (list ++ [last]) := by
  induction list with
  | nil => simp
  | cons first rest ih =>
      by_cases holds : property rest
      · rw [shortestSuffix_cons_of_pos first holds, ih, List.cons_append,
          shortestSuffix_cons_of_pos first (appended rest last holds)]
      · rw [shortestSuffix_cons_of_neg longer first holds]

end Properties

/-- The window of a mapped list. -/
theorem shortestSuffix_map (property : List β → Prop) [DecidablePred property] (image : α → β)
    (list : List α) :
    shortestSuffix property (list.map image) =
      (shortestSuffix (fun suffix => property (suffix.map image)) list).map image := by
  unfold shortestSuffix
  rw [List.map_tails, ← List.map_reverse, List.find?_map]
  change (((list.tails.reverse.find? fun suffix => property (suffix.map image)).map _).getD _) = _
  cases list.tails.reverse.find? fun suffix => property (suffix.map image) with
  | none => rfl
  | some suffix => rfl

/-- The shortest suffix of at least a given length. -/
theorem shortestSuffix_length (size : Nat) (list : List α) :
    shortestSuffix (fun suffix => size ≤ suffix.length) list = list.drop (list.length - size) := by
  have longer : ∀ (first : α) rest, size ≤ rest.length → size ≤ (first :: rest).length :=
    fun first rest fits => Nat.le_succ_of_le fits
  induction list with
  | nil => simp
  | cons first rest ih =>
      by_cases fits : size ≤ rest.length
      · rw [shortestSuffix_cons_of_pos first fits, ih, List.length_cons,
          Nat.succ_sub fits, List.drop_succ_cons]
      · rw [shortestSuffix_cons_of_neg longer first fits, List.length_cons,
          show rest.length + 1 - size = 0 by omega, List.drop_zero]

end TokioProcessTools.Foundation
