import Mathlib.Data.List.Infix

/-!
# The longest suffix and the longest prefix with a property

A buffer with a capacity keeps the longest suffix or the longest prefix of what
it was given that has a property, such as a bounded weight. For a property that
survives the removal of elements at both ends, the longest suffix is maintained
incrementally: elements are dropped from the front of the old one until the new
element fits behind it (`longestSuffix_snoc`). The longest prefix is the one
behind which the next element does not fit (`exists_longestPrefix_append`).

A greedy selection keeps every element that fits behind what it has kept so
far. It adds nothing exactly if nothing fits (`greedy_eq_self_iff`).
-/

set_option autoImplicit false

namespace TokioProcessTools.Foundation

universe u

variable {α : Type u}

/-- The longest suffix with the property. -/
def longestSuffix (property : List α → Prop) [DecidablePred property] (list : List α) : List α :=
  (list.tails.find? property).getD []

/-- The longest prefix with the property. -/
def longestPrefix (property : List α → Prop) [DecidablePred property] (list : List α) : List α :=
  (list.inits.reverse.find? property).getD []

section Suffix

variable {property : List α → Prop} [DecidablePred property]

@[simp] theorem longestSuffix_nil : longestSuffix property [] = [] := by
  by_cases holds : property [] <;> simp [longestSuffix, holds]

/-- A list with the property is kept whole. -/
theorem longestSuffix_of_pos {list : List α} (holds : property list) :
    longestSuffix property list = list := by
  cases list with
  | nil => simp
  | cons first rest => simp [longestSuffix, holds]

/-- The front element is dropped from a list without the property. -/
theorem longestSuffix_cons_of_neg {first : α} {rest : List α} (fails : ¬ property (first :: rest)) :
    longestSuffix property (first :: rest) = longestSuffix property rest := by
  simp [longestSuffix, fails]

theorem longestSuffix_suffix (list : List α) : longestSuffix property list <:+ list := by
  induction list with
  | nil => simp
  | cons first rest ih =>
      by_cases holds : property (first :: rest)
      · rw [longestSuffix_of_pos holds]
      · rw [longestSuffix_cons_of_neg holds]
        exact ih.trans (List.suffix_cons first rest)

/-- Something was dropped exactly if the suffix is shorter. -/
theorem longestSuffix_ne_iff (list : List α) :
    longestSuffix property list ≠ list ↔ (longestSuffix property list).length < list.length := by
  have isSuffix := @longestSuffix_suffix _ property _ list
  constructor
  · intro differs
    exact Nat.lt_of_le_of_ne isSuffix.length_le fun same => differs (isSuffix.eq_of_length same)
  · intro fewer same
    rw [same] at fewer
    exact Nat.lt_irrefl _ fewer

theorem longestSuffix_holds (empty : property []) (list : List α) :
    property (longestSuffix property list) := by
  induction list with
  | nil => simpa using empty
  | cons first rest ih =>
      by_cases holds : property (first :: rest)
      · rwa [longestSuffix_of_pos holds]
      · rwa [longestSuffix_cons_of_neg holds]

/-- Only the suffixes of the list matter. -/
theorem longestSuffix_congr {other : List α → Prop} [DecidablePred other] {list : List α}
    (same : ∀ suffix, suffix <:+ list → (property suffix ↔ other suffix)) :
    longestSuffix property list = longestSuffix other list := by
  induction list with
  | nil => simp
  | cons first rest ih =>
      have here := same (first :: rest) List.suffix_rfl
      by_cases holds : property (first :: rest)
      · rw [longestSuffix_of_pos holds, longestSuffix_of_pos (here.mp holds)]
      · rw [longestSuffix_cons_of_neg holds,
          longestSuffix_cons_of_neg fun other => holds (here.mpr other)]
        exact ih fun suffix isSuffix => same suffix (isSuffix.trans (List.suffix_cons first rest))

/-- **Incremental eviction.** -/
theorem longestSuffix_snoc (front : ∀ first rest, property (first :: rest) → property rest)
    (back : ∀ init last, property (init ++ [last]) → property init)
    (list : List α) {last : α} (alone : property [last]) :
    longestSuffix property (list ++ [last]) =
      longestSuffix (fun suffix => property (suffix ++ [last])) (longestSuffix property list) ++
        [last] := by
  induction list with
  | nil => simpa using longestSuffix_of_pos alone
  | cons first rest ih =>
      have shorter : ∀ {suffix : List α}, property (suffix ++ [last]) →
          longestSuffix (fun suffix => property (suffix ++ [last])) suffix = suffix :=
        fun holds => longestSuffix_of_pos holds
      by_cases whole : property (first :: (rest ++ [last]))
      · rw [List.cons_append, longestSuffix_of_pos whole, longestSuffix_of_pos (back _ _ whole),
          shorter whole, List.cons_append]
      · have dropped : longestSuffix (fun suffix => property (suffix ++ [last])) (first :: rest) =
            longestSuffix (fun suffix => property (suffix ++ [last])) rest :=
          longestSuffix_cons_of_neg whole
        rw [List.cons_append, longestSuffix_cons_of_neg whole, ih]
        by_cases holds : property (first :: rest)
        · rw [longestSuffix_of_pos holds, longestSuffix_of_pos (front _ _ holds), dropped]
        · rw [longestSuffix_cons_of_neg holds]

end Suffix

section Prefix

variable {property : List α → Prop} [DecidablePred property]

theorem longestPrefix_concat (init : List α) (last : α) :
    longestPrefix property (init ++ [last]) =
      if property (init ++ [last]) then init ++ [last] else longestPrefix property init := by
  have prefixes : (init ++ [last]).inits.reverse = (init ++ [last]) :: init.inits.reverse := by
    simp [List.inits_append]
  rw [longestPrefix, prefixes]
  by_cases holds : property (init ++ [last])
  · simp [holds]
  · simp [holds, longestPrefix]

/-- **The longest prefix is where the next element does not fit.** -/
theorem exists_longestPrefix_append (empty : property []) (list : List α) :
    ∃ rest, list = longestPrefix property list ++ rest ∧
      property (longestPrefix property list) ∧
      ∀ next later, rest = next :: later → ¬ property (longestPrefix property list ++ [next]) := by
  induction list using List.reverseRecOn with
  | nil => exact ⟨[], by simp [longestPrefix, empty], by simp [longestPrefix, empty], by simp⟩
  | append_singleton init last ih =>
      obtain ⟨rest, split, holds, stuck⟩ := ih
      rw [longestPrefix_concat]
      split_ifs with whole
      · exact ⟨[], by simp, whole, by simp⟩
      · refine ⟨rest ++ [last], ?_, holds, ?_⟩
        · rw [← List.append_assoc, ← split]
        · intro next later here
          cases rest with
          | nil =>
              rw [List.append_nil] at split
              cases here
              exact split ▸ whole
          | cons first others =>
              cases here
              exact stuck next others rfl

end Prefix

/-! ## Greedy selection -/

section Greedy

variable (property : List α → Prop) [DecidablePred property]

/-- Keep every element that fits behind what is kept already, and skip the others. -/
def greedy (kept list : List α) : List α :=
  list.foldl (fun kept next => if property (kept ++ [next]) then kept ++ [next] else kept) kept

@[simp] theorem greedy_nil (kept : List α) : greedy property kept [] = kept := rfl

theorem greedy_append (kept first second : List α) :
    greedy property kept (first ++ second) = greedy property (greedy property kept first) second :=
  List.foldl_append

variable {property} {kept : List α} {next : α}

theorem greedy_cons_of_pos (holds : property (kept ++ [next])) (rest : List α) :
    greedy property kept (next :: rest) = greedy property (kept ++ [next]) rest := by
  rw [greedy, List.foldl_cons, if_pos holds, greedy]

theorem greedy_cons_of_neg (fails : ¬ property (kept ++ [next])) (rest : List α) :
    greedy property kept (next :: rest) = greedy property kept rest := by
  rw [greedy, List.foldl_cons, if_neg fails, greedy]

theorem length_le_greedy (kept list : List α) : kept.length ≤ (greedy property kept list).length := by
  induction list generalizing kept with
  | nil => simp
  | cons next rest ih =>
      by_cases holds : property (kept ++ [next])
      · rw [greedy_cons_of_pos holds]
        have := ih (kept ++ [next])
        simp only [List.length_append, List.length_singleton] at this
        omega
      · rw [greedy_cons_of_neg holds]
        exact ih kept

/-- Nothing is added exactly if nothing fits. -/
theorem greedy_eq_self_iff (kept list : List α) :
    greedy property kept list = kept ↔ ∀ next ∈ list, ¬ property (kept ++ [next]) := by
  induction list with
  | nil => simp
  | cons next rest ih =>
      rw [List.forall_mem_cons]
      by_cases holds : property (kept ++ [next])
      · rw [greedy_cons_of_pos holds]
        refine ⟨fun same => ?_, fun others => absurd holds others.1⟩
        have longer := @length_le_greedy _ property _ (kept ++ [next]) rest
        rw [same, List.length_append, List.length_singleton] at longer
        omega
      · rw [greedy_cons_of_neg holds, ih]
        exact ⟨fun others => ⟨holds, others⟩, And.right⟩

/-- A list that fits as a whole is kept as a whole. -/
theorem greedy_of_pos (back : ∀ init last, property (init ++ [last]) → property init)
    {list : List α} (holds : property (kept ++ list)) : greedy property kept list = kept ++ list := by
  induction list using List.reverseRecOn with
  | nil => simp
  | append_singleton init last ih =>
      rw [← List.append_assoc] at holds
      rw [greedy_append, ih (back _ _ holds), greedy_cons_of_pos holds, greedy_nil,
        List.append_assoc]

end Greedy

end TokioProcessTools.Foundation
