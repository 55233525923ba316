import Mathlib.Data.List.Basic

/-!
# Items that account for a stretch of positions

A stream of positions is reported by a list of items. Each item accounts for a
stretch, and the next one starts where it ends: the items tile the stretch from
the first position to the last. An item may deliver what stands at its positions
or only announce that it is missing; which items may account for which stretch
is a parameter.

A tiling may be cut between any two items, and the end of a tiling may be
replaced by other items that account for the same stretch. So a loss that is
announced stays announced, whatever is taken from the front and cleared at the
end.
-/

set_option autoImplicit false

namespace TokioProcessTools.Foundation

universe u

variable {ε : Type u} {accounts : ε → Nat → Nat → Prop} {first middle last : Nat}
  {front back items : List ε} {item : ε}

/-- The items account for the positions from the first to the last, one after the other. -/
inductive Tiles (accounts : ε → Nat → Nat → Prop) : Nat → List ε → Nat → Prop where
  | nil {first : Nat} : Tiles accounts first [] first
  | cons {first middle last : Nat} {item : ε} {items : List ε} : accounts item first middle →
      Tiles accounts middle items last → Tiles accounts first (item :: items) last

namespace Tiles

theorem eq_of_nil (tiles : Tiles accounts first [] last) : first = last := by
  cases tiles
  rfl

theorem append (before : Tiles accounts first front middle)
    (after : Tiles accounts middle back last) : Tiles accounts first (front ++ back) last := by
  induction before with
  | nil => exact after
  | cons here _ ih => exact .cons here (ih after)

theorem singleton (here : accounts item first last) : Tiles accounts first [item] last :=
  .cons here .nil

theorem concat (before : Tiles accounts first items middle) (here : accounts item middle last) :
    Tiles accounts first (items ++ [item]) last :=
  before.append (singleton here)

/-- A tiling can be cut anywhere. -/
theorem exists_cut (tiles : Tiles accounts first (front ++ back) last) :
    ∃ middle, Tiles accounts first front middle ∧ Tiles accounts middle back last := by
  induction front generalizing first with
  | nil => exact ⟨first, .nil, tiles⟩
  | cons item front ih =>
      obtain _ | ⟨here, rest⟩ := tiles
      obtain ⟨middle, before, after⟩ := ih rest
      exact ⟨middle, .cons here before, after⟩

/-- The stretch of one item of a tiling. -/
theorem exists_cut_at (tiles : Tiles accounts first (front ++ item :: back) last) :
    ∃ from_ to_, Tiles accounts first front from_ ∧ accounts item from_ to_ ∧
      Tiles accounts to_ back last := by
  obtain ⟨middle, before, after⟩ := tiles.exists_cut
  obtain _ | ⟨here, rest⟩ := after
  exact ⟨middle, _, before, here, rest⟩

theorem mono {weaker : ε → Nat → Nat → Prop} (tiles : Tiles accounts first items last)
    (implied : ∀ item ∈ items, ∀ first last, accounts item first last → weaker item first last) :
    Tiles weaker first items last := by
  induction tiles with
  | nil => exact .nil
  | cons here _ ih =>
      refine .cons (implied _ List.mem_cons_self _ _ here) (ih ?_)
      intro item member
      exact implied item (List.mem_cons_of_mem _ member)

/-- The items may be read as others that account for the same. -/
theorem map {δ : Type u} {other : δ → Nat → Nat → Prop} (tiles : Tiles accounts first items last)
    (read : ε → δ) (implied : ∀ {item first last}, accounts item first last →
      other (read item) first last) : Tiles other first (items.map read) last := by
  induction tiles with
  | nil => exact .nil
  | cons here _ ih => exact .cons (implied here) ih

section Ordered

variable (ordered : ∀ {item first last}, accounts item first last → first ≤ last)

include ordered

theorem le (tiles : Tiles accounts first items last) : first ≤ last := by
  induction tiles with
  | nil => exact Nat.le_refl _
  | cons here _ ih => exact Nat.le_trans (ordered here) ih

/-- An item of a tiling accounts for a part of the stretch. -/
theorem exists_of_mem (tiles : Tiles accounts first items last) (member : item ∈ items) :
    ∃ from_ to_, accounts item from_ to_ ∧ first ≤ from_ ∧ to_ ≤ last := by
  obtain ⟨front, back, rfl⟩ := List.append_of_mem member
  obtain ⟨from_, to_, before, here, after⟩ := tiles.exists_cut_at
  exact ⟨from_, to_, here, before.le ordered, after.le ordered⟩

/-- A relation between an item and the ones behind its stretch holds along a tiling. -/
theorem pairwise {relation : ε → ε → Prop}
    (behind : ∀ {item other first middle from_ last}, accounts item first middle →
      middle ≤ from_ → accounts other from_ last → relation item other)
    (tiles : Tiles accounts first items last) : items.Pairwise relation := by
  induction tiles with
  | nil => exact .nil
  | cons here rest ih =>
      refine .cons ?_ ih
      intro other member
      obtain ⟨from_, to_, there, after, _⟩ := rest.exists_of_mem ordered member
      exact behind here after there

end Ordered

/-- Items that each account for something account for something. -/
theorem lt (strict : ∀ {item first last}, accounts item first last → first < last)
    (tiles : Tiles accounts first items last) (some : items ≠ []) : first < last := by
  obtain _ | ⟨here, rest⟩ := tiles
  · exact absurd rfl some
  · exact Nat.lt_of_lt_of_le (strict here) (rest.le fun here => Nat.le_of_lt (strict here))

end Tiles

end TokioProcessTools.Foundation
