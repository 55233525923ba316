import Mathlib.Algebra.Group.Nat.Defs

/-!
# Computations that can panic

A computation either returns a value or has none. It has none when it panics: a
subtraction of unsigned integers would be negative, a sum of them does not fit
the machine word, a range leaves its slice, a branch the program declares
unreachable is entered, an `expect` meets an absent value, an assertion fails,
or the program panics on purpose. It also has none when a loop repeats a round
that changes nothing.
-/

set_option autoImplicit false

namespace TokioProcessTools.Foundation

/-- Why a computation has no value. -/
inductive Panic where
  | subtractOverflow
  | enteredUnreachable (message : String)
  | expectFailed (message : String)
  | assertionFailed (message : String)
  | panicked (message : String)
  | loopsForever
  deriving DecidableEq, Repr

/-- A value, or the reason there is none. -/
abbrev Checked (α : Type) := Except Panic α

instance {α : Type} [DecidableEq α] : DecidableEq (Checked α)
  | .ok a, .ok b => decidable_of_iff (a = b) (by simp)
  | .error a, .error b => decidable_of_iff (a = b) (by simp)
  | .ok _, .error _ => .isFalse (by simp)
  | .error _, .ok _ => .isFalse (by simp)

/-- Subtraction of unsigned integers, with overflow checks on. -/
def checkedSub (left right : Nat) : Checked Nat :=
  if right ≤ left then .ok (left - right) else .error .subtractOverflow

@[simp] theorem checkedSub_of_le {left right : Nat} (fits : right ≤ left) :
    checkedSub left right = .ok (left - right) := if_pos fits

/-- `usize::MAX` on a 64-bit target. -/
def usizeMax : Nat := 2 ^ 64 - 1

/-- Addition of unsigned integers, with overflow checks on. -/
def checkedAdd (left right : Nat) : Checked Nat :=
  if left + right ≤ usizeMax then .ok (left + right)
  else .error (.panicked "attempt to add with overflow")

@[simp] theorem checkedAdd_of_le {left right : Nat} (fits : left + right ≤ usizeMax) :
    checkedAdd left right = .ok (left + right) := if_pos fits

/-- `&slice[..stop]`. -/
def sliceTo {α : Type} (slice : List α) (stop : Nat) : Checked (List α) :=
  if stop ≤ slice.length then .ok (slice.take stop)
  else .error (.panicked "range end index out of range for slice")

@[simp] theorem sliceTo_of_le {α : Type} {slice : List α} {stop : Nat}
    (inside : stop ≤ slice.length) : sliceTo slice stop = .ok (slice.take stop) := if_pos inside

/-- `&slice[start..]`. -/
def sliceFrom {α : Type} (slice : List α) (start : Nat) : Checked (List α) :=
  if start ≤ slice.length then .ok (slice.drop start)
  else .error (.panicked "range start index out of range for slice")

@[simp] theorem sliceFrom_of_le {α : Type} {slice : List α} {start : Nat}
    (inside : start ≤ slice.length) : sliceFrom slice start = .ok (slice.drop start) :=
  if_pos inside

@[simp] theorem checked_ok_bind {α β : Type} (value : α) (next : α → Checked β) :
    (Except.ok value : Checked α) >>= next = next value := rfl

end TokioProcessTools.Foundation
