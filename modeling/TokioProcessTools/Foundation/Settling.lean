import TokioProcessTools.Foundation.Machine

/-!
# Machines that settle

Some actions of a machine are its own work; the others come from outside. A state
is settled when none of its own actions is possible there.

When every step of its own uses up some of a measure of work, a run of such steps
is no longer than the work at its start, and whatever was done already, it can be
continued until the machine is settled. So nothing the machine does on its own goes
on forever, and what holds in every settled state is what the machine arrives at,
in whatever order its parties move.
-/

set_option autoImplicit false

namespace TokioProcessTools.Foundation

universe u v

namespace Machine

variable {σ : Type u} {α : Type v} {machine : Machine σ α} {own : σ → α → Prop}

/-- No action of its own is possible. -/
def Settled (machine : Machine σ α) (own : σ → α → Prop) (state : σ) : Prop :=
  ∀ action, own state action → machine.step state action = none

section Work

variable [∀ state, DecidablePred (own state)] {known : σ → Prop} {work : σ → Nat}
  (kept : ∀ {state next action}, known state → own state action →
    machine.step state action = some next → known next)
  (used : ∀ {state next action}, known state → own state action →
    machine.step state action = some next → work next < work state)

include kept used

/-- A run uses up work with every step. -/
theorem length_add_work_le {state final : σ} (holds : known state) {actions : List α}
    (executed : machine.execBy own state actions = some final) :
    actions.length + work final ≤ work state := by
  induction actions generalizing state with
  | nil =>
      rw [Machine.execBy, Option.some.injEq] at executed
      subst executed
      exact Nat.le_of_eq (Nat.zero_add _)
  | cons action rest ih =>
      rw [Machine.execBy, Option.ite_none_right_eq_some, Option.bind_eq_some_iff] at executed
      obtain ⟨allowed, next, taken, remaining⟩ := executed
      have later := ih (kept holds allowed taken) remaining
      have less := used holds allowed taken
      rw [List.length_cons]
      omega

/-- Every state can settle. -/
theorem exists_settled {state : σ} (holds : known state) :
    ∃ actions final, machine.execBy own state actions = some final ∧ known final ∧
      machine.Settled own final := by
  induction measured : work state using Nat.strongRecOn generalizing state with
  | ind amount ih =>
      by_cases settled : machine.Settled own state
      · exact ⟨[], state, rfl, holds, settled⟩
      · simp only [Settled, not_forall] at settled
        obtain ⟨action, allowed, possible⟩ := settled
        obtain ⟨next, taken⟩ := Option.ne_none_iff_exists'.mp possible
        obtain ⟨actions, final, executed, later⟩ :=
          ih (work next) (measured ▸ used holds allowed taken) (kept holds allowed taken) rfl
        refine ⟨action :: actions, final, ?_, later⟩
        rw [Machine.execBy, if_pos allowed, taken]
        exact executed

end Work

end Machine

end TokioProcessTools.Foundation
