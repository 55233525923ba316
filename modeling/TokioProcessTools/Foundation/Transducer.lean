import Mathlib.Data.List.Basic

/-!
# Transducers over lists

A transducer reads its input one symbol at a time and emits a list of outputs
at each symbol. Its run over an appended input is the two runs one after the
other (`run_append`), so a run over blocks depends only on their concatenation.

Two runs of one transducer from different states synchronize when some symbols
reset every state. A state that emits nothing before such a symbol then emits,
on every input, a sublist of what any other state emits (`run_sublist_of_lagging`).
-/

set_option autoImplicit false

namespace TokioProcessTools.Foundation

universe u v w

namespace Transducer

variable {σ : Type u} {α : Type v} {β : Type w}

/-- Read a list of symbols: the final state and everything emitted on the way. -/
def run (step : σ → α → σ × List β) : σ → List α → σ × List β
  | state, [] => (state, [])
  | state, symbol :: rest =>
      let first := step state symbol
      let later := run step first.1 rest
      (later.1, first.2 ++ later.2)

variable {step : σ → α → σ × List β}

@[simp] theorem run_nil (state : σ) : run step state [] = (state, []) := rfl

theorem run_cons (state : σ) (symbol : α) (rest : List α) :
    run step state (symbol :: rest) =
      ((run step (step state symbol).1 rest).1,
        (step state symbol).2 ++ (run step (step state symbol).1 rest).2) := rfl

/-- **A run over an appended input is the two runs one after the other.** -/
theorem run_append (state : σ) (first second : List α) :
    run step state (first ++ second) =
      ((run step (run step state first).1 second).1,
        (run step state first).2 ++ (run step (run step state first).1 second).2) := by
  induction first generalizing state with
  | nil => simp
  | cons symbol rest ih => simp only [List.cons_append, run_cons, ih, List.append_assoc]

section Lagging

variable {lagging : σ} (resets : α → Prop)

/-- **A lagging state emits a sublist.** If `lagging` emits nothing and stays where it is on every
symbol that does not reset, and a resetting symbol takes every state where it takes `lagging`, then
a run from `lagging` emits a sublist of the run from any state over the same input, and the two runs
end in the same state unless the lagging one still lags. -/
theorem run_sublist_of_lagging
    (silent : ∀ symbol, (step lagging symbol).2 = [])
    (stays : ∀ symbol, ¬ resets symbol → (step lagging symbol).1 = lagging)
    (joins : ∀ symbol, resets symbol → ∀ state, (step lagging symbol).1 = (step state symbol).1) :
    ∀ (input : List α) (state : σ),
      (run step lagging input).2.Sublist (run step state input).2 ∧
        ((run step lagging input).1 = lagging ∨
          (run step lagging input).1 = (run step state input).1) := by
  intro input
  induction input with
  | nil => exact fun _ => ⟨List.Sublist.refl _, .inl rfl⟩
  | cons symbol rest ih =>
      intro state
      rw [run_cons, run_cons, silent symbol, List.nil_append]
      by_cases reset : resets symbol
      · rw [joins symbol reset state]
        exact ⟨List.sublist_append_right _ _, .inr rfl⟩
      · rw [stays symbol reset]
        obtain ⟨sublist, ends⟩ := ih (step state symbol).1
        exact ⟨sublist.trans (List.sublist_append_right _ _), ends⟩

end Lagging

end Transducer

end TokioProcessTools.Foundation
