import Mathlib.Logic.Basic

/-!
# Programs over a state and an environment

A program reads an environment, changes a state and ends: it returns a value,
its caller drops it at a point where it waits, or it panics. A program that was
dropped or has panicked does not go on, and leaves the state as it is then.

A program that does not look at a part of the state commutes with a change of
that part; sequences keep this (`Commutes.bind`).
-/

set_option autoImplicit false

namespace TokioProcessTools.Foundation

universe u

/-- How a program ends. -/
inductive Fate (α : Type u) where
  | returned (value : α)
  /-- The future was dropped at an await point. -/
  | dropped
  | panicked (message : String)
  deriving DecidableEq, Repr

/-- A program with an environment, a state and a result. -/
def Program (ε σ : Type u) (α : Type u) := ε → σ → Fate α × σ

namespace Program

variable {ε σ α β : Type u}

/-- Go on behind a part of a program that has returned. -/
def andThen (ended : Fate α × σ) (next : α → σ → Fate β × σ) : Fate β × σ :=
  match ended with
  | (.returned value, state) => next value state
  | (.dropped, state) => (.dropped, state)
  | (.panicked message, state) => (.panicked message, state)

instance : Monad (Program ε σ) where
  pure value := fun _ state => (.returned value, state)
  bind program next := fun environment state =>
    andThen (program environment state) fun value => next value environment

/-- The state. -/
def get : Program ε σ σ := fun _ state => (.returned state, state)

/-- Change the state. -/
def modify (change : σ → σ) : Program ε σ PUnit :=
  fun _ state => (.returned PUnit.unit, change state)

/-- End without a value. -/
def drop : Program ε σ α := fun _ state => (.dropped, state)

/-- A failed assertion. -/
def panic (message : String) : Program ε σ α := fun _ state => (.panicked message, state)

/-- Change the state when the program is dropped or panics, as destructors do. -/
def onInterrupt (program : Program ε σ α) (cleanup : σ → σ) : Program ε σ α :=
  fun environment state =>
    match program environment state with
    | (.returned value, later) => (.returned value, later)
    | (.dropped, later) => (.dropped, cleanup later)
    | (.panicked message, later) => (.panicked message, cleanup later)

section Run

variable (environment : ε) (state : σ)

@[simp] theorem pure_run (value : α) :
    (pure value : Program ε σ α) environment state = (.returned value, state) := rfl

@[simp] theorem bind_run (program : Program ε σ α) (next : α → Program ε σ β) :
    (program >>= next) environment state =
      andThen (program environment state) fun value => next value environment := rfl

@[simp] theorem get_run : (get : Program ε σ σ) environment state = (.returned state, state) := rfl

@[simp] theorem modify_run (change : σ → σ) :
    modify change environment state = (.returned PUnit.unit, change state) := rfl

@[simp] theorem andThen_returned (value : α) (next : α → σ → Fate β × σ) :
    andThen (.returned value, state) next = next value state := rfl

@[simp] theorem andThen_dropped (next : α → σ → Fate β × σ) :
    andThen (.dropped, state) next = (.dropped, state) := rfl

@[simp] theorem andThen_panicked (message : String) (next : α → σ → Fate β × σ) :
    andThen (.panicked message, state) next = (.panicked message, state) := rfl

theorem andThen_of_returned {ended : Fate α × σ} {value : α} (returned : ended.1 = .returned value)
    (next : α → σ → Fate β × σ) : andThen ended next = next value ended.2 := by
  obtain ⟨fate, later⟩ := ended
  cases returned
  rfl

/-- A program that returns is not interrupted. -/
theorem onInterrupt_of_returned {program : Program ε σ α} {value : α}
    (returned : (program environment state).1 = .returned value) (cleanup : σ → σ) :
    program.onInterrupt cleanup environment state = program environment state := by
  unfold onInterrupt
  cases ran : program environment state with
  | mk fate later =>
      rw [ran] at returned
      cases returned
      rfl

end Run

/-- Sequences associate. -/
theorem bind_assoc {γ : Type u} (program : Program ε σ α) (next : α → Program ε σ β)
    (last : β → Program ε σ γ) :
    (program >>= next) >>= last = program >>= fun value => next value >>= last := by
  funext environment state
  rw [bind_run, bind_run, bind_run]
  cases program environment state with
  | mk fate later => cases fate <;> rfl

/-- A sequence that returns has gone through both parts. -/
theorem exists_of_bind {program : Program ε σ α} {next : α → Program ε σ β} {environment : ε}
    {state after : σ} {result : β}
    (ended : (program >>= next) environment state = (.returned result, after)) :
    ∃ value middle, program environment state = (.returned value, middle) ∧
      next value environment middle = (.returned result, after) := by
  rw [bind_run] at ended
  cases ran : program environment state with
  | mk fate middle =>
      rw [ran] at ended
      cases fate with
      | returned value => exact ⟨value, middle, rfl, ended⟩
      | dropped => cases ended
      | panicked message => cases ended

/-! ## What a program does not look at -/

/-- From a changed state the program ends as it does from the state itself, and the change is still
there behind it. -/
def Commutes (program : Program ε σ α) (environment : ε) (change : σ → σ) : Prop :=
  ∀ state, program environment (change state) =
    ((program environment state).1, change (program environment state).2)

variable {environment : ε} {change : σ → σ}

theorem Commutes.pure (value : α) :
    Commutes (Pure.pure value : Program ε σ α) environment change := fun _ => rfl

theorem Commutes.bind {program : Program ε σ α} {next : α → Program ε σ β}
    (before : program.Commutes environment change)
    (behind : ∀ value, (next value).Commutes environment change) :
    (program >>= next).Commutes environment change := by
  intro state
  rw [bind_run, bind_run, before state]
  cases program environment state with
  | mk fate later =>
      cases fate with
      | returned value => exact behind value later
      | dropped => rfl
      | panicked message => rfl

/-- What goes on with the state commutes if the change takes nothing from it that is used. -/
theorem Commutes.get_bind {next : σ → Program ε σ β} (same : ∀ state, next (change state) = next state)
    (behind : ∀ state, (next state).Commutes environment change) :
    (get >>= next).Commutes environment change := by
  intro state
  rw [bind_run, bind_run, get_run, get_run, andThen_returned, andThen_returned, same state]
  exact behind state state

/-! ## What a program keeps -/

/-- However it ends, the program leaves a state with the property it found. -/
def Keeps (program : Program ε σ α) (environment : ε) (property : σ → Prop) : Prop :=
  ∀ state, property state → property (program environment state).2

namespace Keeps

variable {property : σ → Prop}

theorem pure (value : α) : Keeps (Pure.pure value : Program ε σ α) environment property :=
  fun _ holds => holds

theorem panic (message : String) : Keeps (Program.panic message : Program ε σ α) environment property :=
  fun _ holds => holds

theorem drop : Keeps (Program.drop : Program ε σ α) environment property := fun _ holds => holds

theorem get : Keeps (Program.get : Program ε σ σ) environment property := fun _ holds => holds

theorem modify {change : σ → σ} (kept : ∀ state, property state → property (change state)) :
    Keeps (Program.modify change : Program ε σ PUnit) environment property := kept

theorem bind {program : Program ε σ α} {next : α → Program ε σ β}
    (before : program.Keeps environment property)
    (behind : ∀ value, (next value).Keeps environment property) :
    (program >>= next).Keeps environment property := by
  intro state holds
  have later := before state holds
  rw [bind_run]
  cases ran : program environment state with
  | mk fate middle =>
      rw [ran] at later
      cases fate with
      | returned value => exact behind value middle later
      | dropped => exact later
      | panicked message => exact later

theorem onInterrupt {program : Program ε σ α} {cleanup : σ → σ}
    (kept : program.Keeps environment property)
    (cleaned : ∀ state, property state → property (cleanup state)) :
    (program.onInterrupt cleanup).Keeps environment property := by
  intro state holds
  have later := kept state holds
  unfold Program.onInterrupt
  cases ran : program environment state with
  | mk fate middle =>
      rw [ran] at later
      cases fate with
      | returned value => exact later
      | dropped => exact cleaned middle later
      | panicked message => exact cleaned middle later

end Keeps

end Program

end TokioProcessTools.Foundation
