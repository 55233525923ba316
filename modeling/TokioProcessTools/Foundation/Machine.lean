import Mathlib.Logic.Function.Basic

/-!
# Machines with an executable step function

A machine has one initial state and a partial step function. An action carries
every choice its step makes: which party moves, what the environment answers,
in which order an unordered collection is visited. A step that cannot be taken
in a state, because it waits or because it is not the party's turn, has no
result.

A state is reachable under a guard when some run leads to it in which every
action met the guard in the state it was taken from. The guard that always
holds gives the reachable states of the machine. A guard that forbids some
actions, or forbids them in some states only, gives the states of the runs
that avoid them.

An invariant is proved once for one step (`ReachableBy.invariant`). It may use
what is already known of the reachable states (`ReachableBy.invariant_using`).

What a party is promised often counts from a step of a run: `Passes` is a run to a
state together with one step in the middle of it.
-/

set_option autoImplicit false

namespace TokioProcessTools.Foundation

universe u v

/-- One initial state and a partial step function. -/
structure Machine (σ : Type u) (α : Type v) where
  init : σ
  step : σ → α → Option σ

namespace Machine

variable {σ : Type u} {α : Type v}

/-- Execute a list of actions; the result is missing when some action has no step. -/
def exec (machine : Machine σ α) : σ → List α → Option σ
  | state, [] => some state
  | state, action :: rest => (machine.step state action).bind fun next => machine.exec next rest

/-- The states some run leads to whose actions all meet the guard. -/
inductive ReachableBy (machine : Machine σ α) (guard : σ → α → Prop) : σ → Prop where
  | init : ReachableBy machine guard machine.init
  | step {state next : σ} {action : α} : ReachableBy machine guard state →
      guard state action → machine.step state action = some next →
        ReachableBy machine guard next

/-- The states of the unrestricted runs. -/
abbrev Reachable (machine : Machine σ α) : σ → Prop :=
  machine.ReachableBy fun _ _ => True

variable {machine : Machine σ α} {guard : σ → α → Prop}

/-- A property of the initial state that every guarded step preserves holds in
every reachable state. -/
theorem ReachableBy.invariant {property : σ → Prop} (initially : property machine.init)
    (preserved : ∀ {state next action}, property state → guard state action →
      machine.step state action = some next → property next)
    {state : σ} (reachable : machine.ReachableBy guard state) : property state := by
  induction reachable with
  | init => exact initially
  | step _ allowed taken ih => exact preserved ih allowed taken

/-- An invariant whose step uses a property already known of every reachable state. -/
theorem ReachableBy.invariant_using {known property : σ → Prop}
    (always : ∀ {state}, machine.ReachableBy guard state → known state)
    (initially : property machine.init)
    (preserved : ∀ {state next action}, known state → property state → guard state action →
      machine.step state action = some next → property next)
    {state : σ} (reachable : machine.ReachableBy guard state) : property state := by
  induction reachable with
  | init => exact initially
  | step earlier allowed taken ih => exact preserved (always earlier) ih allowed taken

/-- Executing actions stays inside the reachable states. -/
theorem reachable_exec {state final : σ} (reachable : machine.Reachable state) {actions : List α}
    (executed : machine.exec state actions = some final) : machine.Reachable final := by
  induction actions generalizing state with
  | nil =>
      rw [Machine.exec, Option.some.injEq] at executed
      exact executed ▸ reachable
  | cons action rest ih =>
      obtain ⟨next, taken, remaining⟩ := Option.bind_eq_some_iff.mp executed
      exact ih (.step reachable trivial taken) remaining

/-- A weaker guard reaches more states. -/
theorem ReachableBy.mono {weaker : σ → α → Prop}
    (implied : ∀ state action, guard state action → weaker state action) {state : σ}
    (reachable : machine.ReachableBy guard state) : machine.ReachableBy weaker state := by
  induction reachable with
  | init => exact .init
  | step _ allowed taken ih => exact .step ih (implied _ _ allowed) taken

/-- Execute a list of actions each of which must meet the guard. -/
def execBy (machine : Machine σ α) (guard : σ → α → Prop) [∀ state, DecidablePred (guard state)] :
    σ → List α → Option σ
  | state, [] => some state
  | state, action :: rest =>
      if guard state action then
        (machine.step state action).bind fun next => machine.execBy guard next rest
      else none

/-- What every guarded step preserves, a run preserves. -/
theorem execBy_preserves [∀ state, DecidablePred (guard state)] {property : σ → Prop}
    (preserved : ∀ {state next action}, property state → guard state action →
      machine.step state action = some next → property next)
    {state final : σ} (holds : property state) {actions : List α}
    (executed : machine.execBy guard state actions = some final) : property final := by
  induction actions generalizing state with
  | nil =>
      rw [Machine.execBy, Option.some.injEq] at executed
      exact executed ▸ holds
  | cons action rest ih =>
      rw [Machine.execBy, Option.ite_none_right_eq_some, Option.bind_eq_some_iff] at executed
      obtain ⟨allowed, next, taken, remaining⟩ := executed
      exact ih (preserved holds allowed taken) remaining

/-- A guard that always holds guards nothing. -/
theorem execBy_true (state : σ) (actions : List α) :
    machine.execBy (fun _ _ => True) state actions = machine.exec state actions := by
  induction actions generalizing state with
  | nil => rfl
  | cons action rest ih =>
      rw [execBy, exec, if_pos trivial]
      exact congrArg (machine.step state action).bind (funext ih)

/-- What every step preserves, a run preserves. -/
theorem exec_preserves {property : σ → Prop}
    (preserved : ∀ {state next action}, property state → machine.step state action = some next →
      property next)
    {state final : σ} (holds : property state) {actions : List α}
    (executed : machine.exec state actions = some final) : property final := by
  rw [← execBy_true] at executed
  exact execBy_preserves (fun holds _ taken => preserved holds taken) holds executed

/-- Executing guarded actions stays inside the reachable states. -/
theorem ReachableBy.execBy [∀ state, DecidablePred (guard state)] {state final : σ}
    (reachable : machine.ReachableBy guard state) {actions : List α}
    (executed : machine.execBy guard state actions = some final) :
    machine.ReachableBy guard final :=
  execBy_preserves ReachableBy.step reachable executed

/-- A run and one more step. -/
theorem execBy_concat [∀ state, DecidablePred (guard state)] {state middle next : σ}
    {actions : List α} {action : α} (executed : machine.execBy guard state actions = some middle)
    (allowed : guard middle action) (taken : machine.step middle action = some next) :
    machine.execBy guard state (actions ++ [action]) = some next := by
  induction actions generalizing state with
  | nil =>
      rw [Machine.execBy, Option.some.injEq] at executed
      subst executed
      rw [List.nil_append, Machine.execBy, if_pos allowed, taken]
      rfl
  | cons first rest ih =>
      rw [Machine.execBy, Option.ite_none_right_eq_some, Option.bind_eq_some_iff] at executed
      obtain ⟨before, later, stepped, remaining⟩ := executed
      rw [List.cons_append, Machine.execBy, if_pos before, stepped]
      exact ih remaining

/-- A guarded run to a state that takes the action in the state `before`, with `after` behind it. -/
structure Passes (machine : Machine σ α) (guard : σ → α → Prop)
    [∀ state, DecidablePred (guard state)] (before : σ) (action : α) (after state : σ) : Prop where
  reachable : machine.ReachableBy guard before
  allowed : guard before action
  taken : machine.step before action = some after
  continued : ∃ actions, machine.execBy guard after actions = some state

theorem Passes.start [∀ state, DecidablePred (guard state)] {before after : σ} {action : α}
    (reachable : machine.ReachableBy guard before) (allowed : guard before action)
    (taken : machine.step before action = some after) :
    machine.Passes guard before action after after :=
  ⟨reachable, allowed, taken, [], rfl⟩

theorem Passes.step [∀ state, DecidablePred (guard state)] {before after state next : σ}
    {action other : α} (passes : machine.Passes guard before action after state)
    (allowed : guard state other) (taken : machine.step state other = some next) :
    machine.Passes guard before action after next := by
  obtain ⟨actions, executed⟩ := passes.continued
  exact ⟨passes.reachable, passes.allowed, passes.taken, _, execBy_concat executed allowed taken⟩

/-- An amount to which each step adds what its action brings. -/
theorem ReachableBy.accumulates [∀ state, DecidablePred (guard state)] {β : Type}
    (amount : σ → List β) (gain : α → List β)
    (added : ∀ {state next action}, machine.ReachableBy guard state → guard state action →
      machine.step state action = some next → amount next = amount state ++ gain action)
    {state final : σ} (reachable : machine.ReachableBy guard state) {actions : List α}
    (executed : machine.execBy guard state actions = some final) :
    amount final = amount state ++ actions.flatMap gain := by
  induction actions generalizing state with
  | nil =>
      rw [Machine.execBy, Option.some.injEq] at executed
      rw [executed, List.flatMap_nil, List.append_nil]
  | cons action rest ih =>
      rw [Machine.execBy, Option.ite_none_right_eq_some, Option.bind_eq_some_iff] at executed
      obtain ⟨allowed, next, taken, remaining⟩ := executed
      rw [ih (.step reachable allowed taken) remaining, added reachable allowed taken,
        List.flatMap_cons, List.append_assoc]

/-- A run that can be executed and ends in a state with a decidable property. -/
theorem exists_reachableBy (machine : Machine σ α) (guard : σ → α → Prop)
    [∀ state, DecidablePred (guard state)] (actions : List α) (property : σ → Prop)
    [DecidablePred property]
    (executed : (machine.execBy guard machine.init actions).any (fun state => property state)) :
    ∃ state, machine.ReachableBy guard state ∧ property state := by
  cases ran : machine.execBy guard machine.init actions with
  | none =>
      rw [ran] at executed
      cases executed
  | some state =>
      rw [ran] at executed
      exact ⟨state, ReachableBy.init.execBy ran, of_decide_eq_true executed⟩

/-- A run with a step in the middle of it, and a decidable property of the state before that step
and of the last state. -/
theorem exists_run (machine : Machine σ α) (guard : σ → α → Prop)
    [∀ state, DecidablePred (guard state)] (earlier : List α) (action : α) (later : List α)
    (property : σ → σ → Prop) [∀ before, DecidablePred (property before)]
    (executed : (machine.execBy guard machine.init earlier).any fun before =>
      ((machine.step before action).bind fun after => machine.execBy guard after later).any
        fun state => property before state) :
    ∃ before after state, machine.ReachableBy guard before ∧
      machine.step before action = some after ∧ machine.execBy guard after later = some state ∧
        property before state := by
  obtain ⟨before, reachable, continued⟩ := machine.exists_reachableBy guard earlier
    (fun before => (((machine.step before action).bind fun after =>
      machine.execBy guard after later).any fun state => property before state) = true)
    (by simpa using executed)
  rw [Option.any_eq_true] at continued
  obtain ⟨state, ran, holds⟩ := continued
  obtain ⟨after, taken, rest⟩ := Option.bind_eq_some_iff.mp ran
  exact ⟨before, after, state, reachable, taken, rest, of_decide_eq_true holds⟩

end Machine

end TokioProcessTools.Foundation
