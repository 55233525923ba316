import TokioProcessTools.ProcessHandle.Escalation
import Mathlib.Algebra.Order.BigOperators.Group.List
import Mathlib.Algebra.Order.Group.Nat

/-!
# The time a shutdown policy allows

`total_timeout` is documented as the upper bound on the time spent in graceful
phases before the forceful kill. A phase whose signal is sent waits for its own
timeout. A phase whose signal is refused waits for the fixed grace instead,
which may be longer. What all phases wait is therefore bounded by the total in
every environment exactly if no phase has a timeout shorter than the grace
(`totalTimeout_bounds_iff`).
-/

set_option autoImplicit false

namespace TokioProcessTools.ProcessHandle

open Foundation OutputStream OutputCollection

/-! ## The waits of a termination -/

/-- The forceful kill. -/
def Event.isKill : Event → Bool
  | .killed _ => true
  | .probed _ | .sent _ _ _ | .waited _ _ => false

/-- The bound of a wait. -/
def Event.waitNanos : Event → Nat
  | .waited (some bound) _ => bound.nanos
  | .waited none _ | .probed _ | .sent _ _ _ | .killed _ => 0

/-- The sum of the bounds of the waits before the forceful kill. -/
def gracefulNanos (events : List Event) : Nat :=
  ((events.takeWhile (!·.isKill)).map Event.waitNanos).sum

/-- The sum of the bounds of the phases that took place. -/
def phaseNanos : List TerminationStep → List Phase → Nat
  | step :: steps, phase :: phases =>
      (Phase.bound step.timeout phase.sendReply).nanos + phaseNanos steps phases
  | _, _ => 0

/-- Nothing, or what starts with the forceful kill. -/
def FromKill (events : List Event) : Prop := ∀ event ∈ events.head?, event.isKill = true

theorem gracefulNanos_cons {event : Event} (graceful : event.isKill = false) (rest : List Event) :
    gracefulNanos (event :: rest) = event.waitNanos + gracefulNanos rest := by
  simp [gracefulNanos, graceful]

theorem gracefulNanos_of_fromKill {events : List Event} (killed : FromKill events) :
    gracefulNanos events = 0 := by
  cases events with
  | nil => rfl
  | cons event rest => simp [gracefulNanos, killed event (by simp)]

theorem gracefulNanos_phaseEvents {later : List Event} (killed : FromKill later) (index : Nat)
    (steps : List TerminationStep) (phases : List Phase) :
    gracefulNanos (phaseEvents index steps phases ++ later) = phaseNanos steps phases := by
  induction steps generalizing index phases with
  | nil => exact gracefulNanos_of_fromKill killed
  | cons step rest ih =>
      cases phases with
      | nil => exact gracefulNanos_of_fromKill killed
      | cons phase others =>
          rw [phaseEvents, List.cons_append, List.cons_append, gracefulNanos_cons rfl,
            gracefulNanos_cons rfl, ih, phaseNanos]
          exact Nat.zero_add _

section Run

variable {Sink : Side → Type} (system : System Sink)

/-- The handle behind a graceful phase. -/
def afterPhase (handle : ProcessHandle) (index : Nat) (step : TerminationStep) (phase : Phase) :
    ProcessHandle :=
  (handle.note (.sent index step.signalLabel phase.sendReply)).waited
    (some (Phase.bound step.timeout phase.sendReply)) phase.waitReply

/-- The phases that take place: the loop goes on behind one without an exit, unless its wait was
dropped. -/
def takenPhases : ProcessHandle → Nat → List TerminationStep → List Phase
  | _, _, [] => []
  | handle, index, step :: rest =>
      let phase := gracefulPhase system handle index step
      match phase.waitReply with
      | .exited _ | .dropped => [phase]
      | .failed _ | .elapsed => phase :: takenPhases (afterPhase handle index step phase) (index + 1) rest

/-- **The calls of the loop over the steps**, in every environment. -/
theorem attemptSteps_events (platform : Platform) (handle : ProcessHandle) (index : Nat)
    (steps : List TerminationStep) (diagnostics : TerminationDiagnostics) :
    ∃ later, FromKill later ∧
      (attemptSteps platform index steps diagnostics system handle).2.events =
        handle.events ++ (phaseEvents index steps (takenPhases system handle index steps) ++ later) := by
  induction steps generalizing handle index diagnostics with
  | nil =>
      refine ⟨killEvents (some (forcefulPhase system handle)), ?_, ?_⟩
      · intro event first
        cases first
        rfl
      · rw [attemptSteps, attemptForcefulKill_run, waited_events, note_events, List.append_assoc]
        rfl
  | cons step rest ih =>
      have run := attemptGracefulPhase_run system handle index step diagnostics
      simp only at run
      rw [attemptSteps, Program.bind_run, run, takenPhases]
      generalize gracefulPhase system handle index step = phase
      have called : (afterPhase handle index step phase).events =
          handle.events ++ [.sent index step.signalLabel phase.sendReply,
            phase.waitEvent step.timeout] := by
        rw [afterPhase, waited_events, note_events, List.append_assoc]
        rfl
      have alone : (afterPhase handle index step phase).events =
          handle.events ++ (phaseEvents index (step :: rest) [phase] ++ []) := by
        rw [called, phaseEvents, phaseEvents_nil, List.append_nil]
      obtain ⟨later, killed, events⟩ := ih (afterPhase handle index step phase) (index + 1)
        ⟨diagnostics.attemptErrors ++ phase.failures handle.name step.signalLabel step.timeout⟩
      rw [called, List.append_assoc] at events
      obtain ⟨sendReply, reply⟩ := phase
      cases reply with
      | exited status => exact ⟨[], by simp [FromKill], alone⟩
      | dropped => exact ⟨[], by simp [FromKill], alone⟩
      | failed error => exact ⟨later, killed, events⟩
      | elapsed => exact ⟨later, killed, events⟩

theorem disarm_events (ended : Fate (Except TerminationError ExitStatus) × ProcessHandle) :
    (Program.andThen ended fun result =>
      (disarmAfterSuccessfulTermination result : Operation Sink _) system).2.events =
        ended.2.events := by
  obtain ⟨fate, later⟩ := ended
  cases fate with
  | returned result => cases result <;> rfl
  | dropped => rfl
  | panicked message => rfl

/-- The calls a termination adds to those made before. -/
def terminateEvents {platform : Platform} (shutdown : GracefulShutdown platform)
    (handle : ProcessHandle) : List Event :=
  (terminate shutdown system handle).2.events.drop handle.events.length

/-- What a termination calls: the probe, and unless it reports an exit, the phases that take place
and perhaps the forceful kill. -/
theorem terminateEvents_eq {platform : Platform} (shutdown : GracefulShutdown platform)
    (handle : ProcessHandle) :
    ∃ later, FromKill later ∧ terminateEvents system shutdown handle =
      .probed (system.probe handle.events) ::
        ((if (Event.probed (system.probe handle.events)).exit? = none then
          phaseEvents 0 shutdown.steps (takenPhases system
            (handle.note (.probed (system.probe handle.events))) 0 shutdown.steps)
          else []) ++ later) := by
  rw [terminateEvents, terminate, runTerminationLoop, if_neg shutdown.steps_ne_nil, Program.bind_run,
    disarm_events, terminationBlock, Program.bind_run, tryReapExitStatus, Program.andThen_returned]
  generalize system.probe handle.events = probe
  have phases : ∀ diagnostics, ∃ later, FromKill later ∧
      (attemptSteps platform 0 shutdown.steps diagnostics system
        (handle.note (.probed probe))).2.events.drop handle.events.length =
          .probed probe :: (phaseEvents 0 shutdown.steps
            (takenPhases system (handle.note (.probed probe)) 0 shutdown.steps) ++ later) := by
    intro diagnostics
    obtain ⟨later, killed, events⟩ := attemptSteps_events system platform
      (handle.note (.probed probe)) 0 shutdown.steps diagnostics
    refine ⟨later, killed, ?_⟩
    rw [events, note_events, List.append_assoc, List.drop_left, List.singleton_append]
  cases probe with
  | error error => exact phases _
  | ok found =>
      cases found with
      | none => exact phases _
      | some status =>
          refine ⟨[], by simp [FromKill], ?_⟩
          rw [if_neg (by simp [Event.exit?])]
          simp only [Program.pure_run, note_events]
          rw [List.drop_left]
          rfl

/-- What a termination waits in its graceful phases. -/
theorem gracefulNanos_terminate {platform : Platform} (shutdown : GracefulShutdown platform)
    (handle : ProcessHandle) :
    gracefulNanos (terminateEvents system shutdown handle) =
      if (Event.probed (system.probe handle.events)).exit? = none then
        phaseNanos shutdown.steps (takenPhases system
          (handle.note (.probed (system.probe handle.events))) 0 shutdown.steps)
      else 0 := by
  obtain ⟨later, killed, events⟩ := terminateEvents_eq system shutdown handle
  rw [events, gracefulNanos_cons rfl]
  split
  · rw [gracefulNanos_phaseEvents killed]
    exact Nat.zero_add _
  · rw [List.nil_append, gracefulNanos_of_fromKill killed]
    rfl

end Run

/-! ## The bound -/

theorem totalTimeout_nanos {platform : Platform} {shutdown : GracefulShutdown platform}
    {total : Duration} (sums : shutdown.totalTimeout = .ok total) :
    total.nanos = (shutdown.steps.map fun step => step.timeout.nanos).sum := by
  cases platform with
  | unix =>
      change Duration.sum _ = _ at sums
      unfold Duration.sum at sums
      split at sums
      · cases sums
        simp [GracefulShutdown.steps, Function.comp_def]
      · cases sums
  | windows =>
      cases sums
      simp [GracefulShutdown.steps]
  | other => exact shutdown.elim

/-- If the signals that are refused are those of phases no shorter than the grace, the phases wait no
longer than their timeouts. -/
theorem phaseNanos_le (index : Nat) {steps : List TerminationStep} {phases : List Phase}
    (enough : ∀ place name error,
      .sent (index + place) name (.error error) ∈ phaseEvents index steps phases →
        ∀ step ∈ steps[place]?, reapAfterSignalFailureGrace.nanos ≤ step.timeout.nanos) :
    phaseNanos steps phases ≤ (steps.map fun step => step.timeout.nanos).sum := by
  induction steps generalizing index phases with
  | nil => exact Nat.zero_le _
  | cons step rest ih =>
      cases phases with
      | nil => exact Nat.zero_le _
      | cons phase others =>
          have later : phaseNanos rest others ≤ (rest.map fun step => step.timeout.nanos).sum := by
            refine ih (index + 1) fun place name error sent step here =>
              enough (place + 1) name error ?_ step (by simpa using here)
            rw [phaseEvents, Nat.add_comm place, ← Nat.add_assoc]
            exact List.mem_cons_of_mem _ (List.mem_cons_of_mem _ sent)
          have here : (Phase.bound step.timeout phase.sendReply).nanos ≤ step.timeout.nanos := by
            cases reply : phase.sendReply with
            | ok value => exact Nat.le_refl _
            | error error =>
                refine enough 0 step.signalLabel error ?_ step (by simp)
                rw [phaseEvents, reply]
                exact List.mem_cons_self
          rw [phaseNanos, List.map_cons, List.sum_cons]
          exact Nat.add_le_add here later

/-- A system that refuses the signals of the given phases, and in which every wait elapses. -/
def stubbornSystem (refuses : Nat → Bool) : System fun _ => Unit where
  probe _ := .ok none
  send _ index _ := if refuses index then .error ⟨1, "operation not permitted"⟩ else .ok ()
  kill _ := .ok ()
  wait _ _ := .elapsed
  othersGone _ _ := true
  joins _ _ := true
  drain _ := ⟨fun _ => .ok (.ok ()), []⟩

/-- If the signals of the short phases are refused, each phase waits for the longer of its timeout
and the grace. -/
theorem phaseNanos_stubborn {refuses : Nat → Bool} (handle : ProcessHandle) (index : Nat)
    (steps : List TerminationStep)
    (short : ∀ place step, steps[place]? = some step → refuses (index + place) =
      decide (step.timeout.nanos < reapAfterSignalFailureGrace.nanos)) :
    phaseNanos steps (takenPhases (stubbornSystem refuses) handle index steps) =
      (steps.map fun step => max step.timeout.nanos reapAfterSignalFailureGrace.nanos).sum := by
  induction steps generalizing handle index with
  | nil => rfl
  | cons step rest ih =>
      have here := short 0 step rfl
      have bound : (Phase.bound step.timeout
          (gracefulPhase (stubbornSystem refuses) handle index step).sendReply).nanos =
            max step.timeout.nanos reapAfterSignalFailureGrace.nanos := by
        rw [Nat.add_zero] at here
        have reply : (gracefulPhase (stubbornSystem refuses) handle index step).sendReply =
            if step.timeout.nanos < reapAfterSignalFailureGrace.nanos then
              .error ⟨1, "operation not permitted"⟩
            else .ok () := by
          simp only [gracefulPhase, stubbornSystem, here, decide_eq_true_eq]
        rw [reply]
        split
        · rw [Phase.bound]
          omega
        · rw [Phase.bound]
          omega
      have later := ih (afterPhase handle index step
          (gracefulPhase (stubbornSystem refuses) handle index step)) (index + 1) fun place step at_ => by
        rw [Nat.add_assoc, Nat.add_comm 1]
        exact short (place + 1) step at_
      rw [List.map_cons, List.sum_cons, ← bound, ← later]
      rfl

/-- A termination that meets no refusal in a phase shorter than the grace keeps the bound. -/
theorem gracefulNanos_le {Sink : Side → Type} (system : System Sink) (handle : ProcessHandle)
    {platform : Platform} (shutdown : GracefulShutdown platform)
    (enough : ∀ index name error,
      .sent index name (.error error) ∈ terminateEvents system shutdown handle →
        ∀ step ∈ shutdown.steps[index]?,
          reapAfterSignalFailureGrace.nanos ≤ step.timeout.nanos) :
    gracefulNanos (terminateEvents system shutdown handle) ≤
      (shutdown.steps.map fun step => step.timeout.nanos).sum := by
  obtain ⟨later, _, events⟩ := terminateEvents_eq system shutdown handle
  rw [gracefulNanos_terminate]
  split
  · rename_i silent
    rw [if_pos silent] at events
    refine phaseNanos_le 0 fun place name error sent step here => enough place name error ?_ step here
    rw [events]
    rw [Nat.zero_add] at sent
    exact List.mem_cons_of_mem _ (List.mem_append_left _ sent)
  · exact Nat.zero_le _

/-- **The total timeout bounds the graceful phases exactly if no phase is shorter than the grace.**
In every environment the waits before the forceful kill are bounded by the total timeout of the
policy together, if and only if every phase has at least the timeout that is granted behind a signal
that could not be sent. A single termination keeps the bound if it meets no refusal in a phase that
is shorter. -/
theorem totalTimeout_bounds_iff {platform : Platform} (shutdown : GracefulShutdown platform)
    {total : Duration} (sums : shutdown.totalTimeout = .ok total) :
    ((∀ (Sink : Side → Type) (system : System Sink) (handle : ProcessHandle),
        gracefulNanos (terminateEvents system shutdown handle) ≤ total.nanos) ↔
      ∀ step ∈ shutdown.steps, reapAfterSignalFailureGrace.nanos ≤ step.timeout.nanos) ∧
    ∀ (Sink : Side → Type) (system : System Sink) (handle : ProcessHandle),
      (∀ index name error,
        .sent index name (.error error) ∈ terminateEvents system shutdown handle →
          ∀ step ∈ shutdown.steps[index]?,
            reapAfterSignalFailureGrace.nanos ≤ step.timeout.nanos) →
        gracefulNanos (terminateEvents system shutdown handle) ≤ total.nanos := by
  rw [totalTimeout_nanos sums]
  refine ⟨⟨?_, ?_⟩, fun Sink system handle => gracefulNanos_le system handle shutdown⟩
  · intro bounded step member
    by_contra less
    -- The signals of exactly the short phases are refused, and nothing exits.
    have waits := bounded (fun _ => Unit) (stubbornSystem fun index =>
      shutdown.steps[index]?.any fun step =>
        step.timeout.nanos < reapAfterSignalFailureGrace.nanos) spawned
    rw [gracefulNanos_terminate,
      if_pos (show (Event.probed ((stubbornSystem _).probe spawned.events)).exit? = none from rfl),
      phaseNanos_stubborn] at waits
    · have more : (shutdown.steps.map fun step => step.timeout.nanos).sum <
          (shutdown.steps.map fun step =>
            max step.timeout.nanos reapAfterSignalFailureGrace.nanos).sum :=
        List.sum_lt_sum _ _ (fun step _ => Nat.le_max_left _ _) ⟨step, member, by omega⟩
      omega
    · intro place step here
      rw [Nat.zero_add, here]
      rfl
  · intro enough Sink system handle
    exact gracefulNanos_le system handle shutdown fun _ _ _ _ step here =>
      enough step (List.mem_of_getElem? here)

/-- A policy of one second. -/
theorem totalTimeout_bounds_iff_second :
    (UnixGracefulShutdown.terminateOnly (.fromSecs 1)).totalTimeout = .ok (.fromSecs 1) ∧
    ∀ (Sink : Side → Type) (system : System Sink) (handle : ProcessHandle),
      gracefulNanos (terminateEvents system
        (show GracefulShutdown .unix from UnixGracefulShutdown.terminateOnly (.fromSecs 1))
          handle) ≤ (Duration.fromSecs 1).nanos :=
  ⟨by decide, (@totalTimeout_bounds_iff .unix (UnixGracefulShutdown.terminateOnly (.fromSecs 1))
    (.fromSecs 1) (by decide)).1.mpr (by decide)⟩

/-- A single phase of fifty milliseconds whose signal is refused waits for a hundred. -/
theorem totalTimeout_exceeded :
    (UnixGracefulShutdown.terminateOnly (.fromMillis 50)).totalTimeout = .ok (.fromMillis 50) ∧
    (Duration.fromMillis 50).nanos < gracefulNanos (terminateEvents refusingSystem
      (show GracefulShutdown .unix from UnixGracefulShutdown.terminateOnly (.fromMillis 50))
        spawned) := by
  decide

end TokioProcessTools.ProcessHandle
