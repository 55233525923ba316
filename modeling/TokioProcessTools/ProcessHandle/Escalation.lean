import TokioProcessTools.ProcessHandle.Answers

/-!
# The escalation of a termination

What a termination did is told by the answer of the probe at the start, the
answers of each phase that took place, and those of the forceful kill if it was
sent. The calls are then known one by one (`Escalation.events`): the phases come
in the order of the steps, each signal is followed by one wait, and the bound of
the wait depends on whether the signal was sent.

Every run of `run_termination_loop` that is awaited to its end is such an
escalation, and every answer in it is the system's (`terminationLoop_escalates`):
it stops at the first exit that is reported and returns its status, or fails with
every failure it met, in order.
-/

set_option autoImplicit false

namespace TokioProcessTools.ProcessHandle

open Foundation OutputStream OutputCollection

/-- The answers of one phase: of the signal and of the wait behind it. -/
structure Phase where
  sendReply : Except IoError Unit
  waitReply : WaitReply
  deriving DecidableEq

namespace Phase

/-- The exit status the wait reports. -/
def exit? (phase : Phase) : Option ExitStatus :=
  match phase.waitReply with
  | .exited status => some status
  | .failed _ | .elapsed | .dropped => none

/-- The bound of the wait: the timeout behind a signal that was sent, the grace otherwise. -/
def bound (timeout : Duration) (sendReply : Except IoError Unit) : Duration :=
  match sendReply with
  | .ok _ => timeout
  | .error _ => reapAfterSignalFailureGrace

/-- The wait of the phase. -/
def waitEvent (timeout : Duration) (phase : Phase) : Event :=
  .waited (some (bound timeout phase.sendReply)) phase.waitReply

/-- What went wrong in the phase, in order. A wait that elapses behind a signal that was not sent
is the end of the grace, not a failure. -/
def failures (processName signalName : String) (timeout : Duration) (phase : Phase) :
    List TerminationAttemptError :=
  match phase.sendReply, phase.waitReply with
  | .ok _, .elapsed => [⟨.waitForExit, .io (waitTimeoutError timeout)⟩]
  | .ok _, .failed error => [⟨.waitForExit, .wait (.ioError processName error)⟩]
  | .ok _, _ => []
  | .error error, .failed reap =>
      [⟨.sendSignal signalName, .io error⟩, ⟨.checkStatus, .wait (.ioError processName reap)⟩]
  | .error error, _ => [⟨.sendSignal signalName, .io error⟩]

theorem waitEvent_exit? (timeout : Duration) (phase : Phase) :
    (phase.waitEvent timeout).exit? = phase.exit? := by
  unfold exit? waitEvent
  cases phase.waitReply <;> rfl

/-- The first exit that is reported by a phase and the calls behind it. -/
theorem findSome?_exit? {signal : Event} (silent : signal.exit? = none) (phase : Phase)
    (timeout : Duration) (rest : List Event) :
    (signal :: phase.waitEvent timeout :: rest).findSome? Event.exit? =
      phase.exit?.or (rest.findSome? Event.exit?) := by
  rw [List.findSome?_cons, silent]
  simp only
  rw [List.findSome?_cons, phase.waitEvent_exit?]
  cases phase.exit? <;> rfl

end Phase

/-- The calls of the phases, from the step with the given index on. -/
def phaseEvents : Nat → List TerminationStep → List Phase → List Event
  | index, step :: steps, phase :: phases =>
      .sent index step.signalLabel phase.sendReply :: phase.waitEvent step.timeout ::
        phaseEvents (index + 1) steps phases
  | _, _, _ => []

/-- The calls of the forceful kill. -/
def killEvents : Option Phase → List Event
  | none => []
  | some phase => [.killed phase.sendReply, phase.waitEvent forceKillWaitTimeout]

/-- The failures of the phases. -/
def phaseFailures (processName : String) : List TerminationStep → List Phase →
    List TerminationAttemptError
  | step :: steps, phase :: phases =>
      phase.failures processName step.signalLabel step.timeout ++
        phaseFailures processName steps phases
  | _, _ => []

/-- The failures of the forceful kill. -/
def killFailures (processName : String) (platform : Platform) : Option Phase →
    List TerminationAttemptError
  | none => []
  | some phase => phase.failures processName platform.killLabel forceKillWaitTimeout

/-- What a termination did. -/
structure Escalation where
  probe : Except IoError (Option ExitStatus)
  phases : List Phase
  kill : Option Phase

namespace Escalation

variable (escalation : Escalation)

/-- Its calls. -/
def events (steps : List TerminationStep) : List Event :=
  .probed escalation.probe :: (phaseEvents 0 steps escalation.phases ++ killEvents escalation.kill)

/-- The failure of the probe. -/
def probeFailures : List TerminationAttemptError :=
  match escalation.probe with
  | .ok _ => []
  | .error error => [⟨.checkStatus, .io error⟩]

/-- Everything that went wrong, in order. -/
def failures (processName : String) (platform : Platform) (steps : List TerminationStep) :
    List TerminationAttemptError :=
  escalation.probeFailures ++
    (phaseFailures processName steps escalation.phases ++
      killFailures processName platform escalation.kill)

/-- The rules of the escalation: nothing is called once an exit was reported, and the kill is sent
exactly if neither the probe nor a phase has reported one, behind all steps. -/
structure Legal (steps : List TerminationStep) : Prop where
  within : escalation.phases.length ≤ steps.length
  quiet : (escalation.events steps).Pairwise fun earlier _ => earlier.exit? = none
  kill_iff : escalation.kill.isSome ↔
    (Event.probed escalation.probe).exit? = none ∧ ∀ phase ∈ escalation.phases, phase.exit? = none
  complete : escalation.kill.isSome → escalation.phases.length = steps.length

end Escalation

/-! ## One phase -/

section Run

variable {Sink : Side → Type} (system : System Sink) (handle : ProcessHandle)

/-- The phase of a step, as the system answers it. -/
def gracefulPhase (index : Nat) (step : TerminationStep) : Phase :=
  let sendReply := system.send handle.events index step.signalLabel
  ⟨sendReply, system.wait (handle.events ++ [.sent index step.signalLabel sendReply])
    (some (Phase.bound step.timeout sendReply))⟩

/-- The phase of the forceful kill. -/
def forcefulPhase : Phase :=
  let sendReply := system.kill handle.events
  ⟨sendReply, system.wait (handle.events ++ [.killed sendReply])
    (some (Phase.bound forceKillWaitTimeout sendReply))⟩

/-- A phase returns unless its wait is dropped. -/
def Phase.ended {α : Type} (phase : Phase) (value : α) : Fate α :=
  match phase.waitReply with
  | .dropped => .dropped
  | .exited _ | .failed _ | .elapsed => .returned value

/-- **One graceful phase.** -/
theorem attemptGracefulPhase_run (index : Nat) (step : TerminationStep)
    (diagnostics : TerminationDiagnostics) :
    let phase := gracefulPhase system handle index step
    attemptGracefulPhase index step.signalLabel step.timeout diagnostics system handle =
      (phase.ended (phase.exit?, ⟨diagnostics.attemptErrors ++
          phase.failures handle.name step.signalLabel step.timeout⟩),
        (handle.note (.sent index step.signalLabel phase.sendReply)).waited
          (some (Phase.bound step.timeout phase.sendReply)) phase.waitReply) := by
  simp only [attemptGracefulPhase, Program.bind_run, sendSignal, Program.andThen_returned,
    gracefulPhase]
  cases sent : system.send handle.events index step.signalLabel with
  | ok value =>
      simp only [Program.bind_run, waitForExitAfterSignal_run, note_events, note_name, Phase.bound]
      cases system.wait _ (some step.timeout) <;>
        simp [exitAfterSignal, Phase.ended, Phase.exit?, Phase.failures,
          TerminationDiagnostics.record]
  | error error =>
      simp only [Program.bind_run, waitForExitAfterSignal_run, note_events, note_name, Phase.bound]
      cases system.wait _ (some reapAfterSignalFailureGrace) <;>
        simp [exitAfterSignal, Phase.ended, Phase.exit?, Phase.failures,
          TerminationDiagnostics.record]

/-- What the forceful kill makes of its phase. -/
def Phase.killResult (diagnostics : TerminationDiagnostics) (processName signalName : String)
    (phase : Phase) : Except TerminationError ExitStatus :=
  match phase.exit? with
  | some status => .ok status
  | none => .error (.terminationFailed processName (diagnostics.attemptErrors ++
      phase.failures processName signalName forceKillWaitTimeout))

/-- A phase without an exit has failed. -/
theorem Phase.failures_ne_nil {phase : Phase} (survived : phase.exit? = none)
    (awaited : phase.waitReply ≠ .dropped) (processName signalName : String) (timeout : Duration) :
    phase.failures processName signalName timeout ≠ [] := by
  obtain ⟨sendReply, waitReply⟩ := phase
  cases sendReply <;> cases waitReply <;> simp_all [Phase.failures, Phase.exit?]

/-- **The forceful kill.** -/
theorem attemptForcefulKill_run (platform : Platform) (diagnostics : TerminationDiagnostics) :
    let phase := forcefulPhase system handle
    attemptForcefulKill platform diagnostics system handle =
      (phase.ended (phase.killResult diagnostics handle.name platform.killLabel),
        (handle.note (.killed phase.sendReply)).waited
          (some (Phase.bound forceKillWaitTimeout phase.sendReply)) phase.waitReply) := by
  simp only [attemptForcefulKill, Program.bind_run, sendKillSignal, Program.andThen_returned,
    forcefulPhase]
  cases sent : system.kill handle.events with
  | ok value =>
      simp only [Program.bind_run, waitForExitAfterSignal_run, note_events, note_name, Phase.bound]
      cases system.wait _ (some forceKillWaitTimeout) <;>
        simp [exitAfterSignal, Phase.ended, Phase.exit?, Phase.failures, Phase.killResult,
          TerminationDiagnostics.record, failTermination, intoTerminationFailed]
  | error error =>
      simp only [Program.bind_run, waitForExitAfterSignal_run, note_events, note_name, Phase.bound]
      cases system.wait _ (some reapAfterSignalFailureGrace) <;>
        simp [exitAfterSignal, Phase.ended, Phase.exit?, Phase.failures, Phase.killResult,
          TerminationDiagnostics.record, failTermination, intoTerminationFailed]

/-! ## All steps -/

/-- What the steps from one index on did, and how they ended. -/
structure StepsRun (platform : Platform) (index : Nat) (steps : List TerminationStep)
    (diagnostics : TerminationDiagnostics) (phases : List Phase) (kill : Option Phase)
    (ended : Fate (Except TerminationError ExitStatus) × ProcessHandle) : Prop where
  within : phases.length ≤ steps.length
  complete : kill.isSome → phases.length = steps.length
  kill_iff : kill.isSome ↔ ∀ phase ∈ phases, phase.exit? = none
  quiet : (phaseEvents index steps phases ++ killEvents kill).Pairwise
    fun earlier _ => earlier.exit? = none
  events : ended.2.events = handle.events ++ (phaseEvents index steps phases ++ killEvents kill)
  exited : ∀ status, (phaseEvents index steps phases ++ killEvents kill).findSome? Event.exit? =
      some status → ended.1 = .returned (.ok status) ∧ ended.2.dropMode = .disarmed
  failed : (phaseEvents index steps phases ++ killEvents kill).findSome? Event.exit? = none →
    ended.1 = .returned (.error (.terminationFailed handle.name (diagnostics.attemptErrors ++
        (phaseFailures handle.name steps phases ++ killFailures handle.name platform kill)))) ∧
      killFailures handle.name platform kill ≠ [] ∧ ended.2.dropMode = handle.dropMode

variable {handle}

/-- The drop mode behind the wait of a phase. -/
theorem waited_dropMode (bound : Option Duration) (phase : Phase) :
    (handle.waited bound phase.waitReply).dropMode =
      if phase.exit? = none then handle.dropMode else .disarmed := by
  unfold Phase.exit? waited
  cases phase.waitReply <;> rfl

variable {system} (handle)

theorem Phase.ended_of_awaited {α : Type} {phase : Phase} (awaited : phase.waitReply ≠ .dropped)
    (value : α) : phase.ended value = .returned value := by
  unfold Phase.ended
  cases reply : phase.waitReply with
  | dropped => exact absurd reply awaited
  | exited _ | failed _ | elapsed => rfl

@[simp] theorem phaseEvents_nil (index : Nat) (steps : List TerminationStep) :
    phaseEvents index steps [] = [] := by
  cases steps <;> rfl

/-- The exit in a phase ends the loop. -/
theorem StepsRun.exit (platform : Platform) (index : Nat) (step : TerminationStep)
    (rest : List TerminationStep) (diagnostics : TerminationDiagnostics) {phase : Phase}
    {status : ExitStatus} (reported : phase.exit? = some status) :
    StepsRun handle platform index (step :: rest) diagnostics [phase] none
      (.returned (.ok status),
        (handle.note (.sent index step.signalLabel phase.sendReply)).waited
          (some (Phase.bound step.timeout phase.sendReply)) phase.waitReply) := by
  have silent : (Event.sent index step.signalLabel phase.sendReply).exit? = none := rfl
  have calls : phaseEvents index (step :: rest) [phase] ++ killEvents none =
      [.sent index step.signalLabel phase.sendReply, phase.waitEvent step.timeout] := by
    rw [phaseEvents, phaseEvents_nil]
    rfl
  have first := phase.findSome?_exit? silent step.timeout []
  rw [reported, Option.some_or] at first
  refine ⟨Nat.succ_le_succ (Nat.zero_le _), by simp, by simp [reported], ?_, ?_, ?_, ?_⟩
  · rw [calls]
    exact List.Pairwise.cons (fun _ _ => silent) (List.pairwise_singleton _ _)
  · rw [calls, waited_events, note_events, List.append_assoc]
    rfl
  · intro other found
    rw [calls, first, Option.some.injEq] at found
    rw [found, waited_dropMode, if_neg (by simp [reported])]
    exact ⟨rfl, rfl⟩
  · intro missing
    rw [calls, first] at missing
    cases missing

/-- A phase without an exit comes before what the later steps do. -/
theorem StepsRun.survive {platform : Platform} {index : Nat} {step : TerminationStep}
    {rest : List TerminationStep} {diagnostics : TerminationDiagnostics} {phase : Phase}
    {phases : List Phase} {kill : Option Phase}
    {ended : Fate (Except TerminationError ExitStatus) × ProcessHandle}
    (later : StepsRun ((handle.note (.sent index step.signalLabel phase.sendReply)).waited
        (some (Phase.bound step.timeout phase.sendReply)) phase.waitReply) platform (index + 1) rest
      ⟨diagnostics.attemptErrors ++ phase.failures handle.name step.signalLabel step.timeout⟩
      phases kill ended)
    (survived : phase.exit? = none) :
    StepsRun handle platform index (step :: rest) diagnostics (phase :: phases) kill ended := by
  have silent : (Event.sent index step.signalLabel phase.sendReply).exit? = none := rfl
  have calls : phaseEvents index (step :: rest) (phase :: phases) ++ killEvents kill =
      .sent index step.signalLabel phase.sendReply :: phase.waitEvent step.timeout ::
        (phaseEvents (index + 1) rest phases ++ killEvents kill) := rfl
  have first := phase.findSome?_exit? silent step.timeout
    (phaseEvents (index + 1) rest phases ++ killEvents kill)
  rw [survived, Option.none_or] at first
  have mode := @waited_dropMode (handle.note (.sent index step.signalLabel phase.sendReply))
    (some (Phase.bound step.timeout phase.sendReply)) phase
  rw [if_pos survived, note_dropMode] at mode
  refine ⟨Nat.succ_le_succ later.within, fun killed => congrArg (· + 1) (later.complete killed),
    ?_, ?_, ?_, ?_, ?_⟩
  · rw [later.kill_iff, List.forall_mem_cons]
    exact ⟨fun others => ⟨survived, others⟩, And.right⟩
  · rw [calls]
    have waited : (phase.waitEvent step.timeout).exit? = none :=
      (phase.waitEvent_exit? step.timeout).trans survived
    exact .cons (fun _ _ => silent) (.cons (fun _ _ => waited) later.quiet)
  · rw [later.events, waited_events, note_events, calls, List.append_assoc, List.append_assoc]
    rfl
  · intro status found
    rw [calls, first] at found
    exact later.exited status found
  · intro missing
    rw [calls, first] at missing
    obtain ⟨result, killed, kept⟩ := later.failed missing
    rw [waited_name, note_name] at result killed
    refine ⟨?_, killed, kept.trans mode⟩
    rw [result, phaseFailures]
    simp only [List.append_assoc]

/-- Steps behind a probe that has not reported an exit are an escalation. -/
theorem StepsRun.escalates {platform : Platform} {steps : List TerminationStep}
    {diagnostics : TerminationDiagnostics} {phases : List Phase} {kill : Option Phase}
    {probe : Except IoError (Option ExitStatus)}
    {ended : Fate (Except TerminationError ExitStatus) × ProcessHandle}
    (run : StepsRun (handle.note (.probed probe)) platform 0 steps diagnostics phases kill ended)
    (silent : (Event.probed probe).exit? = none)
    (recorded : diagnostics.attemptErrors = (Escalation.mk probe phases kill).probeFailures) :
    let escalation : Escalation := ⟨probe, phases, kill⟩
    let final := Program.andThen ended fun result =>
      (disarmAfterSuccessfulTermination result : Operation Sink _) system
    escalation.Legal steps ∧
      final.2.events = handle.events ++ escalation.events steps ∧
      (∀ status, (escalation.events steps).findSome? Event.exit? = some status →
        final.1 = .returned (.ok status) ∧ final.2.dropMode = .disarmed) ∧
      ((escalation.events steps).findSome? Event.exit? = none →
        final.1 = .returned (.error
          (.terminationFailed handle.name (escalation.failures handle.name platform steps))) ∧
        escalation.failures handle.name platform steps ≠ [] ∧
        final.2.dropMode = handle.dropMode) := by
  intro escalation final
  have first : (escalation.events steps).findSome? Event.exit? =
      (phaseEvents 0 steps phases ++ killEvents kill).findSome? Event.exit? := by
    rw [Escalation.events, List.findSome?_cons, silent]
  have calls : ended.2.events = handle.events ++ escalation.events steps := by
    rw [run.events, note_events, List.append_assoc]
    rfl
  refine ⟨⟨run.within, ?_, ?_, run.complete⟩, ?_⟩
  · exact .cons (fun _ _ => silent) run.quiet
  · rw [run.kill_iff]
    exact ⟨fun others => ⟨silent, others⟩, And.right⟩
  rw [first]
  cases reported : (phaseEvents 0 steps phases ++ killEvents kill).findSome? Event.exit? with
  | some status =>
      obtain ⟨result, disarmed⟩ := run.exited status reported
      have same : final = (.returned (.ok status), ended.2.mustNotBeTerminated) := by
        obtain ⟨fate, later⟩ := ended
        cases result
        rfl
      rw [same]
      refine ⟨calls, ?_, by simp⟩
      intro other found
      cases found
      exact ⟨rfl, rfl⟩
  | none =>
      obtain ⟨result, killed, kept⟩ := run.failed reported
      have same : final = ended := by
        obtain ⟨fate, later⟩ := ended
        cases result
        rfl
      rw [same]
      refine ⟨calls, by simp, fun _ => ⟨?_, ?_, kept⟩⟩
      · rw [result, recorded]
        rfl
      · intro empty
        exact killed (List.append_eq_nil_iff.mp (List.append_eq_nil_iff.mp empty).2).2

section Undropped

variable (undropped : ∀ events bound, system.wait events bound ≠ .dropped)

include undropped

/-- The kill alone, behind the last step. -/
theorem attemptForcefulKill_stepsRun (platform : Platform) (index : Nat)
    (diagnostics : TerminationDiagnostics) :
    StepsRun handle platform index [] diagnostics [] (some (forcefulPhase system handle))
      (attemptForcefulKill platform diagnostics system handle) := by
  have awaited : (forcefulPhase system handle).waitReply ≠ .dropped := undropped _ _
  have run := attemptForcefulKill_run system handle platform diagnostics
  simp only [Phase.ended_of_awaited awaited] at run
  rw [run]
  generalize forcefulPhase system handle = phase at awaited
  have first := Phase.findSome?_exit? (rfl : (Event.killed phase.sendReply).exit? = none) phase
    forceKillWaitTimeout []
  rw [List.findSome?_nil, Option.or_none] at first
  refine ⟨Nat.le_refl 0, fun _ => rfl, by simp, ?_, ?_, ?_, ?_⟩
  · exact List.Pairwise.cons (fun _ _ => rfl) (List.pairwise_singleton _ _)
  · rw [waited_events, note_events, List.append_assoc]
    rfl
  · intro status reported
    have exited : phase.exit? = some status := first.symm.trans reported
    refine ⟨?_, ?_⟩
    · rw [Phase.killResult, exited]
    · rw [waited_dropMode, exited, if_neg (by simp)]
  · intro silent
    have survived : phase.exit? = none := first.symm.trans silent
    refine ⟨?_, phase.failures_ne_nil survived awaited _ _ _, ?_⟩
    · rw [Phase.killResult, survived]
      rfl
    · rw [waited_dropMode, if_pos survived, note_dropMode]

/-- **The loop over the steps.** -/
theorem attemptSteps_run (platform : Platform) (index : Nat) (steps : List TerminationStep)
    (diagnostics : TerminationDiagnostics) :
    ∃ phases kill, StepsRun handle platform index steps diagnostics phases kill
      (attemptSteps platform index steps diagnostics system handle) := by
  induction steps generalizing index diagnostics handle with
  | nil =>
      exact ⟨[], _, attemptForcefulKill_stepsRun handle undropped platform index diagnostics⟩
  | cons step rest ih =>
      have awaited : (gracefulPhase system handle index step).waitReply ≠ .dropped := undropped _ _
      have run := attemptGracefulPhase_run system handle index step diagnostics
      simp only [Phase.ended_of_awaited awaited] at run
      rw [attemptSteps, Program.bind_run, run, Program.andThen_returned]
      generalize gracefulPhase system handle index step = phase
      cases reported : phase.exit? with
      | some status =>
          exact ⟨[phase], none, StepsRun.exit handle platform index step rest diagnostics reported⟩
      | none =>
          obtain ⟨phases, kill, later⟩ := ih
            ((handle.note (.sent index step.signalLabel phase.sendReply)).waited
              (some (Phase.bound step.timeout phase.sendReply)) phase.waitReply) (index + 1)
            ⟨diagnostics.attemptErrors ++
              phase.failures handle.name step.signalLabel step.timeout⟩
          exact ⟨phase :: phases, kill, StepsRun.survive handle later reported⟩

/-! ## The result -/

/-- **A termination escalates correctly and accounts for every failure.** What every run of
`run_termination_loop` does is a legal escalation over its steps, and the probe, the signals and the
waits in it have the answers that the system gives, each behind the calls before it. If an exit was
reported, the first reported status is returned and the handle is disarmed. Otherwise the drop mode is
kept, and the error lists everything that went wrong, in order, which is not nothing. -/
theorem terminationLoop_escalates (platform : Platform) {steps : List TerminationStep}
    (nonempty : steps ≠ []) :
    system.Answered handle.events (runTerminationLoop platform steps system handle).2.events ∧
    ∃ escalation : Escalation, escalation.Legal steps ∧
      (runTerminationLoop platform steps system handle).2.events =
        handle.events ++ escalation.events steps ∧
      (∀ status, (escalation.events steps).findSome? Event.exit? = some status →
        (runTerminationLoop platform steps system handle).1 = .returned (.ok status) ∧
        (runTerminationLoop platform steps system handle).2.dropMode = .disarmed) ∧
      ((escalation.events steps).findSome? Event.exit? = none →
        (runTerminationLoop platform steps system handle).1 = .returned (.error
          (.terminationFailed handle.name (escalation.failures handle.name platform steps))) ∧
        escalation.failures handle.name platform steps ≠ [] ∧
        (runTerminationLoop platform steps system handle).2.dropMode = handle.dropMode) := by
  refine ⟨runTerminationLoop_records steps handle .start, ?_⟩
  rw [runTerminationLoop, if_neg nonempty, Program.bind_run, terminationBlock, Program.bind_run,
    tryReapExitStatus, Program.andThen_returned]
  generalize system.probe handle.events = probe
  match probe with
  | .ok (some status) =>
      refine ⟨⟨.ok (some status), [], none⟩, ⟨Nat.zero_le _, ?_, by simp [Event.exit?], by simp⟩, ?_,
        ?_, ?_⟩
      · rw [Escalation.events, phaseEvents_nil]
        exact List.pairwise_singleton _ _
      · rw [Escalation.events, phaseEvents_nil]
        rfl
      · intro other found
        obtain rfl : status = other := Option.some.inj found
        exact ⟨rfl, rfl⟩
      · intro missing
        cases missing
  | .ok none =>
      obtain ⟨phases, kill, run⟩ :=
        attemptSteps_run (handle.note (.probed (.ok none))) undropped platform 0 steps {}
      exact ⟨⟨.ok none, phases, kill⟩, StepsRun.escalates handle run rfl rfl⟩
  | .error error =>
      obtain ⟨phases, kill, run⟩ := attemptSteps_run (handle.note (.probed (.error error))) undropped
        platform 0 steps (({} : TerminationDiagnostics).record .checkStatus (.io error))
      exact ⟨⟨.error error, phases, kill⟩, StepsRun.escalates handle run rfl rfl⟩

end Undropped

end Run

/-- A system in which nothing can be signalled: the probe fails, every signal is refused, and every
wait elapses. -/
def refusingSystem : System fun _ => Unit where
  probe _ := .error ⟨1, "permission denied"⟩
  send _ _ _ := .error ⟨1, "permission denied"⟩
  kill _ := .error ⟨1, "permission denied"⟩
  wait _ _ := .elapsed
  othersGone _ _ := true
  joins _ _ := true
  drain _ := ⟨fun _ => .ok (.ok ()), []⟩

/-- A freshly spawned process. -/
def spawned : ProcessHandle where
  name := "child"
  streams _ := { exclusive := true }

/-- A termination that fails at every attempt lists the probe and each of the signals. -/
theorem terminationLoop_escalates_refused :
    refusingSystem.Answered [] (runTerminationLoop .unix
      [⟨"SIGINT", .fromSecs 1⟩, ⟨"SIGTERM", .fromSecs 5⟩] refusingSystem spawned).2.events ∧
    (∃ escalation : Escalation,
      escalation.Legal [⟨"SIGINT", .fromSecs 1⟩, ⟨"SIGTERM", .fromSecs 5⟩] ∧
      (runTerminationLoop .unix [⟨"SIGINT", .fromSecs 1⟩, ⟨"SIGTERM", .fromSecs 5⟩] refusingSystem
        spawned).2.events = escalation.events [⟨"SIGINT", .fromSecs 1⟩, ⟨"SIGTERM", .fromSecs 5⟩]) ∧
    (runTerminationLoop .unix [⟨"SIGINT", .fromSecs 1⟩, ⟨"SIGTERM", .fromSecs 5⟩] refusingSystem
      spawned).1 = .returned (.error (.terminationFailed "child"
        [⟨.checkStatus, .io ⟨1, "permission denied"⟩⟩,
          ⟨.sendSignal "SIGINT", .io ⟨1, "permission denied"⟩⟩,
          ⟨.sendSignal "SIGTERM", .io ⟨1, "permission denied"⟩⟩,
          ⟨.sendSignal "SIGKILL", .io ⟨1, "permission denied"⟩⟩])) := by
  have undropped : ∀ events bound, refusingSystem.wait events bound ≠ .dropped :=
    fun _ _ => (by decide : WaitReply.elapsed ≠ .dropped)
  obtain ⟨answered, escalation, legal, events, _⟩ := terminationLoop_escalates spawned undropped .unix
    (List.cons_ne_nil ⟨"SIGINT", .fromSecs 1⟩ [⟨"SIGTERM", .fromSecs 5⟩])
  exact ⟨answered, ⟨escalation, legal, events⟩, rfl⟩

end TokioProcessTools.ProcessHandle
