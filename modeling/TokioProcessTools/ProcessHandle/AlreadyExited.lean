import TokioProcessTools.ProcessHandle.Escalation

/-!
# Terminating a process that has already exited

A child may exit before it is signalled. The system then refuses the signal,
and only a probe or a wait behind the refusal tells that the child is gone. An
operation that does not look again reports a failure for a finished process and
leaves the handle armed.

`terminate`, `send_*_signal` and `start_kill` look again; `kill` does not
(`reportsExit_iff`). A `send_*_signal` whose first probe fails sends no signal, and
does not look again either.
-/

set_option autoImplicit false

namespace TokioProcessTools.ProcessHandle

open Foundation OutputStream OutputCollection

/-- The operations that signal a process. -/
inductive TerminationCall (platform : Platform) where
  | sendSignalWithReaper (signalName : String)
  | terminate (shutdown : GracefulShutdown platform)
  | startKill
  | kill

section Calls

variable {Sink : Side → Type} {platform : Platform}

/-- The operation; the status `terminate` returns is left out. -/
def TerminationCall.run : TerminationCall platform → Operation Sink (Except TerminationError Unit)
  | .sendSignalWithReaper signalName => ProcessHandle.sendSignalWithReaper signalName
  | .terminate shutdown => do
      let result ← ProcessHandle.terminate shutdown
      return result.map fun _ => ()
  | .startKill => ProcessHandle.startKill platform
  | .kill => ProcessHandle.kill platform

/-- A signal was sent, successfully or not. -/
def Event.isSignal : Event → Bool
  | .sent _ _ _ | .killed _ => true
  | .probed _ | .waited _ _ => false

/-- The child has exited before the operation sends its signal: every signal is refused, and what is
asked behind a signal reports the exit. -/
structure ExitedBeforeSend (system : System Sink) (start : List Event) : Prop where
  sendRefused : ∀ events index signalName, ∃ error, system.send events index signalName = .error error
  killRefused : ∀ events, ∃ error, system.kill events = .error error
  probeReports : ∀ later, later.any Event.isSignal = true →
    ∃ status, system.probe (start ++ later) = .ok (some status)
  waitReports : ∀ later bound, later.any Event.isSignal = true →
    ∃ status, system.wait (start ++ later) bound = .exited status

/-- The probe at the start of `send_signal_with_reaper` has an answer; without one the operation
sends no signal. -/
def TerminationCall.Sends (call : TerminationCall platform) (system : System Sink)
    (start : List Event) : Prop :=
  match call with
  | .sendSignalWithReaper _ => ∃ status, system.probe start = .ok status
  | .terminate _ | .startKill | .kill => True

/-- The operation succeeds and leaves the handle disarmed. -/
def TerminationCall.ReportsExit (call : TerminationCall platform) (system : System Sink)
    (handle : ProcessHandle) : Prop :=
  (call.run system handle).1 = .returned (.ok ()) ∧
    (call.run system handle).2.dropMode = .disarmed

variable {system : System Sink} {handle : ProcessHandle}

theorem sendSignalWithReaper_reportsExit (exited : ExitedBeforeSend system handle.events)
    {status : Option ExitStatus} (probed : system.probe handle.events = .ok status)
    (signalName : String) :
    (TerminationCall.sendSignalWithReaper signalName : TerminationCall platform).ReportsExit system
      handle := by
  cases status with
  | some status =>
      simp [TerminationCall.ReportsExit, TerminationCall.run, sendSignalWithReaper,
        tryReapExitStatus, probed]
  | none =>
      obtain ⟨error, refused⟩ :=
        exited.sendRefused (handle.events ++ [.probed (.ok none)]) 0 signalName
      obtain ⟨status, reported⟩ :=
        exited.probeReports [.probed (.ok none), .sent 0 signalName (.error error)] rfl
      simp [TerminationCall.ReportsExit, TerminationCall.run, sendSignalWithReaper, sendSignal,
        tryReapExitStatus, probed, refused, reported]

/-- A first probe that fails is returned. -/
theorem sends_of_sendSignalWithReaper {signalName : String}
    (reports : (TerminationCall.sendSignalWithReaper signalName :
      TerminationCall platform).ReportsExit system handle) :
    ∃ status, system.probe handle.events = .ok status := by
  cases probed : system.probe handle.events with
  | ok status => exact ⟨status, rfl⟩
  | error error =>
      simp [TerminationCall.ReportsExit, TerminationCall.run, sendSignalWithReaper,
        tryReapExitStatus, probed, failSignal, intoSignalFailed, TerminationDiagnostics.record]
        at reports

/-- A refused signal whose wait reports the exit ends the loop. -/
theorem attemptSteps_exited (exited : ExitedBeforeSend system handle.events) {probe : Event}
    {steps : List TerminationStep} (nonempty : steps ≠ []) (diagnostics : TerminationDiagnostics) :
    ∃ status, (attemptSteps platform 0 steps diagnostics system (handle.note probe)).1 =
      .returned (.ok status) := by
  cases steps with
  | nil => exact absurd rfl nonempty
  | cons step rest =>
      obtain ⟨error, refused⟩ := exited.sendRefused (handle.events ++ [probe]) 0 step.signalLabel
      obtain ⟨status, reported⟩ := exited.waitReports
        [probe, .sent 0 step.signalLabel (.error error)] (some reapAfterSignalFailureGrace)
        (by simp [Event.isSignal])
      have phase : gracefulPhase system (handle.note probe) 0 step =
          ⟨.error error, .exited status⟩ := by
        simp [gracefulPhase, refused, Phase.bound, reported]
      refine ⟨status, ?_⟩
      rw [attemptSteps, Program.bind_run, attemptGracefulPhase_run, phase]
      rfl

theorem terminate_reportsExit (exited : ExitedBeforeSend system handle.events)
    (shutdown : GracefulShutdown platform) :
    (TerminationCall.terminate shutdown).ReportsExit system handle := by
  have nonempty := shutdown.steps_ne_nil
  have block : ∃ status, (terminationBlock platform shutdown.steps system handle).1 =
      .returned (.ok status) := by
    rw [terminationBlock, Program.bind_run, tryReapExitStatus, Program.andThen_returned]
    cases system.probe handle.events with
    | error error => exact attemptSteps_exited exited nonempty _
    | ok reply =>
        cases reply with
        | none => exact attemptSteps_exited exited nonempty _
        | some status => exact ⟨status, rfl⟩
  obtain ⟨status, returned⟩ := block
  simp only [TerminationCall.ReportsExit, TerminationCall.run, terminate, runTerminationLoop,
    if_neg nonempty, Program.bind_run]
  cases ended : terminationBlock platform shutdown.steps system handle with
  | mk fate later =>
      rw [ended] at returned
      cases returned
      exact ⟨rfl, rfl⟩

theorem startKill_reportsExit (exited : ExitedBeforeSend system handle.events) :
    (TerminationCall.startKill : TerminationCall platform).ReportsExit system handle := by
  obtain ⟨error, refused⟩ := exited.killRefused handle.events
  obtain ⟨status, reported⟩ := exited.probeReports [.killed (.error error)] rfl
  simp [TerminationCall.ReportsExit, TerminationCall.run, startKill, sendKillSignal,
    tryReapExitStatus, refused, reported]

/-- `kill` returns the refusal. -/
theorem not_kill_reportsExit (exited : ExitedBeforeSend system handle.events) :
    ¬ (TerminationCall.kill : TerminationCall platform).ReportsExit system handle := by
  obtain ⟨error, refused⟩ := exited.killRefused handle.events
  simp [TerminationCall.ReportsExit, TerminationCall.run, kill, sendKillSignal, refused,
    failTermination, intoTerminationFailed, TerminationDiagnostics.record]

/-- **A process that has exited before it is signalled is reported as exited by every operation
except `kill`**, if the operation comes to its signal. -/
theorem reportsExit_iff (call : TerminationCall platform)
    (exited : ExitedBeforeSend system handle.events) :
    call.ReportsExit system handle ↔ call ≠ .kill ∧ call.Sends system handle.events := by
  cases call with
  | sendSignalWithReaper signalName =>
      constructor
      · exact fun reports => ⟨by simp, sends_of_sendSignalWithReaper reports⟩
      · rintro ⟨_, status, probed⟩
        exact sendSignalWithReaper_reportsExit exited probed signalName
  | terminate shutdown =>
      exact ⟨fun _ => ⟨by simp, trivial⟩, fun _ => terminate_reportsExit exited shutdown⟩
  | startKill => exact ⟨fun _ => ⟨by simp, trivial⟩, fun _ => startKill_reportsExit exited⟩
  | kill =>
      exact ⟨fun reports => absurd reports (not_kill_reportsExit exited),
        fun other => absurd rfl other.1⟩

end Calls

/-- A system whose child has exited, which only shows behind a refused signal. -/
def exitedSystem : System fun _ => Unit where
  probe events := .ok (if events.any Event.isSignal then some ⟨0⟩ else none)
  send _ _ _ := .error ⟨1, "operation not permitted"⟩
  kill _ := .error ⟨1, "operation not permitted"⟩
  wait _ _ := .exited ⟨0⟩
  othersGone _ _ := true
  joins _ _ := true
  drain _ := ⟨fun _ => .ok (.ok ()), []⟩

theorem exitedSystem_exitedBeforeSend : ExitedBeforeSend exitedSystem [] where
  sendRefused _ _ _ := ⟨_, rfl⟩
  killRefused _ := ⟨_, rfl⟩
  probeReports later signalled := ⟨⟨0⟩, by
    simp only [exitedSystem, List.nil_append, signalled, if_true]⟩
  waitReports _ _ _ := ⟨⟨0⟩, rfl⟩

/-- `start_kill` looks again. -/
theorem reportsExit_startKill :
    (TerminationCall.startKill : TerminationCall .unix).ReportsExit exitedSystem spawned :=
  (reportsExit_iff .startKill exitedSystem_exitedBeforeSend).mpr ⟨by simp, trivial⟩

/-- **`kill` fails for a child that has exited**, and leaves the handle armed. -/
theorem kill_fails_for_exited :
    ExitedBeforeSend exitedSystem spawned.events ∧
      ((TerminationCall.kill : TerminationCall .unix).run exitedSystem spawned).1 =
        .returned (.error (.terminationFailed "child"
          [⟨.sendSignal "SIGKILL", .io ⟨1, "operation not permitted"⟩⟩])) ∧
      ((TerminationCall.kill : TerminationCall .unix).run exitedSystem spawned).2.dropMode =
        .armed true :=
  ⟨exitedSystem_exitedBeforeSend, rfl, rfl⟩

end TokioProcessTools.ProcessHandle
