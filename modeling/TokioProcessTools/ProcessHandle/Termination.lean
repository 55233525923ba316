import TokioProcessTools.ProcessHandle.State

/-!
# Terminating a process

`terminate` sends the graceful signals of a shutdown policy one after the other
and waits behind each of them; a process that survives them all is killed. The
other operations send one signal: `send_*_signal` a graceful one, `kill` and
`start_kill` the forceful one, with and without waiting for the exit.

The functions follow the source. What `debug_assert!` and `assert!` refuse is a
panic here.
-/

set_option autoImplicit false

namespace TokioProcessTools.ProcessHandle

open Foundation OutputStream OutputCollection

/-- The targets the crate distinguishes. -/
inductive Platform where
  | unix
  | windows
  | other
  deriving DecidableEq, Repr

/-- `KILL_LABEL`. -/
def Platform.killLabel : Platform → String
  | .unix => "SIGKILL"
  | .windows => "TerminateProcess"
  | .other => "kill"

/-- `FORCE_KILL_WAIT_TIMEOUT`. -/
def forceKillWaitTimeout : Duration := .fromSecs 3

/-- `REAP_AFTER_SIGNAL_FAILURE_GRACE`. -/
def reapAfterSignalFailureGrace : Duration := .fromMillis 100

/-! ## Shutdown policies -/

/-- `UnixGracefulSignal`. -/
inductive UnixGracefulSignal where
  | interrupt
  | terminate
  deriving DecidableEq, Repr

/-- `UnixGracefulSignal::label`. -/
def UnixGracefulSignal.label : UnixGracefulSignal → String
  | .interrupt => "SIGINT"
  | .terminate => "SIGTERM"

/-- `UnixGracefulPhase`. -/
structure UnixGracefulPhase where
  signal : UnixGracefulSignal
  timeout : Duration
  deriving DecidableEq, Repr

/-- `UnixGracefulShutdown`: its constructors refuse an empty list of phases. -/
structure UnixGracefulShutdown where
  phases : List UnixGracefulPhase
  phases_ne_nil : phases ≠ []

/-- `UnixGracefulShutdown::terminate_only`. -/
def UnixGracefulShutdown.terminateOnly (timeout : Duration) : UnixGracefulShutdown :=
  ⟨[⟨.terminate, timeout⟩], List.cons_ne_nil _ _⟩

/-- `WindowsGracefulShutdown`. -/
structure WindowsGracefulShutdown where
  timeout : Duration
  deriving DecidableEq, Repr

/-- `GracefulShutdown`: the policy of the platform. Other platforms have no graceful shutdown. -/
def GracefulShutdown : Platform → Type
  | .unix => UnixGracefulShutdown
  | .windows => WindowsGracefulShutdown
  | .other => Empty

/-- `UnixGracefulShutdown::total_timeout`. -/
def UnixGracefulShutdown.totalTimeout (sequence : UnixGracefulShutdown) : Checked Duration :=
  Duration.sum (sequence.phases.map UnixGracefulPhase.timeout)

/-- `GracefulShutdown::total_timeout`. -/
def GracefulShutdown.totalTimeout : {platform : Platform} → GracefulShutdown platform →
    Checked Duration
  | .unix, sequence => UnixGracefulShutdown.totalTimeout sequence
  | .windows, sequence => .ok sequence.timeout
  | .other, impossible => impossible.elim

/-- `TerminationStep`. -/
structure TerminationStep where
  signalLabel : String
  timeout : Duration
  deriving DecidableEq, Repr

/-- The steps `terminate_with_hooks` builds from the policy. -/
def GracefulShutdown.steps : {platform : Platform} → GracefulShutdown platform →
    List TerminationStep
  | .unix, sequence => sequence.phases.map fun phase => ⟨phase.signal.label, phase.timeout⟩
  | .windows, sequence => [⟨"CTRL_BREAK_EVENT", sequence.timeout⟩]
  | .other, impossible => impossible.elim

theorem GracefulShutdown.steps_ne_nil {platform : Platform} (shutdown : GracefulShutdown platform) :
    shutdown.steps ≠ [] := by
  cases platform with
  | unix => exact fun empty => shutdown.phases_ne_nil (List.map_eq_nil_iff.mp empty)
  | windows => exact List.cons_ne_nil _ _
  | other => exact shutdown.elim

section Operations

variable {Sink : Side → Type}

/-- `into_termination_failed`. -/
def intoTerminationFailed (diagnostics : TerminationDiagnostics) (processName : String) :
    Operation Sink TerminationError :=
  if diagnostics.attemptErrors = [] then
    Program.panic "into_termination_failed must not be used when no error was recorded!"
  else pure (.terminationFailed processName diagnostics.attemptErrors)

/-- `into_signal_failed`. -/
def intoSignalFailed (diagnostics : TerminationDiagnostics) (processName : String) :
    Operation Sink TerminationError :=
  if diagnostics.attemptErrors = [] then
    Program.panic "into_signal_failed must not be used when no error was recorded!"
  else pure (.signalFailed processName diagnostics.attemptErrors)

/-- Fail with what was recorded. -/
def failTermination {α : Type} (diagnostics : TerminationDiagnostics) :
    Operation Sink (Except TerminationError α) := do
  let name := (← Program.get).name
  return .error (← intoTerminationFailed diagnostics name)

def failSignal {α : Type} (diagnostics : TerminationDiagnostics) :
    Operation Sink (Except TerminationError α) := do
  let name := (← Program.get).name
  return .error (← intoSignalFailed diagnostics name)

/-! ## The escalation -/

/-- `attempt_graceful_phase`: the exit status if the child exits in the phase, and the diagnostics. -/
def attemptGracefulPhase (index : Nat) (signalName : String) (timeout : Duration)
    (diagnostics : TerminationDiagnostics) :
    Operation Sink (Option ExitStatus × TerminationDiagnostics) := do
  match ← sendSignal index signalName with
  | .ok () =>
      match ← waitForExitAfterSignal timeout with
      | .ok (some status) => return (some status, diagnostics)
      | .ok none =>
          return (none, diagnostics.record .waitForExit (.io (waitTimeoutError timeout)))
      | .error waitError => return (none, diagnostics.record .waitForExit (.wait waitError))
  | .error sendError =>
      let diagnostics := diagnostics.record (.sendSignal signalName) (.io sendError)
      match ← waitForExitAfterSignal reapAfterSignalFailureGrace with
      | .ok (some status) => return (some status, diagnostics)
      | .ok none => return (none, diagnostics)
      | .error reapError => return (none, diagnostics.record .checkStatus (.wait reapError))

/-- `attempt_forceful_kill`. -/
def attemptForcefulKill (platform : Platform) (diagnostics : TerminationDiagnostics) :
    Operation Sink (Except TerminationError ExitStatus) := do
  match ← sendKillSignal with
  | .ok () =>
      match ← waitForExitAfterSignal forceKillWaitTimeout with
      | .ok (some status) => return .ok status
      | .ok none =>
          failTermination
            (diagnostics.record .waitForExit (.io (waitTimeoutError forceKillWaitTimeout)))
      | .error error => failTermination (diagnostics.record .waitForExit (.wait error))
  | .error killError =>
      let diagnostics := diagnostics.record (.sendSignal platform.killLabel) (.io killError)
      match ← waitForExitAfterSignal reapAfterSignalFailureGrace with
      | .ok (some status) => return .ok status
      | .ok none => failTermination diagnostics
      | .error reapError => failTermination (diagnostics.record .checkStatus (.wait reapError))

/-- The loop over the steps, from the one with the given index on. -/
def attemptSteps (platform : Platform) : Nat → List TerminationStep → TerminationDiagnostics →
    Operation Sink (Except TerminationError ExitStatus)
  | _, [], diagnostics => attemptForcefulKill platform diagnostics
  | index, step :: rest, diagnostics => do
      match ← attemptGracefulPhase index step.signalLabel step.timeout diagnostics with
      | (some status, _) => return .ok status
      | (none, diagnostics) => attemptSteps platform (index + 1) rest diagnostics

/-- `disarm_after_successful_termination`. -/
def disarmAfterSuccessfulTermination {α : Type} (result : Except TerminationError α) :
    Operation Sink (Except TerminationError α) := do
  match result with
  | .ok value =>
      Program.modify mustNotBeTerminated
      return .ok value
  | .error error => return .error error

/-- The block labelled `'termination`. -/
def terminationBlock (platform : Platform) (steps : List TerminationStep) :
    Operation Sink (Except TerminationError ExitStatus) := do
  match ← tryReapExitStatus with
  | .ok (some status) => return .ok status
  | .ok none => attemptSteps platform 0 steps {}
  | .error error =>
      attemptSteps platform 0 steps (({} : TerminationDiagnostics).record .checkStatus (.io error))

/-- `run_termination_loop`. -/
def runTerminationLoop (platform : Platform) (steps : List TerminationStep) :
    Operation Sink (Except TerminationError ExitStatus) :=
  if steps = [] then Program.panic "run_termination_loop requires at least one graceful step"
  else terminationBlock platform steps >>= disarmAfterSuccessfulTermination

/-! ## The public operations -/

/-- `terminate`. -/
def terminate {platform : Platform} (shutdown : GracefulShutdown platform) :
    Operation Sink (Except TerminationError ExitStatus) :=
  runTerminationLoop platform shutdown.steps

/-- `kill`. -/
def kill (platform : Platform) : Operation Sink (Except TerminationError Unit) := do
  Program.modify closeStdin
  match ← sendKillSignal with
  | .error error =>
      failTermination (({} : TerminationDiagnostics).record (.sendSignal platform.killLabel) (.io error))
  | .ok () =>
      match ← waitForCompletionUnbounded with
      | .error error =>
          failTermination (({} : TerminationDiagnostics).record .waitForExit (.wait error))
      | .ok _ => return .ok ()

/-- `start_kill`. -/
def startKill (platform : Platform) : Operation Sink (Except TerminationError Unit) := do
  Program.modify closeStdin
  match ← sendKillSignal with
  | .ok () =>
      Program.modify mustNotBeTerminated
      return .ok ()
  | .error error =>
      let diagnostics :=
        ({} : TerminationDiagnostics).record (.sendSignal platform.killLabel) (.io error)
      match ← tryReapExitStatus with
      | .ok (some _) =>
          Program.modify mustNotBeTerminated
          return .ok ()
      | .ok none => failTermination diagnostics
      | .error reapError => failTermination (diagnostics.record .checkStatus (.io reapError))

/-- `send_signal_with_reaper`, as `send_interrupt_signal`, `send_terminate_signal` and
`send_ctrl_break_signal` call it. -/
def sendSignalWithReaper (signalName : String) : Operation Sink (Except TerminationError Unit) := do
  match ← tryReapExitStatus with
  | .ok (some _) =>
      Program.modify mustNotBeTerminated
      return .ok ()
  | .ok none =>
      match ← sendSignal 0 signalName with
      | .ok () => return .ok ()
      | .error signalError =>
          let diagnostics :=
            ({} : TerminationDiagnostics).record (.sendSignal signalName) (.io signalError)
          match ← tryReapExitStatus with
          | .ok (some _) =>
              Program.modify mustNotBeTerminated
              return .ok ()
          | .ok none => failSignal diagnostics
          | .error reapError => failSignal (diagnostics.record .checkStatus (.io reapError))
  | .error statusError =>
      failSignal (({} : TerminationDiagnostics).record .checkStatus (.io statusError))

/-- `send_interrupt_signal`. -/
def sendInterruptSignal : Operation Sink (Except TerminationError Unit) :=
  sendSignalWithReaper "SIGINT"

/-- `send_terminate_signal`. -/
def sendTerminateSignal : Operation Sink (Except TerminationError Unit) :=
  sendSignalWithReaper "SIGTERM"

/-- `send_ctrl_break_signal`. -/
def sendCtrlBreakSignal : Operation Sink (Except TerminationError Unit) :=
  sendSignalWithReaper "CTRL_BREAK_EVENT"

/-- `RunningState`. -/
inductive RunningState where
  | running
  | terminated (status : ExitStatus)
  | uncertain (error : IoError)
  deriving DecidableEq, Repr

/-- `is_running`. -/
def isRunning : Operation Sink RunningState := do
  match ← tryReapExitStatus with
  | .ok none => return .running
  | .ok (some status) => return .terminated status
  | .error error => return .uncertain error

/-! ## Waiting or terminating -/

/-- `terminate_after_wait_timeout`. -/
def terminateAfterWaitTimeout {platform : Platform} (waitTimeout : Duration)
    (shutdown : GracefulShutdown platform) :
    Operation Sink (Except WaitOrTerminateError (WaitForCompletionOrTerminateResult ExitStatus)) := do
  let name := (← Program.get).name
  match ← terminate shutdown with
  | .ok status => return .ok (.terminatedAfterTimeout status waitTimeout)
  | .error error => return .error (.terminationAfterTimeoutFailed name waitTimeout error)

/-- `terminate_after_wait_error`. -/
def terminateAfterWaitError {platform : Platform} (waitError : WaitError)
    (shutdown : GracefulShutdown platform) :
    Operation Sink (Except WaitOrTerminateError (WaitForCompletionOrTerminateResult ExitStatus)) := do
  let name := (← Program.get).name
  match ← terminate shutdown with
  | .ok status => return .error (.waitFailed name waitError status)
  | .error error => return .error (.terminationFailed name waitError error)

/-- `wait_for_completion_or_terminate_inner`. -/
def waitForCompletionOrTerminateInner {platform : Platform} (waitTimeout : Duration)
    (shutdown : GracefulShutdown platform) :
    Operation Sink (Except WaitOrTerminateError (WaitForCompletionOrTerminateResult ExitStatus)) := do
  match ← waitForCompletionInner waitTimeout with
  | .ok (.completed status) => return .ok (.completed status)
  | .ok (.timeout timeout) => terminateAfterWaitTimeout timeout shutdown
  | .error waitError => terminateAfterWaitError waitError shutdown

end Operations

end TokioProcessTools.ProcessHandle
