import TokioProcessTools.ProcessHandle.OutputCollection.Collectors

/-!
# The drop safeguard

A spawned handle is armed: dropping it kills the process group and panics. The
safeguard is disarmed by `must_not_be_terminated`, by an exit that a wait, a
termination, a kill or a signal observes, and by a `start_kill` that succeeds;
only `must_be_terminated` arms it again.

An operation is told by the calls it made and by how it ended. Each operation
either observes an exit among its calls and disarms the handle, or leaves the
mode as it was (`Observes`). This is proved once for each part of an operation
(`Tells`), and a run of operations follows by induction
(`dropMode_disarmed_iff`).
-/

set_option autoImplicit false

namespace TokioProcessTools.ProcessHandle

open Foundation OutputStream OutputCollection

/-! ## Runs of operations -/

/-- The operations on a spawned handle that take part in its lifecycle. -/
inductive LifecycleCall (platform : Platform) where
  | waitForCompletion (timeout : Duration)
  | waitForCompletionOrTerminate (timeout : Duration) (shutdown : GracefulShutdown platform)
  | waitForCompletionWithOutput (timeout eofTimeout : Duration)
  | waitForCompletionWithOutputOrTerminate (timeout eofTimeout : Duration)
      (shutdown : GracefulShutdown platform)
  | terminate (shutdown : GracefulShutdown platform)
  | kill
  | startKill
  /-- `send_interrupt_signal`, `send_terminate_signal` and `send_ctrl_break_signal`. -/
  | sendSignal (signalName : String)
  | isRunning
  | mustBeTerminated
  | mustNotBeTerminated

/-- What an operation returned. -/
inductive Outcome where
  | succeeded
  | timedOut
  | failed
  deriving DecidableEq, Repr

/-- A result is a success or a failure. -/
def Outcome.ofResult {ε α : Type} : Except ε α → Outcome
  | .ok _ => .succeeded
  | .error _ => .failed

/-- A wait may also have timed out. -/
def Outcome.ofWait {ε α : Type} : Except ε (WaitForCompletionResult α) → Outcome
  | .ok (.completed _) => .succeeded
  | .ok (.timeout _) => .timedOut
  | .error _ => .failed

/-- An answer that reports an exit. -/
def Event.exits (event : Event) : Bool := event.exit?.isSome

section Calls

variable {Sink : Side → Type} {platform : Platform}

/-- The operation. -/
def LifecycleCall.run : LifecycleCall platform → Operation Sink Outcome
  | .waitForCompletion timeout => do return .ofWait (← waitForCompletionInner timeout)
  | .waitForCompletionOrTerminate timeout shutdown => do
      return .ofResult (← waitForCompletionOrTerminateInner timeout shutdown)
  | .waitForCompletionWithOutput timeout eofTimeout => do
      return .ofWait (← ProcessHandle.waitForCompletionWithOutput timeout eofTimeout)
  | .waitForCompletionWithOutputOrTerminate timeout eofTimeout shutdown => do
      return .ofResult
        (← ProcessHandle.waitForCompletionWithOutputOrTerminate timeout eofTimeout shutdown)
  | .terminate shutdown => do return .ofResult (← ProcessHandle.terminate shutdown)
  | .kill => do return .ofResult (← ProcessHandle.kill platform)
  | .startKill => do return .ofResult (← ProcessHandle.startKill platform)
  | .sendSignal signalName => do return .ofResult (← sendSignalWithReaper signalName)
  | .isRunning => do
      let _ ← ProcessHandle.isRunning
      return .succeeded
  | .mustBeTerminated => do
      Program.modify ProcessHandle.mustBeTerminated
      return .succeeded
  | .mustNotBeTerminated => do
      Program.modify ProcessHandle.mustNotBeTerminated
      return .succeeded

variable (platform) in
/-- An operation of a run: the calls it made, how it ended, and the drop mode before and behind it. -/
structure CallRecord where
  call : LifecycleCall platform
  events : List Event
  fate : Fate Outcome
  before : DropMode
  after : DropMode

/-- Call an operation. -/
def LifecycleCall.record (call : LifecycleCall platform) (system : System Sink)
    (handle : ProcessHandle) : CallRecord platform where
  call := call
  events := (call.run system handle).2.events.drop handle.events.length
  fate := (call.run system handle).1
  before := handle.dropMode
  after := (call.run system handle).2.dropMode

/-- Call operations one after the other. One that is dropped or panics leaves the handle as it is
then. -/
def runCalls (system : System Sink) : ProcessHandle → List (LifecycleCall platform) →
    List (CallRecord platform) × ProcessHandle
  | handle, [] => ([], handle)
  | handle, call :: rest =>
      let later := runCalls system (call.run system handle).2 rest
      (call.record system handle :: later.1, later.2)

/-- A spawned handle: `new_armed_drop_mode`, and nothing called yet. -/
def spawn (name : String) (stdIn : Stdin) (exclusive : Side → Bool) : ProcessHandle where
  name := name
  stdIn := stdIn
  streams side := { exclusive := exclusive side }
  dropMode := .armed true

/-- The operation arms the safeguard. -/
def CallRecord.Arms (record : CallRecord platform) : Prop :=
  match record.call with
  | .mustBeTerminated => True
  | _ => False

/-- The operation closes the lifecycle. -/
def CallRecord.Disarms (record : CallRecord platform) : Prop :=
  match record.call with
  | .mustNotBeTerminated => True
  | .startKill => record.fate = .returned .succeeded
  | .isRunning | .mustBeTerminated => False
  | .waitForCompletion _ | .waitForCompletionOrTerminate _ _ | .waitForCompletionWithOutput _ _
  | .waitForCompletionWithOutputOrTerminate _ _ _ | .terminate _ | .kill | .sendSignal _ =>
      record.events.any Event.exits = true

/-- The ends that leave the mode as it was: timeouts, errors of the operations that end the process,
dropped futures, a graceful signal that was sent, and any look at whether the process runs. -/
def CallRecord.Leaves (record : CallRecord platform) : Prop :=
  match record.call with
  | .isRunning => True
  | .waitForCompletion _ => record.fate = .returned .timedOut ∨ record.fate = .dropped
  | .waitForCompletionOrTerminate _ _ => record.fate = .dropped
  | .waitForCompletionWithOutput _ _ =>
      record.fate = .returned .timedOut ∨
        record.fate = .dropped ∧ record.events.any Event.exits = false
  | .waitForCompletionWithOutputOrTerminate _ _ _ =>
      record.fate = .dropped ∧ record.events.any Event.exits = false
  | .terminate _ | .kill => record.fate = .returned .failed ∨ record.fate = .dropped
  | .startKill => record.fate = .returned .failed
  | .sendSignal _ =>
      record.fate = .returned .failed ∨ ∃ index name, Event.sent index name (.ok ()) ∈ record.events
  | .mustBeTerminated | .mustNotBeTerminated => False

/-! ## What an operation observes -/

/-- The calls between the two handles report an exit or not, and the mode follows. -/
structure Observes (handle : ProcessHandle) (observed : Bool) (after : ProcessHandle) : Prop where
  calls : ∃ events, after.events = handle.events ++ events ∧ events.any Event.exits = observed
  mode : after.dropMode = if observed then .disarmed else handle.dropMode

theorem Observes.trans {first second third : ProcessHandle} {earlier later : Bool}
    (before : Observes first earlier second) (behind : Observes second later third) :
    Observes first (earlier || later) third := by
  obtain ⟨⟨events, appended, seen⟩, mode⟩ := before
  obtain ⟨⟨more, further, seenLater⟩, modeLater⟩ := behind
  refine ⟨⟨events ++ more, ?_, ?_⟩, ?_⟩
  · rw [further, appended, List.append_assoc]
  · rw [List.any_append, seen, seenLater]
  · rw [modeLater, mode]
    cases earlier <;> cases later <;> rfl

/-- Nothing is called, and the mode stays. -/
theorem Observes.none {handle after : ProcessHandle} (calls : after.events = handle.events)
    (mode : after.dropMode = handle.dropMode) : Observes handle false after :=
  ⟨⟨[], calls.trans (List.append_nil _).symm, rfl⟩, mode⟩

/-- One call that reports no exit. -/
theorem Observes.silent {handle after : ProcessHandle} {event : Event} (silent : event.exits = false)
    (calls : after.events = handle.events ++ [event]) (mode : after.dropMode = handle.dropMode) :
    Observes handle false after :=
  ⟨⟨[event], calls, by rw [List.any_cons, silent]; rfl⟩, mode⟩

/-- What the operation observes is reported by how it ends. -/
def Tells {α : Type} (operation : Operation Sink α) (report : Fate α → Bool → Prop) : Prop :=
  ∀ system handle, ∃ observed, Observes handle observed (operation system handle).2 ∧
    report (operation system handle).1 observed

/-- An exit is observed exactly if the operation returns a value that says so. -/
def Sees {α : Type} (seen : α → Bool) : Fate α → Bool → Prop
  | .returned value, observed => observed = seen value
  | .dropped, observed => observed = false
  | .panicked _, observed => observed = false

namespace Tells

variable {α β : Type} {report : Fate α → Bool → Prop} {result : Fate β → Bool → Prop}

theorem mono {weaker : Fate α → Bool → Prop} {operation : Operation Sink α}
    (tells : Tells operation report) (implied : ∀ fate observed, report fate observed →
      weaker fate observed) : Tells operation weaker := by
  intro system handle
  obtain ⟨observed, observes, reported⟩ := tells system handle
  exact ⟨observed, observes, implied _ _ reported⟩

theorem pure {value : α} (reported : report (.returned value) false) :
    Tells (Pure.pure value : Operation Sink α) report :=
  fun _ _ => ⟨false, .none rfl rfl, reported⟩

/-- **The rule of sequences**: what the first part has observed is added to what the second one
observes. -/
theorem bind {operation : Operation Sink α} {next : α → Operation Sink β}
    (before : Tells operation report)
    (dropped : ∀ observed, report .dropped observed → result .dropped observed)
    (panicked : ∀ message observed, report (.panicked message) observed →
      result (.panicked message) observed)
    (behind : ∀ value observed, report (.returned value) observed →
      Tells (next value) fun fate later => result fate (observed || later)) :
    Tells (operation >>= next) result := by
  intro system handle
  obtain ⟨observed, observes, reported⟩ := before system handle
  rw [Program.bind_run]
  cases run : operation system handle with
  | mk fate middle =>
      rw [run] at observes reported
      cases fate with
      | returned value =>
          obtain ⟨later, observesLater, told⟩ := behind value observed reported system middle
          exact ⟨observed || later, observes.trans observesLater, told⟩
      | dropped => exact ⟨observed, observes, dropped observed reported⟩
      | panicked message => exact ⟨observed, observes, panicked message observed reported⟩

theorem get_bind {next : ProcessHandle → Operation Sink β}
    (behind : ∀ handle, Tells (next handle) result) : Tells (Program.get >>= next) result :=
  fun system handle => behind handle system handle

/-- Behind an exit nothing is called any more; otherwise the second part decides. -/
theorem bind_sees {seen : α → Bool} {seenLater : β → Bool} {operation : Operation Sink α}
    {next : α → Operation Sink β} (before : Tells operation (Sees seen))
    (quiet : ∀ value, seen value = false → Tells (next value) (Sees seenLater))
    (ended : ∀ value, seen value = true → ∃ last, next value = Pure.pure last ∧
      seenLater last = true) :
    Tells (operation >>= next) (Sees seenLater) := by
  refine before.bind (fun _ reported => reported) (fun _ _ reported => reported) ?_
  rintro value observed rfl
  cases exit : seen value with
  | false => simpa only [Bool.false_or] using quiet value exit
  | true =>
      obtain ⟨last, returns, seenLast⟩ := ended value exit
      rw [returns]
      exact .pure seenLast.symm

theorem onInterrupt {operation : Operation Sink α} {cleanup : ProcessHandle → ProcessHandle}
    (before : Tells operation report) (quiet : ∀ handle, Observes handle false (cleanup handle)) :
    Tells (operation.onInterrupt cleanup) report := by
  intro system handle
  obtain ⟨observed, observes, reported⟩ := before system handle
  unfold Program.onInterrupt
  cases run : operation system handle with
  | mk fate later =>
      rw [run] at observes reported
      have cleaned := observes.trans (quiet later)
      rw [Bool.or_false] at cleaned
      cases fate with
      | returned value => exact ⟨observed, observes, reported⟩
      | dropped => exact ⟨observed, cleaned, reported⟩
      | panicked message => exact ⟨observed, cleaned, reported⟩

end Tells

/-! ## Waits and signals -/

/-- The operation observes no exit. -/
def Quiet {α : Type} (operation : Operation Sink α) : Prop :=
  Tells operation fun _ observed => observed = false

theorem Quiet.of_observes {α : Type} {operation : Operation Sink α}
    (observes : ∀ system handle, Observes handle false (operation system handle).2) :
    Quiet operation :=
  fun system handle => ⟨false, observes system handle, rfl⟩

theorem Quiet.bind {α β : Type} {operation : Operation Sink α} {next : α → Operation Sink β}
    (before : Quiet operation) (behind : ∀ value, Quiet (next value)) :
    Quiet (operation >>= next) := by
  refine Tells.bind before (fun _ none => none) (fun _ _ none => none) ?_
  rintro value observed rfl
  exact (behind value).mono fun _ later none => (Bool.false_or later).trans none

theorem wait_tells (bound : Option Duration) :
    Tells (wait bound : Operation Sink _) (Sees fun
      | some (.ok _) => true
      | _ => false) := by
  intro system handle
  unfold wait
  dsimp only
  cases reply : system.wait handle.closeStdin.events bound with
  | exited status => exact ⟨true, ⟨⟨[_], rfl, rfl⟩, rfl⟩, rfl⟩
  | failed error => exact ⟨false, .silent rfl rfl rfl, rfl⟩
  | elapsed => cases bound <;> exact ⟨false, .silent rfl rfl rfl, rfl⟩
  | dropped => exact ⟨false, .silent rfl rfl rfl, rfl⟩

theorem waitForCompletionInner_tells (timeout : Duration) :
    Tells (waitForCompletionInner timeout : Operation Sink _) (Sees fun
      | .ok (.completed _) => true
      | _ => false) := by
  refine .get_bind fun handle => (wait_tells _).bind_sees ?_ ?_
  · rintro (_ | error | status) seen
    · exact .pure rfl
    · exact .pure rfl
    · exact Bool.noConfusion seen
  · rintro (_ | error | status) seen
    · exact Bool.noConfusion seen
    · exact Bool.noConfusion seen
    · exact ⟨_, rfl, rfl⟩

theorem waitForCompletionUnbounded_tells :
    Tells (waitForCompletionUnbounded : Operation Sink _) (Sees Except.isOk) := by
  refine .get_bind fun handle => (wait_tells none).bind_sees ?_ ?_
  · rintro (_ | error | status) seen
    · exact fun _ _ => ⟨false, .none rfl rfl, rfl⟩
    · exact .pure rfl
    · exact Bool.noConfusion seen
  · rintro (_ | error | status) seen
    · exact Bool.noConfusion seen
    · exact Bool.noConfusion seen
    · exact ⟨_, rfl, rfl⟩

theorem waitForExitAfterSignal_tells (timeout : Duration) :
    Tells (waitForExitAfterSignal timeout : Operation Sink _) (Sees fun
      | .ok (some _) => true
      | _ => false) := by
  refine (waitForCompletionInner_tells timeout).bind_sees ?_ ?_
  · rintro (error | status | elapsed) seen
    · exact .pure rfl
    · exact Bool.noConfusion seen
    · exact .pure rfl
  · rintro (error | status | elapsed) seen
    · exact Bool.noConfusion seen
    · exact ⟨_, rfl, rfl⟩
    · exact Bool.noConfusion seen

/-- A part that observes nothing, and what goes on behind it. -/
theorem Tells.quiet_bind {α β : Type} {operation : Operation Sink α} {seen : β → Bool}
    {next : α → Operation Sink β}
    (quiet : Quiet operation) (behind : ∀ value, Tells (next value) (Sees seen)) :
    Tells (operation >>= next) (Sees seen) := by
  refine Tells.bind quiet (fun _ reported => reported) (fun _ _ reported => reported) ?_
  rintro value observed rfl
  simpa only [Bool.false_or] using behind value

theorem sendSignal_quiet (index : Nat) (signalName : String) :
    Quiet (sendSignal index signalName : Operation Sink _) :=
  .of_observes fun _ _ => .silent rfl rfl rfl

theorem sendKillSignal_quiet : Quiet (sendKillSignal : Operation Sink _) :=
  .of_observes fun _ _ => .silent rfl rfl rfl

theorem failTermination_tells {α : Type} (diagnostics : TerminationDiagnostics) :
    Tells (failTermination diagnostics : Operation Sink (Except TerminationError α))
      (Sees Except.isOk) := by
  refine .get_bind fun handle => .quiet_bind (.of_observes fun system state => ?_) fun error => .pure rfl
  unfold intoTerminationFailed
  split <;> exact .none rfl rfl

/-- A wait behind a signal: an exit ends the operation. -/
theorem Tells.afterSignal {β : Type} {seen : β → Bool} {timeout : Duration}
    {next : Except WaitError (Option ExitStatus) → Operation Sink β}
    (failed : ∀ error, Tells (next (.error error)) (Sees seen))
    (elapsed : Tells (next (.ok none)) (Sees seen))
    (exited : ∀ status, ∃ last, next (.ok (some status)) = Pure.pure last ∧ seen last = true) :
    Tells (waitForExitAfterSignal timeout >>= next) (Sees seen) := by
  refine (waitForExitAfterSignal_tells timeout).bind_sees ?_ ?_
  · rintro (error | _ | status) none
    · exact failed error
    · exact elapsed
    · exact Bool.noConfusion none
  · rintro (error | _ | status) exit
    · exact Bool.noConfusion exit
    · exact Bool.noConfusion exit
    · exact exited status

theorem attemptGracefulPhase_tells (index : Nat) (signalName : String) (timeout : Duration)
    (diagnostics : TerminationDiagnostics) :
    Tells (attemptGracefulPhase index signalName timeout diagnostics : Operation Sink _)
      (Sees fun ended => ended.1.isSome) := by
  refine .quiet_bind (sendSignal_quiet index signalName) fun sendReply => ?_
  cases sendReply with
  | ok sent => exact .afterSignal (fun _ => .pure rfl) (.pure rfl) fun _ => ⟨_, rfl, rfl⟩
  | error sendError => exact .afterSignal (fun _ => .pure rfl) (.pure rfl) fun _ => ⟨_, rfl, rfl⟩

theorem attemptForcefulKill_tells (diagnostics : TerminationDiagnostics) :
    Tells (attemptForcefulKill platform diagnostics : Operation Sink _) (Sees Except.isOk) := by
  refine .quiet_bind sendKillSignal_quiet fun killReply => ?_
  cases killReply with
  | ok killed =>
      exact .afterSignal (fun _ => failTermination_tells _) (failTermination_tells _)
        fun _ => ⟨_, rfl, rfl⟩
  | error killError =>
      exact .afterSignal (fun _ => failTermination_tells _) (failTermination_tells _)
        fun _ => ⟨_, rfl, rfl⟩

theorem attemptSteps_tells (index : Nat) (steps : List TerminationStep)
    (diagnostics : TerminationDiagnostics) :
    Tells (attemptSteps platform index steps diagnostics : Operation Sink _) (Sees Except.isOk) := by
  induction steps generalizing index diagnostics with
  | nil => exact attemptForcefulKill_tells diagnostics
  | cons step rest ih =>
      refine (attemptGracefulPhase_tells index _ _ diagnostics).bind_sees ?_ ?_
      · rintro ⟨_ | status, later⟩ seen
        · exact ih (index + 1) later
        · exact Bool.noConfusion seen
      · rintro ⟨_ | status, later⟩ seen
        · exact Bool.noConfusion seen
        · exact ⟨_, rfl, rfl⟩

/-! ## The operations -/

/-- An exit among the calls, and the disarming that follows it. -/
theorem Observes.exit {handle later : ProcessHandle}
    (calls : ∃ events, later.events = handle.events ++ events ∧ events.any Event.exits = true) :
    Observes handle true later.mustNotBeTerminated :=
  ⟨calls, rfl⟩

/-- The steps of a termination, and the disarming behind them. -/
theorem attemptSteps_disarm_tells (steps : List TerminationStep)
    (diagnostics : TerminationDiagnostics) :
    Tells (attemptSteps platform 0 steps diagnostics >>= disarmAfterSuccessfulTermination :
      Operation Sink _) (Sees Except.isOk) := by
  intro system handle
  obtain ⟨observed, observes, reported⟩ :=
    @attemptSteps_tells Sink platform 0 steps diagnostics system handle
  rw [Program.bind_run]
  cases run : attemptSteps platform 0 steps diagnostics system handle with
  | mk fate later =>
      rw [run] at observes reported
      cases fate with
      | returned result =>
          cases result with
          | error error => exact ⟨observed, observes, reported⟩
          | ok status =>
              cases reported
              exact ⟨true, .exit observes.calls, rfl⟩
      | dropped => exact ⟨observed, observes, reported⟩
      | panicked message => exact ⟨observed, observes, reported⟩

/-- A probe: an exit it reports ends the operation and disarms the handle. -/
theorem Tells.probe_bind {β : Type} {seen : β → Bool}
    {next : Except IoError (Option ExitStatus) → Operation Sink β}
    (failed : ∀ error, Tells (next (.error error)) (Sees seen))
    (running : Tells (next (.ok none)) (Sees seen))
    (exited : ∀ status system handle, ∃ last,
      next (.ok (some status)) system handle = (.returned last, handle.mustNotBeTerminated) ∧
        seen last = true) :
    Tells (tryReapExitStatus >>= next) (Sees seen) := by
  have silent : ∀ reply, (Event.probed reply).exits = false → Tells (next reply) (Sees seen) →
      ∀ system handle, system.probe handle.events = reply → ∃ observed,
        Observes handle observed ((tryReapExitStatus >>= next) system handle).2 ∧
          Sees seen ((tryReapExitStatus >>= next) system handle).1 observed := by
    intro reply silent tells system handle probe
    subst probe
    obtain ⟨observed, observes, reported⟩ := tells system (handle.note _)
    have probed : Observes handle false (handle.note (.probed (system.probe handle.events))) :=
      .silent silent rfl rfl
    have both := probed.trans observes
    rw [Bool.false_or] at both
    exact ⟨observed, both, reported⟩
  intro system handle
  cases probe : system.probe handle.events with
  | error error => exact silent _ rfl (failed error) system handle probe
  | ok found =>
      cases found with
      | none => exact silent _ rfl running system handle probe
      | some status =>
          obtain ⟨last, ended, seenLast⟩ :=
            exited status system (handle.note (.probed (.ok (some status))))
          have run : (tryReapExitStatus >>= next) system handle =
              (.returned last, (handle.note (.probed (.ok (some status)))).mustNotBeTerminated) := by
            rw [← ended, Program.bind_run, tryReapExitStatus, probe, Program.andThen_returned]
          rw [run]
          exact ⟨true, .exit ⟨[_], rfl, rfl⟩, seenLast.symm⟩

/-- **A termination observes an exit exactly if it succeeds.** -/
theorem terminate_tells (shutdown : GracefulShutdown platform) :
    Tells (terminate shutdown : Operation Sink _) (Sees Except.isOk) := by
  unfold terminate runTerminationLoop
  rw [if_neg shutdown.steps_ne_nil, terminationBlock, Program.bind_assoc]
  exact .probe_bind (fun _ => attemptSteps_disarm_tells _ _) (attemptSteps_disarm_tells _ _)
    fun status _ _ => ⟨.ok status, rfl, rfl⟩

theorem kill_tells : Tells (kill platform : Operation Sink _) (Sees Except.isOk) := by
  refine .quiet_bind (.of_observes fun _ _ => .none rfl rfl) fun _ => ?_
  refine .quiet_bind sendKillSignal_quiet fun killReply => ?_
  cases killReply with
  | error error => exact failTermination_tells _
  | ok killed =>
      refine waitForCompletionUnbounded_tells.bind_sees ?_ ?_
      · rintro (error | status) none
        · exact failTermination_tells _
        · exact Bool.noConfusion none
      · rintro (error | status) exit
        · exact Bool.noConfusion exit
        · exact ⟨_, rfl, rfl⟩

/-- The results of a wait with a termination behind an exit. -/
def exitReported {ε : Type} (waitFailed : ε → Bool) :
    Except ε (WaitForCompletionOrTerminateResult ExitStatus) → Bool
  | .ok _ => true
  | .error error => waitFailed error

/-- The error that is returned for a failed wait when the termination has succeeded. -/
def isWaitFailed : WaitOrTerminateError → Bool
  | .waitFailed _ _ _ => true
  | _ => false

theorem waitForCompletionOrTerminateInner_tells (timeout : Duration)
    (shutdown : GracefulShutdown platform) :
    Tells (waitForCompletionOrTerminateInner timeout shutdown : Operation Sink _)
      (Sees (exitReported isWaitFailed)) := by
  refine (waitForCompletionInner_tells timeout).bind_sees ?_ ?_
  · rintro (waitError | status | elapsed) none
    · refine .get_bind fun handle => (terminate_tells shutdown).bind_sees ?_ ?_
      · rintro (error | status) none
        · exact .pure rfl
        · exact Bool.noConfusion none
      · rintro (error | status) exit
        · exact Bool.noConfusion exit
        · exact ⟨_, rfl, rfl⟩
    · exact Bool.noConfusion none
    · refine .get_bind fun handle => (terminate_tells shutdown).bind_sees ?_ ?_
      · rintro (error | status) none
        · exact .pure rfl
        · exact Bool.noConfusion none
      · rintro (error | status) exit
        · exact Bool.noConfusion exit
        · exact ⟨_, rfl, rfl⟩
  · rintro (waitError | status | elapsed) exit
    · exact Bool.noConfusion exit
    · exact ⟨_, rfl, rfl⟩
    · exact Bool.noConfusion exit

/-! ## Output collection -/

theorem trySpawnOutputCollectors_quiet : Quiet (trySpawnOutputCollectors : Operation Sink _) := by
  have spawn_quiet : ∀ side, Quiet (spawnCollector side : Operation Sink _) := by
    refine fun side => .of_observes fun system handle => ?_
    dsimp only [spawnCollector]
    split <;> exact .none rfl rfl
  refine .bind (.of_observes fun _ _ => .none rfl rfl) fun _ => .get_bind fun handle => ?_
  refine (spawn_quiet .stdout).bind fun stdout => ?_
  cases stdout with
  | error source => exact .pure rfl
  | ok _ =>
      refine (spawn_quiet .stderr).bind fun stderr => ?_
      cases stderr with
      | ok _ => exact .pure rfl
      | error source => exact .bind (.of_observes fun _ _ => .none rfl rfl) fun _ => .pure rfl

theorem waitForOutputConsumers_quiet : Quiet (waitForOutputConsumers : Operation Sink _) := by
  refine .of_observes fun system handle => ?_
  dsimp only [waitForOutputConsumers]
  split <;> exact .none rfl rfl

theorem dropCollectors_observes (handle : ProcessHandle) :
    Observes handle false handle.dropCollectors := .none rfl rfl

/-- A wait with output collection that times out has observed no exit. -/
theorem waitForCompletionWithOutput_tells (timeout eofTimeout : Duration) :
    Tells (waitForCompletionWithOutput timeout eofTimeout : Operation Sink _) fun fate observed =>
      ∀ elapsed, fate = .returned (.ok (.timeout elapsed)) → observed = false := by
  refine Tells.bind trySpawnOutputCollectors_quiet (fun _ none _ _ => none)
    (fun _ _ none _ _ => none) ?_
  rintro (error | _) observed rfl
  · exact .pure fun _ _ => rfl
  refine .get_bind fun handle => ((waitForCompletionInner_tells timeout).onInterrupt
    dropCollectors_observes).bind (fun _ none _ _ => none) (fun _ _ none _ _ => none) ?_
  rintro (error | status | elapsed) observed rfl
  · exact (Quiet.of_observes fun _ handle => dropCollectors_observes handle).mono
      fun _ _ none _ _ => none
  · refine Tells.bind waitForOutputConsumers_quiet (fun _ _ _ ended => by cases ended)
      (fun _ _ _ _ ended => by cases ended) ?_
    rintro (error | sinks) observed rfl
    · exact .pure fun _ ended => by cases ended
    · exact .pure fun _ ended => by cases ended
  · exact (Quiet.bind (.of_observes fun _ _ => .none rfl rfl) fun _ => .pure rfl).mono
      fun _ _ none _ _ => none

theorem waitForCompletionWithOutputOrTerminate_tells (timeout eofTimeout : Duration)
    (shutdown : GracefulShutdown platform) :
    Tells (waitForCompletionWithOutputOrTerminate timeout eofTimeout shutdown : Operation Sink _)
      fun _ _ => True := by
  refine Tells.bind trySpawnOutputCollectors_quiet (fun _ _ => trivial) (fun _ _ _ => trivial) ?_
  rintro (error | _) observed -
  · exact .pure trivial
  refine .get_bind fun handle => ((waitForCompletionOrTerminateInner_tells timeout shutdown).onInterrupt
    dropCollectors_observes).bind (fun _ _ => trivial) (fun _ _ _ => trivial) ?_
  rintro (error | outcome) observed -
  · exact (Quiet.of_observes fun _ handle => dropCollectors_observes handle).mono
      fun _ _ _ => trivial
  · refine Tells.bind waitForOutputConsumers_quiet (fun _ _ => trivial) (fun _ _ _ => trivial) ?_
    rintro (error | sinks) observed - <;> exact .pure trivial

/-! ## One operation of a run -/

/-- The mode behind the operation follows the rule. -/
structure CallRecord.Follows (record : CallRecord platform) : Prop where
  arms : record.Arms → record.after = .armed true
  disarms : record.Disarms → record.after = .disarmed
  keeps : ¬ record.Arms → ¬ record.Disarms → record.after = record.before
  leaves : record.Leaves → record.after = record.before

/-- An operation whose mode follows the exits among its calls. -/
theorem CallRecord.Follows.of_exits {record : CallRecord platform} (never : ¬ record.Arms)
    (disarms_iff : record.Disarms ↔ record.events.any Event.exits = true)
    (mode : record.after = if record.events.any Event.exits then .disarmed else record.before)
    (leaves : record.Leaves → record.events.any Event.exits = false) : record.Follows where
  arms arms := absurd arms never
  disarms disarms := by rw [mode, disarms_iff.mp disarms, if_pos rfl]
  keeps _ keeps := by rw [mode, if_neg fun exits => keeps (disarms_iff.mpr exits)]
  leaves left := by rw [mode, leaves left, if_neg Bool.false_ne_true]

variable (system : System Sink) (handle : ProcessHandle)

/-- The record of an operation, from what the operation tells. -/
theorem LifecycleCall.record_observes {call : LifecycleCall platform}
    {report : Fate Outcome → Bool → Prop} (tells : Tells (call.run : Operation Sink _) report) :
    report (call.record system handle).fate ((call.record system handle).events.any Event.exits) ∧
      (call.record system handle).after =
        if (call.record system handle).events.any Event.exits then .disarmed
        else (call.record system handle).before := by
  obtain ⟨observed, ⟨⟨events, appended, seen⟩, mode⟩, reported⟩ := tells system handle
  have made : (call.record system handle).events = events := by
    simp only [LifecycleCall.record, appended, List.drop_left]
  rw [made, seen]
  exact ⟨reported, mode⟩

/-- An operation of which only the outcome is kept. -/
theorem Tells.outcome {α : Type} {operation : Operation Sink α} {report : Fate α → Bool → Prop}
    {result : Fate Outcome → Bool → Prop} {outcome : α → Outcome} (tells : Tells operation report)
    (dropped : ∀ observed, report .dropped observed → result .dropped observed)
    (panicked : ∀ message observed, report (.panicked message) observed →
      result (.panicked message) observed)
    (returned : ∀ value observed, report (.returned value) observed →
      result (.returned (outcome value)) observed) :
    Tells (do return outcome (← operation)) result := by
  refine tells.bind dropped panicked fun value observed reported => .pure ?_
  rw [Bool.or_false]
  exact returned value observed reported

theorem waitForCompletion_follows (timeout : Duration) :
    ((LifecycleCall.waitForCompletion timeout : LifecycleCall platform).record system
      handle).Follows := by
  have tells : Tells ((LifecycleCall.waitForCompletion timeout : LifecycleCall platform).run :
      Operation Sink _) fun fate observed =>
        fate = .returned .timedOut ∨ fate = .dropped → observed = false := by
    refine (waitForCompletionInner_tells timeout).outcome (fun _ none _ => none)
      (fun _ _ none _ => none) ?_
    rintro (error | status | elapsed) observed rfl left
    · rfl
    · rcases left with ended | ended <;> cases ended
    · rfl
  obtain ⟨none, mode⟩ := LifecycleCall.record_observes system handle tells
  exact .of_exits id Iff.rfl mode none

theorem waitForCompletionOrTerminate_follows (timeout : Duration)
    (shutdown : GracefulShutdown platform) :
    ((LifecycleCall.waitForCompletionOrTerminate timeout shutdown).record system
      handle).Follows := by
  have tells : Tells ((LifecycleCall.waitForCompletionOrTerminate timeout shutdown).run :
      Operation Sink _) fun fate observed => fate = .dropped → observed = false := by
    refine (waitForCompletionOrTerminateInner_tells timeout shutdown).outcome (fun _ none _ => none)
      (fun _ _ none _ => none) fun _ _ _ left => ?_
    cases left
  obtain ⟨none, mode⟩ := LifecycleCall.record_observes system handle tells
  exact .of_exits id Iff.rfl mode none

theorem waitForCompletionWithOutput_follows (timeout eofTimeout : Duration) :
    ((LifecycleCall.waitForCompletionWithOutput timeout eofTimeout : LifecycleCall platform).record
      system handle).Follows := by
  have tells : Tells ((LifecycleCall.waitForCompletionWithOutput timeout eofTimeout :
      LifecycleCall platform).run : Operation Sink _) fun fate observed =>
        fate = .returned .timedOut → observed = false := by
    refine (waitForCompletionWithOutput_tells timeout eofTimeout).outcome
      (fun _ _ left => by cases left) (fun _ _ _ left => by cases left) ?_
    rintro (error | status | elapsed) observed none left
    · cases left
    · cases left
    · exact none elapsed rfl
  obtain ⟨none, mode⟩ := LifecycleCall.record_observes system handle tells
  refine .of_exits id Iff.rfl mode ?_
  rintro (timedOut | ⟨-, silent⟩)
  · exact none timedOut
  · exact silent

theorem waitForCompletionWithOutputOrTerminate_follows (timeout eofTimeout : Duration)
    (shutdown : GracefulShutdown platform) :
    ((LifecycleCall.waitForCompletionWithOutputOrTerminate timeout eofTimeout shutdown).record
      system handle).Follows := by
  have tells : Tells ((LifecycleCall.waitForCompletionWithOutputOrTerminate timeout eofTimeout
      shutdown).run : Operation Sink _) fun _ _ => True :=
    (waitForCompletionWithOutputOrTerminate_tells timeout eofTimeout shutdown).outcome
      (fun _ _ => trivial) (fun _ _ _ => trivial) fun _ _ _ => trivial
  obtain ⟨-, mode⟩ := LifecycleCall.record_observes system handle tells
  exact .of_exits id Iff.rfl mode And.right

/-- A result that is a success exactly behind an exit. -/
theorem Tells.result {ε α : Type} {operation : Operation Sink (Except ε α)}
    (tells : Tells operation (Sees Except.isOk)) :
    Tells (do return Outcome.ofResult (← operation)) fun fate observed =>
      fate = .returned .failed ∨ fate = .dropped → observed = false := by
  refine tells.outcome (fun _ none _ => none) (fun _ _ none _ => none) ?_
  rintro (error | value) observed rfl left
  · rfl
  · rcases left with ended | ended <;> cases ended

theorem terminate_follows (shutdown : GracefulShutdown platform) :
    ((LifecycleCall.terminate shutdown).record system handle).Follows := by
  obtain ⟨none, mode⟩ := @LifecycleCall.record_observes Sink platform system handle
    (.terminate shutdown) _ (terminate_tells shutdown).result
  exact .of_exits id Iff.rfl mode none

theorem kill_follows :
    ((LifecycleCall.kill : LifecycleCall platform).record system handle).Follows := by
  obtain ⟨none, mode⟩ := @LifecycleCall.record_observes Sink platform system handle .kill _
    kill_tells.result
  exact .of_exits id Iff.rfl mode none

theorem isRunning_follows :
    ((LifecycleCall.isRunning : LifecycleCall platform).record system handle).Follows := by
  have mode : ((LifecycleCall.isRunning : LifecycleCall platform).record system handle).after =
      handle.dropMode := by
    simp only [LifecycleCall.record, LifecycleCall.run, isRunning, Program.bind_run,
      tryReapExitStatus, Program.andThen_returned]
    rcases system.probe handle.events with error | _ | status <;> rfl
  exact ⟨False.elim, False.elim, fun _ _ => mode, fun _ => mode⟩

theorem mustBeTerminated_follows :
    ((LifecycleCall.mustBeTerminated : LifecycleCall platform).record system handle).Follows := by
  have mode : handle.mustBeTerminated.dropMode = .armed true := by
    unfold mustBeTerminated
    split
    case h_1 armed => exact armed
    case h_2 => rfl
  exact ⟨fun _ => mode, False.elim, fun never => absurd trivial never, False.elim⟩

theorem mustNotBeTerminated_follows :
    ((LifecycleCall.mustNotBeTerminated : LifecycleCall platform).record system handle).Follows :=
  ⟨False.elim, fun _ => rfl, fun _ never => absurd trivial never, False.elim⟩

/-- `start_kill` disarms the handle exactly if it succeeds. -/
theorem startKill_ends :
    (startKill platform system handle).1 = .returned (.ok ()) ∧
        (startKill platform system handle).2.dropMode = .disarmed ∨
      (∃ error, (startKill platform system handle).1 = .returned (.error error)) ∧
        (startKill platform system handle).2.dropMode = handle.dropMode := by
  cases killed : system.kill handle.events with
  | ok sent => simp [startKill, sendKillSignal, killed]
  | error error =>
      rcases probe : system.probe (handle.events ++ [.killed (.error error)]) with
        reapError | _ | status <;>
      simp [startKill, sendKillSignal, tryReapExitStatus, killed, probe, failTermination,
        intoTerminationFailed, TerminationDiagnostics.record]

theorem startKill_follows :
    ((LifecycleCall.startKill : LifecycleCall platform).record system handle).Follows := by
  have run : (LifecycleCall.startKill : LifecycleCall platform).run system handle =
      Program.andThen (startKill platform system handle) fun result later =>
        (.returned (Outcome.ofResult result), later) := rfl
  rcases @startKill_ends Sink platform system handle with
    ⟨succeeded, disarmed⟩ | ⟨⟨error, failed⟩, unchanged⟩
  · rw [Program.andThen_of_returned succeeded] at run
    have fate := congrArg Prod.fst run
    have mode := (congrArg (fun ended => ended.2.dropMode) run).trans disarmed
    refine ⟨False.elim, fun _ => mode, fun _ never => absurd fate never, fun failed => ?_⟩
    have impossible : Fate.returned Outcome.succeeded = .returned .failed := fate.symm.trans failed
    cases impossible
  · rw [Program.andThen_of_returned failed] at run
    have fate := congrArg Prod.fst run
    have mode := (congrArg (fun ended => ended.2.dropMode) run).trans unchanged
    refine ⟨False.elim, fun succeeded => ?_, fun _ _ => mode, fun _ => mode⟩
    have impossible : Fate.returned Outcome.failed = .returned .succeeded :=
      fate.symm.trans succeeded
    cases impossible

/-- How a `send_*_signal` ends: an exit among its calls disarms the handle; such a call has not sent
the signal, and has not failed. -/
theorem sendSignalWithReaper_observes (signalName : String) :
    ∃ events, (sendSignalWithReaper signalName system handle).2.events = handle.events ++ events ∧
      (sendSignalWithReaper signalName system handle).2.dropMode =
        (if events.any Event.exits then .disarmed else handle.dropMode) ∧
      (events.any Event.exits = true →
        (sendSignalWithReaper signalName system handle).1 = .returned (.ok ()) ∧
          ∀ index name, Event.sent index name (.ok ()) ∉ events) := by
  cases probe : system.probe handle.events with
  | error error =>
      refine ⟨[.probed (.error error)], ?_⟩
      simp [sendSignalWithReaper, tryReapExitStatus, probe, failSignal, intoSignalFailed,
        TerminationDiagnostics.record, Event.exits, Event.exit?]
  | ok found =>
      cases found with
      | some status =>
          refine ⟨[.probed (.ok (some status))], ?_⟩
          simp [sendSignalWithReaper, tryReapExitStatus, probe, Event.exits, Event.exit?]
      | none =>
          cases sent : system.send (handle.events ++ [.probed (.ok none)]) 0 signalName with
          | ok _ =>
              refine ⟨[.probed (.ok none), .sent 0 signalName (.ok ())], ?_⟩
              simp [sendSignalWithReaper, tryReapExitStatus, sendSignal, probe, sent, Event.exits,
                Event.exit?]
          | error signalError =>
              cases again : system.probe (handle.events ++
                [.probed (.ok none), .sent 0 signalName (.error signalError)]) with
              | error reapError =>
                  refine ⟨[.probed (.ok none), .sent 0 signalName (.error signalError),
                    .probed (.error reapError)], ?_⟩
                  simp [sendSignalWithReaper, tryReapExitStatus, sendSignal, probe, sent, again,
                    failSignal, intoSignalFailed, TerminationDiagnostics.record, Event.exits,
                    Event.exit?]
              | ok status =>
                  refine ⟨[.probed (.ok none), .sent 0 signalName (.error signalError),
                    .probed (.ok status)], ?_⟩
                  cases status <;>
                  simp [sendSignalWithReaper, tryReapExitStatus, sendSignal, probe, sent, again,
                    failSignal, intoSignalFailed, TerminationDiagnostics.record, Event.exits,
                    Event.exit?]

theorem sendSignal_follows (signalName : String) :
    ((LifecycleCall.sendSignal signalName : LifecycleCall platform).record system
      handle).Follows := by
  have run : (LifecycleCall.sendSignal signalName : LifecycleCall platform).run system handle =
      Program.andThen (sendSignalWithReaper signalName system handle) fun result later =>
        (.returned (Outcome.ofResult result), later) := rfl
  obtain ⟨events, appended, mode, exit⟩ := sendSignalWithReaper_observes system handle signalName
  have state : ((LifecycleCall.sendSignal signalName : LifecycleCall platform).run system
      handle).2 = (sendSignalWithReaper signalName system handle).2 := by
    rw [run]
    rcases sendSignalWithReaper signalName system handle with ⟨_ | _ | _, later⟩ <;> rfl
  have made : ((LifecycleCall.sendSignal signalName : LifecycleCall platform).record system
      handle).events = events := by
    simp only [LifecycleCall.record, state, appended, List.drop_left]
  refine .of_exits id Iff.rfl ?_ ?_
  · rw [made]
    exact (congrArg dropMode state).trans mode
  · rw [made]
    intro left
    by_contra exits
    obtain ⟨succeeded, unsent⟩ := exit (Bool.not_eq_false _ |>.mp exits)
    rcases left with failed | ⟨index, name, sent⟩
    · have fate : ((LifecycleCall.sendSignal signalName : LifecycleCall platform).run system
          handle).1 = .returned .succeeded := by
        rw [run, Program.andThen_of_returned succeeded]
        rfl
      have impossible := fate.symm.trans failed
      cases impossible
    · exact unsent index name (made ▸ sent)

theorem LifecycleCall.record_follows (call : LifecycleCall platform) :
    (call.record system handle).Follows := by
  cases call with
  | waitForCompletion timeout => exact waitForCompletion_follows system handle timeout
  | waitForCompletionOrTerminate timeout shutdown =>
      exact waitForCompletionOrTerminate_follows system handle timeout shutdown
  | waitForCompletionWithOutput timeout eofTimeout =>
      exact waitForCompletionWithOutput_follows system handle timeout eofTimeout
  | waitForCompletionWithOutputOrTerminate timeout eofTimeout shutdown =>
      exact waitForCompletionWithOutputOrTerminate_follows system handle timeout eofTimeout shutdown
  | terminate shutdown => exact terminate_follows system handle shutdown
  | kill => exact kill_follows system handle
  | startKill => exact startKill_follows system handle
  | sendSignal signalName => exact sendSignal_follows system handle signalName
  | isRunning => exact isRunning_follows system handle
  | mustBeTerminated => exact mustBeTerminated_follows system handle
  | mustNotBeTerminated => exact mustNotBeTerminated_follows system handle

/-! ## Runs -/

/-- Some operation has disarmed the handle, and none behind it has armed it again. -/
def DisarmedSince (records : List (CallRecord platform)) : Prop :=
  ∃ earlier record later, records = earlier ++ record :: later ∧ record.Disarms ∧
    ∀ behind ∈ later, ¬ behind.Arms

theorem disarmedSince_cons (record : CallRecord platform) (records : List (CallRecord platform)) :
    DisarmedSince (record :: records) ↔
      DisarmedSince records ∨ record.Disarms ∧ ∀ behind ∈ records, ¬ behind.Arms := by
  constructor
  · rintro ⟨earlier, disarming, later, split, disarms, unarmed⟩
    cases earlier with
    | nil =>
        obtain ⟨rfl, rfl⟩ := List.cons.inj split
        exact .inr ⟨disarms, unarmed⟩
    | cons first rest =>
        have tail := (List.cons.inj split).2
        exact .inl ⟨rest, disarming, later, tail, disarms, unarmed⟩
  · rintro (⟨earlier, disarming, later, rfl, disarms, unarmed⟩ | ⟨disarms, unarmed⟩)
    · exact ⟨record :: earlier, disarming, later, rfl, disarms, unarmed⟩
    · exact ⟨[], record, records, rfl, disarms, unarmed⟩

/-- The mode behind one operation. -/
theorem CallRecord.Follows.disarmed_iff {record : CallRecord platform} (follows : record.Follows) :
    record.after = .disarmed ↔ record.Disarms ∨ record.before = .disarmed ∧ ¬ record.Arms := by
  by_cases disarms : record.Disarms
  · simp only [disarms, follows.disarms disarms, true_or]
  · by_cases arms : record.Arms
    · simp [disarms, arms, follows.arms arms]
    · simp [disarms, arms, follows.keeps arms disarms]

/-- The mode behind a run. -/
theorem runCalls_disarmed_iff (calls : List (LifecycleCall platform)) :
    (runCalls system handle calls).2.dropMode = .disarmed ↔
      DisarmedSince (runCalls system handle calls).1 ∨
        handle.dropMode = .disarmed ∧ ∀ record ∈ (runCalls system handle calls).1, ¬ record.Arms := by
  induction calls generalizing handle with
  | nil =>
      have none : ¬ DisarmedSince ([] : List (CallRecord platform)) := by
        rintro ⟨earlier, record, later, split, -⟩
        exact List.append_ne_nil_of_right_ne_nil _ (List.cons_ne_nil _ _) split.symm
      simp [runCalls, none]
  | cons call rest ih =>
      have step : (call.run system handle).2.dropMode = .disarmed ↔
          (call.record system handle).Disarms ∨
            handle.dropMode = .disarmed ∧ ¬ (call.record system handle).Arms :=
        (call.record_follows system handle).disarmed_iff
      simp only [runCalls, disarmedSince_cons, List.forall_mem_cons]
      rw [ih, step]
      tauto

theorem runCalls_follow (calls : List (LifecycleCall platform)) :
    ∀ record ∈ (runCalls system handle calls).1, record.Follows := by
  induction calls generalizing handle with
  | nil => exact fun _ impossible => absurd impossible List.not_mem_nil
  | cons call rest ih =>
      intro record member
      rcases List.mem_cons.mp member with rfl | later
      · exact call.record_follows system handle
      · exact ih _ record later

/-- **The drop safeguard is disarmed exactly by a closed lifecycle.** For every sequence of
operations on a spawned handle, however the system answers and wherever the futures are dropped, the
handle ends disarmed if and only if some operation has disarmed it and none behind it has armed it
again. Timeouts, errors, dropped futures, signals that were sent and `is_running` leave the mode; an
operation that has observed an exit leaves the handle disarmed, whatever it returns. -/
theorem dropMode_disarmed_iff (name : String) (stdIn : Stdin) (exclusive : Side → Bool)
    (calls : List (LifecycleCall platform)) :
    ((runCalls system (spawn name stdIn exclusive) calls).2.dropMode = .disarmed ↔
      DisarmedSince (runCalls system (spawn name stdIn exclusive) calls).1) ∧
    ∀ record ∈ (runCalls system (spawn name stdIn exclusive) calls).1,
      (record.Leaves → record.after = record.before) ∧
        (record.Disarms → record.after = .disarmed) := by
  refine ⟨?_, fun record member => ?_⟩
  case refine_2 =>
    have follows := runCalls_follow system _ calls record member
    exact ⟨follows.leaves, follows.disarms⟩
  rw [runCalls_disarmed_iff]
  exact or_iff_left fun disarmed => DropMode.noConfusion disarmed.1

end Calls

end TokioProcessTools.ProcessHandle
