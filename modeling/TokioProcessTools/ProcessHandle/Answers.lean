import TokioProcessTools.ProcessHandle.Termination

/-!
# The answers of the system

A handle keeps the calls it has made, each with the answer it was given. What an
operation reports rests on these answers, so the answers have to be those of the
system: from any handle, every call an operation adds is answered by the system
as it stands behind the calls before it (`Records`). Each of the operations of a
termination is such an operation, however it ends.
-/

set_option autoImplicit false

namespace TokioProcessTools.ProcessHandle

open Foundation OutputStream OutputCollection

section Answered

variable {Sink : Side → Type} {platform : Platform} {system : System Sink} {base : List Event}

/-- The answer the system gives to a call behind others. -/
def System.Answers (system : System Sink) (events : List Event) : Event → Prop
  | .probed reply => reply = system.probe events
  | .sent index signalName reply => reply = system.send events index signalName
  | .killed reply => reply = system.kill events
  | .waited bound reply => reply = system.wait events bound

/-- The system has given all the answers behind the first calls. -/
inductive System.Answered (system : System Sink) (base : List Event) : List Event → Prop where
  | start : Answered system base base
  | next {events : List Event} {event : Event} : Answered system base events →
      system.Answers events event → Answered system base (events ++ [event])

/-- The operation records the answers of the system. -/
abbrev Records {α : Type} (system : System Sink) (base : List Event) (operation : Operation Sink α) :
    Prop :=
  operation.Keeps system fun handle => system.Answered base handle.events

/-! ## One call -/

theorem tryReapExitStatus_records : Records system base tryReapExitStatus :=
  fun _ answered => answered.next rfl

theorem sendSignal_records (index : Nat) (signalName : String) :
    Records system base (sendSignal index signalName) := fun _ answered => answered.next rfl

theorem sendKillSignal_records : Records system base sendKillSignal :=
  fun _ answered => answered.next rfl

theorem wait_records (bound : Option Duration) : Records system base (wait bound) := by
  intro handle answered
  have next : system.Answered base
      (handle.events ++ [.waited bound (system.wait handle.events bound)]) := answered.next rfl
  simp only [wait, closeStdin_events]
  split <;> exact next

theorem waitForCompletionInner_records (timeout : Duration) :
    Records system base (waitForCompletionInner timeout) := by
  refine .bind .get fun handle => (wait_records _).bind ?_
  rintro (_ | error | status) <;> exact .pure _

theorem waitForCompletionUnbounded_records : Records system base waitForCompletionUnbounded := by
  refine .bind .get fun handle => (wait_records _).bind ?_
  rintro (_ | error | status)
  · exact .drop
  · exact .pure _
  · exact .pure _

theorem waitForExitAfterSignal_records (timeout : Duration) :
    Records system base (waitForExitAfterSignal timeout) := by
  refine (waitForCompletionInner_records timeout).bind ?_
  rintro (error | status | elapsed) <;> exact .pure _

/-! ## A termination -/

theorem failTermination_records {α : Type} (diagnostics : TerminationDiagnostics) :
    Records system base (failTermination diagnostics : Operation Sink (Except TerminationError α)) := by
  refine .bind .get fun handle => .bind ?_ fun _ => .pure _
  unfold intoTerminationFailed
  split
  · exact .panic _
  · exact .pure _

theorem failSignal_records {α : Type} (diagnostics : TerminationDiagnostics) :
    Records system base (failSignal diagnostics : Operation Sink (Except TerminationError α)) := by
  refine .bind .get fun handle => .bind ?_ fun _ => .pure _
  unfold intoSignalFailed
  split
  · exact .panic _
  · exact .pure _

theorem attemptGracefulPhase_records (index : Nat) (signalName : String) (timeout : Duration)
    (diagnostics : TerminationDiagnostics) :
    Records system base (attemptGracefulPhase index signalName timeout diagnostics) := by
  refine (sendSignal_records index signalName).bind ?_
  rintro (sendError | _)
  all_goals
    refine (waitForExitAfterSignal_records _).bind ?_
    rintro (error | _ | status) <;> exact .pure _

theorem attemptForcefulKill_records (diagnostics : TerminationDiagnostics) :
    Records system base (attemptForcefulKill platform diagnostics) := by
  refine sendKillSignal_records.bind ?_
  rintro (killError | _)
  all_goals
    refine (waitForExitAfterSignal_records _).bind ?_
    rintro (error | _ | status)
    · exact failTermination_records _
    · exact failTermination_records _
    · exact .pure _

theorem attemptSteps_records (index : Nat) (steps : List TerminationStep)
    (diagnostics : TerminationDiagnostics) :
    Records system base (attemptSteps platform index steps diagnostics) := by
  induction steps generalizing index diagnostics with
  | nil => exact attemptForcefulKill_records diagnostics
  | cons step rest ih =>
      refine (attemptGracefulPhase_records index _ _ diagnostics).bind ?_
      rintro ⟨_ | status, later⟩
      · exact ih (index + 1) later
      · exact .pure _

/-- A change of the handle that concerns no call. -/
theorem modify_records {change : ProcessHandle → ProcessHandle}
    (same : ∀ handle, (change handle).events = handle.events) :
    Records system base (Program.modify change) :=
  .modify fun handle answered => (same handle).symm ▸ answered

/-- **The loop of a termination records the answers of the system.** -/
theorem runTerminationLoop_records (steps : List TerminationStep) :
    Records system base (runTerminationLoop platform steps) := by
  unfold runTerminationLoop
  split
  · exact .panic _
  refine (tryReapExitStatus_records.bind ?_).bind ?_
  · rintro (error | _ | status)
    · exact attemptSteps_records 0 steps _
    · exact attemptSteps_records 0 steps _
    · exact .pure _
  · rintro (error | status)
    · exact .pure _
    · exact (modify_records mustNotBeTerminated_events).bind fun _ => .pure _

/-! ## The public operations -/

theorem terminate_records (shutdown : GracefulShutdown platform) :
    Records system base (terminate shutdown) := runTerminationLoop_records shutdown.steps

theorem kill_records : Records system base (kill platform) := by
  refine (modify_records closeStdin_events).bind fun _ => sendKillSignal_records.bind ?_
  rintro (error | _)
  · exact failTermination_records _
  · refine waitForCompletionUnbounded_records.bind ?_
    rintro (error | status)
    · exact failTermination_records _
    · exact .pure _

theorem startKill_records : Records system base (startKill platform) := by
  refine (modify_records closeStdin_events).bind fun _ => sendKillSignal_records.bind ?_
  rintro (error | _)
  · refine tryReapExitStatus_records.bind ?_
    rintro (reapError | _ | status)
    · exact failTermination_records _
    · exact failTermination_records _
    · exact (modify_records mustNotBeTerminated_events).bind fun _ => .pure _
  · exact (modify_records mustNotBeTerminated_events).bind fun _ => .pure _

theorem sendSignalWithReaper_records (signalName : String) :
    Records system base (sendSignalWithReaper signalName) := by
  refine tryReapExitStatus_records.bind ?_
  rintro (statusError | _ | status)
  · exact failSignal_records _
  · refine (sendSignal_records 0 signalName).bind ?_
    rintro (signalError | _)
    · refine tryReapExitStatus_records.bind ?_
      rintro (reapError | _ | status)
      · exact failSignal_records _
      · exact failSignal_records _
      · exact (modify_records mustNotBeTerminated_events).bind fun _ => .pure _
    · exact .pure _
  · exact (modify_records mustNotBeTerminated_events).bind fun _ => .pure _

theorem isRunning_records : Records system base isRunning := by
  refine tryReapExitStatus_records.bind ?_
  rintro (error | _ | status) <;> exact .pure _

theorem waitForCompletionOrTerminateInner_records (timeout : Duration)
    (shutdown : GracefulShutdown platform) :
    Records system base (waitForCompletionOrTerminateInner timeout shutdown) := by
  refine (waitForCompletionInner_records timeout).bind ?_
  rintro (error | status | elapsed)
  · refine .bind .get fun handle => (terminate_records shutdown).bind ?_
    rintro (error | status) <;> exact .pure _
  · exact .pure _
  · refine .bind .get fun handle => (terminate_records shutdown).bind ?_
    rintro (error | status) <;> exact .pure _

end Answered

end TokioProcessTools.ProcessHandle
