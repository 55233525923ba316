import TokioProcessTools.ProcessHandle.Answers
import TokioProcessTools.ProcessHandle.DropSafeguard

/-!
# Dropping a handle

A handle ends by being dropped, on whatever thread its owner happens to be. A
destructor is synchronous, and a thread that is already unwinding must not panic
again: the process would be aborted. So a destructor asks the thread first.

An armed handle that is dropped kills the process group and then panics. A
`TerminateOnDrop` first runs its graceful shutdown, if the thread is one that
can wait for it, and otherwise kills the process at once and reports that,
according to its fallback. Behind the destructor of a value its fields are
dropped, also while the destructor's own panic unwinds (`dropGlue`): the handle
inside the wrapper is dropped by its own destructor.

Over the whole life of a handle, wrapped and unwrapped any number of times, a
drop never raises a panic in an unwind and at most one otherwise, and it leaves
the process alone exactly if the lifecycle was closed before. Its calls have the
answers of the system (`drop_accounts`).
-/

set_option autoImplicit false

namespace TokioProcessTools.ProcessHandle

open Foundation OutputStream OutputCollection

/-! ## The thread -/

/-- `tokio::runtime::RuntimeFlavor`. -/
inductive RuntimeFlavor where
  | currentThread
  | multiThread
  deriving DecidableEq, Repr

/-- What a destructor learns from the thread it runs on: whether the thread unwinds, which runtime is
entered on it, what `is_shutting_down` answers for that runtime, and the backtrace. -/
structure ThreadContext where
  panicking : Bool := false
  runtime : Option RuntimeFlavor := none
  shuttingDown : Bool := false
  backtrace : String := ""
  deriving DecidableEq, Repr

/-- `UnsupportedContext`. -/
inductive UnsupportedContext where
  | panicking
  | noRuntime
  | currentThreadRuntime
  | runtimeShuttingDown
  deriving DecidableEq, Repr

/-- `UnsupportedContext::describe`. -/
def UnsupportedContext.describe : UnsupportedContext → String
  | .panicking => "while the thread was unwinding from a panic"
  | .noRuntime => "outside a tokio runtime context"
  | .currentThreadRuntime => "inside a current-thread tokio runtime"
  | .runtimeShuttingDown => "while its tokio runtime was shutting down"

/-- The checks of `try_run_future`, in its order. -/
def ThreadContext.unsupported (thread : ThreadContext) : Option UnsupportedContext :=
  if thread.panicking then some .panicking
  else
    match thread.runtime with
    | none => some .noRuntime
    | some .currentThread => some .currentThreadRuntime
    | some .multiThread => if thread.shuttingDown then some .runtimeShuttingDown else none

/-! ## Destructors -/

/-- The levels of `tracing`. -/
inductive Level where
  | debug
  | warn
  | error
  deriving DecidableEq, Repr

/-- A message of a destructor to `tracing`. -/
structure Report where
  level : Level
  message : String
  deriving DecidableEq, Repr

/-- A handle that is being dropped: the thread, what was reported, the panics that were raised, and
whether one of them was raised while the thread was unwinding, which aborts the process. -/
structure Dropping where
  handle : ProcessHandle
  thread : ThreadContext
  reports : List Report := []
  panics : List String := []
  aborted : Bool := false

/-- `TerminateOnDropFallback`. -/
inductive TerminateOnDropFallback where
  | panic
  | trace
  deriving DecidableEq, Repr

section Destructors

variable {Sink : Side → Type} {platform : Platform}

/-- Synchronous code that runs while a handle is dropped. -/
abbrev DropCode (Sink : Side → Type) (α : Type) := Program (System Sink) Dropping α

/-- `panic!`. -/
def raise {α : Type} (message : String) : DropCode Sink α :=
  fun _ dropping =>
    (.panicked message, { dropping with
      thread := { dropping.thread with panicking := true }
      panics := dropping.panics ++ [message]
      aborted := dropping.aborted || dropping.thread.panicking })

def report (level : Level) (message : String) : DropCode Sink PUnit :=
  Program.modify fun dropping => { dropping with reports := dropping.reports ++ [⟨level, message⟩] }

/-- Tokio's panic at an await whose runtime shuts down while a thread blocks on it. -/
def beingShutdown : String := "A Tokio 1.x context was found, but it is being shutdown."

/-- Call an operation of the handle, blocking on it if it awaits something. Nobody drops a future
that a thread blocks on: an await that gets no answer panics, since the runtime is gone. -/
def onHandle {α : Type} (operation : Operation Sink α) : DropCode Sink α :=
  fun system dropping =>
    match operation system dropping.handle with
    | (.returned value, handle) => (.returned value, { dropping with handle })
    | (.dropped, handle) => raise beingShutdown system { dropping with handle }
    | (.panicked message, handle) => raise message system { dropping with handle }

/-- Drop a value: its destructor, and then its fields, which are dropped also if the destructor
panics. -/
def dropGlue (destructor fields : DropCode Sink PUnit) : DropCode Sink PUnit :=
  fun system dropping =>
    match destructor system dropping with
    | (.panicked message, later) => (.panicked message, (fields system later).2)
    | (_, later) => fields system later

/-! ## The handle -/

/-- What the guard of `armed_panic_guard` says when it is dropped. -/
def panicOnDropMessage (backtrace : String) : String :=
  "Resource 'tokio_process_tools::ProcessHandle' should not have been dropped at this point!\n\n" ++
    "Err: The process was not terminated.\n\n" ++
    "Help: Successfully call `wait_for_completion`, `terminate`, or `kill`, or call " ++
    "`must_not_be_terminated` before the type is dropped!\n\nBacktrace: " ++ backtrace

/-- `Drop for PanicOnDrop`, for the guard in the drop mode. -/
def dropPanicOnDrop : DropCode Sink PUnit := do
  let dropping ← Program.get
  match dropping.handle.dropMode with
  | .armed true =>
      let message := panicOnDropMessage dropping.thread.backtrace
      if dropping.thread.panicking then do
        report .warn message
        report .warn "Suppressing PanicOnDrop because the thread is already panicking"
      else raise message
  | .armed false | .disarmed => return ⟨⟩

/-- `Drop for ProcessHandle`. -/
def destroyHandle : DropCode Sink PUnit := do
  match (← Program.get).handle.dropMode with
  | .armed _ =>
      match ← onHandle sendKillSignal with
      | .ok () => return ⟨⟩
      | .error _ => report .warn "Failed to kill process while dropping an armed ProcessHandle"
  | .disarmed => return ⟨⟩

/-- Drop a handle. -/
def dropHandle : DropCode Sink PUnit := dropGlue destroyHandle dropPanicOnDrop

/-- `into_inner`: the parts that are handed out, here without the child. The handle's destructor does
not run; what is left of it is dropped field by field. -/
def intoInner : DropCode Sink (Stdin × (Side → StreamSlot)) := do
  Program.modify fun dropping => { dropping with handle := dropping.handle.mustNotBeTerminated }
  let dropping ← Program.get
  dropPanicOnDrop
  return (dropping.handle.stdIn, dropping.handle.streams)

/-! ## The wrapper -/

/-- `try_run_future`: the reason if the thread cannot wait for the future, which then is not run. -/
def tryRunFuture (future : DropCode Sink PUnit) : DropCode Sink (Except UnsupportedContext PUnit) := do
  match (← Program.get).thread.unsupported with
  | some context => return .error context
  | none => do
      future
      return .ok ⟨⟩

/-- `TerminateOnDrop::nothing_to_terminate`. -/
def nothingToTerminate : DropCode Sink Bool := do
  if (← Program.get).handle.dropMode = .disarmed then
    report .debug "Process lifecycle already closed or detached. Leaving the process alone."
    return true
  match ← onHandle isRunning with
  | .terminated _ =>
      report .debug "Process already terminated."
      Program.modify fun dropping => { dropping with handle := dropping.handle.mustNotBeTerminated }
      return true
  | .running => return false
  | .uncertain _ =>
      report .warn
        "Could not determine process state during drop. Attempting termination anyway."
      return false

/-- `TerminateOnDrop::terminate_gracefully`. -/
def terminateGracefully (shutdown : GracefulShutdown platform) : DropCode Sink PUnit := do
  report .debug "Terminating process."
  match ← onHandle (terminate shutdown) with
  | .ok _ => report .debug "Successfully terminated process."
  | .error _ => report .error "Failed to terminate process during drop."

/-- What the `Panic` fallback says. -/
def fallbackPanicMessage (name : String) (context : UnsupportedContext) : String :=
  "TerminateOnDrop for process '" ++ name ++ "' was dropped " ++ context.describe ++
    ", which cannot run the graceful shutdown. The process was killed before this panic. " ++
    "Terminate the process explicitly before dropping it, drop it on a thread inside a " ++
    "multithreaded tokio runtime, or use TerminateOnDropFallback::Trace."

/-- How `terminate_forcefully` reports that the graceful shutdown could not run. -/
def reportFallback (fallback : TerminateOnDropFallback) (context : UnsupportedContext) :
    DropCode Sink PUnit := do
  let name := (← Program.get).handle.name
  match context with
  | .panicking | .runtimeShuttingDown =>
      report .warn ("TerminateOnDrop was dropped " ++ context.describe ++
        ". Killed the process instead of shutting it down gracefully.")
  | .noRuntime | .currentThreadRuntime =>
      match fallback with
      | .trace =>
          report .error ("TerminateOnDrop was dropped " ++ context.describe ++
            ", which cannot run the graceful shutdown. Killed the process instead. " ++
            "Terminate the process explicitly before dropping it, or drop it on a thread inside " ++
            "a multithreaded tokio runtime.")
      | .panic => raise (fallbackPanicMessage name context)

variable (platform) in
/-- `TerminateOnDrop::terminate_forcefully`. -/
def terminateForcefully (fallback : TerminateOnDropFallback) (context : UnsupportedContext) :
    DropCode Sink PUnit := do
  match ← onHandle (startKill platform) with
  | .ok () => reportFallback fallback context
  | .error _ => do
      report .error "Failed to kill process during drop. The process may be leaked."
      -- Otherwise the destructor of the handle would kill again and panic under either fallback.
      Program.modify fun dropping => { dropping with handle := dropping.handle.mustNotBeTerminated }
      reportFallback fallback context

/-- `TerminateOnDrop`. -/
structure TerminateOnDrop (platform : Platform) where
  processHandle : ProcessHandle
  shutdown : GracefulShutdown platform
  fallback : TerminateOnDropFallback

/-- `Drop for TerminateOnDrop`. -/
def destroyWrapper (shutdown : GracefulShutdown platform) (fallback : TerminateOnDropFallback) :
    DropCode Sink PUnit := do
  if ← nothingToTerminate then return ⟨⟩
  match ← tryRunFuture (terminateGracefully shutdown) with
  | .ok _ => return ⟨⟩
  | .error context => terminateForcefully platform fallback context

/-- Drop a wrapper. -/
def dropWrapper (shutdown : GracefulShutdown platform) (fallback : TerminateOnDropFallback) :
    DropCode Sink PUnit := dropGlue (destroyWrapper shutdown fallback) dropHandle

/-! ## The life of a handle -/

variable (platform) in
/-- Who owns a handle: the caller, or a wrapper. -/
inductive Owner where
  | bare (handle : ProcessHandle)
  | wrapped (wrapper : TerminateOnDrop platform)

/-- `Deref for TerminateOnDrop`. -/
def Owner.handle : Owner platform → ProcessHandle
  | .bare handle => handle
  | .wrapped wrapper => wrapper.processHandle

/-- `DerefMut for TerminateOnDrop`. -/
def Owner.withHandle (owner : Owner platform) (handle : ProcessHandle) : Owner platform :=
  match owner with
  | .bare _ => .bare handle
  | .wrapped wrapper => .wrapped { wrapper with processHandle := handle }

variable (platform) in
/-- What an owner does. -/
inductive OwnerAction where
  | call (call : LifecycleCall platform)
  /-- `terminate_on_drop_with_fallback`; `terminate_on_drop` has the fallback `panic`. -/
  | terminateOnDrop (shutdown : GracefulShutdown platform) (fallback : TerminateOnDropFallback)
  /-- `TerminateOnDrop::into_inner`. -/
  | unwrap

/-- An action of the owner, with the record of the operation if there is one. Only a bare handle can
be wrapped, and only a wrapper unwrapped. -/
def Owner.step (system : System Sink) (owner : Owner platform) : OwnerAction platform →
    Option (List (CallRecord platform) × Owner platform)
  | .call call =>
      some ([call.record system owner.handle],
        owner.withHandle (call.run system owner.handle).2)
  | .terminateOnDrop shutdown fallback =>
      match owner with
      | .bare handle => some ([], .wrapped ⟨handle, shutdown, fallback⟩)
      | .wrapped _ => none
  | .unwrap =>
      match owner with
      | .bare _ => none
      | .wrapped wrapper => some ([], .bare wrapper.processHandle)

/-- The actions of a life, up to its end. -/
def Owner.run (system : System Sink) : Owner platform → List (OwnerAction platform) →
    Option (List (CallRecord platform) × Owner platform)
  | owner, [] => some ([], owner)
  | owner, action :: rest => do
      let (records, owner) ← owner.step system action
      let (later, owner) ← owner.run system rest
      some (records ++ later, owner)

/-- Drop what the owner has. -/
def Owner.drop (system : System Sink) (thread : ThreadContext) (owner : Owner platform) :
    Fate PUnit × Dropping :=
  match owner with
  | .bare handle => dropHandle system { handle, thread }
  | .wrapped wrapper =>
      dropWrapper wrapper.shutdown wrapper.fallback system { handle := wrapper.processHandle, thread }

/-! ## The calls of drop code -/

section Answered

variable {α β : Type} {system : System Sink} {base : List Event}

/-- The drop code records the answers of the system. -/
abbrev DropRecords (system : System Sink) (base : List Event) (code : DropCode Sink α) : Prop :=
  code.Keeps system fun dropping => system.Answered base dropping.handle.events

theorem raise_records (message : String) :
    DropRecords system base (raise message : DropCode Sink α) := fun _ answered => answered

theorem report_records (level : Level) (message : String) :
    DropRecords system base (report level message) := .modify fun _ answered => answered

theorem disarm_records : DropRecords system base (Program.modify fun dropping =>
    { dropping with handle := dropping.handle.mustNotBeTerminated }) :=
  .modify fun _ answered => answered

theorem onHandle_records {operation : Operation Sink α} (records : Records system base operation) :
    DropRecords system base (onHandle operation) := by
  intro dropping answered
  have later := records dropping.handle answered
  unfold onHandle
  cases ran : operation system dropping.handle with
  | mk fate handle =>
      rw [ran] at later
      cases fate <;> exact later

theorem dropGlue_records {destructor fields : DropCode Sink PUnit}
    (destroys : DropRecords system base destructor) (drops : DropRecords system base fields) :
    DropRecords system base (dropGlue destructor fields) := by
  intro dropping answered
  have middle := destroys dropping answered
  unfold dropGlue
  cases ran : destructor system dropping with
  | mk fate later =>
      rw [ran] at middle
      cases fate <;> exact drops later middle

theorem dropHandle_records : DropRecords system base dropHandle := by
  refine dropGlue_records (.bind .get fun dropping => ?_) (.bind .get fun dropping => ?_)
  · cases dropping.handle.dropMode with
    | armed guarded =>
        refine (onHandle_records sendKillSignal_records).bind ?_
        rintro (error | _)
        · exact report_records _ _
        · exact .pure _
    | disarmed => exact .pure _
  · dsimp only
    split
    · split
      · exact (report_records _ _).bind fun _ => report_records _ _
      · exact raise_records _
    · exact .pure _
    · exact .pure _

theorem nothingToTerminate_records : DropRecords system base nothingToTerminate := by
  refine .bind .get fun dropping => ?_
  split
  · exact (report_records _ _).bind fun _ => .pure _
  · refine (onHandle_records isRunning_records).bind ?_
    rintro (_ | status | error)
    · exact .pure _
    · exact (report_records _ _).bind fun _ => disarm_records.bind fun _ => .pure _
    · exact (report_records _ _).bind fun _ => .pure _

theorem terminateGracefully_records (shutdown : GracefulShutdown platform) :
    DropRecords system base (terminateGracefully shutdown) := by
  refine (report_records _ _).bind fun _ => (onHandle_records (terminate_records shutdown)).bind ?_
  rintro (error | status) <;> exact report_records _ _

theorem reportFallback_records (fallback : TerminateOnDropFallback) (context : UnsupportedContext) :
    DropRecords system base (reportFallback fallback context) := by
  refine .bind .get fun dropping => ?_
  cases context with
  | panicking | runtimeShuttingDown => exact report_records _ _
  | noRuntime | currentThreadRuntime =>
      cases fallback with
      | trace => exact report_records _ _
      | panic => exact raise_records _

theorem terminateForcefully_records (fallback : TerminateOnDropFallback)
    (context : UnsupportedContext) :
    DropRecords system base (terminateForcefully platform fallback context) := by
  refine (onHandle_records startKill_records).bind ?_
  rintro (error | _)
  · exact (report_records _ _).bind fun _ => disarm_records.bind fun _ =>
      reportFallback_records fallback context
  · exact reportFallback_records fallback context

theorem dropWrapper_records (shutdown : GracefulShutdown platform)
    (fallback : TerminateOnDropFallback) :
    DropRecords system base (dropWrapper shutdown fallback) := by
  refine dropGlue_records (nothingToTerminate_records.bind fun nothing => ?_) dropHandle_records
  split
  · exact .pure _
  · refine .bind (.bind .get fun dropping => ?_) ?_
    · split
      · exact .pure _
      · exact (terminateGracefully_records shutdown).bind fun _ => .pure _
    · rintro (context | _)
      · exact terminateForcefully_records fallback context
      · exact .pure _

/-- **The drop of a handle or wrapper records the answers of the system.** -/
theorem Owner.drop_answered (owner : Owner platform) (system : System Sink)
    (thread : ThreadContext) :
    system.Answered owner.handle.events (owner.drop system thread).2.handle.events := by
  cases owner with
  | bare handle => exact dropHandle_records { handle, thread } .start
  | wrapped wrapper =>
      exact dropWrapper_records wrapper.shutdown wrapper.fallback
        { handle := wrapper.processHandle, thread } .start

end Answered

/-! ## What drop code does -/

/-- Between the two states the given calls were made and the given panics raised, none of them while
the thread was unwinding. -/
structure Dropped (before : Dropping) (events : List Event) (raised : List String)
    (after : Dropping) : Prop where
  calls : after.handle.events = before.handle.events ++ events
  panics : after.panics = before.panics ++ raised
  thread : after.thread =
    { before.thread with panicking := before.thread.panicking || !raised.isEmpty }
  aborted : after.aborted = before.aborted
  once : raised = [] ∨ before.thread.panicking = false ∧ raised.length = 1

/-- Nothing was raised: the thread is as before. -/
theorem Dropped.calm {before after : Dropping} {events : List Event}
    (calls : after.handle.events = before.handle.events ++ events)
    (panics : after.panics = before.panics)
    (thread : after.thread = before.thread) (aborted : after.aborted = before.aborted) :
    Dropped before events [] after where
  calls := calls
  panics := panics.trans (List.append_nil _).symm
  thread := by
    rw [thread, List.isEmpty_nil, Bool.not_true, Bool.or_false]
  aborted := aborted
  once := .inl rfl

theorem Dropped.thread_of_calm {before after : Dropping} {events : List Event}
    (dropped : Dropped before events [] after) : after.thread = before.thread := by
  rw [dropped.thread, List.isEmpty_nil, Bool.not_true, Bool.or_false]

/-- A panic in a thread that does not unwind. -/
theorem Dropped.raise {α : Type} (system : System Sink) {dropping : Dropping} (message : String)
    (quiet : dropping.thread.panicking = false) :
    Dropped dropping [] [message]
      ((ProcessHandle.raise message : DropCode Sink α) system dropping).2 where
  calls := (List.append_nil _).symm
  panics := rfl
  thread := by
    rw [quiet]
    rfl
  aborted := by
    simp only [ProcessHandle.raise, quiet, Bool.or_false]
  once := .inr ⟨quiet, rfl⟩

/-- **One drop follows the other**: behind a panic nothing is raised any more. -/
theorem Dropped.trans {first second third : Dropping} {events more : List Event}
    {raised later : List String} (before : Dropped first events raised second)
    (behind : Dropped second more later third) :
    Dropped first (events ++ more) (raised ++ later) third where
  calls := by rw [behind.calls, before.calls, List.append_assoc]
  panics := by rw [behind.panics, before.panics, List.append_assoc]
  thread := by
    rw [behind.thread, before.thread]
    cases raised with
    | nil => simp only [List.isEmpty_nil, Bool.not_true, Bool.or_false, List.nil_append]
    | cons message rest => simp
  aborted := behind.aborted.trans before.aborted
  once := by
    rcases before.once with rfl | ⟨quiet, one⟩
    · rcases behind.once with rfl | ⟨quiet, one⟩
      · exact .inl rfl
      · rw [before.thread_of_calm] at quiet
        exact .inr ⟨quiet, one⟩
    · rcases behind.once with rfl | ⟨still, _⟩
      · rw [List.append_nil]
        exact .inr ⟨quiet, one⟩
      · rw [before.thread, quiet] at still
        cases raised with
        | nil => cases one
        | cons message rest => cases still

/-! ## Dropping a handle -/

section Handle

variable (system : System Sink) {dropping : Dropping}

/-- A disarmed handle is left alone. -/
theorem dropHandle_disarmed (disarmed : dropping.handle.dropMode = .disarmed) :
    dropHandle system dropping = (.returned ⟨⟩, dropping) := by
  simp only [dropHandle, dropGlue, destroyHandle, dropPanicOnDrop, Program.bind_run, Program.get_run,
    Program.andThen_returned, disarmed, Program.pure_run]

/-- The panic of an armed handle, which is suppressed in an unwind. -/
def guardPanics (thread : ThreadContext) : List String :=
  if thread.panicking then [] else [panicOnDropMessage thread.backtrace]

/-- The destructor of an armed handle kills and raises nothing. -/
theorem destroyHandle_armed (armed : dropping.handle.dropMode = .armed true) :
    ∃ reports, destroyHandle system dropping = (.returned ⟨⟩, { dropping with
      handle := dropping.handle.note (.killed (system.kill dropping.handle.events)), reports }) := by
  simp only [destroyHandle, Program.bind_run, Program.get_run, Program.andThen_returned, armed,
    onHandle, sendKillSignal]
  cases system.kill dropping.handle.events with
  | ok sent => exact ⟨dropping.reports, rfl⟩
  | error error => exact ⟨_, rfl⟩

/-- **An armed handle is killed and panics**, unless the thread unwinds. -/
theorem dropHandle_armed (armed : dropping.handle.dropMode = .armed true) :
    Dropped dropping [.killed (system.kill dropping.handle.events)] (guardPanics dropping.thread)
      (dropHandle system dropping).2 := by
  obtain ⟨reports, killed⟩ := destroyHandle_armed system armed
  have stays : (dropping.handle.note (.killed (system.kill dropping.handle.events))).dropMode =
      .armed true := armed
  simp only [dropHandle, dropGlue, killed, dropPanicOnDrop, Program.bind_run, Program.get_run,
    Program.andThen_returned, stays, guardPanics]
  cases unwinding : dropping.thread.panicking with
  | true => exact .calm rfl rfl rfl rfl
  | false =>
      rw [if_neg Bool.false_ne_true, if_neg Bool.false_ne_true]
      have killing : Dropped dropping [.killed (system.kill dropping.handle.events)] []
          { dropping with
            handle := dropping.handle.note (.killed (system.kill dropping.handle.events)), reports } :=
        .calm rfl rfl rfl rfl
      exact killing.trans (.raise system _ unwinding)

/-- Taking a handle apart makes no call and raises nothing, also if it is armed. -/
theorem intoInner_run (dropping : Dropping) :
    intoInner system dropping = (.returned (dropping.handle.stdIn, dropping.handle.streams),
      { dropping with handle := dropping.handle.mustNotBeTerminated }) := rfl

end Handle

/-! ## A termination does not panic -/

/-- No assertion of the operation fails. -/
def NeverPanics {α : Type} (operation : Operation Sink α) : Prop :=
  ∀ system handle message, (operation system handle).1 ≠ .panicked message

namespace NeverPanics

variable {α β : Type}

theorem pure (value : α) : NeverPanics (Pure.pure value : Operation Sink α) := by
  intro system handle message panicked
  cases panicked

theorem bind {operation : Operation Sink α} {next : α → Operation Sink β}
    (before : NeverPanics operation) (behind : ∀ value, NeverPanics (next value)) :
    NeverPanics (operation >>= next) := by
  intro system handle message
  rw [Program.bind_run]
  have calm := before system handle message
  cases run : operation system handle with
  | mk fate later =>
      rw [run] at calm
      cases fate with
      | returned value => exact behind value system later message
      | dropped => exact fun panicked => by cases panicked
      | panicked other =>
          rw [Program.andThen_panicked]
          intro panicked
          cases panicked
          exact calm rfl

theorem modify (change : ProcessHandle → ProcessHandle) :
    NeverPanics (Program.modify change : Operation Sink PUnit) := by
  intro system handle message panicked
  cases panicked

theorem waitForExitAfterSignal (timeout : Duration) :
    NeverPanics (ProcessHandle.waitForExitAfterSignal timeout : Operation Sink _) := by
  intro system handle message panicked
  rw [waitForExitAfterSignal_run] at panicked
  cases reply : system.wait handle.events (some timeout) <;>
    simp only [reply, exitAfterSignal] at panicked <;> cases panicked

theorem sendSignal (index : Nat) (signalName : String) :
    NeverPanics (ProcessHandle.sendSignal index signalName : Operation Sink _) := by
  intro system handle message panicked
  cases panicked

theorem sendKillSignal : NeverPanics (ProcessHandle.sendKillSignal : Operation Sink _) := by
  intro system handle message panicked
  cases panicked

theorem tryReapExitStatus : NeverPanics (ProcessHandle.tryReapExitStatus : Operation Sink _) := by
  intro system handle message panicked
  cases panicked

/-- An error that lists what was recorded last. -/
theorem failTermination (diagnostics : TerminationDiagnostics) (action : TerminationAction)
    (source : AttemptSource) :
    NeverPanics (ProcessHandle.failTermination (diagnostics.record action source) :
      Operation Sink (Except TerminationError α)) := by
  intro system handle message panicked
  simp only [ProcessHandle.failTermination, Program.bind_run, Program.get_run,
    Program.andThen_returned, intoTerminationFailed, TerminationDiagnostics.record,
    List.append_eq_nil_iff, List.cons_ne_nil, and_false, if_false, Program.pure_run] at panicked
  cases panicked

theorem attemptGracefulPhase (index : Nat) (signalName : String) (timeout : Duration)
    (diagnostics : TerminationDiagnostics) :
    NeverPanics (ProcessHandle.attemptGracefulPhase index signalName timeout diagnostics :
      Operation Sink _) := by
  refine (NeverPanics.sendSignal index signalName).bind fun sendReply => ?_
  cases sendReply with
  | ok sent =>
      refine (NeverPanics.waitForExitAfterSignal timeout).bind ?_
      rintro (error | _ | status) <;> exact .pure _
  | error sendError =>
      refine (NeverPanics.waitForExitAfterSignal reapAfterSignalFailureGrace).bind ?_
      rintro (error | _ | status) <;> exact .pure _

theorem attemptForcefulKill (diagnostics : TerminationDiagnostics) :
    NeverPanics (ProcessHandle.attemptForcefulKill platform diagnostics : Operation Sink _) := by
  refine NeverPanics.sendKillSignal.bind fun killReply => ?_
  cases killReply with
  | ok killed =>
      refine (NeverPanics.waitForExitAfterSignal forceKillWaitTimeout).bind ?_
      rintro (error | _ | status)
      · exact .failTermination _ _ _
      · exact .failTermination _ _ _
      · exact .pure _
  | error killError =>
      refine (NeverPanics.waitForExitAfterSignal reapAfterSignalFailureGrace).bind ?_
      rintro (error | _ | status)
      · exact .failTermination _ _ _
      · exact .failTermination _ _ _
      · exact .pure _

theorem attemptSteps (index : Nat) (steps : List TerminationStep)
    (diagnostics : TerminationDiagnostics) :
    NeverPanics (ProcessHandle.attemptSteps platform index steps diagnostics :
      Operation Sink _) := by
  induction steps generalizing index diagnostics with
  | nil => exact .attemptForcefulKill diagnostics
  | cons step rest ih =>
      refine (NeverPanics.attemptGracefulPhase index _ _ diagnostics).bind ?_
      rintro ⟨_ | status, later⟩
      · exact ih (index + 1) later
      · exact .pure _

/-- **A termination never panics**: its policy has a step, and an error has an attempt to list. -/
theorem terminate (shutdown : GracefulShutdown platform) :
    NeverPanics (ProcessHandle.terminate shutdown : Operation Sink _) := by
  unfold ProcessHandle.terminate runTerminationLoop
  rw [if_neg shutdown.steps_ne_nil, terminationBlock]
  refine (NeverPanics.tryReapExitStatus.bind ?_).bind ?_
  · rintro (error | _ | status)
    · exact .attemptSteps 0 _ _
    · exact .attemptSteps 0 _ _
    · exact .pure _
  · rintro (error | status)
    · exact .pure _
    · exact (NeverPanics.modify _).bind fun _ => .pure _

end NeverPanics

/-! ## Dropping a wrapper -/

section Wrapper

variable (system : System Sink) {dropping : Dropping} (shutdown : GracefulShutdown platform)
  (fallback : TerminateOnDropFallback)

/-- The fields are dropped behind the destructor, however it ends. -/
theorem dropGlue_state (destructor fields : DropCode Sink PUnit) (dropping : Dropping) :
    (dropGlue destructor fields system dropping).2 =
      (fields system (destructor system dropping).2).2 := by
  unfold dropGlue
  cases destructor system dropping with
  | mk fate later => cases fate <;> rfl

theorem nothingToTerminate_closed (disarmed : dropping.handle.dropMode = .disarmed) :
    ∃ reports, nothingToTerminate system dropping = (.returned true, { dropping with reports }) := by
  simp only [nothingToTerminate, Program.bind_run, Program.get_run, Program.andThen_returned,
    disarmed, if_true]
  exact ⟨_, rfl⟩

theorem nothingToTerminate_exited (armed : dropping.handle.dropMode = .armed true)
    {status : ExitStatus} (exited : system.probe dropping.handle.events = .ok (some status)) :
    ∃ reports, nothingToTerminate system dropping = (.returned true, { dropping with
      handle := (dropping.handle.note (.probed (.ok (some status)))).mustNotBeTerminated, reports }) := by
  simp only [nothingToTerminate, Program.bind_run, Program.get_run, Program.andThen_returned,
    armed, reduceCtorEq, if_false, onHandle, isRunning, tryReapExitStatus, exited]
  exact ⟨_, rfl⟩

/-- The probe has not found an exit. -/
def NotExited (system : System Sink) (handle : ProcessHandle) : Prop :=
  ∀ status, system.probe handle.events ≠ .ok (some status)

theorem nothingToTerminate_running (armed : dropping.handle.dropMode = .armed true)
    (running : NotExited system dropping.handle) :
    ∃ reports, nothingToTerminate system dropping = (.returned false, { dropping with
      handle := dropping.handle.note (.probed (system.probe dropping.handle.events)), reports }) := by
  simp only [nothingToTerminate, Program.bind_run, Program.get_run, Program.andThen_returned,
    armed, reduceCtorEq, if_false, onHandle, isRunning, tryReapExitStatus]
  rcases probe : system.probe dropping.handle.events with error | _ | status
  · exact ⟨_, rfl⟩
  · exact ⟨dropping.reports, rfl⟩
  · exact absurd probe (running status)

/-- The calls of a `start_kill`. -/
def startKillEvents (system : System Sink) (handle : ProcessHandle) : List Event :=
  .killed (system.kill handle.events) ::
    match system.kill handle.events with
    | .ok () => []
    | .error error => [.probed (system.probe (handle.events ++ [.killed (.error error)]))]

theorem startKill_calls (handle : ProcessHandle) :
    (startKill platform system handle).2.events =
        handle.events ++ startKillEvents system handle ∧
      (startKill platform system handle).2.name = handle.name := by
  cases killed : system.kill handle.events with
  | ok sent => simp [startKill, sendKillSignal, killed, startKillEvents, mustNotBeTerminated,
      closeStdin]
  | error error =>
      rcases probe : system.probe (handle.events ++ [.killed (.error error)]) with
        reapError | _ | status <;>
      simp [startKill, sendKillSignal, tryReapExitStatus, killed, probe, failTermination,
        intoTerminationFailed, TerminationDiagnostics.record, startKillEvents, mustNotBeTerminated,
        closeStdin]

/-- The panics of the fallback: only outside a runtime that could wait, and only if it says so. -/
def fallbackPanics (fallback : TerminateOnDropFallback) (context : UnsupportedContext)
    (name : String) : List String :=
  match context, fallback with
  | .noRuntime, .panic | .currentThreadRuntime, .panic => [fallbackPanicMessage name context]
  | _, _ => []

theorem reportFallback_run {context : UnsupportedContext}
    (unsupported : dropping.thread.unsupported = some context) :
    Dropped dropping [] (fallbackPanics fallback context dropping.handle.name)
        (reportFallback fallback context system dropping).2 ∧
      (reportFallback fallback context system dropping).2.handle = dropping.handle := by
  have quiet : context = .noRuntime ∨ context = .currentThreadRuntime →
      dropping.thread.panicking = false := by
    rintro unwound
    unfold ThreadContext.unsupported at unsupported
    split at unsupported
    · rcases unwound with rfl | rfl <;> cases unsupported
    · simp_all
  cases context with
  | panicking => exact ⟨.calm (List.append_nil _).symm rfl rfl rfl, rfl⟩
  | runtimeShuttingDown => exact ⟨.calm (List.append_nil _).symm rfl rfl rfl, rfl⟩
  | noRuntime =>
      cases fallback with
      | trace => exact ⟨.calm (List.append_nil _).symm rfl rfl rfl, rfl⟩
      | panic => exact ⟨.raise system _ (quiet (.inl rfl)), rfl⟩
  | currentThreadRuntime =>
      cases fallback with
      | trace => exact ⟨.calm (List.append_nil _).symm rfl rfl rfl, rfl⟩
      | panic => exact ⟨.raise system _ (quiet (.inr rfl)), rfl⟩

/-- **A forceful termination kills once and closes the lifecycle**, whatever the kill answers. -/
theorem terminateForcefully_run {context : UnsupportedContext}
    (unsupported : dropping.thread.unsupported = some context) :
    Dropped dropping (startKillEvents system dropping.handle)
        (fallbackPanics fallback context dropping.handle.name)
        (terminateForcefully platform fallback context system dropping).2 ∧
      (terminateForcefully platform fallback context system dropping).2.handle.dropMode =
        .disarmed := by
  obtain ⟨calls, name⟩ := @startKill_calls Sink platform system dropping.handle
  rcases @startKill_ends Sink platform system dropping.handle with
    ⟨succeeded, disarmed⟩ | ⟨⟨error, failed⟩, _⟩
  · cases run : startKill platform system dropping.handle with
    | mk fate handle =>
        rw [run] at calls name succeeded disarmed
        cases succeeded
        have killed : Dropped dropping (startKillEvents system dropping.handle) []
            { dropping with handle } := .calm calls rfl rfl rfl
        obtain ⟨reported, same⟩ := @reportFallback_run Sink system { dropping with handle } fallback
          context unsupported
        simp only [terminateForcefully, Program.bind_run, onHandle, run, Program.andThen_returned]
        refine ⟨?_, ?_⟩
        · have both := killed.trans reported
          rw [List.append_nil, List.nil_append] at both
          rwa [← name]
        · rw [same]
          exact disarmed
  · cases run : startKill platform system dropping.handle with
    | mk fate handle =>
        rw [run] at calls name failed
        cases failed
        let later : Dropping := { dropping with
          handle := handle.mustNotBeTerminated
          reports := dropping.reports ++
            [⟨.error, "Failed to kill process during drop. The process may be leaked."⟩] }
        have killed : Dropped dropping (startKillEvents system dropping.handle) [] later :=
          .calm calls rfl rfl rfl
        obtain ⟨reported, same⟩ := @reportFallback_run Sink system later fallback context unsupported
        simp only [terminateForcefully, Program.bind_run, onHandle, run, Program.andThen_returned,
          report, Program.modify_run]
        refine ⟨?_, ?_⟩
        · have both := killed.trans reported
          rw [List.append_nil, List.nil_append] at both
          rwa [← name]
        · exact congrArg dropMode same

/-- The panic of a termination on which the thread blocks. -/
def blockingPanics {α : Type} : Fate α → List String
  | .dropped => [beingShutdown]
  | .returned _ | .panicked _ => []

/-- The graceful shutdown is the termination of the handle. -/
theorem terminateGracefully_run (quiet : dropping.thread.panicking = false) :
    ∃ events, (terminate shutdown system dropping.handle).2.events =
        dropping.handle.events ++ events ∧
      Dropped dropping events (blockingPanics (terminate shutdown system dropping.handle).1)
        (terminateGracefully shutdown system dropping).2 ∧
      (terminateGracefully shutdown system dropping).2.handle =
        (terminate shutdown system dropping.handle).2 := by
  obtain ⟨_, ⟨⟨events, calls, _⟩, _⟩, _⟩ := terminate_tells shutdown system dropping.handle
  have calm := NeverPanics.terminate shutdown system dropping.handle
  refine ⟨events, calls, ?_⟩
  cases run : terminate shutdown system dropping.handle with
  | mk fate handle =>
      rw [run] at calls calm
      cases fate with
      | panicked message => exact absurd rfl (calm message)
      | dropped =>
          simp only [terminateGracefully, Program.bind_run, report, Program.modify_run,
            Program.andThen_returned, onHandle, run]
          let later : Dropping := { dropping with
            handle, reports := dropping.reports ++ [⟨.debug, "Terminating process."⟩] }
          have waited : Dropped dropping events [] later := .calm calls rfl rfl rfl
          have both := waited.trans
            (@Dropped.raise _ (Except TerminationError ExitStatus) system later beingShutdown quiet)
          rw [List.append_nil, List.nil_append] at both
          exact ⟨both, rfl⟩
      | returned result =>
          simp only [terminateGracefully, Program.bind_run, report, Program.modify_run,
            Program.andThen_returned, onHandle, run]
          cases result with
          | ok status => exact ⟨.calm calls rfl rfl rfl, rfl⟩
          | error error => exact ⟨.calm calls rfl rfl rfl, rfl⟩

/-- The panic behind a termination without success: that of the await, or that of the handle. -/
def unsuccessfulPanic {α : Type} (thread : ThreadContext) : Fate α → String
  | .dropped => beingShutdown
  | .returned _ | .panicked _ => panicOnDropMessage thread.backtrace

/-- Behind a panic of the await the handle's own is suppressed. -/
theorem blockingPanics_append {α : Type} {thread : ThreadContext} (fate : Fate α)
    (quiet : thread.panicking = false) :
    blockingPanics fate ++ guardPanics
        { thread with panicking := thread.panicking || !(blockingPanics fate).isEmpty } =
      [unsuccessfulPanic thread fate] := by
  cases fate <;> simp [blockingPanics, guardPanics, unsuccessfulPanic, quiet]

/-! ### The ways a wrapper is dropped -/

/-- A wrapper whose lifecycle is closed does nothing. -/
theorem dropWrapper_closed (disarmed : dropping.handle.dropMode = .disarmed) :
    Dropped dropping [] [] (dropWrapper shutdown fallback system dropping).2 := by
  obtain ⟨reports, nothing⟩ := nothingToTerminate_closed system disarmed
  have destroyed : destroyWrapper shutdown fallback system dropping =
      (.returned ⟨⟩, { dropping with reports }) := by
    rw [destroyWrapper, Program.bind_run, nothing]
    rfl
  have same := @dropHandle_disarmed Sink system { dropping with reports } disarmed
  rw [dropWrapper, dropGlue_state, destroyed, same]
  exact .calm (List.append_nil _).symm rfl rfl rfl

/-- A process that has exited is only probed. -/
theorem dropWrapper_exited (armed : dropping.handle.dropMode = .armed true) {status : ExitStatus}
    (exited : system.probe dropping.handle.events = .ok (some status)) :
    Dropped dropping [.probed (.ok (some status))] []
      (dropWrapper shutdown fallback system dropping).2 := by
  obtain ⟨reports, nothing⟩ := nothingToTerminate_exited system armed exited
  have destroyed : destroyWrapper shutdown fallback system dropping =
      (.returned ⟨⟩, { dropping with
        handle := (dropping.handle.note (.probed (.ok (some status)))).mustNotBeTerminated
        reports }) := by
    rw [destroyWrapper, Program.bind_run, nothing]
    rfl
  rw [dropWrapper, dropGlue_state, destroyed, dropHandle_disarmed system rfl]
  exact .calm rfl rfl rfl rfl

section Running

variable (armed : dropping.handle.dropMode = .armed true)
  (running : NotExited system dropping.handle)

/-- The handle behind the probe. -/
def probed (system : System Sink) (handle : ProcessHandle) : ProcessHandle :=
  handle.note (.probed (system.probe handle.events))

include armed running in
/-- Where the thread cannot wait, the process is killed once, and the lifecycle is closed. -/
theorem dropWrapper_forced {context : UnsupportedContext}
    (unsupported : dropping.thread.unsupported = some context) :
    Dropped dropping (.probed (system.probe dropping.handle.events) ::
          startKillEvents system (probed system dropping.handle))
        (fallbackPanics fallback context dropping.handle.name)
        (dropWrapper shutdown fallback system dropping).2 ∧
      (dropWrapper shutdown fallback system dropping).2.handle.dropMode = .disarmed := by
  obtain ⟨reports, something⟩ := nothingToTerminate_running system armed running
  let later : Dropping := { dropping with handle := probed system dropping.handle, reports }
  have destroyed : destroyWrapper shutdown fallback system dropping =
      terminateForcefully platform fallback context system later := by
    rw [destroyWrapper, Program.bind_run, something]
    simp only [Program.andThen_returned, Bool.false_eq_true, if_false, tryRunFuture,
      Program.bind_run, Program.get_run, unsupported, Program.pure_run]
    rfl
  obtain ⟨forced, disarmed⟩ := @terminateForcefully_run Sink platform system later fallback context
    unsupported
  rw [dropWrapper, dropGlue_state, destroyed, dropHandle_disarmed system disarmed]
  have probing : Dropped dropping [.probed (system.probe dropping.handle.events)] [] later :=
    .calm rfl rfl rfl rfl
  exact ⟨probing.trans forced, disarmed⟩

include armed running in
/-- Where the thread can wait, the process is terminated. If that does not succeed, the handle inside
is still armed, and its destructor kills. -/
theorem dropWrapper_graceful (supported : dropping.thread.unsupported = none) :
    ∃ events, (terminate shutdown system (probed system dropping.handle)).2.events =
        dropping.handle.events ++ .probed (system.probe dropping.handle.events) :: events ∧
      ((∃ status, (terminate shutdown system (probed system dropping.handle)).1 =
            .returned (.ok status)) →
          events.any Event.exits = true ∧
          Dropped dropping (.probed (system.probe dropping.handle.events) :: events) []
            (dropWrapper shutdown fallback system dropping).2) ∧
      ((∀ status, (terminate shutdown system (probed system dropping.handle)).1 ≠
            .returned (.ok status)) →
          ∃ reply, Dropped dropping
            (.probed (system.probe dropping.handle.events) :: events ++ [.killed reply])
            [unsuccessfulPanic dropping.thread
              (terminate shutdown system (probed system dropping.handle)).1]
            (dropWrapper shutdown fallback system dropping).2) := by
  obtain ⟨reports, something⟩ := nothingToTerminate_running system armed running
  let later : Dropping := { dropping with handle := probed system dropping.handle, reports }
  have quiet : dropping.thread.panicking = false := by
    unfold ThreadContext.unsupported at supported
    cases unwinding : dropping.thread.panicking with
    | false => rfl
    | true =>
        rw [if_pos unwinding] at supported
        cases supported
  have destroyed : (destroyWrapper shutdown fallback system dropping).2 =
      (terminateGracefully shutdown system later).2 := by
    rw [destroyWrapper, Program.bind_run, something]
    simp only [Program.andThen_returned, Bool.false_eq_true, if_false, tryRunFuture,
      Program.bind_run, Program.get_run, supported]
    cases run : terminateGracefully shutdown system later with
    | mk fate last =>
        simp only [later, probed] at run
        rw [run]
        cases fate <;> rfl
  obtain ⟨events, calls, terminated, handle⟩ :=
    @terminateGracefully_run Sink platform system later shutdown quiet
  obtain ⟨observed, ⟨⟨seen, appended, exits⟩, mode⟩, told⟩ :=
    terminate_tells shutdown system (probed system dropping.handle)
  obtain rfl : seen = events := List.append_cancel_left (appended.symm.trans calls)
  have probing : Dropped dropping [.probed (system.probe dropping.handle.events)] [] later :=
    .calm rfl rfl rfl rfl
  have both := probing.trans terminated
  rw [dropWrapper, dropGlue_state, destroyed]
  refine ⟨seen, ?_, ?_, ?_⟩
  · rw [calls]
    exact List.append_assoc _ [_] seen
  · rintro ⟨status, succeeded⟩
    rw [succeeded] at told both
    obtain rfl : observed = true := told
    have disarmed : (terminateGracefully shutdown system later).2.handle.dropMode = .disarmed := by
      rw [handle]
      exact mode
    rw [dropHandle_disarmed system disarmed]
    exact ⟨exits, both⟩
  · intro unsuccessful
    have silent : observed = false := by
      cases ended : (terminate shutdown system (probed system dropping.handle)).1 with
      | returned result =>
          rw [ended] at told
          cases result with
          | ok status => exact absurd ended (unsuccessful status)
          | error error => exact told
      | dropped =>
          rw [ended] at told
          exact told
      | panicked message => exact absurd ended (NeverPanics.terminate shutdown system _ message)
    have stays : (terminateGracefully shutdown system later).2.handle.dropMode = .armed true := by
      rw [handle]
      rw [silent] at mode
      exact mode.trans armed
    have killed := both.trans (dropHandle_armed system stays)
    rw [List.nil_append, terminated.thread, blockingPanics_append _ quiet] at killed
    exact ⟨_, killed⟩

end Running

end Wrapper

/-! ## Lives -/

section Lives

variable {system : System Sink} {owner ended : Owner platform} {records : List (CallRecord platform)}
  {actions : List (OwnerAction platform)}

/-- The operation of an action. -/
def OwnerAction.call? : OwnerAction platform → Option (LifecycleCall platform)
  | .call operation => some operation
  | .terminateOnDrop _ _ | .unwrap => none

@[simp] theorem Owner.withHandle_handle (handle : ProcessHandle) :
    (owner.withHandle handle).handle = handle := by
  cases owner <;> rfl

/-- Wrapping and unwrapping leave the handle as it is. -/
theorem Owner.run_eq (ran : owner.run system actions = some (records, ended)) :
    runCalls system owner.handle (actions.filterMap OwnerAction.call?) = (records, ended.handle) := by
  induction actions generalizing owner records with
  | nil =>
      cases ran
      rfl
  | cons action rest ih =>
      simp only [Owner.run, Option.bind_eq_bind, Option.bind_eq_some_iff, Prod.exists,
        Option.some.injEq, Prod.mk.injEq] at ran
      obtain ⟨first, middle, stepped, later, last, ran, rfl, rfl⟩ := ran
      have continued := ih ran
      cases action with
      | call call =>
          cases stepped
          rw [withHandle_handle] at continued
          have operation : (OwnerAction.call call).call? = some call := rfl
          rw [List.filterMap_cons_some operation, runCalls, continued]
          rfl
      | terminateOnDrop shutdown fallback =>
          cases owner with
          | bare handle =>
              cases stepped
              exact continued
          | wrapped wrapper => cases stepped
      | unwrap =>
          cases owner with
          | bare handle => cases stepped
          | wrapped wrapper =>
              cases stepped
              exact continued

/-- The guard of an armed handle is armed. -/
theorem runCalls_guarded {handle : ProcessHandle}
    (guarded : handle.dropMode = .armed true ∨ handle.dropMode = .disarmed)
    (calls : List (LifecycleCall platform)) :
    (runCalls system handle calls).2.dropMode = .armed true ∨
      (runCalls system handle calls).2.dropMode = .disarmed := by
  induction calls generalizing handle with
  | nil => exact guarded
  | cons call rest ih =>
      apply ih
      have follows := call.record_follows system handle
      by_cases arms : (call.record system handle).Arms
      · exact .inl (follows.arms arms)
      · by_cases disarms : (call.record system handle).Disarms
        · exact .inr (follows.disarms disarms)
        · have kept : (call.run system handle).2.dropMode = handle.dropMode :=
            follows.keeps arms disarms
          rw [kept]
          exact guarded

section Spawned

variable {name : String} {stdIn : Stdin} {exclusive : Side → Bool}

/-- A life that begins with a spawned handle ends with one that is disarmed exactly if its lifecycle
was closed, and fully armed otherwise. -/
theorem Owner.run_mode
    (ran : (Owner.bare (spawn name stdIn exclusive)).run system actions = some (records, ended)) :
    DisarmedSince records ∧ ended.handle.dropMode = .disarmed ∨
      ¬ DisarmedSince records ∧ ended.handle.dropMode = .armed true := by
  have calls := Owner.run_eq ran
  have mode := @runCalls_disarmed_iff Sink platform system (spawn name stdIn exclusive)
    (actions.filterMap OwnerAction.call?)
  have guarded := @runCalls_guarded Sink platform system (spawn name stdIn exclusive) (.inl rfl)
    (actions.filterMap OwnerAction.call?)
  rw [Owner.handle] at calls
  rw [calls, or_iff_left fun disarmed => DropMode.noConfusion disarmed.1] at mode
  rw [calls] at guarded
  rcases guarded with armed | disarmed
  · refine .inr ⟨fun closed => ?_, armed⟩
    rw [mode.mpr closed] at armed
    cases armed
  · exact .inl ⟨mode.mp disarmed, disarmed⟩

/-- The drop of an armed handle or wrapper makes calls, among them a kill or one that reports the
exit. -/
theorem Owner.drop_armed (owner : Owner platform) (thread : ThreadContext)
    (armed : owner.handle.dropMode = .armed true) :
    ∃ events raised, Dropped { handle := owner.handle, thread } events raised
        (owner.drop system thread).2 ∧
      (events.any Event.exits = true ∨ ∃ reply, Event.killed reply ∈ events) := by
  cases owner with
  | bare handle =>
      exact ⟨_, _, @dropHandle_armed Sink system { handle, thread } armed,
        .inr ⟨_, List.mem_singleton_self _⟩⟩
  | wrapped wrapper =>
      let dropping : Dropping := { handle := wrapper.processHandle, thread }
      by_cases running : NotExited system wrapper.processHandle
      · cases waits : thread.unsupported with
        | some context =>
            have forced := @dropWrapper_forced Sink platform system dropping wrapper.shutdown
              wrapper.fallback armed running context waits
            exact ⟨_, _, forced.1, .inr ⟨_, List.mem_cons_of_mem _ List.mem_cons_self⟩⟩
        | none =>
            obtain ⟨events, _, succeeded, failed⟩ := @dropWrapper_graceful Sink platform system
              dropping wrapper.shutdown wrapper.fallback armed running waits
            by_cases success : ∃ status, (terminate wrapper.shutdown system
                (probed system wrapper.processHandle)).1 = .returned (.ok status)
            · obtain ⟨exits, dropped⟩ := succeeded success
              refine ⟨_, _, dropped, .inl ?_⟩
              rw [List.any_cons, exits, Bool.or_true]
            · obtain ⟨reply, dropped⟩ := failed fun status ended => success ⟨status, ended⟩
              exact ⟨_, _, dropped, .inr ⟨reply, by simp⟩⟩
      · obtain ⟨status, exited⟩ := not_forall_not.mp running
        exact ⟨_, _, @dropWrapper_exited Sink platform system dropping wrapper.shutdown
          wrapper.fallback armed status exited, .inl rfl⟩

/-- The drop of a handle or wrapper whose lifecycle is closed. -/
theorem Owner.drop_disarmed (owner : Owner platform) (thread : ThreadContext)
    (disarmed : owner.handle.dropMode = .disarmed) :
    Dropped { handle := owner.handle, thread } [] [] (owner.drop system thread).2 := by
  cases owner with
  | bare handle =>
      rw [Owner.drop, @dropHandle_disarmed Sink system { handle, thread } disarmed]
      exact .calm (List.append_nil _).symm rfl rfl rfl
  | wrapped wrapper =>
      exact @dropWrapper_closed Sink platform system { handle := wrapper.processHandle, thread }
        wrapper.shutdown wrapper.fallback disarmed

/-- **A drop never panics twice and leaves the process alone only when it may.** For every life of a
spawned handle, with any operations, wrapped and unwrapped any number of times, and for every thread
on which it is dropped in the end: no panic is raised in an unwind, so the process is not aborted, and
at most one otherwise. If the lifecycle was closed, the drop makes no call and raises nothing.
Otherwise it observes that the process has exited, or attempts to kill the process group. The calls of
the drop have the answers of the system, so an exit it observes is one that the system reports. -/
theorem drop_accounts (thread : ThreadContext)
    (ran : (Owner.bare (spawn name stdIn exclusive)).run system actions = some (records, owner)) :
    ((owner.drop system thread).2.aborted = false ∧
      (owner.drop system thread).2.panics.length ≤ 1 ∧
      (thread.panicking = true → (owner.drop system thread).2.panics = [])) ∧
    system.Answered owner.handle.events (owner.drop system thread).2.handle.events ∧
    (DisarmedSince records →
      (owner.drop system thread).2.handle.events = owner.handle.events ∧
        (owner.drop system thread).2.panics = []) ∧
    (¬ DisarmedSince records → ∃ events,
      (owner.drop system thread).2.handle.events = owner.handle.events ++ events ∧
        (events.any Event.exits = true ∨ ∃ reply, Event.killed reply ∈ events)) := by
  rcases Owner.run_mode ran with ⟨closed, disarmed⟩ | ⟨isOpen, armed⟩
  · have dropped := @Owner.drop_disarmed Sink platform system owner thread disarmed
    have events := dropped.calls
    rw [List.append_nil] at events
    refine ⟨⟨dropped.aborted, ?_, fun _ => dropped.panics⟩, owner.drop_answered system thread,
      fun _ => ⟨events, dropped.panics⟩, fun stillOpen => absurd closed stillOpen⟩
    rw [dropped.panics]
    exact Nat.zero_le 1
  · obtain ⟨events, raised, dropped, ended⟩ :=
      @Owner.drop_armed Sink platform system owner thread armed
    have panics : (owner.drop system thread).2.panics = raised := dropped.panics
    refine ⟨⟨dropped.aborted, ?_, fun unwinding => ?_⟩, owner.drop_answered system thread,
      fun closed => absurd closed isOpen, fun _ => ⟨events, dropped.calls, ended⟩⟩
    · rw [panics]
      rcases dropped.once with rfl | ⟨_, one⟩
      · exact Nat.zero_le 1
      · exact Nat.le_of_eq one
    · rw [panics]
      rcases dropped.once with none | ⟨quiet, _⟩
      · exact none
      · rw [unwinding] at quiet
        cases quiet

/-- The reasons for which the drop of an armed wrapper around a running process panics. -/
def WrapperPanics (system : System Sink) (thread : ThreadContext)
    (wrapper : TerminateOnDrop platform) : Prop :=
  match thread.unsupported with
  | some .panicking | some .runtimeShuttingDown => False
  | some .noRuntime | some .currentThreadRuntime => wrapper.fallback = .panic
  | none => ∀ status, (terminate wrapper.shutdown system
      (probed system wrapper.processHandle)).1 ≠ .returned (.ok status)

theorem fallbackPanics_ne_nil (fallback : TerminateOnDropFallback) (context : UnsupportedContext)
    (name : String) : fallbackPanics fallback context name ≠ [] ↔
      fallback = .panic ∧ (context = .noRuntime ∨ context = .currentThreadRuntime) := by
  cases context <;> cases fallback <;> simp [fallbackPanics]

/-- **When the drop of a wrapper panics, and how it kills.** The drop panics exactly if the lifecycle
is still open, the process has not exited, and either the thread could wait and the termination did
not succeed, or no usable runtime is entered and the fallback is to panic. On a thread that cannot
wait the running process is killed with one attempt, no graceful signal is sent, and the handle is
disarmed behind it, whatever the kill answers. -/
theorem wrapper_drop_panics_iff (thread : ThreadContext) {wrapper : TerminateOnDrop platform}
    (ran : (Owner.bare (spawn name stdIn exclusive)).run system actions =
      some (records, .wrapped wrapper)) :
    (((Owner.wrapped wrapper).drop system thread).2.panics ≠ [] ↔
      ¬ DisarmedSince records ∧ NotExited system wrapper.processHandle ∧
        WrapperPanics system thread wrapper) ∧
    (∀ context, thread.unsupported = some context → ¬ DisarmedSince records →
      NotExited system wrapper.processHandle →
        ((Owner.wrapped wrapper).drop system thread).2.handle.events =
            wrapper.processHandle.events ++
              .probed (system.probe wrapper.processHandle.events) ::
                startKillEvents system (probed system wrapper.processHandle) ∧
          ((Owner.wrapped wrapper).drop system thread).2.handle.dropMode = .disarmed) := by
  let dropping : Dropping := { handle := wrapper.processHandle, thread }
  rcases Owner.run_mode ran with ⟨closed, disarmed⟩ | ⟨isOpen, armed⟩
  · have dropped := @Owner.drop_disarmed Sink platform system (.wrapped wrapper) thread disarmed
    refine ⟨⟨fun raised => absurd dropped.panics raised, fun stillOpen => absurd closed stillOpen.1⟩,
      fun _ _ stillOpen => absurd closed stillOpen⟩
  have armed : dropping.handle.dropMode = .armed true := armed
  by_cases running : NotExited system wrapper.processHandle
  case neg =>
    obtain ⟨status, exited⟩ := not_forall_not.mp running
    have dropped := @dropWrapper_exited Sink platform system dropping wrapper.shutdown
      wrapper.fallback armed status exited
    exact ⟨⟨fun raised => absurd dropped.panics raised, fun still => absurd still.2.1 running⟩,
      fun _ _ _ still => absurd still running⟩
  have alive : NotExited system dropping.handle := running
  cases waits : thread.unsupported with
  | some context =>
      have forced := @dropWrapper_forced Sink platform system dropping wrapper.shutdown
        wrapper.fallback armed alive context waits
      have panics : ((Owner.wrapped wrapper).drop system thread).2.panics =
          fallbackPanics wrapper.fallback context wrapper.processHandle.name := forced.1.panics
      refine ⟨?_, fun _ _ _ _ => ⟨forced.1.calls, forced.2⟩⟩
      rw [panics, fallbackPanics_ne_nil, WrapperPanics, waits]
      cases context <;> simp [isOpen, running]
  | none =>
      obtain ⟨events, _, succeeded, failed⟩ := @dropWrapper_graceful Sink platform system
        dropping wrapper.shutdown wrapper.fallback armed alive waits
      refine ⟨?_, fun _ unsupported => by cases unsupported⟩
      rw [WrapperPanics, waits]
      by_cases success : ∃ status, (terminate wrapper.shutdown system
          (probed system wrapper.processHandle)).1 = .returned (.ok status)
      · obtain ⟨status, ended⟩ := success
        have dropped := (succeeded ⟨status, ended⟩).2
        exact ⟨fun raised => absurd dropped.panics raised, fun still => absurd ended (still.2.2 status)⟩
      · have unsuccessful := fun status ended => success ⟨status, ended⟩
        obtain ⟨reply, dropped⟩ := failed unsuccessful
        have panics : ((Owner.wrapped wrapper).drop system thread).2.panics = [_] := dropped.panics
        refine ⟨fun _ => ⟨isOpen, running, unsuccessful⟩, fun _ none => ?_⟩
        cases panics.symm.trans none

end Spawned

end Lives

end Destructors

/-! ## A life -/

/-- A system whose process takes every signal and is never seen to exit. -/
def survivingSystem : System fun _ => Unit where
  probe _ := .ok none
  send _ _ _ := .ok ()
  kill _ := .ok ()
  wait _ _ := .elapsed
  othersGone _ _ := true
  joins _ _ := true
  drain _ := ⟨fun _ => .ok (.ok ()), []⟩

/-- A handle that is wrapped and asked whether its process runs. -/
def wrappedLife : List (OwnerAction .unix) :=
  [.terminateOnDrop (.terminateOnly (.fromSecs 5)) .panic, .call .isRunning]

/-- The wrapper at the end of that life. -/
def wrappedChild : TerminateOnDrop .unix where
  processHandle := (spawn "child" .open fun _ => true).note (.probed (.ok none))
  shutdown := .terminateOnly (.fromSecs 5)
  fallback := .panic

theorem wrappedLife_run :
    (Owner.bare (spawn "child" .open fun _ => true)).run survivingSystem wrappedLife =
      some ([LifecycleCall.isRunning.record survivingSystem (spawn "child" .open fun _ => true)],
        .wrapped wrappedChild) := rfl

/-- Dropped outside a runtime, the wrapper kills the process and panics; in an unwind it does not
panic. -/
theorem drop_accounts_wrapped :
    ((Owner.wrapped wrappedChild).drop survivingSystem {}).2.aborted = false ∧
    ((Owner.wrapped wrappedChild).drop survivingSystem {}).2.panics =
      [fallbackPanicMessage "child" .noRuntime] ∧
    ((Owner.wrapped wrappedChild).drop survivingSystem { panicking := true }).2.panics = [] ∧
    ((Owner.wrapped wrappedChild).drop survivingSystem {}).2.handle.events =
      [.probed (.ok none), .probed (.ok none), .killed (.ok ())] :=
  ⟨(drop_accounts {} wrappedLife_run).1.1, rfl,
    (drop_accounts { panicking := true } wrappedLife_run).1.2.2 rfl, rfl⟩

/-- On a thread that can wait, the process survives the graceful signal and the kill of the
termination. The handle inside kills again, and the drop panics. -/
theorem wrapper_drop_panics_stubborn :
    ((Owner.wrapped wrappedChild).drop survivingSystem
      { runtime := some .multiThread }).2.panics ≠ [] := by
  apply (wrapper_drop_panics_iff { runtime := some .multiThread } wrappedLife_run).1.mpr
  refine ⟨?_, ?_, ?_⟩
  · rintro ⟨earlier, record, later, split, disarms, -⟩
    cases earlier with
    | nil =>
        obtain ⟨rfl, rfl⟩ := List.cons.inj split
        exact disarms
    | cons first rest => cases rest <;> cases (List.cons.inj split).2
  · intro status probed
    cases probed
  · intro status ended
    cases ended

end TokioProcessTools.ProcessHandle
