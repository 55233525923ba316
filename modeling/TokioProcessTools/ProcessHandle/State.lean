import TokioProcessTools.Foundation.Program
import TokioProcessTools.ProcessHandle.Error
import TokioProcessTools.ProcessHandle.OutputCollection.Drain

/-!
# The process handle and the system it runs on

An operation on a handle asks the operating system and the runtime: it probes
for an exit, sends signals, waits for the child, subscribes to the output
streams and joins collector tasks. `System` answers each call, knowing
everything that happened before; so a statement about every system is one about
every result the calls may have, in any combination.

The handle records the calls with their answers. The record is not part of the
program; no operation reads it.
-/

set_option autoImplicit false

namespace TokioProcessTools.ProcessHandle

open Foundation OutputStream OutputCollection

/-- How a wait for the child ends. A wait that is still pending ends when its timeout elapses, or
when the caller drops the future. -/
inductive WaitReply where
  | exited (status : ExitStatus)
  | failed (error : IoError)
  | elapsed
  | dropped
  deriving DecidableEq, Repr

/-- A call with its answer. -/
inductive Event where
  /-- `ProcessGroup::try_wait`. -/
  | probed (reply : Except IoError (Option ExitStatus))
  /-- A graceful signal; `index` is the phase it was sent in. -/
  | sent (index : Nat) (signalName : String) (reply : Except IoError Unit)
  /-- `ProcessGroup::send_kill`. -/
  | killed (reply : Except IoError Unit)
  /-- `ProcessGroup::wait`, under a timeout if there is a bound. -/
  | waited (bound : Option Duration) (reply : WaitReply)
  deriving DecidableEq

/-- The exit status an answer reports. -/
def Event.exit? : Event → Option ExitStatus
  | .probed (.ok status) => status
  | .waited _ (.exited status) => some status
  | _ => none

/-- The choices that let a drain come to its end, or to where it is dropped. -/
structure DrainRun (Sink : Side → Type) where
  results : (side : Side) → TaskOutput (Sink side)
  actions : List DrainAction

/-- The operating system and the runtime. -/
structure System (Sink : Side → Type) where
  probe : List Event → Except IoError (Option ExitStatus)
  send : List Event → Nat → String → Except IoError Unit
  kill : List Event → Except IoError Unit
  wait : List Event → Option Duration → WaitReply
  /-- Whether the consumers others have attached to a stream are gone by now. -/
  othersGone : List Event → Side → Bool
  /-- Whether the await of an aborted collector completes; otherwise the future is dropped there. -/
  joins : List Event → Side → Bool
  drain : List Event → DrainRun Sink

/-- `DropMode`; an armed mode holds a `PanicOnDrop` and whether it is armed. -/
inductive DropMode where
  | armed (panic : Bool)
  | disarmed
  deriving DecidableEq, Repr

/-- `Stdin`. -/
inductive Stdin where
  | open
  | closed
  deriving DecidableEq, Repr

/-- The task of a collector that an operation has spawned. -/
inductive CollectorTask where
  | absent
  | running
  /-- Its abort was requested, and nobody awaits it. -/
  | stopping
  /-- Its handle has returned, so it has dropped its subscription. -/
  | joined
  deriving DecidableEq, Repr

/-- The collector may still hold its subscription. -/
def CollectorTask.attached : CollectorTask → Bool
  | .running | .stopping => true
  | .absent | .joined => false

/-- An output stream: whether its backend allows one consumer only, whether others consume it, and
the collector of the current operation. -/
structure StreamSlot where
  exclusive : Bool
  others : Bool := false
  collector : CollectorTask := .absent
  deriving DecidableEq, Repr

/-- The stream accepts no further consumer. -/
def StreamSlot.occupied (slot : StreamSlot) : Bool :=
  slot.exclusive && (slot.others || slot.collector.attached)

end TokioProcessTools.ProcessHandle

namespace TokioProcessTools

open Foundation OutputStream ProcessHandle OutputCollection

/-- `ProcessHandle`, with the record of the calls made on its behalf. -/
structure ProcessHandle where
  name : String
  stdIn : Stdin := .open
  streams : Side → StreamSlot
  dropMode : DropMode := .armed true
  events : List Event := []

namespace ProcessHandle

/-! ## The drop mode -/

/-- `must_be_terminated`. -/
def mustBeTerminated (handle : ProcessHandle) : ProcessHandle :=
  match handle.dropMode with
  | .armed true => handle
  | _ => { handle with dropMode := .armed true }

/-- `must_not_be_terminated`. -/
def mustNotBeTerminated (handle : ProcessHandle) : ProcessHandle :=
  { handle with dropMode := .disarmed }

/-- `stdin().close()`. -/
def closeStdin (handle : ProcessHandle) : ProcessHandle := { handle with stdIn := .closed }

/-- Record a call. -/
def note (handle : ProcessHandle) (event : Event) : ProcessHandle :=
  { handle with events := handle.events ++ [event] }

/-! ## Calls to the system -/

section Calls

variable {Sink : Side → Type}

/-- An operation on a handle. -/
abbrev Operation (Sink : Side → Type) (α : Type) := Program (System Sink) ProcessHandle α

/-- `try_reap_exit_status`. -/
def tryReapExitStatus : Operation Sink (Except IoError (Option ExitStatus)) :=
  fun system handle =>
    let reply := system.probe handle.events
    (.returned reply, handle.note (.probed reply))

/-- Send a graceful signal to the process group. -/
def sendSignal (index : Nat) (signalName : String) : Operation Sink (Except IoError Unit) :=
  fun system handle =>
    let reply := system.send handle.events index signalName
    (.returned reply, handle.note (.sent index signalName reply))

/-- `send_kill_signal`. -/
def sendKillSignal : Operation Sink (Except IoError Unit) :=
  fun system handle =>
    let reply := system.kill handle.events
    (.returned reply, handle.note (.killed reply))

/-- `wait`, awaited under a timeout if there is a bound. The answer is missing when the timeout has
elapsed; a wait without a bound is pending until it is dropped. -/
def wait (bound : Option Duration) : Operation Sink (Option (Except IoError ExitStatus)) :=
  fun system handle =>
    let handle := handle.closeStdin
    let reply := system.wait handle.events bound
    let handle := handle.note (.waited bound reply)
    match reply, bound with
    | .exited status, _ => (.returned (some (.ok status)), handle.mustNotBeTerminated)
    | .failed error, _ => (.returned (some (.error error)), handle)
    | .elapsed, some _ => (.returned none, handle)
    | .elapsed, none | .dropped, _ => (.dropped, handle)

/-! ## Waiting -/

/-- `wait_for_completion_inner`. -/
def waitForCompletionInner (timeout : Duration) :
    Operation Sink (Except WaitError (WaitForCompletionResult ExitStatus)) := do
  let name := (← Program.get).name
  match ← wait (some timeout) with
  | some (.ok status) => return .ok (.completed status)
  | some (.error source) => return .error (.ioError name source)
  | none => return .ok (.timeout timeout)

/-- `wait_for_completion_unbounded`. -/
def waitForCompletionUnbounded : Operation Sink (Except WaitError ExitStatus) := do
  let name := (← Program.get).name
  match ← wait none with
  | some (.ok status) => return .ok status
  | some (.error source) => return .error (.ioError name source)
  | none => Program.drop

/-- `wait_for_exit_after_signal`. -/
def waitForExitAfterSignal (timeout : Duration) :
    Operation Sink (Except WaitError (Option ExitStatus)) := do
  match ← waitForCompletionInner timeout with
  | .ok (.completed status) => return .ok (some status)
  | .ok (.timeout _) => return .ok none
  | .error error => return .error error

/-! ## What the waits do -/

/-- What `wait_for_exit_after_signal` returns for an answer of the system. -/
def exitAfterSignal (name : String) : WaitReply → Fate (Except WaitError (Option ExitStatus))
  | .exited status => .returned (.ok (some status))
  | .failed error => .returned (.error (.ioError name error))
  | .elapsed => .returned (.ok none)
  | .dropped => .dropped

/-- The handle behind a wait: stdin is closed, and an exit has disarmed it. -/
def waited (handle : ProcessHandle) (bound : Option Duration) (reply : WaitReply) : ProcessHandle :=
  match reply with
  | .exited _ => (handle.closeStdin.note (.waited bound reply)).mustNotBeTerminated
  | .failed _ | .elapsed | .dropped => handle.closeStdin.note (.waited bound reply)

@[simp] theorem note_events (handle : ProcessHandle) (event : Event) :
    (handle.note event).events = handle.events ++ [event] := rfl

@[simp] theorem note_name (handle : ProcessHandle) (event : Event) :
    (handle.note event).name = handle.name := rfl

@[simp] theorem note_dropMode (handle : ProcessHandle) (event : Event) :
    (handle.note event).dropMode = handle.dropMode := rfl

@[simp] theorem closeStdin_events (handle : ProcessHandle) :
    handle.closeStdin.events = handle.events := rfl

@[simp] theorem closeStdin_dropMode (handle : ProcessHandle) :
    handle.closeStdin.dropMode = handle.dropMode := rfl

@[simp] theorem mustNotBeTerminated_events (handle : ProcessHandle) :
    handle.mustNotBeTerminated.events = handle.events := rfl

@[simp] theorem mustNotBeTerminated_dropMode (handle : ProcessHandle) :
    handle.mustNotBeTerminated.dropMode = .disarmed := rfl

@[simp] theorem waited_events (handle : ProcessHandle) (bound : Option Duration)
    (reply : WaitReply) : (handle.waited bound reply).events = handle.events ++ [.waited bound reply] := by
  cases reply <;> rfl

@[simp] theorem waited_name (handle : ProcessHandle) (bound : Option Duration) (reply : WaitReply) :
    (handle.waited bound reply).name = handle.name := by
  cases reply <;> rfl

/-- A wait under a timeout. -/
theorem wait_run (system : System Sink) (handle : ProcessHandle) (timeout : Duration) :
    wait (some timeout) system handle =
      (match system.wait handle.events (some timeout) with
        | .exited status => .returned (some (.ok status))
        | .failed error => .returned (some (.error error))
        | .elapsed => .returned none
        | .dropped => .dropped,
        handle.waited (some timeout) (system.wait handle.events (some timeout))) := by
  simp only [wait, closeStdin_events]
  cases system.wait handle.events (some timeout) <;> rfl

/-- **One wait behind a signal.** -/
theorem waitForExitAfterSignal_run (system : System Sink) (handle : ProcessHandle)
    (timeout : Duration) :
    waitForExitAfterSignal timeout system handle =
      (exitAfterSignal handle.name (system.wait handle.events (some timeout)),
        handle.waited (some timeout) (system.wait handle.events (some timeout))) := by
  simp only [waitForExitAfterSignal, waitForCompletionInner, Program.bind_run, Program.get_run,
    Program.andThen_returned, wait_run]
  cases system.wait handle.events (some timeout) <;> rfl

end Calls

end ProcessHandle

end TokioProcessTools
