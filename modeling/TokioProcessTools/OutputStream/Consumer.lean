import TokioProcessTools.OutputStream.Event

/-!
# Consumers

A consumer owns the task that drives a visitor over a subscription. The task
ends with the visitor's output or with a read error, and its `JoinHandle`
returns that once, or a join error when the task panicked or was cancelled.
Awaiting the handle again after it has returned panics.

`ConsumerWaitGuard` holds the handle and the sender of the termination signal
while somebody waits for the task. An abort sends the signal, requests the
abort of the task and awaits it; a drop does not await it.
-/

set_option autoImplicit false

namespace TokioProcessTools.OutputStream

/-- `tokio::task::JoinError`: the task was cancelled or panicked. -/
inductive JoinError where
  | cancelled
  | panicked (message : String)
  deriving DecidableEq, Repr

/-- What a consumer task's `JoinHandle` returns. -/
abbrev TaskOutput (S : Type) := Except JoinError (Except StreamReadError S)

/-- `ConsumerError`. -/
inductive ConsumerError where
  | taskJoin (streamName : String) (source : JoinError)
  | streamRead (source : StreamReadError)
  deriving DecidableEq, Repr

/-- How `ConsumerWaitGuard::wait` hands the output of the task on. -/
def TaskOutput.waited {S : Type} (streamName : String) : TaskOutput S → Except ConsumerError S
  | .error source => .error (.taskJoin streamName source)
  | .ok (.error source) => .error (.streamRead source)
  | .ok (.ok sink) => .ok sink

/-- A consumer task, as those who hold its handle and its termination sender see it. -/
structure Task (S : Type) where
  /-- What the handle has returned. -/
  returned : Option (TaskOutput S) := none
  abortRequested : Bool := false
  terminationSent : Bool := false
  deriving DecidableEq

/-- `ConsumerWaitGuard`: which of its slots are filled. -/
structure ConsumerWaitGuard where
  task : Bool := true
  taskTerminationSender : Bool := true
  deriving DecidableEq, Repr

/-- A guard together with its task. -/
structure Guarded (S : Type) where
  guard : ConsumerWaitGuard := {}
  task : Task S := {}
  deriving DecidableEq

namespace Guarded

variable {S : Type} (guarded : Guarded S)

/-- Send the termination signal if its sender is still there, and request the abort of the task if
its handle is: how both `abort` and `drop` of the guard begin. -/
def stopTask : Guarded S where
  guard := { guarded.guard with taskTerminationSender := false }
  task := { guarded.task with
    terminationSent := guarded.task.terminationSent || guarded.guard.taskTerminationSender
    abortRequested := guarded.task.abortRequested || guarded.guard.task }

/-- `Drop for ConsumerWaitGuard`. -/
def dropGuard : Guarded S :=
  { guarded.stopTask with guard := { guarded.stopTask.guard with task := false } }

/-- The handle returns the output of the task. -/
def joined (output : TaskOutput S) : Guarded S :=
  { guarded with task := { guarded.task with returned := some output } }

/-- `ConsumerWaitGuard::wait` behind the await: a join error leaves by `?` before the slots are
cleared. -/
def afterWait (output : TaskOutput S) : Guarded S :=
  match output with
  | .error _ => guarded.joined output
  | .ok _ => { guarded.joined output with guard := ⟨false, false⟩ }

/-- `ConsumerWaitGuard::abort` behind the await. -/
def afterAbort (output : TaskOutput S) : Guarded S :=
  { guarded.joined output with guard := { guarded.guard with task := false } }

@[simp] theorem afterWait_returned (output : TaskOutput S) :
    (guarded.afterWait output).task.returned = some output := by
  cases output <;> rfl

end Guarded

end TokioProcessTools.OutputStream
