import TokioProcessTools.ProcessHandle.OutputCollection.DrainOutcome
import TokioProcessTools.ProcessHandle.Termination

/-!
# Waiting with output collection

An operation that collects output spawns a collector on each stream, waits for
the process, and drains the collectors. A collector holds its subscription until
its task is joined; one that is only dropped goes away at some time later, and an
exclusive stream refuses the next consumer until then.

The model keeps for each stream the collector of the current operation. What
earlier operations have left attached counts as the consumer of somebody else.
-/

set_option autoImplicit false

namespace TokioProcessTools.ProcessHandle

open Foundation OutputStream OutputCollection

/-- `STDOUT_STREAM_NAME` and `STDERR_STREAM_NAME`. -/
def streamName : Side → String
  | .stdout => "stdout"
  | .stderr => "stderr"

/-- `ProcessOutput`. -/
structure ProcessOutput (Sink : Side → Type) where
  status : ExitStatus
  stdout : Sink .stdout
  stderr : Sink .stderr

/-- `ConsumerDrainError::into_wait_with_output_error`. -/
def intoWaitWithOutputError (processName : String) (eofTimeout : Duration) :
    ConsumerDrainError → WaitWithOutputError
  | .collection source => .outputCollectionFailed processName source
  | .timeout => .outputCollectionTimeout processName eofTimeout

def setSlot (handle : ProcessHandle) (side : Side) (slot : StreamSlot) : ProcessHandle :=
  { handle with streams := Function.update handle.streams side slot }

/-- `Drop for Consumer`, for both collectors: those that are not joined are aborted. -/
def dropCollectors (handle : ProcessHandle) : ProcessHandle :=
  { handle with streams := fun side => { handle.streams side with
      collector := if (handle.streams side).collector.attached then .stopping
        else (handle.streams side).collector } }

/-- An operation begins: what is still attached belongs to others. -/
def beginCollection (handle : ProcessHandle) : ProcessHandle :=
  { handle with streams := fun side => { handle.streams side with
      others := (handle.streams side).others || (handle.streams side).collector.attached
      collector := .absent } }

section Operations

variable {Sink : Side → Type}

/-- `try_subscribe`, and the spawn of the collector on the subscription. -/
def spawnCollector (side : Side) : Operation Sink (Except StreamConsumerError Unit) :=
  fun system handle =>
    let slot := handle.streams side
    let slot := { slot with others := slot.others && !system.othersGone handle.events side }
    if slot.occupied then
      (.returned (.error (.activeConsumer (streamName side))), handle.setSlot side slot)
    else (.returned (.ok ()), handle.setSlot side { slot with collector := .running })

/-- The collectors of the given streams behind their abort; those that `joins` holds for are
joined. -/
def abortedCollectors (handle : ProcessHandle) (sides : List Side) (joins : Side → Bool) :
    ProcessHandle where
  name := handle.name
  stdIn := handle.stdIn
  streams side :=
    if side ∈ sides then
      ⟨(handle.streams side).exclusive, (handle.streams side).others,
        if joins side then .joined else .stopping⟩
    else handle.streams side
  dropMode := handle.dropMode
  events := handle.events

/-- `Consumer::abort` on the given streams, all awaited at once. -/
def abortCollectors (sides : List Side) : Operation Sink PUnit :=
  fun system handle =>
    (if sides.all (system.joins handle.events) then .returned PUnit.unit else .dropped,
      handle.abortedCollectors sides (system.joins handle.events))

/-- `try_spawn_output_collectors`. -/
def trySpawnOutputCollectors : Operation Sink (Except WaitWithOutputError Unit) := do
  Program.modify beginCollection
  let name := (← Program.get).name
  match ← spawnCollector .stdout with
  | .error source => return .error (.outputCollectionStartFailed name source)
  | .ok () =>
      match ← spawnCollector .stderr with
      | .ok () => return .ok ()
      | .error source =>
          abortCollectors [.stdout]
          return .error (.outputCollectionStartFailed name source)

/-- The collectors behind a drain: the handle of each has returned, or its guard was dropped. -/
def drained (handle : ProcessHandle) (state : DrainState Sink) : ProcessHandle :=
  { handle with streams := fun side => { handle.streams side with
      collector := if (state.waits side).task.returned.isSome then .joined else .stopping } }

/-- `wait_for_output_consumers`: the system chooses how the drain goes on; where it stops before
the end, the future is dropped. -/
def waitForOutputConsumers :
    Operation Sink (Except ConsumerDrainError (Sink .stdout × Sink .stderr)) :=
  fun system handle =>
    let run := system.drain handle.events
    let machine := drainMachine run.results streamName
    let state := (machine.exec machine.init run.actions).getD machine.init
    match state.place with
    | .returned result => (.returned result, handle.drained state)
    | .panicked => (.panicked "JoinHandle polled after completion", handle.drained state)
    | _ => (.dropped, handle.drained state)

/-- `wait_for_completion_with_collectors`. -/
def waitForCompletionWithCollectors (procTimeout eofTimeout : Duration) :
    Operation Sink (Except WaitWithOutputError (WaitForCompletionResult (ProcessOutput Sink))) := do
  let name := (← Program.get).name
  match ← (waitForCompletionInner procTimeout).onInterrupt dropCollectors with
  | .error error =>
      -- `?` drops the collectors.
      Program.modify dropCollectors
      return .error (.waitFailed error)
  | .ok (.timeout timeout) =>
      abortCollectors [.stdout, .stderr]
      return .ok (.timeout timeout)
  | .ok (.completed status) =>
      match ← waitForOutputConsumers with
      | .ok (stdout, stderr) => return .ok (.completed ⟨status, stdout, stderr⟩)
      | .error error => return .error (intoWaitWithOutputError name eofTimeout error)

/-- `wait_for_completion_or_terminate_with_collectors`. -/
def waitForCompletionOrTerminateWithCollectors {platform : Platform} (waitTimeout : Duration)
    (shutdown : GracefulShutdown platform) (eofTimeout : Duration) :
    Operation Sink
      (Except WaitWithOutputError (WaitForCompletionOrTerminateResult (ProcessOutput Sink))) := do
  let name := (← Program.get).name
  match ← (waitForCompletionOrTerminateInner waitTimeout shutdown).onInterrupt dropCollectors with
  | .error error =>
      Program.modify dropCollectors
      return .error (.waitOrTerminateFailed error)
  | .ok outcome =>
      match ← waitForOutputConsumers with
      | .ok (stdout, stderr) => return .ok (outcome.map fun status => ⟨status, stdout, stderr⟩)
      | .error error => return .error (intoWaitWithOutputError name eofTimeout error)

/-- `wait_for_completion(..).with_*_output(..)`. -/
def waitForCompletionWithOutput (timeout eofTimeout : Duration) :
    Operation Sink (Except WaitWithOutputError (WaitForCompletionResult (ProcessOutput Sink))) := do
  match ← trySpawnOutputCollectors with
  | .error error => return .error error
  | .ok () => waitForCompletionWithCollectors timeout eofTimeout

/-- `wait_for_completion(..).with_*_output(..).or_terminate(..)`. -/
def waitForCompletionWithOutputOrTerminate {platform : Platform} (timeout eofTimeout : Duration)
    (shutdown : GracefulShutdown platform) :
    Operation Sink
      (Except WaitWithOutputError (WaitForCompletionOrTerminateResult (ProcessOutput Sink))) := do
  match ← trySpawnOutputCollectors with
  | .error error => return .error error
  | .ok () => waitForCompletionOrTerminateWithCollectors timeout shutdown eofTimeout

end Operations

end TokioProcessTools.ProcessHandle
