import TokioProcessTools.Foundation.Machine
import TokioProcessTools.OutputStream.Consumer

/-!
# The timed drain of two collectors

`wait_for_output_consumers` awaits the collectors of stdout and stderr with one
deadline. The machine has a state between any two primitive polls: of a
`JoinHandle`, of a timer, or the choice of a `select!` where to start. Between
them the tasks, the clock and the runtime move as they like; their moves are
the answers the primitive polls get.

A `wait_until` is polled by one of three callers: the outer `select!`, the
drain of the remaining collector once the first one has yielded its sink, and
the single poll after the first one has timed out. What its result does depends
on the caller.
-/

set_option autoImplicit false

namespace TokioProcessTools.ProcessHandle.OutputCollection

open Foundation OutputStream

/-- The two output streams of a process. -/
inductive Side where
  | stdout
  | stderr
  deriving DecidableEq, Repr

/-- The sibling. -/
def Side.other : Side → Side
  | .stdout => .stderr
  | .stderr => .stdout

/-- `ConsumerDrainError`. -/
inductive ConsumerDrainError where
  | timeout
  | collection (source : ConsumerError)
  deriving DecidableEq, Repr

/-- The branches of the `select!` in `wait_until`. -/
inductive Branch where
  | wait
  | timeout
  deriving DecidableEq, Repr

/-- The branch that is polled second. -/
def Branch.other : Branch → Branch
  | .wait => .timeout
  | .timeout => .wait

/-- Where a `wait_until` future is between two polls. -/
inductive WaitStage where
  | selecting
  /-- In the abort behind the timeout branch. -/
  | aborting
  | finished
  deriving DecidableEq, Repr

/-- `ConsumerWait` and the `wait_until` future over it. -/
structure Waiting (S : Type) extends Guarded S where
  streamName : String
  stage : WaitStage := .selecting
  deriving DecidableEq

section Machine

variable {Sink : Side → Type}

variable (Sink) in
/-- Who polls a `wait_until` future. -/
inductive Caller where
  /-- The outer `select!`; `unpolled` says that the sibling is still to be polled this time. -/
  | select (side : Side) (unpolled : Bool)
  /-- `drain_remaining_consumer`, once `first` has yielded its sink. -/
  | drain (first : Side) (sink : Sink first)
  /-- `take_ready_error_or_timeout`, once `first` has timed out. -/
  | peek (first : Side)

/-- The stream whose future is polled. -/
def Caller.side : Caller Sink → Side
  | .select side _ => side
  | .drain first _ => first.other
  | .peek first => first.other

variable (Sink) in
/-- Where `wait_for_output_consumers` is. -/
inductive Place where
  /-- The outer `select!` waits. -/
  | suspended
  /-- The `select!` of a `wait_until` is polled and chooses where to start. -/
  | choosing (caller : Caller Sink)
  /-- A branch of it is polled, and another one afterwards if this one is not ready. -/
  | asking (caller : Caller Sink) (branch : Branch) (later : Option Branch)
  /-- The abort in a `wait_until` polls its task. -/
  | aborting (caller : Caller Sink)
  /-- The final abort polls the task of the sibling of `first`. -/
  | cleaning (first : Side) (error : ConsumerDrainError)
  | returned (result : Except ConsumerDrainError (Sink .stdout × Sink .stderr))
  | panicked

variable (Sink) in
/-- The state of `wait_for_output_consumers`. -/
structure DrainState where
  place : Place Sink
  waits : (side : Side) → Waiting (Sink side)
  /-- The deadline has elapsed. -/
  elapsed : Bool := false
  /-- The errors a `wait_until` has returned. -/
  observed : List ConsumerError := []

namespace DrainState

variable (state : DrainState Sink)

def setPlace (place : Place Sink) : DrainState Sink := { state with place := place }

def setWait (side : Side) (wait : Waiting (Sink side)) : DrainState Sink :=
  { state with waits := Function.update state.waits side wait }

/-- Poll a `wait_until` future. One that has finished must not be polled again. -/
def enter (caller : Caller Sink) : DrainState Sink :=
  match (state.waits caller.side).stage with
  | .selecting => state.setPlace (.choosing caller)
  | .aborting => state.setPlace (.aborting caller)
  | .finished => state.setPlace .panicked

/-- Return a result; both guards are dropped. -/
def finish (result : Except ConsumerDrainError (Sink .stdout × Sink .stderr)) : DrainState Sink where
  place := .returned result
  waits side := { state.waits side with toGuarded := (state.waits side).toGuarded.dropGuard }
  elapsed := state.elapsed
  observed := state.observed

/-- `AbortStdout` and `AbortStderr`: abort the sibling of `first`, then return the error. -/
def cleanUp (first : Side) (error : ConsumerDrainError) : DrainState Sink :=
  let sibling := state.waits first.other
  let stopped := state.setWait first.other { sibling with toGuarded := sibling.toGuarded.stopTask }
  if sibling.guard.task then stopped.setPlace (.cleaning first error)
  else stopped.finish (.error error)

/-- Both sinks, in the order of the result. -/
def bothSinks (first : Side) (sink : Sink first) (remaining : Sink first.other) :
    Sink .stdout × Sink .stderr :=
  match first with
  | .stdout => (sink, remaining)
  | .stderr => (remaining, sink)

/-- A `wait_until` has returned to its caller. -/
def deliver : (caller : Caller Sink) → Except ConsumerError (Option (Sink caller.side)) →
    DrainState Sink
  | .select side _, .ok (some sink) => state.enter (.drain side sink)
  | .select side _, .error error =>
      { state with observed := state.observed ++ [error] }.cleanUp side (.collection error)
  | .select side _, .ok none => state.enter (.peek side)
  | .drain first sink, .ok (some remaining) => state.finish (.ok (bothSinks first sink remaining))
  | .drain _ _, .error error =>
      { state with observed := state.observed ++ [error] }.finish (.error (.collection error))
  | .drain _ _, .ok none => state.finish (.error .timeout)
  | .peek first, .error error =>
      { state with observed := state.observed ++ [error] }.cleanUp first (.collection error)
  | .peek first, .ok _ => state.cleanUp first .timeout

/-- The poll of a `wait_until` is not ready. -/
def notReady : Caller Sink → DrainState Sink
  | .select side true => state.enter (.select side.other false)
  | .select _ false => state.setPlace .suspended
  | .drain first sink => state.enter (.drain first sink)
  | .peek first => state.cleanUp first .timeout

/-- A branch is not ready: poll the other one, if it was not polled before. -/
def nextBranch (caller : Caller Sink) : Option Branch → DrainState Sink
  | some branch => state.setPlace (.asking caller branch none)
  | none => state.notReady caller

/-- The wait branch of a `wait_until` has the output of its task. -/
def waitReady (caller : Caller Sink) (output : TaskOutput (Sink caller.side)) : DrainState Sink :=
  let wait := state.waits caller.side
  (state.setWait caller.side
      { wait with toGuarded := wait.toGuarded.afterWait output, stage := .finished }).deliver caller
    ((output.waited wait.streamName).map some)

/-- The timeout branch of a `wait_until` is ready: abort the task, and await it if it is there. -/
def timeoutReady (caller : Caller Sink) : DrainState Sink :=
  let wait := state.waits caller.side
  if wait.guard.task then
    (state.setWait caller.side
      { wait with toGuarded := wait.toGuarded.stopTask, stage := .aborting }).setPlace
        (.aborting caller)
  else
    (state.setWait caller.side
      { wait with toGuarded := wait.toGuarded.stopTask, stage := .finished }).deliver caller
        (.ok none)

/-- The abort in a `wait_until` has joined its task. -/
def abortReady (caller : Caller Sink) (output : TaskOutput (Sink caller.side)) : DrainState Sink :=
  let wait := state.waits caller.side
  (state.setWait caller.side
      { wait with toGuarded := wait.toGuarded.afterAbort output, stage := .finished }).deliver caller
    (.ok none)

/-- The final abort has joined the task of the sibling. -/
def cleanedUp (first : Side) (error : ConsumerDrainError) (output : TaskOutput (Sink first.other)) :
    DrainState Sink :=
  let sibling := state.waits first.other
  (state.setWait first.other
    { sibling with toGuarded := sibling.toGuarded.afterAbort output }).finish (.error error)

end DrainState

/-- What the poll of a `JoinHandle` finds: the task still runs, it has ended by itself, or it was
cancelled because of an abort. -/
inductive JoinAnswer where
  | pending
  | completed
  | cancelled
  deriving DecidableEq, Repr

/-- The moves of the environment. -/
inductive DrainAction where
  /-- The deadline passes. -/
  | deadline
  /-- The runtime polls the drain, and its `select!` starts with a stream. -/
  | poll (first : Side)
  /-- The `select!` of a `wait_until` starts with a branch. -/
  | start (branch : Branch)
  /-- A timer is polled; it can only fire once the deadline has elapsed. -/
  | timer (fires : Bool)
  /-- A `JoinHandle` is polled. -/
  | join (answer : JoinAnswer)
  deriving DecidableEq, Repr

section Step

variable (results : (side : Side) → TaskOutput (Sink side))

/-- Poll the `JoinHandle` of a task, which must not have returned before. -/
def DrainState.pollTask (state : DrainState Sink) (side : Side) (answer : JoinAnswer)
    (pending : DrainState Sink) (ready : TaskOutput (Sink side) → DrainState Sink) :
    Option (DrainState Sink) :=
  if (state.waits side).task.returned.isSome then some (state.setPlace .panicked)
  else
    match answer with
    | .pending => some pending
    | .completed => some (ready (results side))
    | .cancelled =>
        if (state.waits side).task.abortRequested then some (ready (.error .cancelled)) else none

/-- One primitive poll, or the deadline. -/
def drainStep (state : DrainState Sink) : DrainAction → Option (DrainState Sink)
  | .deadline => some { state with elapsed := true }
  | .poll first =>
      match state.place with
      | .suspended => some (state.enter (.select first true))
      | _ => none
  | .start branch =>
      match state.place with
      | .choosing caller => some (state.setPlace (.asking caller branch (some branch.other)))
      | _ => none
  | .timer fires =>
      match state.place with
      | .asking caller .timeout later =>
          if fires then if state.elapsed then some (state.timeoutReady caller) else none
          else some (state.nextBranch caller later)
      | _ => none
  | .join answer =>
      match state.place with
      | .asking caller .wait later =>
          -- `expect("`task` to be present.")`
          if (state.waits caller.side).guard.task then
            state.pollTask results caller.side answer (state.nextBranch caller later)
              (state.waitReady caller)
          else some (state.setPlace .panicked)
      | .aborting caller =>
          state.pollTask results caller.side answer (state.notReady caller) (state.abortReady caller)
      | .cleaning first error =>
          state.pollTask results first.other answer state (state.cleanedUp first error)
      | _ => none

/-- `wait_for_output_consumers` over two collectors; `results` says how each task ends unless it
is aborted before. -/
def drainMachine (names : Side → String) : Machine (DrainState Sink) DrainAction where
  init := { place := .suspended, waits := fun side => { streamName := names side } }
  step := drainStep results

end Step

end Machine

end TokioProcessTools.ProcessHandle.OutputCollection
