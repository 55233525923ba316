import TokioProcessTools.Foundation.Machine
import TokioProcessTools.OutputStream.Consumer
import TokioProcessTools.OutputStream.Visitor

/-!
# The owner of a consumer and its task

A consumer task takes events from its subscription and hands them to a visitor.
Its owner waits for it, cancels it with a timeout, aborts it or drops it, and may
drop the future of any of these calls while it is pending. The task and the owner
share the termination signal, the request to abort and the `JoinHandle`.

The machine interleaves both. A task that takes an event of a synchronous visitor
comes back to its `select!` in one step. The hook of an asynchronous visitor is
awaited: meanwhile the signal is not looked at, but an abort drops the hook. A
requested abort takes effect at some later await point, or never if the task ends
first.

In every interleaving no slot is found empty and the handle is not polled after
it has returned. Whatever the owner's call returns, the task has ended by then,
and a returned sink is that of the visitor over exactly the events the task has
taken (`consumer_settled`).
-/

set_option autoImplicit false

namespace TokioProcessTools.OutputStream.ConsumerProtocol

open Foundation

/-! ## The task -/

/-- Where the task is. -/
inductive TaskRun (V Output : Type) where
  /-- At `tokio::select!`. -/
  | selecting (visitor : V)
  /-- Awaiting `on_chunk`, with its answer. -/
  | visiting (visitor : V) (next : Next)
  /-- Awaiting `on_eof`. -/
  | ending (visitor : V)
  | ended (output : TaskOutput Output)

/-- What a panic says. -/
def panicMessage : Panic → String
  | .subtractOverflow => "attempt to subtract with overflow"
  | .enteredUnreachable message | .expectFailed message | .assertionFailed message
  | .panicked message => message
  | .loopsForever => ""

section Task

variable {V Output : Type} (visitor : StreamVisitor V Output)

/-- Behind an awaited hook. -/
def afterHook : TaskRun V Output → TaskRun V Output
  | .visiting state .goOn => .selecting state
  | .visiting state .stop | .ending state => .ended (.ok (.ok (visitor.intoOutput state)))
  | .selecting state => .selecting state
  | .ended output => .ended output

/-- The hooks of a synchronous visitor are not awaited. -/
def awaited (async : Bool) (run : TaskRun V Output) : TaskRun V Output :=
  if async then run else afterHook visitor run

/-- What the task does with an answer of its `select!`. -/
def onWake (async : Bool) (state : V) : Wake → TaskRun V Output
  | .nextEvent (some (.chunk chunk)) =>
      match visitor.onChunk state chunk with
      | .error reason => .ended (.error (.panicked (panicMessage reason)))
      | .ok (later, next) => awaited visitor async (.visiting later next)
  | .nextEvent (some .gap) => .selecting (visitor.onGap state)
  | .nextEvent (some .eof) | .nextEvent none =>
      match visitor.onEof state with
      | .error reason => .ended (.error (.panicked (panicMessage reason)))
      | .ok later => awaited visitor async (.ending later)
  | .nextEvent (some (.readError error)) => .ended (.ok (.error error))
  | .termSignal => .ended (.ok (.ok (visitor.intoOutput state)))

end Task

/-! ## The owner -/

/-- `ConsumerCancelOutcome`. -/
inductive ConsumerCancelOutcome (S : Type) where
  | cancelled (sink : S)
  | aborted
  deriving DecidableEq, Repr

/-- What a call of the owner returned. -/
inductive Returned (S : Type) where
  | wait (result : Except ConsumerError S)
  | cancel (result : Except ConsumerError (ConsumerCancelOutcome S))
  | abort

/-- Where the owner is. -/
inductive Owner (S : Type) where
  /-- It has a `Consumer` and has called nothing. -/
  | holding
  | waiting
  /-- In `cancel`, before the timeout. -/
  | cancelling
  /-- In `abort`, which it has called itself or `cancel` has called behind the timeout. -/
  | aborting (timedOut : Bool)
  | returned (value : Returned S)
  /-- The consumer or the future was dropped. -/
  | dropped

/-- The task, the guard that holds its handle, and the owner. `wakes` are the answers the task has
taken; `fault` is set when a slot is expected and empty, or the handle is polled again. -/
structure ConsumerState (V Output : Type) where
  run : TaskRun V Output
  guarded : Guarded Output := {}
  owner : Owner Output := .holding
  wakes : List Wake := []
  fault : Bool := false

/-- A step of the task, of the owner, or of the runtime. -/
inductive ConsumerAction where
  | wake (answer : Wake)
  | hookReturns
  /-- The runtime drops a task whose abort was requested. -/
  | cancelTask
  | wait
  | cancel
  | abort
  /-- The handle returns to the owner. -/
  | join
  /-- The timeout of `cancel` elapses. -/
  | timeout
  | drop
  deriving DecidableEq, Repr

section Steps

variable {V Output : Type} (visitor : StreamVisitor V Output) (async : Bool) (streamName : String)

/-- The receiver of the termination signal answers: it was sent, or its sender is gone. -/
def signalled (guarded : Guarded Output) : Bool :=
  guarded.task.terminationSent || !guarded.guard.taskTerminationSender

/-- `ConsumerWaitGuard::cancel`, where the slot is filled. -/
def cancelGuard (guarded : Guarded Output) : Guarded Output where
  guard := { guarded.guard with taskTerminationSender := false }
  task := { guarded.task with terminationSent := true }

/-- An await of the handle would panic: its slot is empty, or it has returned. -/
def awaitFaults (guarded : Guarded Output) : Bool :=
  !guarded.guard.task || guarded.task.returned.isSome

/-- The handle returns to the owner. Behind that the call returns, and the guard is dropped. -/
def joinStep (state : ConsumerState V Output) (output : TaskOutput Output) :
    Option (ConsumerState V Output) :=
  match state.owner with
  | .waiting =>
      some { state with
        guarded := (state.guarded.afterWait output).dropGuard
        owner := .returned (.wait (output.waited streamName))
        fault := state.fault || awaitFaults state.guarded }
  | .cancelling =>
      some { state with
        guarded := (state.guarded.afterWait output).dropGuard
        owner := .returned (.cancel ((output.waited streamName).map .cancelled))
        fault := state.fault || awaitFaults state.guarded }
  | .aborting timedOut =>
      some { state with
        guarded := (state.guarded.afterAbort output).dropGuard
        owner := .returned (if timedOut then .cancel (.ok .aborted) else .abort)
        fault := state.fault || awaitFaults state.guarded }
  | .holding | .returned _ | .dropped => none

/-- The step function. -/
def consumerStep (state : ConsumerState V Output) : ConsumerAction → Option (ConsumerState V Output)
  | .wake answer =>
      match state.run with
      | .selecting visited =>
          if answer = .termSignal ∧ signalled state.guarded = false then none
          else some { state with
            run := onWake visitor async visited answer, wakes := state.wakes ++ [answer] }
      | .visiting _ _ | .ending _ | .ended _ => none
  | .hookReturns =>
      match state.run with
      | .visiting _ _ | .ending _ => some { state with run := afterHook visitor state.run }
      | .selecting _ | .ended _ => none
  | .cancelTask =>
      match state.run with
      | .selecting _ | .visiting _ _ | .ending _ =>
          if state.guarded.task.abortRequested then
            some { state with run := .ended (.error .cancelled) }
          else none
      | .ended _ => none
  | .wait =>
      match state.owner with
      | .holding => some { state with owner := .waiting }
      | .waiting | .cancelling | .aborting _ | .returned _ | .dropped => none
  | .cancel =>
      match state.owner with
      | .holding =>
          some { state with
            guarded := cancelGuard state.guarded
            owner := .cancelling
            fault := state.fault || !state.guarded.guard.taskTerminationSender }
      | .waiting | .cancelling | .aborting _ | .returned _ | .dropped => none
  | .abort =>
      match state.owner with
      | .holding => some { state with guarded := state.guarded.stopTask, owner := .aborting false }
      | .waiting | .cancelling | .aborting _ | .returned _ | .dropped => none
  | .join =>
      match state.run with
      | .ended output => joinStep streamName state output
      | .selecting _ | .visiting _ _ | .ending _ => none
  | .timeout =>
      match state.owner with
      | .cancelling => some { state with guarded := state.guarded.stopTask, owner := .aborting true }
      | .holding | .waiting | .aborting _ | .returned _ | .dropped => none
  | .drop =>
      match state.owner with
      | .holding | .waiting | .cancelling | .aborting _ =>
          some { state with guarded := state.guarded.dropGuard, owner := .dropped }
      | .returned _ | .dropped => none

/-- A consumer that `spawn_consumer_sync` or `spawn_consumer_async` has spawned. -/
def consumerMachine (initial : V) : Machine (ConsumerState V Output) ConsumerAction where
  init := { run := .selecting initial }
  step := consumerStep visitor async streamName

end Steps

/-! ## What the task has done -/

section Task

variable {V Output : Type} {visitor : StreamVisitor V Output} {initial visited : V}
  {wakes : List Wake}

/-- A loop that still waits goes on with what comes next. -/
theorem consumeLoop_append (waits : consumeLoop visitor initial wakes = .ok (visited, .waiting))
    (more : List Wake) :
    consumeLoop visitor initial (wakes ++ more) = consumeLoop visitor visited more := by
  induction wakes generalizing initial with
  | nil =>
      cases waits
      rfl
  | cons answer rest ih =>
      match answer with
      | .nextEvent (some (.chunk chunk)) =>
          rw [List.cons_append, consumeLoop]
          rw [consumeLoop] at waits
          cases answered : visitor.onChunk initial chunk with
          | error reason =>
              rw [answered] at waits
              cases waits
          | ok reply =>
              obtain ⟨later, next⟩ := reply
              rw [answered, checked_ok_bind] at waits
              rw [checked_ok_bind]
              cases next with
              | stop => cases waits
              | goOn => exact ih waits
      | .nextEvent (some .gap) => exact ih waits
      | .nextEvent (some .eof) | .nextEvent none =>
          rw [consumeLoop] at waits
          cases answered : visitor.onEof initial with
          | error reason =>
              rw [answered] at waits
              cases waits
          | ok later =>
              rw [answered] at waits
              cases waits
      | .nextEvent (some (.readError error)) => cases waits
      | .termSignal => cases waits

variable (visitor initial wakes) in
/-- The task is where the visitor's loop is over the answers it has taken. It is cancelled only on
request. -/
def Follows (abortRequested : Bool) : TaskRun V Output → Prop
  | .selecting visited => consumeLoop visitor initial wakes = .ok (visited, .waiting)
  | .visiting visited .goOn => consumeLoop visitor initial wakes = .ok (visited, .waiting)
  | .visiting visited .stop | .ending visited =>
      consumeLoop visitor initial wakes = .ok (visited, .left)
  | .ended (.ok result) => consumeSync visitor initial wakes = .ok (some result)
  | .ended (.error (.panicked message)) =>
      ∃ reason, panicMessage reason = message ∧ consumeSync visitor initial wakes = .error reason
  | .ended (.error .cancelled) => abortRequested = true

theorem consumeSync_of_left (left : consumeLoop visitor initial wakes = .ok (visited, .left)) :
    consumeSync visitor initial wakes = .ok (some (.ok (visitor.intoOutput visited))) := by
  rw [consumeSync_eq, left]
  rfl

theorem Follows.afterHook {abortRequested : Bool} {run : TaskRun V Output}
    (follows : Follows visitor initial wakes abortRequested run) :
    Follows visitor initial wakes abortRequested (afterHook visitor run) := by
  match run with
  | .selecting _ | .ended _ | .visiting _ .goOn => exact follows
  | .visiting _ .stop | .ending _ => exact consumeSync_of_left follows

theorem Follows.awaited {abortRequested async : Bool} {run : TaskRun V Output}
    (follows : Follows visitor initial wakes abortRequested run) :
    Follows visitor initial wakes abortRequested (awaited visitor async run) := by
  unfold ConsumerProtocol.awaited
  split
  · exact follows
  · exact follows.afterHook

/-- **One answer of the `select!`.** -/
theorem Follows.onWake {abortRequested async : Bool}
    (waits : consumeLoop visitor initial wakes = .ok (visited, .waiting)) (answer : Wake) :
    Follows visitor initial (wakes ++ [answer]) abortRequested (onWake visitor async visited answer) := by
  have continued := consumeLoop_append waits [answer]
  have result := consumeSync_eq visitor initial (wakes ++ [answer])
  rw [continued] at result
  match answer with
  | .nextEvent (some (.chunk chunk)) =>
      rw [consumeLoop] at continued result
      rw [ConsumerProtocol.onWake]
      cases answered : visitor.onChunk visited chunk with
      | error reason =>
          rw [answered] at result
          exact ⟨reason, rfl, result⟩
      | ok reply =>
          obtain ⟨later, next⟩ := reply
          rw [answered, checked_ok_bind] at continued
          apply Follows.awaited
          cases next with
          | stop => exact continued
          | goOn => exact continued
  | .nextEvent (some .gap) => exact continued
  | .nextEvent (some .eof) | .nextEvent none =>
      rw [consumeLoop] at continued result
      rw [ConsumerProtocol.onWake]
      cases answered : visitor.onEof visited with
      | error reason =>
          rw [answered] at result
          exact ⟨reason, rfl, result⟩
      | ok later =>
          rw [answered, checked_ok_bind] at continued
          exact Follows.awaited continued
  | .nextEvent (some (.readError error)) => exact result
  | .termSignal => exact result

/-- Once the abort is requested it stays so. -/
theorem Follows.mono {earlier later : Bool} {run : TaskRun V Output}
    (follows : Follows visitor initial wakes earlier run) (kept : earlier = true → later = true) :
    Follows visitor initial wakes later run := by
  match run with
  | .selecting _ | .visiting _ .goOn | .visiting _ .stop | .ending _ | .ended (.ok _)
  | .ended (.error (.panicked _)) => exact follows
  | .ended (.error .cancelled) => exact kept follows

end Task

/-! ## What the owner knows -/

section Invariant

variable {V Output : Type} (visitor : StreamVisitor V Output) (initial : V) (streamName : String)

/-- What the owner's call returned hands on the output of the task, which was not cancelled unless
the owner has aborted it. Nobody that only waits has sent the signal. -/
def HandsOn (wakes : List Wake) (output : TaskOutput Output) : Returned Output → Prop
  | .wait result => result = output.waited streamName ∧ output ≠ .error .cancelled ∧
      .termSignal ∉ wakes
  | .cancel (.ok .aborted) | .abort => True
  | .cancel result => result = (output.waited streamName).map .cancelled ∧
      output ≠ .error .cancelled

/-- The slots, the signal and the request, as the owner's place has them. -/
def Placed (state : ConsumerState V Output) : Prop :=
  match state.owner with
  | .holding | .waiting => state.guarded = {}
  | .cancelling => state.guarded = ⟨⟨true, false⟩, ⟨none, false, true⟩⟩
  | .aborting _ => state.guarded = ⟨⟨true, false⟩, ⟨none, true, true⟩⟩
  | .returned value => ∃ output, state.run = .ended output ∧
      HandsOn streamName state.wakes output value
  | .dropped => state.guarded.task.terminationSent = true ∧
      state.guarded.task.abortRequested = true

/-- The invariant. -/
structure ConsumerInvariant (state : ConsumerState V Output) : Prop where
  faultless : state.fault = false
  follows : Follows visitor initial state.wakes state.guarded.task.abortRequested state.run
  placed : Placed streamName state
  signal : .termSignal ∈ state.wakes → state.guarded.task.terminationSent = true

variable {visitor initial streamName} {state next : ConsumerState V Output} {async : Bool}

/-- The receiver answers only behind the sending. -/
theorem ConsumerInvariant.sent_of_signalled (invariant : ConsumerInvariant visitor initial streamName state)
    (running : ∀ output, state.run ≠ .ended output) (signals : signalled state.guarded = true) :
    state.guarded.task.terminationSent = true := by
  have placed := invariant.placed
  unfold Placed at placed
  cases place : state.owner with
  | holding | waiting =>
      rw [place] at placed
      rw [placed] at signals
      cases signals
  | cancelling | aborting timedOut =>
      rw [place] at placed
      rw [placed]
  | returned value =>
      rw [place] at placed
      obtain ⟨output, ended, _⟩ := placed
      exact absurd ended (running output)
  | dropped =>
      rw [place] at placed
      exact placed.1

/-- A step of the task leaves the owner where it is. -/
theorem Placed.of_task {run : TaskRun V Output} {wakes : List Wake}
    (placed : Placed streamName state) (running : ∀ output, state.run ≠ .ended output) :
    Placed streamName { state with run, wakes } := by
  unfold Placed at placed ⊢
  cases place : state.owner with
  | holding | waiting | cancelling | aborting timedOut | dropped =>
      rw [place] at placed
      exact placed
  | returned value =>
      rw [place] at placed
      obtain ⟨output, ended, _⟩ := placed
      exact absurd ended (running output)

theorem ConsumerInvariant.wake (invariant : ConsumerInvariant visitor initial streamName state)
    {answer : Wake} (stepped : consumerStep visitor async streamName state (.wake answer) = some next) :
    ConsumerInvariant visitor initial streamName next := by
  have follows := invariant.follows
  unfold consumerStep at stepped
  cases here : state.run with
  | selecting visited =>
      rw [here] at stepped follows
      have running : ∀ output, state.run ≠ .ended output := by simp [here]
      dsimp only at stepped
      split at stepped
      · cases stepped
      · rename_i allowed
        cases stepped
        refine ⟨invariant.faultless, .onWake follows answer, invariant.placed.of_task running, ?_⟩
        intro member
        rcases List.mem_append.mp member with earlier | last
        · exact invariant.signal earlier
        · have signal := (List.mem_singleton.mp last).symm
          apply invariant.sent_of_signalled running
          rw [← Bool.not_eq_false]
          exact fun silent => allowed ⟨signal, silent⟩
  | visiting visited answered =>
      rw [here] at stepped
      cases stepped
  | ending visited =>
      rw [here] at stepped
      cases stepped
  | ended output =>
      rw [here] at stepped
      cases stepped

theorem ConsumerInvariant.hookReturns
    (invariant : ConsumerInvariant visitor initial streamName state)
    (stepped : consumerStep visitor async streamName state .hookReturns = some next) :
    ConsumerInvariant visitor initial streamName next := by
  unfold consumerStep at stepped
  cases here : state.run with
  | selecting visited | ended output =>
      rw [here] at stepped
      cases stepped
  | visiting visited answered | ending visited =>
      rw [here] at stepped
      cases stepped
      have running : ∀ output, state.run ≠ .ended output := by simp [here]
      have follows := invariant.follows.afterHook
      rw [here] at follows
      exact ⟨invariant.faultless, follows, invariant.placed.of_task running, invariant.signal⟩

theorem ConsumerInvariant.cancelTask
    (invariant : ConsumerInvariant visitor initial streamName state)
    (stepped : consumerStep visitor async streamName state .cancelTask = some next) :
    ConsumerInvariant visitor initial streamName next := by
  unfold consumerStep at stepped
  cases here : state.run with
  | ended output =>
      rw [here] at stepped
      cases stepped
  | selecting visited | visiting visited answered | ending visited =>
      rw [here] at stepped
      simp only [Option.ite_none_right_eq_some, Option.some.injEq] at stepped
      obtain ⟨requested, rfl⟩ := stepped
      have running : ∀ output, state.run ≠ .ended output := by simp [here]
      exact ⟨invariant.faultless, requested, invariant.placed.of_task running, invariant.signal⟩

/-- A step of the owner that does not end its call: the task is as before, and what was sent or
requested stays so. -/
theorem ConsumerInvariant.of_owner (invariant : ConsumerInvariant visitor initial streamName state)
    {guarded : Guarded Output} {owner : Owner Output}
    (requested : state.guarded.task.abortRequested = true → guarded.task.abortRequested = true)
    (sent : state.guarded.task.terminationSent = true → guarded.task.terminationSent = true)
    (placed : Placed streamName { state with guarded, owner }) :
    ConsumerInvariant visitor initial streamName { state with guarded, owner } :=
  ⟨invariant.faultless, invariant.follows.mono requested, placed,
    fun member => sent (invariant.signal member)⟩

/-- The owner begins a call. -/
theorem ConsumerInvariant.call (invariant : ConsumerInvariant visitor initial streamName state)
    {action : ConsumerAction} (calls : action = .wait ∨ action = .cancel ∨ action = .abort)
    (stepped : consumerStep visitor async streamName state action = some next) :
    ConsumerInvariant visitor initial streamName next := by
  have placed := invariant.placed
  unfold Placed at placed
  have held : state.owner = .holding := by
    rcases calls with rfl | rfl | rfl <;> unfold consumerStep at stepped <;>
      cases place : state.owner <;> first | rfl | (rw [place] at stepped; cases stepped)
  rw [held] at placed
  rcases calls with rfl | rfl | rfl
  · simp only [consumerStep, held, Option.some.injEq] at stepped
    subst stepped
    exact invariant.of_owner id id placed
  · simp only [consumerStep, held, placed, Bool.not_true, Bool.or_false, Option.some.injEq] at stepped
    subst stepped
    exact invariant.of_owner (by simp [placed]) (fun _ => rfl) rfl
  · simp only [consumerStep, held, placed, Option.some.injEq] at stepped
    subst stepped
    exact invariant.of_owner (fun _ => rfl) (fun _ => rfl) rfl

theorem ConsumerInvariant.timeout (invariant : ConsumerInvariant visitor initial streamName state)
    (stepped : consumerStep visitor async streamName state .timeout = some next) :
    ConsumerInvariant visitor initial streamName next := by
  have placed := invariant.placed
  unfold Placed at placed
  unfold consumerStep at stepped
  cases place : state.owner with
  | holding | waiting | aborting timedOut | returned value | dropped =>
      rw [place] at stepped
      cases stepped
  | cancelling =>
      rw [place] at stepped placed
      simp only [placed, Option.some.injEq] at stepped
      subst stepped
      exact invariant.of_owner (fun _ => rfl) (fun _ => rfl) rfl

/-- Dropping the consumer or a pending future sends the signal and requests the abort. -/
theorem ConsumerInvariant.drop (invariant : ConsumerInvariant visitor initial streamName state)
    (stepped : consumerStep visitor async streamName state .drop = some next) :
    ConsumerInvariant visitor initial streamName next := by
  have placed := invariant.placed
  unfold Placed at placed
  unfold consumerStep at stepped
  cases place : state.owner with
  | returned value | dropped =>
      rw [place] at stepped
      cases stepped
  | holding | waiting | cancelling | aborting timedOut =>
      rw [place] at stepped placed
      simp only [placed, Option.some.injEq] at stepped
      subst stepped
      exact invariant.of_owner (fun _ => rfl) (fun _ => rfl) ⟨rfl, rfl⟩

/-- Nobody has requested an abort: the task was not cancelled. -/
theorem Follows.not_cancelled {wakes : List Wake} {output : TaskOutput Output}
    (follows : Follows visitor initial wakes false (.ended output)) : output ≠ .error .cancelled := by
  rintro rfl
  cases follows

theorem HandsOn.cancel {wakes : List Wake} {output : TaskOutput Output}
    (uncancelled : output ≠ .error .cancelled) :
    HandsOn streamName wakes output (.cancel ((output.waited streamName).map .cancelled)) := by
  rcases output with source | source | sink
  · exact ⟨rfl, uncancelled⟩
  · exact ⟨rfl, uncancelled⟩
  · exact ⟨rfl, uncancelled⟩

/-- **The handle returns**: the slot was filled, it had not returned before, and the owner learns what
the task has done. -/
theorem ConsumerInvariant.join (invariant : ConsumerInvariant visitor initial streamName state)
    (stepped : consumerStep visitor async streamName state .join = some next) :
    ConsumerInvariant visitor initial streamName next := by
  have placed := invariant.placed
  have follows := invariant.follows
  have signal := invariant.signal
  unfold Placed at placed
  unfold consumerStep at stepped
  cases here : state.run with
  | selecting visited | visiting visited answered | ending visited =>
      rw [here] at stepped
      cases stepped
  | ended output =>
      rw [here] at stepped follows
      unfold joinStep at stepped
      cases place : state.owner with
      | holding | returned value | dropped =>
          rw [place] at stepped
          cases stepped
      | waiting =>
          rw [place] at stepped placed
          rw [placed] at follows signal
          simp only [placed, invariant.faultless, Option.some.injEq] at stepped
          subst stepped
          refine ⟨rfl, ?_, ⟨output, here, rfl, follows.not_cancelled, fun member => ?_⟩, fun member => ?_⟩
          · rw [here]
            exact follows.mono fun impossible => by cases impossible
          · cases signal member
          · cases signal member
      | cancelling =>
          rw [place] at stepped placed
          rw [placed] at follows
          simp only [placed, invariant.faultless, Option.some.injEq] at stepped
          subst stepped
          refine ⟨rfl, ?_, ⟨output, here, .cancel follows.not_cancelled⟩, fun _ => ?_⟩
          · rw [here]
            exact follows.mono fun impossible => by cases impossible
          · cases output <;> rfl
      | aborting timedOut =>
          rw [place] at stepped placed
          simp only [placed, invariant.faultless, Option.some.injEq] at stepped
          subst stepped
          refine ⟨rfl, ?_, ⟨output, here, ?_⟩, fun _ => rfl⟩
          · rw [here]
            exact follows.mono fun _ => rfl
          · cases timedOut <;> trivial

/-- **Every step keeps the invariant.** -/
theorem ConsumerInvariant.step (invariant : ConsumerInvariant visitor initial streamName state)
    {action : ConsumerAction}
    (stepped : consumerStep visitor async streamName state action = some next) :
    ConsumerInvariant visitor initial streamName next := by
  cases action with
  | wake answer => exact invariant.wake stepped
  | hookReturns => exact invariant.hookReturns stepped
  | cancelTask => exact invariant.cancelTask stepped
  | wait => exact invariant.call (.inl rfl) stepped
  | cancel => exact invariant.call (.inr (.inl rfl)) stepped
  | abort => exact invariant.call (.inr (.inr rfl)) stepped
  | join => exact invariant.join stepped
  | timeout => exact invariant.timeout stepped
  | drop => exact invariant.drop stepped

theorem reachable_consumerInvariant
    (reachable : (consumerMachine visitor async streamName initial).Reachable state) :
    ConsumerInvariant visitor initial streamName state := by
  apply reachable.invariant
  · exact ⟨rfl, rfl, rfl, fun member => absurd member List.not_mem_nil⟩
  · intro state next action invariant _ stepped
    exact invariant.step stepped

/-! ## What the owner learns -/

variable (visitor initial streamName) in
/-- A call that failed says how the task has failed over the answers it has taken: it read an error
from the stream, or its visitor panicked. -/
def Failed (wakes : List Wake) : ConsumerError → Prop
  | .streamRead source => consumeSync visitor initial wakes = .ok (some (.error source))
  | .taskJoin stream source => stream = streamName ∧ ∃ reason,
      source = .panicked (panicMessage reason) ∧ consumeSync visitor initial wakes = .error reason

variable (visitor initial streamName) in
/-- What a call has returned, told by the visitor over the answers the task has taken. -/
def Settled (wakes : List Wake) : Returned Output → Prop
  | .wait (.ok sink) => .termSignal ∉ wakes ∧
      consumeSync visitor initial wakes = .ok (some (.ok sink))
  | .cancel (.ok (.cancelled sink)) => consumeSync visitor initial wakes = .ok (some (.ok sink))
  | .wait (.error error) | .cancel (.error error) => Failed visitor initial streamName wakes error
  | .cancel (.ok .aborted) | .abort => True

theorem Follows.failed {wakes : List Wake} {requested : Bool} {output : TaskOutput Output}
    {error : ConsumerError} (follows : Follows visitor initial wakes requested (.ended output))
    (uncancelled : output ≠ .error .cancelled) (failed : output.waited streamName = .error error) :
    Failed visitor initial streamName wakes error := by
  match output with
  | .error .cancelled => exact absurd rfl uncancelled
  | .error (.panicked message) =>
      cases failed
      obtain ⟨reason, rfl, panicked⟩ := follows
      exact ⟨rfl, reason, rfl, panicked⟩
  | .ok (.error source) =>
      cases failed
      exact follows
  | .ok (.ok sink) => cases failed

theorem Follows.succeeded {wakes : List Wake} {requested : Bool} {output : TaskOutput Output}
    {sink : Output} (follows : Follows visitor initial wakes requested (.ended output))
    (succeeded : output.waited streamName = .ok sink) :
    consumeSync visitor initial wakes = .ok (some (.ok sink)) := by
  match output with
  | .error source => cases succeeded
  | .ok (.error source) => cases succeeded
  | .ok (.ok value) =>
      cases succeeded
      exact follows

theorem HandsOn.settled {wakes : List Wake} {requested : Bool} {output : TaskOutput Output}
    {value : Returned Output} (hands : HandsOn streamName wakes output value)
    (follows : Follows visitor initial wakes requested (.ended output)) :
    Settled visitor initial streamName wakes value := by
  match value with
  | .wait (.ok sink) => exact ⟨hands.2.2, follows.succeeded hands.1.symm⟩
  | .wait (.error error) => exact follows.failed hands.2.1 hands.1.symm
  | .cancel (.ok .aborted) | .abort => trivial
  | .cancel (.ok (.cancelled sink)) =>
      cases waited : output.waited streamName with
      | error error =>
          have same := hands.1
          rw [waited] at same
          cases same
      | ok value =>
          have same := hands.1
          rw [waited] at same
          cases same
          exact follows.succeeded waited
  | .cancel (.error error) =>
      cases waited : output.waited streamName with
      | error source =>
          have same := hands.1
          rw [waited] at same
          cases same
          exact follows.failed hands.2 waited
      | ok value =>
          have same := hands.1
          rw [waited] at same
          cases same

/-- A task whose abort is requested has ended, or the runtime can drop it. -/
theorem ended_or_cancellable (requested : state.guarded.task.abortRequested = true) :
    (∃ output, state.run = .ended output) ∨
      (consumerStep visitor async streamName state .cancelTask).isSome = true := by
  cases here : state.run with
  | ended output => exact .inl ⟨output, rfl⟩
  | selecting visited | visiting visited answered | ending visited =>
      right
      simp only [consumerStep, here, requested, if_true, Option.isSome_some]

/-- **A consumer's owner learns what its task has done.** In every interleaving of the task, the owner
and the runtime, no slot is found empty and the handle is polled by nobody once it has returned. When
`wait`, `cancel` or `abort` has returned, the task has ended. A sink that was returned is the
visitor's over exactly the answers the task has taken, and a `wait` that returns one was not cut short
by the signal; an error is a read error of the stream or a panic of the visitor. A consumer that was
dropped, in whatever call, has sent the signal and does not leave its task running; a task that is
being cancelled and awaits no hook can take the signal at once, with its sink as it is. -/
theorem consumer_settled
    (reachable : (consumerMachine visitor async streamName initial).Reachable state) :
    state.fault = false ∧
    (∀ value, state.owner = .returned value → (∃ output, state.run = .ended output) ∧
      Settled visitor initial streamName state.wakes value) ∧
    (state.owner = .dropped ∨ (∃ timedOut, state.owner = .aborting timedOut) →
      state.guarded.task.terminationSent = true ∧ ((∃ output, state.run = .ended output) ∨
        (consumerStep visitor async streamName state .cancelTask).isSome = true)) ∧
    (∀ visited, state.owner = .cancelling → state.run = .selecting visited →
      consumerStep visitor async streamName state (.wake .termSignal) = some { state with
        run := .ended (.ok (.ok (visitor.intoOutput visited)))
        wakes := state.wakes ++ [.termSignal] }) := by
  have invariant := reachable_consumerInvariant reachable
  have placed := invariant.placed
  unfold Placed at placed
  refine ⟨invariant.faultless, ?_, ?_, ?_⟩
  · intro value returned
    rw [returned] at placed
    obtain ⟨output, ended, hands⟩ := placed
    have follows := invariant.follows
    rw [ended] at follows
    exact ⟨⟨output, ended⟩, hands.settled follows⟩
  · rintro (dropped | ⟨timedOut, aborting⟩)
    · rw [dropped] at placed
      exact ⟨placed.1, ended_or_cancellable placed.2⟩
    · rw [aborting] at placed
      exact ⟨by rw [placed], ended_or_cancellable (by rw [placed])⟩
  · intro visited cancelling selecting
    rw [cancelling] at placed
    simp only [consumerStep, selecting, placed, signalled, onWake, Bool.true_or, Bool.true_eq_false,
      and_false, if_false]

/-- A visitor that counts chunks and stops at none. -/
def countChunks : StreamVisitor Nat Nat where
  onChunk count _ := .ok (count + 1, .goOn)
  intoOutput := id

/-- One chunk is taken, and the owner cancels. -/
def cancelledRun : List ConsumerAction :=
  [.wake (.nextEvent (some (.chunk ⟨[104], 0⟩))), .cancel, .wake .termSignal, .join]

/-- A consumer that has taken one chunk when it is cancelled returns the count. -/
theorem consumer_settled_cancelled :
    ∃ state, (consumerMachine countChunks false "stdout" 0).Reachable state ∧
      state.owner = .returned (.cancel (.ok (.cancelled 1))) ∧
      consumeSync countChunks 0 state.wakes = .ok (some (.ok 1)) := by
  have reachable := @Machine.reachable_exec _ _ (consumerMachine countChunks false "stdout" 0) _ _
    .init cancelledRun rfl
  exact ⟨_, reachable, rfl, ((consumer_settled reachable).2.1 _ rfl).2⟩

end Invariant

end TokioProcessTools.OutputStream.ConsumerProtocol
