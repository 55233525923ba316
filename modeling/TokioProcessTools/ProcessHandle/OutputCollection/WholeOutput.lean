import TokioProcessTools.OutputStream.Backend.Broadcast.FastLines
import TokioProcessTools.OutputStream.ConsumerProtocol
import TokioProcessTools.OutputStream.Visitors.Chunks
import TokioProcessTools.ProcessHandle.OutputCollection.Release

/-!
# The output of a process

The drain aborts a collector whose stream does not end in time, and a collector
that is told to stop ends with what it has by then. Such a sink must not pass for
the output of the process. It does not: when the drain returns both sinks, neither
task was told to stop or aborted (`undisturbed_of_returned`).

So the output that an operation returns is what the two collectors have made of
their streams to the end. Each stream has one of the backends, and each collector
gathers lines or bytes. It holds what it was shown, which is a part of the text its
subscription relays, and all of it when nothing was lost (`output_whole`). The text
is that of a stream which is not dropped meanwhile, unless it is one of the fast
path, and a lossy stream with a single subscriber must have had nothing to replay.
-/

set_option autoImplicit false

namespace TokioProcessTools.OutputStream

/-- Nobody has told the task to stop. -/
structure Task.Undisturbed {S : Type} (task : Task S) : Prop where
  unsignalled : task.terminationSent = false
  unaborted : task.abortRequested = false

end TokioProcessTools.OutputStream

namespace TokioProcessTools.ProcessHandle.OutputCollection

open Foundation OutputStream

/-! ## Tasks that were not told to stop -/

section Waits

variable {S : Type}

/-- A `wait_until` that still selects has not disturbed its task. -/
def Waiting.Calm (wait : Waiting S) : Prop :=
  wait.stage = .selecting → wait.task.Undisturbed

/-- A `wait_until` has returned the sink with which its task ends by itself. -/
structure Waiting.Yielded (wait : Waiting S) (ending : TaskOutput S) (sink : S) : Prop where
  cleared : wait.guard = ⟨false, false⟩
  undisturbed : wait.task.Undisturbed
  sink : ending = .ok (.ok sink)

end Waits

namespace DrainState

section Whole

variable {Sink : Side → Type} (results : (side : Side) → TaskOutput (Sink side))
  {state next : DrainState Sink}

/-- What a caller knows of the stream it does not poll. -/
def CallerWhole (state : DrainState Sink) : Caller Sink → Prop
  | .select side _ => (state.waits side.other).Calm
  | .drain first sink => (state.waits first).Yielded (results first) sink
  | .peek _ => True

/-- Both tasks have ended by themselves with these sinks. -/
structure BothWhole (state : DrainState Sink) (sinks : Sink .stdout × Sink .stderr) : Prop where
  undisturbed : ∀ side, (state.waits side).task.Undisturbed
  stdout : results .stdout = .ok (.ok sinks.1)
  stderr : results .stderr = .ok (.ok sinks.2)

/-- **No sink of a disturbed task is kept.** -/
def Whole (state : DrainState Sink) : Prop :=
  match state.place with
  | .suspended => ∀ side, (state.waits side).Calm
  | .choosing caller | .asking caller _ _ =>
      state.CallerWhole results caller ∧ (state.waits caller.side).task.Undisturbed
  | .aborting caller => state.CallerWhole results caller ∧ (state.waits caller.side).Calm
  | .returned (.ok sinks) => state.BothWhole results sinks
  | .returned (.error _) | .cleaning _ _ | .panicked => True

variable {results}

theorem CallerWhole.setPlace {caller : Caller Sink} (whole : state.CallerWhole results caller)
    (place : Place Sink) : (state.setPlace place).CallerWhole results caller := by
  cases caller <;> exact whole

theorem CallerWhole.setWait {caller : Caller Sink} (whole : state.CallerWhole results caller)
    (wait : Waiting (Sink caller.side)) :
    (state.setWait caller.side wait).CallerWhole results caller := by
  cases caller with
  | select side unpolled =>
      exact Eq.mpr (congrArg Waiting.Calm (state.setWait_other side wait)) whole
  | drain first sink =>
      exact Eq.mpr (congrArg (Waiting.Yielded · (results first) sink)
        (state.setWait_first first wait)) whole
  | peek first => trivial

theorem Whole.enter {caller : Caller Sink} (whole : state.CallerWhole results caller)
    (calm : (state.waits caller.side).Calm) : (state.enter caller).Whole results := by
  rw [DrainState.enter]
  split
  · rename_i stage
    exact ⟨whole.setPlace _, calm stage⟩
  · exact ⟨whole.setPlace _, calm⟩
  · trivial

theorem whole_cleanUp (state : DrainState Sink) (first : Side) (error : ConsumerDrainError) :
    (state.cleanUp first error).Whole results := by
  rw [DrainState.cleanUp]
  split <;> trivial

/-- The guard of a task that has yielded its sink has nothing left to stop. -/
theorem undisturbed_dropGuard {S : Type} {wait : Waiting S} {ending : TaskOutput S} {sink : S}
    (yielded : wait.Yielded ending sink) : wait.toGuarded.dropGuard.task.Undisturbed := by
  obtain ⟨cleared, ⟨unsignalled, unaborted⟩, _⟩ := yielded
  constructor
  · simp only [Guarded.dropGuard, Guarded.stopTask, cleared, unsignalled, Bool.or_self]
  · simp only [Guarded.dropGuard, Guarded.stopTask, cleared, unaborted, Bool.or_self]

/-- The second collector yields its sink, too. -/
theorem Whole.finish {first : Side} {sink : Sink first} {remaining : Sink first.other}
    (before : (state.waits first).Yielded (results first) sink)
    (now : (state.waits first.other).Yielded (results first.other) remaining) :
    (state.finish (.ok (bothSinks first sink remaining))).Whole results := by
  have undisturbed : ∀ side, ((state.finish (.ok (bothSinks first sink remaining))).waits
      side).task.Undisturbed := by
    intro side
    rcases first.eq_or_eq_other side with rfl | rfl
    · exact undisturbed_dropGuard before
    · exact undisturbed_dropGuard now
  cases first with
  | stdout => exact ⟨undisturbed, before.sink, now.sink⟩
  | stderr => exact ⟨undisturbed, now.sink, before.sink⟩

/-- **A `wait_until` returns to its caller.** -/
theorem Whole.deliver {caller : Caller Sink}
    {result : Except ConsumerError (Option (Sink caller.side))}
    (whole : state.CallerWhole results caller)
    (yielded : ∀ sink, result = .ok (some sink) →
      (state.waits caller.side).Yielded (results caller.side) sink) :
    (state.deliver caller result).Whole results := by
  cases caller with
  | select side unpolled =>
      match result, yielded with
      | .ok (some sink), yielded => exact Whole.enter (yielded sink rfl) whole
      | .ok none, _ => exact Whole.enter trivial whole
      | .error error, _ => exact whole_cleanUp _ _ _
  | drain first sink =>
      match result, yielded with
      | .ok (some remaining), yielded => exact Whole.finish whole (yielded remaining rfl)
      | .ok none, _ => trivial
      | .error error, _ => trivial
  | peek first =>
      match result with
      | .ok _ => exact whole_cleanUp _ _ _
      | .error error => exact whole_cleanUp _ _ _

/-- The poll of a `wait_until` is not ready. -/
theorem Whole.notReady {caller : Caller Sink} (whole : state.CallerWhole results caller)
    (calm : (state.waits caller.side).Calm) : (state.notReady caller).Whole results := by
  cases caller with
  | select side unpolled =>
      cases unpolled with
      | true =>
          refine Whole.enter ?_ whole
          cases side <;> exact calm
      | false =>
          intro other
          rcases side.eq_or_eq_other other with rfl | rfl
          · exact calm
          · exact whole
  | drain first sink => exact Whole.enter whole calm
  | peek first => exact whole_cleanUp _ _ _

theorem Whole.nextBranch {caller : Caller Sink} (whole : state.CallerWhole results caller)
    (undisturbed : (state.waits caller.side).task.Undisturbed) (later : Option Branch) :
    (state.nextBranch caller later).Whole results := by
  cases later with
  | some branch => exact ⟨whole.setPlace _, undisturbed⟩
  | none => exact Whole.notReady whole fun _ => undisturbed

/-- The wait branch is ready, and a sink it returns is the one the task ends with by itself. -/
theorem Whole.waitReady {caller : Caller Sink} (whole : state.CallerWhole results caller)
    (undisturbed : (state.waits caller.side).task.Undisturbed)
    {output : TaskOutput (Sink caller.side)}
    (own : ∀ sink, output = .ok (.ok sink) → results caller.side = output) :
    (state.waitReady caller output).Whole results := by
  refine Whole.deliver (whole.setWait _) ?_
  intro sink returned
  rw [setWait_self]
  match output, own, returned with
  | .ok (.ok _), own, rfl => exact ⟨rfl, ⟨undisturbed.unsignalled, undisturbed.unaborted⟩, own _ rfl⟩

theorem Whole.timeoutReady {caller : Caller Sink} (whole : state.CallerWhole results caller) :
    (state.timeoutReady caller).Whole results := by
  rw [DrainState.timeoutReady]
  split
  · refine ⟨(whole.setWait _).setPlace _, ?_⟩
    rw [setPlace_waits, setWait_self]
    intro stage
    cases stage
  · refine Whole.deliver (whole.setWait _) ?_
    intro sink returned
    cases returned

theorem Whole.abortReady {caller : Caller Sink} (whole : state.CallerWhole results caller)
    (output : TaskOutput (Sink caller.side)) : (state.abortReady caller output).Whole results := by
  refine Whole.deliver (whole.setWait _) ?_
  intro sink returned
  cases returned

theorem Whole.elapse (whole : state.Whole results) :
    Whole results { state with elapsed := true } := by
  obtain ⟨place, waits, elapsed, observed⟩ := state
  cases place with
  | suspended => exact whole
  | choosing caller | asking caller branch later | aborting caller =>
      refine ⟨?_, whole.2⟩
      cases caller <;> exact whole.1
  | cleaning first error => trivial
  | returned result =>
      cases result with
      | ok sinks => exact ⟨whole.undisturbed, whole.stdout, whole.stderr⟩
      | error error => trivial
  | panicked => trivial

/-- What the poll of a handle comes to. -/
theorem whole_pollTask {side : Side} {answer : JoinAnswer} {pending : DrainState Sink}
    {ready : TaskOutput (Sink side) → DrainState Sink} (waits : pending.Whole results)
    (joins : ∀ output, (∀ sink, output = .ok (.ok sink) → results side = output) →
      (ready output).Whole results)
    (polled : state.pollTask results side answer pending ready = some next) :
    next.Whole results := by
  unfold DrainState.pollTask at polled
  split at polled
  · cases polled
    trivial
  · cases answer with
    | pending =>
        cases polled
        exact waits
    | completed =>
        cases polled
        exact joins _ fun _ _ => rfl
    | cancelled =>
        simp only [Option.ite_none_right_eq_some, Option.some.injEq] at polled
        obtain ⟨_, rfl⟩ := polled
        refine joins _ ?_
        intro sink cancelled
        cases cancelled

/-- **Every step keeps the invariant.** -/
theorem Whole.step {action : DrainAction} (whole : state.Whole results)
    (taken : drainStep results state action = some next) : next.Whole results := by
  cases action with
  | deadline =>
      cases taken
      exact whole.elapse
  | poll first =>
      simp only [drainStep] at taken
      split at taken
      · rename_i place
        cases taken
        rw [Whole, place] at whole
        exact Whole.enter (whole first.other) (whole first)
      · cases taken
  | start branch =>
      simp only [drainStep] at taken
      split at taken
      · rename_i caller place
        cases taken
        rw [Whole, place] at whole
        exact ⟨whole.1.setPlace _, whole.2⟩
      · cases taken
  | timer fires =>
      simp only [drainStep] at taken
      split at taken
      · rename_i caller later place
        rw [Whole, place] at whole
        cases fires with
        | true =>
            simp only [if_true, Option.ite_none_right_eq_some, Option.some.injEq] at taken
            obtain ⟨_, rfl⟩ := taken
            exact Whole.timeoutReady whole.1
        | false =>
            cases taken
            exact Whole.nextBranch whole.1 whole.2 later
      · cases taken
  | join answer =>
      simp only [drainStep] at taken
      split at taken
      · rename_i caller later place
        rw [Whole, place] at whole
        split at taken
        · exact whole_pollTask (Whole.nextBranch whole.1 whole.2 later)
            (fun _ own => Whole.waitReady whole.1 whole.2 own) taken
        · cases taken
          trivial
      · rename_i caller place
        rw [Whole, place] at whole
        exact whole_pollTask (Whole.notReady whole.1 whole.2)
          (fun output _ => Whole.abortReady whole.1 output) taken
      · rename_i first error place
        have waits : state.Whole results := by
          rw [Whole, place]
          trivial
        refine whole_pollTask waits ?_ taken
        intro output _
        exact (trivial : (state.cleanedUp first error output).Whole results)
      · cases taken

/-- **When the drain returns both sinks, neither task was told to stop**, in every run. Each sink is
the one its task ends with by itself. -/
theorem undisturbed_of_returned {names : Side → String} {sinks : Sink .stdout × Sink .stderr}
    (reachable : (drainMachine results names).Reachable state)
    (place : state.place = .returned (.ok sinks)) : state.BothWhole results sinks := by
  have whole : state.Whole results := by
    refine reachable.invariant ?_ fun whole _ taken => whole.step taken
    intro side _
    exact ⟨rfl, rfl⟩
  rw [Whole, place] at whole
  exact whole

end Whole

end DrainState

end TokioProcessTools.ProcessHandle.OutputCollection

/-! ## The operations -/

namespace TokioProcessTools.ProcessHandle

open Foundation OutputStream OutputCollection

section Operations

variable {Sink : Side → Type} {platform : Platform} {system : System Sink}
  {handle after : ProcessHandle}

/-- The output of a stream. -/
def ProcessOutput.sink (output : ProcessOutput Sink) : (side : Side) → Sink side
  | .stdout => output.stdout
  | .stderr => output.stderr

/-- The operation, with the output of the process if it returns one. -/
def OutputCall.output : OutputCall platform → Operation Sink (Option (ProcessOutput Sink))
  | .wait timeout eofTimeout => do
      match ← waitForCompletionWithOutput timeout eofTimeout with
      | .ok (.completed output) => return some output
      | .ok (.timeout _) | .error _ => return none
  | .waitOrTerminate timeout eofTimeout shutdown => do
      match ← waitForCompletionWithOutputOrTerminate timeout eofTimeout shutdown with
      | .ok (.completed output) | .ok (.terminatedAfterTimeout output _) => return some output
      | .error _ => return none

/-- Where the drain ends, or is dropped. -/
def DrainRun.final (run : DrainRun Sink) : DrainState Sink :=
  let machine := drainMachine run.results streamName
  (machine.exec machine.init run.actions).getD machine.init

theorem DrainRun.final_reachable (run : DrainRun Sink) :
    (drainMachine run.results streamName).Reachable run.final := by
  rw [DrainRun.final]
  cases executed : (drainMachine run.results streamName).exec
      (drainMachine run.results streamName).init run.actions with
  | none => exact .init
  | some state => exact Machine.reachable_exec .init executed

theorem waitForOutputConsumers_returned
    {result : Except ConsumerDrainError (Sink .stdout × Sink .stderr)}
    (ended : waitForOutputConsumers system handle = (.returned result, after)) :
    (system.drain after.events).final.place = .returned result := by
  simp only [waitForOutputConsumers] at ended
  split at ended
  · rename_i place
    cases ended
    exact place
  · cases ended
  · cases ended

theorem waitForCompletionWithCollectors_returned {timeout eofTimeout : Duration}
    {output : ProcessOutput Sink}
    (ended : waitForCompletionWithCollectors timeout eofTimeout system handle =
      (.returned (.ok (.completed output)), after)) :
    (system.drain after.events).final.place = .returned (.ok (output.stdout, output.stderr)) := by
  obtain ⟨_, _, _, ended⟩ := Program.exists_of_bind ended
  obtain ⟨waited, middle, _, ended⟩ := Program.exists_of_bind ended
  match waited, ended with
  | .error error, ended => cases ended
  | .ok (.timeout timeout), ended =>
      obtain ⟨_, _, _, ended⟩ := Program.exists_of_bind ended
      cases ended
  | .ok (.completed status), ended =>
      obtain ⟨drained, _, ran, ended⟩ := Program.exists_of_bind ended
      match drained, ran, ended with
      | .error error, _, ended => cases ended
      | .ok (stdout, stderr), ran, ended =>
          cases ended
          exact waitForOutputConsumers_returned ran

theorem waitForCompletionOrTerminateWithCollectors_returned {timeout eofTimeout : Duration}
    {shutdown : GracefulShutdown platform}
    {outcome : WaitForCompletionOrTerminateResult (ProcessOutput Sink)}
    (ended : waitForCompletionOrTerminateWithCollectors timeout shutdown eofTimeout system handle =
      (.returned (.ok outcome), after)) :
    ∃ (waited : WaitForCompletionOrTerminateResult ExitStatus) (stdout : Sink .stdout)
      (stderr : Sink .stderr), outcome = waited.map (⟨·, stdout, stderr⟩) ∧
      (system.drain after.events).final.place = .returned (.ok (stdout, stderr)) := by
  obtain ⟨_, _, _, ended⟩ := Program.exists_of_bind ended
  obtain ⟨waited, middle, _, ended⟩ := Program.exists_of_bind ended
  match waited, ended with
  | .error error, ended => cases ended
  | .ok status, ended =>
      obtain ⟨drained, _, ran, ended⟩ := Program.exists_of_bind ended
      match drained, ran, ended with
      | .error error, _, ended => cases ended
      | .ok (stdout, stderr), ran, ended =>
          cases ended
          exact ⟨status, stdout, stderr, rfl, waitForOutputConsumers_returned ran⟩

/-- **An output comes from a drain that has returned both sinks.** -/
theorem OutputCall.drain_of_output {call : OutputCall platform} {output : ProcessOutput Sink}
    (returned : call.output system handle = (.returned (some output), after)) :
    (system.drain after.events).final.place = .returned (.ok (output.stdout, output.stderr)) := by
  cases call with
  | wait timeout eofTimeout =>
      obtain ⟨result, middle, ran, ended⟩ := Program.exists_of_bind returned
      obtain ⟨spawned, _, _, collected⟩ := Program.exists_of_bind ran
      match result, collected, ended with
      | .error error, _, ended => cases ended
      | .ok (.timeout timeout), _, ended => cases ended
      | .ok (.completed output), collected, ended =>
          cases ended
          cases spawned with
          | error error => cases collected
          | ok _ => exact waitForCompletionWithCollectors_returned collected
  | waitOrTerminate timeout eofTimeout shutdown =>
      obtain ⟨result, middle, ran, ended⟩ := Program.exists_of_bind returned
      obtain ⟨spawned, _, _, collected⟩ := Program.exists_of_bind ran
      cases result with
      | error error => cases ended
      | ok outcome =>
          cases spawned with
          | error error => cases collected
          | ok _ =>
              obtain ⟨status, stdout, stderr, rfl, place⟩ :=
                waitForCompletionOrTerminateWithCollectors_returned collected
              cases status <;> cases ended <;> exact place

/-- **Neither collector of a returned output was told to stop.** -/
theorem OutputCall.output_undisturbed {call : OutputCall platform} {output : ProcessOutput Sink}
    (returned : call.output system handle = (.returned (some output), after)) (side : Side) :
    ((system.drain after.events).final.waits side).task.Undisturbed ∧
      (system.drain after.events).results side = .ok (.ok (output.sink side)) := by
  have both := DrainState.undisturbed_of_returned (system.drain after.events).final_reachable
    (OutputCall.drain_of_output returned)
  refine ⟨both.undisturbed side, ?_⟩
  cases side with
  | stdout => exact both.stdout
  | stderr => exact both.stderr

end Operations

end TokioProcessTools.ProcessHandle

/-! ## The collectors -/

namespace TokioProcessTools.ProcessHandle.OutputCollection

open Foundation OutputStream Line Visitors Backend SingleSubscriber

/-- `LineOutputOptions`. -/
structure LineOutputOptions where
  stdoutCollectionOptions : LineCollectionOptions
  stderrCollectionOptions : LineCollectionOptions
  deriving DecidableEq, Repr

/-- `RawOutputOptions`. -/
structure RawOutputOptions where
  stdoutCollectionOptions : RawCollectionOptions
  stderrCollectionOptions : RawCollectionOptions
  deriving DecidableEq, Repr

def LineOutputOptions.on (options : LineOutputOptions) : Side → LineCollectionOptions
  | .stdout => options.stdoutCollectionOptions
  | .stderr => options.stderrCollectionOptions

def RawOutputOptions.on (options : RawOutputOptions) : Side → RawCollectionOptions
  | .stdout => options.stdoutCollectionOptions
  | .stderr => options.stderrCollectionOptions

/-- The arguments of `with_line_output` and `with_raw_output`. -/
inductive OutputOptions where
  | lines (parsing : LineParsingOptions) (options : LineOutputOptions)
  | raw (options : RawOutputOptions)

abbrev OutputOptions.Sink : OutputOptions → Type
  | .lines _ _ => CollectedLines
  | .raw _ => CollectedBytes

section Tasks

variable {S : Type}

/-- What a task ends with; a panic of its visitor ends it. -/
def taskOutput : Checked (Option (Except StreamReadError S)) → Option (TaskOutput S)
  | .ok ended => ended.map .ok
  | .error reason => some (.error (.panicked (ConsumerProtocol.panicMessage reason)))

/-- A visitor that has stopped at a panic has no output. -/
def unwound : Option (Except StreamReadError (Checked S)) →
    Checked (Option (Except StreamReadError S))
  | none => .ok none
  | some (.error error) => .ok (some (.error error))
  | some (.ok (.ok sink)) => .ok (some (.ok sink))
  | some (.ok (.error reason)) => .error reason

/-- The closure of `spawn_line_collector`. A push that panics ends the task where it is. -/
def collectLine (collection : LineCollectionOptions) (sink : Checked CollectedLines)
    (line : String) : Checked CollectedLines × Next :=
  match sink >>= fun collected => collected.pushLine line collection with
  | .ok collected => (.ok collected, .goOn)
  | .error reason => (.error reason, .stop)

/-- `spawn_line_collector`: what its task ends with. -/
def spawnLineCollector (alloc : Allocator) (parsing : LineParsingOptions)
    (collection : LineCollectionOptions) (wakes : List Wake) : Option (TaskOutput CollectedLines) :=
  match ParseLines.new parsing (.ok {} : Checked CollectedLines) with
  -- `ParseLines::collect` panics before there is a task.
  | .error _ => none
  | .ok adapter => taskOutput
      (consumeSync (parseLines alloc (collectLines (collectLine collection))) adapter wakes >>= unwound)

/-- `spawn_chunk_collector`: what its task ends with. -/
def spawnChunkCollector (collection : RawCollectionOptions) (wakes : List Wake) :
    Option (TaskOutput CollectedBytes) :=
  taskOutput (consumeSync (collectChunks (CollectedBytes.collector collection)) {} wakes)

/-- The collector of a stream. -/
def OutputOptions.spawn (alloc : Allocator) : (options : OutputOptions) → Side → List Wake →
    Option (TaskOutput options.Sink)
  | .lines parsing options, side => spawnLineCollector alloc parsing (options.on side)
  | .raw options, side => spawnChunkCollector (options.on side)

/-- How the task of a collector ends by itself: with the answers of its subscription, or with some of
them and the signal, if it was sent. -/
def OutputOptions.Ends (alloc : Allocator) (options : OutputOptions) (side : Side)
    (answers : List (Option StreamEvent)) (signalled : Bool) (ending : TaskOutput options.Sink) :
    Prop :=
  options.spawn alloc side (answers.map .nextEvent) = some ending ∨
    signalled = true ∧ ∃ front, front <+: answers ∧
      options.spawn alloc side (front.map .nextEvent ++ [.termSignal]) = some ending

/-- What a sink holds: the lines or bytes of the answers before the end, as far as the collection has
room. They are lines or bytes of the text in their order, and all of them when nothing was lost. -/
def OutputOptions.Holds (answers : List (Option StreamEvent)) (text : List UInt8) (lossless : Prop)
    (side : Side) : (options : OutputOptions) → options.Sink → Prop
  | .lines parsing options, sink =>
      let shown := consumedLines parsing answers
      CollectedLines.pushLines {} (shown.map fun line => (line, options.on side)) = .ok sink ∧
        shown.Sublist (textLines parsing text) ∧ (lossless → shown = textLines parsing text)
  | .raw options, sink =>
      let shown := allBytes (beforeEnd answers)
      sink = (options.on side).holds shown ∧ shown.Sublist text ∧ (lossless → shown = text)

end Tasks

section Collectors

variable {events : List StreamEvent} {ended : Bool} {text : List UInt8} (alloc : Allocator)

/-- The line collector pushes its lines until a push panics. -/
theorem visitText_collectLine (collection : LineCollectionOptions) (collected : CollectedLines)
    (lines : List String) :
    (collectLines (collectLine collection)).visitText (.ok collected) lines =
      match collected.pushLines (lines.map fun line => (line, collection)) with
      | .ok later => (.ok later, .goOn)
      | .error reason => (.error reason, .stop) := by
  induction lines generalizing collected with
  | nil => rfl
  | cons line rest ih =>
      rw [LineVisitor.visitText, List.map_cons, CollectedLines.pushLines, List.foldlM_cons]
      simp only [collectLines, collectLine, checked_ok_bind]
      cases collected.pushLine line collection with
      | error reason => rfl
      | ok later => exact ih later

theorem taskOutput_eq_sink {S : Type} {result : Checked (Option (Except StreamReadError S))}
    {sink : S} (ends : taskOutput result = some (.ok (.ok sink))) :
    result = .ok (some (.ok sink)) := by
  match result, ends with
  | .ok (some (.ok _)), rfl => rfl

/-- **What a line collector ends with.** -/
theorem spawnLineCollector_holds {parsing : LineParsingOptions} {collection : LineCollectionOptions}
    {collected : CollectedLines} (relays : Relays events ended text)
    (ends : spawnLineCollector alloc parsing collection ((answersOf events ended).map .nextEvent) =
      some (.ok (.ok collected))) :
    let shown := consumedLines parsing (answersOf events ended)
    CollectedLines.pushLines {} (shown.map fun line => (line, collection)) = .ok collected ∧
      shown.Sublist (textLines parsing text) ∧ (.gap ∉ events → shown = textLines parsing text) := by
  have limited : 0 < parsing.maxLineLength.bytes := by
    by_contra unlimited
    rw [spawnLineCollector, ParseLines.new, assertMaxLineLengthNonZero, if_neg unlimited] at ends
    cases ends
  rw [spawnLineCollector, ParseLines.new_eq limited] at ends
  have consumed := taskOutput_eq_sink ends
  rw [consumeSync_lines alloc (show (collectLines (collectLine collection)).onEof = id from rfl) rfl,
    visitText_collectLine, checked_ok_bind] at consumed
  intro shown
  cases pushed : CollectedLines.pushLines {}
      (shown.map fun line => (line, collection)) with
  | error reason =>
      rw [pushed] at consumed
      cases consumed
  | ok later =>
      rw [pushed] at consumed
      cases ending : streamEnd (answersOf events ended) with
      | none =>
          rw [ending] at consumed
          cases consumed
      | some closing =>
          rw [ending] at consumed
          cases closing with
          | failed error => cases consumed
          | closed =>
              cases consumed
              exact ⟨rfl, relays.consumedLines_sublist limited, fun complete =>
                relays.consumedLines_eq limited complete ending⟩

/-- **What a byte collector ends with.** -/
theorem spawnChunkCollector_holds {collection : RawCollectionOptions} {collected : CollectedBytes}
    (relays : Relays events ended text)
    (ends : spawnChunkCollector collection ((answersOf events ended).map .nextEvent) =
      some (.ok (.ok collected))) :
    let shown := allBytes (beforeEnd (answersOf events ended))
    collected = collection.holds shown ∧ shown.Sublist text ∧ (.gap ∉ events → shown = text) := by
  have consumed : collectedBytes collection (answersOf events ended) = .ok (some (.ok collected)) :=
    taskOutput_eq_sink ends
  rw [collectedBytes_eq] at consumed
  obtain ⟨closed, held⟩ := visitedResult_goOn (Except.ok.inj consumed)
  obtain ⟨sublist, whole⟩ := relays_read relays
  exact ⟨held, sublist, fun complete => (whole complete).2 closed⟩

/-- **A collector that was not signalled holds what its subscription relays.** -/
theorem OutputOptions.holds_of_ends {options : OutputOptions} {side : Side} {sink : options.Sink}
    {lossless : Prop} (relays : Relays events ended text) (complete : lossless → .gap ∉ events)
    (ends : options.Ends alloc side (answersOf events ended) false (.ok (.ok sink))) :
    options.Holds (answersOf events ended) text lossless side sink := by
  rcases ends with ends | ⟨signalled, _⟩
  · cases options with
    | lines parsing options =>
        obtain ⟨pushed, sublist, whole⟩ := spawnLineCollector_holds alloc relays ends
        exact ⟨pushed, sublist, fun lossless => whole (complete lossless)⟩
    | raw options =>
        obtain ⟨held, sublist, whole⟩ := spawnChunkCollector_holds relays ends
        exact ⟨held, sublist, fun lossless => whole (complete lossless)⟩
  · cases signalled

end Collectors

end TokioProcessTools.ProcessHandle.OutputCollection

/-! ## The streams -/

namespace TokioProcessTools.ProcessHandle.OutputCollection

open Foundation OutputStream Line Backend SingleSubscriber

/-- A subscription of a stream with one of the backends, somewhere in a run of that backend: the events
it has yielded and whether it has ended, the text that is meant for it, and when nothing of that is
lost. Except on the fast path, the stream is not dropped in the run. -/
inductive Supplied (streamName : String) :
    List StreamEvent → Bool → List UInt8 → Prop → Prop where
  /-- A broadcast stream with replay, or with reliable delivery. -/
  | fanout {options : ValidConfig} {before after state : Broadcast.FanoutState}
      {actions : List Broadcast.FanoutAction} {subscription : Broadcast.SharedSubscription}
      (reachable : (Broadcast.fanoutMachine streamName options).ReachableBy Broadcast.StreamKept
        before)
      (subscribed : Broadcast.fanoutStep streamName options.toStreamConfig before .subscribe =
        some after)
      (ran : (Broadcast.fanoutMachine streamName options).execBy Broadcast.StreamKept after actions =
        some state)
      (found : state.subscriptions[before.subscriptions.length]? = some subscription)
      (inUse : subscription.status = .inUse) :
      Supplied streamName (subscription.yielded.map Broadcast.IndexedEvent.event) subscription.ended
        (allBytes ((before.shared.replaySnapshot options.toStreamConfig).1.map
            Broadcast.IndexedEvent.event) ++
          before.reader.buffered ++ actions.flatMap Broadcast.FanoutAction.bytes)
        (options.deliveryGuarantee = .reliableWithBackpressure ∨
          ∀ event ∈ subscription.yielded, event.event ≠ .gap)
  /-- A broadcast stream without replay and without backpressure. -/
  | fast {options : ValidConfig} {capacity : Nat} {before after state : Broadcast.Fast.FastState}
      {actions : List Broadcast.Fast.FastAction} {subscription : Broadcast.Fast.FastSubscription}
      (reachable : (Broadcast.Fast.fastMachine streamName options capacity).Reachable before)
      (subscribed : (Broadcast.Fast.fastMachine streamName options capacity).step before
        .subscribeReceiver = some after)
      (ran : (Broadcast.Fast.fastMachine streamName options capacity).exec after actions = some state)
      (found : state.subscriptions[before.subscriptions.length]? = some subscription) :
      Supplied streamName subscription.yielded subscription.ended
        (before.reader.buffered ++ actions.flatMap Broadcast.Fast.FastAction.bytes)
        (.gap ∉ subscription.yielded)
  /-- A stream with a single subscriber that is waited for. -/
  | reliable {options : ValidConfig} {before after state : SingleSubscriber.StreamState}
      {actions : List SingleSubscriber.Action} {subscription : SingleSubscriber.SingleSubscription}
      (guarantee : options.deliveryGuarantee = .reliableWithBackpressure)
      (reachable : (SingleSubscriber.streamMachine streamName options).ReachableBy
        SingleSubscriber.StreamKept before)
      (inactive : before.shared.activeId = none)
      (subscribed : SingleSubscriber.step streamName options.toStreamConfig before .subscribe =
        some after)
      (ran : (SingleSubscriber.streamMachine streamName options).execBy SingleSubscriber.StreamKept
        after actions = some state)
      (found : state.subscriptions[before.subscriptions.length]? = some subscription) :
      Supplied streamName subscription.received subscription.ended
        (state.source.drop (before.source.length -
          (allBytes (before.initial options.toStreamConfig) ++
            allBytes (after.inFlight before.subscriptions.length) ++
              before.reader.unrecorded).length)) True
  /-- A stream with a single subscriber that may miss chunks, when there is nothing to replay. -/
  | lossy {options : ValidConfig} {before after state : SingleSubscriber.StreamState}
      {actions : List SingleSubscriber.Action} {subscription : SingleSubscriber.SingleSubscription}
      (guarantee : options.deliveryGuarantee = .lossyWithoutBackpressure)
      (reachable : (SingleSubscriber.streamMachine streamName options).ReachableBy
        SingleSubscriber.StreamKept before)
      (inactive : before.shared.activeId = none)
      (nothing : before.shared.replaySnapshot options.toStreamConfig = [])
      (subscribed : SingleSubscriber.step streamName options.toStreamConfig before .subscribe =
        some after)
      (ran : (SingleSubscriber.streamMachine streamName options).execBy SingleSubscriber.StreamKept
        after actions = some state)
      (found : state.subscriptions[before.subscriptions.length]? = some subscription) :
      Supplied streamName subscription.received subscription.ended
        (if before.shared.terminalEvent = none then state.source.drop (before.reader.position -
          before.reader.due after.activeTx before.subscriptions.length) else [])
        (.gap ∉ subscription.received)

section Streams

variable {streamName : String} {events : List StreamEvent} {ended : Bool} {text : List UInt8}
  {lossless : Prop}

/-- **Every backend relays the text.** -/
theorem Supplied.relays (supplied : Supplied streamName events ended text lossless) :
    Relays events ended text ∧ (lossless → .gap ∉ events) := by
  cases supplied with
  | fanout reachable subscribed ran found inUse =>
      exact Broadcast.fanout_relays reachable subscribed ran found inUse
  | fast reachable subscribed ran found =>
      exact ⟨Broadcast.Fast.fast_relays reachable subscribed ran found, id⟩
  | reliable guarantee reachable inactive subscribed ran found =>
      obtain ⟨start, inside, begins, always⟩ :=
        SingleSubscriber.reliable_relays guarantee reachable inactive subscribed
      obtain ⟨relays, complete⟩ := always _ _ _ ran found
      rw [← begins, List.length_drop, Nat.sub_sub_self inside]
      exact ⟨relays, fun _ => complete⟩
  | lossy guarantee reachable inactive nothing subscribed ran found =>
      obtain ⟨start, _, sum, always⟩ :=
        SingleSubscriber.lossy_relays guarantee reachable inactive nothing subscribed
      rw [Nat.sub_eq_of_eq_add sum.symm]
      exact ⟨always _ _ _ ran found, id⟩

end Streams

end TokioProcessTools.ProcessHandle.OutputCollection

/-! ## The output -/

namespace TokioProcessTools.ProcessHandle

open Foundation OutputStream OutputCollection Line Visitors

section Output

variable {platform : Platform} {options : OutputOptions} {handle after : ProcessHandle}

/-- **The output of a process is never cut short.** An operation with output collection returns an
output, whatever the process, the clock and the runtime do. Each stream has one of the backends; it is
not dropped meanwhile, unless it is on the fast path, and one with a single lossy subscriber had
nothing to replay to it. The collector on it ends with what it makes of its subscription, or at the
signal if the drain has sent it. Then neither collector was told to stop. The output of each stream
holds the lines or bytes of what its subscription has yielded, as far as there is room. These are lines
or bytes of the text that was meant for the subscription, in their order, and all of them when nothing
was lost. -/
theorem output_whole (alloc : Allocator) {call : OutputCall platform}
    {system : System fun _ => options.Sink} {output : ProcessOutput fun _ => options.Sink}
    (returned : call.output system handle = (.returned (some output), after))
    {events : Side → List StreamEvent} {ended : Side → Bool} {text : Side → List UInt8}
    {lossless : Side → Prop}
    (supplied : ∀ side, Supplied (streamName side) (events side) (ended side) (text side)
      (lossless side))
    (ends : ∀ side, options.Ends alloc side (answersOf (events side) (ended side))
      ((system.drain after.events).final.waits side).task.terminationSent
      ((system.drain after.events).results side)) (side : Side) :
    ((system.drain after.events).final.waits side).task.Undisturbed ∧
      options.Holds (answersOf (events side) (ended side)) (text side) (lossless side) side
        (output.sink side) := by
  obtain ⟨undisturbed, result⟩ := OutputCall.output_undisturbed returned side
  obtain ⟨relays, complete⟩ := (supplied side).relays
  have ending := ends side
  rw [undisturbed.unsignalled, result] at ending
  refine ⟨undisturbed, ?_⟩
  exact OutputOptions.holds_of_ends alloc relays complete ending

end Output

/-- Lines of at most sixteen bytes, all of them kept. -/
def allLines : OutputOptions :=
  .lines ⟨⟨16⟩, .dropAdditionalData, none⟩ ⟨.trustedUnbounded, .trustedUnbounded⟩

/-- A system on which the process exits, having written a line on stdout and the start of one on
stderr, and both collectors end in time. -/
def finishedSystem : System fun _ => allLines.Sink where
  probe _ := .ok none
  send _ _ _ := .ok ()
  kill _ := .ok ()
  wait _ _ := .exited ⟨0⟩
  othersGone _ _ := true
  joins _ _ := true
  drain _ := ⟨fun
    | .stdout => .ok (.ok ⟨["a"], false, 1⟩)
    | .stderr => .ok (.ok ⟨["b"], false, 1⟩),
    [.poll .stdout, .start .wait, .join .completed, .start .wait, .join .completed]⟩

/-- A stream that has replayed a chunk and then delivered the end of a line. -/
theorem supplied_stdout : ∃ lossless : Prop, lossless ∧
    Supplied "stdout" [.chunk ⟨[97], 0⟩, .chunk ⟨[10], 1⟩, .eof] false [97, 10] lossless := by
  obtain ⟨before, after, state, reachable, subscribed, ran, buffered, snapshot, yielded⟩ :=
    (Backend.Broadcast.fanoutMachine "stdout" Backend.Broadcast.lossyConfig).exists_run
      Backend.Broadcast.StreamKept [.read [97], .append [], .deliver] .subscribe
      [.read [10], .append [(0, 0)], .deliver, .deliver, .recv 0, .recv 0, .readEof,
        .append [(0, 0)], .deliver, .deliver, .recv 0]
      (fun before state => before.reader = .reading ∧
        (before.shared.replaySnapshot Backend.Broadcast.lossyConfig.toStreamConfig).1 =
          [⟨0, .chunk ⟨[97], 0⟩⟩] ∧
        (state.subscriptions[before.subscriptions.length]?).map (fun subscription =>
          (subscription.status, subscription.yielded, subscription.ended)) =
            some (.inUse, [⟨0, .chunk ⟨[97], 0⟩⟩, ⟨1, .chunk ⟨[10], 1⟩⟩, ⟨2, .eof⟩], false))
      (by decide +kernel)
  obtain ⟨subscription, found, same⟩ := Option.map_eq_some_iff.mp yielded
  obtain ⟨inUse, same⟩ := Prod.mk.inj same
  obtain ⟨yielded, ended⟩ := Prod.mk.inj same
  have supplied := Supplied.fanout reachable subscribed ran found inUse
  rw [yielded, ended, buffered, snapshot] at supplied
  exact ⟨_, .inr (by decide), supplied⟩

/-- A stream with a single subscriber that has delivered one byte. -/
theorem supplied_stderr : ∃ text lossless,
    Supplied "stderr" [.chunk ⟨[98], 0⟩, .eof] false text lossless := by
  obtain ⟨before, after, state, reachable, subscribed, ran, first, inactive, received⟩ :=
    (Backend.SingleSubscriber.streamMachine "stderr" Backend.SingleSubscriber.plainConfig).exists_run
      Backend.SingleSubscriber.StreamKept [] .subscribe
      [.changed, .read [98], .reader, .reader, .nextEvent 0, .readEof, .reader, .reader,
        .nextEvent 0]
      (fun before state => before.subscriptions.length = 0 ∧ before.shared.activeId = none ∧
        state.subscriptions[0]?.map (fun subscription =>
          (subscription.received, subscription.ended)) =
            some ([.chunk ⟨[98], 0⟩, .eof], false))
      (by decide +kernel)
  obtain ⟨subscription, found, same⟩ := Option.map_eq_some_iff.mp received
  obtain ⟨received, ended⟩ := Prod.mk.inj same
  rw [← first] at found
  have supplied := Supplied.reliable rfl reachable inactive subscribed ran found
  rw [received, ended] at supplied
  exact ⟨_, _, supplied⟩

/-- Both collectors end in time, and every line of stdout is in the output. -/
theorem output_whole_lines :
    ∃ after : ProcessHandle,
      (OutputCall.wait (.fromSecs 1) (.fromSecs 1) : OutputCall .unix).output finishedSystem spawned =
        (.returned (some ⟨⟨0⟩, ⟨["a"], false, 1⟩, ⟨["b"], false, 1⟩⟩), after) ∧
      CollectedLines.pushLines {} ((textLines ⟨⟨16⟩, .dropAdditionalData, none⟩ [97, 10]).map
        fun line => (line, .trustedUnbounded)) = .ok ⟨["a"], false, 1⟩ := by
  obtain ⟨stdoutWhole, lossless, stdout⟩ := supplied_stdout
  obtain ⟨text, stderrWhole, stderr⟩ := supplied_stderr
  have stdoutEnds : spawnLineCollector exactAllocator ⟨⟨16⟩, .dropAdditionalData, none⟩
      .trustedUnbounded ((answersOf [.chunk ⟨[97], 0⟩, .chunk ⟨[10], 1⟩, .eof] false).map .nextEvent) =
        some (.ok (.ok ⟨["a"], false, 1⟩)) := by decide +kernel
  have stderrEnds : spawnLineCollector exactAllocator ⟨⟨16⟩, .dropAdditionalData, none⟩
      .trustedUnbounded ((answersOf [.chunk ⟨[98], 0⟩, .eof] false).map .nextEvent) =
        some (.ok (.ok ⟨["b"], false, 1⟩)) := by decide +kernel
  have whole := @output_whole .unix allLines spawned _ exactAllocator
    (.wait (.fromSecs 1) (.fromSecs 1)) finishedSystem ⟨⟨0⟩, ⟨["a"], false, 1⟩, ⟨["b"], false, 1⟩⟩ rfl
    (fun
      | .stdout => [.chunk ⟨[97], 0⟩, .chunk ⟨[10], 1⟩, .eof]
      | .stderr => [.chunk ⟨[98], 0⟩, .eof])
    (fun _ => false)
    (fun
      | .stdout => [97, 10]
      | .stderr => text)
    (fun
      | .stdout => stdoutWhole
      | .stderr => stderrWhole)
    (fun
      | .stdout => stdout
      | .stderr => stderr)
    (fun
      | .stdout => .inl stdoutEnds
      | .stderr => .inl stderrEnds) .stdout
  obtain ⟨_, pushed, _, all⟩ := whole
  rw [all lossless] at pushed
  exact ⟨_, rfl, pushed⟩

end TokioProcessTools.ProcessHandle
