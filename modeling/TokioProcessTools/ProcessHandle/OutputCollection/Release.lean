import TokioProcessTools.ProcessHandle.Escalation
import TokioProcessTools.ProcessHandle.OutputCollection.Collectors

/-!
# Releasing the streams

When an operation with output collection has resolved, its collectors should be
joined, so that an exclusive stream accepts the next consumer at once. This holds
exactly unless the wait for the process fails: then the operation leaves by `?`,
and the collectors are dropped without being joined (`releasesStreams_iff`).

The wait and the termination do not look at the streams, so that how they end can
be told from the handle before the collectors are spawned (`IgnoresStreams`).
-/

set_option autoImplicit false

namespace TokioProcessTools.ProcessHandle

open Foundation OutputStream OutputCollection

/-- The operations with output collection. -/
inductive OutputCall (platform : Platform) where
  | wait (timeout eofTimeout : Duration)
  | waitOrTerminate (timeout eofTimeout : Duration) (shutdown : GracefulShutdown platform)

section Calls

variable {Sink : Side → Type} {platform : Platform}

/-- The operation, without its result. -/
def OutputCall.run : OutputCall platform → Operation Sink Unit
  | .wait timeout eofTimeout => do
      let _ ← waitForCompletionWithOutput timeout eofTimeout
      return ()
  | .waitOrTerminate timeout eofTimeout shutdown => do
      let _ ← waitForCompletionWithOutputOrTerminate timeout eofTimeout shutdown
      return ()

/-- No collector is attached any more, and no stream is occupied that was free before. -/
def Released (before after : ProcessHandle) : Prop :=
  ∀ side, (after.streams side).collector.attached = false ∧
    ((after.streams side).occupied = true → (before.streams side).occupied = true)

/-- Whenever the operation resolves, both streams are released. -/
def OutputCall.ReleasesStreams (call : OutputCall platform) (system : System Sink)
    (handle : ProcessHandle) : Prop :=
  ∀ after, call.run system handle = (.returned (), after) → Released handle after

/-- Both streams accept a consumer: who occupies one is gone by now. -/
def StreamsFree (system : System Sink) (handle : ProcessHandle) : Prop :=
  ∀ side, (handle.streams side).occupied = true → system.othersGone handle.events side = true

/-- The streams accept the collectors, and the process cannot be waited for: the wait reports an
error, or it elapses and the termination fails. -/
def OutputCall.WaitFails (call : OutputCall platform) (system : System Sink)
    (handle : ProcessHandle) : Prop :=
  StreamsFree system handle ∧
    match call with
    | .wait timeout _ => ∃ error, system.wait handle.events (some timeout) = .failed error
    | .waitOrTerminate timeout _ shutdown =>
        match system.wait handle.events (some timeout) with
        | .failed error => ∃ result,
            (terminate shutdown system (handle.waited (some timeout) (.failed error))).1 =
              .returned result
        | .elapsed => ∃ error,
            (terminate shutdown system (handle.waited (some timeout) .elapsed)).1 =
              .returned (.error error)
        | .exited _ | .dropped => False

/-! ## Operations that do not look at the streams -/

/-- The handle with other streams. -/
def withStreams (streams : Side → StreamSlot) (handle : ProcessHandle) : ProcessHandle :=
  { handle with streams := streams }

/-- The operation neither looks at the streams nor changes them. -/
def IgnoresStreams {α : Type} (operation : Operation Sink α) : Prop :=
  ∀ system streams, operation.Commutes system (withStreams streams)

theorem IgnoresStreams.streams_eq {α : Type} {operation : Operation Sink α}
    (ignores : IgnoresStreams operation) (system : System Sink) (handle : ProcessHandle) :
    (operation system handle).2.streams = handle.streams :=
  congrArg (fun ended => ended.2.streams) (ignores system handle.streams handle)

namespace IgnoresStreams

theorem pure {α : Type} (value : α) : IgnoresStreams (Pure.pure value : Operation Sink α) :=
  fun _ _ => .pure value

theorem bind {α β : Type} {operation : Operation Sink α} {next : α → Operation Sink β}
    (before : IgnoresStreams operation) (behind : ∀ value, IgnoresStreams (next value)) :
    IgnoresStreams (operation >>= next) :=
  fun system streams => (before system streams).bind fun value => behind value system streams

theorem get_bind {β : Type} {next : ProcessHandle → Operation Sink β}
    (same : ∀ streams handle, next (withStreams streams handle) = next handle)
    (behind : ∀ handle, IgnoresStreams (next handle)) : IgnoresStreams (Program.get >>= next) :=
  fun system streams => .get_bind (same streams) fun handle => behind handle system streams

end IgnoresStreams

theorem wait_ignoresStreams (timeout : Duration) :
    IgnoresStreams (wait (some timeout) : Operation Sink _) := by
  intro system streams handle
  rw [wait_run, wait_run]
  have events : (withStreams streams handle).events = handle.events := rfl
  rw [events]
  cases system.wait handle.events (some timeout) <;> rfl

theorem waitForCompletionInner_ignoresStreams (timeout : Duration) :
    IgnoresStreams (waitForCompletionInner timeout : Operation Sink _) := by
  refine .get_bind (fun _ _ => rfl) fun handle => (wait_ignoresStreams timeout).bind fun answer => ?_
  cases answer with
  | none => exact .pure _
  | some reply => cases reply <;> exact .pure _

theorem waitForExitAfterSignal_ignoresStreams (timeout : Duration) :
    IgnoresStreams (waitForExitAfterSignal timeout : Operation Sink _) := by
  refine (waitForCompletionInner_ignoresStreams timeout).bind fun answer => ?_
  rcases answer with error | completed | elapsed <;> exact .pure _

theorem failTermination_ignoresStreams {α : Type} (diagnostics : TerminationDiagnostics) :
    IgnoresStreams (failTermination diagnostics : Operation Sink (Except TerminationError α)) := by
  refine .get_bind (fun _ _ => rfl) fun handle => .bind ?_ fun error => .pure _
  unfold intoTerminationFailed
  split
  · exact fun _ _ _ => rfl
  · exact .pure _

theorem attemptGracefulPhase_ignoresStreams (index : Nat) (signalName : String)
    (timeout : Duration) (diagnostics : TerminationDiagnostics) :
    IgnoresStreams (attemptGracefulPhase index signalName timeout diagnostics : Operation Sink _) := by
  refine .bind (fun _ _ _ => rfl) fun sendReply => ?_
  cases sendReply with
  | ok sent =>
      refine (waitForExitAfterSignal_ignoresStreams timeout).bind fun answer => ?_
      rcases answer with error | (elapsed | status) <;> exact .pure _
  | error sendError =>
      refine (waitForExitAfterSignal_ignoresStreams _).bind fun answer => ?_
      rcases answer with error | (elapsed | status) <;> exact .pure _

theorem attemptForcefulKill_ignoresStreams (diagnostics : TerminationDiagnostics) :
    IgnoresStreams (attemptForcefulKill platform diagnostics : Operation Sink _) := by
  refine .bind (fun _ _ _ => rfl) fun killReply => ?_
  cases killReply with
  | ok killed =>
      refine (waitForExitAfterSignal_ignoresStreams _).bind fun answer => ?_
      rcases answer with error | (elapsed | status)
      · exact failTermination_ignoresStreams _
      · exact failTermination_ignoresStreams _
      · exact .pure _
  | error killError =>
      refine (waitForExitAfterSignal_ignoresStreams _).bind fun answer => ?_
      rcases answer with error | (elapsed | status)
      · exact failTermination_ignoresStreams _
      · exact failTermination_ignoresStreams _
      · exact .pure _

theorem attemptSteps_ignoresStreams (index : Nat) (steps : List TerminationStep)
    (diagnostics : TerminationDiagnostics) :
    IgnoresStreams (attemptSteps platform index steps diagnostics : Operation Sink _) := by
  induction steps generalizing index diagnostics with
  | nil => exact attemptForcefulKill_ignoresStreams diagnostics
  | cons step rest ih =>
      refine (attemptGracefulPhase_ignoresStreams index _ _ diagnostics).bind fun ended => ?_
      rcases ended with ⟨_ | status, later⟩
      · exact ih (index + 1) later
      · exact .pure _

theorem terminate_ignoresStreams (shutdown : GracefulShutdown platform) :
    IgnoresStreams (terminate shutdown : Operation Sink _) := by
  unfold terminate runTerminationLoop
  rw [if_neg shutdown.steps_ne_nil]
  refine .bind ?_ fun result => ?_
  · refine .bind (fun _ _ _ => rfl) fun probe => ?_
    rcases probe with error | (_ | status)
    · exact attemptSteps_ignoresStreams _ _ _
    · exact attemptSteps_ignoresStreams _ _ _
    · exact .pure _
  · cases result with
    | ok status => exact .bind (fun _ _ _ => rfl) fun _ => .pure _
    | error error => exact .pure _

theorem waitForCompletionOrTerminateInner_ignoresStreams (timeout : Duration)
    (shutdown : GracefulShutdown platform) :
    IgnoresStreams (waitForCompletionOrTerminateInner timeout shutdown : Operation Sink _) := by
  refine (waitForCompletionInner_ignoresStreams timeout).bind fun answer => ?_
  rcases answer with waitError | status | elapsed
  · refine .get_bind (fun _ _ => rfl) fun handle => (terminate_ignoresStreams shutdown).bind ?_
    rintro (error | status) <;> exact .pure _
  · exact .pure _
  · refine .get_bind (fun _ _ => rfl) fun handle => (terminate_ignoresStreams shutdown).bind ?_
    rintro (error | status) <;> exact .pure _

/-! ## Spawning -/

variable {system : System Sink} {handle : ProcessHandle}

/-- A collector runs on a stream that nobody else occupies. -/
def StreamSlot.Collecting (slot : StreamSlot) : Prop :=
  slot.collector = .running ∧ (slot.exclusive && slot.others) = false

/-- The slot as a subscription finds it. -/
def StreamSlot.begun (slot : StreamSlot) (gone : Bool) : StreamSlot :=
  ⟨slot.exclusive, (slot.others || slot.collector.attached) && !gone, .absent⟩

theorem StreamSlot.begun_occupied (slot : StreamSlot) (gone : Bool) :
    (slot.begun gone).occupied = (slot.occupied && !gone) := by
  simp only [StreamSlot.begun, StreamSlot.occupied, CollectorTask.attached, Bool.or_false,
    Bool.and_assoc]

/-- The slot `try_spawn_output_collectors` finds on a stream. -/
def begunSlot (system : System Sink) (handle : ProcessHandle) (side : Side) : StreamSlot :=
  (handle.streams side).begun (system.othersGone handle.events side)

theorem begunSlot_occupied_iff (side : Side) :
    (begunSlot system handle side).occupied = true ↔
      (handle.streams side).occupied = true ∧ system.othersGone handle.events side = false := by
  rw [begunSlot, StreamSlot.begun_occupied, Bool.and_eq_true, Bool.not_eq_true']

/-- How the spawn of the collectors ends. -/
inductive SpawnEnd (system : System Sink) (handle : ProcessHandle) :
    Fate (Except WaitWithOutputError Unit) × ProcessHandle → Prop where
  | spawned {after : ProcessHandle} (free : StreamsFree system handle)
      (unchanged : after = withStreams after.streams handle)
      (collecting : ∀ side, (after.streams side).Collecting) :
      SpawnEnd system handle (.returned (.ok ()), after)
  | rejected {error : WaitWithOutputError} {after : ProcessHandle}
      (taken : ¬ StreamsFree system handle) (released : Released handle after) :
      SpawnEnd system handle (.returned (.error error), after)
  | dropped {after : ProcessHandle} (taken : ¬ StreamsFree system handle) :
      SpawnEnd system handle (.dropped, after)

theorem spawnCollector_of_occupied {side : Side} {slot : StreamSlot}
    (seen : slot = ⟨(handle.streams side).exclusive,
      (handle.streams side).others && !system.othersGone handle.events side,
      (handle.streams side).collector⟩) (occupied : slot.occupied = true) :
    spawnCollector side system handle =
      (.returned (.error (.activeConsumer (streamName side))), handle.setSlot side slot) := by
  subst seen
  exact if_pos occupied

theorem spawnCollector_of_free {side : Side} {slot : StreamSlot}
    (seen : slot = ⟨(handle.streams side).exclusive,
      (handle.streams side).others && !system.othersGone handle.events side,
      (handle.streams side).collector⟩) (free : slot.occupied = false) :
    spawnCollector side system handle =
      (.returned (.ok ()), handle.setSlot side { slot with collector := .running }) := by
  subst seen
  exact if_neg (Bool.eq_false_iff.mp free)

theorem trySpawnOutputCollectors_of_stdout
    (occupied : (begunSlot system handle .stdout).occupied = true) :
    trySpawnOutputCollectors system handle =
      (.returned (.error (.outputCollectionStartFailed handle.name (.activeConsumer "stdout"))),
        handle.beginCollection.setSlot .stdout (begunSlot system handle .stdout)) := by
  have rejected := @spawnCollector_of_occupied _ system handle.beginCollection .stdout _ rfl occupied
  simp only [trySpawnOutputCollectors, Program.bind_run, Program.modify_run, Program.get_run,
    Program.andThen_returned, rejected]
  rfl

@[simp] theorem setSlot_stdout (slot : StreamSlot) :
    (handle.setSlot .stdout slot).streams .stdout = slot := by
  simp only [setSlot, Function.update_self]

@[simp] theorem setSlot_stdout_stderr (slot : StreamSlot) :
    (handle.setSlot .stdout slot).streams .stderr = handle.streams .stderr := by
  have different : Side.stderr ≠ Side.stdout := by decide
  simp only [setSlot, Function.update_of_ne different]

@[simp] theorem setSlot_stderr (slot : StreamSlot) :
    (handle.setSlot .stderr slot).streams .stderr = slot := by
  simp only [setSlot, Function.update_self]

@[simp] theorem setSlot_stderr_stdout (slot : StreamSlot) :
    (handle.setSlot .stderr slot).streams .stdout = handle.streams .stdout := by
  have different : Side.stdout ≠ Side.stderr := by decide
  simp only [setSlot, Function.update_of_ne different]

/-- The handle whose stdout collector was spawned. -/
def stdoutSpawned (system : System Sink) (handle : ProcessHandle) : ProcessHandle :=
  handle.beginCollection.setSlot .stdout
    { begunSlot system handle .stdout with collector := .running }

theorem trySpawnOutputCollectors_of_stderr
    (free : (begunSlot system handle .stdout).occupied = false)
    (occupied : (begunSlot system handle .stderr).occupied = true) :
    trySpawnOutputCollectors system handle =
      Program.andThen (abortCollectors [.stdout] system
        ((stdoutSpawned system handle).setSlot .stderr (begunSlot system handle .stderr)))
        fun _ later => (.returned (.error
          (.outputCollectionStartFailed handle.name (.activeConsumer "stderr"))), later) := by
  have first := @spawnCollector_of_free _ system handle.beginCollection .stdout _ rfl free
  have second : spawnCollector .stderr system (stdoutSpawned system handle) = _ :=
    spawnCollector_of_occupied (by rw [stdoutSpawned, setSlot_stdout_stderr]; rfl) occupied
  simp only [trySpawnOutputCollectors, Program.bind_run, Program.modify_run, Program.get_run,
    Program.andThen_returned, first]
  exact congrArg (Program.andThen · _) second

theorem trySpawnOutputCollectors_of_free
    (stdoutFree : (begunSlot system handle .stdout).occupied = false)
    (stderrFree : (begunSlot system handle .stderr).occupied = false) :
    trySpawnOutputCollectors system handle =
      (.returned (.ok ()), (stdoutSpawned system handle).setSlot .stderr
        { begunSlot system handle .stderr with collector := .running }) := by
  have first := @spawnCollector_of_free _ system handle.beginCollection .stdout _ rfl stdoutFree
  have second : spawnCollector .stderr system (stdoutSpawned system handle) = _ :=
    spawnCollector_of_free (by rw [stdoutSpawned, setSlot_stdout_stderr]; rfl) stderrFree
  simp only [trySpawnOutputCollectors, Program.bind_run, Program.modify_run, Program.get_run,
    Program.andThen_returned, first]
  exact congrArg (Program.andThen · _) second

/-- A slot without a collector that is occupied only if the other one is. -/
def StreamSlot.FreedFrom (slot before : StreamSlot) : Prop :=
  slot.collector.attached = false ∧ (slot.occupied = true → before.occupied = true)

/-- A stream that was only looked at is as free as before. -/
theorem StreamSlot.begun_freedFrom (slot : StreamSlot) (gone : Bool) :
    (slot.begun gone).FreedFrom slot := by
  refine ⟨rfl, fun occupied => ?_⟩
  rw [begun_occupied, Bool.and_eq_true] at occupied
  exact occupied.1

theorem beginCollection_streams (side : Side) :
    handle.beginCollection.streams side = (handle.streams side).begun false := by
  simp only [beginCollection, StreamSlot.begun, Bool.not_false, Bool.and_true]

theorem not_streamsFree {side : Side} (occupied : (begunSlot system handle side).occupied = true) :
    ¬ StreamsFree system handle := by
  intro free
  obtain ⟨before, present⟩ := (begunSlot_occupied_iff side).mp occupied
  exact Bool.false_ne_true (present.symm.trans (free side before))

theorem streamsFree (stdoutFree : (begunSlot system handle .stdout).occupied = false)
    (stderrFree : (begunSlot system handle .stderr).occupied = false) :
    StreamsFree system handle := by
  intro side occupied
  cases gone : system.othersGone handle.events side with
  | true => rfl
  | false =>
      have still := (begunSlot_occupied_iff side).mpr ⟨occupied, gone⟩
      cases side with
      | stdout => exact absurd still (Bool.eq_false_iff.mp stdoutFree)
      | stderr => exact absurd still (Bool.eq_false_iff.mp stderrFree)

/-- A collector that was spawned on a free stream is alone there. -/
theorem begunSlot_collecting {side : Side} (free : (begunSlot system handle side).occupied = false) :
    { begunSlot system handle side with collector := .running }.Collecting := by
  refine ⟨rfl, ?_⟩
  simpa only [StreamSlot.occupied, begunSlot, StreamSlot.begun, CollectorTask.attached,
    Bool.or_false] using free

/-- A collector whose abort was awaited is joined. -/
theorem abortedCollectors_of_mem {sides : List Side} {joins : Side → Bool}
    (joined : sides.all joins = true) {side : Side} (aborted : side ∈ sides) :
    (handle.abortedCollectors sides joins).streams side =
      ⟨(handle.streams side).exclusive, (handle.streams side).others, .joined⟩ := by
  simp only [abortedCollectors, if_pos aborted, if_pos (List.all_eq_true.mp joined side aborted)]

theorem abortedCollectors_of_not_mem {sides : List Side} {joins : Side → Bool} {side : Side}
    (spared : side ∉ sides) :
    (handle.abortedCollectors sides joins).streams side = handle.streams side :=
  if_neg spared

/-- **The collectors are both spawned, or none is left.** -/
theorem trySpawnOutputCollectors_end :
    SpawnEnd system handle (trySpawnOutputCollectors system handle) := by
  cases stdout : (begunSlot system handle .stdout).occupied with
  | true =>
      rw [trySpawnOutputCollectors_of_stdout stdout]
      refine .rejected (not_streamsFree stdout) fun side => ?_
      cases side with
      | stdout =>
          rw [setSlot_stdout]
          exact StreamSlot.begun_freedFrom _ _
      | stderr =>
          rw [setSlot_stdout_stderr, beginCollection_streams]
          exact StreamSlot.begun_freedFrom _ _
  | false =>
      cases stderr : (begunSlot system handle .stderr).occupied with
      | true =>
          rw [trySpawnOutputCollectors_of_stderr stdout stderr, abortCollectors]
          cases joins : [Side.stdout].all (system.joins ((stdoutSpawned system handle).setSlot
              .stderr (begunSlot system handle .stderr)).events) with
          | true =>
              refine .rejected (not_streamsFree stderr) fun side => ?_
              cases side with
              | stdout =>
                  rw [abortedCollectors_of_mem joins (List.mem_singleton_self _),
                    setSlot_stderr_stdout, stdoutSpawned, setSlot_stdout]
                  exact StreamSlot.begun_freedFrom (handle.streams .stdout) _
              | stderr =>
                  rw [abortedCollectors_of_not_mem (by decide), setSlot_stderr]
                  exact StreamSlot.begun_freedFrom _ _
          | false => exact .dropped (not_streamsFree stderr)
      | false =>
          rw [trySpawnOutputCollectors_of_free stdout stderr]
          refine .spawned (streamsFree stdout stderr) rfl fun side => ?_
          cases side with
          | stdout =>
              rw [setSlot_stderr_stdout, stdoutSpawned, setSlot_stdout]
              exact begunSlot_collecting stdout
          | stderr =>
              rw [setSlot_stderr]
              exact begunSlot_collecting stderr

/-! ## Behind the wait -/

/-- Whenever the rest of the operation returns, the streams are released. -/
def ReleasesFrom {α : Type} (before : ProcessHandle) (ended : Fate α × ProcessHandle) : Prop :=
  ∀ value after, ended = (.returned value, after) → Released before after

/-- Both collectors run, alone on their streams. -/
def Collecting (handle : ProcessHandle) : Prop :=
  ∀ side, (handle.streams side).Collecting

variable {before : ProcessHandle}

/-- What is released stays so when the rest only returns something. -/
theorem ReleasesFrom.bind {α β : Type} {operation : Operation Sink α} {next : α → Operation Sink β}
    (releases : ReleasesFrom before (operation system handle))
    (quiet : ∀ value later, (next value system later).2 = later) :
    ReleasesFrom before ((operation >>= next) system handle) := by
  intro result after ended
  rw [Program.bind_run] at ended
  cases run : operation system handle with
  | mk fate later =>
      rw [run] at ended
      cases fate with
      | returned value =>
          have unchanged : after = later :=
            (congrArg Prod.snd ended).symm.trans (quiet value later)
          rw [unchanged]
          exact releases value later run
      | dropped => cases ended
      | panicked message => cases ended

/-- Joined collectors leave their streams free. -/
theorem Collecting.released (collecting : Collecting handle) {after : ProcessHandle}
    (joined : ∀ side, after.streams side =
      ⟨(handle.streams side).exclusive, (handle.streams side).others, .joined⟩) :
    Released before after := by
  intro side
  rw [joined side]
  refine ⟨rfl, fun occupied => absurd occupied ?_⟩
  simp only [StreamSlot.occupied, CollectorTask.attached, Bool.or_false, (collecting side).2,
    Bool.false_eq_true, not_false_eq_true]

/-- Collectors that are dropped while they run may still hold their subscriptions. -/
theorem Collecting.not_released_drop (collecting : Collecting handle) :
    ¬ Released before handle.dropCollectors := by
  intro released
  have detached := (released .stdout).1
  simp only [dropCollectors, (collecting .stdout).1, CollectorTask.attached, if_true] at detached
  exact Bool.noConfusion detached

theorem abortCollectors_releases (collecting : Collecting handle) :
    ReleasesFrom before (abortCollectors [.stdout, .stderr] system handle) := by
  intro value after ended
  unfold abortCollectors at ended
  split at ended
  case isTrue joins =>
      cases ended
      refine collecting.released fun side => abortedCollectors_of_mem joins ?_
      cases side <;> decide
  case isFalse => cases ended

theorem waitForOutputConsumers_releases (collecting : Collecting handle) :
    ReleasesFrom before (waitForOutputConsumers system handle) := by
  intro value after ended
  simp only [waitForOutputConsumers] at ended
  generalize machineEq : drainMachine (system.drain handle.events).results streamName = machine at ended
  cases executed : machine.exec machine.init (system.drain handle.events).actions with
  | none =>
      -- The choices do not fit the drain, which is dropped where it begins.
      rw [executed, ← machineEq] at ended
      cases ended
  | some state =>
      rw [executed] at ended
      subst machineEq
      have reachable := Machine.reachable_exec (.init : Machine.Reachable _ _) executed
      cases place : state.place with
      | returned result =>
          simp only [Option.getD_some, place] at ended
          cases ended
          refine collecting.released fun side => ?_
          simp only [drained, joined_of_returned _ _ reachable place side, if_true]
      | suspended => simp [place] at ended
      | choosing caller => simp [place] at ended
      | asking caller branch later => simp [place] at ended
      | aborting caller => simp [place] at ended
      | cleaning first error => simp [place] at ended
      | panicked => simp [place] at ended

/-- **What is left when the wait was behind the spawn**: the streams are released exactly if the wait
does not fail. -/
theorem releases_iff_of_wait {ε α β : Type} {inner : Operation Sink (Except ε α)}
    (ignores : IgnoresStreams inner) {next : Except ε α → Operation Sink β}
    (failed : ∀ error later, ∃ value, next (.error error) system later =
      (.returned value, later.dropCollectors))
    (collected : ∀ value later, Collecting later →
      ReleasesFrom before (next (.ok value) system later))
    (collecting : Collecting handle) :
    ReleasesFrom before ((inner.onInterrupt dropCollectors >>= next) system handle) ↔
      ¬ ∃ error, (inner system handle).1 = .returned (.error error) := by
  have streams := ignores.streams_eq system handle
  rw [Program.bind_run, Program.onInterrupt]
  cases run : inner system handle with
  | mk fate later =>
      rw [run] at streams
      have still : Collecting later := fun side => by
        rw [streams]
        exact collecting side
      cases fate with
      | dropped => simp [ReleasesFrom]
      | panicked message => simp [ReleasesFrom]
      | returned result =>
          cases result with
          | ok value =>
              refine ⟨fun _ => by simp, fun _ => collected value later still⟩
          | error error =>
              obtain ⟨value, dropped⟩ := failed error later
              refine ⟨fun releases => absurd (releases value _ dropped) still.not_released_drop,
                fun never => absurd ⟨error, rfl⟩ never⟩

/-! ## The two operations -/

theorem waitForCompletionWithCollectors_releases_iff (collecting : Collecting handle)
    (timeout eofTimeout : Duration) :
    ReleasesFrom before (waitForCompletionWithCollectors timeout eofTimeout system handle) ↔
      ¬ ∃ error, (waitForCompletionInner timeout system handle).1 = .returned (.error error) := by
  refine releases_iff_of_wait (waitForCompletionInner_ignoresStreams timeout)
    (fun error later => ⟨_, rfl⟩) (fun result later still => ?_) collecting
  cases result with
  | completed status =>
      refine (waitForOutputConsumers_releases still).bind fun drained later => ?_
      cases drained <;> rfl
  | timeout timeout => exact (abortCollectors_releases still).bind fun _ later => rfl

theorem waitForCompletionOrTerminateWithCollectors_releases_iff (collecting : Collecting handle)
    (timeout eofTimeout : Duration) (shutdown : GracefulShutdown platform) :
    ReleasesFrom before
        (waitForCompletionOrTerminateWithCollectors timeout shutdown eofTimeout system handle) ↔
      ¬ ∃ error, (waitForCompletionOrTerminateInner timeout shutdown system handle).1 =
        .returned (.error error) := by
  refine releases_iff_of_wait (waitForCompletionOrTerminateInner_ignoresStreams timeout shutdown)
    (fun error later => ⟨_, rfl⟩) (fun result later still => ?_) collecting
  refine (waitForOutputConsumers_releases still).bind fun drained later => ?_
  cases drained <;> rfl

theorem waitForCompletionInner_run (timeout : Duration) :
    waitForCompletionInner timeout system handle =
      (match system.wait handle.events (some timeout) with
        | .exited status => .returned (.ok (.completed status))
        | .failed error => .returned (.error (.ioError handle.name error))
        | .elapsed => .returned (.ok (.timeout timeout))
        | .dropped => .dropped,
        handle.waited (some timeout) (system.wait handle.events (some timeout))) := by
  simp only [waitForCompletionInner, Program.bind_run, Program.get_run, Program.andThen_returned,
    wait_run]
  cases system.wait handle.events (some timeout) <;> rfl

/-- When the wait fails. -/
theorem waitForCompletionInner_fails_iff (timeout : Duration) :
    (∃ error, (waitForCompletionInner timeout system handle).1 = .returned (.error error)) ↔
      ∃ error, system.wait handle.events (some timeout) = .failed error := by
  rw [waitForCompletionInner_run]
  cases system.wait handle.events (some timeout) <;> simp

/-- When the wait with a termination fails. -/
theorem waitForCompletionOrTerminateInner_fails_iff (timeout : Duration)
    (shutdown : GracefulShutdown platform) :
    (∃ error, (waitForCompletionOrTerminateInner timeout shutdown system handle).1 =
        .returned (.error error)) ↔
      match system.wait handle.events (some timeout) with
      | .failed error => ∃ result,
          (terminate shutdown system (handle.waited (some timeout) (.failed error))).1 =
            .returned result
      | .elapsed => ∃ error,
          (terminate shutdown system (handle.waited (some timeout) .elapsed)).1 =
            .returned (.error error)
      | .exited _ | .dropped => False := by
  simp only [waitForCompletionOrTerminateInner, Program.bind_run, waitForCompletionInner_run]
  cases system.wait handle.events (some timeout) with
  | exited status => simp
  | dropped => simp
  | failed error =>
      simp only [Program.andThen_returned, terminateAfterWaitError, Program.bind_run,
        Program.get_run]
      generalize terminate shutdown system (handle.waited (some timeout) (.failed error)) = ended
      rcases ended with ⟨fate | _ | message, later⟩
      · cases fate <;> simp
      · simp
      · simp
  | elapsed =>
      simp only [Program.andThen_returned, terminateAfterWaitTimeout, Program.bind_run,
        Program.get_run]
      generalize terminate shutdown system (handle.waited (some timeout) .elapsed) = ended
      rcases ended with ⟨fate | _ | message, later⟩
      · cases fate <;> simp
      · simp
      · simp

theorem IgnoresStreams.fate_eq {α : Type} {operation : Operation Sink α}
    (ignores : IgnoresStreams operation) {after : ProcessHandle}
    (unchanged : after = withStreams after.streams handle) :
    (operation system after).1 = (operation system handle).1 := by
  have commuted := ignores system after.streams handle
  rw [← unchanged] at commuted
  rw [commuted]

/-- Without its result the operation releases as much. -/
theorem releasesFrom_discard_iff {α : Type} (operation : Operation Sink α) :
    (∀ after, (operation >>= fun _ => pure ()) system handle = (.returned (), after) →
      Released handle after) ↔ ReleasesFrom handle (operation system handle) := by
  rw [Program.bind_run]
  cases operation system handle with
  | mk fate later => cases fate <;> simp [ReleasesFrom]

/-- **What is left behind the spawn**: the streams are released unless they were free and the rest
does not release them. -/
theorem releases_iff_of_spawn {α : Type} {fails : Prop}
    {next : Except WaitWithOutputError Unit → Operation Sink (Except WaitWithOutputError α)}
    (rejected : ∀ error later, next (.error error) system later = (.returned (.error error), later))
    (spawned : ∀ after, after = withStreams after.streams handle → Collecting after →
      (ReleasesFrom handle (next (.ok ()) system after) ↔ ¬ fails)) :
    ReleasesFrom handle ((trySpawnOutputCollectors >>= next) system handle) ↔
      ¬ (StreamsFree system handle ∧ fails) := by
  rw [Program.bind_run]
  generalize run : trySpawnOutputCollectors system handle = ended
  have ends : SpawnEnd system handle ended := run ▸ trySpawnOutputCollectors_end
  cases ends with
  | spawned free unchanged collecting =>
      rw [Program.andThen_returned, spawned _ unchanged collecting, not_and]
      exact ⟨fun holds _ => holds, fun holds => holds free⟩
  | @rejected error after taken released =>
      rw [Program.andThen_returned, rejected]
      refine ⟨fun _ both => taken both.1, fun _ value later ended => ?_⟩
      cases ended
      exact released
  | dropped taken =>
      rw [Program.andThen_dropped]
      exact ⟨fun _ both => taken both.1, fun _ value later ended => by cases ended⟩

/-- **An operation with output collection releases both streams before it resolves, exactly unless
the wait behind the spawn fails.** -/
theorem releasesStreams_iff (call : OutputCall platform) (system : System Sink)
    (handle : ProcessHandle) :
    call.ReleasesStreams system handle ↔ ¬ call.WaitFails system handle := by
  cases call with
  | wait timeout eofTimeout =>
      refine (releasesFrom_discard_iff _).trans
        (releases_iff_of_spawn (fun _ _ => rfl) fun after unchanged collecting => ?_)
      refine (waitForCompletionWithCollectors_releases_iff collecting timeout eofTimeout).trans
        (not_congr ?_)
      rw [(waitForCompletionInner_ignoresStreams timeout).fate_eq unchanged]
      exact waitForCompletionInner_fails_iff timeout
  | waitOrTerminate timeout eofTimeout shutdown =>
      refine (releasesFrom_discard_iff _).trans
        (releases_iff_of_spawn (fun _ _ => rfl) fun after unchanged collecting => ?_)
      refine (waitForCompletionOrTerminateWithCollectors_releases_iff collecting timeout eofTimeout
        shutdown).trans (not_congr ?_)
      rw [(waitForCompletionOrTerminateInner_ignoresStreams timeout shutdown).fate_eq unchanged]
      exact waitForCompletionOrTerminateInner_fails_iff timeout shutdown

end Calls

/-- A system on which the wait for the child fails. -/
def failingSystem : System fun _ => Unit where
  probe _ := .ok none
  send _ _ _ := .ok ()
  kill _ := .ok ()
  wait _ _ := .failed ⟨10, "no child processes"⟩
  othersGone _ _ := true
  joins _ _ := true
  drain _ := ⟨fun _ => .ok (.ok ()), []⟩

/-- **A failed wait leaves the streams occupied**: on a fresh handle with exclusive streams both are
still taken when the error is returned. -/
theorem failed_wait_keeps_streams :
    ∃ after : ProcessHandle,
      (OutputCall.wait (.fromSecs 1) (.fromSecs 1) : OutputCall .unix).run failingSystem spawned =
        (.returned (), after) ∧
      (∀ side, (spawned.streams side).occupied = false) ∧
      (∀ side, (after.streams side).occupied = true) ∧ ¬ Released spawned after := by
  refine ⟨_, rfl, fun side => rfl, fun side => ?_, fun released => ?_⟩
  · cases side <;> rfl
  · exact Bool.noConfusion (released .stdout).1

end TokioProcessTools.ProcessHandle
