import TokioProcessTools.ProcessHandle.OutputCollection.Drain

/-!
# What the timed drain returns

A task is open while its handle has not returned; then the guard still holds
the handle. The drain keeps this in every run in which the single poll of the
sibling behind a timeout does not meet a join error, so it never polls a handle
that has returned, and its result is what the tasks and the clock have shown it
(`drain_outcome`).

A join error in that poll leaves the handle in its slot, and the abort behind it
polls the handle again (`drain_repolls`).
-/

set_option autoImplicit false

namespace TokioProcessTools.ProcessHandle.OutputCollection

open Foundation OutputStream

/-- A task that is still to be joined. -/
structure Waiting.Open {S : Type} (elapsed : Bool) (wait : Waiting S) : Prop where
  slot : wait.guard.task = true
  unjoined : wait.task.returned = none
  unfinished : wait.stage ≠ .finished
  timedOut : wait.stage = .aborting → elapsed = true
  undisturbed : wait.stage = .selecting → wait.task.abortRequested = false

theorem Waiting.Open.later {S : Type} {elapsed : Bool} {wait : Waiting S}
    (isOpen : wait.Open elapsed) : wait.Open true :=
  { isOpen with timedOut := fun _ => rfl }

theorem Side.other_ne (side : Side) : side.other ≠ side := by
  cases side <;> decide

theorem Side.eq_or_eq_other (first side : Side) : side = first ∨ side = first.other := by
  cases first <;> cases side <;> decide

section Drain

variable {Sink : Side → Type}

/-- The single poll behind a timeout. -/
def Caller.isPeek : Caller Sink → Bool
  | .peek _ => true
  | .select _ _ | .drain _ _ => false

namespace DrainState

@[simp] theorem setPlace_place (state : DrainState Sink) (place : Place Sink) :
    (state.setPlace place).place = place := rfl

@[simp] theorem setPlace_waits (state : DrainState Sink) (place : Place Sink) :
    (state.setPlace place).waits = state.waits := rfl

section SetWait

variable (state : DrainState Sink) (side : Side) (wait : Waiting (Sink side))

@[simp] theorem setWait_self : (state.setWait side wait).waits side = wait := by
  simp only [setWait, Function.update_self]

@[simp] theorem setWait_other :
    (state.setWait side wait).waits side.other = state.waits side.other := by
  simp only [setWait, Function.update_of_ne side.other_ne]

@[simp] theorem setWait_first (first : Side) (wait : Waiting (Sink first.other)) :
    (state.setWait first.other wait).waits first = state.waits first := by
  simp only [setWait, Function.update_of_ne first.other_ne.symm]

end SetWait

/-- An error that a task has returned. -/
def ReturnedError (state : DrainState Sink) (source : ConsumerError) : Prop :=
  ∃ side output, (state.waits side).task.returned = some output ∧
    output.waited (state.waits side).streamName = .error source

/-- What an error of the drain says: the deadline has elapsed and no error was seen, or it is the
one that was seen. -/
def ErrorSound (state : DrainState Sink) : ConsumerDrainError → Prop
  | .timeout => state.elapsed = true ∧ state.observed = []
  | .collection source => state.ReturnedError source ∧ state.observed = [source]

/-- What a result of the drain says. -/
def ResultSound (state : DrainState Sink) :
    Except ConsumerDrainError (Sink .stdout × Sink .stderr) → Prop
  | .ok sinks =>
      (state.waits .stdout).task.returned = some (.ok (.ok sinks.1)) ∧
        (state.waits .stderr).task.returned = some (.ok (.ok sinks.2)) ∧ state.observed = []
  | .error error => state.ErrorSound error

/-- What a caller knows of the stream it does not poll. -/
def CallerSound (state : DrainState Sink) : Caller Sink → Prop
  | .select side _ => (state.waits side.other).Open state.elapsed
  | .drain first sink => (state.waits first).task.returned = some (.ok (.ok sink))
  | .peek first => (state.waits first).task.returned.isSome ∧ state.elapsed = true

/-- A caller polls a `wait_until` that has not finished, and no error was seen before. -/
structure PollSound (state : DrainState Sink) (caller : Caller Sink) : Prop where
  sound : state.CallerSound caller
  isOpen : (state.waits caller.side).Open state.elapsed
  quiet : state.observed = []

/-- **The invariant of the drain.** -/
def Sound (state : DrainState Sink) : Prop :=
  match state.place with
  | .suspended => (∀ side, (state.waits side).Open state.elapsed) ∧ state.observed = []
  | .choosing caller | .asking caller _ _ =>
      state.PollSound caller ∧ (state.waits caller.side).stage = .selecting
  | .aborting caller => state.PollSound caller ∧ (state.waits caller.side).stage = .aborting
  | .cleaning first error =>
      (state.waits first).task.returned.isSome ∧
        (state.waits first.other).task.returned = none ∧ state.ErrorSound error
  | .returned result =>
      (∀ side, (state.waits side).task.returned.isSome) ∧ state.ResultSound result
  | .panicked => False

variable {state : DrainState Sink}

theorem PollSound.setPlace {caller : Caller Sink} (poll : state.PollSound caller)
    (place : Place Sink) : (state.setPlace place).PollSound caller := by
  refine ⟨?_, poll.isOpen, poll.quiet⟩
  cases caller <;> exact poll.sound

theorem Sound.enter {caller : Caller Sink} (poll : state.PollSound caller) :
    (state.enter caller).Sound := by
  rw [DrainState.enter]
  split
  · rename_i stage
    exact ⟨poll.setPlace _, stage⟩
  · rename_i stage
    exact ⟨poll.setPlace _, stage⟩
  · rename_i stage
    exact absurd stage poll.isOpen.unfinished

theorem Sound.finish {result : Except ConsumerDrainError (Sink .stdout × Sink .stderr)}
    (joined : ∀ side, (state.waits side).task.returned.isSome) (sound : state.ResultSound result) :
    (state.finish result).Sound := by
  refine ⟨joined, ?_⟩
  cases result with
  | ok sinks => exact sound
  | error error =>
      cases error with
      | timeout => exact sound
      | collection source => exact sound

/-- The abort of the sibling of `first` starts; the handle may have returned before only if it is
no longer in its slot. -/
theorem Sound.cleanUp {first : Side} {error : ConsumerDrainError}
    (joined : (state.waits first).task.returned.isSome)
    (sibling : (state.waits first.other).guard.task = true →
      (state.waits first.other).task.returned = none)
    (others : (state.waits first.other).guard.task = false →
      (state.waits first.other).task.returned.isSome)
    (sound : state.ErrorSound error) : (state.cleanUp first error).Sound := by
  have kept : (state.setWait first.other { state.waits first.other with
      toGuarded := (state.waits first.other).toGuarded.stopTask }).ErrorSound error := by
    cases error with
    | timeout => exact sound
    | collection source =>
        obtain ⟨⟨side, output, returned, same⟩, seen⟩ := sound
        refine ⟨⟨side, output, ?_⟩, seen⟩
        rcases first.eq_or_eq_other side with rfl | rfl
        · rw [setWait_first]
          exact ⟨returned, same⟩
        · rw [setWait_self]
          exact ⟨returned, same⟩
  rw [DrainState.cleanUp]
  split
  · rename_i slot
    refine ⟨?_, ?_, ?_⟩
    · rw [setPlace_waits, setWait_first]
      exact joined
    · rw [setPlace_waits, setWait_self]
      exact sibling slot
    · cases error <;> exact kept
  · rename_i slot
    refine Sound.finish ?_ kept
    intro side
    rcases first.eq_or_eq_other side with rfl | rfl
    · rw [setWait_first]
      exact joined
    · rw [setWait_self]
      exact others (Bool.eq_false_iff.mpr slot)

/-- The result a `wait_until` returns, and what is known of its task then. -/
def ResultKnown (state : DrainState Sink) (side : Side) :
    Except ConsumerError (Option (Sink side)) → Prop
  | .ok (some sink) => (state.waits side).task.returned = some (.ok (.ok sink))
  | .ok none => state.elapsed = true
  | .error error => ∃ output, (state.waits side).task.returned = some output ∧
      output.waited (state.waits side).streamName = .error error

/-- **A `wait_until` returns to its caller.** The single poll behind a timeout must have cleared
the slot of the handle. -/
theorem Sound.deliver {caller : Caller Sink} {result : Except ConsumerError (Option (Sink caller.side))}
    (sound : state.CallerSound caller) (quiet : state.observed = [])
    (joined : (state.waits caller.side).task.returned.isSome)
    (known : state.ResultKnown caller.side result)
    (cleared : caller.isPeek = true → (state.waits caller.side).guard.task = false) :
    (state.deliver caller result).Sound := by
  cases caller with
  | select side unpolled =>
      have sibling : (state.waits side.other).Open state.elapsed := sound
      match result, known with
      | .ok (some sink), returned => exact Sound.enter ⟨returned, sibling, quiet⟩
      | .ok none, elapsed => exact Sound.enter ⟨⟨joined, elapsed⟩, sibling, quiet⟩
      | .error error, ⟨output, returned, same⟩ =>
          refine Sound.cleanUp joined (fun _ => sibling.unjoined) (fun slot => ?_) ?_
          · exact absurd (slot.symm.trans sibling.slot) (by decide)
          · exact ⟨⟨side, output, returned, same⟩, by rw [quiet]; rfl⟩
  | drain first sink =>
      have both : ∀ side, (state.waits side).task.returned.isSome := by
        intro side
        rcases first.eq_or_eq_other side with rfl | rfl
        · rw [show (state.waits side).task.returned = _ from sound]
          rfl
        · exact joined
      match result, known with
      | .ok (some remaining), returned =>
          refine Sound.finish both ?_
          cases first with
          | stdout => exact ⟨sound, returned, quiet⟩
          | stderr => exact ⟨returned, sound, quiet⟩
      | .ok none, elapsed => exact Sound.finish both ⟨elapsed, quiet⟩
      | .error error, ⟨output, returned, same⟩ =>
          exact Sound.finish both ⟨⟨_, output, returned, same⟩, by rw [quiet]; rfl⟩
  | peek first =>
      have slot : (state.waits first.other).guard.task = false := cleared rfl
      have timedOut : state.ErrorSound .timeout := ⟨sound.2, quiet⟩
      have absent : (state.waits first.other).guard.task = true →
          (state.waits first.other).task.returned = none := by
        intro filled
        rw [slot] at filled
        cases filled
      match result, known with
      | .ok _, _ => exact Sound.cleanUp sound.1 absent (fun _ => joined) timedOut
      | .error error, ⟨output, returned, same⟩ =>
          exact Sound.cleanUp sound.1 absent (fun _ => joined)
            ⟨⟨_, output, returned, same⟩, by rw [quiet]; rfl⟩

/-- The poll of a `wait_until` is not ready. -/
theorem Sound.notReady {caller : Caller Sink} (poll : state.PollSound caller) :
    (state.notReady caller).Sound := by
  obtain ⟨sound, isOpen, quiet⟩ := poll
  cases caller with
  | select side unpolled =>
      cases unpolled with
      | true =>
          refine Sound.enter ⟨?_, sound, quiet⟩
          cases side <;> exact isOpen
      | false =>
          refine ⟨?_, quiet⟩
          intro other
          rcases side.eq_or_eq_other other with rfl | rfl
          · exact isOpen
          · exact sound
  | drain first sink => exact Sound.enter ⟨sound, isOpen, quiet⟩
  | peek first =>
      refine Sound.cleanUp sound.1 (fun _ => isOpen.unjoined) (fun slot => ?_) ⟨sound.2, quiet⟩
      exact absurd (slot.symm.trans isOpen.slot) (by decide)

theorem CallerSound.setWait {caller : Caller Sink} (sound : state.CallerSound caller)
    (wait : Waiting (Sink caller.side)) : (state.setWait caller.side wait).CallerSound caller := by
  cases caller with
  | select side unpolled =>
      have same := state.setWait_other side wait
      exact Eq.mpr (congrArg (Waiting.Open state.elapsed) same) sound
  | drain first sink =>
      have same := state.setWait_first first wait
      have returned : (state.waits first).task.returned = some (.ok (.ok sink)) := sound
      exact (congrArg (·.task.returned) same).trans returned
  | peek first =>
      have same := state.setWait_first first wait
      exact ⟨(congrArg (·.task.returned.isSome) same).trans sound.1, sound.2⟩

/-- The wait branch is ready. Behind a timeout it must not be a join error. -/
theorem Sound.waitReady {caller : Caller Sink} (poll : state.PollSound caller)
    {output : TaskOutput (Sink caller.side)}
    (noJoinError : caller.isPeek = true → ∃ inner, output = .ok inner) :
    (state.waitReady caller output).Sound := by
  refine Sound.deliver (poll.sound.setWait _) poll.quiet ?_ ?_ ?_
  · rw [setWait_self, Guarded.afterWait_returned]
    rfl
  · match output with
    | .ok (.ok sink) =>
        change ((DrainState.setWait ..).waits caller.side).task.returned = _
        rw [setWait_self, Guarded.afterWait_returned]
    | .ok (.error source) =>
        refine ⟨.ok (.error source), ?_, rfl⟩
        rw [setWait_self, Guarded.afterWait_returned]
    | .error source =>
        refine ⟨.error source, ?_, ?_⟩
        · rw [setWait_self, Guarded.afterWait_returned]
        · rw [setWait_self]
          rfl
  · intro peeks
    obtain ⟨inner, rfl⟩ := noJoinError peeks
    rw [setWait_self]
    rfl

theorem Sound.timeoutReady {caller : Caller Sink} (poll : state.PollSound caller)
    (elapsed : state.elapsed = true) : (state.timeoutReady caller).Sound := by
  rw [DrainState.timeoutReady]
  simp only [poll.isOpen.slot, if_true]
  refine ⟨PollSound.setPlace ⟨poll.sound.setWait _, ?_, poll.quiet⟩ _, ?_⟩
  · rw [setWait_self]
    exact ⟨poll.isOpen.slot, poll.isOpen.unjoined, by simp, fun _ => elapsed, by simp⟩
  · rw [setPlace_waits, setWait_self]

theorem Sound.abortReady {caller : Caller Sink} (poll : state.PollSound caller)
    (stage : (state.waits caller.side).stage = .aborting) (output : TaskOutput (Sink caller.side)) :
    (state.abortReady caller output).Sound := by
  refine Sound.deliver (poll.sound.setWait _) poll.quiet ?_ (poll.isOpen.timedOut stage) ?_
  · rw [setWait_self]
    rfl
  · intro _
    rw [setWait_self]
    rfl

theorem Sound.cleanedUp {first : Side} {error : ConsumerDrainError}
    (joined : (state.waits first).task.returned.isSome)
    (unjoined : (state.waits first.other).task.returned = none) (sound : state.ErrorSound error)
    (output : TaskOutput (Sink first.other)) : (state.cleanedUp first error output).Sound := by
  refine Sound.finish ?_ ?_
  · intro side
    rcases first.eq_or_eq_other side with rfl | rfl
    · rw [setWait_first]
      exact joined
    · rw [setWait_self]
      rfl
  · cases error with
    | timeout => exact sound
    | collection source =>
        obtain ⟨⟨side, earlier, returned, same⟩, seen⟩ := sound
        rcases first.eq_or_eq_other side with rfl | rfl
        · refine ⟨⟨side, earlier, ?_⟩, seen⟩
          rw [setWait_first]
          exact ⟨returned, same⟩
        · rw [unjoined] at returned
          cases returned

end DrainState

/-! ## The steps -/

section Step

variable (results : (side : Side) → TaskOutput (Sink side))

/-- The single poll of the sibling behind a timeout does not find that its task was cancelled or
has panicked. -/
def PeeksNoJoinError (state : DrainState Sink) (action : DrainAction) : Prop :=
  ∀ caller later, state.place = .asking caller .wait later → caller.isPeek = true →
    action = .join .completed → ∃ inner, results caller.side = .ok inner

namespace DrainState

variable {state next : DrainState Sink}

/-- The poll of a handle that has not returned. -/
theorem pollTask_cases {side : Side} {answer : JoinAnswer} {pending : DrainState Sink}
    {ready : TaskOutput (Sink side) → DrainState Sink}
    (unjoined : (state.waits side).task.returned = none)
    (polled : state.pollTask results side answer pending ready = some next) :
    (answer = .pending ∧ next = pending) ∨
      (answer = .completed ∧ next = ready (results side)) ∨
      ((state.waits side).task.abortRequested = true ∧ next = ready (.error .cancelled)) := by
  unfold DrainState.pollTask at polled
  rw [unjoined, Option.isSome_none, if_neg Bool.false_ne_true] at polled
  cases answer with
  | pending => exact .inl ⟨rfl, (Option.some.inj polled).symm⟩
  | completed => exact .inr (.inl ⟨rfl, (Option.some.inj polled).symm⟩)
  | cancelled =>
      simp only [Option.ite_none_right_eq_some, Option.some.injEq] at polled
      exact .inr (.inr ⟨polled.1, polled.2.symm⟩)

theorem Sound.nextBranch {caller : Caller Sink} (poll : state.PollSound caller)
    (stage : (state.waits caller.side).stage = .selecting) (later : Option Branch) :
    (state.nextBranch caller later).Sound := by
  cases later with
  | some branch => exact ⟨poll.setPlace _, stage⟩
  | none => exact Sound.notReady poll

theorem PollSound.elapse {caller : Caller Sink} (poll : state.PollSound caller) :
    PollSound { state with elapsed := true } caller := by
  refine ⟨?_, poll.isOpen.later, poll.quiet⟩
  cases caller with
  | select side unpolled => exact Waiting.Open.later poll.sound
  | drain first sink => exact poll.sound
  | peek first => exact ⟨poll.sound.1, rfl⟩

theorem ErrorSound.elapse {error : ConsumerDrainError} (sound : state.ErrorSound error) :
    ErrorSound { state with elapsed := true } error := by
  cases error with
  | timeout => exact ⟨rfl, sound.2⟩
  | collection source => exact sound

theorem Sound.elapse (sound : state.Sound) : Sound { state with elapsed := true } := by
  obtain ⟨place, waits, elapsed, observed⟩ := state
  cases place with
  | suspended => exact ⟨fun side => (sound.1 side).later, sound.2⟩
  | choosing caller => exact ⟨sound.1.elapse, sound.2⟩
  | asking caller branch later => exact ⟨sound.1.elapse, sound.2⟩
  | aborting caller => exact ⟨sound.1.elapse, sound.2⟩
  | cleaning first error => exact ⟨sound.1, sound.2.1, sound.2.2.elapse⟩
  | returned result =>
      refine ⟨sound.1, ?_⟩
      cases result with
      | ok sinks => exact sound.2
      | error error => exact ErrorSound.elapse sound.2
  | panicked => exact sound

/-- **Every step keeps the invariant** unless the poll behind a timeout meets a join error. -/
theorem Sound.step {action : DrainAction} (sound : state.Sound)
    (allowed : PeeksNoJoinError results state action)
    (taken : drainStep results state action = some next) : next.Sound := by
  cases action with
  | deadline =>
      cases taken
      exact sound.elapse
  | poll first =>
      simp only [drainStep] at taken
      split at taken
      · rename_i place
        cases taken
        rw [Sound, place] at sound
        exact Sound.enter ⟨sound.1 first.other, sound.1 first, sound.2⟩
      · cases taken
  | start branch =>
      simp only [drainStep] at taken
      split at taken
      · rename_i caller place
        cases taken
        rw [Sound, place] at sound
        exact ⟨sound.1.setPlace _, sound.2⟩
      · cases taken
  | timer fires =>
      simp only [drainStep] at taken
      split at taken
      · rename_i caller later place
        rw [Sound, place] at sound
        cases fires with
        | true =>
            simp only [if_true, Option.ite_none_right_eq_some, Option.some.injEq] at taken
            obtain ⟨elapsed, rfl⟩ := taken
            exact Sound.timeoutReady sound.1 elapsed
        | false =>
            cases taken
            exact Sound.nextBranch sound.1 sound.2 later
      · cases taken
  | join answer =>
      simp only [drainStep] at taken
      split at taken
      · rename_i caller later place
        rw [Sound, place] at sound
        obtain ⟨poll, stage⟩ := sound
        rw [if_pos poll.isOpen.slot] at taken
        rcases pollTask_cases results poll.isOpen.unjoined taken with
          ⟨_, rfl⟩ | ⟨rfl, rfl⟩ | ⟨aborted, _⟩
        · exact Sound.nextBranch poll stage later
        · refine Sound.waitReady poll ?_
          exact fun peeks => allowed caller later place peeks rfl
        · rw [poll.isOpen.undisturbed stage] at aborted
          cases aborted
      · rename_i caller place
        rw [Sound, place] at sound
        obtain ⟨poll, stage⟩ := sound
        rcases pollTask_cases results poll.isOpen.unjoined taken with
          ⟨_, rfl⟩ | ⟨_, rfl⟩ | ⟨_, rfl⟩
        · exact Sound.notReady poll
        · exact Sound.abortReady poll stage _
        · exact Sound.abortReady poll stage _
      · rename_i first error place
        have before := sound
        rw [Sound, place] at sound
        obtain ⟨joined, unjoined, known⟩ := sound
        rcases pollTask_cases results unjoined taken with ⟨_, rfl⟩ | ⟨_, rfl⟩ | ⟨_, rfl⟩
        · exact before
        · exact Sound.cleanedUp joined unjoined known _
        · exact Sound.cleanedUp joined unjoined known _
      · cases taken

end DrainState

/-! ## Runs in which a handle is polled again -/

namespace DrainState

variable {state next : DrainState Sink}

/-- The drain is about to await a handle that has returned, or has panicked. -/
def Doomed (state : DrainState Sink) : Prop :=
  match state.place with
  | .cleaning first _ => (state.waits first.other).task.returned.isSome
  | .panicked => True
  | _ => False

/-- A join error behind a timeout stays in its slot, and is awaited next. -/
theorem doomed_waitReady {caller : Caller Sink} (poll : state.PollSound caller)
    (peeks : caller.isPeek = true) (source : JoinError) :
    (state.waitReady caller (.error source)).Doomed := by
  cases caller with
  | select side unpolled => cases peeks
  | drain first sink => cases peeks
  | peek first =>
      have slot : (state.waits first.other).guard.task = true := poll.isOpen.slot
      simp only [waitReady, Caller.side, TaskOutput.waited, Except.map, deliver, cleanUp,
        setWait_self, Guarded.afterWait, Guarded.joined, slot, if_true]
      rw [Doomed]
      simp only [setPlace_place, setPlace_waits, setWait_self]
      rfl

theorem Doomed.step {action : DrainAction} (doomed : state.Doomed)
    (taken : drainStep results state action = some next) : next.Doomed := by
  obtain ⟨place, waits, elapsed, observed⟩ := state
  cases place with
  | cleaning first error =>
      have joined : (waits first.other).task.returned.isSome := doomed
      cases action with
      | deadline => cases taken; exact doomed
      | poll _ | start _ | timer _ => cases taken
      | join answer =>
          simp only [drainStep, pollTask, joined, if_true, Option.some.injEq] at taken
          subst taken
          trivial
  | panicked =>
      cases action with
      | deadline => cases taken; exact doomed
      | poll _ | start _ | timer _ | join _ => cases taken
  | suspended | choosing _ | asking _ _ _ | aborting _ | returned _ => exact doomed.elim

/-- Every run is sound, or on its way to a panic. -/
theorem sound_or_doomed_step {action : DrainAction} (known : state.Sound ∨ state.Doomed)
    (taken : drainStep results state action = some next) : next.Sound ∨ next.Doomed := by
  rcases known with sound | doomed
  · by_cases allowed : PeeksNoJoinError results state action
    · exact .inl (sound.step results allowed taken)
    · simp only [PeeksNoJoinError, not_forall] at allowed
      obtain ⟨caller, later, place, peeks, rfl, failed⟩ := allowed
      rw [Sound, place] at sound
      simp only [drainStep, place, sound.1.isOpen.slot, if_true] at taken
      cases result : results caller.side with
      | ok inner => exact absurd ⟨inner, result⟩ failed
      | error source =>
          rcases pollTask_cases results sound.1.isOpen.unjoined taken with
            ⟨impossible, _⟩ | ⟨_, rfl⟩ | ⟨aborted, _⟩
          · cases impossible
          · rw [result]
            exact .inr (doomed_waitReady sound.1 peeks source)
          · rw [sound.1.isOpen.undisturbed sound.2] at aborted
            cases aborted
  · exact .inr (doomed.step results taken)

end DrainState

/-! ## Progress -/

/-- An answer that does not keep the drain waiting. -/
def DrainAction.Prompt : DrainAction → Prop
  | .deadline => False
  | .poll _ | .start _ => True
  | .timer fires => fires = true
  | .join answer => answer ≠ .pending

theorem DrainAction.prompt_completed : (DrainAction.join .completed).Prompt := by
  simp [DrainAction.Prompt]

/-- How many prompt answers a caller needs behind the result of its `wait_until`. -/
def Caller.work : Caller Sink → Nat
  | .select _ _ => 5
  | .drain _ _ => 1
  | .peek _ => 2

theorem Caller.work_pos (caller : Caller Sink) : 0 < caller.work := by
  cases caller <;> exact Nat.succ_pos _

namespace DrainState

/-- How many prompt answers the drain needs at most. -/
def work (state : DrainState Sink) : Nat :=
  match state.place with
  | .suspended => 8
  | .choosing caller => caller.work + 2
  | .asking caller _ _ => caller.work + 1
  | .aborting caller => caller.work
  | .cleaning _ _ => 1
  | .returned _ | .panicked => 0

variable {state next : DrainState Sink}

theorem work_enter_le (state : DrainState Sink) (caller : Caller Sink) :
    (state.enter caller).work ≤ caller.work + 2 := by
  unfold enter
  split
  · exact Nat.le_refl _
  · exact Nat.le_add_right _ 2
  · exact Nat.zero_le _

theorem work_cleanUp_le (state : DrainState Sink) (first : Side) (error : ConsumerDrainError) :
    (state.cleanUp first error).work ≤ 1 := by
  rw [cleanUp]
  split
  · exact Nat.le_refl 1
  · exact Nat.zero_le 1

theorem work_deliver_lt (state : DrainState Sink) (caller : Caller Sink)
    (result : Except ConsumerError (Option (Sink caller.side))) :
    (state.deliver caller result).work < caller.work := by
  cases caller with
  | select side unpolled =>
      match result with
      | .ok (some sink) => exact Nat.lt_of_le_of_lt (work_enter_le _ _) (by decide : 3 < 5)
      | .ok none => exact Nat.lt_of_le_of_lt (work_enter_le _ _) (by decide : 4 < 5)
      | .error error => exact Nat.lt_of_le_of_lt (work_cleanUp_le _ _ _) (by decide : 1 < 5)
  | drain first sink =>
      match result with
      | .ok (some remaining) => exact Nat.one_pos
      | .ok none => exact Nat.one_pos
      | .error error => exact Nat.one_pos
  | peek first =>
      match result with
      | .ok _ => exact Nat.lt_of_le_of_lt (work_cleanUp_le _ _ _) (by decide : 1 < 2)
      | .error error => exact Nat.lt_of_le_of_lt (work_cleanUp_le _ _ _) (by decide : 1 < 2)

/-- A handle that answers at once panics or hands the output of its task on, which is a join error if
the task was cancelled. -/
theorem work_pollTask_lt {side : Side} {answer : JoinAnswer} {pending : DrainState Sink}
    {ready : TaskOutput (Sink side) → DrainState Sink} {bound : Nat} (prompt : answer ≠ .pending)
    (positive : 0 < bound) (lower : ∀ output, (ready output).work < bound)
    (polled : state.pollTask results side answer pending ready = some next) :
    next.work < bound := by
  unfold DrainState.pollTask at polled
  split at polled
  · cases polled
    exact positive
  · cases answer with
    | pending => exact absurd rfl prompt
    | completed =>
        cases polled
        exact lower _
    | cancelled =>
        simp only [Option.ite_none_right_eq_some, Option.some.injEq] at polled
        obtain ⟨_, rfl⟩ := polled
        exact lower _

/-- **A prompt answer leaves less to do.** -/
theorem work_lt_of_prompt {action : DrainAction} (prompt : action.Prompt)
    (taken : drainStep results state action = some next) : next.work < state.work := by
  cases action with
  | deadline => exact prompt.elim
  | poll first =>
      simp only [drainStep] at taken
      split at taken <;> cases taken
      rename_i place
      rw [work.eq_def state, place]
      exact Nat.lt_of_le_of_lt (work_enter_le _ _) (by decide : 7 < 8)
  | start branch =>
      simp only [drainStep] at taken
      split at taken <;> cases taken
      rename_i caller place
      rw [work.eq_def state, place]
      exact Nat.lt_succ_self (caller.work + 1)
  | timer fires =>
      obtain rfl : fires = true := prompt
      simp only [drainStep, if_true] at taken
      split at taken
      · rename_i caller later place
        simp only [Option.ite_none_right_eq_some, Option.some.injEq] at taken
        obtain ⟨_, rfl⟩ := taken
        rw [work.eq_def state, place]
        rw [timeoutReady]
        split
        · exact Nat.lt_succ_self caller.work
        · exact Nat.lt_succ_of_lt (work_deliver_lt _ _ _)
      · cases taken
  | join answer =>
      simp only [drainStep] at taken
      split at taken
      · rename_i caller later place
        rw [work.eq_def state, place]
        split at taken
        · exact work_pollTask_lt results prompt (Nat.succ_pos _)
            (fun _ => Nat.lt_succ_of_lt (work_deliver_lt _ _ _)) taken
        · cases taken
          exact Nat.succ_pos _
      · rename_i caller place
        rw [work.eq_def state, place]
        exact work_pollTask_lt results prompt caller.work_pos (fun _ => work_deliver_lt _ _ _) taken
      · rename_i first error place
        rw [work.eq_def state, place]
        refine work_pollTask_lt results prompt Nat.one_pos ?_ taken
        intro output
        exact Nat.one_pos
      · cases taken

theorem exists_pollTask (side : Side) (pending : DrainState Sink)
    (ready : TaskOutput (Sink side) → DrainState Sink) :
    ∃ next, state.pollTask results side .completed pending ready = some next := by
  unfold DrainState.pollTask
  split
  · exact ⟨_, rfl⟩
  · exact ⟨_, rfl⟩

/-- The drain has returned, or some prompt answer is possible, even if no task is cancelled, and every
one leaves less to do. -/
def Progresses (state : DrainState Sink) : Prop :=
  (∃ result, state.place = .returned result) ∨
    (∃ action next, action.Prompt ∧ action ≠ .join .cancelled ∧
      drainStep results state action = some next) ∧
      ∀ action next, action.Prompt → drainStep results state action = some next →
        next.work < state.work

theorem Sound.progresses (sound : state.Sound) (elapsed : state.elapsed = true) :
    state.Progresses results := by
  have possible : (∃ result, state.place = .returned result) ∨
      ∃ action next, action.Prompt ∧ action ≠ .join .cancelled ∧
        drainStep results state action = some next := by
    cases place : state.place with
    | suspended => exact .inr ⟨.poll .stdout, _, trivial, by decide, by rw [drainStep, place]⟩
    | choosing caller => exact .inr ⟨.start .wait, _, trivial, by decide, by rw [drainStep, place]⟩
    | asking caller branch later =>
        cases branch with
        | wait =>
            rw [Sound, place] at sound
            obtain ⟨next, polled⟩ := exists_pollTask results caller.side
              (state.nextBranch caller later) (state.waitReady caller)
            refine .inr ⟨.join .completed, next, DrainAction.prompt_completed, by decide, ?_⟩
            simp only [drainStep, place, sound.1.isOpen.slot, if_true]
            exact polled
        | timeout =>
            refine .inr ⟨.timer true, state.timeoutReady caller, rfl, by decide, ?_⟩
            simp only [drainStep, place, elapsed, if_true]
    | aborting caller =>
        obtain ⟨next, polled⟩ := exists_pollTask results caller.side (state.notReady caller)
          (state.abortReady caller)
        refine .inr ⟨.join .completed, next, DrainAction.prompt_completed, by decide, ?_⟩
        simpa only [drainStep, place] using polled
    | cleaning first error =>
        obtain ⟨next, polled⟩ := exists_pollTask results first.other state
          (state.cleanedUp first error)
        refine .inr ⟨.join .completed, next, DrainAction.prompt_completed, by decide, ?_⟩
        simpa only [drainStep, place] using polled
    | returned result => exact .inl ⟨result, rfl⟩
    | panicked =>
        rw [Sound, place] at sound
        exact sound.elim
  rcases possible with ended | moves
  · exact .inl ended
  · exact .inr ⟨moves, fun _ _ prompt taken => work_lt_of_prompt results prompt taken⟩

end DrainState

/-! ## The result -/

variable (names : Side → String)

theorem sound_init : (drainMachine results names).init.Sound :=
  ⟨fun _ => ⟨rfl, rfl, (by decide : WaitStage.selecting ≠ .finished),
    fun stage => absurd stage (by decide : WaitStage.selecting ≠ .aborting), fun _ => rfl⟩, rfl⟩

theorem reachable_sound_or_doomed {state : DrainState Sink}
    (reachable : (drainMachine results names).Reachable state) : state.Sound ∨ state.Doomed := by
  induction reachable with
  | init => exact .inl (sound_init results names)
  | step _ _ taken ih => exact DrainState.sound_or_doomed_step results ih taken

/-- **Both collectors are joined when the drain returns**, in every run. -/
theorem joined_of_returned {state : DrainState Sink}
    (reachable : (drainMachine results names).Reachable state)
    {result : Except ConsumerDrainError (Sink .stdout × Sink .stderr)}
    (place : state.place = .returned result) (side : Side) :
    (state.waits side).task.returned.isSome := by
  rcases reachable_sound_or_doomed results names reachable with sound | doomed
  · rw [DrainState.Sound, place] at sound
    exact sound.1 side
  · rw [DrainState.Doomed, place] at doomed
    exact doomed.elim

/-- **The timed drain.** In every run in which the single poll behind a timeout meets no join error:
no handle is polled again after it has returned; both sinks are returned only if both tasks have
yielded them, a collection error only if a task has returned it, a timeout only if the deadline has
elapsed, and an error that was seen is the result. Once the deadline has elapsed, every prompt answer
brings the drain nearer to returning. -/
theorem drain_outcome {state : DrainState Sink}
    (reachable : (drainMachine results names).ReachableBy (PeeksNoJoinError results) state) :
    state.place ≠ .panicked ∧
    (∀ sinks, state.place = .returned (.ok sinks) →
      (state.waits .stdout).task.returned = some (.ok (.ok sinks.1)) ∧
        (state.waits .stderr).task.returned = some (.ok (.ok sinks.2))) ∧
    (∀ source, state.place = .returned (.error (.collection source)) →
      state.ReturnedError source) ∧
    (state.place = .returned (.error .timeout) → state.elapsed = true) ∧
    (∀ result, state.place = .returned result →
      ∀ source ∈ state.observed, result = .error (.collection source)) ∧
    (state.elapsed = true → state.Progresses results) := by
  have sound : state.Sound :=
    reachable.invariant (sound_init results names) fun sound allowed taken =>
      sound.step results allowed taken
  refine ⟨?_, ?_, ?_, ?_, ?_, sound.progresses results⟩
  · intro place
    rw [DrainState.Sound, place] at sound
    exact sound
  · intro sinks place
    rw [DrainState.Sound, place] at sound
    exact ⟨sound.2.1, sound.2.2.1⟩
  · intro source place
    rw [DrainState.Sound, place] at sound
    exact sound.2.1
  · intro place
    rw [DrainState.Sound, place] at sound
    exact sound.2.1
  · intro result place source seen
    rw [DrainState.Sound, place] at sound
    match result, sound with
    | .ok sinks, sound =>
        rw [sound.2.2.2] at seen
        cases seen
    | .error .timeout, sound =>
        rw [sound.2.2] at seen
        cases seen
    | .error (.collection returned), sound =>
        rw [sound.2.2, List.mem_singleton] at seen
        rw [seen]

end Step

end Drain

/-- A drain that has timed out although the sibling has yielded its sink. -/
theorem drain_outcome_timeout :
    ∃ state : DrainState fun _ => Unit,
      (drainMachine (fun _ => .ok (.ok ())) fun _ => "stream").ReachableBy
        (PeeksNoJoinError fun _ => .ok (.ok ())) state ∧
      state.place = .returned (.error .timeout) ∧ state.elapsed = true := by
  obtain ⟨state, reachable, ended⟩ :=
    (drainMachine (fun _ => .ok (.ok ())) fun _ => "stream").exists_reachableBy (fun _ _ => True)
      [.deadline, .poll .stdout, .start .timeout, .timer true, .join .cancelled, .start .wait,
        .join .completed]
      (fun state : DrainState fun _ => Unit =>
        state.place matches .returned (.error .timeout)) (by decide)
  have guarded := reachable.mono (fun _ _ _ => by
    intro _ _ _ _ _
    exact ⟨.ok (), rfl⟩ : ∀ state action, True → PeeksNoJoinError (fun _ => .ok (.ok ())) state action)
  have place : state.place = .returned (.error .timeout) := by
    split at ended
    · assumption
    · cases ended
  exact ⟨state, guarded, place, (drain_outcome _ _ guarded).2.2.2.1 place⟩

/-- **A handle is polled again**: stdout has timed out, the single poll of stderr finds that its
task has panicked, and the abort behind it awaits the same handle once more. -/
theorem drain_repolls :
    ∃ state : DrainState fun _ => Unit,
      (drainMachine (fun
        | .stdout => .ok (.ok ())
        | .stderr => .error (.panicked "visitor")) fun _ => "stream").Reachable state ∧
      state.place = .panicked := by
  obtain ⟨state, reachable, ended⟩ :=
    (drainMachine (fun
        | .stdout => .ok (.ok ())
        | .stderr => .error (.panicked "visitor")) fun _ => "stream").exists_reachableBy
      (fun _ _ => True)
      [.deadline, .poll .stdout, .start .timeout, .timer true, .join .cancelled, .start .wait,
        .join .completed, .join .completed]
      (fun state : DrainState fun _ => Unit => state.place matches .panicked) (by decide)
  refine ⟨state, reachable, ?_⟩
  split at ended
  · assumption
  · cases ended

end TokioProcessTools.ProcessHandle.OutputCollection
