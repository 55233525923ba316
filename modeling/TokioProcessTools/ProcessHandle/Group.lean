import TokioProcessTools.ProcessHandle.Disposal

/-!
# The process group behind a handle

A `ProcessGroup` owns the spawned child, the leader of its group. The leader has a
process id until its exit was observed; then the operating system may give the id
to another process, and a signal to it would reach a stranger. The group therefore
signals only while the leader has its id, and answers from the stored status
afterwards.

The methods are written from the source, over an operating system `Os` that
answers each request. `groupSystem` is the system that a handle with such a group
runs on. In every life of a handle the observation of the exit is the last request
to the operating system (`reap_is_last`), and every operation behind it agrees that
the process has ended (`exit_is_final`).
-/

set_option autoImplicit false

namespace TokioProcessTools.ProcessHandle

open Foundation OutputStream OutputCollection

/-! ## The operating system -/

/-- `tokio::process::Child`: it has an id until it was polled to completion, and keeps its exit
status from then on. -/
inductive Child where
  | running (pid : Nat)
  | done (status : ExitStatus)
  deriving DecidableEq, Repr

/-- `Child::id`. -/
def Child.id : Child → Option Nat
  | .running pid => some pid
  | .done _ => none

/-- A request to the operating system, with its answer. -/
inductive OsCall where
  /-- `Child::try_wait` of a child that is not polled to completion. -/
  | reap (reply : Except IoError (Option ExitStatus))
  /-- `Child::wait` of a child that is not polled to completion. -/
  | await (bound : Option Duration) (reply : WaitReply)
  | killpg (pid : Nat) (signal : String) (reply : Except IoError Unit)
  | generateConsoleCtrlEvent (pid : Nat) (reply : Except IoError Unit)
  | assignProcessToJobObject (pid : Nat) (reply : Except IoError Unit)
  | terminateJobObject (exitCode : Nat) (reply : Except IoError Unit)
  /-- `Child::start_kill`. -/
  | startKill (pid : Nat) (reply : Except IoError Unit)
  deriving DecidableEq

/-- The exit status a request has observed. -/
def OsCall.exit? : OsCall → Option ExitStatus
  | .reap (.ok status) => status
  | .await _ (.exited status) => some status
  | _ => none

/-- The process id a signal is sent to. -/
def OsCall.target? : OsCall → Option Nat
  | .killpg pid _ _ | .generateConsoleCtrlEvent pid _ | .startKill pid _ => some pid
  | .reap _ | .await _ _ | .assignProcessToJobObject _ _ | .terminateJobObject _ _ => none

/-- The operating system, which knows all requests so far. The errors are those the group hands on. -/
structure Os where
  reap : List OsCall → Except IoError (Option ExitStatus)
  await : List OsCall → Option Duration → WaitReply
  killpg : List OsCall → Nat → String → Except IoError Unit
  generateConsoleCtrlEvent : List OsCall → Nat → Except IoError Unit
  assignProcessToJobObject : List OsCall → Nat → Except IoError Unit
  terminateJobObject : List OsCall → Nat → Except IoError Unit
  startKill : List OsCall → Nat → Except IoError Unit

/-! ## The group -/

/-- `ProcessGroup`, with the requests made on its behalf. Only on Windows there may be a job. -/
structure ProcessGroup where
  leader : Child
  job : Bool := false
  calls : List OsCall := []
  deriving DecidableEq

namespace ProcessGroup

/-- Record a request. -/
def request (group : ProcessGroup) (call : OsCall) : ProcessGroup :=
  { group with calls := group.calls ++ [call] }

/-- `from_spawned_child`. A child that cannot be attached to a job is killed. -/
def fromSpawnedChild (platform : Platform) (os : Os) (child : Child) :
    Except IoError ProcessGroup × List OsCall :=
  match platform, child with
  | .windows, .running pid =>
      let attached := os.assignProcessToJobObject [] pid
      let calls := [.assignProcessToJobObject pid attached]
      match attached with
      | .ok () => (.ok { leader := child, job := true, calls }, calls)
      | .error source => (.error source, calls ++ [.startKill pid (os.startKill calls pid)])
  | .windows, .done _ | .unix, _ | .other, _ => (.ok { leader := child }, [])

/-- `try_wait`. -/
def tryWait (os : Os) (group : ProcessGroup) : Except IoError (Option ExitStatus) × ProcessGroup :=
  match group.leader with
  | .done status => (.ok (some status), group)
  | .running _ =>
      let reply := os.reap group.calls
      let group := group.request (.reap reply)
      match reply with
      | .ok (some status) => (reply, { group with leader := .done status })
      | .ok none | .error _ => (reply, group)

/-- `wait`, awaited under a timeout if there is a bound. -/
def wait (os : Os) (bound : Option Duration) (group : ProcessGroup) : WaitReply × ProcessGroup :=
  match group.leader with
  | .done status => (.exited status, group)
  | .running _ =>
      let reply := os.await group.calls bound
      let group := group.request (.await bound reply)
      match reply with
      | .exited status => (reply, { group with leader := .done status })
      | .failed _ | .elapsed | .dropped => (reply, group)

/-- `send_to_process_group`. -/
def sendToProcessGroup (os : Os) (pid : Nat) (signal : String) (group : ProcessGroup) :
    Except IoError Unit × ProcessGroup :=
  let reply := os.killpg group.calls pid signal
  (reply, group.request (.killpg pid signal reply))

/-- A signal of a group whose leader was polled to completion is not sent. -/
def sendWithId (send : Nat → ProcessGroup → Except IoError Unit × ProcessGroup)
    (group : ProcessGroup) : Except IoError Unit × ProcessGroup :=
  match group.leader.id with
  | some pid => send pid group
  | none => (.ok (), group)

/-- `send_interrupt`. -/
def sendInterrupt (os : Os) : ProcessGroup → Except IoError Unit × ProcessGroup :=
  sendWithId fun pid => sendToProcessGroup os pid "SIGINT"

/-- `send_terminate`. -/
def sendTerminate (os : Os) : ProcessGroup → Except IoError Unit × ProcessGroup :=
  sendWithId fun pid => sendToProcessGroup os pid "SIGTERM"

/-- `send_ctrl_break`. -/
def sendCtrlBreak (os : Os) : ProcessGroup → Except IoError Unit × ProcessGroup :=
  sendWithId fun pid group =>
    let reply := os.generateConsoleCtrlEvent group.calls pid
    (reply, group.request (.generateConsoleCtrlEvent pid reply))

/-- `io::ErrorKind::InvalidInput`. -/
def invalidInput : Nat := 20

/-- `Child::start_kill` refuses a child that was polled to completion. -/
def cannotKillExited : IoError :=
  ⟨invalidInput, "invalid argument: can't kill an exited process"⟩

/-- `Child::start_kill` of the leader. -/
def startKillLeader (os : Os) (group : ProcessGroup) : Except IoError Unit × ProcessGroup :=
  match group.leader with
  | .running pid =>
      let reply := os.startKill group.calls pid
      (reply, group.request (.startKill pid reply))
  | .done _ => (.error cannotKillExited, group)

/-- `send_kill`. Without group management it is left to the leader, also when that has ended. -/
def sendKill (platform : Platform) (os : Os) (group : ProcessGroup) :
    Except IoError Unit × ProcessGroup :=
  match platform with
  | .unix => sendWithId (fun pid => sendToProcessGroup os pid "SIGKILL") group
  | .windows =>
      sendWithId (fun _ group =>
        if group.job then
          let reply := os.terminateJobObject group.calls 1
          (reply, group.request (.terminateJobObject 1 reply))
        else group.startKillLeader os) group
  | .other => group.startKillLeader os

/-- The graceful signal with the given name. Other platforms have none, and nothing sends one
there. -/
def sendGraceful (platform : Platform) (os : Os) (signalName : String) (group : ProcessGroup) :
    Except IoError Unit × ProcessGroup :=
  match platform with
  | .unix =>
      if signalName = UnixGracefulSignal.interrupt.label then group.sendInterrupt os
      else group.sendTerminate os
  | .windows => group.sendCtrlBreak os
  | .other => (.ok (), group)

/-- The group behind a call of the handle. -/
def serve (platform : Platform) (os : Os) (group : ProcessGroup) : Event → ProcessGroup
  | .probed _ => (group.tryWait os).2
  | .sent _ signalName _ => (group.sendGraceful platform os signalName).2
  | .killed _ => (group.sendKill platform os).2
  | .waited bound _ => (group.wait os bound).2

/-- The group behind all calls of the handle. -/
def serveAll (platform : Platform) (os : Os) (group : ProcessGroup) (events : List Event) :
    ProcessGroup :=
  events.foldl (serve platform os) group

end ProcessGroup

section System

variable {Sink : Side → Type}

/-- The system of a handle with the group. What does not concern the process is left to a runtime. -/
def groupSystem (platform : Platform) (os : Os) (group : ProcessGroup) (runtime : System Sink) :
    System Sink :=
  { runtime with
    probe := fun events => ((group.serveAll platform os events).tryWait os).1
    send := fun events _ signalName =>
      ((group.serveAll platform os events).sendGraceful platform os signalName).1
    kill := fun events => ((group.serveAll platform os events).sendKill platform os).1
    wait := fun events bound => ((group.serveAll platform os events).wait os bound).1 }

end System

/-! ## What a request does -/

/-- The requests and the leader belong together: the exit of a leader that was polled to completion
was observed by the last request, and no other one has observed an exit. Signals go to the leader. -/
structure ProcessGroup.Reaped (pid : Nat) (group : ProcessGroup) : Prop where
  aimed : ∀ call ∈ group.calls, ∀ target, call.target? = some target → target = pid
  observed : (group.leader = .running pid ∧ ∀ call ∈ group.calls, call.exit? = none) ∨
    ∃ status earlier call, group.leader = .done status ∧ group.calls = earlier ++ [call] ∧
      call.exit? = some status ∧ ∀ call ∈ earlier, call.exit? = none

namespace ProcessGroup

variable {pid : Nat} {platform : Platform} {os : Os} {group : ProcessGroup}

/-- Request something of a leader that runs. -/
theorem Reaped.request (reaped : group.Reaped pid) (running : group.leader = .running pid)
    {call : OsCall} {next : ProcessGroup} (calls : next.calls = group.calls ++ [call])
    (aimed : ∀ target, call.target? = some target → target = pid)
    (leader : next.leader = match call.exit? with
      | some status => .done status
      | none => .running pid) :
    next.Reaped pid := by
  have silent : ∀ call ∈ group.calls, call.exit? = none := by
    rcases reaped.observed with ⟨_, silent⟩ | ⟨status, _, _, done, _⟩
    · exact silent
    · cases running.symm.trans done
  refine ⟨?_, ?_⟩
  · intro other member target sends
    rw [calls] at member
    rcases List.mem_append.mp member with earlier | last
    · exact reaped.aimed other earlier target sends
    · cases List.mem_singleton.mp last
      exact aimed target sends
  · cases exits : call.exit? with
    | some status =>
        rw [exits] at leader
        exact .inr ⟨status, group.calls, call, leader, calls, exits, silent⟩
    | none =>
        rw [exits] at leader
        refine .inl ⟨leader, ?_⟩
        intro other member
        rw [calls] at member
        rcases List.mem_append.mp member with earlier | last
        · exact silent other earlier
        · cases List.mem_singleton.mp last
          exact exits

theorem tryWait_reaped (reaped : group.Reaped pid) (running : group.leader = .running pid) :
    (group.tryWait os).2.Reaped pid := by
  simp only [tryWait, running]
  split
  · rename_i status exited
    exact reaped.request running rfl (fun _ none => by cases none) (by rw [exited]; rfl)
  · rename_i absent
    exact reaped.request running rfl (fun _ none => by cases none) (by rw [absent]; exact running)
  · rename_i error failed
    exact reaped.request running rfl (fun _ none => by cases none) (by rw [failed]; exact running)

theorem wait_reaped (bound : Option Duration) (reaped : group.Reaped pid)
    (running : group.leader = .running pid) : (group.wait os bound).2.Reaped pid := by
  simp only [wait, running]
  split
  · rename_i status exited
    exact reaped.request running rfl (fun _ none => by cases none) (by rw [exited]; rfl)
  all_goals
    rename_i other
    exact reaped.request running rfl (fun _ none => by cases none) (by rw [other]; exact running)

/-- The exit that is reported is stored. -/
theorem tryWait_done {status : ExitStatus} (reported : (group.tryWait os).1 = .ok (some status)) :
    (group.tryWait os).2.leader = .done status := by
  unfold tryWait at reported ⊢
  cases leader : group.leader with
  | done before =>
      rw [leader] at reported
      cases reported
      exact leader
  | running pid =>
      rw [leader] at reported
      dsimp only at reported ⊢
      cases reply : os.reap group.calls with
      | error error =>
          rw [reply] at reported
          cases reported
      | ok found =>
          rw [reply] at reported
          cases found with
          | none => cases reported
          | some found =>
              cases reported
              rfl

theorem wait_done {bound : Option Duration} {status : ExitStatus}
    (reported : (group.wait os bound).1 = .exited status) :
    (group.wait os bound).2.leader = .done status := by
  unfold wait at reported ⊢
  cases leader : group.leader with
  | done before =>
      rw [leader] at reported
      cases reported
      exact leader
  | running pid =>
      rw [leader] at reported
      dsimp only at reported ⊢
      cases reply : os.await group.calls bound with
      | exited found =>
          rw [reply] at reported
          cases reported
          rfl
      | failed error | elapsed | dropped =>
          rw [reply] at reported
          cases reported

/-- A signal is sent to the leader. -/
theorem sendWithId_reaped (reaped : group.Reaped pid) (running : group.leader = .running pid)
    {send : Nat → ProcessGroup → Except IoError Unit × ProcessGroup} {call : OsCall}
    (sends : (send pid group).2 = group.request call)
    (aimed : ∀ target, call.target? = some target → target = pid) (quiet : call.exit? = none) :
    (sendWithId send group).2.Reaped pid := by
  have sent : sendWithId send group = send pid group := by
    simp only [sendWithId, running, Child.id]
  rw [sent, sends]
  refine reaped.request running rfl aimed ?_
  rw [quiet]
  exact running

theorem startKillLeader_reaped (reaped : group.Reaped pid) (running : group.leader = .running pid) :
    (group.startKillLeader os).2.Reaped pid := by
  simp only [startKillLeader, running]
  exact reaped.request running rfl (fun _ sends => (Option.some.inj sends).symm) running

theorem sendKill_reaped (platform : Platform) (reaped : group.Reaped pid)
    (running : group.leader = .running pid) : (group.sendKill platform os).2.Reaped pid := by
  cases platform with
  | unix =>
      exact sendWithId_reaped reaped running rfl (fun _ sends => (Option.some.inj sends).symm) rfl
  | windows =>
      simp only [sendKill, sendWithId, running, Child.id]
      split
      · exact reaped.request running rfl (fun _ none => by cases none) running
      · exact startKillLeader_reaped reaped running
  | other => exact startKillLeader_reaped reaped running

theorem sendGraceful_reaped (platform : Platform) (signalName : String) (reaped : group.Reaped pid)
    (running : group.leader = .running pid) :
    (group.sendGraceful platform os signalName).2.Reaped pid := by
  cases platform with
  | unix =>
      simp only [sendGraceful]
      split
      · exact sendWithId_reaped reaped running rfl (fun _ sends => (Option.some.inj sends).symm) rfl
      · exact sendWithId_reaped reaped running rfl (fun _ sends => (Option.some.inj sends).symm) rfl
  | windows =>
      exact sendWithId_reaped reaped running rfl (fun _ sends => (Option.some.inj sends).symm) rfl
  | other => exact reaped

/-- A leader that has ended is asked for nothing. -/
theorem serve_done {status : ExitStatus} (done : group.leader = .done status) (event : Event) :
    group.serve platform os event = group := by
  cases event with
  | probed reply => simp only [serve, tryWait, done]
  | waited bound reply => simp only [serve, wait, done]
  | sent index signalName reply =>
      cases platform with
      | unix =>
          simp only [serve, sendGraceful, sendInterrupt, sendTerminate, sendWithId, done, Child.id,
            ite_self]
      | windows => simp only [serve, sendGraceful, sendCtrlBreak, sendWithId, done, Child.id]
      | other => rfl
  | killed reply =>
      cases platform with
      | unix | windows => simp only [serve, sendKill, sendWithId, done, Child.id]
      | other => simp only [serve, sendKill, startKillLeader, done]

/-- **Every call of the handle keeps the requests in order.** -/
theorem serve_reaped (reaped : group.Reaped pid) (event : Event) :
    (group.serve platform os event).Reaped pid := by
  rcases reaped.observed with ⟨running, _⟩ | ⟨status, _, _, done, _⟩
  · cases event with
    | probed reply => exact tryWait_reaped reaped running
    | sent index signalName reply => exact sendGraceful_reaped platform signalName reaped running
    | killed reply => exact sendKill_reaped platform reaped running
    | waited bound reply => exact wait_reaped bound reaped running
  · rw [serve_done done event]
    exact reaped

theorem serveAll_reaped (reaped : group.Reaped pid) (events : List Event) :
    (group.serveAll platform os events).Reaped pid := by
  induction events generalizing group with
  | nil => exact reaped
  | cons event rest ih => exact ih (serve_reaped reaped event)

theorem fromSpawnedChild_reaped {calls : List OsCall}
    (spawned : fromSpawnedChild platform os (.running pid) = (.ok group, calls)) :
    group.Reaped pid := by
  unfold fromSpawnedChild at spawned
  split at spawned
  · rename_i running
    cases running
    dsimp only at spawned
    split at spawned
    · cases spawned
      refine ⟨?_, .inl ⟨rfl, ?_⟩⟩
      · intro call member target sends
        cases List.mem_singleton.mp member
        cases sends
      · intro call member
        cases List.mem_singleton.mp member
        rfl
    · cases spawned
  all_goals
    cases spawned
    exact ⟨fun _ member => absurd member List.not_mem_nil,
      .inl ⟨rfl, fun _ member => absurd member List.not_mem_nil⟩⟩

@[simp] theorem serveAll_append (platform : Platform) (os : Os) (group : ProcessGroup)
    (events more : List Event) :
    group.serveAll platform os (events ++ more) =
      (group.serveAll platform os events).serveAll platform os more := List.foldl_append

theorem serveAll_done {status : ExitStatus} (done : group.leader = .done status)
    (events : List Event) : group.serveAll platform os events = group := by
  induction events with
  | nil => rfl
  | cons event rest ih =>
      rw [serveAll, List.foldl_cons, serve_done done]
      exact ih

end ProcessGroup

/-! ## The record of the calls -/

section Answered

variable {Sink : Side → Type} {platform : Platform} {system : System Sink} {base : List Event}

theorem trySpawnOutputCollectors_records : Records system base trySpawnOutputCollectors := by
  have spawn : ∀ side, Records system base (spawnCollector side) := by
    intro side handle answered
    dsimp only [spawnCollector]
    split <;> exact answered
  have begins : Records system base (Program.modify beginCollection) := modify_records fun _ => rfl
  refine begins.bind fun _ => .bind .get fun handle => (spawn .stdout).bind ?_
  rintro (error | _)
  · exact .pure _
  · refine (spawn .stderr).bind ?_
    rintro (error | _)
    · exact .bind (fun _ answered => answered) fun _ => .pure _
    · exact .pure _

theorem dropCollectors_records : Records system base (Program.modify dropCollectors) :=
  modify_records fun _ => rfl

theorem waitForOutputConsumers_records : Records system base waitForOutputConsumers := by
  intro handle answered
  dsimp only [waitForOutputConsumers]
  split <;> exact answered

theorem waitForCompletionWithOutput_records (timeout eofTimeout : Duration) :
    Records system base (waitForCompletionWithOutput timeout eofTimeout) := by
  refine trySpawnOutputCollectors_records.bind ?_
  rintro (error | _)
  · exact .pure _
  have waits := (waitForCompletionInner_records timeout).onInterrupt
    (@dropCollectors_records Sink system base)
  refine .bind .get fun handle => waits.bind ?_
  rintro (error | status | elapsed)
  · exact dropCollectors_records.bind fun _ => .pure _
  · refine waitForOutputConsumers_records.bind ?_
    rintro (error | sinks) <;> exact .pure _
  · exact .bind (fun _ answered => answered) fun _ => .pure _

theorem waitForCompletionWithOutputOrTerminate_records (timeout eofTimeout : Duration)
    (shutdown : GracefulShutdown platform) :
    Records system base (waitForCompletionWithOutputOrTerminate timeout eofTimeout shutdown) := by
  refine trySpawnOutputCollectors_records.bind ?_
  rintro (error | _)
  · exact .pure _
  have waits := (waitForCompletionOrTerminateInner_records timeout shutdown).onInterrupt
    (@dropCollectors_records Sink system base)
  refine .bind .get fun handle => waits.bind ?_
  rintro (error | outcome)
  · exact dropCollectors_records.bind fun _ => .pure _
  · refine waitForOutputConsumers_records.bind ?_
    rintro (error | sinks) <;> exact .pure _

/-- **Every operation of a lifecycle records the answers of the system.** -/
theorem LifecycleCall.run_records (call : LifecycleCall platform) :
    Records system base call.run := by
  cases call with
  | waitForCompletion timeout => exact (waitForCompletionInner_records timeout).bind fun _ => .pure _
  | waitForCompletionOrTerminate timeout shutdown =>
      exact (waitForCompletionOrTerminateInner_records timeout shutdown).bind fun _ => .pure _
  | waitForCompletionWithOutput timeout eofTimeout =>
      exact (waitForCompletionWithOutput_records timeout eofTimeout).bind fun _ => .pure _
  | waitForCompletionWithOutputOrTerminate timeout eofTimeout shutdown =>
      exact (waitForCompletionWithOutputOrTerminate_records timeout eofTimeout shutdown).bind
        fun _ => .pure _
  | terminate shutdown => exact (terminate_records shutdown).bind fun _ => .pure _
  | kill => exact kill_records.bind fun _ => .pure _
  | startKill => exact startKill_records.bind fun _ => .pure _
  | sendSignal signalName => exact (sendSignalWithReaper_records signalName).bind fun _ => .pure _
  | isRunning => exact isRunning_records.bind fun _ => .pure _
  | mustBeTerminated =>
      refine (modify_records ?_).bind fun _ => .pure _
      intro handle
      unfold ProcessHandle.mustBeTerminated
      split <;> rfl
  | mustNotBeTerminated => exact (modify_records mustNotBeTerminated_events).bind fun _ => .pure _

theorem runCalls_answered {handle : ProcessHandle} (answered : system.Answered base handle.events)
    (calls : List (LifecycleCall platform)) :
    system.Answered base (runCalls system handle calls).2.events := by
  induction calls generalizing handle with
  | nil => exact answered
  | cons call rest ih => exact ih (call.run_records handle answered)

end Answered

/-! ## Behind the exit -/

section Final

variable {Sink : Side → Type} {platform : Platform} {system : System Sink} {events : List Event}
  {status : ExitStatus} {handle : ProcessHandle}

/-- Whatever is called from now on, the system answers that the process has ended. -/
structure Final (platform : Platform) (system : System Sink) (events : List Event)
    (status : ExitStatus) : Prop where
  probe : ∀ more, system.probe (events ++ more) = .ok (some status)
  wait : ∀ more bound, system.wait (events ++ more) bound = .exited status
  send : ∀ more index signalName, system.send (events ++ more) index signalName = .ok ()
  kill : ∀ more, system.kill (events ++ more) =
    if platform = .other then .error ProcessGroup.cannotKillExited else .ok ()

theorem Final.extend (final : Final platform system events status) (more : List Event) :
    Final platform system (events ++ more) status := by
  obtain ⟨probe, wait, send, kill⟩ := final
  refine ⟨fun later => ?_, fun later => ?_, fun later => ?_, fun later => ?_⟩
  all_goals rw [List.append_assoc]
  · exact probe _
  · exact wait _
  · exact send _
  · exact kill _

theorem Final.probe_here (final : Final platform system events status) :
    system.probe events = .ok (some status) := by
  simpa only [List.append_nil] using final.probe []

theorem Final.wait_here (final : Final platform system events status) (bound : Option Duration) :
    system.wait events bound = .exited status := by
  simpa only [List.append_nil] using final.wait [] bound

theorem Final.kill_here (final : Final platform system events status) :
    system.kill events =
      if platform = .other then .error ProcessGroup.cannotKillExited else .ok () := by
  simpa only [List.append_nil] using final.kill []

/-- A group whose leader was polled to completion makes such a system. -/
theorem groupSystem_final {os : Os} {group : ProcessGroup} {runtime : System Sink}
    (done : (group.serveAll platform os events).leader = .done status) :
    Final platform (groupSystem platform os group runtime) events status := by
  have same : ∀ more, group.serveAll platform os (events ++ more) =
      group.serveAll platform os events := by
    intro more
    rw [ProcessGroup.serveAll_append]
    exact ProcessGroup.serveAll_done done more
  refine ⟨?_, ?_, ?_, ?_⟩
  · intro more
    simp only [groupSystem, same, ProcessGroup.tryWait, done]
  · intro more bound
    simp only [groupSystem, same, ProcessGroup.wait, done]
  · intro more index signalName
    simp only [groupSystem, same]
    cases platform with
    | unix =>
        simp only [ProcessGroup.sendGraceful, ProcessGroup.sendInterrupt, ProcessGroup.sendTerminate,
          ProcessGroup.sendWithId, done, Child.id, ite_self]
    | windows =>
        simp only [ProcessGroup.sendGraceful, ProcessGroup.sendCtrlBreak, ProcessGroup.sendWithId,
          done, Child.id]
    | other => rfl
  · intro more
    simp only [groupSystem, same]
    cases platform with
    | unix | windows =>
        simp only [ProcessGroup.sendKill, ProcessGroup.sendWithId, done, Child.id, reduceCtorEq,
          if_false]
    | other => simp only [ProcessGroup.sendKill, ProcessGroup.startKillLeader, done, if_true]

/-- An exit that was reported is stored in the group. -/
theorem System.Answered.done {os : Os} {group : ProcessGroup} {runtime : System Sink}
    (answered : (groupSystem platform os group runtime).Answered [] events) {event : Event}
    (member : event ∈ events) (exited : event.exit? = some status) :
    (group.serveAll platform os events).leader = .done status := by
  induction answered with
  | start => cases member
  | @next events last answered answers ih =>
      rw [ProcessGroup.serveAll_append]
      rcases List.mem_append.mp member with earlier | here
      · have done := ih earlier
        rw [ProcessGroup.serveAll_done done]
        exact done
      · cases List.mem_singleton.mp here
        cases event with
        | probed reply =>
            cases reply with
            | error error => cases exited
            | ok found =>
                cases exited
                exact ProcessGroup.tryWait_done answers.symm
        | waited bound reply =>
            cases reply with
            | exited found =>
                cases exited
                exact ProcessGroup.wait_done answers.symm
            | failed error | elapsed | dropped => cases exited
        | sent index signalName reply | killed reply => cases exited

/-! ## The operations behind the exit -/

/-- Every operation agrees that the process has ended. With output collection an operation may still
fail, but it does not time out. -/
structure Concluded (platform : Platform) (system : System Sink) (handle : ProcessHandle)
    (status : ExitStatus) : Prop where
  waits : ∀ timeout,
    (waitForCompletionInner timeout system handle).1 = .returned (.ok (.completed status))
  waitsOrTerminates : ∀ timeout (shutdown : GracefulShutdown platform),
    (waitForCompletionOrTerminateInner timeout shutdown system handle).1 =
      .returned (.ok (.completed status))
  collects : ∀ timeout eofTimeout elapsed,
    (waitForCompletionWithOutput timeout eofTimeout system handle).1 ≠
      .returned (.ok (.timeout elapsed))
  terminates : ∀ shutdown : GracefulShutdown platform,
    (terminate shutdown system handle).1 = .returned (.ok status)
  startsKill : (startKill platform system handle).1 = .returned (.ok ())
  signals : ∀ signalName, (sendSignalWithReaper signalName system handle).1 = .returned (.ok ())
  runs : (isRunning system handle).1 = .returned (.terminated status)
  kills : platform ≠ .other → (kill platform system handle).1 = .returned (.ok ())
  /-- Without group management the kill is refused. -/
  refused : platform = .other → (kill platform system handle).1 =
    .returned (.error (.terminationFailed handle.name
      [⟨.sendSignal "kill", .io ProcessGroup.cannotKillExited⟩]))

theorem Final.waitForCompletionInner_run (final : Final platform system handle.events status)
    (timeout : Duration) :
    (waitForCompletionInner timeout system handle).1 = .returned (.ok (.completed status)) := by
  simp only [waitForCompletionInner, Program.bind_run, Program.get_run, Program.andThen_returned,
    wait_run, final.wait_here]
  rfl

theorem Final.terminate_run (final : Final platform system handle.events status)
    (shutdown : GracefulShutdown platform) :
    (terminate shutdown system handle).1 = .returned (.ok status) := by
  unfold terminate runTerminationLoop
  rw [if_neg shutdown.steps_ne_nil]
  simp only [terminationBlock, Program.bind_run, tryReapExitStatus, Program.andThen_returned,
    final.probe_here]
  rfl

theorem Final.waitForCompletionOrTerminateInner_run
    (final : Final platform system handle.events status) (timeout : Duration)
    (shutdown : GracefulShutdown platform) :
    (waitForCompletionOrTerminateInner timeout shutdown system handle).1 =
      .returned (.ok (.completed status)) := by
  rw [waitForCompletionOrTerminateInner, Program.bind_run,
    Program.andThen_of_returned (final.waitForCompletionInner_run timeout)]
  rfl

theorem Final.startKill_run (final : Final platform system handle.events status) :
    (startKill platform system handle).1 = .returned (.ok ()) := by
  simp only [startKill, Program.bind_run, Program.modify_run, Program.andThen_returned,
    sendKillSignal, closeStdin_events, final.kill_here]
  split
  · simp only [tryReapExitStatus, Program.bind_run, note_events, closeStdin_events,
      Program.andThen_returned, final.probe]
    rfl
  · rfl

theorem Final.sendSignalWithReaper_run (final : Final platform system handle.events status)
    (signalName : String) :
    (sendSignalWithReaper signalName system handle).1 = .returned (.ok ()) := by
  simp only [sendSignalWithReaper, Program.bind_run, tryReapExitStatus, Program.andThen_returned,
    final.probe_here]
  rfl

theorem Final.isRunning_run (final : Final platform system handle.events status) :
    (isRunning system handle).1 = .returned (.terminated status) := by
  simp only [isRunning, Program.bind_run, tryReapExitStatus, Program.andThen_returned,
    final.probe_here]
  rfl

theorem Final.kill_run (final : Final platform system handle.events status)
    (managed : platform ≠ .other) :
    (ProcessHandle.kill platform system handle).1 = .returned (.ok ()) := by
  simp only [ProcessHandle.kill, Program.bind_run, Program.modify_run, Program.andThen_returned,
    sendKillSignal, closeStdin_events, final.kill_here, if_neg managed, waitForCompletionUnbounded,
    Program.get_run, ProcessHandle.wait, note_events, final.wait]
  rfl

theorem Final.kill_refused (final : Final platform system handle.events status)
    (unmanaged : platform = .other) :
    (ProcessHandle.kill platform system handle).1 = .returned (.error (.terminationFailed handle.name
      [⟨.sendSignal "kill", .io ProcessGroup.cannotKillExited⟩])) := by
  subst unmanaged
  simp only [ProcessHandle.kill, Program.bind_run, Program.modify_run, Program.andThen_returned,
    sendKillSignal, closeStdin_events, final.kill_here, if_true]
  rfl

theorem Final.waitForCompletionWithOutput_run
    (final : Final platform system handle.events status) (timeout eofTimeout elapsed : Duration) :
    (waitForCompletionWithOutput timeout eofTimeout system handle).1 ≠
      .returned (.ok (.timeout elapsed)) := by
  obtain ⟨_, ⟨⟨more, calls, _⟩, _⟩, _⟩ := trySpawnOutputCollectors_quiet system handle
  rw [waitForCompletionWithOutput, Program.bind_run]
  cases ran : trySpawnOutputCollectors system handle with
  | mk fate middle =>
      rw [ran] at calls
      cases fate with
      | dropped | panicked message => exact fun ended => by cases ended
      | returned started =>
          cases started with
          | error error => exact fun ended => by cases ended
          | ok _ =>
              have later : Final platform system middle.events status := calls ▸ final.extend more
              have completed := later.waitForCompletionInner_run timeout
              have waits := Program.onInterrupt_of_returned system middle completed dropCollectors
              rw [← waits] at completed
              simp only [Program.andThen_returned, waitForCompletionWithCollectors,
                Program.bind_run, Program.get_run]
              rw [Program.andThen_of_returned completed]
              dsimp only
              rw [Program.bind_run]
              cases drained : waitForOutputConsumers system
                  ((waitForCompletionInner timeout).onInterrupt dropCollectors system middle).2 with
              | mk fate last =>
                  cases fate with
                  | dropped | panicked message => exact fun ended => by cases ended
                  | returned result =>
                      cases result with
                      | error error | ok sinks => exact fun ended => by cases ended

theorem Final.concluded (final : Final platform system handle.events status) :
    Concluded platform system handle status where
  waits := final.waitForCompletionInner_run
  waitsOrTerminates := final.waitForCompletionOrTerminateInner_run
  collects := final.waitForCompletionWithOutput_run
  terminates := final.terminate_run
  startsKill := final.startKill_run
  signals := final.sendSignalWithReaper_run
  runs := final.isRunning_run
  kills := final.kill_run
  refused := final.kill_refused

end Final

/-! ## Lives -/

section Lives

variable {Sink : Side → Type} {platform : Platform} {os : Os} {group : ProcessGroup} {pid : Nat}
  {runtime : System Sink}

/-- The request that observes the exit is the last one, and signals go to the child that was
spawned. -/
theorem ProcessGroup.Reaped.requests (reaped : group.Reaped pid) {front back : List OsCall}
    {call : OsCall} (split : group.calls = front ++ call :: back) :
    (call.exit? ≠ none → back = []) ∧ ∀ target, call.target? = some target → target = pid := by
  refine ⟨fun exits => ?_, reaped.aimed call (by rw [split]; simp)⟩
  rcases reaped.observed with ⟨_, silent⟩ | ⟨status, earlier, last, _, calls, _, silent⟩
  · exact absurd (silent call (by rw [split]; simp)) exits
  · rcases List.eq_nil_or_concat back with rfl | ⟨rest, other, rfl⟩
    · rfl
    · rw [calls, List.concat_eq_append, ← List.cons_append, ← List.append_assoc] at split
      have same := (List.append_inj' split rfl).1
      exact absurd (silent call (by rw [same]; simp)) exits

/-- **An observed exit is final.** For every operating system and every life of a handle on its
process group, with any operations, wrapped and unwrapped any number of times, and the drop at its
end: a signal goes to the child that was spawned, and the request that observes the exit is the last
one, so no signal can reach another process under the same id. Once any operation was told an exit
status, every operation agrees on it, and none makes a request any more. -/
theorem exit_is_final {calls : List OsCall} {name : String} {stdIn : Stdin} {exclusive : Side → Bool}
    {actions : List (OwnerAction platform)} {records : List (CallRecord platform)}
    {owner : Owner platform}
    (spawned : ProcessGroup.fromSpawnedChild platform os (.running pid) = (.ok group, calls))
    (ran : (Owner.bare (spawn name stdIn exclusive)).run (groupSystem platform os group runtime)
      actions = some (records, owner)) :
    (∀ thread front call back, (group.serveAll platform os
        (owner.drop (groupSystem platform os group runtime) thread).2.handle.events).calls =
          front ++ call :: back →
      (call.exit? ≠ none → back = []) ∧ ∀ target, call.target? = some target → target = pid) ∧
    (∀ event ∈ owner.handle.events, ∀ status, event.exit? = some status →
      Concluded platform (groupSystem platform os group runtime) owner.handle status ∧
        ∀ more, (group.serveAll platform os (owner.handle.events ++ more)).calls =
          (group.serveAll platform os owner.handle.events).calls) := by
  have reaped := ProcessGroup.fromSpawnedChild_reaped spawned
  refine ⟨?_, ?_⟩
  · intro thread front call back split
    exact (ProcessGroup.serveAll_reaped reaped _).requests split
  · intro event member status exited
    have lived := Owner.run_eq ran
    have answered := @runCalls_answered Sink platform (groupSystem platform os group runtime) []
      (spawn name stdIn exclusive) .start (actions.filterMap OwnerAction.call?)
    rw [Owner.handle] at lived
    rw [lived] at answered
    have done := answered.done member exited
    refine ⟨(groupSystem_final done).concluded, fun more => ?_⟩
    rw [ProcessGroup.serveAll_append, ProcessGroup.serveAll_done done]

/-- A child that exits when it is asked to, and an operating system that would signal any process. -/
def obedientOs : Os where
  reap calls := .ok (if calls.any fun call => call.target? ≠ none then some ⟨15⟩ else none)
  await calls _ := if calls.any fun call => call.target? ≠ none then .exited ⟨15⟩ else .elapsed
  killpg _ _ _ := .ok ()
  generateConsoleCtrlEvent _ _ := .ok ()
  assignProcessToJobObject _ _ := .ok ()
  terminateJobObject _ _ := .ok ()
  startKill _ _ := .ok ()

/-- The child is terminated, and the safeguard armed again. -/
def obedientLife : List (OwnerAction .unix) :=
  [.call (.terminate (.terminateOnly (.fromSecs 5))), .call .mustBeTerminated]

/-- The system of that child. -/
def obedientSystem : System fun _ => Unit :=
  groupSystem .unix obedientOs { leader := .running 42 } survivingSystem

/-- The drop of the armed handle tries to kill the group, but its leader is gone: nothing is
signalled. -/
theorem exit_is_final_terminated :
    ∃ records owner, (Owner.bare (spawn "child" .open fun _ => true)).run obedientSystem
        obedientLife = some (records, owner) ∧
      (owner.drop obedientSystem {}).2.handle.events = owner.handle.events ++ [.killed (.ok ())] ∧
      (ProcessGroup.serveAll .unix obedientOs { leader := .running 42 }
        (owner.drop obedientSystem {}).2.handle.events).calls =
          [.reap (.ok none), .killpg 42 "SIGTERM" (.ok ()),
            .await (some (.fromSecs 5)) (.exited ⟨15⟩)] ∧
      Concluded .unix obedientSystem owner.handle ⟨15⟩ := by
  obtain ⟨⟨records, owner⟩, ran⟩ : ∃ ended, (Owner.bare (spawn "child" .open fun _ => true)).run
    obedientSystem obedientLife = some ended := ⟨_, rfl⟩
  have last := (Option.some.inj ran).symm
  refine ⟨records, owner, ran, ?_, ?_, ?_⟩
  · cases last
    rfl
  · cases last
    decide +kernel
  · refine ((exit_is_final rfl ran).2 (.waited (some (.fromSecs 5)) (.exited ⟨15⟩)) ?_ _ rfl).1
    cases last
    decide +kernel

end Lives

end TokioProcessTools.ProcessHandle
