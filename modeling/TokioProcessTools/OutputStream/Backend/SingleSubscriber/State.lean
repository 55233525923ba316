import TokioProcessTools.OutputStream.Config
import TokioProcessTools.OutputStream.Event

/-!
# The shared state of the single-subscriber backend

`ReplayState` keeps the replay window with its two counters, the terminal event
and the id of the active subscriber. It is written independently of the state of
the broadcast backend: a sealed window is emptied by popping, the loop over the
byte count skips gaps, and a terminal event inside the window is declared
unreachable.

`trimReplayWindow_eq` and `trimReplayWindow_sealed` say what trimming does to a
state whose counters are right.
-/

set_option autoImplicit false

namespace TokioProcessTools.OutputStream.Backend.SingleSubscriber

open Foundation

/-- `SubscriberId`. -/
abbrev SubscriberId := Nat

/-- `ReplayState`. -/
structure ReplayState where
  events : List StreamEvent := []
  chunkCount : Nat := 0
  byteCount : Nat := 0
  replaySealed : Bool := false
  terminalEvent : Option StreamEvent := none
  activeId : Option SubscriberId := none
  nextSubscriberId : SubscriberId := 0
  deriving DecidableEq, Repr

namespace ReplayState

/-- `ReplayState::new`. -/
def new : ReplayState := {}

/-- `push_retained_event`. -/
def pushRetainedEvent (state : ReplayState) (event : StreamEvent) : ReplayState :=
  let state := match event with
    | .chunk chunk => { state with
        chunkCount := state.chunkCount + 1
        byteCount := state.byteCount + chunk.bytes.length }
    | .gap | .eof | .readError _ => state
  { state with events := state.events ++ [event] }

/-- `pop_replay_front`. -/
def popReplayFront (state : ReplayState) : Checked (ReplayState × Option StreamEvent) :=
  match state.events with
  | [] => .ok (state, none)
  | front :: rest => do
      let state := { state with events := rest }
      match front with
      | .chunk chunk => do
          let chunkCount ← checkedSub state.chunkCount 1
          let byteCount ← checkedSub state.byteCount chunk.bytes.length
          .ok ({ state with chunkCount, byteCount }, some front)
      | .gap | .eof | .readError _ => .ok (state, some front)

/-- `snapshot_events`. -/
def snapshotEvents (state : ReplayState) : List StreamEvent := state.events

/-- `attach_subscriber`. -/
def attachSubscriber (state : ReplayState) : ReplayState × SubscriberId :=
  ({ state with
      nextSubscriberId := state.nextSubscriberId + 1
      activeId := some state.nextSubscriberId },
    state.nextSubscriberId)

/-- `while self.pop_replay_front().is_some()`, with one round for every event at most. -/
def popAll : Nat → ReplayState → Checked ReplayState
  | rounds, state => do
      match ← state.popReplayFront with
      | (state, none) => .ok state
      | (state, some _) =>
          match rounds with
          | 0 => .error .loopsForever
          | rounds + 1 => popAll rounds state

/-- `while self.chunk_count > chunks`, with one round for every event at most. -/
def popWhileOverChunks (chunks : Nat) : Nat → ReplayState → Checked ReplayState
  | rounds, state =>
      if state.chunkCount ≤ chunks then .ok state
      else
        match rounds with
        | 0 => .error .loopsForever
        | rounds + 1 => do
            let (state, _) ← state.popReplayFront
            popWhileOverChunks chunks rounds state

/-- `while let Some(event) = self.events.front()`, with one round for every event at most. -/
def popWhileOverBytes (bytes : Nat) : Nat → ReplayState → Checked ReplayState
  | rounds, state =>
      let again : Checked ReplayState :=
        match rounds with
        | 0 => .error .loopsForever
        | rounds + 1 => do
            let (state, _) ← state.popReplayFront
            popWhileOverBytes bytes rounds state
      match state.events with
      | [] => .ok state
      | .chunk chunk :: _ =>
          if bytes ≤ state.byteCount - chunk.bytes.length then again else .ok state
      | .gap :: _ => again
      | .eof :: _ | .readError _ :: _ =>
          .error (.enteredUnreachable "terminal events are stored separately")

/-- `trim_replay_window`. -/
def trimReplayWindow (state : ReplayState) : Option ReplayRetention → Checked ReplayState
  | none | some (.lastChunks 0) => state.popAll state.events.length
  | some retention =>
      if state.replaySealed then state.popAll state.events.length
      else
        match retention with
        | .lastBytes ⟨0⟩ => state.popAll state.events.length
        | .lastChunks chunks => state.popWhileOverChunks chunks state.events.length
        | .lastBytes bytes => state.popWhileOverBytes bytes.bytes state.events.length
        | .all => .ok state

/-- `push_replay_event`: record an event for subscribers that attach later, and tell whether they
receive it. -/
def pushReplayEvent (state : ReplayState) (event : StreamEvent)
    (retention : Option ReplayRetention) : Checked (ReplayState × Bool) :=
  match event with
  | .eof | .readError _ => .ok ({ state with terminalEvent := some event }, true)
  | .chunk _ =>
      if retention.isSome ∧ state.replaySealed = false then do
        let state := state.pushRetainedEvent event
        let state ← state.trimReplayWindow retention
        .ok (state, !state.events.isEmpty)
      else .ok (state, false)
  | .gap => .ok (state, false)

/-- `SingleSubscriberOutputStream::seal_replay`, under the lock. -/
def sealReplay (state : ReplayState) (options : StreamConfig) : Checked ReplayState :=
  { state with replaySealed := true }.trimReplayWindow options.replayRetention

/-- The replay history a new subscriber is given. -/
def replaySnapshot (state : ReplayState) (options : StreamConfig) : List StreamEvent :=
  if state.replaySealed ∨ options.replayRetention = none then [] else state.snapshotEvents

/-! ## What trimming does -/

/-- Only chunks are kept, and the counters are right. -/
structure Counted (state : ReplayState) : Prop where
  chunks : ∀ event ∈ state.events, event.isChunk = true
  chunkCount : state.chunkCount = state.events.length
  byteCount : state.byteCount = ReplayRetention.totalSize StreamEvent.size state.events

theorem counted_new : new.Counted := ⟨fun _ member => absurd member List.not_mem_nil, rfl, rfl⟩

/-- The state with other events in its replay window and its counters to match. -/
def withEvents (state : ReplayState) (events : List StreamEvent) : ReplayState :=
  { state with
    events
    chunkCount := events.length
    byteCount := ReplayRetention.totalSize StreamEvent.size events }

theorem counted_withEvents (state : ReplayState) {events : List StreamEvent}
    (chunks : ∀ event ∈ events, event.isChunk = true) : (state.withEvents events).Counted :=
  ⟨chunks, rfl, rfl⟩

/-- A state with right counters is determined by its events. -/
theorem Counted.withEvents_self {state : ReplayState} (counted : state.Counted) :
    state.withEvents state.events = state := by
  obtain ⟨_, chunkCount, byteCount⟩ := counted
  cases state
  simp_all [withEvents]

/-- Popping a chunk subtracts what the counters contain of it. -/
theorem popReplayFront_chunk (state : ReplayState) (chunk : Chunk) (rest : List StreamEvent) :
    (state.withEvents (.chunk chunk :: rest)).popReplayFront =
      .ok (state.withEvents rest, some (.chunk chunk)) := by
  simp [popReplayFront, withEvents, StreamEvent.size]

/-- A round of emptying the window. -/
theorem popAll_cons (state : ReplayState) (chunk : Chunk) (rest : List StreamEvent) :
    (state.withEvents (.chunk chunk :: rest)).popAll (rest.length + 1) =
      (state.withEvents rest).popAll rest.length := by
  rw [popAll, popReplayFront_chunk]
  rfl

/-- A round of the loop over the chunk count. -/
theorem popWhileOverChunks_cons (state : ReplayState) (limit : Nat) (chunk : Chunk)
    (rest : List StreamEvent) :
    (state.withEvents (.chunk chunk :: rest)).popWhileOverChunks limit (rest.length + 1) =
      if rest.length + 1 ≤ limit then .ok (state.withEvents (.chunk chunk :: rest))
      else (state.withEvents rest).popWhileOverChunks limit rest.length := by
  change (if _ then _ else popReplayFront _ >>= fun popped =>
    popWhileOverChunks limit rest.length popped.1) = _
  rw [popReplayFront_chunk]
  rfl

/-- A round of the loop over the byte count. -/
theorem popWhileOverBytes_cons (state : ReplayState) (limit : Nat) (chunk : Chunk)
    (rest : List StreamEvent) :
    (state.withEvents (.chunk chunk :: rest)).popWhileOverBytes limit (rest.length + 1) =
      if limit ≤ ReplayRetention.totalSize StreamEvent.size rest then
        (state.withEvents rest).popWhileOverBytes limit rest.length
      else .ok (state.withEvents (.chunk chunk :: rest)) := by
  have bytes : (state.withEvents (.chunk chunk :: rest)).byteCount - chunk.bytes.length =
      ReplayRetention.totalSize StreamEvent.size rest := by
    simp [withEvents, StreamEvent.size]
  rw [← bytes]
  change (if _ then popReplayFront _ >>= fun popped =>
    popWhileOverBytes limit rest.length popped.1 else _) = _
  rw [popReplayFront_chunk]
  rfl

theorem popAll_eq (state : ReplayState) {events : List StreamEvent}
    (chunks : ∀ event ∈ events, event.isChunk = true) :
    (state.withEvents events).popAll events.length = .ok (state.withEvents []) := by
  induction events with
  | nil => simp [popAll, popReplayFront, withEvents]
  | cons front rest ih =>
      obtain ⟨chunk, rfl⟩ := StreamEvent.exists_chunk (chunks front (by simp))
      rw [List.length_cons, popAll_cons]
      exact ih fun event member => chunks event (List.mem_cons_of_mem _ member)

theorem popWhileOverChunks_eq (state : ReplayState) (limit : Nat) {events : List StreamEvent}
    (chunks : ∀ event ∈ events, event.isChunk = true) :
    (state.withEvents events).popWhileOverChunks limit events.length =
      .ok (state.withEvents (events.drop (events.length - limit))) := by
  rw [← shortestSuffix_length]
  induction events with
  | nil => simp [popWhileOverChunks, withEvents]
  | cons front rest ih =>
      obtain ⟨chunk, rfl⟩ := StreamEvent.exists_chunk (chunks front (by simp))
      rw [List.length_cons, popWhileOverChunks_cons]
      by_cases exceeds : limit ≤ rest.length
      · rw [shortestSuffix_cons_of_pos _ exceeds, if_neg (by omega)]
        exact ih fun event member => chunks event (List.mem_cons_of_mem _ member)
      · rw [shortestSuffix_cons_of_neg (fun _ _ fits => Nat.le_succ_of_le fits) _ exceeds,
          if_pos (by omega)]

theorem popWhileOverBytes_eq (state : ReplayState) (limit : Nat) {events : List StreamEvent}
    (chunks : ∀ event ∈ events, event.isChunk = true) :
    (state.withEvents events).popWhileOverBytes limit events.length =
      .ok (state.withEvents (shortestSuffix
        (fun suffix => limit ≤ ReplayRetention.totalSize StreamEvent.size suffix) events)) := by
  induction events with
  | nil => simp [popWhileOverBytes, withEvents]
  | cons front rest ih =>
      obtain ⟨chunk, rfl⟩ := StreamEvent.exists_chunk (chunks front (by simp))
      rw [List.length_cons, popWhileOverBytes_cons]
      by_cases exceeds : limit ≤ ReplayRetention.totalSize StreamEvent.size rest
      · rw [shortestSuffix_cons_of_pos _ exceeds, if_pos exceeds]
        exact ih fun event member => chunks event (List.mem_cons_of_mem _ member)
      · rw [shortestSuffix_cons_of_neg (ReplayRetention.totalSize_longer _ limit) _ exceeds,
          if_neg exceeds]

/-- **Trimming keeps the window of the retention.** -/
theorem trimReplayWindow_eq {state : ReplayState} (counted : state.Counted)
    (unsealed : state.replaySealed = false) {retention : ReplayRetention}
    (nonZero : retention.NonZero) :
    state.trimReplayWindow (some retention) =
      .ok (state.withEvents (retention.window StreamEvent.size state.events)) := by
  match retention with
  | .all =>
      rw [trimReplayWindow, if_neg (by simp [unsealed])]
      exact congrArg _ counted.withEvents_self.symm
  | .lastChunks (chunks + 1) =>
      have popped := popWhileOverChunks_eq state (chunks + 1) counted.chunks
      rw [counted.withEvents_self] at popped
      rw [trimReplayWindow, if_neg (by simp [unsealed]), popped]
      · rfl
      · simp
  | .lastBytes ⟨bytes + 1⟩ =>
      have popped := popWhileOverBytes_eq state (bytes + 1) counted.chunks
      rw [counted.withEvents_self] at popped
      rw [trimReplayWindow, if_neg (by simp [unsealed]), popped]
      · rfl
      · simp
  | .lastChunks 0 => exact absurd nonZero (Nat.lt_irrefl 0)
  | .lastBytes ⟨0⟩ => exact absurd nonZero (Nat.lt_irrefl 0)

/-- A sealed window is emptied. -/
theorem trimReplayWindow_sealed {state : ReplayState} (counted : state.Counted)
    (isSealed : state.replaySealed = true) (retention : Option ReplayRetention) :
    state.trimReplayWindow retention = .ok (state.withEvents []) := by
  have emptied := popAll_eq state counted.chunks
  rw [counted.withEvents_self] at emptied
  unfold trimReplayWindow
  split
  · exact emptied
  · exact emptied
  · rw [if_pos isSealed]
    exact emptied

/-! ## What recording an event does -/

/-- The replay window behind a recorded event. -/
def eventsAfter (state : ReplayState) (retention : Option ReplayRetention) (event : StreamEvent) :
    List StreamEvent :=
  match retention with
  | some retention =>
      if event.isChunk ∧ state.replaySealed = false then
        retention.window StreamEvent.size (state.events ++ [event])
      else state.events
  | none => state.events

/-- The effect of recording an event: the state behind it, and whether later subscribers receive
the event. -/
structure Recorded (state : ReplayState) (retention : Option ReplayRetention) (event : StreamEvent)
    (next : ReplayState) (received : Bool) : Prop where
  counted : next.Counted
  events : next.events = state.eventsAfter retention event
  terminalEvent : next.terminalEvent = if event.isTerminal then some event else state.terminalEvent
  replaySealed : next.replaySealed = state.replaySealed
  activeId : next.activeId = state.activeId
  nextSubscriberId : next.nextSubscriberId = state.nextSubscriberId
  received : received = (event.isTerminal ||
    (event.isChunk && retention.isSome && !state.replaySealed))

theorem eventsAfter_of_not_chunk (state : ReplayState) (retention : Option ReplayRetention)
    {event : StreamEvent} (other : event.isChunk = false) :
    state.eventsAfter retention event = state.events := by
  unfold eventsAfter
  split
  · rw [if_neg (by simp [other])]
  · rfl

theorem eventsAfter_of_sealed {state : ReplayState} (retention : Option ReplayRetention)
    (event : StreamEvent) (isSealed : state.replaySealed = true) :
    state.eventsAfter retention event = state.events := by
  unfold eventsAfter
  split
  · rw [if_neg (by simp [isSealed])]
  · rfl

theorem eventsAfter_chunk {state : ReplayState} (retention : ReplayRetention)
    (unsealed : state.replaySealed = false) (chunk : Chunk) :
    state.eventsAfter (some retention) (.chunk chunk) =
      retention.window StreamEvent.size (state.events ++ [.chunk chunk]) :=
  if_pos ⟨rfl, unsealed⟩

/-- A chunk that is retained is appended, and the window trimmed. -/
theorem pushReplayEvent_retained {state : ReplayState} (counted : state.Counted)
    {retention : ReplayRetention} (nonZero : retention.NonZero)
    (unsealed : state.replaySealed = false) (chunk : Chunk) :
    state.pushReplayEvent (.chunk chunk) (some retention) =
      .ok (state.withEvents (retention.window StreamEvent.size (state.events ++ [.chunk chunk])),
        true) := by
  have grown : ∀ event ∈ state.events ++ [.chunk chunk], event.isChunk = true := by
    intro event member
    rcases List.mem_append.mp member with old | new
    · exact counted.chunks event old
    · rw [List.mem_singleton.mp new]
      rfl
  have appended : state.pushRetainedEvent (.chunk chunk) =
      state.withEvents (state.events ++ [.chunk chunk]) := by
    simp [pushRetainedEvent, withEvents, counted.chunkCount, counted.byteCount, StreamEvent.size]
  have trimmed := trimReplayWindow_eq (counted_withEvents state grown) unsealed nonZero
  have kept : (retention.window StreamEvent.size (state.events ++ [.chunk chunk])).isEmpty =
      false := by
    have member := ReplayRetention.mem_window_snoc StreamEvent.size nonZero state.events
      (.chunk chunk)
    rw [List.isEmpty_eq_false_iff]
    exact List.ne_nil_of_mem member
  simp only [pushReplayEvent, unsealed, Option.isSome_some, and_self, if_true, appended]
  rw [trimmed]
  simp only [checked_ok_bind, withEvents, kept, Bool.not_false]

/-- **Recording maintains the window; nothing underflows, the loops end, and the branch for a
terminal event inside the window is not entered.** -/
theorem pushReplayEvent_recorded {state : ReplayState} (counted : state.Counted)
    {retention : Option ReplayRetention} (nonZero : ∀ kept ∈ retention, kept.NonZero)
    (event : StreamEvent) :
    ∃ next received, state.pushReplayEvent event retention = .ok (next, received) ∧
      state.Recorded retention event next received := by
  have same := @eventsAfter_of_not_chunk state retention
  obtain ⟨chunks, chunkCount, byteCount⟩ := counted
  cases event with
  | gap =>
      exact ⟨_, _, rfl, ⟨chunks, chunkCount, byteCount⟩, (same rfl).symm, rfl, rfl, rfl, rfl, rfl⟩
  | eof =>
      exact ⟨_, _, rfl, ⟨chunks, chunkCount, byteCount⟩, (same rfl).symm, rfl, rfl, rfl, rfl, rfl⟩
  | readError error =>
      exact ⟨_, _, rfl, ⟨chunks, chunkCount, byteCount⟩, (same rfl).symm, rfl, rfl, rfl, rfl, rfl⟩
  | chunk chunk =>
      cases retention with
      | none =>
          exact ⟨state, false, by simp [pushReplayEvent], ⟨chunks, chunkCount, byteCount⟩, rfl, rfl,
            rfl, rfl, rfl, rfl⟩
      | some retention =>
          by_cases unsealed : state.replaySealed = false
          · refine ⟨_, true, pushReplayEvent_retained ⟨chunks, chunkCount, byteCount⟩
              (nonZero retention rfl) unsealed chunk, counted_withEvents _ ?_, ?_, rfl, rfl, rfl,
              rfl, by simp [StreamEvent.isChunk, unsealed]⟩
            · intro event member
              rcases List.mem_append.mp ((ReplayRetention.window_suffix _ _ _).mem member)
                with old | new
              · exact chunks event old
              · rw [List.mem_singleton.mp new]
                rfl
            · exact (eventsAfter_chunk retention unsealed chunk).symm
          · have isSealed : state.replaySealed = true := by simpa using unsealed
            exact ⟨state, false, by simp [pushReplayEvent, isSealed],
              ⟨chunks, chunkCount, byteCount⟩, (eventsAfter_of_sealed _ _ isSealed).symm, rfl, rfl,
              rfl, rfl, by simp [isSealed]⟩

/-- Sealing empties the window. -/
theorem sealReplay_eq {state : ReplayState} (counted : state.Counted) (options : StreamConfig) :
    state.sealReplay options = .ok ({ state with replaySealed := true }.withEvents []) := by
  have kept : Counted { state with replaySealed := true } :=
    ⟨counted.chunks, counted.chunkCount, counted.byteCount⟩
  exact trimReplayWindow_sealed kept rfl options.replayRetention

end ReplayState

end TokioProcessTools.OutputStream.Backend.SingleSubscriber
