import TokioProcessTools.OutputStream.Config
import TokioProcessTools.OutputStream.Event

/-!
# The shared state of the broadcast backend

`BroadcastState` numbers the events, keeps the replay window with its two
counters, the registry of subscribers and the terminal event. The counters are
updated by checked subtraction, and a trimming loop that could repeat a round
without popping anything has no result.

`trimReplayWindow_eq` says what trimming does to a state whose counters are
right: it keeps the window of the retention and the counters stay right. So
none of the subtractions underflows and both loops end.
-/

set_option autoImplicit false

namespace TokioProcessTools.OutputStream.Backend.Broadcast

open Foundation

/-- `SubscriberId`. -/
abbrev SubscriberId := Nat

/-- `IndexedEvent`: an event with its number. -/
structure IndexedEvent where
  seq : Nat
  event : StreamEvent
  deriving DecidableEq, Repr

/-- The number of bytes of an indexed event. -/
def IndexedEvent.size (indexed : IndexedEvent) : Nat := indexed.event.size

/-- `BroadcastState`. The registry maps ids to senders. -/
structure BroadcastState (Sender : Type) where
  replay : List IndexedEvent := []
  nextSeq : Nat := 0
  replayStartSeq : Nat := 0
  replayChunkCount : Nat := 0
  replayByteCount : Nat := 0
  nextSubscriberId : SubscriberId := 0
  subscribers : List (SubscriberId × Sender) := []
  replaySealed : Bool := false
  terminal : Option IndexedEvent := none
  closed : Bool := false
  deriving DecidableEq, Repr

namespace BroadcastState

variable {Sender : Type}

/-- `BroadcastState::new`. -/
def new : BroadcastState Sender := {}

/-- `clear_replay`. -/
def clearReplay (state : BroadcastState Sender) : BroadcastState Sender :=
  { state with replay := [], replayChunkCount := 0, replayByteCount := 0 }

/-- `self.replay.front().map_or(self.next_seq, |event| event.seq)`. -/
def frontSeq (state : BroadcastState Sender) : Nat :=
  (state.replay.head?.map IndexedEvent.seq).getD state.nextSeq

/-- `pop_replay_front`. -/
def popReplayFront (state : BroadcastState Sender) :
    Checked (BroadcastState Sender × Option IndexedEvent) :=
  match state.replay with
  | [] => .ok (state, none)
  | front :: rest => do
      let state := { state with replay := rest }
      let state ← match front.event with
        | .chunk chunk => do
            let replayChunkCount ← checkedSub state.replayChunkCount 1
            let replayByteCount ← checkedSub state.replayByteCount chunk.bytes.length
            .ok { state with replayChunkCount, replayByteCount }
        | .gap | .eof | .readError _ => .ok state
      .ok ({ state with replayStartSeq := state.frontSeq }, some front)

/-- `while self.replay_chunk_count > chunks`, with one round for every event at most. -/
def popWhileOverChunks (chunks : Nat) : Nat → BroadcastState Sender → Checked (BroadcastState Sender)
  | rounds, state =>
      if state.replayChunkCount ≤ chunks then .ok state
      else
        match rounds with
        | 0 => .error .loopsForever
        | rounds + 1 => do
            let (state, _) ← state.popReplayFront
            popWhileOverChunks chunks rounds state

/-- `while let Some(event) = self.replay.front()`, with one round for every event at most. -/
def popWhileOverBytes (bytes : Nat) : Nat → BroadcastState Sender → Checked (BroadcastState Sender)
  | rounds, state =>
      match state.replay with
      | [] => .ok state
      | front :: _ =>
          match front.event with
          | .chunk chunk =>
              if bytes ≤ state.replayByteCount - chunk.bytes.length then
                match rounds with
                | 0 => .error .loopsForever
                | rounds + 1 => do
                    let (state, _) ← state.popReplayFront
                    popWhileOverBytes bytes rounds state
              else .ok state
          | .gap | .eof | .readError _ => .ok state

/-- `trim_replay_window`. -/
def trimReplayWindow (state : BroadcastState Sender) (retention : Option ReplayRetention) :
    Checked (BroadcastState Sender) := do
  let state ← match retention with
    | none | some (.lastChunks 0) => .ok state.clearReplay
    | some retention =>
        if state.replaySealed then .ok state.clearReplay
        else
          match retention with
          | .lastBytes ⟨0⟩ => .ok state.clearReplay
          | .lastChunks chunks => state.popWhileOverChunks chunks state.replay.length
          | .lastBytes bytes => state.popWhileOverBytes bytes.bytes state.replay.length
          | .all => .ok state
  .ok { state with replayStartSeq := state.frontSeq }

/-- `push_event`. -/
def pushEvent (state : BroadcastState Sender) (event : StreamEvent) (options : StreamConfig) :
    Checked (BroadcastState Sender × IndexedEvent) := do
  let indexed : IndexedEvent := ⟨state.nextSeq, event⟩
  let state := { state with nextSeq := state.nextSeq + 1 }
  match event with
  | .chunk chunk =>
      if options.replayRetention.isSome ∧ state.replaySealed = false then
        let state := { state with
          replayChunkCount := state.replayChunkCount + 1
          replayByteCount := state.replayByteCount + chunk.bytes.length
          replay := state.replay ++ [indexed] }
        let state ← state.trimReplayWindow options.replayRetention
        .ok (state, indexed)
      else .ok (state, indexed)
  | .eof | .readError _ => .ok ({ state with terminal := some indexed }, indexed)
  | .gap => .ok (state, indexed)

/-- `replay_snapshot`. -/
def replaySnapshot (state : BroadcastState Sender) (options : StreamConfig) :
    List IndexedEvent × Nat :=
  let snapshot :=
    if options.replayRetention.isSome ∧ state.replaySealed = false then state.replay else []
  (snapshot ++ state.terminal.toList, state.nextSeq)

/-- `add_subscriber`. -/
def addSubscriber (state : BroadcastState Sender) (sender : Sender) :
    BroadcastState Sender × SubscriberId :=
  ({ state with
      nextSubscriberId := state.nextSubscriberId + 1
      subscribers := state.subscribers ++ [(state.nextSubscriberId, sender)] },
    state.nextSubscriberId)

/-- `remove_subscriber`. -/
def removeSubscriber (state : BroadcastState Sender) (id : SubscriberId) : BroadcastState Sender :=
  { state with subscribers := state.subscribers.filter fun entry => entry.1 ≠ id }

/-- `seal_replay`. -/
def sealReplay (state : BroadcastState Sender) : BroadcastState Sender :=
  let state := { state with replaySealed := true }.clearReplay
  { state with replayStartSeq := state.nextSeq }

/-! ## What trimming does -/

/-- Only chunks are kept, and the counters are right. -/
structure Counted (state : BroadcastState Sender) : Prop where
  chunks : ∀ indexed ∈ state.replay, indexed.event.isChunk = true
  chunkCount : state.replayChunkCount = state.replay.length
  byteCount : state.replayByteCount = ReplayRetention.totalSize IndexedEvent.size state.replay

theorem counted_new : (new : BroadcastState Sender).Counted :=
  ⟨fun _ member => absurd member List.not_mem_nil, rfl, rfl⟩

/-- The state with other events in its replay window, its counters and its start to match. -/
def withReplay (state : BroadcastState Sender) (events : List IndexedEvent) (start : Nat) :
    BroadcastState Sender :=
  { state with
    replay := events
    replayStartSeq := start
    replayChunkCount := events.length
    replayByteCount := ReplayRetention.totalSize IndexedEvent.size events }

theorem counted_withReplay (state : BroadcastState Sender) {events : List IndexedEvent}
    (start : Nat) (chunks : ∀ indexed ∈ events, indexed.event.isChunk = true) :
    (state.withReplay events start).Counted := ⟨chunks, rfl, rfl⟩

/-- A state with right counters is determined by its events and its start. -/
theorem Counted.withReplay_self {state : BroadcastState Sender} (counted : state.Counted) :
    state.withReplay state.replay state.replayStartSeq = state := by
  obtain ⟨_, chunkCount, byteCount⟩ := counted
  cases state
  simp_all [withReplay]

/-- Popping a chunk subtracts what the counters contain of it. -/
theorem popReplayFront_chunk (state : BroadcastState Sender) (seq start : Nat) (chunk : Chunk)
    (rest : List IndexedEvent) :
    (state.withReplay (⟨seq, .chunk chunk⟩ :: rest) start).popReplayFront =
      .ok (state.withReplay rest (state.withReplay rest start).frontSeq,
        some ⟨seq, .chunk chunk⟩) := by
  have bytes : chunk.bytes.length +
      ReplayRetention.totalSize IndexedEvent.size rest - chunk.bytes.length =
        ReplayRetention.totalSize IndexedEvent.size rest := by omega
  simp [popReplayFront, withReplay, IndexedEvent.size, StreamEvent.size, frontSeq, bytes]

/-- A round of the loop over the chunk count. -/
theorem popWhileOverChunks_cons (state : BroadcastState Sender) (limit seq start : Nat)
    (chunk : Chunk) (rest : List IndexedEvent) :
    (state.withReplay (⟨seq, .chunk chunk⟩ :: rest) start).popWhileOverChunks limit
        (rest.length + 1) =
      if rest.length + 1 ≤ limit then .ok (state.withReplay (⟨seq, .chunk chunk⟩ :: rest) start)
      else (state.withReplay rest (state.withReplay rest start).frontSeq).popWhileOverChunks limit
        rest.length := by
  change (if _ then _ else popReplayFront _ >>= fun popped =>
    popWhileOverChunks limit rest.length popped.1) = _
  rw [popReplayFront_chunk]
  rfl

/-- A round of the loop over the byte count. -/
theorem popWhileOverBytes_cons (state : BroadcastState Sender) (limit seq start : Nat)
    (chunk : Chunk) (rest : List IndexedEvent) :
    (state.withReplay (⟨seq, .chunk chunk⟩ :: rest) start).popWhileOverBytes limit
        (rest.length + 1) =
      if limit ≤ ReplayRetention.totalSize IndexedEvent.size rest then
        (state.withReplay rest (state.withReplay rest start).frontSeq).popWhileOverBytes limit
          rest.length
      else .ok (state.withReplay (⟨seq, .chunk chunk⟩ :: rest) start) := by
  have bytes : (state.withReplay (⟨seq, .chunk chunk⟩ :: rest) start).replayByteCount -
      chunk.bytes.length = ReplayRetention.totalSize IndexedEvent.size rest := by
    simp [withReplay, IndexedEvent.size, StreamEvent.size]
  rw [← bytes]
  change (if _ then popReplayFront _ >>= fun popped =>
    popWhileOverBytes limit rest.length popped.1 else _) = _
  rw [popReplayFront_chunk]
  rfl

theorem popWhileOverChunks_eq (state : BroadcastState Sender) (limit start : Nat)
    {events : List IndexedEvent} (chunks : ∀ indexed ∈ events, indexed.event.isChunk = true) :
    ∃ start', (state.withReplay events start).popWhileOverChunks limit events.length =
      .ok (state.withReplay (events.drop (events.length - limit)) start') := by
  rw [← shortestSuffix_length]
  induction events generalizing start with
  | nil => exact ⟨start, by simp [popWhileOverChunks, withReplay]⟩
  | cons front rest ih =>
      obtain ⟨chunk, isChunk⟩ := StreamEvent.exists_chunk (chunks front (by simp))
      obtain ⟨seq, event⟩ := front
      obtain rfl : event = .chunk chunk := isChunk
      rw [List.length_cons, popWhileOverChunks_cons]
      by_cases exceeds : limit ≤ rest.length
      · rw [shortestSuffix_cons_of_pos _ exceeds, if_neg (by omega)]
        exact ih _ (fun indexed member => chunks indexed (List.mem_cons_of_mem _ member))
      · rw [shortestSuffix_cons_of_neg (fun _ _ fits => Nat.le_succ_of_le fits) _ exceeds,
          if_pos (by omega)]
        exact ⟨start, rfl⟩

theorem popWhileOverBytes_eq (state : BroadcastState Sender) (limit start : Nat)
    {events : List IndexedEvent} (chunks : ∀ indexed ∈ events, indexed.event.isChunk = true) :
    ∃ start', (state.withReplay events start).popWhileOverBytes limit events.length =
      .ok (state.withReplay (shortestSuffix
        (fun suffix => limit ≤ ReplayRetention.totalSize IndexedEvent.size suffix) events)
          start') := by
  induction events generalizing start with
  | nil => exact ⟨start, by simp [popWhileOverBytes, withReplay]⟩
  | cons front rest ih =>
      obtain ⟨chunk, isChunk⟩ := StreamEvent.exists_chunk (chunks front (by simp))
      obtain ⟨seq, event⟩ := front
      obtain rfl : event = .chunk chunk := isChunk
      rw [List.length_cons, popWhileOverBytes_cons]
      by_cases exceeds : limit ≤ ReplayRetention.totalSize IndexedEvent.size rest
      · rw [shortestSuffix_cons_of_pos _ exceeds, if_pos exceeds]
        exact ih _ (fun indexed member => chunks indexed (List.mem_cons_of_mem _ member))
      · rw [shortestSuffix_cons_of_neg (ReplayRetention.totalSize_longer _ limit) _ exceeds,
          if_neg exceeds]
        exact ⟨start, rfl⟩

/-- **Trimming keeps the window of the retention.** -/
theorem trimReplayWindow_eq {state : BroadcastState Sender} (counted : state.Counted)
    (unsealed : state.replaySealed = false) {retention : ReplayRetention}
    (nonZero : retention.NonZero) :
    ∃ start, state.trimReplayWindow (some retention) =
      .ok (state.withReplay (retention.window IndexedEvent.size state.replay) start) := by
  match retention with
  | .all =>
      refine ⟨state.frontSeq, ?_⟩
      rw [trimReplayWindow, if_neg (by simp [unsealed])]
      exact congrArg (fun same : BroadcastState Sender =>
        Except.ok { same with replayStartSeq := state.frontSeq }) counted.withReplay_self.symm
  | .lastChunks (chunks + 1) =>
      obtain ⟨start, popped⟩ :=
        popWhileOverChunks_eq state (chunks + 1) state.replayStartSeq counted.chunks
      rw [counted.withReplay_self] at popped
      rw [trimReplayWindow, if_neg (by simp [unsealed]), popped]
      · exact ⟨_, rfl⟩
      · simp
  | .lastBytes ⟨bytes + 1⟩ =>
      obtain ⟨start, popped⟩ :=
        popWhileOverBytes_eq state (bytes + 1) state.replayStartSeq counted.chunks
      rw [counted.withReplay_self] at popped
      rw [trimReplayWindow, if_neg (by simp [unsealed]), popped]
      · exact ⟨_, rfl⟩
      · simp
  | .lastChunks 0 => exact absurd nonZero (Nat.lt_irrefl 0)
  | .lastBytes ⟨0⟩ => exact absurd nonZero (Nat.lt_irrefl 0)

/-! ## What a push does -/

/-- The replay window behind a push. -/
def replayAfter (state : BroadcastState Sender) (options : StreamConfig) (event : StreamEvent) :
    List IndexedEvent :=
  match options.replayRetention with
  | some retention =>
      if event.isChunk ∧ state.replaySealed = false then
        retention.window IndexedEvent.size (state.replay ++ [⟨state.nextSeq, event⟩])
      else state.replay
  | none => state.replay

/-- The effect of a push on the state. -/
structure Pushed (state : BroadcastState Sender) (options : StreamConfig) (event : StreamEvent)
    (next : BroadcastState Sender) : Prop where
  counted : next.Counted
  replay : next.replay = state.replayAfter options event
  nextSeq : next.nextSeq = state.nextSeq + 1
  terminal : next.terminal =
    if event.isTerminal then some ⟨state.nextSeq, event⟩ else state.terminal
  subscribers : next.subscribers = state.subscribers
  nextSubscriberId : next.nextSubscriberId = state.nextSubscriberId
  replaySealed : next.replaySealed = state.replaySealed
  closed : next.closed = state.closed

theorem replayAfter_of_not_chunk (state : BroadcastState Sender) (options : StreamConfig)
    {event : StreamEvent} (other : event.isChunk = false) :
    state.replayAfter options event = state.replay := by
  unfold replayAfter
  split
  · rw [if_neg (by simp [other])]
  · rfl

theorem replayAfter_of_sealed {state : BroadcastState Sender} (options : StreamConfig)
    (event : StreamEvent) (isSealed : state.replaySealed = true) :
    state.replayAfter options event = state.replay := by
  unfold replayAfter
  split
  · rw [if_neg (by simp [isSealed])]
  · rfl

theorem replayAfter_chunk {state : BroadcastState Sender} {options : StreamConfig}
    {retention : ReplayRetention} (kept : options.replayRetention = some retention)
    (unsealed : state.replaySealed = false) (chunk : Chunk) :
    state.replayAfter options (.chunk chunk) =
      retention.window IndexedEvent.size (state.replay ++ [⟨state.nextSeq, .chunk chunk⟩]) := by
  simp only [replayAfter, kept]
  exact if_pos ⟨rfl, unsealed⟩

/-- A chunk that is retained is appended, and the window trimmed. -/
theorem pushEvent_retained {state : BroadcastState Sender} (counted : state.Counted)
    {options : StreamConfig} {retention : ReplayRetention}
    (kept : options.replayRetention = some retention) (nonZero : retention.NonZero)
    (unsealed : state.replaySealed = false) (chunk : Chunk) :
    ∃ start, state.pushEvent (.chunk chunk) options =
      .ok (withReplay { state with nextSeq := state.nextSeq + 1 }
        (retention.window IndexedEvent.size (state.replay ++ [⟨state.nextSeq, .chunk chunk⟩]))
          start, ⟨state.nextSeq, .chunk chunk⟩) := by
  have grown : ∀ indexed ∈ state.replay ++ [(⟨state.nextSeq, .chunk chunk⟩ : IndexedEvent)],
      indexed.event.isChunk = true := by
    intro indexed member
    rcases List.mem_append.mp member with old | new
    · exact counted.chunks indexed old
    · rw [List.mem_singleton.mp new]
      rfl
  have appended : ({ state with
      nextSeq := state.nextSeq + 1
      replayChunkCount := state.replayChunkCount + 1
      replayByteCount := state.replayByteCount + chunk.bytes.length
      replay := state.replay ++ [⟨state.nextSeq, .chunk chunk⟩] } : BroadcastState Sender) =
        withReplay { state with nextSeq := state.nextSeq + 1 }
          (state.replay ++ [⟨state.nextSeq, .chunk chunk⟩]) state.replayStartSeq := by
    simp [withReplay, counted.chunkCount, counted.byteCount, IndexedEvent.size, StreamEvent.size]
  obtain ⟨start, trimmed⟩ := trimReplayWindow_eq
    (counted_withReplay { state with nextSeq := state.nextSeq + 1 } state.replayStartSeq grown)
    unsealed nonZero
  refine ⟨start, ?_⟩
  have retained : options.replayRetention.isSome ∧ state.replaySealed = false :=
    ⟨by simp [kept], unsealed⟩
  simp only [pushEvent, if_pos retained]
  rw [kept, appended, trimmed]
  rfl

/-- **A push numbers the event and maintains the window; nothing underflows and the loops end.** -/
theorem pushEvent_pushed {state : BroadcastState Sender} (counted : state.Counted)
    {options : StreamConfig} (nonZero : ∀ retention ∈ options.replayRetention, retention.NonZero)
    (event : StreamEvent) :
    ∃ next, state.pushEvent event options = .ok (next, ⟨state.nextSeq, event⟩) ∧
      state.Pushed options event next := by
  have same := @replayAfter_of_not_chunk _ state options
  obtain ⟨chunks, chunkCount, byteCount⟩ := counted
  cases event with
  | gap => exact ⟨_, rfl, ⟨chunks, chunkCount, byteCount⟩, (same rfl).symm, rfl, rfl, rfl, rfl, rfl, rfl⟩
  | eof => exact ⟨_, rfl, ⟨chunks, chunkCount, byteCount⟩, (same rfl).symm, rfl, rfl, rfl, rfl, rfl, rfl⟩
  | readError error =>
      exact ⟨_, rfl, ⟨chunks, chunkCount, byteCount⟩, (same rfl).symm, rfl, rfl, rfl, rfl, rfl, rfl⟩
  | chunk chunk =>
      by_cases retained : options.replayRetention.isSome ∧ state.replaySealed = false
      · obtain ⟨some, unsealed⟩ := retained
        obtain ⟨retention, kept⟩ := Option.isSome_iff_exists.mp some
        obtain ⟨start, pushed⟩ := pushEvent_retained ⟨chunks, chunkCount, byteCount⟩ kept
          (nonZero retention kept) unsealed chunk
        refine ⟨_, pushed, counted_withReplay _ start ?_, ?_, rfl, rfl, rfl, rfl, rfl, rfl⟩
        · intro indexed member
          rcases List.mem_append.mp ((ReplayRetention.window_suffix _ _ _).mem member) with old | new
          · exact chunks indexed old
          · rw [List.mem_singleton.mp new]
            rfl
        · exact (replayAfter_chunk kept unsealed chunk).symm
      · refine ⟨{ state with nextSeq := state.nextSeq + 1 }, ?_,
          ⟨chunks, chunkCount, byteCount⟩, ?_, rfl, rfl, rfl, rfl, rfl, rfl⟩
        · simp only [pushEvent, if_neg retained]
        · unfold replayAfter
          split
          · rename_i kept
            rw [if_neg fun stored => retained ⟨by simp [kept], stored.2⟩]
          · rfl

/-- Sealing empties the window. -/
theorem counted_sealReplay (state : BroadcastState Sender) : state.sealReplay.Counted :=
  ⟨fun _ member => absurd member List.not_mem_nil, rfl, rfl⟩

end BroadcastState

end TokioProcessTools.OutputStream.Backend.Broadcast
