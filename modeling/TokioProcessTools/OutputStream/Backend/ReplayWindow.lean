import TokioProcessTools.OutputStream.Backend.Broadcast.State
import TokioProcessTools.OutputStream.Backend.SingleSubscriber.State

/-!
# Both backends retain the same replay window

The two states are written independently. Over any sequence of chunks and seals
they hold the same chunks after every step, namely the window of the retention
over all chunks until replay is sealed and nothing from then on. The counters
are those of the window, and no step panics (`replay_windows_agree`).
-/

set_option autoImplicit false

namespace TokioProcessTools.OutputStream.Backend

open Foundation

/-- A step of the replay history: a chunk arrives, or replay is sealed. -/
inductive ReplayStep where
  | chunk (chunk : Chunk)
  | sealed
  deriving DecidableEq, Repr

/-- The size of a chunk. -/
def chunkSize (chunk : Chunk) : Nat := chunk.bytes.length

/-- What both backends should hold: the window over all chunks before the first seal, and nothing
from it on. -/
def expectedWindow (retention : ReplayRetention) (steps : List ReplayStep) : List Chunk :=
  if .sealed ∈ steps then []
  else retention.window chunkSize (steps.filterMap fun
    | .chunk chunk => some chunk
    | .sealed => none)

/-- A step of the broadcast state. -/
def broadcastStep {Sender : Type} (options : StreamConfig)
    (state : Broadcast.BroadcastState Sender) :
    ReplayStep → Checked (Broadcast.BroadcastState Sender)
  | .chunk chunk => do
      let (state, _) ← state.pushEvent (.chunk chunk) options
      .ok state
  | .sealed => .ok state.sealReplay

/-- A step of the single-subscriber state. -/
def singleStep (options : StreamConfig) (state : SingleSubscriber.ReplayState) :
    ReplayStep → Checked SingleSubscriber.ReplayState
  | .chunk chunk => do
      let (state, _) ← state.pushReplayEvent (.chunk chunk) options.replayRetention
      .ok state
  | .sealed => state.sealReplay options

section Invariant

variable {options : StreamConfig} {retention : ReplayRetention} {steps : List ReplayStep}

/-- What is kept of a further step. -/
theorem expectedWindow_snoc_chunk (unsealed : .sealed ∉ steps) (chunk : Chunk) :
    expectedWindow retention (steps ++ [.chunk chunk]) =
      retention.window chunkSize (expectedWindow retention steps ++ [chunk]) := by
  simp [expectedWindow, unsealed, ReplayRetention.window_snoc]

theorem expectedWindow_snoc_sealed (isSealed : .sealed ∈ steps) (step : ReplayStep) :
    expectedWindow retention (steps ++ [step]) = expectedWindow retention steps := by
  simp [expectedWindow, isSealed]

/-- The broadcast state after the given steps. -/
structure BroadcastHolds {Sender : Type} (retention : ReplayRetention) (steps : List ReplayStep)
    (state : Broadcast.BroadcastState Sender) : Prop where
  counted : state.Counted
  sealed_iff : state.replaySealed = true ↔ .sealed ∈ steps
  events : state.replay.map Broadcast.IndexedEvent.event =
    (expectedWindow retention steps).map StreamEvent.chunk

/-- The single-subscriber state after the given steps. -/
structure SingleHolds (retention : ReplayRetention) (steps : List ReplayStep)
    (state : SingleSubscriber.ReplayState) : Prop where
  counted : state.Counted
  sealed_iff : state.replaySealed = true ↔ .sealed ∈ steps
  events : state.events = (expectedWindow retention steps).map StreamEvent.chunk

/-- The window over the stored events is the window over their chunks. -/
theorem window_events {ε : Type} (size : ε → Nat) (event : ε → StreamEvent)
    (sizes : ∀ stored, size stored = (event stored).size) {stored : List ε} {chunks : List Chunk}
    (same : stored.map event = chunks.map StreamEvent.chunk) (retention : ReplayRetention) :
    (retention.window size stored).map event =
      (retention.window chunkSize chunks).map StreamEvent.chunk := by
  have first := ReplayRetention.window_map StreamEvent.size event retention stored
  have second := ReplayRetention.window_map StreamEvent.size StreamEvent.chunk retention chunks
  rw [show size = fun stored => (event stored).size from funext sizes, ← first, same, second]
  rfl

theorem BroadcastHolds.step {Sender : Type} {state : Broadcast.BroadcastState Sender}
    (kept : options.replayRetention = some retention) (nonZero : retention.NonZero)
    (holds : BroadcastHolds retention steps state) (step : ReplayStep) :
    ∃ next, broadcastStep options state step = .ok next ∧
      BroadcastHolds retention (steps ++ [step]) next := by
  cases step with
  | sealed =>
      refine ⟨_, rfl, state.counted_sealReplay, ?_, ?_⟩
      · simp [Broadcast.BroadcastState.sealReplay, Broadcast.BroadcastState.clearReplay]
      · simp [Broadcast.BroadcastState.sealReplay, Broadcast.BroadcastState.clearReplay,
          expectedWindow]
  | chunk chunk =>
      have admitted : ∀ retention ∈ options.replayRetention, retention.NonZero := by
        simpa [kept] using nonZero
      obtain ⟨next, pushed, effect⟩ :=
        Broadcast.BroadcastState.pushEvent_pushed holds.counted admitted (.chunk chunk)
      refine ⟨next, by simp only [broadcastStep, pushed, checked_ok_bind], effect.counted, ?_, ?_⟩
      · rw [effect.replaySealed, holds.sealed_iff]
        simp
      · rw [effect.replay]
        by_cases isSealed : ReplayStep.sealed ∈ steps
        · rw [Broadcast.BroadcastState.replayAfter_of_sealed _ _ (holds.sealed_iff.mpr isSealed),
            holds.events, expectedWindow_snoc_sealed isSealed]
        · have unsealed : state.replaySealed = false := by
            rw [← Bool.not_eq_true, holds.sealed_iff]
            exact isSealed
          rw [Broadcast.BroadcastState.replayAfter_chunk kept unsealed,
            expectedWindow_snoc_chunk isSealed]
          refine window_events Broadcast.IndexedEvent.size _ (fun _ => rfl) ?_ retention
          rw [List.map_append, List.map_append, holds.events]
          rfl

theorem SingleHolds.step {state : SingleSubscriber.ReplayState}
    (kept : options.replayRetention = some retention) (nonZero : retention.NonZero)
    (holds : SingleHolds retention steps state) (step : ReplayStep) :
    ∃ next, singleStep options state step = .ok next ∧
      SingleHolds retention (steps ++ [step]) next := by
  cases step with
  | sealed =>
      refine ⟨_, SingleSubscriber.ReplayState.sealReplay_eq holds.counted options,
        SingleSubscriber.ReplayState.counted_withEvents _ (by simp), ?_, ?_⟩
      · simp [SingleSubscriber.ReplayState.withEvents]
      · simp [SingleSubscriber.ReplayState.withEvents, expectedWindow]
  | chunk chunk =>
      have admitted : ∀ retention ∈ options.replayRetention, retention.NonZero := by
        simpa [kept] using nonZero
      obtain ⟨next, received, pushed, effect⟩ :=
        SingleSubscriber.ReplayState.pushReplayEvent_recorded holds.counted admitted (.chunk chunk)
      refine ⟨next, by simp only [singleStep, pushed, checked_ok_bind], effect.counted, ?_, ?_⟩
      · rw [effect.replaySealed, holds.sealed_iff]
        simp
      · rw [effect.events, kept]
        by_cases isSealed : ReplayStep.sealed ∈ steps
        · rw [SingleSubscriber.ReplayState.eventsAfter_of_sealed _ _
            (holds.sealed_iff.mpr isSealed), holds.events, expectedWindow_snoc_sealed isSealed]
        · have unsealed : state.replaySealed = false := by
            rw [← Bool.not_eq_true, holds.sealed_iff]
            exact isSealed
          rw [SingleSubscriber.ReplayState.eventsAfter_chunk retention unsealed,
            expectedWindow_snoc_chunk isSealed]
          have mapped := window_events StreamEvent.size id (fun _ => rfl)
            (show (state.events ++ [StreamEvent.chunk chunk]).map id =
                (expectedWindow retention steps ++ [chunk]).map StreamEvent.chunk by
              rw [List.map_id, List.map_append, holds.events]
              rfl) retention
          rwa [List.map_id] at mapped

end Invariant

/-! ## Whole histories -/

/-- The broadcast state over a history. -/
def runBroadcast (Sender : Type) (options : StreamConfig) (steps : List ReplayStep) :
    Checked (Broadcast.BroadcastState Sender) :=
  steps.foldlM (broadcastStep options) .new

/-- The single-subscriber state over a history. -/
def runSingle (options : StreamConfig) (steps : List ReplayStep) :
    Checked SingleSubscriber.ReplayState :=
  steps.foldlM (singleStep options) .new

section Histories

variable {options : StreamConfig} {retention : ReplayRetention}
  (kept : options.replayRetention = some retention) (nonZero : retention.NonZero)
include kept nonZero

theorem runBroadcast_holds (Sender : Type) (steps : List ReplayStep) :
    ∃ state, runBroadcast Sender options steps = .ok state ∧
      BroadcastHolds retention steps state := by
  induction steps using List.reverseRecOn with
  | nil =>
      refine ⟨.new, rfl, Broadcast.BroadcastState.counted_new, by
        simp [Broadcast.BroadcastState.new], ?_⟩
      cases retention <;> simp [expectedWindow, ReplayRetention.window, Broadcast.BroadcastState.new]
  | append_singleton steps step ih =>
      obtain ⟨state, ran, holds⟩ := ih
      obtain ⟨next, stepped, holds'⟩ := holds.step kept nonZero step
      refine ⟨next, ?_, holds'⟩
      unfold runBroadcast at ran ⊢
      rw [List.foldlM_append, ran, checked_ok_bind, List.foldlM_cons, stepped]
      rfl

theorem runSingle_holds (steps : List ReplayStep) :
    ∃ state, runSingle options steps = .ok state ∧ SingleHolds retention steps state := by
  induction steps using List.reverseRecOn with
  | nil =>
      refine ⟨.new, rfl, SingleSubscriber.ReplayState.counted_new, by
        simp [SingleSubscriber.ReplayState.new], ?_⟩
      cases retention <;>
        simp [expectedWindow, ReplayRetention.window, SingleSubscriber.ReplayState.new]
  | append_singleton steps step ih =>
      obtain ⟨state, ran, holds⟩ := ih
      obtain ⟨next, stepped, holds'⟩ := holds.step kept nonZero step
      refine ⟨next, ?_, holds'⟩
      unfold runSingle at ran ⊢
      rw [List.foldlM_append, ran, checked_ok_bind, List.foldlM_cons, stepped]
      rfl

end Histories

theorem totalSize_map_chunk (chunks : List Chunk) :
    ReplayRetention.totalSize StreamEvent.size (chunks.map StreamEvent.chunk) =
      ReplayRetention.totalSize chunkSize chunks :=
  ReplayRetention.totalSize_map StreamEvent.size StreamEvent.chunk chunks

/-- A recorded chunk is received by later subscribers exactly when the next snapshot has it. -/
theorem SingleHolds.received_iff {options : StreamConfig} {retention : ReplayRetention}
    {steps : List ReplayStep} {state : SingleSubscriber.ReplayState}
    (kept : options.replayRetention = some retention) (nonZero : retention.NonZero)
    (holds : SingleHolds retention steps state) (chunk : Chunk) :
    ∃ next received,
      state.pushReplayEvent (.chunk chunk) options.replayRetention = .ok (next, received) ∧
        (received = true ↔ .chunk chunk ∈ next.replaySnapshot options) := by
  have admitted : ∀ retention ∈ options.replayRetention, retention.NonZero := by
    simpa [kept] using nonZero
  obtain ⟨next, received, pushed, effect⟩ :=
    SingleSubscriber.ReplayState.pushReplayEvent_recorded holds.counted admitted (.chunk chunk)
  refine ⟨next, received, pushed, ?_⟩
  rw [effect.received, SingleSubscriber.ReplayState.replaySnapshot, effect.replaySealed, kept]
  by_cases isSealed : state.replaySealed = true
  · simp [isSealed]
  · have unsealed : state.replaySealed = false := by simpa using isSealed
    have member := ReplayRetention.mem_window_snoc StreamEvent.size nonZero state.events
      (.chunk chunk)
    rw [← SingleSubscriber.ReplayState.eventsAfter_chunk retention unsealed, ← kept,
      ← effect.events] at member
    simp [unsealed, StreamEvent.isChunk, SingleSubscriber.ReplayState.snapshotEvents, member]

/-- **Both backends retain the same window.** After every history, the two states hold the chunks
of the expected window, their counters are its length and its number of bytes, neither run has
panicked, and the next recorded chunk is reported as received exactly when a snapshot taken right
after it contains it. -/
theorem replay_windows_agree {options : StreamConfig} {retention : ReplayRetention}
    (kept : options.replayRetention = some retention) {parameterName : String}
    (admitted : retention.assertNonZero parameterName = .ok ()) (Sender : Type)
    (steps : List ReplayStep) :
    ∃ broadcast single,
      runBroadcast Sender options steps = .ok broadcast ∧
      runSingle options steps = .ok single ∧
      broadcast.replay.map Broadcast.IndexedEvent.event =
        (expectedWindow retention steps).map StreamEvent.chunk ∧
      single.events = (expectedWindow retention steps).map StreamEvent.chunk ∧
      broadcast.replayChunkCount = (expectedWindow retention steps).length ∧
      single.chunkCount = (expectedWindow retention steps).length ∧
      broadcast.replayByteCount =
        ReplayRetention.totalSize chunkSize (expectedWindow retention steps) ∧
      single.byteCount = ReplayRetention.totalSize chunkSize (expectedWindow retention steps) ∧
      ∀ chunk, ∃ next received,
        single.pushReplayEvent (.chunk chunk) options.replayRetention = .ok (next, received) ∧
          (received = true ↔ .chunk chunk ∈ next.replaySnapshot options) := by
  have nonZero := (ReplayRetention.assertNonZero_eq_ok _ _).mp admitted
  obtain ⟨broadcast, ranBroadcast, holdsBroadcast⟩ := runBroadcast_holds kept nonZero Sender steps
  obtain ⟨single, ranSingle, holdsSingle⟩ := runSingle_holds kept nonZero steps
  have length := congrArg List.length holdsBroadcast.events
  have bytes := congrArg (ReplayRetention.totalSize StreamEvent.size) holdsBroadcast.events
  rw [List.length_map, List.length_map] at length
  rw [totalSize_map_chunk, ReplayRetention.totalSize_map] at bytes
  refine ⟨broadcast, single, ranBroadcast, ranSingle, holdsBroadcast.events, holdsSingle.events,
    ?_, ?_, ?_, ?_, holdsSingle.received_iff kept nonZero⟩
  · rw [holdsBroadcast.counted.chunkCount, length]
  · rw [holdsSingle.counted.chunkCount, holdsSingle.events, List.length_map]
  · rw [holdsBroadcast.counted.byteCount, ← bytes]
    rfl
  · rw [holdsSingle.counted.byteCount, holdsSingle.events, totalSize_map_chunk]

/-- Five bytes are asked for: the last two of three chunks of three bytes are kept. -/
theorem replay_windows_agree_last_bytes :
    ∃ broadcast single,
      runBroadcast Unit { replayRetention := some (.lastBytes ⟨5⟩) }
          [.chunk ⟨[1, 2, 3], 0⟩, .chunk ⟨[4, 5, 6], 3⟩, .chunk ⟨[7, 8, 9], 6⟩] = .ok broadcast ∧
      runSingle { replayRetention := some (.lastBytes ⟨5⟩) }
          [.chunk ⟨[1, 2, 3], 0⟩, .chunk ⟨[4, 5, 6], 3⟩, .chunk ⟨[7, 8, 9], 6⟩] = .ok single ∧
      broadcast.replay.map Broadcast.IndexedEvent.event =
        [.chunk ⟨[4, 5, 6], 3⟩, .chunk ⟨[7, 8, 9], 6⟩] ∧
      single.events = [.chunk ⟨[4, 5, 6], 3⟩, .chunk ⟨[7, 8, 9], 6⟩] := by
  obtain ⟨broadcast, single, ranBroadcast, ranSingle, events, events', _⟩ :=
    @replay_windows_agree { replayRetention := some (.lastBytes ⟨5⟩) } (.lastBytes ⟨5⟩) rfl
      "replay_retention" rfl Unit
      [.chunk ⟨[1, 2, 3], 0⟩, .chunk ⟨[4, 5, 6], 3⟩, .chunk ⟨[7, 8, 9], 6⟩]
  exact ⟨broadcast, single, ranBroadcast, ranSingle, events.trans (by decide),
    events'.trans (by decide)⟩

end TokioProcessTools.OutputStream.Backend
