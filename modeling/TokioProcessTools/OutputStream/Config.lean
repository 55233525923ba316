import TokioProcessTools.Foundation.Checked
import TokioProcessTools.Foundation.SuffixWindow

/-!
# Configuration of an output stream

The delivery guarantee and the replay retention of a stream, and the checks its
constructor makes. A `ValidConfig` is a configuration that passed them, so a
backend can only be built with room for a chunk and with a retention that keeps
something.

`ReplayRetention.window` says which events a retention keeps. It is stated over
any type of events with a size; the two backends store different ones.
-/

set_option autoImplicit false

namespace TokioProcessTools.OutputStream

open Foundation

/-- A number of bytes (`NumBytes`). -/
structure NumBytes where
  bytes : Nat
  deriving DecidableEq, Repr

/-- `NumBytes::assert_non_zero`. -/
def NumBytes.assertNonZero (count : NumBytes) (parameterName : String) : Checked Unit :=
  if 0 < count.bytes then .ok ()
  else .error (.assertionFailed (parameterName ++ " must be greater than zero bytes"))

/-- `DeliveryGuarantee`. -/
inductive DeliveryGuarantee where
  | lossyWithoutBackpressure
  | reliableWithBackpressure
  deriving DecidableEq, Repr

/-! ## Replay retention -/

/-- `ReplayRetention`. -/
inductive ReplayRetention where
  | lastChunks (chunks : Nat)
  | lastBytes (bytes : NumBytes)
  | all
  deriving DecidableEq, Repr

namespace ReplayRetention

/-- `ReplayRetention::assert_non_zero`. -/
def assertNonZero (parameterName : String) : ReplayRetention → Checked Unit
  | .lastChunks 0 => .error (.panicked (parameterName ++ " must retain at least one chunk"))
  | .lastBytes ⟨0⟩ => .error (.panicked (parameterName ++ " must retain at least one byte"))
  | .lastChunks (_ + 1) | .lastBytes ⟨_ + 1⟩ | .all => .ok ()

/-- The retention keeps something. -/
def NonZero : ReplayRetention → Prop
  | .lastChunks chunks => 0 < chunks
  | .lastBytes bytes => 0 < bytes.bytes
  | .all => True

theorem assertNonZero_eq_ok (parameterName : String) (retention : ReplayRetention) :
    retention.assertNonZero parameterName = .ok () ↔ retention.NonZero := by
  match retention with
  | .lastChunks 0 | .lastBytes ⟨0⟩ => simp [assertNonZero, NonZero]
  | .lastChunks (_ + 1) | .lastBytes ⟨_ + 1⟩ | .all => simp [assertNonZero, NonZero]

section Window

variable {ε : Type}

/-- The size of a list of events. -/
def totalSize (size : ε → Nat) : List ε → Nat
  | [] => 0
  | event :: rest => size event + totalSize size rest

@[simp] theorem totalSize_nil (size : ε → Nat) : totalSize size [] = 0 := rfl

@[simp] theorem totalSize_cons (size : ε → Nat) (event : ε) (rest : List ε) :
    totalSize size (event :: rest) = size event + totalSize size rest := rfl

@[simp] theorem totalSize_append (size : ε → Nat) (first second : List ε) :
    totalSize size (first ++ second) = totalSize size first + totalSize size second := by
  induction first with
  | nil => simp
  | cons event rest ih => rw [List.cons_append, totalSize_cons, totalSize_cons, ih, Nat.add_assoc]

/-- One event in place of another. -/
theorem totalSize_set (size : ε → Nat) {events : List ε} {position : Nat} {event : ε}
    (found : events[position]? = some event) (changed : ε) :
    totalSize size (events.set position changed) + size event =
      totalSize size events + size changed := by
  induction events generalizing position with
  | nil => cases found
  | cons first rest ih =>
      cases position with
      | zero =>
          cases found
          rw [List.set_cons_zero, totalSize_cons, totalSize_cons]
          omega
      | succ position =>
          have later := ih found
          rw [List.set_cons_succ, totalSize_cons, totalSize_cons]
          omega

theorem totalSize_map {δ : Type} (size : δ → Nat) (image : ε → δ) (events : List ε) :
    totalSize size (events.map image) = totalSize (fun event => size (image event)) events := by
  induction events with
  | nil => rfl
  | cons event rest ih => rw [List.map_cons, totalSize_cons, totalSize_cons, ih]

/-- What a retention keeps of all events: all of them, the last ones, or the shortest suffix of at
least the given size. -/
def window (size : ε → Nat) (events : List ε) : ReplayRetention → List ε
  | .all => events
  | .lastChunks chunks => events.drop (events.length - chunks)
  | .lastBytes bytes => shortestSuffix (fun suffix => bytes.bytes ≤ totalSize size suffix) events

theorem window_suffix (size : ε → Nat) (events : List ε) (retention : ReplayRetention) :
    retention.window size events <:+ events := by
  cases retention with
  | all => exact List.suffix_refl events
  | lastChunks chunks => exact List.drop_suffix _ _
  | lastBytes bytes => exact shortestSuffix_suffix events

theorem totalSize_longer (size : ε → Nat) (bound : Nat) (first : ε) (rest : List ε)
    (enough : bound ≤ totalSize size rest) : bound ≤ totalSize size (first :: rest) := by
  rw [totalSize_cons]
  omega

@[simp] theorem window_nil (size : ε → Nat) (retention : ReplayRetention) :
    retention.window size [] = [] :=
  List.suffix_nil.mp (window_suffix size [] retention)

/-- The window over the last bytes covers as many as there are. -/
theorem min_le_totalSize_window (size : ε → Nat) (bytes : NumBytes) (events : List ε) :
    min bytes.bytes (totalSize size events) ≤
      totalSize size ((lastBytes bytes).window size events) := by
  have covered : bytes.bytes ≤ totalSize size ((lastBytes bytes).window size events) ∨
      (lastBytes bytes).window size events = events :=
    @shortestSuffix_holds_or_whole _ (fun suffix => bytes.bytes ≤ totalSize size suffix) _ events
  rcases covered with enough | whole
  · exact Nat.le_trans (Nat.min_le_left _ _) enough
  · rw [whole]
    exact Nat.min_le_right _ _

/-- A retention that keeps something keeps the last event. -/
theorem mem_window_snoc (size : ε → Nat) {retention : ReplayRetention}
    (nonZero : retention.NonZero) (events : List ε) (event : ε) :
    event ∈ retention.window size (events ++ [event]) := by
  have some : retention.window size (events ++ [event]) ≠ [] := by
    cases retention with
    | all => simp [window]
    | lastChunks chunks =>
        have positive : 0 < chunks := nonZero
        rw [window, ne_eq, List.drop_eq_nil_iff, List.length_append, List.length_singleton]
        omega
    | lastBytes bytes =>
        exact shortestSuffix_ne_nil (totalSize_longer size bytes.bytes)
          (Nat.not_le.mpr nonZero) (by simp)
  obtain ⟨front, whole⟩ := window_suffix size (events ++ [event]) retention
  have last := congrArg List.getLast? whole
  rw [List.getLast?_append_of_ne_nil _ some, List.getLast?_concat] at last
  exact List.mem_of_getLast? last

/-- **A window is maintained by trimming.** It is enough to keep the old window and the new
event. -/
theorem window_snoc (size : ε → Nat) (retention : ReplayRetention) (events : List ε) (event : ε) :
    retention.window size (retention.window size events ++ [event]) =
      retention.window size (events ++ [event]) := by
  cases retention with
  | all => rfl
  | lastChunks chunks =>
      simp only [window, ← shortestSuffix_length]
      refine shortestSuffix_snoc (fun _ _ fits => Nat.le_succ_of_le fits) ?_ events event
      intro suffix last fits
      rw [List.length_append]
      omega
  | lastBytes bytes =>
      refine shortestSuffix_snoc (totalSize_longer size bytes.bytes) ?_ events event
      intro suffix last fits
      rw [totalSize_append]
      omega

/-- The window of a mapped list. -/
theorem window_map {δ : Type} (size : δ → Nat) (image : ε → δ) (retention : ReplayRetention)
    (events : List ε) :
    retention.window size (events.map image) =
      (retention.window (fun event => size (image event)) events).map image := by
  cases retention with
  | all => rfl
  | lastChunks chunks => simp only [window, List.length_map, List.map_drop]
  | lastBytes bytes =>
      simp only [window, shortestSuffix_map, totalSize_map]

end Window

end ReplayRetention

/-! ## The configuration -/

/-- `assert_max_buffered_chunks_non_zero`. -/
def assertMaxBufferedChunksNonZero (chunks : Nat) (parameterName : String) : Checked Unit :=
  if 0 < chunks then .ok ()
  else .error (.assertionFailed (parameterName ++ " must be greater than zero"))

/-- `StreamConfig`, with the runtime form of its two policy parameters. -/
structure StreamConfig where
  readChunkSize : NumBytes := ⟨16 * 1024⟩
  maxBufferedChunks : Nat := 128
  deliveryGuarantee : DeliveryGuarantee := .lossyWithoutBackpressure
  replayRetention : Option ReplayRetention := none
  deriving DecidableEq, Repr

/-- `StreamConfig::assert_valid`. -/
def StreamConfig.assertValid (config : StreamConfig) (parameterName : String) : Checked Unit := do
  config.readChunkSize.assertNonZero (parameterName ++ ".read_chunk_size")
  assertMaxBufferedChunksNonZero config.maxBufferedChunks (parameterName ++ ".max_buffered_chunks")
  match config.replayRetention with
  | some retention => retention.assertNonZero (parameterName ++ ".replay_retention")
  | none => .ok ()

/-- A configuration that passed the checks of the stream's constructor. -/
structure ValidConfig extends StreamConfig where
  readChunkSize_pos : 0 < readChunkSize.bytes
  maxBufferedChunks_pos : 0 < maxBufferedChunks
  retention_nonZero : ∀ retention ∈ replayRetention, retention.NonZero

theorem nonZero_none : ∀ retention ∈ (none : Option ReplayRetention), retention.NonZero := nofun

theorem nonZero_all : ∀ retention ∈ some ReplayRetention.all, retention.NonZero := by
  simp [ReplayRetention.NonZero]

/-- **The constructor's check builds exactly the valid configurations.** -/
theorem assertValid_eq_ok (config : StreamConfig) (parameterName : String) :
    config.assertValid parameterName = .ok () ↔
      ∃ valid : ValidConfig, valid.toStreamConfig = config := by
  unfold StreamConfig.assertValid NumBytes.assertNonZero assertMaxBufferedChunksNonZero
  constructor
  · intro passed
    by_cases sized : 0 < config.readChunkSize.bytes
    · by_cases buffered : 0 < config.maxBufferedChunks
      · rw [if_pos sized, if_pos buffered, checked_ok_bind, checked_ok_bind] at passed
        refine ⟨⟨config, sized, buffered, fun retention member => ?_⟩, rfl⟩
        rw [Option.mem_def] at member
        rw [member] at passed
        exact (ReplayRetention.assertNonZero_eq_ok _ _).mp passed
      · rw [if_pos sized, if_neg buffered] at passed
        cases passed
    · rw [if_neg sized] at passed
      cases passed
  · rintro ⟨⟨config, sized, buffered, nonZero⟩, rfl⟩
    simp only [if_pos sized, if_pos buffered, checked_ok_bind]
    cases kept : config.replayRetention with
    | none => rfl
    | some retention => exact (ReplayRetention.assertNonZero_eq_ok _ _).mpr (nonZero _ kept)

end TokioProcessTools.OutputStream
