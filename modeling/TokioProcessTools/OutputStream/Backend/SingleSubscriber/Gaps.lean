import TokioProcessTools.Foundation.Tiling
import TokioProcessTools.OutputStream.Backend.SingleSubscriber.Lag

/-!
# Announced losses

What was sent to a lossy subscriber tiles a stretch of the source. A chunk accounts
for its own bytes, a gap for bytes that were given up, and the terminal event for
nothing. While the subscription is open, the stretch ends where the reader stands,
except for the bytes it has in hand for the subscriber and for those it still owes
a gap for.

What the subscriber receives is read off this tiling.
-/

set_option autoImplicit false

namespace TokioProcessTools.OutputStream.Backend.SingleSubscriber

open Foundation

/-- The stretch of the source an event accounts for. -/
def Covers (source : List UInt8) : StreamEvent → Nat → Nat → Prop
  | .chunk chunk, first, last => chunk.bytes ≠ [] ∧
      (source.drop chunk.offset).take chunk.bytes.length = chunk.bytes ∧
      chunk.offset = first ∧ chunk.endOffset = last
  | .gap, first, last => first < last
  | .eof, first, last | .readError _, first, last => first = last

section Covers

variable {source : List UInt8} {event : StreamEvent} {first last : Nat}

theorem Covers.le (covers : Covers source event first last) : first ≤ last := by
  cases event with
  | chunk chunk =>
      obtain ⟨_, _, rfl, rfl⟩ := covers
      exact Nat.le_add_right _ _
  | gap => exact Nat.le_of_lt covers
  | eof => exact Nat.le_of_eq covers
  | readError error => exact Nat.le_of_eq covers

theorem covers_terminal (terminal : event.isTerminal = true) (position : Nat) :
    Covers source event position position := by
  cases event with
  | chunk chunk => cases terminal
  | gap => cases terminal
  | eof => rfl
  | readError error => rfl

theorem Covers.eq_of_terminal (covers : Covers source event first last)
    (terminal : event.isTerminal = true) : first = last := by
  cases event with
  | chunk chunk => cases terminal
  | gap => cases terminal
  | eof => exact covers
  | readError error => exact covers

/-- Bytes that were read stay where they are. -/
theorem Covers.append (covers : Covers source event first last) (more : List UInt8) :
    Covers (source ++ more) event first last := by
  cases event with
  | chunk chunk =>
      obtain ⟨nonempty, stretch, starts, ends⟩ := covers
      refine ⟨nonempty, ?_, starts, ends⟩
      have length := congrArg List.length stretch
      rw [List.length_take, List.length_drop] at length
      have positive : 0 < chunk.bytes.length := List.length_pos_of_ne_nil nonempty
      have inside : chunk.offset ≤ source.length := by omega
      have fits : chunk.bytes.length ≤ (source.drop chunk.offset).length := by
        rw [List.length_drop]
        omega
      rw [List.drop_append_of_le_length inside, List.take_append_of_le_length fits]
      exact stretch
  | gap => exact covers
  | eof => exact covers
  | readError error => exact covers

end Covers

/-! ## What the reader owes a subscriber -/

/-- A gap is pending for the subscriber. -/
def Reader.Owes (reader : Reader) (handle : Handle) : Prop :=
  reader.lag.gapPending = true ∧ reader.lag.subscriberId = some handle

/-- The number of bytes the reader has in hand for the subscriber. -/
def Reader.due (reader : Reader) (activeTx : Option ActiveSubscriber) (handle : Handle) : Nat :=
  match reader.place with
  | .record event => event.size
  | .sending (.chunk attempt) =>
      if reader.cachedActive = some ⟨handle, handle⟩ ∨ attempt.Repeats activeTx handle then
        attempt.event.size
      else 0
  | .clearing (.chunk attempt) _ | .refreshing (.chunk attempt) =>
      if attempt.Repeats activeTx handle then attempt.event.size else 0
  | _ => 0

/-- The stretch up to `last` is accounted for, the bytes in hand are not, and in between is what the
reader owes a gap for. -/
def Balances (owes : Prop) (last due position : Nat) : Prop :=
  (owes → last + due < position) ∧ (¬ owes → last + due = position)

/-- The reader's account with one subscriber. -/
def Reader.Balanced (reader : Reader) (activeTx : Option ActiveSubscriber) (handle : Handle)
    (last : Nat) : Prop :=
  Balances (reader.Owes handle) last (reader.due activeTx handle) reader.position

section Reader

variable {options : StreamConfig} {reader : Reader} {activeTx : Option ActiveSubscriber}
  {handle : Handle} {last : Nat} {attempt : Attempt}

theorem Balances.clear {owes : Prop} {due position : Nat} (clear : ¬ owes)
    (sum : last + due = position) : Balances owes last due position :=
  ⟨fun owed => absurd owed clear, fun _ => sum⟩

/-- What is accounted for and what is in hand is in front of the position. -/
theorem Balances.due_le {owes : Prop} {due position : Nat}
    (balances : Balances owes last due position) : last + due ≤ position := by
  by_cases owed : owes
  · exact Nat.le_of_lt (balances.1 owed)
  · exact Nat.le_of_eq (balances.2 owed)

theorem Reader.not_owes_of_clear (clear : reader.lag.gapPending = false) :
    ¬ reader.Owes handle := by
  rintro ⟨pending, _⟩
  rw [clear] at pending
  cases pending

/-- Observing the subscriber a gap is owed to changes nothing. -/
theorem observe_owes
    (copy : reader.Owes handle → reader.cachedActive.map ActiveSubscriber.id = some handle) :
    reader.observe.Owes handle ↔ reader.Owes handle := by
  constructor
  · rintro ⟨pending, known⟩
    obtain ⟨before, same⟩ := of_observe_gapPending pending
    rw [observe_subscriberId, ← same] at known
    exact ⟨before, known⟩
  · intro owes
    have same : reader.observe = reader := by
      simp only [Reader.observe, BestEffortLag.observeActive]
      rw [if_neg (by simp [owes.2, copy owes])]
    rw [same]
    exact owes

/-- A gap is owed to the subscriber the reader works with. -/
theorem Reader.PendingForCopy.copy (pending : reader.PendingForCopy) (owes : reader.Owes handle) :
    reader.cachedActive.map ActiveSubscriber.id = some handle := by
  obtain ⟨active, cached, known⟩ := pending owes.1
  rw [cached, ← owes.2, known]
  rfl

theorem splitChunk_balanced
    (balanced : Balances (reader.Owes handle) last 0 reader.position) :
    (reader.splitChunk options).Balanced activeTx handle last := by
  obtain ⟨owed, even⟩ := balanced
  constructor
  · intro owes
    have before := owed owes
    simp only [Reader.due, Reader.splitChunk, StreamEvent.size]
    omega
  · intro clear
    have before := even clear
    simp only [Reader.due, Reader.splitChunk, StreamEvent.size]
    omega

/-- The head of the loop over the buffer, with nothing in hand. -/
theorem nextChunk_balanced
    (copy : reader.Owes handle → reader.cachedActive.map ActiveSubscriber.id = some handle)
    (balanced : Balances (reader.Owes handle) last 0 reader.position) :
    (reader.nextChunk options).Balanced activeTx handle last := by
  have same := observe_owes copy
  have observed : Balances (reader.observe.Owes handle) last 0
      reader.observe.position := by
    rw [same]
    exact balanced
  unfold Reader.nextChunk
  split
  · exact balanced
  · split
    · exact splitChunk_balanced balanced
    · dsimp only
      split
      · split
        · rename_i owed none
          have again : reader.observe.Owes handle →
              reader.observe.cachedActive.map ActiveSubscriber.id = some handle :=
            fun owes => copy (same.mp owes)
          apply splitChunk_balanced
          rw [observe_owes again]
          exact observed
        · exact observed
      · exact splitChunk_balanced observed

theorem afterEvent_balanced (terminal : attempt.event.isTerminal = true)
    (balanced : Balances (reader.Owes handle) last 0 reader.position) :
    (reader.afterEvent options attempt.event).Balanced activeTx handle last := by
  unfold Reader.afterEvent
  rw [if_pos terminal]
  exact balanced

theorem startDeliver_balanced (terminal : attempt.event.isTerminal = true)
    (balanced : Balances (reader.Owes handle) last 0 reader.position) :
    (reader.startDeliver options attempt).Balanced activeTx handle last := by
  unfold Reader.startDeliver
  split
  · exact afterEvent_balanced terminal balanced
  · exact balanced

theorem startTrySend_balanced (cached : reader.cachedActive = some ⟨handle, handle⟩)
    (balanced : Balances (reader.Owes handle) last attempt.event.size
      reader.position) :
    (reader.startTrySend options attempt).Balanced activeTx handle last := by
  have due : (reader.startTrySend options attempt).due activeTx handle = attempt.event.size := by
    simp only [Reader.startTrySend, cached, Reader.due]
    exact if_pos (.inl trivial)
  rw [Reader.Balanced, due]
  simp only [Reader.startTrySend, cached]
  exact balanced

theorem startFlush_balanced (terminal : attempt.event.isTerminal = true)
    (cached : reader.cachedActive = some ⟨handle, handle⟩)
    (balanced : Balances (reader.Owes handle) last 0 reader.position) :
    (reader.startFlush options attempt).Balanced activeTx handle last := by
  simp only [Reader.startFlush, cached]
  split
  · exact balanced
  · exact startDeliver_balanced terminal balanced

/-- An event is recorded, with the subscriber as fresh copy. -/
theorem afterRecord_balanced (lossy : options.deliveryGuarantee = .lossyWithoutBackpressure)
    (cached : reader.cachedActive = some ⟨handle, handle⟩)
    (balanced : Balances (reader.Owes handle) last attempt.event.size
      reader.position) :
    (reader.afterRecord options attempt).Balanced activeTx handle last := by
  simp only [Reader.afterRecord, lossy]
  split
  · rename_i terminal
    have observed : reader.observe.cachedActive = some ⟨handle, handle⟩ := cached
    apply startFlush_balanced terminal observed
    rw [StreamEvent.size_of_isTerminal terminal] at balanced
    rw [observe_owes fun _ => congrArg (Option.map ActiveSubscriber.id) cached]
    exact balanced
  · exact startTrySend_balanced cached balanced

theorem afterRead_balanced {streamName : String}
    (copy : reader.Owes handle → reader.cachedActive.map ActiveSubscriber.id = some handle)
    (balanced : Balances (reader.Owes handle) last 0 reader.position)
    (result : ReadResult) :
    (reader.afterRead streamName options result).Balanced activeTx handle last := by
  cases result with
  | data => exact nextChunk_balanced copy balanced
  | eof => exact balanced
  | failed error => exact balanced

variable {served : Handle → Prop} {shared : ReplayState} {log : List StreamEvent}
  {source : List UInt8} {purpose : Purpose}

/-- What is sent to the subscriber accounts for all up to the reader's position. -/
theorem sent_covers (lossy : options.deliveryGuarantee = .lossyWithoutBackpressure)
    (coherent : PurposeCoherent options shared log source reader purpose)
    (lag : LagCoherent served reader) (here : reader.place = .sending purpose)
    (cached : reader.cachedActive = some ⟨handle, handle⟩)
    (balanced : reader.Balanced activeTx handle last) :
    Covers source purpose.event last reader.position := by
  have place := lag.place
  rw [here] at place
  have owes : reader.lag.gapPending = true → reader.Owes handle := by
    intro owed
    obtain ⟨active, copy, known⟩ := lag.pending owed
    cases cached.symm.trans copy
    exact ⟨owed, known⟩
  unfold Reader.Balanced at balanced
  cases purpose with
  | gap =>
      have below := balanced.1 (owes place)
      simp only [Reader.due, here] at below
      exact below
  | chunk attempt =>
      have sum := balanced.2 (Reader.not_owes_of_clear place.1)
      simp only [Reader.due, here] at sum
      rw [if_pos (.inl cached)] at sum
      obtain ⟨_, isChunk, carries⟩ := coherent
      rcases carries.kind with ⟨chunk, event, inHand, _⟩ | ⟨terminal, _⟩
      · rw [event] at sum
        have ends : chunk.offset + chunk.bytes.length = reader.position := inHand.behind
        have size : last + chunk.bytes.length = reader.position := sum
        rw [Purpose.event, event]
        exact ⟨inHand.nonempty, inHand.stretch, by omega, inHand.behind⟩
      · rw [StreamEvent.isTerminal_of_isChunk isChunk] at terminal
        cases terminal
  | flush attempt =>
      have below := balanced.1 (owes place)
      simp only [Reader.due, here] at below
      exact below
  | deliver attempt =>
      have sum := balanced.2 (Reader.not_owes_of_clear place)
      simp only [Reader.due, here] at sum
      rw [show last = reader.position from sum]
      exact covers_terminal (coherent.1.resolve_left (by simp [lossy])) _

theorem afterSent_balanced (lossy : options.deliveryGuarantee = .lossyWithoutBackpressure)
    (coherent : PurposeCoherent options shared log source reader purpose)
    (lag : LagCoherent served reader) (here : reader.place = .sending purpose) :
    (reader.afterSent options purpose).Balanced activeTx handle reader.position := by
  have place := lag.place
  rw [here] at place
  cases purpose with
  | gap => exact splitChunk_balanced (.clear (Reader.not_owes_of_clear rfl) rfl)
  | chunk attempt =>
      have clear : ¬ { reader with lag := reader.lag.logIfLagged }.Owes handle :=
        Reader.not_owes_of_clear place.1
      exact nextChunk_balanced (fun owes => absurd owes clear) (.clear clear rfl)
  | flush attempt =>
      obtain ⟨_, terminal, _⟩ := coherent
      exact startDeliver_balanced terminal (.clear (Reader.not_owes_of_clear rfl) rfl)
  | deliver attempt =>
      have terminal := coherent.1.resolve_left (by simp [lossy])
      exact afterEvent_balanced terminal (.clear (Reader.not_owes_of_clear place) rfl)

/-- What is given up is owed a gap. -/
theorem afterFull_balanced (lag : LagCoherent served reader)
    (coherent : PurposeCoherent options shared log source reader purpose)
    (here : reader.place = .sending purpose)
    (cached : reader.cachedActive = some ⟨handle, handle⟩) (known : served handle)
    (balanced : reader.Balanced activeTx handle last) {next : Reader}
    (full : reader.afterFull options purpose = some next) :
    next.Balanced activeTx handle last := by
  have place := lag.place
  rw [here] at place
  unfold Reader.Balanced at balanced
  cases purpose with
  | gap =>
      obtain ⟨active, copy, id⟩ := lag.pending place
      cases cached.symm.trans copy
      have below := balanced.1 ⟨place, id⟩
      simp only [Reader.due, here] at below
      cases full
      refine ⟨fun _ => ?_, fun clear => absurd ⟨place, id⟩ clear⟩
      exact Nat.lt_add_right _ below
  | chunk attempt =>
      have sum := balanced.2 (Reader.not_owes_of_clear place.1)
      simp only [Reader.due, here] at sum
      rw [if_pos (.inl cached)] at sum
      have id := place.2 ⟨handle, handle⟩ cached known
      obtain ⟨_, isChunk, carries⟩ := coherent
      have positive : 0 < attempt.event.size := by
        rcases carries.kind with ⟨chunk, event, inHand, _⟩ | ⟨terminal, _⟩
        · rw [event]
          exact List.length_pos_of_ne_nil inHand.nonempty
        · rw [StreamEvent.isTerminal_of_isChunk isChunk] at terminal
          cases terminal
      cases full
      refine ⟨fun _ => ?_, fun clear => absurd ⟨rfl, id⟩ clear⟩
      exact Nat.lt_of_lt_of_eq (Nat.add_lt_add_left positive last) sum
  | flush attempt => cases full
  | deliver attempt => cases full

/-- Behind the refresh that follows a failed send, with the subscriber as fresh copy. -/
theorem afterRefresh_balanced (lossy : options.deliveryGuarantee = .lossyWithoutBackpressure)
    (coherent : PurposeCoherent options shared log source reader purpose)
    (here : reader.place = .refreshing purpose)
    (cached : reader.cachedActive = some ⟨handle, handle⟩)
    (active : activeTx = some ⟨handle, handle⟩) (clear : ¬ reader.Owes handle)
    (balanced : reader.Balanced activeTx handle last) :
    (reader.afterRefresh options purpose).Balanced activeTx handle last := by
  have sum := balanced.2 clear
  have observed : ¬ reader.observe.Owes handle := by
    rw [observe_owes fun owes => absurd owes clear]
    exact clear
  cases purpose with
  | gap =>
      simp only [Reader.due, here] at sum
      exact splitChunk_balanced (.clear observed sum)
  | chunk attempt =>
      simp only [Reader.due, here] at sum
      simp only [Reader.afterRefresh]
      split
      · rename_i exceeds
        rw [if_neg] at sum
        · exact nextChunk_balanced (fun owes => absurd owes observed) (.clear observed sum)
        · rintro ⟨unrecorded, unretried, _⟩
          simp [unrecorded, unretried] at exceeds
      · rename_i again
        have repeats : attempt.Repeats activeTx handle := by
          refine ⟨?_, ?_, active⟩
          · simpa using fun recorded => again (.inl recorded)
          · simpa using fun retried => again (.inr retried)
        rw [if_pos repeats] at sum
        exact startTrySend_balanced cached (.clear clear sum)
  | flush attempt =>
      obtain ⟨_, terminal, _⟩ := coherent
      simp only [Reader.due, here] at sum
      exact startDeliver_balanced terminal (.clear observed sum)
  | deliver attempt =>
      have terminal := coherent.1.resolve_left (by simp [lossy])
      simp only [Reader.due, here] at sum
      simp only [Reader.afterRefresh]
      split
      · exact afterEvent_balanced terminal (.clear clear sum)
      · exact startDeliver_balanced terminal (.clear clear sum)

/-- A failed send to another subscriber. -/
theorem failed_balanced (here : reader.place = .sending purpose)
    (other : reader.cachedActive ≠ some ⟨handle, handle⟩) (active : ActiveSubscriber)
    (balanced : reader.Balanced activeTx handle last) :
    { reader with place := .clearing purpose active }.Balanced activeTx handle last := by
  have same : { reader with place := .clearing purpose active }.due activeTx handle =
      reader.due activeTx handle := by
    cases purpose with
    | chunk attempt => simp only [Reader.due, here, other, false_or]
    | _ => simp only [Reader.due, here]
  rw [Reader.Balanced, same]
  exact balanced

theorem cleared_balanced {active : ActiveSubscriber} (here : reader.place = .clearing purpose active)
    (balanced : reader.Balanced activeTx handle last) :
    { reader with place := .refreshing purpose }.Balanced activeTx handle last := by
  have same : { reader with place := .refreshing purpose }.due activeTx handle =
      reader.due activeTx handle := by
    cases purpose <;> simp only [Reader.due, here]
  rw [Reader.Balanced, same]
  exact balanced

/-- The bytes in hand are in front of the position. -/
theorem due_le (coherent : ReaderCoherent options shared log source reader) :
    reader.due activeTx handle ≤ reader.position := by
  have hand : ∀ {chunk : Chunk}, InHand source reader.position chunk →
      (StreamEvent.chunk chunk).size ≤ reader.position := by
    intro chunk inHand
    rw [← inHand.behind]
    exact Nat.le_add_left _ _
  have carried : ∀ {attempt : Attempt},
      Carries options shared log source reader.position reader.buffer attempt →
        attempt.event.size ≤ reader.position := by
    intro attempt carries
    rcases carries.kind with ⟨chunk, event, inHand, _⟩ | ⟨terminal, _⟩
    · rw [event]
      exact hand inHand
    · rw [StreamEvent.size_of_isTerminal terminal]
      exact Nat.zero_le _
  have place := coherent.place
  unfold Reader.due
  split
  · rename_i here
    rw [here] at place
    rcases place.2 with ⟨chunk, rfl, inHand⟩ | ⟨terminal, _⟩
    · exact hand inHand
    · rw [StreamEvent.size_of_isTerminal terminal]
      exact Nat.zero_le _
  · rename_i here
    rw [here] at place
    split
    · exact carried place.2.2
    · exact Nat.zero_le _
  · rename_i here
    rw [here] at place
    split
    · exact carried place.2.2
    · exact Nat.zero_le _
  · rename_i here
    rw [here] at place
    split
    · exact carried place.2.2
    · exact Nat.zero_le _
  · exact Nat.zero_le _

end Reader

/-! ## The reader moves forward -/

section Position

variable {streamName : String} {options : StreamConfig} {state next : StreamState}

theorem splitChunk_position_le (reader : Reader) :
    reader.position ≤ (reader.splitChunk options).position := Nat.le_add_right _ _

theorem nextChunk_position_le (reader : Reader) :
    reader.position ≤ (reader.nextChunk options).position := by
  unfold Reader.nextChunk
  split
  · exact Nat.le_refl _
  · split
    · exact splitChunk_position_le reader
    · dsimp only
      split
      · split
        · exact splitChunk_position_le reader.observe.observe
        · exact Nat.le_refl _
      · exact splitChunk_position_le reader.observe

theorem afterEvent_position_le (reader : Reader) (event : StreamEvent) :
    reader.position ≤ (reader.afterEvent options event).position := by
  unfold Reader.afterEvent
  split
  · exact Nat.le_refl _
  · exact nextChunk_position_le reader

theorem startDeliver_position_le (reader : Reader) (attempt : Attempt) :
    reader.position ≤ (reader.startDeliver options attempt).position := by
  unfold Reader.startDeliver
  split
  · exact afterEvent_position_le reader attempt.event
  · exact Nat.le_refl _

theorem startTrySend_position_le (reader : Reader) (attempt : Attempt) :
    reader.position ≤ (reader.startTrySend options attempt).position := by
  unfold Reader.startTrySend
  split
  · exact nextChunk_position_le reader.observe
  · exact Nat.le_refl _

theorem startFlush_position_le (reader : Reader) (attempt : Attempt) :
    reader.position ≤ (reader.startFlush options attempt).position := by
  unfold Reader.startFlush
  split
  · split
    · exact startDeliver_position_le { reader with lag := reader.lag.observeActive none } attempt
    · exact Nat.le_refl _
  · exact startDeliver_position_le reader attempt

theorem afterRecord_position_le (reader : Reader) (attempt : Attempt) :
    reader.position ≤ (reader.afterRecord options attempt).position := by
  unfold Reader.afterRecord
  split
  · exact startDeliver_position_le reader attempt
  · split
    · exact startFlush_position_le reader.observe attempt
    · exact startTrySend_position_le reader attempt

theorem afterSent_position_le (reader : Reader) (purpose : Purpose) :
    reader.position ≤ (reader.afterSent options purpose).position := by
  cases purpose with
  | gap =>
      let lag := { reader.lag.logIfLagged with gapPending := false }
      exact splitChunk_position_le { reader with lag }
  | chunk attempt => exact nextChunk_position_le { reader with lag := reader.lag.logIfLagged }
  | flush attempt =>
      let lag := { reader.lag.logIfLagged with gapPending := false }
      exact startDeliver_position_le { reader with lag } attempt
  | deliver attempt => exact afterEvent_position_le reader attempt.event

theorem afterFull_position_le {reader later : Reader} {purpose : Purpose}
    (full : reader.afterFull options purpose = some later) : reader.position ≤ later.position := by
  cases purpose with
  | gap =>
      cases full
      exact Nat.le_add_right _ _
  | chunk attempt =>
      cases full
      exact Nat.le_refl _
  | flush attempt => cases full
  | deliver attempt => cases full

theorem afterRefresh_position_le (reader : Reader) (purpose : Purpose) :
    reader.position ≤ (reader.afterRefresh options purpose).position := by
  cases purpose with
  | gap => exact splitChunk_position_le reader.observe
  | chunk attempt =>
      simp only [Reader.afterRefresh]
      split
      · exact nextChunk_position_le reader.observe
      · exact startTrySend_position_le reader _
  | flush attempt => exact startDeliver_position_le reader.observe attempt
  | deliver attempt =>
      simp only [Reader.afterRefresh]
      split
      · exact afterEvent_position_le reader attempt.event
      · exact startDeliver_position_le reader _

theorem afterRead_position_le (reader : Reader) (result : ReadResult) :
    reader.position ≤ (reader.afterRead streamName options result).position := by
  cases result with
  | data => exact nextChunk_position_le reader
  | eof => exact Nat.le_refl _
  | failed error => exact Nat.le_refl _

theorem gotResult_position_le (state : StreamState) (result : ReadResult) :
    state.reader.position ≤ (state.gotResult streamName options result).reader.position := by
  unfold StreamState.gotResult
  split
  · exact Nat.le_refl _
  · exact afterRead_position_le state.reader result

theorem observedIfLossy_position (reader : Reader) :
    (StreamState.observedIfLossy options reader).position = reader.position := by
  unfold StreamState.observedIfLossy
  split <;> rfl

/-- **No move takes the reader back.** -/
theorem Move.position_le (move : Move streamName options state next) :
    state.reader.position ≤ next.reader.position := by
  cases move with
  | @read bytes here _ =>
      exact gotResult_position_le { state with
        reader := { state.reader with buffer := state.reader.buffer ++ bytes }
        source := state.source ++ bytes } .data
  | @ended result here _ => exact gotResult_position_le state result
  | changed here inactive => exact Nat.le_of_eq (observedIfLossy_position state.refreshed).symm
  | @refreshRead result here =>
      have same : (StreamState.observedIfLossy options state.refreshed).position =
          state.reader.position := observedIfLossy_position state.refreshed
      exact Nat.le_trans (Nat.le_of_eq same.symm) (afterRead_position_le _ result)
  | @record event shared recorded here pushed =>
      exact afterRecord_position_le state.refreshed { event, recorded }
  | @sent purpose active target channel here cached there sent =>
      exact afterSent_position_le state.reader purpose
  | @full purpose active target reader here cached there full after =>
      exact afterFull_position_le after
  | @refreshed purpose here => exact afterRefresh_position_le state.refreshed purpose
  | yielded here => exact nextChunk_position_le state.reader
  | attached subscribed =>
      rw [trySubscribe_eq] at subscribed
      split at subscribed <;> cases subscribed
      exact Nat.le_refl _
  | @unregistered other target there dropping =>
      exact Nat.le_of_eq
        (congrArg Reader.position (clearActiveIfCurrent_reader state target.id)).symm
  | failed here cached there closed => exact Nat.le_refl _
  | cleared here => exact Nat.le_refl _
  | refused refused => exact Nat.le_refl _
  | consumed there consumes => exact Nat.le_refl _
  | replaySealed emptied => exact Nat.le_refl _

end Position

/-! ## What was sent to a subscription -/

/-- The account of one subscription, which begins at the position `start` of the source. -/
structure Announced (start : Nat) (handle : Handle) (state : StreamState)
    (subscription : SingleSubscription) : Prop where
  tiles : ∃ last, Tiles (Covers state.source) start subscription.sent last ∧
    last ≤ state.reader.position ∧
    (subscription.channel.receiverOpen = true →
      state.reader.Balanced state.activeTx handle last) ∧
    ((∃ event ∈ subscription.sent, event.isTerminal = true) → last = state.source.length)
  closed : ∀ event ∈ subscription.sent, event.isTerminal = true → state.reader.place = .finished
  alone : ∀ earlier event later, subscription.sent = earlier ++ event :: later →
    event.isTerminal = true → later = []

section Steps

variable {streamName : String} {options : StreamConfig} {state next : StreamState}
  {start : Nat} {handle : Handle} {subscription changed : SingleSubscription}

/-- A reader that is not finished has not sent a terminal event. -/
theorem Announced.running (announced : Announced start handle state subscription)
    (busy : state.reader.place ≠ .finished) :
    ¬ ∃ event ∈ subscription.sent, event.isTerminal = true := by
  rintro ⟨event, member, terminal⟩
  exact busy (announced.closed event member terminal)

/-- The reader moves on without a send to the subscription. -/
theorem Announced.think (announced : Announced start handle state subscription)
    (busy : state.reader.place ≠ .finished)
    (advances : state.reader.position ≤ next.reader.position) {more : List UInt8}
    (source : next.source = state.source ++ more)
    (balanced : subscription.channel.receiverOpen = true → ∀ last,
      state.reader.Balanced state.activeTx handle last →
        next.reader.Balanced next.activeTx handle last) :
    Announced start handle next subscription := by
  obtain ⟨last, tiles, behind, before, _⟩ := announced.tiles
  have running := announced.running busy
  refine ⟨⟨last, ?_, Nat.le_trans behind advances, fun isOpen => balanced isOpen last (before isOpen),
    fun terminal => absurd terminal running⟩, ?_, announced.alone⟩
  · rw [source]
    exact tiles.mono fun _ _ _ _ covers => covers.append more
  · intro event member terminal
    exact absurd ⟨event, member, terminal⟩ running

/-- Other parties move, the subscription itself among them. -/
theorem Announced.others (announced : Announced start handle state subscription)
    (source : next.source = state.source) (reader : next.reader = state.reader)
    (sent : changed.sent = subscription.sent)
    (isOpen : changed.channel.receiverOpen = true →
      subscription.channel.receiverOpen = true ∧ next.activeTx = state.activeTx) :
    Announced start handle next changed := by
  obtain ⟨last, tiles, behind, balanced, ended⟩ := announced.tiles
  refine ⟨⟨last, ?_, ?_, ?_, ?_⟩, ?_, ?_⟩
  · rw [source, sent]
    exact tiles
  · rw [reader]
    exact behind
  · intro stillOpen
    obtain ⟨wasOpen, active⟩ := isOpen stillOpen
    rw [reader, active]
    exact balanced wasOpen
  · rw [source, sent]
    exact ended
  · rw [reader, sent]
    exact announced.closed
  · rw [sent]
    exact announced.alone

/-- An event is sent to the subscription. -/
theorem Announced.send (announced : Announced start handle state subscription)
    (busy : state.reader.place ≠ .finished) {event : StreamEvent}
    {channel : BoundedChannel StreamEvent} (source : next.source = state.source) {last : Nat}
    (isOpen : subscription.channel.receiverOpen = true)
    (covers : ∀ before, state.reader.Balanced state.activeTx handle before →
      Covers state.source event before last)
    (behind : last ≤ next.reader.position)
    (balanced : next.reader.Balanced next.activeTx handle last)
    (ends : event.isTerminal = true →
      last = state.source.length ∧ next.reader.place = .finished) :
    Announced start handle next
      { subscription with channel, sent := subscription.sent ++ [event] } := by
  obtain ⟨before, tiles, _, balance, _⟩ := announced.tiles
  have running := announced.running busy
  have only : ∀ other ∈ subscription.sent ++ [event], other.isTerminal = true →
      event.isTerminal = true := by
    intro other member terminal
    rcases List.mem_append.mp member with earlier | new
    · exact absurd ⟨other, earlier, terminal⟩ running
    · exact List.mem_singleton.mp new ▸ terminal
  refine ⟨⟨last, ?_, behind, fun _ => balanced, ?_⟩, ?_, ?_⟩
  · rw [source]
    exact tiles.concat (covers before (balance isOpen))
  · rintro ⟨other, member, terminal⟩
    rw [source]
    exact (ends (only other member terminal)).1
  · intro other member terminal
    exact (ends (only other member terminal)).2
  · intro earlier other later split terminal
    rcases List.eq_nil_or_concat' later with rfl | ⟨rest, final, rfl⟩
    · rfl
    · rw [← List.cons_append, ← List.append_assoc] at split
      obtain ⟨same, _⟩ := List.append_inj' split rfl
      refine absurd ⟨other, ?_, terminal⟩ running
      rw [same]
      simp

/-- Behind `read_buf`. -/
theorem Announced.gotResult (announced : Announced start handle state subscription)
    (pending : state.reader.PendingForCopy) (here : state.reader.place = .reading)
    {bytes buffer : List UInt8} (result : ReadResult) :
    Announced start handle
      ({ state with
        reader := { state.reader with buffer }
        source := state.source ++ bytes }.gotResult streamName options result)
      subscription := by
  have busy : state.reader.place ≠ .finished := by
    rw [here]
    nofun
  unfold StreamState.gotResult
  split
  · refine announced.think busy (Nat.le_refl _) rfl ?_
    intro _ last balanced
    simp only [Reader.Balanced, Reader.due, here] at balanced ⊢
    exact balanced
  · refine announced.think busy (afterRead_position_le { state.reader with buffer } result) rfl ?_
    intro _ last balanced
    simp only [Reader.Balanced, Reader.due, here] at balanced
    apply afterRead_balanced
    · exact pending.copy
    · exact balanced

/-- The reader does its next access with the subscription as fresh copy. -/
theorem refreshed_cachedActive (registered : Registered state)
    (found : state.subscriptions[handle]? = some subscription)
    (isOpen : subscription.channel.receiverOpen = true) :
    state.refreshed.cachedActive = some ⟨handle, handle⟩ :=
  registered.activeTx_of_open found isOpen

/-- The reader refreshes its copy while it reads. -/
theorem observedIfLossy_balances (registered : Registered state)
    (found : state.subscriptions[handle]? = some subscription)
    (isOpen : subscription.channel.receiverOpen = true) {last : Nat}
    (balances : Balances (state.reader.Owes handle) last 0 state.reader.position) :
    Balances ((StreamState.observedIfLossy options state.refreshed).Owes handle) last 0
      (StreamState.observedIfLossy options state.refreshed).position := by
  have cached := refreshed_cachedActive registered found isOpen
  unfold StreamState.observedIfLossy
  split
  · exact balances
  · rw [observe_owes fun _ => congrArg (Option.map ActiveSubscriber.id) cached]
    exact balances

/-- The buffer is empty when the terminal event is on its way. -/
theorem Buffered.ends {source : List UInt8} {reader : Reader} (buffered : Buffered source reader)
    (empty : reader.buffer = []) : reader.position = source.length := by
  have rest := buffered.buffer
  rw [empty, List.drop_eq_nil_iff] at rest
  exact Nat.le_antisymm buffered.inside rest

/-- The terminal event is sent last, when all was read. -/
theorem sent_ends (lossy : options.deliveryGuarantee = .lossyWithoutBackpressure)
    {shared : ReplayState} {log : List StreamEvent} {source : List UInt8} {reader : Reader}
    {purpose : Purpose} (buffered : Buffered source reader)
    (coherent : PurposeCoherent options shared log source reader purpose)
    (terminal : purpose.event.isTerminal = true) :
    reader.position = source.length ∧ (reader.afterSent options purpose).place = .finished := by
  cases purpose with
  | gap => cases terminal
  | chunk attempt =>
      rw [show (Purpose.chunk attempt).event.isTerminal = false from
        StreamEvent.isTerminal_of_isChunk coherent.2.1] at terminal
      cases terminal
  | flush attempt => cases terminal
  | deliver attempt =>
      have last := coherent.1.resolve_left (by simp [lossy])
      rcases coherent.2.kind with ⟨chunk, event, _⟩ | ⟨_, _, empty⟩
      · rw [event] at last
        cases last
      · refine ⟨buffered.ends empty, ?_⟩
        simp only [Reader.afterSent, Reader.afterEvent]
        rw [if_pos last]
        rfl

/-- The reader refreshes its copy behind a failed send. The subscription is another one than that
of the send, so the reader owes it nothing. -/
theorem refreshed_balanced (lossy : options.deliveryGuarantee = .lossyWithoutBackpressure)
    (coherent : Coherent options state) (lagging : Lagging state)
    (found : state.subscriptions[handle]? = some subscription)
    (isOpen : subscription.channel.receiverOpen = true) {purpose : Purpose}
    (here : state.reader.place = .refreshing purpose) {last : Nat}
    (balanced : state.reader.Balanced state.activeTx handle last) :
    (state.refreshed.afterRefresh options purpose).Balanced state.activeTx handle last := by
  have registered := coherent.sound.registered
  have active := registered.activeTx_of_open found isOpen
  have clear : ¬ state.reader.Owes handle := by
    rintro ⟨owed, known⟩
    refine (lagging.replaced registered here).1 owed ?_
    rw [known, active]
    rfl
  have fresh : state.refreshed.Balanced state.activeTx handle last := by
    have waits : state.refreshed.place = .refreshing purpose := here
    have same : state.refreshed.due state.activeTx handle =
        state.reader.due state.activeTx handle := by
      cases purpose <;> simp only [Reader.due, here, waits]
    rw [Reader.Balanced, same]
    exact balanced
  have place := coherent.reader.place
  rw [here] at place
  have carried : PurposeCoherent options state.shared state.log state.source state.refreshed
      purpose := place
  exact afterRefresh_balanced lossy carried here active active clear fresh

/-- **Every move keeps the account of a subscription.** -/
theorem Announced.move (lossy : options.deliveryGuarantee = .lossyWithoutBackpressure)
    (positive : 0 < options.maxBufferedChunks)
    (coherent : Coherent options state) (later : Coherent options next) (lagging : Lagging state)
    (found : state.subscriptions[handle]? = some subscription)
    (announced : Announced start handle state subscription)
    (move : Move streamName options state next) :
    ∃ subscription, next.subscriptions[handle]? = some subscription ∧
      Announced start handle next subscription := by
  have registered := coherent.sound.registered
  have place := coherent.reader.place
  have pending := lagging.lag.pending
  have advances := move.position_le
  cases move with
  | @read bytes here _ =>
      obtain ⟨reader, same⟩ := gotResult_eq { state with
        reader := { state.reader with buffer := state.reader.buffer ++ bytes }
        source := state.source ++ bytes } streamName options .data
      refine ⟨subscription, ?_, announced.gotResult pending here .data⟩
      rw [same]
      exact found
  | @ended result here _ =>
      obtain ⟨reader, same⟩ := gotResult_eq state streamName options result
      have moved : Announced start handle ({ state with
          reader := { state.reader with buffer := state.reader.buffer }
          source := state.source ++ [] }.gotResult streamName options result) subscription :=
        announced.gotResult pending here result
      rw [List.append_nil] at moved
      refine ⟨subscription, ?_, moved⟩
      rw [same]
      exact found
  | changed here inactive =>
      refine ⟨subscription, found, announced.think (by rw [here]; nofun) advances
        (List.append_nil _).symm ?_⟩
      intro isOpen last balanced
      have reads : (StreamState.observedIfLossy options state.refreshed).place = .reading :=
        (observedIfLossy_place options state.refreshed).trans here
      simp only [Reader.Balanced, Reader.due, here] at balanced
      simp only [Reader.Balanced, Reader.due, reads]
      exact observedIfLossy_balances registered found isOpen balanced
  | @refreshRead result here =>
      refine ⟨subscription, found, announced.think (by rw [here]; nofun) advances
        (List.append_nil _).symm ?_⟩
      intro isOpen last balanced
      simp only [Reader.Balanced, Reader.due, here] at balanced
      apply afterRead_balanced
      · intro _
        rw [observedIfLossy_cachedActive, refreshed_cachedActive registered found isOpen]
        rfl
      · exact observedIfLossy_balances registered found isOpen balanced
  | @record event shared recorded here pushed =>
      refine ⟨subscription, found, announced.think (by rw [here]; nofun) advances
        (List.append_nil _).symm ?_⟩
      intro isOpen last balanced
      simp only [Reader.Balanced, Reader.due, here] at balanced
      exact afterRecord_balanced lossy (refreshed_cachedActive registered found isOpen) balanced
  | @sent purpose active target channel here cached there sent =>
      rw [here] at place
      obtain ⟨targetOpen, _, _⟩ := BoundedChannel.of_sent sent
      have busy : state.reader.place ≠ .finished := by
        rw [here]
        nofun
      refine exists_getElem?_set found there ?_ ?_
      · rintro rfl rfl
        rw [Registered.eq_of_id (registered.cached active cached).1] at cached
        refine announced.send busy rfl targetOpen ?_ advances
          (afterSent_balanced lossy place lagging.lag here)
          (sent_ends lossy coherent.reader.buffered place)
        intro before balanced
        exact sent_covers lossy place lagging.lag here cached balanced
      · intro other
        refine announced.think busy advances (List.append_nil _).symm ?_
        intro isOpen
        exact absurd (registered.eq_of_open found isOpen there targetOpen) other
  | @full purpose active target reader here cached there full after =>
      rw [here] at place
      refine ⟨subscription, found, announced.think (by rw [here]; nofun) advances
        (List.append_nil _).symm ?_⟩
      intro isOpen last balanced
      obtain ⟨targetOpen, _⟩ := BoundedChannel.of_full full
      have same := registered.eq_of_open found isOpen there targetOpen
      subst same
      rw [Registered.eq_of_id (registered.cached active cached).1] at cached
      have served := (coherent.channels _ _ there).served_of_full positive there full
      exact afterFull_balanced lagging.lag place here cached served balanced after
  | @failed purpose active target here cached there closed =>
      refine ⟨subscription, found, announced.think (by rw [here]; nofun) advances
        (List.append_nil _).symm ?_⟩
      intro isOpen last balanced
      have other := ne_of_closed cached there (BoundedChannel.of_closed closed) found isOpen
      exact failed_balanced here other active balanced
  | @cleared purpose active here =>
      have still := found_of_clear found active.id
      refine ⟨subscription, still, announced.think (by rw [here]; nofun) advances
        ((clearActiveIfCurrent_source state active.id).trans (List.append_nil _).symm) ?_⟩
      intro isOpen last balanced
      have same := activeTx_of_still_open registered later.sound.registered found still isOpen
      rw [same]
      exact cleared_balanced here balanced
  | @refreshed purpose here =>
      refine ⟨subscription, found, announced.think (by rw [here]; nofun) advances
        (List.append_nil _).symm ?_⟩
      intro isOpen last balanced
      exact refreshed_balanced lossy coherent lagging found isOpen here balanced
  | yielded here =>
      refine ⟨subscription, found, announced.think (by rw [here]; nofun) advances
        (List.append_nil _).symm ?_⟩
      intro _ last balanced
      simp only [Reader.Balanced, Reader.due, here] at balanced
      exact nextChunk_balanced pending.copy balanced
  | attached subscribed =>
      obtain ⟨rfl, still, closed⟩ := registered.others_of_attached subscribed found
      exact ⟨subscription, still, announced.others rfl rfl rfl fun isOpen => absurd isOpen closed⟩
  | refused _ => exact ⟨subscription, found, announced⟩
  | @consumed other target changed there consumes =>
      refine exists_getElem?_set found there ?_ ?_
      · rintro rfl rfl
        refine announced.others rfl rfl consumes.sent_eq ?_
        intro isOpen
        exact ⟨(consumes.isOpen isOpen).1, rfl⟩
      · intro _
        exact announced.others rfl rfl rfl fun isOpen => ⟨isOpen, rfl⟩
  | @unregistered other target there dropping =>
      have source := clearActiveIfCurrent_source state target.id
      have reader := clearActiveIfCurrent_reader state target.id
      refine exists_getElem?_set (found_of_clear found target.id)
        (found_of_clear there target.id) ?_ ?_
      · rintro rfl rfl
        have closed := registered.closed_of_dropping found dropping
        exact announced.others source reader rfl fun isOpen => absurd isOpen closed
      · intro different
        refine announced.others source reader rfl ?_
        intro isOpen
        have still : ((state.clearActiveIfCurrent target.id).withSubscription other
            { target with status := .dropped }).subscriptions[handle]? = some subscription :=
          (List.getElem?_set_ne (Ne.symm different)).trans (found_of_clear found target.id)
        exact ⟨isOpen,
          activeTx_of_still_open registered later.sound.registered found still isOpen⟩
  | replaySealed emptied =>
      exact ⟨subscription, found, announced.others rfl rfl rfl fun isOpen => ⟨isOpen, rfl⟩⟩

end Steps

/-! ## What a subscriber receives -/

/-- The reader is done with the bytes up to the position, as far as the subscription is concerned: it
has taken them out of its buffer and, while the receiver is open, has none of them in hand for it. -/
def PassedBy (state : StreamState) (handle : Handle) (subscription : SingleSubscription)
    (position : Nat) : Prop :=
  position ≤ state.reader.position ∧
    (subscription.channel.receiverOpen = true →
      position + state.reader.due state.activeTx handle ≤ state.reader.position)

/-- Every loss is announced among the live events of a subscription, whose account begins at the
position `start` of the source. -/
structure LossesAnnounced (start : Nat) (handle : Handle) (state : StreamState)
    (subscription : SingleSubscription) : Prop where
  /-- A chunk is a piece of the source in its place. -/
  genuine : ∀ chunk, .chunk chunk ∈ subscription.live → chunk.bytes ≠ [] ∧
    start ≤ chunk.offset ∧
    (state.source.drop chunk.offset).take chunk.bytes.length = chunk.bytes
  ordered : (subscription.live.filterMap StreamEvent.chunk?).Pairwise fun earlier later =>
    earlier.endOffset ≤ later.offset
  /-- What is missing between two chunks is announced between them. -/
  announced : ∀ front earlier between later back,
    subscription.live = front ++ .chunk earlier :: (between ++ .chunk later :: back) →
    (∀ event ∈ between, event.isChunk = false) → earlier.endOffset ≠ later.offset →
      .gap ∈ between
  /-- What is missing before the first chunk is announced before it. -/
  announcedFirst : ∀ front later back, subscription.live = front ++ .chunk later :: back →
    (∀ event ∈ front, event.isChunk = false) → start ≠ later.offset → .gap ∈ front
  /-- What is missing behind the last chunk is announced before the terminal event. -/
  announcedLast : ∀ front earlier between terminal back,
    subscription.live = front ++ .chunk earlier :: (between ++ terminal :: back) →
    (∀ event ∈ between, event.isChunk = false) → terminal.isTerminal = true →
    earlier.endOffset ≠ state.source.length → .gap ∈ between
  /-- A gap stands for bytes of the source behind the chunks received before it and in front of those
  received behind it, which the reader is done with and has not sent to this subscription. -/
  onlyIfLost : ∀ front back, subscription.live = front ++ .gap :: back →
    ∃ from_ to_, from_ < to_ ∧ start ≤ from_ ∧ PassedBy state handle subscription to_ ∧
      (∀ chunk, .chunk chunk ∈ front → chunk.endOffset ≤ from_) ∧
      (∀ chunk, .chunk chunk ∈ back → to_ ≤ chunk.offset) ∧
      ∀ chunk, .chunk chunk ∈ subscription.sent → chunk.endOffset ≤ from_ ∨ to_ ≤ chunk.offset
  /-- Nothing follows the terminal event. -/
  ends : ∀ front terminal back, subscription.live = front ++ terminal :: back →
    terminal.isTerminal = true → back = []

section Tilings

variable {source : List UInt8} {first last : Nat} {items front between back : List StreamEvent}

theorem tiles_ordered (tiles : Tiles (Covers source) first items last) :
    (items.filterMap StreamEvent.chunk?).Pairwise fun earlier later =>
      earlier.endOffset ≤ later.offset := by
  have pairwise : items.Pairwise fun earlier later =>
      ∀ one ∈ earlier.chunk?, ∀ other ∈ later.chunk?, one.endOffset ≤ other.offset := by
    refine tiles.pairwise Covers.le ?_
    intro earlier later first middle from_ last here behind there one isOne other isOther
    cases earlier with
    | chunk chunk =>
        cases later with
        | chunk chunk' =>
            cases isOne
            cases isOther
            obtain ⟨_, _, rfl, rfl⟩ := here
            obtain ⟨_, _, rfl, rfl⟩ := there
            exact behind
        | gap => cases isOther
        | eof => cases isOther
        | readError error => cases isOther
    | gap => cases isOne
    | eof => cases isOne
    | readError error => cases isOne
  exact pairwise.filterMap _ fun _ _ related one isOne other isOther =>
    related one isOne other isOther

/-- Events without chunks and without a terminal event that account for something contain a gap. -/
theorem tiles_gap (tiles : Tiles (Covers source) first items last)
    (noChunk : ∀ event ∈ items, event.isChunk = false)
    (running : ∀ event ∈ items, event.isTerminal = false) (apart : first ≠ last) :
    .gap ∈ items := by
  cases items with
  | nil => exact absurd tiles.eq_of_nil apart
  | cons event rest =>
      have gap : event = .gap := StreamEvent.eq_gap (noChunk _ List.mem_cons_self)
        (running _ List.mem_cons_self)
      rw [gap]
      exact List.mem_cons_self

/-- The stretch of a gap lies between the chunks before it and those behind it. -/
theorem tiles_lost (tiles : Tiles (Covers source) first (front ++ .gap :: back) last) :
    ∃ from_ to_, from_ < to_ ∧ first ≤ from_ ∧ to_ ≤ last ∧
      (∀ chunk, .chunk chunk ∈ front → chunk.endOffset ≤ from_) ∧
      ∀ chunk, .chunk chunk ∈ back → to_ ≤ chunk.offset := by
  obtain ⟨from_, to_, before, nonempty, after⟩ := tiles.exists_cut_at
  refine ⟨from_, to_, nonempty, before.le Covers.le, after.le Covers.le, ?_, ?_⟩
  · intro chunk member
    obtain ⟨_, _, ⟨_, _, _, rfl⟩, _, below⟩ := before.exists_of_mem Covers.le member
    exact below
  · intro chunk member
    obtain ⟨_, _, ⟨_, _, rfl, _⟩, above, _⟩ := after.exists_of_mem Covers.le member
    exact above

end Tilings

section Runs

variable {streamName : String} {options : ValidConfig} {before after state : StreamState}
  {start : Nat} {handle : Handle} {subscription : SingleSubscription}

/-- What comes before another event is not the terminal event. -/
theorem Announced.notTerminal (announced : Announced start handle state subscription)
    {front between back : List StreamEvent} {event later : StreamEvent}
    (split : subscription.sent = front ++ (between ++ later :: back)) (member : event ∈ between) :
    event.isTerminal = false := by
  by_contra terminal
  obtain ⟨one, other, rfl⟩ := List.append_of_mem member
  have whole : subscription.sent = (front ++ one) ++ event :: (other ++ later :: back) := by
    rw [split]
    simp
  have nothing := announced.alone _ _ _ whole (by simpa using terminal)
  simp at nothing

/-- What is missing between a chunk and a later event is announced. -/
theorem Announced.between (announced : Announced start handle state subscription) {last : Nat}
    (tiles : Tiles (Covers state.source) start subscription.sent last)
    {front between back : List StreamEvent} {earlier : Chunk} {later : StreamEvent}
    (split : subscription.sent = front ++ .chunk earlier :: (between ++ later :: back))
    (noChunk : ∀ event ∈ between, event.isChunk = false) :
    ∃ from_ to_, Covers state.source later from_ to_ ∧
      Tiles (Covers state.source) to_ back last ∧
      (earlier.endOffset ≠ from_ → .gap ∈ between) := by
  rw [split] at tiles
  obtain ⟨_, _, _, ⟨_, _, _, rfl⟩, behind⟩ := tiles.exists_cut_at
  obtain ⟨from_, to_, middle, covers, rest⟩ := behind.exists_cut_at
  refine ⟨from_, to_, covers, rest, tiles_gap middle noChunk ?_⟩
  intro event member
  have whole : subscription.sent = (front ++ [.chunk earlier]) ++ (between ++ later :: back) := by
    rw [split]
    simp
  exact announced.notTerminal whole member

/-- **All the rest is read off the tiling.** -/
theorem Announced.lossesAnnounced (announced : Announced start handle state subscription)
    (part : subscription.live <+: subscription.sent) :
    LossesAnnounced start handle state subscription := by
  obtain ⟨last, tiles, inside, balanced, ended⟩ := announced.tiles
  obtain ⟨rest, whole⟩ := part
  have extended : ∀ {front back : List StreamEvent} {event : StreamEvent},
      subscription.live = front ++ event :: back →
        subscription.sent = front ++ event :: (back ++ rest) := by
    intro front back event split
    rw [← whole, split]
    simp
  constructor
  case genuine =>
    intro chunk member
    have sent : StreamEvent.chunk chunk ∈ subscription.sent := by
      rw [← whole]
      exact List.mem_append_left _ member
    obtain ⟨_, _, ⟨nonempty, stretch, rfl, _⟩, above, _⟩ := tiles.exists_of_mem Covers.le sent
    exact ⟨nonempty, above, stretch⟩
  case ordered =>
    rw [← whole] at tiles
    obtain ⟨middle, live, _⟩ := tiles.exists_cut
    exact tiles_ordered live
  case announced =>
    intro front earlier between later back split noChunk apart
    have sent := extended split
    rw [List.append_assoc, List.cons_append] at sent
    obtain ⟨_, _, ⟨_, _, rfl, _⟩, _, missing⟩ := announced.between tiles sent noChunk
    exact missing apart
  case announcedFirst =>
    intro front later back split noChunk apart
    have sent := extended split
    have before := tiles
    rw [sent] at before
    obtain ⟨_, _, before, ⟨_, _, rfl, _⟩, _⟩ := before.exists_cut_at
    refine tiles_gap before noChunk ?_ apart
    intro event member
    exact announced.notTerminal (sent.trans (List.nil_append _).symm) member
  case announcedLast =>
    intro front earlier between terminal back split noChunk isTerminal apart
    have sent := extended split
    rw [List.append_assoc, List.cons_append] at sent
    obtain ⟨from_, to_, covers, final, missing⟩ := announced.between tiles sent noChunk
    have whole : subscription.sent = (front ++ .chunk earlier :: between) ++
        terminal :: (back ++ rest) := by
      rw [sent]
      simp
    have nothing := announced.alone _ _ _ whole isTerminal
    have all := ended ⟨terminal, by simp [sent], isTerminal⟩
    rw [nothing] at final
    have here := covers.eq_of_terminal isTerminal
    apply missing
    rw [here, final.eq_of_nil, all]
    exact apart
  case onlyIfLost =>
    intro front back split
    have sent := extended split
    rw [sent] at tiles ⊢
    obtain ⟨from_, to_, nonempty, above, below, earlier, behind⟩ := tiles_lost tiles
    refine ⟨from_, to_, nonempty, above, ⟨Nat.le_trans below inside, fun isOpen => ?_⟩, earlier,
      fun chunk member => behind chunk (List.mem_append_left _ member), ?_⟩
    · exact Nat.le_trans (Nat.add_le_add_right below _) (balanced isOpen).due_le
    · intro chunk member
      rcases List.mem_append.mp member with inFront | here
      · exact .inl (earlier chunk inFront)
      · rcases List.mem_cons.mp here with gap | inBack
        · cases gap
        · exact .inr (behind chunk inBack)
  case ends =>
    intro front terminal back split isTerminal
    have nothing := announced.alone _ _ _ (extended split) isTerminal
    exact (List.append_eq_nil_iff.mp nothing).1

/-- Nothing is owed to a subscriber that attaches. -/
theorem not_owes_new {config : StreamConfig} (coherent : Coherent config state)
    (lagging : Lagging state) : ¬ state.reader.Owes state.subscriptions.length := by
  intro owes
  obtain ⟨active, cached, equal⟩ := Option.map_eq_some_iff.mp (lagging.lag.pending.copy owes)
  obtain ⟨own, inside⟩ := coherent.sound.registered.cached active cached
  rw [← own, equal] at inside
  exact Nat.lt_irrefl _ inside

/-- The account of a subscription that attaches begins behind the bytes that were processed, with the
chunk in hand if that goes to it. -/
theorem exists_start {config : StreamConfig} (coherent : Coherent config state)
    (lagging : Lagging state) :
    ∃ start, start + state.reader.due (state.attached config).activeTx state.subscriptions.length =
        state.reader.position ∧
      Announced start state.subscriptions.length (state.attached config)
        (state.newSubscription config) := by
  have clear := not_owes_new coherent lagging
  have due := @due_le config state.reader (state.attached config).activeTx
    state.subscriptions.length state.shared state.log state.source coherent.reader
  refine ⟨state.reader.position -
    state.reader.due (state.attached config).activeTx state.subscriptions.length,
    Nat.sub_add_cancel due, ?_⟩
  refine ⟨⟨_, .nil, Nat.sub_le _ _, fun _ => .clear clear ?_, ?_⟩, nofun, ?_⟩
  · exact Nat.sub_add_cancel due
  · rintro ⟨event, member, _⟩
    cases member
  · intro earlier event later split
    simp [StreamState.newSubscription] at split

/-- The invariant of a lossy run behind an attach. -/
structure LossyContinues (options : StreamConfig) (start : Nat) (handle : Handle)
    (state : StreamState) : Prop where
  coherent : Coherent options state
  lagging : Lagging state
  announced : ∃ subscription, state.subscriptions[handle]? = some subscription ∧
    Announced start handle state subscription

theorem LossyContinues.step (lossy : options.deliveryGuarantee = .lossyWithoutBackpressure)
    {next : StreamState} {action : Action}
    (continues : LossyContinues options.toStreamConfig start handle state)
    (kept : StreamKept state action)
    (stepped : step streamName options.toStreamConfig state action = some next) :
    LossyContinues options.toStreamConfig start handle next := by
  obtain ⟨coherent, lagging, subscription, found, announced⟩ := continues
  have move := step_move coherent.sound.registered.kept kept stepped
  have later := coherent.step kept stepped
  have positive := options.maxBufferedChunks_pos
  exact ⟨later, lagging.move lossy positive coherent move,
    announced.move lossy positive coherent later lagging found move⟩

/-- A subscriber attaches somewhere in a run. However the run goes on without the stream being dropped,
its account is kept from where the reader stands then, less the bytes it has in hand for the
subscriber. -/
theorem exists_lossyContinues
    (lossy : options.deliveryGuarantee = .lossyWithoutBackpressure)
    (reachable : (streamMachine streamName options).ReachableBy StreamKept before)
    (inactive : before.shared.activeId = none)
    (subscribed : step streamName options.toStreamConfig before .subscribe = some after) :
    ∃ start ≤ before.source.length,
      start + before.reader.due after.activeTx before.subscriptions.length = before.reader.position ∧
      ∀ actions state,
        (streamMachine streamName options).execBy StreamKept after actions = some state →
          LossyContinues options.toStreamConfig start before.subscriptions.length state := by
  have earlier := reachable_coherent reachable
  have lagging := reachable_lagging lossy reachable
  have kept : StreamKept before .subscribe := nofun
  have attaches := attaches_of_subscribe reachable inactive subscribed
  obtain ⟨start, stands, announced⟩ := exists_start earlier lagging
  rw [← attaches] at stands announced
  have inside := earlier.reader.buffered.inside
  refine ⟨start, by omega, stands, ?_⟩
  intro actions state ran
  apply Machine.execBy_preserves (LossyContinues.step lossy) ?_ ran
  refine ⟨earlier.step kept subscribed, reachable_lagging lossy (reachable.step kept subscribed),
    before.newSubscription options.toStreamConfig, ?_, announced⟩
  rw [attaches]
  exact List.getElem?_concat_length

/-- **Every loss is announced by a gap.** A subscriber attaches somewhere in a run. Its account
begins at a position of the source that is fixed then, in front of all that is read later: where the
reader stands, but with the chunk it has in hand if that goes to the subscriber. However the run goes
on without the stream being dropped, its live events announce every loss, and a gap among them only a
loss. -/
theorem losses_announced_by_gap
    (lossy : options.deliveryGuarantee = .lossyWithoutBackpressure)
    (reachable : (streamMachine streamName options).ReachableBy StreamKept before)
    (inactive : before.shared.activeId = none)
    (subscribed : step streamName options.toStreamConfig before .subscribe = some after) :
    ∃ start ≤ before.source.length,
      start + before.reader.due after.activeTx before.subscriptions.length = before.reader.position ∧
      ∀ actions state,
        (streamMachine streamName options).execBy StreamKept after actions = some state →
          ∃ subscription, state.subscriptions[before.subscriptions.length]? = some subscription ∧
            LossesAnnounced start before.subscriptions.length state subscription := by
  obtain ⟨start, inside, stands, always⟩ :=
    exists_lossyContinues lossy reachable inactive subscribed
  refine ⟨start, inside, stands, ?_⟩
  intro actions state ran
  obtain ⟨coherent, _, subscription, found, announced⟩ := always actions state ran
  exact ⟨subscription, found, announced.lossesAnnounced (coherent.channels _ _ found).part⟩

/-- A lossy stream without replay, with room for one event. -/
def lossyConfig : ValidConfig where
  readChunkSize := ⟨1⟩
  maxBufferedChunks := 1
  deliveryGuarantee := .lossyWithoutBackpressure
  replayRetention := none
  readChunkSize_pos := Nat.one_pos
  maxBufferedChunks_pos := Nat.one_pos
  retention_nonZero := nonZero_none

/-- A subscriber that is too slow for the second chunk receives a gap in its place. -/
theorem losses_announced_by_gap_slow :
    ∃ before after state start subscription,
      step "stdout" lossyConfig.toStreamConfig before .subscribe = some after ∧
      state.subscriptions[0]? = some subscription ∧
      subscription.live = [.chunk ⟨[1], 0⟩, .gap, .chunk ⟨[3], 2⟩] ∧
      LossesAnnounced start 0 state subscription := by
  obtain ⟨before, after, state, reachable, subscribed, ran, first, inactive, live⟩ :=
    (streamMachine "stdout" lossyConfig).exists_run StreamKept [] .subscribe
      [.changed, .read [1], .reader, .reader, .read [2, 3], .reader, .reader, .reader, .nextEvent 0,
        .reader, .nextEvent 0, .reader, .reader, .nextEvent 0]
      (fun before state => before.subscriptions.length = 0 ∧ before.shared.activeId = none ∧
        state.subscriptions[0]?.map SingleSubscription.live =
          some [.chunk ⟨[1], 0⟩, .gap, .chunk ⟨[3], 2⟩])
      (by decide +kernel)
  obtain ⟨start, _, _, always⟩ := losses_announced_by_gap rfl reachable inactive subscribed
  obtain ⟨subscription, found, announced⟩ := always _ state ran
  rw [first] at found announced
  rw [found, Option.map_some, Option.some.injEq] at live
  exact ⟨before, after, state, start, subscription, subscribed, found, live, announced⟩

end Runs

end TokioProcessTools.OutputStream.Backend.SingleSubscriber
