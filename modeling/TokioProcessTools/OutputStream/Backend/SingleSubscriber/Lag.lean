import TokioProcessTools.OutputStream.Backend.SingleSubscriber.Handoff

/-!
# The pending gap

The lossy reader remembers that it owes a gap, and the id of the subscriber it
last observed. It observes only at the head of the loop over its buffer and where
it refreshes its copy while reading, but not between recording a chunk and sending
it. So the id may lag behind the copy.

A gap is owed to the reader's copy, never to another subscriber
(`LagCoherent.pending`). The id lags behind only for a subscriber nothing was sent
to yet, and its channel has room (`LagAt` at the send of a chunk).
-/

set_option autoImplicit false

namespace TokioProcessTools.OutputStream.Backend.SingleSubscriber

open Foundation

/-! ## The reader -/

/-- A pending gap is for the subscriber the reader works with. -/
def Reader.PendingForCopy (reader : Reader) : Prop :=
  reader.lag.gapPending = true → ∃ active, reader.cachedActive = some active ∧
    reader.lag.subscriberId = some active.id

/-- What the reader knows of its subscriber at each place. `served` are the open subscriptions that
were sent something. -/
def LagAt (served : Handle → Prop) (reader : Reader) : Place → Prop
  | .record event => event.isChunk = true → reader.lag.gapPending = false ∧
      reader.lag.subscriberId = reader.cachedActive.map ActiveSubscriber.id
  | .sending (.chunk _) => reader.lag.gapPending = false ∧
      ∀ active, reader.cachedActive = some active → served active.sender →
        reader.lag.subscriberId = some active.id
  | .clearing (.chunk _) _ | .refreshing (.chunk _) | .sending (.deliver _)
  | .clearing (.deliver _) _ | .refreshing (.deliver _) => reader.lag.gapPending = false
  | .sending .gap | .clearing .gap _ | .refreshing .gap | .sending (.flush _)
  | .clearing (.flush _) _ | .refreshing (.flush _) => reader.lag.gapPending = true
  | .reading | .refreshRead _ | .yielding | .finished | .aborted => True

/-- The reader's account of its subscriber is right. -/
structure LagCoherent (served : Handle → Prop) (reader : Reader) : Prop where
  pending : reader.PendingForCopy
  place : LagAt served reader reader.place

section Reader

variable {options : StreamConfig} {served : Handle → Prop} {reader : Reader} {attempt : Attempt}

theorem observe_subscriberId (reader : Reader) :
    reader.observe.lag.subscriberId = reader.cachedActive.map ActiveSubscriber.id := by
  simp only [Reader.observe, BestEffortLag.observeActive]
  split
  · rfl
  · rename_i same
    simpa using same

/-- Observing never makes a gap pending. -/
theorem of_observe_gapPending (pending : reader.observe.lag.gapPending = true) :
    reader.lag.gapPending = true ∧
      reader.lag.subscriberId = reader.cachedActive.map ActiveSubscriber.id := by
  simp only [Reader.observe, BestEffortLag.observeActive] at pending
  split at pending
  · cases pending
  · rename_i same
    exact ⟨pending, by simpa using same⟩

/-- Another subscriber does not inherit a pending gap. -/
theorem observe_gapPending_of_ne
    (other : reader.lag.subscriberId ≠ reader.cachedActive.map ActiveSubscriber.id) :
    reader.observe.lag.gapPending = false := by
  by_contra pending
  exact other (of_observe_gapPending (by simpa using pending)).2

theorem observe_pendingForCopy
    (known : reader.lag.gapPending = true → reader.lag.subscriberId ≠ none) :
    reader.observe.PendingForCopy := by
  intro pending
  obtain ⟨before, same⟩ := of_observe_gapPending pending
  cases cached : reader.cachedActive with
  | none =>
      rw [cached] at same
      exact absurd same (known before)
  | some active =>
      refine ⟨active, cached, ?_⟩
      rw [observe_subscriberId, cached]
      rfl

theorem Reader.PendingForCopy.subscriberId (pending : reader.PendingForCopy) :
    reader.lag.gapPending = true → reader.lag.subscriberId ≠ none := by
  intro owed none
  obtain ⟨active, _, known⟩ := pending owed
  rw [none] at known
  cases known

theorem Reader.PendingForCopy.observe (pending : reader.PendingForCopy) :
    reader.observe.PendingForCopy :=
  observe_pendingForCopy pending.subscriberId

/-- No gap is pending. -/
theorem Reader.pendingForCopy_of_clear (clear : reader.lag.gapPending = false) :
    reader.PendingForCopy := by
  intro pending
  rw [clear] at pending
  cases pending

theorem splitChunk_lagCoherent (clear : reader.lag.gapPending = false)
    (observed : reader.lag.subscriberId = reader.cachedActive.map ActiveSubscriber.id) :
    LagCoherent served (reader.splitChunk options) :=
  ⟨Reader.pendingForCopy_of_clear clear, fun _ => ⟨clear, observed⟩⟩

variable (lossy : options.deliveryGuarantee = .lossyWithoutBackpressure)
include lossy

theorem nextChunk_lagCoherent (pending : reader.PendingForCopy) :
    LagCoherent served (reader.nextChunk options) := by
  have observed := pending.observe
  unfold Reader.nextChunk
  split
  · exact ⟨pending, trivial⟩
  · rw [lossy]
    dsimp only
    split
    · rename_i owed
      split
      · rename_i none
        obtain ⟨active, cached, _⟩ := observed owed
        rw [none] at cached
        cases cached
      · exact ⟨observed, owed⟩
    · rename_i clear
      exact splitChunk_lagCoherent (by simpa using clear) (observe_subscriberId reader)

omit lossy in
theorem afterEvent_lagCoherent (terminal : attempt.event.isTerminal = true)
    (clear : reader.lag.gapPending = false) :
    LagCoherent served (reader.afterEvent options attempt.event) := by
  unfold Reader.afterEvent
  rw [if_pos terminal]
  exact ⟨Reader.pendingForCopy_of_clear clear, trivial⟩

omit lossy in
theorem startDeliver_lagCoherent (terminal : attempt.event.isTerminal = true)
    (clear : reader.lag.gapPending = false) :
    LagCoherent served (reader.startDeliver options attempt) := by
  unfold Reader.startDeliver
  split
  · exact afterEvent_lagCoherent terminal clear
  · exact ⟨Reader.pendingForCopy_of_clear clear, clear⟩

theorem startTrySend_lagCoherent (clear : reader.lag.gapPending = false)
    (seen : ∀ active, reader.cachedActive = some active → served active.sender →
      reader.lag.subscriberId = some active.id) :
    LagCoherent served (reader.startTrySend options attempt) := by
  have pending := Reader.pendingForCopy_of_clear clear
  unfold Reader.startTrySend
  split
  · exact nextChunk_lagCoherent lossy pending.observe
  · exact ⟨pending, clear, seen⟩

omit lossy in
theorem startFlush_lagCoherent (terminal : attempt.event.isTerminal = true)
    (pending : reader.PendingForCopy) :
    LagCoherent served (reader.startFlush options attempt) := by
  unfold Reader.startFlush
  split
  · rename_i owed
    split
    · rename_i none
      obtain ⟨active, cached, _⟩ := pending owed
      rw [none] at cached
      cases cached
    · exact ⟨pending, owed⟩
  · rename_i clear
    exact startDeliver_lagCoherent terminal (by simpa using clear)

theorem afterSent_lagCoherent {shared : ReplayState} {log : List StreamEvent}
    {source : List UInt8} {purpose : Purpose}
    (coherent : PurposeCoherent options shared log source reader purpose)
    (lag : LagCoherent served reader) (here : reader.place = .sending purpose)
    {later : Handle → Prop} : LagCoherent later (reader.afterSent options purpose) := by
  have place := lag.place
  rw [here] at place
  cases purpose with
  | gap =>
      obtain ⟨active, cached, known⟩ := lag.pending place
      exact splitChunk_lagCoherent rfl (known.trans (congrArg (Option.map ActiveSubscriber.id) cached).symm)
  | chunk attempt => exact nextChunk_lagCoherent lossy lag.pending
  | flush attempt =>
      obtain ⟨_, terminal, _⟩ := coherent
      exact startDeliver_lagCoherent terminal rfl
  | deliver attempt =>
      have terminal := coherent.1.resolve_left (by simp [lossy])
      exact afterEvent_lagCoherent terminal place

omit lossy in
/-- A chunk is given up only for a subscriber that was sent something. -/
theorem afterFull_lagCoherent {purpose : Purpose} {next : Reader}
    (lag : LagCoherent served reader) (here : reader.place = .sending purpose)
    {active : ActiveSubscriber} (cached : reader.cachedActive = some active)
    (known : served active.sender) (full : reader.afterFull options purpose = some next) :
    LagCoherent served next := by
  have place := lag.place
  rw [here] at place
  cases purpose with
  | gap =>
      cases full
      exact ⟨lag.pending, trivial⟩
  | chunk attempt =>
      cases full
      refine ⟨?_, trivial⟩
      intro _
      exact ⟨active, cached, place.2 active cached known⟩
  | flush attempt => cases full
  | deliver attempt => cases full

/-- Behind the refresh that follows a send into a closed channel. The reader has another subscriber
now, or none, and nothing was sent to it yet. -/
theorem afterRefresh_lagCoherent {shared : ReplayState} {log : List StreamEvent}
    {source : List UInt8} {purpose : Purpose}
    (coherent : PurposeCoherent options shared log source reader purpose)
    (place : LagAt served reader (.refreshing purpose))
    (other : reader.lag.gapPending = true →
      reader.lag.subscriberId ≠ reader.cachedActive.map ActiveSubscriber.id)
    (unserved : ∀ active, reader.cachedActive = some active → ¬ served active.sender) :
    LagCoherent served (reader.afterRefresh options purpose) := by
  cases purpose with
  | gap =>
      exact splitChunk_lagCoherent (observe_gapPending_of_ne (other place))
        (observe_subscriberId reader)
  | chunk attempt =>
      have pending := Reader.pendingForCopy_of_clear place
      simp only [Reader.afterRefresh]
      split
      · exact nextChunk_lagCoherent lossy pending.observe
      · apply startTrySend_lagCoherent lossy place
        intro active cached known
        exact absurd known (unserved active cached)
  | flush attempt =>
      obtain ⟨_, terminal, _⟩ := coherent
      exact startDeliver_lagCoherent terminal (observe_gapPending_of_ne (other place))
  | deliver attempt =>
      have terminal := coherent.1.resolve_left (by simp [lossy])
      simp only [Reader.afterRefresh]
      split
      · exact afterEvent_lagCoherent terminal place
      · exact startDeliver_lagCoherent terminal place

theorem afterRecord_lagCoherent
    (owed : reader.lag.gapPending = true → reader.lag.subscriberId ≠ none)
    (chunk : attempt.event.isTerminal = false → reader.lag.gapPending = false ∧
      ∀ active, reader.cachedActive = some active → served active.sender →
        reader.lag.subscriberId = some active.id) :
    LagCoherent served (reader.afterRecord options attempt) := by
  simp only [Reader.afterRecord, lossy]
  split
  · rename_i terminal
    exact startFlush_lagCoherent terminal (observe_pendingForCopy owed)
  · rename_i running
    obtain ⟨clear, seen⟩ := chunk (by simpa using running)
    exact startTrySend_lagCoherent lossy clear seen

theorem afterRead_lagCoherent {streamName : String} (pending : reader.PendingForCopy)
    (result : ReadResult) :
    LagCoherent served (reader.afterRead streamName options result) := by
  cases result with
  | data => exact nextChunk_lagCoherent lossy pending
  | eof => exact ⟨pending, nofun⟩
  | failed error => exact ⟨pending, nofun⟩

end Reader

/-! ## The machine -/

/-- The subscription is open and was sent something. -/
def StreamState.Served (state : StreamState) (handle : Handle) : Prop :=
  ∃ subscription, state.subscriptions[handle]? = some subscription ∧
    subscription.channel.receiverOpen = true ∧ subscription.sent ≠ []

/-- The invariant of the lossy reader. -/
structure Lagging (state : StreamState) : Prop where
  lag : LagCoherent state.Served state.reader
  known : ∀ handle, state.Served handle → state.reader.place ≠ .finished →
    state.reader.cachedActive = some ⟨handle, handle⟩

section Steps

variable {streamName : String} {options : StreamConfig} {state next : StreamState}

theorem LagAt.mono {served later : Handle → Prop} {reader : Reader} {place : Place}
    (lag : LagAt served reader place) (fewer : ∀ handle, later handle → served handle) :
    LagAt later reader place := by
  unfold LagAt at lag ⊢
  split
  case h_2 =>
    exact ⟨lag.1, fun active cached known => lag.2 active cached (fewer _ known)⟩
  all_goals exact lag

theorem Served.activeTx (registered : Registered state) {handle : Handle}
    (served : state.Served handle) : state.activeTx = some ⟨handle, handle⟩ := by
  obtain ⟨subscription, found, isOpen, _⟩ := served
  exact registered.activeTx_of_open found isOpen

/-- The reader moves on, with its old copy of the active subscriber or with a fresh one. -/
theorem Lagging.think (lagging : Lagging state) (registered : Registered state)
    (subscriptions : next.subscriptions = state.subscriptions)
    (busy : state.reader.place ≠ .finished) {before : Reader}
    (source : before.cachedActive = state.reader.cachedActive ∨
      before.cachedActive = state.activeTx)
    (copies : next.reader.cachedActive = before.cachedActive ∨ next.reader.place = .finished)
    (lag : LagCoherent state.Served next.reader) : Lagging next := by
  have same : next.Served = state.Served := by
    funext handle
    simp only [StreamState.Served, subscriptions]
  refine ⟨same ▸ lag, ?_⟩
  intro handle served running
  rw [same] at served
  rw [copies.resolve_right running]
  rcases source with old | fresh
  · exact old.trans (lagging.known handle served busy)
  · exact fresh.trans (Served.activeTx registered served)

/-- Other parties move. -/
theorem Lagging.others (lagging : Lagging state) (reader : next.reader = state.reader)
    (fewer : ∀ handle, next.Served handle → state.Served handle) : Lagging next := by
  refine ⟨?_, ?_⟩
  · rw [reader]
    exact ⟨lagging.lag.pending, lagging.lag.place.mono fewer⟩
  · rw [reader]
    intro handle served
    exact lagging.known handle (fewer handle served)

/-- The reader keeps its copy unless it ends. -/
theorem Reader.Settles.copies {before after : Reader} (settles : before.Settles after) :
    after.cachedActive = before.cachedActive ∨ after.place = .finished :=
  settles.1.imp_right And.right

/-- A channel without room was sent something. -/
theorem Channeled.served_of_full {handle : Handle} {subscription : SingleSubscription}
    {event : StreamEvent} (channeled : Channeled options subscription)
    (positive : 0 < options.maxBufferedChunks)
    (found : state.subscriptions[handle]? = some subscription)
    (full : subscription.channel.trySend event = .full) : state.Served handle := by
  obtain ⟨isOpen, length⟩ := BoundedChannel.of_full full
  refine ⟨subscription, found, isOpen, ?_⟩
  intro nothing
  have whole := channeled.whole isOpen
  rw [nothing, List.append_eq_nil_iff] at whole
  rw [whole.2, channeled.capacity, List.length_nil] at length
  omega

/-- The subscriber the reader refreshes to after a failed send is another one, to which nothing was
sent. -/
theorem Lagging.replaced (lagging : Lagging state) (registered : Registered state)
    {purpose : Purpose} (here : state.reader.place = .refreshing purpose) :
    (state.reader.lag.gapPending = true →
      state.reader.lag.subscriberId ≠ state.activeTx.map ActiveSubscriber.id) ∧
    ∀ active, state.activeTx = some active → ¬ state.Served active.sender := by
  have failed := registered.failed
  rw [here] at failed
  obtain ⟨old, cached, closed, inactive⟩ := failed
  refine ⟨?_, ?_⟩
  · intro owed same
    obtain ⟨active, copy, known⟩ := lagging.lag.pending owed
    cases cached.symm.trans copy
    rw [known, registered.active, Option.map_map] at same
    obtain ⟨id, current, equal⟩ := Option.map_eq_some_iff.mp same.symm
    exact inactive (current.trans (congrArg some equal))
  · intro active _ served
    have copy := lagging.known _ served (by rw [here]; nofun)
    cases cached.symm.trans copy
    obtain ⟨subscription, found, isOpen, _⟩ := served
    rw [closed subscription found] at isOpen
    cases isOpen

/-- Behind `read_buf`. -/
theorem Lagging.gotResult (lossy : options.deliveryGuarantee = .lossyWithoutBackpressure)
    (lagging : Lagging state) (registered : Registered state) {before : StreamState}
    (here : state.reader.place = .reading) (result : ReadResult)
    (subscriptions : before.subscriptions = state.subscriptions)
    (cached : before.reader.cachedActive = state.reader.cachedActive)
    (lag : before.reader.lag = state.reader.lag) :
    Lagging (before.gotResult streamName options result) := by
  have busy : state.reader.place ≠ .finished := by
    rw [here]
    nofun
  have pending : before.reader.PendingForCopy := by
    unfold Reader.PendingForCopy
    rw [cached, lag]
    exact lagging.lag.pending
  unfold StreamState.gotResult
  split
  · exact lagging.think registered subscriptions busy (.inl rfl) (.inl cached) ⟨pending, trivial⟩
  · exact lagging.think registered subscriptions busy (.inl cached)
      (Reader.afterRead_settles before.reader options streamName result).copies
      (afterRead_lagCoherent lossy pending result)

/-- Fewer subscriptions are served after one was changed without a send. -/
theorem served_of_change {handle other : Handle} {subscription changed : SingleSubscription}
    (found : state.subscriptions[handle]? = some subscription)
    (sent : changed.sent = subscription.sent)
    (isOpen : changed.channel.receiverOpen = true → subscription.channel.receiverOpen = true)
    (served : (state.withSubscription handle changed).Served other) : state.Served other := by
  obtain ⟨entry, there, entryOpen, nonempty⟩ := served
  rcases getElem?_set_cases there with ⟨rfl, rfl⟩ | ⟨_, there⟩
  · exact ⟨subscription, found, isOpen entryOpen, sent ▸ nonempty⟩
  · exact ⟨entry, there, entryOpen, nonempty⟩

theorem Consumes.sent_eq {subscription changed : SingleSubscription}
    (consumes : Consumes subscription changed) : changed.sent = subscription.sent := by
  cases consumes <;> rfl

/-- **Every move keeps the reader's account of its subscriber right.** -/
theorem Lagging.move (lossy : options.deliveryGuarantee = .lossyWithoutBackpressure)
    (positive : 0 < options.maxBufferedChunks) (coherent : Coherent options state)
    (lagging : Lagging state) (move : Move streamName options state next) : Lagging next := by
  have registered := coherent.sound.registered
  have coherentPlace := coherent.reader.place
  have place := lagging.lag.place
  have pending := lagging.lag.pending
  cases move with
  | @read bytes here _ => exact lagging.gotResult lossy registered here .data rfl rfl rfl
  | @ended result here _ => exact lagging.gotResult lossy registered here result rfl rfl rfl
  | changed here inactive =>
      have reads : (StreamState.observedIfLossy options state.refreshed).place = .reading :=
        (observedIfLossy_place options state.refreshed).trans here
      refine lagging.think registered rfl (by rw [here]; nofun)
        (.inr (observedIfLossy_cachedActive options state.refreshed)) (.inl rfl) ⟨?_, ?_⟩
      · simp only [StreamState.observedIfLossy, lossy]
        exact observe_pendingForCopy pending.subscriberId
      · rw [reads]
        trivial
  | @refreshRead result here =>
      refine lagging.think registered rfl (by rw [here]; nofun)
        (.inr (observedIfLossy_cachedActive options state.refreshed))
        (Reader.afterRead_settles _ options streamName result).copies ?_
      apply afterRead_lagCoherent lossy
      simp only [StreamState.observedIfLossy, lossy]
      exact observe_pendingForCopy pending.subscriberId
  | @record event shared recorded here pushed =>
      rw [here] at place coherentPlace
      refine lagging.think registered rfl (by rw [here]; nofun) (.inr rfl)
        (Reader.afterRecord_settles state.refreshed options { event, recorded }).copies ?_
      have owed : state.refreshed.lag.gapPending = true →
          state.refreshed.lag.subscriberId ≠ none := pending.subscriberId
      apply afterRecord_lagCoherent lossy owed
      intro running
      have isChunk : event.isChunk = true := by
        rcases coherentPlace.2 with ⟨chunk, rfl, _⟩ | ⟨terminal, _⟩
        · rfl
        · rw [show event.isTerminal = false from running] at terminal
          cases terminal
      obtain ⟨clear, observed⟩ := place isChunk
      refine ⟨clear, ?_⟩
      intro active copy served
      -- What was sent something is what the reader worked with before the refresh.
      have before := lagging.known _ served (by rw [here]; nofun)
      have equal := (registered.activeTx_valid copy).1
      rw [before] at observed
      exact observed.trans (congrArg some equal.symm)
  | @sent purpose active subscription channel here cached found sent =>
      rw [here] at coherentPlace
      have keeps := (Reader.afterSent_settles state.reader options purpose).copies
      refine ⟨afterSent_lagCoherent lossy coherentPlace lagging.lag here, ?_⟩
      rintro handle ⟨entry, there, entryOpen, nonempty⟩ running
      rw [keeps.resolve_right running]
      rcases getElem?_set_cases there with ⟨rfl, _⟩ | ⟨_, there⟩
      · rw [cached]
        exact congrArg some (Registered.eq_of_id (registered.cached active cached).1)
      · exact lagging.known handle ⟨entry, there, entryOpen, nonempty⟩ (by rw [here]; nofun)
  | @full purpose active subscription reader here cached found full after =>
      refine lagging.think registered rfl (by rw [here]; nofun) (.inl rfl)
        (Reader.afterFull_settles state.reader options after).copies ?_
      exact afterFull_lagCoherent lagging.lag here cached
        ((coherent.channels _ _ found).served_of_full positive found full) after
  | @failed purpose active subscription here cached found closed =>
      rw [here] at place
      refine lagging.think registered rfl (by rw [here]; nofun) (.inl rfl) (.inl rfl) ⟨pending, ?_⟩
      cases purpose with
      | gap => exact place
      | chunk attempt => exact place.1
      | flush attempt => exact place
      | deliver attempt => exact place
  | @cleared purpose active here =>
      rw [here] at place
      refine lagging.think registered (clearActiveIfCurrent_subscriptions state active.id)
        (by rw [here]; nofun) (.inl rfl) (.inl rfl) ⟨pending, ?_⟩
      cases purpose with
      | gap => exact place
      | chunk attempt => exact place
      | flush attempt => exact place
      | deliver attempt => exact place
  | @refreshed purpose here =>
      obtain ⟨other, unserved⟩ := lagging.replaced registered here
      rw [here] at place coherentPlace
      refine lagging.think registered rfl (by rw [here]; nofun) (.inr rfl)
        (Reader.afterRefresh_settles state.refreshed options purpose).copies ?_
      have fresh : LagAt state.Served state.refreshed (.refreshing purpose) := by
        cases purpose with
        | gap => exact place
        | chunk attempt => exact place
        | flush attempt => exact place
        | deliver attempt => exact place
      exact afterRefresh_lagCoherent lossy coherentPlace fresh other unserved
  | yielded here =>
      exact lagging.think registered rfl (by rw [here]; nofun) (.inl rfl)
        (Reader.nextChunk_settles state.reader options).copies (nextChunk_lagCoherent lossy pending)
  | attached subscribed =>
      rw [trySubscribe_eq] at subscribed
      split at subscribed
      · cases subscribed
      · cases subscribed
        refine lagging.others rfl ?_
        rintro handle ⟨entry, there, entryOpen, nonempty⟩
        rcases getElem?_concat_cases there with there | ⟨_, rfl⟩
        · exact ⟨entry, there, entryOpen, nonempty⟩
        · exact absurd rfl nonempty
  | refused _ => exact lagging
  | consumed found consumes =>
      refine lagging.others rfl ?_
      intro handle served
      exact served_of_change found consumes.sent_eq (fun isOpen => (consumes.isOpen isOpen).1) served
  | @unregistered handle subscription found dropping =>
      refine lagging.others (clearActiveIfCurrent_reader state subscription.id) ?_
      intro other served
      have still := found_of_clear found subscription.id
      obtain ⟨entry, there, entryOpen, nonempty⟩ : (state.clearActiveIfCurrent
          subscription.id).Served other := by
        refine served_of_change still ?_ ?_ served
        · rfl
        · exact id
      rw [clearActiveIfCurrent_subscriptions] at there
      exact ⟨entry, there, entryOpen, nonempty⟩
  | replaySealed emptied => exact lagging.others rfl fun _ served => served

end Steps

section Runs

variable {streamName : String} {options : ValidConfig} {state next : StreamState}
  {action : Action}

theorem lagging_init : Lagging {} where
  lag := ⟨nofun, trivial⟩
  known := by
    rintro handle ⟨subscription, found, _⟩
    cases found

theorem reachable_lagging (lossy : options.deliveryGuarantee = .lossyWithoutBackpressure)
    (reachable : (streamMachine streamName options).ReachableBy StreamKept state) :
    Lagging state := by
  apply reachable.invariant_using reachable_coherent lagging_init
  intro state next action coherent lagging kept stepped
  exact lagging.move lossy options.maxBufferedChunks_pos coherent
    (step_move coherent.sound.registered.kept kept stepped)

end Runs

end TokioProcessTools.OutputStream.Backend.SingleSubscriber
