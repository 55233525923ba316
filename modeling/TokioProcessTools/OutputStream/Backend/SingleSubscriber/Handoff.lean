import TokioProcessTools.OutputStream.Backend.SingleSubscriber.Coherence

/-!
# Reliable hand-over between subscribers

With backpressure the reader sends each recorded event to the subscriber that was
active when the event was recorded. If that subscriber is gone and later ones do
not find the event in the replay window, the reader sends it once more, to
whoever is active then.

A subscription therefore observes the log from some position on. That position is
fixed when the subscription attaches: the beginning of the replay it is given, or
the event the reader is about to send once more. What the subscription has not
yet observed is unread replay, in its channel, or in the reader's hands.
-/

set_option autoImplicit false

namespace TokioProcessTools.OutputStream.Backend.SingleSubscriber

open Foundation

/-! ## The event in the reader's hands -/

/-- If its send fails, the event goes to this subscriber next. -/
def Attempt.Repeats (attempt : Attempt) (activeTx : Option ActiveSubscriber) (handle : Handle) :
    Prop :=
  attempt.recorded = false ∧ attempt.retried = false ∧ activeTx = some ⟨handle, handle⟩

instance (attempt : Attempt) (activeTx : Option ActiveSubscriber) (handle : Handle) :
    Decidable (attempt.Repeats activeTx handle) :=
  inferInstanceAs (Decidable (_ ∧ _ ∧ _))

/-- The event the reader is sending to a subscriber. -/
def StreamState.inFlight (state : StreamState) (handle : Handle) : List StreamEvent :=
  match state.reader.place with
  | .sending (.deliver attempt) =>
      if state.reader.cachedActive = some ⟨handle, handle⟩ ∨
          attempt.Repeats state.activeTx handle then
        [attempt.event]
      else []
  | .clearing (.deliver attempt) _ | .refreshing (.deliver attempt) =>
      if attempt.Repeats state.activeTx handle then [attempt.event] else []
  | _ => []

/-- Places at which no event is on its way. -/
def Place.Idle : Place → Prop
  | .reading | .refreshRead _ | .record _ | .yielding | .finished => True
  | .sending _ | .clearing _ _ | .refreshing _ | .aborted => False

section InFlight

variable {streamName : String} {options : StreamConfig} {state next : StreamState}
  {reader : Reader} {attempt : Attempt} {handle : Handle}

theorem inFlight_of_idle (idle : state.reader.place.Idle) : state.inFlight handle = [] := by
  unfold StreamState.inFlight
  split
  · rename_i here
    rw [here] at idle
    exact idle.elim
  · rename_i here
    rw [here] at idle
    exact idle.elim
  · rename_i here
    rw [here] at idle
    exact idle.elim
  · rfl

theorem inFlight_sending (here : state.reader.place = .sending (.deliver attempt)) :
    state.inFlight handle =
      if state.reader.cachedActive = some ⟨handle, handle⟩ ∨
          attempt.Repeats state.activeTx handle then
        [attempt.event]
      else [] := by
  simp only [StreamState.inFlight, here]

theorem inFlight_clearing {active : ActiveSubscriber}
    (here : state.reader.place = .clearing (.deliver attempt) active) :
    state.inFlight handle = if attempt.Repeats state.activeTx handle then [attempt.event] else [] := by
  simp only [StreamState.inFlight, here]

theorem inFlight_refreshing (here : state.reader.place = .refreshing (.deliver attempt)) :
    state.inFlight handle = if attempt.Repeats state.activeTx handle then [attempt.event] else [] := by
  simp only [StreamState.inFlight, here]

/-- The event depends on the reader and on the active subscriber. -/
theorem inFlight_congr (reader : next.reader = state.reader)
    (active : next.activeTx = state.activeTx) : next.inFlight handle = state.inFlight handle := by
  simp only [StreamState.inFlight, reader, active]

variable (reliable : options.deliveryGuarantee = .reliableWithBackpressure)
include reliable

theorem nextChunk_idle : (reader.nextChunk options).place.Idle := by
  unfold Reader.nextChunk
  split
  · trivial
  · rw [reliable]
    trivial

theorem afterEvent_idle (event : StreamEvent) : (reader.afterEvent options event).place.Idle := by
  unfold Reader.afterEvent
  split
  · trivial
  · exact nextChunk_idle reliable

theorem afterRead_idle (result : ReadResult) :
    (reader.afterRead streamName options result).place.Idle := by
  cases result with
  | data => exact nextChunk_idle reliable
  | eof => trivial
  | failed error => trivial

theorem gotResult_idle (result : ReadResult) :
    (state.gotResult streamName options result).reader.place.Idle := by
  unfold StreamState.gotResult
  split
  · trivial
  · exact afterRead_idle reliable result

/-- The reader starts to deliver an event with a fresh copy of the active subscriber. -/
theorem inFlight_startDeliver (reads : next.reader = reader.startDeliver options attempt)
    (fresh : reader.cachedActive = next.activeTx) :
    next.inFlight handle =
      if next.activeTx = some ⟨handle, handle⟩ then [attempt.event] else [] := by
  cases active : next.activeTx with
  | none =>
      have idle : next.reader.place.Idle := by
        rw [reads]
        simp only [Reader.startDeliver, fresh, active]
        exact afterEvent_idle reliable _
      rw [inFlight_of_idle idle, if_neg nofun]
  | some current =>
      have sends : next.reader = { reader with place := .sending (.deliver attempt) } := by
        rw [reads]
        simp only [Reader.startDeliver, fresh, active]
      have here : next.reader.place = .sending (.deliver attempt) := by rw [sends]
      have cached : next.reader.cachedActive = some current := by
        rw [sends]
        exact fresh.trans active
      rw [inFlight_sending here, cached]
      by_cases same : some current = some ⟨handle, handle⟩
      · rw [if_pos (.inl same), if_pos same]
      · rw [if_neg, if_neg same]
        rintro (equal | ⟨_, _, equal⟩)
        · exact same equal
        · exact same (active.symm.trans equal)

end InFlight

/-! ## What a subscription was sent, and what it has observed -/

/-- The books of one subscription. `initial` is the replay it was given, with the terminal event if
that was recorded by then, and `first` is where it begins in the log. -/
structure Handed (initial : List StreamEvent) (first : Nat) (handle : Handle)
    (state : StreamState) (subscription : SingleSubscription) : Prop where
  bound : first ≤ state.log.length
  part : initial ++ subscription.sent <+: state.log.drop first
  whole : subscription.channel.receiverOpen = true →
    initial ++ subscription.sent ++ state.inFlight handle = state.log.drop first
  books : subscription.received ++ subscription.replay ++ subscription.terminalEvent.toList =
    initial ++ subscription.live
  unread : subscription.replay ++ subscription.terminalEvent.toList ≠ [] → subscription.live = []
  terminal : ∀ event, subscription.terminalEvent = some event → event.isTerminal = true
  /-- The receiver is dropped when the stored terminal event is yielded. -/
  done : subscription.status = .inUse → subscription.channel.receiverOpen = false →
    state.shared.terminalEvent.isSome = true ∧ subscription.replay = [] ∧
      subscription.terminalEvent = none ∧ subscription.received = state.log.drop first

section Steps

variable {streamName : String} {options : StreamConfig} {state next : StreamState}
  {initial : List StreamEvent} {first : Nat} {handle : Handle}
  {subscription changed : SingleSubscription}

/-- Nothing is recorded behind a terminal event. -/
theorem Logged.last_of_terminal {shared : ReplayState} {log : List StreamEvent}
    (logged : Logged options shared log) {earlier later : List StreamEvent} {event : StreamEvent}
    (terminal : event.isTerminal = true) (split : log = earlier ++ event :: later) :
    later = [] ∧ shared.terminalEvent = some event := by
  have notChunk : ¬ event.isChunk = true := by
    intro isChunk
    rw [StreamEvent.isTerminal_of_isChunk isChunk] at terminal
    cases terminal
  cases stored : shared.terminalEvent with
  | none => exact absurd (logged.running stored event (by simp [split])) notChunk
  | some last =>
      obtain ⟨_, front, whole, chunks⟩ := logged.terminal last stored
      rw [whole] at split
      rcases List.eq_nil_or_concat' later with rfl | ⟨rest, final, rfl⟩
      · obtain ⟨_, same⟩ := List.append_inj' split rfl
        exact ⟨rfl, by rw [List.cons.inj same |>.1]⟩
      · rw [← List.cons_append, ← List.append_assoc] at split
        obtain ⟨same, _⟩ := List.append_inj' split rfl
        exact absurd (chunks event (by simp [same])) notChunk

/-- A step that leaves the log and the subscription alone. -/
theorem Handed.frame (handed : Handed initial first handle state subscription)
    (log : next.log = state.log)
    (terminal : next.shared.terminalEvent = state.shared.terminalEvent)
    (flight : subscription.channel.receiverOpen = true →
      next.inFlight handle = state.inFlight handle) :
    Handed initial first handle next subscription := by
  refine ⟨?_, ?_, ?_, handed.books, handed.unread, handed.terminal, ?_⟩
  · rw [log]
    exact handed.bound
  · rw [log]
    exact handed.part
  · intro isOpen
    rw [log, flight isOpen]
    exact handed.whole isOpen
  · rw [log, terminal]
    exact handed.done

/-- An event is recorded. -/
theorem Handed.record (handed : Handed initial first handle state subscription)
    {event : StreamEvent} (log : next.log = state.log ++ [event])
    (running : state.shared.terminalEvent = none) (quiet : state.inFlight handle = [])
    (flight : subscription.channel.receiverOpen = true → next.inFlight handle = [event]) :
    Handed initial first handle next subscription := by
  have grown : next.log.drop first = state.log.drop first ++ [event] := by
    rw [log, List.drop_append_of_le_length handed.bound]
  refine ⟨?_, ?_, ?_, handed.books, handed.unread, handed.terminal, ?_⟩
  · rw [log, List.length_append]
    exact Nat.le_add_right_of_le handed.bound
  · rw [grown]
    exact handed.part.trans (List.prefix_append _ _)
  · intro isOpen
    have whole := handed.whole isOpen
    rw [quiet, List.append_nil] at whole
    rw [grown, flight isOpen, whole]
  · intro inUse closed
    have stored := (handed.done inUse closed).1
    rw [running] at stored
    cases stored

/-- The event in the reader's hands reaches the subscription. -/
theorem Handed.send (handed : Handed initial first handle state subscription)
    {event : StreamEvent} {channel : BoundedChannel StreamEvent}
    (log : next.log = state.log)
    (sent : subscription.channel.trySend event = .sent channel)
    (flight : state.inFlight handle = [event]) (quiet : next.inFlight handle = []) :
    Handed initial first handle next
      { subscription with channel, sent := subscription.sent ++ [event] } := by
  obtain ⟨isOpen, _, rfl⟩ := BoundedChannel.of_sent sent
  have whole := handed.whole isOpen
  rw [flight] at whole
  refine ⟨?_, ?_, ?_, handed.books, handed.unread, handed.terminal, ?_⟩
  · rw [log]
    exact handed.bound
  · rw [log, ← whole, List.append_assoc]
  · intro _
    rw [log, quiet, ← whole, List.append_nil, List.append_assoc]
  · intro _ closed
    rw [isOpen] at closed
    cases closed

/-- The subscription yields an event, or drops its receiver. -/
theorem Handed.consume (handed : Handed initial first handle state subscription)
    (logged : Logged options state.shared state.log)
    (consumes : Consumes subscription changed) :
    Handed initial first handle state changed := by
  obtain ⟨bound, part, whole, books, unread, terminal, done⟩ := handed
  cases consumes with
  | @replay event replay _ pending =>
      rw [pending] at books unread
      refine ⟨bound, part, whole, ?_, ?_, terminal, ?_⟩
      · rw [← books]
        simp
      · intro _
        exact unread (by simp)
      · intro inUse closed
        obtain ⟨_, none, _⟩ := done inUse closed
        rw [pending] at none
        cases none
  | @terminal event inUse read stored =>
      have last := terminal event stored
      have idle : subscription.live = [] := unread (by simp [stored])
      have taken : subscription.received ++ [event] = initial := by
        simpa [read, stored, idle] using books
      refine ⟨bound, part, nofun, ?_, ?_, nofun, ?_⟩
      · simpa [read, idle] using taken
      · intro _
        exact idle
      · intro _ _
        by_cases isOpen : subscription.channel.receiverOpen = true
        · have split : state.log = (state.log.take first ++ subscription.received) ++
              event :: (subscription.sent ++ state.inFlight handle) := by
            have rest := whole isOpen
            rw [← taken] at rest
            conv_lhs => rw [← List.take_append_drop first state.log, ← rest]
            simp
          obtain ⟨none, kept⟩ := logged.last_of_terminal last split
          refine ⟨by simp [kept], read, rfl, ?_⟩
          have rest := whole isOpen
          rw [List.append_assoc, none, List.append_nil, ← taken] at rest
          exact rest
        · obtain ⟨_, _, none, _⟩ := done inUse (by simpa using isOpen)
          rw [stored] at none
          cases none
  | @live event channel _ read stored isOpen received =>
      obtain ⟨rest, _, rfl⟩ := BoundedChannel.of_recv received
      refine ⟨bound, part, whole, ?_, ?_, terminal, ?_⟩
      · simp only [read, stored, Option.toList_none, List.append_nil] at books ⊢
        rw [books, List.append_assoc]
      · intro pending
        exact absurd (by simp [read, stored]) pending
      · intro _ closed
        rw [show subscription.channel.receiverOpen = false from closed] at isOpen
        cases isOpen
  | none _ => exact ⟨bound, part, whole, books, unread, terminal, done⟩
  | close _ => exact ⟨bound, part, nofun, books, unread, terminal, nofun⟩

theorem Registered.eq_of_id {active : ActiveSubscriber} (equal : active.id = active.sender) :
    active = ⟨active.sender, active.sender⟩ := by
  cases active
  cases equal
  rfl

/-- A subscription whose receiver is open keeps its registration when another is cleared. -/
theorem activeTx_of_still_open (registered : Registered state) (later : Registered next)
    (found : state.subscriptions[handle]? = some subscription)
    (still : next.subscriptions[handle]? = some subscription)
    (isOpen : subscription.channel.receiverOpen = true) : next.activeTx = state.activeTx :=
  (later.activeTx_of_open still isOpen).trans (registered.activeTx_of_open found isOpen).symm

/-- The reader is busy with one subscriber, and another one is open. -/
theorem ne_of_closed {active : ActiveSubscriber}
    (cached : state.reader.cachedActive = some active) {other : SingleSubscription}
    (there : state.subscriptions[active.sender]? = some other)
    (closed : other.channel.receiverOpen = false)
    (found : state.subscriptions[handle]? = some subscription)
    (isOpen : subscription.channel.receiverOpen = true) :
    state.reader.cachedActive ≠ some ⟨handle, handle⟩ := by
  intro same
  rw [cached, Option.some.injEq] at same
  rw [same, found, Option.some.injEq] at there
  rw [there, closed] at isOpen
  cases isOpen

/-- The reader only goes through `deliver_reliable_event`. -/
theorem PurposeCoherent.deliver_of_reliable {shared : ReplayState} {log : List StreamEvent}
    {source : List UInt8} {reader : Reader} {purpose : Purpose}
    (reliable : options.deliveryGuarantee = .reliableWithBackpressure)
    (coherent : PurposeCoherent options shared log source reader purpose) :
    ∃ attempt, purpose = .deliver attempt := by
  cases purpose with
  | gap => exact absurd (reliable.symm.trans coherent.1) nofun
  | chunk attempt => exact absurd (reliable.symm.trans coherent.1) nofun
  | flush attempt => exact absurd (reliable.symm.trans coherent.1) nofun
  | deliver attempt => exact ⟨attempt, rfl⟩

/-- Behind `read_buf`. -/
theorem Handed.gotResult (reliable : options.deliveryGuarantee = .reliableWithBackpressure)
    (found : state.subscriptions[handle]? = some subscription)
    (handed : Handed initial first handle state subscription)
    (idle : state.reader.place.Idle) {before : StreamState} (result : ReadResult)
    (shared : before.shared = state.shared) (log : before.log = state.log)
    (subscriptions : before.subscriptions = state.subscriptions) :
    ∃ subscription,
      (before.gotResult streamName options result).subscriptions[handle]? = some subscription ∧
      Handed initial first handle (before.gotResult streamName options result) subscription := by
  have still : (before.gotResult streamName options result).reader.place.Idle :=
    gotResult_idle reliable result
  obtain ⟨reader, same⟩ := gotResult_eq before streamName options result
  rw [same] at still ⊢
  refine ⟨subscription, ?_, handed.frame log (congrArg _ shared) ?_⟩
  · rw [← found, ← subscriptions]
  · intro _
    rw [inFlight_of_idle idle, inFlight_of_idle still]

/-- The second try behind a refresh is for an event that was neither recorded nor tried twice; any
other event is not in flight any more. -/
theorem inFlight_afterRefresh (reliable : options.deliveryGuarantee = .reliableWithBackpressure)
    {attempt : Attempt} (here : state.reader.place = .refreshing (.deliver attempt))
    (active : state.activeTx = some ⟨handle, handle⟩) :
    StreamState.inFlight { state with
        reader := state.refreshed.afterRefresh options (.deliver attempt) } handle =
      state.inFlight handle := by
  rw [inFlight_refreshing here]
  by_cases exceeds : attempt.recorded = true ∨ attempt.retried = true
  · have stops : state.refreshed.afterRefresh options (.deliver attempt) =
        state.refreshed.afterEvent options attempt.event := if_pos exceeds
    rw [if_neg, inFlight_of_idle]
    · rw [stops]
      exact afterEvent_idle reliable _
    · rintro ⟨unrecorded, unretried, _⟩
      simp [unrecorded, unretried] at exceeds
  · have again : state.refreshed.afterRefresh options (.deliver attempt) =
        state.refreshed.startDeliver options { attempt with retried := true } := if_neg exceeds
    obtain ⟨unrecorded, unretried⟩ := not_or.mp exceeds
    rw [inFlight_startDeliver reliable again rfl, if_pos active, if_pos]
    exact ⟨by simpa using unrecorded, by simpa using unretried, active⟩

/-- **Every move keeps the books of a subscription.** -/
theorem Handed.move (reliable : options.deliveryGuarantee = .reliableWithBackpressure)
    (coherent : Coherent options state) (later : Coherent options next)
    (found : state.subscriptions[handle]? = some subscription)
    (handed : Handed initial first handle state subscription)
    (move : Move streamName options state next) :
    ∃ subscription, next.subscriptions[handle]? = some subscription ∧
      Handed initial first handle next subscription := by
  have place := coherent.reader.place
  have registered := coherent.sound.registered
  have quiet : state.reader.place.Idle → next.reader.place.Idle →
      next.inFlight handle = state.inFlight handle := by
    intro idle still
    rw [inFlight_of_idle idle, inFlight_of_idle still]
  cases move with
  | @read bytes here _ =>
      exact handed.gotResult reliable found (by rw [here]; trivial) .data rfl rfl rfl
  | @ended result here _ =>
      exact handed.gotResult reliable found (by rw [here]; trivial) result rfl rfl rfl
  | changed here _ =>
      refine ⟨subscription, found, handed.frame rfl rfl fun _ => quiet (by rw [here]; trivial) ?_⟩
      rw [observedIfLossy_place, show state.refreshed.place = .reading from here]
      trivial
  | refreshRead here =>
      refine ⟨subscription, found, handed.frame rfl rfl fun _ => quiet (by rw [here]; trivial) ?_⟩
      exact afterRead_idle reliable _
  | @record event shared recorded here pushed =>
      rw [here] at place
      have idle : state.inFlight handle = [] := inFlight_of_idle (by rw [here]; trivial)
      refine ⟨subscription, found, handed.record rfl place.1 idle ?_⟩
      intro isOpen
      have active := registered.activeTx_of_open found isOpen
      have starts : state.refreshed.afterRecord options { event, recorded } =
          state.refreshed.startDeliver options { event, recorded } := by
        simp only [Reader.afterRecord, reliable]
      rw [inFlight_startDeliver reliable starts rfl]
      exact if_pos active
  | @sent purpose active target channel here cached there sent =>
      rw [here] at place
      obtain ⟨attempt, rfl⟩ := place.deliver_of_reliable reliable
      have emptied : ∀ subscriptions, StreamState.inFlight { state with
          subscriptions, reader := state.reader.afterSent options (.deliver attempt) } handle =
            [] := by
        intro subscriptions
        exact inFlight_of_idle (afterEvent_idle reliable attempt.event)
      obtain ⟨equal, _⟩ := registered.cached active cached
      refine exists_getElem?_set found there ?_ ?_
      · rintro rfl rfl
        have flight : state.inFlight active.sender = [attempt.event] := by
          rw [inFlight_sending here]
          refine if_pos (.inl ?_)
          rw [cached, Registered.eq_of_id equal]
        exact handed.send rfl sent flight (emptied _)
      · intro other
        refine handed.frame rfl rfl ?_
        intro isOpen
        have targetOpen := (BoundedChannel.of_sent sent).1
        exact absurd (registered.eq_of_open found isOpen there targetOpen) other
  | @full purpose active target reader here cached there full after =>
      rw [here] at place
      obtain ⟨attempt, rfl⟩ := place.deliver_of_reliable reliable
      cases after
  | @failed purpose active target here cached there closed =>
      rw [here] at place
      obtain ⟨attempt, rfl⟩ := place.deliver_of_reliable reliable
      refine ⟨subscription, found, handed.frame rfl rfl ?_⟩
      intro isOpen
      have other := ne_of_closed cached there (BoundedChannel.of_closed closed) found
        isOpen
      rw [inFlight_sending here, inFlight_clearing rfl]
      simp only [other, false_or]
  | @cleared purpose active here =>
      rw [here] at place
      obtain ⟨attempt, rfl⟩ := place.deliver_of_reliable reliable
      have still := found_of_clear found active.id
      refine ⟨subscription, still, handed.frame ?_ ?_ ?_⟩
      · exact clearActiveIfCurrent_log state active.id
      · exact clearActiveIfCurrent_terminalEvent state active.id
      · intro isOpen
        have same := activeTx_of_still_open registered later.sound.registered found still isOpen
        rw [inFlight_clearing here, inFlight_refreshing rfl]
        exact if_congr (iff_of_eq (congrArg (attempt.Repeats · handle) same)) rfl rfl
  | @refreshed purpose here =>
      rw [here] at place
      obtain ⟨attempt, rfl⟩ := place.deliver_of_reliable reliable
      refine ⟨subscription, found, handed.frame rfl rfl ?_⟩
      intro isOpen
      exact inFlight_afterRefresh reliable here (registered.activeTx_of_open found isOpen)
  | yielded here =>
      refine ⟨subscription, found, handed.frame rfl rfl fun _ => quiet (by rw [here]; trivial) ?_⟩
      exact nextChunk_idle reliable
  | attached subscribed =>
      obtain ⟨rfl, still, closed⟩ := registered.others_of_attached subscribed found
      exact ⟨subscription, still, handed.frame rfl rfl fun isOpen => absurd isOpen closed⟩
  | refused _ => exact ⟨subscription, found, handed⟩
  | @consumed other target changed there consumes =>
      refine exists_getElem?_set found there ?_ ?_
      · rintro rfl rfl
        exact (handed.consume coherent.logged consumes).frame rfl rfl fun _ => inFlight_congr rfl rfl
      · intro _
        exact handed.frame rfl rfl fun _ => inFlight_congr rfl rfl
  | @unregistered other target there dropping =>
      have log := clearActiveIfCurrent_log state target.id
      have terminal := clearActiveIfCurrent_terminalEvent state target.id
      refine exists_getElem?_set (found_of_clear found target.id)
        (found_of_clear there target.id) ?_ ?_
      · rintro rfl rfl
        have marked : Handed initial first handle state
            { subscription with status := .dropped } :=
          ⟨handed.bound, handed.part, handed.whole, handed.books, handed.unread, handed.terminal,
            nofun⟩
        have closed := registered.closed_of_dropping found dropping
        exact marked.frame log terminal fun isOpen => absurd isOpen closed
      · intro different
        refine handed.frame log terminal ?_
        intro isOpen
        have still : ((state.clearActiveIfCurrent target.id).withSubscription other
            { target with status := .dropped }).subscriptions[handle]? = some subscription :=
          (List.getElem?_set_ne (Ne.symm different)).trans (found_of_clear found target.id)
        refine inFlight_congr (clearActiveIfCurrent_reader state target.id) ?_
        exact activeTx_of_still_open registered later.sound.registered found still isOpen
  | replaySealed emptied =>
      rw [ReplayState.sealReplay_eq coherent.sound.counted options] at emptied
      cases emptied
      exact ⟨subscription, found, handed.frame rfl rfl fun _ => inFlight_congr rfl rfl⟩

/-- The log grows at its end. -/
theorem Move.log_prefix (move : Move streamName options state next) : state.log <+: next.log := by
  cases move with
  | read _ _ =>
      obtain ⟨reader, same⟩ := gotResult_eq _ streamName options _
      rw [same]
  | ended _ _ =>
      obtain ⟨reader, same⟩ := gotResult_eq _ streamName options _
      rw [same]
  | record _ _ => exact List.prefix_append _ _
  | cleared _ => exact (clearActiveIfCurrent_log state _).symm ▸ List.prefix_refl _
  | attached subscribed =>
      rw [trySubscribe_eq] at subscribed
      split at subscribed
      · cases subscribed
      · cases subscribed
        exact List.prefix_refl _
  | unregistered _ _ => exact (clearActiveIfCurrent_log state _).symm ▸ List.prefix_refl _
  | _ => exact List.prefix_refl _

end Steps

/-! ## The beginning -/

section Attach

variable {options : StreamConfig} {state : StreamState}

/-- What a new subscription is given. -/
def StreamState.initial (state : StreamState) (options : StreamConfig) : List StreamEvent :=
  state.shared.replaySnapshot options ++ state.shared.terminalEvent.toList

theorem Logged.initial_suffix (logged : Logged options state.shared state.log) :
    state.initial options <:+ state.log := by
  unfold StreamState.initial ReplayState.replaySnapshot
  split
  · exact (List.suffix_append _ _).trans logged.suffix
  · exact logged.suffix

/-- When a subscriber attaches, either nothing is on its way to it, or the last event of the log,
which is not in the replay window. -/
theorem attached_inFlight (reliable : options.deliveryGuarantee = .reliableWithBackpressure)
    (coherent : Coherent options state) :
    (state.attached options).inFlight state.subscriptions.length = [] ∨
      ∃ front event, (state.attached options).inFlight state.subscriptions.length = [event] ∧
        state.log = front ++ [event] ∧ state.shared.terminalEvent = none ∧
        (options.replayRetention = none ∨ state.shared.replaySealed = true) := by
  have place := coherent.reader.place
  have stale : state.reader.cachedActive ≠
      some ⟨state.subscriptions.length, state.subscriptions.length⟩ := by
    intro cached
    exact Nat.lt_irrefl _ (coherent.sound.registered.cached _ cached).2
  have repeats : ∀ attempt, Carries options state.shared state.log state.source
      state.reader.position state.reader.buffer attempt →
        attempt.Repeats (state.attached options).activeTx state.subscriptions.length →
          ∃ front, state.log = front ++ [attempt.event] ∧ state.shared.terminalEvent = none ∧
            (options.replayRetention = none ∨ state.shared.replaySealed = true) := by
    rintro attempt carries ⟨unrecorded, _, _⟩
    obtain ⟨isChunk, unretained⟩ := carries.unrecorded unrecorded
    obtain ⟨front, last⟩ := carries.last
    exact ⟨front, last, carries.running isChunk, unretained⟩
  by_cases idle : (state.attached options).inFlight state.subscriptions.length = []
  · exact .inl idle
  · refine .inr ?_
    have same : (state.attached options).reader.place = state.reader.place := rfl
    cases here : state.reader.place with
    | sending purpose =>
        rw [here] at place
        obtain ⟨attempt, rfl⟩ := place.deliver_of_reliable reliable
        rw [inFlight_sending (same.trans here)] at idle ⊢
        split at idle
        · rename_i busy
          obtain ⟨front, rest⟩ := repeats attempt place.2 (busy.resolve_left stale)
          exact ⟨front, attempt.event, if_pos busy, rest⟩
        · exact absurd rfl idle
    | clearing purpose active =>
        rw [here] at place
        obtain ⟨attempt, rfl⟩ := place.deliver_of_reliable reliable
        rw [inFlight_clearing (same.trans here)] at idle ⊢
        split at idle
        · rename_i busy
          obtain ⟨front, rest⟩ := repeats attempt place.2 busy
          exact ⟨front, attempt.event, if_pos busy, rest⟩
        · exact absurd rfl idle
    | refreshing purpose =>
        rw [here] at place
        obtain ⟨attempt, rfl⟩ := place.deliver_of_reliable reliable
        rw [inFlight_refreshing (same.trans here)] at idle ⊢
        split at idle
        · rename_i busy
          obtain ⟨front, rest⟩ := repeats attempt place.2 busy
          exact ⟨front, attempt.event, if_pos busy, rest⟩
        · exact absurd rfl idle
    | aborted =>
        rw [here] at place
        exact place.elim
    | _ =>
        refine absurd (inFlight_of_idle ?_) idle
        rw [same.trans here]
        trivial

/-- Where a subscription that attaches begins to observe the log. -/
structure Begins (options : StreamConfig) (before : StreamState) (first : Nat) : Prop where
  bound : first ≤ before.log.length
  initial : before.initial options = [] ∨ before.log.drop first = before.initial options
  /-- With replay, at the oldest retained chunk. -/
  retained : options.replayRetention ≠ none → before.shared.replaySealed = false →
    ∃ earlier, before.log =
      earlier ++ (before.shared.events ++ before.shared.terminalEvent.toList) ∧
        first = earlier.length

theorem exists_begins (reliable : options.deliveryGuarantee = .reliableWithBackpressure)
    (coherent : Coherent options state) :
    ∃ first, Begins options state first ∧
      Handed (state.initial options) first state.subscriptions.length (state.attached options)
        (state.newSubscription options) := by
  have books : ∀ first, first ≤ state.log.length →
      state.initial options <+: state.log.drop first →
      state.initial options ++ (state.attached options).inFlight state.subscriptions.length =
        state.log.drop first →
      Handed (state.initial options) first state.subscriptions.length (state.attached options)
        (state.newSubscription options) := by
    intro first bound part whole
    refine ⟨bound, ?_, ?_, ?_, fun _ => rfl, ?_, nofun⟩
    · exact (List.append_nil _).symm ▸ part
    · intro _
      exact (List.append_nil (state.initial options)).symm ▸ whole
    · simp [StreamState.newSubscription, StreamState.initial]
    · intro event stored
      exact (coherent.logged.terminal event stored).1
  rcases attached_inFlight reliable coherent with quiet | ⟨front, event, flight, log, running, off⟩
  · obtain ⟨earlier, log⟩ := coherent.logged.initial_suffix
    have rest : state.log.drop earlier.length = state.initial options := by
      rw [← log, List.drop_left]
    have bound : earlier.length ≤ state.log.length := by
      rw [← log, List.length_append]
      exact Nat.le_add_right _ _
    refine ⟨earlier.length, ⟨bound, .inr rest, ?_⟩, books _ bound ?_ ?_⟩
    · intro retention unsealed
      refine ⟨earlier, ?_, rfl⟩
      rw [← log]
      simp [StreamState.initial, ReplayState.replaySnapshot, ReplayState.snapshotEvents, unsealed,
        retention]
    · rw [rest]
    · rw [rest, quiet, List.append_nil]
  · have none : state.initial options = [] := by
      simp only [StreamState.initial, ReplayState.replaySnapshot, running, Option.toList_none,
        List.append_nil]
      exact if_pos off.symm
    have bound : front.length ≤ state.log.length := by
      rw [log, List.length_append]
      exact Nat.le_add_right _ _
    refine ⟨front.length, ⟨bound, .inl none, ?_⟩, books _ bound ?_ ?_⟩
    · intro retention unsealed
      rcases off with absent | isSealed
      · exact absurd absent retention
      · rw [unsealed] at isSealed
        cases isSealed
    · rw [none]
      exact List.nil_prefix
    · rw [none, flight, log, List.drop_left, List.nil_append]

end Attach

/-! ## Runs -/

/-- What holds of a subscription at any time behind its attach. Events are numbered by their
position in the log. -/
structure HandedOver (before state : StreamState) (first : Nat) (handle : Handle)
    (subscription : SingleSubscription) : Prop where
  /-- A chunk keeps its number. -/
  numbered : before.log <+: state.log
  /-- The log is chunks, and then at most one terminal event. -/
  shape : ∀ position event, state.log[position]? = some event → event.isChunk = true ∨
    (event.isTerminal = true ∧ position + 1 = state.log.length)
  /-- What was observed is one contiguous part of the log. -/
  observed : subscription.received <+: state.log.drop first
  accounted : subscription.channel.receiverOpen = true →
    subscription.received ++ (subscription.replay ++ subscription.terminalEvent.toList) ++
      subscription.channel.queue ++ state.inFlight handle = state.log.drop first
  /-- What was recorded behind the attach was observed in its place, is in the channel, or is in
  the reader's hands. -/
  since : subscription.status = .inUse → ∀ position event, before.log.length ≤ position →
    state.log[position]? = some event →
      subscription.received[position - first]? = some event ∨
        event ∈ subscription.channel.queue ∨ event ∈ state.inFlight handle

section Runs

variable {streamName : String} {options : ValidConfig} {before after state : StreamState}
  {first : Nat} {handle : Handle} {subscription : SingleSubscription}

theorem Logged.shape {config : StreamConfig} {shared : ReplayState} {log : List StreamEvent}
    (logged : Logged config shared log) {position : Nat} {event : StreamEvent}
    (found : log[position]? = some event) :
    event.isChunk = true ∨ (event.isTerminal = true ∧ position + 1 = log.length) := by
  cases stored : shared.terminalEvent with
  | none => exact .inl (logged.running stored event (List.mem_of_getElem? found))
  | some last =>
      obtain ⟨terminal, front, rfl, chunks⟩ := logged.terminal last stored
      rw [List.getElem?_append] at found
      split at found
      · exact .inl (chunks event (List.mem_of_getElem? found))
      · rename_i outside
        obtain ⟨inside, same⟩ := List.getElem?_eq_some_iff.mp found
        rw [List.length_singleton] at inside
        have zero : position - front.length = 0 := by omega
        simp only [zero, List.getElem_cons_zero] at same
        refine .inr ⟨same ▸ terminal, ?_⟩
        rw [List.length_append, List.length_singleton]
        omega

/-- The events that were recorded behind the attach are not among the unread replay. -/
theorem Handed.since {config : StreamConfig} (begins : Begins config before first)
    (handed : Handed (before.initial config) first handle state subscription)
    (accounted : subscription.channel.receiverOpen = true →
      subscription.received ++ (subscription.replay ++ subscription.terminalEvent.toList) ++
        subscription.channel.queue ++ state.inFlight handle = state.log.drop first)
    (inUse : subscription.status = .inUse) {position : Nat} {event : StreamEvent}
    (behind : before.log.length ≤ position) (found : state.log[position]? = some event) :
    subscription.received[position - first]? = some event ∨
      event ∈ subscription.channel.queue ∨ event ∈ state.inFlight handle := by
  have bound := begins.bound
  have place : (state.log.drop first)[position - first]? = some event := by
    rw [List.getElem?_drop, ← found]
    congr 1
    omega
  by_cases isOpen : subscription.channel.receiverOpen = true
  · rw [← accounted isOpen, List.append_assoc, List.getElem?_append] at place
    split at place
    · rename_i inside
      by_cases read : subscription.replay ++ subscription.terminalEvent.toList = []
      · rw [read, List.append_nil] at place
        exact .inl place
      · have given : subscription.received ++
            (subscription.replay ++ subscription.terminalEvent.toList) =
              before.initial config := by
          rw [← List.append_assoc, handed.books, handed.unread read, List.append_nil]
        rcases begins.initial with none | whole
        · rw [none, List.append_eq_nil_iff] at given
          exact absurd given.2 read
        · rw [given, ← whole, List.length_drop] at inside
          omega
    · exact .inr (List.mem_append.mp (List.mem_of_getElem? place))
  · obtain ⟨_, _, _, all⟩ := handed.done inUse (by simpa using isOpen)
    rw [all]
    exact .inl place

/-- The invariant of a run behind an attach. -/
structure Continues (options : StreamConfig) (before : StreamState) (first : Nat)
    (state : StreamState) : Prop where
  coherent : Coherent options state
  grown : before.log <+: state.log
  handed : ∃ subscription, state.subscriptions[before.subscriptions.length]? = some subscription ∧
    Handed (before.initial options) first before.subscriptions.length state subscription

theorem Continues.step (reliable : options.deliveryGuarantee = .reliableWithBackpressure)
    {next : StreamState} {action : Action}
    (continues : Continues options.toStreamConfig before first state)
    (kept : StreamKept state action)
    (stepped : step streamName options.toStreamConfig state action = some next) :
    Continues options.toStreamConfig before first next := by
  obtain ⟨coherent, grown, subscription, found, handed⟩ := continues
  have move := step_move coherent.sound.registered.kept kept stepped
  have later := coherent.step kept stepped
  exact ⟨later, grown.trans move.log_prefix, handed.move reliable coherent later found move⟩

/-- A subscriber attaches somewhere in a run. At the place of the log where it begins to observe, what
it is given and what the reader has in its hands for it stand last. However the run goes on without
the stream being dropped, it continues from there. -/
theorem exists_continues
    (reliable : options.deliveryGuarantee = .reliableWithBackpressure)
    (reachable : (streamMachine streamName options).ReachableBy StreamKept before)
    (inactive : before.shared.activeId = none)
    (subscribed : step streamName options.toStreamConfig before .subscribe = some after) :
    ∃ first, Begins options.toStreamConfig before first ∧
      before.log.drop first = before.initial options.toStreamConfig ++
        after.inFlight before.subscriptions.length ∧
      ∀ actions state,
        (streamMachine streamName options).execBy StreamKept after actions = some state →
          Continues options.toStreamConfig before first state := by
  have earlier := reachable_coherent reachable
  have kept : StreamKept before .subscribe := nofun
  have attaches := attaches_of_subscribe reachable inactive subscribed
  obtain ⟨first, begins, handed⟩ := exists_begins reliable earlier
  refine ⟨first, begins, ?_, ?_⟩
  · have given := handed.whole rfl
    rw [show (before.newSubscription options.toStreamConfig).sent = [] from rfl, List.append_nil,
      ← attaches] at given
    rw [given, attaches]
    rfl
  · intro actions state ran
    apply Machine.execBy_preserves (Continues.step reliable) ?_ ran
    refine ⟨earlier.step kept subscribed, ?_, ?_⟩
    · rw [attaches]
      exact List.prefix_refl _
    · rw [attaches]
      exact ⟨_, List.getElem?_concat_length, handed⟩

/-- **Reliable hand-over neither loses nor duplicates.** A subscriber attaches somewhere in a run.
Where it begins to observe the log is fixed then, and with replay it is the oldest retained chunk.
However the run goes on without the stream being dropped, the subscription observes the log from there
on, in order. -/
theorem reliable_handoff
    (reliable : options.deliveryGuarantee = .reliableWithBackpressure)
    (reachable : (streamMachine streamName options).ReachableBy StreamKept before)
    (inactive : before.shared.activeId = none)
    (subscribed : step streamName options.toStreamConfig before .subscribe = some after) :
    ∃ first, Begins options.toStreamConfig before first ∧
      ∀ actions state,
        (streamMachine streamName options).execBy StreamKept after actions = some state →
          ∃ subscription, state.subscriptions[before.subscriptions.length]? = some subscription ∧
            HandedOver before state first before.subscriptions.length subscription := by
  obtain ⟨first, begins, _, always⟩ := exists_continues reliable reachable inactive subscribed
  refine ⟨first, begins, ?_⟩
  intro actions state ran
  obtain ⟨coherent, grown, subscription, found, handed⟩ := always actions state ran
  have channeled := coherent.channels _ _ found
  have accounted : subscription.channel.receiverOpen = true →
      subscription.received ++ (subscription.replay ++ subscription.terminalEvent.toList) ++
        subscription.channel.queue ++ state.inFlight before.subscriptions.length =
          state.log.drop first := by
    intro isOpen
    rw [← handed.whole isOpen, ← List.append_assoc subscription.received, handed.books,
      List.append_assoc _ subscription.live, channeled.whole isOpen]
  refine ⟨subscription, found, grown, ?_, ?_, accounted, ?_⟩
  · intro position event there
    exact coherent.logged.shape there
  · have observed : subscription.received <+:
        before.initial options.toStreamConfig ++ subscription.live := by
      rw [← handed.books, List.append_assoc]
      exact List.prefix_append _ _
    refine observed.trans (.trans ?_ handed.part)
    exact List.prefix_append_right_inj _ |>.mpr channeled.part
  · intro inUse position event behind there
    exact handed.since begins accounted inUse behind there

/-- A subscriber attaches while the reader sends a chunk to one that is gone. Without replay the
chunk is sent once more, and the new subscriber observes it. -/
theorem reliable_handoff_repeated :
    ∃ before after state first subscription,
      step "stdout" plainConfig.toStreamConfig before .subscribe = some after ∧
      before.log.length = 1 ∧ Begins plainConfig.toStreamConfig before first ∧
      state.subscriptions[1]? = some subscription ∧
      subscription.received = [.chunk ⟨[7], 0⟩] ∧
      HandedOver before state first 1 subscription := by
  obtain ⟨before, after, state, reachable, subscribed, ran, second, inactive, recorded, received⟩ :=
    (streamMachine "stdout" plainConfig).exists_run StreamKept
      [.subscribe, .changed, .read [7], .reader, .closeReceiver 0, .clearRegistration 0] .subscribe
      [.reader, .reader, .reader, .reader, .nextEvent 1]
      (fun before state => before.subscriptions.length = 1 ∧ before.shared.activeId = none ∧
        before.log.length = 1 ∧
        state.subscriptions[1]?.map SingleSubscription.received = some [.chunk ⟨[7], 0⟩])
      (by decide +kernel)
  obtain ⟨first, begins, always⟩ := reliable_handoff rfl reachable inactive subscribed
  obtain ⟨subscription, found, handedOver⟩ := always _ state ran
  rw [second] at found handedOver
  rw [found, Option.map_some, Option.some.injEq] at received
  exact ⟨before, after, state, first, subscription, subscribed, recorded, begins, found, received,
    handedOver⟩

end Runs

end TokioProcessTools.OutputStream.Backend.SingleSubscriber
