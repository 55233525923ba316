import TokioProcessTools.OutputStream.Backend.SingleSubscriber.End
import TokioProcessTools.OutputStream.Backend.SingleSubscriber.Handoff
import TokioProcessTools.OutputStream.Line.StreamLines

/-!
# The lines of the single subscriber

A subscriber attaches somewhere in a run and is read by a line collector or a line
waiter. Under reliable delivery it relays what it was given when it attached,
continued by all that was read from the source since (`reliable_relays`): the
collector returns the lines of this text (`reliable_lines`), and the waiter's answer
is true of it (`reliable_waits`).

Under lossy delivery a subscriber that was given nothing relays what was read since
(`lossy_relays`), with gaps for what was lost (`lossy_lines`, `lossy_waits`). With
replay this would not hold: the history itself may have a hole, and no gap stands
in it.

The stream is not dropped in these runs. Its drop ends a subscription at once, with
what the reader has read and not sent yet, and no gap stands for that.
-/

set_option autoImplicit false

namespace TokioProcessTools.OutputStream.Backend.SingleSubscriber

open Foundation Line

/-! ## What was recorded -/

section Recorded

variable {streamName : String} {options : StreamConfig} {state next : StreamState}

/-- Behind the terminal event, all that was read was recorded. -/
def AllRecorded (state : StreamState) : Prop :=
  state.shared.terminalEvent.isSome = true → allBytes state.log = state.source

theorem AllRecorded.frame (all : AllRecorded state) (log : next.log = state.log)
    (source : next.source = state.source)
    (terminal : next.shared.terminalEvent = state.shared.terminalEvent) : AllRecorded next := by
  rw [AllRecorded, log, source, terminal]
  exact all

/-- Before the terminal event there is nothing to show. -/
theorem AllRecorded.running (running : state.shared.terminalEvent = none) : AllRecorded state := by
  intro present
  rw [running] at present
  cases present

theorem AllRecorded.move (coherent : Coherent options state)
    (nonZero : ∀ retention ∈ options.replayRetention, retention.NonZero)
    (historical : Historical options state) (all : AllRecorded state)
    (move : Move streamName options state next) : AllRecorded next := by
  have place := coherent.reader.place
  cases move with
  | read here _ =>
      rw [here] at place
      obtain ⟨reader, same⟩ := gotResult_eq _ streamName options _
      rw [same]
      exact .running place.1
  | ended here _ =>
      obtain ⟨reader, same⟩ := gotResult_eq state streamName options _
      rw [same]
      exact all.frame rfl rfl rfl
  | @record event shared recorded here pushed =>
      rw [here] at place
      obtain ⟨_, _, answered, effect⟩ :=
        ReplayState.pushReplayEvent_recorded coherent.sound.counted nonZero event
      cases answered.symm.trans pushed
      have terminal := effect.terminalEvent
      rw [place.1] at terminal
      rcases place.2 with ⟨chunk, rfl, _⟩ | ⟨isTerminal, empty⟩
      · exact .running terminal
      · intro _
        have whole := historical.whole
        have none : eventBytes event = [] := eventBytes_of_not_chunk (by
          cases event with
          | chunk chunk => cases isTerminal
          | gap | eof | readError _ => rfl)
        simp only [Reader.unrecorded, here, empty, none, List.append_nil] at whole
        rw [allBytes_concat, none, List.append_nil]
        exact whole
  | cleared _ | unregistered _ _ =>
      exact all.frame (clearActiveIfCurrent_log state _) (clearActiveIfCurrent_source state _)
        (clearActiveIfCurrent_terminalEvent state _)
  | attached subscribed =>
      rw [trySubscribe_eq] at subscribed
      split at subscribed
      · cases subscribed
      · cases subscribed
        exact all.frame rfl rfl rfl
  | replaySealed emptied =>
      rw [ReplayState.sealReplay_eq coherent.sound.counted options] at emptied
      cases emptied
      exact all.frame rfl rfl rfl
  | changed _ _ | refreshRead _ | sent _ _ _ _ | full _ _ _ _ _ | failed _ _ _ _ | refreshed _
  | yielded _ | refused _ | consumed _ _ => exact all.frame rfl rfl rfl

/-- Behind the terminal event nothing is left to record. -/
theorem AllRecorded.nothing_left (all : AllRecorded state) (historical : Historical options state)
    (present : state.shared.terminalEvent.isSome = true) : state.reader.unrecorded = [] := by
  have whole := historical.whole
  rw [all present] at whole
  exact List.append_right_eq_self.mp whole

/-- The source, cut behind the bytes of the first events of the log. -/
theorem Historical.cut_source (historical : Historical options state) (first : Nat) :
    state.source = allBytes (state.log.take first) ++
      (allBytes (state.log.drop first) ++ state.reader.unrecorded) := by
  rw [← historical.whole, ← List.append_assoc, ← allBytes_append, List.take_append_drop]

theorem Historical.drop_source (historical : Historical options state) (first : Nat) :
    state.source.drop (allBytes (state.log.take first)).length =
      allBytes (state.log.drop first) ++ state.reader.unrecorded := by
  rw [historical.cut_source first, List.drop_left]

/-- Under reliable delivery the reader never has to send a gap. -/
theorem not_gapRefused (reliable : options.deliveryGuarantee = .reliableWithBackpressure)
    (coherent : Coherent options state) : ¬ state.GapRefused := by
  rintro ⟨here, _⟩
  have place := coherent.reader.place
  rw [here] at place
  cases reliable.symm.trans place.1

end Recorded

/-- What was read, recorded and left to record under reliable delivery. -/
theorem reachable_recorded {streamName : String} {options : ValidConfig} {state : StreamState}
    (reliable : options.deliveryGuarantee = .reliableWithBackpressure)
    (reachable : (streamMachine streamName options).ReachableBy StreamKept state) :
    Historical options.toStreamConfig state ∧ AllRecorded state := by
  apply reachable.invariant_using reachable_coherent
  · refine ⟨⟨rfl, fun retention _ _ => ?_⟩, fun present => by cases present⟩
    exact (ReplayRetention.window_nil StreamEvent.size retention).symm
  · rintro state next action coherent ⟨historical, all⟩ kept stepped
    have move := step_move coherent.sound.registered.kept kept stepped
    have nonZero := options.retention_nonZero
    refine ⟨historical.move coherent nonZero ?_ move, all.move coherent nonZero historical move⟩
    exact fun refused => absurd refused (not_gapRefused reliable coherent)

/-! ## Reliable delivery -/

section Reliable

variable {streamName : String} {options : ValidConfig} {before after : StreamState}

/-- What a subscription has received is a part of the log. -/
theorem Handed.observed {config : StreamConfig} {initial : List StreamEvent} {first : Nat}
    {handle : Handle} {state : StreamState} {subscription : SingleSubscription}
    (handed : Handed initial first handle state subscription)
    (channeled : Channeled config subscription) :
    subscription.received <+: state.log.drop first := by
  have books : subscription.received <+: initial ++ subscription.live := by
    rw [← handed.books, List.append_assoc]
    exact List.prefix_append _ _
  refine books.trans (.trans ?_ handed.part)
  exact List.prefix_append_right_inj _ |>.mpr channeled.part

theorem Logged.chunk_of_mem {config : StreamConfig} {shared : ReplayState} {log : List StreamEvent}
    {event : StreamEvent} (logged : Logged config shared log) (member : event ∈ log)
    (running : event.isTerminal = false) : event.isChunk = true := by
  obtain ⟨position, there⟩ := List.mem_iff_getElem?.mp member
  rcases logged.shape there with isChunk | ⟨terminal, _⟩
  · exact isChunk
  · rw [running] at terminal
    cases terminal

/-- Events that are the log from some place on relay the source from there. -/
theorem relays_of_logged {config : StreamConfig} {state : StreamState} {received : List StreamEvent}
    {ended : Bool} {first : Nat} (logged : Logged config state.shared state.log)
    (historical : Historical config state) (all : AllRecorded state)
    (part : received <+: state.log.drop first)
    (ends : ended = true → ∃ event ∈ received, event.isTerminal = true) :
    Relays received ended (state.source.drop (allBytes (state.log.take first)).length) := by
  obtain ⟨behind, observed⟩ := part
  rintro front rest rfl running
  rw [historical.drop_source first, ← observed, List.append_assoc, allBytes_append, List.append_assoc]
  refine ⟨_, _, rfl, conveys_of_chunks ?_, ?_, ?_⟩
  · intro event member
    have stored : event ∈ state.log.drop first := by
      rw [← observed]
      exact List.mem_append_left _ (List.mem_append_left _ member)
    exact logged.chunk_of_mem (List.mem_of_mem_drop stored) (running event member)
  · rintro later rfl
    rw [List.append_assoc, List.cons_append] at observed
    have split : state.log = (state.log.take first ++ front) ++ .eof :: (later ++ behind) := by
      rw [List.append_assoc, observed, List.take_append_drop]
    obtain ⟨nothing, stored⟩ := logged.last_of_terminal rfl split
    rw [List.cons_append, nothing, all.nothing_left historical (by simp [stored])]
    rfl
  · rintro rfl none
    obtain ⟨event, member, terminal⟩ := ends none
    rw [List.append_nil] at member
    rw [running event member] at terminal
    cases terminal

/-- A run that keeps the stream spares every subscription. -/
theorem reachable_sparing {state : StreamState} (handle : Handle)
    (reachable : (streamMachine streamName options).ReachableBy StreamKept state) :
    Sparing handle state := by
  apply reachable.invariant_using reachable_coherent (sparing_init handle)
  intro state next action coherent sparing kept stepped
  have running := coherent.sound.registered.kept
  refine sparing.step (fun _ _ _ => ⟨fun drops => absurd drops kept, ?_⟩)
    options.retention_nonZero stepped fun _ _ => (coherent.step kept stepped).sound
  rintro rfl
  simp [streamMachine, step, running] at stepped

/-- In a run that keeps the stream, `None` has a terminal event before it. -/
theorem ends_of_kept {state : StreamState} (handle : Handle)
    (reachable : (streamMachine streamName options).ReachableBy StreamKept state) :
    EndsAfterTerminal handle state := (reachable_sparing handle reachable).ends

/-- **Under reliable delivery a subscription relays all that was read since.** Where its text begins in
the source is fixed when it attaches: with the replay it is given, the event in the reader's hands for
it and what the reader has not recorded yet. There is no gap. -/
theorem reliable_relays
    (reliable : options.deliveryGuarantee = .reliableWithBackpressure)
    (reachable : (streamMachine streamName options).ReachableBy StreamKept before)
    (inactive : before.shared.activeId = none)
    (subscribed : step streamName options.toStreamConfig before .subscribe = some after) :
    ∃ start ≤ before.source.length,
      before.source.drop start = allBytes (before.initial options.toStreamConfig) ++
        allBytes (after.inFlight before.subscriptions.length) ++ before.reader.unrecorded ∧
      ∀ actions state subscription,
        (streamMachine streamName options).execBy StreamKept after actions = some state →
        state.subscriptions[before.subscriptions.length]? = some subscription →
          Relays subscription.received subscription.ended (state.source.drop start) ∧
            .gap ∉ subscription.received := by
  have kept : StreamKept before .subscribe := fun other => by cases other
  obtain ⟨first, begins, given, always⟩ := exists_continues reliable reachable inactive subscribed
  have earlier := (reachable_recorded reliable reachable).1
  refine ⟨(allBytes (before.log.take first)).length, ?_, ?_, ?_⟩
  · rw [earlier.cut_source first, List.length_append]
    exact Nat.le_add_right _ _
  · rw [earlier.drop_source first, given, allBytes_append]
  · intro actions state subscription ran found
    obtain ⟨coherent, ⟨more, grown⟩, _, here, handed⟩ := always actions state ran
    cases found.symm.trans here
    have reached := (reachable.step kept subscribed).execBy ran
    obtain ⟨historical, all⟩ := reachable_recorded reliable reached
    have part := handed.observed (coherent.channels _ _ found)
    have same : before.log.take first = state.log.take first := by
      rw [← grown, List.take_append_of_le_length begins.bound]
    rw [same]
    refine ⟨relays_of_logged coherent.logged historical all part
      (ends_of_kept _ reached subscription found), fun gap => ?_⟩
    cases coherent.logged.chunk_of_mem (List.mem_of_mem_drop (part.subset gap)) rfl

/-- **Under reliable delivery the lines are those of all that was read since.** A subscriber attaches
somewhere in a run. Where its text begins in the source is fixed then: with the replay it is given,
the event in the reader's hands for it and what the reader has not recorded yet. However the run goes
on without the stream being dropped, a line collector that reads the subscription and returns has
exactly the lines of the source from there on. -/
theorem reliable_lines
    (reliable : options.deliveryGuarantee = .reliableWithBackpressure)
    (reachable : (streamMachine streamName options).ReachableBy StreamKept before)
    (inactive : before.shared.activeId = none)
    (subscribed : step streamName options.toStreamConfig before .subscribe = some after) :
    ∃ start ≤ before.source.length,
      before.source.drop start = allBytes (before.initial options.toStreamConfig) ++
        allBytes (after.inFlight before.subscriptions.length) ++ before.reader.unrecorded ∧
      ∀ actions state subscription alloc parsing lines,
        (streamMachine streamName options).execBy StreamKept after actions = some state →
        state.subscriptions[before.subscriptions.length]? = some subscription →
        answeredLines alloc parsing (answersOf subscription.received subscription.ended) =
          .ok (some (.ok lines)) →
          lines = textLines parsing (state.source.drop start) := by
  obtain ⟨start, inside, begins, always⟩ :=
    reliable_relays reliable reachable inactive subscribed
  refine ⟨start, inside, begins, ?_⟩
  intro actions state subscription alloc parsing lines ran found returned
  obtain ⟨relays, complete⟩ := always actions state subscription ran found
  exact (relays.answeredLines alloc returned).2 complete

/-- The second subscriber attaches while the reader sends the first chunk to one that is gone. -/
theorem reliable_lines_repeated :
    ∃ (before after state : StreamState) (subscription : SingleSubscription) (start : Nat),
      step "stdout" plainConfig.toStreamConfig before .subscribe = some after ∧
      state.subscriptions[1]? = some subscription ∧
      answeredLines exactAllocator ⟨⟨16⟩, .dropAdditionalData, none⟩
          (answersOf subscription.received subscription.ended) = .ok (some (.ok ["a", "b"])) ∧
      ["a", "b"] = textLines ⟨⟨16⟩, .dropAdditionalData, none⟩ (state.source.drop start) := by
  obtain ⟨before, after, state, reachable, subscribed, ran, second, inactive, received⟩ :=
    (streamMachine "stdout" plainConfig).exists_run StreamKept
      [.subscribe, .changed, .read [97], .reader, .closeReceiver 0, .clearRegistration 0] .subscribe
      [.reader, .reader, .reader, .reader, .nextEvent 1, .read [10, 98], .reader, .reader,
        .nextEvent 1, .reader, .reader, .nextEvent 1, .readEof, .reader, .reader, .nextEvent 1]
      (fun before state => before.subscriptions.length = 1 ∧ before.shared.activeId = none ∧
        state.subscriptions[1]?.map (fun subscription =>
          answersOf subscription.received subscription.ended) =
            some [some (.chunk ⟨[97], 0⟩), some (.chunk ⟨[10], 1⟩), some (.chunk ⟨[98], 2⟩),
              some .eof])
      (by decide +kernel)
  obtain ⟨subscription, found, received⟩ := Option.map_eq_some_iff.mp received
  have returned : answeredLines exactAllocator ⟨⟨16⟩, .dropAdditionalData, none⟩
      (answersOf subscription.received subscription.ended) = .ok (some (.ok ["a", "b"])) := by
    rw [received]
    decide +kernel
  obtain ⟨start, _, _, always⟩ := reliable_lines rfl reachable inactive subscribed
  rw [second] at always
  exact ⟨before, after, state, subscription, start, subscribed, found, returned,
    always _ _ _ _ _ _ ran found returned⟩

/-- **Under reliable delivery every answer of `wait_for_line` is justified by what the source gave.** A
waiter attaches somewhere in a run, and its text begins where `reliable_relays` says. However the run
goes on without the stream being dropped, a match is a line of the source from there on; at the end of
the stream the predicate accepts none of them; at a timeout, at a read error or while it waits, no
line completed in what was received. -/
theorem reliable_waits
    (reliable : options.deliveryGuarantee = .reliableWithBackpressure)
    (reachable : (streamMachine streamName options).ReachableBy StreamKept before)
    (inactive : before.shared.activeId = none)
    (subscribed : step streamName options.toStreamConfig before .subscribe = some after) :
    ∃ start ≤ before.source.length,
      before.source.drop start = allBytes (before.initial options.toStreamConfig) ++
        allBytes (after.inFlight before.subscriptions.length) ++ before.reader.unrecorded ∧
      ∀ actions state subscription alloc (parsing : LineParsingOptions) predicate elapsed,
        (streamMachine streamName options).execBy StreamKept after actions = some state →
        state.subscriptions[before.subscriptions.length]? = some subscription →
        0 < parsing.maxLineLength.bytes →
          ∃ answer, waitForLine alloc parsing predicate
              (answersOf subscription.received subscription.ended) elapsed = .ok answer ∧
            Justified parsing predicate (state.source.drop start) True
              (answersOf subscription.received subscription.ended) answer := by
  obtain ⟨start, inside, begins, always⟩ :=
    reliable_relays reliable reachable inactive subscribed
  refine ⟨start, inside, begins, ?_⟩
  intro actions state subscription alloc parsing predicate elapsed ran found limited
  obtain ⟨relays, complete⟩ := always actions state subscription ran found
  exact relays.waitForLine alloc limited predicate elapsed fun _ => complete

/-- The line that was waited for is the last one, and ends with the stream. -/
theorem reliable_waits_last :
    ∃ (before after state : StreamState) (subscription : SingleSubscription) (start : Nat),
      step "stdout" plainConfig.toStreamConfig before .subscribe = some after ∧
      state.subscriptions[0]? = some subscription ∧
      waitForLine exactAllocator ⟨⟨16⟩, .dropAdditionalData, none⟩ (· = "b")
          (answersOf subscription.received subscription.ended) false =
        .ok (some (.ok .matched)) ∧
      ∃ line ∈ textLines ⟨⟨16⟩, .dropAdditionalData, none⟩ (state.source.drop start),
        decide (line = "b") = true := by
  obtain ⟨before, after, state, reachable, subscribed, ran, first, inactive, received⟩ :=
    (streamMachine "stdout" plainConfig).exists_run StreamKept [] .subscribe
      [.changed, .read [97], .reader, .reader, .nextEvent 0, .read [10, 98], .reader, .reader,
        .nextEvent 0, .reader, .reader, .nextEvent 0, .readEof, .reader, .reader, .nextEvent 0]
      (fun before state => before.subscriptions.length = 0 ∧ before.shared.activeId = none ∧
        state.subscriptions[0]?.map (fun subscription =>
          (subscription.received, subscription.ended)) =
            some ([.chunk ⟨[97], 0⟩, .chunk ⟨[10], 1⟩, .chunk ⟨[98], 2⟩, .eof], false))
      (by decide +kernel)
  obtain ⟨subscription, found, same⟩ := Option.map_eq_some_iff.mp received
  obtain ⟨received, ended⟩ := Prod.mk.inj same
  have matched : waitForLine exactAllocator ⟨⟨16⟩, .dropAdditionalData, none⟩ (· = "b")
      (answersOf subscription.received subscription.ended) false = .ok (some (.ok .matched)) := by
    rw [received, ended]
    decide +kernel
  obtain ⟨start, _, _, always⟩ := reliable_waits rfl reachable inactive subscribed
  rw [first] at always
  obtain ⟨answer, answered, justified⟩ := always _ _ _ exactAllocator
    ⟨⟨16⟩, .dropAdditionalData, none⟩ (· = "b") false ran found (by decide)
  cases matched.symm.trans answered
  exact ⟨before, after, state, subscription, start, subscribed, found, matched, justified⟩

end Reliable

/-! ## Lossy delivery -/

/-- The books of a subscription that was given the initial events: what it has received and what it
has not read yet of these. -/
structure Booked (initial : List StreamEvent) (subscription : SingleSubscription) : Prop where
  books : subscription.received ++ subscription.replay ++ subscription.terminalEvent.toList =
    initial ++ subscription.live
  unread : subscription.replay ++ subscription.terminalEvent.toList ≠ [] → subscription.live = []
  /-- While the receiver is open, the stored terminal event is still to be yielded. -/
  stored : ∀ event ∈ initial, event.isTerminal = true → subscription.channel.receiverOpen = true →
    subscription.terminalEvent = some event

section Booked

variable {streamName : String} {options : StreamConfig} {state next : StreamState}
  {initial : List StreamEvent} {handle : Handle} {subscription changed : SingleSubscription}

theorem Booked.consume (booked : Booked initial subscription)
    (consumes : Consumes subscription changed) : Booked initial changed := by
  obtain ⟨books, unread, stored⟩ := booked
  cases consumes with
  | replay _ pending =>
      rw [pending] at books unread
      exact ⟨by rw [← books]; simp, fun _ => unread (by simp), stored⟩
  | terminal _ read present =>
      rw [read, present] at books unread
      have idle := unread (by simp)
      refine ⟨?_, fun _ => idle, fun _ _ _ isOpen => by cases isOpen⟩
      rw [← books]
      simp [read]
  | live _ read absent isOpen _ =>
      rw [read, absent] at books
      refine ⟨?_, fun some => absurd (by simp [read, absent]) some,
        fun event given terminal _ => stored event given terminal isOpen⟩
      rw [List.append_assoc, Option.toList_none, List.append_nil, List.append_nil] at books
      simp [read, absent, books]
  | none _ => exact ⟨books, unread, stored⟩
  | close _ => exact ⟨books, unread, fun _ _ _ isOpen => by cases isOpen⟩

/-- A terminal event among what a new subscription is given is the stored one. -/
theorem Logged.initial_terminal (logged : Logged options state.shared state.log) {event : StreamEvent}
    (given : event ∈ state.initial options) (terminal : event.isTerminal = true) :
    state.shared.terminalEvent = some event := by
  have recorded : event ∈ state.log := logged.initial_suffix.subset given
  cases present : state.shared.terminalEvent with
  | none =>
      rw [StreamEvent.isTerminal_of_isChunk (logged.running present event recorded)] at terminal
      cases terminal
  | some last =>
      obtain ⟨_, front, log, chunks⟩ := logged.terminal last present
      rw [log] at recorded
      rcases List.mem_append.mp recorded with earlier | here
      · rw [StreamEvent.isTerminal_of_isChunk (chunks event earlier)] at terminal
        cases terminal
      · rw [List.mem_singleton.mp here]

/-- Only the subscription itself touches its books. -/
theorem Booked.move (registered : Registered state)
    (found : state.subscriptions[handle]? = some subscription)
    (booked : Booked initial subscription) (move : Move streamName options state next) :
    ∃ subscription, next.subscriptions[handle]? = some subscription ∧
      Booked initial subscription := by
  cases move with
  | read _ _ =>
      obtain ⟨reader, same⟩ := gotResult_eq _ streamName options _
      rw [same]
      exact ⟨subscription, found, booked⟩
  | ended _ _ =>
      obtain ⟨reader, same⟩ := gotResult_eq state streamName options _
      rw [same]
      exact ⟨subscription, found, booked⟩
  | sent _ _ there sent =>
      refine exists_getElem?_set found there ?_ fun _ => booked
      rintro _ rfl
      exact ⟨booked.books, booked.unread, fun event given terminal _ =>
        booked.stored event given terminal (BoundedChannel.of_sent sent).1⟩
  | cleared _ => exact ⟨subscription, found_of_clear found _, booked⟩
  | attached subscribed =>
      obtain ⟨_, still, _⟩ := registered.others_of_attached subscribed found
      exact ⟨subscription, still, booked⟩
  | consumed there consumes =>
      refine exists_getElem?_set found there ?_ fun _ => booked
      rintro _ rfl
      exact booked.consume consumes
  | unregistered there _ =>
      refine exists_getElem?_set (found_of_clear found _) (found_of_clear there _) ?_ fun _ => booked
      rintro _ rfl
      exact ⟨booked.books, booked.unread, booked.stored⟩
  | changed _ _ | refreshRead _ | record _ _ | full _ _ _ _ _ | failed _ _ _ _ | refreshed _
  | yielded _ | refused _ | replaySealed _ => exact ⟨subscription, found, booked⟩

/-- The books of a subscriber are kept however the run goes on behind its attach. -/
theorem exists_booked {streamName : String} {options : ValidConfig} {before after state : StreamState}
    {actions : List Action}
    (reachable : (streamMachine streamName options).ReachableBy StreamKept before)
    (inactive : before.shared.activeId = none)
    (subscribed : step streamName options.toStreamConfig before .subscribe = some after)
    (ran : (streamMachine streamName options).execBy StreamKept after actions = some state) :
    ∃ subscription, state.subscriptions[before.subscriptions.length]? = some subscription ∧
      Booked (before.initial options.toStreamConfig) subscription := by
  have kept : StreamKept before .subscribe := fun other => by cases other
  have attaches := attaches_of_subscribe reachable inactive subscribed
  have begun : ∃ subscription, after.subscriptions[before.subscriptions.length]? =
      some subscription ∧ Booked (before.initial options.toStreamConfig) subscription := by
    rw [attaches]
    refine ⟨_, List.getElem?_concat_length, ?_, fun _ => rfl, ?_⟩
    · simp [StreamState.newSubscription, StreamState.initial]
    · intro event given terminal _
      exact (reachable_coherent reachable).logged.initial_terminal given terminal
  refine (@Machine.execBy_preserves _ _ (streamMachine streamName options) StreamKept _ (fun state =>
    Coherent options.toStreamConfig state ∧
      ∃ subscription, state.subscriptions[before.subscriptions.length]? = some subscription ∧
        Booked (before.initial options.toStreamConfig) subscription) ?_ after state
    ⟨(reachable_coherent reachable).step kept subscribed, begun⟩ actions ran).2
  rintro state next action ⟨coherent, mine, found, booked⟩ kept stepped
  have registered := coherent.sound.registered
  exact ⟨coherent.step kept stepped,
    booked.move registered found (step_move registered.kept kept stepped)⟩

end Booked

section Lossy

variable {streamName : String} {options : ValidConfig} {before after state : StreamState}
  {start : Nat} {handle : Handle} {subscription : SingleSubscription}

/-- What a subscription has taken from its channel relays the source from its start. -/
theorem Announced.relays (announced : Announced start handle state subscription)
    (inside : state.reader.position ≤ state.source.length)
    (part : subscription.live <+: subscription.sent)
    (received : subscription.received = subscription.live)
    (ends : subscription.ended = true →
      ∃ event ∈ subscription.received, event.isTerminal = true) :
    Relays subscription.received subscription.ended (state.source.drop start) := by
  intro front rest cut running
  obtain ⟨last, tiles, passed, _, ended⟩ := announced.tiles
  obtain ⟨more, whole⟩ := part
  rw [← received, cut, List.append_assoc] at whole
  have split := tiles
  rw [← whole] at split
  obtain ⟨middle, told, behind⟩ := split.exists_cut
  have text : state.source.drop start = stretch state.source start middle ++
      state.source.drop middle := by
    rw [← stretch_length, ← stretch_length, ← stretch_split (told.le Covers.le)
      (Nat.le_trans (behind.le Covers.le) (Nat.le_trans passed inside))]
  refine ⟨_, _, text, conveys_of_covers told running, ?_, ?_⟩
  · rintro later rfl
    have nothing := announced.alone _ _ _ whole.symm rfl
    have all := ended ⟨.eof, by simp [← whole], rfl⟩
    obtain _ | ⟨covers, rest⟩ := behind
    rw [nothing] at rest
    rw [covers.eq_of_terminal rfl, rest.eq_of_nil, all, List.drop_length]
  · rintro rfl none
    obtain ⟨event, member, terminal⟩ := ends none
    rw [List.append_nil] at cut
    rw [running _ (cut ▸ member)] at terminal
    cases terminal

/-- The invariant of a lossy run behind an attach, with the books. -/
structure Accounted (options : StreamConfig) (start : Nat) (handle : Handle)
    (initial : List StreamEvent) (state : StreamState) : Prop where
  continues : LossyContinues options start handle state
  booked : ∃ subscription, state.subscriptions[handle]? = some subscription ∧
    Booked initial subscription

/-- The run behind an attach is accounted for from where the reader stands, less the bytes it has in
hand for the subscriber. -/
theorem exists_accounted
    (lossy : options.deliveryGuarantee = .lossyWithoutBackpressure)
    (reachable : (streamMachine streamName options).ReachableBy StreamKept before)
    (inactive : before.shared.activeId = none)
    (subscribed : step streamName options.toStreamConfig before .subscribe = some after) :
    ∃ start ≤ before.source.length,
      start + before.reader.due after.activeTx before.subscriptions.length =
        before.reader.position ∧
      ∀ actions state, (streamMachine streamName options).execBy StreamKept after actions =
        some state → Accounted options.toStreamConfig start before.subscriptions.length
          (before.initial options.toStreamConfig) state := by
  obtain ⟨start, inside, stands, always⟩ :=
    exists_lossyContinues lossy reachable inactive subscribed
  refine ⟨start, inside, stands, ?_⟩
  intro actions state ran
  exact ⟨always actions state ran, exists_booked reachable inactive subscribed ran⟩

/-- **Under lossy delivery a subscription with nothing to replay relays what was read since.** Its text
begins where the reader stands when it attaches, less the bytes it has in hand for the subscriber. If
the stream had ended by then, there is no text. -/
theorem lossy_relays
    (lossy : options.deliveryGuarantee = .lossyWithoutBackpressure)
    (reachable : (streamMachine streamName options).ReachableBy StreamKept before)
    (inactive : before.shared.activeId = none)
    (nothing : before.shared.replaySnapshot options.toStreamConfig = [])
    (subscribed : step streamName options.toStreamConfig before .subscribe = some after) :
    ∃ start ≤ before.source.length,
      start + before.reader.due after.activeTx before.subscriptions.length =
        before.reader.position ∧
      ∀ actions state subscription,
        (streamMachine streamName options).execBy StreamKept after actions = some state →
        state.subscriptions[before.subscriptions.length]? = some subscription →
          Relays subscription.received subscription.ended
            (if before.shared.terminalEvent = none then state.source.drop start else []) := by
  obtain ⟨start, inside, sum, always⟩ := exists_accounted lossy reachable inactive subscribed
  refine ⟨start, inside, sum, ?_⟩
  intro actions state subscription ran found
  obtain ⟨⟨coherent, _, _, here, announced⟩, _, there, booked⟩ := always actions state ran
  cases found.symm.trans here
  cases found.symm.trans there
  have kept : StreamKept before .subscribe := fun other => by cases other
  have reached := (reachable.step kept subscribed).execBy ran
  have books := booked.books
  rw [StreamState.initial, nothing, List.nil_append] at books
  cases stored : before.shared.terminalEvent with
  | some event =>
      rw [stored, Option.toList_some, List.append_assoc] at books
      rw [if_neg (by simp)]
      intro front rest received running
      rw [received, List.append_assoc] at books
      have terminal := ((reachable_coherent reachable).logged.terminal _ stored).1
      cases front with
      | nil => exact ⟨[], [], rfl, .nil, fun _ _ => rfl, fun _ _ => rfl⟩
      | cons first front =>
          obtain ⟨rfl, _⟩ := List.cons.inj books
          rw [running _ List.mem_cons_self] at terminal
          cases terminal
  | none =>
      rw [stored, Option.toList_none, List.nil_append] at books
      rw [if_pos rfl]
      have read : subscription.replay ++ subscription.terminalEvent.toList = [] := by
        by_contra pending
        rw [booked.unread pending, List.append_assoc] at books
        exact pending (List.append_eq_nil_iff.mp books).2
      rw [List.append_assoc, read, List.append_nil] at books
      exact announced.relays coherent.reader.buffered.inside (coherent.channels _ _ found).part books
        (ends_of_kept _ reached subscription found)

/-- **Under lossy delivery the lines are lines of what was read since.** A subscriber attaches
somewhere in a run with nothing to replay. Its text begins where the reader stands then, less the
bytes it has in hand for the subscriber. However the run goes on without the stream being dropped, a
line collector that reads the subscription and returns has lines of the source from there on, in their
order. When the stream had not ended and no gap was received, it has exactly these lines. -/
theorem lossy_lines
    (lossy : options.deliveryGuarantee = .lossyWithoutBackpressure)
    (reachable : (streamMachine streamName options).ReachableBy StreamKept before)
    (inactive : before.shared.activeId = none)
    (nothing : before.shared.replaySnapshot options.toStreamConfig = [])
    (subscribed : step streamName options.toStreamConfig before .subscribe = some after) :
    ∃ start ≤ before.source.length,
      start + before.reader.due after.activeTx before.subscriptions.length =
        before.reader.position ∧
      ∀ actions state subscription alloc parsing lines,
        (streamMachine streamName options).execBy StreamKept after actions = some state →
        state.subscriptions[before.subscriptions.length]? = some subscription →
        answeredLines alloc parsing (answersOf subscription.received subscription.ended) =
          .ok (some (.ok lines)) →
          lines.Sublist (textLines parsing (state.source.drop start)) ∧
            (before.shared.terminalEvent = none → .gap ∉ subscription.received →
              lines = textLines parsing (state.source.drop start)) := by
  obtain ⟨start, inside, sum, always⟩ :=
    lossy_relays lossy reachable inactive nothing subscribed
  refine ⟨start, inside, sum, ?_⟩
  intro actions state subscription alloc parsing lines ran found returned
  obtain ⟨sublist, all⟩ :=
    (always actions state subscription ran found).answeredLines alloc returned
  cases stored : before.shared.terminalEvent with
  | some event =>
      rw [if_neg (by simp [stored]), textLines_nil (limited_of_returned alloc returned)] at sublist
      refine ⟨?_, fun absent => by cases absent⟩
      rw [List.eq_nil_of_sublist_nil sublist]
      exact List.nil_sublist _
  | none =>
      rw [if_pos stored] at sublist all
      exact ⟨sublist, fun _ => all⟩

/-- The newline between two lines is lost, and they are not joined. -/
theorem lossy_lines_slow :
    ∃ (before after state : StreamState) (subscription : SingleSubscription) (start : Nat),
      step "stdout" lossyConfig.toStreamConfig before .subscribe = some after ∧
      state.subscriptions[0]? = some subscription ∧
      answeredLines exactAllocator ⟨⟨16⟩, .dropAdditionalData, none⟩
          (answersOf subscription.received subscription.ended) = .ok (some (.ok ["a"])) ∧
      ["a"].Sublist (textLines ⟨⟨16⟩, .dropAdditionalData, none⟩ (state.source.drop start)) := by
  obtain ⟨before, after, state, reachable, subscribed, ran, first, inactive, nothing, received⟩ :=
    (streamMachine "stdout" lossyConfig).exists_run StreamKept [] .subscribe
      [.changed, .read [97], .reader, .reader, .nextEvent 0, .read [10, 98, 10, 99], .reader,
        .reader, .nextEvent 0, .reader, .reader, .reader, .reader, .nextEvent 0, .reader, .reader,
        .reader, .nextEvent 0, .reader, .nextEvent 0, .readEof, .reader, .reader, .nextEvent 0]
      (fun before state => before.subscriptions.length = 0 ∧ before.shared.activeId = none ∧
        before.shared.replaySnapshot lossyConfig.toStreamConfig = [] ∧
        state.subscriptions[0]?.map (fun subscription =>
          answersOf subscription.received subscription.ended) =
            some [some (.chunk ⟨[97], 0⟩), some (.chunk ⟨[10], 1⟩), some (.chunk ⟨[98], 2⟩), some .gap,
              some (.chunk ⟨[99], 4⟩), some .eof])
      (by decide +kernel)
  obtain ⟨subscription, found, received⟩ := Option.map_eq_some_iff.mp received
  have returned : answeredLines exactAllocator ⟨⟨16⟩, .dropAdditionalData, none⟩
      (answersOf subscription.received subscription.ended) = .ok (some (.ok ["a"])) := by
    rw [received]
    decide +kernel
  obtain ⟨start, _, _, always⟩ := lossy_lines rfl reachable inactive nothing subscribed
  rw [first] at always
  exact ⟨before, after, state, subscription, start, subscribed, found, returned,
    (always _ _ _ _ _ _ ran found returned).1⟩

/-- **Under lossy delivery every answer of `wait_for_line` is justified by what the source gave.** A
waiter attaches somewhere in a run with nothing to replay, and its text begins where `lossy_relays`
says; if the stream had ended, it has none. However the run goes on without the stream being dropped,
a match is a line of the text, also behind a gap. When no gap was received, the predicate accepts no
line of the text at the end of the stream, and before the end no line completed in what was
received. -/
theorem lossy_waits
    (lossy : options.deliveryGuarantee = .lossyWithoutBackpressure)
    (reachable : (streamMachine streamName options).ReachableBy StreamKept before)
    (inactive : before.shared.activeId = none)
    (nothing : before.shared.replaySnapshot options.toStreamConfig = [])
    (subscribed : step streamName options.toStreamConfig before .subscribe = some after) :
    ∃ start ≤ before.source.length,
      start + before.reader.due after.activeTx before.subscriptions.length =
        before.reader.position ∧
      ∀ actions state subscription alloc (parsing : LineParsingOptions) predicate elapsed,
        (streamMachine streamName options).execBy StreamKept after actions = some state →
        state.subscriptions[before.subscriptions.length]? = some subscription →
        0 < parsing.maxLineLength.bytes →
          ∃ answer, waitForLine alloc parsing predicate
              (answersOf subscription.received subscription.ended) elapsed = .ok answer ∧
            Justified parsing predicate
              (if before.shared.terminalEvent = none then state.source.drop start else [])
              (.gap ∉ subscription.received)
              (answersOf subscription.received subscription.ended) answer := by
  obtain ⟨start, inside, sum, always⟩ :=
    lossy_relays lossy reachable inactive nothing subscribed
  refine ⟨start, inside, sum, ?_⟩
  intro actions state subscription alloc parsing predicate elapsed ran found limited
  exact (always actions state subscription ran found).waitForLine alloc limited predicate elapsed id

/-- The end of one line and the start of the next are lost. What is left of them is not taken for the
line that was waited for. -/
theorem lossy_waits_slow :
    ∃ (before after state : StreamState) (subscription : SingleSubscription) (start : Nat),
      step "stdout" lossyConfig.toStreamConfig before .subscribe = some after ∧
      state.subscriptions[0]? = some subscription ∧
      start + before.reader.due after.activeTx 0 = before.reader.position ∧
      ∃ answer, waitForLine exactAllocator ⟨⟨16⟩, .dropAdditionalData, none⟩ (· = "bc")
          [some (.chunk ⟨[97], 0⟩), some (.chunk ⟨[10], 1⟩), some (.chunk ⟨[98], 2⟩), some .gap,
            some (.chunk ⟨[99], 4⟩), some .eof] false = .ok answer ∧
        Justified ⟨⟨16⟩, .dropAdditionalData, none⟩ (· = "bc") (state.source.drop start)
          (.gap ∉ subscription.received)
          [some (.chunk ⟨[97], 0⟩), some (.chunk ⟨[10], 1⟩), some (.chunk ⟨[98], 2⟩), some .gap,
            some (.chunk ⟨[99], 4⟩), some .eof] answer := by
  obtain ⟨before, after, state, reachable, subscribed, ran, first, inactive, nothing, running,
      received⟩ :=
    (streamMachine "stdout" lossyConfig).exists_run StreamKept [] .subscribe
      [.changed, .read [97], .reader, .reader, .nextEvent 0, .read [10, 98, 10, 99], .reader,
        .reader, .nextEvent 0, .reader, .reader, .reader, .reader, .nextEvent 0, .reader, .reader,
        .reader, .nextEvent 0, .reader, .nextEvent 0, .readEof, .reader, .reader, .nextEvent 0]
      (fun before state => before.subscriptions.length = 0 ∧ before.shared.activeId = none ∧
        before.shared.replaySnapshot lossyConfig.toStreamConfig = [] ∧
        before.shared.terminalEvent = none ∧
        state.subscriptions[0]?.map (fun subscription =>
          answersOf subscription.received subscription.ended) =
            some [some (.chunk ⟨[97], 0⟩), some (.chunk ⟨[10], 1⟩), some (.chunk ⟨[98], 2⟩), some .gap,
              some (.chunk ⟨[99], 4⟩), some .eof])
      (by decide +kernel)
  obtain ⟨subscription, found, received⟩ := Option.map_eq_some_iff.mp received
  obtain ⟨start, _, sum, always⟩ := lossy_waits rfl reachable inactive nothing subscribed
  rw [first] at sum always
  obtain ⟨answer, answered, justified⟩ := always _ _ _ exactAllocator
    ⟨⟨16⟩, .dropAdditionalData, none⟩ (· = "bc") false ran found (by decide)
  rw [received] at answered justified
  rw [if_pos running] at justified
  exact ⟨before, after, state, subscription, start, subscribed, found, sum, answer, answered,
    justified⟩

end Lossy

end TokioProcessTools.OutputStream.Backend.SingleSubscriber
