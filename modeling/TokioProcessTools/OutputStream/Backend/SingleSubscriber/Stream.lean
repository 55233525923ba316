import TokioProcessTools.Foundation.BoundedChannel
import TokioProcessTools.Foundation.Machine
import TokioProcessTools.OutputStream.Backend.SingleSubscriber.State

/-!
# The single-subscriber stream as a machine

One reader task serves at most one active subscriber. Who is active stands in two
places, the locked state and a watch channel, and the reader works with a copy it
took from the latter. Its sends happen outside the lock and may go to a subscriber
that is already gone. A failed send clears that subscriber's registration, reads
the active subscriber again, and may try once more.

Both delivery guarantees are one machine. The three loops of the source that send
an event (`try_send_best_effort_event`, `send_pending_gap_before_terminal` and
`deliver_reliable_event`) go through the same places: send, clear the
registration, refresh. A `Purpose` says which loop it is, and what follows.

A step is what a party does up to and including its next access to shared state.
A subscription is dropped in two steps, first its receiver and then its
registration.

The machine also records, without any function reading it, the bytes read, the
events recorded, the position of the buffer in the source, and for each
subscription what was sent to it and what it has yielded.
-/

set_option autoImplicit false

namespace TokioProcessTools.OutputStream.Backend.SingleSubscriber

open Foundation

/-- The position of a subscription. It stands for the sender of the subscription's channel. -/
abbrev Handle := Nat

/-- `ActiveSubscriber`. -/
structure ActiveSubscriber where
  id : SubscriberId
  sender : Handle
  deriving DecidableEq, Repr

/-- `StreamConsumerError::ActiveConsumer`. -/
inductive StreamConsumerError where
  | activeConsumer (streamName : String)
  deriving DecidableEq, Repr

/-! ## Subscriptions -/

/-- Where a subscription is in its life. -/
inductive Status where
  | inUse
  /-- The receiver is dropped, the registration not yet. -/
  | dropping
  | dropped
  deriving DecidableEq, Repr

/-- `SingleSubscriberSubscription`, with what was sent to it and what it has yielded. The channel is
open as long as `live_receiver` is there. -/
structure SingleSubscription where
  id : SubscriberId
  replay : List StreamEvent
  terminalEvent : Option StreamEvent
  channel : BoundedChannel StreamEvent
  status : Status := .inUse
  /-- All events sent to the channel. -/
  sent : List StreamEvent := []
  /-- What `next_event` took from the channel. -/
  live : List StreamEvent := []
  /-- All that `next_event` has yielded. -/
  received : List StreamEvent := []
  /-- `next_event` has answered `None`. -/
  ended : Bool := false
  deriving DecidableEq, Repr

/-! ## The reader -/

/-- `BestEffortLag`. -/
structure BestEffortLag where
  subscriberId : Option SubscriberId := none
  lagged : Nat := 0
  gapPending : Bool := false
  deriving DecidableEq, Repr

/-- `BestEffortLag::observe_active`. -/
def BestEffortLag.observeActive (lag : BestEffortLag) (active : Option ActiveSubscriber) :
    BestEffortLag :=
  let subscriberId := active.map ActiveSubscriber.id
  if lag.subscriberId ≠ subscriberId then { subscriberId, lagged := 0, gapPending := false }
  else lag

/-- `log_if_lagged`, without the log line. -/
def BestEffortLag.logIfLagged (lag : BestEffortLag) : BestEffortLag := { lag with lagged := 0 }

/-- `buffered_chunk_count`. -/
def bufferedChunkCount (bufferLength : Nat) (chunkSize : NumBytes) : Nat :=
  (bufferLength + chunkSize.bytes - 1) / chunkSize.bytes

/-- A recorded event on its way: whether later subscribers receive it, and whether its send was
retried. -/
structure Attempt where
  event : StreamEvent
  recorded : Bool
  retried : Bool := false
  deriving DecidableEq, Repr

/-- Which of the sending loops the reader is in. -/
inductive Purpose where
  /-- `try_send_best_effort_event` with the pending gap. -/
  | gap
  /-- `try_send_best_effort_event` with a chunk. -/
  | chunk (attempt : Attempt)
  /-- `send_pending_gap_before_terminal`. -/
  | flush (attempt : Attempt)
  /-- `deliver_reliable_event`. -/
  | deliver (attempt : Attempt)
  deriving DecidableEq, Repr

/-- The event a loop sends. -/
def Purpose.event : Purpose → StreamEvent
  | .gap | .flush _ => .gap
  | .chunk attempt | .deliver attempt => attempt.event

/-- What `read_buf` answered. -/
inductive ReadResult where
  | data
  | eof
  | failed (source : IoError)
  deriving DecidableEq, Repr

/-- Where the reader is. Except for `yielding`, each place is in front of an access to shared
state. -/
inductive Place where
  /-- At `read_buf`, or at the `select!` over it. -/
  | reading
  /-- Behind `read_buf`, at the refresh in the first branch of the `select!`. -/
  | refreshRead (result : ReadResult)
  /-- At the lock of `record_event`. -/
  | record (event : StreamEvent)
  | sending (purpose : Purpose)
  /-- At `clear_active_if_current`, after a send found the channel closed. -/
  | clearing (purpose : Purpose) (active : ActiveSubscriber)
  /-- At `refresh_cached_active`, behind the former. -/
  | refreshing (purpose : Purpose)
  /-- At `yield_now`. -/
  | yielding
  | finished
  | aborted
  deriving DecidableEq, Repr

/-- The variables of the reader task, and the position of its buffer in the source. -/
structure Reader where
  cachedActive : Option ActiveSubscriber := none
  seenVersion : Nat := 0
  lag : BestEffortLag := {}
  buffer : List UInt8 := []
  place : Place := .reading
  position : Nat := 0
  deriving DecidableEq, Repr

namespace Reader

/-- `best_effort_lag.observe_active(cached_active.as_ref())`. -/
def observe (reader : Reader) : Reader :=
  { reader with lag := reader.lag.observeActive reader.cachedActive }

/-- Split off the next chunk, to record it. -/
def splitChunk (reader : Reader) (options : StreamConfig) : Reader :=
  let bytes := reader.buffer.take options.readChunkSize.bytes
  { reader with
    buffer := reader.buffer.drop options.readChunkSize.bytes
    position := reader.position + bytes.length
    place := .record (.chunk ⟨bytes, reader.position⟩) }

/-- `while !buf.is_empty()`: the head of the loop over the buffer. -/
def nextChunk (reader : Reader) (options : StreamConfig) : Reader :=
  match reader.buffer with
  | [] => { reader with place := .reading }
  | _ :: _ =>
      match options.deliveryGuarantee with
      | .reliableWithBackpressure => reader.splitChunk options
      | .lossyWithoutBackpressure =>
          let reader := reader.observe
          if reader.lag.gapPending then
            match reader.cachedActive with
            | none => reader.observe.splitChunk options
            | some _ => { reader with place := .sending .gap }
          else reader.splitChunk options

/-- The task ends and its variables are dropped. -/
def finish (reader : Reader) : Reader := { reader with place := .finished, cachedActive := none }

/-- Behind the delivery of an event. -/
def afterEvent (reader : Reader) (options : StreamConfig) (event : StreamEvent) : Reader :=
  if event.isTerminal then reader.finish else reader.nextChunk options

/-- The head of the loop of `deliver_reliable_event`. -/
def startDeliver (reader : Reader) (options : StreamConfig) (attempt : Attempt) : Reader :=
  match reader.cachedActive with
  | none => reader.afterEvent options attempt.event
  | some _ => { reader with place := .sending (.deliver attempt) }

/-- The head of the loop of `try_send_best_effort_event`, for a chunk. -/
def startTrySend (reader : Reader) (options : StreamConfig) (attempt : Attempt) : Reader :=
  match reader.cachedActive with
  | none => reader.observe.nextChunk options
  | some _ => { reader with place := .sending (.chunk attempt) }

/-- The head of `send_pending_gap_before_terminal`. -/
def startFlush (reader : Reader) (options : StreamConfig) (attempt : Attempt) : Reader :=
  if reader.lag.gapPending then
    match reader.cachedActive with
    | none => { reader with lag := reader.lag.observeActive none }.startDeliver options attempt
    | some _ => { reader with place := .sending (.flush attempt) }
  else reader.startDeliver options attempt

/-- Behind `record_event`. -/
def afterRecord (reader : Reader) (options : StreamConfig) (attempt : Attempt) : Reader :=
  match options.deliveryGuarantee with
  | .reliableWithBackpressure => reader.startDeliver options attempt
  | .lossyWithoutBackpressure =>
      if attempt.event.isTerminal then reader.observe.startFlush options attempt
      else reader.startTrySend options attempt

/-- Behind a send that succeeded. -/
def afterSent (reader : Reader) (options : StreamConfig) : Purpose → Reader
  | .gap =>
      let lag := { reader.lag.logIfLagged with gapPending := false }
      { reader with lag }.splitChunk options
  | .chunk _ => { reader with lag := reader.lag.logIfLagged }.nextChunk options
  | .flush attempt =>
      let lag := { reader.lag.logIfLagged with gapPending := false }
      { reader with lag }.startDeliver options attempt
  | .deliver attempt => reader.afterEvent options attempt.event

/-- Behind a send that found the channel full. The pending gap gives up the whole buffer. The
loops that wait for room have no step. -/
def afterFull (reader : Reader) (options : StreamConfig) : Purpose → Option Reader
  | .gap =>
      let count := bufferedChunkCount reader.buffer.length options.readChunkSize
      some { reader with
        lag := { reader.lag with lagged := reader.lag.lagged + count }
        position := reader.position + reader.buffer.length
        buffer := []
        place := .yielding }
  | .chunk _ =>
      some { reader with
        lag := { reader.lag with lagged := reader.lag.lagged + 1, gapPending := true }
        place := .yielding }
  | .flush _ | .deliver _ => none

/-- Behind the refresh that follows a send into a closed channel. An event that later subscribers
do not receive is sent once more. -/
def afterRefresh (reader : Reader) (options : StreamConfig) : Purpose → Reader
  | .gap => reader.observe.splitChunk options
  | .chunk attempt =>
      if attempt.recorded ∨ attempt.retried then reader.observe.nextChunk options
      else reader.startTrySend options { attempt with retried := true }
  | .flush attempt => reader.observe.startDeliver options attempt
  | .deliver attempt =>
      if attempt.recorded ∨ attempt.retried then reader.afterEvent options attempt.event
      else reader.startDeliver options { attempt with retried := true }

/-- Behind `read_buf`. -/
def afterRead (reader : Reader) (streamName : String) (options : StreamConfig) :
    ReadResult → Reader
  | .data => reader.nextChunk options
  | .eof => { reader with place := .record .eof }
  | .failed source => { reader with place := .record (.readError ⟨streamName, source⟩) }

end Reader

/-! ## The machine -/

/-- The state of all parties. -/
structure StreamState where
  shared : ReplayState := .new
  activeTx : Option ActiveSubscriber := none
  /-- The version of the watch channel. -/
  activeVersion : Nat := 0
  reader : Reader := {}
  subscriptions : List SingleSubscription := []
  streamDropped : Bool := false
  /-- All bytes read. -/
  source : List UInt8 := []
  /-- All events recorded. -/
  log : List StreamEvent := []
  deriving DecidableEq, Repr

/-- A step of one party. -/
inductive Action where
  | read (bytes : List UInt8)
  | readEof
  | readError (source : IoError)
  /-- The second branch of the `select!`. -/
  | changed
  /-- The reader's next access. -/
  | reader
  | subscribe
  | nextEvent (handle : Handle)
  | closeReceiver (handle : Handle)
  | clearRegistration (handle : Handle)
  | sealReplay
  | dropStream
  | abortReader
  deriving DecidableEq, Repr

namespace StreamState

/-- `refresh_cached_active`. -/
def refreshed (state : StreamState) : Reader :=
  { state.reader with cachedActive := state.activeTx, seenVersion := state.activeVersion }

/-- `active_tx.send_replace`. -/
def sendReplace (state : StreamState) (activeTx : Option ActiveSubscriber) : StreamState :=
  { state with activeTx, activeVersion := state.activeVersion + 1 }

/-- `clear_active_if_current`. -/
def clearActiveIfCurrent (state : StreamState) (id : SubscriberId) : StreamState :=
  if state.shared.activeId = some id then
    { state with shared := { state.shared with activeId := none } }.sendReplace none
  else state

/-- `clear_active`. -/
def clearActive (state : StreamState) : StreamState :=
  { state with shared := { state.shared with activeId := none } }.sendReplace none

/-- `try_subscribe`. -/
def trySubscribe (state : StreamState) (streamName : String) (options : StreamConfig) :
    Except StreamConsumerError StreamState :=
  if state.shared.activeId.isSome then .error (.activeConsumer streamName)
  else
    let replay := state.shared.replaySnapshot options
    let (shared, id) := state.shared.attachSubscriber
    let sender := state.subscriptions.length
    .ok { { state with shared }.sendReplace (some ⟨id, sender⟩) with
      subscriptions := state.subscriptions ++
        [{ id
           replay
           terminalEvent := state.shared.terminalEvent
           channel := { capacity := options.maxBufferedChunks } }] }

/-- What follows the answer of `read_buf`. The subscriber is refreshed if there was none. -/
def gotResult (state : StreamState) (streamName : String) (options : StreamConfig)
    (result : ReadResult) : StreamState :=
  match state.reader.cachedActive with
  | none => { state with reader := { state.reader with place := .refreshRead result } }
  | some _ => { state with reader := state.reader.afterRead streamName options result }

/-- The lossy reader observes the subscriber wherever it refreshes it while reading. -/
def observedIfLossy (options : StreamConfig) (reader : Reader) : Reader :=
  match options.deliveryGuarantee with
  | .reliableWithBackpressure => reader
  | .lossyWithoutBackpressure => reader.observe

/-- One send of the reader. -/
def sendStep (state : StreamState) (options : StreamConfig) (purpose : Purpose) :
    Option StreamState := do
  let active ← state.reader.cachedActive
  let subscription ← state.subscriptions[active.sender]?
  match subscription.channel.trySend purpose.event with
  | .sent channel =>
      let sent := subscription.sent ++ [purpose.event]
      some { state with
        subscriptions :=
          state.subscriptions.set active.sender { subscription with channel, sent }
        reader := state.reader.afterSent options purpose }
  | .full => do
      let reader ← state.reader.afterFull options purpose
      some { state with reader }
  | .closed => some { state with reader := { state.reader with place := .clearing purpose active } }

/-- The reader's next access. -/
def readerStep (state : StreamState) (streamName : String) (options : StreamConfig) :
    Option StreamState :=
  match state.reader.place with
  | .refreshRead result =>
      let reader := observedIfLossy options state.refreshed
      some { state with reader := reader.afterRead streamName options result }
  | .record event =>
      match state.shared.pushReplayEvent event options.replayRetention with
      | .error _ => none
      | .ok (shared, recorded) =>
          some { state with
            shared
            log := state.log ++ [event]
            reader := state.refreshed.afterRecord options { event, recorded } }
  | .sending purpose => state.sendStep options purpose
  | .clearing purpose active =>
      let reader := { state.reader with place := .refreshing purpose }
      some { state.clearActiveIfCurrent active.id with reader }
  | .refreshing purpose =>
      some { state with reader := state.refreshed.afterRefresh options purpose }
  | .yielding => some { state with reader := state.reader.nextChunk options }
  | .reading | .finished | .aborted => none

/-- No sender of the channel is left. -/
def sendersGone (state : StreamState) (handle : Handle) : Bool :=
  state.activeTx.map ActiveSubscriber.sender ≠ some handle &&
    state.reader.cachedActive.map ActiveSubscriber.sender ≠ some handle

/-- Replace one subscription. -/
def withSubscription (state : StreamState) (handle : Handle) (subscription : SingleSubscription) :
    StreamState :=
  { state with subscriptions := state.subscriptions.set handle subscription }

/-- `next_event`. -/
def nextEventStep (state : StreamState) (handle : Handle) (subscription : SingleSubscription) :
    Option StreamState :=
  match subscription.replay, subscription.terminalEvent with
  | event :: replay, _ =>
      let received := subscription.received ++ [event]
      some (state.withSubscription handle { subscription with replay, received })
  | [], some event =>
      let received := subscription.received ++ [event]
      let channel := subscription.channel.dropReceiver
      some (state.withSubscription handle
        { subscription with terminalEvent := none, channel, received })
  | [], none =>
      if subscription.channel.receiverOpen then
        match subscription.channel.recv with
        | some (event, channel) =>
            let received := subscription.received ++ [event]
            let live := subscription.live ++ [event]
            some (state.withSubscription handle { subscription with channel, received, live })
        | none =>
            if state.sendersGone handle then
              some (state.withSubscription handle { subscription with ended := true })
            else none
      else some (state.withSubscription handle { subscription with ended := true })

end StreamState

/-- The step function. -/
def step (streamName : String) (options : StreamConfig) (state : StreamState) :
    Action → Option StreamState
  | .read bytes =>
      if state.reader.place = .reading ∧ bytes ≠ [] then
        let reader := { state.reader with buffer := state.reader.buffer ++ bytes }
        some ({ state with reader, source := state.source ++ bytes }.gotResult streamName options
          .data)
      else none
  | .readEof =>
      if state.reader.place = .reading then some (state.gotResult streamName options .eof)
      else none
  | .readError source =>
      if state.reader.place = .reading then some (state.gotResult streamName options (.failed source))
      else none
  | .changed =>
      if state.reader.place = .reading ∧ state.reader.cachedActive = none ∧
          state.activeVersion ≠ state.reader.seenVersion then
        some { state with reader := StreamState.observedIfLossy options state.refreshed }
      else none
  | .reader => state.readerStep streamName options
  | .subscribe =>
      if state.streamDropped then none
      else
        match state.trySubscribe streamName options with
        | .ok next => some next
        | .error _ => some state
  | .nextEvent handle => do
      let subscription ← state.subscriptions[handle]?
      if subscription.status = .inUse then state.nextEventStep handle subscription else none
  | .closeReceiver handle => do
      let subscription ← state.subscriptions[handle]?
      if subscription.status = .inUse then
        let channel := subscription.channel.dropReceiver
        some (state.withSubscription handle { subscription with status := .dropping, channel })
      else none
  | .clearRegistration handle => do
      let subscription ← state.subscriptions[handle]?
      if subscription.status = .dropping then
        some ((state.clearActiveIfCurrent subscription.id).withSubscription handle
          { subscription with status := .dropped })
      else none
  | .sealReplay =>
      if options.replayRetention.isSome ∧ state.streamDropped = false then
        match state.shared.sealReplay options with
        | .error _ => none
        | .ok shared => some { state with shared }
      else none
  | .dropStream =>
      if state.streamDropped then none else some { state.clearActive with streamDropped := true }
  | .abortReader =>
      if state.streamDropped then
        match state.reader.place with
        | .reading | .yielding | .sending (.flush _) | .sending (.deliver _) =>
            some { state with
              reader := { state.reader with place := .aborted, cachedActive := none } }
        | .sending .gap | .sending (.chunk _) | .refreshRead _ | .record _ | .clearing _ _
        | .refreshing _ | .finished | .aborted => none
      else none

/-- The machine of the single-subscriber stream. -/
def streamMachine (streamName : String) (options : ValidConfig) : Machine StreamState Action where
  init := {}
  step := step streamName options.toStreamConfig

/-- The stream is not dropped. -/
def StreamKept (_ : StreamState) (action : Action) : Prop := action ≠ .dropStream

instance (state : StreamState) : DecidablePred (StreamKept state) :=
  fun _ => inferInstanceAs (Decidable (_ ≠ _))

end TokioProcessTools.OutputStream.Backend.SingleSubscriber
