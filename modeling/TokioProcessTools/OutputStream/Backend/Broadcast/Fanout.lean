import TokioProcessTools.Foundation.BoundedChannel
import TokioProcessTools.Foundation.Machine
import TokioProcessTools.OutputStream.Backend.Broadcast.LiveQueue

/-!
# The fanout path of the broadcast backend

One reader task appends events to the shared state and sends each of them to the
subscribers that were registered when it was appended. Appending happens under
the lock; the sends come one by one after its release, on a copy of the registry.
Meanwhile subscriptions are created, receive, and are dropped, and replay is
sealed.

A step of the machine is what a party does between two accesses to shared state.
The registry is a hash map, so the order in which an append visits it is part of
the action. A reliable send into a full channel waits, that is, it has no step.

Dropping a subscription takes two steps. It first leaves the registry, and then
its receiver disappears. A subscription that receives the terminal event leaves
the registry too, but by then the append has already emptied it.

The machine also records, without any function reading it, all events ever
appended, and for each subscription its snapshot and everything it has yielded.
-/

set_option autoImplicit false

namespace TokioProcessTools.OutputStream.Backend.Broadcast

open Foundation

/-- A subscription is named by its position among all subscriptions. The registry maps ids to such
handles, which stand for the sender of the subscription's channel or queue. -/
abbrev Handle := Nat

/-- `LiveReceiver`. -/
inductive LiveReceiver where
  | reliable (channel : BoundedChannel IndexedEvent)
  | bestEffort (queue : BestEffortLiveQueue)
  | closed
  deriving DecidableEq, Repr

/-- The outcome of one send. -/
inductive Delivery where
  | delivered (receiver : LiveReceiver)
  | stale
  | waits
  deriving DecidableEq, Repr

namespace LiveReceiver

/-- The receiving end `try_subscribe` creates. -/
def new (options : StreamConfig) : LiveReceiver :=
  match options.deliveryGuarantee with
  | .reliableWithBackpressure => .reliable { capacity := options.maxBufferedChunks }
  | .lossyWithoutBackpressure => .bestEffort { capacity := options.maxBufferedChunks }

/-- The body of the loop of `append_event` over the subscribers. A sender of the other kind is
passed over. -/
def deliver (guarantee : DeliveryGuarantee) (event : IndexedEvent) (receiver : LiveReceiver) :
    Delivery :=
  match guarantee, receiver with
  | .reliableWithBackpressure, .reliable channel =>
      match channel.trySend event with
      | .sent channel => .delivered (.reliable channel)
      | .full => .waits
      | .closed => .stale
  | .lossyWithoutBackpressure, .bestEffort queue =>
      match queue.push event with
      | (queue, true) => .delivered (.bestEffort queue)
      | (_, false) => .stale
  | _, receiver => .delivered receiver

/-- The next event that is already there. -/
def take : LiveReceiver → Option (IndexedEvent × LiveReceiver)
  | .reliable channel => channel.recv.map fun (event, channel) => (event, .reliable channel)
  | .bestEffort queue =>
      match queue.recv with
      | .event event queue => some (event, .bestEffort queue)
      | .closed | .waits => none
  | .closed => none

/-- Whether `recv` answers `None` when no event is there. A channel ends with its last sender. -/
def endsWith (sendersGone : Bool) : LiveReceiver → Bool
  | .reliable _ => sendersGone
  | .bestEffort queue => queue.closed
  | .closed => true

/-- The receiver is dropped. A best-effort queue lives on as long as the reader has a share. -/
def drop : LiveReceiver → LiveReceiver
  | .reliable channel => .reliable channel.dropReceiver
  | .bestEffort queue => .bestEffort queue
  | .closed => .closed

end LiveReceiver

/-- Where a subscription is in its life. -/
inductive Status where
  | inUse
  /-- Out of the registry, with the receiver still there. -/
  | dropping
  | dropped
  deriving DecidableEq, Repr

/-- `SharedSubscription`, with what it was given and what it has yielded. -/
structure SharedSubscription where
  id : Option SubscriberId
  replay : List IndexedEvent
  liveStartSeq : Nat
  liveReceiver : LiveReceiver
  done : Bool := false
  status : Status := .inUse
  snapshot : List IndexedEvent
  yielded : List IndexedEvent := []
  /-- `recv` has answered `None`. -/
  ended : Bool := false
  deriving DecidableEq, Repr

/-- Where the reader task is in `read_chunked_shared` and `append_event`. -/
inductive Reader where
  /-- At `read_buf`. -/
  | reading
  /-- At the lock of `append_event`, with the rest of the buffer. -/
  | appending (event : StreamEvent) (buffer : List UInt8)
  /-- Sending an event to what is left of the copy of the registry. -/
  | sending (event : IndexedEvent) (targets : List (SubscriberId × Handle))
      (stale : List SubscriberId) (buffer : List UInt8)
  /-- At the lock, to remove stale subscribers. -/
  | pruning (stale : List SubscriberId) (buffer : List UInt8)
  | finished
  | aborted
  deriving DecidableEq, Repr

/-- The state of all parties. -/
structure FanoutState where
  shared : BroadcastState Handle := {}
  reader : Reader := .reading
  subscriptions : List SharedSubscription := []
  streamDropped : Bool := false
  /-- The position of the next chunk in the source. -/
  offset : Nat := 0
  /-- All events ever appended. -/
  log : List IndexedEvent := []
  deriving DecidableEq, Repr

/-- A step of one party. -/
inductive FanoutAction where
  | read (bytes : List UInt8)
  | readEof
  | readError (source : IoError)
  | append (order : List (SubscriberId × Handle))
  | deliver
  | prune
  | subscribe
  | recv (handle : Handle)
  | leaveRegistry (handle : Handle)
  | dropReceiver (handle : Handle)
  | sealReplay
  | dropStream
  | abortReader
  deriving DecidableEq, Repr

namespace FanoutState

/-! ## The reader -/

/-- The loop over the buffer: split off the next chunk, or read on. -/
def continueWith (state : FanoutState) (chunkSize : Nat) (buffer : List UInt8) : FanoutState :=
  match buffer with
  | [] => { state with reader := .reading }
  | byte :: rest =>
      let bytes := (byte :: rest).take chunkSize
      { state with
        offset := state.offset + bytes.length
        reader := .appending (.chunk ⟨bytes, state.offset⟩) ((byte :: rest).drop chunkSize) }

/-- What follows an append: the reader ends behind a terminal event. -/
def afterAppend (state : FanoutState) (chunkSize : Nat) (event : StreamEvent)
    (buffer : List UInt8) : FanoutState :=
  if event.isTerminal then { state with reader := .finished }
  else state.continueWith chunkSize buffer

/-- `append_event` under the lock. A panic has no step. -/
def appendStep (state : FanoutState) (options : StreamConfig) (event : StreamEvent)
    (buffer : List UInt8) (order : List (SubscriberId × Handle)) : Option FanoutState :=
  if state.shared.closed then
    some (state.afterAppend options.readChunkSize.bytes event buffer)
  else if order.Perm state.shared.subscribers then
    match state.shared.pushEvent event options with
    | .error _ => none
    | .ok (shared, indexed) =>
        let shared := if event.isTerminal then { shared with subscribers := [] } else shared
        some { state with
          shared
          log := state.log ++ [indexed]
          reader := .sending indexed order [] buffer }
  else none

/-- One send of `append_event`, or the end of its loop. -/
def deliverStep (state : FanoutState) (options : StreamConfig) : Option FanoutState :=
  match state.reader with
  | .sending event [] stale buffer =>
      if event.event.isTerminal = false ∧ stale ≠ [] then
        some { state with reader := .pruning stale buffer }
      else some (state.afterAppend options.readChunkSize.bytes event.event buffer)
  | .sending event ((id, handle) :: targets) stale buffer => do
      let subscription ← state.subscriptions[handle]?
      match subscription.liveReceiver.deliver options.deliveryGuarantee event with
      | .delivered liveReceiver =>
          some { state with
            subscriptions := state.subscriptions.set handle { subscription with liveReceiver }
            reader := .sending event targets stale buffer }
      | .stale => some { state with reader := .sending event targets (stale ++ [id]) buffer }
      | .waits => none
  | _ => none

/-- The reader removes the subscribers whose receiver is gone. -/
def pruneStep (state : FanoutState) (options : StreamConfig) : Option FanoutState :=
  match state.reader with
  | .pruning stale buffer =>
      let shared := stale.foldl BroadcastState.removeSubscriber state.shared
      some ({ state with shared }.continueWith options.readChunkSize.bytes buffer)
  | _ => none

/-- The handles the reader still has a sender for. -/
def pendingHandles (state : FanoutState) : List Handle :=
  match state.reader with
  | .sending _ targets _ _ => targets.map Prod.snd
  | _ => []

/-! ## Subscriptions -/

/-- `try_subscribe`, under the lock. -/
def subscribeStep (state : FanoutState) (options : StreamConfig) : FanoutState :=
  let (snapshot, liveStartSeq) := state.shared.replaySnapshot options
  if state.shared.closed ∨ state.shared.terminal.isSome then
    { state with
      subscriptions := state.subscriptions ++
        [{ id := none, replay := snapshot, liveStartSeq, liveReceiver := .closed, snapshot }] }
  else
    let (shared, id) := state.shared.addSubscriber state.subscriptions.length
    { state with
      shared
      subscriptions := state.subscriptions ++
        [{ id := some id, replay := snapshot, liveStartSeq, liveReceiver := .new options,
            snapshot }] }

/-- No sender for the handle is left. -/
def sendersGone (state : FanoutState) (handle : Handle) : Bool :=
  handle ∉ state.shared.subscribers.map Prod.snd && handle ∉ state.pendingHandles

/-- `if let Some(id) = self.id.take()`, followed by the removal from the registry. -/
def leave (shared : BroadcastState Handle) : Option SubscriberId → BroadcastState Handle
  | some id => shared.removeSubscriber id
  | none => shared

/-- Yield an event; a terminal one also detaches the subscription. -/
def yieldStep (state : FanoutState) (handle : Handle) (subscription : SharedSubscription)
    (event : IndexedEvent) : FanoutState :=
  let subscription := { subscription with yielded := subscription.yielded ++ [event] }
  if event.event.isTerminal then
    { state with
      shared := leave state.shared subscription.id
      subscriptions :=
        state.subscriptions.set handle { subscription with id := none, done := true } }
  else { state with subscriptions := state.subscriptions.set handle subscription }

/-- `SharedSubscription::recv`. An event from before the live start is skipped, and the loop goes
on with the next step. -/
def recvStep (state : FanoutState) (handle : Handle) (subscription : SharedSubscription) :
    Option FanoutState :=
  match subscription.replay with
  | event :: replay => some (state.yieldStep handle { subscription with replay } event)
  | [] =>
      match subscription.liveReceiver.take with
      | some (event, liveReceiver) =>
          let subscription := { subscription with liveReceiver }
          if event.seq < subscription.liveStartSeq then
            some { state with subscriptions := state.subscriptions.set handle subscription }
          else some (state.yieldStep handle subscription event)
      | none =>
          if subscription.liveReceiver.endsWith (state.sendersGone handle) then
            some { state with
              subscriptions := state.subscriptions.set handle { subscription with ended := true } }
          else none

/-- The body of `drop`: a subscription that is not done leaves the registry. -/
def leaveRegistryStep (state : FanoutState) (handle : Handle) (subscription : SharedSubscription) :
    FanoutState :=
  let leaving := { subscription with status := .dropping }
  if subscription.done then
    { state with subscriptions := state.subscriptions.set handle leaving }
  else
    { state with
      shared := leave state.shared subscription.id
      subscriptions := state.subscriptions.set handle { leaving with id := none } }

/-- `BroadcastOutputStream::drop`: the queues of the registered subscribers are closed. -/
def closeForDrop (state : FanoutState) : FanoutState :=
  let closeQueue := fun (handle : Handle) (subscription : SharedSubscription) =>
    match subscription.liveReceiver with
    | .bestEffort queue =>
        if handle ∈ state.shared.subscribers.map Prod.snd then
          { subscription with liveReceiver := .bestEffort queue.close }
        else subscription
    | .reliable _ | .closed => subscription
  { state with
    streamDropped := true
    shared := { state.shared with closed := true, subscribers := [] }
    subscriptions := state.subscriptions.mapIdx closeQueue }

end FanoutState

/-! ## The machine -/

/-- The step function. -/
def fanoutStep (streamName : String) (options : StreamConfig) (state : FanoutState) :
    FanoutAction → Option FanoutState
  | .read bytes =>
      if state.reader = .reading ∧ bytes ≠ [] then
        some (state.continueWith options.readChunkSize.bytes bytes)
      else none
  | .readEof =>
      if state.reader = .reading then some { state with reader := .appending .eof [] } else none
  | .readError source =>
      if state.reader = .reading then
        some { state with reader := .appending (.readError ⟨streamName, source⟩) [] }
      else none
  | .append order =>
      match state.reader with
      | .appending event buffer => state.appendStep options event buffer order
      | _ => none
  | .deliver => state.deliverStep options
  | .prune => state.pruneStep options
  | .subscribe => if state.streamDropped then none else some (state.subscribeStep options)
  | .recv handle => do
      let subscription ← state.subscriptions[handle]?
      if subscription.status = .inUse then state.recvStep handle subscription else none
  | .leaveRegistry handle => do
      let subscription ← state.subscriptions[handle]?
      if subscription.status = .inUse then some (state.leaveRegistryStep handle subscription)
      else none
  | .dropReceiver handle => do
      let subscription ← state.subscriptions[handle]?
      if subscription.status = .dropping then
        some { state with
          subscriptions := state.subscriptions.set handle { subscription with
            status := .dropped
            liveReceiver := subscription.liveReceiver.drop } }
      else none
  | .sealReplay =>
      if options.replayRetention.isSome ∧ state.streamDropped = false then
        some { state with shared := state.shared.sealReplay }
      else none
  | .dropStream => if state.streamDropped then none else some state.closeForDrop
  | .abortReader =>
      if state.streamDropped then
        match state.reader with
        | .reading => some { state with reader := .aborted }
        | .sending _ (_ :: _) _ _ =>
            -- Only a reliable send is an await point.
            if options.deliveryGuarantee = .reliableWithBackpressure then
              some { state with reader := .aborted }
            else none
        | .sending _ [] _ _ | .appending _ _ | .pruning _ _ | .finished | .aborted => none
      else none

/-- The machine of the fanout path. -/
def fanoutMachine (streamName : String) (options : ValidConfig) :
    Machine FanoutState FanoutAction where
  init := {}
  step := fanoutStep streamName options.toStreamConfig

/-- The stream is not dropped. -/
def StreamKept (_ : FanoutState) (action : FanoutAction) : Prop := action ≠ .dropStream

instance (state : FanoutState) : DecidablePred (StreamKept state) :=
  fun _ => inferInstanceAs (Decidable (_ ≠ _))

end TokioProcessTools.OutputStream.Backend.Broadcast
