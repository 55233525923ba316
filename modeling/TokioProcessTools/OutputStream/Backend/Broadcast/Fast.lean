import TokioProcessTools.Foundation.BroadcastRing
import TokioProcessTools.Foundation.Machine
import TokioProcessTools.OutputStream.Config
import TokioProcessTools.OutputStream.Event

/-!
# The broadcast fast path

A lossy stream without replay sends its events on one bounded broadcast channel.
The terminal event is published twice: it is sent on the channel for existing
subscriptions, and stored behind the lock `closure_state` for later ones.

The machine interleaves the steps of the reader task with subscribing and
receiving. A step is what a party does between two accesses to shared state:
taking the lock, releasing it, and sending are steps of their own. The end of
the stream is stored and sent under one hold of the lock. A read error is stored
under the lock and sent after its release. A subscription that is dropped takes no
further steps; the channel keeps no trace of it that others could see.
-/

set_option autoImplicit false

namespace TokioProcessTools.OutputStream.Backend.Broadcast.Fast

open Foundation

/-- `FastClosureState`. -/
structure FastClosureState where
  closed : Bool := false
  readError : Option StreamReadError := none
  deriving DecidableEq, Repr

/-- The stored terminal event, as `try_subscribe` reads it. -/
def FastClosureState.terminalEvent (state : FastClosureState) : Option StreamEvent :=
  (state.readError.map StreamEvent.readError).or (if state.closed then some .eof else none)

/-- Where the reader task is in `read_chunked_fast`. -/
inductive Reader where
  /-- At `read_buf`. -/
  | reading
  /-- Sending the chunks of its buffer. -/
  | sending (buffer : List UInt8)
  /-- At the lock, to store the end of the stream. -/
  | storeEof
  /-- Holding the lock, about to send the end of the stream. -/
  | sendEof
  /-- Holding the lock, about to release it. -/
  | releaseEof
  /-- At the lock, to store a read error. -/
  | storeError (error : StreamReadError)
  /-- Holding the lock, about to release it. -/
  | releaseError (error : StreamReadError)
  /-- Without the lock, about to send the read error. -/
  | sendError (error : StreamReadError)
  | finished
  | aborted
  deriving DecidableEq, Repr

/-- Who holds the lock `closure_state`. A call of `try_subscribe` holds it together with the
receiver it has created. -/
inductive Lock where
  | free
  | reader
  | subscriber (receiver : Option Nat)
  deriving DecidableEq, Repr

/-- `FastSubscription`, with everything it has yielded and whether it has answered `None`. -/
structure FastSubscription where
  receiver : Nat
  emitTerminalEvent : Option StreamEvent
  yielded : List StreamEvent := []
  ended : Bool := false
  deriving DecidableEq, Repr

/-- The state shared by all parties, with the number of bytes sent so far. -/
structure FastState where
  sent : List StreamEvent := []
  bytesSent : Nat := 0
  closureState : FastClosureState := {}
  lock : Lock := .free
  reader : Reader := .reading
  subscriptions : List FastSubscription := []
  streamDropped : Bool := false
  deriving DecidableEq, Repr

/-- A step of one party. `read` carries the answer of the source. -/
inductive FastAction where
  | read (bytes : List UInt8)
  | readEof
  | readError (source : IoError)
  | reader
  | subscribeLock
  | subscribeReceiver
  | subscribeFinish
  | nextEvent (handle : Nat)
  | dropStream
  | abortReader
  deriving DecidableEq, Repr

section Steps

variable (streamName : String) (chunkSize capacity : Nat)

/-- A step of the reader that does not read. -/
def readerStep (state : FastState) : Option FastState :=
  match state.reader with
  | .reading | .finished | .aborted => none
  | .sending [] => some { state with reader := .reading }
  | .sending (byte :: rest) =>
      let bytes := (byte :: rest).take chunkSize
      some { state with
        sent := state.sent ++ [.chunk ⟨bytes, state.bytesSent⟩]
        bytesSent := state.bytesSent + bytes.length
        reader := .sending ((byte :: rest).drop chunkSize) }
  | .storeEof =>
      if state.lock = .free then
        some { state with
          lock := .reader
          closureState := { state.closureState with closed := true }
          reader := .sendEof }
      else none
  | .sendEof => some { state with sent := state.sent ++ [.eof], reader := .releaseEof }
  | .releaseEof => some { state with lock := .free, reader := .finished }
  | .storeError error =>
      if state.lock = .free then
        some { state with
          lock := .reader
          closureState := { state.closureState with readError := some error }
          reader := .releaseError error }
      else none
  | .releaseError error => some { state with lock := .free, reader := .sendError error }
  | .sendError error =>
      some { state with sent := state.sent ++ [.readError error], reader := .finished }

/-- Whether every sender of the channel is gone. -/
def FastState.sendersGone (state : FastState) : Bool :=
  state.streamDropped && (state.reader = .finished || state.reader = .aborted)

/-- `FastSubscription::recv`. A subscription that waits has no step. -/
def recvStep (state : FastState) (subscription : FastSubscription) : Option FastSubscription :=
  match subscription.emitTerminalEvent with
  | some event =>
      some { subscription with
        emitTerminalEvent := none
        yielded := subscription.yielded ++ [event] }
  | none =>
      match BroadcastRing.recv capacity state.sent subscription.receiver with
      | some (.message event, receiver) =>
          some { subscription with receiver, yielded := subscription.yielded ++ [event] }
      | some (.lagged _, receiver) =>
          some { subscription with receiver, yielded := subscription.yielded ++ [.gap] }
      | none => if state.sendersGone then some { subscription with ended := true } else none

/-- The step function. -/
def fastStep (state : FastState) : FastAction → Option FastState
  | .read bytes =>
      if state.reader = .reading ∧ bytes ≠ [] then some { state with reader := .sending bytes }
      else none
  | .readEof =>
      if state.reader = .reading then some { state with reader := .storeEof } else none
  | .readError source =>
      if state.reader = .reading then
        some { state with reader := .storeError ⟨streamName, source⟩ }
      else none
  | .reader => readerStep chunkSize state
  | .subscribeLock =>
      if state.lock = .free ∧ state.streamDropped = false then
        some { state with lock := .subscriber none }
      else none
  | .subscribeReceiver =>
      if state.lock = .subscriber none then
        some { state with lock := .subscriber (some (BroadcastRing.subscribe state.sent)) }
      else none
  | .subscribeFinish =>
      match state.lock with
      | .subscriber (some receiver) =>
          some { state with
            lock := .free
            subscriptions := state.subscriptions ++
              [⟨receiver, state.closureState.terminalEvent, [], false⟩] }
      | .free | .reader | .subscriber none => none
  | .nextEvent handle => do
      let subscription ← state.subscriptions[handle]?
      let next ← recvStep capacity state subscription
      some { state with subscriptions := state.subscriptions.set handle next }
  | .dropStream =>
      match state.lock with
      | .free | .reader => some { state with streamDropped := true }
      | .subscriber _ => none
  | .abortReader =>
      if state.streamDropped ∧ state.reader = .reading then some { state with reader := .aborted }
      else none

end Steps

/-! ## What a step can do -/

/-- What an action does. -/
inductive FastMove (streamName : String) (chunkSize capacity : Nat) (state : FastState) :
    FastAction → FastState → Prop where
  | read {bytes : List UInt8} (here : state.reader = .reading) :
      FastMove streamName chunkSize capacity state (.read bytes) { state with reader := .sending bytes }
  | readEof (here : state.reader = .reading) :
      FastMove streamName chunkSize capacity state .readEof { state with reader := .storeEof }
  | readError {source : IoError} (here : state.reader = .reading) :
      FastMove streamName chunkSize capacity state (.readError source)
        { state with reader := .storeError ⟨streamName, source⟩ }
  | sentAll (here : state.reader = .sending []) :
      FastMove streamName chunkSize capacity state .reader { state with reader := .reading }
  | sendChunk {byte : UInt8} {rest : List UInt8} (here : state.reader = .sending (byte :: rest)) :
      FastMove streamName chunkSize capacity state .reader
        { state with
          sent := state.sent ++ [.chunk ⟨(byte :: rest).take chunkSize, state.bytesSent⟩]
          bytesSent := state.bytesSent + ((byte :: rest).take chunkSize).length
          reader := .sending ((byte :: rest).drop chunkSize) }
  | storeEof (here : state.reader = .storeEof) (unlocked : state.lock = .free) :
      FastMove streamName chunkSize capacity state .reader
        { state with
          lock := .reader
          closureState := { state.closureState with closed := true }
          reader := .sendEof }
  | sendEof (here : state.reader = .sendEof) :
      FastMove streamName chunkSize capacity state .reader
        { state with sent := state.sent ++ [.eof], reader := .releaseEof }
  | releaseEof (here : state.reader = .releaseEof) :
      FastMove streamName chunkSize capacity state .reader
        { state with lock := .free, reader := .finished }
  | storeError {error : StreamReadError} (here : state.reader = .storeError error)
      (unlocked : state.lock = .free) :
      FastMove streamName chunkSize capacity state .reader
        { state with
          lock := .reader
          closureState := { state.closureState with readError := some error }
          reader := .releaseError error }
  | releaseError {error : StreamReadError} (here : state.reader = .releaseError error) :
      FastMove streamName chunkSize capacity state .reader
        { state with lock := .free, reader := .sendError error }
  | sendError {error : StreamReadError} (here : state.reader = .sendError error) :
      FastMove streamName chunkSize capacity state .reader
        { state with sent := state.sent ++ [.readError error], reader := .finished }
  | subscribeLock (unlocked : state.lock = .free) (kept : state.streamDropped = false) :
      FastMove streamName chunkSize capacity state .subscribeLock
        { state with lock := .subscriber none }
  | subscribeReceiver (held : state.lock = .subscriber none) :
      FastMove streamName chunkSize capacity state .subscribeReceiver
        { state with lock := .subscriber (some (BroadcastRing.subscribe state.sent)) }
  | subscribeFinish {receiver : Nat} (held : state.lock = .subscriber (some receiver)) :
      FastMove streamName chunkSize capacity state .subscribeFinish
        { state with
          lock := .free
          subscriptions := state.subscriptions ++
            [⟨receiver, state.closureState.terminalEvent, [], false⟩] }
  | nextEvent {handle : Nat} {subscription received : FastSubscription}
      (found : state.subscriptions[handle]? = some subscription)
      (taken : recvStep capacity state subscription = some received) :
      FastMove streamName chunkSize capacity state (.nextEvent handle)
        { state with subscriptions := state.subscriptions.set handle received }
  | dropStream (unheld : ∀ receiver, state.lock ≠ .subscriber receiver) :
      FastMove streamName chunkSize capacity state .dropStream { state with streamDropped := true }
  | abortReader (dropped : state.streamDropped = true) (here : state.reader = .reading) :
      FastMove streamName chunkSize capacity state .abortReader { state with reader := .aborted }

section Moves

variable {streamName : String} {chunkSize capacity : Nat} {state next : FastState}
  {action : FastAction}

theorem readerStep_move (stepped : readerStep chunkSize state = some next) :
    FastMove streamName chunkSize capacity state .reader next := by
  unfold readerStep at stepped
  split at stepped
  · cases stepped
  · cases stepped
  · cases stepped
  · rename_i here
    cases stepped
    exact .sentAll here
  · rename_i byte rest here
    cases stepped
    exact .sendChunk here
  · rename_i here
    simp only [Option.ite_none_right_eq_some, Option.some.injEq] at stepped
    obtain ⟨unlocked, rfl⟩ := stepped
    exact .storeEof here unlocked
  · rename_i here
    cases stepped
    exact .sendEof here
  · rename_i here
    cases stepped
    exact .releaseEof here
  · rename_i error here
    simp only [Option.ite_none_right_eq_some, Option.some.injEq] at stepped
    obtain ⟨unlocked, rfl⟩ := stepped
    exact .storeError here unlocked
  · rename_i error here
    cases stepped
    exact .releaseError here
  · rename_i error here
    cases stepped
    exact .sendError here

/-- **Every step is a move.** -/
theorem fastStep_move (stepped : fastStep streamName chunkSize capacity state action = some next) :
    FastMove streamName chunkSize capacity state action next := by
  cases action with
  | read bytes =>
      simp only [fastStep, Option.ite_none_right_eq_some, Option.some.injEq] at stepped
      obtain ⟨⟨here, _⟩, rfl⟩ := stepped
      exact .read here
  | readEof =>
      simp only [fastStep, Option.ite_none_right_eq_some, Option.some.injEq] at stepped
      obtain ⟨here, rfl⟩ := stepped
      exact .readEof here
  | readError source =>
      simp only [fastStep, Option.ite_none_right_eq_some, Option.some.injEq] at stepped
      obtain ⟨here, rfl⟩ := stepped
      exact .readError here
  | reader => exact readerStep_move stepped
  | subscribeLock =>
      simp only [fastStep, Option.ite_none_right_eq_some, Option.some.injEq] at stepped
      obtain ⟨⟨unlocked, kept⟩, rfl⟩ := stepped
      exact .subscribeLock unlocked kept
  | subscribeReceiver =>
      simp only [fastStep, Option.ite_none_right_eq_some, Option.some.injEq] at stepped
      obtain ⟨held, rfl⟩ := stepped
      exact .subscribeReceiver held
  | subscribeFinish =>
      simp only [fastStep] at stepped
      split at stepped
      · rename_i receiver held
        cases stepped
        exact .subscribeFinish held
      all_goals cases stepped
  | nextEvent handle =>
      simp only [fastStep, Option.bind_eq_bind, Option.bind_eq_some_iff, Option.some.injEq]
        at stepped
      obtain ⟨subscription, found, received, taken, rfl⟩ := stepped
      exact .nextEvent found taken
  | dropStream =>
      simp only [fastStep] at stepped
      split at stepped
      · rename_i held
        cases stepped
        exact .dropStream (by simp [held])
      · rename_i held
        cases stepped
        exact .dropStream (by simp [held])
      · cases stepped
  | abortReader =>
      simp only [fastStep, Option.ite_none_right_eq_some, Option.some.injEq] at stepped
      obtain ⟨⟨dropped, here⟩, rfl⟩ := stepped
      exact .abortReader dropped here

end Moves

/-- The machine of the fast path. The channel may hold more messages than configured. -/
def fastMachine (streamName : String) (options : ValidConfig) (capacity : Nat) :
    Machine FastState FastAction where
  init := {}
  step := fastStep streamName options.readChunkSize.bytes (max options.maxBufferedChunks capacity)

end TokioProcessTools.OutputStream.Backend.Broadcast.Fast
