import TokioProcessTools.Foundation.Checked
import TokioProcessTools.OutputStream.Event

/-!
# Visitors and the loop that drives them

A visitor observes the events of one subscription and turns into an output at
the end. The consumer task waits for the next event of the subscription or for
the signal that cancels it, whichever comes first; one `Wake` is one such
answer. The task ends at the end of the stream, at a read error, when the
visitor stops or when it is cancelled.
-/

set_option autoImplicit false

namespace TokioProcessTools.OutputStream

open Foundation

/-- `StreamVisitor`: how a value of type `V` observes events, and its output. -/
structure StreamVisitor (V Output : Type) where
  onChunk : V → Chunk → Checked (V × Next)
  onGap : V → V := id
  onEof : V → Checked V := .ok
  intoOutput : V → Output

/-- What wakes the consumer task: the answer of `next_event`, or the termination signal. -/
inductive Wake where
  | nextEvent (event : Option StreamEvent)
  | termSignal
  deriving DecidableEq, Repr

/-- A subscription that yields the given events. -/
def nextEvents (events : List StreamEvent) : List Wake :=
  events.map fun event => .nextEvent (some event)

/-- `consume_sync`. The task has no result while it still waits. -/
def consumeSync {V Output : Type} (visitor : StreamVisitor V Output) :
    V → List Wake → Checked (Option (Except StreamReadError Output))
  | _, [] => .ok none
  | state, .nextEvent (some (.chunk chunk)) :: rest => do
      let (state, next) ← visitor.onChunk state chunk
      match next with
      | .stop => .ok (some (.ok (visitor.intoOutput state)))
      | .goOn => consumeSync visitor state rest
  | state, .nextEvent (some .gap) :: rest => consumeSync visitor (visitor.onGap state) rest
  | state, .nextEvent (some .eof) :: _ | state, .nextEvent none :: _ => do
      let state ← visitor.onEof state
      .ok (some (.ok (visitor.intoOutput state)))
  | _, .nextEvent (some (.readError error)) :: _ => .ok (some (.error error))
  | state, .termSignal :: _ => .ok (some (.ok (visitor.intoOutput state)))

/-- `AsyncStreamVisitor`: the hooks of a `StreamVisitor`, awaited. -/
abbrev AsyncStreamVisitor := StreamVisitor

/-- `consume_async`: the loop of `consume_sync`, with the hooks awaited. The termination signal is
not looked at while a hook runs. -/
def consumeAsync {V Output : Type} (visitor : AsyncStreamVisitor V Output) :
    V → List Wake → Checked (Option (Except StreamReadError Output)) :=
  consumeSync visitor

/-! ## The loop and the visitor it leaves behind -/

/-- How the loop of `consume_sync` ends. -/
inductive LoopEnd where
  /-- The task still waits. -/
  | waiting
  /-- By `break`. -/
  | left
  | failed (error : StreamReadError)
  deriving DecidableEq, Repr

/-- The loop of `consume_sync`, with the visitor as it is at the end. -/
def consumeLoop {V Output : Type} (visitor : StreamVisitor V Output) :
    V → List Wake → Checked (V × LoopEnd)
  | state, [] => .ok (state, .waiting)
  | state, .nextEvent (some (.chunk chunk)) :: rest => do
      let (state, next) ← visitor.onChunk state chunk
      match next with
      | .stop => .ok (state, .left)
      | .goOn => consumeLoop visitor state rest
  | state, .nextEvent (some .gap) :: rest => consumeLoop visitor (visitor.onGap state) rest
  | state, .nextEvent (some .eof) :: _ | state, .nextEvent none :: _ => do
      let state ← visitor.onEof state
      .ok (state, .left)
  | state, .nextEvent (some (.readError error)) :: _ => .ok (state, .failed error)
  | state, .termSignal :: _ => .ok (state, .left)

/-- The result of the task, given the visitor and the end of the loop. -/
def LoopEnd.result {V Output : Type} (visitor : StreamVisitor V Output) (state : V) :
    LoopEnd → Option (Except StreamReadError Output)
  | .waiting => none
  | .left => some (.ok (visitor.intoOutput state))
  | .failed error => some (.error error)

/-- The task turns the visitor at the end of its loop into its output. -/
theorem consumeSync_eq {V Output : Type} (visitor : StreamVisitor V Output) (state : V)
    (wakes : List Wake) :
    consumeSync visitor state wakes =
      (consumeLoop visitor state wakes).map fun ended => ended.2.result visitor ended.1 := by
  fun_induction consumeLoop visitor state wakes with
  | case1 state => rfl
  | case2 state chunk rest ih =>
      cases visited : visitor.onChunk state chunk with
      | error reason => simp only [consumeSync, visited, Bind.bind, Except.bind, Except.map]
      | ok reply =>
          obtain ⟨later, next⟩ := reply
          cases next with
          | stop => simp only [consumeSync, visited, checked_ok_bind]; rfl
          | goOn => simpa only [consumeSync, visited, checked_ok_bind] using ih later
  | case3 state rest ih => exact ih
  | case4 state rest =>
      cases ended : visitor.onEof state <;>
        simp only [consumeSync, ended, Bind.bind, Except.bind, Except.map, LoopEnd.result]
  | case5 state rest =>
      cases ended : visitor.onEof state <;>
        simp only [consumeSync, ended, Bind.bind, Except.bind, Except.map, LoopEnd.result]
  | case6 state error rest => rfl
  | case7 state rest => rfl

end TokioProcessTools.OutputStream
