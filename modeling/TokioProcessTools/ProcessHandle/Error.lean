import TokioProcessTools.Foundation.Checked
import TokioProcessTools.OutputStream.Consumer
import Mathlib.Algebra.GroupWithZero.Nat

/-!
# Results and errors of process operations

An operation that has to signal a process collects its failed attempts in a
`TerminationDiagnostics`, which becomes a `TerminationError` when the operation
fails. An error without any attempt would say nothing, so the conversion asserts
that there is one.
-/

set_option autoImplicit false

namespace TokioProcessTools.ProcessHandle

open Foundation OutputStream

/-- `std::time::Duration`. -/
structure Duration where
  nanos : Nat
  deriving DecidableEq, Repr

namespace Duration

def fromSecs (secs : Nat) : Duration := ⟨secs * 1000000000⟩

def fromMillis (millis : Nat) : Duration := ⟨millis * 1000000⟩

/-- A decimal number with at most `digits` digits behind the point, without trailing zeros. -/
def decimal (integer fraction digits : Nat) : String :=
  let padded := (List.replicate (digits - (toString fraction).length) '0') ++ (toString fraction).toList
  let kept := (padded.reverse.dropWhile (· = '0')).reverse
  if fraction = 0 then toString integer else toString integer ++ "." ++ String.ofList kept

/-- `Debug for Duration`. -/
def debug (duration : Duration) : String :=
  let nanos := duration.nanos
  if 1000000000 ≤ nanos then decimal (nanos / 1000000000) (nanos % 1000000000) 9 ++ "s"
  else if 1000000 ≤ nanos then decimal (nanos / 1000000) (nanos % 1000000) 6 ++ "ms"
  else if 1000 ≤ nanos then decimal (nanos / 1000) (nanos % 1000) 3 ++ "µs"
  else toString nanos ++ "ns"

/-- `Duration::MAX`: the seconds are a 64-bit number. -/
def max : Duration := ⟨2 ^ 64 * 1000000000 - 1⟩

/-- `Sum for Duration`. -/
def sum (durations : List Duration) : Checked Duration :=
  if (durations.map nanos).sum ≤ max.nanos then .ok ⟨(durations.map nanos).sum⟩
  else .error (.expectFailed "overflow in iter::sum over durations")

end Duration

/-- A fraction, a whole number of a smaller unit, and nothing. -/
example : (Duration.fromMillis 1050).debug = "1.05s" ∧ (Duration.fromMillis 100).debug = "100ms" ∧
    (⟨0⟩ : Duration).debug = "0ns" := by decide

/-- `std::process::ExitStatus`. -/
structure ExitStatus where
  raw : Int
  deriving DecidableEq, Repr

/-- `io::ErrorKind::TimedOut`. -/
def timedOut : Nat := 22

/-- `wait_timeout_error`. -/
def waitTimeoutError (timeout : Duration) : IoError :=
  ⟨timedOut, "process did not complete within " ++ timeout.debug⟩

/-- `WaitError`. -/
inductive WaitError where
  | ioError (processName : String) (source : IoError)
  deriving DecidableEq, Repr

/-- `TerminationAction`. -/
inductive TerminationAction where
  | checkStatus
  | sendSignal (signalName : String)
  | waitForExit
  deriving DecidableEq, Repr

/-- The errors that are boxed as the source of a failed attempt. -/
inductive AttemptSource where
  | io (error : IoError)
  | wait (error : WaitError)
  deriving DecidableEq, Repr

/-- `TerminationAttemptError`. -/
structure TerminationAttemptError where
  action : TerminationAction
  source : AttemptSource
  deriving DecidableEq, Repr

/-- `TerminationError`. -/
inductive TerminationError where
  | signalFailed (processName : String) (attemptErrors : List TerminationAttemptError)
  | terminationFailed (processName : String) (attemptErrors : List TerminationAttemptError)
  deriving DecidableEq, Repr

/-- `WaitForCompletionResult`. -/
inductive WaitForCompletionResult (T : Type) where
  | completed (value : T)
  | timeout (timeout : Duration)
  deriving DecidableEq, Repr

/-- `WaitForCompletionOrTerminateResult`. -/
inductive WaitForCompletionOrTerminateResult (T : Type) where
  | completed (value : T)
  | terminatedAfterTimeout (result : T) (timeout : Duration)
  deriving DecidableEq, Repr

/-- `WaitForCompletionOrTerminateResult::map`. -/
def WaitForCompletionOrTerminateResult.map {T U : Type} (f : T → U) :
    WaitForCompletionOrTerminateResult T → WaitForCompletionOrTerminateResult U
  | .completed value => .completed (f value)
  | .terminatedAfterTimeout result timeout => .terminatedAfterTimeout (f result) timeout

/-- `WaitOrTerminateError`. -/
inductive WaitOrTerminateError where
  | waitFailed (processName : String) (waitError : WaitError) (terminationStatus : ExitStatus)
  | terminationFailed (processName : String) (waitError : WaitError)
      (terminationError : TerminationError)
  | terminationAfterTimeoutFailed (processName : String) (timeout : Duration)
      (terminationError : TerminationError)
  deriving DecidableEq, Repr

/-- `StreamConsumerError`. -/
inductive StreamConsumerError where
  | activeConsumer (streamName : String)
  deriving DecidableEq, Repr

/-- `WaitWithOutputError`. -/
inductive WaitWithOutputError where
  | waitFailed (error : WaitError)
  | waitOrTerminateFailed (error : WaitOrTerminateError)
  | outputCollectionTimeout (processName : String) (timeout : Duration)
  | outputCollectionFailed (processName : String) (source : ConsumerError)
  | outputCollectionStartFailed (processName : String) (source : StreamConsumerError)
  deriving DecidableEq, Repr

/-- `TerminationDiagnostics`. -/
structure TerminationDiagnostics where
  attemptErrors : List TerminationAttemptError := []
  deriving DecidableEq, Repr

/-- `TerminationDiagnostics::record`. -/
def TerminationDiagnostics.record (diagnostics : TerminationDiagnostics) (action : TerminationAction)
    (error : AttemptSource) : TerminationDiagnostics :=
  ⟨diagnostics.attemptErrors ++ [⟨action, error⟩]⟩

end TokioProcessTools.ProcessHandle
