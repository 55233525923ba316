import TokioProcessTools.OutputStream.Config

/-!
# Options of the line parser

The limit on the length of a line, what happens to a line that reaches it, and
the capacity above which the parser gives a buffer back to the allocator.
-/

set_option autoImplicit false

namespace TokioProcessTools.OutputStream.Line

open Foundation

/-- `DEFAULT_MAX_LINE_LENGTH`: 16 kilobytes. -/
def defaultMaxLineLength : NumBytes := ⟨16 * 1024⟩

/-- What happens when a line reaches the configured maximum length. -/
inductive LineOverflowBehavior where
  | dropAdditionalData
  | emitAdditionalAsNewLines
  deriving DecidableEq, Repr

/-- `LineParsingOptions`. -/
structure LineParsingOptions where
  maxLineLength : NumBytes := defaultMaxLineLength
  overflowBehavior : LineOverflowBehavior := .dropAdditionalData
  bufferCompactionThreshold : Option NumBytes := none
  deriving DecidableEq, Repr

/-- `assert_max_line_length_non_zero`, checked once when a line visitor is built. -/
def assertMaxLineLengthNonZero (options : LineParsingOptions) : Checked Unit :=
  if 0 < options.maxLineLength.bytes then .ok ()
  else .error (.assertionFailed
    ("LineParsingOptions::max_line_length must be greater than zero. If you want effectively " ++
      "unbounded line parsing, pass `NumBytes::MAX` (or another large explicit value). Zero is " ++
      "never a valid configuration for line-consuming visitors."))

end TokioProcessTools.OutputStream.Line
