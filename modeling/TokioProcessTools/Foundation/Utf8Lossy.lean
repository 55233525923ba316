import Mathlib.Data.List.Basic

/-!
# Lossy decoding of UTF-8

The decoder reads one byte at a time. Between two bytes it knows the bits of
the character in progress, how many continuation bytes are missing, and the
range the next one must lie in; the range excludes overlong forms, surrogates
and values above `0x10FFFF` at the second byte. A byte outside the range
replaces what was read of the character by one U+FFFD and is read again as a
first byte, so every maximal part of an ill-formed sequence becomes one
replacement character.
-/

set_option autoImplicit false

namespace TokioProcessTools.Foundation

namespace Utf8Lossy

/-- U+FFFD. -/
def replacement : Char := '\uFFFD'

/-- The character in progress: its bits so far, the number of missing continuation bytes, and the
range of the next one. -/
structure Partial where
  bits : Nat
  missing : Nat
  low : UInt8
  high : UInt8
  deriving DecidableEq, Repr

/-- Read the first byte of a character. -/
def first (byte : UInt8) : Option Partial × List Char :=
  if byte < 0x80 then (none, [Char.ofNat byte.toNat])
  else if byte < 0xC2 then (none, [replacement])
  else if byte < 0xE0 then (some ⟨byte.toNat % 0x20, 1, 0x80, 0xBF⟩, [])
  else if byte = 0xE0 then (some ⟨0, 2, 0xA0, 0xBF⟩, [])
  else if byte = 0xED then (some ⟨0xD, 2, 0x80, 0x9F⟩, [])
  else if byte < 0xF0 then (some ⟨byte.toNat % 0x10, 2, 0x80, 0xBF⟩, [])
  else if byte = 0xF0 then (some ⟨0, 3, 0x90, 0xBF⟩, [])
  else if byte < 0xF4 then (some ⟨byte.toNat % 0x08, 3, 0x80, 0xBF⟩, [])
  else if byte = 0xF4 then (some ⟨4, 3, 0x80, 0x8F⟩, [])
  else (none, [replacement])

/-- Read one byte. -/
def read : Option Partial → UInt8 → Option Partial × List Char
  | none, byte => first byte
  | some unfinished, byte =>
      if unfinished.low ≤ byte ∧ byte ≤ unfinished.high then
        let bits := unfinished.bits * 0x40 + byte.toNat % 0x40
        if unfinished.missing = 1 then (none, [Char.ofNat bits])
        else (some ⟨bits, unfinished.missing - 1, 0x80, 0xBF⟩, [])
      else
        let again := first byte
        (again.1, replacement :: again.2)

/-- Decode from a given state. A character that is unfinished at the end is replaced. -/
def decodeFrom : Option Partial → List UInt8 → List Char
  | none, [] => []
  | some _, [] => [replacement]
  | unfinished, byte :: rest =>
      (read unfinished byte).2 ++ decodeFrom (read unfinished byte).1 rest

end Utf8Lossy

/-- `String::from_utf8_lossy`. -/
def fromUtf8Lossy (bytes : List UInt8) : String := String.ofList (Utf8Lossy.decodeFrom none bytes)

/-- A character of two bytes, a byte that starts none, a character cut short, and ASCII. -/
example : fromUtf8Lossy [0xC3, 0xA9, 0xFF, 0xE2, 0x82, 0x61] = "é\uFFFD\uFFFDa" := by decide

end TokioProcessTools.Foundation
