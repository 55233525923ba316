import TokioProcessTools.Foundation.Fragments
import TokioProcessTools.Foundation.Transducer
import TokioProcessTools.Foundation.Utf8Lossy
import Mathlib.Algebra.Group.Nat.Defs

/-!
# Lossy decoding of text and of pieces of text

Decoding an encoded text gives the text back (`decode_encode`). Decoding two
parts of some bytes on their own never gives fewer characters than decoding the
whole (`length_decode_append_le`), and gives more when the parts meet inside an
encoded character (`length_decode_lt_of_cut`). Every position in an encoded text
is a character boundary or such a cut (`boundary_or_cut`).
-/

set_option autoImplicit false

namespace TokioProcessTools.Foundation

namespace Utf8Lossy

/-- The UTF-8 bytes of a text. -/
def encode (text : List Char) : List UInt8 := text.flatMap String.utf8EncodeChar

@[simp] theorem encode_nil : encode [] = [] := rfl

@[simp] theorem encode_cons (char : Char) (text : List Char) :
    encode (char :: text) = String.utf8EncodeChar char ++ encode text := rfl

@[simp] theorem encode_append (first second : List Char) :
    encode (first ++ second) = encode first ++ encode second := List.flatMap_append

/-- Decode a list of bytes on its own. -/
abbrev decode (bytes : List UInt8) : List Char := decodeFrom none bytes

/-- The bytes of a string. -/
theorem length_encode_toList (text : String) : (encode text.toList).length = text.utf8ByteSize := by
  rw [← String.size_toByteArray, ← String.utf8Encode_toList]
  simp [List.utf8Encode, encode]

/-! ## The first byte -/

section First

variable (byte : UInt8)

theorem first_ascii (ascii : byte.toNat < 0x80) : first byte = (none, [Char.ofNat byte.toNat]) := by
  unfold first
  simp only [UInt8.lt_iff_toNat_lt, UInt8.reduceToNat]
  rw [if_pos ascii]

theorem first_continuation (low : 0x80 ≤ byte.toNat) (high : byte.toNat < 0xC2) :
    first byte = (none, [replacement]) := by
  unfold first
  simp only [UInt8.lt_iff_toNat_lt, UInt8.reduceToNat]
  rw [if_neg (by omega), if_pos high]

theorem first_two (low : 0xC2 ≤ byte.toNat) (high : byte.toNat < 0xE0) :
    first byte = (some ⟨byte.toNat % 0x20, 1, 0x80, 0xBF⟩, []) := by
  unfold first
  simp only [UInt8.lt_iff_toNat_lt, UInt8.reduceToNat]
  rw [if_neg (by omega), if_neg (by omega), if_pos high]

theorem first_three (low : 0xE0 < byte.toNat) (high : byte.toNat < 0xF0)
    (other : byte.toNat ≠ 0xED) :
    first byte = (some ⟨byte.toNat % 0x10, 2, 0x80, 0xBF⟩, []) := by
  unfold first
  simp only [UInt8.lt_iff_toNat_lt, ← UInt8.toNat_inj, UInt8.reduceToNat]
  rw [if_neg (by omega), if_neg (by omega), if_neg (by omega), if_neg (by omega), if_neg other,
    if_pos high]

theorem first_four (low : 0xF0 < byte.toNat) (high : byte.toNat < 0xF4) :
    first byte = (some ⟨byte.toNat % 0x08, 3, 0x80, 0xBF⟩, []) := by
  unfold first
  simp only [UInt8.lt_iff_toNat_lt, ← UInt8.toNat_inj, UInt8.reduceToNat]
  rw [if_neg (by omega), if_neg (by omega), if_neg (by omega), if_neg (by omega),
    if_neg (by omega), if_neg (by omega), if_neg (by omega), if_pos high]

/-- The first bytes that narrow the range of the second one. -/
theorem first_narrowed :
    (byte.toNat = 0xE0 → first byte = (some ⟨0, 2, 0xA0, 0xBF⟩, [])) ∧
    (byte.toNat = 0xED → first byte = (some ⟨0xD, 2, 0x80, 0x9F⟩, [])) ∧
    (byte.toNat = 0xF0 → first byte = (some ⟨0, 3, 0x90, 0xBF⟩, [])) ∧
    (byte.toNat = 0xF4 → first byte = (some ⟨4, 3, 0x80, 0x8F⟩, [])) := by
  have same : ∀ other : UInt8, byte.toNat = other.toNat → byte = other :=
    fun _ equal => UInt8.toNat_inj.mp equal
  refine ⟨fun equal => ?_, fun equal => ?_, fun equal => ?_, fun equal => ?_⟩
  · rw [same 0xE0 equal]; decide
  · rw [same 0xED equal]; decide
  · rw [same 0xF0 equal]; decide
  · rw [same 0xF4 equal]; decide

theorem first_invalid (low : 0xF4 < byte.toNat) : first byte = (none, [replacement]) := by
  unfold first
  simp only [UInt8.lt_iff_toNat_lt, ← UInt8.toNat_inj, UInt8.reduceToNat]
  rw [if_neg (by omega), if_neg (by omega), if_neg (by omega), if_neg (by omega),
    if_neg (by omega), if_neg (by omega), if_neg (by omega), if_neg (by omega), if_neg (by omega)]

end First

/-! ## The later bytes -/

/-- A byte of the form `10xxxxxx`. -/
def IsContinuation (byte : UInt8) : Prop := 0x80 ≤ byte.toNat ∧ byte.toNat ≤ 0xBF

theorem first_of_isContinuation {byte : UInt8} (continuation : IsContinuation byte) :
    first byte = (none, [replacement]) :=
  first_continuation byte continuation.1 (Nat.lt_of_le_of_lt continuation.2 (by decide))

/-- The next byte may continue the character. -/
def Partial.Accepts (unfinished : Partial) (byte : UInt8) : Prop :=
  unfinished.low.toNat ≤ byte.toNat ∧ byte.toNat ≤ unfinished.high.toNat

/-- The character in progress with one more byte. -/
def Partial.next (unfinished : Partial) (byte : UInt8) : Partial :=
  ⟨unfinished.bits * 0x40 + byte.toNat % 0x40, unfinished.missing - 1, 0x80, 0xBF⟩

theorem read_more {unfinished : Partial} {byte : UInt8} (accepted : unfinished.Accepts byte)
    (more : unfinished.missing ≠ 1) :
    read (some unfinished) byte = (some (unfinished.next byte), []) := by
  unfold read
  rw [Partial.Accepts] at accepted
  simp only [UInt8.le_iff_toNat_le]
  rw [if_pos accepted, if_neg more]
  rfl

theorem read_last {unfinished : Partial} {byte : UInt8} (accepted : unfinished.Accepts byte)
    (last : unfinished.missing = 1) :
    read (some unfinished) byte = (none, [Char.ofNat (unfinished.next byte).bits]) := by
  unfold read
  rw [Partial.Accepts] at accepted
  simp only [UInt8.le_iff_toNat_le]
  rw [if_pos accepted, if_pos last]
  rfl

theorem read_refused {unfinished : Partial} {byte : UInt8} (refused : ¬ unfinished.Accepts byte) :
    read (some unfinished) byte = ((first byte).1, replacement :: (first byte).2) := by
  unfold read
  rw [Partial.Accepts] at refused
  simp only [UInt8.le_iff_toNat_le]
  rw [if_neg refused]

/-- A character in progress takes continuation bytes only. -/
def Partial.Usual (unfinished : Partial) : Prop :=
  0x80 ≤ unfinished.low.toNat ∧ unfinished.high.toNat ≤ 0xBF

theorem Partial.Usual.next (unfinished : Partial) (byte : UInt8) :
    (unfinished.next byte).Usual :=
  ⟨Nat.le_refl 0x80, Nat.le_refl 0xBF⟩

theorem Partial.Usual.isContinuation {unfinished : Partial} {byte : UInt8}
    (usual : unfinished.Usual) (accepted : unfinished.Accepts byte) : IsContinuation byte :=
  ⟨Nat.le_trans usual.1 accepted.1, Nat.le_trans accepted.2 usual.2⟩

/-! ## What the first byte says -/

/-- The values of the characters of one encoded length, from `low` up to but without `high`. -/
inductive SizeRange : (size low high : Nat) → Prop where
  | two : SizeRange 2 0x80 0x800
  | threeBelowSurrogates : SizeRange 3 0x800 0xD800
  | threeAboveSurrogates : SizeRange 3 0xE000 0x10000
  | four : SizeRange 4 0x10000 0x110000

/-- The least value the character in progress may get. -/
def Partial.least (unfinished : Partial) : Nat :=
  (unfinished.bits * 64 + unfinished.low.toNat % 64) * 64 ^ (unfinished.missing - 1)

/-- The first value the character in progress cannot get any more. -/
def Partial.bound (unfinished : Partial) : Nat :=
  (unfinished.bits * 64 + unfinished.high.toNat % 64 + 1) * 64 ^ (unfinished.missing - 1)

/-- After `seen` bytes, whatever follows completes a character of the announced length. -/
structure Partial.Admissible (seen : Nat) (unfinished : Partial) : Prop where
  usual : unfinished.Usual
  started : 0 < seen
  unread : 0 < unfinished.missing
  ranged : ∃ low high, SizeRange (seen + unfinished.missing) low high ∧
    low ≤ unfinished.least ∧ unfinished.bound ≤ high

/-- What a first byte is. -/
inductive FirstByte (byte : UInt8) : Prop where
  | ascii (small : byte.toNat < 0x80) (reads : first byte = (none, [Char.ofNat byte.toNat]))
  | replaced (large : 0x80 ≤ byte.toNat) (reads : first byte = (none, [replacement]))
  | starts {unfinished : Partial} (reads : first byte = (some unfinished, []))
      (admissible : unfinished.Admissible 1)

theorem firstByte (byte : UInt8) : FirstByte byte := by
  have usual : (0x80 : UInt8).toNat = 0x80 ∧ (0xBF : UInt8).toNat = 0xBF := ⟨rfl, rfl⟩
  obtain ⟨threeLow, surrogates, fourLow, fourHigh⟩ := first_narrowed byte
  by_cases ascii : byte.toNat < 0x80
  · exact .ascii ascii (first_ascii byte ascii)
  by_cases stray : byte.toNat < 0xC2
  · exact .replaced (by omega) (first_continuation byte (by omega) stray)
  by_cases two : byte.toNat < 0xE0
  · refine .starts (first_two byte (by omega) two)
      ⟨⟨Nat.le_refl 0x80, Nat.le_refl 0xBF⟩, Nat.one_pos, Nat.one_pos, _, _, .two, ?_, ?_⟩
    · simp only [Partial.least, usual]; omega
    · simp only [Partial.bound, usual]; omega
  by_cases three : byte.toNat < 0xF0
  · by_cases lowest : byte.toNat = 0xE0
    · exact .starts (threeLow lowest) ⟨⟨by decide, by decide⟩, by decide, by decide, _, _,
        .threeBelowSurrogates, by decide, by decide⟩
    by_cases below : byte.toNat = 0xED
    · exact .starts (surrogates below) ⟨⟨by decide, by decide⟩, by decide, by decide, _, _,
        .threeBelowSurrogates, by decide, by decide⟩
    refine .starts (first_three byte (by omega) three below)
      ⟨⟨Nat.le_refl 0x80, Nat.le_refl 0xBF⟩, Nat.one_pos, Nat.two_pos, ?_⟩
    by_cases early : byte.toNat < 0xED
    · refine ⟨_, _, .threeBelowSurrogates, ?_, ?_⟩
      · simp only [Partial.least, usual]; omega
      · simp only [Partial.bound, usual]; omega
    · refine ⟨_, _, .threeAboveSurrogates, ?_, ?_⟩
      · simp only [Partial.least, usual]; omega
      · simp only [Partial.bound, usual]; omega
  by_cases lowest : byte.toNat = 0xF0
  · exact .starts (fourLow lowest) ⟨⟨by decide, by decide⟩, by decide, by decide, _, _, .four,
      by decide, by decide⟩
  by_cases four : byte.toNat < 0xF4
  · refine .starts (first_four byte (by omega) four)
      ⟨⟨Nat.le_refl 0x80, Nat.le_refl 0xBF⟩, Nat.one_pos, Nat.succ_pos 2, _, _, .four, ?_, ?_⟩
    · simp only [Partial.least, usual]; omega
    · simp only [Partial.bound, usual]; omega
  by_cases highest : byte.toNat = 0xF4
  · exact .starts (fourHigh highest) ⟨⟨by decide, by decide⟩, by decide, by decide, _, _, .four,
      by decide, by decide⟩
  · exact .replaced (by omega) (first_invalid byte (by omega))

/-! ## Encoded characters -/

/-- The bytes complete a character: each of them is accepted, and the last one yields it. -/
def Completes : Partial → List UInt8 → Char → Prop
  | _, [], _ => False
  | unfinished, [byte], char =>
      unfinished.Accepts byte ∧ unfinished.missing = 1 ∧ (unfinished.next byte).bits = char.toNat
  | unfinished, byte :: rest, char =>
      unfinished.Accepts byte ∧ unfinished.missing ≠ 1 ∧ Completes (unfinished.next byte) rest char

/-- How an encoded character starts, and the continuation bytes behind. -/
inductive Encoded (char : Char) : List UInt8 → Prop where
  | ascii {byte : UInt8} (small : byte.toNat < 0x80) (same : byte.toNat = char.toNat) :
      Encoded char [byte]
  | longer {byte : UInt8} {unfinished : Partial} {rest : List UInt8}
      (starts : first byte = (some unfinished, [])) (usual : unfinished.Usual)
      (completes : Completes unfinished rest char) : Encoded char (byte :: rest)

section Sizes

variable {char : Char}

/-- Read the value of a byte back. -/
theorem toNat_ofNat_of_le {value : Nat} (small : value ≤ 0xFF) : (UInt8.ofNat value).toNat = value :=
  UInt8.toNat_ofNat_of_lt' (Nat.lt_succ_of_le small)

theorem encoded_one (high : char.toNat ≤ 0x7F) : Encoded char [UInt8.ofNat char.toNat] := by
  have byte : (UInt8.ofNat char.toNat).toNat = char.toNat := toNat_ofNat_of_le (by omega)
  exact .ascii (by omega) byte

theorem encoded_two (low : 0x80 ≤ char.toNat) (high : char.toNat ≤ 0x7FF) :
    Encoded char [UInt8.ofNat (char.toNat / 64 % 0x20 + 0xC0),
      UInt8.ofNat (char.toNat % 0x40 + 0x80)] := by
  have lead := @toNat_ofNat_of_le (char.toNat / 64 % 0x20 + 0xC0) (by omega)
  have last := @toNat_ofNat_of_le (char.toNat % 0x40 + 0x80) (by omega)
  refine .longer (first_two _ (by omega) (by omega)) ⟨Nat.le_refl 0x80, Nat.le_refl 0xBF⟩ ?_
  refine ⟨⟨?_, ?_⟩, rfl, ?_⟩
  · rw [last]; exact Nat.le_add_left _ _
  · rw [last]; change _ ≤ 0xBF; omega
  · simp only [Partial.next, lead, last]; omega

theorem encoded_three (low : 0x800 ≤ char.toNat) (high : char.toNat ≤ 0xFFFF)
    (scalar : char.toNat < 0xD800 ∨ 0xDFFF < char.toNat) :
    Encoded char [UInt8.ofNat (char.toNat / 4096 % 0x10 + 0xE0),
      UInt8.ofNat (char.toNat / 64 % 0x40 + 0x80), UInt8.ofNat (char.toNat % 0x40 + 0x80)] := by
  have lead := @toNat_ofNat_of_le (char.toNat / 4096 % 0x10 + 0xE0) (by omega)
  have middle := @toNat_ofNat_of_le (char.toNat / 64 % 0x40 + 0x80) (by omega)
  have last := @toNat_ofNat_of_le (char.toNat % 0x40 + 0x80) (by omega)
  -- The range of the second byte depends on the first one.
  have completed : ∀ {bits : Nat} {low high : UInt8}, bits = char.toNat / 4096 →
      low.toNat ≤ char.toNat / 64 % 0x40 + 0x80 → char.toNat / 64 % 0x40 + 0x80 ≤ high.toNat →
      Completes ⟨bits, 2, low, high⟩
        [UInt8.ofNat (char.toNat / 64 % 0x40 + 0x80), UInt8.ofNat (char.toNat % 0x40 + 0x80)]
        char := by
    rintro _ low high rfl above below
    refine ⟨⟨?_, ?_⟩, (by decide : (2 : Nat) ≠ 1), ⟨?_, ?_⟩, rfl, ?_⟩
    · rw [middle]; exact above
    · rw [middle]; exact below
    · rw [last]; exact Nat.le_add_left _ _
    · rw [last]; change _ ≤ 0xBF; omega
    · simp only [Partial.next, middle, last]; omega
  obtain ⟨narrowLow, narrowHigh, _⟩ :=
    first_narrowed (UInt8.ofNat (char.toNat / 4096 % 0x10 + 0xE0))
  rw [lead] at narrowLow narrowHigh
  by_cases lowest : char.toNat / 4096 = 0
  · refine .longer (narrowLow (by omega)) ⟨by decide, by decide⟩ (completed lowest.symm ?_ ?_)
    · change 0xA0 ≤ _; omega
    · change _ ≤ 0xBF; omega
  by_cases surrogates : char.toNat / 4096 = 0xD
  · refine .longer (narrowHigh (by omega)) ⟨by decide, by decide⟩ (completed surrogates.symm ?_ ?_)
    · change 0x80 ≤ _; omega
    · change _ ≤ 0x9F; omega
  · refine .longer (first_three _ (by omega) (by omega) (by omega))
      ⟨Nat.le_refl 0x80, Nat.le_refl 0xBF⟩
      (completed (by omega) ?_ ?_)
    · change 0x80 ≤ _; omega
    · change _ ≤ 0xBF; omega

theorem encoded_four (low : 0x10000 ≤ char.toNat) (high : char.toNat < 0x110000) :
    Encoded char [UInt8.ofNat (char.toNat / 262144 % 0x08 + 0xF0),
      UInt8.ofNat (char.toNat / 4096 % 0x40 + 0x80), UInt8.ofNat (char.toNat / 64 % 0x40 + 0x80),
      UInt8.ofNat (char.toNat % 0x40 + 0x80)] := by
  have lead := @toNat_ofNat_of_le (char.toNat / 262144 % 0x08 + 0xF0) (by omega)
  have second := @toNat_ofNat_of_le (char.toNat / 4096 % 0x40 + 0x80) (by omega)
  have third := @toNat_ofNat_of_le (char.toNat / 64 % 0x40 + 0x80) (by omega)
  have last := @toNat_ofNat_of_le (char.toNat % 0x40 + 0x80) (by omega)
  have completed : ∀ {bits : Nat} {low high : UInt8}, bits = char.toNat / 262144 →
      low.toNat ≤ char.toNat / 4096 % 0x40 + 0x80 → char.toNat / 4096 % 0x40 + 0x80 ≤ high.toNat →
      Completes ⟨bits, 3, low, high⟩
        [UInt8.ofNat (char.toNat / 4096 % 0x40 + 0x80), UInt8.ofNat (char.toNat / 64 % 0x40 + 0x80),
          UInt8.ofNat (char.toNat % 0x40 + 0x80)] char := by
    rintro _ low high rfl above below
    refine ⟨⟨?_, ?_⟩, (by decide : (3 : Nat) ≠ 1), ⟨?_, ?_⟩, (by decide : (3 - 1 : Nat) ≠ 1),
      ⟨?_, ?_⟩, rfl, ?_⟩
    · rw [second]; exact above
    · rw [second]; exact below
    · rw [third]; exact Nat.le_add_left _ _
    · rw [third]; change _ ≤ 0xBF; omega
    · rw [last]; exact Nat.le_add_left _ _
    · rw [last]; change _ ≤ 0xBF; omega
    · simp only [Partial.next, second, third, last]; omega
  obtain ⟨_, _, narrowLow, narrowHigh⟩ :=
    first_narrowed (UInt8.ofNat (char.toNat / 262144 % 0x08 + 0xF0))
  rw [lead] at narrowLow narrowHigh
  by_cases lowest : char.toNat / 262144 = 0
  · refine .longer (narrowLow (by omega)) ⟨by decide, by decide⟩ (completed lowest.symm ?_ ?_)
    · change 0x90 ≤ _; omega
    · change _ ≤ 0xBF; omega
  by_cases highest : char.toNat / 262144 = 4
  · refine .longer (narrowHigh (by omega)) ⟨by decide, by decide⟩ (completed highest.symm ?_ ?_)
    · change 0x80 ≤ _; omega
    · change _ ≤ 0x8F; omega
  · refine .longer (first_four _ (by omega) (by omega)) ⟨Nat.le_refl 0x80, Nat.le_refl 0xBF⟩
      (completed (by omega) ?_ ?_)
    · change 0x80 ≤ _; omega
    · change _ ≤ 0xBF; omega

end Sizes

/-- **The decoder accepts every encoded character byte by byte.** -/
theorem encoded_utf8EncodeChar (char : Char) : Encoded char (String.utf8EncodeChar char) := by
  have valid : char.toNat < 0xD800 ∨ 0xDFFF < char.toNat ∧ char.toNat < 0x110000 := char.valid
  unfold String.utf8EncodeChar
  change Encoded char (if char.toNat ≤ _ then _ else if char.toNat ≤ _ then _
    else if char.toNat ≤ _ then _ else _)
  split
  · rename_i high
    exact encoded_one high
  rename_i low
  split
  · rename_i high
    exact encoded_two (by omega) high
  rename_i low
  split
  · rename_i high
    exact encoded_three (by omega) high (by omega)
  · exact encoded_four (by omega) (by omega)

/-! ## Decoding encoded text -/

theorem decodeFrom_append (state : Option Partial) (front back : List UInt8) :
    decodeFrom state (front ++ back) =
      (Transducer.run read state front).2 ++ decodeFrom (Transducer.run read state front).1 back := by
  induction front generalizing state with
  | nil => rfl
  | cons byte rest ih =>
      rw [List.cons_append, decodeFrom, ih, Transducer.run_cons, List.append_assoc]

theorem Completes.run {unfinished : Partial} {bytes : List UInt8} {char : Char}
    (completes : Completes unfinished bytes char) :
    Transducer.run read (some unfinished) bytes = (none, [char]) := by
  fun_induction Completes unfinished bytes char with
  | case1 => exact completes.elim
  | case2 unfinished byte char =>
      obtain ⟨accepted, last, value⟩ := completes
      rw [Transducer.run_cons, read_last accepted last, value, Char.ofNat_toNat]
      rfl
  | case3 unfinished byte rest char more ih =>
      obtain ⟨accepted, missing, later⟩ := completes
      rw [Transducer.run_cons, read_more accepted missing, ih later]
      rfl

/-- A part of the bytes that complete a character leaves it unfinished. -/
theorem Completes.run_front {unfinished : Partial} {front back : List UInt8} {char : Char}
    (completes : Completes unfinished (front ++ back) char) (unread : back ≠ []) :
    ∃ later, Transducer.run read (some unfinished) front = (some later, []) := by
  induction front generalizing unfinished with
  | nil => exact ⟨unfinished, rfl⟩
  | cons byte rest ih =>
      cases behind : rest ++ back with
      | nil => exact absurd (List.append_eq_nil_iff.mp behind).2 unread
      | cons next more =>
          rw [List.cons_append, behind] at completes
          obtain ⟨accepted, missing, later⟩ := completes
          rw [← behind] at later
          obtain ⟨final, ran⟩ := ih later
          exact ⟨final, by rw [Transducer.run_cons, read_more accepted missing, ran]; rfl⟩

theorem Completes.isContinuation {unfinished : Partial} {bytes : List UInt8} {char : Char}
    (completes : Completes unfinished bytes char) (usual : unfinished.Usual) :
    ∀ byte ∈ bytes, IsContinuation byte := by
  fun_induction Completes unfinished bytes char with
  | case1 => exact completes.elim
  | case2 unfinished byte char =>
      intro other member
      rw [List.mem_singleton.mp member]
      exact usual.isContinuation completes.1
  | case3 unfinished byte rest char more ih =>
      intro other member
      rcases List.mem_cons.mp member with rfl | later
      · exact usual.isContinuation completes.1
      · exact ih completes.2.2 (Partial.Usual.next _ _) other later

theorem Encoded.run {char : Char} {bytes : List UInt8} (encoded : Encoded char bytes) :
    Transducer.run read none bytes = (none, [char]) := by
  cases encoded with
  | ascii small same =>
      rw [Transducer.run_cons, read, first_ascii _ small, same, Char.ofNat_toNat]
      rfl
  | longer starts usual completes =>
      rw [Transducer.run_cons, read, starts, completes.run]
      rfl

/-- The front of an encoded character leaves it unfinished. -/
theorem Encoded.run_front {char : Char} {front back : List UInt8}
    (encoded : Encoded char (front ++ back)) (started : front ≠ []) (unread : back ≠ []) :
    ∃ later, Transducer.run read none front = (some later, []) := by
  cases front with
  | nil => exact absurd rfl started
  | cons byte rest =>
      rw [List.cons_append] at encoded
      generalize behind : rest ++ back = bytes at encoded
      cases encoded with
      | ascii small same => exact absurd (List.append_eq_nil_iff.mp behind).2 unread
      | longer starts usual completes =>
          rw [← behind] at completes
          obtain ⟨later, ran⟩ := completes.run_front unread
          exact ⟨later, by rw [Transducer.run_cons, read, starts, ran]; rfl⟩

/-- Behind its first byte an encoded character has continuation bytes only. -/
theorem Encoded.isContinuation {char : Char} {front back : List UInt8}
    (encoded : Encoded char (front ++ back)) (started : front ≠ []) :
    ∀ byte ∈ back, IsContinuation byte := by
  cases front with
  | nil => exact absurd rfl started
  | cons byte rest =>
      rw [List.cons_append] at encoded
      generalize behind : rest ++ back = bytes at encoded
      intro other member
      have inside : other ∈ bytes := behind ▸ List.mem_append_right rest member
      cases encoded with
      | ascii small same => exact absurd inside List.not_mem_nil
      | longer starts usual completes => exact completes.isContinuation usual other inside

theorem run_encode (text : List Char) : Transducer.run read none (encode text) = (none, text) := by
  induction text with
  | nil => rfl
  | cons char rest ih =>
      rw [encode_cons, Transducer.run_append, (encoded_utf8EncodeChar char).run, ih]
      rfl

theorem decode_encode_append (text : List Char) (bytes : List UInt8) :
    decode (encode text ++ bytes) = text ++ decode bytes := by
  rw [decode, decodeFrom_append, run_encode]

/-- **Decoding is the identity on encoded text.** -/
theorem decode_encode (text : List Char) : decode (encode text) = text := by
  have whole := decode_encode_append text []
  rw [List.append_nil] at whole
  exact whole.trans (List.append_nil text)

/-! ## Separators -/

/-- An ASCII byte occurs in the encoding of its own character only. -/
theorem toNat_eq_of_mem_utf8EncodeChar {byte : UInt8} {char : Char} (small : byte.toNat < 0x80)
    (member : byte ∈ String.utf8EncodeChar char) : char.toNat = byte.toNat := by
  have encoded := encoded_utf8EncodeChar char
  generalize String.utf8EncodeChar char = bytes at member encoded
  cases encoded with
  | ascii _ same =>
      rw [List.mem_singleton.mp member]
      exact same.symm
  | longer starts usual completes =>
      rcases List.mem_cons.mp member with rfl | later
      · rw [first_ascii byte small] at starts
        cases starts
      · have large := (completes.isContinuation usual byte later).1
        omega

theorem encode_eq_nil_iff {text : List Char} : encode text = [] ↔ text = [] := by
  cases text with
  | nil => simp
  | cons char rest => simp [String.utf8EncodeChar_ne_nil]

/-- The encoding of a text ends with a separator exactly if the text does. -/
theorem getLast?_encode {byte : UInt8} {separator : Char} (small : byte.toNat < 0x80)
    (alone : String.utf8EncodeChar separator = [byte]) (text : List Char) :
    (encode text).getLast? = some byte ↔ text.getLast? = some separator := by
  have own : separator.toNat = byte.toNat :=
    toNat_eq_of_mem_utf8EncodeChar small (by rw [alone]; exact List.mem_singleton_self byte)
  rcases List.eq_nil_or_concat text with rfl | ⟨before, last, rfl⟩
  · simp
  rw [List.concat_eq_append, encode_append, encode_cons, encode_nil, List.append_nil,
    List.getLast?_append_of_ne_nil _ String.utf8EncodeChar_ne_nil, List.getLast?_concat]
  constructor
  · intro ends
    have same := toNat_eq_of_mem_utf8EncodeChar small (List.mem_of_getLast? ends)
    rw [Char.toNat_inj.mp (same.trans own.symm)]
  · intro ends
    rw [Option.some_inj.mp ends, alone]
    rfl

/-- **Encoding a text keeps its lines**: the bytes between two separators are those of the text
between them. -/
theorem splitOn_encode {byte : UInt8} {separator : Char} (small : byte.toNat < 0x80)
    (alone : String.utf8EncodeChar separator = [byte]) (text : List Char) :
    (encode text).splitOn byte = (text.splitOn separator).map encode := by
  have own : separator.toNat = byte.toNat :=
    toNat_eq_of_mem_utf8EncodeChar small (by rw [alone]; exact List.mem_singleton_self byte)
  have absent : ∀ line : List Char, separator ∉ line → byte ∉ encode line := by
    intro line plain inside
    obtain ⟨char, member, within⟩ := List.mem_flatMap.mp inside
    have same := toNat_eq_of_mem_utf8EncodeChar small within
    exact plain (Char.toNat_inj.mp (own.trans same.symm) ▸ member)
  induction size : text.length using Nat.strongRecOn generalizing text with
  | _ size ih =>
      by_cases terminated : separator ∈ text
      · obtain ⟨line, rest, rfl, plain⟩ := List.eq_append_cons_of_mem terminated
        have later := ih rest.length (by rw [← size]; simp; omega) rest rfl
        rw [encode_append, encode_cons, alone, List.singleton_append,
          List.splitOn_append_cons_self_of_not_mem (absent line plain),
          List.splitOn_append_cons_self_of_not_mem plain, later]
        rfl
      · rw [List.splitOn_eq_singleton terminated, List.splitOn_eq_singleton (absent text terminated)]
        rfl

/-! ## Decoding in parts -/

/-- Continuation bytes without a first byte are replaced one by one. -/
theorem decode_continuation_append {bytes : List UInt8}
    (continuation : ∀ byte ∈ bytes, IsContinuation byte) (rest : List UInt8) :
    decode (bytes ++ rest) = List.replicate bytes.length replacement ++ decode rest := by
  induction bytes with
  | nil => rfl
  | cons byte more ih =>
      rw [List.cons_append, decode, decodeFrom, read,
        first_of_isContinuation (continuation byte (by simp)), List.length_cons,
        List.replicate_succ]
      exact congrArg (replacement :: ·)
        (ih fun other member => continuation other (List.mem_cons_of_mem _ member))

/-- What follows a character in progress has at most one character less when it is decoded
together with it. -/
theorem length_decodeFrom_le {unfinished : Partial} (usual : unfinished.Usual)
    (bytes : List UInt8) :
    (decodeFrom (some unfinished) bytes).length ≤ (decode bytes).length + 1 := by
  induction bytes generalizing unfinished with
  | nil => exact Nat.le_refl 1
  | cons byte rest ih =>
      by_cases accepted : unfinished.Accepts byte
      · have alone : decode (byte :: rest) = replacement :: decode rest :=
          @decode_continuation_append [byte] (by simpa using usual.isContinuation accepted) rest
        rw [alone, List.length_cons]
        by_cases last : unfinished.missing = 1
        · rw [decodeFrom, read_last accepted last]
          simp
        · rw [decodeFrom, read_more accepted last]
          have later := ih (Partial.Usual.next unfinished byte)
          simpa using Nat.le_succ_of_le later
      · rw [decodeFrom, read_refused accepted, decode, decodeFrom, read]
        simp only [List.cons_append, List.length_cons]
        exact Nat.le_refl _

/-- The decoder is always ready for continuation bytes only. -/
theorem usual_read {state : Option Partial} (usual : ∀ unfinished ∈ state, unfinished.Usual)
    (byte : UInt8) : ∀ unfinished ∈ (read state byte).1, unfinished.Usual := by
  have fresh : ∀ unfinished ∈ (first byte).1, unfinished.Usual := by
    intro unfinished stored
    cases firstByte byte with
    | ascii small reads => rw [reads] at stored; cases stored
    | replaced large reads => rw [reads] at stored; cases stored
    | starts reads admissible =>
        rw [reads] at stored
        obtain rfl := Option.some.inj stored
        exact admissible.usual
  cases state with
  | none => exact fresh
  | some unfinished =>
      by_cases accepted : unfinished.Accepts byte
      · by_cases last : unfinished.missing = 1
        · rw [read_last accepted last]
          intro later stored
          cases stored
        · rw [read_more accepted last]
          intro later stored
          obtain rfl := Option.some.inj stored
          exact Partial.Usual.next unfinished byte
      · rw [read_refused accepted]
        exact fresh

theorem usual_run {state : Option Partial} (usual : ∀ unfinished ∈ state, unfinished.Usual)
    (bytes : List UInt8) : ∀ unfinished ∈ (Transducer.run read state bytes).1, unfinished.Usual := by
  induction bytes generalizing state with
  | nil => exact usual
  | cons byte rest ih => exact ih (usual_read usual byte)

/-- **Decoding two parts on their own never gives fewer characters than decoding the whole.** -/
theorem length_decode_append_le (front back : List UInt8) :
    (decode (front ++ back)).length ≤ (decode front).length + (decode back).length := by
  have alone := decodeFrom_append none front []
  rw [List.append_nil] at alone
  have whole := decodeFrom_append none front back
  rw [decode, decode, whole, alone]
  cases left : (Transducer.run read none front).1 with
  | none => simp [decodeFrom]
  | some unfinished =>
      have usual : unfinished.Usual := usual_run (by simp) front unfinished left
      have later := length_decodeFrom_le usual back
      simp only [decodeFrom, List.length_append, List.length_singleton]
      omega

theorem length_decode_flatten_le (parts : List (List UInt8)) :
    (decode parts.flatten).length ≤ (parts.flatMap decode).length := by
  induction parts with
  | nil => exact Nat.le_refl 0
  | cons part rest ih =>
      rw [List.flatten_cons, List.flatMap_cons, List.length_append]
      exact Nat.le_trans (length_decode_append_le part rest.flatten) (Nat.add_le_add_left ih _)

/-- **A cut inside an encoded character shows**: the two parts decode to more characters than the
text has. -/
theorem length_decode_lt_of_cut {before after : List Char} {char : Char} {front back : List UInt8}
    (cut : String.utf8EncodeChar char = front ++ back) (started : front ≠ [])
    (unread : back ≠ []) :
    (before ++ char :: after).length <
      (decode (encode before ++ front)).length + (decode (back ++ encode after)).length := by
  have encoded := encoded_utf8EncodeChar char
  rw [cut] at encoded
  obtain ⟨later, ran⟩ := encoded.run_front started unread
  have left : decode (encode before ++ front) = before ++ [replacement] := by
    have alone := decodeFrom_append none front []
    rw [List.append_nil, ran] at alone
    rw [decode_encode_append]
    exact congrArg (before ++ ·) alone
  have right := decode_continuation_append (encoded.isContinuation started) (encode after)
  rw [left, right, decode_encode]
  have some := List.length_pos_iff.mpr unread
  simp only [List.length_append, List.length_cons, List.length_replicate, List.length_nil]
  omega

/-- A position in the bytes of a text at which a character ends or the text starts. -/
def IsBoundary (text : List Char) (position : Nat) : Prop :=
  ∃ front back, text = front ++ back ∧ (encode front).length = position

/-- **Every position in an encoded text is a character boundary or inside a character.** -/
theorem boundary_or_cut (text : List Char) {position : Nat}
    (inside : position ≤ (encode text).length) :
    IsBoundary text position ∨
      ∃ before char after front back, text = before ++ char :: after ∧
        String.utf8EncodeChar char = front ++ back ∧ front ≠ [] ∧ back ≠ [] ∧
        (encode before ++ front).length = position := by
  induction text generalizing position with
  | nil => exact .inl ⟨[], [], rfl, (Nat.le_zero.mp inside).symm⟩
  | cons char rest ih =>
      by_cases start : position = 0
      · exact .inl ⟨[], char :: rest, rfl, start.symm⟩
      rw [encode_cons, List.length_append] at inside
      by_cases within : position < (String.utf8EncodeChar char).length
      · refine .inr ⟨[], char, rest, _, _, rfl, (List.take_append_drop position _).symm, ?_, ?_, ?_⟩
        · rw [← List.length_pos_iff, List.length_take]
          omega
        · rw [← List.length_pos_iff, List.length_drop]
          omega
        · rw [encode_nil, List.nil_append, List.length_take]
          omega
      · have later : position - (String.utf8EncodeChar char).length ≤ (encode rest).length := by
          omega
        rcases ih later with ⟨front, back, rfl, ends⟩ | ⟨before, cut, after, front, back, rfl, found⟩
        · refine .inl ⟨char :: front, back, rfl, ?_⟩
          rw [encode_cons, List.length_append, ends]
          omega
        · obtain ⟨split, started, unread, ends⟩ := found
          refine .inr ⟨char :: before, cut, after, front, back, rfl, split, started, unread, ?_⟩
          rw [encode_cons, List.append_assoc, List.length_append, ends]
          omega

/-! ## Fragments of a text -/

theorem length_le_of_fragments {size : Nat} (positive : 0 < size) (text : List Char) :
    text.length ≤ ((fragments size (encode text)).flatMap decode).length := by
  have whole := length_decode_flatten_le (fragments size (encode text))
  rwa [flatten_fragments positive, decode_encode] at whole

/-- A fragment that ends inside a character adds characters to the text. -/
theorem isBoundary_of_fragments_keep {size : Nat} (positive : 0 < size) {text : List Char}
    (kept : (fragments size (encode text)).flatMap decode = text) {count : Nat}
    (inside : count * size < (encode text).length) : IsBoundary text (count * size) := by
  rcases boundary_or_cut text (Nat.le_of_lt inside) with
    boundary | ⟨before, char, after, front, back, split, cut, started, unread, position⟩
  · exact boundary
  have bytes : encode text = (encode before ++ front) ++ (back ++ encode after) := by
    rw [split, encode_append, encode_cons, cut]
    simp only [List.append_assoc]
  have left : (encode text).take (count * size) = encode before ++ front := by
    rw [bytes, ← position, List.take_left]
  have right : (encode text).drop (count * size) = back ++ encode after := by
    rw [bytes, ← position, List.drop_left]
  have more := @length_decode_lt_of_cut before after char front back cut started unread
  have leftMost := length_decode_flatten_le (fragments size (encode before ++ front))
  have rightMost := length_decode_flatten_le (fragments size (back ++ encode after))
  rw [flatten_fragments positive] at leftMost rightMost
  have total := congrArg List.length kept
  rw [fragments_take_drop positive count, left, right, List.flatMap_append, List.length_append]
    at total
  rw [← split] at more
  omega

/-- The fragments of a text keep it when each of them ends at a character boundary. -/
theorem fragments_keep_of_isBoundary {size : Nat} (positive : 0 < size) {text : List Char}
    (boundaries : ∀ count, count * size < (encode text).length → IsBoundary text (count * size)) :
    (fragments size (encode text)).flatMap decode = text := by
  induction length : (encode text).length using Nat.strongRecOn generalizing text with
  | _ length ih =>
      by_cases stop : encode text = []
      · have empty := decode_encode text
        rw [stop] at empty
        rw [stop, fragments_nil]
        exact empty
      by_cases short : (encode text).length ≤ size
      · rw [fragments_of_length_le positive stop short, List.flatMap_cons, List.flatMap_nil,
          List.append_nil, decode_encode]
      obtain ⟨front, back, rfl, ends⟩ := boundaries 1 (by omega)
      rw [Nat.one_mul] at ends
      have parts : (encode (front ++ back)).take size = encode front ∧
          (encode (front ++ back)).drop size = encode back := by
        rw [encode_append, ← ends, List.take_left, List.drop_left]
        exact ⟨rfl, rfl⟩
      rw [encode_append, List.length_append] at length
      -- A boundary of the whole behind the first fragment is one of the rest.
      have later : ∀ count, count * size < (encode back).length →
          IsBoundary back (count * size) := by
        intro count inside
        obtain ⟨longer, others, split, reached⟩ := boundaries (count + 1) (by
          rw [encode_append, List.length_append, Nat.succ_mul]
          omega)
        rw [Nat.succ_mul] at reached
        rcases List.append_eq_append_iff.mp split with ⟨middle, rfl, rfl⟩ | ⟨middle, rfl, rfl⟩
        · refine ⟨middle, others, rfl, ?_⟩
          rw [encode_append, List.length_append] at reached
          omega
        · refine ⟨[], back, rfl, ?_⟩
          rw [encode_append, List.length_append, reached] at ends
          rw [encode_nil, List.length_nil]
          omega
      rw [fragments_eq_cons positive stop, parts.1, parts.2, List.flatMap_cons, decode_encode,
        ih _ (by omega) later rfl]

/-- **Fragments keep a text exactly when none of them ends inside a character.** -/
theorem fragments_keep_iff {size : Nat} (positive : 0 < size) (text : List Char) :
    (fragments size (encode text)).flatMap decode = text ↔
      ∀ count, count * size < (encode text).length → IsBoundary text (count * size) :=
  ⟨fun kept _ inside => isBoundary_of_fragments_keep positive kept inside,
    fragments_keep_of_isBoundary positive⟩

end Utf8Lossy

end TokioProcessTools.Foundation
