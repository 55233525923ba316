import TokioProcessTools.Foundation.Utf8Text

/-!
# The length of lossily decoded bytes

A well-formed sequence is decoded to a character that is encoded in as many
bytes. A maximal ill-formed sequence has at most three bytes and is decoded to
U+FFFD, which has three. So a decoded text has as many bytes as its source, and
for each ill-formed sequence those that miss from three (`length_encode_decode`).
-/

set_option autoImplicit false

namespace TokioProcessTools.Foundation

namespace Utf8Lossy

/-! ## Ill-formed sequences -/

/-- Start a sequence with its first byte. A byte that starts no character is ill-formed alone. -/
def startWith (byte : UInt8) : Option (Partial × List UInt8) × List (List UInt8) :=
  match (first byte).1 with
  | some unfinished => (some (unfinished, [byte]), [])
  | none => if byte < 0x80 then (none, []) else (none, [[byte]])

/-- Read one byte, with the bytes of the character in progress at hand. They are ill-formed when
the byte does not continue the character. -/
def scan : Option (Partial × List UInt8) → UInt8 → Option (Partial × List UInt8) × List (List UInt8)
  | none, byte => startWith byte
  | some (unfinished, seen), byte =>
      if unfinished.low ≤ byte ∧ byte ≤ unfinished.high then
        if unfinished.missing = 1 then (none, [])
        else (some (unfinished.next byte, seen ++ [byte]), [])
      else ((startWith byte).1, seen :: (startWith byte).2)

/-- The maximal ill-formed sequences from a given state on. A character that is unfinished at the
end is one. -/
def illFormedFrom : Option (Partial × List UInt8) → List UInt8 → List (List UInt8)
  | none, [] => []
  | some (_, seen), [] => [seen]
  | state, byte :: rest => (scan state byte).2 ++ illFormedFrom (scan state byte).1 rest

/-- The maximal ill-formed sequences of some bytes. -/
def illFormed (bytes : List UInt8) : List (List UInt8) := illFormedFrom none bytes

/-- How many bytes the sequences gain when each is replaced by the three bytes of U+FFFD. -/
def growth : List (List UInt8) → Nat
  | [] => 0
  | sequence :: rest => (3 - sequence.length) + growth rest

@[simp] theorem growth_append (front back : List (List UInt8)) :
    growth (front ++ back) = growth front + growth back := by
  induction front with
  | nil => exact (Nat.zero_add _).symm
  | cons sequence rest ih => rw [List.cons_append, growth, growth, ih, Nat.add_assoc]

/-- A byte that starts no character, a character cut short, and one that is complete. -/
example : illFormed [0xFF, 0xE2, 0x82, 0x61, 0xC3, 0xA9] = [[0xFF], [0xE2, 0x82]] := by decide

/-! ## The sizes of characters -/

theorem SizeRange.size_le {size low high : Nat} (range : SizeRange size low high) : size ≤ 4 := by
  cases range <;> decide

/-- A character in the range of a size is encoded in as many bytes. -/
theorem SizeRange.length_utf8EncodeChar {size low high value : Nat}
    (range : SizeRange size low high) (above : low ≤ value) (below : value < high) :
    (String.utf8EncodeChar (Char.ofNat value)).length = size := by
  have valid : value.isValidChar := by
    cases range with
    | two => exact .inl (by omega)
    | threeBelowSurrogates => exact .inl (by omega)
    | threeAboveSurrogates => exact .inr ⟨by omega, by omega⟩
    | four => exact .inr ⟨by omega, by omega⟩
  have same : (Char.ofNat value).val.toNat = value := by
    rw [Char.ofNat, dif_pos valid]
    rfl
  simp only [String.utf8EncodeChar, same]
  cases range with
  | two => rw [if_neg (by omega), if_pos (by omega)]; rfl
  | threeBelowSurrogates => rw [if_neg (by omega), if_neg (by omega), if_pos (by omega)]; rfl
  | threeAboveSurrogates => rw [if_neg (by omega), if_neg (by omega), if_pos (by omega)]; rfl
  | four => rw [if_neg (by omega), if_neg (by omega), if_neg (by omega)]; rfl

theorem length_utf8EncodeChar_ascii {byte : UInt8} (small : byte.toNat < 0x80) :
    (String.utf8EncodeChar (Char.ofNat byte.toNat)).length = 1 := by
  have same : (Char.ofNat byte.toNat).val.toNat = byte.toNat := by
    rw [Char.ofNat, dif_pos (.inl (by omega))]
    rfl
  simp only [String.utf8EncodeChar, same]
  rw [if_pos (by omega)]
  rfl

/-! ## Characters in progress -/

namespace Partial.Admissible

variable {unfinished : Partial} {seen : Nat} {byte : UInt8}

/-- The bytes of a character in progress are fewer than four. -/
theorem seen_le (admissible : unfinished.Admissible seen) : seen ≤ 3 := by
  obtain ⟨low, high, range, _⟩ := admissible.ranged
  have unread := admissible.unread
  have size := range.size_le
  omega

/-- An accepted byte lies between the two values the range allows. -/
theorem bits_between (admissible : unfinished.Admissible seen)
    (accepted : unfinished.Accepts byte) :
    unfinished.bits * 64 + unfinished.low.toNat % 64 ≤ (unfinished.next byte).bits ∧
      (unfinished.next byte).bits ≤ unfinished.bits * 64 + unfinished.high.toNat % 64 := by
  obtain ⟨low, high⟩ := admissible.usual
  obtain ⟨above, below⟩ := accepted
  simp only [Partial.next]
  omega

/-- **The last byte completes a character of the announced length.** -/
theorem length_last (admissible : unfinished.Admissible seen)
    (accepted : unfinished.Accepts byte) (last : unfinished.missing = 1) :
    (String.utf8EncodeChar (Char.ofNat (unfinished.next byte).bits)).length = seen + 1 := by
  obtain ⟨low, high, range, above, below⟩ := admissible.ranged
  obtain ⟨least, most⟩ := admissible.bits_between accepted
  simp only [Partial.least, Partial.bound, last, Nat.sub_self, Nat.pow_zero, Nat.mul_one]
    at above below
  rw [last] at range
  exact range.length_utf8EncodeChar (by omega) (by omega)

/-- **An accepted byte keeps the character within the announced length.** -/
theorem next (admissible : unfinished.Admissible seen) (accepted : unfinished.Accepts byte)
    (more : unfinished.missing ≠ 1) : (unfinished.next byte).Admissible (seen + 1) := by
  obtain ⟨low, high, range, above, below⟩ := admissible.ranged
  obtain ⟨least, most⟩ := admissible.bits_between accepted
  have unread := admissible.unread
  obtain ⟨missing, counted⟩ : ∃ missing, unfinished.missing = missing + 2 :=
    ⟨unfinished.missing - 2, by omega⟩
  have left : (unfinished.next byte).missing = missing + 1 := by rw [Partial.next, counted]; rfl
  have zeros : (unfinished.next byte).low.toNat % 64 = 0 := by
    change (0x80 : UInt8).toNat % 64 = 0
    decide
  have ones : (unfinished.next byte).high.toNat % 64 = 63 := by
    change (0xBF : UInt8).toNat % 64 = 63
    decide
  refine ⟨Partial.Usual.next unfinished byte, Nat.succ_pos seen, by omega, low, high, ?_, ?_, ?_⟩
  · rw [left, Nat.add_right_comm, Nat.add_assoc]
    rwa [counted] at range
  · have scaled := Nat.mul_le_mul_right (64 ^ missing) (Nat.mul_le_mul_right 64 least)
    rw [Nat.mul_assoc, ← Nat.pow_succ'] at scaled
    rw [Partial.least, counted] at above
    rw [Partial.least, left, zeros]
    exact Nat.le_trans above scaled
  · have filled : (unfinished.next byte).bits * 64 + 63 + 1 ≤
        (unfinished.bits * 64 + unfinished.high.toNat % 64 + 1) * 64 := by omega
    have scaled := Nat.mul_le_mul_right (64 ^ missing) filled
    rw [Nat.mul_assoc _ 64, ← Nat.pow_succ'] at scaled
    rw [Partial.bound, counted] at below
    rw [Partial.bound, left, ones]
    exact Nat.le_trans scaled below

end Partial.Admissible

/-! ## Decoding -/

theorem scan_more {unfinished : Partial} {seen : List UInt8} {byte : UInt8}
    (accepted : unfinished.Accepts byte) (more : unfinished.missing ≠ 1) :
    scan (some (unfinished, seen)) byte = (some (unfinished.next byte, seen ++ [byte]), []) := by
  rw [Partial.Accepts] at accepted
  simp only [scan, UInt8.le_iff_toNat_le]
  rw [if_pos accepted, if_neg more]

theorem scan_last {unfinished : Partial} {seen : List UInt8} {byte : UInt8}
    (accepted : unfinished.Accepts byte) (last : unfinished.missing = 1) :
    scan (some (unfinished, seen)) byte = (none, []) := by
  rw [Partial.Accepts] at accepted
  simp only [scan, UInt8.le_iff_toNat_le]
  rw [if_pos accepted, if_pos last]

theorem scan_refused {unfinished : Partial} {seen : List UInt8} {byte : UInt8}
    (refused : ¬ unfinished.Accepts byte) :
    scan (some (unfinished, seen)) byte = ((startWith byte).1, seen :: (startWith byte).2) := by
  rw [Partial.Accepts] at refused
  simp only [scan, UInt8.le_iff_toNat_le]
  rw [if_neg refused]

/-- The bytes of the character in progress. -/
def unread : Option (Partial × List UInt8) → Nat
  | none => 0
  | some (_, seen) => seen.length

/-- Every character in progress can still be completed. -/
def Sound (state : Option (Partial × List UInt8)) : Prop :=
  ∀ unfinished seen, state = some (unfinished, seen) → unfinished.Admissible seen.length

/-- What one byte does to both: the decoder and the scanner stay together, and the bytes emitted
and kept are those at hand and the growth. -/
structure Counted (state : Option (Partial × List UInt8)) (byte : UInt8) : Prop where
  together : (read (state.map Prod.fst) byte).1 = (scan state byte).1.map Prod.fst
  sound : Sound (scan state byte).1
  balanced : (encode (read (state.map Prod.fst) byte).2).length + unread (scan state byte).1 =
    unread state + 1 + growth (scan state byte).2

theorem counted_first (byte : UInt8) : Counted none byte := by
  have absent : Sound none := by intro _ _ impossible; cases impossible
  cases firstByte byte with
  | ascii small reads =>
      have scans : scan none byte = (none, []) := by
        rw [scan, startWith, reads]
        exact if_pos (UInt8.lt_iff_toNat_lt.mpr small)
      refine ⟨?_, by rw [scans]; exact absent, ?_⟩
      · rw [scans, Option.map_none, read, reads]
      · rw [scans, Option.map_none, read, reads]
        simp [encode, length_utf8EncodeChar_ascii small, unread, growth]
  | replaced large reads =>
      have scans : scan none byte = (none, [[byte]]) := by
        rw [scan, startWith, reads]
        exact if_neg (by rw [UInt8.lt_iff_toNat_lt]; exact Nat.not_lt.mpr large)
      refine ⟨?_, by rw [scans]; exact absent, ?_⟩
      · rw [scans, Option.map_none, read, reads]
      · have three : (encode [replacement]).length = 3 := by decide
        rw [scans, Option.map_none, read, reads, three]
        rfl
  | starts reads admissible =>
      rename_i unfinished
      have scans : scan none byte = (some (unfinished, [byte]), []) := by
        rw [scan, startWith, reads]
      refine ⟨?_, ?_, ?_⟩
      · rw [scans, Option.map_none, read, reads]; rfl
      · rw [scans]
        intro _ _ stored
        obtain ⟨rfl, rfl⟩ := Prod.mk.inj (Option.some.inj stored)
        exact admissible
      · rw [scans, Option.map_none, read, reads]; rfl

theorem counted {state : Option (Partial × List UInt8)} (sound : Sound state) (byte : UInt8) :
    Counted state byte := by
  match state, sound with
  | none, _ => exact counted_first byte
  | some (unfinished, seen), sound =>
      have admissible := sound unfinished seen rfl
      by_cases accepted : unfinished.Accepts byte
      · by_cases last : unfinished.missing = 1
        · refine ⟨?_, ?_, ?_⟩
          · rw [scan_last accepted last, Option.map_some, read_last accepted last]; rfl
          · rw [scan_last accepted last]
            intro _ _ impossible
            cases impossible
          · rw [scan_last accepted last, Option.map_some, read_last accepted last]
            simp [encode, admissible.length_last accepted last, unread, growth]
        · refine ⟨?_, ?_, ?_⟩
          · rw [scan_more accepted last, Option.map_some, read_more accepted last]; rfl
          · rw [scan_more accepted last]
            intro _ _ stored
            obtain ⟨rfl, rfl⟩ := Prod.mk.inj (Option.some.inj stored)
            rw [List.length_append]
            exact admissible.next accepted last
          · rw [scan_more accepted last, Option.map_some, read_more accepted last]
            simp [unread, growth]
      · obtain ⟨together, fresh, balanced⟩ := counted_first byte
        have short := admissible.seen_le
        have three : (String.utf8EncodeChar replacement).length = 3 := by decide
        refine ⟨?_, ?_, ?_⟩
        · rw [scan_refused accepted, Option.map_some, read_refused accepted]
          exact together
        · rw [scan_refused accepted]
          exact fresh
        · rw [scan_refused accepted, Option.map_some, read_refused accepted]
          simp only [Option.map_none, read, scan] at balanced
          simp only [encode_cons, List.length_append, three, unread, growth] at balanced ⊢
          omega

theorem length_encode_decodeFrom {state : Option (Partial × List UInt8)} (sound : Sound state)
    (bytes : List UInt8) :
    (encode (decodeFrom (state.map Prod.fst) bytes)).length =
      unread state + bytes.length + growth (illFormedFrom state bytes) := by
  induction bytes generalizing state with
  | nil =>
      match state, sound with
      | none, _ => rfl
      | some (unfinished, seen), sound =>
          have short := (sound unfinished seen rfl).seen_le
          have three : (encode [replacement]).length = 3 := by decide
          simp only [Option.map_some, decodeFrom, three, unread, illFormedFrom, growth,
            List.length_nil]
          omega
  | cons byte rest ih =>
      obtain ⟨together, fresh, balanced⟩ := counted sound byte
      have later := ih fresh
      rw [decodeFrom, encode_append, List.length_append, together, later, illFormedFrom,
        growth_append, List.length_cons]
      omega

/-- **The bytes of a decoded text**: those of its source, and what the ill-formed sequences gain. -/
theorem length_encode_decode (bytes : List UInt8) :
    (encode (decode bytes)).length = bytes.length + growth (illFormed bytes) := by
  have whole := @length_encode_decodeFrom none (by intro _ _ impossible; cases impossible) bytes
  rw [unread, Nat.zero_add] at whole
  exact whole

end Utf8Lossy

/-- The length of a lossily decoded string. -/
theorem utf8ByteSize_fromUtf8Lossy (bytes : List UInt8) :
    (fromUtf8Lossy bytes).utf8ByteSize =
      bytes.length + Utf8Lossy.growth (Utf8Lossy.illFormed bytes) := by
  rw [← Utf8Lossy.length_encode_toList, fromUtf8Lossy, String.toList_ofList]
  exact Utf8Lossy.length_encode_decode bytes

end TokioProcessTools.Foundation
