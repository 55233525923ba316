import TokioProcessTools.Foundation.Longest
import TokioProcessTools.OutputStream.Visitors.Collect
import Mathlib.Algebra.GroupWithZero.Nat

/-!
# What a bounded line collection retains

The counter of retained bytes is exact after any pushes, whatever the options of
each of them, and an eviction always finds a line to evict
(`pushLines_counted`).

A collection that keeps the newest lines holds the longest suffix of the lines
it can hold at all that is within both limits (`dropOldest_exact`).

A collection that keeps the first lines decides about every line on its own. A
line that is too long for the bytes that are left is skipped, and a shorter one
behind it is taken. What is retained is therefore a prefix of the pushed lines
exactly if no line behind the longest prefix within the limits would still fit
(`dropAdditional_prefix_iff`).
-/

set_option autoImplicit false

namespace TokioProcessTools.OutputStream.Visitors

open Foundation

/-- The total number of bytes of some lines. -/
def totalBytes (lines : List String) : Nat := (lines.map String.utf8ByteSize).sum

@[simp] theorem totalBytes_nil : totalBytes [] = 0 := rfl

@[simp] theorem totalBytes_cons (line : String) (rest : List String) :
    totalBytes (line :: rest) = line.utf8ByteSize + totalBytes rest := by
  simp [totalBytes]

@[simp] theorem totalBytes_append (first second : List String) :
    totalBytes (first ++ second) = totalBytes first + totalBytes second := by
  simp [totalBytes]

theorem totalBytes_le_of_suffix {suffix lines : List String} (isSuffix : suffix <:+ lines) :
    totalBytes suffix ≤ totalBytes lines := by
  obtain ⟨front, rfl⟩ := isSuffix
  simp

/-- The lines are within both limits. -/
def WithinLimits (maxBytes : NumBytes) (maxLines : Nat) (lines : List String) : Prop :=
  lines.length ≤ maxLines ∧ totalBytes lines ≤ maxBytes.bytes

instance (maxBytes : NumBytes) (maxLines : Nat) :
    DecidablePred (WithinLimits maxBytes maxLines) :=
  fun _ => inferInstanceAs (Decidable (_ ∧ _))

namespace CollectedLines

/-! ## The counter -/

/-- A collection whose counter of retained bytes is exact. -/
def ofLines (lines : List String) (truncated : Bool) : CollectedLines :=
  ⟨lines, truncated, totalBytes lines⟩

section Exact

variable {lines : List String} {truncated : Bool} {maxBytes : NumBytes} {maxLines lineLen : Nat}

theorem pushBack_ofLines {line : String}
    (fits : totalBytes lines + line.utf8ByteSize ≤ usizeMax) :
    (ofLines lines truncated).pushBack line = .ok (ofLines (lines ++ [line]) truncated) := by
  simp only [pushBack, ofLines, checkedAdd_of_le fits, checked_ok_bind]
  simp

theorem popFront_ofLines (line : String) (rest : List String) :
    (ofLines (line :: rest) truncated).popFront = .ok (ofLines rest truncated, some line) := by
  have enough : line.utf8ByteSize ≤ totalBytes (line :: rest) := by simp
  simp only [popFront, ofLines, checkedSub_of_le enough, checked_ok_bind]
  simp

variable (maxBytes maxLines lineLen) in
/-- There is room for a line of the given length behind the lines. -/
def HasRoom (lines : List String) : Prop :=
  lines.length < maxLines ∧ lineLen ≤ maxBytes.bytes - totalBytes lines

instance : DecidablePred (HasRoom maxBytes maxLines lineLen) :=
  fun _ => inferInstanceAs (Decidable (_ ∧ _))

theorem mustEvict_ofLines_iff :
    (ofLines lines truncated).MustEvict maxBytes maxLines lineLen ↔
      ¬ HasRoom maxBytes maxLines lineLen lines := by
  simp only [MustEvict, HasRoom, ofLines]
  omega

/-- **The eviction loop** stops at the longest suffix behind which there is room. The empty buffer
has room, so no iteration meets one. -/
theorem evict_ofLines (some : 0 < maxLines) (short : lineLen ≤ maxBytes.bytes) :
    (ofLines lines truncated).evict maxBytes maxLines lineLen =
      .ok (ofLines (longestSuffix (HasRoom maxBytes maxLines lineLen) lines)
        (truncated ||
          decide (longestSuffix (HasRoom maxBytes maxLines lineLen) lines ≠ lines))) := by
  induction lines generalizing truncated with
  | nil =>
      have room : HasRoom maxBytes maxLines lineLen [] := ⟨some, by simpa using short⟩
      rw [evict, if_neg (mustEvict_ofLines_iff.not.mpr (not_not.mpr room))]
      simp
  | cons line rest ih =>
      by_cases room : HasRoom maxBytes maxLines lineLen (line :: rest)
      · rw [evict, if_neg (mustEvict_ofLines_iff.not.mpr (not_not.mpr room)),
          longestSuffix_of_pos room]
        simp
      · have popped := @popFront_ofLines truncated line rest
        have shorter : longestSuffix (HasRoom maxBytes maxLines lineLen) rest ≠ line :: rest := by
          intro same
          have bound := (@longestSuffix_suffix _ (HasRoom maxBytes maxLines lineLen) _ rest).length_le
          rw [same, List.length_cons] at bound
          omega
        rw [evict, if_pos (mustEvict_ofLines_iff.mpr room)]
        split
        · rename_i failed
          cases popped.symm.trans failed
        · rename_i missing
          cases popped.symm.trans missing
        · rename_i taken
          cases popped.symm.trans taken
          have onward := @ih true
          rw [ofLines] at onward
          simp only [ofLines]
          rw [onward, longestSuffix_cons_of_neg room]
          simp [shorter, ofLines]

/-- A push keeps the counter exact. -/
theorem pushLine_ofLines {line : String} (fits : totalBytes lines + line.utf8ByteSize ≤ usizeMax)
    (options : LineCollectionOptions) :
    ∃ kept flag, (ofLines lines truncated).pushLine line options = .ok (ofLines kept flag) ∧
      totalBytes kept ≤ totalBytes lines + line.utf8ByteSize := by
  have appended : totalBytes (lines ++ [line]) ≤ totalBytes lines + line.utf8ByteSize := by simp
  have rejected : totalBytes lines ≤ totalBytes lines + line.utf8ByteSize := Nat.le_add_right _ _
  cases options with
  | trustedUnbounded => exact ⟨_, _, pushBack_ofLines fits, appended⟩
  | bounded maxBytes maxLines behavior =>
      cases behavior with
      | dropAdditionalData =>
          rw [pushLine]
          split
          · exact ⟨lines, true, rfl, rejected⟩
          · exact ⟨_, _, pushBack_ofLines fits, appended⟩
      | dropOldestData =>
          rw [pushLine]
          split
          · exact ⟨lines, true, rfl, rejected⟩
          · split
            · exact ⟨lines, true, rfl, rejected⟩
            · rename_i some short
              have fewer := totalBytes_le_of_suffix
                (@longestSuffix_suffix _ (HasRoom maxBytes maxLines line.utf8ByteSize) _ lines)
              rw [evict_ofLines (Nat.pos_of_ne_zero some) (Nat.le_of_not_lt short), checked_ok_bind]
              exact ⟨_, _, pushBack_ofLines (by omega), by simp [fewer]⟩

theorem pushLines_ofLines {pushes : List (String × LineCollectionOptions)}
    (fits : totalBytes lines + totalBytes (pushes.map Prod.fst) ≤ usizeMax) :
    ∃ kept flag, (ofLines lines truncated).pushLines pushes = .ok (ofLines kept flag) := by
  induction pushes generalizing lines truncated with
  | nil => exact ⟨lines, truncated, rfl⟩
  | cons push rest ih =>
      rw [List.map_cons, totalBytes_cons] at fits
      obtain ⟨middle, flag, pushed, bound⟩ :=
        @pushLine_ofLines lines truncated push.1 (by omega) push.2
      obtain ⟨kept, final, ran⟩ := @ih middle flag (by omega)
      refine ⟨kept, final, ?_⟩
      rw [pushLines, List.foldlM_cons, pushed, checked_ok_bind]
      exact ran

end Exact

end CollectedLines

/-- **Eviction never fails and the counter never drifts.** After any pushes with any options on each
of them, the counter is the number of bytes of the retained lines; no push has popped from an empty
buffer or subtracted more than the counter holds. All pushed bytes together fit the counter. -/
theorem pushLines_counted {pushes : List (String × LineCollectionOptions)}
    (fits : totalBytes (pushes.map Prod.fst) ≤ usizeMax) :
    ∃ collected, CollectedLines.pushLines {} pushes = .ok collected ∧
      collected.retainedBytes = totalBytes collected.lines := by
  obtain ⟨kept, flag, ran⟩ := @CollectedLines.pushLines_ofLines [] false pushes (by simpa using fits)
  exact ⟨_, ran, rfl⟩

/-- The limits shrink while the buffer is full. -/
theorem pushLines_counted_shrinking :
    totalBytes (([("aaaa", .trustedUnbounded), ("bb", .bounded ⟨3⟩ 1 .dropOldestData)] :
      List (String × LineCollectionOptions)).map Prod.fst) ≤ usizeMax ∧
    ∃ collected, CollectedLines.pushLines {}
        [("aaaa", .trustedUnbounded), ("bb", .bounded ⟨3⟩ 1 .dropOldestData)] = .ok collected ∧
      collected.retainedBytes = totalBytes collected.lines :=
  ⟨by decide, pushLines_counted (by decide)⟩

/-! ## Keeping the newest lines -/

section Newest

variable {maxBytes : NumBytes} {maxLines : Nat}

theorem withinLimits_nil : WithinLimits maxBytes maxLines [] := ⟨Nat.zero_le _, Nat.zero_le _⟩

theorem WithinLimits.of_cons {first : String} {rest : List String}
    (within : WithinLimits maxBytes maxLines (first :: rest)) : WithinLimits maxBytes maxLines rest := by
  have ⟨count, bytes⟩ := within
  rw [List.length_cons] at count
  rw [totalBytes_cons] at bytes
  exact ⟨by omega, by omega⟩

theorem WithinLimits.of_concat {init : List String} {last : String}
    (within : WithinLimits maxBytes maxLines (init ++ [last])) : WithinLimits maxBytes maxLines init := by
  have ⟨count, bytes⟩ := within
  rw [List.length_append, List.length_singleton] at count
  rw [totalBytes_append] at bytes
  exact ⟨by omega, by omega⟩

/-- Within the limit on the bytes, there is room for a line exactly if the lines stay within the
limits with it. -/
theorem hasRoom_iff {lines : List String} (bytes : totalBytes lines ≤ maxBytes.bytes)
    (line : String) :
    CollectedLines.HasRoom maxBytes maxLines line.utf8ByteSize lines ↔
      WithinLimits maxBytes maxLines (lines ++ [line]) := by
  simp only [CollectedLines.HasRoom, WithinLimits, List.length_append, List.length_singleton,
    totalBytes_append, totalBytes_cons, totalBytes_nil]
  omega

variable (maxBytes) in
/-- The lines that are within the limit on the bytes on their own. -/
def admissible (lines : List String) : List String :=
  lines.filter fun line => line.utf8ByteSize ≤ maxBytes.bytes

variable (maxBytes maxLines) in
/-- The newest lines that fit. -/
def newest (lines : List String) : List String :=
  longestSuffix (WithinLimits maxBytes maxLines) (admissible maxBytes lines)

theorem newest_length_le (lines : List String) :
    (newest maxBytes maxLines lines).length ≤ lines.length :=
  Nat.le_trans (longestSuffix_suffix _).length_le (List.length_filter_le _ _)

/-- What is collected of the given lines. -/
def CollectedLines.ofNewest (maxBytes : NumBytes) (maxLines : Nat) (lines : List String) :
    CollectedLines :=
  .ofLines (newest maxBytes maxLines lines)
    (decide ((newest maxBytes maxLines lines).length < lines.length))

/-- A further line. -/
theorem pushLine_ofNewest (some : 0 < maxLines) (word : maxBytes.bytes ≤ usizeMax)
    (lines : List String) (line : String) :
    (CollectedLines.ofNewest maxBytes maxLines lines).pushLine line
        (.bounded maxBytes maxLines .dropOldestData) =
      .ok (.ofNewest maxBytes maxLines (lines ++ [line])) := by
  have count := @newest_length_le maxBytes maxLines lines
  rw [CollectedLines.pushLine, if_neg (Nat.ne_of_gt some)]
  by_cases long : maxBytes.bytes < line.utf8ByteSize
  · have skipped : newest maxBytes maxLines (lines ++ [line]) = newest maxBytes maxLines lines := by
      simp [newest, admissible, Nat.not_le_of_lt long]
    rw [if_pos long, CollectedLines.ofNewest, CollectedLines.ofNewest, skipped,
      decide_eq_true (show _ < (lines ++ [line]).length by simp; omega)]
    rfl
  · have short := Nat.le_of_not_lt long
    have alone : WithinLimits maxBytes maxLines [line] := ⟨some, by simpa using short⟩
    have bytes : totalBytes (newest maxBytes maxLines lines) ≤ maxBytes.bytes :=
      (longestSuffix_holds withinLimits_nil _).2
    have evicted : longestSuffix (CollectedLines.HasRoom maxBytes maxLines line.utf8ByteSize)
          (newest maxBytes maxLines lines) =
        longestSuffix (fun suffix => WithinLimits maxBytes maxLines (suffix ++ [line]))
          (newest maxBytes maxLines lines) :=
      longestSuffix_congr fun suffix isSuffix =>
        hasRoom_iff (Nat.le_trans (totalBytes_le_of_suffix isSuffix) bytes) line
    have kept : newest maxBytes maxLines (lines ++ [line]) =
        longestSuffix (CollectedLines.HasRoom maxBytes maxLines line.utf8ByteSize)
          (newest maxBytes maxLines lines) ++ [line] := by
      have admitted : admissible maxBytes (lines ++ [line]) = admissible maxBytes lines ++ [line] := by
        simp [admissible, short]
      rw [evicted, newest, admitted, longestSuffix_snoc (fun _ _ => WithinLimits.of_cons)
        (fun _ _ => WithinLimits.of_concat) _ alone, newest]
    have within : WithinLimits maxBytes maxLines (newest maxBytes maxLines (lines ++ [line])) :=
      longestSuffix_holds withinLimits_nil _
    rw [kept] at within
    have shorter := (@longestSuffix_suffix _
      (CollectedLines.HasRoom maxBytes maxLines line.utf8ByteSize) _
        (newest maxBytes maxLines lines)).length_le
    rw [if_neg long, CollectedLines.ofNewest, CollectedLines.evict_ofLines some short, checked_ok_bind,
      CollectedLines.pushBack_ofLines (Nat.le_trans (by simpa using within.2) word),
      CollectedLines.ofNewest, kept]
    congr 2
    rw [← Bool.decide_or, decide_eq_decide, longestSuffix_ne_iff, List.length_append,
      List.length_append, List.length_singleton]
    omega

theorem pushLines_ofNewest (some : 0 < maxLines) (word : maxBytes.bytes ≤ usizeMax)
    (earlier lines : List String) :
    (CollectedLines.ofNewest maxBytes maxLines earlier).pushLines
        (lines.map fun line => (line, .bounded maxBytes maxLines .dropOldestData)) =
      .ok (.ofNewest maxBytes maxLines (earlier ++ lines)) := by
  induction lines generalizing earlier with
  | nil => simp [CollectedLines.pushLines, pure, Except.pure]
  | cons line rest ih =>
      rw [CollectedLines.pushLines, List.map_cons, List.foldlM_cons, pushLine_ofNewest some word,
        checked_ok_bind]
      refine (ih (earlier ++ [line])).trans ?_
      rw [List.append_assoc, List.singleton_append]

/-- **A bounded collection that keeps the newest lines is exact.** It holds the longest suffix of the
lines that are within the limit on their own whose count and total size are within the limits, and it
is marked as truncated exactly if it holds fewer lines than were pushed. -/
theorem dropOldest_exact (some : 0 < maxLines) (word : maxBytes.bytes ≤ usizeMax)
    (lines : List String) :
    ∃ collected, CollectedLines.pushLines {}
        (lines.map fun line => (line, .bounded maxBytes maxLines .dropOldestData)) =
          .ok collected ∧
      collected.lines = longestSuffix (WithinLimits maxBytes maxLines)
        (lines.filter fun line => line.utf8ByteSize ≤ maxBytes.bytes) ∧
      (collected.truncated = true ↔ collected.lines.length < lines.length) := by
  have started : ({} : CollectedLines) = .ofNewest maxBytes maxLines [] := by
    simp [CollectedLines.ofNewest, newest, admissible, CollectedLines.ofLines]
  refine ⟨_, started ▸ pushLines_ofNewest some word [] lines, rfl, ?_⟩
  simp [CollectedLines.ofNewest, CollectedLines.ofLines]

/-- An empty line takes a slot, and an over-long one is skipped without evicting anything. -/
theorem dropOldest_exact_empty_line :
    (0 < 2 ∧ (4 : Nat) ≤ usizeMax) ∧
    ∃ collected, CollectedLines.pushLines {}
        (["ab", "", "cdefg", "hi"].map fun line => (line, .bounded ⟨4⟩ 2 .dropOldestData)) =
          .ok collected ∧ collected.lines = ["", "hi"] ∧ collected.truncated = true := by
  obtain ⟨collected, ran, kept, truncated⟩ := @dropOldest_exact ⟨4⟩ 2 (by decide) (by decide)
    ["ab", "", "cdefg", "hi"]
  have lines : collected.lines = ["", "hi"] := kept.trans (by decide)
  exact ⟨⟨by decide, by decide⟩, collected, ran, lines, truncated.mpr (by rw [lines]; decide)⟩

end Newest

/-! ## Keeping the first lines -/

section First

variable {maxBytes : NumBytes} {maxLines : Nat}

/-- A push takes the line if it fits, and marks the collection otherwise. -/
theorem pushLine_dropAdditional {lines : List String}
    (within : WithinLimits maxBytes maxLines lines) (word : maxBytes.bytes ≤ usizeMax)
    (truncated : Bool) (line : String) :
    (CollectedLines.ofLines lines truncated).pushLine line
        (.bounded maxBytes maxLines .dropAdditionalData) =
      .ok (if WithinLimits maxBytes maxLines (lines ++ [line]) then .ofLines (lines ++ [line]) truncated
        else .ofLines lines true) := by
  have room := @hasRoom_iff maxBytes maxLines lines within.2 line
  rw [CollectedLines.HasRoom] at room
  by_cases fits : WithinLimits maxBytes maxLines (lines ++ [line])
  · have taken := room.mpr fits
    have bytes : totalBytes lines + line.utf8ByteSize ≤ maxBytes.bytes := by simpa using fits.2
    rw [CollectedLines.pushLine, if_neg (by simp only [CollectedLines.ofLines]; omega), if_pos fits,
      CollectedLines.pushBack_ofLines (Nat.le_trans bytes word)]
  · have skipped := room.not.mpr fits
    rw [CollectedLines.pushLine, if_pos (by simp only [CollectedLines.ofLines]; omega), if_neg fits]
    rfl

/-- The retained lines are selected greedily, and the collection is marked exactly if a line is
missing. -/
theorem pushLines_dropAdditional (word : maxBytes.bytes ≤ usizeMax) {kept : List String}
    (within : WithinLimits maxBytes maxLines kept) {count : Nat} (fewer : kept.length ≤ count)
    (lines : List String) :
    (CollectedLines.ofLines kept (decide (kept.length < count))).pushLines
        (lines.map fun line => (line, .bounded maxBytes maxLines .dropAdditionalData)) =
      .ok (.ofLines (greedy (WithinLimits maxBytes maxLines) kept lines)
        (decide ((greedy (WithinLimits maxBytes maxLines) kept lines).length <
          count + lines.length))) := by
  induction lines generalizing kept count with
  | nil => rfl
  | cons line rest ih =>
      rw [CollectedLines.pushLines, List.map_cons, List.foldlM_cons,
        pushLine_dropAdditional within word, checked_ok_bind]
      by_cases fits : WithinLimits maxBytes maxLines (kept ++ [line])
      · have onward := @ih (kept ++ [line]) fits (count + 1) (by simpa using fewer)
        have same : decide ((kept ++ [line]).length < count + 1) = decide (kept.length < count) := by
          rw [decide_eq_decide, List.length_append, List.length_singleton]
          omega
        rw [same] at onward
        rw [if_pos fits, greedy_cons_of_pos fits, List.length_cons, Nat.add_comm rest.length,
          ← Nat.add_assoc]
        exact onward
      · have onward := @ih kept within (count + 1) (Nat.le_succ_of_le fewer)
        rw [decide_eq_true (Nat.lt_succ_of_le fewer)] at onward
        rw [if_neg fits, greedy_cons_of_neg fits, List.length_cons, Nat.add_comm rest.length,
          ← Nat.add_assoc]
        exact onward

/-- **A bounded collection that keeps the first lines holds a prefix exactly if nothing fits behind
it.** The retained lines are the longest prefix of the pushed lines within both limits, and the
collection is marked exactly if that prefix is proper, if and only if no line behind the prefix would
be within the limits when added to it. -/
theorem dropAdditional_prefix_iff (word : maxBytes.bytes ≤ usizeMax) (lines : List String) :
    (∃ collected, CollectedLines.pushLines {}
        (lines.map fun line => (line, .bounded maxBytes maxLines .dropAdditionalData)) =
          .ok collected ∧
      collected.lines = longestPrefix (WithinLimits maxBytes maxLines) lines ∧
      (collected.truncated = true ↔ longestPrefix (WithinLimits maxBytes maxLines) lines ≠ lines)) ↔
    ∀ line ∈ lines.drop (longestPrefix (WithinLimits maxBytes maxLines) lines).length,
      ¬ WithinLimits maxBytes maxLines
        (longestPrefix (WithinLimits maxBytes maxLines) lines ++ [line]) := by
  have ran := @pushLines_dropAdditional maxBytes maxLines word [] withinLimits_nil 0 (Nat.le_refl 0)
    lines
  obtain ⟨rest, split, within, _⟩ :=
    @exists_longestPrefix_append _ (WithinLimits maxBytes maxLines) _ withinLimits_nil lines
  generalize longestPrefix (WithinLimits maxBytes maxLines) lines = first at split within ⊢
  subst split
  have taken : greedy (WithinLimits maxBytes maxLines) [] (first ++ rest) =
      greedy (WithinLimits maxBytes maxLines) first rest := by
    have whole : greedy (WithinLimits maxBytes maxLines) [] first = [] ++ first :=
      greedy_of_pos (fun _ _ => WithinLimits.of_concat) within
    rw [greedy_append, whole, List.nil_append]
  rw [List.drop_left, ← greedy_eq_self_iff, ← taken]
  constructor
  · rintro ⟨collected, pushed, kept, _⟩
    cases ran.symm.trans pushed
    exact kept
  · intro kept
    refine ⟨_, ran, kept, ?_⟩
    rw [kept]
    simp [CollectedLines.ofLines, List.length_pos_iff]

/-- The line behind the first one is too long, and the one behind that would be too. -/
theorem dropAdditional_prefix_iff_full :
    (4 : Nat) ≤ usizeMax ∧
    ∃ collected, CollectedLines.pushLines {}
        (["aaa", "bb", "cc"].map fun line => (line, .bounded ⟨4⟩ 10 .dropAdditionalData)) =
          .ok collected ∧
      collected.lines = longestPrefix (WithinLimits ⟨4⟩ 10) ["aaa", "bb", "cc"] ∧
      (collected.truncated = true ↔
        longestPrefix (WithinLimits ⟨4⟩ 10) ["aaa", "bb", "cc"] ≠ ["aaa", "bb", "cc"]) :=
  ⟨by decide, (@dropAdditional_prefix_iff ⟨4⟩ 10 (by decide) ["aaa", "bb", "cc"]).mpr (by decide)⟩

/-- A line that does not fit is skipped, and a shorter one behind it is taken: what is retained has a
hole. -/
theorem dropAdditional_hole :
    CollectedLines.pushLines {}
        (["aaa", "bb", "c"].map fun line => (line, .bounded ⟨4⟩ 10 .dropAdditionalData)) =
      .ok ⟨["aaa", "c"], true, 4⟩ ∧
    longestPrefix (WithinLimits ⟨4⟩ 10) ["aaa", "bb", "c"] = ["aaa"] := by
  decide

end First

end TokioProcessTools.OutputStream.Visitors
