/-
**Moves of a cursor.**

A cursor that is moved several times stands where one move by all these bytes would have taken it,
wherever the text between is cut. Only that each cut lies between two characters matters, since
the bytes of a character are passed together, and line and column count it once.

* `Cursor.behind` — the cursor behind a part at the front of its text; a move over what comes next
  reaches the cursor behind that too (`advance_behind`).
* `scanFrom_advance` — the scanner goes from lexeme to lexeme by moves of the cursor.
* `Cursor.OnBoundaries` — the lengths of moves that all end between two characters.
* `exists_advanceAll_behind` — **such moves pass a part of the text whose size is their sum.**
* `Cursor.StandsAt` — what a cursor shows behind a number of bytes.
* `advanceAll_exact` — **where a cursor stands depends only on the sum of its moves.**
-/

import Mathlib.Algebra.Ring.Nat
import Mathlib.Data.List.Infix
import Mathlib.Data.String.Basic
import TypedImp.Proofs.LongestMatch
import TypedImp.Proofs.Partition
import TypedImp.Text.Cursor

namespace TypedImp

namespace Cursor

/-! ### A text in parts -/

section Parts

variable (before taken later : String)

theorem extract_append : String.Pos.Raw.extract (before ++ (taken ++ later))
    ⟨before.utf8ByteSize⟩ ⟨before.utf8ByteSize + taken.utf8ByteSize⟩ = taken := by
  simpa [String.utf8Len_toList] using
    String.extract_of_valid before.toList taken.toList later.toList

theorem extract_append_end : String.Pos.Raw.extract (before ++ later) ⟨before.utf8ByteSize⟩
    (before ++ later).rawEndPos = later := by
  simpa [String.rawEndPos] using extract_append before later ""

theorem front_bytes :
    (before ++ later).toByteArray.extract 0 before.utf8ByteSize = before.toByteArray := by
  rw [String.toByteArray_append]
  exact ByteArray.extract_append_eq_left rfl

theorem back_bytes : (before ++ later).toByteArray.extract before.utf8ByteSize
    (before ++ later).utf8ByteSize = later.toByteArray := by
  rw [String.utf8ByteSize_append, String.toByteArray_append]
  exact ByteArray.extract_append_eq_right rfl rfl

end Parts

/-- Two parts at the front of a text that have the same size are the same. -/
theorem front_unique {first second rest other : String} (same : first ++ rest = second ++ other)
    (size : first.utf8ByteSize = second.utf8ByteSize) : first = second := by
  rw [← String.toByteArray_inj, ← front_bytes first rest, ← front_bytes second other, same, size]

/-- An offset that lies between two characters behind a part at the front does so in what is
left. -/
theorem isValid_of_append (before : String) {later : String} {offset : Nat}
    (valid : String.Pos.Raw.IsValid (before ++ later) ⟨before.utf8ByteSize + offset⟩) :
    String.Pos.Raw.IsValid later ⟨offset⟩ := by
  rcases String.Pos.Raw.isValid_append.mp valid with inside | ⟨_, valid⟩
  -- An offset that is valid in the front part can only be its end.
  · have small : before.utf8ByteSize + offset ≤ before.utf8ByteSize := inside.le_utf8ByteSize
    obtain rfl : offset = 0 := by omega
    exact String.Pos.Raw.isValid_zero
  · have same : (⟨before.utf8ByteSize + offset⟩ : String.Pos.Raw) - before = ⟨offset⟩ :=
      String.Pos.Raw.ext (by simp)
    rwa [same] at valid

/-! ### A cursor behind a part of its text -/

/-- The cursor in `source` behind the part `before` at its front. -/
def behind (source before : String) : Cursor :=
  ⟨source, before.utf8ByteSize, Position.start.after before.toList⟩

theorem ofText_eq_behind (source : String) : ofText source = behind source "" := by
  simp [ofText, behind]

section Behind

variable {source before taken later : String}

/-- **A move over what comes next.** -/
theorem advance_behind (whole : before ++ (taken ++ later) = source) :
    (behind source before).advance taken.utf8ByteSize = behind source (before ++ taken) := by
  subst whole
  simp only [behind, advance, next, extract_append, String.utf8ByteSize_append,
    String.toList_append, Position.after_append]

theorem remainder_behind (whole : before ++ later = source) :
    (behind source before).remainder = later := by
  subst whole
  exact extract_append_end before later

theorem atEnd_behind (whole : before ++ later = source) :
    (behind source before).atEnd = true ↔ later = "" := by
  rw [← String.utf8ByteSize_eq_zero_iff, ← whole]
  simp only [atEnd, behind, String.utf8ByteSize_append, decide_eq_true_eq]
  omega

/-- **The scanner moves like a cursor**: it takes the first lexeme of what the cursor has not
passed, at the position of the cursor, and goes on behind a move by the size of the lexeme. -/
theorem scanFrom_advance {pattern : Pattern} (whole : before ++ (taken ++ later) = source)
    (found : firstLexeme? (taken ++ later).toList = some (pattern, taken.toList)) :
    let here := behind source before
    let there := here.advance taken.utf8ByteSize
    scanFrom here.position here.remainder.toList =
      (scanFrom there.position there.remainder.toList).map
        (pattern.emit taken.toList here.position) := by
  intro here there
  have moved : there = behind source (before ++ taken) := advance_behind whole
  have left : there.remainder = later := by
    rw [moved, remainder_behind (by rw [String.append_assoc, whole])]
  have place : there.position = here.position.after taken.toList := by
    rw [moved, behind, String.toList_append, Position.after_append]
    rfl
  rw [left, place, remainder_behind whole, String.toList_append]
  rw [String.toList_append] at found
  exact scanFrom_of_firstLexeme? found here.position

end Behind

/-! ### Moves one after another -/

/-- Each of the moves ends between two characters of the text or at one of its ends. -/
def OnBoundaries (text : String) (lengths : List Nat) : Prop :=
  ∀ passed, passed <+: lengths → String.Pos.Raw.IsValid text ⟨passed.sum⟩

instance (text : String) (lengths : List Nat) : Decidable (OnBoundaries text lengths) :=
  decidable_of_iff (∀ passed ∈ lengths.inits, String.Pos.Raw.IsValid text ⟨passed.sum⟩)
    (forall_congr' fun passed => imp_congr_left (List.mem_inits passed lengths))

/-- The first move passes a part of the text, and the others go on in what is left. -/
theorem OnBoundaries.uncons {text : String} {bytes : Nat} {lengths : List Nat}
    (cuts : OnBoundaries text (bytes :: lengths)) :
    ∃ taken later, taken ++ later = text ∧ taken.utf8ByteSize = bytes ∧
      OnBoundaries later lengths := by
  have first : String.Pos.Raw.IsValid text ⟨bytes⟩ := by
    simpa using cuts [bytes] (by simp)
  obtain ⟨taken, later, rfl, offset⟩ := String.Pos.Raw.isValid_iff_exists_append.mp first
  obtain rfl : bytes = taken.utf8ByteSize := congrArg String.Pos.Raw.byteIdx offset
  refine ⟨taken, later, rfl, rfl, fun passed front => isValid_of_append taken ?_⟩
  rw [← List.sum_cons]
  exact cuts _ ((List.prefix_cons_inj _).mpr front)

/-- Moves the cursor by each of the lengths. -/
def advanceAll (cursor : Cursor) (lengths : List Nat) : Cursor :=
  lengths.foldl advance cursor

/-- **Moves that end on boundaries pass a part of the text whose size is their sum.** -/
theorem exists_advanceAll_behind {source before text : String} {lengths : List Nat}
    (whole : before ++ text = source) (cuts : OnBoundaries text lengths) :
    ∃ taken later, taken ++ later = text ∧ taken.utf8ByteSize = lengths.sum ∧
      (behind source before).advanceAll lengths = behind source (before ++ taken) := by
  -- What the first move passes goes over to the part that the cursor is behind.
  induction lengths generalizing before text with
  | nil => exact ⟨"", text, String.empty_append, rfl, by rw [String.append_empty]; rfl⟩
  | cons bytes lengths ih =>
    obtain ⟨first, rest, rfl, rfl, further⟩ := cuts.uncons
    obtain ⟨taken, later, rfl, size, moved⟩ :=
      ih (by rw [String.append_assoc, whole]) further
    refine ⟨first ++ taken, later, String.append_assoc, ?_, ?_⟩
    · rw [String.utf8ByteSize_append, size, List.sum_cons]
    · rw [advanceAll, List.foldl_cons, advance_behind whole, ← String.append_assoc]
      exact moved

/-! ### What a cursor shows -/

/-- **The cursor stands in `source` behind `bytes` bytes.** All others are still to be read, it is
at the end just if there are none, and its line and column are counted in the text that it
passed. -/
structure StandsAt (cursor : Cursor) (source : String) (bytes : Nat) : Prop where
  remainder :
    cursor.remainder.toByteArray = source.toByteArray.extract bytes source.utf8ByteSize
  atEnd : cursor.atEnd = true ↔ cursor.remainder = ""
  position : ∃ consumed : String, consumed.toByteArray = source.toByteArray.extract 0 bytes ∧
    cursor.position.Behind consumed.toList

theorem standsAt_behind {before later : String}
    (short : (before ++ later).length < UInt32.size - 1) :
    (behind (before ++ later) before).StandsAt (before ++ later) before.utf8ByteSize := by
  refine ⟨?_, ?_, before, (front_bytes before later).symm, behind_start ?_⟩
  · rw [remainder_behind rfl, back_bytes]
  · rw [remainder_behind rfl, atEnd_behind rfl]
  · rw [String.length_append] at short
    rw [String.length_toList]
    omega

/-- **Where a cursor stands depends only on the sum of its moves**, provided that each one ends
between two characters: it stands behind as many bytes, and other such moves with the same sum
take it to the same place. -/
theorem advanceAll_exact {source : String} {lengths : List Nat}
    (short : source.length < UInt32.size - 1) (cuts : OnBoundaries source lengths) :
    ((ofText source).advanceAll lengths).StandsAt source lengths.sum ∧
      ∀ others, OnBoundaries source others → others.sum = lengths.sum →
        (ofText source).advanceAll others = (ofText source).advanceAll lengths := by
  rw [ofText_eq_behind]
  obtain ⟨taken, later, rfl, size, moved⟩ := exists_advanceAll_behind String.empty_append cuts
  rw [moved, String.empty_append, ← size]
  refine ⟨standsAt_behind short, fun others otherCuts sameSum => ?_⟩
  obtain ⟨other, rest, same, otherSize, otherMoved⟩ :=
    exists_advanceAll_behind String.empty_append otherCuts
  rw [otherMoved, String.empty_append, front_unique same (otherSize.trans sameSum)]

/-- Two ways through a character of two bytes, a line feed and a character of four bytes, of which
the first stops more often and once moves by nothing. -/
theorem advanceAll_exact_split :
    let source := "é\n😀x"
    let lengths := [2, 0, 1, 4]
    let others := [3, 4]
    source.length < UInt32.size - 1 ∧ OnBoundaries source lengths ∧
      OnBoundaries source others ∧ others.sum = lengths.sum ∧
      ((ofText source).advanceAll lengths).StandsAt source lengths.sum ∧
      (ofText source).advanceAll others = (ofText source).advanceAll lengths ∧
      ((ofText source).advanceAll lengths).position = ⟨2, 2⟩ := by
  intro source lengths others
  have short : source.length < UInt32.size - 1 := by decide
  have cuts : OnBoundaries source lengths := by decide
  have otherCuts : OnBoundaries source others := by decide
  obtain ⟨stands, same⟩ := advanceAll_exact short cuts
  exact ⟨short, cuts, otherCuts, rfl, stands, same others otherCuts rfl, by decide +kernel⟩

end Cursor

end TypedImp
