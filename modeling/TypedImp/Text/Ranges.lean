/-
**Classes of characters given by ranges of code points.**

A class is a list of ranges, each with its first and its last code point. The tables of blank
characters and of characters written by number are of this form.
-/

namespace TypedImp.Text

/-- A range of code points, both ends included. -/
structure CodeRange where
  first : Nat
  last : Nat
  deriving DecidableEq, Repr

namespace CodeRange

/-- Whether the code point of `c` lies in the range. -/
def holds (range : CodeRange) (c : Char) : Bool :=
  range.first ≤ c.toNat && c.toNat ≤ range.last

theorem holds_iff {range : CodeRange} {c : Char} :
    range.holds c = true ↔ range.first ≤ c.toNat ∧ c.toNat ≤ range.last := by
  simp [holds]

end CodeRange

end TypedImp.Text
