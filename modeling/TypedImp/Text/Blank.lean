/-
**Blank characters.**

`isBlank` is the Unicode property White_Space: besides the six ASCII blanks it holds of the line and
paragraph separators, the no-break spaces and the typographic spaces
(`isBlank_of_isWhitespace`).
-/

import TypedImp.Text.Ranges

namespace TypedImp.Text

/-- The code points with the property White_Space. -/
def blankRanges : List CodeRange :=
  [⟨0x9, 0xD⟩, ⟨0x20, 0x20⟩, ⟨0x85, 0x85⟩, ⟨0xA0, 0xA0⟩, ⟨0x1680, 0x1680⟩, ⟨0x2000, 0x200A⟩,
    ⟨0x2028, 0x2029⟩, ⟨0x202F, 0x202F⟩, ⟨0x205F, 0x205F⟩, ⟨0x3000, 0x3000⟩]

/-- Whether `c` is blank. -/
def isBlank (c : Char) : Bool :=
  blankRanges.any (·.holds c)

/-- A character that counts as whitespace among the ASCII characters is blank. -/
theorem isBlank_of_isWhitespace {c : Char} (white : c.isWhitespace = true) : isBlank c = true := by
  simp only [Char.isWhitespace, Bool.or_eq_true, decide_eq_true_eq] at white
  rcases white with ((rfl | rfl) | rfl) | rfl <;> decide

end TypedImp.Text
