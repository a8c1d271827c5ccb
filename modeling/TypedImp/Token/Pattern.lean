/-
**The lexical patterns.**

Fifteen patterns describe what may stand next in a source text: two of them are skipped, the others
make tokens. They are tried in the order of `Pattern.table`, which puts a comment before a division,
a float before an integer and a two-character operator before its first character.

* `Pattern.lexeme?` — the characters that a pattern takes from the front of a text. They are not
  empty and stand at the front (`front_of_lexeme?`).
* `firstLexeme?` — the first pattern in the order of the table that takes anything.
-/

import TypedImp.Text.Blank
import TypedImp.Token.Reserved

namespace TypedImp

open Text (isBlank)

/-- The lexical patterns. -/
inductive Pattern
  | blanks
  | comment
  | string
  | float
  | int
  | word
  | operator
  | mark (kind : Token.Kind) (character : Char)
  deriving DecidableEq, Repr

namespace Pattern

/-- The patterns in the order in which they are tried. -/
def table : List Pattern :=
  [blanks, comment, string, float, int, word, operator,
    mark .parenthesis '(', mark .parenthesis ')',
    mark .brackets '\x7b', mark .brackets '\x7d', mark .brackets '[', mark .brackets ']',
    mark .punctuation ';', mark .punctuation ',']

/-- The operators of two characters. -/
def operatorPairs : List (Char × Char) :=
  [('=', '='), ('!', '='), ('<', '='), ('>', '='), ('+', '='), ('-', '='), ('*', '='), ('/', '='),
    ('&', '&'), ('|', '|'), ('+', '+'), ('-', '-')]

/-- The operators of one character. -/
def operatorMarks : List Char :=
  ['-', '+', '*', '/', '%', '^', '<', '>', '=', '!']

/-- Whether a word may start with `c`: an ASCII letter or an underscore. -/
def startsWord (c : Char) : Bool :=
  c.isAlpha || c == '_'

/-- Whether a word may go on with `c`: an ASCII letter, an ASCII digit or an underscore. -/
def continuesWord (c : Char) : Bool :=
  c.isAlphanum || c == '_'

/-- A run of characters, unless it is empty. -/
def nonempty? (run : List Char) : Option (List Char) :=
  if run.isEmpty then none else some run

/-- The rest of a string literal behind its opening quote, with the closing quote. A backslash takes
the next character with it, whichever it is but a line feed. -/
def stringRest? : List Char → Option (List Char)
  | [] => none
  | '"' :: _ => some ['"']
  | ['\\'] => none
  | '\\' :: c :: cs => if c = '\n' then none else (stringRest? cs).map ('\\' :: c :: ·)
  | c :: cs => (stringRest? cs).map (c :: ·)

/-- Digits, a point and digits. -/
def float? (cs : List Char) : Option (List Char) :=
  let whole := cs.takeWhile Char.isDigit
  match cs.dropWhile Char.isDigit with
  | '.' :: behind =>
    let fraction := behind.takeWhile Char.isDigit
    if whole.isEmpty || fraction.isEmpty then none else some (whole ++ '.' :: fraction)
  | _ => none

/-- An operator of two characters or else one of one character. -/
def operator? : List Char → Option (List Char)
  | [] => none
  | [c] => if c ∈ operatorMarks then some [c] else none
  | c :: d :: _ =>
    if (c, d) ∈ operatorPairs then some [c, d] else if c ∈ operatorMarks then some [c] else none

/-- The characters that the pattern takes from the front of a text. -/
def lexeme? : Pattern → List Char → Option (List Char)
  | blanks, cs => nonempty? (cs.takeWhile isBlank)
  | comment, '/' :: '/' :: cs => some ('/' :: '/' :: cs.takeWhile (· != '\n'))
  | comment, _ => none
  | string, '"' :: cs => (stringRest? cs).map ('"' :: ·)
  | string, _ => none
  | float, cs => float? cs
  | int, cs => nonempty? (cs.takeWhile Char.isDigit)
  | word, c :: cs => if startsWord c then some (c :: cs.takeWhile continuesWord) else none
  | word, [] => none
  | operator, cs => operator? cs
  | mark _ character, c :: _ => if c = character then some [c] else none
  | mark _ _, [] => none

/-- The kind of the token that a lexeme of the pattern makes, unless the pattern is skipped. -/
def kind? (pattern : Pattern) (lexeme : List Char) : Option Token.Kind :=
  match pattern with
  | blanks | comment => none
  | string => some .string
  | float => some .float
  | int => some .int
  | word => some (wordKind (String.ofList lexeme))
  | operator => some .operator
  | mark kind _ => some kind

/-! ### A lexeme stands at the front and is not empty -/

/-- A lexeme stands at the front of the text and is not empty. -/
def Front (lexeme cs : List Char) : Prop :=
  lexeme ≠ [] ∧ ∃ behind, cs = lexeme ++ behind

theorem front_of_takeWhile {p : Char → Bool} {cs lexeme : List Char}
    (found : nonempty? (cs.takeWhile p) = some lexeme) : Front lexeme cs := by
  unfold nonempty? at found
  split at found
  · cases found
  · rename_i filled
    cases found
    exact ⟨by simpa using filled, cs.dropWhile p, List.takeWhile_append_dropWhile.symm⟩

theorem stringRest?_append {cs lexeme : List Char} (found : stringRest? cs = some lexeme) :
    ∃ behind, cs = lexeme ++ behind := by
  fun_induction stringRest? cs generalizing lexeme with
  | case1 => cases found
  | case2 cs => cases found; exact ⟨cs, rfl⟩
  | case3 => cases found
  | case4 => cases found
  | case5 c cs other ih =>
    obtain ⟨inner, taken, rfl⟩ := Option.map_eq_some_iff.mp found
    obtain ⟨behind, rfl⟩ := ih taken
    exact ⟨behind, rfl⟩
  | case6 c cs _ _ _ ih =>
    obtain ⟨inner, taken, rfl⟩ := Option.map_eq_some_iff.mp found
    obtain ⟨behind, rfl⟩ := ih taken
    exact ⟨behind, rfl⟩

theorem front_of_float? {cs lexeme : List Char} (found : float? cs = some lexeme) :
    Front lexeme cs := by
  unfold float? at found
  split at found
  · rename_i behind point
    dsimp only at found
    split at found
    · cases found
    · cases found
      refine ⟨by simp, behind.dropWhile Char.isDigit, ?_⟩
      rw [List.append_assoc, List.cons_append, List.takeWhile_append_dropWhile, ← point,
        List.takeWhile_append_dropWhile]
  · cases found

theorem front_of_operator? {cs lexeme : List Char} (found : operator? cs = some lexeme) :
    Front lexeme cs := by
  unfold operator? at found
  split at found
  · cases found
  · split at found <;> cases found
    exact ⟨by simp, [], rfl⟩
  · rename_i c d cs
    split at found
    · cases found; exact ⟨by simp, cs, rfl⟩
    · split at found <;> cases found
      exact ⟨by simp, d :: cs, rfl⟩

theorem front_of_lexeme? {pattern : Pattern} {cs lexeme : List Char}
    (found : pattern.lexeme? cs = some lexeme) : Front lexeme cs := by
  unfold lexeme? at found
  split at found
  · exact front_of_takeWhile found
  · rename_i cs
    cases found
    exact ⟨by simp, cs.dropWhile (· != '\n'), by simp [List.takeWhile_append_dropWhile]⟩
  · cases found
  · obtain ⟨inner, taken, rfl⟩ := Option.map_eq_some_iff.mp found
    obtain ⟨behind, rfl⟩ := stringRest?_append taken
    exact ⟨by simp, behind, rfl⟩
  · cases found
  · exact front_of_float? found
  · exact front_of_takeWhile found
  · rename_i c cs
    split at found <;> cases found
    exact ⟨by simp, cs.dropWhile continuesWord, by simp [List.takeWhile_append_dropWhile]⟩
  · cases found
  · exact front_of_operator? found
  · rename_i c cs
    split at found <;> cases found
    exact ⟨by simp, cs, rfl⟩
  · cases found

end Pattern

/-- The first pattern in the order of the table that takes anything, and what it takes. -/
def firstLexeme? (cs : List Char) : Option (Pattern × List Char) :=
  Pattern.table.findSome? fun pattern => (pattern.lexeme? cs).map (pattern, ·)

theorem front_of_firstLexeme? {cs lexeme : List Char} {pattern : Pattern}
    (found : firstLexeme? cs = some (pattern, lexeme)) : Pattern.Front lexeme cs := by
  obtain ⟨tried, _, taken⟩ := List.exists_of_findSome?_eq_some found
  obtain ⟨inner, taken, same⟩ := Option.map_eq_some_iff.mp taken
  cases same
  exact Pattern.front_of_lexeme? taken

end TypedImp
